import Lanspeed.Conntrack.Procfs

/-!
# Conntrack entries and how the kernel shows them

An entry of the connection tracking table, the words of its line in `/proc/net/nf_conntrack` and in
`/proc/net/ip_conntrack`, and its ctnetlink message. An offloaded entry has neither a timeout nor a
TCP state in its line, and no protocol information in its message.
-/

namespace Lanspeed

open CText Bytes

/-! ## Entries -/

/-- The network protocol of an entry. -/
inductive CtFamily where
  | ipv4
  | ipv6
deriving DecidableEq, Repr

/-- The length of an address. -/
def CtFamily.addrLen : CtFamily → ℕ
  | .ipv4 => 4
  | .ipv6 => 16

/-- An address in network byte order. -/
structure CtAddr (family : CtFamily) where
  bytes : List UInt8
  length_eq : bytes.length = family.addrLen
deriving DecidableEq

/-- The ports of a tuple. -/
structure CtPorts where
  sport : UInt16
  dport : UInt16
deriving DecidableEq, Repr

/-- A word that neither names a source or a byte count, nor stands for a flag or a protocol that the
reader knows. -/
structure NeutralWord (w : CStr) : Prop where
  not_src : (wordKind w).source = none
  not_bytes : (wordKind w).byteCount = none
  not_assured : (wordKind w).isAssured = false
  not_tcp : w ≠ "tcp".toList
  not_udp : w ≠ "udp".toList

/-- A protocol other than TCP and UDP: its name and number, what its lines have behind the timeout
and in the tuples (the type and code of ICMP, the ports of SCTP), and the same in its messages. -/
structure CtOther where
  name : CStr
  number : UInt8
  stateWords : List CStr
  origWords : List CStr
  replyWords : List CStr
  origAttrs : List NlAttr
  replyAttrs : List NlAttr
  protoinfo : List NlAttr
  number_ne_tcp : number ≠ ipprotoTcp
  number_ne_udp : number ≠ ipprotoUdp
  name_neutral : NeutralWord name
  words_neutral : ∀ w ∈ stateWords ++ origWords ++ replyWords, NeutralWord w
  -- `CTA_PROTO_NUM` is the entry's own, and `CTA_PROTOINFO_TCP` belongs to TCP.
  origAttrs_type : ∀ attr ∈ origAttrs, attr.type ≠ 1
  replyAttrs_type : ∀ attr ∈ replyAttrs, attr.type ≠ 1
  protoinfo_type : ∀ attr ∈ protoinfo, attr.type ≠ 1

/-- The transport protocol of an entry, with its ports and the state of TCP. -/
inductive CtProto where
  | tcp (state : TcpConntrack) (orig reply : CtPorts)
  | udp (orig reply : CtPorts)
  | other (proto : CtOther)

/-- The packets and bytes that the kernel has counted in both directions. -/
structure CtCounters where
  origPackets : UInt64
  origBytes : UInt64
  replyPackets : UInt64
  replyBytes : UInt64
deriving DecidableEq, Repr

/-- An entry. It has counters where accounting is on. The words and attributes that are shown of it
beside its own (zone, mark, use) are of other kinds. -/
structure CtEntry where
  family : CtFamily
  origSrc : CtAddr family
  origDst : CtAddr family
  replySrc : CtAddr family
  replyDst : CtAddr family
  proto : CtProto
  status : UInt32
  timeout : ℕ
  counters : Option CtCounters
  origMarks : List CStr := []
  replyMarks : List CStr := []
  marks : List CStr := []
  attrs : List NlAttr := []
  marks_other : ∀ w ∈ origMarks ++ replyMarks ++ marks, wordKind w = .other
  attrs_type : ∀ attr ∈ attrs, attr.type ∉ [1, 2, 3, 4, 9, 10]

/-- `IPS_SEEN_REPLY` -/
def CtEntry.seenReply (e : CtEntry) : Bool := e.status.toNat.testBit 1

/-- `IPS_ASSURED` -/
def CtEntry.assured (e : CtEntry) : Bool := e.status.toNat.testBit 2

/-- `IPS_HW_OFFLOAD` -/
def CtEntry.hwOffload (e : CtEntry) : Bool := e.status.toNat.testBit 15

/-- `IPS_OFFLOAD` or `IPS_HW_OFFLOAD` -/
def CtEntry.offloaded (e : CtEntry) : Bool := e.status.toNat.testBit 14 || e.hwOffload

/-! ## Lines -/

/-- The files that `open_conntrack_procfs` opens. -/
inductive ProcfsFile where
  | nfConntrack
  | ipConntrack
deriving DecidableEq, Repr

/-- The columns of the network protocol. -/
def CtFamily.words : CtFamily → List CStr
  | .ipv4 => ["ipv4".toList, "2".toList]
  | .ipv6 => ["ipv6".toList, "10".toList]

/-- `%pI6`: all groups with all their digits. -/
def kernelIp6 (addr : List UInt8) : CStr :=
  [':'].intercalate
    ((List.range 8).map fun i => hexByte (addr.getD (2 * i) 0) ++ hexByte (addr.getD (2 * i + 1) 0))

/-- The text of an address in a line. -/
def CtAddr.kernelText : {family : CtFamily} → CtAddr family → CStr
  | .ipv4, addr => inetNtop4 addr.bytes
  | .ipv6, addr => kernelIp6 addr.bytes

/-- The names of `tcp_conntrack_names`. -/
def TcpConntrack.name : TcpConntrack → CStr
  | .none => "NONE".toList
  | .synSent => "SYN_SENT".toList
  | .synRecv => "SYN_RECV".toList
  | .established => "ESTABLISHED".toList
  | .finWait => "FIN_WAIT".toList
  | .closeWait => "CLOSE_WAIT".toList
  | .lastAck => "LAST_ACK".toList
  | .timeWait => "TIME_WAIT".toList
  | .close => "CLOSE".toList
  | .synSent2 => "SYN_SENT2".toList

/-- The number of the protocol. -/
def CtProto.number : CtProto → UInt8
  | .tcp .. => ipprotoTcp
  | .udp .. => ipprotoUdp
  | .other proto => proto.number

/-- The name of the protocol in a line. -/
def CtProto.name : CtProto → CStr
  | .tcp .. => "tcp".toList
  | .udp .. => "udp".toList
  | .other proto => proto.name

def CtPorts.words (ports : CtPorts) : List CStr :=
  ["sport=".toList ++ decimal ports.sport.toNat, "dport=".toList ++ decimal ports.dport.toNat]

/-- What the protocol prints of the original tuple. -/
def CtProto.origWords : CtProto → List CStr
  | .tcp _ orig _ => orig.words
  | .udp orig _ => orig.words
  | .other proto => proto.origWords

/-- What the protocol prints of the reply tuple. -/
def CtProto.replyWords : CtProto → List CStr
  | .tcp _ _ reply => reply.words
  | .udp _ reply => reply.words
  | .other proto => proto.replyWords

/-- What the protocol prints behind the timeout. -/
def CtProto.stateWords (offloaded : Bool) : CtProto → List CStr
  | .tcp state _ _ => if offloaded then [] else [state.name]
  | .udp .. => []
  | .other proto => proto.stateWords

def CtEntry.timeoutWords (e : CtEntry) : List CStr :=
  if e.offloaded then [] else [decimal e.timeout]

/-- The addresses of a tuple in a line. -/
def addrWords {family : CtFamily} (src dst : CtAddr family) : List CStr :=
  ["src=".toList ++ src.kernelText, "dst=".toList ++ dst.kernelText]

/-- The counters of a direction in a line. -/
def acctWords (packets bytes : UInt64) : List CStr :=
  ["packets=".toList ++ decimal packets.toNat, "bytes=".toList ++ decimal bytes.toNat]

/-- What a line has of the original direction. -/
def CtEntry.origWords (e : CtEntry) : List CStr :=
  addrWords e.origSrc e.origDst ++ e.proto.origWords ++ e.origMarks ++
    match e.counters with
    | none => []
    | some c => acctWords c.origPackets c.origBytes

/-- What a line has of the reply direction. -/
def CtEntry.replyWords (e : CtEntry) : List CStr :=
  addrWords e.replySrc e.replyDst ++ e.proto.replyWords ++ e.replyMarks ++
    match e.counters with
    | none => []
    | some c => acctWords c.replyPackets c.replyBytes

/-- The flag between the tuples. -/
def CtEntry.repliedWords (e : CtEntry) : List CStr :=
  if e.seenReply then [] else ["[UNREPLIED]".toList]

/-- The flag behind the tuples. -/
def CtEntry.flagWords (e : CtEntry) : List CStr :=
  if e.hwOffload then ["[HW_OFFLOAD]".toList]
  else if e.offloaded then ["[OFFLOAD]".toList]
  else if e.assured then ["[ASSURED]".toList]
  else []

/-- A line from the transport protocol on. -/
def CtEntry.protoWords (e : CtEntry) : List CStr :=
  e.proto.name :: decimal e.proto.number.toNat :: (e.timeoutWords ++
    e.proto.stateWords e.offloaded ++ e.origWords ++ e.repliedWords ++
    e.replyWords ++ e.flagWords ++
    e.marks)

/-- The words of the line of an entry. The older file lacks the columns of the network protocol. -/
def CtEntry.words (e : CtEntry) : ProcfsFile → List CStr
  | .nfConntrack => e.family.words ++ e.protoWords
  | .ipConntrack => e.protoWords

/-- Where the names of the protocols are among the words of a line. -/
def ProcfsFile.names : ProcfsFile → List ℕ
  | .nfConntrack => [0, 2]
  | .ipConntrack => [0]

/-- The white space behind the word at a place of a line with `count` words. -/
def gapBehind (file : ProcfsFile) (count : ℕ) (w : CStr) (place : ℕ) : CStr :=
  if place ∈ file.names then ' ' :: List.replicate (8 - w.length) ' '  -- `%-8s `
  else if place + 1 = count then ['\n']
  else [' ']

/-- The line that the kernel prints of an entry. -/
def CtEntry.kernelLine (e : CtEntry) (file : ProcfsFile) : CStr :=
  let words := e.words file
  (words.zipIdx.map fun row => (row.1, gapBehind file words.length row.1 row.2)).flatMap
    fun row => row.1 ++ row.2

/-- A line that shows an entry: some white space between the words, and room for it in the buffers
of the reader. -/
structure ProcfsLine (file : ProcfsFile) (e : CtEntry) where
  text : CStr
  fits : text.length < conntrackLineMax
  words_eq : tokens isConntrackDelim text = e.words file

/-- The ports that the lines of a protocol show. Beside TCP and UDP there are protocols with ports,
and those whose lines have none. -/
inductive CtProto.ShowsPorts : CtProto → CtPorts → CtPorts → Prop
  | tcp (state : TcpConntrack) (orig reply : CtPorts) :
    ShowsPorts (.tcp state orig reply) orig reply
  | udp (orig reply : CtPorts) : ShowsPorts (.udp orig reply) orig reply
  | ported {proto : CtOther} {orig reply : CtPorts}
    (hstate : ∀ w ∈ proto.name :: proto.stateWords, wordKind w = .other)
    (horig : proto.origWords = orig.words) (hreply : proto.replyWords = reply.words) :
    ShowsPorts (.other proto) orig reply
  | portless {proto : CtOther}
    (hwords : ∀ w ∈ proto.name :: proto.stateWords ++ proto.origWords ++ proto.replyWords,
      wordKind w = .other) :
    ShowsPorts (.other proto) ⟨0, 0⟩ ⟨0, 0⟩

/-! ## Messages -/

/-- `CTA_TUPLE_IP` -/
def addrAttr {family : CtFamily} (src dst : CtAddr family) : NlAttr :=
  .nest 1 <| match family with
    | .ipv4 => [.data 1 src.bytes, .data 2 dst.bytes]
    | .ipv6 => [.data 3 src.bytes, .data 4 dst.bytes]

def CtPorts.attrs (ports : CtPorts) : List NlAttr :=
  [.data 2 (bigEndian 2 ports.sport.toNat), .data 3 (bigEndian 2 ports.dport.toNat)]

/-- What the protocol adds to the original tuple. -/
def CtProto.origAttrs : CtProto → List NlAttr
  | .tcp _ orig _ => orig.attrs
  | .udp orig _ => orig.attrs
  | .other proto => proto.origAttrs

/-- What the protocol adds to the reply tuple. -/
def CtProto.replyAttrs : CtProto → List NlAttr
  | .tcp _ _ reply => reply.attrs
  | .udp _ reply => reply.attrs
  | .other proto => proto.replyAttrs

/-- `CTA_TUPLE_PROTO` -/
def protoAttr (number : UInt8) (attrs : List NlAttr) : NlAttr :=
  .nest 2 (.data 1 [number] :: attrs)

/-- `CTA_PROTOINFO` -/
def CtProto.protoinfo : CtProto → List NlAttr
  | .tcp state _ _ => [.nest 4 [.nest 1 [.data 1 [UInt8.ofNat state.number]]]]
  | .udp .. => []
  | .other proto => [.nest 4 proto.protoinfo]

/-- `CTA_COUNTERS_ORIG` or `CTA_COUNTERS_REPLY`. -/
def countersAttr (type : ℕ) (packets bytes : UInt64) : NlAttr :=
  .nest type [.data 1 (bigEndian 8 packets.toNat), .data 2 (bigEndian 8 bytes.toNat)]

/-- The attributes of the message of an entry. The reader takes no notice of the others that the
nests have in the kernel. -/
def CtEntry.message (e : CtEntry) : List NlAttr :=
  [.nest 1 [addrAttr e.origSrc e.origDst, protoAttr e.proto.number e.proto.origAttrs],
    .nest 2 [addrAttr e.replySrc e.replyDst, protoAttr e.proto.number e.proto.replyAttrs],
    .data 3 (bigEndian 4 e.status.toNat)] ++
  (match e.counters with
    | none => []
    | some c =>
      [countersAttr 9 c.origPackets c.origBytes, countersAttr 10 c.replyPackets c.replyBytes]) ++
  (if e.offloaded then [] else e.proto.protoinfo) ++ e.attrs

/-! ## The texts of addresses -/

theorem length_decimal_byte_le (b : UInt8) : (decimal b.toNat).length ≤ 3 :=
  (Nat.length_toDigits_le_iff (by decide) (by decide)).mpr (b.toNat_lt.trans (by decide))

/-- An IPv4 text has at most 15 characters. -/
theorem length_inetNtop4_le (addr : List UInt8) : (inetNtop4 addr).length ≤ 15 := by
  have h := fun i => length_decimal_byte_le (addr.getD i 0)
  have h0 := h 0
  have h1 := h 1
  have h2 := h 2
  have h3 := h 3
  simp only [inetNtop4, List.length_append, List.length_cons]
  omega

/-- A group of an IPv6 text has at most four digits. -/
theorem length_group_le (addr : List UInt8) (i : ℕ) :
    (hexadecimal (ip6Group addr i)).length ≤ 4 := by
  apply (Nat.length_toDigits_le_iff (by decide) (by decide)).mpr
  have h0 := (addr.getD (2 * i) 0).toNat_lt
  have h1 := (addr.getD (2 * i + 1) 0).toNat_lt
  rw [ip6Group]
  omega

/-- Groups with their separators have at most five characters each. -/
theorem length_ip6Groups_le (addr : List UInt8) (count : ℕ) :
    (ip6Groups addr count).length ≤ 5 * count := by
  induction count with
  | zero => exact Nat.le_refl 0
  | succ count ih =>
    have h := length_group_le addr count
    rw [ip6Groups] at ih ⊢
    simp only [List.range_succ, List.flatMap_append, List.length_append, List.flatMap_singleton,
      List.length_singleton]
    omega

/-- An IPv6 text without a gap has at most 45 characters. -/
theorem length_ip6FullText_le (addr : List UInt8) : (ip6FullText addr).length ≤ 45 := by
  have h6 := length_ip6Groups_le addr 6
  have h7 := length_ip6Groups_le addr 7
  have h4 := length_inetNtop4_le (addr.drop 12)
  have hg := length_group_le addr 7
  rw [ip6FullText]
  split_ifs
  · rw [List.length_append]; omega
  · rw [List.length_append]; omega

/-- The run that is cut out lies in the text. -/
theorem ip6BestRun_le (text : CStr) :
    (ip6BestRun text).2 ≤ 2 ∨ (ip6BestRun text).1 + (ip6BestRun text).2 ≤ text.length := by
  rw [ip6BestRun]
  refine List.foldlRecOn (motive := fun best : ℕ × ℕ => best.2 ≤ 2 ∨ best.1 + best.2 ≤ text.length)
    (List.range text.length) _ (Or.inl (Nat.le_refl 2)) fun best hbest i hi => ?_
  have hlen := (List.takeWhile_prefix (fun c => c == ':' || c == '0') (l := text.drop i)).length_le
  have hi := List.mem_range.mp hi
  rw [List.length_drop] at hlen
  dsimp only
  split_ifs
  · exact hbest
  · right; dsimp only; omega
  · exact hbest

/-- An IPv6 text has at most 45 characters. -/
theorem length_inetNtop6_le (addr : List UInt8) : (inetNtop6 addr).length ≤ 45 := by
  have hfull := length_ip6FullText_le addr
  have hrun := ip6BestRun_le (ip6FullText addr)
  rw [inetNtop6]
  split_ifs with hlong
  · simp only [List.length_append, List.length_take, List.length_cons, List.length_drop]
    omega
  · exact hfull

theorem length_kernelIp6 (addr : List UInt8) : (kernelIp6 addr).length = 39 := by
  simp [kernelIp6, List.range_succ, List.intercalate, List.intersperse, hexByte]

/-- The text that `inet_ntop` makes of an address. -/
def CtAddr.ntopText : {family : CtFamily} → CtAddr family → CStr
  | .ipv4, addr => inetNtop4 addr.bytes
  | .ipv6, addr => inetNtop6 addr.bytes

/-- Both texts of an address fit in the buffer of the reader. -/
theorem CtAddr.length_ntopText_lt {family : CtFamily} (addr : CtAddr family) :
    addr.ntopText.length < ipStrLen := by
  apply Nat.lt_succ_of_le
  cases family with
  | ipv4 => exact (length_inetNtop4_le addr.bytes).trans (by decide)
  | ipv6 => exact length_inetNtop6_le addr.bytes

/-- The text of an address in a line fits in `IP_STR_LEN`. -/
theorem CtAddr.length_kernelText_lt {family : CtFamily} (addr : CtAddr family) :
    addr.kernelText.length < ipStrLen := by
  apply Nat.lt_succ_of_le
  cases family with
  | ipv4 => exact (length_inetNtop4_le addr.bytes).trans (by decide)
  | ipv6 => exact (length_kernelIp6 addr.bytes).le.trans (by decide)

/-! ## The words of a line -/

/-- A text does not start with one that starts otherwise. -/
theorem startsWith_false {c d : Char} (h : c ≠ d) (cs ds : CStr) :
    startsWith (c :: cs) (d :: ds) = false := by
  rw [startsWith, List.isPrefixOf_cons_cons, beq_false_of_ne h.symm, Bool.false_and]

/-- A word whose first character starts no key is of no kind. -/
theorem wordKind_of_head {c : Char} (cs : CStr) (hs : c ≠ 's') (hd : c ≠ 'd') (hb : c ≠ 'b')
    (hflag : c ≠ '[') : wordKind (c :: cs) = .other := by
  have hassured : c :: cs ≠ "[ASSURED]".toList := fun h => hflag (List.cons.inj h).1
  have hkey := fun d (h : c ≠ d) (ds : CStr) => Bool.eq_false_iff.mp (startsWith_false h cs ds)
  have hsrc := hkey 's' hs "rc=".toList
  have hsport := hkey 's' hs "port=".toList
  have hdport := hkey 'd' hd "port=".toList
  have hbytes := hkey 'b' hb "ytes=".toList
  exact (if_neg hsrc).trans ((if_neg hsport).trans ((if_neg hdport).trans ((if_neg hbytes).trans
    (if_neg hassured))))

/-- A decimal number is no word that the reader looks for. -/
theorem wordKind_decimal (n : ℕ) : wordKind (decimal n) = .other := by
  have hne : decimal n ≠ [] := Nat.toDigits_ne_nil
  obtain ⟨c, cs, hcs⟩ := List.exists_cons_of_ne_nil hne
  have hc : c.isDigit = true :=
    Nat.isDigit_of_mem_toDigits (by decide) (by decide) (hcs ▸ List.mem_cons_self)
  rw [hcs]
  refine wordKind_of_head cs ?_ ?_ ?_ ?_ <;> rintro rfl <;> exact absurd hc (by decide)

/-- The words of a family are none that the reader looks for. -/
theorem wordKind_familyWords (family : CtFamily) : ∀ w ∈ family.words, wordKind w = .other := by
  cases family with
  | ipv4 => exact List.forall_mem_cons.mpr ⟨rfl, List.forall_mem_singleton.mpr rfl⟩
  | ipv6 => exact List.forall_mem_cons.mpr ⟨rfl, List.forall_mem_singleton.mpr rfl⟩

theorem wordKind_stateName (state : TcpConntrack) : wordKind state.name = .other := by
  cases state <;> rfl

theorem strtoull_decimal64 (n : UInt64) : strtoull (decimal n.toNat) = some n.toNat :=
  strtoull_toDigits n.toNat_lt

/-- `port_of` reads back a port. -/
theorem portOf_decimal (port : UInt16) : portOf (decimal port.toNat) = some port := by
  have hport : port.toNat ≤ 65535 := Nat.le_of_lt_succ port.toNat_lt
  have hread : strtoull (decimal port.toNat) = some port.toNat :=
    strtoull_toDigits (port.toNat_lt.trans (by decide))
  rw [portOf, hread]
  dsimp only
  rw [if_pos hport, UInt16.ofNat_toNat]

section Pick

variable {α : Type*} {get : WordKind → Option α}

theorem pick_append (ws ws' : List CStr) : pick get (ws ++ ws') = pick get ws ++ pick get ws' :=
  List.filterMap_append

/-- What is picked from the first word comes before what is picked from the others. -/
theorem pick_cons (w : CStr) (ws : List CStr) :
    pick get (w :: ws) = (get (wordKind w)).toList ++ pick get ws := by
  rw [pick, List.filterMap_cons]
  cases get (wordKind w) <;> rfl

theorem pick_nil : pick get [] = [] := rfl

theorem pick_eq_nil {ws : List CStr} (h : ∀ w ∈ ws, get (wordKind w) = none) : pick get ws = [] :=
  List.filterMap_eq_nil_iff.mpr h

variable (hother : get .other = none)
include hother

/-- From the words of the addresses only the source can be picked. -/
theorem pick_addrWords {family : CtFamily} (src dst : CtAddr family) :
    pick get (addrWords src dst) = (get (.src src.kernelText)).toList := by
  have hsrc : wordKind ("src=".toList ++ src.kernelText) = .src src.kernelText := rfl
  have hdst : wordKind ("dst=".toList ++ dst.kernelText) = .other := rfl
  rw [addrWords, pick_cons, pick_cons, hsrc, hdst, hother, pick_nil]
  exact List.append_nil _

/-- From the words of the counters only the bytes can be picked. -/
theorem pick_acctWords (packets bytes : UInt64) :
    pick get (acctWords packets bytes) = (get (.bytes bytes.toNat)).toList := by
  have hpackets : wordKind ("packets=".toList ++ decimal packets.toNat) = .other := rfl
  have hbytes : wordKind ("bytes=".toList ++ decimal bytes.toNat) = .bytes bytes.toNat := by
    have hread : strtoull (("bytes=".toList ++ decimal bytes.toNat).drop 6) = some bytes.toNat :=
      strtoull_decimal64 bytes
    rw [wordKind, hread]
    rfl
  rw [acctWords, pick_cons, pick_cons, hpackets, hbytes, hother, pick_nil]
  exact List.append_nil _

omit hother in
/-- From the words of the ports the source port and the destination port can be picked. -/
theorem pick_portWords (ports : CtPorts) :
    pick get ports.words
      = (get (.sport (some ports.sport))).toList ++ (get (.dport (some ports.dport))).toList := by
  have hsport : wordKind ("sport=".toList ++ decimal ports.sport.toNat)
      = .sport (portOf (decimal ports.sport.toNat)) := rfl
  have hdport : wordKind ("dport=".toList ++ decimal ports.dport.toNat)
      = .dport (portOf (decimal ports.dport.toNat)) := rfl
  rw [CtPorts.words, pick_cons, pick_cons, hsport, hdport, portOf_decimal, portOf_decimal, pick_nil,
    List.append_nil]

/-- The flag of an entry is `[ASSURED]` where it is not offloaded. -/
theorem CtEntry.pick_flagWords (e : CtEntry) :
    pick get e.flagWords = if e.assured && !e.offloaded then (get .assured).toList else [] := by
  have hhw : wordKind "[HW_OFFLOAD]".toList = .other := rfl
  have hsw : wordKind "[OFFLOAD]".toList = .other := rfl
  have hkind : wordKind "[ASSURED]".toList = .assured := rfl
  rw [flagWords]
  cases hoff : e.offloaded with
  | true =>
    rw [Bool.not_true, Bool.and_false, if_neg Bool.false_ne_true, if_pos rfl]
    split_ifs
    · rw [pick_cons, hhw, hother]
      rfl
    · rw [pick_cons, hsw, hother]
      rfl
  | false =>
    have hhwoff : e.hwOffload = false := (Bool.or_eq_false_iff.mp hoff).2
    rw [hhwoff, if_neg Bool.false_ne_true, if_neg Bool.false_ne_true, Bool.not_false, Bool.and_true]
    split_ifs
    · rw [pick_cons, hkind]
      exact List.append_nil _
    · rfl

/-- What the words of a line hold. -/
theorem CtEntry.pick_words (e : CtEntry) (file : ProcfsFile) :
    pick get (e.words file)
      = pick get (e.proto.name :: e.proto.stateWords e.offloaded) ++
        ((get (.src e.origSrc.kernelText)).toList ++ pick get e.proto.origWords ++
          (e.counters.bind fun c => get (.bytes c.origBytes.toNat)).toList) ++
        ((get (.src e.replySrc.kernelText)).toList ++ pick get e.proto.replyWords ++
          (e.counters.bind fun c => get (.bytes c.replyBytes.toNat)).toList) ++
        (if e.assured && !e.offloaded then (get .assured).toList else []) := by
  have hmarks : ∀ ws, (∀ w ∈ ws, w ∈ e.origMarks ++ e.replyMarks ++ e.marks) → pick get ws = [] :=
    fun ws hws => pick_eq_nil fun w hw => by rw [e.marks_other w (hws w hw), hother]
  have horigMarks : pick get e.origMarks = [] := hmarks _ fun w hw => by simp [hw]
  have hreplyMarks : pick get e.replyMarks = [] := hmarks _ fun w hw => by simp [hw]
  have hendMarks : pick get e.marks = [] := hmarks _ fun w hw => by simp [hw]
  have hfamily : pick get e.family.words = [] :=
    pick_eq_nil fun w hw => by rw [wordKind_familyWords e.family w hw, hother]
  have htimeout : pick get e.timeoutWords = [] := by
    rw [timeoutWords]
    split_ifs
    · rfl
    · rw [pick_cons, wordKind_decimal, hother]
      rfl
  have hreplied : pick get e.repliedWords = [] := by
    have hkind : wordKind "[UNREPLIED]".toList = .other := rfl
    rw [repliedWords]
    split_ifs
    · rfl
    · rw [pick_cons, hkind, hother]
      rfl
  have hflag := pick_flagWords hother e
  have hproto : pick get e.protoWords
      = pick get (e.proto.name :: e.proto.stateWords e.offloaded) ++ pick get e.origWords ++
        pick get e.replyWords ++ pick get e.flagWords := by
    rw [protoWords, pick_cons, pick_cons, wordKind_decimal, hother]
    simp only [pick_append, pick_cons, htimeout, hreplied, hendMarks, Option.toList_none,
      List.nil_append, List.append_nil, List.append_assoc]
  have horig : pick get e.origWords = (get (.src e.origSrc.kernelText)).toList ++
      pick get e.proto.origWords ++ (e.counters.bind fun c =>
      get (.bytes c.origBytes.toNat)).toList := by
    rw [origWords, pick_append, pick_append, pick_append, pick_addrWords hother, horigMarks,
      List.append_nil]
    cases e.counters with
    | none => rfl
    | some c => exact congrArg _ (pick_acctWords hother _ _)
  have hreply : pick get e.replyWords = (get (.src e.replySrc.kernelText)).toList ++
      pick get e.proto.replyWords ++
        (e.counters.bind fun c => get (.bytes c.replyBytes.toNat)).toList := by
    rw [replyWords, pick_append, pick_append, pick_append, pick_addrWords hother, hreplyMarks,
      List.append_nil]
    cases e.counters with
    | none => rfl
    | some c => exact congrArg _ (pick_acctWords hother _ _)
  rw [← horig, ← hreply, ← hflag, ← hproto]
  cases file with
  | nfConntrack => rw [words, pick_append, hfamily, List.nil_append]
  | ipConntrack => rfl

variable (get) in
/-- A protocol's words hold nothing of a kind that is neither a port nor in a neutral word. -/
theorem CtProto.pick_words (proto : CtProto) (offloaded : Bool)
    (hsport : ∀ port, get (.sport port) = none) (hdport : ∀ port, get (.dport port) = none)
    (hneutral : ∀ w, NeutralWord w → get (wordKind w) = none) :
    pick get (proto.name :: proto.stateWords offloaded) = [] ∧ pick get proto.origWords = [] ∧
      pick get proto.replyWords = [] := by
  have hports : ∀ ports : CtPorts, pick get ports.words = [] := fun ports => by
    rw [pick_portWords, hsport, hdport]
    rfl
  cases proto with
  | tcp state orig reply =>
    refine ⟨pick_eq_nil fun w hw => ?_, hports orig, hports reply⟩
    have htcp : wordKind "tcp".toList = .other := rfl
    rcases List.mem_cons.mp hw with rfl | hw
    · exact htcp ▸ hother
    · rw [stateWords] at hw
      split_ifs at hw
      · exact absurd hw List.not_mem_nil
      · rw [List.mem_singleton.mp hw, wordKind_stateName, hother]
  | udp orig reply =>
    have hudp : wordKind "udp".toList = .other := rfl
    refine ⟨?_, hports orig, hports reply⟩
    rw [stateWords, name, pick_cons, hudp, hother]
    rfl
  | other proto =>
    have hwords := fun w hw => hneutral w (proto.words_neutral w hw)
    refine ⟨pick_eq_nil ?_, pick_eq_nil ?_, pick_eq_nil ?_⟩
    · exact List.forall_mem_cons.mpr ⟨hneutral _ proto.name_neutral, fun w hw =>
        hwords w (List.mem_append_left _ (List.mem_append_left _ hw))⟩
    · exact fun w hw => hwords w (List.mem_append_left _ (List.mem_append_right _ hw))
    · exact fun w hw => hwords w (List.mem_append_right _ hw)

end Pick

/-- The sources of a line are those of the two tuples. -/
theorem CtEntry.pick_source (e : CtEntry) (file : ProcfsFile) :
    pick WordKind.source (e.words file) = [e.origSrc.kernelText, e.replySrc.kernelText] := by
  have hproto := e.proto.pick_words WordKind.source rfl e.offloaded (fun _ => rfl)
    (fun _ => rfl) fun _ h => h.not_src
  rw [pick_words rfl, hproto.1, hproto.2.1, hproto.2.2]
  cases e.counters <;> simp [WordKind.source]

/-- The byte counts of a line are those of the counters. -/
theorem CtEntry.pick_byteCount (e : CtEntry) (file : ProcfsFile) :
    pick WordKind.byteCount (e.words file) = match e.counters with
      | none => []
      | some c => [c.origBytes.toNat, c.replyBytes.toNat] := by
  have hproto := e.proto.pick_words WordKind.byteCount rfl e.offloaded (fun _ => rfl)
    (fun _ => rfl) fun _ h => h.not_bytes
  rw [pick_words rfl, hproto.1, hproto.2.1, hproto.2.2]
  cases e.counters <;> simp [WordKind.byteCount]

end Lanspeed
