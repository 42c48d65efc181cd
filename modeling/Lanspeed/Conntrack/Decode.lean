import Lanspeed.Conntrack.Entry

/-!
# What the readers make of an entry

The flow that the procfs reader makes of the line of an entry (`ProcfsLine.reads`), and the one that
the netlink reader makes of its message (`CtEntry.netlink_reads`): the source, the counters, and
whether it counts as an established TCP connection or as UDP.
-/

namespace Lanspeed

open CText Bytes

/-! ## What a reader counts -/

/-- One of the four ports of a UDP entry is 53. -/
def CtEntry.dns (e : CtEntry) : Bool :=
  match e.proto with
  | .udp orig reply =>
    orig.sport == 53 || orig.dport == 53 || reply.sport == 53 || reply.dport == 53
  | _ => false

/-- A flow that a reader makes of an entry: the source, the counters, and whether it counts as an
established TCP connection or as UDP. -/
structure Reads (e : CtEntry) (c : CtCounters) (src : CStr) (tcp udp : Bool)
    (flow : ConntrackFlowSample) : Prop where
  hasOrigSrc : flow.hasOrigSrc = true
  origSrc : flow.origSrc = src
  hasOrigBytes : flow.hasOrigBytes = true
  origBytes : flow.origBytes = c.origBytes
  replyBytes : flow.replyBytes = c.replyBytes
  tcp_eq : (flow.isTcp && flow.tcpState == "ESTABLISHED".toList && flow.assured) = tcp
  udp_eq : flow.isUdp = udp
  dns_eq : flow.udpIsDns = (udp && e.dns)

/-! ## The procfs reader -/

/-- Some word is of a kind exactly when the words of the kind are not none. -/
theorem any_eq_pick (f : WordKind → Bool) (ws : List CStr) :
    (ws.any fun w => f (wordKind w))
      = !(pick (fun k => if f k then some () else none) ws).isEmpty := by
  induction ws with
  | nil => rfl
  | cons w ws ih =>
    rw [List.any_cons, ih, pick_cons]
    cases f (wordKind w) <;> rfl

/-- A line says that the flow is assured where the entry is and the flow is not offloaded. -/
theorem CtEntry.any_assured (e : CtEntry) (file : ProcfsFile) :
    ((e.words file).any fun w => (wordKind w).isAssured) = (e.assured && !e.offloaded) := by
  have hproto := e.proto.pick_words (fun k => if k.isAssured then some () else none) rfl
    e.offloaded (fun _ => rfl) (fun _ => rfl) fun _ h => if_neg (Bool.eq_false_iff.mp h.not_assured)
  rw [any_eq_pick, pick_words rfl, hproto.1, hproto.2.1, hproto.2.2]
  cases e.counters <;> cases e.assured && !e.offloaded <;> rfl

def CtProto.isTcp : CtProto → Bool
  | .tcp .. => true
  | _ => false

def CtProto.isUdp : CtProto → Bool
  | .udp .. => true
  | _ => false

/-- Only the protocol TCP is called so. -/
theorem CtProto.name_eq_tcp (proto : CtProto) : (proto.name == "tcp".toList) = proto.isTcp := by
  cases proto with
  | tcp state orig reply => rfl
  | udp orig reply => rfl
  | other proto => exact beq_false_of_ne proto.name_neutral.not_tcp

/-- Only the protocol UDP is called so. -/
theorem CtProto.name_eq_udp (proto : CtProto) : (proto.name == "udp".toList) = proto.isUdp := by
  cases proto with
  | tcp state orig reply => rfl
  | udp orig reply => rfl
  | other proto => exact beq_false_of_ne proto.name_neutral.not_udp

/-- The third word of the line in the newer file is the protocol. -/
theorem CtEntry.third_nf (e : CtEntry) : (e.words .nfConntrack)[2]? = some e.proto.name := by
  rw [words]
  cases e.family <;> rfl

/-- A decimal number starts with a digit. -/
theorem decimal_ne_of_head {c : Char} (hc : c.isDigit = false) (n : ℕ) (cs : CStr) :
    decimal n ≠ c :: cs := by
  intro h
  have hmem : c ∈ Nat.toDigits 10 n := by
    rw [← decimal, h]
    exact List.mem_cons_self
  have hdigit := Nat.isDigit_of_mem_toDigits (by decide) (by decide) hmem
  rw [hc] at hdigit
  exact Bool.false_ne_true hdigit

/-- The third word of the line in the older file is behind the number of the protocol:
no protocol. -/
theorem CtEntry.third_ip (e : CtEntry) :
    ∃ w, (e.words .ipConntrack)[2]? = some w ∧ w ≠ "tcp".toList ∧ w ≠ "udp".toList := by
  have hget : (e.words .ipConntrack)[2]? = (e.timeoutWords ++ (e.proto.stateWords e.offloaded ++
      (e.origWords ++ (e.repliedWords ++ (e.replyWords ++ (e.flagWords ++ e.marks))))))[0]? := by
    rw [words, protoWords]
    simp only [List.append_assoc]
    rfl
  have horig : e.origWords = ("src=".toList ++ e.origSrc.kernelText) :: e.origWords.tail := by
    rw [origWords, addrWords]
    rfl
  have hsrc : ∀ cs, "src=".toList ++ e.origSrc.kernelText ≠ 't' :: cs ∧
      "src=".toList ++ e.origSrc.kernelText ≠ 'u' :: cs :=
    fun cs => ⟨fun h => absurd (List.cons.inj h).1 (by decide),
      fun h => absurd (List.cons.inj h).1 (by decide)⟩
  rw [hget, timeoutWords]
  cases e.offloaded with
  | false =>
    exact ⟨_, rfl, decimal_ne_of_head rfl e.timeout _, decimal_ne_of_head rfl e.timeout _⟩
  | true =>
    rw [if_pos rfl, List.nil_append, horig]
    cases e.proto with
    | tcp state orig reply => exact ⟨_, rfl, (hsrc _).1, (hsrc _).2⟩
    | udp orig reply => exact ⟨_, rfl, (hsrc _).1, (hsrc _).2⟩
    | other proto =>
      cases hwords : proto.stateWords with
      | nil =>
        rw [CtProto.stateWords, hwords]
        exact ⟨_, rfl, (hsrc _).1, (hsrc _).2⟩
      | cons w ws =>
        have hw := proto.words_neutral w (by simp [hwords])
        rw [CtProto.stateWords, hwords]
        exact ⟨w, rfl, hw.not_tcp, hw.not_udp⟩

/-- The sixth word of the line in the newer file is the state, where there is a timeout and
a state. -/
theorem CtEntry.sixth_nf {e : CtEntry} {state : TcpConntrack} {orig reply : CtPorts}
    (hproto : e.proto = .tcp state orig reply) (hoff : e.offloaded = false) :
    (e.words .nfConntrack)[5]? = some state.name := by
  rw [words, protoWords, timeoutWords, hproto, hoff]
  cases e.family <;> rfl

section Ports

variable (get : WordKind → Option (Option UInt16)) (port : CtPorts → UInt16)
    (hother : get .other = none)
  (hports : ∀ ports : CtPorts, pick get ports.words = [some (port ports)]) {orig reply : CtPorts}
include hother hports

/-- A protocol that shows ports has one of each kind in either tuple, and one that shows none has
none. -/
theorem CtProto.ShowsPorts.pick_words {proto : CtProto} (h : proto.ShowsPorts orig reply)
    (offloaded : Bool) :
    pick get (proto.name :: proto.stateWords offloaded) = [] ∧
      (pick get proto.origWords = [some (port orig)] ∧
        pick get proto.replyWords = [some (port reply)] ∨
        (orig = ⟨0, 0⟩ ∧ reply = ⟨0, 0⟩) ∧ pick get proto.origWords = [] ∧
        pick get proto.replyWords = []) := by
  have hnone : ∀ {ws : List CStr}, (∀ w ∈ ws, wordKind w = .other) → pick get ws = [] :=
    fun hws => pick_eq_nil fun w hw => by rw [hws w hw, hother]
  cases h with
  | tcp state =>
    have htcp : wordKind "tcp".toList = .other := rfl
    refine ⟨hnone (List.forall_mem_cons.mpr ⟨htcp, fun w hw => ?_⟩),
      .inl ⟨hports orig, hports reply⟩⟩
    rw [stateWords] at hw
    split_ifs at hw
    · exact absurd hw List.not_mem_nil
    · rw [List.mem_singleton.mp hw, wordKind_stateName]
  | udp =>
    have hudp : wordKind "udp".toList = .other := rfl
    exact ⟨hnone (List.forall_mem_singleton.mpr hudp), .inl ⟨hports orig, hports reply⟩⟩
  | @ported proto _ _ hstate horig hreply =>
    refine ⟨hnone hstate, .inl ⟨?_, ?_⟩⟩
    · rw [origWords, horig, hports]
    · rw [replyWords, hreply, hports]
  | portless hwords =>
    obtain ⟨hrest, hreply⟩ := List.forall_mem_append.mp hwords
    obtain ⟨hstate, horig⟩ := List.forall_mem_append.mp hrest
    exact ⟨hnone hstate, .inr ⟨⟨rfl, rfl⟩, hnone horig, hnone hreply⟩⟩

/-- The first port of a kind in a line is that of the original tuple, and the second that of the
reply. -/
theorem CtEntry.shown_ports {e : CtEntry} (h : e.proto.ShowsPorts orig reply)
    (hzero : port ⟨0, 0⟩ = 0)
    (hsrc : ∀ text, get (.src text) = none) (hbytes : ∀ n, get (.bytes n) = none)
    (hassured : get .assured = none) (file : ProcfsFile) :
    (pick get (e.words file))[0]?.join.getD 0 = port orig ∧
      (pick get (e.words file))[1]?.join.getD 0 = port reply := by
  obtain ⟨hname, htuples⟩ := h.pick_words get port hother hports e.offloaded
  have hcounters : ∀ bytes : CtCounters → UInt64,
      (e.counters.bind fun c => get (.bytes (bytes c).toNat)) = none := by
    intro bytes
    cases e.counters with
    | none => rfl
    | some c => exact hbytes _
  have hwords :
      pick get (e.words file) = pick get e.proto.origWords ++ pick get e.proto.replyWords := by
    rw [pick_words hother, hname, hsrc, hsrc, hassured, hcounters fun c => c.origBytes,
      hcounters fun c => c.replyBytes]
    simp
  rw [hwords]
  rcases htuples with ⟨horig, hreply⟩ | ⟨⟨rfl, rfl⟩, horig, hreply⟩
  · rw [horig, hreply]
    exact ⟨rfl, rfl⟩
  · rw [horig, hreply, hzero]
    exact ⟨rfl, rfl⟩

end Ports

/-- A line that shows ports is read with the source ports of the entry. -/
theorem CtEntry.shown_sports {e : CtEntry} {orig reply : CtPorts}
    (h : e.proto.ShowsPorts orig reply) (file : ProcfsFile) :
    (flowOfWords (e.words file)).origSport = orig.sport ∧
      (flowOfWords (e.words file)).replySport = reply.sport :=
  shown_ports WordKind.sourcePort CtPorts.sport rfl (fun ports =>
    pick_portWords ports) h rfl (fun _ => rfl)
    (fun _ => rfl) rfl file

/-- A line that shows ports is read with the destination ports of the entry. -/
theorem CtEntry.shown_dports {e : CtEntry} {orig reply : CtPorts}
    (h : e.proto.ShowsPorts orig reply) (file : ProcfsFile) :
    (flowOfWords (e.words file)).origDport = orig.dport ∧
      (flowOfWords (e.words file)).replyDport = reply.dport :=
  shown_ports WordKind.destPort CtPorts.dport rfl (fun ports =>
    pick_portWords ports) h rfl (fun _ => rfl)
    (fun _ => rfl) rfl file

/-- What the procfs reader counts as an established connection: TCP in the newer file, in the state
that its line has. -/
def CtEntry.procfsTcp (e : CtEntry) : ProcfsFile → Bool
  | .nfConntrack => match e.proto with
    | .tcp state _ _ => state == .established && (e.assured && !e.offloaded)
    | _ => false
  | .ipConntrack => false

/-- What the procfs reader counts as UDP: nothing in the older file. -/
def CtEntry.procfsUdp (e : CtEntry) : ProcfsFile → Bool
  | .nfConntrack => e.proto.isUdp
  | .ipConntrack => false

/-- A line of another protocol is not read as UDP. -/
theorem CtEntry.procfsUdp_of_not_udp (e : CtEntry) (file : ProcfsFile) (h : e.proto.isUdp = false) :
    e.procfsUdp file = false := by
  cases file with
  | nfConntrack => exact h
  | ipConntrack => rfl

/-- Cut to its buffer, the name of a state says established only for that state. -/
theorem snprintf_stateName (state : TcpConntrack) :
    (snprintf 16 state.name == "ESTABLISHED".toList) = (state == .established) := by
  cases state <;> rfl

/-- The part of the flow that counts it as a connection. -/
theorem CtEntry.flowOfWords_conn (e : CtEntry) (file : ProcfsFile) :
    let flow := flowOfWords (e.words file)
    (flow.isTcp && flow.tcpState == "ESTABLISHED".toList && flow.assured) = e.procfsTcp file ∧
      flow.isUdp = e.procfsUdp file := by
  dsimp only [flowOfWords]
  rw [e.any_assured]
  cases file with
  | nfConntrack =>
    have hbeq : ∀ name : CStr, ((e.words .nfConntrack)[2]? == some name) = (e.proto.name == name) :=
      fun name => congrArg (· == some name) e.third_nf
    refine ⟨?_, (hbeq _).trans e.proto.name_eq_udp⟩
    rw [tcpStateOf, hbeq, e.proto.name_eq_tcp, procfsTcp]
    cases hproto : e.proto with
    | tcp state orig reply =>
      cases hoff : e.offloaded with
      | true => simp
      | false =>
        rw [CtProto.isTcp, if_pos rfl, sixth_nf hproto hoff, Option.map_some, Option.getD_some,
          snprintf_stateName, Bool.true_and]
    | udp orig reply => rfl
    | other proto => rfl
  | ipConntrack =>
    obtain ⟨w, hw, hne, hneu⟩ := e.third_ip
    have htcp : ((e.words .ipConntrack)[2]? == some "tcp".toList) = false := by
      rw [hw]
      exact beq_false_of_ne fun h => hne (Option.some.inj h)
    have hudp : ((e.words .ipConntrack)[2]? == some "udp".toList) = false := by
      rw [hw]
      exact beq_false_of_ne fun h => hneu (Option.some.inj h)
    rw [htcp, hudp]
    exact ⟨rfl, rfl⟩

/-- The words that a line is split into are those of the entry. -/
theorem ProcfsLine.conntrackWords_eq {file : ProcfsFile} {e : CtEntry} (line : ProcfsLine file e) :
    conntrackWords line.text = e.words file := by
  rw [conntrackWords, snprintf_of_fits line.fits, line.words_eq]

/-- The source and the byte counts of the flow are those of the entry. -/
theorem CtEntry.flowOfWords_counters (e : CtEntry) (file : ProcfsFile) {c : CtCounters}
    (hc : e.counters = some c) :
    let flow := flowOfWords (e.words file)
    (flow.origSrc = e.origSrc.kernelText ∧ flow.hasOrigSrc = true) ∧
      (flow.origBytes = c.origBytes ∧ flow.hasOrigBytes = true) ∧
      flow.replyBytes = c.replyBytes := by
  have hbytes := e.pick_byteCount file
  rw [hc] at hbytes
  dsimp only [flowOfWords]
  rw [e.pick_source file, hbytes]
  exact ⟨⟨snprintf_of_fits e.origSrc.length_kernelText_lt, rfl⟩, ⟨UInt64.ofNat_toNat, rfl⟩,
    UInt64.ofNat_toNat⟩

/-- What the procfs reader makes of the line of an entry. -/
theorem ProcfsLine.reads {file : ProcfsFile} {e : CtEntry} (line : ProcfsLine file e)
    {c : CtCounters} (hc : e.counters = some c) :
    ∃ flow, parseConntrackProcfsLine line.text = some flow ∧
      Reads e c e.origSrc.kernelText (e.procfsTcp file) (e.procfsUdp file) flow := by
  obtain ⟨⟨hsrc, hhasSrc⟩, ⟨horigBytes, hhasBytes⟩, hreplyBytes⟩ := e.flowOfWords_counters file hc
  obtain ⟨htcp, hudp⟩ := e.flowOfWords_conn file
  rw [parseConntrackProcfsLine_eq, line.conntrackWords_eq]
  dsimp only
  rw [if_pos (Bool.and_eq_true_iff.mpr ⟨hhasSrc, hhasBytes⟩)]
  refine ⟨_, rfl, hhasSrc, hsrc, hhasBytes, horigBytes, hreplyBytes, htcp, hudp, ?_⟩
  show ConntrackFlowSample.hasDnsPort (flowOfWords (e.words file)) = _
  rw [ConntrackFlowSample.hasDnsPort, hudp, CtEntry.dns]
  cases hproto : e.proto with
  | tcp state orig reply =>
    rw [e.procfsUdp_of_not_udp file (hproto ▸ rfl), Bool.false_and, Bool.false_and]
  | udp orig reply =>
    have hports : e.proto.ShowsPorts orig reply := hproto ▸ .udp orig reply
    obtain ⟨hosp, hrsp⟩ := CtEntry.shown_sports hports file
    obtain ⟨hodp, hrdp⟩ := CtEntry.shown_dports hports file
    rw [hosp, hodp, hrsp, hrdp]
  | other proto => rw [e.procfsUdp_of_not_udp file (hproto ▸ rfl), Bool.false_and, Bool.false_and]

/-- Without counters, the procfs reader makes nothing of a line. -/
theorem ProcfsLine.reads_none {file : ProcfsFile} {e : CtEntry} (line : ProcfsLine file e)
    (hc : e.counters = none) : parseConntrackProcfsLine line.text = none := by
  have hbytes := e.pick_byteCount file
  rw [hc] at hbytes
  have hhas : (flowOfWords (e.words file)).hasOrigBytes = false := by
    dsimp only [flowOfWords]
    rw [hbytes]
    rfl
  rw [parseConntrackProcfsLine_eq, line.conntrackWords_eq]
  dsimp only
  rw [hhas, Bool.and_false]
  rfl

/-! ## The netlink reader -/

/-- Of two lists of attributes in a row, the later one that has the type counts. -/
theorem storedAttr_append (attrs attrs' : List NlAttr) (type : ℕ) :
    storedAttr (attrs ++ attrs') type = (storedAttr attrs' type).or (storedAttr attrs type) := by
  rw [storedAttr, List.reverse_append, List.find?_append]
  rfl

/-- An attribute counts where no later one has its type. -/
theorem storedAttr_cons (attr : NlAttr) (attrs : List NlAttr) (type : ℕ) :
    storedAttr (attr :: attrs) type
      = (storedAttr attrs type).or (if attr.type = type then some attr else none) := by
  rw [storedAttr, List.reverse_cons, List.find?_append, List.find?_singleton]
  simp only [beq_iff_eq]
  rfl

/-- A type that no attribute has is not stored. -/
theorem storedAttr_eq_none {attrs : List NlAttr} {type : ℕ} (h : ∀ attr ∈ attrs, attr.type ≠ type) :
    storedAttr attrs type = none := by
  refine List.find?_eq_none.mpr fun attr hattr => ?_
  simpa using h attr (List.mem_reverse.mp hattr)

/-- An attribute that holds a number in network order is read as the number. -/
theorem be_bigEndian (type width n : ℕ) :
    (NlAttr.data type (bigEndian width n)).be width = n % 256 ^ width := by
  rw [NlAttr.be, NlAttr.payload, List.take_of_length_le (length_bigEndian width n).le,
    beValue_bigEndian]

/-- What a message holds under the types that the reader looks up. -/
structure MessageAttrs (e : CtEntry) : Prop where
  orig : storedAttr e.message 1
    = some (.nest 1 [addrAttr e.origSrc e.origDst, protoAttr e.proto.number e.proto.origAttrs])
  reply : storedAttr e.message 2
    = some (.nest 2 [addrAttr e.replySrc e.replyDst, protoAttr e.proto.number e.proto.replyAttrs])
  status : storedAttr e.message 3 = some (.data 3 (bigEndian 4 e.status.toNat))
  protoinfo : storedAttr e.message 4 = storedAttr (if e.offloaded then [] else e.proto.protoinfo) 4
  origCounters : storedAttr e.message 9
    = e.counters.map fun c => countersAttr 9 c.origPackets c.origBytes
  replyCounters : storedAttr e.message 10
    = e.counters.map fun c => countersAttr 10 c.replyPackets c.replyBytes

/-- The information on the protocol comes under the type `CTA_PROTOINFO`. -/
theorem CtProto.protoinfo_type (proto : CtProto) : ∀ attr ∈ proto.protoinfo, attr.type = 4 := by
  cases proto with
  | tcp state orig reply => exact List.forall_mem_singleton.mpr rfl
  | udp orig reply => exact List.forall_mem_nil _
  | other proto => exact List.forall_mem_singleton.mpr rfl

/-- The message of an entry has its parts under their types. -/
theorem CtEntry.messageAttrs (e : CtEntry) : MessageAttrs e := by
  have hrest : ∀ type ∈ [1, 2, 3, 4, 9, 10], storedAttr e.attrs type = none := fun type htype =>
    storedAttr_eq_none fun attr hattr heq => e.attrs_type attr hattr (heq ▸ htype)
  have hinfo :
      ∀ type ≠ 4, storedAttr (if e.offloaded then [] else e.proto.protoinfo) type = none := by
    intro type htype
    split_ifs
    · rfl
    · exact storedAttr_eq_none fun attr hattr =>
        (e.proto.protoinfo_type attr hattr).trans_ne htype.symm
  constructor
  all_goals
    rw [message, storedAttr_append, storedAttr_append, storedAttr_append, hrest _ (by decide),
      Option.none_or]
  · rw [hinfo 1 (by decide), Option.none_or]
    cases e.counters <;> rfl
  · rw [hinfo 2 (by decide), Option.none_or]
    cases e.counters <;> rfl
  · rw [hinfo 3 (by decide), Option.none_or]
    cases e.counters <;> rfl
  · refine (congrArg _ ?_).trans (Option.or_none)
    cases e.counters <;> rfl
  · rw [hinfo 9 (by decide), Option.none_or]
    cases e.counters <;> rfl
  · rw [hinfo 10 (by decide), Option.none_or]
    cases e.counters <;> rfl

/-- The source of the original tuple. -/
theorem parseTupleSource_addrAttr {family : CtFamily} (src dst : CtAddr family)
    (flow : ConntrackFlowSample) :
    parseTupleSource (addrAttr src dst).attrs flow
      = some { flow with origSrc := src.ntopText, hasOrigSrc := true } := by
  have hfits : ipStr src.ntopText = some src.ntopText := if_pos src.length_ntopText_lt
  cases family with
  | ipv4 => exact congrArg (Option.map _) hfits
  | ipv6 => exact congrArg (Option.map _) hfits

/-- A tuple of the original direction sets the addresses, and then the protocol and the ports. -/
theorem parseTuple_orig {family : CtFamily} (src dst : CtAddr family) (number : UInt8)
    (attrs : List NlAttr) (type : ℕ) (flow : ConntrackFlowSample) :
    conntrackNetlinkParseTuple (.nest type [addrAttr src dst, protoAttr number attrs]) flow true
      = (parseTuplePorts (.data 1 [number] :: attrs) true
        (parseTupleProto (.data 1 [number] :: attrs)
          { flow with origSrc := src.ntopText, hasOrigSrc := true }), true) := by
  have hip :
      storedAttr [addrAttr src dst, protoAttr number attrs] 1 = some (addrAttr src dst) := rfl
  have hproto : storedAttr [addrAttr src dst, protoAttr number attrs] 2
      = some (protoAttr number attrs) := rfl
  rw [conntrackNetlinkParseTuple, NlAttr.attrs, hip, hproto]
  dsimp only
  rw [if_pos rfl, parseTupleSource_addrAttr]
  rfl

/-- A tuple of the reply direction sets no addresses, only the protocol and the ports. -/
theorem parseTuple_reply {family : CtFamily} (src dst : CtAddr family) (number : UInt8)
    (attrs : List NlAttr) (type : ℕ) (flow : ConntrackFlowSample) :
    conntrackNetlinkParseTuple (.nest type [addrAttr src dst, protoAttr number attrs]) flow false
      = (parseTuplePorts (.data 1 [number] :: attrs) false
          (parseTupleProto (.data 1 [number] :: attrs) flow), true) := rfl

/-- The counters of a direction. -/
theorem parseCounters_countersAttr (type : ℕ) (packets bytes : UInt64) :
    conntrackNetlinkParseCounters (countersAttr type packets bytes) = some bytes := by
  have hbytes : storedAttr (countersAttr type packets bytes).attrs 2
      = some (.data 2 (bigEndian 8 bytes.toNat)) := rfl
  have hlt : bytes.toNat < 256 ^ 8 := bytes.toNat_lt
  rw [conntrackNetlinkParseCounters, hbytes]
  dsimp only
  rw [be_bigEndian, Nat.mod_eq_of_lt hlt, UInt64.ofNat_toNat]


/-- A protocol other than TCP and UDP is named by its number. -/
theorem parseTupleProto_other {number : UInt8} (htcp : number ≠ ipprotoTcp)
    (hudp : number ≠ ipprotoUdp)
    {attrs : List NlAttr} (hattrs : ∀ attr ∈ attrs, attr.type ≠ 1) (flow : ConntrackFlowSample) :
    parseTupleProto (.data 1 [number] :: attrs) flow
      = { flow with protocol := snprintf 8 (decimal ((NlAttr.data 1 [number]).be 1)) } := by
  have hbe : (NlAttr.data 1 [number]).be 1 = number.toNat := (Nat.zero_add _)
  have hnum : storedAttr (.data 1 [number] :: attrs) 1 = some (.data 1 [number]) := by
    rw [storedAttr_cons, storedAttr_eq_none hattrs]
    rfl
  rw [parseTupleProto, hnum]
  dsimp only
  rw [hbe, if_neg fun h => htcp (UInt8.toNat_inj.mp h), if_neg fun h => hudp (UInt8.toNat_inj.mp h)]

/-- A port is read back from its attribute. -/
theorem portOfAttr (type : ℕ) (port : UInt16) :
    UInt16.ofNat ((NlAttr.data type (bigEndian 2 port.toNat)).be 2) = port := by
  have hlt : port.toNat < 256 ^ 2 := port.toNat_lt
  rw [be_bigEndian, Nat.mod_eq_of_lt hlt, UInt16.ofNat_toNat]

/-- The attributes of the ports are found behind that of the protocol. -/
theorem storedAttr_ports (number : UInt8) (ports : CtPorts) :
    storedAttr (.data 1 [number] :: ports.attrs) 2 = some
      (.data 2 (bigEndian 2 ports.sport.toNat)) ∧
      storedAttr (.data 1 [number] :: ports.attrs) 3 = some
        (.data 3 (bigEndian 2 ports.dport.toNat)) :=
  ⟨rfl, rfl⟩

/-- The ports of the original direction are read back. -/
theorem parseTuplePorts_orig (number : UInt8) (ports : CtPorts) (flow : ConntrackFlowSample) :
    parseTuplePorts (.data 1 [number] :: ports.attrs) true flow
      = { flow with origSport := ports.sport, origDport := ports.dport } := by
  obtain ⟨hsport, hdport⟩ := storedAttr_ports number ports
  rw [parseTuplePorts, hsport, hdport]
  dsimp only
  rw [if_pos rfl, if_pos rfl, portOfAttr, portOfAttr]

/-- The ports of the reply direction are read back. -/
theorem parseTuplePorts_reply (number : UInt8) (ports : CtPorts) (flow : ConntrackFlowSample) :
    parseTuplePorts (.data 1 [number] :: ports.attrs) false flow
      = { flow with replySport := ports.sport, replyDport := ports.dport } := by
  obtain ⟨hsport, hdport⟩ := storedAttr_ports number ports
  rw [parseTuplePorts, hsport, hdport]
  dsimp only
  rw [if_neg Bool.false_ne_true, if_neg Bool.false_ne_true, portOfAttr, portOfAttr]

/-- The ports are all that the attributes of a protocol change. -/
theorem parseTuplePorts_frame (attrs : List NlAttr) (original : Bool) (flow : ConntrackFlowSample) :
    ∃ osp odp rsp rdp, parseTuplePorts attrs original flow =
      { flow with origSport := osp, origDport := odp, replySport := rsp, replyDport := rdp } := by
  unfold parseTuplePorts
  cases original <;> cases storedAttr attrs 2 <;> cases storedAttr
    attrs 3 <;> exact ⟨_, _, _, _, rfl⟩

/-- The flow of a message once both tuples are read. -/
structure Tuples (e : CtEntry) (flow : ConntrackFlowSample) : Prop where
  hasOrigSrc : flow.hasOrigSrc = true
  origSrc : flow.origSrc = e.origSrc.ntopText
  isTcp : flow.isTcp = e.proto.isTcp
  isUdp : flow.isUdp = e.proto.isUdp
  tcpState : flow.tcpState = []
  dns : flow.hasDnsPort = (e.proto.isUdp && e.dns)

/-- Both tuples of an entry, read one after the other. -/
def CtEntry.netlinkTuples (e : CtEntry) : ConntrackFlowSample :=
  (conntrackNetlinkParseTuple
    (.nest 2 [addrAttr e.replySrc e.replyDst, protoAttr e.proto.number e.proto.replyAttrs])
    (conntrackNetlinkParseTuple
      (.nest 1 [addrAttr e.origSrc e.origDst,
        protoAttr e.proto.number e.proto.origAttrs]) {} true).1
    false).1

/-- The two tuples of an entry set what a flow takes from them. -/
theorem CtEntry.tuples (e : CtEntry) : Tuples e e.netlinkTuples := by
  suffices h : ∀ proto, e.proto = proto → Tuples e e.netlinkTuples from h _ rfl
  intro proto hproto
  have htcp : e.proto.isTcp = proto.isTcp := hproto ▸ rfl
  have hudp : e.proto.isUdp = proto.isUdp := hproto ▸ rfl
  rw [netlinkTuples, parseTuple_orig, parseTuple_reply]
  cases proto with
  | tcp state orig reply =>
    rw [hproto, CtProto.origAttrs, CtProto.replyAttrs, parseTuplePorts_orig, parseTuplePorts_reply]
    exact ⟨rfl, rfl, htcp.symm, hudp.symm, rfl, by rw [hudp]; rfl⟩
  | udp orig reply =>
    have hdns : e.dns = (orig.sport == 53 || orig.dport == 53 || reply.sport == 53 ||
        reply.dport == 53) := by rw [CtEntry.dns, hproto]
    rw [hproto, CtProto.origAttrs, CtProto.replyAttrs, parseTuplePorts_orig, parseTuplePorts_reply]
    exact ⟨rfl, rfl, htcp.symm, hudp.symm, rfl, by rw [hdns, hudp]; rfl⟩
  | other proto =>
    rw [hproto, CtProto.origAttrs, CtProto.replyAttrs, CtProto.number,
      parseTupleProto_other proto.number_ne_tcp proto.number_ne_udp proto.origAttrs_type,
      parseTupleProto_other proto.number_ne_tcp proto.number_ne_udp proto.replyAttrs_type]
    obtain ⟨_, _, _, _, horig⟩ := parseTuplePorts_frame (.data 1 [proto.number] :: proto.origAttrs)
      true _
    rw [horig]
    obtain ⟨_, _, _, _, hreply⟩ :=
      parseTuplePorts_frame (.data 1 [proto.number] :: proto.replyAttrs)
      false _
    rw [hreply]
    exact ⟨rfl, rfl, htcp.symm, hudp.symm, rfl, by rw [hudp]; rfl⟩

/-- The states that `conntrack_tcp_state_name` and the default behind it show as established. -/
def TcpConntrack.shownEstablished : TcpConntrack → Bool
  | .established => true
  | .none => true
  | .synSent2 => true
  | _ => false

/-- What the netlink reader counts as an established connection. -/
def CtEntry.netlinkTcp (e : CtEntry) : Bool :=
  match e.proto with
  | .tcp state _ _ => e.assured && (e.offloaded || state.shownEstablished)
  | _ => false

/-- The protocol information leaves the state of TCP, and only there; none is sent of an offloaded
entry. -/
def CtEntry.netlinkState (e : CtEntry) : CStr :=
  match e.proto with
  | .tcp state _ _ => if e.offloaded then [] else snprintf 16 (conntrackTcpStateName state.number)
  | _ => []

/-- The steps of `conntrackNetlinkComplete`: the other counter, the status and the protocol
information. -/
def completeCounter (tb : List NlAttr) (flow : ConntrackFlowSample) : ConntrackFlowSample :=
  match storedAttr tb 10 with
  | none => flow
  | some attr =>
    match conntrackNetlinkParseCounters attr with
    | none => flow
    | some bytes => { flow with replyBytes := bytes }

def completeStatus (tb : List NlAttr) (flow : ConntrackFlowSample) : ConntrackFlowSample :=
  match storedAttr tb 3 with
  | none => flow
  | some status => { flow with assured := (status.be 4).testBit 2 }

def completeProtoinfo (tb : List NlAttr) (flow : ConntrackFlowSample) : ConntrackFlowSample :=
  match storedAttr tb 4 with
  | none => flow
  | some attr => conntrackNetlinkParseProtoinfo attr flow

/-- The default for the state, and the DNS flag. -/
def completeDefaults (flow : ConntrackFlowSample) : ConntrackFlowSample :=
  let flow := if flow.isTcp && flow.tcpState.isEmpty then
      { flow with
        tcpState := snprintf 16 (conntrackTcpStateName TcpConntrack.established.number) }
    else flow
  { flow with udpIsDns := flow.hasDnsPort }

/-- `conntrack_netlink_complete`, one part of the message after the other. -/
theorem conntrackNetlinkComplete_eq (tb : List NlAttr) (flow : ConntrackFlowSample) :
    conntrackNetlinkComplete tb flow
      = completeDefaults (completeProtoinfo tb (completeStatus tb (completeCounter tb flow))) := rfl

/-- The message adds the bytes of the reply direction. -/
theorem CtEntry.completeCounter_eq {e : CtEntry} {c : CtCounters} (hc : e.counters = some c)
    (flow : ConntrackFlowSample) :
    completeCounter e.message flow = { flow with replyBytes := c.replyBytes } := by
  rw [completeCounter, e.messageAttrs.replyCounters, hc, Option.map_some]
  dsimp only
  rw [parseCounters_countersAttr]

/-- The flag of an assured flow is that of the entry. -/
theorem CtEntry.completeStatus_eq (e : CtEntry) (flow : ConntrackFlowSample) :
    completeStatus e.message flow = { flow with assured := e.assured } := by
  have hlt : e.status.toNat < 256 ^ 4 := e.status.toNat_lt
  rw [completeStatus, e.messageAttrs.status]
  dsimp only
  rw [be_bigEndian, Nat.mod_eq_of_lt hlt]
  rfl

/-- The name of the TCP state is that of the entry. -/
theorem CtEntry.completeProtoinfo_eq (e : CtEntry) {flow : ConntrackFlowSample}
    (hstate : flow.tcpState = []) :
    completeProtoinfo e.message flow = { flow with tcpState := e.netlinkState } := by
  have hsame : flow = { flow with tcpState := [] } := by rw [← hstate]
  rw [completeProtoinfo, e.messageAttrs.protoinfo, netlinkState]
  cases e.offloaded with
  | true =>
    cases e.proto with
    | tcp state orig reply => exact hsame
    | udp orig reply => exact hsame
    | other proto => exact hsame
  | false =>
    cases e.proto with
    | tcp state orig reply => cases state <;> rfl
    | udp orig reply => exact hsame
    | other proto =>
      have hlook :
          storedAttr (CtProto.other proto).protoinfo 4 = some (.nest 4 proto.protoinfo) := rfl
      rw [if_neg Bool.false_ne_true, hlook]
      dsimp only
      rw [conntrackNetlinkParseProtoinfo, NlAttr.attrs, storedAttr_eq_none proto.protoinfo_type]
      exact hsame

/-- The default touches the state, and only where TCP has none. -/
theorem completeDefaults_eq (flow : ConntrackFlowSample) :
    completeDefaults flow =
      { flow with
        tcpState := if flow.isTcp && flow.tcpState.isEmpty then
            snprintf 16 (conntrackTcpStateName TcpConntrack.established.number)
          else flow.tcpState
        udpIsDns := flow.hasDnsPort } := by
  rw [completeDefaults]
  split_ifs <;> rfl

/-- What the message of an entry adds to a flow after the tuples. -/
theorem CtEntry.complete_eq {e : CtEntry} {c : CtCounters} (hc : e.counters = some c)
    {flow : ConntrackFlowSample} (hstate : flow.tcpState = []) :
    conntrackNetlinkComplete e.message flow =
      { flow with
        replyBytes := c.replyBytes
        assured := e.assured
        tcpState := if flow.isTcp && e.netlinkState.isEmpty then
            snprintf 16 (conntrackTcpStateName TcpConntrack.established.number)
          else e.netlinkState
        udpIsDns := flow.hasDnsPort } := by
  have hstatus : completeStatus e.message (completeCounter e.message flow)
      = { flow with replyBytes := c.replyBytes, assured := e.assured } := by
    rw [completeCounter_eq hc, completeStatus_eq]
  have hempty : ({ flow with replyBytes := c.replyBytes, assured := e.assured } :
      ConntrackFlowSample).tcpState = [] := hstate
  rw [conntrackNetlinkComplete_eq, hstatus, e.completeProtoinfo_eq hempty, completeDefaults_eq]
  rfl

/-- The state that a TCP flow ends with, behind the default for an empty one. -/
theorem CtEntry.netlinkTcp_eq (e : CtEntry) :
    (e.proto.isTcp && (if e.proto.isTcp && e.netlinkState.isEmpty then
        snprintf 16 (conntrackTcpStateName TcpConntrack.established.number)
      else e.netlinkState) == "ESTABLISHED".toList && e.assured) = e.netlinkTcp := by
  rw [netlinkState, netlinkTcp]
  cases e.proto with
  | tcp state orig reply => cases e.offloaded <;> cases state <;> cases e.assured <;> rfl
  | udp orig reply => rfl
  | other proto => rfl

/-- What the netlink reader makes of the message of an entry. -/
theorem CtEntry.netlink_reads {e : CtEntry} {c : CtCounters} (hc : e.counters = some c) :
    ∃ flow, conntrackNetlinkFlow e.message = some flow ∧
      Reads e c e.origSrc.ntopText e.netlinkTcp e.proto.isUdp flow := by
  have hmsg := e.messageAttrs
  have htuples := e.tuples
  have horig := hmsg.origCounters
  rw [hc, Option.map_some] at horig
  have hflow : conntrackNetlinkFlow e.message
      = some (conntrackNetlinkComplete e.message
          { e.netlinkTuples with origBytes := c.origBytes, hasOrigBytes := true }) := by
    rw [conntrackNetlinkFlow, hmsg.orig, horig, hmsg.reply, netlinkTuples]
    dsimp only
    rw [parseCounters_countersAttr, parseTuple_orig]
    rfl
  refine ⟨_, hflow, ?_⟩
  have hempty : ({ e.netlinkTuples with origBytes := c.origBytes, hasOrigBytes := true } :
      ConntrackFlowSample).tcpState = [] := htuples.tcpState
  rw [complete_eq hc hempty]
  refine ⟨htuples.hasOrigSrc, htuples.origSrc, rfl, rfl, rfl, ?_, htuples.isUdp, htuples.dns⟩
  rw [← netlinkTcp_eq, ← htuples.isTcp]

/-- An entry without counters is no flow. -/
theorem CtEntry.netlink_none {e : CtEntry} (hc : e.counters = none) :
    conntrackNetlinkFlow e.message = none := by
  have horig := e.messageAttrs.origCounters
  rw [hc, Option.map_none] at horig
  rw [conntrackNetlinkFlow, e.messageAttrs.orig, horig]


end Lanspeed
