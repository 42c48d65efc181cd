import Lanspeed.Conntrack.Decode
import Lanspeed.Conntrack.Read

/-!
# The procfs reader inverts the kernel's rendering

The line of an entry that is not offloaded has its timeout in the fifth word, so that a TCP state
stands where the reader looks for it, and its source, ports and byte counts in the order of the two
tuples. The reader makes the flow of the entry of it (`CtEntry.shownFlow`, `ProcfsLine.parse_eq`).
The words may have any white space between them; the columns that the kernel prints are one way
(`CtEntry.kernelLine`). Only IPv4 and IPv6 have addresses in their lines, so an entry is of one of
them. A line that lacks a source or a byte count is no flow, and leaves the table as it is
(`procfs_line_inverted`).
-/

namespace Lanspeed

open CText

/-! ## What a line shows -/

/-- The state that the line of an entry shows. -/
def CtProto.stateText : CtProto → CStr
  | .tcp state _ _ => state.name
  | _ => []

/-- The flow of an entry with these counters and ports. -/
def CtEntry.shownFlow (e : CtEntry) (c : CtCounters) (orig reply : CtPorts) :
    ConntrackFlowSample where
  origSrc := e.origSrc.kernelText
  hasOrigSrc := true
  origBytes := c.origBytes
  hasOrigBytes := true
  replyBytes := c.replyBytes
  origSport := orig.sport
  origDport := orig.dport
  replySport := reply.sport
  replyDport := reply.dport
  protocol := snprintf 8 e.proto.name
  isTcp := e.proto.isTcp
  isUdp := e.proto.isUdp
  tcpState := e.proto.stateText
  assured := e.assured
  udpIsDns := e.proto.isUdp &&
    (orig.sport == 53 || orig.dport == 53 || reply.sport == 53 || reply.dport == 53)

/-! ## The other fields -/

theorem snprintf_name_of_state (state : TcpConntrack) : snprintf 16 state.name = state.name := by
  cases state <;> rfl

/-- The state of the flow is the one that the line shows. -/
theorem CtEntry.tcpStateOf_words {e : CtEntry} (hoff : e.offloaded = false) :
    tcpStateOf (e.words .nfConntrack) = e.proto.stateText := by
  have htcp : ((e.words .nfConntrack)[2]? == some "tcp".toList) = e.proto.isTcp :=
    (congrArg (· == some "tcp".toList) e.third_nf).trans e.proto.name_eq_tcp
  rw [tcpStateOf, htcp]
  cases hproto : e.proto with
  | tcp state orig reply =>
    rw [CtProto.isTcp, if_pos rfl, sixth_nf hproto hoff]
    exact snprintf_name_of_state state
  | udp orig reply => rfl
  | other proto => rfl

attribute [ext] ConntrackFlowSample

/-- The words of a line make the flow of its entry, up to the DNS flag. -/
theorem CtEntry.flowOfWords_eq {e : CtEntry} (hoff : e.offloaded = false) {c : CtCounters}
    (hc : e.counters = some c) {orig reply : CtPorts} (hports : e.proto.ShowsPorts orig reply) :
    flowOfWords (e.words .nfConntrack) = { e.shownFlow c orig reply with udpIsDns := false } := by
  obtain ⟨⟨hsrc, hhasSrc⟩, ⟨horigBytes, hhasBytes⟩, hreplyBytes⟩ :=
    e.flowOfWords_counters .nfConntrack hc
  obtain ⟨hosp, hrsp⟩ := shown_sports hports .nfConntrack
  obtain ⟨hodp, hrdp⟩ := shown_dports hports .nfConntrack
  have hassured := e.any_assured .nfConntrack
  rw [hoff, Bool.not_false, Bool.and_true] at hassured
  apply ConntrackFlowSample.ext
  · exact hsrc
  · exact horigBytes
  · exact hreplyBytes
  · exact hosp
  · exact hodp
  · exact hrsp
  · exact hrdp
  · exact hhasSrc
  · exact hhasBytes
  · dsimp only [flowOfWords]
    rw [e.third_nf]
    rfl
  · exact tcpStateOf_words hoff
  · exact hassured
  · exact (congrArg (· == some "tcp".toList) e.third_nf).trans e.proto.name_eq_tcp
  · exact (congrArg (· == some "udp".toList) e.third_nf).trans e.proto.name_eq_udp
  · rfl

/-- The line of an entry that is not offloaded gives the flow of the entry. -/
theorem ProcfsLine.parse_eq {e : CtEntry} (line : ProcfsLine .nfConntrack e)
    (hoff : e.offloaded = false) {c : CtCounters} (hc : e.counters = some c) {orig reply : CtPorts}
    (hports : e.proto.ShowsPorts orig reply) :
    parseConntrackProcfsLine line.text = some (e.shownFlow c orig reply) := by
  rw [parseConntrackProcfsLine_eq, line.conntrackWords_eq, CtEntry.flowOfWords_eq hoff hc hports]
  rfl

/-! ## The kernel's line -/

/-- A word of a line. -/
def IsLineWord (w : CStr) : Prop := isWord isConntrackDelim w = true

/-- A text without the white space that parts the words. -/
def Unbroken (w : CStr) : Prop := ∀ c ∈ w, isConntrackDelim c = false

/-- What a protocol other than TCP and UDP prints. -/
def CtProto.foreignWords : CtProto → List CStr
  | .other proto => proto.name :: (proto.stateWords ++ proto.origWords ++ proto.replyWords)
  | _ => []

/-- What a line has beside the words of the table itself. -/
def CtEntry.foreignWords (e : CtEntry) : List CStr :=
  e.proto.foreignWords ++ e.origMarks ++ e.replyMarks ++ e.marks

/-- A decimal number has no delimiter. -/
theorem unbroken_decimal (n : ℕ) : Unbroken (decimal n) := by
  intro c hc
  have hspace : isSpace c = false :=
    isSpace_of_isDigit (Nat.isDigit_of_mem_toDigits (by decide) (by decide) hc)
  simp only [isSpace, Bool.or_eq_false_iff] at hspace
  simp only [isConntrackDelim, hspace, Bool.or_false]

theorem isLineWord_decimal (n : ℕ) : IsLineWord (decimal n) :=
  isWord_iff.mpr ⟨Nat.toDigits_ne_nil, unbroken_decimal n⟩

/-- A key and its value are one word. -/
theorem isLineWord_field {key value : CStr} (hkey : IsLineWord key) (hvalue : Unbroken value) :
    IsLineWord (key ++ value) :=
  isWord_append hkey hvalue

theorem Unbroken.append {s t : CStr} (hs : Unbroken s) (ht : Unbroken t) : Unbroken (s ++ t) :=
  List.forall_mem_append.mpr ⟨hs, ht⟩

/-- A text without delimiters stays so behind a character that is none. -/
theorem Unbroken.cons {c : Char} {s : CStr} (hc : isConntrackDelim c = false) (hs : Unbroken s) :
    Unbroken (c :: s) :=
  List.forall_mem_cons.mpr ⟨hc, hs⟩

/-- Texts without delimiters stay so around a separator that has none. -/
theorem Unbroken.intercalate {sep : CStr} (hsep : Unbroken sep) {ws : List CStr}
    (hws : ∀ w ∈ ws, Unbroken w) : Unbroken (sep.intercalate ws) := by
  induction ws with
  | nil => exact List.forall_mem_nil _
  | cons w ws ih =>
    obtain ⟨hw, hws⟩ := List.forall_mem_cons.mp hws
    by_cases hnil : ws = []
    · subst hnil
      rwa [List.intercalate_singleton]
    · rw [List.intercalate_cons_of_ne_nil hnil]
      exact (hw.append hsep).append (ih hws)

/-- A byte in hexadecimal has no delimiter. -/
theorem unbroken_hexByte (b : UInt8) : Unbroken (hexByte b) := by
  have hdigit : ∀ i : Fin 16, isConntrackDelim (hexDigit i) = false := by decide
  exact forall_mem_hexByte hdigit b

/-- The text of an address has no delimiter. -/
theorem unbroken_kernelText {family : CtFamily} (addr : CtAddr family) :
    Unbroken addr.kernelText := by
  have hdot (b : UInt8) : Unbroken ('.' :: decimal b.toNat) := .cons rfl (unbroken_decimal _)
  cases family with
  | ipv4 => exact (((unbroken_decimal _).append (hdot _)).append (hdot _)).append (hdot _)
  | ipv6 =>
    apply Unbroken.intercalate (.cons rfl (List.forall_mem_nil _))
    intro w hw
    obtain ⟨i, -, rfl⟩ := List.mem_map.mp hw
    exact (unbroken_hexByte _).append (unbroken_hexByte _)

/-- The addresses, ports and counters of a line are words. -/
theorem isLineWord_addrWords {family : CtFamily} (src dst : CtAddr family) :
    ∀ w ∈ addrWords src dst, IsLineWord w :=
  List.forall_mem_cons.mpr ⟨isLineWord_field rfl (unbroken_kernelText src),
    List.forall_mem_singleton.mpr (isLineWord_field rfl (unbroken_kernelText dst))⟩

/-- The words of the ports are words of a line. -/
theorem CtPorts.isLineWord_words (ports : CtPorts) : ∀ w ∈ ports.words, IsLineWord w :=
  List.forall_mem_cons.mpr ⟨isLineWord_field rfl (unbroken_decimal _),
    List.forall_mem_singleton.mpr (isLineWord_field rfl (unbroken_decimal _))⟩

/-- The words of the counters are words of a line. -/
theorem isLineWord_acctWords (packets bytes : UInt64) :
    ∀ w ∈ acctWords packets bytes, IsLineWord w :=
  List.forall_mem_cons.mpr ⟨isLineWord_field rfl (unbroken_decimal _),
    List.forall_mem_singleton.mpr (isLineWord_field rfl (unbroken_decimal _))⟩

/-- What a protocol prints is words where those that are its own are. -/
theorem CtProto.isLineWord_words {proto : CtProto} (h : ∀ w ∈ proto.foreignWords, IsLineWord w)
    (offloaded : Bool) :
    IsLineWord proto.name ∧ (∀ w ∈ proto.stateWords offloaded, IsLineWord w) ∧
      (∀ w ∈ proto.origWords, IsLineWord w) ∧ ∀ w ∈ proto.replyWords, IsLineWord w := by
  cases proto with
  | tcp state orig reply =>
    refine ⟨rfl, ?_, orig.isLineWord_words, reply.isLineWord_words⟩
    unfold stateWords
    split_ifs
    · exact List.forall_mem_nil _
    · exact List.forall_mem_singleton.mpr (by cases state <;> rfl)
  | udp orig reply =>
    exact ⟨rfl, List.forall_mem_nil _, orig.isLineWord_words, reply.isLineWord_words⟩
  | other proto =>
    obtain ⟨hname, hwords⟩ := List.forall_mem_cons.mp h
    obtain ⟨hrest, hreply⟩ := List.forall_mem_append.mp hwords
    obtain ⟨hstate, horig⟩ := List.forall_mem_append.mp hrest
    exact ⟨hname, hstate, horig, hreply⟩

/-- What a line has of a direction is words. -/
theorem isLineWord_direction {family : CtFamily} (src dst : CtAddr family)
    {ports marks acct : List CStr}
    (hports : ∀ w ∈ ports, IsLineWord w) (hmarks : ∀ w ∈ marks, IsLineWord w)
    (hacct : ∀ w ∈ acct, IsLineWord w) :
    ∀ w ∈ addrWords src dst ++ ports ++ marks ++ acct, IsLineWord w := by
  have haddr := List.forall_mem_append.mpr ⟨isLineWord_addrWords src dst, hports⟩
  exact List.forall_mem_append.mpr ⟨List.forall_mem_append.mpr ⟨haddr, hmarks⟩, hacct⟩

/-- The words of a line have no white space in them. -/
theorem CtEntry.isLineWord_words {e : CtEntry} (h : ∀ w ∈ e.foreignWords, IsLineWord w)
    (file : ProcfsFile) : ∀ w ∈ e.words file, IsLineWord w := by
  obtain ⟨hrest, hmarks⟩ := List.forall_mem_append.mp h
  obtain ⟨hrest, hreplyMarks⟩ := List.forall_mem_append.mp hrest
  obtain ⟨hproto, horigMarks⟩ := List.forall_mem_append.mp hrest
  obtain ⟨hname, hstate, horig, hreply⟩ := CtProto.isLineWord_words hproto e.offloaded
  have htimeout : ∀ w ∈ e.timeoutWords, IsLineWord w := by
    unfold timeoutWords
    split_ifs
    · exact List.forall_mem_nil _
    · exact List.forall_mem_singleton.mpr (isLineWord_decimal _)
  have horigWords : ∀ w ∈ e.origWords, IsLineWord w := by
    apply isLineWord_direction _ _ horig horigMarks
    cases e.counters with
    | none => exact List.forall_mem_nil _
    | some c => exact isLineWord_acctWords _ _
  have hreplyWords : ∀ w ∈ e.replyWords, IsLineWord w := by
    apply isLineWord_direction _ _ hreply hreplyMarks
    cases e.counters with
    | none => exact List.forall_mem_nil _
    | some c => exact isLineWord_acctWords _ _
  have hreplied : ∀ w ∈ e.repliedWords, IsLineWord w := by
    unfold repliedWords
    split_ifs
    · exact List.forall_mem_nil _
    · exact List.forall_mem_singleton.mpr rfl
  have hflag : ∀ w ∈ e.flagWords, IsLineWord w := by
    unfold flagWords
    split_ifs
    · exact List.forall_mem_singleton.mpr rfl
    · exact List.forall_mem_singleton.mpr rfl
    · exact List.forall_mem_singleton.mpr rfl
    · exact List.forall_mem_nil _
  have hprotoWords : ∀ w ∈ e.protoWords, IsLineWord w := by
    apply List.forall_mem_cons.mpr ⟨hname, List.forall_mem_cons.mpr ⟨isLineWord_decimal _, ?_⟩⟩
    simp only [List.forall_mem_append]
    exact ⟨⟨⟨⟨⟨⟨htimeout, hstate⟩, horigWords⟩, hreplied⟩, hreplyWords⟩, hflag⟩, hmarks⟩
  cases file with
  | nfConntrack =>
    apply List.forall_mem_append.mpr ⟨?_, hprotoWords⟩
    cases e.family with
    | ipv4 => exact List.forall_mem_cons.mpr ⟨rfl, List.forall_mem_singleton.mpr rfl⟩
    | ipv6 => exact List.forall_mem_cons.mpr ⟨rfl, List.forall_mem_singleton.mpr rfl⟩
  | ipConntrack => exact hprotoWords

/-- There is white space behind each word. -/
theorem gapBehind_delims (file : ProcfsFile) (count : ℕ) (w : CStr) (place : ℕ) :
    gapBehind file count w place ≠ [] ∧ ∀ c ∈ gapBehind file count w place,
      isConntrackDelim c = true := by
  unfold gapBehind
  split_ifs
  · refine ⟨List.cons_ne_nil _ _, List.forall_mem_cons.mpr ⟨rfl, fun c hc => ?_⟩⟩
    rw [List.eq_of_mem_replicate hc]
    rfl
  · exact ⟨List.cons_ne_nil _ _, List.forall_mem_singleton.mpr rfl⟩
  · exact ⟨List.cons_ne_nil _ _, List.forall_mem_singleton.mpr rfl⟩

/-- The line that the kernel prints shows the entry. -/
theorem CtEntry.tokens_kernelLine {e : CtEntry} (h : ∀ w ∈ e.foreignWords, IsLineWord w)
    (file : ProcfsFile) : tokens isConntrackDelim (e.kernelLine file) = e.words file := by
  have hwords := e.isLineWord_words h file
  rw [kernelLine, tokens_rows, List.map_map]
  · exact List.zipIdx_map_fst 0 (e.words file)
  · rintro _ hrow
    obtain ⟨⟨w, place⟩, hw, rfl⟩ := List.mem_map.mp hrow
    exact hwords w (List.fst_mem_of_mem_zipIdx hw)
  · rintro _ hrow
    obtain ⟨⟨w, place⟩, -, rfl⟩ := List.mem_map.mp hrow
    exact gapBehind_delims file _ w place

/-- The line that the kernel prints, where it fits. -/
def CtEntry.procfsLine (e : CtEntry) (file : ProcfsFile) (h : ∀ w ∈ e.foreignWords, IsLineWord w)
    (hfits : (e.kernelLine file).length < conntrackLineMax) : ProcfsLine file e where
  text := e.kernelLine file
  fits := hfits
  words_eq := e.tokens_kernelLine h file

/-- The reader inverts the kernel's `seq_printf`. -/
theorem CtEntry.parse_kernelLine {e : CtEntry} (h : ∀ w ∈ e.foreignWords, IsLineWord w)
    (hfits : (e.kernelLine .nfConntrack).length < conntrackLineMax) (hoff : e.offloaded = false)
    {c : CtCounters} (hc : e.counters = some c) {orig reply : CtPorts}
    (hports : e.proto.ShowsPorts orig reply) :
    parseConntrackProcfsLine (e.kernelLine .nfConntrack) = some (e.shownFlow c orig reply) :=
  (e.procfsLine .nfConntrack h hfits).parse_eq hoff hc hports

/-- The line of a query that has no answer yet. -/
example :
    CtEntry.kernelLine
      { family := .ipv4
        origSrc := ⟨[192, 168, 1, 2], rfl⟩
        origDst := ⟨[8, 8, 8, 8], rfl⟩
        replySrc := ⟨[8, 8, 8, 8], rfl⟩
        replyDst := ⟨[10, 0, 0, 2], rfl⟩
        proto := .udp ⟨40000, 53⟩ ⟨53, 40000⟩
        status := 0x8
        timeout := 29
        counters := some ⟨1, 60, 0, 0⟩
        marks := ["use=2".toList]
        marks_other := by decide
        attrs_type := List.forall_mem_nil _ } .nfConntrack =
      ("ipv4     2 udp      17 29 src=192.168.1.2 dst=8.8.8.8 sport=40000 dport=53 packets=1 bytes=60 " ++
        "[UNREPLIED] src=8.8.8.8 dst=10.0.0.2 sport=53 dport=40000 packets=0 bytes=0 use=2\n").toList := by
  rw [String.toList_append]
  decide +kernel

/-! ## Lines that are no flow -/

/-- A token of a line names a source. -/
def HasSource (line : CStr) : Prop :=
  ∃ w ∈ tokens isConntrackDelim line, startsWith w "src=".toList = true

/-- A token of a line has a byte count that can be read. -/
def HasByteCount (line : CStr) : Prop :=
  ∃ w ∈ tokens isConntrackDelim line,
    startsWith w "bytes=".toList = true ∧ (strtoull (w.drop 6)).isSome = true

/-- What a text starts with, a longer one starts with as well. -/
theorem startsWith_of_prefix {w w' pre : CStr} (hpre : w <+: w') (h : startsWith w pre = true) :
    startsWith w' pre = true :=
  List.isPrefixOf_iff_prefix.mpr ((List.isPrefixOf_iff_prefix.mp h).trans hpre)

/-- The words that the reader has in its buffer are at the start of the tokens of the line. -/
theorem exists_token_of_word {line w : CStr} (h : w ∈ conntrackWords line) :
    ∃ w' ∈ tokens isConntrackDelim line, w <+: w' := by
  have hw := exists_prefix_of_mem_tokens h (line.drop (conntrackLineMax - 1))
  rwa [snprintf, List.take_append_drop] at hw

/-- A word without `src=` has no source. -/
theorem source_eq_none {w : CStr} (h : ¬startsWith w "src=".toList = true) :
    (wordKind w).source = none := by
  unfold wordKind
  rw [if_neg h]
  split_ifs
  · rfl
  · rfl
  · cases strtoull (w.drop 6) <;> rfl
  · rfl
  · rfl

/-- A word without `bytes=` and a number has no bytes. -/
theorem byteCount_eq_none {w : CStr}
    (h : ¬(startsWith w "bytes=".toList = true ∧ (strtoull (w.drop 6)).isSome = true)) :
    (wordKind w).byteCount = none := by
  unfold wordKind
  split_ifs with hsrc hsport hdport hbytes
  · rfl
  · rfl
  · rfl
  · cases hread : strtoull (w.drop 6) with
    | none => rfl
    | some n => exact absurd ⟨hbytes, hread ▸ rfl⟩ h
  · rfl
  · rfl

/-- A line without a source or without a byte count is no flow. -/
theorem parse_eq_none {line : CStr} (h : ¬HasSource line ∨ ¬HasByteCount line) :
    parseConntrackProcfsLine line = none := by
  rw [parseConntrackProcfsLine_eq]
  dsimp only [flowOfWords]
  rcases h with h | h
  · have hsrc : pick WordKind.source (conntrackWords line) = [] := by
      apply pick_eq_nil
      intro w hw
      obtain ⟨w', hw', hpre⟩ := exists_token_of_word hw
      exact source_eq_none fun hkey => h ⟨w', hw', startsWith_of_prefix hpre hkey⟩
    rw [hsrc]
    rfl
  · have hbytes : pick WordKind.byteCount (conntrackWords line) = [] := by
      apply pick_eq_nil
      intro w hw
      obtain ⟨w', hw', hpre⟩ := exists_token_of_word hw
      exact byteCount_eq_none fun hkey => h ⟨w', hw', startsWith_of_prefix hpre hkey.1,
        isSome_strtoull_of_prefix (hpre.drop 6) hkey.2⟩
    rw [hbytes, List.getElem?_nil, Option.isSome_none, Bool.and_false]
    rfl

/-- A line that is no flow leaves the table as it is, wherever it stands. -/
theorem samples_without_line {line : CStr} (h : parseConntrackProcfsLine line = none)
    (ctx : FlowContext) (before after : List CStr) (agg : FlowAggregate) :
    ((before ++ line :: after).foldl (conntrackProcfsTurn ctx) agg).samples =
      ((before ++ after).foldl (conntrackProcfsTurn ctx) agg).samples := by
  rw [samples_foldl (samples_conntrackProcfsTurn ctx),
    samples_foldl (samples_conntrackProcfsTurn ctx), List.filterMap_append,
    List.filterMap_append, List.filterMap_cons_none]
  rw [h]
  rfl

/-- The procfs reader inverts the kernel's rendering: the line of an entry with counters that is not
offloaded gives the entry's flow, whatever its protocol. A line without a source or without a byte
count gives none: it leaves the table alone, and a file with it makes the table that the file
without it makes. -/
theorem procfs_line_inverted :
    (∀ (e : CtEntry) (line : ProcfsLine .nfConntrack e) (c : CtCounters) (orig reply : CtPorts),
      e.offloaded = false → e.counters = some c → e.proto.ShowsPorts orig reply →
      parseConntrackProcfsLine line.text = some (e.shownFlow c orig reply)) ∧
    ∀ line : CStr, ¬HasSource line ∨ ¬HasByteCount line →
      parseConntrackProcfsLine line = none ∧
      (∀ (ctx : FlowContext) (agg : FlowAggregate),
        (conntrackProcfsTurn ctx agg line).samples = agg.samples) ∧
      ∀ (maxSamples : ℕ) (nowMs : UInt64) (arpFile ipConntrack : Option CStr) (file file' : CStr)
        (before after : List CStr),
        fgetsLines conntrackLineMax file = before ++ line :: after →
        fgetsLines conntrackLineMax file' = before ++ after →
        (readConntrackProcfsSnapshot maxSamples nowMs arpFile (some file) ipConntrack).agg.samples =
          (readConntrackProcfsSnapshot maxSamples nowMs arpFile
            (some file') ipConntrack).agg.samples := by
  refine ⟨fun e line c orig reply hoff hc hports => line.parse_eq hoff hc hports, fun line h => ?_⟩
  have hnone := parse_eq_none h
  refine ⟨hnone, fun ctx agg => samples_without_line hnone ctx [] [] agg, ?_⟩
  intro maxSamples nowMs arpFile ipConntrack file file' before after hfile hfile'
  unfold readConntrackProcfsSnapshot openConntrackProcfs
  dsimp only [Option.or]
  split_ifs
  · rfl
  · rw [hfile, hfile']
    exact samples_without_line hnone _ before after {}

/-- The line of an established connection, and a line whose byte count is no number. -/
theorem procfs_line_inverted_tcp :
    let e : CtEntry :=
      { family := .ipv4
        origSrc := ⟨[192, 168, 1, 2], rfl⟩
        origDst := ⟨[1, 1, 1, 1], rfl⟩
        replySrc := ⟨[1, 1, 1, 1], rfl⟩
        replyDst := ⟨[10, 0, 0, 2], rfl⟩
        proto := .tcp .established ⟨40000, 443⟩ ⟨443, 40000⟩
        status := 0xe
        timeout := 300
        counters := some ⟨10, 1000, 8, 5000⟩
        marks := ["mark=0".toList, "use=2".toList]
        marks_other := by decide
        attrs_type := List.forall_mem_nil _ }
    parseConntrackProcfsLine ((e.words .nfConntrack).flatMap fun w => w ++ [' ']) =
        some (e.shownFlow ⟨10, 1000, 8, 5000⟩ ⟨40000, 443⟩ ⟨443, 40000⟩) ∧
      parseConntrackProcfsLine "ipv4 2 tcp 6 300 CLOSE src=192.168.1.2 bytes=none\n".toList =
        none := by
  intro e
  let line : ProcfsLine .nfConntrack e :=
    { text := (e.words .nfConntrack).flatMap fun w => w ++ [' ']
      fits := by decide +kernel
      words_eq := tokens_flatMap rfl (by decide +kernel) }
  refine ⟨procfs_line_inverted.1 e line _ _ _ (by decide) rfl (.tcp ..), ?_⟩
  refine (procfs_line_inverted.2 _ (.inr ?_)).1
  rintro ⟨w, hw, hkey, hread⟩
  revert w
  decide

end Lanspeed
