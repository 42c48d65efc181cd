import Lanspeed.Conntrack.Flow

/-!
# What the procfs reader takes from the words of a line

The loop of `parse_conntrack_procfs_line` keeps five counters. What it makes of a line is read off
the list of words all the same: the words of one kind in their order, and two fixed positions
(`foldl_turn`, `parseConntrackProcfsLine_eq`).
-/

namespace Lanspeed

open CText

/-- What the chain of tests takes a word for. -/
inductive WordKind where
  | src (text : CStr)
  | sport (port : Option UInt16)
  | dport (port : Option UInt16)
  | bytes (value : ℕ)
  | assured
  | other
deriving DecidableEq, Repr

/-- The kind of a word, by the tests in the order of the source. -/
def wordKind (w : CStr) : WordKind :=
  if startsWith w "src=".toList then .src (w.drop 4)
  else if startsWith w "sport=".toList then .sport (portOf (w.drop 6))
  else if startsWith w "dport=".toList then .dport (portOf (w.drop 6))
  else if startsWith w "bytes=".toList then
    match strtoull (w.drop 6) with
    | none => .other
    | some value => .bytes value
  else if w = "[ASSURED]".toList then .assured
  else .other

/-- The text of a source. -/
def WordKind.source : WordKind → Option CStr
  | .src text => some text
  | _ => none

/-- What stands behind `sport=`: a port, or `none` where it cannot be read. -/
def WordKind.sourcePort : WordKind → Option (Option UInt16)
  | .sport port => some port
  | _ => none

/-- What stands behind `dport=`. -/
def WordKind.destPort : WordKind → Option (Option UInt16)
  | .dport port => some port
  | _ => none

/-- The number behind `bytes=`. -/
def WordKind.byteCount : WordKind → Option ℕ
  | .bytes value => some value
  | _ => none

def WordKind.isAssured : WordKind → Bool
  | .assured => true
  | _ => false

/-- What the words of one kind hold, in their order. -/
def pick {α : Type*} (get : WordKind → Option α) (ws : List CStr) : List α :=
  ws.filterMap fun w => get (wordKind w)

/-- The text that words leave in `tcp_state`. -/
def tcpStateOf (ws : List CStr) : CStr :=
  if ws[2]? == some "tcp".toList then (ws[5]?.map (snprintf 16)).getD [] else []

/-- The flow that the loop makes of words. -/
def flowOfWords (ws : List CStr) : ConntrackFlowSample where
  origSrc := ((pick WordKind.source ws)[0]?.map (snprintf ipStrLen)).getD []
  hasOrigSrc := (pick WordKind.source ws)[0]?.isSome
  origSport := (pick WordKind.sourcePort ws)[0]?.join.getD 0
  replySport := (pick WordKind.sourcePort ws)[1]?.join.getD 0
  origDport := (pick WordKind.destPort ws)[0]?.join.getD 0
  replyDport := (pick WordKind.destPort ws)[1]?.join.getD 0
  origBytes := ((pick WordKind.byteCount ws)[0]?.map UInt64.ofNat).getD 0
  hasOrigBytes := (pick WordKind.byteCount ws)[0]?.isSome
  replyBytes := ((pick WordKind.byteCount ws)[1]?.map UInt64.ofNat).getD 0
  protocol := (ws[2]?.map (snprintf 8)).getD []
  isTcp := ws[2]? == some "tcp".toList
  isUdp := ws[2]? == some "udp".toList
  tcpState := tcpStateOf ws
  assured := ws.any fun w => (wordKind w).isAssured

/-- The variables of the loop once it has gone through words. -/
def ProcfsParse.ofWords (ws : List CStr) : ProcfsParse where
  flow := flowOfWords ws
  srcIndex := (pick WordKind.source ws).length
  sportIndex := (pick WordKind.sourcePort ws).length
  dportIndex := (pick WordKind.destPort ws).length
  bytesIndex := (pick WordKind.byteCount ws).length
  tokenIndex := ws.length

/-! ## The invariant of the loop -/

/-- The chain of tests, by the kind of the word. -/
def ProcfsParse.take (p : ProcfsParse) : WordKind → ProcfsParse
  | .src text =>
    { p with
      flow :=
        { p.flow with
          origSrc := if p.srcIndex = 0 then snprintf ipStrLen text else p.flow.origSrc
          hasOrigSrc := p.srcIndex == 0 || p.flow.hasOrigSrc }
      srcIndex := p.srcIndex + 1 }
  | .sport port =>
    { p with
      flow :=
        { p.flow with
          origSport := if p.sportIndex = 0 then port.getD p.flow.origSport else p.flow.origSport
          replySport :=
            if p.sportIndex = 1 then port.getD p.flow.replySport else p.flow.replySport }
      sportIndex := p.sportIndex + 1 }
  | .dport port =>
    { p with
      flow :=
        { p.flow with
          origDport := if p.dportIndex = 0 then port.getD p.flow.origDport else p.flow.origDport
          replyDport :=
            if p.dportIndex = 1 then port.getD p.flow.replyDport else p.flow.replyDport }
      dportIndex := p.dportIndex + 1 }
  | .bytes value =>
    { p with
      flow :=
        { p.flow with
          origBytes := if p.bytesIndex = 0 then UInt64.ofNat value else p.flow.origBytes
          hasOrigBytes := p.bytesIndex == 0 || p.flow.hasOrigBytes
          replyBytes := if p.bytesIndex = 1 then UInt64.ofNat value else p.flow.replyBytes }
      bytesIndex := p.bytesIndex + 1 }
  | .assured => { p with flow := { p.flow with assured := true } }
  | .other => p

/-- A word is taken by what it starts with. -/
theorem ProcfsParse.keyed_eq_take (p : ProcfsParse) (w : CStr) :
    p.keyed w = p.take (wordKind w) := by
  unfold keyed wordKind
  by_cases hsrc : startsWith w "src=".toList = true
  · rw [if_pos hsrc, if_pos hsrc]
    by_cases h0 : p.srcIndex = 0 <;> simp [take, h0, beq_false_of_ne]
  rw [if_neg hsrc, if_neg hsrc]
  by_cases hsport : startsWith w "sport=".toList = true
  · rw [if_pos hsport, if_pos hsport]
    cases portOf (w.drop 6) with
    | none => simp [take]
    | some port => by_cases h0 : p.sportIndex = 0 <;> by_cases h1 : p.sportIndex =
        1 <;> simp_all [take]
  rw [if_neg hsport, if_neg hsport]
  by_cases hdport : startsWith w "dport=".toList = true
  · rw [if_pos hdport, if_pos hdport]
    cases portOf (w.drop 6) with
    | none => simp [take]
    | some port => by_cases h0 : p.dportIndex = 0 <;> by_cases h1 : p.dportIndex =
        1 <;> simp_all [take]
  rw [if_neg hdport, if_neg hdport]
  by_cases hbytes : startsWith w "bytes=".toList = true
  · rw [if_pos hbytes, if_pos hbytes]
    cases strtoull (w.drop 6) with
    | none => rfl
    | some value =>
      by_cases h0 : p.bytesIndex = 0 <;> by_cases h1 : p.bytesIndex = 1 <;>
        simp_all [take, beq_false_of_ne]
  rw [if_neg hbytes, if_neg hbytes]
  by_cases hassured : w = "[ASSURED]".toList
  · rw [if_pos hassured, if_pos hassured]
    rfl
  · rw [if_neg hassured, if_neg hassured]
    rfl

/-- The two tests for a fixed position, field by field. -/
theorem ProcfsParse.position_eq (p : ProcfsParse) (w : CStr) :
    p.position w =
      { p.flow with
        protocol := if p.tokenIndex = 2 then snprintf 8 w else p.flow.protocol
        isTcp := if p.tokenIndex = 2 then w == "tcp".toList else p.flow.isTcp
        isUdp := if p.tokenIndex = 2 then w == "udp".toList else p.flow.isUdp
        tcpState :=
          if p.tokenIndex = 5 ∧ p.flow.isTcp then snprintf 16 w else p.flow.tcpState } := by
  unfold position
  by_cases h2 : p.tokenIndex = 2
  · simp [h2]
  · rw [if_neg h2]
    split_ifs <;> simp [*]

section Concat

variable {α β : Type*} (l : List α) (a : α) (i : ℕ)

/-- An index into a list with one more entry. -/
theorem getElem?_concat : (l ++ [a])[i]? = if l.length = i then some a else l[i]? := by
  rw [List.getElem?_append]
  split_ifs <;> grind

/-- One more item is read at the place behind the others. -/
theorem map_getD_concat (f : α → β) (d : β) :
    ((l ++ [a])[i]?.map f).getD d = if l.length = i then f a else (l[i]?.map f).getD d := by
  rw [getElem?_concat]
  split_ifs <;> rfl

/-- One more item is at the place behind the others. -/
theorem isSome_concat : (l ++ [a])[i]?.isSome = (l.length == i || l[i]?.isSome) := by
  rw [getElem?_concat]
  split_ifs with h
  · rw [h, beq_self_eq_true]
    rfl
  · rw [beq_false_of_ne h, Bool.false_or]

/-- One more item is compared at the place behind the others. -/
theorem beq_concat [BEq α] (b : α) :
    ((l ++ [a])[i]? == some b) = if l.length = i then a == b else l[i]? == some b := by
  rw [getElem?_concat]
  split_ifs <;> rfl

/-- A port that cannot be read leaves the field at zero. -/
theorem join_concat (l : List (Option UInt16)) (a : Option UInt16) (i : ℕ) :
    (l ++ [a])[i]?.join.getD 0
      = if l.length = i then a.getD (l[i]?.join.getD 0) else l[i]?.join.getD 0 := by
  rw [getElem?_concat]
  split_ifs with h
  · rw [List.getElem?_eq_none h.le]
    rfl
  · rfl

end Concat

/-- The state is written by the sixth word, and only behind a third one that is `tcp`. -/
theorem tcpStateOf_concat (ws : List CStr) (w : CStr) :
    tcpStateOf (ws ++ [w])
      = if ws.length = 5 ∧ (ws[2]? == some "tcp".toList) = true then snprintf 16 w
        else tcpStateOf ws := by
  rw [tcpStateOf, tcpStateOf, map_getD_concat, beq_concat]
  by_cases h2 : ws.length = 2
  · simp [h2]
  · rw [if_neg h2]
    by_cases htcp : (ws[2]? == some "tcp".toList) = true
    · simp only [htcp, if_true, and_true]
    · rw [if_neg htcp, if_neg htcp, if_neg fun h => htcp h.2]

/-- What is picked from the last word comes after what is picked from the others. -/
theorem pick_concat {α : Type*} (get : WordKind → Option α) (ws : List CStr) (w : CStr) :
    pick get (ws ++ [w]) = pick get ws ++ (get (wordKind w)).toList := by
  rw [pick, List.filterMap_append]
  cases h : get (wordKind w) <;> simp [pick, h]

/-- One turn of the loop takes the flow of some words to that of one word more. -/
theorem turn_ofWords (ws : List CStr) (w : CStr) :
    (ProcfsParse.ofWords ws).turn w = ProcfsParse.ofWords (ws ++ [w]) := by
  rw [ProcfsParse.turn, ProcfsParse.keyed_eq_take, ProcfsParse.position_eq]
  -- Each field of the flow is one of the lists above, with the word at its end.
  cases hkind : wordKind w <;>
    simp only [ProcfsParse.ofWords, ProcfsParse.take, flowOfWords,
      pick_concat, hkind, WordKind.source, WordKind.sourcePort,
      WordKind.destPort, WordKind.byteCount, WordKind.isAssured, map_getD_concat,
      isSome_concat, beq_concat, join_concat, tcpStateOf_concat, Option.toList, List.append_nil,
      List.length_append, List.length_singleton, List.any_append,
      List.any_cons, List.any_nil, Bool.or_false, Bool.or_true] <;> rfl

/-- After the loop the reader knows what its words say, taken as a whole. -/
theorem foldl_turn (ws : List CStr) : ws.foldl ProcfsParse.turn {} = ProcfsParse.ofWords ws := by
  induction ws using List.reverseRecOn with
  | nil => rfl
  | append_singleton ws w ih => rw [List.foldl_concat, ih, turn_ofWords]

/-- The words of a line, as the reader has them in its buffer. -/
def conntrackWords (line : CStr) : List CStr :=
  tokens isConntrackDelim (snprintf conntrackLineMax line)

/-- The flow of a line is that of its words, with the DNS flag. It takes a source and a
byte count. -/
theorem parseConntrackProcfsLine_eq (line : CStr) :
    parseConntrackProcfsLine line =
      let flow := flowOfWords (conntrackWords line)
      if flow.hasOrigSrc && flow.hasOrigBytes then some { flow with udpIsDns := flow.hasDnsPort }
      else none := by
  rw [parseConntrackProcfsLine, foldl_turn, conntrackWords]
  rfl

end Lanspeed
