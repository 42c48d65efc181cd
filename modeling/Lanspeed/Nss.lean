import Lanspeed.Conntrack.Aggregate

/-!
# The NSS connection manager

`read_nss_ecm_direct_snapshot` reads the state file of the connection manager: lines
`conns.conn.<serial>.<field>=<value>`, where the lines of one serial make one flow. A flow is
aggregated as a conntrack flow is, except that its MAC address is the one in the record if that is
valid.
-/

namespace Lanspeed

open CText

/-- `struct nss_ecm_direct_flow`. -/
structure NssEcmDirectFlow where
  serial : CStr := []
  sipAddress : CStr := []
  dipAddress : CStr := []
  snodeAddress : CStr := []
  dnodeAddress : CStr := []
  fromDataTotal : UInt64 := 0
  toDataTotal : UInt64 := 0
  protocol : Int32 := 0
  hasSipAddress : Bool := false
  hasFromDataTotal : Bool := false
deriving DecidableEq, Repr

/-- `nss_ecm_direct_flow_reset`. -/
def nssEcmDirectFlowReset (serial : CStr) : NssEcmDirectFlow := { serial := snprintf 32 serial }

/-- `parse_nss_ecm_state_key`: the serial and the field. -/
def parseNssEcmStateKey (key : CStr) : Option (CStr × CStr) :=
  if !startsWith key "conns.conn.".toList then none
  else
    let p := key.drop 11
    let serial := p.takeWhile (· != '.')
    if serial.length = p.length ∨ serial = [] then none
    else if serial.length ≥ 32 then none
    else
      let field := snprintf 96 (p.drop (serial.length + 1))
      if field = [] then none else some (serial, field)

/-- `NSS_ECM_STATE_LINE_MAX`. -/
def nssEcmStateLineMax : ℕ := 1024

/-- `parse_nss_ecm_state_line`: the serial, the field and the value. -/
def parseNssEcmStateLine (line : CStr) : Option (CStr × CStr × CStr) :=
  let buffer := snprintf nssEcmStateLineMax line
  let key := buffer.takeWhile (· != '=')
  if key.length = buffer.length then none
  else
    let rawValue := (buffer.drop (key.length + 1)).takeWhile fun c => c != '\r' && c != '\n'
    (parseNssEcmStateKey key).map fun (serial, field) =>
      (serial, field, snprintf nssEcmStateLineMax rawValue)

/-- `atoi`. -/
def atoi (s : CStr) : Int32 :=
  let (negative, s) := sign (s.dropWhile isSpace)
  let n := Int32.ofNat (Nat.ofDigitChars 10 (s.takeWhile Char.isDigit) 0)
  if negative then -n else n

/-- `atoi` reads a number that an `int` holds. -/
theorem toInt_atoi {s : CStr} (h : |CText.atoi s| < 2 ^ 31) : (atoi s).toInt = CText.atoi s := by
  have hword : atoi s = Int32.ofInt (CText.atoi s) := by
    rw [atoi, CText.atoi]
    dsimp only
    split_ifs
    · exact Int32.neg_ofNat
    · exact Int32.ofInt_eq_ofNat.symm
  obtain ⟨hmin, hmax⟩ := abs_lt.mp h
  rw [hword, Int32.toInt_ofInt_of_le hmin.le hmax]

/-- `nss_ecm_direct_flow_apply_field`. -/
def nssEcmDirectFlowApplyField (flow : NssEcmDirectFlow) (field value : CStr) : NssEcmDirectFlow :=
  if field = "sip_address".toList then
    { flow with sipAddress := snprintf ipStrLen value, hasSipAddress := true }
  else if field = "dip_address".toList then { flow with dipAddress := snprintf ipStrLen value }
  else if field = "snode_address".toList then
    { flow with snodeAddress := normalizeMacAddress (snprintf macStrLen value) }
  else if field = "dnode_address".toList then
    { flow with dnodeAddress := normalizeMacAddress (snprintf macStrLen value) }
  else if field = "protocol".toList then { flow with protocol := atoi value }
  else if field = "adv_stats.from_data_total".toList then
    { flow with
      fromDataTotal := UInt64.ofNat ((strtoull value).getD 0)
      hasFromDataTotal := (strtoull value).isSome }
  else if field = "adv_stats.to_data_total".toList then
    { flow with toDataTotal := UInt64.ofNat ((strtoull value).getD 0) }
  else flow

/-- The share of an NSS flow whose source is in an ARP row. -/
def nssShare (arp : ArpEntry) (flow : NssEcmDirectFlow) : FlowShare :=
  { mac := normalizeMacAddress
      (if validMacAddress flow.snodeAddress then snprintf macStrLen flow.snodeAddress
        else snprintf macStrLen arp.mac)
    arp := arp
    txBytes := flow.fromDataTotal
    rxBytes := flow.toDataTotal
    tcp := flow.protocol == 6
    udp := flow.protocol == 17 }

/-- `add_nss_ecm_direct_flow_to_samples`. -/
def addNssEcmDirectFlowToSamples (ctx : FlowContext) (agg : FlowAggregate)
    (flow : NssEcmDirectFlow) : FlowAggregate :=
  if !flow.hasSipAddress || !flow.hasFromDataTotal then agg
  else
    match findArpEntry ctx.arp flow.sipAddress with
    | none => { agg with stats := { agg.stats with skippedNoArp := agg.stats.skippedNoArp + 1 } }
    | some arp => addFlowShare ctx (nssShare arp flow) agg

/-- The share of a flow, where it belongs to a client. -/
def nssFlowShare (arp : List ArpEntry) (flow : NssEcmDirectFlow) : Option FlowShare :=
  if !flow.hasSipAddress || !flow.hasFromDataTotal then none
  else (findArpEntry arp flow.sipAddress).map fun row => nssShare row flow

/-! ## Reading the state file -/

/-- The flow that the lines read last belong to: `active_flow`, `active_serial`
and `have_active`. -/
structure NssEcmDirectActive where
  flow : NssEcmDirectFlow := {}
  serial : CStr := []
  haveActive : Bool := false
deriving DecidableEq, Repr

/-- A line under another serial than the active one completes the active flow. -/
def NssEcmDirectActive.completed (active : NssEcmDirectActive) (serial : CStr) :
    Option NssEcmDirectFlow :=
  if active.serial ≠ [] ∧ active.serial ≠ serial then some active.flow else none

/-- The active flow after a line. -/
def NssEcmDirectActive.next (active : NssEcmDirectActive) (serial field value : CStr) :
    NssEcmDirectActive :=
  let active :=
    if active.serial ≠ [] ∧ active.serial ≠ serial then
      { active with flow := nssEcmDirectFlowReset serial, serial := snprintf 32 serial }
    else if active.serial = [] then
      { active with flow := nssEcmDirectFlowReset serial, serial := snprintf 32 serial }
    else active
  { active with flow := nssEcmDirectFlowApplyField active.flow field value, haveActive := true }

/-- Count a flow as an entry, and aggregate it. -/
def nssEcmDirectEntry (ctx : FlowContext) (agg : FlowAggregate) (flow : NssEcmDirectFlow) :
    FlowAggregate :=
  addNssEcmDirectFlowToSamples ctx
    { agg with stats := { agg.stats with entriesSeen := agg.stats.entriesSeen + 1 } } flow

/-- One turn of the loop of `read_nss_ecm_direct_snapshot`. -/
def nssEcmDirectTurn (ctx : FlowContext) (l : NssEcmDirectActive × FlowAggregate) (line : CStr) :
    NssEcmDirectActive × FlowAggregate :=
  match parseNssEcmStateLine line with
  | none =>
    (l.1, { l.2 with stats := { l.2.stats with malformedLines := l.2.stats.malformedLines + 1 } })
  | some (serial, field, value) =>
    (l.1.next serial field value, (l.1.completed serial).toList.foldl (nssEcmDirectEntry ctx) l.2)

/-- The loop, and the entry that is still active after it. -/
def nssEcmDirectAggregate (ctx : FlowContext) (content : CStr) : FlowAggregate :=
  let (active, agg) := (fgetsLines nssEcmStateLineMax content).foldl (nssEcmDirectTurn ctx) ({}, {})
  if active.haveActive then nssEcmDirectEntry ctx agg active.flow else agg

/-- What `read_nss_ecm_direct_snapshot` hands back: what it read, the warnings it adds, and whether
it returns true. -/
structure NssEcmDirectSnapshot where
  agg : FlowAggregate := {}
  warnings : List CStr := []
  ok : Bool := false
deriving DecidableEq, Repr

/-- `read_nss_ecm_direct_snapshot`, on the content of the ARP file and of the state file, where they
can be opened. -/
def readNssEcmDirectSnapshot (maxSamples : ℕ) (nowMs : UInt64) (arpFile stateFile : Option CStr) :
    NssEcmDirectSnapshot :=
  let arp := loadArpTable arpFile
  if arp = [] then
    { warnings := addStringUnique (arpWarnings arpFile)
        "skip_nss_ecm_direct_flow_without_lan_identity".toList }
  else
    match stateFile with
    | none =>
      { warnings := addStringUnique (arpWarnings arpFile) "nss_ecm_direct_unavailable".toList }
    | some content =>
      let agg := nssEcmDirectAggregate { arp, maxSamples, nowMs } content
      { agg
        warnings := addWarnings
          [(agg.stats.malformedLines != 0, "nss_ecm_direct_parse_errors"),
            (agg.stats.skippedNoArp != 0, "skip_nss_ecm_direct_flow_without_lan_identity")]
          (arpWarnings arpFile)
        ok := agg.samples != [] }

/-! ## The table as a grouping -/

/-- An NSS flow changes the table by its share, if it has one. -/
theorem samples_addNssFlow (ctx : FlowContext) (agg : FlowAggregate) (flow : NssEcmDirectFlow) :
    (addNssEcmDirectFlowToSamples ctx agg flow).samples
      = (nssFlowShare ctx.arp flow).toList.foldl
          (GroupBy.step (shareGrouping ctx.nowMs) ctx.maxSamples) agg.samples := by
  unfold addNssEcmDirectFlowToSamples nssFlowShare
  split_ifs
  · rfl
  · cases findArpEntry ctx.arp flow.sipAddress with
    | none => rfl
    | some arp => exact samples_addFlowShare ctx _ agg

/-- The flows of a list of lines that follows an active flow. -/
def nssFlows (active : NssEcmDirectActive) : List CStr → List NssEcmDirectFlow
  | [] => if active.haveActive then [active.flow] else []
  | line :: lines =>
    match parseNssEcmStateLine line with
    | none => nssFlows active lines
    | some (serial, field, value) =>
      (active.completed serial).toList ++ nssFlows (active.next serial field value) lines

/-- What each flow changes in its own way, and the count of malformed lines not at all, a state file
changes by its flows. -/
theorem view_nssEcmDirectAggregate {V : Type*} (view : FlowAggregate → V)
    (add : V → NssEcmDirectFlow → V) {ctx : FlowContext}
    (hentry : ∀ agg flow, view (nssEcmDirectEntry ctx agg flow) = add (view agg) flow)
    (hmalformed : ∀ agg n,
      view { agg with stats := { agg.stats with malformedLines := n } } = view agg)
    (content : CStr) :
    view (nssEcmDirectAggregate ctx content) =
      (nssFlows {} (fgetsLines nssEcmStateLineMax content)).foldl add (view {}) := by
  have hentries : ∀ (flows : List NssEcmDirectFlow) agg,
      view (flows.foldl (nssEcmDirectEntry ctx) agg) = flows.foldl add (view agg) :=
    fun flows agg => (List.foldl_hom view fun agg flow => (hentry agg flow).symm).symm
  have hloop : ∀ (lines : List CStr) (active : NssEcmDirectActive) (agg : FlowAggregate),
      view (let l := lines.foldl (nssEcmDirectTurn ctx) (active, agg)
        if l.1.haveActive then nssEcmDirectEntry ctx l.2 l.1.flow else l.2)
      = (nssFlows active lines).foldl add (view agg) := by
    intro lines
    induction lines with
    | nil =>
      intro active agg
      rw [nssFlows]
      dsimp only [List.foldl_nil]
      split_ifs
      · exact hentries [active.flow] agg
      · rfl
    | cons line lines ih =>
      intro active agg
      rw [List.foldl_cons, nssFlows, nssEcmDirectTurn]
      cases parseNssEcmStateLine line with
      | none =>
        rw [← hmalformed agg (agg.stats.malformedLines + 1)]
        exact ih active _
      | some parsed =>
        obtain ⟨serial, field, value⟩ := parsed
        dsimp only
        rw [List.foldl_append, ← hentries]
        exact ih _ _
  exact hloop _ {} {}

/-- The table of a state file is the one that its flows make, one by one. -/
theorem samples_nssEcmDirectAggregate_foldl (ctx : FlowContext) (content : CStr) :
    (nssEcmDirectAggregate ctx content).samples
      = ((nssFlows {} (fgetsLines nssEcmStateLineMax content)).foldl
          (addNssEcmDirectFlowToSamples ctx) {}).samples := by
  let add (samples : List ConntrackClientSample) (flow : NssEcmDirectFlow) :=
    (nssFlowShare ctx.arp flow).toList.foldl
      (GroupBy.step (shareGrouping ctx.nowMs) ctx.maxSamples) samples
  have hentry : ∀ agg flow, (nssEcmDirectEntry ctx agg flow).samples = add agg.samples flow :=
    fun agg flow => samples_addNssFlow ctx _ flow
  have hadd :
      ∀ agg flow, add agg.samples flow = (addNssEcmDirectFlowToSamples ctx agg flow).samples :=
    fun agg flow => (samples_addNssFlow ctx agg flow).symm
  rw [view_nssEcmDirectAggregate FlowAggregate.samples add hentry (fun _ _ => rfl),
    ← List.foldl_hom FlowAggregate.samples hadd]

/-- The table of a state file is the table of the shares of its flows. -/
theorem samples_nssEcmDirectAggregate (ctx : FlowContext) (content : CStr) :
    (nssEcmDirectAggregate ctx content).samples
      = shareTable ctx ((nssFlows {} (fgetsLines nssEcmStateLineMax content)).filterMap
          (nssFlowShare ctx.arp)) :=
  (samples_nssEcmDirectAggregate_foldl ctx content).trans
    (samples_foldl (samples_addNssFlow ctx) _ {})

/-- The table of a read that returned true. -/
def NssEcmDirectSnapshot.table (read : NssEcmDirectSnapshot) :
    Option (List ConntrackClientSample) :=
  if read.ok then some read.agg.samples else none

/-- The shares of the flows in the state file, where both files can be read. -/
def nssSnapshotShares (arpFile stateFile : Option CStr) : Option (List FlowShare) :=
  if loadArpTable arpFile = [] then none
  else
    stateFile.map fun content =>
      (nssFlows {} (fgetsLines nssEcmStateLineMax content)).filterMap
        (nssFlowShare (loadArpTable arpFile))

/-- The table of the shares of a state file. -/
def nssClientTable (maxSamples : ℕ) (nowMs : UInt64) (arpFile : Option CStr)
    (shares : List FlowShare) : ClientTable where
  samples := shareTable { arp := loadArpTable arpFile, maxSamples, nowMs } shares
  distinct := GroupBy.distinct_groupBy (shareGrouping_lawful nowMs) shares

/-- The table that `read_nss_ecm_direct_snapshot` hands back when it returns true. -/
theorem table_readNssEcmDirectSnapshot (maxSamples : ℕ) (nowMs : UInt64)
    (arpFile stateFile : Option CStr) :
    (readNssEcmDirectSnapshot maxSamples nowMs arpFile stateFile).table
      = (((nssSnapshotShares arpFile stateFile).map
          (nssClientTable maxSamples nowMs arpFile)).map (·.samples)).filter (· != []) := by
  unfold readNssEcmDirectSnapshot nssSnapshotShares
  dsimp only
  by_cases harp : loadArpTable arpFile = []
  · rw [if_pos harp, if_pos harp]
    rfl
  · rw [if_neg harp, if_neg harp]
    cases stateFile with
    | none => rfl
    | some content =>
      have hsamples := samples_nssEcmDirectAggregate
        { arp := loadArpTable arpFile, maxSamples, nowMs } content
      rw [Option.map_some, Option.map_some, Option.map_some, Option.filter_some]
      show (if (nssEcmDirectAggregate { arp := loadArpTable arpFile,
                                        maxSamples, nowMs } content).samples
        != [] then some (nssEcmDirectAggregate _ content).samples else none) = _
      rw [hsamples]
      rfl

/-- What `read_nss_ecm_direct_snapshot` hands back to the collector. -/
def nssReadOf (maxSamples : ℕ) (nowMs : UInt64) (arpFile stateFile : Option CStr) :
    NssEcmDirectRead where
  warnings := (readNssEcmDirectSnapshot maxSamples nowMs arpFile stateFile).warnings
  table := ((nssSnapshotShares arpFile stateFile).map
    (nssClientTable maxSamples nowMs arpFile)).filter (·.samples != [])

/-- The table that the collector gets is the one that the reader has filled. -/
theorem samples_nssReadOf (maxSamples : ℕ) (nowMs : UInt64) (arpFile stateFile : Option CStr) :
    (nssReadOf maxSamples nowMs arpFile stateFile).table.map (·.samples)
      = (readNssEcmDirectSnapshot maxSamples nowMs arpFile stateFile).table := by
  rw [table_readNssEcmDirectSnapshot, nssReadOf]
  generalize (nssSnapshotShares arpFile stateFile).map (nssClientTable maxSamples nowMs arpFile)
    = table
  cases table with
  | none => rfl
  | some table =>
    dsimp only
    rw [Option.map_some, Option.filter_some, Option.filter_some]
    split_ifs <;> rfl

end Lanspeed
