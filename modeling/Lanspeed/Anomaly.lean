import Lanspeed.Snapshots

/-!
# Counter anomalies of the published clients

A client whose byte total fell since the previous snapshot is published with `counter_anomaly`. The
BPF collector builds a list of warnings for each client; the conntrack and the NSS direct collector
put the same array under every client, so there one verdict holds for the whole reply.
-/

namespace Lanspeed

/-- The tx or the rx total of a client is lower than before, if the client was there before. -/
def TotalsFell (previous : Option ByteTotals) (cur : ByteTotals) : Prop :=
  CounterFell (previous.map ByteTotals.tx) cur.tx ∨ CounterFell (previous.map ByteTotals.rx) cur.rx

instance (previous : Option ByteTotals) (cur : ByteTotals) : Decidable (TotalsFell previous cur) :=
  inferInstanceAs (Decidable (_ ∨ _))

/-- A row of a snapshot: the identity key of a client and its totals. -/
abbrev TotalsRow := CStr × ByteTotals

/-- The clients of a reply are those of the snapshot in its order, and the warnings of each of them
contain `counter_anomaly` when its own totals fell, and only then. -/
def AnomaliesIsolated (previous : CStr → Option ByteTotals) (rows : List TotalsRow)
    (clients : List ClientJson) : Prop :=
  List.Forall₂ (fun row client => client.identityKey = row.1 ∧
    ("counter_anomaly".toList ∈ client.warnings ↔ TotalsFell (previous row.1) row.2)) rows clients

/-! ## The snapshots of the three collectors -/

/-- The totals of the snapshot before the current one, as the BPF collector keeps it. -/
def CollectorState.bpfPreviousTotals (st : CollectorState) (key : CStr) : Option ByteTotals :=
  (Keyed.lookup BpfClientSample.identityKey key st.bpfPreviousSamples).map BpfClientSample.totals

/-- The totals of the previous snapshot, if there is one. -/
def PreviousSnapshot.totalsOf (prev : PreviousSnapshot) (key : CStr) : Option ByteTotals :=
  if prev.valid then
    (findConntrackClientSample key prev.samples).map ConntrackClientSample.totals
  else none

/-- The rows of a BPF snapshot. -/
def bpfRows (samples : List BpfClientSample) : List TotalsRow :=
  samples.map fun s => (s.identityKey, s.totals)

/-- The rows of a conntrack or NSS snapshot. -/
def conntrackRows (samples : List ConntrackClientSample) : List TotalsRow :=
  samples.map fun s => (s.identityKey, s.totals)

/-- The previous snapshot decides whether the rates of a sample come with an anomaly. -/
theorem rates_counterAnomaly (prev : PreviousSnapshot) (nowMs : UInt64)
    (cur : ConntrackClientSample) :
    (prev.rates nowMs cur).counterAnomaly = true ↔
      TotalsFell (prev.totalsOf cur.identityKey) cur.totals := by
  rw [PreviousSnapshot.rates, PreviousSnapshot.totalsOf]
  exact clientRates_counterAnomaly _ _ _

/-! ## A list of warnings of its own for each client -/

/-- The BPF collector isolates the anomalies. -/
theorem collectBpfClients_isolated (cfg : CollectorConfig) (env : BpfPublishEnv)
    (st : CollectorState) {clients : List ClientJson}
    (h : collectBpfClients cfg env st = some clients) :
    AnomaliesIsolated st.bpfPreviousTotals (bpfRows st.bpfCurrentSamples) clients := by
  obtain ⟨-, deltaMs, rfl⟩ := collectBpfClients_some h
  rw [AnomaliesIsolated, bpfRows, List.forall₂_map_left_iff, List.forall₂_map_right_iff,
    List.forall₂_same]
  intro cur _
  refine ⟨rfl, Iff.trans ?_ (clientRates_counterAnomaly cur.totals
    (st.bpfPreviousTotals cur.identityKey) deltaMs)⟩
  show "counter_anomaly".toList ∈ (if (clientRates cur.totals
    (st.bpfPreviousTotals cur.identityKey) deltaMs).counterAnomaly then
      addStringUnique [] "counter_anomaly".toList else []) ↔ _
  split_ifs with hanomaly <;> simp [addStringUnique, hanomaly]

/-! ## One list of warnings for all clients -/

/-- Adding a warning does not remove any. -/
theorem mem_addStringUnique {value w : CStr} {array : List CStr} :
    w ∈ addStringUnique array value ↔ w ∈ array ∨ w = value := by
  rw [addStringUnique]
  split_ifs with hmem
  · exact ⟨Or.inl, fun h => h.elim id fun heq => heq ▸ hmem⟩
  · simp

/-- The warning about the previous snapshot is not about counters. -/
theorem mem_pendingWarning {prev : PreviousSnapshot} {nowMs : UInt64} {pending w : CStr}
    {warnings : List CStr} (hpending : w ≠ pending) (hrollback : w ≠ "time_rollback".toList) :
    w ∈ prev.pendingWarning nowMs pending warnings ↔ w ∈ warnings := by
  rw [PreviousSnapshot.pendingWarning]
  split_ifs
  · rw [mem_addStringUnique, or_iff_left hpending]
  · rw [mem_addStringUnique, or_iff_left hrollback]
  · rfl

/-- One turn of the loop adds `counter_anomaly` when the client fell. -/
theorem mem_anomalyTurn {fell : Bool} {value : CStr} {warnings : List CStr} :
    value ∈ (if fell then addStringUnique warnings value else warnings) ↔
      value ∈ warnings ∨ fell = true := by
  cases fell with
  | false => simp
  | true => simp [mem_addStringUnique]

/-- The shared array contains `counter_anomaly` after the loop when it did before or when any client
fell. -/
theorem mem_anomalyWarnings {prev : PreviousSnapshot} {nowMs : UInt64}
    {samples : List ConntrackClientSample} {warnings : List CStr} :
    "counter_anomaly".toList ∈ prev.anomalyWarnings nowMs samples warnings ↔
      "counter_anomaly".toList ∈ warnings ∨
        ∃ cur ∈ samples, TotalsFell (prev.totalsOf cur.identityKey) cur.totals := by
  induction samples generalizing warnings with
  | nil => simp only [PreviousSnapshot.anomalyWarnings, List.foldl_nil, List.not_mem_nil, false_and,
      exists_false, or_false]
  | cons cur samples ih =>
    rw [PreviousSnapshot.anomalyWarnings, List.foldl_cons, ← PreviousSnapshot.anomalyWarnings, ih,
      List.exists_mem_cons_iff, ← rates_counterAnomaly prev nowMs, ← or_assoc, mem_anomalyTurn]

/-- Where all clients carry the same warnings, the anomalies are isolated when no client fell and
nothing else warns of an anomaly, or when all of them fell. -/
theorem anomaliesIsolated_of_shared {previous : CStr → Option ByteTotals}
    {samples : List ConntrackClientSample} {clientJson : ConntrackClientSample → ClientJson}
    {warnings : List CStr} (hkey : ∀ s, (clientJson s).identityKey = s.identityKey)
    (hshared : ∀ s, (clientJson s).warnings = warnings) :
    AnomaliesIsolated previous (conntrackRows samples) (samples.map clientJson) ↔
      ∀ cur ∈ samples, "counter_anomaly".toList ∈ warnings ↔
        TotalsFell (previous cur.identityKey) cur.totals := by
  rw [AnomaliesIsolated, conntrackRows, List.forall₂_map_left_iff, List.forall₂_map_right_iff,
    List.forall₂_same]
  simp only [hkey, hshared, true_and]

/-- The previous snapshot and the current one give all clients the same verdict: no total of
any client fell, with no anomaly among the warnings that were there before, or one of every
client did. -/
def OneVerdict (prev : PreviousSnapshot) (samples : List ConntrackClientSample)
    (baseWarnings : List CStr) : Prop :=
  ("counter_anomaly".toList ∉ baseWarnings ∧
      ∀ cur ∈ samples, ¬ TotalsFell (prev.totalsOf cur.identityKey) cur.totals) ∨
    ∀ cur ∈ samples, TotalsFell (prev.totalsOf cur.identityKey) cur.totals

/-- A verdict that holds for all or for none is right for each exactly when it is the verdict of
each. -/
theorem forall_verdict_iff {α : Type*} {xs : List α} {base : Prop} {fell : α → Prop} :
    (∀ x ∈ xs, (base ∨ ∃ y ∈ xs, fell y) ↔ fell x) ↔
      (¬ base ∧ ∀ x ∈ xs, ¬ fell x) ∨ ∀ x ∈ xs, fell x := by
  constructor
  · intro h
    by_cases hany : base ∨ ∃ y ∈ xs, fell y
    · exact .inr fun x hx => (h x hx).mp hany
    · refine .inl ⟨fun hbase => hany (.inl hbase), fun x hx hfell => ?_⟩
      exact hany (.inr ⟨x, hx, hfell⟩)
  · rintro (⟨hbase, hnone⟩ | hall) x hx
    · refine ⟨?_, fun hfell => absurd hfell (hnone x hx)⟩
      rintro (h | ⟨y, hy, hfell⟩)
      · exact absurd h hbase
      · exact absurd hfell (hnone y hy)
    · exact ⟨fun _ => hall x hx, fun hfell => .inr ⟨x, hx, hfell⟩⟩

/-- The shared array is right for every client exactly when there is one verdict. -/
theorem sharedWarnings_iff {prev : PreviousSnapshot} {nowMs : UInt64} {pending : CStr}
    {samples : List ConntrackClientSample} {baseWarnings : List CStr}
    (hpending : "counter_anomaly".toList ≠ pending) :
    (∀ cur ∈ samples, "counter_anomaly".toList ∈ prev.anomalyWarnings nowMs samples
        (prev.pendingWarning nowMs pending baseWarnings) ↔
      TotalsFell (prev.totalsOf cur.identityKey) cur.totals) ↔
      OneVerdict prev samples baseWarnings := by
  rw [OneVerdict, ← forall_verdict_iff, mem_anomalyWarnings,
    mem_pendingWarning hpending (by decide)]

/-- `emit_conntrack_clients` isolates the anomalies exactly when there is one verdict. -/
theorem emitConntrackClients_isolated_iff (cfg : CollectorConfig) (env : BpfPublishEnv)
    (prev : PreviousSnapshot) (current : List ConntrackClientSample) (nowMs : UInt64)
    (baseWarnings : List CStr) (stats : ConntrackCollectStats) :
    AnomaliesIsolated prev.totalsOf (conntrackRows current)
        (emitConntrackClients cfg env prev current nowMs baseWarnings stats).1.clients ↔
      OneVerdict prev current baseWarnings :=
  Iff.trans (anomaliesIsolated_of_shared (fun _ => rfl) fun _ => rfl)
    (sharedWarnings_iff (by decide))

/-- The NSS direct collector isolates the anomalies of a snapshot exactly when there is
one verdict. -/
theorem emitNssEcmDirectClients_isolated_iff (env : BpfPublishEnv) (prev : PreviousSnapshot)
    (current : List ConntrackClientSample) (nowMs : UInt64) (baseWarnings : List CStr) :
    AnomaliesIsolated prev.totalsOf (conntrackRows current)
        (emitNssEcmDirectClients env prev current nowMs baseWarnings).1.clients ↔
      OneVerdict prev current baseWarnings :=
  Iff.trans (anomaliesIsolated_of_shared (fun _ => rfl) fun _ => rfl)
    (sharedWarnings_iff (by decide))

/-- Adding the warnings of a read leaves out none and adds no other. -/
theorem mem_foldl_addStringUnique {w : CStr} {added warnings : List CStr} :
    w ∈ added.foldl addStringUnique warnings ↔ w ∈ warnings ∨ w ∈ added := by
  induction added generalizing warnings with
  | nil => simp
  | cons value added ih => rw [List.foldl_cons, ih, mem_addStringUnique, List.mem_cons, or_assoc]

/-- `collect_nss_ecm_direct_clients` itself never warns of an anomaly before its loop. -/
theorem mem_nssEcmDirectBaseWarnings {cfg : CollectorConfig} {call : NssEcmDirectCall}
    {st : CollectorState} :
    "counter_anomaly".toList ∈ nssEcmDirectBaseWarnings cfg call st ↔
      "counter_anomaly".toList ∈ call.read.warnings := by
  rw [nssEcmDirectBaseWarnings, mem_foldl_addStringUnique, or_iff_right]
  cases bpfFullAvailable cfg call.env st <;> decide

/-- `collect_nss_ecm_direct_clients` isolates the anomalies of a snapshot exactly when there is one
verdict. -/
theorem collectNssEcmDirectClients_isolated_iff (cfg : CollectorConfig) (call : NssEcmDirectCall)
    (st : CollectorState) {snap : Snapshot} (h : call.snapshot cfg = some snap) :
    ∃ reply, (collectNssEcmDirectClients cfg call st).1 = some reply ∧
      (AnomaliesIsolated st.previousNssEcmDirect.totalsOf (conntrackRows snap.samples)
          reply.clients ↔
        OneVerdict st.previousNssEcmDirect snap.samples call.read.warnings) := by
  rw [collectNssEcmDirectClients_eq, h]
  refine ⟨_, rfl, Iff.trans (emitNssEcmDirectClients_isolated_iff ..) ?_⟩
  rw [OneVerdict, OneVerdict, mem_nssEcmDirectBaseWarnings]

/-- The BPF collector isolates the anomalies of every snapshot; the two other collectors do so
exactly when there is one verdict. -/
theorem counterAnomaly_isolated_iff (cfg : CollectorConfig) (env : BpfPublishEnv)
    (st : CollectorState) (prev : PreviousSnapshot) (current : List ConntrackClientSample)
    (nowMs : UInt64) (baseWarnings : List CStr) (stats : ConntrackCollectStats)
    (call : NssEcmDirectCall) :
    (∀ clients, collectBpfClients cfg env st = some clients →
      AnomaliesIsolated st.bpfPreviousTotals (bpfRows st.bpfCurrentSamples) clients) ∧
    (AnomaliesIsolated prev.totalsOf (conntrackRows current)
        (emitConntrackClients cfg env prev current nowMs baseWarnings stats).1.clients ↔
      OneVerdict prev current baseWarnings) ∧
    (∀ snap, call.snapshot cfg = some snap →
      ∃ reply, (collectNssEcmDirectClients cfg call st).1 = some reply ∧
        (AnomaliesIsolated st.previousNssEcmDirect.totalsOf (conntrackRows snap.samples)
            reply.clients ↔
          OneVerdict st.previousNssEcmDirect snap.samples call.read.warnings)) :=
  ⟨fun _ => collectBpfClients_isolated cfg env st,
    emitConntrackClients_isolated_iff cfg env prev current nowMs baseWarnings stats,
    fun _ => collectNssEcmDirectClients_isolated_iff cfg call st⟩

/-- A conntrack sample of the client with the last MAC byte `last`. -/
def conntrackSampleOf (last : String) (bytes : UInt64) : ConntrackClientSample :=
  { mac := ("02:00:00:00:00:" ++ last).toList
    identityKey := ("02:00:00:00:00:" ++ last ++ "@lan").toList
    zone := "lan".toList, ifname := "br-lan".toList, txBytes := bytes }

/-- Only the first of two clients fell, and both are published with `counter_anomaly`. -/
theorem counterAnomaly_not_isolated_two_clients :
    let prev : PreviousSnapshot :=
      { samples := [conntrackSampleOf "01" 500, conntrackSampleOf "02" 500]
        snapshotMs := 1000, valid := true }
    let current := [conntrackSampleOf "01" 100, conntrackSampleOf "02" 900]
    let env : BpfPublishEnv :=
      { probe := nssSyncProbe, status := {}, nowMs := 2000, hostnameLookup := fun _ _ => none }
    ¬ AnomaliesIsolated prev.totalsOf (conntrackRows current)
        (emitConntrackClients {} env prev current 2000 [] { netlinkRead := true }).1.clients := by
  intro prev current env h
  rcases (emitConntrackClients_isolated_iff {} env prev current 2000 [] _).mp h with
    ⟨-, hnone⟩ | hall
  · exact hnone (conntrackSampleOf "01" 100) (by simp [current]) (by decide +kernel)
  · exact absurd (hall (conntrackSampleOf "02" 900) (by simp [current])) (by decide +kernel)

end Lanspeed
