import Lanspeed.Methods
import Lanspeed.Lib.Machine

/-!
# Which collector the coverage window measures

`coverage_current_client_bytes` reads the stored snapshot of one of three collectors, chosen on
every call, and the ring does not say which. A run of the daemon is followed here together with the
list of samples that were pushed since the ring was last cleared, each with the collector it was
read from.
-/

namespace Lanspeed

/-! ## The source of a sample -/

/-- The collector whose snapshot `coverage_current_client_bytes` sums up, if there is one. -/
def coverageSource (cfg : CollectorConfig) (st : CollectorState) (probe : RuntimeProbe) :
    Option CoverageSource :=
  if st.previousNssEcmDirect.valid && !st.previousNssEcmDirect.samples.isEmpty &&
      nssEcmDirectPreferred cfg probe then
    some .nssEcmDirect
  else if st.previousConntrack.valid && !st.previousConntrack.samples.isEmpty &&
      nssConntrackSyncPreferred cfg probe then
    some .conntrack
  else if st.bpfRuntimeEnabled && !st.bpfCurrentSamples.isEmpty then some .bpf
  else none

/-- The byte totals that a collector has stored. -/
def CoverageSource.bytes (st : CollectorState) : CoverageSource → RxTxBytes
  | .nssEcmDirect => conntrackBytes st.previousNssEcmDirect.samples
  | .conntrack => conntrackBytes st.previousConntrack.samples
  | .bpf => bpfBytes st.bpfCurrentSamples

/-- The client bytes of a sample are what its source has stored. -/
theorem coverageCurrentClientBytes_eq (cfg : CollectorConfig) (st : CollectorState)
    (probe : RuntimeProbe) :
    coverageCurrentClientBytes cfg st probe
      = (coverageSource cfg st probe).map (CoverageSource.bytes st) := by
  rw [coverageCurrentClientBytes, coverageSource]
  split_ifs <;> rfl

/-- A sample has valid client bytes when it has a source. -/
theorem coverageSampleOf_clientValid (cfg : CollectorConfig) (st : CollectorState) (nowMs : UInt64)
    (probe : RuntimeProbe) (ifaces : List IfaceStatistics) :
    (coverageSampleOf cfg st nowMs probe ifaces).clientValid
      = (coverageSource cfg st probe).isSome := by
  simp [coverageSampleOf, coverageCurrentClientBytes_eq]

/-! ## Runs of the daemon -/

/-- A collection tick, or a call of one of the two methods. -/
inductive DaemonEvent where
  | tick (inp : TickInput)
  | clients (inp : ClientsInput)
  | status (inp : StatusInput)

/-- One event on the collector state. -/
def daemonStep (cfg : CollectorConfig) (st : CollectorState) : DaemonEvent → CollectorState
  | .tick inp => bpfCollectTick cfg inp st
  | .clients inp => (clientsMethod cfg inp st).2
  | .status inp => (statusMethod cfg inp st).2

/-- A coverage sample and the collector that its client bytes were read from. -/
structure SourcedSample where
  sample : CoverageSample
  source : Option CoverageSource
deriving DecidableEq, Repr

/-- The collector state of a run, and the samples pushed since the coverage ring was last cleared,
newest first. -/
structure CoverageRun where
  st : CollectorState
  pushed : List SourcedSample

/-- The samples that are left when the attach policy is refreshed. -/
def CoverageRun.refreshed (cfg : CollectorConfig) (run : CoverageRun) (switched : Bool) :
    List SourcedSample :=
  if bpfRuntimeActive cfg run.st && switched then [] else run.pushed

/-- The sample that a status call pushes, with its source. -/
def CoverageRun.newSample (cfg : CollectorConfig) (run : CoverageRun) (inp : StatusInput) :
    SourcedSample :=
  let st := (refreshAttachPolicy cfg inp.switched run.st).2
  { sample := coverageSampleOf cfg st inp.nowMs inp.probe inp.ifaces
    source := coverageSource cfg st inp.probe }

/-- The samples that were pushed when a status call computes its report. -/
def CoverageRun.sampled (cfg : CollectorConfig) (run : CoverageRun) (inp : StatusInput) :
    List SourcedSample :=
  run.newSample cfg inp :: run.refreshed cfg inp.switched

/-- What one event does to the samples pushed since the ring was last cleared. -/
def pushedStep (cfg : CollectorConfig) (run : CoverageRun) : DaemonEvent → List SourcedSample
  | .tick inp => run.refreshed cfg (inp.switched || inp.healed)
  | .clients inp => run.refreshed cfg inp.switched
  | .status inp =>
    if (statusMethod cfg inp run.st).1.quality = .counterReset then [] else run.sampled cfg inp

/-- One event of a run. -/
def coverageRunStep (cfg : CollectorConfig) (run : CoverageRun) (e : DaemonEvent) : CoverageRun :=
  { st := daemonStep cfg run.st e, pushed := pushedStep cfg run e }

/-- The start of a run. -/
def CoverageRun.init (bpfRuntimeEnabled : Bool) : CoverageRun :=
  { st := CollectorState.init bpfRuntimeEnabled, pushed := [] }

/-! ## The ring holds the pushed samples -/

/-- The ring holds the newest of the pushed samples, and a sample has a source when its client bytes
are valid. -/
structure RingHolds (ring : CoverageRing) (pushed : List SourcedSample) : Prop where
  represents : ring.Represents (pushed.map SourcedSample.sample)
  sourced : ∀ p ∈ pushed, p.sample.clientValid = p.source.isSome

theorem ringHolds_clear (ring : CoverageRing) : RingHolds ring.clear [] :=
  ⟨ring.represents_clear, by simp⟩

/-- A switch of the attach order clears the ring. -/
theorem refreshAttachPolicy_coverageRing (cfg : CollectorConfig) (switched : Bool)
    (st : CollectorState) :
    (refreshAttachPolicy cfg switched st).2.coverageRing
      = if bpfRuntimeActive cfg st && switched then st.coverageRing.clear else st.coverageRing := by
  rw [refreshAttachPolicy]
  split_ifs <;> rfl

/-- Self-healing clears the ring. -/
theorem recoverIfNeeded_coverageRing (cfg : CollectorConfig) (healed : Bool) (st : CollectorState) :
    (recoverIfNeeded cfg healed st).coverageRing
      = if bpfRuntimeActive cfg st && healed then st.coverageRing.clear else st.coverageRing := by
  rw [recoverIfNeeded]
  split_ifs <;> rfl

/-- A switch of the attach order does not change whether BPF is active. -/
theorem bpfRuntimeActive_refreshAttachPolicy (cfg : CollectorConfig) (switched : Bool)
    (st : CollectorState) :
    bpfRuntimeActive cfg (refreshAttachPolicy cfg switched st).2 = bpfRuntimeActive cfg st := by
  rw [refreshAttachPolicy]
  split_ifs <;> rfl

/-- Collecting the map does not touch the ring. -/
@[simp] theorem bpfCollectSamples_coverageRing (cfg : CollectorConfig) (inp : CollectInput)
    (st : CollectorState) : (bpfCollectSamples cfg inp st).coverageRing = st.coverageRing := by
  rw [bpfCollectSamples]
  split <;> rfl

/-- Collecting from ECM does not touch the ring. -/
@[simp] theorem collectNssEcmDirectClients_coverageRing (cfg : CollectorConfig)
    (call : NssEcmDirectCall) (st : CollectorState) :
    (collectNssEcmDirectClients cfg call st).2.coverageRing = st.coverageRing := by
  rw [collectNssEcmDirectClients_eq]
  split <;> rfl

/-- Collecting from conntrack does not touch the ring. -/
@[simp] theorem collectConntrackProcfsClients_coverageRing (cfg : CollectorConfig)
    (call : ConntrackCall) (st : CollectorState) :
    (collectConntrackProcfsClients cfg call st).2.coverageRing = st.coverageRing := by
  rw [collectConntrackProcfsClients_eq]
  split <;> rfl

/-- Publishing the conntrack clients does not touch the ring. -/
@[simp] theorem clientsViaConntrack_coverageRing (cfg : CollectorConfig) (inp : ClientsInput)
    (st : CollectorState) : (clientsViaConntrack cfg inp st).2.coverageRing = st.coverageRing := by
  have h := collectConntrackProcfsClients_coverageRing cfg inp.conntrackCall st
  rw [clientsViaConntrack]
  split <;> simp_all

/-- The collectors do not touch the coverage ring. -/
@[simp] theorem collectClients_coverageRing (cfg : CollectorConfig) (inp : ClientsInput)
    (st : CollectorState) : (collectClients cfg inp st).2.coverageRing = st.coverageRing := by
  have h := collectNssEcmDirectClients_coverageRing cfg inp.nssCall st
  rw [collectClients]
  split_ifs
  · split <;> simp_all
  · simp
  · rfl

/-- Refreshing the attach policy keeps the ring and the pushed samples together. -/
theorem RingHolds.refreshed (cfg : CollectorConfig) {run : CoverageRun}
    (h : RingHolds run.st.coverageRing run.pushed) (switched : Bool) :
    RingHolds (refreshAttachPolicy cfg switched run.st).2.coverageRing
      (run.refreshed cfg switched) := by
  rw [refreshAttachPolicy_coverageRing, CoverageRun.refreshed]
  split_ifs
  · exact ringHolds_clear _
  · exact h

/-- The ring in which a status call computes its report holds the new sample on top of
the others. -/
theorem RingHolds.sampled (cfg : CollectorConfig) {run : CoverageRun}
    (h : RingHolds run.st.coverageRing run.pushed) (inp : StatusInput) :
    RingHolds (statusSampled cfg inp run.st).coverageRing (run.sampled cfg inp) := by
  obtain ⟨hrep, hsourced⟩ := h.refreshed cfg inp.switched
  exact ⟨hrep.push _, List.forall_mem_cons.mpr
    ⟨coverageSampleOf_clientValid cfg _ inp.nowMs inp.probe inp.ifaces, hsourced⟩⟩

/-- A tick clears the ring when it resets the rate state, and leaves it alone otherwise. -/
theorem bpfCollectTick_coverageRing (cfg : CollectorConfig) (inp : TickInput)
    (st : CollectorState) :
    (bpfCollectTick cfg inp st).coverageRing
      = if bpfRuntimeActive cfg st && (inp.switched || inp.healed) then st.coverageRing.clear
        else st.coverageRing := by
  rw [bpfCollectTick]
  cases henabled : st.bpfRuntimeEnabled with
  | false =>
    have hactive : bpfRuntimeActive cfg st = false := by simp [bpfRuntimeActive, henabled]
    simp [hactive]
  | true =>
    rw [if_pos rfl, bpfCollectSamples_coverageRing, recoverIfNeeded_coverageRing,
      bpfRuntimeActive_refreshAttachPolicy, refreshAttachPolicy_coverageRing]
    -- Clearing the ring twice is clearing it once.
    cases bpfRuntimeActive cfg st <;> cases inp.switched <;> cases inp.healed <;> rfl

/-- Every event keeps the ring and the pushed samples together. -/
theorem RingHolds.step (cfg : CollectorConfig) {run : CoverageRun}
    (h : RingHolds run.st.coverageRing run.pushed) (e : DaemonEvent) :
    RingHolds (coverageRunStep cfg run e).st.coverageRing (coverageRunStep cfg run e).pushed := by
  cases e with
  | tick inp =>
    simp only [coverageRunStep, daemonStep, pushedStep, bpfCollectTick_coverageRing,
      CoverageRun.refreshed]
    split_ifs
    · exact ringHolds_clear _
    · exact h
  | clients inp =>
    have hring : (coverageRunStep cfg run (.clients inp)).st.coverageRing
        = (refreshAttachPolicy cfg inp.switched run.st).2.coverageRing := by
      simp only [coverageRunStep, daemonStep, clientsMethod, collectClients_coverageRing,
        clientsRefresh]
      split <;> simp_all
    rw [hring]
    exact h.refreshed cfg inp.switched
  | status inp =>
    have hring : (coverageRunStep cfg run (.status inp)).st.coverageRing
        = if (statusMethod cfg inp run.st).1.quality = .counterReset then
            (statusSampled cfg inp run.st).coverageRing.clear
          else (statusSampled cfg inp run.st).coverageRing :=
      addCoverageToStatus_ring _ _ _ _
    rw [hring]
    simp only [coverageRunStep, pushedStep]
    split_ifs
    · exact ringHolds_clear _
    · exact h.sampled cfg inp

/-! ## The window of an "ok" report -/

/-- When a status call reports "ok", its window goes from a sample of one collector to another
sample of the same collector. -/
def OkFromOneSource (cfg : CollectorConfig) (run : CoverageRun) : DaemonEvent → Prop
  | .status inp => (statusMethod cfg inp run.st).1.quality = .ok →
      ∃ i newest oldest source, oldestValid (statusSampled cfg inp run.st).coverageRing = some i ∧
        (run.sampled cfg inp)[0]? = some newest ∧ (run.sampled cfg inp)[i]? = some oldest ∧
        coverageWindowOf (statusSampled cfg inp run.st).coverageRing
          = some (newest.sample, oldest.sample) ∧
        newest.source = some source ∧ oldest.source = some source
  | _ => True

/-- When a status call pushes a valid sample, the valid samples that stay in the ring were read from
the collector that is selected now. -/
def SourceKept (cfg : CollectorConfig) (run : CoverageRun) : DaemonEvent → Prop
  | .status inp => (run.newSample cfg inp).sample.bothValid = true →
      ∀ p ∈ (run.refreshed cfg inp.switched).take (lanspeedCoverageWindow - 1),
        p.sample.bothValid = true → p.source = (run.newSample cfg inp).source
  | _ => True

instance (cfg : CollectorConfig) (run : CoverageRun) :
    ∀ e, Decidable (SourceKept cfg run e)
  | .tick _ => inferInstanceAs (Decidable True)
  | .clients _ => inferInstanceAs (Decidable True)
  | .status _ => inferInstanceAs (Decidable (_ → ∀ p ∈ _, _ → _ = _))

/-- A report of a run is right about its source when the selected source is that of the ring. -/
theorem okFromOneSource_of_sourceKept (cfg : CollectorConfig) {run : CoverageRun}
    (h : RingHolds run.st.coverageRing run.pushed) {e : DaemonEvent}
    (hkept : SourceKept cfg run e) :
    OkFromOneSource cfg run e := by
  cases e with
  | tick | clients => trivial
  | status inp =>
    intro hok
    obtain ⟨hrep, hsourced⟩ := h.sampled cfg inp
    obtain ⟨-, newest, oldest, hopen, -⟩ := (addCoverageToStatus_ok_iff cfg _ _ hrep).mp hok
    have hwindow := (coverageWindowOf_eq_some_iff hrep newest oldest).mpr hopen
    obtain ⟨hnew, hzero, i, hold, hi, hsample, hvalid⟩ := coverageWindowOf_some hwindow
    have hcount : (statusSampled cfg inp run.st).coverageRing.count ≤ 16 :=
      (statusSampled cfg inp run.st).coverageRing.count_le
    obtain rfl : (run.newSample cfg inp).sample = newest := by
      rw [hrep.sampleAt_eq 0 (by omega)] at hzero
      exact Option.some.inj hzero
    -- The oldest sample is one of those that were in the ring before the new one.
    rw [hrep.sampleAt_eq _ hi, List.getElem?_map] at hsample
    obtain ⟨p, hp, rfl⟩ := Option.map_eq_some_iff.mp hsample
    have hmem : p ∈ (run.refreshed cfg inp.switched).take (lanspeedCoverageWindow - 1) := by
      rw [CoverageRun.sampled, List.getElem?_cons_succ] at hp
      refine List.mem_of_getElem? (i := i) ?_
      rw [List.getElem?_take_of_lt (by simp only [lanspeedCoverageWindow]; omega)]
      exact hp
    have hsource := hkept hnew p hmem hvalid
    have hclient : (run.newSample cfg inp).sample.clientValid = true :=
      (Bool.and_eq_true_iff.mp hnew).2
    rw [hsourced _ List.mem_cons_self] at hclient
    obtain ⟨source, hs⟩ := Option.isSome_iff_exists.mp hclient
    exact ⟨i + 1, _, p, source, hold, rfl, hp, hwindow, hs, hsource.trans hs⟩

/-- In every run in which the selected collector is that of the valid samples in the ring whenever a
status call pushes one, every "ok" report measures one collector. -/
theorem ok_from_one_source (cfg : CollectorConfig) (enabled : Bool) (evs : List DaemonEvent)
    (h : Machine.Along (coverageRunStep cfg) (SourceKept cfg) (CoverageRun.init enabled) evs) :
    Machine.Along (coverageRunStep cfg) (OkFromOneSource cfg) (CoverageRun.init enabled) evs :=
  Machine.along_mono_of_invariant (coverageRunStep cfg)
    (I := fun run => RingHolds run.st.coverageRing run.pushed)
    (fun _ e hr => hr.step cfg e) (fun _ _ hr hk => okFromOneSource_of_sourceKept cfg hr hk)
    ⟨RingBuffer.represents_init _ _, by simp [CoverageRun.init]⟩ h

/-- A status call at `nowMs` with the interface rx bytes of one interface. -/
def statusAt (nowMs ifaceRxBytes : UInt64) : DaemonEvent :=
  .status
    { switched := false
      probe := nssSyncProbe
      nowMs
      ifaces := [{ rxBytes := some (some ifaceRxBytes), txBytes := some (some 0) }] }

/-- The first clients call of a run, which reads one client from conntrack. -/
def firstClientsCall (bytes : UInt64) : DaemonEvent :=
  .clients
    { switched := false
      collect := collectOneClient 3000 0
      env := (readOneClient 3000 bytes).env
      nssNowMs := 3000
      nssRead := { table := none }
      conntrackNowMs := 3000
      conntrackRead := (readOneClient 3000 bytes).read
      mergeNowMs := 3000
      mergeRead := { table := none }
      overviewMs := 3000 }

/-- A tick that collects one client at `nowMs`. -/
def tickAt (nowMs bytes : UInt64) : DaemonEvent :=
  .tick { switched := false, healed := false, collect := collectOneClient nowMs bytes }

/-- Two status calls after the first clients call, both of conntrack. -/
def conntrackOnlyRun : List DaemonEvent :=
  [firstClientsCall 5000, statusAt 4000 0, tickAt 5000 100, statusAt 8000 600000]

/-- A run whose samples all come from conntrack. -/
theorem ok_from_one_source_conntrack :
    Machine.Along (coverageRunStep bpfConfig) (OkFromOneSource bpfConfig) (CoverageRun.init true)
      conntrackOnlyRun :=
  ok_from_one_source bpfConfig true conntrackOnlyRun (by decide +kernel)

/-- The first status call measures BPF, the clients call stores a conntrack snapshot, and the second
status call subtracts the one from the other. -/
theorem ok_from_two_sources :
    ¬ Machine.Along (coverageRunStep bpfConfig) (OkFromOneSource bpfConfig) (CoverageRun.init true)
      [tickAt 500 100, statusAt 1000 0, firstClientsCall 5000, statusAt 5000 600000] := by
  rintro ⟨-, -, -, h, -⟩
  obtain ⟨i, newest, oldest, source, hold, hnewest, holdest, -, hsource, hsource'⟩ :=
    h (by decide +kernel)
  obtain rfl : i = 1 := Option.some.inj (hold.symm.trans (by decide +kernel))
  have hnew : (some newest).bind SourcedSample.source = some .conntrack :=
    (congrArg (·.bind SourcedSample.source) hnewest).symm.trans (by decide +kernel)
  have hold : (some oldest).bind SourcedSample.source = some .bpf :=
    (congrArg (·.bind SourcedSample.source) holdest).symm.trans (by decide +kernel)
  cases (hsource.symm.trans hnew).symm.trans (hsource'.symm.trans hold)

end Lanspeed
