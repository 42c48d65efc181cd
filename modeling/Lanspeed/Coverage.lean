import Lanspeed.Probe
import Lanspeed.Lib.Word

/-!
# The coverage window

`coverage_push_sample` records the interface and client byte counters of a status call in a ring,
and `add_coverage_to_status` compares the newest sample of the ring with the oldest valid one.
Samples are read newest first; the oldest one is found by its index back from the newest.
-/

namespace Lanspeed

/-- `LANSPEED_COVERAGE_MIN_WINDOW_MS`. -/
def lanspeedCoverageMinWindowMs : UInt64 := 3000

/-- `LANSPEED_COVERAGE_MIN_DENOM_BYTES`. -/
def lanspeedCoverageMinDenomBytes : UInt64 := 524288

/-! ## Taking a sample -/

/-- The sums of an rx and a tx byte counter. -/
structure RxTxBytes where
  rx : UInt64 := 0
  tx : UInt64 := 0
deriving DecidableEq, Repr

/-- The collector whose stored snapshot `coverage_current_client_bytes` sums up. -/
inductive CoverageSource where
  | nssEcmDirect
  | conntrack
  | bpf
deriving DecidableEq, Repr

/-- The sums over the samples of a stored conntrack-like snapshot. -/
def conntrackBytes (samples : List ConntrackClientSample) : RxTxBytes :=
  { rx := (samples.map ConntrackClientSample.rxBytes).sum
    tx := (samples.map ConntrackClientSample.txBytes).sum }

/-- The sums over the samples of the current BPF snapshot. -/
def bpfBytes (samples : List BpfClientSample) : RxTxBytes :=
  { rx := (samples.map BpfClientSample.rxBytes).sum
    tx := (samples.map BpfClientSample.txBytes).sum }

/-- `coverage_current_client_bytes`; `none` when it returns false. -/
def coverageCurrentClientBytes (cfg : CollectorConfig) (st : CollectorState)
    (probe : RuntimeProbe) : Option RxTxBytes :=
  if st.previousNssEcmDirect.valid && !st.previousNssEcmDirect.samples.isEmpty &&
      nssEcmDirectPreferred cfg probe then
    some (conntrackBytes st.previousNssEcmDirect.samples)
  else if st.previousConntrack.valid && !st.previousConntrack.samples.isEmpty &&
      nssConntrackSyncPreferred cfg probe then
    some (conntrackBytes st.previousConntrack.samples)
  else if st.bpfRuntimeEnabled && !st.bpfCurrentSamples.isEmpty then
    some (bpfBytes st.bpfCurrentSamples)
  else none

/-- What the two statistics files of an interface give: `none` when the file does not open, and
`some none` when it opens without a line to read. -/
structure IfaceStatistics where
  rxBytes : Option (Option UInt64)
  txBytes : Option (Option UInt64)
deriving DecidableEq, Repr

/-- One turn of the loop of `coverage_current_iface_bytes`: the sums, and `any_ok`. -/
def ifaceBytesTurn (acc : RxTxBytes × Bool) (iface : IfaceStatistics) : RxTxBytes × Bool :=
  match iface.rxBytes with
  | none => acc
  | some rx =>
    -- The rx bytes stay in the sum when the tx file does not open.
    let sums := { acc.1 with rx := acc.1.rx + rx.getD 0 }
    match iface.txBytes with
    | none => (sums, acc.2)
    | some tx => ({ sums with tx := sums.tx + tx.getD 0 }, true)

/-- `coverage_current_iface_bytes` over the attach list; `none` when it returns false. -/
def coverageCurrentIfaceBytes (ifaces : List IfaceStatistics) : Option RxTxBytes :=
  let (sums, anyOk) := ifaces.foldl ifaceBytesTurn ({}, false)
  if anyOk then some sums else none

/-- The slot that `coverage_push_sample` writes. -/
def coverageSampleOf (cfg : CollectorConfig) (st : CollectorState) (nowMs : UInt64)
    (probe : RuntimeProbe) (ifaces : List IfaceStatistics) : CoverageSample :=
  let iface := coverageCurrentIfaceBytes ifaces
  let client := coverageCurrentClientBytes cfg st probe
  { tsMs := nowMs
    ifaceRxBytes := (iface.getD {}).rx
    ifaceTxBytes := (iface.getD {}).tx
    clientRxBytes := (client.getD {}).rx
    clientTxBytes := (client.getD {}).tx
    ifaceValid := iface.isSome
    clientValid := client.isSome }

/-- `coverage_push_sample`. -/
def coveragePushSample (cfg : CollectorConfig) (nowMs : UInt64) (probe : RuntimeProbe)
    (ifaces : List IfaceStatistics) (st : CollectorState) : CollectorState :=
  { st with coverageRing := st.coverageRing.push (coverageSampleOf cfg st nowMs probe ifaces) }

/-! ## The report -/

/-- The quality of a coverage report. -/
inductive CoverageQuality where
  | warmup
  | idle
  | counterReset
  | ok
  | unsupported
deriving DecidableEq, Repr

/-- The differences that a coverage report carries, and the percentages where they are valid. -/
structure CoverageWindow where
  windowMs : UInt64 := 0
  denomRxBytes : UInt64 := 0
  denomTxBytes : UInt64 := 0
  numerRxBytes : UInt64 := 0
  numerTxBytes : UInt64 := 0
  txPct : Option ℕ := none
  rxPct : Option ℕ := none
deriving DecidableEq, Repr

/-- The coverage object of a status reply. -/
structure CoverageReport where
  quality : CoverageQuality
  samples : ℕ
  window : Option CoverageWindow := none
deriving DecidableEq, Repr

/-- A sample that is valid on both sides. -/
def CoverageSample.bothValid (s : CoverageSample) : Bool := s.ifaceValid && s.clientValid

/-- `coverage_sample_at` of the oldest sample that is valid on both sides, by its index back. -/
def oldestValid (ring : CoverageRing) : Option ℕ := ring.oldestWhere CoverageSample.bothValid

/-- The percentage of a numerator in a denominator, clamped to 100, for a positive denominator. -/
def clampedPct (numer denom : UInt64) : Option ℕ :=
  if denom > 0 then
    let p := numer * 100 / denom
    -- The product wraps from 2^64 on, as in the source.
    some (if p > 100 then 100 else p.toNat)
  else none

/-- The four counters of `newest` are not below those of `oldest`. -/
def CoverageSample.notBelow (newest oldest : CoverageSample) : Bool :=
  newest.ifaceRxBytes ≥ oldest.ifaceRxBytes && newest.ifaceTxBytes ≥ oldest.ifaceTxBytes &&
    newest.clientRxBytes ≥ oldest.clientRxBytes && newest.clientTxBytes ≥ oldest.clientTxBytes

/-- The branch of `add_coverage_to_status` for a window whose counters did not fall. -/
def measureWindow (newest oldest : CoverageSample) : CoverageQuality × CoverageWindow :=
  let diRx := newest.ifaceRxBytes - oldest.ifaceRxBytes
  let diTx := newest.ifaceTxBytes - oldest.ifaceTxBytes
  let dcRx := newest.clientRxBytes - oldest.clientRxBytes
  let dcTx := newest.clientTxBytes - oldest.clientTxBytes
  let window : CoverageWindow :=
    { windowMs := newest.tsMs - oldest.tsMs, denomRxBytes := diRx, denomTxBytes := diTx
      numerRxBytes := dcRx, numerTxBytes := dcTx }
  if newest.tsMs - oldest.tsMs < lanspeedCoverageMinWindowMs then (.warmup, window)
  else if diRx + diTx < lanspeedCoverageMinDenomBytes then (.idle, window)
  else (.ok, { window with txPct := clampedPct dcTx diRx, rxPct := clampedPct dcRx diTx })

/-- The two samples of the window, when there are two valid ones at increasing times. -/
def coverageWindowOf (ring : CoverageRing) : Option (CoverageSample × CoverageSample) :=
  match ring.sampleAt 0, oldestValid ring with
  | some newest, some i =>
    match ring.sampleAt i with
    | some oldest =>
      -- The two pointers differ when their slots do.
      if ring.offset 0 ≠ ring.offset i ∧ newest.bothValid ∧ newest.tsMs > oldest.tsMs then
        some (newest, oldest)
      else none
    | none => none
  | _, _ => none

/-- `add_coverage_to_status`: the report, and the ring after it. -/
def addCoverageToStatus (cfg : CollectorConfig) (bpfRuntimeEnabled : Bool) (probe : RuntimeProbe)
    (ring : CoverageRing) : CoverageReport × CoverageRing :=
  if !bpfRuntimeEnabled && !nssEcmDirectPreferred cfg probe && !nssConntrackSyncPreferred cfg probe
  then ({ quality := .unsupported, samples := ring.count }, ring)
  else
    match coverageWindowOf ring with
    | none => ({ quality := .warmup, samples := ring.count, window := some {} }, ring)
    | some (newest, oldest) =>
      if newest.notBelow oldest then
        let (quality, window) := measureWindow newest oldest
        ({ quality, samples := ring.count, window := some window }, ring)
      else
        -- The ring is reset before its size is reported.
        ({ quality := .counterReset, samples := 0,
           window := some { windowMs := newest.tsMs - oldest.tsMs } }, ring.clear)

/-! ## The window as a part of the history -/

/-- A counter of `newer` is below that of `older`. -/
def CoverageSample.FellSince (newer older : CoverageSample) : Prop :=
  newer.ifaceRxBytes < older.ifaceRxBytes ∨ newer.ifaceTxBytes < older.ifaceTxBytes ∨
    newer.clientRxBytes < older.clientRxBytes ∨ newer.clientTxBytes < older.clientTxBytes

instance (newer older : CoverageSample) : Decidable (newer.FellSince older) :=
  inferInstanceAs (Decidable (_ ∨ _))

/-- The check passes exactly when no counter fell since the older sample. -/
theorem notBelow_iff (newest oldest : CoverageSample) :
    newest.notBelow oldest = true ↔ ¬ newest.FellSince oldest := by
  simp only [CoverageSample.notBelow, CoverageSample.FellSince, Bool.and_eq_true,
    decide_eq_true_eq, ge_iff_le, not_or, UInt64.not_lt, and_assoc]

/-- The valid samples that the ring still holds of a history of samples, newest first. -/
def validWindow (hist : List CoverageSample) : List CoverageSample :=
  (hist.take lanspeedCoverageWindow).filter CoverageSample.bothValid

/-- The newest sample of the history is valid, and later than the oldest valid one. -/
def WindowOpen (hist : List CoverageSample) (newest oldest : CoverageSample) : Prop :=
  hist.head? = some newest ∧ newest.bothValid = true ∧ (validWindow hist).getLast? = some oldest ∧
    oldest.tsMs < newest.tsMs

/-- The two samples that `add_coverage_to_status` compares are the newest one and the oldest valid
one of the history. -/
theorem coverageWindowOf_eq_some_iff {ring : CoverageRing} {hist : List CoverageSample}
    (h : ring.Represents hist) (newest oldest : CoverageSample) :
    coverageWindowOf ring = some (newest, oldest) ↔ WindowOpen hist newest oldest := by
  have hlast := h.oldestWhere_bind CoverageSample.bothValid
  have hzero : ring.sampleAt 0 = hist.head? := by
    rw [h.sampleAt_eq_take, ← List.head?_eq_getElem?, List.head?_take]
    rfl
  rw [WindowOpen, validWindow, ← hlast, ← hzero, coverageWindowOf, oldestValid]
  cases hnew : ring.sampleAt 0 with
  | none => simp
  | some new =>
    cases hold : ring.oldestWhere CoverageSample.bothValid with
    | none => simp
    | some i =>
      obtain ⟨hi, -⟩ := RingBuffer.oldestWhere_some hold
      cases hsample : ring.sampleAt i with
      | none => simp [hsample]
      | some old =>
        -- Samples at different times are different entries, so their slots differ.
        have hslots : old.tsMs < new.tsMs → ring.offset 0 ≠ ring.offset i := by
          intro hlt heq
          have hcount := ring.count_le
          obtain rfl := ring.offset_inj (by omega) (by omega) heq
          obtain rfl := Option.some.inj (hnew.symm.trans hsample)
          exact absurd hlt (UInt64.lt_irrefl _)
        simp only [Option.bind_some, hsample, Option.some.injEq]
        split_ifs with hc
        · constructor
          · rintro ⟨⟩
            exact ⟨rfl, hc.2.1, rfl, hc.2.2⟩
          · rintro ⟨rfl, -, rfl, -⟩
            rfl
        · apply iff_of_false (by simp)
          rintro ⟨rfl, hvalid, rfl, hlt⟩
          exact hc ⟨hslots hlt, hvalid, hlt⟩

/-- The two samples of the window in the ring: the newest entry, and an older one that is valid. -/
theorem coverageWindowOf_some {ring : CoverageRing} {newest oldest : CoverageSample}
    (h : coverageWindowOf ring = some (newest, oldest)) :
    newest.bothValid = true ∧ ring.sampleAt 0 = some newest ∧
      ∃ i, oldestValid ring = some (i + 1) ∧ i + 1 < ring.count ∧
        ring.sampleAt (i + 1) = some oldest ∧ oldest.bothValid = true := by
  unfold coverageWindowOf at h
  split at h
  · rename_i new k hnew hold
    split at h
    · rename_i old hsample
      split_ifs at h with hc
      obtain ⟨rfl, rfl⟩ := Prod.mk.inj (Option.some.inj h)
      obtain ⟨hk, hvalid⟩ := RingBuffer.oldestWhere_some hold
      rw [hsample] at hvalid
      cases k with
      | zero => exact absurd rfl hc.1
      | succ i => exact ⟨hc.2.1, hnew, i, hold, hk, hsample, hvalid⟩
    · cases h
  · cases h

/-- The collectors can produce client bytes. -/
def coverageSupported (cfg : CollectorConfig) (bpfRuntimeEnabled : Bool) (probe : RuntimeProbe) :
    Bool :=
  bpfRuntimeEnabled || nssEcmDirectPreferred cfg probe || nssConntrackSyncPreferred cfg probe

/-- The window is long enough, and its interface counters grew enough, for a percentage. -/
def WindowMeasurable (newest oldest : CoverageSample) : Prop :=
  lanspeedCoverageMinWindowMs ≤ newest.tsMs - oldest.tsMs ∧
    lanspeedCoverageMinDenomBytes ≤
      newest.ifaceRxBytes - oldest.ifaceRxBytes + (newest.ifaceTxBytes - oldest.ifaceTxBytes)

/-- A window is measured exactly when it is measurable. -/
theorem measureWindow_ok_iff (newest oldest : CoverageSample) :
    (measureWindow newest oldest).1 = .ok ↔ WindowMeasurable newest oldest := by
  simp only [measureWindow, WindowMeasurable]
  split_ifs with hms hdenom
  · simp [UInt64.not_le.mpr hms]
  · simp [UInt64.not_le.mpr hdenom]
  · simp [UInt64.not_lt.mp hms, UInt64.not_lt.mp hdenom]

/-- When `add_coverage_to_status` reports the quality "ok". -/
theorem addCoverageToStatus_ok_iff (cfg : CollectorConfig) (enabled : Bool) (probe : RuntimeProbe)
    {ring : CoverageRing} {hist : List CoverageSample} (h : ring.Represents hist) :
    (addCoverageToStatus cfg enabled probe ring).1.quality = .ok ↔
      coverageSupported cfg enabled probe = true ∧ ∃ newest oldest, WindowOpen hist newest oldest ∧
        WindowMeasurable newest oldest ∧ ¬ newest.FellSince oldest := by
  have hsupported : (!enabled && !nssEcmDirectPreferred cfg probe &&
      !nssConntrackSyncPreferred cfg probe) = !coverageSupported cfg enabled probe := by
    simp [coverageSupported]
  unfold addCoverageToStatus
  rw [hsupported]
  cases coverageSupported cfg enabled probe with
  | false => simp
  | true =>
    simp only [Bool.not_true, Bool.false_eq_true, if_false, true_and,
      ← coverageWindowOf_eq_some_iff h]
    match coverageWindowOf ring with
    | none => simp
    | some (newest, oldest) =>
      simp only [Option.some.injEq, Prod.mk.injEq]
      by_cases hfell : newest.FellSince oldest
      · have hbelow : newest.notBelow oldest = false := by
          rw [← Bool.not_eq_true, notBelow_iff, not_not]
          exact hfell
        simp only [hbelow, Bool.false_eq_true, if_false, reduceCtorEq, false_iff, not_exists]
        rintro _ _ ⟨⟨rfl, rfl⟩, -, hnot⟩
        exact hnot hfell
      · rw [if_pos ((notBelow_iff newest oldest).mpr hfell)]
        apply Iff.trans (measureWindow_ok_iff newest oldest)
        constructor
        · exact fun hm => ⟨newest, oldest, ⟨rfl, rfl⟩, hm, hfell⟩
        · rintro ⟨_, _, ⟨rfl, rfl⟩, hm, -⟩
          exact hm

/-- `add_coverage_to_status` clears the ring when it reports a counter reset, and only then. -/
theorem addCoverageToStatus_ring (cfg : CollectorConfig) (enabled : Bool) (probe : RuntimeProbe)
    (ring : CoverageRing) :
    (addCoverageToStatus cfg enabled probe ring).2
      = if (addCoverageToStatus cfg enabled probe ring).1.quality = .counterReset then ring.clear
        else ring := by
  unfold addCoverageToStatus
  cases !enabled && !nssEcmDirectPreferred cfg probe && !nssConntrackSyncPreferred cfg probe with
  | true => simp
  | false =>
    match coverageWindowOf ring with
    | none => simp
    | some (newest, oldest) =>
      have hmeasure : (measureWindow newest oldest).1 ≠ .counterReset := by
        simp only [measureWindow]
        split_ifs <;> simp
      by_cases hbelow : newest.notBelow oldest <;> simp [hbelow, hmeasure]

/-! ## Decreases inside the window -/

/-- A counter decreases between two consecutive valid samples of the window. -/
def DecreaseInWindow (hist : List CoverageSample) : Prop :=
  ∃ i newer older, (validWindow hist)[i]? = some newer ∧ (validWindow hist)[i + 1]? = some older ∧
    newer.FellSince older

/-- A decrease between consecutive samples keeps the quality from being "ok" exactly when it shows
at the end points of the window, where the window is one that is measured. -/
theorem decrease_not_ok_iff (cfg : CollectorConfig) (enabled : Bool) (probe : RuntimeProbe)
    (ring : CoverageRing) (pushed : List CoverageSample) :
    (DecreaseInWindow pushed.reverse →
      (addCoverageToStatus cfg enabled probe (pushed.foldl RingBuffer.push ring.clear)).1.quality
        ≠ .ok) ↔
      ∀ newest oldest, DecreaseInWindow pushed.reverse →
        coverageSupported cfg enabled probe = true → WindowOpen pushed.reverse newest oldest →
        WindowMeasurable newest oldest → newest.FellSince oldest := by
  have hring := RingBuffer.represents_foldl_push ring.represents_clear pushed
  rw [List.append_nil] at hring
  rw [Ne, addCoverageToStatus_ok_iff cfg enabled probe hring]
  constructor
  · intro h newest oldest hdec hsup hopen hm
    by_contra hfell
    exact h hdec ⟨hsup, newest, oldest, hopen, hm, hfell⟩
  · rintro h hdec ⟨hsup, newest, oldest, hopen, hm, hfell⟩
    exact hfell (h newest oldest hdec hsup hopen hm)

/-- A valid sample at `tsMs` with the given interface rx and client tx bytes. -/
def uploadSample (tsMs ifaceRxBytes clientTxBytes : UInt64) : CoverageSample :=
  { tsMs, ifaceRxBytes, clientTxBytes, ifaceValid := true, clientValid := true }

/-- The client counter grows to 200 and then falls to 100, which is still above the 50 of the oldest
sample. The status calls before report a window that is not long enough, and leave the ring as it
is. -/
theorem decrease_overgrown_ok :
    let samples :=
      [uploadSample 1000 0 50, uploadSample 3000 300000 200, uploadSample 5000 600000 100]
    let ring (pushed : List CoverageSample) :=
      pushed.foldl RingBuffer.push (CollectorState.init true).coverageRing.clear
    (∀ k ∈ [1, 2], (addCoverageToStatus {} true {} (ring (samples.take k))).1.quality = .warmup ∧
      (addCoverageToStatus {} true {} (ring (samples.take k))).2 = ring (samples.take k)) ∧
    ¬ (DecreaseInWindow samples.reverse →
      (addCoverageToStatus {} true {} (ring samples)).1.quality ≠ .ok) := by
  intro samples ring
  have hwarmup : ∀ k ∈ [1, 2],
      (addCoverageToStatus {} true {} (ring (samples.take k))).1.quality =
        .warmup := by decide +kernel
  refine ⟨fun k hk => ⟨hwarmup k hk, ?_⟩, fun h => ?_⟩
  · rw [addCoverageToStatus_ring, hwarmup k hk]
    exact if_neg (by decide)
  · have hdec : DecreaseInWindow samples.reverse :=
      ⟨0, uploadSample 5000 600000 100, uploadSample 3000 300000 200,
        by decide, by decide, by decide⟩
    exact h hdec (by decide +kernel)

end Lanspeed
