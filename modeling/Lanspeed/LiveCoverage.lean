import Lanspeed.LiveRates
import Lanspeed.Paths

/-!
# The coverage of a live map

The percentage of a coverage report compares what the clients of two walks add up to with the
counters of the interfaces. Between the two status calls frames are accounted, entries are evicted
and walks are made. In a run whose ticks are sound (`SoundTick`), the percentage never stands for
more bytes than were accounted between the beginning of the older and the end of the newer walk
(`coverage_pct_le`), and without evictions for no fewer than between the end of the older and the
beginning of the newer one (`coverage_pct_ge`).
-/

namespace Lanspeed

variable {bucketOf : LanspeedKey → ℕ}

/-! ## The total over all clients -/

/-- The map keys whose entries count for some identity in one direction. -/
def countsForSome (ifIndexToName : UInt32 → Option CStr) (dir : Direction)
    (key : LanspeedKey) : Bool :=
  (rawKey { nowMs := 0, maxFolded := 0, ifIndexToName, arp := [] }
    (sampleOfEntry (key, {}))).isSome ∧
    key.direction = dir.bpfDir

/-- A key counts for some client where its entry has an identity and the direction. -/
theorem countsForSome_iff {env : FoldEnv} {ifIndexToName : UInt32 → Option CStr}
    (henv : env.ifIndexToName = ifIndexToName) {dir : Direction} {raw : LanspeedBpfSample} :
    countsForSome ifIndexToName dir raw.key = true ↔
      (rawKey env raw).isSome = true ∧ raw.direction = dir.bpfDir := by
  rw [rawKey_eq henv, countsForSome, decide_eq_true_eq]
  rfl

/-- The raw entries of distinct identities: each counts for its own. -/
theorem sum_rawBytes {env : FoldEnv} {dir : Direction} {raws : List LanspeedBpfSample}
    {keys : Finset CStr} (hkeys : ∀ raw ∈ raws, ∀ key, rawKey env raw = some key → key ∈ keys) :
    ∑ key ∈ keys, (raws.map (rawBytes env dir key)).sum =
      (raws.map fun raw => if (rawKey env raw).isSome ∧ raw.direction = dir.bpfDir then raw.bytes
        else 0).sum := by
  induction raws with
  | nil => simp
  | cons raw raws ih =>
    obtain ⟨hraw, hraws⟩ := List.forall_mem_cons.mp hkeys
    simp only [List.map_cons, List.sum_cons, Finset.sum_add_distrib, ih hraws]
    congr 1
    simp only [rawBytes]
    cases hkey : rawKey env raw with
    | none => simp
    | some key =>
      simp only [Option.some.injEq, Option.isSome_some, true_and,
        ite_and, Finset.sum_ite_eq, if_pos (hraw key hkey)]

/-- The samples of a table add up to the bytes of the raw entries that have an identity. -/
theorem sum_bytes_bpfFold {env : FoldEnv} {raws : List LanspeedBpfSample}
    (hfit : IdentitiesFit env raws) (dir : Direction) :
    ((bpfFold env [] raws).map (BpfClientSample.bytes · dir)).sum =
      (raws.map fun raw => if (rawKey env raw).isSome ∧ raw.direction = dir.bpfDir then raw.bytes
        else 0).sum := by
  have hdistinct : ((bpfFold env [] raws).map BpfClientSample.identityKey).Nodup :=
    distinct_bpfFold env (Keyed.distinct_nil _) raws
  have hbytes : ((bpfFold env [] raws).map (BpfClientSample.bytes · dir)) =
      ((bpfFold env [] raws).map BpfClientSample.identityKey).map fun key =>
      (raws.map (rawBytes env dir key)).sum := by
    rw [List.map_map]
    exact List.map_congr_left fun s hs => bytes_of_mem_bpfFold hfit hs dir
  rw [hbytes, ← List.sum_toFinset _ hdistinct]
  refine sum_rawBytes fun raw hraw key hkey => List.mem_toFinset.mpr ?_
  exact (mem_identities_bpfFold hfit key).mpr ⟨raw, hraw, hkey⟩

/-- The total over all clients that a walk shows. -/
def Walk.clientBytes (w : Walk) (dir : Direction) : ℕ :=
  ((w.read.samples.map (BpfClientSample.bytes · dir)).sum).toNat

section Totals

variable {ifIndexToName : UInt32 → Option CStr} {s : LiveState bucketOf} {dir : Direction}

/-- Where the counters do not overflow, the total that a walk shows is what its entries show. -/
theorem History.clientBytes_eq (h : History ifIndexToName s)
    (hbytes : accounted (fun _ => true) s.passed < 2 ^ 64)
    {w : Walk} (hw : w ∈ s.walks) {S : Finset LanspeedKey}
    (hS : ∀ k ∈ S, countsForSome ifIndexToName dir k = true)
    (hcover : ∀ raw ∈ w.raws, countsForSome ifIndexToName dir raw.key = true → raw.key ∈ S) :
    w.clientBytes dir = ∑ k ∈ S, bytesShown w.raws k := by
  obtain ⟨env, henv, hsamples, hfit⟩ := h.folded w hw
  have hsum : (w.read.samples.map (BpfClientSample.bytes · dir)).sum =
      UInt64.ofNat (∑ k ∈ S, bytesShown w.raws k) := by
    rw [hsamples, sum_bytes_bpfFold hfit, sum_bytesShown (h.nodup w hw) hS hcover,
      ← Word.sum_map_ofNat]
    congr 1
    refine List.map_congr_left fun raw _ => ?_
    by_cases hp : countsForSome ifIndexToName dir raw.key = true
    · rw [if_pos hp, if_pos ((countsForSome_iff henv).mp hp)]
      exact UInt64.ofNat_toNat.symm
    · rw [if_neg hp, if_neg (mt (countsForSome_iff henv).mpr hp)]
      rfl
  rw [Walk.clientBytes, hsum,
    UInt64.toNat_ofNat_of_lt' ((h.sum_bytesShown_le hw hS).trans_lt hbytes)]

/-- Keys that take in all that the walks show, and the frames of some events. -/
theorem History.exists_all_keys (h : History ifIndexToName s)
    (hbytes : accounted (fun _ => true) s.passed < 2 ^ 64) (dir : Direction) (evs : List MapEvent) :
    ∃ S : Finset LanspeedKey, (∀ k ∈ S, countsForSome ifIndexToName dir k = true) ∧
      (∀ w ∈ s.walks, w.clientBytes dir = ∑ k ∈ S, bytesShown w.raws k) ∧
      ∀ e ∈ evs, ∀ k, e.frameKey? (countsForSome ifIndexToName dir) = some k → k ∈ S := by
  refine ⟨identityKeys (countsForSome ifIndexToName dir) s.walks evs,
    fun _ => of_mem_identityKeys, ?_, ?_⟩
  · exact fun w hw => h.clientBytes_eq hbytes hw (fun _ => of_mem_identityKeys)
      fun _ => key_mem_identityKeys hw
  · exact fun e he k hk => frameKey_mem_identityKeys he hk

/-- A walk shows no more bytes of the clients than were ever accounted. -/
theorem History.clientBytes_le (h : History ifIndexToName s)
    (hbytes : accounted (fun _ => true) s.passed < 2 ^ 64)
    {w : Walk} (hw : w ∈ s.walks) (dir : Direction) :
    w.clientBytes dir ≤ accounted (fun _ => true) s.passed := by
  obtain ⟨S, hS, htotal, -⟩ := h.exists_all_keys hbytes dir []
  rw [htotal w hw]
  exact h.sum_bytesShown_le hw hS

end Totals

/-! ## Percentages -/

/-- The client bytes of a sample in one direction. -/
def CoverageSample.clientBytes (sample : CoverageSample) : Direction → UInt64
  | .tx => sample.clientTxBytes
  | .rx => sample.clientRxBytes

/-- The percentage of a window in one direction. -/
def CoverageWindow.pct (window : CoverageWindow) : Direction → Option ℕ
  | .tx => window.txPct
  | .rx => window.rxPct

/-- The interface bytes of a window in one direction: what clients send, the interfaces receive. -/
def CoverageWindow.ifaceBytes (window : CoverageWindow) : Direction → UInt64
  | .tx => window.denomRxBytes
  | .rx => window.denomTxBytes

/-- A percentage stands for no more than the numerator. -/
theorem clampedPct_mul_le {numer denom : UInt64} {pct : ℕ} (h : clampedPct numer denom = some pct) :
    pct * denom.toNat ≤ 100 * numer.toNat := by
  unfold clampedPct at h
  split_ifs at h with hdenom
  obtain rfl := Option.some.inj h
  have hle : (if numer * 100 / denom > 100 then 100 else (numer * 100 / denom).toNat) ≤
      (numer * 100 / denom).toNat := by
    split_ifs with hclamp
    · exact (UInt64.lt_iff_toNat_lt.mp hclamp).le
    · exact le_rfl
  calc (if numer * 100 / denom > 100 then 100 else (numer * 100 / denom).toNat) * denom.toNat
    _ ≤ (numer * 100 / denom).toNat * denom.toNat := Nat.mul_le_mul_right _ hle
    _ ≤ (numer * 100).toNat := Nat.div_mul_le_self _ _
    _ ≤ numer.toNat * 100 := Nat.mod_le _ _
    _ = 100 * numer.toNat := Nat.mul_comm _ _

/-- A percentage below the limit, rounded up, stands for more than the numerator. -/
theorem lt_clampedPct_mul {numer denom : UInt64} {pct : ℕ} (h : clampedPct numer denom = some pct)
    (hroom : 100 * numer.toNat < 2 ^ 64) :
    pct = 100 ∨ 100 * numer.toNat < (pct + 1) * denom.toNat := by
  unfold clampedPct at h
  split_ifs at h with hdenom
  obtain rfl := Option.some.inj h
  split_ifs with hclamp
  · exact .inl rfl
  · have hmul : (numer * 100).toNat = 100 * numer.toNat := by
      rw [UInt64.toNat_mul, Nat.mul_comm]
      exact Nat.mod_eq_of_lt hroom
    refine .inr ?_
    rw [UInt64.toNat_div, hmul, Nat.mul_comm _ denom.toNat]
    exact Nat.lt_mul_div_succ _ (UInt64.lt_iff_toNat_lt.mp hdenom)

/-- The percentages of a report are those of the two samples that the ring compares. -/
theorem pct_addCoverageToStatus {cfg : CollectorConfig} {enabled : Bool}
    {probe : RuntimeProbe} {ring : CoverageRing} {window : CoverageWindow}
    (hwindow : (addCoverageToStatus cfg enabled probe ring).1.window = some window)
    {dir : Direction} {pct : ℕ} (hpct : window.pct dir = some pct) :
    ∃ newest oldest, coverageWindowOf ring = some (newest, oldest) ∧
      oldest.clientBytes dir ≤ newest.clientBytes dir ∧
      clampedPct (newest.clientBytes dir - oldest.clientBytes dir)
        (window.ifaceBytes dir) = some pct := by
  unfold addCoverageToStatus at hwindow
  split at hwindow
  · exact absurd hwindow (by simp)
  · split at hwindow
    · obtain rfl := Option.some.inj hwindow
      cases dir <;> exact absurd hpct (by simp [CoverageWindow.pct])
    · rename_i newest oldest hring
      refine ⟨newest, oldest, hring, ?_⟩
      split at hwindow
      · rename_i hbelow
        simp only [CoverageSample.notBelow, Bool.and_eq_true, decide_eq_true_eq] at hbelow
        obtain rfl := Option.some.inj hwindow
        unfold measureWindow at hpct ⊢
        dsimp only at hpct ⊢
        split_ifs at hpct ⊢
        · cases dir <;> exact absurd hpct (by simp [CoverageWindow.pct])
        · cases dir <;> exact absurd hpct (by simp [CoverageWindow.pct])
        · cases dir with
          | tx => exact ⟨hbelow.2, hpct⟩
          | rx => exact ⟨hbelow.1.2, hpct⟩
      · obtain rfl := Option.some.inj hwindow
        cases dir <;> exact absurd hpct (by simp [CoverageWindow.pct])

/-! ## Runs with calls of the methods -/

/-- What happens: an event of the live map, a call of `clients_method`, or a call of
`status_method`. -/
inductive CoverageEvent where
  | live (e : LiveEvent)
  | clients (inp : ClientsInput)
  | status (inp : StatusInput)

/-- A coverage sample with its collector, and the walks that had been made when it was pushed,
newest first. -/
structure WalkedSample extends SourcedSample where
  walks : List Walk
deriving DecidableEq, Repr

/-- The live map, and the coverage samples that were pushed since the ring was last cleared, newest
first. -/
structure CoverageState (bucketOf : LanspeedKey → ℕ) where
  live : LiveState bucketOf
  pushed : List WalkedSample

/-- The samples that the ring still holds and that are valid on both sides. -/
def validPushed (pushed : List WalkedSample) : List WalkedSample :=
  (pushed.take lanspeedCoverageWindow).filter fun p => p.sample.bothValid

section Run

variable (cfg : CollectorConfig) (max : ℕ) (ifIndexToName : UInt32 → Option CStr)

/-- The sample that a status call pushes. -/
def CoverageState.newSample (s : CoverageState bucketOf) (inp : StatusInput) : WalkedSample where
  sample := coverageSampleOf cfg s.live.st inp.nowMs inp.probe inp.ifaces
  source := coverageSource cfg s.live.st inp.probe
  walks := s.live.walks

/-- The samples that were pushed when a status call computes its report. -/
def CoverageState.sampled (s : CoverageState bucketOf) (inp : StatusInput) : List WalkedSample :=
  s.newSample cfg inp :: s.pushed

/-- One event. -/
def coverageStep (s : CoverageState bucketOf) : CoverageEvent → CoverageState bucketOf
  | .live e =>
    { live := liveStep cfg max ifIndexToName s.live e
      pushed := match e with
        | .reset => []
        | _ => s.pushed }
  | .clients inp => { s with live := { s.live with st := (clientsMethod cfg inp s.live.st).2 } }
  | .status inp =>
    let (report, st) := statusMethod cfg inp s.live.st
    { live := { s.live with st }
      pushed := if report.quality = .counterReset then [] else s.sampled cfg inp }

/-- Every tick is sound, and a call leaves the attach policy as it is: a switch is a reset before
the call. -/
def CallsSound (s : CoverageState bucketOf) : CoverageEvent → Prop
  | .live e => TicksSound cfg max ifIndexToName s.live e
  | .clients inp => inp.switched = false
  | .status inp => inp.switched = false

instance (s : CoverageState bucketOf) (e : CoverageEvent) :
    Decidable (CallsSound cfg max ifIndexToName s e) :=
  match e with
  | .live e => inferInstanceAs (Decidable (TicksSound cfg max ifIndexToName s.live e))
  | .clients inp => inferInstanceAs (Decidable (inp.switched = false))
  | .status inp => inferInstanceAs (Decidable (inp.switched = false))

end Run

/-- The ring holds the newest of the pushed samples, in the order of their walks, and a sample of
the BPF collector has what its newest walk shows. -/
structure Covered (ifIndexToName : UInt32 → Option CStr) (s : CoverageState bucketOf) : Prop where
  history : History ifIndexToName s.live
  ring : s.live.st.coverageRing.Represents (s.pushed.map (·.sample))
  walked : ∀ p ∈ s.pushed, p.walks <:+ s.live.walks
  ordered : s.pushed.Pairwise fun p q => q.walks <:+ p.walks
  measured : ∀ p ∈ s.pushed, p.source = some .bpf → ∃ w older, p.walks = w :: older ∧
    ∀ dir, (p.sample.clientBytes dir).toNat = w.clientBytes dir

section Steps

variable {cfg : CollectorConfig} {max : ℕ} {ifIndexToName : UInt32 → Option CStr}
    {s : CoverageState bucketOf}

/-- The daemon starts with an empty ring. -/
theorem covered_start (enabled : Bool) :
    Covered ifIndexToName (⟨LiveState.start enabled, []⟩ : CoverageState bucketOf) :=
  { history := history_start enabled
    ring := RingBuffer.represents_init _ _
    walked := by simp
    ordered := List.Pairwise.nil
    measured := by simp }

/-- Where the collector has the samples of the newest walk, so has a coverage sample that is taken
from it. -/
theorem History.measured {s : LiveState bucketOf} (h : History ifIndexToName s)
    {probe : RuntimeProbe} (hsource : coverageSource cfg s.st probe = some .bpf) (nowMs : UInt64)
    (ifaces : List IfaceStatistics) :
    ∃ w older, s.walks = w :: older ∧
      ∀ dir, ((coverageSampleOf cfg s.st nowMs probe ifaces).clientBytes dir).toNat =
        w.clientBytes dir := by
  have hclient :
      coverageCurrentClientBytes cfg s.st probe = some (bpfBytes s.st.bpfCurrentSamples) := by
    rw [coverageCurrentClientBytes_eq, hsource]
    rfl
  have hsamples := h.snapshots.currentSamples
  cases hwalks : s.walks with
  | nil =>
    rw [hwalks] at hsamples
    have hnone : (s.st.bpfRuntimeEnabled && !s.st.bpfCurrentSamples.isEmpty) = false := by
      rw [hsamples]
      exact Bool.and_false _
    simp only [coverageSource, hnone, Bool.false_eq_true, if_false] at hsource
    split_ifs at hsource <;> cases hsource
  | cons w older =>
    rw [hwalks] at hsamples
    refine ⟨w, older, rfl, fun dir => ?_⟩
    rw [coverageSampleOf, hclient, hsamples]
    cases dir <;> rfl

/-- A walk or an event of the map keeps the samples, a reset drops them. -/
theorem Covered.live (h : Covered ifIndexToName s) {e : LiveEvent}
    (he : TicksSound cfg max ifIndexToName s.live e) :
    Covered ifIndexToName (coverageStep cfg max ifIndexToName s (.live e)) := by
  have hhistory := h.history.step he
  cases e with
  | map e => exact { h with history := hhistory }
  | reset =>
    exact
      { history := hhistory
        ring := RingBuffer.represents_clear _
        walked := by simp [coverageStep]
        ordered := List.Pairwise.nil
        measured := by simp [coverageStep] }
  | tick nowMs walk arp =>
    refine
      { history := hhistory, ring := ?_, walked := fun p hp => (h.walked p hp).trans ?_,
        ordered := h.ordered, measured := h.measured }
    · change (bpfCollectSamples _ _ _).coverageRing.Represents _
      rw [bpfCollectSamples_coverageRing]
      exact h.ring
    · change _ <:+ (liveStep cfg max ifIndexToName s.live (.tick nowMs walk arp)).walks
      simp only [liveStep]
      split
      · exact List.suffix_rfl
      · exact List.suffix_cons _ _

/-- The state in which a status call computes its report. -/
theorem Covered.sampled (h : Covered ifIndexToName s) {inp : StatusInput}
    (hinp : inp.switched = false) :
    Covered ifIndexToName ⟨{ s.live with st := statusSampled cfg inp s.live.st },
      s.sampled cfg inp⟩ := by
  have hst : statusSampled cfg inp s.live.st =
      { s.live.st with
        coverageRing := s.live.st.coverageRing.push (s.newSample cfg inp).sample } := by
    rw [statusSampled, refreshAttachPolicy, hinp, Bool.and_false]
    rfl
  rw [hst]
  exact
    { history := { h.history with snapshots := { h.history.snapshots with } }
      ring := h.ring.push _
      walked := List.forall_mem_cons.mpr ⟨List.suffix_rfl, h.walked⟩
      ordered := List.pairwise_cons.mpr ⟨h.walked, h.ordered⟩
      measured :=
        List.forall_mem_cons.mpr ⟨fun hsource => h.history.measured hsource _ _, h.measured⟩ }

/-- A clients call keeps the ring true to the walks. -/
theorem Covered.clients (h : Covered ifIndexToName s) {inp : ClientsInput}
    (hinp : inp.switched = false) :
    Covered ifIndexToName (coverageStep cfg max ifIndexToName s (.clients inp)) := by
  obtain ⟨conntrack, nss, hstate⟩ := collectClients_state cfg inp (clientsRefresh cfg inp s.live.st)
  have hrefresh : clientsRefresh cfg inp s.live.st = s.live.st := by
    rw [clientsRefresh, refreshAttachPolicy, hinp, Bool.and_false]
    rfl
  have hst : (clientsMethod cfg inp s.live.st).2 =
      { s.live.st with
        previousConntrack := conntrack
        previousNssEcmDirect := nss
        overviewRing := (clientsMethod cfg inp s.live.st).2.overviewRing } := by
    rw [hrefresh] at hstate
    simp only [clientsMethod, hrefresh, hstate]
  rw [coverageStep, hst]
  exact { h with history := { h.history with snapshots := { h.history.snapshots with } } }

/-- A status call keeps the ring true to the walks. -/
theorem Covered.status (h : Covered ifIndexToName s) {inp : StatusInput}
    (hinp : inp.switched = false) :
    Covered ifIndexToName (coverageStep cfg max ifIndexToName s (.status inp)) := by
  have hsampled : Covered ifIndexToName ⟨{ s.live with st := statusSampled cfg inp s.live.st },
    s.sampled cfg inp⟩ :=
    h.sampled hinp
  have hring :=
    addCoverageToStatus_ring cfg (statusSampled cfg inp s.live.st).bpfRuntimeEnabled inp.probe
    (statusSampled cfg inp s.live.st).coverageRing
  simp only [coverageStep, statusMethod]
  by_cases hreset :
    (addCoverageToStatus cfg (statusSampled cfg inp s.live.st).bpfRuntimeEnabled inp.probe
      (statusSampled cfg inp s.live.st).coverageRing).1.quality = .counterReset
  · simp only [hring, hreset, if_true]
    exact
      { history := { hsampled.history with snapshots := { hsampled.history.snapshots with } }
        ring := RingBuffer.represents_clear _
        walked := by simp
        ordered := List.Pairwise.nil
        measured := by simp }
  · simp only [hring, hreset, if_false]
    exact hsampled

/-- A step with sound calls keeps the ring true to the walks. -/
theorem Covered.step (h : Covered ifIndexToName s) {e : CoverageEvent}
    (he : CallsSound cfg max ifIndexToName s e) :
    Covered ifIndexToName (coverageStep cfg max ifIndexToName s e) := by
  cases e with
  | live e => exact h.live he
  | clients inp => exact h.clients he
  | status inp => exact h.status he

end Steps

/-- A run with calls of the methods on an empty map, with sound ticks. -/
structure CoverageLiveRun (bucketOf : LanspeedKey → ℕ) (cfg : CollectorConfig) (max : ℕ)
    (ifIndexToName : UInt32 → Option CStr) where
  enabled : Bool
  events : List CoverageEvent
  sound : Machine.Along (coverageStep cfg max ifIndexToName) (CallsSound cfg max ifIndexToName)
    (⟨LiveState.start enabled, []⟩ : CoverageState bucketOf) events

namespace CoverageLiveRun

variable {cfg : CollectorConfig} {max : ℕ} {ifIndexToName : UInt32 → Option CStr}
  (run : CoverageLiveRun bucketOf cfg max ifIndexToName)

/-- The state after the run. -/
def state : CoverageState bucketOf :=
  Machine.run (coverageStep cfg max ifIndexToName) ⟨LiveState.start run.enabled, []⟩ run.events

theorem covered : Covered ifIndexToName run.state :=
  Machine.run_invariant_along _ (fun _ _ h he => h.step he) (covered_start run.enabled) run.sound

end CoverageLiveRun

/-- A client sends before and after the first of two walks, and the status is asked for
in between. -/
def uploadRun : CoverageLiveRun lastByte bpfConfig 4096
    (fun ifindex => if ifindex = 4 then some "br-lan".toList else none) where
  enabled := true
  events :=
    [.live (.map (.frame (txKey 1) 100000 1)),
      .live (.tick 1000 [.call none, .call none, .call none] []),
      .status
        { switched := false, probe := {}, nowMs := 1100,
          ifaces := [⟨some (some 0), some (some 0)⟩] },
      .live (.map (.frame (txKey 1) 400000 2)),
      .live (.tick 2000 [.call none, .call none, .call none] [])]
  sound := by decide +kernel

/-- The status call after `uploadRun`. -/
def uploadCall : StatusInput :=
  { switched := false, probe := {}, nowMs := 5000, ifaces := [⟨some (some 600000), some (some 0)⟩] }

/-- The sample of the status call in `uploadRun`. -/
def uploadOldest : WalkedSample where
  sample := uploadSample 1100 0 100000
  source := some .bpf
  walks :=
    [{ read := ⟨1000, [oneClientSample 0 100000]⟩
       raws := [{ oneClientRaw 100000 with lastSeenNs := 1 }]
       begun := [.frame (txKey 1) 100000 1]
       ended := [.frame (txKey 1) 100000 1, .call none, .call none, .call none] }]

/-- The window that `uploadCall` reports. -/
def uploadWindow : CoverageWindow :=
  { windowMs := 3900, denomRxBytes := 600000, numerTxBytes := 400000, txPct := some 66 }

/-! ## What a percentage stands for -/

/-- The window over the samples is the window over the pushes they came with. -/
theorem validWindow_map (pushed : List WalkedSample) :
    validWindow (pushed.map (·.sample)) = (validPushed pushed).map (·.sample) := by
  rw [validWindow, validPushed, ← List.map_take, List.filter_map]
  rfl

section Report

variable {cfg : CollectorConfig} {ifIndexToName : UInt32 → Option CStr} {s : CoverageState bucketOf}

/-- The percentage of a report that measures the BPF collector at both ends is that of two of its
walks. -/
theorem Covered.exists_walks (h : Covered ifIndexToName s) {inp : StatusInput}
    (hinp : inp.switched = false)
    {oldest : WalkedSample} (holdest : (validPushed (s.sampled cfg inp)).getLast? = some oldest)
    (hnew : (s.newSample cfg inp).source = some .bpf) (hold : oldest.source = some .bpf)
    {window : CoverageWindow}
    (hwindow : (statusMethod cfg inp s.live.st).1.window = some window) {dir : Direction} {pct : ℕ}
    (hpct : window.pct dir = some pct) :
    ∃ last older before rest, s.live.walks = last :: older ∧ oldest.walks = before :: rest ∧
      oldest.walks <:+ s.live.walks ∧ before.clientBytes dir ≤ last.clientBytes dir ∧
      ∃ numer : UInt64, numer.toNat = last.clientBytes dir - before.clientBytes dir ∧
        clampedPct numer (window.ifaceBytes dir) = some pct := by
  have hsampled : Covered ifIndexToName ⟨{ s.live with st := statusSampled cfg inp s.live.st },
    s.sampled cfg inp⟩ :=
    h.sampled hinp
  have hmem : oldest ∈ s.sampled cfg inp :=
    List.mem_of_mem_take (List.mem_of_mem_filter (List.mem_of_getLast? holdest))
  obtain ⟨last, older, hwalks, hlast⟩ := hsampled.measured _ List.mem_cons_self hnew
  obtain ⟨before, rest, hbefore, hbeforeBytes⟩ := hsampled.measured oldest hmem hold
  obtain ⟨newest', oldest', hring, hle, hclamped⟩ := pct_addCoverageToStatus hwindow hpct
  -- The two samples that the ring compares are the one just pushed and the oldest valid one.
  obtain ⟨hhead, -, hgetLast, -⟩ :=
    (coverageWindowOf_eq_some_iff hsampled.ring newest' oldest').mp hring
  obtain rfl : (s.newSample cfg inp).sample = newest' := Option.some.inj hhead
  rw [validWindow_map, List.getLast?_map, holdest] at hgetLast
  obtain rfl : oldest.sample = oldest' := Option.some.inj hgetLast
  refine ⟨last, older, before, rest, hwalks, hbefore, hsampled.walked oldest hmem,
    ?_, _, ?_, hclamped⟩
  · rw [← hlast, ← hbeforeBytes]
    exact UInt64.le_iff_toNat_le.mp hle
  · rw [UInt64.toNat_sub_of_le _ _ hle, hlast, hbeforeBytes]

end Report

section Growth

variable {ifIndexToName : UInt32 → Option CStr} {s : LiveState bucketOf} {dir : Direction}

/-- From one walk to a later one, what the walks show over all clients grows by at most what was
accounted from the beginning of the first to the end of the second. -/
theorem History.clientBytes_sub_le (h : History ifIndexToName s)
    (hbytes : accounted (fun _ => true) s.passed < 2 ^ 64) {last before : Walk}
    {older rest : List Walk}
    (hwalks : s.walks = last :: older) (hsuffix : before :: rest <:+ s.walks) :
    last.clientBytes dir - before.clientBytes dir ≤
      accounted (countsForSome ifIndexToName dir) (before.span last) := by
  obtain ⟨S, hS, htotal, -⟩ := h.exists_all_keys hbytes dir []
  obtain ⟨taken, hsound, -⟩ := h.sound
  obtain ⟨newer, hnewer⟩ := hsuffix
  have hparts : s.walks = (newer ++ [before]) ++ rest := by rw [← hnewer, List.append_cons]
  have hsub : (newer ++ [before]).Sublist s.walks := hparts ▸ List.sublist_append_left _ _
  have hhead : (newer ++ [before]).head? = some last := by
    have hhead := congrArg List.head? (hparts.symm.trans hwalks)
    rwa [List.head?_append_of_ne_nil _ (by simp), List.head?_cons] at hhead
  have hlast : (newer ++ [before]).getLast? = some before := List.getLast?_concat
  -- The walks from the one to the other alone are sound readings.
  have hreadings : SampledCounters.Sound ((newer ++ [before]).map Walk.reading) taken := by
    have htake := hsound.take (newer ++ [before]).length
    rwa [← List.map_take, hparts, List.take_left'] at htake
    rfl
  have hgrowths := growths_le_accounted hreadings (fun w hw => h.begun_ended w (hsub.subset hw))
    (h.apart.sublist hsub) hhead hlast hS
  have hheadReading : ((newer ++ [before]).map Walk.reading).head? = some last.reading := by
    rw [List.head?_map, hhead]
    rfl
  have hlastReading : ((newer ++ [before]).map Walk.reading).getLast? = some before.reading := by
    rw [List.getLast?_map, hlast]
    rfl
  have hgrowth := SampledCounters.sub_le_growths S hheadReading hlastReading
  rw [htotal last (hsub.subset (List.mem_of_mem_head? hhead)),
    htotal before (hsub.subset (List.mem_of_getLast? hlast))]
  exact hgrowth.trans hgrowths

end Growth

/-! ## Without evictions -/

/-- Every counter under the keys that satisfy `p` is what was ever accounted under its key, and
every walk shows at least what had been accounted when it began. -/
structure CountsAll (p : LanspeedKey → Bool) (s : LiveState bucketOf) : Prop where
  now : ∀ k, p k = true → counterAt s.clients k = accounted (only k) s.passed
  shown : ∀ w ∈ s.walks, ∀ k, p k = true → accounted (only k) w.begun ≤ bytesShown w.raws k

section Kept

variable {cfg : CollectorConfig} {max : ℕ} {ifIndexToName : UInt32 → Option CStr}
    {s : LiveState bucketOf}
  {p : LanspeedKey → Bool} {dir : Direction}

theorem countsAll_start (enabled : Bool) :
    CountsAll p (LiveState.start enabled : LiveState bucketOf) :=
  ⟨fun _ _ => rfl, by simp [LiveState.start]⟩

/-- Events that keep the entries leave every byte counted. -/
theorem CountsAll.passed (hp : CountsAll p s) (h : History ifIndexToName s) {evs : List MapEvent}
    (hkept : ∀ k, p k = true → .evict k ∉ evs)
    (hbytes : accounted (fun _ => true) (s.passed ++ evs) < 2 ^ 64) (r : Reader) :
    CountsAll p
      { s with
        clients := (Machine.run (readStep max) ⟨s.clients, r⟩ evs).clients
        passed := s.passed ++ evs } := by
  refine ⟨fun k hk => ?_, hp.shown⟩
  change counterAt (Machine.run (readStep max) ⟨s.clients, r⟩ evs).clients k =
    accounted (only k) (s.passed ++ evs)
  rw [h.counterAt_run max (hkept k hk) hbytes, hp.now k hk, accounted_append]

/-- A step that keeps the entries leaves every byte counted. -/
theorem CountsAll.step (hp : CountsAll p s) (h : History ifIndexToName s) {e : LiveEvent}
    (he : TicksSound cfg max ifIndexToName s e) (hkept : KeepsEntries p e)
    (hbytes : accounted (fun _ => true) (liveStep cfg max ifIndexToName s e).passed < 2 ^ 64) :
    CountsAll p (liveStep cfg max ifIndexToName s e) := by
  cases e with
  | map e => exact hp.passed h hkept hbytes {}
  | reset => exact ⟨hp.now, by simp [liveStep]⟩
  | tick nowMs walk arp =>
    have hpassed :
        CountsAll p { s with clients := (s.walked max walk).clients, passed := s.passed ++ walk } :=
      hp.passed h hkept hbytes (Reader.start true max)
    refine ⟨hpassed.now, ?_⟩
    simp only [liveStep]
    cases hread : (s.walked max walk).reader.outcome with
    | none =>
      have hinput : (s.input max ifIndexToName nowMs walk arp).read = none := hread
      simp only [hinput]
      exact hp.shown
    | some raws =>
      have hinput : (s.input max ifIndexToName nowMs walk arp).read = some raws := hread
      simp only [hinput]
      refine List.forall_mem_cons.mpr ⟨fun k hk => ?_, hp.shown⟩
      obtain ⟨pre, post, -, htaken⟩ := h.exists_taken he hbytes hread (hkept k hk)
      have hnow := hp.now k hk
      change accounted (only k) s.passed ≤ bytesShown raws k
      omega

/-- From one walk to a later one, what the walks show over all clients grows by at least what was
accounted between them. -/
theorem CountsAll.add_clientBytes_le (hp : CountsAll (countsForSome ifIndexToName dir) s)
    (h : History ifIndexToName s)
    (hbytes : accounted (fun _ => true) s.passed < 2 ^ 64) {last before : Walk}
    {older rest : List Walk}
    (hwalks : s.walks = last :: older) (hsuffix : before :: rest <:+ s.walks) :
    accounted (countsForSome ifIndexToName dir) (before.between last) ≤
      last.clientBytes dir - before.clientBytes dir := by
  obtain ⟨S, hS, htotal, hframes⟩ := h.exists_all_keys hbytes dir (before.between last)
  have hlast : last ∈ s.walks := hwalks ▸ List.mem_cons_self
  have hbefore : before ∈ s.walks := hsuffix.subset List.mem_cons_self
  -- Where the walks are one, nothing was accounted between them.
  have hparts : accounted (countsForSome ifIndexToName dir) (before.between last) = 0 ∨
      before.ended <+: last.begun := by
    rw [hwalks, List.suffix_cons_iff] at hsuffix
    rcases hsuffix with heq | hsuffix
    · obtain rfl : before = last := (List.cons.inj heq).1
      obtain ⟨during, hduring⟩ := h.begun_ended before hbefore
      refine .inl ?_
      rw [Walk.between, ← hduring, List.drop_eq_nil_of_le (by simp), accounted_nil]
    · have hapart := h.apart
      rw [hwalks] at hapart
      exact .inr ((List.pairwise_cons.mp hapart).1 before (hsuffix.subset List.mem_cons_self))
  rcases hparts with hzero | hprefix
  · rw [hzero]
    exact Nat.zero_le _
  · have hbegun : ∀ k, accounted (only k) last.begun =
        accounted (only k) before.ended + accounted (only k) (before.between last) := by
      obtain ⟨rest, hrest⟩ := hprefix
      intro k
      rw [Walk.between, ← hrest, List.drop_left, accounted_append]
    have hsum : ∑ k ∈ S, bytesShown before.raws k + ∑ k ∈ S,
        accounted (only k) (before.between last) ≤
        ∑ k ∈ S, bytesShown last.raws k := by
      rw [← Finset.sum_add_distrib]
      refine Finset.sum_le_sum fun k hk => ?_
      have hshown := h.shown_le before hbefore k
      have htaken := hp.shown last hlast k (hS k hk)
      have hbegun := hbegun k
      omega
    have hbetween := accounted_le_sum_only hframes
    rw [htotal last hlast, htotal before hbefore]
    omega

end Kept

/-- An event of a run evicts no entry whose key satisfies `p`. -/
def CoverageEvent.KeepsEntries (p : LanspeedKey → Bool) : CoverageEvent → Prop
  | .live e => Lanspeed.KeepsEntries p e
  | .clients _ => True
  | .status _ => True

section Runs

variable {cfg : CollectorConfig} {max : ℕ} {ifIndexToName : UInt32 → Option CStr}
  (run : CoverageLiveRun bucketOf cfg max ifIndexToName)

/-- In a run of sound ticks that accounts fewer than `2 ^ 64` bytes, the percentage of a report that
measures the BPF collector stands for no more bytes than were accounted for all clients from the
beginning of the walk behind the oldest sample to the end of the walk behind the newest one. -/
theorem coverage_pct_le (hbytes : accounted (fun _ => true) run.state.live.passed < 2 ^ 64)
    {inp : StatusInput} (hinp : inp.switched = false) {oldest : WalkedSample}
    (holdest : (validPushed (run.state.sampled cfg inp)).getLast? = some oldest)
    (hnew : (run.state.newSample cfg inp).source = some .bpf) (hold : oldest.source = some .bpf)
    {window : CoverageWindow}
    (hwindow : (statusMethod cfg inp run.state.live.st).1.window = some window)
    {dir : Direction} {pct : ℕ} (hpct : window.pct dir = some pct) :
    ∃ last older before rest, run.state.live.walks = last :: older ∧ oldest.walks = before :: rest ∧
      pct * (window.ifaceBytes dir).toNat ≤
        100 * accounted (countsForSome ifIndexToName dir) (before.span last) := by
  obtain ⟨last, older, before, rest, hwalks, hbefore, hsuffix, -, numer, hnumer, hclamped⟩ :=
    run.covered.exists_walks hinp holdest hnew hold hwindow hpct
  refine ⟨last, older, before, rest, hwalks, hbefore, ?_⟩
  have hgrowth : last.clientBytes dir - before.clientBytes dir ≤
      accounted (countsForSome ifIndexToName dir) (before.span last) :=
    run.covered.history.clientBytes_sub_le hbytes hwalks (hbefore ▸ hsuffix)
  calc pct * (window.ifaceBytes dir).toNat
    _ ≤ 100 * numer.toNat := clampedPct_mul_le hclamped
    _ = 100 * (last.clientBytes dir - before.clientBytes dir) := by rw [hnumer]
    _ ≤ 100 * accounted (countsForSome ifIndexToName dir) (before.span last) :=
      Nat.mul_le_mul_left _ hgrowth

/-- The bound on the percentage in a run where the client uploads between two walks. -/
theorem coverage_pct_le_upload :
    ∃ last older before rest, uploadRun.state.live.walks = last :: older ∧
      uploadOldest.walks = before :: rest ∧
      66 * (uploadWindow.ifaceBytes .tx).toNat ≤
        100 * accounted
          (countsForSome (fun ifindex => if ifindex = 4 then some "br-lan".toList else none) .tx)
          (before.span last) :=
  coverage_pct_le uploadRun (by decide +kernel) rfl
    (show (validPushed (uploadRun.state.sampled bpfConfig uploadCall)).getLast? =
      some uploadOldest by decide +kernel)
    (by decide +kernel) rfl
    (show (statusMethod bpfConfig uploadCall uploadRun.state.live.st).1.window =
      some uploadWindow by decide +kernel)
    (show uploadWindow.pct .tx = some 66 from rfl)

/-- In a run that keeps the entries, every byte is counted. -/
theorem CoverageLiveRun.countsAll {p : LanspeedKey → Bool}
    (hkept : ∀ e ∈ run.events, e.KeepsEntries p)
    (hbytes : accounted (fun _ => true) run.state.live.passed < 2 ^ 64) :
    CountsAll p run.state.live := by
  -- What is accounted only grows, so what fits at the end fitted after every step.
  refine (Machine.run_invariant_along (coverageStep cfg max ifIndexToName)
    (I := fun s => Covered ifIndexToName s ∧
      (accounted (fun _ => true) s.live.passed < 2 ^ 64 → CountsAll p s.live))
    (P := fun s e => CallsSound cfg max ifIndexToName s e ∧ e.KeepsEntries p) ?_ ?_ ?_).2 hbytes
  · rintro s e ⟨h, hp⟩ ⟨he, hkept⟩
    refine ⟨h.step he, fun hbytes => ?_⟩
    cases e with
    | live e =>
      have hearlier : s.live.passed <+: (liveStep cfg max ifIndexToName s.live e).passed :=
        prefix_passed_liveStep s.live e
      have hold := (accounted_le_of_earlier (fun _ => true) hearlier).trans_lt hbytes
      exact (hp hold).step h.history he hkept hbytes
    | clients inp => exact ⟨(hp hbytes).now, (hp hbytes).shown⟩
    | status inp => exact ⟨(hp hbytes).now, (hp hbytes).shown⟩
  · exact ⟨covered_start run.enabled, fun _ => countsAll_start run.enabled⟩
  · exact Machine.along_and _ run.sound (Machine.along_of_forall_mem _ hkept _)

/-- In a run of sound ticks in which no entry of a client is evicted and a hundred times the bytes
fit in a word, a percentage below 100, rounded up, stands for more bytes than were accounted for all
clients between the walk behind the oldest sample and the walk behind the newest one. -/
theorem coverage_pct_ge (hbytes : 100 * accounted (fun _ => true) run.state.live.passed < 2 ^ 64)
    {dir : Direction}
    (hkept : ∀ e ∈ run.events, e.KeepsEntries (countsForSome ifIndexToName dir)) {inp : StatusInput}
    (hinp : inp.switched = false) {oldest : WalkedSample}
    (holdest : (validPushed (run.state.sampled cfg inp)).getLast? = some oldest)
    (hnew : (run.state.newSample cfg inp).source = some .bpf) (hold : oldest.source = some .bpf)
    {window : CoverageWindow}
    (hwindow : (statusMethod cfg inp run.state.live.st).1.window = some window)
    {pct : ℕ} (hpct : window.pct dir = some pct) :
    ∃ last older before rest, run.state.live.walks = last :: older ∧ oldest.walks = before :: rest ∧
      (pct = 100 ∨ 100 * accounted (countsForSome ifIndexToName dir) (before.between last) <
        (pct + 1) * (window.ifaceBytes dir).toNat) := by
  have hfit : accounted (fun _ => true) run.state.live.passed < 2 ^ 64 :=
    (Nat.le_mul_of_pos_left _ (by decide)).trans_lt hbytes
  have h := run.covered.history
  obtain ⟨last, older, before, rest, hwalks, hbefore, hsuffix, -, numer, hnumer, hclamped⟩ :=
    run.covered.exists_walks hinp holdest hnew hold hwindow hpct
  refine ⟨last, older, before, rest, hwalks, hbefore, ?_⟩
  have hgrowth := (run.countsAll hkept hfit).add_clientBytes_le h hfit hwalks (hbefore ▸ hsuffix)
  have hle := h.clientBytes_le hfit (hwalks ▸ List.mem_cons_self : last ∈ run.state.live.walks) dir
  refine (lt_clampedPct_mul hclamped ?_).imp_right fun hlt => ?_
  · rw [hnumer]
    omega
  · rw [hnumer] at hlt
    omega

/-- The bound from below in the run where the client uploads. -/
theorem coverage_pct_ge_upload :
    ∃ last older before rest, uploadRun.state.live.walks = last :: older ∧
      uploadOldest.walks = before :: rest ∧
      (66 = 100 ∨
        100 * accounted
          (countsForSome (fun ifindex => if ifindex = 4 then some "br-lan".toList else none) .tx)
          (before.between last) < (66 + 1) * (uploadWindow.ifaceBytes .tx).toNat) :=
  coverage_pct_ge uploadRun (by decide +kernel)
    (by simp [uploadRun, CoverageEvent.KeepsEntries, KeepsEntries, LiveEvent.mapEvents]) rfl
    (show (validPushed (uploadRun.state.sampled bpfConfig uploadCall)).getLast? =
      some uploadOldest by decide +kernel)
    (by decide +kernel) rfl
    (show (statusMethod bpfConfig uploadCall uploadRun.state.live.st).1.window =
      some uploadWindow by decide +kernel)
    (show uploadWindow.pct .tx = some 66 from rfl)

end Runs

end Lanspeed
