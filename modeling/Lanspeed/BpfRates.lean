import Lanspeed.BpfFold
import Lanspeed.Probe
import Lanspeed.Rates
import Lanspeed.Lib.Machine

/-!
# The BPF rate collector

`collect_bpf_clients` publishes the clients of the current snapshot with their rates against the
previous one. A run of the collector is a list of `bpf_collect_samples` calls and rate-state resets;
the two snapshots that the state keeps are the last two successful reads since the last reset
(`SnapshotsOf`), so the published rates are those of the history of reads.
-/

namespace Lanspeed

/-- The byte totals of a BPF sample. -/
def BpfClientSample.totals (s : BpfClientSample) : ByteTotals := ⟨s.txBytes, s.rxBytes⟩

/-- What one call of `collect_bpf_clients` reads besides the state of the collectors. -/
structure BpfPublishEnv where
  probe : RuntimeProbe
  status : LanspeedBpfReadStatus
  nowMs : UInt64
  hostnameLookup : CStr → List CStr → Option CStr

/-- The client object that `collect_bpf_clients` builds from a sample. -/
def bpfClientJson (hostnameLookup : CStr → List CStr → Option CStr) (snapshotMs deltaMs : UInt64)
    (previous : List BpfClientSample) (cur : BpfClientSample) : ClientJson :=
  let prev := Keyed.lookup BpfClientSample.identityKey cur.identityKey previous
  let rates := clientRates cur.totals (prev.map BpfClientSample.totals) deltaMs
  { mac := cur.mac
    identityKey := cur.identityKey
    zone := cur.zone
    interface := cur.ifname
    ips := cur.ips
    hostname := hostnameLookup cur.mac cur.ips
    rxBps := jsonInt64 rates.rxBps
    txBps := jsonInt64 rates.txBps
    rxBytes := jsonInt64 cur.rxBytes
    txBytes := jsonInt64 cur.txBytes
    tcpConns := cur.tcpConns.toNat
    udpConns := cur.udpConns.toNat
    sampleMs := jsonInt64 snapshotMs
    lastSeen := jsonInt64 cur.lastSeenMs
    collectorMode := "bpf".toList
    confidence := "high".toList
    warnings := if rates.counterAnomaly then addStringUnique [] "counter_anomaly".toList else [] }

/-- `collect_bpf_clients`: the clients it adds to the reply, or `none` when it returns false. -/
def collectBpfClients (cfg : CollectorConfig) (env : BpfPublishEnv) (st : CollectorState) :
    Option (List ClientJson) :=
  if !bpfRuntimeMetricsAvailable cfg st.bpfRuntimeEnabled env.status env.nowMs env.probe then none
  else if !st.bpfPreviousSnapshotValid || st.bpfCurrentSamples.isEmpty then none
  else if st.bpfCurrentSnapshotMs ≤ st.bpfPreviousSnapshotMs then none
  else
    let deltaMs := st.bpfCurrentSnapshotMs - st.bpfPreviousSnapshotMs
    if deltaMs = 0 then none
    else
      some (st.bpfCurrentSamples.map
        (bpfClientJson env.hostnameLookup st.bpfCurrentSnapshotMs deltaMs st.bpfPreviousSamples))

/-- What `collect_bpf_clients` publishes is the current snapshot, taken at a positive
clock value. -/
theorem collectBpfClients_some {cfg : CollectorConfig} {env : BpfPublishEnv} {st : CollectorState}
    {clients : List ClientJson} (h : collectBpfClients cfg env st = some clients) :
    0 < st.bpfCurrentSnapshotMs.toNat ∧ ∃ deltaMs,
      clients = st.bpfCurrentSamples.map
        (bpfClientJson env.hostnameLookup st.bpfCurrentSnapshotMs
          deltaMs st.bpfPreviousSamples) := by
  unfold collectBpfClients at h
  dsimp only at h
  split_ifs at h with _ _ hle
  have hlt := UInt64.lt_iff_toNat_lt.mp (UInt64.not_le.mp hle)
  exact ⟨by omega, _, (Option.some.inj h).symm⟩

/-- What happens to the rate state: a collection, or a reset. -/
inductive RateEvent where
  | collect (inp : CollectInput)
  | reset

/-- One event on the static variables. -/
def rateStep (cfg : CollectorConfig) (st : CollectorState) : RateEvent → CollectorState
  | .collect inp => bpfCollectSamples cfg inp st
  | .reset => bpfRuntimeResetRateState st

/-- The clock values of the collections of a run. -/
def clocks (evs : List RateEvent) : List UInt64 :=
  evs.filterMap fun
    | .collect inp => some inp.nowMs
    | .reset => none

/-- The collections of a run happen at positive and increasing clock values. -/
structure ClockIncreasing (evs : List RateEvent) : Prop where
  pos : ∀ t ∈ clocks evs, 0 < t
  increasing : (clocks evs).Pairwise (· < ·)

/-! ## The history of reads -/

/-- A successful read: its clock value and the table folded from it. -/
structure BpfRead where
  atMs : UInt64
  samples : List BpfClientSample
deriving DecidableEq, Repr

/-- What one event does to the list of successful reads since the last reset, newest first. -/
def readsStep (cfg : CollectorConfig) (reads : List BpfRead) : RateEvent → List BpfRead
  | .collect inp =>
    match inp.read with
    | none => reads
    | some raw => ⟨inp.nowMs, bpfFold (inp.foldEnv cfg) [] raw⟩ :: reads
  | .reset => []

/-- The successful reads of a run since its last reset, newest first. -/
def readsSinceReset (cfg : CollectorConfig) (evs : List RateEvent) : List BpfRead :=
  Machine.run (readsStep cfg) [] evs

/-- The table of a read; the empty table when there was none. -/
def samplesOf (read : Option BpfRead) : List BpfClientSample :=
  (read.map BpfRead.samples).getD []

/-- The time of a read; zero when there was none. -/
def timeOf (read : Option BpfRead) : UInt64 := (read.map BpfRead.atMs).getD 0

/-- The state keeps the last two reads. -/
structure SnapshotsOf (reads : List BpfRead) (st : CollectorState) : Prop where
  currentSamples : st.bpfCurrentSamples = samplesOf reads[0]?
  currentMs : st.bpfCurrentSnapshotMs = timeOf reads[0]?
  previousSamples : st.bpfPreviousSamples = samplesOf reads[1]?
  previousMs : st.bpfPreviousSnapshotMs = timeOf reads[1]?
  previousValid : st.bpfPreviousSnapshotValid = decide (2 ≤ reads.length)
  times_pos : ∀ r ∈ reads, 0 < r.atMs
  times_decreasing : reads.Pairwise fun r r' => r'.atMs < r.atMs
  distinct : ∀ r ∈ reads, DistinctIdentities r.samples

/-- A collection happens at a positive clock value after every read in the history. -/
def ClockAfter (reads : List BpfRead) : RateEvent → Prop
  | .collect inp => 0 < inp.nowMs ∧ ∀ r ∈ reads, r.atMs < inp.nowMs
  | .reset => True

theorem snapshotsOf_init (enabled : Bool) : SnapshotsOf [] (CollectorState.init enabled) :=
  ⟨rfl, rfl, rfl, rfl, rfl, by simp, List.Pairwise.nil, by simp⟩

/-- One event keeps the state in step with the history of reads. -/
theorem SnapshotsOf.step {cfg : CollectorConfig} {reads : List BpfRead} {st : CollectorState}
    (h : SnapshotsOf reads st) (e : RateEvent) (he : ClockAfter reads e) :
    SnapshotsOf (readsStep cfg reads e) (rateStep cfg st e) := by
  cases e with
  | reset => exact ⟨rfl, rfl, rfl, rfl, rfl, by simp [readsStep], List.Pairwise.nil,
      by simp [readsStep]⟩
  -- A failed read leaves both snapshots; a successful one moves the current one back.
  | collect inp =>
    cases hread : inp.read with
    | none => simpa only [readsStep, rateStep, bpfCollectSamples, hread] using h
    | some raw =>
      simp only [readsStep, rateStep, bpfCollectSamples, hread]
      refine ⟨rfl, rfl, h.currentSamples, h.currentMs, ?_, ?_, ?_, ?_⟩
      · -- The validity flag is inferred from a positive time of the snapshot before.
        have htime := h.currentMs
        cases reads with
        | nil => simp [htime, timeOf]
        | cons r rs => simpa [htime, timeOf] using h.times_pos r List.mem_cons_self
      · exact List.forall_mem_cons.mpr ⟨he.1, h.times_pos⟩
      · exact List.pairwise_cons.mpr ⟨he.2, h.times_decreasing⟩
      · exact List.forall_mem_cons.mpr ⟨distinct_bpfFold _ (Keyed.distinct_nil _) raw, h.distinct⟩

/-- In a run at increasing clock values every collection is later than the reads before it. -/
theorem along_clockAfter (cfg : CollectorConfig) {evs : List RateEvent} (h : ClockIncreasing evs)
    {reads : List BpfRead} (hr : ∀ r ∈ reads, ∀ t ∈ clocks evs, r.atMs < t) :
    Machine.Along (readsStep cfg) ClockAfter reads evs := by
  induction evs generalizing reads with
  | nil => trivial
  | cons e evs ih =>
    cases e with
    | reset => exact ⟨trivial, ih ⟨h.pos, h.increasing⟩ (by simp [readsStep])⟩
    | collect inp =>
      have hclocks : clocks (.collect inp :: evs) = inp.nowMs :: clocks evs := rfl
      have hpos := h.pos
      have hinc := h.increasing
      rw [hclocks] at hpos hinc hr
      obtain ⟨hlater, hinc⟩ := List.pairwise_cons.mp hinc
      refine ⟨⟨hpos _ List.mem_cons_self, fun r hr' => hr r hr' _ List.mem_cons_self⟩, ?_⟩
      refine ih ⟨fun t ht => hpos t (List.mem_cons_of_mem _ ht), hinc⟩ ?_
      cases hread : inp.read with
      | none =>
        simp only [readsStep, hread]
        exact fun r hr' t ht => hr r hr' t (List.mem_cons_of_mem _ ht)
      | some raw =>
        simp only [readsStep, hread]
        intro r hr' t ht
        rcases List.mem_cons.mp hr' with rfl | hr'
        · exact hlater t ht
        · exact hr r hr' t (List.mem_cons_of_mem _ ht)

/-- At the end of every run the state keeps the last two reads since the last reset. -/
theorem snapshotsOf_run (cfg : CollectorConfig) (enabled : Bool) {evs : List RateEvent}
    (h : ClockIncreasing evs) :
    SnapshotsOf (readsSinceReset cfg evs)
      (Machine.run (rateStep cfg) (CollectorState.init enabled) evs) :=
  Machine.run_simulates (rateStep cfg) (R := fun st reads => SnapshotsOf reads st) (readsStep cfg)
    (fun _ _ e hs he => hs.step e he) (snapshotsOf_init enabled)
    (along_clockAfter cfg h (by simp))

/-! ## The published rates -/

/-- The total that the identity `key` had in a read, if it was in it. -/
def totalIn (read : BpfRead) (key : CStr) (total : BpfClientSample → UInt64) : Option UInt64 :=
  (Keyed.lookup BpfClientSample.identityKey key read.samples).map total

/-- A published client carries the rates of its identity between the reads `before` and `last`. -/
structure RatesFollowReads (last before : BpfRead) (client : ClientJson) (cur : BpfClientSample) :
    Prop where
  found : Keyed.lookup BpfClientSample.identityKey client.identityKey last.samples = some cur
  txBps : GrowthFits (totalIn before client.identityKey (·.txBytes)) cur.txBytes →
    client.txBps = exactBps (totalIn before client.identityKey (·.txBytes)) cur.txBytes
      (last.atMs.toNat - before.atMs.toNat)
  rxBps : GrowthFits (totalIn before client.identityKey (·.rxBytes)) cur.rxBytes →
    client.rxBps = exactBps (totalIn before client.identityKey (·.rxBytes)) cur.rxBytes
      (last.atMs.toNat - before.atMs.toNat)
  anomaly : "counter_anomaly".toList ∈ client.warnings ↔
    CounterFell (totalIn before client.identityKey (·.txBytes)) cur.txBytes ∨
      CounterFell (totalIn before client.identityKey (·.rxBytes)) cur.rxBytes

/-- The published clients are right for the history of reads: there are two reads, and every client
carries the rates between them. -/
def PublishedFollowReads (reads : List BpfRead) (published : Option (List ClientJson)) : Prop :=
  ∀ clients, published = some clients → ∃ last before older, reads = last :: before :: older ∧
    ∀ client ∈ clients, ∃ cur, RatesFollowReads last before client cur

/-- The totals of one identity grew by less than `2 ^ 63` bits per second between two reads (unless
the scaled growth does not even fit in 64 bits). -/
structure TotalsPublishable (last before : BpfRead) (cur : BpfClientSample) : Prop where
  tx : GrowthFits (totalIn before cur.identityKey (·.txBytes)) cur.txBytes →
    GrowthBelowSigned (totalIn before cur.identityKey (·.txBytes)) cur.txBytes
      (last.atMs.toNat - before.atMs.toNat)
  rx : GrowthFits (totalIn before cur.identityKey (·.rxBytes)) cur.rxBytes →
    GrowthBelowSigned (totalIn before cur.identityKey (·.rxBytes)) cur.rxBytes
      (last.atMs.toNat - before.atMs.toNat)

/-- The totals of every identity grew by less than `2 ^ 63` bits per second between the last two
reads. -/
def GrowthPublishable (reads : List BpfRead) : Prop :=
  ∀ last before older, reads = last :: before :: older →
    ∀ cur ∈ last.samples, TotalsPublishable last before cur

/-- What `collect_bpf_clients` publishes, in terms of the history of reads. -/
theorem collectBpfClients_eq_some_iff (cfg : CollectorConfig) (env : BpfPublishEnv)
    {reads : List BpfRead} {st : CollectorState} (h : SnapshotsOf reads st)
    (clients : List ClientJson) :
    collectBpfClients cfg env st = some clients ↔
      bpfRuntimeMetricsAvailable cfg st.bpfRuntimeEnabled env.status env.nowMs env.probe = true ∧
      ∃ last before older, reads = last :: before :: older ∧ last.samples ≠ [] ∧
        clients = last.samples.map
          (bpfClientJson env.hostnameLookup last.atMs (last.atMs - before.atMs)
            before.samples) := by
  unfold collectBpfClients
  rw [h.currentSamples, h.currentMs, h.previousSamples, h.previousMs, h.previousValid]
  cases bpfRuntimeMetricsAvailable cfg st.bpfRuntimeEnabled env.status env.nowMs env.probe with
  | false => simp
  | true =>
    match hreads : reads with
    | [] => simp
    | [r] => simp
    | last :: before :: older =>
      have hlt : before.atMs < last.atMs :=
        (List.pairwise_cons.mp h.times_decreasing).1 before List.mem_cons_self
      have hle : ¬ last.atMs ≤ before.atMs := UInt64.not_le.mpr hlt
      -- The two remaining guards never fire, as the times of the reads decrease.
      have hne : last.atMs - before.atMs ≠ 0 := by
        rw [Ne, ← UInt64.toNat_inj, UInt64.toNat_sub_of_le _ _ (UInt64.le_of_lt hlt)]
        have := UInt64.lt_iff_toNat_lt.mp hlt
        simp only [UInt64.toNat_zero]
        omega
      by_cases hempty : last.samples = []
      · simp [samplesOf, hempty]
      · simpa [samplesOf, timeOf, hempty, hle, hne] using eq_comm

section Published

variable {last before : BpfRead} {cur : BpfClientSample}
  (hostnameLookup : CStr → List CStr → Option CStr)

/-- The rates of a client are those between the two reads if its totals grew slowly enough, and only
then. -/
theorem ratesFollowReads_bpfClientJson_iff (hdist : DistinctIdentities last.samples)
    (hlt : before.atMs < last.atMs) (hcur : cur ∈ last.samples) :
    (∃ c, RatesFollowReads last before
        (bpfClientJson hostnameLookup last.atMs (last.atMs - before.atMs) before.samples cur) c) ↔
      TotalsPublishable last before cur := by
  have hdt : (last.atMs - before.atMs).toNat = last.atMs.toNat - before.atMs.toNat :=
    UInt64.toNat_sub_of_le _ _ (UInt64.le_of_lt hlt)
  have hfound := hdist.lookup_of_mem hcur
  have hmap : ∀ f : ByteTotals → UInt64,
      ((Keyed.lookup BpfClientSample.identityKey cur.identityKey before.samples).map
        BpfClientSample.totals).map f
      = totalIn before cur.identityKey fun s => f s.totals := by
    intro f
    rw [Option.map_map, totalIn]
    rfl
  have htx := clientRates_txBps_iff cur.totals
    ((Keyed.lookup BpfClientSample.identityKey cur.identityKey before.samples).map
      BpfClientSample.totals) (last.atMs - before.atMs)
  have hrx := clientRates_rxBps_iff cur.totals
    ((Keyed.lookup BpfClientSample.identityKey cur.identityKey before.samples).map
      BpfClientSample.totals) (last.atMs - before.atMs)
  rw [hdt, hmap] at htx hrx
  constructor
  · rintro ⟨c, h⟩
    obtain rfl : cur = c := Option.some.inj (hfound.symm.trans h.found)
    exact ⟨fun hfit => (htx hfit).mp (h.txBps hfit), fun hfit => (hrx hfit).mp (h.rxBps hfit)⟩
  · intro h
    refine ⟨cur, hfound, fun hfit => (htx hfit).mpr (h.tx hfit),
      fun hfit => (hrx hfit).mpr (h.rx hfit), ?_⟩
    have hanomaly := clientRates_counterAnomaly cur.totals
      ((Keyed.lookup BpfClientSample.identityKey cur.identityKey before.samples).map
        BpfClientSample.totals) (last.atMs - before.atMs)
    rw [hmap, hmap] at hanomaly
    refine Iff.trans ?_ hanomaly
    dsimp only [bpfClientJson]
    split_ifs with hc <;> simp [addStringUnique, hc]

end Published

/-- No event of a run turns the BPF runtime on or off. -/
theorem bpfRuntimeEnabled_run (cfg : CollectorConfig) (enabled : Bool) (evs : List RateEvent) :
    (Machine.run (rateStep cfg) (CollectorState.init enabled) evs).bpfRuntimeEnabled = enabled := by
  refine Machine.run_invariant (rateStep cfg) (I := fun st => st.bpfRuntimeEnabled = enabled)
    ?_ rfl evs
  intro st e hst
  cases e with
  | reset => exact hst
  | collect inp =>
    simp only [rateStep, bpfCollectSamples]
    split <;> exact hst

/-- After every run, what is published has the rates between the last two reads since the last reset
exactly when the totals of those reads grew by less than `2 ^ 63` bits per second. -/
theorem published_follow_reads_iff (cfg : CollectorConfig) (enabled : Bool) (env : BpfPublishEnv)
    {evs : List RateEvent} (hclock : ClockIncreasing evs) :
    PublishedFollowReads (readsSinceReset cfg evs)
        (collectBpfClients cfg env
          (Machine.run (rateStep cfg) (CollectorState.init enabled) evs)) ↔
      (bpfRuntimeMetricsAvailable cfg enabled env.status env.nowMs env.probe = true →
        GrowthPublishable (readsSinceReset cfg evs)) := by
  have hst := snapshotsOf_run cfg enabled hclock
  have hsome := collectBpfClients_eq_some_iff cfg env hst
  rw [bpfRuntimeEnabled_run] at hsome
  have hpair : ∀ last before older, readsSinceReset cfg evs = last :: before :: older →
      DistinctIdentities last.samples ∧ before.atMs < last.atMs := by
    intro last before older hreads
    have htimes := hst.times_decreasing
    rw [hreads] at htimes
    exact ⟨hst.distinct last (hreads ▸ List.mem_cons_self),
      (List.pairwise_cons.mp htimes).1 before List.mem_cons_self⟩
  constructor
  · intro h havail last before older hreads cur hcur
    obtain ⟨hdist, hlt⟩ := hpair last before older hreads
    have hne : last.samples ≠ [] := List.ne_nil_of_mem hcur
    obtain ⟨last', before', older', hreads', hclients⟩ :=
      h _ ((hsome _).mpr ⟨havail, last, before, older, hreads, hne, rfl⟩)
    obtain ⟨rfl, rfl, rfl⟩ : last = last' ∧ before = before' ∧ older = older' := by
      simpa using hreads.symm.trans hreads'
    exact (ratesFollowReads_bpfClientJson_iff env.hostnameLookup hdist hlt hcur).mp
      (hclients _ (List.mem_map_of_mem hcur))
  · intro h clients hclients
    obtain ⟨havail, last, before, older, hreads, -, rfl⟩ := (hsome _).mp hclients
    obtain ⟨hdist, hlt⟩ := hpair last before older hreads
    refine ⟨last, before, older, hreads, fun client hclient => ?_⟩
    obtain ⟨cur, hcur, rfl⟩ := List.mem_map.mp hclient
    exact (ratesFollowReads_bpfClientJson_iff env.hostnameLookup hdist hlt hcur).mpr
      (h havail last before older hreads cur hcur)

/-- A configuration with BPF enabled. -/
def bpfConfig : CollectorConfig := { enableBpf := true }

/-- A tx entry of one client on `br-lan`. -/
def oneClientRaw (bytes : UInt64) : LanspeedBpfSample :=
  { ifindex := 4, vlan := 0, direction := lanspeedBpfDirTx, mac := ⟨2, 0, 0, 0, 0, 1⟩, bytes,
    packets := 1, lastSeenNs := 0, tcpConns := 0, udpConns := 0 }

/-- A collection at `nowMs` that reads the entry of one client. -/
def collectOneClient (nowMs bytes : UInt64) : CollectInput :=
  { nowMs
    read := some [oneClientRaw bytes]
    ifIndexToName := fun ifindex => if ifindex = 4 then some "br-lan".toList else none
    arp := [] }

/-- The sample that is folded from the entry. -/
def oneClientSample (nowMs bytes : UInt64) : BpfClientSample :=
  { mac := "02:00:00:00:00:01".toList, identityKey := "02:00:00:00:00:01@lan".toList
    zone := "lan".toList, ifname := "br-lan".toList, txBytes := bytes, lastSeenMs := nowMs }

/-- A run in which the total of a client grows by `bytes` within one millisecond. -/
def burstRun (bytes : UInt64) : List RateEvent :=
  [.collect (collectOneClient 1 0), .collect (collectOneClient 2 bytes)]

/-- A call of `collect_bpf_clients` right after the run, with BPF metrics available. -/
def burstEnv : BpfPublishEnv :=
  { probe := { safeAttach := true }
    status := { objectLoaded := true, anyAttached := true, lastReadOk := true,
                lastReadMonotonicMs := 2 }
    nowMs := 2
    hostnameLookup := fun _ _ => none }

/-- The clock of the example goes on. -/
theorem clockIncreasing_burstRun (bytes : UInt64) : ClockIncreasing (burstRun bytes) := by
  have h : clocks (burstRun bytes) = [1, 2] := rfl
  exact ⟨by rw [h]; simp, by rw [h]; simp⟩

/-- Two readings, with a burst between them. -/
theorem published_follow_reads_burst :
    PublishedFollowReads (readsSinceReset bpfConfig (burstRun 1000))
        (collectBpfClients bpfConfig burstEnv
          (Machine.run (rateStep bpfConfig) (CollectorState.init true)
            (burstRun 1000))) ↔
      (bpfRuntimeMetricsAvailable bpfConfig true burstEnv.status burstEnv.nowMs
          burstEnv.probe = true →
        GrowthPublishable (readsSinceReset bpfConfig (burstRun 1000))) :=
  published_follow_reads_iff bpfConfig true burstEnv (clockIncreasing_burstRun 1000)

/-- The total grows by 1152921504606847 bytes in a millisecond, and the published rate
is negative. -/
theorem published_not_follow_reads_burst :
    ClockIncreasing (burstRun 1152921504606847) ∧
      ¬ PublishedFollowReads (readsSinceReset bpfConfig (burstRun 1152921504606847))
        (collectBpfClients bpfConfig burstEnv
          (Machine.run (rateStep bpfConfig) (CollectorState.init true)
            (burstRun 1152921504606847))) := by
  refine ⟨clockIncreasing_burstRun _, fun h => ?_⟩
  have hreads : readsSinceReset bpfConfig (burstRun 1152921504606847)
      = [⟨2, [oneClientSample 2 1152921504606847]⟩, ⟨1, [oneClientSample 1 0]⟩] := by decide +kernel
  have hst := snapshotsOf_run bpfConfig true (clockIncreasing_burstRun 1152921504606847)
  have hpub := (collectBpfClients_eq_some_iff bpfConfig burstEnv hst _).mpr
    ⟨by decide +kernel, _, _, [], hreads, by decide, rfl⟩
  obtain ⟨last, before, older, hreads', hclients⟩ := h _ hpub
  cases hreads.symm.trans hreads'
  have hcur := (ratesFollowReads_bpfClientJson_iff burstEnv.hostnameLookup (by decide +kernel)
    (by decide) List.mem_cons_self).mp (hclients _ (List.mem_map_of_mem List.mem_cons_self))
  exact absurd (hcur.tx (by decide +kernel)) (by decide +kernel)

end Lanspeed
