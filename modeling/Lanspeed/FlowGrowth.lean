import Lanspeed.Conntrack.Aggregate

/-!
# Rates and the growth of flows

The conntrack collector computes a rate from the totals of a client in two snapshots, and a total is
the sum of the counters of the flows that the ARP table of the moment gives to the client. A flow
that comes to a client between the snapshots brings along what it counted before. So a rate is
bounded by the growth of the client's flows together with what its flows counted before and its
earlier total did not hold (`conntrack_rates_le`); the growth alone is no bound
(`conntrack_rate_above_growth`).
-/

namespace Lanspeed

/-- A flow under the tuple that tells it from other flows. -/
structure TrackedFlow (κ : Type*) where
  tuple : κ
  sample : ConntrackFlowSample

/-- The counter of a flow in one direction. -/
def TrackedFlow.counter {κ : Type*} (dir : Direction) (f : TrackedFlow κ) : UInt64 :=
  match dir with
  | .tx => f.sample.origBytes
  | .rx => f.sample.replyBytes

/-- What a snapshot reads: the ARP table, and the flows of the connection tracking table. -/
structure FlowTable (κ : Type*) where
  atMs : UInt64
  arp : List ArpEntry
  flows : List (TrackedFlow κ)
  distinct : (flows.map TrackedFlow.tuple).Nodup

/-- Two successive snapshots: the counters of a flow that is in both do not shrink. -/
structure FlowHistory (κ : Type*) where
  earlier : FlowTable κ
  later : FlowTable κ
  grows : ∀ f ∈ earlier.flows, ∀ f' ∈ later.flows, f.tuple = f'.tuple →
    ∀ dir, f.counter dir ≤ f'.counter dir

section Table

variable {κ : Type*}

/-- The table of clients that the collector reads. -/
def FlowTable.samples (limit : ℕ) (t : FlowTable κ) : List ConntrackClientSample :=
  ((t.flows.map TrackedFlow.sample).foldl
    (addConntrackFlowToSamples { arp := t.arp, maxSamples := limit, nowMs := t.atMs }) {}).samples

/-- The flows that the ARP table of the snapshot gives to a client. -/
def FlowTable.flowsOf (t : FlowTable κ) (key : CStr) : List (TrackedFlow κ) :=
  t.flows.filter fun f => (flowShare t.arp f.sample).map FlowShare.key = some key

/-- The total of a sample in one direction. -/
def ConntrackClientSample.bytes (s : ConntrackClientSample) : Direction → UInt64
  | .tx => s.txBytes
  | .rx => s.rxBytes

end Table

section Growth

variable {κ : Type*} [DecidableEq κ] (h : FlowHistory κ) (dir : Direction)

/-- What a flow had counted at the earlier snapshot; zero when it was not there. -/
def FlowHistory.counted (f : TrackedFlow κ) : ℕ :=
  ((Keyed.lookup TrackedFlow.tuple f.tuple h.earlier.flows).map
    fun f' => (f'.counter dir).toNat).getD 0

/-- The growth of the flows that are given to a client at the later snapshot. -/
def FlowHistory.growth (key : CStr) : ℕ :=
  ((h.later.flowsOf key).map fun f => (f.counter dir).toNat - h.counted dir f).sum

/-- What these flows had counted at the earlier snapshot, beyond the total that the client had then;
zero for a client that is new. -/
def FlowHistory.unheld (limit : ℕ) (key : CStr) : ℕ :=
  match findConntrackClientSample key (h.earlier.samples limit) with
  | none => 0
  | some held => ((h.later.flowsOf key).map (h.counted dir)).sum - (held.bytes dir).toNat

end Growth

/-! ## The totals -/

section Totals

variable {κ : Type*}

/-- What a share adds to a total. -/
def FlowShare.bytes (share : FlowShare) : Direction → UInt64
  | .tx => share.txBytes
  | .rx => share.rxBytes

/-- A share adds its bytes to the row. -/
theorem bytes_addShare (dir : Direction) (nowMs : UInt64) (share : FlowShare)
    (s : ConntrackClientSample) :
    (addShare nowMs share s).bytes dir = s.bytes dir + share.bytes dir := by
  cases dir <;> rfl

/-- The share of a flow has the counters of the flow. -/
theorem bytes_of_flowShare {arp : List ArpEntry} {f : TrackedFlow κ} {share : FlowShare}
    (h : flowShare arp f.sample = some share) (dir : Direction) :
    share.bytes dir = f.counter dir := by
  unfold flowShare at h
  split_ifs at h
  obtain ⟨row, -, rfl⟩ := Option.map_eq_some_iff.mp h
  cases dir <;> rfl

/-- The shares under the key of a client are those of its flows. -/
theorem map_bytes_shares (dir : Direction) (arp : List ArpEntry) (key : CStr)
    (flows : List (TrackedFlow κ)) :
    (((flows.map TrackedFlow.sample).filterMap (flowShare arp)).filter
        fun share => some share.key = some key).map (·.bytes dir)
      = (flows.filter fun f => (flowShare arp f.sample).map FlowShare.key = some key).map
          (·.counter dir) := by
  induction flows with
  | nil => rfl
  | cons f flows ih =>
    rw [List.map_cons]
    cases hshare : flowShare arp f.sample with
    | none => rw [List.filterMap_cons_none hshare, List.filter_cons_of_neg (by simp [hshare]), ih]
    | some share =>
      rw [List.filterMap_cons_some hshare]
      by_cases hk : share.key = key
      · rw [List.filter_cons_of_pos (by simpa using hk),
          List.filter_cons_of_pos (by simpa [hshare] using hk), List.map_cons, List.map_cons, ih,
          bytes_of_flowShare hshare]
      · rw [List.filter_cons_of_neg (by simpa using hk),
          List.filter_cons_of_neg (by simpa [hshare] using hk), ih]

/-- The total of a client is the sum of the counters of its flows. -/
theorem bytes_eq_sum_counters (dir : Direction) {limit : ℕ} {t : FlowTable κ}
    {s : ConntrackClientSample} (hs : s ∈ t.samples limit) :
    s.bytes dir = ((t.flowsOf s.identityKey).map (·.counter dir)).sum := by
  rw [FlowTable.samples, samples_foldl_addConntrackFlow] at hs
  rw [FlowTable.flowsOf, ← map_bytes_shares]
  exact GroupBy.measure_of_mem_groupBy (shareGrouping_lawful t.atMs)
    (μ := fun s : ConntrackClientSample => s.bytes dir) (fun share => by cases dir <;> rfl)
    (bytes_addShare dir t.atMs) hs

/-- A sum of words is at most the sum of their values. -/
theorem toNat_bytes_le (dir : Direction) {limit : ℕ} {t : FlowTable κ} {s : ConntrackClientSample}
    (hs : s ∈ t.samples limit) :
    (s.bytes dir).toNat ≤ ((t.flowsOf s.identityKey).map fun f => (f.counter dir).toNat).sum := by
  have hwords := Word.sum_map_ofNat (fun f : TrackedFlow κ => (f.counter dir).toNat)
    (t.flowsOf s.identityKey)
  simp only [UInt64.ofNat_toNat] at hwords
  rw [bytes_eq_sum_counters dir hs, hwords, UInt64.toNat_ofNat']
  exact Nat.mod_le _ _

variable [DecidableEq κ] (h : FlowHistory κ)

/-- What a flow had counted is at most what it counts. -/
theorem FlowHistory.counted_le (dir : Direction) {f : TrackedFlow κ} (hf : f ∈ h.later.flows) :
    h.counted dir f ≤ (f.counter dir).toNat := by
  rw [FlowHistory.counted]
  cases hfound : Keyed.lookup TrackedFlow.tuple f.tuple h.earlier.flows with
  | none => exact Nat.zero_le _
  | some f' =>
    exact UInt64.le_iff_toNat_le.mp (h.grows f' (Keyed.mem_of_lookup hfound) f hf
      (Keyed.key_of_lookup hfound) dir)

/-- The counters of a client's flows are their growth and what they had counted. -/
theorem FlowHistory.sum_counters (dir : Direction) (key : CStr) :
    ((h.later.flowsOf key).map fun f => (f.counter dir).toNat).sum
      = h.growth dir key + ((h.later.flowsOf key).map (h.counted dir)).sum := by
  rw [FlowHistory.growth, ← List.sum_map_add]
  refine congrArg List.sum (List.map_congr_left fun f hf => ?_)
  have := h.counted_le dir (List.mem_of_mem_filter hf)
  omega

end Totals

/-! ## The rates -/

/-- A rate that `delta_bps` computes, as it is published, is at most the exact rate of the
difference of the totals. -/
theorem jsonInt64_deltaBps_le (cur prev dt : UInt64) :
    jsonInt64 (deltaBps cur prev dt).1 ≤
      ((8000 * (cur.toNat - prev.toNat) / dt.toNat : ℕ) : ℤ) := by
  have hsigned : ∀ x : UInt64, jsonInt64 x ≤ x.toNat := by
    intro x
    by_cases hx : x.toNat < 2 ^ 63
    · exact (Word.toInt_toInt64_of_lt hx).le
    · rw [jsonInt64, Word.toInt_toInt64_of_ge (by omega)]
      omega
  refine (hsigned _).trans (Int.ofNat_le.mpr ?_)
  rw [toNat_deltaBps_mod, wordBps]
  split_ifs
  · -- Products that do not fit in a word are only smaller.
    exact Nat.div_le_div_right (Nat.mod_le _ _)
  · exact Nat.zero_le _

/-- A successful call of the conntrack collector, apart from the flows that it reads. -/
structure TableCall (cfg : CollectorConfig) where
  env : BpfPublishEnv
  warnings : List CStr
  stats : ConntrackCollectStats
  active : conntrackClientsReadActive cfg env.probe = true

/-- A call that reads no snapshot. -/
abbrev FailedCall (cfg : CollectorConfig) := { call : ConntrackCall // call.snapshot cfg = none }

section Published

variable {κ : Type*} {cfg : CollectorConfig}

/-- The call on the flows of a snapshot. -/
def TableCall.call (c : TableCall cfg) (t : FlowTable κ) : ConntrackCall where
  env := c.env
  nowMs := t.atMs
  read :=
    { warnings := c.warnings
      stats := c.stats
      table := some
        { samples := t.samples cfg.maxSamples
          distinct := by
            rw [FlowTable.samples, samples_foldl_addConntrackFlow]
            exact GroupBy.distinct_groupBy (shareGrouping_lawful t.atMs) _
          seen_now := by
            rw [FlowTable.samples, samples_foldl_addConntrackFlow]
            exact GroupBy.forall_mem_groupBy (fun _ _ _ _ => rfl) fun _ _ _ _ _ _ _ => rfl } }

/-- The state of the collectors when the later snapshot is read: a successful call, and calls
without a snapshot after it. -/
def stateBetween (st : CollectorState) (first : TableCall cfg) (earlier : FlowTable κ)
    (failed : List (FailedCall cfg)) : CollectorState :=
  failed.foldl (fun st c => (collectConntrackProcfsClients cfg c.1 st).2)
    (collectConntrackProcfsClients cfg (first.call earlier) st).2

/-- The clients that are published with the later snapshot. -/
def FlowHistory.published (h : FlowHistory κ) (st : CollectorState) (first : TableCall cfg)
    (failed : List (FailedCall cfg)) (second : TableCall cfg) : List ClientJson :=
  match (collectConntrackProcfsClients cfg (second.call h.later)
    (stateBetween st first h.earlier failed)).1 with
  | some reply => reply.clients
  | none => []

/-- A published rate in one direction. -/
def ClientJson.bps (client : ClientJson) : Direction → ℤ
  | .tx => client.txBps
  | .rx => client.rxBps

/-- A call without a snapshot leaves the state as it is. -/
theorem collect_failed (c : FailedCall cfg) (st : CollectorState) :
    (collectConntrackProcfsClients cfg c.1 st).2 = st := by
  have hnone := c.2
  rw [ConntrackCall.snapshot] at hnone
  rw [collectConntrackProcfsClients]
  split_ifs with hactive
  · rfl
  · rw [if_pos (by simpa using hactive), Option.map_eq_none_iff] at hnone
    rw [hnone]

/-- The previous snapshot when the later one is read is the earlier one. -/
theorem previous_stateBetween (st : CollectorState) (first : TableCall cfg) (earlier : FlowTable κ)
    (failed : List (FailedCall cfg)) :
    (stateBetween st first earlier failed).previousConntrack
      = { samples := (earlier.samples cfg.maxSamples).map st.previousConntrack.refresh
          snapshotMs := earlier.atMs
          valid := true } := by
  have hfold : ∀ st' : CollectorState,
      failed.foldl (fun st c => (collectConntrackProcfsClients cfg c.1 st).2) st' = st' :=
    fun st' => Loop.foldl_eq_self fun c _ => collect_failed c st'
  rw [stateBetween, hfold, collectConntrackProcfsClients]
  have hactive :
      conntrackClientsReadActive cfg (first.call earlier).env.probe = true := first.active
  rw [hactive]
  rfl

/-- The rate of a client in one direction. -/
def ClientRates.bps (rates : ClientRates) : Direction → UInt64
  | .tx => rates.txBps
  | .rx => rates.rxBps

/-- A published client is of a sample of the later snapshot, with the rates of the sample. -/
theorem exists_of_mem_published {h : FlowHistory κ} {st : CollectorState}
    {first second : TableCall cfg} {failed : List (FailedCall cfg)} {client : ClientJson}
    (hclient : client ∈ h.published st first failed second) :
    ∃ s ∈ h.later.samples cfg.maxSamples, client.identityKey = s.identityKey ∧
      ∀ dir, client.bps dir =
        jsonInt64 (((stateBetween st first h.earlier failed).previousConntrack.rates
        h.later.atMs s).bps dir) := by
  have hactive :
      conntrackClientsReadActive cfg (second.call h.later).env.probe = true := second.active
  rw [FlowHistory.published, collectConntrackProcfsClients, hactive] at hclient
  obtain ⟨s, hs, rfl⟩ := List.mem_map.mp hclient
  exact ⟨s, hs, rfl, fun dir => by cases dir <;> rfl⟩

/-- The rate of a sample: none for a client that is new, and otherwise from the totals in the two
snapshots. -/
theorem rates_bps (dir : Direction) (prev : PreviousSnapshot) (hvalid : prev.valid = true)
    (nowMs : UInt64) (s : ConntrackClientSample) :
    (prev.rates nowMs s).bps dir
      = match findConntrackClientSample s.identityKey prev.samples with
        | none => 0
        | some held => (deltaBps (s.bytes dir) (held.bytes dir) (prev.deltaMs nowMs)).1 := by
  rw [PreviousSnapshot.rates, if_pos hvalid]
  cases findConntrackClientSample s.identityKey prev.samples with
  | none => cases dir <;> rfl
  | some held => cases dir <;> rfl

variable [DecidableEq κ]

/-- Every published rate is at most that of the growth of the client's flows together with what
these flows had counted before beyond the client's total then. -/
theorem conntrack_rates_le (h : FlowHistory κ) (st : CollectorState) (first second : TableCall cfg)
    (failed : List (FailedCall cfg)) :
    ∀ client ∈ h.published st first failed second, ∀ dir,
      client.bps dir ≤ ((8000 * (h.growth dir client.identityKey +
          h.unheld dir cfg.maxSamples client.identityKey) /
        (h.later.atMs.toNat - h.earlier.atMs.toNat) : ℕ) : ℤ) := by
  intro client hclient dir
  obtain ⟨s, hs, hkey, hbps⟩ := exists_of_mem_published hclient
  rw [hbps, hkey, rates_bps dir _ (by rw [previous_stateBetween]), previous_stateBetween,
    findConntrackClientSample, Keyed.lookup_map (refresh_identityKey _), FlowHistory.unheld]
  cases hheld : Keyed.lookup ConntrackClientSample.identityKey s.identityKey
      (h.earlier.samples cfg.maxSamples) with
  | none => exact Int.natCast_nonneg _
  | some held =>
    have hdt : (PreviousSnapshot.deltaMs
        { samples := (h.earlier.samples cfg.maxSamples).map st.previousConntrack.refresh
          snapshotMs := h.earlier.atMs
          valid := true } h.later.atMs).toNat = h.later.atMs.toNat - h.earlier.atMs.toNat := by
      rw [PreviousSnapshot.deltaMs]
      by_cases hback : h.later.atMs < h.earlier.atMs
      · have := UInt64.lt_iff_toNat_lt.mp hback
        simp only [Bool.not_true, Bool.false_eq_true, if_false, if_pos hback, UInt64.toNat_zero]
        omega
      · simp only [Bool.not_true, Bool.false_eq_true, if_false, if_neg hback]
        exact UInt64.toNat_sub_of_le _ _ (UInt64.not_lt.mp hback)
    have htotal := toNat_bytes_le dir hs
    rw [h.sum_counters dir] at htotal
    have hrefresh : (st.previousConntrack.refresh held).bytes dir = held.bytes dir := by
      cases dir <;> rfl
    refine (jsonInt64_deltaBps_le _ _ _).trans (Int.ofNat_le.mpr ?_)
    rw [hdt, hrefresh]
    apply Nat.div_le_div_right
    apply Nat.mul_le_mul_left
    rw [show findConntrackClientSample s.identityKey (h.earlier.samples cfg.maxSamples) = some held
      from hheld]
    dsimp only
    omega

end Published

/-- The ARP row of an address of the client `02:00:00:00:00:02` in the zone `lan`. -/
def lanRow (ip : String) : ArpEntry where
  ip := ip.toList
  mac := "02:00:00:00:00:02".toList
  ifname := "br-lan".toList
  zone := "lan".toList

/-- A TCP flow from an address, with its two counters. -/
def lanFlow (tuple : ℕ) (src : String) (origBytes replyBytes : UInt64) : TrackedFlow ℕ where
  tuple := tuple
  sample :=
    { origSrc := src.toList, origBytes, replyBytes, hasOrigSrc := true,
      hasOrigBytes := true, isTcp := true }

/-- A client with two addresses: the ARP row of the second one is there only at the later snapshot,
and no flow counts anything in between. -/
def returningRow : FlowHistory ℕ where
  earlier :=
    { atMs := 1000
      arp := [lanRow "192.168.1.2"]
      flows := [lanFlow 0 "192.168.1.2" 500 900, lanFlow 1 "192.168.1.3" 1000000 2000000]
      distinct := by decide }
  later :=
    { atMs := 2000
      arp := [lanRow "192.168.1.2", lanRow "192.168.1.3"]
      flows := [lanFlow 0 "192.168.1.2" 500 900, lanFlow 1 "192.168.1.3" 1000000 2000000]
      distinct := by decide }
  grows := by
    intro f hf f' hf' htuple dir
    simp only [List.mem_cons, List.not_mem_nil, or_false] at hf hf'
    rcases hf with rfl | rfl <;> rcases hf' with rfl | rfl
    · exact UInt64.le_refl _
    · exact absurd htuple (by decide)
    · exact absurd htuple (by decide)
    · exact UInt64.le_refl _

/-- A call of the collector while the ECM counts. -/
def acctCall : TableCall {} where
  env :=
    { probe := { nfConntrackAcct := true, nssPresent := true, nssEcmActive := true }
      status := {}
      nowMs := 0
      hostnameLookup := fun _ _ => none }
  warnings := []
  stats := {}
  active := by decide

/-- The client is published with the rate of the counter that came with the second address. -/
theorem exists_returningRow_client :
    ∃ client ∈ returningRow.published (.init false) acctCall [] acctCall,
      client.identityKey = "02:00:00:00:00:02@lan".toList ∧ client.txBps = 8000000 := by
  have hrates : (returningRow.published (.init false) acctCall [] acctCall).map
      (fun client => (client.identityKey, client.txBps))
      = [("02:00:00:00:00:02@lan".toList, 8000000)] := by
    decide +kernel
  have hmem : ("02:00:00:00:00:02@lan".toList, (8000000 : ℤ)) ∈
      (returningRow.published (.init false) acctCall [] acctCall).map
        fun client => (client.identityKey, client.txBps) := by
    rw [hrates]
    exact List.mem_singleton_self _
  obtain ⟨client, hclient, hpair⟩ := List.mem_map.mp hmem
  exact ⟨client, hclient, Prod.mk.inj hpair⟩

/-- A client whose ARP row comes back between two reads. -/
theorem conntrack_rates_le_returningRow :
    ∃ client ∈ returningRow.published (.init false) acctCall [] acctCall,
      client.bps .tx ≤ ((8000 * (returningRow.growth .tx client.identityKey +
          returningRow.unheld .tx defaultMaxClients client.identityKey) /
        (returningRow.later.atMs.toNat - returningRow.earlier.atMs.toNat) : ℕ) : ℤ) := by
  obtain ⟨client, hclient, -⟩ := exists_returningRow_client
  exact ⟨client, hclient, conntrack_rates_le returningRow _ _ _ _ client hclient .tx⟩

/-- The client is published with a rate although none of its flows has grown. -/
theorem conntrack_rate_above_growth :
    ∃ client ∈ returningRow.published (.init false) acctCall [] acctCall,
      ¬ client.txBps ≤ ((8000 * returningRow.growth .tx client.identityKey /
        (returningRow.later.atMs.toNat - returningRow.earlier.atMs.toNat) : ℕ) : ℤ) := by
  have hgrowth : returningRow.growth .tx "02:00:00:00:00:02@lan".toList = 0 := by decide +kernel
  obtain ⟨client, hclient, hkey, hbps⟩ := exists_returningRow_client
  refine ⟨client, hclient, ?_⟩
  rw [hkey, hbps, hgrowth]
  decide

end Lanspeed
