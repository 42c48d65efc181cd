import Lanspeed.BpfRates
import Lanspeed.Lib.History

/-!
# The conntrack and NSS collectors

`collect_conntrack_procfs_clients` and `collect_nss_ecm_direct_clients` publish a table that they
read on each call, with rates against the table of the last successful call, and then keep it as the
previous snapshot. The conntrack collector also carries `last_seen` along while the totals of a
client do not change.
-/

namespace Lanspeed

open History

/-- The byte totals of a conntrack sample. -/
def ConntrackClientSample.totals (s : ConntrackClientSample) : ByteTotals := ⟨s.txBytes, s.rxBytes⟩

/-- The first sample under an identity key. -/
abbrev findConntrackClientSample (key : CStr) (samples : List ConntrackClientSample) :
    Option ConntrackClientSample :=
  Keyed.lookup ConntrackClientSample.identityKey key samples

/-- A table of samples that a snapshot read yields. -/
structure ClientTable where
  samples : List ConntrackClientSample
  distinct : Keyed.Distinct ConntrackClientSample.identityKey samples

/-- A table that is read from conntrack at `nowMs`: every sample was seen then. -/
structure ConntrackTable (nowMs : UInt64) extends ClientTable where
  seen_now : ∀ s ∈ samples, s.lastSeenMs = nowMs

/-- The fields of `struct conntrack_collect_stats` that the published clients depend on. -/
structure ConntrackCollectStats where
  netlinkRead : Bool := false
  procfsRead : Bool := false
deriving DecidableEq, Repr

/-- What `read_conntrack_snapshot_mode` hands back: the warnings it adds, its statistics, and the
table when it returns true. -/
structure ConntrackRead (nowMs : UInt64) where
  warnings : List CStr := []
  stats : ConntrackCollectStats := {}
  table : Option (ConntrackTable nowMs)

/-- What `read_nss_ecm_direct_snapshot` hands back. -/
structure NssEcmDirectRead where
  warnings : List CStr := []
  table : Option ClientTable

/-- What one call of `collect_conntrack_procfs_clients` reads besides the state of
the collectors. -/
structure ConntrackCall where
  env : BpfPublishEnv
  nowMs : UInt64
  read : ConntrackRead nowMs

/-- What one call of `collect_nss_ecm_direct_clients` reads besides the state of the collectors. -/
structure NssEcmDirectCall where
  env : BpfPublishEnv
  nowMs : UInt64
  read : NssEcmDirectRead

/-! ## The parts that the two collectors share -/

/-- The time between the previous snapshot and `nowMs`, as both collectors compute it. -/
def PreviousSnapshot.deltaMs (prev : PreviousSnapshot) (nowMs : UInt64) : UInt64 :=
  if !prev.valid then 0
  else if nowMs < prev.snapshotMs then 0
  else nowMs - prev.snapshotMs

/-- The warning about the previous snapshot, where there is one. -/
def PreviousSnapshot.pendingWarning (prev : PreviousSnapshot) (nowMs : UInt64) (pending : CStr)
    (warnings : List CStr) : List CStr :=
  if !prev.valid then addStringUnique warnings pending
  else if nowMs < prev.snapshotMs then addStringUnique warnings "time_rollback".toList
  else warnings

/-- The rates of a sample against the previous snapshot. -/
def PreviousSnapshot.rates (prev : PreviousSnapshot) (nowMs : UInt64)
    (cur : ConntrackClientSample) : ClientRates :=
  let previous := findConntrackClientSample cur.identityKey prev.samples
  clientRates cur.totals (if prev.valid then previous.map ConntrackClientSample.totals else none)
    (prev.deltaMs nowMs)

/-- The warnings array that all clients of the reply share, after the loop over the samples. -/
def PreviousSnapshot.anomalyWarnings (prev : PreviousSnapshot) (nowMs : UInt64)
    (samples : List ConntrackClientSample) (warnings : List CStr) : List CStr :=
  samples.foldl (fun warnings cur =>
    if (prev.rates nowMs cur).counterAnomaly then
      addStringUnique warnings "counter_anomaly".toList
    else warnings) warnings

/-- The client object that both collectors build from a sample. -/
def snapshotClientJson (hostnameLookup : CStr → List CStr → Option CStr) (nowMs : UInt64)
    (rates : ClientRates) (cur : ConntrackClientSample) (udpDnsConns udpOtherConns : ℤ)
    (collectorMode confidence : CStr) (warnings : List CStr) : ClientJson :=
  { mac := cur.mac
    identityKey := cur.identityKey
    zone := cur.zone
    interface := cur.ifname
    ips := cur.ips
    hostname := hostnameLookup cur.mac cur.ips
    rxBps := jsonInt64 rates.rxBps
    txBps := jsonInt64 rates.txBps
    rxBytes := jsonInt64 cur.rxBytes
    txBytes := jsonInt64 cur.txBytes
    tcpConns := cur.tcpConns.toNat
    udpConns := cur.udpConns.toNat
    udpDnsConns := some udpDnsConns
    udpOtherConns := some udpOtherConns
    sampleMs := jsonInt64 nowMs
    lastSeen := jsonInt64 cur.lastSeenMs
    collectorMode
    confidence
    warnings }

/-- A connection count summed over the samples. -/
def connSum (count : ConntrackClientSample → UInt32) (samples : List ConntrackClientSample) : ℤ :=
  jsonInt64 (samples.map fun s => (count s).toUInt64).sum

/-- Add the flagged warnings in their order. -/
def addWarnings (flagged : List (Bool × String)) (warnings : List CStr) : List CStr :=
  flagged.foldl (fun warnings w => if w.1 then addStringUnique warnings w.2.toList else warnings)
    warnings

/-- `bpf_full_available`. -/
def bpfFullAvailable (cfg : CollectorConfig) (env : BpfPublishEnv) (st : CollectorState) : Bool :=
  bpfRuntimeMetricsAvailable cfg st.bpfRuntimeEnabled env.status env.nowMs env.probe

/-! ## The conntrack collector -/

/-- `conntrack_refresh_last_seen`. -/
def conntrackRefreshLastSeen (current : ConntrackClientSample)
    (previous : Option ConntrackClientSample) : UInt64 :=
  match previous with
  | none => current.lastSeenMs
  | some previous =>
    if current.txBytes ≠ previous.txBytes ∨ current.rxBytes ≠ previous.rxBytes then
      current.lastSeenMs
    else previous.lastSeenMs

/-- The sample with its `last_seen_ms` refreshed. -/
def PreviousSnapshot.refresh (prev : PreviousSnapshot) (cur : ConntrackClientSample) :
    ConntrackClientSample :=
  { cur with
    lastSeenMs :=
      conntrackRefreshLastSeen cur (findConntrackClientSample cur.identityKey prev.samples) }

/-- The flagged warnings of `add_conntrack_common_warnings`. -/
def conntrackCommonWarnings (cfg : CollectorConfig) (bpfFull : Bool) (probe : RuntimeProbe) :
    List (Bool × String) :=
  let sync := nssConntrackSyncPreferred cfg probe
  (if nssEcmDirectPreferred cfg probe then
    [(true, "nss_ecm_direct_unavailable"), (true, "nss_ecm_sync_cadence"),
      (bpfFull, "nss_prefers_conntrack_sync")]
  else if sync then
    [(true, "nss_ecm_sync_cadence"), (bpfFull, "nss_prefers_conntrack_sync")]
  else [(true, "conntrack_routed_nat_only")]) ++
  let offload := probe.hardwareFlowOffload || probe.softwareFlowOffload
  [(!probe.flowtableCounter, "flowtable_counter_missing"),
    (probe.nlbwmon, "nlbwmon_counter_conflict"),
    (probe.openclash || probe.dae || probe.homeproxy, "proxy_path_confidence_low"),
    (probe.openclashFakeIp, "openclash_fake_ip_low_remote_confidence"),
    (probe.openclashTunMix, "openclash_tun_conntrack_low_confidence"),
    (probe.openclashDnsChainIncomplete, "openclash_dns_chain_incomplete"),
    (probe.openclashRouterSelfProxy, "openclash_router_self_proxy_detected"),
    (probe.sqm || probe.qosify || probe.ifb, "qos_ifb_confidence_low"),
    (offload && sync, "nss_ecm_sync_cadence"),
    (offload && !sync, "flow_offload_confidence_low")]

/-- `conntrack_stats_collector_mode`. -/
def conntrackStatsCollectorMode (cfg : CollectorConfig) (probe : RuntimeProbe)
    (stats : ConntrackCollectStats) : CStr :=
  if nssConntrackSyncPreferred cfg probe then "conntrack_ecm_sync".toList
  else if stats.netlinkRead then "conntrack_netlink".toList
  else if stats.procfsRead then "conntrack_procfs".toList
  else "conntrack".toList

/-- `collector_mode_name`. -/
def collectorModeName : CollectorModeSetting → CStr
  | .auto => "auto".toList
  | .bpf => "bpf".toList
  | .conntrackNetlink => "conntrack_netlink".toList
  | .conntrackProcfs => "conntrack_procfs".toList

/-- `conntrack_stats_source`. -/
def conntrackStatsSource (cfg : CollectorConfig) (stats : ConntrackCollectStats) : CStr :=
  if stats.netlinkRead then "conntrack_netlink".toList
  else if stats.procfsRead then "conntrack_procfs".toList
  else collectorModeName cfg.connCollectorMode

/-- `emit_conntrack_clients`: the reply, and the snapshot that it keeps. -/
def emitConntrackClients (cfg : CollectorConfig) (env : BpfPublishEnv) (prev : PreviousSnapshot)
    (current : List ConntrackClientSample) (nowMs : UInt64) (baseWarnings : List CStr)
    (stats : ConntrackCollectStats) : ClientsReply × PreviousSnapshot :=
  let warnings := prev.anomalyWarnings nowMs current
    (prev.pendingWarning nowMs "conntrack_snapshot_pending".toList baseWarnings)
  let clientJson := fun cur : ConntrackClientSample =>
    snapshotClientJson env.hostnameLookup nowMs (prev.rates nowMs cur) (prev.refresh cur)
      cur.udpDnsConns.toNat cur.udpOtherConns.toNat
      (conntrackStatsCollectorMode cfg env.probe stats) (conntrackFallbackConfidence cfg env.probe)
      warnings
  ({ clients := current.map clientJson
     totals :=
      { tcp := some (connSum (·.tcpConns) current)
        udp := some (connSum (·.udpConns) current)
        udpDns := some (connSum (·.udpDnsConns) current)
        udpOther := some (connSum (·.udpOtherConns) current) }
     connSource := some (conntrackStatsSource cfg stats)
     connSemantics := some
      "conntrack_current_tcp_established_assured_udp_tracked_dns_split".toList },
   { samples := current.map prev.refresh, snapshotMs := nowMs, valid := true })

/-- The warnings that `collect_conntrack_procfs_clients` has added when the read returns. -/
def conntrackBaseWarnings (cfg : CollectorConfig) (call : ConntrackCall) (st : CollectorState) :
    List CStr :=
  let probe := call.env.probe
  let loaderMissing := cfg.enableBpf && probe.safeAttach && !probe.bpfRuntimeMetrics
  let warnings := addWarnings
    (conntrackCommonWarnings cfg (bpfFullAvailable cfg call.env st) probe ++
      [(true, "live_metrics_unavailable"), (loaderMissing, "bpf_runtime_loader_unavailable")]) []
  call.read.warnings.foldl addStringUnique warnings

/-- `collect_conntrack_procfs_clients`: the reply when it returns true, and the state after it. -/
def collectConntrackProcfsClients (cfg : CollectorConfig) (call : ConntrackCall)
    (st : CollectorState) : Option ClientsReply × CollectorState :=
  if !conntrackClientsReadActive cfg call.env.probe then (none, st)
  else
    match call.read.table with
    | none => (none, st)
    | some table =>
      let emitted := emitConntrackClients cfg call.env st.previousConntrack table.samples
        call.nowMs (conntrackBaseWarnings cfg call st) call.read.stats
      (some emitted.1, { st with previousConntrack := emitted.2 })

/-! ## The NSS direct collector -/

/-- The warnings that `collect_nss_ecm_direct_clients` has added when the read returns. -/
def nssEcmDirectBaseWarnings (cfg : CollectorConfig) (call : NssEcmDirectCall)
    (st : CollectorState) : List CStr :=
  let warnings := addWarnings
    [(true, "nss_ecm_direct_active"), (bpfFullAvailable cfg call.env st, "nss_prefers_direct")] []
  call.read.warnings.foldl addStringUnique warnings

/-- The part of `collect_nss_ecm_direct_clients` after a successful read: the reply, and the
snapshot that it keeps. -/
def emitNssEcmDirectClients (env : BpfPublishEnv) (prev : PreviousSnapshot)
    (current : List ConntrackClientSample) (nowMs : UInt64) (baseWarnings : List CStr) :
    ClientsReply × PreviousSnapshot :=
  let warnings := prev.anomalyWarnings nowMs current
    (prev.pendingWarning nowMs "nss_ecm_direct_snapshot_pending".toList baseWarnings)
  let clientJson := fun cur : ConntrackClientSample =>
    snapshotClientJson env.hostnameLookup nowMs (prev.rates nowMs cur) cur
      0 cur.udpConns.toNat "nss_ecm_direct".toList "high".toList warnings
  ({ clients := current.map clientJson
     totals :=
      { tcp := some (connSum (·.tcpConns) current)
        udp := some (connSum (·.udpConns) current)
        udpDns := some 0
        udpOther := some (connSum (·.udpConns) current) }
     connSource := some "nss_ecm_direct".toList
     connSemantics := some "nss_ecm_direct_state_current_tcp_udp_protocol_counts".toList },
   { samples := current, snapshotMs := nowMs, valid := true })

/-- `collect_nss_ecm_direct_clients`: the reply when it returns true, and the state after it. -/
def collectNssEcmDirectClients (cfg : CollectorConfig) (call : NssEcmDirectCall)
    (st : CollectorState) : Option ClientsReply × CollectorState :=
  if !nssEcmDirectPreferred cfg call.env.probe then (none, st)
  else
    match call.read.table with
    | none => (none, st)
    | some table =>
      let emitted := emitNssEcmDirectClients call.env st.previousNssEcmDirect table.samples
        call.nowMs (nssEcmDirectBaseWarnings cfg call st)
      (some emitted.1, { st with previousNssEcmDirect := emitted.2 })

/-! ## The history of snapshots -/

/-- A successful snapshot read. -/
structure Snapshot where
  atMs : UInt64
  samples : List ConntrackClientSample
deriving DecidableEq, Repr

/-- The totals that an identity has in a snapshot, if it is in it. -/
def Snapshot.totalsOf (key : CStr) (s : Snapshot) : Option ByteTotals :=
  (findConntrackClientSample key s.samples).map ConntrackClientSample.totals

/-- The snapshot that a call of the conntrack collector reads, if it reads one. -/
def ConntrackCall.snapshot (cfg : CollectorConfig) (call : ConntrackCall) : Option Snapshot :=
  if conntrackClientsReadActive cfg call.env.probe then
    call.read.table.map fun table => ⟨call.nowMs, table.samples⟩
  else none

/-- The snapshot that a call of the NSS direct collector reads, if it reads one. -/
def NssEcmDirectCall.snapshot (cfg : CollectorConfig) (call : NssEcmDirectCall) : Option Snapshot :=
  if nssEcmDirectPreferred cfg call.env.probe then
    call.read.table.map fun table => ⟨call.nowMs, table.samples⟩
  else none

/-- The history after a call that reads `snapshot`, if it reads one. -/
def pushSnapshot (hist : List Snapshot) (snapshot : Option Snapshot) : List Snapshot :=
  match snapshot with
  | none => hist
  | some snap => snap :: hist

/-- The successful snapshots of the calls, newest first. -/
def snapshotHistory {C : Type*} (snapshot : C → Option Snapshot) (calls : List C) :
    List Snapshot :=
  Machine.run (fun hist call => pushSnapshot hist (snapshot call)) [] calls

/-- The time of the last snapshot; zero when there was none. -/
def lastMs (hist : List Snapshot) : UInt64 := (hist.head?.map Snapshot.atMs).getD 0

/-- The previous snapshot that a collector keeps is the last successful one. -/
structure PreviousOf (hist : List Snapshot) (prev : PreviousSnapshot) : Prop where
  valid : prev.valid = !hist.isEmpty
  snapshotMs : prev.snapshotMs = lastMs hist
  totals : ∀ key, (findConntrackClientSample key prev.samples).map ConntrackClientSample.totals
    = latest (Snapshot.totalsOf key) hist

/-- Every sample of the previous snapshot carries the time at which its totals last changed. -/
def SeenOf (hist : List Snapshot) (prev : PreviousSnapshot) : Prop :=
  ∀ key p, findConntrackClientSample key prev.samples = some p →
    ∃ s, LastChange (Snapshot.totalsOf key) hist s ∧ p.lastSeenMs = s.atMs

theorem previousOf_nil : PreviousOf [] {} := ⟨rfl, rfl, fun _ => rfl⟩

/-- Before any read no client was seen. -/
theorem seenOf_nil : SeenOf [] {} := by
  intro key p h
  simp at h

/-- The time since the last snapshot, zero when the clock did not advance. -/
def elapsedMs (hist : List Snapshot) (nowMs : UInt64) : ℕ := nowMs.toNat - (lastMs hist).toNat

section Previous

variable {hist : List Snapshot} {prev : PreviousSnapshot}

/-- The time difference that the collectors compute covers a clock that stood still or went back. -/
theorem PreviousOf.toNat_deltaMs (h : PreviousOf hist prev) (hne : hist ≠ []) (nowMs : UInt64) :
    (prev.deltaMs nowMs).toNat = elapsedMs hist nowMs := by
  have hvalid : prev.valid = true := by
    rw [h.valid, List.isEmpty_eq_false_iff.mpr hne]
    rfl
  rw [PreviousSnapshot.deltaMs, elapsedMs, ← h.snapshotMs, hvalid]
  simp only [Bool.not_true, Bool.false_eq_true, if_false]
  split_ifs with hback
  · have := UInt64.lt_iff_toNat_lt.mp hback
    simp only [UInt64.toNat_zero]
    omega
  · exact UInt64.toNat_sub_of_le _ _ (UInt64.not_lt.mp hback)

/-- The rates of a sample are those against the last snapshot. -/
theorem PreviousOf.rates (h : PreviousOf hist prev) (nowMs : UInt64) (cur : ConntrackClientSample) :
    prev.rates nowMs cur
      = clientRates cur.totals (latest (Snapshot.totalsOf cur.identityKey) hist)
          (prev.deltaMs nowMs) := by
  rw [PreviousSnapshot.rates, h.totals]
  cases hist with
  | nil => simp
  | cons s hist => simp [h.valid]

/-- A refresh changes neither the key nor the totals of a sample. -/
@[simp] theorem refresh_identityKey (prev : PreviousSnapshot) (cur : ConntrackClientSample) :
    (prev.refresh cur).identityKey = cur.identityKey := rfl

@[simp] theorem refresh_totals (prev : PreviousSnapshot) (cur : ConntrackClientSample) :
    (prev.refresh cur).totals = cur.totals := rfl

/-- Whether `conntrack_refresh_last_seen` takes the time of the current sample. -/
theorem conntrackRefreshLastSeen_eq (cur : ConntrackClientSample)
    (previous : Option ConntrackClientSample) :
    conntrackRefreshLastSeen cur previous
      = if some cur.totals = previous.map ConntrackClientSample.totals then
          (previous.map ConntrackClientSample.lastSeenMs).getD cur.lastSeenMs
        else cur.lastSeenMs := by
  cases previous with
  | none => simp [conntrackRefreshLastSeen]
  | some p =>
    have htotals : some cur.totals = (some p).map ConntrackClientSample.totals ↔
        ¬ (cur.txBytes ≠ p.txBytes ∨ cur.rxBytes ≠ p.rxBytes) := by
      simp [ConntrackClientSample.totals]
    rw [conntrackRefreshLastSeen]
    by_cases h : cur.txBytes ≠ p.txBytes ∨ cur.rxBytes ≠ p.rxBytes
    · rw [if_pos h, if_neg fun heq => htotals.mp heq h]
    · rw [if_neg h, if_pos (htotals.mpr h)]
      rfl

/-- The refreshed time of a sample is the time at which its totals last changed. -/
theorem lastSeenMs_refresh (h : PreviousOf hist prev) (hseen : SeenOf hist prev) {snap : Snapshot}
    {cur : ConntrackClientSample}
    (hfound : findConntrackClientSample cur.identityKey snap.samples = some cur)
    (hnow : cur.lastSeenMs = snap.atMs) :
    ∃ s, LastChange (Snapshot.totalsOf cur.identityKey) (snap :: hist) s ∧
      (prev.refresh cur).lastSeenMs = s.atMs := by
  have hvalue : Snapshot.totalsOf cur.identityKey snap = some cur.totals := by
    rw [Snapshot.totalsOf, hfound, Option.map_some]
  have hrefresh := conntrackRefreshLastSeen_eq cur
    (findConntrackClientSample cur.identityKey prev.samples)
  rw [h.totals] at hrefresh
  by_cases hsame : some cur.totals = latest (Snapshot.totalsOf cur.identityKey) hist
  · -- The totals did not change, so the time comes from the previous sample.
    have hnot : ¬ Changed (Snapshot.totalsOf cur.identityKey) snap hist := by
      rw [Changed, hvalue]
      exact fun hc => hc.2 hsame
    have hprev := h.totals cur.identityKey
    rw [← hsame] at hprev
    obtain ⟨p, hp, -⟩ := Option.map_eq_some_iff.mp hprev
    obtain ⟨s, hs, htime⟩ := hseen cur.identityKey p hp
    refine ⟨s, (lastChange_cons_of_not_changed hnot s).mpr hs, ?_⟩
    rw [PreviousSnapshot.refresh, hrefresh, if_pos hsame, hp]
    exact htime
  · have hchanged : Changed (Snapshot.totalsOf cur.identityKey) snap hist := by
      rw [Changed, hvalue]
      exact ⟨Option.some_ne_none _, hsame⟩
    refine ⟨snap, (lastChange_cons_of_changed hchanged snap).mpr rfl, ?_⟩
    rw [PreviousSnapshot.refresh, hrefresh, if_neg hsame]
    exact hnow

end Previous

/-! ## Runs of the two collectors -/

/-- One call of the conntrack collector. -/
def conntrackStep (cfg : CollectorConfig) (st : CollectorState) (call : ConntrackCall) :
    CollectorState :=
  (collectConntrackProcfsClients cfg call st).2

/-- One call of the NSS direct collector. -/
def nssEcmDirectStep (cfg : CollectorConfig) (st : CollectorState) (call : NssEcmDirectCall) :
    CollectorState :=
  (collectNssEcmDirectClients cfg call st).2

/-- A call of the conntrack collector, in terms of the snapshot that it reads. -/
theorem collectConntrackProcfsClients_eq (cfg : CollectorConfig) (call : ConntrackCall)
    (st : CollectorState) :
    collectConntrackProcfsClients cfg call st =
      match call.snapshot cfg with
      | none => (none, st)
      | some snap =>
        let emitted := emitConntrackClients cfg call.env st.previousConntrack snap.samples snap.atMs
          (conntrackBaseWarnings cfg call st) call.read.stats
        (some emitted.1, { st with previousConntrack := emitted.2 }) := by
  unfold collectConntrackProcfsClients ConntrackCall.snapshot
  cases conntrackClientsReadActive cfg call.env.probe with
  | false => rfl
  | true => cases call.read.table <;> rfl

/-- A call of the NSS direct collector, in terms of the snapshot that it reads. -/
theorem collectNssEcmDirectClients_eq (cfg : CollectorConfig) (call : NssEcmDirectCall)
    (st : CollectorState) :
    collectNssEcmDirectClients cfg call st =
      match call.snapshot cfg with
      | none => (none, st)
      | some snap =>
        let emitted :=
          emitNssEcmDirectClients call.env st.previousNssEcmDirect snap.samples snap.atMs
          (nssEcmDirectBaseWarnings cfg call st)
        (some emitted.1, { st with previousNssEcmDirect := emitted.2 }) := by
  unfold collectNssEcmDirectClients NssEcmDirectCall.snapshot
  cases nssEcmDirectPreferred cfg call.env.probe with
  | false => rfl
  | true => cases call.read.table <;> rfl

/-- The samples of a conntrack snapshot are distinct and were seen at its time. -/
theorem ConntrackCall.snapshot_table {cfg : CollectorConfig} {call : ConntrackCall}
    {snap : Snapshot} (h : call.snapshot cfg = some snap) :
    Keyed.Distinct ConntrackClientSample.identityKey snap.samples ∧
      ∀ cur ∈ snap.samples, cur.lastSeenMs = snap.atMs := by
  rw [ConntrackCall.snapshot] at h
  split_ifs at h
  obtain ⟨table, -, rfl⟩ := Option.map_eq_some_iff.mp h
  exact ⟨table.distinct, table.seen_now⟩

/-- The samples of an NSS direct snapshot are distinct. -/
theorem NssEcmDirectCall.snapshot_distinct {cfg : CollectorConfig} {call : NssEcmDirectCall}
    {snap : Snapshot} (h : call.snapshot cfg = some snap) :
    Keyed.Distinct ConntrackClientSample.identityKey snap.samples := by
  rw [NssEcmDirectCall.snapshot] at h
  split_ifs at h
  obtain ⟨table, -, rfl⟩ := Option.map_eq_some_iff.mp h
  exact table.distinct

/-- A snapshot that is kept with the totals it was read with becomes the last snapshot. -/
theorem previousOf_keep (snap : Snapshot) (hist : List Snapshot)
    {f : ConntrackClientSample → ConntrackClientSample}
    (hkey : ∀ s, (f s).identityKey = s.identityKey) (htotals : ∀ s, (f s).totals = s.totals) :
    PreviousOf (snap :: hist)
      { samples := snap.samples.map f, snapshotMs := snap.atMs, valid := true } := by
  refine ⟨rfl, rfl, fun key => ?_⟩
  have hcomp : ConntrackClientSample.totals ∘ f = ConntrackClientSample.totals := funext htotals
  rw [findConntrackClientSample, Keyed.lookup_map hkey, Option.map_map, hcomp]
  rfl

/-- One call of the conntrack collector keeps its previous snapshot in step with the history. -/
theorem conntrackStep_previousOf (cfg : CollectorConfig) {hist : List Snapshot}
    {st : CollectorState} (h : PreviousOf hist st.previousConntrack)
    (hseen : SeenOf hist st.previousConntrack) (call : ConntrackCall) :
    PreviousOf (pushSnapshot hist (call.snapshot cfg))
      (conntrackStep cfg st call).previousConntrack ∧
      SeenOf (pushSnapshot hist (call.snapshot cfg))
        (conntrackStep cfg st call).previousConntrack := by
  rw [conntrackStep, collectConntrackProcfsClients_eq]
  cases hsnap : call.snapshot cfg with
  | none => exact ⟨h, hseen⟩
  | some snap =>
    obtain ⟨hdistinct, hnow⟩ := ConntrackCall.snapshot_table hsnap
    refine ⟨previousOf_keep snap hist (refresh_identityKey _) (refresh_totals _),
      fun key p hp => ?_⟩
    change findConntrackClientSample key (snap.samples.map _) = some p at hp
    rw [findConntrackClientSample, Keyed.lookup_map (refresh_identityKey _)] at hp
    obtain ⟨cur, hcur, rfl⟩ := Option.map_eq_some_iff.mp hp
    obtain rfl := Keyed.key_of_lookup hcur
    exact lastSeenMs_refresh h hseen hcur (hnow cur (Keyed.mem_of_lookup hcur))

/-- One call of the NSS direct collector keeps its previous snapshot in step with the history. -/
theorem nssEcmDirectStep_previousOf (cfg : CollectorConfig) {hist : List Snapshot}
    {st : CollectorState} (h : PreviousOf hist st.previousNssEcmDirect) (call : NssEcmDirectCall) :
    PreviousOf (pushSnapshot hist (call.snapshot cfg))
      (nssEcmDirectStep cfg st call).previousNssEcmDirect := by
  rw [nssEcmDirectStep, collectNssEcmDirectClients_eq]
  cases call.snapshot cfg with
  | none => exact h
  | some snap =>
    have hkeep : PreviousOf (snap :: hist)
        { samples := snap.samples.map id, snapshotMs := snap.atMs, valid := true } :=
      previousOf_keep snap hist (fun _ => rfl) fun _ => rfl
    rwa [List.map_id] at hkeep

/-- After every run of the conntrack collector its previous snapshot is the last successful one,
with the times at which the totals last changed. -/
theorem conntrackStep_run (cfg : CollectorConfig) (enabled : Bool) (calls : List ConntrackCall) :
    PreviousOf (snapshotHistory (ConntrackCall.snapshot cfg) calls)
        (Machine.run (conntrackStep cfg) (CollectorState.init enabled) calls).previousConntrack ∧
      SeenOf (snapshotHistory (ConntrackCall.snapshot cfg) calls)
        (Machine.run (conntrackStep cfg) (CollectorState.init enabled) calls).previousConntrack :=
  Machine.run_simulates (conntrackStep cfg) (P := fun _ _ => True)
    (R := fun st hist => PreviousOf hist st.previousConntrack ∧ SeenOf hist st.previousConntrack) _
    (fun _ _ call h _ => conntrackStep_previousOf cfg h.1 h.2 call) ⟨previousOf_nil, seenOf_nil⟩
    (Machine.along_of_forall _ (fun _ _ => trivial) _ _)

/-- After every run of the NSS direct collector its previous snapshot is the last successful one. -/
theorem nssEcmDirectStep_run (cfg : CollectorConfig) (enabled : Bool)
    (calls : List NssEcmDirectCall) :
    PreviousOf (snapshotHistory (NssEcmDirectCall.snapshot cfg) calls)
      (Machine.run (nssEcmDirectStep cfg) (CollectorState.init enabled)
        calls).previousNssEcmDirect :=
  Machine.run_simulates (nssEcmDirectStep cfg) (P := fun _ _ => True)
    (R := fun st hist => PreviousOf hist st.previousNssEcmDirect) _
    (fun _ _ call h _ => nssEcmDirectStep_previousOf cfg h call) previousOf_nil
    (Machine.along_of_forall _ (fun _ _ => trivial) _ _)

/-! ## The published clients -/

/-- The total that the identity `key` had in the last snapshot, if it was in it. -/
def totalBefore (hist : List Snapshot) (key : CStr) (total : ByteTotals → UInt64) : Option UInt64 :=
  (latest (Snapshot.totalsOf key) hist).map total

/-- A published client carries the rates of its sample in `snap` against the last snapshot. -/
structure RatesFollowSnapshots (hist : List Snapshot) (snap : Snapshot)
    (cur : ConntrackClientSample) (client : ClientJson) : Prop where
  txBps : GrowthFits (totalBefore hist cur.identityKey (·.tx)) cur.txBytes →
    client.txBps = exactBps (totalBefore hist cur.identityKey (·.tx)) cur.txBytes
      (elapsedMs hist snap.atMs)
  rxBps : GrowthFits (totalBefore hist cur.identityKey (·.rx)) cur.rxBytes →
    client.rxBps = exactBps (totalBefore hist cur.identityKey (·.rx)) cur.rxBytes
      (elapsedMs hist snap.atMs)

/-- A client that the conntrack collector publishes also carries the time of the last snapshot in
which its totals changed or it appeared. -/
structure ClientFollowsConntrack (hist : List Snapshot) (snap : Snapshot)
    (cur : ConntrackClientSample) (client : ClientJson) : Prop
    extends RatesFollowSnapshots hist snap cur client where
  lastSeen : ∃ s, LastChange (Snapshot.totalsOf cur.identityKey) (snap :: hist) s ∧
    client.lastSeen = s.atMs.toNat

/-- A call leaves the previous snapshot alone when it reads none, and else publishes every identity
of the snapshot, with clients that follow it. -/
def CallFollows (follows : Snapshot → ConntrackClientSample → ClientJson → Prop)
    (snapshot : Option Snapshot) (before after : PreviousSnapshot) (reply : Option ClientsReply) :
    Prop :=
  match snapshot with
  | none => reply = none ∧ after = before
  | some snap => ∃ r, reply = some r ∧
      r.clients.map ClientJson.identityKey
        = snap.samples.map ConntrackClientSample.identityKey ∧
      ∀ cur ∈ snap.samples, ∀ client ∈ r.clients, client.identityKey = cur.identityKey →
        follows snap cur client

/-- The totals of a sample grew by less than `2 ^ 63` bits per second since the last snapshot
(unless the scaled growth does not even fit in 64 bits). -/
structure GrowthSincePublishable (hist : List Snapshot) (snap : Snapshot)
    (cur : ConntrackClientSample) : Prop where
  tx : GrowthFits (totalBefore hist cur.identityKey (·.tx)) cur.txBytes →
    GrowthBelowSigned (totalBefore hist cur.identityKey (·.tx)) cur.txBytes
      (elapsedMs hist snap.atMs)
  rx : GrowthFits (totalBefore hist cur.identityKey (·.rx)) cur.rxBytes →
    GrowthBelowSigned (totalBefore hist cur.identityKey (·.rx)) cur.rxBytes
      (elapsedMs hist snap.atMs)

/-- The totals of a sample last changed at a time below `2 ^ 63`. -/
def SeenPublishable (hist : List Snapshot) (snap : Snapshot) (cur : ConntrackClientSample) : Prop :=
  ∀ s, LastChange (Snapshot.totalsOf cur.identityKey) (snap :: hist) s → s.atMs.toNat < 2 ^ 63

section Published

variable {hist : List Snapshot} {prev : PreviousSnapshot} {snap : Snapshot}

/-- A reply with one client for each sample of a table with distinct identities follows the snapshot
when the client of each sample does. -/
theorem callFollows_map_iff {follows : Snapshot → ConntrackClientSample → ClientJson → Prop}
    (hdistinct : Keyed.Distinct ConntrackClientSample.identityKey snap.samples)
    {f : ConntrackClientSample → ClientJson} (hf : ∀ s, (f s).identityKey = s.identityKey)
    {r : ClientsReply} (hr : r.clients = snap.samples.map f) (before after : PreviousSnapshot) :
    CallFollows follows (some snap) before after (some r) ↔
      ∀ cur ∈ snap.samples, follows snap cur (f cur) := by
  constructor
  · rintro ⟨r', hr', -, hall⟩ cur hcur
    obtain rfl := Option.some.inj hr'
    exact hall cur hcur (f cur) (hr ▸ List.mem_map_of_mem hcur) (hf cur)
  · intro h
    refine ⟨r, rfl, ?_, fun cur hcur client hclient hkey => ?_⟩
    · rw [hr, List.map_map]
      exact List.map_congr_left fun s _ => hf s
    · obtain ⟨s, hs, rfl⟩ := List.mem_map.mp (hr ▸ hclient)
      obtain rfl := hdistinct.eq_of_key_eq hs hcur ((hf s).symm.trans hkey)
      exact h s hs

/-- The published rates of a sample are those against the last snapshot if its totals grew slowly
enough, and only then. -/
theorem ratesFollowSnapshots_iff (h : PreviousOf hist prev) (cur : ConntrackClientSample)
    {client : ClientJson} (htx : client.txBps = jsonInt64 (prev.rates snap.atMs cur).txBps)
    (hrx : client.rxBps = jsonInt64 (prev.rates snap.atMs cur).rxBps) :
    RatesFollowSnapshots hist snap cur client ↔ GrowthSincePublishable hist snap cur := by
  rw [h.rates] at htx hrx
  cases hist with
  -- Before the first snapshot every rate is zero, and there is no growth to bound.
  | nil =>
    constructor
    · exact fun _ => ⟨fun _ => by simp [GrowthBelowSigned, totalBefore],
        fun _ => by simp [GrowthBelowSigned, totalBefore]⟩
    · refine fun _ => ⟨fun _ => ?_, fun _ => ?_⟩
      · simp [htx, clientRates, totalBefore, exactBps, jsonInt64]
      · simp [hrx, clientRates, totalBefore, exactBps, jsonInt64]
  | cons s hist =>
    have hdt := h.toNat_deltaMs (List.cons_ne_nil _ _) snap.atMs
    have htxIff := clientRates_txBps_iff cur.totals
      (latest (Snapshot.totalsOf cur.identityKey) (s :: hist)) (prev.deltaMs snap.atMs)
    have hrxIff := clientRates_rxBps_iff cur.totals
      (latest (Snapshot.totalsOf cur.identityKey) (s :: hist)) (prev.deltaMs snap.atMs)
    rw [hdt, ← htx] at htxIff
    rw [hdt, ← hrx] at hrxIff
    constructor
    · exact fun hrates => ⟨fun hfit => (htxIff hfit).mp (hrates.txBps hfit),
        fun hfit => (hrxIff hfit).mp (hrates.rxBps hfit)⟩
    · exact fun hgrowth => ⟨fun hfit => (htxIff hfit).mpr (hgrowth.tx hfit),
        fun hfit => (hrxIff hfit).mpr (hgrowth.rx hfit)⟩

/-- The published `last_seen` is the time of the last change if that is below `2 ^ 63`, and only
then. -/
theorem lastSeen_iff {cur : ConntrackClientSample} {client : ClientJson} {seenMs : UInt64}
    (hclient : client.lastSeen = jsonInt64 seenMs)
    (hseen : ∃ s, LastChange (Snapshot.totalsOf cur.identityKey) (snap :: hist) s ∧
      seenMs = s.atMs) :
    (∃ s, LastChange (Snapshot.totalsOf cur.identityKey) (snap :: hist) s ∧
        client.lastSeen = s.atMs.toNat) ↔
      SeenPublishable hist snap cur := by
  obtain ⟨s, hs, rfl⟩ := hseen
  have hiff : client.lastSeen = s.atMs.toNat ↔ s.atMs.toNat < 2 ^ 63 := by
    rw [hclient]
    exact jsonInt64_eq_iff rfl
  constructor
  -- The last change is unique, so the one that is published is the one that is asked for.
  · rintro ⟨s', hs', heq⟩ s'' hs''
    obtain rfl := hs.unique hs'
    obtain rfl := hs.unique hs''
    exact hiff.mp heq
  · exact fun h => ⟨s, hs, hiff.mpr (h s hs)⟩

/-- A client that is published from a sample with its refreshed time follows the history exactly
when its growth and the time of its last change can be published. -/
theorem clientFollowsConntrack_iff (h : PreviousOf hist prev) (hseen : SeenOf hist prev)
    {cur : ConntrackClientSample}
    (hfound : findConntrackClientSample cur.identityKey snap.samples = some cur)
    (hnow : cur.lastSeenMs = snap.atMs) {client : ClientJson}
    (htx : client.txBps = jsonInt64 (prev.rates snap.atMs cur).txBps)
    (hrx : client.rxBps = jsonInt64 (prev.rates snap.atMs cur).rxBps)
    (hlast : client.lastSeen = jsonInt64 (prev.refresh cur).lastSeenMs) :
    ClientFollowsConntrack hist snap cur client ↔
      GrowthSincePublishable hist snap cur ∧ SeenPublishable hist snap cur := by
  have hrates : RatesFollowSnapshots hist snap cur client ↔ GrowthSincePublishable hist snap cur :=
    ratesFollowSnapshots_iff h cur htx hrx
  have htime := lastSeen_iff hlast (lastSeenMs_refresh h hseen hfound hnow)
  constructor
  · exact fun hc => ⟨hrates.mp hc.toRatesFollowSnapshots, htime.mp hc.lastSeen⟩
  · exact fun hc => ⟨hrates.mpr hc.1, htime.mpr hc.2⟩

/-- A call of the conntrack collector follows the history of snapshots exactly when the growth of
the totals and the times of the last changes can be published. -/
theorem collectConntrackProcfsClients_follows_iff (cfg : CollectorConfig) (call : ConntrackCall)
    {st : CollectorState} (h : PreviousOf hist st.previousConntrack)
    (hseen : SeenOf hist st.previousConntrack) :
    CallFollows (ClientFollowsConntrack hist) (call.snapshot cfg) st.previousConntrack
        (conntrackStep cfg st call).previousConntrack
          (collectConntrackProcfsClients cfg call st).1 ↔
      ∀ snap, call.snapshot cfg = some snap → ∀ cur ∈ snap.samples,
        GrowthSincePublishable hist snap cur ∧ SeenPublishable hist snap cur := by
  rw [conntrackStep, collectConntrackProcfsClients_eq]
  cases hsnap : call.snapshot cfg with
  | none => simp [CallFollows]
  | some snap =>
    obtain ⟨hdistinct, hnow⟩ := ConntrackCall.snapshot_table hsnap
    refine Iff.trans (callFollows_map_iff hdistinct (fun _ => rfl) rfl _ _) ?_
    simp only [Option.some.injEq, forall_eq']
    exact forall₂_congr fun cur hcur =>
      clientFollowsConntrack_iff h hseen (hdistinct.lookup_of_mem hcur) (hnow cur hcur) rfl rfl rfl

/-- A call of the NSS direct collector follows the history of snapshots exactly when the growth of
the totals can be published. -/
theorem collectNssEcmDirectClients_follows_iff (cfg : CollectorConfig) (call : NssEcmDirectCall)
    {st : CollectorState} (h : PreviousOf hist st.previousNssEcmDirect) :
    CallFollows (RatesFollowSnapshots hist) (call.snapshot cfg) st.previousNssEcmDirect
        (nssEcmDirectStep cfg st call).previousNssEcmDirect
        (collectNssEcmDirectClients cfg call st).1 ↔
      ∀ snap, call.snapshot cfg = some snap → ∀ cur ∈ snap.samples,
        GrowthSincePublishable hist snap cur := by
  rw [nssEcmDirectStep, collectNssEcmDirectClients_eq]
  cases hsnap : call.snapshot cfg with
  | none => simp [CallFollows]
  | some snap =>
    have hdistinct := NssEcmDirectCall.snapshot_distinct hsnap
    refine Iff.trans (callFollows_map_iff hdistinct (fun _ => rfl) rfl _ _) ?_
    simp only [Option.some.injEq, forall_eq']
    exact forall₂_congr fun cur _ => ratesFollowSnapshots_iff h cur rfl rfl

end Published

/-- After every run of either collector, the next call follows the history of its snapshots exactly
when the rates of the snapshot that it reads are below `2 ^ 63` bits per second, and, for conntrack,
the times of the last changes are below `2 ^ 63`. -/
theorem calls_follow_snapshots_iff (cfg : CollectorConfig) (enabled : Bool)
    (calls : List ConntrackCall) (call : ConntrackCall)
    (nssCalls : List NssEcmDirectCall) (nssCall : NssEcmDirectCall) :
    let st := Machine.run (conntrackStep cfg) (CollectorState.init enabled) calls
    let hist := snapshotHistory (ConntrackCall.snapshot cfg) calls
    let nssSt := Machine.run (nssEcmDirectStep cfg) (CollectorState.init enabled) nssCalls
    let nssHist := snapshotHistory (NssEcmDirectCall.snapshot cfg) nssCalls
    (CallFollows (ClientFollowsConntrack hist) (call.snapshot cfg) st.previousConntrack
        (conntrackStep cfg st call).previousConntrack
          (collectConntrackProcfsClients cfg call st).1 ↔
      ∀ snap, call.snapshot cfg = some snap → ∀ cur ∈ snap.samples,
        GrowthSincePublishable hist snap cur ∧ SeenPublishable hist snap cur) ∧
    (CallFollows (RatesFollowSnapshots nssHist) (nssCall.snapshot cfg) nssSt.previousNssEcmDirect
        (nssEcmDirectStep cfg nssSt nssCall).previousNssEcmDirect
        (collectNssEcmDirectClients cfg nssCall nssSt).1 ↔
      ∀ snap, nssCall.snapshot cfg = some snap → ∀ cur ∈ snap.samples,
        GrowthSincePublishable nssHist snap cur) := by
  obtain ⟨hprev, hseen⟩ := conntrackStep_run cfg enabled calls
  exact ⟨collectConntrackProcfsClients_follows_iff cfg call hprev hseen,
    collectNssEcmDirectClients_follows_iff cfg nssCall (nssEcmDirectStep_run cfg enabled nssCalls)⟩

/-- A probe under which conntrack is the source of the clients. -/
def nssSyncProbe : RuntimeProbe :=
  { nfConntrackAcct := true, nssPresent := true, nssEcmActive := true }

/-- A conntrack sample of one client on `br-lan`. -/
def oneConntrackSample (nowMs bytes : UInt64) : ConntrackClientSample :=
  { mac := "02:00:00:00:00:01".toList, identityKey := "02:00:00:00:00:01@lan".toList
    zone := "lan".toList, ifname := "br-lan".toList, txBytes := bytes, lastSeenMs := nowMs }

/-- A call of the conntrack collector at `nowMs` that reads one client. -/
def readOneClient (nowMs bytes : UInt64) : ConntrackCall :=
  { env :=
      { probe := nssSyncProbe, status := {}, nowMs, hostnameLookup := fun _ _ => none }
    nowMs
    read :=
      { stats := { netlinkRead := true }
        table := some
          { samples := [oneConntrackSample nowMs bytes]
            distinct := List.nodup_singleton _
            seen_now := List.forall_mem_singleton.mpr rfl } } }

/-- The total grows by 1152921504606847 bytes in a millisecond, and the published rate
is negative. -/
theorem call_not_follows_snapshots_burst :
    let st := Machine.run (conntrackStep {}) (CollectorState.init false) [readOneClient 1 0]
    let hist := snapshotHistory (ConntrackCall.snapshot {}) [readOneClient 1 0]
    let call := readOneClient 2 1152921504606847
    ¬ CallFollows (ClientFollowsConntrack hist) (call.snapshot {}) st.previousConntrack
        (conntrackStep {} st call).previousConntrack
        (collectConntrackProcfsClients {} call st).1 := by
  intro st hist call h
  obtain ⟨hprev, hseen⟩ := conntrackStep_run {} false [readOneClient 1 0]
  have hgrowth := (collectConntrackProcfsClients_follows_iff {} call hprev hseen).mp h
    ⟨2, [oneConntrackSample 2 1152921504606847]⟩ rfl _ List.mem_cons_self
  have htotal :
      totalBefore hist (oneConntrackSample 2 1152921504606847).identityKey (·.tx) = some 0 := by
    decide +kernel
  have helapsed : elapsedMs hist 2 = 1 := by decide +kernel
  have htx := hgrowth.1.tx
  rw [htotal, helapsed] at htx
  exact absurd (htx (by decide +kernel)) (by decide +kernel)

end Lanspeed
