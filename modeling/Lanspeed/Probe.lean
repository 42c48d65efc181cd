import Lanspeed.State

/-!
# Runtime probe and collector policy

The flags of `struct runtime_probe` that the collectors read, the loader status behind
`lanspeed_bpf_runtime_ok`, and the predicates that choose a collector from them.
-/

namespace Lanspeed

/-- The flags of `struct runtime_probe` that choose a collector or become warnings of a client. -/
structure RuntimeProbe where
  safeAttach : Bool := false
  bpfRuntimeMetrics : Bool := false
  daePreemptsBpfIngress : Bool := false
  nfConntrackAcct : Bool := false
  nssPresent : Bool := false
  nssEcmActive : Bool := false
  nssEcmDirectSupported : Bool := false
  flowtableCounter : Bool := false
  hardwareFlowOffload : Bool := false
  softwareFlowOffload : Bool := false
  nlbwmon : Bool := false
  openclash : Bool := false
  openclashFakeIp : Bool := false
  openclashTunMix : Bool := false
  openclashDnsChainIncomplete : Bool := false
  openclashRouterSelfProxy : Bool := false
  openclashUdpProxy : Bool := false
  dae : Bool := false
  homeproxy : Bool := false
  sqm : Bool := false
  qosify : Bool := false
  ifb : Bool := false
  probeError : Bool := false
  lanProbeError : Bool := false
deriving DecidableEq, Repr

/-- The fields of `struct lanspeed_bpf_status` that the Full-mode gate reads. -/
structure LanspeedBpfReadStatus where
  objectLoaded : Bool := false
  anyAttached : Bool := false
  lastReadOk : Bool := false
  lastReadMonotonicMs : UInt64 := 0
deriving DecidableEq, Repr

/-- `lanspeed_bpf_runtime_ok`, at the clock value `now`. -/
def lanspeedBpfRuntimeOk (status : LanspeedBpfReadStatus) (now freshnessMs : UInt64) : Bool :=
  if !status.objectLoaded then false
  else if !status.anyAttached then false
  else if !status.lastReadOk then false
  else if freshnessMs = 0 then true
  else if now < status.lastReadMonotonicMs then false
  else now - status.lastReadMonotonicMs ≤ freshnessMs

/-- `rate_collector_mode_allows_bpf`. -/
def rateCollectorModeAllowsBpf (cfg : CollectorConfig) : Bool :=
  cfg.rateCollectorMode == .auto || cfg.rateCollectorMode == .bpf

/-- `rate_collector_mode_allows_conntrack_sync`. -/
def rateCollectorModeAllowsConntrackSync (cfg : CollectorConfig) : Bool :=
  cfg.rateCollectorMode == .auto

/-- `conn_collector_mode_is_forced`. -/
def connCollectorModeIsForced (cfg : CollectorConfig) : Bool :=
  cfg.connCollectorMode == .conntrackNetlink || cfg.connCollectorMode == .conntrackProcfs

/-- `bpf_runtime_metrics_available`. -/
def bpfRuntimeMetricsAvailable (cfg : CollectorConfig) (bpfRuntimeEnabled : Bool)
    (status : LanspeedBpfReadStatus) (now : UInt64) (probe : RuntimeProbe) : Bool :=
  if !cfg.enableBpf || !rateCollectorModeAllowsBpf cfg || !bpfRuntimeEnabled then false
  else if !probe.safeAttach then false
  else
    let freshness := UInt64.ofInt cfg.refreshIntervalMs * 3
    let freshness := if freshness = 0 then UInt64.ofInt defaultRefreshIntervalMs * 3 else freshness
    lanspeedBpfRuntimeOk status now freshness

/-- `nss_conntrack_sync_preferred`. -/
def nssConntrackSyncPreferred (cfg : CollectorConfig) (probe : RuntimeProbe) : Bool :=
  rateCollectorModeAllowsConntrackSync cfg && probe.nfConntrackAcct && probe.nssPresent &&
    probe.nssEcmActive

/-- `nss_ecm_direct_preferred`. -/
def nssEcmDirectPreferred (cfg : CollectorConfig) (probe : RuntimeProbe) : Bool :=
  rateCollectorModeAllowsConntrackSync cfg && probe.nssPresent && probe.nssEcmActive &&
    probe.nssEcmDirectSupported

/-- `conntrack_primary_preferred`. -/
def conntrackPrimaryPreferred (cfg : CollectorConfig) (probe : RuntimeProbe) : Bool :=
  nssEcmDirectPreferred cfg probe || nssConntrackSyncPreferred cfg probe

/-- `conntrack_fallback_active`. -/
def conntrackFallbackActive (cfg : CollectorConfig) (probe : RuntimeProbe) : Bool :=
  (cfg.enableConntrackFallback || connCollectorModeIsForced cfg) &&
    conntrackPrimaryPreferred cfg probe && !nssEcmDirectPreferred cfg probe &&
    probe.nfConntrackAcct

/-- `conntrack_clients_read_active`. -/
def conntrackClientsReadActive (cfg : CollectorConfig) (probe : RuntimeProbe) : Bool :=
  if conntrackFallbackActive cfg probe then true
  else if nssEcmDirectPreferred cfg probe then
    (cfg.enableConntrackFallback || connCollectorModeIsForced cfg) &&
      nssConntrackSyncPreferred cfg probe
  else false

/-- `conntrack_fallback_low_confidence`. -/
def conntrackFallbackLowConfidence (cfg : CollectorConfig) (probe : RuntimeProbe) : Bool :=
  let hwOffNonNss := probe.hardwareFlowOffload && !nssConntrackSyncPreferred cfg probe
  conntrackFallbackActive cfg probe &&
    (!probe.flowtableCounter || probe.softwareFlowOffload || hwOffNonNss ||
      probe.openclashFakeIp || probe.openclashTunMix || probe.openclashRouterSelfProxy ||
      probe.openclashUdpProxy || probe.dae || probe.homeproxy || probe.sqm || probe.qosify ||
      probe.ifb || probe.nlbwmon || probe.probeError || probe.lanProbeError)

/-- `conntrack_fallback_confidence`. -/
def conntrackFallbackConfidence (cfg : CollectorConfig) (probe : RuntimeProbe) : CStr :=
  if !conntrackFallbackActive cfg probe then "unsupported".toList
  else if conntrackFallbackLowConfidence cfg probe then "low".toList
  else "medium".toList

end Lanspeed
