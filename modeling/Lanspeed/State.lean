import Lanspeed.Identity
import Lanspeed.Lib.RingBuffer
import Mathlib.Data.Int.Notation

/-!
# The state of the collectors

The static variables of `lanspeedd.c` that the collectors keep between calls, and the configuration
they read. An array with a count is a list.
-/

namespace Lanspeed

/-- `enum collector_mode_setting`. -/
inductive CollectorModeSetting where
  | auto
  | bpf
  | conntrackNetlink
  | conntrackProcfs
deriving DecidableEq, Repr

/-- `DEFAULT_REFRESH_INTERVAL_MS`. -/
def defaultRefreshIntervalMs : ℤ := 1000

/-- The configuration that the collectors read. -/
structure CollectorConfig where
  enableBpf : Bool := false
  enableConntrackFallback : Bool := true
  rateCollectorMode : CollectorModeSetting := .auto
  connCollectorMode : CollectorModeSetting := .auto
  refreshIntervalMs : ℤ := defaultRefreshIntervalMs
  maxClients : ℤ := 2048
  activeClientWindowMs : UInt64 := 10000
  activeClientMinBps : UInt64 := 1
deriving DecidableEq, Repr

/-- The number of clients that a snapshot may hold (`max_folded`, `max_samples`). -/
def CollectorConfig.maxSamples (cfg : CollectorConfig) : ℕ :=
  if 0 < cfg.maxClients ∧ cfg.maxClients < defaultMaxClients then cfg.maxClients.toNat
  else defaultMaxClients

/-- `struct arp_entry`. -/
structure ArpEntry where
  ip : CStr
  mac : CStr
  ifname : CStr
  zone : CStr
deriving DecidableEq, Repr

/-- `struct bpf_client_sample`. -/
structure BpfClientSample where
  mac : CStr
  identityKey : CStr
  zone : CStr
  ifname : CStr
  ips : List CStr := []
  txBytes : UInt64 := 0
  rxBytes : UInt64 := 0
  lastSeenMs : UInt64 := 0
  tcpConns : UInt32 := 0
  udpConns : UInt32 := 0
deriving DecidableEq, Repr

/-- `struct conntrack_client_sample`. -/
structure ConntrackClientSample where
  mac : CStr
  identityKey : CStr
  zone : CStr
  ifname : CStr
  ips : List CStr := []
  txBytes : UInt64 := 0
  rxBytes : UInt64 := 0
  lastSeenMs : UInt64 := 0
  tcpConns : UInt32 := 0
  udpConns : UInt32 := 0
  udpDnsConns : UInt32 := 0
  udpOtherConns : UInt32 := 0
deriving DecidableEq, Repr

/-- The snapshot that a conntrack-like collector keeps: `previous_conntrack_*`, and
`previous_nss_ecm_direct_*`. -/
structure PreviousSnapshot where
  samples : List ConntrackClientSample := []
  snapshotMs : UInt64 := 0
  valid : Bool := false
deriving DecidableEq, Repr

/-- `struct coverage_sample`. -/
structure CoverageSample where
  tsMs : UInt64 := 0
  ifaceRxBytes : UInt64 := 0
  ifaceTxBytes : UInt64 := 0
  clientRxBytes : UInt64 := 0
  clientTxBytes : UInt64 := 0
  ifaceValid : Bool := false
  clientValid : Bool := false
deriving DecidableEq, Repr

/-- `LANSPEED_COVERAGE_WINDOW`. -/
def lanspeedCoverageWindow : ℕ := 16

/-- The coverage ring. -/
abbrev CoverageRing := RingBuffer CoverageSample lanspeedCoverageWindow

/-- `LANSPEED_OVERVIEW_WINDOW`. -/
def lanspeedOverviewWindow : ℕ := 240

/-- `struct overview_sample`. -/
structure OverviewSample where
  tsMs : UInt64 := 0
  txBps : UInt64 := 0
  rxBps : UInt64 := 0
  tcpConns : UInt32 := 0
  udpConns : UInt32 := 0
  udpDnsConns : UInt32 := 0
  udpOtherConns : UInt32 := 0
  activeClients : UInt32 := 0
  clientCount : UInt32 := 0
deriving DecidableEq, Repr

/-- The overview ring. -/
abbrev OverviewRing := RingBuffer OverviewSample lanspeedOverviewWindow

/-- The static variables of the collectors. -/
structure CollectorState where
  bpfRuntimeEnabled : Bool
  bpfCurrentSamples : List BpfClientSample
  bpfCurrentSnapshotMs : UInt64
  bpfPreviousSamples : List BpfClientSample
  bpfPreviousSnapshotMs : UInt64
  bpfPreviousSnapshotValid : Bool
  previousConntrack : PreviousSnapshot
  previousNssEcmDirect : PreviousSnapshot
  coverageRing : CoverageRing
  overviewRing : OverviewRing

/-- The static variables at program start, with the BPF runtime on or off. -/
def CollectorState.init (bpfRuntimeEnabled : Bool) : CollectorState :=
  { bpfRuntimeEnabled
    bpfCurrentSamples := []
    bpfCurrentSnapshotMs := 0
    bpfPreviousSamples := []
    bpfPreviousSnapshotMs := 0
    bpfPreviousSnapshotValid := false
    previousConntrack := {}
    previousNssEcmDirect := {}
    coverageRing := RingBuffer.init {} (by decide)
    overviewRing := RingBuffer.init {} (by decide) }

/-- `bpf_runtime_reset_rate_state`. -/
def bpfRuntimeResetRateState (st : CollectorState) : CollectorState :=
  { st with
    bpfCurrentSamples := []
    bpfCurrentSnapshotMs := 0
    bpfPreviousSamples := []
    bpfPreviousSnapshotMs := 0
    bpfPreviousSnapshotValid := false
    coverageRing := st.coverageRing.clear }

end Lanspeed
