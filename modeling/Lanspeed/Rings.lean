import Lanspeed.Methods
import Lanspeed.Lib.Machine

/-!
# The two rings of samples

`coverage_push_sample` and `overview_push_from_clients` fill the two rings,
`bpf_runtime_reset_rate_state` and a counter reset in `add_coverage_to_status` clear the coverage
ring, and `coverage_sample_at`, `overview_sample_at` and `overview_method` read them. Between these
calls the rest of the daemon may do anything to the other variables (`rings_hold_newest`).
-/

namespace Lanspeed

/-! ## Reading the rings -/

/-- `coverage_sample_at`. -/
def coverageSampleAt (st : CollectorState) (idxBack : ℕ) : Option CoverageSample :=
  st.coverageRing.sampleAt idxBack

/-- `overview_sample_at`. -/
def overviewSampleAt (st : CollectorState) (idxBack : ℕ) : Option OverviewSample :=
  st.overviewRing.sampleAt idxBack

/-- `MIN_OVERVIEW_WINDOW_SAMPLES`. -/
def minOverviewWindowSamples : ℕ := 2

/-- `overview_window_samples`, in the range in which `load_config` keeps it. -/
structure OverviewWindow where
  samples : ℕ := lanspeedOverviewWindow
  min_le : minOverviewWindowSamples ≤ samples := by decide
  le_max : samples ≤ lanspeedOverviewWindow := by decide

/-- A sample of an overview reply. -/
structure OverviewSampleJson where
  sampleMs : ℤ
  txBps : ℤ
  rxBps : ℤ
  clientCount : ℤ
  activeClients : ℤ
  tcpConns : ℤ
  udpConns : ℤ
  udpDnsConns : ℤ
  udpOtherConns : ℤ
deriving DecidableEq, Repr

/-- The object that `overview_method` makes of a sample. -/
def overviewSampleJson (s : OverviewSample) : OverviewSampleJson :=
  { sampleMs := jsonInt64 s.tsMs
    txBps := jsonInt64 s.txBps
    rxBps := jsonInt64 s.rxBps
    clientCount := s.clientCount.toInt32.toInt
    activeClients := s.activeClients.toInt32.toInt
    tcpConns := s.tcpConns.toInt32.toInt
    udpConns := s.udpConns.toInt32.toInt
    udpDnsConns := s.udpDnsConns.toInt32.toInt
    udpOtherConns := s.udpOtherConns.toInt32.toInt }

/-- An overview reply. -/
structure OverviewReply where
  samples : List OverviewSampleJson
  maxSamples : ℕ := lanspeedOverviewWindow
  overviewWindowSamples : ℕ
  activeClientWindowMs : ℤ
  activeClientMinBps : ℤ
  sampleSource : CStr := "clients_refresh_daemon_ring".toList
  connSemantics : CStr := "conntrack_current_tcp_established_assured_udp_tracked_dns_split".toList
deriving DecidableEq, Repr

/-- `overview_method`: the loop runs from the oldest stored sample to the newest. -/
def overviewMethod (cfg : CollectorConfig) (window : OverviewWindow) (st : CollectorState) :
    OverviewReply :=
  { samples := (List.range st.overviewRing.count).reverse.filterMap fun back =>
      if back + 1 > window.samples then none else (overviewSampleAt st back).map overviewSampleJson
    overviewWindowSamples := window.samples
    activeClientWindowMs := jsonInt64 cfg.activeClientWindowMs
    activeClientMinBps := jsonInt64 cfg.activeClientMinBps }

/-! ## Runs -/

/-- What happens to the rings, and to the variables beside them. -/
inductive RingEvent where
  | coveragePush (nowMs : UInt64) (probe : RuntimeProbe) (ifaces : List IfaceStatistics)
  | coverageReport (probe : RuntimeProbe)
  | resetRateState
  | overviewPush (nowMs : UInt64) (totals : ConnTotals) (clients : List ClientJson)
  | elsewhere (st : CollectorState)

/-- The state with the samples that were pushed, newest first: for the coverage ring those since its
last reset. -/
structure RingRun where
  st : CollectorState
  coverage : List CoverageSample
  overview : List OverviewSample

/-- One event. -/
def ringStep (cfg : CollectorConfig) (run : RingRun) : RingEvent → RingRun
  | .coveragePush nowMs probe ifaces =>
    { run with
      st := coveragePushSample cfg nowMs probe ifaces run.st
      coverage := coverageSampleOf cfg run.st nowMs probe ifaces :: run.coverage }
  | .coverageReport probe =>
    let (report, ring) := addCoverageToStatus cfg run.st.bpfRuntimeEnabled probe run.st.coverageRing
    { run with
      st := { run.st with coverageRing := ring }
      coverage := if report.quality = .counterReset then [] else run.coverage }
  | .resetRateState => { run with st := bpfRuntimeResetRateState run.st, coverage := [] }
  | .overviewPush nowMs totals clients =>
    { run with
      st := { run.st with
        overviewRing := overviewPushFromClients cfg nowMs totals clients run.st.overviewRing }
      overview := overviewSampleOf cfg nowMs totals clients :: run.overview }
  | .elsewhere st =>
    { run with
      st := { st with coverageRing := run.st.coverageRing, overviewRing := run.st.overviewRing } }

/-- The start of the daemon. -/
def RingRun.init (bpfRuntimeEnabled : Bool) : RingRun :=
  ⟨CollectorState.init bpfRuntimeEnabled, [], []⟩

/-- The rings hold the newest of the pushed samples. -/
structure RingsHold (run : RingRun) : Prop where
  coverage : run.st.coverageRing.Represents run.coverage
  overview : run.st.overviewRing.Represents run.overview

/-- A step keeps the rings true to the calls. -/
theorem RingsHold.step (cfg : CollectorConfig) (run : RingRun) (e : RingEvent) (h : RingsHold run) :
    RingsHold (ringStep cfg run e) := by
  cases e with
  | coveragePush nowMs probe ifaces => exact ⟨h.coverage.push _, h.overview⟩
  | coverageReport probe =>
    refine ⟨?_, h.overview⟩
    simp only [ringStep]
    rw [addCoverageToStatus_ring]
    split_ifs
    · exact run.st.coverageRing.represents_clear
    · exact h.coverage
  | resetRateState => exact ⟨run.st.coverageRing.represents_clear, h.overview⟩
  | overviewPush nowMs totals clients => exact ⟨h.coverage, h.overview.push _⟩
  | elsewhere st => exact ⟨h.coverage, h.overview⟩

/-- After every run, both rings hand back the samples by age, those of the coverage ring since
its last reset, and an overview reply has the times, rates and counts of the newest ones,
oldest first. -/
theorem rings_hold_newest (cfg : CollectorConfig) (enabled : Bool) (evs : List RingEvent) :
    let run := Machine.run (ringStep cfg) (RingRun.init enabled) evs
    (∀ i, coverageSampleAt run.st i =
      if i < min run.coverage.length lanspeedCoverageWindow then run.coverage[i]? else none) ∧
    (∀ i, overviewSampleAt run.st i =
      if i < min run.overview.length lanspeedOverviewWindow then run.overview[i]? else none) ∧
    ∀ window : OverviewWindow, (overviewMethod cfg window run.st).samples =
      ((run.overview.take
        (min (min run.overview.length lanspeedOverviewWindow)
          window.samples)).reverse).map fun sample =>
          { sampleMs      := jsonInt64 sample.tsMs
            txBps         := jsonInt64 sample.txBps
            rxBps         := jsonInt64 sample.rxBps
            clientCount   := sample.clientCount.toInt32.toInt
            activeClients := sample.activeClients.toInt32.toInt
            tcpConns      := sample.tcpConns.toInt32.toInt
            udpConns      := sample.udpConns.toInt32.toInt
            udpDnsConns   := sample.udpDnsConns.toInt32.toInt
            udpOtherConns := sample.udpOtherConns.toInt32.toInt } := by
  intro run
  have hholds : RingsHold run := Machine.run_invariant (I := RingsHold) (ringStep cfg)
    (fun run e h => h.step cfg run e) ⟨RingBuffer.represents_init _ _,
      RingBuffer.represents_init _ _⟩ evs
  refine ⟨hholds.coverage.sampleAt_eq_ite, hholds.overview.sampleAt_eq_ite, fun window => ?_⟩
  have hcount := hholds.overview.count_eq
  rw [← hcount, ← hholds.overview.filterMap_range window.samples, List.map_filterMap]
  apply List.filterMap_congr
  intro back _
  rw [overviewSampleAt]
  split_ifs <;> rfl

end Lanspeed
