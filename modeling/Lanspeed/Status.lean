import Lanspeed.Anomaly
import Lanspeed.Config
import Lanspeed.Inspect

/-!
# The status reply

`status_method` and `health_method` inspect the router and publish a mode, a confidence, the
capabilities and the warnings that the passes of `inspect_runtime` add. The evidence and the list of
conflicts are left out.

A failure of a source is warned of, whichever it is (`probe_error_iff`). The mode is Full when live
metrics are announced, up to the clock values at which the gate of the BPF collector is asked
(`live_metrics_announced`).
-/

namespace Lanspeed

open CText (contains)

/-! ## The warnings of the passes -/

/-- Whether a warning is among those that are flagged. -/
def raised (warning : String) (flagged : List (Bool × String)) : Bool :=
  flagged.any fun w => w.1 && w.2 == warning

/-- Whether a help command fails without a word. -/
def helpFails (r : Router) (command : CStr) : Bool :=
  let (exitCode, output) := r.runCommandCapture command
  exitCode ≠ 0 && output.isEmpty

/-- Whether a device cannot be shown for a reason other than that it has no filters. -/
def tcShowFails (r : Router) (shown : CStr × CStr) : Bool :=
  let (exitCode, output) := r.runCommandCapture (tcFilterShow shown.1 shown.2)
  exitCode ≠ 0 && !contains output "Cannot".toList && !contains output "No such".toList

/-- Whether there is no UCI context for a package. -/
def uciFails (r : Router) (package : CStr) : Bool := (r.uciLoad package).isNone

/-- Whether a command fails. -/
def commandFails (r : Router) (command : CStr) : Bool := (r.runCommandCapture command).1 ≠ 0

/-- The warnings of `inspect_tc`. -/
def tcWarnings (r : Router) (lists : IfaceLists) (p : InspectedProbe) : List (Bool × String) :=
  if !p.tc then []
  else
    let after := inspectTc r lists p
    [(helpFails r "tc filter help 2>&1".toList, "probe_error"),
      (helpFails r "tc qdisc help 2>&1".toList, "probe_error")] ++
    (tcScan r lists).map (fun shown => (tcShowFails r shown, "probe_error")) ++
    [(!after.bpf, "bpf_unsupported"), (!after.tcClsact, "tc_clsact_unsupported"),
      (after.existingTcFilters, "existing_tc_filters_detected")]

/-- The warnings of `inspect_files`, with those of `inspect_flowtable_counter`. -/
def filesWarnings (r : Router) (lists : IfaceLists) (p : InspectedProbe) : List (Bool × String) :=
  let acct := r.readFileTrimmed "/proc/sys/net/netfilter/nf_conntrack_acct".toList 64
  let disabled := acct.isSome && acct ≠ some "1".toList
  let failed := commandFails r "nft list flowtables 2>&1".toList
  [(disabled, "nf_conntrack_acct_disabled"), (disabled, "conntrack_acct_disabled")] ++
  if !p.nft then [(true, "flowtable_counter_probe_unavailable"),
    (true, "flowtable_counter_missing")]
  else
    [(!failed && !(inspectFiles r lists p).flowtableCounter, "flowtable_counter_missing"),
      (failed, "probe_error")]

/-- The warnings of `inspect_bpf_assets`. -/
def bpfAssetsWarnings (r : Router) (cfg : CollectorConfig) (p : InspectedProbe) :
    List (Bool × String) :=
  let after := inspectBpfAssets r p
  [(!cfg.enableBpf, "bpf_disabled"), (!after.bpfPackage, "bpf_optional_package_missing"),
    (!after.bpfObject, "bpf_object_missing")]

/-- The warnings of `inspect_ubus`. -/
def ubusWarnings (r : Router) (p : InspectedProbe) : List (Bool × String) :=
  let failed := p.ubus && commandFails r "ubus call network.interface.lan status 2>&1".toList
  [(failed, "probe_error"), (failed, "lan_topology_probe_error")]

/-- The warnings of `inspect_dae_runtime`, at its end. -/
def daeWarnings (after : InspectedProbe) : List (Bool × String) :=
  [(after.tcFilterConflict, "tc_filter_conflict"),
    (after.daePreemptsBpfIngress, "dae_tc_preempts_bpf_ingress")]

/-- The warnings of `inspect_collector_attach_model`, at its end. -/
def attachModelWarnings (cfg : CollectorConfig) (selfHealFailures : UInt64)
    (after : InspectedProbe) : List (Bool × String) :=
  let loaderMissing := cfg.enableBpf && after.safeAttach && !after.bpfRuntimeMetrics
  [(!after.lanEdge, "lan_edge_missing"), (cfg.enableBpf && !after.safeAttach, "unsafe_attach"),
    (after.mapFull, "map_full"), (loaderMissing, "bpf_runtime_loader_unavailable"),
    (loaderMissing, "live_metrics_unavailable"), (selfHealFailures > 0, "bpf_tc_self_heal_failed")]

/-- The packages that `inspect_service_presence` looks for. -/
def servicePackages : List CStr :=
  ["sqm".toList, "qosify".toList, "openclash".toList, "dae".toList,
    "daed".toList, "homeproxy".toList,
    "nlbwmon".toList]

/-- The warnings of `inspect_service_presence`. -/
def serviceWarnings (r : Router) (p : InspectedProbe) : List (Bool × String) :=
  let after := inspectServicePresence r p
  servicePackages.map (fun package => (uciFails r package, "probe_error")) ++
  [(after.openclash && uciFails r "openclash".toList, "probe_error"),
    (after.openclash && uciFails r "dhcp".toList, "probe_error"),
    (after.sqm, "sqm_detected"), (after.qosify, "qosify_detected"),
    (after.openclash, "openclash_detected"),
    (after.openclashFakeIp, "openclash_fake_ip_low_remote_confidence"),
    (after.openclashTunMix, "openclash_tun_conntrack_low_confidence"),
    (after.openclashDnsChainIncomplete, "openclash_dns_chain_incomplete"),
    (after.openclashRouterSelfProxy, "openclash_router_self_proxy_detected"),
    (after.dae, "dae_detected"),
    (after.homeproxy, "homeproxy_detected"), (after.nlbwmon, "nlbwmon_counter_conflict")]

/-! ## What `inspect_nss` finds besides -/

def nssBridgeMgr (r : Router) : Bool := r.fileExists "/sys/module/qca_nss_bridge_mgr".toList

def nssIfbActive (r : Router) : Bool :=
  ["/sys/class/net/nssifb".toList, "/sys/module/nss_ifb".toList,
    "/sys/module/nss-ifb".toList].any r.fileExists

def nssNsmActive (r : Router) : Bool :=
  ["/sys/module/qca_nss_nsm".toList, "/sys/module/nss_nsm".toList,
    "/sys/kernel/debug/qca-nss-nsm".toList].any r.fileExists

def nssDpActive (r : Router) : Bool :=
  ["/sys/module/qca_nss_dp".toList, "/sys/module/nss_dp".toList].any r.fileExists

def nssMcsActive (r : Router) : Bool :=
  ["/sys/module/qca_mcs".toList, "/sys/module/mc_snooping".toList].any r.fileExists

/-! ## A call -/

/-- What a call of `status_method` or `health_method` meets: the router, the daemon, and the clock
values at which the gate of the BPF collector is asked. -/
structure RuntimeCall where
  router            : Router
  cfg               : DaemonConfig
  bpfRuntimeEnabled : Bool
  status            : LanspeedBpfReadStatus
  selfHealFailures  : UInt64 := 0
  inspectMs         : UInt64
  warnMs            : UInt64
  modeMs            : UInt64
  sourceMs          : UInt64
  bpfMs             : UInt64
  liveMs            : UInt64

namespace RuntimeCall

variable (c : RuntimeCall)

def attachInput : AttachModelInput := ⟨c.cfg.collector, c.bpfRuntimeEnabled, c.status, c.inspectMs⟩

/-- The probe after `inspect_firewall_uci`. -/
def afterFirewall : InspectedProbe :=
  inspectFirewallUci c.router (inspectCommandCapabilities c.router {})

/-- The probe after `inspect_tc`. -/
def afterTc : InspectedProbe := inspectTc c.router c.cfg.ifaces c.afterFirewall

/-- The probe after `inspect_files`. -/
def afterFiles : InspectedProbe := inspectFiles c.router c.cfg.ifaces c.afterTc

/-- The probe after `inspect_dae_runtime`. -/
def afterDae : InspectedProbe :=
  inspectDaeRuntime c.router c.cfg.ifaces.attach
    (inspectUbus c.router (inspectBpfAssets c.router c.afterFiles))

/-- The probe after `inspect_collector_attach_model`. -/
def afterAttachModel : InspectedProbe :=
  inspectCollectorAttachModel c.attachInput (inspectNss c.router c.afterDae)

/-- The probe after `inspect_runtime`. -/
def probe : InspectedProbe := inspectRuntime c.router c.cfg.ifaces c.attachInput {}

/-- The services pass is the last one. -/
theorem probe_eq : c.probe = inspectServicePresence c.router c.afterAttachModel := rfl

/-- `bpf_full_available`, at a clock value. -/
def bpfFull (now : UInt64) : Bool :=
  bpfRuntimeMetricsAvailable c.cfg.collector c.bpfRuntimeEnabled c.status now c.probe.toRuntimeProbe

/-- `bpf_primary_active`, at a clock value. -/
def bpfPrimaryActive (now : UInt64) : Bool :=
  rateCollectorModeAllowsBpf c.cfg.collector && c.bpfFull now &&
    !conntrackPrimaryPreferred c.cfg.collector c.probe.toRuntimeProbe

/-- The warnings of `add_nss_ecm_direct_runtime_warnings` and
`add_conntrack_fallback_runtime_warnings`. -/
def runtimeWarnings : List (Bool × String) :=
  let probe := c.probe
  let sync := nssConntrackSyncPreferred c.cfg.collector probe.toRuntimeProbe
  (if nssEcmDirectPreferred c.cfg.collector probe.toRuntimeProbe then
    [(true, "nss_ecm_direct_active"), (c.bpfFull c.warnMs, "nss_prefers_direct")] else []) ++
  if conntrackFallbackActive c.cfg.collector probe.toRuntimeProbe then
    (if sync then [(true, "nss_ecm_sync_cadence"),
      (c.bpfFull c.warnMs, "nss_prefers_conntrack_sync")]
      else [(true, "conntrack_routed_nat_only")]) ++
    [(!probe.flowtableCounter, "flowtable_counter_missing"),
      (probe.nlbwmon, "nlbwmon_counter_conflict")]
  else []

/-- The warnings that `inspect_runtime` adds itself. -/
def ownWarnings : List (Bool × String) :=
  let probe := c.probe
  [(probe.softwareFlowOffload, "software_flow_offload_enabled"),
    (probe.hardwareFlowOffload, "hardware_flow_offload_unsupported"),
    (probe.nssPresent, "nss_detected"),
    (probe.nssEcmActive, "nss_ecm_offload_active"), (probe.nssPpeActive, "nss_ppe_offload_active"),
    (nssIfbActive c.router, "nss_ifb_detected"),
    (c.cfg.ifaces.rejectedNssifbCollect, "nssifb_collect_rejected"),
    (probe.fullcone, "fullcone_detected"), (probe.fullcone, "fullcone_nat_enabled"),
    (c.cfg.refreshIntervalClamped, "refresh_interval_below_minimum"),
    (c.cfg.activeClientWindowClamped, "active_client_window_below_minimum"),
    (c.cfg.activeClientMinBpsClamped, "active_client_min_bps_below_minimum"),
    (c.cfg.overviewWindowSamplesClamped, "overview_window_samples_out_of_range")]

/-- The warnings of `inspect_runtime`, in the order in which they are added. -/
def inspectWarnings : List (Bool × String) :=
  [(!(inspectCommandCapabilities c.router {}).tc, "tc_missing"),
    (uciFails c.router "firewall".toList, "probe_error")] ++
  tcWarnings c.router c.cfg.ifaces c.afterFirewall ++
  filesWarnings c.router c.cfg.ifaces c.afterTc ++
  bpfAssetsWarnings c.router c.cfg.collector c.afterFiles ++
  ubusWarnings c.router (inspectBpfAssets c.router c.afterFiles) ++
  daeWarnings c.afterDae ++
  attachModelWarnings c.cfg.collector c.selfHealFailures c.afterAttachModel ++
  serviceWarnings c.router c.afterAttachModel ++ c.ownWarnings ++ c.runtimeWarnings

/-- `collector_primary_source`, at a clock value. -/
def collectorPrimarySource (now : UInt64) : CStr :=
  if nssEcmDirectPreferred c.cfg.collector c.probe.toRuntimeProbe then "nss_ecm_direct".toList
  else if nssConntrackSyncPreferred c.cfg.collector
    c.probe.toRuntimeProbe then "nss_conntrack_sync".toList
  else if c.bpfPrimaryActive now then "bpf".toList
  else if conntrackFallbackActive c.cfg.collector c.probe.toRuntimeProbe then "conntrack".toList
  else "unsupported".toList

end RuntimeCall

/-! ## The reply -/

/-- The modes of `probe_mode`: `Full`, `Degraded` and `Unsupported`. -/
inductive ProbeMode where
  | full
  | degraded
  | unsupported
deriving DecidableEq, Repr

namespace RuntimeCall

variable (c : RuntimeCall)

/-- `probe_mode`. -/
def probeMode : ProbeMode :=
  let probe := c.probe
  if nssEcmDirectPreferred c.cfg.collector probe.toRuntimeProbe then .full
  else if !probe.tc && !conntrackFallbackActive c.cfg.collector
    probe.toRuntimeProbe then .unsupported
  else if conntrackPrimaryPreferred c.cfg.collector probe.toRuntimeProbe then .degraded
  else if !c.bpfFull c.modeMs then .degraded
  else .full

/-- `probe_confidence`. -/
def probeConfidence : CStr :=
  let probe := c.probe
  if c.probeMode = .full then "high".toList
  else if probe.probeError || probe.lanProbeError then "low".toList
  else if c.probeMode = .unsupported then "unsupported".toList
  else if conntrackFallbackLowConfidence c.cfg.collector probe.toRuntimeProbe then "low".toList
  else "medium".toList

/-- The warnings of the reply. -/
def warnings : List CStr :=
  addWarnings (c.inspectWarnings ++ [(decide (c.probeMode ≠ .full), "live_metrics_unavailable")]) []

/-- The capability `bpf`. -/
def bpfCapability : Bool :=
  c.cfg.collector.enableBpf && c.bpfPrimaryActive c.bpfMs &&
    !nssEcmDirectPreferred c.cfg.collector c.probe.toRuntimeProbe

/-- The capability `live_metrics`. -/
def liveMetrics : Bool :=
  nssEcmDirectPreferred c.cfg.collector c.probe.toRuntimeProbe || c.bpfPrimaryActive c.liveMs

/-- `add_capabilities_from_values`. -/
def capabilities : List (String × Bool) :=
  let probe := c.probe
  [("bpf", c.bpfCapability), ("bpf_package", probe.bpfPackage), ("bpf_object", probe.bpfObject),
    ("bpf_runtime_metrics", probe.bpfRuntimeMetrics),
    ("conntrack_fallback", conntrackFallbackActive c.cfg.collector probe.toRuntimeProbe),
    ("live_metrics", c.liveMetrics), ("fw4", probe.fw4), ("nft", probe.nft),
    ("software_flow_offload", probe.softwareFlowOffload),
    ("hardware_flow_offload", probe.hardwareFlowOffload),
    ("nss", probe.nssPresent), ("nss_ecm_offload", probe.nssEcmActive),
    ("nss_ppe_offload", probe.nssPpeActive),
    ("nss_ecm_direct", nssEcmDirectPreferred c.cfg.collector probe.toRuntimeProbe),
    ("nss_bridge_mgr", nssBridgeMgr c.router), ("nss_ifb", nssIfbActive c.router),
    ("nss_nsm", nssNsmActive c.router),
    ("nss_dp", nssDpActive c.router), ("nss_mcs", nssMcsActive c.router),
    ("fullcone", probe.fullcone),
    ("nf_conntrack_acct", probe.nfConntrackAcct), ("flowtable_counter", probe.flowtableCounter),
    ("tc", probe.tc), ("tc_clsact", probe.tcClsact),
    ("existing_tc_filters", probe.existingTcFilters), ("ifb", probe.ifb),
    ("sqm", probe.sqm), ("qosify", probe.qosify), ("openclash", probe.openclash),
    ("openclash_fake_ip", probe.openclashFakeIp), ("openclash_tun_mix", probe.openclashTunMix),
    ("openclash_redirect_dns", probe.openclashRedirectDns),
    ("openclash_dns_chain_complete", !probe.openclashRedirectDns || probe.openclashDnsmasqChain),
    ("openclash_router_self_proxy", probe.openclashRouterSelfProxy),
    ("openclash_udp_proxy", probe.openclashUdpProxy),
    ("openclash_ipv6", probe.openclashIpv6), ("dae", probe.dae), ("homeproxy", probe.homeproxy),
    ("lan_bridge", probe.lanBridge), ("vlan", probe.vlan), ("wlan", probe.wlan),
    ("lan_edge", probe.lanEdge),
    ("safe_attach", probe.safeAttach), ("map_full", probe.mapFull)]

end RuntimeCall

/-- `CAPABILITY_ORDER` of the page. -/
def capabilityOrder : List String :=
  ["bpf_runtime_metrics", "live_metrics", "bpf", "bpf_package", "bpf_object",
    "tc", "tc_clsact", "safe_attach", "lan_edge", "lan_bridge", "vlan", "wlan",
    "conntrack_fallback", "nf_conntrack_acct", "flowtable_counter",
    "software_flow_offload", "hardware_flow_offload",
    "nss", "nss_dp", "nss_ecm_direct", "nss_ecm_offload", "nss_ppe_offload", "nss_nsm",
    "nss_bridge_mgr", "nss_ifb", "nss_mcs", "fullcone",
    "existing_tc_filters", "ifb", "sqm", "qosify",
    "openclash", "openclash_fake_ip", "openclash_tun_mix", "openclash_redirect_dns",
    "openclash_dns_chain_complete", "openclash_router_self_proxy",
    "openclash_udp_proxy", "openclash_ipv6", "dae", "homeproxy",
    "fw4", "nft", "map_full"]

/-- The page shows every capability that the daemon publishes, and the daemon publishes every one
that the page shows. -/
theorem capabilities_perm_capabilityOrder (c : RuntimeCall) :
    (c.capabilities.map Prod.fst).Perm capabilityOrder := by
  simp only [RuntimeCall.capabilities, List.map_cons, List.map_nil]
  decide

/-! ## What a warning stands for -/

section Warnings

variable {flagged added : List (Bool × String)} {warnings : List CStr} {w : String}

@[simp] theorem raised_nil : raised w [] = false := rfl

@[simp] theorem raised_cons (f : Bool × String) :
    raised w (f :: flagged) = (f.1 && f.2 == w || raised w flagged) := rfl

@[simp] theorem raised_append :
    raised w (flagged ++ added) = (raised w flagged || raised w added) :=
  List.any_append

/-- A warning that every item may raise is raised when one of them raises it. -/
theorem raised_map {α : Type*} (flag : α → Bool) (v : String) (items : List α) :
    raised w (items.map fun item => (flag item, v)) = (items.any flag && v == w) := by
  induction items with
  | nil => rfl
  | cons item items ih =>
    rw [List.map_cons, raised_cons, ih, List.any_cons, Bool.and_or_distrib_right]

/-- A warning is in the array exactly when it was there before or is raised. -/
theorem mem_addWarnings :
    w.toList ∈ addWarnings flagged warnings ↔ w.toList ∈ warnings ∨ raised w flagged = true := by
  induction flagged generalizing warnings with
  | nil => simp [addWarnings]
  | cons f flagged ih =>
    have hstep : addWarnings (f :: flagged) warnings =
        addWarnings flagged (if f.1 then addStringUnique warnings f.2.toList else warnings) := rfl
    rw [hstep, ih, raised_cons]
    cases hflag : f.1 with
    | false => simp
    | true =>
      rw [if_pos rfl, mem_addStringUnique, String.toList_inj, Bool.true_and,
        Bool.or_eq_true, beq_iff_eq, or_assoc, eq_comm (a := w)]

/-- No warning stands in the array twice. -/
theorem nodup_addWarnings (hwarnings : warnings.Nodup) : (addWarnings flagged warnings).Nodup := by
  induction flagged generalizing warnings with
  | nil => exact hwarnings
  | cons f flagged ih =>
    refine ih ?_
    dsimp only
    split_ifs with hflag
    · unfold addStringUnique
      split_ifs with hmem
      · exact hwarnings
      · refine List.nodup_append.mpr ⟨hwarnings, List.nodup_singleton _, ?_⟩
        intro a ha b hb heq
        exact hmem (List.mem_singleton.mp hb ▸ heq ▸ ha)
    · exact hwarnings

end Warnings

/-! ## The errors of the passes -/

/-- The UCI context for the packages that are looked for, and for `dhcp` where OpenClash
is found. -/
def servicesFail (r : Router) : Bool :=
  servicePackages.any (uciFails r) ||
    (r.packageLoads "openclash".toList || r.fileExists "/etc/config/openclash".toList) &&
    uciFails r "dhcp".toList

/-- Whether a source that `inspect_runtime` examines fails. -/
def probeFailed (r : Router) (lists : IfaceLists) : Bool :=
  uciFails r "firewall".toList ||
    r.commandExists "tc".toList && (helpFails r "tc filter help 2>&1".toList ||
      helpFails r "tc qdisc help 2>&1".toList || (tcScan r lists).any (tcShowFails r)) ||
    r.commandExists "nft".toList && commandFails r "nft list flowtables 2>&1".toList ||
    r.commandExists "ubus".toList &&
    commandFails r "ubus call network.interface.lan status 2>&1".toList ||
    servicesFail r

/-- What the passes go by in a probe when they meet an error: whether there was one, and the
commands. -/
def InspectedProbe.errorView (p : InspectedProbe) : Bool × Bool × Bool × Bool :=
  (p.probeError, p.tc, p.nft, p.ubus)

section Errors

variable (r : Router) (lists : IfaceLists) (attach : List CStr) (p : InspectedProbe)

/-- The firewall pass meets an error where uci fails. -/
theorem errorView_inspectFirewallUci :
    (inspectFirewallUci r p).errorView =
      (p.probeError || uciFails r "firewall".toList, p.errorView.2) := by
  have hsection : ∀ p s, (inspectFirewallSection p s).errorView = p.errorView := by
    intro p s
    unfold inspectFirewallSection
    split <;> rfl
  unfold inspectFirewallUci uciFails
  cases r.uciLoad "firewall".toList with
  | none => simp [InspectedProbe.errorView]
  | some package =>
    rw [Option.isNone_some, Bool.or_false]
    cases package with
    | none => rfl
    | some package => exact Loop.foldl_frame InspectedProbe.errorView hsection p _

/-- The lines of a filter listing are no errors. -/
theorem errorView_inspectTcFilterLines (ifname direction output : CStr) :
    (inspectTcFilterLines attach ifname direction output p).errorView = p.errorView := by
  refine Loop.foldl_frame InspectedProbe.errorView (fun p line => ?_) p _
  unfold inspectTcFilterLine
  dsimp only
  split <;> rfl

/-- A listing of one device meets an error where the command fails. -/
theorem errorView_inspectTcDevice (shown : CStr × CStr) :
    (inspectTcDevice r attach p shown).errorView =
      (p.probeError || tcShowFails r shown, p.errorView.2) := by
  unfold inspectTcDevice tcShowFails
  dsimp only
  split_ifs with hshown hfailed
  · rw [errorView_inspectTcFilterLines, decide_eq_false (not_not.mpr hshown.1),
      Bool.false_and, Bool.false_and, Bool.or_false]
    rfl
  · rw [decide_eq_true hfailed.1, hfailed.2.1, hfailed.2.2, Bool.true_and,
      Bool.true_and, Bool.or_true]
    rfl
  · have hok : (decide ((r.runCommandCapture (tcFilterShow shown.1 shown.2)).1 ≠ 0) &&
        !contains (r.runCommandCapture (tcFilterShow shown.1 shown.2)).2 "Cannot".toList &&
        !contains (r.runCommandCapture (tcFilterShow shown.1 shown.2)).2
          "No such".toList) = false := by
      rw [← Bool.not_eq_true]
      simpa [and_assoc] using hfailed
    rw [hok, Bool.or_false]
    rfl

/-- `inspect_tc` shows the devices after the two help commands. -/
theorem inspectTc_eq_foldl (htc : p.tc = true) :
    ∃ q : InspectedProbe, inspectTc r lists p = (tcScan r lists).foldl
      (inspectTcDevice r lists.attach) q ∧
      q.errorView = (p.probeError || (helpFails r "tc filter help 2>&1".toList ||
        helpFails r "tc qdisc help 2>&1".toList), p.errorView.2) := by
  unfold inspectTc
  rw [if_neg (by simp [htc])]
  refine ⟨_, rfl, ?_⟩
  unfold helpFails
  dsimp only
  rw [← Bool.or_assoc]
  rfl

/-- The tc pass meets an error where there is `tc` and a help text or a listing fails. -/
theorem errorView_inspectTc :
    (inspectTc r lists p).errorView =
      (p.probeError || p.tc && (helpFails r "tc filter help 2>&1".toList ||
        helpFails r "tc qdisc help 2>&1".toList ||
        (tcScan r lists).any (tcShowFails r)), p.errorView.2) := by
  by_cases htc : p.tc = true
  · obtain ⟨q, hq, hview⟩ := inspectTc_eq_foldl r lists p htc
    rw [hq, htc, Bool.true_and, ← Bool.or_assoc]
    apply Prod.ext
    · have hflag :
          ∀ (p : InspectedProbe) shown, (inspectTcDevice r lists.attach p shown).errorView.1 =
          (p.errorView.1 || tcShowFails r shown) := by
        intro p shown
        rw [errorView_inspectTcDevice]
        rfl
      rw [Loop.foldl_flag (fun p : InspectedProbe => p.errorView.1) hflag, hview]
    · have hframe : ∀ (p : InspectedProbe) shown,
          (inspectTcDevice r lists.attach p shown).errorView.2 = p.errorView.2 := by
        intro p shown
        rw [errorView_inspectTcDevice]
      rw [Loop.foldl_frame (fun p : InspectedProbe => p.errorView.2) hframe, hview]
  · rw [Bool.not_eq_true] at htc
    rw [inspectTc, htc, Bool.false_and, Bool.or_false]
    rfl

/-- The flowtable pass meets an error where there is `nft` and it fails. -/
theorem errorView_inspectFlowtableCounter :
    (inspectFlowtableCounter r p).errorView =
      (p.probeError || p.nft && commandFails r "nft list flowtables 2>&1".toList,
        p.errorView.2) := by
  unfold inspectFlowtableCounter
  by_cases hnft : p.nft = true
  · have hfails : (p.nft && commandFails r "nft list flowtables 2>&1".toList) =
        commandFails r "nft list flowtables 2>&1".toList := by rw [hnft, Bool.true_and]
    rw [if_neg (by simp [hnft]), hfails]
    rfl
  · have hfails :
        (p.nft && commandFails r "nft list flowtables 2>&1".toList) = false := by simp [hnft]
    rw [if_pos (by simp [hnft]), hfails, Bool.or_false]
    rfl

/-- The pass over the files meets an error only in its flowtable part. -/
theorem errorView_inspectFiles :
    (inspectFiles r lists p).errorView =
      (p.probeError || p.nft && commandFails r "nft list flowtables 2>&1".toList, p.errorView.2) :=
  errorView_inspectFlowtableCounter r
    { p with
      nfConntrackAcct :=
        r.readFileTrimmed "/proc/sys/net/netfilter/nf_conntrack_acct".toList 64 = some "1".toList }

/-- The ubus pass meets an error where there is `ubus` and the call fails. -/
theorem errorView_inspectUbus :
    (inspectUbus r p).errorView =
      (p.probeError || p.ubus &&
        commandFails r "ubus call network.interface.lan status 2>&1".toList,
        p.errorView.2) := by
  unfold inspectUbus
  by_cases hubus : p.ubus = true
  · rw [if_neg (by simp [hubus])]
    split_ifs with hok
    · have hfails : (p.ubus &&
            commandFails r "ubus call network.interface.lan status 2>&1".toList) = false := by
        rw [commandFails, decide_eq_false (not_not.mpr hok), Bool.and_false]
      rw [hfails, Bool.or_false]
      rfl
    · have hfails :
          (p.ubus && commandFails r "ubus call network.interface.lan status 2>&1".toList) =
          true := by
        rw [commandFails, decide_eq_true hok, hubus, Bool.true_and]
      rw [hfails, Bool.or_true]
      rfl
  · have hfails :
        (p.ubus && commandFails r "ubus call network.interface.lan status 2>&1".toList) =
        false := by
      simp [hubus]
    rw [if_pos (by simp [hubus]), hfails, Bool.or_false]
    rfl

/-- The dae pass meets no error. -/
theorem errorView_inspectDaeRuntime : (inspectDaeRuntime r attach p).errorView = p.errorView := by
  have hfiles : (inspectDaeServices r (inspectDaeFiles r p)).errorView = p.errorView := by
    unfold inspectDaeServices
    dsimp only
    split <;> rfl
  have hdevice : ∀ p shown, (inspectDaeDevice r attach p shown).errorView = p.errorView := by
    intro p shown
    unfold inspectDaeDevice
    dsimp only
    split
    · rw [errorView_inspectTcFilterLines]
    · rfl
  have htc : (inspectDaeTc r attach (inspectDaeServices r (inspectDaeFiles r p))).errorView =
      p.errorView := by
    unfold inspectDaeTc
    split
    · exact hfiles
    · exact (Loop.foldl_frame InspectedProbe.errorView hdevice _ daeScan).trans hfiles
  exact htc

/-- The pass over the options of OpenClash. -/
theorem probeError_inspectOpenclash (hopenclash : p.openclash = true) :
    (inspectDnsmasqOpenclashChain r (inspectOpenclashUciOptions r p)).probeError =
      (p.probeError || uciFails r "openclash".toList || uciFails r "dhcp".toList) := by
  have hoptions : (inspectOpenclashUciOptions r p).probeError =
      (p.probeError || uciFails r "openclash".toList) ∧
      (inspectOpenclashUciOptions r p).openclash = true := by
    unfold inspectOpenclashUciOptions uciFails
    cases r.uciLoad "openclash".toList with
    | none => simp [hopenclash]
    | some package =>
      cases package with
      | none => simp [hopenclash]
      | some package =>
        dsimp only
        split <;> simp [hopenclash, inspectOpenclashSection]
  unfold inspectDnsmasqOpenclashChain
  rw [hoptions.2]
  unfold uciFails at hoptions ⊢
  cases r.uciLoad "dhcp".toList with
  | none => simp
  | some package =>
    cases package with
    | none => simpa using hoptions.1
    | some package => simpa using hoptions.1

/-- The pass over the packages meets an error where uci fails for one of them. -/
theorem probeError_inspectPackages :
    (inspectPackages r p).probeError = (p.probeError || servicePackages.any (uciFails r)) := by
  simp only [inspectPackages, inspectPackageUci_eq, servicePackages,
    List.any_cons, List.any_nil, Bool.or_false, uciFails, Bool.or_assoc]

/-- The pass over the packages sees OpenClash in its package or in its file. -/
theorem openclash_inspectPackages :
    (inspectPackages r p).openclash =
      (r.packageLoads "openclash".toList || r.fileExists "/etc/config/openclash".toList) := by
  simp only [inspectPackages, inspectPackageUci_eq]

/-- The passes over the options of OpenClash do not change whether it is there. -/
theorem openclash_inspectOpenclash :
    (inspectDnsmasqOpenclashChain r (inspectOpenclashUciOptions r p)).openclash = p.openclash := by
  have hoptions : (inspectOpenclashUciOptions r p).openclash = p.openclash := by
    unfold inspectOpenclashUciOptions
    split
    · rfl
    · rfl
    · split <;> rfl
  unfold inspectDnsmasqOpenclashChain
  split
  · exact hoptions
  · split <;> exact hoptions

/-- The services pass sees OpenClash in its package or in its file. -/
theorem openclash_inspectServicePresence :
    (inspectServicePresence r p).openclash =
      (r.packageLoads "openclash".toList || r.fileExists "/etc/config/openclash".toList) := by
  unfold inspectServicePresence
  dsimp only
  split
  · rw [openclash_inspectOpenclash, openclash_inspectPackages]
  · rw [openclash_inspectPackages]

/-- The services pass adds the errors of its packages. -/
theorem probeError_inspectServicePresence :
    (inspectServicePresence r p).probeError = (p.probeError || servicesFail r) := by
  have hcovered : uciFails r "openclash".toList = true →
      servicePackages.any (uciFails r) = true := fun h =>
    List.any_eq_true.mpr ⟨_, by decide, h⟩
  unfold inspectServicePresence servicesFail
  dsimp only
  rw [openclash_inspectPackages]
  split_ifs with hopenclash
  · rw [probeError_inspectOpenclash r _ ((openclash_inspectPackages r p).trans hopenclash),
      probeError_inspectPackages, hopenclash, Bool.true_and]
    cases hfails : uciFails r "openclash".toList with
    | false => rw [Bool.or_false, Bool.or_assoc]
    | true => simp [hcovered hfails]
  · rw [probeError_inspectPackages, Bool.not_eq_true] at *
    rw [hopenclash, Bool.false_and, Bool.or_false]

end Errors

namespace RuntimeCall

variable (c : RuntimeCall)

/-- After the first two passes, the probe has the error of the firewall and the three commands. -/
theorem errorView_afterFirewall :
    c.afterFirewall.errorView =
      (uciFails c.router "firewall".toList, c.router.commandExists "tc".toList,
      c.router.commandExists "nft".toList, c.router.commandExists "ubus".toList) := by
  rw [afterFirewall, errorView_inspectFirewallUci]
  rfl

theorem errorView_afterTc : c.afterTc.errorView.2 = c.afterFirewall.errorView.2 := by
  rw [afterTc, errorView_inspectTc]

theorem errorView_afterFiles : c.afterFiles.errorView.2 = c.afterFirewall.errorView.2 := by
  rw [afterFiles, errorView_inspectFiles, errorView_afterTc]

/-- The probe has an error exactly when a source fails. -/
theorem probeError_probe : c.probe.probeError = probeFailed c.router c.cfg.ifaces := by
  have hfirewall := c.errorView_afterFirewall
  have htc : c.afterFirewall.tc = c.router.commandExists "tc".toList := congrArg (·.2.1) hfirewall
  have hnft : c.afterTc.nft = c.router.commandExists "nft".toList :=
    (congrArg (·.2.1) c.errorView_afterTc).trans (congrArg (·.2.2.1) hfirewall)
  have hubus : c.afterFiles.ubus = c.router.commandExists "ubus".toList :=
    (congrArg (·.2.2) c.errorView_afterFiles).trans (congrArg (·.2.2.2) hfirewall)
  have hafterFirewall : c.afterFirewall.probeError = uciFails c.router "firewall".toList :=
    congrArg Prod.fst hfirewall
  have hafterTc : c.afterTc.probeError = (c.afterFirewall.probeError || c.afterFirewall.tc &&
      (helpFails c.router "tc filter help 2>&1".toList ||
        helpFails c.router "tc qdisc help 2>&1".toList ||
        (tcScan c.router c.cfg.ifaces).any (tcShowFails c.router))) :=
    congrArg Prod.fst (errorView_inspectTc c.router c.cfg.ifaces c.afterFirewall)
  have hafterFiles : c.afterFiles.probeError =
      (c.afterTc.probeError || c.afterTc.nft &&
        commandFails c.router "nft list flowtables 2>&1".toList) :=
    congrArg Prod.fst (errorView_inspectFiles c.router c.cfg.ifaces c.afterTc)
  have hafterDae : c.afterDae.probeError = (c.afterFiles.probeError || c.afterFiles.ubus &&
      commandFails c.router "ubus call network.interface.lan status 2>&1".toList) :=
    (congrArg Prod.fst (errorView_inspectDaeRuntime c.router c.cfg.ifaces.attach _)).trans
      (congrArg Prod.fst (errorView_inspectUbus c.router (inspectBpfAssets c.router c.afterFiles)))
  calc c.probe.probeError
    _ = (inspectServicePresence c.router c.afterAttachModel).probeError := by rw [probe_eq]
    _ = (c.afterDae.probeError || servicesFail c.router) :=
      probeError_inspectServicePresence c.router c.afterAttachModel
    _ = probeFailed c.router c.cfg.ifaces := by
      rw [hafterDae, hafterFiles, hafterTc, hafterFirewall, htc, hnft, hubus]
      rfl

/-- The warnings of every pass together raise the one for an error exactly when a source fails. -/
theorem raised_probe_error :
    raised "probe_error" c.inspectWarnings = probeFailed c.router c.cfg.ifaces := by
  have hfirewall := c.errorView_afterFirewall
  have htc : c.afterFirewall.tc = c.router.commandExists "tc".toList := congrArg (·.2.1) hfirewall
  have hnft : c.afterTc.nft = c.router.commandExists "nft".toList :=
    (congrArg (·.2.1) c.errorView_afterTc).trans (congrArg (·.2.2.1) hfirewall)
  have hubus :
      (inspectBpfAssets c.router c.afterFiles).ubus = c.router.commandExists "ubus".toList :=
    (congrArg (·.2.2) c.errorView_afterFiles).trans (congrArg (·.2.2.2) hfirewall)
  have htcWarnings : raised "probe_error" (tcWarnings c.router c.cfg.ifaces c.afterFirewall) =
      (c.afterFirewall.tc && (helpFails c.router "tc filter help 2>&1".toList ||
        helpFails c.router "tc qdisc help 2>&1".toList ||
        (tcScan c.router c.cfg.ifaces).any (tcShowFails c.router))) := by
    unfold tcWarnings
    cases c.afterFirewall.tc with
    | false => rfl
    | true =>
      dsimp only [Bool.not_true]
      rw [if_neg (by decide)]
      simp only [raised_append, raised_cons, raised_nil, raised_map,
        String.reduceBEq, Bool.and_true, Bool.and_false, Bool.or_false,
        Bool.true_and, Bool.or_assoc]
  have hfilesWarnings : raised "probe_error" (filesWarnings c.router c.cfg.ifaces c.afterTc) =
      (c.afterTc.nft && commandFails c.router "nft list flowtables 2>&1".toList) := by
    unfold filesWarnings
    cases c.afterTc.nft with
    | false => simp only [Bool.not_false, if_true, raised_append,
        raised_cons, raised_nil, String.reduceBEq, Bool.and_false, Bool.or_false, Bool.false_and]
    | true => simp only [Bool.not_true, Bool.false_eq_true, if_false,
        raised_append, raised_cons, raised_nil, String.reduceBEq,
        Bool.and_true, Bool.and_false, Bool.or_false, Bool.false_or, Bool.true_and]
  have hserviceWarnings : raised "probe_error" (serviceWarnings c.router c.afterAttachModel) =
      servicesFail c.router := by
    have hcovered : uciFails c.router "openclash".toList = true →
        servicePackages.any (uciFails c.router) = true :=
      fun h => List.any_eq_true.mpr ⟨_, by decide, h⟩
    unfold serviceWarnings servicesFail
    dsimp only
    rw [raised_append, raised_map, openclash_inspectServicePresence]
    simp only [raised_cons, raised_nil, String.reduceBEq, Bool.and_true,
      Bool.and_false, Bool.or_false]
    cases hfails : uciFails c.router "openclash".toList with
    | false => rw [Bool.and_false, Bool.false_or]
    | true => simp only [hcovered hfails, Bool.true_or]
  have hruntimeWarnings : raised "probe_error" c.runtimeWarnings = false := by
    unfold runtimeWarnings
    dsimp only
    split_ifs <;> simp only [raised_append, raised_cons, raised_nil,
      String.reduceBEq, Bool.and_false, Bool.or_false]
  simp only [inspectWarnings, raised_append, htcWarnings, hfilesWarnings,
    hserviceWarnings, hruntimeWarnings, htc, hnft]
  simp only [bpfAssetsWarnings, ubusWarnings, daeWarnings, attachModelWarnings,
    ownWarnings, raised_cons, raised_nil, String.reduceBEq, Bool.and_true,
    Bool.and_false, Bool.or_false, Bool.false_or, hubus]
  rfl

end RuntimeCall

/-- A failing source is warned of, and the confidence is low unless the mode is Full. -/
theorem probe_error_iff (c : RuntimeCall) :
    ("probe_error".toList ∈ c.warnings ↔ probeFailed c.router c.cfg.ifaces = true) ∧
      (probeFailed c.router c.cfg.ifaces = true →
        c.probeConfidence = if c.probeMode = .full then "high".toList else "low".toList) := by
  constructor
  · rw [RuntimeCall.warnings, mem_addWarnings, or_iff_right List.not_mem_nil,
      raised_append, c.raised_probe_error]
    simp
  · intro hfailed
    unfold RuntimeCall.probeConfidence
    dsimp only
    rw [c.probeError_probe, hfailed, Bool.true_or, if_pos rfl]

/-! ## Live metrics -/

/-- What the services pass leaves of the attach model. -/
def InspectedProbe.attachView (p : InspectedProbe) : Bool × Bool × Bool :=
  (p.tc, p.safeAttach, p.bpfRuntimeMetrics)

/-- The services pass leaves the attach model as it is. -/
theorem attachView_inspectServicePresence (r : Router) (p : InspectedProbe) :
    (inspectServicePresence r p).attachView = p.attachView := by
  have hpackages : (inspectPackages r p).attachView = p.attachView := by
    simp only [inspectPackages, inspectPackageUci_eq]
    rfl
  have hoptions : ∀ p, (inspectOpenclashUciOptions r p).attachView = p.attachView := by
    intro p
    unfold inspectOpenclashUciOptions
    split
    · rfl
    · rfl
    · split <;> rfl
  have hchain : ∀ p, (inspectDnsmasqOpenclashChain r p).attachView = p.attachView := by
    intro p
    unfold inspectDnsmasqOpenclashChain
    split
    · rfl
    · split <;> rfl
  unfold inspectServicePresence
  dsimp only
  split
  · rw [hchain, hoptions, hpackages]
  · exact hpackages

namespace RuntimeCall

variable (c : RuntimeCall)

/-- What the probe says of the attach is what the attach model said. -/
theorem attachView_probe : c.probe.attachView = c.afterAttachModel.attachView := by
  rw [probe_eq, attachView_inspectServicePresence]

/-- The attach is safe only where there is `tc`. -/
theorem tc_of_safeAttach (h : c.probe.safeAttach = true) : c.probe.tc = true := by
  have hview := c.attachView_probe
  have hsafe : c.afterAttachModel.safeAttach = true := (congrArg (·.2.1) hview).symm.trans h
  have htc : c.probe.tc = c.afterAttachModel.tc := congrArg Prod.fst hview
  rw [htc]
  simp only [afterAttachModel, inspectCollectorAttachModel, Bool.and_eq_true] at hsafe ⊢
  exact hsafe.1.1.1.1.1.1.1.2

/-- The gate of the BPF collector opens only for a safe attach in a mode that allows it. -/
theorem of_bpfFull {now : UInt64} (h : c.bpfFull now = true) :
    rateCollectorModeAllowsBpf c.cfg.collector = true ∧ c.probe.safeAttach = true := by
  unfold bpfFull bpfRuntimeMetricsAvailable at h
  split_ifs at h with hoff hunsafe
  simp only [Bool.or_eq_true, Bool.not_eq_true', not_or, Bool.not_eq_false] at hoff hunsafe
  exact ⟨hoff.1.2, hunsafe⟩

/-- BPF is the primary source where its metrics are live and conntrack is not preferred. -/
theorem bpfPrimaryActive_eq (now : UInt64) :
    c.bpfPrimaryActive now =
      (c.bpfFull now && !conntrackPrimaryPreferred c.cfg.collector c.probe.toRuntimeProbe) := by
  unfold bpfPrimaryActive
  cases hfull : c.bpfFull now with
  | false => rw [Bool.and_false, Bool.false_and]
  | true => rw [(c.of_bpfFull hfull).1, Bool.true_and]

/-- Without the direct ECM source, only the NSS sync can be preferred to BPF. -/
theorem bpfPrimaryActive_of_not_direct (now : UInt64)
    (h : nssEcmDirectPreferred c.cfg.collector c.probe.toRuntimeProbe = false) :
    c.bpfPrimaryActive now =
      (c.bpfFull now && !nssConntrackSyncPreferred c.cfg.collector c.probe.toRuntimeProbe) := by
  rw [c.bpfPrimaryActive_eq, conntrackPrimaryPreferred, h, Bool.false_or]

/-- The mode is Full under NSS direct, or where the gate of the BPF collector is open and conntrack
is not preferred. -/
theorem probeMode_eq_full_iff :
    c.probeMode = .full ↔ nssEcmDirectPreferred c.cfg.collector c.probe.toRuntimeProbe = true ∨
      c.bpfPrimaryActive c.modeMs = true := by
  unfold probeMode
  rw [c.bpfPrimaryActive_eq]
  dsimp only
  split_ifs with hdirect hunsupported hconntrack hclosed
  · simp [hdirect]
  · simp only [Bool.and_eq_true, Bool.not_eq_true'] at hunsupported
    have hclosed : c.bpfFull c.modeMs = false := by
      rw [← Bool.not_eq_true]
      intro hfull
      have htc := c.tc_of_safeAttach (c.of_bpfFull hfull).2
      exact absurd (htc.symm.trans hunsupported.1) (by decide)
    simp [hdirect, hclosed]
  · simp [hdirect, hconntrack]
  · simp only [Bool.not_eq_true'] at hclosed
    simp [hdirect, hclosed]
  · simp only [Bool.not_eq_true', Bool.not_eq_false] at hclosed
    simp [hclosed, hconntrack]

/-- The confidence is high exactly in the full mode. -/
theorem probeConfidence_eq_high_iff : c.probeConfidence = "high".toList ↔ c.probeMode = .full := by
  unfold probeConfidence
  dsimp only
  split_ifs with hfull
  · simp [hfull]
  all_goals simp only [hfull, iff_false]; decide

/-- The attach model warns where the attach is safe but nothing is read. -/
theorem raised_live_metrics_unavailable :
    raised "live_metrics_unavailable" c.inspectWarnings =
      (c.cfg.collector.enableBpf && c.probe.safeAttach && !c.probe.bpfRuntimeMetrics) := by
  have hview := c.attachView_probe
  have hsafe : c.probe.safeAttach = c.afterAttachModel.safeAttach := congrArg (·.2.1) hview
  have hmetrics : c.probe.bpfRuntimeMetrics = c.afterAttachModel.bpfRuntimeMetrics :=
    congrArg (·.2.2) hview
  have htc : raised "live_metrics_unavailable" (tcWarnings c.router c.cfg.ifaces c.afterFirewall) =
      false := by
    unfold tcWarnings
    dsimp only
    split_ifs
    · rfl
    · simp only [raised_append, raised_cons, raised_nil, raised_map,
        String.reduceBEq, Bool.and_false, Bool.or_false]
  have hfiles : raised "live_metrics_unavailable" (filesWarnings c.router c.cfg.ifaces c.afterTc) =
      false := by
    unfold filesWarnings
    dsimp only
    split_ifs <;> simp only [raised_append, raised_cons, raised_nil,
      String.reduceBEq, Bool.and_false, Bool.or_false]
  have hruntime : raised "live_metrics_unavailable" c.runtimeWarnings = false := by
    unfold runtimeWarnings
    dsimp only
    split_ifs <;> simp only [raised_append, raised_cons, raised_nil,
      String.reduceBEq, Bool.and_false, Bool.or_false]
  simp only [inspectWarnings, raised_append, htc, hfiles, hruntime, hsafe, hmetrics]
  simp only [bpfAssetsWarnings, ubusWarnings, daeWarnings, attachModelWarnings,
    serviceWarnings, ownWarnings, raised_append, raised_map, raised_cons,
    raised_nil, String.reduceBEq, Bool.and_true, Bool.and_false, Bool.or_false, Bool.false_or]

end RuntimeCall

/-- What the status says of live metrics: the mode, the confidence and the capability agree, up to
the clock values at which the gate is asked, and the warning is there without them, and where BPF is
safe to attach but nothing is read. -/
theorem live_metrics_announced (c : RuntimeCall) :
    ((c.probeMode = .full ↔ c.liveMetrics = true) ↔
        (conntrackPrimaryPreferred c.cfg.collector c.probe.toRuntimeProbe = true ∨
          c.bpfFull c.modeMs = c.bpfFull c.liveMs)) ∧
      (c.probeConfidence = "high".toList ↔ c.probeMode = .full) ∧
      ("live_metrics_unavailable".toList ∈ c.warnings ↔ c.probeMode ≠ .full ∨
        c.cfg.collector.enableBpf = true ∧ c.probe.safeAttach = true ∧
        c.probe.bpfRuntimeMetrics = false) ∧
      c.warnings.Nodup := by
  refine ⟨?_, c.probeConfidence_eq_high_iff, ?_, nodup_addWarnings List.nodup_nil⟩
  · rw [c.probeMode_eq_full_iff, RuntimeCall.liveMetrics, Bool.or_eq_true,
      c.bpfPrimaryActive_eq, c.bpfPrimaryActive_eq]
    cases hprimary : conntrackPrimaryPreferred c.cfg.collector c.probe.toRuntimeProbe with
    | true => simp
    | false =>
      have hdirect : nssEcmDirectPreferred c.cfg.collector c.probe.toRuntimeProbe = false :=
        (Bool.or_eq_false_iff.mp hprimary).1
      rw [hdirect]
      cases c.bpfFull c.modeMs <;> cases c.bpfFull c.liveMs <;> decide
  · rw [RuntimeCall.warnings, mem_addWarnings, or_iff_right List.not_mem_nil, raised_append,
      c.raised_live_metrics_unavailable]
    simp [or_comm, and_assoc]

end Lanspeed
