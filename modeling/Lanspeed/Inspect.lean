import Lanspeed.Probe
import Lanspeed.InterfaceLists
import Lanspeed.Lib.Loop

/-!
# Inspection of the router

`inspect_runtime` fills in `struct runtime_probe` in passes over the commands, the files, the
services and the UCI packages of the router. The evidence objects, warnings and conflicts that the
passes add for the status reply are left out, as no pass reads them.

The dae pass collects the evidence for dae (`inspectDaeRuntime_dae`). The pass over the services
comes after it and starts the flag again from the packages (`inspectRuntime_dae`), so the flag
stands for the evidence exactly when a package or a configuration file is part of it, or there is
none.
-/

namespace Lanspeed

open CText (contains strstr)

/-! ## What the passes see -/

/-- A section of a UCI package: its type and its options by name. -/
structure UciSection where
  type    : CStr
  options : List (CStr × UciValue)
deriving DecidableEq, Repr

/-- `uci_lookup_option_string`. -/
def UciSection.optionString (s : UciSection) (name : CStr) : Option CStr :=
  match s.options.lookup name with
  | some (.string value) => some value
  | _ => none

/-- The sections of a UCI package. -/
abbrev UciPackage := List UciSection

/-- What the passes find on the router. -/
structure Router where
  commandExists : CStr → Bool
  /-- What a command writes and the status that `pclose` gives for it, when it can be started. -/
  popen         : CStr → Option (CStr × ℤ)
  fileExists    : CStr → Bool
  dirHasEntries : CStr → Bool
  /-- The content of a file that opens. -/
  readFile      : CStr → Option CStr
  /-- `none` when there is no UCI context, `some none` when the package does not load. -/
  uciLoad       : CStr → Option (Option UciPackage)

namespace Router

/-- `COMMAND_OUTPUT_LIMIT`. -/
def commandOutputLimit : ℕ := 4096

/-- `run_command_capture`: the exit code and what fits of the output. -/
def runCommandCapture (r : Router) (command : CStr) : ℤ × CStr :=
  match r.popen command with
  | none => (-1, [])
  | some (output, status) => (status, snprintf commandOutputLimit output)

/-- `read_file_trimmed` with a buffer of `size`. -/
def readFileTrimmed (r : Router) (path : CStr) (size : ℕ) : Option CStr :=
  (r.readFile path).bind fun content => (CText.fgetsLines size content).head?.map CText.trimEnd

/-- Whether a UCI package loads. -/
def packageLoads (r : Router) (package : CStr) : Bool := (r.uciLoad package).join.isSome

end Router

/-! ## The probe -/

/-- An entry of `probe->tc_filters`. -/
structure DetectedTcFilter where
  interface : CStr
  direction : CStr
  pref      : CStr
  handle    : CStr
  owner     : CStr
deriving DecidableEq, Repr

/-- The fields of `struct runtime_probe` that the passes fill in. -/
structure InspectedProbe extends RuntimeProbe where
  fw4 : Bool := false
  nft : Bool := false
  tc : Bool := false
  ubus : Bool := false
  tcClsact : Bool := false
  bpf : Bool := false
  bpfPackage : Bool := false
  bpfObject : Bool := false
  nssPpeActive : Bool := false
  fullcone : Bool := false
  existingTcFilters : Bool := false
  openclashRedirectDns : Bool := false
  openclashDnsmasqChain : Bool := false
  openclashIpv6 : Bool := false
  daed : Bool := false
  daeConfig : Bool := false
  daedConfig : Bool := false
  daeService : Bool := false
  daedService : Bool := false
  daeIface : Bool := false
  daePeerIface : Bool := false
  daeTcFilters : Bool := false
  daeFwmark : Bool := false
  daeRouteTable : Bool := false
  daeDnsUdp53 : Bool := false
  tcFilterConflict : Bool := false
  lanBridge : Bool := false
  vlan : Bool := false
  wlan : Bool := false
  lanEdge : Bool := false
  mapFull : Bool := false
  tcFilters : List DetectedTcFilter := []
deriving DecidableEq, Repr

/-- `uci_bool_value`. -/
def uciBoolValue (value : Option CStr) : Bool :=
  value = some "1".toList || value = some "true".toList || value = some "on".toList ||
    value = some "yes".toList

/-! ## Commands, firewall and tc -/

/-- `inspect_command_capabilities`. -/
def inspectCommandCapabilities (r : Router) (p : InspectedProbe) : InspectedProbe :=
  { p with
    fw4 := r.commandExists "fw4".toList
    nft := r.commandExists "nft".toList
    tc := r.commandExists "tc".toList
    qosify := r.commandExists "qosify".toList
    ubus := r.commandExists "ubus".toList }

/-- What `inspect_firewall_uci` takes from one section. -/
def inspectFirewallSection (p : InspectedProbe) (s : UciSection) : InspectedProbe :=
  if s.type ≠ "defaults".toList then p
  else
    { p with
      softwareFlowOffload :=
        p.softwareFlowOffload || uciBoolValue (s.optionString "flow_offloading".toList)
      hardwareFlowOffload :=
        p.hardwareFlowOffload || uciBoolValue (s.optionString "flow_offloading_hw".toList)
      fullcone := p.fullcone || uciBoolValue (s.optionString "fullcone".toList) }

/-- `inspect_firewall_uci`. -/
def inspectFirewallUci (r : Router) (p : InspectedProbe) : InspectedProbe :=
  match r.uciLoad "firewall".toList with
  | none => { p with probeError := true }
  | some none => p
  | some (some package) => package.foldl inspectFirewallSection p

/-- `line_contains_lanspeed_filter_conflict`. -/
def lineContainsLanspeedFilterConflict (line : CStr) : Bool :=
  !contains line "lanspeed".toList &&
    (contains line "pref 49152".toList &&
        (contains line "handle 0x1eed".toList || contains line "handle 1eed".toList) ||
      contains line "pref 1".toList &&
        (contains line "handle 0x1eee".toList || contains line "handle 1eee".toList))

/-- `tc_filter_owner_from_line`. -/
def tcFilterOwnerFromLine (line : CStr) : CStr :=
  if contains line "lanspeed".toList then "lanspeed".toList
  else if contains line "dae".toList || contains line "daed".toList ||
    contains line "dae0".toList then
    "dae".toList
  else if contains line "sqm".toList then "sqm".toList
  else if contains line "qosify".toList then "qosify".toList
  else if contains line "ifb".toList then "ifb".toList
  else "unknown".toList

/-- The word that follows a key of a filter line. -/
def filterLineWord (line key : CStr) : CStr :=
  (((strstr key line).bind fun pos => CText.scanField 31 (pos.drop key.length)).map (·.1)).getD
    "unknown".toList

/-- Whether a line of `tc filter show` is about a filter. -/
def isFilterLine (line : CStr) : Bool := contains line "filter".toList || contains line "bpf".toList

/-- What `inspect_tc_filter_lines` does for one line. -/
def inspectTcFilterLine (attach : List CStr) (ifname direction : CStr) (p : InspectedProbe)
    (line : CStr) : InspectedProbe :=
  let pref := filterLineWord line "pref ".toList
  let handle := filterLineWord line "handle ".toList
  if !isFilterLine line then p
  else
    let owner := tcFilterOwnerFromLine line
    let ofDae := owner == "dae".toList
    let preempts := ofDae && (attach.contains ifname && !ifname.isEmpty) &&
      direction == "ingress".toList && decide (0 < CText.atoi pref) &&
        decide (CText.atoi pref < 49152)
    { p with
      daeTcFilters := p.daeTcFilters || ofDae
      dae := p.dae || ofDae
      daePreemptsBpfIngress := p.daePreemptsBpfIngress || preempts
      tcFilterConflict := p.tcFilterConflict || lineContainsLanspeedFilterConflict line
      tcFilters := p.tcFilters ++ [⟨ifname, direction, pref, handle, owner⟩] }

/-- The lines that a `strtok_r` loop cuts an output into. -/
def outputLines (output : CStr) : List CStr := CText.tokens (· == '\n') output

/-- `inspect_tc_filter_lines`. -/
def inspectTcFilterLines (attach : List CStr) (ifname direction output : CStr)
    (p : InspectedProbe) : InspectedProbe :=
  (outputLines output).foldl (inspectTcFilterLine attach ifname direction) p

/-- The devices whose filters `inspect_tc` looks at. -/
def tcScanList (r : Router) (lists : IfaceLists) : List CStr :=
  let scan := (lists.attach ++ lists.observe).take (lanspeedBpfIfaceMax + 4)
  if scan = [] then
    ["br-lan".toList, "eth0".toList].filter fun dev =>
      r.fileExists ("/sys/class/net/".toList ++ dev)
  else scan

/-- The command that shows the filters of a device in one direction. -/
def tcFilterShow (dev direction : CStr) : CStr :=
  snprintf 128 ("tc filter show dev ".toList ++ dev ++ " ".toList ++ direction ++ " 2>&1".toList)

/-- What `inspect_tc` does for one device and direction. -/
def inspectTcDevice (r : Router) (attach : List CStr) (p : InspectedProbe) (shown : CStr × CStr) :
    InspectedProbe :=
  let (exitCode, output) := r.runCommandCapture (tcFilterShow shown.1 shown.2)
  if exitCode = 0 ∧ output ≠ [] then
    inspectTcFilterLines attach shown.1 shown.2 output
      { p with existingTcFilters := p.existingTcFilters || isFilterLine output }
  else if exitCode ≠ 0 ∧ !contains output "Cannot".toList ∧ !contains output "No such".toList then
    { p with probeError := true, lanProbeError := true }
  else p

/-- The devices and directions that `inspect_tc` shows. -/
def tcScan (r : Router) (lists : IfaceLists) : List (CStr × CStr) :=
  (tcScanList r lists).flatMap fun dev => [(dev, "ingress".toList), (dev, "egress".toList)]

/-- `inspect_tc`. -/
def inspectTc (r : Router) (lists : IfaceLists) (p : InspectedProbe) : InspectedProbe :=
  if !p.tc then p
  else
    let (helpCode, help) := r.runCommandCapture "tc filter help 2>&1".toList
    let (qdiscCode, qdisc) := r.runCommandCapture "tc qdisc help 2>&1".toList
    (tcScan r lists).foldl (inspectTcDevice r lists.attach)
      { p with
        bpf := contains help "bpf".toList || contains help "BPF".toList
        tcClsact := contains qdisc "clsact".toList
        probeError := p.probeError || (helpCode ≠ 0 && help.isEmpty) ||
          (qdiscCode ≠ 0 && qdisc.isEmpty)
        existingTcFilters := false }

/-! ## Files, assets and ubus -/

/-- `inspect_flowtable_counter`. -/
def inspectFlowtableCounter (r : Router) (p : InspectedProbe) : InspectedProbe :=
  if !p.nft then { p with flowtableCounter := false }
  else
    let (exitCode, output) := r.runCommandCapture "nft list flowtables 2>&1".toList
    { p with
      flowtableCounter :=
        exitCode = 0 && contains output "flowtable".toList && contains output "counter".toList
      probeError := p.probeError || exitCode ≠ 0 }

/-- `inspect_files`. -/
def inspectFiles (r : Router) (lists : IfaceLists) (p : InspectedProbe) : InspectedProbe :=
  let acct := r.readFileTrimmed "/proc/sys/net/netfilter/nf_conntrack_acct".toList 64
  let isBridge := fun dev => r.fileExists ("/sys/class/net/".toList ++ dev ++ "/bridge".toList)
  { inspectFlowtableCounter r { p with nfConntrackAcct := acct = some "1".toList } with
    ifb := r.fileExists "/sys/class/net/ifb0".toList || r.dirHasEntries "/sys/class/net/ifb".toList
    lanBridge := lists.attach.any isBridge || lists.observe.any isBridge || isBridge "br-lan".toList
    vlan := r.fileExists "/proc/net/vlan/config".toList
    wlan := r.dirHasEntries "/sys/class/ieee80211".toList ||
      r.fileExists "/sys/class/net/wlan0".toList }

/-- `inspect_bpf_assets`. -/
def inspectBpfAssets (r : Router) (p : InspectedProbe) : InspectedProbe :=
  { p with
    bpfPackage := r.fileExists "/usr/share/lanspeed/bpf/collector-model.json".toList
    bpfObject := r.fileExists "/usr/lib/bpf/lanspeed_tc.o".toList }

/-- `inspect_ubus`. -/
def inspectUbus (r : Router) (p : InspectedProbe) : InspectedProbe :=
  if !p.ubus then p
  else if (r.runCommandCapture "ubus call network.interface.lan status 2>&1".toList).1 = 0 then p
  else { p with probeError := true, lanProbeError := true }

/-! ## dae -/

/-- `DAE_FWMARK`. -/
def daeFwmark : CStr := "0x8000000".toList

/-- Whether `ubus` lists a running service. -/
def serviceListed (r : Router) (name : CStr) : Bool :=
  let (exitCode, output) := r.runCommandCapture
    ("ubus call service list '\x7b\"name\":\"".toList ++ name ++ "\"\x7d' 2>&1".toList)
  exitCode = 0 && contains output name

/-- Whether the output of a command has the mark; `none` when it fails or writes nothing. -/
def commandReports (r : Router) (command : CStr) (mark : CStr → Bool) : Option Bool :=
  let (exitCode, output) := r.runCommandCapture command
  if exitCode = 0 ∧ output ≠ [] then some (mark output) else none

/-- The mark of dae in the output of `ip route show table 2023`. -/
def routeTableMark (output : CStr) : Bool :=
  contains output "dae0".toList || contains output "default".toList

/-- The mark of dae in the output of `nft list ruleset`. -/
def dnsUdp53Mark (output : CStr) : Bool :=
  (contains output "udp dport 53".toList || contains output "dport 53".toList) &&
    (contains output "dae".toList || contains output daeFwmark)

/-- The files of `inspect_dae_runtime`. -/
def inspectDaeFiles (r : Router) (p : InspectedProbe) : InspectedProbe :=
  let daeConfig := r.fileExists "/etc/config/dae".toList
  let daedConfig := r.fileExists "/etc/config/daed".toList
  let daeIface := r.fileExists "/sys/class/net/dae0".toList
  let daePeerIface := r.fileExists "/sys/class/net/dae0peer".toList
  { p with
    daeConfig := daeConfig
    daedConfig := daedConfig
    daeIface := daeIface
    daePeerIface := daePeerIface
    dae := p.dae || daeConfig || daedConfig || daeIface || daePeerIface || p.daeTcFilters }

/-- The services of `inspect_dae_runtime`. -/
def inspectDaeServices (r : Router) (p : InspectedProbe) : InspectedProbe :=
  let p := if p.ubus then
    { p with
      daeService := serviceListed r "dae".toList
      daedService := serviceListed r "daed".toList }
    else p
  { p with dae := p.dae || p.daeService || p.daedService }

/-- The devices and directions that `inspect_dae_runtime` shows. -/
def daeScan : List (CStr × CStr) :=
  [("dae0".toList, "ingress".toList), ("dae0".toList, "egress".toList),
    ("dae0peer".toList, "ingress".toList)]

/-- What `inspect_dae_runtime` does for one device and direction. -/
def inspectDaeDevice (r : Router) (attach : List CStr) (p : InspectedProbe) (shown : CStr × CStr) :
    InspectedProbe :=
  let (exitCode, output) := r.runCommandCapture (tcFilterShow shown.1 shown.2)
  if exitCode = 0 ∧ output ≠ [] then inspectTcFilterLines attach shown.1 shown.2 output p else p

/-- The tc filters of `inspect_dae_runtime`. -/
def inspectDaeTc (r : Router) (attach : List CStr) (p : InspectedProbe) : InspectedProbe :=
  if !p.tc then p else daeScan.foldl (inspectDaeDevice r attach) p

/-- Whether a rule carries the mark of dae. -/
def fwmarkReported (r : Router) : Option Bool :=
  commandReports r "ip rule show 2>&1".toList (contains · daeFwmark)

/-- Whether the route table of dae is in use. -/
def routeTableReported (r : Router) : Option Bool :=
  commandReports r "ip route show table 2023 2>&1".toList routeTableMark

/-- Whether a rule set handles UDP port 53 for dae. -/
def dnsUdp53Reported (r : Router) : Option Bool :=
  commandReports r "nft list ruleset 2>&1".toList dnsUdp53Mark

/-- The commands of `inspect_dae_runtime` that come last. -/
def inspectDaeCommands (r : Router) (p : InspectedProbe) : InspectedProbe :=
  let fwmark := fwmarkReported r
  let routeTable := routeTableReported r
  let dnsUdp53 := if p.nft then dnsUdp53Reported r else none
  { p with
    daeFwmark := fwmark.getD p.daeFwmark
    daeRouteTable := routeTable.getD p.daeRouteTable
    daeDnsUdp53 := dnsUdp53.getD p.daeDnsUdp53
    dae := p.dae || fwmark.getD false || routeTable.getD false || dnsUdp53.getD false }

/-- `inspect_dae_runtime`. -/
def inspectDaeRuntime (r : Router) (attach : List CStr) (p : InspectedProbe) : InspectedProbe :=
  inspectDaeCommands r (inspectDaeTc r attach (inspectDaeServices r (inspectDaeFiles r p)))

/-! ## NSS, the attach model and the services -/

/-- `inspect_nss`, without the counts of the ECM tables. -/
def inspectNss (r : Router) (p : InspectedProbe) : InspectedProbe :=
  let present := ["/sys/module/qca_nss_drv".toList, "/sys/bus/platform/drivers/qca-nss".toList,
    "/sys/kernel/debug/qca-nss-drv".toList, "/proc/sys/dev/nss".toList,
    "/sys/module/qca_nss_dp".toList, "/sys/module/nss_dp".toList].any r.fileExists
  let ppeActive := ["/sys/module/qca_nss_ppe".toList, "/sys/module/ppe_drv".toList,
    "/sys/kernel/debug/qca-nss-ppe".toList, "/sys/kernel/debug/ppe_drv".toList].any r.fileExists
  let ecmActive := ["/sys/module/ecm".toList, "/sys/kernel/debug/ecm".toList].any r.fileExists
  let ecmState := ["/sys/kernel/debug/ecm/ecm_state/state_dev_major".toList,
    "/dev/ecm_state".toList].any r.fileExists
  { p with
    nssPresent := present
    nssPpeActive := ppeActive
    nssEcmActive := ecmActive
    nssEcmDirectSupported := ecmActive && ecmState
    hardwareFlowOffload := p.hardwareFlowOffload || (present && (ecmActive || ppeActive)) }

/-- What the attach model reads of the daemon besides the probe. -/
structure AttachModelInput where
  cfg               : CollectorConfig
  bpfRuntimeEnabled : Bool
  status            : LanspeedBpfReadStatus
  now               : UInt64
deriving DecidableEq, Repr

/-- `inspect_collector_attach_model`. -/
def inspectCollectorAttachModel (inp : AttachModelInput) (p : InspectedProbe) : InspectedProbe :=
  let lanEdge := p.lanBridge || p.vlan || p.wlan
  let mapFull := decide (inp.cfg.maxClients < 1)
  let p := { p with
    lanEdge := lanEdge
    mapFull := mapFull
    safeAttach := inp.cfg.enableBpf && p.tc && p.tcClsact && p.bpf && p.bpfPackage && p.bpfObject &&
      lanEdge && !mapFull && !p.tcFilterConflict }
  { p with
    bpfRuntimeMetrics := bpfRuntimeMetricsAvailable inp.cfg inp.bpfRuntimeEnabled inp.status inp.now
      p.toRuntimeProbe }

/-- `inspect_package_uci`: whether the package loads, and the probe with the errors of
the lookup. -/
def inspectPackageUci (r : Router) (package : CStr) (p : InspectedProbe) : Bool × InspectedProbe :=
  match r.uciLoad package with
  | none => (false, { p with probeError := true })
  | some sections => (sections.isSome, p)

/-- `openclash_mode_is_fake_ip`. -/
def openclashModeIsFakeIp (mode : CStr) : Bool :=
  contains mode "fake-ip".toList || contains mode "fake_ip".toList

/-- `openclash_mode_is_tun_mix`. -/
def openclashModeIsTunMix (mode : CStr) : Bool :=
  contains mode "tun".toList || contains mode "mix".toList || contains mode "TUN".toList ||
    contains mode "Mix".toList

/-- The options of a section that `inspect_openclash_uci_options` reads. -/
def openclashOptionNames : List CStr :=
  ["en_mode".toList, "enable_redirect_dns".toList, "router_self_proxy".toList,
    "enable_udp_proxy".toList, "stack_type".toList, "ipv6_enable".toList]

/-- What `inspect_openclash_uci_options` takes from the first section with one of the options. -/
def inspectOpenclashSection (p : InspectedProbe) (s : UciSection) : InspectedProbe :=
  let enMode := s.optionString "en_mode".toList
  let stackType := s.optionString "stack_type".toList
  let flag := fun name old =>
    ((s.optionString name).map fun value => uciBoolValue (some value)).getD old
  { p with
    openclashFakeIp := (enMode.map openclashModeIsFakeIp).getD p.openclashFakeIp
    openclashTunMix := (enMode.map openclashModeIsTunMix).getD p.openclashTunMix ||
      (stackType.map openclashModeIsTunMix).getD false
    openclashRedirectDns := flag "enable_redirect_dns".toList p.openclashRedirectDns
    openclashRouterSelfProxy := flag "router_self_proxy".toList p.openclashRouterSelfProxy
    openclashUdpProxy := flag "enable_udp_proxy".toList p.openclashUdpProxy
    openclashIpv6 := flag "ipv6_enable".toList p.openclashIpv6 }

/-- `inspect_openclash_uci_options`. -/
def inspectOpenclashUciOptions (r : Router) (p : InspectedProbe) : InspectedProbe :=
  match r.uciLoad "openclash".toList with
  | none => { p with probeError := true }
  | some none => p
  | some (some package) =>
    match package.find? fun s => openclashOptionNames.any fun name =>
      (s.optionString name).isSome with
    | none => p
    | some s => inspectOpenclashSection p s

/-- The texts of an option. -/
def UciValue.texts : UciValue → List CStr
  | .string s => [s]
  | .list l => l

/-- `inspect_dnsmasq_openclash_chain`. -/
def inspectDnsmasqOpenclashChain (r : Router) (p : InspectedProbe) : InspectedProbe :=
  if !p.openclash then p
  else
    match r.uciLoad "dhcp".toList with
    | none => { p with probeError := true }
    | some none => p
    | some (some package) =>
      let chain := package.any fun s => s.options.any fun option =>
        option.2.texts.any (contains · "127.0.0.1#7874".toList)
      { p with
        openclashDnsmasqChain := chain
        openclashDnsChainIncomplete :=
          p.openclashDnsChainIncomplete || (p.openclashRedirectDns && !chain) }

/-- The packages of `inspect_service_presence`. -/
def inspectPackages (r : Router) (p : InspectedProbe) : InspectedProbe :=
  let qosifyCommand := p.qosify
  let (sqm, p) := inspectPackageUci r "sqm".toList p
  let (qosify, p) := inspectPackageUci r "qosify".toList { p with sqm := sqm }
  let (openclash, p) := inspectPackageUci r "openclash".toList { p with qosify := qosify }
  let (dae, p) := inspectPackageUci r "dae".toList { p with openclash := openclash }
  let (daed, p) := inspectPackageUci r "daed".toList { p with dae := dae }
  let (homeproxy, p) := inspectPackageUci r "homeproxy".toList { p with daed := daed }
  let (nlbwmon, p) := inspectPackageUci r "nlbwmon".toList { p with homeproxy := homeproxy }
  { p with
    qosify := p.qosify || qosifyCommand
    dae := p.dae || p.daed || r.fileExists "/etc/config/dae".toList ||
      r.fileExists "/etc/config/daed".toList
    openclash := p.openclash || r.fileExists "/etc/config/openclash".toList
    homeproxy := p.homeproxy || r.fileExists "/etc/config/homeproxy".toList
    nlbwmon := nlbwmon || r.fileExists "/etc/config/nlbwmon".toList }

/-- `inspect_service_presence`. -/
def inspectServicePresence (r : Router) (p : InspectedProbe) : InspectedProbe :=
  let p := inspectPackages r p
  if p.openclash then inspectDnsmasqOpenclashChain r (inspectOpenclashUciOptions r p) else p

/-- The passes of `inspect_runtime` up to the dae pass. -/
def inspectUpToDae (r : Router) (lists : IfaceLists) (p : InspectedProbe) : InspectedProbe :=
  inspectDaeRuntime r lists.attach
    (inspectUbus r
      (inspectBpfAssets r
        (inspectFiles r lists
          (inspectTc r lists
            (inspectFirewallUci r
              (inspectCommandCapabilities r p))))))

/-- `inspect_runtime`. -/
def inspectRuntime (r : Router) (lists : IfaceLists) (inp : AttachModelInput) (p : InspectedProbe) :
    InspectedProbe :=
  inspectServicePresence r
    (inspectCollectorAttachModel inp (inspectNss r (inspectUpToDae r lists p)))

/-! ## The evidence for dae -/

/-- A line about a filter of dae. -/
def isDaeFilterLine (line : CStr) : Bool :=
  isFilterLine line && tcFilterOwnerFromLine line == "dae".toList

/-- Whether a device shows a filter of dae in a direction. -/
def daeFilterShown (r : Router) (shown : CStr × CStr) : Bool :=
  let (exitCode, output) := r.runCommandCapture (tcFilterShow shown.1 shown.2)
  exitCode = 0 && (outputLines output).any isDaeFilterLine

/-- A configuration file of dae or daed. -/
def daeConfigured (r : Router) : Bool :=
  r.fileExists "/etc/config/dae".toList || r.fileExists "/etc/config/daed".toList

/-- A package or a configuration file of dae or daed. -/
def daePackaged (r : Router) : Bool :=
  r.packageLoads "dae".toList || r.packageLoads "daed".toList || daeConfigured r

/-- An interface of dae. -/
def daeInterface (r : Router) : Bool :=
  r.fileExists "/sys/class/net/dae0".toList || r.fileExists "/sys/class/net/dae0peer".toList

/-- A running service of dae or daed. -/
def daeServiceListed (r : Router) : Bool :=
  serviceListed r "dae".toList || serviceListed r "daed".toList

/-- The evidence that only the dae pass looks at: a filter of dae, a running service, an interface,
the mark, the route table, or the handling of UDP port 53. -/
def daeAtRuntime (r : Router) (lists : IfaceLists) : Bool :=
  r.commandExists "tc".toList && (tcScan r lists ++ daeScan).any (daeFilterShown r) ||
    r.commandExists "ubus".toList && daeServiceListed r || daeInterface r ||
    (fwmarkReported r).getD false || (routeTableReported r).getD false ||
    r.commandExists "nft".toList && (dnsUdp53Reported r).getD false

/-- Whether a source that `inspect_runtime` examines reports dae. -/
def daeReported (r : Router) (lists : IfaceLists) : Bool := daePackaged r || daeAtRuntime r lists

/-! ## What the passes do to the flag -/

/-- What the dae pass goes by in a probe: whether dae was seen, and the commands that it may run. -/
def InspectedProbe.daeView (p : InspectedProbe) : Bool × Bool × Bool × Bool × Bool :=
  (p.dae || p.daeTcFilters, p.daeService || p.daedService, p.tc, p.ubus, p.nft)

section Passes

variable (r : Router) (lists : IfaceLists) (attach : List CStr) (p : InspectedProbe)

/-- The firewall pass does not touch what the dae pass goes by. -/
theorem daeView_inspectFirewallUci : (inspectFirewallUci r p).daeView = p.daeView := by
  have hsection : ∀ p s, (inspectFirewallSection p s).daeView = p.daeView := by
    intro p s
    unfold inspectFirewallSection
    split <;> rfl
  unfold inspectFirewallUci
  split
  · rfl
  · rfl
  · exact Loop.foldl_frame InspectedProbe.daeView hsection p _

/-- The pass over the files does not touch what the dae pass goes by. -/
theorem daeView_inspectFiles : (inspectFiles r lists p).daeView = p.daeView := by
  unfold inspectFiles inspectFlowtableCounter
  dsimp only
  split <;> rfl

/-- The ubus pass does not touch what the dae pass goes by. -/
theorem daeView_inspectUbus : (inspectUbus r p).daeView = p.daeView := by
  unfold inspectUbus
  split_ifs <;> rfl

/-- A line of a filter listing does not touch the commands. -/
theorem commands_inspectTcFilterLine (ifname direction line : CStr) :
    (inspectTcFilterLine attach ifname direction p line).daeView.2 = p.daeView.2 := by
  unfold inspectTcFilterLine
  dsimp only
  split <;> rfl

/-- The lines of an output raise the flag when one of them is about a filter of dae. -/
theorem dae_inspectTcFilterLines (ifname direction output : CStr) :
    (inspectTcFilterLines attach ifname direction output p).dae =
      (p.dae || (outputLines output).any isDaeFilterLine) := by
  refine Loop.foldl_flag (fun p : InspectedProbe => p.dae) (fun p line => ?_) p _
  cases hfilter : isFilterLine line <;> simp [inspectTcFilterLine, isDaeFilterLine, hfilter]

/-- A filter listing shows dae exactly when one of its lines is of a dae filter. -/
theorem daeView_inspectTcFilterLines (ifname direction output : CStr) :
    (inspectTcFilterLines attach ifname direction output p).daeView =
      (p.daeView.1 || (outputLines output).any isDaeFilterLine, p.daeView.2) := by
  apply Prod.ext
  · refine Loop.foldl_flag (fun p : InspectedProbe => p.daeView.1) (fun p line => ?_) p _
    cases hfilter : isFilterLine line with
    | false => simp [inspectTcFilterLine, InspectedProbe.daeView, isDaeFilterLine, hfilter]
    | true =>
      have hboth : ∀ a b c : Bool, (a || c || (b || c)) = (a || b || c) := by decide
      simpa [inspectTcFilterLine, InspectedProbe.daeView, isDaeFilterLine, hfilter] using
        hboth p.dae p.daeTcFilters _
  · exact Loop.foldl_frame (fun p : InspectedProbe => p.daeView.2)
      (fun p line => commands_inspectTcFilterLine attach p ifname direction line) p _

/-- Where the command works, dae is shown by the lines of its output. -/
theorem daeFilterShown_of_shown {shown : CStr × CStr}
    (h : (r.runCommandCapture (tcFilterShow shown.1 shown.2)).1 = 0) :
    daeFilterShown r shown =
      (outputLines (r.runCommandCapture (tcFilterShow shown.1 shown.2)).2).any isDaeFilterLine := by
  unfold daeFilterShown
  dsimp only
  rw [decide_eq_true h, Bool.true_and]

/-- A command that fails or writes nothing shows no filter. -/
theorem daeFilterShown_of_not_shown {shown : CStr × CStr}
    (h : ¬((r.runCommandCapture (tcFilterShow shown.1 shown.2)).1 = 0 ∧
      (r.runCommandCapture (tcFilterShow shown.1 shown.2)).2 ≠ [])) :
    daeFilterShown r shown = false := by
  unfold daeFilterShown
  dsimp only
  by_cases hcode : (r.runCommandCapture (tcFilterShow shown.1 shown.2)).1 = 0
  · have houtput : (r.runCommandCapture (tcFilterShow shown.1 shown.2)).2 = [] :=
      not_not.mp fun hne => h ⟨hcode, hne⟩
    rw [houtput]
    exact Bool.and_false _
  · rw [decide_eq_false hcode, Bool.false_and]

/-- A device and direction that `inspect_tc` shows raises the flag with a filter of dae. -/
theorem daeView_inspectTcDevice (shown : CStr × CStr) :
    (inspectTcDevice r attach p shown).daeView =
      (p.daeView.1 || daeFilterShown r shown, p.daeView.2) := by
  by_cases hok : (r.runCommandCapture (tcFilterShow shown.1 shown.2)).1 = 0 ∧
      (r.runCommandCapture (tcFilterShow shown.1 shown.2)).2 ≠ []
  · simp only [inspectTcDevice]
    rw [if_pos hok, daeView_inspectTcFilterLines, daeFilterShown_of_shown r hok.1]
    rfl
  · simp only [inspectTcDevice]
    rw [if_neg hok, daeFilterShown_of_not_shown r hok, Bool.or_false]
    split <;> rfl

/-- `inspect_tc` raises the flag with a filter of dae that it is shown. -/
theorem daeView_inspectTc :
    (inspectTc r lists p).daeView =
      (p.daeView.1 || (p.tc && (tcScan r lists).any (daeFilterShown r)), p.daeView.2) := by
  by_cases htc : p.tc = true
  · have hscan : (p.tc && (tcScan r lists).any (daeFilterShown r)) =
        (tcScan r lists).any (daeFilterShown r) := by rw [htc, Bool.true_and]
    unfold inspectTc
    rw [if_neg (by simp [htc]), hscan]
    apply Prod.ext
    · refine Loop.foldl_flag (fun p : InspectedProbe => p.daeView.1) (fun p shown => ?_) _ _
      rw [daeView_inspectTcDevice]
    · refine Loop.foldl_frame (fun p : InspectedProbe => p.daeView.2) (fun p shown => ?_) _ _
      rw [daeView_inspectTcDevice]
  · simp [inspectTc, htc]

/-- A device and direction that the dae pass shows raises the flag with a filter of dae. -/
theorem dae_inspectDaeDevice (shown : CStr × CStr) :
    (inspectDaeDevice r attach p shown).dae = (p.dae || daeFilterShown r shown) := by
  by_cases hok : (r.runCommandCapture (tcFilterShow shown.1 shown.2)).1 = 0 ∧
      (r.runCommandCapture (tcFilterShow shown.1 shown.2)).2 ≠ []
  · simp only [inspectDaeDevice]
    rw [if_pos hok, dae_inspectTcFilterLines, daeFilterShown_of_shown r hok.1]
  · simp only [inspectDaeDevice]
    rw [if_neg hok, daeFilterShown_of_not_shown r hok, Bool.or_false]

/-- A listing of one device does not touch the commands. -/
theorem commands_inspectDaeDevice (shown : CStr × CStr) :
    (inspectDaeDevice r attach p shown).daeView.2 = p.daeView.2 := by
  unfold inspectDaeDevice
  dsimp only
  split
  · rw [daeView_inspectTcFilterLines]
  · rfl

/-- The tc part of the dae pass. -/
theorem dae_inspectDaeTc :
    (inspectDaeTc r attach p).dae = (p.dae || (p.tc && daeScan.any (daeFilterShown r))) := by
  by_cases htc : p.tc = true
  · have hscan : (p.tc && daeScan.any (daeFilterShown r)) = daeScan.any (daeFilterShown r) := by
      rw [htc, Bool.true_and]
    unfold inspectDaeTc
    rw [if_neg (by simp [htc]), hscan]
    exact Loop.foldl_flag (fun p : InspectedProbe => p.dae)
      (dae_inspectDaeDevice r attach) p daeScan
  · simp [inspectDaeTc, htc]

/-- The tc part of the dae pass does not touch the commands. -/
theorem commands_inspectDaeTc : (inspectDaeTc r attach p).daeView.2 = p.daeView.2 := by
  unfold inspectDaeTc
  split
  · rfl
  · exact Loop.foldl_frame (fun p : InspectedProbe => p.daeView.2)
      (commands_inspectDaeDevice r attach) p daeScan

/-- The files of the dae pass. -/
theorem dae_inspectDaeFiles :
    (inspectDaeFiles r p).dae = (p.daeView.1 || daeConfigured r || daeInterface r) := by
  have hlast :
      ∀ a b c d e f : Bool, (a || b || c || d || e || f) = (a || f || (b || c) || (d || e)) := by
    decide
  exact hlast _ _ _ _ _ _

/-- The services of the dae pass. -/
theorem dae_inspectDaeServices :
    (inspectDaeServices r p).dae =
      (p.dae || if p.ubus then daeServiceListed r else p.daeService || p.daedService) := by
  by_cases hubus : p.ubus = true
  · simp only [inspectDaeServices, hubus, if_true, daeServiceListed, Bool.or_assoc]
  · rw [if_neg hubus, inspectDaeServices, if_neg hubus, ← Bool.or_assoc]

/-- The first parts of the dae pass do not touch the commands. -/
theorem commands_inspectDaeServices :
    (inspectDaeServices r (inspectDaeFiles r p)).daeView.2.2 = p.daeView.2.2 := by
  unfold inspectDaeServices
  dsimp only
  split <;> rfl

/-- The dae pass adds what it finds to what was seen before it. -/
theorem dae_inspectDaeRuntime :
    (inspectDaeRuntime r attach p).dae =
      (p.daeView.1 || daeConfigured r || daeInterface r ||
        (if p.ubus then daeServiceListed r else p.daeService || p.daedService) ||
        (p.tc && daeScan.any (daeFilterShown r)) || (fwmarkReported r).getD false ||
        (routeTableReported r).getD false || (p.nft && (dnsUdp53Reported r).getD false)) := by
  have hcommands :
      (inspectDaeTc r attach (inspectDaeServices r (inspectDaeFiles r p))).daeView.2.2 =
      p.daeView.2.2 := by
    rw [commands_inspectDaeTc, commands_inspectDaeServices]
  have hnft : (inspectDaeTc r attach (inspectDaeServices r (inspectDaeFiles r p))).nft = p.nft :=
    congrArg (·.2.2) hcommands
  have htc : (inspectDaeServices r (inspectDaeFiles r p)).tc = p.tc :=
    congrArg Prod.fst (commands_inspectDaeServices r p)
  have hdns : (if p.nft then dnsUdp53Reported r else none).getD false =
      (p.nft && (dnsUdp53Reported r).getD false) := by
    cases p.nft <;> rfl
  unfold inspectDaeRuntime inspectDaeCommands
  dsimp only
  rw [hnft, hdns, dae_inspectDaeTc, htc, dae_inspectDaeServices, dae_inspectDaeFiles]
  rfl

end Passes

/-- Up to the dae pass the flag stands for the evidence. -/
theorem inspectUpToDae_dae (r : Router) (lists : IfaceLists) :
    (inspectUpToDae r lists {}).dae = (daeConfigured r || daeAtRuntime r lists) := by
  obtain ⟨q, hq⟩ :
      ∃ q, q = inspectUbus r (inspectBpfAssets r (inspectFiles r lists
        (inspectTc r lists (inspectFirewallUci r (inspectCommandCapabilities r {}))))) :=
    ⟨_, rfl⟩
  have hview : q.daeView =
      (r.commandExists "tc".toList && (tcScan r lists).any (daeFilterShown r), false,
        r.commandExists "tc".toList, r.commandExists "ubus".toList,
        r.commandExists "nft".toList) := by
    have hassets : ∀ p, (inspectBpfAssets r p).daeView = p.daeView := fun p => rfl
    have htc : (inspectFirewallUci r (inspectCommandCapabilities r {})).tc =
        r.commandExists "tc".toList :=
      congrArg (·.2.2.1) (daeView_inspectFirewallUci r _)
    rw [hq, daeView_inspectUbus, hassets, daeView_inspectFiles, daeView_inspectTc, htc,
      daeView_inspectFirewallUci]
    rfl
  have hseen : q.daeView.1 =
      (r.commandExists "tc".toList && (tcScan r lists).any (daeFilterShown r)) :=
    congrArg Prod.fst hview
  have hservice : (q.daeService || q.daedService) = false := congrArg (·.2.1) hview
  have htc : q.tc = r.commandExists "tc".toList := congrArg (·.2.2.1) hview
  have hubus : q.ubus = r.commandExists "ubus".toList := congrArg (·.2.2.2.1) hview
  have hnft : q.nft = r.commandExists "nft".toList := congrArg (·.2.2.2.2) hview
  have hservices : (if q.ubus then daeServiceListed r else q.daeService || q.daedService) =
      (r.commandExists "ubus".toList && daeServiceListed r) := by
    rw [hservice, hubus]
    cases r.commandExists "ubus".toList <;> rfl
  rw [inspectUpToDae, ← hq, dae_inspectDaeRuntime, hservices, hseen, htc, hnft, daeAtRuntime,
    List.any_append, Bool.and_or_distrib_left]
  ac_rfl

/-- A package is there when uci loads it, and an error is raised where uci fails. -/
theorem inspectPackageUci_eq (r : Router) (package : CStr) (p : InspectedProbe) :
    inspectPackageUci r package p =
      (r.packageLoads package,
        { p with probeError := p.probeError || (r.uciLoad package).isNone }) := by
  unfold inspectPackageUci Router.packageLoads
  cases r.uciLoad package <;> simp

/-- After the pass over the packages, dae is there as its package says, whatever was seen before. -/
theorem dae_inspectPackages (r : Router) (p : InspectedProbe) :
    (inspectPackages r p).dae = daePackaged r := by
  simp only [inspectPackages, inspectPackageUci_eq, daePackaged, daeConfigured, Bool.or_assoc]

/-- The pass over the options of OpenClash leaves the flag. -/
theorem dae_inspectOpenclash (r : Router) (p : InspectedProbe) :
    (inspectDnsmasqOpenclashChain r (inspectOpenclashUciOptions r p)).dae = p.dae := by
  have hoptions : (inspectOpenclashUciOptions r p).dae = p.dae := by
    unfold inspectOpenclashUciOptions
    split
    · rfl
    · rfl
    · split <;> rfl
  unfold inspectDnsmasqOpenclashChain
  split
  · exact hoptions
  · split <;> exact hoptions

/-- The services pass starts the flag again from the packages. -/
theorem inspectRuntime_dae (r : Router) (lists : IfaceLists) (inp : AttachModelInput)
    (p : InspectedProbe) : (inspectRuntime r lists inp p).dae = daePackaged r := by
  unfold inspectRuntime inspectServicePresence
  dsimp only
  split
  · rw [dae_inspectOpenclash, dae_inspectPackages]
  · rw [dae_inspectPackages]

/-- After `inspect_runtime` the flag stands for the evidence exactly when a package or a
configuration file is part of it, or no source reports dae. -/
theorem inspectRuntime_dae_iff (r : Router) (lists : IfaceLists) (inp : AttachModelInput) :
    ((inspectRuntime r lists inp {}).dae = true ↔ daeReported r lists = true) ↔
      (daePackaged r = true ∨ daeAtRuntime r lists = false) := by
  rw [inspectRuntime_dae, daeReported, Bool.or_eq_true]
  cases daePackaged r <;> cases daeAtRuntime r lists <;> decide

/-- A router with a `dae0` interface whose commands write nothing, without a package of dae. -/
def onlyDaeInterface : Router where
  commandExists := fun _ => true
  popen         := fun _ => some ([], 0)
  fileExists    := fun path => path == "/sys/class/net/dae0".toList
  dirHasEntries := fun _ => false
  readFile      := fun _ => none
  uciLoad       := fun _ => some none

/-- On that router the dae pass raises the flag, and behind the services pass it is down. -/
theorem onlyDaeInterface_lost :
    (inspectUpToDae onlyDaeInterface ⟨["lan1".toList], [], false⟩ {}).dae = true ∧
      ¬((inspectRuntime onlyDaeInterface ⟨["lan1".toList], [],
        false⟩ ⟨{}, false, {}, 0⟩ {}).dae = true ↔
        daeReported onlyDaeInterface ⟨["lan1".toList], [], false⟩ = true) := by
  have hpackaged : daePackaged onlyDaeInterface = false := by decide
  have hinterface : daeInterface onlyDaeInterface = true := by decide
  have hruntime : daeAtRuntime onlyDaeInterface ⟨["lan1".toList], [], false⟩ = true := by
    simp only [daeAtRuntime, hinterface, Bool.or_true, Bool.true_or]
  refine ⟨?_, ?_⟩
  · rw [inspectUpToDae_dae, hruntime, Bool.or_true]
  · rw [inspectRuntime_dae, hpackaged, daeReported, hruntime, Bool.or_true]
    decide

end Lanspeed
