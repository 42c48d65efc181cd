import Lanspeed.ClientTables
import Lanspeed.Conntrack.Read

/-!
# Neighbours on uplinks

Two predicates on interface names say what a LAN is: `ifname_is_excluded_identity_source` keeps ARP
rows out of the identities, and `sysdevice_is_recommended_lan` is the rule for the attach list and
the UI. They differ on the uplinks of `UplinkNamed`, so a neighbour there becomes a client as soon
as a flow of it starts an identity (`lan_clients_only_iff`).
-/

namespace Lanspeed

open CText

/-- The interface names that may carry identities and are still no LAN. -/
def UplinkNamed (ifname : CStr) : Prop :=
  startsWith ifname "wan".toList = true ∨ startsWith ifname "tap".toList = true ∨
    startsWith ifname "utun".toList = true ∨ ifname = "nssifb".toList

instance (ifname : CStr) : Decidable (UplinkNamed ifname) := inferInstanceAs (Decidable (_ ∨ _))

/-- The two predicates differ on the uplinks, and nowhere else. -/
theorem not_recommended_iff {ifname : CStr} (hne : ifname ≠ [])
    (hincluded : ifnameIsExcludedIdentitySource ifname = false) :
    ¬ sysdeviceIsRecommendedLan ifname = true ↔ UplinkNamed ifname := by
  have hexcluded := hincluded
  rw [ifnameIsExcludedIdentitySource, if_neg hne] at hexcluded
  simp only [Bool.or_eq_false_iff] at hexcluded
  obtain ⟨⟨-, htun, hppp⟩, hwg⟩ : (_ ∧ startsWith ifname "tun".toList = false ∧
      startsWith ifname "ppp".toList = false) ∧ startsWith ifname "wg".toList = false :=
    ⟨⟨hexcluded.1.1.1, hexcluded.1.1.2, hexcluded.1.2⟩, hexcluded.2⟩
  -- A name that starts with `pppoe-` starts with `ppp`.
  have hpppoe : startsWith ifname "pppoe-".toList = false := by
    rw [← Bool.not_eq_true] at hppp ⊢
    intro h
    rw [startsWith, List.isPrefixOf_iff_prefix] at h hppp
    exact hppp (List.IsPrefix.trans (by decide) h)
  rw [sysdeviceIsRecommendedLan, if_neg hne, hincluded, hpppoe, hppp, hwg, htun, UplinkNamed]
  split_ifs with hwan htap hutun hnss <;> simp_all

/-! ## Tables of shares -/

/-- A share starts the sample of its client: it is the first of its identity, and the identities
before it leave room for another. -/
def StartsClient (limit : ℕ) (shares : List FlowShare) (share : FlowShare) : Prop :=
  ∃ pre post, shares = pre ++ share :: post ∧ share.key ∉ pre.map FlowShare.key ∧
    (GroupBy.admitted limit (pre.map FlowShare.key)).length < limit

/-- A share founds a group exactly when it starts a client. -/
theorem founds_iff {nowMs : UInt64} {limit : ℕ} {shares : List FlowShare} {share : FlowShare} :
    GroupBy.Founds (shareGrouping nowMs) limit shares share ↔ StartsClient limit shares share := by
  have hkeys :
      ∀ pre : List FlowShare, pre.filterMap (shareGrouping nowMs).keyOf = pre.map FlowShare.key :=
    fun pre => congrFun List.filterMap_eq_map pre
  constructor
  · rintro ⟨pre, post, k, hshares, ⟨⟩, hfresh, hroom⟩
    rw [hkeys] at hfresh hroom
    exact ⟨pre, post, hshares, hfresh, hroom⟩
  · rintro ⟨pre, post, hshares, hfresh, hroom⟩
    refine ⟨pre, post, share.key, hshares, rfl, ?_, ?_⟩
    · rwa [hkeys]
    · rwa [hkeys]

/-- A client of the shares starts on an uplink. -/
def StartsUplinkClient (limit : ℕ) (shares : List FlowShare) : Prop :=
  ∃ share, StartsClient limit shares share ∧ UplinkNamed share.arp.ifname

/-- The samples of a table of shares are on LAN interfaces when no client starts on an uplink, and
only then. -/
theorem forall_recommended_iff (ctx : FlowContext) {shares : List FlowShare}
    (h : ∀ share ∈ shares, ClientShare share) :
    (∀ s ∈ shareTable ctx shares, sysdeviceIsRecommendedLan s.ifname = true) ↔
      ¬ StartsUplinkClient ctx.maxSamples shares := by
  rw [shareTable,
    GroupBy.forall_mem_groupBy_iff (shareGrouping_lawful ctx.nowMs) fun _ _ =>
    Iff.rfl, StartsUplinkClient, not_exists]
  apply forall_congr'
  intro share
  rw [founds_iff, not_and]
  apply forall_congr'
  intro hstarts
  obtain ⟨pre, post, rfl, -⟩ := hstarts
  have hrow := (h share (by simp)).arp
  rw [← not_recommended_iff hrow.ifname_ne hrow.not_excluded, not_not]
  exact iff_of_eq (congrArg (sysdeviceIsRecommendedLan · = true)
    (snprintf_of_fits hrow.ifname_fits))

/-! ## The calls of the collectors -/

/-- What one call of `collect_conntrack_procfs_clients` reads, down to the files. -/
structure ConntrackFileCall where
  env : BpfPublishEnv
  nowMs : UInt64
  files : ConntrackFiles

/-- The call with the table that its read hands back. -/
def ConntrackFileCall.call (cfg : CollectorConfig) (c : ConntrackFileCall) : ConntrackCall :=
  { env := c.env, nowMs := c.nowMs, read := conntrackReadOf cfg c.nowMs c.files }

/-- The shares of the flows that the call aggregates, where it publishes a table. -/
def ConntrackFileCall.shares (cfg : CollectorConfig) (c : ConntrackFileCall) :
    Option (List FlowShare) :=
  if conntrackClientsReadActive cfg c.env.probe then
    (snapshotFlows cfg.connCollectorMode c.files).map fun src =>
      src.flows.filterMap (flowShare src.arp)
  else none

/-- What one call of `collect_nss_ecm_direct_clients` reads, down to the files. -/
structure NssFileCall where
  env : BpfPublishEnv
  nowMs : UInt64
  arpFile : Option CStr
  stateFile : Option CStr

/-- The call with the table that its read hands back. -/
def NssFileCall.call (cfg : CollectorConfig) (c : NssFileCall) : NssEcmDirectCall :=
  { env := c.env, nowMs := c.nowMs, read := nssReadOf cfg.maxSamples c.nowMs c.arpFile c.stateFile }

/-- The shares of the flows that the call aggregates, where it reads the files. -/
def NssFileCall.shares (cfg : CollectorConfig) (c : NssFileCall) : Option (List FlowShare) :=
  if nssEcmDirectPreferred cfg c.env.probe then nssSnapshotShares c.arpFile c.stateFile else none

/-- Every client of the reply, if there is one, is on a LAN interface. -/
def LanClientsOnly (reply : Option ClientsReply) : Prop :=
  ∀ r, reply = some r → ∀ client ∈ r.clients, sysdeviceIsRecommendedLan client.interface = true

theorem lanClientsOnly_none : LanClientsOnly none := by
  rintro r ⟨⟩

/-- The clients of a reply are on the interfaces of the samples. -/
theorem lanClientsOnly_some {r : ClientsReply} (samples : List ConntrackClientSample)
    (h : r.clients.map ClientJson.interface = samples.map ConntrackClientSample.ifname) :
    LanClientsOnly (some r) ↔ ∀ s ∈ samples, sysdeviceIsRecommendedLan s.ifname = true := by
  rw [← List.forall_mem_map (f := ConntrackClientSample.ifname)
    (P := fun ifname => sysdeviceIsRecommendedLan ifname = true), ← h, List.forall_mem_map]
  constructor
  · exact fun hreply => hreply r rfl
  · rintro hall r ⟨⟩
    exact hall

/-- The rows of the ARP table that a reader uses come from the file. -/
theorem arpRow_of_snapshotFlows {mode : CollectorModeSetting} {files : ConntrackFiles}
    {src : FlowSource} (h : snapshotFlows mode files = some src) : ∀ e ∈ src.arp, ArpRow e := by
  have hnetlink : netlinkFlows files = some src → ∀ e ∈ src.arp, ArpRow e := by
    intro h
    unfold netlinkFlows at h
    split_ifs at h
    split at h
    · obtain rfl := Option.some.inj h
      exact fun e he => arpRow_of_mem_loadArpTable he
    · exact absurd h (by simp)
  have hprocfs : procfsFlows files = some src → ∀ e ∈ src.arp, ArpRow e := by
    intro h
    unfold procfsFlows at h
    split_ifs at h
    obtain ⟨content, -, rfl⟩ := Option.map_eq_some_iff.mp h
    exact fun e he => arpRow_of_mem_loadArpTable he
  have hauto : (netlinkFlows files).or (procfsFlows files) = some src →
      ∀ e ∈ src.arp, ArpRow e := by
    intro h
    rcases Option.or_eq_some_iff.mp h with h | ⟨-, h⟩
    · exact hnetlink h
    · exact hprocfs h
  cases mode with
  | auto => exact hauto h
  | bpf => exact hauto h
  | conntrackNetlink => exact hnetlink h
  | conntrackProcfs => exact hprocfs h

/-- `collect_conntrack_procfs_clients` publishes LAN clients only, unless a client starts on an
uplink. -/
theorem conntrack_lanClientsOnly_iff (cfg : CollectorConfig) (c : ConntrackFileCall)
    (st : CollectorState) :
    LanClientsOnly (collectConntrackProcfsClients cfg (c.call cfg) st).1 ↔
      ∀ shares, c.shares cfg = some shares → ¬ StartsUplinkClient cfg.maxSamples shares := by
  have hprobe : (c.call cfg).env.probe = c.env.probe := rfl
  have htable :
      (c.call cfg).read.table = (snapshotFlows cfg.connCollectorMode c.files).map fun src =>
      src.conntrackTable cfg.maxSamples c.nowMs := rfl
  rw [collectConntrackProcfsClients, ConntrackFileCall.shares, hprobe, htable]
  cases conntrackClientsReadActive cfg c.env.probe with
  | false => exact iff_of_true lanClientsOnly_none (by simp)
  | true =>
    cases hflows : snapshotFlows cfg.connCollectorMode c.files with
    | none => exact iff_of_true lanClientsOnly_none (by simp)
    | some src =>
      have hshares : ∀ share ∈ src.flows.filterMap (flowShare src.arp), ClientShare share := by
        intro share hshare
        obtain ⟨flow, -, hflow⟩ := List.mem_filterMap.mp hshare
        exact clientShare_of_flowShare (arpRow_of_snapshotFlows hflows) hflow
      refine (lanClientsOnly_some (src.table cfg.maxSamples c.nowMs) ?_).trans ?_
      · exact List.map_map ..
      · apply (forall_recommended_iff _ hshares).trans
        simp

/-- `collect_nss_ecm_direct_clients` publishes LAN clients only, unless a client starts on an
uplink. -/
theorem nss_lanClientsOnly_iff (cfg : CollectorConfig) (c : NssFileCall) (st : CollectorState) :
    LanClientsOnly (collectNssEcmDirectClients cfg (c.call cfg) st).1 ↔
      ∀ shares, c.shares cfg = some shares → ¬ StartsUplinkClient cfg.maxSamples shares := by
  have hprobe : (c.call cfg).env.probe = c.env.probe := rfl
  have htable : (c.call cfg).read.table = ((nssSnapshotShares c.arpFile c.stateFile).map
      (nssClientTable cfg.maxSamples c.nowMs c.arpFile)).filter (·.samples != []) := rfl
  rw [collectNssEcmDirectClients, NssFileCall.shares, hprobe, htable]
  cases nssEcmDirectPreferred cfg c.env.probe with
  | false => exact iff_of_true lanClientsOnly_none (by simp)
  | true =>
    cases hread : nssSnapshotShares c.arpFile c.stateFile with
    | none => exact iff_of_true lanClientsOnly_none (by simp)
    | some shares =>
      have hshares : ∀ share ∈ shares, ClientShare share := by
        intro share hshare
        unfold nssSnapshotShares at hread
        split_ifs at hread
        obtain ⟨content, -, rfl⟩ := Option.map_eq_some_iff.mp hread
        obtain ⟨flow, -, hflow⟩ := List.mem_filterMap.mp hshare
        exact clientShare_of_nssFlowShare (fun e he => arpRow_of_mem_loadArpTable he) hflow
      have hiff := forall_recommended_iff ⟨loadArpTable c.arpFile, cfg.maxSamples, c.nowMs⟩ hshares
      have hgoal : ∀ {reply : Option ClientsReply},
          (LanClientsOnly reply ↔
            ∀ s ∈ (nssClientTable cfg.maxSamples c.nowMs c.arpFile shares).samples,
            sysdeviceIsRecommendedLan s.ifname = true) →
          (LanClientsOnly reply ↔ ∀ shares',
            (if true = true then some shares else none) = some shares' →
            ¬ StartsUplinkClient cfg.maxSamples shares') := by
        intro reply h
        rw [h]
        apply hiff.trans
        simp
      rw [Option.map_some, Option.filter_some]
      cases hempty : (nssClientTable cfg.maxSamples c.nowMs c.arpFile shares).samples != [] with
      | true => exact hgoal (lanClientsOnly_some _ (List.map_map ..))
      | false =>
        -- An empty table is not published.
        refine hgoal (iff_of_true lanClientsOnly_none ?_)
        rw [bne_eq_false_iff_eq.mp hempty]
        exact fun s hs => absurd hs List.not_mem_nil

/-- Each collector publishes LAN clients only exactly when no client starts on an uplink: the first
flow of an identity that gets a sample has its source in an ARP row of another interface. -/
theorem lan_clients_only_iff (cfg : CollectorConfig) (st : CollectorState) :
    (∀ c : ConntrackFileCall, LanClientsOnly (collectConntrackProcfsClients cfg (c.call cfg) st).1 ↔
      ∀ shares, c.shares cfg = some shares → ¬ StartsUplinkClient cfg.maxSamples shares) ∧
    ∀ c : NssFileCall, LanClientsOnly (collectNssEcmDirectClients cfg (c.call cfg) st).1 ↔
      ∀ shares, c.shares cfg = some shares → ¬ StartsUplinkClient cfg.maxSamples shares :=
  ⟨fun c => conntrack_lanClientsOnly_iff cfg c st, fun c => nss_lanClientsOnly_iff cfg c st⟩

/-- An ARP file with the modem on `wan`. -/
def wanArpFile : CStr :=
  ("IP address HW type Flags HW address Mask Device\n" ++
    "192.168.100.1 0x1 0x2 02:00:00:00:00:01 * wan\n").toList

/-- A connection that the modem opened. -/
def wanConntrackFile : CStr :=
  ("ipv4 2 udp 17 29 src=192.168.100.1 dst=192.168.1.5 sport=5000 dport=5001 packets=1 bytes=100 " ++
    "src=192.168.1.5 dst=192.168.100.1 sport=5001 dport=5000 packets=1 bytes=60 use=1\n").toList

/-- A conntrack read of the two files. -/
def wanCall (env : BpfPublishEnv) : ConntrackFileCall where
  env := env
  nowMs := 1000
  files :=
    { netlinkArp := none
      dump := .unavailable
      procfsArp := some wanArpFile
      nfConntrack := some wanConntrackFile
      ipConntrack := none }

/-- The modem becomes a client on `wan`. -/
theorem upstream_client_published :
    let cfg : CollectorConfig := { connCollectorMode := .conntrackProcfs }
    let env : BpfPublishEnv :=
      { probe := { nfConntrackAcct := true, nssPresent := true, nssEcmActive := true }
        status := {}
        nowMs := 1000
        hostnameLookup := fun _ _ => none }
    ¬ LanClientsOnly
      (collectConntrackProcfsClients cfg ((wanCall env).call cfg) (.init false)).1 := by
  intro cfg env h
  have hclients : (collectConntrackProcfsClients cfg ((wanCall env).call cfg) (.init false)).1.map
      (fun r => r.clients.map ClientJson.interface) = some ["wan".toList] := by
    decide +kernel
  obtain ⟨r, hr, hinterfaces⟩ := Option.map_eq_some_iff.mp hclients
  have hwan : "wan".toList ∈ r.clients.map ClientJson.interface := by
    rw [hinterfaces]
    exact List.mem_singleton_self _
  obtain ⟨client, hclient, hinterface⟩ := List.mem_map.mp hwan
  have := h r hr client hclient
  rw [hinterface] at this
  exact absurd this (by decide)

end Lanspeed
