import Lanspeed.Arp
import Lanspeed.Snapshots
import Lanspeed.Conntrack.Flow
import Lanspeed.Lib.GroupBy

/-!
# Aggregating flows into clients

`add_conntrack_flow_to_samples` and its NSS counterpart add a flow to the sample of one client: the
MAC address comes from the first ARP row with the flow's source, or from the NSS record, and the
zone from that row. What a flow adds is its `FlowShare`, and a table is the grouping of the shares
by identity (`samples_foldl_addConntrackFlow`).
-/

namespace Lanspeed

/-- What one flow adds, and the client that it belongs to: the MAC address, and the ARP row of the
source. -/
structure FlowShare where
  mac : CStr
  arp : ArpEntry
  txBytes : UInt64
  rxBytes : UInt64
  tcp : Bool := false
  udp : Bool := false
  udpDns : Bool := false
  udpOther : Bool := false
deriving DecidableEq, Repr

/-- The identity that a share is counted under. -/
def FlowShare.key (share : FlowShare) : CStr := identityKey share.mac share.arp.zone

/-- `add_client_ip_unique`. -/
def addClientIpUnique (ips : List CStr) (ip : CStr) : List CStr :=
  if ip = [] then ips
  else if ip ∈ ips then ips
  else if ips.length ≥ maxClientIps then ips
  else ips ++ [snprintf ipStrLen ip]

/-- The sample that is inserted for a new client, before anything is counted. -/
def newConntrackSample (share : FlowShare) : ConntrackClientSample :=
  { mac := snprintf macStrLen share.mac
    identityKey := snprintf identityKeyStrLen share.key
    zone := snprintf zoneStrLen share.arp.zone
    ifname := snprintf ifnameStrLen share.arp.ifname }

/-- Add a share to the sample of its client. -/
def addShare (nowMs : UInt64) (share : FlowShare) (sample : ConntrackClientSample) :
    ConntrackClientSample :=
  { sample with
    ips := addClientIpUnique sample.ips share.arp.ip
    txBytes := sample.txBytes + share.txBytes
    rxBytes := sample.rxBytes + share.rxBytes
    lastSeenMs := nowMs
    tcpConns := if share.tcp then sample.tcpConns + 1 else sample.tcpConns
    udpConns := if share.udp then sample.udpConns + 1 else sample.udpConns
    udpDnsConns := if share.udpDns then sample.udpDnsConns + 1 else sample.udpDnsConns
    udpOtherConns := if share.udpOther then sample.udpOtherConns + 1 else sample.udpOtherConns }

/-- The counters of a snapshot read (`struct conntrack_collect_stats`, `struct
nss_ecm_direct_stats`). -/
structure FlowStats where
  entriesSeen : ℕ := 0
  malformedLines : ℕ := 0
  skippedNoArp : ℕ := 0
  entriesMatched : ℕ := 0
deriving DecidableEq, Repr

/-- What a snapshot read has filled so far. -/
structure FlowAggregate where
  samples : List ConntrackClientSample := []
  stats : FlowStats := {}
deriving DecidableEq, Repr

/-- What a snapshot read passes to the aggregation of each flow. -/
structure FlowContext where
  arp : List ArpEntry
  maxSamples : ℕ
  nowMs : UInt64

/-- The part of the aggregation that both kinds of flows share: find or insert the sample, and add.
A client that is new to a full table is left out. -/
def addFlowShare (ctx : FlowContext) (share : FlowShare) (agg : FlowAggregate) : FlowAggregate :=
  let matched := { agg.stats with entriesMatched := agg.stats.entriesMatched + 1 }
  match findConntrackClientSample share.key agg.samples with
  | some _ =>
    { samples := Keyed.modify ConntrackClientSample.identityKey share.key (addShare ctx.nowMs share)
        agg.samples
      stats := matched }
  | none =>
    if ctx.maxSamples ≤ agg.samples.length then agg
    else
      { samples := agg.samples ++ [addShare ctx.nowMs share (newConntrackSample share)]
        stats := matched }

/-- The share of a conntrack flow whose source is in an ARP row. -/
def conntrackShare (arp : ArpEntry) (flow : ConntrackFlowSample) : FlowShare :=
  let tcp := flow.isTcp && flow.tcpState == "ESTABLISHED".toList && flow.assured
  { mac := arp.mac
    arp := arp
    txBytes := flow.origBytes
    rxBytes := flow.replyBytes
    tcp := tcp
    udp := !tcp && flow.isUdp
    udpDns := !tcp && flow.isUdp && flow.udpIsDns
    udpOther := !tcp && flow.isUdp && !flow.udpIsDns }

/-- `add_conntrack_flow_to_samples`. -/
def addConntrackFlowToSamples (ctx : FlowContext) (agg : FlowAggregate)
    (flow : ConntrackFlowSample) :
    FlowAggregate :=
  if !flow.hasOrigSrc || !flow.hasOrigBytes then agg
  else
    match findArpEntry ctx.arp flow.origSrc with
    | none => { agg with stats := { agg.stats with skippedNoArp := agg.stats.skippedNoArp + 1 } }
    | some arp => addFlowShare ctx (conntrackShare arp flow) agg

/-- The share of a flow, where it belongs to a client. -/
def flowShare (arp : List ArpEntry) (flow : ConntrackFlowSample) : Option FlowShare :=
  if !flow.hasOrigSrc || !flow.hasOrigBytes then none
  else (findArpEntry arp flow.origSrc).map fun row => conntrackShare row flow

/-! ## The table as a grouping -/

/-- Shares are grouped by identity. -/
def shareGrouping (nowMs : UInt64) : GroupBy.Grouping ConntrackClientSample CStr FlowShare where
  key := ConntrackClientSample.identityKey
  keyOf share := some share.key
  fresh := newConntrackSample
  add := addShare nowMs

theorem snprintf_snprintf (size : ℕ) (s : CStr) :
    snprintf size (snprintf size s) = snprintf size s := by
  rw [snprintf, snprintf, List.take_take, Nat.min_self]

/-- A row keeps its key when shares are added, and a new row has the key of its share. -/
theorem shareGrouping_lawful (nowMs : UInt64) : GroupBy.Lawful (shareGrouping nowMs) where
  key_fresh := by
    rintro share k ⟨⟩
    exact snprintf_snprintf identityKeyStrLen _
  key_add _ _ := rfl

/-- The table that shares make, from the empty table. -/
def shareTable (ctx : FlowContext) (shares : List FlowShare) : List ConntrackClientSample :=
  GroupBy.groupBy (shareGrouping ctx.nowMs) ctx.maxSamples shares

/-- The table of clients is that of a group-by of the shares. -/
theorem samples_addFlowShare (ctx : FlowContext) (share : FlowShare) (agg : FlowAggregate) :
    (addFlowShare ctx share agg).samples
      = GroupBy.step (shareGrouping ctx.nowMs) ctx.maxSamples agg.samples share := by
  rcases GroupBy.step_cases (shareGrouping ctx.nowMs) ctx.maxSamples agg.samples share with
    ⟨-, hkey⟩ | ⟨k, row, hkey, hfound, hstep⟩ | ⟨k, hkey, hnone, hroom⟩
  · exact absurd hkey (Option.some_ne_none _)
  · obtain rfl := Option.some.inj hkey
    have hfound : findConntrackClientSample share.key agg.samples = some row := hfound
    rw [hstep, addFlowShare, hfound]
    rfl
  · obtain rfl := Option.some.inj hkey
    have hnone : findConntrackClientSample share.key agg.samples = none := hnone
    rw [addFlowShare, hnone]
    rcases hroom with ⟨hfull, hstep⟩ | ⟨hroom, hstep⟩
    · rw [hstep]
      exact congrArg FlowAggregate.samples (if_pos hfull)
    · rw [hstep]
      exact congrArg FlowAggregate.samples (if_neg (Nat.not_le.mpr hroom))

/-- A conntrack flow changes the table by its share, if it has one. -/
theorem samples_addConntrackFlow (ctx : FlowContext) (agg : FlowAggregate)
    (flow : ConntrackFlowSample) :
    (addConntrackFlowToSamples ctx agg flow).samples
      = (flowShare ctx.arp flow).toList.foldl
          (GroupBy.step (shareGrouping ctx.nowMs) ctx.maxSamples) agg.samples := by
  unfold addConntrackFlowToSamples flowShare
  split_ifs
  · rfl
  · cases findArpEntry ctx.arp flow.origSrc with
    | none => rfl
    | some arp => exact samples_addFlowShare ctx _ agg

/-- Where each flow changes the table by its share, a list of flows changes it by their shares. -/
theorem samples_foldl {φ : Type*} {ctx : FlowContext} {add : FlowAggregate → φ → FlowAggregate}
    {share : φ → Option FlowShare}
    (hadd : ∀ agg flow, (add agg flow).samples = (share flow).toList.foldl
      (GroupBy.step (shareGrouping ctx.nowMs) ctx.maxSamples) agg.samples)
    (flows : List φ) (agg : FlowAggregate) :
    (flows.foldl add agg).samples = (flows.filterMap share).foldl
      (GroupBy.step (shareGrouping ctx.nowMs) ctx.maxSamples) agg.samples := by
  induction flows generalizing agg with
  | nil => rfl
  | cons flow flows ih =>
    rw [List.foldl_cons, ih, hadd]
    cases hshare : share flow with
    | none =>
      rw [List.filterMap_cons_none hshare]
      rfl
    | some share =>
      rw [List.filterMap_cons_some hshare]
      rfl

/-- A table of conntrack flows is the table of their shares. -/
theorem samples_foldl_addConntrackFlow (ctx : FlowContext) (flows : List ConntrackFlowSample) :
    (flows.foldl (addConntrackFlowToSamples ctx) {}).samples
      = shareTable ctx (flows.filterMap (flowShare ctx.arp)) :=
  samples_foldl (samples_addConntrackFlow ctx) flows {}

/-! ## The UDP counters -/

/-- The counters of a row are conserved, as 32-bit words. -/
def ConntrackClientSample.Conserves (s : ConntrackClientSample) : Prop :=
  s.udpConns = s.udpDnsConns + s.udpOtherConns

/-- A share that counts in one of the two parts when it counts as UDP conserves the counters. -/
theorem conserves_addShare {share : FlowShare} {dns : Bool}
    (hdns : share.udpDns = (share.udp && dns))
    (hother : share.udpOther = (share.udp && !dns)) (nowMs : UInt64) {s : ConntrackClientSample}
    (hs : s.Conserves) : (addShare nowMs share s).Conserves := by
  unfold ConntrackClientSample.Conserves at hs ⊢
  simp only [addShare, hdns, hother, hs]
  cases share.udp <;> cases dns <;> simp [add_assoc, add_comm (1 : UInt32)]

/-- So does the share of a conntrack flow. -/
theorem conserves_flowShare {arp : List ArpEntry} {flow : ConntrackFlowSample} {share : FlowShare}
    (h : flowShare arp flow = some share) (nowMs : UInt64) {s : ConntrackClientSample}
    (hs : s.Conserves) : (addShare nowMs share s).Conserves := by
  unfold flowShare at h
  split_ifs at h
  obtain ⟨row, -, rfl⟩ := Option.map_eq_some_iff.mp h
  exact conserves_addShare rfl rfl nowMs hs

/-- So do the rows of a table of conntrack flows. -/
theorem conserves_of_mem_shareTable {ctx : FlowContext} {arp : List ArpEntry}
    {flows : List ConntrackFlowSample} :
    ∀ s ∈ shareTable ctx (flows.filterMap (flowShare arp)), s.Conserves := by
  apply GroupBy.forall_mem_groupBy
  · intro share hshare k _
    obtain ⟨flow, -, hflow⟩ := List.mem_filterMap.mp hshare
    exact conserves_flowShare hflow ctx.nowMs rfl
  · intro share hshare k row _ _ hrow
    obtain ⟨flow, -, hflow⟩ := List.mem_filterMap.mp hshare
    exact conserves_flowShare hflow ctx.nowMs hrow

end Lanspeed
