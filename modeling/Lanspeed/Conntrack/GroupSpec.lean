import Lanspeed.ClientTables
import Lanspeed.Conntrack.Decode
import Lanspeed.Conntrack.Procfs
import Lanspeed.Lib.Word

/-!
# What the aggregation adds up to

Folded over a list of flows, `add_conntrack_flow_to_samples` groups the flows by the identity of
their source (`flowIdentity`): the table has the first identities, as many as the limit allows, each
with the sums and the numbers of all of its flows, and the counters of the read account for every
flow (`conntrack_groups_flows`).
-/

namespace Lanspeed

/-! ## The specification -/

/-- What an entry of an ARP table is: its texts fit in the buffers, and the address is not empty. -/
structure ArpFits (e : ArpEntry) : Prop where
  ip_ne     : e.ip ≠ []
  ip_fits   : e.ip.length < ipStrLen
  mac_fits  : e.mac.length < macStrLen
  zone_fits : e.zone.length < zoneStrLen

/-- A flow has a source and a byte count. -/
def ConntrackFlowSample.counted (flow : ConntrackFlowSample) : Bool :=
  flow.hasOrigSrc && flow.hasOrigBytes

/-- A TCP flow is established and assured. -/
def ConntrackFlowSample.isTcpConn (flow : ConntrackFlowSample) : Bool :=
  flow.isTcp && flow.tcpState == "ESTABLISHED".toList && flow.assured

/-- A flow is of one protocol: none that counts as a TCP connection is a UDP flow. -/
def ConntrackFlowSample.OneProtocol (flow : ConntrackFlowSample) : Prop :=
  ¬ (flow.isTcpConn = true ∧ flow.isUdp = true)

/-- The identity that a flow belongs to: that of the first ARP row with its source. -/
def flowIdentity (arp : List ArpEntry) (flow : ConntrackFlowSample) : Option CStr :=
  if flow.counted then (findArpEntry arp flow.origSrc).map fun row =>
    row.mac ++ '@' :: row.zone else none

/-- The flows of an identity. -/
def flowsOf (arp : List ArpEntry) (flows : List ConntrackFlowSample) (key : CStr) :
    List ConntrackFlowSample :=
  flows.filter fun flow => flowIdentity arp flow = some key

/-- The identities that the table has room for. -/
def tableIdentities (arp : List ArpEntry) (limit : ℕ)
    (flows : List ConntrackFlowSample) : List CStr :=
  (flows.filterMap (flowIdentity arp)).eraseDups.take limit

/-- A flow belongs to an identity beyond the limit. -/
def beyondLimit (arp : List ArpEntry) (limit : ℕ) (flows : List ConntrackFlowSample)
    (flow : ConntrackFlowSample) : Bool :=
  (flowIdentity arp flow).any fun key => key ∉ tableIdentities arp limit flows

/-- A sample adds up the flows of its identity. -/
structure AddsUpFlows (flows : List ConntrackFlowSample) (s : ConntrackClientSample) : Prop where
  txBytes  : s.txBytes = (flows.map (·.origBytes)).sum
  rxBytes  : s.rxBytes = (flows.map (·.replyBytes)).sum
  tcpConns : s.tcpConns = UInt32.ofNat (flows.countP (·.isTcpConn))
  udpConns : s.udpConns = UInt32.ofNat (flows.countP (·.isUdp))
  udpSplit : s.udpConns = s.udpDnsConns + s.udpOtherConns
  ips      : s.ips = (flows.map (·.origSrc)).eraseDups.take maxClientIps

/-- The aggregation groups the flows by identity, and accounts for all of them. -/
structure GroupsFlows (arp : List ArpEntry) (limit : ℕ) (flows : List ConntrackFlowSample)
    (agg : FlowAggregate) : Prop where
  identities : agg.samples.map (·.identityKey) = tableIdentities arp limit flows
  samples    : ∀ s ∈ agg.samples, AddsUpFlows (flowsOf arp flows s.identityKey) s
  accounts   : agg.stats.entriesMatched + agg.stats.skippedNoArp +
    flows.countP (beyondLimit arp limit flows) = flows.countP (·.counted)

/-! ## Shares and identities -/

section Shares

variable {arp : List ArpEntry} {flow : ConntrackFlowSample}

/-- The identity of a client that fits in its buffers is the address and the zone around an `@`. -/
theorem ArpFits.identityKey {e : ArpEntry} (h : ArpFits e) :
    identityKey e.mac e.zone = e.mac ++ '@' :: e.zone := by
  have hmac := h.mac_fits
  have hzone := h.zone_fits
  apply snprintf_of_fits
  rw [List.length_append, List.length_cons]
  simp only [macStrLen, zoneStrLen, identityKeyStrLen] at *
  omega

/-- The share of a flow is of the flow's identity. -/
theorem map_key_flowShare (harp : ∀ e ∈ arp, ArpFits e) (flow : ConntrackFlowSample) :
    (flowShare arp flow).map FlowShare.key = flowIdentity arp flow := by
  have hcounted : (!flow.hasOrigSrc || !flow.hasOrigBytes) = !flow.counted :=
    (Bool.not_and flow.hasOrigSrc flow.hasOrigBytes).symm
  rw [flowShare, flowIdentity, hcounted]
  cases flow.counted with
  | false => rfl
  | true =>
    cases hrow : findArpEntry arp flow.origSrc with
    | none => rfl
    | some row => exact congrArg some (harp row (findArpEntry_mem hrow).1).identityKey

/-- A flow with a share has its source address in a row of the ARP table. -/
theorem flowShare_eq_some {share : FlowShare} (h : flowShare arp flow = some share) :
    ∃ row ∈ arp, row.ip = flow.origSrc ∧ share = conntrackShare row flow := by
  unfold flowShare at h
  split_ifs at h
  obtain ⟨row, hrow, rfl⟩ := Option.map_eq_some_iff.mp h
  exact ⟨row, (findArpEntry_mem hrow).1, (findArpEntry_mem hrow).2, rfl⟩

/-- A flow of an identity has its source in an ARP row. -/
theorem exists_row_of_mem_flowsOf {flows : List ConntrackFlowSample} {key : CStr}
    (h : flow ∈ flowsOf arp flows key) : ∃ row ∈ arp, row.ip = flow.origSrc := by
  have hkey := of_decide_eq_true (List.mem_filter.mp h).2
  unfold flowIdentity at hkey
  split_ifs at hkey
  obtain ⟨row, hrow, -⟩ := Option.map_eq_some_iff.mp hkey
  exact ⟨row, findArpEntry_mem hrow⟩

/-- The shares under a key are those of the flows of the identity. -/
theorem filter_filterMap_flowShare (harp : ∀ e ∈ arp, ArpFits e) (flows : List ConntrackFlowSample)
    (key : CStr) :
    ((flows.filterMap (flowShare arp)).filter fun share => share.key = key) =
      (flowsOf arp flows key).filterMap (flowShare arp) := by
  rw [flowsOf, List.filter_filterMap, List.filterMap_filter]
  apply List.filterMap_congr
  intro flow _
  rw [← map_key_flowShare harp]
  cases flowShare arp flow with
  | none => rfl
  | some share => by_cases h : share.key = key <;> simp [h]

/-- What the shares of an identity carry is what its flows carry. -/
theorem map_filterMap_flowShare (harp : ∀ e ∈ arp, ArpFits e) {flows : List ConntrackFlowSample}
    {key : CStr} {M : Type*} {value : FlowShare → M} {flowValue : ConntrackFlowSample → M}
    (h : ∀ flow ∈ flows, ∀ share, flowShare arp flow = some share → value share = flowValue flow) :
    ((flowsOf arp flows key).filterMap (flowShare arp)).map value =
      (flowsOf arp flows key).map flowValue := by
  rw [List.map_filterMap, ← List.filterMap_eq_map]
  apply List.filterMap_congr
  intro flow hflow
  obtain ⟨hmem, hkey⟩ := List.mem_filter.mp hflow
  rw [decide_eq_true_eq, ← map_key_flowShare harp, Option.map_eq_some_iff] at hkey
  obtain ⟨share, hshare, -⟩ := hkey
  rw [hshare]
  exact congrArg some (h flow hmem share hshare)

end Shares

/-! ## The samples -/

section Samples

variable {ctx : FlowContext} {flows : List ConntrackFlowSample}

/-- What each share makes of a part of its sample is, in the end, what the flows of the identity
make of it in turn. -/
theorem fold_flows (harp : ∀ e ∈ ctx.arp, ArpFits e) {M V : Type*}
    {μ : ConntrackClientSample → M} {zero : M}
    {add : M → V → M} {value : FlowShare → V} {flowValue : ConntrackFlowSample → V}
    (hfresh : ∀ share, μ (newConntrackSample share) = zero)
    (hadd : ∀ share s, μ (addShare ctx.nowMs share s) = add (μ s) (value share))
    (hvalue : ∀ flow ∈ flows, ∀ share, flowShare ctx.arp flow = some share →
      value share = flowValue flow)
    {s : ConntrackClientSample} (hs : s ∈ shareTable ctx (flows.filterMap (flowShare ctx.arp))) :
    μ s = ((flowsOf ctx.arp flows s.identityKey).map flowValue).foldl add zero := by
  have hstep : ∀ share s, μ ((shareGrouping ctx.nowMs).add share s) =
      (fun m share => add m (value share)) (μ s) share := hadd
  have hfold : μ s =
      ((flows.filterMap (flowShare ctx.arp)).filter fun share =>
        (some share.key : Option CStr) = some s.identityKey).foldl
          (fun m share => add m (value share)) zero :=
    GroupBy.fold_of_mem_groupBy (shareGrouping_lawful ctx.nowMs) hfresh hstep hs
  simp only [Option.some.injEq] at hfold
  rw [hfold, filter_filterMap_flowShare harp, ← map_filterMap_flowShare harp hvalue, List.foldl_map]

/-- A number to which each share adds its own is the sum over the flows of the identity. -/
theorem sum_flows (harp : ∀ e ∈ ctx.arp, ArpFits e) {M : Type*} [AddCommMonoid M]
    {μ : ConntrackClientSample → M} {value : FlowShare → M} {flowValue : ConntrackFlowSample → M}
    (hfresh : ∀ share, μ (newConntrackSample share) = 0)
    (hadd : ∀ share s, μ (addShare ctx.nowMs share s) = μ s + value share)
    (hvalue : ∀ flow ∈ flows, ∀ share, flowShare ctx.arp flow = some share →
      value share = flowValue flow)
    {s : ConntrackClientSample} (hs : s ∈ shareTable ctx (flows.filterMap (flowShare ctx.arp))) :
    μ s = ((flowsOf ctx.arp flows s.identityKey).map flowValue).sum := by
  rw [fold_flows harp hfresh hadd hvalue hs, List.sum_eq_foldl]

/-- A counter that some shares move up counts the flows of the identity that have such shares. -/
theorem count_flows (harp : ∀ e ∈ ctx.arp, ArpFits e) {μ : ConntrackClientSample → UInt32}
    {counts : FlowShare → Bool} {flowCounts : ConntrackFlowSample → Bool}
    (hfresh : ∀ share, μ (newConntrackSample share) = 0)
    (hadd : ∀ share s, μ (addShare ctx.nowMs share s) = if counts share then μ s + 1 else μ s)
    (hcounts : ∀ flow ∈ flows, ∀ share, flowShare ctx.arp flow = some share →
      counts share = flowCounts flow)
    {s : ConntrackClientSample} (hs : s ∈ shareTable ctx (flows.filterMap (flowShare ctx.arp))) :
    μ s = UInt32.ofNat ((flowsOf ctx.arp flows s.identityKey).countP flowCounts) := by
  have hstep : ∀ share s, μ (addShare ctx.nowMs share s) = μ s + if counts share then 1 else 0 := by
    intro share s
    rw [hadd]
    split_ifs
    · rfl
    · exact (add_zero _).symm
  rw [← Word.sum_map_indicator]
  apply sum_flows harp hfresh hstep _ hs
  intro flow hflow share hshare
  rw [hcounts flow hflow share hshare]

/-- An address is added to those of a sample as a key is admitted. -/
theorem addClientIpUnique_eq {ip : CStr} (hne : ip ≠ []) (hfits : ip.length < ipStrLen)
    (ips : List CStr) :
    addClientIpUnique ips ip = GroupBy.admitKey maxClientIps ips ip := by
  rw [addClientIpUnique, if_neg hne, GroupBy.admitKey, snprintf_of_fits hfits]
  by_cases hmem : ip ∈ ips
  · rw [if_pos hmem, if_pos (.inl hmem)]
  · rw [if_neg hmem]
    by_cases hfull : ips.length ≥ maxClientIps
    · rw [if_pos hfull, if_pos (.inr hfull)]
    · rw [if_neg hfull, if_neg fun h => h.elim hmem hfull]

/-- The addresses of a sample are the first sources of the flows of its identity. -/
theorem ips_flows (harp : ∀ e ∈ ctx.arp, ArpFits e) {s : ConntrackClientSample}
    (hs : s ∈ shareTable ctx (flows.filterMap (flowShare ctx.arp))) :
    s.ips =
      ((flowsOf ctx.arp flows s.identityKey).map (·.origSrc)).eraseDups.take maxClientIps := by
  have hips : s.ips =
      ((flowsOf ctx.arp flows s.identityKey).map (·.origSrc)).foldl addClientIpUnique [] := by
    apply fold_flows harp (fun _ => rfl) (fun _ _ => rfl) _ hs
    intro flow _ share hshare
    obtain ⟨row, -, hip, rfl⟩ := flowShare_eq_some hshare
    exact hip
  rw [hips, ← GroupBy.admitted_eq_take, GroupBy.admitted]
  apply List.foldl_ext
  intro ips ip hip
  obtain ⟨flow, hflow, rfl⟩ := List.mem_map.mp hip
  obtain ⟨row, hrow, hsrc⟩ := exists_row_of_mem_flowsOf hflow
  rw [← hsrc]
  exact addClientIpUnique_eq (harp row hrow).ip_ne (harp row hrow).ip_fits ips

/-- A sample adds up the flows of its identity. -/
theorem addsUpFlows_of_mem (harp : ∀ e ∈ ctx.arp, ArpFits e)
    (hone : ∀ flow ∈ flows, flow.OneProtocol)
    {s : ConntrackClientSample} (hs : s ∈ shareTable ctx (flows.filterMap (flowShare ctx.arp))) :
    AddsUpFlows (flowsOf ctx.arp flows s.identityKey) s where
  txBytes := by
    apply sum_flows harp (fun _ => rfl) (fun _ _ => rfl) _ hs
    intro flow _ share hshare
    obtain ⟨row, -, -, rfl⟩ := flowShare_eq_some hshare
    rfl
  rxBytes := by
    apply sum_flows harp (fun _ => rfl) (fun _ _ => rfl) _ hs
    intro flow _ share hshare
    obtain ⟨row, -, -, rfl⟩ := flowShare_eq_some hshare
    rfl
  tcpConns := by
    apply count_flows harp (fun _ => rfl) (fun _ _ => rfl) _ hs
    intro flow _ share hshare
    obtain ⟨row, -, -, rfl⟩ := flowShare_eq_some hshare
    rfl
  udpConns := by
    apply count_flows harp (fun _ => rfl) (fun _ _ => rfl) _ hs
    intro flow hflow share hshare
    obtain ⟨row, -, -, rfl⟩ := flowShare_eq_some hshare
    -- A UDP flow is no TCP flow, so that the first branch does not keep it from being counted.
    have htcp : flow.isUdp = true → flow.isTcpConn = false := fun hudp =>
      Bool.eq_false_of_not_eq_true fun htcp => hone flow hflow ⟨htcp, hudp⟩
    change (!flow.isTcpConn && flow.isUdp) = flow.isUdp
    cases hudp : flow.isUdp with
    | false => exact Bool.and_false _
    | true => rw [htcp hudp]; rfl
  udpSplit := conserves_of_mem_shareTable s hs
  ips := ips_flows harp hs

/-- The table has the first identities of the flows. -/
theorem map_identityKey_shareTable (harp : ∀ e ∈ ctx.arp, ArpFits e) :
    (shareTable ctx (flows.filterMap (flowShare ctx.arp))).map (·.identityKey) =
      GroupBy.admitted ctx.maxSamples (flows.filterMap (flowIdentity ctx.arp)) := by
  have hkeys : (flows.filterMap (flowShare ctx.arp)).filterMap (shareGrouping ctx.nowMs).keyOf =
      flows.filterMap (flowIdentity ctx.arp) := by
    rw [List.filterMap_filterMap]
    apply List.filterMap_congr
    intro flow _
    rw [← map_key_flowShare harp]
    cases flowShare ctx.arp flow <;> rfl
  rw [← hkeys]
  exact GroupBy.map_key_groupBy (shareGrouping_lawful ctx.nowMs) _

end Samples

/-! ## The counters of the read -/

section Counters

variable {ctx : FlowContext}

/-- A share is matched when its client is in the table, or there is room for it. -/
theorem entriesMatched_addFlowShare (share : FlowShare) (agg : FlowAggregate) :
    (addFlowShare ctx share agg).stats.entriesMatched = agg.stats.entriesMatched +
      if share.key ∈ agg.samples.map (·.identityKey) ∨ agg.samples.length < ctx.maxSamples then 1
        else 0 := by
  unfold addFlowShare
  dsimp only
  cases hfound : findConntrackClientSample share.key agg.samples with
  | some row =>
    have hmem : share.key ∈ agg.samples.map (·.identityKey) := by
      rw [← Keyed.key_of_lookup hfound]
      exact List.mem_map_of_mem (Keyed.mem_of_lookup hfound)
    dsimp only
    rw [if_pos (.inl hmem)]
  | none =>
    have hfresh : share.key ∉ agg.samples.map (·.identityKey) := fun h =>
      Keyed.mem_map_key_iff.mp h hfound
    dsimp only
    by_cases hfull : ctx.maxSamples ≤ agg.samples.length
    · rw [if_pos hfull, if_neg fun h => h.elim hfresh fun hroom =>
        absurd hfull (Nat.not_le.mpr hroom)]
      rfl
    · rw [if_neg hfull, if_pos (.inr (Nat.not_le.mp hfull))]

/-- Adding a share counts no flow without an ARP row. -/
theorem skippedNoArp_addFlowShare (share : FlowShare) (agg : FlowAggregate) :
    (addFlowShare ctx share agg).stats.skippedNoArp = agg.stats.skippedNoArp := by
  unfold addFlowShare
  dsimp only
  split
  · rfl
  · split_ifs <;> rfl

/-- A flow has a source that is in no row of the ARP table. -/
def hasNoRow (arp : List ArpEntry) (flow : ConntrackFlowSample) : Bool :=
  flow.counted && (findArpEntry arp flow.origSrc).isNone

/-- What one flow does to the counters. -/
theorem stats_addConntrackFlow (harp : ∀ e ∈ ctx.arp, ArpFits e) (agg : FlowAggregate)
    (flow : ConntrackFlowSample) :
    (addConntrackFlowToSamples ctx agg flow).stats.skippedNoArp =
        agg.stats.skippedNoArp + (if hasNoRow ctx.arp flow then 1 else 0) ∧
      (addConntrackFlowToSamples ctx agg flow).stats.entriesMatched = agg.stats.entriesMatched +
        if (flowIdentity ctx.arp flow).any (fun key => key ∈ agg.samples.map (·.identityKey) ∨
          agg.samples.length < ctx.maxSamples) then 1 else 0 := by
  have hcounted : (!flow.hasOrigSrc || !flow.hasOrigBytes) = !flow.counted :=
    (Bool.not_and flow.hasOrigSrc flow.hasOrigBytes).symm
  rw [addConntrackFlowToSamples, hcounted, hasNoRow, flowIdentity]
  cases flow.counted with
  | false => exact ⟨rfl, rfl⟩
  | true =>
    cases hrow : findArpEntry ctx.arp flow.origSrc with
    | none => exact ⟨rfl, rfl⟩
    | some row =>
      have hkey : (conntrackShare row flow).key = row.mac ++ '@' :: row.zone :=
        (harp row (findArpEntry_mem hrow).1).identityKey
      refine ⟨skippedNoArp_addFlowShare _ agg, (entriesMatched_addFlowShare _ agg).trans ?_⟩
      rw [hkey]
      simp

/-- The flows without a row are counted. -/
theorem skippedNoArp_flows (harp : ∀ e ∈ ctx.arp, ArpFits e) (flows : List ConntrackFlowSample) :
    (flows.foldl (addConntrackFlowToSamples ctx) {}).stats.skippedNoArp = flows.countP
      (hasNoRow ctx.arp) := by
  induction flows using List.reverseRecOn with
  | nil => rfl
  | append_singleton flows last ih =>
    rw [List.foldl_concat, (stats_addConntrackFlow harp _ last).1, ih, List.countP_append,
      List.countP_singleton]

/-- The flows of the identities in the table are counted. -/
theorem entriesMatched_flows (harp : ∀ e ∈ ctx.arp, ArpFits e) (flows : List ConntrackFlowSample) :
    (flows.foldl (addConntrackFlowToSamples ctx) {}).stats.entriesMatched =
      flows.countP fun flow => (flowIdentity ctx.arp flow).any fun key =>
        key ∈ GroupBy.admitted ctx.maxSamples (flows.filterMap (flowIdentity ctx.arp)) := by
  induction flows using List.reverseRecOn with
  | nil => rfl
  | append_singleton flows last ih =>
    have htable : (flows.foldl (addConntrackFlowToSamples ctx) {}).samples.map (·.identityKey) =
        GroupBy.admitted ctx.maxSamples (flows.filterMap (flowIdentity ctx.arp)) := by
      rw [samples_foldl_addConntrackFlow, map_identityKey_shareTable harp]
    have hlen := congrArg List.length htable
    rw [List.length_map] at hlen
    rw [List.foldl_concat, (stats_addConntrackFlow harp _ last).2,
      ih, htable, hlen, List.countP_append, List.countP_singleton, List.filterMap_append]
    cases hlast : flowIdentity ctx.arp last with
    | none => simp [hlast]
    | some key =>
      -- The identities before are admitted as they were, and the last one when there is room.
      have hkeys : [last].filterMap (flowIdentity ctx.arp) = [key] := by simp [hlast]
      have hbefore : flows.countP (fun flow => (flowIdentity ctx.arp flow).any fun k =>
            k ∈ GroupBy.admitted ctx.maxSamples (flows.filterMap (flowIdentity ctx.arp) ++ [key])) =
          flows.countP fun flow => (flowIdentity ctx.arp flow).any fun k =>
            k ∈ GroupBy.admitted ctx.maxSamples (flows.filterMap (flowIdentity ctx.arp)) := by
        apply List.countP_congr
        intro flow hflow
        cases hid : flowIdentity ctx.arp flow with
        | none => exact Iff.rfl
        | some k =>
          have hk := List.mem_filterMap.mpr ⟨flow, hflow, hid⟩
          simp only [Option.any_some, decide_eq_true_eq, GroupBy.mem_admitted_concat_iff hk]
      simp only [hkeys, hbefore, Option.any_some, decide_eq_true_eq, GroupBy.last_mem_admitted_iff]

/-- A counted flow is of one of some identities, or in no row, or of another identity. -/
theorem flow_kinds (arp : List ArpEntry) (keys : List CStr) (flow : ConntrackFlowSample) :
    (if (flowIdentity arp flow).any (fun key => key ∈ keys) then 1 else 0) +
        (if hasNoRow arp flow then 1 else 0) +
        (if (flowIdentity arp flow).any (fun key => key ∉ keys) then 1 else 0) =
      if flow.counted then 1 else 0 := by
  by_cases hcounted : flow.counted = true
  · cases hrow : findArpEntry arp flow.origSrc with
    | none => simp [flowIdentity, hasNoRow, hcounted, hrow]
    | some row =>
      by_cases hmem : row.mac ++ '@' :: row.zone ∈ keys <;>
        simp [flowIdentity, hasNoRow, hcounted, hrow, hmem]
  · simp [flowIdentity, hasNoRow, hcounted]

/-- Every counted flow is matched, skipped or beyond the limit. -/
theorem accounts_flows (harp : ∀ e ∈ ctx.arp, ArpFits e) (flows : List ConntrackFlowSample) :
    (flows.foldl (addConntrackFlowToSamples ctx) {}).stats.entriesMatched +
        (flows.foldl (addConntrackFlowToSamples ctx) {}).stats.skippedNoArp +
        flows.countP (beyondLimit ctx.arp ctx.maxSamples flows) =
      flows.countP (·.counted) := by
  rw [entriesMatched_flows harp, skippedNoArp_flows harp, GroupBy.admitted_eq_take]
  have hkinds : ∀ (keys : List CStr) (l : List ConntrackFlowSample),
      l.countP (fun flow => (flowIdentity ctx.arp flow).any fun key => key ∈ keys) +
          l.countP (hasNoRow ctx.arp) +
          l.countP (fun flow => (flowIdentity ctx.arp flow).any fun key => key ∉ keys) =
        l.countP (·.counted) := by
    intro keys l
    induction l with
    | nil => rfl
    | cons flow l ih =>
      have hflow := flow_kinds ctx.arp keys flow
      simp only [List.countP_cons]
      omega
  exact hkinds _ flows

end Counters

/-! ## The aggregation -/

/-- Folding `add_conntrack_flow_to_samples` over flows of one protocol each groups them
by identity. -/
theorem conntrack_groups_flows (arp : List ArpEntry) (limit : ℕ) (nowMs : UInt64)
    (flows : List ConntrackFlowSample) (harp : ∀ e ∈ arp, ArpFits e)
    (hone : ∀ flow ∈ flows, flow.OneProtocol) :
    GroupsFlows arp limit flows
      (flows.foldl (addConntrackFlowToSamples { arp, maxSamples := limit, nowMs }) {}) where
  identities := by
    rw [samples_foldl_addConntrackFlow, tableIdentities, ← GroupBy.admitted_eq_take]
    exact map_identityKey_shareTable harp
  samples s hs := by
    rw [samples_foldl_addConntrackFlow] at hs
    exact addsUpFlows_of_mem harp hone hs
  accounts := accounts_flows harp flows

/-! ## What the readers hand over -/

/-- A row of the ARP table fits in its buffers. -/
theorem ArpRow.fits {e : ArpEntry} (h : ArpRow e) : ArpFits e where
  ip_ne := h.ip_ne
  ip_fits := h.ip_fits
  mac_fits := by
    rw [length_of_validMacAddress h.mac.valid]
    decide
  zone_fits := by
    rw [h.zone]
    exact length_deriveZoneFromIfname_lt _

/-- A flow that the procfs reader makes of a line is of the protocol in its third word. -/
theorem oneProtocol_of_procfs {line : CStr} {flow : ConntrackFlowSample}
    (h : parseConntrackProcfsLine line = some flow) : flow.OneProtocol := by
  rw [parseConntrackProcfsLine_eq] at h
  dsimp only at h
  split_ifs at h
  obtain rfl := Option.some.inj h
  rintro ⟨htcp, hudp⟩
  simp only [ConntrackFlowSample.isTcpConn, flowOfWords, Bool.and_eq_true, beq_iff_eq] at htcp hudp
  exact absurd (htcp.1.1.symm.trans hudp) (by decide)

/-- So is the flow that the netlink reader makes of the message of an entry. -/
theorem CtEntry.oneProtocol_netlink {e : CtEntry} {flow : ConntrackFlowSample}
    (h : conntrackNetlinkFlow e.message = some flow) : flow.OneProtocol := by
  cases hc : e.counters with
  | none => exact absurd (h.symm.trans (CtEntry.netlink_none hc)) (Option.some_ne_none _)
  | some c =>
    obtain ⟨flow', hflow, hreads⟩ := CtEntry.netlink_reads hc
    obtain rfl := Option.some.inj (hflow.symm.trans h)
    rintro ⟨htcp, hudp⟩
    rw [ConntrackFlowSample.isTcpConn, hreads.tcp_eq, CtEntry.netlinkTcp] at htcp
    rw [hreads.udp_eq] at hudp
    cases hproto : e.proto <;> simp [hproto, CtProto.isUdp] at htcp hudp

/-- Flows of two neighbours and of an unknown source, of which the table has room for the first. -/
theorem conntrack_groups_two_neighbours :
    let arp : List ArpEntry :=
      [{ ip := "192.168.1.10".toList, mac := "02:00:00:00:00:01".toList, ifname := "br-lan".toList,
         zone := "lan".toList },
       { ip := "192.168.1.20".toList, mac := "02:00:00:00:00:02".toList, ifname := "br-lan".toList,
         zone := "lan".toList }]
    let flow (src : CStr) : ConntrackFlowSample :=
      { origSrc := src, hasOrigSrc := true, origBytes := 100, replyBytes := 700,
        hasOrigBytes := true, isUdp := true }
    let flows :=
      [flow "192.168.1.10".toList, flow "192.168.1.20".toList, flow "192.168.1.30".toList,
      flow "192.168.1.10".toList]
    GroupsFlows arp 1 flows
      (flows.foldl (addConntrackFlowToSamples { arp, maxSamples := 1, nowMs := 1000 }) {}) := by
  intro arp flow flows
  refine conntrack_groups_flows arp 1 1000 flows ?_ ?_
  · simp only [arp, List.forall_mem_cons, List.not_mem_nil, false_imp_iff, implies_true, and_true]
    exact ⟨⟨by decide, by decide, by decide, by decide⟩,
      ⟨by decide, by decide, by decide, by decide⟩⟩
  · intro flow' hflow' h
    have htcp : ∀ f ∈ flows, f.isTcp = false := by simp [flows, flow]
    rw [ConntrackFlowSample.isTcpConn, htcp flow' hflow'] at h
    exact Bool.false_ne_true h.1

end Lanspeed
