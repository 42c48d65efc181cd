import Lanspeed.ClientLimit
import Lanspeed.ClientTables
import Lanspeed.Conntrack.GroupSpec

/-!
# The addresses of a client and its zone

A sample lists addresses of its client. `add_conntrack_flow_to_samples` takes MAC, zone and address
from one ARP row, so that the address is one of the client's zone (`ips_in_zone_conntrack`).
`bpf_find_or_insert_client` takes the first addresses of all rows of the MAC, on whichever interface
they were seen: they are of the client's zone when each of them was seen there too, and only then
(`ips_in_zone_iff`).
-/

namespace Lanspeed

/-- An ARP row gives an address to a MAC, on an interface of a zone. -/
def IpInZone (arp : List ArpEntry) (mac zone ip : CStr) : Prop :=
  ∃ e ∈ arp, e.ip = ip ∧ e.mac = mac ∧ deriveZoneFromIfname e.ifname = zone

instance (arp : List ArpEntry) (mac zone ip : CStr) : Decidable (IpInZone arp mac zone ip) :=
  inferInstanceAs (Decidable (∃ e ∈ arp, _))

/-- Every address of a client is one that an ARP row gives to it in its zone. -/
def IpsInZone (arp : List ArpEntry) (rows : List ClientRow) : Prop :=
  ∀ row ∈ rows, ∀ ip ∈ row.ips, IpInZone arp row.mac row.zone ip

/-- The addresses that the ARP rows of a MAC have, each once. -/
def addressesOf (arp : List ArpEntry) (mac : CStr) : List CStr :=
  ((arp.filter fun e => e.mac = mac).map ArpEntry.ip).eraseDups

/-- The first addresses of the MAC of every entry whose identity is in the table were seen in the
zone of the entry's interface too. -/
def FirstAddressesInZone (env : FoldEnv) (raws : List LanspeedBpfSample) : Prop :=
  ∀ raw ∈ raws, ∀ key ∈ (rawKeys env raws).eraseDups.take env.maxFolded, rawKey env raw = some key →
    ∀ ip ∈ (addressesOf env.arp (macText raw.mac)).take maxClientIps,
      IpInZone env.arp (macText raw.mac) (deriveZoneFromIfname (rawIfname env.ifIndexToName raw)) ip

/-! ## The BPF table -/

/-- The address loop lists the first addresses of the rows of the MAC. -/
theorem bpfClientIps_eq {arp : List ArpEntry} (harp : ∀ e ∈ arp, ArpRow e) {mac : CStr}
    (hmac : normalizeMacAddress mac = mac) :
    bpfClientIps arp mac = (addressesOf arp mac).take maxClientIps := by
  rw [addressesOf, ← GroupBy.admitted_eq_take, GroupBy.admitted, List.foldl_map, List.foldl_filter,
    bpfClientIps]
  apply List.foldl_ext
  intro ips e he
  have hrow := harp e he
  have hsame : strcaseeq e.mac mac = decide (e.mac = mac) := by
    rw [strcaseeq, ← normalizeMacAddress, ← normalizeMacAddress,
      hrow.mac.lower, hmac, beq_eq_decide]
  rw [hsame, snprintf_of_fits hrow.ip_fits, GroupBy.admitKey]
  by_cases hmem : e.mac = mac
  · by_cases hfull : ips.length ≥ maxClientIps
    · simp [hmem, hfull]
    · by_cases hold : e.ip ∈ ips
      · simp [hmem, hold]
      · simp [hmem, hold, hfull]
  · simp [hmem]

/-- A sample is what a raw entry of its identity starts, as far as its row goes. -/
def StartedBy (env : FoldEnv) (s : BpfClientSample) : Prop :=
  ∃ raw id, rawIdentity env.ifIndexToName raw = some id ∧
    s.row = (newBpfClientSample id env.arp).row

/-- Every row of the BPF table was started by an entry. -/
theorem startedBy_bpfFold (env : FoldEnv) (raws : List LanspeedBpfSample) :
    ∀ s ∈ bpfFold env [] raws, StartedBy env s := by
  have hstep : ∀ samples samples' raw id, (∀ s ∈ samples, StartedBy env s) →
      rawIdentity env.ifIndexToName raw = some id →
      bpfFindOrInsertClient samples env.maxFolded id env.arp = some samples' →
      ∀ s ∈ absorbInto env raw id.key samples', StartedBy env s := by
    intro samples samples' raw id hstart hid hins
    have hstart' : ∀ s ∈ samples', StartedBy env s := by
      rcases bpfFindOrInsertClient_cases hins with ⟨rfl, -⟩ | ⟨-, -, rfl⟩
      · exact hstart
      · exact List.forall_mem_append.mpr ⟨hstart, List.forall_mem_singleton.mpr ⟨raw, id, hid, rfl⟩⟩
    intro s hs
    rcases Keyed.mem_modify hs with hold | ⟨old, hold, -, rfl⟩
    · exact hstart' s hold
    · rw [StartedBy, row_absorbRaw]
      exact hstart' old hold
  exact bpfFold_invariant hstep (fun s hs => absurd hs List.not_mem_nil) raws

/-- The row of the sample under the identity of a raw entry. -/
theorem row_of_mem_bpfFold {env : FoldEnv} (harp : ∀ e ∈ env.arp, ArpRow e)
    {raws : List LanspeedBpfSample}
    {s : BpfClientSample} (hs : s ∈ bpfFold env [] raws) {raw : LanspeedBpfSample}
    (hkey : rawKey env raw = some s.identityKey) :
    s.mac = macText raw.mac ∧ s.zone = deriveZoneFromIfname (rawIfname env.ifIndexToName raw) ∧
      s.ips = (addressesOf env.arp (macText raw.mac)).take maxClientIps := by
  obtain ⟨first, id, hid, hrow⟩ := startedBy_bpfFold env raws s hs
  have hfirst : s.identityKey = id.key :=
    (congrArg ClientRow.identityKey hrow).trans (newBpfClientSample_identityKey hid env.arp)
  have hmac := congrArg ClientRow.mac hrow
  have hzone := congrArg ClientRow.zone hrow
  have hips := congrArg ClientRow.ips hrow
  -- The identity of the first entry is that of the given one.
  obtain ⟨-, hkey⟩ := rawKey_eq_some_iff.mp hkey
  obtain ⟨-, -, rfl⟩ := rawIdentity_eq_some.mp hid
  rw [hkey] at hfirst
  obtain ⟨hmaceq, hzoneeq⟩ :=
    identityKey_inj (length_deriveZoneFromIfname_lt _) (length_deriveZoneFromIfname_lt _) hfirst
  refine ⟨?_, ?_, ?_⟩
  · rw [hmaceq]
    exact hmac.trans (snprintf_of_fits (by rw [length_macText]; decide))
  · rw [hzoneeq]
    exact hzone.trans (snprintf_of_fits (length_deriveZoneFromIfname_lt _))
  · rw [hmaceq]
    exact hips.trans (bpfClientIps_eq harp (normalizeMacAddress_macText _))

/-- A sample has the identity of an entry, one of those that the table has room for. -/
theorem exists_raw_of_mem_bpfFold {env : FoldEnv} {raws : List LanspeedBpfSample}
    {s : BpfClientSample} (hs : s ∈ bpfFold env [] raws) :
    s.identityKey ∈ (rawKeys env raws).eraseDups.take env.maxFolded ∧
      ∃ raw ∈ raws, rawKey env raw = some s.identityKey := by
  have hkey : s.identityKey ∈ (rawKeys env raws).eraseDups.take env.maxFolded := by
    rw [← map_identityKey_bpfFold]
    exact List.mem_map_of_mem hs
  exact ⟨hkey, List.mem_filterMap.mp (List.mem_eraseDups.mp (List.mem_of_mem_take hkey))⟩

/-- The addresses of the table are of the zones of their clients when the first addresses are. -/
theorem ipsInZone_bpfFold_iff {env : FoldEnv} (harp : ∀ e ∈ env.arp, ArpRow e)
    (raws : List LanspeedBpfSample) :
    IpsInZone env.arp ((bpfFold env [] raws).map BpfClientSample.row) ↔
      FirstAddressesInZone env raws := by
  rw [IpsInZone, List.forall_mem_map, FirstAddressesInZone]
  constructor
  · intro h raw _ key hkey hraw ip hip
    rw [← map_identityKey_bpfFold] at hkey
    obtain ⟨s, hs, rfl⟩ := List.mem_map.mp hkey
    obtain ⟨hmac, hzone, hips⟩ := row_of_mem_bpfFold harp hs hraw
    rw [← hmac, ← hzone]
    apply h s hs ip
    show ip ∈ s.ips
    rw [hips]
    exact hip
  · intro h s hs ip hip
    obtain ⟨hkey, raw, hraw, hrawkey⟩ := exists_raw_of_mem_bpfFold hs
    obtain ⟨hmac, hzone, hips⟩ := row_of_mem_bpfFold harp hs hrawkey
    show IpInZone env.arp s.mac s.zone ip
    rw [hmac, hzone]
    exact h raw hraw _ hkey hrawkey ip (hips ▸ hip)

/-! ## The conntrack table -/

/-- A row has the MAC and the zone that its identity key is made of, and its addresses are of this
zone. -/
structure RowInZone (arp : List ArpEntry) (row : ClientRow) : Prop where
  mac : row.mac.length = 17
  key : row.identityKey = row.mac ++ '@' :: row.zone
  ips : ∀ ip ∈ row.ips, IpInZone arp row.mac row.zone ip

/-- The identity of a share of a flow is made of the MAC and the zone of an ARP row. -/
theorem key_conntrackShare {e : ArpEntry} (he : ArpRow e) (flow : ConntrackFlowSample) :
    (conntrackShare e flow).key = e.mac ++ '@' :: e.zone :=
  he.mac.identityKey (he.zone ▸ length_deriveZoneFromIfname_lt _)

/-- Adding a share of the row's identity adds an address of its zone. -/
theorem RowInZone.addShare {arp : List ArpEntry} {e : ArpEntry} (hmem : e ∈ arp) (he : ArpRow e)
    {flow : ConntrackFlowSample} {s : ConntrackClientSample} (h : RowInZone arp s.row)
    (hkey : s.identityKey = (conntrackShare e flow).key) (nowMs : UInt64) :
    RowInZone arp (addShare nowMs (conntrackShare e flow) s).row := by
  refine ⟨h.mac, h.key, ?_⟩
  have hparts : s.mac = e.mac ∧ s.zone = e.zone := by
    have heq : s.mac ++ '@' :: s.zone = e.mac ++ '@' :: e.zone := by
      rw [← key_conntrackShare he flow, ← hkey]
      exact h.key.symm
    obtain ⟨hmac, hzone⟩ :=
      List.append_inj heq (h.mac.trans (length_of_validMacAddress he.mac.valid).symm)
    exact ⟨hmac, List.tail_eq_of_cons_eq hzone⟩
  intro ip hip
  replace hip : ip ∈ addClientIpUnique s.ips e.ip := hip
  rw [addClientIpUnique_eq he.ip_ne he.ip_fits, GroupBy.admitKey] at hip
  split_ifs at hip
  · exact h.ips ip hip
  · rcases List.mem_append.mp hip with hold | hnew
    · exact h.ips ip hold
    · obtain rfl := List.mem_singleton.mp hnew
      exact ⟨e, hmem, rfl, hparts.1.symm, (hparts.2.trans he.zone).symm⟩

/-- The row that a share starts. -/
theorem rowInZone_newConntrackSample {arp : List ArpEntry} {e : ArpEntry} (he : ArpRow e)
    (flow : ConntrackFlowSample) :
    RowInZone arp (newConntrackSample (conntrackShare e flow)).row := by
  have hmac : snprintf macStrLen e.mac = e.mac := he.mac.snprintf
  have hzone : snprintf zoneStrLen e.zone = e.zone :=
    snprintf_of_fits (he.zone ▸ length_deriveZoneFromIfname_lt _)
  have hrow : (newConntrackSample (conntrackShare e flow)).row =
      { mac := snprintf macStrLen e.mac
        identityKey := snprintf identityKeyStrLen (identityKey e.mac e.zone)
        zone := snprintf zoneStrLen e.zone
        ifname := snprintf ifnameStrLen e.ifname, ips := [] } := rfl
  rw [hrow, hmac, hzone, identityKey, snprintf_snprintf]
  exact ⟨length_of_validMacAddress he.mac.valid, key_conntrackShare he flow,
    fun ip hip => absurd hip List.not_mem_nil⟩

/-- The addresses of the table that the conntrack flows make are of the zones of their clients. -/
theorem ipsInZone_conntrack {ctx : FlowContext} (harp : ∀ e ∈ ctx.arp, ArpRow e)
    (flows : List ConntrackFlowSample) :
    IpsInZone ctx.arp
      ((flows.foldl (addConntrackFlowToSamples ctx) {}).samples.map ConntrackClientSample.row) := by
  rw [samples_foldl_addConntrackFlow, IpsInZone, List.forall_mem_map]
  suffices h : ∀ s ∈ shareTable ctx (flows.filterMap (flowShare ctx.arp)),
      RowInZone ctx.arp s.row from
    fun s hs => (h s hs).ips
  have hshare : ∀ share ∈ flows.filterMap (flowShare ctx.arp),
      ∃ e ∈ ctx.arp, ∃ flow, share = conntrackShare e flow := by
    intro share hmem
    obtain ⟨flow, -, hflow⟩ := List.mem_filterMap.mp hmem
    obtain ⟨e, he, -, rfl⟩ := flowShare_eq_some hflow
    exact ⟨e, he, flow, rfl⟩
  apply GroupBy.forall_mem_groupBy
  · intro share hmem k _
    obtain ⟨e, he, flow, rfl⟩ := hshare share hmem
    have hnew : RowInZone ctx.arp (newConntrackSample (conntrackShare e flow)).row :=
      rowInZone_newConntrackSample (harp e he) flow
    exact hnew.addShare he (harp e he) (snprintf_snprintf identityKeyStrLen _) ctx.nowMs
  · intro share hmem k s hk hs hrow
    obtain ⟨e, he, flow, rfl⟩ := hshare share hmem
    exact hrow.addShare he (harp e he) (hs.trans (Option.some.inj hk).symm) ctx.nowMs

/-! ## The collectors -/

/-- After a successful map read, the addresses in the table of `bpf_collect_samples` are of the
zones of their clients exactly when the first addresses of the MAC of each client were seen in its
zone. Those of the conntrack table always are. -/
theorem ips_in_zone_iff (cfg : CollectorConfig) (st : CollectorState) (nowMs : UInt64)
    (ifIndexToName : UInt32 → Option CStr) (arpFile : Option CStr) (raws : List LanspeedBpfSample)
    (maxSamples : ℕ) (flows : List ConntrackFlowSample) :
    let call : BpfCollectCall := { nowMs, read := some raws, ifIndexToName, arpFile }
    let ctx : FlowContext := { arp := loadArpTable arpFile, maxSamples, nowMs }
    (IpsInZone (loadArpTable arpFile)
      ((collectStep cfg st call).bpfCurrentSamples.map BpfClientSample.row) ↔
        FirstAddressesInZone (call.input.foldEnv cfg) raws) ∧
      IpsInZone (loadArpTable arpFile)
        ((flows.foldl (addConntrackFlowToSamples ctx) {}).samples.map
          ConntrackClientSample.row) := by
  intro call ctx
  have harp : ∀ e ∈ loadArpTable arpFile, ArpRow e := fun e he => arpRow_of_mem_loadArpTable he
  constructor
  · have hfold : ∀ e ∈ (call.input.foldEnv cfg).arp, ArpRow e := harp
    exact ipsInZone_bpfFold_iff hfold raws
  · have hctx : ∀ e ∈ ctx.arp, ArpRow e := harp
    exact ipsInZone_conntrack hctx flows

/-- An ARP file with one MAC on the LAN bridge and on a guest bridge. -/
def twoZonesArpFile : CStr :=
  "IP address HW type Flags HW address Mask Device\n".toList ++
    "192.168.1.10 0x1 0x2 02:00:00:00:00:01 * br-lan\n".toList ++
    "10.9.0.7 0x1 0x2 02:00:00:00:00:01 * br-guest\n".toList

/-- The call that reads this file, and one entry of the MAC on the LAN bridge. -/
def twoZonesCall : BpfCollectCall :=
  { nowMs := 1000
    read := some
      [{ ifindex := 3, vlan := 0, direction := lanspeedBpfDirTx,
         mac := ⟨2, 0, 0, 0, 0, 1⟩, bytes := 100,
         packets := 1, lastSeenNs := 0, tcpConns := 0, udpConns := 0 }]
    ifIndexToName := fun ifindex => if ifindex = 3 then some "br-lan".toList else none
    arpFile := some twoZonesArpFile }

/-- The client of the LAN shows the address of the guest bridge. -/
theorem not_ipsInZone_twoZones :
    ¬ IpsInZone (loadArpTable (some twoZonesArpFile))
      ((collectStep {} (.init true) twoZonesCall).bpfCurrentSamples.map BpfClientSample.row) := by
  intro h
  have hrows :
      (collectStep {} (.init true) twoZonesCall).bpfCurrentSamples.map BpfClientSample.row =
      [{ mac := "02:00:00:00:00:01".toList, identityKey := "02:00:00:00:00:01@lan".toList
         zone := "lan".toList, ifname := "br-lan".toList
         ips := ["192.168.1.10".toList, "10.9.0.7".toList] }] := by decide +kernel
  rw [hrows] at h
  have hip := h _ List.mem_cons_self "10.9.0.7".toList (by decide)
  exact absurd hip (by decide +kernel)

end Lanspeed
