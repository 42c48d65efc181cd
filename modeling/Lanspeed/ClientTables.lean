import Lanspeed.BpfRates
import Lanspeed.Nss
import Lanspeed.Zones

/-!
# The client tables

The BPF fold, the conntrack aggregation and the NSS aggregation each fill a table of clients. The
rows of the three tables have the same form (`WellFormedRow`), and no table has an identity twice or
grows beyond the limits (`client_tables_well_formed`).
-/

namespace Lanspeed

/-- The part of a sample that says which client it is. -/
structure ClientRow where
  mac : CStr
  identityKey : CStr
  zone : CStr
  ifname : CStr
  ips : List CStr
deriving DecidableEq, Repr

def BpfClientSample.row (s : BpfClientSample) : ClientRow :=
  { mac := s.mac, identityKey := s.identityKey, zone := s.zone, ifname := s.ifname, ips := s.ips }

def ConntrackClientSample.row (s : ConntrackClientSample) : ClientRow :=
  { mac := s.mac, identityKey := s.identityKey, zone := s.zone, ifname := s.ifname, ips := s.ips }

/-- The addresses of a row: few, not empty, and no two the same. -/
structure WellFormedIps (ips : List CStr) : Prop where
  le : ips.length ≤ maxClientIps
  ne_nil : ∀ ip ∈ ips, ip ≠ []
  nodup : ips.Nodup

/-- A row is of a client MAC in the zone of an interface that may carry clients. -/
structure WellFormedRow (r : ClientRow) : Prop where
  mac : IsClientMac r.mac
  key : r.identityKey = r.mac ++ '@' :: r.zone
  zone : r.zone = deriveZoneFromIfname r.ifname
  not_excluded : ifnameIsExcludedIdentitySource r.ifname = false
  ips : WellFormedIps r.ips

/-- The representation invariant of a client table. -/
structure WellFormedTable (maxClients : ℤ) (rows : List ClientRow) : Prop where
  distinct : (rows.map ClientRow.identityKey).Nodup
  row : ∀ r ∈ rows, WellFormedRow r
  le_default : rows.length ≤ defaultMaxClients
  le_max : 1 ≤ maxClients → maxClients ≤ defaultMaxClients → rows.length ≤ maxClients

/-! ## Texts that fit -/

/-- A valid address has 17 characters. -/
theorem length_of_validMacAddress {mac : CStr} (h : validMacAddress mac = true) :
    mac.length = 17 := by
  match mac with
  | [] => exact absurd h Bool.false_ne_true
  | [_] => exact absurd h Bool.false_ne_true
  | d0 :: d1 :: rest =>
    simp only [validMacAddress, Bool.and_eq_true, beq_iff_eq] at h
    exact h.1.1.1.1.1.1.1

theorem IsClientMac.snprintf {mac : CStr} (h : IsClientMac mac) : snprintf macStrLen mac = mac :=
  snprintf_of_fits (by rw [length_of_validMacAddress h.valid]; decide)

/-- The identity of a client MAC in a zone is not cut. -/
theorem IsClientMac.identityKey {mac zone : CStr} (h : IsClientMac mac)
    (hzone : zone.length < zoneStrLen) :
    identityKey mac zone = mac ++ '@' :: zone := by
  apply snprintf_of_fits
  rw [List.length_append, List.length_cons, length_of_validMacAddress h.valid]
  simp only [zoneStrLen] at hzone
  simp only [identityKeyStrLen]
  omega

/-- A name that is cut to an interface name is in the zone of the whole name. -/
theorem deriveZoneFromIfname_snprintf (ifname : CStr) :
    deriveZoneFromIfname (snprintf ifnameStrLen ifname) = deriveZoneFromIfname ifname :=
  deriveZoneFromIfname_eq_iff.mpr (.inr (snprintf_snprintf zoneStrLen ifname))

/-- A name that is cut to an interface name is excluded if the whole name is. -/
theorem excluded_snprintf (ifname : CStr) :
    ifnameIsExcludedIdentitySource (snprintf ifnameStrLen ifname)
      = ifnameIsExcludedIdentitySource ifname := by
  by_cases hfits : ifname.length < ifnameStrLen
  · rw [snprintf_of_fits hfits]
  · -- A name that is cut is none of the short names, and starts as the whole name does.
    have hshort : ∀ short : CStr, short.length < ifnameStrLen - 1 →
        (snprintf ifnameStrLen ifname == short) = (ifname == short) := by
      intro short hlen
      have hcut : (snprintf ifnameStrLen ifname).length = ifnameStrLen - 1 := by
        rw [snprintf, List.length_take]
        omega
      rw [beq_eq_false_iff_ne.mpr fun h => by rw [h] at hcut; omega,
        beq_eq_false_iff_ne.mpr fun h => by rw [h] at hfits; omega]
    have hne : snprintf ifnameStrLen ifname ≠ [] := by
      intro h
      have := hshort [] (by decide)
      rw [h] at this
      rw [beq_iff_eq.mp this.symm] at hfits
      exact hfits (by decide)
    have hne' : ifname ≠ [] := fun h => hne (by rw [h]; rfl)
    rw [ifnameIsExcludedIdentitySource, ifnameIsExcludedIdentitySource, if_neg hne, if_neg hne',
      hshort _ (by decide), hshort _ (by decide), startsWith_snprintf (by decide),
      startsWith_snprintf (by decide), startsWith_snprintf (by decide)]

/-! ## The limits -/

/-- The client limit that is in force is at most the default one. -/
theorem maxSamples_le_default (cfg : CollectorConfig) : cfg.maxSamples ≤ defaultMaxClients := by
  rw [CollectorConfig.maxSamples]
  split_ifs <;> omega

/-- A table of distinct identities within the limit of the collectors is within the configured
limit. -/
theorem WellFormedTable.of_le {cfg : CollectorConfig} {rows : List ClientRow}
    (hdistinct : (rows.map ClientRow.identityKey).Nodup) (hrows : ∀ r ∈ rows, WellFormedRow r)
    (hle : rows.length ≤ cfg.maxSamples) : WellFormedTable cfg.maxClients rows := by
  refine ⟨hdistinct, hrows, hle.trans (maxSamples_le_default cfg), fun hpos hmax => ?_⟩
  rw [CollectorConfig.maxSamples] at hle
  split_ifs at hle <;> omega

/-! ## The tables of shares -/

/-- Adding an address that fits keeps the addresses of a client well formed. -/
theorem WellFormedIps.addClientIpUnique {ips : List CStr} (h : WellFormedIps ips) {ip : CStr}
    (hfits : ip.length < ipStrLen) : WellFormedIps (addClientIpUnique ips ip) := by
  unfold Lanspeed.addClientIpUnique
  split_ifs with hempty hmem hfull
  · exact h
  · exact h
  · exact h
  · rw [snprintf_of_fits hfits]
    refine ⟨?_, ?_, ?_⟩
    · rw [List.length_append, List.length_singleton]
      omega
    · exact List.forall_mem_append.mpr ⟨h.ne_nil, List.forall_mem_singleton.mpr hempty⟩
    · refine List.nodup_append.mpr ⟨h.nodup, List.nodup_singleton ip, fun a ha b hb hab => ?_⟩
      rw [hab, List.mem_singleton.mp hb] at ha
      exact hmem ha

/-- A share of a client MAC whose source is in an ARP row. -/
structure ClientShare (share : FlowShare) : Prop where
  mac : IsClientMac share.mac
  arp : ArpRow share.arp

/-- A share makes a row, and keeps rows. -/
theorem ClientShare.addShare {share : FlowShare} (h : ClientShare share) (nowMs : UInt64)
    {sample : ConntrackClientSample} (hrow : WellFormedRow sample.row) :
    WellFormedRow (addShare nowMs share sample).row where
  mac := hrow.mac
  key := hrow.key
  zone := hrow.zone
  not_excluded := hrow.not_excluded
  ips := hrow.ips.addClientIpUnique h.arp.ip_fits

/-- The row that a share starts is well formed. -/
theorem ClientShare.newConntrackSample {share : FlowShare} (h : ClientShare share) :
    WellFormedRow (newConntrackSample share).row := by
  have hzone : share.arp.zone.length < zoneStrLen := by
    rw [h.arp.zone]
    exact length_deriveZoneFromIfname_lt _
  have hkey : snprintf identityKeyStrLen share.key = share.mac ++ '@' :: share.arp.zone :=
    (snprintf_snprintf identityKeyStrLen _).trans (h.mac.identityKey hzone)
  constructor
  · show IsClientMac (snprintf macStrLen share.mac)
    rw [h.mac.snprintf]
    exact h.mac
  · show snprintf identityKeyStrLen share.key = snprintf macStrLen share.mac ++
        '@' :: snprintf zoneStrLen _
    rw [hkey, h.mac.snprintf, snprintf_of_fits hzone]
  · show snprintf zoneStrLen share.arp.zone =
        deriveZoneFromIfname (snprintf ifnameStrLen share.arp.ifname)
    rw [snprintf_of_fits hzone, snprintf_of_fits h.arp.ifname_fits]
    exact h.arp.zone
  · show ifnameIsExcludedIdentitySource (snprintf ifnameStrLen share.arp.ifname) = false
    rw [snprintf_of_fits h.arp.ifname_fits]
    exact h.arp.not_excluded
  · exact ⟨Nat.zero_le _, fun ip hip => absurd hip List.not_mem_nil, List.nodup_nil⟩

/-- A table of shares is well formed. -/
theorem wellFormedTable_shareTable {cfg : CollectorConfig} {ctx : FlowContext}
    (hmax : ctx.maxSamples = cfg.maxSamples) {shares : List FlowShare}
    (h : ∀ share ∈ shares, ClientShare share) :
    WellFormedTable cfg.maxClients ((shareTable ctx shares).map ConntrackClientSample.row) := by
  refine .of_le ?_ ?_ ?_
  · rw [List.map_map]
    exact GroupBy.distinct_groupBy (shareGrouping_lawful ctx.nowMs) shares
  · refine List.forall_mem_map.mpr (GroupBy.forall_mem_groupBy ?_ ?_)
    · exact fun share hshare _ _ => (h share hshare).addShare _ (h share hshare).newConntrackSample
    · exact fun share hshare _ _ _ _ hrow => (h share hshare).addShare _ hrow
  · rw [List.length_map, ← hmax]
    exact GroupBy.length_groupBy_le (shareGrouping_lawful ctx.nowMs) shares

/-- A share of a conntrack flow has the identity of an ARP row. -/
theorem clientShare_of_flowShare {arp : List ArpEntry} (harp : ∀ e ∈ arp, ArpRow e)
    {flow : ConntrackFlowSample} {share : FlowShare} (h : flowShare arp flow = some share) :
    ClientShare share := by
  unfold flowShare at h
  split_ifs at h
  obtain ⟨row, hrow, rfl⟩ := Option.map_eq_some_iff.mp h
  have hrow := harp row (findArpEntry_mem hrow).1
  exact ⟨hrow.mac, hrow⟩

/-- A share of an ECM flow has the identity of an ARP row. -/
theorem clientShare_of_nssFlowShare {arp : List ArpEntry} (harp : ∀ e ∈ arp, ArpRow e)
    {flow : NssEcmDirectFlow} {share : FlowShare} (h : nssFlowShare arp flow = some share) :
    ClientShare share := by
  unfold nssFlowShare at h
  split_ifs at h
  obtain ⟨row, hrow, rfl⟩ := Option.map_eq_some_iff.mp h
  have hrow := harp row (findArpEntry_mem hrow).1
  refine ⟨?_, hrow⟩
  show IsClientMac (normalizeMacAddress _)
  split_ifs with hvalid
  · rw [snprintf_of_fits (by rw [length_of_validMacAddress hvalid]; decide)]
    exact isClientMac_normalize hvalid
  · rw [hrow.mac.snprintf, hrow.mac.lower]
    exact hrow.mac

/-! ## The BPF table -/

/-- The address loop of `bpf_find_or_insert_client` lists addresses of ARP rows. -/
theorem wellFormedIps_bpfClientIps {arp : List ArpEntry} (harp : ∀ e ∈ arp, ArpRow e) (mac : CStr) :
    WellFormedIps (bpfClientIps arp mac) := by
  refine List.foldlRecOn arp _ ⟨Nat.zero_le _, by simp, List.nodup_nil⟩ fun ips hips e he => ?_
  have hrow := harp e he
  split_ifs with hfull hmac hmem
  · exact hips
  · exact hips
  · exact hips
  · rw [snprintf_of_fits hrow.ip_fits]
    refine ⟨?_, ?_, ?_⟩
    · rw [List.length_append, List.length_singleton]
      omega
    · exact List.forall_mem_append.mpr ⟨hips.ne_nil, List.forall_mem_singleton.mpr hrow.ip_ne⟩
    · refine List.nodup_append.mpr ⟨hips.nodup, List.nodup_singleton _, fun a ha b hb hab => ?_⟩
      rw [hab, List.mem_singleton.mp hb] at ha
      exact hmem ha

/-- A printed address is normal already. -/
theorem normalizeMacAddress_macText (mac : Mac) :
    normalizeMacAddress (macText mac) = macText mac := by
  have hdigit : ∀ i : Fin 16, (hexDigit i).toLower = hexDigit i := by decide
  have hbyte : ∀ b : UInt8, (hexByte b).map Char.toLower = hexByte b := by
    intro b
    have hb := b.toNat_lt
    rw [hexByte, List.map_cons, List.map_singleton, hdigit ⟨b.toNat / 16, by omega⟩,
      hdigit ⟨b.toNat % 16, by omega⟩]
  have hcolon : Char.toLower ':' = ':' := by decide
  simp only [normalizeMacAddress, macText, List.map_append, List.map_cons, hbyte, hcolon]

/-- The row that a raw entry with an identity starts. -/
theorem wellFormedRow_newBpfClientSample {ifIndexToName : UInt32 → Option CStr}
    {raw : LanspeedBpfSample} {id : RawIdentity} (hid : rawIdentity ifIndexToName raw = some id)
    {arp : List ArpEntry} (harp : ∀ e ∈ arp, ArpRow e) :
    WellFormedRow (newBpfClientSample id arp).row := by
  obtain ⟨hvalid, hincluded, rfl⟩ := rawIdentity_eq_some.mp hid
  have hmac : IsClientMac (macText raw.mac) := ⟨hvalid, normalizeMacAddress_macText raw.mac⟩
  have hzone := length_deriveZoneFromIfname_lt (rawIfname ifIndexToName raw)
  constructor
  · show IsClientMac (snprintf macStrLen (macText raw.mac))
    rw [hmac.snprintf]
    exact hmac
  · show snprintf identityKeyStrLen (identityKey _ _) =
        snprintf macStrLen _ ++ '@' :: snprintf zoneStrLen _
    rw [hmac.snprintf, snprintf_of_fits hzone, identityKey, snprintf_snprintf]
    exact hmac.identityKey hzone
  · show snprintf zoneStrLen (deriveZoneFromIfname _) =
        deriveZoneFromIfname (snprintf ifnameStrLen _)
    rw [snprintf_of_fits hzone, deriveZoneFromIfname_snprintf]
  · show ifnameIsExcludedIdentitySource (snprintf ifnameStrLen _) = false
    rw [excluded_snprintf]
    exact hincluded
  · exact wellFormedIps_bpfClientIps harp _

/-- Adding a raw entry leaves the row of its client as it is. -/
theorem row_absorbRaw (nowMs : UInt64) (raw : LanspeedBpfSample) (sample : BpfClientSample) :
    (absorbRaw nowMs raw sample).row = sample.row := by
  unfold absorbRaw
  dsimp only
  split_ifs <;> rfl

/-- Every row of the BPF table is well formed. -/
theorem wellFormedRow_bpfFold {env : FoldEnv} (harp : ∀ e ∈ env.arp, ArpRow e)
    (raws : List LanspeedBpfSample) : ∀ s ∈ bpfFold env [] raws, WellFormedRow s.row := by
  have hstep : ∀ samples samples' raw id, (∀ s ∈ samples, WellFormedRow s.row) →
      rawIdentity env.ifIndexToName raw = some id →
      bpfFindOrInsertClient samples env.maxFolded id env.arp = some samples' →
      ∀ s ∈ absorbInto env raw id.key samples', WellFormedRow s.row := by
    intro samples samples' raw id hrows hid hins
    have hrows' : ∀ s ∈ samples', WellFormedRow s.row := by
      rcases bpfFindOrInsertClient_cases hins with ⟨rfl, -⟩ | ⟨-, -, rfl⟩
      · exact hrows
      · exact List.forall_mem_append.mpr ⟨hrows,
          List.forall_mem_singleton.mpr (wellFormedRow_newBpfClientSample hid harp)⟩
    intro s hs
    rcases Keyed.mem_modify hs with hold | ⟨old, hold, -, rfl⟩
    · exact hrows' s hold
    · rw [row_absorbRaw]
      exact hrows' old hold
  exact bpfFold_invariant hstep (fun s hs => absurd hs List.not_mem_nil) raws

/-- The BPF table has no more rows than the fold may make. -/
theorem length_bpfFold_le (env : FoldEnv) (raws : List LanspeedBpfSample) :
    (bpfFold env [] raws).length ≤ env.maxFolded := by
  refine bpfFold_invariant (P := fun samples => samples.length ≤
    env.maxFolded) ?_ (Nat.zero_le _) raws
  intro samples samples' raw id hle hid hins
  rw [absorbInto, Keyed.length_modify]
  rcases bpfFindOrInsertClient_cases hins with ⟨rfl, -⟩ | ⟨-, hroom, rfl⟩
  · exact hle
  · rw [List.length_append, List.length_singleton]
    omega

/-- What one call of `bpf_collect_samples` reads, with the content of the ARP file. -/
structure BpfCollectCall where
  nowMs : UInt64
  read : Option (List LanspeedBpfSample)
  ifIndexToName : UInt32 → Option CStr
  arpFile : Option CStr

/-- The call with the ARP table that it loads. -/
def BpfCollectCall.input (call : BpfCollectCall) : CollectInput :=
  { nowMs := call.nowMs
    read := call.read
    ifIndexToName := call.ifIndexToName
    arp := loadArpTable call.arpFile }

/-- A step of the collectors that only calls `bpf_collect_samples`. -/
def collectStep (cfg : CollectorConfig) (st : CollectorState) (call : BpfCollectCall) :
    CollectorState :=
  bpfCollectSamples cfg call.input st

/-- A call of `bpf_collect_samples` keeps the table well formed, or makes a new one that is. -/
theorem wellFormedTable_collectStep {cfg : CollectorConfig} {st : CollectorState}
    (h : WellFormedTable cfg.maxClients (st.bpfCurrentSamples.map BpfClientSample.row))
    (call : BpfCollectCall) :
    WellFormedTable cfg.maxClients
      ((collectStep cfg st call).bpfCurrentSamples.map BpfClientSample.row) := by
  rw [collectStep, bpfCollectSamples]
  cases call.input.read with
  | none => exact h
  | some raws =>
    refine .of_le ?_ ?_ ?_
    · rw [List.map_map]
      exact distinct_bpfFold _ (Keyed.distinct_nil _) raws
    · exact List.forall_mem_map.mpr
        (wellFormedRow_bpfFold (fun e he => arpRow_of_mem_loadArpTable he) raws)
    · rw [List.length_map]
      exact length_bpfFold_le _ raws

/-! ## All tables -/

/-- The empty table is well formed. -/
theorem wellFormedTable_nil (maxClients : ℤ) : WellFormedTable maxClients [] where
  distinct := List.nodup_nil
  row r hr := absurd hr List.not_mem_nil
  le_default := Nat.zero_le _
  le_max hpos _ := Int.le_trans (by decide) hpos

/-- The table of the BPF fold after any run of its calls, and the tables of any flows that conntrack
or the NSS connection manager hand over, are well formed, whatever the ARP files hold. -/
theorem client_tables_well_formed (cfg : CollectorConfig) :
    (∀ enabled (calls : List BpfCollectCall), WellFormedTable cfg.maxClients
      ((Machine.run (collectStep cfg) (.init enabled) calls).bpfCurrentSamples.map
        BpfClientSample.row)) ∧
    (∀ nowMs arpFile (flows : List ConntrackFlowSample), WellFormedTable cfg.maxClients
      ((flows.foldl (addConntrackFlowToSamples
        { arp := loadArpTable arpFile, maxSamples := cfg.maxSamples, nowMs }) {}).samples.map
        ConntrackClientSample.row)) ∧
    (∀ nowMs arpFile (flows : List NssEcmDirectFlow), WellFormedTable cfg.maxClients
      ((flows.foldl (addNssEcmDirectFlowToSamples
        { arp := loadArpTable arpFile, maxSamples := cfg.maxSamples, nowMs }) {}).samples.map
        ConntrackClientSample.row)) := by
  have harp : ∀ (arpFile : Option CStr), ∀ e ∈ loadArpTable arpFile, ArpRow e :=
    fun arpFile e he => arpRow_of_mem_loadArpTable he
  refine ⟨fun enabled calls => ?_, fun nowMs arpFile flows => ?_, fun nowMs arpFile flows => ?_⟩
  · have hinit : WellFormedTable cfg.maxClients
        ((CollectorState.init enabled).bpfCurrentSamples.map BpfClientSample.row) :=
      wellFormedTable_nil cfg.maxClients
    exact Machine.run_invariant (I := fun st : CollectorState => WellFormedTable cfg.maxClients
      (st.bpfCurrentSamples.map BpfClientSample.row)) (collectStep cfg)
      (fun st call h => wellFormedTable_collectStep h call) hinit calls
  · rw [samples_foldl_addConntrackFlow]
    apply wellFormedTable_shareTable rfl
    intro share hshare
    obtain ⟨flow, -, hflow⟩ := List.mem_filterMap.mp hshare
    exact clientShare_of_flowShare (harp arpFile) hflow
  · rw [samples_foldl (samples_addNssFlow _)]
    apply wellFormedTable_shareTable rfl
    intro share hshare
    obtain ⟨flow, -, hflow⟩ := List.mem_filterMap.mp hshare
    exact clientShare_of_nssFlowShare (harp arpFile) hflow

end Lanspeed
