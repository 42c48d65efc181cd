import Lanspeed.BpfFold

/-!
# VLANs and zones of folded entries

The identity of a raw entry is its MAC and the zone of its interface name; the VLAN id of the entry
does not take part, and all names that start with `br-lan`, `lan` or `wlan` are one zone. Two
entries of one MAC that a VLAN id or the interface tells apart share an identity when their zones
are the same.
-/

namespace Lanspeed

/-! ## The entries that the loop adds -/

/-- The entries that the loop of `bpf_collect_samples` adds to a client, each with the identity key
of the client. -/
def foldedEntries (env : FoldEnv) :
    List BpfClientSample → List LanspeedBpfSample → List (LanspeedBpfSample × CStr)
  | _, [] => []
  | samples, raw :: raws =>
    match rawIdentity env.ifIndexToName raw with
    | none => foldedEntries env samples raws
    | some id =>
      match bpfFindOrInsertClient samples env.maxFolded id env.arp with
      | none => []
      | some samples' =>
        (raw, id.key) :: foldedEntries env (absorbInto env raw id.key samples') raws

/-- The entries of a list that have an identity, with its key. -/
def keyedEntries (env : FoldEnv) (raws : List LanspeedBpfSample) :
    List (LanspeedBpfSample × CStr) :=
  raws.filterMap fun raw => (rawKey env raw).map fun key => (raw, key)

/-- The loop makes every sample from the entries that it adds under the key of the sample. -/
theorem lookup_bpfFold_foldedEntries (env : FoldEnv) (samples : List BpfClientSample)
    (raws : List LanspeedBpfSample) (key : CStr) :
    Keyed.lookup BpfClientSample.identityKey key (bpfFold env samples raws)
      = (foldedEntries env samples raws).foldl
        (fun sample entry => absorbKey env key sample entry.1)
          (Keyed.lookup BpfClientSample.identityKey key samples) := by
  induction raws generalizing samples with
  | nil => rfl
  | cons raw raws ih =>
    rw [foldedEntries]
    rcases bpfTurn_cases env samples raw with ⟨hturn, hid⟩ | ⟨hturn, id, hid, hfull⟩ |
      ⟨id, samples', hid, hins, hturn⟩
    · rw [bpfFold, Loop.loop_cons_yield hturn, ← bpfFold, ih, hid]
    · rw [bpfFold, Loop.loop_cons_done hturn, hid]
      dsimp only
      rw [hfull]
      rfl
    · rw [bpfFold, Loop.loop_cons_yield hturn, ← bpfFold, ih, hid, lookup_bpfTurn hturn]
      dsimp only
      rw [hins]
      rfl

/-- The table holds the identities of the entries in `seen`, each once. -/
structure HoldsKeys (env : FoldEnv) (seen : List LanspeedBpfSample)
    (samples : List BpfClientSample) : Prop where
  distinct : DistinctIdentities samples
  keys : ∀ key, key ∈ samples.map BpfClientSample.identityKey ↔ key ∈ rawKeys env seen

theorem HoldsKeys.nil (env : FoldEnv) : HoldsKeys env [] [] :=
  ⟨Keyed.distinct_nil _, by simp [rawKeys]⟩

/-- The table then has one sample for each of these identities. -/
theorem HoldsKeys.length_eq {env : FoldEnv} {seen : List LanspeedBpfSample}
    {samples : List BpfClientSample} (h : HoldsKeys env seen samples) :
    samples.length = (rawKeys env seen).dedup.length := by
  have hperm : (samples.map BpfClientSample.identityKey).Perm (rawKeys env seen).dedup := by
    rw [List.perm_ext_iff_of_nodup h.distinct (List.nodup_dedup _)]
    simp only [h.keys, List.mem_dedup, implies_true]
  rw [← hperm.length_eq, List.length_map]

/-- The identity of one more entry. -/
theorem rawKeys_concat (env : FoldEnv) (seen : List LanspeedBpfSample) (raw : LanspeedBpfSample) :
    rawKeys env (seen ++ [raw]) = rawKeys env seen ++ (rawKey env raw).toList := by
  rw [rawKeys, rawKeys, List.filterMap_append]
  cases hkey : rawKey env raw with
  | none => simp [hkey]
  | some key => simp [hkey]

/-- Adding an entry to the table adds its identity to those that the table holds. -/
theorem HoldsKeys.absorb {env : FoldEnv} {seen : List LanspeedBpfSample}
    {samples samples' : List BpfClientSample} {raw : LanspeedBpfSample} {id : RawIdentity}
    (h : HoldsKeys env seen samples) (hid : rawIdentity env.ifIndexToName raw = some id)
    (hins : bpfFindOrInsertClient samples env.maxFolded id env.arp = some samples') :
    HoldsKeys env (seen ++ [raw]) (absorbInto env raw id.key samples') := by
  have hnew := newBpfClientSample_identityKey hid env.arp
  have hkey : rawKey env raw = some id.key := by rw [rawKey, hid]; rfl
  refine ⟨distinct_absorbInto env raw id.key (distinct_bpfFindOrInsertClient hnew h.distinct hins),
    fun key => ?_⟩
  rw [absorbInto, Keyed.map_key_modify (absorbRaw_identityKey env.nowMs raw), rawKeys_concat, hkey,
    List.mem_append, ← h.keys, Option.toList_some, List.mem_singleton]
  rcases bpfFindOrInsertClient_cases hins with ⟨rfl, s, hs⟩ | ⟨-, -, rfl⟩
  · have hmem : id.key ∈ samples'.map BpfClientSample.identityKey :=
      Keyed.key_of_lookup hs ▸ List.mem_map_of_mem (Keyed.mem_of_lookup hs)
    exact ⟨Or.inl, fun hor => hor.elim (fun hold => hold) fun heq => heq ▸ hmem⟩
  · rw [List.map_append, List.map_singleton, hnew, List.mem_append, List.mem_singleton]

/-- A client that does not fit is one identity too many. -/
theorem HoldsKeys.not_fit {env : FoldEnv} {seen : List LanspeedBpfSample}
    {samples : List BpfClientSample} {raw : LanspeedBpfSample} {id : RawIdentity}
    (h : HoldsKeys env seen samples) (hid : rawIdentity env.ifIndexToName raw = some id)
    (hfull : bpfFindOrInsertClient samples env.maxFolded id env.arp = none) :
    ¬ IdentitiesFit env (seen ++ [raw]) := by
  obtain ⟨hlookup, hlen⟩ := bpfFindOrInsertClient_eq_none hfull
  have hkey : rawKey env raw = some id.key := by rw [rawKey, hid]; rfl
  have hfresh : id.key ∉ rawKeys env seen := by
    rw [← h.keys]
    exact fun hmem => Keyed.mem_map_key_iff.mp hmem hlookup
  rw [IdentitiesFit, rawKeys_concat, hkey, Option.toList_some]
  have hcount : (rawKeys env seen ++ [id.key]).dedup.length
      = (rawKeys env seen).dedup.length + 1 := by
    have hperm :
        (rawKeys env seen ++ [id.key]).dedup.Perm (id.key :: (rawKeys env seen).dedup) := by
      rw [← List.dedup_cons_of_notMem hfresh]
      exact (List.perm_append_singleton _ _).dedup
    rw [hperm.length_eq, List.length_cons]
  have := h.length_eq
  omega

/-- An entry that is added to the table is one that fits. -/
theorem HoldsKeys.fit {env : FoldEnv} {seen : List LanspeedBpfSample}
    {samples samples' : List BpfClientSample} {raw : LanspeedBpfSample} {id : RawIdentity}
    (h : HoldsKeys env seen samples) (hfit : IdentitiesFit env seen)
    (hid : rawIdentity env.ifIndexToName raw = some id)
    (hins : bpfFindOrInsertClient samples env.maxFolded id env.arp = some samples') :
    IdentitiesFit env (seen ++ [raw]) := by
  have hlen := (h.absorb hid hins).length_eq
  rw [absorbInto, Keyed.length_modify] at hlen
  rw [IdentitiesFit, ← hlen]
  rcases bpfFindOrInsertClient_cases hins with ⟨rfl, -⟩ | ⟨-, hroom, rfl⟩
  · rw [h.length_eq]
    exact hfit
  · rw [List.length_append, List.length_singleton]
    omega

/-- The loop adds the entries of the longest prefix whose identities fit in the table. -/
theorem exists_foldedEntries_eq {env : FoldEnv} {seen : List LanspeedBpfSample}
    {samples : List BpfClientSample} (h : HoldsKeys env seen samples)
    (hfit : IdentitiesFit env seen) (raws : List LanspeedBpfSample) :
    ∃ pre, pre <+: raws ∧ IdentitiesFit env (seen ++ pre) ∧
      foldedEntries env samples raws = keyedEntries env pre ∧
      ∀ raw, pre ++ [raw] <+: raws → ¬ IdentitiesFit env (seen ++ (pre ++ [raw])) := by
  induction raws generalizing seen samples with
  | nil =>
    refine ⟨[], List.prefix_rfl, by simpa using hfit, rfl, fun raw hpre => ?_⟩
    simp at hpre
  | cons raw raws ih =>
    -- A turn that goes on leaves the rest of the list to the induction hypothesis.
    have hcons : ∀ {samples' : List BpfClientSample}, HoldsKeys env (seen ++ [raw]) samples' →
        IdentitiesFit env (seen ++ [raw]) →
        foldedEntries env samples (raw :: raws)
          = keyedEntries env [raw] ++ foldedEntries env samples' raws →
        ∃ pre, pre <+: raw :: raws ∧ IdentitiesFit env (seen ++ pre) ∧
          foldedEntries env samples (raw :: raws) = keyedEntries env pre ∧
          ∀ next, pre ++ [next] <+: raw :: raws →
            ¬ IdentitiesFit env (seen ++ (pre ++ [next])) := by
      intro samples' hholds hfits hfold
      obtain ⟨pre, hpre, hprefit, hentries, hlongest⟩ := ih hholds hfits
      refine ⟨raw :: pre, List.cons_prefix_cons.mpr ⟨rfl, hpre⟩, by simpa using hprefit, ?_, ?_⟩
      · rw [hfold, hentries, keyedEntries, keyedEntries, ← List.filterMap_append]
        rfl
      · intro next hnext
        have hnext : pre ++ [next] <+: raws := (List.cons_prefix_cons.mp hnext).2
        simpa using hlongest next hnext
    cases hid : rawIdentity env.ifIndexToName raw with
    | none =>
      have hkey : rawKey env raw = none := by rw [rawKey, hid]; rfl
      have hsame : rawKeys env (seen ++ [raw]) = rawKeys env seen := by
        rw [rawKeys_concat, hkey, Option.toList_none, List.append_nil]
      have hholds : HoldsKeys env (seen ++ [raw]) samples :=
        ⟨h.distinct, by rw [hsame]; exact h.keys⟩
      refine hcons hholds ?_ ?_
      · rw [IdentitiesFit, hsame]
        exact hfit
      · simp [foldedEntries, hid, keyedEntries, hkey]
    | some id =>
      have hkey : rawKey env raw = some id.key := by rw [rawKey, hid]; rfl
      cases hins : bpfFindOrInsertClient samples env.maxFolded id env.arp with
      | none =>
        refine ⟨[], List.nil_prefix, by simpa using hfit, ?_, fun next hnext => ?_⟩
        · simp [foldedEntries, hid, hins, keyedEntries]
        · obtain rfl : next = raw := (List.cons_prefix_cons.mp hnext).1
          exact h.not_fit hid hins
      | some samples' =>
        apply hcons (h.absorb hid hins) (h.fit hfit hid hins)
        simp [foldedEntries, hid, hins, keyedEntries, hkey]

/-- A prefix of entries that fit fits. -/
theorem IdentitiesFit.of_prefix {env : FoldEnv} {pre raws : List LanspeedBpfSample}
    (h : IdentitiesFit env raws) (hpre : pre <+: raws) : IdentitiesFit env pre := by
  obtain ⟨rest, rfl⟩ := hpre
  have hsub : rawKeys env pre ⊆ rawKeys env (pre ++ rest) := by
    rw [rawKeys, rawKeys, List.filterMap_append]
    exact List.subset_append_left _ _
  refine le_trans (List.subperm_of_subset (List.nodup_dedup _) fun key hkey => ?_).length_le h
  exact List.mem_dedup.mpr (hsub (List.mem_dedup.mp hkey))

/-- A statement about all pairs of entries that the loop adds is one about all prefixes of the
snapshot whose identities fit in the table. -/
theorem pairwise_foldedEntries_iff (env : FoldEnv)
    {R : LanspeedBpfSample × CStr → LanspeedBpfSample × CStr → Prop}
    (raws : List LanspeedBpfSample) :
    (foldedEntries env [] raws).Pairwise R ↔
      ∀ pre, pre <+: raws → IdentitiesFit env pre → (keyedEntries env pre).Pairwise R := by
  obtain ⟨longest, hprefix, hfit, hentries, hlongest⟩ :=
    exists_foldedEntries_eq (HoldsKeys.nil env) (by simp [IdentitiesFit, rawKeys]) raws
  rw [hentries]
  constructor
  · intro hpairs pre hpre hprefit
    -- No prefix that fits reaches past the longest one.
    have hle : pre <+: longest := by
      rcases List.prefix_or_prefix_of_prefix hpre hprefix with hle | ⟨rest, rfl⟩
      · exact hle
      · cases rest with
        | nil => simp
        | cons next rest =>
          have hnext : longest ++ [next] <+: raws :=
            List.IsPrefix.trans ⟨rest, by simp⟩ hpre
          refine absurd ?_ (hlongest next hnext)
          rw [List.nil_append]
          exact hprefit.of_prefix ⟨rest, by simp⟩
    obtain ⟨rest, rfl⟩ := hle
    rw [keyedEntries, List.filterMap_append] at hpairs
    exact (List.pairwise_append.mp hpairs).1
  · exact fun h => h longest hprefix (by simpa using hfit)

/-! ## The zone of an interface name -/

/-- The names whose zone is `lan`. -/
def LanNamed (ifname : CStr) : Prop :=
  startsWith ifname "br-lan".toList = true ∨ startsWith ifname "lan".toList = true ∨
    startsWith ifname "wlan".toList = true ∨ ifname = []

/-- Two interface names are in one zone: both are named like a LAN, or they are the same name as far
as a zone buffer holds it. -/
def SameZone (ifname ifname' : CStr) : Prop :=
  (LanNamed ifname ∧ LanNamed ifname') ∨ snprintf zoneStrLen ifname = snprintf zoneStrLen ifname'

instance (ifname : CStr) : Decidable (LanNamed ifname) := inferInstanceAs (Decidable (_ ∨ _))

instance (ifname ifname' : CStr) : Decidable (SameZone ifname ifname') :=
  inferInstanceAs (Decidable (_ ∨ _))

/-- An interface with a LAN name is in the zone `lan`. -/
theorem deriveZoneFromIfname_of_lanNamed {ifname : CStr} (h : LanNamed ifname) :
    deriveZoneFromIfname ifname = "lan".toList := by
  have hlan : snprintf zoneStrLen "lan".toList = "lan".toList := by decide
  rw [deriveZoneFromIfname, hlan]
  split_ifs with hprefix hempty
  · rfl
  · simp only [Bool.or_eq_true, not_or] at hprefix
    obtain ⟨⟨hbr, hname⟩, hwlan⟩ := hprefix
    rcases h with h | h | h | h
    · exact absurd h hbr
    · exact absurd h hname
    · exact absurd h hwlan
    · exact absurd h hempty
  · rfl

/-- Any other interface is a zone of its own. -/
theorem deriveZoneFromIfname_of_not_lanNamed {ifname : CStr} (h : ¬ LanNamed ifname) :
    deriveZoneFromIfname ifname = snprintf zoneStrLen ifname := by
  simp only [LanNamed, not_or, Bool.not_eq_true] at h
  obtain ⟨hbr, hname, hwlan, hempty⟩ := h
  rw [deriveZoneFromIfname, hbr, hname, hwlan, if_pos hempty]
  rfl

/-- A zone buffer holds enough of a name to tell whether it is named like a LAN. -/
theorem lanNamed_snprintf (ifname : CStr) :
    LanNamed (snprintf zoneStrLen ifname) ↔ LanNamed ifname := by
  have hempty : snprintf zoneStrLen ifname = [] ↔ ifname = [] := by
    rw [snprintf, List.take_eq_nil_iff]
    exact or_iff_right (by decide)
  rw [LanNamed, LanNamed, startsWith_snprintf (by decide), startsWith_snprintf (by decide),
    startsWith_snprintf (by decide), hempty]

/-- Two names have the same zone text when they are in one zone, and only then. -/
theorem deriveZoneFromIfname_eq_iff {ifname ifname' : CStr} :
    deriveZoneFromIfname ifname = deriveZoneFromIfname ifname' ↔ SameZone ifname ifname' := by
  have hlan : LanNamed "lan".toList := .inr (.inl (by decide))
  -- The zone text of a name that is not like a LAN is not `lan`.
  have hother : ∀ {name : CStr}, ¬ LanNamed name → snprintf zoneStrLen name ≠ "lan".toList :=
    fun hname heq => hname ((lanNamed_snprintf _).mp (heq ▸ hlan))
  rw [SameZone]
  by_cases h : LanNamed ifname <;> by_cases h' : LanNamed ifname'
  · simp [deriveZoneFromIfname_of_lanNamed, h, h']
  · rw [deriveZoneFromIfname_of_lanNamed h, deriveZoneFromIfname_of_not_lanNamed h']
    apply iff_of_false (Ne.symm (hother h'))
    rintro (⟨-, hlan'⟩ | heq)
    · exact h' hlan'
    · exact h' ((lanNamed_snprintf _).mp (heq ▸ (lanNamed_snprintf _).mpr h))
  · rw [deriveZoneFromIfname_of_not_lanNamed h, deriveZoneFromIfname_of_lanNamed h']
    apply iff_of_false (hother h)
    rintro (⟨hlan', -⟩ | heq)
    · exact h hlan'
    · exact h ((lanNamed_snprintf _).mp (heq ▸ (lanNamed_snprintf _).mpr h'))
  · rw [deriveZoneFromIfname_of_not_lanNamed h, deriveZoneFromIfname_of_not_lanNamed h',
      or_iff_right fun hor => h hor.1]

/-! ## Entries that a VLAN tells apart -/

/-- Two entries of one MAC were seen in different VLANs, or on two different interfaces each of
which is a VLAN subinterface or a bridge (`segment`). -/
structure SeenApart (segment : UInt32 → Prop) (raw raw' : LanspeedBpfSample) : Prop where
  mac : raw.mac = raw'.mac
  apart : raw.vlan ≠ raw'.vlan ∨
    (segment raw.ifindex ∧ segment raw'.ifindex ∧ raw.ifindex ≠ raw'.ifindex)

/-- No two entries of a snapshot that are seen apart are folded into one identity. -/
def VlansKeptApart (env : FoldEnv) (segment : UInt32 → Prop)
    (raws : List LanspeedBpfSample) : Prop :=
  (foldedEntries env [] raws).Pairwise fun entry entry' =>
    SeenApart segment entry.1 entry'.1 → entry.2 ≠ entry'.2

/-- An entry carries a client: its address is one of a client, and its interface is not excluded. -/
def CarriesClient (env : FoldEnv) (raw : LanspeedBpfSample) : Prop :=
  validClientMac raw.mac = true ∧
    ifnameIsExcludedIdentitySource (rawIfname env.ifIndexToName raw) = false

/-- Among the entries of clients that are seen apart, no two are on interfaces of one zone, as far
as the clients fit in the table. -/
def ZonesApart (env : FoldEnv) (segment : UInt32 → Prop) (raws : List LanspeedBpfSample) : Prop :=
  ∀ pre, pre <+: raws → IdentitiesFit env pre → pre.Pairwise fun raw raw' =>
    CarriesClient env raw → CarriesClient env raw' → SeenApart segment raw raw' →
      ¬ SameZone (rawIfname env.ifIndexToName raw) (rawIfname env.ifIndexToName raw')

/-- The key of an entry, where it has one. -/
theorem rawKey_eq_some_iff {env : FoldEnv} {raw : LanspeedBpfSample} {key : CStr} :
    rawKey env raw = some key ↔ CarriesClient env raw ∧
      key = identityKey (macText raw.mac)
        (deriveZoneFromIfname (rawIfname env.ifIndexToName raw)) := by
  rw [rawKey, Option.map_eq_some_iff, CarriesClient, ← validMacAddress_macText]
  constructor
  · rintro ⟨id, hid, rfl⟩
    obtain ⟨hmac, hifname, rfl⟩ := rawIdentity_eq_some.mp hid
    exact ⟨⟨hmac, hifname⟩, rfl⟩
  · rintro ⟨⟨hmac, hifname⟩, rfl⟩
    exact ⟨_, rawIdentity_eq_some.mpr ⟨hmac, hifname, rfl⟩, rfl⟩

/-- Two entries of one MAC have the same identity when their interfaces are in one zone, and only
then. -/
theorem identityKey_eq_iff {mac : Mac} {ifname ifname' : CStr} :
    identityKey (macText mac) (deriveZoneFromIfname ifname)
        = identityKey (macText mac) (deriveZoneFromIfname ifname') ↔
      SameZone ifname ifname' := by
  rw [← deriveZoneFromIfname_eq_iff]
  constructor
  · intro h
    exact (identityKey_inj (length_deriveZoneFromIfname_lt _)
      (length_deriveZoneFromIfname_lt _) h).2
  · exact fun h => congrArg _ h

/-- `bpf_collect_samples` keeps entries that are seen apart under different identities exactly when
no two of them are on interfaces of one zone. -/
theorem vlans_kept_apart_iff (env : FoldEnv) (segment : UInt32 → Prop)
    (raws : List LanspeedBpfSample) :
    VlansKeptApart env segment raws ↔ ZonesApart env segment raws := by
  rw [VlansKeptApart, pairwise_foldedEntries_iff, ZonesApart]
  refine forall_congr' fun pre => imp_congr_right fun _ => imp_congr_right fun _ => ?_
  rw [keyedEntries, List.pairwise_filterMap]
  refine iff_of_eq (congrArg (fun R => pre.Pairwise R) ?_)
  funext raw raw'
  refine propext ⟨fun h hc hc' hapart hzone => ?_,
    fun h entry hentry entry' hentry' hapart hkey => ?_⟩
  · refine h _ (Option.map_eq_some_iff.mpr ⟨_, rawKey_eq_some_iff.mpr ⟨hc, rfl⟩, rfl⟩) _
      (Option.map_eq_some_iff.mpr ⟨_, rawKey_eq_some_iff.mpr ⟨hc', rfl⟩, rfl⟩) hapart ?_
    show identityKey (macText raw.mac) _ = identityKey (macText raw'.mac) _
    rw [← hapart.mac]
    exact identityKey_eq_iff.mpr hzone
  · obtain ⟨key, hraw, rfl⟩ := Option.map_eq_some_iff.mp hentry
    obtain ⟨key', hraw', rfl⟩ := Option.map_eq_some_iff.mp hentry'
    obtain ⟨hc, rfl⟩ := rawKey_eq_some_iff.mp hraw
    obtain ⟨hc', rfl⟩ := rawKey_eq_some_iff.mp hraw'
    refine h hc hc' hapart (identityKey_eq_iff.mp (?_ : identityKey (macText raw.mac) _ = _))
    rwa [hapart.mac] at hkey ⊢

/-- An entry of one client on the interface with an index and a VLAN id. -/
def vlanEntry (ifindex : UInt32) (vlan : UInt16) : LanspeedBpfSample :=
  { ifindex, vlan, direction := lanspeedBpfDirTx, mac := ⟨2, 0, 0, 0, 0, 1⟩, bytes := 100,
    packets := 1, lastSeenNs := 0, tcpConns := 0, udpConns := 0 }

/-- The loop in a router with the two VLAN bridges `br-lan.10` and `br-lan.20`. -/
def vlanBridgesEnv : FoldEnv :=
  { nowMs := 1000, maxFolded := 128, arp := []
    ifIndexToName := fun ifindex =>
      if ifindex = 10 then some "br-lan.10".toList
      else if ifindex = 20 then some "br-lan.20".toList
      else none }

/-- A MAC on two VLAN bridges with different VLAN ids becomes one client. -/
theorem vlans_not_kept_apart_bridges :
    ¬ VlansKeptApart vlanBridgesEnv (fun _ => True) [vlanEntry 10 10, vlanEntry 20 20] := by
  intro h
  have hzones := (vlans_kept_apart_iff _ _ _).mp h _ List.prefix_rfl (by decide +kernel)
  refine List.rel_of_pairwise_cons hzones List.mem_cons_self ⟨?_, ?_⟩ ⟨?_, ?_⟩ ⟨rfl, ?_⟩ ?_
  · decide +kernel
  · decide +kernel
  · decide +kernel
  · decide +kernel
  · exact .inl (by decide)
  · exact .inl (by decide +kernel)

end Lanspeed
