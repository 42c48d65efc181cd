import Lanspeed.Zones
import Lanspeed.BpfRates
import Lanspeed.Lib.GroupBy

/-!
# The client limit

The table of `bpf_collect_samples` holds a limited number of clients, and the loop over the map
entries ends at the first entry whose client does not fit. The clients of the table are the first
ones of the map (`map_identityKey_bpfFold`), but entries that come later are lost for all of them,
also for those that are in the table (`limit_only_drops_iff`).
-/

namespace Lanspeed

section Limit

variable {env : FoldEnv}

/-! ## The identities of the table -/

/-- From a table that holds the first identities of the entries in `seen`, the loop makes one that
holds the first identities of all entries. -/
theorem map_identityKey_bpfFold_from {seen : List LanspeedBpfSample}
    {samples : List BpfClientSample} (h : samples.map BpfClientSample.identityKey =
      GroupBy.admitted env.maxFolded (rawKeys env seen))
    (raws : List LanspeedBpfSample) :
    (bpfFold env samples raws).map BpfClientSample.identityKey =
      GroupBy.admitted env.maxFolded (rawKeys env (seen ++ raws)) := by
  induction raws generalizing seen samples with
  | nil => rw [List.append_nil, ← h]; rfl
  | cons raw raws ih =>
    have hlen : samples.length = (GroupBy.admitted env.maxFolded (rawKeys env seen)).length := by
      rw [← h, List.length_map]
    have hsplit : seen ++ raw :: raws = seen ++ [raw] ++ raws := by simp
    rcases bpfTurn_cases env samples raw with ⟨hturn, hid⟩ | ⟨hturn, id, hid, hfull⟩ |
      ⟨id, samples', hid, hins, hturn⟩
    · have hkey : rawKey env raw = none := by rw [rawKey, hid]; rfl
      rw [bpfFold, Loop.loop_cons_yield hturn, ← bpfFold, hsplit]
      apply ih
      rw [rawKeys_concat, hkey, Option.toList_none, List.append_nil, h]
    · -- The table is full, so that no later identity is admitted.
      obtain ⟨-, hroom⟩ := bpfFindOrInsertClient_eq_none hfull
      rw [bpfFold, Loop.loop_cons_done hturn, h, GroupBy.admitted,
        GroupBy.admitted, rawKeys, rawKeys, List.filterMap_append,
        List.foldl_append, ← GroupBy.admitted, ← rawKeys]
      rw [GroupBy.foldl_admitKey (GroupBy.length_admitted_le _),
        List.take_append_of_le_length (hlen ▸ hroom),
        List.take_of_length_le (GroupBy.length_admitted_le _)]
    · have hkey : rawKey env raw = some id.key := by rw [rawKey, hid]; rfl
      rw [bpfFold, Loop.loop_cons_yield hturn, ← bpfFold, hsplit]
      apply ih
      rw [absorbInto, Keyed.map_key_modify (absorbRaw_identityKey env.nowMs raw),
        rawKeys_concat, hkey, Option.toList_some, GroupBy.admitted,
        List.foldl_append, ← GroupBy.admitted, ← h, List.foldl_cons,
        List.foldl_nil, GroupBy.admitKey, List.length_map]
      rcases bpfFindOrInsertClient_cases hins with ⟨rfl, s, hs⟩ | ⟨hnone, hroom, rfl⟩
      · have hmem : id.key ∈ samples'.map BpfClientSample.identityKey :=
          Keyed.key_of_lookup hs ▸ List.mem_map_of_mem (Keyed.mem_of_lookup hs)
        rw [if_pos (.inl hmem)]
      · have hfresh : id.key ∉ samples.map BpfClientSample.identityKey :=
          fun hmem => Keyed.mem_map_key_iff.mp hmem hnone
        rw [if_neg fun h => h.elim hfresh fun hle => absurd hroom (Nat.not_lt.mpr hle),
          List.map_append, List.map_singleton, newBpfClientSample_identityKey hid env.arp]

/-- The table holds the first distinct identities of the entries, as many as the limit allows. -/
theorem map_identityKey_bpfFold (raws : List LanspeedBpfSample) :
    (bpfFold env [] raws).map BpfClientSample.identityKey =
      (rawKeys env raws).eraseDups.take env.maxFolded := by
  rw [← GroupBy.admitted_eq_take]
  have hnil : ([] : List BpfClientSample).map BpfClientSample.identityKey =
      GroupBy.admitted env.maxFolded (rawKeys env []) := rfl
  exact map_identityKey_bpfFold_from hnil raws

/-! ## The entries that are lost -/

/-- Entries without an identity do nothing to a sample. -/
theorem foldl_keyedEntries (key : CStr) (sample : Option BpfClientSample)
    (raws : List LanspeedBpfSample) :
    (keyedEntries env raws).foldl (fun sample entry => absorbKey env key sample entry.1) sample =
      raws.foldl (absorbKey env key) sample := by
  induction raws generalizing sample with
  | nil => rfl
  | cons raw raws ih =>
    rw [List.foldl_cons, ← ih, keyedEntries]
    cases hid : rawIdentity env.ifIndexToName raw with
    | none =>
      have hkey : rawKey env raw = none := by rw [rawKey, hid]; rfl
      rw [List.filterMap_cons_none (by rw [hkey]; rfl), absorbKey, hid, keyedEntries]
    | some id =>
      have hkey : rawKey env raw = some id.key := by rw [rawKey, hid]; rfl
      rw [List.filterMap_cons_some (by rw [hkey]; rfl), List.foldl_cons, keyedEntries]

/-- There is one longest prefix that fits. -/
theorem longest_fit_unique {pre pre' rest post : List LanspeedBpfSample} {raw : LanspeedBpfSample}
    (h : pre ++ rest = pre' ++ raw :: post) (hfit : IdentitiesFit env pre)
    (hfull : ∀ raw post, rest = raw :: post → ¬ IdentitiesFit env (pre ++ [raw]))
    (hfit' : IdentitiesFit env pre') (hfull' : ¬ IdentitiesFit env (pre' ++ [raw])) :
    pre' = pre ∧ rest = raw :: post := by
  rcases List.append_eq_append_iff.mp h with ⟨more, rfl, rfl⟩ | ⟨more, rfl, hmore⟩
  · cases more with
    | nil => exact ⟨List.append_nil pre, rfl⟩
    | cons next more => exact absurd (hfit'.of_prefix ⟨more, by simp⟩) (hfull next _ rfl)
  · cases more with
    | nil => exact ⟨(List.append_nil pre').symm, hmore.symm⟩
    | cons next more =>
      obtain ⟨rfl, -⟩ := List.cons.inj hmore
      exact absurd (hfit.of_prefix ⟨more, by simp⟩) hfull'

/-- The samples are those of the longest prefix that fits. -/
theorem exists_lookup_bpfFold_eq (env : FoldEnv) (raws : List LanspeedBpfSample) :
    ∃ pre rest, raws = pre ++ rest ∧ IdentitiesFit env pre ∧
      (∀ raw post, rest = raw :: post → ¬ IdentitiesFit env (pre ++ [raw])) ∧
      ∀ key, Keyed.lookup BpfClientSample.identityKey key (bpfFold env [] raws) =
        Keyed.lookup BpfClientSample.identityKey key (bpfFold env [] pre) := by
  obtain ⟨pre, ⟨rest, rfl⟩, hfit, hentries, hlongest⟩ :=
    exists_foldedEntries_eq (HoldsKeys.nil env) (by simp [IdentitiesFit, rawKeys]) raws
  refine ⟨pre, rest, rfl, hfit, ?_, fun key => ?_⟩
  · rintro raw post rfl
    exact hlongest raw ⟨post, by simp⟩
  · rw [lookup_bpfFold_foldedEntries, hentries, Keyed.lookup_nil, foldl_keyedEntries]
    exact (lookup_bpfFold hfit key).symm

/-- No entry of a client that fits carries bytes after the first entry that does not fit. -/
def NothingAfterLimit (env : FoldEnv) (raws : List LanspeedBpfSample) : Prop :=
  ∀ pre raw post, raws = pre ++ raw :: post → IdentitiesFit env pre →
    ¬ IdentitiesFit env (pre ++ [raw]) →
    ∀ key ∈ rawKeys env pre, ∀ dir, (post.map (rawBytes env dir key)).sum = 0

/-- The table has the first identities, and each has the bytes of all of its entries. -/
structure LimitOnlyDrops (env : FoldEnv) (raws : List LanspeedBpfSample)
    (samples : List BpfClientSample) : Prop where
  identities : samples.map BpfClientSample.identityKey =
    (rawKeys env raws).eraseDups.take env.maxFolded
  totals     : ∀ s ∈ samples, ∀ dir, s.bytes dir = (raws.map (rawBytes env dir s.identityKey)).sum

/-- An entry that does not fit after entries that fit is of none of their clients. -/
theorem rawBytes_of_not_fit {pre : List LanspeedBpfSample} {raw : LanspeedBpfSample}
    (hfit : IdentitiesFit env pre) (hfull : ¬ IdentitiesFit env (pre ++ [raw])) {key : CStr}
    (hkey : key ∈ rawKeys env pre) (dir : Direction) : rawBytes env dir key raw = 0 := by
  refine if_neg fun h => hfull ?_
  have hsub : rawKeys env (pre ++ [raw]) ⊆ rawKeys env pre := by
    rw [rawKeys_concat, h.1, Option.toList_some]
    exact List.append_subset.mpr ⟨List.Subset.refl _, by simpa using hkey⟩
  refine le_trans (List.subperm_of_subset (List.nodup_dedup _) fun key hkey => ?_).length_le hfit
  exact List.mem_dedup.mpr (hsub (List.mem_dedup.mp hkey))

/-- The limit only drops further identities exactly when nothing of the admitted clients comes after
the first entry that does not fit. -/
theorem limitOnlyDrops_bpfFold_iff (env : FoldEnv) (raws : List LanspeedBpfSample) :
    LimitOnlyDrops env raws (bpfFold env [] raws) ↔ NothingAfterLimit env raws := by
  obtain ⟨pre, rest, rfl, hfit, hfull, hlookup⟩ := exists_lookup_bpfFold_eq env raws
  have hdistinct := distinct_bpfFold env (Keyed.distinct_nil _) (pre ++ rest)
  -- The table has the identities of the prefix, with the bytes of the prefix.
  have hmem : ∀ key, key ∈ rawKeys env pre ↔
      key ∈ (bpfFold env [] (pre ++ rest)).map BpfClientSample.identityKey := by
    intro key
    rw [Keyed.mem_map_key_iff, hlookup, ← Keyed.mem_map_key_iff,
      mem_identities_bpfFold hfit, rawKeys, List.mem_filterMap]
  have htotal : ∀ s ∈ bpfFold env [] (pre ++ rest), ∀ dir,
      s.bytes dir = (pre.map (rawBytes env dir s.identityKey)).sum := by
    intro s hs dir
    have hpre :
        Keyed.lookup BpfClientSample.identityKey s.identityKey (bpfFold env [] pre) = some s := by
      rw [← hlookup]
      exact hdistinct.lookup_of_mem hs
    exact bytes_of_mem_bpfFold hfit (Keyed.mem_of_lookup hpre) dir
  have hsum : LimitOnlyDrops env (pre ++ rest) (bpfFold env [] (pre ++ rest)) ↔
      ∀ key ∈ rawKeys env pre, ∀ dir, (rest.map (rawBytes env dir key)).sum = 0 := by
    constructor
    · intro h key hkey dir
      obtain ⟨s, hs, rfl⟩ := List.mem_map.mp ((hmem key).mp hkey)
      have htot := h.totals s hs dir
      rw [htotal s hs, List.map_append, List.sum_append] at htot
      exact left_eq_add.mp htot
    · intro h
      refine ⟨map_identityKey_bpfFold _, fun s hs dir => ?_⟩
      rw [htotal s hs, List.map_append, List.sum_append,
        h _ ((hmem _).mpr (List.mem_map_of_mem hs)), add_zero]
  rw [hsum]
  constructor
  · intro h pre' raw post heq hfit' hfull'
    obtain ⟨rfl, rfl⟩ := longest_fit_unique heq hfit hfull hfit' hfull'
    intro key hkey dir
    have hrest := h key hkey dir
    rwa [List.map_cons, List.sum_cons, rawBytes_of_not_fit hfit hfull' hkey, zero_add] at hrest
  · intro h key hkey dir
    cases rest with
    | nil => rfl
    | cons raw post =>
      have hraw := hfull raw post rfl
      rw [List.map_cons, List.sum_cons, rawBytes_of_not_fit hfit hraw hkey, zero_add]
      exact h pre raw post rfl hfit hraw key hkey dir

end Limit

/-- What `bpf_collect_samples` makes of a read of the map is limited to the first identities and is
otherwise complete, exactly when nothing of the admitted clients comes after the first entry that
does not fit. -/
theorem limit_only_drops_iff (cfg : CollectorConfig) (st : CollectorState) (nowMs : UInt64)
    (raws : List LanspeedBpfSample) (ifIndexToName : UInt32 → Option CStr) (arp : List ArpEntry) :
    let inp : CollectInput := { nowMs, read := some raws, ifIndexToName, arp }
    LimitOnlyDrops (inp.foldEnv cfg) raws (bpfCollectSamples cfg inp st).bpfCurrentSamples ↔
      NothingAfterLimit (inp.foldEnv cfg) raws :=
  limitOnlyDrops_bpfFold_iff _ raws

/-- An entry of the client with the given last octet. -/
def clientEntry (octet direction : UInt8) (bytes : UInt64) : LanspeedBpfSample :=
  { ifindex := 4, vlan := 0, direction, mac := ⟨2, 0, 0, 0, 0, octet⟩,
    bytes, packets := 1, lastSeenNs := 0,
    tcpConns := 0, udpConns := 0 }

/-- With room for one client, its rx entry is lost when an entry of another client comes
before it. -/
theorem limit_drops_known_client :
    let cfg : CollectorConfig := { bpfConfig with maxClients := 1 }
    let raws := [clientEntry 1 lanspeedBpfDirTx 100, clientEntry 2 lanspeedBpfDirTx 100,
      clientEntry 1 lanspeedBpfDirRx 700]
    let inp : CollectInput := { collectOneClient 1000 0 with read := some raws }
    ¬ LimitOnlyDrops (inp.foldEnv cfg) raws
      (bpfCollectSamples cfg inp (CollectorState.init true)).bpfCurrentSamples := by
  intro cfg raws inp h
  have hsamples : (bpfCollectSamples cfg inp (CollectorState.init true)).bpfCurrentSamples =
      [oneClientSample 1000 100] := by decide +kernel
  have htotal := h.totals (oneClientSample 1000 100) (hsamples ▸ List.mem_cons_self) .rx
  exact absurd htotal (by decide +kernel)

end Lanspeed
