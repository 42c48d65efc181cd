import Lanspeed.MapReader
import Lanspeed.State
import Lanspeed.Lib.Keyed
import Lanspeed.Lib.Loop
import Lanspeed.Lib.Word
import Mathlib.Data.List.Dedup
import Mathlib.Order.MinMax

/-!
# Folding map entries into clients

`bpf_collect_samples` turns the raw entries of the kernel map into one sample for each client. The
loop skips entries that carry no client, finds or inserts the client's sample, and adds the entry's
counter; it ends at the first client that no longer fits.
-/

namespace Lanspeed

/-- `strcasecmp(a, b) == 0`. -/
def strcaseeq (a b : CStr) : Bool := a.map Char.toLower == b.map Char.toLower

/-- The address loop of `bpf_find_or_insert_client`. -/
def bpfClientIps (arp : List ArpEntry) (mac : CStr) : List CStr :=
  arp.foldl
    (fun ips entry =>
      if ips.length ≥ maxClientIps then ips
      else if !strcaseeq entry.mac mac then ips
      else if entry.ip ∈ ips then ips
      else ips ++ [snprintf ipStrLen entry.ip])
    []

/-- The client a raw entry belongs to. -/
structure RawIdentity where
  mac : CStr
  ifname : CStr
  zone : CStr
  key : CStr
deriving DecidableEq, Repr

/-- The sample that `bpf_find_or_insert_client` inserts for a new client. -/
def newBpfClientSample (id : RawIdentity) (arp : List ArpEntry) : BpfClientSample :=
  { mac := snprintf macStrLen id.mac
    identityKey := snprintf identityKeyStrLen id.key
    zone := snprintf zoneStrLen id.zone
    ifname := snprintf ifnameStrLen id.ifname
    ips := bpfClientIps arp id.mac }

/-- `bpf_find_or_insert_client`. The returned table has a sample under the identity key, the one the
source returns a pointer to; `none` is the null pointer. -/
def bpfFindOrInsertClient (samples : List BpfClientSample) (maxSamples : ℕ) (id : RawIdentity)
    (arp : List ArpEntry) : Option (List BpfClientSample) :=
  match Keyed.lookup BpfClientSample.identityKey id.key samples with
  | some _ => some samples
  | none =>
    if samples.length ≥ maxSamples then none
    else some (samples ++ [newBpfClientSample id arp])

/-- The name of a raw entry's interface, or a name made from its index when it has none. -/
def rawIfname (ifIndexToName : UInt32 → Option CStr) (raw : LanspeedBpfSample) : CStr :=
  match ifIndexToName raw.ifindex with
  | some name => name
  | none => snprintf ifnameStrLen ("if".toList ++ decimal raw.ifindex.toNat)

/-- The first half of the loop body of `bpf_collect_samples`: the identity of a raw entry, or `none`
where the source continues with the next entry. -/
@[irreducible] def rawIdentity (ifIndexToName : UInt32 → Option CStr) (raw : LanspeedBpfSample) :
    Option RawIdentity :=
  let macStr := macText raw.mac
  if !validMacAddress macStr then none
  else
    let ifname := rawIfname ifIndexToName raw
    if ifnameIsExcludedIdentitySource ifname then none
    else
      let zone := deriveZoneFromIfname ifname
      some { mac := macStr, ifname, zone, key := identityKey macStr zone }

/-- `monotonic_ns_to_ms`. -/
def monotonicNsToMs (ns : UInt64) : UInt64 := ns / 1000000

/-- The second half of the loop body: add one raw entry to its client's sample. -/
def absorbRaw (nowMs : UInt64) (raw : LanspeedBpfSample) (sample : BpfClientSample) :
    BpfClientSample :=
  let counted :=
    if raw.direction = lanspeedBpfDirTx then
      { sample with
        txBytes := sample.txBytes + raw.bytes
        -- The counts of connections are assigned, not added: the last tx entry of a client wins.
        tcpConns := raw.tcpConns
        udpConns := raw.udpConns }
    else if raw.direction = lanspeedBpfDirRx then
      { sample with rxBytes := sample.rxBytes + raw.bytes }
    else sample
  if raw.lastSeenNs ≠ 0 then
    let rawLastSeenMs := monotonicNsToMs raw.lastSeenNs
    if rawLastSeenMs > counted.lastSeenMs then { counted with lastSeenMs := rawLastSeenMs }
    else counted
  -- An entry without a frame time counts as seen at the tick.
  else if nowMs > counted.lastSeenMs then { counted with lastSeenMs := nowMs }
  else counted

/-- What the loop reads besides the raw entries. -/
structure FoldEnv where
  nowMs : UInt64
  maxFolded : ℕ
  ifIndexToName : UInt32 → Option CStr
  arp : List ArpEntry

/-- Add one raw entry to the sample under its client's identity key. -/
def absorbInto (env : FoldEnv) (raw : LanspeedBpfSample) (key : CStr)
    (samples : List BpfClientSample) : List BpfClientSample :=
  Keyed.modify BpfClientSample.identityKey key (absorbRaw env.nowMs raw) samples

/-- One turn of the loop of `bpf_collect_samples`. -/
def bpfTurn (env : FoldEnv) (samples : List BpfClientSample) (raw : LanspeedBpfSample) :
    ForInStep (List BpfClientSample) :=
  match rawIdentity env.ifIndexToName raw with
  | none => .yield samples
  | some id =>
    match bpfFindOrInsertClient samples env.maxFolded id env.arp with
    -- The source breaks out of the loop: later entries of known clients are lost as well.
    | none => .done samples
    | some samples' => .yield (absorbInto env raw id.key samples')

/-- The loop of `bpf_collect_samples`, from a table that is already filled to `samples`. -/
def bpfFold (env : FoldEnv) (samples : List BpfClientSample) (raws : List LanspeedBpfSample) :
    List BpfClientSample :=
  Loop.loop (bpfTurn env) samples raws

/-- What one call of `bpf_collect_samples` reads: the clock, the outcome of the map read, the
interface names and the ARP table. -/
structure CollectInput where
  nowMs : UInt64
  read : Option (List LanspeedBpfSample)
  ifIndexToName : UInt32 → Option CStr
  arp : List ArpEntry

/-- The environment of the loop for one call. -/
def CollectInput.foldEnv (cfg : CollectorConfig) (inp : CollectInput) : FoldEnv :=
  { nowMs := inp.nowMs
    maxFolded := cfg.maxSamples
    ifIndexToName := inp.ifIndexToName
    arp := inp.arp }

/-- `bpf_collect_samples`. -/
def bpfCollectSamples (cfg : CollectorConfig) (inp : CollectInput) (st : CollectorState) :
    CollectorState :=
  match inp.read with
  | none => st
  | some raw =>
    { st with
      bpfPreviousSamples := st.bpfCurrentSamples
      bpfPreviousSnapshotMs := st.bpfCurrentSnapshotMs
      bpfPreviousSnapshotValid := st.bpfCurrentSnapshotMs > 0
      bpfCurrentSamples := bpfFold (inp.foldEnv cfg) [] raw
      bpfCurrentSnapshotMs := inp.nowMs }

/-! ## The table that the loop builds -/

/-- No two samples of the table have one identity key. -/
abbrev DistinctIdentities (samples : List BpfClientSample) : Prop :=
  Keyed.Distinct BpfClientSample.identityKey samples

/-- Absorbing an entry keeps the identity. -/
@[simp] theorem absorbRaw_identityKey (nowMs : UInt64) (raw : LanspeedBpfSample)
    (sample : BpfClientSample) : (absorbRaw nowMs raw sample).identityKey = sample.identityKey := by
  unfold absorbRaw
  dsimp only
  split_ifs <;> rfl

/-- Only the interface index and the address of a raw entry matter for its identity. -/
theorem rawIdentity_congr {ifIndexToName : UInt32 → Option CStr} {raw raw' : LanspeedBpfSample}
    (hif : raw.ifindex = raw'.ifindex) (hmac : raw.mac = raw'.mac) :
    rawIdentity ifIndexToName raw = rawIdentity ifIndexToName raw' := by
  have hname : rawIfname ifIndexToName raw = rawIfname ifIndexToName raw' := by
    unfold rawIfname
    rw [hif]
  unfold rawIdentity
  rw [hname, hmac]

/-- A raw entry has an identity when its address is valid and its interface may carry clients. -/
theorem rawIdentity_eq_some {ifIndexToName : UInt32 → Option CStr} {raw : LanspeedBpfSample}
    {id : RawIdentity} :
    rawIdentity ifIndexToName raw = some id ↔
      validMacAddress (macText raw.mac) = true ∧
      ifnameIsExcludedIdentitySource (rawIfname ifIndexToName raw) = false ∧
      id = { mac := macText raw.mac
             ifname := rawIfname ifIndexToName raw
             zone := deriveZoneFromIfname (rawIfname ifIndexToName raw)
             key := identityKey (macText raw.mac)
               (deriveZoneFromIfname (rawIfname ifIndexToName raw)) } := by
  unfold rawIdentity
  dsimp only
  cases validMacAddress (macText raw.mac) with
  | false => simp
  | true =>
    cases ifnameIsExcludedIdentitySource (rawIfname ifIndexToName raw) with
    | true => simp
    | false => simp [eq_comm]

/-- The identity key of a raw entry is a key text that `snprintf` leaves alone. -/
theorem rawIdentity_key_fits {ifIndexToName : UInt32 → Option CStr} {raw : LanspeedBpfSample}
    {id : RawIdentity} (h : rawIdentity ifIndexToName raw = some id) :
    snprintf identityKeyStrLen id.key = id.key := by
  obtain ⟨-, -, rfl⟩ := rawIdentity_eq_some.mp h
  exact snprintf_of_fits (length_snprintf_lt (by decide) _)

/-- A new sample is under the key of its identity. -/
theorem newBpfClientSample_identityKey {ifIndexToName : UInt32 → Option CStr}
    {raw : LanspeedBpfSample} {id : RawIdentity} (h : rawIdentity ifIndexToName raw = some id)
    (arp : List ArpEntry) : (newBpfClientSample id arp).identityKey = id.key :=
  rawIdentity_key_fits h

/-- What finding or inserting a client does to the table: nothing, or a new sample at the end. -/
theorem bpfFindOrInsertClient_cases {samples samples' : List BpfClientSample} {maxSamples : ℕ}
    {id : RawIdentity} {arp : List ArpEntry}
    (h : bpfFindOrInsertClient samples maxSamples id arp = some samples') :
    (samples' = samples ∧ ∃ s, Keyed.lookup BpfClientSample.identityKey id.key samples = some s) ∨
      (Keyed.lookup BpfClientSample.identityKey id.key samples = none ∧
        samples.length < maxSamples ∧ samples' = samples ++ [newBpfClientSample id arp]) := by
  unfold bpfFindOrInsertClient at h
  split at h
  · rename_i s hs
    exact .inl ⟨(Option.some.inj h).symm, s, hs⟩
  · rename_i hnone
    split at h
    · exact absurd h (by simp)
    · rename_i hroom
      exact .inr ⟨hnone, by omega, (Option.some.inj h).symm⟩

/-- Finding or inserting a client keeps the identities distinct. -/
theorem distinct_bpfFindOrInsertClient {samples samples' : List BpfClientSample} {maxSamples : ℕ}
    {id : RawIdentity} {arp : List ArpEntry}
    (hkey : (newBpfClientSample id arp).identityKey = id.key) (hs : DistinctIdentities samples)
    (h : bpfFindOrInsertClient samples maxSamples id arp = some samples') :
    DistinctIdentities samples' := by
  rcases bpfFindOrInsertClient_cases h with ⟨rfl, -⟩ | ⟨hnone, -, rfl⟩
  · exact hs
  · exact hs.append_fresh (by rw [hkey]; exact hnone)

/-- What one turn can do: leave the table alone, or add the entry to its client's sample. -/
theorem bpfTurn_cases (env : FoldEnv) (samples : List BpfClientSample) (raw : LanspeedBpfSample) :
    (bpfTurn env samples raw = .yield samples ∧ rawIdentity env.ifIndexToName raw = none) ∨
      (bpfTurn env samples raw = .done samples ∧
        ∃ id, rawIdentity env.ifIndexToName raw = some id ∧
          bpfFindOrInsertClient samples env.maxFolded id env.arp = none) ∨
      ∃ id samples', rawIdentity env.ifIndexToName raw = some id ∧
        bpfFindOrInsertClient samples env.maxFolded id env.arp = some samples' ∧
        bpfTurn env samples raw = .yield (absorbInto env raw id.key samples') := by
  unfold bpfTurn
  split
  · rename_i hid
    exact .inl ⟨rfl, hid⟩
  · rename_i id hid
    split
    · rename_i hfull
      exact .inr (.inl ⟨rfl, id, hid, hfull⟩)
    · rename_i samples' hins
      exact .inr (.inr ⟨id, samples', hid, hins, rfl⟩)

/-- What one turn of the loop that adds an entry preserves, the whole loop preserves. -/
theorem bpfFold_invariant {env : FoldEnv} {P : List BpfClientSample → Prop}
    (hstep : ∀ samples samples' raw id, P samples → rawIdentity env.ifIndexToName raw = some id →
      bpfFindOrInsertClient samples env.maxFolded id env.arp = some samples' →
      P (absorbInto env raw id.key samples'))
    {samples : List BpfClientSample} (hs : P samples) (raws : List LanspeedBpfSample) :
    P (bpfFold env samples raws) := by
  refine Loop.loop_invariant ?_ ?_ hs raws
  · intro samples s' raw hs h
    rcases bpfTurn_cases env samples raw with ⟨ht, -⟩ | ⟨ht, -⟩ | ⟨id, samples', hid, hins, ht⟩
    · exact ForInStep.yield.inj (ht.symm.trans h) ▸ hs
    · exact absurd (ht.symm.trans h) (by simp)
    · exact ForInStep.yield.inj (ht.symm.trans h) ▸ hstep samples samples' raw id hs hid hins
  · intro samples s' raw hs h
    rcases bpfTurn_cases env samples raw with ⟨ht, -⟩ | ⟨ht, -⟩ | ⟨id, samples', hid, hins, ht⟩
    · exact absurd (ht.symm.trans h) (by simp)
    · exact ForInStep.done.inj (ht.symm.trans h) ▸ hs
    · exact absurd (ht.symm.trans h) (by simp)

/-- Absorbing an entry keeps the identities distinct. -/
theorem distinct_absorbInto (env : FoldEnv) (raw : LanspeedBpfSample) (key : CStr)
    {samples : List BpfClientSample} (hs : DistinctIdentities samples) :
    DistinctIdentities (absorbInto env raw key samples) :=
  hs.modify (absorbRaw_identityKey env.nowMs raw)

/-- The loop keeps the identity keys of the table distinct. -/
theorem distinct_bpfFold (env : FoldEnv) {samples : List BpfClientSample}
    (hs : DistinctIdentities samples) (raws : List LanspeedBpfSample) :
    DistinctIdentities (bpfFold env samples raws) := by
  refine bpfFold_invariant ?_ hs raws
  intro samples samples' raw id hs hid hins
  exact distinct_absorbInto env raw id.key
    (distinct_bpfFindOrInsertClient (newBpfClientSample_identityKey hid env.arp) hs hins)

/-! ## The loop as a group-by -/

/-- The identity key of a raw entry. -/
def rawKey (env : FoldEnv) (raw : LanspeedBpfSample) : Option CStr :=
  (rawIdentity env.ifIndexToName raw).map RawIdentity.key

/-- What a raw entry does to the sample under one key: nothing, unless it has the key. -/
def absorbKey (env : FoldEnv) (key : CStr) (sample : Option BpfClientSample)
    (raw : LanspeedBpfSample) : Option BpfClientSample :=
  match rawIdentity env.ifIndexToName raw with
  | none => sample
  | some id =>
    if id.key = key then
      some (absorbRaw env.nowMs raw (sample.getD (newBpfClientSample id env.arp)))
    else sample

/-- A turn of the loop that goes on does to the sample under each key what the raw entry does
to it. -/
theorem lookup_bpfTurn {env : FoldEnv} {samples samples' : List BpfClientSample}
    {raw : LanspeedBpfSample} (h : bpfTurn env samples raw = .yield samples') (key : CStr) :
    Keyed.lookup BpfClientSample.identityKey key samples'
      = absorbKey env key (Keyed.lookup BpfClientSample.identityKey key samples) raw := by
  rcases bpfTurn_cases env samples raw with ⟨ht, hid⟩ | ⟨ht, -⟩ | ⟨id, found, hid, hins, ht⟩
  · obtain rfl := ForInStep.yield.inj (ht.symm.trans h)
    rw [absorbKey, hid]
  · exact absurd (ht.symm.trans h) (by simp)
  · obtain rfl := ForInStep.yield.inj (ht.symm.trans h)
    have hnew := newBpfClientSample_identityKey hid env.arp
    rw [absorbKey, hid, absorbInto, Keyed.lookup_modify (absorbRaw_identityKey env.nowMs raw)]
    rcases bpfFindOrInsertClient_cases hins with ⟨rfl, s, hs⟩ | ⟨hnone, -, rfl⟩
    · by_cases hk : id.key = key
      · subst hk
        simp [hs]
      · simp [hk]
    · have hfresh : Keyed.lookup BpfClientSample.identityKey
          (newBpfClientSample id env.arp).identityKey samples = none := by rw [hnew]; exact hnone
      rw [Keyed.lookup_append_fresh hfresh, Keyed.lookup_append_fresh hfresh, hnew]
      by_cases hk : id.key = key
      · subst hk
        simp [hnone]
      · simp [hk]

/-- The null pointer of `bpf_find_or_insert_client` means a new client and a full table. -/
theorem bpfFindOrInsertClient_eq_none {samples : List BpfClientSample} {maxSamples : ℕ}
    {id : RawIdentity} {arp : List ArpEntry}
    (h : bpfFindOrInsertClient samples maxSamples id arp = none) :
    Keyed.lookup BpfClientSample.identityKey id.key samples = none ∧
      maxSamples ≤ samples.length := by
  unfold bpfFindOrInsertClient at h
  split at h
  · exact absurd h (by simp)
  · rename_i hnone
    split at h
    · rename_i hfull
      exact ⟨hnone, hfull⟩
    · exact absurd h (by simp)

/-- A table of distinct identities, all of them among `keys`. -/
structure TableWithin (keys : List CStr) (samples : List BpfClientSample) : Prop where
  distinct : DistinctIdentities samples
  within : ∀ s ∈ samples, s.identityKey ∈ keys

/-- A table whose identities are among at most `maxSamples` keys has room for each of these keys. -/
theorem TableWithin.not_full {keys : List CStr} {samples : List BpfClientSample} {maxSamples : ℕ}
    {id : RawIdentity} {arp : List ArpEntry} (ht : TableWithin keys samples)
    (hkeys : keys.length ≤ maxSamples) (hid : id.key ∈ keys) :
    bpfFindOrInsertClient samples maxSamples id arp ≠ none := by
  intro hnone
  obtain ⟨hlookup, hfull⟩ := bpfFindOrInsertClient_eq_none hnone
  -- A full table without the key would show more distinct keys than `keys` has.
  have hnodup : (id.key :: samples.map BpfClientSample.identityKey).Nodup := by
    exact List.nodup_cons.mpr ⟨fun hmem => Keyed.mem_map_key_iff.mp hmem hlookup, ht.distinct⟩
  have hsub : id.key :: samples.map BpfClientSample.identityKey ⊆ keys := by
    intro k hk
    rcases List.mem_cons.mp hk with rfl | hk
    · exact hid
    · obtain ⟨s, hs, rfl⟩ := List.mem_map.mp hk
      exact ht.within s hs
  have hlen := (List.subperm_of_subset hnodup hsub).length_le
  simp only [List.length_cons, List.length_map] at hlen
  omega

/-- Adding a raw entry whose identity is among the keys keeps the table within the keys. -/
theorem TableWithin.absorb {env : FoldEnv} {keys : List CStr}
    {samples samples' : List BpfClientSample} {raw : LanspeedBpfSample} {id : RawIdentity}
    (ht : TableWithin keys samples) (hraw : rawIdentity env.ifIndexToName raw = some id)
    (hid : id.key ∈ keys)
    (hins : bpfFindOrInsertClient samples env.maxFolded id env.arp = some samples') :
    TableWithin keys (absorbInto env raw id.key samples') := by
  have hnew := newBpfClientSample_identityKey hraw env.arp
  refine ⟨distinct_absorbInto env raw id.key (distinct_bpfFindOrInsertClient hnew ht.distinct hins),
    ?_⟩
  have hwithin : ∀ s ∈ samples', s.identityKey ∈ keys := by
    rcases bpfFindOrInsertClient_cases hins with ⟨rfl, -⟩ | ⟨-, -, rfl⟩
    · exact ht.within
    · refine List.forall_mem_append.mpr ⟨ht.within, List.forall_mem_singleton.mpr ?_⟩
      rw [hnew]
      exact hid
  intro s hs
  rcases Keyed.mem_modify hs with hs | ⟨r, hr, -, rfl⟩
  · exact hwithin s hs
  · rw [absorbRaw_identityKey]
    exact hwithin r hr

/-- The identity keys of a list of raw entries. -/
def rawKeys (env : FoldEnv) (raws : List LanspeedBpfSample) : List CStr :=
  raws.filterMap (rawKey env)

/-- The identities of the raw entries are within the limit of the table. -/
def IdentitiesFit (env : FoldEnv) (raws : List LanspeedBpfSample) : Prop :=
  (rawKeys env raws).dedup.length ≤ env.maxFolded

instance (env : FoldEnv) (raws : List LanspeedBpfSample) : Decidable (IdentitiesFit env raws) :=
  inferInstanceAs (Decidable (_ ≤ _))

/-- When the identities of the raw entries are among keys that fit in the table, the loop does to
the sample under each key what the raw entries do to it in turn. -/
theorem lookup_bpfFold_within {env : FoldEnv} {keys : List CStr}
    (hkeys : keys.length ≤ env.maxFolded)
    {samples : List BpfClientSample} (ht : TableWithin keys samples) {raws : List LanspeedBpfSample}
    (hraws : ∀ raw ∈ raws, ∀ k, rawKey env raw = some k → k ∈ keys) (key : CStr) :
    Keyed.lookup BpfClientSample.identityKey key (bpfFold env samples raws)
      = raws.foldl (absorbKey env key) (Keyed.lookup BpfClientSample.identityKey key samples) := by
  induction raws generalizing samples with
  | nil => rfl
  -- The induction is on the raw entries; that the table stays within the keys rules the break out.
  | cons raw raws ih =>
    obtain ⟨hraw, hrest⟩ := List.forall_mem_cons.mp hraws
    rw [List.foldl_cons]
    rcases bpfTurn_cases env samples raw with ⟨hturn, -⟩ | ⟨-, id, hid, hfull⟩ |
      ⟨id, samples', hid, hins, hturn⟩
    · rw [bpfFold, Loop.loop_cons_yield hturn, ← lookup_bpfTurn hturn, ← bpfFold, ih ht hrest]
    · exact absurd hfull (ht.not_full hkeys (hraw id.key (by rw [rawKey, hid]; rfl)))
    · have hmem : id.key ∈ keys := hraw id.key (by rw [rawKey, hid]; rfl)
      rw [bpfFold, Loop.loop_cons_yield hturn, ← lookup_bpfTurn hturn, ← bpfFold,
        ih (ht.absorb hid hmem hins) hrest]

/-- When the identities fit in the table, the sample under a key is what the raw entries of the key
make of it, from nothing. -/
theorem lookup_bpfFold {env : FoldEnv} {raws : List LanspeedBpfSample}
    (hfit : IdentitiesFit env raws) (key : CStr) :
    Keyed.lookup BpfClientSample.identityKey key (bpfFold env [] raws)
      = raws.foldl (absorbKey env key) none :=
  lookup_bpfFold_within hfit ⟨Keyed.distinct_nil _, by simp⟩
    (fun raw hraw _ hk => List.mem_dedup.mpr (List.mem_filterMap.mpr ⟨raw, hraw, hk⟩)) key

/-- There is a sample under a key when there was one, or some raw entry has the key. -/
theorem isSome_foldl_absorbKey (env : FoldEnv) (key : CStr) (sample : Option BpfClientSample)
    (raws : List LanspeedBpfSample) :
    (raws.foldl (absorbKey env key) sample).isSome ↔
      sample.isSome ∨ ∃ raw ∈ raws, rawKey env raw = some key := by
  induction raws generalizing sample with
  | nil => simp
  | cons raw raws ih =>
    have hstep : (absorbKey env key sample raw).isSome ↔
        sample.isSome ∨ rawKey env raw = some key := by
      rw [absorbKey, rawKey]
      cases rawIdentity env.ifIndexToName raw with
      | none => simp
      | some id =>
        by_cases hk : id.key = key
        · simp [hk]
        · simp [hk]
    rw [List.foldl_cons, ih, hstep, List.exists_mem_cons_iff, or_assoc]

/-! ## Measures of a client -/

section Measure

variable {M : Type*} {env : FoldEnv}

/-- A number that is `zero` for a new sample and to which every raw entry of the client does `step`
is, in the end, what the raw entries of the client do to `zero`. -/
theorem measure_foldl_absorbKey (key : CStr) (μ : BpfClientSample → M) (zero : M)
    (step : M → LanspeedBpfSample → M)
    (hnew : ∀ id, μ (newBpfClientSample id env.arp) = zero)
    (hstep : ∀ raw s, μ (absorbRaw env.nowMs raw s) = step (μ s) raw)
    (sample : Option BpfClientSample) (raws : List LanspeedBpfSample) :
    ((raws.foldl (absorbKey env key) sample).map μ).getD zero
      = (raws.filter fun raw => rawKey env raw = some key).foldl step
        ((sample.map μ).getD zero) := by
  induction raws generalizing sample with
  | nil => rfl
  | cons raw raws ih =>
    rw [List.foldl_cons, ih, absorbKey]
    cases hid : rawIdentity env.ifIndexToName raw with
    | none =>
      rw [List.filter_cons_of_neg (by simp [rawKey, hid])]
    | some id =>
      by_cases hk : id.key = key
      · rw [List.filter_cons_of_pos (by simp [rawKey, hid, hk]), List.foldl_cons]
        dsimp only
        rw [if_pos hk]
        cases sample with
        | none => simp [hstep, hnew]
        | some s => simp [hstep]
      · rw [List.filter_cons_of_neg (by simp [rawKey, hid, hk])]
        dsimp only
        rw [if_neg hk]

end Measure

/-- The direction code of a raw entry. -/
def Direction.bpfDir : Direction → UInt8
  | .tx => lanspeedBpfDirTx
  | .rx => lanspeedBpfDirRx

/-- The byte total of a sample in one direction. -/
def BpfClientSample.bytes (s : BpfClientSample) : Direction → UInt64
  | .tx => s.txBytes
  | .rx => s.rxBytes

/-- The byte total that a table has for an identity; zero when it does not have the identity. -/
def clientTotal (dir : Direction) (key : CStr) (samples : List BpfClientSample) : UInt64 :=
  ((Keyed.lookup BpfClientSample.identityKey key samples).map fun s => s.bytes dir).getD 0

/-- What a raw entry adds to the total of an identity. -/
def rawBytes (env : FoldEnv) (dir : Direction) (key : CStr) (raw : LanspeedBpfSample) : UInt64 :=
  if rawKey env raw = some key ∧ raw.direction = dir.bpfDir then raw.bytes else 0

/-- Adding a raw entry to a sample adds its bytes in its own direction. -/
theorem bytes_absorbRaw (dir : Direction) (nowMs : UInt64) (raw : LanspeedBpfSample)
    (s : BpfClientSample) :
    (absorbRaw nowMs raw s).bytes dir
      = s.bytes dir + if raw.direction = dir.bpfDir then raw.bytes else 0 := by
  have hne : lanspeedBpfDirTx ≠ lanspeedBpfDirRx := by decide
  unfold absorbRaw
  dsimp only
  cases dir <;> simp only [BpfClientSample.bytes, Direction.bpfDir] <;> split_ifs <;> simp_all

/-- The table that `bpf_collect_samples` folds has, for every identity, the sum of the bytes of its
raw entries. -/
theorem clientTotal_bpfFold (dir : Direction) (key : CStr) {env : FoldEnv}
    {raws : List LanspeedBpfSample} (hfit : IdentitiesFit env raws) :
    clientTotal dir key (bpfFold env [] raws) = (raws.map (rawBytes env dir key)).sum := by
  have hnew : ∀ id, (newBpfClientSample id env.arp).bytes dir = 0 := fun id => by cases dir <;> rfl
  rw [clientTotal, lookup_bpfFold hfit, measure_foldl_absorbKey key (fun s => s.bytes dir) 0
    (fun total raw => total + if raw.direction = dir.bpfDir then raw.bytes else 0) hnew
    (bytes_absorbRaw dir env.nowMs)]
  -- The other entries add nothing, so the filter may go.
  have hsum : ∀ (total : UInt64) (raws : List LanspeedBpfSample),
      (raws.filter fun raw => rawKey env raw = some key).foldl
        (fun total raw => total + if raw.direction = dir.bpfDir then raw.bytes else 0) total
      = total + (raws.map (rawBytes env dir key)).sum := by
    intro total raws
    induction raws generalizing total with
    | nil => simp
    | cons raw raws ih =>
      rw [List.map_cons, List.sum_cons, rawBytes]
      by_cases hk : rawKey env raw = some key
      · rw [List.filter_cons_of_pos (by simpa using hk), List.foldl_cons, ih]
        simp [hk, add_assoc]
      · rw [List.filter_cons_of_neg (by simpa using hk), ih]
        simp [hk]
  rw [hsum]
  exact zero_add _

/-! ## When a client was last seen -/

/-- The time at which a raw entry shows its client: its last frame, or the time of the tick when it
has none. -/
def rawSeenMs (nowMs : UInt64) (raw : LanspeedBpfSample) : UInt64 :=
  if raw.lastSeenNs ≠ 0 then monotonicNsToMs raw.lastSeenNs else nowMs

/-- A raw entry moves the time at which its client was last seen forward, never back. -/
theorem lastSeenMs_absorbRaw (nowMs : UInt64) (raw : LanspeedBpfSample) (s : BpfClientSample) :
    (absorbRaw nowMs raw s).lastSeenMs.toNat = max s.lastSeenMs.toNat
      (rawSeenMs nowMs raw).toNat := by
  have hlater : ∀ (s' : BpfClientSample) (seen : UInt64), s'.lastSeenMs = s.lastSeenMs →
      (if seen > s'.lastSeenMs then { s' with lastSeenMs := seen } else s').lastSeenMs.toNat
        = max s.lastSeenMs.toNat seen.toNat := by
    intro s' seen hs'
    split_ifs with h
    · rw [gt_iff_lt, hs', UInt64.lt_iff_toNat_lt] at h
      exact (max_eq_right h.le).symm
    · rw [gt_iff_lt, hs', UInt64.lt_iff_toNat_lt, not_lt] at h
      rw [hs', max_eq_left h]
  unfold absorbRaw rawSeenMs
  dsimp only
  -- The counters are updated first, and none of the branches there touches the time.
  have hcounted : ∀ a b : BpfClientSample, a.lastSeenMs = s.lastSeenMs →
      b.lastSeenMs = s.lastSeenMs →
      (if raw.direction = lanspeedBpfDirTx then a else
        if raw.direction = lanspeedBpfDirRx then b else s).lastSeenMs = s.lastSeenMs := by
    intro a b ha hb
    split_ifs
    · exact ha
    · exact hb
    · rfl
  by_cases hns : raw.lastSeenNs ≠ 0
  · rw [if_pos hns, if_pos hns]
    exact hlater _ _ (hcounted _ _ rfl rfl)
  · rw [if_neg hns, if_neg hns]
    exact hlater _ _ (hcounted _ _ rfl rfl)

/-- A sample of the folded table was last seen by `n` when every raw entry of its client shows it by
`n`. -/
theorem lastSeenMs_le_iff {env : FoldEnv} {raws : List LanspeedBpfSample}
    (hfit : IdentitiesFit env raws) {s : BpfClientSample} (hs : s ∈ bpfFold env [] raws) (n : ℕ) :
    s.lastSeenMs.toNat ≤ n ↔ ∀ raw ∈ raws, rawKey env raw = some s.identityKey →
      (rawSeenMs env.nowMs raw).toNat ≤ n := by
  have hfold := measure_foldl_absorbKey s.identityKey (fun s => s.lastSeenMs.toNat) 0
    (fun seen raw => max seen (rawSeenMs env.nowMs raw).toNat) (fun _ =>
      rfl) (lastSeenMs_absorbRaw env.nowMs) none raws
  rw [← lookup_bpfFold hfit,
    (distinct_bpfFold env (Keyed.distinct_nil _) raws).lookup_of_mem hs] at hfold
  have hmax : ∀ (l : List LanspeedBpfSample) (seen : ℕ),
      l.foldl (fun seen raw => max seen (rawSeenMs env.nowMs raw).toNat) seen ≤ n ↔
        seen ≤ n ∧ ∀ raw ∈ l, (rawSeenMs env.nowMs raw).toNat ≤ n := by
    intro l
    induction l with
    | nil => simp
    | cons raw l ih =>
      intro seen
      rw [List.foldl_cons, ih, max_le_iff, List.forall_mem_cons, and_assoc]
  change s.lastSeenMs.toNat = _ at hfold
  rw [hfold, hmax]
  simp

/-- A raw entry that has an identity puts it into the table. -/
theorem exists_mem_bpfFold {env : FoldEnv} {raws : List LanspeedBpfSample}
    (hfit : IdentitiesFit env raws) {raw : LanspeedBpfSample} (hraw : raw ∈ raws) {key : CStr}
    (hkey : rawKey env raw = some key) :
    ∃ s ∈ bpfFold env [] raws, s.identityKey = key := by
  have hsome := (isSome_foldl_absorbKey env key none raws).mpr (.inr ⟨raw, hraw, hkey⟩)
  rw [← lookup_bpfFold hfit] at hsome
  obtain ⟨s, hs⟩ := Option.isSome_iff_exists.mp hsome
  exact ⟨s, Keyed.mem_of_lookup hs, Keyed.key_of_lookup hs⟩

/-- The identities of the table are those of the raw entries. -/
theorem mem_identities_bpfFold {env : FoldEnv} {raws : List LanspeedBpfSample}
    (hfit : IdentitiesFit env raws) (key : CStr) :
    key ∈ (bpfFold env [] raws).map BpfClientSample.identityKey ↔
      ∃ raw ∈ raws, rawKey env raw = some key := by
  have hsome := isSome_foldl_absorbKey env key none raws
  rw [← lookup_bpfFold hfit, Option.isSome_iff_ne_none, ← Keyed.mem_map_key_iff] at hsome
  simpa using hsome

/-- A sample of the table has the bytes of the raw entries of its client. -/
theorem bytes_of_mem_bpfFold {env : FoldEnv} {raws : List LanspeedBpfSample}
    (hfit : IdentitiesFit env raws) {s : BpfClientSample} (hs : s ∈ bpfFold env [] raws)
    (dir : Direction) : s.bytes dir = (raws.map (rawBytes env dir s.identityKey)).sum := by
  rw [← clientTotal_bpfFold dir s.identityKey hfit, clientTotal,
    (distinct_bpfFold env (Keyed.distinct_nil _) raws).lookup_of_mem hs]
  rfl

end Lanspeed
