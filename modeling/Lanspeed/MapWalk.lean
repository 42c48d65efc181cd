import Lanspeed.MapReader

/-!
# What a walk reads

While `lanspeed_bpf_read_samples` walks the map, frames add to its entries and create new ones, and
the kernel evicts entries. What a walk has copied need not be the map at any one moment. It is for
every key alone: a walk that came to the end of the map read every key as it was at one moment of
the walk, and the keys it has no sample of were missing at one moment (`read_at_moments`). An
invariant of the walk is behind this, `Progress`: a key that has not been read in this sense is in
the map, and the walk will come to it.
-/

namespace Lanspeed

variable {bucketOf : LanspeedKey → ℕ}

/-- The first sample of a key that has been copied. -/
def Reader.sampleFor (r : Reader) (k : LanspeedKey) : Option LanspeedBpfSample :=
  Keyed.lookup LanspeedBpfSample.key k r.written

/-- The sample of a key that a lookup would copy now. -/
def mapSample (m : ClientsMap bucketOf) (k : LanspeedKey) : Option LanspeedBpfSample :=
  (m.get? k).map fun counters => sampleOfEntry (k, counters)

/-- A lookup fails only for a key that is not in the map. -/
def LookupsWork (s : ReadState bucketOf) : MapEvent → Prop
  | .call (some _) => s.reader.nextKey = none
  | _ => True

instance (s : ReadState bucketOf) (e : MapEvent) : Decidable (LookupsWork s e) :=
  match e with
  | .call (some _) => inferInstanceAs (Decidable (_ = _))
  | .call none => .isTrue trivial
  | .frame .. => .isTrue trivial
  | .connection .. => .isTrue trivial
  | .evict _ => .isTrue trivial

/-- The walk came to the end of the map: the function returned before its buffer was full. -/
def Reader.CameToEnd (max : ℕ) (r : Reader) : Prop :=
  r.result = some (.ok ()) ∧ r.written.length < max

instance (max : ℕ) (r : Reader) : Decidable (r.CameToEnd max) := inferInstanceAs (Decidable (_ ∧ _))

/-- A map has no sample of a key exactly when the key is not there. -/
theorem mapSample_eq_none_iff {m : ClientsMap bucketOf} {k : LanspeedKey} :
    mapSample m k = none ↔ k ∉ m.keys := by
  rw [mapSample, Option.map_eq_none_iff, BucketMap.get?_eq_none_iff]

/-- The walk is still to come to a key that is in the map. -/
structure StillToVisit (s : ReadState bucketOf) (k : LanspeedKey) : Prop where
  present : k ∈ s.clients.keys
  not_read : s.reader.sampleFor k = none
  ahead : s.reader.nextKey = some k ∨ s.clients.Ahead s.reader.lastKey k

/-- How far a walk is, where `Seen k` holds of what a lookup of `k` would have given at the moments
so far: a key either has been read, or is still to be visited. -/
structure Progress (Seen : LanspeedKey → Option LanspeedBpfSample → Prop)
    (max : ℕ) (s : ReadState bucketOf) : Prop where
  going_on : s.reader.result = none → ∀ k, Seen k (s.reader.sampleFor k) ∨ StillToVisit s k
  at_end : s.reader.CameToEnd max → ∀ k, Seen k (s.reader.sampleFor k)

section Step

variable {Seen Seen' : LanspeedKey → Option LanspeedBpfSample → Prop}
    {max : ℕ} {s : ReadState bucketOf}

/-- A change of the map under the walk: a key that is still to be visited stays so, or leaves the
map. -/
theorem Progress.changeMap (h : Progress Seen max s) (hseen : ∀ k v, Seen k v → Seen' k v)
    {m : ClientsMap bucketOf} (hnow : ∀ k, Seen' k (mapSample m k))
    (hahead : ∀ k ∈ s.clients.keys, k ∈ m.keys → s.clients.Ahead s.reader.lastKey k →
      m.Ahead s.reader.lastKey k) :
    Progress Seen' max { s with clients := m } := by
  refine ⟨fun hres k => ?_, fun hend k => hseen _ _ (h.at_end hend k)⟩
  rcases h.going_on hres k with hread | hvisit
  · exact .inl (hseen _ _ hread)
  · by_cases hk : k ∈ m.keys
    · exact .inr ⟨hk, hvisit.not_read, hvisit.ahead.imp_right (hahead k hvisit.present hk)⟩
    · refine .inl ?_
      change Seen' k (s.reader.sampleFor k)
      rw [hvisit.not_read, ← mapSample_eq_none_iff.mpr hk]
      exact hnow k

/-- A call of `bpf_map_get_next_key`. -/
theorem Progress.callGetNextKey (h : Progress Seen max s) (hres : s.reader.result = none)
    (hnext : s.reader.nextKey = none) (fault : Option ℤ) :
    Progress Seen max { s with reader := s.reader.call max s.clients fault } := by
  have hlast : s.reader.lastKey = s.reader.curKey := by rw [Reader.lastKey, hnext, Option.none_or]
  have hvisit : ∀ k, Seen k (s.reader.sampleFor k) ∨
      (k ∈ s.clients.keys ∧ s.reader.sampleFor k = none ∧ s.clients.Ahead s.reader.curKey k) := by
    intro k
    refine (h.going_on hres k).imp_right fun hk => ⟨hk.present, hk.not_read, ?_⟩
    rw [← hlast]
    exact hk.ahead.resolve_left (by rw [hnext]; exact fun h' => absurd h' (by simp))
  cases fault with
  | some err =>
    have hcall : s.reader.call max s.clients (some err) =
        { s.reader with result := some (.error (.getNextKeyFailed err)) } := by
      simp only [Reader.call, hres, hnext]
    rw [hcall]
    exact ⟨fun hres' => absurd hres' (by simp), fun hend => absurd hend.1 (by simp)⟩
  | none =>
    cases hkey : s.clients.nextKey s.reader.curKey with
    | none =>
      -- Nothing is ahead of the walk at the end of the map.
      have hcall :
          s.reader.call max s.clients none = { s.reader with result := some (.ok ()) } := by
        simp only [Reader.call, hres, hnext, hkey]
      rw [hcall]
      refine ⟨fun hres' => absurd hres' (by simp), fun _ k => (hvisit k).resolve_right ?_⟩
      rintro ⟨hk, -, hahead⟩
      exact BucketMap.not_ahead_of_nextKey_eq_none hk hkey hahead
    | some d =>
      have hcall : s.reader.call max s.clients none = { s.reader with nextKey := some d } := by
        simp only [Reader.call, hres, hnext, hkey]
      rw [hcall]
      refine ⟨fun _ k => ?_, fun hend => absurd (hres.symm.trans hend.1) (by simp)⟩
      rcases hvisit k with hread | ⟨hk, hnone, hahead⟩
      · exact .inl hread
      · exact .inr ⟨hk, hnone, (hahead.next hk hkey).imp_left fun hkd => congrArg some hkd.symm⟩

/-- What a call of `bpf_map_lookup_elem` that does not fail on an entry of the map does, while there
is room in the buffer: it reads the key, if it has not been read before. -/
theorem Reader.sampleFor_call_lookup {m : ClientsMap bucketOf} {r : Reader} (hres : r.result = none)
    {key : LanspeedKey} (hnext : r.nextKey = some key)
    (hroom : (r.call max m none).written.length < max) (k : LanspeedKey) :
    (r.call max m none).sampleFor k =
      if k = key then (r.sampleFor key).or (mapSample m key) else r.sampleFor k := by
  cases hget : m.get? key with
  | none =>
    have hsame : (r.call max m none).written = r.written := by
      simp only [Reader.call, hres, hnext, hget]
    rw [mapSample, hget, Option.map_none, Option.or_none, Reader.sampleFor, hsame]
    split_ifs with hk
    · rw [hk]
      rfl
    · rfl
  | some counters =>
    have hwritten : (r.call max m none).written = r.written ++ [sampleOfEntry (key, counters)] := by
      have hlen : r.written.length < max := by
        by_contra hfull
        simp only [Reader.call, hres, hnext, hget, if_neg hfull] at hroom
        exact hfull hroom
      simp only [Reader.call, hres, hnext, hget, if_pos hlen]
    rw [mapSample, hget, Option.map_some, Reader.sampleFor, hwritten,
      Keyed.lookup_append, Keyed.lookup_cons, key_sampleOfEntry, Keyed.lookup_nil]
    by_cases hk : k = key
    · rw [if_pos hk.symm, if_pos hk, hk]
      rfl
    · rw [if_neg (Ne.symm hk), if_neg hk, Option.or_none]
      rfl

/-- A lookup ends the walk only when the buffer is full. -/
theorem Reader.result_call_lookup (max : ℕ) (m : ClientsMap bucketOf)
    {r : Reader} (hres : r.result = none) {key : LanspeedKey} (hnext : r.nextKey = some key) :
    (r.call max m none).result =
      if max ≤ (r.call max m none).written.length then some (.ok ()) else none := by
  simp only [Reader.call, hres, hnext]

/-- A call of `bpf_map_lookup_elem` that fails only for want of the key. -/
theorem Progress.callLookup (h : Progress Seen max s) (hres : s.reader.result = none)
    {key : LanspeedKey}
    (hnext : s.reader.nextKey = some key) (hnow : ∀ k, Seen k (mapSample s.clients k)) :
    Progress Seen max { s with reader := s.reader.call max s.clients none } := by
  have hlast : s.reader.lastKey = some key := by rw [Reader.lastKey, hnext, Option.some_or]
  obtain ⟨hcur, hnone, -⟩ := Reader.call_lookup (m := s.clients) max hres hnext none
  have hlast' : (s.reader.call max s.clients none).lastKey = some key := by
    rw [Reader.lastKey, hnone, hcur, Option.none_or]
  have hresult := Reader.result_call_lookup max s.clients hres hnext
  -- A full buffer ends the walk before the end of the map.
  refine ⟨fun hgoing k => ?_, fun hend => ?_⟩
  · have hroom : (s.reader.call max s.clients none).written.length < max := by
      by_contra hfull
      have hgoing' : (s.reader.call max s.clients none).result = none := hgoing
      rw [hresult, if_pos (Nat.not_lt.mp hfull)] at hgoing'
      exact absurd hgoing' (by simp)
    have hsample := Reader.sampleFor_call_lookup hres hnext hroom k
    by_cases hk : k = key
    · subst hk
      rw [if_pos rfl] at hsample
      left
      change Seen k ((s.reader.call max s.clients none).sampleFor k)
      rw [hsample]
      cases hread : s.reader.sampleFor k with
      | none => exact hnow k
      | some sample =>
        rcases h.going_on hres k with hseen | hvisit
        · rw [hread] at hseen
          exact hseen
        · exact absurd (hread.symm.trans hvisit.not_read) (by simp)
    · rw [if_neg hk] at hsample
      rcases h.going_on hres k with hseen | hvisit
      · left
        change Seen k ((s.reader.call max s.clients none).sampleFor k)
        exact hsample ▸ hseen
      · refine .inr ⟨hvisit.present, hsample.trans hvisit.not_read, .inr ?_⟩
        change s.clients.Ahead (s.reader.call max s.clients none).lastKey k
        rw [hlast', ← hlast]
        refine hvisit.ahead.resolve_left fun heq => hk ?_
        exact Option.some.inj (heq.symm.trans hnext)
  · obtain ⟨hok, hlen⟩ := hend
    have hok' : (s.reader.call max s.clients none).result = some (.ok ()) := hok
    rw [hresult, if_neg (Nat.not_le.mpr hlen)] at hok'
    exact absurd hok' (by simp)

/-- A call of the reader keeps its progress. -/
theorem Progress.call (h : Progress Seen max s) {fault : Option ℤ}
    (hworks : LookupsWork s (.call fault)) (hnow : ∀ k, Seen k (mapSample s.clients k)) :
    Progress Seen max { s with reader := s.reader.call max s.clients fault } := by
  cases hres : s.reader.result with
  | some res =>
    have hsame : s.reader.call max s.clients fault = s.reader := by simp only [Reader.call, hres]
    rw [hsame]
    exact h
  | none =>
    cases hnext : s.reader.nextKey with
    | none => exact h.callGetNextKey hres hnext fault
    | some key =>
      cases fault with
      | some err => exact absurd (hnext.symm.trans hworks) (by simp)
      | none => exact h.callLookup hres hnext hnow

/-- One event keeps the progress of the walk, and adds a moment at which the map is seen. -/
theorem Progress.step (h : Progress Seen max s) {e : MapEvent} (hworks : LookupsWork s e)
    (hbefore : ∀ k, Seen k (mapSample s.clients k)) (hseen : ∀ k v, Seen k v → Seen' k v)
    (hnow : ∀ k, Seen' k (mapSample (readStep max s e).clients k)) :
    Progress Seen' max (readStep max s e) := by
  cases e with
  | call fault =>
    have hcall := h.call hworks hbefore
    exact ⟨fun hres k => (hcall.going_on hres k).imp_left (hseen _ _),
      fun hend k => hseen _ _ (hcall.at_end hend k)⟩
  | frame key len ktimeNs =>
    refine h.changeMap hseen hnow fun k hk _ hahead => ?_
    split_ifs
    · exact hahead.modify key _
    · exact hahead.insertNew hk key _
  | connection key proto => exact h.changeMap hseen hnow fun k _ _ hahead => hahead.modify key _
  | evict key =>
    exact h.changeMap hseen hnow fun k _ hk hahead =>
      hahead.erase (BucketMap.mem_keys_erase.mp hk).2

end Step

/-- At some moment of the run from `s`, a lookup of the key would have given the sample. -/
def SeenDuring (max : ℕ) (s : ReadState bucketOf) (evs : List MapEvent) (k : LanspeedKey)
    (sample : Option LanspeedBpfSample) : Prop :=
  ∃ pre post, evs = pre ++ post ∧ sample = mapSample (Machine.run (readStep max) s pre).clients k

/-- A stretch of the walk keeps its progress, over the moments that it has passed. -/
theorem progress_run {Seen : LanspeedKey → Option LanspeedBpfSample → Prop}
    {max : ℕ} {s : ReadState bucketOf}
    (h : Progress Seen max s) (hnow : ∀ k, Seen k (mapSample s.clients k)) {evs : List MapEvent}
    (hworks : Machine.Along (readStep max) LookupsWork s evs) :
    Progress (fun k sample => Seen k sample ∨ SeenDuring max s evs k sample) max
      (Machine.run (readStep max) s evs) := by
  induction evs generalizing s Seen with
  | nil =>
    exact ⟨fun hres k => (h.going_on hres k).imp_left .inl, fun hend k => .inl (h.at_end hend k)⟩
  | cons e evs ih =>
    have hstep : Progress (fun k sample => Seen k sample ∨
          sample = mapSample (readStep max s e).clients k) max
        (readStep max s e) :=
      h.step hworks.1 hnow (fun _ _ => .inl) (fun _ => .inr rfl)
    have hrun := ih hstep (fun _ => .inr rfl) hworks.2
    -- What was seen before the first event or after it was seen in the longer run.
    have hlonger : ∀ k sample, (Seen k sample ∨ sample = mapSample (readStep max s e).clients k) ∨
        SeenDuring max (readStep max s e) evs k sample → Seen k sample ∨
        SeenDuring max s (e :: evs) k sample := by
      rintro k sample ((hseen | hfirst) | ⟨pre, post, rfl, hlater⟩)
      · exact .inl hseen
      · exact .inr ⟨[e], evs, rfl, hfirst⟩
      · exact .inr ⟨e :: pre, post, rfl, hlater⟩
    exact ⟨fun hres k => (hrun.going_on hres k).imp_left (hlonger k _),
      fun hend k => hlonger k _ (hrun.at_end hend k)⟩

/-- A walk starts with every key still to be visited. -/
theorem progress_start (m : ClientsMap bucketOf) (objectLoaded : Bool) (max : ℕ) :
    Progress (fun k sample => sample = mapSample m k) max ⟨m, Reader.start objectLoaded max⟩ := by
  rw [Reader.start]
  split_ifs with hloaded hmax
  · exact ⟨fun hres => absurd hres (by simp), fun hend => absurd hend.1 (by simp)⟩
  · exact ⟨fun hres => absurd hres (by simp), fun hend => absurd hend.1 (by simp)⟩
  · refine ⟨fun _ k => ?_, fun hend => absurd hend.1 (by simp)⟩
    by_cases hk : k ∈ m.keys
    · exact .inr ⟨hk, rfl, .inr BucketMap.ahead_none⟩
    · exact .inl (mapSample_eq_none_iff.mpr hk).symm

/-- Where lookups fail only for missing entries, a walk that came to the end of the map has for
every key, as the first sample that it copied of it, what the map had at one moment of the walk. (A
second copy is possible where the entry under the cursor is evicted.) -/
theorem read_at_moments (m : ClientsMap bucketOf) (objectLoaded : Bool)
    (max : ℕ) {evs : List MapEvent}
    (hworks : Machine.Along (readStep max) LookupsWork ⟨m, Reader.start objectLoaded max⟩ evs)
    (hend : (Machine.run (readStep max) ⟨m, Reader.start objectLoaded max⟩
      evs).reader.CameToEnd max)
    (k : LanspeedKey) :
    SeenDuring max ⟨m, Reader.start objectLoaded max⟩ evs k
      ((Machine.run (readStep max) ⟨m, Reader.start objectLoaded max⟩ evs).reader.sampleFor k) := by
  have hrun := progress_run (progress_start m objectLoaded max) (fun _ => rfl) hworks
  exact (hrun.at_end hend k).elim (fun hfirst => ⟨[], evs, rfl, hfirst⟩) id

/-- An entry grows after it has been copied, and one is created behind the walk. -/
def walkWithFrames : List MapEvent :=
  [.frame (txKey 2) 100 1, .call none, .call none, .frame (txKey 2) 50 2,
    .frame (txKey 1) 70 3, .call none]

/-- A walk during which frames are accounted. -/
theorem read_at_moments_frames :
    SeenDuring 4096 (⟨.empty, Reader.start true 4096⟩ : ReadState lastByte) walkWithFrames (txKey 2)
      ((Machine.run (readStep 4096) (⟨.empty, Reader.start true 4096⟩ : ReadState lastByte)
        walkWithFrames).reader.sampleFor (txKey 2)) :=
  read_at_moments .empty true 4096 (by decide +kernel) (by decide +kernel) (txKey 2)

end Lanspeed
