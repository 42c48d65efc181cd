import Lanspeed.Lib.Keyed
import Mathlib.Data.List.Sort

/-!
# Hash tables that are read with a cursor

A hash table as a reader sees it who walks it with "the key after this one": the entries in bucket
order, each bucket from its newest entry on. A new key goes to the head of its bucket; the key after
a key that is no longer in the table is the first key. `keysAfter c` is what a walk from the cursor
`c` has still to visit: as long as `c` itself stays in the table, removals only shrink it and
insertions only add keys of later buckets.
-/

/-- A hash table with distinct keys in bucket order. -/
structure BucketMap {κ : Type*} (bucket : κ → ℕ) (ν : Type*) where
  entries : List (κ × ν)
  distinct : Keyed.Distinct Prod.fst entries
  sorted : (entries.map Prod.fst).Pairwise fun a b => bucket a ≤ bucket b

namespace BucketMap

variable {κ ν : Type*} {bucket : κ → ℕ}

/-- The keys of the table, in the order of a walk. -/
def keys (m : BucketMap bucket ν) : List κ := m.entries.map Prod.fst

/-- The empty table. -/
def empty : BucketMap bucket ν := ⟨[], List.nodup_nil, List.Pairwise.nil⟩

theorem keys_nodup (m : BucketMap bucket ν) : m.keys.Nodup := m.distinct

/-- The bucket of one key is not after that of another. -/
def BucketLe (bucket : κ → ℕ) (a b : κ) : Prop := bucket a ≤ bucket b

instance : DecidableRel (BucketLe bucket) := fun _ _ => inferInstanceAs (Decidable (_ ≤ _))

instance : IsTrans κ (BucketLe bucket) := ⟨fun _ _ _ => Nat.le_trans⟩

instance : Std.Total (BucketLe bucket) := ⟨fun _ _ => Nat.le_total _ _⟩

/-- Put a new entry at the head of its bucket. -/
def insertEntry (bucket : κ → ℕ) (e : κ × ν) : List (κ × ν) → List (κ × ν)
  | [] => [e]
  | e' :: es => if BucketLe bucket e.1 e'.1 then e :: e' :: es else e' :: insertEntry bucket e es

/-- An entry is put where the order of the buckets has its key. -/
theorem map_fst_insertEntry (e : κ × ν) (es : List (κ × ν)) :
    (insertEntry bucket e es).map Prod.fst = (es.map Prod.fst).orderedInsert
      (BucketLe bucket) e.1 := by
  induction es with
  | nil => rfl
  | cons e' es ih =>
    rw [insertEntry, List.map_cons, List.orderedInsert_cons]
    split
    · rfl
    · rw [List.map_cons, ih]

variable [DecidableEq κ]

/-- The value under a key. -/
def get? (m : BucketMap bucket ν) (k : κ) : Option ν :=
  (Keyed.lookup Prod.fst k m.entries).map Prod.snd

/-- Insert a key that is not in the table, at the head of its bucket. -/
def insertNew (m : BucketMap bucket ν) (k : κ) (v : ν) : BucketMap bucket ν :=
  if h : k ∈ m.keys then m
  else
    { entries := insertEntry bucket (k, v) m.entries
      distinct := by
        rw [Keyed.Distinct, map_fst_insertEntry, (List.perm_orderedInsert _ _ _).nodup_iff]
        exact List.nodup_cons.mpr ⟨h, m.distinct⟩
      sorted := by
        rw [map_fst_insertEntry]
        exact List.Pairwise.orderedInsert k m.keys m.sorted }

/-- Remove a key. -/
def erase (m : BucketMap bucket ν) (k : κ) : BucketMap bucket ν :=
  { entries := m.entries.filter fun e => e.1 ≠ k
    distinct := List.Nodup.sublist (List.filter_sublist.map Prod.fst) m.distinct
    sorted := m.sorted.sublist (List.filter_sublist.map Prod.fst) }

/-- Changing a value leaves the keys and their order as they are. -/
theorem map_fst_modify (k : κ) (f : ν → ν) (es : List (κ × ν)) :
    (Keyed.modify Prod.fst k (fun e => (e.1, f e.2)) es).map Prod.fst = es.map Prod.fst :=
  Keyed.map_key_modify (f := fun e : κ × ν => (e.1, f e.2)) (fun _ => rfl) es

/-- Rewrite the value under a key in place. -/
def modify (m : BucketMap bucket ν) (k : κ) (f : ν → ν) : BucketMap bucket ν :=
  { entries := Keyed.modify Prod.fst k (fun e => (e.1, f e.2)) m.entries
    distinct := m.distinct.modify fun _ => rfl
    sorted := by
      rw [map_fst_modify]
      exact m.sorted }

/-- The keys after the first occurrence of `c`. -/
def after (c : κ) : List κ → List κ
  | [] => []
  | k :: ks => if k = c then ks else after c ks

/-- The keys that a walk from the cursor `c` has still to visit. -/
def keysAfter (m : BucketMap bucket ν) (c : κ) : List κ := after c m.keys

/-- The key after the cursor, and the first key of the table when there is no cursor or the cursor
is not in the table. -/
def nextKey (m : BucketMap bucket ν) : Option κ → Option κ
  | none => m.keys.head?
  | some c => if c ∈ m.keys then (m.keysAfter c).head? else m.keys.head?

/-! ## The keys of a changed table -/

@[simp] theorem keys_modify (m : BucketMap bucket ν) (k : κ) (f : ν → ν) :
    (m.modify k f).keys = m.keys :=
  map_fst_modify k f m.entries

/-- Erasing a key leaves the other keys in their order. -/
theorem keys_erase (m : BucketMap bucket ν) (k : κ) :
    (m.erase k).keys = m.keys.filter (· ≠ k) := by
  rw [keys, erase, keys, List.filter_map]
  rfl

/-- A key that is there is not inserted again. -/
theorem insertNew_of_mem {m : BucketMap bucket ν} {k : κ} (h : k ∈ m.keys) (v : ν) :
    m.insertNew k v = m := by
  rw [insertNew, dif_pos h]

/-- A new key is put where the order of the buckets has it. -/
theorem keys_insertNew {m : BucketMap bucket ν} {k : κ} (h : k ∉ m.keys) (v : ν) :
    (m.insertNew k v).keys = m.keys.orderedInsert (BucketLe bucket) k := by
  rw [insertNew, dif_neg h]
  exact map_fst_insertEntry (k, v) m.entries

/-- After an insertion the map has the new key and those that it had. -/
theorem mem_keys_insertNew {m : BucketMap bucket ν} {k k' : κ} {v : ν} :
    k' ∈ (m.insertNew k v).keys ↔ k' = k ∨ k' ∈ m.keys := by
  by_cases h : k ∈ m.keys
  · rw [insertNew_of_mem h]
    exact ⟨.inr, fun h' => h'.elim (fun heq => heq ▸ h) id⟩
  · rw [keys_insertNew h, List.mem_orderedInsert]

/-- After an erasure the map has the other keys that it had. -/
theorem mem_keys_erase {m : BucketMap bucket ν} {k k' : κ} :
    k' ∈ (m.erase k).keys ↔ k' ∈ m.keys ∧ k' ≠ k := by
  rw [keys_erase, List.mem_filter, decide_eq_true_eq]

/-- A key is in the table when a value is under it. -/
theorem get?_isSome_iff {m : BucketMap bucket ν} {k : κ} : (m.get? k).isSome ↔ k ∈ m.keys := by
  rw [get?, Option.isSome_map, Option.isSome_iff_ne_none, Ne, Keyed.lookup_eq_none_iff, keys]
  simp

/-! ## What is under the keys of a changed table -/

theorem get?_eq_none_iff {m : BucketMap bucket ν} {k : κ} : m.get? k = none ↔ k ∉ m.keys := by
  rw [← get?_isSome_iff, Option.not_isSome_iff_eq_none]

/-- A changed value is read under its own key, the others are as before. -/
theorem get?_modify (m : BucketMap bucket ν) (k : κ) (f : ν → ν) (k' : κ) :
    (m.modify k f).get? k' = if k = k' then (m.get? k).map f else m.get? k' := by
  have hlookup :
      Keyed.lookup Prod.fst k' (Keyed.modify Prod.fst k (fun e => (e.1, f e.2)) m.entries) =
      if k = k' then (Keyed.lookup Prod.fst k m.entries).map fun e => (e.1, f e.2)
      else Keyed.lookup Prod.fst k' m.entries :=
    Keyed.lookup_modify (by intro; rfl) k' m.entries
  rw [get?, modify, hlookup, get?, get?]
  split_ifs
  · rw [Option.map_map, Option.map_map]
    rfl
  · rfl

/-- An erased key is not found, the others are as before. -/
theorem get?_erase (m : BucketMap bucket ν) (k k' : κ) :
    (m.erase k).get? k' = if k' = k then none else m.get? k' := by
  rw [get?, erase, Keyed.lookup_filter_key (fun x => x ≠ k), get?]
  by_cases h : k' = k <;> simp [h]

/-- In a list without the key, the new entry is found under it and the others are as before. -/
theorem lookup_insertEntry {k : κ} {es : List (κ × ν)} (h : Keyed.lookup Prod.fst k es = none)
    (v : ν) (k' : κ) :
    Keyed.lookup Prod.fst k' (insertEntry bucket (k, v) es) =
      if k = k' then some (k, v) else Keyed.lookup Prod.fst k' es := by
  induction es with
  | nil => rw [insertEntry, Keyed.lookup_cons]
  | cons e es ih =>
    rw [Keyed.lookup_cons] at h
    split_ifs at h with he
    rw [insertEntry]
    by_cases hle : BucketLe bucket k e.1
    · rw [if_pos hle, Keyed.lookup_cons]
    · rw [if_neg hle, Keyed.lookup_cons, ih h, Keyed.lookup_cons]
      by_cases hk : k = k'
      · subst hk
        rw [if_neg he, if_pos rfl, if_pos rfl]
      · rw [if_neg hk, if_neg hk]

/-- A value inserted under a new key is read there, the others are as before. -/
theorem get?_insertNew {m : BucketMap bucket ν} {k : κ} (h : k ∉ m.keys) (v : ν) (k' : κ) :
    (m.insertNew k v).get? k' = if k = k' then some v else m.get? k' := by
  have hnone : Keyed.lookup Prod.fst k m.entries = none := by
    simpa [get?] using get?_eq_none_iff.mpr h
  rw [get?, insertNew, dif_neg h, lookup_insertEntry hnone, get?]
  split_ifs <;> rfl

/-! ## What a walk has still to visit -/

section After

variable {c k x : κ} {l : List κ}

/-- What comes after a cursor is in the list. -/
theorem mem_of_mem_after (h : x ∈ after c l) : x ∈ l := by
  induction l with
  | nil => exact h
  | cons y ys ih =>
    rw [after] at h
    split at h
    · exact List.mem_cons_of_mem y h
    · exact List.mem_cons_of_mem y (ih h)

/-- An inserted key is visited only if it is in a later bucket than the cursor. -/
theorem mem_after_orderedInsert (hck : c ≠ k) (hc : c ∈ l)
    (h : x ∈ after c (l.orderedInsert (BucketLe bucket) k)) :
    x ∈ after c l ∨ (x = k ∧ bucket c < bucket k) := by
  induction l with
  | nil => exact absurd hc List.not_mem_nil
  | cons y ys ih =>
    rw [List.orderedInsert_cons] at h
    split_ifs at h with hle
    · rw [after, if_neg hck.symm] at h
      exact .inl h
    · by_cases hy : y = c
      · subst hy
        rw [after, if_pos rfl, List.mem_orderedInsert] at h
        rw [after, if_pos rfl]
        exact h.elim (fun hx => .inr ⟨hx, Nat.lt_of_not_le hle⟩) .inl
      · rw [after, if_neg hy] at h
        rw [after, if_neg hy]
        exact ih ((List.mem_cons.mp hc).resolve_left (Ne.symm hy)) h

/-- Removing another key than the cursor adds nothing to visit. -/
theorem after_filter (hck : c ≠ k) : after c (l.filter (· ≠ k)) = (after c l).filter (· ≠ k) := by
  induction l with
  | nil => rfl
  | cons y ys ih =>
    by_cases hyk : y = k
    · subst hyk
      rw [List.filter_cons_of_neg (by simp), after, if_neg hck.symm, ih]
    · rw [List.filter_cons_of_pos (by simpa using hyk), after, after]
      split
      · rfl
      · exact ih

/-- Moving the cursor to the next key leaves the rest of the walk. -/
theorem after_head (hl : l.Nodup) {d : κ} {ds : List κ} (h : after c l = d :: ds) :
    after d l = ds := by
  induction l with
  | nil => simp [after] at h
  | cons y ys ih =>
    obtain ⟨hy, hys⟩ := List.nodup_cons.mp hl
    rw [after] at h
    split_ifs at h with hyc
    · subst h
      have hne : y ≠ d := fun heq => hy (heq ▸ List.mem_cons_self)
      rw [after, if_neg hne, after, if_pos rfl]
    · have hd : d ∈ ys := mem_of_mem_after (h ▸ List.mem_cons_self)
      have hne : y ≠ d := fun heq => hy (heq ▸ hd)
      rw [after, if_neg hne]
      exact ih hys h

/-- The cursor itself is not visited again. -/
theorem not_mem_after_self (hl : l.Nodup) : c ∉ after c l := by
  induction l with
  | nil => exact List.not_mem_nil
  | cons y ys ih =>
    obtain ⟨hy, hys⟩ := List.nodup_cons.mp hl
    rw [after]
    split_ifs with hyc
    · exact hyc ▸ hy
    · exact ih hys

/-- What is still to visit is in no earlier bucket than the cursor. -/
theorem bucket_le_of_mem_after (hl : l.Pairwise fun a b => bucket a ≤ bucket b)
    (h : x ∈ after c l) : bucket c ≤ bucket x := by
  induction l with
  | nil => exact absurd h List.not_mem_nil
  | cons y ys ih =>
    obtain ⟨hy, hys⟩ := List.pairwise_cons.mp hl
    rw [after] at h
    split_ifs at h with hyc
    · exact hyc ▸ hy x h
    · exact ih hys h

/-- An inserted key takes nothing from what is to visit. -/
theorem mem_after_orderedInsert_of_mem (hck : c ≠ k) (h : x ∈ after c l) :
    x ∈ after c (l.orderedInsert (BucketLe bucket) k) := by
  induction l with
  | nil => exact absurd h List.not_mem_nil
  | cons y ys ih =>
    rw [List.orderedInsert_cons]
    split_ifs with hle
    · rw [after, if_neg hck.symm]
      exact h
    · rw [after] at h ⊢
      split_ifs at h ⊢ with hy
      · exact (List.mem_orderedInsert _).mpr (.inr h)
      · exact ih h

/-- A key that comes back is ahead of all keys of its bucket and of later ones. -/
theorem mem_after_orderedInsert_self (hl : l.Pairwise fun a b => bucket a ≤ bucket b) (hx : x ∈ l)
    (hle : bucket c ≤ bucket x) : x ∈ after c (l.orderedInsert (BucketLe bucket) c) := by
  induction l with
  | nil => exact absurd hx List.not_mem_nil
  | cons y ys ih =>
    obtain ⟨hy, hys⟩ := List.pairwise_cons.mp hl
    rw [List.orderedInsert_cons]
    split_ifs with hcy
    · rw [after, if_pos rfl]
      exact hx
    · have hxy : x ≠ y := fun heq => hcy (heq ▸ hle)
      have hyc : y ≠ c := fun heq => hcy (heq ▸ Nat.le_refl (bucket c))
      rw [after, if_neg hyc]
      exact ih hys ((List.mem_cons.mp hx).resolve_left hxy)

end After

/-! ## Where a walk goes on -/

section Ahead

variable {m : BucketMap bucket ν} {cursor : Option κ} {k : κ}

/-- A walk that goes on from the cursor comes to the key, as long as the key stays in the table. A
cursor that has left the table may come back, at the head of its bucket. -/
def Ahead (m : BucketMap bucket ν) (cursor : Option κ) (k : κ) : Prop :=
  ∀ c, cursor = some c → if c ∈ m.keys then k ∈ m.keysAfter c else bucket c ≤ bucket k

theorem ahead_none : m.Ahead none k := fun _ h => absurd h (by simp)

/-- A key that is still ahead of the walk stays ahead when a value changes. -/
theorem Ahead.modify (h : m.Ahead cursor k) (k' : κ) (f : ν → ν) :
    (m.modify k' f).Ahead cursor k := by
  intro c hc
  rw [keysAfter, keys_modify]
  exact h c hc

/-- A key that is still ahead of the walk stays ahead when another one is erased. -/
theorem Ahead.erase (h : m.Ahead cursor k) {k' : κ} (hk : k ≠ k') :
    (m.erase k').Ahead cursor k := by
  intro c hc
  have hcur := h c hc
  split_ifs at hcur with hmem
  · by_cases hck : c = k'
    · -- The cursor leaves the table.
      subst hck
      rw [if_neg fun h' => (mem_keys_erase.mp h').2 rfl]
      exact bucket_le_of_mem_after m.sorted hcur
    · rw [if_pos (mem_keys_erase.mpr ⟨hmem, hck⟩), keysAfter, keys_erase, after_filter hck]
      exact List.mem_filter.mpr ⟨hcur, by simpa using hk⟩
  · rw [if_neg fun h' => hmem (mem_keys_erase.mp h').1]
    exact hcur

/-- A key that is still ahead of the walk stays ahead when a new one is inserted. -/
theorem Ahead.insertNew (h : m.Ahead cursor k) (hk : k ∈ m.keys) (k' : κ) (v : ν) :
    (m.insertNew k' v).Ahead cursor k := by
  by_cases hmem' : k' ∈ m.keys
  · rw [insertNew_of_mem hmem']
    exact h
  · intro c hc
    have hcur := h c hc
    split_ifs at hcur with hmem
    · have hck : c ≠ k' := fun heq => hmem' (heq ▸ hmem)
      rw [if_pos (mem_keys_insertNew.mpr (.inr hmem)), keysAfter, keys_insertNew hmem']
      exact mem_after_orderedInsert_of_mem hck hcur
    · by_cases hck : c = k'
      · -- The cursor comes back.
        subst hck
        rw [if_pos (mem_keys_insertNew.mpr (.inl rfl)), keysAfter, keys_insertNew hmem']
        exact mem_after_orderedInsert_self m.sorted hk hcur
      · rw [if_neg fun h' => (mem_keys_insertNew.mp h').elim hck hmem]
        exact hcur

/-- The walk comes to what is ahead at the next key or after it. -/
theorem Ahead.next (h : m.Ahead cursor k) (hk : k ∈ m.keys) {d : κ}
    (hd : m.nextKey cursor = some d) :
    k = d ∨ m.Ahead (some d) k := by
  -- Either the walk starts at the first key of the table, or the cursor is in the table.
  have hrest : ∀ ds, m.keys = d :: ds → k = d ∨ m.Ahead (some d) k := by
    intro ds hds
    rcases List.mem_cons.mp (hds ▸ hk) with hkd | hkd
    · exact .inl hkd
    · refine .inr fun c hc => ?_
      obtain rfl := Option.some.inj hc
      rw [if_pos (hds ▸ List.mem_cons_self), keysAfter, hds, after, if_pos rfl]
      exact hkd
  have hhead : m.keys.head? = some d → k = d ∨ m.Ahead (some d) k := by
    intro hhead
    obtain ⟨ds, hds⟩ := List.head?_eq_some_iff.mp hhead
    exact hrest ds hds
  cases cursor with
  | none => exact hhead hd
  | some c =>
    have hcur := h c rfl
    rw [nextKey] at hd
    split_ifs at hd hcur with hmem
    · obtain ⟨ds, hds⟩ := List.head?_eq_some_iff.mp hd
      rcases List.mem_cons.mp (hds ▸ hcur) with hkd | hkd
      · exact .inl hkd
      · refine .inr fun c' hc' => ?_
        obtain rfl := Option.some.inj hc'
        have hmem' : d ∈ m.keys := mem_of_mem_after (hds ▸ List.mem_cons_self)
        rw [if_pos hmem', keysAfter, after_head m.keys_nodup hds]
        exact hkd
    · exact hhead hd

/-- A walk that has no next key has nothing ahead. -/
theorem not_ahead_of_nextKey_eq_none (hk : k ∈ m.keys) (hd : m.nextKey cursor = none) :
    ¬ m.Ahead cursor k := by
  intro h
  have hhead : m.keys.head? ≠ none := by
    rw [Ne, List.head?_eq_none_iff]
    exact List.ne_nil_of_mem hk
  cases cursor with
  | none => exact hhead hd
  | some c =>
    have hcur := h c rfl
    rw [nextKey] at hd
    split_ifs at hd hcur with hmem
    · rw [List.head?_eq_none_iff.mp hd] at hcur
      exact absurd hcur List.not_mem_nil
    · exact hhead hd

end Ahead

end BucketMap
