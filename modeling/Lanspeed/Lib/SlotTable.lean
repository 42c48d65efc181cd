import Mathlib.Data.List.Perm.Subperm

/-!
# Tables of slots that are never freed

A fixed array of slots, each of them free or holding a row. A row is stored over the one under its
key, or in the first free slot where its key has none; where no slot is free it is dropped. A slot
that holds a row keeps its key for good, so that rows of different keys do not meet: while the keys
that are ever stored are no more than the slots, what is found under a key is the row that was
stored there last.
-/

namespace SlotTable

variable {α κ : Type*}

/-! ## Filling a free slot -/

/-- Store a row in the first free slot. -/
def fill (row : α) : List (Option α) → List (Option α)
  | [] => []
  | some old :: slots => some old :: fill row slots
  | none :: slots => some row :: slots

/-- Filling a slot keeps the number of slots. -/
theorem length_fill (row : α) (slots : List (Option α)) :
    (fill row slots).length = slots.length := by
  induction slots with
  | nil => rfl
  | cons slot slots ih =>
    cases slot with
    | none => rfl
    | some old => rw [fill, List.length_cons, List.length_cons, ih]

section Keys

variable (key : α → κ)

/-- The keys of the slots that hold a row. -/
def keys (slots : List (Option α)) : List κ := slots.filterMap fun slot => slot.map key

@[simp] theorem keys_cons_some (row : α) (slots : List (Option α)) :
    keys key (some row :: slots) = key row :: keys key slots := rfl

@[simp] theorem keys_cons_none (slots : List (Option α)) :
    keys key (none :: slots) = keys key slots := rfl

/-- A row that fills a slot adds its key. -/
theorem perm_keys_fill {slots : List (Option α)} (hfree : none ∈ slots) (row : α) :
    (keys key (fill row slots)).Perm (key row :: keys key slots) := by
  induction slots with
  | nil => exact absurd hfree List.not_mem_nil
  | cons slot slots ih =>
    cases slot with
    | none => exact List.Perm.refl _
    | some old =>
      have hrest : none ∈ slots := by simpa using hfree
      rw [fill, keys_cons_some, keys_cons_some]
      exact ((ih hrest).cons _).trans (List.Perm.swap _ _ _)

/-- A table without a free slot has a key in each. -/
theorem length_keys_of_full {slots : List (Option α)} (h : none ∉ slots) :
    (keys key slots).length = slots.length := by
  induction slots with
  | nil => rfl
  | cons slot slots ih =>
    cases slot with
    | none => exact absurd List.mem_cons_self h
    | some row =>
      rw [keys_cons_some, List.length_cons, List.length_cons,
        ih fun hmem => h (List.mem_cons_of_mem _ hmem)]

/-- The keys of a table are distinct and among `names`, of which there are no more than slots. -/
structure RoomFor (names : List κ) (slots : List (Option α)) : Prop where
  nodup  : (keys key slots).Nodup
  within : keys key slots ⊆ names
  room   : names.length ≤ slots.length

/-- A free array has room for as many names as it has slots. -/
theorem roomFor_replicate {names : List κ} {n : ℕ} (h : names.length ≤ n) :
    RoomFor key names (List.replicate n none) := by
  have hkeys : keys key (List.replicate n (none : Option α)) = [] := by
    rw [keys, List.filterMap_eq_nil_iff]
    intro slot hslot
    rw [List.eq_of_mem_replicate hslot]
    rfl
  refine ⟨?_, ?_, ?_⟩
  · rw [hkeys]
    exact List.nodup_nil
  · rw [hkeys]
    exact List.nil_subset _
  · rwa [List.length_replicate]

end Keys

/-! ## Storing a row -/

section Put

variable [DecidableEq κ] (key : α → κ)

/-- The row in the first slot under a key. -/
def find (k : κ) : List (Option α) → Option α
  | [] => none
  | some row :: slots => if key row = k then some row else find k slots
  | none :: slots => find k slots

/-- Store a row over the first one under its key. -/
def overwrite (row : α) : List (Option α) → List (Option α)
  | [] => []
  | some old :: slots =>
    if key old = key row then some row :: slots else some old :: overwrite row slots
  | none :: slots => none :: overwrite row slots

/-- Store a row. -/
def put (row : α) (slots : List (Option α)) : List (Option α) :=
  match find key (key row) slots with
  | some _ => overwrite key row slots
  | none => fill row slots

variable {key}

/-- Nothing is found exactly where no slot has the key. -/
theorem find_eq_none_iff {k : κ} {slots : List (Option α)} :
    find key k slots = none ↔ k ∉ keys key slots := by
  induction slots with
  | nil => simp [find, keys]
  | cons slot slots ih =>
    cases slot with
    | none => rw [find, ih, keys_cons_none]
    | some row =>
      rw [find, keys_cons_some, List.mem_cons, not_or]
      split_ifs with hk
      · simp [hk]
      · rw [ih]
        exact (and_iff_right (Ne.symm hk)).symm

/-- A row that overwrites the one of its key is found there, the others are as before. -/
theorem find_overwrite {row : α} {slots : List (Option α)}
    (h : find key (key row) slots ≠ none) (k : κ) :
    find key k (overwrite key row slots) = if key row = k then some row else find key k slots := by
  induction slots with
  | nil => exact absurd rfl h
  | cons slot slots ih =>
    cases slot with
    | none => rw [overwrite, find, find, ih h]
    | some old =>
      rw [overwrite]
      by_cases hold : key old = key row
      · rw [if_pos hold, find, find, hold]
        split_ifs <;> rfl
      · rw [find, if_neg hold] at h
        rw [if_neg hold, find, find, ih h]
        by_cases hk : key row = k
        · rw [if_neg fun heq => hold (heq.trans hk.symm), if_pos hk, if_pos hk]
        · rw [if_neg hk, if_neg hk]

/-- Overwriting a row keeps the keys. -/
theorem keys_overwrite (row : α) (slots : List (Option α)) :
    keys key (overwrite key row slots) = keys key slots := by
  induction slots with
  | nil => rfl
  | cons slot slots ih =>
    cases slot with
    | none => rw [overwrite, keys_cons_none, keys_cons_none, ih]
    | some old =>
      rw [overwrite]
      split_ifs with hold
      · rw [keys_cons_some, keys_cons_some, hold]
      · rw [keys_cons_some, keys_cons_some, ih]

/-- Overwriting a row keeps the number of slots. -/
theorem length_overwrite (row : α) (slots : List (Option α)) :
    (overwrite key row slots).length = slots.length := by
  induction slots with
  | nil => rfl
  | cons slot slots ih =>
    cases slot with
    | none => rw [overwrite, List.length_cons, List.length_cons, ih]
    | some old =>
      rw [overwrite]
      split_ifs
      · rfl
      · rw [List.length_cons, List.length_cons, ih]

/-- A row that fills a free slot is found under its new key, the others are as before. -/
theorem find_fill {row : α} {slots : List (Option α)} (hfree : none ∈ slots)
    (hnone : find key (key row) slots = none) (k : κ) :
    find key k (fill row slots) = if key row = k then some row else find key k slots := by
  induction slots with
  | nil => exact absurd hfree List.not_mem_nil
  | cons slot slots ih =>
    cases slot with
    | none => rw [fill, find, find]
    | some old =>
      have hrest : none ∈ slots := by simpa using hfree
      rw [find] at hnone
      split_ifs at hnone with hold
      rw [fill, find, find, ih hrest hnone]
      by_cases hk : key row = k
      · rw [if_neg fun heq => hold (heq.trans hk.symm), if_pos hk, if_pos hk]
      · rw [if_neg hk, if_neg hk]

variable {names : List κ} {slots : List (Option α)} {row : α}

/-- A name that has no row finds a free slot. -/
theorem RoomFor.exists_free (h : RoomFor key names slots) {k : κ} (hk : k ∈ names)
    (hnone : find key k slots = none) : none ∈ slots := by
  by_contra hfull
  have hnodup : (k :: keys key slots).Nodup :=
    List.nodup_cons.mpr ⟨find_eq_none_iff.mp hnone, h.nodup⟩
  have hle := (List.subperm_of_subset hnodup (List.cons_subset.mpr ⟨hk, h.within⟩)).length_le
  rw [List.length_cons, length_keys_of_full key hfull] at hle
  have := h.room
  omega

/-- A row that is stored under one of the names is found there, and every other row is as it was. -/
theorem RoomFor.find_put (h : RoomFor key names slots) (hrow : key row ∈ names) (k : κ) :
    find key k (put key row slots) = if key row = k then some row else find key k slots := by
  rw [put]
  cases hfound : find key (key row) slots with
  | some old => exact find_overwrite (by rw [hfound]; exact Option.some_ne_none old) k
  | none => exact find_fill (h.exists_free hrow hfound) hfound k

/-- A table with room for the names has room for them after a row of one of them is put. -/
theorem RoomFor.put (h : RoomFor key names slots) (hrow : key row ∈ names) :
    RoomFor key names (put key row slots) := by
  rw [SlotTable.put]
  cases hfound : find key (key row) slots with
  | some old =>
    refine ⟨?_, ?_, ?_⟩
    · rw [keys_overwrite]
      exact h.nodup
    · rw [keys_overwrite]
      exact h.within
    · rw [length_overwrite]
      exact h.room
  | none =>
    have hperm := perm_keys_fill key (h.exists_free hrow hfound) row
    refine ⟨?_, ?_, ?_⟩
    · exact hperm.nodup_iff.mpr (List.nodup_cons.mpr ⟨find_eq_none_iff.mp hfound, h.nodup⟩)
    · exact fun k hk => List.cons_subset.mpr ⟨hrow, h.within⟩ (hperm.subset hk)
    · rw [length_fill]
      exact h.room

end Put

end SlotTable
