import Lanspeed.Lib.Keyed

/-!
# Tables in an array of the caller

A routine that fills an array of its caller counts the slots that it has filled. The slots behind
them still hold what an earlier use has left there. The table is the filled part: it is empty once
the count is reset, a slot that is filled is appended to it, and a write through the index of a key
is `Keyed.modify`. What the other slots hold shows in it only where a slot is filled from its old
content.
-/

/-- An array of which the first `count` slots are filled, `max` at most. -/
structure Slots (α : Type*) (max : ℕ) where
  slots : List α
  count : ℕ
  room : max ≤ slots.length
  count_le : count ≤ max

namespace Slots

variable {α κ : Type*} [DecidableEq κ] {max : ℕ}

/-- The filled part. -/
def table (a : Slots α max) : List α := a.slots.take a.count

/-- Reset the count. -/
def clear (a : Slots α max) : Slots α max := { a with count := 0, count_le := Nat.zero_le max }

/-- Fill the next slot from its old content. -/
def push (a : Slots α max) (init : α → α) (h : a.count < max) : Slots α max where
  slots := a.slots.modify a.count init
  count := a.count + 1
  room := (List.length_modify init a.slots a.count).symm ▸ a.room
  count_le := h

/-- Write through the index of a slot. -/
def modifyAt (a : Slots α max) (i : ℕ) (f : α → α) : Slots α max where
  slots := a.slots.modify i f
  count := a.count
  room := (List.length_modify f a.slots i).symm ▸ a.room
  count_le := a.count_le

/-- The index of the first filled slot under a key. -/
def find (key : α → κ) (k : κ) (a : Slots α max) : Option ℕ :=
  a.table.findIdx? fun row => key row = k

@[simp] theorem length_table (a : Slots α max) : a.table.length = a.count := by
  rw [table, List.length_take]
  exact Nat.min_eq_left (a.count_le.trans a.room)

@[simp] theorem table_clear (a : Slots α max) : a.clear.table = [] := List.take_zero

/-- A slot that is filled is appended to the table. -/
theorem table_push (a : Slots α max) (init : α → α) (h : a.count < max) :
    ∃ old, (a.push init h).table = a.table ++ [init old] := by
  have hlt : a.count < a.slots.length := h.trans_le a.room
  refine ⟨a.slots[a.count], ?_⟩
  have hlength : a.count + 1 = (a.table ++ [init a.slots[a.count]]).length := by
    rw [List.length_append, length_table]
    rfl
  show (a.slots.modify a.count init).take (a.count + 1) = _
  rw [List.modify_eq_take_cons_drop hlt, List.append_cons]
  exact List.take_left' hlength.symm

theorem table_modifyAt (a : Slots α max) (i : ℕ) (f : α → α) :
    (a.modifyAt i f).table = a.table.modify i f :=
  List.take_modify f i a.count a.slots

/-- A write to the slot that was filled last. -/
theorem table_push_modifyAt (a : Slots α max) (init f : α → α) (h : a.count < max) :
    ∃ old, ((a.push init h).modifyAt a.count f).table = a.table ++ [f (init old)] := by
  obtain ⟨old, hpush⟩ := a.table_push init h
  refine ⟨old, ?_⟩
  rw [table_modifyAt, hpush, ← a.length_table, List.modify_eq_take_drop,
    List.take_left, List.drop_left]
  rfl

/-- A write through the index of a key rewrites the first row under it. -/
theorem table_modifyAt_find {key : α → κ} {k : κ} {a : Slots α max}
    {i : ℕ} (h : a.find key k = some i)
    (f : α → α) : (a.modifyAt i f).table = Keyed.modify key k f a.table := by
  have hmodify : ∀ (rows : List α) (i : ℕ), (rows.findIdx? fun row => key row = k) = some i →
      rows.modify i f = Keyed.modify key k f rows := by
    intro rows
    induction rows with
    | nil => exact fun i hi => absurd hi (by simp)
    | cons row rows ih =>
      intro i hi
      rw [List.findIdx?_cons] at hi
      rw [Keyed.modify_cons]
      by_cases hrow : key row = k
      · rw [if_pos (by simpa using hrow)] at hi
        obtain rfl := Option.some.inj hi
        rw [if_pos hrow]
        rfl
      · rw [if_neg (by simpa using hrow)] at hi
        obtain ⟨j, hj, rfl⟩ := Option.map_eq_some_iff.mp hi
        rw [if_neg hrow, ← ih j hj]
        rfl
  rw [table_modifyAt, hmodify a.table i h]

/-- Nothing is found exactly where the table has no row of the key. -/
theorem find_eq_none_iff {key : α → κ} {k : κ} {a : Slots α max} :
    a.find key k = none ↔ Keyed.lookup key k a.table = none := by
  rw [find, List.findIdx?_eq_none_iff, Keyed.lookup_eq_none_iff]
  simp

end Slots
