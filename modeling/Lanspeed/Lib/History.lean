import Mathlib.Data.List.Basic

/-!
# Histories and the last change of an observed value

A history lists records, newest first; `value` reads an observed value from a record, or `none`
where the record does not show it. The value changes at a record that shows it when the record
before does not show it, or shows another one. `LastChange` is the newest record of that kind: the
place a program points to that carries a time stamp along while the value stays the same.
-/

namespace History

variable {α β : Type*} (value : α → Option β)

/-- The value that the newest record of a history shows. -/
def latest (hist : List α) : Option β := hist.head?.bind value

/-- The value appears at the record `r`, or differs from what the earlier history shows. -/
def Changed (r : α) (earlier : List α) : Prop := value r ≠ none ∧ value r ≠ latest value earlier

/-- The record at position `i` of the history changes the value. -/
def ChangedAt (hist : List α) (i : ℕ) : Prop :=
  ∃ r, hist[i]? = some r ∧ Changed value r (hist.drop (i + 1))

/-- The record `r` of the history is the newest one that changes the value. -/
def LastChange (hist : List α) (r : α) : Prop :=
  ∃ i, hist[i]? = some r ∧ ChangedAt value hist i ∧ ∀ j < i, ¬ ChangedAt value hist j

@[simp] theorem latest_nil : latest value [] = none := rfl

@[simp] theorem latest_cons (r : α) (hist : List α) : latest value (r :: hist) = value r := rfl

/-- The newest record changes the value if it does so against the earlier history. -/
@[simp] theorem changedAt_cons_zero (r : α) (hist : List α) :
    ChangedAt value (r :: hist) 0 ↔ Changed value r hist := by
  simp [ChangedAt]

/-- A newer record does not matter to the changes before it. -/
@[simp] theorem changedAt_cons_succ (r : α) (hist : List α) (i : ℕ) :
    ChangedAt value (r :: hist) (i + 1) ↔ ChangedAt value hist i := by
  simp [ChangedAt]

variable {value}

/-- A record that changes the value is its last change. -/
theorem lastChange_cons_of_changed {r : α} {hist : List α} (h : Changed value r hist) (s : α) :
    LastChange value (r :: hist) s ↔ s = r := by
  constructor
  · rintro ⟨i, hi, -, hfirst⟩
    cases i with
    | zero => exact (Option.some.inj hi).symm
    | succ i => exact absurd ((changedAt_cons_zero value r hist).mpr h) (hfirst 0 (Nat.succ_pos i))
  · rintro rfl
    exact ⟨0, rfl, (changedAt_cons_zero value s hist).mpr h,
      fun j hj => absurd hj (Nat.not_lt_zero j)⟩

/-- A record that does not change the value leaves its last change where it was. -/
theorem lastChange_cons_of_not_changed {r : α} {hist : List α}
    (h : ¬ Changed value r hist) (s : α) :
    LastChange value (r :: hist) s ↔ LastChange value hist s := by
  constructor
  · rintro ⟨i, hi, hat, hfirst⟩
    cases i with
    | zero => exact absurd ((changedAt_cons_zero value r hist).mp hat) h
    | succ i =>
      refine ⟨i, hi, (changedAt_cons_succ value r hist i).mp hat, fun j hj hjat => ?_⟩
      exact hfirst (j + 1) (Nat.succ_lt_succ hj) ((changedAt_cons_succ value r hist j).mpr hjat)
  · rintro ⟨i, hi, hat, hfirst⟩
    refine ⟨i + 1, hi, (changedAt_cons_succ value r hist i).mpr hat, fun j hj hjat => ?_⟩
    cases j with
    | zero => exact h ((changedAt_cons_zero value r hist).mp hjat)
    | succ j =>
      exact hfirst j (Nat.lt_of_succ_lt_succ hj) ((changedAt_cons_succ value r hist j).mp hjat)

/-- A value changes last at one record only. -/
theorem LastChange.unique {hist : List α} {r s : α} (hr : LastChange value hist r)
    (hs : LastChange value hist s) : r = s := by
  obtain ⟨i, hi, hati, hfirsti⟩ := hr
  obtain ⟨j, hj, hatj, hfirstj⟩ := hs
  obtain rfl : i = j := by
    rcases Nat.lt_trichotomy i j with h | h | h
    · exact absurd hati (hfirstj i h)
    · exact h
    · exact absurd hatj (hfirsti j h)
  exact Option.some.inj (hi.symm.trans hj)

end History
