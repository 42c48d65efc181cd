import Mathlib.Data.List.Basic
import Mathlib.Data.List.Find
import Mathlib.Data.List.Induction
import Mathlib.Tactic.Common

/-!
# Ring buffers

A ring of `n` slots with a write position and a count. Pushing overwrites the oldest entry once the
ring is full; clearing only zeroes the position and the count. `Represents r hist` says what a ring
is for: read from the newest entry back, it is the beginning of the list `hist` of everything pushed
since it was last cleared, newest first.
-/

/-- A ring buffer of capacity `n`, with its write position and number of entries in range. -/
structure RingBuffer (α : Type*) (n : ℕ) where
  slots : Vector α n
  head : ℕ
  count : ℕ
  head_lt : head < n
  count_le : count ≤ n

namespace RingBuffer

variable {α : Type*} {n : ℕ}

/-- The empty ring over slots that all hold `a`. -/
def init (a : α) (h : 0 < n) : RingBuffer α n :=
  { slots := Vector.replicate n a, head := 0, count := 0, head_lt := h, count_le := Nat.zero_le n }

/-- Write at the head, advance the head, and count up to the capacity. -/
def push (r : RingBuffer α n) (a : α) : RingBuffer α n :=
  { slots := r.slots.set r.head a r.head_lt
    head := (r.head + 1) % n
    count := if r.count < n then r.count + 1 else r.count
    head_lt := Nat.mod_lt _ (Nat.zero_lt_of_lt r.head_lt)
    count_le := by have := r.count_le; split <;> omega }

/-- Forget every entry; the slots keep their contents. -/
def clear (r : RingBuffer α n) : RingBuffer α n :=
  { r with head := 0, count := 0, head_lt := Nat.zero_lt_of_lt r.head_lt,
           count_le := Nat.zero_le n }

/-- The slot of the entry `back` places before the newest one. -/
def offset (r : RingBuffer α n) (back : ℕ) : ℕ := (r.head + n - 1 - back) % n

theorem offset_lt (r : RingBuffer α n) (back : ℕ) : r.offset back < n :=
  Nat.mod_lt _ (Nat.zero_lt_of_lt r.head_lt)

/-- The entry `back` places before the newest one, if there is one. -/
def sampleAt (r : RingBuffer α n) (back : ℕ) : Option α :=
  have hslot := r.offset_lt back
  if back ≥ r.count then none else some r.slots[r.offset back]

/-- The ring holds the newest entries of `hist`, and as many of them as fit. -/
structure Represents (r : RingBuffer α n) (hist : List α) : Prop where
  count_eq : r.count = min hist.length n
  sampleAt_eq : ∀ i < r.count, r.sampleAt i = hist[i]?

theorem represents_clear (r : RingBuffer α n) : (r.clear).Represents [] :=
  ⟨by simp [clear], fun i hi => absurd hi (by simp [clear])⟩

theorem represents_init (a : α) (h : 0 < n) : (init a h).Represents [] :=
  ⟨by simp [init], fun i hi => absurd hi (by simp [init])⟩

/-- The new entry is in the slot that the old head pointed to. -/
theorem offset_push_zero (r : RingBuffer α n) (a : α) : (r.push a).offset 0 = r.head := by
  have h := r.head_lt
  simp only [offset, push]
  by_cases hw : r.head + 1 = n
  · simp [hw, Nat.mod_eq_of_lt (by omega : n - 1 < n)]
    omega
  · rw [Nat.mod_eq_of_lt (by omega : r.head + 1 < n),
      show r.head + 1 + n - 1 - 0 = r.head + n by omega, Nat.add_mod_right, Nat.mod_eq_of_lt h]

/-- Pushing moves every older entry one place back. -/
theorem offset_push_succ (r : RingBuffer α n) (a : α) {back : ℕ} (hb : back + 1 < n) :
    (r.push a).offset (back + 1) = r.offset back := by
  have h := r.head_lt
  simp only [offset, push]
  by_cases hw : r.head + 1 = n
  · rw [hw, Nat.mod_self, show r.head + n - 1 - back = (n - 2 - back) + n by omega,
      Nat.add_mod_right]
    congr 1
    omega
  · rw [Nat.mod_eq_of_lt (by omega : r.head + 1 < n)]
    congr 1
    omega

/-- The `back` entries before the newest one are in slots other than the head's. -/
theorem offset_ne_head (r : RingBuffer α n) {back : ℕ} (hb : back + 1 < n) :
    r.offset back ≠ r.head := by
  have h := r.head_lt
  simp only [offset]
  by_cases hw : back < r.head
  · rw [show r.head + n - 1 - back = (r.head - 1 - back) + n by omega, Nat.add_mod_right,
      Nat.mod_eq_of_lt (by omega)]
    omega
  · rw [Nat.mod_eq_of_lt (by omega)]
    omega

@[simp] theorem push_slots (r : RingBuffer α n) (a : α) :
    (r.push a).slots = r.slots.set r.head a r.head_lt := rfl

/-- The newest sample is the one that was pushed. -/
theorem sampleAt_push_zero (r : RingBuffer α n) (a : α) : (r.push a).sampleAt 0 = some a := by
  have h := r.head_lt
  have hc : 0 < (r.push a).count := by simp only [push]; split <;> omega
  rw [sampleAt, if_neg (by omega)]
  simp only [offset_push_zero, push_slots, Vector.getElem_set_self]

/-- A push moves the samples that stay one place back. -/
theorem sampleAt_push_succ (r : RingBuffer α n) (a : α) {back : ℕ}
    (hb : back + 1 < (r.push a).count) :
    (r.push a).sampleAt (back + 1) = r.sampleAt back := by
  have hcount : (r.push a).count ≤ n := (r.push a).count_le
  have hold : back < r.count := by
    have : (r.push a).count ≤ r.count + 1 := by simp only [push]; split <;> omega
    omega
  rw [sampleAt, sampleAt, if_neg (by omega), if_neg (by omega)]
  simp only [offset_push_succ r a (by omega : back + 1 < n), push_slots]
  rw [Vector.getElem_set_ne _ _ (offset_ne_head r (by omega)).symm]

/-- Pushing onto the ring is pushing onto the history. -/
theorem Represents.push {r : RingBuffer α n} {hist : List α} (h : r.Represents hist) (a : α) :
    (r.push a).Represents (a :: hist) := by
  refine ⟨?_, fun i hi => ?_⟩
  · have := h.count_eq
    simp only [RingBuffer.push, List.length_cons]
    split <;> omega
  · cases i with
    | zero => simp [sampleAt_push_zero]
    | succ i =>
      have hold : i < r.count := by
        have : (r.push a).count ≤ r.count + 1 := by simp only [RingBuffer.push]; split <;> omega
        omega
      rw [sampleAt_push_succ r a hi, List.getElem?_cons_succ]
      exact h.sampleAt_eq i hold

/-- Past the stored entries there is nothing to read. -/
theorem sampleAt_eq_none {r : RingBuffer α n} {i : ℕ} (h : r.count ≤ i) : r.sampleAt i = none := by
  simp [sampleAt, h]

/-- Two entries of the ring are in different slots. -/
theorem offset_inj (r : RingBuffer α n) {i j : ℕ} (hi : i < n) (hj : j < n)
    (h : r.offset i = r.offset j) : i = j := by
  have hh := r.head_lt
  have hoffset : ∀ k < n, r.offset k = if k < r.head then r.head - 1 - k
      else r.head + n - 1 - k := by
    intro k hk
    rw [offset]
    split_ifs with hw
    · rw [show r.head + n - 1 - k = (r.head - 1 - k) + n by omega, Nat.add_mod_right,
        Nat.mod_eq_of_lt (by omega)]
    · exact Nat.mod_eq_of_lt (by omega)
  rw [hoffset i hi, hoffset j hj] at h
  split_ifs at h <;> omega

/-- Pushing onto a cleared ring is pushing onto the empty history. -/
theorem represents_foldl_push {r : RingBuffer α n} {hist : List α} (h : r.Represents hist)
    (pushed : List α) : (pushed.foldl RingBuffer.push r).Represents (pushed.reverse ++ hist) := by
  induction pushed generalizing r hist with
  | nil => exact h
  | cons a pushed ih =>
    rw [List.foldl_cons, List.reverse_cons, List.append_assoc]
    exact ih (h.push a)

/-- Read back from the newest entry, the ring is the beginning of the history. -/
theorem Represents.sampleAt_eq_take {r : RingBuffer α n} {hist : List α} (h : r.Represents hist)
    (i : ℕ) : r.sampleAt i = (hist.take n)[i]? := by
  by_cases hi : i < r.count
  · rw [h.sampleAt_eq i hi, List.getElem?_take_of_lt (by have := r.count_le; omega)]
  · rw [sampleAt_eq_none (by omega), List.getElem?_eq_none]
    rw [List.length_take, Nat.min_comm, ← h.count_eq]
    omega

/-- An index is that of a stored entry when it is below the number of entries and the capacity. -/
theorem Represents.sampleAt_eq_ite {r : RingBuffer α n} {hist : List α} (h : r.Represents hist)
    (i : ℕ) : r.sampleAt i = if i < min hist.length n then hist[i]? else none := by
  split_ifs with hi
  · exact h.sampleAt_eq i (by rwa [h.count_eq])
  · exact sampleAt_eq_none (by rw [h.count_eq]; omega)

/-- Picking the entries of a list by their indexes, up to a limit. -/
theorem filterMap_range_eq_take (l : List α) (limit : ℕ) {count : ℕ} (hcount : count ≤ l.length) :
    ((List.range count).filterMap fun i => if i + 1 > limit then none else l[i]?) =
      l.take (min count limit) := by
  induction count with
  | zero => simp
  | succ count ih =>
    have hentry : l[count]? = some l[count] := List.getElem?_eq_getElem hcount
    rw [List.range_succ, List.filterMap_append, ih (by omega),
      List.filterMap_cons, List.filterMap_nil]
    split_ifs with hlimit
    · rw [show min (count + 1) limit = min count limit by omega, List.append_nil]
    · rw [show min (count + 1) limit = count + 1 by omega, show min count limit = count by omega,
        hentry, List.take_add_one, hentry]
      rfl

/-- The newest entries up to a limit, oldest first: what a loop from the oldest entry collects. -/
theorem Represents.filterMap_range {r : RingBuffer α n} {hist : List α} (h : r.Represents hist)
    (limit : ℕ) :
    ((List.range r.count).reverse.filterMap fun i => if i + 1 > limit then none else r.sampleAt i) =
      (hist.take (min r.count limit)).reverse := by
  have hcount : r.count ≤ hist.length := by
    rw [h.count_eq]
    exact Nat.min_le_left _ _
  rw [List.filterMap_reverse, ← filterMap_range_eq_take hist limit hcount]
  congr 1
  apply List.filterMap_congr
  intro i hi
  rw [h.sampleAt_eq i (List.mem_range.mp hi)]

/-- The index back of the oldest entry that meets `p`. -/
def oldestWhere (r : RingBuffer α n) (p : α → Bool) : Option ℕ :=
  (List.range r.count).reverse.find? fun i => (r.sampleAt i).any p

/-- The sample that is found is one of the ring and meets the predicate. -/
theorem oldestWhere_some {r : RingBuffer α n} {p : α → Bool} {i : ℕ}
    (h : r.oldestWhere p = some i) : i < r.count ∧ (r.sampleAt i).any p = true := by
  refine ⟨?_, by simpa using List.find?_some h⟩
  simpa using List.mem_of_find?_eq_some h

/-- Counting down over a list finds its last entry that meets `p`. -/
theorem find?_range_reverse (p : α → Bool) (l : List α) :
    ((List.range l.length).reverse.find? fun i => (l[i]?).any p).bind (l[·]?)
      = (l.filter p).getLast? := by
  induction l using List.reverseRecOn with
  | nil => rfl
  | append_singleton l a ih =>
    have hlast : (l ++ [a])[l.length]? = some a := List.getElem?_concat_length
    rw [List.length_append, List.length_singleton, List.range_succ, List.reverse_append,
      List.reverse_singleton, List.singleton_append, List.find?_cons, hlast, Option.any_some,
      List.filter_append]
    by_cases ha : p a
    · simp [ha]
    · -- The last entry does not count, so the search goes on in the shorter list.
      have hsame : ∀ i ∈ (List.range l.length).reverse, (l ++ [a])[i]? = l[i]? := by
        intro i hi
        exact List.getElem?_append_left (by simpa using hi)
      have hfind : (List.range l.length).reverse.find? (fun i => ((l ++ [a])[i]?).any p)
          = (List.range l.length).reverse.find? (fun i => (l[i]?).any p) :=
        List.find?_congr fun i hi => by rw [hsame i hi]
      simp only [ha, Bool.false_eq_true, not_false_eq_true, List.filter_cons_of_neg,
        List.filter_nil, List.append_nil, hfind, ← ih]
      cases hf : (List.range l.length).reverse.find? (fun i => (l[i]?).any p) with
      | none => rfl
      | some i => exact hsame i (List.mem_of_find?_eq_some hf)

/-- The oldest entry that meets `p` is the last one of the history that does, among those
that fit. -/
theorem Represents.oldestWhere_bind {r : RingBuffer α n} {hist : List α} (h : r.Represents hist)
    (p : α → Bool) :
    (r.oldestWhere p).bind r.sampleAt = ((hist.take n).filter p).getLast? := by
  have hcount : r.count = (hist.take n).length := by
    rw [h.count_eq, List.length_take, Nat.min_comm]
  have hsample : r.sampleAt = fun i => (hist.take n)[i]? := funext h.sampleAt_eq_take
  rw [oldestWhere, hcount, hsample, find?_range_reverse]

end RingBuffer
