import Mathlib.Algebra.BigOperators.Group.Finset.Basic
import Mathlib.Algebra.Order.BigOperators.Group.Finset
import Mathlib.Data.Finset.Basic

/-!
# Counters that are read one after the other

A table of counters is read key by key while the counters go on: a reading shows for every key the
value that the counter had at some moment between the beginning and the end of the reading. Counters
only grow by what is added to them, and may be lost and start again from zero. The growths between
consecutive readings then never sum up to more than what was added between the beginning of the
oldest and the end of the newest reading (`sum_growths_le`), although each growth alone may be off
by what was added during a reading.
-/

namespace SampledCounters

variable {κ : Type*}

/-- A reading: what it shows of every counter, and what had ever been added to the counter when the
reading began and when it ended. -/
structure Reading (κ : Type*) where
  shown : κ → ℕ
  begun : κ → ℕ
  ended : κ → ℕ

/-- The readings, newest first, are of counters that only grow by what is added to them; `taken k`
had been added to the counter of `k` when the newest reading took it. -/
inductive Sound : List (Reading κ) → (κ → ℕ) → Prop
  | nil (taken : κ → ℕ) : Sound [] taken
  | cons {r : Reading κ} {rs : List (Reading κ)} {taken taken' : κ → ℕ}
      (during : ∀ k, r.begun k ≤ taken k ∧ taken k ≤ r.ended k) (older : Sound rs taken')
      (grown : ∀ prev ∈ rs.head?, ∀ k, r.shown k + taken' k ≤ prev.shown k + taken k) :
        Sound (r :: rs) taken

/-- The newest of sound readings are sound. -/
theorem Sound.take {rs : List (Reading κ)} {taken : κ → ℕ} (h : Sound rs taken) (n : ℕ) :
    Sound (rs.take n) taken := by
  induction h generalizing n with
  | nil taken => simpa using Sound.nil taken
  | cons during _ grown ih =>
    cases n with
    | zero => exact .nil _
    | succ n =>
      refine .cons during (ih n) fun prev hprev => grown prev ?_
      cases n with
      | zero => exact absurd hprev (by simp)
      | succ n =>
        rw [List.head?_take, if_neg (Nat.succ_ne_zero n)] at hprev
        exact hprev

/-- What the growths between consecutive readings add up to, over the keys of `S`. A sum that fell
counts as no growth. -/
def growths (S : Finset κ) : List (Reading κ) → ℕ
  | r :: prev :: rs => (∑ k ∈ S, r.shown k - ∑ k ∈ S, prev.shown k) + growths S (prev :: rs)
  | _ => 0

/-- The growth from the oldest to the newest reading is at most what the growths between them add up
to. -/
theorem sub_le_growths (S : Finset κ) {rs : List (Reading κ)} {newest oldest : Reading κ}
    (hnewest : rs.head? = some newest) (holdest : rs.getLast? = some oldest) :
    ∑ k ∈ S, newest.shown k - ∑ k ∈ S, oldest.shown k ≤ growths S rs := by
  induction rs generalizing newest with
  | nil => exact absurd hnewest (by simp)
  | cons r rs ih =>
    obtain rfl := Option.some.inj hnewest
    cases rs with
    | nil =>
      obtain rfl : r = oldest := Option.some.inj holdest
      exact (Nat.sub_self _).trans_le (Nat.zero_le _)
    | cons prev rs =>
      have hrest := ih rfl (by rwa [List.getLast?_cons_cons] at holdest)
      rw [growths]
      omega

/-- The growth of a sum over two readings is at most what was added between the moments at which
they took the counters. -/
theorem growth_add_le {S : Finset κ} {shown prev taken taken' : κ → ℕ}
    (h : ∀ k, shown k + taken' k ≤ prev k + taken k) (hle : ∀ k, taken' k ≤ taken k) :
    (∑ k ∈ S, shown k - ∑ k ∈ S, prev k) + ∑ k ∈ S, taken' k ≤ ∑ k ∈ S, taken k := by
  have hsum : ∑ k ∈ S, shown k + ∑ k ∈ S, taken' k ≤ ∑ k ∈ S, prev k + ∑ k ∈ S, taken k := by
    rw [← Finset.sum_add_distrib, ← Finset.sum_add_distrib]
    exact Finset.sum_le_sum fun k _ => h k
  have hmono : ∑ k ∈ S, taken' k ≤ ∑ k ∈ S, taken k := Finset.sum_le_sum fun k _ => hle k
  omega

/-- The readings do not overlap. -/
abbrev OneAfterAnother (rs : List (Reading κ)) : Prop :=
  rs.IsChain fun r prev => ∀ k, prev.ended k ≤ r.begun k

/-- The growths of sound readings add up to at most what was added from the beginning of the oldest
reading until the newest one took the counters. -/
theorem Sound.growths_add_le (S : Finset κ) {rs : List (Reading κ)}
    {taken : κ → ℕ} (h : Sound rs taken)
    (horder : OneAfterAnother rs) {oldest : Reading κ} (holdest : rs.getLast? = some oldest) :
    growths S rs + ∑ k ∈ S, oldest.begun k ≤ ∑ k ∈ S, taken k := by
  induction rs generalizing taken with
  | nil => exact absurd holdest (by simp)
  | cons r rs ih =>
    cases h with
    | @cons _ _ _ taken' during older grown =>
      cases rs with
      | nil =>
        obtain rfl : r = oldest := Option.some.inj holdest
        rw [growths, zero_add]
        · exact Finset.sum_le_sum fun k _ => (during k).1
        · simp
      | cons prev rs =>
        obtain ⟨hapart, horder⟩ := List.isChain_cons_cons.mp horder
        have hrest := ih older horder (by rwa [List.getLast?_cons_cons] at holdest)
        have htaken : ∀ k, taken' k ≤ taken k := by
          intro k
          cases older with
          | cons during' _ _ => exact (during' k).2.trans ((hapart k).trans (during k).1)
        have hgrowth := growth_add_le (S := S) (grown prev rfl) htaken
        rw [growths]
        omega

/-- The growths of sound readings add up to at most what was added between the beginning of the
oldest and the end of the newest reading. -/
theorem Sound.growths_le (S : Finset κ) {rs : List (Reading κ)} {taken : κ → ℕ} (h : Sound rs taken)
    (horder : OneAfterAnother rs) {newest oldest : Reading κ} (hnewest : rs.head? = some newest)
    (holdest : rs.getLast? = some oldest) :
    growths S rs + ∑ k ∈ S, oldest.begun k ≤ ∑ k ∈ S, newest.ended k := by
  apply (h.growths_add_le S horder holdest).trans
  cases h with
  | nil => exact absurd hnewest (by simp)
  | cons during _ _ =>
    obtain rfl := Option.some.inj hnewest
    exact Finset.sum_le_sum fun k _ => (during k).2

/-- The growths of sound readings add up to at most what was added to each counter between the
beginning of the oldest and the end of the newest reading. -/
theorem Sound.growths_le_sum (S : Finset κ) {rs : List (Reading κ)}
    {taken : κ → ℕ} (h : Sound rs taken)
    (horder : OneAfterAnother rs) {newest oldest : Reading κ} (hnewest : rs.head? = some newest)
    (holdest : rs.getLast? = some oldest) :
    growths S rs ≤ ∑ k ∈ S, (newest.ended k - oldest.begun k) := by
  have hgrowths := h.growths_le S horder hnewest holdest
  have hsplit :
      ∑ k ∈ S, newest.ended k ≤ ∑ k ∈ S, (newest.ended k - oldest.begun k + oldest.begun k) :=
    Finset.sum_le_sum fun k _ => le_tsub_add
  rw [Finset.sum_add_distrib] at hsplit
  omega

end SampledCounters
