import Mathlib.Algebra.BigOperators.Group.Finset.Piecewise
import Mathlib.Algebra.BigOperators.Group.List.Basic
import Mathlib.Data.List.Nodup
import Mathlib.Tactic.Abel

/-!
# Tables of rows under a key

A table is a list of rows, each with a key. `lookup` finds the first row under a key and `modify`
rewrites it, as a program does that scans an array for a key and then writes through the pointer it
found. A table whose keys are `Distinct` has at most one row under a key, so `lookup` determines it.
-/

namespace Keyed

variable {α κ M : Type*} [DecidableEq κ] (key : α → κ)

/-- The first row under the key `k`. -/
def lookup (k : κ) (tbl : List α) : Option α := tbl.find? (fun r => key r = k)

/-- Rewrite the first row under the key `k`. -/
def modify (k : κ) (f : α → α) : List α → List α
  | [] => []
  | r :: rs => if key r = k then f r :: rs else r :: modify k f rs

/-- No two rows are under one key. -/
def Distinct (tbl : List α) : Prop := (tbl.map key).Nodup

instance (tbl : List α) : Decidable (Distinct key tbl) :=
  inferInstanceAs (Decidable (tbl.map key).Nodup)

omit [DecidableEq κ] in
@[simp] theorem distinct_nil : Distinct key [] := List.nodup_nil

@[simp] theorem lookup_nil (k : κ) : lookup key k [] = none := rfl

/-- The head of a table is found under its own key, and hides the rest only there. -/
@[simp] theorem lookup_cons (k : κ) (r : α) (rs : List α) :
    lookup key k (r :: rs) = if key r = k then some r else lookup key k rs := by
  by_cases h : key r = k <;> simp [lookup, h]

variable {key}

/-- What is found under a key has this key. -/
theorem key_of_lookup {k : κ} {tbl : List α} {r : α} (h : lookup key k tbl = some r) :
    key r = k := by
  simpa using List.find?_some h

theorem mem_of_lookup {k : κ} {tbl : List α} {r : α} (h : lookup key k tbl = some r) : r ∈ tbl :=
  List.mem_of_find?_eq_some h

/-- Nothing is found exactly where no row has the key. -/
theorem lookup_eq_none_iff {k : κ} {tbl : List α} :
    lookup key k tbl = none ↔ ∀ r ∈ tbl, key r ≠ k := by
  simp [lookup]

/-- The row under a key is there when the key is. -/
theorem mem_map_key_iff {k : κ} {tbl : List α} : k ∈ tbl.map key ↔ lookup key k tbl ≠ none := by
  rw [Ne, lookup_eq_none_iff, List.mem_map]
  simp

/-- In two tables in a row, the second is searched where the first has nothing. -/
theorem lookup_append (k : κ) (xs ys : List α) :
    lookup key k (xs ++ ys) = (lookup key k xs).or (lookup key k ys) := by
  simp [lookup]

/-- A new row at the end is found under its own key, and under no other. -/
theorem lookup_append_fresh {tbl : List α} {r : α} (h : lookup key (key r) tbl = none) (k : κ) :
    lookup key k (tbl ++ [r]) = if key r = k then some r else lookup key k tbl := by
  rw [lookup_append]
  by_cases hk : key r = k
  · subst hk
    simp [h]
  · simp [hk]

/-- Where the keys are distinct, every row is found under its key. -/
theorem Distinct.lookup_of_mem {tbl : List α} (h : Distinct key tbl) {r : α} (hr : r ∈ tbl) :
    lookup key (key r) tbl = some r := by
  induction tbl with
  | nil => exact absurd hr List.not_mem_nil
  | cons a as ih =>
    obtain ⟨ha, has⟩ := List.nodup_cons.mp h
    rw [lookup_cons]
    rcases List.mem_cons.mp hr with rfl | hr
    · simp
    · rw [if_neg, ih has hr]
      intro heq
      exact ha (heq ▸ List.mem_map_of_mem hr)

/-- Two rows of a table with distinct keys that are under one key are the same row. -/
theorem Distinct.eq_of_key_eq {tbl : List α} (h : Distinct key tbl) {r r' : α} (hr : r ∈ tbl)
    (hr' : r' ∈ tbl) (hk : key r = key r') : r = r' := by
  have := h.lookup_of_mem hr
  rw [hk, h.lookup_of_mem hr'] at this
  exact (Option.some.inj this).symm

/-- A row with a new key keeps the keys distinct. -/
theorem Distinct.append_fresh {tbl : List α} (h : Distinct key tbl) {r : α}
    (hr : lookup key (key r) tbl = none) : Distinct key (tbl ++ [r]) := by
  rw [Distinct, List.map_append, List.map_singleton, List.nodup_append]
  refine ⟨h, List.nodup_singleton _, ?_⟩
  intro a ha b hb
  obtain ⟨s, hs, rfl⟩ := List.mem_map.mp ha
  rw [List.mem_singleton.mp hb]
  exact lookup_eq_none_iff.mp hr s hs

/-- Rewriting every row under its key rewrites what is found under each key. -/
theorem lookup_map {f : α → α} (hf : ∀ r, key (f r) = key r) (k : κ) (tbl : List α) :
    lookup key k (tbl.map f) = (lookup key k tbl).map f := by
  induction tbl with
  | nil => rfl
  | cons r rs ih =>
    rw [List.map_cons, lookup_cons, lookup_cons, hf, ih]
    split_ifs <;> rfl

/-- Dropping the rows under some keys drops what is found under those keys, and nothing else. -/
theorem lookup_filter_key (q : κ → Bool) (k : κ) (tbl : List α) :
    lookup key k (tbl.filter fun r => q (key r)) = if q k then lookup key k tbl else none := by
  induction tbl with
  | nil => simp
  | cons r rs ih =>
    rw [List.filter_cons]
    by_cases hk : key r = k
    · subst hk
      cases hq : q (key r) with
      | true => simp
      | false => simpa [hq] using ih
    · cases q (key r) with
      | true => rw [if_pos rfl, lookup_cons, lookup_cons, if_neg hk, if_neg hk, ih]
      | false => rw [if_neg Bool.false_ne_true, lookup_cons, if_neg hk, ih]

omit [DecidableEq κ] in
/-- Dropping rows keeps the keys distinct. -/
theorem Distinct.filter {tbl : List α} (h : Distinct key tbl) (p : α → Bool) :
    Distinct key (tbl.filter p) :=
  h.sublist (List.filter_sublist.map key)

section Modify

variable {k : κ} {f : α → α}

@[simp] theorem modify_nil : modify key k f [] = [] := rfl

theorem modify_cons (r : α) (rs : List α) :
    modify key k f (r :: rs) = if key r = k then f r :: rs else r :: modify key k f rs := rfl

@[simp] theorem length_modify (tbl : List α) : (modify key k f tbl).length = tbl.length := by
  induction tbl with
  | nil => rfl
  | cons r rs ih => rw [modify_cons]; split <;> simp [ih]

/-- A rewrite that keeps the keys of the rows keeps the keys of the table. -/
theorem map_key_modify (hf : ∀ r, key (f r) = key r) (tbl : List α) :
    (modify key k f tbl).map key = tbl.map key := by
  induction tbl with
  | nil => rfl
  | cons r rs ih => rw [modify_cons]; split <;> simp [hf, ih]

/-- Changing a row without its key keeps the keys distinct. -/
theorem Distinct.modify {tbl : List α} (h : Distinct key tbl) (hf : ∀ r, key (f r) = key r) :
    Distinct key (modify key k f tbl) := by
  rw [Distinct, map_key_modify hf]
  exact h

/-- The rewrite is seen under its own key, and under no other. -/
theorem lookup_modify (hf : ∀ r, key (f r) = key r) (k' : κ) (tbl : List α) :
    lookup key k' (modify key k f tbl)
      = if k = k' then (lookup key k tbl).map f else lookup key k' tbl := by
  induction tbl with
  | nil => simp
  | cons r rs ih =>
    rw [modify_cons]
    by_cases hr : key r = k
    · rw [if_pos hr, lookup_cons, lookup_cons, lookup_cons, hf]
      by_cases hk : k = k'
      · simp [hr, hk]
      · rw [if_neg (hr ▸ hk), if_neg hk, if_neg (hr ▸ hk)]
    · rw [if_neg hr, lookup_cons, lookup_cons, lookup_cons, ih]
      by_cases hk : k = k'
      · subst hk
        simp [hr]
      · simp [hk]

/-- A row of the rewritten table is a row of the old one, or the rewritten row. -/
theorem mem_modify {tbl : List α} {s : α} (hs : s ∈ modify key k f tbl) :
    s ∈ tbl ∨ ∃ r ∈ tbl, key r = k ∧ s = f r := by
  induction tbl with
  | nil => exact absurd hs List.not_mem_nil
  | cons r rs ih =>
    rw [modify_cons] at hs
    split at hs
    · rename_i hr
      rcases List.mem_cons.mp hs with rfl | hs
      · exact .inr ⟨r, List.mem_cons_self, hr, rfl⟩
      · exact .inl (List.mem_cons_of_mem _ hs)
    · rcases List.mem_cons.mp hs with rfl | hs
      · exact .inl List.mem_cons_self
      · rcases ih hs with h | ⟨r', hr', hk, rfl⟩
        · exact .inl (List.mem_cons_of_mem _ h)
        · exact .inr ⟨r', List.mem_cons_of_mem _ hr', hk, rfl⟩

/-- What the rewrite neither makes nor breaks holds of all rows after it when it did before. -/
theorem forall_mem_modify_iff {P : α → Prop} (hf : ∀ r, P (f r) ↔ P r) (tbl : List α) :
    (∀ s ∈ modify key k f tbl, P s) ↔ ∀ r ∈ tbl, P r := by
  induction tbl with
  | nil => rfl
  | cons r rs ih =>
    rw [modify_cons]
    split_ifs
    · rw [List.forall_mem_cons, List.forall_mem_cons, hf]
    · rw [List.forall_mem_cons, List.forall_mem_cons, ih]

/-- Rewriting a row adds to a sum over the table what it adds to that row. -/
theorem sum_map_modify [AddCommMonoid M] {g : α → M} {d : M} {tbl : List α} {r : α}
    (hr : lookup key k tbl = some r) (hg : g (f r) = g r + d) :
    ((modify key k f tbl).map g).sum = (tbl.map g).sum + d := by
  induction tbl with
  | nil => simp at hr
  | cons a as ih =>
    rw [lookup_cons] at hr
    rw [modify_cons]
    split at hr
    · rename_i ha
      obtain rfl := Option.some.inj hr
      rw [if_pos ha, List.map_cons, List.map_cons, List.sum_cons, List.sum_cons, hg]
      abel
    · rename_i ha
      rw [if_neg ha, List.map_cons, List.map_cons, List.sum_cons, List.sum_cons, ih hr]
      abel

end Modify

/-- What the rows of a table have under some keys is what the rows with one of these keys have. -/
theorem Distinct.sum_lookup [AddCommMonoid M] {tbl : List α} (h : Distinct key tbl)
    (v : α → M) {p : κ → Bool}
    {S : Finset κ} (hS : ∀ k ∈ S, p k = true) (hcover : ∀ r ∈ tbl, p (key r) = true → key r ∈ S) :
    ∑ k ∈ S, ((lookup key k tbl).map v).getD 0 =
      (tbl.map fun r => if p (key r) then v r else 0).sum := by
  induction tbl with
  | nil => simp
  | cons r rs ih =>
    obtain ⟨hfresh, hdistinct⟩ := List.nodup_cons.mp h
    obtain ⟨hr, hrs⟩ := List.forall_mem_cons.mp hcover
    have hnone : lookup key (key r) rs = none :=
      not_not.mp fun hne => hfresh (mem_map_key_iff.mpr hne)
    have hcons : ∀ k, ((lookup key k (r :: rs)).map v).getD 0 =
        (if key r = k then v r else 0) + ((lookup key k rs).map v).getD 0 := by
      intro k
      by_cases hk : key r = k
      · subst hk
        simp [hnone]
      · simp [hk]
    simp only [hcons, Finset.sum_add_distrib, Finset.sum_ite_eq,
      List.map_cons, List.sum_cons, ih hdistinct hrs]
    by_cases hp : p (key r) = true
    · rw [if_pos hp, if_pos (hr hp)]
    · rw [if_neg hp, if_neg fun hmem => hp (hS _ hmem)]

end Keyed
