import Lanspeed.Lib.Keyed
import Mathlib.Data.List.Induction

/-!
# Bounded group-by

A table of at most `limit` rows that is built from a list of items. An item without a key is
skipped; an item with a key is added to the row under its key, or to a fresh row, unless the table
is full then. The keys of the table are the first `limit` distinct keys of the items (`admitted`),
and the row under each of them is made from all items with the key (`lookup_groupBy`).
-/

namespace GroupBy

variable {α κ β : Type*} [DecidableEq κ]

/-- How items become rows: the key of an item, the row that a new key starts with, and what an item
adds to the row under its key. -/
structure Grouping (α κ β : Type*) where
  key : α → κ
  keyOf : β → Option κ
  fresh : β → α
  add : β → α → α

variable (g : Grouping α κ β) (limit : ℕ)

/-- Add one item to the table. -/
def step (tbl : List α) (item : β) : List α :=
  match g.keyOf item with
  | none => tbl
  | some k =>
    match Keyed.lookup g.key k tbl with
    | some _ => Keyed.modify g.key k (g.add item) tbl
    | none => if limit ≤ tbl.length then tbl else tbl ++ [g.add item (g.fresh item)]

/-- The table that a list of items makes, from the empty table. -/
def groupBy (items : List β) : List α := items.foldl (step g limit) []

/-- Add one key to a list of at most `limit` distinct keys. -/
def admitKey (ks : List κ) (k : κ) : List κ :=
  if k ∈ ks ∨ limit ≤ ks.length then ks else ks ++ [k]

/-- The first `limit` distinct keys of a list. -/
def admitted (ks : List κ) : List κ := ks.foldl (admitKey limit) []

/-- What an item does to the row under `k`: nothing, unless it has the key. -/
def absorb (k : κ) (row : Option α) (item : β) : Option α :=
  if g.keyOf item = some k then some (g.add item (row.getD (g.fresh item))) else row

/-- The row that the items with the key `k` make. -/
def collected (k : κ) (items : List β) : Option α := items.foldl (absorb g k) none

/-- The rows of a grouping carry the keys that they are put under. -/
structure Lawful : Prop where
  key_fresh : ∀ item k, g.keyOf item = some k → g.key (g.fresh item) = k
  key_add : ∀ item row, g.key (g.add item row) = g.key row

/-- What one item does to the table. -/
theorem step_cases (tbl : List α) (item : β) :
    (step g limit tbl item = tbl ∧ g.keyOf item = none) ∨
      (∃ k row, g.keyOf item = some k ∧ Keyed.lookup g.key k tbl = some row ∧
        step g limit tbl item = Keyed.modify g.key k (g.add item) tbl) ∨
      (∃ k, g.keyOf item = some k ∧ Keyed.lookup g.key k tbl = none ∧
        (limit ≤ tbl.length ∧ step g limit tbl item = tbl ∨
          tbl.length < limit ∧ step g limit tbl item = tbl ++ [g.add item (g.fresh item)])) := by
  rw [step]
  cases hkey : g.keyOf item with
  | none => exact .inl ⟨rfl, rfl⟩
  | some k =>
    dsimp only
    cases hfound : Keyed.lookup g.key k tbl with
    | some row => exact .inr (.inl ⟨k, row, rfl, hfound, rfl⟩)
    | none =>
      refine .inr (.inr ⟨k, rfl, hfound, ?_⟩)
      by_cases hfull : limit ≤ tbl.length
      · exact .inl ⟨hfull, if_pos hfull⟩
      · exact .inr ⟨by omega, if_neg hfull⟩

variable {g} {limit}

/-- One item changes the keys of the table as one key changes a list of keys. -/
theorem map_key_step (hg : Lawful g) (tbl : List α) (item : β) :
    (step g limit tbl item).map g.key
      = (g.keyOf item).toList.foldl (admitKey limit) (tbl.map g.key) := by
  rcases step_cases g limit tbl item with ⟨hstep, hkey⟩ |
    ⟨k, row, hkey, hfound, hstep⟩ | ⟨k, hkey, hnone, ⟨hfull, hstep⟩ | ⟨hroom, hstep⟩⟩
  · rw [hstep, hkey]
    rfl
  · have hmem : k ∈ tbl.map g.key :=
      Keyed.mem_map_key_iff.mpr (by rw [hfound]; exact Option.some_ne_none row)
    rw [hstep, hkey, Keyed.map_key_modify (hg.key_add item)]
    exact (if_pos (.inl hmem)).symm
  · rw [hstep, hkey]
    refine (if_pos (.inr ?_)).symm
    rwa [List.length_map]
  · have hfresh : k ∉ tbl.map g.key := fun hmem => Keyed.mem_map_key_iff.mp hmem hnone
    rw [hstep, hkey, List.map_append, List.map_singleton, hg.key_add, hg.key_fresh item k hkey]
    refine (if_neg ?_).symm
    rw [List.length_map]
    exact fun h => h.elim hfresh fun hfull => absurd hroom (Nat.not_lt.mpr hfull)

/-- The keys of the table are the first `limit` distinct keys of the items. -/
theorem map_key_foldl (hg : Lawful g) (tbl : List α) (items : List β) :
    (items.foldl (step g limit) tbl).map g.key
      = (items.filterMap g.keyOf).foldl (admitKey limit) (tbl.map g.key) := by
  induction items generalizing tbl with
  | nil => rfl
  | cons item items ih =>
    rw [List.foldl_cons, ih, map_key_step hg]
    cases hkey : g.keyOf item with
    | none =>
      rw [List.filterMap_cons_none hkey]
      rfl
    | some k =>
      rw [List.filterMap_cons_some hkey]
      rfl

/-- The keys of the groups are the keys of the items that were admitted, in their order. -/
theorem map_key_groupBy (hg : Lawful g) (items : List β) :
    (groupBy g limit items).map g.key = admitted limit (items.filterMap g.keyOf) :=
  map_key_foldl hg [] items

/-- Adding a key keeps the keys distinct and within the limit. -/
theorem admitKey_nodup {ks : List κ} (h : ks.Nodup) (k : κ) : (admitKey limit ks k).Nodup := by
  rw [admitKey]
  split_ifs with hk
  · exact h
  · rw [not_or] at hk
    exact List.nodup_append.mpr ⟨h, List.nodup_singleton k, fun a ha b hb hab =>
      hk.1 (List.mem_singleton.mp hb ▸ hab ▸ ha)⟩

/-- Admitting a key keeps the keys within the limit. -/
theorem length_admitKey_le {ks : List κ} (h : ks.length ≤ limit) (k : κ) :
    (admitKey limit ks k).length ≤ limit := by
  rw [admitKey]
  split_ifs with hk
  · exact h
  · rw [not_or] at hk
    rw [List.length_append, List.length_singleton]
    omega

/-- No key is admitted twice. -/
theorem admitted_nodup (ks : List κ) : (admitted limit ks).Nodup := by
  have h : ∀ acc : List κ, acc.Nodup → (ks.foldl (admitKey limit) acc).Nodup := by
    induction ks with
    | nil => exact fun acc h => h
    | cons k ks ih => exact fun acc h => ih _ (admitKey_nodup h k)
  exact h [] List.nodup_nil

/-- No more keys are admitted than the limit. -/
theorem length_admitted_le (ks : List κ) : (admitted limit ks).length ≤ limit := by
  have h : ∀ acc : List κ, acc.length ≤ limit → (ks.foldl (admitKey limit) acc).length ≤ limit := by
    induction ks with
    | nil => exact fun acc h => h
    | cons k ks ih => exact fun acc h => ih _ (length_admitKey_le h k)
  exact h [] (Nat.zero_le _)

/-- Keys that are added to a list of keys are appended to it, each once, as far as there is room. -/
theorem foldl_admitKey [BEq κ] [LawfulBEq κ] {acc : List κ}
    (hacc : acc.length ≤ limit) (ks : List κ) :
    ks.foldl (admitKey limit) acc = (acc ++ (ks.filter fun k => k ∉ acc).eraseDups).take limit := by
  induction ks generalizing acc with
  | nil => simp [List.take_of_length_le hacc]
  | cons k ks ih =>
    rw [List.foldl_cons, admitKey]
    by_cases hmem : k ∈ acc
    · rw [if_pos (.inl hmem), ih hacc, List.filter_cons_of_neg (by simpa using hmem)]
    · rw [List.filter_cons_of_pos (by simpa using hmem)]
      by_cases hfull : limit ≤ acc.length
      · rw [if_pos (.inr hfull), ih hacc, List.take_append_of_le_length hfull,
          List.take_append_of_le_length hfull]
      · have hroom : (acc ++ [k]).length ≤ limit := by
          rw [List.length_append, List.length_singleton]
          omega
        have hfilter : (ks.filter fun k' => k' ∉ acc ++ [k]) =
            (ks.filter fun k' => k' ∉ acc).filter fun k' => !k' == k := by
          rw [List.filter_filter]
          apply List.filter_congr
          intro k' _
          rw [Bool.eq_iff_iff]
          simp [and_comm]
        rw [if_neg fun h => h.elim hmem hfull, ih hroom, hfilter, List.eraseDups_cons,
          List.append_assoc, List.singleton_append]

/-- The first `limit` distinct keys of a list are those of the list without its repetitions. -/
theorem admitted_eq_take [BEq κ] [LawfulBEq κ] (ks : List κ) :
    admitted limit ks = ks.eraseDups.take limit := by
  rw [admitted, foldl_admitKey (Nat.zero_le _), List.nil_append]
  simp

/-- The rows of the table are under distinct keys. -/
theorem distinct_groupBy (hg : Lawful g) (items : List β) :
    Keyed.Distinct g.key (groupBy g limit items) := by
  rw [Keyed.Distinct, map_key_groupBy hg]
  exact admitted_nodup _

/-- There are no more groups than the limit. -/
theorem length_groupBy_le (hg : Lawful g) (items : List β) :
    (groupBy g limit items).length ≤ limit := by
  rw [← List.length_map g.key, map_key_groupBy hg]
  exact length_admitted_le _

/-- What fresh rows with an item added satisfy, and what adding an item under its key preserves,
holds of all rows. -/
theorem forall_mem_groupBy {P : α → Prop} {items : List β}
    (hfresh : ∀ item ∈ items, ∀ k, g.keyOf item = some k → P (g.add item (g.fresh item)))
    (hadd : ∀ item ∈ items, ∀ k row, g.keyOf item = some k → g.key row = k → P row →
      P (g.add item row)) :
    ∀ row ∈ groupBy g limit items, P row := by
  have hstep : ∀ item ∈ items, ∀ tbl, (∀ row ∈ tbl, P row) →
      ∀ row ∈ step g limit tbl item, P row := by
    intro item hitem tbl htbl
    rcases step_cases g limit tbl item with ⟨hstep, -⟩ |
      ⟨k, row, hkey, -, hstep⟩ | ⟨k, hkey, -, ⟨-, hstep⟩ | ⟨-, hstep⟩⟩
    · rw [hstep]
      exact htbl
    · intro row' hrow'
      rw [hstep] at hrow'
      rcases Keyed.mem_modify hrow' with hold | ⟨old, hold, hk, rfl⟩
      · exact htbl row' hold
      · exact hadd item hitem k old hkey hk (htbl old hold)
    · rw [hstep]
      exact htbl
    · rw [hstep]
      exact List.forall_mem_append.mpr
        ⟨htbl, List.forall_mem_singleton.mpr (hfresh item hitem k hkey)⟩
  exact List.foldlRecOn items (step g limit) (fun row hrow => absurd hrow List.not_mem_nil)
    fun tbl htbl item hitem => hstep item hitem tbl htbl

/-! ## The row under a key -/

/-- A key that is not in a full table stays out of it. -/
theorem lookup_foldl_of_full (hg : Lawful g) {tbl : List α} {k : κ}
    (hnone : Keyed.lookup g.key k tbl = none) (hfull : limit ≤ tbl.length) (items : List β) :
    Keyed.lookup g.key k (items.foldl (step g limit) tbl) = none := by
  induction items generalizing tbl with
  | nil => exact hnone
  | cons item items ih =>
    rw [List.foldl_cons]
    have hsame : (step g limit tbl item).map g.key = tbl.map g.key := by
      rw [map_key_step hg]
      cases g.keyOf item with
      | none => rfl
      | some k => exact if_pos (.inr (by rwa [List.length_map]))
    refine ih ?_ ?_
    · by_contra hsome
      exact Keyed.mem_map_key_iff.mp (hsame ▸ Keyed.mem_map_key_iff.mpr hsome) hnone
    · rw [← List.length_map g.key, hsame, List.length_map]
      exact hfull

/-- An item does to the row under each key of the table what it does to the row alone. -/
theorem lookup_step (hg : Lawful g) {tbl : List α} {item : β} {k : κ}
    (hroom : g.keyOf item = some k → Keyed.lookup g.key k tbl = none → tbl.length < limit) :
    Keyed.lookup g.key k (step g limit tbl item)
      = absorb g k (Keyed.lookup g.key k tbl) item := by
  rw [absorb]
  rcases step_cases g limit tbl item with ⟨hstep, hkey⟩ |
    ⟨k', row, hkey, hfound, hstep⟩ | ⟨k', hkey, hnone, ⟨hfull, hstep⟩ | ⟨-, hstep⟩⟩
  · rw [hstep, hkey, if_neg (by simp)]
  · rw [hstep, hkey, Keyed.lookup_modify (hg.key_add item)]
    by_cases hk : k' = k
    · subst hk
      simp [hfound]
    · simp [hk]
  · rw [hstep, hkey]
    by_cases hk : k' = k
    · subst hk
      exact absurd (hroom hkey hnone) (Nat.not_lt.mpr hfull)
    · simp [hk]
  · have hnew : g.key (g.add item (g.fresh item)) = k' :=
      (hg.key_add item _).trans (hg.key_fresh item k' hkey)
    have hfresh : Keyed.lookup g.key (g.key (g.add item (g.fresh item))) tbl = none := by
      rw [hnew]
      exact hnone
    rw [hstep, hkey, Keyed.lookup_append_fresh hfresh, hnew]
    by_cases hk : k' = k
    · subst hk
      simp [hnone]
    · simp [hk]

/-- The row under a key that ends up in the table is made from all items with the key. -/
theorem lookup_foldl (hg : Lawful g) {tbl : List α} {k : κ} (items : List β)
    (hin : Keyed.lookup g.key k (items.foldl (step g limit) tbl) ≠ none) :
    Keyed.lookup g.key k (items.foldl (step g limit) tbl)
      = items.foldl (absorb g k) (Keyed.lookup g.key k tbl) := by
  induction items generalizing tbl with
  | nil => rfl
  | cons item items ih =>
    rw [List.foldl_cons] at hin ⊢
    rw [ih hin, List.foldl_cons, lookup_step hg]
    intro hkey hnone
    by_contra hfull
    -- A full table would have kept the key out for good.
    have hskip : step g limit tbl item = tbl := by
      rw [step, hkey]
      dsimp only
      rw [hnone]
      exact if_pos (Nat.not_lt.mp hfull)
    rw [hskip] at hin
    exact hin (lookup_foldl_of_full hg hnone (Nat.not_lt.mp hfull) items)

/-- The table has the row that the items with a key make under each of its keys, and no
other row. -/
theorem lookup_groupBy (hg : Lawful g) (k : κ) (items : List β) :
    Keyed.lookup g.key k (groupBy g limit items)
      = if k ∈ admitted limit (items.filterMap g.keyOf) then collected g k items else none := by
  rw [← map_key_groupBy hg]
  split_ifs with hin
  · exact lookup_foldl hg items (Keyed.mem_map_key_iff.mp hin)
  · by_contra hsome
    exact hin (Keyed.mem_map_key_iff.mpr hsome)

/-- What every fresh row has, and what each item makes of it, is in a row of the table what the
items with the key of the row make of it in turn. -/
theorem fold_of_mem_groupBy {M : Type*} (hg : Lawful g) {μ : α → M} {zero : M} {add : M → β → M}
    (hfresh : ∀ item, μ (g.fresh item) = zero)
    (hadd : ∀ item row, μ (g.add item row) = add (μ row) item)
    {items : List β} {row : α} (hrow : row ∈ groupBy g limit items) :
    μ row = (items.filter fun item => g.keyOf item = some (g.key row)).foldl add zero := by
  have hfold : ∀ (k : κ) (o : Option α), ((items.foldl (absorb g k) o).map μ).getD zero
      = (items.filter fun item => g.keyOf item = some k).foldl add ((o.map μ).getD zero) := by
    intro k
    clear hrow
    induction items with
    | nil => exact fun o => rfl
    | cons item items ih =>
      intro o
      rw [List.foldl_cons, ih, absorb]
      by_cases hk : g.keyOf item = some k
      · rw [if_pos hk, List.filter_cons_of_pos (by simpa using hk), List.foldl_cons]
        cases o <;> simp [hadd, hfresh]
      · rw [if_neg hk, List.filter_cons_of_neg (by simpa using hk)]
  have hlookup := (distinct_groupBy hg items).lookup_of_mem hrow
  rw [lookup_groupBy hg] at hlookup
  split_ifs at hlookup
  have hcollected := hfold (g.key row) none
  rw [show items.foldl (absorb g (g.key row)) none = some row from hlookup] at hcollected
  exact hcollected

/-- A number that is zero in a fresh row and to which each item adds its own is, in a row of the
table, the sum over all items with the key of the row. -/
theorem measure_of_mem_groupBy {M : Type*} [AddCommMonoid M] (hg : Lawful g) {μ : α → M} {d : β → M}
    (hfresh : ∀ item, μ (g.fresh item) = 0) (hadd : ∀ item row, μ (g.add item row) = μ row + d item)
    {items : List β} {row : α} (hrow : row ∈ groupBy g limit items) :
    μ row = ((items.filter fun item => g.keyOf item = some (g.key row)).map d).sum := by
  have hfold : μ row = (items.filter fun item => g.keyOf item = some (g.key row)).foldl
      (fun total item => total + d item) 0 := fold_of_mem_groupBy hg hfresh hadd hrow
  rw [hfold, List.sum_eq_foldl, List.foldl_map]

/-! ## The items that start rows -/

/-- An item starts a row: no item before it has its key, and there is room for one more key. -/
def Founds (g : Grouping α κ β) (limit : ℕ) (items : List β) (item : β) : Prop :=
  ∃ pre post k, items = pre ++ item :: post ∧ g.keyOf item = some k ∧ k ∉ pre.filterMap g.keyOf ∧
    (admitted limit (pre.filterMap g.keyOf)).length < limit

/-- Only keys that were asked for are admitted. -/
theorem mem_of_mem_admitted {ks : List κ} {k : κ} (h : k ∈ admitted limit ks) : k ∈ ks := by
  induction ks using List.reverseRecOn with
  | nil => exact absurd h List.not_mem_nil
  | append_singleton ks k' ih =>
    rw [admitted, List.foldl_concat, ← admitted, admitKey] at h
    split_ifs at h with hk'
    · exact List.mem_append_left _ (ih h)
    · rcases List.mem_append.mp h with h | h
      · exact List.mem_append_left _ (ih h)
      · exact List.mem_append_right _ h

/-- While there is room, every key is admitted. -/
theorem mem_admitted_of_lt {ks : List κ} (hroom : (admitted limit ks).length < limit) {k : κ}
    (hk : k ∈ ks) : k ∈ admitted limit ks := by
  induction ks using List.reverseRecOn with
  | nil => exact absurd hk List.not_mem_nil
  | append_singleton ks k' ih =>
    rw [admitted, List.foldl_concat, ← admitted, admitKey] at hroom ⊢
    split_ifs at hroom ⊢ with hk'
    · rcases List.mem_append.mp hk with hk | hk
      · exact ih hroom hk
      · rw [List.mem_singleton.mp hk]
        exact hk'.resolve_right (Nat.not_le.mpr hroom)
    · rw [List.length_append, List.length_singleton] at hroom
      rcases List.mem_append.mp hk with hk | hk
      · exact List.mem_append_left _ (ih (by omega) hk)
      · exact List.mem_append_right _ hk

/-- One more key does not change which of the keys before it are admitted. -/
theorem mem_admitted_concat_iff {ks : List κ} {k : κ} (hk : k ∈ ks) (last : κ) :
    k ∈ admitted limit (ks ++ [last]) ↔ k ∈ admitted limit ks := by
  rw [admitted, List.foldl_concat, ← admitted, admitKey]
  split_ifs with hlast
  · exact Iff.rfl
  · rw [not_or, Nat.not_le] at hlast
    exact iff_of_true (List.mem_append_left _ (mem_admitted_of_lt hlast.2 hk))
      (mem_admitted_of_lt hlast.2 hk)

/-- The last key is admitted when it is there already or there is room. -/
theorem last_mem_admitted_iff {ks : List κ} {last : κ} :
    last ∈ admitted limit (ks ++ [last]) ↔
      last ∈ admitted limit ks ∨ (admitted limit ks).length < limit := by
  rw [admitted, List.foldl_concat, ← admitted, admitKey]
  split_ifs with hlast
  · exact ⟨Or.inl, fun h => h.elim (fun hmem => hmem) fun hroom =>
      hlast.resolve_right (Nat.not_le.mpr hroom)⟩
  · rw [not_or, Nat.not_le] at hlast
    exact iff_of_true (List.mem_append_right _ (List.mem_singleton_self _)) (.inr hlast.2)

/-- What adding items neither makes nor breaks holds of all rows exactly when it holds of the rows
that are started. -/
theorem forall_mem_groupBy_iff (hg : Lawful g) {P : α → Prop}
    (hadd : ∀ item row, P (g.add item row) ↔ P row) (items : List β) :
    (∀ row ∈ groupBy g limit items, P row) ↔
      ∀ item, Founds g limit items item → P (g.fresh item) := by
  induction items using List.reverseRecOn with
  | nil =>
    refine iff_of_true (fun row hrow => absurd hrow List.not_mem_nil) ?_
    rintro item ⟨pre, post, k, hitems, -⟩
    simp at hitems
  | append_singleton items last ih =>
    -- The items that start rows are those before, and perhaps the last one.
    have hfounds : ∀ item, Founds g limit (items ++ [last]) item ↔ Founds g limit items item ∨
        item = last ∧ ∃ k, g.keyOf last = some k ∧ k ∉ items.filterMap g.keyOf ∧
          (admitted limit (items.filterMap g.keyOf)).length < limit := by
      intro item
      constructor
      · rintro ⟨pre, post, k, hitems, hkey, hfresh, hroom⟩
        rcases List.eq_nil_or_concat post with rfl | ⟨post, last', rfl⟩
        · obtain ⟨rfl, hlast⟩ := List.append_inj' hitems rfl
          obtain rfl := (List.cons.inj hlast).1
          exact .inr ⟨rfl, k, hkey, hfresh, hroom⟩
        · rw [List.concat_eq_append, ← List.cons_append, ← List.append_assoc] at hitems
          obtain ⟨rfl, -⟩ := List.append_inj' hitems rfl
          exact .inl ⟨pre, post, k, rfl, hkey, hfresh, hroom⟩
      · rintro (⟨pre, post, k, rfl, hkey, hfresh, hroom⟩ | ⟨rfl, k, hkey, hfresh, hroom⟩)
        · exact ⟨pre, post ++ [last], k, by simp, hkey, hfresh, hroom⟩
        · exact ⟨items, [], k, rfl, hkey, hfresh, hroom⟩
    have hlen :
        (groupBy g limit items).length = (admitted limit (items.filterMap g.keyOf)).length := by
      rw [← map_key_groupBy hg, List.length_map]
    -- A key that is out of the table is new while there is room.
    have hnew : ∀ k, (groupBy g limit items).length < limit →
        (Keyed.lookup g.key k (groupBy g limit items) = none ↔ k ∉ items.filterMap g.keyOf) := by
      intro k hroom
      rw [← not_iff_not, not_not, ← Ne, ← Keyed.mem_map_key_iff, map_key_groupBy hg]
      exact ⟨mem_of_mem_admitted, mem_admitted_of_lt (hlen ▸ hroom)⟩
    have hstep : groupBy g limit (items ++ [last]) = step g limit (groupBy g limit items) last :=
      List.foldl_concat ..
    simp only [hfounds, or_imp, forall_and, ← ih, hstep]
    rcases step_cases g limit (groupBy g limit items) last with ⟨hsame, hkey⟩ |
      ⟨k, row, hkey, hfound, hmodify⟩ | ⟨k, hkey, hnone, ⟨hfull, hsame⟩ | ⟨hroom, happend⟩⟩
    · rw [hsame]
      refine (and_iff_left ?_).symm
      rintro _ ⟨rfl, k, hkey', -⟩
      exact absurd (hkey.symm.trans hkey') (by simp)
    · rw [hmodify, Keyed.forall_mem_modify_iff (hadd last)]
      refine (and_iff_left ?_).symm
      rintro _ ⟨rfl, k', hkey', hfresh, hroom⟩
      obtain rfl := Option.some.inj (hkey.symm.trans hkey')
      have := (hnew k (hlen ▸ hroom)).mpr hfresh
      rw [hfound] at this
      exact absurd this (by simp)
    · rw [hsame]
      refine (and_iff_left ?_).symm
      rintro _ ⟨rfl, k', -, -, hroom⟩
      omega
    · rw [happend, List.forall_mem_append, List.forall_mem_singleton, hadd]
      refine and_congr_right fun _ => ⟨?_, fun h => ?_⟩
      · rintro hP _ ⟨rfl, -⟩
        exact hP
      · exact h last ⟨rfl, k, hkey, (hnew k hroom).mp hnone, hlen ▸ hroom⟩

end GroupBy
