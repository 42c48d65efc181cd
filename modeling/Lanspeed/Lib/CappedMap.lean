import Lanspeed.Lib.Keyed
import Mathlib.Data.Finset.Card

/-!
# Capped maps

A table of rows under keys that takes no row once it has `limit` keys. With `putFirst` the first row
of a key stays, and rows with at most `limit` keys all find their place (`lookup_putFirst`). With
`putLast` the last row of a key stays, but only among those that are put in while the table has room
(`early`): a full table drops rows of its own keys too (`lookup_putLast`).
-/

namespace CappedMap

variable {α κ : Type*} [DecidableEq κ] (key : α → κ) (limit : ℕ)

/-- Put a row in, unless there is one under its key or the table is full. -/
def putFirst (tbl : List α) (row : α) : List α :=
  if limit ≤ tbl.length then tbl
  else
    match Keyed.lookup key (key row) tbl with
    | some _ => tbl
    | none => tbl ++ [row]

/-- Put a row in, or write it over the one under its key, unless the table is full. -/
def putLast (write : α → α → α) (tbl : List α) (row : α) : List α :=
  if limit ≤ tbl.length then tbl
  else
    match Keyed.lookup key (key row) tbl with
    | some _ => Keyed.modify key (key row) (write row) tbl
    | none => tbl ++ [row]

/-- The keys of rows. -/
def keys (rows : List α) : Finset κ := (rows.map key).toFinset

/-- The rows that come before the table is full: those before which there are fewer than `limit`
keys. -/
def early (rows : List α) : List α :=
  rows.foldl (fun read row => if limit ≤ (keys key read).card then read else read ++ [row]) []

/-- The last row under a key. -/
def lastRow (k : κ) (rows : List α) : Option α := (rows.filter fun row => key row = k).getLast?

variable {key} {limit}

/-! ## Keys -/

/-- One more row adds its key. -/
theorem keys_concat (rows : List α) (row : α) :
    keys key (rows ++ [row]) = insert (key row) (keys key rows) := by
  ext k
  simp only [keys, List.map_append, List.map_singleton, List.toFinset_append,
    Finset.mem_union, List.mem_toFinset, List.mem_singleton, Finset.mem_insert]
  exact or_comm

theorem mem_keys_iff {rows : List α} {k : κ} :
    k ∈ keys key rows ↔ Keyed.lookup key k rows ≠ none := by
  rw [keys, List.mem_toFinset, Keyed.mem_map_key_iff]

/-- A table has as many keys as rows. -/
theorem card_keys {tbl : List α} (h : Keyed.Distinct key tbl) :
    (keys key tbl).card = tbl.length := by
  rw [keys, List.toFinset_card_of_nodup h, List.length_map]

theorem card_keys_le (rows : List α) : (keys key rows).card ≤ rows.length :=
  (List.toFinset_card_le _).trans_eq (List.length_map key)

/-- One more row leaves no fewer keys. -/
theorem card_keys_le_concat (rows : List α) (row : α) :
    (keys key rows).card ≤ (keys key (rows ++ [row])).card := by
  rw [keys_concat]
  exact Finset.card_le_card (Finset.subset_insert _ _)

/-- Where the keys of the rows already fill the table, one more row has one of them. -/
theorem mem_keys_of_full {rows : List α} {row : α} (hroom : (keys key (rows ++ [row])).card ≤ limit)
    (hfull : limit ≤ (keys key rows).card) : key row ∈ keys key rows := by
  rw [keys_concat] at hroom
  have heq := Finset.eq_of_subset_of_card_le (Finset.subset_insert (key row) (keys key rows))
    (hroom.trans hfull)
  rw [heq]
  exact Finset.mem_insert_self _ _

/-! ## The first row stays -/

/-- A row whose key was there before changes nothing that is found. -/
theorem lookup_concat_of_mem {rows : List α} {row : α} (h : key row ∈ keys key rows) (k : κ) :
    Keyed.lookup key k (rows ++ [row]) = Keyed.lookup key k rows := by
  rw [Keyed.lookup_append]
  cases hfound : Keyed.lookup key k rows with
  | some r => rfl
  | none =>
    have hne : key row ≠ k := by
      rintro rfl
      exact mem_keys_iff.mp h hfound
    rw [Option.none_or, Keyed.lookup_cons, if_neg hne, Keyed.lookup_nil]

/-- A table of the first rows has their keys, and each of them under its key. -/
theorem putFirst_spec {rows : List α} (hroom : (keys key rows).card ≤ limit) :
    Keyed.Distinct key (rows.foldl (putFirst key limit) []) ∧
      keys key (rows.foldl (putFirst key limit) []) = keys key rows ∧
      ∀ k, Keyed.lookup key k (rows.foldl (putFirst key limit) []) = Keyed.lookup key k rows := by
  induction rows using List.reverseRecOn with
  | nil => exact ⟨List.nodup_nil, rfl, fun _ => rfl⟩
  | append_singleton rows row ih =>
    obtain ⟨hdistinct, hkeys, hlookup⟩ := ih ((card_keys_le_concat rows row).trans hroom)
    rw [List.foldl_concat]
    obtain ⟨tbl, htbl⟩ : ∃ tbl, tbl = rows.foldl (putFirst key limit) [] := ⟨_, rfl⟩
    rw [← htbl] at hdistinct hkeys hlookup ⊢
    have hkept : key row ∈ keys key rows → Keyed.Distinct key tbl ∧
        keys key tbl = keys key (rows ++ [row]) ∧
        ∀ k, Keyed.lookup key k tbl = Keyed.lookup key k (rows ++ [row]) := fun hmem =>
      ⟨hdistinct, by rw [keys_concat, Finset.insert_eq_of_mem hmem, hkeys],
        fun k => by rw [lookup_concat_of_mem hmem, hlookup]⟩
    unfold putFirst
    split_ifs with hfull
    · rw [← card_keys hdistinct, hkeys] at hfull
      exact hkept (mem_keys_of_full hroom hfull)
    · cases hfound : Keyed.lookup key (key row) tbl with
      | some r =>
        exact hkept (hkeys ▸ mem_keys_iff.mpr (by rw [hfound]; exact Option.some_ne_none r))
      | none =>
        refine ⟨hdistinct.append_fresh hfound, by rw [keys_concat, keys_concat, hkeys], fun k => ?_⟩
        rw [Keyed.lookup_append, Keyed.lookup_append, hlookup]

/-- While the keys are within the limit, the table has the first row of each. -/
theorem lookup_putFirst {rows : List α} (hroom : (keys key rows).card ≤ limit) (k : κ) :
    Keyed.lookup key k (rows.foldl (putFirst key limit) []) = Keyed.lookup key k rows :=
  (putFirst_spec hroom).2.2 k

/-! ## The last row stays -/

/-- One more row is the last one of its key. -/
theorem lastRow_concat (k : κ) (rows : List α) (row : α) :
    lastRow key k (rows ++ [row]) = if key row = k then some row else lastRow key k rows := by
  unfold lastRow
  rw [List.filter_append]
  by_cases hk : key row = k
  · rw [List.filter_cons_of_pos (by simpa using hk), if_pos hk,
      List.filter_nil, List.getLast?_concat]
  · rw [List.filter_cons_of_neg (by simpa using hk), if_neg hk, List.filter_nil, List.append_nil]

/-- The early rows go on until the keys reach the limit. -/
theorem early_concat (rows : List α) (row : α) :
    early key limit (rows ++ [row]) =
      if limit ≤ (keys key (early key limit rows)).card then early key limit rows
      else early key limit rows ++ [row] := by
  rw [early, List.foldl_concat]
  rfl

/-- A table of the last rows has the keys of the early rows, and the last early one under
each key. -/
theorem putLast_spec {write : α → α → α} (hkey : ∀ row r, key (write row r) = key r)
    (hwrite : ∀ row r, key r = key row → write row r = row) (rows : List α) :
    Keyed.Distinct key (rows.foldl (putLast key limit write) []) ∧
      keys key (rows.foldl (putLast key limit write) []) = keys key (early key limit rows) ∧
      ∀ k, Keyed.lookup key k (rows.foldl (putLast key limit write) []) = lastRow key k
        (early key limit rows) := by
  induction rows using List.reverseRecOn with
  | nil => exact ⟨List.nodup_nil, rfl, fun _ => rfl⟩
  | append_singleton rows row ih =>
    obtain ⟨hdistinct, hkeys, hlookup⟩ := ih
    rw [List.foldl_concat, early_concat]
    obtain ⟨tbl, htbl⟩ : ∃ tbl, tbl = rows.foldl (putLast key limit write) [] := ⟨_, rfl⟩
    rw [← htbl] at hdistinct hkeys hlookup ⊢
    rw [← hkeys, card_keys hdistinct]
    unfold putLast
    split_ifs with hfull
    · exact ⟨hdistinct, hkeys, hlookup⟩
    · rw [keys_concat, ← hkeys]
      simp only [lastRow_concat, ← hlookup]
      cases hfound : Keyed.lookup key (key row) tbl with
      | some r =>
        have hr : key r = key row := Keyed.key_of_lookup hfound
        have hmem : key row ∈ keys key tbl :=
          mem_keys_iff.mpr (by rw [hfound]; exact Option.some_ne_none r)
        refine ⟨hdistinct.modify (hkey row), ?_, fun k => ?_⟩
        · rw [keys, Keyed.map_key_modify (hkey row), Finset.insert_eq_of_mem hmem, keys]
        · rw [Keyed.lookup_modify (hkey row), hfound, Option.map_some, hwrite row r hr]
      | none =>
        refine ⟨hdistinct.append_fresh hfound, keys_concat tbl row, fun k => ?_⟩
        rw [Keyed.lookup_append_fresh hfound]

/-- A table whose rows are overwritten has the last early row of each key. -/
theorem lookup_putLast {write : α → α → α} (hkey : ∀ row r, key (write row r) = key r)
    (hwrite : ∀ row r, key r = key row → write row r = row) (rows : List α) (k : κ) :
    Keyed.lookup key k (rows.foldl (putLast key limit write) []) = lastRow key k
      (early key limit rows) :=
  (putLast_spec hkey hwrite rows).2.2 k

/-! ## Early rows -/

/-- The early rows have keys of the rows. -/
theorem keys_early_subset (rows : List α) : keys key (early key limit rows) ⊆ keys key rows := by
  induction rows using List.reverseRecOn with
  | nil => exact Finset.Subset.refl _
  | append_singleton rows row ih =>
    rw [early_concat, keys_concat]
    split_ifs with hfull
    · exact ih.trans (Finset.subset_insert _ _)
    · rw [keys_concat]
      exact Finset.insert_subset_insert _ ih

/-- Where there is room for all keys, each of them has an early row. -/
theorem keys_early {rows : List α} (hroom : (keys key rows).card ≤ limit) :
    keys key (early key limit rows) = keys key rows := by
  induction rows using List.reverseRecOn with
  | nil => rfl
  | append_singleton rows row ih =>
    have hkeys := ih ((card_keys_le_concat rows row).trans hroom)
    rw [early_concat, hkeys]
    split_ifs with hfull
    · rw [keys_concat, Finset.insert_eq_of_mem (mem_keys_of_full hroom hfull), hkeys]
    · rw [keys_concat, keys_concat, hkeys]

/-- Rows whose keys leave room are all early. -/
theorem early_of_card_lt {rows : List α} (h : (keys key rows).card < limit) :
    early key limit rows = rows := by
  induction rows using List.reverseRecOn with
  | nil => rfl
  | append_singleton rows row ih =>
    have hroom := (card_keys_le_concat rows row).trans_lt h
    rw [early_concat, ih hroom, if_neg (Nat.not_le.mpr hroom)]

/-- As many rows as there is room for are all early. -/
theorem early_of_length_le {rows : List α} (h : rows.length ≤ limit) :
    early key limit rows = rows := by
  induction rows using List.reverseRecOn with
  | nil => rfl
  | append_singleton rows row ih =>
    rw [List.length_append, List.length_singleton] at h
    have hroom : (keys key rows).card ≤ rows.length := card_keys_le rows
    rw [early_concat, ih (by omega), if_neg (by omega)]

/-- A key has a last row exactly when some row has it. -/
theorem lastRow_ne_none_iff {rows : List α} {k : κ} :
    lastRow key k rows ≠ none ↔ k ∈ keys key rows := by
  rw [lastRow, keys, Ne, List.getLast?_eq_none_iff, List.filter_eq_nil_iff,
    List.mem_toFinset, List.mem_map]
  simp

end CappedMap
