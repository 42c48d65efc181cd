import Mathlib.Data.List.Basic
import Mathlib.Data.List.Induction

/-!
# Loops over a list

One turn of a loop that may break looks at the next item and either goes on with a new state
(`yield`) or leaves the loop with one (`done`). The induction over the list is done once here.

A loop that appends to a list with room for `cap` items those that are eligible and not there yet
leaves the first `cap` of the distinct eligible items, in the order in which they first come
(`FirstDistinct.foldl_add`).
-/

namespace Loop

variable {σ β : Type*} (turn : σ → β → ForInStep σ)

/-- Run the loop over `items`, from the state `s`. -/
def loop : σ → List β → σ
  | s, [] => s
  | s, item :: items =>
    match turn s item with
    | .yield s' => loop s' items
    | .done s' => s'

@[simp] theorem loop_nil (s : σ) : loop turn s [] = s := rfl

variable {turn}

/-- A turn that goes on hands its state to the turns after it. -/
theorem loop_cons_yield {s s' : σ} {item : β} (h : turn s item = .yield s') (items : List β) :
    loop turn s (item :: items) = loop turn s' items := by
  rw [loop, h]

/-- A turn that leaves the loop decides its result. -/
theorem loop_cons_done {s s' : σ} {item : β} (h : turn s item = .done s') (items : List β) :
    loop turn s (item :: items) = s' := by
  rw [loop, h]

/-- What every turn preserves, whether it goes on or leaves, the loop preserves. -/
theorem loop_invariant {P : σ → Prop}
    (hyield : ∀ s s' item, P s → turn s item = .yield s' → P s')
    (hdone : ∀ s s' item, P s → turn s item = .done s' → P s')
    {s : σ} (hs : P s) (items : List β) : P (loop turn s items) := by
  induction items generalizing s with
  | nil => exact hs
  | cons item items ih =>
    cases h : turn s item with
    | yield s' =>
      rw [loop_cons_yield h]
      exact ih (hyield s s' item hs h)
    | done s' =>
      rw [loop_cons_done h]
      exact hdone s s' item hs h

/-- A loop whose turns all keep the state keeps it. -/
theorem foldl_eq_self {step : σ → β → σ} {s : σ} {items : List β}
    (h : ∀ item ∈ items, step s item = s) : items.foldl step s = s := by
  induction items with
  | nil => rfl
  | cons item items ih =>
    obtain ⟨hitem, hitems⟩ := List.forall_mem_cons.mp h
    rw [List.foldl_cons, hitem, ih hitems]

/-- What every turn leaves as it is, the loop leaves as it is. -/
theorem foldl_frame {γ : Type*} (view : σ → γ) {step : σ → β → σ}
    (h : ∀ s item, view (step s item) = view s) (s : σ) (items : List β) :
    view (items.foldl step s) = view s := by
  induction items generalizing s with
  | nil => rfl
  | cons item items ih => rw [List.foldl_cons, ih, h]

/-- A flag that every turn may raise is up after the loop when it was up before or an item raises
it. -/
theorem foldl_flag (flag : σ → Bool) {step : σ → β → σ} {raises : β → Bool}
    (h : ∀ s item, flag (step s item) = (flag s || raises item)) (s : σ) (items : List β) :
    flag (items.foldl step s) = (flag s || items.any raises) := by
  induction items generalizing s with
  | nil => rw [List.foldl_nil, List.any_nil, Bool.or_false]
  | cons item items ih => rw [List.foldl_cons, ih, h, List.any_cons, Bool.or_assoc]

/-- Where some items assign a value and the others keep it, the last one that assigns decides. -/
theorem foldl_assign (assigns : β → Prop) [DecidablePred assigns]
    (value : β → σ) (s : σ) (items : List β) :
    items.foldl (fun s item => if assigns item then value item else s) s =
      ((items.filter fun item => assigns item).getLast?.map value).getD s := by
  induction items using List.reverseRecOn with
  | nil => rfl
  | append_singleton items item ih =>
    rw [List.foldl_append, List.foldl_cons, List.foldl_nil, ih, List.filter_append]
    by_cases h : assigns item <;> simp [h]

/-- The items stand in a list in their order, with noise anywhere between them. -/
inductive Interspersed (noise : β → Prop) : List β → List β → Prop
  | nil : Interspersed noise [] []
  | item {items all : List β} (item : β) (h : Interspersed noise items all) :
    Interspersed noise (item :: items) (item :: all)
  | noise {items all : List β} {item : β} (hnoise : noise item) (h : Interspersed noise items all) :
    Interspersed noise items (item :: all)

/-- The items are all in the list they are interspersed in. -/
theorem Interspersed.mem {noise : β → Prop} {items all : List β}
    (h : Interspersed noise items all) {item : β} (hitem : item ∈ items) : item ∈ all := by
  induction h with
  | nil => exact hitem
  | item head _ ih =>
    rcases List.mem_cons.mp hitem with rfl | hitem
    · exact List.mem_cons_self
    · exact List.mem_cons_of_mem _ (ih hitem)
  | noise _ _ ih => exact List.mem_cons_of_mem _ (ih hitem)

end Loop

namespace FirstDistinct

variable {α : Type*} [BEq α] [LawfulBEq α] (cap : ℕ) (eligible : α → Bool)

/-- Append an eligible item that is not there, if there is room. -/
def add (l : List α) (a : α) : List α :=
  if eligible a = true ∧ l.length < cap ∧ a ∉ l then l ++ [a] else l

variable {cap} {eligible}

/-- One more item is one more distinct item, unless it came before. -/
theorem eraseDups_concat (l : List α) (a : α) :
    (l ++ [a]).eraseDups = if a ∈ l then l.eraseDups else l.eraseDups ++ [a] := by
  rw [List.eraseDups_append]
  split_ifs with hmem
  · have hnone : [a].removeAll l = [] := by simp [List.removeAll, hmem]
    rw [hnone, List.eraseDups_nil, List.append_nil]
  · have hone : [a].removeAll l = [a] := by simp [List.removeAll, hmem]
    rw [hone, List.eraseDups_cons, List.filter_nil, List.eraseDups_nil]

/-- An item that is not eligible changes nothing. -/
theorem add_of_not_eligible {a : α} (h : eligible a = false) (l : List α) :
    add cap eligible l a = l := by
  rw [add, if_neg fun hall => Bool.false_ne_true (h.symm.trans hall.1)]

/-- An item is taken into the first items as it comes into the distinct ones. -/
theorem add_take {a : α} (h : eligible a = true) (l : List α) :
    add cap eligible (l.eraseDups.take cap) a = ((l ++ [a]).eraseDups).take cap := by
  rw [eraseDups_concat, add]
  by_cases hroom : l.eraseDups.length < cap
  · -- Below the cap nothing has been left out.
    have hle : l.eraseDups.length ≤ cap := Nat.le_of_lt hroom
    rw [List.take_of_length_le hle]
    by_cases hmem : a ∈ l
    · rw [if_pos hmem, if_neg fun hall => hall.2.2 (List.mem_eraseDups.mpr hmem),
        List.take_of_length_le hle]
    · rw [if_neg hmem, if_pos ⟨h, hroom, mt List.mem_eraseDups.mp hmem⟩, List.take_of_length_le]
      rw [List.length_append, List.length_singleton]
      exact hroom
  · have hfull : ¬ (l.eraseDups.take cap).length < cap := by
      rw [List.length_take]
      omega
    rw [if_neg fun hall => hfull hall.2.1]
    split_ifs
    · rfl
    · rw [List.take_append_of_le_length (Nat.not_lt.mp hroom)]

/-- The loop takes the first distinct eligible items. -/
theorem foldl_add (items : List α) :
    items.foldl (add cap eligible) [] = ((items.filter eligible).eraseDups).take cap := by
  induction items using List.reverseRecOn with
  | nil => simp
  | append_singleton items a ih =>
    rw [List.foldl_concat, ih, List.filter_append]
    cases heligible : eligible a with
    | false =>
      rw [add_of_not_eligible heligible, List.filter_cons_of_neg (by simp [heligible]),
        List.filter_nil, List.append_nil]
    | true => rw [add_take heligible, List.filter_cons_of_pos heligible, List.filter_nil]

end FirstDistinct
