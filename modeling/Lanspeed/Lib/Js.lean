import Lanspeed.Lib.Keyed
import Mathlib.Data.List.Induction
import Mathlib.Data.List.Perm.Subperm
import Mathlib.Data.List.Sort

/-!
# Sorting, property order and numbers of a script

`Array.prototype.sort` is a stable sort by a consistent comparator, and `Object.keys` lists the
array indices among an object's names in ascending order, and behind them the other names in the
order in which the properties were created. Both orders are given here as relations between two
elements (`pairwise_sort`, `Obj.pairwise_keys`), and a part of a list that is ordered by such a
relation is found by selecting its members (`filter_mem_eq_iff`). A number is a double: the integer
nearest to the exact result that a double can hold, which is the result itself below `safeLimit`.
-/

namespace Js

open List (Sublist)

variable {α β : Type*}

/-! ## Arrays -/

/-- A consistent comparator: the sign of `compare` is a total preorder. -/
structure Comparator (α : Type*) where
  compare : α → α → ℤ
  swap : ∀ a b, compare a b < 0 ↔ 0 < compare b a
  trans : ∀ a b c, compare a b ≤ 0 → compare b c ≤ 0 → compare a c ≤ 0

namespace Comparator

/-- The difference of two ranks. -/
def byRank (rank : α → ℤ) : Comparator α where
  compare a b := rank a - rank b
  swap a b := by omega
  trans a b c := by omega

/-- Compare what a function gives. -/
def comap (f : β → α) (c : Comparator α) : Comparator β where
  compare a b := c.compare (f a) (f b)
  swap a b := c.swap (f a) (f b)
  trans a b d := c.trans (f a) (f b) (f d)

/-- If an item is not below another, the other is not above it. -/
theorem flip_le (c : Comparator α) {a b : α} (h : 0 ≤ c.compare a b) : c.compare b a ≤ 0 := by
  by_contra hba
  have := (c.swap a b).mpr (by omega)
  omega

/-- Of two items, one is not above the other. -/
theorem total (c : Comparator α) (a b : α) : c.compare a b ≤ 0 ∨ c.compare b a ≤ 0 := by
  by_cases h : c.compare a b ≤ 0
  · exact .inl h
  · exact .inr (c.flip_le (by omega))

/-- A strict comparison before a weak one is strict. -/
theorem trans_lt (c : Comparator α) {a b d : α} (hab : c.compare a b < 0)
    (hbd : c.compare b d ≤ 0) :
    c.compare a d < 0 := by
  by_contra h
  have hba := c.trans b d a hbd (c.flip_le (by omega))
  have := (c.swap a b).mp hab
  omega

/-- A weak comparison before a strict one is strict. -/
theorem lt_trans (c : Comparator α) {a b d : α} (hab : c.compare a b ≤ 0)
    (hbd : c.compare b d < 0) :
    c.compare a d < 0 := by
  by_contra h
  have hdb := c.trans d a b (c.flip_le (by omega)) hab
  have := (c.swap b d).mp hbd
  omega

/-- Items that compare equal to a common one compare equal. -/
theorem trans_eq (c : Comparator α) {a b d : α} (hab : c.compare a b = 0)
    (hbd : c.compare b d = 0) :
    c.compare a d = 0 := by
  have hle := c.trans a b d hab.le hbd.le
  have hge := c.trans d b a (c.flip_le hbd.ge) (c.flip_le hab.ge)
  have := c.swap a d
  omega

/-- Compare by the first comparator, and where it makes no difference by the second. -/
def thenBy (c d : Comparator α) : Comparator α where
  compare a b := if c.compare a b ≠ 0 then c.compare a b else d.compare a b
  swap a b := by
    have hab := c.swap a b
    have hba := c.swap b a
    have hd := d.swap a b
    split_ifs <;> omega
  trans a b e := by
    intro hab hbe
    by_cases h1 : c.compare a b = 0 <;> by_cases h2 : c.compare b e = 0
    · rw [if_neg (not_not.mpr h1)] at hab
      rw [if_neg (not_not.mpr h2)] at hbe
      rw [if_neg (not_not.mpr (c.trans_eq h1 h2))]
      exact d.trans a b e hab hbe
    · rw [if_pos h2] at hbe
      have := c.lt_trans h1.le (by omega : c.compare b e < 0)
      rw [if_pos (by omega)]
      omega
    · rw [if_pos h1] at hab
      have := c.trans_lt (by omega : c.compare a b < 0) h2.le
      rw [if_pos (by omega)]
      omega
    · rw [if_pos h1] at hab
      rw [if_pos h2] at hbe
      have := c.trans_lt (by omega : c.compare a b < 0) hbe
      rw [if_pos (by omega)]
      omega

end Comparator

/-- `Array.prototype.sort`. -/
def sort (c : Comparator α) (l : List α) : List α := l.mergeSort fun a b => c.compare a b ≤ 0

/-- The element `a` stands before `b` behind a stable sort of `l`. -/
def SortBefore (c : Comparator α) (l : List α) (a b : α) : Prop :=
  c.compare a b < 0 ∨ c.compare a b = 0 ∧ [a, b].Sublist l

theorem sort_perm (c : Comparator α) (l : List α) : (sort c l).Perm l := List.mergeSort_perm l _

@[simp] theorem mem_sort {c : Comparator α} {l : List α} {a : α} : a ∈ sort c l ↔ a ∈ l :=
  (sort_perm c l).mem_iff

/-- Sorting by what a function gives is sorting what it gives. -/
theorem map_sort {c : Comparator β} {d : Comparator α} {f : β → α} {l : List β}
    (h : ∀ a ∈ l, ∀ b ∈ l, c.compare a b = d.compare (f a) (f b)) :
    (sort c l).map f = sort d (l.map f) :=
  List.map_mergeSort fun a ha b hb => by rw [h a ha b hb]

/-- Of two elements of a list without repetitions one stands before the other. -/
theorem pair_sublist_or {l : List α} {a b : α} (ha : a ∈ l) (hb : b ∈ l) (hab : a ≠ b) :
    [a, b].Sublist l ∨ [b, a].Sublist l := by
  obtain ⟨s, t, rfl⟩ := List.append_of_mem ha
  rcases List.mem_append.mp hb with hb | hb
  · exact .inr ((List.singleton_sublist.mpr hb).append (List.singleton_sublist.mpr (by simp)))
  · have hb : b ∈ t := (List.mem_cons.mp hb).resolve_left (Ne.symm hab)
    have : [a, b].Sublist (a :: t) := (List.singleton_sublist.mpr hb).cons_cons a
    exact .inl (this.trans (List.sublist_append_right s _))

/-- Two distinct items of a list without repetitions stand there in one order only. -/
theorem not_pair_sublist_swap {l : List α} (h : l.Nodup) {a b : α} (hab : [a, b].Sublist l) :
    ¬ [b, a].Sublist l := by
  induction l with
  | nil => exact absurd hab (by simp)
  | cons x l ih =>
    obtain ⟨hx, hl⟩ := List.nodup_cons.mp h
    intro hba
    rcases List.sublist_cons_iff.mp hab with habl | ⟨r, hr, hrl⟩
    · rcases List.sublist_cons_iff.mp hba with hbal | ⟨s, hs, hsl⟩
      · exact ih hl habl hbal
      · obtain ⟨rfl, -⟩ := List.cons.inj hs
        exact hx (habl.subset (List.mem_cons_of_mem _ List.mem_cons_self))
    · obtain ⟨rfl, rfl⟩ := List.cons.inj hr
      have hb : b ∈ l := List.singleton_sublist.mp hrl
      rcases List.sublist_cons_iff.mp hba with hbal | ⟨s, hs, -⟩
      · exact hx (hbal.subset (List.mem_cons_of_mem _ List.mem_cons_self))
      · exact hx ((List.cons.inj hs).1 ▸ hb)

/-- The sorted list follows the comparator, and the order of the list where that calls two items
equal. -/
theorem pairwise_sort (c : Comparator α) {l : List α} (h : l.Nodup) :
    (sort c l).Pairwise (SortBefore c l) := by
  have htrans : ∀ a b d : α, decide (c.compare a b ≤ 0) = true →
      decide (c.compare b d ≤ 0) = true → decide (c.compare a d ≤ 0) = true := by
    simpa using c.trans
  have htotal : ∀ a b : α, (decide (c.compare a b ≤ 0) || decide (c.compare b a ≤ 0)) = true := by
    simpa using c.total
  have hn : (sort c l).Nodup := (sort_perm c l).nodup_iff.mpr h
  apply List.pairwise_iff_forall_sublist.mpr
  intro a b hab
  have hle : c.compare a b ≤ 0 := by
    simpa using List.pairwise_iff_forall_sublist.mp
      (List.pairwise_mergeSort htrans htotal l) hab
  by_cases hlt : c.compare a b < 0
  · exact .inl hlt
  · have heq : c.compare a b = 0 := by omega
    have hne : a ≠ b := by
      rintro rfl
      exact not_pair_sublist_swap hn hab hab
    refine .inr ⟨heq, ?_⟩
    refine (pair_sublist_or (mem_sort.mp (hab.subset (by simp)))
      (mem_sort.mp (hab.subset (by simp))) hne).resolve_right fun hba => ?_
    -- the pair would keep its order, and come out the other way round
    have hswap := c.flip_le heq.ge
    exact not_pair_sublist_swap hn hab
      (List.pair_sublist_mergeSort htrans htotal (by simpa using hswap) hba)

/-- What stands before another element behind a sort does not stand behind it. -/
theorem SortBefore.asymm {c : Comparator α} {l : List α} (h : l.Nodup) {a b : α}
    (hab : SortBefore c l a b) : ¬ SortBefore c l b a := by
  have hs := c.swap a b
  have hs' := c.swap b a
  rintro (hba | ⟨hba, hsub⟩)
  · rcases hab with hab | ⟨hab, -⟩ <;> omega
  · rcases hab with hab | ⟨-, hsub'⟩
    · omega
    · exact not_pair_sublist_swap h hsub hsub'

/-! ## Objects -/

/-- The number that a name is the text of, when it is an array index:
`ToString(ToUint32(name)) = name`, below 2^32 − 1. -/
def arrayIndex (name : List Char) : Option ℕ :=
  let n := Nat.ofDigitChars 10 name 0
  if Nat.toDigits 10 n = name ∧ n < UInt32.size - 1 then some n else none

/-- Two names of one array index are the same name. -/
theorem arrayIndex_inj {a b : List Char} {n : ℕ} (ha : arrayIndex a = some n)
    (hb : arrayIndex b = some n) : a = b := by
  simp only [arrayIndex, Option.ite_none_right_eq_some, Option.some.injEq] at ha hb
  rw [← ha.1.1, ← hb.1.1, ha.2, hb.2]

/-- Write a property: rewrite it where it is, or create it behind the others. -/
def setProp (name : List Char) (v : α) (props : List (List Char × α)) : List (List Char × α) :=
  if (Keyed.lookup Prod.fst name props).isSome then
    Keyed.modify Prod.fst name (fun p => (p.1, v)) props
  else props ++ [(name, v)]

/-- Setting a property keeps the names distinct. -/
theorem distinct_setProp (name : List Char) (v : α) {props : List (List Char × α)}
    (h : Keyed.Distinct Prod.fst props) : Keyed.Distinct Prod.fst (setProp name v props) := by
  rw [setProp]
  split_ifs with hown
  · exact h.modify fun _ => rfl
  · exact h.append_fresh (by simpa using hown)

/-- The own properties of an object, in the order in which they were created. -/
structure Obj (α : Type*) where
  props : List (List Char × α)
  distinct : Keyed.Distinct Prod.fst props

namespace Obj

/-- `{}`. -/
def empty : Obj α := ⟨[], Keyed.distinct_nil _⟩

/-- The name under which an object's prototype is reached. -/
def protoName : List Char := "__proto__".toList

/-- `o[name] = v`. The name `__proto__` is the prototype's, and an assignment to it creates no
property. -/
def set (o : Obj α) (name : List Char) (v : α) : Obj α :=
  if name = protoName then o
  else ⟨setProp name v o.props, distinct_setProp name v o.distinct⟩

/-- The own property `o[name]`. -/
def get? (o : Obj α) (name : List Char) : Option α :=
  (Keyed.lookup Prod.fst name o.props).map Prod.snd

/-- The names of the own properties, in the order in which they were created. -/
def created (o : Obj α) : List (List Char) := o.props.map Prod.fst

/-- `Object.keys`. -/
def keys (o : Obj α) : List (List Char) :=
  sort (Comparator.byRank fun name => ((arrayIndex name).getD 0 : ℕ))
      (o.created.filter fun name => (arrayIndex name).isSome) ++
    o.created.filter fun name => (arrayIndex name).isNone

/-- The name `a` stands before `b` in the keys of an object whose names were created in the order
`before`. -/
def KeyBefore (before : List Char → List Char → Prop) (a b : List Char) : Prop :=
  match arrayIndex a, arrayIndex b with
  | some i, some j => i < j
  | some _, none => True
  | none, some _ => False
  | none, none => before a b

/-- The order of the keys of an object is asymmetric where the order of creation is. -/
theorem KeyBefore.asymm {before : List Char → List Char → Prop}
    (h : ∀ a b, before a b → ¬ before b a) {a b : List Char} (hab : KeyBefore before a b) :
    ¬ KeyBefore before b a := by
  cases ha : arrayIndex a with
  | none =>
    cases hb : arrayIndex b with
    | none =>
      simp only [KeyBefore, ha, hb] at hab ⊢
      exact h a b hab
    | some j => simp [KeyBefore, ha, hb] at hab
  | some i =>
    cases hb : arrayIndex b with
    | none => simp [KeyBefore, ha, hb]
    | some j =>
      simp only [KeyBefore, ha, hb] at hab ⊢
      omega

/-- Write a property for each element of a list. -/
def ofList (key : β → List Char) (val : β → α) (l : List β) : Obj α :=
  l.foldl (fun o b => o.set (key b) (val b)) empty

/-- The properties of an object built from a list are those of the list, without `__proto__`. -/
theorem props_ofList {key : β → List Char} {l : List β} (h : (l.map key).Nodup) (val : β → α) :
    (ofList key val l).props =
      (l.filter fun b => key b ≠ protoName).map fun b => (key b, val b) := by
  induction l using List.reverseRecOn with
  | nil => rfl
  | append_singleton l b ih =>
    rw [List.map_append, List.nodup_append] at h
    obtain ⟨hl, -, hdisj⟩ := h
    have hstep : ofList key val (l ++ [b]) = (ofList key val l).set (key b) (val b) := by
      rw [ofList, List.foldl_append]
      rfl
    rw [hstep, set, List.filter_append, List.map_append, ← ih hl]
    split_ifs with hproto
    · simp [hproto]
    · have hfresh : Keyed.lookup Prod.fst (key b) (ofList key val l).props = none := by
        apply Keyed.lookup_eq_none_iff.mpr
        intro p hp
        rw [ih hl] at hp
        obtain ⟨b', hb', rfl⟩ := List.mem_map.mp hp
        exact hdisj _ (List.mem_map_of_mem (List.mem_of_mem_filter hb')) _ (by simp)
      simp [setProp, hfresh, hproto]

/-- The names of an object built from a list are created in the order of the list. -/
theorem created_ofList {key : β → List Char} {l : List β} (h : (l.map key).Nodup) (val : β → α) :
    (ofList key val l).created = (l.map key).filter fun name => name ≠ protoName := by
  rw [created, props_ofList h, List.map_map, List.filter_map]
  rfl

/-- An object built from a list has under each name of the list the value it has there. -/
theorem get?_ofList {key : β → List Char} {l : List β} (h : (l.map key).Nodup) (val : β → α) {b : β}
    (hb : b ∈ l) (hproto : key b ≠ protoName) :
    (ofList key val l).get? (key b) = some (val b) := by
  have hmem : (key b, val b) ∈ (ofList key val l).props := by
    rw [props_ofList h]
    exact List.mem_map_of_mem (List.mem_filter.mpr ⟨hb, by simpa using hproto⟩)
  rw [get?, (ofList key val l).distinct.lookup_of_mem hmem]
  rfl

theorem nodup_created (o : Obj α) : o.created.Nodup := o.distinct

/-- The keys of an object are the names that were created. -/
@[simp] theorem mem_keys {o : Obj α} {name : List Char} : name ∈ o.keys ↔ name ∈ o.created := by
  simp only [keys, List.mem_append, mem_sort, List.mem_filter]
  cases arrayIndex name <;> simp

/-- An object has every key once. -/
theorem nodup_keys (o : Obj α) : o.keys.Nodup := by
  have hsort := (sort_perm (Comparator.byRank fun name => ((arrayIndex name).getD 0 : ℕ))
    (o.created.filter fun name => (arrayIndex name).isSome)).nodup_iff.mpr
      (o.nodup_created.filter _)
  apply hsort.append (o.nodup_created.filter _)
  intro name hs hn
  have hsome := (List.mem_filter.mp (mem_sort.mp hs)).2
  have hnone := (List.mem_filter.mp hn).2
  simp_all

/-- The keys come in the order in which they were created, array indices before names. -/
theorem pairwise_keys {o : Obj α} {before : List Char → List Char → Prop}
    (h : o.created.Pairwise before) : o.keys.Pairwise (KeyBefore before) := by
  have hnodup := o.nodup_created.filter fun name => (arrayIndex name).isSome
  rw [keys, List.pairwise_append]
  refine ⟨(pairwise_sort _ hnodup).imp_of_mem fun {a b} ha hb hab => ?_,
    (h.filter _).imp_of_mem fun {a b} ha hb hab => ?_, fun a ha b hb => ?_⟩
  · obtain ⟨i, hi⟩ := Option.isSome_iff_exists.mp (List.mem_filter.mp (mem_sort.mp ha)).2
    obtain ⟨j, hj⟩ := Option.isSome_iff_exists.mp (List.mem_filter.mp (mem_sort.mp hb)).2
    simp only [SortBefore, Comparator.byRank, hi, hj, Option.getD_some] at hab
    simp only [KeyBefore, hi, hj]
    rcases hab with hlt | ⟨heq, hsub⟩
    · omega
    · obtain rfl : i = j := by omega
      obtain rfl := arrayIndex_inj hi hj
      exact absurd hsub (not_pair_sublist_swap hnodup hsub)
  · have hna := Option.isNone_iff_eq_none.mp (List.mem_filter.mp ha).2
    have hnb := Option.isNone_iff_eq_none.mp (List.mem_filter.mp hb).2
    simpa only [KeyBefore, hna, hnb] using hab
  · obtain ⟨i, hi⟩ := Option.isSome_iff_exists.mp (List.mem_filter.mp (mem_sort.mp ha)).2
    have hnb := Option.isNone_iff_eq_none.mp (List.mem_filter.mp hb).2
    simp only [KeyBefore, hi, hnb]

end Obj

/-! ## Selecting from a list -/

section Select

variable {T l : List α} [DecidablePred (· ∈ l)]

/-- Selecting the members of a part of a list gives that part. -/
theorem filter_mem_of_sublist (hT : T.Nodup) (h : l.Sublist T) : (T.filter fun x => x ∈ l) = l := by
  have hsub : l.Sublist (T.filter fun x => x ∈ l) := by
    have hself : (l.filter fun x => x ∈ l) = l :=
      List.filter_eq_self.mpr fun x hx => by simpa using hx
    have hpart := h.filter fun x => decide (x ∈ l)
    rwa [hself] at hpart
  have hle : (T.filter fun x => x ∈ l).length ≤ l.length := by
    refine (List.Nodup.subperm (hT.filter _) fun x hx => ?_).length_le
    simpa using (List.mem_filter.mp hx).2
  exact (hsub.eq_of_length_le hle).symm

/-- In a list that is strictly ordered by `before`, the members of `l` are `l` itself exactly when
all of `l` is in the list and `l` is ordered in the same way. -/
theorem filter_mem_eq_iff {before : α → α → Prop} (hasymm : ∀ a b, before a b → ¬ before b a)
    (hT : T.Nodup) (hord : T.Pairwise before) :
    (T.filter fun x => x ∈ l) = l ↔ (∀ x ∈ l, x ∈ T) ∧ l.Pairwise before := by
  constructor
  · intro h
    refine ⟨fun x hx => ?_, h ▸ hord.filter _⟩
    rw [← h] at hx
    exact List.mem_of_mem_filter hx
  · rintro ⟨hmem, hl⟩
    have : Std.Antisymm before := ⟨fun a b hab hba => absurd hba (hasymm a b hab)⟩
    have hn : l.Nodup := by
      apply hl.imp
      intro a b hab
      rintro rfl
      exact hasymm a a hab hab
    exact filter_mem_of_sublist hT
      (List.sublist_of_subperm_of_pairwise (hn.subperm hmem) hl hord)

end Select

/-! ## Numbers -/

/-- The integers from which on not every integer is a double. -/
def safeLimit : ℕ := 9007199254740992

/-- The double nearest to a natural number; between two equally near ones, the even one. -/
def roundDouble (n : ℕ) : ℕ :=
  let unit := 1 <<< (Nat.log2 n - 52)
  let rest := 2 * (n % unit)
  if unit < rest ∨ rest = unit ∧ n / unit % 2 = 1 then (n / unit + 1) * unit else n / unit * unit

/-- The number that an integer becomes, in a text that is parsed or as a result of arithmetic. -/
def number (n : ℤ) : ℤ := if 0 ≤ n then roundDouble n.toNat else -roundDouble (-n).toNat

/-- A number below `2 ^ 53` is a double. -/
theorem roundDouble_of_lt {n : ℕ} (h : n < safeLimit) : roundDouble n = n := by
  have hshift : Nat.log2 n - 52 = 0 := by
    have hlog : Nat.log2 n < 53 ∨ n = 0 := by
      by_cases hzero : n = 0
      · exact .inr hzero
      · exact .inl ((Nat.log2_lt hzero).mpr h)
    rcases hlog with hlog | rfl
    · omega
    · rfl
  rw [roundDouble, hshift]
  simp [Nat.mod_one]

/-- A number from `2 ^ 53` on is not rounded below that. -/
theorem safeLimit_le_roundDouble {n : ℕ} (h : safeLimit ≤ n) : safeLimit ≤ roundDouble n := by
  have hne : n ≠ 0 := by
    rintro rfl
    exact absurd h (by decide)
  obtain ⟨k, hk⟩ : ∃ k, Nat.log2 n = 53 + k := Nat.exists_eq_add_of_le ((Nat.le_log2 hne).mpr h)
  have hself : 2 ^ (53 + k) ≤ n := hk ▸ Nat.log2_self_le hne
  have hunit : 1 <<< (Nat.log2 n - 52) = 2 * 2 ^ k := by
    rw [hk, Nat.shiftLeft_eq, show 53 + k - 52 = k + 1 by omega, Nat.pow_succ]
    omega
  have hpos : 0 < 2 ^ k := Nat.two_pow_pos k
  have hquot : 4503599627370496 ≤ n / (2 * 2 ^ k) := by
    rw [Nat.le_div_iff_mul_le (by omega)]
    calc 4503599627370496 * (2 * 2 ^ k) = 2 ^ 53 * 2 ^ k := by omega
      _ = 2 ^ (53 + k) := (Nat.pow_add 2 53 k).symm
      _ ≤ n := hself
  have hfloor : safeLimit ≤ n / (2 * 2 ^ k) * (2 * 2 ^ k) :=
    calc safeLimit = 4503599627370496 * 2 := rfl
      _ ≤ n / (2 * 2 ^ k) * (2 * 2 ^ k) := Nat.mul_le_mul hquot (by omega)
  rw [roundDouble, hunit]
  split_ifs
  · exact hfloor.trans (Nat.mul_le_mul_right _ (Nat.le_succ _))
  · exact hfloor

/-- A natural number below the limit is a double. -/
theorem number_natCast {n : ℕ} (h : n < safeLimit) : number n = n := by
  rw [number, if_pos (Int.natCast_nonneg n), Int.toNat_natCast, roundDouble_of_lt h]

/-- So is an integer between zero and the limit. -/
theorem number_of_nonneg {n : ℤ} (h0 : 0 ≤ n) (h : n < safeLimit) : number n = n := by
  obtain ⟨n, rfl⟩ := Int.eq_ofNat_of_zero_le h0
  exact number_natCast (Int.ofNat_lt.mp h)

/-- Rounding moves no natural number across one that is below the limit. -/
theorem natCast_le_number_iff {m : ℕ} (hm : m < safeLimit) (n : ℕ) :
    (m : ℤ) ≤ number n ↔ m ≤ n := by
  by_cases h : n < safeLimit
  · rw [number_natCast h, Int.ofNat_le]
  · have hround := safeLimit_le_roundDouble (Nat.not_lt.mp h)
    rw [number, if_pos (Int.natCast_nonneg n), Int.toNat_natCast, Int.ofNat_le]
    omega

end Js
