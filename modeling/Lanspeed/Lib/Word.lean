import Mathlib.Algebra.BigOperators.Group.List.Basic
import Mathlib.Algebra.Group.Nat.Defs
import Mathlib.Data.List.Basic
import Mathlib.Data.Nat.Basic
import Mathlib.Data.UInt
import Mathlib.Tactic.Common

/-!
# Machine counters

Sums of counters are sums of unsigned words of 64 or of 32 bits; a sum whose value fits is the sum
of the values. A word that is converted to a signed integer of its width keeps its value below half
of the range (`Word`). The rate of a counter over a time `dt` is `scale` times its growth per unit
of time, rounded down; it is zero when there is no earlier reading, when the counter fell, and when
no time has passed (`CounterRate`). A number in network order is its bytes, the highest first, and
`beValue` reads back what `bigEndian` writes (`Bytes`).
-/

namespace Word

/-- A sum of words that stand for numbers stands for the sum of the numbers. -/
theorem sum_map_ofNat {α : Type*} (f : α → ℕ) (l : List α) :
    (l.map fun a => UInt64.ofNat (f a)).sum = UInt64.ofNat (l.map f).sum := by
  induction l with
  | nil => rfl
  | cons a l ih =>
    rw [List.map_cons, List.sum_cons, ih, List.map_cons, List.sum_cons, UInt64.ofNat_add]

/-- A counter that goes up at some items counts them. -/
theorem sum_map_indicator {α : Type*} (p : α → Bool) (l : List α) :
    (l.map fun a => if p a then (1 : UInt32) else 0).sum = UInt32.ofNat (l.countP p) := by
  induction l with
  | nil => rfl
  | cons a l ih =>
    rw [List.map_cons, List.sum_cons, ih, List.countP_cons, UInt32.ofNat_add, add_comm]
    split_ifs <;> rfl

/-- A sum of words is no more than the sum of their values. -/
theorem toNat_sum_le (l : List UInt64) : l.sum.toNat ≤ (l.map UInt64.toNat).sum := by
  induction l with
  | nil => exact Nat.le_refl 0
  | cons a l ih =>
    rw [List.sum_cons, List.map_cons, List.sum_cons, UInt64.toNat_add]
    exact (Nat.mod_le _ _).trans (Nat.add_le_add_left ih _)

/-- A sum of 32-bit words is the word of the sum of their values. -/
theorem sum_map_toNat {α : Type*} (f : α → UInt32) (l : List α) :
    (l.map f).sum = UInt32.ofNat (l.map fun a => (f a).toNat).sum := by
  induction l with
  | nil => rfl
  | cons a l ih =>
    rw [List.map_cons, List.sum_cons, ih, List.map_cons, List.sum_cons, UInt32.ofNat_add,
      UInt32.ofNat_toNat]

/-- `(int)x`: the signed reading of a 32-bit word. -/
theorem toInt_toInt32 (x : UInt32) :
    x.toInt32.toInt = if x.toNat < 2147483648 then (x.toNat : ℤ) else x.toNat - 4294967296 := by
  have hx : x.toBitVec.toNat = x.toNat := rfl
  rw [← Int32.toInt_toBitVec, UInt32.toBitVec_toInt32, BitVec.toInt_eq_toNat_cond, hx]
  split_ifs <;> first | rfl | omega

/-- The signed reading of a sum of 32-bit words whose value is below `2 ^ 31` is this value. -/
theorem toInt_toInt32_sum {α : Type*} {f : α → UInt32} {l : List α}
    (h : (l.map fun a => (f a).toNat).sum < 2 ^ 31) :
    (l.map f).sum.toInt32.toInt = (l.map fun a => (f a).toNat).sum := by
  have hvalue : (l.map f).sum.toNat = (l.map fun a => (f a).toNat).sum := by
    rw [sum_map_toNat, UInt32.toNat_ofNat', Nat.mod_eq_of_lt (by omega)]
  rw [toInt_toInt32, hvalue, if_pos (by omega)]

/-- The signed reading of a word below `2 ^ 63` is its value. -/
theorem toInt_toInt64_of_lt {x : UInt64} (h : x.toNat < 2 ^ 63) : x.toInt64.toInt = x.toNat := by
  rw [← Int64.toInt_toBitVec, UInt64.toBitVec_toInt64, BitVec.toInt_eq_toNat_of_lt]
  · rfl
  · have : x.toBitVec.toNat = x.toNat := rfl
    omega

/-- The signed reading of a word from `2 ^ 63` on is negative. -/
theorem toInt_toInt64_of_ge {x : UInt64} (h : 2 ^ 63 ≤ x.toNat) :
    x.toInt64.toInt = x.toNat - 2 ^ 64 := by
  have hx : x.toBitVec.toNat = x.toNat := rfl
  rw [← Int64.toInt_toBitVec, UInt64.toBitVec_toInt64, BitVec.toInt_eq_toNat_cond,
    if_neg (by omega)]
  simp [hx]

/-- The signed reading of a word is not negative below `2 ^ 63`, and only then. -/
theorem toInt_toInt64_nonneg_iff {x : UInt64} : 0 ≤ x.toInt64.toInt ↔ x.toNat < 2 ^ 63 := by
  by_cases hlt : x.toNat < 2 ^ 63
  · rw [toInt_toInt64_of_lt hlt]
    exact iff_of_true (Int.natCast_nonneg _) hlt
  · have hword := x.toNat_lt
    rw [toInt_toInt64_of_ge (Nat.not_lt.mp hlt)]
    exact iff_of_false (by omega) hlt

/-- A quotient by less than the modulus only survives the reduction of its numerator when there is
nothing to reduce. -/
theorem mod_div_eq_div_iff {m d n : ℕ} (hd : 0 < d) (hdm : d ≤ m) : n % m / d = n / d ↔ n < m := by
  constructor
  · intro heq
    by_contra hge
    have hle : n % m + d ≤ n := by
      have hmod := Nat.mod_add_div n m
      have hquot : 1 ≤ n / m := Nat.div_pos (Nat.not_lt.mp hge) (hd.trans_le hdm)
      have hmul : m * 1 ≤ m * (n / m) := Nat.mul_le_mul_left m hquot
      omega
    have hnext : n % m / d + 1 ≤ n / d := by
      rw [← Nat.add_div_right _ hd]
      exact Nat.div_le_div_right hle
    omega
  · exact fun hlt => by rw [Nat.mod_eq_of_lt hlt]

/-- The value of a scaled difference. -/
theorem toNat_sub_mul_mod {a b c d : UInt64} (h : b ≤ a) :
    ((a - b) * c * d).toNat = (a.toNat - b.toNat) * (c.toNat * d.toNat) % 2 ^ 64 := by
  rw [UInt64.toNat_mul, UInt64.toNat_mul, UInt64.toNat_sub_of_le _ _ h,
    Nat.mod_mul_mod, Nat.mul_assoc]

end Word

namespace CounterRate

/-- The rate of a counter that read `prev` before (`none`: it was not read) and reads `cur` now,
`dt` time units later. -/
def rate (scale : ℕ) (prev : Option ℕ) (cur dt : ℕ) : ℕ :=
  match prev with
  | none => 0
  | some p => if cur < p then 0 else scale * (cur - p) / dt

/-- The counter fell between the two readings. -/
def Fell (prev : Option ℕ) (cur : ℕ) : Prop := ∃ p, prev = some p ∧ cur < p

@[simp] theorem rate_none (scale cur dt : ℕ) : rate scale none cur dt = 0 := rfl

/-- A counter that fell has the rate zero. -/
theorem rate_of_fell {scale cur dt : ℕ} {prev : Option ℕ} (h : Fell prev cur) :
    rate scale prev cur dt = 0 := by
  obtain ⟨p, rfl, hlt⟩ := h
  simp [rate, hlt]

/-- Where no time has passed the rate is zero. -/
@[simp] theorem rate_dt_zero (scale : ℕ) (prev : Option ℕ) (cur : ℕ) :
    rate scale prev cur 0 = 0 := by
  cases prev <;> simp [rate]

/-- A counter that did not fall has the rate of its growth. -/
theorem rate_of_le {scale p cur dt : ℕ} (h : p ≤ cur) :
    rate scale (some p) cur dt = scale * (cur - p) / dt := by
  simp [rate, Nat.not_lt.mpr h]

@[simp] theorem fell_none (cur : ℕ) : ¬ Fell none cur := by
  rintro ⟨p, h, -⟩
  exact absurd h (by simp)

@[simp] theorem fell_some (p cur : ℕ) : Fell (some p) cur ↔ cur < p := by
  simp [Fell]

end CounterRate

namespace Bytes

/-- The lowest `width` bytes of a number, the highest of them first. -/
def bigEndian : ℕ → ℕ → List UInt8
  | 0, _ => []
  | width + 1, n => bigEndian width (n / 256) ++ [UInt8.ofNat n]

/-- The number that bytes in network order stand for. -/
def beValue (bytes : List UInt8) : ℕ := bytes.foldl (fun n b => n * 256 + b.toNat) 0

/-- A number is written in as many bytes as it was given. -/
@[simp] theorem length_bigEndian (width n : ℕ) : (bigEndian width n).length = width := by
  induction width generalizing n with
  | zero => rfl
  | succ width ih => rw [bigEndian, List.length_append, ih, List.length_singleton]

/-- The bytes of a number read back as the number, modulo what fits in them. -/
@[simp] theorem beValue_bigEndian (width n : ℕ) :
    beValue (bigEndian width n) = n % 256 ^ width := by
  induction width generalizing n with
  | zero => rw [pow_zero, Nat.mod_one]; rfl
  | succ width ih =>
    have hlow : (UInt8.ofNat n).toNat = n % 256 := UInt8.toNat_ofNat'
    rw [bigEndian, beValue, List.foldl_concat, ← beValue, ih, hlow, pow_succ',
      Nat.mod_mul, Nat.mul_comm, Nat.add_comm]

end Bytes
