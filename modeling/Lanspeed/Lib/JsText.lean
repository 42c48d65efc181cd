import Lanspeed.Lib.CText
import Lanspeed.Lib.Js
import Mathlib.Algebra.Order.Group.Nat

/-!
# Numbers and their texts in a script

`String` writes a number with the fewest digits that are read back as the number: from `10 ^ 21` on
with an exponent, below with all its places. `parseInt` reads the sign and the digits at the start
of a text and rounds. Below `10 ^ 21` the text of a number is read back, as a script and as a C
program do (`parseInt_string`, `strtoull_string`); from there on both readers stop behind the first
digit.
-/

namespace Js

/-! ## Rounding -/

/-- The distance of two doubles around a number. -/
def unit (n : ℕ) : ℕ := 2 ^ (Nat.log2 n - 52)

/-- Rounding goes to the nearer multiple of the unit in the last place, on a tie to the even one. -/
theorem roundDouble_eq (n : ℕ) :
    roundDouble n =
      if unit n < 2 * (n % unit n) ∨ 2 * (n % unit n) = unit n ∧ n / unit n % 2 = 1 then
        (n / unit n + 1) * unit n
      else n / unit n * unit n := by
  rw [roundDouble, Nat.one_shiftLeft]
  rfl

theorem unit_pos (n : ℕ) : 0 < unit n := Nat.two_pow_pos _

/-- Rounding ends at one of the two doubles around a number. -/
theorem roundDouble_mem (n : ℕ) :
    n / unit n * unit n ≤ roundDouble n ∧ roundDouble n ≤ (n / unit n + 1) * unit n ∧
      unit n ∣ roundDouble n := by
  rw [roundDouble_eq]
  split_ifs
  · exact ⟨Nat.mul_le_mul_right _ (Nat.le_succ _), le_rfl, Nat.dvd_mul_left _ _⟩
  · exact ⟨le_rfl, Nat.mul_le_mul_right _ (Nat.le_succ _), Nat.dvd_mul_left _ _⟩

/-- Rounding does not go below a double that is below. -/
theorem le_roundDouble_of_dvd {n d : ℕ} (hd : unit n ∣ d) (h : d ≤ n) : d ≤ roundDouble n := by
  obtain ⟨q, rfl⟩ := hd
  have hq : q ≤ n / unit n := (Nat.le_div_iff_mul_le (unit_pos n)).mpr (by rwa [Nat.mul_comm])
  calc unit n * q ≤ n / unit n * unit n := by rw [Nat.mul_comm]; exact Nat.mul_le_mul_right _ hq
    _ ≤ roundDouble n := (roundDouble_mem n).1

/-- Nor above one that is above. -/
theorem roundDouble_le_of_dvd {n d : ℕ} (hd : unit n ∣ d) (h : n ≤ d) : roundDouble n ≤ d := by
  rcases Nat.eq_or_lt_of_le h with rfl | hlt
  · -- The number is a double itself.
    have hrest : n % unit n = 0 := Nat.mod_eq_zero_of_dvd hd
    have hpos := unit_pos n
    rw [roundDouble_eq, hrest, if_neg (by omega)]
    exact Nat.div_mul_le_self ..
  · obtain ⟨q, rfl⟩ := hd
    have hq : n / unit n + 1 ≤ q := (Nat.div_lt_iff_lt_mul (unit_pos n)).mpr (by rwa [Nat.mul_comm])
    calc roundDouble n ≤ (n / unit n + 1) * unit n := (roundDouble_mem n).2.1
      _ ≤ unit n * q := by rw [Nat.mul_comm]; exact Nat.mul_le_mul_left _ hq

/-- A double is not rounded. -/
theorem roundDouble_of_dvd {n : ℕ} (h : unit n ∣ n) : roundDouble n = n :=
  (roundDouble_le_of_dvd h le_rfl).antisymm (le_roundDouble_of_dvd h le_rfl)

theorem unit_dvd_pow {n k : ℕ} (h : Nat.log2 n ≤ k) : unit n ∣ 2 ^ k := Nat.pow_dvd_pow 2 (by omega)

theorem roundDouble_two_pow (k : ℕ) : roundDouble (2 ^ k) = 2 ^ k :=
  roundDouble_of_dvd (unit_dvd_pow (Nat.log2_two_pow ..).le)

/-- A number that is rounded stays between the powers of two around it. -/
theorem roundDouble_mem_powers {n : ℕ} (h : n ≠ 0) :
    2 ^ Nat.log2 n ≤ roundDouble n ∧ roundDouble n ≤ 2 ^ (Nat.log2 n + 1) :=
  ⟨le_roundDouble_of_dvd (unit_dvd_pow le_rfl) (Nat.log2_self_le h),
    roundDouble_le_of_dvd (unit_dvd_pow (Nat.le_succ _)) Nat.lt_log2_self.le⟩

/-- Rounding keeps the order of the numbers. -/
theorem roundDouble_mono {m n : ℕ} (h : m ≤ n) : roundDouble m ≤ roundDouble n := by
  rcases Nat.eq_zero_or_pos m with rfl | hpos
  · exact Nat.zero_le _
  have hmono : Nat.log2 m ≤ Nat.log2 n :=
    (Nat.le_log2 (by omega)).mpr ((Nat.log2_self_le hpos.ne').trans h)
  rcases Nat.eq_or_lt_of_le hmono with hlog | hlog
  · have hunit : unit m = unit n := by rw [unit, unit, hlog]
    rcases Nat.eq_or_lt_of_le (Nat.div_le_div_right (c := unit n) h) with hquot | hquot
    · -- Between the same two doubles: what is rounded up at `m` is rounded up at `n`.
      have hrest : m % unit n ≤ n % unit n := by
        have hm := Nat.div_add_mod m (unit n)
        have hn := Nat.div_add_mod n (unit n)
        rw [hquot] at hm
        omega
      rw [roundDouble_eq, roundDouble_eq, hunit, hquot]
      split_ifs with hm hn hn
      · exact le_rfl
      · omega
      · exact Nat.mul_le_mul_right _ (Nat.le_succ _)
      · exact le_rfl
    · calc roundDouble m ≤ (m / unit m + 1) * unit m := (roundDouble_mem m).2.1
        _ ≤ n / unit n * unit n := by rw [hunit]; exact Nat.mul_le_mul_right _ hquot
        _ ≤ roundDouble n := (roundDouble_mem n).1
  · calc roundDouble m ≤ 2 ^ (Nat.log2 m + 1) := (roundDouble_mem_powers hpos.ne').2
      _ ≤ 2 ^ Nat.log2 n := Nat.pow_le_pow_right (by decide) hlog
      _ ≤ roundDouble n := (roundDouble_mem_powers (by omega)).1

/-- What is rounded is a double. -/
theorem roundDouble_roundDouble (n : ℕ) : roundDouble (roundDouble n) = roundDouble n := by
  rcases Nat.eq_zero_or_pos n with rfl | hpos
  · rfl
  obtain ⟨hlow, hhigh⟩ := roundDouble_mem_powers hpos.ne'
  rcases Nat.eq_or_lt_of_le hhigh with heq | hlt
  · rw [heq]
    exact roundDouble_two_pow _
  · have hne : roundDouble n ≠ 0 := by have := Nat.two_pow_pos (Nat.log2 n); omega
    have hlog : Nat.log2 (roundDouble n) = Nat.log2 n := (Nat.log2_eq_iff hne).mpr ⟨hlow, hlt⟩
    apply roundDouble_of_dvd
    rw [unit, hlog]
    exact (roundDouble_mem n).2.2

/-! ## `String` -/

/-- The multiple of `10 ^ j` that is nearest to a number, of those that are read as it, with its
places cut off; of two that are equally near, the even one. -/
def digitsAt (x j : ℕ) : Option ℕ :=
  let q := x / 10 ^ j
  let rest := 2 * (x % 10 ^ j)
  let near := if rest < 10 ^ j ∨ rest = 10 ^ j ∧ q % 2 = 0 then [q, q + 1] else [q + 1, q]
  near.find? fun s => roundDouble (s * 10 ^ j) = x

/-- The fewest digits that are read as a number, and how many places are behind them. -/
def shortest (x : ℕ) : ℕ × ℕ :=
  ((List.range ((Nat.toDigits 10 x).length + 1)).reverse.findSome? fun j =>
    (digitsAt x j).map fun s => (s, j)).getD (x, 0)

/-- The integer that is written for a number. -/
def shown (x : ℕ) : ℕ := (shortest x).1 * 10 ^ (shortest x).2

/-- A number from here on stands for infinity. -/
def infinity : ℕ := 2 ^ 1024

/-- An integer from here on is written with an exponent. -/
def exponentLimit : ℕ := 1000000000000000000000

/-- `String` of a number that is not negative. -/
def stringNat (x : ℕ) : List Char :=
  if infinity ≤ x then "Infinity".toList
  else if shown x < exponentLimit then Nat.toDigits 10 (shown x)
  else
    let digits := Nat.toDigits 10 (shortest x).1
    digits.take 1 ++ (if digits.length = 1 then [] else '.' :: digits.drop 1) ++ 'e' :: '+' ::
      Nat.toDigits 10 (digits.length + (shortest x).2 - 1)

/-- `String` of a number that is an integer. -/
def string (n : ℤ) : List Char := if n < 0 then '-' :: stringNat (-n).toNat else stringNat n.toNat

example : string 1000000000000000000000 = "1e+21".toList ∧
    string (2 ^ 70) = "1.1805916207174113e+21".toList ∧ string
      (2 ^ 64) = "18446744073709552000".toList := by
  decide +kernel

theorem string_natCast (x : ℕ) : string x = stringNat x := by
  rw [string, if_neg (by omega), Int.toNat_natCast]

/-- What is written for a double is read as the double. -/
theorem roundDouble_shown {x : ℕ} (hx : roundDouble x = x) : roundDouble (shown x) = x := by
  rw [shown, shortest]
  cases hfind : (List.range ((Nat.toDigits 10 x).length + 1)).reverse.findSome? fun j =>
      (digitsAt x j).map fun s => (s, j) with
  | none => rwa [Option.getD_none, Nat.pow_zero, Nat.mul_one]
  | some found =>
    obtain ⟨j, -, hj⟩ := List.exists_of_findSome?_eq_some hfind
    obtain ⟨s, hs, rfl⟩ := Option.map_eq_some_iff.mp hj
    have hread : decide (roundDouble (s * 10 ^ j) = x) = true :=
      List.find?_some (p := fun s => decide (roundDouble (s * 10 ^ j) = x)) hs
    exact of_decide_eq_true hread

/-- What is written for a double is on the same side of a bound, where it is so for the bound
itself. -/
theorem shown_lt_iff {x b : ℕ} (hx : roundDouble x = x) (hb : roundDouble b = b)
    (hself : b ≤ shown b) :
    shown x < b ↔ x < b := by
  constructor
  · intro h
    have hle : x ≤ b := by
      calc x = roundDouble (shown x) := (roundDouble_shown hx).symm
        _ ≤ roundDouble b := roundDouble_mono h.le
        _ = b := hb
    rcases Nat.eq_or_lt_of_le hle with rfl | hlt
    · exact absurd h (Nat.not_lt.mpr hself)
    · exact hlt
  · intro h
    by_contra hge
    have hround : b ≤ x := by
      calc b = roundDouble b := hb.symm
        _ ≤ roundDouble (shown x) := roundDouble_mono (Nat.not_lt.mp hge)
        _ = x := roundDouble_shown hx
    exact absurd h (Nat.not_lt.mpr hround)

/-- A small number is written as it is. -/
theorem shown_of_lt {x : ℕ} (h : x < safeLimit) : shown x = x := by
  have hread := roundDouble_shown (roundDouble_of_lt h)
  have hsmall : shown x < safeLimit := by
    by_contra hge
    have hle := safeLimit_le_roundDouble (Nat.not_lt.mp hge)
    omega
  rwa [roundDouble_of_lt hsmall] at hread

/-- The digits that are shown stay below `10 ^ 21` when the number does. -/
theorem shown_lt_exponentLimit_iff {x : ℕ} (hx : roundDouble x = x) :
    shown x < exponentLimit ↔ x < exponentLimit :=
  shown_lt_iff hx (by decide +kernel) (by decide +kernel)

theorem exponentLimit_lt_infinity : exponentLimit < infinity := by decide +kernel

/-- A number below `10 ^ 21` is written in decimal digits without an exponent. -/
theorem string_of_lt {x : ℕ} (hx : roundDouble x = x) (h : x < exponentLimit) :
    string x = Nat.toDigits 10 (shown x) := by
  rw [string_natCast, stringNat, if_neg (Nat.not_le.mpr (h.trans exponentLimit_lt_infinity)),
    if_pos ((shown_lt_exponentLimit_iff hx).mpr h)]

/-! ## The two readers -/

/-- White space and line ends of the language. -/
def isWhite (c : Char) : Bool :=
  CText.isSpace c || c.toNat == 0xA0 || c.toNat == 0x1680 ||
    (0x2000 ≤ c.toNat && c.toNat ≤ 0x200A) ||
    c.toNat == 0x2028 || c.toNat == 0x2029 || c.toNat == 0x202F ||
    c.toNat == 0x205F || c.toNat == 0x3000 ||
    c.toNat == 0xFEFF

/-- `parseInt` in base 10; `none` is `NaN`. -/
def parseInt (s : List Char) : Option ℤ :=
  let (negative, s) := CText.sign (s.dropWhile isWhite)
  let digits := s.takeWhile Char.isDigit
  let n : ℤ := Nat.ofDigitChars 10 digits 0
  if digits = [] then none else some (number (if negative then -n else n))

/-- What `parseInt` finds is a number of the language. -/
theorem exists_number_of_parseInt {s : List Char} {n : ℤ} (h : parseInt s = some n) :
    ∃ m, n = number m := by
  rw [parseInt] at h
  dsimp only at h
  split_ifs at h <;> exact ⟨_, (Option.some.inj h).symm⟩

/-- A digit is no white space. -/
theorem isWhite_of_isDigit {c : Char} (h : c.isDigit = true) : isWhite c = false := by
  have hspace := CText.isSpace_of_isDigit h
  have hrange : 48 ≤ c.toNat ∧ c.toNat ≤ 57 := by
    rw [Char.isDigit, Bool.and_eq_true, decide_eq_true_eq, decide_eq_true_eq] at h
    exact h
  simp only [isWhite, hspace, Bool.false_or, Bool.or_eq_false_iff,
    Bool.and_eq_false_iff, beq_eq_false_iff_ne, decide_eq_false_iff_not]
  omega

/-- What `parseInt` sees of digits, and of what is behind them. -/
theorem parseInt_digits {digits : List Char} (hne : digits ≠ [])
    (hdigits : ∀ c ∈ digits, c.isDigit = true)
    (rest : List Char) (hrest : rest.takeWhile Char.isDigit = []) :
    parseInt (digits ++ rest) = some (number (Nat.ofDigitChars 10 digits 0)) := by
  obtain ⟨c, cs, rfl⟩ := List.exists_cons_of_ne_nil hne
  have hc : c.isDigit = true := hdigits c List.mem_cons_self
  have hwhite : (c :: cs ++ rest).dropWhile isWhite = c :: cs ++ rest := by
    rw [List.cons_append, List.dropWhile_cons_of_neg (by simp [isWhite_of_isDigit hc])]
  have hsign : CText.sign (c :: cs ++ rest) = (false, c :: cs ++ rest) := by
    apply CText.sign_of_ne <;> rintro rfl <;> exact absurd hc (by decide)
  have htake : (c :: cs ++ rest).takeWhile Char.isDigit = c :: cs := by
    rw [List.takeWhile_append_of_pos hdigits, hrest, List.append_nil]
  rw [parseInt, hwhite, hsign]
  dsimp only
  rw [htake, if_neg (List.cons_ne_nil c cs), if_neg Bool.false_ne_true]

/-- So it is with `strtoull`. -/
theorem strtoull_digits {digits : List Char} (hne : digits ≠ [])
    (hdigits : ∀ c ∈ digits, c.isDigit = true)
    (rest : List Char) (hrest : rest.takeWhile Char.isDigit = []) :
    CText.strtoull (digits ++ rest) =
      some (min CText.ullongMax (Nat.ofDigitChars 10 digits 0)) := by
  obtain ⟨c, cs, rfl⟩ := List.exists_cons_of_ne_nil hne
  have hc : c.isDigit = true := hdigits c List.mem_cons_self
  have hspace : (c :: cs ++ rest).dropWhile CText.isSpace = c :: cs ++ rest := by
    rw [List.cons_append, List.dropWhile_cons_of_neg (by simp [CText.isSpace_of_isDigit hc])]
  have hsign : CText.sign (c :: cs ++ rest) = (false, c :: cs ++ rest) := by
    apply CText.sign_of_ne <;> rintro rfl <;> exact absurd hc (by decide)
  have htake : (c :: cs ++ rest).takeWhile Char.isDigit = c :: cs := by
    rw [List.takeWhile_append_of_pos hdigits, hrest, List.append_nil]
  rw [CText.strtoull, hspace, hsign]
  dsimp only
  rw [htake, if_neg (List.cons_ne_nil c cs), CText.clampSigned, if_neg Bool.false_ne_true]
  split_ifs with hmax
  · rw [Nat.min_eq_left hmax.le]
  · rw [Nat.min_eq_right (Nat.not_lt.mp hmax)]

/-- A decimal integer is read as what it is, as far as doubles go. -/
theorem parseInt_decimal {s : List Char} {n : ℤ} (h : CText.DecimalInteger s n) :
    parseInt s = some (number n) := by
  cases h with
  | unsigned hne hdigits =>
    rw [← parseInt_digits hne hdigits [] rfl, List.append_nil]
  | @plus digits hne hdigits =>
    have hsign : CText.sign ('+' :: digits) = (false, digits) := rfl
    rw [parseInt, List.dropWhile_cons_of_neg (by decide), hsign]
    dsimp only
    rw [(CText.digits_read hne hdigits).2, if_neg hne, if_neg Bool.false_ne_true]
  | @minus digits hne hdigits =>
    have hsign : CText.sign ('-' :: digits) = (true, digits) := rfl
    rw [parseInt, List.dropWhile_cons_of_neg (by decide), hsign]
    dsimp only
    rw [(CText.digits_read hne hdigits).2, if_neg hne, if_pos rfl]

theorem isDigit_of_mem_toDigits {n : ℕ} : ∀ c ∈ Nat.toDigits 10 n, c.isDigit = true :=
  fun _ hc => Nat.isDigit_of_mem_toDigits (by decide) (by decide) hc

/-- A script reads the text of a number below the limit as the number. -/
theorem parseInt_string {x : ℕ} (hx : roundDouble x = x) (h : x < exponentLimit) :
    parseInt (string x) = some (x : ℤ) := by
  have hread := parseInt_digits Nat.toDigits_ne_nil (isDigit_of_mem_toDigits (n := shown x)) [] rfl
  rw [string_of_lt hx h, ← List.append_nil (Nat.toDigits 10 (shown x)),
    hread, Nat.ofDigitChars_ten_toDigits, number, if_pos (Int.natCast_nonneg _),
    Int.toNat_natCast, roundDouble_shown hx]

/-- A C program reads the integer that is written, as far as a word goes. -/
theorem strtoull_string {x : ℕ} (hx : roundDouble x = x) (h : x < exponentLimit) :
    CText.strtoull (string x) = some (min CText.ullongMax (shown x)) := by
  have hread := strtoull_digits Nat.toDigits_ne_nil (isDigit_of_mem_toDigits (n := shown x)) [] rfl
  rw [string_of_lt hx h, ← List.append_nil (Nat.toDigits 10 (shown x)),
    hread, Nat.ofDigitChars_ten_toDigits]

/-- A text with an exponent starts with one digit and goes on with what is none. -/
theorem string_of_le {x : ℕ} (h : exponentLimit ≤ x) (hx : roundDouble x = x)
    (hinf : x < infinity) :
    ∃ d rest, d.isDigit = true ∧ rest.takeWhile Char.isDigit = [] ∧ string x = [d] ++ rest := by
  obtain ⟨d, ds, hds⟩ :=
    List.exists_cons_of_ne_nil (Nat.toDigits_ne_nil (n := (shortest x).1) (b := 10))
  have hlarge : ¬ shown x < exponentLimit :=
    mt (shown_lt_exponentLimit_iff hx).mp (Nat.not_lt.mpr h)
  refine ⟨d, (if (d :: ds).length = 1 then [] else '.' :: ds) ++ 'e' :: '+' ::
    Nat.toDigits 10 ((d :: ds).length + (shortest x).2 - 1), ?_, ?_, ?_⟩
  · exact isDigit_of_mem_toDigits d (hds ▸ List.mem_cons_self)
  · split_ifs <;> rfl
  · rw [string_natCast, stringNat, if_neg (Nat.not_le.mpr hinf), if_neg hlarge]
    dsimp only
    rw [hds, List.append_assoc]
    rfl

/-- One digit is at most nine. -/
theorem ofDigitChars_singleton_le {d : Char} (h : d.isDigit = true) :
    Nat.ofDigitChars 10 [d] 0 ≤ 9 := by
  rw [Char.isDigit, Bool.and_eq_true, decide_eq_true_eq, decide_eq_true_eq] at h
  have hrange : d.toNat ≤ 57 := h.2
  rw [Nat.ofDigitChars_cons, Nat.ofDigitChars_nil]
  show 10 * 0 + (d.toNat - 48) ≤ 9
  omega

/-- From the limit on both readers see one digit at most. -/
theorem readers_string_of_le {x : ℕ} (h : exponentLimit ≤ x) (hx : roundDouble x = x) :
    (∀ n ∈ parseInt (string x), n ≤ 9) ∧ ∀ n ∈ CText.strtoull (string x), n ≤ 9 := by
  rcases Nat.lt_or_ge x infinity with hinf | hinf
  · obtain ⟨d, rest, hd, hrest, hstring⟩ := string_of_le h hx hinf
    have hdigits : ∀ c ∈ [d], c.isDigit = true := fun c hc => List.mem_singleton.mp hc ▸ hd
    have hsmall := ofDigitChars_singleton_le hd
    rw [hstring, parseInt_digits (List.cons_ne_nil _ _) hdigits rest hrest,
      strtoull_digits (List.cons_ne_nil _ _) hdigits rest hrest]
    constructor
    · rintro n ⟨⟩
      rw [number_natCast (hsmall.trans_lt (by decide))]
      exact Int.ofNat_le.mpr hsmall
    · rintro n ⟨⟩
      exact (Nat.min_le_right _ _).trans hsmall
  · have hparse : parseInt "Infinity".toList = none := by decide
    have hstrtoull : CText.strtoull "Infinity".toList = none := by decide
    rw [string_natCast, stringNat, if_pos hinf, hparse, hstrtoull]
    exact ⟨fun n hn => absurd hn (Option.not_mem_none n),
      fun n hn => absurd hn (Option.not_mem_none n)⟩

end Js
