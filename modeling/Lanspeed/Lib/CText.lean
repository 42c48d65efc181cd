import Mathlib.Data.List.Basic
import Mathlib.Data.List.DropRight
import Mathlib.Data.List.TakeWhile
import Mathlib.Tactic.Common

/-!
# Reading text as the C library does

A text is a list of characters without NUL. `fgetsLines` cuts a file into the pieces that `fgets`
hands back, `tokens` is a `strtok_r` loop, `scanField` a `%Ns` of `sscanf`, and `strtoull` the
conversion in base 10. The rules say what each of them makes of a text that was put together from
words. `strstr` finds a text within a text.
-/

namespace CText

/-- `isspace` in the C locale. -/
def isSpace (c : Char) : Bool :=
  c == ' ' || c == '\t' || c == '\n' || c == '\x0b' || c == '\x0c' || c == '\r'

/-! ## Files -/

/-- The pieces that `fgets` hands back with room for `room` more characters in the piece `piece`,
whose characters are in reverse order. -/
def fgetsFrom (size : ℕ) : ℕ → List Char → List Char → List (List Char)
  | _, piece, [] => if piece = [] then [] else [piece.reverse]
  | room, piece, c :: cs =>
    if c = '\n' ∨ room ≤ 1 then (c :: piece).reverse :: fgetsFrom size (size - 1) [] cs
    else fgetsFrom size (room - 1) (c :: piece) cs

/-- The pieces of a file that a loop over `fgets` with a buffer of `size` reads: the lines with
their newlines, those that do not fit cut. -/
def fgetsLines (size : ℕ) (content : List Char) : List (List Char) :=
  fgetsFrom size (size - 1) [] content

/-- A line that fits in the room that is left is read with its newline. -/
theorem fgetsFrom_line {size room : ℕ} {piece line : List Char} (hline : '\n' ∉ line)
    (hroom : line.length < room) (rest : List Char) :
    fgetsFrom size room piece (line ++ '\n' :: rest) =
      (piece.reverse ++ line ++ ['\n']) :: fgetsFrom size (size - 1) [] rest := by
  induction line generalizing room piece with
  | nil =>
    rw [List.nil_append, fgetsFrom, if_pos (.inl rfl), List.reverse_cons, List.append_nil]
  | cons c line ih =>
    obtain ⟨hc, hline⟩ := not_or.mp fun h => hline (List.mem_cons.mpr h)
    rw [List.length_cons] at hroom
    rw [List.cons_append, fgetsFrom, if_neg fun h => h.elim (Ne.symm hc) (by omega),
      ih hline (by omega)]
    simp

/-- A line that takes all the room is read without its newline. -/
theorem fgetsFrom_full {size : ℕ} {piece line : List Char} (hne : line ≠ []) (hline : '\n' ∉ line)
    (rest : List Char) :
    fgetsFrom size line.length piece (line ++ rest) =
      (piece.reverse ++ line) :: fgetsFrom size (size - 1) [] rest := by
  induction line generalizing piece with
  | nil => exact absurd rfl hne
  | cons c line ih =>
    obtain ⟨hc, hline⟩ := not_or.mp fun h => hline (List.mem_cons.mpr h)
    rw [List.cons_append, fgetsFrom, List.length_cons]
    cases line with
    | nil =>
      rw [if_pos (.inr (Nat.le_refl 1)), List.reverse_cons]
      rfl
    | cons d line =>
      rw [if_neg fun h => h.elim (Ne.symm hc) (by simp), Nat.add_sub_cancel,
        ih (List.cons_ne_nil d line) hline]
      simp

/-- A line that fits in the buffer is one piece. -/
theorem fgetsLines_line {size : ℕ} {line : List Char} (hline : '\n' ∉ line)
    (hsize : line.length + 1 < size) (rest : List Char) :
    fgetsLines size (line ++ '\n' :: rest) = (line ++ ['\n']) :: fgetsLines size rest :=
  fgetsFrom_line hline (by omega) rest

/-- A line that fits in the buffer without its newline is two pieces. -/
theorem fgetsLines_full {size : ℕ} {line : List Char} (hne : line ≠ []) (hline : '\n' ∉ line)
    (hsize : line.length + 1 = size) (rest : List Char) :
    fgetsLines size (line ++ '\n' :: rest) = line :: ['\n'] :: fgetsLines size rest := by
  have hroom : size - 1 = line.length := by omega
  have hpos : 0 < line.length := List.length_pos_of_ne_nil hne
  rw [fgetsLines, hroom, fgetsFrom_full hne hline]
  exact congrArg (line :: ·) (fgetsFrom_line List.not_mem_nil (by simpa [hroom] using hpos) rest)

/-! ## Words -/

/-- What is taken up to a character that stops it. -/
theorem takeWhile_stop {p : Char → Bool} {w : List Char} (hw : ∀ c ∈ w, p c = true) {c : Char}
    (hc : p c = false) (rest : List Char) : (w ++ c :: rest).takeWhile p = w := by
  rw [List.takeWhile_append_of_pos hw, List.takeWhile_cons, hc]
  exact List.append_nil w

/-- A character that stops what is taken may as well end the text. -/
theorem takeWhile_concat {p : Char → Bool} {c : Char} (hc : p c = false) (w : List Char) :
    (w ++ [c]).takeWhile p = w.takeWhile p := by
  rw [List.takeWhile_append]
  split_ifs with hall
  · rw [(List.takeWhile_prefix p).eq_of_length hall, List.takeWhile_cons, hc]
    exact List.append_nil w
  · rfl

/-- The tokens of a `strtok_r` loop. -/
def tokens (isDelim : Char → Bool) (s : List Char) : List (List Char) :=
  (s.splitOnP isDelim).filter (!·.isEmpty)

section Tokens

variable {isDelim : Char → Bool}

/-- A word before a delimiter is a token. -/
theorem tokens_word {w : List Char} (hne : w ≠ []) (hw : ∀ c ∈ w, isDelim c = false) {c : Char}
    (hc : isDelim c = true) (s : List Char) :
    tokens isDelim (w ++ c :: s) = w :: tokens isDelim s := by
  rw [tokens, List.splitOnP_append_cons_of_forall_mem hw c hc, List.filter_cons_of_pos]
  · rfl
  · simpa using hne

/-- A text that is one token. -/
def isWord (isDelim : Char → Bool) (w : List Char) : Bool := !w.isEmpty && w.all (!isDelim ·)

theorem isWord_iff {w : List Char} :
    isWord isDelim w = true ↔ w ≠ [] ∧ ∀ c ∈ w, isDelim c = false := by
  simp [isWord]

/-- A word is still one with more characters behind it. -/
theorem isWord_append {w t : List Char} (hw : isWord isDelim w = true)
    (ht : ∀ c ∈ t, isDelim c = false) :
    isWord isDelim (w ++ t) = true := by
  obtain ⟨hne, hall⟩ := isWord_iff.mp hw
  exact isWord_iff.mpr ⟨List.append_ne_nil_of_left_ne_nil hne t,
    List.forall_mem_append.mpr ⟨hall, ht⟩⟩

/-- Delimiters before a text add no token. -/
theorem tokens_gap {gap : List Char} (hgap : ∀ c ∈ gap, isDelim c = true) (s : List Char) :
    tokens isDelim (gap ++ s) = tokens isDelim s := by
  induction gap with
  | nil => rfl
  | cons c gap ih =>
    rw [← ih fun d hd => hgap d (List.mem_cons_of_mem c hd), tokens, List.cons_append,
      List.splitOnP_cons_eq_if_modifyHead, if_pos (hgap c List.mem_cons_self),
      List.filter_cons_of_neg]
    · rfl
    · exact Bool.false_ne_true

/-- The tokens of words with delimiters behind each of them are the words. -/
theorem tokens_rows {rows : List (List Char × List Char)}
    (hwords : ∀ row ∈ rows, isWord isDelim row.1 = true)
    (hgaps : ∀ row ∈ rows, row.2 ≠ [] ∧ ∀ c ∈ row.2, isDelim c = true) :
    tokens isDelim (rows.flatMap fun row => row.1 ++ row.2) = rows.map Prod.fst := by
  induction rows with
  | nil => rfl
  | cons row rows ih =>
    obtain ⟨w, gap⟩ := row
    obtain ⟨hword, hwords'⟩ := List.forall_mem_cons.mp hwords
    obtain ⟨⟨hgap, hdelims⟩, hgaps'⟩ := List.forall_mem_cons.mp hgaps
    obtain ⟨hne, hw⟩ := isWord_iff.mp hword
    obtain ⟨c, gap, rfl⟩ := List.exists_cons_of_ne_nil hgap
    obtain ⟨hc, hdelims⟩ := List.forall_mem_cons.mp hdelims
    rw [List.flatMap_cons, List.append_assoc, List.cons_append, tokens_word hne hw hc,
      tokens_gap hdelims, ih hwords' hgaps', List.map_cons]

/-- The tokens of words with a delimiter behind each of them are the words. -/
theorem tokens_flatMap {c : Char} (hc : isDelim c = true) {ws : List (List Char)}
    (hws : ws.all (isWord isDelim) = true) :
    tokens isDelim (ws.flatMap fun w => w ++ [c]) = ws := by
  have hrows : tokens isDelim ((ws.map fun w => (w, [c])).flatMap fun row => row.1 ++ row.2) =
      (ws.map fun w => (w, [c])).map Prod.fst := tokens_rows
    (List.forall_mem_map.mpr (List.all_eq_true.mp hws))
    (List.forall_mem_map.mpr fun w _ => ⟨List.cons_ne_nil c [], List.forall_mem_singleton.mpr hc⟩)
  rwa [List.flatMap_map, List.map_map, Function.comp_def, List.map_id'] at hrows

/-- Where a text goes on, its last piece does, and those before are the same. -/
theorem splitOnP_append (isDelim : Char → Bool) (s t : List Char) :
    ∃ init last, s.splitOnP isDelim = init ++ [last] ∧
      (s ++ t).splitOnP isDelim = init ++ (t.splitOnP isDelim).modifyHead (last ++ ·) := by
  induction s with
  | nil =>
    obtain ⟨piece, pieces, ht⟩ := List.exists_cons_of_ne_nil (List.splitOnP_ne_nil isDelim t)
    exact ⟨[], [], List.splitOnP_nil, by rw [List.nil_append, ht]; rfl⟩
  | cons c s ih =>
    obtain ⟨init, last, hs, hst⟩ := ih
    rw [List.cons_append, List.splitOnP_cons_eq_if_modifyHead,
      List.splitOnP_cons_eq_if_modifyHead, hs, hst]
    cases isDelim c with
    | true => exact ⟨[] :: init, last, rfl, rfl⟩
    | false =>
      cases init with
      | nil =>
        obtain ⟨piece, pieces, ht⟩ := List.exists_cons_of_ne_nil (List.splitOnP_ne_nil isDelim t)
        exact ⟨[], c :: last, rfl, by rw [ht]; rfl⟩
      | cons piece init => exact ⟨(c :: piece) :: init, last, rfl, rfl⟩

/-- A token of the start of a text is the start of a token of the text. -/
theorem exists_prefix_of_mem_tokens {s w : List Char} (h : w ∈ tokens isDelim s) (t : List Char) :
    ∃ w' ∈ tokens isDelim (s ++ t), w <+: w' := by
  obtain ⟨init, last, hs, hst⟩ := splitOnP_append isDelim s t
  obtain ⟨hmem, hne⟩ := List.mem_filter.mp h
  rw [hs] at hmem
  rcases List.mem_append.mp hmem with hinit | hlast
  · exact ⟨w, List.mem_filter.mpr ⟨hst ▸ List.mem_append_left _ hinit, hne⟩, List.prefix_refl w⟩
  · obtain rfl := List.mem_singleton.mp hlast
    obtain ⟨piece, pieces, ht⟩ := List.exists_cons_of_ne_nil (List.splitOnP_ne_nil isDelim t)
    have hpiece : w ++ piece ∈ (s ++ t).splitOnP isDelim := by
      rw [hst, ht]
      exact List.mem_append_right _ List.mem_cons_self
    refine ⟨w ++ piece, List.mem_filter.mpr ⟨hpiece, ?_⟩, List.prefix_append w piece⟩
    rw [Bool.not_eq_true', List.isEmpty_eq_false_iff] at hne ⊢
    exact List.append_ne_nil_of_left_ne_nil hne piece

end Tokens

/-- A text starts behind what is dropped with a character that is not. -/
theorem exists_cons_of_dropWhile {p : Char → Bool} {s : List Char} (hne : s.dropWhile p ≠ []) :
    ∃ c cs, s.dropWhile p = c :: cs ∧ p c = false := by
  obtain ⟨c, cs, hcs⟩ := List.exists_cons_of_ne_nil hne
  have hhead := List.head_dropWhile_not p hne
  simp only [hcs, List.head_cons] at hhead
  exact ⟨c, cs, hcs, hhead⟩

/-- `%Ns` of `sscanf`: the field that it reads, and the rest of the text. -/
def scanField (width : ℕ) (s : List Char) : Option (List Char × List Char) :=
  let s := s.dropWhile isSpace
  if s = [] then none
  else
    let field := (s.takeWhile (!isSpace ·)).take width
    some (field, s.drop field.length)

/-- A field is not empty, fits in its width, and has no white space. -/
theorem scanField_some {width : ℕ} (hwidth : 0 < width) {s field rest : List Char}
    (h : scanField width s = some (field, rest)) :
    field ≠ [] ∧ field.length ≤ width ∧ ∀ c ∈ field, isSpace c = false := by
  unfold scanField at h
  dsimp only at h
  split_ifs at h with hnil
  cases h
  refine ⟨?_, List.length_take_le _ _, fun c hc => ?_⟩
  · obtain ⟨c, cs, hcs, hc⟩ := exists_cons_of_dropWhile hnil
    rw [hcs, List.takeWhile_cons, hc]
    cases width with
    | zero => exact absurd hwidth (Nat.lt_irrefl 0)
    | succ width => simp
  · have := List.mem_takeWhile_imp (List.mem_of_mem_take hc)
    simpa using this

/-- A word that fits in the width is read up to the white space behind it. -/
theorem scanField_word {width : ℕ} {w : List Char} (hne : w ≠ []) (hw : ∀ c ∈ w, isSpace c = false)
    (hwidth : w.length ≤ width) {c : Char} (hc : isSpace c = true) (rest : List Char) :
    scanField width (w ++ c :: rest) = some (w, c :: rest) := by
  obtain ⟨d, ds, rfl⟩ := List.exists_cons_of_ne_nil hne
  have hdrop : (d :: ds ++ c :: rest).dropWhile isSpace = d :: ds ++ c :: rest :=
    List.dropWhile_cons_of_neg (by simp [hw d List.mem_cons_self])
  have htake : (d :: ds ++ c :: rest).takeWhile (!isSpace ·) = d :: ds :=
    takeWhile_stop (fun e he => by rw [hw e he]; rfl) (by rw [hc]; rfl) rest
  rw [scanField, hdrop]
  dsimp only
  rw [if_neg (by simp), htake, List.take_of_length_le hwidth, List.drop_left]

/-- `strstr`: the text from the first place on where `needle` stands in it. -/
def strstr (needle : List Char) : List Char → Option (List Char)
  | [] => if needle = [] then some [] else none
  | c :: s => if needle.isPrefixOf (c :: s) then some (c :: s) else strstr needle s

/-- `strstr(s, needle) != NULL`. -/
def contains (s needle : List Char) : Bool := (strstr needle s).isSome

/-- A text that `strstr` finds stands in the text. -/
theorem contains_iff {s needle : List Char} : contains s needle = true ↔ needle <:+: s := by
  rw [contains]
  induction s with
  | nil =>
    rw [strstr, List.infix_nil]
    split_ifs with hnil
    · exact iff_of_true rfl hnil
    · exact iff_of_false Bool.false_ne_true hnil
  | cons c s ih =>
    rw [strstr, List.infix_cons_iff]
    split_ifs with hpre
    · exact iff_of_true rfl (.inl (List.isPrefixOf_iff_prefix.mp hpre))
    · rw [ih, or_iff_right fun h => hpre (List.isPrefixOf_iff_prefix.mpr h)]

/-- `isspace` characters trimmed from the end of a text. -/
def trimEnd (s : List Char) : List Char := s.rdropWhile isSpace

/-! ## Numbers -/

/-- `ULLONG_MAX`. -/
def ullongMax : ℕ := UInt64.size - 1

/-- A sign at the start of a text: whether it is a minus, and the rest. -/
def sign : List Char → Bool × List Char
  | '-' :: s => (true, s)
  | '+' :: s => (false, s)
  | s => (false, s)

/-- The value of a conversion that found the number `n` behind a sign. -/
def clampSigned (negative : Bool) (n : ℕ) : ℕ :=
  if ullongMax < n then ullongMax
  else if negative then (UInt64.size - n) % UInt64.size
  else n

/-- `atoi`, of a number that an `int` holds. -/
def atoi (s : List Char) : ℤ :=
  let (negative, s) := sign (s.dropWhile isSpace)
  let n := Nat.ofDigitChars 10 (s.takeWhile Char.isDigit) 0
  if negative then -n else n

/-- `strtoull` in base 10; `none` when `*end` is the start of the text. -/
def strtoull (s : List Char) : Option ℕ :=
  let (negative, s) := sign (s.dropWhile isSpace)
  let digits := s.takeWhile Char.isDigit
  if digits = [] then none else some (clampSigned negative (Nat.ofDigitChars 10 digits 0))

/-- A text that starts with no sign is read as it is. -/
theorem sign_of_ne {c : Char} (hminus : c ≠ '-') (hplus : c ≠ '+') (s : List Char) :
    sign (c :: s) = (false, c :: s) := by
  rw [sign]
  · rintro s ⟨⟩
    exact hminus rfl
  · rintro s ⟨⟩
    exact hplus rfl

/-- The sign of a text does not depend on what comes after its first character. -/
theorem sign_append {s : List Char} (hs : s ≠ []) (t : List Char) :
    (sign (s ++ t)).2 = (sign s).2 ++ t := by
  obtain ⟨c, cs, rfl⟩ := List.exists_cons_of_ne_nil hs
  by_cases hminus : c = '-'
  · rw [hminus]
    rfl
  · by_cases hplus : c = '+'
    · rw [hplus]
      rfl
    · rw [List.cons_append, sign_of_ne hminus hplus, sign_of_ne hminus hplus]
      rfl

/-- A number at the start of a text is a number however the text goes on. -/
theorem isSome_strtoull_of_prefix {s t : List Char} (hpre : s <+: t) (hs : (strtoull s).isSome) :
    (strtoull t).isSome := by
  obtain ⟨u, rfl⟩ := hpre
  have hiff : ∀ s, (strtoull s).isSome ↔
      (sign (s.dropWhile isSpace)).2.takeWhile Char.isDigit ≠ [] := by
    intro s
    rw [strtoull]
    dsimp only
    split_ifs with h
    · exact iff_of_false Bool.false_ne_true (not_not_intro h)
    · exact iff_of_true rfl h
  rw [hiff] at hs ⊢
  have hne : s.dropWhile isSpace ≠ [] := fun hnil => hs (by rw [hnil]; rfl)
  have hdrop : (s ++ u).dropWhile isSpace = s.dropWhile isSpace ++ u := by
    rw [List.dropWhile_append, if_neg (by simpa using hne)]
  rw [hdrop, sign_append hne, List.takeWhile_append]
  split_ifs with hall
  · refine List.append_ne_nil_of_left_ne_nil ?_ _
    rwa [(List.takeWhile_prefix _).eq_of_length hall] at hs
  · exact hs

/-- A digit is no space. -/
theorem isSpace_of_isDigit {c : Char} (h : c.isDigit = true) : isSpace c = false := by
  cases hc : isSpace c with
  | false => rfl
  | true =>
    simp only [isSpace, Bool.or_eq_true, beq_iff_eq] at hc
    rcases hc with ((((rfl | rfl) | rfl) | rfl) | rfl) | rfl <;> exact absurd h (by decide)

/-- What the conversions see of digits. -/
theorem digits_read {digits : List Char} (hne : digits ≠ [])
    (hdigits : ∀ c ∈ digits, c.isDigit = true) :
    sign (digits.dropWhile isSpace) = (false, digits) ∧ digits.takeWhile Char.isDigit = digits := by
  obtain ⟨c, cs, hcs⟩ := List.exists_cons_of_ne_nil hne
  have hc : c.isDigit = true := hdigits c (hcs ▸ List.mem_cons_self)
  have hspace : digits.dropWhile isSpace = digits := by
    rw [hcs, List.dropWhile_cons_of_neg (by simp [isSpace_of_isDigit hc])]
  refine ⟨?_, List.takeWhile_eq_self_iff.mpr hdigits⟩
  rw [hspace, hcs]
  apply sign_of_ne
  · rintro rfl
    exact absurd hc (by decide)
  · rintro rfl
    exact absurd hc (by decide)

/-- A decimal integer with an optional sign, and its value. -/
inductive DecimalInteger : List Char → ℤ → Prop
  | unsigned {digits : List Char} (hne : digits ≠ []) (hdigits : ∀ c ∈ digits, c.isDigit = true) :
    DecimalInteger digits (Nat.ofDigitChars 10 digits 0)
  | plus {digits : List Char} (hne : digits ≠ []) (hdigits : ∀ c ∈ digits, c.isDigit = true) :
    DecimalInteger ('+' :: digits) (Nat.ofDigitChars 10 digits 0)
  | minus {digits : List Char} (hne : digits ≠ []) (hdigits : ∀ c ∈ digits, c.isDigit = true) :
    DecimalInteger ('-' :: digits) (-(Nat.ofDigitChars 10 digits 0 : ℕ))

namespace DecimalInteger

/-- A number that is printed in base 10. -/
theorem toDigits (n : ℕ) : DecimalInteger (Nat.toDigits 10 n) n := by
  have h : DecimalInteger (Nat.toDigits 10 n) (Nat.ofDigitChars 10 (Nat.toDigits 10 n) 0) :=
    unsigned Nat.toDigits_ne_nil fun _ hc => Nat.isDigit_of_mem_toDigits (by decide) (by decide) hc
  rwa [Nat.ofDigitChars_ten_toDigits] at h

variable {s : List Char} {n : ℤ}

/-- What the conversions see of a decimal integer. -/
theorem read (h : DecimalInteger s n) :
    ∃ negative digits, sign (s.dropWhile isSpace) = (negative, digits) ∧ digits ≠ [] ∧
      digits.takeWhile Char.isDigit = digits ∧
        n = if negative then -(Nat.ofDigitChars 10 digits 0 : ℤ)
          else (Nat.ofDigitChars 10 digits 0 : ℤ) := by
  cases h with
  | unsigned hne hdigits =>
    obtain ⟨hsign, htake⟩ := digits_read hne hdigits
    exact ⟨false, _, hsign, hne, htake, rfl⟩
  | plus hne hdigits => exact ⟨false, _, rfl, hne, (digits_read hne hdigits).2, rfl⟩
  | minus hne hdigits => exact ⟨true, _, rfl, hne, (digits_read hne hdigits).2, rfl⟩

/-- `atoi` reads back the number that a decimal text denotes. -/
theorem atoi (h : DecimalInteger s n) : CText.atoi s = n := by
  obtain ⟨negative, digits, hsign, -, htake, rfl⟩ := h.read
  rw [CText.atoi, hsign]
  dsimp only
  rw [htake]

/-- `strtoull` reads a negative integer modulo its range. -/
theorem strtoull (h : DecimalInteger s n) (hn : n.natAbs < UInt64.size) :
    CText.strtoull s = some (if n < 0 then UInt64.size - n.natAbs else n.natAbs) := by
  obtain ⟨negative, digits, hsign, hne, htake, rfl⟩ := h.read
  rw [CText.strtoull, hsign]
  dsimp only
  rw [htake, if_neg hne, clampSigned]
  obtain ⟨m, hm⟩ : ∃ m, Nat.ofDigitChars 10 digits 0 = m := ⟨_, rfl⟩
  rw [hm] at hn ⊢
  have hlt : m < UInt64.size := by split_ifs at hn <;> omega
  have hmax : m ≤ ullongMax := Nat.le_sub_one_of_lt hlt
  rw [if_neg (Nat.not_lt.mpr hmax)]
  cases negative with
  | false =>
    have hnot : ¬ (m : ℤ) < 0 := by omega
    rw [if_neg Bool.false_ne_true, if_neg Bool.false_ne_true, if_neg hnot, Int.natAbs_natCast]
  | true =>
    rcases Nat.eq_zero_or_pos m with rfl | hpos
    · rfl
    · have hneg : -(m : ℤ) < 0 := by omega
      rw [if_pos rfl, if_pos rfl, if_pos hneg, Int.natAbs_neg, Int.natAbs_natCast,
        Nat.mod_eq_of_lt (Nat.sub_lt (Nat.zero_lt_of_lt hlt) hpos)]

end DecimalInteger

/-- A number that is printed in base 10 is read back. -/
theorem strtoull_toDigits {n : ℕ} (hn : n < UInt64.size) :
    strtoull (Nat.toDigits 10 n) = some n := by
  rw [(DecimalInteger.toDigits n).strtoull (by rwa [Int.natAbs_natCast]),
    if_neg (by omega), Int.natAbs_natCast]

/-- So it is by `atoi`. -/
theorem atoi_toDigits (n : ℕ) : atoi (Nat.toDigits 10 n) = n := (DecimalInteger.toDigits n).atoi

/-- The digits of a number in base 16. -/
theorem mem_toDigits_hex {n : ℕ} {c : Char} (hc : c ∈ Nat.toDigits 16 n) :
    c ∈ "0123456789abcdef".toList := by
  have hdigit : ∀ d : Fin 16, Nat.digitChar d ∈ "0123456789abcdef".toList := by decide
  induction n using Nat.strongRecOn with
  | ind n ih =>
    rw [Nat.toDigits_eq_if (by decide)] at hc
    split_ifs at hc with hlt
    · obtain rfl := List.mem_singleton.mp hc
      exact hdigit ⟨n, hlt⟩
    · rcases List.mem_append.mp hc with hinit | hlast
      · exact ih (n / 16) (by omega) hinit
      · obtain rfl := List.mem_singleton.mp hlast
        exact hdigit ⟨n % 16, Nat.mod_lt _ (by decide)⟩

end CText
