import Lanspeed.Lib.CText
import Lanspeed.Lib.Words

/-!
# The fields of a line

The words of a line are its tokens between white space. A chain of `sscanf` conversions reads them
one after another: a `%Ns` that the word fits in reads the first word and leaves the others
(`scanField_words`), and so does a `%lu` where the word is a number (`scanUlong_words`).
-/

namespace CText

/-- The words of a line. -/
def words (s : List Char) : List (List Char) := tokens isSpace s

/-- `%lu` of `sscanf`: the number that it reads, and the rest of the text. -/
def scanUlong (s : List Char) : Option (ℕ × List Char) :=
  let (negative, s) := sign (s.dropWhile isSpace)
  let digits := s.takeWhile Char.isDigit
  if digits = [] then none
  else some (clampSigned negative (Nat.ofDigitChars 10 digits 0), s.drop digits.length)

/-! ## The first token -/

section Tokens

variable {isDelim : Char → Bool}

/-- A text without delimiters is its only token. -/
theorem tokens_last {w : List Char} (hne : w ≠ []) (hw : ∀ c ∈ w, isDelim c = false) :
    tokens isDelim w = [w] := by
  have hsplit : w.splitOnP isDelim = [w] := by
    induction w with
    | nil => exact absurd rfl hne
    | cons c w ih =>
      obtain ⟨hc, hw⟩ := List.forall_mem_cons.mp hw
      rw [List.splitOnP_cons_eq_if_modifyHead, if_neg (by simp [hc])]
      cases w with
      | nil => rfl
      | cons d w => rw [ih (List.cons_ne_nil d w) hw, List.modifyHead_cons]
  rw [tokens, hsplit, List.filter_cons_of_pos (by simpa using hne), List.filter_nil]

/-- A delimiter at the end adds no token. -/
theorem tokens_concat {c : Char} (hc : isDelim c = true) (s : List Char) :
    tokens isDelim (s ++ [c]) = tokens isDelim s := by
  obtain ⟨init, last, hs, hconcat⟩ := splitOnP_append isDelim s [c]
  have hsingle : [c].splitOnP isDelim = [[], []] := by
    rw [List.splitOnP_cons_eq_if_modifyHead, if_pos hc, List.splitOnP_nil]
  rw [tokens, tokens, hconcat, hs, hsingle, List.modifyHead_cons,
    List.append_nil, List.filter_append, List.filter_append]
  cases last <;> rfl

/-- A text starts, behind delimiters, with its first token, and the other tokens are those of what
follows. -/
theorem dropWhile_of_tokens_cons {s w : List Char} {ws : List (List Char)}
    (h : tokens isDelim s = w :: ws) :
    ∃ rest, s.dropWhile isDelim = w ++ rest ∧ tokens isDelim rest = ws ∧
      w ≠ [] ∧ (∀ c ∈ w, isDelim c = false) ∧
      ∀ c ∈ rest.head?, isDelim c = true := by
  have hgap : tokens isDelim (s.dropWhile isDelim) = w :: ws := by
    rw [← h, ← tokens_gap (fun c hc => List.mem_takeWhile_imp hc) (s.dropWhile isDelim),
      List.takeWhile_append_dropWhile]
  obtain ⟨first, hfirst⟩ : ∃ first, first = (s.dropWhile isDelim).takeWhile (!isDelim ·) := ⟨_, rfl⟩
  obtain ⟨rest, hrest⟩ : ∃ rest, rest = (s.dropWhile isDelim).dropWhile (!isDelim ·) := ⟨_, rfl⟩
  have hsplit : s.dropWhile isDelim = first ++ rest := by
    rw [hfirst, hrest, List.takeWhile_append_dropWhile]
  have hnone : s.dropWhile isDelim ≠ [] := by
    intro hnil
    rw [hnil] at hgap
    exact absurd hgap (List.cons_ne_nil w ws).symm
  have hne : first ≠ [] := by
    obtain ⟨c, cs, hcs, hc⟩ := exists_cons_of_dropWhile hnone
    rw [hfirst, hcs, List.takeWhile_cons, hc]
    exact List.cons_ne_nil _ _
  have hfree : ∀ c ∈ first, isDelim c = false := by
    intro c hc
    rw [hfirst] at hc
    simpa using List.mem_takeWhile_imp hc
  have hstop : ∀ c ∈ rest.head?, isDelim c = true := by
    intro c hc
    cases hend : rest with
    | nil => rw [hend] at hc; exact absurd hc (Option.not_mem_none c)
    | cons d rest' =>
      have hrestne : (s.dropWhile isDelim).dropWhile (!isDelim ·) ≠ [] := by
        rw [← hrest, hend]; simp
      obtain ⟨d', cs, hcs, hd⟩ := exists_cons_of_dropWhile hrestne
      rw [← hrest] at hcs
      rw [hcs, List.head?_cons, Option.mem_some_iff] at hc
      simpa [hc] using hd
  rw [hsplit] at hgap
  cases hrestEq : rest with
  | nil =>
    rw [hrestEq, List.append_nil, tokens_last hne hfree] at hgap
    obtain ⟨rfl, rfl⟩ := List.cons.inj hgap
    exact ⟨[],
      by rw [hsplit, hrestEq], rfl, hne, hfree, fun c hc => absurd hc (Option.not_mem_none c)⟩
  | cons d rest' =>
    have hd : isDelim d = true := hstop d (by rw [hrestEq]; rfl)
    rw [hrestEq, tokens_word hne hfree hd] at hgap
    obtain ⟨rfl, rfl⟩ := List.cons.inj hgap
    refine ⟨d :: rest', by rw [hsplit, hrestEq], ?_, hne, hfree, hrestEq ▸ hstop⟩
    have hgapd : ∀ c ∈ [d], isDelim c = true := List.forall_mem_singleton.mpr hd
    exact tokens_gap hgapd rest'

/-- The tokens of words with one delimiter between them are the words. -/
theorem tokens_joined {c : Char} (hc : isDelim c = true) {ws : List (List Char)}
    (hws : ∀ w ∈ ws, isWord isDelim w = true) : tokens isDelim (Words.joined c ws) = ws := by
  induction ws with
  | nil => rfl
  | cons w ws ih =>
    obtain ⟨hword, hws⟩ := List.forall_mem_cons.mp hws
    obtain ⟨hne, hw⟩ := isWord_iff.mp hword
    cases ws with
    | nil => exact tokens_last hne hw
    | cons w' ws =>
      rw [Words.joined_cons_of_ne (List.cons_ne_nil w' ws), tokens_word hne hw hc, ih hws]

/-- A text without tokens is nothing but delimiters. -/
theorem dropWhile_of_tokens_nil {s : List Char} (h : tokens isDelim s = []) :
    s.dropWhile isDelim = [] := by
  by_contra hne
  obtain ⟨c, cs, hcs, hc⟩ := exists_cons_of_dropWhile hne
  obtain ⟨piece, pieces, hsplit⟩ := List.exists_cons_of_ne_nil (List.splitOnP_ne_nil isDelim cs)
  rw [← List.takeWhile_append_dropWhile (p := isDelim) (l := s),
    tokens_gap fun c hc => List.mem_takeWhile_imp hc, hcs, tokens,
    List.splitOnP_cons_eq_if_modifyHead, if_neg (by simp [hc]),
    hsplit, List.modifyHead_cons, List.filter_cons_of_pos rfl] at h
  exact List.cons_ne_nil _ _ h

end Tokens

/-! ## The conversions -/

/-- What is taken from a text up to white space, or up to its end. -/
theorem takeWhile_of_stop {p : Char → Bool} {w rest : List Char} (hw : ∀ c ∈ w, p c = true)
    (hrest : ∀ c ∈ rest.head?, p c = false) : (w ++ rest).takeWhile p = w := by
  cases rest with
  | nil => rw [List.append_nil, List.takeWhile_eq_self_iff.mpr hw]
  | cons c rest => exact takeWhile_stop hw (hrest c rfl) rest

/-- A conversion that the first word fits in reads it, and leaves the other words. -/
theorem scanField_words {width : ℕ} {s w : List Char} {ws : List (List Char)}
    (h : words s = w :: ws)
    (hw : w.length ≤ width) : ∃ rest, scanField width s = some (w, rest) ∧ words rest = ws := by
  obtain ⟨rest, hdrop, hrest, hne, hfree, hstop⟩ := dropWhile_of_tokens_cons h
  have htake : (w ++ rest).takeWhile (!isSpace ·) = w :=
    takeWhile_of_stop (fun c hc => by rw [hfree c hc]; rfl) fun c hc => by rw [hstop c hc]; rfl
  refine ⟨rest, ?_, hrest⟩
  rw [scanField, hdrop]
  dsimp only
  rw [if_neg (List.append_ne_nil_of_left_ne_nil hne rest), htake,
    List.take_of_length_le hw, List.drop_left]

/-- Where there is no word left, a conversion fails. -/
theorem scanField_none {width : ℕ} {s : List Char} (h : words s = []) :
    scanField width s = none := by
  rw [scanField, dropWhile_of_tokens_nil h]
  rfl

/-- A first word of digits is read as a number. -/
theorem scanUlong_words {s w : List Char} {ws : List (List Char)} (h : words s = w :: ws)
    (hdigits : ∀ c ∈ w, c.isDigit = true) :
    ∃ n rest, scanUlong s = some (n, rest) ∧ words rest = ws := by
  obtain ⟨rest, hdrop, hrest, hne, -, hstop⟩ := dropWhile_of_tokens_cons h
  obtain ⟨c, cs, rfl⟩ := List.exists_cons_of_ne_nil hne
  have hc : c.isDigit = true := hdigits c List.mem_cons_self
  have hsign : sign (c :: cs ++ rest) = (false, c :: cs ++ rest) := by
    apply sign_of_ne
    · rintro rfl
      exact absurd hc (by decide)
    · rintro rfl
      exact absurd hc (by decide)
  have hspace : ∀ d ∈ rest.head?, d.isDigit = false := by
    intro d hd
    by_contra hdigit
    rw [Bool.not_eq_false] at hdigit
    exact absurd (hstop d hd) (by rw [isSpace_of_isDigit hdigit]; decide)
  have htake : (c :: cs ++ rest).takeWhile Char.isDigit = c :: cs :=
    takeWhile_of_stop hdigits hspace
  refine ⟨clampSigned false (Nat.ofDigitChars 10 (c :: cs) 0), rest, ?_, hrest⟩
  rw [scanUlong, hdrop, hsign]
  dsimp only
  rw [htake, if_neg (List.cons_ne_nil c cs), List.drop_left]

/-- A first word that starts with a letter is no number. -/
theorem scanUlong_none {s w : List Char} {ws : List (List Char)} (h : words s = w :: ws) {c : Char}
    (hc : c ∈ w.head?) (hdigit : c.isDigit = false) (hsign : c ≠ '-' ∧ c ≠ '+') :
    scanUlong s = none := by
  obtain ⟨rest, hdrop, -, -⟩ := dropWhile_of_tokens_cons h
  obtain ⟨w, rfl⟩ : ∃ cs, w = c :: cs := by
    cases w with
    | nil => exact absurd hc (Option.not_mem_none c)
    | cons d cs => exact ⟨cs, by rw [Option.some.inj hc]⟩
  rw [scanUlong, hdrop, List.cons_append, sign_of_ne hsign.1 hsign.2]
  dsimp only
  rw [List.takeWhile_cons, hdigit]
  rfl

/-! ## The lines of a file -/

/-- A file of lines. -/
def fileOf (lines : List (List Char)) : List Char := lines.flatMap fun line => line ++ ['\n']

/-- Lines that fit in the buffer are read one by one. -/
theorem fgetsLines_fileOf {size : ℕ} {lines : List (List Char)}
    (hlines : ∀ line ∈ lines, '\n' ∉ line) (hsize : ∀ line ∈ lines, line.length + 1 < size) :
    fgetsLines size (fileOf lines) = lines.map fun line => line ++ ['\n'] := by
  induction lines with
  | nil => rfl
  | cons line lines ih =>
    rw [List.forall_mem_cons] at hlines hsize
    rw [fileOf, List.flatMap_cons, List.append_assoc, List.singleton_append,
      fgetsLines_line hlines.1 hsize.1, ← fileOf, ih hlines.2 hsize.2, List.map_cons]

end CText
