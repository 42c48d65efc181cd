import Lanspeed.Inspect
import Lanspeed.Lib.Words

/-!
# Reading the output of tc

`inspect_tc_filter_lines` looks for texts in the lines of `tc filter show`. A line is made of words
(`ShownFilter.words`), and what stands in it is decided word by word: the pref and the handle are
compared only up to the length of the text that is looked for, and a name is looked for in the
handle, the id and the tag too. The flags are those that the fields call for unless a filter of one
of these kinds is shown (`readsExactly_iff`).
-/

namespace Lanspeed

open CText (contains)

/-! ## The lines of tc -/

/-- The flags of a shown bpf filter. -/
inductive ShownFlag where
  | skipHw
  | skipSw
  | inHw
  | notInHw
deriving DecidableEq, Repr

def ShownFlag.text : ShownFlag → CStr
  | .skipHw => "skip_hw".toList
  | .skipSw => "skip_sw".toList
  | .inHw => "in_hw".toList
  | .notInHw => "not_in_hw".toList

/-- A bpf filter as `tc filter show` shows it. The name of the program and the id in the brackets
are words. -/
structure ShownFilter where
  pref : UInt16
  handle : UInt32
  name : CStr
  id : CStr
  flags : List ShownFlag := []
  progId : Option ℕ := none
  tag : List UInt8
  jited : Bool := true
  name_word : name.all (!CText.isSpace ·) = true := by decide
  id_word : id.all (!CText.isSpace ·) = true := by decide

namespace ShownFilter

/-- `%x` of the handle. -/
def handleHex (f : ShownFilter) : CStr := Nat.toDigits 16 f.handle.toNat

/-- The digits of the tag. -/
def tagHex (f : ShownFilter) : CStr := f.tag.flatMap hexByte

/-- The word that names the program. -/
def program (f : ShownFilter) : CStr := f.name ++ ':' :: ('[' :: (f.id ++ [']']))

/-- The words behind the program. -/
def details (f : ShownFilter) : List CStr :=
  ["direct-action".toList] ++ f.flags.map ShownFlag.text ++
    (f.progId.toList.flatMap fun n => ["id".toList, decimal n]) ++
    ["tag".toList, f.tagHex] ++ if f.jited then ["jited".toList] else []

/-- The words of the line. -/
def words (f : ShownFilter) : List CStr :=
  ["filter".toList, "protocol".toList, "all".toList, "pref".toList,
    decimal f.pref.toNat, "bpf".toList,
    "chain".toList, "0".toList, "handle".toList, "0x".toList ++ f.handleHex, f.program] ++ f.details

/-- The line of the filter. -/
def line (f : ShownFilter) : CStr := Words.joined ' ' f.words

end ShownFilter

/-- What `tc filter show` writes for filters. -/
def shownFilters (filters : List ShownFilter) : CStr := filters.flatMap fun f => f.line ++ ['\n']

/-! ## The kinds of filters -/

namespace ShownFilter

/-- A text stands in the name of the program. -/
def Named (f : ShownFilter) (text : CStr) : Prop := text <:+: f.name

/-- The place of a filter of the daemon. -/
def AtOwnPlace (f : ShownFilter) : Prop :=
  (f.pref = 49152 ∧ f.handle = 0x1eed) ∨ (f.pref = 1 ∧ f.handle = 0x1eee)

/-- The digits of the place start like those of a place of the daemon. -/
def StartsLikeOwnPlace (f : ShownFilter) : Prop :=
  ("49152".toList <+: decimal f.pref.toNat ∧ "1eed".toList <+: f.handleHex) ∨
    ("1".toList <+: decimal f.pref.toNat ∧ "1eee".toList <+: f.handleHex)

/-- The filter comes before that of the daemon. -/
def Preempts (f : ShownFilter) : Prop := 0 < f.pref ∧ f.pref < 49152

/-- A foreign filter stands at a place of the daemon. -/
def Conflicts (f : ShownFilter) : Prop := ¬ f.Named "lanspeed".toList ∧ f.AtOwnPlace

/-- A filter of dae comes before that of the daemon. -/
def DaePreempts (f : ShownFilter) : Prop :=
  f.Named "dae".toList ∧ ¬ f.Named "lanspeed".toList ∧ f.Preempts

/-- Neither the name nor the id has the name of the daemon. -/
def Foreign (f : ShownFilter) : Prop := ¬ f.Named "lanspeed".toList ∧ ¬ "lanspeed".toList <:+: f.id

/-- The letters of dae stand somewhere else than in the name. -/
def DaeElsewhere (f : ShownFilter) : Prop :=
  "dae".toList <:+: f.id ∨ "dae".toList <:+: f.handleHex ∨ "dae".toList <:+: f.tagHex

end ShownFilter

/-- What the lines of the filters call for. -/
structure ReadsExactly (attach : List CStr) (ifname direction : CStr)
    (filters : List ShownFilter) (p : InspectedProbe) : Prop where
  conflict : (inspectTcFilterLines attach ifname direction
      (snprintf Router.commandOutputLimit (shownFilters filters)) p).tcFilterConflict = true ↔
    p.tcFilterConflict = true ∨ ∃ f ∈ filters, f.Conflicts
  preempts : (inspectTcFilterLines attach ifname direction
      (snprintf Router.commandOutputLimit (shownFilters filters)) p).daePreemptsBpfIngress = true ↔
    p.daePreemptsBpfIngress = true ∨
      ifname ∈ attach ∧ direction = "ingress".toList ∧ ∃ f ∈ filters, f.DaePreempts

/-! ## The words of a line -/

namespace ShownFilter

variable (f : ShownFilter)

/-- The digits of a handle and of a tag. -/
def hexDigits : CStr := "0123456789abcdef".toList

theorem mem_handleHex {c : Char} (h : c ∈ f.handleHex) : c ∈ hexDigits := CText.mem_toDigits_hex h

/-- The tag is written in hexadecimal digits. -/
theorem mem_tagHex {c : Char} (h : c ∈ f.tagHex) : c ∈ hexDigits := by
  have hdigit : ∀ i : Fin 16, hexDigit i ∈ hexDigits := by decide
  obtain ⟨b, -, hb⟩ := List.mem_flatMap.mp h
  exact forall_mem_hexByte hdigit b c hb

theorem isDigit_of_mem_decimal {n : ℕ} {c : Char} (h : c ∈ decimal n) : c.isDigit = true :=
  Nat.isDigit_of_mem_toDigits (by decide) (by decide) h

/-- A text with another character than digits is not of those of a number. -/
theorem not_subset_decimal {needle : CStr} (h : ∃ c ∈ needle, c.isDigit = false) (n : ℕ) :
    ¬ needle ⊆ decimal n := by
  obtain ⟨c, hc, hletter⟩ := h
  intro hsubset
  rw [isDigit_of_mem_decimal (hsubset hc)] at hletter
  exact absurd hletter (by decide)

/-- The words of tc behind the program. -/
def detailWords : List CStr :=
  ["direct-action".toList, "skip_hw".toList, "skip_sw".toList, "in_hw".toList, "not_in_hw".toList,
    "id".toList, "tag".toList, "jited".toList]

/-- What holds of the words of tc, of every number and of the tag holds of the details. -/
theorem forall_mem_details {P : CStr → Prop} (hwords : ∀ w ∈ detailWords, P w)
    (hdecimal : ∀ n, P (decimal n)) (htag : P f.tagHex) : ∀ w ∈ f.details, P w := by
  intro w hw
  simp only [details, List.mem_append, List.mem_map, List.mem_flatMap,
    List.mem_cons, List.not_mem_nil, or_false] at hw
  rcases hw with (((rfl | ⟨flag, -, rfl⟩) | ⟨n, -, rfl | rfl⟩) | (rfl | rfl)) | hjited
  · exact hwords _ (by decide)
  · exact hwords _ (by cases flag <;> decide)
  · exact hwords _ (by decide)
  · exact hdecimal n
  · exact hwords _ (by decide)
  · exact htag
  · split_ifs at hjited
    · obtain rfl := List.mem_singleton.mp hjited
      exact hwords _ (by decide)
    · exact absurd hjited List.not_mem_nil

/-- The words of tc in front of the details. -/
def leadingWords : List CStr :=
  ["filter".toList, "protocol".toList, "all".toList, "pref".toList, "bpf".toList, "chain".toList,
    "0".toList, "handle".toList]

/-- What holds of the words of tc, of every number, of the handle, the program and the tag holds of
all words of the line. -/
theorem forall_mem_words {P : CStr → Prop} (hleading : ∀ w ∈ leadingWords, P w)
    (hdetails : ∀ w ∈ detailWords, P w) (hdecimal : ∀ n, P (decimal n))
    (hhandle : P ("0x".toList ++ f.handleHex)) (hprogram : P f.program) (htag : P f.tagHex) :
    ∀ w ∈ f.words, P w := by
  refine List.forall_mem_append.mpr ⟨?_, f.forall_mem_details hdetails hdecimal htag⟩
  simp only [leadingWords, List.forall_mem_cons] at hleading
  obtain ⟨h1, h2, h3, h4, h5, h6, h7, h8, -⟩ := hleading
  simp only [List.forall_mem_cons]
  exact ⟨h1, h2, h3, h4, hdecimal _, h5, h6, h7, h8, hhandle, hprogram, by simp⟩

/-- The tag is a word of the line. -/
theorem tagHex_mem_words : f.tagHex ∈ f.words := by
  have hdetails : f.tagHex ∈ f.details := by simp [details]
  exact List.mem_append_right _ hdetails

/-- A word has no white space. -/
theorem isSpace_of_mem_words : ∀ w ∈ f.words, ∀ c ∈ w, CText.isSpace c = false := by
  have hfree : ∀ {w : CStr}, w.all (!CText.isSpace ·) = true →
      ∀ c ∈ w, CText.isSpace c = false := by
    intro w hw c hc
    simpa using List.all_eq_true.mp hw c hc
  have hleading : ∀ w ∈ leadingWords, w.all (!CText.isSpace ·) = true := by decide
  have hdetails : ∀ w ∈ detailWords, w.all (!CText.isSpace ·) = true := by decide
  have hhex : hexDigits.all (!CText.isSpace ·) = true := by decide
  refine f.forall_mem_words (P := fun w => ∀ c ∈ w, CText.isSpace c = false) ?_ ?_ ?_ ?_ ?_ ?_
  · exact fun w hw => hfree (hleading w hw)
  · exact fun w hw => hfree (hdetails w hw)
  · exact fun n c hc => CText.isSpace_of_isDigit (isDigit_of_mem_decimal hc)
  · intro c hc
    rcases List.mem_append.mp hc with hx | hhandle
    · exact hfree (by decide : "0x".toList.all (!CText.isSpace ·) = true) c hx
    · exact hfree hhex c (f.mem_handleHex hhandle)
  · have hmarks : [':', '[', ']'].all (!CText.isSpace ·) = true := by decide
    intro c hc
    simp only [program, List.mem_append, List.mem_cons, List.not_mem_nil, or_false] at hc
    rcases hc with hname | rfl | rfl | hid | rfl
    · exact hfree f.name_word c hname
    · exact hfree hmarks _ (by decide)
    · exact hfree hmarks _ (by decide)
    · exact hfree f.id_word c hid
    · exact hfree hmarks _ (by decide)
  · exact fun c hc => hfree hhex c (f.mem_tagHex hc)

theorem space_notMem_words : ∀ w ∈ f.words, ' ' ∉ w := fun w hw hmem =>
  absurd (f.isSpace_of_mem_words w hw ' ' hmem) (by decide)

/-- A line has no line break. -/
theorem newline_notMem_line : '\n' ∉ f.line := by
  intro hmem
  rcases Words.mem_joined hmem with heq | ⟨w, hw, hmem⟩
  · exact absurd heq (by decide)
  · exact absurd (f.isSpace_of_mem_words w hw '\n' hmem) (by decide)

/-! ## Texts in a line -/

/-- A text of letters that stands in no word of tc. -/
structure Distinctive (needle : CStr) : Prop where
  space   : ' ' ∉ needle
  marks   : ':' ∉ needle ∧ '[' ∉ needle ∧ ']' ∉ needle
  hex     : 'x' ∉ needle
  letter  : ∃ c ∈ needle, c.isDigit = false
  leading : ∀ w ∈ leadingWords, ¬ needle <:+: w
  details : ∀ w ∈ detailWords, ¬ needle <:+: w

variable {f} {needle : CStr}

theorem Distinctive.not_infix_decimal (h : Distinctive needle) (n : ℕ) :
    ¬ needle <:+: decimal n := fun hstands =>
  not_subset_decimal h.letter n hstands.subset

/-- A distinctive text is in the program exactly when it is in its name or in its id. -/
theorem Distinctive.infix_program_iff (h : Distinctive needle) :
    needle <:+: f.program ↔ f.Named needle ∨ needle <:+: f.id := by
  have hne : needle ≠ [] := by
    rintro rfl
    obtain ⟨c, hc, -⟩ := h.letter
    exact absurd hc List.not_mem_nil
  have hempty : ¬ needle <:+: [] := fun hstands => hne (List.infix_nil.mp hstands)
  rw [program, Words.infix_append_cons h.marks.1, ← List.nil_append ('[' :: _),
    Words.infix_append_cons h.marks.2.1, Words.infix_append_cons h.marks.2.2,
    or_iff_right hempty, or_iff_left hempty, Named]

/-- A distinctive text is in the handle exactly when it is in its digits. -/
theorem Distinctive.infix_handle_iff (h : Distinctive needle) :
    needle <:+: "0x".toList ++ f.handleHex ↔ needle <:+: f.handleHex := by
  have hzero : ¬ needle <:+: ['0'] := h.leading "0".toList (by decide)
  rw [show "0x".toList ++ f.handleHex = ['0'] ++ 'x' :: f.handleHex from rfl,
    Words.infix_append_cons h.hex, or_iff_right hzero]

/-- Where such a text stands in a line: in the name, in the id, or in the digits of the handle or
the tag. -/
theorem Distinctive.infix_line_iff (h : Distinctive needle) :
    needle <:+: f.line ↔
      f.Named needle ∨ needle <:+: f.id ∨ needle <:+: f.handleHex ∨ needle <:+: f.tagHex := by
  have hprogram : f.program ∈ f.words := by simp [words]
  have hhandle : "0x".toList ++ f.handleHex ∈ f.words := by simp [words]
  have htag : f.tagHex ∈ f.words := f.tagHex_mem_words
  rw [line, Words.infix_joined h.space (List.ne_nil_of_mem hprogram), ← or_assoc]
  constructor
  · rintro ⟨w, hw, hstands⟩
    revert w
    refine f.forall_mem_words (P := fun w => needle <:+: w →
      (f.Named needle ∨ needle <:+: f.id) ∨ needle <:+: f.handleHex ∨
      needle <:+: f.tagHex) ?_ ?_ ?_ ?_ ?_ ?_
    · exact fun w hw hstands => absurd hstands (h.leading w hw)
    · exact fun w hw hstands => absurd hstands (h.details w hw)
    · exact fun n hstands => absurd hstands (h.not_infix_decimal n)
    · exact fun hstands => .inr (.inl (h.infix_handle_iff.mp hstands))
    · exact fun hstands => .inl (h.infix_program_iff.mp hstands)
    · exact fun hstands => .inr (.inr hstands)
  · rintro (hname | hhex | hhex)
    · exact ⟨_, hprogram, h.infix_program_iff.mpr hname⟩
    · exact ⟨_, hhandle, h.infix_handle_iff.mpr hhex⟩
    · exact ⟨_, htag, hhex⟩

theorem distinctive_lanspeed : Distinctive "lanspeed".toList :=
  ⟨by decide, by decide, by decide, ⟨'l', by decide, by decide⟩,
    by decide +kernel, by decide +kernel⟩

theorem distinctive_dae : Distinctive "dae".toList :=
  ⟨by decide, by decide, by decide, ⟨'d', by decide, by decide⟩,
    by decide +kernel, by decide +kernel⟩

/-- A line has the name of the daemon exactly when the filter is not foreign. -/
theorem contains_lanspeed_iff : contains f.line "lanspeed".toList = true ↔ ¬ f.Foreign := by
  have hhandle : ¬ "lanspeed".toList <:+: f.handleHex := fun h =>
    absurd (f.mem_handleHex (h.subset (by decide : 'l' ∈ "lanspeed".toList))) (by decide)
  have htag : ¬ "lanspeed".toList <:+: f.tagHex := fun h =>
    absurd (f.mem_tagHex (h.subset (by decide : 'l' ∈ "lanspeed".toList))) (by decide)
  rw [CText.contains_iff, distinctive_lanspeed.infix_line_iff,
    Foreign, ← not_or, not_not, or_iff_left htag, or_iff_left hhandle]

theorem contains_dae_iff :
    contains f.line "dae".toList = true ↔ f.Named "dae".toList ∨ f.DaeElsewhere := by
  rw [CText.contains_iff, distinctive_dae.infix_line_iff, DaeElsewhere]

/-! ## The keys of a line -/

/-- A word of tc that only stands in front of its value. -/
structure IsKey (key : CStr) : Prop where
  space   : ' ' ∉ key
  letter  : ∃ c ∈ key, c ∉ 'x' :: hexDigits ∧ c.isDigit = false
  bracket : ']' ∉ key
  details : ∀ w ∈ detailWords, ¬ key <:+ w

variable {key : CStr}

/-- No decimal number ends in a key. -/
theorem IsKey.not_suffix_decimal (h : IsKey key) (n : ℕ) : ¬ key <:+ decimal n := by
  obtain ⟨c, hc, -, hletter⟩ := h.letter
  exact fun hends => not_subset_decimal ⟨c, hc, hletter⟩ n hends.subset

/-- No tag ends in a key. -/
theorem IsKey.not_suffix_tagHex (h : IsKey key) : ¬ key <:+ f.tagHex := by
  obtain ⟨c, hc, hhex, -⟩ := h.letter
  exact fun hsuffix => hhex (List.mem_cons_of_mem _ (f.mem_tagHex (hsuffix.subset hc)))

/-- No handle ends in a key. -/
theorem IsKey.not_suffix_handle (h : IsKey key) : ¬ key <:+ "0x".toList ++ f.handleHex := by
  obtain ⟨c, hc, hhex, -⟩ := h.letter
  intro hsuffix
  rcases List.mem_append.mp (hsuffix.subset hc) with hx | hhandle
  · exact hhex ((by decide : "0x".toList ⊆ 'x' :: hexDigits) hx)
  · exact hhex (List.mem_cons_of_mem _ (f.mem_handleHex hhandle))

/-- No program ends in a key. -/
theorem IsKey.not_suffix_program (h : IsKey key) : ¬ key <:+ f.program := by
  obtain ⟨c, hc, -⟩ := h.letter
  have hne : key ≠ [] := List.ne_nil_of_mem hc
  intro hsuffix
  have hlast : key.getLast hne = ']' := by
    rw [hsuffix.getLast hne]
    simp [program]
  exact h.bracket (hlast ▸ List.getLast_mem hne)

theorem IsKey.not_suffix_details (h : IsKey key) : ∀ w ∈ f.details, ¬ key <:+ w :=
  f.forall_mem_details h.details h.not_suffix_decimal h.not_suffix_tagHex

theorem isKey_pref : IsKey "pref".toList :=
  ⟨by decide, ⟨'p', by decide, by decide, by decide⟩, by decide, by decide⟩

theorem isKey_handle : IsKey "handle".toList :=
  ⟨by decide, ⟨'h', by decide, by decide, by decide⟩, by decide, by decide⟩

/-- A pref is compared up to the length of the digits that are looked for. -/
theorem infix_pref_iff {digits : CStr} (hdigits : ' ' ∉ digits) :
    "pref".toList ++ ' ' :: digits <:+: f.line ↔ digits <+: decimal f.pref.toNat := by
  have hpre : ∀ w ∈ ["filter".toList, "protocol".toList, "all".toList],
      ¬ "pref".toList <:+ w := by decide
  have hpost : ∀ w ∈ decimal f.pref.toNat :: ("bpf".toList :: "chain".toList :: "0".toList ::
      "handle".toList :: ("0x".toList ++ f.handleHex) :: f.program :: f.details),
      ¬ "pref".toList <:+ w := by
    simp only [List.forall_mem_cons]
    exact ⟨isKey_pref.not_suffix_decimal _, by decide, by decide, by decide, by decide,
      isKey_pref.not_suffix_handle, isKey_pref.not_suffix_program, isKey_pref.not_suffix_details⟩
  exact Words.keyValue_joined isKey_pref.space hdigits f.space_notMem_words
    List.suffix_rfl hpre hpost

/-- So is a handle. -/
theorem infix_handle_iff {value : CStr} (hvalue : ' ' ∉ value) :
    "handle".toList ++ ' ' :: value <:+: f.line ↔ value <+: "0x".toList ++ f.handleHex := by
  have hpre :
      ∀ w ∈ ["filter".toList, "protocol".toList, "all".toList, "pref".toList, decimal f.pref.toNat,
      "bpf".toList, "chain".toList, "0".toList], ¬ "handle".toList <:+ w := by
    simp only [List.forall_mem_cons]
    exact ⟨by decide, by decide, by decide, by decide, isKey_handle.not_suffix_decimal _,
      by decide, by decide, by decide, fun _ h => absurd h List.not_mem_nil⟩
  have hpost : ∀ w ∈ ("0x".toList ++ f.handleHex) :: f.program :: f.details,
      ¬ "handle".toList <:+ w := by
    simp only [List.forall_mem_cons]
    exact ⟨isKey_handle.not_suffix_handle, isKey_handle.not_suffix_program,
      isKey_handle.not_suffix_details⟩
  exact Words.keyValue_joined isKey_handle.space hvalue f.space_notMem_words
    List.suffix_rfl hpre hpost

variable (f)

/-! ## What a line is read as -/

/-- The handle of a daemon, written with or without `0x`. -/
theorem contains_handle_iff {rest : CStr} (hrest : ' ' ∉ rest) :
    (contains f.line ("handle 0x1".toList ++ rest) ||
      contains f.line ("handle 1".toList ++ rest)) = true ↔
      '1' :: rest <+: f.handleHex := by
  have hspace : ∀ {start : CStr}, ' ' ∉ start → ' ' ∉ start ++ '1' :: rest := by
    intro start hstart hmem
    rcases List.mem_append.mp hmem with h | h
    · exact hstart h
    · rcases List.mem_cons.mp h with h | h
      · exact absurd h (by decide)
      · exact hrest h
  have hwith : contains f.line ("handle 0x1".toList ++ rest) = true ↔
      '1' :: rest <+: f.handleHex := by
    rw [CText.contains_iff]
    refine (infix_handle_iff (f := f) (hspace (by decide : ' ' ∉ "0x".toList))).trans ?_
    rw [List.prefix_append_right_inj]
  have hwithout : contains f.line ("handle 1".toList ++ rest) ≠ true := by
    have hone : ' ' ∉ '1' :: rest := hspace (List.not_mem_nil : ' ' ∉ ([] : CStr))
    rw [ne_eq, CText.contains_iff]
    intro hstands
    have hprefix : '1' :: rest <+: '0' :: 'x' :: f.handleHex := (infix_handle_iff hone).mp hstands
    exact absurd (List.cons_prefix_cons.mp hprefix).1 (by decide)
  rw [Bool.or_eq_true, hwith, or_iff_left hwithout]

/-- A line reads as a conflict when the filter is foreign to the text search and starts like a place
of the daemon. -/
theorem lineContainsLanspeedFilterConflict_iff :
    lineContainsLanspeedFilterConflict f.line = true ↔ f.Foreign ∧ f.StartsLikeOwnPlace := by
  have hpref : ∀ {digits : CStr}, ' ' ∉ digits →
      (contains f.line ("pref ".toList ++ digits) = true ↔ digits <+: decimal f.pref.toNat) :=
    fun hdigits => CText.contains_iff.trans (infix_pref_iff hdigits)
  have hlanspeed : (!contains f.line "lanspeed".toList) = true ↔ f.Foreign := by
    rw [Bool.not_eq_true', ← Bool.not_eq_true, contains_lanspeed_iff, not_not]
  rw [lineContainsLanspeedFilterConflict, Bool.and_eq_true, Bool.or_eq_true,
    Bool.and_eq_true, Bool.and_eq_true, hlanspeed, StartsLikeOwnPlace]
  exact and_congr_right' (or_congr
    (and_congr (hpref (by decide : ' ' ∉ "49152".toList))
      (f.contains_handle_iff (by decide : ' ' ∉ "eed".toList)))
    (and_congr (hpref (by decide : ' ' ∉ "1".toList))
      (f.contains_handle_iff (by decide : ' ' ∉ "eee".toList))))

/-- The owner of a line is dae when its letters stand anywhere in it. -/
theorem tcFilterOwnerFromLine_eq_dae_iff :
    tcFilterOwnerFromLine f.line = "dae".toList ↔
      f.Foreign ∧ (f.Named "dae".toList ∨ f.DaeElsewhere) := by
  have hletters : (contains f.line "dae".toList || contains f.line "daed".toList ||
      contains f.line "dae0".toList) = contains f.line "dae".toList := by
    have hlonger : ∀ {c : Char}, contains f.line ("dae".toList ++ [c]) = true →
        contains f.line "dae".toList = true := fun h =>
      CText.contains_iff.mpr ((List.prefix_append _ _).isInfix.trans (CText.contains_iff.mp h))
    rw [Bool.or_assoc, Bool.or_eq_left_iff_imp, Bool.or_eq_true]
    exact fun h => h.elim hlonger hlonger
  rw [tcFilterOwnerFromLine, hletters, ← contains_dae_iff]
  by_cases hlanspeed : contains f.line "lanspeed".toList = true
  · rw [if_pos hlanspeed]
    exact ⟨fun h => absurd h (by decide), fun h => absurd h.1 (contains_lanspeed_iff.mp hlanspeed)⟩
  · have hforeign : f.Foreign := not_not.mp fun h => hlanspeed (contains_lanspeed_iff.mpr h)
    rw [if_neg hlanspeed, and_iff_right hforeign]
    split_ifs with hdae
    · exact iff_of_true rfl hdae
    all_goals exact iff_of_false (by decide) hdae

theorem line_eq :
    ∃ rest, f.line = "filter protocol all pref ".toList ++ (decimal f.pref.toNat ++ ' ' :: rest) :=
  ⟨_, rfl⟩

/-- The line of a filter is read as one. -/
theorem isFilterLine_line : isFilterLine f.line = true := by
  obtain ⟨rest, hline⟩ := f.line_eq
  have hprefix : "filter".toList <+: f.line := by
    rw [hline]
    exact (by decide : "filter".toList <+: "filter protocol all pref ".toList).trans
      (List.prefix_append _ _)
  rw [isFilterLine, CText.contains_iff.mpr hprefix.isInfix, Bool.true_or]

/-- The pref is read as it is. -/
theorem atoi_filterLineWord_pref :
    CText.atoi (filterLineWord f.line "pref ".toList) = f.pref.toNat := by
  obtain ⟨rest, hline⟩ := f.line_eq
  have hfound : CText.strstr "pref ".toList f.line =
      some ("pref ".toList ++ (decimal f.pref.toNat ++ ' ' :: rest)) := by
    rw [hline]
    rfl
  have hlength : (decimal f.pref.toNat).length ≤ 31 := by
    have hlt : f.pref.toNat < 10 ^ 31 := f.pref.toNat_lt.trans (by decide)
    exact (Nat.length_toDigits_le_iff (by decide) (by decide)).mpr hlt
  have hscan : CText.scanField 31 (decimal f.pref.toNat ++ ' ' :: rest) =
      some (decimal f.pref.toNat, ' ' :: rest) :=
    CText.scanField_word Nat.toDigits_ne_nil (fun c hc =>
      CText.isSpace_of_isDigit (isDigit_of_mem_decimal hc))
      hlength (by decide) rest
  rw [filterLineWord, hfound, Option.bind_some, List.drop_left, hscan]
  exact CText.atoi_toDigits _

end ShownFilter

/-! ## The flags -/

/-- The lines of the output are those of the filters. -/
theorem outputLines_shownFilters (filters : List ShownFilter) :
    outputLines (shownFilters filters) = filters.map ShownFilter.line := by
  have hwords : (filters.map ShownFilter.line).all (CText.isWord (· == '\n')) = true := by
    rw [List.all_map, List.all_eq_true]
    intro f _
    obtain ⟨rest, hline⟩ := f.line_eq
    refine CText.isWord_iff.mpr ⟨fun hnil => ?_, fun c hc => ?_⟩
    · rw [hline] at hnil
      exact absurd hnil (List.append_ne_nil_of_left_ne_nil (by decide) _)
    · exact beq_eq_false_iff_ne.mpr fun hnewline => f.newline_notMem_line (hnewline ▸ hc)
  have hlines : shownFilters filters =
      (filters.map ShownFilter.line).flatMap fun w => w ++ ['\n'] := by
    rw [shownFilters, List.flatMap_map]
  rw [hlines, outputLines, CText.tokens_flatMap (by decide) hwords]

/-- Whether the line of a filter sets the flag for dae. -/
def readsAsPreempting (attach : List CStr) (ifname direction line : CStr) : Bool :=
  isFilterLine line && (tcFilterOwnerFromLine line == "dae".toList &&
    (attach.contains ifname && !ifname.isEmpty) &&
    direction == "ingress".toList && decide (0 < CText.atoi (filterLineWord line "pref ".toList)) &&
      decide (CText.atoi (filterLineWord line "pref ".toList) < 49152))

section Flags

variable (attach : List CStr) (ifname direction : CStr) (p : InspectedProbe)

/-- The conflict is raised by the lines of filters that conflict. -/
theorem tcFilterConflict_inspectTcFilterLines (output : CStr) :
    (inspectTcFilterLines attach ifname direction output p).tcFilterConflict =
      (p.tcFilterConflict ||
        (outputLines output).any fun line => isFilterLine line &&
        lineContainsLanspeedFilterConflict line) := by
  refine Loop.foldl_flag (fun p : InspectedProbe => p.tcFilterConflict) (fun p line => ?_) p _
  cases hfilter : isFilterLine line <;> simp [inspectTcFilterLine, hfilter]

/-- The flag of a preempting dae is raised by the lines that read so. -/
theorem daePreempts_inspectTcFilterLines (output : CStr) :
    (inspectTcFilterLines attach ifname direction output p).daePreemptsBpfIngress =
      (p.daePreemptsBpfIngress ||
        (outputLines output).any (readsAsPreempting attach ifname direction)) := by
  refine Loop.foldl_flag (fun p : InspectedProbe => p.daePreemptsBpfIngress) (fun p line => ?_) p _
  cases hfilter : isFilterLine line <;> simp [inspectTcFilterLine, readsAsPreempting, hfilter]

end Flags

/-- The line of a filter reads as preempting on the ingress of an attached interface, for a foreign
filter with the letters of dae before that of the daemon. -/
theorem ShownFilter.readsAsPreempting_line_iff (f : ShownFilter)
    {attach : List CStr} (hattach : [] ∉ attach) (ifname direction : CStr) :
    readsAsPreempting attach ifname direction f.line = true ↔
      ifname ∈ attach ∧ direction = "ingress".toList ∧
        f.Foreign ∧ (f.Named "dae".toList ∨ f.DaeElsewhere) ∧ f.Preempts := by
  have hlisted : (attach.contains ifname && !ifname.isEmpty) = true ↔ ifname ∈ attach := by
    rw [Bool.and_eq_true, List.contains_iff_mem, Bool.not_eq_true', List.isEmpty_eq_false_iff]
    exact and_iff_left_of_imp fun hmem hnil => hattach (hnil ▸ hmem)
  have hpref : (0 < CText.atoi (filterLineWord f.line "pref ".toList) ∧
      CText.atoi (filterLineWord f.line "pref ".toList) < 49152) ↔ f.Preempts := by
    rw [f.atoi_filterLineWord_pref, Preempts, UInt16.lt_iff_toNat_lt, UInt16.lt_iff_toNat_lt]
    exact and_congr Int.natCast_pos (Int.ofNat_lt (m := 49152))
  simp only [readsAsPreempting, f.isFilterLine_line, Bool.true_and,
    Bool.and_eq_true, decide_eq_true_eq, beq_iff_eq, f.tcFilterOwnerFromLine_eq_dae_iff]
  rw [← Bool.and_eq_true, hlisted, and_assoc, hpref]
  constructor
  · rintro ⟨⟨⟨⟨hforeign, hdae⟩, hmem⟩, hdirection⟩, hpreempts⟩
    exact ⟨hmem, hdirection, hforeign, hdae, hpreempts⟩
  · rintro ⟨hmem, hdirection, hforeign, hdae, hpreempts⟩
    exact ⟨⟨⟨⟨hforeign, hdae⟩, hmem⟩, hdirection⟩, hpreempts⟩

/-- The shown filters do not hide one of these from the text search, and none reads as one that is
not there. -/
structure NotMisread (attach : List CStr) (ifname direction : CStr) (filters : List ShownFilter)
    (p : InspectedProbe) : Prop where
  /-- A foreign filter whose place starts like one of the daemon stands next to one that is at it.
  -/
  place     : p.tcFilterConflict = false → ∀ f ∈ filters, f.Foreign → f.StartsLikeOwnPlace →
    ∃ g ∈ filters, g.Conflicts
  /-- A filter at a place of the daemon whose id has the name of the daemon stands next to one that
  reads as a conflict. -/
  hidden    : p.tcFilterConflict = false → ∀ f ∈ filters, f.Conflicts →
    "lanspeed".toList <:+: f.id →
    ∃ g ∈ filters, g.Foreign ∧ g.StartsLikeOwnPlace
  /-- A filter with the letters of dae outside of its name stands next to one of dae. -/
  dae       : p.daePreemptsBpfIngress = false → ifname ∈ attach → direction = "ingress".toList →
    ∀ f ∈ filters, f.Foreign → f.DaeElsewhere → f.Preempts → ∃ g ∈ filters, g.DaePreempts
  /-- A filter of dae whose id has the name of the daemon stands next to one that reads as one of
  dae. -/
  hiddenDae : p.daePreemptsBpfIngress = false → ifname ∈ attach → direction = "ingress".toList →
    ∀ f ∈ filters, f.DaePreempts → "lanspeed".toList <:+: f.id →
      ∃ g ∈ filters, g.Foreign ∧ (g.Named "dae".toList ∨ g.DaeElsewhere) ∧ g.Preempts

/-- A filter at a place of the daemon starts like it. -/
theorem ShownFilter.AtOwnPlace.starts {f : ShownFilter} (h : f.AtOwnPlace) :
    f.StartsLikeOwnPlace := by
  rcases h with ⟨hpref, hhandle⟩ | ⟨hpref, hhandle⟩
  · rw [StartsLikeOwnPlace, handleHex, hpref, hhandle]
    exact .inl (by decide)
  · rw [StartsLikeOwnPlace, handleHex, hpref, hhandle]
    exact .inr (by decide)

/-- A flag that filters of one kind raise is the one that those of another kind call for when there
is one of each kind or none of both. -/
theorem raised_iff_raised {flag : Bool} {filters : List ShownFilter}
    {reads calls : ShownFilter → Prop} :
    ((flag = true ∨ ∃ f ∈ filters, reads f) ↔ (flag = true ∨ ∃ f ∈ filters, calls f)) ↔
      (flag = false → ∀ f ∈ filters, reads f → ∃ g ∈ filters, calls g) ∧
        (flag = false → ∀ f ∈ filters, calls f → ∃ g ∈ filters, reads g) := by
  cases flag with
  | true => simp
  | false =>
    simp only [Bool.false_eq_true, false_or, true_imp_iff]
    exact ⟨fun h => ⟨fun f hf hreads => h.mp ⟨f, hf, hreads⟩,
      fun f hf hcalls => h.mpr ⟨f, hf, hcalls⟩⟩,
      fun h => ⟨fun ⟨f, hf, hreads⟩ => h.1 f hf hreads, fun ⟨f, hf, hcalls⟩ => h.2 f hf hcalls⟩⟩

section Reading

variable {attach : List CStr} {ifname direction : CStr} {filters : List ShownFilter}
    (p : InspectedProbe)

/-- The filters that are shown raise the conflict exactly when a foreign one is at a place that
starts like one of the daemon's. -/
theorem conflict_shownFilters_iff :
    (inspectTcFilterLines attach ifname direction (shownFilters filters) p).tcFilterConflict
        = true ↔
      p.tcFilterConflict = true ∨ ∃ f ∈ filters, f.Foreign ∧ f.StartsLikeOwnPlace := by
  rw [tcFilterConflict_inspectTcFilterLines, outputLines_shownFilters,
    Bool.or_eq_true, List.any_map, List.any_eq_true]
  simp only [Function.comp_apply, ShownFilter.isFilterLine_line, Bool.true_and,
    ShownFilter.lineContainsLanspeedFilterConflict_iff]

/-- The filters that are shown raise the flag exactly when a foreign one with the letters of dae
comes before that of the daemon. -/
theorem preempts_shownFilters_iff (hattach : [] ∉ attach) :
    (inspectTcFilterLines attach ifname direction (shownFilters filters) p).daePreemptsBpfIngress
        = true ↔
      p.daePreemptsBpfIngress = true ∨ ∃ f ∈ filters, ifname ∈ attach ∧
        direction = "ingress".toList ∧
        f.Foreign ∧ (f.Named "dae".toList ∨ f.DaeElsewhere) ∧ f.Preempts := by
  rw [daePreempts_inspectTcFilterLines, outputLines_shownFilters,
    Bool.or_eq_true, List.any_map, List.any_eq_true]
  simp only [Function.comp_apply, ShownFilter.readsAsPreempting_line_iff _ hattach]

/-- The flag for the conflict is the one that the filters call for when the first two kinds are not
shown. -/
theorem conflict_exact_iff :
    ((inspectTcFilterLines attach ifname direction (shownFilters filters) p).tcFilterConflict
          = true ↔
        p.tcFilterConflict = true ∨ ∃ f ∈ filters, f.Conflicts) ↔
      (p.tcFilterConflict = false → ∀ f ∈ filters, f.Foreign → f.StartsLikeOwnPlace →
          ∃ g ∈ filters, g.Conflicts) ∧
        (p.tcFilterConflict = false → ∀ f ∈ filters, f.Conflicts → "lanspeed".toList <:+: f.id →
          ∃ g ∈ filters, g.Foreign ∧ g.StartsLikeOwnPlace) := by
  rw [conflict_shownFilters_iff, raised_iff_raised]
  refine and_congr (by simp only [and_imp]) (forall_congr' fun _ => forall₂_congr fun f hf => ?_)
  refine ⟨fun h hcalls _ => h hcalls, fun h hcalls => ?_⟩
  by_cases hid : "lanspeed".toList <:+: f.id
  · exact h hcalls hid
  · exact ⟨f, hf, ⟨hcalls.1, hid⟩, hcalls.2.starts⟩

/-- The flag for dae is the one that the filters call for when the last two kinds are not shown. -/
theorem preempts_exact_iff (hattach : [] ∉ attach) :
    ((inspectTcFilterLines attach ifname direction (shownFilters filters) p).daePreemptsBpfIngress
          = true ↔
        p.daePreemptsBpfIngress = true ∨
          ifname ∈ attach ∧ direction = "ingress".toList ∧ ∃ f ∈ filters, f.DaePreempts) ↔
      (p.daePreemptsBpfIngress = false → ifname ∈ attach → direction = "ingress".toList →
          ∀ f ∈ filters, f.Foreign → f.DaeElsewhere → f.Preempts → ∃ g ∈ filters, g.DaePreempts) ∧
        (p.daePreemptsBpfIngress = false → ifname ∈ attach → direction = "ingress".toList →
          ∀ f ∈ filters, f.DaePreempts → "lanspeed".toList <:+: f.id →
            ∃ g ∈ filters, g.Foreign ∧ (g.Named "dae".toList ∨ g.DaeElsewhere) ∧ g.Preempts) := by
  rw [preempts_shownFilters_iff p hattach]
  by_cases hwatched : ifname ∈ attach ∧ direction = "ingress".toList
  · obtain ⟨hifname, hdirection⟩ := hwatched
    simp only [hifname, hdirection, true_and, true_imp_iff]
    rw [raised_iff_raised]
    refine and_congr (forall_congr' fun _ => forall₂_congr fun f hf => ?_)
      (forall_congr' fun _ => forall₂_congr fun f hf => ?_)
    · refine ⟨fun h hforeign helse hpre => h ⟨hforeign, .inr helse, hpre⟩, fun h hreads => ?_⟩
      obtain ⟨hforeign, hnamed | helse, hpre⟩ := hreads
      · exact ⟨f, hf, hnamed, hforeign.1, hpre⟩
      · exact h hforeign helse hpre
    · refine ⟨fun h hcalls _ => h hcalls, fun h hcalls => ?_⟩
      by_cases hid : "lanspeed".toList <:+: f.id
      · exact h hcalls hid
      · exact ⟨f, hf, ⟨hcalls.2.1, hid⟩, .inl hcalls.1, hcalls.2.2⟩
  · have hnone : ¬ ∃ f ∈ filters, ifname ∈ attach ∧ direction = "ingress".toList ∧
        f.Foreign ∧ (f.Named "dae".toList ∨ f.DaeElsewhere) ∧ f.Preempts :=
      fun ⟨f, _, hifname, hdirection, _⟩ => hwatched ⟨hifname, hdirection⟩
    have hcalls :
        ¬(ifname ∈ attach ∧ direction = "ingress".toList ∧ ∃ f ∈ filters, f.DaePreempts) :=
      fun ⟨hifname, hdirection, _⟩ => hwatched ⟨hifname, hdirection⟩
    rw [or_iff_left hnone, or_iff_left hcalls]
    exact iff_of_true Iff.rfl ⟨fun _ hifname hdirection => absurd ⟨hifname, hdirection⟩ hwatched,
      fun _ hifname hdirection => absurd ⟨hifname, hdirection⟩ hwatched⟩

end Reading

theorem nil_notMem_loadIfaceLists (cfg : IfaceOptions) :
    [] ∉ (loadIfaceLists cfg).attach := fun hmem =>
  absurd ((attachList_loadIfaceLists cfg).names [] hmem).recommended (by decide)

/-- The output of tc is read exactly when no shown filter is misread: for every list of filters
whose lines fit in the buffer. -/
theorem readsExactly_iff (cfg : IfaceOptions) (ifname direction : CStr) (filters : List ShownFilter)
    (p : InspectedProbe) (hfits : (shownFilters filters).length < Router.commandOutputLimit) :
    ReadsExactly (loadIfaceLists cfg).attach ifname direction filters p ↔
      NotMisread (loadIfaceLists cfg).attach ifname direction filters p := by
  have hattach := nil_notMem_loadIfaceLists cfg
  constructor
  · rintro ⟨hconflict, hpreempts⟩
    rw [snprintf_of_fits hfits] at hconflict hpreempts
    obtain ⟨place, hidden⟩ := (conflict_exact_iff p).mp hconflict
    obtain ⟨dae, hiddenDae⟩ := (preempts_exact_iff p hattach).mp hpreempts
    exact ⟨place, hidden, dae, hiddenDae⟩
  · rintro ⟨place, hidden, dae, hiddenDae⟩
    constructor
    · rw [snprintf_of_fits hfits]
      exact (conflict_exact_iff p).mpr ⟨place, hidden⟩
    · rw [snprintf_of_fits hfits]
      exact (preempts_exact_iff p hattach).mpr ⟨dae, hiddenDae⟩

/-- The options that attach to `lan1`. -/
def attachToLan1 : IfaceOptions := ⟨some (.list ["lan1".toList]), none, none⟩

/-- A filter of the daemon and one of dae in front of it. -/
def daeInFront : List ShownFilter :=
  [{ pref := 2, handle := 1, name := "dae_lan_ingress".toList,
     id := "*fsobj".toList, tag := [0x3b, 0x18] },
    { pref := 49152, handle := 0x1eed, name := "lanspeed_ingress".toList,
      id := "*fsobj".toList, tag := [0x9a, 0x02] }]

/-- They are read exactly. -/
theorem readsExactly_daeInFront :
    (shownFilters daeInFront).length < Router.commandOutputLimit ∧
      (ReadsExactly (loadIfaceLists attachToLan1).attach "lan1".toList
        "ingress".toList daeInFront {} ↔
        NotMisread (loadIfaceLists attachToLan1).attach "lan1".toList "ingress".toList
          daeInFront {}) :=
  have hfits : (shownFilters daeInFront).length < Router.commandOutputLimit := by decide +kernel
  ⟨hfits, readsExactly_iff attachToLan1 "lan1".toList "ingress".toList daeInFront {} hfits⟩

/-- A filter of another program with pref 10, whose handle is that of the daemon for pref 1. -/
def otherPref : ShownFilter :=
  { pref := 10, handle := 0x1eee, name := "shaper".toList, id := "*fsobj".toList,
    tag := [0x3b, 0x18] }

/-- It reads as a conflict. -/
theorem not_readsExactly_otherPref :
    ¬ ReadsExactly (loadIfaceLists attachToLan1).attach "lan1".toList "ingress".toList
      [otherPref] {} := by
  have hfits : (shownFilters [otherPref]).length < Router.commandOutputLimit := by decide +kernel
  have hforeign : otherPref.Foreign :=
    ⟨by unfold ShownFilter.Named; decide +kernel, by decide +kernel⟩
  have hstarts : otherPref.StartsLikeOwnPlace := .inr ⟨by decide, by decide⟩
  have hplace : ¬ otherPref.AtOwnPlace := by
    rintro (⟨hpref, -⟩ | ⟨hpref, -⟩) <;> exact absurd hpref (by decide)
  intro h
  have hread := h.conflict
  rw [snprintf_of_fits hfits, conflict_shownFilters_iff] at hread
  rcases hread.mp (.inr ⟨otherPref, List.mem_singleton_self _, hforeign, hstarts⟩)
    with hset | ⟨f, hf, hconflicts⟩
  · exact absurd hset (by decide)
  · obtain rfl := List.mem_singleton.mp hf
    exact hplace hconflicts.2

end Lanspeed
