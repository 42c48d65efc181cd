import Mathlib.Data.List.Basic

/-!
# Looking for a text in a line of words

A line is a list of words with a separator between them. A text without the separator stands in the
line when it stands in one of the words (`infix_joined`). A text that is a key, the separator and a
value stands in it where the key ends a word and the value starts the next one (`keyValue_joined`).
-/

namespace Words

variable {α : Type*}

/-- The words with `c` between them. -/
def joined (c : α) : List (List α) → List α
  | [] => []
  | [w] => w
  | w :: w' :: ws => w ++ c :: joined c (w' :: ws)

variable {c : α}

/-- The first word stands before the others, the separator between them. -/
theorem joined_cons_of_ne {ws : List (List α)} (h : ws ≠ []) (w : List α) :
    joined c (w :: ws) = w ++ c :: joined c ws := by
  cases ws with
  | nil => exact absurd rfl h
  | cons => rfl

/-- A character of the line is the separator, or stands in a word. -/
theorem mem_joined {ws : List (List α)} {d : α} (h : d ∈ joined c ws) :
    d = c ∨ ∃ w ∈ ws, d ∈ w := by
  induction ws with
  | nil => exact absurd h List.not_mem_nil
  | cons w ws ih =>
    cases ws with
    | nil => exact .inr ⟨w, List.mem_singleton_self w, h⟩
    | cons w' ws =>
      rw [joined_cons_of_ne (by simp)] at h
      rcases List.mem_append.mp h with hw | hrest
      · exact .inr ⟨w, List.mem_cons_self, hw⟩
      · rcases List.mem_cons.mp hrest with rfl | hrest
        · exact .inl rfl
        · exact (ih hrest).imp_right fun ⟨w, hw, hd⟩ => ⟨w, List.mem_cons_of_mem _ hw, hd⟩

/-! ## A text without the separator -/

section Word

variable {needle : List α}

/-- A text without the separator stands before it or behind it. -/
theorem infix_append_cons (hc : c ∉ needle) (a b : List α) :
    needle <:+: a ++ c :: b ↔ needle <:+: a ∨ needle <:+: b := by
  constructor
  · rw [List.infix_append_iff, List.infix_cons_iff]
    rintro (ha | (hpre | hb) | ⟨l₁, l₂, rfl, hl₁, hl₂⟩)
    · exact .inl ha
    · cases needle with
      | nil => exact .inl List.nil_infix
      | cons d needle =>
        exact absurd (List.cons_prefix_cons.mp hpre).1 fun heq => hc (heq ▸ List.mem_cons_self)
    · exact .inr hb
    · cases l₂ with
      | nil => exact .inl (by simpa using hl₁.isInfix)
      | cons d l₂ =>
        obtain ⟨rfl, -⟩ := List.cons_prefix_cons.mp hl₂
        exact absurd (List.mem_append_right _ List.mem_cons_self) hc
  · rintro (ha | hb)
    · exact List.infix_append_of_infix_left ha
    · exact List.infix_append_of_infix_right (List.infix_cons hb)

/-- A text without the separator is in the joined words exactly when it is in one of them. -/
theorem infix_joined (hc : c ∉ needle) {ws : List (List α)} (hne : ws ≠ []) :
    needle <:+: joined c ws ↔ ∃ w ∈ ws, needle <:+: w := by
  induction ws with
  | nil => exact absurd rfl hne
  | cons w ws ih =>
    cases ws with
    | nil => rw [joined, List.exists_mem_cons_iff]; simp
    | cons w' ws =>
      rw [joined_cons_of_ne (by simp), infix_append_cons hc, ih (by simp)]
      simp only [List.exists_mem_cons_iff]

/-- A text that starts with a word does so up to the separator. -/
theorem prefix_append_cons (hc : c ∉ needle) (a b : List α) :
    needle <+: a ++ c :: b ↔ needle <+: a := by
  constructor
  · rintro ⟨t, ht⟩
    rcases List.append_eq_append_iff.mp ht with ⟨as, rfl, -⟩ | ⟨bs, rfl, hbs⟩
    · exact List.prefix_append _ as
    · cases bs with
      | nil => simp
      | cons d bs =>
        obtain ⟨rfl, -⟩ := List.cons.inj hbs
        exact absurd (List.mem_append_right _ List.mem_cons_self) hc
  · exact fun h => h.trans (List.prefix_append _ _)

/-- A text without the separator starts the joined words exactly when it starts the first. -/
theorem prefix_joined (hc : c ∉ needle) (w : List α) (ws : List (List α)) :
    needle <+: joined c (w :: ws) ↔ needle <+: w := by
  cases ws with
  | nil => rfl
  | cons => exact prefix_append_cons hc w _

end Word

/-! ## A key with its value -/

section KeyValue

variable {k v : List α}

/-- A key with its value stands at the first separator, or behind it. -/
theorem keyValue_append_cons (hk : c ∉ k) {a : List α} (ha : c ∉ a) (b : List α) :
    k ++ c :: v <:+: a ++ c :: b ↔ (k <:+ a ∧ v <+: b) ∨ k ++ c :: v <:+: b := by
  constructor
  · rintro ⟨s, t, hst⟩
    rw [List.append_assoc, List.append_assoc, List.cons_append, ← List.append_assoc] at hst
    -- The separator of the text is the first one of the line, or a later one.
    rcases List.append_eq_append_iff.mp hst with ⟨as, has, hrest⟩ | ⟨bs, hbs, hrest⟩
    · cases as with
      | nil =>
        rw [List.append_nil] at has
        obtain ⟨-, rfl⟩ := List.cons.inj hrest
        exact .inl ⟨⟨s, has.symm⟩, List.prefix_append v t⟩
      | cons d as =>
        obtain ⟨rfl, -⟩ := List.cons.inj hrest
        rw [has] at ha
        exact absurd (List.mem_append_right _ List.mem_cons_self) ha
    · cases bs with
      | nil =>
        rw [List.append_nil] at hbs
        obtain ⟨-, rfl⟩ := List.cons.inj hrest
        exact .inl ⟨⟨s, hbs⟩, List.prefix_append v t⟩
      | cons d bs =>
        obtain ⟨rfl, rfl⟩ := List.cons.inj hrest
        -- The key has no separator, so that it is all behind the first one.
        rcases List.append_eq_append_iff.mp hbs with ⟨as, has, hkey⟩ | ⟨es, hes, hkey⟩
        · cases as with
          | nil =>
            rw [List.nil_append] at hkey
            rw [hkey] at hk
            exact absurd List.mem_cons_self hk
          | cons e as =>
            rw [hkey] at hk
            exact absurd (List.mem_append_right _ List.mem_cons_self) hk
        · cases es with
          | nil =>
            rw [List.nil_append] at hkey
            rw [← hkey] at hk
            exact absurd List.mem_cons_self hk
          | cons e es =>
            obtain ⟨-, rfl⟩ := List.cons.inj hkey
            exact .inr ⟨es, t, by simp⟩
  · rintro (⟨⟨s, rfl⟩, t, rfl⟩ | h)
    · exact ⟨s, t, by simp⟩
    · exact List.infix_append_of_infix_right (List.infix_cons h)

/-- A text with the separator does not stand in a word. -/
theorem not_keyValue_infix {a : List α} (ha : c ∉ a) : ¬ k ++ c :: v <:+: a := fun h =>
  ha (h.subset (List.mem_append_right _ List.mem_cons_self))

/-- Where no word ends with the key, it does not stand in the line with a value. -/
theorem not_keyValue_joined (hk : c ∉ k) {ws : List (List α)} (hwords : ∀ w ∈ ws, c ∉ w)
    (hends : ∀ w ∈ ws, ¬ k <:+ w) : ¬ k ++ c :: v <:+: joined c ws := by
  induction ws with
  | nil => exact fun h => not_keyValue_infix List.not_mem_nil h
  | cons w ws ih =>
    rw [List.forall_mem_cons] at hwords hends
    cases ws with
    | nil => exact not_keyValue_infix hwords.1
    | cons w' ws =>
      rw [joined_cons_of_ne (by simp), keyValue_append_cons hk hwords.1]
      rintro (⟨hend, -⟩ | hrest)
      · exact hends.1 hend
      · exact ih hwords.2 hends.2 hrest

/-- Where only one word ends with the key, the value starts the next word. -/
theorem keyValue_joined (hk : c ∉ k) (hv : c ∉ v) {pre post : List (List α)} {key value : List α}
    (hwords : ∀ w ∈ pre ++ key :: value :: post, c ∉ w) (hkey : k <:+ key)
    (hpre : ∀ w ∈ pre, ¬ k <:+ w) (hpost : ∀ w ∈ value :: post, ¬ k <:+ w) :
    k ++ c :: v <:+: joined c (pre ++ key :: value :: post) ↔ v <+: value := by
  induction pre with
  | nil =>
    rw [List.nil_append, List.forall_mem_cons] at hwords
    rw [List.nil_append, joined_cons_of_ne (by simp), keyValue_append_cons hk hwords.1,
      prefix_joined hv]
    constructor
    · rintro (⟨-, hvalue⟩ | hrest)
      · exact hvalue
      · exact absurd hrest (not_keyValue_joined hk hwords.2 hpost)
    · exact fun hvalue => .inl ⟨hkey, hvalue⟩
  | cons w pre ih =>
    rw [List.cons_append, List.forall_mem_cons] at hwords
    rw [List.forall_mem_cons] at hpre
    rw [List.cons_append, joined_cons_of_ne (by simp), keyValue_append_cons hk hwords.1,
      ih hwords.2 hpre.2, or_iff_right fun h => hpre.1 h.1]

end KeyValue

end Words
