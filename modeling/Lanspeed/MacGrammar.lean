import Lanspeed.Arp

/-!
# The grammar of MAC addresses

A MAC text is six octets of two hexadecimal digits, in either case, with colons between them
(`DenotesMac`). In lower case it is the text that is printed for its address (`hexOctets_iff`). So
`valid_mac_address` accepts the texts of the unicast addresses that are not zero and no others, and
`valid_client_mac` accepts the same addresses as bytes (`valid_addresses_agree`).
-/

namespace Lanspeed

/-! ## The grammar -/

/-- A hexadecimal digit in either case, and its value. -/
def IsHexDigit (c : Char) (v : ℕ) : Prop :=
  "0123456789abcdef".toList[v]? = some c ∨ "0123456789ABCDEF".toList[v]? = some c

instance (c : Char) (v : ℕ) : Decidable (IsHexDigit c v) := inferInstanceAs (Decidable (_ ∨ _))

/-- Octets of two digits with colons between them, and their values. -/
inductive HexOctets : CStr → List UInt8 → Prop
  | last {high low : Char} {b : UInt8} (hhigh : IsHexDigit high (b.toNat / 16))
    (hlow : IsHexDigit low (b.toNat % 16)) : HexOctets [high, low] [b]
  | cons {high low : Char} {b : UInt8} {s : CStr} {bs : List UInt8}
      (hhigh : IsHexDigit high (b.toNat / 16))
    (hlow : IsHexDigit low (b.toNat % 16)) (hrest : HexOctets s bs) :
    HexOctets (high :: low :: ':' :: s) (b :: bs)

/-- A text is that of an address. -/
def DenotesMac (s : CStr) (mac : Mac) : Prop := HexOctets s mac.bytes

/-- The address of one station. -/
def Mac.Unicast (mac : Mac) : Prop := mac.b0 &&& 0x01 = 0

/-- A text is that of a unicast address that is not zero. -/
def DenotesClientMac (s : CStr) : Prop :=
  ∃ mac, DenotesMac s mac ∧ mac.Unicast ∧ mac ≠ ⟨0, 0, 0, 0, 0, 0⟩

/-! ## Characters -/

/-- A character as a digit: in lower case it is the one that is printed, and the daemon's test and
value are those of a digit. -/
structure DigitFacts (c : Char) : Prop where
  lower : ∀ v : Fin 16, c.toLower = hexDigit v ↔ IsHexDigit c v
  value : isxdigit c = true → hexDigitValue c < 16 ∧ IsHexDigit c (hexDigitValue c)

instance (c : Char) : Decidable (DigitFacts c) :=
  decidable_of_iff
    ((∀ v : Fin 16, c.toLower = hexDigit v ↔ IsHexDigit c v) ∧
      (isxdigit c = true → hexDigitValue c < 16 ∧ IsHexDigit c (hexDigitValue c)))
    ⟨fun ⟨h1, h2⟩ => ⟨h1, h2⟩, fun ⟨h1, h2⟩ => ⟨h1, h2⟩⟩

set_option maxRecDepth 10000 in
theorem digitFacts_ofFin : ∀ n : Fin 128, DigitFacts (Char.ofNat n) := by decide +kernel

/-- A hexadecimal digit is an ASCII character. -/
theorem ascii_of_isHexDigit {c : Char} {v : ℕ} (h : IsHexDigit c v) : c.toNat < 128 := by
  have hdigits : ("0123456789abcdef".toList ++ "0123456789ABCDEF".toList).all (·.toNat < 128) =
      true := by decide
  have hmem : c ∈ "0123456789abcdef".toList ++ "0123456789ABCDEF".toList :=
    List.mem_append.mpr (h.imp List.mem_of_getElem? List.mem_of_getElem?)
  exact of_decide_eq_true (List.all_eq_true.mp hdigits c hmem)

/-- What the daemon and the grammar say of a character agrees. -/
theorem digitFacts (c : Char) : DigitFacts c := by
  by_cases hascii : c.toNat < 128
  · exact ascii_of_fin digitFacts_ofFin hascii
  · have hprinted : ∀ v : Fin 16, (hexDigit v).toNat < 128 := by decide
    refine ⟨fun v => ?_, fun hx => ?_⟩
    · rw [toLower_of_not_ascii hascii]
      exact iff_of_false (fun heq => hascii (heq ▸ hprinted v)) fun h =>
        hascii (ascii_of_isHexDigit h)
    · rw [isxdigit_of_not_ascii hascii] at hx
      exact absurd hx Bool.false_ne_true

/-! ## Texts in lower case -/

/-- The octets as they are printed, with colons between them. -/
def octetText : List UInt8 → CStr
  | [] => []
  | [b] => hexByte b
  | b :: bs => hexByte b ++ ':' :: octetText bs

/-- Two characters are the digits of a byte when they are in lower case. -/
theorem isHexDigit_pair_iff {high low : Char} {b : UInt8} :
    IsHexDigit high (b.toNat / 16) ∧ IsHexDigit low (b.toNat % 16) ↔
      [high.toLower, low.toLower] = hexByte b := by
  have hb := b.toNat_lt
  have hhigh := (digitFacts high).lower ⟨b.toNat / 16, by omega⟩
  have hlow := (digitFacts low).lower ⟨b.toNat % 16, by omega⟩
  rw [hexByte, List.cons.injEq, List.cons.injEq, and_iff_left rfl]
  exact (and_congr hhigh hlow).symm

/-- A text that starts, in lower case, with the digits that are printed for a byte. -/
theorem exists_digits_of_map {s t : CStr} {b : UInt8} (h : s.map Char.toLower = hexByte b ++ t) :
    ∃ high low rest, s = high :: low :: rest ∧ IsHexDigit high
      (b.toNat / 16) ∧ IsHexDigit low (b.toNat % 16) ∧
      rest.map Char.toLower = t := by
  change s.map Char.toLower = hexDigit (b.toNat / 16) :: hexDigit (b.toNat % 16) :: t at h
  obtain ⟨high, s, rfl, hhigh, h⟩ := List.map_eq_cons_iff.mp h
  obtain ⟨low, s, rfl, hlow, h⟩ := List.map_eq_cons_iff.mp h
  have hpair : [high.toLower, low.toLower] = hexByte b := by rw [hhigh, hlow, hexByte]
  obtain ⟨hhigh, hlow⟩ := isHexDigit_pair_iff.mpr hpair
  exact ⟨high, low, s, rfl, hhigh, hlow, h⟩

/-- The text of two bytes or more starts with the first one and a colon. -/
theorem octetText_cons {b : UInt8} {bs : List UInt8} (h : bs ≠ []) :
    octetText (b :: bs) = hexByte b ++ ':' :: octetText bs := by
  obtain ⟨b', bs, rfl⟩ := List.exists_cons_of_ne_nil h
  rfl

/-- A text of octets is, in lower case, the text that is printed for them. -/
theorem hexOctets_iff {s : CStr} {bs : List UInt8} :
    HexOctets s bs ↔ bs ≠ [] ∧ s.map Char.toLower = octetText bs := by
  constructor
  · intro h
    induction h with
    | last hhigh hlow => exact ⟨List.cons_ne_nil _ _, isHexDigit_pair_iff.mp ⟨hhigh, hlow⟩⟩
    | cons hhigh hlow hrest ih =>
      obtain ⟨hne, htext⟩ := ih
      refine ⟨List.cons_ne_nil _ _, ?_⟩
      rw [octetText_cons hne, ← htext, ← isHexDigit_pair_iff.mp ⟨hhigh, hlow⟩]
      rfl
  · rintro ⟨hne, htext⟩
    induction bs generalizing s with
    | nil => exact absurd rfl hne
    | cons b bs ih =>
      by_cases hrest : bs = []
      · subst hrest
        have hlast : s.map Char.toLower = hexByte b ++ [] := htext
        obtain ⟨high, low, rest, rfl, hhigh, hlow, hnil⟩ := exists_digits_of_map hlast
        obtain rfl := List.map_eq_nil_iff.mp hnil
        exact .last hhigh hlow
      · rw [octetText_cons hrest] at htext
        obtain ⟨high, low, rest, rfl, hhigh, hlow, hcons⟩ := exists_digits_of_map htext
        obtain ⟨colon, rest, rfl, hcolon, htail⟩ := List.map_eq_cons_iff.mp hcons
        obtain rfl : colon = ':' := by simpa [hcolon] using (tests_toLower colon).2.1
        exact .cons hhigh hlow (ih hrest htail)

theorem macText_eq (mac : Mac) : macText mac = octetText mac.bytes := rfl

/-- A text is that of an address when it is, in lower case, the one that is printed. -/
theorem denotesMac_iff {s : CStr} {mac : Mac} :
    DenotesMac s mac ↔ normalizeMacAddress s = macText mac := by
  rw [DenotesMac, hexOctets_iff, macText_eq]
  exact and_iff_right (List.cons_ne_nil _ _)

/-! ## Texts by position -/

/-- What is chosen by a place modulo three is chosen alike behind an octet with its separator. -/
theorem filter_zipIdx_three {p : ℕ → Bool} (hp : ∀ i, p (3 + i) = p i) (s : CStr) :
    ((s.zipIdx 3).filter fun q => p q.2).map Prod.fst =
      (s.zipIdx.filter fun q => p q.2).map Prod.fst := by
  have hshift :
      (fun q : Char × ℕ => p q.2) ∘ (fun q : Char × ℕ => (q.1, 3 + q.2)) = fun q => p q.2 := by
    funext q
    exact hp q.2
  rw [List.zipIdx_eq_map_add, List.filter_map, List.map_map]
  exact congrArg (fun keep => (s.zipIdx.filter keep).map Prod.fst) hshift

/-- The third character of a group is a separator. -/
theorem macSeparators_group (d0 d1 c : Char) (rest : CStr) :
    macSeparators (d0 :: d1 :: c :: rest) = c :: macSeparators rest := by
  have hrest :=
    filter_zipIdx_three (p := fun i => (i + 1) % 3 == 0) (fun i => by simp [Nat.add_assoc]) rest
  rw [macSeparators, macSeparators, ← hrest]
  simp [List.zipIdx_cons]

/-- The first two characters of a group are digits. -/
theorem macDigits_group (d0 d1 c : Char) (rest : CStr) :
    macDigits (d0 :: d1 :: c :: rest) = d0 :: d1 :: macDigits rest := by
  have hrest :=
    filter_zipIdx_three (p := fun i => (i + 1) % 3 != 0) (fun i => by simp [Nat.add_assoc]) rest
  rw [macDigits, macDigits, ← hrest]
  simp [List.zipIdx_cons]

/-- The byte of two digits. -/
theorem exists_byte {high low : Char} (hhigh : isxdigit high = true) (hlow : isxdigit low = true) :
    ∃ b : UInt8, IsHexDigit high (b.toNat / 16) ∧ IsHexDigit low (b.toNat % 16) := by
  obtain ⟨hhigh16, hhigh⟩ := (digitFacts high).value hhigh
  obtain ⟨hlow16, hlow⟩ := (digitFacts low).value hlow
  refine ⟨UInt8.ofNat (hexDigitValue high * 16 + hexDigitValue low), ?_⟩
  have hvalue : (UInt8.ofNat (hexDigitValue high * 16 + hexDigitValue low)).toNat =
      hexDigitValue high * 16 + hexDigitValue low := by
    rw [UInt8.toNat_ofNat', Nat.mod_eq_of_lt (by omega)]
  rw [hvalue]
  constructor
  · rwa [show (hexDigitValue high * 16 + hexDigitValue low) / 16 = hexDigitValue high by omega]
  · rwa [show (hexDigitValue high * 16 + hexDigitValue low) % 16 = hexDigitValue low by omega]

/-- A text with its colons and its digits in their places is one of octets. -/
theorem exists_hexOctets (n : ℕ) {s : CStr} (hlen : s.length = 3 * n + 2)
    (hseparators : ∀ c ∈ macSeparators s, c = ':')
    (hdigits : ∀ c ∈ macDigits s, isxdigit c = true) :
    ∃ bs, bs.length = n + 1 ∧ HexOctets s bs := by
  induction n generalizing s with
  | zero =>
    obtain ⟨high, low, rfl⟩ := List.length_eq_two.mp hlen
    have hpair : macDigits [high, low] = [high, low] := rfl
    rw [hpair, List.forall_mem_cons, List.forall_mem_singleton] at hdigits
    obtain ⟨b, hhigh, hlow⟩ := exists_byte hdigits.1 hdigits.2
    exact ⟨[b], rfl, .last hhigh hlow⟩
  | succ n ih =>
    match s, hlen with
    | high :: low :: colon :: rest, hlen =>
      rw [macSeparators_group, List.forall_mem_cons] at hseparators
      rw [macDigits_group, List.forall_mem_cons, List.forall_mem_cons] at hdigits
      obtain ⟨rfl, hseparators⟩ := hseparators
      obtain ⟨hhigh, hlow, hdigits⟩ := hdigits
      obtain ⟨b, hhigh, hlow⟩ := exists_byte hhigh hlow
      simp only [List.length_cons] at hlen
      obtain ⟨bs, hlength, hrest⟩ := ih (by omega) hseparators hdigits
      exact ⟨b :: bs, by rw [List.length_cons, hlength], .cons hhigh hlow hrest⟩

/-- Six bytes are those of an address. -/
theorem exists_bytes_eq {bs : List UInt8} (h : bs.length = 6) : ∃ mac : Mac, mac.bytes = bs := by
  obtain ⟨b0, bs, rfl⟩ := List.exists_cons_of_length_eq_add_one h
  obtain ⟨b1, bs, rfl⟩ := List.exists_cons_of_length_eq_add_one (Nat.succ.inj h)
  obtain ⟨b2, bs, rfl⟩ := List.exists_cons_of_length_eq_add_one (Nat.succ.inj (Nat.succ.inj h))
  obtain ⟨b3, b4, b5, rfl⟩ := List.length_eq_three.mp (Nat.succ.inj (Nat.succ.inj (Nat.succ.inj h)))
  exact ⟨⟨b0, b1, b2, b3, b4, b5⟩, rfl⟩

/-- A valid text is that of an address. -/
theorem exists_denotesMac {s : CStr} (h : validMacAddress s = true) : ∃ mac, DenotesMac s mac := by
  rcases s with _ | ⟨high, _ | ⟨low, rest⟩⟩
  · exact absurd h Bool.false_ne_true
  · exact absurd h Bool.false_ne_true
  · simp only [validMacAddress, Bool.and_eq_true, List.all_eq_true, beq_iff_eq] at h
    obtain ⟨⟨⟨⟨⟨⟨⟨hlen, -⟩, -⟩, -⟩, hseparators⟩, hdigits⟩, -⟩, -⟩ := h
    obtain ⟨bs, hlength, hoctets⟩ := exists_hexOctets 5 hlen hseparators hdigits
    obtain ⟨mac, rfl⟩ := exists_bytes_eq hlength
    exact ⟨mac, hoctets⟩

/-! ## The two validators -/

/-- The datapath accepts the unicast addresses that are not zero: one that is all ones is not
unicast. -/
theorem validClientMac_iff (mac : Mac) :
    validClientMac mac = true ↔ mac.Unicast ∧ mac ≠ ⟨0, 0, 0, 0, 0, 0⟩ := by
  have hzero : mac.bytes.any (· != 0) = true ↔ mac ≠ ⟨0, 0, 0, 0, 0, 0⟩ := by
    cases mac
    simp only [Mac.bytes, List.any_cons, List.any_nil, Bool.or_false,
      Bool.or_eq_true, bne_iff_ne, ne_eq, Mac.mk.injEq]
    tauto
  have hones : mac.Unicast → mac.bytes.any (· != 0xff) = true := by
    intro hunicast
    have hfirst : mac.b0 ≠ 0xff := by
      intro hff
      rw [Mac.Unicast, hff] at hunicast
      exact absurd hunicast (by decide)
    exact List.any_eq_true.mpr ⟨mac.b0, List.mem_cons_self, bne_iff_ne.mpr hfirst⟩
  rw [validClientMac, Bool.and_eq_true, Bool.and_eq_true, beq_iff_eq, hzero]
  exact and_iff_left_of_imp fun h => hones h.1

/-- A text is valid when it is that of an address which the datapath accepts. -/
theorem validMacAddress_iff (s : CStr) : validMacAddress s = true ↔ DenotesClientMac s := by
  have hvalid {mac : Mac} (hmac : DenotesMac s mac) : validMacAddress s = validClientMac mac := by
    rw [← validMacAddress_normalizeMacAddress, denotesMac_iff.mp hmac, validMacAddress_macText]
  constructor
  · intro h
    obtain ⟨mac, hmac⟩ := exists_denotesMac h
    exact ⟨mac, hmac, (validClientMac_iff mac).mp ((hvalid hmac).symm.trans h)⟩
  · rintro ⟨mac, hmac, hclient⟩
    exact (hvalid hmac).trans ((validClientMac_iff mac).mpr hclient)

/-- A normalized text denotes the address that the text denotes. -/
theorem denotesMac_normalizeMacAddress {s : CStr} {mac : Mac} :
    DenotesMac (normalizeMacAddress s) mac ↔ DenotesMac s mac := by
  rw [denotesMac_iff, denotesMac_iff, normalizeMacAddress_idem]

/-- The datapath and the daemon accept the same addresses: `valid_client_mac` those whose text
`valid_mac_address` accepts, and the latter the texts of unicast addresses that are not zero, in
either case and with the same address in lower case. -/
theorem valid_addresses_agree :
    (∀ mac, validClientMac mac = true ↔ validMacAddress (macText mac) = true) ∧
      (∀ s, validMacAddress s = true ↔ DenotesClientMac s) ∧
      (∀ s, DenotesClientMac (normalizeMacAddress s) ↔ DenotesClientMac s) ∧
      ∀ s mac, DenotesMac (normalizeMacAddress s) mac ↔ DenotesMac s mac :=
  ⟨fun mac => by rw [validMacAddress_macText], validMacAddress_iff,
    fun _ => exists_congr fun _ => and_congr_left' denotesMac_normalizeMacAddress,
    fun _ _ => denotesMac_normalizeMacAddress⟩

end Lanspeed
