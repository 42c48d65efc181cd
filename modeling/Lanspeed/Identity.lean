import Mathlib.Data.List.Basic
import Mathlib.Data.List.Nodup
import Mathlib.Tactic.Common

/-!
# Texts and client identities

A text buffer of the daemon is its list of characters without the terminating NUL. A client is a MAC
address in a zone. The datapath checks addresses as six bytes (`validClientMac`), the daemon checks
the text it prints from them (`validMacAddress`); `validMacAddress_macText` says that the two tests
agree. The zone is derived from the interface name, and the interfaces that may carry clients are
chosen by name.
-/

namespace Lanspeed

/-- A C string, without its terminating NUL. -/
abbrev CStr := List Char

instance decidableMemCStr (s : CStr) (l : List CStr) : Decidable (s ∈ l) :=
  List.instDecidableMemOfLawfulBEq s l

/-- `snprintf(buf, size, "%s", s)`: the text is cut to leave room for the NUL. -/
def snprintf (size : ℕ) (s : CStr) : CStr := s.take (size - 1)

theorem snprintf_of_fits {size : ℕ} {s : CStr} (h : s.length < size) : snprintf size s = s :=
  List.take_of_length_le (by omega)

/-- A text that was cut leaves room for the NUL. -/
theorem length_snprintf_lt {size : ℕ} (h : 0 < size) (s : CStr) :
    (snprintf size s).length < size := by
  simp only [snprintf, List.length_take]
  omega

/-- `!strncmp(s, pre, strlen(pre))`. -/
def startsWith (s pre : CStr) : Bool := pre.isPrefixOf s

/-- A cut text starts with what fits in it as the whole text does. -/
theorem startsWith_snprintf {size : ℕ} {pre : CStr} (hpre : pre.length ≤ size - 1) (s : CStr) :
    startsWith (snprintf size s) pre = startsWith s pre := by
  rw [Bool.eq_iff_iff, startsWith, startsWith, snprintf, List.isPrefixOf_iff_prefix,
    List.isPrefixOf_iff_prefix, List.prefix_take_iff]
  exact and_iff_left hpre

/-- `isxdigit`. -/
def isxdigit (c : Char) : Bool :=
  ('0' ≤ c && c ≤ '9') || ('a' ≤ c && c ≤ 'f') || ('A' ≤ c && c ≤ 'F')

/-- The value of one hexadecimal digit, as `strtoul` in base 16 reads it. -/
def hexDigitValue (c : Char) : ℕ :=
  if '0' ≤ c ∧ c ≤ '9' then c.toNat - '0'.toNat
  else if 'a' ≤ c ∧ c ≤ 'f' then c.toNat - 'a'.toNat + 10
  else c.toNat - 'A'.toNat + 10

/-- `%x` of a number below 16. -/
def hexDigit (n : ℕ) : Char := "0123456789abcdef".toList.getD n '0'

/-- `%02x` of a byte. -/
def hexByte (b : UInt8) : CStr := [hexDigit (b.toNat / 16), hexDigit (b.toNat % 16)]

/-- What holds of the sixteen digits holds of the characters of a byte. -/
theorem forall_mem_hexByte {P : Char → Prop} (hdigit : ∀ i : Fin 16, P (hexDigit i)) (b : UInt8) :
    ∀ c ∈ hexByte b, P c := by
  have hb := b.toNat_lt
  exact List.forall_mem_cons.mpr
    ⟨hdigit ⟨b.toNat / 16, by omega⟩,
      List.forall_mem_singleton.mpr (hdigit ⟨b.toNat % 16, by omega⟩)⟩

/-- `%u`. -/
def decimal (n : ℕ) : CStr := Nat.toDigits 10 n

/-- The direction of a client's traffic: what it sends, and what it receives. -/
inductive Direction where
  | tx
  | rx
deriving DecidableEq, Repr

/-- `DEFAULT_MAX_CLIENTS`. -/
def defaultMaxClients : ℕ := 2048

/-- `MAC_STR_LEN`. -/
def macStrLen : ℕ := 18

/-- `IFNAME_STR_LEN`. -/
def ifnameStrLen : ℕ := 32

/-- `ZONE_STR_LEN`. -/
def zoneStrLen : ℕ := 32

/-- `IDENTITY_KEY_STR_LEN`. -/
def identityKeyStrLen : ℕ := 80

/-- `IP_STR_LEN`. -/
def ipStrLen : ℕ := 46

/-- `MAX_CLIENT_IPS`. -/
def maxClientIps : ℕ := 4

/-! ## MAC addresses -/

/-- The six bytes of an Ethernet address. -/
structure Mac where
  b0 : UInt8
  b1 : UInt8
  b2 : UInt8
  b3 : UInt8
  b4 : UInt8
  b5 : UInt8
deriving DecidableEq, Repr

/-- The bytes in transmission order. -/
def Mac.bytes (m : Mac) : List UInt8 := [m.b0, m.b1, m.b2, m.b3, m.b4, m.b5]

/-- `valid_client_mac`: unicast, not all zero, not all ones. -/
def validClientMac (mac : Mac) : Bool :=
  mac.b0 &&& 0x01 == 0 && mac.bytes.any (· != 0) && mac.bytes.any (· != 0xff)

/-- The address printed with `%02x:%02x:%02x:%02x:%02x:%02x`. -/
def macText (mac : Mac) : CStr :=
  hexByte mac.b0 ++ ':' :: hexByte mac.b1 ++ ':' :: hexByte mac.b2 ++
    ':' :: hexByte mac.b3 ++ ':' :: hexByte mac.b4 ++ ':' :: hexByte mac.b5

/-- The characters of a MAC text at the positions that are not separators (`(i + 1) % 3 != 0`). -/
def macDigits (mac : CStr) : CStr :=
  (mac.zipIdx.filter fun p => (p.2 + 1) % 3 != 0).map Prod.fst

/-- The characters of a MAC text at the separator positions (`(i + 1) % 3 == 0`). -/
def macSeparators (mac : CStr) : CStr :=
  (mac.zipIdx.filter fun p => (p.2 + 1) % 3 == 0).map Prod.fst

/-- `valid_mac_address`. -/
def validMacAddress (mac : CStr) : Bool :=
  match mac with
  | d0 :: d1 :: _ =>
    mac.length == 17 && isxdigit d0 && isxdigit d1 &&
      (hexDigitValue d0 * 16 + hexDigitValue d1) &&& 0x01 == 0 &&
      (macSeparators mac).all (· == ':') && (macDigits mac).all isxdigit &&
      (macDigits mac).any (· != '0') && (macDigits mac).any (fun c => c.toLower != 'f')
  | _ => false

theorem length_macText (mac : Mac) : (macText mac).length = 17 := rfl

/-- The text of an address starts with the two digits of its first byte. -/
theorem macText_cons (mac : Mac) :
    macText mac = hexDigit (mac.b0.toNat / 16) :: hexDigit (mac.b0.toNat % 16) ::
      (macText mac).drop 2 := rfl

/-- The separators of a printed address are colons. -/
theorem macSeparators_macText (mac : Mac) :
    macSeparators (macText mac) = [':', ':', ':', ':', ':'] := by
  simp [macSeparators, macText, hexByte, List.zipIdx]

/-- The digits of a printed address are those of its bytes. -/
theorem macDigits_macText (mac : Mac) :
    macDigits (macText mac) = mac.bytes.flatMap hexByte := by
  simp [macDigits, macText, hexByte, List.zipIdx, Mac.bytes, List.filter]

/-- What the daemon's digit tests see of one byte. -/
structure HexByteFacts (b : UInt8) : Prop where
  xdigit : (hexByte b).all isxdigit = true
  low_bit : (hexDigitValue (hexDigit (b.toNat / 16)) * 16 +
    hexDigitValue (hexDigit (b.toNat % 16))) &&& 1 == 0 ↔ b &&& 0x01 == 0
  any_nonzero : (hexByte b).any (· != '0') = (b != 0)
  any_not_f : (hexByte b).any (fun c => c.toLower != 'f') = (b != 0xff)

instance (b : UInt8) : Decidable (HexByteFacts b) :=
  decidable_of_iff
    ((hexByte b).all isxdigit = true ∧
      (((hexDigitValue (hexDigit (b.toNat / 16)) * 16 +
        hexDigitValue (hexDigit (b.toNat % 16))) &&& 1 == 0) ↔ b &&& 0x01 == 0) ∧
      (hexByte b).any (· != '0') = (b != 0) ∧
      (hexByte b).any (fun c => c.toLower != 'f') = (b != 0xff))
    ⟨fun ⟨h1, h2, h3, h4⟩ => ⟨h1, h2, h3, h4⟩, fun ⟨h1, h2, h3, h4⟩ => ⟨h1, h2, h3, h4⟩⟩

set_option maxRecDepth 20000 in
theorem hexByteFacts_ofFin : ∀ i : Fin 256, HexByteFacts (UInt8.ofFin i) := by decide +kernel

/-- Every byte prints as two digits that read back as the byte. -/
theorem hexByteFacts (b : UInt8) : HexByteFacts b := by
  have h := hexByteFacts_ofFin b.toFin
  rwa [UInt8.ofFin_toFin] at h

/-- The daemon accepts the text of exactly the addresses that the datapath accepts. -/
theorem validMacAddress_macText (mac : Mac) :
    validMacAddress (macText mac) = validClientMac mac := by
  have hany : ∀ (p : Char → Bool) (q : UInt8 → Bool), (∀ b, (hexByte b).any p = q b) →
      (mac.bytes.flatMap hexByte).any p = mac.bytes.any q := by
    intro p q h
    simp only [List.any_flatMap, h]
  have hlow := (hexByteFacts mac.b0).low_bit
  have hx : ((mac.bytes.flatMap hexByte).all isxdigit) = true := by
    simp only [List.all_flatMap, (hexByteFacts _).xdigit, List.all_eq_true, implies_true]
  have h0 := (hexByteFacts mac.b0).xdigit
  simp only [hexByte, List.all_cons, List.all_nil, Bool.and_true, Bool.and_eq_true] at h0
  rw [macText_cons, validMacAddress, ← macText_cons, macSeparators_macText, macDigits_macText,
    hany _ _ fun b => (hexByteFacts b).any_nonzero, hany _ _ fun b => (hexByteFacts b).any_not_f,
    length_macText, hx, h0.1, h0.2]
  simp only [validClientMac, Bool.eq_iff_iff.mpr hlow, beq_self_eq_true, Bool.true_and,
    List.all_cons, List.all_nil, Bool.and_true]

/-- Two bytes print alike only when they are the same. -/
theorem hexByte_injective : Function.Injective hexByte := by
  have h : ∀ i : Fin 16, hexDigitValue (hexDigit i) = i := by decide
  intro a b hab
  simp only [hexByte, List.cons.injEq, and_true] at hab
  have ha := a.toNat_lt
  have hb := b.toNat_lt
  have h1 := congrArg hexDigitValue hab.1
  have h2 := congrArg hexDigitValue hab.2
  rw [h ⟨a.toNat / 16, by omega⟩, h ⟨b.toNat / 16, by omega⟩] at h1
  rw [h ⟨a.toNat % 16, by omega⟩, h ⟨b.toNat % 16, by omega⟩] at h2
  apply UInt8.toNat_inj.mp
  simp only at h1 h2
  omega

/-- Two addresses print alike only when they are the same. -/
theorem macText_injective : Function.Injective macText := by
  intro a b hab
  have h : a.bytes.flatMap hexByte = b.bytes.flatMap hexByte := by
    rw [← macDigits_macText, ← macDigits_macText, hab]
  cases a
  cases b
  simp only [Mac.bytes, List.flatMap_cons, List.flatMap_nil, hexByte, List.cons_append,
    List.nil_append, List.cons.injEq] at h
  obtain ⟨h0, h1, h2, h3, h4, h5, h6, h7, h8, h9, h10, h11, -⟩ := h
  have hb : ∀ {x y : UInt8}, hexDigit (x.toNat / 16) = hexDigit (y.toNat / 16) →
      hexDigit (x.toNat % 16) = hexDigit (y.toNat % 16) → x = y := by
    intro x y hd hm
    exact hexByte_injective (by simp only [hexByte, hd, hm])
  simp only [Mac.mk.injEq]
  exact ⟨hb h0 h1, hb h2 h3, hb h4 h5, hb h6 h7, hb h8 h9, hb h10 h11⟩

/-! ## Interfaces and zones -/

/-- `ifname_is_excluded_identity_source`. -/
def ifnameIsExcludedIdentitySource (ifname : CStr) : Bool :=
  if ifname = [] then false
  else
    ifname == "dae0".toList || ifname == "dae0peer".toList || startsWith ifname "tun".toList ||
      startsWith ifname "ppp".toList || startsWith ifname "wg".toList

/-- `sysdevice_is_recommended_lan`. -/
def sysdeviceIsRecommendedLan (name : CStr) : Bool :=
  if name = [] then false
  else if ifnameIsExcludedIdentitySource name then false
  else if startsWith name "wan".toList then false
  else if startsWith name "pppoe-".toList || startsWith name "ppp".toList then false
  else if startsWith name "wg".toList then false
  else if startsWith name "tun".toList || startsWith name "tap".toList then false
  else if startsWith name "utun".toList then false
  else if name == "nssifb".toList then false
  else true

/-- `derive_zone_from_ifname`, into a buffer of `ZONE_STR_LEN`. -/
def deriveZoneFromIfname (ifname : CStr) : CStr :=
  if startsWith ifname "br-lan".toList || startsWith ifname "lan".toList ||
      startsWith ifname "wlan".toList then
    snprintf zoneStrLen "lan".toList
  else if ifname ≠ [] then snprintf zoneStrLen ifname
  else snprintf zoneStrLen "lan".toList

/-- The text `mac@zone` that identifies a client, in a buffer of `IDENTITY_KEY_STR_LEN`. -/
def identityKey (mac zone : CStr) : CStr := snprintf identityKeyStrLen (mac ++ '@' :: zone)

/-- `LANSPEED_BPF_IFACE_MAX`. -/
def lanspeedBpfIfaceMax : ℕ := 16

/-- `add_bpf_attach_ifname`: append a name to the attach list. -/
def addBpfAttachIfname (attach : List CStr) (name : CStr) : List CStr :=
  if name = [] then attach
  else if !sysdeviceIsRecommendedLan name then attach
  else if attach.length ≥ lanspeedBpfIfaceMax then attach
  else if name.length ≥ ifnameStrLen then attach
  else if name ∈ attach then attach
  else attach ++ [snprintf ifnameStrLen name]

/-- The attach list of a list of configured names. -/
def bpfAttachIfnames (names : List CStr) : List CStr := names.foldl addBpfAttachIfname []

/-- A recommended LAN name is not excluded from the identities. -/
theorem recommended_not_excluded {name : CStr} (h : sysdeviceIsRecommendedLan name = true) :
    ifnameIsExcludedIdentitySource name = false := by
  by_contra hx
  have hx : ifnameIsExcludedIdentitySource name = true := by simpa using hx
  by_cases hn : name = [] <;> simp [sysdeviceIsRecommendedLan, hn, hx] at h

/-- The name of a zone fits in `ZONE_STR_LEN`. -/
theorem length_deriveZoneFromIfname_lt (ifname : CStr) :
    (deriveZoneFromIfname ifname).length < zoneStrLen := by
  unfold deriveZoneFromIfname
  split
  · exact length_snprintf_lt (by decide) _
  · split <;> exact length_snprintf_lt (by decide) _

/-- Identities with printed addresses and derived zones are equal only for the same client. -/
theorem identityKey_inj {m m' : Mac} {z z' : CStr} (hz : z.length < zoneStrLen)
    (hz' : z'.length < zoneStrLen)
    (h : identityKey (macText m) z = identityKey (macText m') z') : m = m' ∧ z = z' := by
  have hfit : ∀ {m : Mac} {z : CStr}, z.length < zoneStrLen →
      identityKey (macText m) z = macText m ++ '@' :: z := by
    intro m z hz
    apply snprintf_of_fits
    simp only [List.length_append, List.length_cons, length_macText]
    simp only [zoneStrLen] at hz
    simp only [identityKeyStrLen]
    omega
  rw [hfit hz, hfit hz'] at h
  obtain ⟨hm, ht⟩ := List.append_inj h (by rw [length_macText, length_macText])
  exact ⟨macText_injective hm, (List.cons.inj ht).2⟩

/-- What every name that was accepted into an attach list satisfies. -/
structure AttachName (name : CStr) : Prop where
  recommended : sysdeviceIsRecommendedLan name = true
  fits : name.length < ifnameStrLen

/-- The representation invariant of the attach list. -/
structure AttachList (attach : List CStr) : Prop where
  names : ∀ name ∈ attach, AttachName name
  nodup : attach.Nodup
  bounded : attach.length ≤ lanspeedBpfIfaceMax

/-- Adding a name keeps the list of attached interfaces well formed. -/
theorem AttachList.add {attach : List CStr} (h : AttachList attach) (name : CStr) :
    AttachList (addBpfAttachIfname attach name) := by
  unfold addBpfAttachIfname
  split_ifs with hempty hrec hfull hlen hmem
  · exact h
  · exact h
  · exact h
  · exact h
  · exact h
  · have hfits : name.length < ifnameStrLen := by omega
    rw [snprintf_of_fits hfits]
    refine ⟨fun n hn => ?_, ?_, ?_⟩
    · rcases List.mem_append.mp hn with hn | hn
      · exact h.names n hn
      · rw [List.mem_singleton.mp hn]
        exact ⟨by simpa using hrec, hfits⟩
    · rw [List.nodup_append]
      refine ⟨h.nodup, List.nodup_singleton _, fun a ha b hb hab => ?_⟩
      rw [List.mem_singleton.mp hb] at hab
      exact hmem (hab ▸ ha)
    · rw [List.length_append, List.length_singleton]
      omega

/-- Every attach list that the daemon can build satisfies its invariant. -/
theorem attachList_bpfAttachIfnames (names : List CStr) : AttachList (bpfAttachIfnames names) := by
  have h : ∀ attach, AttachList attach → AttachList (names.foldl addBpfAttachIfname attach) := by
    induction names with
    | nil => exact fun attach h => h
    | cons name names ih => exact fun attach h => ih _ (h.add name)
  exact h [] ⟨by simp, List.nodup_nil, by simp⟩

end Lanspeed
