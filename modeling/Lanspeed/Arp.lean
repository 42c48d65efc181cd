import Lanspeed.State
import Lanspeed.Lib.CText
import Lanspeed.Lib.Keyed

/-!
# The ARP table

`load_arp_table` reads the neighbours of the router from `/proc/net/arp`. The identities of the
conntrack and NSS clients come from its rows: an address of the file is valid and lower-cased in the
table, and no row is of an excluded interface (`ArpRow`).
-/

namespace Lanspeed

open CText

/-- `normalize_mac_address`. -/
def normalizeMacAddress (mac : CStr) : CStr := mac.map Char.toLower

/-- The digits of a number in a base at the start of a text, as `strtoul` reads them. -/
def digitsOf (isDigit : Char → Bool) (base : ℕ) (s : CStr) : ℕ :=
  (s.takeWhile isDigit).foldl (fun n c => n * base + hexDigitValue c) 0

/-- `strtoul(s, NULL, 0)`: the base comes from a prefix `0x` or `0`. -/
def strtoulAuto (s : CStr) : ℕ :=
  let (negative, s) := sign (s.dropWhile isSpace)
  let n := match s with
    | '0' :: x :: d :: rest =>
      if (x == 'x' || x == 'X') && isxdigit d then digitsOf isxdigit 16 (d :: rest)
      else digitsOf (fun c => '0' ≤ c && c ≤ '7') 8 (x :: d :: rest)
    | '0' :: rest => digitsOf (fun c => '0' ≤ c && c ≤ '7') 8 rest
    | s => digitsOf Char.isDigit 10 s
  clampSigned negative n

/-- The fields of `sscanf(line, "%45s %15s %15s %17s %31s %31s", …)`; `none` unless all six are
read. -/
def scanArpFields (line : CStr) : Option (CStr × CStr × CStr × CStr × CStr × CStr) := do
  let (ip, line) ← scanField 45 line
  let (hwType, line) ← scanField 15 line
  let (flags, line) ← scanField 15 line
  let (mac, line) ← scanField 17 line
  let (mask, line) ← scanField 31 line
  let (ifname, _) ← scanField 31 line
  return (ip, hwType, flags, mac, mask, ifname)

/-- The body of the loop of `load_arp_table`: the entry of a line, or `none` where the source
continues with the next line. -/
def arpEntryOfLine (line : CStr) : Option ArpEntry :=
  match scanArpFields line with
  | none => none
  | some (ip, _, flags, mac, _, ifname) =>
    if strtoulAuto flags = 0 || !validMacAddress mac then none
    else if ifnameIsExcludedIdentitySource ifname then none
    else
      some
        { ip := snprintf ipStrLen ip
          mac := snprintf macStrLen (normalizeMacAddress mac)
          ifname := snprintf ifnameStrLen ifname
          zone := deriveZoneFromIfname ifname }

/-- `load_arp_table` on the content of the file, if it can be opened. The first line is
a heading. -/
def loadArpTable (file : Option CStr) : List ArpEntry :=
  match file with
  | none => []
  | some content =>
    (((fgetsLines 256 content).drop 1).filterMap arpEntryOfLine).take defaultMaxClients

/-- The warning that `load_arp_table` adds. -/
def arpWarnings (file : Option CStr) : List CStr :=
  match file with
  | none => ["conntrack_unavailable".toList]
  | some content => if content = [] then ["conntrack_unavailable".toList] else []

/-- `find_arp_entry`. -/
def findArpEntry (entries : List ArpEntry) (ip : CStr) : Option ArpEntry :=
  Keyed.lookup ArpEntry.ip ip entries

/-! ## The rows of the table -/

/-- A MAC text that the daemon takes for a client: valid, and in lower case. -/
structure IsClientMac (mac : CStr) : Prop where
  valid : validMacAddress mac = true
  lower : normalizeMacAddress mac = mac

/-- What every row of the ARP table satisfies. -/
structure ArpRow (e : ArpEntry) : Prop where
  ip_ne : e.ip ≠ []
  ip_fits : e.ip.length < ipStrLen
  mac : IsClientMac e.mac
  not_excluded : ifnameIsExcludedIdentitySource e.ifname = false
  ifname_ne : e.ifname ≠ []
  ifname_fits : e.ifname.length < ifnameStrLen
  zone : e.zone = deriveZoneFromIfname e.ifname

/-- What lower case does to a character of a MAC text. -/
structure LowerFacts (c : Char) : Prop where
  xdigit : isxdigit c = true → isxdigit c.toLower = true ∧
    hexDigitValue c.toLower = hexDigitValue c ∧
    (c.toLower = '0' → c = '0')
  lower : c.toLower.toLower = c.toLower

instance (c : Char) : Decidable (LowerFacts c) :=
  decidable_of_iff
    ((isxdigit c = true → isxdigit c.toLower = true ∧ hexDigitValue c.toLower = hexDigitValue c ∧
      (c.toLower = '0' → c = '0')) ∧ c.toLower.toLower = c.toLower)
    ⟨fun ⟨h1, h2⟩ => ⟨h1, h2⟩, fun ⟨h1, h2⟩ => ⟨h1, h2⟩⟩

set_option maxRecDepth 10000 in
theorem lowerFacts_ofFin : ∀ n : Fin 128, LowerFacts (Char.ofNat n) := by decide +kernel

/-- What holds of the 128 characters holds of every ASCII character. -/
theorem ascii_of_fin {P : Char → Prop} (h : ∀ n : Fin 128, P (Char.ofNat n))
    {c : Char} (hc : c.toNat < 128) :
    P c := by
  have hn := h ⟨c.toNat, hc⟩
  rwa [Char.ofNat_toNat] at hn

/-- Characters beyond ASCII have no lower case in the C locale. -/
theorem toLower_of_not_ascii {c : Char} (h : ¬ c.toNat < 128) : c.toLower = c := by
  refine dif_neg fun hupper => h ?_
  have hle : c.toNat ≤ 'Z'.toNat := hupper.2
  exact hle.trans_lt (by decide)

/-- Characters beyond ASCII are no digits. -/
theorem isxdigit_of_not_ascii {c : Char} (h : ¬ c.toNat < 128) : isxdigit c = false := by
  have hle {d : Char} (hd : d.toNat < 128) : decide (c ≤ d) = false :=
    decide_eq_false fun hcd => h (lt_of_le_of_lt (show c.toNat ≤ d.toNat from hcd) hd)
  rw [isxdigit, hle (d := '9') (by decide), hle (d := 'f') (by decide), hle (d := 'F') (by decide)]
  simp

/-- Lower case changes neither whether a character is a digit nor what digit it is. -/
theorem lowerFacts (c : Char) : LowerFacts c := by
  by_cases hascii : c.toNat < 128
  · exact ascii_of_fin lowerFacts_ofFin hascii
  · have hlower := toLower_of_not_ascii hascii
    refine ⟨fun hx => ?_, by rw [hlower, hlower]⟩
    rw [isxdigit_of_not_ascii hascii] at hx
    exact absurd hx Bool.false_ne_true

/-- The tests of `valid_mac_address` that do not see whether a character is in lower case. -/
theorem tests_toLower (c : Char) :
    isxdigit c.toLower = isxdigit c ∧ (c.toLower == ':') = (c == ':') ∧
      (c.toLower != '0') = (c != '0') := by
  by_cases hascii : c.toNat < 128
  · exact ascii_of_fin (P := fun c => isxdigit c.toLower = isxdigit c ∧
      (c.toLower == ':') = (c == ':') ∧
      (c.toLower != '0') = (c != '0')) (by decide +kernel) hascii
  · rw [toLower_of_not_ascii hascii]
    exact ⟨rfl, rfl, rfl⟩

theorem length_normalizeMacAddress (mac : CStr) : (normalizeMacAddress mac).length = mac.length :=
  List.length_map _

/-- Normalizing twice is normalizing once. -/
theorem normalizeMacAddress_idem (mac : CStr) :
    normalizeMacAddress (normalizeMacAddress mac) = normalizeMacAddress mac := by
  rw [normalizeMacAddress, normalizeMacAddress, List.map_map]
  exact List.map_congr_left fun c _ => (lowerFacts c).lower

/-- The digits of a MAC text in lower case. -/
theorem macDigits_map (f : Char → Char) (mac : CStr) :
    macDigits (mac.map f) = (macDigits mac).map f := by
  rw [macDigits, macDigits, List.zipIdx_map, List.filter_map, List.map_map, List.map_map]
  rfl

/-- The separators are mapped with the text. -/
theorem macSeparators_map (f : Char → Char) (mac : CStr) :
    macSeparators (mac.map f) = (macSeparators mac).map f := by
  rw [macSeparators, macSeparators, List.zipIdx_map, List.filter_map, List.map_map, List.map_map]
  rfl

/-- `valid_mac_address` does not see whether an address is in lower case. -/
theorem validMacAddress_normalizeMacAddress (mac : CStr) :
    validMacAddress (normalizeMacAddress mac) = validMacAddress mac := by
  match mac with
  | [] => rfl
  | [_] => rfl
  | d0 :: d1 :: rest =>
    have hlower : normalizeMacAddress (d0 :: d1 :: rest)
        = d0.toLower :: d1.toLower :: normalizeMacAddress rest := rfl
    rw [hlower, validMacAddress, ← hlower, validMacAddress, length_normalizeMacAddress,
      normalizeMacAddress, macSeparators_map, macDigits_map, List.all_map,
      List.all_map, List.any_map, List.any_map]
    simp only [Function.comp_def, (tests_toLower _).1, (tests_toLower _).2.1, (tests_toLower _).2.2,
      (lowerFacts _).lower]
    cases h0 : isxdigit d0 with
    | false => simp
    | true =>
      cases h1 : isxdigit d1 with
      | false => simp
      | true => rw [((lowerFacts d0).xdigit h0).2.1, ((lowerFacts d1).xdigit h1).2.1]

/-- A valid address stays valid in lower case. -/
theorem validMacAddress_normalize {mac : CStr} (h : validMacAddress mac = true) :
    validMacAddress (normalizeMacAddress mac) = true :=
  (validMacAddress_normalizeMacAddress mac).trans h

/-- A valid address is one of a client after it was normalized. -/
theorem isClientMac_normalize {mac : CStr} (h : validMacAddress mac = true) :
    IsClientMac (normalizeMacAddress mac) :=
  ⟨validMacAddress_normalize h, normalizeMacAddress_idem mac⟩

/-- Every line that makes an entry makes a row. -/
theorem arpRow_of_line {line : CStr} {e : ArpEntry}
    (h : arpEntryOfLine line = some e) : ArpRow e := by
  unfold arpEntryOfLine at h
  split at h
  · exact absurd h (by simp)
  · rename_i ip hwType flags mac mask ifname hscan
    split_ifs at h with hflags hexcluded
    obtain rfl := Option.some.inj h
    simp only [Bool.or_eq_true, decide_eq_true_eq, Bool.not_eq_true', not_or, Bool.not_eq_false]
      at hflags
    -- Each buffer has room for the field that was scanned into it.
    simp only [scanArpFields, Option.bind_eq_bind, Option.bind_eq_some_iff, Option.pure_def,
      Option.some.injEq, Prod.exists, Prod.mk.injEq] at hscan
    obtain ⟨_, _, hip, _, _, -, _, _, -, _, _, hmac, _, _, -, _,
          _, hif, rfl, -, -, rfl, -, rfl⟩ := hscan
    obtain ⟨hipne, hiplen, -⟩ := scanField_some (by decide) hip
    obtain ⟨-, hmaclen, -⟩ := scanField_some (by decide) hmac
    obtain ⟨hifne, hiflen, -⟩ := scanField_some (by decide) hif
    replace hiplen : _ < ipStrLen := Nat.lt_succ_of_le hiplen
    replace hiflen : _ < ifnameStrLen := Nat.lt_succ_of_le hiflen
    have hmacfits : _ < macStrLen :=
      Nat.lt_succ_of_le ((length_normalizeMacAddress _).trans_le hmaclen)
    rw [snprintf_of_fits hiplen, snprintf_of_fits hmacfits, snprintf_of_fits hiflen]
    exact ⟨hipne, hiplen, isClientMac_normalize hflags.2,
      by simpa using hexcluded, hifne, hiflen, rfl⟩

/-- Every entry of the ARP table is a row. -/
theorem arpRow_of_mem_loadArpTable {file : Option CStr} {e : ArpEntry} (h : e ∈ loadArpTable file) :
    ArpRow e := by
  cases file with
  | none => exact absurd h List.not_mem_nil
  | some content =>
    obtain ⟨line, -, hline⟩ := List.mem_filterMap.mp (List.mem_of_mem_take h)
    exact arpRow_of_line hline

/-- A row that is found is one of the table and has the address. -/
theorem findArpEntry_mem {entries : List ArpEntry} {ip : CStr} {e : ArpEntry}
    (h : findArpEntry entries ip = some e) : e ∈ entries ∧ e.ip = ip :=
  ⟨Keyed.mem_of_lookup h, Keyed.key_of_lookup h⟩

end Lanspeed
