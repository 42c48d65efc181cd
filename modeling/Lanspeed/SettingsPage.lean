import Lanspeed.Config
import Lanspeed.Frontend
import Lanspeed.PageSession
import Lanspeed.Lib.JsText

/-!
# The settings from the form to the daemon and back

The settings page reads four texts from its form, writes them to the package as `String` prints the
numbers, and reloads the daemon; the daemon reads them with `strtoull` and publishes what it keeps
in the status, from which the status page takes its thresholds. Numbers below `2 ^ 63` come back as
they were on the form, and no others; the settings page itself reads back what it wrote below `10 ^
21` (`saved_settings_read_back_iff`). The page and the daemon read a package that was written by
hand each in its own way; `load_eq_runningValues_iff` says when they agree.
-/

namespace Lanspeed

namespace SettingsPage

open Js (number)

/-! ## The form -/

/-- The values that `load` hands to the form and `readForm` takes from it. -/
@[ext]
structure FormValues where
  rateCollectorMode    : CStr
  connCollectorMode    : CStr
  activeClientWindowMs : ℤ
  activeClientMinBps   : ℤ
deriving DecidableEq, Repr

/-- `DEFAULTS`. -/
def defaults : FormValues where
  rateCollectorMode    := "auto".toList
  connCollectorMode    := "auto".toList
  activeClientWindowMs := 10000
  activeClientMinBps   := 1

/-- What stands in the elements of the form. -/
structure FormTexts where
  rateCollectorMode : CStr
  connCollectorMode : CStr
  activeWindow      : CStr
  activeMin         : CStr
deriving DecidableEq, Repr

/-- `intValue`; a maximum of zero is none. -/
def intValue (value : Option CStr) (fallback min max : ℤ) : ℤ :=
  let n := (value.bind Js.parseInt).getD fallback
  let n := if n < min then min else n
  if max ≠ 0 ∧ n > max then max else n

def rateCollectorModeValue (value : CStr) : CStr :=
  if value = "bpf".toList then value else defaults.rateCollectorMode

def connCollectorModeValue (value : CStr) : CStr :=
  if value = "conntrack_netlink".toList ∨ value = "conntrack_procfs".toList then value
  else defaults.connCollectorMode

def legacyRateCollectorMode (value : Option CStr) : CStr :=
  if value = some "bpf".toList then "bpf".toList else "auto".toList

def legacyConnCollectorMode (value : Option CStr) : CStr :=
  match value with
  | some value =>
    if value = "conntrack_netlink".toList ∨ value = "conntrack_procfs".toList then value
    else "auto".toList
  | none => "auto".toList

/-- `readForm`. -/
def readForm (refs : FormTexts) : FormValues where
  rateCollectorMode    := rateCollectorModeValue refs.rateCollectorMode
  connCollectorMode    := connCollectorModeValue refs.connCollectorMode
  activeClientWindowMs := intValue (some refs.activeWindow) defaults.activeClientWindowMs 1000 0
  activeClientMinBps   := intValue (some refs.activeMin) defaults.activeClientMinBps 1 0

/-- `fillForm`. -/
def fillForm (values : FormValues) : FormTexts where
  rateCollectorMode := rateCollectorModeValue values.rateCollectorMode
  connCollectorMode := connCollectorModeValue values.connCollectorMode
  activeWindow      := Js.string values.activeClientWindowMs
  activeMin         := Js.string values.activeClientMinBps

/-- The values with the numbers as `saveDaemonSettings` writes them. -/
def FormValues.settings (values : FormValues) : DaemonSettings where
  rateCollectorMode    := values.rateCollectorMode
  connCollectorMode    := values.connCollectorMode
  activeClientWindowMs := Js.string values.activeClientWindowMs
  activeClientMinBps   := Js.string values.activeClientMinBps

/-! ## The package -/

/-- The package with the options of the settings replaced. -/
def withSettings (opts : MainOptions) (settings : SettingsOptions) : MainOptions :=
  { opts with
    rateCollectorMode    := settings.rateCollectorMode
    connCollectorMode    := settings.connCollectorMode
    collectorMode        := settings.collectorMode
    activeClientWindowMs := settings.activeClientWindowMs
    activeClientMinBps   := settings.activeClientMinBps }

/-- `value || other` of an option. -/
def orElse (value : Option CStr) (other : CStr) : CStr :=
  (value.filter fun text => text ≠ []).getD other

/-- The window as `uciInt` reads it. -/
def uciActiveClientWindowMs (opts : MainOptions) : ℤ :=
  intValue opts.activeClientWindowMs defaults.activeClientWindowMs 1000 0

/-- The minimum rate as `uciInt` reads it. -/
def uciActiveClientMinBps (opts : MainOptions) : ℤ :=
  intValue opts.activeClientMinBps defaults.activeClientMinBps 1 0

/-- `load` of the settings page. -/
def load (opts : MainOptions) : FormValues where
  rateCollectorMode :=
    rateCollectorModeValue (orElse opts.rateCollectorMode
      (legacyRateCollectorMode opts.collectorMode))
  connCollectorMode :=
    connCollectorModeValue (orElse opts.connCollectorMode
      (legacyConnCollectorMode opts.collectorMode))
  activeClientWindowMs := uciActiveClientWindowMs opts
  activeClientMinBps := uciActiveClientMinBps opts

/-- The settings that a daemon runs with, with its numbers as a script has them. -/
def runningValues (cfg : CollectorConfig) : FormValues where
  rateCollectorMode    := collectorModeName cfg.rateCollectorMode
  connCollectorMode    := collectorModeName cfg.connCollectorMode
  activeClientWindowMs := number cfg.activeClientWindowMs.toNat
  activeClientMinBps   := number cfg.activeClientMinBps.toNat

/-- The thresholds of the status page of a daemon that was started with a package. -/
def shownThresholds (opts : MainOptions) : ActiveConfig :=
  activeConfig (statusActiveFields (loadConfig (some opts)).collector) {}

/-! ## Numbers -/

/-- A number of the form is a double that is not below its minimum. -/
theorem exists_double_intValue (value : Option CStr) (fallback minimum : ℕ)
    (hfallback : fallback < Js.safeLimit) (hminimum : minimum < Js.safeLimit) :
    ∃ x : ℕ, intValue value fallback minimum 0 = x ∧ Js.roundDouble x = x ∧ minimum ≤ x := by
  have hclamp : ∀ n : ℤ, ∃ x : ℕ, (if number n < minimum then (minimum : ℤ) else number n) = x ∧
      Js.roundDouble x = x ∧ minimum ≤ x := by
    intro n
    split_ifs with hlow
    · exact ⟨minimum, rfl, Js.roundDouble_of_lt hminimum, le_rfl⟩
    · rcases lt_or_ge n 0 with hneg | hpos
      · -- A negative number is not rounded up to a minimum.
        have hzero : number n = 0 := by
          rw [number, if_neg (not_le.mpr hneg)] at hlow ⊢
          omega
        exact ⟨0, by rw [hzero]; rfl, rfl, by omega⟩
      · refine ⟨Js.roundDouble n.toNat,
          by rw [number, if_pos hpos], Js.roundDouble_roundDouble _, ?_⟩
        rw [number, if_pos hpos] at hlow
        omega
  rw [intValue, if_neg (by simp)]
  cases hread : value.bind Js.parseInt with
  | none =>
    have := hclamp fallback
    rwa [Js.number_natCast hfallback] at this
  | some n =>
    obtain ⟨s, -, hs⟩ := Option.bind_eq_some_iff.mp hread
    obtain ⟨m, rfl⟩ := Js.exists_number_of_parseInt hs
    exact hclamp m

/-- The form reads the text of a number back below the limit, and not from there on. -/
theorem intValue_string_iff (fallback minimum : ℕ) {x : ℕ} (hfallback : fallback < Js.exponentLimit)
    (hminimum : minimum < Js.exponentLimit) (hx : Js.roundDouble x = x) (hle : minimum ≤ x) :
    intValue (some (Js.string x)) fallback minimum 0 = x ↔ x < Js.exponentLimit := by
  have hlimit : Js.exponentLimit = 1000000000000000000000 := rfl
  rw [intValue, Option.bind_some, if_neg (by simp)]
  rcases Nat.lt_or_ge x Js.exponentLimit with hlt | hge
  · rw [Js.parseInt_string hx hlt, Option.getD_some, if_neg (by omega)]
    exact iff_of_true rfl hlt
  · refine iff_of_false ?_ (Nat.not_lt.mpr hge)
    have hsmall := (Js.readers_string_of_le hge hx).1
    cases hread : Js.parseInt (Js.string x) with
    | none =>
      rw [Option.getD_none]
      split_ifs <;> omega
    | some n =>
      have hn := hsmall n hread
      rw [Option.getD_some]
      split_ifs <;> omega

/-- What the status page makes of a published word. -/
theorem positiveNumber_jsonInt64 (w : UInt64) (fallback : ℤ) :
    positiveNumber (some (jsonInt64 w)) fallback =
      if 0 < w.toNat ∧ w.toNat < 2 ^ 63 then number w.toNat else fallback := by
  rw [positiveNumber, jsonInt64]
  have hword := w.toNat_lt
  rcases Nat.lt_or_ge w.toNat (2 ^ 63) with hlt | hge
  · rw [Word.toInt_toInt64_of_lt hlt]
    have hpos : number w.toNat > 0 ↔ 0 < w.toNat := by
      have := Js.natCast_le_number_iff (m := 1) (by decide) w.toNat
      omega
    simp only [hpos, hlt, and_true]
  · have hneg : w.toInt64.toInt < 0 :=
      not_le.mp (mt Word.toInt_toInt64_nonneg_iff.mp (Nat.not_lt.mpr hge))
    rw [number, if_neg (not_le.mpr hneg), if_neg (by omega), if_neg (by omega)]

/-- What the daemon reads in the text of a number below the limit. -/
theorem toNat_parseUnsigned_string {x : ℕ} (hx : Js.roundDouble x = x) (h : x < Js.exponentLimit) :
    (parseUnsigned (Js.string x)).toNat = min CText.ullongMax (Js.shown x) := by
  have hword : CText.ullongMax < 2 ^ 64 := by decide
  rw [parseUnsigned, Js.strtoull_string hx h, Option.getD_some,
    UInt64.toNat_ofNat', Nat.mod_eq_of_lt]
  exact (Nat.min_le_left ..).trans_lt hword

/-- From the limit on it reads a digit. -/
theorem toNat_parseUnsigned_string_le {x : ℕ} (hx : Js.roundDouble x = x)
    (h : Js.exponentLimit ≤ x) :
    (parseUnsigned (Js.string x)).toNat ≤ 9 := by
  have hsmall := (Js.readers_string_of_le h hx).2
  rw [parseUnsigned]
  cases hread : CText.strtoull (Js.string x) with
  | none => decide
  | some n =>
    rw [Option.getD_some, UInt64.toNat_ofNat']
    exact (Nat.mod_le ..).trans (hsmall n hread)

/-- The status page reads a threshold back when the number fits in a signed word, and
not otherwise. -/
theorem positiveNumber_kept_iff {w : UInt64} {minimum default x : ℕ} (hpos : 0 < minimum)
    (hminimum : minimum < Js.safeLimit) (hdefault : default < Js.safeLimit)
    (hx : Js.roundDouble x = x) (hle : minimum ≤ x) (hw : (w.toNat : ℤ) =
      if (minimum : ℤ) ≤ (parseUnsigned (Js.string x)).toNat then
        ((parseUnsigned (Js.string x)).toNat : ℤ)
      else if 0 < ((parseUnsigned (Js.string x)).toNat : ℤ) then (minimum : ℤ) else default) :
    positiveNumber (some (jsonInt64 w)) default = x ↔ x < 2 ^ 63 := by
  have hsafe : Js.safeLimit = 9007199254740992 := rfl
  have hlimit : Js.exponentLimit = 1000000000000000000000 := rfl
  have hmax : CText.ullongMax = 2 ^ 64 - 1 := rfl
  rw [positiveNumber_jsonInt64]
  rcases Nat.lt_or_ge x Js.exponentLimit with hlt | hge
  · have hbound : minimum ≤ Js.shown x := by
      have hself := Js.shown_of_lt hminimum
      exact Nat.not_lt.mp (mt (Js.shown_lt_iff hx (Js.roundDouble_of_lt hminimum) hself.ge).mp
        (Nat.not_lt.mpr hle))
    have hsigned : Js.shown x < 2 ^ 63 ↔ x < 2 ^ 63 :=
      Js.shown_lt_iff hx (Js.roundDouble_two_pow 63) (by decide +kernel)
    rw [toNat_parseUnsigned_string hx hlt, if_pos (by omega)] at hw
    have hw : w.toNat = min CText.ullongMax (Js.shown x) := Int.ofNat_inj.mp hw
    rcases Nat.lt_or_ge x (2 ^ 63) with hfits | hlarge
    · have hshown := hsigned.mpr hfits
      rw [hw, Nat.min_eq_right (by omega), if_pos (by omega), number, if_pos (Int.natCast_nonneg _),
        Int.toNat_natCast, Js.roundDouble_shown hx]
      exact iff_of_true rfl hfits
    · have hshown := mt hsigned.mp (Nat.not_lt.mpr hlarge)
      rw [if_neg (by omega)]
      exact iff_of_false (by omega) (by omega)
  · have hdigit := toNat_parseUnsigned_string_le hx hge
    have hsmall : w.toNat < Js.safeLimit := by
      split_ifs at hw <;> omega
    rw [Js.number_natCast hsmall]
    split_ifs <;> exact iff_of_false (by omega) (by omega)

/-! ## Modes -/

section Modes

variable (opts : MainOptions)

/-- A short word is found in the buffer of an option exactly when the option is that word. -/
theorem loadConfigValue_eq_iff (word : CStr) (h : word.length < 31) (value : CStr) :
    loadConfigValue value = word ↔ value = word := by
  constructor
  · intro heq
    have hlength : (loadConfigValue value).length = min 31 value.length := List.length_take ..
    rw [heq] at hlength
    rw [← heq]
    exact (List.take_of_length_le (by omega)).symm
  · rintro rfl
    exact List.take_of_length_le h.le

/-- The two modes of a configuration. -/
def modes (cfg : CollectorConfig) : CollectorModeSetting × CollectorModeSetting :=
  (cfg.rateCollectorMode, cfg.connCollectorMode)

/-- The modes that the old option stands for. -/
def legacyModes : CollectorModeSetting × CollectorModeSetting :=
  if opts.collectorMode = some "bpf".toList then (.bpf, .auto)
  else if opts.collectorMode = some "conntrack_netlink".toList then (.auto, .conntrackNetlink)
  else if opts.collectorMode = some "conntrack_procfs".toList then (.auto, .conntrackProcfs)
  else (.auto, .auto)

/-- The legacy option sets the two modes that it stands for. -/
theorem modes_applyLegacy {cfg : CollectorConfig} (h : modes cfg = (.auto, .auto)) :
    modes (onOption opts.collectorMode (fun cfg value =>
      applyLegacyCollectorMode cfg (loadConfigValue value)) cfg) = legacyModes opts := by
  obtain ⟨hrate, hconn⟩ := Prod.mk.inj h
  cases hmode : opts.collectorMode with
  | none =>
    rw [legacyModes, hmode]
    exact h
  | some value =>
    rw [legacyModes, hmode, onOption, Option.elim_some, applyLegacyCollectorMode]
    simp only [beq_iff_eq, Option.some.injEq, loadConfigValue_eq_iff "bpf".toList (by decide),
      loadConfigValue_eq_iff "conntrack_netlink".toList (by decide),
      loadConfigValue_eq_iff "conntrack_procfs".toList (by decide),
      loadConfigValue_eq_iff "auto".toList (by decide)]
    split_ifs
    · exact Prod.ext rfl hconn
    · exact Prod.ext hrate rfl
    · exact Prod.ext hrate rfl
    · rfl
    · exact h

/-- The rate mode of an option, over the one that was there before. -/
def rateModeOf (value : Option CStr) (before : CollectorModeSetting) : CollectorModeSetting :=
  if value = some "bpf".toList then .bpf else if value = some "auto".toList then .auto else before

/-- The mode of the connection counts of an option, over the one that was there before. -/
def connModeOf (value : Option CStr) (before : CollectorModeSetting) : CollectorModeSetting :=
  if value = some "conntrack_netlink".toList then .conntrackNetlink
  else if value = some "conntrack_procfs".toList then .conntrackProcfs
  else if value = some "auto".toList then .auto
  else before

/-- The option of the rates sets the mode of the rates only. -/
theorem modes_loadRate (value : Option CStr) (cfg : CollectorConfig) :
    modes (onOption value (fun cfg value =>
        { cfg with
          rateCollectorMode :=
            parseRateCollectorMode (loadConfigValue value) cfg.rateCollectorMode }) cfg) =
      (rateModeOf value (modes cfg).1, (modes cfg).2) := by
  cases value with
  | none => rfl
  | some value =>
    refine Prod.ext ?_ rfl
    show parseRateCollectorMode (loadConfigValue value) cfg.rateCollectorMode = _
    simp only [parseRateCollectorMode, rateModeOf, beq_iff_eq, Option.some.injEq,
      loadConfigValue_eq_iff "bpf".toList (by decide),
      loadConfigValue_eq_iff "auto".toList (by decide)]
    rfl

/-- The option of the connections sets the mode of the connections only. -/
theorem modes_loadConn (value : Option CStr) (cfg : CollectorConfig) :
    modes (onOption value (fun cfg value =>
        { cfg with
          connCollectorMode :=
            parseConnCollectorMode (loadConfigValue value) cfg.connCollectorMode }) cfg) =
      ((modes cfg).1, connModeOf value (modes cfg).2) := by
  cases value with
  | none => rfl
  | some value =>
    refine Prod.ext rfl ?_
    show parseConnCollectorMode (loadConfigValue value) cfg.connCollectorMode = _
    simp only [parseConnCollectorMode, connModeOf, beq_iff_eq, Option.some.injEq,
      loadConfigValue_eq_iff "conntrack_netlink".toList (by decide),
      loadConfigValue_eq_iff "conntrack_procfs".toList (by decide),
      loadConfigValue_eq_iff "auto".toList (by decide)]
    rfl

/-- The options that are read before the modes leave them as they are at program start. -/
theorem modes_before :
    modes (onOption opts.maxClients loadMaxClients
      (onOption opts.overviewWindowSamples loadOverviewWindow
        (onOption opts.activeClientMinBps loadActiveClientMinBps
          (onOption opts.activeClientWindowMs loadActiveClientWindow
            (onOption opts.refreshIntervalMs loadRefreshInterval {})))).collector) =
              (.auto, .auto) := by
  let view : DaemonConfig → CollectorModeSetting × CollectorModeSetting :=
    fun cfg => modes cfg.collector
  have hmax (cfg : CollectorConfig) (value : CStr) :
      modes (loadMaxClients cfg value) = modes cfg := by
    unfold loadMaxClients
    dsimp only
    split_ifs <;> rfl
  have hoverview (cfg : DaemonConfig) (value : CStr) :
      view (loadOverviewWindow cfg value) = view cfg := by
    unfold loadOverviewWindow
    dsimp only
    split_ifs <;> rfl
  have hminBps (cfg : DaemonConfig) (value : CStr) :
      view (loadActiveClientMinBps cfg value) = view cfg := by
    unfold loadActiveClientMinBps
    dsimp only
    split_ifs <;> rfl
  have hwindow (cfg : DaemonConfig) (value : CStr) :
      view (loadActiveClientWindow cfg value) = view cfg := rfl
  have hrefresh (cfg : DaemonConfig) (value : CStr) :
      view (loadRefreshInterval cfg value) = view cfg := rfl
  rw [onOption_frame modes hmax]
  show view _ = _
  rw [onOption_frame view hoverview, onOption_frame view hminBps, onOption_frame view hwindow,
    onOption_frame view hrefresh]
  rfl

/-- The modes that the daemon runs with. -/
theorem modes_loadConfig :
    modes (loadConfig (some opts)).collector =
      (rateModeOf opts.rateCollectorMode (legacyModes opts).1,
        connModeOf opts.connCollectorMode (legacyModes opts).2) := by
  show modes (loadCollectorOptions opts _) = _
  unfold loadCollectorOptions
  rw [onOption_frame modes, onOption_frame modes, modes_loadConn, modes_loadRate,
    modes_applyLegacy opts (modes_before opts)]
  all_goals exact fun _ _ => rfl

/-- The legacy option asks for BPF rates where it says `bpf`. -/
theorem legacyModes_fst :
    (legacyModes opts).1 = if opts.collectorMode = some "bpf".toList then .bpf else .auto := by
  unfold legacyModes
  split_ifs <;> rfl

/-- The legacy option asks for the conntrack reader that it names. -/
theorem legacyModes_snd :
    (legacyModes opts).2 =
      if opts.collectorMode = some "conntrack_netlink".toList then .conntrackNetlink
      else if opts.collectorMode = some "conntrack_procfs".toList then .conntrackProcfs
        else .auto := by
  unfold legacyModes
  by_cases hbpf : opts.collectorMode = some "bpf".toList
  · rw [if_pos hbpf, hbpf]
    rfl
  · rw [if_neg hbpf]
    split_ifs <;> rfl

/-- A mode that neither program knows hides the old option from the page, but not from
the daemon. -/
def RateModeHidden : Prop :=
  (∃ value, opts.rateCollectorMode = some value ∧ value ∉ [[], "bpf".toList, "auto".toList]) ∧
    opts.collectorMode = some "bpf".toList

/-- So it is for the mode of the connection counts. -/
def ConnModeHidden : Prop :=
  (∃ value, opts.connCollectorMode = some value ∧
      value ∉ [[], "conntrack_netlink".toList, "conntrack_procfs".toList, "auto".toList]) ∧
    (opts.collectorMode = some "conntrack_netlink".toList ∨
      opts.collectorMode = some "conntrack_procfs".toList)

/-- The page shows the rate mode of the daemon, unless it is hidden. -/
theorem rateMode_load_iff :
    (load opts).rateCollectorMode = collectorModeName (modes (loadConfig (some opts)).collector).1 ↔
      ¬ RateModeHidden opts := by
  rw [modes_loadConfig, legacyModes_fst]
  show rateCollectorModeValue _ = collectorModeName (rateModeOf _ _) ↔ _
  have hlegacy : rateCollectorModeValue (legacyRateCollectorMode opts.collectorMode) =
      collectorModeName (if opts.collectorMode = some "bpf".toList then .bpf else .auto) := by
    unfold legacyRateCollectorMode
    split_ifs <;> rfl
  cases hrate : opts.rateCollectorMode with
  | none => exact iff_of_true hlegacy fun h => by simp [RateModeHidden, hrate] at h
  | some value =>
    by_cases hknown : value ∈ [[], "bpf".toList, "auto".toList]
    · refine iff_of_true ?_ ?_
      · simp only [List.mem_cons, List.not_mem_nil, or_false] at hknown
        rcases hknown with rfl | rfl | rfl
        · exact hlegacy
        · rfl
        · rfl
      · rintro ⟨⟨other, hother, hunknown⟩, -⟩
        exact hunknown (Option.some.inj (hrate.symm.trans hother) ▸ hknown)
    · -- The page shows the default, the daemon keeps the mode of the old option.
      have hwords : value ≠ [] ∧ value ≠ "bpf".toList ∧ value ≠ "auto".toList := by
        simpa using hknown
      obtain ⟨hnil, hbpf, hauto⟩ := hwords
      have hpage : rateCollectorModeValue
          (orElse (some value) (legacyRateCollectorMode opts.collectorMode)) =
          "auto".toList := by
        rw [orElse, Option.filter_some_pos (by simpa using hnil), Option.getD_some]
        exact if_neg hbpf
      have hdaemon : ∀ before, rateModeOf (some value) before = before := by
        intro before
        rw [rateModeOf, if_neg (mt Option.some.inj hbpf), if_neg (mt Option.some.inj hauto)]
      rw [hpage, hdaemon]
      by_cases hold : opts.collectorMode = some "bpf".toList
      · rw [if_pos hold]
        exact iff_of_false (by decide) fun h => h ⟨⟨value, hrate, hknown⟩, hold⟩
      · rw [if_neg hold]
        exact iff_of_true rfl fun h => hold h.2

/-- So it is for the mode of the connection counts. -/
theorem connMode_load_iff :
    (load opts).connCollectorMode = collectorModeName (modes (loadConfig (some opts)).collector).2 ↔
      ¬ ConnModeHidden opts := by
  rw [modes_loadConfig, legacyModes_snd]
  show connCollectorModeValue _ = collectorModeName (connModeOf _ _) ↔ _
  have hlegacy : connCollectorModeValue (legacyConnCollectorMode opts.collectorMode) =
      collectorModeName (if opts.collectorMode =
        some "conntrack_netlink".toList then .conntrackNetlink
        else if opts.collectorMode = some "conntrack_procfs".toList then .conntrackProcfs
          else .auto) := by
    cases opts.collectorMode with
    | none => rfl
    | some old =>
      by_cases hnetlink : old = "conntrack_netlink".toList
      · rw [hnetlink]
        rfl
      · by_cases hprocfs : old = "conntrack_procfs".toList
        · rw [hprocfs]
          rfl
        · rw [if_neg (mt Option.some.inj hnetlink), if_neg (mt Option.some.inj hprocfs),
            legacyConnCollectorMode,
            if_neg (by simp only [hnetlink, hprocfs, or_self, not_false_eq_true])]
          rfl
  cases hconn : opts.connCollectorMode with
  | none => exact iff_of_true hlegacy fun h => by simp [ConnModeHidden, hconn] at h
  | some value =>
    by_cases hknown : value ∈ [[], "conntrack_netlink".toList,
      "conntrack_procfs".toList, "auto".toList]
    · refine iff_of_true ?_ ?_
      · simp only [List.mem_cons, List.not_mem_nil, or_false] at hknown
        rcases hknown with rfl | rfl | rfl | rfl
        · exact hlegacy
        · rfl
        · rfl
        · rfl
      · rintro ⟨⟨other, hother, hunknown⟩, -⟩
        exact hunknown (Option.some.inj (hconn.symm.trans hother) ▸ hknown)
    · have hwords : value ≠ [] ∧ value ≠ "conntrack_netlink".toList ∧
          value ≠ "conntrack_procfs".toList ∧
          value ≠ "auto".toList := by simpa using hknown
      obtain ⟨hnil, hnetlink, hprocfs, hauto⟩ := hwords
      have hpage : connCollectorModeValue
          (orElse (some value) (legacyConnCollectorMode opts.collectorMode)) =
          "auto".toList := by
        rw [orElse, Option.filter_some_pos (by simpa using hnil), Option.getD_some]
        exact if_neg fun h => h.elim hnetlink hprocfs
      have hdaemon : ∀ before, connModeOf (some value) before = before := by
        intro before
        rw [connModeOf, if_neg (mt Option.some.inj hnetlink), if_neg (mt Option.some.inj hprocfs),
          if_neg (mt Option.some.inj hauto)]
      rw [hpage, hdaemon]
      by_cases hold : opts.collectorMode = some "conntrack_netlink".toList ∨
          opts.collectorMode = some "conntrack_procfs".toList
      · refine iff_of_false ?_ fun h => h ⟨⟨value, hconn, hknown⟩, hold⟩
        rcases hold with hold | hold <;> rw [hold] <;> decide
      · obtain ⟨hnetlink, hprocfs⟩ := not_or.mp hold
        rw [if_neg hnetlink, if_neg hprocfs]
        exact iff_of_true rfl fun h => hold h.2

end Modes

/-! ## What is shown and what is kept -/

/-- An option of `lanspeed.main` that is not there, or is an integer that fits in a signed word. -/
inductive Configured : Option CStr → Option ℤ → Prop
  | unset : Configured none none
  | integer {text : CStr} {n : ℤ} (h : CText.DecimalInteger text n) (hn : n.natAbs < 2 ^ 63) :
    Configured (some text) (some n)

/-- The page and the daemon take a configured integer for the same number when it is positive, or
zero where the default is the minimum. -/
theorem intValue_eq_kept_iff {text : CStr} {n : ℤ} (h : CText.DecimalInteger text n)
    (hn : n.natAbs < 2 ^ 63)
    (minimum default : ℕ) (hpos : 0 < minimum) (hminimum : minimum < Js.safeLimit)
    (hdefault : default < Js.safeLimit) {w : UInt64}
    (hw : (w.toNat : ℤ) =
      if (minimum : ℤ) ≤ (parseUnsigned text).toNat then ((parseUnsigned text).toNat : ℤ)
      else if 0 < ((parseUnsigned text).toNat : ℤ) then (minimum : ℤ) else default) :
    intValue (some text) default minimum 0 = number w.toNat ↔
      0 < n ∨ n = 0 ∧ default = minimum := by
  have hsafe : Js.safeLimit = 9007199254740992 := rfl
  have hword : UInt64.size = 2 ^ 64 := rfl
  have hread : (parseUnsigned text).toNat = if n < 0 then 2 ^ 64 - n.natAbs else n.natAbs := by
    rw [parseUnsigned, h.strtoull (by omega), Option.getD_some,
      UInt64.toNat_ofNat', Nat.mod_eq_of_lt]
    · rfl
    · split_ifs <;> omega
  rw [intValue, if_neg (by simp), Option.bind_some, Js.parseInt_decimal h, Option.getD_some]
  rw [hread] at hw
  rcases lt_trichotomy n 0 with hneg | rfl | hposn
  · -- The daemon takes a negative integer for a huge one.
    have hlow : number n ≤ 0 := by
      rw [number, if_neg (not_le.mpr hneg)]
      omega
    rw [if_pos hneg, if_pos (by omega)] at hw
    have hhuge : Js.safeLimit ≤ Js.roundDouble w.toNat := Js.safeLimit_le_roundDouble (by omega)
    rw [if_pos (by omega), number, if_pos (Int.natCast_nonneg _), Int.toNat_natCast]
    exact iff_of_false (by omega) (by omega)
  · have hzero : number 0 = 0 := rfl
    rw [if_neg (lt_irrefl 0), Int.natAbs_zero, if_neg (by omega), if_neg (by simp)] at hw
    have hw : w.toNat = default := Int.ofNat_inj.mp hw
    rw [hzero, if_pos (by omega), hw, Js.number_natCast hdefault]
    omega
  · obtain ⟨m, rfl⟩ := Int.eq_ofNat_of_zero_le hposn.le
    have habs : (if (m : ℤ) < 0 then 2 ^ 64 - (m : ℤ).natAbs else (m : ℤ).natAbs) = m := by
      rw [if_neg (by omega), Int.natAbs_natCast]
    rw [habs] at hw
    have hround := Js.natCast_le_number_iff hminimum m
    rcases Nat.lt_or_ge m minimum with hsmall | hlarge
    · rw [if_neg (by omega), if_pos hposn] at hw
      have hw : w.toNat = minimum := Int.ofNat_inj.mp hw
      rw [if_pos (by omega), hw, Js.number_natCast hminimum]
      exact iff_of_true rfl (.inl hposn)
    · rw [if_pos (Int.ofNat_le.mpr hlarge)] at hw
      have hw : w.toNat = m := Int.ofNat_inj.mp hw
      rw [if_neg (by omega), hw]
      exact iff_of_true rfl (.inl hposn)

/-- What the daemon keeps of the window. -/
theorem toNat_activeClientWindowMs (opts : MainOptions) {text : CStr}
    (h : opts.activeClientWindowMs = some text) :
    ((loadConfig (some opts)).collector.activeClientWindowMs.toNat : ℤ) =
      if (1000 : ℤ) ≤ (parseUnsigned text).toNat then ((parseUnsigned text).toNat : ℤ)
      else if 0 < ((parseUnsigned text).toNat : ℤ) then (1000 : ℤ) else 10000 := by
  have hkept := numeric_loadConfig opts .activeClientWindowMs
  rw [keptNumeric, MainOptions.numeric, h, Option.elim_some,
    NumericRange.kept_of_unbounded rfl] at hkept
  exact hkept

/-- What it keeps of the minimum rate. -/
theorem toNat_activeClientMinBps (opts : MainOptions) {text : CStr}
    (h : opts.activeClientMinBps = some text) :
    ((loadConfig (some opts)).collector.activeClientMinBps.toNat : ℤ) =
      if (1 : ℤ) ≤ (parseUnsigned text).toNat then ((parseUnsigned text).toNat : ℤ)
      else if 0 < ((parseUnsigned text).toNat : ℤ) then (1 : ℤ) else 1 := by
  have hkept := numeric_loadConfig opts .activeClientMinBps
  rw [keptNumeric, MainOptions.numeric, h, Option.elim_some,
    NumericRange.kept_of_unbounded rfl] at hkept
  exact hkept

/-- What it keeps of an option that is not there. -/
theorem toNat_of_unset (opts : MainOptions) :
    (opts.activeClientWindowMs = none →
      (loadConfig (some opts)).collector.activeClientWindowMs.toNat = 10000) ∧
      (opts.activeClientMinBps = none →
        (loadConfig (some opts)).collector.activeClientMinBps.toNat = 1) := by
  constructor
  · intro h
    have hkept := numeric_loadConfig opts .activeClientWindowMs
    rw [keptNumeric, MainOptions.numeric, h, Option.elim_none] at hkept
    exact Int.ofNat_inj.mp hkept
  · intro h
    have hkept := numeric_loadConfig opts .activeClientMinBps
    rw [keptNumeric, MainOptions.numeric, h, Option.elim_none] at hkept
    exact Int.ofNat_inj.mp hkept

/-- The settings page shows what the daemon runs with exactly when the window is positive, the
minimum rate is not negative, and no unknown mode hides the old option. -/
theorem load_eq_runningValues_iff (opts : MainOptions) {window minBps : Option ℤ}
    (hwindow : Configured opts.activeClientWindowMs window)
    (hminBps : Configured opts.activeClientMinBps minBps) :
    load opts = runningValues (loadConfig (some opts)).collector ↔
      (∀ n ∈ window, 0 < n) ∧ (∀ n ∈ minBps, 0 ≤ n) ∧ ¬ RateModeHidden opts ∧
      ¬ ConnModeHidden opts := by
  have hunset := toNat_of_unset opts
  have hwindow : (load opts).activeClientWindowMs =
      (runningValues (loadConfig (some opts)).collector).activeClientWindowMs ↔
      ∀ n ∈ window, 0 < n := by
    have hload : (load opts).activeClientWindowMs =
        intValue opts.activeClientWindowMs (10000 : ℕ) (1000 : ℕ) 0 := rfl
    rw [hload, runningValues]
    dsimp only
    cases htext : opts.activeClientWindowMs with
    | none =>
      rw [htext] at hwindow
      cases hwindow
      rw [hunset.1 htext]
      exact iff_of_true (by decide) (by simp)
    | some text =>
      have hkept := toNat_activeClientWindowMs opts htext
      rw [htext] at hwindow
      cases hwindow with
      | @integer _ n h hn =>
        rw [intValue_eq_kept_iff h hn 1000 10000 (by decide) (by decide) (by decide) hkept]
        simp
  have hminBps : (load opts).activeClientMinBps =
      (runningValues (loadConfig (some opts)).collector).activeClientMinBps ↔
      ∀ n ∈ minBps, 0 ≤ n := by
    have hload :
        (load opts).activeClientMinBps = intValue opts.activeClientMinBps (1 : ℕ) (1 : ℕ) 0 := rfl
    rw [hload, runningValues]
    dsimp only
    cases htext : opts.activeClientMinBps with
    | none =>
      rw [htext] at hminBps
      cases hminBps
      rw [hunset.2 htext]
      exact iff_of_true (by decide) (by simp)
    | some text =>
      have hkept := toNat_activeClientMinBps opts htext
      rw [htext] at hminBps
      cases hminBps with
      | @integer _ n h hn =>
        rw [intValue_eq_kept_iff h hn 1 1 (by decide) (by decide) (by decide) hkept]
        simp only [Option.mem_some_iff, forall_eq', and_true]
        omega
  have hrate := rateMode_load_iff opts
  have hconn := connMode_load_iff opts
  rw [← hwindow, ← hminBps, ← hrate, ← hconn]
  constructor
  · intro h
    rw [h]
    exact ⟨rfl, rfl, rfl, rfl⟩
  · rintro ⟨hwindow, hminBps, hrate, hconn⟩
    exact FormValues.ext hrate hconn hwindow hminBps

/-- A package written by hand, with a mode that neither program knows and a negative
minimum rate. -/
def handWritten : MainOptions where
  rateCollectorMode    := some "fast".toList
  collectorMode        := some "bpf".toList
  activeClientWindowMs := some "20000".toList
  activeClientMinBps   := some "-1".toList

/-- A package that was written by hand may show what the daemon does not run with. -/
theorem load_eq_runningValues_handWritten :
    load handWritten ≠ runningValues (loadConfig (some handWritten)).collector := by
  have hwindow : Configured handWritten.activeClientWindowMs (some 20000) :=
    .integer (CText.DecimalInteger.toDigits 20000) (by decide)
  have hminBps : Configured handWritten.activeClientMinBps (some (-1)) :=
    .integer (CText.DecimalInteger.minus (List.cons_ne_nil '1' [])
      (List.forall_mem_singleton.mpr rfl)) (by decide)
  exact mt (load_eq_runningValues_iff handWritten hwindow hminBps).mp fun h =>
    absurd (h.2.1 (-1) rfl) (by decide)

/-! ## A save and its way back -/

section Save

variable (opts : MainOptions) (form : FormTexts)

/-- The package after a save of the form. -/
def saved : MainOptions := withSettings opts (readForm form).settings.uciValues

/-- The form has one of the two modes of the rates. -/
theorem rateCollectorModeValue_mem (value : CStr) :
    rateCollectorModeValue value ∈ ["bpf".toList, "auto".toList] := by
  unfold rateCollectorModeValue
  split_ifs with hbpf
  · exact hbpf ▸ List.mem_cons_self
  · exact List.mem_cons_of_mem _ List.mem_cons_self

/-- The form has one of the three modes of the connections. -/
theorem connCollectorModeValue_mem (value : CStr) :
    connCollectorModeValue value ∈ ["conntrack_netlink".toList,
      "conntrack_procfs".toList, "auto".toList] := by
  unfold connCollectorModeValue
  split_ifs with hforced
  · rcases hforced with rfl | rfl
    · exact List.mem_cons_self
    · exact List.mem_cons_of_mem _ List.mem_cons_self
  · exact List.mem_cons_of_mem _ (List.mem_cons_of_mem _ List.mem_cons_self)

/-- What is normalised once stays as it is. -/
theorem rateCollectorModeValue_idem (value : CStr) :
    rateCollectorModeValue (rateCollectorModeValue value) = rateCollectorModeValue value := by
  have hmem := rateCollectorModeValue_mem value
  simp only [List.mem_cons, List.not_mem_nil, or_false] at hmem
  rcases hmem with h | h <;> rw [h] <;> rfl

/-- A mode of the form is shown as it is. -/
theorem connCollectorModeValue_idem (value : CStr) :
    connCollectorModeValue (connCollectorModeValue value) = connCollectorModeValue value := by
  have hmem := connCollectorModeValue_mem value
  simp only [List.mem_cons, List.not_mem_nil, or_false] at hmem
  rcases hmem with h | h | h <;> rw [h] <;> rfl

/-- The daemon runs with the modes of the form, whatever modes the package had. -/
theorem modes_saved :
    collectorModeName (modes (loadConfig (some (saved opts form))).collector).1 =
        (readForm form).rateCollectorMode ∧
      collectorModeName (modes (loadConfig (some (saved opts form))).collector).2 =
        (readForm form).connCollectorMode := by
  have hrate := rateCollectorModeValue_mem form.rateCollectorMode
  have hconn := connCollectorModeValue_mem form.connCollectorMode
  rw [modes_loadConfig]
  show collectorModeName (rateModeOf (some (rateCollectorModeValue _)) _) =
      rateCollectorModeValue _ ∧
    collectorModeName (connModeOf (some (connCollectorModeValue _)) _) = connCollectorModeValue _
  simp only [List.mem_cons, List.not_mem_nil, or_false] at hrate hconn
  constructor
  · rcases hrate with hrate | hrate <;> rw [hrate] <;> rfl
  · rcases hconn with hconn | hconn | hconn <;> rw [hconn] <;> rfl

/-- The numbers of a form are doubles that are not below their minima. -/
theorem exists_doubles_readForm :
    ∃ window minBps : ℕ, (readForm form).activeClientWindowMs = window ∧
      (readForm form).activeClientMinBps = minBps ∧ Js.roundDouble window = window ∧
        Js.roundDouble minBps = minBps ∧ 1000 ≤ window ∧ 1 ≤ minBps := by
  obtain ⟨window, hwindow, hwindowDouble, hwindowLe⟩ :=
    exists_double_intValue (some form.activeWindow) 10000 1000 (by decide) (by decide)
  obtain ⟨minBps, hminBps, hminBpsDouble, hminBpsLe⟩ :=
    exists_double_intValue (some form.activeMin) 1 1 (by decide) (by decide)
  exact ⟨window, minBps, hwindow, hminBps, hwindowDouble, hminBpsDouble, hwindowLe, hminBpsLe⟩

/-- The form that is filled in after a save reads as what was saved exactly when its numbers are
below `10 ^ 21`. -/
theorem readForm_fillForm_iff :
    readForm (fillForm (readForm form)) = readForm form ↔
      (readForm form).activeClientWindowMs < 10 ^ 21 ∧
      (readForm form).activeClientMinBps < 10 ^ 21 := by
  obtain ⟨window, minBps, hwindow, hminBps, hwindowDouble, hminBpsDouble, hwindowLe, hminBpsLe⟩ :=
    exists_doubles_readForm form
  have hlimit : Js.exponentLimit = 10 ^ 21 := rfl
  have hrate : (readForm (fillForm (readForm form))).rateCollectorMode =
      (readForm form).rateCollectorMode := by
    simp only [readForm, fillForm, rateCollectorModeValue_idem]
  have hconn : (readForm (fillForm (readForm form))).connCollectorMode =
      (readForm form).connCollectorMode := by
    simp only [readForm, fillForm, connCollectorModeValue_idem]
  have hwindowRead : (readForm (fillForm (readForm form))).activeClientWindowMs = window ↔
      window < Js.exponentLimit := by
    rw [← intValue_string_iff 10000 1000 (by decide) (by decide) hwindowDouble hwindowLe, ← hwindow]
    rfl
  have hminBpsRead : (readForm (fillForm (readForm form))).activeClientMinBps = minBps ↔
      minBps < Js.exponentLimit := by
    rw [← intValue_string_iff 1 1 (by decide) (by decide) hminBpsDouble hminBpsLe, ← hminBps]
    rfl
  rw [FormValues.ext_iff, and_iff_right hrate, and_iff_right hconn,
    hwindow, hminBps, hwindowRead, hminBpsRead, hlimit]
  omega

/-- The settings page reads from the package what it would read from the form that it fills in. -/
theorem load_saved : load (saved opts form) = readForm (fillForm (readForm form)) := by
  have hrate : rateCollectorModeValue form.rateCollectorMode ≠ [] := by
    intro h
    exact absurd (h ▸ rateCollectorModeValue_mem form.rateCollectorMode) (by decide)
  have hconn : connCollectorModeValue form.connCollectorMode ≠ [] := by
    intro h
    exact absurd (h ▸ connCollectorModeValue_mem form.connCollectorMode) (by decide)
  have horElse : ∀ {value : CStr} (other : CStr), value ≠ [] →
      orElse (some value) other = value := by
    intro value other h
    rw [orElse, Option.filter_some_pos (by simpa using h), Option.getD_some]
  refine FormValues.ext ?_ ?_ rfl rfl
  · show rateCollectorModeValue (orElse (some (rateCollectorModeValue _)) _) = _
    rw [horElse _ hrate]
    simp only [readForm, fillForm, rateCollectorModeValue_idem]
  · show connCollectorModeValue (orElse (some (connCollectorModeValue _)) _) = _
    rw [horElse _ hconn]
    simp only [readForm, fillForm, connCollectorModeValue_idem]

end Save

/-- What was on the form comes back through the daemon to the status page exactly when both numbers
are below `2 ^ 63`, and through the package to the settings page exactly when both are below `10 ^
21`; the daemon runs with the modes of the form in any case. -/
theorem saved_settings_read_back_iff (opts : MainOptions) (form : FormTexts) :
    let values := readForm form
    let cfg := (loadConfig (some (saved opts form))).collector
    (shownThresholds (saved opts form) = ⟨values.activeClientWindowMs, values.activeClientMinBps⟩ ↔
        values.activeClientWindowMs < 2 ^ 63 ∧ values.activeClientMinBps < 2 ^ 63) ∧
      (load (saved opts form) = values ↔
        values.activeClientWindowMs < 10 ^ 21 ∧ values.activeClientMinBps < 10 ^ 21) ∧
      collectorModeName cfg.rateCollectorMode = values.rateCollectorMode ∧
      collectorModeName cfg.connCollectorMode = values.connCollectorMode := by
  intro values cfg
  refine ⟨?_, load_saved opts form ▸ readForm_fillForm_iff form, modes_saved opts form⟩
  obtain ⟨window, minBps, hwindow, hminBps, hwindowDouble, hminBpsDouble, hwindowLe, hminBpsLe⟩ :=
    exists_doubles_readForm form
  have hwindowText : (saved opts form).activeClientWindowMs = some (Js.string window) :=
    congrArg (fun n => some (Js.string n)) hwindow
  have hminBpsText : (saved opts form).activeClientMinBps = some (Js.string minBps) :=
    congrArg (fun n => some (Js.string n)) hminBps
  have hwindowShown :=
    positiveNumber_kept_iff (by decide) (by decide) (by decide) hwindowDouble hwindowLe
    (toNat_activeClientWindowMs (saved opts form) hwindowText)
  have hminBpsShown :=
    positiveNumber_kept_iff (by decide) (by decide) (by decide) hminBpsDouble hminBpsLe
    (toNat_activeClientMinBps (saved opts form) hminBpsText)
  have hshown : shownThresholds (saved opts form) =
      ⟨positiveNumber (some (jsonInt64 cfg.activeClientWindowMs)) (10000 : ℕ),
        positiveNumber (some (jsonInt64 cfg.activeClientMinBps)) (1 : ℕ)⟩ := rfl
  rw [hshown, hwindow, hminBps, ActiveConfig.mk.injEq, hwindowShown, hminBpsShown]
  omega

/-! ## The saves of a session -/

/-- A save of the page. -/
inductive PageSave
  | settings (form : FormTexts) (set commit : UciAnswer)
  | ifaces (answers : SaveAnswers) (sel : IfaceSelections)

/-- The session after a save. -/
def pageStep (s : PageSession) : PageSave → PageSession
  | .settings form set commit => saveDaemonSettings s ⟨(readForm form).settings, set, commit⟩
  | .ifaces answers sel => s.saveIfaces answers sel

/-- The settings that a save stages. -/
def PageSave.staged : PageSave → Option SettingsOptions
  | .settings form set _ => if set = .done then some (readForm form).settings.uciValues else none
  | .ifaces _ _ => none

/-- A save commits what is staged for the package. -/
def PageSave.commits : PageSave → Bool
  | .settings _ set commit => UciAnswer.commits set commit
  | .ifaces answers sel => decide (¬ sel.Refused) && UciAnswer.commits answers.set answers.commit

/-- The package that a daemon reads which is started behind a session. -/
def packageOf (opts : MainOptions) (s : PageSession) : MainOptions :=
  withSettings { opts with ifaces := s.ifaces.committed } s.committedSettings

/-- What a save does to the settings. -/
theorem settings_pageStep (s : PageSession) (save : PageSave) :
    (pageStep s save).pendingSettings = save.staged.getD s.pendingSettings ∧
      (pageStep s save).committedSettings =
        if save.commits then save.staged.getD s.pendingSettings else s.committedSettings := by
  cases save with
  | settings form set commit => cases set <;> cases commit <;> exact ⟨rfl, rfl⟩
  | ifaces answers sel =>
    refine ⟨rfl, ?_⟩
    simp only [pageStep, PageSession.saveIfaces, PageSave.commits,
      PageSave.staged, Option.getD_none, Bool.and_eq_true, decide_eq_true_eq]

/-- Saves that stage no settings commit those that are staged, once one of them commits. -/
theorem settings_run_of_none_staged (s : PageSession) {saves : List PageSave}
    (h : ∀ save ∈ saves, save.staged = none) :
    (Machine.run pageStep s saves).pendingSettings = s.pendingSettings ∧
      (Machine.run pageStep s saves).committedSettings =
        if saves.any PageSave.commits then s.pendingSettings else s.committedSettings := by
  induction saves generalizing s with
  | nil => exact ⟨rfl, rfl⟩
  | cons save saves ih =>
    obtain ⟨hsave, hsaves⟩ := List.forall_mem_cons.mp h
    obtain ⟨hpending, hcommitted⟩ := settings_pageStep s save
    obtain ⟨ihPending, ihCommitted⟩ := ih (pageStep s save) hsaves
    rw [hsave, Option.getD_none] at hpending hcommitted
    rw [Machine.run_cons, ihPending, ihCommitted, hpending, hcommitted, List.any_cons]
    refine ⟨rfl, ?_⟩
    cases save.commits <;> cases saves.any PageSave.commits <;> rfl

/-- In every run of saves the package ends with the form that was staged last, exactly from the
first save on that commits it: also a save of the interfaces or of a later form that is not staged,
when the page has said that the save of the form failed. The daemon behind it then shows that form
as far as its numbers are below `2 ^ 63`. -/
theorem staged_form_is_committed (opts : MainOptions) (s : PageSession)
    (before after : List PageSave)
    (form : FormTexts) (commit : UciAnswer) (hafter : ∀ save ∈ after, save.staged = none) :
    let values := readForm form
    let atSave := Machine.run pageStep s before
    let atEnd := Machine.run pageStep atSave (.settings form .done commit :: after)
    atEnd.committedSettings =
        (if commit = .done ∨ after.any PageSave.commits = true then values.settings.uciValues
          else atSave.committedSettings) ∧
      (commit = .done ∨ after.any PageSave.commits = true →
        (shownThresholds (packageOf opts atEnd) = ⟨values.activeClientWindowMs,
          values.activeClientMinBps⟩ ↔
          values.activeClientWindowMs < 2 ^ 63 ∧ values.activeClientMinBps < 2 ^ 63)) := by
  intro values atSave atEnd
  obtain ⟨hpending, hcommitted⟩ := settings_pageStep atSave (.settings form .done commit)
  have hrun :=
    (settings_run_of_none_staged (pageStep atSave (.settings form .done commit)) hafter).2
  have hend : atEnd.committedSettings =
      if commit = .done ∨ after.any PageSave.commits = true then values.settings.uciValues
      else atSave.committedSettings := by
    show (Machine.run pageStep (pageStep atSave (.settings form .done commit))
          after).committedSettings = _
    rw [hrun, hpending, hcommitted]
    cases commit <;> cases after.any PageSave.commits <;> rfl
  refine ⟨hend, fun hcommits => ?_⟩
  rw [if_pos hcommits] at hend
  rw [packageOf, hend]
  exact (saved_settings_read_back_iff { opts with ifaces := atEnd.ifaces.committed } form).1

/-- The page says that the save of a window of 20 s has failed. A save of another form whose set
fails puts it into force, where LuCI's `rpc` resolves the promise of that set. -/
theorem staged_form_is_committed_later :
    let form : FormTexts := ⟨"auto".toList, "auto".toList, "20000".toList, "1".toList⟩
    let other : FormTexts := ⟨"auto".toList, "auto".toList, "30000".toList, "1".toList⟩
    let saves : List PageSave := [.settings form .done .rejected, .settings other .status .done]
    let s := Machine.run pageStep (PageSession.fresh twoLanConfig defaultSettings.uciValues) saves
    s.committedSettings = (readForm form).settings.uciValues ∧
      shownThresholds (packageOf {} s) = ⟨20000, 1⟩ := by
  intro form other saves s
  have hrun :=
    staged_form_is_committed {} (PageSession.fresh twoLanConfig defaultSettings.uciValues) []
    [.settings other .status .done] form .rejected (by simp [PageSave.staged])
  exact ⟨hrun.1, (hrun.2 (by decide)).mpr (by decide +kernel)⟩

end SettingsPage

end Lanspeed
