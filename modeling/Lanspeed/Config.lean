import Lanspeed.InterfaceRates
import Lanspeed.Nss
import Lanspeed.Rings

/-!
# The configuration of the daemon

`load_config` sets the static variables of the configuration from the options of `lanspeed.main`,
once at the start. A numeric option is raised to its minimum; whatever its text is, what the daemon
keeps is in the range that it needs (`inRange_loadConfig`). The documented value of an option comes
out unless the text is negative and the option is read with `strtoull`
(`numeric_option_clamped_iff`). The interface lists are the first distinct names that qualify
(`interface_lists_of_config`).
-/

namespace Lanspeed

/-! ## Loading -/

/-- `MIN_REFRESH_INTERVAL_MS`. -/
def minRefreshIntervalMs : ℤ := 500

/-- `MIN_ACTIVE_CLIENT_WINDOW_MS`. -/
def minActiveClientWindowMs : UInt64 := 1000

/-- `DEFAULT_ACTIVE_CLIENT_MIN_BPS`. -/
def defaultActiveClientMinBps : UInt64 := 1

/-- The options of `lanspeed.main` that `load_config` reads. An option that is not of interfaces is
a string; the source does not look at its type. -/
structure MainOptions where
  refreshIntervalMs       : Option CStr := none
  activeClientWindowMs    : Option CStr := none
  activeClientMinBps      : Option CStr := none
  overviewWindowSamples   : Option CStr := none
  maxClients              : Option CStr := none
  collectorMode           : Option CStr := none
  rateCollectorMode       : Option CStr := none
  connCollectorMode       : Option CStr := none
  enableBpf               : Option CStr := none
  enableConntrackFallback : Option CStr := none
  ifaces                  : IfaceOptions := ⟨none, none, none⟩
deriving DecidableEq, Repr

/-- The static variables that `load_config` sets, as they are at program start. -/
structure DaemonConfig where
  collector                    : CollectorConfig := {}
  overviewWindowSamples        : ℤ := lanspeedOverviewWindow
  refreshIntervalClamped       : Bool := false
  activeClientWindowClamped    : Bool := false
  activeClientMinBpsClamped    : Bool := false
  overviewWindowSamplesClamped : Bool := false
  ifaces                       : IfaceLists := ⟨[], [], false⟩
deriving DecidableEq, Repr

/-- `parse_rate_collector_mode`. -/
def parseRateCollectorMode (value : CStr) (fallback : CollectorModeSetting) :
    CollectorModeSetting :=
  if value == "bpf".toList then .bpf
  else if value == "auto".toList then .auto
  else fallback

/-- `parse_conn_collector_mode`. -/
def parseConnCollectorMode (value : CStr) (fallback : CollectorModeSetting) :
    CollectorModeSetting :=
  if value == "conntrack_netlink".toList then .conntrackNetlink
  else if value == "conntrack_procfs".toList then .conntrackProcfs
  else if value == "auto".toList then .auto
  else fallback

/-- `apply_legacy_collector_mode`. -/
def applyLegacyCollectorMode (cfg : CollectorConfig) (value : CStr) : CollectorConfig :=
  if value == "bpf".toList then { cfg with rateCollectorMode := .bpf }
  else if value == "conntrack_netlink".toList then
    { cfg with connCollectorMode := .conntrackNetlink }
  else if value == "conntrack_procfs".toList then { cfg with connCollectorMode := .conntrackProcfs }
  else if value == "auto".toList then
    { cfg with rateCollectorMode := .auto, connCollectorMode := .auto }
  else cfg

/-- A value with a minimum only: what is kept of the parsed number, and whether it was clamped. A
number that is not positive leaves the value as it is. -/
def atLeast {α : Type*} [Zero α] [LE α] [LT α] [DecidableLE α]
    [DecidableLT α] (minimum parsed current : α) :
    α × Bool :=
  if minimum ≤ parsed then (parsed, false)
  else if 0 < parsed then (minimum, true)
  else (current, false)

/-- `strtoull(value, NULL, 10)`. -/
def parseUnsigned (value : CStr) : UInt64 := UInt64.ofNat ((CText.strtoull value).getD 0)

/-- The option `refresh_interval_ms`. -/
def loadRefreshInterval (cfg : DaemonConfig) (value : CStr) : DaemonConfig :=
  let (kept, clamped) :=
    atLeast minRefreshIntervalMs (atoi value).toInt cfg.collector.refreshIntervalMs
  { cfg with
    collector := { cfg.collector with refreshIntervalMs := kept }
    refreshIntervalClamped := cfg.refreshIntervalClamped || clamped }

/-- The option `active_client_window_ms`. -/
def loadActiveClientWindow (cfg : DaemonConfig) (value : CStr) : DaemonConfig :=
  let (kept, clamped) :=
    atLeast minActiveClientWindowMs (parseUnsigned value) cfg.collector.activeClientWindowMs
  { cfg with
    collector := { cfg.collector with activeClientWindowMs := kept }
    activeClientWindowClamped := cfg.activeClientWindowClamped || clamped }

/-- The option `active_client_min_bps`: zero is clamped too. -/
def loadActiveClientMinBps (cfg : DaemonConfig) (value : CStr) : DaemonConfig :=
  let parsed := parseUnsigned value
  if defaultActiveClientMinBps ≤ parsed then
    { cfg with collector := { cfg.collector with activeClientMinBps := parsed } }
  else
    { cfg with
      collector := { cfg.collector with activeClientMinBps := defaultActiveClientMinBps }
      activeClientMinBpsClamped := true }

/-- The option `overview_window_samples`. -/
def loadOverviewWindow (cfg : DaemonConfig) (value : CStr) : DaemonConfig :=
  let parsed := (atoi value).toInt
  if minOverviewWindowSamples ≤ parsed ∧ parsed ≤ lanspeedOverviewWindow then
    { cfg with overviewWindowSamples := parsed }
  else if 0 < parsed then
    { cfg with
      overviewWindowSamples :=
        if parsed < minOverviewWindowSamples then minOverviewWindowSamples
          else lanspeedOverviewWindow
      overviewWindowSamplesClamped := true }
  else cfg

/-- The option `max_clients`. -/
def loadMaxClients (cfg : CollectorConfig) (value : CStr) : CollectorConfig :=
  let parsed := (atoi value).toInt
  if 0 ≤ parsed then { cfg with maxClients := parsed } else cfg

/-- The buffer `value` of `load_config`. -/
def loadConfigValue (value : CStr) : CStr := snprintf 32 value

/-- The text of an option that is switched on. -/
def isSwitchedOn (value : CStr) : Bool := value == "1".toList || value == "true".toList

/-- Apply an option that is there. -/
def onOption {σ : Type*} (value : Option CStr) (load : σ → CStr → σ) (cfg : σ) : σ :=
  value.elim cfg (load cfg)

/-- The options of the collectors that are not numbers with a minimum. -/
def loadCollectorOptions (opts : MainOptions) (cfg : CollectorConfig) : CollectorConfig :=
  let cfg := onOption opts.maxClients loadMaxClients cfg
  let cfg := onOption opts.collectorMode (fun cfg value =>
    applyLegacyCollectorMode cfg (loadConfigValue value)) cfg
  let cfg := onOption opts.rateCollectorMode (fun cfg value =>
    { cfg with
      rateCollectorMode :=
        parseRateCollectorMode (loadConfigValue value) cfg.rateCollectorMode }) cfg
  let cfg := onOption opts.connCollectorMode (fun cfg value =>
    { cfg with
      connCollectorMode :=
        parseConnCollectorMode (loadConfigValue value) cfg.connCollectorMode }) cfg
  let cfg := onOption opts.enableBpf (fun cfg value =>
    { cfg with enableBpf := isSwitchedOn (loadConfigValue value) }) cfg
  onOption opts.enableConntrackFallback (fun cfg value =>
    { cfg with enableConntrackFallback := isSwitchedOn (loadConfigValue value) }) cfg

/-- `load_config`; without a UCI context everything stays as it is at program start. -/
def loadConfig (uci : Option MainOptions) : DaemonConfig :=
  match uci with
  | none => {}
  | some opts =>
    let cfg := onOption opts.refreshIntervalMs loadRefreshInterval {}
    let cfg := onOption opts.activeClientWindowMs loadActiveClientWindow cfg
    let cfg := onOption opts.activeClientMinBps loadActiveClientMinBps cfg
    let cfg := onOption opts.overviewWindowSamples loadOverviewWindow cfg
    { cfg with
      collector := loadCollectorOptions opts cfg.collector
      ifaces := loadIfaceLists opts.ifaces }

/-! ## Numeric options -/

/-- The numeric options with a documented range. -/
inductive NumericOption where
  | refreshIntervalMs
  | activeClientWindowMs
  | activeClientMinBps
  | overviewWindowSamples
deriving DecidableEq, Repr

/-- What is documented of a numeric option. -/
structure NumericRange where
  minimum : ℤ
  maximum : Option ℤ
  default : ℤ

namespace NumericRange

variable (r : NumericRange)

/-- A number is in the range. -/
def Contains (n : ℤ) : Prop := r.minimum ≤ n ∧ ∀ maximum ∈ r.maximum, n ≤ maximum

/-- The bound that is nearest to a number out of the range. -/
def nearest (n : ℤ) : ℤ := if n < r.minimum then r.minimum else r.maximum.getD n

/-- What may come out for an integer that is configured: the integer if it is in the range, the
nearest bound if it is positive and not in the range, and the default or the minimum if it is not
positive. -/
structure Documented (n result : ℤ) : Prop where
  in_range     : r.Contains n → result = n
  out_of_range : 0 < n → ¬ r.Contains n → result = r.nearest n
  not_positive : n ≤ 0 → result = r.default ∨ result = r.minimum

end NumericRange

namespace NumericOption

/-- The documented ranges. -/
def range : NumericOption → NumericRange
  | refreshIntervalMs     => { minimum := 500, maximum := none, default := 1000 }
  | activeClientWindowMs  => { minimum := 1000, maximum := none, default := 10000 }
  | activeClientMinBps    => { minimum := 1, maximum := none, default := 1 }
  | overviewWindowSamples => { minimum := 2, maximum := some 240, default := 240 }

/-- The option is read with `strtoull`. -/
def IsUnsigned (opt : NumericOption) : Prop := opt = activeClientWindowMs ∨ opt = activeClientMinBps

/-- The number that the daemon reads in the text of an option. -/
def parse : NumericOption → CStr → ℤ
  | refreshIntervalMs, value     => (atoi value).toInt
  | activeClientWindowMs, value  => (parseUnsigned value).toNat
  | activeClientMinBps, value    => (parseUnsigned value).toNat
  | overviewWindowSamples, value => (atoi value).toInt

/-- How `load_config` takes an option. -/
def load : NumericOption → DaemonConfig → CStr → DaemonConfig
  | refreshIntervalMs     => loadRefreshInterval
  | activeClientWindowMs  => loadActiveClientWindow
  | activeClientMinBps    => loadActiveClientMinBps
  | overviewWindowSamples => loadOverviewWindow

end NumericOption

/-- The text of a numeric option. -/
def MainOptions.numeric (opts : MainOptions) : NumericOption → Option CStr
  | .refreshIntervalMs     => opts.refreshIntervalMs
  | .activeClientWindowMs  => opts.activeClientWindowMs
  | .activeClientMinBps    => opts.activeClientMinBps
  | .overviewWindowSamples => opts.overviewWindowSamples

/-- What the daemon keeps of a numeric option. -/
def DaemonConfig.numeric (cfg : DaemonConfig) : NumericOption → ℤ
  | .refreshIntervalMs     => cfg.collector.refreshIntervalMs
  | .activeClientWindowMs  => cfg.collector.activeClientWindowMs.toNat
  | .activeClientMinBps    => cfg.collector.activeClientMinBps.toNat
  | .overviewWindowSamples => cfg.overviewWindowSamples

namespace NumericRange

instance (r : NumericRange) (n : ℤ) : Decidable (r.Contains n) :=
  inferInstanceAs (Decidable (_ ∧ _))

/-- What is kept of a number that was read. -/
def kept (r : NumericRange) (parsed : ℤ) : ℤ :=
  if r.Contains parsed then parsed
  else if 0 < parsed then r.nearest parsed
  else r.default

/-- A range with a positive minimum that its default is in. -/
structure WellFormed (r : NumericRange) : Prop where
  minimum_pos : 0 < r.minimum
  default_mem : r.Contains r.default

variable {r : NumericRange}

/-- The nearest bound is in the range. -/
theorem WellFormed.contains_nearest (h : r.WellFormed) {n : ℤ} (hn : ¬ r.Contains n) :
    r.Contains (r.nearest n) := by
  obtain ⟨hmin, hmax⟩ := h.default_mem
  rw [nearest]
  split_ifs with hlow
  · exact ⟨le_rfl, fun maximum hmem => hmin.trans (hmax maximum hmem)⟩
  · cases hmaximum : r.maximum with
    | none => exact absurd ⟨not_lt.mp hlow, by simp [hmaximum]⟩ hn
    | some maximum =>
      have hbound := hmin.trans (hmax maximum hmaximum)
      refine ⟨hbound, fun m hm => ?_⟩
      rw [hmaximum, Option.mem_some_iff] at hm
      exact hm.le

/-- Whatever was read, what is kept is in the range. -/
theorem WellFormed.contains_kept (h : r.WellFormed) (parsed : ℤ) : r.Contains (r.kept parsed) := by
  rw [kept]
  split_ifs with hin hpos
  · exact hin
  · exact h.contains_nearest hin
  · exact h.default_mem

/-- What is kept of the configured integer itself is what is documented. -/
theorem WellFormed.documented_kept (h : r.WellFormed) (n : ℤ) : r.Documented n (r.kept n) where
  in_range hin := if_pos hin
  out_of_range hpos hout := by rw [kept, if_neg hout, if_pos hpos]
  not_positive hle := by
    have hout : ¬ r.Contains n := fun hin => absurd (h.minimum_pos.trans_le hin.1) (not_lt.mpr hle)
    rw [kept, if_neg hout, if_neg (not_lt.mpr hle)]
    exact .inl rfl

/-- What is kept in a range without a maximum. -/
theorem kept_of_unbounded (h : r.maximum = none) (parsed : ℤ) :
    r.kept parsed =
      if r.minimum ≤ parsed then parsed else if 0 < parsed then r.minimum else r.default := by
  have hin : r.Contains parsed ↔ r.minimum ≤ parsed := and_iff_left (by simp [h])
  by_cases hmin : r.minimum ≤ parsed
  · rw [kept, if_pos (hin.mpr hmin), if_pos hmin]
  · rw [kept, if_neg (mt hin.mp hmin), if_neg hmin, nearest, if_pos (not_le.mp hmin)]

end NumericRange

theorem NumericOption.wellFormed_range (opt : NumericOption) : opt.range.WellFormed := by
  cases opt <;> exact ⟨by decide, by decide⟩

/-- A value with a minimum only that is a word. -/
theorem toNat_atLeast (minimum parsed current : UInt64) :
    ((atLeast minimum parsed current).1.toNat : ℤ) =
      if (minimum.toNat : ℤ) ≤ parsed.toNat then (parsed.toNat : ℤ)
      else if 0 < (parsed.toNat : ℤ) then (minimum.toNat : ℤ)
      else current.toNat := by
  simp only [atLeast, UInt64.le_iff_toNat_le, UInt64.lt_iff_toNat_lt,
    UInt64.toNat_zero, Int.ofNat_le, Int.natCast_pos]
  split_ifs <;> rfl

/-- An option is kept as its range says, where it had its default before. -/
theorem NumericOption.numeric_load (opt : NumericOption) {cfg : DaemonConfig}
    (h : cfg.numeric opt = opt.range.default) (value : CStr) :
    (opt.load cfg value).numeric opt = opt.range.kept (opt.parse value) := by
  cases opt with
  | refreshIntervalMs =>
    rw [NumericRange.kept_of_unbounded rfl, ← h]
    show (atLeast minRefreshIntervalMs (atoi value).toInt cfg.collector.refreshIntervalMs).1 = _
    rw [atLeast, apply_ite Prod.fst, apply_ite Prod.fst]
    rfl
  | activeClientWindowMs =>
    rw [NumericRange.kept_of_unbounded rfl, ← h]
    exact toNat_atLeast minActiveClientWindowMs (parseUnsigned value)
      cfg.collector.activeClientWindowMs
  | activeClientMinBps =>
    -- The default is the minimum, so that clamping zero makes no difference.
    rw [NumericRange.kept_of_unbounded rfl]
    show ((loadActiveClientMinBps cfg value).collector.activeClientMinBps.toNat : ℤ) = _
    have hmin : defaultActiveClientMinBps ≤ parseUnsigned value ↔
        (1 : ℤ) ≤ (parseUnsigned value).toNat := by
      rw [UInt64.le_iff_toNat_le]
      exact Int.ofNat_le.symm
    rw [loadActiveClientMinBps]
    by_cases hle : (1 : ℤ) ≤ (parseUnsigned value).toNat
    · rw [if_pos (hmin.mpr hle)]
      exact (if_pos hle).symm
    · rw [if_neg (mt hmin.mp hle)]
      exact ((if_neg hle).trans (ite_self _)).symm
  | overviewWindowSamples =>
    show (loadOverviewWindow cfg value).overviewWindowSamples =
      overviewWindowSamples.range.kept (atoi value).toInt
    obtain ⟨parsed, hparsed⟩ : ∃ parsed, parsed = (atoi value).toInt := ⟨_, rfl⟩
    have hin : overviewWindowSamples.range.Contains parsed ↔ 2 ≤ parsed ∧ parsed ≤ 240 := by
      simp [NumericRange.Contains, range]
    rw [loadOverviewWindow, ← hparsed, NumericRange.kept, NumericRange.nearest]
    by_cases hinside : 2 ≤ parsed ∧ parsed ≤ 240
    · rw [if_pos (hin.mpr hinside)]
      exact congrArg DaemonConfig.overviewWindowSamples (if_pos hinside)
    · rw [if_neg (mt hin.mp hinside), ← h]
      refine (congrArg DaemonConfig.overviewWindowSamples (if_neg hinside)).trans ?_
      by_cases hpos : 0 < parsed
      · rw [if_pos hpos, if_pos hpos]
        rfl
      · rw [if_neg hpos, if_neg hpos]
        rfl

/-- An option leaves the others as they are. -/
theorem NumericOption.numeric_load_of_ne {opt opt' : NumericOption}
    (h : opt ≠ opt') (cfg : DaemonConfig)
    (value : CStr) : (opt.load cfg value).numeric opt' = cfg.numeric opt' := by
  cases opt with
  | refreshIntervalMs => cases opt' <;> first | exact absurd rfl h | rfl
  | activeClientWindowMs => cases opt' <;> first | exact absurd rfl h | rfl
  | activeClientMinBps =>
    show (loadActiveClientMinBps cfg value).numeric opt' = cfg.numeric opt'
    unfold loadActiveClientMinBps
    dsimp only
    split_ifs <;> cases opt' <;> first | exact absurd rfl h | rfl
  | overviewWindowSamples =>
    show (loadOverviewWindow cfg value).numeric opt' = cfg.numeric opt'
    unfold loadOverviewWindow
    dsimp only
    split_ifs <;> cases opt' <;> first | exact absurd rfl h | rfl

/-- What applying an option leaves as it is. -/
theorem onOption_frame {σ γ : Type*} (view : σ → γ) {load : σ → CStr → σ}
    (h : ∀ cfg value, view (load cfg value) = view cfg) (value : Option CStr) (cfg : σ) :
    view (onOption value load cfg) = view cfg := by
  cases value with
  | none => rfl
  | some value => exact h cfg value

section Loaded

variable (opts : MainOptions)

/-- The part of `load_config` for one numeric option. -/
def loadNumeric (cfg : DaemonConfig) (opt : NumericOption) : DaemonConfig :=
  onOption (opts.numeric opt) opt.load cfg

/-- What comes out for a numeric option: its default, or what its range keeps of the number that is
read. -/
def keptNumeric (opt : NumericOption) : ℤ :=
  (opts.numeric opt).elim opt.range.default fun value => opt.range.kept (opt.parse value)

/-- Loading one numeric option changes this one only. -/
theorem numeric_loadNumeric {cfg : DaemonConfig} {opt : NumericOption}
    (h : cfg.numeric opt = opt.range.default) (opt' : NumericOption) :
    (loadNumeric opts cfg opt).numeric opt' = if opt = opt' then keptNumeric opts opt'
      else cfg.numeric opt' := by
  split_ifs with hopt
  · subst hopt
    rw [loadNumeric, keptNumeric]
    cases opts.numeric opt with
    | none => exact h
    | some value => exact opt.numeric_load h value
  · exact onOption_frame (DaemonConfig.numeric · opt') (opt.numeric_load_of_ne hopt) _ cfg

/-- The numeric options do not interfere with each other. -/
theorem numeric_foldl_loadNumeric {order : List NumericOption}
    (horder : order.Nodup) {cfg : DaemonConfig}
    (hdefault : ∀ opt ∈ order, cfg.numeric opt = opt.range.default) (opt : NumericOption) :
    (order.foldl (loadNumeric opts) cfg).numeric opt =
      if opt ∈ order then keptNumeric opts opt else cfg.numeric opt := by
  induction order generalizing cfg with
  | nil => rfl
  | cons first order ih =>
    obtain ⟨hfresh, horder⟩ := List.nodup_cons.mp horder
    obtain ⟨hfirst, hdefault⟩ := List.forall_mem_cons.mp hdefault
    have hstep := numeric_loadNumeric opts hfirst
    have hnext : ∀ o ∈ order, (loadNumeric opts cfg first).numeric o = o.range.default := by
      intro o ho
      have hne : first ≠ o := fun heq => hfresh (heq ▸ ho)
      rw [hstep, if_neg hne]
      exact hdefault o ho
    rw [List.foldl_cons, ih horder hnext, hstep]
    by_cases hopt : first = opt
    · subst hopt
      rw [if_neg hfresh, if_pos rfl, if_pos List.mem_cons_self]
    · rw [if_neg hopt]
      simp only [List.mem_cons, Ne.symm hopt, false_or]

/-- The options that are not numbers with a minimum leave those that are as they are. -/
theorem numbers_loadCollectorOptions (cfg : CollectorConfig) :
    (fun c : CollectorConfig => (c.refreshIntervalMs, c.activeClientWindowMs, c.activeClientMinBps))
        (loadCollectorOptions opts cfg) =
      (cfg.refreshIntervalMs, cfg.activeClientWindowMs, cfg.activeClientMinBps) := by
  let numbers : CollectorConfig → ℤ × UInt64 × UInt64 := fun c =>
    (c.refreshIntervalMs, c.activeClientWindowMs, c.activeClientMinBps)
  have hmax (c : CollectorConfig) (value : CStr) :
      numbers (loadMaxClients c value) = numbers c := by
    unfold loadMaxClients
    dsimp only
    split_ifs <;> rfl
  have hlegacy (c : CollectorConfig) (value : CStr) :
      numbers (applyLegacyCollectorMode c (loadConfigValue value)) = numbers c := by
    unfold applyLegacyCollectorMode
    split_ifs <;> rfl
  show numbers (loadCollectorOptions opts cfg) = numbers cfg
  unfold loadCollectorOptions
  rw [onOption_frame numbers, onOption_frame numbers, onOption_frame numbers,
    onOption_frame numbers, onOption_frame numbers hlegacy, onOption_frame numbers hmax]
  all_goals exact fun _ _ => rfl

/-- `load_config` takes the numeric options in this order. -/
theorem numeric_loadConfig (opt : NumericOption) :
    (loadConfig (some opts)).numeric opt = keptNumeric opts opt := by
  have hloaded : (loadConfig (some opts)).numeric opt =
      ([.refreshIntervalMs, .activeClientWindowMs, .activeClientMinBps,
        .overviewWindowSamples].foldl
        (loadNumeric opts) {}).numeric opt := by
    have hnumbers := numbers_loadCollectorOptions opts ([.refreshIntervalMs, .activeClientWindowMs,
      .activeClientMinBps, .overviewWindowSamples].foldl (loadNumeric opts) {}).collector
    obtain ⟨hrefresh, hrest⟩ := Prod.mk.inj hnumbers
    obtain ⟨hwindow, hminBps⟩ := Prod.mk.inj hrest
    cases opt with
    | refreshIntervalMs => exact hrefresh
    | activeClientWindowMs => exact congrArg (fun x : UInt64 => (x.toNat : ℤ)) hwindow
    | activeClientMinBps => exact congrArg (fun x : UInt64 => (x.toNat : ℤ)) hminBps
    | overviewWindowSamples => rfl
  rw [hloaded, numeric_foldl_loadNumeric opts (by decide), if_pos (by cases opt <;> decide)]
  intro o _
  cases o <;> rfl

end Loaded

/-- Whatever the options are, the daemon runs with numbers in their ranges. -/
theorem contains_loadConfig (uci : Option MainOptions) (opt : NumericOption) :
    opt.range.Contains ((loadConfig uci).numeric opt) := by
  have hrange := opt.wellFormed_range
  cases uci with
  | none => cases opt <;> exact hrange.default_mem
  | some opts =>
    rw [numeric_loadConfig, keptNumeric]
    cases opts.numeric opt with
    | none => exact hrange.default_mem
    | some value => exact hrange.contains_kept _

/-- `overview_window_samples` is a window of the ring of overview samples. -/
theorem exists_overviewWindow (uci : Option MainOptions) :
    ∃ window : OverviewWindow, (window.samples : ℤ) = (loadConfig uci).overviewWindowSamples := by
  obtain ⟨hmin, hmax⟩ := contains_loadConfig uci .overviewWindowSamples
  have hmin' : 2 ≤ (loadConfig uci).overviewWindowSamples := hmin
  have hmax' : (loadConfig uci).overviewWindowSamples ≤ 240 := hmax 240 rfl
  exact ⟨⟨(loadConfig uci).overviewWindowSamples.toNat,
    by simp only [minOverviewWindowSamples]; omega,
    by simp only [lanspeedOverviewWindow]; omega⟩, Int.toNat_of_nonneg (by omega)⟩

/-! ## Integers -/

section Integer

variable {value : CStr} {n : ℤ}

/-- An option that is read with `atoi` is read as the integer that it is. -/
theorem NumericOption.parse_of_signed {opt : NumericOption} (hopt : ¬ opt.IsUnsigned)
    (hn : CText.DecimalInteger value n) (hsize : |n| < 2 ^ 31) : opt.parse value = n := by
  have hatoi : (atoi value).toInt = n := (toInt_atoi (by rwa [hn.atoi])).trans hn.atoi
  cases opt with
  | refreshIntervalMs => exact hatoi
  | activeClientWindowMs => exact absurd (.inl rfl) hopt
  | activeClientMinBps => exact absurd (.inr rfl) hopt
  | overviewWindowSamples => exact hatoi

/-- An option that is read with `strtoull` is read modulo the range of a word. -/
theorem NumericOption.parse_of_unsigned {opt : NumericOption} (hopt : opt.IsUnsigned)
    (hn : CText.DecimalInteger value n) (hsize : |n| < 2 ^ 31) :
    opt.parse value = if n < 0 then 2 ^ 64 + n else n := by
  have hword : UInt64.size = 2 ^ 64 := rfl
  obtain ⟨hmin, hmax⟩ := abs_lt.mp hsize
  have hnat : n.natAbs < 2 ^ 31 := by omega
  have hparsed : ((parseUnsigned value).toNat : ℤ) = if n < 0 then 2 ^ 64 + n else n := by
    rw [parseUnsigned, hn.strtoull (by omega), Option.getD_some,
      UInt64.toNat_ofNat', Nat.mod_eq_of_lt]
    · split_ifs <;> omega
    · split_ifs <;> omega
  rcases hopt with rfl | rfl
  · exact hparsed
  · exact hparsed

/-- A negative integer in an option that is read with `strtoull` comes out as a number close to `2 ^
64`. -/
theorem numeric_loadConfig_of_negative {opts : MainOptions} {opt : NumericOption}
    (hvalue : opts.numeric opt = some value) (hn : CText.DecimalInteger value n)
    (hsize : |n| < 2 ^ 31)
    (hopt : opt.IsUnsigned) (hneg : n < 0) : (loadConfig (some opts)).numeric opt = 2 ^ 64 + n := by
  have hparse := NumericOption.parse_of_unsigned hopt hn hsize
  rw [if_pos hneg] at hparse
  have hin : opt.range.Contains (opt.parse value) := by
    rw [hparse]
    have hmin := (abs_lt.mp hsize).1
    rcases hopt with rfl | rfl
    · exact ⟨by simp only [NumericOption.range]; omega, by simp [NumericOption.range]⟩
    · exact ⟨by simp only [NumericOption.range]; omega, by simp [NumericOption.range]⟩
  rw [numeric_loadConfig, keptNumeric, hvalue, Option.elim_some,
    NumericRange.kept, if_pos hin, hparse]

end Integer

/-- A configured integer comes out as documented, unless it is negative and its option is read with
`strtoull`. -/
theorem numeric_option_documented_iff (opts : MainOptions) (opt : NumericOption)
    {value : CStr} {n : ℤ}
    (hvalue : opts.numeric opt = some value) (hn : CText.DecimalInteger value n)
    (hsize : |n| < 2 ^ 31) :
    opt.range.Documented n ((loadConfig (some opts)).numeric opt) ↔ ¬ (opt.IsUnsigned ∧ n < 0) := by
  constructor
  · rintro hdocumented ⟨hopt, hneg⟩
    have hbound := hdocumented.not_positive hneg.le
    rw [numeric_loadConfig_of_negative hvalue hn hsize hopt hneg] at hbound
    have hmin := (abs_lt.mp hsize).1
    rcases hopt with rfl | rfl <;> simp only [NumericOption.range] at hbound <;> omega
  · intro hread
    have hparse : opt.parse value = n := by
      by_cases hopt : opt.IsUnsigned
      · rw [NumericOption.parse_of_unsigned hopt hn hsize, if_neg fun hneg => hread ⟨hopt, hneg⟩]
      · exact NumericOption.parse_of_signed hopt hn hsize
    rw [numeric_loadConfig, keptNumeric, hvalue, Option.elim_some, hparse]
    exact opt.wellFormed_range.documented_kept n

/-- A window of 20 s is kept. -/
theorem numeric_option_documented_window :
    NumericOption.activeClientWindowMs.range.Documented 20000
      ((loadConfig (some { activeClientWindowMs := some (decimal 20000) })).numeric
        .activeClientWindowMs) :=
  (numeric_option_documented_iff { activeClientWindowMs := some (decimal 20000) }
    .activeClientWindowMs rfl
    (CText.DecimalInteger.toDigits 20000) (by decide)).mpr fun h => absurd h.2 (by decide)

/-- A negative window becomes one of half a billion years, and a negative minimum rate one that no
client reaches. -/
theorem not_documented_negative :
    let cfg := loadConfig (some { activeClientWindowMs := some "-1".toList
                                  activeClientMinBps := some "-1".toList })
    CText.DecimalInteger "-1".toList (-1) ∧
      cfg.numeric .activeClientWindowMs = 2 ^ 64 - 1 ∧
      cfg.numeric .activeClientMinBps = 2 ^ 64 - 1 ∧
      ¬ NumericOption.activeClientWindowMs.range.Documented (-1)
        (cfg.numeric .activeClientWindowMs) ∧
      ¬ NumericOption.activeClientMinBps.range.Documented (-1)
        (cfg.numeric .activeClientMinBps) := by
  intro cfg
  have hnegative : CText.DecimalInteger "-1".toList (-1) :=
    CText.DecimalInteger.minus (List.cons_ne_nil '1' []) (List.forall_mem_singleton.mpr rfl)
  have hwindow : cfg.numeric .activeClientWindowMs = 2 ^ 64 - 1 := by decide +kernel
  have hminBps : cfg.numeric .activeClientMinBps = 2 ^ 64 - 1 := by decide +kernel
  refine ⟨hnegative, hwindow, hminBps, fun h => ?_, fun h => ?_⟩
  · exact absurd (hwindow ▸ h.not_positive (by decide)) (by decide)
  · exact absurd (hminBps ▸ h.not_positive (by decide)) (by decide)

/-! ## Interface lists -/

/-- The attach list is the first distinct recommended names that fit, of `ifname` and then
`interface_include`; the observe list is the first distinct names of `observe` that fit and are not
in the attach list. `interfaces_method` publishes the names of both, each of them once. -/
theorem interface_lists_of_config (opts : MainOptions) :
    let lists := (loadConfig (some opts)).ifaces
    lists.attach =
        (((optionNames opts.ifaces.ifname ++
          optionNames opts.ifaces.interfaceInclude).filter fun name =>
          sysdeviceIsRecommendedLan name ∧ name.length < ifnameStrLen).eraseDups).take 16 ∧
      lists.observe =
        (((optionNames opts.ifaces.observe).filter fun name =>
          name ≠ [] ∧ name.length < ifnameStrLen ∧ name ∉ lists.attach).eraseDups).take 16 ∧
      lists.attach.Nodup ∧ lists.observe.Nodup ∧ (∀ name ∈ lists.observe, name ∉ lists.attach) ∧
      ∀ nowMs statistics previous,
        (interfacesMethod ⟨opts.ifaces, nowMs, statistics⟩ previous).1.map InterfaceJson.name =
            lists.attach ++ lists.observe ∧
          (lists.attach ++ lists.observe).Nodup := by
  intro lists
  have hobserve : ObserveList lists.attach lists.observe := observeList_loadIfaceLists opts.ifaces
  refine ⟨attach_loadIfaceLists opts.ifaces, observe_loadIfaceLists opts.ifaces,
    (attachList_loadIfaceLists opts.ifaces).nodup, hobserve.nodup, hobserve.disjoint,
    fun nowMs statistics previous => ?_⟩
  have hnames := names_eq ⟨opts.ifaces, nowMs, statistics⟩
  refine ⟨(map_name_interfacesMethod _ previous).trans hnames, ?_⟩
  exact hnames ▸ nodup_names ⟨opts.ifaces, nowMs, statistics⟩

end Lanspeed
