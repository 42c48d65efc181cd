import Lanspeed.IfaceConfig
import Lanspeed.Lib.Machine

/-!
# The saves of a page session

The settings page has two ways to save: `saveIfaceConfig` writes the interface lists and
`saveDaemonSettings` the other options. Both stage their changes in the UCI session of the page, and
both commit the whole package. A save of the interfaces that has deleted the old lists and fails to
set the new ones leaves the deletion staged. What commits it is the save itself, where LuCI's `rpc`
resolves the promise of the failed call, and otherwise the next save of the settings
(`save_allOrNothing_iff`).
-/

namespace Lanspeed

/-! ## The session of the page -/

/-- What `readForm` reads, with the numbers as `String` writes them. -/
structure DaemonSettings where
  rateCollectorMode    : CStr
  connCollectorMode    : CStr
  activeClientWindowMs : CStr
  activeClientMinBps   : CStr
deriving DecidableEq, Repr

/-- The options of `lanspeed.main` that `saveDaemonSettings` writes. -/
structure SettingsOptions where
  rateCollectorMode    : Option CStr
  connCollectorMode    : Option CStr
  collectorMode        : Option CStr
  activeClientWindowMs : Option CStr
  activeClientMinBps   : Option CStr
deriving DecidableEq, Repr

/-- `uciValues`: the rate mode is also written under its old name. -/
def DaemonSettings.uciValues (values : DaemonSettings) : SettingsOptions where
  rateCollectorMode    := some values.rateCollectorMode
  connCollectorMode    := some values.connCollectorMode
  collectorMode        := some values.rateCollectorMode
  activeClientWindowMs := some values.activeClientWindowMs
  activeClientMinBps   := some values.activeClientMinBps

/-- The package as the session of the page sees it. -/
structure PageSession where
  ifaces            : UciSession
  committedSettings : SettingsOptions
  pendingSettings   : SettingsOptions
deriving DecidableEq, Repr

namespace PageSession

/-- A session without changes. -/
def fresh (cfg : IfaceOptions) (settings : SettingsOptions) : PageSession :=
  ⟨.fresh cfg, settings, settings⟩

/-- `uci set` of the settings. -/
def setSettings (s : PageSession) (values : DaemonSettings) : PageSession :=
  { s with pendingSettings := values.uciValues }

/-- `uci commit`: all that is staged for the package is written. -/
def commit (s : PageSession) : PageSession :=
  { s with ifaces := s.ifaces.commit, committedSettings := s.pendingSettings }

end PageSession

/-! ## The two saves -/

/-- The page has nothing selected, and refuses to save. -/
def IfaceSelections.Refused (sel : IfaceSelections) : Prop := sel.attach = [] ∧ sel.observe = []

instance (sel : IfaceSelections) : Decidable sel.Refused := inferInstanceAs (Decidable (_ ∧ _))

/-- The options that a save of the selections writes. -/
def IfaceSelections.options (sel : IfaceSelections) : IfaceOptions where
  ifname           := UciSession.listOption sel.attach
  interfaceInclude := UciSession.listOption sel.attach
  observe          := UciSession.listOption sel.observe

/-- `saveIfaceConfig` in the session of the page: where it gets to its commit, staged settings are
written too. -/
def PageSession.saveIfaces (s : PageSession) (answers : SaveAnswers) (sel : IfaceSelections) :
    PageSession :=
  { ifaces := saveIfaceConfig answers sel s.ifaces
    committedSettings :=
      if ¬ sel.Refused ∧ UciAnswer.commits answers.set answers.commit then s.pendingSettings
      else s.committedSettings
    pendingSettings := s.pendingSettings }

/-- A save of the settings, and how its calls end. -/
structure SettingsSave where
  values : DaemonSettings
  set    : UciAnswer
  commit : UciAnswer
deriving DecidableEq, Repr

/-- The save commits what is staged. -/
def SettingsSave.commits (save : SettingsSave) : Bool := UciAnswer.commits save.set save.commit

/-- `saveDaemonSettings`: a set or commit that rejects ends the chain. -/
def saveDaemonSettings (s : PageSession) (save : SettingsSave) : PageSession :=
  if save.set = .rejected then s
  else save.commit.apply PageSession.commit (save.set.apply (fun s => s.setSettings save.values) s)

/-! ## All or nothing -/

/-- A save of the settings stages nothing for the interfaces. -/
theorem pending_saveDaemonSettings (s : PageSession) (save : SettingsSave) :
    (saveDaemonSettings s save).ifaces.pending = s.ifaces.pending := by
  obtain ⟨values, set, commit⟩ := save
  cases set <;> cases commit <;> rfl

/-- It writes what is staged for them, exactly when it commits. -/
theorem committed_saveDaemonSettings (s : PageSession) (save : SettingsSave) :
    (saveDaemonSettings s save).ifaces.committed =
      if save.commits then s.ifaces.pending else s.ifaces.committed := by
  obtain ⟨values, set, commit⟩ := save
  cases set <;> cases commit <;> rfl

/-- After any saves of the settings the staged lists are committed when one of the saves commits. -/
theorem committed_run_saveDaemonSettings (s : PageSession) (saves : List SettingsSave) :
    (Machine.run saveDaemonSettings s saves).ifaces.committed =
      if saves.any SettingsSave.commits then s.ifaces.pending else s.ifaces.committed := by
  induction saves generalizing s with
  | nil => rfl
  | cons save saves ih =>
    rw [Machine.run_cons, ih, pending_saveDaemonSettings,
      committed_saveDaemonSettings, List.any_cons]
    cases save.commits <;> simp

/-- The lists are those from before the save or those that it selects. -/
def AllOrNothing (cfg : IfaceOptions) (sel : IfaceSelections) (committed : IfaceOptions) : Prop :=
  committed = cfg ∨ committed = sel.options

/-- The save deletes the old lists and fails to set the new ones. -/
def DeletesOnly (answers : SaveAnswers) (sel : IfaceSelections) : Prop :=
  ¬ sel.Refused ∧ answers.delete = .done ∧ answers.set ≠ .done

instance (answers : SaveAnswers) (sel : IfaceSelections) : Decidable (DeletesOnly answers sel) :=
  inferInstanceAs (Decidable (_ ∧ _ ∧ _))

/-- The package holds none of the lists. -/
def IfaceOptions.empty : IfaceOptions := ⟨none, none, none⟩

/-- What the calls of a save that is not refused leave staged. -/
def SaveAnswers.staged (answers : SaveAnswers) (sel : IfaceSelections) (pending : IfaceOptions) :
    IfaceOptions :=
  if answers.set = .done then sel.options
  else if answers.delete = .done then .empty
  else pending

section Save

variable (cfg : IfaceOptions) (answers : SaveAnswers) (sel : IfaceSelections)

/-- A save that is refused changes nothing. -/
theorem saveIfaceConfig_of_refused {sel : IfaceSelections} (h : sel.Refused) (s : UciSession) :
    saveIfaceConfig answers sel s = s := if_pos h

/-- What a save stages, and writes where it gets to its commit. -/
theorem saveIfaceConfig_of_not_refused {sel : IfaceSelections}
    (h : ¬ sel.Refused) (s : UciSession) :
    saveIfaceConfig answers sel s =
      { committed :=
          if UciAnswer.commits answers.set answers.commit then answers.staged sel s.pending
            else s.committed
        pending := answers.staged sel s.pending } := by
  apply (if_neg h).trans
  obtain ⟨delete, set, commit⟩ := answers
  cases delete <;> cases set <;> cases commit <;> rfl

/-- A selection that is not refused has something to write. -/
theorem options_ne_empty (hsel : ¬ sel.Refused) : sel.options ≠ .empty := by
  intro h
  have hnil : ∀ l : List CStr, UciSession.listOption l = none → l = [] := by
    intro l hl
    unfold UciSession.listOption at hl
    split_ifs at hl with hnil
    exact hnil
  exact hsel ⟨hnil _ (congrArg IfaceOptions.ifname h), hnil _ (congrArg IfaceOptions.observe h)⟩

/-- What a save leaves staged is all or nothing, except for the deletion of lists on its own. -/
theorem allOrNothing_staged_iff (hsel : ¬ sel.Refused) :
    AllOrNothing cfg sel (answers.staged sel cfg) ↔ ¬ (DeletesOnly answers sel ∧ cfg ≠ .empty) := by
  unfold SaveAnswers.staged
  by_cases hset : answers.set = .done
  · rw [if_pos hset]
    exact iff_of_true (.inr rfl) fun h => h.1.2.2 hset
  · rw [if_neg hset]
    by_cases hdelete : answers.delete = .done
    · have honly : DeletesOnly answers sel := ⟨hsel, hdelete, hset⟩
      rw [if_pos hdelete, and_iff_right honly, not_not]
      constructor
      · rintro (hcfg | hopts)
        · exact hcfg.symm
        · exact absurd hopts.symm (options_ne_empty sel hsel)
      · exact fun hcfg => .inl hcfg.symm
    · rw [if_neg hdelete]
      exact iff_of_true (.inl rfl) fun h => hdelete h.1.2.1

/-- A save of the interfaces, followed by any saves of the settings, is all or nothing exactly when
it does not delete the old lists alone, or neither it nor a later save commits the deletion, or
there were no lists. -/
theorem save_allOrNothing_iff (settings : SettingsOptions) (saves : List SettingsSave) :
    AllOrNothing cfg sel
        (Machine.run saveDaemonSettings ((PageSession.fresh cfg settings).saveIfaces answers sel)
          saves).ifaces.committed ↔
      ¬ (DeletesOnly answers sel ∧
        (UciAnswer.commits answers.set answers.commit = true ∨
          saves.any SettingsSave.commits = true) ∧
        cfg ≠ .empty) := by
  have hifaces : ((PageSession.fresh cfg settings).saveIfaces answers sel).ifaces =
      saveIfaceConfig answers sel (.fresh cfg) := rfl
  rw [committed_run_saveDaemonSettings, hifaces]
  by_cases hsel : sel.Refused
  · rw [saveIfaceConfig_of_refused answers hsel]
    exact iff_of_true (.inl (ite_self cfg)) fun h => h.1.1 hsel
  · have hstaged := allOrNothing_staged_iff cfg answers sel hsel
    rw [saveIfaceConfig_of_not_refused answers hsel]
    by_cases hcommits : UciAnswer.commits answers.set answers.commit = true ∨
        saves.any SettingsSave.commits = true
    · -- Some save writes what the save of the interfaces has left staged.
      have hwritten : (if saves.any SettingsSave.commits = true then answers.staged sel cfg
          else if UciAnswer.commits answers.set answers.commit = true then answers.staged sel cfg
            else cfg) =
            answers.staged sel cfg := by
        rcases hcommits with hown | hlater
        · rw [if_pos hown, ite_self]
        · rw [if_pos hlater]
      exact (iff_of_eq (congrArg (AllOrNothing cfg sel) hwritten)).trans
        (hstaged.trans (by rw [and_iff_right hcommits]))
    · obtain ⟨hown, hlater⟩ := not_or.mp hcommits
      rw [if_neg hlater, if_neg hown]
      exact iff_of_true (.inl rfl) fun h => hcommits h.2.1

end Save

/-- The settings as the form shows them at first. -/
def defaultSettings : DaemonSettings where
  rateCollectorMode    := "auto".toList
  connCollectorMode    := "auto".toList
  activeClientWindowMs := "10000".toList
  activeClientMinBps   := "1".toList

/-- The new lists of the page are not set. Where the promise of the set resolves with its status,
the save itself drops the old ones, and where it rejects, a save of the settings does. -/
theorem interface_lists_dropped :
    let sel : IfaceSelections := ⟨["br-lan".toList], []⟩
    let page := PageSession.fresh twoLanConfig defaultSettings.uciValues
    let s := page.saveIfaces ⟨.done, .status, .done⟩ sel
    let s' := Machine.run saveDaemonSettings (page.saveIfaces ⟨.done, .rejected, .done⟩ sel)
      [⟨defaultSettings, .done, .done⟩]
    (s.ifaces.committed = .empty ∧ ¬ AllOrNothing twoLanConfig sel s.ifaces.committed) ∧
      s'.ifaces.committed = .empty ∧ ¬ AllOrNothing twoLanConfig sel s'.ifaces.committed := by
  have hdropped : IfaceOptions.empty ≠ twoLanConfig ∧
      IfaceOptions.empty ≠ IfaceSelections.options ⟨["br-lan".toList], []⟩ := by decide
  exact ⟨⟨rfl, fun h => h.elim hdropped.1 hdropped.2⟩, rfl, fun h => h.elim hdropped.1 hdropped.2⟩

end Lanspeed
