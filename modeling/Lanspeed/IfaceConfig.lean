import Lanspeed.InterfaceLists
import Lanspeed.Lib.Js

/-!
# The interface page

`renderIfaceConfig` draws the table of the devices in a `sysdevices` reply and notes for each of
them what its toggle is set to, `collectIfaceSelections` reads the two lists off the toggles, and
`saveIfaceConfig` writes them over the interface options. The page only knows the devices that the
system has at the time: `collectIfaceSelections_render` says that an untouched table gives back the
part of each list that has a row, in the order of the table.
-/

namespace Lanspeed

/-! ## The table -/

/-- What the toggle of a device is set to. -/
inductive IfaceMode where
  | off
  | observe
  | collect
deriving DecidableEq, Repr

/-- One button of a toggle. -/
structure IfaceButton where
  mode     : IfaceMode
  label    : CStr
  title    : CStr
  active   : Bool
  disabled : Bool
deriving DecidableEq, Repr

/-- One row of the table. -/
structure IfaceRow where
  name    : CStr
  tags    : List CStr
  buttons : List IfaceButton
deriving DecidableEq, Repr

/-- What the page holds behind a rendering: the devices as they were sorted in place, the state of
the toggles, and what it shows. -/
structure IfaceView where
  devices    : List SysDevice
  ifcfgState : Js.Obj IfaceMode
  collected  : ℕ
  observed   : ℕ
  candidates : ℕ
  rows       : List IfaceRow
  hint       : CStr

/-- Recommended LAN devices first, then by name. What `localeCompare` makes of two names is up to
the locale, so `compareText` is a parameter. -/
def deviceOrder (compareText : Js.Comparator CStr) : Js.Comparator SysDevice :=
  (Js.Comparator.byRank fun dev => if dev.recommendedLan then 0 else 1).thenBy
    (compareText.comap SysDevice.name)

/-- `isCollectAllowed`. -/
def isCollectAllowed (dev : Option SysDevice) : Bool :=
  dev.any fun dev => dev.recommendedLan && !dev.isNssIfb

/-- The mode that a device is rendered with. -/
def renderedMode (dev : SysDevice) : IfaceMode :=
  if dev.selected then .collect
  else if dev.observed then .observe
  else .off

/-- The tags of a device. -/
def deviceTags (dev : SysDevice) : List CStr :=
  (if dev.isNssIfb then ["NSS 镜像".toList] else []) ++
    (if dev.isBridge then ["网桥".toList] else []) ++
    (if dev.isBridgePort then ["桥成员".toList] else []) ++
    (if !dev.recommendedLan && !dev.isNssIfb then ["非 LAN".toList] else []) ++
    (match dev.speedMbps with
    | none => []
    | some speed => [decimal speed ++ ['M']])

/-- `makeSeg`: the buttons of the device under a name. -/
def makeSeg (devices : List SysDevice) (ifcfgState : Js.Obj IfaceMode) (name : CStr) :
    List IfaceButton :=
  let isCollectable := isCollectAllowed (devices.find? fun dev => dev.name = name)
  let button mode label title disabled : IfaceButton :=
    { mode     := mode
      label    := label
      title    := title
      active   := ifcfgState.get? name = some mode
      disabled := disabled }
  [button .off "关闭".toList "不挂载、不显示".toList false,
    button .observe "观察".toList "只读接口计数，不 attach BPF；适合 WAN / tun / nssifb".toList false,
    button .collect "采集".toList
      (if !isCollectable then "该接口不是推荐的 LAN 采集点；请改为“观察”。".toList
        else "挂 BPF filter，按客户端拆速率；置信度 high".toList)
      !isCollectable]

/-- `renderIfaceConfig`. -/
def renderIfaceConfig (compareText : Js.Comparator CStr) (data : SysdevicesReply) : IfaceView :=
  let devs := Js.sort (deviceOrder compareText) data.devices
  let ifcfgState := Js.Obj.ofList SysDevice.name renderedMode devs
  { devices    := devs
    ifcfgState := ifcfgState
    collected  := data.currentIfnames.length
    observed   := data.currentObserved.length
    candidates := devs.length
    rows       := devs.map fun dev => ⟨dev.name, deviceTags dev, makeSeg devs ifcfgState dev.name⟩
    hint       :=
      if devs = [] then "没有可选设备，请检查 /sys/class/net。".toList
      else "采集 = 挂 BPF 按客户端拆速率。观察 = 只读接口吞吐数字，用于 WAN 展示或对账。".toList }

/-! ## The selections -/

/-- The two lists that a save writes. -/
structure IfaceSelections where
  attach  : List CStr
  observe : List CStr
deriving DecidableEq, Repr

/-- One name of `Object.keys(state)`. -/
def selectName (state : Js.Obj IfaceMode) (deviceByName : Js.Obj SysDevice) (sel : IfaceSelections)
    (name : CStr) : IfaceSelections :=
  if state.get? name = some .collect ∧ isCollectAllowed (deviceByName.get? name) then
    { sel with attach := sel.attach ++ [name] }
  else if state.get? name = some .observe then
    { sel with observe := sel.observe ++ [name] }
  else sel

/-- `collectIfaceSelections`. -/
def collectIfaceSelections (view : IfaceView) : IfaceSelections :=
  let deviceByName := Js.Obj.ofList SysDevice.name id view.devices
  view.ifcfgState.keys.foldl (selectName view.ifcfgState deviceByName) ⟨[], []⟩

/-! ## The save -/

/-- The interface options as a UCI session sees them: what is committed, and what a commit of the
session's changes would make of it. -/
structure UciSession where
  committed : IfaceOptions
  pending   : IfaceOptions
deriving DecidableEq, Repr

namespace UciSession

/-- A session without changes. -/
def fresh (cfg : IfaceOptions) : UciSession := ⟨cfg, cfg⟩

/-- `uci delete` of the three lists. -/
def deleteLists (s : UciSession) : UciSession := { s with pending := ⟨none, none, none⟩ }

/-- The option that `uci set` makes of a list; an option without elements is not there. -/
def listOption (l : List CStr) : Option UciValue := if l = [] then none else some (.list l)

/-- `uci set` of the three lists. -/
def setLists (s : UciSession) (ifname interfaceInclude observe : List CStr) : UciSession :=
  { s with pending := ⟨listOption ifname, listOption interfaceInclude, listOption observe⟩ }

/-- `uci commit`. -/
def commit (s : UciSession) : UciSession := { s with committed := s.pending }

end UciSession

/-- How a UCI call ends: it is done, or it fails and changes nothing. The calls are declared without
`reject`, and whether the promise of a failed call resolves with the status of the call or rejects
is up to LuCI's `rpc`. -/
inductive UciAnswer where
  | done
  | status
  | rejected
deriving DecidableEq, Repr

/-- A call changes what it is about when it is done. -/
def UciAnswer.apply {α : Type*} (answer : UciAnswer) (call : α → α) (s : α) : α :=
  if answer = .done then call s else s

/-- A set and the commit behind it write what is staged: only a promise that rejects ends the chain
before the commit. -/
def UciAnswer.commits (set commit : UciAnswer) : Bool := set ≠ .rejected ∧ commit = .done

/-- How the calls of a save end. -/
structure SaveAnswers where
  delete : UciAnswer
  set    : UciAnswer
  commit : UciAnswer
deriving DecidableEq, Repr

/-- `saveIfaceConfig`: a failed delete is tolerated, and a set or commit that rejects ends the
chain. -/
def saveIfaceConfig (answers : SaveAnswers) (sel : IfaceSelections) (s : UciSession) : UciSession :=
  if sel.attach = [] ∧ sel.observe = [] then s
  else
    let s := answers.delete.apply UciSession.deleteLists s
    if answers.set = .rejected then s
    else
      let s := answers.set.apply (fun s => s.setLists sel.attach sel.attach sel.observe) s
      answers.commit.apply UciSession.commit s

/-- The configuration behind a save of the untouched table, when all calls succeed. -/
def saveUntouched (compareText : Js.Comparator CStr) (net : Option SysClassNet)
    (cfg : IfaceOptions) : IfaceOptions :=
  let view := renderIfaceConfig compareText (sysdevicesMethod (loadIfaceLists cfg) net)
  (saveIfaceConfig ⟨.done, .done, .done⟩ (collectIfaceSelections view) (.fresh cfg)).committed

/-! ## What an untouched table gives back -/

/-- An interface has a row, and a toggle that is read. -/
structure HasRow (net : Option SysClassNet) (name : CStr) : Prop where
  present   : ∃ n ∈ net, name ∈ n.dirs.map NetDir.name
  visible   : name.head? ≠ some '.'
  candidate : sysdeviceIsCandidate name = true
  ordinary  : name ≠ Js.Obj.protoName

/-- Recommended LAN names first, then by name. -/
def nameOrder (compareText : Js.Comparator CStr) : Js.Comparator CStr :=
  (Js.Comparator.byRank fun name => if sysdeviceIsRecommendedLan name then 0
    else 1).thenBy compareText

/-- The name `a` is read before `b`: names that are array indices first, in ascending order, then by
`nameOrder`, and names that make no difference to it in the order of the directory. -/
def ReadBefore (compareText : Js.Comparator CStr) (net : Option SysClassNet) : CStr → CStr → Prop :=
  Js.Obj.KeyBefore (Js.SortBefore (nameOrder compareText) (scannedNames net))

/-- A device has a row unless it is called `__proto__`. -/
theorem hasRow_iff {net : Option SysClassNet} {name : CStr} :
    HasRow net name ↔ name ∈ scannedNames net ∧ name ≠ Js.Obj.protoName := by
  cases net with
  | none =>
    constructor
    · rintro ⟨⟨n, hn, -⟩, -, -, -⟩
      exact absurd hn (by simp)
    · rintro ⟨h, -⟩
      exact absurd h (by simp [scannedNames])
  | some n =>
    constructor
    · rintro ⟨⟨n', hn', hname⟩, hdot, hcand, hproto⟩
      obtain rfl := Option.mem_some.mp hn'
      exact ⟨List.mem_filter.mpr ⟨hname, by simp [scanKeeps, hdot, hcand]⟩, hproto⟩
    · rintro ⟨h, hproto⟩
      obtain ⟨hname, hkeep⟩ := List.mem_filter.mp h
      simp only [scanKeeps, Bool.and_eq_true, bne_iff_ne] at hkeep
      exact ⟨⟨n, rfl, hname⟩, hkeep.1, hkeep.2, hproto⟩

/-- The order in which the rows are read back is asymmetric. -/
theorem readBefore_asymm (compareText : Js.Comparator CStr) (net : Option SysClassNet) (a b : CStr)
    (h : ReadBefore compareText net a b) : ¬ ReadBefore compareText net b a :=
  h.asymm fun _ _ hab => hab.asymm (nodup_scannedNames net)

section Untouched

variable (compareText : Js.Comparator CStr) (lists : IfaceLists) (net : Option SysClassNet)

/-- The page behind the rendering of the daemon's reply. -/
abbrev renderedView : IfaceView := renderIfaceConfig compareText (sysdevicesMethod lists net)

/-- The rows carry the scanned names, in `nameOrder`. -/
theorem map_name_renderedView :
    (renderedView compareText lists net).devices.map SysDevice.name =
      Js.sort (nameOrder compareText) (scannedNames net) := by
  rw [← map_name_devices lists net]
  apply Js.map_sort
  intro a ha b hb
  obtain ⟨dira, rfl⟩ := mem_devices ha
  obtain ⟨dirb, rfl⟩ := mem_devices hb
  rfl

/-- No device is rendered twice. -/
theorem nodup_map_name_renderedView :
    ((renderedView compareText lists net).devices.map SysDevice.name).Nodup := by
  rw [map_name_renderedView]
  exact (Js.sort_perm _ _).nodup_iff.mpr (nodup_scannedNames net)

/-- The rows are created in the order in which they are rendered. -/
theorem created_renderedView :
    (renderedView compareText lists net).ifcfgState.created =
      (Js.sort (nameOrder compareText) (scannedNames net)).filter
        fun name => name ≠ Js.Obj.protoName := by
  rw [← map_name_renderedView compareText lists net]
  exact Js.Obj.created_ofList (nodup_map_name_renderedView compareText lists net) _

/-- The toggles that are read are those of the interfaces that have a row. -/
theorem mem_keys_renderedView {name : CStr} :
    name ∈ (renderedView compareText lists net).ifcfgState.keys ↔ HasRow net name := by
  rw [Js.Obj.mem_keys, created_renderedView, List.mem_filter, Js.mem_sort, hasRow_iff]
  simp

/-- The rows are read back in their order. -/
theorem pairwise_keys_renderedView :
    (renderedView compareText lists net).ifcfgState.keys.Pairwise (ReadBefore compareText net) := by
  apply Js.Obj.pairwise_keys
  rw [created_renderedView]
  exact (Js.pairwise_sort _ (nodup_scannedNames net)).filter _

/-- A toggle that is read is that of a device of the reply. -/
theorem exists_device_of_hasRow {name : CStr} (h : HasRow net name) :
    ∃ dir, sysDevice lists dir ∈ (renderedView compareText lists net).devices ∧
      dir.name = name := by
  have hmem : name ∈ (renderedView compareText lists net).devices.map SysDevice.name := by
    rw [map_name_renderedView, Js.mem_sort]
    exact (hasRow_iff.mp h).1
  obtain ⟨dev, hdev, rfl⟩ := List.mem_map.mp hmem
  obtain ⟨dir, rfl⟩ := mem_devices (Js.mem_sort.mp hdev)
  exact ⟨dir, hdev, rfl⟩

variable {net}

/-- What is read under the name of an interface that has a row. -/
theorem get?_of_hasRow {name : CStr} (h : HasRow net name) :
    ∃ dir, dir.name = name ∧
      (renderedView compareText lists net).ifcfgState.get? name =
        some (renderedMode (sysDevice lists dir)) ∧
      (Js.Obj.ofList SysDevice.name id (renderedView compareText lists net).devices).get? name =
        some (sysDevice lists dir) := by
  obtain ⟨dir, hdev, rfl⟩ := exists_device_of_hasRow compareText lists net h
  have hn := nodup_map_name_renderedView compareText lists net
  have hproto := (hasRow_iff.mp h).2
  exact ⟨dir, rfl, Js.Obj.get?_ofList hn renderedMode hdev hproto,
    Js.Obj.get?_ofList hn id hdev hproto⟩

variable {compareText lists}

/-- A device may be collected when its name is recommended; `nssifb` never is. -/
theorem isCollectAllowed_sysDevice (lists : IfaceLists) (dir : NetDir) :
    isCollectAllowed (some (sysDevice lists dir)) = sysdeviceIsRecommendedLan dir.name := by
  by_cases hnss : dir.name = "nssifb".toList
  · have hrec : sysdeviceIsRecommendedLan "nssifb".toList = false := by decide
    rw [hnss, hrec, isCollectAllowed, Option.any_some, sysDevice, hnss, hrec, Bool.false_and]
  · rw [isCollectAllowed, Option.any_some, sysDevice, beq_eq_false_iff_ne.mpr hnss, Bool.not_false,
      Bool.and_true]

/-- An interface that has a row is selected by the list that it is in. -/
theorem selectName_of_hasRow (ha : AttachList lists.attach) {name : CStr} (h : HasRow net name)
    (sel : IfaceSelections) :
    selectName (renderedView compareText lists net).ifcfgState
        (Js.Obj.ofList SysDevice.name id (renderedView compareText lists net).devices) sel name =
      if name ∈ lists.attach then { sel with attach := sel.attach ++ [name] }
      else if name ∈ lists.observe then { sel with observe := sel.observe ++ [name] }
      else sel := by
  obtain ⟨dir, rfl, hmode, hdev⟩ := get?_of_hasRow compareText lists h
  rw [selectName, hmode, hdev]
  by_cases hatt : dir.name ∈ lists.attach
  · rw [isCollectAllowed_sysDevice, (ha.names _ hatt).recommended]
    simp [renderedMode, sysDevice, hatt]
  · by_cases hobs : dir.name ∈ lists.observe <;> simp [renderedMode, sysDevice, hatt, hobs]

/-- An untouched table gives back the part of each list that has a row, in the order in which the
toggles are read. -/
theorem collectIfaceSelections_render (ha : AttachList lists.attach)
    (ho : ObserveList lists.attach lists.observe) :
    collectIfaceSelections (renderedView compareText lists net) =
      { attach := (renderedView compareText lists net).ifcfgState.keys.filter fun name =>
          name ∈ lists.attach
        observe := (renderedView compareText lists net).ifcfgState.keys.filter fun name =>
          name ∈ lists.observe } := by
  have hfold : ∀ (names : List CStr) (sel : IfaceSelections), (∀ name ∈ names, HasRow net name) →
      names.foldl (selectName (renderedView compareText lists net).ifcfgState
        (Js.Obj.ofList SysDevice.name id (renderedView compareText lists net).devices)) sel =
      { attach  := sel.attach ++ names.filter fun name => name ∈ lists.attach
        observe := sel.observe ++ names.filter fun name => name ∈ lists.observe } := by
    intro names
    induction names with
    | nil => simp
    | cons name names ih =>
      intro sel hrows
      rw [List.foldl_cons, selectName_of_hasRow ha (hrows name List.mem_cons_self),
        ih _ fun n hn => hrows n (List.mem_cons_of_mem _ hn)]
      by_cases hatt : name ∈ lists.attach
      · have hobs : name ∉ lists.observe := fun hobs => ho.disjoint name hobs hatt
        simp [hatt, hobs]
      · by_cases hobs : name ∈ lists.observe <;> simp [hatt, hobs]
  have hrows : ∀ name ∈ (renderedView compareText lists net).ifcfgState.keys, HasRow net name :=
    fun name hname => (mem_keys_renderedView compareText lists net).mp hname
  rw [collectIfaceSelections, hfold _ _ hrows]
  simp

end Untouched

/-! ## Saving an untouched table -/

/-- A list is shown as it is: its interfaces have rows, and they are read in its order. -/
structure ShownAsIs (compareText : Js.Comparator CStr) (net : Option SysClassNet) (l : List CStr) :
    Prop where
  rows    : ∀ name ∈ l, HasRow net name
  ordered : l.Pairwise (ReadBefore compareText net)

/-- A list option that was written is read back. -/
theorem optionNames_listOption (l : List CStr) : optionNames (UciSession.listOption l) = l := by
  unfold UciSession.listOption
  split_ifs with h
  · exact h.symm
  · rfl

/-- A save that is not refused and whose calls succeed commits its selections. -/
theorem saveIfaceConfig_committed {sel : IfaceSelections}
    (h : ¬ (sel.attach = [] ∧ sel.observe = [])) (s : UciSession) :
    (saveIfaceConfig ⟨.done, .done, .done⟩ sel s).committed =
      { ifname           := UciSession.listOption sel.attach
        interfaceInclude := UciSession.listOption sel.attach
        observe          := UciSession.listOption sel.observe } := by
  rw [saveIfaceConfig, if_neg h]
  rfl

section

variable (compareText : Js.Comparator CStr) (net : Option SysClassNet) (cfg : IfaceOptions)

/-- The names in the order in which the save reads them. -/
abbrev readNames : List CStr :=
  (renderedView compareText (loadIfaceLists cfg) net).ifcfgState.keys

/-- A list is saved as it was exactly when it is shown as it is. -/
theorem filter_readNames_eq_iff (l : List CStr) :
    ((readNames compareText net cfg).filter fun name => name ∈ l) = l ↔
      ShownAsIs compareText net l := by
  refine (Js.filter_mem_eq_iff (readBefore_asymm compareText net) (Js.Obj.nodup_keys _)
    (pairwise_keys_renderedView compareText (loadIfaceLists cfg) net)).trans ?_
  simp only [mem_keys_renderedView]
  exact ⟨fun ⟨hrows, hord⟩ => ⟨hrows, hord⟩, fun ⟨hrows, hord⟩ => ⟨hrows, hord⟩⟩

/-- Nothing of a list is saved exactly when none of its names has a row. -/
theorem filter_readNames_eq_nil_iff (l : List CStr) :
    ((readNames compareText net cfg).filter fun name => name ∈ l) = [] ↔
      ∀ name ∈ l, ¬ HasRow net name := by
  simp only [List.filter_eq_nil_iff, mem_keys_renderedView, decide_eq_true_eq]
  exact ⟨fun h name hl hrow => h name hrow hl, fun h name hrow hl => h name hl hrow⟩

/-- Where no configured interface has a row, the page refuses to save. -/
theorem saveUntouched_of_no_row
    (hattach : ∀ name ∈ (loadIfaceLists cfg).attach, ¬ HasRow net name)
    (hobserve : ∀ name ∈ (loadIfaceLists cfg).observe, ¬ HasRow net name) :
    saveUntouched compareText net cfg = cfg := by
  have ha := (filter_readNames_eq_nil_iff compareText net cfg _).mpr hattach
  have ho := (filter_readNames_eq_nil_iff compareText net cfg _).mpr hobserve
  rw [saveUntouched, collectIfaceSelections_render (attachList_loadIfaceLists cfg)
    (observeList_loadIfaceLists cfg), ha, ho, saveIfaceConfig, if_pos ⟨rfl, rfl⟩]
  rfl

/-- Otherwise the daemon reloads the interfaces that have rows, as they were read. -/
theorem loadIfaceLists_saveUntouched
    (h : ¬ ((∀ name ∈ (loadIfaceLists cfg).attach, ¬ HasRow net name) ∧
      ∀ name ∈ (loadIfaceLists cfg).observe, ¬ HasRow net name)) :
    (loadIfaceLists (saveUntouched compareText net cfg)).attach =
        ((readNames compareText net cfg).filter fun name => name ∈ (loadIfaceLists cfg).attach) ∧
      (loadIfaceLists (saveUntouched compareText net cfg)).observe =
        ((readNames compareText net cfg).filter fun name =>
          name ∈ (loadIfaceLists cfg).observe) := by
  have ha := attachList_loadIfaceLists cfg
  have ho := observeList_loadIfaceLists cfg
  rw [← filter_readNames_eq_nil_iff compareText net cfg,
    ← filter_readNames_eq_nil_iff compareText net cfg] at h
  have hkeys := Js.Obj.nodup_keys (renderedView compareText (loadIfaceLists cfg) net).ifcfgState
  have hmem :
      ∀ {l : List CStr}, ∀ name ∈ (readNames compareText net cfg).filter (fun name => name ∈ l),
      name ∈ l := fun name hname => by simpa using (List.mem_filter.mp hname).2
  rw [saveUntouched, collectIfaceSelections_render ha ho, saveIfaceConfig_committed h]
  exact loadIfaceLists_of_lists (optionNames_listOption _) (optionNames_listOption _)
    (optionNames_listOption _) (ha.filter (hkeys.filter _) hmem)
    (ho.filter (hkeys.filter _) hmem hmem)

/-- Saving an untouched table keeps the daemon's lists exactly when the page refuses to save,
because no configured interface has a row, or when both lists are shown as they are. -/
theorem saveUntouched_keeps_iff :
    ((loadIfaceLists (saveUntouched compareText net cfg)).attach = (loadIfaceLists cfg).attach ∧
        (loadIfaceLists (saveUntouched compareText net cfg)).observe =
          (loadIfaceLists cfg).observe) ↔
      ((∀ name ∈ (loadIfaceLists cfg).attach, ¬ HasRow net name) ∧
          ∀ name ∈ (loadIfaceLists cfg).observe, ¬ HasRow net name) ∨
        ShownAsIs compareText net (loadIfaceLists cfg).attach ∧
          ShownAsIs compareText net (loadIfaceLists cfg).observe := by
  by_cases h : (∀ name ∈ (loadIfaceLists cfg).attach, ¬ HasRow net name) ∧
      ∀ name ∈ (loadIfaceLists cfg).observe, ¬ HasRow net name
  · rw [saveUntouched_of_no_row compareText net cfg h.1 h.2]
    exact ⟨fun _ => .inl h, fun _ => ⟨rfl, rfl⟩⟩
  · obtain ⟨hattach, hobserve⟩ := loadIfaceLists_saveUntouched compareText net cfg h
    rw [hattach, hobserve, filter_readNames_eq_iff, filter_readNames_eq_iff]
    exact ⟨.inr, fun hkeeps => hkeeps.resolve_left h⟩

end

/-! ### An interface that is absent for a moment -/

/-- Two LAN interfaces are collected. -/
def twoLanConfig : IfaceOptions :=
  { ifname           := some (.list ["br-lan".toList, "lan2".toList])
    interfaceInclude := none
    observe          := none }

/-- Only one of them is there. -/
def onlyBridge : SysClassNet where
  dirs     := [⟨"br-lan".toList, true, false, none⟩]
  distinct := List.nodup_singleton _

/-- The other one is gone from the configuration once the page has been saved. -/
theorem absent_interface_dropped :
    (loadIfaceLists twoLanConfig).attach = ["br-lan".toList, "lan2".toList] ∧
      ∀ compareText, (loadIfaceLists
        (saveUntouched compareText (some onlyBridge) twoLanConfig)).attach = ["br-lan".toList] := by
  have hload : (loadIfaceLists twoLanConfig).attach = ["br-lan".toList, "lan2".toList] := by decide
  refine ⟨hload, fun compareText => ?_⟩
  have hrow : ∀ name, HasRow (some onlyBridge) name ↔ name = "br-lan".toList := by
    have hscan : scannedNames (some onlyBridge) = ["br-lan".toList] := by decide
    have hproto : "br-lan".toList ≠ Js.Obj.protoName := by decide
    intro name
    rw [hasRow_iff, hscan, List.mem_singleton]
    exact ⟨fun h => h.1, fun h => ⟨h, h ▸ hproto⟩⟩
  have hread : readNames compareText (some onlyBridge) twoLanConfig = ["br-lan".toList] := by
    apply List.perm_singleton.mp
    apply (List.perm_ext_iff_of_nodup (Js.Obj.nodup_keys _) (List.nodup_singleton _)).mpr
    intro name
    rw [mem_keys_renderedView, hrow, List.mem_singleton]
  have hshown :
      ¬ ((∀ name ∈ (loadIfaceLists twoLanConfig).attach, ¬ HasRow (some onlyBridge) name) ∧
      ∀ name ∈ (loadIfaceLists twoLanConfig).observe, ¬ HasRow (some onlyBridge) name) := by
    intro h
    refine h.1 "br-lan".toList ?_ ((hrow _).mpr rfl)
    rw [hload]
    exact List.mem_cons_self
  rw [(loadIfaceLists_saveUntouched compareText (some onlyBridge) twoLanConfig hshown).1,
    hread, hload]
  decide

end Lanspeed
