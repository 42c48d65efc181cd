import Lanspeed.Identity
import Lanspeed.Lib.CText
import Lanspeed.Lib.Loop
import Mathlib.Data.List.Perm.Subperm

/-!
# The configured interfaces

`load_config` builds two lists of interface names from three options: the attach list from `ifname`
and `interface_include`, and the observe list from `observe`. Both are duplicate free and they share
no name (`ObserveList`). `sysdevices_method` publishes them beside the network devices that the
system has at the time, with a mark on each device that is in one of the lists.
-/

namespace Lanspeed

/-! ## Loading the lists -/

/-- The value of a UCI option. -/
inductive UciValue where
  | string (s : CStr)
  | list (l : List CStr)
deriving DecidableEq, Repr

/-- The names in an option that may be absent. -/
def optionNames : Option UciValue → List CStr
  | none => []
  | some (.string s) => [s]
  | some (.list l) => l

/-- The interface options of `lanspeed.main`. -/
structure IfaceOptions where
  ifname           : Option UciValue
  interfaceInclude : Option UciValue
  observe          : Option UciValue
deriving DecidableEq, Repr

/-- `add_observe_ifname`: append a name to the observe list. -/
def addObserveIfname (attach : List CStr) (observe : List CStr) (name : CStr) : List CStr :=
  if name = [] then observe
  else if observe.length ≥ lanspeedBpfIfaceMax then observe
  else if name.length ≥ ifnameStrLen then observe
  else if name ∈ attach then observe
  else if name ∈ observe then observe
  else observe ++ [snprintf ifnameStrLen name]

/-- What the daemon keeps of the interface options. -/
structure IfaceLists where
  attach                : List CStr
  observe               : List CStr
  rejectedNssifbCollect : Bool
deriving DecidableEq, Repr

/-- The names that `load_bpf_attach_list` goes through. -/
def IfaceOptions.collectNames (cfg : IfaceOptions) : List CStr :=
  optionNames cfg.ifname ++ optionNames cfg.interfaceInclude

/-- `load_bpf_attach_list`: the attach list, and whether the configuration asks for `nssifb`
in it. -/
def loadBpfAttachList (cfg : IfaceOptions) : List CStr × Bool :=
  (bpfAttachIfnames cfg.collectNames, cfg.collectNames.any (· == "nssifb".toList))

/-- `load_observe_list`. -/
def loadObserveList (attach : List CStr) (cfg : IfaceOptions) : List CStr :=
  (optionNames cfg.observe).foldl (addObserveIfname attach) []

/-- The two lists as `load_config` builds them. -/
def loadIfaceLists (cfg : IfaceOptions) : IfaceLists :=
  let (attach, rejected) := loadBpfAttachList cfg
  { attach := attach
    observe := loadObserveList attach cfg
    rejectedNssifbCollect := rejected }

/-- The representation invariant of the observe list. -/
structure ObserveList (attach observe : List CStr) : Prop where
  nonempty : ∀ name ∈ observe, name ≠ []
  fits     : ∀ name ∈ observe, name.length < ifnameStrLen
  disjoint : ∀ name ∈ observe, name ∉ attach
  nodup    : observe.Nodup
  bounded  : observe.length ≤ lanspeedBpfIfaceMax

/-- A name that the observe list takes is appended to it. -/
theorem addObserveIfname_of_fresh {attach observe : List CStr} {name : CStr} (hne : name ≠ [])
    (hfits : name.length < ifnameStrLen) (hattach : name ∉ attach) (hobserve : name ∉ observe)
    (hroom : observe.length < lanspeedBpfIfaceMax) :
    addObserveIfname attach observe name = observe ++ [name] := by
  rw [addObserveIfname, if_neg hne, if_neg (by omega), if_neg (by omega), if_neg hattach,
    if_neg hobserve, snprintf_of_fits hfits]

/-- A name is taken, or the observe list stays as it is. -/
theorem addObserveIfname_cases (attach observe : List CStr) (name : CStr) :
    addObserveIfname attach observe name = observe ∨
      name ≠ [] ∧ name.length < ifnameStrLen ∧ name ∉ attach ∧ name ∉ observe ∧
        observe.length < lanspeedBpfIfaceMax ∧
        addObserveIfname attach observe name = observe ++ [name] := by
  unfold addObserveIfname
  split_ifs with hempty hfull hlong hattach hobserve
  · exact .inl rfl
  · exact .inl rfl
  · exact .inl rfl
  · exact .inl rfl
  · exact .inl rfl
  · have hfits : name.length < ifnameStrLen := by omega
    exact .inr ⟨hempty, hfits, hattach, hobserve, by omega, by rw [snprintf_of_fits hfits]⟩

/-- The empty list is well formed. -/
theorem ObserveList.nil (attach : List CStr) : ObserveList attach [] where
  nonempty := by simp
  fits     := by simp
  disjoint := by simp
  nodup    := List.nodup_nil
  bounded  := by simp

/-- Adding a name keeps the list of observed interfaces well formed. -/
theorem ObserveList.add {attach observe : List CStr}
    (h : ObserveList attach observe) (name : CStr) :
    ObserveList attach (addObserveIfname attach observe name) := by
  rcases addObserveIfname_cases attach observe name with heq | ⟨hne, hfits, hatt, hobs, hroom, heq⟩
  · rw [heq]
    exact h
  · rw [heq]
    refine ⟨?_, ?_, ?_, ?_, ?_⟩
    · simpa [or_imp, forall_and] using ⟨h.nonempty, hne⟩
    · simpa [or_imp, forall_and] using ⟨h.fits, hfits⟩
    · simpa [or_imp, forall_and] using ⟨h.disjoint, hatt⟩
    · exact List.nodup_append.mpr ⟨h.nodup, List.nodup_singleton _, by
        rintro a ha b hb rfl
        exact hobs (List.mem_singleton.mp hb ▸ ha)⟩
    · rw [List.length_append, List.length_singleton]
      omega

theorem attachList_loadIfaceLists (cfg : IfaceOptions) : AttachList (loadIfaceLists cfg).attach :=
  attachList_bpfAttachIfnames _

/-- The list of observed interfaces is well formed for every configuration. -/
theorem observeList_loadIfaceLists (cfg : IfaceOptions) :
    ObserveList (loadIfaceLists cfg).attach (loadIfaceLists cfg).observe := by
  have h : ∀ attach (names observe : List CStr), ObserveList attach observe →
      ObserveList attach (names.foldl (addObserveIfname attach) observe) := by
    intro attach names
    induction names with
    | nil => exact fun observe h => h
    | cons name names ih => exact fun observe h => ih _ (h.add name)
  exact h _ _ _ (ObserveList.nil _)

/-! ## Loading a list that was built -/

/-- The name of an attached interface is not empty. -/
theorem AttachName.ne_nil {name : CStr} (h : AttachName name) : name ≠ [] := by
  rintro rfl
  exact absurd h.recommended (by decide)

/-- A name that the attach list takes is appended to it. -/
theorem addBpfAttachIfname_of_fresh {attach : List CStr} {name : CStr} (hname : AttachName name)
    (hfresh : name ∉ attach) (hroom : attach.length < lanspeedBpfIfaceMax) :
    addBpfAttachIfname attach name = attach ++ [name] := by
  have hfits := hname.fits
  rw [addBpfAttachIfname, if_neg hname.ne_nil, if_neg (by simp [hname.recommended]),
    if_neg (by omega), if_neg (by omega), if_neg hfresh, snprintf_of_fits hfits]

/-- Every part of an attach list is one. -/
theorem AttachList.filter {attach : List CStr} (h : AttachList attach) {part : List CStr}
    (hn : part.Nodup) (hsub : ∀ name ∈ part, name ∈ attach) : AttachList part where
  names name hname := h.names name (hsub name hname)
  nodup := hn
  bounded := (hn.subperm hsub).length_le.trans h.bounded

/-- The names of an attach list are all taken. -/
theorem foldl_addBpfAttachIfname {attach names : List CStr} (h : AttachList (attach ++ names)) :
    names.foldl addBpfAttachIfname attach = attach ++ names := by
  induction names generalizing attach with
  | nil => simp
  | cons name names ih =>
    have hname := h.names name (by simp)
    have hfresh : name ∉ attach := by
      intro hmem
      exact List.disjoint_of_nodup_append h.nodup hmem List.mem_cons_self
    have hroom := h.bounded
    rw [List.length_append, List.length_cons] at hroom
    rw [List.foldl_cons, addBpfAttachIfname_of_fresh hname hfresh (by omega), ih (by simpa using h)]
    simp

/-- Names that are in the list already change nothing. -/
theorem foldl_addBpfAttachIfname_of_mem {attach names : List CStr}
    (h : ∀ name ∈ names, name ∈ attach) :
    names.foldl addBpfAttachIfname attach = attach := by
  induction names with
  | nil => rfl
  | cons name names ih =>
    have hadd : addBpfAttachIfname attach name = attach := by
      unfold addBpfAttachIfname
      have hname := h name List.mem_cons_self
      split_ifs <;> rfl
    rw [List.foldl_cons, hadd, ih fun n hn => h n (List.mem_cons_of_mem _ hn)]

/-- A part of a well-formed list is well formed. -/
theorem ObserveList.filter {attach observe : List CStr} (h : ObserveList attach observe)
    {attach' part : List CStr} (hn : part.Nodup) (hsub : ∀ name ∈ part, name ∈ observe)
    (hattach : ∀ name ∈ attach', name ∈ attach) : ObserveList attach' part where
  nonempty name hname := h.nonempty name (hsub name hname)
  fits name hname := h.fits name (hsub name hname)
  disjoint name hname hmem := h.disjoint name (hsub name hname) (hattach name hmem)
  nodup := hn
  bounded := (hn.subperm hsub).length_le.trans h.bounded

/-- The names of an observe list are all taken. -/
theorem foldl_addObserveIfname {attach observe names : List CStr}
    (h : ObserveList attach (observe ++ names)) :
    names.foldl (addObserveIfname attach) observe = observe ++ names := by
  induction names generalizing observe with
  | nil => simp
  | cons name names ih =>
    have hmem : name ∈ observe ++ name :: names := by simp
    have hfresh : name ∉ observe := by
      intro hobs
      exact List.disjoint_of_nodup_append h.nodup hobs List.mem_cons_self
    have hroom := h.bounded
    rw [List.length_append, List.length_cons] at hroom
    have hadd := addObserveIfname_of_fresh (h.nonempty name hmem) (h.fits name hmem)
      (h.disjoint name hmem) hfresh (by omega)
    rw [List.foldl_cons, hadd, ih (by simpa using h)]
    simp

/-- A configuration with an attach list in both of its options and an observe list is loaded as
these lists. -/
theorem loadIfaceLists_of_lists {cfg : IfaceOptions} {attach observe : List CStr}
    (hifname : optionNames cfg.ifname = attach)
    (hinclude : optionNames cfg.interfaceInclude = attach)
    (hobserve : optionNames cfg.observe = observe) (ha : AttachList attach)
    (ho : ObserveList attach observe) :
    (loadIfaceLists cfg).attach = attach ∧ (loadIfaceLists cfg).observe = observe := by
  have hattach : bpfAttachIfnames cfg.collectNames = attach := by
    have hfirst := foldl_addBpfAttachIfname (show AttachList ([] ++ attach) from ha)
    rw [IfaceOptions.collectNames, hifname, hinclude, bpfAttachIfnames, List.foldl_append, hfirst,
      List.nil_append, foldl_addBpfAttachIfname_of_mem fun _ h => h]
  refine ⟨hattach, ?_⟩
  show loadObserveList (bpfAttachIfnames cfg.collectNames) cfg = observe
  have hlist := foldl_addObserveIfname (show ObserveList attach ([] ++ observe) from ho)
  rw [hattach, loadObserveList, hobserve, hlist, List.nil_append]

/-! ## The lists as the first distinct names -/

section FirstNames

/-- A name that the attach list takes where there is room. -/
def attachEligible (name : CStr) : Bool :=
  decide (sysdeviceIsRecommendedLan name ∧ name.length < ifnameStrLen)

/-- A name that the observe list takes where there is room. -/
def observeEligible (attach : List CStr) (name : CStr) : Bool :=
  decide (name ≠ [] ∧ name.length < ifnameStrLen ∧ name ∉ attach)

/-- `add_bpf_attach_ifname` appends an eligible name that is not there, if there is room. -/
theorem addBpfAttachIfname_eq :
    addBpfAttachIfname = FirstDistinct.add lanspeedBpfIfaceMax attachEligible := by
  funext attach name
  rw [FirstDistinct.add]
  split_ifs with htaken
  · obtain ⟨heligible, hroom, hfresh⟩ := htaken
    obtain ⟨hrecommended, hfits⟩ := of_decide_eq_true heligible
    exact addBpfAttachIfname_of_fresh ⟨hrecommended, hfits⟩ hfresh hroom
  · unfold addBpfAttachIfname
    split_ifs with hempty hrec hfull hlong hmem
    · rfl
    · rfl
    · rfl
    · rfl
    · rfl
    · have hrecommended : sysdeviceIsRecommendedLan name = true := by simpa using hrec
      exact absurd ⟨decide_eq_true ⟨hrecommended, by omega⟩, by omega, hmem⟩ htaken

/-- `add_observe_ifname` appends an eligible name that is not there, if there is room. -/
theorem addObserveIfname_eq (attach : List CStr) :
    addObserveIfname attach = FirstDistinct.add lanspeedBpfIfaceMax (observeEligible attach) := by
  funext observe name
  rw [FirstDistinct.add]
  split_ifs with htaken
  · obtain ⟨heligible, hroom, hfresh⟩ := htaken
    obtain ⟨hne, hfits, hattach⟩ := of_decide_eq_true heligible
    exact addObserveIfname_of_fresh hne hfits hattach hfresh hroom
  · rcases addObserveIfname_cases attach observe name with heq | ⟨hne,
      hfits, hattach, hfresh, hroom, -⟩
    · exact heq
    · exact absurd ⟨decide_eq_true ⟨hne, hfits, hattach⟩, hroom, hfresh⟩ htaken

/-- The attached interfaces are the first distinct eligible names of the option. -/
theorem attach_loadIfaceLists (cfg : IfaceOptions) :
    (loadIfaceLists cfg).attach =
      ((cfg.collectNames.filter attachEligible).eraseDups).take lanspeedBpfIfaceMax := by
  show cfg.collectNames.foldl addBpfAttachIfname [] = _
  rw [addBpfAttachIfname_eq, FirstDistinct.foldl_add]

/-- The observed interfaces are the first distinct names that are eligible and not attached. -/
theorem observe_loadIfaceLists (cfg : IfaceOptions) :
    (loadIfaceLists cfg).observe =
      (((optionNames cfg.observe).filter
        (observeEligible (loadIfaceLists cfg).attach)).eraseDups).take
        lanspeedBpfIfaceMax := by
  show (optionNames cfg.observe).foldl (addObserveIfname (loadIfaceLists cfg).attach) [] = _
  rw [addObserveIfname_eq, FirstDistinct.foldl_add]

end FirstNames

/-! ## Devices -/

/-- A directory of `/sys/class/net`. -/
structure NetDir where
  name   : CStr
  bridge : Bool
  brport : Bool
  speed  : Option CStr
deriving DecidableEq, Repr

/-- `/sys/class/net`. -/
structure SysClassNet where
  dirs     : List NetDir
  distinct : (dirs.map NetDir.name).Nodup

/-- `sysdevice_is_candidate`. -/
def sysdeviceIsCandidate (name : CStr) : Bool :=
  if name = [] then false
  else if name == "lo".toList then false
  else if startsWith name "teql".toList then false
  else true

/-- `sysdevice_read_u64` on a file that may not be there. -/
def sysdeviceReadU64 (file : Option CStr) : Option ℕ :=
  match file with
  | none => none
  | some content =>
    match CText.fgetsLines 64 content with
    | [] => none
    | buf :: _ => some ((CText.strtoull buf).getD 0)

/-- A device as `sysdevices_method` describes it. -/
structure SysDevice where
  name           : CStr
  selected       : Bool
  observed       : Bool
  recommendedLan : Bool
  isBridge       : Bool
  isBridgePort   : Bool
  isNssIfb       : Bool
  speedMbps      : Option ℕ
deriving DecidableEq, Repr

/-- The reply of `sysdevices_method`. -/
structure SysdevicesReply where
  devices         : List SysDevice
  currentIfnames  : List CStr
  currentObserved : List CStr
deriving DecidableEq, Repr

/-- The names that the scan keeps. -/
def scanKeeps (name : CStr) : Bool := name.head? != some '.' && sysdeviceIsCandidate name

/-- The device of a directory. -/
def sysDevice (lists : IfaceLists) (dir : NetDir) : SysDevice :=
  let speedRaw := (sysdeviceReadU64 dir.speed).getD 0
  { name           := dir.name
    selected       := dir.name ∈ lists.attach
    observed       := dir.name ∈ lists.observe
    recommendedLan := sysdeviceIsRecommendedLan dir.name
    isBridge       := dir.bridge
    isBridgePort   := dir.brport
    isNssIfb       := dir.name == "nssifb".toList
    speedMbps      := if speedRaw > 0 ∧ speedRaw < 1 <<< 31 then some speedRaw else none }

/-- `sysdevices_method`; the scan finds nothing when the directory cannot be opened. -/
def sysdevicesMethod (lists : IfaceLists) (net : Option SysClassNet) : SysdevicesReply :=
  let dirs := net.elim [] SysClassNet.dirs
  { devices         := (dirs.filter fun dir => scanKeeps dir.name).map (sysDevice lists)
    currentIfnames  := lists.attach
    currentObserved := lists.observe }

/-- The names of the devices, in the order in which the directory gives them. -/
def scannedNames (net : Option SysClassNet) : List CStr :=
  ((net.elim [] SysClassNet.dirs).map NetDir.name).filter scanKeeps

/-- The devices of the reply are those that were scanned. -/
theorem map_name_devices (lists : IfaceLists) (net : Option SysClassNet) :
    (sysdevicesMethod lists net).devices.map SysDevice.name = scannedNames net := by
  rw [sysdevicesMethod, scannedNames, List.map_map, List.filter_map]
  rfl

/-- No device is scanned twice. -/
theorem nodup_scannedNames (net : Option SysClassNet) : (scannedNames net).Nodup := by
  cases net with
  | none => exact List.nodup_nil
  | some net => exact List.Nodup.filter _ net.distinct

/-- Every device is the device of its directory. -/
theorem mem_devices {lists : IfaceLists} {net : Option SysClassNet} {dev : SysDevice}
    (h : dev ∈ (sysdevicesMethod lists net).devices) : ∃ dir, dev = sysDevice lists dir := by
  obtain ⟨dir, -, rfl⟩ := List.mem_map.mp h
  exact ⟨dir, rfl⟩

end Lanspeed
