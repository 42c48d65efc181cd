import Lanspeed.Tc.Loader
import Lanspeed.Lib.Loop
import Mathlib.Data.List.Infix

/-!
# The cleanup of the init script

`cleanup_lanspeed_tc_filters` of `/etc/init.d/lanspeedd`: it reads what `tc filter show` prints and
deletes the filters whose text it takes for lanspeed's. What `tc` prints is a parameter.
-/

namespace Lanspeed

/-- `LANSPEED_TC_OWNER`. -/
def lanspeedTcOwner : CStr := "lanspeed".toList

/-- `LANSPEED_TC_PREF`. -/
def lanspeedTcPref : CStr := "49152".toList

/-- `LANSPEED_TC_HANDLE`. -/
def lanspeedTcHandle : CStr := "0x1eed".toList

/-- `LANSPEED_TC_EARLY_PREF`. -/
def lanspeedTcEarlyPref : CStr := "1".toList

/-- `LANSPEED_TC_EARLY_HANDLE`. -/
def lanspeedTcEarlyHandle : CStr := "0x1eee".toList

/-- `LANSPEED_TC_OBJECT`. -/
def lanspeedTcObject : CStr := "/usr/lib/bpf/lanspeed_tc.o".toList

/-- `grep -q` for a plain text in one line. -/
def grep (pat text : CStr) : Bool := pat <:+: text

/-- `lanspeed_tc_filter_owned`. -/
def lanspeedTcFilterOwned (filter : CStr) : Bool :=
  let place :=
    if grep ("pref ".toList ++ lanspeedTcPref) filter then
      grep ("handle ".toList ++ lanspeedTcHandle) filter
    else if grep ("pref ".toList ++ lanspeedTcEarlyPref) filter then
      grep ("handle ".toList ++ lanspeedTcEarlyHandle) filter
    else false
  place && grep lanspeedTcOwner filter && grep lanspeedTcObject filter

/-- The `tc` program: whether it is there, and the sections, one line each, that `tc filter show`
prints for the filters of one direction of a device. -/
structure TcCommand where
  executable : Bool := true
  sections : List TcFilter → List CStr

/-- One turn of the loop over the sections: `tc filter del` at the place of the mode that the text
names. -/
def cleanupSection (ifindex : ℕ) (point : TcAttachPoint) (k : TcKernel)
    (filter : CStr) : TcKernel :=
  if lanspeedTcFilterOwned filter then
    let early := grep ("pref ".toList ++ lanspeedTcEarlyPref) filter
    detachPoint none (lanspeedSlot ifindex early point) k
  else k

/-- The filters of one direction of a device. -/
def TcKernel.filtersOn (k : TcKernel) (ifindex : ℕ) (point : TcAttachPoint) : List TcFilter :=
  k.filters.filter fun f => f.slot.ifindex = ifindex ∧ f.slot.point = point

/-- `cleanup_lanspeed_tc_filters_on_dev`. -/
def cleanupLanspeedTcFiltersOnDev (tc : TcCommand) (k : TcKernel) (dev : CStr) : TcKernel :=
  if dev.isEmpty || !tc.executable then k
  else
    match k.ifNameToIndex dev with
    | none => k
    | some ifindex =>
      [TcAttachPoint.ingress, .egress].foldl (fun k point =>
        (tc.sections (k.filtersOn ifindex point)).foldl (cleanupSection ifindex point) k) k

/-- `cleanup_lanspeed_tc_filters` over the configured interfaces. -/
def cleanupLanspeedTcFilters (tc : TcCommand) (devs : List CStr) (k : TcKernel) : TcKernel :=
  devs.foldl (cleanupLanspeedTcFiltersOnDev tc) k

/-- `tc filter show` never prints the path of the object file. -/
def TcCommand.PrintsNoObject (tc : TcCommand) : Prop :=
  ∀ filters, ∀ filter ∈ tc.sections filters, grep lanspeedTcObject filter = false

variable {tc : TcCommand}

/-- A text without the path of the object file is not taken for lanspeed's. -/
theorem lanspeedTcFilterOwned_eq_false {filter : CStr}
    (h : grep lanspeedTcObject filter = false) : lanspeedTcFilterOwned filter = false := by
  rw [lanspeedTcFilterOwned, h, Bool.and_false]

/-- The cleanup deletes nothing when `tc` does not print the path of the object file. -/
theorem cleanupLanspeedTcFilters_eq_self (htc : tc.PrintsNoObject) (devs : List CStr)
    (k : TcKernel) : cleanupLanspeedTcFilters tc devs k = k := by
  apply Loop.foldl_eq_self
  intro dev _
  have hsections : ∀ ifindex point,
      (tc.sections (k.filtersOn ifindex point)).foldl (cleanupSection ifindex point) k = k := by
    refine fun ifindex point => Loop.foldl_eq_self fun filter hmem => ?_
    rw [cleanupSection, lanspeedTcFilterOwned_eq_false (htc _ filter hmem)]
    rfl
  rw [cleanupLanspeedTcFiltersOnDev]
  split_ifs
  · rfl
  · cases k.ifNameToIndex dev with
    | none => rfl
    | some ifindex => exact Loop.foldl_eq_self fun point _ => hsections ifindex point

end Lanspeed
