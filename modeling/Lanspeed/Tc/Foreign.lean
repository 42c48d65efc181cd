import Lanspeed.Tc.Effects
import Lanspeed.Lib.Machine

/-!
# Filters of other components

The loader tells its own filters by their pref/handle pair only. Attaching and ensuring never touch
a place that is taken, so a foreign filter survives them; detaching empties the place whatever
filter is there, also after `lanspeed_bpf_ensure_attached` has taken a foreign filter for its own.
-/

namespace Lanspeed

/-- The filter at the place is one of another component. -/
def TcKernel.ForeignAt (k : TcKernel) (s : TcSlot) (label : CStr) : Prop :=
  k.programAt s = some (.foreign label)

/-- A call of the loader. -/
inductive LoaderCall where
  | attachIfaceMode (env : TcCallEnv) (ifname : CStr) (early : Bool)
  | ensureAttached (env : TcCallEnv) (ifname : CStr) (early : Bool) (reason : CStr)
  | detachIfaceMode (env : TcCallEnv) (ifname : CStr) (early : Bool)
  | detachAll (faults : AttachedHook → Bool → Option Errno)

/-- The state after a call of the loader. -/
def loaderStep (st : TcState) : LoaderCall → TcState
  | .attachIfaceMode env ifname early => (lanspeedBpfAttachIfaceMode env ifname early st).2
  | .ensureAttached env ifname early reason =>
    (lanspeedBpfEnsureAttached env ifname early reason st).2
  | .detachIfaceMode env ifname early => (lanspeedBpfDetachIfaceMode env ifname early st).2
  | .detachAll faults => lanspeedBpfDetachAll faults st

/-- A call of `bpf_tc_detach` that a loader call makes at the place does not fail by itself. -/
def LoaderCall.Detaches (st : TcState) (s : TcSlot) : LoaderCall → Prop
  | .attachIfaceMode _ _ _ => False
  | .ensureAttached _ _ _ _ => False
  | .detachIfaceMode env ifname early =>
    ∃ obj ifindex point, Opens st ifname obj ifindex ∧ s = lanspeedSlot ifindex early point ∧
      env.detach point = none
  | .detachAll faults =>
    ∃ hook ∈ st.loader.attached, ∃ early,
      s = lanspeedSlot hook.slot.ifindex early hook.slot.point ∧ faults hook early = none

/-- Own programs in free places leave the foreign filters as they are. -/
theorem Fills.foreignAt_iff {own : TcSlot → TcProgram → Prop} {st st' : TcState}
    (h : Fills own st st') (hown : ∀ s label, ¬ own s (.foreign label))
    {s : TcSlot} {label : CStr} :
    st'.kernel.ForeignAt s label ↔ st.kernel.ForeignAt s label := by
  rw [TcKernel.ForeignAt, TcKernel.ForeignAt]
  rcases h.table s with heq | ⟨hnone, p, hp, hfilled⟩
  · rw [heq]
  · rw [hfilled, hnone]
    refine iff_of_false (fun hp' => ?_) (by simp)
    obtain rfl : p = .foreign label := Option.some.inj hp'
    exact hown s label hp

/-- A foreign program is none that the loader puts. -/
theorem not_ownOn_foreign {st : TcState} {names : List CStr} {early : Bool} (s : TcSlot)
    (label : CStr) : ¬ OwnOn st names early s (.foreign label) := by
  rintro ⟨name, -, obj, ifindex, point, -, -, hp⟩
  cases hp

/-- `detach_point` removes the filter at its place when the call does not fail by itself. -/
theorem foreignAt_detachPoint_iff {fault : Option Errno} {place s : TcSlot} {k : TcKernel}
    {label : CStr} :
    (detachPoint fault place k).ForeignAt s label ↔
      k.ForeignAt s label ∧ ¬ (s = place ∧ fault = none) := by
  cases fault with
  | some e =>
    show k.ForeignAt s label ↔ _
    simp
  | none =>
    have hfault : k.programAt place ≠ none → (none : Option Errno) = none := fun _ => rfl
    rw [TcKernel.ForeignAt, programAt_detachPoint hfault, Function.update_apply]
    by_cases hs : s = place
    · simp [hs]
    · simp [hs, TcKernel.ForeignAt]

/-- A turn of the loop of `lanspeed_bpf_detach_all` removes the filters at both places of
the hook. -/
theorem foreignAt_detachHook_iff {faults : AttachedHook → Bool → Option Errno} {k : TcKernel}
    {hook : AttachedHook} {s : TcSlot} {label : CStr} :
    (detachHook faults k hook).ForeignAt s label ↔ k.ForeignAt s label ∧
      ¬ ∃ early, s = lanspeedSlot hook.slot.ifindex early hook.slot.point ∧
        faults hook early = none := by
  rw [detachHook, foreignAt_detachPoint_iff, foreignAt_detachPoint_iff, Bool.exists_bool, not_or]
  tauto

/-- The loop removes the filters at both places of every hook. -/
theorem foreignAt_foldl_detachHook_iff {faults : AttachedHook → Bool → Option Errno}
    {hooks : List AttachedHook} {k : TcKernel} {s : TcSlot} {label : CStr} :
    (hooks.foldl (detachHook faults) k).ForeignAt s label ↔ k.ForeignAt s label ∧
      ¬ ∃ hook ∈ hooks, ∃ early, s = lanspeedSlot hook.slot.ifindex early hook.slot.point ∧
        faults hook early = none := by
  induction hooks generalizing k with
  | nil => simp
  | cons hook hooks ih =>
    rw [List.foldl_cons, ih, foreignAt_detachHook_iff, List.exists_mem_cons_iff, not_or, and_assoc]

/-- A call keeps the foreign filters except where it detaches, and adds none. -/
theorem foreignAt_loaderStep_iff (st : TcState) (call : LoaderCall) (place : TcSlot × CStr) :
    (loaderStep st call).kernel.ForeignAt place.1 place.2 ↔
      st.kernel.ForeignAt place.1 place.2 ∧ ¬ call.Detaches st place.1 := by
  obtain ⟨s, label⟩ := place
  cases call with
  | attachIfaceMode env ifname early =>
    rw [LoaderCall.Detaches, not_false_eq_true, and_true]
    exact (attachIfaceMode_outcome env ifname early st).1.fills.foreignAt_iff not_ownOn_foreign
  | ensureAttached env ifname early reason =>
    rw [LoaderCall.Detaches, not_false_eq_true, and_true]
    exact (ensureAttached_outcome env ifname early st reason).fills.foreignAt_iff not_ownOn_foreign
  | detachIfaceMode env ifname early =>
    rw [loaderStep, LoaderCall.Detaches, lanspeedBpfDetachIfaceMode]
    rcases hopen : openIface env ifname st with ⟨err, st'⟩ | ⟨obj, ifindex⟩
    · have hnot : ∀ obj ifindex, ¬ Opens st ifname obj ifindex := by
        intro obj ifindex hopens
        rw [openIface_ok_iff.mpr hopens] at hopen
        cases hopen
      show st'.kernel.programAt s = _ ↔ _
      rw [(openIface_error hopen).programAt, TcKernel.ForeignAt]
      simp [hnot]
    · have hopens := openIface_ok_iff.mp hopen
      have honly : ∀ {obj' ifindex'}, Opens st ifname obj' ifindex' → ifindex' = ifindex :=
        fun h => Option.some.inj (h.resolves.symm.trans hopens.resolves)
      show (detachPoint (env.detach .egress) _ (detachPoint (env.detach .ingress) _ _)).ForeignAt
        s label ↔ _
      rw [foreignAt_detachPoint_iff, foreignAt_detachPoint_iff, and_assoc, ← not_or]
      refine and_congr_right fun _ => not_congr ⟨?_, ?_⟩
      · rintro (⟨hs, hfault⟩ | ⟨hs, hfault⟩)
        · exact ⟨obj, ifindex, .ingress, hopens, hs, hfault⟩
        · exact ⟨obj, ifindex, .egress, hopens, hs, hfault⟩
      · rintro ⟨obj', ifindex', point, hopens', hs, hfault⟩
        obtain rfl := honly hopens'
        cases point with
        | ingress => exact .inl ⟨hs, hfault⟩
        | egress => exact .inr ⟨hs, hfault⟩
  | detachAll faults => exact foreignAt_foldl_detachHook_iff

/-- No call of `bpf_tc_detach` that the loader call makes meets a foreign filter, unless the call
fails by itself. -/
def SparesForeign (st : TcState) (call : LoaderCall) : Prop :=
  ∀ s label, st.kernel.ForeignAt s label → ¬ call.Detaches st s

/-- Every foreign filter survives a run of the loader exactly when no call of the run
detaches one. -/
theorem foreign_filters_survive_iff (st : TcState) (calls : List LoaderCall) :
    (∀ s label, st.kernel.ForeignAt s label →
        (Machine.run loaderStep st calls).kernel.ForeignAt s label) ↔
      Machine.Along loaderStep SparesForeign st calls := by
  have hkeeps := Machine.run_keeps_iff loaderStep
    (fun st (place : TcSlot × CStr) => st.kernel.ForeignAt place.1 place.2)
    foreignAt_loaderStep_iff st calls
  rw [Prod.forall] at hkeeps
  rw [hkeeps]
  exact iff_of_eq (congrArg (fun P => Machine.Along loaderStep P st calls)
    (funext fun st => funext fun call => propext Prod.forall))

/-- The place of the ingress filter of the normal mode on the interface with the index 1. -/
def lanIngressSlot : TcSlot := lanspeedSlot 1 false .ingress

/-- One device with a clsact qdisc and the ingress filter of another component, at the pair that
lanspeed uses. -/
def foreignKernel : TcKernel :=
  { devices := [⟨"lan1".toList, 1, Nat.one_pos⟩]
    clsact := [1]
    filters := [⟨lanIngressSlot, .foreign "other".toList⟩]
    names_distinct := by decide
    ifindexes_distinct := by decide
    slots_distinct := by decide
    clsact_live := by decide
    filters_clsact := by decide }

/-- The loader with a loaded object and nothing attached. -/
def loadedLoader : LoaderState := { obj := some 1, attached_le := Nat.zero_le _ }

/-- `lanspeed_bpf_ensure_attached` takes the foreign filter for its own, and
`lanspeed_bpf_detach_all` deletes it. -/
theorem foreign_filter_lost_adopted :
    let st : TcState := { kernel := foreignKernel, loader := loadedLoader }
    st.kernel.ForeignAt lanIngressSlot "other".toList ∧
      ¬ (Machine.run loaderStep st
          [.ensureAttached {} "lan1".toList false [], .detachAll fun _ _ => none]).kernel.ForeignAt
        lanIngressSlot "other".toList := by
  refine ⟨?_, ?_⟩
  · show foreignKernel.programAt lanIngressSlot = _
    decide +kernel
  · show TcKernel.programAt _ lanIngressSlot ≠ _
    decide +kernel

end Lanspeed
