import Lanspeed.Tc.Gate

/-!
# Attaching on an interface

`lanspeed_bpf_attach_iface_mode` attaches its ingress filter without looking for it, and asks the
kernel for its egress filter only. So it refuses an interface that has both filters
(`attachedAgain_never`), and where the egress filter cannot be attached it returns an error with the
ingress filter in place (`rolledBack_iff`).
-/

namespace Lanspeed

/-! ## How a call ends -/

/-- How a call of `lanspeed_bpf_attach_iface_mode` ends: before its ingress filter is attached,
before its egress filter is, or with both in place. -/
inductive AttachOutcome (env : TcCallEnv) (ifname : CStr) (early : Bool) (st : TcState) :
    Option Errno → TcState → Prop where
  | refused (err : Errno) {st' : TcState}
      (fails : ∀ obj ifindex, Opens st ifname obj ifindex →
        ¬env.Attaches (lanspeedSlot ifindex early .ingress) st.kernel)
      (same : SameTables st st') (status : SameStatus st st') :
      AttachOutcome env ifname early st (some err) st'
  | ingress (err : Errno) {st' : TcState} (obj ifindex : ℕ) (opens : Opens st ifname obj ifindex)
      (attaches : env.Attaches (lanspeedSlot ifindex early .ingress) st.kernel) (st₁ : TcState)
      (filled : PointFilled env (lanspeedSlot ifindex early .ingress) (.lanspeed .ingress early obj)
        st st₁)
      (fails : ¬Fillable env (lanspeedSlot ifindex early .egress) st₁) (same : SameTables st₁ st') :
      AttachOutcome env ifname early st (some err) st'
  | both {st' : TcState} (obj ifindex : ℕ) (opens : Opens st ifname obj ifindex)
      (attaches : env.Attaches (lanspeedSlot ifindex early .ingress) st.kernel) (st₁ st₂ : TcState)
      (filled : PointFilled env (lanspeedSlot ifindex early .ingress) (.lanspeed .ingress early obj)
        st st₁)
      (filled' : PointFilled env (lanspeedSlot ifindex early .egress) (.lanspeed .egress early obj)
        st₁ st₂)
      (same : SameTables st₂ st') : AttachOutcome env ifname early st none st'

section Outcome

variable (env : TcCallEnv) (ifname : CStr) (early : Bool) (st : TcState)

/-- Every call of `lanspeed_bpf_attach_iface_mode` ends in one of these ways. -/
theorem attachIfaceMode_attachOutcome :
    AttachOutcome env ifname early st (lanspeedBpfAttachIfaceMode env ifname early st).1
      (lanspeedBpfAttachIfaceMode env ifname early st).2 := by
  unfold lanspeedBpfAttachIfaceMode
  rcases hopen : openIface env ifname st with ⟨err, st'⟩ | ⟨obj, ifindex⟩
  · refine .refused err (fun obj ifindex hopens => ?_) (openIface_error hopen)
      (openIface_sameStatus hopen)
    rw [openIface_ok_iff.mpr hopens] at hopen
    cases hopen
  · have hopens := openIface_ok_iff.mp hopen
    have hcases := attachPoint_cases env ifname (lanspeedSlot ifindex early .ingress)
      (.lanspeed .ingress early obj) st
    have hstatus := sameStatus_attachPoint env ifname (lanspeedSlot ifindex early .ingress)
      (.lanspeed .ingress early obj) st
    simp only
    rcases hingress : attachPoint env ifname (lanspeedSlot ifindex early .ingress)
      (.lanspeed .ingress early obj) false st with ⟨_ | err, st₁⟩
    · rw [hingress] at hcases
      obtain ⟨hattaches, hfilled⟩ : env.Attaches (lanspeedSlot ifindex early .ingress) st.kernel ∧
          PointFilled env (lanspeedSlot ifindex early .ingress)
            (.lanspeed .ingress early obj) st st₁ :=
        by simpa using hcases
      have hcases' := ensurePoint_cases env ifname (lanspeedSlot ifindex early .egress)
        (.lanspeed .egress early obj) st₁
      have hworks := ensurePoint_eq_none_iff (s := lanspeedSlot ifindex early .egress) env ifname
        (.lanspeed .egress early obj) (hopens.mono hfilled.devices hfilled.obj).live
      simp only
      rcases hegress : ensurePoint env ifname (lanspeedSlot ifindex early .egress)
        (.lanspeed .egress early obj) st₁ with ⟨_ | err, st₂⟩
      · rw [hegress] at hcases'
        have hfilled' : PointFilled env (lanspeedSlot ifindex early .egress)
            (.lanspeed .egress early obj) st₁ st₂ := by simpa using hcases'
        exact .both obj ifindex hopens hattaches st₁ st₂ hfilled hfilled' ⟨rfl, rfl, rfl, rfl⟩
      · rw [hegress] at hcases' hworks
        refine .ingress err obj ifindex hopens hattaches st₁ hfilled (fun hfill => ?_)
          (by simpa using hcases')
        exact absurd (hworks.mpr hfill) (Option.some_ne_none err)
    · rw [hingress] at hcases hstatus
      refine .refused err (fun obj' ifindex' hopens' hattaches =>
        ?_) (by simpa using hcases) hstatus
      -- The place could be attached, so the call would not have failed there.
      obtain ⟨rfl, rfl⟩ := hopens.unique hopens'
      have hok : (attachPoint env ifname _ (.lanspeed .ingress early obj) false _).1 = none :=
        attachPoint_of_attaches hattaches hopens.live
      rw [hingress] at hok
      cases hok

end Outcome

/-! ## Attaching again -/

/-- A filter of lanspeed is at both places of a mode. -/
def BothPresent (k : TcKernel) (ifindex : ℕ) (early : Bool) : Prop :=
  ∀ point, ∃ program, k.programAt (lanspeedSlot ifindex early point) = some program ∧
    program.isLanspeed = true

/-- A call that finds both filters in place: it returns 0, leaves the filter table as it is, and
each of the two hooks is recorded exactly once where there is room. -/
structure AttachedAgain (ifindex : ℕ) (early : Bool) (st : TcState)
    (result : Option Errno × TcState) : Prop where
  returns  : result.1 = none
  filters  : result.2.kernel.filters = st.kernel.filters
  recorded : ∀ point,
    result.2.loader.attached.countP (·.slot = lanspeedSlot ifindex early point) = 1 ∨
      result.2.loader.attached.length = lanspeedBpfMaxAttached

/-- Attaching again never works: the call returns an error, and leaves the filters and the table of
attached hooks as they are. -/
theorem attachedAgain_never (env : TcCallEnv) (ifname : CStr) (early : Bool)
    (st : TcState) (ifindex : ℕ) (hresolves : st.kernel.ifNameToIndex ifname = some ifindex)
    (hpresent : BothPresent st.kernel ifindex early) :
    ¬AttachedAgain ifindex early st (lanspeedBpfAttachIfaceMode env ifname early st) ∧
      (lanspeedBpfAttachIfaceMode env ifname early st).1 ≠ none ∧
      SameTables st (lanspeedBpfAttachIfaceMode env ifname early st).2 := by
  have hrefused : (lanspeedBpfAttachIfaceMode env ifname early st).1 ≠ none ∧
      SameTables st (lanspeedBpfAttachIfaceMode env ifname early st).2 := by
    have houtcome := attachIfaceMode_attachOutcome env ifname early st
    -- The ingress place is taken, so nothing can be attached there.
    have htaken : ∀ obj ifindex', Opens st ifname obj ifindex' →
        ¬env.Attaches (lanspeedSlot ifindex' early .ingress) st.kernel := by
      intro obj ifindex' hopens hattaches
      obtain rfl : ifindex' = ifindex := Option.some.inj (hopens.resolves.symm.trans hresolves)
      obtain ⟨program, hprogram, -⟩ := hpresent .ingress
      rw [hattaches.free] at hprogram
      cases hprogram
    generalize lanspeedBpfAttachIfaceMode env ifname early st = result at houtcome ⊢
    obtain ⟨err, st'⟩ := result
    cases houtcome with
    | refused err fails same status => exact ⟨Option.some_ne_none err, same⟩
    | ingress err obj ifindex' opens attaches st₁ filled fails same =>
      exact absurd attaches (htaken obj ifindex' opens)
    | both obj ifindex' opens attaches st₁ st₂ filled filled' same =>
      exact absurd attaches (htaken obj ifindex' opens)
  exact ⟨fun hagain => hrefused.1 hagain.returns, hrefused⟩

/-- One LAN port, with the object loaded. -/
def onePort : TcState where
  kernel := oneLanKernel
  loader := { LoaderState.init with obj := some 1 }

/-- The port after its filters were attached. -/
def onePortAttached : TcState := (lanspeedBpfAttachIfaceMode {} "lan1".toList false onePort).2

/-- Both filters are on the interface after it was attached. -/
theorem onePortAttached_bothPresent : BothPresent onePortAttached.kernel 3 false := by
  intro point
  cases point with
  | ingress => exact ⟨.lanspeed .ingress false 1, rfl, rfl⟩
  | egress => exact ⟨.lanspeed .egress false 1, rfl, rfl⟩

/-- The port is attached a second time. -/
theorem attachedAgain_never_onePort :
    ¬AttachedAgain 3 false onePortAttached
        (lanspeedBpfAttachIfaceMode {} "lan1".toList false onePortAttached) ∧
      (lanspeedBpfAttachIfaceMode {} "lan1".toList false onePortAttached).1 ≠ none ∧
      SameTables onePortAttached
        (lanspeedBpfAttachIfaceMode {} "lan1".toList false onePortAttached).2 :=
  attachedAgain_never {} _ false onePortAttached 3 rfl onePortAttached_bothPresent

/-- The second call finds both filters and fails with `EEXIST`. -/
theorem not_attachedAgain_onePort :
    BothPresent onePortAttached.kernel 3 false ∧
      (lanspeedBpfAttachIfaceMode {} "lan1".toList false onePortAttached).1 = some .eexist ∧
      ¬AttachedAgain 3 false onePortAttached
        (lanspeedBpfAttachIfaceMode {} "lan1".toList false onePortAttached) :=
  ⟨onePortAttached_bothPresent, rfl, fun hagain => by cases hagain.returns⟩

/-! ## Rollback -/

/-- The filters of lanspeed, the table of attached hooks and what the status says of it are those of
before. -/
structure RolledBack (st st' : TcState) : Prop where
  filters : ∀ f, f.program.isLanspeed = true → (f ∈ st'.kernel.filters ↔ f ∈ st.kernel.filters)
  attached : st'.loader.attached = st.loader.attached
  anyAttached : st'.loader.status.anyAttached = st.loader.status.anyAttached
  hookCount : st'.loader.status.attachedHookCount = st.loader.status.attachedHookCount

/-- The call attaches its ingress filter, and then cannot put its egress filter in place: the query
does not find one, and one of the calls that attach it fails or the place is taken. -/
def StopsHalfway (env : TcCallEnv) (ifname : CStr) (early : Bool) (st : TcState) : Prop :=
  ∃ obj ifindex, Opens st ifname obj ifindex ∧
    env.Attaches (lanspeedSlot ifindex early .ingress) st.kernel ∧
    ¬(hookPresent env (lanspeedSlot ifindex early .egress) st = true ∨
      AttachesLater env (lanspeedSlot ifindex early .egress) st.kernel)

/-- A call that fails is rolled back exactly when it does not stop halfway. -/
theorem rolledBack_iff (env : TcCallEnv) (ifname : CStr) (early : Bool) (st : TcState) :
    ((lanspeedBpfAttachIfaceMode env ifname early st).1 ≠ none →
        RolledBack st (lanspeedBpfAttachIfaceMode env ifname early st).2) ↔
      ¬StopsHalfway env ifname early st := by
  have houtcome := attachIfaceMode_attachOutcome env ifname early st
  generalize lanspeedBpfAttachIfaceMode env ifname early st = result at houtcome ⊢
  obtain ⟨err, st'⟩ := result
  cases houtcome with
  | refused err fails same status =>
    obtain ⟨text, hstatus⟩ := status
    refine iff_of_true (fun _ => ⟨fun f _ => ?_, same.attached,
      by rw [hstatus], by rw [hstatus]⟩) ?_
    · rw [TcKernel.mem_filters_iff, TcKernel.mem_filters_iff, same.programAt]
    · rintro ⟨obj, ifindex, hopens, hattaches, -⟩
      exact fails obj ifindex hopens hattaches
  | ingress err obj ifindex opens attaches st₁ filled fails same =>
    refine iff_of_false (fun hback => ?_) (not_not_intro ⟨obj, ifindex, opens, attaches, ?_⟩)
    · -- The ingress filter is new.
      have hnew : st'.kernel.programAt (lanspeedSlot ifindex early .ingress) =
          some (.lanspeed .ingress early obj) := by
        rw [same.programAt, filled.programAt, Function.update_self, attaches.free]
        rfl
      have hold := ((hback (Option.some_ne_none err)).filters
        ⟨_, .lanspeed .ingress early obj⟩ rfl).mp (TcKernel.mem_filters_of_programAt hnew)
      have hprogram := TcKernel.programAt_of_mem hold
      rw [attaches.free] at hprogram
      cases hprogram
    · exact fun hegress => fails ((fillable_egress_iff filled).mpr hegress)
  | both obj ifindex opens attaches st₁ st₂ filled filled' same =>
    refine iff_of_true (fun hfailed => absurd rfl hfailed) ?_
    rintro ⟨obj', ifindex', hopens', -, hstops⟩
    obtain ⟨rfl, rfl⟩ := opens.unique hopens'
    exact hstops ((fillable_egress_iff filled).mp filled'.fillable)

/-- The egress attach fails, and the ingress filter stays behind with its hook recorded. -/
theorem not_rolledBack_onePort :
    (lanspeedBpfAttachIfaceMode { attach := fun point => if point = .egress then some .einval
                                  else none }
        "lan1".toList false onePort).1 = some .einval ∧
      ¬RolledBack onePort (lanspeedBpfAttachIfaceMode
        { attach := fun point => if point = .egress then some .einval
          else none } "lan1".toList false
        onePort).2 := by
  refine ⟨rfl, fun hback => ?_⟩
  have hattached := congrArg List.length hback.attached
  revert hattached
  decide

end Lanspeed
