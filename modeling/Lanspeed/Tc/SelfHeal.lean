import Lanspeed.Tc.Attach

/-!
# The self-heal

`lanspeed_bpf_ensure_attached` puts back what is missing of the two filters of a mode. A call that
returns 0 or 1 leaves both places filled and both hooks recorded, unless the table of attached hooks
is full, so that a call right after it finds nothing to do (`ensureAttached_restores`).
-/

namespace Lanspeed

/-! ## Hooks that are recorded as far as there is room -/

/-- The hook is recorded, or the table is full. -/
def HookSettled (attached : List AttachedHook) (s : TcSlot) : Prop :=
  attached.any (·.slot = s) = true ∨ lanspeedBpfMaxAttached ≤ attached.length

section Settled

variable {l : LoaderState} {s s' : TcSlot} {created : Bool}

/-- A hook that is settled is not recorded again. -/
theorem trackHook_of_settled (h : HookSettled l.attached s) : l.trackHook s created = l := by
  rw [LoaderState.trackHook, dif_neg]
  rintro ⟨hnew, hroom⟩
  rcases h with htracked | hfull
  · rw [LoaderState.hookTracked, htracked] at hnew
    exact Bool.false_ne_true hnew
  · omega

variable (l s created) in
/-- A hook that was to be recorded is settled. -/
theorem hookSettled_trackHook : HookSettled (l.trackHook s created).attached s := by
  rw [LoaderState.trackHook]
  split_ifs with hnew
  · exact .inl (by simp)
  · by_cases htracked : l.hookTracked s
    · exact .inl htracked
    · exact .inr (Nat.le_of_not_lt fun hroom => hnew ⟨by simpa using htracked, hroom⟩)

variable (s' created) in
/-- A settled hook stays so when another is recorded. -/
theorem HookSettled.trackHook (h : HookSettled l.attached s) :
    HookSettled (l.trackHook s' created).attached s := by
  rw [LoaderState.trackHook]
  split_ifs with hnew
  · rcases h with htracked | hfull
    · exact .inl (by rw [List.any_append, htracked, Bool.true_or])
    · exact .inr (hfull.trans (by simp))
  · exact h

end Settled

/-! ## One place -/

section Place

variable {env : TcCallEnv} {s : TcSlot} {program : TcProgram} {st st' : TcState}

/-- A place that was filled was missing for the query exactly when it was free. -/
theorem PointFilled.missing_iff (h : PointFilled env s program st st') :
    hookPresent env s st = false ↔ st.kernel.programAt s = none := by
  constructor
  · intro hmissing
    exact (h.fillable.resolve_left (by rw [hmissing]; exact Bool.false_ne_true)).free
  · intro hfree
    rw [hookPresent, hfree, Option.isSome_none, Bool.and_false]

/-- What was in the filter table stays there. -/
theorem PointFilled.mem_filters (h : PointFilled env s program st st') {f : TcFilter}
    (hf : f ∈ st.kernel.filters) : f ∈ st'.kernel.filters := by
  have hprogram := TcKernel.programAt_of_mem hf
  rw [TcKernel.mem_filters_iff, h.programAt]
  by_cases hslot : f.slot = s
  · rw [← hslot, Function.update_self, hprogram]
    rfl
  · rw [Function.update_of_ne hslot]
    exact hprogram

/-- A filter of the table stays where the tables are the same. -/
theorem SameTables.mem_filters (h : SameTables st st') {f : TcFilter} (hf : f ∈ st.kernel.filters) :
    f ∈ st'.kernel.filters := by
  rw [TcKernel.mem_filters_iff, h.programAt]
  exact TcKernel.programAt_of_mem hf

/-- A place that the query finds needs nothing but the record of its hook. -/
theorem ensurePoint_of_present {ifname : CStr} (h : hookPresent env s st = true) :
    ensurePoint env ifname s program st =
      (none, { st with loader := st.loader.trackHook s false }) := by
  rw [ensurePoint, h]
  rfl

end Place

/-! ## One call -/

section Call

variable {env : TcCallEnv} {ifname reason : CStr} {early restored : Bool} {st st' : TcState}

/-- A call that returns 0 or 1 has filled both places, and counts a self-heal when one
was missing. -/
theorem ensureAttached_ok
    (h : lanspeedBpfEnsureAttached env ifname early reason st = (.ok restored, st')) :
    ∃ obj ifindex st₁ st₂, Opens st ifname obj ifindex ∧
      PointFilled env (lanspeedSlot ifindex early .ingress) (.lanspeed .ingress early obj) st st₁ ∧
      PointFilled env (lanspeedSlot ifindex early .egress) (.lanspeed .egress early obj) st₁ st₂ ∧
      SameTables st₂ st' ∧
      restored = (!hookPresent env (lanspeedSlot ifindex early .ingress) st ||
        !hookPresent env (lanspeedSlot ifindex early .egress) st₁) ∧
      st'.loader.status.selfHealCount =
        st.loader.status.selfHealCount + (if restored then 1 else 0) := by
  unfold lanspeedBpfEnsureAttached at h
  rcases hopen : openIface env ifname st with ⟨err, st'⟩ | ⟨obj, ifindex⟩
  · rw [hopen] at h
    cases h
  · rw [hopen] at h
    have hcases := ensurePoint_cases env ifname (lanspeedSlot ifindex early .ingress)
      (.lanspeed .ingress early obj) st
    have hstatus := sameStatus_ensurePoint env ifname (lanspeedSlot ifindex early .ingress)
      (.lanspeed .ingress early obj) st
    simp only at h
    rcases hingress : ensurePoint env ifname (lanspeedSlot ifindex early .ingress)
      (.lanspeed .ingress early obj) st with ⟨_ | err, st₁⟩
    · rw [hingress] at h hcases hstatus
      have hcases' := ensurePoint_cases env ifname (lanspeedSlot ifindex early .egress)
        (.lanspeed .egress early obj) st₁
      have hstatus' := sameStatus_ensurePoint env ifname (lanspeedSlot ifindex early .egress)
        (.lanspeed .egress early obj) st₁
      simp only at h
      rcases hegress : ensurePoint env ifname (lanspeedSlot ifindex early .egress)
        (.lanspeed .egress early obj) st₁ with ⟨_ | err, st₂⟩
      · rw [hegress] at h hcases' hstatus'
        have hcount : st₂.loader.status.selfHealCount = st.loader.status.selfHealCount := by
          obtain ⟨text, hstatus⟩ := hstatus.trans hstatus'
          have hcount := congrArg LanspeedBpfStatus.selfHealCount hstatus
          exact hcount
        obtain ⟨hrestored, rfl⟩ := Prod.ext_iff.mp h
        obtain rfl := Except.ok.inj hrestored
        refine ⟨obj, ifindex, st₁, st₂, openIface_ok_iff.mp hopen, by simpa using hcases,
          by simpa using hcases', ?_, rfl, ?_⟩
        · dsimp only
          split_ifs <;> exact ⟨rfl, rfl, rfl, rfl⟩
        · dsimp only [TcState.countHooks]
          split_ifs
          · exact congrArg (· + 1) hcount
          · rw [add_zero]
            exact hcount
      · rw [hegress] at h
        cases h
    · rw [hingress] at h
      cases h

/-- A call that finds both filters and both hooks settled does nothing but count the hooks. -/
theorem ensureAttached_of_settled {obj ifindex : ℕ} (hopens : Opens st ifname obj ifindex)
    (hpresent : ∀ point, hookPresent env (lanspeedSlot ifindex early point) st = true)
    (hsettled : ∀ point, HookSettled st.loader.attached (lanspeedSlot ifindex early point)) :
    lanspeedBpfEnsureAttached env ifname early reason st = (.ok false, st.countHooks) := by
  have hensure : ∀ point, ensurePoint env ifname (lanspeedSlot ifindex early point)
      (.lanspeed point early obj) st = (none, st) := by
    intro point
    rw [ensurePoint_of_present (hpresent point), trackHook_of_settled (hsettled point)]
  rw [lanspeedBpfEnsureAttached, openIface_ok_iff.mpr hopens]
  simp only [hensure, hpresent]
  rfl

end Call

/-! ## The law of the self-heal -/

/-- What a call that returns 0 or 1 leaves: both places of the mode are filled; it returns 1 when
one of them was free, and then counts one self-heal; and every filter that was there still is. -/
structure Restores (ifindex : ℕ) (early restored : Bool) (st st' : TcState) : Prop where
  filled : ∀ point, st'.kernel.programAt (lanspeedSlot ifindex early point) ≠ none
  restored_iff : restored = true ↔
    ∃ point, st.kernel.programAt (lanspeedSlot ifindex early point) = none
  counted : st'.loader.status.selfHealCount = st.loader.status.selfHealCount +
    (if restored then 1 else 0)
  kept : ∀ f ∈ st.kernel.filters, f ∈ st'.kernel.filters

/-- A call that changes neither the kernel nor the table of attached hooks nor the self-heal
counter. -/
structure NothingHealed (st st' : TcState) : Prop where
  kernel : st'.kernel = st.kernel
  attached : st'.loader.attached = st.loader.attached
  counted : st'.loader.status.selfHealCount = st.loader.status.selfHealCount

/-- A call of `lanspeed_bpf_ensure_attached` that does not fail restores exactly what is missing,
and a second call right after it, in which the query works, returns 0 and changes nothing. -/
theorem ensureAttached_restores (env : TcCallEnv) (ifname : CStr) (early : Bool) (reason : CStr)
    (st st' : TcState) (restored : Bool)
    (h : lanspeedBpfEnsureAttached env ifname early reason st = (.ok restored, st')) :
    ∃ ifindex, st.kernel.ifNameToIndex ifname = some ifindex ∧
      Restores ifindex early restored st st' ∧
      ∀ (env' : TcCallEnv) (reason' : CStr), (∀ point, env'.query point = none) →
        (lanspeedBpfEnsureAttached env' ifname early reason' st').1 = .ok false ∧
          NothingHealed st' (lanspeedBpfEnsureAttached env' ifname early reason' st').2 := by
  obtain ⟨obj, ifindex, st₁, st₂, hopens, hfilled, hfilled', hsame, hrestored, hcounted⟩ :=
    ensureAttached_ok h
  have hegress : st₁.kernel.programAt (lanspeedSlot ifindex early .egress) =
      st.kernel.programAt (lanspeedSlot ifindex early .egress) := by
    rw [hfilled.programAt, Function.update_of_ne (by simp [lanspeedSlot_inj])]
  have hplaces : ∀ point, st'.kernel.programAt (lanspeedSlot ifindex early point) ≠ none := by
    intro point
    rw [hsame.programAt, hfilled'.programAt]
    cases point with
    | ingress =>
      rw [Function.update_of_ne (by simp [lanspeedSlot_inj]), hfilled.programAt,
        Function.update_self]
      exact Option.some_ne_none _
    | egress =>
      rw [Function.update_self]
      exact Option.some_ne_none _
  refine ⟨ifindex, hopens.resolves, ⟨hplaces, ?_, hcounted, fun f hf => ?_⟩, ?_⟩
  · rw [hrestored, Bool.or_eq_true, Bool.not_eq_true', Bool.not_eq_true', hfilled.missing_iff,
      hfilled'.missing_iff, hegress]
    constructor
    · rintro (hingress | hegress)
      · exact ⟨.ingress, hingress⟩
      · exact ⟨.egress, hegress⟩
    · rintro ⟨point, hfree⟩
      cases point with
      | ingress => exact .inl hfree
      | egress => exact .inr hfree
  · exact hsame.mem_filters (hfilled'.mem_filters (hfilled.mem_filters hf))
  · intro env' reason' hquery
    -- Both hooks are recorded by now, as far as the table has room.
    have hsettled :
        ∀ point, HookSettled st'.loader.attached (lanspeedSlot ifindex early point) := by
      obtain ⟨created, hattached⟩ := hfilled.attached
      obtain ⟨created', hattached'⟩ := hfilled'.attached
      have hingress : HookSettled st₁.loader.attached (lanspeedSlot ifindex early .ingress) :=
        hattached ▸ hookSettled_trackHook _ _ _
      intro point
      rw [hsame.attached, hattached']
      cases point with
      | ingress => exact hingress.trackHook _ _
      | egress => exact hookSettled_trackHook _ _ _
    have hpresent : ∀ point, hookPresent env' (lanspeedSlot ifindex early point) st' = true := by
      intro point
      have hplace := Option.isSome_iff_ne_none.mpr (hplaces point)
      rw [hookPresent, lanspeedSlot, hquery point]
      exact hplace
    have hopens' : Opens st' ifname obj ifindex :=
      hopens.mono (hsame.devices.trans (hfilled'.devices.trans hfilled.devices))
        (hsame.obj.trans (hfilled'.obj.trans hfilled.obj))
    rw [ensureAttached_of_settled hopens' hpresent hsettled]
    exact ⟨rfl, rfl, rfl, rfl⟩

/-- A port without its egress filter. -/
def onePortHalf : TcState :=
  { onePortAttached with
    kernel := onePortAttached.kernel.deleteWhere (· = lanspeedSlot 3 false .egress) }

/-- The missing filter is put back. -/
theorem ensureAttached_restores_onePort :
    ∃ ifindex, onePortHalf.kernel.ifNameToIndex "lan1".toList = some ifindex ∧
      Restores ifindex false true onePortHalf
        (lanspeedBpfEnsureAttached {} "lan1".toList false [] onePortHalf).2 ∧
      ∀ (env' : TcCallEnv) (reason' : CStr), (∀ point, env'.query point = none) →
        (lanspeedBpfEnsureAttached env' "lan1".toList false reason'
            (lanspeedBpfEnsureAttached {} "lan1".toList false [] onePortHalf).2).1 = .ok false ∧
          NothingHealed (lanspeedBpfEnsureAttached {} "lan1".toList false [] onePortHalf).2
            (lanspeedBpfEnsureAttached env' "lan1".toList false reason'
              (lanspeedBpfEnsureAttached {} "lan1".toList false [] onePortHalf).2).2 :=
  ensureAttached_restores {} _ false [] onePortHalf _ true rfl

end Lanspeed
