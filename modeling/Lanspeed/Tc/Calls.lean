import Lanspeed.Tc.Runtime
import Mathlib.Logic.Relation

/-!
# The kernel calls of the daemon

The functions of the daemon change the kernel by sequences of single libbpf calls. A daemon that is
killed stops between two of them.
-/

namespace Lanspeed

/-- One libbpf call of the daemon that succeeds. -/
inductive DaemonCall : TcKernel → TcKernel → Prop where
  | hookCreate {k k' : TcKernel} (ifindex : ℕ) (h : k.hookCreate ifindex = .ok k') : DaemonCall k k'
  | attach {k k' : TcKernel} (ifindex : ℕ) (early : Bool) (point : TcAttachPoint) (obj : ℕ)
      (h : k.attach (lanspeedSlot ifindex early point) (.lanspeed point early obj) false = .ok k') :
      DaemonCall k k'
  | detach {k k' : TcKernel} (ifindex : ℕ) (early : Bool) (point : TcAttachPoint)
      (h : k.detach (lanspeedSlot ifindex early point) = .ok k') : DaemonCall k k'
  | hookDestroy {k : TcKernel} (ifindex : ℕ) (point : TcAttachPoint) :
      DaemonCall k (k.hookDestroy ifindex point)

/-- A sequence of such calls. -/
abbrev DaemonCalls : TcKernel → TcKernel → Prop := Relation.ReflTransGen DaemonCall

/-! ## The loader functions -/

section Loader

variable (env : TcCallEnv) (ifname : CStr) (ifindex obj : ℕ) (early : Bool) (point : TcAttachPoint)
  (st : TcState)

/-- Attaching one filter is a sequence of the daemon's calls. -/
theorem attachFilter_calls (created : Bool) :
    DaemonCalls st.kernel (attachFilter env ifname (lanspeedSlot ifindex early point)
      (.lanspeed point early obj) false created st).2.kernel := by
  unfold attachFilter
  cases hattach : withFault (env.attach (lanspeedSlot ifindex early point).point)
    (st.kernel.attach (lanspeedSlot ifindex early point) (.lanspeed point early obj) false) with
  | ok kernel => exact .single (.attach ifindex early point obj (withFault_ok hattach).2)
  | error err =>
    simp only
    split_ifs
    · exact .single (.hookDestroy _ _)
    · exact .refl

/-- Attaching one hook is a sequence of the daemon's calls. -/
theorem attachPoint_calls :
    DaemonCalls st.kernel (attachPoint env ifname (lanspeedSlot ifindex early point)
      (.lanspeed point early obj) false st).2.kernel := by
  unfold attachPoint
  cases hcreate : withFault (env.hookCreate (lanspeedSlot ifindex early point).point)
    (st.kernel.hookCreate (lanspeedSlot ifindex early point).ifindex) with
  | ok kernel =>
    exact .head (.hookCreate _ (withFault_ok hcreate).2)
      (attachFilter_calls env ifname ifindex obj early point { st with kernel } true)
  | error err =>
    simp only
    split_ifs
    · exact .refl
    · exact attachFilter_calls env ifname ifindex obj early point st false

/-- Ensuring one hook is a sequence of the daemon's calls. -/
theorem ensurePoint_calls :
    DaemonCalls st.kernel (ensurePoint env ifname (lanspeedSlot ifindex early point)
      (.lanspeed point early obj) st).2.kernel := by
  unfold ensurePoint
  split_ifs
  · exact attachPoint_calls env ifname ifindex obj early point st
  · exact .refl

/-- An interface that does not open leaves the kernel's table as it is. -/
theorem openIface_error_kernel {env : TcCallEnv} {ifname : CStr} {st st' : TcState} {err : Errno}
    (h : openIface env ifname st = .error (err, st')) : st'.kernel = st.kernel := by
  unfold openIface at h
  split at h
  · cases h
    rfl
  · split_ifs at h
    · cases h
      rfl
    · split at h <;> cases h
      rfl

/-- Attaching an interface is a sequence of the daemon's calls. -/
theorem attachIfaceMode_calls :
    DaemonCalls st.kernel (lanspeedBpfAttachIfaceMode env ifname early st).2.kernel := by
  unfold lanspeedBpfAttachIfaceMode
  rcases hopen : openIface env ifname st with ⟨err, st'⟩ | ⟨obj, ifindex⟩
  · rw [← openIface_error_kernel hopen]
  · have hingress := attachPoint_calls env ifname ifindex obj early .ingress st
    simp only
    rcases hattach : attachPoint env ifname (lanspeedSlot ifindex early .ingress)
      (.lanspeed .ingress early obj) false st with ⟨_ | err, st₁⟩
    · rw [hattach] at hingress
      have hegress := ensurePoint_calls env ifname ifindex obj early .egress st₁
      simp only
      rcases hensure : ensurePoint env ifname (lanspeedSlot ifindex early .egress)
        (.lanspeed .egress early obj) st₁ with ⟨_ | err, st₂⟩ <;>
        rw [hensure] at hegress <;> exact hingress.trans hegress
    · rw [hattach] at hingress
      exact hingress

/-- Ensuring an interface is a sequence of the daemon's calls. -/
theorem ensureAttached_calls (reason : CStr) :
    DaemonCalls st.kernel (lanspeedBpfEnsureAttached env ifname early reason st).2.kernel := by
  unfold lanspeedBpfEnsureAttached
  rcases hopen : openIface env ifname st with ⟨err, st'⟩ | ⟨obj, ifindex⟩
  · rw [← openIface_error_kernel hopen]
  · have hingress := ensurePoint_calls env ifname ifindex obj early .ingress st
    simp only
    rcases hensure : ensurePoint env ifname (lanspeedSlot ifindex early .ingress)
      (.lanspeed .ingress early obj) st with ⟨_ | err, st₁⟩
    · rw [hensure] at hingress
      have hegress := ensurePoint_calls env ifname ifindex obj early .egress st₁
      simp only
      rcases hensure' : ensurePoint env ifname (lanspeedSlot ifindex early .egress)
        (.lanspeed .egress early obj) st₁ with ⟨_ | err, st₂⟩ <;>
        rw [hensure'] at hegress
      · refine hingress.trans (hegress.trans ?_)
        simp only
        split_ifs <;> exact .refl
      · exact hingress.trans hegress
    · rw [hensure] at hingress
      exact hingress

/-- Detaching one hook is a sequence of the daemon's calls. -/
theorem detachPoint_calls (fault : Option Errno) (k : TcKernel) :
    DaemonCalls k (detachPoint fault (lanspeedSlot ifindex early point) k) := by
  unfold detachPoint
  cases hdetach : withFault fault (k.detach (lanspeedSlot ifindex early point)) with
  | ok k' => exact .single (.detach ifindex early point (withFault_ok hdetach).2)
  | error err => exact .refl

/-- Detaching an interface is a sequence of the daemon's calls. -/
theorem detachIfaceMode_calls :
    DaemonCalls st.kernel (lanspeedBpfDetachIfaceMode env ifname early st).2.kernel := by
  unfold lanspeedBpfDetachIfaceMode
  rcases hopen : openIface env ifname st with ⟨err, st'⟩ | ⟨obj, ifindex⟩
  · rw [← openIface_error_kernel hopen]
  · exact (detachPoint_calls ifindex early .ingress _ _).trans
      (detachPoint_calls ifindex early .egress _ _)

/-- Detaching every recorded hook is a sequence of the daemon's calls. -/
theorem detachAll_calls (faults : AttachedHook → Bool → Option Errno) :
    DaemonCalls st.kernel (lanspeedBpfDetachAll faults st).kernel := by
  have hfold : ∀ (hooks : List AttachedHook) (k : TcKernel),
      DaemonCalls k (hooks.foldl (detachHook faults) k) := by
    intro hooks
    induction hooks with
    | nil => exact fun k => .refl
    | cons hook hooks ih =>
      exact fun k => ((detachPoint_calls hook.slot.ifindex true hook.slot.point _ k).trans
        (detachPoint_calls hook.slot.ifindex false hook.slot.point _ _)).trans (ih _)
  exact hfold st.loader.attached st.kernel

end Loader

/-! ## The runtime functions -/

section Runtime

variable (cfg : CollectorConfig) (envs : PassEnv) (early : Bool) (names : List CStr) (st : TcState)

/-- A pass that attaches the interfaces is a sequence of the daemon's calls. -/
theorem attachPass_calls : DaemonCalls st.kernel (attachPass envs early names st).2.kernel := by
  induction names generalizing st with
  | nil => exact .refl
  | cons name names ih =>
    have hhead := attachIfaceMode_calls (envs name) name early st
    rw [attachPass]
    rcases hattach : lanspeedBpfAttachIfaceMode (envs name) name early st with ⟨_ | err, st₁⟩
    · rw [hattach] at hhead
      exact hhead.trans (ih st₁)
    · rw [hattach] at hhead
      exact hhead

/-- A pass that attaches and counts the interfaces is a sequence of the daemon's calls. -/
theorem attachCount_calls : DaemonCalls st.kernel (attachCount envs early names st).2.kernel := by
  induction names generalizing st with
  | nil => exact .refl
  | cons name names ih => exact (attachIfaceMode_calls (envs name) name early st).trans (ih _)

/-- A pass that detaches the interfaces is a sequence of the daemon's calls. -/
theorem detachPass_calls : DaemonCalls st.kernel (detachPass envs early names st).kernel := by
  induction names generalizing st with
  | nil => exact .refl
  | cons name names ih => exact (detachIfaceMode_calls (envs name) name early st).trans (ih _)

/-- A pass that ensures the interfaces is a sequence of the daemon's calls. -/
theorem recoverPass_calls (reason : CStr) :
    DaemonCalls st.kernel (recoverPass envs early reason names st).2.kernel := by
  induction names generalizing st with
  | nil => exact .refl
  | cons name names ih =>
    exact (ensureAttached_calls (envs name) name early st reason).trans (ih _)

variable (rt : BpfRuntime)

/-- Self-healing is a sequence of the daemon's calls. -/
theorem bpfRuntimeRecoverIfNeeded_calls (reason : CStr) :
    DaemonCalls rt.tc.kernel (bpfRuntimeRecoverIfNeeded cfg envs names reason rt).2.tc.kernel := by
  obtain ⟨-, -, htc⟩ := bpfRuntimeRecoverIfNeeded_tc cfg envs names reason rt
  rw [htc]
  split_ifs
  · exact recoverPass_calls envs rt.earlyPassthrough names rt.tc reason
  · exact .refl

/-- Switching the attach order is a sequence of the daemon's calls. -/
theorem bpfRuntimeRefreshAttachPolicy_calls (envs : RefreshEnvs) (probe : RuntimeProbe) :
    DaemonCalls rt.tc.kernel
      (bpfRuntimeRefreshAttachPolicy cfg envs names probe rt).2.tc.kernel := by
  have hattach := attachPass_calls envs.attach probe.daePreemptsBpfIngress names rt.tc
  unfold bpfRuntimeRefreshAttachPolicy
  simp only
  generalize (if probe.daePreemptsBpfIngress = true then "dae_tc_preempt_policy_switch".toList
    else "dae_tc_preempt_policy_restore".toList) = reason
  split_ifs
  · exact .refl
  · exact .refl
  · rcases hpass : attachPass envs.attach probe.daePreemptsBpfIngress names rt.tc with ⟨_ | _, tc⟩
    · rw [hpass] at hattach
      exact hattach.trans (detachPass_calls _ _ _ _)
    · rw [hpass] at hattach
      have hheal := bpfRuntimeRecoverIfNeeded_calls cfg envs.recover names
        { rt with
          tc := detachPass envs.detach rt.earlyPassthrough names tc
          earlyPassthrough := probe.daePreemptsBpfIngress
          collector := bpfRuntimeResetRateState rt.collector } reason
      exact (hattach.trans (detachPass_calls _ _ _ _)).trans hheal

/-- The start of the runtime is a sequence of the daemon's calls. -/
theorem startBpfRuntime_calls (inp : StartInput) :
    DaemonCalls rt.tc.kernel (startBpfRuntime cfg inp names rt).tc.kernel := by
  unfold startBpfRuntime
  split_ifs
  · exact .refl
  · simp only
    rcases lanspeedBpfInit inp.objectPath inp.load inp.strerror rt.tc.loader with ⟨_ | _, loader⟩
    · exact .refl
    · have hattach := attachCount_calls inp.attach inp.probe.daePreemptsBpfIngress names
        { rt.tc with loader }
      simp only
      rcases hcount : attachCount inp.attach inp.probe.daePreemptsBpfIngress names
        { rt.tc with loader } with ⟨_ | count, tc⟩
      · rw [hcount] at hattach
        exact hattach.trans (detachAll_calls tc inp.detach)
      · rw [hcount] at hattach
        have hheal := bpfRuntimeRecoverIfNeeded_calls cfg inp.recover names
          { rt with
            tc
            earlyPassthrough := inp.probe.daePreemptsBpfIngress
            collector := { rt.collector with bpfRuntimeEnabled := true } }
          "initial_tc_filter_check".toList
        exact hattach.trans hheal

/-- The stop of the runtime is a sequence of the daemon's calls. -/
theorem stopBpfRuntime_calls (faults : AttachedHook → Bool → Option Errno) :
    DaemonCalls rt.tc.kernel (stopBpfRuntime faults rt).tc.kernel :=
  detachAll_calls rt.tc faults

end Runtime

end Lanspeed
