import Lanspeed.Tc.Effects
import Lanspeed.Methods

/-!
# The BPF runtime of the daemon

Starting and stopping the BPF runtime, the self-heal and the switch of the attach policy: passes
over the attach list with the loader's functions. On the collector state they do what the methods
assume of them (`bpfRuntimeRefreshAttachPolicy_collector`, `bpfRuntimeRecoverIfNeeded_collector`).
-/

namespace Lanspeed

/-- The kernel and the loader, the collectors, and the variables of the attach policy. -/
structure BpfRuntime where
  tc : TcState
  collector : CollectorState
  earlyPassthrough : Bool := false
  selfHealFailures : UInt64 := 0
  lastSelfHealFailure : CStr := []

/-- What the call on each interface meets in one pass over the attach list. -/
abbrev PassEnv := CStr → TcCallEnv

/-- Attach a mode on every interface, up to the first failure. -/
def attachPass (envs : PassEnv) (early : Bool) : List CStr → TcState → Bool × TcState
  | [], st => (true, st)
  | name :: names, st =>
    match lanspeedBpfAttachIfaceMode (envs name) name early st with
    | (some _, st) => (false, st)
    | (none, st) => attachPass envs early names st

/-- Attach a mode on every interface, and count the successes. -/
def attachCount (envs : PassEnv) (early : Bool) : List CStr → TcState → ℕ × TcState
  | [], st => (0, st)
  | name :: names, st =>
    let (err, st) := lanspeedBpfAttachIfaceMode (envs name) name early st
    let (count, st) := attachCount envs early names st
    (if err.isNone then count + 1 else count, st)

/-- Detach a mode on every interface, whatever the calls return. -/
def detachPass (envs : PassEnv) (early : Bool) (names : List CStr) (st : TcState) : TcState :=
  names.foldl (fun st name => (lanspeedBpfDetachIfaceMode (envs name) name early st).2) st

/-- The loop of `bpf_runtime_recover_if_needed`: `attempted`, `ok`, and the state. -/
def recoverPass (envs : PassEnv) (early : Bool) (reason : CStr) :
    List CStr → TcState → (Bool × Bool) × TcState
  | [], st => ((false, true), st)
  | name :: names, st =>
    let (ret, st) := lanspeedBpfEnsureAttached (envs name) name early reason st
    let ((attempted, ok), st) := recoverPass envs early reason names st
    -- A return value other than 0 is a restored hook or an error.
    ((ret.toOption != some false || attempted, ret.isOk && ok), st)

/-- The failure text of a pass, copied in the state `copied`: a default where the loader had no
error in the state `failed`, and otherwise what its buffer holds by then. -/
def failureText (failed copied : TcState) (text : CStr) : CStr :=
  snprintf 128 (if failed.loader.status.error.isEmpty then text else copied.loader.status.error)

/-- `bpf_runtime_recover_if_needed`. -/
def bpfRuntimeRecoverIfNeeded (cfg : CollectorConfig) (envs : PassEnv) (names : List CStr)
    (reason : CStr) (rt : BpfRuntime) : Bool × BpfRuntime :=
  if !bpfRuntimeActive cfg rt.collector then (true, rt)
  else
    let ((attempted, ok), tc) := recoverPass envs rt.earlyPassthrough reason names rt.tc
    if !ok then
      (false, { rt with
        tc
        selfHealFailures := rt.selfHealFailures + 1
        lastSelfHealFailure := failureText tc tc "bpf_tc_self_heal_failed".toList })
    else
      (true, { rt with
        tc
        collector := if attempted then bpfRuntimeResetRateState rt.collector else rt.collector })

/-- What the passes of one switch of the attach policy meet. -/
structure RefreshEnvs where
  attach : PassEnv
  detach : PassEnv
  recover : PassEnv

/-- `bpf_runtime_refresh_attach_policy`. -/
def bpfRuntimeRefreshAttachPolicy (cfg : CollectorConfig) (envs : RefreshEnvs) (names : List CStr)
    (probe : RuntimeProbe) (rt : BpfRuntime) : Bool × BpfRuntime :=
  let wantEarly := probe.daePreemptsBpfIngress
  if !bpfRuntimeActive cfg rt.collector then (false, rt)
  else if wantEarly = rt.earlyPassthrough then (false, rt)
  else
    match attachPass envs.attach wantEarly names rt.tc with
    | (true, tc) =>
      let switched := { rt with
        tc := detachPass envs.detach rt.earlyPassthrough names tc
        earlyPassthrough := wantEarly
        collector := bpfRuntimeResetRateState rt.collector }
      let reason := if wantEarly then "dae_tc_preempt_policy_switch".toList
        else "dae_tc_preempt_policy_restore".toList
      (true, (bpfRuntimeRecoverIfNeeded cfg envs.recover names reason switched).2)
    | (false, failed) =>
      -- The text points into the loader's buffer and is copied behind the detaches.
      let tc := detachPass envs.detach wantEarly names failed
      (false, { rt with
        tc
        selfHealFailures := rt.selfHealFailures + 1
        lastSelfHealFailure := failureText failed tc "bpf_tc_policy_switch_failed".toList })

/-- What a start of the BPF runtime meets. -/
structure StartInput where
  objectPath : CStr
  load : ObjectLoad
  strerror : Errno → CStr := fun _ => []
  probe : RuntimeProbe
  attach : PassEnv
  detach : AttachedHook → Bool → Option Errno
  recover : PassEnv

/-- `start_bpf_runtime`. -/
def startBpfRuntime (cfg : CollectorConfig) (inp : StartInput) (names : List CStr)
    (rt : BpfRuntime) : BpfRuntime :=
  if !cfg.enableBpf || !rateCollectorModeAllowsBpf cfg then rt
  else
    match lanspeedBpfInit inp.objectPath inp.load inp.strerror rt.tc.loader with
    | (false, loader) => { rt with tc := { rt.tc with loader } }
    | (true, loader) =>
      let early := inp.probe.daePreemptsBpfIngress
      match attachCount inp.attach early names { rt.tc with loader } with
      | (0, tc) => { rt with tc := lanspeedBpfShutdown inp.detach tc, earlyPassthrough := early }
      | (_ + 1, tc) =>
        let started := { rt with
          tc
          earlyPassthrough := early
          collector := { rt.collector with bpfRuntimeEnabled := true } }
        (bpfRuntimeRecoverIfNeeded cfg inp.recover names "initial_tc_filter_check".toList started).2

/-- `stop_bpf_runtime`. -/
def stopBpfRuntime (faults : AttachedHook → Bool → Option Errno) (rt : BpfRuntime) : BpfRuntime :=
  { rt with
    tc := lanspeedBpfShutdown faults rt.tc
    collector := { rt.collector with bpfRuntimeEnabled := false }
    earlyPassthrough := false }

/-! ## The passes and the filter table -/

/-- Attaching over the list fills places with own programs only. -/
theorem attachPass_fills (envs : PassEnv) (early : Bool) (names : List CStr) (st : TcState) :
    Fills (OwnOn st names early) st (attachPass envs early names st).2 := by
  induction names generalizing st with
  | nil => exact (SameTables.refl st).fills
  | cons name names ih =>
    have hhead := (attachIfaceMode_outcome (envs name) name early st).1.fills
    rw [attachPass]
    rcases hattach : lanspeedBpfAttachIfaceMode (envs name) name early st with ⟨_ | err, st₁⟩
    · rw [hattach] at hhead
      exact hhead.cons (ih st₁)
    · -- The pass ends at the failure.
      rw [hattach] at hhead
      exact hhead.mono fun s p h => h.mono (by simp) rfl rfl

/-- When every interface attaches, the ingress places were free, and all places are filled. -/
theorem attachPass_ok {envs : PassEnv} {early : Bool} {names : List CStr} {st : TcState}
    (hok : (attachPass envs early names st).1 = true) {name : CStr} (hname : name ∈ names)
    {obj ifindex : ℕ} (hopens : Opens st name obj ifindex) :
    st.kernel.programAt (lanspeedSlot ifindex early .ingress) = none ∧
      ∀ point, (attachPass envs early names st).2.kernel.programAt
        (lanspeedSlot ifindex early point)
        ≠ none := by
  induction names generalizing st with
  | nil => exact absurd hname List.not_mem_nil
  | cons head names ih =>
    obtain ⟨houtcome, hfree⟩ := attachIfaceMode_outcome (envs head) head early st
    rw [attachPass] at hok ⊢
    rcases hattach : lanspeedBpfAttachIfaceMode (envs head) head early st with ⟨_ | err, st₁⟩
    · rw [hattach] at hok houtcome hfree
      simp only at hok ⊢
      have hfills := houtcome.fills
      rcases List.mem_cons.mp hname with rfl | hname
      -- The head is filled by its own turn, and what is taken stays.
      · have hattaches := (hfree obj ifindex hopens).resolve_right fun h => h.1 rfl
        refine ⟨hattaches.free, fun point => ?_⟩
        obtain ⟨obj', ifindex', hopens', hfilled⟩ := houtcome.filled
        obtain rfl : ifindex = ifindex' :=
          Option.some.inj (hopens.resolves.symm.trans hopens'.resolves)
        have hne : st₁.kernel.programAt (lanspeedSlot ifindex early point) ≠ none := by
          rw [hfilled point]
          exact Option.some_ne_none _
        rw [(attachPass_fills envs early names st₁).of_taken hne]
        exact hne
      -- The rest is filled by the induction; its places were free before the head's turn too.
      · obtain ⟨hfree', hfilled⟩ := ih hok hname (hopens.mono hfills.devices hfills.obj)
        refine ⟨?_, hfilled⟩
        by_contra hne
        rw [hfills.of_taken hne] at hfree'
        exact hne hfree'
    · rw [hattach] at hok
      cases hok

/-- Healing over the list fills places with own programs only. -/
theorem recoverPass_fills (envs : PassEnv) (early : Bool) (reason : CStr) (names : List CStr)
    (st : TcState) :
    Fills (OwnOn st names early) st (recoverPass envs early reason names st).2 := by
  induction names generalizing st with
  | nil => exact (SameTables.refl st).fills
  | cons name names ih =>
    exact (ensureAttached_outcome (envs name) name early st reason).fills.cons (ih _)

/-- The place `s` is one of a mode on one of the interfaces `names`. -/
def SlotOn (st : TcState) (names : List CStr) (early : Bool) (s : TcSlot) : Prop :=
  ∃ name ∈ names, ∃ obj ifindex point, Opens st name obj ifindex ∧
    s = lanspeedSlot ifindex early point

/-- The places depend on the devices and the loaded object only. -/
theorem slotOn_congr {st st' : TcState} {names : List CStr} {early : Bool} {s : TcSlot}
    (hdev : st'.kernel.devices = st.kernel.devices) (hobj : st'.loader.obj = st.loader.obj) :
    SlotOn st' names early s ↔ SlotOn st names early s := by
  constructor
  · rintro ⟨name, hname, obj, ifindex, point, hopens, hs⟩
    exact ⟨name, hname, obj, ifindex, point, hopens.mono hdev.symm hobj.symm, hs⟩
  · rintro ⟨name, hname, obj, ifindex, point, hopens, hs⟩
    exact ⟨name, hname, obj, ifindex, point, hopens.mono hdev hobj, hs⟩

/-- Detaching over the list empties the places of the mode and no others. -/
structure PassDetached (names : List CStr) (early : Bool) (st st' : TcState) : Prop where
  devices : st'.kernel.devices = st.kernel.devices
  obj : st'.loader.obj = st.loader.obj
  emptied : ∀ s, SlotOn st names early s → st'.kernel.programAt s = none
  rest : ∀ s, ¬ SlotOn st names early s → st'.kernel.programAt s = st.kernel.programAt s

/-- Detaching one interface empties the places of the mode on it. -/
theorem detachIfaceMode_detached {env : TcCallEnv} (hfault : ∀ point, env.detach point = none)
    (name : CStr) (early : Bool) (st : TcState) :
    PassDetached [name] early st (lanspeedBpfDetachIfaceMode env name early st).2 := by
  rcases detachIfaceMode_outcome env name early st fun _ _ _ point _ => hfault point with
    ⟨hsame, hnone⟩ | ⟨obj, ifindex, hopens, hdetached⟩
  · refine ⟨hsame.devices, hsame.obj, fun s h => ?_, fun s _ => by rw [hsame.programAt]⟩
    obtain ⟨name', hname, obj, ifindex, -, hopens, -⟩ := h
    obtain rfl := List.mem_singleton.mp hname
    exact absurd hopens (hnone obj ifindex)
  · refine ⟨hdetached.devices, hdetached.obj, fun s h => ?_, fun s h => ?_⟩
    · obtain ⟨name', hname, obj', ifindex', point, hopens', rfl⟩ := h
      obtain rfl := List.mem_singleton.mp hname
      obtain rfl : ifindex = ifindex' :=
        Option.some.inj (hopens.resolves.symm.trans hopens'.resolves)
      exact hdetached.emptied point
    · refine hdetached.rest s fun point hs => h ?_
      exact ⟨name, List.mem_singleton_self _, obj, ifindex, point, hopens, hs⟩

/-- The places on a list of interfaces are those on its head and those on the rest. -/
theorem slotOn_cons {st : TcState} {name : CStr} {names : List CStr} {early : Bool} {s : TcSlot} :
    SlotOn st (name :: names) early s ↔ SlotOn st [name] early s ∨ SlotOn st names early s := by
  simp only [SlotOn, List.exists_mem_cons_iff, List.mem_singleton, exists_eq_left]

/-- What is detached on one interface and then on the rest is detached on the whole list. -/
theorem PassDetached.cons {name : CStr} {names : List CStr} {early : Bool} {st st₁ st₂ : TcState}
    (h : PassDetached [name] early st st₁) (h' : PassDetached names early st₁ st₂) :
    PassDetached (name :: names) early st st₂ := by
  have hrest : ∀ s, SlotOn st₁ names early s ↔ SlotOn st names early s :=
    fun s => slotOn_congr h.devices h.obj
  refine ⟨h'.devices.trans h.devices, h'.obj.trans h.obj, fun s hs => ?_, fun s hs => ?_⟩
  · by_cases htail : SlotOn st₁ names early s
    · exact h'.emptied s htail
    · -- The rest of the list leaves the place as the head left it.
      rw [h'.rest s htail]
      exact h.emptied s ((slotOn_cons.mp hs).resolve_right fun hst => htail ((hrest s).mpr hst))
  · rw [slotOn_cons, not_or, ← hrest] at hs
    rw [h'.rest s hs.2, h.rest s hs.1]

/-- A pass that detaches works when no detach call fails by itself. -/
theorem detachPass_outcome {envs : PassEnv} (hfault : ∀ name point, (envs name).detach point = none)
    (early : Bool) (names : List CStr) (st : TcState) :
    PassDetached names early st (detachPass envs early names st) := by
  induction names generalizing st with
  | nil =>
    refine ⟨rfl, rfl, fun s h => ?_, fun _ _ => rfl⟩
    obtain ⟨name, hname, -⟩ := h
    exact absurd hname List.not_mem_nil
  | cons name names ih => exact (detachIfaceMode_detached (hfault name) name early st).cons (ih _)

/-- The self-heal is one pass over the list when BPF is active; it keeps the mode and whether BPF is
running. -/
theorem bpfRuntimeRecoverIfNeeded_tc (cfg : CollectorConfig) (envs : PassEnv) (names : List CStr)
    (reason : CStr) (rt : BpfRuntime) :
    let r := bpfRuntimeRecoverIfNeeded cfg envs names reason rt
    r.2.earlyPassthrough = rt.earlyPassthrough ∧
      r.2.collector.bpfRuntimeEnabled = rt.collector.bpfRuntimeEnabled ∧
      r.2.tc = if bpfRuntimeActive cfg rt.collector then
        (recoverPass envs rt.earlyPassthrough reason names rt.tc).2 else rt.tc := by
  intro r
  unfold r bpfRuntimeRecoverIfNeeded
  cases bpfRuntimeActive cfg rt.collector with
  | false => exact ⟨rfl, rfl, rfl⟩
  | true =>
    rcases recoverPass envs rt.earlyPassthrough reason names rt.tc with ⟨⟨attempted, ok⟩, tc⟩
    cases ok <;> cases attempted <;> exact ⟨rfl, rfl, rfl⟩

/-! ## The collector state -/

/-- The switch of the attach policy does to the collectors what the methods assume of it. -/
theorem bpfRuntimeRefreshAttachPolicy_collector (cfg : CollectorConfig) (envs : RefreshEnvs)
    (names : List CStr) (probe : RuntimeProbe) (rt : BpfRuntime) :
    let r := bpfRuntimeRefreshAttachPolicy cfg envs names probe rt
    refreshAttachPolicy cfg r.1 rt.collector = (r.1, r.2.collector) := by
  intro r
  have hreset : bpfRuntimeActive cfg (bpfRuntimeResetRateState rt.collector)
      = bpfRuntimeActive cfg rt.collector := rfl
  have htwice : bpfRuntimeResetRateState (bpfRuntimeResetRateState rt.collector)
      = bpfRuntimeResetRateState rt.collector := rfl
  unfold r bpfRuntimeRefreshAttachPolicy refreshAttachPolicy
  cases hactive : bpfRuntimeActive cfg rt.collector with
  | false => simp
  | true =>
    by_cases hwant : probe.daePreemptsBpfIngress = rt.earlyPassthrough
    · simp [hwant]
    · simp only [hwant, Bool.not_true, Bool.false_eq_true, if_false]
      rcases attachPass envs.attach probe.daePreemptsBpfIngress names rt.tc with ⟨_ | _, tc⟩
      · simp
      · simp only [bpfRuntimeRecoverIfNeeded, hreset, hactive, Bool.not_true, Bool.false_eq_true,
          if_false, Bool.and_self, if_true]
        split_ifs <;> simp [htwice]

/-- The self-heal does to the collectors what the tick assumes of it. -/
theorem bpfRuntimeRecoverIfNeeded_collector (cfg : CollectorConfig) (envs : PassEnv)
    (names : List CStr) (reason : CStr) (rt : BpfRuntime) :
    ∃ healed, recoverIfNeeded cfg healed rt.collector
      = (bpfRuntimeRecoverIfNeeded cfg envs names reason rt).2.collector := by
  unfold bpfRuntimeRecoverIfNeeded recoverIfNeeded
  cases hactive : bpfRuntimeActive cfg rt.collector with
  | false => exact ⟨false, by simp⟩
  | true =>
    rcases recoverPass envs rt.earlyPassthrough reason names rt.tc with ⟨⟨attempted, ok⟩, tc⟩
    refine ⟨attempted && ok, ?_⟩
    cases ok <;> cases attempted <;> simp

end Lanspeed
