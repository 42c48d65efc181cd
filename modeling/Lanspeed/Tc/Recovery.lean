import Lanspeed.Tc.Calls
import Lanspeed.Tc.InitScript
import Lanspeed.Tc.Policy
import Lanspeed.Tc.Shutdown

/-!
# Recovery after a crash

A daemon that is killed leaves its filters in the kernel. The cleanup of the init script does not
know them again, so a new process starts over them: `start_bpf_runtime` fails on every interface
whose ingress place of the current mode is taken, and leaves the filters of the other mode.
-/

namespace Lanspeed

/-- A kernel that the daemon may leave behind when it is killed: it started without lanspeed filters
and without other filters at lanspeed's places, the daemon made calls, and other components changed
filters elsewhere. -/
inductive LeftBehind (names : List CStr) : TcKernel → Prop where
  | start {k : TcKernel} (clean : NoLanspeedFilters k) (free : ∀ early, NoForeignAt k names early) :
      LeftBehind names k
  | call {k k' : TcKernel} (left : LeftBehind names k) (call : DaemonCall k k') :
      LeftBehind names k'
  | others {k k' : TcKernel} (left : LeftBehind names k) (devices : k'.devices = k.devices)
      (own : ∀ ifindex early point, k'.programAt (lanspeedSlot ifindex early point)
        = k.programAt (lanspeedSlot ifindex early point))
      (foreign : ∀ s p, k'.programAt s = some p → p.isLanspeed = true → k.programAt s = some p) :
      LeftBehind names k'

/-- Every lanspeed filter is at the place of its mode and direction, and no other filter is at such
a place of an interface of the list. -/
structure InPlace (names : List CStr) (k : TcKernel) : Prop where
  own : ∀ s point early obj, k.programAt s = some (.lanspeed point early obj) →
    s = lanspeedSlot s.ifindex early point
  free : ∀ early, NoForeignAt k names early

/-- Filters that go away leave the rest in place. -/
theorem InPlace.of_fewer {names : List CStr} {k k' : TcKernel} (h : InPlace names k)
    (hdev : k'.devices = k.devices)
    (hfewer : ∀ s p, k'.programAt s = some p → k.programAt s = some p) : InPlace names k' := by
  refine ⟨fun s point early obj hp => h.own s point early obj (hfewer s _ hp), ?_⟩
  intro early name hname ifindex hresolve point label hp
  rw [TcKernel.ifNameToIndex, hdev] at hresolve
  exact h.free early name hname ifindex hresolve point label (hfewer _ _ hp)

/-- A call of the daemon keeps the filters in place. -/
theorem InPlace.of_call {names : List CStr} {k k' : TcKernel} (h : InPlace names k)
    (hcall : DaemonCall k k') : InPlace names k' := by
  cases hcall with
  | hookCreate ifindex hok =>
    obtain ⟨hdev, htable, -, -⟩ := TcKernel.hookCreate_ok hok
    exact h.of_fewer hdev fun s p hp => by rwa [htable] at hp
  | attach ifindex early point obj hok =>
    obtain ⟨hdev, -, -, htable⟩ := TcKernel.attach_ok hok
    -- The new filter is at its place, the others are where they were.
    have hcases : ∀ s p, k'.programAt s = some p →
        (s = lanspeedSlot ifindex early point ∧ p = .lanspeed point early obj) ∨
          k.programAt s = some p := by
      intro s p hp
      rw [htable, Function.update_apply] at hp
      split_ifs at hp with hs
      · exact .inl ⟨hs, (Option.some.inj hp).symm⟩
      · exact .inr hp
    refine ⟨fun s point' early' obj' hp => ?_, ?_⟩
    · rcases hcases s _ hp with ⟨rfl, hprogram⟩ | hp
      · cases hprogram
        rfl
      · exact h.own s point' early' obj' hp
    · intro early' name hname ifindex' hresolve point' label hp
      rw [TcKernel.ifNameToIndex, hdev] at hresolve
      rcases hcases _ _ hp with ⟨-, hprogram⟩ | hp
      · cases hprogram
      · exact h.free early' name hname ifindex' hresolve point' label hp
  | detach ifindex early point hok =>
    unfold TcKernel.detach at hok
    split_ifs at hok
    obtain rfl := Except.ok.inj hok
    exact h.of_fewer rfl fun s p hp => TcKernel.programAt_of_deleteWhere hp
  | hookDestroy ifindex point =>
    exact h.of_fewer rfl fun s p hp => TcKernel.programAt_of_deleteWhere hp

/-- Whatever the daemon leaves behind is in place. -/
theorem LeftBehind.inPlace {names : List CStr} {k : TcKernel} (h : LeftBehind names k) :
    InPlace names k := by
  induction h with
  | start clean free =>
    refine ⟨fun s point early obj hp => ?_, free⟩
    cases clean _ (TcKernel.mem_filters_of_programAt hp)
  | call left call ih => exact ih.of_call call
  | @others k k' left devices own foreign ih =>
    refine ⟨fun s point early obj hp => ih.own s point early obj (foreign s _ hp rfl), ?_⟩
    intro early name hname ifindex hresolve point label hp
    rw [TcKernel.ifNameToIndex, devices] at hresolve
    rw [own] at hp
    exact ih.free early name hname ifindex hresolve point label hp

/-- The calls of a function of the daemon lead to a kernel that it may leave behind. -/
theorem LeftBehind.of_calls {names : List CStr} {k k' : TcKernel} (h : LeftBehind names k)
    (hcalls : DaemonCalls k k') : LeftBehind names k' := by
  induction hcalls with
  | refl => exact h
  | tail _ hcall ih => exact ih.call hcall

/-- What the daemon does with the BPF runtime. -/
inductive RuntimeEvent where
  | start (inp : StartInput)
  | recover (envs : PassEnv) (reason : CStr)
  | refresh (envs : RefreshEnvs) (probe : RuntimeProbe)
  | stop (faults : AttachedHook → Bool → Option Errno)

/-- One step of the runtime. -/
def runtimeStep (cfg : CollectorConfig) (names : List CStr) (rt : BpfRuntime) :
    RuntimeEvent → BpfRuntime
  | .start inp => startBpfRuntime cfg inp names rt
  | .recover envs reason => (bpfRuntimeRecoverIfNeeded cfg envs names reason rt).2
  | .refresh envs probe => (bpfRuntimeRefreshAttachPolicy cfg envs names probe rt).2
  | .stop faults => stopBpfRuntime faults rt

/-- Every run of the runtime leaves a kernel that the daemon may leave behind. -/
theorem leftBehind_run (cfg : CollectorConfig) (names attached : List CStr) (rt : BpfRuntime)
    (h : LeftBehind names rt.tc.kernel) (evs : List RuntimeEvent) :
    LeftBehind names (Machine.run (runtimeStep cfg attached) rt evs).tc.kernel := by
  refine Machine.run_invariant (runtimeStep cfg attached)
    (I := fun rt => LeftBehind names rt.tc.kernel) (fun rt e hrt => ?_) h evs
  cases e with
  | start inp => exact hrt.of_calls (startBpfRuntime_calls cfg attached rt inp)
  | recover envs reason =>
    exact hrt.of_calls (bpfRuntimeRecoverIfNeeded_calls cfg envs attached rt reason)
  | refresh envs probe =>
    exact hrt.of_calls (bpfRuntimeRefreshAttachPolicy_calls cfg attached rt envs probe)
  | stop faults => exact hrt.of_calls (stopBpfRuntime_calls rt faults)

/-! ## Starting over what is left -/

section Passes

variable {envs : PassEnv} {early : Bool} {names : List CStr} {st : TcState}

/-- Counting the successes fills places with own programs only. -/
theorem attachCount_fills (envs : PassEnv) (early : Bool) (names : List CStr) (st : TcState) :
    Fills (OwnOn st names early) st (attachCount envs early names st).2 := by
  induction names generalizing st with
  | nil => exact (SameTables.refl st).fills
  | cons name names ih =>
    exact (attachIfaceMode_outcome (envs name) name early st).1.fills.cons (ih _)

/-- Without faults an interface attaches exactly when the ingress place of one is free. -/
theorem attachCount_pos_iff (hfault : ∀ name, (envs name).NoFault) {obj : ℕ}
    (hobj : st.loader.obj = some obj) (hnames : Resolves st.kernel names) :
    0 < (attachCount envs early names st).1 ↔ ∃ name ∈ names, ∃ ifindex,
      st.kernel.ifNameToIndex name = some ifindex ∧
        st.kernel.programAt (lanspeedSlot ifindex early .ingress) = none := by
  induction names generalizing st with
  | nil => simp [attachCount]
  | cons head names ih =>
    obtain ⟨hne, ifindex, hresolve⟩ := hnames head List.mem_cons_self
    have hopens : Opens st head obj ifindex := ⟨hobj, hne, hresolve⟩
    obtain ⟨houtcome, hattaches⟩ := attachIfaceMode_outcome (envs head) head early st
    have hok : (lanspeedBpfAttachIfaceMode (envs head) head early st).1 = none ↔
        st.kernel.programAt (lanspeedSlot ifindex early .ingress) = none :=
      attachIfaceMode_eq_none_iff (hfault head) hopens
    have hcount : (attachCount envs early (head :: names) st).1
        = if (lanspeedBpfAttachIfaceMode (envs head) head early st).1.isNone then
            (attachCount envs early names
              (lanspeedBpfAttachIfaceMode (envs head) head early st).2).1 + 1
          else (attachCount envs early names
            (lanspeedBpfAttachIfaceMode (envs head) head early st).2).1 := rfl
    rw [hcount]
    rcases hattach : lanspeedBpfAttachIfaceMode (envs head) head early st with ⟨err, st₁⟩
    rw [hattach] at houtcome hattaches hok
    have hfills := houtcome.fills
    have hindex : st₁.kernel.ifNameToIndex = st.kernel.ifNameToIndex := by
      funext name
      rw [TcKernel.ifNameToIndex, TcKernel.ifNameToIndex, hfills.devices]
    have htail := @ih st₁ (hfills.obj.trans hobj)
      fun name hname => by rw [hindex]; exact hnames name (List.mem_cons_of_mem _ hname)
    rw [hindex] at htail
    cases err with
    | none =>
      refine iff_of_true (Nat.succ_pos _) ⟨head, List.mem_cons_self, ifindex, hresolve, hok.mp rfl⟩
    | some err =>
      -- The head failed as its ingress place is taken, and changed nothing.
      have hsame : SameTables st st₁ := ((hattaches obj ifindex hopens).resolve_left fun h => by
        cases hok.mpr h.free).2
      simp only [Option.isNone_some, Bool.false_eq_true, if_false]
      rw [htail, hsame.programAt]
      constructor
      · rintro ⟨name, hname, hfree⟩
        exact ⟨name, List.mem_cons_of_mem _ hname, hfree⟩
      · rintro ⟨name, hname, ifindex', hresolve', hfree⟩
        rcases List.mem_cons.mp hname with rfl | hname
        · obtain rfl : ifindex = ifindex' := Option.some.inj (hresolve.symm.trans hresolve')
          cases hok.mpr hfree
        · exact ⟨name, hname, ifindex', hresolve', hfree⟩

/-- Without faults the self-heal fills every place of the mode. -/
theorem recoverPass_filled (hfault : ∀ name, (envs name).NoFault) (reason : CStr) {s : TcSlot}
    (hs : SlotOn st names early s) :
    (recoverPass envs early reason names st).2.kernel.programAt s ≠ none := by
  induction names generalizing st with
  | nil =>
    obtain ⟨name, hname, -⟩ := hs
    exact absurd hname List.not_mem_nil
  | cons head names ih =>
    obtain ⟨name, hname, obj, ifindex, point, hopens, rfl⟩ := hs
    have houtcome := ensureAttached_outcome (envs head) head early st reason
    have hfills := houtcome.fills
    have hrest : (recoverPass envs early reason (head :: names) st).2
        = (recoverPass envs early reason names
            (lanspeedBpfEnsureAttached (envs head) head early reason st).2).2 := rfl
    rw [hrest]
    rcases List.mem_cons.mp hname with rfl | hname
    · have hok := ensureAttached_of_noFault (hfault name) hopens early reason
      simp only [hok] at houtcome
      obtain ⟨obj', ifindex', hopens', hfilled⟩ := houtcome.filled
      obtain rfl : ifindex = ifindex' :=
        Option.some.inj (hopens.resolves.symm.trans hopens'.resolves)
      have hne : (lanspeedBpfEnsureAttached (envs name) name early reason st).2.kernel.programAt
          (lanspeedSlot ifindex early point) ≠ none := by
        rw [hfilled point]
        exact Option.some_ne_none _
      rw [(recoverPass_fills envs early reason names _).of_taken hne]
      exact hne
    · exact ih ⟨name, hname, obj, ifindex, point, hopens.mono hfills.devices hfills.obj, rfl⟩

end Passes

/-- The runtime of a new process over a kernel. -/
def BpfRuntime.fresh (kernel : TcKernel) : BpfRuntime where
  tc := { kernel, loader := .init }
  collector := .init false

/-- Loading the object in a new process. -/
theorem lanspeedBpfInit_fresh {objectPath : CStr} (hpath : objectPath ≠ []) (obj : ℕ)
    (strerror : Errno → CStr) :
    ∃ loader, lanspeedBpfInit objectPath (.loaded obj) strerror .init = (true, loader) ∧
      loader.obj = some obj := by
  have hempty : objectPath.isEmpty = false := List.isEmpty_eq_false_iff.mpr hpath
  simp only [lanspeedBpfInit, LoaderState.init, hempty, Option.isSome_none, Bool.false_eq_true,
    if_false]
  exact ⟨_, rfl, rfl⟩

/-- A start over a kernel without faults: BPF runs exactly when the ingress place of one interface
is free, and then own programs fill every place of the mode that was free. -/
theorem startBpfRuntime_fresh {cfg : CollectorConfig} {inp : StartInput} {names : List CStr}
    {k : TcKernel} (henable : cfg.enableBpf = true)
    (hallows : rateCollectorModeAllowsBpf cfg = true)
    (hpath : inp.objectPath ≠ []) {obj : ℕ} (hload : inp.load = .loaded obj)
    (hnames : Resolves k names) (hattach : ∀ name, (inp.attach name).NoFault)
    (hrecover : ∀ name, (inp.recover name).NoFault) {early : Bool}
    (hearly : inp.probe.daePreemptsBpfIngress = early) :
    let r := startBpfRuntime cfg inp names (.fresh k)
    (r.collector.bpfRuntimeEnabled = true ↔ ∃ name ∈ names, ∃ ifindex,
      k.ifNameToIndex name = some ifindex ∧
        k.programAt (lanspeedSlot ifindex early .ingress) = none) ∧
    (r.collector.bpfRuntimeEnabled = true → ∃ st, st.kernel = k ∧ st.loader.obj = some obj ∧
      Fills (OwnOn st names early) st r.tc ∧
      ∀ s, SlotOn st names early s → r.tc.kernel.programAt s ≠ none) := by
  intro r
  obtain ⟨loader, hinit, hobj⟩ := lanspeedBpfInit_fresh hpath obj inp.strerror
  have hpos : 0 < (attachCount inp.attach early names { kernel := k, loader }).1 ↔ _ :=
    attachCount_pos_iff hattach hobj hnames
  rw [← hpos]
  have hfills := attachCount_fills inp.attach early names { kernel := k, loader }
  simp only [r, startBpfRuntime, henable, hallows, hload, BpfRuntime.fresh, hinit, Bool.not_true,
    Bool.or_self, Bool.false_eq_true, if_false, hearly]
  rcases hcount : attachCount inp.attach early names { kernel := k, loader } with ⟨_ | count, tc⟩
  · exact ⟨iff_of_false Bool.false_ne_true (Nat.lt_irrefl 0), fun h => absurd h Bool.false_ne_true⟩
  · rw [hcount] at hfills
    simp only
    obtain ⟨-, henabled, htc⟩ := bpfRuntimeRecoverIfNeeded_tc cfg inp.recover names
      "initial_tc_filter_check".toList
      { tc, collector := { CollectorState.init false with bpfRuntimeEnabled := true },
        earlyPassthrough := early }
    have hactive : bpfRuntimeActive cfg { CollectorState.init false with bpfRuntimeEnabled := true }
        = true := by
      rw [bpfRuntimeActive, henable, hallows]
      rfl
    rw [if_pos hactive] at htc
    refine ⟨iff_of_true henabled (Nat.succ_pos count), fun _ =>
      ⟨{ kernel := k, loader }, rfl, hobj, ?_, fun s hs => ?_⟩⟩
    · rw [htc]
      exact hfills.trans ((recoverPass_fills _ _ _ _ _).mono fun s p h =>
        h.mono (fun _ hn => hn) hfills.devices.symm hfills.obj.symm)
    -- The self-heal fills what the first pass left free, even where that pass failed.
    · rw [htc]
      exact recoverPass_filled hrecover _ ((slotOn_congr hfills.devices hfills.obj).mpr hs)

/-- A start brings every interface back: BPF runs, and every interface carries exactly the current
mode. -/
def Recovered (names : List CStr) (early : Bool) (rt : BpfRuntime) : Prop :=
  rt.collector.bpfRuntimeEnabled = true ∧ EveryIfaceCarries rt.tc.kernel names early

/-- No filter is at a place of the mode on an interface of the list. -/
def ModeAbsent (k : TcKernel) (names : List CStr) (early : Bool) : Prop :=
  ∀ name ∈ names, ∀ ifindex, k.ifNameToIndex name = some ifindex → ∀ point,
    k.programAt (lanspeedSlot ifindex early point) = none

/-- What a start needs: an interface whose ingress place of the mode is free, and no filter at a
place of the other mode. -/
def NothingInTheWay (k : TcKernel) (names : List CStr) (early : Bool) : Prop :=
  (∃ name ∈ names, ∃ ifindex, k.ifNameToIndex name = some ifindex ∧
    k.programAt (lanspeedSlot ifindex early .ingress) = none) ∧
  ModeAbsent k names (!early)

section Filled

variable {names : List CStr} {early : Bool} {st st' : TcState}

/-- A filter at a place of the other mode stays, so an interface that carries exactly one mode had
none. -/
theorem modeAbsent_of_carries (hplace : InPlace names st.kernel)
    (hfills : Fills (OwnOn st names early) st st')
    (hcarries : EveryIfaceCarries st'.kernel names early) :
    ModeAbsent st.kernel names (!early) := by
  intro name hname ifindex hresolve point
  by_contra htaken
  obtain ⟨p, hp⟩ := Option.ne_none_iff_exists'.mp htaken
  cases p with
  | foreign label => exact hplace.free (!early) name hname ifindex hresolve point label hp
  | lanspeed point' early' obj' =>
    have hresolve' : st'.kernel.ifNameToIndex name = some ifindex := by
      rw [TcKernel.ifNameToIndex, hfills.devices]
      exact hresolve
    obtain ⟨point'', hslot⟩ :=
      (hcarries name hname ifindex hresolve').only _ _ rfl ((hfills.of_taken htaken).trans hp) rfl
    exact absurd (lanspeedSlot_inj.mp hslot).2.1 (by simp)

/-- A filled place of the mode holds the program of its direction. -/
theorem own_of_filled (hplace : InPlace names st.kernel)
    (hfills : Fills (OwnOn st names early) st st') {name : CStr} (hname : name ∈ names)
    {obj ifindex : ℕ} (hopens : Opens st name obj ifindex) (point : TcAttachPoint)
    (hfilled : st'.kernel.programAt (lanspeedSlot ifindex early point) ≠ none) :
    ∃ obj, st'.kernel.programAt (lanspeedSlot ifindex early point)
      = some (.lanspeed point early obj) := by
  rcases hfills.table (lanspeedSlot ifindex early point) with heq | ⟨-, p, hp, hfill⟩
  · -- The filter was left behind, at the place of its mode and direction.
    obtain ⟨p, hp⟩ := Option.ne_none_iff_exists'.mp hfilled
    rw [heq] at hp
    cases p with
    | foreign label =>
      exact absurd hp (hplace.free early name hname ifindex hopens.resolves point label)
    | lanspeed point' early' obj' =>
      obtain ⟨-, rfl, rfl⟩ := lanspeedSlot_inj.mp (hplace.own _ _ _ _ hp)
      exact ⟨obj', heq.trans hp⟩
  · obtain ⟨_, _, obj', ifindex', point', _, hslot, rfl⟩ := hp
    obtain ⟨-, -, rfl⟩ := lanspeedSlot_inj.mp hslot
    exact ⟨obj', hfill⟩

/-- A lanspeed filter of an interface is at a place of the mode when the other mode was absent. -/
theorem only_of_fills (hplace : InPlace names st.kernel)
    (hfills : Fills (OwnOn st names early) st st') (habsent : ModeAbsent st.kernel names (!early))
    {name : CStr} (hname : name ∈ names) {ifindex : ℕ}
    (hresolve : st.kernel.ifNameToIndex name = some ifindex) {s : TcSlot} {p : TcProgram}
    (hs : s.ifindex = ifindex) (hp : st'.kernel.programAt s = some p) (hown : p.isLanspeed = true) :
    ∃ point, s = lanspeedSlot ifindex early point := by
  rcases hfills.table s with heq | ⟨-, q, hq, -⟩
  · rw [heq] at hp
    cases p with
    | foreign label => cases hown
    | lanspeed point' early' obj' =>
      have hplaced := hplace.own s point' early' obj' hp
      rw [hs] at hplaced
      by_cases hmode : early' = early
      · exact ⟨point', hmode ▸ hplaced⟩
      · obtain rfl : early' = !early := by
          cases early <;> cases early' <;> simp_all
        have hnone := habsent name hname ifindex hresolve point'
        rw [← hplaced, hp] at hnone
        cases hnone
  · obtain ⟨_, _, _, ifindex', point, _, rfl, _⟩ := hq
    exact ⟨point, by rw [← hs]; rfl⟩

/-- Filling the places of a mode leaves interfaces that carry exactly this mode if nothing is at the
places of the other one, and only then. -/
theorem everyIfaceCarries_iff_of_fills (hplace : InPlace names st.kernel) {obj : ℕ}
    (hobj : st.loader.obj = some obj) (hnames : Resolves st.kernel names)
    (hfills : Fills (OwnOn st names early) st st')
    (hfilled : ∀ s, SlotOn st names early s → st'.kernel.programAt s ≠ none) :
    EveryIfaceCarries st'.kernel names early ↔ ModeAbsent st.kernel names (!early) := by
  refine ⟨modeAbsent_of_carries hplace hfills, fun habsent name hname ifindex hresolve => ?_⟩
  rw [TcKernel.ifNameToIndex, hfills.devices] at hresolve
  have hopens : Opens st name obj ifindex := ⟨hobj, (hnames name hname).1, hresolve⟩
  refine ⟨fun point => own_of_filled hplace hfills hname hopens point (hfilled _ ?_),
    fun s p hs hp hown => only_of_fills hplace hfills habsent hname hresolve hs hp hown⟩
  exact ⟨name, hname, obj, ifindex, point, hopens, rfl⟩

end Filled

/-- After a crash, the cleanup of the init script and a new start bring every interface back exactly
when nothing that was left is in the way, as the cleanup deletes nothing. -/
theorem crash_recovery_iff (cfg : CollectorConfig) (inp : StartInput) (names devs : List CStr)
    (tc : TcCommand) (htc : tc.PrintsNoObject) (k : TcKernel) (hleft : LeftBehind names k)
    (hnames : Resolves k names) (hpath : inp.objectPath ≠ []) (obj : ℕ)
    (hload : inp.load = .loaded obj) (hattach : ∀ name, (inp.attach name).NoFault)
    (hrecover : ∀ name, (inp.recover name).NoFault) :
    Recovered names inp.probe.daePreemptsBpfIngress
        (startBpfRuntime cfg inp names (.fresh (cleanupLanspeedTcFilters tc devs k))) ↔
      cfg.enableBpf = true ∧ rateCollectorModeAllowsBpf cfg = true ∧
        NothingInTheWay k names inp.probe.daePreemptsBpfIngress := by
  rw [cleanupLanspeedTcFilters_eq_self htc]
  -- With a closed gate the start does nothing, and BPF stays off.
  by_cases hgates : cfg.enableBpf = true ∧ rateCollectorModeAllowsBpf cfg = true
  · obtain ⟨henable, hallows⟩ := hgates
    obtain ⟨henabled, hstarted⟩ :=
      startBpfRuntime_fresh henable hallows hpath hload hnames hattach hrecover rfl
    have hcarries : (startBpfRuntime cfg inp names (.fresh k)).collector.bpfRuntimeEnabled = true →
        (EveryIfaceCarries (startBpfRuntime cfg inp names (.fresh k)).tc.kernel names
            inp.probe.daePreemptsBpfIngress ↔
          ModeAbsent k names (!inp.probe.daePreemptsBpfIngress)) := by
      intro hon
      obtain ⟨st, rfl, hobj, hfills, hfilled⟩ := hstarted hon
      exact everyIfaceCarries_iff_of_fills hleft.inPlace hobj hnames hfills hfilled
    rw [Recovered, and_congr_right hcarries, henabled, NothingInTheWay]
    simp [henable, hallows]
  · refine iff_of_false (fun ⟨hon, _⟩ => ?_) fun ⟨henable, hallows, _⟩ => hgates ⟨henable, hallows⟩
    have hclosed : (!cfg.enableBpf || !rateCollectorModeAllowsBpf cfg) = true := by
      rw [Bool.or_eq_true_iff, Bool.not_eq_true', Bool.not_eq_true']
      by_contra hopen
      simp_all
    rw [startBpfRuntime, if_pos hclosed] at hon
    cases hon

/-- The section of a lanspeed filter with the id 1: pref, handle and label. -/
def shownFilter : TcAttachPoint → Bool → CStr
  | .ingress, false =>
    "filter protocol all pref 49152 bpf chain 0 handle 0x1eed lanspeed_ingress:[1]".toList
  | .egress, false =>
    "filter protocol all pref 49152 bpf chain 0 handle 0x1eed lanspeed_egress:[1]".toList
  | .ingress, true =>
    "filter protocol all pref 1 bpf chain 0 handle 0x1eee lanspeed_ingress_early:[1]".toList
  | .egress, true =>
    "filter protocol all pref 1 bpf chain 0 handle 0x1eee lanspeed_egress_early:[1]".toList

/-- A `tc` that prints these sections. -/
def shownTc : TcCommand where
  sections := fun filters => filters.map fun f =>
    match f.program with
    | .lanspeed point early _ => shownFilter point early
    | .foreign _ => "filter protocol all pref 2 bpf chain 0 handle 0x1 dae:[2]".toList

/-- A `tc` that prints names of programs prints no path of an object. -/
theorem shownTc_printsNoObject : shownTc.PrintsNoObject := by
  have hown : ∀ point early, grep lanspeedTcObject (shownFilter point early) = false := by
    intro point early
    cases point <;> cases early <;> decide +kernel
  intro filters filter hmem
  obtain ⟨⟨slot, program⟩, -, rfl⟩ := List.mem_map.mp hmem
  cases program with
  | lanspeed point early obj => exact hown point early
  | foreign label =>
    have hdae : grep lanspeedTcObject
        "filter protocol all pref 2 bpf chain 0 handle 0x1 dae:[2]".toList = false := by
      decide +kernel
    exact hdae

/-- A start of the daemon where no call fails. -/
def plainStart : StartInput where
  objectPath := lanspeedTcObject
  load := .loaded 1
  probe := {}
  attach := fun _ => {}
  detach := fun _ _ => none
  recover := fun _ => {}

/-- What a daemon that is killed after its start on `lan1` leaves behind. -/
def killedKernel : TcKernel :=
  (startBpfRuntime { enableBpf := true } plainStart [lanName 1] (.fresh ninePorts.kernel)).tc.kernel

theorem ninePorts_programAt (s : TcSlot) : ninePorts.kernel.programAt s = none := rfl

/-- A daemon that attached two interfaces and was killed leaves such a kernel. -/
theorem leftBehind_killedKernel (names : List CStr) : LeftBehind names killedKernel := by
  have hstart : LeftBehind names ninePorts.kernel := by
    refine .start (by decide) fun early name _ ifindex _ point label h => ?_
    rw [ninePorts_programAt] at h
    cases h
  exact leftBehind_run { enableBpf := true } names [lanName 1] (.fresh ninePorts.kernel) hstart
    [.start plainStart]

/-- The two interfaces are still there. -/
theorem resolves_killedKernel : Resolves killedKernel [lanName 1, lanName 2] := by
  intro name hname
  rcases List.mem_cons.mp hname with rfl | hname
  · exact ⟨by decide +kernel, 1, by decide +kernel⟩
  · obtain rfl := List.mem_singleton.mp hname
    exact ⟨by decide +kernel, 2, by decide +kernel⟩

/-- A start on `lan1` and `lan2`: the ingress place of `lan2` is free. -/
theorem crash_recovery_second_port :
    Recovered [lanName 1, lanName 2] false
      (startBpfRuntime { enableBpf := true } plainStart [lanName 1, lanName 2]
        (.fresh (cleanupLanspeedTcFilters shownTc [lanName 1, lanName 2] killedKernel))) := by
  refine (crash_recovery_iff { enableBpf := true } plainStart [lanName 1, lanName 2]
    [lanName 1, lanName 2] shownTc shownTc_printsNoObject killedKernel (leftBehind_killedKernel _)
    resolves_killedKernel (by decide) 1 rfl (fun _ _ => ⟨rfl, rfl, rfl⟩)
    fun _ _ => ⟨rfl, rfl, rfl⟩).mpr ⟨rfl, rfl, ⟨lanName 2, by simp, 2, ?_, ?_⟩, ?_⟩
  · decide +kernel
  · decide +kernel
  · intro name hname ifindex hresolve point
    rcases List.mem_cons.mp hname with rfl | hname
    · obtain rfl : 1 = ifindex := Option.some.inj (Eq.trans (by decide +kernel) hresolve)
      cases point <;> decide +kernel
    · obtain rfl := List.mem_singleton.mp hname
      obtain rfl : 2 = ifindex := Option.some.inj (Eq.trans (by decide +kernel) hresolve)
      cases point <;> decide +kernel

/-- A start on `lan1` alone: its ingress place is taken by the old filter, which the
cleanup leaves. -/
theorem crash_not_recovered_same_port :
    LeftBehind [lanName 1] killedKernel ∧
      ¬ Recovered [lanName 1] false
        (startBpfRuntime { enableBpf := true } plainStart [lanName 1]
          (.fresh (cleanupLanspeedTcFilters shownTc [lanName 1] killedKernel))) := by
  refine ⟨leftBehind_killedKernel _, fun ⟨hon, _⟩ => ?_⟩
  have hoff : (startBpfRuntime { enableBpf := true } plainStart [lanName 1]
      (.fresh (cleanupLanspeedTcFilters shownTc [lanName 1]
        killedKernel))).collector.bpfRuntimeEnabled
        = false := by decide +kernel
  rw [hoff] at hon
  cases hon

end Lanspeed
