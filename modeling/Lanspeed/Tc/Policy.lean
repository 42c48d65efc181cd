import Lanspeed.Tc.Runtime

/-!
# The switch of the attach policy

`bpf_runtime_refresh_attach_policy` attaches the wanted mode on every interface and then detaches
the old one, or rolls the wanted one back. The switch is a transaction as long as no other
component's filter sits at a place of the wanted mode: the rollback deletes whatever is there.
-/

namespace Lanspeed

/-- An interface carries the two lanspeed filters of a mode, and no other lanspeed filter. -/
structure CarriesExactly (k : TcKernel) (ifindex : ℕ) (early : Bool) : Prop where
  own : ∀ point, ∃ obj,
    k.programAt (lanspeedSlot ifindex early point) = some (.lanspeed point early obj)
  only : ∀ s p, s.ifindex = ifindex → k.programAt s = some p → p.isLanspeed = true →
    ∃ point, s = lanspeedSlot ifindex early point

/-- Every interface of the list carries exactly the filters of a mode. -/
def EveryIfaceCarries (k : TcKernel) (names : List CStr) (early : Bool) : Prop :=
  ∀ name ∈ names, ∀ ifindex, k.ifNameToIndex name = some ifindex → CarriesExactly k ifindex early

/-- The filter is a lanspeed filter on an interface of the list. -/
def IsManaged (k : TcKernel) (names : List CStr) (f : TcFilter) : Prop :=
  f.program.isLanspeed = true ∧ ∃ name ∈ names, k.ifNameToIndex name = some f.slot.ifindex

/-- The filters that are not lanspeed's on an interface of the list are the same in both kernels. -/
def SameOthers (k k' : TcKernel) (names : List CStr) : Prop :=
  ∀ f, ¬ IsManaged k names f → (f ∈ k'.filters ↔ f ∈ k.filters)

/-- The switch is a transaction: it succeeds and every interface carries the wanted mode, or it
fails and every interface carries the old one; the other filters stay as they are. -/
def SwitchTransaction (names : List CStr) (want : Bool) (rt : BpfRuntime)
    (result : Bool × BpfRuntime) : Prop :=
  (result.1 = true ∧ result.2.earlyPassthrough = want ∧
      EveryIfaceCarries result.2.tc.kernel names want ∨
    result.1 = false ∧ result.2.earlyPassthrough = rt.earlyPassthrough ∧
      EveryIfaceCarries result.2.tc.kernel names rt.earlyPassthrough) ∧
  SameOthers rt.tc.kernel result.2.tc.kernel names

/-- Every interface of the list has a name that resolves. -/
def Resolves (k : TcKernel) (names : List CStr) : Prop :=
  ∀ name ∈ names, name ≠ [] ∧ ∃ ifindex, k.ifNameToIndex name = some ifindex

/-- No other component's filter sits at a place of the mode on an interface of the list. -/
def NoForeignAt (k : TcKernel) (names : List CStr) (early : Bool) : Prop :=
  ∀ name ∈ names, ∀ ifindex, k.ifNameToIndex name = some ifindex → ∀ point label,
    k.programAt (lanspeedSlot ifindex early point) ≠ some (.foreign label)

/-- Kernels with the same devices and the same table are the same to the switch. -/
theorem everyIfaceCarries_congr {k k' : TcKernel} {names : List CStr} {early : Bool}
    (hdev : k'.devices = k.devices) (htable : k'.programAt = k.programAt) :
    EveryIfaceCarries k' names early ↔ EveryIfaceCarries k names early := by
  have hindex : k'.ifNameToIndex = k.ifNameToIndex := by
    funext name
    rw [TcKernel.ifNameToIndex, TcKernel.ifNameToIndex, hdev]
  have hcarries : ∀ ifindex, CarriesExactly k' ifindex early ↔ CarriesExactly k ifindex early := by
    intro ifindex
    constructor <;> intro h <;>
      exact ⟨by simpa only [htable] using h.own, by simpa only [htable] using h.only⟩
  rw [EveryIfaceCarries, EveryIfaceCarries, hindex]
  exact forall₂_congr fun name _ => forall₂_congr fun ifindex _ => hcarries ifindex

/-- Where the table is the same, the filters of the others are. -/
theorem sameOthers_of_programAt_eq {k k' : TcKernel} {names : List CStr}
    (htable : k'.programAt = k.programAt) : SameOthers k k' names := by
  intro f _
  rw [TcKernel.mem_filters_iff, TcKernel.mem_filters_iff, htable]

/-- A switch that leaves the devices and the table alone, and the mode, is a transaction. -/
theorem switchTransaction_of_same {names : List CStr} {want : Bool} {rt rt' : BpfRuntime}
    (hcarry : EveryIfaceCarries rt.tc.kernel names rt.earlyPassthrough)
    (hearly : rt'.earlyPassthrough = rt.earlyPassthrough)
    (hdev : rt'.tc.kernel.devices = rt.tc.kernel.devices)
    (htable : rt'.tc.kernel.programAt = rt.tc.kernel.programAt) :
    SwitchTransaction names want rt (false, rt') :=
  ⟨.inr ⟨rfl, hearly, (everyIfaceCarries_congr hdev htable).mpr hcarry⟩,
    sameOthers_of_programAt_eq htable⟩

section Switch

variable {names : List CStr} {early : Bool} {st : TcState}

/-- Where the own programs may go is a place of the mode on an interface of the list. -/
theorem OwnOn.slotOn {s : TcSlot} {p : TcProgram} (h : OwnOn st names early s p) :
    SlotOn st names early s := by
  obtain ⟨name, hname, obj, ifindex, point, hopens, hs, -⟩ := h
  exact ⟨name, hname, obj, ifindex, point, hopens, hs⟩

/-- On interfaces that carry exactly one mode, only other components' filters can sit at the places
of the other mode. -/
theorem programAt_eq_none_of_noForeign {want : Bool} (hne : want ≠ early)
    (hcarry : EveryIfaceCarries st.kernel names early) (hforeign : NoForeignAt st.kernel names want)
    {s : TcSlot} (hs : SlotOn st names want s) : st.kernel.programAt s = none := by
  obtain ⟨name, hname, obj, ifindex, point, hopens, rfl⟩ := hs
  by_contra htaken
  obtain ⟨p, hp⟩ := Option.ne_none_iff_exists'.mp htaken
  cases p with
  | foreign label => exact hforeign name hname ifindex hopens.resolves point label hp
  | lanspeed point' early' obj' =>
    obtain ⟨point'', hslot⟩ :=
      (hcarry name hname ifindex hopens.resolves).only _ _ rfl hp rfl
    exact hne (lanspeedSlot_inj.mp hslot).2.1

/-- A place of the current mode on an interface of the list holds the current mode's filter. -/
theorem programAt_slotOn (hcarry : EveryIfaceCarries st.kernel names early) {s : TcSlot}
    (hs : SlotOn st names early s) :
    ∃ p, st.kernel.programAt s = some p ∧ IsManaged st.kernel names ⟨s, p⟩ := by
  obtain ⟨name, hname, obj, ifindex, point, hopens, rfl⟩ := hs
  obtain ⟨obj', hp⟩ := (hcarry name hname ifindex hopens.resolves).own point
  exact ⟨_, hp, rfl, name, hname, hopens.resolves⟩

/-- A filter at an own place is a managed one. -/
theorem OwnOn.isManaged {s : TcSlot} {p : TcProgram} (h : OwnOn st names early s p) :
    IsManaged st.kernel names ⟨s, p⟩ := by
  obtain ⟨name, hname, obj, ifindex, point, hopens, rfl, rfl⟩ := h
  exact ⟨rfl, name, hname, hopens.resolves⟩

end Switch

/-- A failed pass that is rolled back leaves the table as it was. -/
theorem rollback_programAt {names : List CStr} {want early : Bool} {st st₁ st₂ : TcState}
    (hne : want ≠ early) (hcarry : EveryIfaceCarries st.kernel names early)
    (hforeign : NoForeignAt st.kernel names want) (hfills : Fills (OwnOn st names want) st st₁)
    (hdetached : PassDetached names want st₁ st₂) :
    st₂.kernel.programAt = st.kernel.programAt := by
  have hslot : ∀ s, SlotOn st₁ names want s ↔ SlotOn st names want s :=
    fun s => slotOn_congr hfills.devices hfills.obj
  funext s
  -- The rollback empties the places of the wanted mode, which were free before the pass.
  by_cases hs : SlotOn st names want s
  · rw [hdetached.emptied s ((hslot s).mpr hs),
      programAt_eq_none_of_noForeign hne hcarry hforeign hs]
  · rw [hdetached.rest s fun h => hs ((hslot s).mp h)]
    exact hfills.of_not_own fun p hp => hs hp.slotOn

/-- The table after a switch: own filters at the places of the wanted mode, nothing at those of the
old mode, and the rest as it was. -/
structure Switched (names : List CStr) (want early : Bool) (st st' : TcState) : Prop where
  devices : st'.kernel.devices = st.kernel.devices
  own : ∀ s, SlotOn st names want s →
    st.kernel.programAt s = none ∧ ∃ p, OwnOn st names want s p ∧ st'.kernel.programAt s = some p
  emptied : ∀ s, SlotOn st names early s → st'.kernel.programAt s = none
  rest : ∀ s, ¬ SlotOn st names want s → ¬ SlotOn st names early s →
    st'.kernel.programAt s = st.kernel.programAt s

/-- The places of two modes are different. -/
theorem not_slotOn_of_ne {st : TcState} {names : List CStr} {want early : Bool} (hne : want ≠ early)
    {s : TcSlot} (hs : SlotOn st names want s) : ¬ SlotOn st names early s := by
  rintro ⟨name, _, obj, ifindex, point, _, hs'⟩
  obtain ⟨name', _, obj', ifindex', point', _, rfl⟩ := hs
  exact hne (lanspeedSlot_inj.mp hs').2.1

/-- A successful pass over free places, the detaching of the old mode and the self-heal switch the
table. -/
theorem switched_of_pass {names : List CStr} {want early : Bool} {st st₁ st₂ st₃ : TcState}
    (hne : want ≠ early) (hfree : ∀ s, SlotOn st names want s → st.kernel.programAt s = none)
    (hfills : Fills (OwnOn st names want) st st₁)
    (hfilled : ∀ s, SlotOn st names want s → st₁.kernel.programAt s ≠ none)
    (hdetached : PassDetached names early st₁ st₂)
    (hheal : Fills (OwnOn st₂ names want) st₂ st₃) : Switched names want early st st₃ := by
  have hdev : st₂.kernel.devices = st.kernel.devices := hdetached.devices.trans hfills.devices
  have hobj : st₂.loader.obj = st.loader.obj := hdetached.obj.trans hfills.obj
  have hold : ∀ s, SlotOn st₁ names early s ↔ SlotOn st names early s :=
    fun s => slotOn_congr hfills.devices hfills.obj
  -- The old mode is detached elsewhere than at the places of the wanted mode.
  have hwant : ∀ s, SlotOn st names want s → st₂.kernel.programAt s = st₁.kernel.programAt s :=
    fun s hs => hdetached.rest s fun h => not_slotOn_of_ne hne hs ((hold s).mp h)
  -- The self-heal finds every place of the wanted mode filled.
  have hheals : ∀ s, st₃.kernel.programAt s = st₂.kernel.programAt s := by
    intro s
    rcases hheal.table s with heq | ⟨hnone, p, hp, -⟩
    · exact heq
    · have hs : SlotOn st names want s :=
        (hp.mono (fun _ h => h) hdev.symm hobj.symm).slotOn
      rw [hwant s hs] at hnone
      exact absurd hnone (hfilled s hs)
  refine ⟨hheal.devices.trans hdev, fun s hs => ⟨hfree s hs, ?_⟩, fun s hs => ?_,
    fun s hs hs' => ?_⟩
  · rw [hheals, hwant s hs]
    rcases hfills.table s with heq | ⟨-, p, hp, hfill⟩
    · exact absurd (heq.trans (hfree s hs)) (hfilled s hs)
    · exact ⟨p, hp, hfill⟩
  · rw [hheals]
    exact hdetached.emptied s ((hold s).mpr hs)
  · rw [hheals, hdetached.rest s fun h => hs' ((hold s).mp h)]
    exact hfills.of_not_own fun p hp => hs hp.slotOn

/-- After a switch every interface carries exactly the wanted mode. -/
theorem Switched.carries {names : List CStr} {want early : Bool} {st st' : TcState}
    (h : Switched names want early st st') (hcarry : EveryIfaceCarries st.kernel names early)
    {obj : ℕ} (hobj : st.loader.obj = some obj) (hnames : Resolves st.kernel names) :
    EveryIfaceCarries st'.kernel names want := by
  intro name hname ifindex hresolve
  rw [TcKernel.ifNameToIndex, h.devices] at hresolve
  have hopens : Opens st name obj ifindex := ⟨hobj, (hnames name hname).1, hresolve⟩
  refine ⟨fun point => ?_, fun s p hs hp hlanspeed => ?_⟩
  · obtain ⟨-, p, ⟨_, _, obj', _, point', _, hslot, rfl⟩, hp⟩ :=
      h.own _ ⟨name, hname, obj, ifindex, point, hopens, rfl⟩
    obtain ⟨-, -, rfl⟩ := lanspeedSlot_inj.mp hslot
    exact ⟨obj', hp⟩
  · by_cases hwant : SlotOn st names want s
    · obtain ⟨_, _, _, ifindex', point, _, rfl⟩ := hwant
      exact ⟨point, by rw [← hs]; rfl⟩
    · -- A lanspeed filter elsewhere would have been one of the old mode, which is gone.
      have hold : ¬ SlotOn st names early s := fun hold => by
        rw [h.emptied s hold] at hp
        cases hp
      rw [h.rest s hwant hold] at hp
      obtain ⟨point, rfl⟩ := (hcarry name hname ifindex hresolve).only s p hs hp hlanspeed
      exact absurd ⟨name, hname, obj, ifindex, point, hopens, rfl⟩ hold

/-- A switch leaves the other filters as they were. -/
theorem Switched.sameOthers {names : List CStr} {want early : Bool} {st st' : TcState}
    (h : Switched names want early st st') (hcarry : EveryIfaceCarries st.kernel names early) :
    SameOthers st.kernel st'.kernel names := by
  intro f hother
  rw [TcKernel.mem_filters_iff, TcKernel.mem_filters_iff]
  by_cases hwant : SlotOn st names want f.slot
  · obtain ⟨hnone, p, hp, hfill⟩ := h.own f.slot hwant
    rw [hnone, hfill]
    refine iff_of_false (fun hf => hother ?_) (by simp)
    obtain rfl := Option.some.inj hf
    exact hp.isManaged
  · by_cases hold : SlotOn st names early f.slot
    · obtain ⟨p, hp, hmanaged⟩ := programAt_slotOn hcarry hold
      rw [h.emptied _ hold, hp]
      refine iff_of_false (by simp) fun hf => hother ?_
      obtain rfl := Option.some.inj hf
      exact hmanaged
    · rw [h.rest _ hwant hold]

/-! ## The switch -/

/-- The self-heal keeps the mode, and fills places of that mode with own programs only. -/
theorem bpfRuntimeRecoverIfNeeded_fills (cfg : CollectorConfig) (envs : PassEnv)
    (names : List CStr) (reason : CStr) (rt : BpfRuntime) :
    let r := bpfRuntimeRecoverIfNeeded cfg envs names reason rt
    r.2.earlyPassthrough = rt.earlyPassthrough ∧
      Fills (OwnOn rt.tc names rt.earlyPassthrough) rt.tc r.2.tc := by
  intro r
  obtain ⟨hearly, -, htc⟩ := bpfRuntimeRecoverIfNeeded_tc cfg envs names reason rt
  refine ⟨hearly, ?_⟩
  rw [htc]
  split_ifs
  · exact recoverPass_fills envs rt.earlyPassthrough reason names rt.tc
  · exact (SameTables.refl _).fills

/-- A switch with open gates: all interfaces attach, the old mode is detached and the self-heal
runs; or an interface fails, and the wanted mode is detached. -/
inductive SwitchOutcome (envs : RefreshEnvs) (names : List CStr) (want : Bool) (rt : BpfRuntime) :
    Bool × BpfRuntime → Prop where
  | switched (st : TcState) (rt' : BpfRuntime)
      (attached : (attachPass envs.attach want names rt.tc).1 = true)
      (early : rt'.earlyPassthrough = want)
      (detached : PassDetached names rt.earlyPassthrough
        (attachPass envs.attach want names rt.tc).2 st)
      (healed : Fills (OwnOn st names want) st rt'.tc) :
        SwitchOutcome envs names want rt (true, rt')
  | rolledBack (rt' : BpfRuntime)
      (failed : (attachPass envs.attach want names rt.tc).1 = false)
      (early : rt'.earlyPassthrough = rt.earlyPassthrough)
      (detached : PassDetached names want (attachPass envs.attach want names rt.tc).2 rt'.tc) :
      SwitchOutcome envs names want rt (false, rt')

/-- With closed gates, or in the wanted mode already, the switch does nothing. -/
theorem bpfRuntimeRefreshAttachPolicy_closed {cfg : CollectorConfig} {envs : RefreshEnvs}
    {names : List CStr} {probe : RuntimeProbe} {rt : BpfRuntime}
    (h : bpfRuntimeActive cfg rt.collector = true →
      probe.daePreemptsBpfIngress = rt.earlyPassthrough) :
    bpfRuntimeRefreshAttachPolicy cfg envs names probe rt = (false, rt) := by
  unfold bpfRuntimeRefreshAttachPolicy
  cases hactive : bpfRuntimeActive cfg rt.collector with
  | false => rfl
  | true => rw [if_neg (by simp), if_pos (h hactive)]

/-- Where the policy changes and every detach works, the switch ends in one of its outcomes. -/
theorem bpfRuntimeRefreshAttachPolicy_open {cfg : CollectorConfig} {envs : RefreshEnvs}
    {names : List CStr} {probe : RuntimeProbe} {rt : BpfRuntime}
    (hactive : bpfRuntimeActive cfg rt.collector = true)
    (hne : probe.daePreemptsBpfIngress ≠ rt.earlyPassthrough)
    (hdetach : ∀ name point, (envs.detach name).detach point = none) :
    SwitchOutcome envs names probe.daePreemptsBpfIngress rt
      (bpfRuntimeRefreshAttachPolicy cfg envs names probe rt) := by
  have hpass := fun early st => detachPass_outcome hdetach early names st
  simp only [bpfRuntimeRefreshAttachPolicy, hactive, Bool.not_true, Bool.false_eq_true, if_false,
    if_neg hne]
  rcases hattach : attachPass envs.attach probe.daePreemptsBpfIngress names rt.tc with ⟨_ | _, tc⟩
  · refine .rolledBack _ (by rw [hattach]) rfl ?_
    rw [hattach]
    exact hpass _ _
  · obtain ⟨hearly, hfills⟩ := bpfRuntimeRecoverIfNeeded_fills cfg envs.recover names
      (if probe.daePreemptsBpfIngress then "dae_tc_preempt_policy_switch".toList
        else "dae_tc_preempt_policy_restore".toList)
      { rt with
        tc := detachPass envs.detach rt.earlyPassthrough names tc
        earlyPassthrough := probe.daePreemptsBpfIngress
        collector := bpfRuntimeResetRateState rt.collector }
    refine .switched _ _ (by rw [hattach]) hearly ?_ hfills
    rw [hattach]
    exact hpass _ _

/-- Without a loaded object no interface attaches. -/
theorem attachPass_of_not_loaded {envs : PassEnv} {early : Bool} {names : List CStr} {st : TcState}
    (hobj : st.loader.obj = none) (hok : (attachPass envs early names st).1 = true) :
    names = [] := by
  cases names with
  | nil => rfl
  | cons name names =>
    simp only [attachPass, lanspeedBpfAttachIfaceMode, openIface, hobj] at hok
    cases hok

/-- Without a loaded object a switch with open gates changes no filter. -/
theorem SwitchOutcome.transaction_of_not_loaded {envs : RefreshEnvs}
    {names : List CStr} {want : Bool}
    {rt : BpfRuntime} {result : Bool × BpfRuntime} (h : SwitchOutcome envs names want rt result)
    (hcarry : EveryIfaceCarries rt.tc.kernel names rt.earlyPassthrough)
    (hobj : rt.tc.loader.obj = none) : SwitchTransaction names want rt result := by
  have hslot : ∀ (st : TcState) early s, st.loader.obj = none → ¬ SlotOn st names early s := by
    rintro st early s hst ⟨_, _, _, _, _, hopens, _⟩
    exact absurd (hst.symm.trans hopens.loaded) (by simp)
  have hfills := attachPass_fills envs.attach want names rt.tc
  have hobj₁ := hfills.obj.trans hobj
  have htable₁ : (attachPass envs.attach want names rt.tc).2.kernel.programAt
      = rt.tc.kernel.programAt :=
    funext fun s => hfills.of_not_own fun p hp => hslot _ _ _ hobj hp.slotOn
  -- Every call fails at `openIface`, so the passes have no places to change.
  cases h with
  | rolledBack rt' failed early detached =>
    apply switchTransaction_of_same hcarry early (detached.devices.trans hfills.devices)
    rw [← htable₁]
    exact funext fun s => detached.rest s (hslot _ _ _ hobj₁)
  | switched st rt' attached early detached healed =>
    have hobj₂ := detached.obj.trans hobj₁
    have htable₂ : st.kernel.programAt = rt.tc.kernel.programAt := by
      rw [← htable₁]
      exact funext fun s => detached.rest s (hslot _ _ _ hobj₁)
    have htable : rt'.tc.kernel.programAt = rt.tc.kernel.programAt := by
      rw [← htable₂]
      exact funext fun s => healed.of_not_own fun p hp => hslot _ _ _ hobj₂ hp.slotOn
    refine ⟨.inl ⟨rfl, early, ?_⟩, sameOthers_of_programAt_eq htable⟩
    rw [attachPass_of_not_loaded hobj attached]
    exact fun name hname => absurd hname List.not_mem_nil

/-- With a loaded object, a switch with open gates is a transaction exactly when no other
component's filter is in the way. -/
theorem SwitchOutcome.transaction_iff {envs : RefreshEnvs} {names : List CStr} {want : Bool}
    {rt : BpfRuntime} {result : Bool × BpfRuntime} (h : SwitchOutcome envs names want rt result)
    (hcarry : EveryIfaceCarries rt.tc.kernel names rt.earlyPassthrough)
    (hnames : Resolves rt.tc.kernel names) {obj : ℕ} (hobj : rt.tc.loader.obj = some obj)
    (hne : want ≠ rt.earlyPassthrough) :
    SwitchTransaction names want rt result ↔ NoForeignAt rt.tc.kernel names want := by
  have hfills := attachPass_fills envs.attach want names rt.tc
  have hopens : ∀ name ∈ names, ∀ ifindex, rt.tc.kernel.ifNameToIndex name = some ifindex →
      Opens rt.tc name obj ifindex := fun name hname ifindex h => ⟨hobj, (hnames name hname).1, h⟩
  constructor
  · rintro ⟨hresult, hothers⟩ name hname ifindex hresolve point label hforeign
    have hslot : SlotOn rt.tc names want (lanspeedSlot ifindex want point) :=
      ⟨name, hname, obj, ifindex, point, hopens name hname ifindex hresolve, rfl⟩
    -- The filter is not lanspeed's, so it has to be there afterwards.
    have hkept := (hothers ⟨_, .foreign label⟩ fun h => by cases h.1).mpr
      (TcKernel.mem_filters_of_programAt hforeign)
    rw [TcKernel.mem_filters_iff] at hkept
    cases h with
    | rolledBack rt' failed early detached =>
      rw [detached.emptied _ ((slotOn_congr hfills.devices hfills.obj).mpr hslot)] at hkept
      cases hkept
    | switched st rt' attached early detached healed =>
      obtain ⟨-, -, hcarries⟩ := hresult.resolve_right fun h => by cases h.1
      have hdev := (healed.devices.trans detached.devices).trans hfills.devices
      obtain ⟨obj', hown⟩ := (hcarries name hname ifindex
        (by rw [TcKernel.ifNameToIndex, hdev]; exact hresolve)).own point
      rw [hkept] at hown
      cases hown
  · intro hforeign
    cases h with
    | rolledBack rt' failed early detached =>
      exact switchTransaction_of_same hcarry early (detached.devices.trans hfills.devices)
        (rollback_programAt hne hcarry hforeign hfills detached)
    | switched st rt' attached early detached healed =>
      have hfilled : ∀ s, SlotOn rt.tc names want s →
          (attachPass envs.attach want names rt.tc).2.kernel.programAt s ≠ none := by
        rintro s ⟨name, hname, obj, ifindex, point, ho, rfl⟩
        exact (attachPass_ok attached hname ho).2 point
      have hswitched : Switched names want rt.earlyPassthrough rt.tc rt'.tc :=
        switched_of_pass hne (fun s => programAt_eq_none_of_noForeign hne hcarry hforeign) hfills
          hfilled detached healed
      exact ⟨.inl ⟨rfl, early, hswitched.carries hcarry hobj hnames⟩, hswitched.sameOthers hcarry⟩

/-- When every interface carries exactly the current mode, `bpf_runtime_refresh_attach_policy` is a
transaction exactly when no other component's filter sits at a place of the wanted mode. -/
theorem switch_transaction_iff (cfg : CollectorConfig) (envs : RefreshEnvs) (names : List CStr)
    (probe : RuntimeProbe) (rt : BpfRuntime)
    (hcarry : EveryIfaceCarries rt.tc.kernel names rt.earlyPassthrough)
    (hnames : Resolves rt.tc.kernel names)
    (hdetach : ∀ name point, (envs.detach name).detach point = none) :
    SwitchTransaction names probe.daePreemptsBpfIngress rt
        (bpfRuntimeRefreshAttachPolicy cfg envs names probe rt) ↔
      (bpfRuntimeActive cfg rt.collector = true → rt.tc.loader.obj ≠ none →
        probe.daePreemptsBpfIngress ≠ rt.earlyPassthrough →
        NoForeignAt rt.tc.kernel names probe.daePreemptsBpfIngress) := by
  by_cases hopen : bpfRuntimeActive cfg rt.collector = true ∧
      probe.daePreemptsBpfIngress ≠ rt.earlyPassthrough
  · obtain ⟨hactive, hne⟩ := hopen
    have houtcome : SwitchOutcome envs names probe.daePreemptsBpfIngress rt
        (bpfRuntimeRefreshAttachPolicy cfg envs names probe rt) :=
      bpfRuntimeRefreshAttachPolicy_open hactive hne hdetach
    cases hobj : rt.tc.loader.obj with
    | none =>
      exact iff_of_true (houtcome.transaction_of_not_loaded hcarry hobj)
        fun _ hloaded => absurd rfl hloaded
    | some obj =>
      rw [houtcome.transaction_iff hcarry hnames hobj hne]
      exact ⟨fun h _ _ _ => h, fun h => h hactive (Option.some_ne_none _) hne⟩
  · have hclosed : bpfRuntimeActive cfg rt.collector = true →
        probe.daePreemptsBpfIngress = rt.earlyPassthrough :=
      fun hactive => by_contra fun hne => hopen ⟨hactive, hne⟩
    rw [bpfRuntimeRefreshAttachPolicy_closed hclosed]
    exact iff_of_true (switchTransaction_of_same hcarry rfl rfl rfl)
      fun hactive _ hne => absurd (hclosed hactive) hne

/-- `br-lan` carries the normal mode, and `dae` has a filter on its ingress. -/
def daeKernel (priority handle : UInt32) (hpref : priority ≠ lanspeedBpfTcPref) : TcKernel where
  devices := [⟨"br-lan".toList, 7, by decide⟩]
  clsact := [7]
  filters := [⟨lanspeedSlot 7 false .ingress, .lanspeed .ingress false 1⟩,
    ⟨lanspeedSlot 7 false .egress, .lanspeed .egress false 1⟩,
    ⟨⟨7, .ingress, priority, handle⟩, .foreign "dae".toList⟩]
  names_distinct := List.nodup_singleton _
  ifindexes_distinct := List.nodup_singleton _
  slots_distinct := by
    have hne : lanspeedBpfTcPref ≠ priority := hpref.symm
    simp [Keyed.Distinct, lanspeedSlot, hne]
  clsact_live := by simp
  filters_clsact := by simp [lanspeedSlot]

/-- The interface of the example resolves. -/
theorem daeKernel_resolves (priority handle : UInt32) (hpref : priority ≠ lanspeedBpfTcPref) :
    Resolves (daeKernel priority handle hpref) ["br-lan".toList] := by
  intro name hname
  obtain rfl := List.mem_singleton.mp hname
  exact ⟨by decide, 7, rfl⟩

/-- The interface of the example carries both filters of the default order. -/
theorem daeKernel_carries (priority handle : UInt32) (hpref : priority ≠ lanspeedBpfTcPref) :
    EveryIfaceCarries (daeKernel priority handle hpref) ["br-lan".toList] false := by
  intro name hname ifindex hresolve
  obtain rfl := List.mem_singleton.mp hname
  obtain rfl : 7 = ifindex := Option.some.inj hresolve
  refine ⟨fun point => ⟨1, ?_⟩, fun s p _ hp hlanspeed => ?_⟩
  · cases point <;> rfl
  · have hmem := TcKernel.mem_filters_of_programAt hp
    simp only [daeKernel, List.mem_cons, List.not_mem_nil, or_false, TcFilter.mk.injEq] at hmem
    obtain ⟨rfl, -⟩ | ⟨rfl, -⟩ | ⟨-, rfl⟩ := hmem
    · exact ⟨.ingress, rfl⟩
    · exact ⟨.egress, rfl⟩
    · cases hlanspeed

/-- The runtime in the normal mode over such a kernel. -/
def daeRuntime (priority handle : UInt32) (hpref : priority ≠ lanspeedBpfTcPref) : BpfRuntime where
  tc := { kernel := daeKernel priority handle hpref, loader := { LoaderState.init with
    obj := some 1 } }
  collector := .init true

/-- Calls that do not fail. -/
def noFaults : RefreshEnvs := ⟨fun _ => {}, fun _ => {}, fun _ => {}⟩

/-- The switch to the early order on a bridge where dae has put a filter. -/
theorem switch_transaction_dae :
    SwitchTransaction ["br-lan".toList] true (daeRuntime 2 1 (by decide))
      (bpfRuntimeRefreshAttachPolicy { enableBpf := true } noFaults ["br-lan".toList]
        { daePreemptsBpfIngress := true } (daeRuntime 2 1 (by decide))) := by
  refine (switch_transaction_iff _ _ _ _ _ (daeKernel_carries 2 1 (by decide))
    (daeKernel_resolves 2 1 (by decide)) fun _ _ =>
    rfl).mpr fun _ _ _ name hname ifindex hresolve point label h => ?_
  obtain rfl := List.mem_singleton.mp hname
  obtain rfl : 7 = ifindex := Option.some.inj hresolve
  cases point <;> cases h

/-- The filter of `dae` sits at pref 1 and handle 0x1eee: the ingress attach fails, and the rollback
deletes the filter. -/
theorem not_switch_transaction_dae :
    EveryIfaceCarries (daeRuntime 1 0x1eee (by decide)).tc.kernel ["br-lan".toList] false ∧
      Resolves (daeRuntime 1 0x1eee (by decide)).tc.kernel ["br-lan".toList] ∧
      ¬ SwitchTransaction ["br-lan".toList] true (daeRuntime 1 0x1eee (by decide))
        (bpfRuntimeRefreshAttachPolicy { enableBpf := true } noFaults ["br-lan".toList]
          { daePreemptsBpfIngress := true } (daeRuntime 1 0x1eee (by decide))) := by
  refine ⟨daeKernel_carries 1 0x1eee (by decide), daeKernel_resolves 1 0x1eee (by decide),
    fun ⟨_, hothers⟩ => ?_⟩
  have hkept :=
    (hothers ⟨⟨7, .ingress, 1, 0x1eee⟩, .foreign "dae".toList⟩ fun h => by cases h.1).mpr
    (TcKernel.mem_filters_of_programAt rfl)
  rw [TcKernel.mem_filters_iff] at hkept
  cases hkept

end Lanspeed
