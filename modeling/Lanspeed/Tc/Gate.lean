import Lanspeed.Tc.Policy
import Lanspeed.Lib.Machine

/-!
# The gate of the Full mode

`lanspeed_bpf_runtime_ok` reads a cached flag, `any_attached`. `lanspeed_bpf_ensure_attached` sets
it from the table of attached hooks when it succeeds and leaves it alone when it returns early, so
after a hook check in which no interface works the flag is that of the check before. The gate is
sound in a run when every hook check finds or puts a lanspeed filter, or cannot open the gate.
-/

namespace Lanspeed

/-! ## One place -/

/-- The place is filled for the query, or its filter can be attached. -/
def Fillable (env : TcCallEnv) (s : TcSlot) (st : TcState) : Prop :=
  hookPresent env s st = true ∨ env.Attaches s st.kernel

section Place

variable {env : TcCallEnv} {ifname : CStr} {s : TcSlot} {program : TcProgram} {st : TcState}

/-- `attach_point` succeeds where its filter can be attached. -/
theorem attachPoint_of_attaches (hattaches : env.Attaches s st.kernel)
    (hlive : s.ifindex ∈ st.kernel.devices.map NetDevice.ifindex) :
    (attachPoint env ifname s program false st).1 = none := by
  rcases hattaches.hook with hcreate | ⟨hexists, hclsact⟩
  · exact attachPoint_of_free ifname program hcreate hattaches.attach hlive hattaches.free
  · obtain ⟨k, hk⟩ := TcKernel.attach_of_free program false hclsact hattaches.free
    simp only [attachPoint, hexists, withFault, ne_eq, not_true_eq_false, if_false, attachFilter,
      hattaches.attach, hk]

variable (env ifname program) in
/-- A place is filled after `ensurePoint` exactly when it could be. -/
theorem ensurePoint_eq_none_iff (hlive : s.ifindex ∈ st.kernel.devices.map NetDevice.ifindex) :
    (ensurePoint env ifname s program st).1 = none ↔ Fillable env s st := by
  constructor
  · intro hok
    rcases ensurePoint_cases env ifname s program st with ⟨-, hfilled⟩ | ⟨hsome, -⟩
    · exact hfilled.fillable
    · exact absurd hok hsome
  · intro hfill
    unfold ensurePoint
    cases hpresent : hookPresent env s st with
    | true => rfl
    | false =>
      have hattaches : env.Attaches s st.kernel := hfill.resolve_left (by simp [hpresent])
      exact attachPoint_of_attaches hattaches hlive

/-- Filling a place gives no other interface a clsact qdisc and takes none away. -/
theorem clsact_ensurePoint {i : ℕ} (hi : i ≠ s.ifindex) :
    i ∈ (ensurePoint env ifname s program st).2.kernel.clsact ↔ i ∈ st.kernel.clsact := by
  have hfilter : ∀ created (st' : TcState),
      (attachFilter env ifname s program false created st').2.kernel.clsact =
        st'.kernel.clsact := by
    intro created st'
    unfold attachFilter
    cases hattach : withFault (env.attach s.point) (st'.kernel.attach s program false) with
    | error err =>
      dsimp only
      split_ifs <;> rfl
    | ok kernel =>
      obtain ⟨-, hok⟩ := withFault_ok hattach
      simp only [TcKernel.attach, Bool.false_eq_true, if_false] at hok
      split_ifs at hok with hclsact hs
      obtain rfl := Except.ok.inj hok
      rfl
  unfold ensurePoint
  split_ifs
  · unfold attachPoint
    cases hcreate : withFault (env.hookCreate s.point) (st.kernel.hookCreate s.ifindex) with
    | ok kernel =>
      obtain ⟨-, hok⟩ := withFault_ok hcreate
      unfold TcKernel.hookCreate at hok
      split_ifs at hok with hmem hdev
      obtain rfl := Except.ok.inj hok
      simp only
      rw [hfilter, List.mem_cons, or_iff_right hi]
    | error err =>
      dsimp only
      split_ifs
      · rfl
      · rw [hfilter]
  · rfl

/-- The flags of the gate that a loader function leaves alone. -/
structure SameFlags (st st' : TcState) : Prop where
  objectLoaded : st'.loader.status.objectLoaded = st.loader.status.objectLoaded
  anyAttached : st'.loader.status.anyAttached = st.loader.status.anyAttached

/-- Where the status is the same but for its text, its flags are the same. -/
theorem SameStatus.flags {st st' : TcState} (h : SameStatus st st') : SameFlags st st' := by
  obtain ⟨text, hstatus⟩ := h
  exact ⟨by rw [hstatus], by rw [hstatus]⟩

/-- The table of attached hooks is not empty after a hook was to be recorded in it. -/
theorem length_attached_trackHook_pos (l : LoaderState) (s : TcSlot) (created : Bool) :
    0 < (l.trackHook s created).attached.length := by
  rw [LoaderState.trackHook]
  split_ifs with hnew
  · simp
  · by_contra hempty
    have hnil : l.attached = [] := List.length_eq_zero_iff.mp (by omega)
    refine hnew ⟨?_, ?_⟩
    · simp [LoaderState.hookTracked, hnil]
    · rw [hnil]
      decide

end Place

/-! ## One interface -/

/-- `attach_point` attaches a filter at the place `s` of an interface that has a clsact qdisc by
then. -/
structure AttachesLater (env : TcCallEnv) (s : TcSlot) (k : TcKernel) : Prop where
  attach : env.attach s.point = none
  hook : env.hookCreate s.point = none ∨ env.hookCreate s.point = some .eexist
  free : k.programAt s = none

/-- `lanspeed_bpf_ensure_attached` puts a filter on the interface: at the ingress place, or at the
egress place when there is a filter at the ingress place. -/
def PutsFilter (env : TcCallEnv) (ifname : CStr) (early : Bool) (st : TcState) : Prop :=
  ∃ obj ifindex, Opens st ifname obj ifindex ∧
    (env.Attaches (lanspeedSlot ifindex early .ingress) st.kernel ∨
      hookPresent env (lanspeedSlot ifindex early .ingress) st = true ∧
        AttachesLater env (lanspeedSlot ifindex early .egress) st.kernel)

/-- `lanspeed_bpf_ensure_attached` succeeds on the interface: each of its places is filled, or can
be. -/
def EnsureWorks (env : TcCallEnv) (ifname : CStr) (early : Bool) (st : TcState) : Prop :=
  ∃ obj ifindex, Opens st ifname obj ifindex ∧
    Fillable env (lanspeedSlot ifindex early .ingress) st ∧
      (hookPresent env (lanspeedSlot ifindex early .egress) st = true ∨
        AttachesLater env (lanspeedSlot ifindex early .egress) st.kernel)

/-- How a call of `lanspeed_bpf_ensure_attached` ends: before its first place, at its first place,
at its second place, or with both places filled. Only then it counts the attached hooks. -/
inductive EnsureOutcome (env : TcCallEnv) (ifname : CStr) (early : Bool)
    (st st' : TcState) : Prop where
  | closed (fails : ∀ obj ifindex, ¬ Opens st ifname obj ifindex) (same : SameTables st st')
      (flags : SameFlags st st')
  | nothing (obj ifindex : ℕ) (opens : Opens st ifname obj ifindex)
      (fails : ¬ Fillable env (lanspeedSlot ifindex early .ingress) st) (same : SameTables st st')
      (flags : SameFlags st st')
  | ingress (obj ifindex : ℕ) (opens : Opens st ifname obj ifindex) (st₁ : TcState)
      (filled : PointFilled env (lanspeedSlot ifindex early .ingress) (.lanspeed .ingress early obj)
        st st₁)
      (fails : ¬ Fillable env (lanspeedSlot ifindex early .egress) st₁) (same : SameTables st₁ st')
      (flags : SameFlags st st')
  | both (obj ifindex : ℕ) (opens : Opens st ifname obj ifindex) (st₁ st₂ : TcState)
      (filled : PointFilled env (lanspeedSlot ifindex early .ingress) (.lanspeed .ingress early obj)
        st st₁)
      (filled' : PointFilled env (lanspeedSlot ifindex early .egress) (.lanspeed .egress early obj)
        st₁ st₂)
      (same : SameTables st₂ st')
      (loaded : st'.loader.status.objectLoaded = st.loader.status.objectLoaded)
      (counted : st'.loader.status.anyAttached = true)

section Interface

variable {env : TcCallEnv} {ifname : CStr} {early : Bool} {st : TcState}

/-- Two steps that keep the flags keep them together. -/
theorem SameFlags.trans {st' st'' : TcState} (h : SameFlags st st') (h' : SameFlags st' st'') :
    SameFlags st st'' :=
  ⟨h'.objectLoaded.trans h.objectLoaded, h'.anyAttached.trans h.anyAttached⟩

variable (env ifname early st) in
/-- Every call of `lanspeed_bpf_ensure_attached` ends in one of these ways. -/
theorem ensureAttached_ensureOutcome (reason : CStr) :
    EnsureOutcome env ifname early st (lanspeedBpfEnsureAttached env ifname early reason st).2 := by
  unfold lanspeedBpfEnsureAttached
  rcases hopen : openIface env ifname st with ⟨err, st'⟩ | ⟨obj, ifindex⟩
  · refine .closed (fun obj ifindex hopens => ?_) (openIface_error hopen)
      (openIface_sameStatus hopen).flags
    rw [openIface_ok_iff.mpr hopens] at hopen
    cases hopen
  · have hopens := openIface_ok_iff.mp hopen
    have hflags : ∀ (s : TcSlot) (program : TcProgram) (st : TcState),
        SameFlags st (ensurePoint env ifname s program st).2 :=
      fun s program st => (sameStatus_ensurePoint env ifname s program st).flags
    have hcases := ensurePoint_cases env ifname (lanspeedSlot ifindex early .ingress)
      (.lanspeed .ingress early obj) st
    have hworks := ensurePoint_eq_none_iff (s := lanspeedSlot ifindex early .ingress) env ifname
      (.lanspeed .ingress early obj) hopens.live
    have hflags₁ := hflags (lanspeedSlot ifindex early .ingress) (.lanspeed .ingress early obj) st
    simp only
    rcases hingress : ensurePoint env ifname (lanspeedSlot ifindex early .ingress)
      (.lanspeed .ingress early obj) st with ⟨_ | err, st₁⟩
    · rw [hingress] at hcases hflags₁
      have hfilled : PointFilled env (lanspeedSlot ifindex early .ingress)
          (.lanspeed .ingress early obj) st st₁ := by simpa using hcases
      have hcases' := ensurePoint_cases env ifname (lanspeedSlot ifindex early .egress)
        (.lanspeed .egress early obj) st₁
      have hworks' := ensurePoint_eq_none_iff (s := lanspeedSlot ifindex early .egress) env ifname
        (.lanspeed .egress early obj) (hopens.mono hfilled.devices hfilled.obj).live
      have hflags₂ := hflags (lanspeedSlot ifindex early .egress) (.lanspeed .egress early obj) st₁
      simp only
      rcases hegress : ensurePoint env ifname (lanspeedSlot ifindex early .egress)
        (.lanspeed .egress early obj) st₁ with ⟨_ | err, st₂⟩
      · rw [hegress] at hcases' hflags₂
        have hfilled' : PointFilled env (lanspeedSlot ifindex early .egress)
            (.lanspeed .egress early obj) st₁ st₂ := by simpa using hcases'
        have hpos : 0 < st₂.loader.attached.length := by
          obtain ⟨created, hattached⟩ := hfilled'.attached
          rw [hattached]
          exact length_attached_trackHook_pos _ _ _
        have hloaded := (hflags₁.trans hflags₂).objectLoaded
        refine .both obj ifindex hopens st₁ st₂ hfilled hfilled' ?_ ?_ ?_
        · dsimp only
          split_ifs <;> exact ⟨rfl, rfl, rfl, rfl⟩
        · dsimp only
          split_ifs <;> exact hloaded
        · dsimp only
          split_ifs <;> exact decide_eq_true hpos
      · rw [hegress] at hcases' hworks' hflags₂
        refine .ingress obj ifindex hopens st₁ hfilled (fun hfill => ?_) (by simpa using hcases')
          (hflags₁.trans hflags₂)
        exact absurd (hworks'.mpr hfill) (Option.some_ne_none err)
    · rw [hingress] at hcases hworks hflags₁
      refine .nothing obj ifindex hopens (fun hfill => ?_) (by simpa using hcases) hflags₁
      exact absurd (hworks.mpr hfill) (Option.some_ne_none err)

/-- An interface opens with one object and one index only. -/
theorem Opens.unique {obj obj' ifindex ifindex' : ℕ} (h : Opens st ifname obj ifindex)
    (h' : Opens st ifname obj' ifindex') : obj = obj' ∧ ifindex = ifindex' :=
  ⟨Option.some.inj (h.loaded.symm.trans h'.loaded),
    Option.some.inj (h.resolves.symm.trans h'.resolves)⟩

/-- Once the ingress place is filled, the egress place can be filled when no call fails
by itself. -/
theorem fillable_egress_iff {obj ifindex : ℕ} {st₁ : TcState}
    (hfilled : PointFilled env (lanspeedSlot ifindex early .ingress) (.lanspeed .ingress early obj)
      st st₁) :
    Fillable env (lanspeedSlot ifindex early .egress) st₁ ↔
      hookPresent env (lanspeedSlot ifindex early .egress) st = true ∨
        AttachesLater env (lanspeedSlot ifindex early .egress) st.kernel := by
  have hsame : st₁.kernel.programAt (lanspeedSlot ifindex early .egress)
      = st.kernel.programAt (lanspeedSlot ifindex early .egress) := by
    rw [hfilled.programAt, Function.update_of_ne (by simp [lanspeedSlot_inj])]
  -- The filter at the ingress place stands on a clsact qdisc.
  have hclsact : ifindex ∈ st₁.kernel.clsact := by
    have hingress := congrFun hfilled.programAt (lanspeedSlot ifindex early .ingress)
    rw [Function.update_self] at hingress
    exact st₁.kernel.filters_clsact _ (TcKernel.mem_filters_of_programAt hingress)
  rw [Fillable, hookPresent, hookPresent, hsame]
  refine or_congr_right ⟨fun h => ⟨h.attach, h.hook.imp_right And.left, ?_⟩,
    fun h => ⟨h.attach, ?_, ?_⟩⟩
  · rw [← hsame]
    exact h.free
  · exact h.hook.imp_right fun hexists => ⟨hexists, hclsact⟩
  · rw [hsame]
    exact h.free

/-- The flag `any_attached` after a call: it was set before, or the call succeeds. -/
theorem EnsureOutcome.anyAttached_iff {st' : TcState} (h : EnsureOutcome env ifname early st st') :
    st'.loader.status.anyAttached = true ↔
      st.loader.status.anyAttached = true ∨ EnsureWorks env ifname early st := by
  cases h with
  | closed fails same flags =>
    rw [flags.anyAttached, or_iff_left]
    rintro ⟨obj, ifindex, hopens, -⟩
    exact fails obj ifindex hopens
  | nothing obj ifindex opens fails same flags =>
    rw [flags.anyAttached, or_iff_left]
    rintro ⟨obj', ifindex', hopens', hingress, -⟩
    obtain ⟨rfl, rfl⟩ := opens.unique hopens'
    exact fails hingress
  | ingress obj ifindex opens st₁ filled fails same flags =>
    rw [flags.anyAttached, or_iff_left]
    rintro ⟨obj', ifindex', hopens', -, hegress⟩
    obtain ⟨rfl, rfl⟩ := opens.unique hopens'
    exact fails ((fillable_egress_iff filled).mpr hegress)
  | both obj ifindex opens st₁ st₂ filled filled' same loaded counted =>
    refine iff_of_true counted (.inr ⟨obj, ifindex, opens, filled.fillable, ?_⟩)
    exact (fillable_egress_iff filled).mp filled'.fillable

/-- Ensuring an interface does not change whether the object is loaded. -/
theorem EnsureOutcome.objectLoaded {st' : TcState} (h : EnsureOutcome env ifname early st st') :
    st'.loader.status.objectLoaded = st.loader.status.objectLoaded := by
  cases h with
  | closed fails same flags => exact flags.objectLoaded
  | nothing obj ifindex opens fails same flags => exact flags.objectLoaded
  | ingress obj ifindex opens st₁ filled fails same flags => exact flags.objectLoaded
  | both obj ifindex opens st₁ st₂ filled filled' same loaded counted => exact loaded

/-- Some lanspeed filter is on an interface of the list. -/
def HasManaged (k : TcKernel) (names : List CStr) : Prop := ∃ f ∈ k.filters, IsManaged k names f

/-- The table has a managed filter exactly when one of lanspeed's is on one of the interfaces. -/
theorem hasManaged_iff {k : TcKernel} {names : List CStr} :
    HasManaged k names ↔ ∃ s p, k.programAt s = some p ∧ p.isLanspeed = true ∧
      ∃ name ∈ names, k.ifNameToIndex name = some s.ifindex := by
  constructor
  · rintro ⟨f, hf, hown, hname⟩
    exact ⟨f.slot, f.program, TcKernel.mem_filters_iff.mp hf, hown, hname⟩
  · rintro ⟨s, p, hp, hown, hname⟩
    exact ⟨⟨s, p⟩, TcKernel.mem_filters_of_programAt hp, hown, hname⟩

/-- A call of `lanspeed_bpf_ensure_attached` fills places with own programs only. -/
theorem EnsureOutcome.fills {st' : TcState} (h : EnsureOutcome env ifname early st st') :
    Fills (OwnOn st [ifname] early) st st' := by
  cases h with
  | closed fails same flags => exact same.fills
  | nothing obj ifindex opens fails same flags => exact same.fills
  | ingress obj ifindex opens st₁ filled fails same flags =>
    exact (IfaceOutcome.ingress obj ifindex opens filled same).fills
  | both obj ifindex opens st₁ st₂ filled filled' same loaded counted =>
    exact (IfaceOutcome.both obj ifindex opens filled filled' same).fills

/-- A place that a call fills is one where it puts a filter. -/
theorem EnsureOutcome.putsFilter {st' : TcState} (h : EnsureOutcome env ifname early st st')
    {s : TcSlot} (hfree : st.kernel.programAt s = none) (hfilled : st'.kernel.programAt s ≠ none) :
    PutsFilter env ifname early st := by
  have hattaches : ∀ {s : TcSlot} {st : TcState}, st.kernel.programAt s = none →
      Fillable env s st → env.Attaches s st.kernel := by
    intro s st hnone hfill
    apply hfill.resolve_left
    simp [hookPresent, hnone]
  cases h with
  | closed fails same flags => exact absurd (same.programAt ▸ hfree) hfilled
  | nothing obj ifindex opens fails same flags => exact absurd (same.programAt ▸ hfree) hfilled
  | ingress obj ifindex opens st₁ filled fails same flags =>
    rw [same.programAt, filled.programAt, Function.update_apply] at hfilled
    split_ifs at hfilled with hs
    · subst hs
      exact ⟨obj, ifindex, opens, .inl (hattaches hfree filled.fillable)⟩
    · exact absurd hfree hfilled
  | both obj ifindex opens st₁ st₂ filled filled' same loaded counted =>
    rcases filled.fillable with hpresent | hingress
    · refine ⟨obj, ifindex, opens, .inr ⟨hpresent, ?_⟩⟩
      -- The ingress place is taken, so the place that is filled is the egress place.
      obtain ⟨p, hp⟩ := Option.isSome_iff_exists.mp (Bool.and_eq_true_iff.mp hpresent).2
      have hegress : s = lanspeedSlot ifindex early .egress := by
        by_contra hne
        rw [same.programAt, filled'.programAt, Function.update_of_ne hne, filled.programAt,
          Function.update_apply] at hfilled
        split_ifs at hfilled with hs
        · rw [hs, hp] at hfree
          cases hfree
        · exact hfilled hfree
      apply ((fillable_egress_iff filled).mp filled'.fillable).resolve_left
      rw [hookPresent, ← hegress, hfree]
      simp
    · exact ⟨obj, ifindex, opens, .inl hingress⟩

/-- Where a call puts a filter, a lanspeed filter is on the interface afterwards. -/
theorem EnsureOutcome.programAt_of_puts {st' : TcState}
    (h : EnsureOutcome env ifname early st st') (hputs : PutsFilter env ifname early st) :
    ∃ obj ifindex point, Opens st ifname obj ifindex ∧
      st'.kernel.programAt (lanspeedSlot ifindex early point) = some
        (.lanspeed point early obj) := by
  obtain ⟨obj', ifindex', hopens', hputs⟩ := hputs
  have hingress : Fillable env (lanspeedSlot ifindex' early .ingress) st :=
    hputs.elim .inr fun hboth => .inl hboth.1
  cases h with
  | closed fails same flags => exact absurd hopens' (fails obj' ifindex')
  | nothing obj ifindex opens fails same flags =>
    obtain ⟨rfl, rfl⟩ := opens.unique hopens'
    exact absurd hingress fails
  | ingress obj ifindex opens st₁ filled fails same flags =>
    obtain ⟨rfl, rfl⟩ := opens.unique hopens'
    rcases hputs with hattaches | ⟨-, hlater⟩
    · refine ⟨obj, ifindex, .ingress, opens, ?_⟩
      rw [same.programAt, filled.programAt, Function.update_self, hattaches.free]
      rfl
    · exact absurd ((fillable_egress_iff filled).mpr (.inr hlater)) fails
  | both obj ifindex opens st₁ st₂ filled filled' same loaded counted =>
    obtain ⟨rfl, rfl⟩ := opens.unique hopens'
    rcases hputs with hattaches | ⟨-, hlater⟩
    · refine ⟨obj, ifindex, .ingress, opens, ?_⟩
      rw [same.programAt, filled'.programAt, Function.update_of_ne (by simp [lanspeedSlot_inj]),
        filled.programAt, Function.update_self, hattaches.free]
      rfl
    · refine ⟨obj, ifindex, .egress, opens, ?_⟩
      rw [same.programAt, filled'.programAt, Function.update_self, filled.programAt,
        Function.update_of_ne (by simp [lanspeedSlot_inj]), hlater.free]
      rfl

/-- A lanspeed filter is on an interface of the list after a call when there was one before, or the
call puts one. -/
theorem EnsureOutcome.hasManaged_iff {st' : TcState} (h : EnsureOutcome env ifname early st st')
    {names : List CStr} (hname : ifname ∈ names) :
    HasManaged st'.kernel names ↔ HasManaged st.kernel names ∨ PutsFilter env ifname early st := by
  have hfills := h.fills
  have hindex : st'.kernel.ifNameToIndex = st.kernel.ifNameToIndex := by
    funext name
    rw [TcKernel.ifNameToIndex, TcKernel.ifNameToIndex, hfills.devices]
  rw [Lanspeed.hasManaged_iff, Lanspeed.hasManaged_iff, hindex]
  constructor
  · rintro ⟨s, p, hp, hown, hon⟩
    rcases hfills.table s with hsame | ⟨hfree, -⟩
    · exact .inl ⟨s, p, hsame ▸ hp, hown, hon⟩
    · exact .inr (h.putsFilter hfree (by rw [hp]; exact Option.some_ne_none p))
  · rintro (⟨s, p, hp, hown, hon⟩ | hputs)
    · refine ⟨s, p, ?_, hown, hon⟩
      rw [hfills.of_taken (by rw [hp]; exact Option.some_ne_none p), hp]
    · obtain ⟨obj, ifindex, point, hopens, hp⟩ := h.programAt_of_puts hputs
      exact ⟨_, _, hp, rfl, ifname, hname, hopens.resolves⟩

end Interface

/-! ## The hook check -/

/-- A call on one interface leaves the other interfaces as they are. -/
structure SameElsewhere (ifname : CStr) (st st' : TcState) : Prop where
  devices : st'.kernel.devices = st.kernel.devices
  obj : st'.loader.obj = st.loader.obj
  programAt : ∀ s, st.kernel.ifNameToIndex ifname ≠ some s.ifindex →
    st'.kernel.programAt s = st.kernel.programAt s
  clsact : ∀ i, st.kernel.ifNameToIndex ifname ≠ some i →
    (i ∈ st'.kernel.clsact ↔ i ∈ st.kernel.clsact)

/-- Ensuring one interface leaves the others as they are. -/
theorem ensureAttached_sameElsewhere (env : TcCallEnv) (ifname : CStr) (early : Bool)
    (reason : CStr) (st : TcState) :
    SameElsewhere ifname st (lanspeedBpfEnsureAttached env ifname early reason st).2 := by
  have hfills := (ensureAttached_outcome env ifname early st reason).fills
  refine ⟨hfills.devices, hfills.obj, fun s hs => hfills.of_not_own fun p hp => ?_, fun i hi => ?_⟩
  · obtain ⟨name, hname, obj, ifindex, point, hopens, rfl, -⟩ := hp
    obtain rfl := List.mem_singleton.mp hname
    exact hs hopens.resolves
  · unfold lanspeedBpfEnsureAttached
    rcases hopen : openIface env ifname st with ⟨err, st'⟩ | ⟨obj, ifindex⟩
    · have hkernel : st'.kernel = st.kernel := by
        unfold openIface at hopen
        split at hopen
        · cases hopen
          rfl
        · split_ifs at hopen
          · cases hopen
            rfl
          · split at hopen
            · cases hopen
              rfl
            · cases hopen
      show i ∈ st'.kernel.clsact ↔ _
      rw [hkernel]
    · have hne : i ≠ ifindex := by
        rintro rfl
        exact hi (openIface_ok_iff.mp hopen).resolves
      have hpoint : ∀ (point : TcAttachPoint) (program : TcProgram) (st : TcState),
          i ∈ (ensurePoint env ifname (lanspeedSlot ifindex early point)
            program st).2.kernel.clsact ↔
            i ∈ st.kernel.clsact := fun _ _ _ => clsact_ensurePoint hne
      have hingress := hpoint .ingress (.lanspeed .ingress early obj) st
      simp only
      rcases hrun : ensurePoint env ifname (lanspeedSlot ifindex early .ingress)
        (.lanspeed .ingress early obj) st with ⟨_ | err, st₁⟩
      · have hegress := hpoint .egress (.lanspeed .egress early obj) st₁
        rw [hrun] at hingress
        simp only
        rcases hrun' : ensurePoint env ifname (lanspeedSlot ifindex early .egress)
          (.lanspeed .egress early obj) st₁ with ⟨_ | err, st₂⟩
        · rw [hrun'] at hegress
          refine Iff.trans ?_ (hegress.trans hingress)
          dsimp only
          split_ifs <;> exact Iff.rfl
        · rw [hrun'] at hegress
          exact hegress.trans hingress
      · rw [hrun] at hingress
        exact hingress

section Other

variable {ifname name : CStr} {st st' : TcState}

/-- Different names are those of different interfaces. -/
theorem ifNameToIndex_ne {k : TcKernel} (hne : name ≠ ifname) {i : ℕ}
    (hi : k.ifNameToIndex name = some i) : k.ifNameToIndex ifname ≠ some i := by
  intro hi'
  obtain ⟨d, hd, rfl⟩ := Option.map_eq_some_iff.mp hi
  obtain ⟨d', hd', hindex⟩ := Option.map_eq_some_iff.mp hi'
  obtain rfl := k.ifindexes_distinct.eq_of_key_eq (Keyed.mem_of_lookup hd') (Keyed.mem_of_lookup hd)
    hindex
  exact hne ((Keyed.key_of_lookup hd).symm.trans (Keyed.key_of_lookup hd'))

/-- A call on one interface does not change what opens. -/
theorem SameElsewhere.opens_iff (h : SameElsewhere ifname st st') {obj ifindex : ℕ} :
    Opens st' name obj ifindex ↔ Opens st name obj ifindex :=
  ⟨fun hopens => hopens.mono h.devices.symm h.obj.symm, fun hopens => hopens.mono h.devices h.obj⟩

/-- A call on one interface does not change the filters that are present on another. -/
theorem SameElsewhere.hookPresent_eq (h : SameElsewhere ifname st st') {s : TcSlot}
    (hs : st.kernel.ifNameToIndex ifname ≠ some s.ifindex) (env : TcCallEnv) :
    hookPresent env s st' = hookPresent env s st := by
  rw [hookPresent, hookPresent, h.programAt s hs]

/-- A call on one interface does not change what can be attached on another. -/
theorem SameElsewhere.attaches_iff (h : SameElsewhere ifname st st') {s : TcSlot}
    (hs : st.kernel.ifNameToIndex ifname ≠ some s.ifindex) (env : TcCallEnv) :
    env.Attaches s st'.kernel ↔ env.Attaches s st.kernel := by
  constructor
  · intro ha
    exact ⟨ha.attach, ha.hook.imp_right fun hook => ⟨hook.1, (h.clsact _ hs).mp hook.2⟩,
      (h.programAt s hs).symm.trans ha.free⟩
  · intro ha
    exact ⟨ha.attach, ha.hook.imp_right fun hook => ⟨hook.1, (h.clsact _ hs).mpr hook.2⟩,
      (h.programAt s hs).trans ha.free⟩

/-- A call on one interface does not change what can be attached on another behind the first
filter. -/
theorem SameElsewhere.attachesLater_iff (h : SameElsewhere ifname st st') {s : TcSlot}
    (hs : st.kernel.ifNameToIndex ifname ≠ some s.ifindex) (env : TcCallEnv) :
    AttachesLater env s st'.kernel ↔ AttachesLater env s st.kernel := by
  constructor
  · exact fun ha => ⟨ha.attach, ha.hook, (h.programAt s hs).symm.trans ha.free⟩
  · exact fun ha => ⟨ha.attach, ha.hook, (h.programAt s hs).trans ha.free⟩

/-- What holds of the interface that a call opens stays the same where the places of others do. -/
theorem SameElsewhere.exists_opens_congr (h : SameElsewhere ifname st st') (hne : name ≠ ifname)
    {P P' : ℕ → ℕ → Prop}
    (hcongr : ∀ obj ifindex, st.kernel.ifNameToIndex ifname ≠ some ifindex →
      (P' obj ifindex ↔ P obj ifindex)) :
    (∃ obj ifindex, Opens st' name obj ifindex ∧ P' obj ifindex) ↔
      ∃ obj ifindex, Opens st name obj ifindex ∧ P obj ifindex := by
  apply exists_congr
  intro obj
  apply exists_congr
  intro ifindex
  rw [h.opens_iff]
  apply and_congr_right
  intro hopens
  exact hcongr obj ifindex (ifNameToIndex_ne hne hopens.resolves)

variable (env : TcCallEnv) (early : Bool)

/-- What a call would do on another interface stays the same. -/
theorem SameElsewhere.putsFilter_iff (h : SameElsewhere ifname st st') (hne : name ≠ ifname) :
    PutsFilter env name early st' ↔ PutsFilter env name early st := by
  apply h.exists_opens_congr hne
  intro obj ifindex hother
  rw [h.attaches_iff hother, h.hookPresent_eq hother, h.attachesLater_iff hother]

/-- A call on one interface does not change whether ensuring another would work. -/
theorem SameElsewhere.ensureWorks_iff (h : SameElsewhere ifname st st') (hne : name ≠ ifname) :
    EnsureWorks env name early st' ↔ EnsureWorks env name early st := by
  apply h.exists_opens_congr hne
  intro obj ifindex hother
  rw [Fillable, Fillable, h.attaches_iff hother, h.hookPresent_eq hother, h.hookPresent_eq hother,
    h.attachesLater_iff hother]

end Other

section Pass

variable {envs : PassEnv} {early : Bool} {reason : CStr}

/-- What is added on one interface and then on the rest of a list is added on the list: the rest
does not depend on what the first call did. -/
theorem exists_mem_cons_congr {name : CStr} {names : List CStr} (hnodup : (name :: names).Nodup)
    {P P' : CStr → Prop} (hcongr : ∀ n, n ≠ name → (P' n ↔ P n)) {before : Prop} :
    ((before ∨ P name) ∨ ∃ n ∈ names, P' n) ↔ before ∨ ∃ n ∈ name :: names, P n := by
  have hfresh := (List.nodup_cons.mp hnodup).1
  have htail : (∃ n ∈ names, P' n) ↔ ∃ n ∈ names, P n := by
    refine exists_congr fun n => and_congr_right fun hn => hcongr n ?_
    rintro rfl
    exact hfresh hn
  rw [htail, List.exists_mem_cons_iff, or_assoc]

/-- A lanspeed filter is on an interface of the list after a hook check when there was one before,
or the check puts one. -/
theorem hasManaged_recoverPass_iff {names all : List CStr} (hsub : ∀ name ∈ names, name ∈ all)
    (hnodup : names.Nodup) (st : TcState) :
    HasManaged (recoverPass envs early reason names st).2.kernel all ↔
      HasManaged st.kernel all ∨ ∃ name ∈ names, PutsFilter (envs name) name early st := by
  induction names generalizing st with
  | nil => simp [recoverPass]
  | cons name names ih =>
    have hhead := (ensureAttached_ensureOutcome (envs name) name early st reason).hasManaged_iff
      (hsub name List.mem_cons_self)
    have helse := ensureAttached_sameElsewhere (envs name) name early reason st
    have htail := ih (fun n hn => hsub n (List.mem_cons_of_mem _ hn)) (List.nodup_cons.mp hnodup).2
      (lanspeedBpfEnsureAttached (envs name) name early reason st).2
    rw [hhead] at htail
    refine Iff.trans htail (exists_mem_cons_congr hnodup
      (P := fun n => PutsFilter (envs n) n early st) fun n hne => ?_)
    exact helse.putsFilter_iff (envs n) early hne

/-- The flag `any_attached` after a hook check: it was set before, or the check works on an
interface. -/
theorem anyAttached_recoverPass_iff {names : List CStr} (hnodup : names.Nodup) (st : TcState) :
    (recoverPass envs early reason names st).2.loader.status.anyAttached = true ↔
      st.loader.status.anyAttached = true ∨ ∃ name ∈ names, EnsureWorks
        (envs name) name early st := by
  induction names generalizing st with
  | nil => simp [recoverPass]
  | cons name names ih =>
    have hhead := (ensureAttached_ensureOutcome (envs name) name early st reason).anyAttached_iff
    have helse := ensureAttached_sameElsewhere (envs name) name early reason st
    have htail := ih (List.nodup_cons.mp hnodup).2
      (lanspeedBpfEnsureAttached (envs name) name early reason st).2
    rw [hhead] at htail
    refine Iff.trans htail (exists_mem_cons_congr hnodup
      (P := fun n => EnsureWorks (envs n) n early st) fun n hne => ?_)
    exact helse.ensureWorks_iff (envs n) early hne

/-- A pass that ensures the interfaces does not change whether the object is loaded. -/
theorem objectLoaded_recoverPass (names : List CStr) (st : TcState) :
    (recoverPass envs early reason names st).2.loader.status.objectLoaded
      = st.loader.status.objectLoaded := by
  induction names generalizing st with
  | nil => rfl
  | cons name names ih =>
    exact (ih _).trans (ensureAttached_ensureOutcome (envs name) name early st reason).objectLoaded

end Pass

/-! ## The loaded object -/

/-- The loaded object, and the flag for it, are the same. -/
structure SameObject (st st' : TcState) : Prop where
  obj : st'.loader.obj = st.loader.obj
  objectLoaded : st'.loader.status.objectLoaded = st.loader.status.objectLoaded

theorem SameObject.refl (st : TcState) : SameObject st st := ⟨rfl, rfl⟩

/-- Two steps that keep the object keep it together. -/
theorem SameObject.trans {st st' st'' : TcState} (h : SameObject st st')
    (h' : SameObject st' st'') :
    SameObject st st'' :=
  ⟨h'.obj.trans h.obj, h'.objectLoaded.trans h.objectLoaded⟩

section Object

variable (env : TcCallEnv) (envs : PassEnv) (early : Bool) (st : TcState)

/-- Attaching an interface keeps the object. -/
theorem sameObject_attachIfaceMode (ifname : CStr) :
    SameObject st (lanspeedBpfAttachIfaceMode env ifname early st).2 := by
  refine ⟨(attachIfaceMode_outcome env ifname early st).1.fills.obj, ?_⟩
  unfold lanspeedBpfAttachIfaceMode
  rcases hopen : openIface env ifname st with ⟨err, st'⟩ | ⟨obj, ifindex⟩
  · exact (openIface_sameStatus hopen).flags.objectLoaded
  · have hingress := (sameStatus_attachPoint env ifname (lanspeedSlot ifindex early .ingress)
      (.lanspeed .ingress early obj) st).flags.objectLoaded
    simp only
    rcases hrun : attachPoint env ifname (lanspeedSlot ifindex early .ingress)
      (.lanspeed .ingress early obj) false st with ⟨_ | err, st₁⟩
    · have hegress := (sameStatus_ensurePoint env ifname (lanspeedSlot ifindex early .egress)
        (.lanspeed .egress early obj) st₁).flags.objectLoaded
      rw [hrun] at hingress
      simp only
      rcases hrun' : ensurePoint env ifname (lanspeedSlot ifindex early .egress)
        (.lanspeed .egress early obj) st₁ with ⟨_ | err, st₂⟩
      · rw [hrun'] at hegress
        exact hegress.trans hingress
      · rw [hrun'] at hegress
        exact hegress.trans hingress
    · rw [hrun] at hingress
      exact hingress

/-- Detaching an interface keeps the object. -/
theorem sameObject_detachIfaceMode (ifname : CStr) :
    SameObject st (lanspeedBpfDetachIfaceMode env ifname early st).2 := by
  unfold lanspeedBpfDetachIfaceMode
  rcases hopen : openIface env ifname st with ⟨err, st'⟩ | ⟨obj, ifindex⟩
  · exact ⟨(openIface_error hopen).obj, (openIface_sameStatus hopen).flags.objectLoaded⟩
  · exact ⟨rfl, rfl⟩

/-- A pass that attaches the interfaces keeps the object. -/
theorem sameObject_attachPass (names : List CStr) :
    SameObject st (attachPass envs early names st).2 := by
  induction names generalizing st with
  | nil => exact SameObject.refl st
  | cons name names ih =>
    have hhead := sameObject_attachIfaceMode (envs name) early st name
    rw [attachPass]
    rcases hrun : lanspeedBpfAttachIfaceMode (envs name) name early st with ⟨_ | err, st₁⟩
    · rw [hrun] at hhead
      exact hhead.trans (ih st₁)
    · rw [hrun] at hhead
      exact hhead

/-- A pass that attaches and counts the interfaces keeps the object. -/
theorem sameObject_attachCount (names : List CStr) :
    SameObject st (attachCount envs early names st).2 := by
  induction names generalizing st with
  | nil => exact SameObject.refl st
  | cons name names ih =>
    exact (sameObject_attachIfaceMode (envs name) early st name).trans (ih _)

/-- A pass that detaches the interfaces keeps the object. -/
theorem sameObject_detachPass (names : List CStr) :
    SameObject st (detachPass envs early names st) := by
  induction names generalizing st with
  | nil => exact SameObject.refl st
  | cons name names ih =>
    exact (sameObject_detachIfaceMode (envs name) early st name).trans (ih _)

/-- A pass that ensures the interfaces keeps the object. -/
theorem sameObject_recoverPass (reason : CStr) (names : List CStr) :
    SameObject st (recoverPass envs early reason names st).2 :=
  ⟨(recoverPass_fills envs early reason names st).obj, objectLoaded_recoverPass names st⟩

end Object

/-- The self-heal keeps the loaded object. -/
theorem sameObject_recoverIfNeeded (cfg : CollectorConfig) (envs : PassEnv) (names : List CStr)
    (reason : CStr) (rt : BpfRuntime) :
    SameObject rt.tc (bpfRuntimeRecoverIfNeeded cfg envs names reason rt).2.tc := by
  obtain ⟨-, -, htc⟩ := bpfRuntimeRecoverIfNeeded_tc cfg envs names reason rt
  rw [htc]
  split_ifs
  · exact sameObject_recoverPass envs _ rt.tc reason names
  · exact SameObject.refl rt.tc

/-- The switch of the attach policy keeps the loaded object, and whether BPF is running. -/
theorem refreshAttachPolicy_keeps (cfg : CollectorConfig) (envs : RefreshEnvs) (names : List CStr)
    (probe : RuntimeProbe) (rt : BpfRuntime) :
    let r := bpfRuntimeRefreshAttachPolicy cfg envs names probe rt
    SameObject rt.tc r.2.tc ∧ r.2.collector.bpfRuntimeEnabled = rt.collector.bpfRuntimeEnabled := by
  intro r
  unfold r bpfRuntimeRefreshAttachPolicy
  have hattach := sameObject_attachPass envs.attach probe.daePreemptsBpfIngress rt.tc names
  dsimp only
  split
  · exact ⟨SameObject.refl _, rfl⟩
  · split
    · exact ⟨SameObject.refl _, rfl⟩
    · rcases hrun : attachPass envs.attach probe.daePreemptsBpfIngress names rt.tc with ⟨_ | _, tc⟩
      · rw [hrun] at hattach
        exact ⟨hattach.trans (sameObject_detachPass envs.detach _ tc names), rfl⟩
      · rw [hrun] at hattach
        have hdetach := sameObject_detachPass envs.detach rt.earlyPassthrough tc names
        refine ⟨(hattach.trans hdetach).trans ?_, (bpfRuntimeRecoverIfNeeded_tc ..).2.1⟩
        exact sameObject_recoverIfNeeded cfg envs.recover names _ { rt with
          tc := detachPass envs.detach rt.earlyPassthrough names tc
          earlyPassthrough := probe.daePreemptsBpfIngress
          collector := bpfRuntimeResetRateState rt.collector }

/-! ## The tick -/

/-- `lanspeed_bpf_read_samples` on the status: the entries it hands back, and the state after it. -/
def lanspeedBpfReadSamples (outcome : Except ReadError (List LanspeedBpfSample)) (readMs : UInt64)
    (st : TcState) : Option (List LanspeedBpfSample) × TcState :=
  let outcome := if st.loader.obj.isSome then outcome else .error .objectNotLoaded
  match outcome with
  | .error err =>
    (none, TcState.setStatusError { st with loader := { st.loader with
      status := { st.loader.status with lastReadOk := false } } } err.text)
  | .ok raw =>
    (some raw, { st with loader := { st.loader with
      status := { st.loader.status with lastReadOk := true, lastReadMonotonicMs := readMs } } })

/-- What one call of `bpf_collect_tick` meets. -/
structure CollectTickInput where
  refresh : RefreshEnvs
  probe : RuntimeProbe
  recover : PassEnv
  read : Except ReadError (List LanspeedBpfSample)
  readMs : UInt64
  nowMs : UInt64
  ifIndexToName : UInt32 → Option CStr
  arp : List ArpEntry

/-- The state in which the hook check of a tick starts. -/
def BpfRuntime.beforeHookCheck (cfg : CollectorConfig) (names : List CStr) (inp : CollectTickInput)
    (rt : BpfRuntime) : BpfRuntime :=
  (bpfRuntimeRefreshAttachPolicy cfg inp.refresh names inp.probe rt).2

/-- The hook check of a tick. -/
def BpfRuntime.hookCheck (cfg : CollectorConfig) (names : List CStr) (inp : CollectTickInput)
    (rt : BpfRuntime) : BpfRuntime :=
  (bpfRuntimeRecoverIfNeeded cfg inp.recover names "periodic_tc_filter_check".toList rt).2

/-- `bpf_collect_samples`, with the read that it makes. -/
def BpfRuntime.collectSamples (cfg : CollectorConfig) (inp : CollectTickInput) (rt : BpfRuntime) :
    BpfRuntime :=
  let (read, tc) := lanspeedBpfReadSamples inp.read inp.readMs rt.tc
  { rt with
    tc
    collector := bpfCollectSamples cfg
      { nowMs := inp.nowMs, read, ifIndexToName := inp.ifIndexToName, arp := inp.arp }
      rt.collector }

/-- `bpf_collect_tick` on the kernel, the loader and the collectors. -/
def collectTick (cfg : CollectorConfig) (names : List CStr) (inp : CollectTickInput)
    (rt : BpfRuntime) : BpfRuntime :=
  if rt.collector.bpfRuntimeEnabled then
    BpfRuntime.collectSamples cfg inp
      (BpfRuntime.hookCheck cfg names inp (BpfRuntime.beforeHookCheck cfg names inp rt))
  else rt

/-- On the collectors a tick is `bpf_collect_tick` for what the passes over the attach
list report. -/
theorem collectTick_collector (cfg : CollectorConfig) (names : List CStr) (inp : CollectTickInput)
    (rt : BpfRuntime) :
    ∃ tick, (collectTick cfg names inp rt).collector = bpfCollectTick cfg tick rt.collector := by
  have hrefresh := bpfRuntimeRefreshAttachPolicy_collector cfg inp.refresh names inp.probe rt
  obtain ⟨healed, hrecover⟩ := bpfRuntimeRecoverIfNeeded_collector cfg inp.recover names
    "periodic_tc_filter_check".toList (BpfRuntime.beforeHookCheck cfg names inp rt)
  refine ⟨{
    switched := (bpfRuntimeRefreshAttachPolicy cfg inp.refresh names inp.probe rt).1
    healed
    collect := {
      nowMs := inp.nowMs
      read := (lanspeedBpfReadSamples inp.read inp.readMs (BpfRuntime.hookCheck cfg names inp
        (BpfRuntime.beforeHookCheck cfg names inp rt)).tc).1
      ifIndexToName := inp.ifIndexToName
      arp := inp.arp } }, ?_⟩
  unfold collectTick bpfCollectTick
  split_ifs
  · rw [hrefresh]
    exact congrArg (bpfCollectSamples cfg _) hrecover.symm
  · rfl

/-- The gate of the Full mode is sound: when it opens, a lanspeed filter is on an interface of the
attach list. -/
def GateSound (names : List CStr) (rt : BpfRuntime) : Prop :=
  ∀ now freshnessMs,
    lanspeedBpfRuntimeOk rt.tc.loader.status.toLanspeedBpfReadStatus now freshnessMs
    = true → HasManaged rt.tc.kernel names

/-- The gate opens for some freshness when its three flags are set. -/
theorem gateSound_iff {names : List CStr} {rt : BpfRuntime} :
    GateSound names rt ↔
      (rt.tc.loader.status.objectLoaded = true → rt.tc.loader.status.anyAttached = true →
        rt.tc.loader.status.lastReadOk = true → HasManaged rt.tc.kernel names) := by
  constructor
  · intro h hloaded hattached hread
    apply h 0 0
    simp [lanspeedBpfRuntimeOk, hloaded, hattached, hread]
  · intro h now freshnessMs hok
    simp only [lanspeedBpfRuntimeOk] at hok
    split_ifs at hok with hloaded hattached hread
    all_goals exact h (by simpa using hloaded) (by simpa using hattached) (by simpa using hread)

/-- What happens after the start of the BPF runtime: the ticks of the daemon, and what other
components do to filters and interfaces between them. -/
inductive GateEvent where
  | tick (inp : CollectTickInput)
  | deleteFilters (p : TcSlot → Bool)
  | deleteDevice (ifindex : ℕ)
  | createDevice (d : NetDevice)

/-- A change of the kernel alone. -/
def BpfRuntime.withKernel (rt : BpfRuntime) (kernel : TcKernel) : BpfRuntime :=
  { rt with tc := { rt.tc with kernel } }

/-- One event. -/
def gateStep (cfg : CollectorConfig) (names : List CStr) (rt : BpfRuntime) : GateEvent → BpfRuntime
  | .tick inp => collectTick cfg names inp rt
  | .deleteFilters p => rt.withKernel (rt.tc.kernel.deleteWhere p)
  | .deleteDevice ifindex => rt.withKernel (rt.tc.kernel.deleteDevice ifindex)
  | .createDevice d => rt.withKernel (rt.tc.kernel.createDevice d)

/-- The hook check of a tick covers the gate: some lanspeed filter is on an interface of the list
when it starts, or it puts one; or it cannot open the gate, as `any_attached` is not set and it
succeeds on no interface. -/
def HookCheckCovers (names : List CStr) (envs : PassEnv) (rt : BpfRuntime) : Prop :=
  HasManaged rt.tc.kernel names ∨
    (∃ name ∈ names, PutsFilter (envs name) name rt.earlyPassthrough rt.tc) ∨
    (rt.tc.loader.status.anyAttached = false ∧
      ∀ name ∈ names, ¬ EnsureWorks (envs name) name rt.earlyPassthrough rt.tc)

/-- The gate is sound after a tick. -/
def TickSound (cfg : CollectorConfig) (names : List CStr) (rt : BpfRuntime) : GateEvent → Prop
  | .tick inp => GateSound names (collectTick cfg names inp rt)
  | _ => True

/-- The hook check of a tick of the running BPF runtime covers the gate, unless the map cannot be
read. -/
def TickCovers (cfg : CollectorConfig) (names : List CStr) (rt : BpfRuntime) : GateEvent → Prop
  | .tick inp => rt.collector.bpfRuntimeEnabled = true → inp.read.isOk = true →
      HookCheckCovers names inp.recover (BpfRuntime.beforeHookCheck cfg names inp rt)
  | _ => True

/-- The BPF runtime is on with its object loaded, or off with the gate closed. -/
structure RuntimeSettled (cfg : CollectorConfig) (rt : BpfRuntime) : Prop where
  active : rt.collector.bpfRuntimeEnabled = true → bpfRuntimeActive cfg rt.collector = true ∧
    rt.tc.loader.obj.isSome = true ∧ rt.tc.loader.status.objectLoaded = true
  off : rt.collector.bpfRuntimeEnabled = false → rt.tc.loader.status.objectLoaded = false

/-- `lanspeed_bpf_init` of a fresh loader loads the object when it succeeds, and only then. -/
theorem lanspeedBpfInit_loaded {l : LoaderState} (hobj : l.obj = none) (objectPath : CStr)
    (load : ObjectLoad) (strerror : Errno → CStr) :
    let r := lanspeedBpfInit objectPath load strerror l
    r.2.obj.isSome = r.1 ∧ r.2.status.objectLoaded = r.1 := by
  unfold lanspeedBpfInit
  rw [hobj, Option.isSome_none, if_neg Bool.false_ne_true]
  by_cases hpath : objectPath.isEmpty
  · rw [if_pos hpath]
    exact ⟨rfl, rfl⟩
  · rw [if_neg hpath]
    cases load with
    | loaded obj => exact ⟨rfl, rfl⟩
    | missing err => exact ⟨rfl, rfl⟩
    | openFailed err => exact ⟨rfl, rfl⟩
    | loadFailed err => exact ⟨rfl, rfl⟩
    | symbolsMissing => exact ⟨rfl, rfl⟩
    | fdInvalid => exact ⟨rfl, rfl⟩

/-- A start of the BPF runtime settles it. -/
theorem runtimeSettled_start (cfg : CollectorConfig) (inp : StartInput) (names : List CStr)
    (kernel : TcKernel) :
    RuntimeSettled cfg (startBpfRuntime cfg inp names
      { tc := { kernel, loader := LoaderState.init },
        collector := CollectorState.init false }) := by
  have hfresh : ∀ (tc : TcState), tc.loader.status.objectLoaded = false → ∀ early failures failure,
      RuntimeSettled cfg { tc, collector := CollectorState.init false, earlyPassthrough := early,
                           selfHealFailures := failures, lastSelfHealFailure := failure } :=
    fun tc hloaded _ _ _ => ⟨fun h => absurd h Bool.false_ne_true, fun _ => hloaded⟩
  unfold startBpfRuntime
  split
  · exact hfresh _ rfl _ _ _
  · rename_i hgates
    have hinit := lanspeedBpfInit_loaded (l := LoaderState.init) rfl inp.objectPath inp.load
      inp.strerror
    rcases hrun : lanspeedBpfInit inp.objectPath inp.load inp.strerror LoaderState.init
      with ⟨_ | _, loader⟩
    -- A start that fails leaves no object behind.
    · rw [hrun] at hinit
      exact hfresh _ hinit.2 _ _ _
    · rw [hrun] at hinit
      have hloaded : loader.obj.isSome = true ∧ loader.status.objectLoaded = true := hinit
      have hsame := sameObject_attachCount inp.attach inp.probe.daePreemptsBpfIngress
        { kernel, loader } names
      dsimp only
      rcases hcount :
        attachCount inp.attach inp.probe.daePreemptsBpfIngress names { kernel, loader }
        with ⟨_ | count, tc⟩
      · exact hfresh _ rfl _ _ _
      · rw [hcount] at hsame
        have hactive : bpfRuntimeActive cfg
            { CollectorState.init false with bpfRuntimeEnabled := true } = true := by
          simpa [bpfRuntimeActive] using hgates
        obtain ⟨-, henabled, -⟩ := bpfRuntimeRecoverIfNeeded_tc cfg inp.recover names
          "initial_tc_filter_check".toList
          { tc, collector := { CollectorState.init false with bpfRuntimeEnabled := true },
            earlyPassthrough := inp.probe.daePreemptsBpfIngress }
        have hrecover := sameObject_recoverIfNeeded cfg inp.recover names
          "initial_tc_filter_check".toList
          { tc, collector := { CollectorState.init false with bpfRuntimeEnabled := true },
            earlyPassthrough := inp.probe.daePreemptsBpfIngress }
        have hobject := hsame.trans hrecover
        refine ⟨fun _ => ⟨?_, ?_, ?_⟩, fun hoff => absurd (henabled.symm.trans hoff) (by simp)⟩
        · rw [bpfRuntimeActive, Bool.and_eq_true] at hactive ⊢
          exact ⟨hactive.1, henabled⟩
        · exact hobject.obj ▸ hloaded.1
        · exact hobject.objectLoaded.trans hloaded.2

/-- The read of a tick changes the flag of the last read only. -/
theorem collectSamples_keeps (cfg : CollectorConfig) (inp : CollectTickInput) (rt : BpfRuntime) :
    let rt' := BpfRuntime.collectSamples cfg inp rt
    rt'.tc.kernel = rt.tc.kernel ∧ SameObject rt.tc rt'.tc ∧ SameFlags rt.tc rt'.tc ∧
      rt'.collector.bpfRuntimeEnabled = rt.collector.bpfRuntimeEnabled ∧
      (rt.tc.loader.obj.isSome = true →
        rt'.tc.loader.status.lastReadOk = inp.read.isOk) := by
  have hcollect : ∀ cin : CollectInput, (bpfCollectSamples cfg cin rt.collector).bpfRuntimeEnabled
      = rt.collector.bpfRuntimeEnabled := by
    intro cin
    unfold bpfCollectSamples
    split <;> rfl
  unfold BpfRuntime.collectSamples lanspeedBpfReadSamples
  cases rt.tc.loader.obj.isSome with
  | false => exact ⟨rfl, ⟨rfl, rfl⟩, ⟨rfl, rfl⟩, hcollect _, fun h => absurd h Bool.false_ne_true⟩
  | true =>
    cases inp.read with
    | error err => exact ⟨rfl, ⟨rfl, rfl⟩, ⟨rfl, rfl⟩, hcollect _, fun _ => rfl⟩
    | ok raw => exact ⟨rfl, ⟨rfl, rfl⟩, ⟨rfl, rfl⟩, hcollect _, fun _ => rfl⟩

section Tick

variable {cfg : CollectorConfig} {names : List CStr} {rt : BpfRuntime} (inp : CollectTickInput)

variable (names) in
/-- The first half of a tick keeps the BPF runtime settled. -/
theorem RuntimeSettled.beforeHookCheck (h : RuntimeSettled cfg rt) :
    RuntimeSettled cfg (BpfRuntime.beforeHookCheck cfg names inp rt) := by
  obtain ⟨hsame, henabled⟩ :=
    refreshAttachPolicy_keeps cfg inp.refresh names inp.probe rt
  refine ⟨fun hon => ?_, fun hoff => ?_⟩
  · obtain ⟨hactive, hobj, hloaded⟩ := h.active (henabled.symm.trans hon)
    refine ⟨?_, hsame.obj ▸ hobj, hsame.objectLoaded.trans hloaded⟩
    rw [bpfRuntimeActive, Bool.and_eq_true] at hactive ⊢
    exact ⟨hactive.1, hon⟩
  · exact hsame.objectLoaded.trans (h.off (henabled.symm.trans hoff))

/-- A tick keeps the BPF runtime settled. -/
theorem RuntimeSettled.tick (h : RuntimeSettled cfg rt) :
    RuntimeSettled cfg (collectTick cfg names inp rt) := by
  unfold collectTick
  split_ifs with hon
  · have hbefore := h.beforeHookCheck names inp
    obtain ⟨-, henabled, -⟩ := bpfRuntimeRecoverIfNeeded_tc cfg inp.recover names
      "periodic_tc_filter_check".toList (BpfRuntime.beforeHookCheck cfg names inp rt)
    have hcheck := sameObject_recoverIfNeeded cfg inp.recover names
      "periodic_tc_filter_check".toList (BpfRuntime.beforeHookCheck cfg names inp rt)
    obtain ⟨-, hread, -, hkept, -⟩ := collectSamples_keeps cfg inp
      (BpfRuntime.hookCheck cfg names inp (BpfRuntime.beforeHookCheck cfg names inp rt))
    have hobject := hcheck.trans hread
    have hsame := hkept.trans henabled
    refine ⟨fun hon => ?_, fun hoff => ?_⟩
    · obtain ⟨hactive, hobj, hloaded⟩ := hbefore.active (hsame.symm.trans hon)
      refine ⟨?_, hobject.obj ▸ hobj, hobject.objectLoaded.trans hloaded⟩
      rw [bpfRuntimeActive, Bool.and_eq_true] at hactive ⊢
      exact ⟨hactive.1, hon⟩
    · exact hobject.objectLoaded.trans (hbefore.off (hsame.symm.trans hoff))
  · exact h

/-- Every event keeps the BPF runtime settled. -/
theorem RuntimeSettled.step (h : RuntimeSettled cfg rt) (e : GateEvent) :
    RuntimeSettled cfg (gateStep cfg names rt e) := by
  cases e with
  | tick inp => exact h.tick inp
  | deleteFilters p => exact ⟨h.active, h.off⟩
  | deleteDevice ifindex => exact ⟨h.active, h.off⟩
  | createDevice d => exact ⟨h.active, h.off⟩

/-- The gate is sound after a tick exactly when the hook check of the tick covers it, unless the map
cannot be read. -/
theorem tickSound_iff (h : RuntimeSettled cfg rt) (hnodup : names.Nodup) (e : GateEvent) :
    TickSound cfg names rt e ↔ TickCovers cfg names rt e := by
  cases e with
  | deleteFilters p => exact Iff.rfl
  | deleteDevice ifindex => exact Iff.rfl
  | createDevice d => exact Iff.rfl
  | tick inp =>
    rw [TickSound, TickCovers, collectTick, gateSound_iff]
    cases hon : rt.collector.bpfRuntimeEnabled with
    | false =>
      -- The tick does nothing, and the flag of the loaded object is not set.
      refine iff_of_true (fun hloaded => ?_) fun h => absurd h Bool.false_ne_true
      rw [if_neg Bool.false_ne_true, h.off hon] at hloaded
      exact absurd hloaded Bool.false_ne_true
    | true =>
      obtain ⟨-, henabled⟩ := refreshAttachPolicy_keeps cfg inp.refresh names inp.probe rt
      obtain ⟨hactive, hobj, hloaded⟩ :=
        (h.beforeHookCheck names inp).active (henabled.trans hon)
      obtain ⟨-, -, htc⟩ := bpfRuntimeRecoverIfNeeded_tc cfg inp.recover names
        "periodic_tc_filter_check".toList (BpfRuntime.beforeHookCheck cfg names inp rt)
      rw [if_pos hactive] at htc
      have hcheck := sameObject_recoverIfNeeded cfg inp.recover names
        "periodic_tc_filter_check".toList (BpfRuntime.beforeHookCheck cfg names inp rt)
      obtain ⟨hkernel, hobject, hflags, -, hread⟩ := collectSamples_keeps cfg inp
        (BpfRuntime.hookCheck cfg names inp (BpfRuntime.beforeHookCheck cfg names inp rt))
      have hread := hread (hcheck.obj ▸ hobj)
      have hloaded := (hcheck.trans hobject).objectLoaded.trans hloaded
      rw [if_pos rfl, hkernel, hloaded, hflags.anyAttached, hread, BpfRuntime.hookCheck, htc,
        hasManaged_recoverPass_iff (fun _ hname => hname) hnodup,
        anyAttached_recoverPass_iff hnodup, HookCheckCovers]
      have hattached : (BpfRuntime.beforeHookCheck cfg names inp rt).tc.loader.status.anyAttached
          = false ↔ ¬ (BpfRuntime.beforeHookCheck cfg names inp rt).tc.loader.status.anyAttached
            = true := by simp
      rw [hattached]
      constructor
      · intro hsound _ hok
        by_cases hopens : (BpfRuntime.beforeHookCheck cfg names inp rt).tc.loader.status.anyAttached
            = true ∨ ∃ name ∈ names, EnsureWorks (inp.recover name) name
              (BpfRuntime.beforeHookCheck cfg names inp rt).earlyPassthrough
              (BpfRuntime.beforeHookCheck cfg names inp rt).tc
        · exact or_assoc.mp (.inl (hsound rfl hopens hok))
        · rw [not_or] at hopens
          exact .inr (.inr ⟨hopens.1, fun name hname hworks => hopens.2 ⟨name, hname, hworks⟩⟩)
      · rintro hcovers - hopens hok
        rcases hcovers rfl hok with hmanaged | hputs | ⟨hclosed, hnone⟩
        · exact .inl hmanaged
        · exact .inr hputs
        · rcases hopens with hset | ⟨name, hname, hworks⟩
          · exact absurd hset hclosed
          · exact absurd hworks (hnone name hname)

end Tick

/-- In every run from a start of the BPF runtime, the gate of the Full mode is sound after every
tick exactly when the hook check of every tick covers it, unless the map cannot be read. -/
theorem full_gate_sound_iff (cfg : CollectorConfig) (configured : List CStr) (kernel : TcKernel)
    (start : StartInput) (evs : List GateEvent) :
    let names := bpfAttachIfnames configured
    let rt := startBpfRuntime cfg start names
      { tc := { kernel, loader := LoaderState.init }, collector := CollectorState.init false }
    Machine.Along (gateStep cfg names) (TickSound cfg names) rt evs ↔
      Machine.Along (gateStep cfg names) (TickCovers cfg names) rt evs := by
  intro names rt
  have hnodup : names.Nodup := (attachList_bpfAttachIfnames configured).nodup
  have hsettled : RuntimeSettled cfg rt := runtimeSettled_start cfg start names kernel
  constructor
  · exact Machine.along_mono_of_invariant _ (I := RuntimeSettled cfg)
      (fun _ e h => h.step e) (fun _ e h => (tickSound_iff h hnodup e).mp) hsettled
  · exact Machine.along_mono_of_invariant _ (I := RuntimeSettled cfg)
      (fun _ e h => h.step e) (fun _ e h => (tickSound_iff h hnodup e).mpr) hsettled

/-- One device without filters. -/
def oneLanKernel : TcKernel :=
  .bare [⟨"lan1".toList, 3, by decide⟩] (by decide) (by decide)

/-- A start with an object that loads, on a device that takes its filters. -/
def oneLanStart : StartInput :=
  { objectPath := "lanspeed_tc.o".toList
    load := .loaded 1
    probe := {}
    attach := fun _ => {}
    detach := fun _ _ => none
    recover := fun _ => {} }

/-- A tick whose read of the map succeeds. -/
def oneLanTick : CollectTickInput :=
  { refresh := { attach := fun _ => {}, detach := fun _ => {}, recover := fun _ => {} }
    probe := {}
    recover := fun _ => {}
    read := .ok []
    readMs := 1000
    nowMs := 1000
    ifIndexToName := fun _ => none
    arp := [] }

/-- The device goes away with its filters, the hook check returns early, and the gate stays open. -/
theorem full_gate_unsound_device_deleted :
    let cfg : CollectorConfig := { enableBpf := true }
    let names := bpfAttachIfnames ["lan1".toList]
    let rt := startBpfRuntime cfg oneLanStart names
      { tc := { kernel := oneLanKernel, loader := LoaderState.init }
        collector := CollectorState.init false }
    ¬ Machine.Along (gateStep cfg names) (TickSound cfg names) rt
        [.deleteDevice 3, .tick oneLanTick] := by
  rintro cfg names rt ⟨-, hsound, -⟩
  have hmanaged :=
    gateSound_iff.mp hsound (by decide +kernel) (by decide +kernel) (by decide +kernel)
  obtain ⟨f, hf, -⟩ := hmanaged
  have hempty : (collectTick cfg names oneLanTick
      (gateStep cfg names rt (.deleteDevice 3))).tc.kernel.filters = [] := by decide +kernel
  rw [hempty] at hf
  exact absurd hf List.not_mem_nil

end Lanspeed
