import Lanspeed.Tc.Loader

/-!
# What the loader functions do to the filter table

For each function of the loader: which places of the table can change, what is there afterwards, and
which hooks are tracked. Callers use these instead of unfolding the functions.
-/

namespace Lanspeed

/-- The table, the devices and the tracked hooks are the same. -/
structure SameTables (st st' : TcState) : Prop where
  devices : st'.kernel.devices = st.kernel.devices
  programAt : st'.kernel.programAt = st.kernel.programAt
  attached : st'.loader.attached = st.loader.attached
  obj : st'.loader.obj = st.loader.obj

theorem SameTables.refl (st : TcState) : SameTables st st := ⟨rfl, rfl, rfl, rfl⟩

/-- Two steps that keep the tables keep them together. -/
theorem SameTables.trans {st st' st'' : TcState} (h : SameTables st st')
    (h' : SameTables st' st'') :
    SameTables st st'' :=
  ⟨h'.devices.trans h.devices, h'.programAt.trans h.programAt, h'.attached.trans h.attached,
    h'.obj.trans h.obj⟩

/-- `attach_point` attaches a filter at the place `s`: its calls do not fail by themselves, and the
place is free. -/
structure TcCallEnv.Attaches (env : TcCallEnv) (s : TcSlot) (k : TcKernel) : Prop where
  attach : env.attach s.point = none
  hook : env.hookCreate s.point = none ∨
    env.hookCreate s.point = some .eexist ∧ s.ifindex ∈ k.clsact
  free : k.programAt s = none

/-- The place `s` is filled, with `program` unless something is there already, and tracked where
there is room. -/
structure PointFilled (env : TcCallEnv) (s : TcSlot) (program : TcProgram) (st st' : TcState) :
    Prop where
  fillable : hookPresent env s st = true ∨ env.Attaches s st.kernel
  devices : st'.kernel.devices = st.kernel.devices
  programAt : st'.kernel.programAt
    = Function.update st.kernel.programAt s (some ((st.kernel.programAt s).getD program))
  attached : ∃ created, st'.loader.attached = (st.loader.trackHook s created).attached
  obj : st'.loader.obj = st.loader.obj

@[simp] theorem setStatusError_kernel (st : TcState) (text : CStr) :
    (st.setStatusError text).kernel = st.kernel := rfl

@[simp] theorem setStatusError_attached (st : TcState) (text : CStr) :
    (st.setStatusError text).loader.attached = st.loader.attached := rfl

@[simp] theorem setStatusError_obj (st : TcState) (text : CStr) :
    (st.setStatusError text).loader.obj = st.loader.obj := rfl

theorem sameTables_setStatusError (st : TcState) (text : CStr) :
    SameTables st (st.setStatusError text) := ⟨rfl, rfl, rfl, rfl⟩

@[simp] theorem trackHook_obj (l : LoaderState) (s : TcSlot) (created : Bool) :
    (l.trackHook s created).obj = l.obj := by
  rw [LoaderState.trackHook]
  split <;> rfl

/-- A call that succeeds met no fault, and the kernel let it through. -/
theorem withFault_ok {α : Type} {fault : Option Errno} {r : Except Errno α} {a : α}
    (h : withFault fault r = .ok a) : fault = none ∧ r = .ok a := by
  cases fault with
  | none => exact ⟨rfl, h⟩
  | some e => cases h

/-- A call that fails met a fault, or the kernel refused it. -/
theorem withFault_error {α : Type} {fault : Option Errno} {r : Except Errno α} {e : Errno}
    (h : withFault fault r = .error e) : fault = none ∨ fault = some e := by
  cases fault with
  | none => exact .inl rfl
  | some e' => exact .inr (congrArg some (Except.error.inj h))

/-! ## `attach_point` -/

section AttachPoint

variable (env : TcCallEnv) (ifname : CStr) (s : TcSlot) (program : TcProgram) (st : TcState)

/-- The second half of `attach_point` fills a free place, or fails; the flush of a hook that it made
finds no filter there. -/
theorem attachFilter_cases (created : Bool)
    (hempty : created = true → ∀ s' : TcSlot, s'.ifindex = s.ifindex →
      st.kernel.programAt s' = none) :
    let r := attachFilter env ifname s program false created st
    (r.1 = none ∧ env.attach s.point = none ∧ s.ifindex ∈ st.kernel.clsact ∧
        st.kernel.programAt s = none ∧ r.2.kernel.devices = st.kernel.devices ∧
        r.2.kernel.programAt = Function.update st.kernel.programAt s (some program) ∧
        (∃ created, r.2.loader.attached = (st.loader.trackHook s created).attached) ∧
        r.2.loader.obj = st.loader.obj) ∨
      (r.1 ≠ none ∧ SameTables st r.2) := by
  intro r
  cases hattach : withFault (env.attach s.point) (st.kernel.attach s program false) with
  | ok kernel =>
    obtain ⟨hfault, hok⟩ := withFault_ok hattach
    obtain ⟨hdev, hclsact, hfree, htable⟩ := TcKernel.attach_ok hok
    have hr : r = (none, { kernel, loader := st.loader.trackHook s created }) := by
      simp only [r, attachFilter, hattach]
    rw [hr]
    exact .inl ⟨rfl, hfault, hclsact, hfree, hdev, htable, ⟨created, rfl⟩, trackHook_obj _ _ _⟩
  | error err =>
    refine .inr ?_
    simp only [r, attachFilter, hattach]
    refine ⟨Option.some_ne_none _, ?_⟩
    split_ifs with hdestroy
    · refine ⟨rfl, funext fun s' => ?_, rfl, rfl⟩
      rw [TcKernel.hookDestroy, TcKernel.programAt_deleteWhere]
      split_ifs with hs
      · have hcreated : created = true := by
          simpa using (Bool.and_eq_true_iff.mp hdestroy).1
        exact (hempty hcreated s' (of_decide_eq_true hs).1).symm
      · rfl
    · exact sameTables_setStatusError _ _

/-- `attach_point` attaches its filter, or fails and changes nothing. -/
theorem attachPoint_cases :
    let r := attachPoint env ifname s program false st
    (r.1 = none ∧ env.Attaches s st.kernel ∧ PointFilled env s program st r.2) ∨
      (r.1 ≠ none ∧ SameTables st r.2) := by
  intro r
  cases hcreate : withFault (env.hookCreate s.point) (st.kernel.hookCreate s.ifindex) with
  | ok kernel =>
    obtain ⟨hfault, hok⟩ := withFault_ok hcreate
    obtain ⟨hdev, htable, -, hempty⟩ := TcKernel.hookCreate_ok hok
    have hr : r = attachFilter env ifname s program false true { st with kernel } := by
      simp only [r, attachPoint, hcreate]
    -- A fresh qdisc carries no filters, so destroying it in the failure case changes no place.
    have hcases := attachFilter_cases env ifname s program { st with kernel } true
      fun _ s' hs' => by rw [htable]; exact hempty s' hs'
    rw [hr]
    rcases hcases with ⟨hnone, hattach, -, hfree, hdev', htable', hattached, hobj⟩ | ⟨hsome, hsame⟩
    · have hfree' : st.kernel.programAt s = none := by
        rw [← htable]
        exact hfree
      have hattaches : env.Attaches s st.kernel := ⟨hattach, .inl hfault, hfree'⟩
      refine .inl ⟨hnone, hattaches, .inr hattaches, hdev'.trans hdev, ?_, hattached, hobj⟩
      rw [htable', hfree', htable]
      rfl
    · exact .inr ⟨hsome, hsame.devices.trans hdev, hsame.programAt.trans htable, hsame.attached,
        hsame.obj⟩
  | error err =>
    by_cases he : err = .eexist
    · have hr : r = attachFilter env ifname s program false false st := by
        simp only [r, attachPoint, hcreate, he, ne_eq, not_true_eq_false, if_false]
      rw [hr]
      rcases attachFilter_cases env ifname s program st false
        fun h => absurd h Bool.false_ne_true with
        ⟨hnone, hattach, hclsact, hfree, hdev, htable, hattached, hobj⟩ | hfailed
      · have hattaches : env.Attaches s st.kernel :=
          ⟨hattach, (withFault_error (he ▸ hcreate)).imp_right fun h => ⟨h, hclsact⟩, hfree⟩
        refine .inl ⟨hnone, hattaches, .inr hattaches, hdev, ?_, hattached, hobj⟩
        rw [htable, hfree]
        rfl
      · exact .inr hfailed
    · refine .inr ?_
      simp only [r, attachPoint, hcreate, ne_eq, he, not_false_eq_true, if_true]
      exact ⟨Option.some_ne_none _, sameTables_setStatusError _ _⟩

variable {env s st}

/-- `attach_point` succeeds at a free place of a live device when no call fails by itself. -/
theorem attachPoint_of_free (hcreate : env.hookCreate s.point = none)
    (hattach : env.attach s.point = none)
    (hlive : s.ifindex ∈ st.kernel.devices.map NetDevice.ifindex)
    (hfree : st.kernel.programAt s = none) :
    (attachPoint env ifname s program false st).1 = none := by
  -- Either way the device has a clsact qdisc when the filter is attached.
  have hfilter : ∀ created (st' : TcState), s.ifindex ∈ st'.kernel.clsact →
      st'.kernel.programAt s = none →
      (attachFilter env ifname s program false created st').1 = none := by
    intro created st' hclsact hfree'
    obtain ⟨k, hk⟩ := TcKernel.attach_of_free program false hclsact hfree'
    simp only [attachFilter, hattach, withFault, hk]
  by_cases hclsact : s.ifindex ∈ st.kernel.clsact
  · have hexists : st.kernel.hookCreate s.ifindex = .error .eexist := by
      rw [TcKernel.hookCreate, if_pos hclsact]
    simp only [attachPoint, hcreate, withFault, hexists, ne_eq, not_true_eq_false, if_false]
    exact hfilter false st hclsact hfree
  · obtain ⟨kernel, hok⟩ := TcKernel.hookCreate_of_live hlive hclsact
    obtain ⟨-, htable, hmem, -⟩ := TcKernel.hookCreate_ok hok
    simp only [attachPoint, hcreate, withFault, hok]
    exact hfilter true { st with kernel } hmem (by rw [htable]; exact hfree)

variable (env s st)

/-- A place that is filled by `ensurePoint` was there already or is attached now. -/
theorem ensurePoint_cases :
    let r := ensurePoint env ifname s program st
    (r.1 = none ∧ PointFilled env s program st r.2) ∨ (r.1 ≠ none ∧ SameTables st r.2) := by
  intro r
  cases hpresent : hookPresent env s st with
  | false =>
    have hr : r = attachPoint env ifname s program false st := by
      simp only [r, ensurePoint, hpresent, Bool.not_false, if_true]
    rw [hr]
    rcases attachPoint_cases env ifname s program st with ⟨hnone, -, hfilled⟩ | hfailed
    · exact .inl ⟨hnone, hfilled⟩
    · exact .inr hfailed
  | true =>
    have hr : r = (none, { st with loader := st.loader.trackHook s false }) := by
      simp only [r, ensurePoint, hpresent, Bool.not_true, Bool.false_eq_true, if_false]
    obtain ⟨p, hp⟩ := Option.isSome_iff_exists.mp (Bool.and_eq_true_iff.mp hpresent).2
    rw [hr]
    refine .inl ⟨rfl, .inl hpresent, rfl, ?_, ⟨false, rfl⟩, trackHook_obj _ _ _⟩
    rw [hp, Option.getD_some, ← hp, Function.update_eq_self]

variable {env s st}

/-- `ensurePoint` succeeds on a live device when no call fails by itself. -/
theorem ensurePoint_of_no_fault (hquery : env.query s.point = none)
    (hcreate : env.hookCreate s.point = none) (hattach : env.attach s.point = none)
    (hlive : s.ifindex ∈ st.kernel.devices.map NetDevice.ifindex) :
    (ensurePoint env ifname s program st).1 = none := by
  unfold ensurePoint
  cases hp : st.kernel.programAt s with
  | none =>
    simp only [hookPresent, hp, Option.isSome_none, Bool.and_false, Bool.not_false, if_true]
    exact attachPoint_of_free ifname program hcreate hattach hlive hp
  | some p => simp [hookPresent, hquery, hp]

end AttachPoint

/-! ## The functions on one interface -/

/-- The loader has the object `obj` loaded, and `ifname` resolves to `ifindex`. -/
structure Opens (st : TcState) (ifname : CStr) (obj ifindex : ℕ) : Prop where
  loaded : st.loader.obj = some obj
  nonempty : ifname ≠ []
  resolves : st.kernel.ifNameToIndex ifname = some ifindex

/-- An interface opens as before where the devices and the object are the same. -/
theorem Opens.mono {st st' : TcState} {ifname : CStr} {obj ifindex : ℕ}
    (h : Opens st ifname obj ifindex)
    (hdev : st'.kernel.devices = st.kernel.devices) (hobj : st'.loader.obj = st.loader.obj) :
    Opens st' ifname obj ifindex :=
  ⟨hobj.trans h.loaded, h.nonempty, by rw [TcKernel.ifNameToIndex, hdev]; exact h.resolves⟩

/-- `open_iface` succeeds exactly where the object is loaded and the name resolves. -/
theorem openIface_ok_iff {env : TcCallEnv} {ifname : CStr} {st : TcState} {obj ifindex : ℕ} :
    openIface env ifname st = .ok (obj, ifindex) ↔ Opens st ifname obj ifindex := by
  unfold openIface
  constructor
  · intro h
    split at h
    · cases h
    · rename_i obj' hobj
      split_ifs at h with hempty
      split at h
      · cases h
      · rename_i i hi
        cases h
        exact ⟨hobj, by simpa using hempty, hi⟩
  · rintro ⟨hobj, hne, hi⟩
    simp [hobj, hne, hi]

/-- An interface that does not open leaves the tables as they are. -/
theorem openIface_error {env : TcCallEnv} {ifname : CStr} {st st' : TcState} {err : Errno}
    (h : openIface env ifname st = .error (err, st')) : SameTables st st' := by
  unfold openIface at h
  split at h
  · cases h
    exact sameTables_setStatusError _ _
  · split_ifs at h
    · cases h
      exact sameTables_setStatusError _ _
    · split at h
      · cases h
        exact sameTables_setStatusError _ _
      · cases h

/-- A device that a name resolves to is live. -/
theorem Opens.live {st : TcState} {ifname : CStr} {obj ifindex : ℕ}
    (h : Opens st ifname obj ifindex) :
    ifindex ∈ st.kernel.devices.map NetDevice.ifindex := by
  obtain ⟨d, hd, rfl⟩ := Option.map_eq_some_iff.mp h.resolves
  exact List.mem_map_of_mem (Keyed.mem_of_lookup hd)

/-- The outcomes of a function that fills the two directions of an interface: nothing changes, only
the ingress place is filled, or both are and the function succeeds. -/
inductive IfaceOutcome (env : TcCallEnv) (ifname : CStr) (early : Bool) (st : TcState) :
    Bool → TcState → Prop where
  | nothing {st' : TcState} (same : SameTables st st') : IfaceOutcome env ifname early st false st'
  | ingress {st₁ st' : TcState} (obj ifindex : ℕ) (opens : Opens st ifname obj ifindex)
      (filled : PointFilled env (lanspeedSlot ifindex early .ingress) (.lanspeed .ingress early obj)
        st st₁)
      (same : SameTables st₁ st') : IfaceOutcome env ifname early st false st'
  | both {st₁ st₂ st' : TcState} (obj ifindex : ℕ) (opens : Opens st ifname obj ifindex)
      (filled : PointFilled env (lanspeedSlot ifindex early .ingress) (.lanspeed .ingress early obj)
        st st₁)
      (filled' : PointFilled env (lanspeedSlot ifindex early .egress) (.lanspeed .egress early obj)
        st₁ st₂)
      (same : SameTables st₂ st') : IfaceOutcome env ifname early st true st'

section OneInterface

variable (env : TcCallEnv) (ifname : CStr) (early : Bool) (st : TcState)

variable {env ifname early st} in
/-- The egress half of both functions, after the ingress place is filled. -/
theorem IfaceOutcome.of_ensureEgress {obj ifindex : ℕ} (hopens : Opens st ifname obj ifindex)
    {st₁ : TcState}
    (hfilled : PointFilled env (lanspeedSlot ifindex early .ingress) (.lanspeed .ingress early obj)
      st st₁) {err : Option Errno} {st₂ : TcState}
    (hensure : ensurePoint env ifname (lanspeedSlot ifindex early .egress)
      (.lanspeed .egress early obj) st₁ = (err, st₂)) {st' : TcState} (hsame : SameTables st₂ st') :
    IfaceOutcome env ifname early st err.isNone st' := by
  have hcases := ensurePoint_cases env ifname (lanspeedSlot ifindex early .egress)
    (.lanspeed .egress early obj) st₁
  rw [hensure] at hcases
  rcases hcases with ⟨hnone, hfilled'⟩ | ⟨hsome, hsame'⟩
  · obtain rfl : err = none := hnone
    exact .both obj ifindex hopens hfilled hfilled' hsame
  · obtain ⟨e, rfl⟩ := Option.ne_none_iff_exists'.mp hsome
    exact .ingress obj ifindex hopens hfilled (hsame'.trans hsame)

/-- What `lanspeed_bpf_attach_iface_mode` does to the table; it fails and changes nothing unless its
ingress filter can be attached. -/
theorem attachIfaceMode_outcome :
    let r := lanspeedBpfAttachIfaceMode env ifname early st
    IfaceOutcome env ifname early st r.1.isNone r.2 ∧
      ∀ obj ifindex, Opens st ifname obj ifindex →
        env.Attaches (lanspeedSlot ifindex early .ingress) st.kernel ∨
          (r.1 ≠ none ∧ SameTables st r.2) := by
  unfold lanspeedBpfAttachIfaceMode
  rcases hopen : openIface env ifname st with ⟨err, st'⟩ | ⟨obj, ifindex⟩
  · have hsame := openIface_error hopen
    exact ⟨.nothing hsame, fun _ _ _ => .inr ⟨Option.some_ne_none _, hsame⟩⟩
  · have hopens := openIface_ok_iff.mp hopen
    have hcases := attachPoint_cases env ifname (lanspeedSlot ifindex early .ingress)
      (.lanspeed .ingress early obj) st
    simp only
    rcases hattach : attachPoint env ifname (lanspeedSlot ifindex early .ingress)
      (.lanspeed .ingress early obj) false st with ⟨_ | err, st₁⟩
    · rw [hattach] at hcases
      obtain ⟨hattaches, hfilled⟩ : env.Attaches (lanspeedSlot ifindex early .ingress) st.kernel ∧
          PointFilled env (lanspeedSlot ifindex early .ingress)
            (.lanspeed .ingress early obj) st st₁ :=
        by simpa using hcases
      refine ⟨?_, fun obj' ifindex' hopens' => .inl ?_⟩
      · simp only
        rcases hensure : ensurePoint env ifname (lanspeedSlot ifindex early .egress)
          (.lanspeed .egress early obj) st₁ with ⟨_ | err, st₂⟩
        · exact IfaceOutcome.of_ensureEgress hopens hfilled hensure ⟨rfl, rfl, rfl, rfl⟩
        · exact IfaceOutcome.of_ensureEgress hopens hfilled hensure (SameTables.refl st₂)
      · -- The name has one index.
        obtain rfl : ifindex = ifindex' :=
          Option.some.inj (hopens.resolves.symm.trans hopens'.resolves)
        exact hattaches
    · rw [hattach] at hcases
      have hsame : SameTables st st₁ := by simpa using hcases
      exact ⟨.nothing hsame, fun _ _ _ => .inr ⟨Option.some_ne_none _, hsame⟩⟩

/-- What `lanspeed_bpf_ensure_attached` does to the table. -/
theorem ensureAttached_outcome (reason : CStr) :
    let r := lanspeedBpfEnsureAttached env ifname early reason st
    IfaceOutcome env ifname early st r.1.isOk r.2 := by
  unfold lanspeedBpfEnsureAttached
  rcases hopen : openIface env ifname st with ⟨err, st'⟩ | ⟨obj, ifindex⟩
  · exact .nothing (openIface_error hopen)
  · have hopens := openIface_ok_iff.mp hopen
    have hcases := ensurePoint_cases env ifname (lanspeedSlot ifindex early .ingress)
      (.lanspeed .ingress early obj) st
    simp only
    rcases hingress : ensurePoint env ifname (lanspeedSlot ifindex early .ingress)
      (.lanspeed .ingress early obj) st with ⟨_ | err, st₁⟩
    · rw [hingress] at hcases
      have hfilled : PointFilled env (lanspeedSlot ifindex early .ingress)
          (.lanspeed .ingress early obj) st st₁ := by simpa using hcases
      simp only
      rcases hegress : ensurePoint env ifname (lanspeedSlot ifindex early .egress)
        (.lanspeed .egress early obj) st₁ with ⟨_ | err, st₂⟩
      · -- The counters of the self-heal are no part of the tables.
        apply IfaceOutcome.of_ensureEgress hopens hfilled hegress
        simp only
        split_ifs <;> exact ⟨rfl, rfl, rfl, rfl⟩
      · exact IfaceOutcome.of_ensureEgress hopens hfilled hegress (SameTables.refl st₂)
    · rw [hingress] at hcases
      exact .nothing (by simpa using hcases)

variable {env ifname early st}

/-- The two directions of a mode have different places. -/
theorem lanspeedSlot_inj {ifindex ifindex' : ℕ} {early early' : Bool}
    {point point' : TcAttachPoint} :
    lanspeedSlot ifindex early point = lanspeedSlot ifindex' early' point' ↔
      ifindex = ifindex' ∧ early = early' ∧ point = point' := by
  constructor
  · intro h
    injection h with hindex hpoint hpriority
    refine ⟨hindex, ?_, hpoint⟩
    cases early <;> cases early' <;> first | rfl | exact absurd hpriority (by decide)
  · rintro ⟨rfl, rfl, rfl⟩
    rfl

/-- A function that succeeds leaves both places filled, with what was there before if
anything was. -/
theorem IfaceOutcome.filled {st' : TcState} (h : IfaceOutcome env ifname early st true st') :
    ∃ obj ifindex, Opens st ifname obj ifindex ∧ ∀ point,
      st'.kernel.programAt (lanspeedSlot ifindex early point)
        = some ((st.kernel.programAt (lanspeedSlot ifindex early point)).getD
            (.lanspeed point early obj)) := by
  cases h with
  | both obj ifindex opens filled filled' same =>
    refine ⟨obj, ifindex, opens, fun point => ?_⟩
    rw [same.programAt, filled'.programAt, filled.programAt]
    cases point with
    | ingress =>
      rw [Function.update_of_ne (by simp [lanspeedSlot_inj]), Function.update_self]
    | egress =>
      rw [Function.update_self, Function.update_of_ne (by simp [lanspeedSlot_inj])]

end OneInterface

/-! ## The status -/

/-- The status is the same but for the error text. -/
def SameStatus (st st' : TcState) : Prop :=
  ∃ text, st'.loader.status = { st.loader.status with error := text }

section Status

variable {st st' st'' : TcState}

theorem SameStatus.of_eq (h : st'.loader.status = st.loader.status) : SameStatus st st' :=
  ⟨st.loader.status.error, h⟩

/-- Two steps that keep the status keep it together. -/
theorem SameStatus.trans (h : SameStatus st st') (h' : SameStatus st' st'') :
    SameStatus st st'' := by
  obtain ⟨text, hstatus⟩ := h
  obtain ⟨text', hstatus'⟩ := h'
  exact ⟨text', by rw [hstatus', hstatus]⟩

theorem sameStatus_setStatusError (st : TcState) (text : CStr) :
    SameStatus st (st.setStatusError text) :=
  ⟨_, rfl⟩

/-- Tracking a hook keeps the status. -/
theorem trackHook_status (l : LoaderState) (s : TcSlot) (created : Bool) :
    (l.trackHook s created).status = l.status := by
  rw [LoaderState.trackHook]
  split <;> rfl

/-- An interface that does not open leaves the status as it is, but for the error text. -/
theorem openIface_sameStatus {env : TcCallEnv} {ifname : CStr} {err : Errno}
    (h : openIface env ifname st = .error (err, st')) : SameStatus st st' := by
  unfold openIface at h
  split at h
  · cases h
    exact sameStatus_setStatusError _ _
  · split_ifs at h
    · cases h
      exact sameStatus_setStatusError _ _
    · split at h
      · cases h
        exact sameStatus_setStatusError _ _
      · cases h

end Status

section PointStatus

variable (env : TcCallEnv) (ifname : CStr) (s : TcSlot) (program : TcProgram) (st : TcState)

/-- Attaching one filter keeps the status. -/
theorem sameStatus_attachFilter (created : Bool) :
    SameStatus st (attachFilter env ifname s program false created st).2 := by
  unfold attachFilter
  split
  · exact .of_eq (trackHook_status _ _ _)
  · dsimp only
    split_ifs
    · exact sameStatus_setStatusError _ _
    · exact sameStatus_setStatusError _ _

/-- Attaching one hook keeps the status. -/
theorem sameStatus_attachPoint : SameStatus st (attachPoint env ifname s program false st).2 := by
  unfold attachPoint
  split
  · exact sameStatus_attachFilter env ifname s program _ true
  · split_ifs
    · exact sameStatus_setStatusError _ _
    · exact sameStatus_attachFilter env ifname s program st false

/-- Ensuring one hook keeps the status. -/
theorem sameStatus_ensurePoint : SameStatus st (ensurePoint env ifname s program st).2 := by
  unfold ensurePoint
  split_ifs
  · exact sameStatus_attachPoint env ifname s program st
  · exact .of_eq (trackHook_status _ _ _)

end PointStatus

/-! ## Tables that grow by the own programs -/

/-- The table is the same up to free places that were filled with programs that `own`
allows there. -/
structure Fills (own : TcSlot → TcProgram → Prop) (st st' : TcState) : Prop where
  devices : st'.kernel.devices = st.kernel.devices
  obj : st'.loader.obj = st.loader.obj
  table : ∀ s, st'.kernel.programAt s = st.kernel.programAt s ∨
    st.kernel.programAt s = none ∧ ∃ p, own s p ∧ st'.kernel.programAt s = some p

section FillsRules

variable {own : TcSlot → TcProgram → Prop} {st st' st'' : TcState}

theorem SameTables.fills (h : SameTables st st') : Fills own st st' :=
  ⟨h.devices, h.obj, fun s => .inl (by rw [h.programAt])⟩

/-- Two steps that only fill free places do so together. -/
theorem Fills.trans (h : Fills own st st') (h' : Fills own st' st'') : Fills own st st'' := by
  refine ⟨h'.devices.trans h.devices, h'.obj.trans h.obj, fun s => ?_⟩
  rcases h.table s with heq | ⟨hnone, p, hp, hfilled⟩
  · rw [← heq]
    exact h'.table s
  · rcases h'.table s with heq' | ⟨hnone', -⟩
    · exact .inr ⟨hnone, p, hp, heq'.trans hfilled⟩
    · rw [hfilled] at hnone'
      cases hnone'

/-- What is filled by some programs is filled by more. -/
theorem Fills.mono {own' : TcSlot → TcProgram → Prop} (h : Fills own st st')
    (hown : ∀ s p, own s p → own' s p) : Fills own' st st' :=
  ⟨h.devices, h.obj, fun s => (h.table s).imp_right fun ⟨hnone, p, hp, heq⟩ =>
    ⟨hnone, p, hown s p hp, heq⟩⟩

/-- A place that is taken keeps its program. -/
theorem Fills.of_taken (h : Fills own st st') {s : TcSlot} (hs : st.kernel.programAt s ≠ none) :
    st'.kernel.programAt s = st.kernel.programAt s :=
  (h.table s).resolve_right fun hnone => hs hnone.1

/-- A place where nothing is allowed keeps its program. -/
theorem Fills.of_not_own (h : Fills own st st') {s : TcSlot} (hs : ∀ p, ¬ own s p) :
    st'.kernel.programAt s = st.kernel.programAt s :=
  (h.table s).resolve_right fun ⟨_, p, hp, _⟩ => hs p hp

/-- A place that was filled with an own program is a step of this kind. -/
theorem PointFilled.fills {env : TcCallEnv} {s : TcSlot} {program : TcProgram}
    (h : PointFilled env s program st st') (hown : own s program) : Fills own st st' := by
  refine ⟨h.devices, h.obj, fun s' => ?_⟩
  rw [h.programAt]
  by_cases hs : s' = s
  · subst hs
    rw [Function.update_self]
    cases hp : st.kernel.programAt s' with
    | none => exact .inr ⟨rfl, program, hown, rfl⟩
    | some p => exact .inl rfl
  · exact .inl (Function.update_of_ne hs _ _)

end FillsRules

/-- The program `p` is the one that the loader puts at the place `s` for a mode, on one of the
interfaces `names`. -/
def OwnOn (st : TcState) (names : List CStr) (early : Bool) (s : TcSlot) (p : TcProgram) : Prop :=
  ∃ name ∈ names, ∃ obj ifindex point, Opens st name obj ifindex ∧
    s = lanspeedSlot ifindex early point ∧ p = .lanspeed point early obj

/-- The own places on some interfaces are own places on more of them. -/
theorem OwnOn.mono {st st' : TcState} {names names' : List CStr} {early : Bool} {s : TcSlot}
    {p : TcProgram} (h : OwnOn st' names early s p) (hsub : ∀ name ∈ names, name ∈ names')
    (hdev : st.kernel.devices = st'.kernel.devices) (hobj : st.loader.obj = st'.loader.obj) :
    OwnOn st names' early s p := by
  obtain ⟨name, hname, obj, ifindex, point, hopens, hs, hp⟩ := h
  exact ⟨name, hsub name hname, obj, ifindex, point, hopens.mono hdev hobj, hs, hp⟩

/-- The outcomes on one interface fill places of that interface with own programs. -/
theorem IfaceOutcome.fills {env : TcCallEnv} {ifname : CStr} {early ok : Bool} {st st' : TcState}
    (h : IfaceOutcome env ifname early st ok st') : Fills (OwnOn st [ifname] early) st st' := by
  have hown : ∀ obj ifindex point, Opens st ifname obj ifindex →
      OwnOn st [ifname] early (lanspeedSlot ifindex early point) (.lanspeed point early obj) :=
    fun obj ifindex point hopens =>
      ⟨ifname, List.mem_singleton_self _, obj, ifindex, point, hopens, rfl, rfl⟩
  cases h with
  | nothing same => exact same.fills
  | ingress obj ifindex opens filled same =>
    exact (filled.fills (hown obj ifindex .ingress opens)).trans same.fills
  | both obj ifindex opens filled filled' same =>
    exact ((filled.fills (hown obj ifindex .ingress opens)).trans
      (filled'.fills (hown obj ifindex .egress opens))).trans same.fills

/-- What one interface and then the rest of the list fill, the whole list fills. -/
theorem Fills.cons {st st₁ st₂ : TcState} {name : CStr} {names : List CStr} {early : Bool}
    (h : Fills (OwnOn st [name] early) st st₁) (h' : Fills (OwnOn st₁ names early) st₁ st₂) :
    Fills (OwnOn st (name :: names) early) st st₂ := by
  refine (h.mono fun s p hp => hp.mono (by simp) rfl rfl).trans (h'.mono fun s p hp => ?_)
  exact hp.mono (fun n hn => List.mem_cons_of_mem _ hn) h.devices.symm h.obj.symm

/-! ## Calls that do not fail by themselves -/

/-- No libbpf call that attaches fails by itself. -/
def TcCallEnv.NoFault (env : TcCallEnv) : Prop :=
  ∀ point, env.hookCreate point = none ∧ env.attach point = none ∧ env.query point = none

/-- Without faults, attaching succeeds exactly when the ingress place is free. -/
theorem attachIfaceMode_eq_none_iff {env : TcCallEnv} {ifname : CStr} {early : Bool} {st : TcState}
    (hfault : env.NoFault) {obj ifindex : ℕ} (hopens : Opens st ifname obj ifindex) :
    (lanspeedBpfAttachIfaceMode env ifname early st).1 = none ↔
      st.kernel.programAt (lanspeedSlot ifindex early .ingress) = none := by
  constructor
  · intro hok
    obtain ⟨-, hattaches⟩ := attachIfaceMode_outcome env ifname early st
    exact ((hattaches obj ifindex hopens).resolve_right fun h => h.1 hok).free
  · intro hfree
    have hopen : openIface env ifname st = .ok (obj, ifindex) := openIface_ok_iff.mpr hopens
    obtain ⟨hcreate, hattach, -⟩ := hfault .ingress
    have hingress : (attachPoint env ifname (lanspeedSlot ifindex early .ingress)
        (.lanspeed .ingress early obj) false st).1 = none :=
      attachPoint_of_free ifname _ hcreate hattach hopens.live hfree
    have hcases := attachPoint_cases env ifname (lanspeedSlot ifindex early .ingress)
      (.lanspeed .ingress early obj) st
    simp only [lanspeedBpfAttachIfaceMode, hopen]
    rcases hrun : attachPoint env ifname (lanspeedSlot ifindex early .ingress)
      (.lanspeed .ingress early obj) false st with ⟨_ | err, st₁⟩
    · rw [hrun] at hcases
      obtain ⟨-, hfilled⟩ : env.Attaches (lanspeedSlot ifindex early .ingress) st.kernel ∧
          PointFilled env (lanspeedSlot ifindex early .ingress)
            (.lanspeed .ingress early obj) st st₁ :=
        by simpa using hcases
      -- The egress place is filled then, as nothing fails.
      have hegress : (ensurePoint env ifname (lanspeedSlot ifindex early .egress)
          (.lanspeed .egress early obj) st₁).1 = none := by
        obtain ⟨hcreate, hattach, hquery⟩ := hfault .egress
        exact ensurePoint_of_no_fault ifname _ hquery hcreate hattach
          (hopens.mono hfilled.devices hfilled.obj).live
      simp only
      rcases hensure : ensurePoint env ifname (lanspeedSlot ifindex early .egress)
        (.lanspeed .egress early obj) st₁ with ⟨_ | err, st₂⟩
      · rfl
      · rw [hensure] at hegress
        cases hegress
    · rw [hrun] at hingress
      cases hingress

/-- Without faults, `lanspeed_bpf_ensure_attached` succeeds on an interface that resolves. -/
theorem ensureAttached_of_noFault {env : TcCallEnv} {ifname : CStr} {st : TcState}
    (hfault : env.NoFault) {obj ifindex : ℕ} (hopens : Opens st ifname obj ifindex) (early : Bool)
    (reason : CStr) :
    (lanspeedBpfEnsureAttached env ifname early reason st).1.isOk = true := by
  have hopen : openIface env ifname st = .ok (obj, ifindex) := openIface_ok_iff.mpr hopens
  have hpoint : ∀ (point : TcAttachPoint) (st' : TcState), Opens st' ifname obj ifindex →
      (ensurePoint env ifname (lanspeedSlot ifindex early point)
        (.lanspeed point early obj) st').1 = none := by
    intro point st' hopens'
    obtain ⟨hcreate, hattach, hquery⟩ := hfault point
    exact ensurePoint_of_no_fault ifname _ hquery hcreate hattach hopens'.live
  have hingress := hpoint .ingress st hopens
  have hcases := ensurePoint_cases env ifname (lanspeedSlot ifindex early .ingress)
    (.lanspeed .ingress early obj) st
  rcases he : ensurePoint env ifname (lanspeedSlot ifindex early .ingress)
    (.lanspeed .ingress early obj) st with ⟨_ | err, st₁⟩
  · rw [he] at hcases
    have hfilled : PointFilled env (lanspeedSlot ifindex early .ingress)
        (.lanspeed .ingress early obj) st st₁ := by simpa using hcases
    have hegress := hpoint .egress st₁ (hopens.mono hfilled.devices hfilled.obj)
    rcases he' : ensurePoint env ifname (lanspeedSlot ifindex early .egress)
      (.lanspeed .egress early obj) st₁ with ⟨_ | err, st₂⟩
    · simp only [lanspeedBpfEnsureAttached, hopen, he, he']
      rfl
    · rw [he'] at hegress
      cases hegress
  · rw [he] at hingress
    cases hingress

/-! ## Detaching -/

/-- `detach_point` empties its place when the call does not fail on a filter that is there. -/
theorem programAt_detachPoint {fault : Option Errno} {s : TcSlot} {k : TcKernel}
    (hfault : k.programAt s ≠ none → fault = none) :
    (detachPoint fault s k).programAt = Function.update k.programAt s none := by
  by_cases hs : k.programAt s = none
  · have hsame : detachPoint fault s k = k := by
      cases fault <;> simp [detachPoint, withFault, TcKernel.detach, hs]
    rw [hsame]
    exact (Function.update_eq_self_iff.mpr hs.symm).symm
  · funext s'
    simp only [detachPoint, hfault hs, withFault, TcKernel.detach, if_neg hs]
    rw [TcKernel.programAt_deleteWhere, Function.update_apply]
    simp

@[simp] theorem detachPoint_devices (fault : Option Errno) (s : TcSlot) (k : TcKernel) :
    (detachPoint fault s k).devices = k.devices := by
  unfold detachPoint withFault TcKernel.detach
  cases fault with
  | some e => rfl
  | none => by_cases hs : k.programAt s = none <;> simp [hs]

/-- What `lanspeed_bpf_detach_iface_mode` does when its calls do not fail by themselves. -/
structure IfaceDetached (ifindex : ℕ) (early : Bool) (st st' : TcState) : Prop where
  devices : st'.kernel.devices = st.kernel.devices
  obj : st'.loader.obj = st.loader.obj
  emptied : ∀ point, st'.kernel.programAt (lanspeedSlot ifindex early point) = none
  rest : ∀ s, (∀ point, s ≠ lanspeedSlot ifindex early point) →
    st'.kernel.programAt s = st.kernel.programAt s
  attached : st'.loader.attached = ((st.loader.untrackHook (lanspeedSlot ifindex early .ingress))
    |>.untrackHook (lanspeedSlot ifindex early .egress)).attached

/-- `lanspeed_bpf_detach_iface_mode` works when its calls do not fail on filters that are there. -/
theorem detachIfaceMode_outcome (env : TcCallEnv) (ifname : CStr) (early : Bool) (st : TcState)
    (hfault : ∀ obj ifindex, Opens st ifname obj ifindex → ∀ point,
      st.kernel.programAt (lanspeedSlot ifindex early point) ≠ none → env.detach point = none) :
    SameTables st (lanspeedBpfDetachIfaceMode env ifname early st).2 ∧
        (∀ obj ifindex, ¬ Opens st ifname obj ifindex) ∨
      ∃ obj ifindex, Opens st ifname obj ifindex ∧
        IfaceDetached ifindex early st (lanspeedBpfDetachIfaceMode env ifname early st).2 := by
  unfold lanspeedBpfDetachIfaceMode
  cases hopen : openIface env ifname st with
  | error failed =>
    obtain ⟨err, st'⟩ := failed
    refine .inl ⟨openIface_error hopen, fun obj ifindex hopens => ?_⟩
    rw [openIface_ok_iff.mpr hopens] at hopen
    cases hopen
  | ok opened =>
    obtain ⟨obj, ifindex⟩ := opened
    have hopens := openIface_ok_iff.mp hopen
    refine .inr ⟨obj, ifindex, hopens, ?_⟩
    have hingress := programAt_detachPoint (hfault obj ifindex hopens .ingress)
    have htable : ∀ s, (detachPoint (env.detach .egress) (lanspeedSlot ifindex early .egress)
        (detachPoint (env.detach .ingress) (lanspeedSlot ifindex early .ingress)
          st.kernel)).programAt s
        = if s = lanspeedSlot ifindex early .ingress ∨
          s = lanspeedSlot ifindex early .egress then none
          else st.kernel.programAt s := by
      intro s
      rw [programAt_detachPoint fun hne => hfault obj ifindex hopens .egress ?_, hingress,
        Function.update_apply, Function.update_apply]
      · split_ifs <;> simp_all
      · rwa [hingress, Function.update_of_ne (by simp [lanspeedSlot_inj])] at hne
    refine ⟨by simp [TcState.countHooks], rfl, fun point => ?_, fun s hs => ?_, rfl⟩
    · refine (htable _).trans (if_pos ?_)
      cases point <;> simp
    · exact (htable s).trans (if_neg fun h => h.elim (hs .ingress) (hs .egress))

end Lanspeed
