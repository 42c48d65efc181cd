import Lanspeed.Tc.Effects
import Lanspeed.Lib.Machine

/-!
# Shutdown

Runs of the loader functions, mixed with what other components do to filters and devices. As long as
every filter that is attached is recorded in the table of attached hooks, `lanspeed_bpf_detach_all`
removes them all; the table has room for 16 hooks, and a hook that finds it full is not recorded.
-/

namespace Lanspeed

/-- What happens between the start of the loader and its shutdown. -/
inductive TcEvent where
  | attach (env : TcCallEnv) (ifname : CStr) (early : Bool)
  | ensure (env : TcCallEnv) (ifname : CStr) (early : Bool) (reason : CStr)
  | detach (env : TcCallEnv) (ifname : CStr) (early : Bool)
  | deleteFilters (p : TcSlot → Bool)
  | deleteDevice (ifindex : ℕ)
  | createDevice (d : NetDevice)

/-- One event. -/
def tcStep (st : TcState) : TcEvent → TcState
  | .attach env ifname early => (lanspeedBpfAttachIfaceMode env ifname early st).2
  | .ensure env ifname early reason => (lanspeedBpfEnsureAttached env ifname early reason st).2
  | .detach env ifname early => (lanspeedBpfDetachIfaceMode env ifname early st).2
  | .deleteFilters p => { st with kernel := st.kernel.deleteWhere p }
  | .deleteDevice ifindex => { st with kernel := st.kernel.deleteDevice ifindex }
  | .createDevice d => { st with kernel := st.kernel.createDevice d }

/-- No lanspeed filter is on any device. -/
def NoLanspeedFilters (k : TcKernel) : Prop := ∀ f ∈ k.filters, f.program.isLanspeed = false

instance (k : TcKernel) : Decidable (NoLanspeedFilters k) :=
  inferInstanceAs (Decidable (∀ f ∈ k.filters, f.program.isLanspeed = false))

instance (env : TcCallEnv) (s : TcSlot) (k : TcKernel) : Decidable (env.Attaches s k) :=
  decidable_of_iff (env.attach s.point = none ∧ (env.hookCreate s.point = none ∨
      env.hookCreate s.point = some .eexist ∧ s.ifindex ∈ k.clsact) ∧ k.programAt s = none)
    ⟨fun ⟨ha, hh, hf⟩ => ⟨ha, hh, hf⟩, fun ⟨ha, hh, hf⟩ => ⟨ha, hh, hf⟩⟩

/-! ## The condition on a call -/

/-- The filters that a call attaches on an interface find their hook in the table, or room
for it. -/
def RoomToRecord (env : TcCallEnv) (ifindex : ℕ) (early : Bool) (st : TcState) : Prop :=
  let ingress := lanspeedSlot ifindex early .ingress
  let egress := lanspeedSlot ifindex early .egress
  let attached := st.loader.attached.length
  (env.Attaches ingress st.kernel →
    st.loader.hookTracked ingress = true ∨ attached < lanspeedBpfMaxAttached) ∧
  (env.attach .egress = none →
    (env.hookCreate .egress = none ∨ env.hookCreate .egress = some .eexist) →
    st.kernel.programAt egress = none →
    st.loader.hookTracked egress = true ∨
      attached + (if st.loader.hookTracked ingress then 0 else 1) < lanspeedBpfMaxAttached)

/-- `P` holds of the interface index when the checks at the start of a call pass. -/
def WhenOpened (env : TcCallEnv) (ifname : CStr) (st : TcState) (P : ℕ → Prop) : Prop :=
  match openIface env ifname st with
  | .ok (_, ifindex) => P ifindex
  | .error _ => True

/-- What the events of a run meet: an attaching call that goes past its checks and its ingress
filter has room to record what it attaches, and no detach call fails on a filter that is there. -/
def Recorded (st : TcState) : TcEvent → Prop
  | .attach env ifname early => WhenOpened env ifname st fun ifindex =>
      env.Attaches (lanspeedSlot ifindex early .ingress) st.kernel →
        RoomToRecord env ifindex early st
  | .ensure env ifname early _ => WhenOpened env ifname st fun ifindex =>
      (hookPresent env (lanspeedSlot ifindex early .ingress) st = true ∨
          env.Attaches (lanspeedSlot ifindex early .ingress) st.kernel) →
        RoomToRecord env ifindex early st
  | .detach env ifname early => WhenOpened env ifname st fun ifindex =>
      (st.kernel.programAt (lanspeedSlot ifindex early .ingress) ≠ none →
        env.detach .ingress = none) ∧
        (st.kernel.programAt (lanspeedSlot ifindex early .egress) ≠ none →
          env.detach .egress = none)
  | _ => True

/-- What holds of whatever opens holds of what opens. -/
theorem WhenOpened.of_opens {env : TcCallEnv} {ifname : CStr} {st : TcState} {P : ℕ → Prop}
    (h : WhenOpened env ifname st P) {obj ifindex : ℕ} (hopens : Opens st ifname obj ifindex) :
    P ifindex := by
  rw [WhenOpened, openIface_ok_iff.mpr hopens] at h
  exact h

instance (env : TcCallEnv) (ifname : CStr) (st : TcState) (P : ℕ → Prop) [DecidablePred P] :
    Decidable (WhenOpened env ifname st P) :=
  match h : openIface env ifname st with
  | .ok (_, ifindex) => decidable_of_iff (P ifindex) (by rw [WhenOpened, h])
  | .error _ => .isTrue (by rw [WhenOpened, h]; trivial)

instance (env : TcCallEnv) (ifindex : ℕ) (early : Bool) (st : TcState) :
    Decidable (RoomToRecord env ifindex early st) :=
  inferInstanceAs (Decidable (_ ∧ _))

instance (st : TcState) : (e : TcEvent) → Decidable (Recorded st e)
  | .attach env ifname _ => inferInstanceAs (Decidable (WhenOpened env ifname st _))
  | .ensure env ifname _ _ => inferInstanceAs (Decidable (WhenOpened env ifname st _))
  | .detach env ifname _ => inferInstanceAs (Decidable (WhenOpened env ifname st _))
  | .deleteFilters _ => .isTrue trivial
  | .deleteDevice _ => .isTrue trivial
  | .createDevice _ => .isTrue trivial

/-! ## The table of attached hooks -/

/-- A tracked hook stays tracked when another is appended. -/
theorem hookTracked_trackHook_of_tracked {l : LoaderState} {s : TcSlot} (h : l.hookTracked s = true)
    (s' : TcSlot) (created : Bool) : (l.trackHook s' created).hookTracked s = true := by
  rw [LoaderState.trackHook]
  split_ifs with hnew
  · rw [LoaderState.hookTracked, List.any_append]
    exact Bool.or_eq_true_iff.mpr (.inl h)
  · exact h

/-- A hook is tracked after it was appended where there was room. -/
theorem hookTracked_trackHook_self {l : LoaderState} {s : TcSlot}
    (h : l.hookTracked s = true ∨ l.attached.length < lanspeedBpfMaxAttached) (created : Bool) :
    (l.trackHook s created).hookTracked s = true := by
  cases htracked : l.hookTracked s with
  | true => exact hookTracked_trackHook_of_tracked htracked s created
  | false =>
    have hroom := h.resolve_left (by simp [htracked])
    rw [LoaderState.trackHook, dif_pos ⟨by simp [htracked], hroom⟩, LoaderState.hookTracked,
      List.any_append]
    simp

/-- Tracking a hook adds at most the one that was not tracked. -/
theorem length_attached_trackHook (l : LoaderState) (s : TcSlot) (created : Bool) :
    (l.trackHook s created).attached.length
      ≤ l.attached.length + (if l.hookTracked s then 0 else 1) := by
  rw [LoaderState.trackHook]
  split_ifs with hnew htracked
  · simp [htracked] at hnew
  · simp
  · exact Nat.le_add_right _ _
  · exact Nat.le_add_right _ _

/-- Dropping one hook keeps the others. -/
theorem hookTracked_untrackHook {l : LoaderState} {s s' : TcSlot} (h : l.hookTracked s = true)
    (hne : s ≠ s') : (l.untrackHook s').hookTracked s = true := by
  obtain ⟨hook, hmem, hslot⟩ := List.any_eq_true.mp h
  have hslot : hook.slot = s := of_decide_eq_true hslot
  refine List.any_eq_true.mpr ⟨hook, ?_, decide_eq_true hslot⟩
  exact (List.mem_eraseP_of_neg (by simpa [hslot] using hne)).mpr hmem

/-- Whether a hook is tracked depends on the recorded hooks only. -/
theorem hookTracked_congr {l l' : LoaderState} (h : l.attached = l'.attached) (s : TcSlot) :
    l.hookTracked s = l'.hookTracked s := by
  rw [LoaderState.hookTracked, LoaderState.hookTracked, h]

/-! ## Every lanspeed filter is recorded -/

/-- Every lanspeed filter is at a lanspeed place, and its hook is tracked. -/
def OwnTracked (st : TcState) : Prop :=
  ∀ s p, st.kernel.programAt s = some p → p.isLanspeed = true →
    (∃ early, s = lanspeedSlot s.ifindex early s.point) ∧ st.loader.hookTracked s = true

/-- Where the tables are the same, the own filters stay tracked. -/
theorem OwnTracked.of_sameTables {st st' : TcState} (h : OwnTracked st)
    (hsame : SameTables st st') :
    OwnTracked st' := by
  intro s p hp hown
  rw [hsame.programAt] at hp
  rw [hookTracked_congr hsame.attached]
  exact h s p hp hown

/-- Filters that go away, or places that are emptied, leave the rest recorded. -/
theorem OwnTracked.of_fewer {st : TcState} (h : OwnTracked st) {k : TcKernel}
    (hfewer : ∀ s p, k.programAt s = some p → st.kernel.programAt s = some p) :
    OwnTracked { st with kernel := k } :=
  fun s p hp hown => h s p (hfewer s p hp) hown

/-- A place that is filled is recorded when there is room for a filter that is attached now. -/
theorem OwnTracked.of_pointFilled {env : TcCallEnv} {ifindex obj : ℕ} {early : Bool}
    {point : TcAttachPoint} {st st' : TcState} (h : OwnTracked st)
    (hfilled : PointFilled env (lanspeedSlot ifindex early point)
      (.lanspeed point early obj) st st')
    (hroom : env.Attaches (lanspeedSlot ifindex early point) st.kernel →
      st.loader.hookTracked (lanspeedSlot ifindex early point) = true ∨
        st.loader.attached.length < lanspeedBpfMaxAttached) : OwnTracked st' := by
  obtain ⟨created, hattached⟩ := hfilled.attached
  intro s p hp hown
  rw [hookTracked_congr hattached]
  rw [hfilled.programAt] at hp
  by_cases hs : s = lanspeedSlot ifindex early point
  · subst hs
    refine ⟨⟨early, rfl⟩, ?_⟩
    -- A filter that was there was recorded before; a new one finds room.
    cases hbefore : st.kernel.programAt (lanspeedSlot ifindex early point) with
    | some q =>
      rw [Function.update_self, hbefore, Option.getD_some] at hp
      obtain rfl := Option.some.inj hp
      exact hookTracked_trackHook_of_tracked (h _ _ hbefore hown).2 _ _
    | none =>
      have hattaches := hfilled.fillable.resolve_left (by simp [hookPresent, hbefore])
      exact hookTracked_trackHook_self (hroom hattaches) created
  · rw [Function.update_of_ne hs] at hp
    obtain ⟨hplace, htracked⟩ := h s p hp hown
    exact ⟨hplace, hookTracked_trackHook_of_tracked htracked _ _⟩

/-- After the ingress place, the egress place still has room if it had room for both. -/
theorem RoomToRecord.egress {env : TcCallEnv} {ifindex obj : ℕ} {early : Bool} {st st₁ : TcState}
    (h : RoomToRecord env ifindex early st)
    (hfilled : PointFilled env (lanspeedSlot ifindex early .ingress) (.lanspeed .ingress early obj)
      st st₁)
    (hattaches : env.Attaches (lanspeedSlot ifindex early .egress) st₁.kernel) :
    st₁.loader.hookTracked (lanspeedSlot ifindex early .egress) = true ∨
      st₁.loader.attached.length < lanspeedBpfMaxAttached := by
  obtain ⟨created, hattached⟩ := hfilled.attached
  have hfree := hattaches.free
  rw [hfilled.programAt, Function.update_of_ne (by simp [lanspeedSlot_inj])] at hfree
  rcases h.2 hattaches.attach (hattaches.hook.imp_right And.left) hfree with htracked | hroom
  · left
    rw [hookTracked_congr hattached]
    exact hookTracked_trackHook_of_tracked htracked _ _
  · right
    rw [hattached]
    exact Nat.lt_of_le_of_lt (length_attached_trackHook _ _ _) hroom

/-- A call that attaches keeps every filter recorded when it has room to record. -/
theorem OwnTracked.of_ifaceOutcome {env : TcCallEnv} {ifname : CStr} {early ok : Bool}
    {st st' : TcState} (h : OwnTracked st) (houtcome : IfaceOutcome env ifname early st ok st')
    (hroom : ∀ obj ifindex, Opens st ifname obj ifindex →
      hookPresent env (lanspeedSlot ifindex early .ingress) st = true ∨
        env.Attaches (lanspeedSlot ifindex early .ingress) st.kernel →
      RoomToRecord env ifindex early st) : OwnTracked st' := by
  cases houtcome with
  | nothing same => exact h.of_sameTables same
  | ingress obj ifindex opens filled same =>
    have hroom := hroom obj ifindex opens filled.fillable
    exact (h.of_pointFilled filled hroom.1).of_sameTables same
  | both obj ifindex opens filled filled' same =>
    have hroom := hroom obj ifindex opens filled.fillable
    exact ((h.of_pointFilled filled hroom.1).of_pointFilled filled'
      (hroom.egress filled)).of_sameTables same

/-- Detaching a mode on an interface keeps the filters that remain recorded. -/
theorem OwnTracked.of_ifaceDetached {ifindex : ℕ} {early : Bool} {st st' : TcState}
    (h : OwnTracked st) (hdetached : IfaceDetached ifindex early st st') : OwnTracked st' := by
  intro s p hp hown
  have hne : ∀ point, s ≠ lanspeedSlot ifindex early point := by
    rintro point rfl
    rw [hdetached.emptied point] at hp
    cases hp
  rw [hdetached.rest s hne] at hp
  obtain ⟨hplace, htracked⟩ := h s p hp hown
  rw [hookTracked_congr hdetached.attached]
  exact ⟨hplace, hookTracked_untrackHook (hookTracked_untrackHook htracked (hne _)) (hne _)⟩

/-- An event that meets the condition keeps every lanspeed filter recorded. -/
theorem ownTracked_tcStep (st : TcState) (e : TcEvent) (h : OwnTracked st) (hrec : Recorded st e) :
    OwnTracked (tcStep st e) := by
  cases e with
  | attach env ifname early =>
    obtain ⟨houtcome, hfails⟩ := attachIfaceMode_outcome env ifname early st
    -- The condition speaks of calls that attach; a call whose ingress filter fails changes nothing.
    by_cases hattaches : ∃ obj ifindex, Opens st ifname obj ifindex ∧
        ¬ env.Attaches (lanspeedSlot ifindex early .ingress) st.kernel
    · obtain ⟨obj, ifindex, hopens, hnot⟩ := hattaches
      exact h.of_sameTables ((hfails obj ifindex hopens).resolve_left hnot).2
    · apply h.of_ifaceOutcome houtcome
      intro obj ifindex hopens _
      exact WhenOpened.of_opens hrec hopens
        (by_contra fun hnot => hattaches ⟨obj, ifindex, hopens, hnot⟩)
  | ensure env ifname early reason =>
    exact h.of_ifaceOutcome (ensureAttached_outcome env ifname early st reason)
      fun obj ifindex hopens => WhenOpened.of_opens hrec hopens
  | detach env ifname early =>
    rcases detachIfaceMode_outcome env ifname early st fun obj ifindex hopens point hp => by
        have hdetach := WhenOpened.of_opens hrec hopens
        cases point with
        | ingress => exact hdetach.1 hp
        | egress => exact hdetach.2 hp
      with ⟨hsame, -⟩ | ⟨obj, ifindex, -, hdetached⟩
    · exact h.of_sameTables hsame
    · exact h.of_ifaceDetached hdetached
  | deleteFilters p =>
    exact h.of_fewer fun s q hq => TcKernel.programAt_of_deleteWhere hq
  | deleteDevice ifindex =>
    apply h.of_fewer
    intro s q hq
    have hmem := TcKernel.mem_filters_of_programAt hq
    exact TcKernel.programAt_of_mem (List.mem_of_mem_filter hmem)
  | createDevice d =>
    apply h.of_fewer
    intro s q hq
    have hmem := TcKernel.mem_filters_of_programAt hq
    rw [TcKernel.createDevice] at hmem
    split_ifs at hmem <;> exact TcKernel.programAt_of_mem hmem

/-! ## `lanspeed_bpf_detach_all` -/

/-- The places that `lanspeed_bpf_detach_all` empties for one hook. -/
def ClearedBy (hook : AttachedHook) (s : TcSlot) : Prop :=
  ∃ early, s = lanspeedSlot hook.slot.ifindex early hook.slot.point

/-- Detaching one hook empties its place in both modes. -/
theorem programAt_detachHook {faults : AttachedHook → Bool → Option Errno}
    (hfaults : ∀ hook early, faults hook early = none) (k : TcKernel) (hook : AttachedHook)
    (s : TcSlot) :
    ((detachHook faults k hook).programAt s = none ∧ ClearedBy hook s) ∨
      ((detachHook faults k hook).programAt s = k.programAt s ∧ ¬ ClearedBy hook s) := by
  have htable : (detachHook faults k hook).programAt
      = Function.update (Function.update k.programAt
          (lanspeedSlot hook.slot.ifindex true hook.slot.point) none)
          (lanspeedSlot hook.slot.ifindex false hook.slot.point) none := by
    rw [detachHook, programAt_detachPoint fun _ => hfaults hook false,
      programAt_detachPoint fun _ => hfaults hook true]
  rw [htable]
  by_cases hnormal : s = lanspeedSlot hook.slot.ifindex false hook.slot.point
  · exact .inl ⟨by rw [hnormal, Function.update_self], false, hnormal⟩
  · rw [Function.update_of_ne hnormal]
    by_cases hearly : s = lanspeedSlot hook.slot.ifindex true hook.slot.point
    · exact .inl ⟨by rw [hearly, Function.update_self], true, hearly⟩
    · refine .inr ⟨Function.update_of_ne hearly _ _, ?_⟩
      rintro ⟨_ | _, hs⟩
      · exact hnormal hs
      · exact hearly hs

/-- Detaching a list of hooks leaves the programs that no hook clears. -/
theorem programAt_foldl_detachHook {faults : AttachedHook → Bool → Option Errno}
    (hfaults : ∀ hook early, faults hook early = none) (hooks : List AttachedHook) (k : TcKernel)
    {s : TcSlot} {p : TcProgram} (hp : (hooks.foldl (detachHook faults) k).programAt s = some p) :
    k.programAt s = some p ∧ ∀ hook ∈ hooks, ¬ ClearedBy hook s := by
  induction hooks generalizing k with
  | nil => exact ⟨hp, fun _ h => absurd h List.not_mem_nil⟩
  | cons hook hooks ih =>
    obtain ⟨hkept, hrest⟩ := ih (detachHook faults k hook) hp
    rcases programAt_detachHook hfaults k hook s with ⟨hnone, -⟩ | ⟨hsame, hnot⟩
    · rw [hnone] at hkept
      cases hkept
    · exact ⟨hsame ▸ hkept, List.forall_mem_cons.mpr ⟨hnot, hrest⟩⟩

/-- When every lanspeed filter is recorded, `lanspeed_bpf_detach_all` leaves none. -/
theorem OwnTracked.detachAll {st : TcState} (h : OwnTracked st)
    {faults : AttachedHook → Bool → Option Errno}
    (hfaults : ∀ hook early, faults hook early = none) :
    NoLanspeedFilters (lanspeedBpfDetachAll faults st).kernel := by
  intro f hf
  by_contra hown
  obtain ⟨hp, hcleared⟩ := programAt_foldl_detachHook hfaults st.loader.attached st.kernel
    (TcKernel.programAt_of_mem hf)
  obtain ⟨⟨early, hplace⟩, htracked⟩ := h f.slot f.program hp (by simpa using hown)
  obtain ⟨hook, hmem, hslot⟩ := List.any_eq_true.mp htracked
  have hslot : hook.slot = f.slot := of_decide_eq_true hslot
  exact hcleared hook hmem ⟨early, by rw [hslot]; exact hplace⟩

/-- In every run that starts without lanspeed filters and has room to record each filter that it
attaches, `lanspeed_bpf_detach_all` leaves no lanspeed filter behind. -/
theorem detachAll_leaves_nothing (st : TcState) (hclean : NoLanspeedFilters st.kernel)
    (evs : List TcEvent) (hrec : Machine.Along tcStep Recorded st evs)
    (faults : AttachedHook → Bool → Option Errno)
    (hfaults : ∀ hook early, faults hook early = none) :
    NoLanspeedFilters (lanspeedBpfDetachAll faults (Machine.run tcStep st evs)).kernel := by
  -- No lanspeed filters at the start, so all of them are recorded.
  have hstart : OwnTracked st := by
    intro s p hp hown
    rw [hclean _ (TcKernel.mem_filters_of_programAt hp)] at hown
    cases hown
  exact (Machine.run_invariant_along tcStep ownTracked_tcStep hstart hrec).detachAll hfaults

/-- The name of the LAN port `i`. -/
def lanName (i : ℕ) : CStr := "lan".toList ++ decimal i

/-- The LAN ports `lan1`, `lan2`, … under the indexes 1, 2, … -/
def lanPorts (count : ℕ) : List NetDevice :=
  (List.range count).map fun i => ⟨lanName (i + 1), i + 1, Nat.succ_pos i⟩

/-- The loaded object over nine LAN ports without filters. -/
def ninePorts : TcState where
  kernel :=
    { devices := lanPorts 9
      clsact := []
      filters := []
      names_distinct := by decide +kernel
      ifindexes_distinct := by decide +kernel
      slots_distinct := Keyed.distinct_nil _
      clsact_live := by simp
      filters_clsact := by simp }
  loader := { LoaderState.init with obj := some 1 }

/-- `lan1` is attached, goes away, comes back under another index, and is healed. -/
def portReplaced : List TcEvent :=
  [.attach {} (lanName 1) false, .deleteDevice 1, .createDevice ⟨lanName 1, 10, by decide⟩,
    .ensure {} (lanName 1) false []]

/-- Nine ports, one of which is replaced by a new device during the run. -/
theorem detachAll_leaves_nothing_portReplaced :
    NoLanspeedFilters
      (lanspeedBpfDetachAll (fun _ _ => none) (Machine.run tcStep ninePorts portReplaced)).kernel :=
  detachAll_leaves_nothing ninePorts (by decide) portReplaced (by decide +kernel) _ fun _ _ => rfl

/-- The hooks of nine ports are more than the table holds: the filters of the last port stay. -/
theorem detachAll_leaves_ninth_port :
    NoLanspeedFilters ninePorts.kernel ∧
      ¬ NoLanspeedFilters
        (lanspeedBpfDetachAll (fun _ _ => none) (Machine.run tcStep ninePorts
          ((List.range 9).map fun i => .attach {} (lanName (i + 1)) false))).kernel := by
  refine ⟨by decide, ?_⟩
  decide +kernel

end Lanspeed
