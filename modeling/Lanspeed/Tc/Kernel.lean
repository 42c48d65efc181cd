import Lanspeed.Identity
import Lanspeed.Lib.Keyed
import Mathlib.Logic.Function.Basic

/-!
# Traffic control in the kernel

The network devices, their clsact qdiscs and the tc filters on them, with the libbpf calls that the
loader makes. A call is a function of the kernel state that hands back the new state or an error;
the filter table is read through `programAt`, the program at each place of the table.
-/

namespace Lanspeed

/-- An error number. -/
structure Errno where
  code : ℕ
  pos : 0 < code
deriving DecidableEq, Repr

/-- `ENOENT`. -/
def Errno.enoent : Errno := ⟨2, by decide⟩

/-- `EEXIST`. -/
def Errno.eexist : Errno := ⟨17, by decide⟩

/-- `ENODEV`. -/
def Errno.enodev : Errno := ⟨19, by decide⟩

/-- `EINVAL`. -/
def Errno.einval : Errno := ⟨22, by decide⟩

/-- `BPF_TC_INGRESS` and `BPF_TC_EGRESS`. -/
inductive TcAttachPoint where
  | ingress
  | egress
deriving DecidableEq, Repr

/-- The place of a filter: an interface, a direction, and the pref/handle pair there. -/
structure TcSlot where
  ifindex : ℕ
  point : TcAttachPoint
  priority : UInt32
  handle : UInt32
deriving DecidableEq, Repr

/-- The program of a filter: one of the four lanspeed programs, out of the loaded object `object`,
or that of another component. -/
inductive TcProgram where
  | lanspeed (point : TcAttachPoint) (early : Bool) (object : ℕ)
  | foreign (label : CStr)
deriving DecidableEq, Repr

/-- The program is one of the four lanspeed programs. -/
def TcProgram.isLanspeed : TcProgram → Bool
  | lanspeed _ _ _ => true
  | foreign _ => false

/-- A tc filter. -/
structure TcFilter where
  slot : TcSlot
  program : TcProgram
deriving DecidableEq, Repr

/-- A network device. -/
structure NetDevice where
  name : CStr
  ifindex : ℕ
  ifindex_pos : 0 < ifindex
deriving DecidableEq, Repr

/-- The devices, their clsact qdiscs and the filters on these. -/
structure TcKernel where
  devices : List NetDevice
  clsact : List ℕ
  filters : List TcFilter
  names_distinct : Keyed.Distinct NetDevice.name devices
  ifindexes_distinct : Keyed.Distinct NetDevice.ifindex devices
  slots_distinct : Keyed.Distinct TcFilter.slot filters
  clsact_live : ∀ i ∈ clsact, i ∈ devices.map NetDevice.ifindex
  filters_clsact : ∀ f ∈ filters, f.slot.ifindex ∈ clsact

theorem noFilters_clsact : ∀ f ∈ ([] : List TcFilter), f.slot.ifindex ∈ ([] : List ℕ) := by simp

/-- Some devices without a qdisc or a filter. -/
def TcKernel.bare (devices : List NetDevice) (hnames : Keyed.Distinct NetDevice.name devices)
    (hifindexes : Keyed.Distinct NetDevice.ifindex devices) : TcKernel :=
  { devices := devices
    clsact := []
    filters := []
    names_distinct := hnames
    ifindexes_distinct := hifindexes
    slots_distinct := Keyed.distinct_nil _
    clsact_live := by simp
    filters_clsact := noFilters_clsact }

namespace TcKernel

variable (k : TcKernel)

/-- The program at a place of the filter table. -/
def programAt (s : TcSlot) : Option TcProgram :=
  (Keyed.lookup TcFilter.slot s k.filters).map TcFilter.program

/-- `if_nametoindex`; `none` when there is no such device. -/
def ifNameToIndex (name : CStr) : Option ℕ :=
  (Keyed.lookup NetDevice.name name k.devices).map NetDevice.ifindex

/-! ## The libbpf calls -/

/-- `bpf_tc_hook_create`: add a clsact qdisc to a device that has none. -/
def hookCreate (ifindex : ℕ) : Except Errno TcKernel :=
  if ifindex ∈ k.clsact then .error .eexist
  else if h : ifindex ∈ k.devices.map NetDevice.ifindex then
    .ok { k with
      clsact := ifindex :: k.clsact
      clsact_live := List.forall_mem_cons.mpr ⟨h, k.clsact_live⟩
      filters_clsact := fun f hf => List.mem_cons_of_mem _ (k.filters_clsact f hf) }
  else .error .enodev

/-- `bpf_tc_attach`: add a filter at a free place, or replace the one there
with `BPF_TC_F_REPLACE`. -/
def attach (s : TcSlot) (program : TcProgram) (replace : Bool) : Except Errno TcKernel :=
  if h : s.ifindex ∈ k.clsact then
    if hs : Keyed.lookup TcFilter.slot s k.filters = none then
      .ok { k with
        filters := k.filters ++ [⟨s, program⟩]
        slots_distinct := k.slots_distinct.append_fresh hs
        filters_clsact := List.forall_mem_append.mpr
          ⟨k.filters_clsact, List.forall_mem_singleton.mpr h⟩ }
    else if replace then
      .ok { k with
        filters := Keyed.modify TcFilter.slot s (fun f => { f with program }) k.filters
        slots_distinct := k.slots_distinct.modify fun _ => rfl
        filters_clsact := by
          intro f hf
          rcases Keyed.mem_modify hf with hf | ⟨f', hf', -, rfl⟩
          · exact k.filters_clsact f hf
          · exact k.filters_clsact f' hf' }
    else .error .eexist
  else .error .einval

/-- Delete the filters at the places that meet `p`. -/
def deleteWhere (p : TcSlot → Bool) : TcKernel :=
  { k with
    filters := k.filters.filter fun f => !p f.slot
    slots_distinct := k.slots_distinct.filter _
    filters_clsact := fun f hf => k.filters_clsact f (List.mem_of_mem_filter hf) }

/-- `bpf_tc_detach`: delete the filter at a place. -/
def detach (s : TcSlot) : Except Errno TcKernel :=
  if k.programAt s = none then .error .enoent else .ok (k.deleteWhere (· = s))

/-- `bpf_tc_hook_destroy` on one direction: delete all filters there. -/
def hookDestroy (ifindex : ℕ) (point : TcAttachPoint) : TcKernel :=
  k.deleteWhere fun s => s.ifindex = ifindex ∧ s.point = point

/-! ## What others do -/

/-- A device goes away, with its qdisc and its filters. -/
def deleteDevice (ifindex : ℕ) : TcKernel :=
  { devices := k.devices.filter (·.ifindex ≠ ifindex)
    clsact := k.clsact.filter (· ≠ ifindex)
    filters := k.filters.filter (·.slot.ifindex ≠ ifindex)
    names_distinct := k.names_distinct.filter _
    ifindexes_distinct := k.ifindexes_distinct.filter _
    slots_distinct := k.slots_distinct.filter _
    clsact_live := by
      intro i hi
      obtain ⟨hi, hne⟩ := List.mem_filter.mp hi
      obtain ⟨d, hd, rfl⟩ := List.mem_map.mp (k.clsact_live i hi)
      exact List.mem_map_of_mem (List.mem_filter.mpr ⟨hd, hne⟩)
    filters_clsact := by
      intro f hf
      obtain ⟨hf, hne⟩ := List.mem_filter.mp hf
      exact List.mem_filter.mpr ⟨k.filters_clsact f hf, hne⟩ }

/-- A device appears, under a name and an index that are free. -/
def createDevice (d : NetDevice) : TcKernel :=
  if h : Keyed.lookup NetDevice.name d.name k.devices = none ∧
      Keyed.lookup NetDevice.ifindex d.ifindex k.devices = none then
    { k with
      devices := k.devices ++ [d]
      names_distinct := k.names_distinct.append_fresh h.1
      ifindexes_distinct := k.ifindexes_distinct.append_fresh h.2
      clsact_live := fun i hi => by
        rw [List.map_append]
        exact List.mem_append_left _ (k.clsact_live i hi) }
  else k

/-! ## The filter table after each call -/

variable {k}

@[simp] theorem deleteWhere_devices (p : TcSlot → Bool) :
    (k.deleteWhere p).devices = k.devices := rfl

/-- Deleting filters changes the table at the places that are deleted only. -/
theorem programAt_deleteWhere (p : TcSlot → Bool) (s : TcSlot) :
    (k.deleteWhere p).programAt s = if p s then none else k.programAt s := by
  rw [programAt, deleteWhere, Keyed.lookup_filter_key (fun s => !p s)]
  cases p s <;> rfl

/-- What is left after a deletion was there before. -/
theorem programAt_of_deleteWhere {p : TcSlot → Bool} {s : TcSlot} {program : TcProgram}
    (h : (k.deleteWhere p).programAt s = some program) : k.programAt s = some program := by
  rw [programAt_deleteWhere] at h
  split_ifs at h
  exact h

/-- A program at a place is that of a filter of the table. -/
theorem mem_filters_of_programAt {s : TcSlot} {program : TcProgram}
    (h : k.programAt s = some program) : ⟨s, program⟩ ∈ k.filters := by
  obtain ⟨f, hf, rfl⟩ := Option.map_eq_some_iff.mp h
  obtain rfl := Keyed.key_of_lookup hf
  exact Keyed.mem_of_lookup hf

/-- A filter of the table is found at its place. -/
theorem programAt_of_mem {f : TcFilter} (h : f ∈ k.filters) :
    k.programAt f.slot = some f.program := by
  rw [programAt, k.slots_distinct.lookup_of_mem h]
  rfl

/-- The filters are those that the table shows. -/
theorem mem_filters_iff {f : TcFilter} :
    f ∈ k.filters ↔ k.programAt f.slot = some f.program :=
  ⟨programAt_of_mem, fun h => mem_filters_of_programAt h⟩

/-- A successful `bpf_tc_hook_create` finds a device without filters and leaves the table alone. -/
theorem hookCreate_ok {k' : TcKernel} {ifindex : ℕ} (h : k.hookCreate ifindex = .ok k') :
    k'.devices = k.devices ∧ k'.programAt = k.programAt ∧ ifindex ∈ k'.clsact ∧
      ∀ s : TcSlot, s.ifindex = ifindex → k.programAt s = none := by
  unfold hookCreate at h
  split_ifs at h with hmem hlive
  obtain rfl := Except.ok.inj h
  refine ⟨rfl, rfl, List.mem_cons_self, fun s hs => ?_⟩
  -- A filter there would need the qdisc that the device did not have.
  by_contra hne
  obtain ⟨program, hp⟩ := Option.ne_none_iff_exists'.mp hne
  exact hmem (hs ▸ k.filters_clsact _ (mem_filters_of_programAt hp))

/-- A device without a clsact qdisc can be given one. -/
theorem hookCreate_of_live {ifindex : ℕ} (h : ifindex ∈ k.devices.map NetDevice.ifindex)
    (hnew : ifindex ∉ k.clsact) : ∃ k', k.hookCreate ifindex = .ok k' := by
  rw [hookCreate, if_neg hnew, dif_pos h]
  exact ⟨_, rfl⟩

/-- A successful `bpf_tc_attach` without replacement fills a free place of a device with a clsact
qdisc. -/
theorem attach_ok {k' : TcKernel} {s : TcSlot} {program : TcProgram}
    (h : k.attach s program false = .ok k') :
    k'.devices = k.devices ∧ s.ifindex ∈ k.clsact ∧ k.programAt s = none ∧
      k'.programAt = Function.update k.programAt s (some program) := by
  simp only [attach, Bool.false_eq_true, if_false] at h
  split_ifs at h with hclsact hs
  obtain rfl := Except.ok.inj h
  refine ⟨rfl, hclsact, by rw [programAt, hs]; rfl, funext fun s' => ?_⟩
  have hfresh : Keyed.lookup TcFilter.slot (TcFilter.slot ⟨s, program⟩) k.filters = none := hs
  rw [programAt, Keyed.lookup_append_fresh hfresh]
  by_cases heq : s' = s
  · subst heq
    simp
  · rw [Function.update_of_ne heq, if_neg (fun h => heq h.symm)]
    rfl

/-- `bpf_tc_attach` succeeds at a free place of a device with a clsact qdisc. -/
theorem attach_of_free {s : TcSlot} (program : TcProgram) (replace : Bool)
    (hclsact : s.ifindex ∈ k.clsact) (hfree : k.programAt s = none) :
    ∃ k', k.attach s program replace = .ok k' := by
  have hs : Keyed.lookup TcFilter.slot s k.filters = none := Option.map_eq_none_iff.mp hfree
  rw [attach, dif_pos hclsact, dif_pos hs]
  exact ⟨_, rfl⟩

end TcKernel

end Lanspeed
