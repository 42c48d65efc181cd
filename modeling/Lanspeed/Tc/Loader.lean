import Lanspeed.Tc.Kernel
import Lanspeed.Probe

/-!
# The loader's tc filters

The attach and detach functions of `lanspeed_bpf.c` on the kernel and on the table of attached
hooks. A libbpf call may fail by itself, with any error: what fails in one call of a loader function
is part of that call's environment.
-/

namespace Lanspeed

/-- `LANSPEED_BPF_TC_PREF`. -/
def lanspeedBpfTcPref : UInt32 := 49152

/-- `LANSPEED_BPF_TC_HANDLE`. -/
def lanspeedBpfTcHandle : UInt32 := 0x1eed

/-- `LANSPEED_BPF_TC_EARLY_PREF`. -/
def lanspeedBpfTcEarlyPref : UInt32 := 1

/-- `LANSPEED_BPF_TC_EARLY_HANDLE`. -/
def lanspeedBpfTcEarlyHandle : UInt32 := 0x1eee

/-- `LANSPEED_BPF_MAX_ATTACHED`. -/
def lanspeedBpfMaxAttached : ℕ := 16

/-- `LANSPEED_BPF_ERROR_LEN`. -/
def lanspeedBpfErrorLen : ℕ := 256

/-- The place of the lanspeed filter of a mode in one direction of an interface. -/
def lanspeedSlot (ifindex : ℕ) (early : Bool) (point : TcAttachPoint) : TcSlot :=
  { ifindex
    point
    priority := if early then lanspeedBpfTcEarlyPref else lanspeedBpfTcPref
    handle := if early then lanspeedBpfTcEarlyHandle else lanspeedBpfTcHandle }

/-- `struct attached_hook`. -/
structure AttachedHook where
  slot : TcSlot
  createdHook : Bool
deriving DecidableEq, Repr

/-- The fields of `struct lanspeed_bpf_status` that attaching and detaching write. -/
structure LanspeedBpfStatus extends LanspeedBpfReadStatus where
  attachedHookCount : ℕ := 0
  lastAttachMonotonicMs : UInt64 := 0
  selfHealCount : UInt64 := 0
  lastSelfHealMonotonicMs : UInt64 := 0
  lastSelfHealReason : CStr := []
  error : CStr := []
  objectPath : CStr := []
deriving DecidableEq, Repr

/-- `struct lanspeed_bpf_state`. The loaded object names its four programs; `none` is no object. -/
structure LoaderState where
  obj : Option ℕ := none
  attached : List AttachedHook := []
  status : LanspeedBpfStatus := {}
  attached_le : attached.length ≤ lanspeedBpfMaxAttached

/-- The loader at program start. -/
def LoaderState.init : LoaderState := { attached_le := Nat.zero_le _ }

/-- The kernel and the loader. -/
structure TcState where
  kernel : TcKernel
  loader : LoaderState

/-- What one call of a loader function on one interface meets: the clock, the error texts, and the
libbpf calls that fail by themselves. -/
structure TcCallEnv where
  nowMs : UInt64 := 0
  strerror : Errno → CStr := fun _ => []
  nameErrno : Errno := .enodev
  hookCreate : TcAttachPoint → Option Errno := fun _ => none
  attach : TcAttachPoint → Option Errno := fun _ => none
  hookDestroy : TcAttachPoint → Option Errno := fun _ => none
  query : TcAttachPoint → Option Errno := fun _ => none
  detach : TcAttachPoint → Option Errno := fun _ => none

/-- A libbpf call that fails when there is a fault. -/
def withFault {α : Type} (fault : Option Errno) (result : Except Errno α) : Except Errno α :=
  match fault with
  | some e => .error e
  | none => result

/-- `set_status_error`. -/
def TcState.setStatusError (st : TcState) (text : CStr) : TcState :=
  { st with loader := { st.loader with
      status := { st.loader.status with error := snprintf lanspeedBpfErrorLen text } } }

/-! ## The table of attached hooks -/

/-- `hook_tracked`. -/
def LoaderState.hookTracked (l : LoaderState) (s : TcSlot) : Bool :=
  l.attached.any (·.slot = s)

/-- Append a hook that is not tracked yet, where there is room. -/
def LoaderState.trackHook (l : LoaderState) (s : TcSlot) (createdHook : Bool) : LoaderState :=
  if h : !l.hookTracked s ∧ l.attached.length < lanspeedBpfMaxAttached then
    { l with
      attached := l.attached ++ [⟨s, createdHook⟩]
      attached_le := by
        have hlt := h.2
        rw [List.length_append, List.length_singleton]
        omega }
  else l

/-- `untrack_hook`. -/
def LoaderState.untrackHook (l : LoaderState) (s : TcSlot) : LoaderState :=
  { l with
    attached := l.attached.eraseP (·.slot = s)
    attached_le := Nat.le_trans List.length_eraseP_le l.attached_le }

/-! ## The attach and detach functions -/

/-- The text of a failed `bpf_tc_attach`. -/
def tcAttachFailed (env : TcCallEnv) (ifname : CStr) (point : TcAttachPoint) (err : Errno) : CStr :=
  "tc_attach_failed:".toList ++ ifname ++ ":".toList ++
    (if point = .ingress then "0".toList else "1".toList) ++ ":".toList ++ env.strerror err

/-- The part of `attach_point` after the hook is there. -/
def attachFilter (env : TcCallEnv) (ifname : CStr) (s : TcSlot) (program : TcProgram)
    (replace createdHook : Bool) (st : TcState) : Option Errno × TcState :=
  match withFault (env.attach s.point) (st.kernel.attach s program replace) with
  | .ok kernel => (none, { kernel, loader := st.loader.trackHook s createdHook })
  | .error err =>
    let st := st.setStatusError (tcAttachFailed env ifname s.point err)
    -- A hook that this call made is destroyed again; destroying one direction flushes its filters.
    let destroyed := createdHook && (env.hookDestroy s.point).isNone
    (some err,
      if destroyed then { st with kernel := st.kernel.hookDestroy s.ifindex s.point } else st)

/-- `attach_point`: the error it returns, and the state after it. -/
def attachPoint (env : TcCallEnv) (ifname : CStr) (s : TcSlot) (program : TcProgram)
    (replace : Bool) (st : TcState) : Option Errno × TcState :=
  match withFault (env.hookCreate s.point) (st.kernel.hookCreate s.ifindex) with
  | .ok kernel => attachFilter env ifname s program replace true { st with kernel }
  | .error err =>
    if err ≠ .eexist then
      (some err, st.setStatusError ("tc_hook_create_failed:".toList ++ ifname ++ ":-".toList ++
        decimal err.code))
    else attachFilter env ifname s program replace false st

/-- `hook_present`. -/
def hookPresent (env : TcCallEnv) (s : TcSlot) (st : TcState) : Bool :=
  (env.query s.point).isNone && (st.kernel.programAt s).isSome

/-- `detach_point`. -/
def detachPoint (fault : Option Errno) (s : TcSlot) (k : TcKernel) : TcKernel :=
  match withFault fault (k.detach s) with
  | .ok k => k
  | .error _ => k

/-- Attach the filter of one direction where it is missing; a filter that is there is tracked. -/
def ensurePoint (env : TcCallEnv) (ifname : CStr) (s : TcSlot) (program : TcProgram)
    (st : TcState) : Option Errno × TcState :=
  if !hookPresent env s st then attachPoint env ifname s program false st
  else (none, { st with loader := st.loader.trackHook s false })

/-- The checks at the start of the three functions on an interface: the loaded object and the index
of the interface, or the error and the state to return. -/
def openIface (env : TcCallEnv) (ifname : CStr) (st : TcState) :
    Except (Errno × TcState) (ℕ × ℕ) :=
  match st.loader.obj with
  | none => .error (.enoent, st.setStatusError "bpf_object_not_loaded".toList)
  | some obj =>
    if ifname.isEmpty then .error (.einval, st.setStatusError "ifname_empty".toList)
    else
      match st.kernel.ifNameToIndex ifname with
      | none =>
        .error (env.nameErrno, st.setStatusError ("if_nametoindex_failed:".toList ++ ifname))
      | some ifindex => .ok (obj, ifindex)

/-- The end of `lanspeed_bpf_attach_iface_mode`. -/
def TcState.attachDone (st : TcState) (nowMs : UInt64) : TcState :=
  { st with loader := { st.loader with
      status := { st.loader.status with
        anyAttached := true
        attachedHookCount := st.loader.attached.length
        lastAttachMonotonicMs := nowMs } } }

/-- `any_attached` and `attached_hook_count` from the table of attached hooks. -/
def TcState.countHooks (st : TcState) : TcState :=
  { st with loader := { st.loader with
      status := { st.loader.status with
        anyAttached := 0 < st.loader.attached.length
        attachedHookCount := st.loader.attached.length } } }

/-- `lanspeed_bpf_attach_iface_mode`: the error it returns, and the state after it. -/
def lanspeedBpfAttachIfaceMode (env : TcCallEnv) (ifname : CStr) (early : Bool) (st : TcState) :
    Option Errno × TcState :=
  match openIface env ifname st with
  | .error (err, st) => (some err, st)
  | .ok (obj, ifindex) =>
    match attachPoint env ifname (lanspeedSlot ifindex early .ingress)
        (.lanspeed .ingress early obj) false st with
    | (some err, st) => (some err, st)
    | (none, st) =>
      match ensurePoint env ifname (lanspeedSlot ifindex early .egress)
          (.lanspeed .egress early obj) st with
      | (some err, st) => (some err, st)
      | (none, st) => (none, st.attachDone env.nowMs)

/-- `lanspeed_bpf_detach_iface_mode`: the error it returns, and the state after it. -/
def lanspeedBpfDetachIfaceMode (env : TcCallEnv) (ifname : CStr) (early : Bool) (st : TcState) :
    Option Errno × TcState :=
  match openIface env ifname st with
  | .error (err, st) => (some err, st)
  | .ok (_, ifindex) =>
    let ingress := lanspeedSlot ifindex early .ingress
    let egress := lanspeedSlot ifindex early .egress
    let kernel := detachPoint (env.detach .egress) egress
      (detachPoint (env.detach .ingress) ingress st.kernel)
    -- The hooks are untracked whether or not the kernel calls worked.
    let loader := (st.loader.untrackHook ingress).untrackHook egress
    (none, TcState.countHooks { kernel, loader })

/-- The self-heal counters of `lanspeed_bpf_ensure_attached`. -/
def TcState.selfHealed (st : TcState) (nowMs : UInt64) (reason : CStr) : TcState :=
  let text := if reason.isEmpty then "owned_tc_filter_missing".toList else reason
  { st with loader := { st.loader with
      status := { st.loader.status with
        selfHealCount := st.loader.status.selfHealCount + 1
        lastSelfHealMonotonicMs := nowMs
        lastSelfHealReason := snprintf 64 text } } }

/-- `lanspeed_bpf_ensure_attached`: the error it returns, or whether a hook was restored, and the
state after it. -/
def lanspeedBpfEnsureAttached (env : TcCallEnv) (ifname : CStr) (early : Bool) (reason : CStr)
    (st : TcState) : Except Errno Bool × TcState :=
  match openIface env ifname st with
  | .error (err, st) => (.error err, st)
  | .ok (obj, ifindex) =>
    let ingress := lanspeedSlot ifindex early .ingress
    let egress := lanspeedSlot ifindex early .egress
    let ingressMissing := !hookPresent env ingress st
    match ensurePoint env ifname ingress (.lanspeed .ingress early obj) st with
    | (some err, st) => (.error err, st)
    | (none, st) =>
      let egressMissing := !hookPresent env egress st
      match ensurePoint env ifname egress (.lanspeed .egress early obj) st with
      | (some err, st) => (.error err, st)
      | (none, st) =>
        let restored := ingressMissing || egressMissing
        let st := if restored then st.selfHealed env.nowMs reason else st
        (.ok restored, st.countHooks)

/-- One turn of the loop of `lanspeed_bpf_detach_all`, with the faults of its two calls. -/
def detachHook (faults : AttachedHook → Bool → Option Errno) (k : TcKernel) (hook : AttachedHook) :
    TcKernel :=
  let place := fun early => lanspeedSlot hook.slot.ifindex early hook.slot.point
  detachPoint (faults hook false) (place false) (detachPoint (faults hook true) (place true) k)

/-- `lanspeed_bpf_detach_all`. -/
def lanspeedBpfDetachAll (faults : AttachedHook → Bool → Option Errno) (st : TcState) : TcState :=
  { kernel := st.loader.attached.foldl (detachHook faults) st.kernel
    loader :=
      { obj := st.loader.obj
        attached := []
        status := { st.loader.status with anyAttached := false, attachedHookCount := 0 }
        attached_le := Nat.zero_le _ } }

/-- `lanspeed_bpf_shutdown`. -/
def lanspeedBpfShutdown (faults : AttachedHook → Bool → Option Errno) (st : TcState) : TcState :=
  let st := lanspeedBpfDetachAll faults st
  { st with loader := { st.loader with
      obj := none, status := { st.loader.status with objectLoaded := false } } }

/-- How opening and loading the BPF object goes. -/
inductive ObjectLoad where
  | missing (err : Errno)
  | openFailed (err : ℕ)
  | loadFailed (err : Errno)
  | symbolsMissing
  | fdInvalid
  | loaded (obj : ℕ)
deriving DecidableEq, Repr

/-- The error text of a load that fails. -/
def ObjectLoad.error (strerror : Errno → CStr) : ObjectLoad → CStr
  | missing err => "bpf_object_missing:".toList ++ strerror err
  | openFailed err => "bpf_object_open_failed:-".toList ++ decimal err
  | loadFailed err => "bpf_object_load_failed:".toList ++ strerror err
  | symbolsMissing => "bpf_object_symbols_missing".toList
  | fdInvalid => "bpf_object_fd_invalid".toList
  | loaded _ => []

/-- `lanspeed_bpf_init`. -/
def lanspeedBpfInit (objectPath : CStr) (load : ObjectLoad) (strerror : Errno → CStr)
    (l : LoaderState) : Bool × LoaderState :=
  if l.obj.isSome then (true, l)
  else if objectPath.isEmpty then
    (false, { l with status := { error := "bpf_object_path_empty".toList } })
  else
    let status : LanspeedBpfStatus := { objectPath := snprintf 256 objectPath }
    match load with
    | .loaded obj =>
      (true, { l with obj := some obj, status := { status with objectLoaded := true } })
    | failed =>
      (false, { l with
        status := { status with error := snprintf lanspeedBpfErrorLen (failed.error strerror) } })

end Lanspeed
