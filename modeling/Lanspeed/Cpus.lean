import Lanspeed.Datapath
import Lanspeed.Lib.Interleave
import Mathlib.Algebra.Order.BigOperators.Group.List
import Mathlib.Algebra.Order.Group.Nat

/-!
# The datapath on several CPUs

`account_frame` as it runs while other CPUs run it too: each call of a map helper, each atomic add
and the store to `last_seen` is one action, and the actions of all executions interleave. Nothing is
evicted and there is room in the maps, so `bpf_map_update_elem` with `BPF_NOEXIST` fails only where
the entry is there already. A schedule counts every frame if and only if no execution finds, when it
creates an entry, that another one has created it since its lookup (`frames_counted_iff`).
-/

namespace Lanspeed

/-- What one execution of a classifier section is given. -/
structure AccountCall where
  skb : SkBuff
  direction : UInt8
  env : HelperEnv

/-- The key under which a frame is accounted, if it is. -/
def AccountCall.key (call : AccountCall) : Option LanspeedKey := frameKey call.skb call.direction

/-- The next access that `account_frame` makes to a map. -/
inductive AccountPc where
  | lookup
  | create
  | relookup
  | addBytes
  | addPackets
  | storeLastSeen
  | seenLookup (connKey : LanspeedConnKey) (tuple : BpfSockTuple)
  | ctLookup (connKey : LanspeedConnKey) (tuple : BpfSockTuple)
  | seenUpdate (connKey : LanspeedConnKey)
  | addConnection (proto : UInt8)
  | done
  | refused
deriving DecidableEq, Repr

/-- An execution of `account_frame`: what it was given, and where it is. -/
structure AccountRun extends AccountCall where
  pc : AccountPc

/-- The execution at its first access. -/
def AccountCall.start (call : AccountCall) : AccountRun := ⟨call, .lookup⟩

def AccountRun.goto (t : AccountRun) (pc : AccountPc) : AccountRun := { t with pc }

/-- Where `account_frame` goes with the counters in hand: into `try_count_connection` on the side of
the client that sends, whose parsing half touches no map. -/
def AccountRun.connectionPc (t : AccountRun) (key : LanspeedKey) : AccountPc :=
  if t.direction = lanspeedDirTx then
    match t.env.ctLookup, parseEthHdr t.skb.data with
    | some _, some (eth, l3) =>
      match parseConnection key.mac eth l3 with
      | none => .done
      | some (connKey, tuple) => .seenLookup connKey tuple
    | _, _ => .done
  else .done

/-- The next action of an execution; a frame without a key makes none. -/
def accountAct (maps : DatapathMaps) (t : AccountRun) : Option (DatapathMaps × AccountRun) :=
  match t.key with
  | none => none
  | some key =>
    match t.pc with
    | .lookup =>
      match Keyed.lookup Prod.fst key maps.clients with
      | none => some (maps, t.goto .create)
      | some _ => some (maps, t.goto .addBytes)
    | .create =>
      match Keyed.lookup Prod.fst key maps.clients with
      -- `-EEXIST`: the program returns.
      | some _ => some (maps, t.goto .refused)
      | none =>
        some ({ maps with clients := maps.clients ++ [(key, .initial t.skb.len t.env.ktimeNs)] },
          t.goto .relookup)
    | .relookup =>
      match Keyed.lookup Prod.fst key maps.clients with
      | none => some (maps, t.goto .done)
      | some _ => some (maps, t.goto (t.connectionPc key))
    | .addBytes =>
      some ({ maps with
        clients := updateCounters key (fun c => { c with bytes := c.bytes + t.skb.len.toUInt64 })
          maps.clients }, t.goto .addPackets)
    | .addPackets =>
      some ({ maps with
        clients := updateCounters key (fun c => { c with packets := c.packets + 1 }) maps.clients },
        t.goto .storeLastSeen)
    | .storeLastSeen =>
      some ({ maps with
        clients :=
          updateCounters key (fun c => { c with lastSeen := t.env.ktimeNs }) maps.clients },
        t.goto (t.connectionPc key))
    | .seenLookup connKey tuple =>
      if connKey ∈ maps.seenConns then some (maps, t.goto .done)
      else some (maps, t.goto (.ctLookup connKey tuple))
    | .ctLookup connKey tuple =>
      match t.env.ctLookup with
      | none => some (maps, t.goto .done)
      | some ctLookup =>
        if ctLookup tuple connKey.proto then some (maps, t.goto (.seenUpdate connKey))
        else some (maps, t.goto .done)
    | .seenUpdate connKey =>
      -- The result of the update is not looked at.
      some ({ maps with
        seenConns :=
          if t.env.seenUpdateOk && connKey ∉ maps.seenConns then connKey :: maps.seenConns
          else maps.seenConns },
        t.goto (.addConnection connKey.proto))
    | .addConnection proto =>
      some ({ maps with clients := updateCounters key (.addConnection proto) maps.clients },
        t.goto .done)
    | .done => none
    | .refused => none

/-- Executions that share the maps. -/
abbrev Cpus := Interleave.System DatapathMaps AccountRun

/-- All executions at their start, on maps that are still empty. -/
def Cpus.start (calls : List AccountCall) : Cpus := ⟨{}, calls.map AccountCall.start⟩

/-- An execution has returned. -/
def AccountRun.finished (t : AccountRun) : Bool :=
  t.key.isNone || t.pc == .done || t.pc == .refused

/-! ## What one action does -/

/-- The execution has its frame in the counters, up to the packet count. -/
def AccountPc.counted : AccountPc → Bool
  | .lookup => false
  | .create => false
  | .addBytes => false
  | .addPackets => false
  | .refused => false
  | _ => true

/-- What an action does to the entries and to the place of its execution. -/
inductive AccountStep (call : AccountCall) (key : LanspeedKey)
    (clients : List (LanspeedKey × LanspeedCounters)) :
    AccountPc → List (LanspeedKey × LanspeedCounters) → AccountPc → Prop
  | missed (h : Keyed.lookup Prod.fst key clients = none) :
    AccountStep call key clients .lookup clients .create
  | found (h : (Keyed.lookup Prod.fst key clients).isSome) :
    AccountStep call key clients .lookup clients .addBytes
  | refused (h : (Keyed.lookup Prod.fst key clients).isSome) :
    AccountStep call key clients .create clients .refused
  | created (h : Keyed.lookup Prod.fst key clients = none) :
    AccountStep call key clients .create
      (clients ++ [(key, .initial call.skb.len call.env.ktimeNs)]) .relookup
  | addBytes :
    AccountStep call key clients .addBytes
      (updateCounters key (fun c => { c with bytes := c.bytes + call.skb.len.toUInt64 }) clients)
      .addPackets
  | addPackets :
    AccountStep call key clients .addPackets
      (updateCounters key (fun c => { c with packets := c.packets + 1 }) clients) .storeLastSeen
  | idle {pc pc' : AccountPc} (hpc : pc.counted = true) (hpc' : pc'.counted = true) :
    AccountStep call key clients pc clients pc'
  | touch {pc pc' : AccountPc} (hpc : pc.counted = true) (hpc' : pc'.counted = true)
    {f : LanspeedCounters → LanspeedCounters}
    (hf : ∀ c, (f c).bytes = c.bytes ∧ (f c).packets = c.packets) :
    AccountStep call key clients pc (updateCounters key f clients) pc'

/-- A call that goes on to the connection has counted its frame. -/
theorem AccountRun.counted_connectionPc (t : AccountRun) (key : LanspeedKey) :
    (t.connectionPc key).counted = true := by
  unfold connectionPc
  split
  · split
    · split <;> rfl
    · rfl
  · rfl

/-- Every action is one of these steps. -/
theorem accountStep_of_act {maps maps' : DatapathMaps} {t t' : AccountRun}
    (h : accountAct maps t = some (maps', t')) :
    ∃ key, t.key = some key ∧ t'.toAccountCall = t.toAccountCall ∧
      AccountStep t.toAccountCall key maps.clients t.pc maps'.clients t'.pc := by
  unfold accountAct at h
  cases hkey : t.key with
  | none => rw [hkey] at h; exact absurd h.symm (Option.some_ne_none _)
  | some key =>
    refine ⟨key, rfl, ?_⟩
    rw [hkey] at h
    cases hpc : t.pc with
    | lookup =>
      simp only [hpc] at h
      split at h <;> cases h
      · exact ⟨rfl, .missed ‹_›⟩
      · exact ⟨rfl, .found (Option.isSome_iff_exists.mpr ⟨_, ‹_›⟩)⟩
    | create =>
      simp only [hpc] at h
      split at h <;> cases h
      · exact ⟨rfl, .refused (Option.isSome_iff_exists.mpr ⟨_, ‹_›⟩)⟩
      · exact ⟨rfl, .created ‹_›⟩
    | relookup =>
      simp only [hpc] at h
      split at h <;> cases h
      · exact ⟨rfl, .idle rfl rfl⟩
      · exact ⟨rfl, .idle rfl (t.counted_connectionPc key)⟩
    | addBytes =>
      simp only [hpc] at h
      cases h
      exact ⟨rfl, .addBytes⟩
    | addPackets =>
      simp only [hpc] at h
      cases h
      exact ⟨rfl, .addPackets⟩
    | storeLastSeen =>
      simp only [hpc] at h
      cases h
      exact ⟨rfl, .touch (f := fun c => { c with lastSeen := t.env.ktimeNs }) rfl
        (t.counted_connectionPc key) fun _ => ⟨rfl, rfl⟩⟩
    | seenLookup connKey tuple =>
      simp only [hpc] at h
      split at h <;> cases h <;> exact ⟨rfl, .idle rfl rfl⟩
    | ctLookup connKey tuple =>
      simp only [hpc] at h
      split at h
      · cases h
        exact ⟨rfl, .idle rfl rfl⟩
      · split at h <;> cases h <;> exact ⟨rfl, .idle rfl rfl⟩
    | seenUpdate connKey =>
      simp only [hpc] at h
      cases h
      exact ⟨rfl, .idle rfl rfl⟩
    | addConnection proto =>
      simp only [hpc] at h
      cases h
      refine ⟨rfl, .touch rfl rfl fun c => ?_⟩
      rw [LanspeedCounters.addConnection]
      split <;> exact ⟨rfl, rfl⟩
    | done => simp only [hpc, reduceCtorEq] at h
    | refused => simp only [hpc, reduceCtorEq] at h

/-! ## One execution on its own -/

/-- Alone, a call that acts goes on from the state it leaves. -/
theorem run_alone_of_act {maps maps' : DatapathMaps} {t t' : AccountRun}
    (h : accountAct maps t = some (maps', t')) (n : ℕ) :
    Interleave.run accountAct ⟨maps, [t]⟩ (List.replicate (n + 1) 0)
      = Interleave.run accountAct ⟨maps', [t']⟩ (List.replicate n 0) := by
  have hstep : Interleave.stepAt accountAct ⟨maps, [t]⟩ 0 = ⟨maps', [t']⟩ := by
    rw [Interleave.stepAt, List.getElem?_cons_zero]
    dsimp only
    rw [h]
    rfl
  rw [List.replicate_succ, Interleave.run, Machine.run_cons, hstep]

/-- Alone, a call that is finished changes nothing more. -/
theorem run_alone_of_none {maps : DatapathMaps} {t : AccountRun} (h : accountAct maps t = none)
    (n : ℕ) : Interleave.run accountAct ⟨maps, [t]⟩ (List.replicate n 0) = ⟨maps, [t]⟩ := by
  have hstep : Interleave.stepAt accountAct ⟨maps, [t]⟩ 0 = ⟨maps, [t]⟩ := by
    rw [Interleave.stepAt, List.getElem?_cons_zero]
    dsimp only
    rw [h]
  induction n with
  | zero => rfl
  | succ n ih => rw [List.replicate_succ, Interleave.run, Machine.run_cons, hstep]; exact ih

/-- The execution at another place, with its key. -/
theorem key_goto (t : AccountRun) (pc : AccountPc) : (t.goto pc).key = t.key := rfl

/-- With the counters in hand, an execution on its own does what `try_count_connection` does. -/
theorem run_alone_connection (maps : DatapathMaps) {t : AccountRun} {key : LanspeedKey}
    {eth : EthHdr} {l3 : List UInt8} (hkey : t.key = some key)
    (heth : parseEthHdr t.skb.data = some (eth, l3)) (n : ℕ) :
    (Interleave.run accountAct ⟨maps, [t.goto (t.connectionPc key)]⟩
      (List.replicate (n + 4) 0)).shared
      = if t.direction = lanspeedDirTx then tryCountConnection t.env maps key eth l3 else maps := by
  have hdone : ∀ maps' : DatapathMaps, accountAct maps' (t.goto .done) = none := by
    intro maps'
    rw [accountAct, key_goto, hkey]
    rfl
  unfold AccountRun.connectionPc
  split_ifs with hdir
  · rw [tryCountConnection, heth]
    cases hct : t.env.ctLookup with
    | none => rw [run_alone_of_none (hdone maps)]
    | some ctLookup =>
      dsimp only
      cases parseConnection key.mac eth l3 with
      | none =>
        dsimp only
        rw [run_alone_of_none (hdone maps)]
      | some conn =>
        obtain ⟨connKey, tuple⟩ := conn
        dsimp only
        have hact : accountAct maps (t.goto (.seenLookup connKey tuple))
            = if connKey ∈ maps.seenConns then some (maps, t.goto .done)
              else some (maps, t.goto (.ctLookup connKey tuple)) := by
          rw [accountAct, key_goto, hkey]
          rfl
        by_cases hseen : connKey ∈ maps.seenConns
        · rw [if_pos hseen] at hact ⊢
          rw [run_alone_of_act hact, run_alone_of_none (hdone maps)]
        · rw [if_neg hseen] at hact ⊢
          rw [run_alone_of_act hact]
          have hact : accountAct maps (t.goto (.ctLookup connKey tuple))
              = if ctLookup tuple connKey.proto then some (maps, t.goto (.seenUpdate connKey))
                else some (maps, t.goto .done) := by
            have henv : (t.goto (.ctLookup connKey tuple)).env.ctLookup = some ctLookup := hct
            rw [accountAct, key_goto, hkey]
            dsimp only [AccountRun.goto]
            rw [hct]
          by_cases hfound : ctLookup tuple connKey.proto = true
          · rw [if_pos hfound] at hact
            have hupdate : accountAct maps (t.goto (.seenUpdate connKey))
                = some ({ maps with
                    seenConns := if t.env.seenUpdateOk && connKey ∉ maps.seenConns then
                        connKey :: maps.seenConns
                      else maps.seenConns }, t.goto (.addConnection connKey.proto)) := by
              rw [accountAct, key_goto, hkey]
              rfl
            have hadd :
                ∀ maps' : DatapathMaps, accountAct maps' (t.goto (.addConnection connKey.proto))
                = some ({ maps' with
                    clients := updateCounters key (.addConnection connKey.proto) maps'.clients },
                  t.goto .done) := by
              intro maps'
              rw [accountAct, key_goto, hkey]
              rfl
            rw [hfound, Bool.not_true, if_neg Bool.false_ne_true, run_alone_of_act hact,
              run_alone_of_act hupdate, run_alone_of_act (hadd _), run_alone_of_none (hdone _)]
            simp [hseen]
          · rw [if_neg hfound] at hact
            rw [Bool.eq_false_iff.mpr hfound, Bool.not_false, if_pos rfl, run_alone_of_act hact,
              run_alone_of_none (hdone maps)]
  · rw [run_alone_of_none (hdone maps)]

/-- Two changes of one entry are one change. -/
theorem updateCounters_updateCounters (key : LanspeedKey)
    (f g : LanspeedCounters → LanspeedCounters) (clients : List (LanspeedKey × LanspeedCounters)) :
    updateCounters key g (updateCounters key f clients) = updateCounters key
      (fun c => g (f c)) clients := by
  induction clients with
  | nil => rfl
  | cons e es ih =>
    simp only [updateCounters] at ih ⊢
    by_cases he : e.1 = key
    · rw [Keyed.modify_cons, Keyed.modify_cons, if_pos he, if_pos he, Keyed.modify_cons, if_pos he]
    · rw [Keyed.modify_cons, Keyed.modify_cons, if_neg he, if_neg he,
        Keyed.modify_cons, if_neg he, ih]

/-- An execution that no other one interrupts does what `accountFrame` says. -/
theorem run_alone (call : AccountCall) (maps : DatapathMaps) (action : TcAct)
    (henv : call.env.clientsUpdateOk = true) :
    (Interleave.run accountAct ⟨maps, [call.start]⟩ (List.replicate 8 0)).shared
      = (accountFrame call.env maps call.skb call.direction action).1 := by
  rw [accountFrame]
  cases hkey : frameKey call.skb call.direction with
  | none =>
    have hnone : accountAct maps call.start = none := by
      have hkey' : call.start.key = none := hkey
      rw [accountAct, hkey']
    rw [run_alone_of_none hnone]
    cases parseEthHdr call.skb.data <;> rfl
  | some key =>
    have hkey' : call.start.key = some key := hkey
    obtain ⟨⟨eth, l3⟩, heth⟩ : ∃ e, parseEthHdr call.skb.data = some e := by
      rw [frameKey] at hkey
      cases he : parseEthHdr call.skb.data with
      | none => rw [he] at hkey; exact absurd hkey.symm (Option.some_ne_none key)
      | some e => exact ⟨e, rfl⟩
    rw [heth]
    dsimp only
    have hlookup : accountAct maps call.start = match Keyed.lookup Prod.fst key maps.clients with
        | none => some (maps, call.start.goto .create)
        | some _ => some (maps, call.start.goto .addBytes) := by
      rw [accountAct, hkey']
      rfl
    rw [accountBytes]
    cases hfound : Keyed.lookup Prod.fst key maps.clients with
    | none =>
      rw [hfound] at hlookup
      have hcreate : accountAct maps (call.start.goto .create)
          = some ({ maps with
              clients := maps.clients ++ [(key, .initial call.skb.len call.env.ktimeNs)] },
            call.start.goto .relookup) := by
        rw [accountAct, key_goto, hkey']
        dsimp only [AccountRun.goto]
        rw [hfound]
        rfl
      have hrelookup : ∀ maps' : DatapathMaps, (Keyed.lookup Prod.fst key maps'.clients).isSome →
          accountAct maps' (call.start.goto .relookup)
            = some (maps', call.start.goto (call.start.connectionPc key)) := by
        intro maps' hsome
        obtain ⟨e, he⟩ := Option.isSome_iff_exists.mp hsome
        rw [accountAct, key_goto, hkey']
        dsimp only [AccountRun.goto]
        rw [he]
        rfl
      have hnew : (Keyed.lookup Prod.fst key
          (maps.clients ++
            [(key, LanspeedCounters.initial call.skb.len call.env.ktimeNs)])).isSome := by
        rw [Keyed.lookup_append, Keyed.lookup_cons, if_pos rfl,
          Option.isSome_or, Option.isSome_some, Bool.or_true]
      rw [run_alone_of_act hlookup, run_alone_of_act hcreate, run_alone_of_act (hrelookup _ hnew),
        run_alone_connection _ hkey' heth 1]
      dsimp only
      rw [henv, Bool.not_true, if_neg Bool.false_ne_true]
      dsimp only
      by_cases hdir : call.direction = lanspeedDirTx
      · rw [if_pos hdir]
        exact if_pos hdir
      · rw [if_neg hdir]
        exact if_neg hdir
    | some e =>
      rw [hfound] at hlookup
      have hbytes : ∀ maps' : DatapathMaps, accountAct maps' (call.start.goto .addBytes)
          = some ({ maps' with
              clients := updateCounters key
                (fun c => { c with bytes := c.bytes + call.skb.len.toUInt64 }) maps'.clients },
            call.start.goto .addPackets) := by
        intro maps'
        rw [accountAct, key_goto, hkey']
        rfl
      have hpackets : ∀ maps' : DatapathMaps, accountAct maps' (call.start.goto .addPackets)
          = some ({ maps' with
              clients := updateCounters key (fun c => { c with packets := c.packets + 1 })
                maps'.clients }, call.start.goto .storeLastSeen) := by
        intro maps'
        rw [accountAct, key_goto, hkey']
        rfl
      have hstore : ∀ maps' : DatapathMaps, accountAct maps' (call.start.goto .storeLastSeen)
          = some ({ maps' with
              clients := updateCounters key (fun c => { c with lastSeen := call.env.ktimeNs })
                maps'.clients }, call.start.goto (call.start.connectionPc key)) := by
        intro maps'
        rw [accountAct, key_goto, hkey']
        rfl
      rw [run_alone_of_act hlookup, run_alone_of_act (hbytes _), run_alone_of_act (hpackets _),
        run_alone_of_act (hstore _), run_alone_connection _ hkey' heth 0]
      dsimp only
      rw [updateCounters_updateCounters, updateCounters_updateCounters]
      by_cases hdir : call.direction = lanspeedDirTx
      · rw [if_pos hdir]
        exact if_pos hdir
      · rw [if_neg hdir]
        exact if_neg hdir

/-! ## The entries under every schedule -/

/-- Updating the counters of a key changes what is found there only. -/
theorem lookup_updateCounters (key key' : LanspeedKey) (f : LanspeedCounters → LanspeedCounters)
    (clients : List (LanspeedKey × LanspeedCounters)) :
    Keyed.lookup Prod.fst key' (updateCounters key f clients)
      = if key = key' then (Keyed.lookup Prod.fst key clients).map fun e => (e.1, f e.2)
        else Keyed.lookup Prod.fst key' clients :=
  Keyed.lookup_modify (f := fun e : LanspeedKey × LanspeedCounters => (e.1, f e.2)) (fun _ => rfl)
    key' clients

/-- No entry goes away. -/
theorem AccountStep.keeps {call : AccountCall} {key : LanspeedKey}
    {clients clients' : List (LanspeedKey × LanspeedCounters)} {pc pc' : AccountPc}
    (h : AccountStep call key clients pc clients' pc') {key' : LanspeedKey}
    (hkey : (Keyed.lookup Prod.fst key' clients).isSome) :
    (Keyed.lookup Prod.fst key' clients').isSome := by
  have hupdate : ∀ f, (Keyed.lookup Prod.fst key' (updateCounters key f clients)).isSome := by
    intro f
    rw [lookup_updateCounters]
    split_ifs with heq
    · rwa [Option.isSome_map, heq]
    · exact hkey
  cases h with
  | missed => exact hkey
  | found => exact hkey
  | refused => exact hkey
  | created hnone =>
    rw [Keyed.lookup_append, Option.isSome_or, hkey, Bool.true_or]
  | addBytes => exact hupdate _
  | addPackets => exact hupdate _
  | idle => exact hkey
  | touch => exact hupdate _

/-- The execution has seen the entry of its key, or made it. -/
def AccountPc.pastLookup : AccountPc → Bool
  | .lookup => false
  | .create => false
  | _ => true

/-- Past its lookup, an execution has an entry under its key. -/
def HasEntry (maps : DatapathMaps) (t : AccountRun) : Prop :=
  t.pc.pastLookup = true →
    ∃ key, t.key = some key ∧ (Keyed.lookup Prod.fst key maps.clients).isSome

/-- A call that is past its lookup finds the entry of its key. -/
theorem HasEntry.lookup {maps : DatapathMaps} {t : AccountRun} (h : HasEntry maps t)
    (hpast : t.pc.pastLookup = true) {key : LanspeedKey} (hkey : t.key = some key) :
    (Keyed.lookup Prod.fst key maps.clients).isSome := by
  obtain ⟨key', hkey', hsome⟩ := h hpast
  obtain rfl := Option.some.inj (hkey.symm.trans hkey')
  exact hsome

/-- A step of a call keeps the entry that the call is past looking up. -/
theorem hasEntry_own (maps : DatapathMaps) (t : AccountRun) (maps' : DatapathMaps) (t' : AccountRun)
    (hact : accountAct maps t = some (maps', t')) (h : HasEntry maps t) : HasEntry maps' t' := by
  obtain ⟨key, hkey, hcall, hstep⟩ := accountStep_of_act hact
  have hkey' : t'.key = some key := hcall ▸ hkey
  intro hpast
  refine ⟨key, hkey', ?_⟩
  generalize t'.pc = pc' at hstep hpast
  generalize hpc : t.pc = pc at hstep
  have hkeep :
      pc.pastLookup = true → (Keyed.lookup Prod.fst key maps'.clients).isSome := fun hpast' =>
    hstep.keeps (h.lookup (hpc ▸ hpast') hkey)
  generalize maps'.clients = clients' at hstep hkeep
  cases hstep with
  | missed => exact absurd hpast (by decide)
  | found hsome => exact hsome
  | refused hsome => exact hsome
  | created hnone =>
    rw [Keyed.lookup_append, Option.isSome_or]
    simp
  | addBytes => exact hkeep rfl
  | addPackets => exact hkeep rfl
  | idle hcounted => exact hkeep (by cases pc <;> first | rfl | exact hcounted)
  | touch hcounted => exact hkeep (by cases pc <;> first | rfl | exact hcounted)

/-- A step of a call keeps the entries that the other calls are past looking up. -/
theorem hasEntry_others (maps : DatapathMaps) (t : AccountRun) (maps' : DatapathMaps)
    (t' u : AccountRun) (hact : accountAct maps t = some (maps', t')) (h : HasEntry maps u) :
    HasEntry maps' u := by
  obtain ⟨key, -, -, hstep⟩ := accountStep_of_act hact
  intro hpast
  obtain ⟨key', hkey', hsome⟩ := h hpast
  exact ⟨key', hkey', hstep.keeps hsome⟩

/-! ## What the executions have counted -/

/-- The two totals of an entry. -/
inductive Tally where
  | bytes
  | packets
deriving DecidableEq, Repr

def Tally.read : Tally → LanspeedCounters → UInt64
  | .bytes, c => c.bytes
  | .packets, c => c.packets

/-- What a frame is worth. -/
def Tally.amount : Tally → SkBuff → UInt64
  | .bytes, skb => skb.len.toUInt64
  | .packets, _ => 1

/-- The frame of the execution is in the total. -/
def AccountPc.tallied : Tally → AccountPc → Bool
  | .bytes, pc => pc.counted || pc == .addPackets
  | .packets, pc => pc.counted

/-- The total of a key. -/
def tallyOf (x : Tally) (key : LanspeedKey)
    (clients : List (LanspeedKey × LanspeedCounters)) : UInt64 :=
  ((Keyed.lookup Prod.fst key clients).map fun e => x.read e.2).getD 0

/-- What an execution at a place has put into the total of its key. -/
def AccountPc.worth (x : Tally) (skb : SkBuff) (pc : AccountPc) : UInt64 :=
  if pc.tallied x then x.amount skb else 0

/-- What an execution has put into the total of a key. -/
def AccountRun.given (x : Tally) (key : LanspeedKey) (t : AccountRun) : UInt64 :=
  if t.key = some key then t.pc.worth x t.skb else 0

/-- A call that has counted its frame is worth what the frame adds. -/
theorem AccountPc.worth_of_counted {pc : AccountPc} (h : pc.counted = true) (x : Tally)
    (skb : SkBuff) : pc.worth x skb = x.amount skb := by
  cases x with
  | bytes => exact if_pos (by rw [tallied, h, Bool.true_or])
  | packets => exact if_pos h

/-- A call that has not yet added to a tally is worth nothing to it. -/
theorem AccountPc.worth_of_not_tallied {pc : AccountPc} {x : Tally} (h : pc.tallied x = false)
    (skb : SkBuff) : pc.worth x skb = 0 :=
  if_neg (Bool.eq_false_iff.mp h)

/-- A call that has counted its frame is past its lookup. -/
theorem AccountPc.pastLookup_of_counted {pc : AccountPc} (h : pc.counted = true) :
    pc.pastLookup = true := by
  cases pc <;> first | rfl | exact h

/-- No other entry changes. -/
theorem AccountStep.lookup_other {call : AccountCall} {key key' : LanspeedKey}
    {clients clients' : List (LanspeedKey × LanspeedCounters)} {pc pc' : AccountPc}
    (h : AccountStep call key clients pc clients' pc') (hne : key ≠ key') :
    Keyed.lookup Prod.fst key' clients' = Keyed.lookup Prod.fst key' clients := by
  have hupdate : ∀ f, Keyed.lookup Prod.fst key' (updateCounters key f clients)
      = Keyed.lookup Prod.fst key' clients := fun f => by rw [lookup_updateCounters, if_neg hne]
  cases h with
  | missed => rfl
  | found => rfl
  | refused => rfl
  | created hnone =>
    rw [Keyed.lookup_append, Keyed.lookup_cons, if_neg hne, Keyed.lookup_nil, Option.or_none]
  | addBytes => exact hupdate _
  | addPackets => exact hupdate _
  | idle => rfl
  | touch => exact hupdate _

/-- The total of the own entry changes by what the execution puts in. -/
theorem AccountStep.tally_own {call : AccountCall} {key : LanspeedKey}
    {clients clients' : List (LanspeedKey × LanspeedCounters)} {pc pc' : AccountPc}
    (h : AccountStep call key clients pc clients' pc')
    (hentry : pc.pastLookup = true → (Keyed.lookup Prod.fst key clients).isSome) (x : Tally) :
    tallyOf x key clients' =
      tallyOf x key clients - pc.worth x call.skb + pc'.worth x call.skb := by
  have hupdate : ∀ f, pc.pastLookup = true → ∃ e, Keyed.lookup Prod.fst key clients = some e ∧
      tallyOf x key (updateCounters key f clients) = x.read (f e.2) ∧
      tallyOf x key clients = x.read e.2 := by
    intro f hpast
    obtain ⟨e, he⟩ := Option.isSome_iff_exists.mp (hentry hpast)
    refine ⟨e, he, ?_, ?_⟩
    · rw [tallyOf, lookup_updateCounters, if_pos rfl, he]
      rfl
    · rw [tallyOf, he]
      rfl
  -- Nothing is in the totals before the entry is made or the bytes are added.
  have hnone : ∀ pc : AccountPc, pc = .lookup ∨ pc = .create ∨ pc = .addBytes ∨ pc = .refused →
      pc.worth x call.skb = 0 := by
    rintro pc (rfl | rfl | rfl | rfl) <;> exact AccountPc.worth_of_not_tallied
      (by cases x <;> rfl) _
  cases h with
  | missed => rw [hnone _ (by simp), hnone _ (by simp), sub_zero, add_zero]
  | found => rw [hnone _ (by simp), hnone _ (by simp), sub_zero, add_zero]
  | refused => rw [hnone _ (by simp), hnone _ (by simp), sub_zero, add_zero]
  | created habsent =>
    rw [hnone _ (by simp), AccountPc.worth_of_counted rfl, sub_zero, tallyOf, tallyOf,
      Keyed.lookup_append, habsent, Keyed.lookup_cons, if_pos rfl]
    cases x <;> exact (zero_add _).symm
  | addBytes =>
    obtain ⟨e, -, hnew, hold⟩ :=
      hupdate (fun c => { c with bytes := c.bytes + call.skb.len.toUInt64 }) rfl
    rw [hnew, hold, hnone _ (by simp), sub_zero]
    cases x with
    | bytes => rfl
    | packets => exact (add_zero _).symm
  | addPackets =>
    obtain ⟨e, -, hnew, hold⟩ := hupdate (fun c => { c with packets := c.packets + 1 }) rfl
    rw [hnew, hold]
    cases x with
    | bytes => exact (sub_add_cancel _ _).symm
    | packets => exact congrArg (· + (1 : UInt64)) (sub_zero _).symm
  | idle hpc hpc' =>
    rw [AccountPc.worth_of_counted hpc, AccountPc.worth_of_counted hpc', sub_add_cancel]
  | touch hpc hpc' hf =>
    obtain ⟨e, -, hnew, hold⟩ := hupdate _ (AccountPc.pastLookup_of_counted hpc)
    rw [hnew, hold, AccountPc.worth_of_counted hpc, AccountPc.worth_of_counted hpc', sub_add_cancel]
    cases x with
    | bytes => exact (hf e.2).1
    | packets => exact (hf e.2).2

/-- An action changes the total of a key by what its execution puts into it. -/
theorem tallyOf_act (x : Tally) (key : LanspeedKey) (maps : DatapathMaps) (t : AccountRun)
    (maps' : DatapathMaps) (t' : AccountRun) (hact : accountAct maps t = some (maps', t'))
    (h : HasEntry maps t) :
    tallyOf x key maps'.clients = tallyOf x key maps.clients - t.given x key + t'.given x key := by
  obtain ⟨key', hkey, hcall, hstep⟩ := accountStep_of_act hact
  have hkey' : t'.key = some key' := hcall ▸ hkey
  have hskb : t'.skb = t.skb := congrArg AccountCall.skb hcall
  rw [AccountRun.given, AccountRun.given, hkey, hkey', hskb]
  by_cases heq : key' = key
  · subst heq
    rw [if_pos rfl, if_pos rfl]
    exact hstep.tally_own (fun hpast => h.lookup hpast hkey) x
  · have hne : ¬ (some key' = some key) := fun h => heq (Option.some.inj h)
    rw [if_neg hne, if_neg hne, sub_zero, add_zero, tallyOf, hstep.lookup_other heq, tallyOf]

/-! ## Schedules -/

/-- An execution keeps what it was given. -/
theorem toAccountCall_act (maps : DatapathMaps) (t : AccountRun) (maps' : DatapathMaps)
    (t' : AccountRun) (hact : accountAct maps t = some (maps', t')) :
    t'.toAccountCall = t.toAccountCall := by
  obtain ⟨-, -, hcall, -⟩ := accountStep_of_act hact
  exact hcall

/-- The system that a schedule of executions ends in. -/
def Cpus.run (calls : List AccountCall) (schedule : List ℕ) : Cpus :=
  Interleave.run accountAct (Cpus.start calls) schedule

/-- A schedule does not change which calls there are. -/
theorem Cpus.calls_run (calls : List AccountCall) (schedule : List ℕ) :
    (Cpus.run calls schedule).threads.map AccountRun.toAccountCall = calls := by
  rw [Cpus.run, Interleave.map_threads_run toAccountCall_act, Cpus.start, List.map_map]
  exact List.map_id calls

/-- At the start no call is past its lookup. -/
theorem hasEntry_start (calls : List AccountCall) :
    ∀ t ∈ (Cpus.start calls).threads, HasEntry (Cpus.start calls).shared t := by
  intro t ht hpast
  obtain ⟨call, -, rfl⟩ := List.mem_map.mp ht
  exact absurd hpast Bool.false_ne_true

/-- Under every schedule, the calls that are past their lookup have their entries. -/
theorem hasEntry_run (calls : List AccountCall) (schedule : List ℕ) :
    ∀ t ∈ (Cpus.run calls schedule).threads, HasEntry (Cpus.run calls schedule).shared t :=
  Interleave.forall_threads_run hasEntry_own hasEntry_others (hasEntry_start calls) schedule

/-- The totals are what the executions have put into them. -/
theorem tallyOf_run (x : Tally) (key : LanspeedKey) (calls : List AccountCall)
    (schedule : List ℕ) :
    tallyOf x key (Cpus.run calls schedule).shared.clients
      = ((Cpus.run calls schedule).threads.map (AccountRun.given x key)).sum := by
  have hstart : ((Cpus.start calls).threads.map (AccountRun.given x key)).sum = 0 := by
    apply List.sum_eq_zero
    intro w hw
    obtain ⟨t, ht, rfl⟩ := List.mem_map.mp hw
    obtain ⟨call, -, rfl⟩ := List.mem_map.mp ht
    have hworth : AccountPc.lookup.worth x call.skb = 0 :=
      AccountPc.worth_of_not_tallied (by cases x <;> rfl) _
    rw [AccountRun.given]
    split_ifs
    · exact hworth
    · rfl
  have hrun :=
    Interleave.measure_run (fun maps => tallyOf x key maps.clients) (AccountRun.given x key)
    hasEntry_own hasEntry_others (tallyOf_act x key) (hasEntry_start calls) schedule
  rw [hstart, sub_zero] at hrun
  exact hrun.trans (zero_add _)

/-- No execution that is about to create an entry finds that another one has created it. -/
def CreatesFresh (s : Cpus) (i : ℕ) : Prop :=
  ∀ t, s.threads[i]? = some t → t.pc = .create → ∀ key, t.key = some key →
    Keyed.lookup Prod.fst key s.shared.clients = none

/-- The execution with a number has not been refused its entry. -/
def NotRefused (s : Cpus) (i : ℕ) : Prop := ∀ t, s.threads[i]? = some t → t.pc ≠ .refused

/-- A call is refused exactly when it creates an entry that is there by then. -/
theorem AccountStep.refused_iff {call : AccountCall} {key : LanspeedKey}
    {clients clients' : List (LanspeedKey × LanspeedCounters)} {pc pc' : AccountPc}
    (h : AccountStep call key clients pc clients' pc') :
    pc ≠ .refused ∧
      (pc' = .refused ↔ pc = .create ∧ Keyed.lookup Prod.fst key clients ≠ none) := by
  have hcounted : ∀ pc : AccountPc, pc.counted = true → pc ≠ .refused ∧ pc ≠ .create := by
    rintro pc hpc
    constructor <;> rintro rfl <;> exact Bool.false_ne_true hpc
  cases h with
  | missed => simp
  | found => simp
  | refused hsome => simpa using Option.isSome_iff_ne_none.mp hsome
  | created hnone => simp [hnone]
  | addBytes => simp
  | addPackets => simp
  | idle hpc hpc' =>
    exact ⟨(hcounted _ hpc).1, iff_of_false (hcounted _ hpc').1 fun h => (hcounted _ hpc).2 h.1⟩
  | touch hpc hpc' =>
    exact ⟨(hcounted _ hpc).1, iff_of_false (hcounted _ hpc').1 fun h => (hcounted _ hpc).2 h.1⟩

/-- An execution is refused where it does not create its entry afresh, and never otherwise. -/
theorem notRefused_stepAt (s : Cpus) (i j : ℕ) :
    NotRefused (Interleave.stepAt accountAct s i) j ↔
      NotRefused s j ∧ ¬ (i = j ∧ ¬ CreatesFresh s i) := by
  rcases Interleave.stepAt_cases accountAct s i with ⟨heq, hnone⟩ | ⟨t, maps', t', ht, hact, heq⟩
  · -- Nobody acts, so nobody is about to create an entry.
    have hfresh : CreatesFresh s i := by
      intro t ht hpc key hkey
      have hidle := hnone t ht
      rw [accountAct, hkey] at hidle
      simp only [hpc] at hidle
      split at hidle <;> exact absurd hidle (Option.some_ne_none _)
    rw [heq]
    exact (and_iff_left fun h => h.2 hfresh).symm
  · rw [heq]
    by_cases hij : i = j
    · subst hij
      obtain ⟨key, hkey, -, hstep⟩ := accountStep_of_act hact
      obtain ⟨hrunning, hrefused⟩ := hstep.refused_iff
      have hlen : i < s.threads.length := (List.getElem?_eq_some_iff.mp ht).1
      have hnew : NotRefused ⟨maps', s.threads.set i t'⟩ i ↔ t'.pc ≠ .refused := by
        rw [NotRefused, List.getElem?_set_self hlen]
        exact ⟨fun h => h t' rfl, fun h u hu => Option.some.inj hu ▸ h⟩
      have hold : NotRefused s i := fun u hu => Option.some.inj (ht.symm.trans hu) ▸ hrunning
      have hfresh : CreatesFresh s i ↔ ¬ (t.pc = .create ∧
          Keyed.lookup Prod.fst key s.shared.clients ≠ none) := by
        rw [not_and_not_right]
        constructor
        · exact fun h hpc => h t ht hpc key hkey
        · intro h u hu hpc key' hkey'
          obtain rfl := Option.some.inj (ht.symm.trans hu)
          obtain rfl := Option.some.inj (hkey.symm.trans hkey')
          exact h hpc
      rw [hnew, Ne, hrefused, ← hfresh]
      exact ⟨fun h => ⟨hold, fun h' => h'.2 h⟩, fun h => not_not.mp fun h' => h.2 ⟨rfl, h'⟩⟩
    · rw [NotRefused, List.getElem?_set_ne hij]
      exact (and_iff_left fun h => hij h.1).symm

/-- No execution of a schedule is refused if and only if every creation finds its key free. -/
theorem notRefused_run_iff (calls : List AccountCall) (schedule : List ℕ) :
    (∀ t ∈ (Cpus.run calls schedule).threads, t.pc ≠ .refused) ↔
      Machine.Along (Interleave.stepAt accountAct) CreatesFresh (Cpus.start calls) schedule := by
  have hstart : ∀ j, NotRefused (Cpus.start calls) j := by
    intro j t ht
    obtain ⟨call, -, rfl⟩ := List.mem_map.mp (List.mem_of_getElem? ht)
    exact fun h => AccountPc.noConfusion h
  have hpoint :
      (fun s e => ∀ a, NotRefused s a → ¬ (e = a ∧ ¬ CreatesFresh s e)) = CreatesFresh := by
    funext s e
    refine propext ⟨fun h => ?_, fun h a _ h' => h'.2 h⟩
    intro t ht hpc
    refine not_not.mp (fun hne => h e ?_ ⟨rfl, fun hfresh => hne (hfresh t ht hpc)⟩)
    intro u hu hrefused
    obtain rfl := Option.some.inj (ht.symm.trans hu)
    exact AccountPc.noConfusion (hpc.symm.trans hrefused)
  have hkeep := Machine.run_keeps_iff (Interleave.stepAt accountAct) NotRefused notRefused_stepAt
    (Cpus.start calls) schedule
  rw [hpoint] at hkeep
  rw [← hkeep]
  constructor
  · exact fun h j _ t ht => h t (List.mem_of_getElem? ht)
  · intro h t ht
    obtain ⟨j, hj⟩ := List.getElem?_of_mem ht
    exact h j (hstart j) t hj

/-! ## Whether every frame is counted -/

/-- The bytes of the frames under a key. -/
def bytesOfKey (calls : List AccountCall) (key : LanspeedKey) : ℕ :=
  (calls.map fun call => if call.key = some key then call.skb.len.toNat else 0).sum

/-- The number of frames under a key. -/
def framesOfKey (calls : List AccountCall) (key : LanspeedKey) : ℕ :=
  (calls.map fun call => if call.key = some key then 1 else 0).sum

/-- Every key of a frame has an entry with all bytes and all packets of its frames. -/
def FramesCounted (calls : List AccountCall) (maps : DatapathMaps) : Prop :=
  ∀ key, (∃ call ∈ calls, call.key = some key) →
    ∃ c, Keyed.lookup Prod.fst key maps.clients = some (key, c) ∧
      c.bytes.toNat = bytesOfKey calls key ∧ c.packets.toNat = framesOfKey calls key

/-- The totals of every key fit in the counters. -/
def TotalsFit (calls : List AccountCall) : Prop :=
  ∀ key, bytesOfKey calls key < UInt64.size ∧ framesOfKey calls key < UInt64.size

/-- The total that the frames of a key are worth. -/
def Tally.total (x : Tally) (calls : List AccountCall) (key : LanspeedKey) : ℕ :=
  (calls.map fun call => if call.key = some key then (x.amount call.skb).toNat else 0).sum

/-- The bytes of the calls are those of the frames of the key. -/
theorem Tally.total_bytes (calls : List AccountCall) (key : LanspeedKey) :
    Tally.bytes.total calls key = bytesOfKey calls key := by
  refine congrArg List.sum (List.map_congr_left fun call _ => ?_)
  rw [amount, UInt32.toNat_toUInt64]

/-- When all executions have returned and none was refused, the totals are those of the frames, as
far as the counters reach. -/
theorem tallyOf_run_of_notRefused {calls : List AccountCall} {schedule : List ℕ}
    (hfinished : ∀ t ∈ (Cpus.run calls schedule).threads, t.finished = true)
    (h : ∀ t ∈ (Cpus.run calls schedule).threads, t.pc ≠ .refused) (x : Tally) (key : LanspeedKey) :
    tallyOf x key (Cpus.run calls schedule).shared.clients = UInt64.ofNat (x.total calls key) := by
  have hgiven : ∀ t ∈ (Cpus.run calls schedule).threads, t.given x key
      = UInt64.ofNat (if t.key = some key then (x.amount t.skb).toNat else 0) := by
    intro t ht
    rw [AccountRun.given]
    split_ifs with hkey
    · have hdone : t.pc = .done := by
        have hfin := hfinished t ht
        rw [AccountRun.finished, hkey] at hfin
        simpa [h t ht] using hfin
      rw [hdone, AccountPc.worth_of_counted rfl, UInt64.ofNat_toNat]
    · rfl
  rw [tallyOf_run, List.map_congr_left hgiven, Word.sum_map_ofNat, Tally.total]
  conv_rhs => rw [← Cpus.calls_run calls schedule, List.map_map]
  rfl

/-- The packets of a key with a refused execution are too few. -/
theorem packets_lt_of_refused {calls : List AccountCall} {schedule : List ℕ} {t : AccountRun}
    (ht : t ∈ (Cpus.run calls schedule).threads) (hrefused : t.pc = .refused) {key : LanspeedKey}
    (hkey : t.key = some key) :
    (tallyOf .packets key (Cpus.run calls schedule).shared.clients).toNat <
      framesOfKey calls key := by
  have hle : ∀ u : AccountRun, (u.given .packets key).toNat ≤ if u.key = some key then 1
    else 0 := by
    intro u
    rw [AccountRun.given, AccountPc.worth]
    split_ifs
    · exact Nat.le_refl 1
    · exact Nat.zero_le 1
    · exact Nat.le_refl 0
  have hlt : (t.given .packets key).toNat < if t.key = some key then 1 else 0 := by
    rw [AccountRun.given, hrefused, if_pos hkey, if_pos hkey]
    exact Nat.one_pos
  have hframes : framesOfKey calls key
      = ((Cpus.run calls schedule).threads.map fun u => if u.key = some key then 1 else 0).sum := by
    rw [framesOfKey]
    conv_lhs => rw [← Cpus.calls_run calls schedule, List.map_map]
    rfl
  rw [tallyOf_run, hframes]
  apply (Word.toNat_sum_le _).trans_lt
  rw [List.map_map]
  exact List.sum_lt_sum _ _ (fun u _ => hle u) ⟨t, ht, hlt⟩

/-- When all executions have returned, every frame is counted if and only if no execution found,
when it was about to create its entry, that another one had created it, and the totals fit in the
counters. -/
theorem frames_counted_iff (calls : List AccountCall) (schedule : List ℕ)
    (hfinished : ∀ t ∈ (Cpus.run calls schedule).threads, t.finished = true) :
    FramesCounted calls (Cpus.run calls schedule).shared ↔
      Machine.Along (Interleave.stepAt accountAct) CreatesFresh (Cpus.start calls) schedule ∧
        TotalsFit calls := by
  rw [← notRefused_run_iff]
  constructor
  · intro h
    refine ⟨fun t ht hrefused => ?_, fun key => ?_⟩
    · obtain ⟨key, hkey, -⟩ := hasEntry_run calls schedule t ht (by rw [hrefused]; rfl)
      have hcall : t.toAccountCall ∈ calls := by
        rw [← Cpus.calls_run calls schedule]
        exact List.mem_map_of_mem ht
      obtain ⟨c, hc, -, hpackets⟩ := h key ⟨_, hcall, hkey⟩
      have hlt := packets_lt_of_refused ht hrefused hkey
      rw [tallyOf, hc] at hlt
      exact absurd hpackets hlt.ne
    · by_cases hex : ∃ call ∈ calls, call.key = some key
      · obtain ⟨c, -, hbytes, hpackets⟩ := h key hex
        exact ⟨hbytes ▸ c.bytes.toNat_lt, hpackets ▸ c.packets.toNat_lt⟩
      · have hzero : ∀ n : AccountCall → ℕ,
            (calls.map fun call => if call.key = some key then n call else 0).sum = 0 := by
          intro n
          apply List.sum_eq_zero
          intro w hw
          obtain ⟨call, hcall, rfl⟩ := List.mem_map.mp hw
          exact if_neg fun hkey => hex ⟨call, hcall, hkey⟩
        rw [bytesOfKey, framesOfKey, hzero, hzero]
        exact ⟨by decide, by decide⟩
  · rintro ⟨hnot, hfit⟩ key ⟨call, hcall, hkey⟩
    rw [← Cpus.calls_run calls schedule] at hcall
    obtain ⟨t, ht, rfl⟩ := List.mem_map.mp hcall
    have hdone : t.pc = .done := by
      have hfin := hfinished t ht
      rw [AccountRun.finished, hkey] at hfin
      simpa [hnot t ht] using hfin
    obtain ⟨e, he⟩ := Option.isSome_iff_exists.mp
      ((hasEntry_run calls schedule t ht).lookup (by rw [hdone]; rfl) hkey)
    have htally : ∀ x : Tally, x.total calls key < UInt64.size →
        (x.read e.2).toNat = x.total calls key := by
      intro x hx
      have hx' := tallyOf_run_of_notRefused hfinished hnot x key
      rw [tallyOf, he, Option.map_some, Option.getD_some] at hx'
      rw [hx', UInt64.toNat_ofNat_of_lt' hx]
    refine ⟨e.2, ?_, ?_, ?_⟩
    · have hfst : e.1 = key := Keyed.key_of_lookup he
      rw [he, ← hfst]
    · have hbytes := htally .bytes
      rw [Tally.total_bytes] at hbytes
      exact hbytes (hfit key).1
    · exact htally .packets (hfit key).2

/-- A frame that the client 02:00:00:00:00:02 sends. -/
def clientFrame : AccountCall where
  skb :=
    { data := [2, 0, 0, 0, 0, 1, 2, 0, 0, 0, 0, 2, 0x08, 0x06]
      ifindex := 1
      vlanTci := 0
      len := 60 }
  direction := lanspeedDirTx
  env := { ktimeNs := 1000 }

/-- Two frames of one client that are handled one after the other. -/
theorem frames_counted_one_after_another :
    (∀ t ∈ (Cpus.run [clientFrame, clientFrame] [0, 0, 0, 1, 1, 1, 1]).threads, t.finished = true) ∧
      (FramesCounted [clientFrame, clientFrame]
          (Cpus.run [clientFrame, clientFrame] [0, 0, 0, 1, 1, 1, 1]).shared ↔
        Machine.Along (Interleave.stepAt accountAct) CreatesFresh
            (Cpus.start [clientFrame, clientFrame]) [0, 0, 0, 1, 1, 1, 1] ∧
          TotalsFit [clientFrame, clientFrame]) :=
  have hfinished : ∀ t ∈ (Cpus.run [clientFrame, clientFrame] [0, 0, 0, 1, 1, 1, 1]).threads,
      t.finished = true := by decide
  ⟨hfinished, frames_counted_iff [clientFrame, clientFrame] [0, 0, 0, 1, 1, 1, 1] hfinished⟩

/-- Where both executions look the entry up before either creates it, one of the frames is lost. -/
theorem concurrent_frame_lost :
    ¬ ∀ (calls : List AccountCall) (schedule : List ℕ),
      (∀ t ∈ (Cpus.run calls schedule).threads, t.finished = true) →
        FramesCounted calls (Cpus.run calls schedule).shared := by
  intro h
  let key : LanspeedKey := ⟨1, 0, lanspeedDirTx, ⟨2, 0, 0, 0, 0, 2⟩⟩
  have hrun : (Cpus.run [clientFrame, clientFrame] [0, 1, 0, 1, 0]).shared.clients
      = [(key, .initial 60 1000)] := by decide
  have hcalls : framesOfKey [clientFrame, clientFrame] key = 2 := by decide
  obtain ⟨c, hc, -, hpackets⟩ := h [clientFrame, clientFrame] [0, 1, 0, 1, 0] (by decide) key
    ⟨clientFrame, List.mem_cons_self, by decide⟩
  rw [hrun, Keyed.lookup_cons, if_pos rfl] at hc
  obtain rfl := congrArg Prod.snd (Option.some.inj hc)
  rw [hcalls] at hpackets
  exact absurd hpackets (by decide)

end Lanspeed
