import Lanspeed.Datapath
import Lanspeed.Lib.Machine
import Mathlib.Algebra.Order.BigOperators.Group.List
import Mathlib.Algebra.Order.Group.Nat
import Mathlib.Data.Finset.Card

/-!
# The connection counts of the datapath

Frames that the programs handle one after another, with room in both maps and a kernel that has
`bpf_skb_ct_lookup`. The count of a client is the number of keys that were remembered for it
(`Counted.handle`). A key leaves the source address out of the tuple, so that the count is the
number of tracked connections exactly when no two of them differ in the source address alone
(`connsOf_eq_card_iff`).
-/

namespace Lanspeed

/-! ## Frames one after another -/

/-- The programs of the datapath. -/
inductive DatapathProgram where
  | ingress
  | egress
  | ingressEarly
  | egressEarly
deriving DecidableEq, Repr

def DatapathProgram.run : DatapathProgram → HelperEnv → DatapathMaps → SkBuff → DatapathMaps × TcAct
  | .ingress => lanspeedIngress
  | .egress => lanspeedEgress
  | .ingressEarly => lanspeedIngressEarly
  | .egressEarly => lanspeedEgressEarly

/-- The direction that a program accounts. -/
def DatapathProgram.direction : DatapathProgram → UInt8
  | .ingress => lanspeedDirTx
  | .egress => lanspeedDirRx
  | .ingressEarly => lanspeedDirTx
  | .egressEarly => lanspeedDirRx

/-- A frame that a program handles: the updates of both maps succeed, and `ctLookup` is the lookup
of the kernel at that time. -/
structure HandledFrame where
  program  : DatapathProgram
  skb      : SkBuff
  ktimeNs  : UInt64
  ctLookup : BpfSockTuple → UInt8 → Bool

/-- What the helpers give for the frame. -/
def HandledFrame.env (h : HandledFrame) : HelperEnv :=
  { ktimeNs := h.ktimeNs, ctLookup := some h.ctLookup }

/-- The maps after a frame. -/
def DatapathMaps.handle (s : DatapathMaps) (h : HandledFrame) : DatapathMaps :=
  (h.program.run h.env s h.skb).1

/-- The maps after a sequence of frames. -/
def handled (frames : List HandledFrame) : DatapathMaps := Machine.run DatapathMaps.handle {} frames

/-! ## Connections -/

/-- The protocols whose connections are counted. -/
inductive ConnKind where
  | tcp
  | udp
deriving DecidableEq, Repr

def ConnKind.proto : ConnKind → UInt8
  | .tcp => ipprotoTcp
  | .udp => ipprotoUdp

/-- The count of a protocol. -/
def LanspeedCounters.conns (c : LanspeedCounters) : ConnKind → UInt32
  | .tcp => c.tcpConns
  | .udp => c.udpConns

/-- The connections of a protocol that all entries of a client count. -/
def connsOf (mac : Mac) (kind : ConnKind) (clients : List (LanspeedKey × LanspeedCounters)) : ℕ :=
  (clients.map fun e => if e.1.mac = mac then (e.2.conns kind).toNat else 0).sum

/-- The connection that a program reads from a frame that it gets from a client. -/
def HandledFrame.connection (h : HandledFrame) : Option (LanspeedConnKey × BpfSockTuple) :=
  if h.program.direction = lanspeedDirTx then
    (parseEthHdr h.skb.data).bind fun (eth, l3) =>
      if validClientMac eth.hSource then parseConnection eth.hSource eth l3 else none
  else none

/-- The tuple of a frame of the client, when the conntrack lookup succeeds for it. -/
def HandledFrame.tracked (mac : Mac) (kind : ConnKind) (h : HandledFrame) : Option BpfSockTuple :=
  h.connection.bind fun (connKey, tuple) =>
    if connKey.mac = mac ∧ connKey.proto = kind.proto ∧ h.ctLookup tuple kind.proto then some tuple
    else none

/-- The tuples of a client and a protocol for which the conntrack lookup succeeds at least once. -/
def trackedConns (mac : Mac) (kind : ConnKind) (frames : List HandledFrame) : Finset BpfSockTuple :=
  (frames.filterMap (HandledFrame.tracked mac kind)).toFinset

/-- No two connections differ in the source address alone. -/
def ToldApart (tuples : Finset BpfSockTuple) : Prop :=
  ∀ t ∈ tuples, ∀ t' ∈ tuples, t.daddr = t'.daddr → t.sport = t'.sport →
    t.dport = t'.dport → t.saddr = t'.saddr

/-! ## The key of a tuple -/

/-- The dedup key of a tuple. -/
def BpfSockTuple.connKey (mac : Mac) (kind : ConnKind) (t : BpfSockTuple) : LanspeedConnKey :=
  if t.daddr.length = 4 then ⟨mac, kind.proto, 2, t.sport, t.dport, t.daddr ++ List.replicate 12 0⟩
  else ⟨mac, kind.proto, 10, t.sport, t.dport, t.daddr⟩

/-- The key has everything of the tuple but its source address. -/
theorem connKey_eq_iff (mac : Mac) (kind : ConnKind) (t t' : BpfSockTuple) :
    t.connKey mac kind = t'.connKey mac kind ↔
      t.daddr = t'.daddr ∧ t.sport = t'.sport ∧ t.dport = t'.dport := by
  unfold BpfSockTuple.connKey
  split_ifs with h h' h'
  · simp only [LanspeedConnKey.mk.injEq, true_and, List.append_cancel_right_eq]
    tauto
  · simp only [LanspeedConnKey.mk.injEq, true_and]
    exact iff_of_false (by simp) fun heq => h' (heq.1 ▸ h)
  · simp only [LanspeedConnKey.mk.injEq, true_and]
    exact iff_of_false (by simp) fun heq => h (heq.1.symm ▸ h')
  · simp only [LanspeedConnKey.mk.injEq, true_and]
    tauto

/-- What the programs parse is a tuple of TCP or UDP with its key. -/
theorem parseConnection_cases {mac : Mac} {eth : EthHdr} {l3 : List UInt8}
    {connKey : LanspeedConnKey}
    {tuple : BpfSockTuple} (h : parseConnection mac eth l3 = some (connKey, tuple)) :
    ∃ kind, connKey = tuple.connKey mac kind := by
  have hkind : ∀ {proto : UInt8}, ¬(proto ≠ ipprotoTcp ∧ proto ≠ ipprotoUdp) →
      ∃ kind : ConnKind, proto = kind.proto := by
    intro proto hproto
    by_cases htcp : proto = ipprotoTcp
    · exact ⟨.tcp, htcp⟩
    · exact ⟨.udp, not_not.mp fun hudp => hproto ⟨htcp, hudp⟩⟩
  unfold parseConnection at h
  dsimp only at h
  split_ifs at h with hip hshort hproto hl4 hip6 hshort hproto hl4
  · obtain ⟨kind, hkind⟩ := hkind hproto
    obtain ⟨rfl, rfl⟩ := Prod.mk.inj (Option.some.inj h)
    have hlength : ((l3.drop 16).take 4).length = 4 := by
      rw [List.length_take, List.length_drop]
      omega
    exact ⟨kind, by rw [BpfSockTuple.connKey, if_pos hlength, hkind]⟩
  · obtain ⟨kind, hkind⟩ := hkind hproto
    obtain ⟨rfl, rfl⟩ := Prod.mk.inj (Option.some.inj h)
    have hlength : ((l3.drop 24).take 16).length ≠ 4 := by
      rw [List.length_take, List.length_drop]
      omega
    exact ⟨kind, by rw [BpfSockTuple.connKey, if_neg hlength, hkind]⟩

/-- The key of a connection has the address it was made for. -/
@[simp] theorem connKey_mac (mac : Mac) (kind : ConnKind) (t : BpfSockTuple) :
    (t.connKey mac kind).mac = mac := by
  unfold BpfSockTuple.connKey
  split <;> rfl

/-- The key of a connection has the protocol it was made for. -/
@[simp] theorem connKey_proto (mac : Mac) (kind : ConnKind) (t : BpfSockTuple) :
    (t.connKey mac kind).proto = kind.proto := by
  unfold BpfSockTuple.connKey
  split <;> rfl

theorem ConnKind.proto_inj {kind kind' : ConnKind} : kind.proto = kind'.proto ↔ kind = kind' := by
  cases kind <;> cases kind' <;> decide

/-! ## What one frame does -/

/-- The key that a frame adds to those that are remembered. -/
def HandledFrame.newKey (s : DatapathMaps) (h : HandledFrame) : Option LanspeedConnKey :=
  h.connection.bind fun (connKey, tuple) =>
    if connKey ∉ s.seenConns ∧ h.ctLookup tuple connKey.proto then some connKey else none

/-- The byte-counting half touches no connection count, and leaves an entry behind. -/
theorem connsOf_accountBytes {env : HelperEnv} {s s' : DatapathMaps}
    {key : LanspeedKey} {len : UInt32} (h : accountBytes env s key len = some s') :
    s'.seenConns =
      s.seenConns ∧ (∀ mac kind, connsOf mac kind s'.clients = connsOf mac kind s.clients) ∧
      ∃ e, Keyed.lookup Prod.fst key s'.clients = some e := by
  unfold accountBytes at h
  split at h
  · rename_i hnone
    split at h
    · exact absurd h (by simp)
    · obtain rfl := Option.some.inj h
      refine ⟨rfl, fun mac kind => ?_, (key, .initial len env.ktimeNs), ?_⟩
      · have hinitial : (LanspeedCounters.initial len env.ktimeNs).conns kind = 0 := by
          cases kind <;> rfl
        simp only [connsOf, List.map_append, List.sum_append, List.map_cons,
          List.map_nil, List.sum_cons, List.sum_nil, hinitial,
          UInt32.toNat_zero, ite_self, add_zero]
      · rw [Keyed.lookup_append_fresh hnone, if_pos rfl]
  · rename_i e he
    obtain rfl := Option.some.inj h
    have hkey : ∀ r :
        LanspeedKey × LanspeedCounters, (r.1, r.2.addFrame len env.ktimeNs).1 = r.1 := fun r => rfl
    refine ⟨rfl, fun mac kind => ?_, (e.1, e.2.addFrame len env.ktimeNs), ?_⟩
    · have hconns :
          ∀ c : LanspeedCounters, (c.addFrame len env.ktimeNs).conns kind = c.conns kind := by
        intro c
        cases kind <;> rfl
      have hsum := Keyed.sum_map_modify (d := 0) (f := fun r => (r.1, r.2.addFrame len env.ktimeNs))
        (g := fun r => if r.1.mac = mac then (r.2.conns kind).toNat
          else 0) he (by rw [add_zero, hconns])
      rw [add_zero] at hsum
      exact hsum
    · rw [updateCounters, Keyed.lookup_modify hkey, if_pos rfl, he]
      rfl

/-- A handled frame has its bytes accounted. -/
theorem accountBytes_isSome (h : HandledFrame) (s : DatapathMaps) (key : LanspeedKey) :
    ∃ mid, accountBytes h.env s key h.skb.len = some mid := by
  have hok : (!h.env.clientsUpdateOk) ≠ true := Bool.false_ne_true
  unfold accountBytes
  split
  · exact ⟨_, if_neg hok⟩
  · exact ⟨_, rfl⟩

/-- A new connection of a client is counted in an entry of that client. -/
structure CountedIn (mid after : DatapathMaps) (connKey : LanspeedConnKey) : Prop where
  kind  : ∃ kind : ConnKind, connKey.proto = kind.proto
  entry : ∃ key e, key.mac = connKey.mac ∧ Keyed.lookup Prod.fst key mid.clients = some e ∧
    after = ⟨updateCounters key (.addConnection connKey.proto) mid.clients,
      connKey :: mid.seenConns⟩

/-- What the connection-counting half does for an entry that is there. -/
theorem tryCountConnection_cases (h : HandledFrame) {mid : DatapathMaps}
    {key : LanspeedKey} {eth : EthHdr} {l3 : List UInt8} {e : LanspeedKey × LanspeedCounters}
    (he : Keyed.lookup Prod.fst key mid.clients = some e)
    (hconnection : h.connection = parseConnection key.mac eth l3) :
    (h.newKey mid = none ∧ tryCountConnection h.env mid key eth l3 = mid) ∨
      ∃ connKey, h.newKey mid = some connKey ∧ CountedIn mid
        (tryCountConnection h.env mid key eth l3) connKey := by
  have henv : h.env.ctLookup = some h.ctLookup := rfl
  have hok : h.env.seenUpdateOk = true := rfl
  unfold HandledFrame.newKey tryCountConnection
  rw [hconnection, henv]
  cases hparse : parseConnection key.mac eth l3 with
  | none => exact .inl ⟨rfl, rfl⟩
  | some parsed =>
    obtain ⟨connKey, tuple⟩ := parsed
    obtain ⟨kind, hkey⟩ := parseConnection_cases hparse
    dsimp only [Option.bind_some]
    by_cases hseen : connKey ∈ mid.seenConns
    · exact .inl ⟨if_neg fun hnew => hnew.1 hseen, if_pos hseen⟩
    · rw [if_neg hseen]
      by_cases hct : h.ctLookup tuple connKey.proto = true
      · rw [if_pos ⟨hseen, hct⟩, if_neg (by simp [hct])]
        refine .inr ⟨connKey, rfl,
          ⟨kind, by rw [hkey, connKey_proto]⟩, key, e, by rw [hkey, connKey_mac], he, ?_⟩
        rw [if_pos hok]
      · rw [if_neg fun hnew => hct hnew.2, if_pos (by simp [hct])]
        exact .inl ⟨rfl, rfl⟩

/-- A frame leaves the connection counts alone, or it adds a key and counts a connection for it. -/
theorem handle_cases (s : DatapathMaps) (h : HandledFrame) :
    ∃ mid : DatapathMaps, mid.seenConns = s.seenConns ∧
      (∀ mac kind, connsOf mac kind mid.clients = connsOf mac kind s.clients) ∧
      ((h.newKey s = none ∧ s.handle h = mid) ∨
        ∃ connKey, h.newKey s = some connKey ∧ CountedIn mid (s.handle h) connKey) := by
  have hnewKey : ∀ mid : DatapathMaps, mid.seenConns = s.seenConns → h.newKey mid = h.newKey s := by
    intro mid hmid
    unfold HandledFrame.newKey
    rw [hmid]
  have hprogram :
      ∃ action, s.handle h = (accountFrame h.env s h.skb h.program.direction action).1 := by
    unfold DatapathMaps.handle
    cases h.program <;> exact ⟨_, rfl⟩
  obtain ⟨action, hprogram⟩ := hprogram
  rw [hprogram, accountFrame]
  cases heth : parseEthHdr h.skb.data with
  | none =>
    have hnone : h.newKey s = none := by simp [HandledFrame.newKey, HandledFrame.connection, heth]
    exact ⟨s, rfl, fun _ _ => rfl, .inl ⟨hnone, rfl⟩⟩
  | some parsed =>
    obtain ⟨eth, l3⟩ := parsed
    by_cases hdir : h.program.direction = lanspeedDirTx
    · by_cases hmac : validClientMac eth.hSource = true
      · have hkey : frameKey h.skb h.program.direction =
            some ⟨h.skb.ifindex, (h.skb.vlanTci &&& 0x0fff).toUInt16,
              h.program.direction, eth.hSource⟩ := by
          simp [frameKey, heth, hdir, hmac]
        have hconnection : h.connection = parseConnection eth.hSource eth l3 := by
          simp [HandledFrame.connection, heth, hdir, hmac]
        obtain ⟨mid, hmid⟩ := accountBytes_isSome h s
          ⟨h.skb.ifindex, (h.skb.vlanTci &&& 0x0fff).toUInt16, h.program.direction, eth.hSource⟩
        obtain ⟨hseen, hconns, e, he⟩ := connsOf_accountBytes hmid
        rw [hkey]
        dsimp only
        rw [hmid]
        dsimp only
        rw [if_pos hdir, ← hnewKey mid hseen]
        exact ⟨mid, hseen, hconns, tryCountConnection_cases h he hconnection⟩
      · have hkey : frameKey h.skb h.program.direction = none := by
          simp [frameKey, heth, hdir, hmac]
        have hnone : h.newKey s = none := by
          simp [HandledFrame.newKey, HandledFrame.connection, heth, hmac]
        rw [hkey]
        exact ⟨s, rfl, fun _ _ => rfl, .inl ⟨hnone, rfl⟩⟩
    · have hnone : h.newKey s = none := by
        rw [HandledFrame.newKey, HandledFrame.connection, if_neg hdir, Option.bind_none]
      cases hkey : frameKey h.skb h.program.direction with
      | none => exact ⟨s, rfl, fun _ _ => rfl, .inl ⟨hnone, rfl⟩⟩
      | some key =>
        obtain ⟨mid, hmid⟩ := accountBytes_isSome h s key
        obtain ⟨hseen, hconns, -⟩ := connsOf_accountBytes hmid
        dsimp only
        rw [hmid]
        dsimp only
        rw [if_neg hdir]
        exact ⟨mid, hseen, hconns, .inl ⟨hnone, rfl⟩⟩

/-! ## What a run does -/

/-- The keys that count for a client and a protocol. -/
def keysOf (mac : Mac) (kind : ConnKind) (seen : List LanspeedConnKey) : List LanspeedConnKey :=
  seen.filter fun k => k.mac = mac ∧ k.proto = kind.proto

/-- The counts are those of the keys that are remembered. -/
structure Counted (s : DatapathMaps) : Prop where
  nodup : s.seenConns.Nodup
  conns : ∀ mac kind, connsOf mac kind s.clients = (keysOf mac kind s.seenConns).length

/-- A new connection was not seen before. -/
theorem notMem_of_newKey {s : DatapathMaps} {h : HandledFrame} {connKey : LanspeedConnKey}
    (hnew : h.newKey s = some connKey) : connKey ∉ s.seenConns := by
  obtain ⟨⟨connKey', tuple⟩, -, hsome⟩ := Option.bind_eq_some_iff.mp hnew
  dsimp only at hsome
  split_ifs at hsome with hnew
  exact Option.some.inj hsome ▸ hnew.1

/-- Handling a frame forgets no connection. -/
theorem length_seenConns_handle (s : DatapathMaps) (h : HandledFrame) :
    s.seenConns.length ≤ (s.handle h).seenConns.length := by
  obtain ⟨mid, hseen, -, ⟨-, hmid⟩ | ⟨connKey, -, -, key, e, -, -, hafter⟩⟩ := handle_cases s h
  · rw [hmid, hseen]
  · rw [hafter, hseen, List.length_cons]
    exact Nat.le_succ _

/-- One connection more in a counter that has room. -/
theorem toNat_conns_addConnection {c : LanspeedCounters} (kind kind' : ConnKind)
    (hroom : (c.conns kind').toNat + 1 < UInt32.size) :
    ((c.addConnection kind.proto).conns kind').toNat =
      (c.conns kind').toNat + if kind.proto = kind'.proto then 1 else 0 := by
  have hadd : (c.conns kind' + 1).toNat = (c.conns kind').toNat + 1 := by
    rw [UInt32.toNat_add]
    exact Nat.mod_eq_of_lt hroom
  cases kind <;> cases kind' <;> first | exact hadd | rfl

/-- One more connection counts where it is of the address and of the kind. -/
theorem keysOf_cons (mac : Mac) (kind : ConnKind) (k : LanspeedConnKey)
    (seen : List LanspeedConnKey) :
    (keysOf mac kind (k :: seen)).length =
      (keysOf mac kind seen).length + if k.mac = mac ∧ k.proto = kind.proto then 1 else 0 := by
  unfold keysOf
  rw [List.filter_cons]
  split_ifs with h h' h'
  · rfl
  · exact absurd (of_decide_eq_true h) h'
  · exact absurd (decide_eq_true h') h
  · rfl

/-- No entry of a client counts more connections than its keys. -/
theorem toNat_conns_le {clients : List (LanspeedKey × LanspeedCounters)} {key : LanspeedKey}
    {e : LanspeedKey × LanspeedCounters} (he : Keyed.lookup Prod.fst key clients = some e)
    (kind : ConnKind) :
    (e.2.conns kind).toNat ≤ connsOf key.mac kind clients := by
  have hmac : e.1.mac = key.mac := by rw [Keyed.key_of_lookup he]
  have hmem := List.mem_map_of_mem (f := fun e : LanspeedKey × LanspeedCounters =>
    if e.1.mac = key.mac then (e.2.conns kind).toNat else 0) (Keyed.mem_of_lookup he)
  rw [if_pos hmac] at hmem
  exact List.le_sum_of_mem hmem

/-- A frame keeps the counts those of the keys, as long as these do not fill the counters. -/
theorem Counted.handle {s : DatapathMaps} (hs : Counted s) (h : HandledFrame)
    (hroom : (s.handle h).seenConns.length < UInt32.size) : Counted (s.handle h) := by
  obtain ⟨mid, hseen, hmid, ⟨-, hafter⟩ | ⟨connKey, hnew, ⟨kind, hkind⟩,
        key, e, hmac, he, hafter⟩⟩ := handle_cases s h
  · rw [hafter]
    exact ⟨hseen ▸ hs.nodup, fun mac kind => by rw [hmid, hseen, hs.conns]⟩
  · rw [hafter, hseen, List.length_cons] at hroom
    rw [hafter]
    refine ⟨hseen ▸ List.nodup_cons.mpr ⟨notMem_of_newKey hnew, hs.nodup⟩, fun mac kind' => ?_⟩
    have hroom' : (e.2.conns kind').toNat + 1 < UInt32.size := by
      have hle := toNat_conns_le he kind'
      rw [hmid, hs.conns] at hle
      have hfilter : (keysOf key.mac kind' s.seenConns).length ≤ s.seenConns.length :=
        List.length_filter_le _ _
      omega
    have hcount := toNat_conns_addConnection kind kind' hroom'
    have hkey : e.1.mac = connKey.mac := by rw [Keyed.key_of_lookup he, hmac]
    have hadd :
        (if e.1.mac = mac then ((e.2.addConnection connKey.proto).conns kind').toNat else 0) =
        (if e.1.mac = mac then (e.2.conns kind').toNat else 0) +
          if connKey.mac = mac ∧ connKey.proto = kind'.proto then 1 else 0 := by
      rw [hkey, hkind, hcount]
      by_cases hclient : connKey.mac = mac
      · simp only [hclient, if_true, true_and]
      · simp only [hclient, if_false, false_and]
    have hsum := Keyed.sum_map_modify (f := fun r => (r.1, r.2.addConnection connKey.proto))
      (g := fun r => if r.1.mac = mac then (r.2.conns kind').toNat else 0) he hadd
    have hbefore := hmid mac kind'
    rw [hs.conns] at hbefore
    rw [hseen, keysOf_cons, ← hbefore]
    exact hsum

/-- The frames are handled one after the other. -/
theorem handled_concat (frames : List HandledFrame) (h : HandledFrame) :
    handled (frames ++ [h]) = (handled frames).handle h := by
  rw [handled, Machine.run, List.foldl_concat]
  rfl

/-- After a run that does not fill the map of keys, the counts are those of the keys. -/
theorem counted_handled (frames : List HandledFrame)
    (hroom : (handled frames).seenConns.length < UInt32.size) :
    Counted (handled frames) := by
  induction frames using List.reverseRecOn with
  | nil => exact ⟨List.nodup_nil, fun _ _ => rfl⟩
  | append_singleton frames h ih =>
    rw [handled_concat] at hroom ⊢
    exact (ih ((length_seenConns_handle _ h).trans_lt hroom)).handle h hroom

/-- The connection of a frame, and the lookup for it that succeeds. -/
def HandledFrame.Verified (h : HandledFrame) (connKey : LanspeedConnKey)
    (tuple : BpfSockTuple) : Prop :=
  h.connection = some (connKey, tuple) ∧ h.ctLookup tuple connKey.proto = true

/-- A frame adds the connection that it is verified for, unless it was seen. -/
theorem newKey_eq_some_iff {s : DatapathMaps} {h : HandledFrame} {connKey : LanspeedConnKey} :
    h.newKey s = some connKey ↔ connKey ∉ s.seenConns ∧ ∃ tuple, h.Verified connKey tuple := by
  rw [HandledFrame.newKey, Option.bind_eq_some_iff]
  constructor
  · rintro ⟨⟨connKey', tuple⟩, hconnection, hnew⟩
    dsimp only at hnew
    split_ifs at hnew with hcond
    obtain rfl := Option.some.inj hnew
    exact ⟨hcond.1, tuple, hconnection, hcond.2⟩
  · rintro ⟨hfresh, tuple, hconnection, hct⟩
    exact ⟨(connKey, tuple), hconnection, if_pos ⟨hfresh, hct⟩⟩

/-- A frame adds the key of its connection when the lookup succeeds. -/
theorem mem_seenConns_handle_iff (s : DatapathMaps) (h : HandledFrame) (k : LanspeedConnKey) :
    k ∈ (s.handle h).seenConns ↔ k ∈ s.seenConns ∨ ∃ tuple, h.Verified k tuple := by
  obtain ⟨mid, hseen, -, ⟨hnone, hafter⟩ | ⟨connKey, hnew, -, key, e, -, -, hafter⟩⟩ :=
    handle_cases s h
  · rw [hafter, hseen]
    refine ⟨.inl, fun hk => hk.elim id fun hverified => ?_⟩
    by_contra hfresh
    have hsome := newKey_eq_some_iff.mpr ⟨hfresh, hverified⟩
    rw [hnone] at hsome
    exact absurd hsome.symm (Option.some_ne_none k)
  · rw [hafter, hseen, List.mem_cons]
    constructor
    · rintro (rfl | hk)
      · exact .inr (newKey_eq_some_iff.mp hnew).2
      · exact .inl hk
    · rintro (hk | hverified)
      · exact .inr hk
      · by_cases hk : k ∈ s.seenConns
        · exact .inr hk
        · exact .inl (Option.some.inj ((newKey_eq_some_iff.mpr ⟨hk, hverified⟩).symm.trans hnew))

/-- After a run a key is remembered when the lookup has succeeded for a tuple with that key. -/
theorem mem_seenConns_handled_iff (frames : List HandledFrame) (k : LanspeedConnKey) :
    k ∈ (handled frames).seenConns ↔ ∃ h ∈ frames, ∃ tuple, h.Verified k tuple := by
  induction frames using List.reverseRecOn with
  | nil => exact iff_of_false List.not_mem_nil fun ⟨h, hmem, _⟩ => absurd hmem List.not_mem_nil
  | append_singleton frames h ih =>
    rw [handled_concat, mem_seenConns_handle_iff, ih]
    constructor
    · rintro (⟨h', hmem, hverified⟩ | hverified)
      · exact ⟨h', List.mem_append_left _ hmem, hverified⟩
      · exact ⟨h, List.mem_append_right _ (List.mem_singleton_self h), hverified⟩
    · rintro ⟨h', hmem, hverified⟩
      rcases List.mem_append.mp hmem with hmem | hmem
      · exact .inl ⟨h', hmem, hverified⟩
      · exact .inr (List.mem_singleton.mp hmem ▸ hverified)

/-- A frame has the key of its tuple. -/
theorem HandledFrame.connKey_of_connection {h : HandledFrame} {connKey : LanspeedConnKey}
    {tuple : BpfSockTuple} (hconnection : h.connection = some (connKey, tuple)) {kind : ConnKind}
    (hkind : connKey.proto = kind.proto) :
    connKey = tuple.connKey connKey.mac kind := by
  unfold HandledFrame.connection at hconnection
  split_ifs at hconnection with hdir
  obtain ⟨⟨eth, l3⟩, -, hparse⟩ := Option.bind_eq_some_iff.mp hconnection
  dsimp only at hparse
  split_ifs at hparse with hmac
  obtain ⟨kind', hkey⟩ := parseConnection_cases hparse
  have hproto : kind' = kind := ConnKind.proto_inj.mp (by rw [← hkind, hkey, connKey_proto])
  rw [hkey, connKey_mac, hproto]

/-- A connection is tracked when a frame of the address and of the kind was verified for it. -/
theorem mem_trackedConns_iff {mac : Mac} {kind : ConnKind} {frames : List HandledFrame}
    {tuple : BpfSockTuple} :
    tuple ∈ trackedConns mac kind frames ↔
      ∃ h ∈ frames, ∃ connKey, h.Verified connKey tuple ∧ connKey.mac = mac ∧
      connKey.proto = kind.proto := by
  rw [trackedConns, List.mem_toFinset, List.mem_filterMap]
  refine exists_congr fun h => and_congr_right fun _ => ?_
  rw [HandledFrame.tracked, Option.bind_eq_some_iff]
  constructor
  · rintro ⟨⟨connKey, tuple'⟩, hconnection, htracked⟩
    dsimp only at htracked
    split_ifs at htracked with hcond
    obtain ⟨hmac, hproto, hct⟩ := hcond
    obtain rfl := Option.some.inj htracked
    exact ⟨connKey, ⟨hconnection, by rw [hproto, hct]⟩, hmac, hproto⟩
  · rintro ⟨connKey, ⟨hconnection, hct⟩, hmac, hproto⟩
    exact ⟨(connKey, tuple), hconnection, if_pos ⟨hmac, hproto, hproto ▸ hct⟩⟩

/-- The keys of a client and a protocol are those of its tracked connections. -/
theorem toFinset_keysOf_handled (mac : Mac) (kind : ConnKind) (frames : List HandledFrame) :
    (keysOf mac kind (handled frames).seenConns).toFinset =
      (trackedConns mac kind frames).image (BpfSockTuple.connKey mac kind) := by
  ext k
  rw [List.mem_toFinset, keysOf, List.mem_filter, mem_seenConns_handled_iff,
    decide_eq_true_eq, Finset.mem_image]
  constructor
  · rintro ⟨⟨h, hmem, tuple, hverified⟩, rfl, hproto⟩
    exact ⟨tuple, mem_trackedConns_iff.mpr ⟨h, hmem, k, hverified, rfl, hproto⟩,
      (HandledFrame.connKey_of_connection hverified.1 hproto).symm⟩
  · rintro ⟨tuple, htracked, rfl⟩
    obtain ⟨h, hmem, connKey, hverified, rfl, hproto⟩ := mem_trackedConns_iff.mp htracked
    rw [← HandledFrame.connKey_of_connection hverified.1 hproto]
    exact ⟨⟨h, hmem, tuple, hverified⟩, rfl, hproto⟩

/-- The keys of tracked connections are distinct when the connections are told apart without their
source address. -/
theorem injOn_connKey_iff (mac : Mac) (kind : ConnKind) (tuples : Finset BpfSockTuple) :
    Set.InjOn (BpfSockTuple.connKey mac kind) tuples ↔ ToldApart tuples := by
  constructor
  · intro h t ht t' ht' hdaddr hsport hdport
    rw [h ht ht' ((connKey_eq_iff mac kind t t').mpr ⟨hdaddr, hsport, hdport⟩)]
  · intro h t ht t' ht' hkey
    obtain ⟨hdaddr, hsport, hdport⟩ := (connKey_eq_iff mac kind t t').mp hkey
    have hsaddr := h t ht t' ht' hdaddr hsport hdport
    cases t
    cases t'
    exact BpfSockTuple.mk.injEq .. ▸ ⟨hsaddr, hdaddr, hsport, hdport⟩

/-- The connections that the entries of a client count are its tracked connections exactly when no
two of these differ in the source address alone: for every sequence of frames. -/
theorem connsOf_eq_card_iff (frames : List HandledFrame)
    (hroom : (handled frames).seenConns.length < UInt32.size) (mac : Mac) (kind : ConnKind) :
    connsOf mac kind (handled frames).clients = (trackedConns mac kind frames).card ↔
      ToldApart (trackedConns mac kind frames) := by
  have hcounted := counted_handled frames hroom
  have hnodup : (keysOf mac kind (handled frames).seenConns).Nodup := hcounted.nodup.filter _
  rw [hcounted.conns, ← List.toFinset_card_of_nodup hnodup, toFinset_keysOf_handled,
    Finset.card_image_iff, injOn_connKey_iff]

/-- A UDP packet of `02:00:00:00:00:01` from `192.168.1.host` to `1.1.1.1:53`, which conntrack
knows. -/
def dnsQuery (host port : UInt8) : HandledFrame where
  program  := .ingress
  skb      :=
    { data := [0x02, 0, 0, 0, 0, 0xfe, 0x02, 0, 0, 0, 0, 1, 0x08, 0x00,
        0x45, 0, 0, 28, 0, 0, 0, 0, 64, 17, 0, 0, 192, 168, 1, host, 1, 1, 1, 1,
        0x9c, port, 0, 53, 0, 8, 0, 0]
      ifindex := 3
      vlanTci := 0
      len := 42 }
  ktimeNs  := 0
  ctLookup := fun _ _ => true

/-- Two ports of one address. -/
theorem connsOf_dnsQuery_ports :
    (handled [dnsQuery 10 1, dnsQuery 10 2]).seenConns.length < UInt32.size ∧
      (connsOf ⟨0x02, 0, 0, 0, 0, 1⟩ .udp (handled [dnsQuery 10 1, dnsQuery 10 2]).clients =
          (trackedConns ⟨0x02, 0, 0, 0, 0, 1⟩ .udp [dnsQuery 10 1, dnsQuery 10 2]).card ↔
        ToldApart (trackedConns ⟨0x02, 0, 0, 0, 0, 1⟩ .udp [dnsQuery 10 1, dnsQuery 10 2])) :=
  have hroom :
      (handled [dnsQuery 10 1, dnsQuery 10 2]).seenConns.length < UInt32.size := by decide +kernel
  ⟨hroom, connsOf_eq_card_iff _ hroom ⟨0x02, 0, 0, 0, 0, 1⟩ .udp⟩

/-- One port of two addresses of a client: two connections that are counted as one. -/
theorem not_connsOf_dnsQuery_addresses :
    ¬ connsOf ⟨0x02, 0, 0, 0, 0, 1⟩ .udp (handled [dnsQuery 10 1, dnsQuery 11 1]).clients =
      (trackedConns ⟨0x02, 0, 0, 0, 0, 1⟩ .udp [dnsQuery 10 1, dnsQuery 11 1]).card := by
  have hcount :
      connsOf ⟨0x02, 0, 0, 0, 0, 1⟩ .udp (handled [dnsQuery 10 1, dnsQuery 11 1]).clients = 1 := by
    decide +kernel
  have htracked :
      (trackedConns ⟨0x02, 0, 0, 0, 0, 1⟩ .udp [dnsQuery 10 1, dnsQuery 11 1]).card = 2 := by
    decide +kernel
  rw [hcount, htracked]
  decide

end Lanspeed
