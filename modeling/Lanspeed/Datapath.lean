import Lanspeed.Identity
import Lanspeed.Lib.Keyed
import Lanspeed.Lib.Word

/-!
# The BPF datapath

`lanspeed_tc.bpf.c`: the four classifier sections account every frame they see in the map
`lanspeed_clients`, under the interface, the VLAN id, the direction and the client's MAC address,
and count new connections on ingress. The helpers the programs call are the fields of `HelperEnv`.
Here one execution of a program is one step; the maps do not evict.
-/

namespace Lanspeed

/-- `LANSPEED_DIR_TX`. -/
def lanspeedDirTx : UInt8 := 1

/-- `LANSPEED_DIR_RX`. -/
def lanspeedDirRx : UInt8 := 2

/-- The verdicts that the programs return. -/
inductive TcAct where
  | ok
  | unspec
deriving DecidableEq, Repr

/-- `struct lanspeed_key`; its reserved byte is always zero. -/
structure LanspeedKey where
  ifindex : UInt32
  vlanOrZone : UInt16
  direction : UInt8
  mac : Mac
deriving DecidableEq, Repr

/-- `struct lanspeed_counters`. -/
structure LanspeedCounters where
  bytes : UInt64 := 0
  packets : UInt64 := 0
  lastSeen : UInt64 := 0
  tcpConns : UInt32 := 0
  udpConns : UInt32 := 0
deriving DecidableEq, Repr

/-- `struct lanspeed_conn_key`. -/
structure LanspeedConnKey where
  mac : Mac
  proto : UInt8
  family : UInt8
  sport : UInt16
  dport : UInt16
  dstIp : List UInt8
deriving DecidableEq, Repr

/-- `struct bpf_sock_tuple`, for either address family. -/
structure BpfSockTuple where
  saddr : List UInt8
  daddr : List UInt8
  sport : UInt16
  dport : UInt16
deriving DecidableEq, Repr

/-- What the programs read of `struct __sk_buff`; `data` is the linear part of the packet. -/
structure SkBuff where
  data : List UInt8
  ifindex : UInt32
  vlanTci : UInt32
  len : UInt32
deriving DecidableEq, Repr

/-- `struct ethhdr`. -/
structure EthHdr where
  hDest : Mac
  hSource : Mac
  hProto : UInt16
deriving DecidableEq, Repr

/-- The results of the kernel helpers during one execution. `ctLookup` is `bpf_skb_ct_lookup` by
tuple and protocol, and `none` on kernels without it. -/
structure HelperEnv where
  ktimeNs : UInt64
  clientsUpdateOk : Bool := true
  seenUpdateOk : Bool := true
  ctLookup : Option (BpfSockTuple → UInt8 → Bool) := none

/-- The maps `lanspeed_clients` and `lanspeed_seen_conns`. -/
structure DatapathMaps where
  clients : List (LanspeedKey × LanspeedCounters) := []
  seenConns : List LanspeedConnKey := []

/-! ## Packet headers -/

/-- The Ethernet header at the start of the packet, if it is complete, and the bytes behind it. -/
def parseEthHdr : List UInt8 → Option (EthHdr × List UInt8)
  | d0 :: d1 :: d2 :: d3 :: d4 :: d5 :: s0 :: s1 :: s2 :: s3 :: s4 :: s5 :: p0 :: p1 :: rest =>
    some (⟨⟨d0, d1, d2, d3, d4, d5⟩, ⟨s0, s1, s2, s3, s4, s5⟩,
      p0.toUInt16 <<< 8 ||| p1.toUInt16⟩, rest)
  | _ => none

/-- The byte at an offset; the callers have checked the bounds. -/
def byteAt (b : List UInt8) (i : ℕ) : UInt8 := b.getD i 0

/-- The big-endian 16-bit field at an offset. -/
def be16At (b : List UInt8) (i : ℕ) : UInt16 :=
  (byteAt b i).toUInt16 <<< 8 ||| (byteAt b (i + 1)).toUInt16

/-- `ETH_P_IP`. -/
def ethPIp : UInt16 := 0x0800

/-- `ETH_P_IPV6`. -/
def ethPIpv6 : UInt16 := 0x86dd

/-- `IPPROTO_TCP`. -/
def ipprotoTcp : UInt8 := 6

/-- `IPPROTO_UDP`. -/
def ipprotoUdp : UInt8 := 17

/-- The size of the transport header that must be in the packet: `struct tcphdr` or
`struct udphdr`. -/
def l4HeaderSize (l4proto : UInt8) : ℕ := if l4proto = ipprotoTcp then 20 else 8

/-- The parsing half of `try_count_connection`: the dedup key and the conntrack tuple of a TCP or
UDP packet whose headers are within bounds. -/
def parseConnection (srcMac : Mac) (eth : EthHdr) (l3 : List UInt8) :
    Option (LanspeedConnKey × BpfSockTuple) :=
  if eth.hProto = ethPIp then
    if l3.length < 20 then none
    else
      let l4proto := byteAt l3 9
      if l4proto ≠ ipprotoTcp ∧ l4proto ≠ ipprotoUdp then none
      else
        -- The length of an IPv4 header is in its first byte; only its fixed part was checked above.
        let l4 := l3.drop ((byteAt l3 0 &&& 0x0f).toNat * 4)
        if l4.length < l4HeaderSize l4proto then none
        else
          let saddr := (l3.drop 12).take 4
          let daddr := (l3.drop 16).take 4
          some (⟨srcMac, l4proto, 2, be16At l4 0, be16At l4 2, daddr ++ List.replicate 12 0⟩,
            ⟨saddr, daddr, be16At l4 0, be16At l4 2⟩)
  else if eth.hProto = ethPIpv6 then
    if l3.length < 40 then none
    else
      let l4proto := byteAt l3 6
      if l4proto ≠ ipprotoTcp ∧ l4proto ≠ ipprotoUdp then none
      else
        -- IPv6 extension headers are not followed.
        let l4 := l3.drop 40
        if l4.length < l4HeaderSize l4proto then none
        else
          let saddr := (l3.drop 8).take 16
          let daddr := (l3.drop 24).take 16
          some (⟨srcMac, l4proto, 10, be16At l4 0, be16At l4 2, daddr⟩,
            ⟨saddr, daddr, be16At l4 0, be16At l4 2⟩)
  else none

/-! ## Accounting -/

/-- The counters of a new entry. -/
def LanspeedCounters.initial (len : UInt32) (ktimeNs : UInt64) : LanspeedCounters :=
  { bytes := len.toUInt64, packets := 1, lastSeen := ktimeNs }

/-- Add one frame to the counters of an entry. -/
def LanspeedCounters.addFrame (len : UInt32) (ktimeNs : UInt64) (c : LanspeedCounters) :
    LanspeedCounters :=
  { c with bytes := c.bytes + len.toUInt64, packets := c.packets + 1, lastSeen := ktimeNs }

@[simp] theorem LanspeedCounters.initial_bytes (len : UInt32) (ktimeNs : UInt64) :
    (LanspeedCounters.initial len ktimeNs).bytes = len.toUInt64 := rfl

@[simp] theorem LanspeedCounters.addFrame_bytes (len : UInt32) (ktimeNs : UInt64)
    (c : LanspeedCounters) : (c.addFrame len ktimeNs).bytes = c.bytes + len.toUInt64 := rfl

/-- Count one connection. -/
def LanspeedCounters.addConnection (proto : UInt8) (c : LanspeedCounters) : LanspeedCounters :=
  if proto = ipprotoTcp then { c with tcpConns := c.tcpConns + 1 }
  else { c with udpConns := c.udpConns + 1 }

/-- Rewrite the counters of one map entry in place. -/
def updateCounters (key : LanspeedKey) (f : LanspeedCounters → LanspeedCounters) :
    List (LanspeedKey × LanspeedCounters) → List (LanspeedKey × LanspeedCounters) :=
  Keyed.modify Prod.fst key fun e => (e.1, f e.2)

/-- `try_count_connection`, for the map entry under `key`. -/
def tryCountConnection (env : HelperEnv) (s : DatapathMaps) (key : LanspeedKey) (eth : EthHdr)
    (l3 : List UInt8) : DatapathMaps :=
  match env.ctLookup with
  | none => s
  | some ctLookup =>
    match parseConnection key.mac eth l3 with
    | none => s
    | some (connKey, tuple) =>
      if connKey ∈ s.seenConns then s
      else if !ctLookup tuple connKey.proto then s
      else
        -- The connection is counted even where it could not be remembered.
        { seenConns := if env.seenUpdateOk then connKey :: s.seenConns else s.seenConns
          clients := updateCounters key (.addConnection connKey.proto) s.clients }

/-- The byte-counting half of `account_frame`: create the entry, or add to it. `none` when the
entry could not be created. -/
def accountBytes (env : HelperEnv) (s : DatapathMaps) (key : LanspeedKey) (len : UInt32) :
    Option DatapathMaps :=
  match Keyed.lookup Prod.fst key s.clients with
  | none =>
    -- Another CPU may create the entry first, or the map may refuse it: the frame is not counted.
    if !env.clientsUpdateOk then none
    else
      some { s with clients := s.clients ++ [(key, .initial len env.ktimeNs)] }
  | some _ =>
    some { s with clients := updateCounters key (.addFrame len env.ktimeNs) s.clients }

/-- The key `account_frame` builds for a frame, if it accounts the frame at all. -/
def frameKey (skb : SkBuff) (direction : UInt8) : Option LanspeedKey :=
  match parseEthHdr skb.data with
  | none => none
  | some (eth, _) =>
    let mac := if direction = lanspeedDirTx then eth.hSource else eth.hDest
    if !validClientMac mac then none
    else some ⟨skb.ifindex, (skb.vlanTci &&& 0x0fff).toUInt16, direction, mac⟩

/-- `account_frame`. -/
def accountFrame (env : HelperEnv) (s : DatapathMaps) (skb : SkBuff) (direction : UInt8)
    (action : TcAct) : DatapathMaps × TcAct :=
  match parseEthHdr skb.data, frameKey skb direction with
  | some (eth, l3), some key =>
    match accountBytes env s key skb.len with
    | none => (s, action)
    | some s' =>
      -- Connections are counted on the side of the client that sends.
      if direction = lanspeedDirTx then (tryCountConnection env s' key eth l3, action)
      else (s', action)
  | _, _ => (s, action)

/-- `SEC("tc/ingress") lanspeed_ingress`. -/
def lanspeedIngress (env : HelperEnv) (s : DatapathMaps) (skb : SkBuff) : DatapathMaps × TcAct :=
  accountFrame env s skb lanspeedDirTx .ok

/-- `SEC("tc/egress") lanspeed_egress`. -/
def lanspeedEgress (env : HelperEnv) (s : DatapathMaps) (skb : SkBuff) : DatapathMaps × TcAct :=
  accountFrame env s skb lanspeedDirRx .ok

/-- `SEC("tc") lanspeed_ingress_early`. -/
def lanspeedIngressEarly (env : HelperEnv) (s : DatapathMaps) (skb : SkBuff) :
    DatapathMaps × TcAct :=
  accountFrame env s skb lanspeedDirTx .unspec

/-- `SEC("tc") lanspeed_egress_early`. -/
def lanspeedEgressEarly (env : HelperEnv) (s : DatapathMaps) (skb : SkBuff) :
    DatapathMaps × TcAct :=
  accountFrame env s skb lanspeedDirRx .unspec

/-! ## What one execution does to the byte counters -/

/-- The bytes of all entries whose key satisfies `p`. -/
def bytesWhere (p : LanspeedKey → Bool)
    (clients : List (LanspeedKey × LanspeedCounters)) : UInt64 :=
  (clients.map fun e => if p e.1 then e.2.bytes else 0).sum

/-- The keys of the map are distinct. -/
abbrev DistinctKeys (clients : List (LanspeedKey × LanspeedCounters)) : Prop :=
  Keyed.Distinct Prod.fst clients

/-- A program never changes the verdict it was compiled with. -/
theorem accountFrame_action (env : HelperEnv) (s : DatapathMaps) (skb : SkBuff) (direction : UInt8)
    (action : TcAct) : (accountFrame env s skb direction action).2 = action := by
  unfold accountFrame
  split
  · split
    · rfl
    · split <;> rfl
  · rfl

/-- An in-place update that leaves the byte counter alone leaves every sum of bytes alone. -/
theorem bytesWhere_updateCounters_of_eq (p : LanspeedKey → Bool) (key : LanspeedKey)
    {f : LanspeedCounters → LanspeedCounters} (hf : ∀ c, (f c).bytes = c.bytes)
    (clients : List (LanspeedKey × LanspeedCounters)) :
    bytesWhere p (updateCounters key f clients) = bytesWhere p clients := by
  induction clients with
  | nil => rfl
  | cons e es ih =>
    simp only [bytesWhere, updateCounters] at ih ⊢
    rw [Keyed.modify_cons]
    split
    · simp only [List.map_cons, List.sum_cons, hf]
    · rw [List.map_cons, List.sum_cons, ih, List.map_cons, List.sum_cons]

/-- Counting a connection leaves the map of clients alone, or rewrites the two connection counts of
the entry under the frame's key. -/
theorem tryCountConnection_clients (env : HelperEnv) (s : DatapathMaps) (key : LanspeedKey)
    (eth : EthHdr) (l3 : List UInt8) :
    (tryCountConnection env s key eth l3).clients = s.clients ∨
      ∃ f : LanspeedCounters → LanspeedCounters,
        (∀ c, (f c).bytes = c.bytes ∧ (f c).packets = c.packets ∧ (f c).lastSeen = c.lastSeen) ∧
        (tryCountConnection env s key eth l3).clients = updateCounters key f s.clients := by
  unfold tryCountConnection
  cases env.ctLookup with
  | none => exact .inl rfl
  | some ctLookup =>
    cases parseConnection key.mac eth l3 with
    | none => exact .inl rfl
    | some conn =>
      dsimp only
      by_cases hseen : conn.1 ∈ s.seenConns
      · exact .inl (by rw [if_pos hseen])
      · by_cases hct : (!ctLookup conn.2 conn.1.proto) = true
        · exact .inl (by rw [if_neg hseen, if_pos hct])
        · refine .inr ⟨_, fun c => ?_, by rw [if_neg hseen, if_neg hct]⟩
          rw [LanspeedCounters.addConnection]
          split <;> exact ⟨rfl, rfl, rfl⟩

/-- Counting connections leaves every sum of bytes alone. -/
theorem bytesWhere_tryCountConnection (p : LanspeedKey → Bool) (env : HelperEnv) (s : DatapathMaps)
    (key : LanspeedKey) (eth : EthHdr) (l3 : List UInt8) :
    bytesWhere p (tryCountConnection env s key eth l3).clients = bytesWhere p s.clients := by
  rcases tryCountConnection_clients env s key eth l3 with h | ⟨f, hf, h⟩
  · rw [h]
  · rw [h, bytesWhere_updateCounters_of_eq p key fun c => (hf c).1]

/-- One accounting adds the length of the frame to every sum of bytes that covers its key. -/
theorem bytesWhere_accountBytes (p : LanspeedKey → Bool) {env : HelperEnv} {s s' : DatapathMaps}
    {key : LanspeedKey} {len : UInt32} (h : accountBytes env s key len = some s') :
    bytesWhere p s'.clients = bytesWhere p s.clients + if p key then len.toUInt64 else 0 := by
  unfold accountBytes at h
  split at h
  · split at h
    · exact absurd h (by simp)
    · obtain rfl := Option.some.inj h
      simp only [bytesWhere, List.map_append, List.sum_append, List.map_cons, List.map_nil,
        List.sum_cons, List.sum_nil, add_zero, LanspeedCounters.initial_bytes]
  · rename_i e he
    obtain rfl := Option.some.inj h
    have hkey : e.1 = key := Keyed.key_of_lookup he
    apply Keyed.sum_map_modify he
    rw [hkey]
    split <;> simp

/-- One execution of a program adds the frame's length to every sum of bytes that covers the key it
builds, and nothing when it builds none. -/
theorem bytesWhere_accountFrame (p : LanspeedKey → Bool) {env : HelperEnv}
    (henv : env.clientsUpdateOk = true) (s : DatapathMaps) (skb : SkBuff) (direction : UInt8)
    (action : TcAct) :
    bytesWhere p (accountFrame env s skb direction action).1.clients = bytesWhere p s.clients +
      match frameKey skb direction with
      | some key => if p key then skb.len.toUInt64 else 0
      | none => 0 := by
  unfold accountFrame
  cases hkey : frameKey skb direction with
  | none =>
    cases parseEthHdr skb.data <;> simp
  | some key =>
    have heth : ∃ e, parseEthHdr skb.data = some e := by
      cases he : parseEthHdr skb.data with
      | none => simp [frameKey, he] at hkey
      | some e => exact ⟨e, rfl⟩
    obtain ⟨⟨eth, l3⟩, heth⟩ := heth
    rw [heth]
    dsimp only
    cases hb : accountBytes env s key skb.len with
    | none =>
      exfalso
      unfold accountBytes at hb
      split at hb <;> simp [henv] at hb
    | some s' =>
      dsimp only
      have hsum := bytesWhere_accountBytes p hb
      split
      · rw [bytesWhere_tryCountConnection, hsum]
      · exact hsum

end Lanspeed
