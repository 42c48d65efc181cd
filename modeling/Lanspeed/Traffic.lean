import Lanspeed.BpfFold
import Lanspeed.Lib.Machine
import Mathlib.Algebra.Order.BigOperators.Group.List
import Mathlib.Algebra.Order.Ring.Nat

/-!
# From frames to client totals

A frame passes a list of interfaces on its way in and a list on its way out, such as a bridge port
and then the bridge. The program on every attached interface it passes accounts it, under the
interface's own index; the daemon reads the map entries in any order and folds them by MAC address
and zone. The total of a client is the bytes of its frames when no frame passes two attached
interfaces of one zone in one direction, and only then: `folded_bytes_iff`.
-/

namespace Lanspeed

/-- An interface that a frame passes, and what the execution of the program there reads besides the
frame. The map of clients does not fail to insert. -/
structure Hop where
  ifname : CStr
  vlanTci : UInt32
  env : HelperEnv
  updateOk : env.clientsUpdateOk = true

/-- A frame with the interfaces it passes inbound and outbound. The linear data of a packet is not
longer than the packet. -/
structure Frame where
  data : List UInt8
  len : UInt32
  ingress : List Hop
  egress : List Hop
  data_le : data.length ≤ len.toNat

/-- The interfaces where the frame is accounted in a direction, if they are attached. -/
def Frame.hops (f : Frame) : Direction → List Hop
  | .tx => f.ingress
  | .rx => f.egress

/-- The client of the frame in a direction: the sender, or the receiver. -/
def Frame.client (f : Frame) (dir : Direction) : Option Mac :=
  match parseEthHdr f.data with
  | none => none
  | some (eth, _) => match dir with
    | .tx => some eth.hSource
    | .rx => some eth.hDest

/-- The interfaces the daemon attached to, and the kernel's interface indexes. -/
structure AttachedLan where
  names : List CStr
  ifNameToIndex : CStr → UInt32
  ifIndexToName : UInt32 → Option CStr
  resolves : ∀ name ∈ bpfAttachIfnames names, ifIndexToName (ifNameToIndex name) = some name

namespace AttachedLan

variable (lan : AttachedLan)

/-- The attach list. -/
def ifnames : List CStr := bpfAttachIfnames lan.names

/-- The program of a direction on an attached interface, in normal or early mode. -/
def program (early : Bool) : Direction → HelperEnv → DatapathMaps → SkBuff → DatapathMaps × TcAct
  | .tx => if early then lanspeedIngressEarly else lanspeedIngress
  | .rx => if early then lanspeedEgressEarly else lanspeedEgress

/-- The packet that the program on an interface sees. -/
def skb (f : Frame) (hop : Hop) : SkBuff :=
  { data := f.data, ifindex := lan.ifNameToIndex hop.ifname, vlanTci := hop.vlanTci, len := f.len }

/-- A frame passes one interface. -/
def hopStep (early : Bool) (f : Frame) (dir : Direction) (s : DatapathMaps) (hop : Hop) :
    DatapathMaps :=
  if hop.ifname ∈ lan.ifnames then (program early dir hop.env s (lan.skb f hop)).1 else s

/-- A frame passes all its interfaces. -/
def frameStep (early : Bool) (s : DatapathMaps) (f : Frame) : DatapathMaps :=
  Machine.run (lan.hopStep early f .rx) (Machine.run (lan.hopStep early f .tx) s f.ingress) f.egress

/-- The maps after a sequence of frames. -/
def traffic (early : Bool) (frames : List Frame) : DatapathMaps :=
  Machine.run (lan.frameStep early) {} frames

/-- The attached interfaces that a frame passes in a direction. -/
def attachedHops (f : Frame) (dir : Direction) : List Hop :=
  (f.hops dir).filter fun hop => hop.ifname ∈ lan.ifnames

/-- The zones in which a frame of the client `m` is accounted in a direction, once for each
accounting. -/
def countedZones (m : Mac) (dir : Direction) (f : Frame) : List CStr :=
  if f.client dir = some m then (lan.attachedHops f dir).map fun hop =>
    deriveZoneFromIfname hop.ifname
  else []

/-- No frame is accounted twice in one zone and direction. -/
def ZonesPassedOnce (frames : List Frame) : Prop :=
  ∀ f ∈ frames, ∀ dir m, validClientMac m = true → (lan.countedZones m dir f).Nodup

end AttachedLan

/-- The bytes of the frames that the client `m` sent or received in a zone, each frame once. -/
def clientFrameBytes (lan : AttachedLan) (m : Mac) (zone : CStr) (dir : Direction)
    (frames : List Frame) : ℕ :=
  (frames.map fun f => if zone ∈ lan.countedZones m dir f then f.len.toNat else 0).sum

/-- The bytes that the programs account for the client `m` in a zone, a frame once for each attached
interface. -/
def accountedBytes (lan : AttachedLan) (m : Mac) (zone : CStr) (dir : Direction)
    (frames : List Frame) : ℕ :=
  (frames.map fun f => (lan.countedZones m dir f).count zone * f.len.toNat).sum

/-! ## What the programs add up -/

/-- The map keys whose entries the daemon folds into the total of an identity in one direction. -/
def foldsInto (env : FoldEnv) (dir : Direction) (key : CStr) (k : LanspeedKey) : Bool :=
  rawKey env (sampleOfEntry (k, {})) = some key ∧ k.direction = dir.bpfDir

/-- What the daemon adds to a total from a map entry is in the map under the keys of the total. -/
theorem sum_rawBytes_sampleOfEntry (env : FoldEnv) (dir : Direction) (key : CStr)
    (clients : List (LanspeedKey × LanspeedCounters)) :
    ((clients.map sampleOfEntry).map (rawBytes env dir key)).sum
      = bytesWhere (foldsInto env dir key) clients := by
  rw [bytesWhere, List.map_map]
  congr 1
  apply List.map_congr_left
  intro e _
  have hkey : rawKey env (sampleOfEntry e) = rawKey env (sampleOfEntry (e.1, {})) :=
    congrArg (Option.map RawIdentity.key) (rawIdentity_congr rfl rfl)
  simp only [Function.comp_apply, foldsInto, decide_eq_true_eq, rawBytes, hkey]
  rfl

/-- The client of a frame, if its address is valid, is the address in the key under which the frame
is accounted. -/
theorem frameKey_eq (lan : AttachedLan) (f : Frame) (hop : Hop) (dir : Direction) :
    frameKey (lan.skb f hop) dir.bpfDir =
      (f.client dir).bind fun mac =>
        if validClientMac mac then
          some ⟨lan.ifNameToIndex hop.ifname, (hop.vlanTci &&& 0x0fff).toUInt16, dir.bpfDir, mac⟩
        else none := by
  rw [frameKey, AttachedLan.skb, Frame.client]
  cases parseEthHdr f.data with
  | none => rfl
  | some e =>
    cases dir with
    | tx =>
      have htx : Direction.tx.bpfDir = lanspeedDirTx := rfl
      simp only [Option.bind_some, if_pos htx]
      cases validClientMac e.1.hSource <;> rfl
    | rx =>
      have hrx : Direction.rx.bpfDir ≠ lanspeedDirTx := by decide
      simp only [Option.bind_some, if_neg hrx]
      cases validClientMac e.1.hDest <;> rfl

section Accounting

variable {lan : AttachedLan} {env : FoldEnv} {m : Mac} {zone : CStr}

/-- A key of an attached interface counts for the client `m` in `zone` when it has the client's
address and the interface is in that zone. -/
theorem foldsInto_eq (henv : env.ifIndexToName = lan.ifIndexToName) (hm : validClientMac m = true)
    (hz : zone.length < zoneStrLen) {name : CStr} (hname : name ∈ lan.ifnames) (vlan : UInt16)
    (dir dir' : Direction) {mac : Mac} (hmac : validClientMac mac = true) :
    foldsInto env dir (identityKey (macText m) zone)
        ⟨lan.ifNameToIndex name, vlan, dir'.bpfDir, mac⟩ = true ↔
      mac = m ∧ deriveZoneFromIfname name = zone ∧ dir' = dir := by
  have hresolve : rawIfname env.ifIndexToName
      (sampleOfEntry (⟨lan.ifNameToIndex name, vlan, dir'.bpfDir, mac⟩, {})) = name := by
    rw [rawIfname, henv, sampleOfEntry, lan.resolves name hname]
  have hexcluded := recommended_not_excluded
    ((attachList_bpfAttachIfnames lan.names).names name hname).recommended
  have hid : rawKey env (sampleOfEntry (⟨lan.ifNameToIndex name, vlan, dir'.bpfDir, mac⟩, {}))
      = some (identityKey (macText mac) (deriveZoneFromIfname name)) := by
    rw [rawKey, rawIdentity_eq_some.mpr ⟨?_, ?_, rfl⟩, hresolve]
    · rfl
    · rw [validMacAddress_macText]
      exact hmac
    · rw [hresolve]
      exact hexcluded
  have hdir : dir'.bpfDir = dir.bpfDir ↔ dir' = dir := by cases dir <;> cases dir' <;> decide
  simp only [foldsInto, hid, hdir, Option.some.injEq, decide_eq_true_eq, ← and_assoc,
    and_congr_left_iff]
  intro _
  constructor
  · exact identityKey_inj (length_deriveZoneFromIfname_lt name) hz
  · rintro ⟨rfl, rfl⟩
    rfl

/-- The bytes that passing one interface adds to the client `m` in `zone`. -/
def hopBytes (lan : AttachedLan) (m : Mac) (zone : CStr) (dir : Direction) (f : Frame)
    (dir' : Direction) (hop : Hop) : ℕ :=
  if dir' = dir ∧ f.client dir = some m ∧ hop.ifname ∈ lan.ifnames ∧
      deriveZoneFromIfname hop.ifname = zone then f.len.toNat
  else 0

/-- Passing one interface adds the frame's length to its client in the zone of the interface. -/
theorem bytesWhere_hopStep (henv : env.ifIndexToName = lan.ifIndexToName)
    (hm : validClientMac m = true) (hz : zone.length < zoneStrLen) (early : Bool) (f : Frame)
    (dir dir' : Direction) (s : DatapathMaps) (hop : Hop) :
    bytesWhere (foldsInto env dir (identityKey (macText m) zone))
        (lan.hopStep early f dir' s hop).clients
      = bytesWhere (foldsInto env dir (identityKey (macText m) zone)) s.clients
        + UInt64.ofNat (hopBytes lan m zone dir f dir' hop) := by
  by_cases hname : hop.ifname ∈ lan.ifnames
  · have hprogram : ∃ action, AttachedLan.program early dir' hop.env s (lan.skb f hop)
        = accountFrame hop.env s (lan.skb f hop) dir'.bpfDir action := by
      cases early <;> cases dir' <;> exact ⟨_, rfl⟩
    obtain ⟨action, hprogram⟩ := hprogram
    rw [AttachedLan.hopStep, if_pos hname, hprogram, bytesWhere_accountFrame _ hop.updateOk,
      frameKey_eq]
    congr 1
    have hlen : (lan.skb f hop).len.toUInt64 = UInt64.ofNat f.len.toNat := by
      rw [UInt64.ofNat_uInt32ToNat]
      rfl
    -- The program accounts the frame under the client of its own direction, if it has one.
    cases hc : f.client dir' with
    | none =>
      have : ¬ (dir' = dir ∧ f.client dir = some m ∧ hop.ifname ∈ lan.ifnames ∧
          deriveZoneFromIfname hop.ifname = zone) := by
        rintro ⟨rfl, h, -⟩
        exact absurd (hc.symm.trans h) (by simp)
      rw [hopBytes, if_neg this]
      rfl
    | some mac =>
      rw [Option.bind_some]
      by_cases hmac : validClientMac mac = true
      · rw [if_pos hmac, hopBytes, hlen]
        dsimp only
        have hiff := foldsInto_eq henv hm hz hname (hop.vlanTci &&& 0x0fff).toUInt16 dir dir' hmac
        by_cases hfold : mac = m ∧ deriveZoneFromIfname hop.ifname = zone ∧ dir' = dir
        · rw [if_pos (hiff.mpr hfold), if_pos]
          obtain ⟨rfl, hzone, rfl⟩ := hfold
          exact ⟨rfl, hc, hname, hzone⟩
        · rw [if_neg (fun h => hfold (hiff.mp h)), if_neg]
          · rfl
          · rintro ⟨rfl, h, -, hzone⟩
            exact hfold ⟨Option.some.inj (hc.symm.trans h), hzone, rfl⟩
      · have : ¬ (dir' = dir ∧ f.client dir = some m ∧ hop.ifname ∈ lan.ifnames ∧
            deriveZoneFromIfname hop.ifname = zone) := by
          rintro ⟨rfl, h, -⟩
          exact hmac (Option.some.inj (hc.symm.trans h) ▸ hm)
        rw [if_neg hmac, hopBytes, if_neg this]
        rfl
  · rw [AttachedLan.hopStep, if_neg hname, hopBytes, if_neg fun h => hname h.2.2.1]
    exact (add_zero _).symm

/-- The interfaces that a frame passes in the direction of the total add the frame's length once for
each accounting in the zone. -/
theorem sum_hopBytes (lan : AttachedLan) (m : Mac) (zone : CStr) (dir : Direction) (f : Frame) :
    ((f.hops dir).map (hopBytes lan m zone dir f dir)).sum
      = (lan.countedZones m dir f).count zone * f.len.toNat := by
  rw [AttachedLan.countedZones, AttachedLan.attachedHops]
  by_cases hc : f.client dir = some m
  · rw [if_pos hc]
    -- One accounting for each attached interface of the zone that the frame passes.
    induction f.hops dir with
    | nil => simp
    | cons hop hops ih =>
      rw [List.map_cons, List.sum_cons, ih, hopBytes]
      by_cases hname : hop.ifname ∈ lan.ifnames
      · by_cases hz : deriveZoneFromIfname hop.ifname = zone
        · simp [hname, hz, hc, Nat.add_mul, Nat.add_comm]
        · simp [hname, hz]
      · simp [hname]
  · rw [if_neg hc]
    have hzero : ∀ hop ∈ f.hops dir, hopBytes lan m zone dir f dir hop = 0 :=
      fun hop _ => if_neg fun h => hc h.2.1
    rw [List.map_congr_left hzero]
    simp

/-- The interfaces that a frame passes in the other direction add nothing. -/
theorem sum_hopBytes_of_ne {dir dir' : Direction} (h : dir' ≠ dir) (lan : AttachedLan) (m : Mac)
    (zone : CStr) (f : Frame) (hops : List Hop) :
    (hops.map (hopBytes lan m zone dir f dir')).sum = 0 := by
  have hzero : ∀ hop ∈ hops, hopBytes lan m zone dir f dir' hop = 0 :=
    fun hop _ => if_neg fun h' => h h'.1
  rw [List.map_congr_left hzero]
  simp

/-- One frame adds its length once for each accounting in the zone. -/
theorem bytesWhere_frameStep (henv : env.ifIndexToName = lan.ifIndexToName)
    (hm : validClientMac m = true) (hz : zone.length < zoneStrLen) (early : Bool) (dir : Direction)
    (s : DatapathMaps) (f : Frame) :
    bytesWhere (foldsInto env dir (identityKey (macText m) zone)) (lan.frameStep early s f).clients
      = bytesWhere (foldsInto env dir (identityKey (macText m) zone)) s.clients
        + UInt64.ofNat ((lan.countedZones m dir f).count zone * f.len.toNat) := by
  have hrun : ∀ dir' s hops, bytesWhere (foldsInto env dir (identityKey (macText m) zone))
        (Machine.run (lan.hopStep early f dir') s hops).clients
      = bytesWhere (foldsInto env dir (identityKey (macText m) zone)) s.clients
        + UInt64.ofNat ((hops.map (hopBytes lan m zone dir f dir')).sum) := by
    intro dir' s hops
    rw [← Word.sum_map_ofNat]
    exact Machine.run_additive (lan.hopStep early f dir')
      (fun s => bytesWhere (foldsInto env dir (identityKey (macText m) zone)) s.clients)
      (fun hop => UInt64.ofNat (hopBytes lan m zone dir f dir' hop))
      (bytesWhere_hopStep henv hm hz early f dir dir') s hops
  -- A frame passes its ingress hooks and then its egress hooks; one of the two adds nothing.
  rw [AttachedLan.frameStep, hrun, hrun, ← sum_hopBytes]
  cases dir with
  | tx =>
    rw [sum_hopBytes_of_ne (by decide) lan m zone f f.egress]
    exact add_zero _
  | rx =>
    rw [sum_hopBytes_of_ne (by decide) lan m zone f f.ingress]
    exact congrArg (· + _) (add_zero _)

/-- A sequence of frames adds up the accounted bytes of every client. -/
theorem bytesWhere_traffic (henv : env.ifIndexToName = lan.ifIndexToName)
    (hm : validClientMac m = true) (hz : zone.length < zoneStrLen) (early : Bool) (dir : Direction)
    (frames : List Frame) :
    bytesWhere (foldsInto env dir (identityKey (macText m) zone)) (lan.traffic early frames).clients
      = UInt64.ofNat (accountedBytes lan m zone dir frames) := by
  have hrun := Machine.run_additive (lan.frameStep early)
    (fun s => bytesWhere (foldsInto env dir (identityKey (macText m) zone)) s.clients)
    (fun f => UInt64.ofNat ((lan.countedZones m dir f).count zone * f.len.toNat))
    (bytesWhere_frameStep henv hm hz early dir) {} frames
  rw [Word.sum_map_ofNat] at hrun
  exact hrun.trans (zero_add _)

end Accounting

/-! ## Each frame once -/

/-- Two sums with termwise smaller terms in one of them are equal when all terms are. -/
private theorem sum_map_eq_iff {α : Type*} {l : List α} {f g : α → ℕ} (hle : ∀ a ∈ l, f a ≤ g a) :
    (l.map g).sum = (l.map f).sum ↔ ∀ a ∈ l, g a = f a := by
  induction l with
  | nil => simp
  | cons a l ih =>
    have ha := hle a List.mem_cons_self
    have hl := fun b hb => hle b (List.mem_cons_of_mem a hb)
    have hsum : (l.map f).sum ≤ (l.map g).sum := List.sum_le_sum hl
    rw [List.map_cons, List.map_cons, List.sum_cons, List.sum_cons, List.forall_mem_cons, ← ih hl]
    omega

/-- A frame that names a client has a positive length. -/
theorem Frame.len_pos {f : Frame} {dir : Direction} {m : Mac} (h : f.client dir = some m) :
    0 < f.len.toNat := by
  have hle := f.data_le
  have hdata : f.data ≠ [] := by
    intro hnil
    rw [Frame.client, hnil] at h
    exact absurd h (by simp [parseEthHdr])
  have := List.length_pos_iff.mpr hdata
  omega

/-- The accounted bytes of a client are its frames' bytes when none of its frames is accounted twice
in the zone, and only then. -/
theorem accountedBytes_eq_iff (lan : AttachedLan) (m : Mac) (zone : CStr) (dir : Direction)
    (frames : List Frame) :
    accountedBytes lan m zone dir frames = clientFrameBytes lan m zone dir frames ↔
      ∀ f ∈ frames, (lan.countedZones m dir f).count zone ≤ 1 := by
  rw [accountedBytes, clientFrameBytes, sum_map_eq_iff]
  · apply forall₂_congr
    intro f _
    by_cases hmem : zone ∈ lan.countedZones m dir f
    · have hclient : f.client dir = some m := by
        by_contra hc
        rw [AttachedLan.countedZones, if_neg hc] at hmem
        exact absurd hmem List.not_mem_nil
      have hlen := Frame.len_pos hclient
      have hcount := List.count_pos_iff.mpr hmem
      rw [if_pos hmem, Nat.mul_eq_right (by omega)]
      omega
    · rw [if_neg hmem, List.count_eq_zero_of_not_mem hmem]
      simp
  · intro f _
    split_ifs with hmem
    · exact Nat.le_mul_of_pos_left _ (List.count_pos_iff.mpr hmem)
    · exact Nat.zero_le _

/-- The zones in which a frame is accounted are zones of attached interfaces. -/
theorem exists_of_mem_countedZones {lan : AttachedLan} {m : Mac} {dir : Direction} {f : Frame}
    {zone : CStr} (h : zone ∈ lan.countedZones m dir f) :
    ∃ name ∈ lan.ifnames, deriveZoneFromIfname name = zone := by
  rw [AttachedLan.countedZones] at h
  split_ifs at h
  · obtain ⟨hop, hhop, hz⟩ := List.mem_map.mp h
    have hname := (List.mem_filter.mp hhop).2
    exact ⟨hop.ifname, by simpa using hname, hz⟩
  · exact absurd h List.not_mem_nil

/-- No frame is accounted twice in a zone when it is accounted at most once in every zone of an
attached interface. -/
theorem AttachedLan.zonesPassedOnce_iff (lan : AttachedLan) (frames : List Frame) :
    lan.ZonesPassedOnce frames ↔ ∀ m, validClientMac m = true → ∀ name ∈ lan.ifnames, ∀ dir,
      ∀ f ∈ frames, (lan.countedZones m dir f).count (deriveZoneFromIfname name) ≤ 1 := by
  constructor
  · intro h m hm name _ dir f hf
    exact List.nodup_iff_count_le_one.mp (h f hf dir m hm) _
  · intro h f hf dir m hm
    apply List.nodup_iff_count_le_one.mpr
    intro zone
    by_cases hmem : zone ∈ lan.countedZones m dir f
    · obtain ⟨name, hname, rfl⟩ := exists_of_mem_countedZones hmem
      exact h m hm name hname dir f hf
    · rw [List.count_eq_zero_of_not_mem hmem]
      exact Nat.zero_le 1

/-- A read of the map by the daemon: the entries in any order, with the interface names of
the LAN. -/
def AttachedLan.collectInput (lan : AttachedLan) (nowMs : UInt64) (arp : List ArpEntry)
    (raws : List LanspeedBpfSample) : CollectInput :=
  { nowMs, read := some raws, ifIndexToName := lan.ifIndexToName, arp }

/-- Every client's total is the bytes of its frames, each counted once. -/
def FramesCountedOnce (lan : AttachedLan) (frames : List Frame) (table : List BpfClientSample) :
    Prop :=
  ∀ m, validClientMac m = true → ∀ name ∈ lan.ifnames, ∀ dir,
    (clientTotal dir (identityKey (macText m) (deriveZoneFromIfname name)) table).toNat
      = clientFrameBytes lan m (deriveZoneFromIfname name) dir frames

/-- After any sequence of frames, the totals that `bpf_collect_samples` folds count each frame once
exactly when no frame passes two attached interfaces of one zone in one direction. -/
theorem folded_bytes_iff (lan : AttachedLan) (early : Bool) (frames : List Frame)
    (cfg : CollectorConfig) (st : CollectorState) (nowMs : UInt64) (arp : List ArpEntry)
    {raws : List LanspeedBpfSample}
    (hraws : raws.Perm ((lan.traffic early frames).clients.map sampleOfEntry))
    (hfit : IdentitiesFit ((lan.collectInput nowMs arp raws).foldEnv cfg) raws)
    (hbytes : ∀ m, validClientMac m = true → ∀ zone dir,
      accountedBytes lan m zone dir frames < 2 ^ 64) :
    FramesCountedOnce lan frames
        (bpfCollectSamples cfg (lan.collectInput nowMs arp raws) st).bpfCurrentSamples ↔
      lan.ZonesPassedOnce frames := by
  have htotal : ∀ m, validClientMac m = true → ∀ name dir,
      (clientTotal dir (identityKey (macText m) (deriveZoneFromIfname name))
        (bpfCollectSamples cfg (lan.collectInput nowMs arp raws) st).bpfCurrentSamples).toNat
      = accountedBytes lan m (deriveZoneFromIfname name) dir frames := by
    intro m hm name dir
    have hz := length_deriveZoneFromIfname_lt name
    have htable : (bpfCollectSamples cfg (lan.collectInput nowMs arp raws) st).bpfCurrentSamples
        = bpfFold ((lan.collectInput nowMs arp raws).foldEnv cfg) [] raws := rfl
    rw [htable, clientTotal_bpfFold dir _ hfit, (hraws.map _).sum_eq, sum_rawBytes_sampleOfEntry,
      bytesWhere_traffic rfl hm hz, UInt64.toNat_ofNat_of_lt' (hbytes m hm _ dir)]
  rw [AttachedLan.zonesPassedOnce_iff, FramesCountedOnce]
  refine forall₂_congr fun m hm => forall₂_congr fun name _ => forall_congr' fun dir => ?_
  rw [htotal m hm, accountedBytes_eq_iff]

/-- The accounted bytes of a client are at most the bytes of all frames at all interfaces. -/
theorem accountedBytes_le (lan : AttachedLan) (m : Mac) (zone : CStr) (dir : Direction)
    (frames : List Frame) :
    accountedBytes lan m zone dir frames
      ≤ (frames.map fun f => (f.hops dir).length * f.len.toNat).sum := by
  refine List.sum_le_sum fun f _ => Nat.mul_le_mul_right _ ?_
  apply List.count_le_length.trans
  rw [AttachedLan.countedZones]
  split_ifs
  · rw [List.length_map]
    exact List.length_filter_le _ _
  · exact Nat.zero_le _

/-- A bridge and one of its ports, both attached. -/
def bridgedLan : AttachedLan :=
  { names := ["lan1".toList, "br-lan".toList]
    ifNameToIndex := fun name => if name = "lan1".toList then 4 else 5
    ifIndexToName := fun ifindex =>
      if ifindex = 4 then some "lan1".toList else if ifindex = 5 then some "br-lan".toList else none
    resolves := by decide }

/-- A 100-byte frame of one client that passes the given interfaces inbound. -/
def frameThrough (ifnames : List CStr) : Frame :=
  { data := [2, 0, 0, 0, 0, 2, 2, 0, 0, 0, 0, 1, 8, 0]
    len := 100
    ingress := ifnames.map fun ifname => ⟨ifname, 0, { ktimeNs := 1000000 }, rfl⟩
    egress := []
    data_le := by decide }

/-- The entries of the map after the frames, in map order. -/
def bridgedRaws (frames : List Frame) : List LanspeedBpfSample :=
  (bridgedLan.traffic false frames).clients.map sampleOfEntry

/-- A frame that goes through the bridge alone. -/
theorem folded_bytes_bridge_only :
    FramesCountedOnce bridgedLan [frameThrough ["br-lan".toList]]
        (bpfCollectSamples {} (bridgedLan.collectInput 1 []
          (bridgedRaws [frameThrough ["br-lan".toList]])) (.init true)).bpfCurrentSamples ↔
      bridgedLan.ZonesPassedOnce [frameThrough ["br-lan".toList]] := by
  refine folded_bytes_iff bridgedLan false [frameThrough ["br-lan".toList]] {} (.init true) 1 []
    (List.Perm.refl _) (by decide +kernel) fun m _ zone dir => ?_
  apply (accountedBytes_le bridgedLan m zone dir _).trans_lt
  cases dir <;> decide

/-- A frame that enters through a port and then passes the bridge is counted twice. -/
theorem frame_through_port_counted_twice :
    ¬ FramesCountedOnce bridgedLan [frameThrough ["lan1".toList, "br-lan".toList]]
      (bpfCollectSamples {} (bridgedLan.collectInput 1 []
        (bridgedRaws [frameThrough ["lan1".toList, "br-lan".toList]]))
        (.init true)).bpfCurrentSamples := by
  intro h
  have htx := h ⟨2, 0, 0, 0, 0, 1⟩ (by decide) "lan1".toList (by decide) .tx
  exact absurd htx (by decide +kernel)

end Lanspeed
