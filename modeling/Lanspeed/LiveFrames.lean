import Lanspeed.LiveRates

/-!
# The frames behind a live map

The reader walks the map that the programs on the attached interfaces write. An execution of a
program is an event of that map, or two: the frame, and the connection that it counts
(`accountEvents`). Fed the events of any frames, the map of the reader has the counters that the
programs wrote, under every key (`counters_of_traffic`), and what is accounted for a client are the
bytes of its frames, a frame once for each attached interface of the zone that it passes
(`accounted_events`).
-/

namespace Lanspeed

variable {bucketOf : LanspeedKey → ℕ}

/-- The connection that `try_count_connection` counts. -/
def connectionEvents (env : HelperEnv) (seenConns : List LanspeedConnKey)
    (key : LanspeedKey) (eth : EthHdr) (l3 : List UInt8) : List MapEvent :=
  match env.ctLookup with
  | none => []
  | some ctLookup =>
    match parseConnection key.mac eth l3 with
    | none => []
    | some (connKey, tuple) =>
      if connKey ∈ seenConns then []
      else if !ctLookup tuple connKey.proto then []
      else [.connection key connKey.proto]

/-- What an execution of `account_frame` does to the map of clients, as events. -/
def accountEvents (env : HelperEnv) (s : DatapathMaps) (skb : SkBuff) (direction : UInt8) :
    List MapEvent :=
  match parseEthHdr skb.data, frameKey skb direction with
  | some (eth, l3), some key =>
    if Keyed.lookup Prod.fst key s.clients = none ∧ env.clientsUpdateOk = false then []
    else
      .frame key skb.len env.ktimeNs ::
        if direction = lanspeedDirTx then connectionEvents env s.seenConns key eth l3 else []
  | _, _ => []

namespace AttachedLan

variable (lan : AttachedLan)

/-- The events of a frame that passes one interface. -/
def hopEvents (f : Frame) (dir : Direction) (s : DatapathMaps) (hop : Hop) : List MapEvent :=
  if hop.ifname ∈ lan.ifnames then accountEvents hop.env s (lan.skb f hop) dir.bpfDir else []

/-- The events of a frame that passes all its interfaces. -/
def frameEvents (early : Bool) (s : DatapathMaps) (f : Frame) : List MapEvent :=
  Machine.output (lan.hopStep early f .tx) (lan.hopEvents f .tx) s f.ingress ++
    Machine.output (lan.hopStep early f .rx) (lan.hopEvents f .rx)
      (Machine.run (lan.hopStep early f .tx) s f.ingress) f.egress

/-- The events of a sequence of frames. -/
def events (early : Bool) (frames : List Frame) : List MapEvent :=
  Machine.output (lan.frameStep early) (lan.frameEvents early) {} frames

end AttachedLan

/-- The reader's map has the counters that the programs wrote. -/
def SameCounters (s : DatapathMaps) (r : ReadState bucketOf) : Prop :=
  ∀ k, r.clients.get? k = (Keyed.lookup Prod.fst k s.clients).map Prod.snd

section Simulation

variable {s : DatapathMaps} {r : ReadState bucketOf}

/-- Two maps with the same counters have the same keys. -/
theorem SameCounters.mem_keys_iff (h : SameCounters s r) {k : LanspeedKey} :
    k ∈ r.clients.keys ↔ Keyed.lookup Prod.fst k s.clients ≠ none := by
  rw [← BucketMap.get?_isSome_iff, h k, Option.isSome_map, Option.isSome_iff_ne_none]

/-- Rewriting the counters of one key on both sides. -/
theorem SameCounters.update (h : SameCounters s r) (key : LanspeedKey)
    (f : LanspeedCounters → LanspeedCounters) (seenConns : List LanspeedConnKey) (reader : Reader) :
    SameCounters { clients := updateCounters key f s.clients, seenConns }
      (⟨r.clients.modify key f, reader⟩ : ReadState bucketOf) := by
  intro k
  have hlookup : Keyed.lookup Prod.fst k (updateCounters key f s.clients) =
      if key = k then (Keyed.lookup Prod.fst key s.clients).map fun e => (e.1, f e.2)
      else Keyed.lookup Prod.fst k s.clients :=
    Keyed.lookup_modify (by intro; rfl) k s.clients
  simp only [BucketMap.get?_modify, hlookup]
  split_ifs
  · rw [h key, Option.map_map, Option.map_map]
    rfl
  · exact h k

/-- The byte-counting half of `account_frame` is the event of its frame. -/
theorem SameCounters.frame (h : SameCounters s r) {env : HelperEnv}
    {key : LanspeedKey} {len : UInt32}
    {s' : DatapathMaps} (hs' : accountBytes env s key len = some s') (max : ℕ) :
    SameCounters s' (readStep max r (.frame key len env.ktimeNs)) ∧ s'.seenConns = s.seenConns := by
  unfold accountBytes at hs'
  rw [readStep]
  cases hlookup : Keyed.lookup Prod.fst key s.clients with
  | none =>
    rw [hlookup] at hs'
    dsimp only at hs'
    split_ifs at hs'
    obtain rfl := Option.some.inj hs'
    have hfresh : key ∉ r.clients.keys := fun hmem => h.mem_keys_iff.mp hmem hlookup
    refine ⟨fun k => ?_, rfl⟩
    rw [if_neg hfresh]
    simp only [BucketMap.get?_insertNew hfresh]
    rw [Keyed.lookup_append_fresh hlookup]
    split_ifs
    · rfl
    · exact h k
  | some e =>
    rw [hlookup] at hs'
    obtain rfl := Option.some.inj hs'
    have hmem : key ∈ r.clients.keys := h.mem_keys_iff.mpr (by rw [hlookup]; simp)
    rw [if_pos hmem]
    exact ⟨h.update key _ _ _, rfl⟩

/-- The connection-counting half of `account_frame` is the event of its connection, if it counts
one. -/
theorem SameCounters.connection (h : SameCounters s r) (env : HelperEnv)
    (key : LanspeedKey) (eth : EthHdr) (l3 : List UInt8) (max : ℕ) :
    SameCounters (tryCountConnection env s key eth l3)
      (Machine.run (readStep max) r (connectionEvents env s.seenConns key eth l3)) := by
  unfold tryCountConnection connectionEvents
  cases env.ctLookup with
  | none => exact h
  | some ctLookup =>
    cases parseConnection key.mac eth l3 with
    | none => exact h
    | some conn =>
      dsimp only
      by_cases hseen : conn.1 ∈ s.seenConns
      · rw [if_pos hseen, if_pos hseen]
        exact h
      · rw [if_neg hseen, if_neg hseen]
        cases ctLookup conn.2 conn.1.proto with
        | false => exact h
        | true => exact h.update key _ _ _

/-- An execution of a program is its events. -/
theorem SameCounters.account (h : SameCounters s r) (env : HelperEnv)
    (skb : SkBuff) (direction : UInt8) (action : TcAct) (max : ℕ) :
    SameCounters (accountFrame env s skb direction action).1
      (Machine.run (readStep max) r (accountEvents env s skb direction)) := by
  unfold accountFrame accountEvents
  cases parseEthHdr skb.data with
  | none => exact h
  | some header =>
    cases frameKey skb direction with
    | none => exact h
    | some key =>
      dsimp only
      cases hbytes : accountBytes env s key skb.len with
      | none =>
        have hrefused : Keyed.lookup Prod.fst key s.clients = none ∧
            env.clientsUpdateOk = false := by
          unfold accountBytes at hbytes
          cases hlookup : Keyed.lookup Prod.fst key s.clients with
          | none =>
            rw [hlookup] at hbytes
            cases hok : env.clientsUpdateOk with
            | false => exact ⟨rfl, rfl⟩
            | true => simp [hok] at hbytes
          | some e =>
            rw [hlookup] at hbytes
            exact absurd hbytes (by simp)
        rw [if_pos hrefused]
        exact h
      | some s' =>
        have haccepted :
            ¬ (Keyed.lookup Prod.fst key s.clients = none ∧ env.clientsUpdateOk = false) := by
          rintro ⟨hnone, hrefused⟩
          simp [accountBytes, hnone, hrefused] at hbytes
        obtain ⟨hframe, hseen⟩ := h.frame hbytes max
        rw [if_neg haccepted, Machine.run_cons]
        dsimp only
        split_ifs
        · rw [← hseen]
          exact hframe.connection env key header.1 header.2 max
        · exact hframe

/-- Fed the events of a sequence of frames, none of which has its insertion refused, the reader's
map has the counters that the programs wrote. -/
theorem counters_of_traffic (lan : AttachedLan) (early : Bool)
    (frames : List Frame) (max : ℕ) (reader : Reader) (k : LanspeedKey) :
    (Machine.run (readStep max) (⟨.empty, reader⟩ : ReadState bucketOf)
      (lan.events early frames)).clients.get? k =
      (Keyed.lookup Prod.fst k (lan.traffic early frames).clients).map Prod.snd := by
  have hhop : ∀ f dir s (r : ReadState bucketOf) hop, SameCounters s r →
      SameCounters (lan.hopStep early f dir s hop)
        (Machine.run (readStep max) r (lan.hopEvents f dir s hop)) := by
    intro f dir s r hop h
    rw [AttachedLan.hopStep, AttachedLan.hopEvents]
    split_ifs
    · obtain ⟨action, hprogram⟩ : ∃ action, AttachedLan.program early dir hop.env s (lan.skb f hop)
          = accountFrame hop.env s (lan.skb f hop) dir.bpfDir action := by
        cases early <;> cases dir <;> exact ⟨_, rfl⟩
      rw [hprogram]
      exact h.account hop.env (lan.skb f hop) dir.bpfDir action max
    · exact h
  have hframe : ∀ s (r : ReadState bucketOf) f, SameCounters s r →
      SameCounters (lan.frameStep early s f)
        (Machine.run (readStep max) r (lan.frameEvents early s f)) := by
    intro s r f h
    rw [AttachedLan.frameStep, AttachedLan.frameEvents, Machine.run_append]
    have hingress := Machine.run_output_simulates (lan.hopStep early f .tx) (readStep max)
      (fun s r hop => hhop f .tx s r hop) h f.ingress
    exact Machine.run_output_simulates (lan.hopStep early f .rx) (readStep max)
      (fun s r hop => hhop f .rx s r hop) hingress f.egress
  exact Machine.run_output_simulates (R := SameCounters) (lan.frameStep early)
    (readStep max) hframe (fun _ => rfl)
    frames k

end Simulation

/-! ## The bytes of the frames -/

section Bytes

variable {lan : AttachedLan} {m : Mac} {zone : CStr}

/-- Counting connections accounts no bytes. -/
theorem accounted_connectionEvents (p : LanspeedKey → Bool) (env : HelperEnv)
    (seenConns : List LanspeedConnKey) (key : LanspeedKey) (eth : EthHdr) (l3 : List UInt8) :
    accounted p (connectionEvents env seenConns key eth l3) = 0 := by
  unfold connectionEvents
  cases env.ctLookup with
  | none => rfl
  | some ctLookup =>
    cases parseConnection key.mac eth l3 with
    | none => rfl
    | some conn =>
      dsimp only
      split_ifs <;> rfl

/-- An execution accounts the length of its frame under the key that it builds. -/
theorem accounted_accountEvents (p : LanspeedKey → Bool) {env : HelperEnv}
    (henv : env.clientsUpdateOk = true) (s : DatapathMaps) (skb : SkBuff) (direction : UInt8) :
    accounted p (accountEvents env s skb direction) =
      match frameKey skb direction with
      | some key => if p key then skb.len.toNat else 0
      | none => 0 := by
  unfold accountEvents
  cases hheader : parseEthHdr skb.data with
  | none =>
    have hkey : frameKey skb direction = none := by rw [frameKey, hheader]
    rw [hkey]
    rfl
  | some header =>
    cases frameKey skb direction with
    | none => rfl
    | some key =>
      dsimp only
      rw [if_neg (by simp [henv]), accounted_cons, MapEvent.bytesFor]
      split_ifs <;> simp [accounted_connectionEvents]

/-- A frame that passes an interface is accounted for its client, in the zone of the interface. -/
theorem accounted_hopEvents (hm : validClientMac m = true)
    (hz : zone.length < zoneStrLen) (f : Frame)
    (dir dir' : Direction) (s : DatapathMaps) (hop : Hop) :
    accounted (countsFor lan.ifIndexToName dir (identityKey (macText m) zone))
      (lan.hopEvents f dir' s hop) =
      hopBytes lan m zone dir f dir' hop := by
  rw [AttachedLan.hopEvents, hopBytes]
  by_cases hname : hop.ifname ∈ lan.ifnames
  · rw [if_pos hname, accounted_accountEvents _ hop.updateOk, frameKey_eq]
    cases hc : f.client dir' with
    | none =>
      rw [if_neg]
      · rfl
      · rintro ⟨rfl, h, -⟩
        exact absurd (hc.symm.trans h) (by simp)
    | some mac =>
      rw [Option.bind_some]
      by_cases hmac : validClientMac mac = true
      · have hiff : countsFor lan.ifIndexToName dir (identityKey (macText m) zone)
            ⟨lan.ifNameToIndex hop.ifname, (hop.vlanTci &&& 0x0fff).toUInt16,
              dir'.bpfDir, mac⟩ = true ↔
            mac = m ∧ deriveZoneFromIfname hop.ifname = zone ∧ dir' = dir :=
          foldsInto_eq rfl hm hz hname _ dir dir' hmac
        rw [if_pos hmac]
        dsimp only
        by_cases hfold : mac = m ∧ deriveZoneFromIfname hop.ifname = zone ∧ dir' = dir
        · rw [if_pos (hiff.mpr hfold), if_pos]
          · rfl
          · obtain ⟨rfl, hzone, rfl⟩ := hfold
            exact ⟨rfl, hc, hname, hzone⟩
        · rw [if_neg fun h => hfold (hiff.mp h), if_neg]
          rintro ⟨rfl, h, -, hzone⟩
          exact hfold ⟨Option.some.inj (hc.symm.trans h), hzone, rfl⟩
      · rw [if_neg hmac, if_neg]
        rintro ⟨rfl, h, -⟩
        exact hmac (Option.some.inj (hc.symm.trans h) ▸ hm)
  · rw [if_neg hname, if_neg fun h => hname h.2.2.1]
    rfl

/-- What is accounted for a client are the bytes of its frames, once for each attached interface of
the zone. -/
theorem accounted_events (lan : AttachedLan) (early : Bool) (frames : List Frame) {m : Mac}
    (hm : validClientMac m = true) {zone : CStr} (hz : zone.length < zoneStrLen) (dir : Direction) :
    accounted (countsFor lan.ifIndexToName dir (identityKey (macText m) zone))
      (lan.events early frames) =
      accountedBytes lan m zone dir frames := by
  have hhops : ∀ f dir' s hops,
      accounted (countsFor lan.ifIndexToName dir (identityKey (macText m) zone))
        (Machine.output (lan.hopStep early f dir') (lan.hopEvents f dir') s hops) =
      (hops.map (hopBytes lan m zone dir f dir')).sum :=
    fun f dir' s hops => Machine.sum_output (lan.hopStep early f dir') _ _ rfl (accounted_append _)
      (accounted_hopEvents hm hz f dir dir') s hops
  refine Machine.sum_output (lan.frameStep early) _ _ rfl (accounted_append _)
    (fun s f => ?_) {} frames
  -- A frame passes its ingress hooks and then its egress hooks; one of the two adds nothing.
  rw [AttachedLan.frameEvents, accounted_append, hhops, hhops, ← sum_hopBytes]
  cases dir with
  | tx =>
    rw [sum_hopBytes_of_ne (by decide) lan m zone f f.egress]
    exact add_zero _
  | rx =>
    rw [sum_hopBytes_of_ne (by decide) lan m zone f f.ingress]
    exact zero_add _

end Bytes

/-! ## Rates and frames -/

/-- An event is a frame. -/
def MapEvent.isFrame : MapEvent → Bool
  | .frame .. => true
  | _ => false

/-- Only frames are accounted. -/
theorem accounted_filter_isFrame (p : LanspeedKey → Bool) (evs : List MapEvent) :
    accounted p (evs.filter MapEvent.isFrame) = accounted p evs := by
  induction evs with
  | nil => rfl
  | cons e evs ih =>
    cases e with
    | frame key len ktimeNs => rw [List.filter_cons_of_pos rfl, accounted_cons, accounted_cons, ih]
    | call _ => rw [List.filter_cons_of_neg (by simp [MapEvent.isFrame]),
        ih, accounted_cons, MapEvent.bytesFor, zero_add]
    | connection _ _ =>
      rw [List.filter_cons_of_neg (by simp [MapEvent.isFrame]),
        ih, accounted_cons, MapEvent.bytesFor, zero_add]
    | evict _ => rw [List.filter_cons_of_neg (by simp [MapEvent.isFrame]),
        ih, accounted_cons, MapEvent.bytesFor, zero_add]

/-- In a run of sound ticks that accounts fewer than `2 ^ 64` bytes, and where no frame passes two
attached interfaces of one zone in one direction, a published rate stands for no more bytes than the
client's frames had from the beginning of the older to the end of the newer walk. -/
theorem published_bits_le_frames {cfg : CollectorConfig} {max : ℕ} {lan : AttachedLan}
    (run : LiveRun bucketOf cfg max lan.ifIndexToName)
    (hbytes : accounted (fun _ => true) run.state.passed < 2 ^ 64)
    (env : BpfPublishEnv) {clients : List ClientJson}
    (hpub : collectBpfClients cfg env run.state.st = some clients)
    {client : ClientJson} (hclient : client ∈ clients) (dir : Direction)
    {m : Mac} (hm : validClientMac m = true) {zone : CStr} (hz : zone.length < zoneStrLen)
    (hkey : client.identityKey = identityKey (macText m) zone)
    {last before : Walk} {older : List Walk}
    (hwalks : run.state.walks = last :: before :: older) {early : Bool} {frames : List Frame}
    (hframes : (before.span last).filter MapEvent.isFrame =
      (lan.events early frames).filter MapEvent.isFrame)
    (honce : lan.ZonesPassedOnce frames) :
    client.bps dir * ((last.read.atMs.toNat - before.read.atMs.toNat : ℕ) : ℤ) ≤
      (bpsScale * clientFrameBytes lan m zone dir frames : ℕ) := by
  obtain ⟨last', before', older', hwalks', hle⟩ := published_bits_le run hbytes env hpub hclient dir
  obtain ⟨rfl, rfl, rfl⟩ : last = last' ∧ before = before' ∧ older = older' := by
    simpa using hwalks.symm.trans hwalks'
  have honce' : accountedBytes lan m zone dir frames = clientFrameBytes lan m zone dir frames :=
    (accountedBytes_eq_iff lan m zone dir frames).mpr fun f hf =>
      List.nodup_iff_count_le_one.mp (honce f hf dir m hm) zone
  rw [hkey, ← accounted_filter_isFrame, hframes, accounted_filter_isFrame,
    accounted_events lan early frames hm hz, honce'] at hle
  exact hle

/-- Two ticks on `bridgedLan`, with a frame through the bridge before the first and one before the
second. -/
def bridgedWalks : LiveRun lastByte bpfConfig 4096 bridgedLan.ifIndexToName where
  enabled := true
  events :=
    (bridgedLan.events false [frameThrough ["br-lan".toList]]).map .map ++
      [.tick 1000 [.call none, .call none, .call none] []] ++
      (bridgedLan.events false [frameThrough ["br-lan".toList]]).map .map ++
      [.tick 2000 [.call none, .call none, .call none] []]
  sound := by decide +kernel

/-- The client that is published after `bridgedWalks`. -/
def bridgedClient : ClientJson :=
  { mac := "02:00:00:00:00:01".toList, identityKey := "02:00:00:00:00:01@lan".toList
    zone := "lan".toList, interface := "br-lan".toList, ips := [], hostname := none, rxBps := 0
    txBps := 800, rxBytes := 0, txBytes := 200, tcpConns := 0, udpConns := 0, sampleMs := 2000
    lastSeen := 1, collectorMode := "bpf".toList, confidence := "high".toList, warnings := [] }

/-- A frame through the bridge alone passes its zone once. -/
theorem zonesPassedOnce_bridge : bridgedLan.ZonesPassedOnce [frameThrough ["br-lan".toList]] := by
  intro f hf dir m _
  obtain rfl := List.mem_singleton.mp hf
  rw [AttachedLan.countedZones]
  split_ifs
  · cases dir <;> decide
  · exact List.nodup_nil

/-- The bound for frames that go through the bridge alone. -/
theorem published_bits_le_frames_bridge :
    let last := bridgedWalks.state.walks.head (by decide +kernel)
    let before := bridgedWalks.state.walks.getLast (by decide +kernel)
    bridgedClient.bps .tx * ((last.read.atMs.toNat - before.read.atMs.toNat : ℕ) : ℤ) ≤
      (bpsScale * clientFrameBytes bridgedLan ⟨2, 0, 0, 0, 0, 1⟩ "lan".toList .tx
        [frameThrough ["br-lan".toList]] : ℕ) :=
  published_bits_le_frames bridgedWalks (by decide +kernel) burstEnv
    (show collectBpfClients bpfConfig burstEnv bridgedWalks.state.st =
      some [bridgedClient] by decide +kernel)
    List.mem_cons_self .tx (by decide) (by decide) (by decide)
    (show bridgedWalks.state.walks = bridgedWalks.state.walks.head (by decide +kernel) ::
      bridgedWalks.state.walks.getLast (by decide +kernel) :: [] by decide +kernel)
    (show _ = (bridgedLan.events false [frameThrough ["br-lan".toList]]).filter
      MapEvent.isFrame by decide +kernel)
    zonesPassedOnce_bridge

end Lanspeed
