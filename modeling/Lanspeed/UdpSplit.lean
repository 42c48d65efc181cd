import Lanspeed.Paths
import Mathlib.Algebra.Order.BigOperators.Group.List
import Mathlib.Algebra.Order.Ring.Nat

/-!
# The split of the UDP connections

A clients reply counts the UDP connections of a client, and among them those to port 53 and the
others. The conntrack and NSS collectors fill in the three counts together; the BPF collector
publishes only the first, and leaves the split to the merge with conntrack. `clientsPath` names the
collector that serves a reply, and `udp_split_iff` says on each path when the counts of the clients,
of the totals and of the overview sample add up: where a BPF reply is not merged, when there are no
UDP connections, and elsewhere unless a 32-bit counter overflows.
-/

namespace Lanspeed

/-! ## When the counts add up -/

/-- The UDP connections of a client object are the two parts, an absent part counting as none. -/
def ClientJson.UdpSplit (c : ClientJson) : Prop :=
  c.udpConns = c.udpDnsConns.getD 0 + c.udpOtherConns.getD 0

/-- So are those of the totals. -/
def ConnTotals.UdpSplit (t : ConnTotals) : Prop :=
  t.udp.getD 0 = t.udpDns.getD 0 + t.udpOther.getD 0

/-- So are those of an overview sample. -/
def OverviewSample.UdpSplit (s : OverviewSample) : Prop :=
  s.udpConns.toNat = s.udpDnsConns.toNat + s.udpOtherConns.toNat

/-- The UDP connections split without remainder, in a reply and in the newest overview sample. -/
structure UdpSplit (reply : ClientsReply) (ring : OverviewRing) : Prop where
  clients : ∀ c ∈ reply.clients, c.UdpSplit
  totals  : reply.totals.UdpSplit
  pushed  : ∀ s, ring.sampleAt 0 = some s → s.UdpSplit

/-- Two 32-bit counters add up to the value of their sum. -/
def AddsUp (dns other : UInt32) : Prop := dns.toNat + other.toNat < UInt32.size

/-- Two 32-bit counters add up to the value of their sum when the three are published as `int`, and
as counts when the negative ones are read as none. -/
def AddsUpAsInt (dns other : UInt32) : Prop :=
  dns = 0 ∨ other = 0 ∨ dns.toNat + other.toNat < 2147483648 ∨
    2147483648 ≤ dns.toNat ∧ 2147483648 ≤ other.toNat ∧ 6442450944 ≤ dns.toNat + other.toNat

/-- A count of a conntrack table, summed over the clients of the reply. -/
def mergeCount (samples : List ConntrackClientSample) (count : ConntrackClientSample → UInt32)
    (keys : List CStr) : UInt32 :=
  (keys.map fun key => ((findConntrackClientSample key samples).map count).getD 0).sum

/-- The counters of the merge do not overflow, for clients under `keys`. -/
structure MergeFits (samples : List ConntrackClientSample) (keys : List CStr) : Prop where
  clients : ∀ key ∈ keys, ∀ s, findConntrackClientSample key samples = some s →
    AddsUp s.udpDnsConns s.udpOtherConns
  totals  : AddsUpAsInt (mergeCount samples (·.udpDnsConns) keys)
    (mergeCount samples (·.udpOtherConns) keys)

/-- The counters of a conntrack reply do not overflow. -/
structure TableFits (samples : List ConntrackClientSample) : Prop where
  clients : ∀ s ∈ samples, AddsUp s.udpDnsConns s.udpOtherConns
  slot    : AddsUp (samples.map (·.udpDnsConns)).sum (samples.map (·.udpOtherConns)).sum

/-- When the reply of a path splits, where `merged` is the table that the merge reads. -/
def ClientsPath.Splits (merged : Option (List ConntrackClientSample)) : ClientsPath → Prop
  | .nss samples =>
    match merged with
    | some table => MergeFits table (samples.map (·.identityKey))
    | none => True
  | .conntrack samples => TableFits samples
  | .bpf samples =>
    match merged with
    | some table => MergeFits table (samples.map (·.identityKey))
    | none => ∀ s ∈ samples, s.udpConns = 0
  | .empty => True

/-! ## The tables of conntrack -/

/-- The table of a conntrack read: its rows conserve their counters, and it is not too long. -/
structure ConservingTable (samples : List ConntrackClientSample) : Prop where
  conserves : ∀ s ∈ samples, s.Conserves
  length_le : samples.length ≤ defaultMaxClients

/-- The table of every conntrack source conserves the flows. -/
theorem conservingTable_of_source (cfg : CollectorConfig) (nowMs : UInt64) (src : FlowSource) :
    ConservingTable (src.table cfg.maxSamples nowMs) where
  conserves := conserves_of_mem_shareTable
  length_le :=
    (GroupBy.length_groupBy_le (shareGrouping_lawful nowMs) _).trans (maxSamples_le_default cfg)

/-- So is the table that a read of the files hands back. -/
theorem conservingTable_conntrackReadOf {cfg : CollectorConfig}
    {nowMs : UInt64} {files : ConntrackFiles}
    {table : ConntrackTable nowMs} (h : (conntrackReadOf cfg nowMs files).table = some table) :
    ConservingTable table.samples := by
  obtain ⟨src, -, rfl⟩ := Option.map_eq_some_iff.mp h
  exact conservingTable_of_source cfg nowMs src

/-! ## Counters -/

/-- The sum of two words is their sum where they add up. -/
theorem toNat_add_iff (dns other : UInt32) :
    (dns + other).toNat = dns.toNat + other.toNat ↔ AddsUp dns other := by
  rw [UInt32.toNat_add, AddsUp, UInt32.size]
  have := dns.toNat_lt
  have := other.toNat_lt
  omega

/-- A published `int` is read back as a count, a negative one as none. -/
theorem toNat_jsonUint64Value_toInt32 (x : UInt32) :
    (jsonUint64Value x.toInt32.toInt).toUInt32.toNat =
      if x.toNat < 2147483648 then x.toNat else 0 := by
  have hx := x.toNat_lt
  rw [Word.toInt_toInt32]
  split_ifs with h
  · have hmod : ((x.toNat : ℤ) % 2 ^ 64).toNat = x.toNat := by omega
    unfold jsonUint64Value
    split_ifs with hpos
    · rw [UInt64.ofInt, hmod, UInt64.toNat_toUInt32, UInt64.toNat_ofNat']
      omega
    · have hzero : x.toNat = 0 := by omega
      rw [hzero]
      rfl
  · rw [jsonUint64Value, if_neg (by omega)]
    rfl

/-- The sum of two words is published as their sum where they add up as signed numbers. -/
theorem addsUpAsInt_iff (dns other : UInt32) :
    ((dns + other).toInt32.toInt = dns.toInt32.toInt + other.toInt32.toInt ∧
      (jsonUint64Value (dns + other).toInt32.toInt).toUInt32.toNat =
        (jsonUint64Value dns.toInt32.toInt).toUInt32.toNat +
          (jsonUint64Value other.toInt32.toInt).toUInt32.toNat) ↔ AddsUpAsInt dns other := by
  have hdns := dns.toNat_lt
  have hother := other.toNat_lt
  have hsum : (dns + other).toNat = (dns.toNat + other.toNat) % 4294967296 := UInt32.toNat_add _ _
  rw [toNat_jsonUint64Value_toInt32, toNat_jsonUint64Value_toInt32, toNat_jsonUint64Value_toInt32,
    Word.toInt_toInt32, Word.toInt_toInt32, Word.toInt_toInt32,
    AddsUpAsInt, ← UInt32.toNat_inj, ← UInt32.toNat_inj,
    UInt32.toNat_zero]
  split_ifs <;> omega

/-! ## The replies -/

section Replies

variable {cfg : CollectorConfig} {ms : UInt64} {ring : OverviewRing}

/-- The newest overview sample is the one that is pushed. -/
theorem udpSplit_push_iff (reply : ClientsReply) :
    UdpSplit reply (overviewPushFromClients cfg ms reply.totals reply.clients ring) ↔
      (∀ c ∈ reply.clients, c.UdpSplit) ∧ reply.totals.UdpSplit ∧
        (overviewSampleOf cfg ms reply.totals reply.clients).UdpSplit := by
  have hpushed : (overviewPushFromClients cfg ms reply.totals reply.clients ring).sampleAt 0 =
      some (overviewSampleOf cfg ms reply.totals reply.clients) :=
    RingBuffer.sampleAt_push_zero _ _
  constructor
  · intro h
    exact ⟨h.clients, h.totals, h.pushed _ hpushed⟩
  · rintro ⟨hclients, htotals, hslot⟩
    refine ⟨hclients, htotals, fun s hs => ?_⟩
    rw [hpushed] at hs
    exact Option.some.inj hs ▸ hslot

/-- An empty reply splits. -/
theorem udpSplit_empty : UdpSplit {} (overviewPushFromClients cfg ms {} [] ring) :=
  (udpSplit_push_iff {}).mpr ⟨fun _ hc => absurd hc List.not_mem_nil, rfl, rfl⟩

/-- A connection total that is summed over clients without connections is none. -/
theorem connTotal_eq_zero {count : ClientJson → Option ℤ} {clients : List ClientJson}
    (h : ∀ c ∈ clients, ((count c).map jsonUint64Value).getD 0 = 0) :
    connTotal none count clients = 0 := by
  have hsum : (clients.map fun c => ((count c).map jsonUint64Value).getD 0).sum = 0 :=
    List.sum_eq_zero (List.forall_mem_map.mpr h)
  rw [connTotal, hsum]
  rfl

/-- A BPF reply that is not merged splits when there are no UDP connections. -/
theorem udpSplit_bpf_iff {hostnameLookup : CStr → List CStr → Option CStr}
    {snapshotMs deltaMs : UInt64} {previous samples : List BpfClientSample} :
    let clients := samples.map (bpfClientJson hostnameLookup snapshotMs deltaMs previous)
    UdpSplit { clients } (overviewPushFromClients cfg ms {} clients ring) ↔
      ∀ s ∈ samples, s.udpConns = 0 := by
  dsimp only
  have hclient : ∀ s : BpfClientSample,
      (bpfClientJson hostnameLookup snapshotMs deltaMs previous s).UdpSplit ↔ s.udpConns = 0 := by
    intro s
    rw [← UInt32.toNat_inj]
    exact Int.natCast_inj (m := s.udpConns.toNat) (n := 0)
  rw [udpSplit_push_iff, List.forall_mem_map]
  simp only [hclient]
  refine ⟨fun h => h.1, fun h => ⟨h, rfl, ?_⟩⟩
  have hudp : ∀ c ∈ samples.map (bpfClientJson hostnameLookup snapshotMs deltaMs previous),
      ((some c.udpConns).map jsonUint64Value).getD 0 = 0 := by
    intro c hc
    obtain ⟨s, hs, rfl⟩ := List.mem_map.mp hc
    have hzero : (bpfClientJson hostnameLookup snapshotMs deltaMs previous s).udpConns = 0 := by
      rw [show (bpfClientJson hostnameLookup snapshotMs deltaMs previous s).udpConns
        = (s.udpConns.toNat : ℤ) from rfl, h s hs]
      rfl
    rw [hzero]
    rfl
  have hparts : ∀ c ∈ samples.map (bpfClientJson hostnameLookup snapshotMs deltaMs previous),
      (c.udpDnsConns.map jsonUint64Value).getD 0 = 0 ∧
      (c.udpOtherConns.map jsonUint64Value).getD 0 = 0 := by
    intro c hc
    obtain ⟨s, -, rfl⟩ := List.mem_map.mp hc
    exact ⟨rfl, rfl⟩
  simp only [OverviewSample.UdpSplit, overviewSampleOf]
  rw [connTotal_eq_zero hudp, connTotal_eq_zero fun c hc => (hparts c hc).1,
    connTotal_eq_zero fun c hc => (hparts c hc).2]
  rfl

/-- The counters of the merge are conserved. -/
theorem mergeCount_conserves {table : List ConntrackClientSample} (htable : ConservingTable table)
    (keys : List CStr) :
    mergeCount table (·.udpConns) keys =
      mergeCount table (·.udpDnsConns) keys + mergeCount table (·.udpOtherConns) keys := by
  rw [mergeCount, mergeCount, mergeCount, ← List.sum_map_add]
  refine congrArg List.sum (List.map_congr_left fun key _ => ?_)
  cases hfound : findConntrackClientSample key table with
  | none => rfl
  | some s => exact htable.conserves s (Keyed.mem_of_lookup hfound)

/-- A merged client splits unless the counters of its row overflow. -/
theorem udpSplit_mergeClient_iff {table : List ConntrackClientSample}
    (htable : ConservingTable table) (client : ClientJson) :
    (mergeClient table client).UdpSplit ↔
      ∀ s, findConntrackClientSample client.identityKey table = some s →
        AddsUp s.udpDnsConns s.udpOtherConns := by
  unfold mergeClient
  cases hfound : findConntrackClientSample client.identityKey table with
  | none => exact iff_of_true rfl fun s hs => absurd hs (by simp)
  | some s =>
    have hconserves : s.udpConns = s.udpDnsConns + s.udpOtherConns :=
      htable.conserves s (Keyed.mem_of_lookup hfound)
    have hsplit : (s.udpConns.toNat : ℤ) = s.udpDnsConns.toNat + s.udpOtherConns.toNat ↔
        AddsUp s.udpDnsConns s.udpOtherConns := by
      rw [← toNat_add_iff, ← hconserves]
      exact_mod_cast Iff.rfl
    constructor
    · rintro h _ ⟨⟩
      exact hsplit.mp h
    · intro h
      exact hsplit.mpr (h s rfl)

/-- A merged reply splits unless the counters of the merge overflow. -/
theorem udpSplit_merge_iff {nowMs : UInt64} {read : ConntrackRead nowMs}
    {table : ConntrackTable nowMs}
    (hread : read.table = some table) (htable : ConservingTable table.samples)
    (reply : ClientsReply) :
    let merged := mergeConntrackConnCounts cfg read reply
    UdpSplit merged (overviewPushFromClients cfg ms merged.totals merged.clients ring) ↔
      MergeFits table.samples (reply.clients.map (·.identityKey)) := by
  dsimp only
  have htotal : ∀ count, mergeTotal table.samples count reply.clients =
      (mergeCount table.samples count (reply.clients.map (·.identityKey))).toInt32.toInt := by
    intro count
    rw [mergeTotal, mergeCount, List.map_map]
    rfl
  have hconserves := mergeCount_conserves htable (reply.clients.map (·.identityKey))
  rw [udpSplit_push_iff, mergeConntrackConnCounts, hread]
  simp only [List.forall_mem_map, udpSplit_mergeClient_iff htable, ConnTotals.UdpSplit,
    OverviewSample.UdpSplit, overviewSampleOf, connTotal, htotal, hconserves, Option.getD_some,
    addsUpAsInt_iff]
  constructor
  · rintro ⟨hclients, htotals⟩
    exact ⟨List.forall_mem_map.mpr hclients, htotals⟩
  · intro h
    exact ⟨List.forall_mem_map.mp h.clients, h.totals⟩

/-- A reply of the NSS collector splits by itself. -/
theorem udpSplit_nss {env : BpfPublishEnv} {prev : PreviousSnapshot} {nowMs : UInt64}
    {samples : List ConntrackClientSample} {warnings : List CStr} :
    let reply := (emitNssEcmDirectClients env prev samples nowMs warnings).1
    UdpSplit reply (overviewPushFromClients cfg ms reply.totals reply.clients ring) := by
  dsimp only
  rw [udpSplit_push_iff]
  refine ⟨List.forall_mem_map.mpr fun s _ => (zero_add _).symm, (zero_add _).symm, ?_⟩
  exact (zero_add _).symm

/-- The sum of 32-bit counters in a 64-bit one, for a table that is not too long. -/
theorem connSum_eq {samples : List ConntrackClientSample}
    (hlen : samples.length ≤ defaultMaxClients) (count : ConntrackClientSample → UInt32) :
    connSum count samples = (samples.map fun s => (count s).toNat).sum ∧
      (jsonUint64Value (connSum count samples)).toUInt32 = (samples.map count).sum := by
  have hbound : (samples.map fun s => (count s).toNat).sum < 2 ^ 63 := by
    have hle := List.sum_le_card_nsmul (samples.map fun s => (count s).toNat) (2 ^ 32)
      (List.forall_mem_map.mpr fun s _ => (count s).toNat_lt.le)
    rw [List.length_map, Nat.nsmul_eq_mul] at hle
    have hmul := Nat.mul_le_mul_right (2 ^ 32) hlen
    have hdefault : defaultMaxClients * 2 ^ 32 < 2 ^ 63 := by decide
    omega
  have hwords : (samples.map fun s => (count s).toUInt64).sum =
      UInt64.ofNat (samples.map fun s => (count s).toNat).sum := by
    rw [← Word.sum_map_ofNat]
    exact congrArg List.sum (List.map_congr_left fun s _ => UInt64.toNat_inj.mp (by simp))
  have hvalue : (UInt64.ofNat (samples.map fun s => (count s).toNat).sum).toNat =
      (samples.map fun s => (count s).toNat).sum := by
    rw [UInt64.toNat_ofNat', Nat.mod_eq_of_lt (by omega)]
  rw [connSum, hwords]
  constructor
  · rw [jsonInt64, Word.toInt_toInt64_of_lt (by rwa [hvalue]), hvalue]
  · rw [jsonUint64Value_jsonInt64 (by rwa [hvalue]), Word.sum_map_toNat]
    exact UInt32.toNat_inj.mp (by simp)

/-- A reply of the conntrack collector splits unless its counters overflow. -/
theorem udpSplit_conntrack_iff {env : BpfPublishEnv} {prev : PreviousSnapshot} {nowMs : UInt64}
    {samples : List ConntrackClientSample} (hsamples : ConservingTable samples)
    {warnings : List CStr} {stats : ConntrackCollectStats} :
    let reply := (emitConntrackClients cfg env prev samples nowMs warnings stats).1
    UdpSplit reply (overviewPushFromClients cfg ms reply.totals reply.clients ring) ↔
      TableFits samples := by
  dsimp only
  have hclient :
      ∀ s ∈ samples, (s.udpConns.toNat : ℤ) = s.udpDnsConns.toNat + s.udpOtherConns.toNat ↔
      AddsUp s.udpDnsConns s.udpOtherConns := by
    intro s hs
    have hconserves : s.udpConns = s.udpDnsConns + s.udpOtherConns := hsamples.conserves s hs
    rw [← toNat_add_iff, ← hconserves]
    exact_mod_cast Iff.rfl
  have hslot : (samples.map (·.udpConns)).sum =
      (samples.map (·.udpDnsConns)).sum + (samples.map (·.udpOtherConns)).sum := by
    rw [← List.sum_map_add]
    exact congrArg List.sum (List.map_congr_left hsamples.conserves)
  have hsum := fun count => (connSum_eq hsamples.length_le count).1
  have hcount := fun count => (connSum_eq hsamples.length_le count).2
  rw [udpSplit_push_iff]
  simp only [emitConntrackClients, ConnTotals.UdpSplit, OverviewSample.UdpSplit, overviewSampleOf,
    connTotal, hcount, hslot, Option.getD_some, toNat_add_iff]
  constructor
  · rintro ⟨hclients, -, hadds⟩
    exact ⟨fun s hs => (hclient s hs).mp (List.forall_mem_map.mp hclients s hs), hadds⟩
  · intro h
    refine ⟨List.forall_mem_map.mpr fun s hs => (hclient s hs).mpr (h.clients s hs), ?_, h.slot⟩
    rw [hsum, hsum, hsum, ← Nat.cast_add, ← List.sum_map_add]
    refine congrArg (fun l : List ℕ => (l.sum : ℤ)) (List.map_congr_left fun s hs => ?_)
    exact_mod_cast (hclient s hs).mpr (h.clients s hs)

/-- The reply of a path splits when the path does, where the conntrack tables conserve their
counters. -/
theorem udpSplit_reply_iff {inp : ClientsInput} {st : CollectorState}
    (hmerge : ∀ table, inp.mergeRead.table = some table → ConservingTable table.samples)
    (hconntrack : ∀ table, inp.conntrackRead.table = some table → ConservingTable table.samples)
    {path : ClientsPath} (hpath : path.From inp st) :
    let reply := path.reply cfg inp st
    UdpSplit reply (overviewPushFromClients cfg ms reply.totals reply.clients ring) ↔
      path.Splits inp.merged := by
  dsimp only
  unfold ClientsPath.reply ClientsInput.merged
  cases hpath with
  | nss =>
    cases hread : inp.mergeRead.table with
    | none =>
      simp only [mergeConntrackConnCounts, hread]
      exact iff_of_true udpSplit_nss trivial
    | some table =>
      refine (udpSplit_merge_iff hread (hmerge table hread) _).trans (iff_of_eq ?_)
      simp only [emitNssEcmDirectClients, List.map_map]
      rfl
  | conntrack htable => exact udpSplit_conntrack_iff (hconntrack _ htable)
  | bpf =>
    cases hread : inp.mergeRead.table with
    | none =>
      simp only [mergeConntrackConnCounts, hread]
      exact udpSplit_bpf_iff
    | some table =>
      refine (udpSplit_merge_iff hread (hmerge table hread) _).trans (iff_of_eq ?_)
      simp only [List.map_map]
      rfl
  | empty => exact iff_of_true udpSplit_empty trivial

end Replies

/-- In a clients reply and in the overview sample that is pushed from it, the UDP connections split
without remainder exactly when the path of the reply splits: a BPF reply that is not merged has no
UDP connections, and the 32-bit counters of a conntrack table do not overflow. -/
theorem udp_split_iff (cfg : CollectorConfig) (inp : ClientsFileInput) (st : CollectorState) :
    UdpSplit (clientsMethod cfg (inp.input cfg) st).1
        (clientsMethod cfg (inp.input cfg) st).2.overviewRing ↔
      (clientsPath cfg (inp.input cfg) (clientsRefresh cfg (inp.input cfg) st)).Splits
        (inp.input cfg).merged := by
  have hreply := collectClients_eq_reply cfg (inp.input cfg) (clientsRefresh cfg (inp.input cfg) st)
  simp only [clientsMethod, hreply]
  exact udpSplit_reply_iff (fun _ h => conservingTable_conntrackReadOf h)
    (fun _ h => conservingTable_conntrackReadOf h) (clientsPath_from _ _ _)

/-- A collection at `nowMs` that reads one client with a UDP connection. -/
def collectUdpClient (nowMs : UInt64) : CollectInput :=
  { collectOneClient nowMs 0 with read := some [{ oneClientRaw 0 with udpConns := 1 }] }

/-- A call with BPF metrics available, where conntrack cannot be read. -/
def unmergedCall : ClientsFileInput where
  switched := false
  collect := collectUdpClient 2
  env := burstEnv
  nssNowMs := 2
  nssArpFile := none
  nssStateFile := none
  conntrackNowMs := 2
  conntrackFiles := ⟨none, .unavailable, none, none, none⟩
  mergeNowMs := 2
  mergeFiles := ⟨none, .unavailable, none, none, none⟩
  overviewMs := 2

/-- The client is published with one UDP connection and without the split. -/
theorem unmerged_not_split :
    let st := bpfCollectSamples bpfConfig (collectUdpClient 2)
      (bpfCollectSamples bpfConfig (collectUdpClient 1) (CollectorState.init true))
    let result := clientsMethod bpfConfig (unmergedCall.input bpfConfig) st
    ¬UdpSplit result.1 result.2.overviewRing := by
  intro st result h
  have hcounts : result.1.clients.map (fun c => (c.udpConns, c.udpDnsConns, c.udpOtherConns)) =
      [(1, none, none)] := by decide +kernel
  obtain ⟨client, hclient, hcount⟩ := List.mem_map.mp (hcounts ▸ List.mem_singleton_self _)
  have hsplit := h.clients client hclient
  simp only [Prod.mk.injEq] at hcount
  rw [ClientJson.UdpSplit, hcount.1, hcount.2.1, hcount.2.2] at hsplit
  exact absurd hsplit (by decide)

end Lanspeed
