import Lanspeed.Paths
import Lanspeed.Lib.JsonObject

/-!
# Merging the connection counts

`merge_conntrack_conn_counts` reads a second conntrack snapshot and writes its counts over those of
the client objects that another collector has made. Here it works on the JSON objects themselves,
whatever fields they have: the merge changes no field but the four counts of a client and the fields
that it adds to the root (`merge_conntrack_conn_counts_frame`), and on the objects of a clients
reply it does what `mergeConntrackConnCounts` does to the reply (`shown_mergeConntrackConnCounts`).
-/

namespace Lanspeed

/-- A JSON value of the daemon. -/
abbrev Json := JsonValue CStr

/-- The four counts of connections. -/
inductive ConnCount where
  | tcp
  | udp
  | udpDns
  | udpOther
deriving DecidableEq, Repr

/-- The counts in the order in which the merge writes them. -/
def ConnCount.all : List ConnCount := [.tcp, .udp, .udpDns, .udpOther]

/-- The field of a client. -/
def ConnCount.field : ConnCount → CStr
  | .tcp => "tcp_conns".toList
  | .udp => "udp_conns".toList
  | .udpDns => "udp_dns_conns".toList
  | .udpOther => "udp_other_conns".toList

/-- The field of the root. -/
def ConnCount.total : ConnCount → CStr
  | .tcp => "tcp_conns_total".toList
  | .udp => "udp_conns_total".toList
  | .udpDns => "udp_dns_conns_total".toList
  | .udpOther => "udp_other_conns_total".toList

/-- The counter of a sample. -/
def ConntrackClientSample.conns (s : ConntrackClientSample) : ConnCount → UInt32
  | .tcp => s.tcpConns
  | .udp => s.udpConns
  | .udpDns => s.udpDnsConns
  | .udpOther => s.udpOtherConns

/-- The identity key of a client object, as the merge reads it. -/
def clientKey (print : Json → CStr) (client : Json) : Option CStr :=
  (client.get? "identity_key".toList).bind (JsonValue.text? print)

/-- The counts of a client under a key of a table: those of its sample, or none. -/
def connsUnder (samples : List ConntrackClientSample) (key : CStr) (count : ConnCount) : UInt32 :=
  match findConntrackClientSample key samples with
  | some cs => cs.conns count
  | none => 0

/-- The totals of the merge. -/
abbrev MergeTotals := ConnCount → UInt32

/-- The body of the loop of `merge_conntrack_conn_counts`: the totals after a client, and the
client. -/
def mergeTurn (print : Json → CStr) (samples : List ConntrackClientSample) (totals : MergeTotals)
    (client : Json) : MergeTotals × Json :=
  match clientKey print client with
  | none => (totals, client)
  | some key =>
    match findConntrackClientSample key samples with
    | some cs =>
      (fun count => totals count + cs.conns count,
        client.addAll (ConnCount.all.map fun count => (count.field, .int (cs.conns count).toNat)))
    | none => (totals, client.addAll (ConnCount.all.map fun count => (count.field, .int 0)))

/-- The loop of `merge_conntrack_conn_counts`. -/
def mergeLoop (print : Json → CStr) (samples : List ConntrackClientSample) :
    MergeTotals → List Json → MergeTotals × List Json
  | totals, [] => (totals, [])
  | totals, client :: clients =>
    let (totals, client) := mergeTurn print samples totals client
    let (totals, clients) := mergeLoop print samples totals clients
    (totals, client :: clients)

/-- `json_object_new_int((int)n)` of a size. -/
def jsonIntOfSize (n : ℕ) : Json := .int (UInt32.ofNat n).toInt32.toInt

/-- The fields that a merge adds to the root. -/
def mergeRootFields (cfg : CollectorConfig) (read : ConntrackSnapshot) (totals : MergeTotals) :
    List (CStr × Json) :=
  ConnCount.all.map (fun count => (count.total, .int (totals count).toInt32.toInt)) ++
    [("conntrack_entries_seen".toList, jsonIntOfSize read.agg.stats.entriesSeen),
      ("conntrack_entries_matched".toList, jsonIntOfSize read.agg.stats.entriesMatched),
      ("conntrack_parse_errors".toList, jsonIntOfSize read.agg.stats.malformedLines),
      ("conn_source".toList, .string (conntrackStatsSource cfg read.stats)),
      ("conn_collector_mode".toList, .string (collectorModeName cfg.connCollectorMode)),
      ("conn_semantics".toList,
        .string "conntrack_current_tcp_established_assured_udp_tracked_dns_split".toList)]

/-- The reply that is being filled: the root object, and the array that its field `clients` refers
to. -/
structure ReplyObjects where
  root    : Json
  clients : List Json

/-- `merge_conntrack_conn_counts` after its read. -/
def mergeSnapshot (print : Json → CStr) (cfg : CollectorConfig) (read : ConntrackSnapshot)
    (reply : ReplyObjects) : ReplyObjects :=
  match read.table with
  | none => reply
  | some samples =>
    let (totals, clients) := mergeLoop print samples (fun _ => 0) reply.clients
    { root := reply.root.addAll (mergeRootFields cfg read totals), clients }

/-- `merge_conntrack_conn_counts`. -/
def mergeConntrackConnCountsInto (print : Json → CStr) (cfg : CollectorConfig) (nowMs : UInt64)
    (files : ConntrackFiles) (reply : ReplyObjects) : ReplyObjects :=
  mergeSnapshot print cfg (readConntrackSnapshotMode cfg.maxSamples
    nowMs cfg.connCollectorMode files) reply

/-! ## One client -/

section Client

variable {print : Json → CStr} {samples : List ConntrackClientSample} {totals : MergeTotals}
  {client : Json}

/-- A client with a key gets the counts under its key, and they are added to the totals. -/
theorem mergeTurn_of_key {key : CStr} (hkey : clientKey print client = some key) :
    mergeTurn print samples totals client =
      (fun count => totals count + connsUnder samples key count,
        client.addAll
          (ConnCount.all.map fun count => (count.field,
            .int (connsUnder samples key count).toNat))) := by
  rw [mergeTurn, hkey]
  dsimp only
  cases hfound : findConntrackClientSample key samples with
  | some cs => simp only [connsUnder, hfound]
  | none =>
    simp only [connsUnder, hfound, add_zero]
    rfl

/-- An element without a key is passed over. -/
theorem mergeTurn_of_no_key (hkey : clientKey print client = none) :
    mergeTurn print samples totals client = (totals, client) := by
  rw [mergeTurn, hkey]

/-- The names of the counts are distinct. -/
theorem nodup_connCount_fields (v : ConnCount → Json) :
    ((ConnCount.all.map fun count => (count.field, v count)).map Prod.fst).Nodup := by
  rw [List.map_map]
  exact (by decide : (ConnCount.all.map ConnCount.field).Nodup)

theorem connCount_mem_all (count : ConnCount) : count ∈ ConnCount.all := by
  cases count <;> decide

/-- The merge of a client leaves every other field of it alone. -/
theorem get?_mergeTurn {field : CStr} (hfield : ∀ count : ConnCount, count.field ≠ field) :
    (mergeTurn print samples totals client).2.get? field = client.get? field := by
  cases hkey : clientKey print client with
  | none => rw [mergeTurn_of_no_key hkey]
  | some key =>
    rw [mergeTurn_of_key hkey]
    apply JsonValue.get?_addAll_of_notMem
    rw [List.map_map]
    intro hmem
    obtain ⟨count, -, rfl⟩ := List.mem_map.mp hmem
    exact hfield count rfl

/-- A client with a key has the counts under its key. -/
theorem get?_mergeTurn_count {key : CStr} (hkey : clientKey print client = some key)
    (count : ConnCount) :
    (mergeTurn print samples totals client).2.get? count.field =
      some (.int (connsUnder samples key count).toNat) := by
  obtain ⟨v, hv, -⟩ := Option.bind_eq_some_iff.mp hkey
  rw [mergeTurn_of_key hkey]
  exact JsonValue.get?_addAll_of_mem (JsonValue.exists_fields_of_get? hv)
    (nodup_connCount_fields fun count => .int (connsUnder samples key count).toNat)
    (List.mem_map_of_mem (connCount_mem_all count))

/-- The merge of a client keeps its key. -/
theorem clientKey_mergeTurn :
    clientKey print (mergeTurn print samples totals client).2 = clientKey print client := by
  have hfield : ∀ count : ConnCount, count.field ≠ "identity_key".toList := by
    intro count
    cases count <;> decide
  rw [clientKey, clientKey, get?_mergeTurn hfield]

end Client

/-! ## The array -/

section Array

variable (print : Json → CStr) (samples : List ConntrackClientSample)

/-- A client after the merge. -/
def mergedClient (client : Json) : Json := (mergeTurn print samples (fun _ => 0) client).2

/-- What the merge makes of a client does not depend on the totals so far. -/
theorem mergeTurn_snd (totals : MergeTotals) (client : Json) :
    (mergeTurn print samples totals client).2 = mergedClient print samples client := by
  rw [mergedClient]
  cases hkey : clientKey print client with
  | none => rw [mergeTurn_of_no_key hkey, mergeTurn_of_no_key hkey]
  | some key => rw [mergeTurn_of_key hkey, mergeTurn_of_key hkey]

/-- What a client adds to a total. -/
def addedConns (count : ConnCount) (client : Json) : UInt32 :=
  match clientKey print client with
  | none => 0
  | some key => connsUnder samples key count

/-- One turn adds to each total what the client was given. -/
theorem mergeTurn_fst (totals : MergeTotals) (client : Json) (count : ConnCount) :
    (mergeTurn print samples totals client).1 count =
      totals count + addedConns print samples count client := by
  rw [addedConns]
  cases hkey : clientKey print client with
  | none => rw [mergeTurn_of_no_key hkey, add_zero]
  | some key => rw [mergeTurn_of_key hkey]

/-- The loop merges the first client and goes on with the others. -/
theorem mergeLoop_cons (totals : MergeTotals) (client : Json) (clients : List Json) :
    mergeLoop print samples totals (client :: clients) =
      let turn := mergeTurn print samples totals client
      let rest := mergeLoop print samples turn.1 clients
      (rest.1, turn.2 :: rest.2) := rfl

/-- The loop merges every client. -/
theorem mergeLoop_snd (totals : MergeTotals) (clients : List Json) :
    (mergeLoop print samples totals clients).2 = clients.map (mergedClient print samples) := by
  induction clients generalizing totals with
  | nil => rfl
  | cons client clients ih =>
    rw [mergeLoop_cons, List.map_cons]
    dsimp only
    rw [ih, mergeTurn_snd]

/-- The totals are what the clients add to them. -/
theorem mergeLoop_fst (totals : MergeTotals) (clients : List Json) (count : ConnCount) :
    (mergeLoop print samples totals clients).1 count =
      totals count + (clients.map (addedConns print samples count)).sum := by
  induction clients generalizing totals with
  | nil => rw [mergeLoop, List.map_nil, List.sum_nil, add_zero]
  | cons client clients ih =>
    rw [mergeLoop_cons, List.map_cons, List.sum_cons]
    dsimp only
    rw [ih, mergeTurn_fst, add_assoc]

/-- The number that a client shows for a count. -/
def shownCount (count : ConnCount) (client : Json) : ℤ :=
  ((client.get? count.field).bind JsonValue.int?).getD 0

/-- The sum of a count over the clients of an array. -/
def columnSum (count : ConnCount) (clients : List Json) : ℤ :=
  ((clients.filter fun client => (clientKey print client).isSome).map (shownCount count)).sum

/-- The sum over the merged clients is that of what they have added to the total. -/
theorem columnSum_merged (count : ConnCount) (clients : List Json) :
    columnSum print count (clients.map (mergedClient print samples)) =
      (clients.map fun client => (addedConns print samples count client).toNat).sum := by
  have hkeys :
      ∀ client, clientKey print (mergedClient print samples client) = clientKey print client :=
    fun client => clientKey_mergeTurn
  induction clients with
  | nil => rfl
  | cons client clients ih =>
    rw [columnSum, List.map_cons, List.filter_cons, hkeys, List.map_cons, List.sum_cons, addedConns]
    cases hkey : clientKey print client with
    | none =>
      rw [if_neg (by simp), ← columnSum, ih, UInt32.toNat_zero, Nat.zero_add]
    | some key =>
      have hshown : shownCount count (mergedClient print samples client) =
          (connsUnder samples key count).toNat := by
        rw [shownCount, mergedClient, get?_mergeTurn_count hkey]
        rfl
      rw [if_pos (by simp), List.map_cons, List.sum_cons, ← columnSum, ih, hshown, Nat.cast_add]

end Array

/-! ## The reply -/

section Reply

variable (print : Json → CStr)

/-- A client that the merge has passed: it has every field that it had, but for the counts. An
element that is no client is untouched. -/
structure SameButCounts (before after : Json) : Prop where
  fields : ∀ field, (∀ count : ConnCount, count.field ≠ field) →
    after.get? field = before.get? field
  others : clientKey print before = none → after = before

/-- What a successful read makes of a reply: each client has the counts under its identity key, and
a total below `2 ^ 31` is the sum of its column. -/
structure MergesCounts (samples : List ConntrackClientSample)
    (before after : ReplyObjects) : Prop where
  counts : List.Forall₂ (fun old new => ∀ key, clientKey print old = some key → ∀ count : ConnCount,
    new.get? count.field = some (.int (connsUnder samples key count).toNat))
      before.clients after.clients
  totals : ∀ count : ConnCount, columnSum print count after.clients < 2 ^ 31 →
    after.root.get? count.total = some (.int (columnSum print count after.clients))

variable {print : Json → CStr} {cfg : CollectorConfig}

/-- What holds between a client and its merged object holds along the reply. -/
theorem forall₂_mergedClient (samples : List ConntrackClientSample) {R : Json → Json → Prop}
    (h : ∀ client, R client (mergedClient print samples client)) (clients : List Json) :
    List.Forall₂ R clients (clients.map (mergedClient print samples)) :=
  List.forall₂_map_right_iff.mpr (List.forall₂_same.mpr fun client _ => h client)

/-- What a read that returns true makes of a reply. -/
theorem mergeSnapshot_of_table {read : ConntrackSnapshot} {samples : List ConntrackClientSample}
    (hread : read.table = some samples) (reply : ReplyObjects) :
    mergeSnapshot print cfg read reply =
      { root := reply.root.addAll (mergeRootFields cfg read
          fun count => (reply.clients.map (addedConns print samples count)).sum)
        clients := reply.clients.map (mergedClient print samples) } := by
  have htotals : (mergeLoop print samples (fun _ => 0) reply.clients).1 =
      fun count => (reply.clients.map (addedConns print samples count)).sum := by
    funext count
    rw [mergeLoop_fst, zero_add]
  have hclients := mergeLoop_snd print samples (fun _ => 0) reply.clients
  rw [mergeSnapshot, hread]
  dsimp only
  rw [htotals, hclients]

/-- A merge leaves every client as it is but for the counts. -/
theorem sameButCounts_mergeSnapshot (read : ConntrackSnapshot) (reply : ReplyObjects) :
    List.Forall₂ (SameButCounts print) reply.clients
      (mergeSnapshot print cfg read reply).clients := by
  cases hread : read.table with
  | none =>
    rw [mergeSnapshot, hread]
    exact List.forall₂_same.mpr fun client _ => ⟨fun _ _ => rfl, fun _ => rfl⟩
  | some samples =>
    rw [mergeSnapshot_of_table hread]
    refine forall₂_mergedClient samples (fun client => ⟨fun field hfield => ?_, fun hkey => ?_⟩) _
    · exact get?_mergeTurn hfield
    · rw [mergedClient, mergeTurn_of_no_key hkey]

/-- The fields of the root have distinct names. -/
theorem nodup_mergeRootFields (read : ConntrackSnapshot) (totals : MergeTotals) :
    ((mergeRootFields cfg read totals).map Prod.fst).Nodup := by
  have hnames : (mergeRootFields cfg read totals).map Prod.fst =
      ConnCount.all.map ConnCount.total ++
        ["conntrack_entries_seen".toList, "conntrack_entries_matched".toList,
          "conntrack_parse_errors".toList, "conn_source".toList, "conn_collector_mode".toList,
          "conn_semantics".toList] := rfl
  rw [hnames]
  decide +kernel

/-- The root of the reply has each total as a signed 32-bit number. -/
theorem get?_root_total (fields : List (CStr × Json)) (read : ConntrackSnapshot)
    (totals : MergeTotals) (count : ConnCount) :
    ((JsonValue.object fields).addAll (mergeRootFields cfg read totals)).get? count.total =
      some (.int (totals count).toInt32.toInt) :=
  JsonValue.get?_addAll_of_mem ⟨fields, rfl⟩ (nodup_mergeRootFields read totals)
    (List.mem_append_left _ (List.mem_map_of_mem (connCount_mem_all count)))

/-- A merge of a table that was read gives the counts of the table. -/
theorem mergesCounts_mergeSnapshot {read : ConntrackSnapshot} {samples : List ConntrackClientSample}
    (hread : read.table = some samples) (fields : List (CStr × Json)) (clients : List Json) :
    let reply : ReplyObjects := { root := .object fields, clients }
    MergesCounts print samples reply (mergeSnapshot print cfg read reply) := by
  dsimp only
  rw [mergeSnapshot_of_table hread]
  constructor
  · exact forall₂_mergedClient samples
      (fun client key hkey count => get?_mergeTurn_count hkey count) clients
  · intro count hsum
    rw [columnSum_merged] at hsum ⊢
    rw [get?_root_total, Word.toInt_toInt32_sum (by exact_mod_cast hsum)]

end Reply

/-! ## The stored snapshots -/

/-- The state after the collectors does not depend on the merge. -/
theorem collectClients_snd (cfg : CollectorConfig) (inp : ClientsInput) (st : CollectorState) :
    (collectClients cfg inp st).2 =
      if nssEcmDirectPreferred cfg inp.env.probe then
        match collectNssEcmDirectClients cfg inp.nssCall st with
        | (some _, st) => st
        | (none, st) => (collectConntrackProcfsClients cfg inp.conntrackCall st).2
      else if nssConntrackSyncPreferred cfg inp.env.probe then
        (collectConntrackProcfsClients cfg inp.conntrackCall st).2
      else st := by
  have hconntrack : ∀ st, (clientsViaConntrack cfg inp st).2 =
      (collectConntrackProcfsClients cfg inp.conntrackCall st).2 := by
    intro st
    rw [clientsViaConntrack]
    split <;> simp [*]
  rw [collectClients]
  split_ifs with hnss hsync
  · cases hcall : collectNssEcmDirectClients cfg inp.nssCall st with
    | mk reply st' =>
      cases reply with
      | none => exact hconntrack st'
      | some reply => rfl
  · exact hconntrack st
  · rfl

/-- Which conntrack table the merge of a call reads makes no difference to the state that the call
leaves, but for the overview sample that is pushed. -/
theorem state_clientsMethod_merge (cfg : CollectorConfig) (inp : ClientsFileInput)
    (st : CollectorState) (nowMs : UInt64) (files : ConntrackFiles) :
    ∃ ring, (clientsMethod cfg
        (ClientsFileInput.input cfg { inp with mergeNowMs := nowMs, mergeFiles := files }) st).2 =
      { (clientsMethod cfg (inp.input cfg) st).2 with overviewRing := ring } := by
  have hcollected : (collectClients cfg
      (ClientsFileInput.input cfg { inp with mergeNowMs := nowMs, mergeFiles := files })
        (clientsRefresh cfg (inp.input cfg) st)).2 =
      (collectClients cfg (inp.input cfg) (clientsRefresh cfg (inp.input cfg) st)).2 := by
    rw [collectClients_snd, collectClients_snd]
    rfl
  -- Only the ring is written after the collectors.
  obtain ⟨ring, hring⟩ : ∃ ring, (clientsMethod cfg
      (ClientsFileInput.input cfg { inp with mergeNowMs := nowMs, mergeFiles := files }) st).2 =
      { (collectClients cfg
          (ClientsFileInput.input cfg { inp with mergeNowMs := nowMs, mergeFiles := files })
            (clientsRefresh cfg (inp.input cfg) st)).2 with overviewRing := ring } := ⟨_, rfl⟩
  refine ⟨ring, ?_⟩
  rw [hring, hcollected]
  rfl

/-! ## The objects of a clients reply -/

/-- The fields of a client object that stand before the counts. -/
def ClientJson.leadingFields (c : ClientJson) : List (CStr × Json) :=
  [("mac".toList, .string c.mac), ("identity_key".toList, .string c.identityKey),
    ("zone".toList, .string c.zone), ("interface".toList, .string c.interface),
    ("ips".toList, .array (c.ips.map .string)),
    ("hostname".toList, (c.hostname.map JsonValue.string).getD .null),
    ("rx_bps".toList, .int c.rxBps), ("tx_bps".toList, .int c.txBps),
    ("rx_bytes".toList, .int c.rxBytes), ("tx_bytes".toList, .int c.txBytes)]

/-- The counts that a client object has. -/
def ClientJson.countFields (c : ClientJson) : List (CStr × Json) :=
  [(ConnCount.tcp.field, .int c.tcpConns), (ConnCount.udp.field, .int c.udpConns)] ++
    (c.udpDnsConns.toList.map fun n => (ConnCount.udpDns.field, .int n)) ++
    c.udpOtherConns.toList.map fun n => (ConnCount.udpOther.field, .int n)

/-- The fields of a client object that stand after the counts. -/
def ClientJson.trailingFields (c : ClientJson) : List (CStr × Json) :=
  [("sample_ms".toList, .int c.sampleMs), ("last_seen".toList, .int c.lastSeen),
    ("collector_mode".toList, .string c.collectorMode), ("confidence".toList, .string c.confidence),
    ("warnings".toList, .array (c.warnings.map .string))]

/-- The object that a collector makes of a client. -/
def ClientJson.json (c : ClientJson) : Json :=
  .object (c.leadingFields ++ (c.countFields ++ c.trailingFields))

/-- An object has the fields of a client, in whatever order. -/
def Shows (obj : Json) (c : ClientJson) : Prop := ∀ field, obj.get? field = c.json.get? field

/-- The counts of a client after the merge of the reply. -/
def ClientJson.conns (c : ClientJson) : ConnCount → Option ℤ
  | .tcp => some c.tcpConns
  | .udp => some c.udpConns
  | .udpDns => c.udpDnsConns
  | .udpOther => c.udpOtherConns

/-- The totals of a reply. -/
def ConnTotals.conns (t : ConnTotals) : ConnCount → Option ℤ
  | .tcp => t.tcp
  | .udp => t.udp
  | .udpDns => t.udpDns
  | .udpOther => t.udpOther

section Shown

variable {print : Json → CStr} {samples : List ConntrackClientSample}

/-- A merged client has the connections of the rows under its identity. -/
theorem mergeClient_conns (c : ClientJson) (count : ConnCount) :
    (mergeClient samples c).conns count =
      some ((connsUnder samples c.identityKey count).toNat : ℤ) := by
  rw [mergeClient, connsUnder]
  cases findConntrackClientSample c.identityKey samples <;> cases count <;> rfl

/-- The field of a count has its number, where there is one. -/
theorem get?_json_count (c : ClientJson) (count : ConnCount) :
    c.json.get? count.field = (c.conns count).map JsonValue.int := by
  obtain ⟨_, _, _, _, _, _, _, _, _, _, tcp, udp, dns, other, _, _, _, _, _⟩ := c
  cases count with
  | tcp => rfl
  | udp => rfl
  | udpDns => cases dns <;> cases other <;> rfl
  | udpOther => cases dns <;> cases other <;> rfl

/-- The other fields do not depend on the counts. -/
theorem get?_json_of_ne (c : ClientJson) {field : CStr}
    (hfield : ∀ count : ConnCount, count.field ≠ field) :
    c.json.get? field = (JsonValue.object (c.leadingFields ++ c.trailingFields)).get? field := by
  have hnone : Keyed.lookup Prod.fst field c.countFields = none := by
    rw [Keyed.lookup_eq_none_iff]
    intro entry hentry
    simp only [ClientJson.countFields, List.mem_append, List.mem_cons,
      List.mem_map, List.not_mem_nil, or_false] at hentry
    rcases hentry with ((rfl | rfl) | ⟨n, -, rfl⟩) | ⟨n, -, rfl⟩
    · exact hfield .tcp
    · exact hfield .udp
    · exact hfield .udpDns
    · exact hfield .udpOther
  simp only [ClientJson.json, JsonValue.get?, Keyed.lookup_append, hnone, Option.none_or]

/-- The key of an object is that of the client. -/
theorem Shows.key_eq {obj : Json} {c : ClientJson} (h : Shows obj c) :
    clientKey print obj = some c.identityKey := by
  rw [clientKey, h]
  rfl

/-- The merge of an object is the merge of the client that it shows. -/
theorem Shows.merged {obj : Json} {c : ClientJson} (h : Shows obj c) :
    Shows (mergedClient print samples obj) (mergeClient samples c) := by
  have hkey : clientKey print obj = some c.identityKey := h.key_eq
  intro field
  by_cases hfield : ∃ count : ConnCount, count.field = field
  · obtain ⟨count, rfl⟩ := hfield
    rw [mergedClient, get?_mergeTurn_count hkey, get?_json_count, mergeClient_conns]
    rfl
  · have hne : ∀ count : ConnCount, count.field ≠ field := fun count heq => hfield ⟨count, heq⟩
    have hfields : (mergeClient samples c).leadingFields ++ (mergeClient samples c).trailingFields =
        c.leadingFields ++ c.trailingFields := by
      rw [mergeClient]
      cases findConntrackClientSample c.identityKey samples <;> rfl
    rw [mergedClient, get?_mergeTurn hne, h, get?_json_of_ne _ hne, get?_json_of_ne _ hne, hfields]

/-- The objects of an array add to the totals what the clients that they show add. -/
theorem map_addedConns {clients : List Json} {shown : List ClientJson}
    (h : List.Forall₂ Shows clients shown) (count : ConnCount) :
    clients.map (addedConns print samples count) =
      shown.map fun c =>
        ((findConntrackClientSample c.identityKey samples).map fun s => s.conns count).getD 0 := by
  induction h with
  | nil => rfl
  | cons hclient _ ih =>
    rw [List.map_cons, List.map_cons, ih, addedConns, hclient.key_eq]
    dsimp only
    rw [connsUnder]
    cases findConntrackClientSample _ samples <;> rfl

variable {cfg : CollectorConfig} {nowMs : UInt64} {files : ConntrackFiles}

/-- The merge of the objects of a reply is the merge of the reply, which has the totals of the root
then. -/
theorem shown_mergeConntrackConnCounts {fields : List (CStr × Json)} {clients : List Json}
    {reply : ClientsReply} (h : List.Forall₂ Shows clients reply.clients) :
    let merged :=
      mergeConntrackConnCountsInto print cfg nowMs files { root := .object fields, clients }
    let mergedReply := mergeConntrackConnCounts cfg (conntrackReadOf cfg nowMs files) reply
    List.Forall₂ Shows merged.clients mergedReply.clients ∧
      ((conntrackReadOf cfg nowMs files).table ≠ none → ∀ count : ConnCount,
        merged.root.get? count.total = (mergedReply.totals.conns count).map JsonValue.int) := by
  have hsamples := samples_conntrackReadOf cfg nowMs files
  dsimp only
  rw [mergeConntrackConnCountsInto, mergeConntrackConnCounts]
  cases htable : (conntrackReadOf cfg nowMs files).table with
  | none =>
    rw [htable] at hsamples
    rw [mergeSnapshot, ← hsamples]
    exact ⟨h, fun hne => absurd rfl hne⟩
  | some table =>
    rw [htable] at hsamples
    rw [mergeSnapshot_of_table hsamples.symm]
    refine ⟨?_, fun _ count => ?_⟩
    · exact List.forall₂_map_left_iff.mpr (List.forall₂_map_right_iff.mpr
        (h.imp fun _ _ hclient => hclient.merged))
    · rw [get?_root_total]
      dsimp only
      rw [map_addedConns h]
      cases count <;> rfl

end Shown

/-! ## The merge -/

/-- `merge_conntrack_conn_counts`, for every array of clients and whatever the readers find: it
changes no field of a client but the counts, a read that returns true puts the counts of the
conntrack sample under the client's identity key in their place, and the sums of the columns in the
root, a read that fails changes nothing. The state that a call of `clients_method` leaves is the
same for every table that the merge may read, but for the overview sample. -/
theorem merge_conntrack_conn_counts_frame (print : Json → CStr)
    (cfg : CollectorConfig) (nowMs : UInt64) (files : ConntrackFiles) :
    (∀ (fields : List (CStr × Json)) (clients : List Json),
      let read := readConntrackSnapshotMode cfg.maxSamples nowMs cfg.connCollectorMode files
      let reply : ReplyObjects := { root := .object fields, clients }
      let merged := mergeConntrackConnCountsInto print cfg nowMs files reply
      List.Forall₂ (SameButCounts print) clients merged.clients ∧
        (∀ samples, read.table = some samples → MergesCounts print samples reply merged) ∧
        (read.table = none → merged = reply)) ∧
    ∀ (inp : ClientsFileInput) (st : CollectorState), ∃ ring,
      (clientsMethod cfg
          (ClientsFileInput.input cfg { inp with mergeNowMs := nowMs, mergeFiles := files }) st).2 =
        { (clientsMethod cfg (inp.input cfg) st).2 with overviewRing := ring } := by
  refine ⟨fun fields clients => ⟨?_, fun samples hread => ?_, fun hread => ?_⟩, fun inp st => ?_⟩
  · exact sameButCounts_mergeSnapshot _ { root := .object fields, clients }
  · exact mergesCounts_mergeSnapshot hread fields clients
  · show mergeSnapshot print cfg _ _ = _
    rw [mergeSnapshot, hread]
  · exact state_clientsMethod_merge cfg inp st nowMs files

end Lanspeed
