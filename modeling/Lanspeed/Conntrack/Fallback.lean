import Lanspeed.Conntrack.Read
import Lanspeed.Lib.Slots

/-!
# The array that the conntrack readers share

`read_conntrack_snapshot_mode` hands one array to both readers, and a netlink dump that fails has
filled some of it. Here the readers work on the array itself (`readConntrackSnapshotModeInto`): they
reset the count and the statistics, and the insertion clears the slot that it takes. What they leave
in the filled part is what they leave in an empty table (`modeInto_snapshot`), so that nothing of a
failed reader is seen (`fallback_leaves_no_trace`).
-/

namespace Lanspeed

open CText

/-! ## The dump, receive by receive -/

/-- What the loop of `read_conntrack_netlink_snapshot` gets: the messages that each call of
`mnl_cb_run` hands to the callback, and how the loop ends. -/
inductive NetlinkStream where
  /-- `mnl_socket_recvfrom` fails. -/
  | error
  /-- `mnl_socket_recvfrom` returns zero. -/
  | closed
  /-- `mnl_cb_run` returns `MNL_CB_STOP`. -/
  | stop (messages : List (List NlAttr))
  /-- `mnl_cb_run` fails behind these messages. -/
  | failed (messages : List (List NlAttr))
  /-- `mnl_cb_run` returns `MNL_CB_OK`, and the loop goes on. -/
  | more (messages : List (List NlAttr)) (rest : NetlinkStream)

/-- The messages that the callback sees. -/
def NetlinkStream.messages : NetlinkStream → List (List NlAttr)
  | .error => []
  | .closed => []
  | .stop messages => messages
  | .failed messages => messages
  | .more messages rest => messages ++ rest.messages

/-- The loop ends without an error. -/
def NetlinkStream.ended : NetlinkStream → Bool
  | .error => false
  | .closed => true
  | .stop _ => true
  | .failed _ => false
  | .more _ rest => rest.ended

/-- The receive loop, with the callback `cb`: the state after it, and whether it ends without an
error. -/
def recvLoop {σ : Type*} (cb : σ → List NlAttr → σ) : NetlinkStream → σ → σ × Bool
  | .error, s => (s, false)
  | .closed, s => (s, true)
  | .stop messages, s => (messages.foldl cb s, true)
  | .failed messages, s => (messages.foldl cb s, false)
  | .more messages rest, s => recvLoop cb rest (messages.foldl cb s)

/-- The receive loop calls back for every message, in their order. -/
theorem recvLoop_eq {σ : Type*} (cb : σ → List NlAttr → σ) (stream : NetlinkStream) (s : σ) :
    recvLoop cb stream s = (stream.messages.foldl cb s, stream.ended) := by
  induction stream generalizing s with
  | error => rfl
  | closed => rfl
  | stop messages => rfl
  | failed messages => rfl
  | more messages rest ih =>
    rw [recvLoop, ih, NetlinkStream.messages, List.foldl_append, NetlinkStream.ended]

/-- What the readers open. There is no stream where the socket cannot be opened or the request
cannot be sent. -/
structure ConntrackSources where
  netlinkArp : Option CStr
  stream : Option NetlinkStream
  procfsArp : Option CStr
  nfConntrack : Option CStr
  ipConntrack : Option CStr

/-- The dump as a whole. -/
def ConntrackSources.dump (src : ConntrackSources) : NetlinkDump :=
  match src.stream with
  | none => .unavailable
  | some stream => .dumped stream.messages stream.ended

def ConntrackSources.files (src : ConntrackSources) : ConntrackFiles where
  netlinkArp := src.netlinkArp
  dump := src.dump
  procfsArp := src.procfsArp
  nfConntrack := src.nfConntrack
  ipConntrack := src.ipConntrack

/-! ## Filling the array -/

/-- The array of samples with `*sample_count`, and the statistics. -/
structure SampleArray (max : ℕ) where
  samples : Slots ConntrackClientSample max
  stats : FlowStats

variable {max : ℕ}

/-- What the array shows. -/
def SampleArray.aggregate (a : SampleArray max) : FlowAggregate := ⟨a.samples.table, a.stats⟩

/-- The index of the sample of a client, which is inserted if it is new and there is room. The
insertion clears the slot, whatever is in it. -/
def findOrInsertSample (share : FlowShare) (samples : Slots ConntrackClientSample max) :
    Option (Slots ConntrackClientSample max × ℕ) :=
  match samples.find ConntrackClientSample.identityKey share.key with
  | some i => some (samples, i)
  | none =>
    if h : samples.count < max then
      some (samples.push (fun _ => newConntrackSample share) h, samples.count)
    else none

/-- Add a share through the index of its sample. -/
def SampleArray.addFlowShare (nowMs : UInt64) (share : FlowShare) (a : SampleArray max) :
    SampleArray max :=
  match findOrInsertSample share a.samples with
  | none => a
  | some (samples, i) =>
    { samples := samples.modifyAt i (addShare nowMs share)
      stats := { a.stats with entriesMatched := a.stats.entriesMatched + 1 } }

/-- `add_conntrack_flow_to_samples`. -/
def SampleArray.addConntrackFlow (arp : List ArpEntry) (nowMs : UInt64) (a : SampleArray max)
    (flow : ConntrackFlowSample) : SampleArray max :=
  if !flow.hasOrigSrc || !flow.hasOrigBytes then a
  else
    match findArpEntry arp flow.origSrc with
    | none => { a with stats := { a.stats with skippedNoArp := a.stats.skippedNoArp + 1 } }
    | some row => a.addFlowShare nowMs (conntrackShare row flow)

/-- Count an entry, and aggregate its flow if it has one: the callback of the netlink reader, and
the loop body of the procfs reader. -/
def SampleArray.entry (arp : List ArpEntry) (nowMs : UInt64) (a : SampleArray max)
    (flow : Option ConntrackFlowSample) : SampleArray max :=
  let a := { a with stats := { a.stats with entriesSeen := a.stats.entriesSeen + 1 } }
  match flow with
  | none => { a with stats := { a.stats with malformedLines := a.stats.malformedLines + 1 } }
  | some flow => a.addConntrackFlow arp nowMs flow

/-- Adding a share to the shared array is adding it to the table that the array holds. -/
theorem aggregate_addFlowShare (ctx : FlowContext) (share : FlowShare)
    (a : SampleArray ctx.maxSamples) :
    (a.addFlowShare ctx.nowMs share).aggregate = addFlowShare ctx share a.aggregate := by
  unfold SampleArray.addFlowShare findOrInsertSample
  cases hfind : a.samples.find ConntrackClientSample.identityKey share.key with
  | some i =>
    have hfound : findConntrackClientSample share.key a.aggregate.samples ≠ none :=
      fun hnone => absurd (Slots.find_eq_none_iff.mpr hnone) (hfind ▸ Option.some_ne_none i)
    obtain ⟨row, hrow⟩ := Option.ne_none_iff_exists'.mp hfound
    rw [addFlowShare, hrow]
    dsimp only [SampleArray.aggregate]
    rw [Slots.table_modifyAt_find hfind]
  | none =>
    have hnone : findConntrackClientSample share.key a.aggregate.samples = none :=
      Slots.find_eq_none_iff.mp hfind
    have hcount : a.aggregate.samples.length = a.samples.count := a.samples.length_table
    rw [addFlowShare, hnone]
    dsimp only
    by_cases hroom : a.samples.count < ctx.maxSamples
    · obtain ⟨old, htable⟩ := a.samples.table_push_modifyAt (fun _ => newConntrackSample share)
        (addShare ctx.nowMs share) hroom
      rw [dif_pos hroom, hcount, if_neg (Nat.not_le.mpr hroom)]
      dsimp only [SampleArray.aggregate]
      rw [htable]
    · rw [dif_neg hroom, hcount, if_pos (Nat.not_lt.mp hroom)]

/-- Adding a flow to the shared array is adding it to the table that the array holds. -/
theorem aggregate_addConntrackFlow (ctx : FlowContext) (a : SampleArray ctx.maxSamples)
    (flow : ConntrackFlowSample) :
    (a.addConntrackFlow ctx.arp ctx.nowMs flow).aggregate =
      addConntrackFlowToSamples ctx a.aggregate flow := by
  unfold SampleArray.addConntrackFlow addConntrackFlowToSamples
  split_ifs
  · rfl
  · cases findArpEntry ctx.arp flow.origSrc with
    | none => rfl
    | some row => exact aggregate_addFlowShare ctx (conntrackShare row flow) a

/-- An entry changes the array as it changes an empty table: the callback of the netlink reader
does. -/
theorem aggregate_entry_netlink (ctx : FlowContext) (a : SampleArray ctx.maxSamples)
    (tb : List NlAttr) :
    (a.entry ctx.arp ctx.nowMs (conntrackNetlinkFlow tb)).aggregate =
      conntrackNetlinkDataCb ctx a.aggregate tb := by
  unfold SampleArray.entry conntrackNetlinkDataCb
  cases conntrackNetlinkFlow tb with
  | none => rfl
  | some flow => exact aggregate_addConntrackFlow ctx _ flow

/-- So does the loop body of the procfs reader. -/
theorem aggregate_entry_procfs (ctx : FlowContext) (a : SampleArray ctx.maxSamples) (line : CStr) :
    (a.entry ctx.arp ctx.nowMs (parseConntrackProcfsLine line)).aggregate =
      conntrackProcfsTurn ctx a.aggregate line := by
  unfold SampleArray.entry conntrackProcfsTurn
  cases parseConntrackProcfsLine line with
  | none => rfl
  | some flow => exact aggregate_addConntrackFlow ctx _ flow

/-! ## The readers -/

/-- What a reader leaves. -/
structure ConntrackArrayRead (max : ℕ) where
  array : SampleArray max
  warnings : List CStr
  stats : ConntrackCollectStats := {}
  ok : Bool := false

/-- What it leaves, as far as the array shows it. -/
def ConntrackArrayRead.snapshot (read : ConntrackArrayRead max) : ConntrackSnapshot where
  agg := read.array.aggregate
  warnings := read.warnings
  stats := read.stats
  ok := read.ok

/-- The resets at the start of both readers: `*sample_count = 0`, and the `memset` of the
statistics. -/
def SampleArray.start (samples : Slots ConntrackClientSample max) : SampleArray max :=
  ⟨samples.clear, {}⟩

/-- `read_conntrack_netlink_snapshot`, into an array. -/
def readConntrackNetlinkSnapshotInto (nowMs : UInt64) (arpFile : Option CStr)
    (stream : Option NetlinkStream)
    (samples : Slots ConntrackClientSample max) : ConntrackArrayRead max :=
  let arp := loadArpTable arpFile
  let start := SampleArray.start samples
  if arp = [] then { array := start, warnings := arpWarnings arpFile }
  else
    match stream with
    | none => { array := start, warnings := arpWarnings arpFile }
    | some stream =>
      let (array, ended) :=
        recvLoop (fun a tb => a.entry arp nowMs (conntrackNetlinkFlow tb)) stream start
      { array, warnings := arpWarnings arpFile, stats := { netlinkRead := ended }, ok := ended }

/-- `read_conntrack_procfs_snapshot`, into an array. -/
def readConntrackProcfsSnapshotInto (nowMs : UInt64) (arpFile nfConntrack ipConntrack : Option CStr)
    (samples : Slots ConntrackClientSample max) : ConntrackArrayRead max :=
  let arp := loadArpTable arpFile
  let start := SampleArray.start samples
  if arp = [] then { array := start, warnings := arpWarnings arpFile }
  else
    match openConntrackProcfs nfConntrack ipConntrack with
    | none =>
      { array := start
        warnings := addStringUnique (arpWarnings arpFile) "conntrack_unavailable".toList }
    | some content =>
      { array := (fgetsLines conntrackLineMax content).foldl
          (fun a line => a.entry arp nowMs (parseConntrackProcfsLine line)) start
        warnings := arpWarnings arpFile
        stats := { procfsRead := true }
        ok := true }

/-- `read_conntrack_snapshot_mode`, into the array that both readers get. -/
def readConntrackSnapshotModeInto (nowMs : UInt64) (mode : CollectorModeSetting)
    (src : ConntrackSources) (samples : Slots ConntrackClientSample max) : ConntrackArrayRead max :=
  if mode = .conntrackProcfs then
    readConntrackProcfsSnapshotInto nowMs src.procfsArp src.nfConntrack src.ipConntrack samples
  else
    let netlink := readConntrackNetlinkSnapshotInto nowMs src.netlinkArp src.stream samples
    if netlink.ok then netlink
    else if mode = .conntrackNetlink then netlink
    else
      -- The procfs reader starts on the array as the netlink reader has left it.
      let procfs :=
        readConntrackProcfsSnapshotInto nowMs src.procfsArp src.nfConntrack src.ipConntrack
        netlink.array.samples
      { array :=
          { samples := procfs.array.samples
            stats := if procfs.ok then procfs.array.stats else netlink.array.stats }
        warnings := procfs.warnings.foldl addStringUnique netlink.warnings
        stats := if procfs.ok then procfs.stats else netlink.stats
        ok := procfs.ok }

/-- A reader starts from an empty table. -/
theorem aggregate_start (samples : Slots ConntrackClientSample max) :
    (SampleArray.start samples).aggregate = {} :=
  congrArg (FlowAggregate.mk · {}) samples.table_clear

/-- A loop that starts on the array fills it as it fills an empty table, whatever is in
the array. -/
theorem aggregate_foldl_start {ι : Type*} {step : SampleArray max → ι → SampleArray max}
    {turn : FlowAggregate → ι → FlowAggregate}
    (hstep : ∀ a item, (step a item).aggregate = turn a.aggregate item) (items : List ι)
    (samples : Slots ConntrackClientSample max) :
    (items.foldl step (SampleArray.start samples)).aggregate = items.foldl turn {} := by
  rw [← List.foldl_hom SampleArray.aggregate fun a item => (hstep a item).symm, aggregate_start]

/-- Reading over netlink into the shared array gives the snapshot that the reader gives. -/
theorem netlinkInto_snapshot (nowMs : UInt64) (src : ConntrackSources)
    (samples : Slots ConntrackClientSample max) :
    (readConntrackNetlinkSnapshotInto nowMs src.netlinkArp src.stream samples).snapshot =
      readConntrackNetlinkSnapshot max nowMs src.netlinkArp src.dump := by
  have hstart := aggregate_start samples
  unfold readConntrackNetlinkSnapshotInto readConntrackNetlinkSnapshot ConntrackSources.dump
  dsimp only
  split_ifs
  · exact congrArg (ConntrackSnapshot.mk · _ _ _) hstart
  · cases src.stream with
    | none => exact congrArg (ConntrackSnapshot.mk · _ _ _) hstart
    | some stream =>
      dsimp only
      rw [recvLoop_eq]
      exact congrArg (ConntrackSnapshot.mk · _ _ _)
        (aggregate_foldl_start (aggregate_entry_netlink ⟨_, max, nowMs⟩) stream.messages samples)

/-- Reading the files into the shared array gives the snapshot that the reader gives. -/
theorem procfsInto_snapshot (nowMs : UInt64) (arpFile nfConntrack ipConntrack : Option CStr)
    (samples : Slots ConntrackClientSample max) :
    (readConntrackProcfsSnapshotInto nowMs arpFile nfConntrack ipConntrack samples).snapshot =
      readConntrackProcfsSnapshot max nowMs arpFile nfConntrack ipConntrack := by
  have hstart := aggregate_start samples
  unfold readConntrackProcfsSnapshotInto readConntrackProcfsSnapshot
  dsimp only
  split_ifs
  · exact congrArg (ConntrackSnapshot.mk · _ _ _) hstart
  · cases openConntrackProcfs nfConntrack ipConntrack with
    | none => exact congrArg (ConntrackSnapshot.mk · _ _ _) hstart
    | some content =>
      exact congrArg (ConntrackSnapshot.mk · _ _ _)
        (aggregate_foldl_start (aggregate_entry_procfs ⟨_, max, nowMs⟩) _ samples)

/-- The readers on a shared array hand back what the readers on empty tables do. -/
theorem modeInto_snapshot (nowMs : UInt64) (mode : CollectorModeSetting) (src : ConntrackSources)
    (samples : Slots ConntrackClientSample max) :
    let into := (readConntrackSnapshotModeInto nowMs mode src samples).snapshot
    let read := readConntrackSnapshotMode max nowMs mode src.files
    into.agg.samples = read.agg.samples ∧ into.warnings = read.warnings ∧ into.stats = read.stats ∧
      into.ok = read.ok := by
  have hnetlink := netlinkInto_snapshot nowMs src samples
  have hprocfs := fun samples : Slots ConntrackClientSample max =>
    procfsInto_snapshot nowMs src.procfsArp src.nfConntrack src.ipConntrack samples
  unfold readConntrackSnapshotModeInto readConntrackSnapshotMode ConntrackSources.files
  dsimp only
  by_cases hmode : mode = .conntrackProcfs
  · rw [if_pos hmode, if_pos hmode, ← hprocfs samples]
    exact ⟨rfl, rfl, rfl, rfl⟩
  · rw [if_neg hmode, if_neg hmode, ← hnetlink]
    generalize readConntrackNetlinkSnapshotInto nowMs src.netlinkArp src.stream samples = netlink
    have hok : netlink.snapshot.ok = netlink.ok := rfl
    rw [← hprocfs netlink.array.samples, hok]
    by_cases hread : netlink.ok = true
    · rw [if_pos hread, if_pos hread]
      exact ⟨rfl, rfl, rfl, rfl⟩
    · rw [if_neg hread, if_neg hread]
      by_cases honly : mode = .conntrackNetlink
      · rw [if_pos honly, if_pos honly]
        exact ⟨rfl, rfl, rfl, rfl⟩
      · rw [if_neg honly, if_neg honly]
        exact ⟨rfl, rfl, rfl, rfl⟩

/-! ## The collector -/

/-- `collect_conntrack_procfs_clients`, with its array `current` as the stack leaves it. -/
def collectConntrackProcfsClientsInto (cfg : CollectorConfig) (env : BpfPublishEnv) (nowMs : UInt64)
    (src : ConntrackSources) (current : Slots ConntrackClientSample cfg.maxSamples)
    (st : CollectorState) : Option ClientsReply × CollectorState :=
  if !conntrackClientsReadActive cfg env.probe then (none, st)
  else
    let read := readConntrackSnapshotModeInto nowMs cfg.connCollectorMode src current
    if !read.ok then (none, st)
    else
      let warnings := conntrackBaseWarnings cfg
        { env, nowMs, read := { warnings := read.warnings, table := none } } st
      let emitted :=
        emitConntrackClients cfg env st.previousConntrack read.array.samples.table nowMs
        warnings read.stats
      (some emitted.1, { st with previousConntrack := emitted.2 })

/-- The collector on its array publishes and keeps what it does with the table that it is handed
back. -/
theorem collectInto_eq (cfg : CollectorConfig) (env : BpfPublishEnv)
    (nowMs : UInt64) (src : ConntrackSources)
    (current : Slots ConntrackClientSample cfg.maxSamples) (st : CollectorState) :
    collectConntrackProcfsClientsInto cfg env nowMs src current st =
      collectConntrackProcfsClients cfg
        { env, nowMs, read := conntrackReadOf cfg nowMs src.files } st := by
  obtain ⟨hsamples, hwarnings, hstats, hok⟩ :=
    modeInto_snapshot nowMs cfg.connCollectorMode src current
  have htable := samples_conntrackReadOf cfg nowMs src.files
  have hreadWarnings : (conntrackReadOf cfg nowMs src.files).warnings =
    (readConntrackSnapshotMode cfg.maxSamples nowMs cfg.connCollectorMode src.files).warnings := rfl
  have hreadStats : (conntrackReadOf cfg nowMs src.files).stats =
    (readConntrackSnapshotMode cfg.maxSamples nowMs cfg.connCollectorMode src.files).stats := rfl
  rw [ConntrackSnapshot.table, ← hok, ← hsamples] at htable
  rw [← hwarnings] at hreadWarnings
  rw [← hstats] at hreadStats
  unfold collectConntrackProcfsClientsInto collectConntrackProcfsClients
  dsimp only
  generalize conntrackReadOf cfg nowMs src.files = handed at htable hreadWarnings hreadStats ⊢
  generalize readConntrackSnapshotModeInto nowMs cfg.connCollectorMode src current = read
    at htable hreadWarnings hreadStats ⊢
  by_cases hactive : (!conntrackClientsReadActive cfg env.probe) = true
  · rw [if_pos hactive, if_pos hactive]
  rw [if_neg hactive, if_neg hactive]
  cases hread : read.ok with
  | false =>
    have hnone : handed.table.map (·.samples) = none :=
      htable.trans (if_neg (Bool.eq_false_iff.mp hread))
    rw [Option.map_eq_none_iff.mp hnone]
    rfl
  | true =>
    obtain ⟨table, hhanded, hrows⟩ := Option.map_eq_some_iff.mp (htable.trans (if_pos hread))
    have hrows : table.samples = read.array.samples.table := hrows
    rw [hhanded]
    dsimp only
    rw [hrows, hreadStats, conntrackBaseWarnings, conntrackBaseWarnings, hreadWarnings]
    rfl

/-! ## The fallback -/

/-- A netlink dump that fails makes the reader return false. -/
theorem netlinkInto_ok {src : ConntrackSources}
    (hfails : ∀ stream ∈ src.stream, stream.ended = false)
    (nowMs : UInt64) (samples : Slots ConntrackClientSample max) :
    (readConntrackNetlinkSnapshotInto nowMs src.netlinkArp src.stream samples).ok = false := by
  unfold readConntrackNetlinkSnapshotInto
  dsimp only
  split_ifs
  · rfl
  · cases hstream : src.stream with
    | none => rfl
    | some stream =>
      dsimp only
      rw [recvLoop_eq]
      exact hfails stream hstream

/-- What the procfs reader leaves does not depend on the array that it gets. -/
theorem procfsInto_congr (nowMs : UInt64) (arpFile nfConntrack ipConntrack : Option CStr)
    (samples fresh : Slots ConntrackClientSample max) :
    (readConntrackProcfsSnapshotInto nowMs arpFile nfConntrack ipConntrack samples).snapshot =
      (readConntrackProcfsSnapshotInto nowMs arpFile nfConntrack ipConntrack fresh).snapshot :=
  (procfsInto_snapshot nowMs arpFile nfConntrack ipConntrack samples).trans
    (procfsInto_snapshot nowMs arpFile nfConntrack ipConntrack fresh).symm

/-- A netlink reader that fails, however much it has filled of the array, leaves no trace: in auto
mode the samples and their count are those of the procfs reader alone, on any array. Where that
fails too, or the mode is netlink only, the read returns false, and the collector publishes no
client and keeps its state. -/
theorem fallback_leaves_no_trace (cfg : CollectorConfig) (nowMs : UInt64) (src : ConntrackSources)
    (hfails : ∀ stream ∈ src.stream, stream.ended = false)
    (current fresh : Slots ConntrackClientSample cfg.maxSamples) :
    let procfs :=
      readConntrackProcfsSnapshotInto nowMs src.procfsArp src.nfConntrack src.ipConntrack fresh
    let auto := readConntrackSnapshotModeInto nowMs .auto src current
    (auto.ok = procfs.ok ∧ auto.array.samples.count = procfs.array.samples.count ∧
      auto.array.samples.table = procfs.array.samples.table) ∧
    (cfg.connCollectorMode = .conntrackNetlink ∨ cfg.connCollectorMode = .auto ∧ procfs.ok = false →
      (readConntrackSnapshotModeInto nowMs cfg.connCollectorMode src current).ok = false ∧
      ∀ (env : BpfPublishEnv) (st : CollectorState),
        collectConntrackProcfsClientsInto cfg env nowMs src current st = (none, st)) := by
  intro procfs auto
  have hnetlink := netlinkInto_ok hfails nowMs current
  -- The procfs reader gets the array that the netlink reader has filled.
  have hprocfs := procfsInto_congr nowMs src.procfsArp src.nfConntrack src.ipConntrack
    (readConntrackNetlinkSnapshotInto nowMs src.netlinkArp src.stream current).array.samples fresh
  obtain ⟨hok, htable⟩ : auto.ok = procfs.ok ∧ auto.array.samples.table =
      procfs.array.samples.table := by
    unfold auto readConntrackSnapshotModeInto
    dsimp only
    rw [if_neg (by decide), if_neg (Bool.eq_false_iff.mp hnetlink), if_neg (by decide)]
    exact ⟨congrArg ConntrackSnapshot.ok hprocfs, congrArg (·.agg.samples) hprocfs⟩
  have hcount : auto.array.samples.count = procfs.array.samples.count := by
    rw [← Slots.length_table, htable, Slots.length_table]
  refine ⟨⟨hok, hcount, htable⟩, fun hmode => ?_⟩
  have hread :
      (readConntrackSnapshotModeInto nowMs cfg.connCollectorMode src current).ok = false := by
    rcases hmode with hmode | ⟨hmode, hfailed⟩
    · rw [hmode, readConntrackSnapshotModeInto]
      dsimp only
      rw [if_neg (by decide), if_neg (Bool.eq_false_iff.mp hnetlink), if_pos rfl]
      exact hnetlink
    · rw [hmode]
      exact hok.trans hfailed
  refine ⟨hread, fun env st => ?_⟩
  unfold collectConntrackProcfsClientsInto
  dsimp only
  rw [hread]
  exact ite_self _

/-- A dump that fails behind the entry of a neighbour, on arrays with a stale sample. -/
theorem fallback_leaves_no_trace_of_neighbour :
    let cfg : CollectorConfig := { maxClients := 1, connCollectorMode := .conntrackNetlink }
    let arp : CStr := "IP address\n192.168.1.2 0x1 0x2 02:00:00:00:00:01 * br-lan\n".toList
    let message : List NlAttr :=
      [.nest 1 [.nest 1 [.data 1 [192, 168, 1, 2]], .nest 2 [.data 1 [17]]],
        .nest 9 [.data 2 [0, 0, 0, 0, 0, 0, 3, 232]]]
    let src : ConntrackSources :=
      { netlinkArp := some arp
        stream := some (.more [message] .error)
        procfsArp := some arp
        nfConntrack := some "ipv4 2 udp 17 30 src=192.168.1.2 bytes=100 bytes=700\n".toList
        ipConntrack := none }
    let stale : ConntrackClientSample :=
      { mac := [], identityKey := [], zone := [], ifname := [], txBytes := 9 }
    let current : Slots ConntrackClientSample cfg.maxSamples := ⟨[stale], 1, by decide, by decide⟩
    let fresh : Slots ConntrackClientSample cfg.maxSamples := ⟨[stale], 0, by decide, by decide⟩
    let procfs :=
      readConntrackProcfsSnapshotInto 1000 src.procfsArp src.nfConntrack src.ipConntrack fresh
    let auto := readConntrackSnapshotModeInto 1000 .auto src current
    (auto.ok = procfs.ok ∧ auto.array.samples.count = procfs.array.samples.count ∧
      auto.array.samples.table = procfs.array.samples.table) ∧
    (readConntrackSnapshotModeInto 1000 cfg.connCollectorMode src current).ok = false := by
  intro cfg arp message src stale current fresh
  have hfails : ∀ stream ∈ src.stream, stream.ended = false := by
    rintro stream ⟨⟩
    rfl
  obtain ⟨hsame, hfailed⟩ := fallback_leaves_no_trace cfg 1000 src hfails current fresh
  exact ⟨hsame, (hfailed (.inl rfl)).1⟩

end Lanspeed
