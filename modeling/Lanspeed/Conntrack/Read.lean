import Lanspeed.Conntrack.Aggregate

/-!
# Reading a conntrack snapshot

`read_conntrack_snapshot_mode` tries the readers that the mode allows, each of which starts from an
empty table and loads the ARP table anew. Where it returns true, the table is that of the flows the
reader found (`table_readConntrackSnapshotMode`).
-/

namespace Lanspeed

open CText

/-- What the kernel answers to the dump request of the netlink reader: no socket, or the messages
that arrive, and whether the dump ends without an error. -/
inductive NetlinkDump where
  | unavailable
  | dumped (messages : List (List NlAttr)) (ended : Bool)
deriving Repr

/-- The files that the readers open: their contents, where they can be opened. The ARP table is read
once by each reader. -/
structure ConntrackFiles where
  netlinkArp : Option CStr
  dump : NetlinkDump
  procfsArp : Option CStr
  nfConntrack : Option CStr
  ipConntrack : Option CStr
deriving Repr

/-- What a reader leaves: what it aggregated, the warnings it added, its flags, and whether it
returned true. -/
structure ConntrackSnapshot where
  agg : FlowAggregate := {}
  warnings : List CStr := []
  stats : ConntrackCollectStats := {}
  ok : Bool := false
deriving DecidableEq, Repr

/-- The table of a read that returned true. -/
def ConntrackSnapshot.table (read : ConntrackSnapshot) : Option (List ConntrackClientSample) :=
  if read.ok then some read.agg.samples else none

/-- `conntrack_netlink_data_cb`. -/
def conntrackNetlinkDataCb (ctx : FlowContext) (agg : FlowAggregate) (tb : List NlAttr) :
    FlowAggregate :=
  let agg := { agg with stats := { agg.stats with entriesSeen := agg.stats.entriesSeen + 1 } }
  match conntrackNetlinkFlow tb with
  | none =>
    { agg with stats := { agg.stats with malformedLines := agg.stats.malformedLines + 1 } }
  | some flow => addConntrackFlowToSamples ctx agg flow

/-- `read_conntrack_netlink_snapshot`. -/
def readConntrackNetlinkSnapshot (maxSamples : ℕ) (nowMs : UInt64) (arpFile : Option CStr)
    (dump : NetlinkDump) : ConntrackSnapshot :=
  let arp := loadArpTable arpFile
  if arp = [] then { warnings := arpWarnings arpFile }
  else
    match dump with
    | .unavailable => { warnings := arpWarnings arpFile }
    | .dumped messages ended =>
      { agg := messages.foldl (conntrackNetlinkDataCb { arp, maxSamples, nowMs }) {}
        warnings := arpWarnings arpFile
        stats := { netlinkRead := ended }
        ok := ended }

/-- The body of the loop of `read_conntrack_procfs_snapshot`. -/
def conntrackProcfsTurn (ctx : FlowContext) (agg : FlowAggregate) (line : CStr) : FlowAggregate :=
  let agg := { agg with stats := { agg.stats with entriesSeen := agg.stats.entriesSeen + 1 } }
  match parseConntrackProcfsLine line with
  | none =>
    { agg with stats := { agg.stats with malformedLines := agg.stats.malformedLines + 1 } }
  | some flow => addConntrackFlowToSamples ctx agg flow

/-- `open_conntrack_procfs`: the file that is read. -/
def openConntrackProcfs (nfConntrack ipConntrack : Option CStr) : Option CStr :=
  nfConntrack.or ipConntrack

/-- `read_conntrack_procfs_snapshot`. -/
def readConntrackProcfsSnapshot (maxSamples : ℕ) (nowMs : UInt64) (arpFile : Option CStr)
    (nfConntrack ipConntrack : Option CStr) : ConntrackSnapshot :=
  let arp := loadArpTable arpFile
  if arp = [] then { warnings := arpWarnings arpFile }
  else
    match openConntrackProcfs nfConntrack ipConntrack with
    | none =>
      { warnings := addStringUnique (arpWarnings arpFile) "conntrack_unavailable".toList }
    | some content =>
      { agg := (fgetsLines conntrackLineMax content).foldl
          (conntrackProcfsTurn { arp, maxSamples, nowMs }) {}
        warnings := arpWarnings arpFile
        stats := { procfsRead := true }
        ok := true }

/-- `read_conntrack_snapshot_mode`. The warnings of a netlink read that failed stay. -/
def readConntrackSnapshotMode (maxSamples : ℕ) (nowMs : UInt64) (mode : CollectorModeSetting)
    (files : ConntrackFiles) : ConntrackSnapshot :=
  let procfs := readConntrackProcfsSnapshot maxSamples nowMs files.procfsArp files.nfConntrack
    files.ipConntrack
  if mode = .conntrackProcfs then procfs
  else
    let netlink := readConntrackNetlinkSnapshot maxSamples nowMs files.netlinkArp files.dump
    if netlink.ok then netlink
    else if mode = .conntrackNetlink then netlink
    else
      { procfs with
        warnings := procfs.warnings.foldl addStringUnique netlink.warnings
        -- The statistics of the failed netlink read win when both reads fail.
        stats := if procfs.ok then procfs.stats else netlink.stats }

/-! ## The flows behind a snapshot -/

/-- The flows that a reader aggregates, with the ARP table that it uses. -/
structure FlowSource where
  arp : List ArpEntry
  flows : List ConntrackFlowSample
deriving DecidableEq, Repr

/-- The flows that the netlink reader finds, where it returns true. -/
def netlinkFlows (files : ConntrackFiles) : Option FlowSource :=
  if loadArpTable files.netlinkArp = [] then none
  else
    match files.dump with
    | .dumped messages true =>
      some ⟨loadArpTable files.netlinkArp, messages.filterMap conntrackNetlinkFlow⟩
    | _ => none

/-- The flows that the procfs reader finds, where it returns true. -/
def procfsFlows (files : ConntrackFiles) : Option FlowSource :=
  if loadArpTable files.procfsArp = [] then none
  else
    (openConntrackProcfs files.nfConntrack files.ipConntrack).map fun content =>
      ⟨loadArpTable files.procfsArp,
        (fgetsLines conntrackLineMax content).filterMap parseConntrackProcfsLine⟩

/-- The flows of the reader that the mode ends with, where `read_conntrack_snapshot_mode` returns
true. -/
def snapshotFlows (mode : CollectorModeSetting) (files : ConntrackFiles) : Option FlowSource :=
  match mode with
  | .conntrackProcfs => procfsFlows files
  | .conntrackNetlink => netlinkFlows files
  | _ => (netlinkFlows files).or (procfsFlows files)

/-- The table of the flows that a reader finds. -/
def FlowSource.table (src : FlowSource) (maxSamples : ℕ) (nowMs : UInt64) :
    List ConntrackClientSample :=
  shareTable { arp := src.arp, maxSamples, nowMs } (src.flows.filterMap (flowShare src.arp))

/-- Where every item is a flow or none, and the items that are none leave the samples alone, the
samples are those of the flows. -/
theorem samples_foldl_items {ι : Type*} {ctx : FlowContext}
    {turn : FlowAggregate → ι → FlowAggregate} {flowOf : ι → Option ConntrackFlowSample}
    (hturn : ∀ agg item, (turn agg item).samples =
      ((flowOf item).bind (flowShare ctx.arp)).toList.foldl
      (GroupBy.step (shareGrouping ctx.nowMs) ctx.maxSamples) agg.samples) (items : List ι) :
    (items.foldl turn {}).samples
      = shareTable ctx ((items.filterMap flowOf).filterMap (flowShare ctx.arp)) := by
  rw [samples_foldl hturn, List.filterMap_filterMap]
  rfl

/-- A message adds to the table the share of its flow, if it has one. -/
theorem samples_conntrackNetlinkDataCb (ctx : FlowContext) (agg : FlowAggregate)
    (tb : List NlAttr) :
    (conntrackNetlinkDataCb ctx agg tb).samples
      = ((conntrackNetlinkFlow tb).bind (flowShare ctx.arp)).toList.foldl
          (GroupBy.step (shareGrouping ctx.nowMs) ctx.maxSamples) agg.samples := by
  rw [conntrackNetlinkDataCb]
  cases conntrackNetlinkFlow tb with
  | none => rfl
  | some flow => exact samples_addConntrackFlow ctx _ flow

/-- A line adds to the table the share of its flow, if it has one. -/
theorem samples_conntrackProcfsTurn (ctx : FlowContext) (agg : FlowAggregate) (line : CStr) :
    (conntrackProcfsTurn ctx agg line).samples
      = ((parseConntrackProcfsLine line).bind (flowShare ctx.arp)).toList.foldl
          (GroupBy.step (shareGrouping ctx.nowMs) ctx.maxSamples) agg.samples := by
  rw [conntrackProcfsTurn]
  cases parseConntrackProcfsLine line with
  | none => rfl
  | some flow => exact samples_addConntrackFlow ctx _ flow

/-- The table that the netlink reader hands back when it returns true. -/
theorem table_readConntrackNetlinkSnapshot (maxSamples : ℕ) (nowMs : UInt64)
    (files : ConntrackFiles) :
    (readConntrackNetlinkSnapshot maxSamples nowMs files.netlinkArp files.dump).table
      = (netlinkFlows files).map fun src => src.table maxSamples nowMs := by
  unfold readConntrackNetlinkSnapshot netlinkFlows
  dsimp only
  by_cases harp : loadArpTable files.netlinkArp = []
  · rw [if_pos harp, if_pos harp]
    rfl
  · rw [if_neg harp, if_neg harp]
    rcases files.dump with _ | ⟨messages, _ | _⟩
    · rfl
    · rfl
    · exact congrArg some (samples_foldl_items (samples_conntrackNetlinkDataCb _) messages)

/-- The table that the procfs reader hands back when it returns true. -/
theorem table_readConntrackProcfsSnapshot (maxSamples : ℕ) (nowMs : UInt64)
    (files : ConntrackFiles) :
    (readConntrackProcfsSnapshot maxSamples nowMs files.procfsArp files.nfConntrack
        files.ipConntrack).table
      = (procfsFlows files).map fun src => src.table maxSamples nowMs := by
  unfold readConntrackProcfsSnapshot procfsFlows
  dsimp only
  by_cases harp : loadArpTable files.procfsArp = []
  · rw [if_pos harp, if_pos harp]
    rfl
  · rw [if_neg harp, if_neg harp]
    cases openConntrackProcfs files.nfConntrack files.ipConntrack with
    | none => rfl
    | some content => exact congrArg some (samples_foldl_items (samples_conntrackProcfsTurn _) _)

/-- The table that `read_conntrack_snapshot_mode` hands back when it returns true. -/
theorem table_readConntrackSnapshotMode (maxSamples : ℕ) (nowMs : UInt64)
    (mode : CollectorModeSetting) (files : ConntrackFiles) :
    (readConntrackSnapshotMode maxSamples nowMs mode files).table
      = (snapshotFlows mode files).map fun src => src.table maxSamples nowMs := by
  have hnetlink := table_readConntrackNetlinkSnapshot maxSamples nowMs files
  have hprocfs := table_readConntrackProcfsSnapshot maxSamples nowMs files
  unfold readConntrackSnapshotMode snapshotFlows
  generalize readConntrackNetlinkSnapshot maxSamples nowMs files.netlinkArp files.dump = netlink
    at hnetlink ⊢
  generalize readConntrackProcfsSnapshot maxSamples nowMs files.procfsArp files.nfConntrack
    files.ipConntrack = procfs at hprocfs ⊢
  cases hok : netlink.ok <;> cases mode <;>
    simp [ConntrackSnapshot.table, Option.map_or, ← hnetlink, ← hprocfs, hok]

/-- The samples of a table of shares are under distinct identities, and were seen at the read. -/
theorem distinct_shareTable (ctx : FlowContext) (shares : List FlowShare) :
    Keyed.Distinct ConntrackClientSample.identityKey (shareTable ctx shares) :=
  GroupBy.distinct_groupBy (shareGrouping_lawful ctx.nowMs) shares

/-- Every row of a table that has just been read was seen now. -/
theorem seenNow_shareTable (ctx : FlowContext) (shares : List FlowShare) :
    ∀ s ∈ shareTable ctx shares, s.lastSeenMs = ctx.nowMs :=
  GroupBy.forall_mem_groupBy (fun _ _ _ _ => rfl) fun _ _ _ _ _ _ _ => rfl

/-- The table of a source, with what the collectors rely on. -/
def FlowSource.conntrackTable (src : FlowSource) (maxSamples : ℕ) (nowMs : UInt64) :
    ConntrackTable nowMs where
  samples := src.table maxSamples nowMs
  distinct := distinct_shareTable _ _
  seen_now := seenNow_shareTable _ _

/-- What `read_conntrack_snapshot_mode` hands back to the collector. -/
def conntrackReadOf (cfg : CollectorConfig) (nowMs : UInt64) (files : ConntrackFiles) :
    ConntrackRead nowMs :=
  let read := readConntrackSnapshotMode cfg.maxSamples nowMs cfg.connCollectorMode files
  { warnings := read.warnings
    stats := read.stats
    table := (snapshotFlows cfg.connCollectorMode files).map fun src =>
      src.conntrackTable cfg.maxSamples nowMs }

/-- The table that the collector gets is the one that the reader has filled. -/
theorem samples_conntrackReadOf (cfg : CollectorConfig) (nowMs : UInt64) (files : ConntrackFiles) :
    (conntrackReadOf cfg nowMs files).table.map (·.samples)
      = (readConntrackSnapshotMode cfg.maxSamples nowMs cfg.connCollectorMode files).table := by
  rw [table_readConntrackSnapshotMode, conntrackReadOf, Option.map_map]
  rfl

end Lanspeed
