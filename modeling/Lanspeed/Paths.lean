import Lanspeed.ClientTables
import Lanspeed.CoverageSources
import Lanspeed.Conntrack.Read

/-!
# The paths of `clients_method`

`clients_method` tries the collectors in an order that the probe decides, and the first that has a
table to publish serves the reply. `clientsPath` names it with its table, and
`collectClients_eq_reply` says what the reply is on each path. No table is longer than the arrays of
the daemon, whatever calls come before (`length_bpfCurrentSamples_run_le`).
-/

namespace Lanspeed

/-! ## The reads of a call -/

/-- What one call of `clients_method` meets, down to the files that the readers open. -/
structure ClientsFileInput where
  switched : Bool
  collect : CollectInput
  env : BpfPublishEnv
  nssNowMs : UInt64
  nssArpFile : Option CStr
  nssStateFile : Option CStr
  conntrackNowMs : UInt64
  conntrackFiles : ConntrackFiles
  mergeNowMs : UInt64
  mergeFiles : ConntrackFiles
  overviewMs : UInt64

/-- The call with the tables that its reads hand back. -/
def ClientsFileInput.input (cfg : CollectorConfig) (inp : ClientsFileInput) : ClientsInput :=
  { switched := inp.switched
    collect := inp.collect
    env := inp.env
    nssNowMs := inp.nssNowMs
    nssRead := nssReadOf cfg.maxSamples inp.nssNowMs inp.nssArpFile inp.nssStateFile
    conntrackNowMs := inp.conntrackNowMs
    conntrackRead := conntrackReadOf cfg inp.conntrackNowMs inp.conntrackFiles
    mergeNowMs := inp.mergeNowMs
    mergeRead := conntrackReadOf cfg inp.mergeNowMs inp.mergeFiles
    overviewMs := inp.overviewMs }

/-- The collector that serves a reply, with the table that it publishes. -/
inductive ClientsPath where
  | nss (samples : List ConntrackClientSample)
  | conntrack (samples : List ConntrackClientSample)
  | bpf (samples : List BpfClientSample)
  | empty

/-- The BPF collector as the last choice. -/
def bpfPath (cfg : CollectorConfig) (inp : ClientsInput) (st : CollectorState) : ClientsPath :=
  if (collectBpfClients cfg inp.env st).isSome then .bpf st.bpfCurrentSamples else .empty

/-- The conntrack collector, with BPF as its fallback. -/
def conntrackPath (cfg : CollectorConfig) (inp : ClientsInput)
    (st : CollectorState) : ClientsPath :=
  if conntrackClientsReadActive cfg inp.env.probe then
    match inp.conntrackRead.table with
    | some table => .conntrack table.samples
    | none => bpfPath cfg inp st
  else bpfPath cfg inp st

/-- The collector that `clients_method` ends up with, in the state that it collects from. -/
def clientsPath (cfg : CollectorConfig) (inp : ClientsInput) (st : CollectorState) : ClientsPath :=
  if nssEcmDirectPreferred cfg inp.env.probe then
    match inp.nssRead.table with
    | some table => .nss table.samples
    | none => conntrackPath cfg inp st
  else if nssConntrackSyncPreferred cfg inp.env.probe then conntrackPath cfg inp st
  else bpfPath cfg inp st

/-- The table that the merge reads. -/
def ClientsInput.merged (inp : ClientsInput) : Option (List ConntrackClientSample) :=
  inp.mergeRead.table.map fun table => table.samples

/-- The reply of a path. -/
def ClientsPath.reply (cfg : CollectorConfig) (inp : ClientsInput) (st : CollectorState) :
    ClientsPath → ClientsReply
  | .nss samples =>
    mergeConntrackConnCounts cfg inp.mergeRead
      (emitNssEcmDirectClients inp.env st.previousNssEcmDirect samples inp.nssNowMs
        (nssEcmDirectBaseWarnings cfg inp.nssCall st)).1
  | .conntrack samples =>
    (emitConntrackClients cfg inp.env st.previousConntrack samples inp.conntrackNowMs
      (conntrackBaseWarnings cfg inp.conntrackCall st) inp.conntrackRead.stats).1
  | .bpf samples =>
    mergeConntrackConnCounts cfg inp.mergeRead
      { clients := samples.map (bpfClientJson inp.env.hostnameLookup st.bpfCurrentSnapshotMs
          (st.bpfCurrentSnapshotMs - st.bpfPreviousSnapshotMs) st.bpfPreviousSamples) }
  | .empty => {}

/-- The table of a path is one that its collector has read. -/
inductive ClientsPath.From (inp : ClientsInput) (st : CollectorState) : ClientsPath → Prop
  | nss {table} : inp.nssRead.table = some table → From inp st (.nss table.samples)
  | conntrack {table} : inp.conntrackRead.table = some table →
      From inp st (.conntrack table.samples)
  | bpf : From inp st (.bpf st.bpfCurrentSamples)
  | empty : From inp st .empty

section Paths

variable (cfg : CollectorConfig) (inp : ClientsInput) (st : CollectorState)

/-- What the BPF clients are published from is the reply of their path. -/
theorem clientsViaBpf_eq_reply :
    clientsViaBpf cfg inp st = (bpfPath cfg inp st).reply cfg inp st := by
  unfold clientsViaBpf bpfPath
  cases hclients : collectBpfClients cfg inp.env st with
  | none => rfl
  | some clients =>
    unfold collectBpfClients at hclients
    dsimp only at hclients
    split_ifs at hclients
    obtain rfl := Option.some.inj hclients
    rfl

/-- What the conntrack clients are published from is the reply of their path. -/
theorem clientsViaConntrack_eq_reply :
    (clientsViaConntrack cfg inp st).1 = (conntrackPath cfg inp st).reply cfg inp st := by
  unfold clientsViaConntrack conntrackPath collectConntrackProcfsClients
  cases hactive : conntrackClientsReadActive cfg inp.env.probe with
  | false =>
    simp only [ClientsInput.conntrackCall, hactive]
    exact clientsViaBpf_eq_reply cfg inp st
  | true =>
    cases hread : inp.conntrackRead.table with
    | none =>
      simp only [ClientsInput.conntrackCall, hactive, hread]
      exact clientsViaBpf_eq_reply cfg inp st
    | some table =>
      simp only [ClientsInput.conntrackCall, hactive, hread]
      rfl

/-- The reply is that of the path. -/
theorem collectClients_eq_reply :
    (collectClients cfg inp st).1 = (clientsPath cfg inp st).reply cfg inp st := by
  unfold collectClients clientsPath collectNssEcmDirectClients
  cases hnss : nssEcmDirectPreferred cfg inp.env.probe with
  | false =>
    cases nssConntrackSyncPreferred cfg inp.env.probe with
    | false => exact clientsViaBpf_eq_reply cfg inp st
    | true => exact clientsViaConntrack_eq_reply cfg inp st
  | true =>
    cases hread : inp.nssRead.table with
    | none =>
      simp only [ClientsInput.nssCall, hnss, hread]
      exact clientsViaConntrack_eq_reply cfg inp st
    | some table =>
      simp only [ClientsInput.nssCall, hnss, hread]
      rfl

/-- The samples of the BPF path are those of the collector. -/
theorem bpfPath_from : (bpfPath cfg inp st).From inp st := by
  unfold bpfPath
  split_ifs
  · exact .bpf
  · exact .empty

/-- The samples of the conntrack path are those of its reader. -/
theorem conntrackPath_from : (conntrackPath cfg inp st).From inp st := by
  unfold conntrackPath
  split_ifs
  · cases hread : inp.conntrackRead.table with
    | some table => exact .conntrack hread
    | none => exact bpfPath_from cfg inp st
  · exact bpfPath_from cfg inp st

/-- The samples of the path that is taken come from its source. -/
theorem clientsPath_from : (clientsPath cfg inp st).From inp st := by
  unfold clientsPath
  split_ifs
  · cases hread : inp.nssRead.table with
    | some table => exact .nss hread
    | none => exact conntrackPath_from cfg inp st
  · exact conntrackPath_from cfg inp st
  · exact bpfPath_from cfg inp st

end Paths

/-! ## The lengths of the tables -/

section Lengths

variable {cfg : CollectorConfig} {st : CollectorState}

/-- Collecting the map leaves no more samples than `DEFAULT_MAX_CLIENTS`. -/
theorem length_bpfCollectSamples_le (inp : CollectInput)
    (hst : st.bpfCurrentSamples.length ≤ defaultMaxClients) :
    (bpfCollectSamples cfg inp st).bpfCurrentSamples.length ≤ defaultMaxClients := by
  unfold bpfCollectSamples
  split
  · exact hst
  · exact (length_bpfFold_le _ _).trans (maxSamples_le_default cfg)

/-- Switching the attach order leaves no more samples than `DEFAULT_MAX_CLIENTS`. -/
theorem length_refreshAttachPolicy_le (switched : Bool)
    (hst : st.bpfCurrentSamples.length ≤ defaultMaxClients) :
    (refreshAttachPolicy cfg switched st).2.bpfCurrentSamples.length ≤ defaultMaxClients := by
  unfold refreshAttachPolicy
  split_ifs
  · exact Nat.zero_le _
  · exact hst

/-- Self-healing leaves no more samples than `DEFAULT_MAX_CLIENTS`. -/
theorem length_recoverIfNeeded_le (healed : Bool)
    (hst : st.bpfCurrentSamples.length ≤ defaultMaxClients) :
    (recoverIfNeeded cfg healed st).bpfCurrentSamples.length ≤ defaultMaxClients := by
  unfold recoverIfNeeded
  split_ifs
  · exact Nat.zero_le _
  · exact hst

/-- The tables that a read of the files hands back are not longer than the arrays. -/
theorem length_conntrackReadOf_le {nowMs : UInt64} {files : ConntrackFiles}
    (table : ConntrackTable nowMs) (h : (conntrackReadOf cfg nowMs files).table = some table) :
    table.samples.length ≤ defaultMaxClients := by
  obtain ⟨src, -, rfl⟩ := Option.map_eq_some_iff.mp h
  exact (GroupBy.length_groupBy_le (shareGrouping_lawful nowMs) _).trans (maxSamples_le_default cfg)

/-- The ECM reader makes no more samples than `DEFAULT_MAX_CLIENTS`. -/
theorem length_nssReadOf_le {nowMs : UInt64} {arpFile stateFile : Option CStr} (table : ClientTable)
    (h : (nssReadOf cfg.maxSamples nowMs arpFile stateFile).table = some table) :
    table.samples.length ≤ defaultMaxClients := by
  obtain ⟨h, -⟩ := Option.filter_eq_some_iff.mp h
  obtain ⟨shares, -, rfl⟩ := Option.map_eq_some_iff.mp h
  exact (GroupBy.length_groupBy_le (shareGrouping_lawful nowMs) _).trans (maxSamples_le_default cfg)

/-- The collectors only change the snapshots that they keep. -/
theorem collectClients_state (cfg : CollectorConfig) (inp : ClientsInput) (st : CollectorState) :
    ∃ conntrack nss, (collectClients cfg inp st).2 =
      { st with previousConntrack := conntrack, previousNssEcmDirect := nss } := by
  have hconntrack : ∃ conntrack nss, (clientsViaConntrack cfg inp st).2 =
      { st with previousConntrack := conntrack, previousNssEcmDirect := nss } := by
    unfold clientsViaConntrack collectConntrackProcfsClients
    cases hactive : conntrackClientsReadActive cfg inp.env.probe with
    | false =>
      simp only [ClientsInput.conntrackCall, hactive]
      exact ⟨_, _, rfl⟩
    | true =>
      cases hread : inp.conntrackRead.table <;>
        simp only [ClientsInput.conntrackCall, hactive, hread] <;> exact ⟨_, _, rfl⟩
  unfold collectClients collectNssEcmDirectClients
  cases hnss : nssEcmDirectPreferred cfg inp.env.probe with
  | false =>
    cases nssConntrackSyncPreferred cfg inp.env.probe with
    | false => exact ⟨_, _, rfl⟩
    | true => exact hconntrack
  | true =>
    cases hread : inp.nssRead.table with
    | none =>
      simp only [ClientsInput.nssCall, hnss, hread]
      exact hconntrack
    | some table =>
      simp only [ClientsInput.nssCall, hnss, hread]
      exact ⟨_, _, rfl⟩

/-- The refresh of a clients call leaves no more samples than `DEFAULT_MAX_CLIENTS`. -/
theorem length_clientsRefresh_le (inp : ClientsInput)
    (hst : st.bpfCurrentSamples.length ≤ defaultMaxClients) :
    (clientsRefresh cfg inp st).bpfCurrentSamples.length ≤ defaultMaxClients := by
  have hrefresh : (refreshAttachPolicy cfg inp.switched st).2.bpfCurrentSamples.length ≤
      defaultMaxClients := length_refreshAttachPolicy_le inp.switched hst
  unfold clientsRefresh
  split
  next st' h =>
    rw [h] at hrefresh
    exact length_bpfCollectSamples_le inp.collect hrefresh
  next st' h =>
    rw [h] at hrefresh
    exact hrefresh

/-- The table of the BPF collector is not longer than its array. -/
theorem length_daemonStep_le (e : DaemonEvent)
    (hst : st.bpfCurrentSamples.length ≤ defaultMaxClients) :
    (daemonStep cfg st e).bpfCurrentSamples.length ≤ defaultMaxClients := by
  cases e with
  | tick inp =>
    unfold daemonStep bpfCollectTick
    dsimp only
    split_ifs
    · exact length_bpfCollectSamples_le inp.collect
        (length_recoverIfNeeded_le inp.healed (length_refreshAttachPolicy_le inp.switched hst))
    · exact hst
  | clients inp =>
    obtain ⟨conntrack, nss, hstate⟩ := collectClients_state cfg inp (clientsRefresh cfg inp st)
    have hsamples : (collectClients cfg inp (clientsRefresh cfg inp st)).2.bpfCurrentSamples =
        (clientsRefresh cfg inp st).bpfCurrentSamples := by rw [hstate]
    exact (congrArg List.length hsamples).trans_le (length_clientsRefresh_le inp hst)
  | status inp => exact length_refreshAttachPolicy_le inp.switched hst

/-- In every run the daemon has no more samples than `DEFAULT_MAX_CLIENTS`. -/
theorem length_bpfCurrentSamples_run_le (cfg : CollectorConfig)
    (enabled : Bool) (evs : List DaemonEvent) :
    (Machine.run (daemonStep cfg) (CollectorState.init enabled) evs).bpfCurrentSamples.length ≤
      defaultMaxClients :=
  Machine.run_invariant (I := fun st : CollectorState =>
    st.bpfCurrentSamples.length ≤ defaultMaxClients) (daemonStep cfg)
    (fun _ e h => length_daemonStep_le e h) (Nat.zero_le _) evs

end Lengths

end Lanspeed
