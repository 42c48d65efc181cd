import Lanspeed.Snapshots
import Lanspeed.Coverage
import Lanspeed.Overview

/-!
# The collection tick and the ubus methods

`bpf_collect_tick`, `clients_method` and `status_method` as functions of the collector state. What
the attach policy and the self-heal do to the kernel is not part of this state; here they are the
outcome that the calls report, which decides whether the rate state is reset.
-/

namespace Lanspeed

/-- The test at the start of `bpf_runtime_refresh_attach_policy` and
`bpf_runtime_recover_if_needed`. -/
def bpfRuntimeActive (cfg : CollectorConfig) (st : CollectorState) : Bool :=
  cfg.enableBpf && rateCollectorModeAllowsBpf cfg && st.bpfRuntimeEnabled

/-- `bpf_runtime_refresh_attach_policy` on the collector state, where `switched` says that the
attach policy had to change and did: whether it returns true, and the state after it. -/
def refreshAttachPolicy (cfg : CollectorConfig) (switched : Bool) (st : CollectorState) :
    Bool × CollectorState :=
  if bpfRuntimeActive cfg st && switched then (true, bpfRuntimeResetRateState st) else (false, st)

/-- `bpf_runtime_recover_if_needed` on the collector state, where `healed` says that a filter was
missing and every interface was healed. -/
def recoverIfNeeded (cfg : CollectorConfig) (healed : Bool) (st : CollectorState) :
    CollectorState :=
  if bpfRuntimeActive cfg st && healed then bpfRuntimeResetRateState st else st

/-! ## The collection tick -/

/-- What one call of `bpf_collect_tick` meets. -/
structure TickInput where
  switched : Bool
  healed : Bool
  collect : CollectInput

/-- `bpf_collect_tick`. -/
def bpfCollectTick (cfg : CollectorConfig) (inp : TickInput) (st : CollectorState) :
    CollectorState :=
  if st.bpfRuntimeEnabled then
    bpfCollectSamples cfg inp.collect
      (recoverIfNeeded cfg inp.healed (refreshAttachPolicy cfg inp.switched st).2)
  else st

/-! ## `clients_method` -/

/-- The connection counts that `merge_conntrack_conn_counts` gives a client. -/
def mergeClient (samples : List ConntrackClientSample) (client : ClientJson) : ClientJson :=
  match findConntrackClientSample client.identityKey samples with
  | some cs =>
    { client with
      tcpConns := cs.tcpConns.toNat, udpConns := cs.udpConns.toNat
      udpDnsConns := some cs.udpDnsConns.toNat, udpOtherConns := some cs.udpOtherConns.toNat }
  | none =>
    { client with tcpConns := 0, udpConns := 0, udpDnsConns := some 0, udpOtherConns := some 0 }

/-- A total of `merge_conntrack_conn_counts`, published with `json_object_new_int`. -/
def mergeTotal (samples : List ConntrackClientSample) (count : ConntrackClientSample → UInt32)
    (clients : List ClientJson) : ℤ :=
  (clients.map fun c =>
    ((findConntrackClientSample c.identityKey samples).map count).getD 0).sum.toInt32.toInt

/-- `merge_conntrack_conn_counts`. -/
def mergeConntrackConnCounts (cfg : CollectorConfig) {nowMs : UInt64} (read : ConntrackRead nowMs)
    (reply : ClientsReply) : ClientsReply :=
  match read.table with
  | none => reply
  | some table =>
    { clients := reply.clients.map (mergeClient table.samples)
      totals :=
        { tcp := some (mergeTotal table.samples (·.tcpConns) reply.clients)
          udp := some (mergeTotal table.samples (·.udpConns) reply.clients)
          udpDns := some (mergeTotal table.samples (·.udpDnsConns) reply.clients)
          udpOther := some (mergeTotal table.samples (·.udpOtherConns) reply.clients) }
      connSource := some (conntrackStatsSource cfg read.stats)
      connSemantics := some
        "conntrack_current_tcp_established_assured_udp_tracked_dns_split".toList }

/-- What one call of `clients_method` meets: the probe and the loader status it ends up with, the
collection that follows a switch of the attach policy, and what each reader would hand back. -/
structure ClientsInput where
  switched : Bool
  collect : CollectInput
  env : BpfPublishEnv
  nssNowMs : UInt64
  nssRead : NssEcmDirectRead
  conntrackNowMs : UInt64
  conntrackRead : ConntrackRead conntrackNowMs
  mergeNowMs : UInt64
  mergeRead : ConntrackRead mergeNowMs
  overviewMs : UInt64

/-- The call of the NSS direct collector. -/
def ClientsInput.nssCall (inp : ClientsInput) : NssEcmDirectCall :=
  { env := inp.env, nowMs := inp.nssNowMs, read := inp.nssRead }

/-- The call of the conntrack collector. -/
def ClientsInput.conntrackCall (inp : ClientsInput) : ConntrackCall :=
  { env := inp.env, nowMs := inp.conntrackNowMs, read := inp.conntrackRead }

/-- The BPF branch: the BPF clients with the connection counts merged in. -/
def clientsViaBpf (cfg : CollectorConfig) (inp : ClientsInput)
    (st : CollectorState) : ClientsReply :=
  match collectBpfClients cfg inp.env st with
  | some clients => mergeConntrackConnCounts cfg inp.mergeRead { clients }
  | none => {}

/-- The conntrack branch, with BPF as its fallback. -/
def clientsViaConntrack (cfg : CollectorConfig) (inp : ClientsInput) (st : CollectorState) :
    ClientsReply × CollectorState :=
  match collectConntrackProcfsClients cfg inp.conntrackCall st with
  | (some reply, st) => (reply, st)
  | (none, st) => (clientsViaBpf cfg inp st, st)

/-- The choice of a collector in `clients_method`. -/
def collectClients (cfg : CollectorConfig) (inp : ClientsInput) (st : CollectorState) :
    ClientsReply × CollectorState :=
  if nssEcmDirectPreferred cfg inp.env.probe then
    match collectNssEcmDirectClients cfg inp.nssCall st with
    | (some reply, st) => (mergeConntrackConnCounts cfg inp.mergeRead reply, st)
    | (none, st) => clientsViaConntrack cfg inp st
  else if nssConntrackSyncPreferred cfg inp.env.probe then clientsViaConntrack cfg inp st
  else (clientsViaBpf cfg inp st, st)

/-- The part of `clients_method` before the choice of a collector. -/
def clientsRefresh (cfg : CollectorConfig) (inp : ClientsInput) (st : CollectorState) :
    CollectorState :=
  match refreshAttachPolicy cfg inp.switched st with
  | (true, st) => bpfCollectSamples cfg inp.collect st
  | (false, st) => st

/-- `clients_method`: the reply, and the state after it. -/
def clientsMethod (cfg : CollectorConfig) (inp : ClientsInput) (st : CollectorState) :
    ClientsReply × CollectorState :=
  let (reply, st) := collectClients cfg inp (clientsRefresh cfg inp st)
  (reply, { st with overviewRing :=
      overviewPushFromClients cfg inp.overviewMs reply.totals reply.clients st.overviewRing })

/-! ## `status_method` -/

/-- What one call of `status_method` meets. -/
structure StatusInput where
  switched : Bool
  probe : RuntimeProbe
  nowMs : UInt64
  ifaces : List IfaceStatistics

/-- The state in which `status_method` calls `add_coverage_to_status`. -/
def statusSampled (cfg : CollectorConfig) (inp : StatusInput) (st : CollectorState) :
    CollectorState :=
  coveragePushSample cfg inp.nowMs inp.probe inp.ifaces (refreshAttachPolicy cfg inp.switched st).2

/-- `status_method`: the coverage object of the reply, and the state after it. -/
def statusMethod (cfg : CollectorConfig) (inp : StatusInput) (st : CollectorState) :
    CoverageReport × CollectorState :=
  let st := statusSampled cfg inp st
  let (report, ring) := addCoverageToStatus cfg st.bpfRuntimeEnabled inp.probe st.coverageRing
  (report, { st with coverageRing := ring })

end Lanspeed
