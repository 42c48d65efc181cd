import Lanspeed.Conntrack.Decode
import Lanspeed.Conntrack.Read

/-!
# Whether the conntrack readers agree

What an entry contributes to the client samples, read from its ctnetlink message and from its line
in either file. The two contributions are the same where the procfs reader misses no connection
(`conntrack_readers_agree_iff`).
-/

namespace Lanspeed

open CText Bytes

/-- The share of an entry with a client that its source has been found for. -/
def CtEntry.share (e : CtEntry) (c : CtCounters) (row : ArpEntry) (tcp udp : Bool) : FlowShare where
  mac := row.mac
  arp := row
  txBytes := c.origBytes
  rxBytes := c.replyBytes
  tcp := tcp
  udp := !tcp && udp
  udpDns := !tcp && udp && e.dns
  udpOther := !tcp && udp && !e.dns

/-- A flow that reads an entry has the share of the entry, for the client that the ARP table
names. -/
theorem Reads.flowShare_eq {e : CtEntry} {c : CtCounters} {src : CStr} {tcp udp : Bool}
    {flow : ConntrackFlowSample} (h : Reads e c src tcp udp flow) (arp : List ArpEntry) :
    flowShare arp flow = (findArpEntry arp src).map fun row => e.share c row tcp udp := by
  rw [flowShare, h.hasOrigSrc, h.hasOrigBytes, h.origSrc]
  refine congrArg (fun f => (findArpEntry arp src).map f) (funext fun row => ?_)
  rw [conntrackShare, h.tcp_eq, h.udp_eq, h.dns_eq, h.origBytes, h.replyBytes, CtEntry.share]
  cases tcp <;> cases udp <;> rfl

/-! ## The two contributions -/

/-- The share of an entry that was read over netlink. -/
theorem CtEntry.netlink_share (e : CtEntry) (arp : List ArpEntry) :
    (conntrackNetlinkFlow e.message).bind (flowShare arp)
      = e.counters.bind fun c => (findArpEntry arp e.origSrc.ntopText).map fun row =>
          e.share c row e.netlinkTcp e.proto.isUdp := by
  cases hc : e.counters with
  | none => rw [netlink_none hc, Option.bind_none, Option.bind_none]
  | some c =>
    obtain ⟨flow, hflow, hreads⟩ := netlink_reads hc
    rw [hflow, Option.bind_some, Option.bind_some, hreads.flowShare_eq]

/-- The share of an entry that was read from its line. -/
theorem ProcfsLine.share {file : ProcfsFile} {e : CtEntry} (line : ProcfsLine file e)
    (arp : List ArpEntry) :
    (parseConntrackProcfsLine line.text).bind (flowShare arp)
      = e.counters.bind fun c => (findArpEntry arp e.origSrc.kernelText).map fun row =>
          e.share c row (e.procfsTcp file) (e.procfsUdp file) := by
  cases hc : e.counters with
  | none => rw [line.reads_none hc, Option.bind_none, Option.bind_none]
  | some c =>
    obtain ⟨flow, hflow, hreads⟩ := line.reads hc
    rw [hflow, Option.bind_some, Option.bind_some, hreads.flowShare_eq]

/-- The entries that the netlink reader counts as a connection and the procfs reader does not. In
the newer file these are TCP entries that the hardware or the software forwards, or that are in a
state without a name of its own; in the older one the columns are shifted, and no connection is
counted. -/
def CtEntry.MissedByProcfs (e : CtEntry) : ProcfsFile → Prop
  | .nfConntrack => match e.proto with
    | .tcp state _ _ => e.assured = true ∧ (e.offloaded = true ∨ state = .none ∨ state = .synSent2)
    | _ => False
  | .ipConntrack => match e.proto with
    | .tcp state _ _ =>
      e.assured = true ∧ (e.offloaded = true ∨ state = .established ∨
        state = .none ∨ state = .synSent2)
    | .udp .. => True
    | .other _ => False

/-- An entry that is not missed is counted alike. -/
theorem CtEntry.counted_of_not_missed {e : CtEntry} {file : ProcfsFile}
    (h : ¬ e.MissedByProcfs file) :
    e.netlinkTcp = e.procfsTcp file ∧ e.proto.isUdp = e.procfsUdp file := by
  cases file with
  | nfConntrack =>
    refine ⟨?_, rfl⟩
    rw [MissedByProcfs] at h
    rw [netlinkTcp, procfsTcp]
    cases hproto : e.proto with
    | tcp state orig reply =>
      rw [hproto] at h
      revert h
      cases e.assured <;> cases e.offloaded <;> cases state <;> simp [TcpConntrack.shownEstablished]
    | udp orig reply => rfl
    | other proto => rfl
  | ipConntrack =>
    rw [MissedByProcfs] at h
    rw [netlinkTcp, procfsTcp, procfsUdp]
    cases hproto : e.proto with
    | tcp state orig reply =>
      rw [hproto] at h
      revert h
      cases e.assured <;> cases e.offloaded <;> cases state <;>
        simp [TcpConntrack.shownEstablished, CtProto.isUdp]
    | udp orig reply => rw [hproto] at h; exact absurd trivial h
    | other proto => exact ⟨rfl, rfl⟩

/-- An entry that is missed is counted by one reader only, as TCP or as UDP. -/
theorem CtEntry.counted_of_missed {e : CtEntry} {file : ProcfsFile} (h : e.MissedByProcfs file) :
    (e.netlinkTcp = true ∧ e.procfsTcp file = false) ∨
      (e.netlinkTcp = false ∧ e.proto.isUdp = true ∧ e.procfsUdp file = false) := by
  cases file with
  | nfConntrack =>
    rw [MissedByProcfs] at h
    rw [netlinkTcp, procfsTcp]
    cases hproto : e.proto with
    | tcp state orig reply =>
      rw [hproto] at h
      left
      obtain ⟨hassured, hoff | rfl | rfl⟩ := h
      · simp [hassured, hoff]
      · simp [hassured, TcpConntrack.shownEstablished]
      · simp [hassured, TcpConntrack.shownEstablished]
    | udp orig reply => rw [hproto] at h; exact h.elim
    | other proto => rw [hproto] at h; exact h.elim
  | ipConntrack =>
    rw [MissedByProcfs] at h
    rw [netlinkTcp, procfsTcp, procfsUdp]
    cases hproto : e.proto with
    | tcp state orig reply =>
      rw [hproto] at h
      left
      obtain ⟨hassured, hoff | rfl | rfl | rfl⟩ := h
      · simp [hassured, hoff]
      · simp [hassured, TcpConntrack.shownEstablished]
      · simp [hassured, TcpConntrack.shownEstablished]
      · simp [hassured, TcpConntrack.shownEstablished]
    | udp orig reply => exact Or.inr ⟨rfl, rfl, rfl⟩
    | other proto => rw [hproto] at h; exact h.elim

/-- The colon of an IPv6 address survives in its short text. -/
theorem colon_mem_inetNtop6 (addr : List UInt8) : ':' ∈ inetNtop6 addr := by
  have hgroups : ∀ count, 0 < count → ':' ∈ ip6Groups addr count := fun count hcount =>
    List.mem_flatMap.mpr ⟨0, List.mem_range.mpr hcount, by simp⟩
  have hfull : ':' ∈ ip6FullText addr := by
    rw [ip6FullText]
    split_ifs
    · exact List.mem_append_left _ (hgroups 6 (by decide))
    · exact List.mem_append_left _ (hgroups 7 (by decide))
  rw [inetNtop6]
  split_ifs
  · simp
  · exact hfull

theorem colon_mem_kernelIp6 (addr : List UInt8) : ':' ∈ kernelIp6 addr := by
  simp [kernelIp6, List.range_succ, List.intercalate, List.intersperse]

/-- The text of an address that netlink gives is not empty. -/
theorem CtAddr.ntopText_ne_nil {family : CtFamily} (addr : CtAddr family) : addr.ntopText ≠ [] := by
  cases family with
  | ipv4 => simp [ntopText, inetNtop4]
  | ipv6 => exact List.ne_nil_of_mem (colon_mem_inetNtop6 addr.bytes)

/-- The text of an address in a line is not empty. -/
theorem CtAddr.kernelText_ne_nil {family : CtFamily} (addr : CtAddr family) :
    addr.kernelText ≠ [] := by
  cases family with
  | ipv4 => simp [kernelText, inetNtop4]
  | ipv6 => exact List.ne_nil_of_mem (colon_mem_kernelIp6 addr.bytes)

/-- The sample that a share makes in an empty table shows the address, and the counts. -/
theorem lone_sample {nowMs : UInt64} {share share' : FlowShare}
    (h : GroupBy.step (shareGrouping nowMs) 1 [] share
      = GroupBy.step (shareGrouping nowMs) 1 [] share') :
    addClientIpUnique [] share.arp.ip = addClientIpUnique [] share'.arp.ip ∧
      share.tcp = share'.tcp ∧ share.udp = share'.udp := by
  have hsample : addShare nowMs share (newConntrackSample share)
      = addShare nowMs share' (newConntrackSample share') := (List.cons.inj h).1
  refine ⟨congrArg ConntrackClientSample.ips hsample, ?_, ?_⟩
  · have htcp := congrArg ConntrackClientSample.tcpConns hsample
    revert htcp
    rw [addShare, addShare]
    cases share.tcp <;> cases share'.tcp <;> simp [newConntrackSample]
  · have hudp := congrArg ConntrackClientSample.udpConns hsample
    revert hudp
    rw [addShare, addShare]
    cases share.udp <;> cases share'.udp <;> simp [newConntrackSample]

/-- Two addresses that fit leave the same list of addresses only when they are the same. -/
theorem addClientIpUnique_inj {ip ip' : CStr} (hne : ip ≠ []) (hne' : ip' ≠ [])
    (hfits : ip.length < ipStrLen) (hfits' : ip'.length < ipStrLen)
    (h : addClientIpUnique [] ip = addClientIpUnique [] ip') : ip = ip' := by
  have hone : ∀ ip : CStr, ip ≠ [] → ip.length < ipStrLen → addClientIpUnique [] ip = [ip] := by
    intro ip hne hfits
    have hroom : ¬ ([] : List CStr).length ≥ maxClientIps := by decide
    rw [addClientIpUnique, if_neg hne, if_neg List.not_mem_nil, if_neg hroom, List.nil_append,
      snprintf_of_fits hfits]
  rw [hone ip hne hfits, hone ip' hne' hfits'] at h
  exact (List.cons.inj h).1

/-- The two readers make the same contribution of an entry to every table if and only if the entry
is not accounted, or the texts that they have of its source belong to the same ARP row, and either
this is no row or the procfs reader does not miss the connection. -/
theorem conntrack_readers_agree_iff {file : ProcfsFile} {e : CtEntry} (line : ProcfsLine file e)
    (arp : List ArpEntry) (nowMs : UInt64) :
    (∀ (maxSamples : ℕ) (agg : FlowAggregate),
      (conntrackNetlinkDataCb { arp, maxSamples, nowMs } agg e.message).samples
        = (conntrackProcfsTurn { arp, maxSamples, nowMs } agg line.text).samples) ↔
    e.counters = none ∨
      findArpEntry arp e.origSrc.ntopText = findArpEntry arp e.origSrc.kernelText ∧
        (findArpEntry arp e.origSrc.kernelText = none ∨ ¬ e.MissedByProcfs file) := by
  simp only [samples_conntrackNetlinkDataCb, samples_conntrackProcfsTurn,
    e.netlink_share, line.share]
  cases hc : e.counters with
  | none => exact ⟨fun _ => Or.inl rfl, fun _ _ _ => rfl⟩
  | some c =>
    simp only [Option.bind_some, reduceCtorEq, false_or]
    constructor
    · intro h
      -- An empty table with room for one sample shows the difference.
      have h := h 1 {}
      cases hnet : findArpEntry arp e.origSrc.ntopText with
      | none =>
        cases hproc : findArpEntry arp e.origSrc.kernelText with
        | none => exact ⟨rfl, Or.inl rfl⟩
        | some row' =>
          rw [hnet, hproc] at h
          exact absurd h (List.cons_ne_nil _ _).symm
      | some row =>
        cases hproc : findArpEntry arp e.origSrc.kernelText with
        | none =>
          rw [hnet, hproc] at h
          exact absurd h (List.cons_ne_nil _ _)
        | some row' =>
          rw [hnet, hproc] at h
          obtain ⟨hips, htcp, hudp⟩ := lone_sample h
          have hrow : row.ip = e.origSrc.ntopText := (findArpEntry_mem hnet).2
          have hrow' : row'.ip = e.origSrc.kernelText := (findArpEntry_mem hproc).2
          have htexts : e.origSrc.ntopText = e.origSrc.kernelText := by
            refine addClientIpUnique_inj e.origSrc.ntopText_ne_nil e.origSrc.kernelText_ne_nil
              e.origSrc.length_ntopText_lt e.origSrc.length_kernelText_lt ?_
            rw [← hrow, ← hrow']
            exact hips
          refine ⟨by rw [← hnet, ← hproc, htexts], Or.inr fun hmissed => ?_⟩
          change e.netlinkTcp = e.procfsTcp file at htcp
          change (!e.netlinkTcp && e.proto.isUdp) = (!e.procfsTcp file && e.procfsUdp file) at hudp
          rcases e.counted_of_missed hmissed with ⟨hnetlink, hprocfs⟩ | ⟨hnetlink, hisUdp, hprocfs⟩
          · rw [hnetlink, hprocfs] at htcp
            exact Bool.false_ne_true htcp.symm
          · rw [hnetlink, hisUdp, hprocfs, Bool.and_false] at hudp
            exact Bool.false_ne_true hudp.symm
    · rintro ⟨hfind, hcounted⟩ maxSamples agg
      rw [hfind]
      rcases hcounted with hnone | hcounted
      · rw [hnone]
        rfl
      · obtain ⟨htcp, hudp⟩ := e.counted_of_not_missed hcounted
        rw [htcp, hudp]

/-- A TCP connection of the host 192.168.1.2 that the router forwards in software: its status has
`IPS_SEEN_REPLY`, `IPS_ASSURED`, `IPS_CONFIRMED` and `IPS_OFFLOAD`. -/
def offloadedEntry : CtEntry where
  family := .ipv4
  origSrc := ⟨[192, 168, 1, 2], rfl⟩
  origDst := ⟨[1, 1, 1, 1], rfl⟩
  replySrc := ⟨[1, 1, 1, 1], rfl⟩
  replyDst := ⟨[10, 0, 0, 2], rfl⟩
  proto := .tcp .established ⟨40000, 443⟩ ⟨443, 40000⟩
  status := 0x400e
  timeout := 0
  counters := some ⟨10, 1000, 8, 5000⟩
  marks := ["mark=0".toList, "use=2".toList]
  marks_other := by decide
  attrs_type := List.forall_mem_nil _

/-- Its line in `/proc/net/nf_conntrack`: the words with a blank behind each of them. -/
def offloadedLine : ProcfsLine .nfConntrack offloadedEntry where
  text := (offloadedEntry.words .nfConntrack).flatMap fun w => w ++ [' ']
  fits := by decide +kernel
  words_eq := tokens_flatMap rfl (by decide +kernel)

/-- The neighbour that the connection belongs to. -/
def offloadedHost : ArpEntry where
  ip := "192.168.1.2".toList
  mac := "02:00:00:00:00:02".toList
  ifname := "br-lan".toList
  zone := "lan".toList

/-- The readers do not agree on every entry: the netlink reader counts the offloaded connection. -/
theorem offloaded_connection_missed :
    ¬ ∀ (file : ProcfsFile) (e : CtEntry) (line : ProcfsLine file e) (arp : List ArpEntry)
        (nowMs : UInt64) (maxSamples : ℕ) (agg : FlowAggregate),
      (conntrackNetlinkDataCb { arp, maxSamples, nowMs } agg e.message).samples
        = (conntrackProcfsTurn { arp, maxSamples, nowMs } agg line.text).samples := by
  intro h
  have h := h .nfConntrack offloadedEntry offloadedLine [offloadedHost] 1000 1 {}
  have hfind :
      findArpEntry [offloadedHost] offloadedEntry.origSrc.ntopText = some offloadedHost := by
    decide
  have hfind' :
      findArpEntry [offloadedHost] offloadedEntry.origSrc.kernelText = some offloadedHost :=
    hfind
  rw [samples_conntrackNetlinkDataCb, samples_conntrackProcfsTurn, CtEntry.netlink_share,
    offloadedLine.share, hfind, hfind'] at h
  -- Only the netlink reader has a state for the connection.
  exact absurd (lone_sample h).2.1 (by decide)

end Lanspeed
