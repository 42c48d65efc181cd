import Lanspeed.Datapath
import Lanspeed.Lib.Word
import Lanspeed.Lib.CText

/-!
# Conntrack flows

The two readers of the connection tracking table make the same record of a flow,
`ConntrackFlowSample`: `parse_conntrack_procfs_line` from the words of a line, counting them by
position, and `conntrack_netlink_data_cb` from the nested attributes of a ctnetlink message.
-/

namespace Lanspeed

open CText Bytes

/-- `struct conntrack_flow_sample`. -/
structure ConntrackFlowSample where
  origSrc : CStr := []
  origBytes : UInt64 := 0
  replyBytes : UInt64 := 0
  origSport : UInt16 := 0
  origDport : UInt16 := 0
  replySport : UInt16 := 0
  replyDport : UInt16 := 0
  hasOrigSrc : Bool := false
  hasOrigBytes : Bool := false
  protocol : CStr := []
  tcpState : CStr := []
  assured : Bool := false
  isTcp : Bool := false
  isUdp : Bool := false
  udpIsDns : Bool := false
deriving DecidableEq, Repr

/-- A UDP flow has one of its four ports at 53. -/
def ConntrackFlowSample.hasDnsPort (flow : ConntrackFlowSample) : Bool :=
  flow.isUdp && (flow.origSport == 53 || flow.origDport == 53 ||
    flow.replySport == 53 || flow.replyDport == 53)

/-! ## The procfs reader -/

/-- `CONNTRACK_LINE_MAX`. -/
def conntrackLineMax : ℕ := 1024

/-- The delimiters `" \t\r\n"`. -/
def isConntrackDelim (c : Char) : Bool := c == ' ' || c == '\t' || c == '\r' || c == '\n'

/-- The variables of the loop of `parse_conntrack_procfs_line`. -/
structure ProcfsParse where
  flow : ConntrackFlowSample := {}
  srcIndex : ℕ := 0
  sportIndex : ℕ := 0
  dportIndex : ℕ := 0
  bytesIndex : ℕ := 0
  tokenIndex : ℕ := 0
deriving DecidableEq, Repr

/-- The port behind `sport=` or `dport=`: what `strtoul` reads, unless it is above `UINT16_MAX`. -/
def portOf (text : CStr) : Option UInt16 :=
  match strtoull text with
  | some n => if n ≤ 65535 then some (UInt16.ofNat n) else none
  | none => none

/-- The first two tests of the loop body: the protocol and the TCP state have fixed positions. -/
def ProcfsParse.position (p : ProcfsParse) (token : CStr) : ConntrackFlowSample :=
  if p.tokenIndex = 2 then
    { p.flow with
      protocol := snprintf 8 token
      isTcp := token == "tcp".toList
      isUdp := token == "udp".toList }
  else if p.tokenIndex = 5 ∧ p.flow.isTcp then { p.flow with tcpState := snprintf 16 token }
  else p.flow

/-- The chain of tests for a key at the start of a token. -/
def ProcfsParse.keyed (p : ProcfsParse) (token : CStr) : ProcfsParse :=
  if startsWith token "src=".toList then
    { p with
      flow := if p.srcIndex = 0 then
          { p.flow with origSrc := snprintf ipStrLen (token.drop 4), hasOrigSrc := true }
        else p.flow
      srcIndex := p.srcIndex + 1 }
  else if startsWith token "sport=".toList then
    { p with
      flow := match portOf (token.drop 6) with
        | some port =>
          if p.sportIndex = 0 then { p.flow with origSport := port }
          else if p.sportIndex = 1 then { p.flow with replySport := port }
          else p.flow
        | none => p.flow
      sportIndex := p.sportIndex + 1 }
  else if startsWith token "dport=".toList then
    { p with
      flow := match portOf (token.drop 6) with
        | some port =>
          if p.dportIndex = 0 then { p.flow with origDport := port }
          else if p.dportIndex = 1 then { p.flow with replyDport := port }
          else p.flow
        | none => p.flow
      dportIndex := p.dportIndex + 1 }
  else if startsWith token "bytes=".toList then
    match strtoull (token.drop 6) with
    -- The source continues with the next token, and does not count this one.
    | none => p
    | some value =>
      { p with
        flow := if p.bytesIndex = 0 then
            { p.flow with origBytes := UInt64.ofNat value, hasOrigBytes := true }
          else if p.bytesIndex = 1 then { p.flow with replyBytes := UInt64.ofNat value }
          else p.flow
        bytesIndex := p.bytesIndex + 1 }
  else if token = "[ASSURED]".toList then { p with flow := { p.flow with assured := true } }
  else p

/-- One turn of the loop of `parse_conntrack_procfs_line`. -/
def ProcfsParse.turn (p : ProcfsParse) (token : CStr) : ProcfsParse :=
  let p := ProcfsParse.keyed { p with flow := p.position token } token
  { p with tokenIndex := p.tokenIndex + 1 }

/-- `parse_conntrack_procfs_line`: the flow, when the function returns true. -/
def parseConntrackProcfsLine (line : CStr) : Option ConntrackFlowSample :=
  let buffer := snprintf conntrackLineMax line
  let p := (tokens isConntrackDelim buffer).foldl ProcfsParse.turn {}
  let flow := { p.flow with udpIsDns := p.flow.hasDnsPort }
  if flow.hasOrigSrc && flow.hasOrigBytes then some flow else none

/-! ## The netlink reader -/

/-- A netlink attribute under its type, with the flag bits that `NLA_TYPE_MASK` takes away left out.
The payload is a list of attributes, or bytes. -/
inductive NlAttr where
  | nest (type : ℕ) (attrs : List NlAttr)
  | data (type : ℕ) (payload : List UInt8)
deriving Repr

/-- `mnl_attr_get_type`. -/
def NlAttr.type : NlAttr → ℕ
  | .nest type _ => type
  | .data type _ => type

/-- The attributes that `mnl_attr_parse_nested` goes through. -/
def NlAttr.attrs : NlAttr → List NlAttr
  | .nest _ attrs => attrs
  | .data _ _ => []

/-- The bytes that `mnl_attr_get_payload` points to. -/
def NlAttr.payload : NlAttr → List UInt8
  | .nest _ _ => []
  | .data _ payload => payload

/-- The number that the first `width` bytes of a payload hold in network byte order
(`ntohs(mnl_attr_get_u16(…))` and the like). -/
def NlAttr.be (width : ℕ) (attr : NlAttr) : ℕ := beValue (attr.payload.take width)

/-- The entry of the table that `conntrack_store_attr_cb` fills: the last attribute of the type. The
callback never stops the parse. -/
def storedAttr (attrs : List NlAttr) (type : ℕ) : Option NlAttr :=
  attrs.reverse.find? (·.type == type)

/-- `enum tcp_conntrack`, the states that the kernel stores in an entry. -/
inductive TcpConntrack where
  | none
  | synSent
  | synRecv
  | established
  | finWait
  | closeWait
  | lastAck
  | timeWait
  | close
  | synSent2
deriving DecidableEq, Repr

/-- The number of a state. -/
def TcpConntrack.number : TcpConntrack → ℕ
  | .none => 0
  | .synSent => 1
  | .synRecv => 2
  | .established => 3
  | .finWait => 4
  | .closeWait => 5
  | .lastAck => 6
  | .timeWait => 7
  | .close => 8
  | .synSent2 => 9

/-- `conntrack_tcp_state_name`. -/
def conntrackTcpStateName (state : ℕ) : CStr :=
  if state = TcpConntrack.established.number then "ESTABLISHED".toList
  else if state = TcpConntrack.synSent.number then "SYN_SENT".toList
  else if state = TcpConntrack.synRecv.number then "SYN_RECV".toList
  else if state = TcpConntrack.finWait.number then "FIN_WAIT".toList
  else if state = TcpConntrack.closeWait.number then "CLOSE_WAIT".toList
  else if state = TcpConntrack.lastAck.number then "LAST_ACK".toList
  else if state = TcpConntrack.timeWait.number then "TIME_WAIT".toList
  else if state = TcpConntrack.close.number then "CLOSE".toList
  else []

/-- `inet_ntop(AF_INET, …)`. -/
def inetNtop4 (addr : List UInt8) : CStr :=
  decimal (addr.getD 0 0).toNat ++ '.' :: decimal (addr.getD 1 0).toNat ++
    '.' :: decimal (addr.getD 2 0).toNat ++ '.' :: decimal (addr.getD 3 0).toNat

/-- `%x`. -/
def hexadecimal (n : ℕ) : CStr := Nat.toDigits 16 n

/-- The 16-bit group at an index of an IPv6 address. -/
def ip6Group (addr : List UInt8) (i : ℕ) : ℕ :=
  256 * (addr.getD (2 * i) 0).toNat + (addr.getD (2 * i + 1) 0).toNat

/-- The texts of the groups with an index below `count`, each with a colon behind it. -/
def ip6Groups (addr : List UInt8) (count : ℕ) : CStr :=
  (List.range count).flatMap fun i => hexadecimal (ip6Group addr i) ++ [':']

/-- An IPv6 address with all its groups; the last two are an IPv4 address in a mapped one. -/
def ip6FullText (addr : List UInt8) : CStr :=
  if addr.take 12 = [0, 0, 0, 0, 0, 0, 0, 0, 0, 0, 0xff, 0xff] then
    ip6Groups addr 6 ++ inetNtop4 (addr.drop 12)
  else ip6Groups addr 7 ++ hexadecimal (ip6Group addr 7)

/-- The length of the run of zeros and colons at an index that can start one: the first of the
longest runs is kept, with its start. -/
def ip6BestRun (text : CStr) : ℕ × ℕ :=
  (List.range text.length).foldl
    (fun best i =>
      if 0 < i ∧ text.getD i '0' ≠ ':' then best
      else
        let run := ((text.drop i).takeWhile fun c => c == ':' || c == '0').length
        if best.2 < run then (i, run) else best)
    (0, 2)

/-- `inet_ntop(AF_INET6, …)`: the longest run of zero groups becomes `::`. -/
def inetNtop6 (addr : List UInt8) : CStr :=
  let text := ip6FullText addr
  let best := ip6BestRun text
  if 3 < best.2 then text.take best.1 ++ ':' :: ':' :: text.drop (best.1 + best.2) else text

/-- The text in a buffer of `IP_STR_LEN`; `none` is the null pointer of `inet_ntop`. -/
def ipStr (text : CStr) : Option CStr := if text.length < ipStrLen then some text else none

/-- The part of `conntrack_netlink_parse_tuple` that reads the source address of the original tuple;
`none` is its `return false`. -/
def parseTupleSource (ip : List NlAttr) (flow : ConntrackFlowSample) : Option ConntrackFlowSample :=
  -- `CTA_IP_V4_SRC`, then `CTA_IP_V6_SRC`.
  match storedAttr ip 1, storedAttr ip 3 with
  | some src, _ =>
    (ipStr (inetNtop4 src.payload)).map fun text =>
      { flow with origSrc := text, hasOrigSrc := true }
  | none, some src =>
    (ipStr (inetNtop6 src.payload)).map fun text =>
      { flow with origSrc := text, hasOrigSrc := true }
  | none, none => some flow

/-- The part of `conntrack_netlink_parse_tuple` that reads the protocol number. -/
def parseTupleProto (proto : List NlAttr) (flow : ConntrackFlowSample) : ConntrackFlowSample :=
  -- `CTA_PROTO_NUM`
  match storedAttr proto 1 with
  | none => flow
  | some num =>
    if num.be 1 = ipprotoTcp.toNat then { flow with protocol := "tcp".toList, isTcp := true }
    else if num.be 1 = ipprotoUdp.toNat then { flow with protocol := "udp".toList, isUdp := true }
    else { flow with protocol := snprintf 8 (decimal (num.be 1)) }

/-- The part of `conntrack_netlink_parse_tuple` that reads the ports. -/
def parseTuplePorts (proto : List NlAttr) (original : Bool) (flow : ConntrackFlowSample) :
    ConntrackFlowSample :=
  -- `CTA_PROTO_SRC_PORT`
  let flow := match storedAttr proto 2 with
    | none => flow
    | some attr =>
      if original then { flow with origSport := UInt16.ofNat (attr.be 2) }
      else { flow with replySport := UInt16.ofNat (attr.be 2) }
  -- `CTA_PROTO_DST_PORT`
  match storedAttr proto 3 with
  | none => flow
  | some attr =>
    if original then { flow with origDport := UInt16.ofNat (attr.be 2) }
    else { flow with replyDport := UInt16.ofNat (attr.be 2) }

/-- `conntrack_netlink_parse_tuple`: the flow that it leaves, and whether it returns true. -/
def conntrackNetlinkParseTuple (attr : NlAttr) (flow : ConntrackFlowSample) (original : Bool) :
    ConntrackFlowSample × Bool :=
  -- `CTA_TUPLE_IP` and `CTA_TUPLE_PROTO`
  match storedAttr attr.attrs 1, storedAttr attr.attrs 2 with
  | some ip, some proto =>
    match if original then parseTupleSource ip.attrs flow else some flow with
    | none => (flow, false)
    | some flow => (parseTuplePorts proto.attrs original (parseTupleProto proto.attrs flow), true)
  | _, _ => (flow, false)

/-- `conntrack_netlink_parse_counters`: the bytes, where it returns true. -/
def conntrackNetlinkParseCounters (attr : NlAttr) : Option UInt64 :=
  -- `CTA_COUNTERS_BYTES`, then `CTA_COUNTERS32_BYTES`.
  match storedAttr attr.attrs 2, storedAttr attr.attrs 4 with
  | some bytes, _ => some (UInt64.ofNat (bytes.be 8))
  | none, some bytes => some (UInt64.ofNat (bytes.be 4))
  | none, none => none

/-- `conntrack_netlink_parse_protoinfo`. -/
def conntrackNetlinkParseProtoinfo (attr : NlAttr) (flow : ConntrackFlowSample) :
    ConntrackFlowSample :=
  -- `CTA_PROTOINFO_TCP`, and `CTA_PROTOINFO_TCP_STATE` in it.
  match storedAttr attr.attrs 1 with
  | none => flow
  | some tcp =>
    match storedAttr tcp.attrs 1 with
    | none => flow
    | some state => { flow with tcpState := snprintf 16 (conntrackTcpStateName (state.be 1)) }

/-- The rest of `conntrack_netlink_data_cb` once the original tuple and its counter are read. -/
def conntrackNetlinkComplete (tb : List NlAttr) (flow : ConntrackFlowSample) :
    ConntrackFlowSample :=
  -- `CTA_COUNTERS_REPLY`
  let flow := match storedAttr tb 10 with
    | none => flow
    | some attr =>
      match conntrackNetlinkParseCounters attr with
      | none => flow
      | some bytes => { flow with replyBytes := bytes }
  -- `CTA_STATUS`, and its bit `IPS_ASSURED`.
  let flow := match storedAttr tb 3 with
    | none => flow
    | some status => { flow with assured := (status.be 4).testBit 2 }
  -- `CTA_PROTOINFO`
  let flow := match storedAttr tb 4 with
    | none => flow
    | some attr => conntrackNetlinkParseProtoinfo attr flow
  let flow := if flow.isTcp && flow.tcpState.isEmpty then
      { flow with
        tcpState := snprintf 16 (conntrackTcpStateName TcpConntrack.established.number) }
    else flow
  { flow with udpIsDns := flow.hasDnsPort }

/-- The flow that `conntrack_netlink_data_cb` hands to the aggregation; `none` where it counts a
malformed line and returns. -/
def conntrackNetlinkFlow (tb : List NlAttr) : Option ConntrackFlowSample :=
  -- `CTA_TUPLE_ORIG` and `CTA_COUNTERS_ORIG`
  match storedAttr tb 1, storedAttr tb 9 with
  | some orig, some counters =>
    let (flow, ok) := conntrackNetlinkParseTuple orig {} true
    if !ok then none
    else
      -- `CTA_TUPLE_REPLY`; a tuple that cannot be parsed is left out.
      let flow := match storedAttr tb 2 with
        | none => flow
        | some reply => (conntrackNetlinkParseTuple reply flow false).1
      match conntrackNetlinkParseCounters counters with
      | none => none
      | some bytes =>
        some (conntrackNetlinkComplete tb { flow with origBytes := bytes, hasOrigBytes := true })
  | _, _ => none

end Lanspeed
