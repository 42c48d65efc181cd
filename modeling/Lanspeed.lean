import Lanspeed.Lib.Machine
import Lanspeed.Lib.Word
import Lanspeed.Lib.RingBuffer
import Lanspeed.Lib.Keyed
import Lanspeed.Lib.Slots
import Lanspeed.Lib.BucketMap
import Lanspeed.Lib.SampledCounters
import Lanspeed.Lib.Loop
import Lanspeed.Lib.History
import Lanspeed.Lib.CText
import Lanspeed.Lib.GroupBy
import Lanspeed.Lib.Interleave
import Lanspeed.Lib.Js
import Lanspeed.Lib.JsText
import Lanspeed.Identity
import Lanspeed.InterfaceLists
import Lanspeed.IfaceConfig
import Lanspeed.PageSession
import Lanspeed.RefreshLoop
import Lanspeed.Datapath
import Lanspeed.Cpus
import Lanspeed.MapReader
import Lanspeed.MapWalk
import Lanspeed.State
import Lanspeed.Arp
import Lanspeed.BpfFold
import Lanspeed.Zones
import Lanspeed.Probe
import Lanspeed.Inspect
import Lanspeed.Rates
import Lanspeed.Overview
import Lanspeed.BpfRates
import Lanspeed.ClientLimit
import Lanspeed.FoldOrder
import Lanspeed.Traffic
import Lanspeed.Activity
import Lanspeed.Snapshots
import Lanspeed.Anomaly
import Lanspeed.Coverage
import Lanspeed.Conntrack.Flow
import Lanspeed.Conntrack.Aggregate
import Lanspeed.Conntrack.Read
import Lanspeed.Conntrack.Fallback
import Lanspeed.Conntrack.Procfs
import Lanspeed.Conntrack.Entry
import Lanspeed.Conntrack.Decode
import Lanspeed.Conntrack.RoundTrip
import Lanspeed.Conntrack.Agreement
import Lanspeed.Nss
import Lanspeed.NssDump
import Lanspeed.NssRates
import Lanspeed.ClientTables
import Lanspeed.Conntrack.GroupSpec
import Lanspeed.Upstream
import Lanspeed.FlowGrowth
import Lanspeed.Methods
import Lanspeed.CoverageSources
import Lanspeed.Rings
import Lanspeed.IpZones
import Lanspeed.ConnMerge
import Lanspeed.InterfaceRates
import Lanspeed.TcFilters
import Lanspeed.Paths
import Lanspeed.Status
import Lanspeed.StatusClients
import Lanspeed.UdpSplit
import Lanspeed.Frontend
import Lanspeed.Tc.Kernel
import Lanspeed.Tc.Loader
import Lanspeed.Tc.Effects
import Lanspeed.Tc.Runtime
import Lanspeed.Tc.Calls
import Lanspeed.Tc.Policy
import Lanspeed.Tc.Shutdown
import Lanspeed.Tc.InitScript
import Lanspeed.Tc.Recovery
import Lanspeed.Tc.SelfHeal
import Lanspeed.Tc.Foreign
import Lanspeed.Tc.Gate
import Lanspeed.Connections
import Lanspeed.Lib.CappedMap
import Lanspeed.Lib.Fields
import Lanspeed.Hostnames
import Lanspeed.Config
import Lanspeed.RateRange
import Lanspeed.LiveMap
import Lanspeed.LiveRates
import Lanspeed.LiveCoverage
import Lanspeed.LiveFrames
import Lanspeed.MacGrammar
import Lanspeed.SettingsPage
import Lanspeed.HostnameAge
