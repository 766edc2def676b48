import DlDsr.Lib.HashMap
import DlDsr.Lib.FirstOccurrence
import DlDsr.Lib.Walk
import DlDsr.Lib.Frontier
import DlDsr.Lib.Greatest
import DlDsr.Lib.Tickets
import DlDsr.Lib.Wrapping
import DlDsr.Lib.Overflow
import DlDsr.Lib.Renumbering
import DlDsr.Lib.Simulation
import DlDsr.Lib.MessageService
import DlDsr.Lib.Line
import DlDsr.Lib.Format
import DlDsr.Lib.Totals
import DlDsr.Core.Packet
import DlDsr.Core.Wire
import DlDsr.Core.Topology
import DlDsr.Core.Chain
import DlDsr.Core.Tables
import DlDsr.Core.Allocation
import DlDsr.Core.Route
import DlDsr.Core.FewestLinks
import DlDsr.Core.Recall
import DlDsr.Core.Marking
import DlDsr.Core.Metrics
import DlDsr.Core.Benchmark
import DlDsr.Node.Config
import DlDsr.Node.Protocol
import DlDsr.Node.Effects
import DlDsr.Node.Emissions
import DlDsr.Node.Events
import DlDsr.Node.Discovery
import DlDsr.Node.Requests
import DlDsr.Node.Retention
import DlDsr.Node.Uptake
import DlDsr.Node.Origination
import DlDsr.Node.Forwarding
import DlDsr.Node.Accounting
import DlDsr.Node.Fates
import DlDsr.Node.Reports
import DlDsr.Node.Rejections
import DlDsr.Node.Submissions
import DlDsr.Node.Episodes
import DlDsr.Node.Outsiders
import DlDsr.Node.Contacts
import DlDsr.Node.Replies
import DlDsr.Node.Retries
import DlDsr.Node.Rounds
import DlDsr.Node.Waiting
import DlDsr.Node.TickOrder
import DlDsr.Node.Checked
import DlDsr.Node.EventLoop
import DlDsr.Node.Commands
import DlDsr.Node.Daemon
import DlDsr.Node.Counters
import DlDsr.Network.Model
import DlDsr.Network.Steps
import DlDsr.Network.Termination
import DlDsr.Network.Duplicates
import DlDsr.Network.LoopFreedom
import DlDsr.Network.LabelPaths
import DlDsr.Network.MixedModes
import DlDsr.Network.PathBytes
import DlDsr.Network.Delivery
import DlDsr.Network.Conservation
import DlDsr.Network.Episodes
import DlDsr.Network.Flooding
import DlDsr.Network.Completeness
import DlDsr.Network.FloodBound
import DlDsr.Network.HopLimit
import DlDsr.Network.Handshake
import DlDsr.Network.EndToEnd
import DlDsr.Network.Recovery
import DlDsr.Network.Service
import DlDsr.Network.Transmissions
import DlDsr.Network.Sequences
import DlDsr.Network.Chains
import DlDsr.Network.Totals
import DlDsr.Network.Correspondence
import DlDsr.Network.Datagrams
import DlDsr.Network.Transport
import DlDsr.Network.WireSafety
