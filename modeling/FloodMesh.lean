import FloodMesh.Address
import FloodMesh.Bell
import FloodMesh.Bytes
import FloodMesh.Cache
import FloodMesh.Channel
import FloodMesh.Checksum
import FloodMesh.Config
import FloodMesh.Config.Document
import FloodMesh.Config.Environment
import FloodMesh.Config.File
import FloodMesh.Console
import FloodMesh.Daemon
import FloodMesh.Decimal.Double
import FloodMesh.Depot
import FloodMesh.Ether
import FloodMesh.Field
import FloodMesh.File.Path
import FloodMesh.File.Tree
import FloodMesh.Fingerprint
import FloodMesh.Forwarder
import FloodMesh.Host
import FloodMesh.Inbox
import FloodMesh.Interface
import FloodMesh.Json
import FloodMesh.Json.Naming
import FloodMesh.Json.Printer
import FloodMesh.Json.Reader
import FloodMesh.Main
import FloodMesh.Medium
import FloodMesh.Mesh
import FloodMesh.Node
import FloodMesh.Notice
import FloodMesh.Packet
import FloodMesh.Packet.Filling
import FloodMesh.Packet.Frame
import FloodMesh.Poll
import FloodMesh.Poll.Cycle
import FloodMesh.Poll.Request
import FloodMesh.Probe
import FloodMesh.Probe.Simulated
import FloodMesh.Proofs.Accounting
import FloodMesh.Proofs.Air
import FloodMesh.Proofs.AllOrNothing
import FloodMesh.Proofs.AtMostOnce
import FloodMesh.Proofs.Attestation
import FloodMesh.Proofs.Backlog
import FloodMesh.Proofs.Bureau
import FloodMesh.Proofs.Characters
import FloodMesh.Proofs.Closing
import FloodMesh.Proofs.Codec
import FloodMesh.Proofs.Collector
import FloodMesh.Proofs.Conservation
import FloodMesh.Proofs.Counting
import FloodMesh.Proofs.Courier
import FloodMesh.Proofs.Course
import FloodMesh.Proofs.Damage
import FloodMesh.Proofs.Defaults
import FloodMesh.Proofs.Delivery
import FloodMesh.Proofs.Disk
import FloodMesh.Proofs.Document
import FloodMesh.Proofs.Echo
import FloodMesh.Proofs.Fate
import FloodMesh.Proofs.FifoSet
import FloodMesh.Proofs.Filing
import FloodMesh.Proofs.FirstStart
import FloodMesh.Proofs.FloodEnd
import FloodMesh.Proofs.Footing
import FloodMesh.Proofs.Framing
import FloodMesh.Proofs.Grammar
import FloodMesh.Proofs.Growth
import FloodMesh.Proofs.Guards
import FloodMesh.Proofs.InPlace
import FloodMesh.Proofs.KnownList
import FloodMesh.Proofs.LastFault
import FloodMesh.Proofs.Life
import FloodMesh.Proofs.Lifespan
import FloodMesh.Proofs.Listening
import FloodMesh.Proofs.Memory
import FloodMesh.Proofs.NodeViews
import FloodMesh.Proofs.Numbering
import FloodMesh.Proofs.Overlong
import FloodMesh.Proofs.Parents
import FloodMesh.Proofs.Precedence
import FloodMesh.Proofs.Provenance
import FloodMesh.Proofs.Punctual
import FloodMesh.Proofs.Query
import FloodMesh.Proofs.Quoting
import FloodMesh.Proofs.Reach
import FloodMesh.Proofs.Reception
import FloodMesh.Proofs.Reload
import FloodMesh.Proofs.Replacement
import FloodMesh.Proofs.Roster
import FloodMesh.Proofs.Rows
import FloodMesh.Proofs.SecondCopy
import FloodMesh.Proofs.Siblings
import FloodMesh.Proofs.Spelling
import FloodMesh.Proofs.Spread
import FloodMesh.Proofs.Suppression
import FloodMesh.Proofs.Traffic
import FloodMesh.Proofs.WakeUp
import FloodMesh.Proofs.WrapAround
import FloodMesh.Proofs.WriteThrough
import FloodMesh.Queue
import FloodMesh.Radio
import FloodMesh.RelayLoop
import FloodMesh.Ring
import FloodMesh.Scenario.Decode
import FloodMesh.Scenario.Encode
import FloodMesh.Scenario.Failure
import FloodMesh.Scenario.Masked
import FloodMesh.Scenario.Session
import FloodMesh.Scenario.Workplace
import FloodMesh.Sha256
import FloodMesh.Snapshot
import FloodMesh.Snapshot.File
import FloodMesh.Soil
import FloodMesh.StatusTable
import FloodMesh.StatusView
import FloodMesh.Text.Percent
import FloodMesh.Text.Pieces
import FloodMesh.Text.Quoted
import FloodMesh.Text.Report
import FloodMesh.Text.Utf8
import FloodMesh.Timeline
import FloodMesh.Toml
import FloodMesh.Toml.Assembly
import FloodMesh.Toml.Printer
import FloodMesh.Toml.Reader
import FloodMesh.Toml.Scalars
import FloodMesh.Toml.Strings
import FloodMesh.Uplink
import FloodMesh.WaitRoom
import FloodMesh.Waiter
import FloodMesh.Watch
