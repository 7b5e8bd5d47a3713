import ArpProbe.Link.Wire
import ArpProbe.Main
import ArpProbe.Ping.Interleaving
import ArpProbe.Ping.Overtime
import ArpProbe.Proofs.Ping.Listening
import ArpProbe.Proofs.Ping.Overtime
import ArpProbe.Proofs.Ping.Script
import ArpProbe.Proofs.Ping.Outcome
import ArpProbe.Proofs.Ping.Delivery
import ArpProbe.Proofs.Ping.Progress
import ArpProbe.Proofs.Ping.Release
import ArpProbe.Proofs.Frame.Reading
import ArpProbe.Proofs.Packet.Refinement
import ArpProbe.Proofs.Ping.Schedule
import ArpProbe.Proofs.Frame.RoundTrip
import ArpProbe.Proofs.Packet.Lifecycle
import ArpProbe.Proofs.Packet.Provenance
import ArpProbe.Proofs.Call.Admission
import ArpProbe.Proofs.Call.Opening
import ArpProbe.Proofs.Call.Watching
import ArpProbe.Proofs.Frame.Correlation
import ArpProbe.Proofs.Ping.ForeignTraffic
import ArpProbe.Proofs.Host.Folding
import ArpProbe.Proofs.Call.Agreement
import ArpProbe.Proofs.Host.Search
import ArpProbe.Proofs.Ping.LongerTimeout
import ArpProbe.Proofs.Ping.Transcript
import ArpProbe.Proofs.Duration.Grammar
import ArpProbe.Proofs.Duration.Rejection
import ArpProbe.Proofs.Packet.Collection
import ArpProbe.Proofs.Report.Lines
import ArpProbe.Proofs.Command.ExitStatus
import ArpProbe.Proofs.Duration.Rounding
import ArpProbe.Proofs.Address.Hardware
import ArpProbe.Frame.Window
import ArpProbe.Proofs.Frame.Windows
import ArpProbe.Proofs.Frame.Extent
import ArpProbe.Packet.Buffer
import ArpProbe.Proofs.Frame.Editing
import ArpProbe.Proofs.Host.Grouping
import ArpProbe.Proofs.Packet.Receiving
import ArpProbe.Proofs.Packet.Opening
import ArpProbe.Proofs.Report.ReadBack
import ArpProbe.Proofs.Call.Announcing
import ArpProbe.Proofs.Address.Dotted
import ArpProbe.Proofs.Address.Compressed
import ArpProbe.Proofs.Address.Canonical
import ArpProbe.Proofs.Address.Given
import ArpProbe.Proofs.CommandLine.Parts
import ArpProbe.Proofs.CommandLine.AnyOrder
import ArpProbe.Packet.Polling
import ArpProbe.Proofs.Packet.Abandoning
import ArpProbe.Proofs.Host.Membership
