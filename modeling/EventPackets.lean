import EventPackets.CommandLine.Invocation
import EventPackets.Csv.Reading
import EventPackets.Header.View
import EventPackets.Main
import EventPackets.Packet.Description
import EventPackets.Packet.Records
import EventPackets.Packet.Session
import EventPackets.Proofs.Bytes.Digits
import EventPackets.Proofs.CommandLine.Dump
import EventPackets.Proofs.CommandLine.Inspect
import EventPackets.Proofs.CommandLine.Synth
import EventPackets.Proofs.Csv.Cells
import EventPackets.Proofs.Csv.Export
import EventPackets.Proofs.Csv.FieldOrder
import EventPackets.Proofs.Csv.Measurements
import EventPackets.Proofs.Csv.Rows
import EventPackets.Proofs.Csv.Text
import EventPackets.Proofs.Diagnostics.Severity
import EventPackets.Proofs.Header.View
import EventPackets.Proofs.Packet.Chronology
import EventPackets.Proofs.Packet.Counters
import EventPackets.Proofs.Packet.Creation
import EventPackets.Proofs.Packet.Diagnostics
import EventPackets.Proofs.Packet.GenericAccess
import EventPackets.Proofs.Packet.GenericBounds
import EventPackets.Proofs.Packet.Identity
import EventPackets.Proofs.Packet.Interleaving
import EventPackets.Proofs.Packet.Iteration
import EventPackets.Proofs.Packet.Layout
import EventPackets.Proofs.Packet.Recipe
import EventPackets.Proofs.Packet.Records
import EventPackets.Proofs.Packet.Refinement
import EventPackets.Proofs.Packet.Rejection
import EventPackets.Proofs.Packet.RoundTrip
import EventPackets.Proofs.Packet.Step
import EventPackets.Proofs.Packet.Writes
import EventPackets.Proofs.PacketFile
import EventPackets.Proofs.Record.Polarity
import EventPackets.Proofs.Scripting.Failure
import EventPackets.Proofs.Stream.Decoders
import EventPackets.Proofs.Stream.Flushing
import EventPackets.Proofs.Stream.Framing
import EventPackets.Proofs.Stream.Independence
import EventPackets.Proofs.Stream.Offset
import EventPackets.Proofs.Stream.Progress
import EventPackets.Proofs.Stream.Tail
import EventPackets.Proofs.Text.Letters
import EventPackets.Proofs.Text.Split
import EventPackets.Proofs.Timestamp
import EventPackets.Scripting.Script
