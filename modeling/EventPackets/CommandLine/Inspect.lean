import EventPackets.CommandLine.Outcome
import EventPackets.PacketFile
import EventPackets.Text.Quoted

/-!
# Inspecting a packet file

The headers of the packets in a file, one line each, and the number of packets and bytes at the
end.

## Main definitions

* `InspectRow` : what is printed about a packet.
* `inspectRows` : the rows of packets back to back.
* `inspect` : the command.
-/

namespace EventPackets.CommandLine

/-- The names of the columns. -/
def columnNames : List String :=
  ["packet", "offset", "type", "source", "capacity", "number", "valid", "overflow", "bytes"]

/-- The widths of the columns. -/
def columnWidths : List Nat :=
  [6, 12, 8, 6, 10, 10, 10, 10, 12]

/-- A line of columns. -/
def inspectLine (cells : List String) : String :=
  " ".intercalate (List.zipWith Text.padLeft columnWidths cells) ++ "\n"

/-- What is printed about a packet. -/
structure InspectRow where
  /-- the number of the packet, from zero -/
  packet : Nat
  /-- the byte at which it starts -/
  offset : Nat
  kind : Kind
  source : Int16
  capacity : Int32
  number : Int32
  valid : Int32
  overflow : Int32
  /-- how many bytes it has -/
  bytes : Nat
  deriving DecidableEq

/-- What stands in the columns of a row. -/
def InspectRow.cells (r : InspectRow) : List String :=
  [toString r.packet, toString r.offset, r.kind.eventType.name, toString r.source.toInt,
    toString r.capacity.toInt, toString r.number.toInt, toString r.valid.toInt,
    toString r.overflow.toInt, toString r.bytes]

/-- The row of the packet with a number that starts at a byte. -/
def InspectRow.ofPacket (index offset : Nat) (p : AnyPacket) : InspectRow where
  packet := index
  offset := offset
  kind := p.kind
  source := p.packet.source
  capacity := p.packet.capacity
  number := p.packet.number
  valid := p.packet.validCount
  overflow := p.packet.overflow
  bytes := p.bytes.size

/-- The rows of packets back to back, from the packet with a number that starts at a byte. -/
def inspectRows (index offset : Nat) : List AnyPacket → List InspectRow
  | [] => []
  | p :: ps => .ofPacket index offset p :: inspectRows (index + 1) (offset + p.bytes.size) ps

/-- The bytes of packets back to back. -/
def totalSize (ps : List AnyPacket) : Nat :=
  ps.foldr (fun p n => p.bytes.size + n) 0

/-- Prints the headers of the packets in a file. -/
def inspect (input : String) (s : Storage) : Outcome :=
  match s.openPackets input with
  | .error e =>
    .failed "" "" ⟨"Failed to open packet file " ++ Text.quoted input, readCauses e⟩ s
  | .ok r =>
    let (ps, error, _) := r.packets
    let stdout := String.join
      ((columnNames :: (inspectRows 0 0 ps).map InspectRow.cells).map inspectLine)
    match error with
    | some e => .failed stdout "" ⟨"Failed to read packet file", readCauses e⟩ s
    | none => ⟨0, stdout, s!"\n{ps.length} packets, {totalSize ps} bytes\n", s⟩

end EventPackets.CommandLine
