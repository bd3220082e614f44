import EventPackets.Header.Field
import EventPackets.Record.Kind

/-!
# Packets

A packet is a header followed by a fixed number of slots, each of which holds one record.  It is
one buffer of bytes, and the events are read out of it.  An event carries a timestamp of 31 bits
and its packet an overflow counter; together they make a timestamp of 64 bits.

## Main definitions

* `timestamp64` : the 64-bit timestamp.
* `Packet` : a packet of a kind.
* `Slot.start`, `Slot.marked`, `Slot.timestamp` : what all kinds of records have in common.
* `Event` : what a slot holds.
* `Packet.events`, `Packet.validEvents` : the events that a consumer visits.
* `Packet.describe` : a line about a packet.
-/

namespace EventPackets

/-- The 64-bit timestamp: the overflow counter above bit 31, joined with the timestamp below it.
Both are widened with their sign first, so a negative timestamp fills the upper bits. -/
def timestamp64 (overflow timestamp : Int32) : Int64 :=
  ((overflow.toInt64.toUInt64 <<< 31) ||| timestamp.toInt64.toUInt64).toInt64

/-- A packet of events of one kind, as the bytes it travels in. -/
@[ext]
structure Packet (k : Kind) where
  bytes : Bytes
  deriving DecidableEq

namespace Slot

/-- Where the record of slot `i` starts. -/
def start (k : Kind) (i : Nat) : Nat :=
  Header.size + i * k.recordSize

/-- The bytes of the record of slot `i`. -/
def record (k : Kind) (b : Bytes) (i : Nat) : Bytes :=
  b.slice (start k i) k.recordSize

/-- Whether slot `i` is marked valid. -/
def marked (k : Kind) (b : Bytes) (i : Nat) : Bool :=
  BitField.mark.get (b.word (start k i)) != 0

/-- The timestamp in slot `i`. -/
def timestamp (k : Kind) (b : Bytes) (i : Nat) : Int32 :=
  (b.word (start k i + k.timestampOffset)).toInt32

/-- The 64-bit timestamp of slot `i`. -/
def timestamp64 (k : Kind) (b : Bytes) (i : Nat) : Int64 :=
  EventPackets.timestamp64 (Header.overflow b) (timestamp k b i)

/-- An index for which a capacity has no slot, with both of them taken as integers. -/
theorem outside_iff {index capacity : Int32} :
    index < 0 ∨ capacity ≤ index ↔ index.toInt < 0 ∨ capacity.toInt ≤ index.toInt := by
  rw [Int32.lt_iff_toInt_lt, Int32.le_iff_toInt_le, Int32.toInt_zero]

end Slot

/-- What a slot of a packet holds. -/
structure Event (k : Kind) where
  slot : Nat
  valid : Bool
  timestamp : Int32
  timestamp64 : Int64
  data : k.Data
  deriving DecidableEq

/-- A line about an event. -/
def Event.describe {k : Kind} (e : Event k) : String :=
  s!"{k.label} \x7b index: {e.slot}, valid: {e.valid}, timestamp: {e.timestamp} \x7d"

namespace Packet

variable {k : Kind}

/-- How many slots the packet has. -/
def capacity (p : Packet k) : Int32 := Header.capacity p.bytes

/-- How often an event of the packet became valid. -/
def number (p : Packet k) : Int32 := Header.number p.bytes

/-- How many events of the packet are valid. -/
def validCount (p : Packet k) : Int32 := Header.valid p.bytes

/-- The number of the device that the events come from. -/
def source (p : Packet k) : Int16 := Header.source p.bytes

/-- The overflow counter, which all timestamps of the packet share. -/
def overflow (p : Packet k) : Int32 := Header.overflow p.bytes

/-- What slot `i` holds. -/
def event (p : Packet k) (i : Nat) : Event k where
  slot := i
  valid := Slot.marked k p.bytes i
  timestamp := Slot.timestamp k p.bytes i
  timestamp64 := Slot.timestamp64 k p.bytes i
  data := k.readData p.bytes (Slot.start k i)

/-- How many slots, counted from the first, a consumer visits. -/
def eventCount (p : Packet k) : Nat :=
  min p.number.toNatClampNeg p.capacity.toNatClampNeg

/-- The events that a consumer visits, by slot. -/
def events (p : Packet k) : List (Event k) :=
  (List.range p.eventCount).map p.event

/-- The valid ones among the events that a consumer visits. -/
def validEvents (p : Packet k) : List (Event k) :=
  p.events.filter Event.valid

/-- A line about the packet. -/
def describe (p : Packet k) : String :=
  s!"EventPacket \x7b kind: \"{k.label}\", source: {p.source}, capacity: {p.capacity}, number: {p.number}, valid: {p.validCount}, ts_overflow: {p.overflow} \x7d"

end Packet

end EventPackets
