import EventPackets.Record.Kind

/-!
# Packet errors

Why a packet operation is refused, or a buffer is not a packet.

## Main definitions

* `LayoutFault` : how header and buffer contradict each other or the kind.
* `PacketError` : the causes of refusal.
* `PacketError.message` : their wording.
-/

namespace EventPackets

/-- How the header of a buffer contradicts the kind, the buffer, its own counters or the validity
marks. -/
inductive LayoutFault
  /-- event size and timestamp offset are not those of the kind -/
  | record (eventSize timestampOffset : Int32) (kind : Kind)
  /-- the header describes another number of bytes than there are -/
  | length (described held : Nat)
  /-- the event number or the valid count is negative -/
  | negativeCounters (number valid : Int32)
  /-- more events are valid than were written -/
  | validBeyondNumber (valid number : Int32)
  /-- a slot that was not written is marked valid -/
  | markBeyondNumber (slot : Nat) (number : Int32)
  /-- the valid count is not the number of marks -/
  | count (valid : Int32) (marked : Nat)
  /-- the event size of a stream's next header is not that of the kind -/
  | eventSize (eventSize : Int32) (kind : Kind)
  /-- capacity and event size of a stream's next header describe no packet -/
  | undescribed (capacity eventSize : Int32)
  deriving DecidableEq

/-- The wording of a layout fault. -/
def LayoutFault.message : LayoutFault → String
  | record size offset k =>
    s!"event size {size} and timestamp offset {offset} do not match {k.label} ({k.recordSize}, {k.timestampOffset})"
  | length described held =>
    s!"header describes {described} bytes, buffer holds {held}"
  | negativeCounters number valid =>
    s!"negative counters: number {number}, valid {valid}"
  | validBeyondNumber valid number =>
    s!"header counts {valid} valid events out of {number} written"
  | markBeyondNumber slot number =>
    s!"slot {slot} is marked valid beyond the {number} written events"
  | count valid marked =>
    s!"header counts {valid} valid events, {marked} are marked valid"
  | eventSize size k =>
    s!"event size {size} does not match {k.recordSize} bytes for {k.eventType.name} events"
  | undescribed capacity size =>
    s!"capacity {capacity} and event size {size} do not describe a packet"

/-- Why a packet operation is refused, or a buffer is not a packet. -/
inductive PacketError
  /-- a packet needs at least one slot -/
  | invalidCapacity (capacity : Int32)
  /-- capacity and record size describe no number of bytes -/
  | sizeOverflow (capacity : Int32) (kind : Kind)
  /-- the operation takes no negative value -/
  | negativeValue (setter : String) (value : Int)
  /-- the event is valid already -/
  | alreadyValid
  /-- the event is invalid already -/
  | alreadyInvalid
  /-- the buffer cannot hold a header -/
  | truncated (length : Nat)
  /-- the header names another event type -/
  | typeMismatch (expected found : Int16)
  /-- the header names an event type without a record layout -/
  | unsupportedType (found : Int16)
  /-- header and buffer do not fit together -/
  | invalidLayout (fault : LayoutFault)
  deriving DecidableEq

/-- The wording of a packet error. -/
def PacketError.message : PacketError → String
  | invalidCapacity capacity => s!"Invalid event capacity {capacity}, must be positive"
  | sizeOverflow capacity k =>
    s!"Packet of {capacity} events of {k.recordSize} bytes exceeds addressable memory"
  | negativeValue setter value => s!"Negative value {value} passed to {setter}()"
  | alreadyValid => "Event is already valid"
  | alreadyInvalid => "Event is already invalid"
  | truncated length => s!"Buffer of {length} bytes is too short for a packet header"
  | typeMismatch expected found => s!"Event type mismatch: expected {expected}, found {found}"
  | unsupportedType found => s!"Unsupported event type {found}"
  | invalidLayout fault => "Invalid packet layout: " ++ fault.message

end EventPackets
