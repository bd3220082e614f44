import EventPackets.Header.View
import EventPackets.Packet.Basic

/-!
# Producing packets

A producer allocates a packet, opens its slots, fills in the fields of their records, and marks
the events valid or invalid.  Marking keeps the counters of the header up to date: the event
number goes up with every event that becomes valid, and the valid count follows the marks; both
stop at the limits of their width.

## Main definitions

* `Packet.allocate` : a packet of empty slots.
* `Packet.open?` : the slot with an index, if there is one.
* `Slot.setTimestamp`, `Slot.validate`, `Slot.invalidate` : the edits of a slot.
* `SlotCall`, `Call` : everything a producer can ask of a slot or a packet.
* `Call.perform` : the packet after a call, and the reply.
-/

namespace EventPackets

/-- One more, up to the limit of the width. -/
def succSaturating (n : Int32) : Int32 :=
  if n = Int32.maxValue then n else n + 1

/-- One less, down to the limit of the width. -/
def predSaturating (n : Int32) : Int32 :=
  if n = Int32.minValue then n else n - 1

namespace Slot

variable (k : Kind)

/-- Sets or clears the validity mark of slot `i`. -/
def putMark (i : Nat) (v : Bool) (b : Bytes) : Bytes :=
  b.setWord (start k i) (BitField.mark.set (b.word (start k i)) (if v then 1 else 0))

/-- Puts a timestamp into slot `i`, unless it is negative. -/
def setTimestamp (i : Nat) (t : Int32) : Edit Unit :=
  if t < 0 then
    Edit.refuse k.label "Called set_timestamp() with negative value!"
      (.negativeValue "set_timestamp" t.toInt)
  else modify fun b => b.setWord (start k i + k.timestampOffset) t.toUInt32

/-- Marks slot `i` valid, unless it is so already, and counts it. -/
def validate (i : Nat) : Edit Unit := do
  let b ← get
  if marked k b i then
    Edit.refuse k.label "Called validate() on already valid event." .alreadyValid
  else
    modify (putMark k i true)
    let b ← get
    let number := succSaturating (Header.number b)
    let valid := succSaturating (Header.valid b)
    Header.set .number number
    Header.set .valid valid

/-- Marks slot `i` invalid, unless it is so already, and no longer counts it as valid. -/
def invalidate (i : Nat) : Edit Unit := do
  let b ← get
  if marked k b i then
    modify (putMark k i false)
    let b ← get
    Header.set .valid (predSaturating (Header.valid b))
  else
    Edit.refuse k.label "Called invalidate() on already invalid event." .alreadyInvalid

end Slot

/-- What a producer can ask of an open slot. -/
inductive SlotCall (k : Kind)
  | write (w : k.Write)
  | setTimestamp (t : Int32)
  | validate
  | invalidate

/-- Carries out a call on slot `i`. -/
def SlotCall.edit {k : Kind} (i : Nat) : SlotCall k → Edit Unit
  | write w => modify (k.write w (Slot.start k i))
  | setTimestamp t => Slot.setTimestamp k i t
  | validate => Slot.validate k i
  | invalidate => Slot.invalidate k i

/-- What a producer can ask of a packet. -/
inductive Call (k : Kind)
  | slot (index : Int32) (c : SlotCall k)
  | setSource (v : Int16)
  | setOverflow (v : Int32)

/-- The answer to a call. -/
inductive Reply
  /-- the packet has no slot with the index -/
  | noSlot
  /-- the call is carried out -/
  | done
  /-- the call is refused -/
  | refused (cause : PacketError)
  deriving DecidableEq

/-- The answer to a call on a slot or packet that is there. -/
def Reply.ofResult : Except PacketError Unit → Reply
  | .ok () => done
  | .error cause => refused cause

/-- The bytes of a packet with `n` empty slots before its header is filled in. -/
def emptyBytes (k : Kind) (n : Nat) : Bytes :=
  Array.replicate (Header.size + n * k.recordSize) 0

/-- Fills in the header of a new packet.  A negative source or overflow counter is reported and
left at zero. -/
def fillHeader (k : Kind) (capacity : Int32) (source : Int16) (overflow : Int32) :
    Edit Unit := do
  Header.set .eventType k.eventType.id
  Header.set .eventSize (Int32.ofNat k.recordSize)
  Header.set .timestampOffset (Int32.ofNat k.timestampOffset)
  Header.set .capacity capacity
  tryCatch (Header.set .source source) fun _ => pure ()
  tryCatch (Header.set .overflow overflow) fun _ => pure ()

namespace Packet

/-- A packet with the given number of empty slots, as far as one buffer can hold them.  That the
machine has not enough memory for the buffer is left out. -/
def allocate (k : Kind) (capacity : Int32) (source : Int16) (overflow : Int32) :
    Reported (Except PacketError (Packet k)) :=
  if capacity ≤ 0 then do
    Reported.raise ⟨.critical, k.label,
      s!"Called allocate() with invalid capacity {capacity}, must be positive."⟩
    pure (.error (.invalidCapacity capacity))
  else
    match Header.addressable? (Header.size + capacity.toNatClampNeg * k.recordSize) with
    | none => do
      Reported.raise ⟨.critical, k.label,
        s!"Failed to allocate packet: {capacity} events of {k.recordSize} bytes overflow addressable memory."⟩
      pure (.error (.sizeOverflow capacity k))
    | some _ => do
      let (result, b) ← (fillHeader k capacity source overflow).on
        (emptyBytes k capacity.toNatClampNeg)
      pure (result.map fun _ => ⟨b⟩)

variable {k : Kind}

/-- The slot with an index, if there is one; if not, that is reported. -/
def open? (p : Packet k) (index : Int32) : Reported (Option Nat) :=
  if index < 0 ∨ p.capacity ≤ index then do
    Reported.raise ⟨.critical, k.label,
      s!"Called get_event() with invalid event offset {index}, while maximum allowed value is {p.capacity}."⟩
    pure none
  else pure (some index.toNatClampNeg)

/-- What the slot with an index holds, if there is one. -/
def event? (p : Packet k) (index : Int32) : Reported (Option (Event k)) := do
  let slot ← p.open? index
  pure (slot.map p.event)

/-- Carries out an edit on a packet. -/
def edit (p : Packet k) (e : Edit Unit) : Reported (Reply × Packet k) := do
  let (result, b) ← e.on p.bytes
  pure (.ofResult result, ⟨b⟩)

end Packet

/-- The answer to a call and the packet afterwards. -/
def Call.perform {k : Kind} (c : Call k) (p : Packet k) : Reported (Reply × Packet k) :=
  match c with
  | slot index c => do
    match ← p.open? index with
    | some i => p.edit (c.edit i)
    | none => pure (.noSlot, p)
  | setSource v => p.edit (Header.set .source v)
  | setOverflow v => p.edit (Header.set .overflow v)

/-- The answers to a sequence of calls and the packet afterwards. -/
def Call.performAll {k : Kind} : List (Call k) → Packet k → Reported (List Reply × Packet k)
  | [], p => pure ([], p)
  | c :: cs, p => do
    let (reply, p) ← c.perform p
    let (replies, p) ← performAll cs p
    pure (reply :: replies, p)

end EventPackets
