import EventPackets.Diagnostics.Report
import EventPackets.Packet.Basic

/-!
# Generic access

A record of any buffer with a header can be read without knowing its event type: the header says
how long a record is and where its timestamp stands.  Nothing about the buffer is taken for
granted, so a record that its bytes do not hold is not found.

## Main definitions

* `GenericEvent` : what a record says to a consumer that does not know its type.
* `GenericEvent.locate?` : the bytes of the record with an index.
* `GenericEvent.get?` : the event with an index.
-/

namespace EventPackets

/-- What a record says to a consumer that does not know its event type. -/
structure GenericEvent where
  valid : Bool
  timestamp : Int32
  timestamp64 : Int64
  record : Bytes
  deriving DecidableEq

/-- Where a record stands in its buffer. -/
structure RecordSpan where
  /-- the position of its first byte -/
  start : Nat
  /-- how many bytes it has -/
  length : Nat
  /-- where its timestamp stands in it -/
  timestampOffset : Nat
  deriving DecidableEq

namespace GenericEvent

/-- The part of the codec that reports misuse of generic access. -/
def subsystem : String := "Generic Event"

/-- The span of the record with index `i` according to the header, if the buffer holds it and it
holds a timestamp. -/
def span? (b : Bytes) (i : Nat) : Option RecordSpan :=
  let size := (Header.eventSize b).toInt
  let offset := (Header.timestampOffset b).toInt
  if size < 0 ∨ offset < 0 then none
  else
    let start := Header.size + i * size.toNat
    if b.size < start + size.toNat ∨ size < offset + 4 then none
    else some ⟨start, size.toNat, offset.toNat⟩

/-- The span of the record with an index.  An index outside the capacity is reported. -/
def locate? (b : Bytes) (index : Int32) : Reported (Option RecordSpan) :=
  if b.size < Header.size then pure none
  else
    let capacity := Header.capacity b
    if index < 0 ∨ capacity ≤ index then do
      Reported.raise ⟨.critical, subsystem,
        s!"Called GenericEvent::get() with invalid event offset {index}, while maximum allowed value is {capacity}. Negative values are not allowed!"⟩
      pure none
    else pure (span? b index.toNatClampNeg)

/-- What the record in a span says. -/
def read (b : Bytes) (s : RecordSpan) : GenericEvent :=
  let timestamp := (b.word (s.start + s.timestampOffset)).toInt32
  { valid := (b.byteAt s.start) &&& 1 != 0
    timestamp := timestamp
    timestamp64 := EventPackets.timestamp64 (Header.overflow b) timestamp
    record := b.slice s.start s.length }

/-- The event with an index in any buffer, if the buffer holds it. -/
def get? (b : Bytes) (index : Int32) : Reported (Option GenericEvent) := do
  let span ← locate? b index
  pure (span.map (read b))

end GenericEvent

end EventPackets
