import EventPackets.Packet.Basic
import EventPackets.Packet.Error

/-!
# Decoding packets

A buffer is a packet of a kind if its header names the kind and its layout, describes exactly
the bytes that are there, and counts exactly the slots that are marked valid.

## Main definitions

* `Packet.fault?` : the first reason why a buffer is not a packet of a kind.
* `Packet.ofBytes` : the packet that a buffer is.

## Main results

* `Packet.ofBytes_eq_ok_iff` : a packet is decoded from its own bytes, if they have no fault,
  and from no others.
-/

namespace EventPackets.Packet

/-- The slots marked valid among the first `n`. -/
def markedSlots (k : Kind) (b : Bytes) (n : Nat) : List Nat :=
  (List.range n).filter (Slot.marked k b)

/-- The first contradiction between the counters of the header and the marks of its slots. -/
def countFault? (k : Kind) (b : Bytes) : Option LayoutFault :=
  let number := Header.number b
  let valid := Header.valid b
  let marked := markedSlots k b (Header.capacity b).toNatClampNeg
  if number < 0 ∨ valid < 0 then some (.negativeCounters number valid)
  else if number < valid then some (.validBeyondNumber valid number)
  else
    match marked.find? fun i => number.toNatClampNeg ≤ i with
    | some i => some (.markBeyondNumber i number)
    | none =>
      if marked.length = valid.toNatClampNeg then none
      else some (.count valid marked.length)

/-- The first reason why a buffer is not a packet of kind `k`. -/
def fault? (k : Kind) (b : Bytes) : Option PacketError :=
  if b.size < Header.size then some (.truncated b.size)
  else if Header.eventType b ≠ k.eventType.id then
    some (.typeMismatch k.eventType.id (Header.eventType b))
  else if (Header.eventSize b).toInt ≠ k.recordSize
      ∨ (Header.timestampOffset b).toInt ≠ k.timestampOffset then
    some (.invalidLayout (.record (Header.eventSize b) (Header.timestampOffset b) k))
  else if Header.capacity b ≤ 0 then some (.invalidCapacity (Header.capacity b))
  else
    match Header.packetSize? b with
    | none => some (.sizeOverflow (Header.capacity b) k)
    | some n =>
      if n ≠ b.size then some (.invalidLayout (.length n b.size))
      else (countFault? k b).map .invalidLayout

/-- The packet of kind `k` that a buffer is, or the first reason why it is none. -/
def ofBytes (k : Kind) (b : Bytes) : Except PacketError (Packet k) :=
  match fault? k b with
  | none => .ok ⟨b⟩
  | some e => .error e

theorem ofBytes_eq_ok_iff {k : Kind} {b : Bytes} {p : Packet k} :
    ofBytes k b = .ok p ↔ p.bytes = b ∧ fault? k b = none := by
  obtain ⟨c⟩ := p
  unfold ofBytes
  cases h : fault? k b with
  | none => simp [eq_comm]
  | some e => simp

theorem ofBytes_eq_error_iff {k : Kind} {b : Bytes} {e : PacketError} :
    ofBytes k b = .error e ↔ fault? k b = some e := by
  unfold ofBytes
  cases fault? k b <;> simp

end EventPackets.Packet
