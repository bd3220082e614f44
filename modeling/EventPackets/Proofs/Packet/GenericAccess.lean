import EventPackets.Proofs.Packet.Rejection
import EventPackets.Proofs.Record.Polarity

/-!
# Generic and typed access

An event can be read in two ways.  A consumer that knows the kind of a packet knows where its
records stand and tests a bit of a word for the mark.  A consumer that does not know it takes size
and timestamp offset of the records from the header and tests a bit of a byte.  The header of a
packet has the layout of its kind, whatever has been done with the packet, so both read the same.

## Main definitions

* `Packet.generic` : what an event looks like to a consumer that does not know its type.

## Main results

* `Slot.marked_eq_byteAt` : the mark of a slot is in the first byte of its record.
* `GenericEvent.value_get?_eq` : generic access in terms of typed access.
* `Packet.Initial.generic_agrees` : both kinds of access to a packet in use.
-/

namespace EventPackets

variable {k : Kind}

/-! ### The mark as a bit of a byte -/

/-- The first byte of a word has its lowest bits. -/
theorem Bytes.toNat_byteAt (b : Bytes) (i : Nat) : (b.byteAt i).toNat = (b.word i).toNat % 256 := by
  have hlt := (b.byteAt i).toNat_lt
  rw [word, UInt32.toNat_ofNat', readLE]
  omega

/-- The lowest bit of a byte as a truth value. -/
theorem toNat_and_one_bne_zero (c : UInt8) : (c &&& 1 != 0).toNat = c.toNat % 2 := by
  have hand : (c &&& 1).toNat = c.toNat % 2 := (UInt8.toNat_and c 1).trans (Nat.and_one_is_mod _)
  rw [← hand]
  rcases Nat.mod_two_eq_zero_or_one c.toNat with hc | hc <;> rw [hc] at hand
  · rw [show c &&& 1 = 0 from UInt8.toNat_inj.mp hand]
    rfl
  · rw [show c &&& 1 = 1 from UInt8.toNat_inj.mp hand]
    rfl

/-- The mark of a slot is in the first byte of its record. -/
theorem Slot.marked_eq_byteAt (k : Kind) (b : Bytes) (i : Nat) :
    marked k b i = (b.byteAt (start k i) &&& 1 != 0) := by
  have hword := BitField.get_bne_zero (BitField.toNat_get_mark (b.word (start k i)))
  have hbyte := b.toNat_byteAt (start k i)
  rw [Bool.eq_iff_iff, ← Bool.toNat_eq_one, ← Bool.toNat_eq_one, marked, hword,
    toNat_and_one_bne_zero]
  omega

namespace Packet

/-- What an event of a packet looks like to a consumer that does not know its type. -/
def generic (p : Packet k) (e : Event k) : GenericEvent where
  valid := e.valid
  timestamp := e.timestamp
  timestamp64 := e.timestamp64
  record := Slot.record k p.bytes e.slot

end Packet

namespace GenericEvent

variable {p : Packet k}

/-- The record of a slot as generic access reads it. -/
theorem read_slot (p : Packet k) (i : Nat) :
    read p.bytes ⟨Slot.start k i, k.recordSize, k.timestampOffset⟩ = p.generic (p.event i) := by
  simp only [read, Packet.generic, Packet.event, ← Slot.marked_eq_byteAt]
  rfl

/-- Generic access in terms of typed access. -/
theorem value_get?_eq (hp : p.Consistent) (index : Int32) :
    (get? p.bytes index).value = (p.event? index).value.map p.generic := by
  -- An index without a slot is refused by both, and a slot has its record where the header says.
  rcases p.isSlot_or index with hout | ⟨i, hi⟩
  · rw [Packet.value_event?_eq_none hout, Option.map_none, value_get?_eq_none_iff hp]
    omega
  · rw [Packet.value_event?_of_isSlot hi, Option.map_some, get?, Reported.value_bind,
      locate?_of_isSlot hp hi, Reported.value_pure, Option.map_some, read_slot]

end GenericEvent

/-- Whatever has been done with a packet, generic access finds an event at an index if and only if
typed access does, which is within the capacity, and finds the same mark, timestamps and bytes.  It
makes no difference whether the packet is known as one of its kind, or as one of any kind, or only
by its bytes. -/
theorem Packet.Initial.generic_agrees {p : Packet k} (hp : p.Initial) (threshold : Severity)
    (xs : List (Session.Step k)) (index : Int32) :
    let q := (Session.run ⟨threshold, p⟩ xs).2.packet
    let typed := (q.event? index).value.map q.generic
    (typed = none ↔ ¬ (0 ≤ index.toInt ∧ index.toInt < q.capacity.toInt)) ∧
      ((Session.Step.genericEvent index).perform q).value = (.genericEvent typed, q) ∧
      (GenericEvent.get? q.bytes index).value = typed ∧
      ∀ a : AnyPacket, a = ⟨k, q⟩ ∨ AnyPacket.ofBytes q.bytes = .ok a →
        (GenericEvent.get? a.bytes index).value = typed := by
  intro q typed
  have hq : q.Consistent := Session.consistent_run (s := ⟨threshold, p⟩) hp.consistent xs
  have hgeneric : (GenericEvent.get? q.bytes index).value = typed :=
    GenericEvent.value_get?_eq hq index
  refine ⟨Option.map_eq_none_iff.trans value_event?_eq_none_iff, ?_, hgeneric, fun a ha => ?_⟩
  · rw [Session.Step.perform, Reported.value_bind, Reported.value_pure, hgeneric]
  · obtain rfl | ha := ha
    · exact hgeneric
    · rw [AnyPacket.bytes_of_ofBytes ha, hgeneric]

/-- A packet for two events, in use; the second event is the last one there is. -/
theorem Packet.Initial.generic_agrees_last_slot :
    let p : Packet .imu9 := .fresh .imu9 2 0 0
    let xs : List (Session.Step .imu9) :=
      [.call (.setOverflow 1), .call (.slot 1 (.setTimestamp 9)), .call (.slot 1 .validate),
        .setThreshold .debug, .call (.slot 1 (.setTimestamp (-1)))]
    let q := (Session.run ⟨.error, p⟩ xs).2.packet
    p.Initial ∧
      (GenericEvent.get? q.bytes 1).value = some ⟨true, 9, 0x80000009, q.bytes.slice 76 48⟩ ∧
      (GenericEvent.get? q.bytes 2).value = none := by
  intro p xs q
  have hp : p.Initial := .allocated 2 0 0 p (value_allocate (by decide) 0 0)
  obtain ⟨-, -, hlast, -⟩ := hp.generic_agrees .error xs 1
  obtain ⟨-, -, hout, -⟩ := hp.generic_agrees .error xs 2
  exact ⟨hp, hlast.trans (by decide +kernel), hout.trans (by decide +kernel)⟩

end EventPackets
