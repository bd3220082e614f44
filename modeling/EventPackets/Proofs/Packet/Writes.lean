import EventPackets.Proofs.Packet.Refinement

/-!
# Several changes of one record

The fields of an event are often changed together.  To the rest of the packet that is no different
from a single change.

## Main definitions

* `Kind.writeAll` : several changes of the record of an event.
* `Kind.updateAll` : several changes of the data of an event.

## Main results

* `Kind.on_forM_write` : the edit that makes the changes.
* `Packet.consistent_writeAll` : the packet stays consistent.
* `Packet.records_writeAll` : the records after the changes.
-/

namespace EventPackets

variable {k : Kind}

namespace Kind

/-- Makes changes in the record that starts at byte `start`, one after another. -/
def writeAll (k : Kind) (ws : List k.Write) (start : Nat) (b : Bytes) : Bytes :=
  ws.foldl (fun b w => k.write w start b) b

/-- The data of an event after several changes. -/
def updateAll (k : Kind) (ws : List k.Write) (d : k.Data) : k.Data :=
  ws.foldl (fun d w => k.update w d) d

theorem agreeOutside_writeAll (k : Kind) (ws : List k.Write) (start : Nat) (b : Bytes) :
    Bytes.AgreeOutside start k.recordSize b (k.writeAll ws start b) := by
  induction ws generalizing b with
  | nil => exact .refl _ _ b
  | cons w ws ih => exact (k.agreeOutside_write w start b).trans (ih _)

/-- The edit that makes the changes. -/
theorem on_forM_write (ws : List k.Write) (start : Nat) (b : Bytes) :
    Edit.on (ws.forM fun w => modify (k.write w start)) b =
      ⟨(.ok (), k.writeAll ws start b), []⟩ := by
  rw [List.forM_eq_forM]
  induction ws generalizing b with
  | nil => rfl
  | cons w ws ih =>
    rw [List.forM_cons, Edit.on_bind_of_ok (Edit.on_modify _ b), ih]
    rfl

end Kind

namespace Packet

variable {p : Packet k} {index : Int32} {i : Nat}

/-- A slot is one of every packet with the same layout. -/
theorem IsSlot.of_sameLayout {q : Packet k} (h : p.IsSlot index i) (hl : SameLayout p q) :
    q.IsSlot index i :=
  ⟨h.toInt_eq, hl.capacity_eq ▸ h.lt_capacity⟩

theorem consistent_writeAll (hp : p.Consistent) (h : p.IsSlot index i) (ws : List k.Write) :
    (⟨k.writeAll ws (Slot.start k i) p.bytes⟩ : Packet k).Consistent := by
  induction ws generalizing p with
  | nil => exact hp
  | cons w ws ih =>
    have hstep := Step.write h w
    exact ih (hstep.consistent hp) (h.of_sameLayout hstep.sameLayout)

theorem slotValue_writeAll_self (hb : Slot.start k i + k.recordSize ≤ p.bytes.size)
    (ws : List k.Write) :
    (⟨k.writeAll ws (Slot.start k i) p.bytes⟩ : Packet k).slotValue i =
      { p.slotValue i with data := k.updateAll ws (p.slotValue i).data } := by
  induction ws generalizing p with
  | nil => rfl
  | cons w ws ih =>
    have hsize := (k.agreeOutside_write w (Slot.start k i) p.bytes).size_eq
    rw [Kind.writeAll, List.foldl_cons, ← Kind.writeAll, ih (p := ⟨_⟩) (hsize.symm ▸ hb),
      slotValue_write_self hb]
    rfl

/-- The records after the changes. -/
theorem records_writeAll (hb : Slot.start k i + k.recordSize ≤ p.bytes.size)
    (ws : List k.Write) :
    (⟨k.writeAll ws (Slot.start k i) p.bytes⟩ : Packet k).records =
      { p.records with
        slots := p.records.slots.set i
          { p.slotValue i with data := k.updateAll ws (p.slotValue i).data } } := by
  rw [records_of_slot (k.agreeOutside_writeAll ws _ _), slotValue_writeAll_self hb]

end Packet

end EventPackets
