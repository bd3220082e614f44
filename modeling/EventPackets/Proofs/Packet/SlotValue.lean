import EventPackets.Proofs.Record.Imu9
import EventPackets.Proofs.Record.Polarity

/-!
# The value of a slot after an edit

An edit of a slot changes one part of its value, be it the mark, the timestamp, or the data of the
event, although the parts share words of the record.  An edit of anything else in the buffer, the
header or another slot, changes nothing in the slot.

## Main results

* `Packet.slotValue_of_disjoint` : a slot after an edit outside its record.
* `Packet.slotValue_write_self`, `Packet.slotValue_setTimestamp_self`,
  `Packet.slotValue_putMark_self` : a slot after an edit of its own.
* `Slot.record_of_disjoint` : the bytes of a slot after an edit outside them.
-/

namespace EventPackets

/-! ### Data -/

namespace Kind

variable (k : Kind) {b c : Bytes} {start : Nat}

theorem readData_of_disjoint {i n : Nat} (h : Bytes.AgreeOutside i n b c)
    (hd : start + k.recordSize ≤ i ∨ i + n ≤ start) :
    k.readData c start = k.readData b start := by
  cases k with
  | polarity =>
    simp only [recordSize] at hd
    rw [readData, readData, PolarityData.read, PolarityData.read, h.word_eq (by omega)]
  | imu9 =>
    simp only [recordSize] at hd
    refine Imu9Sample.read_eq_iff.mpr fun m => ?_
    have hm := m.rank_lt
    rw [readData, Imu9Sample.read, Imu9Sample.get_of,
      h.word_eq (by simp only [Measurement.offset]; omega)]

/-- The data of a record after a change. -/
theorem readData_write (hb : start + k.recordSize ≤ b.size) (w : k.Write) :
    k.readData (k.write w start b) start = k.update w (k.readData b start) := by
  cases k with
  | polarity =>
    simp only [recordSize] at hb
    change PolarityWrite at w
    rw [readData, write, PolarityData.read, PolarityWrite.apply,
      Bytes.word_setWord_self _ _ _ (by omega), PolarityWrite.ofWord_set]
    rfl
  | imu9 => exact Imu9Write.read_apply hb w

/-- No data stands where the timestamp does. -/
theorem readData_setTimestamp (t : UInt32) :
    k.readData (b.setWord (start + k.timestampOffset) t) start = k.readData b start := by
  cases k with
  | polarity =>
    rw [readData, readData, PolarityData.read, PolarityData.read,
      Bytes.word_setWord_of_disjoint]
    exact .inl (Nat.le_refl _)
  | imu9 =>
    refine Imu9Sample.read_eq_iff.mpr fun m => ?_
    rw [readData, Imu9Sample.read, Imu9Sample.get_of, Bytes.word_setWord_of_disjoint]
    simp only [timestampOffset, Measurement.offset]
    omega

/-- The mark has a bit of its own. -/
theorem readData_setMark (hb : start + k.recordSize ≤ b.size) (v : UInt32) :
    k.readData (b.setWord start (BitField.mark.set (b.word start) v)) start =
      k.readData b start := by
  cases k with
  | polarity =>
    simp only [recordSize] at hb
    rw [readData, readData, PolarityData.read, PolarityData.read,
      Bytes.word_setWord_self _ _ _ (by omega), PolarityWrite.ofWord_set_mark]
  | imu9 =>
    refine Imu9Sample.read_eq_iff.mpr fun m => ?_
    rw [readData, Imu9Sample.read, Imu9Sample.get_of, Bytes.word_setWord_of_disjoint]
    simp only [Measurement.offset]
    omega

end Kind

/-! ### Timestamps and bytes -/

namespace Slot

variable {k : Kind} {b c : Bytes} {i : Nat}

theorem timestamp_of_disjoint {j n : Nat} (h : Bytes.AgreeOutside j n b c)
    (hd : start k i + k.recordSize ≤ j ∨ j + n ≤ start k i) :
    timestamp k c i = timestamp k b i := by
  have ht := k.timestampOffset_add_le
  rw [timestamp, timestamp, h.word_eq (by omega)]

theorem timestamp_setTimestamp_self (hb : start k i + k.recordSize ≤ b.size) (t : Int32) :
    timestamp k (b.setWord (start k i + k.timestampOffset) t.toUInt32) i = t := by
  have ht := k.timestampOffset_add_le
  rw [timestamp, Bytes.word_setWord_self _ _ _ (by omega)]
  rfl

/-- The timestamp does not share a word with the mark. -/
theorem timestamp_putMark_self (v : Bool) :
    timestamp k (putMark k i v b) i = timestamp k b i := by
  rw [timestamp, timestamp, putMark, Bytes.word_setWord_of_disjoint]
  cases k <;> exact .inr (Nat.le_refl _)

/-- Neither does it with the data. -/
theorem timestamp_write_self (w : k.Write) :
    timestamp k (k.write w (start k i) b) i = timestamp k b i := by
  cases k with
  | polarity =>
    exact congrArg UInt32.toInt32
      ((PolarityWrite.agreeOutside_apply w _ b).word_eq (.inr (Nat.le_refl _)))
  | imu9 =>
    exact congrArg UInt32.toInt32
      ((Imu9Write.agreeOutside_apply w _ b).word_eq (.inl (Nat.le_refl _)))

/-- The bytes of a slot after an edit outside them. -/
theorem record_of_disjoint {j n : Nat} (h : Bytes.AgreeOutside j n b c)
    (hd : start k i + k.recordSize ≤ j ∨ j + n ≤ start k i) : record k c i = record k b i := by
  have hsize := h.size_eq
  refine Array.ext (by simp [record, Bytes.slice, hsize]) fun l hl hl' => ?_
  have hbyte := h.byteAt_eq (start k i + l) (by
    simp only [record, Bytes.slice, Array.size_extract] at hl'
    omega)
  simp only [record, Bytes.slice, Array.size_extract] at hl hl'
  simp only [record, Bytes.slice, Array.getElem_extract]
  rwa [Bytes.byteAt, Bytes.byteAt, Array.getD_eq_getD_getElem?, Array.getD_eq_getD_getElem?,
    Array.getElem?_eq_getElem (by omega), Array.getElem?_eq_getElem (by omega)] at hbyte

theorem record_of_header (h : Bytes.AgreeOutside 0 Header.size b c) (i : Nat) :
    record k c i = record k b i :=
  record_of_disjoint h (.inr (by have := size_le_start k i; omega))

theorem record_of_ne {j : Nat} (h : Bytes.AgreeOutside (start k i) k.recordSize b c)
    (hij : i ≠ j) : record k c j = record k b j :=
  record_of_disjoint h (disjoint_of_ne k hij)

end Slot

/-! ### Values of slots -/

namespace Packet

section

variable {k : Kind} {b c : Bytes} {i j : Nat}

theorem slotValue_eq {v : Bool} {t : Int32} {d : k.Data} (hv : Slot.marked k b i = v)
    (ht : Slot.timestamp k b i = t) (hd : k.readData b (Slot.start k i) = d) :
    (⟨b⟩ : Packet k).slotValue i = ⟨v, t, d⟩ := by
  rw [slotValue, hv, ht, hd]

/-- A slot after an edit outside its record. -/
theorem slotValue_of_disjoint {l n : Nat} (h : Bytes.AgreeOutside l n b c)
    (hd : Slot.start k i + k.recordSize ≤ l ∨ l + n ≤ Slot.start k i) :
    (⟨c⟩ : Packet k).slotValue i = (⟨b⟩ : Packet k).slotValue i := by
  have hk := Slot.four_le_recordSize k
  refine SlotValue.ext ?_ (Slot.timestamp_of_disjoint h hd) (k.readData_of_disjoint h hd)
  rw [valid_slotValue, valid_slotValue, Slot.marked, Slot.marked, h.word_eq (by omega)]

theorem slotValue_of_header (h : Bytes.AgreeOutside 0 Header.size b c) (i : Nat) :
    (⟨c⟩ : Packet k).slotValue i = (⟨b⟩ : Packet k).slotValue i :=
  slotValue_of_disjoint h (.inr (by have := Slot.size_le_start k i; omega))

theorem slotValue_of_ne (h : Bytes.AgreeOutside (Slot.start k i) k.recordSize b c)
    (hij : i ≠ j) : (⟨c⟩ : Packet k).slotValue j = (⟨b⟩ : Packet k).slotValue j :=
  slotValue_of_disjoint h (Slot.disjoint_of_ne k hij)

end

variable {k : Kind} {p : Packet k} {i : Nat}
  (hb : Slot.start k i + k.recordSize ≤ p.bytes.size)

include hb

/-- A change of the data of an event. -/
theorem slotValue_write_self (w : k.Write) :
    (⟨k.write w (Slot.start k i) p.bytes⟩ : Packet k).slotValue i =
      { p.slotValue i with data := k.update w (p.slotValue i).data } := by
  rw [slotValue_eq (Slot.marked_write_self hb w) (Slot.timestamp_write_self w)
    (k.readData_write hb w), slotValue]

theorem slotValue_setTimestamp_self (t : Int32) :
    (⟨p.bytes.setWord (Slot.start k i + k.timestampOffset) t.toUInt32⟩ : Packet k).slotValue i =
      { p.slotValue i with timestamp := t } := by
  rw [slotValue_eq (Slot.marked_setTimestamp_self t.toUInt32)
    (Slot.timestamp_setTimestamp_self hb t) (k.readData_setTimestamp t.toUInt32), slotValue]

theorem slotValue_putMark_self (v : Bool) :
    (⟨Slot.putMark k i v p.bytes⟩ : Packet k).slotValue i =
      { p.slotValue i with valid := v } := by
  rw [slotValue_eq (Slot.marked_putMark_self hb v) (Slot.timestamp_putMark_self v)
    (k.readData_setMark hb _), slotValue]

end Packet

end EventPackets
