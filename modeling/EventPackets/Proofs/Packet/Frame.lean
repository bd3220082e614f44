import EventPackets.Packet.Producer

/-!
# What an edit leaves alone

A packet is one buffer, so an edit of one field could in principle disturb any other.  Every edit
of this library keeps inside a region of the buffer: a header field, or the record of one slot.
This file names such a region (`Bytes.AgreeOutside`) and says what is read from the rest of the
buffer after an edit: the same as before.  Inside a record, the validity mark has a bit of its
own, which the edits of the other fields keep.

## Main definitions

* `Bytes.AgreeOutside` : two buffers that differ in one region at most.
* `BitField.Disjoint` : two bit fields without a common bit.

## Main results

* `Header.agreeOutside_put`, `Kind.agreeOutside_write`, `Slot.agreeOutside_putMark` : the region of
  each edit.
* `Slot.get_eq_of_agreeOutside`, `Slot.marked_eq_of_agreeOutside` : the header and the other slots
  after an edit of one slot.
* `Slot.marked_write_self`, `Slot.marked_putMark_self` : the mark of the slot itself.
-/

namespace EventPackets

/-! ### Regions of a buffer -/

namespace Bytes

/-- Two buffers of the same size agree outside the `n` bytes from position `i`. -/
structure AgreeOutside (i n : Nat) (b c : Bytes) : Prop where
  size_eq : c.size = b.size
  byteAt_eq : ∀ j, j < i ∨ i + n ≤ j → byteAt c j = byteAt b j

namespace AgreeOutside

variable {i n : Nat} {b c d : Bytes}

theorem refl (i n : Nat) (b : Bytes) : AgreeOutside i n b b := ⟨rfl, fun _ _ => rfl⟩

theorem trans (h : AgreeOutside i n b c) (h' : AgreeOutside i n c d) : AgreeOutside i n b d :=
  ⟨h'.size_eq.trans h.size_eq, fun j hj => (h'.byteAt_eq j hj).trans (h.byteAt_eq j hj)⟩

theorem mono {i' n' : Nat} (h : AgreeOutside i n b c) (hi : i' ≤ i) (hn : i + n ≤ i' + n') :
    AgreeOutside i' n' b c :=
  ⟨h.size_eq, fun j hj => h.byteAt_eq j (by omega)⟩

theorem readLE_eq (h : AgreeOutside i n b c) {j m : Nat} (hd : j + m ≤ i ∨ i + n ≤ j) :
    readLE c j m = readLE b j m :=
  readLE_congr fun l hl hl' => h.byteAt_eq l (by omega)

theorem word_eq (h : AgreeOutside i n b c) {j : Nat} (hd : j + 4 ≤ i ∨ i + n ≤ j) :
    word c j = word b j := by
  rw [word, word, h.readLE_eq hd]

end AgreeOutside

theorem agreeOutside_writeLE (b : Bytes) (i n v : Nat) : AgreeOutside i n b (writeLE b i n v) :=
  ⟨size_writeLE b i n v, byteAt_writeLE_of_outside b i n v⟩

theorem agreeOutside_setWord (b : Bytes) (i : Nat) (w : UInt32) :
    AgreeOutside i 4 b (setWord b i w) :=
  agreeOutside_writeLE b i 4 w.toNat

end Bytes

/-! ### Bits of a word -/

namespace BitField

/-- Two bit fields have no bit in common. -/
def Disjoint (f g : BitField) : Prop :=
  (f.mask <<< f.shift) &&& (g.mask <<< g.shift) = 0

instance (f g : BitField) : Decidable (f.Disjoint g) :=
  inferInstanceAs (Decidable (_ = _))

/-- A bit field is not disturbed by a value put into a disjoint one. -/
theorem get_set_of_disjoint {f g : BitField} (h : f.Disjoint g) (w v : UInt32) :
    g.get (f.set w v) = g.get w := by
  unfold Disjoint at h
  rw [← UInt32.toBitVec_inj] at h ⊢
  refine BitVec.eq_of_getLsbD_eq fun i _ => ?_
  -- bit `i` of the value is this bit of the word
  have hj := congrArg (fun x => BitVec.getLsbD x ((g.shift.toBitVec % 32).toNat + i)) h
  simp only [get, set, UInt32.toBitVec_and, UInt32.toBitVec_or, UInt32.toBitVec_not,
    UInt32.toBitVec_shiftLeft, UInt32.toBitVec_shiftRight, BitVec.ushiftRight_eq',
    BitVec.shiftLeft_eq', BitVec.getLsbD_and, BitVec.getLsbD_or, BitVec.getLsbD_ushiftRight,
    BitVec.getLsbD_shiftLeft, BitVec.getLsbD_not, Nat.add_sub_cancel_left] at hj ⊢
  generalize (g.shift.toBitVec % 32).toNat = s at hj ⊢
  generalize (f.shift.toBitVec % 32).toNat = t at hj ⊢
  cases hg : g.mask.toBitVec.getLsbD i with
  | false => simp
  | true =>
    by_cases hlt : s + i < 32
    · have hs : ¬ s + i < s := by omega
      have hf : (!decide (s + i < t) && f.mask.toBitVec.getLsbD (s + i - t)) = false := by
        simpa [hg, hlt, hs, -Bool.and_eq_false_imp] using hj
      grind
    · simp [hlt, BitVec.getLsbD_of_ge w.toBitVec _ (Nat.le_of_not_lt hlt)]

/-- A value put into a bit field is read back, as far as the field reaches. -/
theorem get_set_self {f : BitField} (h : (f.mask <<< f.shift) >>> f.shift = f.mask)
    (w v : UInt32) : f.get (f.set w v) = v &&& f.mask := by
  rw [← UInt32.toBitVec_inj] at h ⊢
  refine BitVec.eq_of_getLsbD_eq fun i _ => ?_
  have hi := congrArg (fun x => BitVec.getLsbD x i) h
  simp only [get, set, UInt32.toBitVec_and, UInt32.toBitVec_or, UInt32.toBitVec_not,
    UInt32.toBitVec_shiftLeft, UInt32.toBitVec_shiftRight, BitVec.ushiftRight_eq',
    BitVec.shiftLeft_eq', BitVec.getLsbD_and, BitVec.getLsbD_or, BitVec.getLsbD_ushiftRight,
    BitVec.getLsbD_shiftLeft, BitVec.getLsbD_not, Nat.add_sub_cancel_left] at hi ⊢
  generalize (f.shift.toBitVec % 32).toNat = s at hi ⊢
  cases hf : f.mask.toBitVec.getLsbD i with
  | false => simp
  | true =>
    have hs : ¬ s + i < s := by omega
    have hlt : s + i < 32 := by simpa [hf, hs] using hi
    simp [hlt, hs]

end BitField

/-! ### Slots -/

namespace Slot

variable {k : Kind}

theorem size_le_start (k : Kind) (i : Nat) : Header.size ≤ start k i :=
  Nat.le_add_right ..

/-- The records of different slots have no byte in common. -/
theorem disjoint_of_ne (k : Kind) {i j : Nat} (h : i ≠ j) :
    start k j + k.recordSize ≤ start k i ∨ start k i + k.recordSize ≤ start k j := by
  have hstep (a c : Nat) (hac : a < c) : start k a + k.recordSize ≤ start k c := by
    have := Nat.mul_le_mul_right k.recordSize (Nat.succ_le_of_lt hac)
    rw [Nat.succ_mul] at this
    simp only [start]
    omega
  rcases Nat.lt_or_gt_of_ne h with h | h
  · exact .inr (hstep i j h)
  · exact .inl (hstep j i h)

/-- The record of one of the first `n` slots lies within the bytes of `n` slots. -/
theorem start_add_le (k : Kind) {i n : Nat} (h : i < n) :
    start k i + k.recordSize ≤ Header.size + n * k.recordSize := by
  have := Nat.mul_le_mul_right k.recordSize (Nat.succ_le_of_lt h)
  rw [Nat.succ_mul] at this
  simp only [start]
  omega

theorem four_le_recordSize (k : Kind) : 4 ≤ k.recordSize := by
  cases k <;> decide

/-- An edit of the header keeps every mark. -/
theorem marked_eq_of_header {b c : Bytes} (h : Bytes.AgreeOutside 0 Header.size b c) (i : Nat) :
    marked k c i = marked k b i := by
  rw [marked, marked, h.word_eq (.inr (by have := size_le_start k i; omega))]

/-- An edit of a slot keeps every header field. -/
theorem get_eq_of_agreeOutside {b c : Bytes} {i : Nat}
    (h : Bytes.AgreeOutside (start k i) k.recordSize b c) (f : Header.Field) :
    Header.get f c = Header.get f b := by
  have hf := f.offset_add_le
  have hs := size_le_start k i
  rw [Header.get, Header.get, h.readLE_eq (.inl (by omega))]

/-- An edit of a slot keeps the marks of the other slots. -/
theorem marked_eq_of_agreeOutside {b c : Bytes} {i j : Nat}
    (h : Bytes.AgreeOutside (start k i) k.recordSize b c) (hij : i ≠ j) :
    marked k c j = marked k b j := by
  have hd := disjoint_of_ne k hij
  have hk := four_le_recordSize k
  rw [marked, marked, h.word_eq (by omega)]

end Slot

/-! ### Edits and their regions -/

theorem Header.agreeOutside_put (f : Field) (v : f.Value) (b : Bytes) :
    Bytes.AgreeOutside 0 Header.size b (put f v b) :=
  (Bytes.agreeOutside_writeLE b f.offset f.width.bytes _).mono (Nat.zero_le _)
    (by simpa using f.offset_add_le)

theorem PolarityWrite.agreeOutside_apply (w : PolarityWrite) (start : Nat) (b : Bytes) :
    Bytes.AgreeOutside start 4 b (w.apply start b) :=
  Bytes.agreeOutside_setWord b start _

/-- The measurements leave the info word and the timestamp of a record alone. -/
theorem Imu9Write.agreeOutside_apply (w : Imu9Write) (start : Nat) (b : Bytes) :
    Bytes.AgreeOutside (start + 8) 40 b (w.apply start b) := by
  unfold apply
  generalize w.entries = es
  induction es generalizing b with
  | nil => exact .refl _ _ b
  | cons e es ih =>
    have hr := e.1.rank_lt
    have he : Bytes.AgreeOutside (start + 8) 40 b (b.setWord (start + e.1.offset) e.2.bits) :=
      (Bytes.agreeOutside_setWord b _ _).mono (by simp only [Measurement.offset]; omega)
        (by simp only [Measurement.offset]; omega)
    exact he.trans (ih _)

theorem Kind.agreeOutside_write (k : Kind) (w : k.Write) (start : Nat) (b : Bytes) :
    Bytes.AgreeOutside start k.recordSize b (k.write w start b) := by
  cases k with
  | polarity =>
    exact (PolarityWrite.agreeOutside_apply w start b).mono (Nat.le_refl _)
      (by simp only [recordSize]; omega)
  | imu9 =>
    exact (Imu9Write.agreeOutside_apply w start b).mono (by omega)
      (by simp only [recordSize]; omega)

theorem PolarityWrite.disjoint_mark (w : PolarityWrite) : w.field.Disjoint BitField.mark := by
  cases w <;> simp only [field] <;> decide

namespace Slot

variable (k : Kind) (i : Nat) (b : Bytes)

theorem agreeOutside_putMark (v : Bool) :
    Bytes.AgreeOutside (start k i) k.recordSize b (putMark k i v b) :=
  (Bytes.agreeOutside_setWord b _ _).mono (Nat.le_refl _) (by have := four_le_recordSize k; omega)

theorem agreeOutside_setTimestamp (t : UInt32) :
    Bytes.AgreeOutside (start k i) k.recordSize b
      (b.setWord (start k i + k.timestampOffset) t) :=
  (Bytes.agreeOutside_setWord b _ _).mono (by omega)
    (by have := k.timestampOffset_add_le; omega)

variable {k i b}

theorem marked_putMark_self (h : start k i + k.recordSize ≤ b.size) (v : Bool) :
    marked k (putMark k i v b) i = v := by
  have hk := four_le_recordSize k
  rw [marked, putMark, Bytes.word_setWord_self _ _ _ (by omega),
    BitField.get_set_self (by decide)]
  cases v <;> decide

theorem marked_setTimestamp_self (t : UInt32) :
    marked k (b.setWord (start k i + k.timestampOffset) t) i = marked k b i := by
  rw [marked, marked, Bytes.word_setWord_of_disjoint]
  cases k <;> exact .inl (Nat.le_refl _)

/-- A change of the data of an event keeps its mark. -/
theorem marked_write_self (h : start k i + k.recordSize ≤ b.size) (w : k.Write) :
    marked k (k.write w (start k i) b) i = marked k b i := by
  have hk := four_le_recordSize k
  cases k with
  | polarity =>
    change PolarityWrite at w
    rw [marked, marked, Kind.write, PolarityWrite.apply,
      Bytes.word_setWord_self _ _ _ (by omega),
      BitField.get_set_of_disjoint w.disjoint_mark]
  | imu9 =>
    change Imu9Write at w
    rw [marked, marked, Kind.write, (w.agreeOutside_apply _ b).word_eq (.inl (by omega))]

end Slot

end EventPackets
