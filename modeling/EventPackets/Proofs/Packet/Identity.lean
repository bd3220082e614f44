import EventPackets.Proofs.Packet.Layout
import EventPackets.Proofs.Packet.Refinement

/-!
# What the records of a packet leave open

The records of a packet tell all of its bytes, except for the bits of an info word above the
validity mark, which have no meaning.  No call changes those.  So packets that come from one packet
by calls are equal if they have the same records.

## Main definitions

* `Kind.spareBits` : the bits of a record without a meaning.

## Main results

* `Packet.eq_of_records_eq` : packets with the same records and the same spare bits.
* `Packet.Step.spareBits_eq` : no call changes spare bits.
-/

namespace EventPackets

/-- The bits of an info word above the validity mark. -/
def BitField.spare : BitField := ⟨1, 0x7FFFFFFF⟩

namespace BitField

theorem toNat_get_spare (w : UInt32) : (spare.get w).toNat = w.toNat / 2 := by
  have hw := w.toNat_lt
  have hget : (spare.get w).toNat = w.toNat / 2 % 0x80000000 :=
    toNat_get (f := spare) (m := 31) (by decide) (by decide) w
  omega

/-- An info word is its mark and its spare bits. -/
theorem eq_of_get_eq {w v : UInt32} (hm : (mark.get w != 0) = (mark.get v != 0))
    (hs : spare.get w = spare.get v) : w = v := by
  have hmark := congrArg Bool.toNat hm
  have hspare := congrArg UInt32.toNat hs
  rw [get_bne_zero (toNat_get_mark w), get_bne_zero (toNat_get_mark v)] at hmark
  rw [toNat_get_spare, toNat_get_spare] at hspare
  exact UInt32.toNat_inj.mp (by omega)

end BitField

namespace Kind

/-- The bits of a record that have no meaning. -/
def spareBits (k : Kind) (b : Bytes) (start : Nat) : UInt32 :=
  match k with
  | polarity => 0
  | imu9 => BitField.spare.get (b.word start)

variable {k : Kind} {b c : Bytes} {i : Nat}

/-- A record is what its slot holds and its spare bits. -/
theorem readRecord_congr
    (hv : (⟨c⟩ : Packet k).slotValue i = (⟨b⟩ : Packet k).slotValue i)
    (hs : k.spareBits c (Slot.start k i) = k.spareBits b (Slot.start k i)) :
    k.readRecord c (Slot.start k i) = k.readRecord b (Slot.start k i) := by
  obtain ⟨hmark, htimestamp, hdata⟩ := SlotValue.mk.inj hv
  have hword : c.word (Slot.start k i + k.timestampOffset) =
      b.word (Slot.start k i + k.timestampOffset) := congrArg Int32.toUInt32 htimestamp
  cases k with
  | polarity =>
    rw [readRecord, readRecord, PolarityRecord.mk.injEq]
    exact ⟨hmark, hdata, hword⟩
  | imu9 =>
    have hinfo : c.word (Slot.start .imu9 i) = b.word (Slot.start .imu9 i) :=
      BitField.eq_of_get_eq hmark hs
    rw [readRecord, readRecord, Imu9Record.mk.injEq]
    exact ⟨hinfo, hword, hdata⟩

/-- An edit of other bytes keeps the spare bits. -/
theorem spareBits_of_disjoint {start j n : Nat} (h : Bytes.AgreeOutside j n b c)
    (hd : start + 4 ≤ j ∨ j + n ≤ start) : k.spareBits c start = k.spareBits b start := by
  cases k with
  | polarity => rfl
  | imu9 => rw [spareBits, spareBits, h.word_eq hd]

end Kind

/-! ### Spare bits after an edit of their slot -/

namespace Slot

variable {k : Kind} {b : Bytes} {i : Nat}

theorem spareBits_write_self (w : k.Write) :
    k.spareBits (k.write w (start k i) b) (start k i) = k.spareBits b (start k i) := by
  cases k with
  | polarity => rfl
  | imu9 => exact Kind.spareBits_of_disjoint (Imu9Write.agreeOutside_apply w _ b) (.inl (by omega))

theorem spareBits_setTimestamp_self (t : UInt32) :
    k.spareBits (b.setWord (start k i + k.timestampOffset) t) (start k i) =
      k.spareBits b (start k i) := by
  have h := Bytes.agreeOutside_setWord b (start k i + k.timestampOffset) t
  have hd : start k i + 4 ≤ start k i + k.timestampOffset := by
    cases k <;> exact Nat.le_refl _
  exact Kind.spareBits_of_disjoint h (.inl hd)

/-- The mark has a bit of its own. -/
theorem spareBits_putMark_self (hb : start k i + k.recordSize ≤ b.size) (v : Bool) :
    k.spareBits (putMark k i v b) (start k i) = k.spareBits b (start k i) := by
  have hk := four_le_recordSize k
  cases k with
  | polarity => rfl
  | imu9 =>
    rw [Kind.spareBits, Kind.spareBits, putMark, Bytes.word_setWord_self _ _ _ (by omega),
      BitField.get_set_of_disjoint (by decide)]

end Slot

namespace Packet

variable {k : Kind} {p q : Packet k} {b c : Bytes} {i : Nat}

theorem spareBits_of_header (h : Bytes.AgreeOutside 0 Header.size b c) (i : Nat) :
    k.spareBits c (Slot.start k i) = k.spareBits b (Slot.start k i) :=
  Kind.spareBits_of_disjoint h (.inr (by have := Slot.size_le_start k i; omega))

/-- An edit of a slot that keeps its spare bits keeps those of all slots. -/
theorem spareBits_of_slot (h : Bytes.AgreeOutside (Slot.start k i) k.recordSize b c)
    (hi : k.spareBits c (Slot.start k i) = k.spareBits b (Slot.start k i)) (j : Nat) :
    k.spareBits c (Slot.start k j) = k.spareBits b (Slot.start k j) := by
  by_cases hij : i = j
  · rw [← hij, hi]
  · have hd := Slot.disjoint_of_ne k hij
    have hk := Slot.four_le_recordSize k
    exact Kind.spareBits_of_disjoint h (by omega)

/-- No call changes spare bits. -/
theorem Step.spareBits_eq {c : Call k} {r : Reply} (hp : p.Consistent) (h : p.Step c r q)
    (j : Nat) : k.spareBits q.bytes (Slot.start k j) = k.spareBits p.bytes (Slot.start k j) := by
  cases h with
  | write h w =>
    rw [spareBits_of_slot (k.agreeOutside_write w _ _) (Slot.spareBits_write_self w)]
  | setTimestamp h t ht =>
    rw [spareBits_of_slot (Slot.agreeOutside_setTimestamp k _ _ _)
      (Slot.spareBits_setTimestamp_self _)]
  | @validate _ i h hm =>
    rw [spareBits_of_header (Slot.agreeOutside_validated k i p.bytes),
      spareBits_of_slot (Slot.agreeOutside_putMark k i p.bytes true)
        (Slot.spareBits_putMark_self (hp.start_add_le h.lt_capacity) true)]
  | @invalidate _ i h hm =>
    rw [spareBits_of_header (Slot.agreeOutside_invalidated k i p.bytes),
      spareBits_of_slot (Slot.agreeOutside_putMark k i p.bytes false)
        (Slot.spareBits_putMark_self (hp.start_add_le h.lt_capacity) false)]
  | setSource v hv => rw [spareBits_of_header (Header.agreeOutside_put .source v p.bytes)]
  | setOverflow v hv => rw [spareBits_of_header (Header.agreeOutside_put .overflow v p.bytes)]
  | _ => rfl

/-- Packets with the same records and the same spare bits are equal. -/
theorem eq_of_records_eq (hp : p.Consistent) (hq : q.Consistent) (h : q.records = p.records)
    (hs : ∀ i, k.spareBits q.bytes (Slot.start k i) = k.spareBits p.bytes (Slot.start k i)) :
    q = p := by
  have hcapacity : q.capacity.toNatClampNeg = p.capacity.toNatClampNeg := by
    rw [← length_slots, ← length_slots, h]
  have hslot (i : Nat) (hi : i < p.capacity.toNatClampNeg) : q.slotValue i = p.slotValue i := by
    have hvalue := getElem?_slots (hcapacity.symm ▸ hi)
    rw [h, getElem?_slots hi] at hvalue
    exact (Option.some.inj hvalue).symm
  have hrange : (Header.capacity q.bytes).toNatClampNeg =
      (Header.capacity p.bytes).toNatClampNeg := hcapacity
  have hsource : q.source = p.source := by rw [← source_records, h, source_records]
  have hoverflow : q.overflow = p.overflow := by rw [← overflow_records, h, overflow_records]
  have hnumber : q.number = p.number := by
    rw [← Int32.toInt_inj, ← number_records, h, number_records]
  have hdescription : Description.ofBytes k q.bytes = Description.ofBytes k p.bytes := by
    rw [Description.ofBytes, Description.ofBytes, Description.mk.injEq]
    refine ⟨hsource, hoverflow, hnumber, ?_⟩
    rw [hrange]
    exact List.map_congr_left fun i hi =>
      Kind.readRecord_congr (hslot i (List.mem_range.mp hi)) (hs i)
  have hlayout := congrArg Description.layout hdescription
  rw [Description.layout_ofBytes hq, Description.layout_ofBytes hp] at hlayout
  cases p
  cases q
  exact congrArg Packet.mk hlayout

/-! ### Uniqueness -/

section

variable {t : Packet k} {c : Call k} {r s : Reply} {cs : List (Call k)} {rs rs' : List Reply}

/-- The packet decides what a call answers and leaves behind. -/
theorem Step.unique (hp : p.Consistent) (h : p.Step c r q) (h' : p.Step c s t) :
    r = s ∧ q = t := by
  have hrecords := h.perform_records hp
  rw [h'.perform_records hp] at hrecords
  obtain ⟨hreply, hrecords⟩ := Prod.mk.inj hrecords
  refine ⟨hreply.symm, eq_of_records_eq (h'.consistent hp) (h.consistent hp) hrecords.symm ?_⟩
  intro i
  rw [h.spareBits_eq hp, h'.spareBits_eq hp]

theorem Run.unique (hp : p.Consistent) (h : p.Run cs rs q) (h' : p.Run cs rs' t) :
    rs = rs' ∧ q = t := by
  induction h generalizing rs' with
  | nil p =>
    cases h'
    exact ⟨rfl, rfl⟩
  | cons hc _ ih =>
    cases h' with
    | cons hc' hs' =>
      obtain ⟨rfl, rfl⟩ := hc.unique hp hc'
      obtain ⟨rfl, rfl⟩ := ih (hc.consistent hp) hs'
      exact ⟨rfl, rfl⟩

end

end Packet

end EventPackets
