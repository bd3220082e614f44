import EventPackets.Packet.Decode
import EventPackets.Proofs.Packet.Frame

/-!
# Consistent packets

A packet is *consistent* when its header has the layout of its kind and describes the bytes that
are there, and when its valid count is the number of marked slots and at most the event number.
This is what producers keep up and what decoders check, apart from one condition: a decoder also
wants every marked slot to lie below the event number.

## Main definitions

* `Packet.Consistent` : layout, size and counters fit together.
* `Packet.SameLayout` : two packets that differ neither in layout nor in size.

## Main results

* `toInt_succSaturating`, `toInt_predSaturating` : the counters as integers.
* `Packet.length_markedSlots_of_set` : setting a mark adds one to the number of marks.
* `Packet.Consistent.validCount_lt_capacity` : there is room for the mark of another event.
-/

namespace EventPackets

/-- The header fields that a packet keeps from its creation on. -/
def Header.Field.isFixed : Header.Field → Bool
  | eventType => true
  | eventSize => true
  | timestampOffset => true
  | capacity => true
  | _ => false

/-! ### Saturating counters -/

theorem toInt_succSaturating (n : Int32) :
    (succSaturating n).toInt = min (n.toInt + 1) Int32.maxValue.toInt := by
  have hlt := n.toInt_lt
  have hge := n.le_toInt
  unfold succSaturating
  split
  next h => subst h; decide
  next h =>
    have hne : n.toInt ≠ Int32.maxValue.toInt := fun he => h (Int32.toInt_inj.mp he)
    rw [Int32.toInt_maxValue] at hne ⊢
    rw [Int32.toInt_add, Int32.toInt_one, Int.bmod_eq_of_le (by omega) (by omega)]
    omega

theorem toInt_predSaturating {n : Int32} (h : 0 < n.toInt) :
    (predSaturating n).toInt = n.toInt - 1 := by
  have hlt := n.toInt_lt
  have hne : n ≠ Int32.minValue := by
    rintro rfl
    exact absurd h (by decide)
  rw [predSaturating, if_neg hne, Int32.toInt_sub, Int32.toInt_one,
    Int.bmod_eq_of_le (by omega) (by omega)]

theorem succSaturating_nonneg {n : Int32} (h : 0 ≤ n.toInt) : 0 ≤ (succSaturating n).toInt := by
  rw [toInt_succSaturating, Int32.toInt_maxValue]
  omega

theorem predSaturating_nonneg {n : Int32} (h : 0 < n.toInt) : 0 ≤ (predSaturating n).toInt := by
  rw [toInt_predSaturating h]
  omega

/-! ### Counting marks -/

namespace Packet

variable {k : Kind} {b c : Bytes} {n i : Nat}

theorem markedSlots_congr (h : ∀ j, j < n → Slot.marked k c j = Slot.marked k b j) :
    markedSlots k c n = markedSlots k b n :=
  List.filter_congr fun j hj => h j (List.mem_range.mp hj)

theorem markedSlots_succ (k : Kind) (b : Bytes) (n : Nat) :
    markedSlots k b (n + 1) = markedSlots k b n ++ if Slot.marked k b n then [n] else [] := by
  simp [markedSlots, List.range_succ, List.filter_append, List.filter_cons]

/-- One more slot is marked after a mark has been set. -/
theorem length_markedSlots_of_set (hi : i < n) (hb : Slot.marked k b i = false)
    (hc : Slot.marked k c i = true) (h : ∀ j, i ≠ j → Slot.marked k c j = Slot.marked k b j) :
    (markedSlots k c n).length = (markedSlots k b n).length + 1 := by
  induction n with
  | zero => omega
  | succ n ih =>
    rw [markedSlots_succ, markedSlots_succ, List.length_append, List.length_append]
    by_cases hn : i = n
    · subst hn
      rw [markedSlots_congr fun j hj => h j (by omega)]
      simp [hb, hc]
    · rw [ih (by omega), h n hn]
      omega

theorem mem_markedSlots : i ∈ markedSlots k b n ↔ i < n ∧ Slot.marked k b i = true := by
  rw [markedSlots, List.mem_filter, List.mem_range]

theorem length_markedSlots_le (k : Kind) (b : Bytes) (n : Nat) :
    (markedSlots k b n).length ≤ n := by
  have h := List.length_filter_le (Slot.marked k b) (List.range n)
  rwa [List.length_range] at h

/-! ### Consistent packets -/

/-- The header has the layout of the kind and describes the bytes that are there, and its
counters follow the marks. -/
structure Consistent (p : Packet k) : Prop where
  eventType_eq : Header.eventType p.bytes = k.eventType.id
  eventSize_eq : (Header.eventSize p.bytes).toInt = k.recordSize
  timestampOffset_eq : (Header.timestampOffset p.bytes).toInt = k.timestampOffset
  capacity_pos : 0 < p.capacity.toInt
  size_eq : p.bytes.size = Header.size + p.capacity.toNatClampNeg * k.recordSize
  validCount_eq :
    p.validCount.toInt = (markedSlots k p.bytes p.capacity.toNatClampNeg).length
  validCount_le : p.validCount.toInt ≤ p.number.toInt

/-- Two packets have the same layout: kind, record layout, capacity and size. -/
structure SameLayout (p q : Packet k) : Prop where
  eventType_eq : Header.eventType q.bytes = Header.eventType p.bytes
  eventSize_eq : Header.eventSize q.bytes = Header.eventSize p.bytes
  timestampOffset_eq : Header.timestampOffset q.bytes = Header.timestampOffset p.bytes
  capacity_eq : q.capacity = p.capacity
  size_eq : q.bytes.size = p.bytes.size

namespace SameLayout

variable {p q r : Packet k}

theorem refl (p : Packet k) : SameLayout p p := ⟨rfl, rfl, rfl, rfl, rfl⟩

theorem trans (h : SameLayout p q) (h' : SameLayout q r) : SameLayout p r :=
  ⟨h'.eventType_eq.trans h.eventType_eq, h'.eventSize_eq.trans h.eventSize_eq,
    h'.timestampOffset_eq.trans h.timestampOffset_eq, h'.capacity_eq.trans h.capacity_eq,
    h'.size_eq.trans h.size_eq⟩

/-- An edit of a slot keeps the layout. -/
theorem of_agreeOutside (h : Bytes.AgreeOutside (Slot.start k i) k.recordSize p.bytes c) :
    SameLayout p ⟨c⟩ :=
  have hf := Slot.get_eq_of_agreeOutside h
  ⟨hf .eventType, hf .eventSize, hf .timestampOffset, hf .capacity, h.size_eq⟩

/-- So does an edit of a header field that is not part of it. -/
theorem of_put {f : Header.Field} (hf : f.isFixed = false) (v : f.Value) (b : Bytes) :
    SameLayout (⟨b⟩ : Packet k) ⟨Header.put f v b⟩ where
  eventType_eq := Header.get_put_of_ne (f := .eventType) (by rintro rfl; cases hf) v b
  eventSize_eq := Header.get_put_of_ne (f := .eventSize) (by rintro rfl; cases hf) v b
  timestampOffset_eq :=
    Header.get_put_of_ne (f := .timestampOffset) (by rintro rfl; cases hf) v b
  capacity_eq := Header.get_put_of_ne (f := .capacity) (by rintro rfl; cases hf) v b
  size_eq := Header.size_put f v b

end SameLayout

namespace Consistent

variable {p q : Packet k}

theorem validCount_nonneg (h : p.Consistent) : 0 ≤ p.validCount.toInt := by
  rw [h.validCount_eq]
  exact Int.natCast_nonneg _

theorem number_nonneg (h : p.Consistent) : 0 ≤ p.number.toInt :=
  Int.le_trans h.validCount_nonneg h.validCount_le

theorem toInt_capacity (h : p.Consistent) : (p.capacity.toNatClampNeg : Int) = p.capacity.toInt :=
  Int.toNat_of_nonneg (Int.le_of_lt h.capacity_pos)

theorem validCount_le_capacity (h : p.Consistent) : p.validCount.toInt ≤ p.capacity.toInt := by
  rw [h.validCount_eq, ← h.toInt_capacity]
  exact_mod_cast length_markedSlots_le ..

/-- A slot without a mark leaves room for one more valid event. -/
theorem validCount_lt_capacity (h : p.Consistent) (hi : i < p.capacity.toNatClampNeg)
    (hm : Slot.marked k p.bytes i = false) : p.validCount.toInt < p.capacity.toInt := by
  have hlt : (markedSlots k p.bytes p.capacity.toNatClampNeg).length <
      (List.range p.capacity.toNatClampNeg).length :=
    List.length_filter_lt_length_iff_exists.mpr ⟨i, List.mem_range.mpr hi, by simp [hm]⟩
  rw [List.length_range] at hlt
  rw [h.validCount_eq, ← h.toInt_capacity]
  exact_mod_cast hlt

/-- A marked slot is counted. -/
theorem validCount_pos (h : p.Consistent) (hi : i < p.capacity.toNatClampNeg)
    (hm : Slot.marked k p.bytes i = true) : 0 < p.validCount.toInt := by
  rw [h.validCount_eq]
  exact_mod_cast List.length_pos_of_mem (mem_markedSlots.mpr ⟨hi, hm⟩)

theorem header_le_size (h : p.Consistent) : Header.size ≤ p.bytes.size := by
  rw [h.size_eq]
  exact Nat.le_add_right ..

/-- The record of a slot lies within the packet. -/
theorem start_add_le (h : p.Consistent) (hi : i < p.capacity.toNatClampNeg) :
    Slot.start k i + k.recordSize ≤ p.bytes.size := by
  rw [h.size_eq]
  exact Slot.start_add_le k hi

/-- A packet with the same layout is consistent as soon as its counters are. -/
theorem of_sameLayout (h : p.Consistent) (hl : SameLayout p q)
    (hv : q.validCount.toInt = (markedSlots k q.bytes p.capacity.toNatClampNeg).length)
    (hn : q.validCount.toInt ≤ q.number.toInt) : q.Consistent where
  eventType_eq := hl.eventType_eq.trans h.eventType_eq
  eventSize_eq := by rw [hl.eventSize_eq, h.eventSize_eq]
  timestampOffset_eq := by rw [hl.timestampOffset_eq, h.timestampOffset_eq]
  capacity_pos := by rw [hl.capacity_eq]; exact h.capacity_pos
  size_eq := by rw [hl.size_eq, hl.capacity_eq, h.size_eq]
  validCount_eq := by rw [hl.capacity_eq, hv]
  validCount_le := hn

end Consistent

end Packet

end EventPackets
