import EventPackets.Packet.Any
import EventPackets.Proofs.Packet.Consistency

/-!
# What decoders accept

A decoder wants one thing more than consistency: every marked slot has to lie below the event
number.  A decoder for any kind of packet is the decoder for the kind that the header names.

## Main definitions

* `Packet.MarksCounted` : every marked slot lies below the event number.

## Main results

* `Packet.fault?_eq_none_iff` : what a decoder of one kind accepts.
* `Packet.Consistent.fault?_eq_some` : the only fault that a consistent packet can have.
* `AnyPacket.ofBytes_eq_ok_iff` : what a decoder of any kind accepts.
-/

namespace EventPackets

namespace Packet

variable {k : Kind}

/-- Every marked slot lies below the event number. -/
def MarksCounted (p : Packet k) : Prop :=
  ∀ i, i < p.capacity.toNatClampNeg → Slot.marked k p.bytes i = true → (i : Int) < p.number.toInt

variable {b : Bytes}

theorem find?_markedSlots_eq_none_iff {number : Int32} {n : Nat} (h : 0 ≤ number.toInt) :
    ((markedSlots k b n).find? fun i => number.toNatClampNeg ≤ i) = none ↔
      ∀ i, i < n → Slot.marked k b i = true → (i : Int) < number.toInt := by
  have hn : (number.toNatClampNeg : Int) = number.toInt := Int.toNat_of_nonneg h
  simp only [List.find?_eq_none, mem_markedSlots, decide_eq_true_eq, and_imp]
  exact forall_congr' fun i => imp_congr_right fun _ => imp_congr_right fun _ => by omega

/-- The counters that a decoder accepts. -/
theorem countFault?_eq_none_iff :
    countFault? k b = none ↔
      (Header.valid b).toInt = (markedSlots k b (Header.capacity b).toNatClampNeg).length ∧
        (Header.valid b).toInt ≤ (Header.number b).toInt ∧ (⟨b⟩ : Packet k).MarksCounted := by
  have hv : (Header.valid b).toNatClampNeg = (Header.valid b).toInt.toNat := rfl
  simp only [countFault?, Int32.lt_iff_toInt_lt, Int32.toInt_zero]
  split
  next h =>
    refine ⟨nofun, ?_⟩
    rintro ⟨hvalid, hle, -⟩
    omega
  next h =>
    split
    next hlt =>
      refine ⟨nofun, ?_⟩
      rintro ⟨-, hle, -⟩
      omega
    next hlt =>
      have hnumber : 0 ≤ (Header.number b).toInt := by omega
      have hfind := find?_markedSlots_eq_none_iff (k := k) (b := b)
        (n := (Header.capacity b).toNatClampNeg) hnumber
      split
      next i hi =>
        refine ⟨nofun, ?_⟩
        rintro ⟨-, -, hcounted⟩
        rw [hfind.mpr hcounted] at hi
        cases hi
      next hi =>
        have hcounted : (⟨b⟩ : Packet k).MarksCounted := hfind.mp hi
        split
        next heq => exact ⟨fun _ => ⟨by omega, by omega, hcounted⟩, fun _ => rfl⟩
        next hne => exact ⟨nofun, fun hall => absurd hall.1 (by omega)⟩

theorem packetSize?_of_layout (hc : 0 < (Header.capacity b).toInt)
    (hs : (Header.eventSize b).toInt = k.recordSize) :
    Header.packetSize? b =
      some (Header.size + (Header.capacity b).toNatClampNeg * k.recordSize) := by
  simp only [Header.packetSize?_eq, hs, Int.natCast_nonneg, and_true]
  rw [if_pos (Int.le_of_lt hc), Int.toNat_natCast, Int32.toNat_toInt]

/-- Layout and size of a consistent packet have no fault. -/
theorem Consistent.fault?_eq {p : Packet k} (h : p.Consistent) :
    fault? k p.bytes = (countFault? k p.bytes).map .invalidLayout := by
  have hc : ¬ Header.capacity p.bytes ≤ 0 := by
    rw [Int32.le_iff_toInt_le, Int32.toInt_zero]
    exact Int.not_le.mpr h.capacity_pos
  have hs : Header.packetSize? p.bytes = some p.bytes.size :=
    (packetSize?_of_layout h.capacity_pos h.eventSize_eq).trans (congrArg some h.size_eq.symm)
  have hr : ¬ ((Header.eventSize p.bytes).toInt ≠ k.recordSize
      ∨ (Header.timestampOffset p.bytes).toInt ≠ k.timestampOffset) := by
    rw [h.eventSize_eq, h.timestampOffset_eq]
    simp
  rw [fault?, if_neg (Nat.not_lt.mpr h.header_le_size), if_neg (not_not_intro h.eventType_eq),
    if_neg hr, if_neg hc, hs]
  exact if_neg (not_not_intro rfl)

/-- A decoder accepts the consistent packets whose marked slots lie below the event number. -/
theorem fault?_eq_none_iff {p : Packet k} :
    fault? k p.bytes = none ↔ p.Consistent ∧ p.MarksCounted := by
  constructor
  · intro h
    unfold fault? at h
    split at h
    · cases h
    next hheader =>
    split at h
    · cases h
    next htype =>
    split at h
    · cases h
    next hrecord =>
    split at h
    · cases h
    next hcapacity =>
    rw [Int32.le_iff_toInt_le, Int32.toInt_zero, Int.not_le] at hcapacity
    obtain ⟨hsize, hoffset⟩ := not_or.mp hrecord
    rw [packetSize?_of_layout hcapacity (Decidable.not_not.mp hsize)] at h
    dsimp only at h
    split at h
    · cases h
    next hlength =>
    obtain ⟨hvalid, hle, hcounted⟩ := countFault?_eq_none_iff.mp (Option.map_eq_none_iff.mp h)
    exact ⟨⟨Decidable.not_not.mp htype, Decidable.not_not.mp hsize, Decidable.not_not.mp hoffset,
      hcapacity, (Decidable.not_not.mp hlength).symm, hvalid, hle⟩, hcounted⟩
  · rintro ⟨h, hcounted⟩
    rw [h.fault?_eq, countFault?_eq_none_iff.mpr ⟨h.validCount_eq, h.validCount_le, hcounted⟩]
    rfl

/-- The only fault of a consistent packet is a mark that the event number does not reach. -/
theorem Consistent.fault?_eq_some {p : Packet k} (h : p.Consistent) (hm : ¬ p.MarksCounted) :
    ∃ i, i < p.capacity.toNatClampNeg ∧ Slot.marked k p.bytes i = true ∧ p.number.toInt ≤ i ∧
      fault? k p.bytes = some (.invalidLayout (.markBeyondNumber i p.number)) := by
  have hvalid : 0 ≤ (Header.valid p.bytes).toInt := h.validCount_nonneg
  have hle : (Header.valid p.bytes).toInt ≤ (Header.number p.bytes).toInt := h.validCount_le
  have hnumber : 0 ≤ (Header.number p.bytes).toInt := h.number_nonneg
  rw [h.fault?_eq, countFault?]
  simp only [Int32.lt_iff_toInt_lt, Int32.toInt_zero]
  rw [if_neg (by omega), if_neg (by omega)]
  split
  next i hi =>
    obtain ⟨hlt, hmarked⟩ := mem_markedSlots.mp (List.mem_of_find?_eq_some hi)
    have hbehind : (Header.number p.bytes).toInt.toNat ≤ i := by simpa using List.find?_some hi
    exact ⟨i, hlt, hmarked, Int.toNat_le.mp hbehind, rfl⟩
  next hi => exact absurd ((find?_markedSlots_eq_none_iff hnumber).mp hi) hm

end Packet

namespace AnyPacket

variable {b : Bytes} {k : Kind}

theorem kind?_of_eventType (h : Header.eventType b = k.eventType.id) : kind? b = some k := by
  rw [kind?, h, EventType.ofId?_id, Option.bind_some, Kind.ofEventType?_eventType]

/-- A decoder for any kind of packet is the decoder for the kind that the header names. -/
theorem ofBytes_of_consistent {p : Packet k} (hp : p.Consistent) :
    ofBytes p.bytes = (Packet.ofBytes k p.bytes).map fun q => ⟨k, q⟩ := by
  rw [ofBytes, if_neg (Nat.not_lt.mpr hp.header_le_size), kind?_of_eventType hp.eventType_eq]

/-- What it accepts is what the decoder for that kind accepts. -/
theorem ofBytes_eq_ok_iff {p : AnyPacket} :
    ofBytes b = .ok p ↔ p.bytes = b ∧ Packet.fault? p.kind b = none := by
  constructor
  · intro h
    unfold ofBytes at h
    split at h
    · cases h
    · split at h
      next k hk =>
        cases hq : Packet.ofBytes k b with
        | error e =>
          rw [hq] at h
          cases h
        | ok q =>
          rw [hq] at h
          cases h
          exact Packet.ofBytes_eq_ok_iff.mp hq
      next => cases h
  · rintro ⟨rfl, hfault⟩
    have hp : p.packet.Consistent := (Packet.fault?_eq_none_iff.mp hfault).1
    have hq : Packet.ofBytes p.kind p.packet.bytes = .ok p.packet :=
      Packet.ofBytes_eq_ok_iff.mpr ⟨rfl, hfault⟩
    rw [bytes, ofBytes_of_consistent hp, hq]
    rfl

section

variable {p : AnyPacket}

theorem bytes_of_ofBytes (h : ofBytes b = .ok p) : p.bytes = b :=
  (ofBytes_eq_ok_iff.mp h).1

theorem consistent_of_ofBytes (h : ofBytes b = .ok p) : p.packet.Consistent := by
  obtain ⟨rfl, hfault⟩ := ofBytes_eq_ok_iff.mp h
  exact (Packet.fault?_eq_none_iff.mp hfault).1

theorem marksCounted_of_ofBytes (h : ofBytes b = .ok p) : p.packet.MarksCounted := by
  obtain ⟨rfl, hfault⟩ := ofBytes_eq_ok_iff.mp h
  exact (Packet.fault?_eq_none_iff.mp hfault).2

end

end AnyPacket

/-! ### Consistent packets -/

namespace Packet.Consistent

variable {k : Kind} {q : Packet k}

/-- A consistent packet is decoded from its own bytes if its marks are counted. -/
theorem ofBytes_eq_ok_iff (h : q.Consistent) :
    ofBytes k q.bytes = .ok q ↔ q.MarksCounted := by
  rw [Packet.ofBytes_eq_ok_iff, fault?_eq_none_iff]
  exact ⟨fun hq => hq.2.2, fun hm => ⟨rfl, h, hm⟩⟩

theorem any_ofBytes_eq_ok_iff (h : q.Consistent) :
    AnyPacket.ofBytes q.bytes = .ok ⟨k, q⟩ ↔ q.MarksCounted := by
  rw [AnyPacket.ofBytes_eq_ok_iff, fault?_eq_none_iff]
  exact ⟨fun hq => hq.2.2, fun hm => ⟨rfl, h, hm⟩⟩

/-- Otherwise the decoders say which mark is not counted. -/
theorem ofBytes_eq_error (h : q.Consistent) (hm : ¬ q.MarksCounted) :
    ∃ i, i < q.capacity.toNatClampNeg ∧ Slot.marked k q.bytes i = true ∧ q.number.toInt ≤ i ∧
      ofBytes k q.bytes = .error (.invalidLayout (.markBeyondNumber i q.number)) ∧
      AnyPacket.ofBytes q.bytes = .error (.invalidLayout (.markBeyondNumber i q.number)) := by
  obtain ⟨i, hlt, hmarked, hle, hi⟩ := h.fault?_eq_some hm
  have hk := ofBytes_eq_error_iff.mpr hi
  refine ⟨i, hlt, hmarked, hle, hk, ?_⟩
  rw [AnyPacket.ofBytes_of_consistent h, hk]
  rfl

end Packet.Consistent

end EventPackets
