import EventPackets.Proofs.Packet.Iteration
import EventPackets.Proofs.Packet.Refinement

/-!
# The order of events

No timestamp and no overflow counter of a packet that a producer has made is negative, so the
64-bit timestamps of such packets order events by overflow counter first and by timestamp next.

Decoders look at the layout, the counters and the marks of a packet, and at nothing else.  Source,
overflow counter and timestamps of a decoded packet may be negative.  A negative overflow counter
still takes part in the order, but a negative timestamp stands for the whole 64-bit timestamp, so
the overflow counter of the packet has no say in where its event belongs.

## Main results

* `Packet.Produced.nonneg_records`, `Packet.Produced.timestamps_ordered` : what producers make.
* `AnyPacket.ofBytes_of_sameMarks` : what decoders look at.
* `AnyPacket.ofBytes_put`, `AnyPacket.ofBytes_setTimestamp` : what they do not look at.
* `decoded_timestamps` : the timestamps of decoded packets.
-/

namespace EventPackets

variable {k l : Kind}

/-! ### Packets from producers -/

namespace Packet

variable {p : Packet k} {q : Packet l} {slots slots' : List Nat} {i : Nat}

theorem Produced.nonneg_records (h : p.Produced slots) : p.records.Nonneg := by
  obtain ⟨capacity, source, overflow, p, cs, hp, rfl, rfl⟩ := h
  obtain ⟨hc, rfl⟩ := eq_fresh_of_allocate hp
  exact (Call.performAll_run (consistent_fresh hc source overflow) cs).nonneg_records hc

theorem Produced.overflow_nonneg (h : p.Produced slots) : 0 ≤ p.overflow.toInt := by
  have ho := h.nonneg_records.overflow
  rwa [overflow_records] at ho

theorem Produced.timestamp_nonneg (h : p.Produced slots) (hi : i < p.capacity.toNatClampNeg) :
    0 ≤ (p.event i).timestamp.toInt := by
  have ht := h.nonneg_records.timestamp i _ (getElem?_slots hi)
  rw [timestamp_slotValue] at ht
  exact ht

/-- Whatever producers ask of their packets, and whatever of it is refused, overflow counters and
timestamps have 31 bits.  The 64-bit timestamp of an event joins the two without a common bit, so
it has 62 bits.  Events of any packets, of one kind or two, are ordered as their overflow counters
are, and if these are the same, as their timestamps are. -/
theorem Produced.timestamps_ordered (hp : p.Produced slots) (hq : q.Produced slots') :
    (0 ≤ p.overflow.toInt ∧ p.overflow.toInt < 0x80000000) ∧
      ∀ i < p.capacity.toNatClampNeg,
        let d := p.event i
        (0 ≤ d.timestamp.toInt ∧ d.timestamp.toInt < 0x80000000) ∧
          p.overflow.toInt64.toUInt64 <<< 31 &&& d.timestamp.toInt64.toUInt64 = 0 ∧
          d.timestamp64.toInt = p.overflow.toInt * 0x80000000 + d.timestamp.toInt ∧
          (0 ≤ d.timestamp64.toInt ∧ d.timestamp64.toInt < 0x4000000000000000) ∧
          ∀ j < q.capacity.toNatClampNeg,
            let e := q.event j
            (d.timestamp64 < e.timestamp64 ↔
                toLex (p.overflow.toInt, d.timestamp.toInt) <
                  toLex (q.overflow.toInt, e.timestamp.toInt)) ∧
              (d.timestamp64 = e.timestamp64 ↔
                p.overflow = q.overflow ∧ d.timestamp = e.timestamp) := by
  have ho := hp.overflow_nonneg
  have ho' := p.overflow.toInt_lt
  refine ⟨⟨ho, ho'⟩, fun i hi => ?_⟩
  intro d
  have ht : 0 ≤ d.timestamp.toInt := hp.timestamp_nonneg hi
  have ht' := d.timestamp.toInt_lt
  have hsum : d.timestamp64.toInt = p.overflow.toInt * 0x80000000 + d.timestamp.toInt :=
    toInt_timestamp64_of_nonneg ht
  refine ⟨⟨ht, ht'⟩, shiftLeft_and_eq_zero p.overflow ht, hsum, ⟨by omega, by omega⟩,
    fun j hj => ?_⟩
  have hu : 0 ≤ (q.event j).timestamp.toInt := hq.timestamp_nonneg hj
  exact ⟨timestamp64_lt_iff ht hu, timestamp64_eq_iff ht hu⟩

/-- The last moment before an overflow and the first one after it, in packets of two kinds. -/
theorem Produced.timestamps_ordered_across_overflow :
    let p : Packet .polarity :=
      (Call.performAll [.slot 0 (.setTimestamp Int32.maxValue), .slot 0 (.setTimestamp (-1))]
        (fresh .polarity 1 0 6)).value.2
    let q : Packet .imu9 := (Call.performAll [.setOverflow 7] (fresh .imu9 2 0 (-5))).value.2
    p.Produced [] ∧ q.Produced [] ∧ (p.event 0).timestamp64 < (q.event 1).timestamp64 ∧
      (p.event 0).timestamp64.toInt = 6 * 0x80000000 + 0x7FFFFFFF := by
  intro p q
  have hp : p.Produced [] := ⟨1, 0, 6, _, _, value_allocate (by decide) 0 6, rfl, by decide +kernel⟩
  have hq : q.Produced [] :=
    ⟨2, 0, -5, _, _, value_allocate (by decide) 0 (-5), rfl, by decide +kernel⟩
  obtain ⟨-, hevents⟩ := hp.timestamps_ordered hq
  obtain ⟨-, -, hsum, -, horder⟩ := hevents 0 (by decide +kernel)
  refine ⟨hp, hq, (horder 1 (by decide +kernel)).1.mpr ?_, hsum.trans (by decide +kernel)⟩
  exact Prod.Lex.toLex_lt_toLex.mpr (.inl (by decide +kernel))

end Packet

/-! ### Decoded packets -/

namespace AnyPacket

variable {p q : Packet k} {b : Bytes} {i : Nat}

/-- A decoder does not tell packets apart that have the same layout, counters and marks. -/
theorem ofBytes_of_sameMarks (hp : ofBytes p.bytes = .ok ⟨k, p⟩) (hl : p.SameLayout q)
    (hn : q.number = p.number) (hv : q.validCount = p.validCount)
    (hm : ∀ i, Slot.marked k q.bytes i = Slot.marked k p.bytes i) :
    ofBytes q.bytes = .ok ⟨k, q⟩ := by
  have hcons : p.Consistent := consistent_of_ofBytes hp
  have hq : q.Consistent := hcons.of_sameLayout hl
    (by rw [hv, hcons.validCount_eq, Packet.markedSlots_congr fun i _ => hm i])
    (by rw [hv, hn]; exact hcons.validCount_le)
  refine hq.any_ofBytes_eq_ok_iff.mpr fun i hi hmark => ?_
  rw [hl.capacity_eq] at hi
  rw [hm] at hmark
  rw [hn]
  exact marksCounted_of_ofBytes hp i hi hmark

/-- It looks neither at the source nor at the overflow counter. -/
theorem ofBytes_put {f : Header.Field} (hf : f.isFixed = false) (hn : f ≠ .number)
    (hv : f ≠ .valid) (hp : ofBytes b = .ok ⟨k, p⟩) (v : f.Value) :
    ∃ q : Packet k, ofBytes (Header.put f v b) = .ok ⟨k, q⟩ ∧ Header.get f q.bytes = v := by
  obtain rfl : p.bytes = b := bytes_of_ofBytes hp
  exact ⟨⟨Header.put f v p.bytes⟩,
    ofBytes_of_sameMarks hp (.of_put hf v p.bytes) (Header.get_put_of_ne hn.symm v p.bytes)
      (Header.get_put_of_ne hv.symm v p.bytes)
      (Slot.marked_eq_of_header (Header.agreeOutside_put f v p.bytes)),
    Header.get_put_self (consistent_of_ofBytes hp).header_le_size⟩

/-- Nor does it look at the timestamps. -/
theorem ofBytes_setTimestamp (hp : ofBytes b = .ok ⟨k, p⟩) (hi : i < p.capacity.toNatClampNeg)
    (t : Int32) :
    ∃ q : Packet k,
      ofBytes (b.setWord (Slot.start k i + k.timestampOffset) t.toUInt32) = .ok ⟨k, q⟩ ∧
        (q.event i).timestamp = t := by
  obtain rfl : p.bytes = b := bytes_of_ofBytes hp
  generalize hc : p.bytes.setWord (Slot.start k i + k.timestampOffset) t.toUInt32 = c
  have hedit : Bytes.AgreeOutside (Slot.start k i) k.recordSize p.bytes c :=
    hc ▸ Slot.agreeOutside_setTimestamp k i p.bytes t.toUInt32
  have hmarked (j : Nat) : Slot.marked k c j = Slot.marked k p.bytes j := by
    by_cases hij : i = j
    · rw [← hij, ← hc]
      exact Slot.marked_setTimestamp_self t.toUInt32
    · exact Slot.marked_eq_of_agreeOutside hedit hij
  have htimestamp : Slot.timestamp k c i = t :=
    hc ▸ Slot.timestamp_setTimestamp_self ((consistent_of_ofBytes hp).start_add_le hi) t
  have hget := Slot.get_eq_of_agreeOutside hedit
  exact ⟨⟨c⟩, ofBytes_of_sameMarks hp (.of_agreeOutside hedit) (hget .number) (hget .valid)
    hmarked, htimestamp⟩

end AnyPacket

/-- Decoders accept any source, any overflow counter and any timestamps in a packet, negative ones
too.  A 64-bit timestamp is negative if one of its two parts is.  Events whose timestamps are not
negative have the sum of both parts for a 64-bit timestamp and are in order, whatever the overflow
counters of their packets are.  A negative timestamp is the 64-bit timestamp as well, and the
overflow counter is lost. -/
theorem decoded_timestamps {b : Bytes} {p : Packet k} (hp : AnyPacket.ofBytes b = .ok ⟨k, p⟩) :
    ((∀ v : Int16, ∃ q : Packet k,
        AnyPacket.ofBytes (Header.put .source v b) = .ok ⟨k, q⟩ ∧ q.source = v) ∧
      (∀ v : Int32, ∃ q : Packet k,
        AnyPacket.ofBytes (Header.put .overflow v b) = .ok ⟨k, q⟩ ∧ q.overflow = v) ∧
      ∀ i < p.capacity.toNatClampNeg, ∀ t : Int32, ∃ q : Packet k,
        AnyPacket.ofBytes (b.setWord (Slot.start k i + k.timestampOffset) t.toUInt32) =
            .ok ⟨k, q⟩ ∧
          (q.event i).timestamp = t) ∧
      ∀ i < p.capacity.toNatClampNeg,
        let d := p.event i
        (d.timestamp64.toInt =
            if d.timestamp.toInt < 0 then d.timestamp.toInt
            else p.overflow.toInt * 0x80000000 + d.timestamp.toInt) ∧
          (0 ≤ d.timestamp64.toInt ↔ 0 ≤ p.overflow.toInt ∧ 0 ≤ d.timestamp.toInt) ∧
          ∀ (l : Kind) (c : Bytes) (q : Packet l), AnyPacket.ofBytes c = .ok ⟨l, q⟩ →
            ∀ j < q.capacity.toNatClampNeg,
              let e := q.event j
              0 ≤ d.timestamp.toInt → 0 ≤ e.timestamp.toInt →
                (d.timestamp64 < e.timestamp64 ↔
                    toLex (p.overflow.toInt, d.timestamp.toInt) <
                      toLex (q.overflow.toInt, e.timestamp.toInt)) ∧
                  (d.timestamp64 = e.timestamp64 ↔
                    p.overflow = q.overflow ∧ d.timestamp = e.timestamp) := by
  refine ⟨⟨?_, ?_, ?_⟩, fun i hi => ⟨?_, ?_, fun l c q hq j hj ht hu => ⟨?_, ?_⟩⟩⟩
  · exact AnyPacket.ofBytes_put (f := .source) rfl nofun nofun hp
  · exact AnyPacket.ofBytes_put (f := .overflow) rfl nofun nofun hp
  · exact fun i hi => AnyPacket.ofBytes_setTimestamp hp hi
  · exact toInt_timestamp64 p.overflow (p.event i).timestamp
  · exact timestamp64_nonneg_iff
  · exact timestamp64_lt_iff ht hu
  · exact timestamp64_eq_iff ht hu

/-- In a new packet for two events the second one gets a timestamp of `-1`. -/
theorem decoded_timestamps_of_minus_one :
    let p : Packet .imu9 := .fresh .imu9 2 5 7
    AnyPacket.ofBytes p.bytes = .ok ⟨.imu9, p⟩ ∧
      (p.event 1).timestamp64.toInt = 7 * 0x80000000 ∧
      ∃ q : Packet .imu9,
        AnyPacket.ofBytes (p.bytes.setWord (Slot.start .imu9 1 + 4) 0xFFFFFFFF) =
            .ok ⟨.imu9, q⟩ ∧
          (q.event 1).timestamp = -1 := by
  intro p
  have hp : AnyPacket.ofBytes p.bytes = .ok ⟨.imu9, p⟩ :=
    AnyPacket.ofBytes_eq_ok_iff.mpr ⟨rfl, by decide +kernel⟩
  have hslot : 1 < p.capacity.toNatClampNeg := by decide +kernel
  obtain ⟨⟨-, -, haccepts⟩, hevents⟩ := decoded_timestamps hp
  exact ⟨hp, (hevents 1 hslot).1.trans (by decide +kernel), haccepts 1 hslot (-1)⟩

/-- A decoded packet whose source is negative and whose only timestamp is, in spite of an overflow
counter of three.  Its event comes before the event of a packet that has an overflow counter of
zero. -/
theorem negative_timestamp_decoded :
    let b : Bytes :=
      #[1, 0, 0xFE, 0xFF, 8, 0, 0, 0, 4, 0, 0, 0, 3, 0, 0, 0, 1, 0, 0, 0, 0, 0, 0, 0, 0, 0, 0, 0,
        0, 0, 0, 0, 5, 0, 0, 0x80]
    let p : Packet .polarity := ⟨b⟩
    let q : Packet .polarity := .fresh .polarity 1 0 0
    AnyPacket.ofBytes b = .ok ⟨.polarity, p⟩ ∧ AnyPacket.ofBytes q.bytes = .ok ⟨.polarity, q⟩ ∧
      p.source = -2 ∧ p.overflow = 3 ∧ (p.event 0).timestamp = -0x7FFFFFFB ∧
      (p.event 0).timestamp64 = -0x7FFFFFFB ∧ q.overflow = 0 ∧
      (p.event 0).timestamp64 < (q.event 0).timestamp64 := by
  intro b p q
  have hp : AnyPacket.ofBytes b = .ok ⟨.polarity, p⟩ :=
    AnyPacket.ofBytes_eq_ok_iff.mpr ⟨rfl, by decide +kernel⟩
  have hq : AnyPacket.ofBytes q.bytes = .ok ⟨.polarity, q⟩ :=
    AnyPacket.ofBytes_eq_ok_iff.mpr ⟨rfl, by decide +kernel⟩
  refine ⟨hp, hq, ?_⟩
  decide +kernel

end EventPackets
