import EventPackets.Packet.Description
import EventPackets.Proofs.Bytes.Digits
import EventPackets.Proofs.Packet.Acceptance
import EventPackets.Proofs.Packet.Step
import EventPackets.Proofs.Record.Imu9
import EventPackets.Proofs.Record.Polarity

/-!
# The layout of packets

The documented layout puts the values of a description one after another: the eight header fields,
then the words of every record.  A buffer is the layout of a description exactly if it has the
right size and each value is read in its place.  So laying out and reading undo each other, and the
layouts of the well-formed descriptions are exactly the buffers that a decoder accepts.

## Main definitions

* `Description.Heads` : the header of a buffer has the values of a description.

## Main results

* `Kind.readRecord_eq_iff` : the record that is read, and the bytes of that record.
* `Description.layout_eq_iff` : the buffer that a description is laid out as.
* `Description.ofBytes_layout`, `Description.layout_ofBytes` : laying out and reading.
* `layout_iff_accepted` : the layouts of well-formed descriptions are what decoders accept.
-/

namespace EventPackets

theorem eq_ofNat_of_toInt {x : Int32} {n : Nat} (h : x.toInt = n) : x = Int32.ofNat n := by
  have hlt := x.toInt_lt
  rw [← Int32.toInt_inj, h, Int32.toInt_ofNat_of_lt (by omega)]

/-! ### Header fields -/

namespace Header

theorem Width.decode_eq_decode_iff {w : Width} {m n : Nat} :
    w.decode m = w.decode n ↔ m % Bytes.bound w.bytes = n % Bytes.bound w.bytes := by
  cases w with
  | half =>
    rw [decode, decode, ← Int16.toBitVec_inj, ← BitVec.toNat_inj]
    exact Iff.rfl
  | full =>
    rw [decode, decode, ← Int32.toBitVec_inj, ← BitVec.toNat_inj]
    exact Iff.rfl

variable {f : Field} {b : Bytes}

/-- A field has the value with given digits exactly if the digits stand in its place. -/
theorem get_eq_decode_iff {n : Nat} :
    get f b = f.width.decode n ↔ b.Holds f.offset (Bytes.digitsLE f.width.bytes n) := by
  rw [Bytes.holds_digitsLE_iff, get, Width.decode_eq_decode_iff,
    Nat.mod_eq_of_lt (Bytes.readLE_lt b f.offset f.width.bytes)]

theorem get_eq_iff {v : f.Value} :
    get f b = v ↔ b.Holds f.offset (Bytes.digitsLE f.width.bytes (f.width.encode v)) := by
  rw [← get_eq_decode_iff, Width.decode_encode]

end Header

/-! ### Records -/

namespace Bytes

variable {b : Bytes} {i : Nat}

theorem toNat_word (b : Bytes) (i : Nat) : (b.word i).toNat = b.readLE i 4 := by
  rw [word, UInt32.toNat_ofNat']
  exact Nat.mod_eq_of_lt (readLE_lt b i 4)

theorem holds_word_iff {w : UInt32} : b.Holds i (digitsLE 4 w.toNat) ↔ b.word i = w := by
  have hw : w.toNat < bound 4 := w.toNat_lt
  rw [holds_digitsLE_iff, ← UInt32.toNat_inj, toNat_word, Nat.mod_eq_of_lt hw]

end Bytes

theorem Measurement.all_getElem?_iff {j : Nat} {m : Measurement} :
    all[j]? = some m ↔ j = m.rank := by
  constructor
  · intro h
    have hrank : (all.map rank)[j]? = some m.rank := by rw [List.getElem?_map, h, Option.map_some]
    have hall : all.map rank = List.range 10 := rfl
    rw [hall] at hrank
    obtain ⟨hj, hr⟩ := List.getElem?_eq_some_iff.mp hrank
    rwa [List.getElem_range] at hr
  · rintro rfl
    cases m <;> rfl

/-- The words of a sample stand behind info word and timestamp. -/
theorem Imu9Sample.holds_values_iff {b : Bytes} {start : Nat} {s : Imu9Sample} :
    b.Holds (start + 8) ((s.values.map fun v => v.bits.toNat).flatMap (Bytes.digitsLE 4)) ↔
      read b start = s := by
  rw [read_eq_iff, values, List.map_map, List.flatMap_map,
    Bytes.holds_flatMap_iff (n := 4) fun m => Bytes.length_digitsLE 4 _]
  simp only [Measurement.all_getElem?_iff, Function.comp_apply, Bytes.holds_word_iff]
  constructor
  · intro h m
    have hm := h m.rank m rfl
    rwa [Nat.add_assoc, Nat.mul_comm] at hm
  · rintro h j m rfl
    rw [Nat.add_assoc, Nat.mul_comm]
    exact h m

/-- A record is read exactly where its bytes stand, if its fields fit their places. -/
theorem Kind.readRecord_eq_iff (k : Kind) {b : Bytes} {start : Nat} {r : k.Record} :
    k.readRecord b start = r ↔ k.RecordFits r ∧ b.Holds start (k.recordDigits r) := by
  cases k with
  | polarity =>
    change PolarityRecord at r
    obtain ⟨valid, data, timestamp⟩ := r
    have hfields := PolarityRecord.ofWord_eq_iff (b.word start) ⟨valid, data, timestamp⟩
    simp only [readRecord, RecordFits, recordDigits, recordWords, PolarityRecord.mk.injEq,
      List.flatMap_cons, List.flatMap_nil, List.append_nil, Bytes.holds_append_iff,
      Bytes.length_digitsLE, Bytes.holds_word_iff, PolarityData.read, timestampOffset]
    rw [← and_assoc, hfields, Bytes.holds_digitsLE_iff, Bytes.toNat_word, ← and_assoc]
    refine and_congr_left fun _ => and_congr_right fun hfits => ?_
    have hlt : PolarityRecord.dataWord ⟨valid, data, timestamp⟩ < Bytes.bound 4 := by
      have hv := valid.toNat_lt
      have ho := data.on.toNat_lt
      have hbound : Bytes.bound 4 = 0x100000000 := rfl
      simp only [PolarityRecord.dataWord] at hfits ⊢
      omega
    rw [Nat.mod_eq_of_lt hlt]
  | imu9 =>
    change Imu9Record at r
    obtain ⟨info, timestamp, data⟩ := r
    simp only [readRecord, RecordFits, recordDigits, recordWords, Imu9Record.mk.injEq,
      List.flatMap_cons, Bytes.holds_append_iff, Bytes.length_digitsLE, Bytes.holds_word_iff,
      Nat.add_assoc, Imu9Sample.holds_values_iff, timestampOffset, true_and]

/-- The mark of a slot is that of its record. -/
theorem Slot.marked_eq_recordValid (k : Kind) (b : Bytes) (i : Nat) :
    marked k b i = k.recordValid (k.readRecord b (start k i)) := by
  cases k with
  | polarity => rfl
  | imu9 =>
    have hmark := BitField.get_bne_zero (BitField.toNat_get_mark (b.word (start .imu9 i)))
    simp only [marked, Kind.recordValid, Kind.readRecord]
    generalize (BitField.mark.get (b.word (start .imu9 i)) != 0) = c at hmark ⊢
    rw [← hmark]
    cases c <;> rfl

/-! ### Descriptions -/

namespace Description

variable {k : Kind} {d : Description k} {b : Bytes}

/-- The header of a buffer has the values of a description. -/
structure Heads (d : Description k) (b : Bytes) : Prop where
  eventType_eq : Header.eventType b = k.eventType.id
  source_eq : Header.source b = d.source
  eventSize_eq : Header.eventSize b = Int32.ofNat k.recordSize
  timestampOffset_eq : Header.timestampOffset b = Int32.ofNat k.timestampOffset
  overflow_eq : Header.overflow b = d.overflow
  capacity_eq : Header.capacity b = Int32.ofNat d.records.length
  number_eq : Header.number b = d.number
  valid_eq : Header.valid b = Int32.ofNat d.validCount

theorem holds_headerDigits_iff : b.Holds 0 d.headerDigits ↔ d.Heads b := by
  simp only [headerDigits, Bytes.holds_append_iff, List.length_append, Bytes.length_digitsLE,
    Nat.zero_add, Nat.reduceAdd]
  constructor
  · rintro ⟨⟨⟨⟨⟨⟨⟨h0, h2⟩, h4⟩, h8⟩, h12⟩, h16⟩, h20⟩, h24⟩
    exact ⟨Header.get_eq_iff.mpr h0, Header.get_eq_iff.mpr h2, Header.get_eq_decode_iff.mpr h4,
      Header.get_eq_decode_iff.mpr h8, Header.get_eq_iff.mpr h12,
      Header.get_eq_decode_iff.mpr h16, Header.get_eq_iff.mpr h20,
      Header.get_eq_decode_iff.mpr h24⟩
  · rintro ⟨h0, h2, h4, h8, h12, h16, h20, h24⟩
    exact ⟨⟨⟨⟨⟨⟨⟨Header.get_eq_iff.mp h0, Header.get_eq_iff.mp h2⟩,
      Header.get_eq_decode_iff.mp h4⟩, Header.get_eq_decode_iff.mp h8⟩,
      Header.get_eq_iff.mp h12⟩, Header.get_eq_decode_iff.mp h16⟩, Header.get_eq_iff.mp h20⟩,
      Header.get_eq_decode_iff.mp h24⟩

/-- A description is laid out as the buffer of the right size in which each of its values stands
in its place. -/
theorem layout_eq_iff :
    d.layout = b ↔
      b.size = Header.size + d.records.length * k.recordSize ∧ d.Heads b ∧
        ∀ i r, d.records[i]? = some r → b.Holds (Slot.start k i) (k.recordDigits r) := by
  have hsize : (d.headerDigits ++ d.records.flatMap k.recordDigits).length =
      Header.size + d.records.length * k.recordSize := by
    rw [← size_layout]
    rfl
  rw [layout, Bytes.toArray_eq_iff, hsize, Bytes.holds_append_iff, holds_headerDigits_iff,
    length_headerDigits, Nat.zero_add, Bytes.holds_flatMap_iff k.length_recordDigits]
  exact Iff.rfl

/-! ### Reading a layout -/

theorem toNatClampNeg_capacity (h : d.Heads b) (hd : d.records.length < 0x80000000) :
    (Header.capacity b).toNatClampNeg = d.records.length := by
  rw [h.capacity_eq, Int32.toNatClampNeg_ofNat_of_lt hd]

/-- What is read from the layout of a description is the description. -/
theorem ofBytes_layout (hd : d.WellFormed) : ofBytes k d.layout = d := by
  obtain ⟨-, hheads, hrecords⟩ := layout_eq_iff.mp (Eq.refl d.layout)
  have hread : (List.range (Header.capacity d.layout).toNatClampNeg).map
      (fun i => k.readRecord d.layout (Slot.start k i)) = d.records := by
    rw [toNatClampNeg_capacity hheads hd.length_lt]
    refine List.ext_getElem (by simp) fun i _ hi => ?_
    have hr : d.records[i]? = some d.records[i] := List.getElem?_eq_getElem hi
    rw [List.getElem_map, List.getElem_range, Kind.readRecord_eq_iff]
    exact ⟨hd.fits _ (List.getElem_mem hi), hrecords i _ hr⟩
  obtain ⟨source, overflow, number, records⟩ := d
  rw [ofBytes, hread, hheads.source_eq, hheads.overflow_eq, hheads.number_eq]

theorem getElem?_records_ofBytes {p : Packet k} {i : Nat} {r : k.Record} :
    (ofBytes k p.bytes).records[i]? = some r ↔
      i < p.capacity.toNatClampNeg ∧ k.readRecord p.bytes (Slot.start k i) = r := by
  rw [ofBytes, List.getElem?_map, Option.map_eq_some_iff]
  constructor
  · rintro ⟨j, hj, hr⟩
    obtain ⟨hi, rfl⟩ := List.getElem?_eq_some_iff.mp hj
    rw [List.length_range] at hi
    rw [List.getElem_range] at hr
    exact ⟨hi, hr⟩
  · rintro ⟨hi, hr⟩
    exact ⟨i, List.getElem?_range hi, hr⟩

theorem length_records_ofBytes (p : Packet k) :
    (ofBytes k p.bytes).records.length = p.capacity.toNatClampNeg := by
  rw [ofBytes, List.length_map, List.length_range]
  rfl

/-- The valid records are those of the marked slots. -/
theorem validCount_ofBytes (p : Packet k) :
    (ofBytes k p.bytes).validCount =
      (Packet.markedSlots k p.bytes p.capacity.toNatClampNeg).length := by
  rw [validCount, ofBytes, List.countP_map, List.countP_eq_length_filter, Packet.markedSlots]
  congr 2
  funext i
  exact (Slot.marked_eq_recordValid k p.bytes i).symm

section

variable {p : Packet k} (hp : p.Consistent)

include hp

/-- A consistent packet is the layout of what is read from it. -/
theorem layout_ofBytes : (ofBytes k p.bytes).layout = p.bytes := by
  have hcapacity : p.capacity.toInt = (ofBytes k p.bytes).records.length := by
    rw [length_records_ofBytes, hp.toInt_capacity]
  have hvalid : p.validCount.toInt = (ofBytes k p.bytes).validCount := by
    rw [validCount_ofBytes, hp.validCount_eq]
  refine layout_eq_iff.mpr ⟨?_, ⟨hp.eventType_eq, rfl, eq_ofNat_of_toInt hp.eventSize_eq,
    eq_ofNat_of_toInt hp.timestampOffset_eq, rfl, eq_ofNat_of_toInt hcapacity, rfl,
    eq_ofNat_of_toInt hvalid⟩, fun i r hr => ?_⟩
  · rw [length_records_ofBytes]
    exact hp.size_eq
  · exact ((Kind.readRecord_eq_iff k).mp (getElem?_records_ofBytes.mp hr).2).2

/-- What is read from a packet is well formed if its marks are counted. -/
theorem wellFormed_ofBytes (hm : p.MarksCounted) : (ofBytes k p.bytes).WellFormed where
  records_ne_nil := by
    have hpos := hp.capacity_pos
    have hcapacity := hp.toInt_capacity
    rw [← List.length_pos_iff, length_records_ofBytes]
    omega
  length_lt := by
    have hlt := p.capacity.toInt_lt
    have hcapacity := hp.toInt_capacity
    rw [length_records_ofBytes]
    omega
  number_nonneg := hp.number_nonneg
  validCount_le := by
    rw [validCount_ofBytes, ← hp.validCount_eq]
    exact hp.validCount_le
  fits := by
    intro r hr
    obtain ⟨i, hi⟩ := List.mem_iff_getElem?.mp hr
    exact ((Kind.readRecord_eq_iff k).mp (getElem?_records_ofBytes.mp hi).2).1
  lt_number := by
    intro i r hr hvalid
    obtain ⟨hi, hread⟩ := getElem?_records_ofBytes.mp hr
    exact hm i hi (by rw [Slot.marked_eq_recordValid, hread, hvalid])

end

/-! ### Layouts as packets -/

theorem consistent_layout (hd : d.WellFormed) : (⟨d.layout⟩ : Packet k).Consistent := by
  obtain ⟨hsize, hheads, -⟩ := layout_eq_iff.mp (Eq.refl d.layout)
  have hlength : (Header.capacity d.layout).toInt = d.records.length := by
    rw [hheads.capacity_eq, Int32.toInt_ofNat_of_lt hd.length_lt]
  have hle := hd.validCount_le
  have hmax := d.number.toInt_lt
  have hvalid : (Header.valid d.layout).toInt = d.validCount := by
    rw [hheads.valid_eq, Int32.toInt_ofNat_of_lt (by omega)]
  refine ⟨hheads.eventType_eq, ?_, ?_, ?_, ?_, ?_, ?_⟩
  · rw [hheads.eventSize_eq]
    cases k <;> rfl
  · rw [hheads.timestampOffset_eq]
    cases k <;> rfl
  · have hpos := List.length_pos_iff.mpr hd.records_ne_nil
    rw [Packet.capacity, hlength]
    omega
  · rw [hsize, Packet.capacity, toNatClampNeg_capacity hheads hd.length_lt]
  · have hcount := validCount_ofBytes (⟨d.layout⟩ : Packet k)
    rw [ofBytes_layout hd] at hcount
    rw [Packet.validCount, hvalid, hcount]
  · rw [Packet.validCount, hvalid, Packet.number, hheads.number_eq]
    exact hle

theorem marksCounted_layout (hd : d.WellFormed) : (⟨d.layout⟩ : Packet k).MarksCounted := by
  intro i hi hm
  obtain ⟨-, hheads, -⟩ := layout_eq_iff.mp (Eq.refl d.layout)
  have hr := getElem?_records_ofBytes.mpr ⟨hi, Eq.refl _⟩
  rw [ofBytes_layout hd] at hr
  rw [Slot.marked_eq_recordValid] at hm
  rw [Packet.number, hheads.number_eq]
  exact hd.lt_number i _ hr hm

/-! ### Events -/

/-- The event in a slot is that of its record. -/
theorem event_readRecord (p : Packet k) (i : Nat) :
    (ofBytes k p.bytes).event i (k.readRecord p.bytes (Slot.start k i)) = p.event i := by
  have hvalid := Slot.marked_eq_recordValid k p.bytes i
  rw [event, Packet.event, hvalid]
  cases k <;> rfl

/-- A packet has the events that its bytes tell of. -/
theorem value_event?_eq (p : Packet k) (index : Int32) :
    (p.event? index).value = (ofBytes k p.bytes).event? index := by
  have hcapacity : p.capacity.toNatClampNeg = p.capacity.toInt.toNat := rfl
  rw [event?]
  rcases p.isSlot_or index with hout | ⟨i, hi⟩
  · rw [Packet.value_event?_eq_none hout]
    split
    next => rfl
    next hnonneg =>
      have hlen := length_records_ofBytes p
      rw [List.getElem?_eq_none (by omega)]
      rfl
  · have hr := getElem?_records_ofBytes.mpr ⟨hi.lt_capacity, Eq.refl _⟩
    rw [Packet.value_event?_of_isSlot hi, hi.toInt_eq, if_neg (by omega), Int.toNat_natCast, hr]
    exact congrArg some (event_readRecord p i).symm

end Description

/-- The layouts of well-formed descriptions are the buffers that a decoder accepts.  The getters of
the packet return the values of the description, for the header and for every event; and no
other description has the same layout. -/
theorem accepted_iff_layout (k : Kind) :
    (∀ d : Description k, d.WellFormed →
        ∃ p : Packet k, Packet.ofBytes k d.layout = .ok p ∧ p.bytes = d.layout ∧
          (Header.eventType p.bytes = k.eventType.id ∧
            (Header.eventSize p.bytes).toInt = k.recordSize ∧
            (Header.timestampOffset p.bytes).toInt = k.timestampOffset) ∧
          (p.source = d.source ∧ p.overflow = d.overflow ∧ p.number = d.number ∧
            p.capacity.toInt = d.records.length ∧ p.validCount.toInt = d.validCount) ∧
          ∀ index, (p.event? index).value = d.event? index) ∧
      ∀ (b : Bytes) (p : Packet k), Packet.ofBytes k b = .ok p →
        (Description.ofBytes k b).WellFormed ∧ (Description.ofBytes k b).layout = b ∧
          (∀ index, (p.event? index).value = (Description.ofBytes k b).event? index) ∧
          ∀ d : Description k, d.WellFormed → d.layout = b → d = Description.ofBytes k b := by
  refine ⟨fun d hd => ?_, fun b p hb => ?_⟩
  · have hp := Description.consistent_layout hd
    have hcounted := Description.marksCounted_layout hd
    have hread := Description.ofBytes_layout hd
    have hlength := Description.length_records_ofBytes (⟨d.layout⟩ : Packet k)
    have hvalid := Description.validCount_ofBytes (⟨d.layout⟩ : Packet k)
    have hevent := Description.value_event?_eq (⟨d.layout⟩ : Packet k)
    obtain ⟨-, hheads, -⟩ := Description.layout_eq_iff.mp (Eq.refl d.layout)
    rw [hread] at hlength hvalid
    simp only [hread] at hevent
    refine ⟨⟨d.layout⟩, hp.ofBytes_eq_ok_iff.mpr hcounted, rfl,
      ⟨hp.eventType_eq, hp.eventSize_eq, hp.timestampOffset_eq⟩,
      ⟨hheads.source_eq, hheads.overflow_eq, hheads.number_eq, ?_, ?_⟩, hevent⟩
    · rw [hlength, hp.toInt_capacity]
    · rw [hvalid, hp.validCount_eq]
  · obtain ⟨rfl, hfault⟩ := Packet.ofBytes_eq_ok_iff.mp hb
    obtain ⟨hp, hcounted⟩ := Packet.fault?_eq_none_iff.mp hfault
    refine ⟨Description.wellFormed_ofBytes hp hcounted, Description.layout_ofBytes hp,
      Description.value_event?_eq p, fun d hd hlayout => ?_⟩
    rw [← hlayout, Description.ofBytes_layout hd]

/-- Values at the ends of their ranges, negative ones among them. -/
theorem accepted_iff_layout_extreme :
    let d : Description .polarity :=
      ⟨-1, -2, 2, [⟨false, ⟨0, 0, true⟩, 0⟩, ⟨true, ⟨0x7FFF, 0x4001, false⟩, 0x80000001⟩]⟩
    d.WellFormed ∧
      ∃ p : Packet .polarity, Packet.ofBytes .polarity d.layout = .ok p ∧ p.source = -1 ∧
        (p.event? 1).value =
          some ⟨1, true, -2147483647, -2147483647, ⟨0x7FFF, 0x4001, false⟩⟩ := by
  intro d
  have hd : d.WellFormed := by decide
  obtain ⟨p, hp, -, -, ⟨hsource, -⟩, hevent⟩ := (accepted_iff_layout .polarity).1 d hd
  exact ⟨hd, p, hp, hsource, (hevent 1).trans (by decide +kernel)⟩

end EventPackets
