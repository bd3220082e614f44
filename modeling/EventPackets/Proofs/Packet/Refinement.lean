import EventPackets.Proofs.Packet.Counters
import EventPackets.Proofs.Packet.Records
import EventPackets.Proofs.Packet.SlotValue
import EventPackets.Proofs.Timestamp

/-!
# Packets as independent records

`Packet.records` forgets how a packet is stored.  Every call answers the same on the buffer and on
these records, and leaves a buffer that holds the records as the call leaves them.  So whatever a
producer does, the getters of the packet return what the same calls make of a packet without
bytes.

## Main definitions

* `Packet.Shows` : every getter returns what given records say.

## Main results

* `Packet.Step.perform_records`, `Packet.Run.performAll_records` : calls on the buffer and on the
  records.
* `Packet.records_fresh` : the records of a new packet.
* `Packet.shows_records` : the getters of a packet and its records.
-/

namespace EventPackets

variable {k : Kind}

namespace Slot

variable {f : Header.Field}

/-- The header after a slot has been marked valid, its counters apart. -/
theorem get_validated_of_ne (hn : f ≠ .number) (hv : f ≠ .valid) (i : Nat) (b : Bytes) :
    Header.get f (validated k i b) = Header.get f b := by
  rw [validated, Header.get_put_of_ne hv, Header.get_put_of_ne hn,
    get_eq_of_agreeOutside (agreeOutside_putMark k i b true)]

/-- The header after a slot has been marked invalid, its valid count apart. -/
theorem get_invalidated_of_ne (hv : f ≠ .valid) (i : Nat) (b : Bytes) :
    Header.get f (invalidated k i b) = Header.get f b := by
  rw [invalidated, Header.get_put_of_ne hv,
    get_eq_of_agreeOutside (agreeOutside_putMark k i b false)]

end Slot

namespace Packet

variable {p q : Packet k} {i : Nat} {c : Bytes}

/-! ### The slots of a packet -/

theorem length_slots (p : Packet k) : p.records.slots.length = p.capacity.toNatClampNeg := by
  rw [slots_records, List.length_map, List.length_range]

theorem getElem?_slots (hi : i < p.capacity.toNatClampNeg) :
    p.records.slots[i]? = some (p.slotValue i) := by
  rw [slots_records, List.getElem?_map, List.getElem?_range hi, Option.map_some]

/-- The slots after an edit of one of them. -/
theorem slots_eq_set (hc : q.capacity = p.capacity)
    (h : ∀ j, i ≠ j → q.slotValue j = p.slotValue j) :
    q.records.slots = p.records.slots.set i (q.slotValue i) := by
  refine List.ext_getElem (by simp [length_slots, hc]) fun j hj hj' => ?_
  rw [List.getElem_set]
  simp only [slots_records, List.getElem_map, List.getElem_range]
  split
  next hij => rw [hij]
  next hij => exact h j hij

theorem slots_eq (hc : q.capacity = p.capacity) (h : ∀ j, q.slotValue j = p.slotValue j) :
    q.records.slots = p.records.slots := by
  rw [slots_records, slots_records, hc, funext h]

/-- The records after an edit of a slot. -/
theorem records_of_slot (h : Bytes.AgreeOutside (Slot.start k i) k.recordSize p.bytes c) :
    (⟨c⟩ : Packet k).records =
      { p.records with slots := p.records.slots.set i ((⟨c⟩ : Packet k).slotValue i) } := by
  have hget := Slot.get_eq_of_agreeOutside h
  have hsource : (⟨c⟩ : Packet k).source = p.source := hget .source
  have hoverflow : (⟨c⟩ : Packet k).overflow = p.overflow := hget .overflow
  have hnumber : (⟨c⟩ : Packet k).number = p.number := hget .number
  have hcount : (⟨c⟩ : Packet k).validCount = p.validCount := hget .valid
  have hslots := slots_eq_set (q := ⟨c⟩) (hget .capacity) fun _ hij => slotValue_of_ne h hij
  refine Records.ext ?_ ?_ ?_ ?_ ?_ <;> simp [hsource, hoverflow, hnumber, hcount, hslots]

/-- The slots after a mark has been set or cleared, with the counters adjusted. -/
theorem slots_of_putMark {v : Bool} (hb : Slot.start k i + k.recordSize ≤ p.bytes.size)
    (h : Bytes.AgreeOutside 0 Header.size (Slot.putMark k i v p.bytes) c)
    (hc : (⟨c⟩ : Packet k).capacity = p.capacity) :
    (⟨c⟩ : Packet k).records.slots = p.records.slots.set i { p.slotValue i with valid := v } := by
  have hmark (j : Nat) := slotValue_of_header (k := k) h j
  rw [slots_eq_set hc fun j hij => ?_, hmark, slotValue_putMark_self hb]
  exact (hmark j).trans (slotValue_of_ne (Slot.agreeOutside_putMark k i p.bytes v) hij)

theorem records_validated {index : Int32} (hp : p.Consistent) (h : p.IsSlot index i)
    (hm : Slot.marked k p.bytes i = false) :
    (⟨Slot.validated k i p.bytes⟩ : Packet k).records =
      { p.records with
        number := min (p.records.number + 1) Records.counterLimit
        validCount := min (p.records.validCount + 1) Records.counterLimit
        slots := p.records.slots.set i { p.slotValue i with valid := true } } := by
  generalize hq : (⟨Slot.validated k i p.bytes⟩ : Packet k) = q
  obtain ⟨hnumber, hcount⟩ := (Step.validate h hm).counters_of_validated hp rfl
  rw [hq] at hnumber hcount
  have hget {f : Header.Field} (hn : f ≠ .number) (hv : f ≠ .valid) :
      Header.get f q.bytes = Header.get f p.bytes := by
    rw [← hq, Slot.get_validated_of_ne hn hv]
  have hsource : q.source = p.source := hget (f := .source) nofun nofun
  have hoverflow : q.overflow = p.overflow := hget (f := .overflow) nofun nofun
  have hcapacity : q.capacity = p.capacity := hget (f := .capacity) nofun nofun
  have hslots : q.records.slots =
      p.records.slots.set i { p.slotValue i with valid := true } := by
    subst hq
    exact slots_of_putMark (hp.start_add_le h.lt_capacity)
      (Slot.agreeOutside_validated k i p.bytes) hcapacity
  refine Records.ext ?_ ?_ ?_ ?_ ?_ <;>
    simp [hsource, hoverflow, hnumber, hcount, hslots, toInt_succSaturating,
      Records.counterLimit]

theorem records_invalidated {index : Int32} (hp : p.Consistent) (h : p.IsSlot index i)
    (hm : Slot.marked k p.bytes i = true) :
    (⟨Slot.invalidated k i p.bytes⟩ : Packet k).records =
      { p.records with
        validCount := p.records.validCount - 1
        slots := p.records.slots.set i { p.slotValue i with valid := false } } := by
  generalize hq : (⟨Slot.invalidated k i p.bytes⟩ : Packet k) = q
  have hcount := (Step.invalidate h hm).toInt_validCount_of_invalidated hp rfl
  rw [hq] at hcount
  have hget {f : Header.Field} (hv : f ≠ .valid) :
      Header.get f q.bytes = Header.get f p.bytes := by
    rw [← hq, Slot.get_invalidated_of_ne hv]
  have hsource : q.source = p.source := hget (f := .source) nofun
  have hoverflow : q.overflow = p.overflow := hget (f := .overflow) nofun
  have hnumber : q.number = p.number := hget (f := .number) nofun
  have hcapacity : q.capacity = p.capacity := hget (f := .capacity) nofun
  have hslots : q.records.slots =
      p.records.slots.set i { p.slotValue i with valid := false } := by
    subst hq
    exact slots_of_putMark (hp.start_add_le h.lt_capacity)
      (Slot.agreeOutside_invalidated k i p.bytes) hcapacity
  refine Records.ext ?_ ?_ ?_ ?_ ?_ <;> simp [hsource, hoverflow, hnumber, hcount, hslots]

/-- The records after an edit of a header field that is neither a counter nor the capacity. -/
theorem records_of_put {f : Header.Field} (hn : f ≠ .number) (hv : f ≠ .valid)
    (hc : f ≠ .capacity) (v : f.Value) :
    (⟨Header.put f v p.bytes⟩ : Packet k).records =
      { p.records with
        source := Header.source (Header.put f v p.bytes)
        overflow := Header.overflow (Header.put f v p.bytes) } := by
  have hslot := slotValue_of_header (k := k) (Header.agreeOutside_put f v p.bytes)
  have hget {g : Header.Field} (hg : f ≠ g) := Header.get_put_of_ne hg.symm v p.bytes
  generalize Header.put f v p.bytes = c at hslot hget ⊢
  have hsource : (⟨c⟩ : Packet k).source = Header.source c := rfl
  have hoverflow : (⟨c⟩ : Packet k).overflow = Header.overflow c := rfl
  have hnumber : (⟨c⟩ : Packet k).number = p.number := hget hn
  have hcount : (⟨c⟩ : Packet k).validCount = p.validCount := hget hv
  have hslots := slots_eq (q := ⟨c⟩) (hget hc) hslot
  refine Records.ext ?_ ?_ ?_ ?_ ?_ <;> simp [hsource, hoverflow, hnumber, hcount, hslots]

theorem records_setSource (hp : p.Consistent) (v : Int16) :
    (⟨Header.put .source v p.bytes⟩ : Packet k).records = { p.records with source := v } := by
  have hoverflow : Header.get .overflow (Header.put .source v p.bytes) = p.records.overflow := by
    rw [Header.get_put_of_ne (by decide), overflow_records]
    rfl
  rw [records_of_put (f := .source) nofun nofun nofun, Header.source, Header.overflow,
    Header.get_put_self hp.header_le_size, hoverflow]

theorem records_setOverflow (hp : p.Consistent) (v : Int32) :
    (⟨Header.put .overflow v p.bytes⟩ : Packet k).records = { p.records with overflow := v } := by
  have hsource : Header.get .source (Header.put .overflow v p.bytes) = p.records.source := by
    rw [Header.get_put_of_ne (by decide), source_records]
    rfl
  rw [records_of_put (f := .overflow) nofun nofun nofun, Header.source, Header.overflow,
    Header.get_put_self hp.header_le_size, hsource]

/-! ### Calls on records -/

theorem perform_records_of_isSlot {index : Int32} (h : p.IsSlot index i) (c : SlotCall k) :
    p.records.perform (.slot index c) = p.records.performSlot i (p.slotValue i) c := by
  rw [Records.perform, if_neg (by have := h.toInt_eq; omega), h.toInt_eq, Int.toNat_natCast,
    getElem?_slots h.lt_capacity]

theorem perform_records_eq_noSlot {index : Int32}
    (h : index.toInt < 0 ∨ p.capacity.toInt ≤ index.toInt) (c : SlotCall k) :
    p.records.perform (.slot index c) = (.noSlot, p.records) := by
  have hcapacity : p.capacity.toNatClampNeg = p.capacity.toInt.toNat := rfl
  have hlength := p.length_slots
  rw [Records.perform]
  split
  next => rfl
  next => rw [List.getElem?_eq_none (by omega)]

/-- A call does to the records of a packet what it does to the packet. -/
theorem Step.perform_records {c : Call k} {r : Reply} (hp : p.Consistent) (h : p.Step c r q) :
    p.records.perform c = (r, q.records) := by
  cases h with
  | noSlot index c h => exact perform_records_eq_noSlot h c
  | @write _ i h w =>
    rw [perform_records_of_isSlot h, records_of_slot (k.agreeOutside_write w _ _),
      slotValue_write_self (hp.start_add_le h.lt_capacity)]
    rfl
  | negativeTimestamp h t ht => rw [perform_records_of_isSlot h, Records.performSlot, if_pos ht]
  | @setTimestamp _ i h t ht =>
    rw [perform_records_of_isSlot h, records_of_slot (Slot.agreeOutside_setTimestamp k i _ _),
      slotValue_setTimestamp_self (hp.start_add_le h.lt_capacity), Records.performSlot,
      if_neg (by omega)]
  | @alreadyValid _ i h hm =>
    have hvalid : (p.slotValue i).valid = true := hm
    rw [perform_records_of_isSlot h, Records.performSlot, if_pos hvalid]
  | @validate _ i h hm =>
    have hvalid : (p.slotValue i).valid = false := hm
    rw [perform_records_of_isSlot h, records_validated hp h hm, Records.performSlot, hvalid,
      if_neg Bool.false_ne_true]
  | @alreadyInvalid _ i h hm =>
    have hvalid : (p.slotValue i).valid = false := hm
    rw [perform_records_of_isSlot h, Records.performSlot, hvalid, if_neg Bool.false_ne_true]
  | @invalidate _ i h hm =>
    have hvalid : (p.slotValue i).valid = true := hm
    rw [perform_records_of_isSlot h, records_invalidated hp h hm, Records.performSlot,
      if_pos hvalid]
  | negativeSource v hv => rw [Records.perform, if_pos hv]
  | setSource v hv => rw [Records.perform, if_neg (by omega), records_setSource hp]
  | negativeOverflow v hv => rw [Records.perform, if_pos hv]
  | setOverflow v hv => rw [Records.perform, if_neg (by omega), records_setOverflow hp]

/-- A run on a packet is a run on its records. -/
theorem Run.performAll_records {cs : List (Call k)} {rs : List Reply} (hp : p.Consistent)
    (h : p.Run cs rs q) : p.records.performAll cs = (rs, q.records) := by
  induction h with
  | nil p => rfl
  | cons h _ ih =>
    rw [Records.performAll, h.perform_records hp]
    dsimp only
    rw [ih (h.consistent hp)]

/-! ### New packets -/

/-- The slots of a buffer of zeros are empty. -/
theorem slotValue_emptyBytes (n i : Nat) :
    (⟨emptyBytes k n⟩ : Packet k).slotValue i = ⟨false, 0, k.emptyData⟩ := by
  have hword (j : Nat) : (emptyBytes k n).word j = 0 := by
    rw [Bytes.word, emptyBytes, Bytes.readLE_replicate_zero]
    rfl
  refine SlotValue.ext ?_ ?_ ?_
  · simp only [slotValue, Slot.marked, hword]
    decide
  · simp only [slotValue, Slot.timestamp, hword]
    rfl
  · cases k with
    | polarity =>
      simp only [slotValue, Kind.readData, PolarityData.read, hword]
      rfl
    | imu9 =>
      refine Imu9Sample.read_eq_iff.mpr fun m => (hword _).trans ?_
      rw [Kind.emptyData, Imu9Sample.get_of]

/-- A new packet has empty slots. -/
theorem records_fresh (k : Kind) (capacity : Int32) (source : Int16) (overflow : Int32) :
    (fresh k capacity source overflow).records =
      Records.fresh k capacity source overflow := by
  refine Records.ext (source_fresh k capacity source overflow)
    (overflow_fresh k capacity source overflow) ?_ ?_ ?_
  · rw [records, number_fresh]
    rfl
  · rw [records, validCount_fresh]
    rfl
  · have hslot (i : Nat) := (slotValue_of_header (agreeOutside_fresh k capacity source overflow)
      i).trans (slotValue_emptyBytes capacity.toNatClampNeg i)
    rw [records, capacity_fresh, funext hslot, List.map_const', List.length_range]
    rfl

/-! ### Getters -/

/-- Every getter of a packet returns what given records say. -/
structure Shows (p : Packet k) (r : Records k) : Prop where
  source_eq : p.source = r.source
  overflow_eq : p.overflow = r.overflow
  number_eq : p.number.toInt = r.number
  validCount_eq : p.validCount.toInt = r.validCount
  capacity_eq : p.capacity.toInt = r.slots.length
  event?_eq : ∀ index, (p.event? index).value = r.event? index

/-- The 64-bit timestamp of an event as a sum. -/
theorem toInt_timestamp64_event (hn : p.records.Nonneg) (hi : i < p.capacity.toNatClampNeg) :
    (p.event i).timestamp64.toInt =
      p.overflow.toInt * 0x80000000 + (p.event i).timestamp.toInt := by
  have ht := hn.timestamp i _ (getElem?_slots hi)
  rw [timestamp_slotValue] at ht
  exact toInt_timestamp64_of_nonneg ht

/-- The event in a slot, with the 64-bit timestamp as a sum. -/
theorem event_eq (hn : p.records.Nonneg) (hi : i < p.capacity.toNatClampNeg) :
    p.event i =
      { slot := i
        valid := (p.slotValue i).valid
        timestamp := (p.slotValue i).timestamp
        timestamp64 := Int64.ofInt (p.records.timestamp64 (p.slotValue i))
        data := (p.slotValue i).data } := by
  have hsum : (p.event i).timestamp64.toInt = p.records.timestamp64 (p.slotValue i) := by
    rw [toInt_timestamp64_event hn hi, Records.timestamp64, overflow_records,
      timestamp_slotValue]
    rfl
  rw [← hsum, Int64.ofInt_toInt, valid_slotValue, timestamp_slotValue, data_slotValue]
  rfl

/-- The getters of a packet return what its records say, as long as no timestamp is negative. -/
theorem shows_records (hp : p.Consistent) (hn : p.records.Nonneg) : p.Shows p.records where
  source_eq := p.source_records.symm
  overflow_eq := p.overflow_records.symm
  number_eq := p.number_records.symm
  validCount_eq := p.validCount_records.symm
  capacity_eq := by rw [length_slots, hp.toInt_capacity]
  event?_eq := by
    intro index
    have hcapacity : p.capacity.toNatClampNeg = p.capacity.toInt.toNat := rfl
    have hlength := p.length_slots
    rw [Records.event?]
    rcases p.isSlot_or index with hout | ⟨i, hi⟩
    · rw [value_event?_eq_none hout]
      split
      next => rfl
      next => rw [List.getElem?_eq_none (by omega), Option.map_none]
    · rw [value_event?_of_isSlot hi, hi.toInt_eq, if_neg (by omega), Int.toNat_natCast,
        getElem?_slots hi.lt_capacity, Option.map_some, event_eq hn hi.lt_capacity]

/-! ### What a call leaves alone -/

/-- A call keeps the bytes of every slot that it does not concern. -/
theorem Step.record_eq {c : Call k} {r : Reply} (h : p.Step c r q) {j : Nat}
    (hj : c.index? ≠ some (j : Int)) : Slot.record k q.bytes j = Slot.record k p.bytes j := by
  have hne {index : Int32} {i : Nat} (h : p.IsSlot index i)
      (hj : some index.toInt ≠ some (j : Int)) : i ≠ j := by
    rintro rfl
    exact hj (congrArg some h.toInt_eq)
  cases h with
  | write h w => rw [Slot.record_of_ne (k.agreeOutside_write w _ _) (hne h hj)]
  | setTimestamp h t ht =>
    rw [Slot.record_of_ne (Slot.agreeOutside_setTimestamp k _ _ _) (hne h hj)]
  | @validate _ i h hm =>
    rw [Slot.record_of_header (Slot.agreeOutside_validated k i p.bytes),
      Slot.record_of_ne (Slot.agreeOutside_putMark k i p.bytes true) (hne h hj)]
  | @invalidate _ i h hm =>
    rw [Slot.record_of_header (Slot.agreeOutside_invalidated k i p.bytes),
      Slot.record_of_ne (Slot.agreeOutside_putMark k i p.bytes false) (hne h hj)]
  | setSource v hv => rw [Slot.record_of_header (Header.agreeOutside_put .source v p.bytes)]
  | setOverflow v hv =>
    rw [Slot.record_of_header (Header.agreeOutside_put .overflow v p.bytes)]
  | _ => rfl

/-- A change of the data of an event keeps the header. -/
theorem Step.get_of_write {index : Int32} {w : k.Write} {r : Reply}
    (h : p.Step (.slot index (.write w)) r q) (f : Header.Field) :
    Header.get f q.bytes = Header.get f p.bytes := by
  cases h with
  | noSlot => rfl
  | write h w => exact Slot.get_eq_of_agreeOutside (k.agreeOutside_write w _ _) f

/-- It keeps all marks and timestamps, those of its own slot among them. -/
theorem Step.slotValue_of_write {index : Int32} {w : k.Write} {r : Reply} (hp : p.Consistent)
    (h : p.Step (.slot index (.write w)) r q) (j : Nat) :
    Slot.marked k q.bytes j = Slot.marked k p.bytes j ∧
      Slot.timestamp k q.bytes j = Slot.timestamp k p.bytes j := by
  cases h with
  | noSlot => exact ⟨rfl, rfl⟩
  | @write _ i h w =>
    by_cases hij : i = j
    · subst hij
      exact ⟨Slot.marked_write_self (hp.start_add_le h.lt_capacity) w,
        Slot.timestamp_write_self w⟩
    · have hslot := k.agreeOutside_write w (Slot.start k i) p.bytes
      exact ⟨Slot.marked_eq_of_agreeOutside hslot hij,
        Slot.timestamp_of_disjoint hslot (Slot.disjoint_of_ne k hij)⟩

/-! ### Any calls on a new packet -/

/-- An event of a packet is what a slot holds. -/
theorem exists_isSlot_of_event? {index : Int32} {e : Event k}
    (h : (p.event? index).value = some e) : ∃ i, p.IsSlot index i ∧ p.event i = e := by
  rcases p.isSlot_or index with hout | ⟨i, hi⟩
  · rw [value_event?_eq_none hout] at h
    cases h
  · rw [value_event?_of_isSlot hi] at h
    exact ⟨i, hi, Option.some.inj h⟩

section

variable {capacity : Int32} {source : Int16} {overflow : Int32} {cs : List (Call k)}
  {rs : List Reply} (hc : 0 < capacity.toInt)
  (h : (fresh k capacity source overflow).Run cs rs q)

include hc h

/-- A run on a new packet is a run on empty records. -/
theorem Run.performAll_fresh :
    (Records.fresh k capacity source overflow).performAll cs = (rs, q.records) := by
  rw [← records_fresh, h.performAll_records (consistent_fresh hc source overflow)]

theorem Run.nonneg_records : q.records.Nonneg := by
  have hn := (Records.nonneg_fresh k capacity source overflow).performAll cs
  rwa [h.performAll_fresh hc] at hn

/-- A field of an event has the bits that were assigned to it last, and none if there were none. -/
theorem Run.fieldBits_event (hi : i < q.capacity.toNatClampNeg) (f : k.Field) :
    k.fieldBits (q.event i).data f =
      (cs.reverse.findSome? (Call.assigned? i f)).getD 0 := by
  have hslot := Records.getElem?_slots_performAll (.fresh k capacity source overflow) cs i
  rw [h.performAll_fresh hc, getElem?_slots hi] at hslot
  obtain ⟨s, hs, heq⟩ := Option.map_eq_some_iff.mp hslot.symm
  have hempty : s = ⟨false, 0, k.emptyData⟩ :=
    (List.mem_replicate.mp (List.mem_of_getElem? hs)).2
  have hdata : (q.event i).data = (s.afterAll i cs).data := by
    rw [heq]
    rfl
  rw [hdata, SlotValue.fieldBits_afterAll, hempty, Kind.fieldBits_emptyData]

end

/-- A packet with its slots in one buffer behaves as a packet of independent records.  Whatever
calls are made on a new packet, each of them answers as it does on the records, and afterwards every
getter returns what the records say.  The 64-bit timestamps follow the overflow counter of the
moment, and a field of an event has the bits that were assigned to it last.  A change of a field
keeps marks, timestamps and header, and no call changes a byte of a slot that it does not
concern. -/
theorem shows_performAll (k : Kind) (capacity : Int32) (source : Int16) (overflow : Int32)
    (p : Packet k) (h : (allocate k capacity source overflow).value = .ok p)
    (cs : List (Call k)) :
    let q := (Call.performAll cs p).value.2
    let run := (Records.fresh k capacity source overflow).performAll cs
    (Call.performAll cs p).value.1 = run.1 ∧ q.Shows run.2 ∧
      (∀ index e, (q.event? index).value = some e →
        e.timestamp64.toInt = q.overflow.toInt * 0x80000000 + e.timestamp.toInt ∧
          ∀ f : k.Field, k.fieldBits e.data f =
            (cs.reverse.findSome? (Call.assigned? e.slot f)).getD 0) ∧
      (∀ (index : Int32) (w : k.Write),
        let next := ((Call.slot index (.write w)).perform q).value.2
        (∀ f, Header.get f next.bytes = Header.get f q.bytes) ∧
          ∀ j, Slot.marked k next.bytes j = Slot.marked k q.bytes j ∧
            Slot.timestamp k next.bytes j = Slot.timestamp k q.bytes j) ∧
      ∀ (c : Call k) (j : Nat), c.index? ≠ some (j : Int) →
        Slot.record k (c.perform q).value.2.bytes j = Slot.record k q.bytes j := by
  intro q run
  obtain ⟨hc, rfl⟩ := eq_fresh_of_allocate h
  have hp : (fresh k capacity source overflow).Consistent := consistent_fresh hc source overflow
  have hrun : (fresh k capacity source overflow).Run cs _ q := Call.performAll_run hp cs
  have hq : q.Consistent := hrun.consistent hp
  have hn : q.records.Nonneg := hrun.nonneg_records hc
  have hrecords : run = (_, q.records) := hrun.performAll_fresh hc
  refine ⟨by rw [hrecords], by rw [hrecords]; exact shows_records hq hn, fun index e he => ?_,
    fun index w => ?_, fun c j hj => (c.perform_step hq).record_eq hj⟩
  · obtain ⟨i, hi, rfl⟩ := exists_isSlot_of_event? he
    exact ⟨toInt_timestamp64_event hn hi.lt_capacity, hrun.fieldBits_event hc hi.lt_capacity⟩
  · have hstep := (Call.slot index (.write w)).perform_step hq
    exact ⟨hstep.get_of_write, hstep.slotValue_of_write hq⟩

/-- A measurement is set twice, to numbers that are none, and a call in between is refused. -/
theorem shows_performAll_nan_payload :
    let p : Packet .imu9 := fresh .imu9 2 7 (-1)
    let cs : List (Call .imu9) :=
      [.slot 1 (.write (.measurement .gyroX ⟨0x7FC01234⟩)), .slot 1 (.setTimestamp 5),
        .slot 1 (.setTimestamp (-5)), .setOverflow 3,
        .slot 1 (.write (.measurement .gyroX ⟨0xFF800001⟩))]
    let q := (Call.performAll cs p).value.2
    (allocate .imu9 2 7 (-1)).value = .ok p ∧
      (Call.performAll cs p).value.1 =
        [.done, .done, .refused (.negativeValue "set_timestamp" (-5)), .done, .done] ∧
      (q.event? 1).value =
        some ⟨1, false, 5, 6442450949,
          ⟨⟨0⟩, ⟨0⟩, ⟨0⟩, ⟨0xFF800001⟩, ⟨0⟩, ⟨0⟩, ⟨0⟩, ⟨0⟩, ⟨0⟩, ⟨0⟩⟩⟩ := by
  intro p cs q
  have hp : (allocate .imu9 2 7 (-1)).value = .ok p := value_allocate (by decide) 7 (-1)
  obtain ⟨hreplies, hshows, -⟩ := shows_performAll .imu9 2 7 (-1) p hp cs
  exact ⟨hp, hreplies.trans (by decide), (hshows.event?_eq 1).trans (by decide +kernel)⟩

end Packet

end EventPackets
