import EventPackets.Packet.Generic

/-!
# The bounds of generic access

Generic access takes the layout of the records from a header that nobody has checked.  It finds a
record exactly if the buffer holds it, all numbers taken as integers, and none of these numbers is
too large for a machine word of 64 bits.  What it then says about an event comes from the bytes of
this record and from the overflow counter, and records with different indices have no byte in
common.

## Main definitions

* `Bytes.AgreeOn` : two buffers hold the same bytes in a region.

## Main results

* `GenericEvent.span?_eq_some_iff`, `GenericEvent.value_locate?_eq_some_iff` : which records are
  found.
* `GenericEvent.isSome_get?_iff` : when there is an event.
* `GenericEvent.read_of_agreeOn` : what is said about an event is read from its record.
* `GenericEvent.disjoint_of_locate?` : the records of different events.
* `GenericEvent.get?_within_record` : generic access to any buffer.
-/

namespace EventPackets

/-! ### Equal regions -/

namespace Bytes

/-- Two buffers hold the same `n` bytes from position `i` on, as far as they reach. -/
def AgreeOn (i n : Nat) (b b' : Bytes) : Prop :=
  ∀ j, i ≤ j → j < i + n → b'[j]? = b[j]?

theorem getElem?_slice (b : Bytes) (i n j : Nat) :
    (b.slice i n)[j]? = if j < n then b[i + j]? else none := by
  rw [slice, Array.getElem?_extract]
  by_cases hj : j < n
  · by_cases hb : i + j < b.size
    · rw [if_pos (by omega), if_pos hj]
    · rw [if_neg (by omega), if_pos hj, Array.getElem?_eq_none (by omega)]
  · rw [if_neg (by omega), if_neg hj]

namespace AgreeOn

variable {i n j m : Nat} {b c : Bytes}

theorem byteAt_eq (h : AgreeOn i n b c) (hi : i ≤ j) (hj : j < i + n) :
    c.byteAt j = b.byteAt j := by
  rw [byteAt, byteAt, Array.getD_eq_getD_getElem?, Array.getD_eq_getD_getElem?, h j hi hj]

theorem readLE_eq (h : AgreeOn i n b c) (hi : i ≤ j) (hj : j + m ≤ i + n) :
    c.readLE j m = b.readLE j m :=
  readLE_congr fun l hl hl' => h.byteAt_eq (by omega) (by omega)

theorem word_eq (h : AgreeOn i n b c) (hi : i ≤ j) (hj : j + 4 ≤ i + n) : c.word j = b.word j := by
  rw [word, word, h.readLE_eq hi hj]

/-- A region that one of the buffers holds is held by the other. -/
theorem add_le_size (h : AgreeOn i n b c) (hn : 0 < n) (hb : i + n ≤ b.size) : i + n ≤ c.size := by
  refine Nat.not_lt.mp fun hc => ?_
  have hlast := h (i + n - 1) (by omega) (by omega)
  rw [Array.getElem?_eq_none (by omega), eq_comm, Array.getElem?_eq_none_iff] at hlast
  omega

theorem slice_eq (h : AgreeOn i n b c) : c.slice i n = b.slice i n := by
  refine Array.ext_getElem? fun j => ?_
  rw [getElem?_slice, getElem?_slice]
  split
  next hj => exact h (i + j) (by omega) (by omega)
  next => rfl

end AgreeOn

end Bytes

namespace Header

variable {b c : Bytes}

/-- A field is read from its bytes. -/
theorem get_eq_of_agreeOn {f : Field} (h : Bytes.AgreeOn f.offset f.width.bytes b c) :
    get f c = get f b := by
  rw [get, get, h.readLE_eq (Nat.le_refl _) (Nat.le_refl _)]

/-- All fields are read from the header. -/
theorem get_eq_of_header (h : Bytes.AgreeOn 0 size b c) (f : Field) : get f c = get f b :=
  get_eq_of_agreeOn fun j _ hj => h j (Nat.zero_le j) (by have := f.offset_add_le; omega)

end Header

/-! ### Spans -/

/-- A span is behind the header and in the buffer, and a timestamp fits into it. -/
structure RecordSpan.Within (s : RecordSpan) (b : Bytes) : Prop where
  header_le : Header.size ≤ s.start
  end_le : s.start + s.length ≤ b.size
  timestamp_le : s.timestampOffset + 4 ≤ s.length

namespace GenericEvent

variable {b c : Bytes} {i : Nat} {index : Int32} {s : RecordSpan}

/-- The span of a record is the one that the header describes, if the record is in the buffer and
has room for a timestamp. -/
theorem span?_eq_some_iff :
    span? b i = some s ↔
      (s.start : Int) = 28 + i * (Header.eventSize b).toInt ∧
        s.length = (Header.eventSize b).toInt ∧
        s.timestampOffset = (Header.timestampOffset b).toInt ∧ s.Within b := by
  obtain ⟨start, length, timestampOffset⟩ := s
  by_cases hneg : (Header.eventSize b).toInt < 0 ∨ (Header.timestampOffset b).toInt < 0
  · simp only [span?, if_pos hneg, reduceCtorEq, false_iff]
    rintro ⟨-, hlength, hoffset, -⟩
    omega
  · obtain ⟨n, hn⟩ := Int.eq_ofNat_of_zero_le (Int.not_lt.mp (not_or.mp hneg).1)
    obtain ⟨o, ho⟩ := Int.eq_ofNat_of_zero_le (Int.not_lt.mp (not_or.mp hneg).2)
    have hsize : Header.size = 28 := rfl
    simp only [span?, hn, ho, Int.toNat_natCast]
    rw [if_neg (by omega), ← Int.natCast_mul]
    split
    next hout =>
      simp only [reduceCtorEq, false_iff]
      rintro ⟨hstart, hlength, hoffset, hwithin⟩
      have hend := hwithin.end_le
      have htimestamp := hwithin.timestamp_le
      dsimp only at hstart hlength hoffset hend htimestamp
      omega
    next hin =>
      rw [Option.some.injEq, RecordSpan.mk.injEq]
      constructor
      · rintro ⟨rfl, rfl, rfl⟩
        exact ⟨by omega, rfl, rfl, by dsimp only; omega, by dsimp only; omega, by dsimp only; omega⟩
      · rintro ⟨hstart, hlength, hoffset, -⟩
        omega

/-- An index outside the capacity is reported. -/
theorem locate?_of_outside (hheader : Header.size ≤ b.size)
    (h : index.toInt < 0 ∨ (Header.capacity b).toInt ≤ index.toInt) :
    ∃ message, locate? b index = ⟨none, [⟨.critical, subsystem, message⟩]⟩ := by
  rw [locate?, if_neg (Nat.not_lt.mpr hheader)]
  dsimp only
  rw [if_pos (Slot.outside_iff.mpr h)]
  exact ⟨_, rfl⟩

/-- At other indices nothing is reported. -/
theorem locate?_of_inside (hheader : Header.size ≤ b.size)
    (h : ¬ (index.toInt < 0 ∨ (Header.capacity b).toInt ≤ index.toInt)) :
    locate? b index = ⟨span? b index.toInt.toNat, []⟩ := by
  rw [locate?, if_neg (Nat.not_lt.mpr hheader)]
  dsimp only
  rw [if_neg (mt Slot.outside_iff.mp h), Int32.toNat_toInt]
  rfl

/-- A record is found at an index within the capacity. -/
theorem value_locate?_eq_some_iff :
    (locate? b index).value = some s ↔
      Header.size ≤ b.size ∧ (0 ≤ index.toInt ∧ index.toInt < (Header.capacity b).toInt) ∧
        span? b index.toInt.toNat = some s := by
  by_cases hheader : b.size < Header.size
  · simp [locate?, hheader, Nat.not_le.mpr hheader]
  · have hheader := Nat.not_lt.mp hheader
    by_cases hout : index.toInt < 0 ∨ (Header.capacity b).toInt ≤ index.toInt
    · obtain ⟨message, hlocate⟩ := locate?_of_outside hheader hout
      simp only [hlocate, reduceCtorEq, false_iff]
      omega
    · rw [locate?_of_inside hheader hout]
      exact ⟨fun h => ⟨hheader, by omega, h⟩, fun h => h.2.2⟩

theorem value_get?_eq_some_iff {e : GenericEvent} :
    (get? b index).value = some e ↔ ∃ s, (locate? b index).value = some s ∧ read b s = e := by
  rw [get?, Reported.value_bind, Reported.value_pure, Option.map_eq_some_iff]

/-- Where a record is found: the span that the header describes. -/
theorem within_of_locate? (h : (locate? b index).value = some s) :
    (s.start : Int) = 28 + index.toInt * (Header.eventSize b).toInt ∧
      s.length = (Header.eventSize b).toInt ∧
      s.timestampOffset = (Header.timestampOffset b).toInt ∧ s.Within b := by
  obtain ⟨-, ⟨hnonneg, -⟩, hspan⟩ := value_locate?_eq_some_iff.mp h
  rw [span?_eq_some_iff, Int.toNat_of_nonneg hnonneg] at hspan
  exact hspan

/-- What a record says is read from it, the overflow counter apart. -/
theorem read_of_agreeOn (hs : s.Within b) (h : Bytes.AgreeOn s.start s.length b c) :
    read c s = { read b s with
      timestamp64 := EventPackets.timestamp64 (Header.overflow c) (read b s).timestamp } := by
  have htimestamp := hs.timestamp_le
  simp only [read]
  rw [h.byteAt_eq (Nat.le_refl _) (by omega), h.word_eq (by omega) (by omega), h.slice_eq]

/-- A buffer with the same header and the same record has the record at the same place. -/
theorem value_locate?_of_agreeOn (hs : (locate? b index).value = some s)
    (hheader : Bytes.AgreeOn 0 Header.size b c) (h : Bytes.AgreeOn s.start s.length b c) :
    (locate? c index).value = some s := by
  obtain ⟨hsize, hindex, -⟩ := value_locate?_eq_some_iff.mp hs
  obtain ⟨hstart, hlength, hoffset, hwithin⟩ := within_of_locate? hs
  have hfield := Header.get_eq_of_header hheader
  have heventSize : Header.eventSize c = Header.eventSize b := hfield .eventSize
  have htimestampOffset : Header.timestampOffset c = Header.timestampOffset b :=
    hfield .timestampOffset
  have hcapacity : Header.capacity c = Header.capacity b := hfield .capacity
  have htimestamp := hwithin.timestamp_le
  have hheader' := hheader.add_le_size (by decide) (by omega)
  rw [value_locate?_eq_some_iff, span?_eq_some_iff, Int.toNat_of_nonneg hindex.1, heventSize,
    htimestampOffset, hcapacity]
  exact ⟨by omega, hindex, hstart, hlength, hoffset,
    ⟨hwithin.header_le, h.add_le_size (by omega) hwithin.end_le, htimestamp⟩⟩

/-- A record ends before the records with greater indices start. -/
theorem end_le_of_lt {index' : Int32} {s' : RecordSpan} (h : (locate? b index).value = some s)
    (h' : (locate? b index').value = some s') (hlt : index.toInt < index'.toInt) :
    s.start + s.length ≤ s'.start := by
  obtain ⟨hstart, hlength, -, -⟩ := within_of_locate? h
  obtain ⟨hstart', -, -, -⟩ := within_of_locate? h'
  have hle : (index.toInt + 1) * s.length ≤ index'.toInt * s.length :=
    Int.mul_le_mul_of_nonneg_right hlt (Int.natCast_nonneg _)
  rw [Int.add_mul, Int.one_mul, hlength] at hle
  omega

/-- Records with different indices have no byte in common. -/
theorem disjoint_of_locate? {index' : Int32} {s' : RecordSpan}
    (h : (locate? b index).value = some s) (h' : (locate? b index').value = some s')
    (hne : index' ≠ index) :
    s.start + s.length ≤ s'.start ∨ s'.start + s'.length ≤ s.start := by
  rcases Int.lt_or_gt_of_ne (mt Int32.toInt_inj.mp hne) with hlt | hgt
  · exact .inr (end_le_of_lt h' h hlt)
  · exact .inl (end_le_of_lt h h' hgt)

/-- An event is found exactly if the buffer holds its record and the record its timestamp. -/
theorem isSome_get?_iff :
    (get? b index).value.isSome = true ↔
      28 ≤ b.size ∧ (0 ≤ index.toInt ∧ index.toInt < (Header.capacity b).toInt) ∧
        (0 ≤ (Header.eventSize b).toInt ∧ 0 ≤ (Header.timestampOffset b).toInt) ∧
        (Header.timestampOffset b).toInt + 4 ≤ (Header.eventSize b).toInt ∧
        28 + (index.toInt + 1) * (Header.eventSize b).toInt ≤ b.size := by
  have h28 : Header.size = 28 := rfl
  rw [Option.isSome_iff_exists, Int.add_mul, Int.one_mul]
  constructor
  · rintro ⟨e, he⟩
    obtain ⟨s, hs, -⟩ := value_get?_eq_some_iff.mp he
    obtain ⟨hheader, hindex, -⟩ := value_locate?_eq_some_iff.mp hs
    obtain ⟨hstart, hlength, hoffset, hwithin⟩ := within_of_locate? hs
    have hend := hwithin.end_le
    have htimestamp := hwithin.timestamp_le
    exact ⟨hheader, hindex, by omega, by omega, by omega⟩
  · rintro ⟨hheader, hindex, ⟨hsize, hoffset⟩, htimestamp, hend⟩
    have hstart : 0 ≤ index.toInt * (Header.eventSize b).toInt := Int.mul_nonneg hindex.1 hsize
    -- the span that the header describes
    refine ⟨_, value_get?_eq_some_iff.mpr
      ⟨⟨(28 + index.toInt * (Header.eventSize b).toInt).toNat, (Header.eventSize b).toInt.toNat,
          (Header.timestampOffset b).toInt.toNat⟩,
        value_locate?_eq_some_iff.mpr ⟨hheader, hindex, span?_eq_some_iff.mpr ?_⟩, rfl⟩⟩
    rw [Int.toNat_of_nonneg hindex.1]
    exact ⟨Int.toNat_of_nonneg (by omega), Int.toNat_of_nonneg hsize,
      Int.toNat_of_nonneg hoffset, by dsimp only; omega, by dsimp only; omega,
      by dsimp only; omega⟩

/-- The integers that generic access calculates with fit into 64 bits, whatever the header says. -/
theorem bounds_lt (index size offset : Int32) :
    index.toInt * size.toInt + 28 + size.toInt < 0x10000000000000000 ∧
      offset.toInt + 4 < 0x10000000000000000 := by
  have hindex : index.toInt.natAbs ≤ 0x80000000 := by
    have := index.le_toInt
    have := index.toInt_lt
    omega
  have hsize : size.toInt.natAbs ≤ 0x80000000 := by
    have := size.le_toInt
    have := size.toInt_lt
    omega
  have hproduct := Nat.mul_le_mul hindex hsize
  rw [← Int.natAbs_mul] at hproduct
  have hoffset := offset.toInt_lt
  omega

/-- Generic access to any buffer, whatever its header says.  An event is found at an index exactly
if the buffer has a header, the index is within the capacity, and the record that the header
describes is in the buffer and has room for its timestamp; the integers in this condition fit into
64 bits.  What is said about an event comes from the bytes of its record, and from bytes 12 to 15 of
the header for the overflow counter.  A buffer with this record and this header has the same event,
and records with different indices are disjoint. -/
theorem get?_within_record (b : Bytes) (index : Int32) :
    let capacity := (Header.capacity b).toInt
    let size := (Header.eventSize b).toInt
    let offset := (Header.timestampOffset b).toInt
    ((get? b index).value.isSome = true ↔
        28 ≤ b.size ∧ (0 ≤ index.toInt ∧ index.toInt < capacity) ∧ (0 ≤ size ∧ 0 ≤ offset) ∧
          offset + 4 ≤ size ∧ 28 + (index.toInt + 1) * size ≤ b.size) ∧
      (index.toInt * size + 28 + size < 0x10000000000000000 ∧
        offset + 4 < 0x10000000000000000) ∧
      ∀ e, (get? b index).value = some e →
        ∃ s : RecordSpan, (locate? b index).value = some s ∧ read b s = e ∧
          (s.start = 28 + index.toInt * size ∧ s.length = size ∧ s.timestampOffset = offset) ∧
          (28 ≤ s.start ∧ s.start + s.length ≤ b.size ∧ s.timestampOffset + 4 ≤ s.length) ∧
          (∀ c, Bytes.AgreeOn s.start s.length b c →
            (read c s).valid = e.valid ∧ (read c s).timestamp = e.timestamp ∧
              (read c s).record = e.record ∧
              (Bytes.AgreeOn 12 4 b c → (read c s).timestamp64 = e.timestamp64) ∧
              (Bytes.AgreeOn 0 28 b c → (get? c index).value = some e)) ∧
          ∀ index' s', index' ≠ index → (locate? b index').value = some s' →
            s.start + s.length ≤ s'.start ∨ s'.start + s'.length ≤ s.start := by
  intro capacity size offset
  refine ⟨isSome_get?_iff, bounds_lt index _ _, fun e he => ?_⟩
  obtain ⟨s, hs, rfl⟩ := value_get?_eq_some_iff.mp he
  obtain ⟨hstart, hlength, hoffset, hwithin⟩ := within_of_locate? hs
  refine ⟨s, hs, rfl, ⟨hstart, hlength, hoffset⟩,
    ⟨hwithin.header_le, hwithin.end_le, hwithin.timestamp_le⟩, fun c hc => ?_,
    fun index' s' hne hs' => disjoint_of_locate? hs hs' hne⟩
  rw [read_of_agreeOn hwithin hc]
  refine ⟨rfl, rfl, rfl, fun hoverflow => ?_, fun hheader => ?_⟩
  · have hsame : Header.overflow c = Header.overflow b :=
      Header.get_eq_of_agreeOn (f := .overflow) hoverflow
    rw [hsame]
    rfl
  · have hsame : Header.overflow c = Header.overflow b := Header.get_eq_of_header hheader .overflow
    refine value_get?_eq_some_iff.mpr ⟨s, value_locate?_of_agreeOn hs hheader hc, ?_⟩
    rw [read_of_agreeOn hwithin hc, hsame]
    rfl

/-- A buffer of an unknown event type with two records of twelve bytes: the second one is found, and
nothing behind it. -/
theorem get?_within_record_unknown_type :
    let b : Bytes := ((Header.put .capacity 3 (Header.put .timestampOffset 8
      (Header.put .eventSize 12 (Header.put .overflow 2 (Header.put .eventType 99
        (Array.replicate 52 0)))))).setWord 40 1).setWord 48 7
    let e : GenericEvent := ⟨true, 7, 0x100000007, #[1, 0, 0, 0, 0, 0, 0, 0, 7, 0, 0, 0]⟩
    (get? b 1).value = some e ∧
      (∃ s : RecordSpan, read b s = e ∧ (s.start : Int) = 40 ∧ s.start + s.length ≤ b.size) ∧
      (get? b 2).value.isSome = false := by
  intro b e
  have he : (get? b 1).value = some e := by decide +kernel
  obtain ⟨s, -, hread, ⟨hstart, -, -⟩, ⟨-, hend, -⟩, -⟩ := (get?_within_record b 1).2.2 e he
  have hout := (get?_within_record b 2).1
  refine ⟨he, ⟨s, hread, hstart.trans (by decide +kernel), hend⟩, ?_⟩
  rw [← Bool.not_eq_true, hout]
  decide +kernel

end GenericEvent

end EventPackets
