import EventPackets.Packet.Producer
import EventPackets.Proofs.Packet.Acceptance

/-!
# How packets come into being

A packet is allocated by a producer or decoded from a buffer.  Either way it is consistent.

## Main definitions

* `Packet.fresh` : a packet as it is allocated.
* `Packet.Initial` : a packet as it comes into being.

## Main results

* `Packet.allocate_of_pos` : allocation succeeds for every positive capacity.
* `Packet.consistent_fresh` : the packet that it makes.
* `Packet.Initial.consistent` : a new packet is consistent.
-/

namespace EventPackets

/-! ### Filling in a header -/

namespace Header

/-- The buffer with a value in a field, unless the value is negative. -/
def offer (f : Field) (v : f.Value) (b : Bytes) : Bytes :=
  if f.width.toInt v < 0 then b else put f v b

/-- The report of a negative value for a field. -/
def refusal (f : Field) : Report :=
  ⟨.critical, subsystem, s!"Called {f.setter}() with negative value!"⟩

/-- The reports of an offer. -/
def refusals (f : Field) (v : f.Value) : List Report :=
  if f.width.toInt v < 0 then [refusal f] else []

/-- An attempt to set a field whose refusal is ignored. -/
theorem on_tryCatch_set (f : Field) (v : f.Value) (b : Bytes) :
    Edit.on (tryCatch (set f v) fun _ => pure ()) b =
      ⟨(.ok (), offer f v b), refusals f v⟩ := by
  rw [set, offer, refusals]
  by_cases h : f.width.toInt v < 0
  · rw [if_pos h, if_pos h, if_pos h]
    rfl
  · rw [if_neg h, if_neg h, if_neg h]
    rfl

theorem agreeOutside_offer (f : Field) (v : f.Value) (b : Bytes) :
    Bytes.AgreeOutside 0 size b (offer f v b) := by
  unfold offer
  split
  · exact .refl 0 size b
  · exact agreeOutside_put f v b

theorem get_offer_of_ne {f g : Field} (h : f ≠ g) (v : g.Value) (b : Bytes) :
    get f (offer g v b) = get f b := by
  unfold offer
  split
  · rfl
  · exact get_put_of_ne h v b

theorem get_offer_self {f : Field} {b : Bytes} (h : size ≤ b.size) (v : f.Value) :
    get f (offer f v b) = if f.width.toInt v < 0 then get f b else v := by
  unfold offer
  split
  · rfl
  · exact get_put_self h

end Header

namespace Bytes

theorem byteAt_replicate_zero (n i : Nat) : byteAt (Array.replicate n 0) i = 0 := by
  rw [byteAt, Array.getD_eq_getD_getElem?, Array.getElem?_replicate]
  split <;> rfl

theorem readLE_replicate_zero (n i m : Nat) : readLE (Array.replicate n 0) i m = 0 := by
  induction m generalizing i with
  | zero => rfl
  | succ m ih => simp [readLE, byteAt_replicate_zero, ih]

end Bytes

/-! ### Allocation -/

namespace Packet

variable {k : Kind}

/-- The header of a new packet. -/
def freshHeader (k : Kind) (capacity : Int32) (b : Bytes) : Bytes :=
  Header.put .capacity capacity
    (Header.put .timestampOffset (Int32.ofNat k.timestampOffset)
      (Header.put .eventSize (Int32.ofNat k.recordSize)
        (Header.put .eventType k.eventType.id b)))

/-- A packet as it is allocated. -/
def fresh (k : Kind) (capacity : Int32) (source : Int16) (overflow : Int32) : Packet k :=
  ⟨Header.offer .overflow overflow
    (Header.offer .source source
      (freshHeader k capacity (emptyBytes k capacity.toNatClampNeg)))⟩

theorem on_fillHeader {capacity : Int32} (h : 0 < capacity.toInt) (source : Int16)
    (overflow : Int32) (b : Bytes) :
    (fillHeader k capacity source overflow).on b =
      ⟨(.ok (), Header.offer .overflow overflow (Header.offer .source source
          (freshHeader k capacity b))),
        Header.refusals .source source ++ Header.refusals .overflow overflow⟩ := by
  have htype : 0 ≤ (Header.Field.width .eventType).toInt k.eventType.id := by
    cases k <;> decide
  have hsize : 0 ≤ (Header.Field.width .eventSize).toInt (Int32.ofNat k.recordSize) := by
    cases k <;> decide
  have hoffset :
      0 ≤ (Header.Field.width .timestampOffset).toInt (Int32.ofNat k.timestampOffset) := by
    cases k <;> decide
  have hcapacity : 0 ≤ (Header.Field.width .capacity).toInt capacity := Int.le_of_lt h
  rw [fillHeader, Edit.on_bind_of_ok (Header.on_set_of_nonneg htype _),
    Edit.on_bind_of_ok (Header.on_set_of_nonneg hsize _),
    Edit.on_bind_of_ok (Header.on_set_of_nonneg hoffset _),
    Edit.on_bind_of_ok (Header.on_set_of_nonneg hcapacity _),
    Edit.on_bind_of_ok (Header.on_tryCatch_set .source source _),
    Header.on_tryCatch_set .overflow overflow _]
  rfl

/-- A buffer can hold the slots of every capacity. -/
theorem addressable?_slots (k : Kind) (capacity : Int32) :
    Header.addressable? (Header.size + capacity.toNatClampNeg * k.recordSize) =
      some (Header.size + capacity.toNatClampNeg * k.recordSize) := by
  have hcapacity : capacity.toNatClampNeg ≤ 0x80000000 := by
    have hlt := capacity.toInt_lt
    have hnat : capacity.toNatClampNeg = capacity.toInt.toNat := rfl
    omega
  have hsize : k.recordSize ≤ 48 := by cases k <;> decide
  have hmul := Nat.mul_le_mul hcapacity hsize
  refine if_pos ?_
  rw [Header.size]
  omega

/-- Allocation succeeds for every positive capacity; negative arguments are reported. -/
theorem allocate_of_pos {capacity : Int32} (h : 0 < capacity.toInt) (source : Int16)
    (overflow : Int32) :
    allocate k capacity source overflow =
      ⟨.ok (fresh k capacity source overflow),
        Header.refusals .source source ++ Header.refusals .overflow overflow⟩ := by
  have hc : ¬ capacity ≤ 0 := by
    rw [Int32.le_iff_toInt_le, Int32.toInt_zero]
    omega
  rw [allocate, if_neg hc, addressable?_slots]
  dsimp only
  rw [on_fillHeader h]
  exact Reported.ext rfl (List.append_nil _)

theorem value_allocate {capacity : Int32} (h : 0 < capacity.toInt) (source : Int16)
    (overflow : Int32) :
    (allocate k capacity source overflow).value = .ok (fresh k capacity source overflow) := by
  rw [allocate_of_pos h]

/-- Allocation fails for every other capacity. -/
theorem value_allocate_of_nonpos {capacity : Int32} (h : capacity.toInt ≤ 0) (source : Int16)
    (overflow : Int32) :
    (allocate k capacity source overflow).value = .error (.invalidCapacity capacity) := by
  have hc : capacity ≤ 0 := by rwa [Int32.le_iff_toInt_le, Int32.toInt_zero]
  rw [allocate, if_pos hc]
  rfl

theorem eq_fresh_of_allocate {capacity : Int32} {source : Int16} {overflow : Int32} {p : Packet k}
    (h : (allocate k capacity source overflow).value = .ok p) :
    0 < capacity.toInt ∧ p = fresh k capacity source overflow := by
  by_cases hc : 0 < capacity.toInt
  · rw [value_allocate hc] at h
    exact ⟨hc, (Except.ok.inj h).symm⟩
  · rw [value_allocate_of_nonpos (Int.not_lt.mp hc)] at h
    cases h

/-! ### Empty packets -/

section Fresh

variable (k : Kind) (capacity : Int32) (source : Int16) (overflow : Int32)

theorem agreeOutside_freshHeader (b : Bytes) :
    Bytes.AgreeOutside 0 Header.size b (freshHeader k capacity b) :=
  (((Header.agreeOutside_put ..).trans (Header.agreeOutside_put ..)).trans
    (Header.agreeOutside_put ..)).trans (Header.agreeOutside_put ..)

/-- Everything behind the header of a new packet is zero. -/
theorem agreeOutside_fresh :
    Bytes.AgreeOutside 0 Header.size (emptyBytes k capacity.toNatClampNeg)
      (fresh k capacity source overflow).bytes := by
  dsimp only [fresh]
  exact ((agreeOutside_freshHeader k capacity _).trans (Header.agreeOutside_offer ..)).trans
    (Header.agreeOutside_offer ..)

theorem size_fresh :
    (fresh k capacity source overflow).bytes.size =
      Header.size + capacity.toNatClampNeg * k.recordSize := by
  rw [(agreeOutside_fresh k capacity source overflow).size_eq, emptyBytes, Array.size_replicate]

/-- No slot of a new packet is marked. -/
theorem marked_fresh (i : Nat) :
    Slot.marked k (fresh k capacity source overflow).bytes i = false := by
  rw [Slot.marked_eq_of_header (agreeOutside_fresh k capacity source overflow), Slot.marked,
    Bytes.word, emptyBytes, Bytes.readLE_replicate_zero]
  decide

/-- Source and overflow counter apart, the header is the one of every packet of its layout. -/
theorem get_fresh {f : Header.Field} (hs : f ≠ .source) (ho : f ≠ .overflow) :
    Header.get f (fresh k capacity source overflow).bytes =
      Header.get f (freshHeader k capacity (emptyBytes k capacity.toNatClampNeg)) := by
  dsimp only [fresh]
  rw [Header.get_offer_of_ne ho, Header.get_offer_of_ne hs]

/-- The fields that are not filled in at once are zero. -/
theorem get_freshHeader_of_not_isFixed {f : Header.Field} (hf : f.isFixed = false) :
    Header.get f (freshHeader k capacity (emptyBytes k capacity.toNatClampNeg)) =
      f.width.decode 0 := by
  rw [freshHeader,
    Header.get_put_of_ne (by rintro rfl; cases hf), Header.get_put_of_ne (by rintro rfl; cases hf),
    Header.get_put_of_ne (by rintro rfl; cases hf), Header.get_put_of_ne (by rintro rfl; cases hf),
    Header.get, emptyBytes, Bytes.readLE_replicate_zero]

/-- The counters of a new packet are zero. -/
theorem get_fresh_of_not_isFixed {f : Header.Field} (hs : f ≠ .source) (ho : f ≠ .overflow)
    (hf : f.isFixed = false) :
    Header.get f (fresh k capacity source overflow).bytes = f.width.decode 0 := by
  rw [get_fresh k capacity source overflow hs ho, get_freshHeader_of_not_isFixed k capacity hf]

theorem number_fresh : (fresh k capacity source overflow).number = 0 :=
  get_fresh_of_not_isFixed k capacity source overflow (f := .number) nofun nofun rfl

theorem validCount_fresh : (fresh k capacity source overflow).validCount = 0 :=
  get_fresh_of_not_isFixed k capacity source overflow (f := .valid) nofun nofun rfl

theorem header_le_size_emptyBytes (n : Nat) : Header.size ≤ (emptyBytes k n).size := by
  rw [emptyBytes, Array.size_replicate]
  exact Nat.le_add_right ..

theorem header_le_size_freshHeader :
    Header.size ≤ (freshHeader k capacity (emptyBytes k capacity.toNatClampNeg)).size := by
  rw [(agreeOutside_freshHeader k capacity _).size_eq]
  exact header_le_size_emptyBytes k _

/-- A negative source is left at zero. -/
theorem source_fresh :
    (fresh k capacity source overflow).source = if source.toInt < 0 then 0 else source := by
  dsimp only [fresh, Packet.source, Header.source]
  rw [Header.get_offer_of_ne (by decide),
    Header.get_offer_self (header_le_size_freshHeader k capacity),
    get_freshHeader_of_not_isFixed k capacity rfl]
  rfl

/-- So is a negative overflow counter. -/
theorem overflow_fresh :
    (fresh k capacity source overflow).overflow =
      if overflow.toInt < 0 then 0 else overflow := by
  have hsize := header_le_size_freshHeader k capacity
  rw [← (Header.agreeOutside_offer .source source _).size_eq] at hsize
  dsimp only [fresh, Packet.overflow, Header.overflow]
  rw [Header.get_offer_self hsize, Header.get_offer_of_ne (by decide),
    get_freshHeader_of_not_isFixed k capacity rfl]
  rfl

theorem capacity_fresh : (fresh k capacity source overflow).capacity = capacity := by
  rw [Packet.capacity, Header.capacity,
    get_fresh k capacity source overflow (f := .capacity) nofun nofun,
    freshHeader, Header.get_put_self]
  simpa using header_le_size_emptyBytes k _

theorem eventType_fresh :
    Header.eventType (fresh k capacity source overflow).bytes = k.eventType.id := by
  rw [Header.eventType,
    get_fresh k capacity source overflow (f := .eventType) nofun nofun, freshHeader,
    Header.get_put_of_ne (by decide), Header.get_put_of_ne (by decide),
    Header.get_put_of_ne (by decide), Header.get_put_self (header_le_size_emptyBytes k _)]

theorem eventSize_fresh :
    Header.eventSize (fresh k capacity source overflow).bytes = Int32.ofNat k.recordSize := by
  rw [Header.eventSize,
    get_fresh k capacity source overflow (f := .eventSize) nofun nofun, freshHeader,
    Header.get_put_of_ne (by decide), Header.get_put_of_ne (by decide), Header.get_put_self]
  simpa using header_le_size_emptyBytes k _

theorem timestampOffset_fresh :
    Header.timestampOffset (fresh k capacity source overflow).bytes =
      Int32.ofNat k.timestampOffset := by
  rw [Header.timestampOffset,
    get_fresh k capacity source overflow (f := .timestampOffset) nofun nofun, freshHeader,
    Header.get_put_of_ne (by decide), Header.get_put_self]
  simpa using header_le_size_emptyBytes k _

end Fresh

/-- A new packet is consistent. -/
theorem consistent_fresh {capacity : Int32} (h : 0 < capacity.toInt) (source : Int16)
    (overflow : Int32) : (fresh k capacity source overflow).Consistent where
  eventType_eq := eventType_fresh k capacity source overflow
  eventSize_eq := by
    rw [eventSize_fresh]
    cases k <;> rfl
  timestampOffset_eq := by
    rw [timestampOffset_fresh]
    cases k <;> rfl
  capacity_pos := by rwa [capacity_fresh]
  size_eq := by rw [size_fresh, capacity_fresh]
  validCount_eq := by
    have hnone : markedSlots k (fresh k capacity source overflow).bytes
        (fresh k capacity source overflow).capacity.toNatClampNeg = [] :=
      List.filter_eq_nil_iff.mpr fun i _ => by simp [marked_fresh]
    rw [hnone, validCount_fresh]
    rfl
  validCount_le := Int.le_of_eq (by rw [validCount_fresh, number_fresh])

/-! ### New packets -/

/-- A packet as it comes into being. -/
inductive Initial : Packet k → Prop
  /-- a producer allocates it -/
  | allocated (capacity : Int32) (source : Int16) (overflow : Int32) (p : Packet k)
      (h : (allocate k capacity source overflow).value = .ok p) : Initial p
  /-- a consumer decodes it -/
  | decoded (b : Bytes) (p : Packet k) (h : ofBytes k b = .ok p) : Initial p

theorem Initial.consistent {p : Packet k} (h : p.Initial) : p.Consistent := by
  cases h with
  | allocated capacity source overflow p h =>
    obtain ⟨hc, rfl⟩ := eq_fresh_of_allocate h
    exact consistent_fresh hc source overflow
  | decoded b p h =>
    obtain ⟨rfl, hfault⟩ := ofBytes_eq_ok_iff.mp h
    exact (fault?_eq_none_iff.mp hfault).1

end Packet

end EventPackets
