import EventPackets.Packet.Recipe
import EventPackets.Proofs.Packet.Writes

/-!
# Packets built from recipes

The events of a recipe are put into the slots of an empty packet one after another, so at any time
the first slots hold the values of the events so far and the rest of them are empty.  Every event
becomes valid at first, so the event number counts them all, and no mark is left uncounted.

## Main definitions

* `EventRecipe.value` : what a slot holds after an event has been put into it.
* `Records.filled` : the records of a packet some of whose slots have been filled.
* `Packet.Holds` : a consistent packet with given records.

## Main results

* `Packet.Holds.fill`, `Packet.Holds.fillAll` : events are put into the next slots.
* `Packet.Holds.marksCounted` : a decoder accepts what has been filled.
* `Packet.exists_fillAll_fresh` : an allocated packet into which events are put.
-/

namespace EventPackets

variable {k : Kind}

/-- What an empty slot holds after an event has been put into it. -/
def EventRecipe.value (e : EventRecipe k) : SlotValue k :=
  ⟨e.valid, e.timestamp, k.updateAll e.writes k.emptyData⟩

/-! ### Records -/

namespace Records

/-- The records of a packet whose first slots have been filled with given values, while `free` more
are empty. -/
def filled (source : Int16) (overflow : Int32) (vs : List (SlotValue k)) (free : Nat) :
    Records k where
  source := source
  overflow := overflow
  number := vs.length
  validCount := vs.countP SlotValue.valid
  slots := vs ++ List.replicate free ⟨false, 0, k.emptyData⟩

/-- The same, while the next slot has a value but is not counted yet. -/
def filling (source : Int16) (overflow : Int32) (vs : List (SlotValue k)) (s : SlotValue k)
    (free : Nat) : Records k :=
  { filled source overflow vs free with
    slots := vs ++ s :: List.replicate free ⟨false, 0, k.emptyData⟩ }

variable {source : Int16} {overflow : Int32} {vs : List (SlotValue k)} {s : SlotValue k}
  {free : Nat}

theorem fresh_eq_filled (k : Kind) (capacity : Int32) (source : Int16) (overflow : Int32) :
    fresh k capacity source overflow =
      filled (if source.toInt < 0 then 0 else source) (if overflow.toInt < 0 then 0 else overflow)
        [] capacity.toInt.toNat := by
  rfl

theorem nonneg_filled (ho : 0 ≤ overflow.toInt) (hts : ∀ v ∈ vs, 0 ≤ v.timestamp.toInt) :
    (filled source overflow vs free).Nonneg where
  overflow := ho
  timestamp := by
    intro i v hv
    rcases List.mem_append.mp (List.mem_of_getElem? hv) with hv | hv
    · exact hts v hv
    · rw [(List.mem_replicate.mp hv).2]
      exact Int.le_refl 0

/-- The next slot is empty. -/
theorem filled_succ :
    filled source overflow vs (free + 1) =
      filling source overflow vs ⟨false, 0, k.emptyData⟩ free := by
  rw [filling, filled, filled, List.replicate_succ]

theorem getElem?_filling : (filling source overflow vs s free).slots[vs.length]? = some s := by
  simp [filling]

theorem getElem?_filled : (filled source overflow (vs ++ [s]) free).slots[vs.length]? = some s := by
  simp [filled]

theorem slots_set_filling (s' : SlotValue k) :
    { filling source overflow vs s free with
      slots := (filling source overflow vs s free).slots.set vs.length s' } =
      filling source overflow vs s' free := by
  simp [filling]

theorem performSlot_setTimestamp_filling {t : Int32} (ht : 0 ≤ t.toInt) :
    ((filling source overflow vs s free).performSlot vs.length s (.setTimestamp t)).2 =
      filling source overflow vs { s with timestamp := t } free := by
  rw [performSlot, if_neg (Int.not_lt.mpr ht)]
  exact slots_set_filling _

/-- The slot is counted as soon as it becomes valid. -/
theorem performSlot_validate_filling (hs : s.valid = false) (h : vs.length < counterLimit) :
    ((filling source overflow vs s free).performSlot vs.length s .validate).2 =
      filled source overflow (vs ++ [{ s with valid := true }]) free := by
  have hcount : vs.countP SlotValue.valid ≤ vs.length := List.countP_le_length
  rw [performSlot, hs, if_neg Bool.false_ne_true]
  apply Records.ext <;> simp [filling, filled] <;> omega

/-- It stays counted when it becomes invalid, though not as valid. -/
theorem performSlot_invalidate_filled (hs : s.valid = true) :
    ((filled source overflow (vs ++ [s]) free).performSlot vs.length s .invalidate).2 =
      filled source overflow (vs ++ [{ s with valid := false }]) free := by
  rw [performSlot, if_pos hs]
  apply Records.ext <;> simp [filled, hs]

end Records

/-! ### Packets with given records -/

namespace Packet

/-- A consistent packet with given records. -/
structure Holds (p : Packet k) (r : Records k) : Prop where
  consistent : p.Consistent
  records_eq : p.records = r

theorem holds_fresh {capacity : Int32} (h : 0 < capacity.toInt) (source : Int16)
    (overflow : Int32) :
    (fresh k capacity source overflow).Holds (.fresh k capacity source overflow) :=
  ⟨consistent_fresh h source overflow, records_fresh k capacity source overflow⟩

namespace Holds

variable {p q : Packet k} {r : Records k} {s : SlotValue k} {i : Nat}

theorem capacity_eq (h : p.Holds r) : p.capacity.toNatClampNeg = r.slots.length := by
  rw [← p.length_slots, h.records_eq]

theorem isSlot (h : p.Holds r) (hs : r.slots[i]? = some s) : p.IsSlot (Int32.ofNat i) i := by
  obtain ⟨hi, -⟩ := List.getElem?_eq_some_iff.mp hs
  have hcapacity := h.consistent.toInt_capacity
  have hlt := p.capacity.toInt_lt
  rw [← h.capacity_eq] at hi
  exact ⟨Int32.toInt_ofNat_of_lt (by omega), hi⟩

theorem slotValue_eq (h : p.Holds r) (hs : r.slots[i]? = some s) : p.slotValue i = s := by
  have hi := (h.isSlot hs).lt_capacity
  rw [← h.records_eq, getElem?_slots hi] at hs
  exact Option.some.inj hs

theorem marked_eq (h : p.Holds r) (hs : r.slots[i]? = some s) :
    Slot.marked k p.bytes i = s.valid := by
  rw [← valid_slotValue, h.slotValue_eq hs]

/-- A call on a slot does to the packet what it does to the records. -/
theorem step (h : p.Holds r) (hs : r.slots[i]? = some s) {c : SlotCall k} {reply : Reply}
    (hstep : p.Step (.slot (Int32.ofNat i) c) reply q) : q.Holds (r.performSlot i s c).2 := by
  have hperform := hstep.perform_records h.consistent
  rw [perform_records_of_isSlot (h.isSlot hs), h.slotValue_eq hs, h.records_eq] at hperform
  exact ⟨hstep.consistent h.consistent, by rw [hperform]⟩

theorem exists_of_value {e : Edit Unit} {b : Bytes} (he : (e.on p.bytes).value = (.ok (), b))
    (hb : (⟨b⟩ : Packet k).Holds r) :
    ∃ q : Packet k, (e.on p.bytes).value = (.ok (), q.bytes) ∧ q.Holds r :=
  ⟨⟨b⟩, he, hb⟩

/-! ### Filling the next slot -/

variable {source : Int16} {overflow : Int32} {vs : List (SlotValue k)} {free : Nat}

/-- The data of the event comes first. -/
theorem writeAll (h : p.Holds (.filling source overflow vs s free)) (ws : List k.Write) :
    ∃ q : Packet k,
      (Edit.on (ws.forM fun w => modify (k.write w (Slot.start k vs.length))) p.bytes).value =
        (.ok (), q.bytes) ∧
      q.Holds (.filling source overflow vs { s with data := k.updateAll ws s.data } free) := by
  have hi := h.isSlot Records.getElem?_filling
  refine exists_of_value (by rw [Kind.on_forM_write])
    ⟨consistent_writeAll h.consistent hi ws, ?_⟩
  rw [records_writeAll (h.consistent.start_add_le hi.lt_capacity), h.records_eq,
    h.slotValue_eq Records.getElem?_filling]
  exact Records.slots_set_filling _

theorem setTimestamp (h : p.Holds (.filling source overflow vs s free)) {t : Int32}
    (ht : 0 ≤ t.toInt) :
    ∃ q : Packet k, ((Slot.setTimestamp k vs.length t).on p.bytes).value = (.ok (), q.bytes) ∧
      q.Holds (.filling source overflow vs { s with timestamp := t } free) := by
  have hi := h.isSlot Records.getElem?_filling
  have hstep := h.step Records.getElem?_filling (.setTimestamp hi t ht)
  rw [Records.performSlot_setTimestamp_filling ht] at hstep
  exact exists_of_value (Slot.on_setTimestamp_of_nonneg ht) hstep

/-- With its mark the event is counted. -/
theorem validate (h : p.Holds (.filling source overflow vs s free)) (hs : s.valid = false) :
    ∃ q : Packet k, ((Slot.validate k vs.length).on p.bytes).value = (.ok (), q.bytes) ∧
      q.Holds (.filled source overflow (vs ++ [{ s with valid := true }]) free) := by
  have hi := h.isSlot Records.getElem?_filling
  have hm := (h.marked_eq Records.getElem?_filling).trans hs
  have hlimit : vs.length < Records.counterLimit := by
    have hlt := hi.lt_capacity
    have hcapacity := h.consistent.toInt_capacity
    have hmax := p.capacity.toInt_lt
    rw [Records.counterLimit, Int32.toInt_maxValue]
    omega
  have hstep := h.step Records.getElem?_filling (.validate hi hm)
  rw [Records.performSlot_validate_filling hs hlimit] at hstep
  exact exists_of_value (Slot.on_validate_of_not_marked hm h.consistent.number_nonneg
    h.consistent.validCount_nonneg) hstep

theorem invalidate (h : p.Holds (.filled source overflow (vs ++ [s]) free)) (hs : s.valid = true) :
    ∃ q : Packet k, ((Slot.invalidate k vs.length).on p.bytes).value = (.ok (), q.bytes) ∧
      q.Holds (.filled source overflow (vs ++ [{ s with valid := false }]) free) := by
  have hi := h.isSlot Records.getElem?_filled
  have hm := (h.marked_eq Records.getElem?_filled).trans hs
  have hstep := h.step Records.getElem?_filled (.invalidate hi hm)
  rw [Records.performSlot_invalidate_filled hs] at hstep
  exact exists_of_value
    (Slot.on_invalidate_of_marked hm (h.consistent.validCount_pos hi.lt_capacity hm)) hstep

/-- An event is put into the next slot. -/
theorem fill (h : p.Holds (.filled source overflow vs (free + 1))) (e : EventRecipe k)
    (ht : 0 ≤ e.timestamp.toInt) :
    ∃ q : Packet k, ((e.fill vs.length).on p.bytes).value = (.ok (), q.bytes) ∧
      q.Holds (.filled source overflow (vs ++ [e.value]) free) := by
  rw [Records.filled_succ] at h
  obtain ⟨q₁, hwrite, h₁⟩ := h.writeAll e.writes
  obtain ⟨q₂, htime, h₂⟩ := h₁.setTimestamp ht
  obtain ⟨q₃, hvalidate, h₃⟩ := h₂.validate rfl
  rw [EventRecipe.fill, Edit.value_on_bind_of_ok hwrite, Edit.value_on_bind_of_ok htime,
    Edit.value_on_bind_of_ok hvalidate, EventRecipe.value]
  cases hvalid : e.valid with
  | true => exact ⟨q₃, rfl, h₃⟩
  | false => exact h₃.invalidate rfl

/-- Events are put into the next slots, one after another. -/
theorem fillAll (es : List (EventRecipe k)) (hts : ∀ e ∈ es, 0 ≤ e.timestamp.toInt)
    (h : p.Holds (.filled source overflow vs (es.length + free))) :
    ∃ q : Packet k, ((EventRecipe.fillAll vs.length es).on p.bytes).value = (.ok (), q.bytes) ∧
      q.Holds (.filled source overflow (vs ++ es.map EventRecipe.value) free) := by
  induction es generalizing p vs with
  | nil =>
    rw [List.length_nil, Nat.zero_add] at h
    exact ⟨p, rfl, by rwa [List.map_nil, List.append_nil]⟩
  | cons e es ih =>
    rw [List.forall_mem_cons] at hts
    rw [List.length_cons, Nat.add_right_comm] at h
    obtain ⟨q₁, hfill, h₁⟩ := h.fill e hts.1
    obtain ⟨q, hrest, hq⟩ := ih hts.2 h₁
    rw [List.length_append, List.length_singleton] at hrest
    refine ⟨q, ?_, ?_⟩
    · rw [EventRecipe.fillAll, Edit.value_on_bind_of_ok hfill, hrest]
    · rwa [List.append_assoc, List.singleton_append, ← List.map_cons] at hq

/-! ### Filled packets -/

section Filled

variable (h : p.Holds (.filled source overflow vs free))

include h

theorem toInt_number : p.number.toInt = vs.length := by
  rw [← number_records, h.records_eq, Records.filled]

/-- A decoder accepts what has been filled. -/
theorem marksCounted : p.MarksCounted := by
  intro i hi hm
  have hslot := getElem?_slots hi
  rw [h.records_eq, Records.filled] at hslot
  rw [h.toInt_number, Int.ofNat_lt]
  rcases Nat.lt_or_ge i vs.length with hlt | hge
  · exact hlt
  · -- the slots that have not been filled are not marked
    rw [List.getElem?_append_right hge] at hslot
    have hempty := (List.mem_replicate.mp (List.mem_of_getElem? hslot)).2
    rw [← valid_slotValue, hempty] at hm
    cases hm

/-- The event in a slot that has been filled. -/
theorem event_eq (ho : 0 ≤ overflow.toInt) (hts : ∀ v ∈ vs, 0 ≤ v.timestamp.toInt)
    (hs : vs[i]? = some s) :
    p.event i =
      { slot := i
        valid := s.valid
        timestamp := s.timestamp
        timestamp64 := Int64.ofInt (overflow.toInt * 0x80000000 + s.timestamp.toInt)
        data := s.data } := by
  have hslot : (Records.filled source overflow vs free).slots[i]? = some s := by
    obtain ⟨hi, -⟩ := List.getElem?_eq_some_iff.mp hs
    rw [Records.filled, List.getElem?_append_left hi, hs]
  have hn : p.records.Nonneg := by
    rw [h.records_eq]
    exact Records.nonneg_filled ho hts
  rw [Packet.event_eq hn (h.isSlot hslot).lt_capacity, h.slotValue_eq hslot, h.records_eq]
  rfl

end Filled

end Holds

/-- A new packet is filled with as many events as it has slots for. -/
theorem exists_fillAll_fresh {capacity : Int32} (hc : 0 < capacity.toInt) (source : Int16)
    (overflow : Int32) (es : List (EventRecipe k)) (hlength : es.length ≤ capacity.toInt)
    (hts : ∀ e ∈ es, 0 ≤ e.timestamp.toInt) :
    ∃ p : Packet k,
      ((EventRecipe.fillAll 0 es).on (fresh k capacity source overflow).bytes).value =
        (.ok (), p.bytes) ∧
      p.Holds (.filled (if source.toInt < 0 then 0 else source)
        (if overflow.toInt < 0 then 0 else overflow) (es.map EventRecipe.value)
        (capacity.toInt.toNat - es.length)) := by
  have hfresh := holds_fresh (k := k) hc source overflow
  have hfree : capacity.toInt.toNat = es.length + (capacity.toInt.toNat - es.length) := by omega
  rw [Records.fresh_eq_filled, hfree] at hfresh
  exact hfresh.fillAll es hts

end Packet

end EventPackets
