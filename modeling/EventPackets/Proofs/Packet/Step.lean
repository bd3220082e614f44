import EventPackets.Proofs.Packet.Consistency

/-!
# What a call does

On a consistent packet every call has one of a few outcomes, listed by `Packet.Step` together with
the condition for each; a refused call leaves the packet as it was.  In particular the counter
updates that follow a change of a mark are never refused.

## Main definitions

* `Packet.IsSlot` : the slot that an index stands for.
* `Packet.Step` : the outcomes of a call.

## Main results

* `Call.perform_step` : every call on a consistent packet ends in one of these outcomes.
* `Packet.Step.consistent` : the packet is consistent again afterwards.
-/

namespace EventPackets

namespace Packet

variable {k : Kind} {i : Nat}

/-- The slot `i` is the one that an index stands for. -/
structure IsSlot (p : Packet k) (index : Int32) (i : Nat) : Prop where
  toInt_eq : index.toInt = i
  lt_capacity : i < p.capacity.toNatClampNeg

theorem IsSlot.toNatClampNeg_eq {p : Packet k} {index : Int32} (h : p.IsSlot index i) :
    index.toNatClampNeg = i := by
  rw [← Int32.toNat_toInt, h.toInt_eq, Int.toNat_natCast]

theorem IsSlot.not_outside {p : Packet k} {index : Int32} (h : p.IsSlot index i) :
    ¬ (index.toInt < 0 ∨ p.capacity.toInt ≤ index.toInt) := by
  have hc : p.capacity.toNatClampNeg = p.capacity.toInt.toNat := rfl
  have := h.toInt_eq
  have := h.lt_capacity
  omega

theorem open?_of_isSlot {p : Packet k} {index : Int32} (h : p.IsSlot index i) :
    p.open? index = ⟨some i, []⟩ := by
  rw [open?, if_neg (mt Slot.outside_iff.mp h.not_outside), h.toNatClampNeg_eq]
  rfl

/-- An index without a slot is reported. -/
theorem open?_of_outside {p : Packet k} {index : Int32}
    (h : index.toInt < 0 ∨ p.capacity.toInt ≤ index.toInt) :
    ∃ message, p.open? index = ⟨none, [⟨.critical, k.label, message⟩]⟩ := by
  rw [open?, if_pos (Slot.outside_iff.mpr h)]
  exact ⟨_, rfl⟩

theorem value_open?_of_isSlot {p : Packet k} {index : Int32} (h : p.IsSlot index i) :
    (p.open? index).value = some i := by
  rw [open?_of_isSlot h]

theorem value_open?_eq_none {p : Packet k} {index : Int32}
    (h : index.toInt < 0 ∨ p.capacity.toInt ≤ index.toInt) : (p.open? index).value = none := by
  obtain ⟨message, hopen⟩ := open?_of_outside h
  rw [hopen]

theorem value_event?_of_isSlot {p : Packet k} {index : Int32} (h : p.IsSlot index i) :
    (p.event? index).value = some (p.event i) := by
  rw [event?, Reported.value_bind, value_open?_of_isSlot h]
  rfl

theorem value_event?_eq_none {p : Packet k} {index : Int32}
    (h : index.toInt < 0 ∨ p.capacity.toInt ≤ index.toInt) : (p.event? index).value = none := by
  rw [event?, Reported.value_bind, value_open?_eq_none h]
  rfl

/-- An index stands for a slot unless it is negative or not below the capacity. -/
theorem isSlot_or (p : Packet k) (index : Int32) :
    (index.toInt < 0 ∨ p.capacity.toInt ≤ index.toInt) ∨ ∃ i, p.IsSlot index i := by
  have hc : p.capacity.toNatClampNeg = p.capacity.toInt.toNat := rfl
  by_cases h : index.toInt < 0 ∨ p.capacity.toInt ≤ index.toInt
  · exact .inl h
  · exact .inr ⟨index.toInt.toNat, by omega, by omega⟩

end Packet

/-! ### Edits of a slot -/

namespace Slot

variable {k : Kind} {i : Nat} {b : Bytes}

theorem on_setTimestamp_of_neg {t : Int32} (h : t.toInt < 0) :
    ((setTimestamp k i t).on b).value =
      (.error (.negativeValue "set_timestamp" t.toInt), b) := by
  have ht : t < 0 := Int32.lt_iff_toInt_lt.mpr h
  rw [setTimestamp, if_pos ht, Edit.on_refuse]

theorem on_setTimestamp_of_nonneg {t : Int32} (h : 0 ≤ t.toInt) :
    ((setTimestamp k i t).on b).value =
      (.ok (), b.setWord (start k i + k.timestampOffset) t.toUInt32) := by
  have ht : ¬ t < 0 := by
    rw [Int32.lt_iff_toInt_lt, Int32.toInt_zero]
    omega
  rw [setTimestamp, if_neg ht, Edit.on_modify]

theorem on_validate_of_marked (h : marked k b i = true) :
    ((validate k i).on b).value = (.error .alreadyValid, b) := by
  rw [validate, Edit.on_bind_of_ok (Edit.on_get b), if_pos h, Edit.on_refuse]

/-- The buffer after slot `i` has been marked valid and counted. -/
def validated (k : Kind) (i : Nat) (b : Bytes) : Bytes :=
  Header.put .valid (succSaturating (Header.valid b))
    (Header.put .number (succSaturating (Header.number b)) (putMark k i true b))

/-- The buffer after slot `i` has been marked invalid and is no longer counted as valid. -/
def invalidated (k : Kind) (i : Nat) (b : Bytes) : Bytes :=
  Header.put .valid (predSaturating (Header.valid b)) (putMark k i false b)

/-- Counters that are not negative take the mark of one more event. -/
theorem on_validate_of_not_marked (h : marked k b i = false) (hn : 0 ≤ (Header.number b).toInt)
    (hv : 0 ≤ (Header.valid b).toInt) :
    ((validate k i).on b).value = (.ok (), validated k i b) := by
  have hget := get_eq_of_agreeOutside (agreeOutside_putMark k i b true)
  have hnumber : Header.number (putMark k i true b) = Header.number b := hget .number
  have hvalid : Header.valid (putMark k i true b) = Header.valid b := hget .valid
  rw [validate, Edit.on_bind_of_ok (Edit.on_get b), h, if_neg Bool.false_ne_true,
    Edit.on_bind_of_ok (Edit.on_modify _ b), Edit.on_bind_of_ok (Edit.on_get _), hnumber, hvalid,
    Edit.on_bind_of_ok (Header.on_set_of_nonneg (f := .number) (succSaturating_nonneg hn) _),
    Header.on_set_of_nonneg (f := .valid) (succSaturating_nonneg hv)]
  rfl

theorem on_invalidate_of_not_marked (h : marked k b i = false) :
    ((invalidate k i).on b).value = (.error .alreadyInvalid, b) := by
  rw [invalidate, Edit.on_bind_of_ok (Edit.on_get b), h, if_neg Bool.false_ne_true,
    Edit.on_refuse]

/-- A valid count above zero gives up the mark of one event. -/
theorem on_invalidate_of_marked (h : marked k b i = true) (hv : 0 < (Header.valid b).toInt) :
    ((invalidate k i).on b).value = (.ok (), invalidated k i b) := by
  have hvalid : Header.valid (putMark k i false b) = Header.valid b :=
    get_eq_of_agreeOutside (agreeOutside_putMark k i b false) .valid
  rw [invalidate, Edit.on_bind_of_ok (Edit.on_get b), if_pos h,
    Edit.on_bind_of_ok (Edit.on_modify _ b), Edit.on_bind_of_ok (Edit.on_get _), hvalid,
    Header.on_set_of_nonneg (f := .valid) (predSaturating_nonneg hv)]
  rfl

/-! The header edits that follow a change of a mark concern the counters alone. -/

theorem agreeOutside_validated (k : Kind) (i : Nat) (b : Bytes) :
    Bytes.AgreeOutside 0 Header.size (putMark k i true b) (validated k i b) :=
  (Header.agreeOutside_put ..).trans (Header.agreeOutside_put ..)

theorem agreeOutside_invalidated (k : Kind) (i : Nat) (b : Bytes) :
    Bytes.AgreeOutside 0 Header.size (putMark k i false b) (invalidated k i b) :=
  Header.agreeOutside_put ..

/-- A mark that has been changed. -/
theorem marked_self_of_putMark {c : Bytes} {v : Bool} (hb : start k i + k.recordSize ≤ b.size)
    (h : Bytes.AgreeOutside 0 Header.size (putMark k i v b) c) : marked k c i = v := by
  rw [marked_eq_of_header h, marked_putMark_self hb]

/-- The other marks. -/
theorem marked_of_putMark {c : Bytes} {v : Bool} {j : Nat}
    (h : Bytes.AgreeOutside 0 Header.size (putMark k i v b) c) (hij : i ≠ j) :
    marked k c j = marked k b j := by
  rw [marked_eq_of_header h, marked_eq_of_agreeOutside (agreeOutside_putMark k i b v) hij]

end Slot

/-! ### Outcomes of a call -/

namespace Packet

variable {k : Kind}

/-- The outcomes of a call on a packet: the call, the answer, and the packet afterwards. -/
inductive Step (p : Packet k) : Call k → Reply → Packet k → Prop
  | noSlot (index : Int32) (c : SlotCall k)
      (h : index.toInt < 0 ∨ p.capacity.toInt ≤ index.toInt) : Step p (.slot index c) .noSlot p
  | write {index : Int32} {i : Nat} (h : p.IsSlot index i) (w : k.Write) :
      Step p (.slot index (.write w)) .done ⟨k.write w (Slot.start k i) p.bytes⟩
  | negativeTimestamp {index : Int32} {i : Nat} (h : p.IsSlot index i) (t : Int32)
      (ht : t.toInt < 0) :
      Step p (.slot index (.setTimestamp t))
        (.refused (.negativeValue "set_timestamp" t.toInt)) p
  | setTimestamp {index : Int32} {i : Nat} (h : p.IsSlot index i) (t : Int32)
      (ht : 0 ≤ t.toInt) :
      Step p (.slot index (.setTimestamp t)) .done
        ⟨p.bytes.setWord (Slot.start k i + k.timestampOffset) t.toUInt32⟩
  | alreadyValid {index : Int32} {i : Nat} (h : p.IsSlot index i)
      (hm : Slot.marked k p.bytes i = true) :
      Step p (.slot index .validate) (.refused .alreadyValid) p
  | validate {index : Int32} {i : Nat} (h : p.IsSlot index i)
      (hm : Slot.marked k p.bytes i = false) :
      Step p (.slot index .validate) .done ⟨Slot.validated k i p.bytes⟩
  | alreadyInvalid {index : Int32} {i : Nat} (h : p.IsSlot index i)
      (hm : Slot.marked k p.bytes i = false) :
      Step p (.slot index .invalidate) (.refused .alreadyInvalid) p
  | invalidate {index : Int32} {i : Nat} (h : p.IsSlot index i)
      (hm : Slot.marked k p.bytes i = true) :
      Step p (.slot index .invalidate) .done ⟨Slot.invalidated k i p.bytes⟩
  | negativeSource (v : Int16) (hv : v.toInt < 0) :
      Step p (.setSource v) (.refused (.negativeValue "set_event_source" v.toInt)) p
  | setSource (v : Int16) (hv : 0 ≤ v.toInt) :
      Step p (.setSource v) .done ⟨Header.put .source v p.bytes⟩
  | negativeOverflow (v : Int32) (hv : v.toInt < 0) :
      Step p (.setOverflow v) (.refused (.negativeValue "set_event_ts_overflow" v.toInt)) p
  | setOverflow (v : Int32) (hv : 0 ≤ v.toInt) :
      Step p (.setOverflow v) .done ⟨Header.put .overflow v p.bytes⟩

variable {p q : Packet k}

theorem value_edit {e : Edit Unit} {result : Except PacketError Unit} {b : Bytes}
    (h : (e.on p.bytes).value = (result, b)) : (p.edit e).value = (.ofResult result, ⟨b⟩) := by
  rw [edit, Reported.value_bind, h]
  rfl

theorem value_edit_set_of_neg {f : Header.Field} {v : f.Value} (h : f.width.toInt v < 0) :
    (p.edit (Header.set f v)).value =
      (.refused (.negativeValue f.setter (f.width.toInt v)), p) := by
  rw [edit, Reported.value_bind, Header.on_set_of_neg h]
  rfl

theorem value_edit_set_of_nonneg {f : Header.Field} {v : f.Value} (h : 0 ≤ f.width.toInt v) :
    (p.edit (Header.set f v)).value = (.done, ⟨Header.put f v p.bytes⟩) := by
  rw [edit, Reported.value_bind, Header.on_set_of_nonneg h]
  rfl

/-- What a call on an open slot does is what its edit does. -/
theorem value_perform_slot {index : Int32} {i : Nat} (h : p.IsSlot index i) {c : SlotCall k}
    {result : Except PacketError Unit} {b : Bytes}
    (he : ((c.edit i).on p.bytes).value = (result, b)) :
    ((Call.slot index c).perform p).value = (.ofResult result, ⟨b⟩) := by
  rw [Call.perform, Reported.value_bind, value_open?_of_isSlot h]
  exact value_edit he

theorem step_of_value {c : Call k} {r : Reply} (h : (c.perform p).value = (r, q))
    (hs : p.Step c r q) : p.Step c (c.perform p).value.1 (c.perform p).value.2 := by
  rw [h]
  exact hs

end Packet

/-- Every call on a consistent packet has one of the listed outcomes. -/
theorem Call.perform_step {k : Kind} {p : Packet k} (hp : p.Consistent) (c : Call k) :
    p.Step c (c.perform p).value.1 (c.perform p).value.2 := by
  cases c with
  | slot index c =>
    rcases p.isSlot_or index with h | ⟨i, h⟩
    · refine Packet.step_of_value ?_ (.noSlot index c h)
      rw [perform, Reported.value_bind, Packet.value_open?_eq_none h, Reported.value_pure]
    · cases c with
      | write w =>
        have he : (((SlotCall.write w).edit i).on p.bytes).value =
            (.ok (), k.write w (Slot.start k i) p.bytes) := rfl
        exact Packet.step_of_value (Packet.value_perform_slot h he) (.write h w)
      | setTimestamp t =>
        by_cases ht : t.toInt < 0
        · exact Packet.step_of_value
            (Packet.value_perform_slot h (Slot.on_setTimestamp_of_neg ht))
            (.negativeTimestamp h t ht)
        · exact Packet.step_of_value
            (Packet.value_perform_slot h (Slot.on_setTimestamp_of_nonneg (by omega)))
            (.setTimestamp h t (by omega))
      | validate =>
        cases hm : Slot.marked k p.bytes i with
        | true =>
          exact Packet.step_of_value
            (Packet.value_perform_slot h (Slot.on_validate_of_marked hm)) (.alreadyValid h hm)
        | false =>
          exact Packet.step_of_value
            (Packet.value_perform_slot h
              (Slot.on_validate_of_not_marked hm hp.number_nonneg hp.validCount_nonneg))
            (.validate h hm)
      | invalidate =>
        cases hm : Slot.marked k p.bytes i with
        | true =>
          exact Packet.step_of_value
            (Packet.value_perform_slot h
              (Slot.on_invalidate_of_marked hm (hp.validCount_pos h.lt_capacity hm)))
            (.invalidate h hm)
        | false =>
          exact Packet.step_of_value
            (Packet.value_perform_slot h (Slot.on_invalidate_of_not_marked hm))
            (.alreadyInvalid h hm)
  | setSource v =>
    by_cases hv : v.toInt < 0
    · exact Packet.step_of_value (Packet.value_edit_set_of_neg (f := .source) hv)
        (.negativeSource v hv)
    · exact Packet.step_of_value
        (Packet.value_edit_set_of_nonneg (f := .source) (Int.not_lt.mp hv))
        (.setSource v (by omega))
  | setOverflow v =>
    by_cases hv : v.toInt < 0
    · exact Packet.step_of_value (Packet.value_edit_set_of_neg (f := .overflow) hv)
        (.negativeOverflow v hv)
    · exact Packet.step_of_value
        (Packet.value_edit_set_of_nonneg (f := .overflow) (Int.not_lt.mp hv))
        (.setOverflow v (by omega))

/-! ### Marks and counters after a call -/

namespace Call

variable {k : Kind}

/-- The slot that a call has marked valid, if it asks for that and is carried out. -/
def validated? : Call k → Reply → Option Nat
  | slot index .validate, .done => some index.toNatClampNeg
  | _, _ => none

/-- The slot that a call has marked invalid, if it asks for that and is carried out. -/
def invalidated? : Call k → Reply → Option Nat
  | slot index .invalidate, .done => some index.toNatClampNeg
  | _, _ => none

@[simp]
theorem validated?_noSlot (c : Call k) : c.validated? .noSlot = none := by
  unfold validated?
  split <;> simp_all

@[simp]
theorem invalidated?_noSlot (c : Call k) : c.invalidated? .noSlot = none := by
  unfold invalidated?
  split <;> simp_all

theorem invalidated?_of_validated {c : Call k} {r : Reply} {i : Nat}
    (h : c.validated? r = some i) : c.invalidated? r = none := by
  unfold validated? at h
  split at h
  · rfl
  · cases h

end Call

namespace Packet.Step

variable {k : Kind} {p q : Packet k} {c : Call k} {r : Reply}

theorem sameLayout (h : p.Step c r q) : SameLayout p q := by
  cases h with
  | write h w => exact .of_agreeOutside (k.agreeOutside_write w _ _)
  | setTimestamp h t ht => exact .of_agreeOutside (Slot.agreeOutside_setTimestamp k _ _ _)
  | @validate _ i h hm =>
    exact (SameLayout.of_agreeOutside (Slot.agreeOutside_putMark k i p.bytes true)).trans
      ((SameLayout.of_put (f := .number) rfl _ _).trans (.of_put (f := .valid) rfl _ _))
  | @invalidate _ i h hm =>
    exact (SameLayout.of_agreeOutside (Slot.agreeOutside_putMark k i p.bytes false)).trans
      (.of_put (f := .valid) rfl _ _)
  | setSource v hv => exact .of_put (f := .source) rfl v p.bytes
  | setOverflow v hv => exact .of_put (f := .overflow) rfl v p.bytes
  | _ => exact .refl p

/-- A slot that a call marks valid was not marked before. -/
theorem not_marked_of_validated {i : Nat} (h : p.Step c r q) (hv : c.validated? r = some i) :
    i < p.capacity.toNatClampNeg ∧ Slot.marked k p.bytes i = false := by
  cases h with
  | validate h hm =>
    cases hv
    rw [h.toNatClampNeg_eq]
    exact ⟨h.lt_capacity, hm⟩
  | noSlot => simp at hv
  | _ => cases hv

/-- A slot that a call marks invalid was marked before. -/
theorem marked_of_invalidated {i : Nat} (h : p.Step c r q) (hv : c.invalidated? r = some i) :
    i < p.capacity.toNatClampNeg ∧ Slot.marked k p.bytes i = true := by
  cases h with
  | invalidate h hm =>
    cases hv
    rw [h.toNatClampNeg_eq]
    exact ⟨h.lt_capacity, hm⟩
  | noSlot => simp at hv
  | _ => cases hv

/-- The marks after a call. -/
theorem marked_eq (hp : p.Consistent) (h : p.Step c r q) (j : Nat) :
    Slot.marked k q.bytes j =
      if c.validated? r = some j then true
      else if c.invalidated? r = some j then false
      else Slot.marked k p.bytes j := by
  cases h with
  | @write _ i h w =>
    simp only [Call.validated?, Call.invalidated?, reduceCtorEq, ↓reduceIte]
    by_cases hij : i = j
    · subst hij
      exact Slot.marked_write_self (hp.start_add_le h.lt_capacity) w
    · exact Slot.marked_eq_of_agreeOutside (k.agreeOutside_write w _ _) hij
  | @setTimestamp _ i h t ht =>
    simp only [Call.validated?, Call.invalidated?, reduceCtorEq, ↓reduceIte]
    by_cases hij : i = j
    · subst hij
      exact Slot.marked_setTimestamp_self t.toUInt32
    · exact Slot.marked_eq_of_agreeOutside (Slot.agreeOutside_setTimestamp k i _ _) hij
  | @validate _ i h hm =>
    simp only [Call.validated?, Call.invalidated?, h.toNatClampNeg_eq, Option.some.injEq,
      reduceCtorEq, ↓reduceIte]
    split
    next hij =>
      subst hij
      exact Slot.marked_self_of_putMark (hp.start_add_le h.lt_capacity)
        (Slot.agreeOutside_validated k i _)
    next hij => exact Slot.marked_of_putMark (Slot.agreeOutside_validated k i _) hij
  | @invalidate _ i h hm =>
    simp only [Call.validated?, Call.invalidated?, h.toNatClampNeg_eq, Option.some.injEq,
      reduceCtorEq, ↓reduceIte]
    split
    next hij =>
      subst hij
      exact Slot.marked_self_of_putMark (hp.start_add_le h.lt_capacity)
        (Slot.agreeOutside_invalidated k i _)
    next hij => exact Slot.marked_of_putMark (Slot.agreeOutside_invalidated k i _) hij
  | setSource v hv =>
    simp only [Call.validated?, Call.invalidated?, reduceCtorEq, ↓reduceIte]
    exact Slot.marked_eq_of_header (Header.agreeOutside_put .source v _) j
  | setOverflow v hv =>
    simp only [Call.validated?, Call.invalidated?, reduceCtorEq, ↓reduceIte]
    exact Slot.marked_eq_of_header (Header.agreeOutside_put .overflow v _) j
  | noSlot => simp
  | _ => rfl

/-- A call that changes no mark keeps the counters. -/
theorem counter_eq (h : p.Step c r q) (hv : c.validated? r = none) (hi : c.invalidated? r = none)
    {f : Header.Field} (hf : f = .number ∨ f = .valid) :
    Header.get f q.bytes = Header.get f p.bytes := by
  cases h with
  | write h w =>
    dsimp only
    exact Slot.get_eq_of_agreeOutside (k.agreeOutside_write w _ _) f
  | setTimestamp h t ht =>
    dsimp only
    exact Slot.get_eq_of_agreeOutside (Slot.agreeOutside_setTimestamp k _ _ _) f
  | validate => cases hv
  | invalidate => cases hi
  | setSource v =>
    dsimp only
    rw [Header.get_put_of_ne (by rcases hf with rfl | rfl <;> decide)]
  | setOverflow v =>
    dsimp only
    rw [Header.get_put_of_ne (by rcases hf with rfl | rfl <;> decide)]
  | _ => rfl

/-- The counters after a slot has been marked valid. -/
theorem counters_of_validated {i : Nat} (hp : p.Consistent) (h : p.Step c r q)
    (hv : c.validated? r = some i) :
    q.number = succSaturating p.number ∧ q.validCount = succSaturating p.validCount := by
  cases h with
  | @validate _ i h hm =>
    have hs : Header.size ≤ (Slot.putMark k i true p.bytes).size := by
      simpa [Slot.putMark] using hp.header_le_size
    dsimp only [number, validCount, Header.number, Header.valid, Slot.validated]
    rw [Header.get_put_of_ne (by decide), Header.get_put_self hs,
      Header.get_put_self (by rwa [Header.size_put])]
    exact ⟨rfl, rfl⟩
  | noSlot => simp at hv
  | _ => cases hv

/-- The counters after a slot has been marked invalid. -/
theorem counters_of_invalidated {i : Nat} (hp : p.Consistent) (h : p.Step c r q)
    (hi : c.invalidated? r = some i) :
    q.number = p.number ∧ q.validCount = predSaturating p.validCount := by
  cases h with
  | @invalidate _ i h hm =>
    have hs : Header.size ≤ (Slot.putMark k i false p.bytes).size := by
      simpa [Slot.putMark] using hp.header_le_size
    dsimp only [number, validCount, Header.number, Header.valid, Slot.invalidated]
    rw [Header.get_put_of_ne (by decide), Header.get_put_self hs,
      Slot.get_eq_of_agreeOutside (Slot.agreeOutside_putMark k i p.bytes false)]
    exact ⟨rfl, rfl⟩
  | noSlot => simp at hi
  | _ => cases hi

/-- The event number counts what becomes valid, up to its limit. -/
theorem toInt_number (hp : p.Consistent) (h : p.Step c r q) :
    q.number.toInt =
      min (p.number.toInt + (c.validated? r).toList.length) Int32.maxValue.toInt := by
  have hlt := p.number.toInt_lt
  rw [Int32.toInt_maxValue]
  cases hv : c.validated? r with
  | some i =>
    rw [(h.counters_of_validated hp hv).1, toInt_succSaturating, Int32.toInt_maxValue]
    rfl
  | none =>
    have hn : q.number = p.number := by
      cases hi : c.invalidated? r with
      | some i => exact (h.counters_of_invalidated hp hi).1
      | none => exact h.counter_eq hv hi (.inl rfl)
    rw [hn, Option.toList_none, List.length_nil]
    omega

/-- The valid count takes every new mark. -/
theorem toInt_validCount_of_validated {i : Nat} (hp : p.Consistent) (h : p.Step c r q)
    (hv : c.validated? r = some i) : q.validCount.toInt = p.validCount.toInt + 1 := by
  obtain ⟨hi, hm⟩ := h.not_marked_of_validated hv
  have hlt := hp.validCount_lt_capacity hi hm
  have hcap := p.capacity.toInt_lt
  rw [(h.counters_of_validated hp hv).2, toInt_succSaturating, Int32.toInt_maxValue]
  omega

/-- The valid count gives up every mark that is cleared. -/
theorem toInt_validCount_of_invalidated {i : Nat} (hp : p.Consistent) (h : p.Step c r q)
    (hi : c.invalidated? r = some i) : q.validCount.toInt = p.validCount.toInt - 1 := by
  obtain ⟨hlt, hm⟩ := h.marked_of_invalidated hi
  rw [(h.counters_of_invalidated hp hi).2, toInt_predSaturating (hp.validCount_pos hlt hm)]

/-- The valid count never comes to a limit. -/
theorem toInt_validCount (hp : p.Consistent) (h : p.Step c r q) :
    q.validCount.toInt =
      p.validCount.toInt + (c.validated? r).toList.length - (c.invalidated? r).toList.length := by
  cases hv : c.validated? r with
  | some i =>
    rw [h.toInt_validCount_of_validated hp hv, Call.invalidated?_of_validated hv]
    simp
  | none =>
    cases hi : c.invalidated? r with
    | some i =>
      rw [h.toInt_validCount_of_invalidated hp hi]
      simp
    | none =>
      have hsame : q.validCount = p.validCount := h.counter_eq hv hi (.inr rfl)
      simp [hsame]

/-- The marks after a call that marks slot `i` valid. -/
theorem marked_of_validated {i : Nat} (hp : p.Consistent) (h : p.Step c r q)
    (hv : c.validated? r = some i) :
    Slot.marked k q.bytes i = true ∧
      ∀ j, i ≠ j → Slot.marked k q.bytes j = Slot.marked k p.bytes j := by
  refine ⟨by rw [h.marked_eq hp, if_pos hv], fun j hij => ?_⟩
  rw [h.marked_eq hp, hv, Call.invalidated?_of_validated hv, if_neg (by simpa using hij),
    if_neg (by simp)]

/-- The marks after a call that marks slot `i` invalid. -/
theorem not_marked_of_invalidated {i : Nat} (hp : p.Consistent) (h : p.Step c r q)
    (hv : c.validated? r = none) (hi : c.invalidated? r = some i) :
    Slot.marked k q.bytes i = false ∧
      ∀ j, i ≠ j → Slot.marked k q.bytes j = Slot.marked k p.bytes j := by
  refine ⟨by rw [h.marked_eq hp, hv, if_neg (by simp), if_pos hi], fun j hij => ?_⟩
  rw [h.marked_eq hp, hv, hi, if_neg (by simp), if_neg (by simpa using hij)]

/-- The counters follow the marks through every call. -/
theorem consistent (hp : p.Consistent) (h : p.Step c r q) : q.Consistent := by
  have hcount := hp.validCount_eq
  have hle := hp.validCount_le
  have hnumber := h.toInt_number hp
  rw [Int32.toInt_maxValue] at hnumber
  -- A call sets a mark, clears one, or changes none; the capacity leaves room for the count.
  cases hv : c.validated? r with
  | some i =>
    obtain ⟨hi, hm⟩ := h.not_marked_of_validated hv
    obtain ⟨hself, hother⟩ := h.marked_of_validated hp hv
    have hvalid := h.toInt_validCount_of_validated hp hv
    have hset := length_markedSlots_of_set hi hm hself hother
    have hroom := hp.validCount_lt_capacity hi hm
    have hcap := p.capacity.toInt_lt
    rw [hv, Option.toList_some, List.length_singleton] at hnumber
    exact hp.of_sameLayout h.sameLayout (by omega) (by omega)
  | none =>
    rw [hv, Option.toList_none, List.length_nil] at hnumber
    have hmax := p.number.toInt_lt
    cases hi : c.invalidated? r with
    | some i =>
      obtain ⟨hlt, hm⟩ := h.marked_of_invalidated hi
      obtain ⟨hself, hother⟩ := h.not_marked_of_invalidated hp hv hi
      have hvalid := h.toInt_validCount_of_invalidated hp hi
      have hset := length_markedSlots_of_set hlt hself hm fun j hij => (hother j hij).symm
      exact hp.of_sameLayout h.sameLayout (by omega) (by omega)
    | none =>
      have hvalid : q.validCount = p.validCount := h.counter_eq hv hi (.inr rfl)
      have hsame : markedSlots k q.bytes p.capacity.toNatClampNeg =
          markedSlots k p.bytes p.capacity.toNatClampNeg :=
        markedSlots_congr fun j _ => by
          rw [h.marked_eq hp j, hv, hi, if_neg (by simp), if_neg (by simp)]
      rw [← hvalid] at hcount hle
      exact hp.of_sameLayout h.sameLayout (by rw [hsame, hcount]) (by omega)

end Packet.Step

end EventPackets
