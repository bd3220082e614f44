import EventPackets.Packet.Records
import EventPackets.Proofs.Record.Polarity

/-!
# Laws of independent records

On a packet without bytes a call concerns at most one slot, so a slot is at any time what the calls
have made of it one after another, whatever they did to the others.  A field of its data has the
bits that were assigned to it last.  Timestamps and overflow counter are never negative.

## Main definitions

* `SlotValue.after`, `SlotValue.afterAll` : the value of a slot after calls on the packet.
* `Call.index?`, `Call.assigned?` : the slot that a call concerns, and the bits that it assigns to a
  field.
* `Call.sourceAfter`, `Call.overflowAfter` : source and overflow counter after a call.
* `Records.Nonneg` : no timestamp is negative.

## Main results

* `Kind.fieldBits_update` : a change of a field shows in this field and in no other.
* `Records.getElem?_slots_perform`, `Records.getElem?_slots_performAll` : every slot on its own.
* `Records.source_perform`, `Records.overflow_perform` : source and overflow counter on their own.
* `SlotValue.fieldBits_afterAll` : the bits assigned last.
* `Records.Nonneg.performAll` : timestamps stay nonnegative.
-/

namespace EventPackets

variable {k : Kind}

/-! ### Fields -/

theorem PolarityWrite.bits_update (w : PolarityWrite) (d : PolarityData) (f : PolarityField) :
    (w.update d).bits f = (w.assigned? f).getD (d.bits f) := by
  have haddress (v : UInt16) :
      (UInt16.ofNat (v.toNat % 0x8000)).toUInt32 = v.toUInt32 &&& 0x7FFF := by
    have hmask : (0x7FFF : UInt32).toNat = 2 ^ 15 - 1 := rfl
    have hv := v.toNat_lt
    rw [← UInt32.toNat_inj, UInt16.toNat_toUInt32, UInt16.toNat_ofNat', UInt32.toNat_and,
      UInt16.toNat_toUInt32, hmask, Nat.and_two_pow_sub_one_eq_mod]
    omega
  cases w <;> cases f <;> first | rfl | exact haddress _

theorem Imu9Write.bits_update (w : Imu9Write) (s : Imu9Sample) (m : Measurement) :
    ((w.update s).get m).bits = (w.assigned? m).getD (s.get m).bits := by
  cases w with
  | measurement n v =>
    simp only [update, assigned?, Imu9Sample.get_of]
    split <;> rfl
  | sample t => rfl

/-- A change of a field shows in this field and in no other. -/
theorem Kind.fieldBits_update (k : Kind) (w : k.Write) (d : k.Data) (f : k.Field) :
    k.fieldBits (k.update w d) f = (k.assigned? w f).getD (k.fieldBits d f) := by
  cases k with
  | polarity => exact PolarityWrite.bits_update w d f
  | imu9 => exact Imu9Write.bits_update w d f

/-- The fields of an empty slot. -/
theorem Kind.fieldBits_emptyData (k : Kind) (f : k.Field) : k.fieldBits k.emptyData f = 0 := by
  cases k <;> cases f <;> rfl

/-! ### One slot -/

namespace SlotValue

/-- The value of a slot after a call on it. -/
def afterSlotCall (s : SlotValue k) : SlotCall k → SlotValue k
  | .write w => { s with data := k.update w s.data }
  | .setTimestamp t => if t.toInt < 0 then s else { s with timestamp := t }
  | .validate => { s with valid := true }
  | .invalidate => { s with valid := false }

/-- The value of slot `i` after a call on the packet. -/
def after (i : Nat) (s : SlotValue k) : Call k → SlotValue k
  | .slot index c => if index.toInt = i then s.afterSlotCall c else s
  | _ => s

/-- The value of slot `i` after a sequence of calls on the packet. -/
def afterAll (i : Nat) (s : SlotValue k) (cs : List (Call k)) : SlotValue k :=
  cs.foldl (after i) s

end SlotValue

/-- The index of the slot that a call concerns, if it concerns one. -/
def Call.index? : Call k → Option Int
  | .slot index _ => some index.toInt
  | _ => none

/-- The source after a call. -/
def Call.sourceAfter (v : Int16) : Call k → Int16
  | .setSource w => if w.toInt < 0 then v else w
  | _ => v

/-- The overflow counter after a call. -/
def Call.overflowAfter (v : Int32) : Call k → Int32
  | .setOverflow w => if w.toInt < 0 then v else w
  | _ => v

/-- The bits that a call assigns to a field of slot `i`, if it does. -/
def Call.assigned? (i : Nat) (f : k.Field) : Call k → Option UInt32
  | .slot index (.write w) => if index.toInt = i then k.assigned? w f else none
  | _ => none

namespace SlotValue

variable {i : Nat} {s : SlotValue k}

theorem fieldBits_after (c : Call k) (f : k.Field) :
    k.fieldBits (s.after i c).data f = (c.assigned? i f).getD (k.fieldBits s.data f) := by
  cases c with
  | slot index c =>
    simp only [after]
    split
    next hi =>
      cases c with
      | write w => simpa [afterSlotCall, Call.assigned?, hi] using k.fieldBits_update w s.data f
      | setTimestamp t =>
        simp only [afterSlotCall]
        split <;> rfl
      | validate => rfl
      | invalidate => rfl
    next hi => cases c <;> simp [Call.assigned?, hi]
  | setSource v => rfl
  | setOverflow v => rfl

/-- A field has the bits that were assigned to it last. -/
theorem fieldBits_afterAll (cs : List (Call k)) (f : k.Field) :
    k.fieldBits (s.afterAll i cs).data f =
      (cs.reverse.findSome? (Call.assigned? i f)).getD (k.fieldBits s.data f) := by
  induction cs generalizing s with
  | nil => rfl
  | cons c cs ih =>
    rw [afterAll, List.foldl_cons, ← afterAll, ih, fieldBits_after, List.reverse_cons,
      List.findSome?_append, List.findSome?_singleton]
    cases cs.reverse.findSome? (Call.assigned? i f) <;> rfl

theorem timestamp_after (c : Call k) (h : 0 ≤ s.timestamp.toInt) :
    0 ≤ (s.after i c).timestamp.toInt := by
  cases c with
  | slot index c =>
    simp only [after]
    split
    next =>
      cases c with
      | setTimestamp t =>
        simp only [afterSlotCall]
        split
        next => exact h
        next ht => exact Int.not_lt.mp ht
      | _ => exact h
    next => exact h
  | _ => exact h

end SlotValue

/-! ### All slots -/

namespace Records

variable {r : Records k} {i : Nat} {s : SlotValue k}

/-- A call on a slot replaces its value. -/
theorem slots_performSlot (hs : r.slots[i]? = some s) (c : SlotCall k) :
    (r.performSlot i s c).2.slots = r.slots.set i (s.afterSlotCall c) := by
  have hsame : r.slots.set i s = r.slots := by
    obtain ⟨hi, rfl⟩ := List.getElem?_eq_some_iff.mp hs
    exact List.set_getElem_self hi
  -- a refused call leaves the slot at the value that it would have got
  cases c with
  | write w => rfl
  | setTimestamp t =>
    simp only [performSlot, SlotValue.afterSlotCall]
    split
    next => exact hsame.symm
    next => rfl
  | validate =>
    simp only [performSlot, SlotValue.afterSlotCall]
    split
    next hv => rw [← hv, hsame]
    next => rfl
  | invalidate =>
    simp only [performSlot, SlotValue.afterSlotCall]
    split
    next => rfl
    next hv => rw [← Bool.eq_false_iff.mpr hv, hsame]

/-- A call changes every slot on its own. -/
theorem getElem?_slots_perform (r : Records k) (c : Call k) (i : Nat) :
    (r.perform c).2.slots[i]? = r.slots[i]?.map fun s => s.after i c := by
  cases c with
  | slot index c =>
    simp only [perform, SlotValue.after]
    generalize index.toInt = n
    split
    next hneg => simp [show n ≠ i by omega]
    next hneg =>
      split
      next s hs =>
        rw [slots_performSlot hs, List.getElem?_set]
        by_cases hi : n = i
        · subst hi
          rw [Int.toNat_natCast] at hs ⊢
          obtain ⟨hlt, -⟩ := List.getElem?_eq_some_iff.mp hs
          rw [hs, if_pos rfl, if_pos hlt, Option.map_some, if_pos rfl]
        · simp [hi, show n.toNat ≠ i by omega]
      next hs =>
        by_cases hi : n = i
        · subst hi
          rw [Int.toNat_natCast] at hs
          simp [hs]
        · simp [hi]
  | setSource v =>
    simp only [perform, SlotValue.after]
    split <;> simp
  | setOverflow v =>
    simp only [perform, SlotValue.after]
    split <;> simp

/-- A slot is what the calls have made of it one after another. -/
theorem getElem?_slots_performAll (r : Records k) (cs : List (Call k)) (i : Nat) :
    (r.performAll cs).2.slots[i]? = r.slots[i]?.map fun s => s.afterAll i cs := by
  induction cs generalizing r with
  | nil => simp [performAll, SlotValue.afterAll]
  | cons c cs ih =>
    rw [performAll, ih, getElem?_slots_perform, Option.map_map]
    rfl

theorem source_performSlot (r : Records k) (i : Nat) (s : SlotValue k) (c : SlotCall k) :
    (r.performSlot i s c).2.source = r.source := by
  cases c <;> simp only [performSlot] <;> (try split) <;> rfl

theorem overflow_performSlot (r : Records k) (i : Nat) (s : SlotValue k) (c : SlotCall k) :
    (r.performSlot i s c).2.overflow = r.overflow := by
  cases c <;> simp only [performSlot] <;> (try split) <;> rfl

/-- A call changes source and overflow counter on their own. -/
theorem source_perform (r : Records k) (c : Call k) :
    (r.perform c).2.source = c.sourceAfter r.source := by
  cases c with
  | slot index c =>
    simp only [perform, Call.sourceAfter]
    split
    next => rfl
    next =>
      split
      next => exact source_performSlot ..
      next => rfl
  | setSource v =>
    simp only [perform, Call.sourceAfter]
    split <;> rfl
  | setOverflow v =>
    simp only [perform, Call.sourceAfter]
    split <;> rfl

theorem overflow_perform (r : Records k) (c : Call k) :
    (r.perform c).2.overflow = c.overflowAfter r.overflow := by
  cases c with
  | slot index c =>
    simp only [perform, Call.overflowAfter]
    split
    next => rfl
    next =>
      split
      next => exact overflow_performSlot ..
      next => rfl
  | setSource v =>
    simp only [perform, Call.overflowAfter]
    split <;> rfl
  | setOverflow v =>
    simp only [perform, Call.overflowAfter]
    split <;> rfl

/-- No timestamp is negative. -/
structure Nonneg (r : Records k) : Prop where
  overflow : 0 ≤ r.overflow.toInt
  timestamp : ∀ (i : Nat) s, r.slots[i]? = some s → 0 ≤ s.timestamp.toInt

theorem nonneg_fresh (k : Kind) (capacity : Int32) (source : Int16) (overflow : Int32) :
    (fresh k capacity source overflow).Nonneg where
  overflow := by
    dsimp only [fresh]
    split
    next => exact Int.le_refl 0
    next h => exact Int.not_lt.mp h
  timestamp := by
    intro i s hs
    dsimp only [fresh] at hs
    rw [(List.mem_replicate.mp (List.mem_of_getElem? hs)).2]
    exact Int.le_refl 0

/-- A negative timestamp or overflow counter is refused. -/
theorem Nonneg.perform (h : r.Nonneg) (c : Call k) : (r.perform c).2.Nonneg where
  overflow := by
    rw [overflow_perform]
    cases c with
    | setOverflow v =>
      simp only [Call.overflowAfter]
      split
      next => exact h.overflow
      next hv => exact Int.not_lt.mp hv
    | _ => exact h.overflow
  timestamp := by
    intro i s hs
    rw [getElem?_slots_perform] at hs
    obtain ⟨s', hs', rfl⟩ := Option.map_eq_some_iff.mp hs
    exact SlotValue.timestamp_after c (h.timestamp i s' hs')

theorem Nonneg.performAll (h : r.Nonneg) (cs : List (Call k)) : (r.performAll cs).2.Nonneg := by
  induction cs generalizing r with
  | nil => exact h
  | cons c cs ih => exact ih (h.perform c)

end Records

end EventPackets
