import EventPackets.Header.View
import EventPackets.Proofs.Packet.Frame

/-!
# A header is a record of eight fields

The eight fields of a header share one run of bytes, yet they behave like eight variables: a field
has the value that was put into it last, whatever has been put into the other fields, and what was
there at the start if nothing has been.  What follows the header never changes.

## Main definitions

* `Header.Assignment.answer` : what an assignment is answered.
* `Header.Assignment.valueFor?` : what it puts into a given field.

## Main results

* `Header.View.get_set`, `Header.View.get_setAll` : a field after one assignment and after several.
* `Header.packetSize?_eq_some_iff` : the size of the packet as an integer.
* `Header.View.fields_setAll` : the whole view after any assignments.
-/

namespace EventPackets.Header

variable {f : Field} {w : View} {a : Assignment} {b : Bytes}

/-! ### Values -/

/-- A field is a signed little-endian number. -/
theorem toInt_get (f : Field) (b : Bytes) :
    f.width.toInt (get f b) =
      (b.readLE f.offset f.width.bytes : Int).bmod (Bytes.bound f.width.bytes) := by
  rw [get]
  cases f.width with
  | half => exact Int16.toInt_ofNat'
  | full => exact Int32.toInt_ofNat'

theorem packetSize?_eq_some_iff {n : Nat} :
    packetSize? b = some n ↔ 0 ≤ (capacity b).toInt ∧ 0 ≤ (eventSize b).toInt ∧
      (n : Int) = 28 + (capacity b).toInt * (eventSize b).toInt := by
  rw [packetSize?_eq]
  by_cases h : 0 ≤ (capacity b).toInt ∧ 0 ≤ (eventSize b).toInt
  · have hcast : ((size + (capacity b).toInt.toNat * (eventSize b).toInt.toNat : Nat) : Int) =
        28 + (capacity b).toInt * (eventSize b).toInt := by
      rw [Int.natCast_add, Int.natCast_mul, Int.toNat_of_nonneg h.1, Int.toNat_of_nonneg h.2, size]
      rfl
    rw [if_pos h, Option.some_inj, ← hcast, Int.natCast_inj]
    exact ⟨fun hn => ⟨h.1, h.2, hn.symm⟩, fun hn => hn.2.2.symm⟩
  · rw [if_neg h]
    exact ⟨fun hn => absurd hn.symm (Option.some_ne_none n),
      fun hn => absurd ⟨hn.1, hn.2.1⟩ h⟩

/-! ### Assignments -/

namespace Assignment

/-- The number that is to stand in the field. -/
def toInt (a : Assignment) : Int :=
  a.field.width.toInt a.value

/-- What an assignment is answered; it is refused if its value is negative. -/
def answer (a : Assignment) : Except PacketError Unit :=
  if 0 ≤ a.toInt then .ok () else .error (.negativeValue a.field.setter a.toInt)

/-- What an assignment puts into the field `f`: its value, if it is meant for this field and not
refused. -/
def valueFor? (f : Field) (a : Assignment) : Option f.Value :=
  if h : a.field = f then if 0 ≤ a.toInt then some (h ▸ a.value) else none else none

theorem answer_eq_ok_iff : a.answer = .ok () ↔ 0 ≤ a.toInt := by
  unfold answer
  split
  next h => exact iff_of_true rfl h
  next h => exact iff_of_false nofun h

theorem valueFor?_of_ne (h : a.field ≠ f) : a.valueFor? f = none :=
  dif_neg h

theorem valueFor?_of_neg (h : a.toInt < 0) : a.valueFor? f = none := by
  unfold valueFor?
  split
  · exact if_neg (Int.not_le.mpr h)
  · rfl

theorem valueFor?_self (h : 0 ≤ a.toInt) : a.valueFor? a.field = some a.value := by
  rw [valueFor?, dif_pos rfl, if_pos h]

end Assignment

/-! ### Views -/

namespace View

theorem ofBytes?_eq_some_iff : ofBytes? b = some w ↔ w.bytes = b := by
  unfold ofBytes?
  obtain ⟨c, hc⟩ := w
  split
  next h => simp [eq_comm]
  next h =>
    refine ⟨nofun, ?_⟩
    rintro rfl
    exact absurd hc h

theorem ofBytes?_eq_none_iff : ofBytes? b = none ↔ b.size < size := by
  unfold ofBytes?
  split
  next h => exact iff_of_false nofun (Nat.not_lt.mpr h)
  next h => exact iff_of_true rfl (Nat.not_le.mp h)

/-- An assignment is carried out or refused; either way it answers which. -/
theorem answer_set (w : View) (a : Assignment) : (w.set a).value.1 = a.answer := by
  unfold set Assignment.answer
  by_cases h : 0 ≤ a.toInt
  · rw [if_pos h]
    dsimp only
    rw [on_set_of_nonneg h]
  · rw [if_neg h]
    dsimp only
    rw [on_set_of_neg (Int.not_le.mp h)]
    rfl

theorem bytes_set_of_nonneg (h : 0 ≤ a.toInt) :
    (w.set a).value.2.bytes = put a.field a.value w.bytes := by
  unfold set
  dsimp only
  rw [on_set_of_nonneg h]

theorem bytes_set_of_neg (h : a.toInt < 0) : (w.set a).value.2.bytes = w.bytes := by
  unfold set
  dsimp only
  rw [on_set_of_neg h]

/-- An assignment changes the field that it is meant for, unless it is refused, and no other. -/
theorem get_set (w : View) (a : Assignment) (f : Field) :
    (w.set a).value.2.get f = (a.valueFor? f).getD (w.get f) := by
  rw [get, get]
  by_cases h : 0 ≤ a.toInt
  · rw [bytes_set_of_nonneg h]
    by_cases hf : a.field = f
    · subst hf
      rw [get_put_self w.size_le, Assignment.valueFor?_self h, Option.getD_some]
    · rw [get_put_of_ne (Ne.symm hf), Assignment.valueFor?_of_ne hf, Option.getD_none]
  · rw [bytes_set_of_neg (Int.not_le.mp h), Assignment.valueFor?_of_neg (Int.not_le.mp h),
      Option.getD_none]

/-- An assignment keeps what follows the header. -/
theorem agreeOutside_set (w : View) (a : Assignment) :
    Bytes.AgreeOutside 0 size w.bytes (w.set a).value.2.bytes := by
  by_cases h : 0 ≤ a.toInt
  · rw [bytes_set_of_nonneg h]
    exact agreeOutside_put a.field a.value w.bytes
  · rw [bytes_set_of_neg (Int.not_le.mp h)]
    exact .refl 0 size w.bytes

theorem answers_setAll (w : View) (as : List Assignment) :
    (w.setAll as).value.1 = as.map Assignment.answer := by
  induction as generalizing w with
  | nil => rfl
  | cons a as ih =>
    have htail := ih (w.set a).value.2
    rw [List.map_cons, ← htail, ← answer_set w a]
    rfl

/-- After a sequence of assignments a field has the value that was put into it last. -/
theorem get_setAll (w : View) (as : List Assignment) (f : Field) :
    (w.setAll as).value.2.get f = (as.filterMap (Assignment.valueFor? f)).getLastD (w.get f) := by
  induction as generalizing w with
  | nil => rfl
  | cons a as ih =>
    have hstep := get_set w a f
    have htail : (w.setAll (a :: as)).value.2 = ((w.set a).value.2.setAll as).value.2 := rfl
    rw [htail, ih, hstep]
    cases hv : a.valueFor? f with
    | none => rw [List.filterMap_cons_none hv, Option.getD_none]
    | some v => rw [List.filterMap_cons_some hv, Option.getD_some, List.getLastD_cons]

theorem agreeOutside_setAll (w : View) (as : List Assignment) :
    Bytes.AgreeOutside 0 size w.bytes (w.setAll as).value.2.bytes := by
  induction as generalizing w with
  | nil => exact .refl 0 size w.bytes
  | cons a as ih => exact (agreeOutside_set w a).trans (ih (w.set a).value.2)

/-- A buffer of 28 bytes or more has a view, a shorter one has none.  The fields of the view are
signed little-endian numbers.  An assignment succeeds if and only if its value is not negative.
After any assignments each field has the value that was put into it last, or its first value if
none was; the size of the packet is computed from the current values without loss, and does not
exist if one of them is negative; and the bytes from 28 on are what they were. -/
theorem fields_setAll (b : Bytes) (w : View) (as : List Assignment) :
    (ofBytes? b = none ↔ b.size < 28) ∧ (ofBytes? b = some w ↔ w.bytes = b) ∧
      (∀ f : Field, f.width.toInt (w.get f) =
        (w.bytes.readLE f.offset f.width.bytes : Int).bmod (Bytes.bound f.width.bytes)) ∧
      ∃ v, (w.setAll as).value = (as.map Assignment.answer, v) ∧
        (∀ a ∈ as, a.answer = .ok () ↔ 0 ≤ a.field.width.toInt a.value) ∧
        (∀ f, v.get f = (as.filterMap (Assignment.valueFor? f)).getLastD (w.get f)) ∧
        (∀ n : Nat, v.packetSize? = some n ↔
          0 ≤ Field.capacity.width.toInt (v.get .capacity) ∧
            0 ≤ Field.eventSize.width.toInt (v.get .eventSize) ∧
            (n : Int) = 28 + Field.capacity.width.toInt (v.get .capacity) *
              Field.eventSize.width.toInt (v.get .eventSize)) ∧
        v.bytes.size = w.bytes.size ∧ ∀ i, 28 ≤ i → v.bytes.byteAt i = w.bytes.byteAt i := by
  have hagree := agreeOutside_setAll w as
  refine ⟨ofBytes?_eq_none_iff, ofBytes?_eq_some_iff, fun f => toInt_get f w.bytes,
    (w.setAll as).value.2, ?_, fun a _ => Assignment.answer_eq_ok_iff, get_setAll w as,
    fun n => packetSize?_eq_some_iff, hagree.size_eq, fun i hi => ?_⟩
  · rw [← answers_setAll w as]
  · exact hagree.byteAt_eq i (.inr (by rw [size]; omega))

end View

end EventPackets.Header
