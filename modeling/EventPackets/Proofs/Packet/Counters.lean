import EventPackets.Proofs.Packet.Creation
import EventPackets.Proofs.Packet.Step

/-!
# The counters of a packet

A run is a sequence of calls with their replies.  Every run keeps a packet consistent and keeps
its layout.  The event number counts the events that became valid, up to the limit of its width;
the valid count never comes to a limit, as it is the number of marked slots.

## Main definitions

* `Call.validations`, `Call.invalidations` : the slots that became valid or invalid in a run.
* `Packet.Run` : the runs of a packet.

## Main results

* `Call.performAll_run` : the calls on a consistent packet are a run.
* `Packet.Run.consistent`, `Packet.Run.sameLayout` : what every run keeps.
* `Packet.Initial.counters_performAll` : the counters of a new packet after any calls.
-/

namespace EventPackets

variable {k : Kind}

namespace Call

/-- The slots that became valid, call by call. -/
def validations (cs : List (Call k)) (replies : List Reply) : List Nat :=
  (cs.zip replies).filterMap fun step => step.1.validated? step.2

/-- The slots that became invalid, call by call. -/
def invalidations (cs : List (Call k)) (replies : List Reply) : List Nat :=
  (cs.zip replies).filterMap fun step => step.1.invalidated? step.2

variable (c : Call k) (cs : List (Call k)) (r : Reply) (rs : List Reply)

theorem validations_cons :
    validations (c :: cs) (r :: rs) = (c.validated? r).toList ++ validations cs rs := by
  cases h : c.validated? r <;> simp [validations, h]

theorem invalidations_cons :
    invalidations (c :: cs) (r :: rs) = (c.invalidated? r).toList ++ invalidations cs rs := by
  cases h : c.invalidated? r <;> simp [invalidations, h]

end Call

namespace Packet

/-- One call after another, with the replies. -/
inductive Run : Packet k → List (Call k) → List Reply → Packet k → Prop
  | nil (p : Packet k) : Run p [] [] p
  | cons {p q s : Packet k} {c : Call k} {cs : List (Call k)} {r : Reply} {rs : List Reply}
      (h : p.Step c r q) (hs : Run q cs rs s) : Run p (c :: cs) (r :: rs) s

end Packet

/-- The calls on a consistent packet are a run. -/
theorem Call.performAll_run {p : Packet k} (hp : p.Consistent) (cs : List (Call k)) :
    p.Run cs (performAll cs p).value.1 (performAll cs p).value.2 := by
  induction cs generalizing p with
  | nil => exact .nil p
  | cons c cs ih =>
    have hstep := c.perform_step hp
    exact .cons hstep (ih (hstep.consistent hp))

namespace Packet

variable {p q : Packet k} {cs : List (Call k)} {rs : List Reply}

namespace Run

theorem consistent (hp : p.Consistent) (h : p.Run cs rs q) : q.Consistent := by
  induction h with
  | nil => exact hp
  | cons h _ ih => exact ih (h.consistent hp)

theorem sameLayout (h : p.Run cs rs q) : SameLayout p q := by
  induction h with
  | nil p => exact .refl p
  | cons h _ ih => exact h.sameLayout.trans ih

/-- The event number counts what became valid, up to its limit. -/
theorem toInt_number (hp : p.Consistent) (h : p.Run cs rs q) :
    q.number.toInt =
      min (p.number.toInt + (Call.validations cs rs).length) Int32.maxValue.toInt := by
  induction h with
  | nil p =>
    have hlt := p.number.toInt_lt
    rw [Int32.toInt_maxValue]
    simp only [Call.validations, List.zip_nil_left, List.filterMap_nil, List.length_nil]
    omega
  | cons h _ ih =>
    rw [ih (h.consistent hp), h.toInt_number hp, Call.validations_cons, List.length_append,
      Int32.toInt_maxValue]
    omega

/-- The valid count is what became valid without what became invalid. -/
theorem toInt_validCount (hp : p.Consistent) (h : p.Run cs rs q) :
    q.validCount.toInt =
      p.validCount.toInt + (Call.validations cs rs).length
        - (Call.invalidations cs rs).length := by
  induction h with
  | nil p => simp [Call.validations, Call.invalidations]
  | cons h _ ih =>
    rw [ih (h.consistent hp), h.toInt_validCount hp, Call.validations_cons,
      Call.invalidations_cons, List.length_append, List.length_append]
    omega

end Run

/-- A new packet after any calls: its counters follow the marks of its slots and its history, and
its layout is the one it was made with.  The next call finds room in the valid count, whichever
it is. -/
theorem Initial.counters_performAll (hp : p.Initial) (cs : List (Call k)) :
    let replies := (Call.performAll cs p).value.1
    let q := (Call.performAll cs p).value.2
    q.validCount.toInt = (markedSlots k q.bytes q.capacity.toNatClampNeg).length ∧
      0 ≤ q.validCount.toInt ∧
      q.validCount.toInt ≤ q.number.toInt ∧
      q.validCount.toInt ≤ q.capacity.toInt ∧
      SameLayout p q ∧
      (Header.eventType q.bytes = k.eventType.id ∧
        (Header.eventSize q.bytes).toInt = k.recordSize ∧
        (Header.timestampOffset q.bytes).toInt = k.timestampOffset) ∧
      (q.bytes.size : Int) = 28 + q.capacity.toInt * k.recordSize ∧
      q.number.toInt =
        min (p.number.toInt + (Call.validations cs replies).length) 2147483647 ∧
      q.validCount.toInt =
        p.validCount.toInt + (Call.validations cs replies).length
          - (Call.invalidations cs replies).length ∧
      ∀ c : Call k,
        let reply := (c.perform q).value.1
        let next := (c.perform q).value.2
        ((c.validated? reply).isSome → next.validCount.toInt = q.validCount.toInt + 1) ∧
          ((c.invalidated? reply).isSome → next.validCount.toInt = q.validCount.toInt - 1) := by
  intro replies q
  have hrun : p.Run cs replies q := Call.performAll_run hp.consistent cs
  have hq : q.Consistent := hrun.consistent hp.consistent
  have hsize : (q.bytes.size : Int) = 28 + q.capacity.toInt * k.recordSize := by
    rw [hq.size_eq, ← hq.toInt_capacity]
    exact_mod_cast rfl
  refine ⟨hq.validCount_eq, hq.validCount_nonneg, hq.validCount_le, hq.validCount_le_capacity,
    hrun.sameLayout, ⟨hq.eventType_eq, hq.eventSize_eq, hq.timestampOffset_eq⟩, hsize,
    hrun.toInt_number hp.consistent, hrun.toInt_validCount hp.consistent, ?_⟩
  intro c reply next
  have hstep : q.Step c reply next := c.perform_step hq
  refine ⟨fun hv => ?_, fun hi => ?_⟩
  · obtain ⟨i, hv⟩ := Option.isSome_iff_exists.mp hv
    exact hstep.toInt_validCount_of_validated hq hv
  · obtain ⟨i, hi⟩ := Option.isSome_iff_exists.mp hi
    exact hstep.toInt_validCount_of_invalidated hq hi

/-- A decoded packet whose event number is at its limit takes one more mark. -/
theorem counters_performAll_at_limit :
    let p : Packet .polarity :=
      ⟨Header.put .number Int32.maxValue (fresh .polarity 2 0 0).bytes⟩
    let q := (Call.performAll [.slot 1 .validate] p).value.2
    p.Initial ∧ q.validCount.toInt = 1 ∧ q.number.toInt = 2147483647 := by
  intro p q
  have hp : p.Initial :=
    .decoded p.bytes p (ofBytes_eq_ok_iff.mpr ⟨rfl, by decide +kernel⟩)
  obtain ⟨-, -, -, -, -, -, -, hnumber, hvalid, -⟩ :=
    hp.counters_performAll [.slot 1 .validate]
  exact ⟨hp, hvalid.trans (by decide +kernel), hnumber.trans (by decide +kernel)⟩

end Packet

end EventPackets
