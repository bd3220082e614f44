import Mathlib.Data.List.Forall2
import EventPackets.Proofs.Packet.Rejection

/-!
# Diagnostics of a session

Every rejection in a session is reported once, by the layer that rejects, and nothing else is
reported.  Marks and counters are the critical part: an edit that changes a mark puts counters into
the header afterwards, and the header would report a negative one, but on a consistent packet there
is none.  The threshold filters the reports on their way out of the program and has no other effect,
so that sessions under different thresholds answer the same.

## Main definitions

* `Report.Accounts` : one critical report for a rejection, and none otherwise.
* `Session.Opening`, `Session.start` : a session begins with a packet that is allocated or decoded.
* `Session.Step.subsystem` : the layer that rejects a step.
* `Session.Step.SameButThreshold` : steps that differ in the threshold they set, if at all.

## Main results

* `Slot.accounted_validate`, `Slot.accounted_invalidate` : the edits of a mark account for their
  rejection.
* `Session.Step.accounts_perform` : what a step reports.
* `Session.results_eq_of_sameButThreshold` : thresholds do not influence a session.
* `Session.rejections_accounted` : the lines of a whole session.
-/

namespace EventPackets

variable {k : Kind}

/-! ### Reports of a rejection -/

namespace Report

/-- The reports of an operation: one critical report from a subsystem if the operation is rejected,
and none otherwise. -/
inductive Accounts (subsystem : String) : Bool → List Report → Prop
  | rejected (message : String) : Accounts subsystem true [⟨.critical, subsystem, message⟩]
  | accepted : Accounts subsystem false []

variable {subsystem : String} {rejected : Bool} {rs : List Report} {t : Severity}

/-- What a threshold lets through of critical reports. -/
theorem emitted_of_critical (h : ∀ r ∈ rs, r.severity = .critical) :
    emitted t rs = if Severity.critical.rank ≤ t.rank then rs else [] := by
  split
  next ht =>
    exact List.filter_eq_self.mpr fun r hr => by rw [h r hr]; exact (Severity.passes_iff _ t).mpr ht
  next ht =>
    refine List.filter_eq_nil_iff.mpr fun r hr => ?_
    rw [h r hr]
    exact mt (Severity.passes_iff _ t).mp ht

/-- The lines of a rejection that get through a threshold. -/
theorem Accounts.emitted_eq (h : Accounts subsystem rejected rs) :
    ∃ message, emitted t rs =
      if rejected = true ∧ Severity.critical.rank ≤ t.rank
        then [⟨.critical, subsystem, message⟩] else [] := by
  cases h with
  | rejected message =>
    refine ⟨message, ?_⟩
    rw [emitted_of_critical (List.forall_mem_singleton.mpr rfl)]
    simp only [true_and]
  | accepted => exact ⟨"", by rw [if_neg (by simp)]; rfl⟩

end Report

/-! ### Edits -/

namespace Edit

variable {subsystem : String} {e : Edit Unit} {b b' : Bytes}

/-- An edit of a buffer accounts for its refusal. -/
def Accounted (subsystem : String) (e : Edit Unit) (b : Bytes) : Prop :=
  Report.Accounts subsystem (Reply.ofResult (e.on b).value.1 != .done) (e.on b).reports

theorem accounted_refuse (subsystem message : String) (cause : PacketError) (b : Bytes) :
    (refuse subsystem message cause).Accounted subsystem b :=
  .rejected message

theorem accounted_of_on_ok (h : e.on b = ⟨(.ok (), b'), []⟩) : e.Accounted subsystem b := by
  rw [Accounted, h]
  exact .accepted

/-- An edit after one that is carried out without a report. -/
theorem Accounted.bind {α : Type} {e : Edit α} {f : α → Edit Unit} {a : α}
    (h : e.on b = ⟨(.ok a, b'), []⟩) (hf : (f a).Accounted subsystem b') :
    Edit.Accounted subsystem (e >>= f) b := by
  rw [Accounted, on_bind_of_ok h]
  exact hf

end Edit

theorem Header.accounted_set (f : Field) (v : f.Value) (b : Bytes) :
    (set f v).Accounted subsystem b := by
  by_cases hv : f.width.toInt v < 0
  · rw [Edit.Accounted, on_set_of_neg hv]
    exact .rejected _
  · exact Edit.accounted_of_on_ok (on_set_of_nonneg (Int.not_lt.mp hv) b)

namespace Slot

variable {i : Nat} {b : Bytes}

theorem accounted_setTimestamp (t : Int32) : (setTimestamp k i t).Accounted k.label b := by
  unfold setTimestamp
  split
  · exact Edit.accounted_refuse ..
  · exact Edit.accounted_of_on_ok (Edit.on_modify _ b)

/-- The header edits that follow a mark report nothing. -/
theorem accounted_validate (hn : 0 ≤ (Header.number b).toInt) (hv : 0 ≤ (Header.valid b).toInt) :
    (validate k i).Accounted k.label b := by
  obtain ⟨hnumber, hvalid⟩ := on_set_counters_of_putMark (k := k) (i := i) hn hv
  refine .bind (Edit.on_get b) ?_
  split
  · exact Edit.accounted_refuse ..
  · exact .bind (Edit.on_modify _ b) (.bind (Edit.on_get _)
      (.bind hnumber (Edit.accounted_of_on_ok hvalid)))

theorem accounted_invalidate (hv : marked k b i = true → 0 < (Header.valid b).toInt) :
    (invalidate k i).Accounted k.label b := by
  refine .bind (Edit.on_get b) ?_
  split
  next hm =>
    exact .bind (Edit.on_modify _ b) (.bind (Edit.on_get _)
      (Edit.accounted_of_on_ok (on_set_valid_of_putMark (hv hm))))
  next => exact Edit.accounted_refuse ..

end Slot

/-- A call on an open slot accounts for its refusal. -/
theorem SlotCall.accounted_edit {p : Packet k} (hp : p.Consistent) {i : Nat}
    (hi : i < p.capacity.toNatClampNeg) (c : SlotCall k) :
    (c.edit i).Accounted k.label p.bytes := by
  cases c with
  | write w => exact Edit.accounted_of_on_ok (Edit.on_modify _ _)
  | setTimestamp t => exact Slot.accounted_setTimestamp t
  | validate => exact Slot.accounted_validate hp.number_nonneg hp.validCount_nonneg
  | invalidate => exact Slot.accounted_invalidate fun hm => hp.validCount_pos hi hm

/-! ### Allocation -/

theorem Header.severity_of_mem_refusals (f : Field) (v : f.Value) :
    ∀ r ∈ refusals f v, r.severity = .critical := by
  intro r hr
  unfold refusals at hr
  split at hr
  · rw [List.mem_singleton.mp hr, refusal]
  · cases hr

theorem Packet.reports_allocate_of_nonpos {capacity : Int32} (h : capacity.toInt ≤ 0)
    (source : Int16) (overflow : Int32) :
    ∃ message, (allocate k capacity source overflow).reports =
      [⟨.critical, k.label, message⟩] := by
  have hc : capacity ≤ 0 := by rwa [Int32.le_iff_toInt_le, Int32.toInt_zero]
  rw [allocate, if_pos hc]
  exact ⟨_, rfl⟩

/-! ### Access to a slot -/

namespace Packet

variable {p : Packet k}

theorem reports_edit (p : Packet k) (e : Edit Unit) :
    (p.edit e).reports = (e.on p.bytes).reports := by
  rw [edit, Reported.reports_bind_pure]

theorem accounts_event? (p : Packet k) (index : Int32) :
    Report.Accounts k.label (p.event? index).value.isNone (p.event? index).reports := by
  rcases p.isSlot_or index with hout | ⟨i, hi⟩
  · obtain ⟨message, hopen⟩ := open?_of_outside hout
    rw [event?, Reported.value_bind, Reported.reports_bind, hopen]
    exact .rejected message
  · rw [event?, open?_of_isSlot hi]
    exact .accepted

/-- Generic access to a packet reports an index without a slot, and nothing else. -/
theorem accounts_get? (hp : p.Consistent) (index : Int32) :
    Report.Accounts GenericEvent.subsystem (GenericEvent.get? p.bytes index).value.isNone
      (GenericEvent.get? p.bytes index).reports := by
  rw [GenericEvent.get?, Reported.value_bind, Reported.reports_bind_pure, Reported.value_pure]
  rcases p.isSlot_or index with hout | ⟨i, hi⟩
  · obtain ⟨message, hlocate⟩ := GenericEvent.locate?_of_outside hp.header_le_size hout
    rw [hlocate]
    exact .rejected message
  · rw [GenericEvent.locate?_of_isSlot hp hi]
    exact .accepted

end Packet

/-! ### Steps of a session -/

namespace Session

/-- The layer that rejects a step.  A change of the threshold is never rejected. -/
def Step.subsystem : Step k → String
  | call (.setSource _) => Header.subsystem
  | call (.setOverflow _) => Header.subsystem
  | genericEvent _ => GenericEvent.subsystem
  | _ => k.label

namespace Step

variable {p : Packet k}

theorem accounts_edit {subsystem : String} {e : Edit Unit} (h : e.Accounted subsystem p.bytes) :
    Report.Accounts subsystem ((p.edit e).value.1 != .done) (p.edit e).reports := by
  rw [Packet.reports_edit]
  exact h

theorem accounts_perform_slot (hp : p.Consistent) (index : Int32) (c : SlotCall k) :
    Report.Accounts k.label (((Call.slot index c).perform p).value.1 != .done)
      ((Call.slot index c).perform p).reports := by
  rcases p.isSlot_or index with hout | ⟨i, hi⟩
  · obtain ⟨message, hopen⟩ := Packet.open?_of_outside hout
    rw [Call.perform, Reported.value_bind, Reported.reports_bind, hopen]
    exact .rejected message
  · rw [Call.perform, Packet.open?_of_isSlot hi]
    exact accounts_edit (c.accounted_edit hp hi.lt_capacity)

/-- A step of a session reports its rejection, by the layer that rejects it, and nothing else. -/
theorem accounts_perform (hp : p.Consistent) (x : Step k) :
    Report.Accounts x.subsystem (x.perform p).value.1.failed (x.perform p).reports := by
  cases x with
  | call c =>
    rw [perform, Reported.reports_bind_pure]
    cases c with
    | slot index c => exact accounts_perform_slot hp index c
    | setSource v => exact accounts_edit (Header.accounted_set .source v p.bytes)
    | setOverflow v => exact accounts_edit (Header.accounted_set .overflow v p.bytes)
  | event index =>
    rw [perform, Reported.reports_bind_pure]
    exact p.accounts_event? index
  | genericEvent index =>
    rw [perform, Reported.reports_bind_pure]
    exact Packet.accounts_get? hp index
  | setThreshold s => exact .accepted

end Step

/-! ### Runs -/

/-- The threshold in force after some steps. -/
def thresholdAfter (t : Severity) (xs : List (Step k)) : Severity :=
  xs.foldl (fun t x => x.threshold t) t

theorem threshold_run (s : Session k) (xs : List (Step k)) :
    (s.run xs).2.threshold = thresholdAfter s.threshold xs := by
  induction xs generalizing s with
  | nil => rfl
  | cons x xs ih => exact ih (s.step x).2.2

/-- The answer and the lines of a step come from the session after the steps before it. -/
theorem getElem?_run (s : Session k) (xs : List (Step k)) (i : Nat) :
    (s.run xs).1[i]? =
      xs[i]?.map fun x => (((s.run (xs.take i)).2.step x).1, ((s.run (xs.take i)).2.step x).2.1) := by
  induction xs generalizing s i with
  | nil => rfl
  | cons x xs ih =>
    cases i with
    | zero => rfl
    | succ i => exact ih (s.step x).2.2 i

/-- The lines of a step. -/
theorem getElem?_run_of_consistent {s : Session k} (hs : s.packet.Consistent) {xs : List (Step k)}
    {i : Nat} {x : Step k} (hx : xs[i]? = some x) :
    ∃ answer message, (s.run xs).1[i]? = some (answer,
      if answer.failed = true ∧
          Severity.critical.rank ≤ (thresholdAfter s.threshold (xs.take i)).rank
        then [⟨.critical, x.subsystem, message⟩] else []) := by
  have hconsistent := consistent_run hs (xs.take i)
  obtain ⟨message, hlines⟩ := (x.accounts_perform hconsistent).emitted_eq
    (t := (s.run (xs.take i)).2.threshold)
  refine ⟨(x.perform (s.run (xs.take i)).2.packet).value.1, message, ?_⟩
  rw [getElem?_run, hx, Option.map_some, ← threshold_run, ← hlines]
  rfl

/-- Two steps that are the same unless both set a threshold. -/
inductive Step.SameButThreshold : Step k → Step k → Prop
  | same (x : Step k) : SameButThreshold x x
  | setThreshold (t t' : Severity) : SameButThreshold (.setThreshold t) (.setThreshold t')

theorem Step.SameButThreshold.perform_eq {x y : Step k} (h : x.SameButThreshold y) (p : Packet k) :
    x.perform p = y.perform p := by
  cases h <;> rfl

/-- Thresholds have no influence on a run. -/
theorem run_of_sameButThreshold {s s' : Session k} {xs ys : List (Step k)}
    (hs : s.packet = s'.packet) (h : List.Forall₂ Step.SameButThreshold xs ys) :
    (s.run xs).1.map Prod.fst = (s'.run ys).1.map Prod.fst ∧
      (s.run xs).2.packet = (s'.run ys).2.packet := by
  induction h generalizing s s' with
  | nil => exact ⟨rfl, hs⟩
  | @cons x y xs ys hxy _ ih =>
    have hperform : x.perform s.packet = y.perform s'.packet := by rw [hs, hxy.perform_eq]
    have hnext : (s.step x).2.2.packet = (s'.step y).2.2.packet :=
      congrArg (fun r => r.value.2) hperform
    obtain ⟨hanswers, hpacket⟩ := ih hnext
    refine ⟨?_, hpacket⟩
    rw [run, run, List.map_cons, List.map_cons, hanswers]
    exact congrArg (fun r => r.value.1 :: _) hperform

/-! ### Sessions from their opening -/

/-- How a session begins. -/
inductive Opening (k : Kind)
  | allocate (capacity : Int32) (source : Int16) (overflow : Int32)
  | decode (b : Bytes)

/-- The packet of a session, with the reports that are raised before there is one. -/
def Opening.perform : Opening k → Reported (Except PacketError (Packet k))
  | allocate capacity source overflow => Packet.allocate k capacity source overflow
  | decode b => pure (Packet.ofBytes k b)

/-- A session after its opening under a threshold, and the lines emitted. -/
def start (t : Severity) (o : Opening k) : Except PacketError (Session k) × List Report :=
  let r := o.perform
  (r.value.map fun p => ⟨t, p⟩, Report.emitted t r.reports)

/-- The answers of a session and the bytes of its packet in the end. -/
def results (t : Severity) (o : Opening k) (xs : List (Step k)) :
    Except PacketError (List (Answer k) × Bytes) :=
  (start t o).1.map fun s => ((s.run xs).1.map Prod.fst, (s.run xs).2.packet.bytes)

theorem start_eq_ok_iff {t : Severity} {o : Opening k} {s : Session k} :
    (start t o).1 = .ok s ↔ o.perform.value = .ok s.packet ∧ s.threshold = t := by
  obtain ⟨threshold, p⟩ := s
  rw [start]
  cases o.perform.value with
  | error e => simp [Except.map]
  | ok q => simp [Except.map, and_comm, eq_comm]

/-- Allocating a packet: one line for a capacity that is refused, or else one for each negative
argument. -/
theorem start_allocate (t : Severity) (capacity : Int32) (source : Int16) (overflow : Int32) :
    ∃ message, start t (.allocate (k := k) capacity source overflow) =
      (if 0 < capacity.toInt then .ok ⟨t, Packet.fresh k capacity source overflow⟩
        else .error (.invalidCapacity capacity),
      if Severity.critical.rank ≤ t.rank then
        if 0 < capacity.toInt then
          Header.refusals .source source ++ Header.refusals .overflow overflow
        else [⟨.critical, k.label, message⟩]
      else []) := by
  rw [start, Opening.perform]
  by_cases hc : 0 < capacity.toInt
  · have hcritical : ∀ r ∈ Header.refusals .source source ++ Header.refusals .overflow overflow,
        r.severity = .critical :=
      List.forall_mem_append.mpr
        ⟨Header.severity_of_mem_refusals .source source,
          Header.severity_of_mem_refusals .overflow overflow⟩
    refine ⟨"", ?_⟩
    rw [Packet.allocate_of_pos hc, if_pos hc, if_pos hc, Report.emitted_of_critical hcritical]
    rfl
  · obtain ⟨message, hreports⟩ := Packet.reports_allocate_of_nonpos (k := k)
      (Int.not_lt.mp hc) source overflow
    refine ⟨message, ?_⟩
    rw [Packet.value_allocate_of_nonpos (Int.not_lt.mp hc), hreports, if_neg hc, if_neg hc,
      Report.emitted_of_critical (List.forall_mem_singleton.mpr rfl)]
    rfl

theorem Opening.initial {o : Opening k} {p : Packet k} (h : o.perform.value = .ok p) :
    p.Initial := by
  cases o with
  | allocate capacity source overflow => exact .allocated capacity source overflow p h
  | decode b => exact .decoded b p h

/-- Thresholds have no influence on a session. -/
theorem results_eq_of_sameButThreshold (t t' : Severity) (o : Opening k) {xs ys : List (Step k)}
    (h : List.Forall₂ Step.SameButThreshold xs ys) : results t o xs = results t' o ys := by
  rw [results, results, start, start]
  cases o.perform.value with
  | error e => rfl
  | ok p =>
    have hpacket : (⟨t, p⟩ : Session k).packet = (⟨t', p⟩ : Session k).packet := rfl
    obtain ⟨hanswers, hbytes⟩ := run_of_sameButThreshold hpacket h
    simp only [Except.map, hanswers, hbytes]

/-- The lines of a whole session, from its opening under a threshold `t`.  A capacity that is not
positive is rejected with one critical line of the kind; otherwise a packet is allocated, with one
critical line of the header for each negative argument.  Decoding emits nothing, whatever comes of
it.  Each rejected step emits one critical line from the layer that rejects it, and an accepted one
none.  All these lines are emitted if critical reports get through the threshold in force, and
otherwise none is.  Thresholds change nothing else: sessions that differ in the thresholds alone
give the same answers and end with the same bytes. -/
theorem rejections_accounted (k : Kind) (t : Severity) :
    (∀ capacity source overflow, ∃ message,
      start t (.allocate (k := k) capacity source overflow) =
        (if 0 < capacity.toInt then .ok ⟨t, Packet.fresh k capacity source overflow⟩
          else .error (.invalidCapacity capacity),
        if Severity.critical.rank ≤ t.rank then
          if 0 < capacity.toInt then
            Header.refusals .source source ++ Header.refusals .overflow overflow
          else [⟨.critical, k.label, message⟩]
        else [])) ∧
      (∀ b, (start t (.decode (k := k) b)).2 = []) ∧
      (∀ (o : Opening k) s, (start t o).1 = .ok s → ∀ xs i x, xs[i]? = some x →
        ∃ answer message, (s.run xs).1[i]? = some (answer,
          if answer.failed = true ∧ Severity.critical.rank ≤ (thresholdAfter t (xs.take i)).rank
            then [⟨.critical, x.subsystem, message⟩] else [])) ∧
      ∀ t' (o : Opening k) xs ys, List.Forall₂ Step.SameButThreshold xs ys →
        results t o xs = results t' o ys := by
  refine ⟨start_allocate t, fun b => rfl, fun o s hs xs i x hx => ?_,
    fun t' o xs ys => results_eq_of_sameButThreshold t t' o⟩
  obtain ⟨hopening, rfl⟩ := start_eq_ok_iff.mp hs
  exact getElem?_run_of_consistent (Opening.initial hopening).consistent hx

/-- A session with a negative source.  While only alerts get through, an index without a slot is
refused in silence; afterwards it is reported.  With other thresholds the answers are the same. -/
theorem rejections_accounted_alert :
    let o : Opening .polarity := .allocate 1 (-3) 0
    let s : Session .polarity := ⟨.error, .fresh .polarity 1 (-3) 0⟩
    let steps (t t' : Severity) : List (Step .polarity) :=
      [.call (.slot 0 .invalidate), .setThreshold t, .genericEvent 5, .setThreshold t',
        .genericEvent 5, .call (.setOverflow (-1))]
    start .error o =
        (.ok s, [⟨.critical, "EventPacket Header",
          "Called set_event_source() with negative value!"⟩]) ∧
      (s.run (steps .alert .debug)).1.map (fun x => x.2.map Report.subsystem) =
        [["Polarity Event"], [], [], [], ["Generic Event"], ["EventPacket Header"]] ∧
      (∃ answer message, (s.run (steps .alert .debug)).1[4]? = some (answer,
        if answer.failed = true then [⟨.critical, "Generic Event", message⟩] else [])) ∧
      results .error o (steps .alert .debug) = results .emergency o (steps .info .critical) := by
  intro o s steps
  obtain ⟨hallocate, -, hlines, hresults⟩ := rejections_accounted .polarity .error
  obtain ⟨message, hstart⟩ := hallocate 1 (-3) 0
  have hstart' : start .error o = (.ok s, [⟨.critical, "EventPacket Header",
      "Called set_event_source() with negative value!"⟩]) := hstart.trans (by rfl)
  refine ⟨hstart', by decide +kernel, ?_, hresults .emergency o _ _ ?_⟩
  · obtain ⟨answer, message, hline⟩ :=
      hlines o s (congrArg Prod.fst hstart') (steps .alert .debug) 4 (.genericEvent 5) rfl
    have hpasses : Severity.critical.rank ≤
        (thresholdAfter .error ((steps .alert .debug).take 4)).rank := by decide
    simp only [hpasses, and_true] at hline
    exact ⟨answer, message, hline⟩
  · exact .cons (.same _) (.cons (.setThreshold _ _) (.cons (.same _) (.cons (.setThreshold _ _)
      (.cons (.same _) (.cons (.same _) .nil)))))

end Session

end EventPackets
