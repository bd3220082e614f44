import EventPackets.Packet.Session
import EventPackets.Proofs.Packet.Counters
import EventPackets.Proofs.Packet.GenericBounds

/-!
# Rejected operations

An operation that fails leaves the packet as it was, and there is one reason for each failure: an
index without a slot, a negative value, or a mark that is set or clear already.  That validating
and invalidating have no other is due to the counters.  Both change the mark before they put new
counters into the header, which takes no negative ones; but no packet that comes into being has
negative counters, and no operation makes them negative.

## Main definitions

* `Session.Answer.failed` : an answer that tells of a failure.
* `SlotCall.reply` : the answer to a call on an open slot.

## Main results

* `Packet.Step.eq_of_ne_done` : a call that fails changes nothing.
* `Packet.Step.reply_slot` : the answer to a call on an open slot.
* `GenericEvent.value_get?_eq_none_iff` : generic access fails outside the capacity only.
* `Session.consistent_run` : whatever is done with a packet, it stays consistent.
* `Packet.Initial.rejects_only` : failures and their reasons.
-/

namespace EventPackets

variable {k : Kind}

/-- The answer to a call on an open slot, given its mark. -/
def SlotCall.reply (marked : Bool) : SlotCall k → Reply
  | write _ => .done
  | setTimestamp t =>
    if t.toInt < 0 then .refused (.negativeValue "set_timestamp" t.toInt) else .done
  | validate => if marked then .refused .alreadyValid else .done
  | invalidate => if marked then .done else .refused .alreadyInvalid

namespace Packet

variable {p q : Packet k} {index : Int32} {i j : Nat} {c : Call k} {r : Reply}

theorem isSlot_iff :
    (∃ i, p.IsSlot index i) ↔ 0 ≤ index.toInt ∧ index.toInt < p.capacity.toInt := by
  have hcapacity : p.capacity.toNatClampNeg = p.capacity.toInt.toNat := rfl
  constructor
  · rintro ⟨i, h, hlt⟩
    omega
  · rintro ⟨hnonneg, hlt⟩
    exact ⟨index.toInt.toNat, by omega, by omega⟩

theorem IsSlot.unique (hi : p.IsSlot index i) (hj : p.IsSlot index j) : i = j :=
  Int.ofNat_inj.mp (hi.toInt_eq.symm.trans hj.toInt_eq)

/-- A slot is opened exactly if there is one. -/
theorem value_event?_eq_none_iff :
    (p.event? index).value = none ↔ ¬ (0 ≤ index.toInt ∧ index.toInt < p.capacity.toInt) := by
  rcases p.isSlot_or index with hout | ⟨i, hi⟩
  · have hnone := value_event?_eq_none hout
    simp only [hnone, true_iff]
    omega
  · have hsome := value_event?_of_isSlot hi
    simp [hsome, isSlot_iff.mp ⟨i, hi⟩]

namespace Step

/-- A call that fails changes nothing. -/
theorem eq_of_ne_done (h : p.Step c r q) (hr : r ≠ .done) : q = p := by
  cases h <;> first | exact absurd rfl hr | rfl

theorem reply_eq_noSlot_iff {c : SlotCall k} (h : p.Step (.slot index c) r q) :
    r = .noSlot ↔ ¬ (0 ≤ index.toInt ∧ index.toInt < p.capacity.toInt) := by
  constructor
  · rintro rfl
    cases h with
    | noSlot index c h => omega
  · intro hout
    rw [← isSlot_iff] at hout
    cases h with
    | noSlot => rfl
    | write h => exact absurd ⟨_, h⟩ hout
    | negativeTimestamp h => exact absurd ⟨_, h⟩ hout
    | setTimestamp h => exact absurd ⟨_, h⟩ hout
    | alreadyValid h => exact absurd ⟨_, h⟩ hout
    | validate h => exact absurd ⟨_, h⟩ hout
    | alreadyInvalid h => exact absurd ⟨_, h⟩ hout
    | invalidate h => exact absurd ⟨_, h⟩ hout

/-- The answer to a call on an open slot. -/
theorem reply_slot {c : SlotCall k} (hi : p.IsSlot index i) (h : p.Step (.slot index c) r q) :
    r = c.reply (Slot.marked k p.bytes i) := by
  cases h with
  | noSlot index c h => exact absurd h hi.not_outside
  | write => rfl
  | negativeTimestamp h t ht => rw [SlotCall.reply, if_pos ht]
  | setTimestamp h t ht => rw [SlotCall.reply, if_neg (Int.not_lt.mpr ht)]
  | alreadyValid h hm => rw [hi.unique h, hm, SlotCall.reply, if_pos rfl]
  | validate h hm => rw [hi.unique h, hm, SlotCall.reply, if_neg Bool.false_ne_true]
  | alreadyInvalid h hm => rw [hi.unique h, hm, SlotCall.reply, if_neg Bool.false_ne_true]
  | invalidate h hm => rw [hi.unique h, hm, SlotCall.reply, if_pos rfl]

theorem reply_setSource {v : Int16} (h : p.Step (.setSource v) r q) :
    r = if v.toInt < 0 then .refused (.negativeValue "set_event_source" v.toInt) else .done := by
  cases h with
  | negativeSource v hv => rw [if_pos hv]
  | setSource v hv => rw [if_neg (Int.not_lt.mpr hv)]

theorem reply_setOverflow {v : Int32} (h : p.Step (.setOverflow v) r q) :
    r = if v.toInt < 0 then .refused (.negativeValue "set_event_ts_overflow" v.toInt)
      else .done := by
  cases h with
  | negativeOverflow v hv => rw [if_pos hv]
  | setOverflow v hv => rw [if_neg (Int.not_lt.mpr hv)]

end Step

end Packet

/-! ### Generic access -/

namespace GenericEvent

variable {p : Packet k} {i : Nat}

/-- The span of a record of a packet is the one that its header describes. -/
theorem span?_of_consistent (hp : p.Consistent) (hi : i < p.capacity.toNatClampNeg) :
    span? p.bytes i = some ⟨Slot.start k i, k.recordSize, k.timestampOffset⟩ := by
  have hstart : ((Slot.start k i : Nat) : Int) = 28 + i * k.recordSize := by
    rw [Slot.start, Int.natCast_add, Int.natCast_mul]
    rfl
  rw [span?_eq_some_iff, hp.eventSize_eq, hp.timestampOffset_eq]
  exact ⟨hstart, rfl, rfl, Nat.le_add_right _ _, hp.start_add_le hi, k.timestampOffset_add_le⟩

/-- Generic access to a slot finds its record, and reports nothing. -/
theorem locate?_of_isSlot {index : Int32} (hp : p.Consistent) (hi : p.IsSlot index i) :
    locate? p.bytes index = ⟨some ⟨Slot.start k i, k.recordSize, k.timestampOffset⟩, []⟩ := by
  rw [locate?_of_inside hp.header_le_size hi.not_outside, hi.toInt_eq, Int.toNat_natCast,
    span?_of_consistent hp hi.lt_capacity]

/-- Generic access to a packet fails outside the capacity only. -/
theorem value_get?_eq_none_iff (hp : p.Consistent) (index : Int32) :
    (get? p.bytes index).value = none ↔
      ¬ (0 ≤ index.toInt ∧ index.toInt < p.capacity.toInt) := by
  rw [get?, Reported.value_bind, Reported.value_pure, Option.map_eq_none_iff]
  rcases p.isSlot_or index with hout | ⟨i, hi⟩
  · obtain ⟨message, hlocate⟩ := locate?_of_outside hp.header_le_size hout
    simp only [hlocate, true_iff]
    omega
  · simp [locate?_of_isSlot hp hi, Packet.isSlot_iff.mp ⟨i, hi⟩]

end GenericEvent

/-! ### Sessions -/

namespace Session

/-- Whether an answer tells of a failure. -/
def Answer.failed : Answer k → Bool
  | reply r => r != .done
  | event e => e.isNone
  | genericEvent e => e.isNone
  | done => false

variable {p : Packet k}

@[simp]
theorem Step.value_perform_call (c : Call k) (p : Packet k) :
    ((call c).perform p).value = (.reply (c.perform p).value.1, (c.perform p).value.2) := by
  rw [perform, Reported.value_bind, Reported.value_pure]

/-- A step of a session that fails leaves the packet as it was. -/
theorem Step.packet_eq_of_failed (hp : p.Consistent) (x : Step k)
    (h : (x.perform p).value.1.failed = true) : (x.perform p).value.2 = p := by
  cases x with
  | call c =>
    rw [value_perform_call] at h ⊢
    exact (c.perform_step hp).eq_of_ne_done (bne_iff_ne.mp h)
  | event index => rfl
  | genericEvent index => rfl
  | setThreshold s => rfl

theorem Step.consistent (hp : p.Consistent) (x : Step k) : (x.perform p).value.2.Consistent := by
  cases x with
  | call c => exact (c.perform_step hp).consistent hp
  | event index => exact hp
  | genericEvent index => exact hp
  | setThreshold s => exact hp

/-- Whatever is done with a packet, it stays consistent. -/
theorem consistent_run {s : Session k} (hs : s.packet.Consistent) (xs : List (Step k)) :
    (s.run xs).2.packet.Consistent := by
  induction xs generalizing s with
  | nil => exact hs
  | cons x xs ih => exact ih (x.consistent hs)

end Session

/-! ### Counters after a change of a mark -/

namespace Slot

variable {b : Bytes} {i : Nat}

/-- Once a slot has been marked valid, the header takes the new counters, one after the other. -/
theorem on_set_counters_of_putMark (hn : 0 ≤ (Header.number b).toInt)
    (hv : 0 ≤ (Header.valid b).toInt) :
    let c := putMark k i true b
    let number := succSaturating (Header.number c)
    let valid := succSaturating (Header.valid c)
    (Header.set .number number).on c = ⟨(.ok (), Header.put .number number c), []⟩ ∧
      (Header.set .valid valid).on (Header.put .number number c) =
        ⟨(.ok (), validated k i b), []⟩ := by
  intro c number valid
  have hget := get_eq_of_agreeOutside (agreeOutside_putMark k i b true)
  have hnumber : number = succSaturating (Header.number b) :=
    congrArg succSaturating (hget .number)
  have hvalid : valid = succSaturating (Header.valid b) := congrArg succSaturating (hget .valid)
  rw [hnumber, hvalid, Header.on_set_of_nonneg (f := .number) (succSaturating_nonneg hn),
    Header.on_set_of_nonneg (f := .valid) (succSaturating_nonneg hv)]
  exact ⟨rfl, rfl⟩

/-- Once a slot has been marked invalid, the header takes the new valid count. -/
theorem on_set_valid_of_putMark (hv : 0 < (Header.valid b).toInt) :
    let c := putMark k i false b
    (Header.set .valid (predSaturating (Header.valid c))).on c =
      ⟨(.ok (), invalidated k i b), []⟩ := by
  intro c
  have hvalid : Header.valid c = Header.valid b :=
    get_eq_of_agreeOutside (agreeOutside_putMark k i b false) .valid
  rw [hvalid, Header.on_set_of_nonneg (f := .valid) (predSaturating_nonneg hv)]
  rfl

end Slot

/-! ### Failures and their reasons -/

/-- Whatever has been done with a packet, a step that fails leaves it as it is, and there are these
reasons for a failure only.  An index has no slot if it is negative or not below the capacity.  On
an open slot, a timestamp is refused if it is negative, validating if the mark is set, and
invalidating if it is clear.  Source and overflow counter are refused if they are negative.  The
header edits that follow a change of a mark are never refused. -/
theorem Packet.Initial.rejects_only {p : Packet k} (hp : p.Initial) (threshold : Severity)
    (xs : List (Session.Step k)) :
    let q := (Session.run ⟨threshold, p⟩ xs).2.packet
    (∀ x : Session.Step k, (x.perform q).value.1.failed = true → (x.perform q).value.2 = q) ∧
      (∀ index : Int32,
        let outside := ¬ (0 ≤ index.toInt ∧ index.toInt < q.capacity.toInt)
        ((q.event? index).value = none ↔ outside) ∧
          ((GenericEvent.get? q.bytes index).value = none ↔ outside) ∧
          ∀ c : SlotCall k, ((Call.slot index c).perform q).value.1 = .noSlot ↔ outside) ∧
      (∀ index i, q.IsSlot index i → ∀ c : SlotCall k,
        ((Call.slot index c).perform q).value.1 = c.reply (Slot.marked k q.bytes i)) ∧
      (∀ v : Int16, ((Call.setSource v).perform q).value.1 =
        if v.toInt < 0 then .refused (.negativeValue "set_event_source" v.toInt) else .done) ∧
      (∀ v : Int32, ((Call.setOverflow v).perform q).value.1 =
        if v.toInt < 0 then .refused (.negativeValue "set_event_ts_overflow" v.toInt)
        else .done) ∧
      ∀ i < q.capacity.toNatClampNeg,
        (let b := Slot.putMark k i true q.bytes
          let number := succSaturating (Header.number b)
          let valid := succSaturating (Header.valid b)
          (Header.set .number number).on b = ⟨(.ok (), Header.put .number number b), []⟩ ∧
            (Header.set .valid valid).on (Header.put .number number b) =
              ⟨(.ok (), Slot.validated k i q.bytes), []⟩) ∧
          (Slot.marked k q.bytes i = true →
            let b := Slot.putMark k i false q.bytes
            (Header.set .valid (predSaturating (Header.valid b))).on b =
              ⟨(.ok (), Slot.invalidated k i q.bytes), []⟩) := by
  intro q
  have hq : q.Consistent := Session.consistent_run (s := ⟨threshold, p⟩) hp.consistent xs
  refine ⟨fun x => x.packet_eq_of_failed hq, fun index => ?_, fun index i hi c => ?_,
    fun v => ?_, fun v => ?_, fun i hi => ?_⟩
  · exact ⟨value_event?_eq_none_iff, GenericEvent.value_get?_eq_none_iff hq index,
      fun c => ((Call.slot index c).perform_step hq).reply_eq_noSlot_iff⟩
  · exact ((Call.slot index c).perform_step hq).reply_slot hi
  · exact ((Call.setSource v).perform_step hq).reply_setSource
  · exact ((Call.setOverflow v).perform_step hq).reply_setOverflow
  · exact ⟨Slot.on_set_counters_of_putMark hq.number_nonneg hq.validCount_nonneg,
      fun hm => Slot.on_set_valid_of_putMark (hq.validCount_pos hi hm)⟩

/-- A decoded packet whose event number is at its limit: a slot is marked valid, and then not once
more. -/
theorem Packet.Initial.rejects_only_at_limit :
    let p : Packet .polarity :=
      ⟨Header.put .number Int32.maxValue (Packet.fresh .polarity 2 0 0).bytes⟩
    let q := (Session.run ⟨.debug, p⟩ [.call (.slot 1 .validate), .event 2]).2.packet
    p.Initial ∧ ((Call.slot 1 .validate).perform q).value.1 = .refused .alreadyValid ∧
      ((Call.slot 1 .validate).perform q).value.2 = q := by
  intro p q
  have hp : p.Initial :=
    .decoded p.bytes p (Packet.ofBytes_eq_ok_iff.mpr ⟨rfl, by decide +kernel⟩)
  have hslot : q.IsSlot 1 1 := ⟨by decide, by decide +kernel⟩
  have hmarked : Slot.marked .polarity q.bytes 1 = true := by decide +kernel
  have hall := hp.rejects_only .debug [.call (.slot 1 .validate), .event 2]
  -- how the packet came about is of no further concern
  rw [show (Session.run ⟨.debug, p⟩ _).2.packet = q from rfl] at hall
  clear_value q
  obtain ⟨hkeep, -, hreply, -⟩ := hall
  have hrefused := hreply 1 1 hslot .validate
  rw [hmarked] at hrefused
  have hsame := hkeep (.call (.slot 1 .validate))
  rw [Session.Step.value_perform_call, hrefused] at hsame
  exact ⟨hp, hrefused, hsame rfl⟩

end EventPackets
