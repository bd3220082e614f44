import EventPackets.Proofs.Stream.Delivery
import EventPackets.Stream.Writer

/-!
# Flushes that fail

A sink that takes only so many bytes makes flushes fail.  The writer in front of it still accepts
packets, as long as its buffer has room, and counts what it has accepted; the sink always holds the
first bytes of it, none of them twice.

## Main definitions

* `PacketWriter.Step.payload`, `PacketWriter.written` : the bytes that steps write.
* `PacketWriter.HasWritten` : a writer that has accepted certain bytes.

## Main results

* `Sink.size_received_deliver`, `Sink.deliver_of_full` : a delivery to a sink with a limit.
* `PacketWriter.HasWritten.flush_eq_ok_iff`, `PacketWriter.HasWritten.flush_of_failed` : when a
  flush succeeds, and what it does if it fails.
* `PacketWriter.delivery_after` : the writer and its sink after any steps.
-/

namespace EventPackets

/-! ### Sinks with a limit -/

namespace Sink

variable {s : Sink} {l : Nat}

/-- The sink has received no more than it takes. -/
def WithinLimit (s : Sink) : Prop :=
  ∀ l, s.limit = some l → s.received.size ≤ l

/-- A sink takes what it can. -/
theorem size_received_deliver (h : s.limit = some l) (hle : s.received.size ≤ l) (b : Bytes) :
    (s.deliver b).2.received.size = min (s.received.size + b.size) l := by
  simp only [deliver, accepts, h, Array.size_append, Array.size_extract]
  omega

theorem WithinLimit.deliver (h : s.WithinLimit) (b : Bytes) : (s.deliver b).2.WithinLimit := by
  intro l hl
  have hlimit : s.limit = some l := hl
  rw [size_received_deliver hlimit (h l hlimit)]
  exact Nat.min_le_right _ l

/-- A sink at its limit takes nothing. -/
theorem deliver_of_full (h : s.limit = some l) (hfull : s.received.size = l) (b : Bytes) :
    s.deliver b = (b, s) := by
  have hnone : s.accepts b.size = 0 := by
    simp only [accepts, h, hfull, Nat.sub_self, Nat.min_zero]
  rw [Sink.deliver, hnone, Array.extract_zero, Array.append_empty, Array.extract_size]

end Sink

/-- What a buffer can still hold is held back. -/
theorem BufferedSink.write_eq_held {w : BufferedSink} {b : Bytes}
    (h : w.pending.size + b.size < capacity) :
    w.write b = (.ok (), { w with pending := w.pending ++ b }) := by
  rw [write, if_pos (Nat.le_of_lt h), writeFitting, if_pos (by omega)]

namespace PacketWriter

variable {w : PacketWriter} {limit : Option Nat} {total b : Bytes}

/-! ### What has been written -/

/-- The bytes that a step writes. -/
def Step.payload : Step → Bytes
  | .packet p => p.bytes
  | .bytes b => b
  | .flush => #[]

/-- The bytes that a sequence of steps writes, back to back. -/
def written (steps : List Step) : Bytes :=
  Bytes.concat (steps.map Step.payload)

/-- A writer before a sink of the given limit that has accepted the bytes `total`. -/
structure HasWritten (limit : Option Nat) (total : Bytes) (w : PacketWriter) : Prop where
  limit_eq : w.target.sink.limit = limit
  withinLimit : w.target.sink.WithinLimit
  accepted_eq : w.target.accepted = total
  bytesWritten_eq : w.bytesWritten = total.size

/-- A flush succeeds if nothing is left over. -/
theorem flush_eq_ok_iff_pending : w.flush.1 = .ok () ↔ w.flush.2.target.pending.size = 0 := by
  unfold flush BufferedSink.flush
  dsimp only
  split
  next hrest => exact iff_of_true rfl hrest
  next hrest => exact iff_of_false nofun hrest

theorem flush_eq_error (h : w.flush.1 ≠ .ok ()) : w.flush.1 = .error .sinkFull := by
  unfold flush BufferedSink.flush at h ⊢
  dsimp only at h ⊢
  split at h
  · exact absurd rfl h
  next hrest => exact if_neg hrest

namespace HasWritten

theorem empty (limit : Option Nat) : HasWritten limit #[] (PacketWriter.empty limit) where
  limit_eq := rfl
  withinLimit _ _ := Nat.zero_le _
  accepted_eq := rfl
  bytesWritten_eq := rfl

/-- The sink holds the first of the bytes that have been written. -/
theorem received_eq (h : HasWritten limit total w) :
    w.target.sink.received = total.extract 0 w.target.sink.received.size := by
  rw [← h.accepted_eq, BufferedSink.accepted, Array.extract_append_left, Array.extract_size]

theorem pending_size_le (h : HasWritten limit total w) : w.target.pending.size ≤ total.size := by
  rw [← h.accepted_eq, BufferedSink.accepted, Array.size_append]
  exact Nat.le_add_left ..

/-- Bytes are accepted if the sink has no limit or the buffer has room for everything. -/
theorem writeBytes (h : HasWritten limit total w)
    (hroom : ∀ l, limit = some l → (total ++ b).size < BufferedSink.capacity) :
    HasWritten limit (total ++ b) (w.writeBytes b).2 ∧ (w.writeBytes b).1 = .ok () := by
  obtain ⟨t, hwrite, hlimit, hwithin, haccepted⟩ :
      ∃ t, w.target.write b = (.ok (), t) ∧ t.sink.limit = limit ∧ t.sink.WithinLimit ∧
        t.accepted = w.target.accepted ++ b := by
    cases limit with
    | none =>
      obtain ⟨t, hwrite, hunlimited, haccepted⟩ :=
        BufferedSink.Unlimited.write_eq_ok h.limit_eq b
      have hnone : t.sink.limit = none := hunlimited
      refine ⟨t, hwrite, hnone, fun l hl => ?_, haccepted⟩
      rw [hnone] at hl
      cases hl
    | some l =>
      have hsize := hroom l rfl
      rw [Array.size_append] at hsize
      have hpending := h.pending_size_le
      exact ⟨_, BufferedSink.write_eq_held (by omega), h.limit_eq, h.withinLimit,
        (Array.append_assoc ..).symm⟩
  have hw : w.writeBytes b = (.ok (), ⟨t, w.bytesWritten + b.size⟩) := by
    rw [PacketWriter.writeBytes, hwrite]
  rw [hw]
  refine ⟨⟨hlimit, hwithin, haccepted.trans ?_, ?_⟩, rfl⟩
  · rw [h.accepted_eq]
  · rw [h.bytesWritten_eq, Array.size_append]

/-- A flush neither accepts nor loses anything. -/
theorem flush (h : HasWritten limit total w) : HasWritten limit total w.flush.2 where
  limit_eq := h.limit_eq
  withinLimit := h.withinLimit.deliver w.target.pending
  accepted_eq := w.target.accepted_flush.trans h.accepted_eq
  bytesWritten_eq := h.bytesWritten_eq

/-- After a flush the sink holds as much as it can. -/
theorem size_received_flush (h : HasWritten limit total w) {l : Nat} (hl : limit = some l) :
    w.flush.2.target.sink.received.size = min total.size l := by
  have hlimit := h.limit_eq.trans hl
  rw [← h.accepted_eq, BufferedSink.accepted, Array.size_append]
  exact Sink.size_received_deliver hlimit (h.withinLimit l hlimit) w.target.pending

/-- A flush succeeds if and only if the sink takes everything that has been written. -/
theorem flush_eq_ok_iff (h : HasWritten limit total w) :
    w.flush.1 = .ok () ↔ ∀ l, limit = some l → total.size ≤ l := by
  rw [flush_eq_ok_iff_pending]
  cases limit with
  | none =>
    have hrest := Sink.deliver_of_unlimited h.limit_eq w.target.pending
    exact iff_of_true (congrArg Array.size hrest) nofun
  | some l =>
    have hreceived := h.size_received_flush rfl
    have hsize := congrArg Array.size h.flush.accepted_eq
    rw [BufferedSink.accepted, Array.size_append] at hsize
    simp only [Option.some.injEq, forall_eq']
    omega

/-- After a flush that succeeds the sink holds everything that has been written. -/
theorem received_of_flush (h : HasWritten limit total w) (hflush : w.flush.1 = .ok ()) :
    w.flush.2.target.sink.received = total := by
  have hpending : w.flush.2.target.pending = #[] :=
    BufferedSink.pending_of_flush (Prod.ext hflush rfl)
  rw [← h.flush.accepted_eq, BufferedSink.accepted, hpending, Array.append_empty]

/-- After a flush that fails the sink holds as much as it takes of what has been written, and
flushing again fails again and changes nothing. -/
theorem flush_of_failed (h : HasWritten limit total w) (hflush : w.flush.1 ≠ .ok ()) :
    ∃ l, limit = some l ∧ w.flush.2.target.sink.received = total.extract 0 l ∧
      w.flush.2.flush = w.flush := by
  obtain ⟨l, hl, hlt⟩ : ∃ l, limit = some l ∧ l < total.size := by
    simpa [h.flush_eq_ok_iff] using hflush
  have hsize := h.size_received_flush hl
  rw [Nat.min_eq_right (Nat.le_of_lt hlt)] at hsize
  have hreceived := h.flush.received_eq
  rw [hsize] at hreceived
  have hagain : w.flush.2.flush.1 ≠ .ok () := by
    rwa [ne_eq, h.flush.flush_eq_ok_iff, ← h.flush_eq_ok_iff]
  have hfull := Sink.deliver_of_full (h.flush.limit_eq.trans hl) hsize w.flush.2.target.pending
  refine ⟨l, hl, hreceived, Prod.ext ?_ ?_⟩
  · rw [flush_eq_error hagain, flush_eq_error hflush]
  · rw [PacketWriter.flush, BufferedSink.flush, hfull]

end HasWritten

/-! ### Steps -/

/-- A step is carried out on a writer that has room for its bytes. -/
theorem HasWritten.step (h : HasWritten limit total w) (x : Step)
    (hroom : ∀ l, limit = some l → (total ++ x.payload).size < BufferedSink.capacity) :
    HasWritten limit (total ++ x.payload) (w.step x).2 ∧
      (x ≠ .flush → (w.step x).1 = .ok ()) := by
  cases x with
  | packet p => exact (h.writeBytes hroom).imp_right fun hok _ => hok
  | bytes b => exact (h.writeBytes hroom).imp_right fun hok _ => hok
  | flush =>
    rw [Step.payload, Array.append_empty]
    exact ⟨h.flush, fun hne => absurd rfl hne⟩

/-- Steps are carried out on a writer that has room for their bytes. -/
theorem HasWritten.after (h : HasWritten limit total w) (steps : List Step)
    (hroom : ∀ l, limit = some l → (total ++ written steps).size < BufferedSink.capacity) :
    HasWritten limit (total ++ written steps) (w.after steps) := by
  induction steps generalizing w total with
  | nil =>
    rw [written, List.map_nil, Bytes.concat_nil, Array.append_empty]
    exact h
  | cons x steps ih =>
    rw [written, List.map_cons, Bytes.concat_cons, ← Array.append_assoc] at hroom ⊢
    have hx := (h.step x fun l hl => by
      have hsize := hroom l hl
      rw [Array.size_append] at hsize
      omega).1
    exact ih hx hroom

/-- A writer that no step has been asked of yet goes through any steps.  After each of them it
counts the bytes of all packets and byte strings written so far, and the sink has received the
first of these bytes, each once.  Only flushes fail, namely if more has been written than the sink
takes; the sink has then received as much as it takes, and flushing again adds nothing.  A flush
that succeeds has delivered everything. -/
theorem delivery_after (limit : Option Nat) (steps : List Step) (x : Step)
    (hroom : ∀ l, limit = some l → (written steps ++ x.payload).size < 8192) :
    ∃ result w, ((empty limit).after steps).step x = (result, w) ∧
      w.bytesWritten = (written steps ++ x.payload).size ∧
      (∃ rest, w.target.sink.received ++ rest = written steps ++ x.payload) ∧
      (x ≠ .flush → result = .ok ()) ∧
      (x = .flush →
        (result = .ok () ↔ ∀ l, limit = some l → (written steps).size ≤ l) ∧
        (result = .ok () → w.target.sink.received = written steps) ∧
        (result ≠ .ok () → result = .error .sinkFull ∧
          ∃ l, limit = some l ∧ w.target.sink.received = (written steps).extract 0 l ∧
            w.step .flush = (result, w))) := by
  have hsteps : HasWritten limit (written steps) ((empty limit).after steps) := by
    have h := (HasWritten.empty limit).after steps fun l hl => by
      have hsize := hroom l hl
      rw [Array.size_append] at hsize
      rw [Array.empty_append, BufferedSink.capacity]
      omega
    rwa [Array.empty_append] at h
  obtain ⟨hx, hok⟩ := hsteps.step x hroom
  refine ⟨_, _, rfl, hx.bytesWritten_eq, ⟨_, hx.accepted_eq⟩, hok, ?_⟩
  rintro rfl
  exact ⟨hsteps.flush_eq_ok_iff, hsteps.received_of_flush, fun hfailed =>
    ⟨flush_eq_error hfailed, hsteps.flush_of_failed hfailed⟩⟩

/-- Four bytes are written to a sink that takes three, with a flush after each two. -/
theorem delivery_after_two_flushes :
    let steps : List Step := [.bytes #[1, 2], .flush, .bytes #[3, 4], .flush]
    (∀ l, some 3 = some l → (written steps ++ Step.flush.payload).size < 8192) ∧
      ∃ w, ((empty (some 3)).after steps).step .flush = (.error .sinkFull, w) ∧
        w.bytesWritten = 4 ∧ w.target.sink.received = #[1, 2, 3] ∧
        w.step .flush = (.error .sinkFull, w) := by
  refine ⟨fun _ _ => by decide, ?_⟩
  obtain ⟨result, w, hstep, hcount, -, -, hflush⟩ := delivery_after (some 3)
    [.bytes #[1, 2], .flush, .bytes #[3, 4], .flush] .flush fun _ _ => by decide
  obtain ⟨hok, -, hfailed⟩ := hflush rfl
  have hresult : result ≠ .ok () := fun h => absurd (hok.mp h 3 rfl) (by decide)
  obtain ⟨rfl, l, hl, hreceived, hagain⟩ := hfailed hresult
  obtain rfl := Option.some.inj hl
  exact ⟨w, hstep, hcount, hreceived, hagain⟩

end PacketWriter

end EventPackets
