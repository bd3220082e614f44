import EventPackets.Stream.Sink

/-!
# Delivery to a sink

Everything that has been written to a buffered sink is either with the sink or held back, in the
order in which it was written.  A sink without a limit takes all of it.

## Main definitions

* `Bytes.concat` : pieces back to back.
* `BufferedSink.accepted` : everything that has been written.
* `BufferedSink.Unlimited` : no limit on what the sink takes.

## Main results

* `BufferedSink.accepted_of_write` : a write that is carried out adds its bytes.
* `BufferedSink.accepted_flush` : flushing loses nothing.
* `BufferedSink.Unlimited.write_eq_ok`, `BufferedSink.Unlimited.received_close` : without a limit
  every write is carried out, and in the end everything is with the sink.
-/

namespace EventPackets

namespace Bytes

/-- Pieces back to back. -/
def concat : List Bytes → Bytes
  | [] => #[]
  | b :: bs => b ++ concat bs

@[simp]
theorem concat_nil : concat [] = #[] := rfl

@[simp]
theorem concat_cons (b : Bytes) (bs : List Bytes) : concat (b :: bs) = b ++ concat bs := rfl

end Bytes

/-- What a sink has received and what it has not taken are what it was handed. -/
theorem Sink.received_deliver (s : Sink) (b : Bytes) :
    (s.deliver b).2.received ++ (s.deliver b).1 = s.received ++ b := by
  have hle : s.accepts b.size ≤ b.size := by
    unfold accepts
    split <;> omega
  rw [deliver, Array.append_assoc, Array.extract_append_extract, Nat.min_eq_left (Nat.zero_le _),
    Nat.max_eq_right hle, Array.extract_size]

theorem Sink.deliver_of_unlimited {s : Sink} (h : s.limit = none) (b : Bytes) :
    (s.deliver b).1 = #[] := by
  simp [deliver, accepts, h]

namespace BufferedSink

variable {w w' : BufferedSink} {b : Bytes}

/-- Everything that has been written, oldest first. -/
def accepted (w : BufferedSink) : Bytes :=
  w.sink.received ++ w.pending

/-- Flushing loses nothing, even if the sink does not take everything. -/
theorem accepted_flush (w : BufferedSink) : w.flush.2.accepted = w.accepted :=
  w.sink.received_deliver w.pending

/-- A delivery succeeds only if nothing is left over. -/
theorem eq_empty_of_delivered {rest : Bytes} {e : IoError}
    (h : (if rest.size = 0 then .ok () else .error e : Except IoError Unit) = .ok ()) :
    rest = #[] := by
  split at h
  next hrest => exact Array.eq_empty_of_size_eq_zero hrest
  next => cases h

theorem pending_of_flush (h : w.flush = (.ok (), w')) : w'.pending = #[] := by
  obtain ⟨hresult, hw'⟩ := Prod.mk.inj h
  rw [← hw']
  exact eq_empty_of_delivered hresult

theorem accepted_of_writeThrough (hp : w.pending = #[]) (h : w.writeThrough b = (.ok (), w')) :
    w'.accepted = w.accepted ++ b := by
  obtain ⟨hresult, hw'⟩ := Prod.mk.inj h
  have hrest : (w.sink.deliver b).1 = #[] := eq_empty_of_delivered hresult
  have hdeliver := w.sink.received_deliver b
  rw [hrest, Array.append_empty] at hdeliver
  rw [← hw', accepted, accepted, hp, Array.append_empty, Array.append_empty]
  exact hdeliver

theorem accepted_of_writeFitting (hp : capacity ≤ b.size → w.pending = #[])
    (h : w.writeFitting b = (.ok (), w')) : w'.accepted = w.accepted ++ b := by
  unfold writeFitting at h
  split at h
  next =>
    cases h
    exact (Array.append_assoc ..).symm
  next hb => exact accepted_of_writeThrough (hp (Nat.not_lt.mp hb)) h

/-- A write that is carried out adds its bytes. -/
theorem accepted_of_write (h : w.write b = (.ok (), w')) : w'.accepted = w.accepted ++ b := by
  unfold write at h
  split at h
  next hroom =>
    exact accepted_of_writeFitting
      (fun hb => Array.eq_empty_of_size_eq_zero (by omega)) h
  next =>
    split at h
    · cases h
    next w₁ hflush =>
      have haccepted := w.accepted_flush
      rw [hflush] at haccepted
      rw [accepted_of_writeFitting (fun _ => pending_of_flush hflush) h, haccepted]

/-- No limit on what the sink takes. -/
def Unlimited (w : BufferedSink) : Prop :=
  w.sink.limit = none

namespace Unlimited

theorem empty : (BufferedSink.empty none).Unlimited := rfl

theorem flush_eq_ok (h : w.Unlimited) :
    ∃ w', w.flush = (.ok (), w') ∧ w'.Unlimited ∧ w'.sink.received = w.accepted := by
  have hrest := Sink.deliver_of_unlimited h w.pending
  have hdeliver := w.sink.received_deliver w.pending
  rw [hrest, Array.append_empty] at hdeliver
  refine ⟨w.flush.2, ?_, h, hdeliver⟩
  rw [flush]
  simp [hrest]

theorem writeThrough_eq_ok (h : w.Unlimited) (b : Bytes) :
    ∃ w', w.writeThrough b = (.ok (), w') ∧ w'.Unlimited := by
  refine ⟨(w.writeThrough b).2, ?_, h⟩
  rw [writeThrough]
  simp [Sink.deliver_of_unlimited h b]

theorem writeFitting_eq_ok (h : w.Unlimited) (b : Bytes) :
    ∃ w', w.writeFitting b = (.ok (), w') ∧ w'.Unlimited := by
  unfold writeFitting
  split
  · exact ⟨_, rfl, h⟩
  · exact h.writeThrough_eq_ok b

/-- Every write is carried out. -/
theorem write_eq_ok (h : w.Unlimited) (b : Bytes) :
    ∃ w', w.write b = (.ok (), w') ∧ w'.Unlimited ∧ w'.accepted = w.accepted ++ b := by
  obtain ⟨w', hw', hu⟩ : ∃ w', w.write b = (.ok (), w') ∧ w'.Unlimited := by
    unfold write
    split
    · exact h.writeFitting_eq_ok b
    · obtain ⟨w₁, hflush, hu, -⟩ := h.flush_eq_ok
      rw [hflush]
      exact hu.writeFitting_eq_ok b
  exact ⟨w', hw', hu, accepted_of_write hw'⟩

/-- In the end everything is with the sink. -/
theorem received_close (h : w.Unlimited) : w.close.received = w.accepted := by
  obtain ⟨w', hflush, -, hreceived⟩ := h.flush_eq_ok
  rw [close, hflush, hreceived]

end Unlimited

end BufferedSink

end EventPackets
