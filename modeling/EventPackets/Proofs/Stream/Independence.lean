import EventPackets.Proofs.Packet.Creation
import EventPackets.Proofs.Stream.Framing
import Mathlib

/-!
# Reading depends on the bytes alone

What the reads of a stream return depends on the bytes that the source has still to deliver.  In
which pieces it delivers them and how often it is interrupted makes no difference; and what has
been read before shows in the offsets only, which go on from where they are.  Both come from one
simulation, between two readers with the same bytes ahead of them.

## Main definitions

* `ReadError.shift` : an error, as reported further on in a stream.
* `Source.Agree` : two sources with the same bytes left.
* `Reader.Ahead` : two readers with the same bytes ahead, one of them further on in its stream.

## Main results

* `Reader.Ahead.next`, `Reader.Ahead.results_eq` : what two such readers return.
* `Reader.results_eq_results_ofBytes` : pieces and interruptions make no difference.
-/

namespace EventPackets

/-- An error as it is reported when the stream starts `d` bytes earlier. -/
def ReadError.shift (d : Nat) : ReadError → ReadError
  | io cause => io cause
  | invalidPacket offset cause => invalidPacket (offset + d) cause
  | unexpectedEnd offset => unexpectedEnd (offset + d)

@[simp]
theorem ReadError.shift_zero (e : ReadError) : e.shift 0 = e := by
  cases e <;> rfl

/-! ### Sources with the same bytes left -/

namespace Source

variable {s t t' : Source} {want : Nat} {c : Bytes}

/-- Two sources that do not fail have the same bytes left. -/
structure Agree (s t : Source) : Prop where
  left : s.Unfailing
  right : t.Unfailing
  rest_eq : s.rest = t.rest

/-- The same bytes are gathered from both. -/
theorem Agree.gather (h : Agree s t) (hg : t.gather want = (.ok c, t')) :
    ∃ s', s.gather want = (.ok c, s') ∧ Agree s' t' := by
  obtain ⟨s', hg', hs'⟩ := h.left.gather_eq_ok want
  generalize s.content.slice s.position want = d at hg'
  obtain ⟨ht', hc⟩ := h.right.size_of_gather hg
  have hd : d.size = c.size := by rw [hc, (h.left.size_of_gather hg').2, h.rest_eq]
  have hrest : d ++ s'.rest = c ++ t'.rest := by
    rw [← rest_of_gather hg', ← rest_of_gather hg, h.rest_eq]
  obtain ⟨rfl, htail⟩ := Array.append_inj hrest hd
  exact ⟨s', hg', hs', ht', htail⟩

end Source

/-! ### Readers with the same bytes ahead -/

namespace Reader

variable {d : Nat} {r r' q' : Reader} {outcome : Except ReadError (Option AnyPacket)}

/-- Two readers have the same bytes ahead, and the first has accounted for `d` bytes more. -/
structure Ahead (d : Nat) (r r' : Reader) : Prop where
  source : r.source.Agree r'.source
  offset_eq : r.offset = r'.offset + d

namespace Ahead

/-- Each outcome of a read is met by the other reader, further on. -/
theorem step (h : Ahead d r r') (hstep : r'.Step outcome q') :
    ∃ q, r.Step (outcome.mapError (ReadError.shift d)) q ∧ Ahead d q q' := by
  have hoffset := h.offset_eq
  have hmove (n : Nat) : r.offset + n = r'.offset + n + d := by
    rw [hoffset, Nat.add_right_comm]
  cases hstep with
  | ended hh =>
    obtain ⟨s, hg, hs⟩ := h.source.gather hh
    exact ⟨_, .ended hg, hs, hoffset⟩
  | failedHeader hh => exact absurd hh (h.source.right.gather_ne_error _)
  | shortHeader hh hpos hlt =>
    obtain ⟨s, hg, hs⟩ := h.source.gather hh
    have hstep := Step.shortHeader hg hpos hlt
    rw [hmove] at hstep
    exact ⟨_, hstep, hs, rfl⟩
  | rejectedHeader hh hsize hbody =>
    obtain ⟨s, hg, hs⟩ := h.source.gather hh
    have hstep := Step.rejectedHeader hg hsize hbody
    rw [hoffset] at hstep
    exact ⟨_, hstep, hs, Nat.add_right_comm ..⟩
  | failedBody hh hsize hbody hb =>
    obtain ⟨s, -, hs⟩ := h.source.gather hh
    exact absurd hb (hs.right.gather_ne_error _)
  | shortBody hh hsize hbody hb hlt =>
    obtain ⟨s, hg, hs⟩ := h.source.gather hh
    obtain ⟨t, hg', ht⟩ := hs.gather hb
    have hstep := Step.shortBody hg hsize hbody hg' hlt
    rw [Nat.add_assoc, hmove, ← Nat.add_assoc] at hstep
    exact ⟨_, hstep, ht, rfl⟩
  | rejectedPacket hh hsize hbody hb hp =>
    obtain ⟨s, hg, hs⟩ := h.source.gather hh
    obtain ⟨t, hg', ht⟩ := hs.gather hb
    have hstep := Step.rejectedPacket hg hsize hbody hg' hp
    rw [Nat.add_assoc, hmove, ← Nat.add_assoc, hoffset] at hstep
    exact ⟨_, hstep, ht, rfl⟩
  | packet hh hsize hbody hb hp =>
    obtain ⟨s, hg, hs⟩ := h.source.gather hh
    obtain ⟨t, hg', ht⟩ := hs.gather hb
    have hstep := Step.packet hg hsize hbody hg' hp
    rw [Nat.add_assoc, hmove, ← Nat.add_assoc] at hstep
    exact ⟨_, hstep, ht, rfl⟩

/-- Both return the same, with offsets that differ by `d`, and have the same bytes ahead again. -/
theorem next (h : Ahead d r r') :
    r.next.1 = r'.next.1.mapError (ReadError.shift d) ∧ Ahead d r.next.2 r'.next.2 := by
  obtain ⟨q, hq, hahead⟩ := h.step r'.next_step
  rw [hq.next_eq]
  exact ⟨rfl, hahead⟩

/-- So they do however often they read. -/
theorem results_eq (h : Ahead d r r') (n : Nat) :
    r.results n =
      (r'.results n).map fun x => (x.1.mapError (ReadError.shift d), x.2 + d) := by
  induction n generalizing r r' with
  | zero => rfl
  | succ n ih =>
    obtain ⟨houtcome, hahead⟩ := h.next
    rw [results_succ, results_succ, List.map_cons, ih hahead, houtcome, hahead.offset_eq]

end Ahead

/-- What is read from a source depends on the bytes that it has left. -/
theorem results_congr {s t : Source} (h : s.Agree t) (n : Nat) :
    (ofSource s).results n = (ofSource t).results n := by
  have hahead : Ahead 0 (ofSource s) (ofSource t) := ⟨h, rfl⟩
  have hid (x : Except ReadError (Option AnyPacket)) :
      x.mapError (ReadError.shift 0) = x := by
    cases x <;> simp [Except.mapError]
  rw [hahead.results_eq]
  simp [hid]

/-- Reading does not depend on how a source delivers its bytes.  A read of the source starts at
every position once at most, so limits for the positions stand for any way of cutting the bytes
into pieces; as long as there is something in each piece, and the source is only interrupted,
however often, all reads return what they return if the bytes are delivered at once, with the same
offsets, whether they bring packets, errors, or the end of the stream. -/
theorem results_eq_results_ofBytes (b : Bytes) (grain : Nat → Option Nat) (faults : List Fault)
    (hgrain : ∀ i g, i < b.size → grain i = some g → 0 < g)
    (hfaults : ∀ f ∈ faults, f.kind = .interrupted) (n : Nat) :
    (ofSource ⟨b, 0, grain, faults⟩).results n = (ofSource (.ofBytes b)).results n := by
  have hs : Source.Unfailing ⟨b, 0, grain, faults⟩ := ⟨hgrain, hfaults⟩
  have hrest : Source.rest ⟨b, 0, grain, faults⟩ = b := Array.extract_size
  have hagree : Source.Agree ⟨b, 0, grain, faults⟩ (.ofBytes b) :=
    ⟨hs, Source.unfailing_ofBytes b, hrest.trans (Source.rest_ofBytes b).symm⟩
  exact results_congr hagree n

/-- Pieces of one to three bytes, and interruptions at the start, inside the header, twice between
header and record, and at the end, where the record is cut short. -/
theorem results_eq_results_ofBytes_scattered :
    let b : Bytes := #[1, 0, 0, 0, 8, 0, 0, 0, 4, 0, 0, 0, 0, 0, 0, 0, 1, 0, 0, 0, 0, 0, 0, 0,
      0, 0, 0, 0, 7, 7]
    let grain := fun i => some (i % 3 + 1)
    let faults : List Fault := [⟨28, .interrupted⟩, ⟨0, .interrupted⟩, ⟨30, .interrupted⟩,
      ⟨13, .interrupted⟩, ⟨28, .interrupted⟩]
    (ofSource ⟨b, 0, grain, faults⟩).results 3 = (ofSource (.ofBytes b)).results 3 ∧
      (ofSource (.ofBytes b)).results 3 =
        [(.error (.unexpectedEnd 30), 30), (.ok none, 30), (.ok none, 30)] := by
  intro b grain faults
  refine ⟨results_eq_results_ofBytes b grain faults (fun i g _ hg => ?_) (by decide) 3, ?_⟩
  · obtain rfl : i % 3 + 1 = g := Option.some.inj hg
    exact Nat.succ_pos _
  · cbv

end Reader

end EventPackets
