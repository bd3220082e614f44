import EventPackets.Proofs.Stream.Gathering
import EventPackets.Stream.Reader

/-!
# What a read of a packet does

A read of a packet gathers a header and, if a packet may start with it, as many bytes as the header
says.  Either part may be cut short by the end of the source or by a failure of it, and what has
been gathered may turn out to be no packet.  These are all the ways in which a read ends; whatever
is said of streams in this library goes through this list.

## Main definitions

* `Reader.Step` : the outcomes of a read.
* `Reader.after` : the reader after a number of reads.
* `Reader.results` : what a number of reads have returned.

## Main results

* `Reader.step_iff` : a read ends in exactly the outcome that the list has for its reader.
* `Reader.after_induction` : what every read keeps is kept by any number of reads.
-/

namespace EventPackets.Reader

/-- The outcomes of a read: what it returns, and the reader afterwards. -/
inductive Step (r : Reader) : Except ReadError (Option AnyPacket) → Reader → Prop
  /-- nothing is left -/
  | ended {s : Source} (hh : r.source.gather Header.size = (.ok #[], s)) :
      Step r (.ok none) ⟨s, r.offset⟩
  /-- the source fails before there is a header -/
  | failedHeader {cause : IoError} {s : Source}
      (hh : r.source.gather Header.size = (.error cause, s)) :
      Step r (.error (.io cause)) ⟨s, r.offset⟩
  /-- the source ends inside a header -/
  | shortHeader {header : Bytes} {s : Source}
      (hh : r.source.gather Header.size = (.ok header, s)) (hpos : 0 < header.size)
      (hlt : header.size < Header.size) :
      Step r (.error (.unexpectedEnd (r.offset + header.size))) ⟨s, r.offset + header.size⟩
  /-- no packet starts with the header -/
  | rejectedHeader {header : Bytes} {s : Source} {cause : PacketError}
      (hh : r.source.gather Header.size = (.ok header, s)) (hsize : header.size = Header.size)
      (hbody : bodySize header = .error cause) :
      Step r (.error (.invalidPacket r.offset cause)) ⟨s, r.offset + Header.size⟩
  /-- the source fails before all records are there -/
  | failedBody {header : Bytes} {s t : Source} {n : Nat} {cause : IoError}
      (hh : r.source.gather Header.size = (.ok header, s)) (hsize : header.size = Header.size)
      (hbody : bodySize header = .ok n) (hb : s.gather n = (.error cause, t)) :
      Step r (.error (.io cause)) ⟨t, r.offset + Header.size⟩
  /-- the source ends before all records are there -/
  | shortBody {header b : Bytes} {s t : Source} {n : Nat}
      (hh : r.source.gather Header.size = (.ok header, s)) (hsize : header.size = Header.size)
      (hbody : bodySize header = .ok n) (hb : s.gather n = (.ok b, t)) (hlt : b.size < n) :
      Step r (.error (.unexpectedEnd (r.offset + Header.size + b.size)))
        ⟨t, r.offset + Header.size + b.size⟩
  /-- what has been gathered is no packet -/
  | rejectedPacket {header b : Bytes} {s t : Source} {cause : PacketError}
      (hh : r.source.gather Header.size = (.ok header, s)) (hsize : header.size = Header.size)
      (hbody : bodySize header = .ok b.size) (hb : s.gather b.size = (.ok b, t))
      (hp : AnyPacket.ofBytes (header ++ b) = .error cause) :
      Step r (.error (.invalidPacket r.offset cause)) ⟨t, r.offset + Header.size + b.size⟩
  /-- what has been gathered is a packet -/
  | packet {header b : Bytes} {s t : Source} {p : AnyPacket}
      (hh : r.source.gather Header.size = (.ok header, s)) (hsize : header.size = Header.size)
      (hbody : bodySize header = .ok b.size) (hb : s.gather b.size = (.ok b, t))
      (hp : AnyPacket.ofBytes (header ++ b) = .ok p) :
      Step r (.ok (some p)) ⟨t, r.offset + Header.size + b.size⟩

variable {r r' : Reader} {outcome : Except ReadError (Option AnyPacket)}

/-- Every read ends in one of these outcomes. -/
theorem next_step (r : Reader) : r.Step r.next.1 r.next.2 := by
  unfold next
  split
  next cause s hh => exact .failedHeader hh
  next header s hh =>
    dsimp only
    split
    next hzero =>
      obtain rfl : header = #[] := Array.eq_empty_of_size_eq_zero hzero
      exact .ended hh
    split
    next hlt => exact .shortHeader hh (by omega) hlt
    next hge =>
      have hsize : header.size = Header.size :=
        Nat.le_antisymm (Source.gather_eq_ok hh).1 (Nat.not_lt.mp hge)
      rw [hsize]
      split
      next cause hbody => exact .rejectedHeader hh hsize hbody
      next n hbody =>
        unfold readBody
        split
        next cause t hb => exact .failedBody hh hsize hbody hb
        next b t hb =>
          dsimp only
          split
          next hlt => exact .shortBody hh hsize hbody hb hlt
          next hge =>
            obtain rfl : b.size = n :=
              Nat.le_antisymm (Source.gather_eq_ok hb).1 (Nat.not_lt.mp hge)
            unfold decode
            split
            next p hp => exact .packet hh hsize hbody hb hp
            next cause hp => exact .rejectedPacket hh hsize hbody hb hp

/-- A whole header that a packet may start with is followed by a read of the records. -/
theorem next_of_bodySize {header : Bytes} {s : Source} {n : Nat}
    (hh : r.source.gather Header.size = (.ok header, s)) (hsize : header.size = Header.size)
    (hbody : bodySize header = .ok n) :
    r.next = readBody ⟨s, r.offset + Header.size⟩ r.offset header n := by
  have hpos : Header.size ≠ 0 := by decide
  rw [next, hh]
  dsimp only
  rw [hsize, if_neg hpos, if_neg (Nat.lt_irrefl _), hbody]

/-- The reader decides the outcome. -/
theorem Step.next_eq (h : r.Step outcome r') : r.next = (outcome, r') := by
  have hpos : Header.size ≠ 0 := by decide
  cases h with
  | ended hh => rw [next, hh]; rfl
  | failedHeader hh => rw [next, hh]
  | shortHeader hh hpos hlt =>
    rw [next, hh]
    dsimp only
    rw [if_neg (Nat.ne_of_gt hpos), if_pos hlt]
  | rejectedHeader hh hsize hbody =>
    rw [next, hh]
    dsimp only
    rw [hsize, if_neg hpos, if_neg (Nat.lt_irrefl _), hbody]
  | failedBody hh hsize hbody hb =>
    rw [next_of_bodySize hh hsize hbody, readBody]
    dsimp only
    rw [hb]
  | shortBody hh hsize hbody hb hlt =>
    rw [next_of_bodySize hh hsize hbody, readBody]
    dsimp only
    rw [hb]
    dsimp only
    rw [if_pos hlt]
  | rejectedPacket hh hsize hbody hb hp =>
    rw [next_of_bodySize hh hsize hbody, readBody]
    dsimp only
    rw [hb]
    dsimp only
    rw [if_neg (Nat.lt_irrefl _), decode, hp]
  | packet hh hsize hbody hb hp =>
    rw [next_of_bodySize hh hsize hbody, readBody]
    dsimp only
    rw [hb]
    dsimp only
    rw [if_neg (Nat.lt_irrefl _), decode, hp]

theorem step_iff : r.Step outcome r' ↔ r.next = (outcome, r') := by
  refine ⟨Step.next_eq, fun h => ?_⟩
  have hstep := r.next_step
  rwa [h] at hstep

/-! ### What every read keeps -/

theorem Step.content_eq (h : r.Step outcome r') : r'.source.content = r.source.content := by
  cases h with
  | ended hh | failedHeader hh | shortHeader hh | rejectedHeader hh =>
    exact (Source.keeps_of_gather hh).1
  | failedBody hh _ _ hb | shortBody hh _ _ hb | rejectedPacket hh _ _ hb | packet hh _ _ hb =>
    exact (Source.keeps_of_gather hb).1.trans (Source.keeps_of_gather hh).1

theorem Step.productive (h : r.Step outcome r') (hr : r.source.Productive) :
    r'.source.Productive := by
  cases h with
  | ended hh | failedHeader hh | shortHeader hh | rejectedHeader hh => exact hr.of_gather hh
  | failedBody hh _ _ hb | shortBody hh _ _ hb | rejectedPacket hh _ _ hb | packet hh _ _ hb =>
    exact (hr.of_gather hh).of_gather hb

/-! ### Several reads -/

/-- The reader after `n` reads, whatever they have returned. -/
def after (r : Reader) : Nat → Reader
  | 0 => r
  | n + 1 => r.next.2.after n

theorem after_succ (r : Reader) (n : Nat) : r.after (n + 1) = (r.after n).next.2 := by
  induction n generalizing r with
  | zero => rfl
  | succ n ih => exact ih r.next.2

/-- What every read keeps is kept however often the source is read. -/
theorem after_induction {P : Reader → Prop}
    (hstep : ∀ {r outcome r'}, r.Step outcome r' → P r → P r') (hr : P r) (n : Nat) :
    P (r.after n) := by
  induction n with
  | zero => exact hr
  | succ n ih =>
    rw [after_succ]
    exact hstep (next_step _) ih

/-- What the first `n` reads have returned, each with the bytes accounted for after it.  Unlike
`Reader.attempts`, this goes on after the end of the stream. -/
def results (r : Reader) (n : Nat) : List (Except ReadError (Option AnyPacket) × Nat) :=
  (List.range n).map fun i => ((r.after i).next.1, (r.after (i + 1)).offset)

theorem results_succ (r : Reader) (n : Nat) :
    r.results (n + 1) = (r.next.1, r.next.2.offset) :: r.next.2.results n := by
  rw [results, List.range_succ_eq_map, List.map_cons, List.map_map]
  rfl

end EventPackets.Reader
