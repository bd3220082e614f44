import EventPackets.Proofs.Stream.Step
import Mathlib

/-!
# Offsets and positions

A reader accounts for what it gathers, whatever comes of it.  The exception is a source that fails
inside a header or inside records: what it has delivered of them by then is lost, and from there on
the offsets are smaller than the positions, by as many bytes as have been lost.

## Main definitions

* `Bytes.RejectedAt` : no packet starts at a position, and why.
* `Reader.lost` : the bytes that a read takes without accounting for them.

## Main results

* `Reader.Step.position_eq` : one read moves offset and position together, up to what is lost.
* `Reader.position_eq_offset_add_lost` : how offsets and positions are related, however often the
  source is read, and what this means for the offsets in errors.
-/

namespace EventPackets

/-- No packet starts at byte `start`: either its header is rejected, or the header together with
the records that it announces. -/
def Bytes.RejectedAt (b : Bytes) (start : Nat) (cause : PacketError) : Prop :=
  start + Header.size ≤ b.size ∧
    (Reader.bodySize (b.slice start Header.size) = .error cause ∨
      ∃ n, Reader.bodySize (b.slice start Header.size) = .ok n ∧
        AnyPacket.ofBytes (b.slice start (Header.size + n)) = .error cause)

namespace Reader

variable {r r' : Reader} {outcome : Except ReadError (Option AnyPacket)} {d : Nat}

/-- Of the bytes that a read with this outcome has taken, those that it does not account for: if the
source fails, what belongs to the part that is not complete, the header or the records after it. -/
def unaccounted (taken : Nat) : Except ReadError (Option AnyPacket) → Nat
  | .error (.io _) => if taken < Header.size then taken else taken - Header.size
  | _ => 0

/-- The bytes that a read takes without accounting for them. -/
def lost (r : Reader) : Nat :=
  unaccounted (r.next.2.source.position - r.source.position) r.next.1

/-! ### One read -/

theorem Step.lost_eq (h : r.Step outcome r') :
    r.lost = unaccounted (r'.source.position - r.source.position) outcome := by
  rw [lost, h.next_eq]

/-- A read moves offset and position together, except for what is lost. -/
theorem Step.position_eq (h : r.Step outcome r') (hd : r.source.position = r.offset + d) :
    r'.source.position = r'.offset + (d + r.lost) := by
  have hlost := h.lost_eq
  cases h with
  | ended hh =>
    have hpos := (Source.gather_eq_ok hh).2.2.2
    simp only [unaccounted, Array.size_empty] at hpos hlost ⊢
    omega
  | failedHeader hh =>
    -- Less than a header has been taken, and all of it is lost.
    have hle := (Source.keeps_of_gather hh).2
    have hlt := Source.position_lt_of_gather_eq_error hh
    simp only [unaccounted] at hlost ⊢
    rw [if_pos (by omega)] at hlost
    omega
  | shortHeader hh | rejectedHeader hh hsize =>
    have hpos := (Source.gather_eq_ok hh).2.2.2
    simp only [unaccounted] at hlost ⊢
    omega
  | failedBody hh hsize _ hb =>
    -- The header has been accounted for, and what follows it is lost.
    have hpos := (Source.gather_eq_ok hh).2.2.2
    have hle := (Source.keeps_of_gather hb).2
    simp only [unaccounted] at hlost ⊢
    rw [if_neg (by omega)] at hlost
    omega
  | shortBody hh hsize _ hb | rejectedPacket hh hsize _ hb | packet hh hsize _ hb =>
    have hheader := (Source.gather_eq_ok hh).2.2.2
    have hbody := (Source.gather_eq_ok hb).2.2.2
    simp only [unaccounted] at hlost ⊢
    omega

/-- What is rejected starts where the read started. -/
theorem rejectedAt_of_step {start : Nat} {cause : PacketError}
    (h : r.Step (.error (.invalidPacket start cause)) r') :
    start = r.offset ∧ r.source.content.RejectedAt r.source.position cause := by
  have hpos : 0 < Header.size := by decide
  cases h with
  | rejectedHeader hh hsize hbody =>
    obtain ⟨-, hslice, -, -⟩ := Source.gather_eq_ok hh
    have hle := Source.size_le_sub_of_gather hh
    rw [hsize] at hslice hle
    rw [hslice] at hbody
    exact ⟨rfl, by omega, .inl hbody⟩
  | rejectedPacket hh hsize hbody hb hp =>
    obtain ⟨-, hslice, hcontent, hposition⟩ := Source.gather_eq_ok hh
    obtain ⟨-, hslice', -, -⟩ := Source.gather_eq_ok hb
    have hle := Source.size_le_sub_of_gather hh
    rw [hsize] at hslice hposition hle
    rw [hcontent, hposition] at hslice'
    rw [hslice, hslice', Bytes.slice_append_slice] at hp
    rw [hslice] at hbody
    exact ⟨rfl, by omega, .inr ⟨_, hbody, hp⟩⟩

/-- The end of the source is met where the read ends. -/
theorem size_eq_of_step {offset : Nat} (hr : r.source.Productive)
    (h : r.Step (.error (.unexpectedEnd offset)) r') :
    offset = r'.offset ∧ r'.source.position = r.source.content.size := by
  cases h with
  | shortHeader hh hpos hlt =>
    obtain ⟨-, -, -, hposition⟩ := Source.gather_eq_ok hh
    have hle := Source.size_le_sub_of_gather hh
    have hend := hr.size_le_of_gather hh hlt
    exact ⟨rfl, by dsimp only; omega⟩
  | shortBody hh hsize hbody hb hlt =>
    have hpos : 0 < Header.size := by decide
    obtain ⟨-, -, hcontent, hposition⟩ := Source.gather_eq_ok hh
    obtain ⟨-, -, -, hposition'⟩ := Source.gather_eq_ok hb
    have hle := Source.size_le_sub_of_gather hh
    have hle' := Source.size_le_sub_of_gather hb
    have hend := (hr.of_gather hh).size_le_of_gather hb hlt
    rw [hcontent] at hle' hend
    exact ⟨rfl, by dsimp only; omega⟩

/-! ### Several reads -/

/-- However often the source is read, the offset is the position less what has been lost. -/
theorem position_after (hr : r.source.position = r.offset) (n : Nat) :
    (r.after n).source.position =
      (r.after n).offset + ∑ i ∈ Finset.range n, (r.after i).lost := by
  induction n with
  | zero => exact hr
  | succ n ih =>
    rw [after_succ, Finset.sum_range_succ]
    exact (next_step _).position_eq ih

/-- As long as a source does not fail, the offset tells how many bytes have been taken from it.  A
read during which it fails does not account for what it has got of the header, or of the records,
by then, and from there on the offset lags behind by as much.  The offsets in errors lag behind as
far as that of the reader: but for that, an error about an invalid packet tells where its first byte
stands, which is where the read starts, and an error about the end of the stream tells the size of
the source, if that delivers something whenever it can. -/
theorem position_eq_offset_add_lost (b : Bytes) (grain : Nat → Option Nat) (faults : List Fault)
    (n : Nat) :
    let start := ofSource ⟨b, 0, grain, faults⟩
    let r := start.after n
    let lost := ∑ i ∈ Finset.range n, (start.after i).lost
    r.source.position = r.offset + lost ∧
      (∀ offset cause, r.next.1 = .error (.invalidPacket offset cause) →
        offset + lost = r.source.position ∧ b.RejectedAt (offset + lost) cause) ∧
      ((∀ i g, i < b.size → grain i = some g → 0 < g) →
        ∀ offset, r.next.1 = .error (.unexpectedEnd offset) → offset + lost = b.size) := by
  intro start r lost
  have hposition : r.source.position = r.offset + lost := position_after rfl n
  have hcontent : r.source.content = b :=
    after_induction (P := fun r => r.source.content = b) (fun h => h.content_eq.trans) rfl n
  have hstep := r.next_step
  refine ⟨hposition, fun offset cause h => ?_, fun hgrain offset h => ?_⟩
  · rw [h] at hstep
    obtain ⟨rfl, hrejected⟩ := rejectedAt_of_step hstep
    rw [hcontent, hposition] at hrejected
    exact ⟨hposition.symm, hrejected⟩
  · have hstart : start.source.Productive := hgrain
    have hr : r.source.Productive :=
      after_induction (P := fun r => r.source.Productive) Step.productive hstart n
    have hnext := hstep.position_eq hposition
    have hlost := hstep.lost_eq
    rw [h] at hstep hlost
    obtain ⟨rfl, hend⟩ := size_eq_of_step hr hstep
    rw [hend, hcontent, hlost] at hnext
    exact hnext.symm

/-- The source fails three bytes before a header that is rejected; those bytes are missing from the
offsets in the errors that follow, the last of which is about the end of the source. -/
theorem position_eq_offset_add_lost_rejected :
    let b : Bytes := Array.replicate 33 0
    let grain := fun i => some (i % 4 + 1)
    let faults : List Fault := [⟨3, .failed .brokenSource⟩, ⟨17, .interrupted⟩]
    let start := ofSource ⟨b, 0, grain, faults⟩
    (start.after 1).source.position = (start.after 1).offset + 3 ∧
      (start.after 1).next.1 = .error (.invalidPacket 0 (.unsupportedType 0)) ∧
      b.RejectedAt (0 + 3) (.unsupportedType 0) ∧
      (start.after 2).next.1 = .error (.unexpectedEnd 30) ∧ 30 + 3 = b.size := by
  intro b grain faults start
  have hfirst : start.lost = 3 := by cbv
  have hsecond : start.next.2.lost = 0 := by cbv
  have hrejected : (start.after 1).next.1 = .error (.invalidPacket 0 (.unsupportedType 0)) := by cbv
  have hended : (start.after 2).next.1 = .error (.unexpectedEnd 30) := by cbv
  obtain ⟨hposition, hinvalid, -⟩ := position_eq_offset_add_lost b grain faults 1
  obtain ⟨-, -, hend⟩ := position_eq_offset_add_lost b grain faults 2
  have hgrain (i g : Nat) (_ : i < b.size) (hg : grain i = some g) : 0 < g := by
    obtain rfl : i % 4 + 1 = g := Option.some.inj hg
    exact Nat.succ_pos _
  have hone : ∑ i ∈ Finset.range 1, (start.after i).lost = 3 := by
    rw [Finset.sum_range_one]
    exact hfirst
  have htwo : ∑ i ∈ Finset.range 2, (start.after i).lost = 3 := by
    rw [Finset.sum_range_succ, hone]
    exact congrArg (3 + ·) hsecond
  rw [hone] at hposition hinvalid
  rw [htwo] at hend
  exact ⟨hposition, hrejected, (hinvalid _ _ hrejected).2, hended, hend hgrain _ hended⟩

/-- The offset need not tell how many bytes have been taken, nor need an error at the end of the
source name its size: here the source fails after three of its five bytes. -/
theorem offset_ne_position_after_failure :
    let start := ofSource ⟨#[0, 0, 0, 0, 0], 0, fun _ => none, [⟨3, .failed .brokenSource⟩]⟩
    (start.after 1).source.position = 3 ∧ (start.after 1).offset = 0 ∧
      (start.after 1).next.1 = .error (.unexpectedEnd 2) := by
  intro start
  refine ⟨?_, ?_, ?_⟩ <;> cbv

end Reader

end EventPackets
