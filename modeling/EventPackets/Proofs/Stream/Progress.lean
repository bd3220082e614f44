import EventPackets.Proofs.Stream.Offset
import Mathlib

/-!
# Reading comes to an end

A read that returns a packet or refuses one takes at least a header from the source, whatever stands
there, or else all that is left.  A read that fails uses up a fault.  So there are not many reads
that return something else than the end of the stream, and from the first end on only the source can
come in between.

Faults need not be known from the start.  They may come up between any two reads, as long as only
finitely many of them make a read fail.

## Main definitions

* `failures` : how many of some faults make a read fail.
* `Reader.amid` : the reader after a number of reads, with faults that come up in between.
* `Reader.budget` : the number of reads that a reader can still spend before the end.

## Main results

* `Reader.Step.progress` : a read that returns something takes a header or what is left.
* `Reader.Step.budget_lt` : every read spends some of the budget, unless it returns the end.
* `Reader.count_add_budget_le` : what any number of reads have spent.
* `Reader.reaches_end` : the end of the stream.
-/

namespace EventPackets

/-- How many of some faults make the read fail that meets them. -/
def failures (faults : List Fault) : Nat :=
  faults.countP fun x => x.kind ≠ .interrupted

theorem failures_append (faults later : List Fault) :
    failures (faults ++ later) = failures faults + failures later :=
  List.countP_append

theorem failures_cons (x : Fault) (faults : List Fault) :
    failures (x :: faults) = failures faults + if x.kind = .interrupted then 0 else 1 := by
  rw [failures, List.countP_cons, failures]
  by_cases h : x.kind = .interrupted <;> simp [h]

/-! ### Sources -/

namespace Source

variable {s s' : Source} {want : Nat}

theorem failures_of_read {kind : FaultKind} (h : s.read want = (.fault kind, s')) :
    failures s.faults = failures s'.faults + if kind = .interrupted then 0 else 1 := by
  obtain ⟨before, x, rest, hfaults, hfaults', -, rfl⟩ := exists_fault_of_read h
  rw [hfaults, hfaults', failures_append, failures_append, failures_cons, Nat.add_assoc]

theorem faults_of_read {chunk : Bytes} (h : s.read want = (.bytes chunk, s')) :
    s'.faults = s.faults := by
  obtain ⟨n, -, -, -, rfl⟩ := read_eq_bytes h
  rfl

/-- Gathering uses up the failure that it ends with, if any. -/
theorem failures_of_gather {result : Except IoError Bytes} (h : s.gather want = (result, s')) :
    failures s'.faults ≤ failures s.faults ∧
      ∀ e, result = .error e → failures s'.faults < failures s.faults := by
  fun_induction gather s want generalizing result s' with
  | case1 s =>
    cases h
    exact ⟨Nat.le_refl _, fun e he => by cases he⟩
  | case2 s want hw chunk s₁ hr hc =>
    cases h
    exact ⟨by rw [faults_of_read hr], fun e he => by cases he⟩
  | case3 s want hw chunk s₁ hr hc ih =>
    obtain ⟨hle, hlt⟩ := ih rfl
    cases h
    rw [faults_of_read hr] at hle hlt
    refine ⟨hle, fun e he => ?_⟩
    exact hlt e (congrArg Prod.fst (prepend_eq_error (Prod.ext he rfl)))
  | case4 s want hw s₁ hr ih =>
    rw [failures_of_read hr]
    exact ih h
  | case5 s want hw cause s₁ hr =>
    cases h
    have hused := failures_of_read hr
    rw [if_neg FaultKind.noConfusion] at hused
    exact ⟨by omega, fun _ _ => by omega⟩

/-- At the end of the content nothing is gathered, whatever interrupts it. -/
theorem gather_of_size_le (hend : s.content.size ≤ s.position)
    (hfaults : ∀ x ∈ s.faults, x.position = s.position → x.kind = .interrupted) (want : Nat) :
    ∃ s', s.gather want = (.ok #[], s') := by
  fun_induction gather s want with
  | case1 s => exact ⟨s, rfl⟩
  | case2 s want hw chunk s₁ hr hc => exact ⟨s₁, rfl⟩
  | case3 s want hw chunk s₁ hr hc ih =>
    obtain ⟨n, -, hn, rfl, -⟩ := read_eq_bytes hr
    rw [Bytes.size_slice hn] at hc
    omega
  | case4 s want hw s₁ hr ih =>
    obtain ⟨hcontent, hposition⟩ := read_eq_fault hr
    rw [← hcontent, ← hposition] at hend
    exact ih hend fun x hx hpos =>
      hfaults x (faults_subset_of_read hr hx) (hpos.trans hposition)
  | case5 s want hw cause s₁ hr =>
    obtain ⟨before, x, rest, hbefore, -, hpos, hkind⟩ := exists_fault_of_read hr
    have hx : x ∈ s.faults := hbefore ▸ List.mem_append_cons_self
    cases (hfaults x hx hpos).symm.trans hkind

end Source

/-! ### One read -/

namespace Reader

variable {r r' : Reader} {outcome : Except ReadError (Option AnyPacket)}

/-- A read that returns neither the end nor a failure of the source takes a header at least, or all
that is left. -/
theorem Step.progress (hr : r.source.Productive) (h : r.Step outcome r')
    (hend : outcome ≠ .ok none) (hio : ∀ cause, outcome ≠ .error (.io cause)) :
    r.source.position < r'.source.position ∧ r'.source.position ≤ r.source.content.size ∧
      (r.source.position + Header.size ≤ r'.source.position ∨
        r'.source.position = r.source.content.size) := by
  have hheader : 0 < Header.size := by decide
  cases h with
  | ended hh => exact absurd rfl hend
  | failedHeader hh | failedBody hh _ _ hb => exact absurd rfl (hio _)
  | shortHeader hh hpos hlt =>
    obtain ⟨-, -, -, hposition⟩ := Source.gather_eq_ok hh
    have hle := Source.size_le_sub_of_gather hh
    have hshort := hr.size_le_of_gather hh hlt
    dsimp only
    omega
  | rejectedHeader hh hsize =>
    obtain ⟨-, -, -, hposition⟩ := Source.gather_eq_ok hh
    have hle := Source.size_le_sub_of_gather hh
    dsimp only
    omega
  | shortBody hh hsize _ hb | rejectedPacket hh hsize _ hb | packet hh hsize _ hb =>
    obtain ⟨-, -, hcontent, hposition⟩ := Source.gather_eq_ok hh
    obtain ⟨-, -, -, hposition'⟩ := Source.gather_eq_ok hb
    have hle := Source.size_le_sub_of_gather hh
    have hle' := Source.size_le_sub_of_gather hb
    rw [hcontent] at hle'
    dsimp only
    omega

theorem Step.position_le (h : r.Step outcome r') : r.source.position ≤ r'.source.position := by
  cases h with
  | ended hh | failedHeader hh | shortHeader hh | rejectedHeader hh =>
    exact (Source.keeps_of_gather hh).2
  | failedBody hh _ _ hb | shortBody hh _ _ hb | rejectedPacket hh _ _ hb | packet hh _ _ hb =>
    exact Nat.le_trans (Source.keeps_of_gather hh).2 (Source.keeps_of_gather hb).2

theorem Step.failures_le (h : r.Step outcome r') :
    failures r'.source.faults ≤ failures r.source.faults := by
  cases h with
  | ended hh | failedHeader hh | shortHeader hh | rejectedHeader hh =>
    exact (Source.failures_of_gather hh).1
  | failedBody hh _ _ hb | shortBody hh _ _ hb | rejectedPacket hh _ _ hb | packet hh _ _ hb =>
    exact Nat.le_trans (Source.failures_of_gather hb).1 (Source.failures_of_gather hh).1

theorem Step.failures_lt {cause : IoError} (h : r.Step (.error (.io cause)) r') :
    failures r'.source.faults < failures r.source.faults := by
  cases h with
  | failedHeader hh => exact (Source.failures_of_gather hh).2 _ rfl
  | failedBody hh _ _ hb =>
    exact Nat.lt_of_lt_of_le ((Source.failures_of_gather hb).2 _ rfl)
      (Source.failures_of_gather hh).1

/-- How many reads a reader can still spend before the end: one for each header that the rest of the
content has room for, counting a last one that is incomplete, and one for each failure. -/
def budget (r : Reader) : Nat :=
  (r.source.content.size - r.source.position + 27) / 28 + failures r.source.faults

theorem Step.budget_le (h : r.Step outcome r') : r'.budget ≤ r.budget := by
  have hposition := h.position_le
  have hfailures := h.failures_le
  rw [budget, budget, h.content_eq]
  omega

/-- A read spends some of the budget, unless it returns the end. -/
theorem Step.budget_lt (hr : r.source.Productive) (h : r.Step outcome r')
    (hend : outcome ≠ .ok none) : r'.budget < r.budget := by
  have hfailures := h.failures_le
  have hposition := h.position_le
  -- A failure has been used up; any other outcome has its price in bytes.
  by_cases hio : ∃ cause, outcome = .error (.io cause)
  · obtain ⟨cause, rfl⟩ := hio
    have hlt := h.failures_lt
    rw [budget, budget, h.content_eq]
    omega
  · have hheader : Header.size = 28 := rfl
    have hprogress := h.progress hr hend fun cause hc => hio ⟨cause, hc⟩
    rw [budget, budget, h.content_eq]
    omega

/-! ### The end of the content -/

/-- The end is returned at the end of the content. -/
theorem Step.size_le_of_ended (hr : r.source.Productive) (h : r.Step (.ok none) r') :
    r.source.content.size ≤ r.source.position := by
  cases h with
  | ended hh =>
    have hend := hr.size_le_of_gather hh (by decide)
    rwa [(Source.gather_eq_ok hh).2.2.2] at hend

/-- There a read returns the end once more, unless the source fails. -/
theorem Step.ended_or_failed (hend : r.source.content.size ≤ r.source.position)
    (h : r.Step outcome r') : outcome = .ok none ∨ ∃ cause, outcome = .error (.io cause) := by
  -- No byte of a header is left to gather.
  have hheader : 0 < Header.size := by decide
  cases h with
  | ended hh => exact .inl rfl
  | failedHeader hh | failedBody hh _ _ hb => exact .inr ⟨_, rfl⟩
  | shortHeader hh hpos =>
    have hle := Source.size_le_sub_of_gather hh
    omega
  | rejectedHeader hh hsize | shortBody hh hsize | rejectedPacket hh hsize | packet hh hsize =>
    have hle := Source.size_le_sub_of_gather hh
    omega

theorem next_eq_ended (hend : r.source.content.size ≤ r.source.position)
    (hfaults : ∀ x ∈ r.source.faults, x.position = r.source.position → x.kind = .interrupted) :
    r.next.1 = .ok none := by
  obtain ⟨s, hs⟩ := Source.gather_of_size_le hend hfaults Header.size
  exact congrArg Prod.fst (Step.ended hs).next_eq

/-! ### Faults that come up between reads -/

/-- The reader, with more faults to come. -/
def addFaults (r : Reader) (faults : List Fault) : Reader :=
  { r with source := { r.source with faults := r.source.faults ++ faults } }

/-- The reader after `n` reads, if `faults i` come up before read `i`, the reads being counted from
zero.  A fault that happens at the end of the content, after a read has met the end there, is one of
these. -/
def amid (r : Reader) (faults : Nat → List Fault) : Nat → Reader
  | 0 => r.addFaults (faults 0)
  | n + 1 => (r.amid faults n).next.2.addFaults (faults (n + 1))

theorem budget_addFaults (r : Reader) (faults : List Fault) :
    (r.addFaults faults).budget = r.budget + failures faults := by
  rw [budget, addFaults, failures_append, ← Nat.add_assoc, budget]

/-- What a reader keeps, it keeps amid faults. -/
theorem amid_induction {P : Reader → Prop} (hadd : ∀ {r faults}, P r → P (addFaults r faults))
    (hstep : ∀ {r outcome r'}, r.Step outcome r' → P r → P r') (hr : P r)
    (faults : Nat → List Fault) (n : Nat) : P (r.amid faults n) := by
  induction n with
  | zero => exact hadd hr
  | succ n ih => exact hadd (hstep (next_step _) ih)

theorem productive_amid (hr : r.source.Productive) (faults : Nat → List Fault) (n : Nat) :
    (r.amid faults n).source.Productive :=
  amid_induction (P := fun r => r.source.Productive) id Step.productive hr faults n

theorem content_amid (r : Reader) (faults : Nat → List Fault) (n : Nat) :
    (r.amid faults n).source.content = r.source.content :=
  amid_induction (P := fun q => q.source.content = r.source.content) id
    (fun h => h.content_eq.trans) rfl faults n

/-- The reads so far that have not returned the end and those that the reader can still spend: each
read pays for itself, and only failures that come up add to the budget. -/
theorem count_add_budget_le (hr : r.source.Productive) (faults : Nat → List Fault) (n : Nat) :
    Nat.count (fun i => (r.amid faults i).next.1 ≠ .ok none) n + (r.amid faults n).budget ≤
      r.budget + ∑ i ∈ Finset.range (n + 1), failures (faults i) := by
  induction n with
  | zero => rw [Nat.count_zero, Nat.zero_add, Finset.sum_range_one, amid, budget_addFaults]
  | succ n ih =>
    rw [Nat.count_succ, Finset.sum_range_succ, amid, budget_addFaults]
    have hstep := (r.amid faults n).next_step
    split
    next hend =>
      have hlt := hstep.budget_lt (productive_amid hr faults n) hend
      omega
    next =>
      have hle := hstep.budget_le
      omega

theorem position_amid_mono (r : Reader) (faults : Nat → List Fault) :
    Monotone fun n => (r.amid faults n).source.position :=
  monotone_nat_of_le_succ fun n => (r.amid faults n).next_step.position_le

/-- From the first end on the reader is at the end of the content. -/
theorem size_le_position_amid (hr : r.source.Productive) {faults : Nat → List Fault} {m n : Nat}
    (hended : (r.amid faults m).next.1 = .ok none) (hmn : m ≤ n) :
    (r.amid faults n).source.content.size ≤ (r.amid faults n).source.position := by
  have hstep := (r.amid faults m).next_step
  rw [hended] at hstep
  have hend := hstep.size_le_of_ended (productive_amid hr faults m)
  rw [content_amid] at hend ⊢
  exact Nat.le_trans hend (position_amid_mono r faults hmn)

section

variable (hr : r.source.Productive) {faults : Nat → List Fault} {f : Nat}
  (hf : ∀ n, ∑ i ∈ Finset.range n, failures (faults i) ≤ f)

include hr hf

theorem count_le (n : Nat) :
    Nat.count (fun i => (r.amid faults i).next.1 ≠ .ok none) n ≤ r.budget + f :=
  calc
    _ ≤ _ + (r.amid faults n).budget := Nat.le_add_right ..
    _ ≤ _ := count_add_budget_le hr faults n
    _ ≤ r.budget + f := Nat.add_le_add_left (hf (n + 1)) _

/-- There is a first end, since the reads before it count. -/
theorem exists_first_end :
    ∃ m ≤ r.budget + f,
      (∀ n < m, (r.amid faults n).next.1 ≠ .ok none) ∧ (r.amid faults m).next.1 = .ok none := by
  have hle (n : Nat) (hn : ∀ i < n, (r.amid faults i).next.1 ≠ .ok none) : n ≤ r.budget + f := by
    have hcount := count_le hr hf n
    rwa [Nat.count_iff_forall.mpr hn] at hcount
  -- Without an end, one read more than the budget allows would count.
  have hex : ∃ m, (r.amid faults m).next.1 = .ok none := by
    by_contra hnone
    have hmore := hle (r.budget + f + 1) fun i _ => not_exists.mp hnone i
    omega
  have hfirst (n : Nat) (hn : n < Nat.find hex) : (r.amid faults n).next.1 ≠ .ok none :=
    Nat.find_min hex hn
  exact ⟨Nat.find hex, hle _ hfirst, hfirst, Nat.find_spec hex⟩

end

/-- A reader gets to the end of any source, in whatever pieces the source delivers its bytes, and
whatever faults come up, as long as only `f` of them make a read fail.  A read that returns a packet
or refuses one takes at least 28 bytes, or else all that is left.  At most one read for every 28
bytes, and one for every failure, returns something else than the end.  The first end comes when all
bytes have been taken.  From then on a read returns the end or a failure of the source, and the end
if there is no fault at the end of the content but interruptions. -/
theorem reaches_end (b : Bytes) (grain : Nat → Option Nat) (faults : Nat → List Fault) (f : Nat)
    (hgrain : ∀ i g, i < b.size → grain i = some g → 0 < g)
    (hfaults : ∀ n, ∑ i ∈ Finset.range n, failures (faults i) ≤ f) :
    let r := (ofSource ⟨b, 0, grain, []⟩).amid faults
    (∀ n, (r n).next.1 ≠ .ok none → (∀ cause, (r n).next.1 ≠ .error (.io cause)) →
        (r n).source.position < (r n).next.2.source.position ∧
          ((r n).source.position + 28 ≤ (r n).next.2.source.position ∨
            (r n).next.2.source.position = b.size)) ∧
      (∀ n, Nat.count (fun i => (r i).next.1 ≠ .ok none) n ≤ (b.size + 27) / 28 + f) ∧
      ∃ m ≤ (b.size + 27) / 28 + f,
        (∀ n < m, (r n).next.1 ≠ .ok none) ∧ (r m).next.1 = .ok none ∧
          ∀ n ≥ m, b.size ≤ (r n).source.position ∧
            ((r n).next.1 = .ok none ∨ ∃ cause, (r n).next.1 = .error (.io cause)) ∧
              ((∀ x ∈ (r n).source.faults,
                  x.position = (r n).source.position → x.kind = .interrupted) →
                (r n).next.1 = .ok none) := by
  intro r
  have hstart : (ofSource ⟨b, 0, grain, []⟩).source.Productive := hgrain
  obtain ⟨m, hm, hfirst, hended⟩ := exists_first_end hstart hfaults
  refine ⟨fun n hend hio => ?_, count_le hstart hfaults, m, hm, hfirst, hended, fun n hn => ?_⟩
  · have hproductive : (r n).source.Productive := productive_amid hstart faults n
    obtain ⟨hlt, -, htaken⟩ := (r n).next_step.progress hproductive hend hio
    have hcontent : (r n).source.content = b := content_amid _ faults n
    rw [hcontent] at htaken
    exact ⟨hlt, htaken⟩
  · have hsize : (r n).source.content.size ≤ (r n).source.position :=
      size_le_position_amid hstart hended hn
    have hcontent : (r n).source.content = b := content_amid _ faults n
    exact ⟨hcontent ▸ hsize, (r n).next_step.ended_or_failed hsize, next_eq_ended hsize⟩

/-- The source fails inside a header, and once more after its content has ended, when that has been
found out already: four reads return something else than the end, as many as there may be. -/
theorem reaches_end_after_four :
    let b : Bytes := Array.replicate 33 0
    let grain := fun i => some (i % 4 + 1)
    let faults : Nat → List Fault
      | 0 => [⟨3, .failed .brokenSource⟩, ⟨17, .interrupted⟩]
      | 3 => [⟨33, .failed .brokenSource⟩]
      | _ => []
    let r := (ofSource ⟨b, 0, grain, []⟩).amid faults
    (r 3).next.1 = .error (.io .brokenSource) ∧
      ∃ m ≤ 4, (∀ n < m, (r n).next.1 ≠ .ok none) ∧ (r m).next.1 = .ok none := by
  intro b grain faults r
  have hgrain (i g : Nat) (_ : i < b.size) (hg : grain i = some g) : 0 < g := by
    obtain rfl : i % 4 + 1 = g := Option.some.inj hg
    exact Nat.succ_pos _
  have hall (n : Nat) : ∑ i ∈ Finset.range (n + 4), failures (faults i) = 2 := by
    induction n with
    | zero => decide
    | succ n ih => rw [Nat.add_right_comm, Finset.sum_range_succ, ih]; rfl
  have hfaults (n : Nat) : ∑ i ∈ Finset.range n, failures (faults i) ≤ 2 := by
    rw [← hall n]
    exact Finset.sum_le_sum_of_subset (Finset.range_mono (Nat.le_add_right n 4))
  obtain ⟨-, -, m, hm, hbefore, hended, -⟩ := reaches_end b grain faults 2 hgrain hfaults
  have hsize : b.size = 33 := Array.size_replicate
  rw [hsize] at hm
  exact ⟨by cbv, m, hm, hbefore, hended⟩

end Reader

end EventPackets
