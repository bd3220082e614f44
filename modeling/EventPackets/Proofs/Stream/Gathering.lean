import EventPackets.Stream.Source

/-!
# Gathering from a source that does not fail

Interruptions and the sizes of the pieces in which a source delivers make no difference to what
is gathered from it, as long as it delivers something whenever it can.  A source that may fail
still delivers everything before it tells that the content has ended.

## Main definitions

* `Source.Productive` : a source that delivers something whenever it can.
* `Source.Unfailing` : such a source that is interrupted, but does not fail.

## Main results

* `Source.exists_fault_of_read` : the fault that a read meets.
* `Source.Productive.size_le_of_gather` : gathering falls short at the end of the content only.
* `Source.Unfailing.gather_eq_ok` : gathering brings as much of the content as there is.
-/

namespace EventPackets.Source

/-- A source that delivers something whenever it can. -/
def Productive (s : Source) : Prop :=
  ∀ i g, i < s.content.size → s.grain i = some g → 0 < g

/-- A source that delivers something whenever it can, and that is interrupted at worst. -/
structure Unfailing (s : Source) : Prop where
  productive : s.Productive
  interrupted : ∀ f ∈ s.faults, f.kind = .interrupted

theorem unfailing_ofBytes (b : Bytes) : (ofBytes b).Unfailing :=
  ⟨nofun, nofun⟩

variable {s s' : Source} {want : Nat}

/-- A read that meets a fault meets the first one at its position, and uses it up. -/
theorem exists_fault_of_read {kind : FaultKind} (h : s.read want = (.fault kind, s')) :
    ∃ (before : List Fault) (x : Fault) (rest : List Fault), s.faults = before ++ x :: rest ∧
      s'.faults = before ++ rest ∧ x.position = s.position ∧ x.kind = kind := by
  cases hp : s.pendingFault? with
  | none =>
    rw [read_of_no_fault hp] at h
    cases h
  | some x =>
    rw [read_of_pendingFault hp] at h
    cases h
    obtain ⟨hx, before, rest, hsplit, hbefore⟩ := List.find?_eq_some_iff_append.mp hp
    have hskip : ∀ y ∈ before, ¬ (y.position == s.position) = true := by simpa using hbefore
    refine ⟨before, x, rest, hsplit, ?_, beq_iff_eq.mp hx, rfl⟩
    dsimp only
    rw [hsplit, List.eraseP_append_right _ hskip, List.eraseP_cons, hx, cond_true]

theorem faults_subset_of_read {kind : FaultKind} (h : s.read want = (.fault kind, s')) :
    s'.faults ⊆ s.faults := by
  obtain ⟨before, x, rest, hfaults, hfaults', -, -⟩ := exists_fault_of_read h
  rw [hfaults, hfaults']
  exact ((List.sublist_cons_self x rest).append_left before).subset

theorem clearance_pos (s : Source) (h : 0 < want) : 0 < s.clearance want := by
  have hfar : ∀ f ∈ s.faults.filter fun f => s.position < f.position,
      s.position < f.position := fun f hf => by simpa using (List.mem_filter.mp hf).2
  unfold clearance
  generalize s.faults.filter (fun f => s.position < f.position) = fs at hfar
  induction fs generalizing want with
  | nil => exact h
  | cons f fs ih =>
    have hf := hfar f List.mem_cons_self
    exact ih (Nat.lt_min.mpr ⟨h, by omega⟩) fun g hg => hfar g (List.mem_cons_of_mem _ hg)

namespace Productive

theorem deliverable_pos (hs : s.Productive) (h : 0 < want) (hp : s.position < s.content.size) :
    0 < s.deliverable want := by
  have hclear := s.clearance_pos h
  unfold deliverable
  dsimp only
  split
  next g hg =>
    have hpos := hs _ g hp hg
    omega
  next => omega

/-- A read from it that brings no bytes is at the end. -/
theorem size_le_of_read (hs : s.Productive) (h : 0 < want) {chunk : Bytes}
    (hr : s.read want = (.bytes chunk, s')) (hc : chunk.size = 0) :
    s.content.size ≤ s.position := by
  refine Nat.not_lt.mp fun hp => ?_
  have hpos := hs.deliverable_pos h hp
  cases hf : s.pendingFault? with
  | some f =>
    rw [read_of_pendingFault hf] at hr
    cases hr
  | none =>
    rw [read_of_no_fault hf] at hr
    obtain ⟨hchunk, -⟩ := Prod.mk.inj hr
    cases hchunk
    rw [Bytes.size_slice (s.deliverable_le want).2] at hc
    omega

theorem of_read (hs : s.Productive) {d : Delivery} (hr : s.read want = (d, s')) :
    s'.Productive := by
  cases hf : s.pendingFault? with
  | none =>
    rw [read_of_no_fault hf] at hr
    cases hr
    exact hs
  | some f =>
    rw [read_of_pendingFault hf] at hr
    cases hr
    exact hs

theorem of_gather (hs : s.Productive) {result : Except IoError Bytes}
    (h : s.gather want = (result, s')) : s'.Productive := by
  fun_induction gather s want generalizing result s' with
  | case1 s =>
    cases h
    exact hs
  | case2 s want hw chunk s₁ hr hc =>
    cases h
    exact hs.of_read hr
  | case3 s want hw chunk s₁ hr hc ih =>
    cases h
    exact ih (hs.of_read hr) rfl
  | case4 s want hw s₁ hr ih => exact ih (hs.of_read hr) h
  | case5 s want hw cause s₁ hr =>
    cases h
    exact hs.of_read hr

/-- What is gathered falls short of what is wanted at the end only. -/
theorem size_le_of_gather (hs : s.Productive) {c : Bytes} (h : s.gather want = (.ok c, s'))
    (hlt : c.size < want) : s.content.size ≤ s'.position := by
  -- Only a read that brings no bytes stops gathering before enough bytes are there.
  fun_induction gather s want generalizing c s' with
  | case1 s => omega
  | case2 s want hw chunk s₁ hr hc =>
    cases h
    have hend := hs.size_le_of_read (Nat.pos_of_ne_zero hw) hr hc
    obtain ⟨n, -, -, -, rfl⟩ := read_eq_bytes hr
    exact Nat.le_add_right_of_le hend
  | case3 s want hw chunk s₁ hr hc ih =>
    obtain ⟨d, hd, rfl⟩ := prepend_eq_ok h
    rw [Array.size_append] at hlt
    have hend := ih (hs.of_read hr) hd (by omega)
    obtain ⟨n, -, -, -, rfl⟩ := read_eq_bytes hr
    exact hend
  | case4 s want hw s₁ hr ih =>
    rw [← (read_eq_fault hr).1]
    exact ih (hs.of_read hr) h hlt
  | case5 s want hw cause s₁ hr => cases h

end Productive

/-- A source that fails while bytes are gathered has delivered fewer than are wanted. -/
theorem position_lt_of_gather_eq_error {e : IoError} (h : s.gather want = (.error e, s')) :
    s'.position < s.position + want := by
  fun_induction gather s want generalizing s' with
  | case1 s => cases h
  | case2 s want hw chunk s₁ hr hc => cases h
  | case3 s want hw chunk s₁ hr hc ih =>
    have herror := ih (prepend_eq_error h)
    obtain ⟨n, hn, hn', rfl, rfl⟩ := read_eq_bytes hr
    rw [Bytes.size_slice hn'] at herror
    simp only at herror
    omega
  | case4 s want hw s₁ hr ih =>
    rw [← (read_eq_fault hr).2]
    exact ih h
  | case5 s want hw cause s₁ hr =>
    cases h
    rw [(read_eq_fault hr).2]
    exact Nat.lt_add_of_pos_right (Nat.pos_of_ne_zero hw)

namespace Unfailing

theorem of_read_bytes (hs : s.Unfailing) {chunk : Bytes}
    (hr : s.read want = (.bytes chunk, s')) : s'.Unfailing := by
  obtain ⟨n, -, -, -, rfl⟩ := read_eq_bytes hr
  exact ⟨hs.productive, hs.interrupted⟩

/-- A fault that it meets is an interruption. -/
theorem of_read_fault (hs : s.Unfailing) {kind : FaultKind}
    (hr : s.read want = (.fault kind, s')) : kind = .interrupted ∧ s'.Unfailing := by
  obtain ⟨before, x, rest, hfaults, -, -, rfl⟩ := exists_fault_of_read hr
  exact ⟨hs.interrupted x (hfaults ▸ List.mem_append_cons_self), hs.productive.of_read hr,
    fun y hy => hs.interrupted y (faults_subset_of_read hr hy)⟩

/-- Gathering brings as much of the content as there is. -/
theorem gather_eq_ok (hs : s.Unfailing) (want : Nat) :
    ∃ s', s.gather want = (.ok (s.content.slice s.position want), s') ∧ s'.Unfailing := by
  -- One case for each answer of the source; the last one, a failure, does not occur.
  fun_induction gather s want with
  | case1 s => exact ⟨s, by rw [Bytes.slice_zero], hs⟩
  | case2 s want hw chunk s₁ hr hc =>
    have hend := hs.productive.size_le_of_read (Nat.pos_of_ne_zero hw) hr hc
    refine ⟨s₁, ?_, hs.of_read_bytes hr⟩
    rw [Bytes.slice, Array.extract_empty_of_size_le_start hend]
  | case3 s want hw chunk s₁ hr hc ih =>
    obtain ⟨s', hgather, hs'⟩ := ih (hs.of_read_bytes hr)
    obtain ⟨n, hn, hn', rfl, rfl⟩ := read_eq_bytes hr
    refine ⟨s', ?_, hs'⟩
    rw [hgather, prepend]
    dsimp only [Except.map]
    rw [Bytes.size_slice hn', Bytes.slice_append_slice, Nat.add_sub_cancel' hn]
  | case4 s want hw s₁ hr ih =>
    obtain ⟨hcontent, hposition⟩ := read_eq_fault hr
    rw [← hcontent, ← hposition]
    exact ih (hs.of_read_fault hr).2
  | case5 s want hw cause s₁ hr => cases (hs.of_read_fault hr).1

theorem gather_ne_error (hs : s.Unfailing) (e : IoError) :
    s.gather want ≠ (.error e, s') := by
  obtain ⟨t, hg, -⟩ := hs.gather_eq_ok want
  rw [hg]
  exact fun h => nomatch congrArg Prod.fst h

end Unfailing

end EventPackets.Source
