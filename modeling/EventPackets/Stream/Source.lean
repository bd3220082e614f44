import EventPackets.Bytes

/-!
# Byte sources

A source delivers its content from front to back, in pieces whose sizes are its own choice.  On
the way it may be interrupted, after which the same read can be tried again, or fail.

## Main definitions

* `IoError` : what can go wrong outside the codec, while bytes are fetched or delivered.
* `Source` : a source, with the position up to which it has delivered.
* `Source.read` : one attempt to read.
* `Source.gather` : reading until enough bytes are there or the content ends.

## Main results

* `Source.gather_eq_ok` : gathering delivers the next bytes of the content and moves the
  position behind them.
-/

namespace EventPackets

/-- What can go wrong while bytes are fetched or delivered. -/
inductive IoError
  /-- the source of a stream fails -/
  | brokenSource
  /-- a sink takes no more bytes -/
  | sinkFull
  /-- a path leads to nothing -/
  | notFound
  /-- a path leads through something that is no folder -/
  | notFolder
  /-- a folder stands where a file is needed -/
  | isFolder
  /-- a name on a path is longer than a folder can hold -/
  | nameTooLong
  deriving DecidableEq

/-- The wording of an input or output error. -/
def IoError.message : IoError → String
  | brokenSource => "broken source"
  | sinkFull => "sink full"
  | notFound => "No such file or directory (os error 2)"
  | notFolder => "Not a directory (os error 20)"
  | isFolder => "Is a directory (os error 21)"
  | nameTooLong => "File name too long (os error 36)"

/-- What may happen to a read instead of a delivery. -/
inductive FaultKind
  /-- the read is to be tried again -/
  | interrupted
  /-- the read fails -/
  | failed (cause : IoError)
  deriving DecidableEq

/-- A fault that happens once, when a read starts at its position. -/
structure Fault where
  position : Nat
  kind : FaultKind
  deriving DecidableEq

/-- A source of bytes. -/
structure Source where
  content : Bytes
  /-- how many bytes have been delivered -/
  position : Nat
  /-- the most that a read starting at a position delivers -/
  grain : Nat → Option Nat
  /-- the faults still to come -/
  faults : List Fault

/-- What one attempt to read brings. -/
inductive Delivery
  | bytes (chunk : Bytes)
  | fault (kind : FaultKind)

namespace Source

/-- A source that delivers whatever it is asked for and never fails. -/
def ofBytes (b : Bytes) : Source :=
  ⟨b, 0, fun _ => none, []⟩

/-- The first fault that a read starting now meets. -/
def pendingFault? (s : Source) : Option Fault :=
  s.faults.find? fun f => f.position == s.position

/-- How far a read starting now can go before it would pass a fault. -/
def clearance (s : Source) (want : Nat) : Nat :=
  (s.faults.filter fun f => s.position < f.position).foldl
    (fun n f => min n (f.position - s.position)) want

/-- How many bytes a read of `want` bytes delivers, if it meets no fault. -/
def deliverable (s : Source) (want : Nat) : Nat :=
  let n := min (s.clearance want) (s.content.size - s.position)
  match s.grain s.position with
  | some g => min n g
  | none => n

/-- One attempt to read at most `want` bytes.  No bytes mean that the content has ended. -/
def read (s : Source) (want : Nat) : Delivery × Source :=
  match s.pendingFault? with
  | some f =>
    (.fault f.kind, { s with faults := s.faults.eraseP fun f => f.position == s.position })
  | none =>
    let n := s.deliverable want
    (.bytes (s.content.slice s.position n), { s with position := s.position + n })

theorem clearance_le (s : Source) (want : Nat) : s.clearance want ≤ want := by
  unfold clearance
  generalize s.faults.filter _ = fs
  induction fs generalizing want with
  | nil => exact Nat.le_refl want
  | cons f fs ih => exact Nat.le_trans (ih _) (Nat.min_le_left ..)

theorem deliverable_le (s : Source) (want : Nat) :
    s.deliverable want ≤ want ∧ s.deliverable want ≤ s.content.size - s.position := by
  have h := s.clearance_le want
  unfold deliverable
  simp only
  split <;> omega

theorem read_of_pendingFault {s : Source} {f : Fault} (h : s.pendingFault? = some f)
    (want : Nat) :
    s.read want =
      (.fault f.kind, { s with faults := s.faults.eraseP fun f => f.position == s.position }) := by
  simp only [read, h]

theorem read_of_no_fault {s : Source} (h : s.pendingFault? = none) (want : Nat) :
    s.read want =
      (.bytes (s.content.slice s.position (s.deliverable want)),
        { s with position := s.position + s.deliverable want }) := by
  simp only [read, h]

/-- A read that meets a fault uses it up. -/
theorem length_faults_of_read_eq_fault {s s' : Source} {want : Nat} {kind : FaultKind}
    (h : s.read want = (.fault kind, s')) : s'.faults.length < s.faults.length := by
  cases hp : s.pendingFault? with
  | none =>
    rw [read_of_no_fault hp] at h
    cases h
  | some f =>
    rw [read_of_pendingFault hp] at h
    cases h
    have hm := List.mem_of_find?_eq_some hp
    have hf := List.find?_some hp
    rw [List.length_eraseP_of_mem hm hf]
    exact Nat.sub_lt (List.length_pos_of_mem hm) Nat.one_pos

/-- A read that meets a fault delivers nothing. -/
theorem read_eq_fault {s s' : Source} {want : Nat} {kind : FaultKind}
    (h : s.read want = (.fault kind, s')) :
    s'.content = s.content ∧ s'.position = s.position := by
  cases hp : s.pendingFault? with
  | none =>
    rw [read_of_no_fault hp] at h
    cases h
  | some f =>
    rw [read_of_pendingFault hp] at h
    cases h
    exact ⟨rfl, rfl⟩

/-- A read that delivers bytes delivers no more than it was asked for and keeps the faults. -/
theorem read_eq_bytes {s s' : Source} {want : Nat} {chunk : Bytes}
    (h : s.read want = (.bytes chunk, s')) :
    ∃ n, n ≤ want ∧ n ≤ s.content.size - s.position ∧
      chunk = s.content.slice s.position n ∧ s' = { s with position := s.position + n } := by
  cases hp : s.pendingFault? with
  | none =>
    rw [read_of_no_fault hp] at h
    cases h
    exact ⟨_, (s.deliverable_le want).1, (s.deliverable_le want).2, rfl, rfl⟩
  | some f =>
    rw [read_of_pendingFault hp] at h
    cases h

theorem size_le_of_read_eq_bytes {s s' : Source} {want : Nat} {chunk : Bytes}
    (h : s.read want = (.bytes chunk, s')) : chunk.size ≤ want := by
  obtain ⟨n, hn, _, rfl, _⟩ := read_eq_bytes h
  simp only [Bytes.slice, Array.size_extract]
  omega

/-- The outcome of gathering after `chunk` has been delivered already. -/
def prepend (chunk : Bytes) (r : Except IoError Bytes × Source) : Except IoError Bytes × Source :=
  (r.1.map (chunk ++ ·), r.2)

theorem prepend_eq_ok {chunk c : Bytes} {r : Except IoError Bytes × Source} {s' : Source}
    (h : prepend chunk r = (.ok c, s')) : ∃ d, r = (.ok d, s') ∧ c = chunk ++ d := by
  obtain ⟨e | d, s₁⟩ := r
  · cases h
  · cases h
    exact ⟨d, rfl, rfl⟩

theorem prepend_eq_error {chunk : Bytes} {r : Except IoError Bytes × Source} {e : IoError}
    {s' : Source} (h : prepend chunk r = (.error e, s')) : r = (.error e, s') := by
  obtain ⟨e' | d, s₁⟩ := r
  · cases h
    rfl
  · cases h

/-- Reads until `want` bytes are there or the content ends, trying again after interruptions.  If
a read fails, the bytes delivered before it are lost. -/
def gather (s : Source) (want : Nat) : Except IoError Bytes × Source :=
  if want = 0 then (.ok #[], s)
  else
    match _h : s.read want with
    | (.bytes chunk, s') =>
      if _hc : chunk.size = 0 then (.ok #[], s')
      else prepend chunk (s'.gather (want - chunk.size))
    | (.fault .interrupted, s') => s'.gather want
    | (.fault (.failed cause), s') => (.error cause, s')
termination_by want + s.faults.length
decreasing_by
  · obtain ⟨n, _, _, _, hs⟩ := read_eq_bytes _h
    have := size_le_of_read_eq_bytes _h
    subst hs
    simp only
    omega
  · have := length_faults_of_read_eq_fault _h
    omega

/-- Gathering delivers the next bytes of the content and moves the position behind them. -/
theorem gather_eq_ok {s s' : Source} {want : Nat} {c : Bytes}
    (h : s.gather want = (.ok c, s')) :
    c.size ≤ want ∧ c = s.content.slice s.position c.size ∧ s'.content = s.content ∧
      s'.position = s.position + c.size := by
  fun_induction gather s want generalizing c s' with
  | case1 s =>
    cases h
    simp
  | case2 s want hw chunk s₁ hr hc =>
    cases h
    obtain ⟨n, hn, hn', rfl, rfl⟩ := read_eq_bytes hr
    rw [Bytes.size_slice hn'] at hc
    subst hc
    simp
  | case3 s want hw chunk s₁ hr hc ih =>
    obtain ⟨d, hd, rfl⟩ := prepend_eq_ok h
    obtain ⟨hle, hslice, hcontent, hposition⟩ := ih hd
    have hchunk := size_le_of_read_eq_bytes hr
    obtain ⟨n, hn, hn', rfl, rfl⟩ := read_eq_bytes hr
    rw [Bytes.size_slice hn'] at hle hchunk
    simp only [Array.size_append, Bytes.size_slice hn'] at hslice hcontent hposition ⊢
    refine ⟨by omega, ?_, hcontent, by omega⟩
    rw [← Bytes.slice_append_slice, ← hslice]
  | case4 s want hw s₁ hr ih =>
    obtain ⟨hle, hslice, hcontent, hposition⟩ := ih h
    have hs := read_eq_fault hr
    rw [hs.1] at hcontent hslice
    rw [hs.2] at hposition hslice
    exact ⟨hle, hslice, hcontent, hposition⟩
  | case5 s want hw cause s₁ hr => cases h

/-- No more is gathered than there is. -/
theorem size_le_sub_of_gather {s s' : Source} {want : Nat} {c : Bytes}
    (h : s.gather want = (.ok c, s')) : c.size ≤ s.content.size - s.position := by
  have hsize := congrArg Array.size (gather_eq_ok h).2.1
  rw [Bytes.slice, Array.size_extract] at hsize
  omega

/-- Gathering never moves back and keeps the content, whatever happens. -/
theorem gather_keeps (s : Source) (want : Nat) :
    (s.gather want).2.content = s.content ∧ s.position ≤ (s.gather want).2.position := by
  fun_induction gather s want with
  | case1 s => exact ⟨rfl, Nat.le_refl _⟩
  | case2 s want hw chunk s₁ hr hc =>
    obtain ⟨n, hn, hn', rfl, rfl⟩ := read_eq_bytes hr
    exact ⟨rfl, Nat.le_add_right ..⟩
  | case3 s want hw chunk s₁ hr hc ih =>
    obtain ⟨n, hn, hn', rfl, rfl⟩ := read_eq_bytes hr
    exact ⟨ih.1, Nat.le_trans (Nat.le_add_right ..) ih.2⟩
  | case4 s want hw s₁ hr ih =>
    have hs := read_eq_fault hr
    rw [hs.1, hs.2] at ih
    exact ih
  | case5 s want hw cause s₁ hr =>
    have hs := read_eq_fault hr
    exact ⟨hs.1, Nat.le_of_eq hs.2.symm⟩

theorem keeps_of_gather {s s' : Source} {want : Nat} {result : Except IoError Bytes}
    (h : s.gather want = (result, s')) :
    s'.content = s.content ∧ s.position ≤ s'.position := by
  have hkeeps := s.gather_keeps want
  rwa [h] at hkeeps

end Source

end EventPackets
