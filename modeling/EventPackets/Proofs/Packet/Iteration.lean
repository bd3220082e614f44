import Mathlib.Data.List.Perm.Subperm
import EventPackets.Proofs.Csv.Rows
import EventPackets.Proofs.Csv.Text
import EventPackets.Proofs.Packet.Counters

/-!
# What a consumer visits

A consumer visits as many slots, counted from the first, as the event number says.  For a packet
that has been filled from the first slot on these are the slots that became valid.  Slots that are
skipped, or that become valid more than once, make a difference, and this file says which.

## Main definitions

* `Packet.Gapless` : slots that have been filled from the first one on.
* `Packet.Produced` : what a producer makes of an allocated packet.

## Main results

* `Packet.slots_of_validEvents` : the marked slots among the visited ones.
* `Packet.markedSlots_eventCount_eq_iff` : when these are all marked slots.
* `Packet.Produced.marksCounted_iff`, `Packet.Produced.marksCounted_of_gapless` : when the event
  number counts all marks.
* `Packet.visits_performAll` : what a consumer visits after any calls on an allocated packet.
-/

namespace EventPackets.Packet

variable {k : Kind}

/-! ### Slots without a gap -/

section Gapless

variable {slots : List Nat} {i n : Nat}

/-- Every slot before one of these is one of these. -/
def Gapless (slots : List Nat) : Prop :=
  ∀ i j, i < j → j ∈ slots → i ∈ slots

theorem Gapless.lt_length (h : Gapless slots) (hi : i ∈ slots) : i < slots.length := by
  have hsub : List.range (i + 1) ⊆ slots := by
    intro j hj
    rw [List.mem_range] at hj
    by_cases hji : j = i
    · rwa [hji]
    · exact h j i (by omega) hi
  have hle := List.nodup_range.length_le_of_subset hsub
  rw [List.length_range] at hle
  omega

/-- Without repetition they are the first slots. -/
theorem Gapless.mem_iff (h : Gapless slots) (hn : slots.Nodup) : i ∈ slots ↔ i < slots.length := by
  refine ⟨h.lt_length, fun hi => ?_⟩
  -- If `i` were missing, all slots would lie before it, too few for as many as there are.
  by_contra hmem
  have hsub : slots ⊆ List.range i := by
    intro j hj
    rw [List.mem_range]
    by_contra hij
    by_cases hji : j = i
    · exact hmem (hji ▸ hj)
    · exact hmem (h i j (by omega) hj)
  have hle := hn.length_le_of_subset hsub
  rw [List.length_range] at hle
  omega

/-- Slots are not repeated if they only just suffice for the first ones. -/
theorem nodup_of_range_subset (h : List.range slots.length ⊆ slots) : slots.Nodup := by
  have hperm := (List.subperm_of_subset List.nodup_range h).perm_of_length_le
    (Nat.le_of_eq List.length_range.symm)
  exact hperm.nodup_iff.mp List.nodup_range

/-- When slots are the first ones, as many as they are or all that there are. -/
theorem mem_iff_lt_min_iff (hlt : ∀ i ∈ slots, i < n) :
    (∀ i, i < min slots.length n ↔ i ∈ slots) ↔
      Gapless slots ∧ (slots.Nodup ∨ ∀ i, i < n → i ∈ slots) := by
  constructor
  · intro h
    refine ⟨fun i j hij hj => (h i).mp (Nat.lt_trans hij ((h j).mpr hj)), ?_⟩
    by_cases hle : slots.length ≤ n
    · rw [Nat.min_eq_left hle] at h
      exact .inl (nodup_of_range_subset fun i hi => (h i).mp (List.mem_range.mp hi))
    · rw [Nat.min_eq_right (by omega)] at h
      exact .inr fun i hi => (h i).mp hi
  · rintro ⟨hg, hn | hall⟩ i
    · refine ⟨fun hi => (hg.mem_iff hn).mpr (by omega), fun hi => ?_⟩
      have := hg.lt_length hi
      have := hlt i hi
      omega
    · refine ⟨fun hi => hall i (by omega), fun hi => ?_⟩
      have := hg.lt_length hi
      have := hlt i hi
      omega

end Gapless

/-! ### Visited slots -/

theorem slots_of_events (p : Packet k) : p.events.map Event.slot = List.range p.eventCount := by
  rw [events, List.map_map]
  exact List.map_id _

/-- A consumer of the valid events visits the marked slots among the visited ones. -/
theorem slots_of_validEvents (p : Packet k) :
    p.validEvents.map Event.slot = markedSlots k p.bytes p.eventCount := by
  rw [validEvents, events, List.filter_map, List.map_map]
  exact List.map_id _

theorem length_validEvents (p : Packet k) :
    p.validEvents.length = (markedSlots k p.bytes p.eventCount).length := by
  rw [← slots_of_validEvents, List.length_map]

/-- The marked slots among more slots. -/
theorem markedSlots_sublist (k : Kind) (b : Bytes) {m n : Nat} (h : m ≤ n) :
    (markedSlots k b m).Sublist (markedSlots k b n) :=
  (List.range_sublist.mpr h).filter _

theorem nodup_markedSlots (k : Kind) (b : Bytes) (n : Nat) : (markedSlots k b n).Nodup :=
  List.nodup_range.filter _

/-- A consumer of the valid events visits all marked slots if the event number counts them. -/
theorem markedSlots_eventCount_eq_iff {p : Packet k} (hp : p.Consistent) :
    markedSlots k p.bytes p.eventCount = markedSlots k p.bytes p.capacity.toNatClampNeg ↔
      p.MarksCounted := by
  have hnumber : (p.number.toNatClampNeg : Int) = p.number.toInt :=
    Int.toNat_of_nonneg hp.number_nonneg
  constructor
  · intro h i hi hm
    have hmem : i ∈ markedSlots k p.bytes p.capacity.toNatClampNeg :=
      mem_markedSlots.mpr ⟨hi, hm⟩
    rw [← h] at hmem
    have hlt := (mem_markedSlots.mp hmem).1
    rw [eventCount] at hlt
    omega
  · intro h
    have hsub : markedSlots k p.bytes p.capacity.toNatClampNeg ⊆
        markedSlots k p.bytes p.eventCount := by
      intro i hmem
      obtain ⟨hi, hm⟩ := mem_markedSlots.mp hmem
      have hlt := h i hi hm
      have hvisited : i < p.eventCount := by
        rw [eventCount]
        omega
      exact mem_markedSlots.mpr ⟨hvisited, hm⟩
    exact (markedSlots_sublist k p.bytes (Nat.min_le_right ..)).eq_of_length_le
      ((nodup_markedSlots k p.bytes _).length_le_of_subset hsub)

/-- Otherwise it visits fewer events than the valid count says. -/
theorem length_validEvents_eq_iff {p : Packet k} (hp : p.Consistent) :
    (p.validEvents.length : Int) = p.validCount.toInt ↔ p.MarksCounted := by
  rw [hp.validCount_eq, length_validEvents, Int.ofNat_inj, ← markedSlots_eventCount_eq_iff hp]
  exact (markedSlots_sublist k p.bytes (Nat.min_le_right ..)).length_eq

/-! ### Slots that became valid -/

namespace Run

variable {p q : Packet k} {cs : List (Call k)} {rs : List Reply} {i : Nat}

/-- Only slots of the packet become valid. -/
theorem lt_of_mem_validations (h : p.Run cs rs q) (hi : i ∈ Call.validations cs rs) :
    i < p.capacity.toNatClampNeg := by
  induction h with
  | nil => cases hi
  | cons h _ ih =>
    rw [Call.validations_cons, List.mem_append, Option.mem_toList] at hi
    rcases hi with hi | hi
    · exact (h.not_marked_of_validated hi).1
    · have hlt := ih hi
      rwa [h.sameLayout.capacity_eq] at hlt

/-- A mark was there from the start or has been set. -/
theorem mem_validations_of_marked (hp : p.Consistent) (h : p.Run cs rs q)
    (hm : Slot.marked k q.bytes i = true) :
    Slot.marked k p.bytes i = true ∨ i ∈ Call.validations cs rs := by
  induction h with
  | nil => exact .inl hm
  | @cons p q s c cs r rs h _ ih =>
    rw [Call.validations_cons, List.mem_append, Option.mem_toList]
    rcases ih (h.consistent hp) hm with hm | hi
    · rw [h.marked_eq hp] at hm
      split at hm
      next hv => exact .inr (.inl hv)
      next =>
        split at hm
        · cases hm
        · exact .inl hm
    · exact .inr (.inr hi)

end Run

/-! ### What a producer makes -/

/-- The packet is what a producer made of an allocated one, and the slots are the ones that became
valid meanwhile, in order. -/
def Produced (q : Packet k) (slots : List Nat) : Prop :=
  ∃ (capacity : Int32) (source : Int16) (overflow : Int32) (p : Packet k) (cs : List (Call k)),
    (allocate k capacity source overflow).value = .ok p ∧
      q = (Call.performAll cs p).value.2 ∧
      slots = Call.validations cs (Call.performAll cs p).value.1

namespace Produced

variable {q : Packet k} {slots : List Nat} {i : Nat}

/-- A producer starts from a consistent packet without marks and with an event number of zero. -/
theorem exists_run (h : q.Produced slots) :
    ∃ (p : Packet k) (cs : List (Call k)) (rs : List Reply),
      p.Consistent ∧ p.number.toInt = 0 ∧ (∀ i, Slot.marked k p.bytes i = false) ∧
        p.Run cs rs q ∧ slots = Call.validations cs rs := by
  obtain ⟨capacity, source, overflow, p, cs, hp, rfl, rfl⟩ := h
  obtain ⟨hc, rfl⟩ := eq_fresh_of_allocate hp
  have hp := consistent_fresh (k := k) hc source overflow
  refine ⟨_, cs, _, hp, ?_, marked_fresh k capacity source overflow,
    Call.performAll_run hp cs, rfl⟩
  rw [number_fresh]
  rfl

theorem consistent (h : q.Produced slots) : q.Consistent := by
  obtain ⟨p, cs, rs, hp, -, -, hrun, -⟩ := h.exists_run
  exact hrun.consistent hp

theorem toInt_number (h : q.Produced slots) :
    q.number.toInt = min (slots.length : Int) Int32.maxValue.toInt := by
  obtain ⟨p, cs, rs, hp, hzero, -, hrun, rfl⟩ := h.exists_run
  rw [hrun.toInt_number hp, hzero, Int.zero_add]

theorem lt_capacity (h : q.Produced slots) (hi : i ∈ slots) : i < q.capacity.toNatClampNeg := by
  obtain ⟨p, cs, rs, -, -, -, hrun, rfl⟩ := h.exists_run
  rw [hrun.sameLayout.capacity_eq]
  exact hrun.lt_of_mem_validations hi

/-- Only slots that became valid are marked. -/
theorem mem_of_marked (h : q.Produced slots) (hm : Slot.marked k q.bytes i = true) :
    i ∈ slots := by
  obtain ⟨p, cs, rs, hp, -, hnone, hrun, rfl⟩ := h.exists_run
  rcases hrun.mem_validations_of_marked hp hm with h₀ | hi
  · rw [hnone] at h₀
    cases h₀
  · exact hi

/-- As many slots are visited as events became valid, as far as there are slots. -/
theorem eventCount_eq (h : q.Produced slots) :
    q.eventCount = min slots.length q.capacity.toNatClampNeg := by
  have hnumber := h.toInt_number
  have hnat : q.number.toNatClampNeg = q.number.toInt.toNat := rfl
  have hcap : q.capacity.toNatClampNeg = q.capacity.toInt.toNat := rfl
  have hlt := q.capacity.toInt_lt
  rw [Int32.toInt_maxValue] at hnumber
  rw [eventCount]
  omega

/-- All marks are counted if none of them lies behind as many slots as events became valid. -/
theorem marksCounted_iff (h : q.Produced slots) :
    q.MarksCounted ↔
      ∀ i ∈ markedSlots k q.bytes q.capacity.toNatClampNeg, i < slots.length := by
  have hnumber := h.toInt_number
  have hcap : q.capacity.toNatClampNeg = q.capacity.toInt.toNat := rfl
  have hlt := q.capacity.toInt_lt
  rw [Int32.toInt_maxValue] at hnumber
  simp only [MarksCounted, mem_markedSlots, and_imp]
  refine forall_congr' fun i => imp_congr_right fun hi => imp_congr_right fun _ => ?_
  omega

/-- They are if no slot has been skipped. -/
theorem marksCounted_of_gapless (h : q.Produced slots) (hg : Gapless slots) :
    q.MarksCounted := by
  refine h.marksCounted_iff.mpr fun i hi => ?_
  exact hg.lt_length (h.mem_of_marked (mem_markedSlots.mp hi).2)

end Produced

/-- What a consumer visits after any calls on an allocated packet: the first slots, as many as
events became valid.  These are the slots that became valid exactly if no slot was skipped and
none became valid twice, unless all did; the marked ones among them are all marked slots exactly if
no mark lies behind them.  A table gets a row for every visit. -/
theorem visits_performAll {capacity : Int32} {source : Int16} {overflow : Int32} {p : Packet k}
    (h : (allocate k capacity source overflow).value = .ok p) (cs : List (Call k))
    {w : TableWriter k} (hw : w.target.Unlimited) :
    let slots := Call.validations cs (Call.performAll cs p).value.1
    let q := (Call.performAll cs p).value.2
    let n := q.capacity.toNatClampNeg
    q.events.map Event.slot = List.range (min slots.length n) ∧
      ((∀ i, i ∈ q.events.map Event.slot ↔ i ∈ slots) ↔
        Gapless slots ∧ (slots.Nodup ∨ ∀ i, i < n → i ∈ slots)) ∧
      q.validEvents.map Event.slot = markedSlots k q.bytes (min slots.length n) ∧
      (q.validEvents.map Event.slot = markedSlots k q.bytes n ↔
        ∀ i ∈ markedSlots k q.bytes n, i < slots.length) ∧
      ((q.validEvents.length : Int) = q.validCount.toInt ↔
        ∀ i ∈ markedSlots k q.bytes n, i < slots.length) ∧
      (Gapless slots → ∀ i ∈ markedSlots k q.bytes n, i < slots.length) ∧
      ∃ rows w', rows = (if w.selection = .all then q.events else q.validEvents) ∧
        w.writePacket q = (.ok rows.length, w') ∧
        w'.target.accepted = w.target.accepted ++ Bytes.concat (rows.map fun e =>
          (",".intercalate (w.format.rowCells w.selection e) ++ "\n").toUTF8.data) := by
  intro slots q n
  have hq : q.Produced slots := ⟨capacity, source, overflow, p, cs, h, rfl, rfl⟩
  have hcount : q.eventCount = min slots.length n := hq.eventCount_eq
  have hlt : ∀ i ∈ slots, i < n := fun i => hq.lt_capacity
  have hmarks := markedSlots_eventCount_eq_iff hq.consistent
  refine ⟨?_, ?_, ?_, ?_, ?_, fun hg => ?_, ?_⟩
  · rw [slots_of_events, hcount]
  · rw [slots_of_events, hcount, ← mem_iff_lt_min_iff hlt]
    simp only [List.mem_range]
  · rw [slots_of_validEvents, hcount]
  · rw [slots_of_validEvents, hmarks, hq.marksCounted_iff]
  · rw [length_validEvents_eq_iff hq.consistent, hq.marksCounted_iff]
  · exact hq.marksCounted_iff.mp (hq.marksCounted_of_gapless hg)
  · obtain ⟨w', hwrite, hextends⟩ := TableWriter.writePacket_eq_ok hw q
    have hrows : w.selection.events q = if w.selection = .all then q.events else q.validEvents := by
      cases w.selection <;> rfl
    have htext := hextends.accepted_eq
    simp only [TableFormat.eventLine_eq] at htext
    exact ⟨w.selection.events q, w', hrows, hwrite, htext⟩

/-- A packet filled from the first slot on. -/
theorem visits_performAll_gapless :
    let p : Packet .imu9 := fresh .imu9 2 0 0
    let q := (Call.performAll [.slot 0 .validate, .slot 0 .invalidate, .slot 1 .validate] p).value.2
    (allocate .imu9 2 0 0).value = .ok p ∧
      (BufferedSink.empty none).Unlimited ∧
      q.events.map Event.slot = [0, 1] ∧
      q.validEvents.map Event.slot = [1] := by
  intro p q
  have h : (allocate .imu9 2 0 0).value = .ok p := value_allocate (by decide) 0 0
  obtain ⟨hevents, -, -, hvalid, -⟩ := visits_performAll h
    [.slot 0 .validate, .slot 0 .invalidate, .slot 1 .validate]
    (w := .empty .imu9 .valid none) .empty
  exact ⟨h, .empty, hevents.trans (by decide +kernel),
    (hvalid.mpr (by decide +kernel)).trans (by decide +kernel)⟩

/-- A consumer does not visit the only event of a packet whose first slot has been skipped. -/
theorem not_visited_behind_gap :
    let p : Packet .polarity := fresh .polarity 2 0 0
    let run := (Call.performAll [.slot 1 .validate] p).value
    (allocate .polarity 2 0 0).value = .ok p ∧
      run.1 = [.done] ∧
      markedSlots .polarity run.2.bytes 2 = [1] ∧
      run.2.validCount = 1 ∧
      run.2.events.map Event.slot = [0] ∧
      run.2.validEvents.map Event.slot = [] :=
  ⟨value_allocate (by decide) 0 0, by decide +kernel, by decide +kernel, by decide +kernel,
    by decide +kernel, by decide +kernel⟩

end EventPackets.Packet
