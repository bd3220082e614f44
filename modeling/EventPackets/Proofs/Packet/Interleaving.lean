import EventPackets.Proofs.Packet.Identity

/-!
# Calls in another order

All slots share the counters of the header, but calls that concern different slots, or different
values of the header, can change places: each answers as before, and the packet is the same in the
end.  So if several producers share a packet, each with slots of its own, only the order in which
each of them makes its calls matters.

## Main definitions

* `Call.target` : what a call concerns.
* `Call.Interleaved` : two orders of the same calls.
* `Call.answersFor` : the calls that concern something, with their replies.

## Main results

* `Packet.Step.commute` : two calls that concern different things change places.
* `Packet.Run.interleaved` : a run in another order.
* `Packet.Initial.performAll_interleaved` : the order does not matter.
-/

namespace EventPackets

variable {k : Kind}

/-! ### Targets -/

namespace Call

/-- What a call can concern. -/
inductive Target
  | slot (index : Int32)
  | source
  | overflow
  deriving DecidableEq

/-- What a call concerns. -/
def target : Call k → Target
  | slot index _ => .slot index
  | setSource _ => .source
  | setOverflow _ => .overflow

variable {c d : Call k} (h : c.target ≠ d.target)

include h

theorem sourceAfter_comm (v : Int16) :
    d.sourceAfter (c.sourceAfter v) = c.sourceAfter (d.sourceAfter v) := by
  cases c <;> cases d <;> first | rfl | exact absurd rfl h

theorem overflowAfter_comm (v : Int32) :
    d.overflowAfter (c.overflowAfter v) = c.overflowAfter (d.overflowAfter v) := by
  cases c <;> cases d <;> first | rfl | exact absurd rfl h

end Call

namespace SlotValue

variable {i : Nat} {s : SlotValue k} {c d : Call k}

/-- A call that concerns something else leaves a slot alone. -/
theorem after_eq_self {index : Int32} (hi : index.toInt = i) (h : c.target ≠ .slot index) :
    s.after i c = s := by
  cases c with
  | slot index' c =>
    have hne : index'.toInt ≠ i := fun he =>
      h (congrArg Call.Target.slot (Int32.toInt_inj.mp (he.trans hi.symm)))
    rw [after, if_neg hne]
  | setSource v => rfl
  | setOverflow v => rfl

theorem after_comm (h : c.target ≠ d.target) :
    (s.after i c).after i d = (s.after i d).after i c := by
  cases c with
  | slot index c =>
    by_cases hi : index.toInt = i
    · rw [after_eq_self hi h.symm, after_eq_self hi h.symm]
    · simp only [after, if_neg hi]
  | setSource v => rfl
  | setOverflow v => rfl

end SlotValue

/-! ### Calls on records -/

namespace Records

variable {r : Records k} {c d : Call k}

/-- What a call on a slot answers depends on the slot only. -/
theorem reply_performSlot (r r' : Records k) (i : Nat) (s : SlotValue k) (c : SlotCall k) :
    (r.performSlot i s c).1 = (r'.performSlot i s c).1 := by
  cases c <;> simp only [performSlot] <;> (try split) <;> rfl

/-- A call answers the same after a call that concerns something else. -/
theorem reply_perform_perform (r : Records k) (h : c.target ≠ d.target) :
    ((r.perform c).2.perform d).1 = (r.perform d).1 := by
  cases d with
  | slot index d =>
    have hslot (hi : 0 ≤ index.toInt) :
        (r.perform c).2.slots[index.toInt.toNat]? = r.slots[index.toInt.toNat]? := by
      have hself (s : SlotValue k) : s.after index.toInt.toNat c = s :=
        SlotValue.after_eq_self (Int.toNat_of_nonneg hi).symm h
      rw [getElem?_slots_perform, funext hself, Option.map_id']
    generalize (r.perform c).2 = r' at hslot ⊢
    simp only [perform]
    split
    next => rfl
    next hi =>
      rw [hslot (Int.not_lt.mp hi)]
      split
      next => exact reply_performSlot ..
      next => rfl
  | setSource v =>
    simp only [perform]
    split <;> rfl
  | setOverflow v =>
    simp only [perform]
    split <;> rfl

/-- The order of calls that concern different things matters to none of these; of the counters
that is true of packets only. -/
theorem perform_comm (r : Records k) (h : c.target ≠ d.target) :
    ((r.perform c).2.perform d).2.source = ((r.perform d).2.perform c).2.source ∧
      ((r.perform c).2.perform d).2.overflow = ((r.perform d).2.perform c).2.overflow ∧
      ((r.perform c).2.perform d).2.slots = ((r.perform d).2.perform c).2.slots := by
  simp only [source_perform, overflow_perform]
  refine ⟨Call.sourceAfter_comm h _, Call.overflowAfter_comm h _, List.ext_getElem? fun i => ?_⟩
  simp only [getElem?_slots_perform, Option.map_map]
  exact congrArg (Option.map · r.slots[i]?) (funext fun s => SlotValue.after_comm h)

end Records

/-! ### Orders of calls -/

/-- An element can be moved over others that a filter does not keep together with it. -/
theorem filter_move {α : Type} {f : α → Bool} {a : α} {xs ys : List α}
    (h : ∀ x ∈ xs, f a = true → f x = false) :
    (xs ++ a :: ys).filter f = (a :: (xs ++ ys)).filter f := by
  rw [List.filter_append]
  by_cases ha : f a = true
  · have hnil : xs.filter f = [] :=
      List.filter_eq_nil_iff.mpr fun x hx => Bool.eq_false_iff.mp (h x hx ha)
    rw [List.filter_cons_of_pos ha, List.filter_cons_of_pos ha, List.filter_append, hnil]
    rfl
  · rw [List.filter_cons_of_neg ha, List.filter_cons_of_neg ha, List.filter_append]

namespace Call

/-- The same calls in another order: those that concern the same thing are in the same order. -/
def Interleaved (cs ds : List (Call k)) : Prop :=
  ∀ t : Target, cs.filter (·.target = t) = ds.filter (·.target = t)

/-- The calls that concern `t`, with their replies. -/
def answersFor (t : Target) (cs : List (Call k)) (rs : List Reply) : List (Call k × Reply) :=
  (cs.zip rs).filter (·.1.target = t)

variable {c : Call k} {cs ds : List (Call k)}

theorem Interleaved.eq_nil (h : Interleaved [] ds) : ds = [] := by
  cases ds with
  | nil => rfl
  | cons d ds =>
    have hd := h d.target
    rw [List.filter_cons_of_pos (by simp)] at hd
    cases hd

/-- The call that comes first in one order is in the other one preceded by calls that concern other
things only. -/
theorem Interleaved.exists_split (h : Interleaved (c :: cs) ds) :
    ∃ ds₁ ds₂, ds = ds₁ ++ c :: ds₂ ∧ (∀ d ∈ ds₁, c.target ≠ d.target) ∧
      Interleaved cs (ds₁ ++ ds₂) := by
  have hc := h c.target
  rw [List.filter_cons_of_pos (by simp), eq_comm, List.filter_eq_cons_iff] at hc
  obtain ⟨ds₁, ds₂, rfl, hne, -, -⟩ := hc
  replace hne : ∀ d ∈ ds₁, c.target ≠ d.target := fun d hd he =>
    hne d hd (decide_eq_true he.symm)
  refine ⟨ds₁, ds₂, rfl, hne, fun t => ?_⟩
  have ht := h t
  rw [filter_move fun d hd he => ?_, List.filter_cons, List.filter_cons] at ht
  · split at ht
    · exact (List.cons.inj ht).2
    · exact ht
  · exact decide_eq_false fun hdt => hne d hd ((of_decide_eq_true he).trans hdt.symm)

/-- The replies when a call is made before others, or after those that concern other things. -/
theorem answersFor_move {ds₁ ds₂ : List (Call k)} {rs₁ rs₂ : List Reply} (r : Reply)
    (hlen : rs₁.length = ds₁.length) (hne : ∀ d ∈ ds₁, c.target ≠ d.target) (t : Target) :
    answersFor t (ds₁ ++ c :: ds₂) (rs₁ ++ r :: rs₂) =
      answersFor t (c :: (ds₁ ++ ds₂)) (r :: (rs₁ ++ rs₂)) := by
  rw [answersFor, answersFor, List.zip_cons_cons, List.zip_append hlen.symm, List.zip_cons_cons,
    List.zip_append hlen.symm]
  exact filter_move fun x hx he => decide_eq_false fun hxt =>
    hne x.1 (List.of_mem_zip hx).1 ((of_decide_eq_true he).trans hxt.symm)

end Call

namespace Packet

variable {p q t : Packet k} {c d : Call k} {r s : Reply}

/-! ### Two calls -/

/-- Two calls that concern different things change places: both answer as before, and the packet
is the same afterwards. -/
theorem Step.commute (hp : p.Consistent) (hc : p.Step c r q) (hd : q.Step d s t)
    (h : c.target ≠ d.target) : ∃ q', p.Step d s q' ∧ q'.Step c r t := by
  -- What the two calls do the other way round.
  obtain ⟨s', q', hd'⟩ : ∃ s' q', p.Step d s' q' := ⟨_, _, d.perform_step hp⟩
  have hq := hc.consistent hp
  have hq' := hd'.consistent hp
  obtain ⟨r', t', hc'⟩ : ∃ r' t', q'.Step c r' t' := ⟨_, _, c.perform_step hq'⟩
  have hcr := hc.perform_records hp
  have hdr := hd.perform_records hq
  have hdr' := hd'.perform_records hp
  have hcr' := hc'.perform_records hq'
  obtain rfl : s = s' := by
    have hreply := p.records.reply_perform_perform h
    simpa only [hcr, hdr, hdr'] using hreply
  obtain rfl : r' = r := by
    have hreply := p.records.reply_perform_perform h.symm
    simpa only [hcr, hdr', hcr'] using hreply
  obtain ⟨hsource, hoverflow, hslots⟩ := p.records.perform_comm h
  simp only [hcr, hdr, hdr', hcr'] at hsource hoverflow hslots
  have hnumber : t.records.number = t'.records.number := by
    rw [number_records, number_records, hd.toInt_number hq, hc.toInt_number hp,
      hc'.toInt_number hq', hd'.toInt_number hp, Int32.toInt_maxValue]
    omega
  have hcount : t.records.validCount = t'.records.validCount := by
    rw [validCount_records, validCount_records, hd.toInt_validCount hq, hc.toInt_validCount hp,
      hc'.toInt_validCount hq', hd'.toInt_validCount hp]
    omega
  have hrecords : t.records = t'.records :=
    Records.ext hsource hoverflow hnumber hcount hslots
  have hspare (i : Nat) : k.spareBits t.bytes (Slot.start k i) =
      k.spareBits t'.bytes (Slot.start k i) := by
    rw [hd.spareBits_eq hq, hc.spareBits_eq hp, hc'.spareBits_eq hq', hd'.spareBits_eq hp]
  obtain rfl : t = t' :=
    eq_of_records_eq (hc'.consistent hq') (hd.consistent hq) hrecords hspare
  exact ⟨q', hd', hc'⟩

/-! ### Any number of calls -/

namespace Run

variable {cs ds es : List (Call k)} {rs rs' : List Reply}

theorem length_replies (h : p.Run cs rs q) : rs.length = cs.length := by
  induction h with
  | nil p => rfl
  | cons _ _ ih => exact congrArg (· + 1) ih

/-- The first call of a run can be made later, after calls that concern other things. -/
theorem move (hp : p.Consistent) (hc : p.Step c r q) (h : q.Run (ds ++ es) rs t)
    (hne : ∀ d ∈ ds, c.target ≠ d.target) :
    ∃ rs₁ rs₂, rs = rs₁ ++ rs₂ ∧ rs₁.length = ds.length ∧
      p.Run (ds ++ c :: es) (rs₁ ++ r :: rs₂) t := by
  induction ds generalizing p q rs with
  | nil => exact ⟨[], rs, rfl, rfl, .cons hc h⟩
  | cons d ds ih =>
    rw [List.forall_mem_cons] at hne
    cases h with
    | cons hd hs =>
      obtain ⟨q', hd', hc'⟩ := hc.commute hp hd hne.1
      obtain ⟨rs₁, rs₂, rfl, hlen, hrun⟩ := ih (hd'.consistent hp) hc' hs hne.2
      exact ⟨_ :: rs₁, rs₂, rfl, congrArg (· + 1) hlen, .cons hd' hrun⟩

/-- A run with its calls in another order: every call answers as before, and the packet is the same
in the end. -/
theorem interleaved (hp : p.Consistent) (h : p.Run cs rs q) (hds : Call.Interleaved cs ds) :
    ∃ rs', p.Run ds rs' q ∧ ∀ t, Call.answersFor t ds rs' = Call.answersFor t cs rs := by
  induction h generalizing ds with
  | nil p =>
    rw [hds.eq_nil]
    exact ⟨[], .nil p, fun _ => rfl⟩
  | @cons p q s c cs r rs hc _ ih =>
    obtain ⟨ds₁, ds₂, rfl, hne, hrest⟩ := hds.exists_split
    obtain ⟨rs', hrun, hanswers⟩ := ih (hc.consistent hp) hrest
    obtain ⟨rs₁, rs₂, rfl, hlen, hrun'⟩ := hrun.move hp hc hne
    refine ⟨_, hrun', fun t => ?_⟩
    have ht := hanswers t
    rw [Call.answersFor_move r hlen hne]
    simp only [Call.answersFor, List.zip_cons_cons, List.filter_cons] at ht ⊢
    rw [ht]

end Run

/-- The order in which calls are made matters only among those that concern the same slot, the
source, or the overflow counter.  Whatever has been done to a packet before, two orders of the same
calls leave the same bytes, and each call answers the same in both. -/
theorem Initial.performAll_interleaved (hp : p.Initial) (before cs ds : List (Call k))
    (h : Call.Interleaved cs ds) :
    let q := (Call.performAll before p).value.2
    let one := (Call.performAll cs q).value
    let other := (Call.performAll ds q).value
    one.2.bytes = other.2.bytes ∧
      one.1.length = cs.length ∧ other.1.length = ds.length ∧
      ∀ t, Call.answersFor t cs one.1 = Call.answersFor t ds other.1 := by
  intro q one other
  have hq : q.Consistent := (Call.performAll_run hp.consistent before).consistent hp.consistent
  have hone : q.Run cs one.1 one.2 := Call.performAll_run hq cs
  have hother : q.Run ds other.1 other.2 := Call.performAll_run hq ds
  obtain ⟨rs, hrun, hanswers⟩ := hone.interleaved hq h
  obtain ⟨hreplies, hpacket⟩ := hrun.unique hq hother
  refine ⟨congrArg Packet.bytes hpacket, hone.length_replies, hother.length_replies, fun t => ?_⟩
  rw [← hanswers t, hreplies]

/-- Two producers, each with a slot of its own, share a packet whose event number is at its limit.
A call of one of them is refused, and so is a call that concerns the source. -/
theorem performAll_interleaved_two_producers :
    let p : Packet .polarity :=
      ⟨Header.put .number Int32.maxValue (fresh .polarity 2 0 0).bytes⟩
    let q := (Call.performAll [.setOverflow 1] p).value.2
    let cs : List (Call .polarity) :=
      [.slot 0 (.write (.x 5)), .slot 0 .validate, .slot 0 .validate, .setSource (-1),
        .slot 1 .validate, .slot 1 .invalidate]
    let ds : List (Call .polarity) :=
      [.slot 1 .validate, .slot 0 (.write (.x 5)), .setSource (-1), .slot 1 .invalidate,
        .slot 0 .validate, .slot 0 .validate]
    p.Initial ∧ Call.Interleaved cs ds ∧
      (Call.performAll cs q).value.2.bytes = (Call.performAll ds q).value.2.bytes ∧
      Call.answersFor (.slot 0) cs (Call.performAll cs q).value.1 =
        Call.answersFor (.slot 0) ds (Call.performAll ds q).value.1 ∧
      (Call.performAll cs q).value.1 =
        [.done, .done, .refused .alreadyValid, .refused (.negativeValue "set_event_source" (-1)),
          .done, .done] := by
  intro p q cs ds
  have hp : p.Initial :=
    .decoded p.bytes p (ofBytes_eq_ok_iff.mpr ⟨rfl, by decide +kernel⟩)
  have h : Call.Interleaved cs ds := by
    intro t
    cases t with
    | source => rfl
    | overflow => rfl
    | slot index =>
      by_cases h0 : 0 = index
      · subst h0
        rfl
      by_cases h1 : 1 = index
      · subst h1
        rfl
      simp [cs, ds, Call.target, h0, h1]
  have hreplies : (Call.performAll cs q).value.1 =
      [.done, .done, .refused .alreadyValid, .refused (.negativeValue "set_event_source" (-1)),
        .done, .done] := by decide +kernel
  have hall := hp.performAll_interleaved [.setOverflow 1] cs ds h
  clear_value p cs ds
  obtain ⟨hbytes, -, -, hanswers⟩ := hall
  exact ⟨hp, h, hbytes, hanswers _, hreplies⟩

end Packet

end EventPackets
