import EventPackets.Proofs.Packet.Rejection
import EventPackets.Proofs.Packet.Writes
import EventPackets.Proofs.PacketFile
import EventPackets.Scripting.Script

/-!
# Failing method calls

The methods of a packet object come down to calls on the packet, so an object stays consistent
whatever a script does, and a method call that fails leaves it as it was.  There is one exception.
Setting an event writes the fields of the event before the timestamp, and a negative timestamp is
refused only then: the call fails, but the fields keep their new values.

## Main definitions

* `Scripting.Answer.ofReply` : the answer of a packet as that of a packet object.
* `Scripting.namesAfter` : the packets that have names after a script.

## Main results

* `Scripting.editSlot_edit`, `Scripting.perform_setEvent` : method calls as calls on the packet.
* `Scripting.consistent_namesAfter` : all packet objects of a script are consistent.
* `Scripting.failed_keeps_packet` : what a failing method call leaves behind.
-/

namespace EventPackets

namespace Scripting

variable {k : Kind} {p : Packet k} {index : Int32} {i : Nat}

/-! ### Method calls as calls on the packet -/

/-- The answer of a packet as that of a packet object. -/
def Answer.ofReply (index capacity : Int32) : Reply → Answer
  | .noSlot => .failed (.noSlot index capacity)
  | .done => .done
  | .refused cause => .failed (.packet cause)

theorem editObject_of_value {e : Edit Unit} {result : Except PacketError Unit} {b : Bytes}
    (h : (e.on p.bytes).value = (result, b)) (index : Int32) :
    editObject p e = (.ofReply index p.capacity (.ofResult result), ⟨k, ⟨b⟩⟩) := by
  rw [editObject, h]
  cases result <;> rfl

theorem editSlot_of_isSlot (h : p.IsSlot index i) (e : Nat → Edit Unit) :
    editSlot p index e = editObject p (e i) := by
  rw [editSlot, Packet.value_open?_of_isSlot h]

theorem editSlot_of_outside (h : index.toInt < 0 ∨ p.capacity.toInt ≤ index.toInt)
    (e : Nat → Edit Unit) :
    editSlot p index e = (.failed (.noSlot index p.capacity), ⟨k, p⟩) := by
  rw [editSlot, Packet.value_open?_eq_none h]

/-- An edit of a slot is a call on the packet. -/
theorem editSlot_edit (p : Packet k) (index : Int32) (c : SlotCall k) :
    editSlot p index (fun i => c.edit i) =
      (.ofReply index p.capacity ((Call.slot index c).perform p).value.1,
        ⟨k, ((Call.slot index c).perform p).value.2⟩) := by
  rw [Call.perform, Reported.value_bind]
  rcases p.isSlot_or index with hout | ⟨i, hi⟩
  · rw [editSlot_of_outside hout, Packet.value_open?_eq_none hout]
    rfl
  · rw [editSlot_of_isSlot hi, Packet.value_open?_of_isSlot hi]
    exact editObject_of_value rfl index

/-- Setting an event writes its fields first, and then its timestamp. -/
theorem perform_setEvent (h : p.IsSlot index i) (ws : List k.Write) (t : Int32) :
    (MethodCall.setEvent index ws t).perform p =
      editObject (⟨k.writeAll ws (Slot.start k i) p.bytes⟩ : Packet k)
        (Slot.setTimestamp k i t) := by
  rw [MethodCall.perform, editSlot_of_isSlot h, editObject, editObject, fillSlot,
    Edit.on_bind_of_ok (Kind.on_forM_write ws _ _)]

/-- A negative timestamp is refused when the fields have been written. -/
theorem perform_setEvent_of_neg (h : p.IsSlot index i) (ws : List k.Write) {t : Int32}
    (ht : t.toInt < 0) :
    (MethodCall.setEvent index ws t).perform p =
      (.failed (.packet (.negativeValue "set_timestamp" t.toInt)),
        ⟨k, ⟨k.writeAll ws (Slot.start k i) p.bytes⟩⟩) :=
  (perform_setEvent h ws t).trans
    (editObject_of_value (Slot.on_setTimestamp_of_neg ht) index)

theorem perform_setEvent_of_nonneg (h : p.IsSlot index i) (ws : List k.Write) {t : Int32}
    (ht : 0 ≤ t.toInt) :
    (MethodCall.setEvent index ws t).perform p =
      (.done, ⟨k, ⟨(k.writeAll ws (Slot.start k i) p.bytes).setWord
        (Slot.start k i + k.timestampOffset) t.toUInt32⟩⟩) :=
  (perform_setEvent h ws t).trans
    (editObject_of_value (Slot.on_setTimestamp_of_nonneg ht) index)

/-! ### Objects stay consistent -/

theorem consistent_editSlot (hp : p.Consistent) (index : Int32) (c : SlotCall k) :
    (editSlot p index fun i => c.edit i).2.packet.Consistent := by
  rw [editSlot_edit]
  exact ((Call.slot index c).perform_step hp).consistent hp

/-- A call on the packet that fails as one on the object changes nothing. -/
theorem eq_of_failed_call (hp : p.Consistent) {c : Call k} {cause : CallError}
    (h : Answer.ofReply index p.capacity (c.perform p).value.1 = .failed cause) :
    (c.perform p).value.2 = p := by
  refine (c.perform_step hp).eq_of_ne_done fun hdone => ?_
  rw [hdone] at h
  cases h

theorem editSlot_eq_of_failed (hp : p.Consistent) {c : SlotCall k} {cause : CallError}
    (h : (editSlot p index fun i => c.edit i).1 = .failed cause) :
    (editSlot p index fun i => c.edit i).2 = ⟨k, p⟩ := by
  rw [editSlot_edit] at h ⊢
  dsimp only at h ⊢
  rw [eq_of_failed_call hp h]

theorem MethodCall.consistent_perform (hp : p.Consistent) (c : MethodCall k) :
    (c.perform p).2.packet.Consistent := by
  cases c with
  | setEvent index ws t =>
    rcases p.isSlot_or index with hout | ⟨i, hi⟩
    · rw [perform, editSlot_of_outside hout]
      exact hp
    · have hw : (⟨k.writeAll ws (Slot.start k i) p.bytes⟩ : Packet k).Consistent :=
        Packet.consistent_writeAll hp hi ws
      rcases Int.lt_or_le t.toInt 0 with ht | ht
      · rw [perform_setEvent_of_neg hi ws ht]
        exact hw
      · have hlayout := Packet.SameLayout.of_agreeOutside
          (k.agreeOutside_writeAll ws (Slot.start k i) p.bytes)
        rw [perform_setEvent_of_nonneg hi ws ht]
        exact (Packet.Step.setTimestamp (hi.of_sameLayout hlayout) t ht).consistent hw
  | getEvent index => exact hp
  | validate index => exact consistent_editSlot hp index .validate
  | invalidate index => exact consistent_editSlot hp index .invalidate
  | toBytes => exact hp

theorem consistent_callMethod {p : AnyPacket} (hp : p.packet.Consistent) (method : String)
    (args : Arguments) : (callMethod p method args).2.packet.Consistent := by
  rw [callMethod]
  split
  next c hc => exact c.consistent_perform hp
  next => exact hp

/-- Setting an attribute is a call on the packet, or it fails at once. -/
theorem setAttribute_cases (p : AnyPacket) (name : String) (v : Value) :
    (∃ n, setAttribute p name v =
      (.ofReply 0 p.packet.capacity ((Call.setOverflow n).perform p.packet).value.1,
        ⟨p.kind, ((Call.setOverflow n).perform p.packet).value.2⟩)) ∨
    ∃ cause, setAttribute p name v = (.failed cause, p) := by
  by_cases hname : name = "ts_overflow"
  · rw [setAttribute, if_pos hname]
    cases v.toInt32 with
    | ok n => exact .inl ⟨n, editObject_of_value rfl 0⟩
    | error cause => exact .inr ⟨cause, rfl⟩
  · exact .inr ⟨.noAttribute, by rw [setAttribute, if_neg hname]⟩

theorem consistent_setAttribute {p : AnyPacket} (hp : p.packet.Consistent) (name : String)
    (v : Value) : (setAttribute p name v).2.packet.Consistent := by
  rcases setAttribute_cases p name v with ⟨n, hset⟩ | ⟨cause, hset⟩
  · rw [hset]
    exact ((Call.setOverflow n).perform_step hp).consistent hp
  · rw [hset]
    exact hp

theorem bind_eq_ok {α β : Type} {x : Except CallError α} {f : α → Except CallError β} {b : β}
    (h : (x >>= f) = .ok b) : ∃ a, x = .ok a ∧ f a = .ok b := by
  cases x with
  | ok a => exact ⟨a, rfl, h⟩
  | error e => cases h

theorem eq_ok_of_ofPacketError {α : Type} {x : Except PacketError α} {a : α}
    (h : ofPacketError x = .ok a) : x = .ok a := by
  cases x with
  | ok _ =>
    cases h
    rfl
  | error _ => cases h

theorem consistent_newObject {args : Arguments} {p : AnyPacket} (h : newObject k args = .ok p) :
    p.packet.Consistent := by
  obtain ⟨-, -, h⟩ := bind_eq_ok h
  obtain ⟨capacity, -, h⟩ := bind_eq_ok h
  obtain ⟨source, -, h⟩ := bind_eq_ok h
  obtain ⟨overflow, -, h⟩ := bind_eq_ok h
  obtain ⟨q, hq, h⟩ := bind_eq_ok h
  cases h
  exact (Packet.Initial.allocated _ _ _ _ (eq_ok_of_ofPacketError hq)).consistent

theorem consistent_objectOfBytes {b : Bytes} {p : AnyPacket} (h : objectOfBytes k b = .ok p) :
    p.packet.Consistent := by
  obtain ⟨q, hq, h⟩ := bind_eq_ok h
  cases h
  exact (Packet.Initial.decoded _ _ (eq_ok_of_ofPacketError hq)).consistent

/-- Packets that are read from a file are consistent. -/
theorem consistent_of_readPackets {s : Storage} {path : String} {ps : List AnyPacket}
    (h : s.readPackets path = .ok ps) : ∀ p ∈ ps, p.packet.Consistent := by
  intro p hp
  obtain ⟨data, -, hcollect⟩ := Storage.readPackets_eq_ok_iff.mp h
  exact AnyPacket.consistent_of_ofBytes ((Reader.collect_ofBytes_eq_ok_iff.mp hcollect).1 p hp)

/-! ### Scripts -/

/-- The packets that have names after a script. -/
def namesAfter (names : Names) : List Step → Names
  | [] => names
  | s :: ss => namesAfter (s.perform names).2 ss

/-- Every packet that has a name is consistent. -/
def Names.Consistent (names : Names) : Prop :=
  ∀ name p, (name, p) ∈ names → p.packet.Consistent

namespace Names.Consistent

variable {names : Names}

theorem nil : Names.Consistent [] :=
  fun _ _ hp => nomatch hp

theorem cons (h : Names.Consistent names) (name : String) {p : AnyPacket}
    (hp : p.packet.Consistent) : Names.Consistent ((name, p) :: names) := by
  intro name' q hq
  rcases List.mem_cons.mp hq with hq | hq
  · cases hq
    exact hp
  · exact h name' q hq

theorem bind (h : Names.Consistent names) (name : String) {x : Except CallError AnyPacket}
    (hx : ∀ p, x = .ok p → p.packet.Consistent) :
    Names.Consistent (Scripting.bind names name x).2 := by
  cases x with
  | ok p => exact h.cons name (hx p rfl)
  | error e => exact h

theorem bindAll (h : Names.Consistent names) (stem : String) (i : Nat) {ps : List AnyPacket}
    (hps : ∀ p ∈ ps, p.packet.Consistent) :
    Names.Consistent (Scripting.bindAll names stem i ps) := by
  induction ps generalizing names i with
  | nil => exact h
  | cons p ps ih =>
    rw [List.forall_mem_cons] at hps
    exact ih (h.cons _ hps.1) (i + 1) hps.2

theorem of_lookup (h : Names.Consistent names) {name : String} {p : AnyPacket}
    (hp : names.lookup name = some p) : p.packet.Consistent := by
  obtain ⟨before, after, rfl, -⟩ := List.lookup_eq_some_iff.mp hp
  exact h name p (List.mem_append_right _ List.mem_cons_self)

theorem update (h : Names.Consistent names) (name : String)
    {use : AnyPacket → Answer × AnyPacket}
    (huse : ∀ p, p.packet.Consistent → (use p).2.packet.Consistent) :
    Names.Consistent (Scripting.update names name use).2 := by
  rw [Scripting.update]
  split
  next p hp => exact h.cons name (huse p (h.of_lookup hp))
  next => exact h

/-- Whatever a step of a script does, it leaves consistent packets behind. -/
theorem perform (h : Names.Consistent names) (s : Step) :
    Names.Consistent (s.perform names).2 := by
  cases s with
  | new name k args => exact h.bind name fun p => consistent_newObject
  | ofBytes name k b => exact h.bind name fun p => consistent_objectOfBytes
  | readPackets stem s path =>
    rw [Step.perform]
    split
    next ps hps => exact h.bindAll stem 0 (consistent_of_readPackets hps)
    next => exact h
  | setLogLevel v =>
    rw [Step.perform]
    split
    next => exact h
    next => split <;> exact h
  | call name method args => exact h.update name fun p hp => consistent_callMethod hp method args
  | getAttribute name field => exact h.update name fun p hp => hp
  | setAttribute name field v =>
    exact h.update name fun p hp => consistent_setAttribute hp field v
  | length name => exact h.update name fun p hp => hp
  | describe name => exact h.update name fun p hp => hp

end Names.Consistent

/-- All packets that have names after a script are consistent. -/
theorem consistent_namesAfter {names : Names} (h : Names.Consistent names) (ss : List Step) :
    Names.Consistent (namesAfter names ss) := by
  induction ss generalizing names with
  | nil => exact h
  | cons s ss ih => exact ih (h.perform s)

/-! ### Failures -/

/-- A method call that fails changes nothing, unless it sets an event to a negative timestamp and
the fields to other values than they have. -/
theorem MethodCall.eq_iff_of_failed (hp : p.Consistent) {c : MethodCall k} {cause : CallError}
    (h : (c.perform p).1 = .failed cause) :
    (c.perform p).2 = ⟨k, p⟩ ↔
      ∀ index ws t i, c = .setEvent index ws t → p.IsSlot index i → t.toInt < 0 →
        k.writeAll ws (Slot.start k i) p.bytes = p.bytes := by
  cases c with
  | setEvent index ws t =>
    -- only here are there bytes written before the failure
    constructor
    · rintro hkept _ _ _ i ⟨⟩ hi ht
      rw [perform_setEvent_of_neg hi ws ht] at hkept
      exact congrArg (fun q : AnyPacket => q.packet.bytes) hkept
    · intro hsame
      rcases p.isSlot_or index with hout | ⟨i, hi⟩
      · rw [perform, editSlot_of_outside hout]
      · rcases Int.lt_or_le t.toInt 0 with ht | ht
        · rw [perform_setEvent_of_neg hi ws ht, hsame index ws t i rfl hi ht]
        · rw [perform_setEvent_of_nonneg hi ws ht] at h
          cases h
  | getEvent index => exact ⟨fun _ _ _ _ _ hc => (nomatch hc), fun _ => rfl⟩
  | validate index =>
    exact ⟨fun _ _ _ _ _ hc => (nomatch hc), fun _ => editSlot_eq_of_failed hp (c := .validate) h⟩
  | invalidate index =>
    exact ⟨fun _ _ _ _ _ hc => (nomatch hc),
      fun _ => editSlot_eq_of_failed hp (c := .invalidate) h⟩
  | toBytes => exact ⟨fun _ _ _ _ _ hc => (nomatch hc), fun _ => rfl⟩

theorem setAttribute_eq_of_failed {p : AnyPacket} (hp : p.packet.Consistent) {name : String}
    {v : Value} {cause : CallError} (h : (setAttribute p name v).1 = .failed cause) :
    (setAttribute p name v).2 = p := by
  rcases setAttribute_cases p name v with ⟨n, hset⟩ | ⟨cause, hset⟩
  · rw [hset] at h ⊢
    dsimp only at h ⊢
    rw [eq_of_failed_call hp h]
  · rw [hset]

/-- A method call that fails, on a packet that a script has made and used in any way, leaves the
packet as it was, and so does setting an attribute.  The only exception is setting an event to a
negative timestamp: that always fails, and then the fields of the event, but nothing outside its
record, are already changed. -/
theorem failed_keeps_packet (ss : List Step) {name : String} {p : AnyPacket}
    (hp : (namesAfter [] ss).lookup name = some p) :
    (∀ method args cause, (callMethod p method args).1 = .failed cause →
      ((callMethod p method args).2 = p ↔
        ∀ index ws t i, MethodCall.ofArguments p.kind method args = .ok (.setEvent index ws t) →
          p.packet.IsSlot index i → t.toInt < 0 →
          p.kind.writeAll ws (Slot.start p.kind i) p.packet.bytes = p.packet.bytes)) ∧
    (∀ method args index ws t i,
      MethodCall.ofArguments p.kind method args = .ok (.setEvent index ws t) →
      p.packet.IsSlot index i → t.toInt < 0 →
      callMethod p method args = (.failed (.packet (.negativeValue "set_timestamp" t.toInt)),
        ⟨p.kind, ⟨p.kind.writeAll ws (Slot.start p.kind i) p.packet.bytes⟩⟩) ∧
      Bytes.AgreeOutside (Slot.start p.kind i) p.kind.recordSize p.packet.bytes
        (p.kind.writeAll ws (Slot.start p.kind i) p.packet.bytes)) ∧
    ∀ field v cause, (setAttribute p field v).1 = .failed cause →
      (setAttribute p field v).2 = p := by
  have hcons : p.packet.Consistent :=
    Names.Consistent.of_lookup (consistent_namesAfter Names.Consistent.nil ss) hp
  refine ⟨fun method args cause => ?_, fun method args index ws t i hcall hi ht => ⟨?_, ?_⟩,
    fun field v cause => setAttribute_eq_of_failed hcons⟩
  · cases hcall : MethodCall.ofArguments p.kind method args with
    | error e =>
      rw [callMethod, hcall]
      exact fun _ => ⟨fun _ _ _ _ _ hset => (nomatch hset), fun _ => rfl⟩
    | ok c =>
      rw [callMethod, hcall]
      intro h
      simp only [Except.ok.injEq]
      exact c.eq_iff_of_failed hcons h
  · rw [callMethod, hcall]
    exact perform_setEvent_of_neg hi ws ht
  · exact p.kind.agreeOutside_writeAll ws _ _

/-- Setting the first event of a new packet to a negative timestamp fails, but the event keeps its
new fields. -/
theorem failed_keeps_packet_negative_timestamp :
    let p : AnyPacket := ⟨.polarity, .fresh .polarity 1 0 0⟩
    let args : Arguments := [("index", .int 0), ("x", .int 1), ("y", .int 2),
      ("polarity", .bool true), ("timestamp", .int (-1))]
    let ws : List Kind.polarity.Write := [.x 1, .y 2, .polarity true]
    (namesAfter [] [.new "p" .polarity [("capacity", .int 1)]]).lookup "p" = some p ∧
      callMethod p "set_event" args = (.failed (.packet (.negativeValue "set_timestamp" (-1))),
        ⟨.polarity, ⟨Kind.writeAll .polarity ws 28 p.packet.bytes⟩⟩) ∧
      Bytes.AgreeOutside 28 8 p.packet.bytes (Kind.writeAll .polarity ws 28 p.packet.bytes) := by
  intro p args ws
  have hp : (namesAfter [] [.new "p" .polarity [("capacity", .int 1)]]).lookup "p" = some p := by
    decide +kernel
  have hcall : MethodCall.ofArguments p.kind "set_event" args = .ok (.setEvent 0 ws (-1)) :=
    rfl
  have hslot : p.packet.IsSlot 0 0 := ⟨by decide, by decide +kernel⟩
  exact ⟨hp, (failed_keeps_packet _ hp).2.1 _ _ 0 ws (-1) 0 hcall hslot (by decide)⟩

/-- A failing method call need not leave a packet as it was: here it moves an event from the origin
to another address. -/
theorem not_kept_by_refused_timestamp :
    let p : AnyPacket := ⟨.polarity, .fresh .polarity 1 0 0⟩
    let args : Arguments := [("index", .int 0), ("x", .int 1), ("y", .int 2),
      ("polarity", .bool true), ("timestamp", .int (-1))]
    (namesAfter [] [.new "p" .polarity [("capacity", .int 1)]]).lookup "p" = some p ∧
      (callMethod p "set_event" args).1 =
        .failed (.packet (.negativeValue "set_timestamp" (-1))) ∧
      (callMethod p "set_event" args).2.packet.bytes ≠ p.packet.bytes := by
  intro p args
  have hslot : p.packet.IsSlot 0 0 := ⟨by decide, by decide +kernel⟩
  have hargs : MethodCall.ofArguments p.kind "set_event" args =
      .ok (.setEvent 0 [PolarityWrite.x 1, .y 2, .polarity true] (-1)) := rfl
  have hcall := perform_setEvent_of_neg hslot [PolarityWrite.x 1, .y 2, .polarity true]
    (show (-1 : Int32).toInt < 0 by decide)
  rw [callMethod, hargs]
  dsimp only
  rw [hcall]
  exact ⟨by decide +kernel, rfl, by decide +kernel⟩

end Scripting

end EventPackets
