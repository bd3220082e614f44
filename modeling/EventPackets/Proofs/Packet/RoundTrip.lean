import EventPackets.Proofs.Packet.Iteration
import EventPackets.Proofs.PacketFile

/-!
# From a producer to a consumer

What a producer makes of an allocated packet is accepted by the decoders, and is read back from a
file, exactly if every marked slot lies below the event number.  That is so whenever no slot has
been skipped.

## Main results

* `produced_round_trip` : from a producer to a consumer, through a file or not.
-/

namespace EventPackets

/-- Every positive capacity can be allocated.  What a producer makes of the packet is decoded from
its own bytes exactly if all marks are counted, that is, if none of them lies behind as many slots
as events became valid, which is so if no slot was skipped; otherwise the decoders refuse it for a
mark that is there and that the event number does not reach.  Packets are read back from a file they
were written into exactly if all marks of all of them are counted. -/
theorem produced_round_trip :
    (∀ (k : Kind) (capacity : Int32) (source : Int16) (overflow : Int32), 0 < capacity.toInt →
        ∃ p, (Packet.allocate k capacity source overflow).value = .ok p) ∧
      (∀ (k : Kind) (q : Packet k) (slots : List Nat), q.Produced slots →
        (Packet.ofBytes k q.bytes = .ok q ↔ q.MarksCounted) ∧
          (AnyPacket.ofBytes q.bytes = .ok ⟨k, q⟩ ↔ q.MarksCounted) ∧
          (¬ q.MarksCounted → ∃ i, i < q.capacity.toNatClampNeg ∧
            Slot.marked k q.bytes i = true ∧ q.number.toInt ≤ i ∧
            Packet.ofBytes k q.bytes =
                .error (.invalidLayout (.markBeyondNumber i q.number)) ∧
              AnyPacket.ofBytes q.bytes =
                .error (.invalidLayout (.markBeyondNumber i q.number))) ∧
          (q.MarksCounted ↔
            ∀ i ∈ Packet.markedSlots k q.bytes q.capacity.toNatClampNeg, i < slots.length) ∧
          (Packet.Gapless slots → q.MarksCounted)) ∧
      ∀ ps : List AnyPacket, (∀ p ∈ ps, ∃ slots, p.packet.Produced slots) →
        ∀ (s : Storage) (path : String) (place : Place) (s₁ : Storage),
          s.create path = .ok (place, s₁) →
            (s.writePackets path ps).1 = .ok () ∧
              ((s.writePackets path ps).2.readPackets path = .ok ps ↔
                ∀ p ∈ ps, p.packet.MarksCounted) := by
  refine ⟨fun k capacity source overflow hc => ⟨_, Packet.value_allocate hc source overflow⟩,
    fun k q slots hq => ?_, fun ps hps s path place s₁ hcreate => ⟨?_, ?_⟩⟩
  · exact ⟨hq.consistent.ofBytes_eq_ok_iff, hq.consistent.any_ofBytes_eq_ok_iff,
      hq.consistent.ofBytes_eq_error, hq.marksCounted_iff, hq.marksCounted_of_gapless⟩
  · rw [Storage.writePackets_of_create hcreate]
  · rw [Storage.readPackets_writePackets_iff hcreate]
    refine forall₂_congr fun p hp => ?_
    obtain ⟨slots, hq⟩ := hps p hp
    exact hq.consistent.any_ofBytes_eq_ok_iff

/-- A packet of each kind, one of them with a slot that became valid twice. -/
theorem produced_round_trip_two_kinds :
    let p : Packet .polarity :=
      (Call.performAll [.slot 0 .validate, .slot 0 .invalidate, .slot 0 .validate]
        (Packet.fresh .polarity 2 7 0)).value.2
    let q : Packet .imu9 :=
      (Call.performAll [.slot 0 .validate, .setOverflow 3] (Packet.fresh .imu9 1 0 0)).value.2
    let s := Storage.ofFiles ["data"] []
    (∃ s₁, s.create "out" = .ok (["data", "out"], s₁)) ∧
      AnyPacket.ofBytes p.bytes = .ok ⟨.polarity, p⟩ ∧
      (s.writePackets "out" [⟨.polarity, p⟩, ⟨.imu9, q⟩]).2.readPackets "out" =
        .ok [⟨.polarity, p⟩, ⟨.imu9, q⟩] := by
  intro p q s
  have hp : p.Produced _ := ⟨2, 7, 0, _, _, Packet.value_allocate (by decide) 7 0, rfl, rfl⟩
  have hq : q.Produced _ := ⟨1, 0, 0, _, _, Packet.value_allocate (by decide) 0 0, rfl, rfl⟩
  obtain ⟨-, hdecode, hfile⟩ := produced_round_trip
  obtain ⟨-, hany, -, hcounted, -⟩ := hdecode _ p _ hp
  have hmarks : p.MarksCounted := hcounted.mpr (by decide +kernel)
  have hmarks' : q.MarksCounted := (hdecode _ q _ hq).2.2.2.1.mpr (by decide +kernel)
  have hcreate : s.create "out" = .ok (["data", "out"], s.put ["data", "out"] #[]) := by rfl
  clear_value p q
  refine ⟨⟨_, hcreate⟩, hany.mpr hmarks, ?_⟩
  have hproduced : ∀ r ∈ ([⟨.polarity, p⟩, ⟨.imu9, q⟩] : List AnyPacket),
      ∃ slots, r.packet.Produced slots :=
    List.forall_mem_cons.mpr ⟨⟨_, hp⟩, List.forall_mem_singleton.mpr ⟨_, hq⟩⟩
  exact (hfile _ hproduced s "out" _ _ hcreate).2.mpr
    (List.forall_mem_cons.mpr ⟨hmarks, List.forall_mem_singleton.mpr hmarks'⟩)

/-- A decoder refuses a packet whose first slot has been skipped. -/
theorem not_decoded_behind_gap :
    let p : Packet .polarity := Packet.fresh .polarity 2 0 0
    let run := (Call.performAll [.slot 1 .validate] p).value
    (Packet.allocate .polarity 2 0 0).value = .ok p ∧
      run.1 = [.done] ∧
      Packet.ofBytes .polarity run.2.bytes = .error (.invalidLayout (.markBeyondNumber 1 1)) := by
  intro p run
  exact ⟨Packet.value_allocate (by decide) 0 0, by decide +kernel,
    Packet.ofBytes_eq_error_iff.mpr (by decide +kernel)⟩

end EventPackets
