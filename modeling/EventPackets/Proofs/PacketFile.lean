import EventPackets.PacketFile
import EventPackets.Proofs.Packet.Creation
import EventPackets.Proofs.Storage
import EventPackets.Proofs.Stream.Framing

/-!
# Packet files

Accepted packets are read back from a file just as they were written, and writing what has been
read makes the same file again.

## Main results

* `Storage.writeAll_eq_ok` : packets are written back to back.
* `Storage.writePackets_of_create`, `Storage.readPackets_eq_ok_iff` : writing and reading a file.
* `Storage.readPackets_writePackets_iff` : what is read back after writing.
* `collect_iff_concat` : bytes are read as packets in one way at most.
-/

namespace EventPackets

theorem PacketWriter.writePacket_eq_ok {w : PacketWriter} (h : w.target.Unlimited)
    (p : AnyPacket) :
    ∃ w', w.writePacket p = (.ok (), w') ∧ w'.target.Unlimited ∧
      w'.target.accepted = w.target.accepted ++ p.bytes := by
  obtain ⟨t, hwrite, hu, haccepted⟩ := h.write_eq_ok p.bytes
  refine ⟨⟨t, w.bytesWritten + p.bytes.size⟩, ?_, hu, haccepted⟩
  rw [writePacket, writeBytes, hwrite]

/-- In the end everything that has been written is there. -/
theorem PacketWriter.flush_eq_ok {w : PacketWriter} (h : w.target.Unlimited) :
    ∃ w', w.flush = (.ok (), w') ∧ w'.close = w.target.accepted := by
  obtain ⟨t, hflush, hu, -⟩ := h.flush_eq_ok
  refine ⟨{ w with target := t }, by rw [flush, hflush], ?_⟩
  rw [close, hu.received_close, ← w.target.accepted_flush, hflush]

/-- Packets of a stream that can be read and delivered again. -/
theorem Reader.collect_ofBytes_eq_ok_iff {data : Bytes} {ps : List AnyPacket} :
    (ofSource (.ofBytes data)).collect.1 = .ok ps ↔
      (∀ p ∈ ps, AnyPacket.ofBytes p.bytes = .ok p) ∧
        data = Bytes.concat (ps.map AnyPacket.bytes) := by
  have hs : (ofSource (.ofBytes data)).source.Unfailing := Source.unfailing_ofBytes data
  have hrest : (ofSource (.ofBytes data)).source.rest = data := Source.rest_ofBytes data
  constructor
  · intro h
    obtain ⟨hps, hdata, -⟩ := rest_of_packets hs (collect_eq_ok_iff.mp (Prod.ext h rfl))
    exact ⟨hps, hrest.symm.trans hdata⟩
  · rintro ⟨hps, hdata⟩
    obtain ⟨r, hpackets⟩ := packets_of_rest hs hps (hrest.trans hdata)
    rw [collect_eq_ok_iff.mpr hpackets]

/-- In the end everything is accounted for. -/
theorem Reader.offset_of_collect {data : Bytes} {ps : List AnyPacket} {r : Reader}
    (h : (ofSource (.ofBytes data)).collect = (.ok ps, r)) : r.offset = data.size := by
  obtain ⟨-, -, hoffset⟩ :=
    rest_of_packets (Source.unfailing_ofBytes data) (collect_eq_ok_iff.mp h)
  rw [hoffset, ofSource, Source.rest_ofBytes, Nat.zero_add]

/-- A source that fails at once brings nothing. -/
theorem Reader.collect_of_failed (e : IoError) :
    (ofSource
      { Source.ofBytes #[] with faults := [⟨0, .failed e⟩] }).collect.1 = .error (.io e) := by
  have hgather : ∃ s', Source.gather { Source.ofBytes #[] with faults := [⟨0, .failed e⟩] }
      Header.size = (.error e, s') := by
    rw [Source.gather, if_neg (by decide)]
    exact ⟨_, rfl⟩
  obtain ⟨s', hgather⟩ := hgather
  have hnext : (ofSource
      { Source.ofBytes #[] with faults := [⟨0, .failed e⟩] }).next = (.error (.io e), ⟨s', 0⟩) := by
    rw [next, ofSource, hgather]
  rw [collect, packets_eq, hnext]

namespace Storage

variable {s s₁ : Storage} {path : String} {place : Place} {ps : List AnyPacket}

/-- Packets are written back to back. -/
theorem writeAll_eq_ok {w : PacketWriter} (h : w.target.Unlimited) (ps : List AnyPacket) :
    ∃ w', writeAll w ps = (.ok (), w') ∧
      w'.close = w.target.accepted ++ Bytes.concat (ps.map AnyPacket.bytes) := by
  induction ps generalizing w with
  | nil =>
    obtain ⟨w', hflush, hclose⟩ := PacketWriter.flush_eq_ok h
    exact ⟨w', hflush, hclose.trans Array.append_empty.symm⟩
  | cons p ps ih =>
    obtain ⟨w₁, hwrite, hu, haccepted⟩ := PacketWriter.writePacket_eq_ok h p
    obtain ⟨w', hrest, hclose⟩ := ih hu
    refine ⟨w', ?_, ?_⟩
    · rw [writeAll, hwrite]
      exact hrest
    · rw [hclose, haccepted, List.map_cons, Bytes.concat_cons, Array.append_assoc]

/-- Packets are written wherever a file can be created. -/
theorem writePackets_of_create (h : s.create path = .ok (place, s₁)) (ps : List AnyPacket) :
    s.writePackets path ps =
      (.ok (), s₁.put place (Bytes.concat (ps.map AnyPacket.bytes))) := by
  obtain ⟨w, hwrite, hclose⟩ := writeAll_eq_ok (w := .empty none) .empty ps
  have hempty : (PacketWriter.empty none).target.accepted = #[] := rfl
  rw [hempty, Array.empty_append] at hclose
  rw [writePackets, h]
  dsimp only
  rw [hwrite]
  dsimp only
  rw [hclose]
  rfl

/-- Reading a file brings the packets that it consists of. -/
theorem readPackets_eq_ok_iff :
    s.readPackets path = .ok ps ↔
      ∃ data, s.openFile path = .ok (.ofBytes data) ∧
        (Reader.ofSource (.ofBytes data)).collect.1 = .ok ps := by
  unfold readPackets openPackets
  constructor
  · intro h
    cases hopen : s.openFile path with
    | error e =>
      rw [hopen] at h
      cases h
    | ok source =>
      rw [hopen] at h
      rcases openFile_eq_ok hopen with ⟨data, rfl⟩ | rfl
      · exact ⟨data, rfl, h⟩
      · exact absurd ((Reader.collect_of_failed _).symm.trans h) nofun
  · rintro ⟨data, hopen, h⟩
    rw [hopen]
    exact h

/-- Packets are read back from the file they were written into exactly if they are accepted. -/
theorem readPackets_writePackets_iff (h : s.create path = .ok (place, s₁)) :
    (s.writePackets path ps).2.readPackets path = .ok ps ↔
      ∀ p ∈ ps, AnyPacket.ofBytes p.bytes = .ok p := by
  have hopen := openFile_of_create h (Bytes.concat (ps.map AnyPacket.bytes))
  rw [writePackets_of_create h, readPackets, openPackets, hopen]
  exact Reader.collect_ofBytes_eq_ok_iff.trans (and_iff_left rfl)

end Storage

/-- Bytes are read as packets in one way at most, and only if they are accepted packets back to
back.  So what has been written is read back, and writing what has been read makes the same file
again. -/
theorem collect_iff_concat (data : Bytes) (ps : List AnyPacket) :
    ((Reader.ofSource (.ofBytes data)).collect.1 = .ok ps ↔
        (∀ p ∈ ps, AnyPacket.ofBytes p.bytes = .ok p) ∧
          data = Bytes.concat (ps.map AnyPacket.bytes)) ∧
      (∀ r, (Reader.ofSource (.ofBytes data)).collect = (.ok ps, r) → r.offset = data.size) ∧
      ((∀ p ∈ ps, AnyPacket.ofBytes p.bytes = .ok p) →
        (∃ w, Storage.writeAll (.empty none) ps = (.ok (), w) ∧
            (Reader.ofSource (.ofBytes w.close)).collect.1 = .ok ps) ∧
          ∀ (s : Storage) (path : String) (place : Place) (s₁ : Storage),
            s.create path = .ok (place, s₁) →
              (s.writePackets path ps).1 = .ok () ∧
                (s.writePackets path ps).2.readPackets path = .ok ps) ∧
      ∀ (s : Storage) (old new : String) (place : Place) (s₁ : Storage),
        s.openFile old = .ok (.ofBytes data) → s.readPackets old = .ok ps →
          s.create new = .ok (place, s₁) →
            (s.writePackets new ps).1 = .ok () ∧
              (s.writePackets new ps).2.file? place = some data := by
  refine ⟨Reader.collect_ofBytes_eq_ok_iff, fun r => Reader.offset_of_collect, fun hps => ?_, ?_⟩
  · refine ⟨?_, fun s path place s₁ hcreate => ⟨?_, ?_⟩⟩
    · obtain ⟨w, hwrite, hclose⟩ := Storage.writeAll_eq_ok (w := .empty none) .empty ps
      have hempty : (PacketWriter.empty none).target.accepted = #[] := rfl
      rw [hempty, Array.empty_append] at hclose
      exact ⟨w, hwrite, Reader.collect_ofBytes_eq_ok_iff.mpr ⟨hps, hclose⟩⟩
    · rw [Storage.writePackets_of_create hcreate]
    · exact (Storage.readPackets_writePackets_iff hcreate).mpr hps
  · intro s old new place s₁ hopen hread hcreate
    obtain ⟨data', hopen', hcollect⟩ := Storage.readPackets_eq_ok_iff.mp hread
    have hdata : data' = data := by
      rw [hopen] at hopen'
      exact (congrArg Source.content (Except.ok.inj hopen')).symm
    have hconcat := (Reader.collect_ofBytes_eq_ok_iff.mp hcollect).2
    rw [Storage.writePackets_of_create hcreate, ← hconcat, hdata]
    exact ⟨rfl, Storage.file?_put_self ..⟩

/-- A stream of a packet of each kind. -/
theorem collect_iff_concat_two_kinds :
    let p : Packet .polarity := Packet.fresh .polarity 1 0 0
    let q : Packet .imu9 := Packet.fresh .imu9 1 0 0
    (Reader.ofSource (.ofBytes (p.bytes ++ q.bytes))).collect.1 =
        .ok [⟨.polarity, p⟩, ⟨.imu9, q⟩] ∧
      (p.bytes ++ q.bytes).size = 112 := by
  intro p q
  have hp : AnyPacket.ofBytes p.bytes = .ok ⟨.polarity, p⟩ :=
    AnyPacket.ofBytes_eq_ok_iff.mpr ⟨rfl, by decide +kernel⟩
  have hq : AnyPacket.ofBytes q.bytes = .ok ⟨.imu9, q⟩ :=
    AnyPacket.ofBytes_eq_ok_iff.mpr ⟨rfl, by decide +kernel⟩
  have hsize : (p.bytes ++ q.bytes).size = 112 := by decide +kernel
  clear_value p q
  refine ⟨(collect_iff_concat _ _).1.mpr ⟨?_, ?_⟩, hsize⟩
  · exact List.forall_mem_cons.mpr ⟨hp, List.forall_mem_singleton.mpr hq⟩
  · simp [AnyPacket.bytes]

end EventPackets
