import EventPackets.Proofs.Packet.Creation
import EventPackets.Proofs.Stream.Framing

/-!
# Three decoders

A buffer can be decoded as a packet of a given kind, as a packet of the kind that its header names,
or as the only packet of a stream.  The reader of a stream looks at the header before the records
are there, in an order of its own, and still all three accept the same buffers.

## Main results

* `Packet.fault?_cases` : what a decoder of one kind can find wrong with a buffer.
* `Header.packetSize?_lt` : no header describes more bytes than 64 bits can count.
* `AnyPacket.ofBytes_eq_ok_mk_iff`, `AnyPacket.ofBytes_eq_error_iff` : the decoder that goes by the
  header in terms of those of the kinds.
* `Reader.next_eq_ok_iff` : reading the only packet of a stream.
* `decoders_agree` : all of this for one buffer.
-/

namespace EventPackets

/-! ### What a header names and describes -/

theorem EventType.eq_id_of_ofId? {n : Int16} {t : EventType} (h : ofId? n = some t) : n = t.id := by
  unfold ofId? at h
  split at h <;> cases h
  all_goals exact Int16.toInt_inj.mp ‹_›

theorem Kind.eventType_of_ofEventType? {t : EventType} {k : Kind} (h : ofEventType? t = some k) :
    k.eventType = t := by
  cases t <;> cases h <;> rfl

theorem Kind.eq_of_id_eq {k k' : Kind} (h : k.eventType.id = k'.eventType.id) : k = k' := by
  have hkind (l : Kind) : (EventType.ofId? l.eventType.id).bind ofEventType? = some l := by
    rw [EventType.ofId?_id, Option.bind_some, ofEventType?_eventType]
  have hsome := hkind k
  rw [h, hkind k'] at hsome
  exact (Option.some.inj hsome).symm

/-- Capacity and event size are below `2 ^ 31`, so their product is far from the limit. -/
theorem Header.packetSize?_lt {b : Bytes} {n : Nat} (h : packetSize? b = some n) :
    n < UInt64.size := by
  have hc := (capacity b).toInt_lt
  have hs := (eventSize b).toInt_lt
  rw [packetSize?_eq] at h
  split at h
  · obtain rfl := Option.some.inj h
    have hmul : (capacity b).toInt.toNat * (eventSize b).toInt.toNat ≤ 0x80000000 * 0x80000000 :=
      Nat.mul_le_mul (by omega) (by omega)
    rw [size, UInt64.size]
    omega
  · cases h

namespace AnyPacket

variable {b : Bytes} {k : Kind}

theorem kind?_eq_some_iff : kind? b = some k ↔ Header.eventType b = k.eventType.id := by
  refine ⟨fun h => ?_, kind?_of_eventType⟩
  obtain ⟨t, ht, hk⟩ := Option.bind_eq_some_iff.mp h
  rw [EventType.eq_id_of_ofId? ht, Kind.eventType_of_ofEventType? hk]

theorem kind?_eq_none_iff :
    kind? b = none ↔ ∀ k : Kind, Header.eventType b ≠ k.eventType.id := by
  simp only [Option.eq_none_iff_forall_ne_some, ne_eq, kind?_eq_some_iff]

end AnyPacket

/-! ### One kind -/

namespace Packet

variable {k : Kind} {b : Bytes}

/-- Only packets of one kind are decoded from a buffer. -/
theorem eventType_of_fault? (h : fault? k b = none) : Header.eventType b = k.eventType.id :=
  (fault?_eq_none_iff (p := ⟨b⟩).mp h).1.eventType_eq

/-- What a decoder of one kind can find wrong with a buffer.  By the time the size is computed,
capacity and event size are known to be positive, so there always is one. -/
theorem fault?_cases {e : PacketError} (h : fault? k b = some e) :
    e = .truncated b.size ∨
      (e = .typeMismatch k.eventType.id (Header.eventType b) ∧
        Header.eventType b ≠ k.eventType.id) ∨
      e = .invalidCapacity (Header.capacity b) ∨
      ∃ fault, e = .invalidLayout fault := by
  unfold fault? at h
  split at h
  next => exact .inl (Option.some.inj h).symm
  split at h
  next htype => exact .inr (.inl ⟨(Option.some.inj h).symm, htype⟩)
  split at h
  next => exact .inr (.inr (.inr ⟨_, (Option.some.inj h).symm⟩))
  next hrecord =>
  split at h
  next => exact .inr (.inr (.inl (Option.some.inj h).symm))
  next hcapacity =>
  rw [Int32.le_iff_toInt_le, Int32.toInt_zero, Int.not_le] at hcapacity
  rw [packetSize?_of_layout hcapacity (Decidable.not_not.mp (not_or.mp hrecord).1)] at h
  dsimp only at h
  split at h
  next => exact .inr (.inr (.inr ⟨_, (Option.some.inj h).symm⟩))
  next =>
    obtain ⟨fault, -, rfl⟩ := Option.map_eq_some_iff.mp h
    exact .inr (.inr (.inr ⟨fault, rfl⟩))

theorem fault?_ne_sizeOverflow (k : Kind) (b : Bytes) (capacity : Int32) (k' : Kind) :
    fault? k b ≠ some (.sizeOverflow capacity k') := by
  intro h
  obtain h | ⟨h, -⟩ | h | ⟨_, h⟩ := fault?_cases h <;> cases h

/-- A buffer whose header names the kind is not refused for naming another one. -/
theorem fault?_ne_typeMismatch (htype : Header.eventType b = k.eventType.id)
    (expected found : Int16) : fault? k b ≠ some (.typeMismatch expected found) := by
  intro h
  obtain h | ⟨-, hne⟩ | h | ⟨_, h⟩ := fault?_cases h
  · cases h
  · exact hne htype
  · cases h
  · cases h

end Packet

/-! ### The kind that the header names -/

namespace AnyPacket

variable {b : Bytes} {k : Kind} {e : PacketError}

/-- A packet comes from the decoder of its kind. -/
theorem ofBytes_eq_ok_mk_iff {p : Packet k} :
    ofBytes b = .ok ⟨k, p⟩ ↔ Packet.ofBytes k b = .ok p := by
  rw [ofBytes_eq_ok_iff, Packet.ofBytes_eq_ok_iff]
  rfl

/-- So does an error, if the header names a kind. -/
theorem ofBytes_eq_error_iff (hsize : Header.size ≤ b.size)
    (h : Header.eventType b = k.eventType.id) :
    ofBytes b = .error e ↔ Packet.ofBytes k b = .error e := by
  rw [ofBytes, if_neg (Nat.not_lt.mpr hsize), kind?_of_eventType h]
  dsimp only
  cases Packet.ofBytes k b <;> simp [Except.map]

theorem ofBytes_of_size_lt (h : b.size < Header.size) : ofBytes b = .error (.truncated b.size) := by
  rw [ofBytes, if_pos h]

theorem ofBytes_of_kind?_eq_none (hsize : Header.size ≤ b.size) (h : kind? b = none) :
    ofBytes b = .error (.unsupportedType (Header.eventType b)) := by
  rw [ofBytes, if_neg (Nat.not_lt.mpr hsize), h]

/-- An error that no kind has for a buffer is not among the errors of this decoder, unless it is
one of its own. -/
theorem ofBytes_ne_error (hfault : ∀ k, Header.eventType b = k.eventType.id →
      Packet.fault? k b ≠ some e)
    (htruncated : e ≠ .truncated b.size) (htype : e ≠ .unsupportedType (Header.eventType b)) :
    ofBytes b ≠ .error e := by
  intro h
  by_cases hsize : Header.size ≤ b.size
  · cases hk : kind? b with
    | some k =>
      have ht := kind?_eq_some_iff.mp hk
      exact hfault k ht (Packet.ofBytes_eq_error_iff.mp ((ofBytes_eq_error_iff hsize ht).mp h))
    | none =>
      rw [ofBytes_of_kind?_eq_none hsize hk] at h
      exact htype (Except.error.inj h).symm
  · rw [ofBytes_of_size_lt (Nat.not_le.mp hsize)] at h
    exact htruncated (Except.error.inj h).symm

theorem ofBytes_ne_sizeOverflow (b : Bytes) (capacity : Int32) (k' : Kind) :
    ofBytes b ≠ .error (.sizeOverflow capacity k') :=
  ofBytes_ne_error (fun k _ => Packet.fault?_ne_sizeOverflow k b capacity k') nofun nofun

theorem ofBytes_ne_typeMismatch (b : Bytes) (expected found : Int16) :
    ofBytes b ≠ .error (.typeMismatch expected found) :=
  ofBytes_ne_error (fun _ h => Packet.fault?_ne_typeMismatch h expected found) nofun nofun

end AnyPacket

/-! ### The only packet of a stream -/

namespace Reader

/-- What a reader finds wrong with a header has a wording of its own. -/
theorem bodySize_ne_sizeOverflow (header : Bytes) (capacity : Int32) (k' : Kind) :
    bodySize header ≠ .error (.sizeOverflow capacity k') := by
  unfold bodySize
  split
  · nofun
  split
  · nofun
  split <;> nofun

theorem next_ne_sizeOverflow (r : Reader) (offset : Nat) (capacity : Int32) (k' : Kind) :
    r.next.1 ≠ .error (.invalidPacket offset (.sizeOverflow capacity k')) := by
  intro h
  have hstep := r.next_step
  rw [h] at hstep
  generalize r.next.2 = r' at hstep
  cases hstep with
  | rejectedHeader _ _ hbody => exact bodySize_ne_sizeOverflow _ capacity k' hbody
  | rejectedPacket _ _ _ _ hp => exact AnyPacket.ofBytes_ne_sizeOverflow _ capacity k' hp

/-- A packet that is read from a stream and accounts for all of it is what the stream decodes
to. -/
theorem next_eq_ok_iff {s : Source} (hs : s.Unfailing) {p : AnyPacket} :
    ((ofSource s).next.1 = .ok (some p) ∧ (ofSource s).next.2.offset = s.rest.size) ↔
      AnyPacket.ofBytes s.rest = .ok p := by
  constructor
  · rintro ⟨hnext, hoffset⟩
    obtain ⟨hp, hrest, hconsumed, -⟩ :=
      rest_of_next (Prod.ext hnext rfl : (ofSource s).next = (_, (ofSource s).next.2))
    have hrest : s.rest = p.bytes ++ (ofSource s).next.2.source.rest := hrest
    have hconsumed : (ofSource s).next.2.offset = 0 + p.bytes.size := hconsumed
    have hempty : (ofSource s).next.2.source.rest = #[] := by
      have hsize := congrArg Array.size hrest
      rw [Array.size_append] at hsize
      exact Array.eq_empty_of_size_eq_zero (by omega)
    rw [hrest, hempty, Array.append_empty]
    exact hp
  · intro h
    have hbytes := AnyPacket.bytes_of_ofBytes h
    rw [← hbytes] at h
    have hrest : (ofSource s).source.rest = p.bytes ++ #[] :=
      hbytes.symm.trans Array.append_empty.symm
    obtain ⟨r', hnext, -, -, hoffset⟩ := next_of_rest (r := ofSource s) hs h hrest
    rw [hnext]
    exact ⟨rfl, hoffset.trans (by rw [hbytes]; exact Nat.zero_add _)⟩

end Reader

/-- Three decoders agree on every buffer.  No buffer is a packet of two kinds.  The decoder that
goes by the header accepts what the decoder of a kind accepts, and it accepts what a reader delivers
that has the buffer in front of it and takes all of it.  Its errors are those of the kind that the
header names; if there is no header, or it names no kind, it says so.  None of them ever finds a
size that 64 bits cannot count, as there is none. -/
theorem decoders_agree (b : Bytes) :
    (∀ (p : Packet .polarity) (q : Packet .imu9),
        ¬ (Packet.ofBytes .polarity b = .ok p ∧ Packet.ofBytes .imu9 b = .ok q)) ∧
      (∀ (k : Kind) (p : Packet k),
        AnyPacket.ofBytes b = .ok ⟨k, p⟩ ↔ Packet.ofBytes k b = .ok p) ∧
      (∀ s : Source, s.Unfailing → s.rest = b → ∀ p : AnyPacket,
        AnyPacket.ofBytes b = .ok p ↔
          (Reader.ofSource s).next.1 = .ok (some p) ∧
            (Reader.ofSource s).next.2.offset = b.size) ∧
      (∀ (k : Kind) (e : PacketError), Header.size ≤ b.size →
        Header.eventType b = k.eventType.id →
          (AnyPacket.ofBytes b = .error e ↔ Packet.ofBytes k b = .error e)) ∧
      (∀ expected found, AnyPacket.ofBytes b ≠ .error (.typeMismatch expected found)) ∧
      (b.size < Header.size → AnyPacket.ofBytes b = .error (.truncated b.size)) ∧
      (Header.size ≤ b.size → (∀ k : Kind, Header.eventType b ≠ k.eventType.id) →
        AnyPacket.ofBytes b = .error (.unsupportedType (Header.eventType b))) ∧
      (∀ n, Header.packetSize? b = some n → n < UInt64.size) ∧
      ∀ (capacity : Int32) (k' : Kind),
        (∀ k, Packet.ofBytes k b ≠ .error (.sizeOverflow capacity k')) ∧
          AnyPacket.ofBytes b ≠ .error (.sizeOverflow capacity k') ∧
          ∀ (r : Reader) (offset : Nat),
            r.next.1 ≠ .error (.invalidPacket offset (.sizeOverflow capacity k')) := by
  refine ⟨fun p q => ?_, fun k p => AnyPacket.ofBytes_eq_ok_mk_iff, ?_,
    fun k e hsize h => AnyPacket.ofBytes_eq_error_iff hsize h,
    AnyPacket.ofBytes_ne_typeMismatch b, AnyPacket.ofBytes_of_size_lt,
    fun hsize h => AnyPacket.ofBytes_of_kind?_eq_none hsize (AnyPacket.kind?_eq_none_iff.mpr h),
    fun n => Header.packetSize?_lt, fun capacity k' => ⟨fun k h => ?_,
      AnyPacket.ofBytes_ne_sizeOverflow b capacity k', fun r offset =>
        r.next_ne_sizeOverflow offset capacity k'⟩⟩
  · rintro ⟨hp, hq⟩
    have hpolarity := Packet.eventType_of_fault? (Packet.ofBytes_eq_ok_iff.mp hp).2
    have himu9 := Packet.eventType_of_fault? (Packet.ofBytes_eq_ok_iff.mp hq).2
    exact absurd (Kind.eq_of_id_eq (hpolarity.symm.trans himu9)) nofun
  · rintro s hs rfl p
    exact (Reader.next_eq_ok_iff hs).symm
  · exact Packet.fault?_ne_sizeOverflow k b capacity k' (Packet.ofBytes_eq_error_iff.mp h)

/-- A packet that a source delivers byte by byte, with an interruption. -/
theorem decoders_agree_byte_by_byte :
    let p : Packet .imu9 := Packet.fresh .imu9 1 0 0
    let s : Source := ⟨p.bytes, 0, fun _ => some 1, [⟨40, .interrupted⟩]⟩
    AnyPacket.ofBytes p.bytes = .ok ⟨.imu9, p⟩ ∧
      (Reader.ofSource s).next.1 = .ok (some ⟨.imu9, p⟩) ∧
      (Reader.ofSource s).next.2.offset = 76 := by
  intro p s
  have hp : Packet.ofBytes .imu9 p.bytes = .ok p :=
    Packet.ofBytes_eq_ok_iff.mpr ⟨rfl, by decide +kernel⟩
  have hsize : p.bytes.size = 76 := by decide +kernel
  have hinterrupted : ∀ f ∈ [(⟨40, .interrupted⟩ : Fault)], f.kind = .interrupted := by decide
  clear_value p
  have hgrain : ∀ i g, i < s.content.size → s.grain i = some g → 0 < g := by
    rintro i g - hg
    obtain rfl := Option.some.inj hg
    exact Nat.one_pos
  have hs : s.Unfailing := ⟨hgrain, hinterrupted⟩
  obtain ⟨-, hkind, hreader, -⟩ := decoders_agree p.bytes
  have hany := (hkind .imu9 p).mpr hp
  obtain ⟨hnext, hoffset⟩ := (hreader s hs Array.extract_size _).mp hany
  exact ⟨hany, hnext, hoffset.trans hsize⟩

end EventPackets
