import EventPackets.Proofs.Packet.Acceptance
import EventPackets.Proofs.Stream.Delivery
import EventPackets.Proofs.Stream.Step

/-!
# Packets back to back

The header of an accepted packet tells its length, so packets that stand back to back can be told
apart, and there is only one way to do so.

## Main definitions

* `Source.rest` : the bytes that a source has not delivered yet.
* `Reader.ending` : the outcome of the read that ends the packets of a stream.

## Main results

* `Source.Unfailing.gather_of_rest`, `Source.Unfailing.gather_rest` : gathering what comes next, and
  all that is left.
* `Reader.bodySize_of_ofBytes` : the header of an accepted packet tells how many bytes follow.
* `Reader.next_of_rest`, `Reader.rest_of_next` : a reader delivers an accepted packet exactly if
  it comes next.
* `Reader.front_of_packets` : the packets of any source stand at its front.
* `Reader.packets_of_rest`, `Reader.rest_of_packets` : the packets of a source that does not fail
  are those it consists of.
-/

namespace EventPackets

/-! ### What is left of a source -/

namespace Source

variable {s s' : Source} {want : Nat} {c : Bytes}

/-- The bytes that the source has not delivered yet. -/
def rest (s : Source) : Bytes :=
  s.content.extract s.position s.content.size

theorem rest_ofBytes (b : Bytes) : (ofBytes b).rest = b :=
  Array.extract_size

/-- What is gathered comes from the front of what is left. -/
theorem rest_of_gather (h : s.gather want = (.ok c, s')) : s.rest = c ++ s'.rest := by
  obtain ⟨-, hslice, hcontent, hposition⟩ := gather_eq_ok h
  have hsize := congrArg Array.size hslice
  rw [Bytes.slice, Array.size_extract] at hsize
  -- If nothing is gathered, the position may even lie behind the content.
  by_cases hc : c.size = 0
  · rw [rest, rest, hcontent, hposition, hc, Array.eq_empty_of_size_eq_zero hc,
      Array.empty_append, Nat.add_zero]
  · calc s.rest
        = s.content.extract s.position (s.position + c.size) ++ s'.rest := by
          rw [rest, rest, hcontent, hposition, Array.extract_append_extract,
            Nat.min_eq_left (Nat.le_add_right ..), Nat.max_eq_right (by omega)]
      _ = c ++ s'.rest := by rw [← Bytes.slice, ← hslice]

/-- A source that does not fail delivers as much as there is. -/
theorem Unfailing.size_of_gather (hs : s.Unfailing) (h : s.gather want = (.ok c, s')) :
    s'.Unfailing ∧ c.size = min want s.rest.size := by
  obtain ⟨t, ht, hu⟩ := hs.gather_eq_ok want
  obtain ⟨hc, rfl⟩ := Prod.mk.inj (h.symm.trans ht)
  rw [Except.ok.inj hc]
  refine ⟨hu, ?_⟩
  simp only [Bytes.slice, rest, Array.size_extract]
  omega

/-- Bytes that come next are gathered. -/
theorem Unfailing.gather_of_rest (hs : s.Unfailing) {b tail : Bytes} (hr : s.rest = b ++ tail) :
    ∃ s', s.gather b.size = (.ok b, s') ∧ s'.Unfailing ∧ s'.rest = tail := by
  obtain ⟨s', hg, hs'⟩ := hs.gather_eq_ok b.size
  have hsize := (hs.size_of_gather hg).2
  rw [hr, Array.size_append, Nat.min_eq_left (Nat.le_add_right ..)] at hsize
  obtain ⟨hb, htail⟩ := Array.append_inj ((rest_of_gather hg).symm.trans hr) hsize
  exact ⟨s', hg.trans (by rw [hb]), hs', htail⟩

/-- All of it is gathered if no more is left than is wanted. -/
theorem Unfailing.gather_rest (hs : s.Unfailing) (hle : s.rest.size ≤ want) :
    ∃ s', s.gather want = (.ok s.rest, s') ∧ s'.Unfailing ∧ s'.rest = #[] := by
  obtain ⟨s', hg, hs'⟩ := hs.gather_eq_ok want
  have hsize := (hs.size_of_gather hg).2
  rw [Nat.min_eq_right hle] at hsize
  have happend : s.rest ++ #[] = _ := Array.append_empty.trans (rest_of_gather hg)
  obtain ⟨hc, hrest⟩ := Array.append_inj happend hsize.symm
  exact ⟨s', hg.trans (by rw [← hc]), hs', hrest.symm⟩

end Source

/-! ### What a header tells -/

/-- Bytes in front and the bytes behind them. -/
theorem Bytes.exists_append {b : Bytes} {n : Nat} (h : n ≤ b.size) :
    ∃ c d : Bytes, b = c ++ d ∧ c.size = n := by
  refine ⟨b.extract 0 n, b.extract n b.size, ?_, ?_⟩
  · rw [Array.extract_append_extract, Nat.min_eq_left (Nat.zero_le _), Nat.max_eq_right h,
      Array.extract_size]
  · rw [Array.size_extract, Nat.min_eq_left h, Nat.sub_zero]

theorem Bytes.byteAt_append_left {b : Bytes} {i : Nat} (h : i < b.size) (c : Bytes) :
    byteAt (b ++ c) i = byteAt b i := by
  rw [byteAt, byteAt, Array.getD_eq_getD_getElem?, Array.getD_eq_getD_getElem?,
    Array.getElem?_append_left h]

namespace Header

variable {b : Bytes}

theorem get_append (h : size ≤ b.size) (f : Field) (c : Bytes) : get f (b ++ c) = get f b := by
  have hf := f.offset_add_le
  rw [get, get, Bytes.readLE_congr fun i _ hi => Bytes.byteAt_append_left (by omega) c]

theorem packetSize?_append (h : size ≤ b.size) (c : Bytes) :
    packetSize? (b ++ c) = packetSize? b := by
  have hc : capacity (b ++ c) = capacity b := get_append h .capacity c
  have hs : eventSize (b ++ c) = eventSize b := get_append h .eventSize c
  rw [packetSize?, packetSize?, hc, hs]

end Header

namespace Reader

/-- The header of an accepted packet tells how many bytes follow. -/
theorem bodySize_of_ofBytes {header body : Bytes} {p : AnyPacket}
    (hsize : header.size = Header.size) (h : AnyPacket.ofBytes (header ++ body) = .ok p) :
    bodySize header = .ok body.size := by
  have hbytes := AnyPacket.bytes_of_ofBytes h
  have hp := AnyPacket.consistent_of_ofBytes h
  have hle : Header.size ≤ header.size := Nat.le_of_eq hsize.symm
  have hget := fun f => Header.get_append hle f body
  rw [← hbytes] at hget
  have hkind : AnyPacket.kind? header = some p.kind :=
    AnyPacket.kind?_of_eventType ((hget .eventType).symm.trans hp.eventType_eq)
  have hrecord : (Header.eventSize header).toInt = p.kind.recordSize :=
    (congrArg Int32.toInt (hget .eventSize)).symm.trans hp.eventSize_eq
  have hpacket : Header.packetSize? header = some (header ++ body).size := by
    rw [← Header.packetSize?_append hle body, ← hbytes]
    exact (Packet.packetSize?_of_layout hp.capacity_pos hp.eventSize_eq).trans
      (congrArg some hp.size_eq.symm)
  rw [bodySize, hkind]
  dsimp only
  rw [if_neg (not_not_intro hrecord), hpacket]
  dsimp only
  rw [Array.size_append, hsize, Nat.add_sub_cancel_left]

/-- An accepted packet is a header and the bytes that follow it. -/
theorem exists_header_of_ofBytes {p : AnyPacket} (hp : AnyPacket.ofBytes p.bytes = .ok p) :
    ∃ header body, p.bytes = header ++ body ∧ header.size = Header.size :=
  Bytes.exists_append (AnyPacket.consistent_of_ofBytes hp).header_le_size

/-! ### One packet -/

variable {r r' : Reader} {p : AnyPacket}

/-- A packet that is delivered comes next in the source, and is accounted for. -/
theorem rest_of_next (h : r.next = (.ok (some p), r')) :
    AnyPacket.ofBytes p.bytes = .ok p ∧
      r.source.rest = p.bytes ++ r'.source.rest ∧
      r'.offset = r.offset + p.bytes.size ∧
      (r.source.Unfailing → r'.source.Unfailing) := by
  cases step_iff.mpr h with
  | packet hh hsize hbody hb hp =>
    rw [AnyPacket.bytes_of_ofBytes hp]
    refine ⟨hp, ?_, ?_, fun hs => ?_⟩
    · rw [Source.rest_of_gather hh, Source.rest_of_gather hb, Array.append_assoc]
    · rw [Array.size_append, hsize, Nat.add_assoc]
    · exact ((hs.size_of_gather hh).1.size_of_gather hb).1

/-- A source that does not fail is no reason for an error. -/
theorem Step.ne_io {cause : IoError} (hs : r.source.Unfailing)
    (h : r.Step (.error (.io cause)) r') : False := by
  cases h with
  | failedHeader hh => exact hs.gather_ne_error cause hh
  | failedBody hh _ _ hb => exact (hs.size_of_gather hh).1.gather_ne_error cause hb

/-- At the end nothing is left. -/
theorem rest_of_next_none (hs : r.source.Unfailing) (h : r.next = (.ok none, r')) :
    r.source.rest = #[] ∧ r'.offset = r.offset := by
  cases step_iff.mpr h with
  | ended hh =>
    have hsize := (hs.size_of_gather hh).2
    have hpos : 0 < Header.size := by decide
    rw [Array.size_empty] at hsize
    exact ⟨Array.eq_empty_of_size_eq_zero (by omega), rfl⟩

/-- With nothing left the stream is at its end. -/
theorem next_of_rest_empty (hs : r.source.Unfailing) (hr : r.source.rest = #[]) :
    ∃ r', r.next = (.ok none, r') ∧ r'.source.Unfailing ∧ r'.source.rest = #[] ∧
      r'.offset = r.offset := by
  have hle : r.source.rest.size ≤ Header.size := by
    rw [hr]
    exact Nat.zero_le _
  obtain ⟨s, hh, hs', hrest⟩ := hs.gather_rest hle
  rw [hr] at hh
  exact ⟨_, (Step.ended hh).next_eq, hs', hrest, rfl⟩

/-- An accepted packet that comes next is delivered. -/
theorem next_of_rest (hs : r.source.Unfailing) {tail : Bytes}
    (hp : AnyPacket.ofBytes p.bytes = .ok p) (hr : r.source.rest = p.bytes ++ tail) :
    ∃ r', r.next = (.ok (some p), r') ∧ r'.source.Unfailing ∧ r'.source.rest = tail ∧
      r'.offset = r.offset + p.bytes.size := by
  obtain ⟨header, body, hbytes, hsize⟩ := exists_header_of_ofBytes hp
  rw [hbytes] at hp hr
  rw [Array.append_assoc] at hr
  -- The header is gathered first, and tells how many bytes to gather next.
  obtain ⟨s, hh, hs₁, hrest⟩ := hs.gather_of_rest hr
  obtain ⟨t, hb, ht, htail⟩ := hs₁.gather_of_rest hrest
  rw [hsize] at hh
  refine ⟨_, (Step.packet hh hsize (bodySize_of_ofBytes hsize hp) hb hp).next_eq, ht, htail, ?_⟩
  rw [hbytes, Array.size_append, hsize, Nat.add_assoc]

/-! ### All packets -/

/-- Accepted packets back to back are delivered one after another. -/
theorem packets_of_rest {ps : List AnyPacket} (hs : r.source.Unfailing)
    (hps : ∀ p ∈ ps, AnyPacket.ofBytes p.bytes = .ok p)
    (hr : r.source.rest = Bytes.concat (ps.map AnyPacket.bytes)) :
    ∃ r', r.packets = (ps, none, r') := by
  induction ps generalizing r with
  | nil =>
    obtain ⟨r', hnext, -⟩ := next_of_rest_empty hs hr
    exact ⟨r', by rw [packets_eq, hnext]⟩
  | cons p ps ih =>
    rw [List.forall_mem_cons] at hps
    obtain ⟨r₁, hnext, hs₁, hrest, -⟩ := next_of_rest hs hps.1 hr
    obtain ⟨r', hpackets⟩ := ih hs₁ hps.2 hrest
    refine ⟨r', ?_⟩
    rw [packets_eq, hnext]
    dsimp only
    rw [hpackets]

/-- The outcome of the read that ends the packets of a stream. -/
def ending (error : Option ReadError) : Except ReadError (Option AnyPacket) :=
  match error with
  | none => .ok none
  | some e => .error e

/-- Packets delivered up to the end of the stream or an error stand at its front, back to back, and
the read behind them brings the end or the error. -/
theorem front_of_packets {ps : List AnyPacket} {error : Option ReadError}
    (h : r.packets = (ps, error, r')) :
    ∃ r₁ : Reader, (∀ p ∈ ps, AnyPacket.ofBytes p.bytes = .ok p) ∧
      r.source.rest = Bytes.concat (ps.map AnyPacket.bytes) ++ r₁.source.rest ∧
      r₁.offset = r.offset + (Bytes.concat (ps.map AnyPacket.bytes)).size ∧
      (r.source.Unfailing → r₁.source.Unfailing) ∧ r₁.next = (ending error, r') := by
  induction ps generalizing r with
  | nil =>
    have hnext : r.next = (ending error, r') := by
      rw [packets_eq] at h
      split at h <;> cases h
      all_goals assumption
    exact ⟨r, nofun, Array.empty_append.symm, rfl, id, hnext⟩
  | cons p ps ih =>
    rw [packets_eq] at h
    split at h
    next => cases h
    next => cases h
    next p₁ r₁ hnext =>
      obtain ⟨hp, hrest, hoffset, hs₁⟩ := rest_of_next hnext
      obtain ⟨hcons, htail⟩ := Prod.mk.inj h
      obtain ⟨rfl, hps⟩ := List.cons.inj hcons
      obtain ⟨r₂, hall, hconcat, hoffset', hs₂, hending⟩ := ih (Prod.ext hps htail)
      refine ⟨r₂, List.forall_mem_cons.mpr ⟨hp, hall⟩, ?_, ?_, fun hs => hs₂ (hs₁ hs), hending⟩
      · rw [hrest, hconcat, List.map_cons, Bytes.concat_cons, Array.append_assoc]
      · rw [hoffset', hoffset, List.map_cons, Bytes.concat_cons, Array.size_append, Nat.add_assoc]

/-- Packets delivered up to the end of the stream are all that was left. -/
theorem rest_of_packets {ps : List AnyPacket} (hs : r.source.Unfailing)
    (h : r.packets = (ps, none, r')) :
    (∀ p ∈ ps, AnyPacket.ofBytes p.bytes = .ok p) ∧
      r.source.rest = Bytes.concat (ps.map AnyPacket.bytes) ∧
      r'.offset = r.offset + r.source.rest.size := by
  obtain ⟨r₁, hall, hrest, hoffset, hs₁, hending⟩ := front_of_packets h
  obtain ⟨hempty, hend⟩ := rest_of_next_none (hs₁ hs) hending
  rw [hempty, Array.append_empty] at hrest
  exact ⟨hall, hrest, by rw [hend, hoffset, hrest]⟩

theorem collect_eq_ok_iff {ps : List AnyPacket} :
    r.collect = (.ok ps, r') ↔ r.packets = (ps, none, r') := by
  unfold collect
  split
  next hpackets => simp [hpackets]
  next hpackets => simp [hpackets]

end Reader

end EventPackets
