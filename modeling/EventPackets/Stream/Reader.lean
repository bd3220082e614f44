import EventPackets.Packet.Any
import EventPackets.Stream.Source

/-!
# Reading packets from a stream

A stream of packets is nothing but packets back to back.  A header tells how many bytes of
records follow it; before a reader asks for them it makes sure that some kind of packet could
come out of it.

## Main definitions

* `ReadError` : why there is no next packet.
* `Reader` : a source and the number of bytes accounted for.
* `Reader.next` : the next packet, or the end of the stream.
* `Reader.attempts` : the outcomes of several reads.
* `Reader.packets` : all packets up to the end or the first error.

## Main results

* `Reader.next_eq_packet` : a packet moves the source on by at least a header.
* `Reader.packets_eq` : the packets of a stream, from the outcome of the first read on.
-/

namespace EventPackets

/-- Why a stream has no next packet. -/
inductive ReadError
  /-- the source fails -/
  | io (cause : IoError)
  /-- what starts at the given byte is no packet -/
  | invalidPacket (offset : Nat) (cause : PacketError)
  /-- the stream ends inside a packet -/
  | unexpectedEnd (offset : Nat)
  deriving DecidableEq

/-- The wording of a read error. -/
def ReadError.message : ReadError → String
  | io cause => "IO error: " ++ cause.message
  | invalidPacket offset cause => s!"Invalid packet at byte {offset}: " ++ cause.message
  | unexpectedEnd offset => s!"Unexpected end of file at byte {offset}"

/-- A source of packets. -/
structure Reader where
  source : Source
  /-- how many bytes are accounted for -/
  offset : Nat

namespace Reader

/-- A reader at the start of a source. -/
def ofSource (s : Source) : Reader := ⟨s, 0⟩

/-- How many bytes of records follow a header, if a packet of some kind may start with it. -/
def bodySize (header : Bytes) : Except PacketError Nat :=
  match AnyPacket.kind? header with
  | none => .error (.unsupportedType (Header.eventType header))
  | some k =>
    if (Header.eventSize header).toInt ≠ k.recordSize then
      .error (.invalidLayout (.eventSize (Header.eventSize header) k))
    else
      match Header.packetSize? header with
      | none =>
        .error (.invalidLayout
          (.undescribed (Header.capacity header) (Header.eventSize header)))
      | some n => .ok (n - Header.size)

/-- What a complete packet starting at byte `start` turns out to be. -/
def decode (start : Nat) (b : Bytes) : Except ReadError (Option AnyPacket) :=
  match AnyPacket.ofBytes b with
  | .ok p => .ok (some p)
  | .error cause => .error (.invalidPacket start cause)

/-- Reads the records that follow a header, which started at byte `start`. -/
def readBody (r : Reader) (start : Nat) (header : Bytes) (body : Nat) :
    Except ReadError (Option AnyPacket) × Reader :=
  match r.source.gather body with
  | (.error cause, s) => (.error (.io cause), ⟨s, r.offset⟩)
  | (.ok b, s) =>
    let offset := r.offset + b.size
    if b.size < body then (.error (.unexpectedEnd offset), ⟨s, offset⟩)
    else (decode start (header ++ b), ⟨s, offset⟩)

/-- The next packet, or nothing at the end of the stream, and the reader afterwards. -/
def next (r : Reader) : Except ReadError (Option AnyPacket) × Reader :=
  match r.source.gather Header.size with
  | (.error cause, s) => (.error (.io cause), ⟨s, r.offset⟩)
  | (.ok header, s) =>
    let offset := r.offset + header.size
    if header.size = 0 then (.ok none, ⟨s, offset⟩)
    else if header.size < Header.size then (.error (.unexpectedEnd offset), ⟨s, offset⟩)
    else
      match bodySize header with
      | .error cause => (.error (.invalidPacket r.offset cause), ⟨s, offset⟩)
      | .ok body => readBody ⟨s, offset⟩ r.offset header body

/-- The outcomes of at most `n` reads, each with the bytes accounted for after it.  Reading stops
after the end of the stream, but goes on after an error. -/
def attempts (r : Reader) : Nat → List (Except ReadError (Option AnyPacket) × Nat)
  | 0 => []
  | n + 1 =>
    let (outcome, r) := r.next
    match outcome with
    | .ok none => [(outcome, r.offset)]
    | _ => (outcome, r.offset) :: r.attempts n

theorem readBody_keeps (r : Reader) (start : Nat) (header : Bytes) (body : Nat) :
    (r.readBody start header body).2.source.content = r.source.content ∧
      r.source.position ≤ (r.readBody start header body).2.source.position := by
  have h := r.source.gather_keeps body
  unfold readBody
  generalize r.source.gather body = g at h
  obtain ⟨e | b, s⟩ := g
  · exact h
  · by_cases hb : b.size < body
    · simpa [hb] using h
    · simpa [hb] using h

/-- A packet moves the source on by at least a header, within its content. -/
theorem next_eq_packet {r r' : Reader} {p : AnyPacket} (h : r.next = (.ok (some p), r')) :
    r'.source.content = r.source.content ∧
      r.source.position + Header.size ≤ r'.source.position ∧
      r.source.position + Header.size ≤ r.source.content.size := by
  unfold next at h
  cases hg : r.source.gather Header.size with
  | mk g s =>
    rw [hg] at h
    cases g with
    | error cause => cases h
    | ok header =>
      obtain ⟨hle, hslice, hcontent, hposition⟩ := Source.gather_eq_ok hg
      simp only at h
      split at h
      · cases h
      · split at h
        · cases h
        · rename_i hfull
          have hsize : header.size = Header.size := by omega
          have hheld : r.source.position + Header.size ≤ r.source.content.size := by
            have := congrArg Array.size hslice
            simp only [Bytes.slice, Array.size_extract, hsize] at this
            have hpos : 0 < Header.size := by decide
            omega
          split at h
          · cases h
          · rename_i body _
            have hk := readBody_keeps ⟨s, r.offset + header.size⟩ r.offset header body
            rw [h] at hk
            exact ⟨hk.1.trans hcontent, by have := hk.2; simp only at this; omega, hheld⟩

/-- All packets up to the end of the stream or the first error, that error if there is one, and
the reader afterwards. -/
def packets (r : Reader) : List AnyPacket × Option ReadError × Reader :=
  match _h : r.next with
  | (.ok none, r') => ([], none, r')
  | (.error e, r') => ([], some e, r')
  | (.ok (some p), r') =>
    let rest := packets r'
    (p :: rest.1, rest.2)
termination_by r.source.content.size - r.source.position
decreasing_by
  obtain ⟨hcontent, hposition, hheld⟩ := next_eq_packet _h
  have hpos : 0 < Header.size := by decide
  rw [hcontent]
  omega

/-- The packets of a stream, from the outcome of the first read on. -/
theorem packets_eq (r : Reader) :
    r.packets =
      match r.next with
      | (.ok none, r') => ([], none, r')
      | (.error e, r') => ([], some e, r')
      | (.ok (some p), r') => (p :: r'.packets.1, r'.packets.2) := by
  rw [packets]
  split <;> simp_all

/-- All packets of the stream, or the first error. -/
def collect (r : Reader) : Except ReadError (List AnyPacket) × Reader :=
  match r.packets with
  | (ps, none, r') => (.ok ps, r')
  | (_, some e, r') => (.error e, r')

end Reader

end EventPackets
