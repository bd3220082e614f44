import EventPackets.Packet.Basic

/-!
# Descriptions of packets

What a packet says, free of its encoding: the values of the header that a producer chooses, and
the fields of every record.  A description is laid out as a header followed by the records, with
every number in little-endian digits; the counters of the header follow from the records, apart
from the event number, which also counts events that are no longer valid.

## Main definitions

* `PolarityRecord`, `Imu9Record` : the fields of a record.
* `Description` : the values of a packet.
* `Description.WellFormed` : the descriptions that belong to packets.
* `Description.event?` : the events of a packet that a description tells of.
* `Description.layout` : the bytes of a description.
* `Description.ofBytes` : the description that a buffer is read as.

## Main results

* `Description.length_headerDigits`, `Description.size_layout` : the length of a layout.
-/

namespace EventPackets

/-- The fields of a polarity record. -/
structure PolarityRecord where
  valid : Bool
  data : PolarityData
  timestamp : UInt32
  deriving DecidableEq

/-- The fields of an IMU9 record.  Bit 0 of the info word is the validity mark, its other bits
have no meaning. -/
structure Imu9Record where
  info : UInt32
  timestamp : UInt32
  data : Imu9Sample
  deriving DecidableEq

/-- The data word of a polarity record: validity mark, polarity, and the two addresses above
them. -/
def PolarityRecord.dataWord (r : PolarityRecord) : Nat :=
  r.valid.toNat + 2 * r.data.on.toNat + 4 * r.data.y.toNat + 0x20000 * r.data.x.toNat

namespace Kind

/-- The fields of a record. -/
abbrev Record : Kind → Type
  | polarity => PolarityRecord
  | imu9 => Imu9Record

/-- Whether a record is marked valid. -/
def recordValid (k : Kind) (r : k.Record) : Bool :=
  match k, r with
  | polarity, r => PolarityRecord.valid r
  | imu9, r => (Imu9Record.info r).toNat % 2 == 1

/-- The timestamp of a record. -/
def recordTimestamp (k : Kind) (r : k.Record) : UInt32 :=
  match k, r with
  | polarity, r => PolarityRecord.timestamp r
  | imu9, r => Imu9Record.timestamp r

/-- The data of a record. -/
def recordData (k : Kind) (r : k.Record) : k.Data :=
  match k, r with
  | polarity, r => PolarityRecord.data r
  | imu9, r => Imu9Record.data r

/-- Whether the fields of a record fit their places: an address has 15 bits. -/
def RecordFits (k : Kind) (r : k.Record) : Prop :=
  match k, r with
  | polarity, r =>
    (PolarityRecord.data r).x.toNat < 0x8000 ∧ (PolarityRecord.data r).y.toNat < 0x8000
  | imu9, _ => True

instance (k : Kind) (r : k.Record) : Decidable (k.RecordFits r) :=
  match k, r with
  | polarity, _ => inferInstanceAs (Decidable (_ ∧ _))
  | imu9, _ => inferInstanceAs (Decidable True)

/-- The 32-bit words of a record. -/
def recordWords (k : Kind) (r : k.Record) : List Nat :=
  match k, r with
  | polarity, r => [PolarityRecord.dataWord r, (PolarityRecord.timestamp r).toNat]
  | imu9, r =>
    (Imu9Record.info r).toNat :: (Imu9Record.timestamp r).toNat ::
      (Imu9Record.data r).values.map fun v => v.bits.toNat

/-- The bytes of a record. -/
def recordDigits (k : Kind) (r : k.Record) : List UInt8 :=
  (k.recordWords r).flatMap (Bytes.digitsLE 4)

/-- The fields of the record that starts at byte `start`. -/
def readRecord (k : Kind) (b : Bytes) (start : Nat) : k.Record :=
  match k with
  | polarity => PolarityRecord.mk (BitField.mark.get (b.word start) != 0)
      (PolarityData.read b start) (b.word (start + k.timestampOffset))
  | imu9 => Imu9Record.mk (b.word start) (b.word (start + k.timestampOffset))
      (Imu9Sample.read b start)

theorem length_recordWords (k : Kind) (r : k.Record) :
    4 * (k.recordWords r).length = k.recordSize := by
  cases k <;> rfl

@[simp]
theorem length_recordDigits (k : Kind) (r : k.Record) :
    (k.recordDigits r).length = k.recordSize := by
  rw [← k.length_recordWords r, recordDigits]
  generalize k.recordWords r = ws
  induction ws with
  | nil => rfl
  | cons w ws ih =>
    simp only [List.flatMap_cons, List.length_append, Bytes.length_digitsLE, ih, List.length_cons]
    omega

end Kind

/-- The values of a packet: what its producer chooses for the header, and its records. -/
structure Description (k : Kind) where
  source : Int16
  overflow : Int32
  /-- how often an event became valid -/
  number : Int32
  records : List k.Record

namespace Description

variable {k : Kind} (d : Description k)

/-- How many records are marked valid. -/
def validCount : Nat :=
  d.records.countP k.recordValid

/-- Whether a description belongs to a packet: there is a record, their number and the event
number fit the header, the fields fit the records, and every valid event has been counted and
stands among the first records, as many as the event number says. -/
structure WellFormed : Prop where
  records_ne_nil : d.records ≠ []
  length_lt : d.records.length < 0x80000000
  number_nonneg : 0 ≤ d.number.toInt
  validCount_le : d.validCount ≤ d.number.toInt
  fits : ∀ r ∈ d.records, k.RecordFits r
  lt_number : ∀ (i : Nat) r, d.records[i]? = some r → k.recordValid r = true → i < d.number.toInt

theorem wellFormed_iff :
    d.WellFormed ↔
      (0 < d.records.length ∧ d.records.length < 0x80000000 ∧ 0 ≤ d.number.toInt ∧
        d.validCount ≤ d.number.toInt) ∧ (∀ r ∈ d.records, k.RecordFits r) ∧
        ∀ i : Fin d.records.length, k.recordValid d.records[i] = true → i < d.number.toInt := by
  constructor
  · intro h
    exact ⟨⟨List.length_pos_iff.mpr h.records_ne_nil, h.length_lt, h.number_nonneg,
      h.validCount_le⟩, h.fits, fun i => h.lt_number i _ (List.getElem?_eq_getElem i.isLt)⟩
  · rintro ⟨⟨hpos, hlt, hnumber, hvalid⟩, hfits, hcounted⟩
    refine ⟨List.length_pos_iff.mp hpos, hlt, hnumber, hvalid, hfits, fun i r hr => ?_⟩
    obtain ⟨hi, rfl⟩ := List.getElem?_eq_some_iff.mp hr
    exact hcounted ⟨i, hi⟩

instance : Decidable d.WellFormed :=
  decidable_of_iff _ d.wellFormed_iff.symm

/-- The event that slot `i` holds if `r` is its record. -/
def event (i : Nat) (r : k.Record) : Event k where
  slot := i
  valid := k.recordValid r
  timestamp := (k.recordTimestamp r).toInt32
  timestamp64 := timestamp64 d.overflow (k.recordTimestamp r).toInt32
  data := k.recordData r

/-- The event with an index, if there is one. -/
def event? (index : Int32) : Option (Event k) :=
  if index.toInt < 0 then none
  else d.records[index.toInt.toNat]?.map (d.event index.toInt.toNat)

/-- The bytes of the header. -/
def headerDigits : List UInt8 :=
  Bytes.digitsLE 2 k.eventType.id.toUInt16.toNat
    ++ Bytes.digitsLE 2 d.source.toUInt16.toNat
    ++ Bytes.digitsLE 4 k.recordSize
    ++ Bytes.digitsLE 4 k.timestampOffset
    ++ Bytes.digitsLE 4 d.overflow.toUInt32.toNat
    ++ Bytes.digitsLE 4 d.records.length
    ++ Bytes.digitsLE 4 d.number.toUInt32.toNat
    ++ Bytes.digitsLE 4 d.validCount

/-- The bytes of a description. -/
def layout : Bytes :=
  (d.headerDigits ++ d.records.flatMap k.recordDigits).toArray

/-- The description that a buffer is read as. -/
def ofBytes (k : Kind) (b : Bytes) : Description k where
  source := Header.source b
  overflow := Header.overflow b
  number := Header.number b
  records :=
    (List.range (Header.capacity b).toNatClampNeg).map fun i => k.readRecord b (Slot.start k i)

theorem length_headerDigits : d.headerDigits.length = Header.size := by
  simp [headerDigits, Header.size]

theorem size_layout : d.layout.size = Header.size + d.records.length * k.recordSize := by
  have h (rs : List k.Record) : (rs.flatMap k.recordDigits).length = rs.length * k.recordSize := by
    induction rs with
    | nil => simp
    | cons r rs ih =>
      simp only [List.flatMap_cons, List.length_append, Kind.length_recordDigits, ih,
        List.length_cons, Nat.add_mul]
      omega
  simp only [layout, List.size_toArray, List.length_append, length_headerDigits, h]

end Description

end EventPackets
