import EventPackets.Packet.Producer

/-!
# Packets as independent records

A packet without its bytes: the values of the header and, for each slot, a record of its own with
a validity flag, a timestamp and the data of the event.  Nothing is shared here, so an operation
visibly concerns one field of one slot; what the operations of `EventPackets.Packet.Producer` do to
the buffer is to be measured against this.

## Main definitions

* `Records` : the values of a packet, slot by slot.
* `Kind.update` : a change of the data of an event.
* `Kind.Field`, `Kind.assigned?` : the fields of that data, and what a change gives to each.
* `Records.fresh` : a packet with empty slots.
* `Records.perform`, `Records.performAll` : calls carried out on records.
* `Records.event?` : the events of the records.
* `Packet.records` : the values that the buffer of a packet holds.
-/

namespace EventPackets

/-- The data of a polarity event after a change. -/
def PolarityWrite.update (w : PolarityWrite) (d : PolarityData) : PolarityData :=
  match w with
  | x v => { d with x := UInt16.ofNat (v.toNat % 0x8000) }
  | y v => { d with y := UInt16.ofNat (v.toNat % 0x8000) }
  | polarity on => { d with on := on }

/-- The data of an IMU9 event after a change. -/
def Imu9Write.update (w : Imu9Write) (s : Imu9Sample) : Imu9Sample :=
  match w with
  | measurement m v => .of fun n => if n = m then v else s.get n
  | sample s => s

/-- The data of an event after a change. -/
def Kind.update (k : Kind) (w : k.Write) (d : k.Data) : k.Data :=
  match k, w, d with
  | polarity, w, d => PolarityWrite.update w d
  | imu9, w, d => Imu9Write.update w d

/-- The data of an event in an empty slot. -/
def Kind.emptyData (k : Kind) : k.Data :=
  match k with
  | polarity => PolarityData.mk 0 0 false
  | imu9 => Imu9Sample.of fun _ => ⟨0⟩

/-! ### Fields of the data -/

/-- A field of the data of a polarity event. -/
inductive PolarityField
  | x
  | y
  | polarity
  deriving DecidableEq

/-- The bits of a field. -/
def PolarityData.bits (d : PolarityData) : PolarityField → UInt32
  | .x => d.x.toUInt32
  | .y => d.y.toUInt32
  | .polarity => if d.on then 1 else 0

/-- The bits that a change gives to a field, if it concerns the field. -/
def PolarityWrite.assigned? : PolarityWrite → PolarityField → Option UInt32
  | x v, .x => some (v.toUInt32 &&& 0x7FFF)
  | y v, .y => some (v.toUInt32 &&& 0x7FFF)
  | polarity on, .polarity => some (if on then 1 else 0)
  | _, _ => none

/-- The bits that a change gives to a measurement, if it concerns the measurement. -/
def Imu9Write.assigned? (w : Imu9Write) (m : Measurement) : Option UInt32 :=
  match w with
  | measurement n v => if m = n then some v.bits else none
  | sample s => some (s.get m).bits

namespace Kind

/-- The fields of the data of an event. -/
abbrev Field : Kind → Type
  | polarity => PolarityField
  | imu9 => Measurement

/-- The bits of a field. -/
def fieldBits (k : Kind) (d : k.Data) (f : k.Field) : UInt32 :=
  match k, d, f with
  | polarity, d, f => PolarityData.bits d f
  | imu9, d, f => (Imu9Sample.get d f).bits

/-- The bits that a change gives to a field, if it concerns the field. -/
def assigned? (k : Kind) (w : k.Write) (f : k.Field) : Option UInt32 :=
  match k, w, f with
  | polarity, w, f => PolarityWrite.assigned? w f
  | imu9, w, f => Imu9Write.assigned? w f

end Kind

/-! ### Packets without bytes -/

/-- The value of a slot. -/
@[ext]
structure SlotValue (k : Kind) where
  valid : Bool
  timestamp : Int32
  data : k.Data

/-- The values of a packet. -/
@[ext]
structure Records (k : Kind) where
  source : Int16
  overflow : Int32
  /-- how often an event became valid -/
  number : Int
  /-- how many events are valid -/
  validCount : Int
  slots : List (SlotValue k)

namespace Records

variable {k : Kind}

/-- The largest value of a counter. -/
def counterLimit : Int := Int32.maxValue.toInt

/-- Carries out a call on the slot `i` with value `s`. -/
def performSlot (r : Records k) (i : Nat) (s : SlotValue k) : SlotCall k → Reply × Records k
  | .write w => (.done, { r with slots := r.slots.set i { s with data := k.update w s.data } })
  | .setTimestamp t =>
    if t.toInt < 0 then (.refused (.negativeValue "set_timestamp" t.toInt), r)
    else (.done, { r with slots := r.slots.set i { s with timestamp := t } })
  | .validate =>
    if s.valid then (.refused .alreadyValid, r)
    else
      (.done,
        { r with
          number := min (r.number + 1) counterLimit
          validCount := min (r.validCount + 1) counterLimit
          slots := r.slots.set i { s with valid := true } })
  | .invalidate =>
    if s.valid then
      (.done,
        { r with
          validCount := r.validCount - 1
          slots := r.slots.set i { s with valid := false } })
    else (.refused .alreadyInvalid, r)

/-- The answer to a call and the records afterwards. -/
def perform (r : Records k) : Call k → Reply × Records k
  | .slot index c =>
    if index.toInt < 0 then (.noSlot, r)
    else
      match r.slots[index.toInt.toNat]? with
      | some s => r.performSlot index.toInt.toNat s c
      | none => (.noSlot, r)
  | .setSource v =>
    if v.toInt < 0 then (.refused (.negativeValue "set_event_source" v.toInt), r)
    else (.done, { r with source := v })
  | .setOverflow v =>
    if v.toInt < 0 then (.refused (.negativeValue "set_event_ts_overflow" v.toInt), r)
    else (.done, { r with overflow := v })

/-- The answers to a sequence of calls and the records afterwards. -/
def performAll (r : Records k) : List (Call k) → List Reply × Records k
  | [] => ([], r)
  | c :: cs =>
    let (reply, r) := r.perform c
    let (replies, r) := r.performAll cs
    (reply :: replies, r)

/-- The 64-bit timestamp of a slot, taken against the overflow counter of the packet. -/
def timestamp64 (r : Records k) (s : SlotValue k) : Int :=
  r.overflow.toInt * 0x80000000 + s.timestamp.toInt

/-- The event with an index, if there is a slot. -/
def event? (r : Records k) (index : Int32) : Option (Event k) :=
  if index.toInt < 0 then none
  else
    r.slots[index.toInt.toNat]?.map fun s =>
      { slot := index.toInt.toNat
        valid := s.valid
        timestamp := s.timestamp
        timestamp64 := Int64.ofInt (r.timestamp64 s)
        data := s.data }

variable (k) in
/-- A packet with empty slots.  A negative source or overflow counter is left at zero. -/
def fresh (capacity : Int32) (source : Int16) (overflow : Int32) : Records k where
  source := if source.toInt < 0 then 0 else source
  overflow := if overflow.toInt < 0 then 0 else overflow
  number := 0
  validCount := 0
  slots := List.replicate capacity.toInt.toNat ⟨false, 0, k.emptyData⟩

end Records

namespace Packet

variable {k : Kind}

/-- The value of slot `i`. -/
def slotValue (p : Packet k) (i : Nat) : SlotValue k where
  valid := Slot.marked k p.bytes i
  timestamp := Slot.timestamp k p.bytes i
  data := k.readData p.bytes (Slot.start k i)

/-- The values that the buffer of a packet holds. -/
def records (p : Packet k) : Records k where
  source := p.source
  overflow := p.overflow
  number := p.number.toInt
  validCount := p.validCount.toInt
  slots := (List.range p.capacity.toNatClampNeg).map p.slotValue

section

variable (p : Packet k) (i : Nat)

@[simp]
theorem valid_slotValue : (p.slotValue i).valid = Slot.marked k p.bytes i := by
  rw [slotValue]

@[simp]
theorem timestamp_slotValue : (p.slotValue i).timestamp = Slot.timestamp k p.bytes i := by
  rw [slotValue]

@[simp]
theorem data_slotValue : (p.slotValue i).data = k.readData p.bytes (Slot.start k i) := by
  rw [slotValue]

@[simp]
theorem source_records : p.records.source = p.source := by
  rw [records]

@[simp]
theorem overflow_records : p.records.overflow = p.overflow := by
  rw [records]

@[simp]
theorem number_records : p.records.number = p.number.toInt := by
  rw [records]

@[simp]
theorem validCount_records : p.records.validCount = p.validCount.toInt := by
  rw [records]

theorem slots_records :
    p.records.slots = (List.range p.capacity.toNatClampNeg).map p.slotValue := by
  rw [records]

end

end Packet

end EventPackets
