import EventPackets.Bytes

/-!
# Header fields

Every packet starts with a header of 28 bytes, in which eight signed little-endian numbers
describe the records that follow:

    0   event type               16 bits
    2   event source             16 bits
    4   event size               32 bits, the bytes in a record
    8   timestamp offset         32 bits, where the timestamp stands in a record
    12  timestamp overflow       32 bits
    16  event capacity           32 bits, the slots of the packet
    20  event number             32 bits, how often an event became valid
    24  event valid              32 bits, how many events are valid

## Main definitions

* `Header.Field` : the eight fields, with offset and width.
* `Header.get`, `Header.put` : the value of a field in a buffer, and the buffer with another one.
* `Header.packetSize?` : the bytes of the packet that a header describes.

## Main results

* `Header.get_put_self`, `Header.get_put_of_ne` : the fields are independent of each other.
* `Header.packetSize?_eq` : the size of a packet is never too large for a buffer.
-/

namespace EventPackets.Header

/-- The bytes in a header. -/
def size : Nat := 28

/-- The width of a header field. -/
inductive Width
  | half
  | full
  deriving DecidableEq

namespace Width

/-- The signed numbers of a width. -/
abbrev Value : Width → Type
  | half => Int16
  | full => Int32

/-- The bytes in a field of a width. -/
def bytes : Width → Nat
  | half => 2
  | full => 4

/-- The signed number with the given bits. -/
def decode : (w : Width) → Nat → w.Value
  | half, n => Int16.ofNat n
  | full, n => Int32.ofNat n

/-- The bits of a signed number. -/
def encode : (w : Width) → w.Value → Nat
  | half, v => v.toUInt16.toNat
  | full, v => v.toUInt32.toNat

/-- The integer that a signed number stands for. -/
def toInt : (w : Width) → w.Value → Int
  | half, v => v.toInt
  | full, v => v.toInt

theorem encode_lt (w : Width) (v : w.Value) : w.encode v < Bytes.bound w.bytes := by
  cases w
  · exact UInt16.toNat_lt _
  · exact UInt32.toNat_lt _

theorem decode_encode (w : Width) (v : w.Value) : w.decode (w.encode v) = v := by
  cases w
  · exact Int16.toBitVec_inj.1 (by simp [decode, encode])
  · exact Int32.toBitVec_inj.1 (by simp [decode, encode])

end Width

/-- The fields of a header. -/
inductive Field
  | eventType
  | source
  | eventSize
  | timestampOffset
  | overflow
  | capacity
  | number
  | valid
  deriving DecidableEq

namespace Field

/-- The width of a field. -/
@[reducible]
def width : Field → Width
  | eventType => .half
  | source => .half
  | _ => .full

/-- Where a field stands in the header. -/
def offset : Field → Nat
  | eventType => 0
  | source => 2
  | eventSize => 4
  | timestampOffset => 8
  | overflow => 12
  | capacity => 16
  | number => 20
  | valid => 24

/-- The values of a field. -/
abbrev Value (f : Field) : Type :=
  f.width.Value

/-- The name of the operation that changes a field. -/
def setter : Field → String
  | eventType => "set_event_type"
  | source => "set_event_source"
  | eventSize => "set_event_size"
  | timestampOffset => "set_event_ts_offset"
  | overflow => "set_event_ts_overflow"
  | capacity => "set_event_capacity"
  | number => "set_event_number"
  | valid => "set_event_valid"

theorem offset_add_le (f : Field) : f.offset + f.width.bytes ≤ size := by
  cases f <;> decide

theorem disjoint {f g : Field} (h : f ≠ g) :
    f.offset + f.width.bytes ≤ g.offset ∨ g.offset + g.width.bytes ≤ f.offset := by
  cases f <;> cases g <;> simp_all [offset, Width.bytes]

end Field

/-- The value of a field in a buffer. -/
def get (f : Field) (b : Bytes) : f.Value :=
  f.width.decode (b.readLE f.offset f.width.bytes)

/-- The buffer with another value in a field. -/
def put (f : Field) (v : f.Value) (b : Bytes) : Bytes :=
  b.writeLE f.offset f.width.bytes (f.width.encode v)

/-- The number of the event type. -/
def eventType (b : Bytes) : Int16 := get .eventType b

/-- The number of the device that the events come from. -/
def source (b : Bytes) : Int16 := get .source b

/-- The bytes in a record. -/
def eventSize (b : Bytes) : Int32 := get .eventSize b

/-- Where the timestamp stands in a record. -/
def timestampOffset (b : Bytes) : Int32 := get .timestampOffset b

/-- The overflow counter, which the timestamps of all records share. -/
def overflow (b : Bytes) : Int32 := get .overflow b

/-- The slots of the packet. -/
def capacity (b : Bytes) : Int32 := get .capacity b

/-- How often an event of the packet became valid. -/
def number (b : Bytes) : Int32 := get .number b

/-- How many events of the packet are valid. -/
def valid (b : Bytes) : Int32 := get .valid b

/-- The number of bytes, if one buffer can hold that many. -/
def addressable? (n : Nat) : Option Nat :=
  if n ≤ 0x7FFFFFFFFFFFFFFF then some n else none

/-- The bytes of the packet that the header describes, if capacity and event size are not
negative and one buffer can hold that many bytes. -/
def packetSize? (b : Bytes) : Option Nat :=
  let c := (capacity b).toInt
  let s := (eventSize b).toInt
  if 0 ≤ c ∧ 0 ≤ s then addressable? (size + c.toNat * s.toNat) else none

/-- Capacity and event size are below `2 ^ 31`, so the packet always fits into a buffer. -/
theorem packetSize?_eq (b : Bytes) :
    packetSize? b =
      if 0 ≤ (capacity b).toInt ∧ 0 ≤ (eventSize b).toInt then
        some (size + (capacity b).toInt.toNat * (eventSize b).toInt.toNat)
      else none := by
  have hc := (capacity b).toInt_lt
  have hs := (eventSize b).toInt_lt
  have hmul : (capacity b).toInt.toNat * (eventSize b).toInt.toNat ≤ 0x80000000 * 0x80000000 :=
    Nat.mul_le_mul (by omega) (by omega)
  have hle : size + (capacity b).toInt.toNat * (eventSize b).toInt.toNat ≤ 0x7FFFFFFFFFFFFFFF := by
    rw [size]
    omega
  rw [packetSize?, addressable?, if_pos hle]

@[simp]
theorem size_put (f : Field) (v : f.Value) (b : Bytes) : (put f v b).size = b.size :=
  Bytes.size_writeLE ..

theorem get_put_self {f : Field} {v : f.Value} {b : Bytes} (h : size ≤ b.size) :
    get f (put f v b) = v := by
  rw [get, put, Bytes.readLE_writeLE_self _ _ _ _ (Nat.le_trans f.offset_add_le h),
    Nat.mod_eq_of_lt (f.width.encode_lt v), Width.decode_encode]

theorem get_put_of_ne {f g : Field} (h : f ≠ g) (v : g.Value) (b : Bytes) :
    get f (put g v b) = get f b := by
  rw [get, put, Bytes.readLE_writeLE_of_disjoint _ _ _ _ _ _ (Field.disjoint h), get]

end EventPackets.Header
