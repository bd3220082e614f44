import EventPackets.Bytes

/-!
# Polarity records

A polarity event reports a change of brightness at one pixel: its address and whether the
intensity went up or down.  The record has eight bytes:

    0   data word   x in bits 31..17, y in bits 16..2, polarity in bit 1, validity mark in bit 0
    4   timestamp

Several small values share the data word; a bit field says where one of them sits.

## Main definitions

* `BitField.get`, `BitField.set` : the value of a field in a word, and the word with another
  value in the field.
* `PolarityData` : what a polarity record holds besides mark and timestamp.
* `PolarityData.read` : the data of a record.
* `PolarityWrite` : a change of one field.
-/

namespace EventPackets

/-- A run of bits in a 32-bit word: `mask`, moved up by `shift`, covers it. -/
structure BitField where
  shift : UInt32
  mask : UInt32

namespace BitField

/-- The value of the field in the word `w`. -/
def get (f : BitField) (w : UInt32) : UInt32 :=
  (w >>> f.shift) &&& f.mask

/-- The word `w` with the value `v` in the field; bits of `v` that do not fit are dropped. -/
def set (f : BitField) (w v : UInt32) : UInt32 :=
  (w &&& ~~~(f.mask <<< f.shift)) ||| ((v &&& f.mask) <<< f.shift)

/-- Bit 0 of a record's first word, set while the event is valid. -/
def mark : BitField := ⟨0, 1⟩

/-- The direction of the change. -/
def polarity : BitField := ⟨1, 1⟩

/-- The vertical address. -/
def yAddress : BitField := ⟨2, 0x7FFF⟩

/-- The horizontal address. -/
def xAddress : BitField := ⟨17, 0x7FFF⟩

end BitField

/-- The address of a pixel and the direction of the change. -/
structure PolarityData where
  x : UInt16
  y : UInt16
  /-- whether the intensity went up -/
  on : Bool
  deriving DecidableEq

/-- A change of one field of a polarity record.  Addresses keep their lowest 15 bits. -/
inductive PolarityWrite
  | x (v : UInt16)
  | y (v : UInt16)
  | polarity (on : Bool)
  deriving DecidableEq

/-- The data in the data word of a record. -/
def PolarityData.ofWord (w : UInt32) : PolarityData where
  x := (BitField.xAddress.get w).toUInt16
  y := (BitField.yAddress.get w).toUInt16
  on := BitField.polarity.get w != 0

/-- The data of the record that starts at byte `start`. -/
def PolarityData.read (b : Bytes) (start : Nat) : PolarityData :=
  .ofWord (b.word start)

/-- The bit field that a change concerns. -/
def PolarityWrite.field : PolarityWrite → BitField
  | x _ => .xAddress
  | y _ => .yAddress
  | polarity _ => .polarity

/-- The value that a change puts into its field. -/
def PolarityWrite.value : PolarityWrite → UInt32
  | x v => v.toUInt32
  | y v => v.toUInt32
  | polarity on => if on then 1 else 0

/-- Makes the change in the record that starts at byte `start`. -/
def PolarityWrite.apply (w : PolarityWrite) (start : Nat) (b : Bytes) : Bytes :=
  b.setWord start (w.field.set (b.word start) w.value)

end EventPackets
