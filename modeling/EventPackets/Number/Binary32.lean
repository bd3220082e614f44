import EventPackets.Number.Binary
import EventPackets.Number.Digits
import EventPackets.Number.Shortest
import EventPackets.Record.Imu9

/-!
# Text of binary32 numbers

A binary32 number is written with the fewest decimal digits that read back as the same number,
and of these the nearest to it, never with an exponent.

## Main definitions

* `Decimal.plain` : a decimal written without an exponent.
* `Binary32.shortest` : the decimal that stands for a finite number.
* `Binary32.text` : the text of a number.
* `Binary32.ofBinary64` : the binary32 number nearest to a binary64 number.
-/

namespace EventPackets

/-- The decimal written without an exponent: zeros fill the places between the digits and the
point. -/
def Decimal.plain (d : Decimal) : List Char :=
  let ds := Digits.ofNat d.digits
  if 0 ≤ d.exponent then ds ++ List.replicate d.exponent.toNat '0'
  else
    let places := (-d.exponent).toNat
    let padded := List.replicate (places + 1 - ds.length) '0' ++ ds
    padded.take (padded.length - places) ++ '.' :: padded.drop (padded.length - places)

namespace Binary32

/-- Whether the sign bit is set. -/
def negative (x : Binary32) : Bool :=
  BinaryFormat.binary32.signUnit ≤ x.bits.toNat

/-- The bits below the sign. -/
def magnitude (x : Binary32) : Nat :=
  x.bits.toNat % BinaryFormat.binary32.signUnit

/-- Whether the number is a NaN. -/
def isNaN (x : Binary32) : Bool :=
  BinaryFormat.binary32.infinity < x.magnitude

/-- The number with a sign and the bits below it. -/
def ofParts (negative : Bool) (magnitude : Nat) : Binary32 :=
  ⟨UInt32.ofNat ((if negative then BinaryFormat.binary32.signUnit else 0) + magnitude)⟩

/-- The quiet NaN without a payload. -/
def nan : Binary32 := ⟨0x7FC00000⟩

/-- The reals that round to a positive finite magnitude, with the magnitude, in quarters of its
unit.  The lower neighbour of a power of two is nearer than the upper one. -/
def interval (magnitude : Nat) : Interval :=
  let v := BinaryFormat.binary32.scaled magnitude
  let power := BinaryFormat.binary32.exponentUnit
  let below := if v.1 = power ∧ power < magnitude then 1 else 2
  { unit := v.2 - 2
    low := 4 * v.1 - below
    number := 4 * v.1
    high := 4 * v.1 + 2
    closed := v.1 % 2 == 0 }

/-- The decimal that stands for a finite magnitude.  Nine digits always suffice, so the grids
from `10 ^ 38` to `10 ^ (-53)` do. -/
def shortest (magnitude : Nat) : Decimal :=
  if magnitude = 0 then ⟨0, 0⟩
  else ((interval magnitude).shortest 38 92).getD ⟨0, 0⟩

/-- The text of a number. -/
def chars (x : Binary32) : List Char :=
  if x.isNaN then ['N', 'a', 'N']
  else
    (if x.negative then ['-'] else []) ++
      if x.magnitude = BinaryFormat.binary32.infinity then ['i', 'n', 'f']
      else (shortest x.magnitude).plain

/-- The text of a number. -/
def text (x : Binary32) : String :=
  String.ofList x.chars

/-- The binary32 number nearest to the binary64 number with the given bits. -/
def ofBinary64 (bits : UInt64) : Binary32 :=
  let f := BinaryFormat.binary64
  let negative := f.signUnit ≤ bits.toNat
  let magnitude := bits.toNat % f.signUnit
  if f.infinity < magnitude then nan
  else if magnitude = f.infinity then ofParts negative BinaryFormat.binary32.infinity
  else
    let v := f.scaled magnitude
    ofParts negative (BinaryFormat.binary32.nearestScaled v.1 v.2)

end Binary32

/-- The bits of the binary64 number nearest to an integer, unless it is beyond the finite
numbers. -/
def binary64OfInt? (n : Int) : Option UInt64 :=
  let f := BinaryFormat.binary64
  let magnitude := f.nearest n.natAbs 1
  if magnitude = f.infinity then none
  else some (UInt64.ofNat ((if n < 0 then f.signUnit else 0) + magnitude))

end EventPackets
