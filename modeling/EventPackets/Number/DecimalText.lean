import EventPackets.Number.Binary32
import EventPackets.Text.Basic

/-!
# Reading decimal numbers

A decimal number without an exponent is read exactly, and then rounded to the nearest binary32
number.  This is what a text of `EventPackets.Number.Binary32` means to its reader.

## Main definitions

* `Decimal.ofPlain?` : the decimal that a text stands for.
* `Binary32.ofChars?` : the binary32 number nearest to what a text stands for.
-/

namespace EventPackets

/-- The decimal that digits stand for, with a point between them or without. -/
def Decimal.ofPlain? (cs : List Char) : Option Decimal :=
  match Text.splitAt '.' cs with
  | [whole] => (Digits.toNat? whole).map fun n => ⟨n, 0⟩
  | [whole, fraction] =>
    if whole.isEmpty || fraction.isEmpty then none
    else (Digits.toNat? (whole ++ fraction)).map fun n => ⟨n, -(fraction.length : Int)⟩
  | _ => none

namespace Binary32

/-- The bits of the magnitude nearest to a decimal. -/
def nearestDecimal (d : Decimal) : Nat :=
  if 0 ≤ d.exponent then BinaryFormat.binary32.nearest (d.digits * Nat.pow 10 d.exponent.toNat) 1
  else BinaryFormat.binary32.nearest d.digits (Nat.pow 10 (-d.exponent).toNat)

/-- The bits of the magnitude that a text without a sign stands for. -/
def magnitudeOf? (cs : List Char) : Option Nat :=
  if cs = ['i', 'n', 'f'] then some BinaryFormat.binary32.infinity
  else (Decimal.ofPlain? cs).map nearestDecimal

/-- The binary32 number nearest to what a text stands for. -/
def ofChars? (cs : List Char) : Option Binary32 :=
  if cs = ['N', 'a', 'N'] then some nan
  else
    match cs with
    | '-' :: cs => (magnitudeOf? cs).map (ofParts true)
    | cs => (magnitudeOf? cs).map (ofParts false)

end Binary32

end EventPackets
