/-!
# Binary floating point

The finite numbers of a binary floating-point format are the multiples of a power of two with a
bounded number of binary digits.  Their magnitudes are numbered in increasing order by the bits
below the sign, so that rounding to the format is rounding to such a number.

## Main definitions

* `BinaryFormat` : a format, given by its precision and its exponents.
* `BinaryFormat.scaled` : the magnitude with given bits, as a multiple of a power of two.
* `BinaryFormat.nearest` : the bits of the magnitude nearest to a quotient.
* `roundHalfEven` : the integer nearest to a quotient.
-/

namespace EventPackets

/-- The integer nearest to `num / den`; of two equally near ones the even one. -/
def roundHalfEven (num den : Nat) : Nat :=
  let q := num / den
  let r := num % den
  if 2 * r < den then q
  else if den < 2 * r then q + 1
  else q + q % 2

/-- A binary floating-point format with bits for sign, exponent and fraction, in this order. -/
structure BinaryFormat where
  /-- the binary digits of a normal number -/
  precision : Nat
  /-- the bits that hold the exponent -/
  exponentBits : Nat
  /-- the exponent of the unit of the smallest numbers -/
  minExponent : Int

namespace BinaryFormat

/-- The format of 32 bits. -/
def binary32 : BinaryFormat := ⟨24, 8, -149⟩

/-- The format of 64 bits. -/
def binary64 : BinaryFormat := ⟨53, 11, -1074⟩

variable (f : BinaryFormat)

/-- The weight of the lowest exponent bit. -/
def exponentUnit : Nat := 1 <<< (f.precision - 1)

/-- The bits of infinity, above those of all finite magnitudes. -/
def infinity : Nat := ((1 <<< f.exponentBits) - 1) * f.exponentUnit

/-- The weight of the sign bit. -/
def signUnit : Nat := (1 <<< f.exponentBits) * f.exponentUnit

/-- The finite magnitude with the given bits, as a pair `(m, q)` that stands for `m * 2 ^ q`. -/
def scaled (magnitude : Nat) : Nat × Int :=
  let e := magnitude / f.exponentUnit
  let fraction := magnitude % f.exponentUnit
  if e = 0 then (fraction, f.minExponent)
  else (fraction + f.exponentUnit, f.minExponent + (e : Int) - 1)

/-- The integer nearest to the quotient divided by `2 ^ e`. -/
def roundScaled (num den : Nat) (e : Int) : Nat :=
  if 0 ≤ e then roundHalfEven num (den <<< e.toNat)
  else roundHalfEven (num <<< (-e).toNat) den

/-- Whether the quotient divided by `2 ^ e` is smaller than `2 ^ n`. -/
def belowScaled (num den : Nat) (e : Int) (n : Nat) : Bool :=
  if 0 ≤ e then num < den <<< (e.toNat + n)
  else num <<< (-e).toNat < den <<< n

/-- The exponent of the unit in which a positive quotient has as many binary digits as the
precision allows, or of the smallest unit. -/
def unitExponent (num den : Nat) : Int :=
  let e := (num.log2 : Int) - den.log2 - f.precision
  max f.minExponent (if belowScaled num den e f.precision then e else e + 1)

/-- The bits of the magnitude nearest to `num / den`; of two equally near ones the one with even
bits.  Beyond the largest finite magnitude this is infinity. -/
def nearest (num den : Nat) : Nat :=
  if num = 0 then 0
  else
    let e := f.unitExponent num den
    let m := roundScaled num den e
    min f.infinity ((e - f.minExponent).toNat * f.exponentUnit + m)

/-- The bits of the magnitude nearest to `m * 2 ^ q`. -/
def nearestScaled (m : Nat) (q : Int) : Nat :=
  if 0 ≤ q then f.nearest (m <<< q.toNat) 1 else f.nearest m (1 <<< (-q).toNat)

end BinaryFormat

end EventPackets
