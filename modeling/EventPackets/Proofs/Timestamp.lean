import Mathlib.Data.Prod.Lex
import EventPackets.Packet.Basic

/-!
# Timestamps of 64 bits as numbers

Shifting the overflow counter above bit 31 and joining the timestamp below it is the same as adding
the two, as long as the timestamp is not negative.  Then 64-bit timestamps are ordered by overflow
counter first and by timestamp next.  A negative timestamp fills all bits of the overflow counter,
which is lost.

## Main results

* `toInt_timestamp64_of_nonneg`, `timestamp64_of_neg` : the 64-bit timestamp, by the sign of the
  timestamp.
* `timestamp64_lt_iff`, `timestamp64_eq_iff` : the order of 64-bit timestamps.
* `timestamp64_nonneg_iff` : when a 64-bit timestamp is not negative.
-/

namespace EventPackets

variable {overflow timestamp overflow' timestamp' : Int32}

/-- A number that is widened repeats its sign from bit 31 on. -/
theorem getLsbD_signExtend_of_le {n : Int32} {i : Nat} (hi : 31 ≤ i) (hlt : i < 64) :
    (n.toBitVec.signExtend 64).getLsbD i = decide (n.toInt < 0) := by
  have hsign : n.toBitVec.getLsbD 31 = n.toBitVec.msb := (BitVec.msb_eq_getLsbD_last _).symm
  rw [BitVec.getLsbD_signExtend, ← Int32.toInt_toBitVec, ← BitVec.msb_eq_toInt,
    decide_eq_true hlt, Bool.true_and]
  split
  · obtain rfl : i = 31 := by omega
    exact hsign
  · rfl

theorem toBitVec_timestamp64 (overflow timestamp : Int32) :
    (timestamp64 overflow timestamp).toBitVec =
      overflow.toBitVec.signExtend 64 <<< 31 ||| timestamp.toBitVec.signExtend 64 := by
  rw [timestamp64, UInt64.toBitVec_toInt64, UInt64.toBitVec_or, UInt64.toBitVec_shiftLeft]
  rfl

/-- The overflow counter and a timestamp that is not negative have no bit in common. -/
theorem shiftLeft_and_eq_zero (overflow : Int32) (ht : 0 ≤ timestamp.toInt) :
    overflow.toInt64.toUInt64 <<< 31 &&& timestamp.toInt64.toUInt64 = 0 := by
  rw [← UInt64.toBitVec_inj, UInt64.toBitVec_and, UInt64.toBitVec_shiftLeft]
  change overflow.toBitVec.signExtend 64 <<< 31 &&& timestamp.toBitVec.signExtend 64 = 0#64
  refine BitVec.eq_of_getLsbD_eq fun i hi => ?_
  rw [BitVec.getLsbD_and, BitVec.getLsbD_shiftLeft, BitVec.getLsbD_zero]
  by_cases hlow : i < 31
  · simp [hlow]
  · simp [getLsbD_signExtend_of_le (n := timestamp) (Nat.not_lt.mp hlow) hi, Int.not_lt.mpr ht]

/-- The overflow counter counts intervals of `2 ^ 31`. -/
theorem toInt_timestamp64_of_nonneg (ht : 0 ≤ timestamp.toInt) :
    (timestamp64 overflow timestamp).toInt = overflow.toInt * 0x80000000 + timestamp.toInt := by
  have hwide (n : Int32) : (n.toBitVec.signExtend 64).toInt = n.toInt :=
    BitVec.toInt_signExtend_of_le (by decide)
  have hpower : (BitVec.twoPow 64 31).toInt = 0x80000000 := by decide
  have hand : overflow.toBitVec.signExtend 64 <<< 31 &&& timestamp.toBitVec.signExtend 64 = 0#64 :=
    congrArg UInt64.toBitVec (shiftLeft_and_eq_zero overflow ht)
  have hle := overflow.le_toInt
  have hlt := overflow.toInt_lt
  have hlt' := timestamp.toInt_lt
  rw [← Int64.toInt_toBitVec, toBitVec_timestamp64, ← BitVec.add_eq_or_of_and_eq_zero _ _ hand,
    BitVec.shiftLeft_eq_mul_twoPow, BitVec.toInt_add, BitVec.toInt_mul, hwide, hwide, hpower,
    Int.bmod_eq_of_le (n := overflow.toInt * 0x80000000) (by omega) (by omega),
    Int.bmod_eq_of_le (by omega) (by omega)]

/-- A negative timestamp leaves nothing of the overflow counter. -/
theorem timestamp64_of_neg (overflow : Int32) (ht : timestamp.toInt < 0) :
    timestamp64 overflow timestamp = timestamp.toInt64 := by
  rw [← Int64.toBitVec_inj, toBitVec_timestamp64, Int32.toBitVec_toInt64]
  refine BitVec.eq_of_getLsbD_eq fun i hi => ?_
  rw [BitVec.getLsbD_or, BitVec.getLsbD_shiftLeft]
  by_cases hlow : i < 31
  · simp [hlow]
  · simp [getLsbD_signExtend_of_le (n := timestamp) (Nat.not_lt.mp hlow) hi, ht]

/-- The 64-bit timestamp for either sign of the timestamp. -/
theorem toInt_timestamp64 (overflow timestamp : Int32) :
    (timestamp64 overflow timestamp).toInt =
      if timestamp.toInt < 0 then timestamp.toInt
      else overflow.toInt * 0x80000000 + timestamp.toInt := by
  split
  next ht => rw [timestamp64_of_neg overflow ht, Int32.toInt_toInt64]
  next ht => rw [toInt_timestamp64_of_nonneg (Int.not_lt.mp ht)]

theorem timestamp64_nonneg_iff :
    0 ≤ (timestamp64 overflow timestamp).toInt ↔ 0 ≤ overflow.toInt ∧ 0 ≤ timestamp.toInt := by
  have hlt := timestamp.toInt_lt
  rw [toInt_timestamp64]
  split <;> omega

/-- 64-bit timestamps are ordered by overflow counter first and by timestamp next. -/
theorem timestamp64_lt_iff (ht : 0 ≤ timestamp.toInt) (ht' : 0 ≤ timestamp'.toInt) :
    timestamp64 overflow timestamp < timestamp64 overflow' timestamp' ↔
      toLex (overflow.toInt, timestamp.toInt) < toLex (overflow'.toInt, timestamp'.toInt) := by
  have hlt := timestamp.toInt_lt
  have hlt' := timestamp'.toInt_lt
  rw [Int64.lt_iff_toInt_lt, toInt_timestamp64_of_nonneg ht, toInt_timestamp64_of_nonneg ht',
    Prod.Lex.toLex_lt_toLex]
  omega

theorem timestamp64_eq_iff (ht : 0 ≤ timestamp.toInt) (ht' : 0 ≤ timestamp'.toInt) :
    timestamp64 overflow timestamp = timestamp64 overflow' timestamp' ↔
      overflow = overflow' ∧ timestamp = timestamp' := by
  have hlt := timestamp.toInt_lt
  have hlt' := timestamp'.toInt_lt
  rw [← Int64.toInt_inj, ← Int32.toInt_inj, ← Int32.toInt_inj, toInt_timestamp64_of_nonneg ht,
    toInt_timestamp64_of_nonneg ht']
  omega

end EventPackets
