import EventPackets.Proofs.Number.Digits
import EventPackets.Proofs.Number.Shortest

/-!
# Reading binary32 numbers

The text of a binary32 number is read back as the same bit pattern, signed zeros and infinities
included.  Only the payload of a NaN is lost.

## Main results

* `Binary32.ofChars?_chars` : what is read from the text of a number.
-/

namespace EventPackets.Binary32

variable {cs : List Char}

/-- A sign and the bits below it are the number. -/
theorem ofParts_eq (x : Binary32) : ofParts x.negative x.magnitude = x := by
  have hlt := x.bits.toNat_lt
  have hdiv := Nat.div_add_mod x.bits.toNat BinaryFormat.binary32.signUnit
  have hunit : BinaryFormat.binary32.signUnit = 0x80000000 := rfl
  rw [ofParts, negative, magnitude]
  rw [hunit] at hdiv ⊢
  have hbits : (if decide (0x80000000 ≤ x.bits.toNat) = true then 0x80000000 else 0) +
      x.bits.toNat % 0x80000000 = x.bits.toNat := by
    split
    next h =>
      rw [decide_eq_true_iff] at h
      omega
    next h =>
      rw [decide_eq_true_iff] at h
      omega
  rw [hbits, UInt32.ofNat_toNat]

/-- A minus sign stands for the sign bit. -/
theorem ofChars?_sign (negative : Bool) (hminus : '-' ∉ cs) (hN : 'N' ∉ cs) :
    ofChars? ((if negative then ['-'] else []) ++ cs) =
      (magnitudeOf? cs).map (ofParts negative) := by
  cases negative with
  | true =>
    rw [if_pos rfl, List.singleton_append, ofChars?, if_neg fun h => by cases h]
  | false =>
    have hNaN : cs ≠ ['N', 'a', 'N'] := by
      rintro rfl
      exact hN List.mem_cons_self
    unfold ofChars?
    rw [if_neg Bool.false_ne_true, List.nil_append, if_neg hNaN]
    split
    next => exact absurd List.mem_cons_self hminus
    next => rfl

/-- What is read from a decimal without a sign is the magnitude nearest to it. -/
theorem magnitudeOf?_plain (d : Decimal) : magnitudeOf? d.plain = some (nearestDecimal d) := by
  rw [magnitudeOf?, if_neg, Decimal.ofPlain?_plain, Option.map_some]
  · split
    next he =>
      have hzero : (Decimal.mk (d.digits * Nat.pow 10 d.exponent.toNat) 0).exponent = 0 := rfl
      rw [nearestDecimal, nearestDecimal, if_pos he, hzero, if_pos (le_refl _)]
      exact congrArg (fun n => some (BinaryFormat.binary32.nearest n 1)) (Nat.mul_one _)
    next => rfl
  · intro h
    have hmem : 'i' ∈ d.plain := h ▸ List.mem_cons_self
    rcases Decimal.isDigit_or_point_of_mem_plain hmem with h | h <;> cases h

theorem not_mem_plain {c : Char} (hdigit : c.isDigit = false) (hpoint : c ≠ '.') (d : Decimal) :
    c ∉ d.plain := by
  intro h
  rcases Decimal.isDigit_or_point_of_mem_plain h with h | h
  · rw [hdigit] at h
    cases h
  · exact hpoint h

/-- A number is read back from its text; of a NaN only that it is one. -/
theorem ofChars?_chars (x : Binary32) : ofChars? x.chars = some (if x.isNaN then nan else x) := by
  rw [chars]
  split
  next => rfl
  next h =>
    have hle : x.magnitude ≤ BinaryFormat.binary32.infinity :=
      Nat.not_lt.mp fun hlt => h (decide_eq_true hlt)
    by_cases hinf : x.magnitude = BinaryFormat.binary32.infinity
    · have hread : magnitudeOf? ['i', 'n', 'f'] = some x.magnitude := congrArg some hinf.symm
      rw [if_pos hinf, ofChars?_sign _ (by decide) (by decide), hread, Option.map_some, ofParts_eq]
    · rw [if_neg hinf,
        ofChars?_sign _ (not_mem_plain rfl (by decide) _) (not_mem_plain rfl (by decide) _),
        magnitudeOf?_plain, nearestDecimal_shortest (Nat.lt_of_le_of_ne hle hinf), Option.map_some,
        ofParts_eq]

end EventPackets.Binary32
