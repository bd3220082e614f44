import EventPackets.Number.DecimalText
import EventPackets.Proofs.Text.Split

/-!
# Numbers in decimal digits

Whole numbers and decimals are read back from their digits, with a sign, a point or zeros around
them.

## Main definitions

* `Digits.Writes` : a number in digits, after a plus sign or none.

## Main results

* `Digits.natural?_eq_some_iff` : what is read as a number, and as which.
* `Digits.toNat?_toString`, `Digits.integer?_toString` : whole numbers.
* `Decimal.ofPlain?_plain` : decimals written without an exponent.
-/

namespace EventPackets

namespace Digits

variable {cs : List Char}

theorem isDigit_of_mem_ofNat {n : Nat} {c : Char} (h : c ∈ ofNat n) : c.isDigit :=
  Nat.isDigit_of_mem_toDigits (by decide) (by decide) h

theorem isDigit_of_mem_zeros {n : Nat} {c : Char} (h : c ∈ List.replicate n '0') : c.isDigit := by
  rw [List.eq_of_mem_replicate h]
  rfl

theorem toNat?_of_ne_nil (h : cs ≠ []) : toNat? cs = foldFrom 0 cs := by
  cases cs with
  | nil => exact absurd rfl h
  | cons c cs => rfl

/-! ### Values -/

theorem value?_eq (c : Char) :
    value? c = if c.isDigit then some (c.toNat - '0'.toNat) else none := by
  simp only [value?, Char.isDigit_iff_toNat]
  rfl

/-- A run of digits is read as its value, and nothing else is read. -/
theorem foldFrom_eq_some_iff {n m : Nat} :
    foldFrom n cs = some m ↔ (∀ c ∈ cs, c.isDigit) ∧ Nat.ofDigitChars 10 cs n = m := by
  induction cs generalizing n with
  | nil => simp [foldFrom]
  | cons c cs ih =>
    rw [foldFrom, value?_eq, List.forall_mem_cons, Nat.ofDigitChars_cons]
    by_cases hc : c.isDigit
    · rw [if_pos hc]
      exact ih.trans (by simp only [hc, true_and])
    · rw [if_neg hc]
      exact ⟨fun h => absurd h.symm (Option.some_ne_none m), fun h => absurd h.1.1 hc⟩

theorem toNat?_eq_some_iff {n : Nat} :
    toNat? cs = some n ↔ cs ≠ [] ∧ (∀ c ∈ cs, c.isDigit) ∧ Nat.ofDigitChars 10 cs 0 = n := by
  cases cs with
  | nil => exact ⟨fun h => absurd h.symm (Option.some_ne_none n), fun h => absurd rfl h.1⟩
  | cons c cs =>
    rw [toNat?_of_ne_nil (List.cons_ne_nil c cs), foldFrom_eq_some_iff]
    exact (and_iff_right (List.cons_ne_nil c cs)).symm

/-- The characters write the number `n`: one digit or more, any number of zeros first, after a plus
sign or none. -/
def Writes (n : Nat) (cs : List Char) : Prop :=
  ∃ ds, (cs = ds ∨ cs = '+' :: ds) ∧ ds ≠ [] ∧ (∀ c ∈ ds, c.isDigit) ∧
    Nat.ofDigitChars 10 ds 0 = n

theorem natural?_eq_some_iff {n : Nat} : natural? cs = some n ↔ Writes n cs := by
  unfold natural?
  split
  next rest =>
    rw [toNat?_eq_some_iff]
    refine ⟨fun h => ⟨rest, .inr rfl, h⟩, ?_⟩
    rintro ⟨ds, rfl | hplus, hne, hdigits, hvalue⟩
    · exact absurd (hdigits '+' List.mem_cons_self) (by decide)
    · obtain rfl := List.tail_eq_of_cons_eq hplus
      exact ⟨hne, hdigits, hvalue⟩
  next hplus =>
    rw [toNat?_eq_some_iff]
    refine ⟨fun h => ⟨cs, .inl rfl, h⟩, ?_⟩
    rintro ⟨ds, rfl | rfl, h⟩
    · exact h
    · exact absurd rfl (hplus ds)

theorem byte?_eq_some_iff {n : Nat} : byte? cs = some n ↔ Writes n cs ∧ n < 256 := by
  rw [byte?, Option.filter_eq_some_iff, natural?_eq_some_iff, decide_eq_true_eq]

theorem Writes.unique {m n : Nat} (hm : Writes m cs) (hn : Writes n cs) : m = n :=
  Option.some.inj ((natural?_eq_some_iff.mpr hm).symm.trans (natural?_eq_some_iff.mpr hn))

/-! ### Signs -/

/-- A run of digits has no sign. -/
theorem integer?_of_isDigit (h : ∀ c ∈ cs, c.isDigit) :
    integer? cs = (toNat? cs).map fun n => (n : Int) := by
  have hhead : ∀ c rest, cs = c :: rest → c ≠ '-' ∧ c ≠ '+' := by
    rintro c rest rfl
    have hdigit := h c List.mem_cons_self
    constructor <;> rintro rfl <;> cases hdigit
  unfold integer?
  split
  next rest => exact absurd rfl (hhead '-' rest rfl).1
  next =>
    unfold natural?
    split
    next rest _ => exact absurd rfl (hhead '+' rest rfl).2
    next => rfl

theorem toNat?_toString (n : Nat) : toNat? (toString n).toList = some n := by
  rw [Nat.toString_eq_repr, Nat.toList_repr]
  exact toNat?_ofNat n

/-- An integer is read back from its decimal digits, with a minus sign before them or none. -/
theorem integer?_toString (z : Int) : integer? (toString z).toList = some z := by
  cases z with
  | ofNat n =>
    have htext : (toString (Int.ofNat n)).toList = ofNat n := Nat.toList_repr
    rw [htext, integer?_of_isDigit fun _ => isDigit_of_mem_ofNat, toNat?_ofNat]
    rfl
  | negSucc n =>
    have htext : (toString (Int.negSucc n)).toList = '-' :: ofNat (n + 1) := by
      have hrepr : toString (Int.negSucc n) = "-" ++ (n + 1).repr := rfl
      rw [hrepr, String.toList_append, Nat.toList_repr]
      rfl
    rw [htext, integer?, toNat?_ofNat]
    rfl

/-! ### Zeros -/

/-- Each zero after a number is a factor of ten. -/
theorem foldFrom_zeros (n k : Nat) :
    foldFrom n (List.replicate k '0') = some (n * Nat.pow 10 k) := by
  induction k generalizing n with
  | zero => exact congrArg some (Nat.mul_one n).symm
  | succ k ih =>
    have hzero : value? '0' = some 0 := rfl
    rw [List.replicate_succ, foldFrom, hzero]
    dsimp only
    rw [ih, Nat.add_zero, Nat.pow_eq, Nat.pow_eq, Nat.pow_succ', Nat.mul_comm 10 n, Nat.mul_assoc]

theorem toNat?_append_zeros (n k : Nat) :
    toNat? (ofNat n ++ List.replicate k '0') = some (n * Nat.pow 10 k) := by
  rw [toNat?_of_ne_nil (List.append_ne_nil_of_left_ne_nil (ofNat_ne_nil n) _), foldFrom_append,
    foldFrom_ofNat, Option.bind_some, foldFrom_zeros]

/-- Zeros before a number do not count. -/
theorem toNat?_zeros_append (k n : Nat) :
    toNat? (List.replicate k '0' ++ ofNat n) = some n := by
  rw [toNat?_of_ne_nil (List.append_ne_nil_of_right_ne_nil _ (ofNat_ne_nil n)), foldFrom_append,
    foldFrom_zeros, Option.bind_some, Nat.zero_mul, foldFrom_ofNat]

theorem point_not_mem (h : ∀ c ∈ cs, c.isDigit) : '.' ∉ cs := by
  intro hmem
  have hdigit := h _ hmem
  cases hdigit

end Digits

namespace Decimal

variable {cs whole fraction : List Char}

theorem ofPlain?_of_isDigit (h : ∀ c ∈ cs, c.isDigit) :
    ofPlain? cs = (Digits.toNat? cs).map fun n => ⟨n, 0⟩ := by
  rw [ofPlain?, Text.splitAt_of_not_mem (Digits.point_not_mem h)]

theorem ofPlain?_of_point (hdigit : ∀ c ∈ whole ++ fraction, c.isDigit) (hwhole : whole ≠ [])
    (hfraction : fraction ≠ []) :
    ofPlain? (whole ++ '.' :: fraction) =
      (Digits.toNat? (whole ++ fraction)).map fun n => ⟨n, -(fraction.length : Int)⟩ := by
  rw [List.forall_mem_append] at hdigit
  rw [ofPlain?, Text.splitAt_append (Digits.point_not_mem hdigit.1),
    Text.splitAt_of_not_mem (Digits.point_not_mem hdigit.2)]
  dsimp only
  rw [if_neg]
  simp [hwhole, hfraction]

/-- Zeros before the digits that leave at least one digit before the point. -/
def padded (d : Decimal) : List Char :=
  List.replicate ((-d.exponent).toNat + 1 - (Digits.ofNat d.digits).length) '0' ++
    Digits.ofNat d.digits

theorem lt_length_padded (d : Decimal) : (-d.exponent).toNat < d.padded.length := by
  rw [padded, List.length_append, List.length_replicate]
  omega

theorem toNat?_padded (d : Decimal) : Digits.toNat? d.padded = some d.digits :=
  Digits.toNat?_zeros_append _ _

theorem isDigit_of_mem_padded {d : Decimal} {c : Char} (h : c ∈ d.padded) : c.isDigit := by
  rcases List.mem_append.mp h with h | h
  · exact Digits.isDigit_of_mem_zeros h
  · exact Digits.isDigit_of_mem_ofNat h

theorem plain_of_nonneg {d : Decimal} (h : 0 ≤ d.exponent) :
    d.plain = Digits.ofNat d.digits ++ List.replicate d.exponent.toNat '0' := by
  rw [plain, if_pos h]

theorem plain_of_neg {d : Decimal} (h : ¬ 0 ≤ d.exponent) :
    d.plain = d.padded.take (d.padded.length - (-d.exponent).toNat) ++
      '.' :: d.padded.drop (d.padded.length - (-d.exponent).toNat) := by
  rw [plain, if_neg h]
  rfl

/-- A decimal written without an exponent is digits and at most one point. -/
theorem isDigit_or_point_of_mem_plain {d : Decimal} {c : Char} (h : c ∈ d.plain) :
    c.isDigit ∨ c = '.' := by
  by_cases he : 0 ≤ d.exponent
  · rw [plain_of_nonneg he, List.mem_append] at h
    exact .inl (h.elim Digits.isDigit_of_mem_ofNat Digits.isDigit_of_mem_zeros)
  · rw [plain_of_neg he, List.mem_append, List.mem_cons] at h
    rcases h with h | h | h
    · exact .inl (isDigit_of_mem_padded (List.mem_of_mem_take h))
    · exact .inr h
    · exact .inl (isDigit_of_mem_padded (List.mem_of_mem_drop h))

/-- A decimal is read back, as a whole number if it has no point. -/
theorem ofPlain?_plain (d : Decimal) :
    ofPlain? d.plain =
      some (if 0 ≤ d.exponent then ⟨d.digits * Nat.pow 10 d.exponent.toNat, 0⟩ else d) := by
  by_cases he : 0 ≤ d.exponent
  · have hdigit : ∀ c ∈ Digits.ofNat d.digits ++ List.replicate d.exponent.toNat '0',
        c.isDigit := fun c hc => (List.mem_append.mp hc).elim
      Digits.isDigit_of_mem_ofNat Digits.isDigit_of_mem_zeros
    rw [plain_of_nonneg he, ofPlain?_of_isDigit hdigit, Digits.toNat?_append_zeros, if_pos he]
    rfl
  · have hlength := d.lt_length_padded
    have hjoin := List.take_append_drop (d.padded.length - (-d.exponent).toNat) d.padded
    have hfraction : ((d.padded.drop (d.padded.length - (-d.exponent).toNat)).length : Int) =
        -d.exponent := by
      rw [List.length_drop]
      omega
    rw [plain_of_neg he, ofPlain?_of_point, hjoin, toNat?_padded, hfraction, Int.neg_neg, if_neg he]
    · rfl
    · rw [hjoin]
      exact fun c => isDigit_of_mem_padded
    · exact List.ne_nil_of_length_pos (by rw [List.length_take]; omega)
    · exact List.ne_nil_of_length_pos (by rw [List.length_drop]; omega)

end Decimal

end EventPackets
