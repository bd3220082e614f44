import Mathlib.Algebra.Order.Field.Power
import Mathlib.Algebra.Order.Ring.Rat
import Mathlib.Tactic.FieldSimp
import Mathlib.Tactic.Linarith
import Mathlib.Tactic.NormNum
import Mathlib.Tactic.Positivity
import Mathlib.Tactic.Ring
import EventPackets.Number.Binary

/-!
# Rounding to a binary format

A quotient rounds to a finite magnitude of a binary format if and only if it is no further away
than half the way to the next magnitude on its side, and nearer than that if the multiple of the
unit that the magnitude is is odd.  Below a power of two the next magnitude is only half a unit
away.

## Main definitions

* `RoundsTo` : the numbers that round to an integer.
* `BinaryFormat.Near` : the numbers that round to a magnitude.

## Main results

* `rounds_roundHalfEven`, `RoundsTo.unique` : the integer that a quotient rounds to.
* `BinaryFormat.unitExponent_spec` : the unit in which a quotient is rounded.
* `BinaryFormat.scaled_spec`, `BinaryFormat.scaled_eq` : a magnitude as a multiple of its unit.
* `BinaryFormat.nearest_eq`, `BinaryFormat.near_nearest` : the magnitude that a quotient rounds to.
-/

namespace EventPackets

/-! ### Integers -/

/-- A number rounds to an integer: it is at most one half away, and less if the integer is odd. -/
structure RoundsTo (x : ℚ) (k : Nat) : Prop where
  near : |x - k| ≤ 1 / 2
  strict : k % 2 = 1 → |x - k| < 1 / 2

/-- It rounds to one integer only: halfway between two of them one is odd. -/
theorem RoundsTo.unique {x : ℚ} {k l : Nat} (hk : RoundsTo x k) (hl : RoundsTo x l) : k = l := by
  wlog hlt : k < l generalizing k l
  · by_contra hne
    exact hne (this hl hk (by omega)).symm
  have hk' := abs_le.mp hk.near
  have hl' := abs_le.mp hl.near
  have hsucc : l = k + 1 := by
    have hle : (l : ℚ) ≤ k + 1 := by linarith
    have hle' : l ≤ k + 1 := by exact_mod_cast hle
    omega
  rw [hsucc, Nat.cast_add, Nat.cast_one] at hl'
  exfalso
  rcases Nat.mod_two_eq_zero_or_one k with heven | hodd
  · have hstrict := abs_lt.mp (hl.strict (by omega))
    rw [hsucc, Nat.cast_add, Nat.cast_one] at hstrict
    linarith
  · have hstrict := abs_lt.mp (hk.strict hodd)
    linarith

/-- An integer below a number is below the one that the number rounds to. -/
theorem RoundsTo.le_of_le {x : ℚ} {k n : Nat} (h : RoundsTo x k) (hn : n ≤ x) : n ≤ k := by
  have hlt : (n : ℚ) < k + 1 := by linarith [abs_le.mp h.near]
  exact Nat.lt_succ_iff.mp (by exact_mod_cast hlt)

theorem RoundsTo.le_of_lt {x : ℚ} {k n : Nat} (h : RoundsTo x k) (hn : x < n) : k ≤ n := by
  have hlt : (k : ℚ) < n + 1 := by linarith [abs_le.mp h.near]
  exact Nat.lt_succ_iff.mp (by exact_mod_cast hlt)

theorem rounds_roundHalfEven {num den : Nat} (hd : 0 < den) :
    RoundsTo (num / den) (roundHalfEven num den) := by
  have hdq : (0 : ℚ) < den := Nat.cast_pos.mpr hd
  have hquotient : (num / den : ℚ) = (num / den : Nat) + (num % den : Nat) / den := by
    have hdiv : (num : ℚ) = den * (num / den : Nat) + (num % den : Nat) := by
      exact_mod_cast (Nat.div_add_mod num den).symm
    rw [div_eq_iff hdq.ne', add_mul, div_mul_cancel₀ _ hdq.ne', hdiv, mul_comm]
  have hnonneg : (0 : ℚ) ≤ (num % den : Nat) / den := by positivity
  have hlt : ((num % den : Nat) / den : ℚ) < 1 := by
    rw [div_lt_one hdq]
    exact_mod_cast Nat.mod_lt num hd
  rw [hquotient, roundHalfEven]
  split_ifs with hdown hup
  · have hbelow : ((num % den : Nat) / den : ℚ) < 1 / 2 := by
      rw [div_lt_div_iff₀ hdq two_pos]
      exact_mod_cast (by omega : num % den * 2 < 1 * den)
    have habs : |((num / den : Nat) + (num % den : Nat) / den - (num / den : Nat) : ℚ)| < 1 / 2 :=
      abs_lt.mpr ⟨by linarith, by linarith⟩
    exact ⟨habs.le, fun _ => habs⟩
  · have habove : (1 / 2 : ℚ) < (num % den : Nat) / den := by
      rw [div_lt_div_iff₀ two_pos hdq]
      exact_mod_cast (by omega : 1 * den < num % den * 2)
    have habs : |((num / den : Nat) + (num % den : Nat) / den - (num / den + 1 : Nat) : ℚ)| <
        1 / 2 := by
      push_cast
      exact abs_lt.mpr ⟨by linarith, by linarith⟩
    exact ⟨habs.le, fun _ => habs⟩
  · have hhalf : ((num % den : Nat) / den : ℚ) = 1 / 2 := by
      rw [div_eq_div_iff hdq.ne' two_ne_zero]
      exact_mod_cast (by omega : num % den * 2 = 1 * den)
    rw [hhalf]
    rcases Nat.mod_two_eq_zero_or_one (num / den) with h | h
    · rw [h, Nat.add_zero]
      exact ⟨abs_le.mpr ⟨by linarith, by linarith⟩, fun hodd => by omega⟩
    · rw [h]
      refine ⟨?_, fun hodd => by omega⟩
      rw [Nat.cast_add, Nat.cast_one, abs_le]
      exact ⟨by linarith, by linarith⟩

namespace BinaryFormat

variable {num den : Nat}

/-! ### Powers of two -/

theorem two_zpow_of_nonneg {e : Int} (h : 0 ≤ e) : (2 : ℚ) ^ e = 2 ^ e.toNat := by
  rw [← zpow_natCast, Int.toNat_of_nonneg h]

theorem two_zpow_of_neg {e : Int} (h : ¬ 0 ≤ e) : (2 : ℚ) ^ e = (2 ^ (-e).toNat)⁻¹ := by
  rw [← zpow_natCast, Int.toNat_of_nonneg (by omega), zpow_neg, inv_inv]

theorem two_mul_two_zpow_le {e q : Int} (h : e < q) : 2 * (2 : ℚ) ^ e ≤ 2 ^ q := by
  rw [← zpow_one_add₀ two_ne_zero]
  exact zpow_le_zpow_right₀ one_le_two (by omega)

theorem cast_shiftLeft (n k : Nat) : ((n <<< k : Nat) : ℚ) = n * 2 ^ k := by
  rw [Nat.shiftLeft_eq]
  push_cast
  rfl

/-- The logarithms of numerator and denominator tell that of the quotient up to one. -/
theorem quotient_lt_two_zpow (hd : 0 < den) :
    (num / den : ℚ) < 2 ^ ((num.log2 : Int) - den.log2 + 1) := by
  have hdq : (0 : ℚ) < den := Nat.cast_pos.mpr hd
  have hnum : (num : ℚ) < 2 ^ (num.log2 + 1) := by exact_mod_cast Nat.lt_log2_self
  have hden : (2 : ℚ) ^ den.log2 ≤ den := by exact_mod_cast Nat.log2_self_le hd.ne'
  rw [div_lt_iff₀ hdq]
  calc (num : ℚ) < 2 ^ (num.log2 + 1) := hnum
    _ = 2 ^ ((num.log2 : Int) - den.log2 + 1) * 2 ^ den.log2 := by
      rw [← zpow_natCast, ← zpow_natCast, ← zpow_add₀ two_ne_zero]
      congr 1
      push_cast
      ring
    _ ≤ 2 ^ ((num.log2 : Int) - den.log2 + 1) * den :=
      mul_le_mul_of_nonneg_left hden (zpow_pos two_pos _).le

theorem two_zpow_le_quotient (hn : 0 < num) (hd : 0 < den) :
    (2 : ℚ) ^ ((num.log2 : Int) - den.log2 - 1) ≤ num / den := by
  have hdq : (0 : ℚ) < den := Nat.cast_pos.mpr hd
  have hnum : (2 : ℚ) ^ num.log2 ≤ num := by exact_mod_cast Nat.log2_self_le hn.ne'
  have hden : (den : ℚ) < 2 ^ (den.log2 + 1) := by exact_mod_cast Nat.lt_log2_self
  rw [le_div_iff₀ hdq]
  calc (2 : ℚ) ^ ((num.log2 : Int) - den.log2 - 1) * den
      ≤ 2 ^ ((num.log2 : Int) - den.log2 - 1) * 2 ^ (den.log2 + 1) :=
        mul_le_mul_of_nonneg_left hden.le (zpow_pos two_pos _).le
    _ = 2 ^ num.log2 := by
      rw [← zpow_natCast, ← zpow_natCast, ← zpow_add₀ two_ne_zero]
      congr 1
      push_cast
      ring
    _ ≤ num := hnum

/-! ### Rounding in a unit -/

theorem rounds_roundScaled (hd : 0 < den) (e : Int) :
    RoundsTo ((num / den : ℚ) / 2 ^ e) (roundScaled num den e) := by
  rw [roundScaled]
  split
  next he =>
    rw [two_zpow_of_nonneg he, div_div, ← cast_shiftLeft]
    exact rounds_roundHalfEven (by rw [Nat.shiftLeft_eq]; positivity)
  next he =>
    rw [two_zpow_of_neg he, div_inv_eq_mul, div_mul_eq_mul_div, ← cast_shiftLeft]
    exact rounds_roundHalfEven hd

theorem belowScaled_iff (hd : 0 < den) (e : Int) (n : Nat) :
    belowScaled num den e n = true ↔ (num / den : ℚ) < 2 ^ (e + n) := by
  have hdq : (0 : ℚ) < den := Nat.cast_pos.mpr hd
  have hcast : ∀ a b : Nat, a < b ↔ (a : ℚ) < b := fun a b => Nat.cast_lt.symm
  rw [zpow_add₀ two_ne_zero, zpow_natCast, div_lt_iff₀ hdq, belowScaled]
  split
  next he =>
    rw [two_zpow_of_nonneg he, decide_eq_true_iff, hcast, cast_shiftLeft, pow_add, mul_comm]
  next he =>
    have hpow : (0 : ℚ) < 2 ^ (-e).toNat := by positivity
    rw [two_zpow_of_neg he, decide_eq_true_iff, hcast, cast_shiftLeft, cast_shiftLeft, mul_assoc,
      ← div_eq_inv_mul, lt_div_iff₀ hpow, mul_comm (2 ^ n : ℚ)]

variable (f : BinaryFormat)

theorem exponentUnit_pos : 0 < f.exponentUnit := by
  rw [exponentUnit, Nat.shiftLeft_eq]
  positivity

/-- As many binary digits as the precision allows. -/
theorem two_mul_exponentUnit (hp : 0 < f.precision) :
    (2 * f.exponentUnit : ℚ) = 2 ^ f.precision := by
  rw [exponentUnit, Nat.shiftLeft_eq, ← pow_sub_one_mul hp.ne' (2 : ℚ)]
  push_cast
  ring

/-- The unit in which a positive quotient is rounded is the smallest one, or the one in which the
quotient has as many binary digits as the precision allows. -/
theorem unitExponent_spec (hp : 0 < f.precision) (hn : 0 < num) (hd : 0 < den) {e : Int}
    (he : f.unitExponent num den = e) :
    f.minExponent ≤ e ∧ (num / den : ℚ) < 2 * f.exponentUnit * 2 ^ e ∧
      (e = f.minExponent ∨ f.exponentUnit * (2 : ℚ) ^ e ≤ num / den) := by
  obtain ⟨l, hl⟩ : ∃ l : Int, l = num.log2 - den.log2 := ⟨_, rfl⟩
  have hupper : (num / den : ℚ) < 2 ^ ((num.log2 : Int) - den.log2 + 1) :=
    quotient_lt_two_zpow hd
  have hlower := two_zpow_le_quotient hn hd
  have hbelow : belowScaled num den (l - f.precision) f.precision = true ↔ _ :=
    belowScaled_iff hd _ _
  have hdigits : ∀ d : Int, 2 * f.exponentUnit * (2 : ℚ) ^ d = 2 ^ (d + f.precision) := by
    intro d
    rw [f.two_mul_exponentUnit hp, zpow_add₀ two_ne_zero, zpow_natCast, mul_comm]
  have hhalf : ∀ d : Int, f.exponentUnit * (2 : ℚ) ^ d = 2 ^ (d + f.precision - 1) := by
    intro d
    rw [zpow_sub_one₀ two_ne_zero, ← hdigits]
    ring
  rw [hdigits, hhalf]
  rw [← hl] at hupper hlower
  rw [unitExponent, ← hl] at he
  -- One of two units gives the quotient exactly as many digits.
  obtain ⟨d, hd'⟩ : ∃ d : Int, d = if belowScaled num den (l - f.precision) f.precision
      then l - f.precision else l - f.precision + 1 := ⟨_, rfl⟩
  have hexact : (num / den : ℚ) < 2 ^ (d + f.precision) ∧
      (2 : ℚ) ^ (d + f.precision - 1) ≤ num / den := by
    split at hd'
    next h =>
      refine ⟨?_, ?_⟩
      · rw [hd']
        exact hbelow.mp h
      · rwa [show d + f.precision - 1 = l - 1 by omega]
    next h =>
      refine ⟨?_, ?_⟩
      · rwa [show d + f.precision = l + 1 by omega]
      · rw [show d + f.precision - 1 = l - f.precision + f.precision by omega]
        exact not_lt.mp fun hlt => h (hbelow.mpr hlt)
  rw [← hd'] at he
  refine ⟨he ▸ le_max_left _ _, ?_, ?_⟩
  · refine hexact.1.trans_le (zpow_le_zpow_right₀ one_le_two (Int.add_le_add_right ?_ _))
    exact he ▸ le_max_right _ _
  · obtain hmax | hmax := max_choice f.minExponent d
    · exact .inl (he.symm.trans hmax)
    · rw [← he, hmax]
      exact .inr hexact.2

/-- A magnitude is a multiple `m * 2 ^ q` of a unit, the smallest one or one in which it has as many
binary digits as the precision allows, and its bits tell `q` and `m`. -/
theorem scaled_spec {mag m : Nat} {q : Int} (h : f.scaled mag = (m, q)) :
    f.minExponent ≤ q ∧ mag = (q - f.minExponent).toNat * f.exponentUnit + m ∧
      m < 2 * f.exponentUnit ∧ (q = f.minExponent ∨ f.exponentUnit ≤ m) := by
  have hdiv := Nat.div_add_mod mag f.exponentUnit
  have hmod := Nat.mod_lt mag f.exponentUnit_pos
  rw [scaled] at h
  split at h
  next he =>
    obtain ⟨rfl, rfl⟩ := Prod.mk.inj h
    rw [he, Nat.mul_zero, Nat.zero_add] at hdiv
    refine ⟨le_refl _, ?_, by omega, .inl rfl⟩
    rw [Int.sub_self, Int.toNat_zero, Nat.zero_mul, Nat.zero_add, hdiv]
  next he =>
    obtain ⟨rfl, rfl⟩ := Prod.mk.inj h
    obtain ⟨e, hsucc⟩ := Nat.exists_eq_succ_of_ne_zero he
    rw [hsucc] at hdiv ⊢
    refine ⟨by omega, ?_, by omega, .inr (by omega)⟩
    rw [show (f.minExponent + (e.succ : Int) - 1 - f.minExponent).toNat = e by omega,
      Nat.mul_comm e]
    rw [Nat.mul_succ] at hdiv
    omega

/-- The multiple of a unit that a magnitude is can be told from its bits. -/
theorem scaled_eq {m : Nat} {q : Int} (hq : f.minExponent ≤ q) (hm : m < 2 * f.exponentUnit)
    (hnormal : q = f.minExponent ∨ f.exponentUnit ≤ m) :
    f.scaled ((q - f.minExponent).toNat * f.exponentUnit + m) = (m, q) := by
  have hunit := f.exponentUnit_pos
  obtain ⟨i, hi⟩ : ∃ i : Nat, q - f.minExponent = i := ⟨_, (Int.toNat_of_nonneg (by omega)).symm⟩
  rw [hi, Int.toNat_natCast, scaled]
  by_cases hle : f.exponentUnit ≤ m
  · have hdiv : (i * f.exponentUnit + m) / f.exponentUnit = i + 1 := by
      rw [Nat.add_comm, Nat.add_mul_div_right _ _ hunit, Nat.div_eq_of_lt_le (k := 1)] <;> omega
    have hmod := Nat.div_add_mod (i * f.exponentUnit + m) f.exponentUnit
    rw [hdiv, Nat.mul_succ, Nat.mul_comm] at hmod
    rw [hdiv, if_neg (Nat.succ_ne_zero i), Prod.mk.injEq]
    exact ⟨by omega, by omega⟩
  · obtain rfl : i = 0 := by omega
    have hlt : m < f.exponentUnit := by omega
    rw [Nat.zero_mul, Nat.zero_add, Nat.div_eq_of_lt hlt, Nat.mod_eq_of_lt hlt, if_pos rfl,
      Prod.mk.injEq]
    exact ⟨rfl, by omega⟩

theorem nearest_of_pos (hn : 0 < num) :
    f.nearest num den = min f.infinity
      ((f.unitExponent num den - f.minExponent).toNat * f.exponentUnit +
        roundScaled num den (f.unitExponent num den)) := by
  rw [nearest, if_neg hn.ne']

/-- Rounding in the unit of a quotient gives the bits of a magnitude. -/
theorem nearest_of_roundsTo {mag k : Nat} {e : Int} (hn : 0 < num) (hd : 0 < den)
    (he : f.unitExponent num den = e) (hk : RoundsTo ((num / den : ℚ) / 2 ^ e) k)
    (hmag : (e - f.minExponent).toNat * f.exponentUnit + k = mag) (hfinite : mag < f.infinity) :
    f.nearest num den = mag := by
  rw [f.nearest_of_pos hn, he, (rounds_roundScaled hd e).unique hk, hmag]
  exact Nat.min_eq_right hfinite.le

/-! ### The numbers that round to a magnitude -/

/-- How far below a magnitude of `m` units, in these units, the numbers begin that round to it.
Below a power of two the next magnitude is only half a unit away. -/
def gapBelow (mag m : Nat) : ℚ :=
  if m = f.exponentUnit ∧ f.exponentUnit < mag then 1 / 4 else 1 / 2

/-- A number of units is near enough to a magnitude of `m` units to round to it.  Halfway between
two magnitudes numbers round to the even one. -/
structure Near (mag m : Nat) (x : ℚ) : Prop where
  low : m - f.gapBelow mag m ≤ x
  high : x ≤ m + 1 / 2
  strict : m % 2 = 1 → m - f.gapBelow mag m < x ∧ x < m + 1 / 2

theorem gapBelow_le_half (mag m : Nat) : f.gapBelow mag m ≤ 1 / 2 := by
  rw [gapBelow]
  split_ifs <;> norm_num

variable {f}
variable {mag m : Nat} {q : Int} {x : ℚ}

theorem pos_of_scaled (hmag : 0 < mag) (hscaled : f.scaled mag = (m, q)) : 0 < m := by
  obtain ⟨-, hbits, -, rfl | hnormal⟩ := f.scaled_spec hscaled
  · rw [Int.sub_self, Int.toNat_zero, Nat.zero_mul, Nat.zero_add] at hbits
    rwa [← hbits]
  · exact f.exponentUnit_pos.trans_le hnormal

section Quotient

variable (hp : 0 < f.precision) (hn : 0 < num) (hd : 0 < den)
  (hscaled : f.scaled mag = (m, q)) (hx : (num / den : ℚ) = x * 2 ^ q)
include hp hn hd hscaled hx

/-- The unit of the quotient is not coarser than that of the magnitude. -/
theorem unitExponent_le (hhigh : x ≤ m + 1 / 2) : f.unitExponent num den ≤ q := by
  obtain ⟨hq, -, hm, -⟩ := f.scaled_spec hscaled
  obtain ⟨-, -, hlower⟩ := f.unitExponent_spec hp hn hd rfl
  by_contra! hgt
  have hle := hlower.resolve_left (by omega)
  have hstep := two_mul_two_zpow_le hgt
  have hpow : (0 : ℚ) < 2 ^ q := zpow_pos two_pos q
  have hunit : (1 : ℚ) ≤ f.exponentUnit := Nat.one_le_cast.mpr f.exponentUnit_pos
  have hm₁ : (m : ℚ) + 1 ≤ 2 * f.exponentUnit := by exact_mod_cast hm
  rw [hx] at hle
  nlinarith

/-- If it is finer, the magnitude is a power of two and the quotient is below it. -/
theorem eq_exponentUnit_of_lt (hlt : f.unitExponent num den < q) (hlow : m - 1 / 2 ≤ x) :
    m = f.exponentUnit ∧ x < f.exponentUnit := by
  obtain ⟨hq, -, -, hnormal⟩ := f.scaled_spec hscaled
  obtain ⟨hmin, hupper, -⟩ := f.unitExponent_spec hp hn hd rfl
  have hpow : (0 : ℚ) < 2 ^ q := zpow_pos two_pos q
  have hstep := two_mul_two_zpow_le hlt
  have hlt' : x < f.exponentUnit := by
    rw [hx] at hupper
    refine lt_of_mul_lt_mul_right ?_ hpow.le
    nlinarith
  have hle : f.exponentUnit ≤ m := hnormal.resolve_left (by omega)
  have hge : (m : ℚ) < f.exponentUnit + 1 := by linarith
  exact ⟨Nat.le_antisymm (Nat.lt_succ_iff.mp (by exact_mod_cast hge)) hle, hlt'⟩

omit hscaled in
/-- Then it is the next finer one. -/
theorem unitExponent_succ_of_lt (hlt : f.unitExponent num den < q)
    (hlow : f.exponentUnit - 1 / 4 ≤ x) : f.unitExponent num den + 1 = q := by
  obtain ⟨-, hupper, -⟩ := f.unitExponent_spec hp hn hd rfl
  have hpow : (0 : ℚ) < 2 ^ q := zpow_pos two_pos q
  have hunit : (1 : ℚ) ≤ f.exponentUnit := Nat.one_le_cast.mpr f.exponentUnit_pos
  by_contra hne
  have hstep := two_mul_two_zpow_le (show f.unitExponent num den < q - 1 by omega)
  have hstep' := two_mul_two_zpow_le (show q - 1 < q by omega)
  have hhalf : x < f.exponentUnit / 2 := by
    rw [hx] at hupper
    refine lt_of_mul_lt_mul_right ?_ hpow.le
    nlinarith
  linarith

end Quotient

/-- The magnitude that a quotient rounds to. -/
theorem nearest_eq (hp : 0 < f.precision) (hd : 0 < den) (hmag : 0 < mag)
    (hfinite : mag < f.infinity) (hscaled : f.scaled mag = (m, q))
    (hx : (num / den : ℚ) = x * 2 ^ q) (h : f.Near mag m x) : f.nearest num den = mag := by
  have hgap := f.gapBelow_le_half mag m
  have hpos : (1 : ℚ) ≤ m := Nat.one_le_cast.mpr (pos_of_scaled hmag hscaled)
  have hn : 0 < num := by
    refine Nat.pos_of_ne_zero fun h₀ => ?_
    rw [h₀, Nat.cast_zero, zero_div, zero_eq_mul] at hx
    have hzero := hx.resolve_right (zpow_pos two_pos q).ne'
    linarith [h.low]
  obtain ⟨hq, hbits, -, -⟩ := f.scaled_spec hscaled
  obtain hlt | heq := (unitExponent_le hp hn hd hscaled hx h.high).lt_or_eq
  · -- The magnitude is a power of two, and the quotient is rounded up to it in a finer unit.
    obtain ⟨rfl, hbelow⟩ :=
      eq_exponentUnit_of_lt hp hn hd hscaled hx hlt (by linarith [h.low])
    obtain ⟨hmin, -, -⟩ := f.unitExponent_spec hp hn hd rfl
    obtain ⟨i, hi⟩ : ∃ i : Nat, (q - f.minExponent).toNat = i + 1 :=
      ⟨(q - f.minExponent).toNat - 1, by omega⟩
    rw [hi, Nat.add_mul, Nat.one_mul] at hbits
    have hquarter : f.gapBelow mag f.exponentUnit = 1 / 4 :=
      if_pos ⟨rfl, by have := f.exponentUnit_pos; omega⟩
    have hlow := h.low
    rw [hquarter] at hlow
    have hnext := unitExponent_succ_of_lt hp hn hd hx hlt hlow
    have hdouble : (num / den : ℚ) / 2 ^ f.unitExponent num den = 2 * x := by
      rw [hx, ← hnext, zpow_add_one₀ two_ne_zero]
      field_simp
    refine f.nearest_of_roundsTo (k := 2 * f.exponentUnit) hn hd rfl
      ⟨?_, fun hodd => absurd hodd (by omega)⟩ ?_ hfinite
    · rw [hdouble, abs_le]
      push_cast
      exact ⟨by linarith, by linarith⟩
    · rw [show (f.unitExponent num den - f.minExponent).toNat = i by omega, hbits]
      omega
  · have hquotient : (num / den : ℚ) / 2 ^ q = x := by
      rw [hx, mul_div_cancel_right₀ _ (zpow_pos two_pos q).ne']
    refine f.nearest_of_roundsTo hn hd heq ⟨?_, fun hodd => ?_⟩ hbits.symm hfinite
    · rw [hquotient, abs_le]
      exact ⟨by linarith [h.low], by linarith [h.high]⟩
    · rw [hquotient, abs_lt]
      exact ⟨by linarith [(h.strict hodd).1], by linarith [(h.strict hodd).2]⟩

theorem near_of_roundsTo {k : Nat} (h : RoundsTo x k)
    (hpower : k = f.exponentUnit → f.exponentUnit < mag → f.exponentUnit ≤ x) :
    f.Near mag k x := by
  have hnear := abs_le.mp h.near
  by_cases hk : k = f.exponentUnit ∧ f.exponentUnit < mag
  · have hle := hpower hk.1 hk.2
    have hgap : f.gapBelow mag k = 1 / 4 := if_pos hk
    rw [← hk.1] at hle
    exact ⟨by linarith, by linarith, fun hodd =>
      ⟨by linarith, by linarith [abs_lt.mp (h.strict hodd)]⟩⟩
  · have hgap : f.gapBelow mag k = 1 / 2 := if_neg hk
    exact ⟨by linarith, by linarith, fun hodd =>
      ⟨by linarith [abs_lt.mp (h.strict hodd)], by linarith [abs_lt.mp (h.strict hodd)]⟩⟩

/-- A quotient that is rounded up to a power of two, in the unit below that of the power. -/
theorem near_of_roundsTo_two_mul (heven : f.exponentUnit % 2 = 0) (hmag : f.exponentUnit < mag)
    (h : RoundsTo (2 * x) (2 * f.exponentUnit)) (hlt : x < f.exponentUnit) :
    f.Near mag f.exponentUnit x := by
  have hnear := abs_le.mp h.near
  have hgap : f.gapBelow mag f.exponentUnit = 1 / 4 := if_pos ⟨rfl, hmag⟩
  push_cast at hnear
  exact ⟨by linarith, by linarith, fun hodd => by omega⟩

theorem exponentUnit_even (f : BinaryFormat) (hp : 1 < f.precision) : f.exponentUnit % 2 = 0 := by
  rw [exponentUnit, Nat.shiftLeft_eq, Nat.one_mul]
  exact Nat.mod_eq_zero_of_dvd (dvd_pow_self 2 (by omega))

/-- A magnitude that is written as twice a power of two in a unit is that power in the next one. -/
theorem scaled_two_mul_exponentUnit (hq : f.minExponent ≤ q) :
    f.scaled ((q - f.minExponent).toNat * f.exponentUnit + 2 * f.exponentUnit) =
      (f.exponentUnit, q + 1) := by
  have hunit := f.exponentUnit_pos
  rw [← f.scaled_eq (q := q + 1) (by omega) (by omega) (.inr (le_refl _)),
    show (q + 1 - f.minExponent).toNat = (q - f.minExponent).toNat + 1 by omega,
    Nat.add_mul (q - f.minExponent).toNat 1]
  congr 1
  omega

/-- A quotient is near to the magnitude that it rounds to. -/
theorem near_nearest (hp : 1 < f.precision) (hd : 0 < den)
    (hfinite : f.nearest num den < f.infinity) (hscaled : f.scaled (f.nearest num den) = (m, q))
    (hx : (num / den : ℚ) = x * 2 ^ q) : f.Near (f.nearest num den) m x := by
  obtain rfl | hn := Nat.eq_zero_or_pos num
  · have hnearest : f.nearest 0 den = 0 := if_pos rfl
    have hzero : x = 0 := by
      rw [Nat.cast_zero, zero_div, zero_eq_mul] at hx
      exact hx.resolve_right (zpow_pos two_pos q).ne'
    rw [hnearest] at hscaled ⊢
    obtain ⟨-, hbits, -, -⟩ := f.scaled_spec hscaled
    obtain rfl : m = 0 := by omega
    rw [hzero]
    refine near_of_roundsTo ⟨by norm_num, by decide⟩ fun hunit => ?_
    exact absurd hunit.symm f.exponentUnit_pos.ne'
  obtain ⟨e, he⟩ : ∃ e, f.unitExponent num den = e := ⟨_, rfl⟩
  obtain ⟨hmin, hupper, hlower⟩ := f.unitExponent_spec (by omega) hn hd he
  have hpow : (0 : ℚ) < 2 ^ e := zpow_pos two_pos e
  obtain ⟨y, hy⟩ : ∃ y : ℚ, (num / den : ℚ) = y * 2 ^ e := ⟨_, (div_mul_cancel₀ _ hpow.ne').symm⟩
  obtain ⟨k, hk⟩ : ∃ k, roundScaled num den e = k := ⟨_, rfl⟩
  have hrounds : RoundsTo y k := by
    have h : RoundsTo ((num / den : ℚ) / 2 ^ e) _ := rounds_roundScaled hd e
    rwa [hk, hy, mul_div_cancel_right₀ _ hpow.ne'] at h
  have hbits : f.nearest num den = (e - f.minExponent).toNat * f.exponentUnit + k := by
    rw [f.nearest_of_pos hn, he, hk] at hfinite ⊢
    omega
  rw [hy, mul_lt_mul_iff_left₀ hpow] at hupper
  rw [hy, mul_le_mul_iff_left₀ hpow] at hlower
  have hle : k ≤ 2 * f.exponentUnit := hrounds.le_of_lt (by push_cast; exact hupper)
  rw [hbits] at hscaled ⊢
  obtain hlt | rfl := hle.lt_or_eq
  · rw [f.scaled_eq hmin hlt (hlower.imp_right hrounds.le_of_le), Prod.mk.injEq] at hscaled
    obtain ⟨rfl, rfl⟩ := hscaled
    obtain rfl : x = y := mul_right_cancel₀ hpow.ne' (hx.symm.trans hy)
    refine near_of_roundsTo hrounds fun hunit hmag => hlower.resolve_left fun hsmall => ?_
    rw [hsmall, Int.sub_self, Int.toNat_zero] at hmag
    omega
  · -- The quotient is rounded up to the power of two above it.
    have hunit := f.exponentUnit_pos
    rw [scaled_two_mul_exponentUnit hmin, Prod.mk.injEq] at hscaled
    obtain ⟨rfl, rfl⟩ := hscaled
    have hdouble : y = 2 * x := by
      refine mul_right_cancel₀ hpow.ne' (hy.symm.trans (hx.trans ?_))
      rw [zpow_add_one₀ two_ne_zero]
      ring
    rw [hdouble] at hrounds
    exact near_of_roundsTo_two_mul (f.exponentUnit_even hp) (by omega) hrounds (by linarith)

end BinaryFormat

end EventPackets
