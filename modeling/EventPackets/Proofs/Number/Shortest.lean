import EventPackets.Number.DecimalText
import EventPackets.Proofs.Number.Rounding

/-!
# Shortest decimals

The decimal that stands for a finite binary32 magnitude lies in the interval of the numbers that
round to the magnitude: the grids that are searched for it end with one that is finer than the
narrowest interval.  So the magnitude nearest to the decimal is the one it stands for.  As the
search begins with the coarsest grid, no decimal with fewer digits has this property.

## Main definitions

* `Decimal.value` : the number that a decimal is.
* `Interval.Contains` : the numbers in an interval.

## Main results

* `Interval.isSome_onGrid?_iff` : a grid with a point in the interval has one next to the number.
* `Interval.contains_of_shortest`, `Interval.exponent_le_of_shortest` : what the search finds.
* `Binary32.contains_iff_near` : the interval of a magnitude.
* `Binary32.nearestDecimal_shortest` : a magnitude is the one nearest to its decimal.
* `Binary32.digits_shortest_lt` : this holds of no decimal with fewer digits.
-/

namespace EventPackets

/-- The number that a decimal is. -/
def Decimal.value (d : Decimal) : ℚ :=
  d.digits * 10 ^ d.exponent

theorem Decimal.value_le_value {m n : Nat} {e : Int} (h : m ≤ n) :
    value ⟨m, e⟩ ≤ value ⟨n, e⟩ :=
  mul_le_mul_of_nonneg_right (Nat.cast_le.mpr h) (zpow_pos (by norm_num) e).le

namespace Interval

variable {v : Interval} {e top : Int} {d : Decimal} {x y z : ℚ}

/-- The numbers in an interval. -/
def Contains (v : Interval) (x : ℚ) : Prop :=
  if v.closed then v.low * 2 ^ v.unit ≤ x ∧ x ≤ v.high * 2 ^ v.unit
  else v.low * 2 ^ v.unit < x ∧ x < v.high * 2 ^ v.unit

/-- The number that an interval is around. -/
def value (v : Interval) : ℚ :=
  v.number * 2 ^ v.unit

theorem Contains.of_le_of_le (hx : v.Contains x) (hz : v.Contains z) (hxy : x ≤ y) (hyz : y ≤ z) :
    v.Contains y := by
  unfold Contains at *
  split at hx
  next hc =>
    rw [if_pos hc] at hz ⊢
    exact ⟨hx.1.trans hxy, hyz.trans hz.2⟩
  next hc =>
    rw [if_neg hc] at hz ⊢
    exact ⟨hx.1.trans_le hxy, hyz.trans_lt hz.2⟩

theorem Contains.bounds (h : v.Contains x) :
    v.low * 2 ^ v.unit ≤ x ∧ x ≤ v.high * 2 ^ v.unit := by
  unfold Contains at h
  split at h
  · exact h
  · exact ⟨h.1.le, h.2.le⟩

theorem contains_of_lt_of_lt (hlow : v.low * 2 ^ v.unit < x) (hhigh : x < v.high * 2 ^ v.unit) :
    v.Contains x := by
  unfold Contains
  split
  · exact ⟨hlow.le, hhigh.le⟩
  · exact ⟨hlow, hhigh⟩

/-! ### Points of a grid -/

theorem unitStep_pos (unit e : Int) : 0 < unitStep unit e := by
  rw [unitStep, Nat.shiftLeft_eq, Nat.pow_eq]
  positivity

theorem gridStep_pos (unit e : Int) : 0 < gridStep unit e := by
  rw [gridStep, Nat.shiftLeft_eq, Nat.pow_eq]
  positivity

theorem pow_toNat_neg_mul {b : ℚ} (hb : b ≠ 0) (e : Int) :
    b ^ (-e).toNat * b ^ e = b ^ e.toNat := by
  rw [← zpow_natCast, ← zpow_natCast, ← zpow_add₀ hb]
  congr 1
  omega

/-- The steps of units and of a grid are in the same proportion as these. -/
theorem gridStep_mul (unit e : Int) :
    (gridStep unit e : ℚ) * 2 ^ unit = unitStep unit e * 10 ^ e := by
  rw [gridStep, unitStep, Nat.shiftLeft_eq, Nat.shiftLeft_eq, Nat.pow_eq, Nat.pow_eq]
  push_cast
  rw [mul_assoc, pow_toNat_neg_mul two_ne_zero, ← pow_toNat_neg_mul (by norm_num : (10 : ℚ) ≠ 0) e]
  ring

/-- So one factor turns multiples of units and of a grid into integers. -/
theorem exists_scale (unit e : Int) : ∃ r : ℚ, 0 < r ∧
    (∀ a : Nat, ((a * unitStep unit e : Nat) : ℚ) = a * 2 ^ unit * r) ∧
    ∀ n : Nat, ((n * gridStep unit e : Nat) : ℚ) = Decimal.value ⟨n, e⟩ * r := by
  have hpow : (0 : ℚ) < 2 ^ unit := zpow_pos two_pos unit
  have hunit : (0 : ℚ) < unitStep unit e := Nat.cast_pos.mpr (unitStep_pos unit e)
  refine ⟨unitStep unit e / 2 ^ unit, by positivity, fun a => ?_, fun n => ?_⟩
  · push_cast
    field_simp
  · push_cast
    rw [Decimal.value, mul_assoc, mul_div_assoc', mul_comm (10 ^ e : ℚ), ← gridStep_mul,
      mul_div_cancel_right₀ _ hpow.ne']

/-- Which points of a grid lie in an interval. -/
theorem holds_iff (v : Interval) (e : Int) (n : Nat) :
    v.holds e n = true ↔ v.Contains (Decimal.value ⟨n, e⟩) := by
  obtain ⟨r, hr, hunit, hgrid⟩ := exists_scale v.unit e
  have hle : ∀ a b : Nat, a ≤ b ↔ (a : ℚ) ≤ b := fun a b => Nat.cast_le.symm
  have hlt : ∀ a b : Nat, a < b ↔ (a : ℚ) < b := fun a b => Nat.cast_lt.symm
  rw [holds, Contains]
  split
  · rw [Bool.and_eq_true, decide_eq_true_iff, decide_eq_true_iff, hle, hle, hunit, hunit, hgrid,
      mul_le_mul_iff_left₀ hr, mul_le_mul_iff_left₀ hr]
  · rw [Bool.and_eq_true, decide_eq_true_iff, decide_eq_true_iff, hlt, hlt, hunit, hunit, hgrid,
      mul_lt_mul_iff_left₀ hr, mul_lt_mul_iff_left₀ hr]

/-- The last point of a grid that is not above the number. -/
def lower (v : Interval) (e : Int) : Nat :=
  v.number * unitStep v.unit e / gridStep v.unit e

theorem value_lower_le (v : Interval) (e : Int) : Decimal.value ⟨v.lower e, e⟩ ≤ v.value := by
  obtain ⟨r, hr, hunit, hgrid⟩ := exists_scale v.unit e
  rw [value, ← mul_le_mul_iff_left₀ hr, ← hunit, ← hgrid, Nat.cast_le]
  exact Nat.div_mul_le_self _ _

theorem lt_value_lower_succ (v : Interval) (e : Int) :
    v.value < Decimal.value ⟨v.lower e + 1, e⟩ := by
  obtain ⟨r, hr, hunit, hgrid⟩ := exists_scale v.unit e
  rw [value, ← mul_lt_mul_iff_left₀ hr, ← hunit, ← hgrid, Nat.cast_lt]
  exact Nat.lt_mul_of_div_lt (Nat.lt_succ_self _) (gridStep_pos _ _)

/-! ### The search on a grid -/

/-- What is found on a grid is a point of it in the interval. -/
theorem contains_of_onGrid? (h : v.onGrid? e = some d) :
    d.exponent = e ∧ 0 < d.digits ∧ v.Contains d.value := by
  rw [onGrid?] at h
  split at h
  next habove =>
    obtain rfl := Option.some.inj h
    exact ⟨rfl, Nat.succ_pos _, (v.holds_iff e _).mp (Bool.and_eq_true .. ▸ habove).1⟩
  next =>
    split at h
    next hbelow =>
      obtain rfl := Option.some.inj h
      obtain ⟨hne, hholds⟩ := Bool.and_eq_true .. ▸ hbelow
      exact ⟨rfl, Nat.pos_of_ne_zero (bne_iff_ne.mp hne), (v.holds_iff e _).mp hholds⟩
    next => cases h

theorem isSome_onGrid?_of_lower (hpos : 0 < v.lower e)
    (h : v.Contains (Decimal.value ⟨v.lower e, e⟩)) : (v.onGrid? e).isSome = true := by
  rw [← holds_iff] at h
  rw [lower] at h hpos
  rw [onGrid?, h, bne_iff_ne.mpr hpos.ne']
  split <;> rfl

theorem isSome_onGrid?_of_succ (h : v.Contains (Decimal.value ⟨v.lower e + 1, e⟩)) :
    (v.onGrid? e).isSome = true := by
  rw [← holds_iff, lower] at h
  rw [onGrid?, h]
  generalize (_ && v.holds e _) = below
  cases below with
  | false => rfl
  | true => split <;> rfl

/-- If a grid has a point in the interval, one of the two next to the number is there. -/
theorem isSome_onGrid?_iff (hv : v.Contains v.value) :
    (v.onGrid? e).isSome = true ↔ ∃ n, 0 < n ∧ v.Contains (Decimal.value ⟨n, e⟩) := by
  constructor
  · intro h
    obtain ⟨d, hd⟩ := Option.isSome_iff_exists.mp h
    obtain ⟨rfl, hpos, hcontains⟩ := contains_of_onGrid? hd
    exact ⟨d.digits, hpos, hcontains⟩
  · rintro ⟨n, hpos, hn⟩
    rcases Nat.lt_or_ge (v.lower e) n with hlt | hge
    · exact isSome_onGrid?_of_succ
        (hv.of_le_of_le hn (lt_value_lower_succ v e).le (Decimal.value_le_value hlt))
    · exact isSome_onGrid?_of_lower (hpos.trans_le hge)
        (hn.of_le_of_le hv (Decimal.value_le_value hge) (value_lower_le v e))

/-- A grid finer than the upper half of the interval has a point in it. -/
theorem isSome_onGrid?_of_fine (hlow : v.low < v.number) (hhigh : v.number + 2 ≤ v.high)
    (hfine : (10 : ℚ) ^ e < 2 * 2 ^ v.unit) : (v.onGrid? e).isSome = true := by
  have hpow : (0 : ℚ) < 2 ^ v.unit := zpow_pos two_pos v.unit
  have hlow' : (v.low : ℚ) < v.number := Nat.cast_lt.mpr hlow
  have hhigh' : (v.number + 2 : ℚ) ≤ v.high := by exact_mod_cast hhigh
  have hsucc : Decimal.value ⟨v.lower e + 1, e⟩ = Decimal.value ⟨v.lower e, e⟩ + 10 ^ e := by
    rw [Decimal.value, Decimal.value]
    push_cast
    ring
  refine isSome_onGrid?_of_succ (contains_of_lt_of_lt ?_ ?_)
  · exact (mul_lt_mul_of_pos_right hlow' hpow).trans (lt_value_lower_succ v e)
  · calc Decimal.value ⟨v.lower e + 1, e⟩ = Decimal.value ⟨v.lower e, e⟩ + 10 ^ e := hsucc
      _ < v.value + 2 * 2 ^ v.unit := add_lt_add_of_le_of_lt (value_lower_le v e) hfine
      _ = (v.number + 2) * 2 ^ v.unit := by rw [value]; ring
      _ ≤ v.high * 2 ^ v.unit := mul_le_mul_of_nonneg_right hhigh' hpow.le

/-! ### The search on all grids -/

/-- What the search finds is a point in the interval. -/
theorem contains_of_shortest {n : Nat} (h : v.shortest top n = some d) :
    0 < d.digits ∧ v.Contains d.value := by
  obtain ⟨i, -, hi⟩ := List.exists_of_findSome?_eq_some h
  exact (contains_of_onGrid? hi).2

/-- The search does not pass over a coarser grid with a point in the interval. -/
theorem exponent_le_of_shortest {i n : Nat} (h : v.shortest top n = some d) (hi : i < n)
    (hgrid : (v.onGrid? (top - Int.ofNat i)).isSome = true) : top - i ≤ d.exponent := by
  obtain ⟨before, j, after, hrange, hj, hnone⟩ := List.findSome?_eq_some_iff.mp h
  rw [(contains_of_onGrid? hj).1]
  have hle : j ≤ i := by
    have hsorted : (before ++ j :: after).Pairwise (· < ·) := hrange ▸ List.pairwise_lt_range
    have hmem : i ∈ before ++ j :: after := hrange ▸ List.mem_range.mpr hi
    rw [List.pairwise_append, List.pairwise_cons] at hsorted
    rw [List.mem_append, List.mem_cons] at hmem
    rcases hmem with hmem | rfl | hmem
    · rw [hnone i hmem] at hgrid
      cases hgrid
    · exact le_refl _
    · exact (hsorted.2.1.1 i hmem).le
  rw [Int.ofNat_eq_natCast]
  omega

theorem isSome_shortest {i n : Nat} (hi : i < n)
    (hgrid : (v.onGrid? (top - Int.ofNat i)).isSome = true) : (v.shortest top n).isSome = true :=
  List.findSome?_isSome_iff.mpr ⟨i, List.mem_range.mpr hi, hgrid⟩

end Interval

/-! ### Binary32 numbers -/

namespace Binary32

variable {mag m : Nat} {q : Int} {x : ℚ} {d : Decimal}

/-- The interval of a magnitude of `m` units, in quarters of the unit. -/
theorem interval_eq (h : BinaryFormat.binary32.scaled mag = (m, q)) :
    interval mag =
      { unit := q - 2
        low := 4 * m - if m = BinaryFormat.binary32.exponentUnit ∧
          BinaryFormat.binary32.exponentUnit < mag then 1 else 2
        number := 4 * m
        high := 4 * m + 2
        closed := m % 2 == 0 } := by
  rw [interval, h]

/-- It consists of the numbers that round to the magnitude. -/
theorem contains_iff_near (hm : 0 < m) (hscaled : BinaryFormat.binary32.scaled mag = (m, q)) :
    (interval mag).Contains (x * 2 ^ q) ↔ BinaryFormat.binary32.Near mag m x := by
  have hpow : (0 : ℚ) < 2 ^ q := zpow_pos two_pos q
  have hquarter : ∀ a : ℚ, 4 * a * 2 ^ (q - 2) = a * 2 ^ q := by
    intro a
    rw [zpow_sub₀ two_ne_zero]
    norm_num
    ring
  have hlow : ((interval mag).low : ℚ) = 4 * (m - BinaryFormat.binary32.gapBelow mag m) := by
    rw [interval_eq hscaled, BinaryFormat.gapBelow]
    dsimp only
    split_ifs
    · rw [Nat.cast_sub (by omega)]
      push_cast
      ring
    · rw [Nat.cast_sub (by omega)]
      push_cast
      ring
  have hhigh : ((interval mag).high : ℚ) = 4 * (m + 1 / 2) := by
    rw [interval_eq hscaled]
    push_cast
    ring
  have hunit : (interval mag).unit = q - 2 := by rw [interval_eq hscaled]
  have hclosed : (interval mag).closed = (m % 2 == 0) := by rw [interval_eq hscaled]
  rw [Interval.Contains, hlow, hhigh, hunit, hclosed, hquarter, hquarter,
    mul_le_mul_iff_left₀ hpow, mul_le_mul_iff_left₀ hpow, mul_lt_mul_iff_left₀ hpow,
    mul_lt_mul_iff_left₀ hpow]
  split
  next heven =>
    have heven := beq_iff_eq.mp heven
    exact ⟨fun h => ⟨h.1, h.2, fun hodd => by omega⟩, fun h => ⟨h.low, h.high⟩⟩
  next hodd =>
    have hodd : m % 2 = 1 := by
      rw [beq_iff_eq] at hodd
      omega
    exact ⟨fun h => ⟨h.1.le, h.2.le, fun _ => h⟩, fun h => h.strict hodd⟩

/-- A quotient rounds to a magnitude if and only if it is in the interval. -/
theorem nearest_eq_iff {num den : Nat} (hd : 0 < den) (hmag : 0 < mag)
    (hfinite : mag < BinaryFormat.binary32.infinity) :
    BinaryFormat.binary32.nearest num den = mag ↔ (interval mag).Contains (num / den : ℚ) := by
  obtain ⟨⟨m, q⟩, hscaled⟩ : ∃ v, BinaryFormat.binary32.scaled mag = v := ⟨_, rfl⟩
  have hx : (num / den : ℚ) = num / den / 2 ^ q * 2 ^ q :=
    (div_mul_cancel₀ _ (zpow_pos two_pos q).ne').symm
  rw [hx, contains_iff_near (BinaryFormat.pos_of_scaled hmag hscaled) hscaled]
  constructor
  · rintro rfl
    exact BinaryFormat.near_nearest (by decide) hd hfinite hscaled hx
  · exact BinaryFormat.nearest_eq (by decide) hd hmag hfinite hscaled hx

/-- A decimal reads back as a magnitude if and only if it is in the interval. -/
theorem nearestDecimal_eq_iff (hmag : 0 < mag) (hfinite : mag < BinaryFormat.binary32.infinity) :
    nearestDecimal d = mag ↔ (interval mag).Contains d.value := by
  rw [nearestDecimal, Nat.pow_eq, Nat.pow_eq, Decimal.value]
  split
  next he =>
    rw [nearest_eq_iff Nat.one_pos hmag hfinite, Nat.cast_one, div_one, Nat.cast_mul, Nat.cast_pow,
      Nat.cast_ofNat, ← zpow_natCast, Int.toNat_of_nonneg he]
  next he =>
    rw [nearest_eq_iff (Nat.pow_pos (by decide)) hmag hfinite, Nat.cast_pow, Nat.cast_ofNat,
      ← zpow_natCast, Int.toNat_of_nonneg (by omega), zpow_neg, div_inv_eq_mul]

theorem contains_number (hmag : 0 < mag) : (interval mag).Contains (interval mag).value := by
  obtain ⟨⟨m, q⟩, hscaled⟩ : ∃ v, BinaryFormat.binary32.scaled mag = v := ⟨_, rfl⟩
  have hm := BinaryFormat.pos_of_scaled hmag hscaled
  have hpow : (0 : ℚ) < 2 ^ (interval mag).unit := zpow_pos two_pos _
  have hlow : (interval mag).low < (interval mag).number := by
    rw [interval_eq hscaled]
    dsimp only
    split_ifs <;> omega
  have hhigh : (interval mag).number < (interval mag).high := by
    rw [interval_eq hscaled]
    exact Nat.lt_add_of_pos_right two_pos
  exact Interval.contains_of_lt_of_lt (mul_lt_mul_of_pos_right (Nat.cast_lt.mpr hlow) hpow)
    (mul_lt_mul_of_pos_right (Nat.cast_lt.mpr hhigh) hpow)

/-- The last grid is fine enough even for the smallest magnitudes. -/
theorem isSome_onGrid?_last (hmag : 0 < mag) :
    ((interval mag).onGrid? (38 - Int.ofNat 91)).isSome = true := by
  obtain ⟨⟨m, q⟩, hscaled⟩ : ∃ v, BinaryFormat.binary32.scaled mag = v := ⟨_, rfl⟩
  have hm := BinaryFormat.pos_of_scaled hmag hscaled
  rw [interval_eq hscaled]
  refine Interval.isSome_onGrid?_of_fine ?_ (le_refl _) ?_
  · dsimp only
    split_ifs <;> omega
  · have hmin : -149 ≤ q := (BinaryFormat.binary32.scaled_spec hscaled).1
    have hleast : (2 : ℚ) ^ (-151 : Int) ≤ 2 ^ (q - 2) :=
      zpow_le_zpow_right₀ one_le_two (by omega)
    have hstep : (10 : ℚ) ^ (38 - Int.ofNat 91) < 2 * 2 ^ (-151 : Int) := by norm_num
    exact hstep.trans_le (mul_le_mul_of_nonneg_left hleast two_pos.le)

/-- So every magnitude has a decimal. -/
theorem shortest_eq_some (hmag : 0 < mag) :
    (interval mag).shortest 38 92 = some (shortest mag) := by
  have hsome := Interval.isSome_shortest (show 91 < 92 by decide) (isSome_onGrid?_last hmag)
  obtain ⟨d, hd⟩ := Option.isSome_iff_exists.mp hsome
  rw [shortest, if_neg hmag.ne', hd, Option.getD_some]

/-- A finite magnitude is the one nearest to the decimal that stands for it. -/
theorem nearestDecimal_shortest (hfinite : mag < BinaryFormat.binary32.infinity) :
    nearestDecimal (shortest mag) = mag := by
  obtain rfl | hmag := Nat.eq_zero_or_pos mag
  · rfl
  · rw [nearestDecimal_eq_iff hmag hfinite]
    exact (Interval.contains_of_shortest (shortest_eq_some hmag)).2

/-! ### No shorter decimal -/

/-- The numbers that round to a finite magnitude are positive, and below the first grid point that
is not searched. -/
theorem bounds_of_contains (hmag : 0 < mag) (hfinite : mag < BinaryFormat.binary32.infinity)
    (h : (interval mag).Contains x) : 0 < x ∧ x < 10 ^ (39 : Int) := by
  obtain ⟨⟨m, q⟩, hscaled⟩ : ∃ v, BinaryFormat.binary32.scaled mag = v := ⟨_, rfl⟩
  have hm := BinaryFormat.pos_of_scaled hmag hscaled
  obtain ⟨hmin, hbits, hlt, hnormal⟩ := BinaryFormat.binary32.scaled_spec hscaled
  have hunit : BinaryFormat.binary32.exponentUnit = 8388608 := rfl
  have hinfinity : BinaryFormat.binary32.infinity = 255 * 8388608 := rfl
  have hleast : BinaryFormat.binary32.minExponent = -149 := rfl
  rw [hunit, hleast] at hbits hnormal
  rw [hunit] at hlt
  have hq : q ≤ 104 := by omega
  obtain ⟨hlow, hhigh⟩ := h.bounds
  rw [interval_eq hscaled] at hlow hhigh
  dsimp only at hlow hhigh
  have hpow : (0 : ℚ) < 2 ^ (q - 2) := zpow_pos two_pos _
  constructor
  · refine lt_of_lt_of_le (mul_pos (Nat.cast_pos.mpr ?_) hpow) hlow
    split_ifs <;> omega
  · have hnumber : ((4 * m + 2 : Nat) : ℚ) ≤ 2 ^ 26 := by
      have hle : 4 * m + 2 ≤ 2 ^ 26 := by omega
      exact_mod_cast hle
    have hgreatest : (2 : ℚ) ^ (q - 2) ≤ 2 ^ (102 : Int) :=
      zpow_le_zpow_right₀ one_le_two (by omega)
    calc x ≤ (4 * m + 2 : Nat) * 2 ^ (q - 2) := hhigh
      _ ≤ 2 ^ 26 * 2 ^ (102 : Int) := mul_le_mul hnumber hgreatest hpow.le (by norm_num)
      _ < 10 ^ (39 : Int) := by norm_num

/-- Of the decimals that read back as a magnitude none has a greater exponent. -/
theorem exponent_le_shortest (hmag : 0 < mag) (hfinite : mag < BinaryFormat.binary32.infinity)
    (h : nearestDecimal d = mag) : d.exponent ≤ (shortest mag).exponent := by
  rw [nearestDecimal_eq_iff hmag hfinite] at h
  obtain ⟨hpos, hlt⟩ := bounds_of_contains hmag hfinite h
  have hten : (0 : ℚ) < 10 ^ d.exponent := zpow_pos (by norm_num) _
  have hdigits : 0 < d.digits := by
    refine Nat.pos_of_ne_zero fun hzero => hpos.ne' ?_
    rw [Decimal.value, hzero, Nat.cast_zero, zero_mul]
  have hlast := Interval.exponent_le_of_shortest (shortest_eq_some hmag) (show 91 < 92 by decide)
    (isSome_onGrid?_last hmag)
  have htop : d.exponent < 39 := by
    by_contra! hge
    have hone : (1 : ℚ) ≤ d.digits := Nat.one_le_cast.mpr hdigits
    have hle : (10 : ℚ) ^ (39 : Int) ≤ 10 ^ d.exponent :=
      zpow_le_zpow_right₀ (by norm_num) hge
    rw [Decimal.value] at hlt
    nlinarith
  rcases Int.lt_or_le d.exponent (-53) with hlt | hge
  · omega
  · obtain ⟨i, hi⟩ : ∃ i : Nat, d.exponent = 38 - i := ⟨(38 - d.exponent).toNat, by omega⟩
    rw [hi]
    refine Interval.exponent_le_of_shortest (shortest_eq_some hmag) (by omega) ?_
    rw [Interval.isSome_onGrid?_iff (contains_number hmag)]
    refine ⟨d.digits, hdigits, ?_⟩
    rw [Int.ofNat_eq_natCast, ← hi]
    exact h

/-- No decimal with fewer digits reads back as a magnitude. -/
theorem digits_shortest_lt {n : Nat} (hfinite : mag < BinaryFormat.binary32.infinity)
    (h : nearestDecimal d = mag) (hn : d.digits < 10 ^ n) : (shortest mag).digits < 10 ^ n := by
  obtain rfl | hmag := Nat.eq_zero_or_pos mag
  · exact Nat.pow_pos (by decide)
  have hexponent := exponent_le_shortest hmag hfinite h
  have hcontains := (nearestDecimal_eq_iff hmag hfinite).mp h
  have hpow : ∀ e : Int, (0 : ℚ) < 10 ^ e := zpow_pos (by norm_num)
  by_contra! hge
  -- The power of ten between the two decimals would be in the interval, too.
  have hbetween : Decimal.value ⟨1, n + (shortest mag).exponent⟩ =
      (10 ^ n : Nat) * 10 ^ (shortest mag).exponent := by
    rw [Decimal.value, zpow_add₀ (by norm_num), zpow_natCast]
    push_cast
    ring
  have hle : d.value ≤ Decimal.value ⟨1, n + (shortest mag).exponent⟩ := by
    rw [hbetween, Decimal.value]
    exact mul_le_mul (Nat.cast_le.mpr hn.le) (zpow_le_zpow_right₀ (by norm_num) hexponent)
      (hpow _).le (Nat.cast_nonneg _)
  have hge' : Decimal.value ⟨1, n + (shortest mag).exponent⟩ ≤ (shortest mag).value := by
    rw [hbetween, Decimal.value]
    exact mul_le_mul_of_nonneg_right (Nat.cast_le.mpr hge) (hpow _).le
  have hpower := hcontains.of_le_of_le
    (Interval.contains_of_shortest (shortest_eq_some hmag)).2 hle hge'
  rw [← nearestDecimal_eq_iff hmag hfinite] at hpower
  have hzero : n = 0 := by
    have hcoarse := exponent_le_shortest hmag hfinite hpower
    dsimp only at hcoarse
    omega
  have hpos := (bounds_of_contains hmag hfinite hcontains).1
  rw [hzero, Nat.pow_zero, Nat.lt_one_iff] at hn
  rw [Decimal.value, hn, Nat.cast_zero, zero_mul] at hpos
  exact lt_irrefl _ hpos

end Binary32

end EventPackets
