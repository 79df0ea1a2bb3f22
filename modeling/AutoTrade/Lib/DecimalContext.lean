import AutoTrade.Lib.Rounding
import Mathlib.Data.Int.Log
import Mathlib.Data.Rat.Floor
import Mathlib.Tactic.FieldSimp
import Mathlib.Tactic.Ring

/-!
# Arithmetic in a decimal context

Decimals of unbounded size, and the rounding of an exact result to a number of
significant digits, half to even, with a least exponent and a greatest magnitude.
The values that round to a decimal are those of its cell: the interval that reaches
half way to the neighbours, which lie closer below a power of ten than above it.
-/

namespace AutoTrade.Lib

open Rounding

/-- A finite decimal, identified with its value. -/
structure FiniteDecimal where
  toRat : ℚ
  expressed : ∃ (coefficient : ℤ) (exponent : ℤ), toRat = coefficient * 10 ^ exponent

namespace FiniteDecimal

@[ext] theorem ext {left right : FiniteDecimal} (equal : left.toRat = right.toRat) :
    left = right := by
  cases left
  cases right
  cases equal
  rfl

instance : DecidableEq FiniteDecimal := fun left right =>
  decidable_of_iff (left.toRat = right.toRat) ⟨ext, congrArg toRat⟩

/-- A whole number. -/
def whole (number : ℤ) : FiniteDecimal := ⟨number, number, 0, by simp⟩

instance : Zero FiniteDecimal := ⟨whole 0⟩

end FiniteDecimal

/-- The digits of a coefficient, the least exponent of a result and the greatest
position of its first digit. -/
structure DecimalContext where
  precision : Nat
  least : ℤ
  greatest : ℤ
  positive : 0 < precision

namespace DecimalContext

variable (context : DecimalContext)

/-- The position of the first digit. -/
def adjusted (value : ℚ) : ℤ := Int.log 10 |value|

/-- The exponent of a result whose first digit is at a position. -/
def exponentAt (position : ℤ) : ℤ := max (position - context.precision + 1) context.least

/-- The unit in the last place of a result near a value. -/
def unit (value : ℚ) : ℚ := 10 ^ context.exponentAt (adjusted value)

/-- The exact result rounded to the context. -/
def rounded (value : ℚ) : ℚ := halfEven (value / context.unit value) * context.unit value

/-- The result of an operation, unless it overflows. -/
def finish (value : ℚ) : Option FiniteDecimal :=
  if context.rounded value ≠ 0 ∧ context.greatest < adjusted (context.rounded value) then none
  else some ⟨context.rounded value, halfEven (value / context.unit value),
    context.exponentAt (adjusted value), rfl⟩

/-- The context expresses the value. -/
def Holds (value : ℚ) : Prop :=
  ∃ coefficient exponent : ℤ, |coefficient| < 10 ^ context.precision ∧
    context.least ≤ exponent ∧ value = coefficient * 10 ^ exponent

/-- The position of the first digit of the decimals just nearer to zero. -/
def adjustedBelow (value : ℚ) : ℤ :=
  if |value| = 10 ^ adjusted value then adjusted value - 1 else adjusted value

/-- The distance from a decimal to the next one on the side of a value. -/
def spacing (target value : ℚ) : ℚ :=
  10 ^ context.exponentAt (if |value| < |target| then adjustedBelow target else adjusted target)

/-- The value lies nearer to the decimal than to its neighbours, or half way and the
decimal is the even one. -/
def Cell (target value : ℚ) : Prop :=
  |value - target| < context.spacing target value / 2 ∨
    |value - target| = context.spacing target value / 2 ∧
      ∃ units : ℤ, Even units ∧ target = units * context.spacing target value

/-! ## Positions and units -/

theorem ten_zpow_pos (exponent : ℤ) : (0 : ℚ) < 10 ^ exponent := zpow_pos (by norm_num) exponent

theorem ten_zpow_le {left right : ℤ} (ordered : left ≤ right) :
    (10 : ℚ) ^ left ≤ 10 ^ right := zpow_le_zpow_right₀ (by norm_num) ordered

theorem ten_zpow_lt_iff {left right : ℤ} : (10 : ℚ) ^ left < 10 ^ right ↔ left < right :=
  zpow_lt_zpow_iff_right₀ (by norm_num)

theorem unit_pos (value : ℚ) : 0 < context.unit value := ten_zpow_pos _

theorem spacing_pos (target value : ℚ) : 0 < context.spacing target value := ten_zpow_pos _

theorem le_abs {value : ℚ} (nonzero : value ≠ 0) : (10 : ℚ) ^ adjusted value ≤ |value| := by
  have low := Int.zpow_log_le_self (R := ℚ) (b := 10) (by norm_num) (abs_pos.mpr nonzero)
  exact_mod_cast low

theorem abs_lt (value : ℚ) : |value| < (10 : ℚ) ^ (adjusted value + 1) := by
  have high := Int.lt_zpow_succ_log_self (R := ℚ) (b := 10) (by norm_num) |value|
  exact_mod_cast high

/-- A power of ten is a multiple of every smaller one. -/
theorem exists_multiple {small large : ℤ} (ordered : small ≤ large) :
    ∃ units : ℤ, 0 < units ∧ (10 : ℚ) ^ large = units * 10 ^ small := by
  refine ⟨10 ^ (large - small).toNat, by positivity, ?_⟩
  rw [Int.cast_pow, Int.cast_ofNat, ← zpow_natCast, ← zpow_add₀ (by norm_num : (10 : ℚ) ≠ 0)]
  congr 1
  omega

theorem adjusted_mono {left right : ℚ} (nonzero : left ≠ 0) (ordered : |left| ≤ |right|) :
    adjusted left ≤ adjusted right := by
  have below := (le_abs nonzero).trans_lt (ordered.trans_lt (abs_lt right))
  exact Int.lt_add_one_iff.mp (ten_zpow_lt_iff.mp below)

theorem exponentAt_mono {left right : ℤ} (ordered : left ≤ right) :
    context.exponentAt left ≤ context.exponentAt right := by
  unfold exponentAt
  omega

theorem adjustedBelow_le (target : ℚ) : adjustedBelow target ≤ adjusted target := by
  unfold adjustedBelow
  split
  · omega
  · exact le_rfl

theorem adjustedBelow_lt {target : ℚ} (nonzero : target ≠ 0) :
    (10 : ℚ) ^ adjustedBelow target < |target| := by
  unfold adjustedBelow
  split
  next power =>
    rw [power]
    exact ten_zpow_lt_iff.mpr (by omega)
  next power => exact lt_of_le_of_ne (le_abs nonzero) (Ne.symm power)

/-- A decimal below the power of ten that follows a position has its neighbour there. -/
theorem adjustedBelow_le_of_le {target : ℚ} {position : ℤ} (nonzero : target ≠ 0)
    (bounded : |target| ≤ 10 ^ (position + 1)) : adjustedBelow target ≤ position := by
  have below := ten_zpow_lt_iff.mp ((adjustedBelow_lt nonzero).trans_le bounded)
  omega

/-! ## The decimals of a context -/

/-- A decimal is a multiple of the unit of its own position. -/
theorem Holds.multiple {context : DecimalContext} {target : ℚ} (held : context.Holds target)
    (nonzero : target ≠ 0) : context.exponentAt (adjusted target) ≤ adjusted target ∧
      ∃ units : ℤ, target = units * 10 ^ context.exponentAt (adjusted target) := by
  obtain ⟨coefficient, exponent, digits, least, rfl⟩ := held
  have some : coefficient ≠ 0 := by
    intro none
    simp [none] at nonzero
  have one : (1 : ℚ) ≤ |(coefficient : ℚ)| := by
    exact_mod_cast Int.one_le_abs some
  have fits : |(coefficient : ℚ)| < 10 ^ (context.precision : ℤ) := by
    rw [zpow_natCast]
    exact_mod_cast digits
  have size : |(coefficient : ℚ) * 10 ^ exponent| = |(coefficient : ℚ)| * 10 ^ exponent := by
    rw [abs_mul, abs_of_pos (ten_zpow_pos exponent)]
  have first : exponent ≤ adjusted ((coefficient : ℚ) * 10 ^ exponent) := by
    have low : (10 : ℚ) ^ exponent ≤ |(coefficient : ℚ) * 10 ^ exponent| := by
      rw [size]
      exact le_mul_of_one_le_left (ten_zpow_pos exponent).le one
    have below := ten_zpow_lt_iff.mp (low.trans_lt (abs_lt _))
    omega
  have last : adjusted ((coefficient : ℚ) * 10 ^ exponent) < context.precision + exponent := by
    apply ten_zpow_lt_iff.mp
    calc (10 : ℚ) ^ adjusted ((coefficient : ℚ) * 10 ^ exponent)
        ≤ |(coefficient : ℚ) * 10 ^ exponent| := le_abs nonzero
      _ = |(coefficient : ℚ)| * 10 ^ exponent := size
      _ < 10 ^ (context.precision : ℤ) * 10 ^ exponent :=
        mul_lt_mul_of_pos_right fits (ten_zpow_pos exponent)
      _ = 10 ^ (context.precision + exponent) := (zpow_add₀ (by norm_num) _ _).symm
  have coarse : context.exponentAt (adjusted ((coefficient : ℚ) * 10 ^ exponent)) ≤ exponent := by
    unfold exponentAt
    omega
  obtain ⟨units, -, power⟩ := exists_multiple coarse
  constructor
  · exact coarse.trans first
  · exact ⟨coefficient * units, by rw [Int.cast_mul, mul_assoc, ← power]⟩

theorem le_adjusted {target : ℚ} {position : ℤ} (below : (10 : ℚ) ^ position ≤ |target|) :
    position ≤ adjusted target := by
  have bounded := ten_zpow_lt_iff.mp (below.trans_lt (abs_lt target))
  omega

theorem le_adjustedBelow {target : ℚ} {position : ℤ} (below : (10 : ℚ) ^ position < |target|) :
    position ≤ adjustedBelow target := by
  unfold adjustedBelow
  split
  next power =>
    rw [power] at below
    have strict := ten_zpow_lt_iff.mp below
    omega
  next power => exact le_adjusted below.le

/-! ## Rounding -/

@[simp] theorem rounded_zero : context.rounded 0 = 0 := by
  have none : halfEven (0 : ℚ) = 0 := by
    rw [← Int.cast_zero]
    exact halfEven_intCast 0
  simp [rounded, none]

theorem abs_rounded (value : ℚ) : |context.rounded value| =
    |(halfEven (value / context.unit value) : ℚ)| * context.unit value := by
  rw [rounded, abs_mul, abs_of_pos (context.unit_pos value)]

theorem abs_div_unit (value : ℚ) : |value / context.unit value| = |value| / context.unit value := by
  rw [abs_div, abs_of_pos (context.unit_pos value)]

/-- Rounding does not pass a power of ten that the unit divides. -/
theorem abs_rounded_le {value : ℚ} {position : ℤ}
    (fine : context.exponentAt (adjusted value) ≤ position) (bounded : |value| ≤ 10 ^ position) :
    |context.rounded value| ≤ 10 ^ position := by
  obtain ⟨units, _, power⟩ := exists_multiple fine
  have scaled : |value / context.unit value| ≤ units := by
    rw [abs_div_unit, div_le_iff₀ (context.unit_pos value)]
    exact bounded.trans_eq power
  have count : |(halfEven (value / context.unit value) : ℚ)| ≤ units := by
    exact_mod_cast abs_halfEven_le scaled
  rw [abs_rounded, power]
  exact mul_le_mul_of_nonneg_right count (context.unit_pos value).le

theorem le_abs_rounded {value : ℚ} {position : ℤ}
    (fine : context.exponentAt (adjusted value) ≤ position) (bounded : 10 ^ position ≤ |value|) :
    10 ^ position ≤ |context.rounded value| := by
  obtain ⟨units, _, power⟩ := exists_multiple fine
  have scaled : (units : ℚ) ≤ |value / context.unit value| := by
    rw [abs_div_unit, le_div_iff₀ (context.unit_pos value)]
    exact power.symm.trans_le bounded
  have count : (units : ℚ) ≤ |(halfEven (value / context.unit value) : ℚ)| := by
    exact_mod_cast le_abs_halfEven scaled
  rw [abs_rounded, power]
  exact mul_le_mul_of_nonneg_right count (context.unit_pos value).le

/-- A rounded result is a decimal of the context. -/
theorem holds_rounded (value : ℚ) : context.Holds (context.rounded value) := by
  have positive := context.positive
  have least : context.least ≤ context.exponentAt (adjusted value) := le_max_right _ _
  have bounded : |context.rounded value| ≤
      10 ^ (context.precision + context.exponentAt (adjusted value)) := by
    apply context.abs_rounded_le
    · omega
    · apply (abs_lt value).le.trans
      apply ten_zpow_le
      unfold exponentAt
      omega
  rw [abs_rounded, zpow_add₀ (by norm_num), unit] at bounded
  have digits : |halfEven (value / context.unit value)| ≤ 10 ^ context.precision := by
    have cast := le_of_mul_le_mul_right bounded (ten_zpow_pos _)
    rw [zpow_natCast] at cast
    exact_mod_cast cast
  rcases digits.lt_or_eq with fewer | power
  · exact ⟨_, _, fewer, least, rfl⟩
  · -- The rounding carried into one more digit.
    refine ⟨(halfEven (value / context.unit value)).sign,
      context.precision + context.exponentAt (adjusted value), ?_, by omega, ?_⟩
    · calc |(halfEven (value / context.unit value)).sign| ≤ 1 := by
            rcases Int.sign_trichotomy (halfEven (value / context.unit value)) with
              sign | sign | sign <;> simp [sign]
        _ < 10 ^ context.precision := one_lt_pow₀ (by norm_num) positive.ne'
    · have whole : ((halfEven (value / context.unit value) : ℤ) : ℚ) =
          (halfEven (value / context.unit value)).sign * 10 ^ context.precision := by
        have product := Int.sign_mul_abs (halfEven (value / context.unit value))
        rw [power] at product
        exact_mod_cast product.symm
      rw [rounded, whole, zpow_add₀ (by norm_num), zpow_natCast, mul_assoc, unit]

/-- The unit of a value is the distance of the rounded decimal to its neighbour. -/
theorem spacing_rounded {value : ℚ} (nonzero : context.rounded value ≠ 0) :
    context.spacing (context.rounded value) value = context.unit value := by
  have positive := context.positive
  have some : value ≠ 0 := by
    intro none
    simp [none] at nonzero
  unfold spacing unit
  congr 1
  by_cases subnormal : adjusted value - context.precision + 1 < context.least
  · have coarse : context.exponentAt (adjusted value) = context.least :=
      max_eq_right subnormal.le
    have small : |context.rounded value| ≤ 10 ^ (context.least + context.precision - 1) := by
      apply context.abs_rounded_le
      · omega
      · exact (abs_lt value).le.trans (ten_zpow_le (by omega))
    split
    next above =>
      have below : adjustedBelow (context.rounded value) ≤
          context.least + context.precision - 2 := by
        apply adjustedBelow_le_of_le nonzero
        exact small.trans (ten_zpow_le (by omega))
      unfold exponentAt
      omega
    next notAbove =>
      have below := adjusted_mono nonzero (not_lt.mp notAbove)
      unfold exponentAt
      omega
  · have fine : context.exponentAt (adjusted value) = adjusted value - context.precision + 1 :=
      max_eq_left (by omega)
    split
    next above =>
      have high : adjustedBelow (context.rounded value) ≤ adjusted value := by
        apply adjustedBelow_le_of_le nonzero
        exact context.abs_rounded_le (by omega) (abs_lt value).le
      have low := le_adjustedBelow ((le_abs some).trans_lt above)
      rw [le_antisymm high low]
    next notAbove =>
      have high := adjusted_mono nonzero (not_lt.mp notAbove)
      have low := le_adjusted (context.le_abs_rounded (by omega) (le_abs some))
      rw [le_antisymm high low]

/-- A value lies in the cell of the decimal that it is rounded to. -/
theorem cell_rounded {value : ℚ} (nonzero : context.rounded value ≠ 0) :
    context.Cell (context.rounded value) value := by
  obtain ⟨near, tie⟩ := rounds_halfEven (value / context.unit value)
  have positive := context.unit_pos value
  have distance : |value - context.rounded value| =
      |value / context.unit value - halfEven (value / context.unit value)| *
        context.unit value := by
    rw [← abs_of_pos positive, ← abs_mul, abs_of_pos positive, sub_mul,
      div_mul_cancel₀ value positive.ne', rounded]
  rw [Cell, context.spacing_rounded nonzero, distance]
  rcases near.lt_or_eq with nearer | half
  · left
    calc _ < 1 / 2 * context.unit value := mul_lt_mul_of_pos_right nearer positive
      _ = context.unit value / 2 := one_div_mul_eq_div _ _
  · right
    constructor
    · rw [half, one_div_mul_eq_div]
    · exact ⟨_, tie half, rfl⟩

/-- The decimals of the cell are multiples of its spacing. -/
theorem Holds.spacing {context : DecimalContext} {target : ℚ} (held : context.Holds target)
    (nonzero : target ≠ 0) (value : ℚ) :
    ∃ units : ℤ, target = units * context.spacing target value := by
  obtain ⟨_, units, product⟩ := held.multiple nonzero
  have coarse : context.exponentAt
      (if |value| < |target| then adjustedBelow target else adjusted target) ≤
        context.exponentAt (adjusted target) := by
    apply context.exponentAt_mono
    split
    · exact adjustedBelow_le target
    · exact le_rfl
  obtain ⟨more, _, power⟩ := exists_multiple coarse
  refine ⟨units * more, ?_⟩
  rw [Int.cast_mul, mul_assoc, DecimalContext.spacing, ← power]
  exact product

/-- Two multiples of a step, one below the other, are a step apart. -/
theorem add_le_of_lt {left right : ℤ} {step : ℚ} (positive : 0 < step)
    (below : left * step < right * step) : left * step + step ≤ right * step := by
  have ordered : left < right := by exact_mod_cast lt_of_mul_lt_mul_right below positive.le
  have next : (left : ℚ) + 1 ≤ right := by exact_mod_cast Int.add_one_le_iff.mpr ordered
  calc (left : ℚ) * step + step = (left + 1) * step := by ring
    _ ≤ right * step := mul_le_mul_of_nonneg_right next positive.le

theorem Cell.near {context : DecimalContext} {target value : ℚ}
    (cell : context.Cell target value) :
    |value - target| ≤ context.spacing target value / 2 := by
  rcases cell with inside | ⟨tie, _⟩
  · exact inside.le
  · exact tie.le

theorem Cell.nonzero {context : DecimalContext} {target value : ℚ}
    (cell : context.Cell target value) (one : context.spacing target value ≤ |target|) :
    value ≠ 0 := by
  intro none
  have near := cell.near
  have step := context.spacing_pos target value
  rw [none, zero_sub, abs_neg, ← none] at near
  linarith

/-- The values in a cell round to a multiple of the spacing of its decimal. -/
theorem Cell.unit_eq {context : DecimalContext} {target value : ℚ}
    (cell : context.Cell target value) (nonzero : target ≠ 0) (held : context.Holds target) :
    context.unit value = context.spacing target value := by
  have step := context.spacing_pos target value
  obtain ⟨count, multiple⟩ := held.spacing nonzero value
  have size : |target| = ((|count| : ℤ) : ℚ) * context.spacing target value := by
    conv_lhs => rw [multiple]
    rw [abs_mul, abs_of_pos step, Int.cast_abs]
  have above : |value| ≤ |target| + context.spacing target value / 2 := by
    linarith [abs_sub_abs_le_abs_sub value target, cell.near]
  have below : |target| ≤ |value| + context.spacing target value / 2 := by
    linarith [abs_sub_abs_le_abs_sub target value, abs_sub_comm target value, cell.near]
  have one : context.spacing target value ≤ |target| := by
    have apart : ((0 : ℤ) : ℚ) * context.spacing target value <
        ((|count| : ℤ) : ℚ) * context.spacing target value := by
      rw [Int.cast_zero, zero_mul, ← size]
      exact abs_pos.mpr nonzero
    have first := add_le_of_lt step apart
    rwa [Int.cast_zero, zero_mul, zero_add, ← size] at first
  have low := le_abs (cell.nonzero one)
  rcases lt_or_ge |value| |target| with under | wide
  · have spaced : context.spacing target value = 10 ^ context.exponentAt (adjustedBelow target) := by
      rw [spacing, if_pos under]
    rw [spaced, unit]
    congr 1
    apply le_antisymm
    · exact context.exponentAt_mono (le_adjustedBelow (low.trans_lt under))
    · by_cases subnormal : adjustedBelow target - context.precision + 1 ≤ context.least
      · unfold exponentAt
        omega
      · -- A whole step lies between the power of ten and the decimal.
        apply context.exponentAt_mono
        apply le_adjusted
        have positive := context.positive
        obtain ⟨units, _, power⟩ := exists_multiple
          (show context.exponentAt (adjustedBelow target) ≤ adjustedBelow target by
            unfold exponentAt
            omega)
        rw [← spaced] at power
        have apart := add_le_of_lt step
          (power.symm.trans_lt ((adjustedBelow_lt nonzero).trans_eq size))
        rw [← power, ← size] at apart
        linarith
  · have spaced : context.spacing target value = 10 ^ context.exponentAt (adjusted target) := by
      rw [spacing, if_neg (not_lt.mpr wide)]
    rw [spaced, unit]
    congr 2
    apply le_antisymm
    · apply not_lt.mp
      intro carried
      obtain ⟨fits, _⟩ := held.multiple nonzero
      obtain ⟨units, _, power⟩ := exists_multiple (fits.trans (Int.le_add_one le_rfl))
      rw [← spaced] at power
      have apart := add_le_of_lt step (size.symm.trans_lt ((abs_lt target).trans_eq power))
      rw [← power, ← size] at apart
      have reached : (10 : ℚ) ^ (adjusted target + 1) ≤ |value| :=
        (ten_zpow_le carried).trans low
      linarith
    · exact adjusted_mono nonzero wide

/-- A value in the cell of a decimal rounds to it. -/
theorem Cell.rounded_eq {context : DecimalContext} {target value : ℚ}
    (cell : context.Cell target value) (nonzero : target ≠ 0) (held : context.Holds target) :
    context.rounded value = target := by
  have same := cell.unit_eq nonzero held
  have step := context.spacing_pos target value
  obtain ⟨count, multiple⟩ := held.spacing nonzero value
  have distance : |value / context.spacing target value - count| =
      |value - target| / context.spacing target value := by
    have scaled : target / context.spacing target value = count := by
      rw [div_eq_iff step.ne']
      exact multiple
    rw [← scaled, ← sub_div, abs_div, abs_of_pos step]
  have rounds : Rounds .halfEven (value / context.spacing target value) count := by
    rw [Rounds, distance]
    constructor
    · rw [div_le_iff₀ step, one_div_mul_eq_div]
      exact cell.near
    · intro half
      rw [div_eq_iff step.ne', one_div_mul_eq_div] at half
      rcases cell with inside | ⟨_, units, even, other⟩
      · exact absurd half inside.ne
      · have equal := mul_right_cancel₀ step.ne' (multiple.symm.trans other)
        rwa [Int.cast_inj.mp equal]
  rw [rounded, same, halfEven_eq_iff.mpr rounds]
  exact multiple.symm

/-- The values that are rounded to a decimal are those of its cell. -/
theorem rounded_eq_iff {target value : ℚ} (nonzero : target ≠ 0) :
    context.rounded value = target ↔ context.Holds target ∧ context.Cell target value := by
  constructor
  · intro same
    have cell := context.cell_rounded (same.trans_ne nonzero)
    rw [same] at cell
    exact ⟨same ▸ context.holds_rounded value, cell⟩
  · intro ⟨held, cell⟩
    exact cell.rounded_eq nonzero held

end DecimalContext

end AutoTrade.Lib
