import AutoTrade.Lib.Text
import AutoTrade.Numeric.DecimalText

/-!
# Amounts

`canonical_decimal_text` of an admitted decimal, and what
`parse_bounded_exact_decimal` reads from such a text.  A value has one canonical
text, so the text is a function of the value.

An exact sum of amounts that are not negative is inside the envelope as soon as
its result is.
-/

namespace AutoTrade.Numeric

open Lib

namespace Shape

/-- The bounded reader finds in a canonical text what it denotes. -/
theorem preflight (shape : Shape) (allowExponent : Bool)
    (digitBound : (Nat.digits 10 shape.toTuple.coefficient).length ≤ maxSignificantDigits)
    (scaleBound : shape.fraction.length ≤ maxScale) :
    ∃ tuple, preflightBoundedPresentation (String.ofList shape.text) allowExponent = .ok tuple ∧
      tuple.toRat = shape.toTuple.toRat ∧ ∃ inside, validateDecimalEnvelope tuple = .ok inside := by
  have short : ¬ maxDecimalTextLength < (String.ofList shape.text).length := by
    have valid := shape.accepted digitBound scaleBound
    rw [parseCanonicalDecimalText, guard_eq_ok] at valid
    have checked := not_not.mp valid.1
    simp only [isValidDecimalScalar, Bool.and_eq_true, decide_eq_true_eq,
      String.toList_ofList] at checked
    rw [String.length_ofList]
    exact not_lt.mpr checked.1.1
  have text : shape.text = (if shape.negative then ['-'] else []) ++
      (shape.integer ++ (pointed shape.fraction ++ exponentTail none)) := by
    rw [Shape.text, exponentTail, Option.elim_none, List.append_nil, List.append_assoc]
  have found : matchPresentation (String.ofList shape.text).toList =
      some ⟨shape.negative, shape.integer, shape.fraction, none⟩ := by
    rw [String.toList_ofList, text]
    exact matchPresentation_parts shape.negative none shape.integer_ne_nil shape.integerDigits
      shape.fractionDigits
  have significant := shape.significant
  rw [preflightBoundedPresentation, if_neg short, found]
  simp only [Option.isSome_none, Bool.false_and, Bool.false_eq_true, if_false, Option.getD_none]
  by_cases zero : (shape.integer ++ shape.fraction).dropWhile (· = '0') = []
  · rw [if_pos zero]
    refine ⟨_, rfl, ?_, ⟨false, 0, 0⟩, rfl⟩
    have vanishes : shape.toTuple.coefficient = 0 := by
      rw [toTuple, ← digitsValue_dropZeros, zero]
      rfl
    rw [DecimalTuple.toRat_eq_zero.mpr vanishes, DecimalTuple.toRat_eq_zero]
  · have wide : ¬ maxSignificantDigits <
        ((shape.integer ++ shape.fraction).dropWhile (· = '0')).length := by
      rw [significant]
      exact not_lt.mpr digitBound
    have coefficient : digitsValue ((shape.integer ++ shape.fraction).dropWhile (· = '0')) =
        shape.toTuple.coefficient := digitsValue_dropZeros _
    have exponent : boundedExponent [] ((shape.fraction.length : Int) - maxScale)
        (shape.fraction.length + maxIntegerDigits -
          ((shape.integer ++ shape.fraction).dropWhile (· = '0')).length) = .ok 0 := rfl
    have inside : ¬ ((maxScale : Int) < max (-(0 - (shape.fraction.length : Int))) 0 ∨
        (maxIntegerDigits : Int) <
          max ((((shape.integer ++ shape.fraction).dropWhile (· = '0')).length : Int) +
            (0 - (shape.fraction.length : Int))) 0) := by
      rw [significant]
      simp only [maxSignificantDigits, maxScale, maxIntegerDigits] at digitBound scaleBound ⊢
      omega
    rw [if_neg zero]
    simp only [if_neg wide, exponent, ok_bind, if_neg inside, coefficient]
    refine ⟨_, rfl, ?_, ?_⟩
    · rw [zero_sub]
      rfl
    · rw [zero_sub]
      exact shape.admitted digitBound scaleBound

/-- The characters of a canonical text. -/
theorem mem_text {shape : Shape} {character : Char} (member : character ∈ shape.text) :
    isAsciiDigit character = true ∨ character = '-' ∨ character = '.' := by
  have parts : character ∈ (if shape.negative then ['-'] else []) ∨
      character ∈ shape.integer ∨ character ∈ Shape.pointed shape.fraction := by
    rwa [Shape.text, List.append_assoc, List.mem_append, List.mem_append] at member
  rcases parts with sign | whole | pointed
  · split at sign <;> simp_all
  · exact Or.inl (shape.integerDigits character whole)
  · rw [Shape.pointed] at pointed
    split at pointed
    next => cases pointed
    next =>
      rcases List.mem_cons.mp pointed with point | digit
      · exact Or.inr (Or.inr point)
      · exact Or.inl (shape.fractionDigits character digit)

theorem text_ne_nil (shape : Shape) : shape.text ≠ [] := by
  simp [Shape.text, shape.integer_ne_nil]

/-- The shape of a positive whole number. -/
theorem of_whole {shape : Shape} (positive : 0 < shape.toTuple.toRat)
    (whole : shape.toTuple.toRat.den = 1) :
    shape.negative = false ∧ shape.fraction = [] ∧ startsNonzero shape.integer := by
  have power : (0 : ℚ) < 10 ^ shape.toTuple.exponent := zpow_pos (by norm_num) _
  have coefficient : (0 : ℚ) < shape.toTuple.signedCoefficient := by
    rw [DecimalTuple.toRat] at positive
    exact pos_of_mul_pos_left positive power.le
  have sign : shape.negative = false := by
    rw [Bool.eq_false_iff]
    intro negative
    rw [DecimalTuple.signedCoefficient, show shape.toTuple.negative = true from negative,
      if_pos rfl, Int.cast_pos] at coefficient
    omega
  have nonzero : shape.toTuple.coefficient ≠ 0 := by
    intro zero
    rw [DecimalTuple.toRat_eq_zero.mpr zero] at positive
    exact absurd positive (lt_irrefl 0)
  have fraction : shape.fraction = [] := by
    by_contra present
    apply shape.coefficient_mod_ten present
    -- the coefficient is the whole number times a positive power of ten
    have scaled : (shape.toTuple.coefficient : ℚ) =
        shape.toTuple.toRat.num * 10 ^ shape.fraction.length := by
      have number : (shape.toTuple.toRat.num : ℚ) = shape.toTuple.toRat := by
        exact Rat.den_eq_one_iff _ |>.mp whole
      have exponent : shape.toTuple.exponent = -(shape.fraction.length : Int) := rfl
      have unsigned : shape.toTuple.signedCoefficient = shape.toTuple.coefficient := by
        rw [DecimalTuple.signedCoefficient, show shape.toTuple.negative = false from sign]
        rfl
      rw [number, DecimalTuple.toRat, unsigned, exponent, zpow_neg, zpow_natCast,
        inv_mul_cancel_right₀ (by positivity)]
      norm_cast
    have integers : (shape.toTuple.coefficient : ℤ) =
        shape.toTuple.toRat.num * 10 ^ shape.fraction.length := by exact_mod_cast scaled
    obtain ⟨more, longer⟩ := Nat.exists_eq_succ_of_ne_zero
      (List.length_pos_iff.mpr present).ne'
    rw [longer, Nat.succ_eq_add_one, pow_succ, ← mul_assoc] at integers
    omega
  refine ⟨sign, fraction, ?_⟩
  apply shape.leading.resolve_right
  intro zero
  exact nonzero (shape.coefficient_eq_zero.mpr ⟨zero, fraction⟩)

end Shape

theorem toRat_of_validateDecimalEnvelope {value tuple : DecimalTuple}
    (valid : validateDecimalEnvelope value = .ok tuple) : tuple.toRat = value.toRat := by
  by_cases zero : value.coefficient = 0
  · rw [validateDecimalEnvelope, if_pos zero, Except.ok.injEq] at valid
    rw [← valid, DecimalTuple.toRat_eq_zero.mpr zero, DecimalTuple.toRat_eq_zero]
  · rw [validateDecimalEnvelope_eq valid zero]

/-- What the bounded reader makes of a canonical text. -/
theorem parse_canonicalDecimalText {value tuple : DecimalTuple}
    (inside : validateDecimalEnvelope value = .ok tuple) :
    ∃ text, canonicalDecimalText value = .ok text ∧
      ∀ allowExponent, ∃ amount, parseBoundedExactDecimal (.text text) allowExponent = .ok amount ∧
        amount.toRat = value.toRat := by
  obtain ⟨shape, written, same, scaleBound, digitBound⟩ := exists_shape inside
  refine ⟨_, written, ?_⟩
  intro allowExponent
  obtain ⟨read, parsed, equal, admitted, valid⟩ :=
    shape.preflight allowExponent digitBound scaleBound
  refine ⟨⟨admitted.toRat, representable_of_validateDecimalEnvelope valid⟩, ?_, ?_⟩
  · rw [parseBoundedExactDecimal, parsed, ok_bind]
    exact admitTuple_of_valid valid
  · rw [← same, ← equal]
    exact toRat_of_validateDecimalEnvelope valid

namespace Decimal

/-- `canonical_decimal_text` of an admitted decimal. -/
def canonicalText (value : Decimal) : Except ExactDecimalError String := do
  let presented ← presentTerminating value.toRat
  canonicalDecimalText presented.tuple

/-- A decimal has a canonical text, which is read back as the decimal. -/
theorem exists_canonicalText (value : Decimal) :
    ∃ text, value.canonicalText = .ok text ∧
      ∀ allowExponent, parseBoundedExactDecimal (.text text) allowExponent = .ok value := by
  have terminating := terminatingDecimal_eq_ok.mpr (Eq.refl value.toRat)
  rw [← presentTerminating_value] at terminating
  cases shown : presentTerminating value.toRat with
  | error error =>
      rw [shown] at terminating
      cases terminating
  | ok presented =>
      rw [shown, Except.map, Except.ok.injEq] at terminating
      obtain ⟨text, written, read⟩ := parse_canonicalDecimalText presented.admitted
      refine ⟨text, ?_, ?_⟩
      · rw [canonicalText, shown, ok_bind, written]
      · intro allowExponent
        obtain ⟨amount, parsed, same⟩ := read allowExponent
        rw [parsed, Except.ok.injEq, ← terminating]
        exact Decimal.ext same

/-- The canonical text of a decimal has a canonical shape that denotes the decimal and keeps
within the digit limit. -/
theorem exists_shape_of_canonicalText {value : Decimal} {text : String}
    (written : value.canonicalText = .ok text) :
    ∃ shape : Shape, text = String.ofList shape.text ∧ shape.toTuple.toRat = value.toRat ∧
      (Nat.digits 10 shape.toTuple.coefficient).length ≤ maxSignificantDigits := by
  rw [canonicalText, bind_eq_ok] at written
  obtain ⟨presented, shown, rendered⟩ := written
  obtain ⟨shape, same, equal, -, digitBound⟩ := exists_shape presented.admitted
  rw [rendered, Except.ok.injEq] at same
  refine ⟨shape, same, ?_, digitBound⟩
  rw [equal]
  have read := presentTerminating_value value.toRat
  rw [shown] at read
  exact terminatingDecimal_toRat read.symm

/-- The canonical text of a decimal is normal text. -/
theorem normal_canonicalText {value : Decimal} {text : String}
    (written : value.canonicalText = .ok text) : Normal text := by
  obtain ⟨shape, rfl, -⟩ := exists_shape_of_canonicalText written
  apply normal_of_forall
  · intro empty
    apply shape.text_ne_nil
    rw [← String.toList_ofList (l := shape.text), empty]
    rfl
  · rw [String.toList_ofList]
    intro character member
    rcases shape.mem_text member with digit | rfl | rfl
    · simp only [isAsciiDigit, Bool.and_eq_true, decide_eq_true_eq] at digit
      exact isSpace_eq_false (by omega) (by omega)
    · decide
    · decide

end Decimal

/-! ## Sums -/

/-- A value with at most `maxScale` fractional digits. -/
def Scaled (value : ℚ) : Prop := ∃ coefficient : ℤ, value * 10 ^ maxScale = coefficient

theorem Representable.scaled {value : ℚ} (representable : Representable value) : Scaled value := by
  obtain ⟨scale, scaleBound, coefficient, scaled, _⟩ := representable
  refine ⟨coefficient * 10 ^ (maxScale - scale), ?_⟩
  have split : (10 : ℚ) ^ maxScale = 10 ^ scale * 10 ^ (maxScale - scale) := by
    rw [← pow_add, Nat.add_sub_cancel' scaleBound]
  rw [split, ← mul_assoc, scaled]
  push_cast
  rfl

theorem Scaled.add {left right : ℚ} (first : Scaled left) (second : Scaled right) :
    Scaled (left + right) := by
  obtain ⟨leftCoefficient, leftScaled⟩ := first
  obtain ⟨rightCoefficient, rightScaled⟩ := second
  refine ⟨leftCoefficient + rightCoefficient, ?_⟩
  rw [add_mul, leftScaled, rightScaled]
  push_cast
  rfl

theorem den_dvd_of_scaled {value : ℚ} {scale : ℕ} {coefficient : ℤ}
    (scaled : value * 10 ^ scale = coefficient) : value.den ∣ 10 ^ scale := by
  have divisor := Rat.den_dvd coefficient ((10 ^ scale : ℕ) : ℤ)
  have fraction : value = (coefficient : ℚ) / (((10 ^ scale : ℕ) : ℤ) : ℚ) := by
    rw [← scaled]
    push_cast
    field_simp
  rw [Rat.divInt_eq_div, ← fraction] at divisor
  exact_mod_cast divisor

theorem Scaled.den_dvd {value : ℚ} (scaled : Scaled value) : value.den ∣ 10 ^ maxScale := by
  obtain ⟨coefficient, equal⟩ := scaled
  exact den_dvd_of_scaled equal

theorem Representable.lt {value : ℚ} (representable : Representable value) :
    value < 10 ^ maxSignificantDigits := by
  obtain ⟨scale, _, coefficient, scaled, digits⟩ := representable
  have below : (coefficient : ℚ) < 10 ^ maxSignificantDigits := by
    have natural : coefficient < (10 ^ maxSignificantDigits : ℕ) := by omega
    exact_mod_cast natural
  have power : (1 : ℚ) ≤ 10 ^ scale := one_le_pow₀ (by norm_num)
  by_contra large
  have wide := mul_le_mul (not_lt.mp large) power (by norm_num) ((by positivity :
    (0 : ℚ) ≤ 10 ^ maxSignificantDigits).trans (not_lt.mp large))
  rw [mul_one, scaled] at wide
  exact absurd below (not_lt.mpr wide)

/-- Intermediate results below a representable one are inside their envelope. -/
theorem validateFractionIntermediate_of_le {value bound : ℚ} (scaled : Scaled value)
    (nonnegative : 0 ≤ value) (below : value ≤ bound) (representable : Representable bound) :
    validateFractionIntermediate value = .ok () := by
  have denominator : value.den ≤ 10 ^ maxScale := Nat.le_of_dvd (by positivity) scaled.den_dvd
  have small : value < 10 ^ maxSignificantDigits := below.trans_lt representable.lt
  have numerator : value.num.natAbs < 10 ^ maxSignificantDigits * 10 ^ maxScale := by
    have product : (value.num.natAbs : ℚ) = value * value.den := by
      rw [Rat.mul_den_eq_num, Nat.cast_natAbs, abs_of_nonneg (Rat.num_nonneg.mpr nonnegative)]
    have bounded : (value.num.natAbs : ℚ) < 10 ^ maxSignificantDigits * 10 ^ maxScale := by
      rw [product]
      have positive : (0 : ℚ) < value.den := by exact_mod_cast value.den_pos
      apply lt_of_lt_of_le (mul_lt_mul_of_pos_right small positive)
      apply mul_le_mul_of_nonneg_left _ (by positivity)
      exact_mod_cast denominator
    exact_mod_cast bounded
  rw [validateFractionIntermediate_eq_ok]
  constructor
  · apply numerator.trans_le
    rw [← pow_add]
    exact Nat.pow_le_pow_right (by norm_num) (by decide)
  · apply denominator.trans_lt
    exact Nat.pow_lt_pow_right (by norm_num) (by decide)

theorem exists_accumulate {values : List Decimal} {start : ℚ} (scaled : Scaled start)
    (initial : 0 ≤ start) (nonnegative : ∀ value ∈ values, 0 ≤ value.toRat)
    (representable : Representable (start + (values.map Decimal.toRat).sum)) :
    ∃ result, accumulate (· + ·) start values = .ok result := by
  induction values generalizing start with
  | nil =>
      rw [List.map_nil, List.sum_nil, add_zero] at representable
      exact terminatingDecimal_of_representable representable
  | cons value rest ih =>
      rw [List.forall_mem_cons] at nonnegative
      rw [List.map_cons, List.sum_cons, ← add_assoc] at representable
      have further := scaled.add value.bounded.scaled
      have grown := add_nonneg initial nonnegative.1
      have below : start + value.toRat ≤
          start + value.toRat + (rest.map Decimal.toRat).sum := by
        apply le_add_of_nonneg_right
        apply List.sum_nonneg
        intro amount member
        obtain ⟨item, listed, rfl⟩ := List.mem_map.mp member
        exact nonnegative.2 item listed
      have checked := validateFractionIntermediate_of_le further grown below representable
      obtain ⟨result, success⟩ := ih further grown nonnegative.2 representable
      refine ⟨result, ?_⟩
      simp only [accumulate, List.foldlM_cons, checked, ok_bind] at success ⊢
      exact success

/-- An exact sum of amounts that are not negative returns exactly the
representable totals. -/
theorem exactSum_eq_ok {values : List Decimal} {result : Decimal}
    (nonnegative : ∀ value ∈ values, 0 ≤ value.toRat) :
    exactSum values 0 = .ok result ↔ result.toRat = (values.map Decimal.toRat).sum := by
  constructor
  · intro success
    rw [exactSum_toRat success, Decimal.toRat_zero, zero_add]
  · intro same
    have representable := result.bounded
    rw [same, ← zero_add (values.map Decimal.toRat).sum] at representable
    obtain ⟨other, success⟩ := exists_accumulate (Decimal.representable_zero).scaled le_rfl
      nonnegative representable
    have total : other.toRat = (0 : Decimal).toRat + (values.map Decimal.toRat).sum :=
      exactSum_toRat success
    rw [exactSum, Decimal.toRat_zero, success, Except.ok.injEq]
    apply Decimal.ext
    rw [total, same, Decimal.toRat_zero, zero_add]

/-! ## Exact products -/

theorem exactMultiply_pair {left right result : Decimal}
    (success : exactMultiply [left, right] = .ok result) :
    result.toRat = left.toRat * right.toRat := by
  rw [accumulate_toRat success]
  simp

end AutoTrade.Numeric
