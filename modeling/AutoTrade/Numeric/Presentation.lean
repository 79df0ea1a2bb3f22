import AutoTrade.Numeric.CanonicalText

/-!
# Presented decimals

A `decimal.Decimal` object that passed `parse_bounded_exact_decimal`: its value
together with the `(sign, digits, exponent)` triple it is written with.  Values
are compared without the triple; texts are made from it.
-/

namespace AutoTrade.Numeric

open Lib

/-- An admitted decimal with its presentation. -/
structure Presented where
  tuple : DecimalTuple
  admitted : validateDecimalEnvelope tuple = .ok tuple
  canonicalZero : tuple.coefficient = 0 → tuple = ⟨false, 0, 0⟩
  deriving DecidableEq

namespace Presented

/-- The decimal as `==` compares it. -/
def value (presented : Presented) : Decimal :=
  ⟨presented.tuple.toRat, representable_of_validateDecimalEnvelope presented.admitted⟩

/-- `Decimal("0")`. -/
def zero : Presented := ⟨⟨false, 0, 0⟩, rfl, fun _ => rfl⟩

instance : Zero Presented := ⟨zero⟩

@[simp] theorem value_zero : (0 : Presented).value = 0 := by
  apply Decimal.ext
  simp [value, DecimalTuple.toRat, DecimalTuple.signedCoefficient,
    show (0 : Presented) = zero from rfl, zero]

/-- `format(value, "f")`. -/
def fixedText (presented : Presented) : String :=
  if presented.tuple.coefficient = 0 then "0" else String.ofList (formatFixed presented.tuple)

end Presented

/-- A triple that passes `_validate_decimal_envelope` with a nonzero coefficient
is returned as it is. -/
theorem validateDecimalEnvelope_eq {value tuple : DecimalTuple}
    (valid : validateDecimalEnvelope value = .ok tuple) (nonzero : value.coefficient ≠ 0) :
    tuple = value := by
  rw [validateDecimalEnvelope, if_neg nonzero, guard_eq_ok, guard_eq_ok, guard_eq_ok] at valid
  exact (Except.ok.inj valid.2.2.2).symm

/-- `parse_bounded_exact_decimal` on a finite `Decimal`. -/
def presentTuple (value : DecimalTuple) : Except ExactDecimalError Presented :=
  match valid : validateDecimalEnvelope value with
  | .error error => .error error
  | .ok _ =>
    if zero : value.coefficient = 0 then .ok 0
    else .ok ⟨value, by rw [validateDecimalEnvelope_eq valid zero] at valid; exact valid,
      fun vanishes => absurd vanishes zero⟩

/-- The arguments of `parse_bounded_exact_decimal` with their presentation. -/
inductive PresentedInput where
  | decimal (tuple : DecimalTuple)
  | nonFinite
  | int (value : Int)
  | text (value : String)
  | inexact
  deriving DecidableEq, Repr

/-- `parse_bounded_exact_decimal`, with the presentation of its result. -/
def presentBoundedExactDecimal (value : PresentedInput) (allowExponent : Bool) :
    Except ExactDecimalError Presented :=
  match value with
  | .decimal tuple => presentTuple tuple
  | .nonFinite => .error ⟨"value must be a finite Decimal"⟩
  | .int value =>
      let limit := min maxSignificantDigits maxIntegerDigits
      if value = 0 then .ok 0
      else if limit < integerDigitCount value limit then
        .error ⟨"integer exceeds decimal resource envelope"⟩
      else presentTuple ⟨value < 0, value.natAbs, 0⟩
  | .text value => do
      let tuple ← preflightBoundedPresentation value allowExponent
      presentTuple tuple
  | .inexact => .error ⟨"value must be exact str, int or finite Decimal"⟩

/-! ## Values of presented decimals -/

/-- The argument without its presentation. -/
def PresentedInput.toInput : (input : PresentedInput) → DecimalInput
  | .decimal tuple => .decimal tuple
  | .nonFinite => .nonFinite
  | .int value => .int value
  | .text value => .text value
  | .inexact => .inexact

/-- What admission makes of a triple. -/
theorem admitTuple_of_valid {value tuple : DecimalTuple}
    (valid : validateDecimalEnvelope value = .ok tuple) :
    admitTuple value = .ok ⟨tuple.toRat, representable_of_validateDecimalEnvelope valid⟩ := by
  rw [admitTuple]
  split
  next invalid =>
    rw [valid] at invalid
    cases invalid
  next other again =>
    rw [valid, Except.ok.injEq] at again
    subst again
    rfl

theorem admitTuple_of_invalid {value : DecimalTuple} {error : ExactDecimalError}
    (invalid : validateDecimalEnvelope value = .error error) : admitTuple value = .error error := by
  rw [admitTuple]
  split
  next other =>
    rw [invalid] at other
    cases other
    rfl
  next valid =>
    rw [invalid] at valid
    cases valid

theorem presentTuple_value (value : DecimalTuple) :
    (presentTuple value).map Presented.value = admitTuple value := by
  rw [presentTuple]
  split
  next invalid => rw [admitTuple_of_invalid invalid, Except.map]
  next tuple valid =>
    rw [admitTuple_of_valid valid]
    split
    next zero =>
      rw [validateDecimalEnvelope, if_pos zero, Except.ok.injEq] at valid
      have vanishes : tuple.toRat = 0 := by
        rw [← valid]
        simp [DecimalTuple.toRat, DecimalTuple.signedCoefficient]
      rw [Except.map, Except.ok.injEq, Presented.value_zero]
      apply Decimal.ext
      exact vanishes.symm
    next nonzero =>
      have same := validateDecimalEnvelope_eq valid nonzero
      subst same
      rfl

/-- Admission with the presentation admits the same values. -/
theorem presentBoundedExactDecimal_value (input : PresentedInput) (allowExponent : Bool) :
    (presentBoundedExactDecimal input allowExponent).map Presented.value =
      parseBoundedExactDecimal input.toInput allowExponent := by
  cases input with
  | decimal tuple => exact presentTuple_value tuple
  | nonFinite => rfl
  | int value =>
      simp only [presentBoundedExactDecimal, PresentedInput.toInput, parseBoundedExactDecimal]
      split
      · rw [Except.map, Presented.value_zero]
      · split
        · rfl
        · exact presentTuple_value _
  | text value =>
      simp only [presentBoundedExactDecimal, PresentedInput.toInput, parseBoundedExactDecimal]
      cases preflightBoundedPresentation value allowExponent with
      | error error => rfl
      | ok tuple => exact presentTuple_value tuple
  | inexact => rfl

/-! ## Exact results -/

/-- A coefficient and a scale inside the bounds pass the envelope. -/
theorem validate_scaledInteger {coefficient : ℤ} {scale : Nat} (scaleBounded : ¬ maxScale < scale)
    (zero : coefficient ≠ 0)
    (digitsBounded : ¬ maxSignificantDigits < integerDigitCount coefficient maxSignificantDigits) :
    validateDecimalEnvelope ⟨coefficient < 0, coefficient.natAbs, -scale⟩ =
      .ok ⟨coefficient < 0, coefficient.natAbs, -scale⟩ := by
  have nonzero : coefficient.natAbs ≠ 0 := Int.natAbs_ne_zero.mpr zero
  have digits : (Nat.digits 10 coefficient.natAbs).length ≤ maxSignificantDigits :=
    (Nat.digits_length_le_iff (by decide) _).mpr
      ((integerDigitCount_le_iff coefficient _ (by decide)).mp (not_lt.mp digitsBounded))
  rw [validateDecimalEnvelope, if_neg nonzero, DecimalTuple.digitCount, if_neg nonzero,
    if_neg (not_lt.mpr digits), if_neg, if_neg]
  · rw [not_lt, max_le_iff]
    simp only [maxIntegerDigits, maxSignificantDigits] at digits ⊢
    omega
  · simp only [maxScale] at scaleBounded ⊢
    omega

/-- `_decimal_from_scaled_integer`, with the presentation of its result. -/
def presentScaledInteger (coefficient : ℤ) (scale : Nat) : Except ExactDecimalError Presented :=
  if scaleBounded : maxScale < scale then .error ⟨"decimal exceeds maximum scale"⟩
  else if zero : coefficient = 0 then .ok 0
  else
    let digitCount := integerDigitCount coefficient maxSignificantDigits
    if digitsBounded : maxSignificantDigits < digitCount then
      .error ⟨"decimal exceeds maximum significant digits"⟩
    else if maxIntegerDigits < digitCount - scale then
      .error ⟨"decimal exceeds maximum integer digits"⟩
    else
      .ok {
        tuple := ⟨coefficient < 0, coefficient.natAbs, -scale⟩
        admitted := validate_scaledInteger scaleBounded zero digitsBounded
        canonicalZero := fun vanishes => absurd (Int.natAbs_eq_zero.mp vanishes) zero }

/-- `terminating_decimal`, with the presentation of its result. -/
def presentTerminating (value : ℚ) : Except ExactDecimalError Presented := do
  validateFractionIntermediate value
  match factorOut 2 maxScale value.den with
  | none => .error ⟨"decimal exceeds maximum scale"⟩
  | some (powersOfTwo, withoutTwo) =>
    match factorOut 5 maxScale withoutTwo with
    | none => .error ⟨"decimal exceeds maximum scale"⟩
    | some (powersOfFive, rest) =>
      if rest ≠ 1 then
        .error ⟨"rational value has a non-terminating decimal expansion"⟩
      else
        let scale := max powersOfTwo powersOfFive
        presentScaledInteger
          (value.num * 2 ^ (scale - powersOfTwo) * 5 ^ (scale - powersOfFive)) scale

/-- `exact_sum`, with the presentation of its result. -/
def presentSum (values : List Decimal) : Except ExactDecimalError Presented := do
  let result ← values.foldlM (fun result value => do
    let next := result + value.toRat
    validateFractionIntermediate next
    pure next) 0
  presentTerminating result

theorem presentScaledInteger_value (coefficient : ℤ) (scale : Nat) :
    (presentScaledInteger coefficient scale).map Presented.value =
      decimalFromScaledInteger coefficient scale := by
  rw [presentScaledInteger, decimalFromScaledInteger]
  split
  · rfl
  split
  · rw [Except.map, Presented.value_zero]
  simp only
  split
  · rfl
  split
  · rfl
  · rw [Except.map, Except.ok.injEq]
    apply Decimal.ext
    have signed : (DecimalTuple.signedCoefficient
        ⟨coefficient < 0, coefficient.natAbs, -scale⟩ : ℤ) = coefficient := by
      rw [DecimalTuple.signedCoefficient]
      simp only [decide_eq_true_eq]
      split <;> omega
    simp only [Presented.value, DecimalTuple.toRat, signed, zpow_neg, zpow_natCast]
    rfl

theorem presentTerminating_value (value : ℚ) :
    (presentTerminating value).map Presented.value = terminatingDecimal value := by
  rw [presentTerminating, terminatingDecimal]
  cases validateFractionIntermediate value with
  | error error => rfl
  | ok _ =>
      simp only [ok_bind]
      cases factorOut 2 maxScale value.den with
      | none => rfl
      | some twos =>
          obtain ⟨powersOfTwo, withoutTwo⟩ := twos
          simp only
          cases factorOut 5 maxScale withoutTwo with
          | none => rfl
          | some fives =>
              obtain ⟨powersOfFive, rest⟩ := fives
              simp only
              split
              · rfl
              · exact presentScaledInteger_value _ _

/-- An exact result has no positive exponent. -/
theorem presentScaledInteger_exponent {coefficient : ℤ} {scale : Nat} {result : Presented}
    (success : presentScaledInteger coefficient scale = .ok result) :
    result.tuple.exponent ≤ 0 := by
  rw [presentScaledInteger] at success
  split at success
  · cases success
  split at success
  · cases success
    exact le_rfl
  simp only at success
  split at success
  · cases success
  · rw [guard_eq_ok] at success
    cases success.2
    exact neg_nonpos.mpr (Int.natCast_nonneg scale)

theorem presentSum_exponent {values : List Decimal} {result : Presented}
    (success : presentSum values = .ok result) : result.tuple.exponent ≤ 0 := by
  rw [presentSum, bind_eq_ok] at success
  obtain ⟨total, -, success⟩ := success
  rw [presentTerminating, bind_eq_ok] at success
  obtain ⟨-, -, success⟩ := success
  split at success
  · cases success
  split at success
  · cases success
  · rw [guard_eq_ok] at success
    exact presentScaledInteger_exponent success.2

end AutoTrade.Numeric
