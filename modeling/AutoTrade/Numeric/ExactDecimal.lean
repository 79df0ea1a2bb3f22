import Mathlib.Algebra.Order.Ring.Rat
import Mathlib.Data.Nat.Digits.Lemmas
import Mathlib.Data.Nat.Prime.Basic
import Mathlib.Data.Rat.Lemmas
import Mathlib.NumberTheory.Divisors
import Mathlib.Tactic.FieldSimp
import Mathlib.Tactic.Ring
import Mathlib.Tactic.Linarith

/-!
# Exact decimal arithmetic

The executable model of `autotrade_numeric.exact_decimal`: bounded admission of
decimals, exact rational arithmetic and the conversion of a rational back to a
terminating decimal.  No operation rounds; a result outside the resource
envelope is an error.

Python compares decimals by value, and every operation below reads only the
value of its operands.  A stored decimal is therefore represented by
`Decimal`, its value together with the proof that the envelope can express it;
the `(sign, digits, exponent)` presentation appears only at admission.
-/

namespace AutoTrade.Numeric

/-- `ExactDecimalError`. -/
structure ExactDecimalError where
  message : String
  deriving DecidableEq, Repr

def maxDecimalTextLength : Nat := 259
def maxSignificantDigits : Nat := 256
def maxScale : Nat := 256
def maxIntegerDigits : Nat := 256
def maxRationalDigits : Nat := 1024

/-! ## Digit counts -/

/-- Decimal digits of `number`, counted up to `fuel`. -/
def countDigits : (fuel : Nat) → (number : Nat) → Nat
  | 0, _ => 0
  | fuel + 1, number => if number = 0 then 0 else countDigits fuel (number / 10) + 1

/-- `_integer_digit_count`: a bit-length guard, then bounded repeated
division. -/
def integerDigitCount (value : Int) (limit : Nat) : Nat :=
  let number := value.natAbs
  if number = 0 then 1
  else if limit * 4 + 1 < number.log2 + 1 then limit + 1
  else countDigits (limit + 1) number

theorem countDigits_le_iff (limit : Nat) (number : Nat) :
    countDigits (limit + 1) number ≤ limit ↔ number < 10 ^ limit := by
  induction limit generalizing number with
  | zero =>
      simp only [countDigits, pow_zero, Nat.lt_one_iff]
      split <;> simp_all
  | succ limit ih =>
      rw [countDigits]
      split
      next zero => simp [zero]
      next nonzero =>
        have step := ih (number / 10)
        rw [Nat.div_lt_iff_lt_mul (by omega), ← pow_succ] at step
        omega

theorem integerDigitCount_le_iff (value : Int) (limit : Nat) (positive : 0 < limit) :
    integerDigitCount value limit ≤ limit ↔ value.natAbs < 10 ^ limit := by
  simp only [integerDigitCount]
  split
  next zero =>
    rw [zero]
    exact iff_of_true positive (by positivity)
  next nonzero =>
    split
    next wide =>
      have large : 2 ^ (limit * 4 + 1) ≤ value.natAbs :=
        (Nat.le_log2 nonzero).mp (by omega)
      have power : 10 ^ limit ≤ 2 ^ (limit * 4 + 1) := by
        calc 10 ^ limit ≤ 16 ^ limit := Nat.pow_le_pow_left (by norm_num) limit
          _ = 2 ^ (limit * 4) := by rw [Nat.mul_comm, pow_mul]; norm_num
          _ ≤ 2 ^ (limit * 4 + 1) := Nat.pow_le_pow_right (by norm_num) (by omega)
      omega
    next => exact countDigits_le_iff limit value.natAbs

/-! ## The decimal envelope -/

/-- A rational that some decimal inside the envelope expresses: an integer
coefficient of at most `maxSignificantDigits` digits over a power of ten of at
most `maxScale`. -/
def Representable (value : ℚ) : Prop :=
  ∃ scale ≤ maxScale, ∃ coefficient : ℤ,
    value * 10 ^ scale = coefficient ∧
      coefficient.natAbs < 10 ^ maxSignificantDigits

/-- A bounded decimal, identified with its value as Python's `==` does. -/
structure Decimal where
  toRat : ℚ
  bounded : Representable toRat

namespace Decimal

@[ext] theorem ext {left right : Decimal} (equal : left.toRat = right.toRat) :
    left = right := by
  cases left
  cases right
  cases equal
  rfl

instance : DecidableEq Decimal := fun left right =>
  decidable_of_iff (left.toRat = right.toRat) ⟨ext, congrArg toRat⟩

instance : Repr Decimal := ⟨fun value precedence => reprPrec value.toRat precedence⟩

theorem representable_zero : Representable 0 :=
  ⟨0, Nat.zero_le _, 0, by simp, by simp [maxSignificantDigits]⟩

instance : Zero Decimal := ⟨⟨0, representable_zero⟩⟩

theorem representable_whole (number : Nat) (bounded : number < 10 ^ maxSignificantDigits) :
    Representable number :=
  ⟨0, Nat.zero_le _, number, by simp, by simpa using bounded⟩

theorem one_bounded : 1 < 10 ^ maxSignificantDigits := by decide

theorem two_bounded : 2 < 10 ^ maxSignificantDigits := by decide

@[simp] theorem toRat_zero : (0 : Decimal).toRat = 0 := rfl

instance : LE Decimal := ⟨fun left right => left.toRat ≤ right.toRat⟩
instance : LT Decimal := ⟨fun left right => left.toRat < right.toRat⟩

instance (left right : Decimal) : Decidable (left ≤ right) :=
  inferInstanceAs (Decidable (left.toRat ≤ right.toRat))

instance (left right : Decimal) : Decidable (left < right) :=
  inferInstanceAs (Decidable (left.toRat < right.toRat))

theorem le_def {left right : Decimal} : left ≤ right ↔ left.toRat ≤ right.toRat := Iff.rfl
theorem lt_def {left right : Decimal} : left < right ↔ left.toRat < right.toRat := Iff.rfl

@[simp] theorem toRat_eq_zero {value : Decimal} : value.toRat = 0 ↔ value = 0 :=
  ⟨fun zero => ext zero, fun zero => by rw [zero, toRat_zero]⟩

end Decimal

/-- The finite triple of `Decimal.as_tuple()`.  CPython drops leading zeros of
the digit tuple, so the digits are those of the coefficient. -/
structure DecimalTuple where
  negative : Bool
  coefficient : Nat
  exponent : Int
  deriving DecidableEq, Repr

namespace DecimalTuple

def signedCoefficient (tuple : DecimalTuple) : Int :=
  if tuple.negative then -(tuple.coefficient : Int) else tuple.coefficient

/-- The exact rational value of the triple. -/
def toRat (tuple : DecimalTuple) : ℚ := tuple.signedCoefficient * 10 ^ tuple.exponent

/-- `len(as_tuple().digits)`. -/
def digitCount (tuple : DecimalTuple) : Nat :=
  if tuple.coefficient = 0 then 1 else (Nat.digits 10 tuple.coefficient).length

end DecimalTuple

/-- `_validate_decimal_envelope` on a finite decimal. -/
def validateDecimalEnvelope (value : DecimalTuple) :
    Except ExactDecimalError DecimalTuple :=
  if value.coefficient = 0 then .ok ⟨value.negative, 0, 0⟩
  else if maxSignificantDigits < value.digitCount then
    .error ⟨"decimal exceeds maximum significant digits"⟩
  else if value.exponent < -(maxScale : Int) then
    .error ⟨"decimal exceeds maximum scale"⟩
  else if (maxIntegerDigits : Int) < max ((value.digitCount : Int) + value.exponent) 0 then
    .error ⟨"decimal exceeds maximum integer digits"⟩
  else .ok value

/-! ## Rationals and terminating decimals -/

/-- `_validate_fraction_intermediate`. -/
def validateFractionIntermediate (value : ℚ) : Except ExactDecimalError Unit :=
  if maxRationalDigits < integerDigitCount value.num maxRationalDigits then
    .error ⟨"rational numerator exceeds resource envelope"⟩
  else if maxRationalDigits < integerDigitCount value.den maxRationalDigits then
    .error ⟨"rational denominator exceeds resource envelope"⟩
  else .ok ()

/-- `bounded_fraction`. -/
def boundedFraction (value : ℚ) : Except ExactDecimalError ℚ := do
  validateFractionIntermediate value
  pure value

/-- `_decimal_from_scaled_integer`. -/
def decimalFromScaledInteger (coefficient : ℤ) (scale : Nat) :
    Except ExactDecimalError Decimal :=
  if scaleBounded : maxScale < scale then .error ⟨"decimal exceeds maximum scale"⟩
  else if coefficient = 0 then .ok 0
  else
    let digitCount := integerDigitCount coefficient maxSignificantDigits
    if digitsBounded : maxSignificantDigits < digitCount then
      .error ⟨"decimal exceeds maximum significant digits"⟩
    else if maxIntegerDigits < digitCount - scale then
      .error ⟨"decimal exceeds maximum integer digits"⟩
    else
      .ok {
        toRat := coefficient / 10 ^ scale
        bounded := ⟨scale, Nat.le_of_not_lt scaleBounded, coefficient, by field_simp,
          (integerDigitCount_le_iff coefficient _ (by decide)).mp
            (Nat.le_of_not_lt digitsBounded)⟩ }

/-- The loop that divides `factor` out of a denominator: the number of
divisions and the rest, or nothing when `budget` divisions do not suffice. -/
def factorOut (factor : Nat) : (budget : Nat) → (denominator : Nat) → Option (Nat × Nat)
  | 0, denominator => if denominator % factor = 0 then none else some (0, denominator)
  | budget + 1, denominator =>
      if denominator % factor = 0 then
        (factorOut factor budget (denominator / factor)).map fun result =>
          (result.1 + 1, result.2)
      else some (0, denominator)

/-- `terminating_decimal`. -/
def terminatingDecimal (value : ℚ) : Except ExactDecimalError Decimal := do
  validateFractionIntermediate value
  match factorOut 2 maxScale value.den with
  | none => .error ⟨"decimal exceeds maximum scale"⟩
  | some (powersOfTwo, withoutTwo) =>
    match factorOut 5 maxScale withoutTwo with
    | none => .error ⟨"decimal exceeds maximum scale"⟩
    | some (powersOfFive, rest) =>
      if rest ≠ 1 then
        .error ⟨"rational value has a non-terminating decimal expansion"⟩
      else
        let scale := max powersOfTwo powersOfFive
        let coefficient :=
          value.num * 2 ^ (scale - powersOfTwo) * 5 ^ (scale - powersOfFive)
        decimalFromScaledInteger coefficient scale

theorem factorOut_eq_some {factor budget denominator count rest : Nat}
    (result : factorOut factor budget denominator = some (count, rest)) :
    denominator = factor ^ count * rest ∧ count ≤ budget ∧ rest % factor ≠ 0 := by
  induction budget generalizing denominator count with
  | zero =>
      simp only [factorOut] at result
      split at result
      · cases result
      · cases result
        simp_all
  | succ budget ih =>
      simp only [factorOut] at result
      split at result
      next divisible =>
        obtain ⟨⟨inner, tail⟩, found, equal⟩ := Option.map_eq_some_iff.mp result
        simp only [Prod.mk.injEq] at equal
        obtain ⟨rfl, rfl⟩ := equal
        obtain ⟨split, bound, residue⟩ := ih found
        have whole := Nat.mul_div_cancel' (Nat.dvd_of_mod_eq_zero divisible)
        refine ⟨?_, by omega, residue⟩
        rw [← whole, split, pow_succ]
        ring
      next indivisible =>
        cases result
        simp_all

/-- A denominator that divides a bounded power is factored within budget. -/
theorem factorOut_of_eq (factor budget count rest : Nat) (large : 1 < factor)
    (residue : rest % factor ≠ 0) (bound : count ≤ budget) :
    factorOut factor budget (factor ^ count * rest) = some (count, rest) := by
  induction count generalizing budget with
  | zero =>
      cases budget <;> simp [factorOut, residue]
  | succ count ih =>
      obtain ⟨smaller, rfl⟩ : ∃ smaller, budget = smaller + 1 := ⟨budget - 1, by omega⟩
      have divided : factor ^ (count + 1) * rest / factor = factor ^ count * rest := by
        rw [pow_succ, Nat.mul_assoc, Nat.mul_comm factor rest, ← Nat.mul_assoc,
          Nat.mul_div_cancel _ (by omega)]
      have divisible : factor ^ (count + 1) * rest % factor = 0 := by
        apply Nat.mod_eq_zero_of_dvd
        exact Dvd.dvd.mul_right (dvd_pow_self factor (by omega)) rest
      simp [factorOut, divisible, divided, ih smaller (by omega)]

theorem validateFractionIntermediate_eq_ok {value : ℚ} :
    validateFractionIntermediate value = .ok () ↔
      value.num.natAbs < 10 ^ maxRationalDigits ∧ value.den < 10 ^ maxRationalDigits := by
  have numerator := integerDigitCount_le_iff value.num maxRationalDigits (by decide)
  have denominator := integerDigitCount_le_iff value.den maxRationalDigits (by decide)
  rw [Int.natAbs_natCast] at denominator
  rw [← numerator, ← denominator]
  simp only [validateFractionIntermediate]
  split
  · simp; omega
  · split
    · simp; omega
    · simp; omega

theorem boundedFraction_eq {value result : ℚ} (success : boundedFraction value = .ok result) :
    result = value := by
  simp only [boundedFraction] at success
  cases checked : validateFractionIntermediate value with
  | error error =>
      rw [checked] at success
      cases success
  | ok _ =>
      rw [checked] at success
      cases success
      rfl

theorem decimalFromScaledInteger_toRat {coefficient : ℤ} {scale : Nat} {result : Decimal}
    (success : decimalFromScaledInteger coefficient scale = .ok result) :
    result.toRat = coefficient / 10 ^ scale := by
  simp only [decimalFromScaledInteger] at success
  split at success
  · cases success
  split at success
  next zero =>
    cases success
    simp [zero]
  split at success
  · cases success
  split at success
  · cases success
  · cases success
    rfl

theorem decimalFromScaledInteger_of_bounded {coefficient : ℤ} {scale : Nat}
    (scaleBounded : scale ≤ maxScale)
    (digitsBounded : coefficient.natAbs < 10 ^ maxSignificantDigits) :
    ∃ result, decimalFromScaledInteger coefficient scale = .ok result := by
  have digits := (integerDigitCount_le_iff coefficient maxSignificantDigits
    (by decide)).mpr digitsBounded
  have integers : ¬ maxIntegerDigits <
      integerDigitCount coefficient maxSignificantDigits - scale := by
    simp only [maxIntegerDigits, maxSignificantDigits] at digits ⊢
    omega
  simp only [decimalFromScaledInteger, dif_neg (Nat.not_lt.mpr scaleBounded),
    dif_neg (Nat.not_lt.mpr digits), if_neg integers]
  split
  · exact ⟨_, rfl⟩
  · exact ⟨_, rfl⟩

/-- A divisor of a power of ten is a product of bounded powers of two and five. -/
theorem factor_of_dvd_ten_pow {denominator scale : Nat} (divides : denominator ∣ 10 ^ scale) :
    ∃ twos ≤ scale, ∃ fives ≤ scale, denominator = 2 ^ twos * 5 ^ fives := by
  have split : (10 : Nat) ^ scale = 2 ^ scale * 5 ^ scale := by
    rw [← Nat.mul_pow]
  rw [split, Nat.dvd_mul] at divides
  obtain ⟨left, right, leftDivides, rightDivides, rfl⟩ := divides
  obtain ⟨twos, twosBound, rfl⟩ := (Nat.dvd_prime_pow Nat.prime_two).mp leftDivides
  obtain ⟨fives, fivesBound, rfl⟩ := (Nat.dvd_prime_pow Nat.prime_five).mp rightDivides
  exact ⟨twos, twosBound, fives, fivesBound, rfl⟩

/-- The coefficient over the least scale of a rational whose denominator has
the given powers of two and five. -/
theorem scaledNumerator {value : ℚ} {twos fives : Nat}
    (denominator : value.den = 2 ^ twos * 5 ^ fives) :
    value = ((value.num * 2 ^ (max twos fives - twos) *
      5 ^ (max twos fives - fives) : ℤ) : ℚ) / 10 ^ max twos fives := by
  have twoPower : (2 : ℚ) ^ max twos fives = 2 ^ twos * 2 ^ (max twos fives - twos) := by
    rw [← pow_add, Nat.add_sub_cancel' (Nat.le_max_left twos fives)]
  have fivePower : (5 : ℚ) ^ max twos fives = 5 ^ fives * 5 ^ (max twos fives - fives) := by
    rw [← pow_add, Nat.add_sub_cancel' (Nat.le_max_right twos fives)]
  have tenPower : (10 : ℚ) ^ max twos fives =
      2 ^ twos * 2 ^ (max twos fives - twos) * (5 ^ fives * 5 ^ (max twos fives - fives)) := by
    rw [← twoPower, ← fivePower, ← mul_pow]
    norm_num
  have fraction : value = value.num / (2 ^ twos * 5 ^ fives : ℚ) := by
    conv_lhs => rw [← Rat.num_div_den value, denominator]
    push_cast
    rfl
  rw [tenPower]
  conv_lhs => rw [fraction]
  push_cast
  field_simp

theorem terminatingDecimal_toRat {value : ℚ} {result : Decimal}
    (success : terminatingDecimal value = .ok result) : result.toRat = value := by
  simp only [terminatingDecimal, bind, Except.bind] at success
  split at success
  · cases success
  split at success
  · cases success
  next powersOfTwo withoutTwo twos =>
    split at success
    · cases success
    next powersOfFive rest fives =>
      split at success
      · cases success
      next terminates =>
        rw [not_not] at terminates
        have denominator : value.den = 2 ^ powersOfTwo * 5 ^ powersOfFive := by
          rw [(factorOut_eq_some twos).1, (factorOut_eq_some fives).1, terminates,
            Nat.mul_one]
        rw [decimalFromScaledInteger_toRat success]
        exact (scaledNumerator denominator).symm

/-- The coefficient over the least scale is no larger than any other. -/
theorem scaledNumerator_le {value : ℚ} {twos fives scale : Nat} {coefficient : ℤ}
    (denominator : value.den = 2 ^ twos * 5 ^ fives)
    (twosBound : twos ≤ scale) (fivesBound : fives ≤ scale)
    (scaled : value * 10 ^ scale = coefficient) :
    (value.num * 2 ^ (max twos fives - twos) *
      5 ^ (max twos fives - fives)).natAbs ≤ coefficient.natAbs := by
  set least := max twos fives with leastDef
  set small := value.num * 2 ^ (least - twos) * 5 ^ (least - fives) with smallDef
  have minimal : value = (small : ℚ) / 10 ^ least := scaledNumerator denominator
  have leastBound : least ≤ scale := Nat.max_le.mpr ⟨twosBound, fivesBound⟩
  have multiple : coefficient = small * 10 ^ (scale - least) := by
    have power : (10 : ℚ) ^ scale = 10 ^ least * 10 ^ (scale - least) := by
      rw [← pow_add, Nat.add_sub_cancel' leastBound]
    have cast : (coefficient : ℚ) = (small * 10 ^ (scale - least) : ℤ) := by
      rw [← scaled, power, minimal]
      push_cast
      field_simp
    exact_mod_cast cast
  have positive : 0 < (10 : ℤ).natAbs ^ (scale - least) := Nat.pow_pos (by decide)
  calc small.natAbs ≤ small.natAbs * (10 : ℤ).natAbs ^ (scale - least) :=
        Nat.le_mul_of_pos_right _ positive
    _ = coefficient.natAbs := by
        rw [multiple, Int.natAbs_mul small (10 ^ (scale - least)), Int.natAbs_pow 10]

theorem terminatingDecimal_of_representable {value : ℚ} (bounded : Representable value) :
    ∃ result, terminatingDecimal value = .ok result := by
  obtain ⟨scale, scaleBound, coefficient, scaled, digitsBound⟩ := bounded
  have divides : value.den ∣ 10 ^ scale := by
    have divisor := Rat.den_dvd coefficient ((10 ^ scale : ℕ) : ℤ)
    have fraction : value = (coefficient : ℚ) / (((10 ^ scale : ℕ) : ℤ) : ℚ) := by
      rw [← scaled]
      push_cast
      field_simp
    rw [Rat.divInt_eq_div, ← fraction] at divisor
    exact_mod_cast divisor
  obtain ⟨twos, twosBound, fives, fivesBound, denominator⟩ := factor_of_dvd_ten_pow divides
  have small := scaledNumerator_le denominator twosBound fivesBound scaled
  have digits : (value.num * 2 ^ (max twos fives - twos) *
      5 ^ (max twos fives - fives)).natAbs < 10 ^ maxSignificantDigits :=
    Nat.lt_of_le_of_lt small digitsBound
  have numerator : value.num.natAbs < 10 ^ maxRationalDigits := by
    have factor : value.num.natAbs ≤ (value.num * 2 ^ (max twos fives - twos) *
        5 ^ (max twos fives - fives)).natAbs := by
      rw [Int.natAbs_mul, Int.natAbs_mul, Int.natAbs_pow, Int.natAbs_pow, Nat.mul_assoc]
      exact Nat.le_mul_of_pos_right _ (by positivity)
    calc value.num.natAbs < 10 ^ maxSignificantDigits := Nat.lt_of_le_of_lt factor digits
      _ ≤ 10 ^ maxRationalDigits := Nat.pow_le_pow_right (by norm_num) (by decide)
  have denominatorBound : value.den < 10 ^ maxRationalDigits := by
    calc value.den ≤ 10 ^ scale := Nat.le_of_dvd (by positivity) divides
      _ < 10 ^ maxRationalDigits := Nat.pow_lt_pow_right (by norm_num)
          (Nat.lt_of_le_of_lt scaleBound (by decide))
  have intermediate := validateFractionIntermediate_eq_ok.mpr ⟨numerator, denominatorBound⟩
  have fiveResidue : 5 ^ fives % 2 ≠ 0 := by
    rw [Nat.pow_mod]
    simp
  have twoFactor := factorOut_of_eq 2 maxScale twos (5 ^ fives) (by norm_num) fiveResidue
    (Nat.le_trans twosBound scaleBound)
  have fiveFactor := factorOut_of_eq 5 maxScale fives 1 (by norm_num) (by norm_num)
    (Nat.le_trans fivesBound scaleBound)
  rw [Nat.mul_one] at fiveFactor
  have leastBound : max twos fives ≤ maxScale :=
    Nat.max_le.mpr ⟨Nat.le_trans twosBound scaleBound, Nat.le_trans fivesBound scaleBound⟩
  obtain ⟨result, success⟩ := decimalFromScaledInteger_of_bounded leastBound digits
  refine ⟨result, ?_⟩
  simp only [terminatingDecimal, bind, Except.bind, intermediate, denominator, twoFactor,
    fiveFactor]
  simpa using success

/-- `terminating_decimal` returns exactly the representable values. -/
theorem terminatingDecimal_eq_ok {value : ℚ} {result : Decimal} :
    terminatingDecimal value = .ok result ↔ result.toRat = value := by
  constructor
  · exact terminatingDecimal_toRat
  · rintro rfl
    obtain ⟨other, success⟩ := terminatingDecimal_of_representable result.bounded
    rw [success, Decimal.ext (terminatingDecimal_toRat success)]

/-! ## Exact operations -/

/-- `exact_abs`. -/
def exactAbs (value : Decimal) : Except ExactDecimalError Decimal :=
  terminatingDecimal |value.toRat|

/-- `exact_add`. -/
def exactAdd (left right : Decimal) : Except ExactDecimalError Decimal := do
  let result := left.toRat + right.toRat
  validateFractionIntermediate result
  terminatingDecimal result

/-- `exact_subtract`. -/
def exactSubtract (left right : Decimal) : Except ExactDecimalError Decimal := do
  let result := left.toRat - right.toRat
  validateFractionIntermediate result
  terminatingDecimal result

/-- One accumulator pass of `exact_multiply` or `exact_sum`. -/
def accumulate (combine : ℚ → ℚ → ℚ) (start : ℚ) (values : List Decimal) :
    Except ExactDecimalError Decimal := do
  let result ← values.foldlM (fun result value => do
    let next := combine result value.toRat
    validateFractionIntermediate next
    pure next) start
  terminatingDecimal result

/-- `exact_multiply`. -/
def exactMultiply (values : List Decimal) : Except ExactDecimalError Decimal :=
  accumulate (· * ·) 1 values

/-- `exact_sum`. -/
def exactSum (values : List Decimal) (start : Decimal) : Except ExactDecimalError Decimal :=
  accumulate (· + ·) start.toRat values

/-- The second envelope test of a binary operation never rejects more. -/
theorem validate_terminating_eq_ok {value : ℚ} {result : Decimal} :
    (do validateFractionIntermediate value; terminatingDecimal value) = .ok result ↔
      result.toRat = value := by
  rw [← terminatingDecimal_eq_ok]
  constructor
  · intro success
    simp only [bind, Except.bind] at success
    split at success
    · cases success
    · exact success
  · intro success
    have intermediate : validateFractionIntermediate value = .ok () := by
      simp only [terminatingDecimal, bind, Except.bind] at success
      split at success
      next => cases success
      next valid => exact valid
    simp only [bind, Except.bind, intermediate, success]

theorem exactAdd_eq_ok {left right result : Decimal} :
    exactAdd left right = .ok result ↔ result.toRat = left.toRat + right.toRat :=
  validate_terminating_eq_ok

theorem exactSubtract_eq_ok {left right result : Decimal} :
    exactSubtract left right = .ok result ↔ result.toRat = left.toRat - right.toRat :=
  validate_terminating_eq_ok

theorem accumulate_toRat {combine : ℚ → ℚ → ℚ} {start : ℚ} {values : List Decimal}
    {result : Decimal} (success : accumulate combine start values = .ok result) :
    result.toRat = values.foldl (fun total value => combine total value.toRat) start := by
  induction values generalizing start with
  | nil => exact terminatingDecimal_toRat success
  | cons value rest ih =>
      simp only [accumulate, List.foldlM_cons, bind_assoc] at success
      simp only [bind, Except.bind] at success
      split at success
      · cases success
      · exact ih success

theorem foldl_add_toRat (start : ℚ) (values : List Decimal) :
    values.foldl (fun total value => total + value.toRat) start =
      start + (values.map Decimal.toRat).sum := by
  induction values generalizing start with
  | nil => simp
  | cons value rest ih =>
      rw [List.foldl_cons, ih, List.map_cons, List.sum_cons, add_assoc]

theorem exactSum_toRat {values : List Decimal} {start result : Decimal}
    (success : exactSum values start = .ok result) :
    result.toRat = start.toRat + (values.map Decimal.toRat).sum := by
  rw [accumulate_toRat success, foldl_add_toRat]

/-! ## Admission of presented decimals -/

theorem DecimalTuple.representable_of_bounds {tuple : DecimalTuple}
    (digits : tuple.coefficient < 10 ^ maxSignificantDigits)
    (scale : -(maxScale : Int) ≤ tuple.exponent)
    (integers : 0 ≤ tuple.exponent →
      tuple.coefficient * 10 ^ tuple.exponent.toNat < 10 ^ maxSignificantDigits) :
    Representable tuple.toRat := by
  have magnitude : tuple.signedCoefficient.natAbs = tuple.coefficient := by
    simp only [signedCoefficient]
    split <;> simp
  rcases Int.le_total 0 tuple.exponent with nonnegative | nonpositive
  · obtain ⟨exponent, equal⟩ := Int.eq_ofNat_of_zero_le nonnegative
    refine ⟨0, Nat.zero_le _, tuple.signedCoefficient * 10 ^ exponent, ?_, ?_⟩
    · simp [toRat, equal]
    · rw [Int.natAbs_mul, magnitude, Int.natAbs_pow]
      simpa [equal] using integers nonnegative
  · obtain ⟨exponent, equal⟩ := Int.eq_ofNat_of_zero_le (Int.neg_nonneg.mpr nonpositive)
    have exponentEq : tuple.exponent = -(exponent : Int) := by omega
    refine ⟨exponent, by omega, tuple.signedCoefficient, ?_, ?_⟩
    · rw [toRat, exponentEq, zpow_neg, zpow_natCast]
      field_simp
    · rw [magnitude]
      exact digits

theorem representable_of_validateDecimalEnvelope {value tuple : DecimalTuple}
    (valid : validateDecimalEnvelope value = .ok tuple) : Representable tuple.toRat := by
  simp only [validateDecimalEnvelope] at valid
  split at valid
  · cases valid
    simpa [DecimalTuple.toRat, DecimalTuple.signedCoefficient] using
      Decimal.representable_zero
  next nonzero =>
    split at valid
    · cases valid
    next digits =>
      split at valid
      · cases valid
      next scale =>
        split at valid
        · cases valid
        next integers =>
          cases valid
          simp only [DecimalTuple.digitCount, if_neg nonzero] at digits integers
          have below := Nat.lt_base_pow_length_digits (b := 10) (m := value.coefficient)
            (by norm_num)
          apply DecimalTuple.representable_of_bounds
          · exact Nat.lt_of_lt_of_le below
              (Nat.pow_le_pow_right (by norm_num) (by omega))
          · omega
          · intro nonnegative
            calc value.coefficient * 10 ^ value.exponent.toNat
                < 10 ^ (Nat.digits 10 value.coefficient).length *
                    10 ^ value.exponent.toNat :=
                  Nat.mul_lt_mul_of_pos_right below (by positivity)
              _ = 10 ^ ((Nat.digits 10 value.coefficient).length +
                    value.exponent.toNat) := by rw [pow_add]
              _ ≤ 10 ^ maxSignificantDigits := by
                  apply Nat.pow_le_pow_right (by norm_num)
                  simp only [maxIntegerDigits, maxSignificantDigits] at integers ⊢
                  omega

/-- A finite decimal that passes `_validate_decimal_envelope`. -/
def admitTuple (value : DecimalTuple) : Except ExactDecimalError Decimal :=
  match valid : validateDecimalEnvelope value with
  | .error error => .error error
  | .ok tuple => .ok ⟨tuple.toRat, representable_of_validateDecimalEnvelope valid⟩

/-- The arguments `parse_bounded_exact_decimal` distinguishes. -/
inductive DecimalInput where
  | decimal (tuple : DecimalTuple)
  /-- A `Decimal` that an earlier admission or exact operation returned: its
  presentation is inside the envelope and only its value matters. -/
  | bounded (value : Decimal)
  /-- A `Decimal` that is an infinity or a NaN. -/
  | nonFinite
  | int (value : Int)
  | text (value : String)
  /-- A `bool` or a `float`. -/
  | inexact
  deriving DecidableEq, Repr

/-- The groups of the `_BOUNDED_PRESENTATION` expression. -/
structure Presentation where
  negative : Bool
  integerPart : List Char
  fractionalPart : List Char
  exponentText : Option (List Char)
  deriving DecidableEq, Repr

def isAsciiDigit (char : Char) : Bool := 48 ≤ char.toNat && char.toNat ≤ 57

/-- An optional sign, then whether it was a minus. -/
def splitSign : List Char → Bool × List Char
  | '-' :: rest => (true, rest)
  | '+' :: rest => (false, rest)
  | text => (false, text)

/-- The optional exponent group up to the end of the text. -/
def matchExponent : List Char → Option (Option (List Char))
  | [] => some none
  | mark :: rest =>
      let digits := (splitSign rest).2
      if (mark = 'e' ∨ mark = 'E') ∧ digits ≠ [] ∧ digits.all isAsciiDigit then
        some (some rest)
      else none

/-- `_BOUNDED_PRESENTATION.fullmatch`. -/
def matchPresentation (text : List Char) : Option Presentation :=
  let (negative, unsigned) := splitSign text
  let integerPart := unsigned.takeWhile isAsciiDigit
  match unsigned.dropWhile isAsciiDigit with
  | '.' :: rest =>
      let fractionalPart := rest.takeWhile isAsciiDigit
      if integerPart = [] ∧ fractionalPart = [] then none
      else
        (matchExponent (rest.dropWhile isAsciiDigit)).map fun exponentText =>
          ⟨negative, integerPart, fractionalPart, exponentText⟩
  | rest =>
      if integerPart = [] then none
      else
        (matchExponent rest).map fun exponentText =>
          ⟨negative, integerPart, [], exponentText⟩

/-- The loop of `_bounded_exponent`, saturating one above `saturation`. -/
def saturatedMagnitude (saturation : Nat) (digits : List Char) : Nat :=
  digits.foldl (fun magnitude digit =>
    if magnitude ≤ saturation then
      min (saturation + 1) (magnitude * 10 + (digit.toNat - 48))
    else magnitude) 0

/-- `_bounded_exponent`. -/
def boundedExponent (text : List Char) (minimum maximum : Int) :
    Except ExactDecimalError Int :=
  if text = [] then .ok 0
  else
    let (negative, digits) := splitSign text
    let magnitude : Int :=
      saturatedMagnitude (max minimum.natAbs maximum.natAbs + 1) digits
    let value := if negative then -magnitude else magnitude
    if value < minimum ∨ maximum < value then
      .error ⟨"decimal exponent exceeds resource envelope"⟩
    else .ok value

def digitsValue (digits : List Char) : Nat :=
  digits.foldl (fun total digit => total * 10 + (digit.toNat - 48)) 0

/-- `_preflight_bounded_presentation`, followed by the `Decimal(value)` it
admits; a zero token is canonicalised. -/
def preflightBoundedPresentation (value : String) (allowExponent : Bool) :
    Except ExactDecimalError DecimalTuple :=
  if maxDecimalTextLength < value.length then
    .error ⟨"invalid or oversized decimal presentation"⟩
  else match matchPresentation value.toList with
    | none => .error ⟨"invalid or oversized decimal presentation"⟩
    | some presentation => do
      if presentation.exponentText.isSome && !allowExponent then
        throw ⟨"decimal exponent is not permitted"⟩
      let coefficient :=
        (presentation.integerPart ++ presentation.fractionalPart).dropWhile (· = '0')
      if coefficient = [] then
        return ⟨false, 0, 0⟩
      let significantDigits := coefficient.length
      if maxSignificantDigits < significantDigits then
        throw ⟨"decimal exceeds maximum significant digits"⟩
      let fractionalLength : Int := presentation.fractionalPart.length
      let exponent ← boundedExponent (presentation.exponentText.getD [])
        (fractionalLength - maxScale)
        (fractionalLength + maxIntegerDigits - significantDigits)
      let tupleExponent := exponent - fractionalLength
      if (maxScale : Int) < max (-tupleExponent) 0 ∨
          (maxIntegerDigits : Int) < max (significantDigits + tupleExponent) 0 then
        throw ⟨"decimal exceeds resource envelope"⟩
      return ⟨presentation.negative, digitsValue coefficient, tupleExponent⟩

/-- `parse_bounded_exact_decimal`. -/
def parseBoundedExactDecimal (value : DecimalInput) (allowExponent : Bool) :
    Except ExactDecimalError Decimal :=
  match value with
  | .decimal tuple => admitTuple tuple
  | .bounded value => .ok value
  | .nonFinite => .error ⟨"value must be a finite Decimal"⟩
  | .int value =>
      let limit := min maxSignificantDigits maxIntegerDigits
      if value = 0 then .ok 0
      else if limit < integerDigitCount value limit then
        .error ⟨"integer exceeds decimal resource envelope"⟩
      else admitTuple ⟨value < 0, value.natAbs, 0⟩
  | .text value => do
      let tuple ← preflightBoundedPresentation value allowExponent
      admitTuple tuple
  | .inexact => .error ⟨"value must be exact str, int or finite Decimal"⟩

end AutoTrade.Numeric
