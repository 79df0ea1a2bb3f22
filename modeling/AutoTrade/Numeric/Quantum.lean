import AutoTrade.Lib.Rounding
import AutoTrade.Numeric.Exactness
import Mathlib.Data.Rat.Floor

/-!
# Rounding to a quantum

The executable model of `round_fraction_to_quantum`, which rounds an exact rational
to a multiple of a decimal with integer arithmetic only.
-/

namespace AutoTrade.Numeric

open Lib Lib.Rounding

/-- `RoundingMode`, with every other argument as `unsupported`. -/
inductive RoundingMode where
  | floor
  | ceiling
  | halfEven
  | unsupported
  deriving DecidableEq, Repr

/-- The branches of `round_fraction_to_quantum` on the mode. -/
def roundedUnits (units : ℚ) : RoundingMode → Except ExactDecimalError ℤ
  | .floor => .ok (units.num / units.den)
  | .ceiling => .ok (-(-units.num / units.den))
  | .halfEven =>
      let floorUnits := units.num / units.den
      let remainder := units.num - floorUnits * units.den
      let doubled := remainder * 2
      if doubled < units.den then .ok floorUnits
      else if units.den < doubled then .ok (floorUnits + 1)
      else .ok (if floorUnits % 2 = 0 then floorUnits else floorUnits + 1)
  | .unsupported => .error ⟨"unsupported rounding mode"⟩

/-- `round_fraction_to_quantum`. -/
def roundFractionToQuantum (value : ℚ) (quantum : DecimalTuple) (mode : RoundingMode) :
    Except ExactDecimalError Presented := do
  validateFractionIntermediate value
  let quantumFraction ← asFraction quantum
  if quantumFraction ≤ 0 then throw ⟨"quantum must be positive"⟩
  let units := value / quantumFraction
  validateFractionIntermediate units
  let rounded ← roundedUnits units mode
  validateFractionIntermediate (quantumFraction * rounded)
  presentTerminating (quantumFraction * rounded)

/-- The direction of a supported mode. -/
def RoundingMode.direction : RoundingMode → Option Direction
  | .floor => some .floor
  | .ceiling => some .ceiling
  | .halfEven => some .halfEven
  | .unsupported => none

/-! ## The integer arithmetic -/

/-- The remainder of the floor division, in terms of the fractional part. -/
theorem remainder_eq (units : ℚ) :
    ((units.num - units.num / units.den * units.den : ℤ) : ℚ) = Int.fract units * units.den := by
  have nonzero : (units.den : ℚ) ≠ 0 := Nat.cast_ne_zero.mpr units.den_ne_zero
  rw [Int.fract, Rat.floor_def', Int.cast_sub, Int.cast_mul, sub_mul, Int.cast_natCast,
    Rat.mul_den_eq_num]

/-- The branches find the integer to which the mode rounds. -/
theorem roundedUnits_rounds {units : ℚ} {mode : RoundingMode} {result : ℤ}
    (success : roundedUnits units mode = .ok result) :
    ∃ direction, mode.direction = some direction ∧ Rounds direction units result := by
  cases mode with
  | floor =>
      cases success
      rw [← Rat.floor_def']
      exact ⟨.floor, rfl, rounds_floor units⟩
  | ceiling =>
      cases success
      rw [← Rat.ceil_def']
      exact ⟨.ceiling, rfl, rounds_ceil units⟩
  | halfEven =>
      refine ⟨.halfEven, rfl, ?_⟩
      have positive : (0 : ℚ) < units.den := Nat.cast_pos.mpr units.den_pos
      have doubled : (((units.num - units.num / units.den * units.den) * 2 : ℤ) : ℚ) =
          2 * Int.fract units * units.den := by
        rw [Int.cast_mul, remainder_eq, Int.cast_ofNat]
        ring
      simp only [roundedUnits] at success
      split at success
      next below =>
        cases success
        rw [← Rat.floor_def']
        apply rounds_below
        have scaled : 2 * Int.fract units * units.den < units.den := by
          rw [← doubled]
          exact_mod_cast below
        have half := (mul_lt_iff_lt_one_left positive).mp scaled
        linarith
      next notBelow =>
        split at success
        next above =>
          cases success
          rw [← Rat.floor_def']
          apply rounds_above
          have scaled : (units.den : ℚ) < 2 * Int.fract units * units.den := by
            rw [← doubled]
            exact_mod_cast above
          have half := (lt_mul_iff_one_lt_left positive).mp scaled
          linarith
        next notAbove =>
          cases success
          have tie : Int.fract units = 1 / 2 := by
            have same : (units.num - units.num / units.den * units.den) * 2 = units.den :=
              le_antisymm (not_lt.mp notAbove) (not_lt.mp notBelow)
            rw [same, Int.cast_natCast] at doubled
            have half := mul_right_cancel₀ positive.ne' ((one_mul (units.den : ℚ)).trans doubled)
            linarith
          have rounds := rounds_tie tie
          simp only [Int.even_iff, Rat.floor_def'] at rounds
          exact rounds
  | unsupported => cases success

/-- The mode on the other side of zero. -/
def RoundingMode.opposite : RoundingMode → RoundingMode
  | .floor => .ceiling
  | .ceiling => .floor
  | .halfEven => .halfEven
  | .unsupported => .unsupported

theorem RoundingMode.direction_opposite {mode : RoundingMode} {direction : Direction}
    (supported : mode.direction = some direction) :
    mode.opposite.direction = some direction.opposite := by
  cases mode <;> cases supported <;> rfl

theorem exists_roundedUnits (units : ℚ) {mode : RoundingMode} {direction : Direction}
    (supported : mode.direction = some direction) : ∃ result, roundedUnits units mode = .ok result := by
  cases mode with
  | floor => exact ⟨_, rfl⟩
  | ceiling => exact ⟨_, rfl⟩
  | halfEven =>
      simp only [roundedUnits]
      split
      · exact ⟨_, rfl⟩
      split
      · exact ⟨_, rfl⟩
      · exact ⟨_, rfl⟩
  | unsupported => cases supported

/-- Both signs are rounded alike, to opposite sides. -/
theorem roundedUnits_neg {units : ℚ} {mode : RoundingMode} {result : ℤ}
    (success : roundedUnits units mode = .ok result) :
    roundedUnits (-units) mode.opposite = .ok (-result) := by
  obtain ⟨direction, supported, rounds⟩ := roundedUnits_rounds success
  obtain ⟨other, otherEq⟩ := exists_roundedUnits (-units) (RoundingMode.direction_opposite supported)
  obtain ⟨turned, same, roundsOther⟩ := roundedUnits_rounds otherEq
  rw [RoundingMode.direction_opposite supported, Option.some.injEq] at same
  subst same
  rw [otherEq, roundsOther.unique rounds.neg]

/-! ## Rounded values -/

/-- The result of a rounding that returns. -/
structure Rounded (value : ℚ) (quantum : DecimalTuple) (mode : RoundingMode) (result : Presented) :
    Prop where
  positive : 0 < quantum.toRat
  multiple : ∃ direction units, mode.direction = some direction ∧
    Rounds direction (value / quantum.toRat) units ∧
      result.tuple.toRat = quantum.toRat * units

theorem roundFractionToQuantum_rounded {value : ℚ} {quantum : DecimalTuple} {mode : RoundingMode}
    {result : Presented} (success : roundFractionToQuantum value quantum mode = .ok result) :
    Rounded value quantum mode result := by
  simp only [roundFractionToQuantum, bind_eq_ok, throw_unless_eq_ok, not_le] at success
  obtain ⟨-, -, step, stepEq, above, -, -, rounded, roundedEq, -, -, returned⟩ := success
  rw [DecimalTuple.asFraction_toRat stepEq] at above roundedEq returned
  obtain ⟨direction, supported, rounds⟩ := roundedUnits_rounds roundedEq
  exact ⟨above, direction, rounded, supported, rounds, presentTerminating_toRat returned⟩

/-- A multiple of the quantum lies where its number of units lies. -/
theorem div_sub_units {quantum : ℚ} (positive : 0 < quantum) (value : ℚ) (units : ℤ) :
    value - quantum * units = quantum * (value / quantum - units) := by
  rw [mul_sub, mul_div_cancel₀ value positive.ne']

/-- Two roundings in one mode are ordered as their values. -/
theorem Rounded.mono {left right : ℚ} {quantum : DecimalTuple} {mode : RoundingMode}
    {first second : Presented} (ordered : left ≤ right)
    (leftRounded : Rounded left quantum mode first)
    (rightRounded : Rounded right quantum mode second) :
    first.tuple.toRat ≤ second.tuple.toRat := by
  obtain ⟨positive, direction, units, supported, rounds, firstEq⟩ := leftRounded
  obtain ⟨-, other, others, same, roundsOther, secondEq⟩ := rightRounded
  rw [supported, Option.some.injEq] at same
  subst same
  have least := rounds.mono (div_le_div_of_nonneg_right ordered positive.le) roundsOther
  rw [firstEq, secondEq]
  exact mul_le_mul_of_nonneg_left (Int.cast_le.mpr least) positive.le

/-- A multiple of the quantum is its own rounding. -/
theorem Rounded.of_multiple {quantum : DecimalTuple} {mode : RoundingMode} {units : ℤ}
    {result : Presented} (rounded : Rounded (quantum.toRat * units) quantum mode result) :
    result.tuple.toRat = quantum.toRat * units := by
  obtain ⟨positive, direction, found, -, rounds, resultEq⟩ := rounded
  rw [mul_div_cancel_left₀ _ positive.ne'] at rounds
  rw [resultEq, rounds.unique (rounds_intCast direction units)]

/-! ## The sign -/

theorem validateFractionIntermediate_neg (value : ℚ) :
    validateFractionIntermediate (-value) = validateFractionIntermediate value := by
  simp [validateFractionIntermediate, integerDigitCount]

theorem Representable.neg {value : ℚ} (representable : Representable value) :
    Representable (-value) := by
  obtain ⟨scale, bound, coefficient, scaled, digits⟩ := representable
  refine ⟨scale, bound, -coefficient, ?_, ?_⟩
  · rw [neg_mul, scaled, Int.cast_neg]
  · rwa [Int.natAbs_neg]

/-- The opposite value is rounded in the opposite mode where the value is rounded. -/
theorem exists_round_neg {value : ℚ} {quantum : DecimalTuple} {mode : RoundingMode}
    {result : Presented} (success : roundFractionToQuantum value quantum mode = .ok result) :
    ∃ other, roundFractionToQuantum (-value) quantum mode.opposite = .ok other ∧
      result.tuple.toRat = -other.tuple.toRat := by
  simp only [roundFractionToQuantum, bind_eq_ok, throw_unless_eq_ok] at success
  obtain ⟨done, valid, step, stepEq, above, _, inside, rounded, roundedEq, _, bounded,
    returned⟩ := success
  have opposite : step * ((-rounded : ℤ) : ℚ) = -(step * rounded) := by
    rw [Int.cast_neg, mul_neg]
  have expressed := presentTerminating_returns.mp ⟨result, returned⟩
  obtain ⟨other, otherEq⟩ := exists_presentTerminating (expressible_iff.mp expressed).neg
  refine ⟨other, ?_, ?_⟩
  · rw [roundFractionToQuantum, validateFractionIntermediate_neg, valid, ok_bind, stepEq, ok_bind,
      if_neg above]
    simp only [neg_div, validateFractionIntermediate_neg, inside, roundedUnits_neg roundedEq,
      ok_bind, opposite, bounded, otherEq]
  · have read : result.tuple.toRat = step * rounded := presentTerminating_toRat returned
    have readOther : other.tuple.toRat = -(step * rounded) := presentTerminating_toRat otherEq
    rw [read, readOther, neg_neg]

/-! ## The laws -/

/-- Where the result lies, by the mode. -/
def Lies (value quantum result : ℚ) : RoundingMode → Prop
  | .floor => result ≤ value ∧ value < result + quantum
  | .ceiling => result - quantum < value ∧ value ≤ result
  | .halfEven => |value - result| ≤ quantum / 2 ∧
      (|value - result| = quantum / 2 → ∃ units : ℤ, Even units ∧ result = quantum * units)
  | .unsupported => False

theorem Rounded.lies {value : ℚ} {quantum : DecimalTuple} {mode : RoundingMode}
    {result : Presented} (rounded : Rounded value quantum mode result) :
    Lies value quantum.toRat result.tuple.toRat mode := by
  obtain ⟨positive, direction, units, supported, rounds, resultEq⟩ := rounded
  have distance := div_sub_units positive value units
  rw [← resultEq] at distance
  cases mode with
  | floor =>
      cases supported
      obtain ⟨low, high⟩ := rounds
      constructor
      · have above := mul_nonneg positive.le (sub_nonneg.mpr low)
        linarith
      · have below := mul_lt_mul_of_pos_left high positive
        rw [mul_div_cancel₀ value positive.ne', mul_add, mul_one, ← resultEq] at below
        exact below
  | ceiling =>
      cases supported
      obtain ⟨low, high⟩ := rounds
      constructor
      · have above := mul_lt_mul_of_pos_left low positive
        rw [mul_div_cancel₀ value positive.ne', mul_sub, mul_one, ← resultEq] at above
        exact above
      · have below := mul_le_mul_of_nonneg_left high positive.le
        rw [mul_div_cancel₀ value positive.ne', ← resultEq] at below
        exact below
  | halfEven =>
      cases supported
      obtain ⟨near, tie⟩ := rounds
      rw [Lies, distance, abs_mul, abs_of_pos positive]
      constructor
      · have scaled := mul_le_mul_of_nonneg_left near positive.le
        linarith
      · intro exact_
        refine ⟨units, tie ?_, resultEq⟩
        apply mul_left_cancel₀ positive.ne'
        rw [exact_]
        ring
  | unsupported => cases supported

/-- The laws of the quantum.  A rounding that returns returns a multiple of the
positive quantum that lies at the value as the mode says; it is monotone in the value
and keeps the multiples; and the opposite value is rounded in the opposite mode to the
opposite result. -/
theorem quantum_rounding_laws (quantum : DecimalTuple) (mode : RoundingMode) :
    (∀ value result, roundFractionToQuantum value quantum mode = .ok result →
      (∃ units : ℤ, result.tuple.toRat = quantum.toRat * units) ∧
        Lies value quantum.toRat result.tuple.toRat mode) ∧
    (∀ left right first second, left ≤ right →
      roundFractionToQuantum left quantum mode = .ok first →
      roundFractionToQuantum right quantum mode = .ok second →
      first.tuple.toRat ≤ second.tuple.toRat) ∧
    (∀ (units : ℤ) result,
      roundFractionToQuantum (quantum.toRat * units) quantum mode = .ok result →
      result.tuple.toRat = quantum.toRat * units) ∧
    ∀ value result, roundFractionToQuantum value quantum mode = .ok result →
      ∃ other, roundFractionToQuantum (-value) quantum mode.opposite = .ok other ∧
        result.tuple.toRat = -other.tuple.toRat := by
  constructor
  · intro value result success
    have rounded := roundFractionToQuantum_rounded success
    obtain ⟨_, units, _, _, multiple⟩ := rounded.multiple
    exact ⟨⟨units, multiple⟩, rounded.lies⟩
  constructor
  · intro left right first second ordered low high
    exact (roundFractionToQuantum_rounded low).mono ordered (roundFractionToQuantum_rounded high)
  constructor
  · intro units result success
    exact (roundFractionToQuantum_rounded success).of_multiple
  · intro value result success
    exact exists_round_neg success

example : (roundFractionToQuantum (-3 / 8) ⟨false, 25, -2⟩ .halfEven).map
    (fun result => result.tuple.toRat) = .ok (-1 / 2) := by
  decide +kernel

/-! ## Admitted quanta -/

/-- `round_fraction_to_quantum` by a quantum that an earlier admission returned. -/
def roundToQuantum (value : ℚ) (quantum : Decimal) (mode : RoundingMode) :
    Except ExactDecimalError Decimal := do
  let step ← presentTerminating quantum.toRat
  let rounded ← roundFractionToQuantum value step.tuple mode
  return rounded.value

theorem roundToQuantum_rounded {value : ℚ} {quantum result : Decimal} {mode : RoundingMode}
    (success : roundToQuantum value quantum mode = .ok result) :
    ∃ (step : DecimalTuple) (rounded : Presented), step.toRat = quantum.toRat ∧
      Rounded value step mode rounded ∧ rounded.tuple.toRat = result.toRat := by
  simp only [roundToQuantum, bind_eq_ok, pure_eq_ok] at success
  obtain ⟨step, stepEq, rounded, roundedEq, same⟩ := success
  refine ⟨step.tuple, rounded, presentTerminating_toRat stepEq,
    roundFractionToQuantum_rounded roundedEq, ?_⟩
  rw [← same]
  rfl

/-- A rounding is a multiple of its positive quantum that lies at the value. -/
theorem roundToQuantum_lies {value : ℚ} {quantum result : Decimal} {mode : RoundingMode}
    (success : roundToQuantum value quantum mode = .ok result) :
    0 < quantum.toRat ∧ (∃ units : ℤ, result.toRat = quantum.toRat * units) ∧
      Lies value quantum.toRat result.toRat mode := by
  obtain ⟨step, rounded, stepEq, spec, resultEq⟩ := roundToQuantum_rounded success
  have lies := spec.lies
  obtain ⟨positive, direction, units, _, _, multiple⟩ := spec
  rw [stepEq, resultEq] at lies
  rw [stepEq] at positive
  rw [resultEq, stepEq] at multiple
  exact ⟨positive, ⟨units, multiple⟩, lies⟩

theorem roundToQuantum_mono {left right : ℚ} {quantum first second : Decimal}
    {mode : RoundingMode} (ordered : left ≤ right)
    (leftRounded : roundToQuantum left quantum mode = .ok first)
    (rightRounded : roundToQuantum right quantum mode = .ok second) :
    first.toRat ≤ second.toRat := by
  simp only [roundToQuantum, bind_eq_ok, pure_eq_ok] at leftRounded rightRounded
  obtain ⟨step, stepEq, rounded, roundedEq, same⟩ := leftRounded
  obtain ⟨other, otherEq, others, othersEq, sameOther⟩ := rightRounded
  rw [stepEq, Except.ok.injEq] at otherEq
  rw [← otherEq] at othersEq
  rw [← same, ← sameOther]
  exact (roundFractionToQuantum_rounded roundedEq).mono ordered
    (roundFractionToQuantum_rounded othersEq)

end AutoTrade.Numeric
