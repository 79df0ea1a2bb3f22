import AutoTrade.Futures.Settlement
import AutoTrade.Numeric.Quantum

/-!
# Rounding of a settlement

The executable model of `settle_fraction`, which rounds the magnitude of a value and
applies its sign again, and its agreement with the rounding of the signed floor.
-/

namespace AutoTrade.Futures

open Lib Lib.Rounding Numeric

/-- The rounding policies, with every other argument as `unsupported`. -/
inductive SettlementRounding where
  | halfEven
  | down
  | unsupported
  deriving DecidableEq, Repr

/-- `int` to `Decimal`, as `exact_multiply` reads it. -/
def decimalOfInt (units : ℤ) : Except ExactDecimalError Decimal :=
  admitTuple ⟨units < 0, units.natAbs, 0⟩

/-- The units of the magnitude under a policy. -/
def wholeUnits (units : ℚ) (rounding : SettlementRounding) : Nat :=
  let whole := units.num.natAbs / units.den
  let remainder := units.num.natAbs % units.den
  let doubled := remainder * 2
  if rounding = .halfEven ∧ (units.den < doubled ∨ doubled = units.den ∧ whole % 2 = 1) then
    whole + 1
  else whole

/-- `settle_fraction`. -/
def settleFraction (value : ℚ) (quantum : DecimalInput) (rounding : SettlementRounding) :
    Except FuturesError Decimal := do
  let exactValue ← bounded value
  let step ← decimal quantum "quantum" true
  if rounding = .unsupported then throw ⟨"unsupported rounding policy"⟩
  let units ← bounded (exactValue / step.toRat)
  let sign : ℤ := if units < 0 then -1 else 1
  exact (do
    let signedUnits ← decimalOfInt (wholeUnits units rounding * sign)
    exactMultiply [step, signedUnits])

/-! ## The magnitude -/

/-- The mode of a policy on a magnitude. -/
def SettlementRounding.mode : SettlementRounding → RoundingMode
  | .halfEven => .halfEven
  | .down => .floor
  | .unsupported => .unsupported

/-- The units of the magnitude are those of the signed rounding on a value that is
not negative. -/
theorem roundedUnits_magnitude (units : ℚ) {rounding : SettlementRounding}
    (supported : rounding ≠ .unsupported) :
    roundedUnits |units| rounding.mode = .ok (wholeUnits units rounding : ℤ) := by
  have numerator : |units|.num = units.num.natAbs := by
    rw [Rat.num_abs_eq_abs_num, Int.natCast_natAbs]
  have positive := units.den_pos
  cases rounding with
  | halfEven =>
      have whole : (units.num.natAbs : ℤ) / (units.den : ℤ) = (units.num.natAbs / units.den : ℕ) :=
        (Int.natCast_div _ _).symm
      have rest : (units.num.natAbs : ℤ) - (units.num.natAbs / units.den : ℕ) * (units.den : ℤ) =
          (units.num.natAbs % units.den : ℕ) := by
        have split := Nat.div_add_mod units.num.natAbs units.den
        rw [sub_eq_iff_eq_add, ← Nat.cast_mul, ← Nat.cast_add, Nat.cast_inj, mul_comm, add_comm]
        exact split.symm
      simp only [SettlementRounding.mode, roundedUnits, numerator, Rat.den_abs_eq_den, whole, rest,
        wholeUnits, true_and]
      generalize units.num.natAbs / units.den = quotient
      generalize units.num.natAbs % units.den = remainder
      split
      next below =>
        rw [if_neg (by omega)]
      next notBelow =>
        split
        next above =>
          rw [if_pos (by omega)]
          rfl
        next notAbove =>
          by_cases even : quotient % 2 = 0
          · rw [if_pos (by omega), if_neg (by omega)]
          · rw [if_neg (by omega), if_pos (by omega)]
            rfl
  | down =>
      simp only [SettlementRounding.mode, roundedUnits, numerator, Rat.den_abs_eq_den, wholeUnits,
        reduceCtorEq, false_and, if_false]
      rw [Int.natCast_div]
  | unsupported => exact absurd rfl supported

/-- The direction of a policy on a value. -/
def SettlementRounding.direction (rounding : SettlementRounding) (value : ℚ) : Direction :=
  if rounding = .halfEven then .halfEven else if value < 0 then .ceiling else .floor

/-- The sign turns the rounding of the magnitude into the rounding of the value. -/
theorem wholeUnits_rounds (units : ℚ) {rounding : SettlementRounding}
    (supported : rounding ≠ .unsupported) :
    Rounds (rounding.direction units) units
      (wholeUnits units rounding * (if units < 0 then -1 else 1)) := by
  obtain ⟨direction, mode, rounds⟩ := roundedUnits_rounds (roundedUnits_magnitude units supported)
  by_cases negative : units < 0
  · rw [abs_of_neg negative] at rounds
    have turned := rounds.neg
    rw [neg_neg] at turned
    rw [if_pos negative, mul_neg, mul_one]
    cases rounding with
    | halfEven =>
        cases mode
        exact turned
    | down =>
        cases mode
        rw [SettlementRounding.direction, if_neg (by decide), if_pos negative]
        exact turned
    | unsupported => exact absurd rfl supported
  · rw [abs_of_nonneg (not_lt.mp negative)] at rounds
    rw [if_neg negative, mul_one]
    cases rounding with
    | halfEven =>
        cases mode
        exact rounds
    | down =>
        cases mode
        rw [SettlementRounding.direction, if_neg (by decide), if_neg negative]
        exact rounds
    | unsupported => exact absurd rfl supported

/-! ## Settled values -/

theorem decimalOfInt_toRat {units : ℤ} {result : Decimal}
    (success : decimalOfInt units = .ok result) : result.toRat = units := by
  have signed : DecimalTuple.signedCoefficient ⟨units < 0, units.natAbs, 0⟩ = units := by
    simp only [DecimalTuple.signedCoefficient, decide_eq_true_eq]
    split <;> omega
  rw [admitTuple_toRat success, DecimalTuple.toRat, signed, zpow_zero, mul_one]

/-- A settled value is the multiple of the quantum that the policy chooses. -/
theorem settleFraction_settled {value : ℚ} {quantum : DecimalInput} {rounding : SettlementRounding}
    {step result : Decimal} (read : decimal quantum "quantum" true = .ok step)
    (success : settleFraction value quantum rounding = .ok result) :
    ∃ units, Rounds (rounding.direction (value / step.toRat)) (value / step.toRat) units ∧
      result.toRat = step.toRat * units := by
  simp only [settleFraction, read, ok_bind, bind_eq_ok, throw_unless_eq_ok] at success
  obtain ⟨exactValue, exactEq, supported, ratio, ratioEq, multiplied⟩ := success
  rw [bounded_eq exactEq] at ratioEq
  rw [bounded_eq ratioEq] at multiplied
  obtain ⟨signed, signedEq, product⟩ := bind_eq_ok.mp (mapError_eq_ok.mp multiplied)
  refine ⟨_, wholeUnits_rounds (value / step.toRat) supported, ?_⟩
  rw [exactMultiply_pair product, decimalOfInt_toRat signedEq]

/-- A settlement and a signed rounding that choose one direction return one value. -/
theorem settle_eq_round {value : ℚ} {input : DecimalInput} {quantum : DecimalTuple}
    {step settled : Decimal} {rounded : Presented} {rounding : SettlementRounding}
    {mode : RoundingMode} (read : decimal input "quantum" true = .ok step)
    (same : step.toRat = quantum.toRat)
    (direction : mode.direction = some (rounding.direction (value / step.toRat)))
    (settlement : settleFraction value input rounding = .ok settled)
    (signed : roundFractionToQuantum value quantum mode = .ok rounded) :
    settled = rounded.value := by
  obtain ⟨units, rounds, settledEq⟩ := settleFraction_settled read settlement
  obtain ⟨-, other, others, supported, roundsOther, roundedEq⟩ :=
    roundFractionToQuantum_rounded signed
  rw [direction, Option.some.injEq] at supported
  subst supported
  rw [← same] at roundsOther roundedEq
  apply Decimal.ext
  rw [settledEq, rounds.unique roundsOther, ← roundedEq]
  rfl

/-- The two settlement rounders agree.  On one value and one quantum, given as any
decimal input, `HALF_EVEN` settles as the signed rounding to the nearest even unit,
and `DOWN` settles a value that is not negative as the floor and a negative one as
the ceiling, wherever both return. -/
theorem settlement_rounders_agree (value : ℚ) (input : DecimalInput) (quantum : DecimalTuple)
    (step settled : Decimal) (rounded : Presented)
    (read : decimal input "quantum" true = .ok step) (same : step.toRat = quantum.toRat) :
    (settleFraction value input .halfEven = .ok settled →
      roundFractionToQuantum value quantum .halfEven = .ok rounded → settled = rounded.value) ∧
    (0 ≤ value → settleFraction value input .down = .ok settled →
      roundFractionToQuantum value quantum .floor = .ok rounded → settled = rounded.value) ∧
    (value < 0 → settleFraction value input .down = .ok settled →
      roundFractionToQuantum value quantum .ceiling = .ok rounded → settled = rounded.value) := by
  have positive : 0 < step.toRat := decimal_positive read
  constructor
  · exact settle_eq_round read same rfl
  constructor
  · intro nonneg
    apply settle_eq_round read same
    have above : ¬ value / step.toRat < 0 := not_lt.mpr (div_nonneg nonneg positive.le)
    simp [RoundingMode.direction, SettlementRounding.direction, above]
  · intro negative
    apply settle_eq_round read same
    have below : value / step.toRat < 0 := div_neg_of_neg_of_pos negative positive
    simp [RoundingMode.direction, SettlementRounding.direction, below]

/-! ## A negative tie -/

/-- One quarter. -/
def quarter : Decimal := ⟨1 / 4, 2, by decide, 25, by norm_num, by decide⟩

/-- Two quarters below zero, as settled and as presented. -/
def settledHalf : Decimal := ⟨-1 / 2, 1, by decide, -5, by norm_num, by decide⟩

def presentedHalf : Presented := ⟨⟨true, 5, -1⟩, by decide, by decide⟩

/-- The value of -1.5 quarters is settled to the even -2 of them on both sides. -/
theorem negative_tie_agrees : settledHalf = presentedHalf.value :=
  (settlement_rounders_agree (-3 / 8) (.text "0.25") ⟨false, 25, -2⟩ quarter settledHalf
    presentedHalf (by decide +kernel) (by decide +kernel)).1 (by decide +kernel)
      (by decide +kernel)

end AutoTrade.Futures
