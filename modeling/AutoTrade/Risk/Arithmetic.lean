import AutoTrade.Lib.RaisesOnly
import AutoTrade.Numeric.Amount
import AutoTrade.Numeric.Exactness
import AutoTrade.Numeric.Quantum

/-!
# Arithmetic of risk admission

The wrappers of `risk.py` around the exact arithmetic: every operation returns the
exact result or raises the error of the resource envelope with its name.
-/

namespace AutoTrade.Risk

open Lib Numeric

/-- The exceptions of the risk evaluation. -/
inductive RiskError where
  | valueError (message : String)
  | typeError (message : String)
  | keyError (key : String)
  /-- The `ValueError` of `_risk_arithmetic_error`, with the operation. -/
  | arithmetic (operation : String)
  deriving DecidableEq, Repr

/-- The error of the resource envelope. -/
def RiskError.IsArithmetic : RiskError → Prop
  | .arithmetic _ => True
  | _ => False

/-- A computation of the numeric authority, with the error of the operation. -/
def envelope {α : Type} (operation : String) (computation : Except ExactDecimalError α) :
    Except RiskError α :=
  computation.mapError fun _ => .arithmetic operation

/-- `_risk_add`. -/
def riskAdd (left right : Decimal) : Except RiskError Decimal :=
  envelope "addition" (exactAdd left right)

/-- `_risk_sum`, whose terms are computed one after the other. -/
def riskSum (terms : List (Except RiskError Decimal)) : Except RiskError Decimal := do
  let total ← terms.foldlM (fun total term => do
    let value ← term
    envelope "sum" (boundedFraction (total + value.toRat))) 0
  envelope "sum" (terminatingDecimal total)

/-- `_risk_product`. -/
def riskProduct (left right : Decimal) : Except RiskError Decimal :=
  envelope "product" (exactMultiply [left, right])

/-- `_risk_abs`. -/
def riskAbs (value : Decimal) : Except RiskError Decimal :=
  envelope "absolute value" (exactAbs value)

/-- `_risk_negate`. -/
def riskNegate (value : Decimal) : Except RiskError Decimal :=
  envelope "negation" (exactSubtract 0 value)

/-- `_risk_fraction`. -/
def riskFraction (value : ℚ) (operation : String) : Except RiskError ℚ :=
  envelope operation (boundedFraction value)

/-- `_exact_ratio`. -/
def exactRatio (numerator denominator : Decimal) (name : String) : Except RiskError ℚ := do
  let numeratorFraction ← envelope name (boundedFraction numerator.toRat)
  let denominatorFraction ← envelope name (boundedFraction denominator.toRat)
  if denominatorFraction ≤ 0 then
    throw (.valueError s!"{name} denominator must be positive")
  envelope name (boundedFraction (numeratorFraction / denominatorFraction))

/-- `_fraction_le_decimal`. -/
def fractionLeDecimal (value : ℚ) (limit : Decimal) : Except RiskError Bool := do
  let fraction ← envelope "ratio comparison" (boundedFraction value)
  let bound ← envelope "ratio comparison" (boundedFraction limit.toRat)
  return decide (fraction ≤ bound)

/-- `_ratio_report`, to a multiple of `1E-18` that is not below. -/
def ratioReport (value : ℚ) : Except RiskError Decimal :=
  envelope "ratio reporting" do
    let fraction ← boundedFraction value
    let reported ← roundFractionToQuantum fraction ⟨false, 1, -18⟩ .ceiling
    return reported.value

/-- `_nonnegative_fraction_ceiling`. -/
def nonnegativeFractionCeiling (value : ℚ) : Except RiskError ℤ := do
  let admitted ← riskFraction value "fraction ceiling"
  if admitted < 0 then
    throw (.valueError "fraction ceiling input must be non-negative")
  return -(-admitted.num / admitted.den)

/-- `max(left, right)`. -/
def maximum (left right : Decimal) : Decimal := if left < right then right else left

/-- `max(values, default=_ZERO)`. -/
def maximumOf : List Decimal → Decimal
  | [] => 0
  | first :: rest => rest.foldl maximum first

/-- `_canonical_decimal_text`, which an admitted decimal always has. -/
def decimalText (value : Decimal) : String := value.canonicalText.toOption.getD ""

theorem canonicalText_eq (value : Decimal) : value.canonicalText = .ok (decimalText value) := by
  obtain ⟨text, written, _⟩ := value.exists_canonicalText
  rw [decimalText, written]
  rfl

theorem decimalText_injective : Function.Injective decimalText := by
  intro left right same
  obtain ⟨leftText, leftWritten, leftRead⟩ := left.exists_canonicalText
  obtain ⟨rightText, rightWritten, rightRead⟩ := right.exists_canonicalText
  have leftEq := Except.ok.inj (leftWritten.symm.trans (canonicalText_eq left))
  have rightEq := Except.ok.inj (rightWritten.symm.trans (canonicalText_eq right))
  have read := leftRead true
  rw [leftEq, same, ← rightEq, rightRead true] at read
  exact (Except.ok.inj read).symm

/-! ## What the operations compute -/

@[simp] theorem maximum_toRat (left right : Decimal) :
    (maximum left right).toRat = max left.toRat right.toRat := by
  rw [maximum]
  split
  next below => exact (max_eq_right (Decimal.lt_def.mp below).le).symm
  next above => exact (max_eq_left (not_lt.mp above)).symm

theorem envelope_eq_ok {α : Type} {operation : String} {computation : Except ExactDecimalError α}
    {result : α} : envelope operation computation = .ok result ↔ computation = .ok result :=
  mapError_eq_ok

theorem riskAdd_eq_ok {left right result : Decimal} :
    riskAdd left right = .ok result ↔ result.toRat = left.toRat + right.toRat := by
  rw [riskAdd, envelope_eq_ok, exactAdd_eq_ok]

theorem riskNegate_eq_ok {value result : Decimal} :
    riskNegate value = .ok result ↔ result.toRat = -value.toRat := by
  rw [riskNegate, envelope_eq_ok, exactSubtract_eq_ok, Decimal.toRat_zero, zero_sub]

theorem riskAbs_eq_ok {value result : Decimal} :
    riskAbs value = .ok result ↔ result.toRat = |value.toRat| := by
  rw [riskAbs, envelope_eq_ok, exactAbs, terminatingDecimal_eq_ok]

theorem riskProduct_eq {left right result : Decimal}
    (success : riskProduct left right = .ok result) :
    result.toRat = left.toRat * right.toRat :=
  exactMultiply_pair (envelope_eq_ok.mp success)

theorem exactRatio_eq {numerator denominator : Decimal} {name : String} {result : ℚ}
    (success : exactRatio numerator denominator name = .ok result) :
    0 < denominator.toRat ∧ result = numerator.toRat / denominator.toRat := by
  simp only [exactRatio, bind_eq_ok, throw_unless_eq_ok, envelope_eq_ok, not_le] at success
  obtain ⟨top, topEq, bottom, bottomEq, above, quotient⟩ := success
  rw [boundedFraction_eq bottomEq] at above
  rw [boundedFraction_eq quotient, boundedFraction_eq topEq, boundedFraction_eq bottomEq]
  exact ⟨above, rfl⟩

theorem nonnegativeFractionCeiling_eq {value : ℚ} {result : ℤ}
    (success : nonnegativeFractionCeiling value = .ok result) : result = ⌈value⌉ := by
  simp only [nonnegativeFractionCeiling, riskFraction, bind_eq_ok, throw_unless_eq_ok,
    envelope_eq_ok, pure_eq_ok] at success
  obtain ⟨admitted, admittedEq, _, rfl⟩ := success
  rw [boundedFraction_eq admittedEq, ← neg_neg value, Int.ceil_neg, neg_neg, Rat.floor_def',
    Rat.neg_num, Rat.neg_den]

/-- A sum returns the sum of its terms. -/
theorem riskSum_eq_ok {terms : List (Except RiskError Decimal)} {total : Decimal}
    (success : riskSum terms = .ok total) :
    ∃ values, List.Forall₂ (fun term value => term = .ok value) terms values ∧
      total.toRat = (values.map Decimal.toRat).sum := by
  have folded : ∀ (terms : List (Except RiskError Decimal)) (start result : ℚ),
      terms.foldlM (fun total term => do
        let value ← term
        envelope "sum" (boundedFraction (total + value.toRat))) start = .ok result →
      ∃ values, List.Forall₂ (fun term value => term = .ok value) terms values ∧
        result = start + (values.map Decimal.toRat).sum := by
    intro terms
    induction terms with
    | nil =>
        intro start result returned
        cases returned
        exact ⟨[], List.Forall₂.nil, by simp⟩
    | cons term rest ih =>
        intro start result returned
        simp only [List.foldlM_cons, bind_eq_ok, envelope_eq_ok] at returned
        obtain ⟨next, ⟨value, valueEq, nextEq⟩, tail⟩ := returned
        obtain ⟨values, all, same⟩ := ih next result tail
        refine ⟨value :: values, List.Forall₂.cons valueEq all, ?_⟩
        rw [same, boundedFraction_eq nextEq, List.map_cons, List.sum_cons, add_assoc]
  simp only [riskSum, bind_eq_ok, envelope_eq_ok, terminatingDecimal_eq_ok] at success
  obtain ⟨sum, sumEq, same⟩ := success
  obtain ⟨values, all, sumSame⟩ := folded terms 0 sum sumEq
  exact ⟨values, all, by rw [same, sumSame, zero_add]⟩

/-- The sum of computed terms whose values are known. -/
theorem riskSum_map {α : Type} {term : α → Except RiskError Decimal} {value : α → ℚ}
    {items : List α} {total : Decimal}
    (terms : ∀ item ∈ items, ∀ result, term item = .ok result → result.toRat = value item)
    (success : riskSum (items.map term) = .ok total) :
    total.toRat = (items.map value).sum := by
  obtain ⟨values, all, sum⟩ := riskSum_eq_ok success
  rw [sum]
  apply congrArg List.sum
  rw [List.forall₂_map_left_iff] at all
  clear sum success
  induction all with
  | nil => rfl
  | @cons item result rest results head tail ih =>
      rw [List.forall_mem_cons] at terms
      rw [List.map_cons, List.map_cons, terms.1 result head, ih terms.2]

theorem riskSum_values {values : List Decimal} {total : Decimal}
    (success : riskSum (values.map .ok) = .ok total) :
    total.toRat = (values.map Decimal.toRat).sum := by
  apply riskSum_map _ success
  intro value _ result computed
  rw [Except.ok.inj computed]

/-! ## What they raise -/

theorem raisesOnly_envelope {α : Type} {operation : String}
    {computation : Except ExactDecimalError α} :
    RaisesOnly RiskError.IsArithmetic (envelope operation computation) :=
  raisesOnly_mapError fun _ => trivial

theorem raisesOnly_exactRatio {numerator denominator : Decimal} {name : String}
    (positive : 0 < denominator.toRat) :
    RaisesOnly RiskError.IsArithmetic (exactRatio numerator denominator name) := by
  apply raisesOnly_envelope.then
  intro top
  apply raisesOnly_envelope.bind
  intro bottom bottomEq
  rw [boundedFraction_eq (envelope_eq_ok.mp bottomEq), if_neg (not_le.mpr positive)]
  exact raisesOnly_envelope

theorem raisesOnly_nonnegativeFractionCeiling {value : ℚ} (nonneg : 0 ≤ value) :
    RaisesOnly RiskError.IsArithmetic (nonnegativeFractionCeiling value) := by
  apply raisesOnly_envelope.bind
  intro admitted admittedEq
  rw [boundedFraction_eq (envelope_eq_ok.mp admittedEq), if_neg (not_lt.mpr nonneg)]
  exact raisesOnly_pure

theorem raisesOnly_sum {terms : List (Except RiskError Decimal)}
    (all : ∀ term ∈ terms, RaisesOnly RiskError.IsArithmetic term) :
    RaisesOnly RiskError.IsArithmetic (riskSum terms) := by
  apply RaisesOnly.then
  · apply raisesOnly_foldlM
    intro term member total
    exact (all term member).then fun _ => raisesOnly_envelope
  · intro total
    exact raisesOnly_envelope

end AutoTrade.Risk
