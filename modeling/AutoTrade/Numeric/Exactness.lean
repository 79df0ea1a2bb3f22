import AutoTrade.Numeric.Amount

/-!
# Exact conversion

`terminating_decimal` and `as_fraction` are inverse on the values that the envelope
expresses, and the operations built from them return exactly the results that it
expresses.
-/

namespace AutoTrade.Numeric

open Lib

/-! ## The values of the envelope -/

/-- A whole number. -/
def Decimal.whole (number : Nat) (bounded : number < 10 ^ maxSignificantDigits) : Decimal :=
  ⟨number, representable_whole number bounded⟩

/-- Some decimal that `_validate_decimal_envelope` accepts has the value. -/
def Expressible (value : ℚ) : Prop :=
  ∃ tuple accepted, validateDecimalEnvelope tuple = .ok accepted ∧ tuple.toRat = value

theorem Expressible.of_presented (result : Presented) : Expressible result.value.toRat :=
  ⟨result.tuple, result.tuple, result.admitted, rfl⟩

/-- An admitted decimal keeps its value. -/
theorem admitTuple_toRat {value : DecimalTuple} {result : Decimal}
    (success : admitTuple value = .ok result) : result.toRat = value.toRat := by
  cases valid : validateDecimalEnvelope value with
  | error error =>
      rw [admitTuple_of_invalid valid] at success
      cases success
  | ok tuple =>
      rw [admitTuple_of_valid valid] at success
      cases success
      exact toRat_of_validateDecimalEnvelope valid

/-- `terminating_decimal` returns the value it was given. -/
theorem presentTerminating_toRat {value : ℚ} {result : Presented}
    (success : presentTerminating value = .ok result) : result.value.toRat = value := by
  have read := presentTerminating_value value
  rw [success] at read
  exact terminatingDecimal_toRat read.symm

/-- `terminating_decimal` returns on the values that an integer over a power of ten
expresses. -/
theorem exists_presentTerminating {value : ℚ} (representable : Representable value) :
    ∃ result, presentTerminating value = .ok result := by
  obtain ⟨result, success⟩ := terminatingDecimal_of_representable representable
  rw [← presentTerminating_value] at success
  obtain ⟨presented, found, -⟩ := map_eq_ok.mp success
  exact ⟨presented, found⟩

theorem expressible_iff {value : ℚ} : Expressible value ↔ Representable value := by
  constructor
  · intro ⟨tuple, accepted, valid, same⟩
    have bounded := representable_of_validateDecimalEnvelope valid
    rwa [toRat_of_validateDecimalEnvelope valid, same] at bounded
  · intro representable
    obtain ⟨result, success⟩ := exists_presentTerminating representable
    rw [← presentTerminating_toRat success]
    exact .of_presented result

/-- `terminating_decimal` returns on exactly the values of the envelope. -/
theorem presentTerminating_returns {value : ℚ} :
    (∃ result, presentTerminating value = .ok result) ↔ Expressible value := by
  rw [expressible_iff]
  constructor
  · intro ⟨result, success⟩
    rw [← presentTerminating_toRat success]
    exact result.value.bounded
  · exact exists_presentTerminating

/-- `as_fraction` undoes `terminating_decimal`. -/
theorem asFraction_presentTerminating {value : ℚ} {result : Presented}
    (success : presentTerminating value = .ok result) : asFraction result.tuple = .ok value := by
  rw [asFraction_eq result.admitted, Except.ok.injEq]
  exact presentTerminating_toRat success

/-- The envelope of an intermediate result holds every value that is returned. -/
theorem validate_present {value : ℚ} {result : Presented} :
    (do validateFractionIntermediate value; presentTerminating value) = .ok result ↔
      presentTerminating value = .ok result := by
  rw [bind_eq_ok]
  constructor
  · intro ⟨_, _, success⟩
    exact success
  · intro success
    have checked := success
    rw [presentTerminating, bind_eq_ok] at checked
    obtain ⟨done, valid, -⟩ := checked
    exact ⟨done, valid, success⟩

/-! ## Operations on decimals -/

namespace DecimalTuple

/-- `exact_add`. -/
def exactAdd (left right : DecimalTuple) : Except ExactDecimalError Presented := do
  let first ← asFraction left
  let second ← asFraction right
  let result := first + second
  validateFractionIntermediate result
  presentTerminating result

/-- `exact_subtract`. -/
def exactSubtract (left right : DecimalTuple) : Except ExactDecimalError Presented := do
  let first ← asFraction left
  let second ← asFraction right
  let result := first - second
  validateFractionIntermediate result
  presentTerminating result

/-- `exact_sum`. -/
def exactSum (values : List DecimalTuple) (start : DecimalTuple) :
    Except ExactDecimalError Presented := do
  let first ← asFraction start
  let result ← values.foldlM (fun result value => do
    let read ← asFraction value
    validateFractionIntermediate (result + read)
    pure (result + read)) first
  presentTerminating result

/-- An accepted decimal. -/
def Accepted (value : DecimalTuple) : Prop :=
  ∃ tuple, validateDecimalEnvelope value = .ok tuple

theorem Accepted.asFraction {value : DecimalTuple} (accepted : Accepted value) :
    asFraction value = .ok value.toRat := by
  obtain ⟨tuple, valid⟩ := accepted
  exact asFraction_eq valid

theorem asFraction_toRat {value : DecimalTuple} {result : ℚ}
    (success : Numeric.asFraction value = .ok result) : result = value.toRat := by
  have read := success
  rw [Numeric.asFraction, bind_eq_ok] at read
  obtain ⟨tuple, valid, -⟩ := read
  rw [asFraction_eq valid] at success
  exact (Except.ok.inj success).symm

theorem exactAdd_eq_ok {left right : DecimalTuple} {result : Presented} (first : Accepted left)
    (second : Accepted right) : exactAdd left right = .ok result ↔
      presentTerminating (left.toRat + right.toRat) = .ok result := by
  rw [exactAdd, first.asFraction, ok_bind, second.asFraction, ok_bind, validate_present]

theorem exactSubtract_eq_ok {left right : DecimalTuple} {result : Presented}
    (first : Accepted left) (second : Accepted right) :
    exactSubtract left right = .ok result ↔
      presentTerminating (left.toRat - right.toRat) = .ok result := by
  rw [exactSubtract, first.asFraction, ok_bind, second.asFraction, ok_bind, validate_present]

/-- The loop of `exact_sum` adds the values. -/
theorem exactSum_present {values : List DecimalTuple} {start : DecimalTuple} {result : Presented}
    (success : exactSum values start = .ok result) :
    presentTerminating (start.toRat + (values.map toRat).sum) = .ok result := by
  rw [exactSum, bind_eq_ok] at success
  obtain ⟨first, read, success⟩ := success
  have initial := asFraction_toRat read
  clear read
  generalize start.toRat = total at initial ⊢
  subst initial
  induction values generalizing first with
  | nil => simpa using success
  | cons value rest ih =>
      simp only [List.foldlM_cons, bind_assoc, pure_bind] at success
      rw [bind_eq_ok] at success
      obtain ⟨amount, found, success⟩ := success
      rw [bind_eq_ok] at success
      obtain ⟨_, _, success⟩ := success
      rw [asFraction_toRat found] at success
      rw [List.map_cons, List.sum_cons, ← add_assoc]
      exact ih _ success

end DecimalTuple

open DecimalTuple in
/-- The conversions are exact.  A rational converts exactly when some accepted
decimal has its value, and converts back to itself; the sum and the difference of
accepted decimals return exactly when the envelope expresses their result, and
return it; and a sum that returns for two orders of one list returns the same
decimal. -/
theorem exact_conversion :
    (∀ value, (∃ result, presentTerminating value = .ok result) ↔ Expressible value) ∧
    (∀ value result, presentTerminating value = .ok result →
      asFraction result.tuple = .ok value) ∧
    (∀ left right, Accepted left → Accepted right →
      ((∃ result, DecimalTuple.exactAdd left right = .ok result) ↔
          Expressible (left.toRat + right.toRat)) ∧
      ((∃ result, DecimalTuple.exactSubtract left right = .ok result) ↔
          Expressible (left.toRat - right.toRat)) ∧
      (∀ result, DecimalTuple.exactAdd left right = .ok result →
        result.tuple.toRat = left.toRat + right.toRat) ∧
      ∀ result, DecimalTuple.exactSubtract left right = .ok result →
        result.tuple.toRat = left.toRat - right.toRat) ∧
    ∀ values permuted start result other, List.Perm values permuted →
      DecimalTuple.exactSum values start = .ok result →
      DecimalTuple.exactSum permuted start = .ok other → result = other := by
  constructor
  · intro value
    exact presentTerminating_returns
  constructor
  · intro value result success
    exact asFraction_presentTerminating success
  constructor
  · intro left right first second
    simp only [DecimalTuple.exactAdd_eq_ok first second,
      DecimalTuple.exactSubtract_eq_ok first second,
      presentTerminating_returns, true_and]
    constructor
    · intro result success
      exact presentTerminating_toRat success
    · intro result success
      exact presentTerminating_toRat success
  · intro values permuted start result other reordered first second
    have total := exactSum_present first
    rw [(reordered.map DecimalTuple.toRat).sum_eq, exactSum_present second] at total
    exact (Except.ok.inj total).symm

end AutoTrade.Numeric
