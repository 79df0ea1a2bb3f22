import AutoTrade.Accounting.Agreement
import AutoTrade.Numeric.Amount

/-!
# Booking of an equity split

`accounting.book_equity_split_adjustment`: the quantity of a position times an exact
ratio, posted against a clearing account that names the ratio.
-/

namespace AutoTrade.Accounting

open Lib Numeric

/-- `as_fraction` and `canonical_decimal_text` of a ratio number. -/
def ratioArithmetic {α : Type} (computation : Except ExactDecimalError α) :
    Except AccountingError α :=
  computation.mapError fun _ =>
    .valueError "split ratio exceeds exact arithmetic resource envelope"

/-- `book_equity_split_adjustment`, in normal form. -/
def bookEquitySplitAdjustment (transactionId causeEventId instrument : String)
    (preSplitQuantity numerator denominator : DecimalInput)
    (economicEffectiveAt : Option Timestamp) (economicOrderKey : Option String)
    (observedAt : Option Timestamp) (correctsTransactionId : Option String) :
    Except AccountingError JournalTransaction := do
  let symbol ← name instrument "instrument"
  let before ← decimal preSplitQuantity "pre_split_quantity"
  let num ← decimal numerator "numerator"
  let den ← decimal denominator "denominator"
  let numFraction ← ratioArithmetic (boundedFraction num.toRat)
  let denFraction ← ratioArithmetic (boundedFraction den.toRat)
  if num ≤ 0 ∨ den ≤ 0 ∨ numFraction.den ≠ 1 ∨ denFraction.den ≠ 1 then
    throw (.valueError "split numerator and denominator must be positive integers")
  if before = 0 then
    throw (.valueError "split adjustment requires a non-zero pre-split position")
  let after ← exactRatioProduct before num den
    "split quantity cannot be represented exactly by the Decimal position model"
  let delta ← exactDifference after before true
  if delta = 0 then
    throw (.valueError "split adjustment must change position quantity")
  let numText ← ratioArithmetic num.canonicalText
  let denText ← ratioArithmetic den.canonicalText
  let transactionId ← name transactionId "transaction_id"
  let causeEventId ← name causeEventId "cause_event_id"
  let position ← posting ("POSITION:" ++ symbol) symbol (.bounded delta)
  let opposite ← exactNegate delta true
  let clearing ← posting
    ("CORPORATE_ACTION_SPLIT_CLEARING:" ++ symbol ++ ":" ++ numText ++ ":" ++ denText) symbol
    (.bounded opposite)
  let effective ← instant economicEffectiveAt "economic_effective_at"
  let orderKey ← optionalName economicOrderKey "economic_order_key"
  let observed ← instant observedAt "observed_at"
  let corrects ← optionalName correctsTransactionId "corrects_transaction_id"
  let transaction : JournalTransaction :=
    ⟨transactionId, causeEventId, [position, clearing], none, effective, orderKey, observed,
      corrects⟩
  validateTransaction transaction
  return transaction

/-- The change of quantity that a split transaction books. -/
def splitDelta (transaction : JournalTransaction) : Option ℚ :=
  transaction.postings.head?.map fun item => item.signedAmount.toRat

/-- A booked split changes the quantity by the exact ratio. -/
theorem bookEquitySplitAdjustment_delta {transactionId causeEventId instrument : String}
    {preSplitQuantity numerator denominator : DecimalInput}
    {effectiveAt observedAt : Option Timestamp} {orderKey corrects : Option String}
    {transaction : JournalTransaction}
    (booked : bookEquitySplitAdjustment transactionId causeEventId instrument preSplitQuantity
      numerator denominator effectiveAt orderKey observedAt corrects = .ok transaction) :
    ∃ before num den, decimal preSplitQuantity "pre_split_quantity" = .ok before ∧
      decimal numerator "numerator" = .ok num ∧ decimal denominator "denominator" = .ok den ∧
      splitDelta transaction = some (before.toRat * num.toRat / den.toRat - before.toRat) := by
  simp only [bookEquitySplitAdjustment, bind_eq_ok, throw_unless_eq_ok, pure_eq_ok] at booked
  obtain ⟨symbol, -, before, beforeEq, num, numEq, den, denEq, -, -, -, -, -, -, after, afterEq,
    delta, deltaEq, -, -, -, -, -, -, -, -, -, position, positionEq, -, -, -, -, -, -, -, -, -, -,
    -, -, -, -, rfl⟩ := booked
  refine ⟨before, num, den, beforeEq, numEq, denEq, ?_⟩
  obtain ⟨-, -, amount⟩ := posting_fields positionEq
  rw [splitDelta, List.head?_cons, Option.map_some, amount, exactDifference_eq_ok.mp deltaEq,
    exactRatioProduct_toRat afterEq]

end AutoTrade.Accounting
