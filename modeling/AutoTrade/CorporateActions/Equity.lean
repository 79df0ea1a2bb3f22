import AutoTrade.Instruments.Registry
import AutoTrade.Lib.DecimalContext
import AutoTrade.Numeric.Preflight

/-!
# Equity states and corporate events

The values of `corporate_actions.py`.  Its decimals have any size and its arithmetic
is that of the default context of the interpreter: an operation is rounded to 28
digits and raises where the result overflows.
-/

namespace AutoTrade.CorporateActions

open Lib Numeric Instruments

/-- The exceptions of the module, and the `Overflow` of the default context. -/
inductive CorporateActionError where
  | valueError (message : String)
  | typeError (message : String)
  | overflow
  deriving DecidableEq, Repr

/-! ## Decimals -/

/-- The digits of every script, as `Decimal(text)` reads them. -/
class DigitMap where
  ascii : Char → Char
  ascii_eq : ∀ char, char.toNat < 128 → ascii char = char

/-- A decimal triple as a number. -/
def ofTuple (tuple : DecimalTuple) : FiniteDecimal :=
  ⟨tuple.toRat, tuple.signedCoefficient, tuple.exponent, rfl⟩

/-- `Decimal(value)` of a text, where it is a finite number. -/
def decimalOfText [DigitMap] (value : String) : Option FiniteDecimal :=
  let written := (strip value).toList.filter (· ≠ '_')
  (matchPresentation (written.map DigitMap.ascii)).map fun parts => ofTuple parts.tuple

/-- The context of a thread that has not set one. -/
def defaultContext : DecimalContext where
  precision := 28
  least := -1000026
  greatest := 999999
  positive := by decide

/-- The result of an operation in the default context. -/
def finish (value : ℚ) : Except CorporateActionError FiniteDecimal :=
  match defaultContext.finish value with
  | none => .error .overflow
  | some result => .ok result

def add (left right : FiniteDecimal) : Except CorporateActionError FiniteDecimal :=
  finish (left.toRat + right.toRat)

def subtract (left right : FiniteDecimal) : Except CorporateActionError FiniteDecimal :=
  finish (left.toRat - right.toRat)

def multiply (left right : FiniteDecimal) : Except CorporateActionError FiniteDecimal :=
  finish (left.toRat * right.toRat)

/-- Division by a decimal other than zero. -/
def divide (left right : FiniteDecimal) : Except CorporateActionError FiniteDecimal :=
  finish (left.toRat / right.toRat)

/-- The unary minus, which rounds. -/
def negate (value : FiniteDecimal) : Except CorporateActionError FiniteDecimal :=
  finish (-value.toRat)

/-- The arguments that `_decimal` distinguishes. -/
inductive AmountInput where
  | decimal (value : FiniteDecimal)
  /-- A `Decimal` that is an infinity or a NaN. -/
  | nonFinite
  | int (value : ℤ)
  | text (value : String)
  /-- A `bool` or a `float`. -/
  | inexact

/-- `_decimal`. -/
def decimal [DigitMap] (value : AmountInput) (name : String) :
    Except CorporateActionError FiniteDecimal :=
  match value with
  | .inexact => .error (.typeError s!"{name} must use Decimal, string or integer input")
  | .decimal value => .ok value
  | .nonFinite => .error (.valueError s!"{name} must be a finite decimal")
  | .int value => .ok (.whole value)
  | .text value =>
      match decimalOfText value with
      | none => .error (.valueError s!"{name} must be a finite decimal")
      | some result => .ok result

/-- A decimal that is not negative. -/
abbrev NonnegativeDecimal : Type := { value : FiniteDecimal // 0 ≤ value.toRat }

/-- A decimal above zero. -/
abbrev PositiveDecimal : Type := { value : FiniteDecimal // 0 < value.toRat }

/-- `_positive` with `allow_zero=True`. -/
def nonnegative [DigitMap] (value : AmountInput) (name : String) :
    Except CorporateActionError NonnegativeDecimal := do
  let result ← decimal value name
  if valid : 0 ≤ result.toRat then return ⟨result, valid⟩
  else throw (.valueError s!"{name} must be non-negative")

/-- `_positive`. -/
def positive [DigitMap] (value : AmountInput) (name : String) :
    Except CorporateActionError PositiveDecimal := do
  let result ← decimal value name
  if valid : 0 < result.toRat then return ⟨result, valid⟩
  else throw (.valueError s!"{name} must be positive")

/-- `_text`. -/
def text (value name : String) : Except CorporateActionError { value : String // Normal value } :=
  if empty : strip value = "" then .error (.valueError s!"{name} is required")
  else .ok ⟨strip value, normal_strip empty⟩

/-! ## States -/

/-- The checks of `__post_init__` on the borrowed quantity. -/
def checkBorrowed (quantity borrowed : FiniteDecimal) : Except CorporateActionError Unit :=
  if quantity.toRat < 0 then do
    let opposite ← negate quantity
    if borrowed ≠ opposite then
      throw (.valueError "cash-equity short quantity must be fully matched by borrowed_quantity")
  else if borrowed ≠ 0 then
    .error (.valueError "borrowed_quantity is valid only for an open cash-equity short")
  else .ok ()

/-- `EquityState`. -/
@[ext] structure EquityState [CaseMap] where
  symbol : String
  quantity : FiniteDecimal
  totalBasis : NonnegativeDecimal
  settledCash : FiniteDecimal
  unsettledCash : FiniteDecimal
  currency : String
  borrowedQuantity : NonnegativeDecimal
  accruedFinancing : NonnegativeDecimal
  recalledQuantity : NonnegativeDecimal
  symbolNormal : Normal symbol
  currencyNormal : Normal currency
  currencyUpper : upper currency = currency
  recalled_le : recalledQuantity.1.toRat ≤ borrowedQuantity.1.toRat
  matched : checkBorrowed quantity borrowedQuantity.1 = .ok ()

/-- The arguments of the constructor of `EquityState`. -/
structure EquityFields where
  symbol : String
  quantity : AmountInput
  totalBasis : AmountInput
  settledCash : AmountInput
  unsettledCash : AmountInput
  currency : String
  borrowedQuantity : AmountInput
  accruedFinancing : AmountInput
  recalledQuantity : AmountInput

namespace EquityState

variable [CaseMap] [DigitMap]

/-- `__post_init__`. -/
def make (fields : EquityFields) : Except CorporateActionError EquityState := do
  let quantity ← decimal fields.quantity "quantity"
  let borrowed ← nonnegative fields.borrowedQuantity "borrowed_quantity"
  let recalled ← nonnegative fields.recalledQuantity "recalled_quantity"
  if bounded : recalled.1.toRat ≤ borrowed.1.toRat then
    match matched : checkBorrowed quantity borrowed.1 with
    | .error error => throw error
    | .ok () =>
        let symbol ← text fields.symbol "symbol"
        let totalBasis ← nonnegative fields.totalBasis "total_basis"
        let settledCash ← decimal fields.settledCash "settled_cash"
        let unsettledCash ← decimal fields.unsettledCash "unsettled_cash"
        let currency ← text fields.currency "currency"
        let accruedFinancing ← nonnegative fields.accruedFinancing "accrued_financing"
        return {
          symbol := symbol.1
          quantity := quantity
          totalBasis := totalBasis
          settledCash := settledCash
          unsettledCash := unsettledCash
          currency := upper currency.1
          borrowedQuantity := borrowed
          accruedFinancing := accruedFinancing
          recalledQuantity := recalled
          symbolNormal := symbol.2
          currencyNormal := normal_upper currency.2
          currencyUpper := CaseMap.upper_upper _
          recalled_le := bounded
          matched := matched }
  else throw (.valueError "recalled_quantity cannot exceed borrowed_quantity")

/-- The fields that `replace` hands to the constructor. -/
def fields (state : EquityState) : EquityFields where
  symbol := state.symbol
  quantity := .decimal state.quantity
  totalBasis := .decimal state.totalBasis.1
  settledCash := .decimal state.settledCash
  unsettledCash := .decimal state.unsettledCash
  currency := state.currency
  borrowedQuantity := .decimal state.borrowedQuantity.1
  accruedFinancing := .decimal state.accruedFinancing.1
  recalledQuantity := .decimal state.recalledQuantity.1

end EquityState

end AutoTrade.CorporateActions
