import AutoTrade.Lib.Raise
import AutoTrade.Lib.Text
import AutoTrade.Lib.Total
import AutoTrade.Numeric.ExactDecimal
import Mathlib.Data.Finset.Insert

/-!
# Budget ledger

The executable model of `model_gateway.BudgetLedger`: reservations of model
cost, their release and settlement, and the reconciliation of provider bills
with the estimates that settlements left.

Every operation computes first and assigns its fields last, so a call that
raises leaves the ledger as it was; the model returns either the new ledger or
the exception.
-/

namespace AutoTrade.Budget

open Lib Numeric

/-- The exceptions of a budget call; `ExactDecimalError` is a `ValueError`. -/
inductive BudgetError where
  | valueError (message : String)
  | exactDecimal (error : ExactDecimalError)
  deriving DecidableEq, Repr

/-- An exact operation whose failure is not caught. -/
def exact {α : Type} (computation : Except ExactDecimalError α) : Except BudgetError α :=
  computation.mapError .exactDecimal

/-- `_identifier`. -/
def identifier (value field : String) : Except BudgetError String :=
  if strip value = "" then .error (.valueError s!"{field} must be non-empty text")
  else .ok (strip value)

/-- `_exact_decimal`. -/
def exactDecimal (value : DecimalInput) (field : String) : Except BudgetError Decimal :=
  (parseBoundedExactDecimal value true).mapError fun _ =>
    .valueError s!"{field} must use finite exact decimal input"

structure BudgetSnapshot where
  ceiling : Decimal
  reserved : Decimal
  incurred : Decimal
  estimatedUnbilled : Decimal
  deriving DecidableEq, Repr

/-- `BudgetSnapshot.available`. -/
def BudgetSnapshot.available (snapshot : BudgetSnapshot) : Except BudgetError Decimal := do
  let used ← exact (exactSum
    [snapshot.reserved, snapshot.incurred, snapshot.estimatedUnbilled] 0)
  let remaining ← exact (exactSubtract snapshot.ceiling used)
  pure (if 0 < remaining then remaining else 0)

structure BudgetLedger where
  ceiling : Decimal
  reserved : Dict String Decimal
  incurred : Decimal
  estimatedUnbilledByRequest : Dict String Decimal
  settledRequests : Finset String
  reconciledBills : Dict String (String × Decimal)
  deriving DecidableEq

namespace BudgetLedger

/-- `BudgetLedger(ceiling)`. -/
def init (ceiling : DecimalInput) : Except BudgetError BudgetLedger := do
  let ceiling ← exactDecimal ceiling "budget ceiling"
  if ceiling < 0 then .error (.valueError "budget ceiling cannot be negative")
  else pure ⟨ceiling, ∅, 0, ∅, ∅, ∅⟩

/-- `snapshot`. -/
def snapshot (ledger : BudgetLedger) : Except BudgetError BudgetSnapshot := do
  let reserved ← exact (exactSum ledger.reserved.values 0)
  let estimatedUnbilled ← exact (exactSum ledger.estimatedUnbilledByRequest.values 0)
  pure ⟨ledger.ceiling, reserved, ledger.incurred, estimatedUnbilled⟩

/-- The insertion of a new reservation. -/
def insertReservation (ledger : BudgetLedger) (requestId : String) (amount : Decimal) :
    Except BudgetError BudgetLedger := do
  let snapshot ← ledger.snapshot
  let available ← snapshot.available
  if available < amount then .error (.valueError "budget exhausted")
  else do
    let candidateReserved ← exact (exactSum (ledger.reserved.values ++ [amount]) 0)
    let estimatedUnbilled ← exact (exactSum ledger.estimatedUnbilledByRequest.values 0)
    let _ ← BudgetSnapshot.available
      ⟨ledger.ceiling, candidateReserved, ledger.incurred, estimatedUnbilled⟩
    pure { ledger with reserved := ledger.reserved.set requestId amount }

/-- `reserve`. -/
def reserve (ledger : BudgetLedger) (requestId : String) (amount : DecimalInput) :
    Except BudgetError BudgetLedger := do
  let requestId ← identifier requestId "request_id"
  let amount ← exactDecimal amount "reservation"
  if amount < 0 then .error (.valueError "reservation cannot be negative")
  else
    match ledger.reserved.get? requestId with
    | some prior =>
        if prior ≠ amount then .error (.valueError "reservation conflict") else .ok ledger
    | none => ledger.insertReservation requestId amount

/-- `release`: the new ledger and the released amount. -/
def release (ledger : BudgetLedger) (requestId : String) :
    Except BudgetError (BudgetLedger × Decimal) := do
  let requestId ← identifier requestId "request_id"
  if requestId ∈ ledger.settledRequests then
    .error (.valueError "cannot release a request after the call boundary")
  else
    pure ({ ledger with reserved := ledger.reserved.erase requestId },
      (ledger.reserved.get? requestId).getD 0)

/-- `settle` on admitted costs, with the reservation of the request. -/
def settleReserved (ledger : BudgetLedger) (requestId : String)
    (incurred estimatedUnbilled reserved : Decimal) : Except BudgetError BudgetLedger := do
  let cost ← exact (exactAdd incurred estimatedUnbilled)
  if reserved < cost then .error (.valueError "settlement exceeds reserved ceiling")
  else do
    let newIncurred ← exact (exactAdd ledger.incurred incurred)
    let newUnbilled ← exact (exactSum
      (ledger.estimatedUnbilledByRequest.values ++ [estimatedUnbilled]) 0)
    let newReserved ← exact (exactSum (ledger.reserved.erase requestId).values 0)
    let _ ← BudgetSnapshot.available ⟨ledger.ceiling, newReserved, newIncurred, newUnbilled⟩
    pure { ledger with
      reserved := ledger.reserved.erase requestId
      incurred := newIncurred
      estimatedUnbilledByRequest :=
        ledger.estimatedUnbilledByRequest.set requestId estimatedUnbilled
      settledRequests := insert requestId ledger.settledRequests }

/-- `settle`. -/
def settle (ledger : BudgetLedger) (requestId : String)
    (incurred estimatedUnbilled : DecimalInput) : Except BudgetError BudgetLedger := do
  let requestId ← identifier requestId "request_id"
  let incurred ← exactDecimal incurred "incurred cost"
  let estimatedUnbilled ← exactDecimal estimatedUnbilled "estimated unbilled cost"
  if incurred < 0 ∨ estimatedUnbilled < 0 then
    .error (.valueError "costs cannot be negative")
  else
    match ledger.reserved.get? requestId with
    | none => .error (.valueError "unknown reservation")
    | some reserved => ledger.settleReserved requestId incurred estimatedUnbilled reserved

/-- What is left to bill of a request. -/
def estimateOf (ledger : BudgetLedger) (requestId : String) : Decimal :=
  (ledger.estimatedUnbilledByRequest.get? requestId).getD 0

/-- `reconcile_unbilled` on an admitted bill with a new identity. -/
def reconcileBill (ledger : BudgetLedger) (billingId requestId : String) (billed : Decimal) :
    Except BudgetError BudgetLedger := do
  let estimate := ledger.estimateOf requestId
  let remainingEstimate ← exact (exactSubtract estimate
    (if billed < estimate then billed else estimate))
  let newIncurred ← exact (exactAdd ledger.incurred billed)
  let othersUnbilled ← exact (exactSum
    (ledger.estimatedUnbilledByRequest.erase requestId).values 0)
  let newUnbilled ← exact (exactAdd othersUnbilled remainingEstimate)
  let reserved ← exact (exactSum ledger.reserved.values 0)
  let _ ← BudgetSnapshot.available ⟨ledger.ceiling, reserved, newIncurred, newUnbilled⟩
  pure { ledger with
    estimatedUnbilledByRequest :=
      ledger.estimatedUnbilledByRequest.set requestId remainingEstimate
    incurred := newIncurred
    reconciledBills := ledger.reconciledBills.set billingId (requestId, billed) }

/-- `reconcile_unbilled`. -/
def reconcileUnbilled (ledger : BudgetLedger) (billingId requestId : String)
    (billed : DecimalInput) : Except BudgetError BudgetLedger := do
  let billingId ← identifier billingId "billing_id"
  let requestId ← identifier requestId "request_id"
  let billed ← exactDecimal billed "billed cost"
  if billed < 0 then .error (.valueError "billed cost cannot be negative")
  else
    match ledger.reconciledBills.get? billingId with
    | some prior =>
        if prior ≠ (requestId, billed) then
          .error (.valueError "billing reconciliation conflict")
        else .ok ledger
    | none =>
        if requestId ∉ ledger.settledRequests then
          .error (.valueError "billing has no matching settled request")
        else ledger.reconcileBill billingId requestId billed

end BudgetLedger

end AutoTrade.Budget
