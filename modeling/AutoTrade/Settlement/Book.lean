import AutoTrade.Lib.Dict
import AutoTrade.Lib.Raise
import AutoTrade.Lib.Text
import AutoTrade.Lib.Time
import AutoTrade.Numeric.ExactDecimal
import Mathlib.Data.List.Sort
import Mathlib.Data.Prod.Lex
import Mathlib.Data.Finset.Dedup

/-!
# Settlement book

The executable model of `settlement.SettlementBook`: obligations, settlement
evidence, spendable settled cash, checkpoints and the restart from a
checkpoint.
-/

namespace AutoTrade.Settlement

open Lib Numeric

/-- The exceptions a settlement call raises. -/
inductive SettlementError where
  | valueError (message : String)
  | typeError (message : String)
  | conflict (message : String)
  | exactDecimal (error : ExactDecimalError)
  deriving DecidableEq, Repr

/-- `_decimal`. -/
def decimal (value : DecimalInput) (name : String) : Except SettlementError Decimal :=
  match value with
  | .inexact =>
      .error (.typeError s!"{name} must use exact Decimal, string or integer input")
  | value =>
      (parseBoundedExactDecimal value true).mapError fun _ =>
        .valueError s!"{name} must be a bounded finite decimal"

/-- `_text`. -/
def text (value name : String) : Except SettlementError String :=
  if strip value = "" then .error (.valueError s!"{name} is required")
  else .ok (strip value)

structure SettlementAccountScope where
  providerId : String
  accountId : String
  environment : String
  providerEnvironment : String
  deriving DecidableEq, Repr

structure SettlementRuleBinding where
  ruleId : String
  ruleVersion : String
  scope : SettlementAccountScope
  instrumentVersion : String
  settlementCurrency : String
  effectiveFrom : Date
  effectiveTo : Option Date
  evidenceRefs : List String
  deriving DecidableEq, Repr

/-- `applies_on`. -/
def SettlementRuleBinding.appliesOn (binding : SettlementRuleBinding) (tradeDate : Date) :
    Bool :=
  binding.effectiveFrom ≤ tradeDate && match binding.effectiveTo with
    | none => true
    | some effectiveTo => tradeDate < effectiveTo

section Records

variable [CaseMap]

/-- An obligation that passed `__post_init__`. -/
structure SettlementObligation where
  obligationId : String
  causeEventId : String
  currency : String
  amount : Decimal
  tradeDate : Date
  settlementDate : Date
  componentId : String
  sourceTransactionId : Option String
  ruleBinding : Option SettlementRuleBinding
  obligationIdNormal : Normal obligationId
  currencyNormal : Normal currency
  currencyUpper : upper currency = currency
  amountNonzero : amount ≠ 0
  datesOrdered : tradeDate ≤ settlementDate
  deriving DecidableEq, Repr

/-- `SettlementObligation(...)`. -/
def SettlementObligation.create (obligationId causeEventId currency : String)
    (amount : DecimalInput) (tradeDate settlementDate : Date) (componentId : String)
    (sourceTransactionId : Option String) (ruleBinding : Option SettlementRuleBinding) :
    Except SettlementError SettlementObligation := do
  if obligationMissing : strip obligationId = "" then
    throw (.valueError "obligation_id is required")
  else
    let causeEvent ← text causeEventId "cause_event_id"
    let component ← text componentId "component_id"
    if currencyMissing : strip currency = "" then
      throw (.valueError "currency is required")
    else
      let value ← decimal amount "amount"
      if zero : value = 0 then throw (.valueError "amount must be non-zero")
      else if disordered : settlementDate < tradeDate then
        throw (.valueError "settlement_date cannot precede trade_date")
      else
        let source ← match sourceTransactionId with
          | none => pure none
          | some source => (text source "source_transaction_id").map some
        let unit := upper (strip currency)
        if ruleBinding.any fun binding => binding.settlementCurrency ≠ unit then
          throw (.conflict "settlement rule currency does not match obligation currency")
        else if ruleBinding.any fun binding => !binding.appliesOn tradeDate then
          throw (.conflict "settlement rule was not effective on the trade date")
        else return {
          obligationId := strip obligationId
          causeEventId := causeEvent
          currency := unit
          amount := value
          tradeDate := tradeDate
          settlementDate := settlementDate
          componentId := upper component
          sourceTransactionId := source
          ruleBinding := ruleBinding
          obligationIdNormal := normal_strip obligationMissing
          currencyNormal := normal_upper (normal_strip currencyMissing)
          currencyUpper := CaseMap.upper_upper _
          amountNonzero := zero
          datesOrdered := Int.not_lt.mp disordered }

end Records

/-- Evidence that passed `__post_init__`. -/
structure SettlementEvidence where
  obligationId : String
  evidenceRef : String
  observedAt : Instant
  obligationIdNormal : Normal obligationId
  deriving DecidableEq, Repr

/-- `SettlementEvidence(...)`. -/
def SettlementEvidence.create (obligationId evidenceRef : String) (observedAt : Instant) :
    Except SettlementError SettlementEvidence := do
  if obligationMissing : strip obligationId = "" then
    throw (.valueError "evidence obligation_id is required")
  else
    let reference ← text evidenceRef "settlement_evidence_ref"
    return {
      obligationId := strip obligationId
      evidenceRef := reference
      observedAt := observedAt
      obligationIdNormal := normal_strip obligationMissing }

section Books

variable [CaseMap]

/-- One entry of a loop that normalizes cash by currency, with the names and
the message the loop reports. -/
def addCash (currencyName duplicate amountName : String) (cash : Dict String Decimal)
    (item : String × DecimalInput) : Except SettlementError (Dict String Decimal) := do
  let currency ← text item.1 currencyName
  let unit := upper currency
  if (cash.get? unit).isSome then .error (.conflict duplicate)
  else do
    let amount ← decimal item.2 amountName
    pure (cash.set unit amount)

/-! ## Checkpoints -/

structure SettlementCheckpoint where
  checkpointId : String
  settledCash : List (String × Decimal)
  settledObligationEvidence : List SettlementEvidence
  deriving DecidableEq, Repr

namespace SettlementCheckpoint

/-- Entries in the order of their currencies. -/
def sortCash (cash : List (String × Decimal)) : List (String × Decimal) :=
  cash.insertionSort fun left right => left.1 ≤ right.1

/-- Evidence in the order of its obligations. -/
def sortEvidence (evidence : List SettlementEvidence) : List SettlementEvidence :=
  evidence.insertionSort fun left right => left.obligationId ≤ right.obligationId

/-- The currency checks of `__post_init__`. -/
def checkCurrency (seen : List String) (entry : String × Decimal) :
    Except SettlementError (List String) := do
  let currency ← text entry.1 "checkpoint currency"
  if upper currency ≠ entry.1 then
    .error (.valueError "checkpoint currency must use canonical uppercase text")
  else if entry.1 ∈ seen then
    .error (.conflict "checkpoint contains duplicate currency identities")
  else pure (entry.1 :: seen)

/-- `SettlementCheckpoint(...)`, the checks of `__post_init__`. -/
def validate (checkpointId : String) (settledCash : List (String × Decimal))
    (evidence : List SettlementEvidence) : Except SettlementError SettlementCheckpoint := do
  let identity ← text checkpointId "checkpoint_id"
  let _ ← settledCash.foldlM checkCurrency []
  if sortCash settledCash ≠ settledCash then
    .error (.conflict "checkpoint settled_cash must use canonical sorted ordering")
  else if ¬ (evidence.map SettlementEvidence.obligationId).Nodup then
    .error (.conflict "checkpoint contains duplicate settlement evidence identities")
  else if sortEvidence evidence ≠ evidence then
    .error (.conflict "checkpoint settlement evidence must use canonical sorted ordering")
  else pure ⟨identity, settledCash, evidence⟩

/-- One entry of the evidence loop in `create`. -/
def addEvidence (evidence : Dict String SettlementEvidence)
    (item : String × SettlementEvidence) :
    Except SettlementError (Dict String SettlementEvidence) := do
  let obligationId ← text item.1 "checkpoint obligation_id"
  if item.2.obligationId ≠ obligationId then
    .error (.conflict "checkpoint evidence key does not match evidence obligation_id")
  else if (evidence.get? obligationId).isSome then
    .error (.conflict "checkpoint contains duplicate normalized obligation ids")
  else pure (evidence.set obligationId item.2)

/-- `SettlementCheckpoint.create`. -/
def create (checkpointId : String) (settledCash : Dict String DecimalInput)
    (evidence : Dict String SettlementEvidence) :
    Except SettlementError SettlementCheckpoint := do
  let cash ← settledCash.entries.foldlM (addCash "checkpoint currency"
    "checkpoint contains duplicate normalized currency codes" "checkpoint settled_cash") ∅
  let records ← evidence.entries.foldlM addEvidence ∅
  let identity ← text checkpointId "checkpoint_id"
  validate identity (sortCash cash.entries) (sortEvidence records.values)

/-- `cash_dict`. -/
def cashDict (checkpoint : SettlementCheckpoint) : Dict String Decimal :=
  checkpoint.settledCash.foldl (fun cash entry => cash.set entry.1 entry.2) ∅

/-- `evidence_dict`. -/
def evidenceDict (checkpoint : SettlementCheckpoint) : Dict String SettlementEvidence :=
  checkpoint.settledObligationEvidence.foldl
    (fun evidence record => evidence.set record.obligationId record) ∅

end SettlementCheckpoint

/-! ## Snapshots -/

structure SettlementSnapshot where
  currency : String
  settledCash : Decimal
  unsettledReceivable : Decimal
  unsettledPayable : Decimal
  deriving DecidableEq, Repr

/-- `net_unsettled`. -/
def SettlementSnapshot.netUnsettled (snapshot : SettlementSnapshot) :
    Except SettlementError Decimal :=
  (exactSubtract snapshot.unsettledReceivable snapshot.unsettledPayable).mapError .exactDecimal

/-- `economic_cash`. -/
def SettlementSnapshot.economicCash (snapshot : SettlementSnapshot) :
    Except SettlementError Decimal := do
  let net ← snapshot.netUnsettled
  (exactAdd snapshot.settledCash net).mapError .exactDecimal

/-! ## Books -/

structure SettlementBook where
  settledCash : Dict String Decimal
  obligations : Dict String SettlementObligation
  byCauseComponent : Dict (String × String) SettlementObligation
  settledIds : Finset String
  settlementEvidence : Dict String SettlementEvidence
  deriving DecidableEq

namespace SettlementBook

/-- `add`. -/
def add (book : SettlementBook) (obligation : SettlementObligation) :
    Except SettlementError (SettlementBook × Bool) :=
  match book.obligations.get? obligation.obligationId with
  | some existing =>
      if existing ≠ obligation then
        .error (.conflict "obligation_id already exists with different economic content")
      else .ok (book, false)
  | none =>
      let causeKey := (obligation.causeEventId, obligation.componentId)
      if (book.byCauseComponent.get? causeKey).isSome then
        .error (.conflict ("cause_event_id and component_id were already represented " ++
          "by a different settlement obligation"))
      else .ok ({ book with
        obligations := book.obligations.set obligation.obligationId obligation
        byCauseComponent := book.byCauseComponent.set causeKey obligation }, true)

/-- One entry of the evidence loop in `__init__`. -/
def restoreEvidence (book : SettlementBook) (item : String × SettlementEvidence) :
    Except SettlementError SettlementBook := do
  let key ← text item.1 "settled_obligation_id"
  if item.2.obligationId ≠ key then
    .error (.conflict "settlement evidence key does not match evidence obligation_id")
  else match book.obligations.get? key with
    | none =>
        .error (.conflict
          "settled obligation evidence cannot reference an unknown obligation")
    | some obligation =>
        if (book.settlementEvidence.get? key).isSome then
          .error (.conflict
            "settled obligation evidence contains duplicate normalized obligation ids")
        else if item.2.observedAt.date < obligation.settlementDate then
          .error (.conflict "settlement evidence predates contractual settlement date")
        else pure { book with
          settledIds := insert key book.settledIds
          settlementEvidence := book.settlementEvidence.set key item.2 }

/-- `SettlementBook(...)`. -/
def init (settledCash : Dict String DecimalInput) (obligations : List SettlementObligation)
    (evidence : Dict String SettlementEvidence) : Except SettlementError SettlementBook := do
  let cash ← settledCash.entries.foldlM (addCash "currency"
    "settled_cash contains duplicate normalized currency codes" "settled_cash") ∅
  let book ← obligations.foldlM
    (fun book obligation => (book.add obligation).map Prod.fst) ⟨cash, ∅, ∅, ∅, ∅⟩
  evidence.entries.foldlM restoreEvidence book

/-- `checkpoint`. -/
def checkpoint (book : SettlementBook) (checkpointId : String) :
    Except SettlementError SettlementCheckpoint :=
  SettlementCheckpoint.create checkpointId (book.settledCash.mapValues .bounded)
    book.settlementEvidence

/-- The assignments of a new settlement. -/
def applySettlement (book : SettlementBook) (obligation : SettlementObligation)
    (evidence : SettlementEvidence) (total : Decimal) : SettlementBook :=
  { book with
    settledCash := book.settledCash.set obligation.currency total
    settledIds := insert evidence.obligationId book.settledIds
    settlementEvidence := book.settlementEvidence.set evidence.obligationId evidence }

/-- `settle`. -/
def settle (book : SettlementBook) (obligationId : String) (asOf : Date)
    (evidence : SettlementEvidence) : Except SettlementError (SettlementBook × Bool) := do
  let key ← text obligationId "obligation_id"
  if evidence.obligationId ≠ key then
    .error (.conflict
      "settlement evidence obligation_id does not match requested obligation")
  else match book.obligations.get? key with
    | none => .error (.conflict "Cannot settle an unknown obligation")
    | some obligation =>
        if key ∈ book.settledIds then
          if book.settlementEvidence.get? key ≠ some evidence then
            .error (.conflict "settlement retry used different settlement evidence")
          else pure (book, false)
        else if asOf < obligation.settlementDate then
          .error (.conflict "Cannot settle before contractual settlement date")
        else if evidence.observedAt.date < obligation.settlementDate then
          .error (.conflict "settlement evidence predates contractual settlement date")
        else if asOf < evidence.observedAt.date then
          .error (.conflict
            "settlement evidence was not yet available as of projection date")
        else do
          let current := (book.settledCash.get? obligation.currency).getD 0
          let total ← (exactAdd current obligation.amount).mapError .exactDecimal
          pure (book.applySettlement obligation evidence total, true)

/-- One entry of the normalization loop in `from_history`. -/
def retainEvidence (obligations : Dict String SettlementObligation)
    (normalized : Dict String SettlementEvidence) (item : String × SettlementEvidence) :
    Except SettlementError (Dict String SettlementEvidence) := do
  let obligationId ← text item.1 "settled_obligation_id"
  if item.2.obligationId ≠ obligationId then
    .error (.conflict "settlement evidence key does not match evidence obligation_id")
  else if (normalized.get? obligationId).isSome then
    .error (.conflict
      "settled obligation evidence contains duplicate normalized obligation ids")
  else if (obligations.get? obligationId).isNone then
    .error (.conflict "settled obligation evidence cannot reference an unknown obligation")
  else pure (normalized.set obligationId item.2)

/-- The sort key `(settlement_date, obligation_id)` of a known obligation. -/
def dueKey (obligations : Dict String SettlementObligation) (obligationId : String) :
    Date ×ₗ String :=
  toLex (((obligations.get? obligationId).map SettlementObligation.settlementDate).getD 0,
    obligationId)

/-- Obligation ids sorted by settlement date, then id. -/
def dueOrder (obligations : Dict String SettlementObligation) (ids : List String) :
    List String :=
  ids.insertionSort fun left right => dueKey obligations left ≤ dueKey obligations right

/-- One replayed settlement of `from_history`. -/
def replay (normalized : Dict String SettlementEvidence) (book : SettlementBook)
    (obligationId : String) : Except SettlementError SettlementBook :=
  match book.obligations.get? obligationId, normalized.get? obligationId with
  | some obligation, some record =>
      (book.settle obligationId (max obligation.settlementDate record.observedAt.date)
        record).map Prod.fst
  -- both lookups succeed: every retained id was checked to be known
  | _, _ => .error (.conflict "Cannot settle an unknown obligation")

/-- `from_history`. -/
def fromHistory (checkpoint : SettlementCheckpoint) (obligations : List SettlementObligation)
    (evidence : Dict String SettlementEvidence) : Except SettlementError SettlementBook := do
  let validation ← init (checkpoint.cashDict.mapValues .bounded) obligations
    checkpoint.evidenceDict
  let normalized ← evidence.entries.foldlM (retainEvidence validation.obligations) ∅
  let orderedIds := dueOrder validation.obligations normalized.keys
  let checkpointEvidence := checkpoint.evidenceDict
  let prefixIds := orderedIds.take checkpointEvidence.keys.length
  if prefixIds.toFinset ≠ checkpointEvidence.keys.toFinset then
    .error (.conflict "checkpoint settled history is not the exact retained-history prefix")
  else if prefixIds.any fun obligationId =>
      normalized.get? obligationId ≠ checkpointEvidence.get? obligationId then
    .error (.conflict "checkpoint settlement evidence conflicts with retained history")
  else (orderedIds.drop prefixIds.length).foldlM (replay normalized) validation

/-- Obligations in a currency that are not settled. -/
def unsettledIn (book : SettlementBook) (unit : String) : List SettlementObligation :=
  book.obligations.values.filter fun obligation =>
    obligation.currency = unit ∧ obligation.obligationId ∉ book.settledIds

/-- `snapshot`. -/
def snapshot (book : SettlementBook) (currency : String) :
    Except SettlementError SettlementSnapshot := do
  let code ← text currency "currency"
  let unit := upper code
  let (receivables, payables) := (book.unsettledIn unit).partition fun obligation =>
    0 < obligation.amount
  let owed ← payables.mapM fun obligation =>
    (exactSubtract 0 obligation.amount).mapError SettlementError.exactDecimal
  let receivable ← (exactSum (receivables.map SettlementObligation.amount) 0).mapError
    SettlementError.exactDecimal
  let payable ← (exactSum owed 0).mapError SettlementError.exactDecimal
  pure {
    currency := unit
    settledCash := (book.settledCash.get? unit).getD 0
    unsettledReceivable := receivable
    unsettledPayable := payable }

/-- `available_to_spend`. -/
def availableToSpend (book : SettlementBook) (currency : String) (reserve : DecimalInput) :
    Except SettlementError Decimal := do
  let taken ← book.snapshot currency
  let locked ← decimal reserve "reserve"
  if locked < 0 then .error (.valueError "reserve cannot be negative")
  else do
    let uncommitted ← (exactSubtract taken.settledCash taken.unsettledPayable).mapError
      SettlementError.exactDecimal
    let available ← (exactSubtract uncommitted locked).mapError SettlementError.exactDecimal
    pure (if 0 < available then available else 0)

end SettlementBook

/-- A mutating call on a settlement book. -/
inductive SettlementCall where
  | add (obligation : SettlementObligation)
  | settle (obligationId : String) (asOf : Date) (evidence : SettlementEvidence)
  deriving DecidableEq, Repr

namespace SettlementBook

/-- The book after a call that returns. -/
def call (book : SettlementBook) : SettlementCall → Except SettlementError SettlementBook
  | .add obligation => (book.add obligation).map Prod.fst
  | .settle obligationId asOf evidence => (book.settle obligationId asOf evidence).map Prod.fst

/-- The book after calls that all return. -/
def run (book : SettlementBook) (calls : List SettlementCall) :
    Except SettlementError SettlementBook :=
  calls.foldlM call book

end SettlementBook

end Books

end AutoTrade.Settlement
