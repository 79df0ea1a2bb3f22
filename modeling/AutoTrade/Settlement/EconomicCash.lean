import AutoTrade.Accounting.Lineage
import AutoTrade.Settlement.Invariant

/-!
# Settled cash of an economic book

The executable model of `SettlementBook.from_economic_book`: the obligations
whose source is still active are removed from the economic cash to recover the
settled opening balance, and the retained settlement evidence is replayed.
-/

namespace AutoTrade.Settlement

open Lib Numeric
open Accounting (JournalTransaction Posting EconomicBook postingsTo reversedIds)

variable [CaseMap]

/-- The scope an authoritative economic book is sealed to; a missing field is
not compared. -/
structure OwnerScope where
  providerId : Option String
  accountId : String
  environment : String
  providerEnvironment : Option String
  deriving DecidableEq, Repr

/-- The scope check of one obligation. -/
def OwnerScope.check (owner : OwnerScope) (obligation : SettlementObligation) :
    Except SettlementError Unit :=
  match obligation.ruleBinding with
  | none => .error (.conflict "scoped economic book differs from settlement scope")
  | some binding =>
      if binding.scope.accountId ≠ owner.accountId ∨
          binding.scope.environment ≠ owner.environment ∨
          (owner.providerId.any fun provider => binding.scope.providerId ≠ provider) ∨
          (owner.providerEnvironment.any fun environment =>
            binding.scope.providerEnvironment ≠ environment) then
        .error (.conflict "scoped economic book differs from settlement scope")
      else .ok ()

/-! ## Cash legs -/

/-- A posting to the cash account of its own currency. -/
def isCash (item : Posting) : Bool := item.ledgerAccount = "CASH:" ++ item.assetOrCurrency

/-- One posting of the loop that totals cash by currency. -/
def addCashLeg (legs : Dict String Decimal) (item : Posting) :
    Except SettlementError (Dict String Decimal) :=
  if isCash item then do
    let total ← (exactAdd ((legs.get? item.assetOrCurrency).getD 0)
      item.signedAmount).mapError .exactDecimal
    pure (legs.set item.assetOrCurrency total)
  else .ok legs

/-- `replacement_cash` and `transaction_cash`: the cash of a transaction by
currency. -/
def cashLegs (transaction : JournalTransaction) :
    Except SettlementError (Dict String Decimal) :=
  transaction.postings.foldlM addCashLeg ∅

/-- Every nonzero cash leg must be among the covered pairs of source and
currency. -/
def requireCovered (covered : List (String × String)) (message : String)
    (transaction : JournalTransaction) : Except SettlementError Unit := do
  let legs ← cashLegs transaction
  if legs.entries.any fun leg =>
      leg.2 ≠ 0 ∧ (transaction.transactionId, leg.1) ∉ covered then
    .error (.conflict message)
  else pure ()

/-- Posts to a position or to FX clearing. -/
def settlementRelevant (transaction : JournalTransaction) : Bool :=
  transaction.postings.any fun item =>
    "POSITION:".toList.isPrefixOf item.ledgerAccount.toList ||
      "FX_CLEARING:".toList.isPrefixOf item.ledgerAccount.toList

/-! ## Coverage checks -/

/-- The pairs of source transaction and currency that obligations bind. -/
def boundPairs (obligations : List SettlementObligation) : List (String × String) :=
  obligations.filterMap fun obligation =>
    obligation.sourceTransactionId.map fun source => (source, obligation.currency)

/-- A standing replacement of a bound transaction must be bound in full. -/
def checkReplacement (reversed : List String) (bound : List (String × String))
    (transaction : JournalTransaction) : Except SettlementError Unit :=
  match transaction.correctsTransactionId with
  | none => .ok ()
  | some correctedId =>
      if transaction.transactionId ∈ reversed ∨ correctedId ∉ bound.map Prod.fst then .ok ()
      else requireCovered bound
        "active correction replacement cash leg lacks settlement obligation" transaction

/-- One obligation of the activation loop: the active obligations so far. -/
def activate (byTransaction : Dict String JournalTransaction) (reversed : List String)
    (active : List SettlementObligation) (obligation : SettlementObligation) :
    Except SettlementError (List SettlementObligation) :=
  match obligation.sourceTransactionId, obligation.ruleBinding with
  | some source, some _ =>
      match byTransaction.get? source with
      | none =>
          .error (.conflict "settlement obligation references an unknown economic transaction")
      | some transaction =>
          if transaction.causeEventId ≠ obligation.causeEventId then
            .error (.conflict "settlement obligation cause does not match source transaction")
          else if source ∈ reversed then .ok active
          else if (source, obligation.currency) ∈ boundPairs active then
            .error (.conflict
              "economic transaction/currency has multiple full settlement obligations")
          else do
            let cashEffect ← (exactSum ((postingsTo transaction
              ("CASH:" ++ obligation.currency) obligation.currency).map
                Posting.signedAmount) 0).mapError SettlementError.exactDecimal
            if cashEffect ≠ obligation.amount then
              .error (.conflict
                "settlement obligation amount does not match source economic cash effect")
            else pure (active ++ [obligation])
  | _, _ =>
      .error (.conflict "economic-book settlement requires source transaction and rule binding")

/-- The trading fence: active trading cash must be bound by an active
obligation. -/
def checkTrading (transactions : List JournalTransaction) (covered : List (String × String))
    (transaction : JournalTransaction) : Except SettlementError Unit :=
  if transaction.transactionId ∈ reversedIds transactions ∨
      transaction.reversesTransactionId.isSome then .ok ()
  else if settlementRelevant transaction then
    requireCovered covered "active trading cash leg lacks settlement obligation" transaction
  else .ok ()

/-! ## Opening cash -/

/-- The currencies of the cash postings and of the obligations, each once.  The
source keeps them in a set; the checkpoint sorts what is built from it. -/
def cashCurrencies (transactions : List JournalTransaction)
    (obligations : List SettlementObligation) : List String :=
  (((transactions.flatMap JournalTransaction.postings).filter isCash).map
      Posting.assetOrCurrency ++ obligations.map SettlementObligation.currency).dedup

/-- Economic cash of a currency less its active obligations. -/
def openingAmount (transactions : List JournalTransaction)
    (active : List SettlementObligation) (currency : String) :
    Except SettlementError Decimal := do
  let total ← (exactSum (EconomicBook.postedAmounts transactions ("CASH:" ++ currency)
    currency) 0).mapError SettlementError.exactDecimal
  let bound ← (exactSum ((active.filter fun obligation => obligation.currency = currency).map
    SettlementObligation.amount) 0).mapError SettlementError.exactDecimal
  (exactSubtract total bound).mapError .exactDecimal

/-- One item of `opening_cash`. -/
def openingEntry (transactions : List JournalTransaction)
    (active : List SettlementObligation) (currency : String) :
    Except SettlementError (String × Decimal) :=
  (openingAmount transactions active currency).map fun amount => (currency, amount)

namespace SettlementBook

/-- `from_economic_book` on the transactions of a canonical cut. -/
def fromTransactions (owner : Option OwnerScope) (transactions : List JournalTransaction)
    (obligations : List SettlementObligation) (evidence : Dict String SettlementEvidence) :
    Except SettlementError SettlementBook := do
  owner.forM fun scope => obligations.forM scope.check
  let byTransaction : Dict String JournalTransaction :=
    Dict.setAll ∅ (transactions.map fun item => (item.transactionId, item))
  let reversed := reversedIds transactions
  if evidence.keys.any fun key =>
      key ∉ obligations.map SettlementObligation.obligationId then
    .error (.conflict "settlement evidence references an unknown obligation")
  else do
    transactions.forM (checkReplacement reversed (boundPairs obligations))
    let active ← obligations.foldlM (activate byTransaction reversed) []
    transactions.forM (checkTrading transactions (boundPairs active))
    let activeEvidence := evidence.filterKeys fun key =>
      key ∈ active.map SettlementObligation.obligationId
    let entries ← (cashCurrencies transactions obligations).mapM
      (openingEntry transactions active)
    let openingCash : Dict String Decimal := Dict.setAll ∅ entries
    let checkpoint ← SettlementCheckpoint.create "economic-book-settlement-opening"
      (openingCash.mapValues .bounded) ∅
    fromHistory checkpoint active activeEvidence

/-- `from_economic_book` on a plain economic book. -/
def fromEconomicBook (book : EconomicBook) (obligations : List SettlementObligation)
    (evidence : Dict String SettlementEvidence) : Except SettlementError SettlementBook :=
  fromTransactions none book.transactions obligations evidence

end SettlementBook

end AutoTrade.Settlement
