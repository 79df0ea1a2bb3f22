import AutoTrade.Lib.Dict
import AutoTrade.Lib.Raise
import AutoTrade.Lib.Text
import AutoTrade.Lib.Time
import AutoTrade.Numeric.ExactDecimal
import Mathlib.Data.Finset.Insert

/-!
# Economic journal

The executable model of `accounting.EconomicBook`: normalization and validation
of double-entry transactions, reversals, correction replacements and atomic
batches.

A stored transaction is normal (its names are stripped, its amounts bounded and
its instants in UTC), so re-normalizing it returns it unchanged; the model
therefore normalizes only caller input.  Every assignment of `append` follows
its last check, so a call that raises leaves the book as it was.
-/

namespace AutoTrade.Accounting

open Lib Numeric

/-- The exceptions an accounting call raises. -/
inductive AccountingError where
  | valueError (message : String)
  | typeError (message : String)
  | conflict (message : String)
  | unbalanced (totals : List (String × Decimal))
  deriving DecidableEq, Repr

/-- An arithmetic failure, reported as `AccountingConflict` or `ValueError`. -/
def arithmeticError (conflict : Bool) (message : String) : AccountingError :=
  if conflict then .conflict message else .valueError message

/-- `_decimal`. -/
def decimal (value : DecimalInput) (name : String) : Except AccountingError Decimal :=
  match value with
  | .inexact =>
      .error (.typeError s!"{name} must use exact built-in Decimal, string or integer input")
  | value =>
      (parseBoundedExactDecimal value true).mapError fun _ =>
        .valueError s!"{name} exceeds exact decimal resource envelope"

/-- `_name`. -/
def name (value field : String) : Except AccountingError String :=
  if strip value = "" then .error (.valueError s!"{field} is required")
  else .ok (strip value)

/-- `_name` on an argument that may be `None`. -/
def optionalName (value : Option String) (field : String) :
    Except AccountingError (Option String) :=
  match value with
  | none => .ok none
  | some value => (name value field).map some

/-- A timestamp argument, as `datetime.fromisoformat` reads it. -/
inductive Timestamp where
  | blank
  | malformed
  /-- An ISO timestamp without a timezone. -/
  | naive
  | at (instant : Instant)
  deriving DecidableEq, Repr

/-- `_instant`. -/
def instant (value : Option Timestamp) (field : String) :
    Except AccountingError (Option Instant) :=
  match value with
  | none => .ok none
  | some .blank => .error (.valueError s!"{field} is required")
  | some .malformed => .error (.valueError s!"{field} must be an ISO timestamp")
  | some .naive => .error (.valueError s!"{field} must include a timezone")
  | some (.at moment) => .ok (some moment)

/-- `_exact_negate`. -/
def exactNegate (value : Decimal) (conflict : Bool) : Except AccountingError Decimal :=
  (exactSubtract 0 value).mapError fun _ =>
    arithmeticError conflict "accounting negation exceeds exact arithmetic resource envelope"

/-- `_exact_total`. -/
def exactTotal (values : List Decimal) (conflict : Bool) : Except AccountingError Decimal :=
  (exactSum values 0).mapError fun _ =>
    arithmeticError conflict "accounting sum exceeds exact arithmetic resource envelope"

/-! ## Transactions -/

/-- A normal posting. -/
@[ext] structure Posting where
  ledgerAccount : String
  assetOrCurrency : String
  signedAmount : Decimal
  accountNormal : Normal ledgerAccount
  assetNormal : Normal assetOrCurrency
  deriving Repr

instance : DecidableEq Posting := fun _ _ => decidable_of_iff _ Posting.ext_iff.symm

/-- A normal transaction. -/
structure JournalTransaction where
  transactionId : String
  causeEventId : String
  postings : List Posting
  reversesTransactionId : Option String
  economicEffectiveAt : Option Instant
  economicOrderKey : Option String
  observedAt : Option Instant
  correctsTransactionId : Option String
  deriving DecidableEq, Repr

/-- The fields of a posting a caller supplies. -/
structure PostingInput where
  ledgerAccount : String
  assetOrCurrency : String
  signedAmount : DecimalInput
  deriving DecidableEq, Repr

/-- The fields of a transaction a caller supplies. -/
structure TransactionInput where
  transactionId : String
  causeEventId : String
  postings : List PostingInput
  reversesTransactionId : Option String
  economicEffectiveAt : Option Timestamp
  economicOrderKey : Option String
  observedAt : Option Timestamp
  correctsTransactionId : Option String
  deriving DecidableEq, Repr

/-- `posting`. -/
def posting (ledgerAccount assetOrCurrency : String) (signedAmount : DecimalInput) :
    Except AccountingError Posting :=
  if accountMissing : strip ledgerAccount = "" then
    .error (.valueError "ledger_account is required")
  else if assetMissing : strip assetOrCurrency = "" then
    .error (.valueError "asset_or_currency is required")
  else do
    let amount ← decimal signedAmount "signed_amount"
    pure {
      ledgerAccount := strip ledgerAccount
      assetOrCurrency := strip assetOrCurrency
      signedAmount := amount
      accountNormal := normal_strip accountMissing
      assetNormal := normal_strip assetMissing }

theorem decimal_bounded (value : Decimal) (name : String) :
    decimal (.bounded value) name = .ok value := by
  rw [decimal]
  · rfl
  · exact fun other => by cases other

/-- The names of a posting are stripped, and an admitted amount is kept. -/
theorem posting_fields {account asset : String} {amount : Decimal} {item : Posting}
    (success : posting account asset (.bounded amount) = .ok item) :
    item.ledgerAccount = strip account ∧ item.assetOrCurrency = strip asset ∧
      item.signedAmount = amount := by
  rw [posting] at success
  split at success
  · cases success
  split at success
  · cases success
  rw [bind_eq_ok] at success
  obtain ⟨read, admitted, built⟩ := success
  cases built
  rw [decimal_bounded] at admitted
  exact ⟨rfl, rfl, (Except.ok.inj admitted).symm⟩

/-- `_normalized_transaction`. -/
def normalizedTransaction (input : TransactionInput) :
    Except AccountingError JournalTransaction := do
  let transactionId ← name input.transactionId "transaction_id"
  let causeEventId ← name input.causeEventId "cause_event_id"
  let postings ← input.postings.mapM fun item =>
    posting item.ledgerAccount item.assetOrCurrency item.signedAmount
  let reversesTransactionId ← optionalName input.reversesTransactionId
    "reverses_transaction_id"
  let economicEffectiveAt ← instant input.economicEffectiveAt "economic_effective_at"
  let economicOrderKey ← optionalName input.economicOrderKey "economic_order_key"
  let observedAt ← instant input.observedAt "observed_at"
  let correctsTransactionId ← optionalName input.correctsTransactionId
    "corrects_transaction_id"
  pure ⟨transactionId, causeEventId, postings, reversesTransactionId, economicEffectiveAt,
    economicOrderKey, observedAt, correctsTransactionId⟩

/-- Amounts by asset, in order of first appearance. -/
def amountsByAsset (postings : List Posting) : Dict String (List Decimal) :=
  postings.foldl (fun totals item =>
    totals.set item.assetOrCurrency
      ((totals.get? item.assetOrCurrency).getD [] ++ [item.signedAmount])) ∅

/-- `validate_transaction` on a normal transaction. -/
def validateTransaction (transaction : JournalTransaction) : Except AccountingError Unit := do
  if transaction.economicEffectiveAt.isNone ≠ transaction.economicOrderKey.isNone then
    throw (.valueError
      "economic_effective_at and economic_order_key must be supplied together")
  match transaction.economicEffectiveAt, transaction.observedAt with
  | some effective, some observed =>
      if observed < effective then
        throw (.valueError "observed_at cannot precede economic_effective_at")
  | _, _ => pure ()
  match transaction.correctsTransactionId with
  | none => pure ()
  | some correctedId =>
      if correctedId = transaction.transactionId then
        throw (.valueError "transaction cannot correct itself")
      if transaction.reversesTransactionId.isSome then
        throw (.valueError "transaction cannot both reverse and replace corrected economics")
      if transaction.economicEffectiveAt.isNone ∨ transaction.economicOrderKey.isNone ∨
          transaction.observedAt.isNone then
        throw (.valueError
          "correction replacement requires economic ordering and observation evidence")
  if transaction.postings.length < 2 then
    throw (.valueError "A journal transaction requires at least two postings")
  let totals ← (amountsByAsset transaction.postings).traverse fun _ amounts =>
    exactTotal amounts false
  let unbalanced := totals.entries.filter fun entry => entry.2 ≠ 0
  if unbalanced ≠ [] then throw (.unbalanced unbalanced)

/-- Postings of a transaction to an account in an asset. -/
def postingsTo (transaction : JournalTransaction) (account asset : String) : List Posting :=
  transaction.postings.filter fun item =>
    item.ledgerAccount = account ∧ item.assetOrCurrency = asset

/-! ## The book -/

/-- `EconomicBook`. -/
structure EconomicBook where
  transactions : List JournalTransaction
  byId : Dict String JournalTransaction
  byCauseEventId : Dict String JournalTransaction
  reversedTransactionIds : Finset String
  replacementByCorrectedId : Dict String String
  deriving DecidableEq

namespace EconomicBook

/-- `EconomicBook()`. -/
def empty : EconomicBook := ⟨[], ∅, ∅, ∅, ∅⟩

/-- The posting a reversal must carry for an original posting. -/
def negatedPosting (item : Posting) : Except AccountingError Posting :=
  (exactNegate item.signedAmount true).map fun amount => { item with signedAmount := amount }

/-- The reversal checks of `append`. -/
def checkReversal (book : EconomicBook) (transaction : JournalTransaction)
    (originalId : String) : Except AccountingError Unit :=
  match book.byId.get? originalId with
  | none => .error (.conflict "Cannot reverse an unknown transaction")
  | some original =>
      if originalId ∈ book.reversedTransactionIds then
        .error (.conflict "Transaction has already been reversed")
      else do
        let expected ← original.postings.mapM negatedPosting
        if transaction.postings ≠ expected then
          .error (.conflict "A reversal must exactly negate the original postings")
        else pure ()

/-- The correction checks of `append`. -/
def checkCorrection (book : EconomicBook) (transaction : JournalTransaction)
    (correctedId : String) : Except AccountingError Unit :=
  match book.byId.get? correctedId with
  | none => .error (.conflict "Cannot correct an unknown transaction")
  | some corrected =>
      let replacement := book.replacementByCorrectedId.get? correctedId
      if correctedId ∉ book.reversedTransactionIds then
        .error (.conflict "Correction replacement requires an explicit prior reversal")
      else if replacement ≠ none ∧ replacement ≠ some transaction.transactionId then
        .error (.conflict "Corrected transaction already has a different replacement")
      else if corrected.economicEffectiveAt ≠ transaction.economicEffectiveAt ∨
          corrected.economicOrderKey ≠ transaction.economicOrderKey then
        .error (.conflict "Correction replacement must preserve economic ordering identity")
      else
        match book.transactions.find? fun item =>
            item.reversesTransactionId = some correctedId with
        | none =>
            .error (.conflict
              "Correction reversal/replacement observation evidence does not match")
        | some reversal =>
            if reversal.observedAt ≠ transaction.observedAt then
              .error (.conflict
                "Correction reversal/replacement observation evidence does not match")
            else .ok ()

/-- The assignments of an accepted `append`. -/
def insert (book : EconomicBook) (transaction : JournalTransaction) : EconomicBook where
  transactions := book.transactions ++ [transaction]
  byId := book.byId.set transaction.transactionId transaction
  byCauseEventId := book.byCauseEventId.set transaction.causeEventId transaction
  reversedTransactionIds := match transaction.reversesTransactionId with
    | none => book.reversedTransactionIds
    | some originalId => Insert.insert originalId book.reversedTransactionIds
  replacementByCorrectedId := match transaction.correctsTransactionId with
    | none => book.replacementByCorrectedId
    | some correctedId =>
        book.replacementByCorrectedId.set correctedId transaction.transactionId

/-- `append` on a normal transaction. -/
def appendNormal (book : EconomicBook) (transaction : JournalTransaction) :
    Except AccountingError (EconomicBook × Bool) := do
  validateTransaction transaction
  match book.byId.get? transaction.transactionId with
  | some existing =>
      if existing ≠ transaction then
        .error (.conflict
          "transaction_id was already committed with different economic content")
      else pure (book, false)
  | none =>
      if (book.byCauseEventId.get? transaction.causeEventId).isSome then
        .error (.conflict "cause_event_id was already booked by a different transaction")
      else do
        transaction.reversesTransactionId.forM (book.checkReversal transaction)
        transaction.correctsTransactionId.forM (book.checkCorrection transaction)
        pure (book.insert transaction, true)

/-- `append`. -/
def append (book : EconomicBook) (input : TransactionInput) :
    Except AccountingError (EconomicBook × Bool) := do
  let transaction ← normalizedTransaction input
  book.appendNormal transaction

/-- One transaction of a batch: the book and the outcomes so far. -/
def appendNext (progress : EconomicBook × List Bool) (input : TransactionInput) :
    Except AccountingError (EconomicBook × List Bool) := do
  let (next, appended) ← progress.1.append input
  pure (next, progress.2 ++ [appended])

/-- `EconomicBook(transactions)` on stored transactions. -/
def rebuild (transactions : List JournalTransaction) : Except AccountingError EconomicBook :=
  transactions.foldlM (fun book transaction =>
    (book.appendNormal transaction).map Prod.fst) empty

/-- `append_batch`. -/
def appendBatch (book : EconomicBook) (batch : List TransactionInput) :
    Except AccountingError (EconomicBook × Bool) :=
  if batch = [] then .error (.valueError "atomic transaction batch must not be empty")
  else do
    let start ← rebuild book.transactions
    let (candidate, outcomes) ← batch.foldlM appendNext (start, [])
    if outcomes.any id ∧ ¬ outcomes.all id then
      .error (.conflict "atomic transaction batch is only partially committed")
    else if outcomes.any id then pure (candidate, true)
    else pure (book, false)

/-- The amounts posted to an account in an asset. -/
def postedAmounts (transactions : List JournalTransaction) (account asset : String) :
    List Decimal :=
  ((transactions.flatMap JournalTransaction.postings).filter fun item =>
    item.ledgerAccount = account ∧ item.assetOrCurrency = asset).map Posting.signedAmount

/-- `balance`. -/
def balance (book : EconomicBook) (ledgerAccount assetOrCurrency : String) :
    Except AccountingError Decimal := do
  let account ← name ledgerAccount "ledger_account"
  let asset ← name assetOrCurrency "asset_or_currency"
  exactTotal (postedAmounts book.transactions account asset) true

/-- `position`. -/
def position (book : EconomicBook) (instrument : String) : Except AccountingError Decimal := do
  let value ← name instrument "instrument"
  book.balance ("POSITION:" ++ value) value

/-- The books that calls of `append` and `append_batch` reach. -/
inductive Reachable : EconomicBook → Prop where
  | empty : Reachable empty
  | append {book next : EconomicBook} {input : TransactionInput} {appended : Bool}
      (reachable : Reachable book) (success : book.append input = .ok (next, appended)) :
      Reachable next
  | appendBatch {book next : EconomicBook} {batch : List TransactionInput} {appended : Bool}
      (reachable : Reachable book) (success : book.appendBatch batch = .ok (next, appended)) :
      Reachable next

end EconomicBook

end AutoTrade.Accounting
