import AutoTrade.Accounting.Integrity
import AutoTrade.Accounting.Position
import AutoTrade.Reconciliation.Evidence
import AutoTrade.Store.Envelope

/-!
# Fill accounting

The executable model of `fill_accounting.py`: the transactions that book a
provider fill, through the order projection or as an external execution that
reconciliation found, and the ones that correct or bust it.

A durable economic book commits what the canonical book accepts, so both kinds
of `ScopedEconomicBook` are an economic book with its scope.  The reconciliation
checkpoint is what `require_current_reconciliation_checkpoint` returns or raises.
-/

namespace AutoTrade.Accounting

open Lib Numeric
open Reconciliation (Environment PositionEffect PositionSide ProviderFillEvidence)

/-! ## Books and evidence -/

/-- The scope only a durable book has. -/
structure DurableScope where
  providerId : String
  providerEnvironment : String
  deriving DecidableEq, Repr

/-- `ScopedEconomicBook` and `DurableProviderEconomicBook`. -/
structure ScopedEconomicBook where
  environment : Environment
  accountId : String
  durable : Option DurableScope
  book : EconomicBook

/-- `ProjectedFillEvidence`, whose amounts are finite decimals. -/
structure ProjectedFillEvidence where
  fillId : String
  providerExecutionId : String
  intentId : String
  clientOrderId : Option String
  side : Reconciliation.Side
  quantity : DecimalTuple
  price : DecimalTuple
  positionSide : Option PositionSide
  positionEffect : Option PositionEffect
  providerRevision : Option String
  correctionOf : Option String
  positiveQuantity : 0 < quantity.toRat
  positivePrice : 0 < price.toRat
  deriving DecidableEq

/-! ## Identities -/

/-- `_utc_text`, as the instant it denotes. -/
def utcText (value : Timestamp) (field : String) : Except AccountingError Instant :=
  match value with
  | .blank => .error (.valueError s!"{field} is required")
  | .malformed => .error (.valueError s!"{field} must be an ISO timestamp")
  | .naive => .error (.valueError s!"{field} must include timezone")
  | .at moment => .ok moment

/-- `_utc_text` on an argument that may be `None`. -/
def optionalUtcText (value : Option Timestamp) (field : String) :
    Except AccountingError (Option Timestamp) :=
  match value with
  | none => .ok none
  | some value => (fun moment => some (.at moment)) <$> utcText value field

/-- `_economic_order_key`. -/
def economicOrderKey [CaseMap] (provider providerExecutionId : String) :
    Except AccountingError String := do
  let provider ← name provider "provider_id"
  let execution ← name providerExecutionId "provider_execution_id"
  pure ("provider:" ++ upper provider ++ ":execution:" ++ execution)

section Digests

attribute [local instance] FloatText.none

/-- The hexadecimal part of `payload_digest`. -/
def payloadHash [Fingerprint] (payload : Json Unit) : Except AccountingError String :=
  match Store.canonicalJsonText payload with
  | .ok text => .ok (sha256 text)
  | .error _ => .error (.valueError "payload is not canonical JSON")

end Digests

/-- A text or `null`. -/
def textOrNull (value : Option String) : Json Unit :=
  match value with
  | none => .null
  | some text => .str text

/-- `decimal_text` of `provider_fill_identity_payload`. -/
def identityDecimalText (amount : Presented) : Json Unit :=
  .str (if amount.value = 0 then "0" else String.ofList (Numeric.fixedText amount.tuple))

/-- `provider_fill_identity_payload`. -/
def providerFillIdentityPayload (fill : ProviderFillEvidence) : List (String × Json Unit) :=
  [("schema_version", .str "1.0.0"),
    ("provider_id", .str fill.scope.providerId),
    ("account_id", .str fill.scope.accountId),
    ("environment", .str fill.scope.environment.name),
    ("provider_environment", .str fill.scope.providerEnvironment),
    ("provider_execution_id", .str fill.providerExecutionId),
    ("client_order_id", textOrNull fill.clientOrderId),
    ("instrument", .str fill.instrument),
    ("side", textOrNull (fill.side.map Reconciliation.Side.name)),
    ("position_side", textOrNull (fill.positionSide.map PositionSide.name)),
    ("position_effect", textOrNull (fill.positionEffect.map PositionEffect.name)),
    ("quantity", identityDecimalText fill.quantity),
    ("price", identityDecimalText fill.price),
    ("fee_amount", identityDecimalText fill.feeAmount),
    ("fee_currency", .str fill.feeCurrency),
    ("trade_time", .str fill.tradeTime.instant.utcText),
    ("evidence_refs", .arr ((fill.evidenceRefs.insertionSort (· ≤ ·)).map .str))]

/-- The fields of a fill that both builders write. -/
def fillPayload (fill : ProviderFillEvidence) : List (String × Json Unit) :=
  [("side", textOrNull (fill.side.map Reconciliation.Side.name)),
    ("position_side", textOrNull (fill.positionSide.map PositionSide.name)),
    ("position_effect", textOrNull (fill.positionEffect.map PositionEffect.name)),
    ("instrument", .str fill.instrument),
    ("quantity", .str fill.quantity.fixedText),
    ("price", .str fill.price.fixedText),
    ("fee_amount", .str fill.feeAmount.fixedText),
    ("fee_currency", .str fill.feeCurrency),
    ("trade_time", .str fill.tradeTime.text)]

/-- `_provider_fill_accounting_evidence_payload`. -/
def providerFillAccountingEvidencePayload (provider : String) (book : ScopedEconomicBook)
    (projected : ProjectedFillEvidence) (fill : ProviderFillEvidence) :
    List (String × Json Unit) :=
  [("schema_version", .str "1.0.0"),
    ("provider_id", .str provider),
    ("environment", .str book.environment.name),
    ("account_id", .str book.accountId),
    ("provider_execution_id", .str fill.providerExecutionId),
    ("client_order_id", textOrNull projected.clientOrderId),
    ("fill_id", .str projected.fillId),
    ("intent_id", .str projected.intentId)] ++
  fillPayload fill ++
  [("provider_revision", textOrNull projected.providerRevision)] ++
  (if fill.scope.providerEnvironment ≠ book.environment.name then
    [("provider_environment", .str fill.scope.providerEnvironment)] else [])

/-- The `cause_event_id` of a booked execution; `domain` is the provider
environment where it is part of the identity. -/
def fillCause (provider : String) (environment : Environment) (domain : Option String)
    (accountId execution : String) : String :=
  "provider:" ++ provider ++ ":environment:" ++ environment.name ++ ":" ++
    (match domain with
      | none => ""
      | some domain => "provider-environment:" ++ domain ++ ":") ++
    "account:" ++ accountId ++ ":execution:" ++ execution

/-- `provider_domain`: the provider environment, unless it is the environment of
the book. -/
def providerDomain (book : ScopedEconomicBook) (fill : ProviderFillEvidence) : Option String :=
  if fill.scope.providerEnvironment = book.environment.name then none
  else some fill.scope.providerEnvironment

/-! ## Fills of the order projection -/

/-- The comparison of a fill with the scope of the book. -/
def checkFillScope (provider : String) (book : ScopedEconomicBook)
    (fill : ProviderFillEvidence) : Except AccountingError Unit :=
  if fill.scope.providerId ≠ provider then
    .error (.conflict "provider fill provider scope does not match requested provider")
  else if fill.scope.accountId ≠ book.accountId then
    .error (.conflict "provider fill account scope does not match economic book")
  else if fill.scope.environment ≠ book.environment then
    .error (.conflict "provider fill environment scope does not match economic book")
  else .ok ()

/-- The comparison of an optional fact of the provider with the projection. -/
def checkProjected {α : Type} [DecidableEq α] (provider projected : Option α)
    (subject : String) : Except AccountingError Unit :=
  if provider = projected then .ok ()
  else if provider = none then
    .error (.conflict s!"provider fill {subject} is not independently evidenced")
  else if projected = none then
    .error (.conflict s!"projection is missing provider-required {subject}")
  else .error (.conflict s!"provider fill {subject} does not match projection")

/-- The comparison of a fill with its projection. -/
def checkProjection (projected : ProjectedFillEvidence) (fill : ProviderFillEvidence)
    (allowCorrection : Bool) : Except AccountingError Unit := do
  if fill.side = none then
    throw (.conflict "provider fill direction is not independently evidenced")
  if fill.side ≠ some projected.side then
    throw (.conflict "provider fill side does not match projection")
  checkProjected fill.positionSide projected.positionSide "position side"
  checkProjected fill.positionEffect projected.positionEffect "position effect"
  if fill.positionSide = some .long ∨ fill.positionSide = some .short then
    if fill.positionEffect = none then
      throw (.conflict
        "hedge-mode provider fill position effect is not independently evidenced")
    else
      throw (.conflict "hedge-mode provider fill requires leg-aware economic accounting")
  if projected.correctionOf ≠ none ∧ ¬ allowCorrection then
    throw (.conflict "corrected fills require explicit atomic reversal/replacement evidence")
  if allowCorrection ∧ projected.providerRevision = none then
    throw (.conflict "corrected fill requires immutable provider_revision evidence")
  if projected.providerExecutionId ≠ fill.providerExecutionId then
    throw (.conflict "provider execution identity does not match projection")
  if projected.clientOrderId = none ∨ fill.clientOrderId = none then
    throw (.conflict "admitted provider fill requires exact client order identity")
  if projected.clientOrderId ≠ fill.clientOrderId then
    throw (.conflict "provider client order identity does not match projection")
  if projected.quantity.toRat ≠ fill.quantity.value.toRat then
    throw (.conflict "provider fill quantity does not match projection")
  if projected.price.toRat ≠ fill.price.value.toRat then
    throw (.conflict "provider fill price does not match projection")

/-- A fill as the order projection and the provider report it. -/
structure FillReport where
  providerId : String
  projected : ProjectedFillEvidence
  fill : ProviderFillEvidence
  expectedInstrument : String
  settlementCurrency : String
  deriving DecidableEq

/-- What `_validated_fill_evidence` returns, without the instrument. -/
structure ValidatedFill where
  provider : String
  settlement : String
  evidence : List (String × Json Unit)

section Builders

variable [CaseMap] [Fingerprint]

/-- `_validated_fill_evidence`. -/
def validatedFillEvidence (book : ScopedEconomicBook) (report : FillReport)
    (allowCorrection : Bool) : Except AccountingError ValidatedFill := do
  let provider ← upper <$> name report.providerId "provider_id"
  if book.durable.any (·.providerId ≠ provider) then
    throw (.conflict "provider fill provider scope does not match durable economic book")
  if book.durable.any (·.providerEnvironment ≠ report.fill.scope.providerEnvironment) then
    throw (.conflict
      "provider fill provider_environment does not match durable economic book")
  let instrument ← name report.expectedInstrument "expected_instrument"
  let settlement ← upper <$> name report.settlementCurrency "settlement_currency"
  checkFillScope provider book report.fill
  checkProjection report.projected report.fill allowCorrection
  if report.fill.instrument ≠ instrument then
    throw (.conflict "provider instrument does not match expected instrument")
  pure ⟨provider, settlement,
    providerFillAccountingEvidencePayload provider book report.projected report.fill⟩

/-- The call of `book_equity_fill` for a fill of the provider. -/
def bookFill (fill : ProviderFillEvidence) (settlement transactionId causeEventId : String)
    (effectiveAt : Option Timestamp) (orderKey : String) (observedAt : Option Timestamp)
    (corrects : Option String) : Except AccountingError JournalTransaction :=
  match fill.side with
  | none => .error (.valueError "side is required")
  | some side =>
      bookEquityFill transactionId causeEventId fill.instrument settlement side.name
        (.bounded fill.quantity.value) (.bounded fill.price.value)
        (.bounded fill.feeAmount.value) (some fill.feeCurrency) effectiveAt (some orderKey)
        observedAt corrects

/-- `build_provider_fill_transaction`. -/
def buildProviderFillTransaction (book : ScopedEconomicBook) (report : FillReport)
    (observedAt : Option Timestamp) : Except AccountingError JournalTransaction := do
  let validated ← validatedFillEvidence book report false
  let digest ← payloadHash (.obj validated.evidence)
  let orderKey ← economicOrderKey validated.provider report.fill.providerExecutionId
  let observed ← optionalUtcText observedAt "observed_at"
  bookFill report.fill validated.settlement ("provider-fill:" ++ digest)
    (fillCause validated.provider book.environment (providerDomain book report.fill)
      book.accountId report.fill.providerExecutionId)
    (some (.at report.fill.tradeTime.instant)) orderKey observed none

/-- `book_provider_fill`. -/
def bookProviderFill (book : ScopedEconomicBook) (report : FillReport)
    (observedAt : Option Timestamp) : Except AccountingError (EconomicBook × Bool) := do
  let transaction ← buildProviderFillTransaction book report observedAt
  book.book.append transaction.toInput

/-! ## Fills that reconciliation found -/

/-- An entry of `unexpected_provider_fill_bindings`. -/
structure FillBinding where
  providerExecutionId : String
  identity : List (String × Json Unit)
  identityDigest : String

/-- The fields of an `AccountReconciled` checkpoint that the builder reads. -/
structure Checkpoint where
  eventId : String
  payloadHash : String
  journalSequence : Int
  unexpectedExecutionIds : List String
  bindings : List FillBinding

/-- A digest of the form `sha256:` and 64 further characters. -/
def isDigest (digest : String) : Bool :=
  "sha256:".toList.isPrefixOf digest.toList && digest.length = 71

/-- The loop over the bindings: the identities so far and the binding of the
execution. -/
def checkBinding (execution : String) (found : List String × Option FillBinding)
    (binding : FillBinding) : Except AccountingError (List String × Option FillBinding) := do
  let id := strip binding.providerExecutionId
  if id = "" then
    throw (.conflict "reconciliation checkpoint provider fill binding identity is invalid")
  if id ∈ found.1 then
    throw (.conflict "reconciliation checkpoint provider fill bindings are not unique")
  let digest ← payloadHash (.obj binding.identity)
  if ¬ isDigest binding.identityDigest ∨ "sha256:" ++ digest ≠ binding.identityDigest ∨
      binding.identity.lookup "provider_execution_id" ≠ some (.str id) then
    throw (.conflict "reconciliation checkpoint provider fill binding integrity is invalid")
  pure (id :: found.1, if id = execution then some binding else found.2)

/-- `_current_unexpected_execution_checkpoint`: the digest of the fill's identity. -/
def currentUnexpectedExecutionCheckpoint (checkpoint : Checkpoint)
    (fill : ProviderFillEvidence) : Except AccountingError String := do
  let unexpected ← checkpoint.unexpectedExecutionIds.mapM (name · "unexpected_execution_id")
  if ¬ unexpected.Nodup then
    throw (.conflict "reconciliation checkpoint unexpected executions are not unique")
  if fill.providerExecutionId ∉ unexpected then
    throw (.conflict
      "provider execution is not proven unexpected by current reconciliation checkpoint")
  let found ← checkpoint.bindings.foldlM (checkBinding fill.providerExecutionId) ([], none)
  match found.2 with
  | none =>
      .error (.conflict
        "reconciliation checkpoint does not bind exact unexpected provider fill evidence")
  | some binding => do
    let identity := providerFillIdentityPayload fill
    let digest ← payloadHash (.obj identity)
    if binding.identityDigest ≠ "sha256:" ++ digest ∨
        (Json.obj binding.identity).normal ≠ (Json.obj identity).normal then
      throw (.conflict
        "provider fill does not match checkpoint-bound reconciliation evidence")
    if ¬ isDigest checkpoint.payloadHash then
      throw (.conflict "reconciliation checkpoint lacks canonical payload identity")
    if checkpoint.journalSequence ≤ 0 then
      throw (.conflict "reconciliation checkpoint lacks durable journal sequence")
    pure ("sha256:" ++ digest)

/-- The arguments of `build_unexpected_provider_fill_transaction`: whether the
store is the one of the book, and the current checkpoint in it. -/
structure UnexpectedFill where
  sharesStore : Bool
  checkpoint : Except AccountingError Checkpoint
  fill : ProviderFillEvidence
  expectedInstrument : String
  settlementCurrency : String

/-- The evidence of an external execution. -/
def unexpectedFillPayload (checkpoint : Checkpoint) (eventId identityDigest : String)
    (fill : ProviderFillEvidence) : List (String × Json Unit) :=
  [("schema_version", .str "1.1.0"),
    ("origin", .str "EXTERNAL_RECONCILED"),
    ("reconciliation_checkpoint_event_id", .str eventId),
    ("reconciliation_checkpoint_payload_hash", .str checkpoint.payloadHash),
    ("reconciliation_checkpoint_journal_sequence", .int checkpoint.journalSequence),
    ("reconciliation_provider_fill_identity_digest", .str identityDigest),
    ("provider_id", .str fill.scope.providerId),
    ("environment", .str fill.scope.environment.name),
    ("account_id", .str fill.scope.accountId),
    ("provider_execution_id", .str fill.providerExecutionId),
    ("client_order_id", textOrNull fill.clientOrderId)] ++
  fillPayload fill ++
  [("evidence_refs", .arr (fill.evidenceRefs.map .str))]

/-- `build_unexpected_provider_fill_transaction`.  Its cause has no provider
domain, whatever the provider environment is. -/
def buildUnexpectedProviderFillTransaction (book : ScopedEconomicBook)
    (args : UnexpectedFill) (observedAt : Option Timestamp) :
    Except AccountingError JournalTransaction := do
  if book.durable = none ∨ ¬ args.sharesStore then
    throw (.conflict ("unexpected provider fill requires the economic book and " ++
      "reconciliation checkpoint to share one JournalStore"))
  let checkpoint ← args.checkpoint
  let identityDigest ← currentUnexpectedExecutionCheckpoint checkpoint args.fill
  let eventId ← name checkpoint.eventId "checkpoint_event_id"
  let provider := args.fill.scope.providerId
  if book.accountId ≠ args.fill.scope.accountId ∨
      book.environment ≠ args.fill.scope.environment then
    throw (.conflict "unexpected provider fill scope does not match economic book")
  if book.durable.any (·.providerId ≠ provider) then
    throw (.conflict
      "unexpected provider fill provider scope does not match durable economic book")
  if args.fill.side = none then
    throw (.conflict "unexpected provider fill direction is not independently evidenced")
  if args.fill.positionSide ≠ none ∨ args.fill.positionEffect ≠ none then
    throw (.conflict
      "unexpected derivative-position fill requires leg-aware economic accounting")
  let instrument ← name args.expectedInstrument "expected_instrument"
  if args.fill.instrument ≠ instrument then
    throw (.conflict
      "unexpected provider fill instrument does not match expected instrument")
  let settlement ← upper <$> name args.settlementCurrency "settlement_currency"
  let digest ← payloadHash
    (.obj (unexpectedFillPayload checkpoint eventId identityDigest args.fill))
  let orderKey ← economicOrderKey provider args.fill.providerExecutionId
  let observed ← optionalUtcText observedAt "observed_at"
  bookFill args.fill settlement ("external-provider-fill:" ++ digest)
    (fillCause provider args.fill.scope.environment none args.fill.scope.accountId
      args.fill.providerExecutionId)
    (some (.at args.fill.tradeTime.instant)) orderKey observed none

/-- `book_unexpected_provider_fill`. -/
def bookUnexpectedProviderFill (book : ScopedEconomicBook) (args : UnexpectedFill)
    (observedAt : Option Timestamp) : Except AccountingError (EconomicBook × Bool) := do
  let transaction ← buildUnexpectedProviderFillTransaction book args observedAt
  book.book.append transaction.toInput

/-! ## Corrections and busts -/

/-- `_transaction_matches_provider_fill`. -/
def transactionMatchesProviderFill (transaction : JournalTransaction)
    (fill : ProviderFillEvidence) (settlement orderKey : String) :
    Except AccountingError Bool :=
  if fill.side = none then pure false
  else do
    let expected ← bookFill fill settlement transaction.transactionId transaction.causeEventId
      (transaction.economicEffectiveAt.map .at) orderKey (transaction.observedAt.map .at)
      transaction.correctsTransactionId
    pure (expected = transaction)

/-- `reverse_transaction`. -/
def reverseTransaction (original : JournalTransaction) (transactionId causeEventId : String)
    (observedAt : Instant) : Except AccountingError JournalTransaction := do
  validateTransaction original
  let id ← name transactionId "transaction_id"
  let cause ← name causeEventId "cause_event_id"
  let postings ← original.postings.mapM EconomicBook.negatedPosting
  let transaction : JournalTransaction :=
    ⟨id, cause, postings, some original.transactionId, original.economicEffectiveAt,
      original.economicOrderKey, some observedAt, none⟩
  validateTransaction transaction
  pure transaction

/-- The transactions of an order key that neither reverse nor are reversed. -/
def activeFacts (book : EconomicBook) (orderKey : String) : List JournalTransaction :=
  book.transactions.filter fun item =>
    item.economicOrderKey = some orderKey && isActive book.transactions item

/-- The arguments of `build_provider_fill_correction_transactions`; the original
and the corrected report share the provider, instrument and currency. -/
structure FillCorrection where
  original : FillReport
  correctedProjected : ProjectedFillEvidence
  correctedFill : ProviderFillEvidence
  observedAt : Timestamp

/-- The report of the corrected fill. -/
def FillCorrection.corrected (args : FillCorrection) : FillReport :=
  { args.original with projected := args.correctedProjected, fill := args.correctedFill }

/-- The comparisons of the corrected with the original fill. -/
def checkCorrectionIdentity (args : FillCorrection) : Except AccountingError Unit :=
  let original := args.original.projected
  let corrected := args.correctedProjected
  if corrected.providerExecutionId ≠ original.providerExecutionId then
    .error (.conflict "correction provider execution identity changed")
  else if corrected.intentId ≠ original.intentId then
    .error (.conflict "correction intent identity changed")
  else if corrected.clientOrderId ≠ original.clientOrderId then
    .error (.conflict "correction client order identity changed")
  else if corrected.side ≠ original.side then
    .error (.conflict "correction side changed")
  else if args.correctedFill.positionSide ≠ args.original.fill.positionSide then
    .error (.conflict "correction provider position_side changed")
  else .ok ()

/-- The digest that names a correction of one transaction. -/
def correctionDigest (book : ScopedEconomicBook) (provider : String)
    (correctionOf : Option String) (observation : Instant) (originalTransactionId : String)
    (original corrected : List (String × Json Unit)) : Except AccountingError String :=
  payloadHash (.obj [("schema_version", .str "1.1.0"),
    ("provider_id", .str provider),
    ("environment", .str book.environment.name),
    ("account_id", .str book.accountId),
    ("correction_of", textOrNull correctionOf),
    ("correction_observed_at", .str observation.utcText),
    ("original_transaction_id", .str originalTransactionId),
    ("original", .obj original),
    ("corrected", .obj (corrected ++ [("correction_of", textOrNull correctionOf)]))])

/-- `cause_prefix`, which has no provider domain. -/
def compensationCause (book : ScopedEconomicBook) (provider kind digest : String) : String :=
  "provider:" ++ provider ++ ":environment:" ++ book.environment.name ++ ":account:" ++
    book.accountId ++ ":" ++ kind ++ ":" ++ digest

/-- The transactions of a correction that is already in force. -/
def committedCorrection (book : ScopedEconomicBook) (args : FillCorrection)
    (original corrected : ValidatedFill) (observation : Instant) (orderKey : String)
    (replacement : JournalTransaction) :
    Except AccountingError (JournalTransaction × JournalTransaction) := do
  match replacement.correctsTransactionId with
  | none =>
      .error (.conflict "active corrected economics lacks immutable correction lineage")
  | some correctedId =>
      match book.book.transactions.find? (·.transactionId = correctedId),
          book.book.transactions.find? (·.reversesTransactionId = some correctedId) with
      | some prior, some reversal => do
          if reversal.observedAt ≠ some observation ∨
              replacement.observedAt ≠ some observation then
            throw (.conflict "existing correction lineage conflicts with supplied evidence")
          let matching ← transactionMatchesProviderFill prior args.original.fill
            original.settlement orderKey
          if ¬ matching then
            throw (.conflict "existing correction lineage conflicts with supplied evidence")
          let digest ← correctionDigest book original.provider
            args.correctedProjected.correctionOf observation prior.transactionId
            original.evidence corrected.evidence
          let cause := compensationCause book original.provider "correction" digest
          if reversal.transactionId ≠ "provider-fill-correction-reversal:" ++ digest ∨
              reversal.causeEventId ≠ cause ++ ":reversal" ∨
              replacement.transactionId ≠ "provider-fill-correction-replacement:" ++ digest ∨
              replacement.causeEventId ≠ cause ++ ":replacement" then
            throw (.conflict
              "existing correction lineage conflicts with immutable correction evidence")
          pure (reversal, replacement)
      | _, _ =>
          .error (.conflict "existing correction lineage conflicts with supplied evidence")

/-- The transactions of a new correction of an active one. -/
def newCorrection (book : ScopedEconomicBook) (args : FillCorrection)
    (original corrected : ValidatedFill) (observation : Instant) (orderKey : String)
    (committed : JournalTransaction) :
    Except AccountingError (JournalTransaction × JournalTransaction) := do
  let matching ← transactionMatchesProviderFill committed args.original.fill
    original.settlement orderKey
  if ¬ matching then
    throw (.conflict "original provider fill evidence conflicts with ledger")
  let digest ← correctionDigest book original.provider args.correctedProjected.correctionOf
    observation committed.transactionId original.evidence corrected.evidence
  let cause := compensationCause book original.provider "correction" digest
  let reversal ← reverseTransaction committed ("provider-fill-correction-reversal:" ++ digest)
    (cause ++ ":reversal") observation
  let replacement ← bookFill { args.correctedFill with side := some args.correctedProjected.side }
    original.settlement ("provider-fill-correction-replacement:" ++ digest)
    (cause ++ ":replacement") (committed.economicEffectiveAt.map .at) orderKey
    (some (.at observation)) (some committed.transactionId)
  pure (reversal, replacement)

/-- `build_provider_fill_correction_transactions`. -/
def buildProviderFillCorrectionTransactions (book : ScopedEconomicBook)
    (args : FillCorrection) :
    Except AccountingError (JournalTransaction × JournalTransaction) := do
  if args.correctedProjected.correctionOf ≠ some args.original.projected.fillId then
    throw (.conflict "corrected fill does not identify the original fill")
  if args.correctedProjected.fillId = args.original.projected.fillId then
    throw (.conflict "corrected fill_id must differ from original fill_id")
  let original ← validatedFillEvidence book args.original
    args.original.projected.correctionOf.isSome
  let corrected ← validatedFillEvidence book args.corrected true
  checkCorrectionIdentity args
  let observation ← utcText args.observedAt "correction_observed_at"
  let orderKey ← economicOrderKey original.provider args.original.fill.providerExecutionId
  match activeFacts book.book orderKey with
  | [committed] => do
      let matching ← transactionMatchesProviderFill committed args.correctedFill
        original.settlement orderKey
      if matching then
        committedCorrection book args original corrected observation orderKey committed
      else newCorrection book args original corrected observation orderKey committed
  | _ =>
      .error (.conflict
        "original provider fill has not been booked as one active economic fact")

/-- `book_provider_fill_correction`. -/
def bookProviderFillCorrection (book : ScopedEconomicBook) (args : FillCorrection) :
    Except AccountingError (EconomicBook × Bool) := do
  let (reversal, replacement) ← buildProviderFillCorrectionTransactions book args
  book.book.appendBatch [reversal.toInput, replacement.toInput]

/-- The arguments of `build_provider_fill_bust_transaction`. -/
structure FillBust where
  report : FillReport
  bustProviderRevision : String
  bustObservedAt : Timestamp

/-- `expected_reversal`. -/
def expectedReversal (book : ScopedEconomicBook) (args : FillBust) (validated : ValidatedFill)
    (revision : String) (observation : Instant) (source : JournalTransaction) :
    Except AccountingError JournalTransaction := do
  let digest ← payloadHash (.obj [("schema_version", .str "1.0.0"),
    ("provider_id", .str validated.provider),
    ("environment", .str book.environment.name),
    ("account_id", .str book.accountId),
    ("provider_execution_id", .str args.report.fill.providerExecutionId),
    ("fill_id", .str args.report.projected.fillId),
    ("correction_of", textOrNull args.report.projected.correctionOf),
    ("bust_provider_revision", .str revision),
    ("bust_observed_at", .str observation.utcText),
    ("source_transaction_id", .str source.transactionId),
    ("active_fill", .obj validated.evidence)])
  reverseTransaction source ("provider-fill-bust-reversal:" ++ digest)
    (compensationCause book validated.provider "bust" digest ++ ":reversal") observation

/-- Whether a transaction is a candidate for a bust of a fill. -/
def isBustCandidate (args : FillBust) (settlement orderKey : String)
    (item : JournalTransaction) : Except AccountingError Bool :=
  if item.reversesTransactionId = none ∧ item.economicOrderKey = some orderKey ∧
      args.report.projected.correctionOf.isSome = item.correctsTransactionId.isSome then
    transactionMatchesProviderFill item args.report.fill settlement orderKey
  else pure false

/-- The retry of a bust: the reversals that are already committed. -/
def committedBusts (book : EconomicBook)
    (expected : JournalTransaction → Except AccountingError JournalTransaction)
    (candidates : List JournalTransaction) : Except AccountingError (List JournalTransaction) := do
  let found ← candidates.mapM fun source => do
    let reversal ← expected source
    match book.transactions.find? (·.transactionId = reversal.transactionId) with
    | none => pure none
    | some existing =>
        if existing ≠ reversal then
          throw (.conflict
            "existing fill bust reversal conflicts with immutable bust evidence")
        pure (some existing)
  pure (found.filterMap id)

/-- `build_provider_fill_bust_transaction`. -/
def buildProviderFillBustTransaction (book : ScopedEconomicBook) (args : FillBust) :
    Except AccountingError JournalTransaction := do
  let validated ← validatedFillEvidence book args.report
    args.report.projected.correctionOf.isSome
  let revision ← name args.bustProviderRevision "bust_provider_revision"
  if args.report.projected.providerRevision = some revision then
    throw (.conflict
      "fill bust requires a provider revision distinct from the active fill")
  let observation ← utcText args.bustObservedAt "bust_observed_at"
  let orderKey ← economicOrderKey validated.provider args.report.fill.providerExecutionId
  let matching ← book.book.transactions.mapM fun item => do
    let candidate ← isBustCandidate args validated.settlement orderKey item
    pure (if candidate then some item else none)
  let candidates := matching.filterMap id
  if candidates = [] then
    throw (.conflict
      "provider fill bust evidence does not match any canonical economic fact")
  let expected := expectedReversal book args validated revision observation
  match candidates.filter (·.transactionId ∉ reversedIds book.book.transactions) with
  | [active] => expected active
  | _ :: _ =>
      .error (.conflict "provider execution has multiple active economic facts during bust")
  | [] => do
      match ← committedBusts book.book expected candidates with
      | [replay] => pure replay
      | _ :: _ =>
          .error (.conflict
            "provider fill bust evidence resolves to multiple reversal lineages")
      | [] =>
          .error (.conflict
            "provider fill is already inactive without the supplied bust lineage")

end Builders

end AutoTrade.Accounting
