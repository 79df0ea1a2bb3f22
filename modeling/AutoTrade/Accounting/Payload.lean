import AutoTrade.Accounting.Integrity
import AutoTrade.Numeric.Amount
import AutoTrade.Store.Envelope

/-!
# Canonical transaction payloads

`canonical_transaction`, its digest, and the reader of durable payloads.  An
instant stands for its canonical text.  `_transaction_from_payload` compares what
it reads with `canonical_transaction`, so an amount that only the constructor of
`Decimal` would read is refused as well.
-/

namespace AutoTrade.Accounting

open Lib Numeric

/-- A posting of a durable payload. -/
structure PostingPayload where
  ledgerAccount : String
  assetOrCurrency : String
  signedAmount : String
  deriving DecidableEq, Repr

/-- The canonical transaction shape of schema version 1.2.0. -/
structure TransactionPayload where
  transactionId : String
  causeEventId : String
  reversesTransactionId : Option String
  economicEffectiveAt : Option Instant
  economicOrderKey : Option String
  observedAt : Option Instant
  correctsTransactionId : Option String
  postings : List PostingPayload
  deriving DecidableEq, Repr

/-! ## Writing -/

/-- `_canonical_decimal`. -/
def canonicalDecimal (value : Decimal) : Except AccountingError String :=
  value.canonicalText.mapError fun _ =>
    .valueError "signed_amount exceeds exact decimal resource envelope"

/-- The payload of a normal posting. -/
def Posting.payload (item : Posting) : Except AccountingError PostingPayload :=
  PostingPayload.mk item.ledgerAccount item.assetOrCurrency <$> canonicalDecimal item.signedAmount

namespace JournalTransaction

/-- The payload of a transaction with the payloads of its postings. -/
def members (transaction : JournalTransaction) (postings : List PostingPayload) :
    TransactionPayload where
  transactionId := transaction.transactionId
  causeEventId := transaction.causeEventId
  reversesTransactionId := transaction.reversesTransactionId
  economicEffectiveAt := transaction.economicEffectiveAt
  economicOrderKey := transaction.economicOrderKey
  observedAt := transaction.observedAt
  correctsTransactionId := transaction.correctsTransactionId
  postings := postings

/-- `canonical_transaction` of a normal transaction. -/
def payload (transaction : JournalTransaction) : Except AccountingError TransactionPayload := do
  validateTransaction transaction
  let postings ← transaction.postings.mapM Posting.payload
  pure (transaction.members postings)

end JournalTransaction

/-- `canonical_transaction`. -/
def canonicalTransaction (input : TransactionInput) :
    Except AccountingError TransactionPayload := do
  let normalized ← normalizedTransaction input
  normalized.payload

/-! ## Reading -/

/-! ## Round trip -/

theorem name_of_normal {value : String} (normal : Normal value) (field : String) :
    name value field = .ok value := by
  rw [name, normal.1, if_neg normal.2]

namespace JournalTransaction

variable {transaction : JournalTransaction}

end JournalTransaction

/-! ## Digests -/

/-- `payload_digest` of a value without numbers, which is always written. -/
def jsonDigest [Fingerprint] (value : Json Unit) : String :=
  letI := FloatText.none
  Store.textDigest (String.ofList value.normal.write)

/-- A text or `null`. -/
def optionalJson (value : Option String) : Json Unit := (value.map Json.str).getD .null

def PostingPayload.json (item : PostingPayload) : Json Unit :=
  .obj [("ledger_account", .str item.ledgerAccount),
    ("asset_or_currency", .str item.assetOrCurrency),
    ("signed_amount", .str item.signedAmount)]

def TransactionPayload.json (payload : TransactionPayload) : Json Unit :=
  .obj [("schema_version", .str "1.2.0"),
    ("transaction_id", .str payload.transactionId),
    ("cause_event_id", .str payload.causeEventId),
    ("reverses_transaction_id", optionalJson payload.reversesTransactionId),
    ("economic_effective_at", optionalJson (payload.economicEffectiveAt.map Instant.utcText)),
    ("economic_order_key", optionalJson payload.economicOrderKey),
    ("observed_at", optionalJson (payload.observedAt.map Instant.utcText)),
    ("corrects_transaction_id", optionalJson payload.correctsTransactionId),
    ("postings", .arr (payload.postings.map PostingPayload.json))]

section Digests

variable [Fingerprint]

end Digests

end AutoTrade.Accounting
