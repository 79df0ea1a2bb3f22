import AutoTrade.Lib.Dict
import AutoTrade.Lib.Raise
import AutoTrade.Lib.Text
import AutoTrade.Lib.Time
import AutoTrade.Numeric.Presentation

/-!
# Provider evidence

The evidence records of `reconciliation.py` with their constructors: provider
fills, working orders, account activities, coverage windows, the snapshot cut
and local submissions of unknown outcome.

A record is built by its constructor only, so the `_snapshot_*` functions, which
rebuild a record and compare it with the original, return it unchanged.
-/

namespace AutoTrade.Reconciliation

open Lib Numeric

/-- The exceptions of a reconciliation call. -/
inductive ReconciliationError where
  | valueError (message : String)
  | typeError (message : String)
  | exactDecimal (error : ExactDecimalError)
  deriving DecidableEq, Repr

/-! ## Scalars -/

/-- `_decimal`. -/
def decimal (value : PresentedInput) (name : String) : Except ReconciliationError Presented :=
  match value with
  | .inexact => .error (.typeError s!"{name} must use Decimal, string or integer input")
  | value =>
      (presentBoundedExactDecimal value true).mapError fun _ =>
        .valueError s!"{name} must be a finite bounded decimal"

/-- `_text`. -/
def text (value name : String) : Except ReconciliationError String :=
  if strip value = "" then .error (.valueError s!"{name} is required")
  else .ok (strip value)

/-- `_text` on an argument that may be `None`. -/
def optionalText (value : Option String) (name : String) :
    Except ReconciliationError (Option String) :=
  match value with
  | none => .ok none
  | some value => some <$> text value name

inductive Environment where
  | replay
  | simulation
  | paper
  | live
  deriving DecidableEq, Repr

namespace Environment

def name : Environment → String
  | replay => "REPLAY"
  | simulation => "SIMULATION"
  | paper => "PAPER"
  | live => "LIVE"

end Environment

/-- `_environment`. -/
def environment [CaseMap] (value : String) : Except ReconciliationError Environment := do
  let normalized ← upper <$> text value "environment"
  match [Environment.replay, .simulation, .paper, .live].find? (·.name = normalized) with
  | some environment => pure environment
  | none =>
      .error (.valueError "environment must be one of LIVE, PAPER, REPLAY, SIMULATION")

/-- `_provider_environment` on a normal provider and environment. -/
def providerEnvironment [CaseMap] (provider : String) (runtime : Environment)
    (value : Option String) : Except ReconciliationError String := do
  if provider = "BYBIT" ∧ value = none then
    throw (.valueError "BYBIT provider evidence requires explicit provider_environment")
  let normalized ← match value with
    | none => pure runtime.name
    | some value => upper <$> text value "provider_environment"
  if provider = "BYBIT" ∧ normalized ∉ ["MAINNET", "TESTNET", "DEMO"] then
    throw (.valueError "BYBIT provider_environment must be MAINNET, TESTNET or DEMO")
  if provider = "BYBIT" ∧
      runtime ≠ (if normalized = "MAINNET" then Environment.live else .paper) then
    throw (.valueError "BYBIT provider_environment does not match runtime environment")
  pure normalized

/-- The four scope fields every evidence record carries. -/
structure AccountScope where
  providerId : String
  accountId : String
  environment : Environment
  providerEnvironment : String
  deriving DecidableEq, Repr

/-- The scope part of the constructors. -/
def AccountScope.create [CaseMap] (providerId accountId environmentText : String)
    (providerEnvironmentText : Option String) : Except ReconciliationError AccountScope := do
  let provider ← upper <$> text providerId "provider_id"
  let account ← text accountId "account_id"
  let runtime ← Reconciliation.environment environmentText
  let domain ← Reconciliation.providerEnvironment provider runtime providerEnvironmentText
  pure ⟨provider, account, runtime, domain⟩

/-- `datetime.fromisoformat` on a text with `Z` for the zero offset, where the
result has a time zone. -/
class IsoFormat where
  parse : String → Option Instant

/-- The number a text of decimal digits denotes. -/
def digitsValue (digits : List Char) : Option Int :=
  if digits.all Char.isDigit then
    some (digits.foldl (fun total digit => total * 10 + (digit.toNat - '0'.toNat)) 0)
  else none

/-- The days from 1970-01-01 to a date of the proleptic Gregorian calendar. -/
def dayNumber (year month day : Int) : Date :=
  let year := if month ≤ 2 then year - 1 else year
  let era := year / 400
  let yearOfEra := year - era * 400
  let dayOfYear := (153 * ((month + 9) % 12) + 2) / 5 + day - 1
  era * 146097 + (yearOfEra * 365 + yearOfEra / 4 - yearOfEra / 100 + dayOfYear) - 719468

/-- The texts `YYYY-MM-DDThh:mm:ssZ` of the first 28 days of each month, for
evaluation. -/
@[reducible] def IsoFormat.seconds : IsoFormat where
  parse text := do
    let [y₁, y₂, y₃, y₄, '-', m₁, m₂, '-', d₁, d₂, 'T', h₁, h₂, ':', n₁, n₂, ':', s₁, s₂, 'Z'] :=
      text.toList | none
    let year ← digitsValue [y₁, y₂, y₃, y₄]
    let month ← digitsValue [m₁, m₂]
    let day ← digitsValue [d₁, d₂]
    let hour ← digitsValue [h₁, h₂]
    let minute ← digitsValue [n₁, n₂]
    let second ← digitsValue [s₁, s₂]
    if 1 ≤ year ∧ 1 ≤ month ∧ month ≤ 12 ∧ 1 ≤ day ∧ day ≤ 28 ∧ hour < 24 ∧ minute < 60 ∧
        second < 60 then
      some ⟨(dayNumber year month day * 86400 + hour * 3600 + minute * 60 + second) * 1000000⟩
    else none

/-- A timestamp text and the instant `_instant` reads from it. -/
structure TimeText where
  text : String
  instant : Instant
  deriving DecidableEq, Repr

/-- `_instant`; the text itself is kept as it was given. -/
def timeText [IsoFormat] (value name : String) : Except ReconciliationError TimeText := do
  let stripped ← text value name
  match IsoFormat.parse stripped with
  | some instant => pure ⟨value, instant⟩
  | none => .error (.valueError s!"{name} must be an ISO timestamp with timezone")

/-! ## Coverage and the snapshot cut -/

structure CoverageSurfaceEvidence where
  scope : AccountScope
  surface : String
  coverageStart : Instant
  coverageEnd : Instant
  paginationComplete : Bool
  consistencyHorizonSatisfied : Bool
  providerSemanticsExcludeExecution : Bool
  ordered : coverageStart ≤ coverageEnd
  deriving DecidableEq

namespace CoverageSurfaceEvidence

/-- `proves_complete_window`. -/
def provesCompleteWindow (evidence : CoverageSurfaceEvidence) (start finish : Instant) : Bool :=
  evidence.paginationComplete && evidence.consistencyHorizonSatisfied &&
    (evidence.coverageStart ≤ start && start ≤ finish && finish ≤ evidence.coverageEnd)

end CoverageSurfaceEvidence

inductive SnapshotMode where
  | atomic
  | composed
  deriving DecidableEq, Repr

structure SnapshotConsistencyEvidence where
  scope : AccountScope
  mode : SnapshotMode
  queryStartedAt : TimeText
  queryCompletedAt : TimeText
  bufferedStreamEvents : Bool
  replayComplete : Bool
  sequenceGapDetected : Bool
  ordered : queryStartedAt.instant ≤ queryCompletedAt.instant
  deriving DecidableEq

namespace SnapshotConsistencyEvidence

/-- `consistent`. -/
def consistent (evidence : SnapshotConsistencyEvidence) : Bool :=
  match evidence.mode with
  | .atomic => !evidence.sequenceGapDetected
  | .composed =>
      evidence.bufferedStreamEvents && evidence.replayComplete && !evidence.sequenceGapDetected

end SnapshotConsistencyEvidence

/-- `ResourceAvailabilityEvidence`, with the fields that reconciliation reads. -/
structure ResourceAvailabilityEvidence where
  scope : AccountScope
  queryStartedAt : TimeText
  queryCompletedAt : TimeText
  availableResources : Dict String Decimal
  resourceDetails : Dict String (Dict String String)
  deriving DecidableEq

/-! ## Fills -/

inductive Side where
  | buy
  | sell
  deriving DecidableEq, Repr

def Side.name : Side → String
  | buy => "BUY"
  | sell => "SELL"

inductive PositionSide where
  | both
  | long
  | short
  deriving DecidableEq, Repr

def PositionSide.name : PositionSide → String
  | both => "BOTH"
  | long => "LONG"
  | short => "SHORT"

inductive PositionEffect where
  | opening
  | reducing
  deriving DecidableEq, Repr

def PositionEffect.name : PositionEffect → String
  | opening => "OPEN"
  | reducing => "REDUCE"

/-- A text argument that names a member of an enumeration, or `None`. -/
def optionalMember {α : Type} [CaseMap] (value : Option String) (name message : String)
    (members : List α) (memberName : α → String) : Except ReconciliationError (Option α) :=
  match value with
  | none => .ok none
  | some value => do
    let normalized ← upper <$> text value name
    match members.find? (memberName · = normalized) with
    | some member => pure (some member)
    | none => .error (.valueError message)

@[ext] structure ProviderFillEvidence where
  scope : AccountScope
  providerExecutionId : String
  clientOrderId : Option String
  instrument : String
  quantity : Presented
  price : Presented
  feeAmount : Presented
  feeCurrency : String
  tradeTime : TimeText
  side : Option Side
  positionSide : Option PositionSide
  positionEffect : Option PositionEffect
  evidenceRefs : List String
  identified : Normal providerExecutionId
  positiveQuantity : 0 < quantity.value
  positivePrice : 0 < price.value
  distinctRefs : evidenceRefs.Nodup

instance : DecidableEq ProviderFillEvidence := fun _ _ =>
  decidable_of_iff _ ProviderFillEvidence.ext_iff.symm

namespace ProviderFillEvidence

/-- `ProviderFillEvidence(...)`. -/
def create [CaseMap] [IsoFormat] (scope : AccountScope) (providerExecutionId : String)
    (clientOrderId : Option String) (instrument : String)
    (quantity price feeAmount : PresentedInput) (feeCurrency tradeTime : String)
    (side positionSide positionEffect : Option String) (evidenceRefs : List String) :
    Except ReconciliationError ProviderFillEvidence := do
  let quantity ← decimal quantity "quantity"
  let price ← decimal price "price"
  let feeAmount ← decimal feeAmount "fee_amount"
  if nonpositive : quantity.value ≤ 0 ∨ price.value ≤ 0 then
    throw (.valueError "quantity and price must be positive")
  else
    let tradeTime ← timeText tradeTime "trade_time"
    if unidentified : strip providerExecutionId = "" then
      throw (.valueError "provider_execution_id is required")
    else
      let clientOrderId ← optionalText clientOrderId "client_order_id"
      let instrument ← text instrument "instrument"
      let feeCurrency ← upper <$> text feeCurrency "fee_currency"
      let side ← optionalMember side "side"
        "side must be BUY or SELL when provider-evidenced" [.buy, .sell] Side.name
      let positionSide ← optionalMember positionSide "position_side"
        "position_side must be BOTH, LONG or SHORT when provider-evidenced"
        [.both, .long, .short] PositionSide.name
      let positionEffect ← optionalMember positionEffect "position_effect"
        "position_effect must be OPEN or REDUCE when provider-evidenced"
        [.opening, .reducing] PositionEffect.name
      let refs ← evidenceRefs.mapM (text · "evidence_ref")
      if repeated : ¬ refs.Nodup then throw (.valueError "evidence_refs must be unique")
      else
        pure {
          scope, clientOrderId, instrument, quantity, price, feeAmount, feeCurrency, tradeTime,
          side, positionSide, positionEffect
          providerExecutionId := strip providerExecutionId
          evidenceRefs := refs
          identified := normal_strip unidentified
          positiveQuantity := Decimal.lt_def.mpr
            (lt_of_not_ge fun below => nonpositive (.inl below))
          positivePrice := Decimal.lt_def.mpr
            (lt_of_not_ge fun below => nonpositive (.inr below))
          distinctRefs := not_not.mp repeated }

/-- `provider_fill_identity_payload`: amounts are written by value, the trade
time by its instant and the references in sorted order. -/
structure Identity where
  scope : AccountScope
  providerExecutionId : String
  clientOrderId : Option String
  instrument : String
  side : Option Side
  positionSide : Option PositionSide
  positionEffect : Option PositionEffect
  quantity : Decimal
  price : Decimal
  feeAmount : Decimal
  feeCurrency : String
  tradeTime : Instant
  evidenceRefs : List String
  deriving DecidableEq

def identity (fill : ProviderFillEvidence) : Identity where
  scope := fill.scope
  providerExecutionId := fill.providerExecutionId
  clientOrderId := fill.clientOrderId
  instrument := fill.instrument
  side := fill.side
  positionSide := fill.positionSide
  positionEffect := fill.positionEffect
  quantity := fill.quantity.value
  price := fill.price.value
  feeAmount := fill.feeAmount.value
  feeCurrency := fill.feeCurrency
  tradeTime := fill.tradeTime.instant
  evidenceRefs := fill.evidenceRefs.insertionSort (· ≤ ·)

/-- `_provider_fill_reconciliation_ingress_errors`. -/
def ingressErrors (fill : ProviderFillEvidence) : List String :=
  (if fill.side = none then ["provider execution direction is not evidenced"] else []) ++
  (if fill.evidenceRefs = [] then ["provider execution provenance reference is absent"]
    else []) ++
  (if fill.positionEffect ≠ none ∧ fill.positionSide = none then
    ["provider position effect lacks position side"] else []) ++
  (if fill.positionSide ∈ [some .long, some .short] ∧ fill.positionEffect = none then
    ["provider hedge-leg position side lacks position effect"] else [])

end ProviderFillEvidence

/-! ## Working orders, activities and submissions -/

structure ProviderWorkingOrderEvidence where
  scope : AccountScope
  providerOrderId : String
  clientOrderId : Option String
  instrument : String
  remainingQuantity : Decimal
  deriving DecidableEq, Repr

inductive ActivityOrigin where
  | autotrade
  | manual
  | external
  | unknown
  deriving DecidableEq, Repr

structure ProviderActivityEvidence where
  scope : AccountScope
  activityId : String
  activityType : String
  origin : ActivityOrigin
  occurredAt : Instant
  instrument : Option String
  currency : Option String
  clientOrderId : Option String
  providerOrderId : Option String
  providerExecutionId : Option String
  signedAmount : Option Decimal
  deriving DecidableEq, Repr

structure UnknownSubmission where
  attemptId : String
  intentId : String
  clientOrderId : String
  scope : AccountScope
  startedAt : TimeText
  deriving DecidableEq, Repr

end AutoTrade.Reconciliation
