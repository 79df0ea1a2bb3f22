import AutoTrade.Lib.Dict
import AutoTrade.Lib.Raise
import AutoTrade.Lib.Text
import AutoTrade.Lib.Time
import AutoTrade.Numeric.ExactDecimal
import Mathlib.Data.List.Induction
import Mathlib.Data.Prod.Lex

/-!
# Futures settlement evidence

The executable model of the settlement part of `futures`: the contract and its
canonical instrument, immutable settlement observations, the validation of a
whole history and the admission of one observation.
-/

namespace AutoTrade.Futures

open Lib Numeric

/-- `FuturesError`. -/
structure FuturesError where
  message : String
  deriving DecidableEq, Repr

/-- `_decimal`. -/
def decimal (value : DecimalInput) (name : String) (positive : Bool) :
    Except FuturesError Decimal := do
  let result ← (parseBoundedExactDecimal value true).mapError fun _ =>
    ⟨s!"{name} must be a bounded finite exact decimal"⟩
  if positive ∧ result ≤ 0 then .error ⟨s!"{name} must be positive"⟩
  else pure result

/-- An exact operation on decimals. -/
def exact (computation : Except ExactDecimalError Decimal) : Except FuturesError Decimal :=
  computation.mapError fun _ =>
    ⟨"futures exact arithmetic exceeds the shared resource envelope"⟩

/-- `_bounded_fraction`. -/
def bounded (value : ℚ) : Except FuturesError ℚ :=
  (boundedFraction value).mapError fun _ =>
    ⟨"futures exact rational exceeds the shared resource envelope"⟩

theorem decimal_positive {value : DecimalInput} {name : String} {result : Decimal}
    (success : decimal value name true = .ok result) : 0 < result := by
  simp only [decimal, bind_eq_ok, guard_eq_ok, true_and, pure_eq_ok] at success
  obtain ⟨parsed, -, above, rfl⟩ := success
  rw [Decimal.lt_def]
  exact lt_of_not_ge above

theorem bounded_eq {value result : ℚ} (success : bounded value = .ok result) :
    result = value :=
  boundedFraction_eq (mapError_eq_ok.mp success)

/-! ## Contracts -/

/-- `payoff`. -/
inductive Payoff where
  | linear
  | inverse
  deriving DecidableEq, Repr

/-- `instruments.InstrumentVersion`, with the fields that settlement reads. -/
structure InstrumentVersion where
  instrumentId : String
  version : Nat
  providerId : String
  assetClass : String
  payoff : Option Payoff
  baseCurrency : String
  quoteCurrency : String
  settlementCurrency : String
  contractMultiplier : Decimal
  quantityStep : Decimal
  effectiveFrom : Instant
  effectiveTo : Option Instant
  deriving DecidableEq, Repr

/-- `InstrumentVersion.contains`. -/
def InstrumentVersion.contains (version : InstrumentVersion) (instant : Instant) : Bool :=
  version.effectiveFrom ≤ instant && version.effectiveTo.all (instant < ·)

structure FuturesContract where
  instrument : String
  payoff : Payoff
  multiplier : Decimal
  quoteCurrency : String
  settlementCurrency : String
  priceBaseCurrency : Option String
  canonicalInstrument : Option InstrumentVersion
  deriving DecidableEq, Repr

/-- `_require_contract_quantity`. -/
def requireContractQuantity (contract : FuturesContract) (quantity : Decimal) :
    Except FuturesError Unit :=
  match contract.canonicalInstrument with
  | none => .ok ()
  | some version => do
    let quantum ← decimal (.bounded version.quantityStep) "quantity_step" true
    let units := quantity.toRat / quantum.toRat
    (validateFractionIntermediate units).mapError fun _ =>
      ⟨"lifecycle quantity exceeds exact numeric envelope"⟩
    if units.den ≠ 1 then
      .error ⟨"signed_contracts must be an exact multiple of instrument quantity_step"⟩
    else .ok ()

/-! ## Settlement observations -/

/-- `environment`. -/
inductive Environment where
  | replay
  | simulation
  | paper
  | live
  deriving DecidableEq, Repr

/-- The provider fields of a settlement scope come together. -/
structure ProviderScope where
  providerId : String
  accountId : String
  environment : Environment
  deriving DecidableEq, Repr

structure FuturesSettlementScope where
  sourceId : String
  provider : Option ProviderScope
  deriving DecidableEq, Repr

/-- An observation of a settlement period.  The fields `initial` and `positive`
are the checks of `__post_init__` that relate fields. -/
structure FuturesSettlementEvidence where
  settlementId : String
  observationId : String
  instrumentId : String
  instrumentVersion : Nat
  scope : FuturesSettlementScope
  effectiveAt : Instant
  sequence : Nat
  revision : Nat
  settlementPrice : Decimal
  priceCurrency : String
  settlementCurrency : String
  evidenceRef : Option String
  supersedesObservationId : Option String
  initial : revision = 0 ↔ supersedesObservationId = none
  positive : 0 < settlementPrice
  deriving DecidableEq

namespace FuturesSettlementEvidence

/-- `order_key`. -/
def orderKey (evidence : FuturesSettlementEvidence) : Lex (Instant × Nat) :=
  toLex (evidence.effectiveAt, evidence.sequence)

end FuturesSettlementEvidence

/-- `_require_settlement_contract`. -/
def requireSettlementContract (contract : FuturesContract) (scope : FuturesSettlementScope)
    (evidence : FuturesSettlementEvidence) : Except FuturesError Unit :=
  match contract.canonicalInstrument with
  | none => .error ⟨"settlement economics require canonical InstrumentVersion binding"⟩
  | some version =>
    if evidence.instrumentId ≠ version.instrumentId ∨
        evidence.instrumentVersion ≠ version.version then
      .error ⟨"settlement instrument/version does not match state"⟩
    else if evidence.scope ≠ scope then
      .error ⟨"settlement provider/account/environment/source scope mismatch"⟩
    else if scope.provider.any (·.providerId ≠ version.providerId) then
      .error ⟨"settlement provider does not match canonical InstrumentVersion"⟩
    else if !version.contains evidence.effectiveAt then
      .error ⟨"settlement effective time is outside InstrumentVersion"⟩
    else if evidence.priceCurrency ≠ contract.quoteCurrency then
      .error ⟨"settlement price currency does not match contract"⟩
    else if evidence.settlementCurrency ≠ contract.settlementCurrency then
      .error ⟨"settlement currency does not match contract"⟩
    else .ok ()

/-! ## The validation of a history -/

/-- The local variables of `_validate_settlement_history`. -/
structure HistoryCursor where
  seenObservations : List String
  latestByPeriod : Dict String FuturesSettlementEvidence
  previous : Option FuturesSettlementEvidence

/-- The comparison of an observation with the ones before it in
`_validate_settlement_history`.  The latest observation of a period is `previous`
exactly when the two are equal. -/
def checkOrder (cursor : HistoryCursor) (evidence : FuturesSettlementEvidence) :
    Except FuturesError Unit :=
  match cursor.latestByPeriod.get? evidence.settlementId with
  | none =>
    if evidence.revision ≠ 0 ∨ evidence.supersedesObservationId.isSome then
      .error ⟨"new settlement period must start at revision 0"⟩
    else if cursor.previous.any (evidence.orderKey ≤ ·.orderKey) then
      .error ⟨"settlement history is not strictly ordered"⟩
    else .ok ()
  | some priorPeriod =>
    if cursor.previous ≠ some priorPeriod then
      .error ⟨"correction of a non-latest settlement period is unsupported"⟩
    else if evidence.orderKey ≠ priorPeriod.orderKey then
      .error ⟨"settlement correction cannot change period ordering"⟩
    else if evidence.revision ≠ priorPeriod.revision + 1 then
      .error ⟨"settlement correction revision must be consecutive"⟩
    else if evidence.supersedesObservationId ≠ some priorPeriod.observationId then
      .error ⟨"settlement correction must supersede latest observation"⟩
    else .ok ()

/-- One iteration of `_validate_settlement_history`. -/
def checkObservation (contract : FuturesContract) (scope : FuturesSettlementScope)
    (cursor : HistoryCursor) (evidence : FuturesSettlementEvidence) :
    Except FuturesError HistoryCursor := do
  requireSettlementContract contract scope evidence
  if evidence.observationId ∈ cursor.seenObservations then
    throw ⟨"settlement history contains duplicate observation identity"⟩
  checkOrder cursor evidence
  pure {
    seenObservations := evidence.observationId :: cursor.seenObservations
    latestByPeriod := cursor.latestByPeriod.set evidence.settlementId evidence
    previous := some evidence }

/-- `_validate_settlement_history`. -/
def validateSettlementHistory (contract : FuturesContract) (scope : FuturesSettlementScope)
    (history : List FuturesSettlementEvidence) (lastPrice : Decimal) :
    Except FuturesError Unit := do
  let _ ← history.foldlM (checkObservation contract scope) ⟨[], ∅, none⟩
  if history.getLast?.any (·.settlementPrice ≠ lastPrice) then
    throw ⟨"last settlement price does not match settlement history"⟩

theorem requireSettlementContract_of_valid {contract : FuturesContract}
    {scope : FuturesSettlementScope} {history : List FuturesSettlementEvidence}
    {lastPrice : Decimal}
    (valid : validateSettlementHistory contract scope history lastPrice = .ok ()) :
    ∀ evidence ∈ history, requireSettlementContract contract scope evidence = .ok () := by
  rw [validateSettlementHistory, bind_eq_ok] at valid
  obtain ⟨cursor, checked, -⟩ := valid
  apply forall_of_foldlM
    (fun evidence => requireSettlementContract contract scope evidence = .ok ()) _ checked
  intro before after evidence step
  rw [checkObservation, bind_eq_ok] at step
  obtain ⟨⟨⟩, required, -⟩ := step
  exact required

/-! ## The admission of one observation -/

/-- The last member of a history with a property, as a loop over the history
finds it. -/
def latestWhere (history : List FuturesSettlementEvidence)
    (property : FuturesSettlementEvidence → Bool) : Option FuturesSettlementEvidence :=
  history.foldl (fun latest accepted => if property accepted then some accepted else latest) none

/-- `latest_same_period`. -/
def latestOfPeriod (history : List FuturesSettlementEvidence) (settlementId : String) :
    Option FuturesSettlementEvidence :=
  latestWhere history (·.settlementId = settlementId)

/-- `matching_observation`. -/
def matchingObservation (history : List FuturesSettlementEvidence)
    (evidence : FuturesSettlementEvidence) : Option FuturesSettlementEvidence :=
  latestWhere history fun accepted =>
    accepted.settlementId = evidence.settlementId ∧
      accepted.observationId = evidence.observationId

inductive Disposition where
  | duplicate
  | new
  | correction
  deriving DecidableEq, Repr

/-- `_settlement_duplicate_or_require_new`. -/
def settlementDuplicateOrRequireNew (contract : FuturesContract)
    (scope : FuturesSettlementScope) (history : List FuturesSettlementEvidence)
    (evidence : FuturesSettlementEvidence) : Except FuturesError Disposition := do
  requireSettlementContract contract scope evidence
  match matchingObservation history evidence, latestOfPeriod history evidence.settlementId with
  | some matching, latest =>
    if matching ≠ evidence then
      .error ⟨"settlement observation identity conflicts with accepted content"⟩
    else if latest = some matching then .ok .duplicate
    else .error ⟨"settlement revision is stale or conflicts with accepted economics"⟩
  | none, some latest =>
    if evidence.revision ≤ latest.revision then
      .error ⟨"settlement revision is stale or conflicts with accepted economics"⟩
    else if history.getLast? ≠ some latest then
      .error ⟨"correction of a non-latest settlement period is unsupported"⟩
    else if evidence.orderKey ≠ latest.orderKey then
      .error ⟨"settlement correction cannot change period ordering"⟩
    else if evidence.revision ≠ latest.revision + 1 then
      .error ⟨"settlement correction revision must be consecutive"⟩
    else if evidence.supersedesObservationId ≠ some latest.observationId then
      .error ⟨"settlement correction must supersede latest observation"⟩
    else .ok .correction
  | none, none =>
    if evidence.revision ≠ 0 ∨ evidence.supersedesObservationId.isSome then
      .error ⟨"new settlement period must start at revision 0"⟩
    else if history.getLast?.any (evidence.orderKey ≤ ·.orderKey) then
      .error ⟨"out-of-order settlement cannot rewind variation-margin state"⟩
    else .ok .new

/-- The latest observation of its period. -/
def IsLatest (history : List FuturesSettlementEvidence)
    (evidence : FuturesSettlementEvidence) : Prop :=
  latestOfPeriod history evidence.settlementId = some evidence

theorem latestWhere_append (history : List FuturesSettlementEvidence)
    (property : FuturesSettlementEvidence → Bool) (accepted : FuturesSettlementEvidence) :
    latestWhere (history ++ [accepted]) property =
      if property accepted then some accepted else latestWhere history property := by
  rw [latestWhere, List.foldl_append]
  rfl

theorem mem_of_latestWhere {history : List FuturesSettlementEvidence}
    {property : FuturesSettlementEvidence → Bool} {evidence : FuturesSettlementEvidence}
    (found : latestWhere history property = some evidence) : evidence ∈ history := by
  induction history using List.reverseRecOn with
  | nil => cases found
  | append_singleton history accepted ih =>
      rw [latestWhere_append] at found
      rw [List.mem_append, List.mem_singleton]
      split at found
      · right
        exact (Option.some.inj found).symm
      · left
        exact ih found

/-- A narrower property that holds of the last member finds the same member. -/
theorem latestWhere_of_imp {history : List FuturesSettlementEvidence}
    {property narrower : FuturesSettlementEvidence → Bool}
    {evidence : FuturesSettlementEvidence}
    (implied : ∀ accepted, narrower accepted → property accepted) (holds : narrower evidence)
    (found : latestWhere history property = some evidence) :
    latestWhere history narrower = some evidence := by
  induction history using List.reverseRecOn with
  | nil => cases found
  | append_singleton history accepted ih =>
      rw [latestWhere_append] at found ⊢
      by_cases matched : property accepted
      · rw [if_pos matched] at found
        rw [Option.some.inj found, if_pos holds]
      · rw [if_neg matched] at found
        rw [if_neg (mt (implied accepted) matched)]
        exact ih found

theorem IsLatest.mem {history : List FuturesSettlementEvidence}
    {evidence : FuturesSettlementEvidence} (latest : IsLatest history evidence) :
    evidence ∈ history := mem_of_latestWhere latest

/-- The latest observation of a period is recognised as a duplicate. -/
theorem settlementDuplicateOrRequireNew_of_latest {contract : FuturesContract}
    {scope : FuturesSettlementScope} {history : List FuturesSettlementEvidence}
    {evidence : FuturesSettlementEvidence} (latest : IsLatest history evidence)
    (required : requireSettlementContract contract scope evidence = .ok ()) :
    settlementDuplicateOrRequireNew contract scope history evidence = .ok .duplicate := by
  have matching : matchingObservation history evidence = some evidence := by
    apply latestWhere_of_imp _ _ latest
    · intro accepted both
      simp only [decide_eq_true_eq] at both ⊢
      exact both.1
    · simp
  rw [IsLatest] at latest
  simp [settlementDuplicateOrRequireNew, required, matching, latest]

end AutoTrade.Futures
