import AutoTrade.Lib.AsciiJson
import AutoTrade.Lib.Fingerprint
import AutoTrade.Numeric.Amount
import AutoTrade.Numeric.Exactness
import AutoTrade.Provider.Domain
import AutoTrade.Reconciliation.Evidence

/-!
# Perpetual margin

`perpetual_margin.py`: the maintenance requirement of a position by the tier of its
notional, the equity behind it now and under an explicit stress, and the verdict on new
risk.  The evidence is bound to a capability snapshot and to stored artifacts.
-/

namespace AutoTrade.Margin

open Lib Numeric Provider Reconciliation

/-! ## Arguments -/

/-- `PerpetualMarginError`, or the `TypeError` of the argument readers. -/
inductive PerpetualMarginError where
  | valueError (message : String)
  | typeError (message : String)
  deriving DecidableEq, Repr

/-- An exact computation whose error is raised under one message. -/
def resource {α : Type} (message : String) (computation : Except ExactDecimalError α) :
    Except PerpetualMarginError α :=
  computation.mapError fun _ => .valueError message

/-- `_decimal`. -/
def decimal (value : DecimalInput) (name : String) : Except PerpetualMarginError Decimal :=
  if value = .inexact then
    .error (.typeError s!"{name} must use Decimal, string or integer input")
  else resource s!"{name} must be a bounded exact decimal" (parseBoundedExactDecimal value true)

/-- `_non_negative`. -/
def nonNegative (value : DecimalInput) (name : String) : Except PerpetualMarginError Decimal := do
  let result ← decimal value name
  if result.toRat < 0 then throw (.valueError s!"{name} must be non-negative")
  return result

/-- `_positive`. -/
def positive (value : DecimalInput) (name : String) : Except PerpetualMarginError Decimal := do
  let result ← decimal value name
  if result.toRat ≤ 0 then throw (.valueError s!"{name} must be positive")
  return result

/-- `_text`. -/
def text (value name : String) : Except PerpetualMarginError String :=
  if strip value = "" then .error (.valueError s!"{name} is required") else .ok (strip value)

/-- `_instant`. -/
def instant [IsoFormat] (value name : String) : Except PerpetualMarginError Instant := do
  let written ← text value name
  if written.toList.getLast? ≠ some 'Z' then
    throw (.valueError s!"{name} must be UTC and end in Z")
  match IsoFormat.parse written with
  | none => throw (.valueError s!"{name} must be an ISO-8601 instant")
  | some point => return point

/-- `_artifact_id`. -/
def artifactId [UuidFormat] (value name : String) : Except PerpetualMarginError String := do
  let written ← text value name
  match UuidFormat.canonical written with
  | none => throw (.valueError s!"{name} must be an artifact UUID")
  | some canonical =>
      if canonical ≠ written then
        throw (.valueError s!"{name} must be a canonical lowercase artifact UUID")
      return written

/-- `_decimal_text`. -/
def decimalText (value : Decimal) : Except PerpetualMarginError String :=
  resource "margin evidence decimal exceeds the canonical resource envelope" value.canonicalText

/-! ## Margin tiers -/

inductive AdjustmentConvention where
  | add
  | deduct
  deriving DecidableEq, Repr

def AdjustmentConvention.text : AdjustmentConvention → String
  | .add => "ADD"
  | .deduct => "DEDUCT"

/-- The arguments of `MarginTier`. -/
structure MarginTierState where
  notionalUpperBound : DecimalInput
  maintenanceRate : DecimalInput
  maintenanceAdjustment : DecimalInput
  adjustmentConvention : String

/-- `MarginTier`. -/
structure MarginTier where
  notionalUpperBound : Decimal
  maintenanceRate : Decimal
  maintenanceAdjustment : Decimal
  adjustmentConvention : AdjustmentConvention
  bound_pos : 0 < notionalUpperBound.toRat
  rate_nonneg : 0 ≤ maintenanceRate.toRat
  rate_le : maintenanceRate.toRat ≤ 1
  adjustment_nonneg : 0 ≤ maintenanceAdjustment.toRat

/-- The convention of a text. -/
def conventionOf (value : String) : Except PerpetualMarginError AdjustmentConvention :=
  if value = "ADD" then .ok .add
  else if value = "DEDUCT" then .ok .deduct
  else .error (.valueError "adjustment_convention must be ADD or DEDUCT")

/-- `MarginTier(...)`. -/
def MarginTier.create (state : MarginTierState) : Except PerpetualMarginError MarginTier := do
  let bound ← decimal state.notionalUpperBound "notional_upper_bound"
  if boundPos : 0 < bound.toRat then
    let rate ← decimal state.maintenanceRate "maintenance_rate"
    if rateNonneg : 0 ≤ rate.toRat then
      if rateLe : rate.toRat ≤ 1 then
        let adjustment ← decimal state.maintenanceAdjustment "maintenance_adjustment"
        if adjustmentNonneg : 0 ≤ adjustment.toRat then
          let convention ← conventionOf state.adjustmentConvention
          return ⟨bound, rate, adjustment, convention, boundPos, rateNonneg, rateLe,
            adjustmentNonneg⟩
        else throw (.valueError "maintenance_adjustment must be non-negative")
      else throw (.valueError "maintenance_rate cannot exceed 1")
    else throw (.valueError "maintenance_rate must be non-negative")
  else throw (.valueError "notional_upper_bound must be positive")

/-- `maintenance_requirement`. -/
def MarginTier.maintenanceRequirement (tier : MarginTier) (notional : Decimal) :
    Except PerpetualMarginError Decimal := do
  let requirement ← resource "margin tier arithmetic exceeds the exact resource envelope" (do
    let base ← exactMultiply [notional, tier.maintenanceRate]
    match tier.adjustmentConvention with
    | .add => exactAdd base tier.maintenanceAdjustment
    | .deduct => exactSubtract base tier.maintenanceAdjustment)
  if requirement.toRat < 0 then
    throw (.valueError "margin tier formula produced negative maintenance")
  return requirement

/-! ## Evidence -/

/-- The arguments of `PerpetualMarginEvidence`. -/
structure PerpetualMarginEvidenceState where
  providerId : String
  accountId : String
  entityId : String
  environment : String
  instrumentVersion : String
  capabilitySnapshotId : String
  positionMode : String
  marginMode : String
  collateralCurrency : String
  settlementCurrency : String
  riskTierRevision : String
  evidenceBundleRef : String
  tierTableEvidenceRef : String
  markPrice : DecimalInput
  indexPrice : DecimalInput
  collateralFxToSettlement : DecimalInput
  markObservedAt : String
  indexObservedAt : String
  collateralFxObservedAt : String
  marginTiersObservedAt : String
  marginTiers : List MarginTier
  providerEnvironment : Option String

/-- The upper bounds of the tiers increase strictly from zero. -/
def RisingBounds (tiers : List MarginTier) : Prop :=
  List.IsChain (fun left right : ℚ => left < right)
    (0 :: tiers.map fun tier => tier.notionalUpperBound.toRat)

instance (tiers : List MarginTier) : Decidable (RisingBounds tiers) :=
  inferInstanceAs (Decidable (List.IsChain _ _))

/-- `PerpetualMarginEvidence`. -/
structure PerpetualMarginEvidence where
  providerId : String
  accountId : String
  entityId : String
  environment : String
  instrumentVersion : String
  capabilitySnapshotId : String
  positionMode : String
  marginMode : String
  collateralCurrency : String
  settlementCurrency : String
  riskTierRevision : String
  evidenceBundleRef : String
  tierTableEvidenceRef : String
  markPrice : Decimal
  indexPrice : Decimal
  collateralFxToSettlement : Decimal
  markObservedAt : String
  indexObservedAt : String
  collateralFxObservedAt : String
  marginTiersObservedAt : String
  marginTiers : List MarginTier
  providerEnvironment : String
  index_pos : 0 < indexPrice.toRat
  fx_pos : 0 < collateralFxToSettlement.toRat
  covered : marginTiers ≠ []
  rising : RisingBounds marginTiers

/-- `PerpetualMarginEvidence(...)`. -/
def PerpetualMarginEvidence.create [CaseMap] [IsoFormat] [UuidFormat]
    (state : PerpetualMarginEvidenceState) :
    Except PerpetualMarginError PerpetualMarginEvidence := do
  let providerId ← text state.providerId "provider_id"
  let accountId ← text state.accountId "account_id"
  let entityId ← text state.entityId "entity_id"
  let instrumentVersion ← text state.instrumentVersion "instrument_version"
  let capabilitySnapshotId ← text state.capabilitySnapshotId "capability_snapshot_id"
  let positionMode ← text state.positionMode "position_mode"
  let collateral ← text state.collateralCurrency "collateral_currency"
  let settlement ← text state.settlementCurrency "settlement_currency"
  let revision ← text state.riskTierRevision "risk_tier_revision"
  let bundle ← artifactId state.evidenceBundleRef "evidence_bundle_ref"
  let table ← artifactId state.tierTableEvidenceRef "tier_table_evidence_ref"
  let environment ← text state.environment "environment"
  let domain ← (normalizeProviderEnvironment providerId (upper environment)
    state.providerEnvironment).mapError fun error => .valueError error.message
  let mode ← text state.marginMode "margin_mode"
  let mark ← positive state.markPrice "mark_price"
  let index ← decimal state.indexPrice "index_price"
  if indexPos : 0 < index.toRat then
    let fx ← decimal state.collateralFxToSettlement "collateral_fx_to_settlement"
    if fxPos : 0 < fx.toRat then
      let _ ← instant state.markObservedAt "mark_observed_at"
      let _ ← instant state.indexObservedAt "index_observed_at"
      let _ ← instant state.collateralFxObservedAt "collateral_fx_observed_at"
      let _ ← instant state.marginTiersObservedAt "margin_tiers_observed_at"
      if covered : state.marginTiers ≠ [] then
        if rising : RisingBounds state.marginTiers then
          return ⟨providerId, accountId, entityId, upper environment, instrumentVersion,
            capabilitySnapshotId, positionMode, upper mode, upper collateral, upper settlement,
            revision, bundle, table, mark, index, fx, state.markObservedAt,
            state.indexObservedAt, state.collateralFxObservedAt, state.marginTiersObservedAt,
            state.marginTiers, domain, indexPos, fxPos, covered, rising⟩
        else throw (.valueError "margin tier upper bounds must be strictly increasing")
      else throw (.valueError "margin_tiers cannot be empty")
    else throw (.valueError "collateral_fx_to_settlement must be positive")
  else throw (.valueError "index_price must be positive")

/-- `capability_identity`. -/
def PerpetualMarginEvidence.capabilityIdentity (evidence : PerpetualMarginEvidence) : List String :=
  [evidence.providerId, evidence.accountId, evidence.entityId, evidence.environment,
    evidence.providerEnvironment, evidence.instrumentVersion]

/-! ## Artifacts -/

attribute [local instance] FloatText.none

/-- The payload of one tier. -/
def MarginTier.payload (tier : MarginTier) : Except PerpetualMarginError (Json Unit) := do
  let bound ← decimalText tier.notionalUpperBound
  let rate ← decimalText tier.maintenanceRate
  let adjustment ← decimalText tier.maintenanceAdjustment
  return .obj [("notional_upper_bound", .str bound), ("maintenance_rate", .str rate),
    ("maintenance_adjustment", .str adjustment),
    ("adjustment_convention", .str tier.adjustmentConvention.text)]

/-- `tier_table_payload`. -/
def PerpetualMarginEvidence.tierTablePayload (evidence : PerpetualMarginEvidence) :
    Except PerpetualMarginError (Json Unit) := do
  let tiers ← evidence.marginTiers.mapM MarginTier.payload
  return .obj [("risk_tier_revision", .str evidence.riskTierRevision), ("tiers", .arr tiers)]

/-- `evidence_bundle_payload`. -/
def PerpetualMarginEvidence.evidenceBundlePayload (evidence : PerpetualMarginEvidence) :
    Except PerpetualMarginError (Json Unit) := do
  let mark ← decimalText evidence.markPrice
  let index ← decimalText evidence.indexPrice
  let fx ← decimalText evidence.collateralFxToSettlement
  return .obj [("mark_price", .str mark), ("index_price", .str index),
    ("collateral_fx_to_settlement", .str fx), ("mark_observed_at", .str evidence.markObservedAt),
    ("index_observed_at", .str evidence.indexObservedAt),
    ("collateral_fx_observed_at", .str evidence.collateralFxObservedAt),
    ("margin_tiers_observed_at", .str evidence.marginTiersObservedAt)]

/-- The metadata that both artifacts carry. -/
def PerpetualMarginEvidence.commonMetadata (evidence : PerpetualMarginEvidence) :
    List (String × Json Unit) :=
  [("schema_version", .int 1), ("provider_id", .str evidence.providerId),
    ("account_id", .str evidence.accountId), ("entity_id", .str evidence.entityId),
    ("environment", .str evidence.environment),
    ("provider_environment", .str evidence.providerEnvironment),
    ("instrument_version", .str evidence.instrumentVersion),
    ("capability_snapshot_id", .str evidence.capabilitySnapshotId),
    ("position_mode", .str evidence.positionMode), ("margin_mode", .str evidence.marginMode),
    ("collateral_currency", .str evidence.collateralCurrency),
    ("settlement_currency", .str evidence.settlementCurrency),
    ("risk_tier_revision", .str evidence.riskTierRevision)]

/-- `ArtifactStore` by what `read_authenticated_snapshot` returns: the manifest and the
payload of an artifact, or nothing where it raises. -/
structure ArtifactStore where
  readAuthenticatedSnapshot : String → Option (Json Unit × String)

/-- A canonical SHA-256 text. -/
def isManifestHash (value : Json Unit) : Bool :=
  match value with
  | .str hash => decide (hash.length = 71 ∧ hash.toList.take 7 = "sha256:".toList) &&
      (hash.toList.drop 7).all fun char => decide (char ∈ "0123456789abcdef".toList)
  | _ => false

/-- `_verify_immutable_artifact`. -/
def verifyImmutableArtifact [Fingerprint] (store : ArtifactStore) (artifactId : String)
    (expectedPayload : Json Unit) (expectedMetadata : List (String × Json Unit)) :
    Except PerpetualMarginError Unit :=
  match store.readAuthenticatedSnapshot artifactId with
  | none => .error (.valueError "immutable margin evidence artifact is missing or corrupt")
  | some (manifest, payload) => do
      if (manifest.get? "artifact_id").elim false (Json.same (.str artifactId)) = false then
        throw (.valueError "margin evidence artifact identity mismatch")
      if (manifest.get? "sha256").elim false
          (Json.same (.str ("sha256:" ++ sha256 payload))) = false then
        throw (.valueError "margin evidence artifact digest mismatch")
      if (manifest.get? "manifest_hash").elim false isManifestHash = false then
        throw (.valueError "margin evidence artifact manifest integrity binding is required")
      if ((manifest.get? "rights").bind (Json.get? · "storage")).elim false
          (Json.same (.bool true)) = false then
        throw (.valueError "margin evidence artifact must preserve storage provenance")
      if (manifest.get? "media_type").elim false (Json.same (.str "application/json")) = false then
        throw (.valueError "margin evidence artifact media type mismatch")
      if (manifest.get? "metadata").elim false (fun metadata => expectedMetadata.all fun item =>
          (metadata.get? item.1).elim false (Json.same item.2)) = false then
        throw (.valueError "margin evidence artifact scope metadata mismatch")
      if expectedPayload.canonicalText ≠ some payload then
        throw (.valueError
          "margin evidence artifact content does not match supplied economics")
      return ()

/-- `verify_immutable_artifacts`. -/
def PerpetualMarginEvidence.verifyImmutableArtifacts [Fingerprint]
    (evidence : PerpetualMarginEvidence) (store : ArtifactStore) :
    Except PerpetualMarginError Unit := do
  let table ← evidence.tierTablePayload
  verifyImmutableArtifact store evidence.tierTableEvidenceRef table
    (evidence.commonMetadata ++ [("artifact_kind", .str "PERPETUAL_MARGIN_TIER_TABLE"),
      ("observed_at", .str evidence.marginTiersObservedAt)])
  let bundle ← evidence.evidenceBundlePayload
  verifyImmutableArtifact store evidence.evidenceBundleRef bundle
    (evidence.commonMetadata ++ [("artifact_kind", .str "PERPETUAL_MARGIN_EVIDENCE_BUNDLE"),
      ("observed_at", .str evidence.markObservedAt)])

/-! ## Stress -/

/-- `PerpetualStress`. -/
structure PerpetualStress where
  priceLossFraction : Decimal
  collateralFxLossFraction : Decimal
  exitCostFraction : Decimal
  additionalFundingLoss : Decimal
  unavailableExitExtraLoss : Decimal
  notionalIncreaseFraction : Decimal
  priceLoss_mem : 0 ≤ priceLossFraction.toRat ∧ priceLossFraction.toRat ≤ 1
  collateralFxLoss_mem : 0 ≤ collateralFxLossFraction.toRat ∧ collateralFxLossFraction.toRat ≤ 1
  exitCost_mem : 0 ≤ exitCostFraction.toRat ∧ exitCostFraction.toRat ≤ 1
  fundingLoss_nonneg : 0 ≤ additionalFundingLoss.toRat
  extraLoss_nonneg : 0 ≤ unavailableExitExtraLoss.toRat
  increase_nonneg : 0 ≤ notionalIncreaseFraction.toRat

/-- A fraction of the stress with its bounds. -/
def stressFraction (value : DecimalInput) (name : String) :
    Except PerpetualMarginError {fraction : Decimal // 0 ≤ fraction.toRat ∧ fraction.toRat ≤ 1} := do
  let result ← decimal value name
  if nonnegative : 0 ≤ result.toRat then
    if atMost : result.toRat ≤ 1 then return ⟨result, nonnegative, atMost⟩
    else throw (.valueError s!"{name} cannot exceed 1")
  else throw (.valueError s!"{name} must be non-negative")

/-- A loss of the stress. -/
def stressLoss (value : DecimalInput) (name : String) :
    Except PerpetualMarginError {loss : Decimal // 0 ≤ loss.toRat} := do
  let result ← decimal value name
  if nonnegative : 0 ≤ result.toRat then return ⟨result, nonnegative⟩
  else throw (.valueError s!"{name} must be non-negative")

/-- `PerpetualStress(...)`. -/
def PerpetualStress.create (priceLoss collateralFxLoss exitCost fundingLoss extraLoss
    increase : DecimalInput) : Except PerpetualMarginError PerpetualStress := do
  let price ← stressFraction priceLoss "price_loss_fraction"
  let fx ← stressFraction collateralFxLoss "collateral_fx_loss_fraction"
  let exit ← stressFraction exitCost "exit_cost_fraction"
  let funding ← stressLoss fundingLoss "additional_funding_loss"
  let extra ← stressLoss extraLoss "unavailable_exit_extra_loss"
  let growth ← stressLoss increase "notional_increase_fraction"
  return ⟨price.1, fx.1, exit.1, funding.1, extra.1, growth.1, price.2, fx.2, exit.2, funding.2,
    extra.2, growth.2⟩

/-! ## Evaluation -/

/-- The fields of a `CapabilitySnapshot` that the evaluation reads. -/
structure CapabilitySnapshot where
  snapshotId : String
  identity : List String
  environment : String
  positionMode : String
  status : String
  observedAt : Instant
  expiresAt : Instant

/-- The arguments of `evaluate_perpetual_margin` besides the evidence and the stress. -/
structure MarginRequest where
  instrumentVersion : String
  marginMode : String
  collateralCurrency : String
  settlementCurrency : String
  riskTierRevision : String
  signedNotionalSettlement : DecimalInput
  collateralAmount : DecimalInput
  unrealizedPnlSettlement : DecimalInput
  evaluatedAt : String
  maximumEvidenceAgeSeconds : Int
  maximumMarkIndexDivergenceBps : DecimalInput
  collateralHaircutFraction : DecimalInput

inductive MarginVerdict where
  | allowNewRisk
  | blockNewRisk
  | liquidationStress
  deriving DecidableEq, Repr

/-- `PerpetualMarginResult`. -/
structure PerpetualMarginResult where
  verdict : MarginVerdict
  notional : Decimal
  maintenanceRequirement : Decimal
  stressedMaintenanceRequirement : Decimal
  stressedNotional : Decimal
  currentEquitySettlement : Decimal
  stressedEquitySettlement : Decimal
  liquidationHeadroom : Decimal
  markIndexDivergenceBps : ℚ
  selectedTierUpperBound : Decimal
  reasons : List String

/-- `_select_tier`. -/
def selectTier (notional : Decimal) : List MarginTier → Except PerpetualMarginError MarginTier
  | [] => .error (.valueError "position notional exceeds evidenced margin tier coverage")
  | tier :: rest =>
      if notional ≤ tier.notionalUpperBound then .ok tier else selectTier notional rest

/-- The scope checks. -/
def checkScope [CaseMap] (capability : CapabilitySnapshot) (request : MarginRequest)
    (evidence : PerpetualMarginEvidence) : Except PerpetualMarginError Unit := do
  let instrument ← text request.instrumentVersion "instrument_version"
  let mode ← text request.marginMode "margin_mode"
  let collateral ← text request.collateralCurrency "collateral_currency"
  let settlement ← text request.settlementCurrency "settlement_currency"
  let revision ← text request.riskTierRevision "risk_tier_revision"
  if instrument ≠ evidence.instrumentVersion then
    throw (.valueError "instrument_version must match margin evidence")
  if capability.identity ≠ evidence.capabilityIdentity then
    throw (.valueError ("provider/account/entity/environment/provider_environment/instrument " ++
      "capability scope mismatch"))
  if capability.snapshotId ≠ evidence.capabilitySnapshotId then
    throw (.valueError "capability snapshot does not match margin evidence")
  if capability.positionMode ≠ evidence.positionMode then
    throw (.valueError "position mode does not match margin evidence")
  if upper mode ≠ evidence.marginMode then
    throw (.valueError "margin mode does not match margin evidence")
  if upper collateral ≠ evidence.collateralCurrency then
    throw (.valueError "collateral currency does not match margin evidence")
  if upper settlement ≠ evidence.settlementCurrency then
    throw (.valueError "settlement currency does not match margin evidence")
  if revision ≠ evidence.riskTierRevision then
    throw (.valueError "risk tier revision does not match margin evidence")
  if capability.status ≠ "VERIFIED" then
    throw (.valueError "verified capability snapshot is required")
  if capability.environment = "PAPER" ∨ capability.environment = "LIVE" then
    throw (.valueError "PAPER/LIVE perpetual margin requires canonical provider-origin evidence")
  if request.maximumEvidenceAgeSeconds < 0 then
    throw (.valueError "maximum_evidence_age_seconds must be a non-negative integer")
  return ()

/-- The amounts of a request once they are read. -/
structure MarginAmounts where
  signedNotional : Decimal
  collateral : Decimal
  unrealized : Decimal
  haircut : Decimal
  divergenceLimit : Decimal

/-- The readers of the amounts. -/
def readAmounts (request : MarginRequest) : Except PerpetualMarginError MarginAmounts := do
  let signedNotional ← decimal request.signedNotionalSettlement "signed_notional_settlement"
  let collateral ← nonNegative request.collateralAmount "collateral_amount"
  let unrealized ← decimal request.unrealizedPnlSettlement "unrealized_pnl_settlement"
  let haircut ← nonNegative request.collateralHaircutFraction "collateral_haircut_fraction"
  if 1 < haircut.toRat then
    throw (.valueError "collateral_haircut_fraction cannot exceed 1")
  let limit ← nonNegative request.maximumMarkIndexDivergenceBps
    "maximum_mark_index_divergence_bps"
  return ⟨signedNotional, collateral, unrealized, haircut, limit⟩

/-- `Decimal("1")`. -/
def one : Decimal := Decimal.whole 1 Decimal.one_bounded

/-- The results of the arithmetic before the tiers. -/
structure MarginFigures where
  notional : Decimal
  stressedNotional : Decimal
  divergence : ℚ
  divergenceLimit : ℚ
  currentEquity : Decimal
  stressedEquity : Decimal

/-- The arithmetic before the tiers. -/
def marginFigures (amounts : MarginAmounts) (evidence : PerpetualMarginEvidence)
    (stress : PerpetualStress) : Except ExactDecimalError MarginFigures := do
  let notional ← exactAbs amounts.signedNotional
  let growth ← exactAdd one stress.notionalIncreaseFraction
  let stressedNotional ← exactMultiply [notional, growth]
  let delta ← exactSubtract evidence.markPrice evidence.indexPrice
  let distance ← exactAbs delta
  let divergence ← boundedFraction (distance.toRat / evidence.indexPrice.toRat * 10000)
  let multiplier ← exactSubtract one amounts.haircut
  let worth ← exactMultiply [amounts.collateral, evidence.collateralFxToSettlement]
  let collateralValue ← exactMultiply [worth, multiplier]
  let currentEquity ← exactAdd collateralValue amounts.unrealized
  let remaining ← exactSubtract one stress.collateralFxLossFraction
  let stressedFx ← exactMultiply [evidence.collateralFxToSettlement, remaining]
  let stressedWorth ← exactMultiply [amounts.collateral, stressedFx]
  let stressedValue ← exactMultiply [stressedWorth, multiplier]
  let priceLoss ← exactMultiply [notional, stress.priceLossFraction]
  let exitCost ← exactMultiply [notional, stress.exitCostFraction]
  let gross ← exactAdd stressedValue amounts.unrealized
  let afterPrice ← exactSubtract gross priceLoss
  let afterExit ← exactSubtract afterPrice exitCost
  let afterFunding ← exactSubtract afterExit stress.additionalFundingLoss
  let stressedEquity ← exactSubtract afterFunding stress.unavailableExitExtraLoss
  return ⟨notional, stressedNotional, divergence, amounts.divergenceLimit.toRat, currentEquity,
    stressedEquity⟩

/-- The evidence times with their field names. -/
def PerpetualMarginEvidence.observedTimes (evidence : PerpetualMarginEvidence) :
    List (String × String) :=
  [("mark_observed_at", evidence.markObservedAt), ("index_observed_at", evidence.indexObservedAt),
    ("collateral_fx_observed_at", evidence.collateralFxObservedAt),
    ("margin_tiers_observed_at", evidence.marginTiersObservedAt)]

/-- The freshness reason of one piece of evidence. -/
def freshnessReason [IsoFormat] (now : Instant) (maximumAgeSeconds : Int)
    (item : String × String) : Except PerpetualMarginError (Option String) := do
  let observed ← instant item.2 item.1
  return if now < observed then some (item.1 ++ ":FUTURE_EVIDENCE")
    else if maximumAgeSeconds * 1000000 < now.microseconds - observed.microseconds then
      some (item.1 ++ ":STALE")
    else none

/-- The verdict of the reasons. -/
def verdictOf (reasons : List String) : MarginVerdict :=
  if "CURRENT_MAINTENANCE_BREACH" ∈ reasons ∨
      "STRESSED_LIQUIDATION_HEADROOM_NEGATIVE" ∈ reasons then .liquidationStress
  else if reasons ≠ [] then .blockNewRisk
  else .allowNewRisk

/-- The tiers, the reasons and the verdict of the figures. -/
def judge [IsoFormat] (figures : MarginFigures) (evidence : PerpetualMarginEvidence)
    (now : Instant) (maximumAgeSeconds : Int) :
    Except PerpetualMarginError PerpetualMarginResult := do
  let tier ← selectTier figures.notional evidence.marginTiers
  let maintenance ← tier.maintenanceRequirement figures.notional
  let stressedTier ← selectTier figures.stressedNotional evidence.marginTiers
  let stressedMaintenance ← stressedTier.maintenanceRequirement figures.stressedNotional
  let freshness ← evidence.observedTimes.mapM (freshnessReason now maximumAgeSeconds)
  let headroom ← resource "margin arithmetic exceeds the exact resource envelope"
    (exactSubtract figures.stressedEquity stressedMaintenance)
  let reasons := freshness.filterMap id ++
    (if figures.divergenceLimit < figures.divergence then ["MARK_INDEX_DIVERGENCE"] else []) ++
    (if figures.currentEquity < maintenance then ["CURRENT_MAINTENANCE_BREACH"] else []) ++
    (if headroom.toRat < 0 then ["STRESSED_LIQUIDATION_HEADROOM_NEGATIVE"] else [])
  return {
    verdict := verdictOf reasons
    notional := figures.notional
    maintenanceRequirement := maintenance
    stressedMaintenanceRequirement := stressedMaintenance
    stressedNotional := figures.stressedNotional
    currentEquitySettlement := figures.currentEquity
    stressedEquitySettlement := figures.stressedEquity
    liquidationHeadroom := headroom
    markIndexDivergenceBps := figures.divergence
    selectedTierUpperBound := tier.notionalUpperBound
    reasons := reasons }

/-- `evaluate_perpetual_margin`. -/
def evaluatePerpetualMargin [CaseMap] [IsoFormat] [Fingerprint] (capability : CapabilitySnapshot)
    (request : MarginRequest) (evidence : PerpetualMarginEvidence) (store : ArtifactStore)
    (stress : PerpetualStress) : Except PerpetualMarginError PerpetualMarginResult := do
  checkScope capability request evidence
  evidence.verifyImmutableArtifacts store
  let now ← instant request.evaluatedAt "evaluated_at"
  if ¬ (capability.observedAt ≤ now ∧ now < capability.expiresAt) then
    throw (.valueError "capability snapshot is stale at evaluation time")
  let amounts ← readAmounts request
  let figures ← resource "margin arithmetic exceeds the exact resource envelope"
    (marginFigures amounts evidence stress)
  judge figures evidence now request.maximumEvidenceAgeSeconds

end AutoTrade.Margin
