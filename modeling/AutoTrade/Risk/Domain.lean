import AutoTrade.Lib.AsciiJson
import AutoTrade.Lib.Text
import AutoTrade.Lib.Time
import AutoTrade.Risk.Arithmetic

/-!
# Intents, policies and contexts

The normalized arguments of `risk.evaluate_risk` as the `create` functions return them;
the fields that are propositions state what those functions check.  An evaluation
creates its arguments again, which leaves normalized ones as they are.
-/

namespace AutoTrade.Risk

open Lib Numeric

/-! ## Intents -/

inductive Side where
  | buy
  | sell
  deriving DecidableEq, Repr

def Side.text : Side → String
  | .buy => "BUY"
  | .sell => "SELL"

/-- `RISK_ACTIONS`. -/
inductive RiskAction where
  | trade
  | reduce
  | hedge
  | flatten
  | exercise
  deriving DecidableEq, Repr

def RiskAction.text : RiskAction → String
  | .trade => "TRADE"
  | .reduce => "REDUCE"
  | .hedge => "HEDGE"
  | .flatten => "FLATTEN"
  | .exercise => "EXERCISE"

/-- `RISK_INSTRUMENT_TYPES`. -/
inductive InstrumentType where
  | generic
  | spot
  | equity
  | future
  | perpetual
  | option
  deriving DecidableEq, Repr

namespace InstrumentType

def text : InstrumentType → String
  | .generic => "GENERIC"
  | .spot => "SPOT"
  | .equity => "EQUITY"
  | .future => "FUTURE"
  | .perpetual => "PERPETUAL"
  | .option => "OPTION"

/-- `derivative_instrument_types`. -/
def isDerivative : InstrumentType → Bool
  | .future | .perpetual | .option => true
  | _ => false

/-- `directional_positive_types`. -/
def isDirectional : InstrumentType → Bool
  | .future | .perpetual => true
  | _ => false

end InstrumentType

/-- `RiskIntent`. -/
structure RiskIntent where
  symbol : String
  side : Side
  quantity : Decimal
  price : Decimal
  expectedStateVersion : Nat
  reduceOnly : Bool
  action : RiskAction
  instrumentType : InstrumentType
  symbolNormal : Normal symbol
  quantity_pos : 0 < quantity
  price_pos : 0 < price
  reducing : action = .reduce ∨ action = .flatten → reduceOnly = true
  exercising : action = .exercise → instrumentType = .option

/-! ## Policies -/

/-- A canonical lower-case `sha256:` text. -/
def IsDigest (digest : String) : Prop :=
  digest.toList.take 7 = "sha256:".toList ∧ digest.length = 71 ∧
    ∀ character ∈ digest.toList.drop 7, character ∈ "0123456789abcdef".toList

instance (digest : String) : Decidable (IsDigest digest) := inferInstanceAs (Decidable (_ ∧ _ ∧ _))

/-- `RiskPolicy`. -/
structure RiskPolicy where
  maxAbsPosition : Decimal
  maxSingleNotional : Decimal
  maxGrossLeverage : Decimal
  maxNetLeverage : Decimal
  maxDailyLoss : Decimal
  maxDrawdownFraction : Decimal
  maxDataAgeSeconds : Decimal
  maxFxAgeSeconds : Decimal
  minMarginHeadroom : Decimal
  maxStressLoss : Decimal
  maxExpectedShortfall : Option Decimal
  expectedShortfallTailFraction : Option Decimal
  minLiquidationHeadroom : Option Decimal
  requiredStressScenarioLabels : Option (List String)
  requiredStressScenarioDigests : Option (Dict String String)
  requiredTailScenarioSetDigest : Option String
  maxAssetConcentrationFraction : Option Decimal
  maxVenueConcentrationFraction : Option Decimal
  maxOrderParticipationFraction : Option Decimal
  maxAbsFactorExposure : Option Decimal
  maxSpreadFraction : Option Decimal
  maxSlippageFraction : Option Decimal
  maxClockAgeSeconds : Option Decimal
  allowedActions : Option (List RiskAction)
  requireSettlementEvidence : Bool
  requireOptionExerciseEvidence : Bool
  minFuturesDeliveryHeadroomSeconds : Option Decimal
  position_pos : 0 < maxAbsPosition
  notional_pos : 0 < maxSingleNotional
  gross_pos : 0 < maxGrossLeverage
  net_pos : 0 < maxNetLeverage
  dailyLoss_nonneg : 0 ≤ maxDailyLoss
  drawdown_nonneg : 0 ≤ maxDrawdownFraction ∧ maxDrawdownFraction.toRat ≤ 1
  dataAge_nonneg : 0 ≤ maxDataAgeSeconds
  fxAge_nonneg : 0 ≤ maxFxAgeSeconds
  margin_nonneg : 0 ≤ minMarginHeadroom
  stressLoss_nonneg : 0 ≤ maxStressLoss
  shortfall_nonneg : ∀ limit ∈ maxExpectedShortfall, 0 ≤ limit
  tail_bounded : ∀ fraction ∈ expectedShortfallTailFraction, 0 < fraction ∧ fraction.toRat ≤ 1
  /-- The limit, the fraction and the digest are configured together. -/
  tailTogether : (maxExpectedShortfall.isSome ↔ expectedShortfallTailFraction.isSome) ∧
    (maxExpectedShortfall.isSome ↔ requiredTailScenarioSetDigest.isSome)
  liquidation_nonneg : ∀ limit ∈ minLiquidationHeadroom, 0 ≤ limit
  labelsNormal : ∀ labels ∈ requiredStressScenarioLabels,
    labels ≠ [] ∧ labels.Nodup ∧ ∀ label ∈ labels, Normal label
  digestsCanonical : ∀ digests ∈ requiredStressScenarioDigests,
    digests.keys.Pairwise (· < ·) ∧ ∀ digest ∈ digests.values, IsDigest digest
  /-- The keys of the digests are the labels. -/
  labelsTogether :
    requiredStressScenarioLabels.isSome = requiredStressScenarioDigests.isSome ∧
    ∀ labels ∈ requiredStressScenarioLabels, ∀ digests ∈ requiredStressScenarioDigests,
      ∀ label, label ∈ labels ↔ label ∈ digests.keys
  tailDigestCanonical : ∀ digest ∈ requiredTailScenarioSetDigest, IsDigest digest
  fractions_bounded : ∀ limit ∈ [maxAssetConcentrationFraction, maxVenueConcentrationFraction,
    maxOrderParticipationFraction, maxSpreadFraction, maxSlippageFraction], ∀ fraction ∈ limit,
      0 ≤ fraction ∧ fraction.toRat ≤ 1
  factor_nonneg : ∀ limit ∈ maxAbsFactorExposure, 0 ≤ limit
  clock_nonneg : ∀ limit ∈ maxClockAgeSeconds, 0 ≤ limit
  actionsDistinct : ∀ actions ∈ allowedActions, actions ≠ [] ∧ actions.Nodup
  delivery_nonneg : ∀ limit ∈ minFuturesDeliveryHeadroomSeconds, 0 ≤ limit

/-! ## Contexts -/

/-- `LiquidationScope`. -/
structure LiquidationScope where
  providerId : String
  accountId : String
  environment : String
  marginMode : String
  riskTierVersion : String
  deriving DecidableEq

/-- `LiquidationHeadroomEvidence`. -/
structure LiquidationHeadroomEvidence where
  headroom : Decimal
  stateVersion : Nat
  scope : LiquidationScope
  observedAt : Instant
  expiresAt : Instant
  artifactId : String
  sha256 : String
  expires_after : observedAt < expiresAt
  digestCanonical : IsDigest sha256

/-- Shocks or returns of a scenario by symbol. -/
abbrev Scenario : Type := Dict String Decimal

/-- `RiskContext`. -/
structure RiskContext where
  stateVersion : Nat
  equity : Decimal
  positions : Dict String Decimal
  marks : Dict String Decimal
  reservedPositionDelta : Dict String Decimal
  dailyPnl : Decimal
  drawdownFraction : Decimal
  marketDataAgeSeconds : Decimal
  fxAgeSeconds : Dict String Decimal
  fxRequired : Bool
  marginHeadroom : Decimal
  capabilityAllowed : Bool
  borrowAvailable : Option Bool
  stressScenarios : List Scenario
  stressScenarioLabels : List String
  tailScenarios : List Scenario
  liquidationHeadroom : Option Decimal
  liquidationScope : Option LiquidationScope
  liquidationHeadroomEvidence : Option LiquidationHeadroomEvidence
  decisionTime : Option Instant
  assetBuckets : Dict String String
  venues : Dict String String
  liquidityCapacity : Dict String Decimal
  factorLoadings : Dict String (Dict String Decimal)
  spreadFraction : Dict String Decimal
  slippageFraction : Dict String Decimal
  clockAgeSeconds : Option Decimal
  settlementAllowed : Option Bool
  optionDeliverableVerified : Option Bool
  optionExerciseCashRequired : Option Decimal
  optionExerciseCashAvailable : Option Decimal
  futuresDeliveryHeadroomSeconds : Dict String Decimal
  equivalentExposurePerUnit : Dict String Decimal
  instrumentTypes : Dict String InstrumentType
  equity_pos : 0 < equity
  marks_pos : ∀ mark ∈ marks.values, 0 < mark
  drawdown_bounded : 0 ≤ drawdownFraction ∧ drawdownFraction.toRat ≤ 1
  dataAge_nonneg : 0 ≤ marketDataAgeSeconds
  ages_nonneg : ∀ ages ∈ [fxAgeSeconds, liquidityCapacity, spreadFraction, slippageFraction],
    ∀ age ∈ ages.values, 0 ≤ age
  margin_nonneg : 0 ≤ marginHeadroom
  options_nonneg : ∀ value ∈ [clockAgeSeconds, optionExerciseCashRequired,
    optionExerciseCashAvailable], ∀ amount ∈ value, 0 ≤ amount
  exposures_ne_zero : ∀ exposure ∈ equivalentExposurePerUnit.values, exposure ≠ 0
  labelsNormal : stressScenarioLabels.Nodup ∧ ∀ label ∈ stressScenarioLabels, Normal label
  /-- The labels align with the scenarios. -/
  labelsAligned : stressScenarioLabels = [] ∨
    stressScenarioLabels.length = stressScenarios.length
  evidenceScoped : ∀ evidence ∈ liquidationHeadroomEvidence,
    liquidationScope = some evidence.scope ∧ decisionTime.isSome ∧
      evidence.stateVersion = stateVersion ∧ liquidationHeadroom = some evidence.headroom
  /-- The keys of every mapping are stripped. -/
  keysNormal : (∀ keys ∈ [positions.keys, marks.keys, reservedPositionDelta.keys,
      fxAgeSeconds.keys, assetBuckets.keys, venues.keys, liquidityCapacity.keys,
      factorLoadings.keys, spreadFraction.keys, slippageFraction.keys,
      futuresDeliveryHeadroomSeconds.keys, equivalentExposurePerUnit.keys, instrumentTypes.keys],
      ∀ key ∈ keys, Normal key) ∧
    (∀ scenario ∈ stressScenarios ++ tailScenarios, ∀ key ∈ scenario.keys, Normal key) ∧
    ∀ loadings ∈ factorLoadings.values, ∀ key ∈ loadings.keys, Normal key

/-! ## Decisions -/

/-- `RiskRuleResult`. -/
structure RiskRuleResult where
  rule : String
  passed : Bool
  observed : String
  limit : String
  reason : String
  deriving DecidableEq, Repr

/-- `RiskDecision`, with the types of its decimals and of its required amounts. -/
structure Decision (δ ρ : Type) where
  admitted : Bool
  resultingPosition : δ
  grossLeverage : δ
  netLeverage : δ
  worstStressLoss : δ
  inputFingerprint : String
  rules : List RiskRuleResult
  arithmeticPolicyId : Option String
  decisionId : Option String
  intentHash : Option String
  stateVersion : Option ℤ
  policyVersion : Option ℤ
  reservationVersion : Option ℤ
  reservationRequirements : Option (List (String × ρ))
  capabilitySnapshotId : Option String
  authoritativeRiskSnapshotId : Option String
  evaluatedAt : Option String
  validUntil : Option String
  deriving DecidableEq

/-- The decision with its numbers replaced. -/
def Decision.map {δ ρ δ' ρ' : Type} (decimal : δ → δ') (amount : ρ → ρ')
    (decision : Decision δ ρ) : Decision δ' ρ' :=
  { decision with
    resultingPosition := decimal decision.resultingPosition
    grossLeverage := decimal decision.grossLeverage
    netLeverage := decimal decision.netLeverage
    worstStressLoss := decimal decision.worstStressLoss
    reservationRequirements := decision.reservationRequirements.map fun items =>
      items.map fun item => (item.1, amount item.2) }

/-- `RiskDecision`. -/
abbrev RiskDecision : Type := Decision Decimal Decimal

/-- `RISK_ARITHMETIC_POLICY_ID`. -/
def riskArithmeticPolicyId : String := "RISK_EXACT_FRACTION_V1_REPORT_1E-18_CEILING"

/-- A JSON value without floats. -/
abbrev Payload : Type := Json Unit

instance : FloatText Unit := FloatText.none

/-- `json.dumps(.., ensure_ascii=True, sort_keys=True)`, which raises on an integer of more
than 4300 digits. -/
def jsonText (value : Payload) : Except RiskError String :=
  match value.asciiText with
  | none => .error (.valueError "Exceeds the limit (4300 digits) for integer string conversion")
  | some text => .ok text

theorem jsonText_eq_ok {value : Payload} {text : String} :
    jsonText value = .ok text ↔ value.asciiText = some text := by
  rw [jsonText]
  split
  next absent => simp [absent]
  next other written => simp [written]

/-- A value whose integers are short has a text. -/
theorem exists_jsonText {value : Payload} (writable : value.Writable = true) :
    ∃ text, jsonText value = .ok text := by
  simp only [jsonText_eq_ok, Json.asciiText, Json.canonicalText, if_pos writable, Option.map_some,
    Option.some.injEq, exists_eq']

/-- Values with one text differ in the order of keys at most. -/
theorem jsonText_injective {left right : Payload} {text : String}
    (distinctLeft : left.Distinct) (distinctRight : right.Distinct)
    (writtenLeft : jsonText left = .ok text) (writtenRight : jsonText right = .ok text) :
    left.normal = right.normal :=
  Json.asciiText_injective distinctLeft distinctRight (jsonText_eq_ok.mp writtenLeft)
    (jsonText_eq_ok.mp writtenRight)

/-- Values that differ in the order of keys have one text. -/
theorem jsonText_eq_of_normal {left right : Payload} (same : left.normal = right.normal) :
    jsonText left = jsonText right := by
  rw [jsonText, jsonText, Json.asciiText_eq_of_normal same]

end AutoTrade.Risk
