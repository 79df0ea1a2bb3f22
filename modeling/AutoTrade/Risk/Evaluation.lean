import AutoTrade.Numeric.DecimalText
import AutoTrade.Risk.Assessment
import AutoTrade.Risk.Payload

/-!
# The rules of risk admission

The last part of `evaluate_risk`: every rule of the policy over an assessment, and the
decision that admits an intent when all of them pass.
-/

namespace AutoTrade.Risk

open Lib Numeric

/-! ## Liquidation evidence -/

/-- What the authenticated reader of an artifact store returns. -/
structure AuthenticatedArtifact where
  artifactId : Option String
  sha256 : Option String
  /-- Empty when the manifest has none. -/
  manifestHash : String
  metadata : Option Payload
  raw : String

/-- An artifact store by artifact; a read that raises returns nothing. -/
abbrev EvidenceStore : Type := String → Option AuthenticatedArtifact

/-- `liquidation_evidence_payload`. -/
def liquidationEvidencePayload (evidence : LiquidationHeadroomEvidence) : Payload :=
  .obj [("artifact_kind", .str "LIQUIDATION_HEADROOM_EVIDENCE"), ("schema_version", .int 1),
    ("provider_id", .str evidence.scope.providerId),
    ("account_id", .str evidence.scope.accountId),
    ("environment", .str evidence.scope.environment),
    ("margin_mode", .str evidence.scope.marginMode),
    ("risk_tier_version", .str evidence.scope.riskTierVersion),
    ("state_version", .int evidence.stateVersion),
    ("observed_at", .str evidence.observedAt.utcText),
    ("expires_at", .str evidence.expiresAt.utcText),
    ("headroom", decimalPayload evidence.headroom)]

/-- The comparison of an artifact with the evidence. -/
def matchesEvidence [Fingerprint] (evidence : LiquidationHeadroomEvidence)
    (artifact : AuthenticatedArtifact) : Except RiskError Bool :=
  if artifact.artifactId ≠ some evidence.artifactId ∨ artifact.sha256 ≠ some evidence.sha256 ∨
      "sha256:" ++ Lib.sha256 artifact.raw ≠ evidence.sha256 ∨ artifact.manifestHash = "" then
    .ok false
  else do
    let payload := liquidationEvidencePayload evidence
    let canonical ← jsonText payload
    return decide (artifact.raw = canonical ∧ artifact.metadata.map Json.normal =
      some payload.normal)

/-- `_verify_liquidation_headroom_evidence`. -/
def verifyLiquidationHeadroomEvidence [Fingerprint] (context : RiskContext)
    (store : Option EvidenceStore) : Except RiskError Bool :=
  match context.liquidationHeadroomEvidence, context.liquidationScope, context.decisionTime,
      store with
  | some evidence, some scope, some time, some read =>
      if evidence.scope ≠ scope ∨ evidence.stateVersion ≠ context.stateVersion then .ok false
      else if ¬ (evidence.observedAt ≤ time ∧ time < evidence.expiresAt) then .ok false
      else
        match read evidence.artifactId with
        | none => .ok false
        | some artifact => matchesEvidence evidence artifact
  | _, _, _, _ => .ok false

/-! ## Texts -/

/-- `str(value)` of a boolean. -/
def boolText (value : Bool) : String := if value then "True" else "False"

/-- `str(value)` of an integer, which raises beyond 4300 digits. -/
def integerText (value : ℤ) : Except RiskError String :=
  if ShortInteger value then .ok (toString value)
  else .error (.valueError "Exceeds the limit (4300 digits) for integer string conversion")

/-- The text of a value, or `UNKNOWN`. -/
def knownText (value : Option Decimal) : String := value.elim "UNKNOWN" decimalText

/-- `str(value)` of a decimal that an exact operation returned. -/
def presentedText (value : Decimal) : String :=
  ((presentTerminating value.toRat).toOption.map Presented.text).getD ""

/-- Names joined by commas, sorted. -/
def joined (names : List String) : String := ",".intercalate (names.insertionSort (· ≤ ·))

/-! ## Rules -/

/-- The rule of an optional limit. -/
def optionalRule {α : Type} (limit : Option α) (rule : α → RiskRuleResult) :
    List RiskRuleResult :=
  (limit.map rule).toList

/-- The rule of an optional limit whose comparison may raise. -/
def optionalComparison {α : Type} (limit : Option α)
    (rule : α → Except RiskError RiskRuleResult) : Except RiskError (List RiskRuleResult) :=
  match limit with
  | none => .ok []
  | some value => do
      let result ← rule value
      return [result]

/-- `derivative_exposure_evidenced`. -/
def derivativeExposureEvidenced (intent : RiskIntent) (context : RiskContext) : Bool :=
  missingInstrumentTypeSymbols context = [] ∧ missingEquivalentSymbols intent context = []

def derivativeRule (intent : RiskIntent) (context : RiskContext) :
    Except RiskError RiskRuleResult := do
  let missingTypes := missingInstrumentTypeSymbols context
  let missingEquivalents := missingEquivalentSymbols intent context
  let evidenced := derivativeExposureEvidenced intent context
  let observed ← (if evidenced ∧ intent.instrumentType.isDerivative then
      (lookup context.equivalentExposurePerUnit intent.symbol).map decimalText
    else if missingTypes ≠ [] then .ok ("MISSING_TYPE:" ++ ",".intercalate missingTypes)
    else if missingEquivalents ≠ [] then .ok ("MISSING:" ++ ",".intercalate missingEquivalents)
    else .ok "NOT_REQUIRED")
  return ⟨"derivative_equivalent_exposure", evidenced, observed, "REQUIRED_FOR_DERIVATIVE",
    if evidenced then "instrument family and derivative equivalent exposure are evidenced"
    else if missingTypes ≠ [] then "nonzero portfolio exposure lacks canonical instrument family"
    else "derivative leverage cannot use premium/mark as exposure proxy"⟩

def stateVersionRule (intent : RiskIntent) (context : RiskContext) :
    Except RiskError RiskRuleResult := do
  let observed ← integerText context.stateVersion
  let limit ← integerText intent.expectedStateVersion
  return ⟨"state_version", intent.expectedStateVersion = context.stateVersion, observed, limit,
    "authoritative state version must match the intent"⟩

def capabilityRule (context : RiskContext) : RiskRuleResult :=
  ⟨"capability", context.capabilityAllowed, boolText context.capabilityAllowed, boolText true,
    "account/instrument capability must be currently evidenced"⟩

def allowedActionRule (intent : RiskIntent) (actions : List RiskAction) : RiskRuleResult :=
  ⟨"allowed_action", intent.action ∈ actions, intent.action.text,
    ",".intercalate (actions.map RiskAction.text),
    "intent action class must be explicitly permitted by risk policy"⟩

def settlementRules (context : RiskContext) (policy : RiskPolicy) : List RiskRuleResult :=
  if policy.requireSettlementEvidence then
    [⟨"settlement", context.settlementAllowed = some true,
      context.settlementAllowed.elim "UNKNOWN" boolText, boolText true,
      "settlement state must affirmatively permit the requested action"⟩]
  else []

/-- Known funding covers the required cash. -/
def exerciseFunded (context : RiskContext) : Bool :=
  ∃ required ∈ context.optionExerciseCashRequired,
    ∃ available ∈ context.optionExerciseCashAvailable, required ≤ available

def exerciseRules (intent : RiskIntent) (context : RiskContext) (policy : RiskPolicy) :
    List RiskRuleResult :=
  if policy.requireOptionExerciseEvidence ∧ intent.action = .exercise then
    [⟨"option_deliverable", context.optionDeliverableVerified = some true,
      context.optionDeliverableVerified.elim "UNKNOWN" boolText, boolText true,
      "option exercise requires a verified current deliverable"⟩,
    ⟨"option_exercise_funding", exerciseFunded context,
      if context.optionExerciseCashRequired.isSome then
        knownText context.optionExerciseCashAvailable
      else "UNKNOWN",
      knownText context.optionExerciseCashRequired,
      "option exercise requires evidenced buying power for its obligation"⟩]
  else []

def marketFreshnessRule (context : RiskContext) (policy : RiskPolicy) : RiskRuleResult :=
  ⟨"market_freshness", context.marketDataAgeSeconds ≤ policy.maxDataAgeSeconds,
    decimalText context.marketDataAgeSeconds, decimalText policy.maxDataAgeSeconds,
    "market data must be fresh enough for admission"⟩

/-- An observation that must be known and within the limit of the policy. -/
def observedRule (name : String) (observation : Option Decimal) (reason : String)
    (limit : Decimal) : RiskRuleResult :=
  ⟨name, ∃ value ∈ observation, value ≤ limit, knownText observation, decimalText limit, reason⟩

def clockFreshnessRule (context : RiskContext) (limit : Decimal) : RiskRuleResult :=
  observedRule "clock_freshness" context.clockAgeSeconds
    "clock synchronization evidence must be fresh enough for admission" limit

/-- `fx_evidenced`. -/
def fxEvidenced (context : RiskContext) : Bool :=
  context.fxAgeSeconds.entries ≠ [] ∨ ¬ context.fxRequired

def fxFreshnessRule (context : RiskContext) (policy : RiskPolicy) : RiskRuleResult :=
  let staleFx := maximumOf context.fxAgeSeconds.values
  ⟨"fx_freshness", fxEvidenced context ∧ staleFx ≤ policy.maxFxAgeSeconds,
    if fxEvidenced context then decimalText staleFx else "UNKNOWN",
    decimalText policy.maxFxAgeSeconds,
    "required FX inputs must be present and fresh enough for valuation"⟩

/-- A maximum that a protective reduction may exceed. -/
def ceilingRule (name : String) (observed limit : Decimal) (protective : Bool)
    (reason : String) : RiskRuleResult :=
  ⟨name, observed ≤ limit ∨ protective, decimalText observed, decimalText limit, reason⟩

/-- `projected_abs_position`. -/
def projectedAbsPosition (projection : Projection) : Except RiskError Decimal := do
  let sizes ← projection.projectedPositions.values.mapM riskAbs
  return maximumOf sizes

def positionLimitRule (policy : RiskPolicy) (position : Decimal) (protective : Bool) :
    RiskRuleResult :=
  ceilingRule "position_limit" position policy.maxAbsPosition protective
    "every projected absolute position must stay within policy"

def singleNotionalRule (policy : RiskPolicy) (projection : Projection) (protective : Bool) :
    RiskRuleResult :=
  ceilingRule "single_notional" projection.singleNotional policy.maxSingleNotional protective
    "single-instrument notional must stay within policy"

/-- A leverage that a protective reduction may exceed. -/
def leverageRule (name : String) (fraction : ℚ) (report limit : Decimal) (protective : Bool)
    (reason : String) : Except RiskError RiskRuleResult := do
  let within ← fractionLeDecimal fraction limit
  return ⟨name, within || protective, decimalText report, decimalText limit, reason⟩

def grossLeverageRule (policy : RiskPolicy) (projection : Projection) (protective : Bool) :
    Except RiskError RiskRuleResult :=
  leverageRule "gross_leverage" projection.grossLeverageFraction projection.grossLeverage
    policy.maxGrossLeverage protective "gross leverage must stay within policy"

def netLeverageRule (policy : RiskPolicy) (projection : Projection) (protective : Bool) :
    Except RiskError RiskRuleResult :=
  leverageRule "net_leverage" projection.netLeverageFraction projection.netLeverage
    policy.maxNetLeverage protective "net leverage must stay within policy"

/-- A complete observation within the limit of the policy. -/
def fractionRule (name : String) (complete : Bool) (fraction : ℚ) (observed reason : String)
    (limit : Decimal) : Except RiskError RiskRuleResult := do
  let within ← (if complete then fractionLeDecimal fraction limit else .ok false)
  return ⟨name, within, observed, decimalText limit, reason⟩

/-- The text of a concentration. -/
def Concentration.observed (concentration : Concentration) : String :=
  if concentration.missing = [] then decimalText concentration.report
  else "MISSING:" ++ joined concentration.missing

def assetConcentrationRule (asset : Concentration) (limit : Decimal) :
    Except RiskError RiskRuleResult :=
  fractionRule "asset_concentration" (asset.missing = []) asset.fraction asset.observed
    "projected gross exposure by asset bucket must stay within policy" limit

def venueConcentrationRule (venue : Concentration) (limit : Decimal) :
    Except RiskError RiskRuleResult :=
  fractionRule "venue_concentration" (venue.missing = []) venue.fraction venue.observed
    "projected gross exposure by venue must stay within policy" limit

def participationRule (participation : Participation) (limit : Decimal) :
    Except RiskError RiskRuleResult :=
  fractionRule "liquidity_participation" participation.evidenced participation.fraction
    (if participation.evidenced then decimalText participation.report else "UNKNOWN")
    "order quantity must stay within evidenced liquidity participation policy" limit

def spreadRule (intent : RiskIntent) (context : RiskContext) (limit : Decimal) : RiskRuleResult :=
  observedRule "spread" (context.spreadFraction.get? intent.symbol)
    "evidenced execution spread must stay within policy" limit

def slippageRule (intent : RiskIntent) (context : RiskContext) (limit : Decimal) :
    RiskRuleResult :=
  observedRule "slippage" (context.slippageFraction.get? intent.symbol)
    "evidenced execution slippage must stay within policy" limit

def factorExposureRule (factor : FactorExposure) (protective : Bool) (limit : Decimal) :
    RiskRuleResult :=
  ⟨"factor_exposure", factor.missing = [] ∧
      (factor.exposure ≤ limit ∨ protective ∧ factor.exposure < factor.baseExposure),
    if factor.missing = [] then decimalText factor.exposure
    else "MISSING:" ++ joined factor.missing,
    decimalText limit,
    "correlated factor exposure must stay within the independent policy bound"⟩

def dailyLossRule (policy : RiskPolicy) (dailyLoss : Decimal) (protective : Bool) :
    RiskRuleResult :=
  ceilingRule "daily_loss" dailyLoss policy.maxDailyLoss protective
    "daily loss must stay within policy"

def drawdownRule (context : RiskContext) (policy : RiskPolicy) (protective : Bool) :
    RiskRuleResult :=
  ceilingRule "drawdown" context.drawdownFraction policy.maxDrawdownFraction protective
    "drawdown must stay within policy"

def marginHeadroomRule (context : RiskContext) (policy : RiskPolicy) (protective : Bool) :
    RiskRuleResult :=
  ⟨"margin_headroom", policy.minMarginHeadroom ≤ context.marginHeadroom ∨ protective,
    decimalText context.marginHeadroom, decimalText policy.minMarginHeadroom,
    "margin headroom must meet policy floor"⟩

def stressCoverageRule (context : RiskContext) (stress : StressResult) : RiskRuleResult :=
  ⟨"stress_coverage", stress.coverageComplete,
    if stress.missing ≠ [] then joined stress.missing
    else toString context.stressScenarios.length,
    "complete non-empty stress evidence for every non-zero projected position",
    "stress admission must fail closed when scenarios are missing or incomplete"⟩

def stressRegimeRule (context : RiskContext) (projection : Projection) (stress : StressResult)
    (required : List String) : RiskRuleResult :=
  ⟨"stress_regime_coverage", stress.regimeComplete,
    if projection.notionals.keys = [] then "NO_PROJECTED_RISK"
    else if stress.missingLabels ≠ [] then "MISSING:" ++ joined stress.missingLabels
    else if stress.mismatchedLabels ≠ [] then "MISMATCH:" ++ joined stress.mismatchedLabels
    else ",".intercalate context.stressScenarioLabels,
    ",".intercalate required,
    "configured frozen stress regimes must all be evidenced by labeled scenarios"⟩

def stressLossRule (policy : RiskPolicy) (stress : StressResult) (protective : Bool) :
    RiskRuleResult :=
  ⟨"stress_loss", stress.coverageComplete ∧ (stress.worst ≤ policy.maxStressLoss ∨ protective),
    if stress.coverageComplete then decimalText stress.worst else "UNKNOWN",
    decimalText policy.maxStressLoss,
    "worst configured stress loss must stay within policy"⟩

def tailCoverageRule (context : RiskContext) (tail : TailResult) : RiskRuleResult :=
  ⟨"tail_coverage", tail.coverageComplete,
    if tail.missing ≠ [] then joined tail.missing
    else if ¬ tail.distributionMatches then "DISTRIBUTION_MISMATCH"
    else toString context.tailScenarios.length,
    "complete non-empty tail scenarios for every non-zero projected position",
    "expected-shortfall admission requires complete frozen tail evidence"⟩

def expectedShortfallRule (tail : TailResult) (protective : Bool) (limit : Decimal) :
    Except RiskError RiskRuleResult := do
  let within ← (match tail.shortfallFraction with
    | some fraction =>
        if tail.coverageComplete then fractionLeDecimal fraction limit else .ok false
    | none => .ok false)
  return ⟨"expected_shortfall", tail.coverageComplete ∧ tail.shortfallFraction.isSome ∧
      (within ∨ protective),
    knownText tail.shortfall, decimalText limit,
    "equal-weight expected shortfall over the configured worst tail must stay within policy"⟩

/-- The two rules of a configured expected shortfall. -/
def tailRules (context : RiskContext) (policy : RiskPolicy) (tail : TailResult)
    (protective : Bool) : Except RiskError (List RiskRuleResult) :=
  match policy.maxExpectedShortfall with
  | none => .ok []
  | some limit => do
      let shortfall ← expectedShortfallRule tail protective limit
      return [tailCoverageRule context tail, shortfall]

def liquidationHeadroomRule [Fingerprint] (context : RiskContext) (store : Option EvidenceStore)
    (protective : Bool) (limit : Decimal) : Except RiskError RiskRuleResult := do
  let verified ← verifyLiquidationHeadroomEvidence context store
  return ⟨"liquidation_headroom", verified ∧ ∃ headroom ∈ context.liquidationHeadroom,
      limit ≤ headroom ∨ protective,
    match context.liquidationHeadroom with
    | none => "UNKNOWN"
    | some headroom => if verified then decimalText headroom else "UNVERIFIED",
    decimalText limit,
    "scope-bound immutable liquidation evidence must verify before " ++
      "the headroom floor or protective-reduction exception can admit risk"⟩

/-- `opens_short`. -/
def opensShort (projection : Projection) : Bool :=
  projection.resulting < 0 ∧ projection.resulting < projection.basePosition

def shortBorrowRule (context : RiskContext) (projection : Projection) : RiskRuleResult :=
  ⟨"short_borrow", ¬ opensShort projection ∨ context.borrowAvailable = some true,
    context.borrowAvailable.elim "None" boolText, boolText true,
    "new or increased short exposure requires affirmative borrow evidence"⟩

def deliveryCutoffRule (intent : RiskIntent) (context : RiskContext) (protective : Bool)
    (limit : Decimal) : RiskRuleResult :=
  let headroom := context.futuresDeliveryHeadroomSeconds.get? intent.symbol
  ⟨"futures_delivery_cutoff", protective ∨ ∃ seconds ∈ headroom, limit ≤ seconds,
    if protective then "RISK_REDUCTION" else knownText headroom, decimalText limit,
    "new futures risk requires sufficient evidenced delivery headroom"⟩

def deliveryRules (intent : RiskIntent) (context : RiskContext) (policy : RiskPolicy)
    (protective : Bool) : List RiskRuleResult :=
  if intent.instrumentType = .future then
    optionalRule policy.minFuturesDeliveryHeadroomSeconds
      (deliveryCutoffRule intent context protective)
  else []

def reduceOnlyRule (intent : RiskIntent) (context : RiskContext) (projection : Projection)
    (assessment : Assessment) : Except RiskError RiskRuleResult := do
  let currentAfter ← riskAbs assessment.currentAfterIntent
  let after ← riskAbs projection.resulting
  let current ← riskAbs (quantityOf context.positions intent.symbol)
  let before ← riskAbs projection.basePosition
  return ⟨"reduce_only", ¬ intent.reduceOnly ∨
      assessment.reducesAbsoluteExposure ∧ assessment.reducesCurrentExposure,
    if intent.reduceOnly then
      "current=" ++ presentedText currentAfter ++ ";projected=" ++ presentedText after
    else decimalText after,
    if intent.reduceOnly then
      "current<" ++ presentedText current ++ ";projected<" ++ presentedText before
    else decimalText before,
    "reduce-only intent must reduce both current and reserved-inclusive exposure without " ++
      "crossing flat"⟩

/-! ## The evaluation -/

/-- The rules of `evaluate_risk`, in order. -/
def riskRules [Fingerprint] (intent : RiskIntent) (context : RiskContext) (policy : RiskPolicy)
    (store : Option EvidenceStore) (projection : Projection) (assessment : Assessment) :
    Except RiskError (List RiskRuleResult) := do
  let protective := assessment.protectiveReduction
  let derivative ← derivativeRule intent context
  let version ← stateVersionRule intent context
  let position ← projectedAbsPosition projection
  let gross ← grossLeverageRule policy projection protective
  let net ← netLeverageRule policy projection protective
  let asset ← optionalComparison policy.maxAssetConcentrationFraction
    (assetConcentrationRule assessment.asset)
  let venue ← optionalComparison policy.maxVenueConcentrationFraction
    (venueConcentrationRule assessment.venue)
  let participation ← optionalComparison policy.maxOrderParticipationFraction
    (participationRule assessment.participation)
  let negatedPnl ← riskNegate context.dailyPnl
  let tail ← tailRules context policy assessment.tail protective
  let liquidation ← optionalComparison policy.minLiquidationHeadroom
    (liquidationHeadroomRule context store protective)
  let reduceOnly ← reduceOnlyRule intent context projection assessment
  return [derivative, version, capabilityRule context] ++
    optionalRule policy.allowedActions (allowedActionRule intent) ++
    settlementRules context policy ++ exerciseRules intent context policy ++
    [marketFreshnessRule context policy] ++
    optionalRule policy.maxClockAgeSeconds (clockFreshnessRule context) ++
    [fxFreshnessRule context policy, positionLimitRule policy position protective,
      singleNotionalRule policy projection protective, gross, net] ++
    asset ++ venue ++ participation ++
    optionalRule policy.maxSpreadFraction (spreadRule intent context) ++
    optionalRule policy.maxSlippageFraction (slippageRule intent context) ++
    optionalRule policy.maxAbsFactorExposure
      (factorExposureRule assessment.factor protective) ++
    [dailyLossRule policy (maximum negatedPnl 0) protective,
      drawdownRule context policy protective, marginHeadroomRule context policy protective,
      stressCoverageRule context assessment.stress] ++
    optionalRule policy.requiredStressScenarioLabels
      (stressRegimeRule context projection assessment.stress) ++
    [stressLossRule policy assessment.stress protective] ++ tail ++ liquidation ++
    [shortBorrowRule context projection] ++ deliveryRules intent context policy protective ++
    [reduceOnly]

/-- `evaluate_risk`. -/
def evaluateRisk [Fingerprint] (intent : RiskIntent) (context : RiskContext)
    (policy : RiskPolicy) (store : Option EvidenceStore) : Except RiskError RiskDecision := do
  let projection ← project intent context
  let assessment ← assess intent context policy projection
  let rules ← riskRules intent context policy store projection assessment
  let inputFingerprint ← riskInputFingerprint intent context policy
  return {
    admitted := rules.all RiskRuleResult.passed
    resultingPosition := projection.resulting
    grossLeverage := projection.grossLeverage
    netLeverage := projection.netLeverage
    worstStressLoss := assessment.stress.worst
    inputFingerprint := inputFingerprint
    rules := rules
    arithmeticPolicyId := some riskArithmeticPolicyId
    decisionId := none
    intentHash := none
    stateVersion := none
    policyVersion := none
    reservationVersion := none
    reservationRequirements := none
    capabilitySnapshotId := none
    authoritativeRiskSnapshotId := none
    evaluatedAt := none
    validUntil := none }

end AutoTrade.Risk
