import AutoTrade.Risk.Domain

/-!
# The fingerprint of an evaluation

`_risk_input_fingerprint`: the digest of the normalized intent, context and policy.
-/

namespace AutoTrade.Risk

open Lib Numeric

/-- `_fingerprint_value` of a decimal. -/
def decimalPayload (value : Decimal) : Payload := .str (decimalText value)

/-- `_fingerprint_value` of a value or `None`. -/
def optionPayload {α : Type} (image : α → Payload) : Option α → Payload
  | none => .null
  | some value => image value

/-- `_fingerprint_value` of a dictionary. -/
def dictPayload {ν : Type} (image : ν → Payload) (values : Dict String ν) : Payload :=
  .obj (values.entries.map fun entry => (entry.1, image entry.2))

/-- `_fingerprint_value` of a sequence. -/
def listPayload {α : Type} (image : α → Payload) (values : List α) : Payload :=
  .arr (values.map image)

/-- `_fingerprint_value(vars(intent))`. -/
def intentPayload (intent : RiskIntent) : Payload :=
  .obj [("symbol", .str intent.symbol), ("side", .str intent.side.text),
    ("quantity", decimalPayload intent.quantity), ("price", decimalPayload intent.price),
    ("expected_state_version", .int intent.expectedStateVersion),
    ("reduce_only", .bool intent.reduceOnly), ("action", .str intent.action.text),
    ("instrument_type", .str intent.instrumentType.text)]

/-- `_fingerprint_value` of a `LiquidationScope`. -/
def scopePayload (scope : LiquidationScope) : Payload :=
  .obj [("provider_id", .str scope.providerId), ("account_id", .str scope.accountId),
    ("environment", .str scope.environment), ("margin_mode", .str scope.marginMode),
    ("risk_tier_version", .str scope.riskTierVersion)]

/-- `_fingerprint_value` of a `LiquidationHeadroomEvidence`. -/
def evidencePayload (evidence : LiquidationHeadroomEvidence) : Payload :=
  .obj [("headroom", decimalPayload evidence.headroom),
    ("state_version", .int evidence.stateVersion),
    ("provider_id", .str evidence.scope.providerId),
    ("account_id", .str evidence.scope.accountId),
    ("environment", .str evidence.scope.environment),
    ("margin_mode", .str evidence.scope.marginMode),
    ("risk_tier_version", .str evidence.scope.riskTierVersion),
    ("observed_at", .str evidence.observedAt.utcText),
    ("expires_at", .str evidence.expiresAt.utcText), ("artifact_id", .str evidence.artifactId),
    ("sha256", .str evidence.sha256)]

/-- `_fingerprint_value(vars(context))`. -/
def contextPayload (context : RiskContext) : Payload :=
  .obj [("state_version", .int context.stateVersion),
    ("equity", decimalPayload context.equity),
    ("positions", dictPayload decimalPayload context.positions),
    ("marks", dictPayload decimalPayload context.marks),
    ("reserved_position_delta", dictPayload decimalPayload context.reservedPositionDelta),
    ("daily_pnl", decimalPayload context.dailyPnl),
    ("drawdown_fraction", decimalPayload context.drawdownFraction),
    ("market_data_age_seconds", decimalPayload context.marketDataAgeSeconds),
    ("fx_age_seconds", dictPayload decimalPayload context.fxAgeSeconds),
    ("fx_required", .bool context.fxRequired),
    ("margin_headroom", decimalPayload context.marginHeadroom),
    ("capability_allowed", .bool context.capabilityAllowed),
    ("borrow_available", optionPayload .bool context.borrowAvailable),
    ("stress_scenarios", listPayload (dictPayload decimalPayload) context.stressScenarios),
    ("stress_scenario_labels", listPayload .str context.stressScenarioLabels),
    ("tail_scenarios", listPayload (dictPayload decimalPayload) context.tailScenarios),
    ("liquidation_headroom", optionPayload decimalPayload context.liquidationHeadroom),
    ("liquidation_scope", optionPayload scopePayload context.liquidationScope),
    ("liquidation_headroom_evidence",
      optionPayload evidencePayload context.liquidationHeadroomEvidence),
    ("decision_time", optionPayload (fun time => .str time.utcText) context.decisionTime),
    ("asset_buckets", dictPayload .str context.assetBuckets),
    ("venues", dictPayload .str context.venues),
    ("liquidity_capacity", dictPayload decimalPayload context.liquidityCapacity),
    ("factor_loadings", dictPayload (dictPayload decimalPayload) context.factorLoadings),
    ("spread_fraction", dictPayload decimalPayload context.spreadFraction),
    ("slippage_fraction", dictPayload decimalPayload context.slippageFraction),
    ("clock_age_seconds", optionPayload decimalPayload context.clockAgeSeconds),
    ("settlement_allowed", optionPayload .bool context.settlementAllowed),
    ("option_deliverable_verified", optionPayload .bool context.optionDeliverableVerified),
    ("option_exercise_cash_required",
      optionPayload decimalPayload context.optionExerciseCashRequired),
    ("option_exercise_cash_available",
      optionPayload decimalPayload context.optionExerciseCashAvailable),
    ("futures_delivery_headroom_seconds",
      dictPayload decimalPayload context.futuresDeliveryHeadroomSeconds),
    ("equivalent_exposure_per_unit",
      dictPayload decimalPayload context.equivalentExposurePerUnit),
    ("instrument_types", dictPayload (fun type => .str type.text) context.instrumentTypes)]

/-- `_fingerprint_value(vars(policy))`. -/
def policyPayload (policy : RiskPolicy) : Payload :=
  .obj [("max_abs_position", decimalPayload policy.maxAbsPosition),
    ("max_single_notional", decimalPayload policy.maxSingleNotional),
    ("max_gross_leverage", decimalPayload policy.maxGrossLeverage),
    ("max_net_leverage", decimalPayload policy.maxNetLeverage),
    ("max_daily_loss", decimalPayload policy.maxDailyLoss),
    ("max_drawdown_fraction", decimalPayload policy.maxDrawdownFraction),
    ("max_data_age_seconds", decimalPayload policy.maxDataAgeSeconds),
    ("max_fx_age_seconds", decimalPayload policy.maxFxAgeSeconds),
    ("min_margin_headroom", decimalPayload policy.minMarginHeadroom),
    ("max_stress_loss", decimalPayload policy.maxStressLoss),
    ("max_expected_shortfall", optionPayload decimalPayload policy.maxExpectedShortfall),
    ("expected_shortfall_tail_fraction",
      optionPayload decimalPayload policy.expectedShortfallTailFraction),
    ("min_liquidation_headroom", optionPayload decimalPayload policy.minLiquidationHeadroom),
    ("required_stress_scenario_labels",
      optionPayload (listPayload .str) policy.requiredStressScenarioLabels),
    ("required_stress_scenario_digests",
      optionPayload (fun digests => listPayload (fun item => listPayload .str [item.1, item.2])
        digests.entries) policy.requiredStressScenarioDigests),
    ("required_tail_scenario_set_digest",
      optionPayload .str policy.requiredTailScenarioSetDigest),
    ("max_asset_concentration_fraction",
      optionPayload decimalPayload policy.maxAssetConcentrationFraction),
    ("max_venue_concentration_fraction",
      optionPayload decimalPayload policy.maxVenueConcentrationFraction),
    ("max_order_participation_fraction",
      optionPayload decimalPayload policy.maxOrderParticipationFraction),
    ("max_abs_factor_exposure", optionPayload decimalPayload policy.maxAbsFactorExposure),
    ("max_spread_fraction", optionPayload decimalPayload policy.maxSpreadFraction),
    ("max_slippage_fraction", optionPayload decimalPayload policy.maxSlippageFraction),
    ("max_clock_age_seconds", optionPayload decimalPayload policy.maxClockAgeSeconds),
    ("allowed_actions",
      optionPayload (listPayload fun action => .str action.text) policy.allowedActions),
    ("require_settlement_evidence", .bool policy.requireSettlementEvidence),
    ("require_option_exercise_evidence", .bool policy.requireOptionExerciseEvidence),
    ("min_futures_delivery_headroom_seconds",
      optionPayload decimalPayload policy.minFuturesDeliveryHeadroomSeconds)]

/-- The value whose text `_risk_input_fingerprint` digests. -/
def inputPayload (intent : RiskIntent) (context : RiskContext) (policy : RiskPolicy) : Payload :=
  .obj [("arithmetic_policy_id", .str riskArithmeticPolicyId), ("intent", intentPayload intent),
    ("context", contextPayload context), ("policy", policyPayload policy)]

/-- `_risk_input_fingerprint`. -/
def riskInputFingerprint [Fingerprint] (intent : RiskIntent) (context : RiskContext)
    (policy : RiskPolicy) : Except RiskError String := do
  let encoded ← jsonText (inputPayload intent context policy)
  return sha256 encoded

/-! ## The values have texts -/

/-- `str(value)` is within the limit of the interpreter. -/
def ShortInteger (value : ℤ) : Prop := (Json.intText value).integer.length ≤ Json.maxStrDigits

instance (value : ℤ) : Decidable (ShortInteger value) := inferInstanceAs (Decidable (_ ≤ _))

@[simp] theorem writable_decimalPayload (value : Decimal) :
    (decimalPayload value).Writable = true := rfl

@[simp] theorem writable_optionPayload {α : Type} {image : α → Payload} {value : Option α} :
    (optionPayload image value).Writable = true ↔
      ∀ inner ∈ value, (image inner).Writable = true := by
  cases value with
  | none => simp [optionPayload, Json.Writable]
  | some inner => simp [optionPayload]

@[simp] theorem writable_dictPayload {ν : Type} {image : ν → Payload} {values : Dict String ν} :
    (dictPayload image values).Writable = true ↔
      ∀ value ∈ values.values, (image value).Writable = true := by
  rw [dictPayload, Json.Writable, Json.writableMembers_iff, Dict.values]
  simp only [List.forall_mem_map]

@[simp] theorem writable_listPayload {α : Type} {image : α → Payload} {values : List α} :
    (listPayload image values).Writable = true ↔
      ∀ value ∈ values, (image value).Writable = true := by
  rw [listPayload, Json.Writable, Json.writableItems_iff]
  simp only [List.forall_mem_map]

@[simp] theorem writable_str (text : String) : (Json.str text : Payload).Writable = true := rfl

@[simp] theorem writable_bool (value : Bool) : (Json.bool value : Payload).Writable = true := rfl

@[simp] theorem writable_int {value : ℤ} :
    (Json.int value : Payload).Writable = true ↔ ShortInteger value := by
  rw [Json.Writable, decide_eq_true_eq, ShortInteger]

theorem writable_obj {members : List (String × Payload)} :
    (Json.obj members : Payload).Writable = true ↔
      ∀ value ∈ members.map Prod.snd, value.Writable = true := by
  rw [Json.Writable, Json.writableMembers_iff]
  simp only [List.forall_mem_map]

theorem writable_intentPayload {intent : RiskIntent} :
    (intentPayload intent).Writable = true ↔ ShortInteger intent.expectedStateVersion := by
  simp [intentPayload, writable_obj]

theorem writable_scopePayload (scope : LiquidationScope) :
    (scopePayload scope).Writable = true := rfl

theorem writable_evidencePayload {evidence : LiquidationHeadroomEvidence} :
    (evidencePayload evidence).Writable = true ↔ ShortInteger evidence.stateVersion := by
  simp [evidencePayload, writable_obj]

theorem writable_contextPayload {context : RiskContext} :
    (contextPayload context).Writable = true ↔ ShortInteger context.stateVersion := by
  have fields : (contextPayload context).Writable = true ↔ ShortInteger context.stateVersion ∧
      ∀ evidence ∈ context.liquidationHeadroomEvidence, ShortInteger evidence.stateVersion := by
    simp [contextPayload, writable_obj, writable_scopePayload, writable_evidencePayload]
  rw [fields]
  apply and_iff_left_of_imp
  intro short evidence present
  rw [(context.evidenceScoped evidence present).2.2.1]
  exact short

theorem writable_policyPayload (policy : RiskPolicy) : (policyPayload policy).Writable = true := by
  simp [policyPayload, writable_obj]

/-- The fingerprint exists when the state versions have texts. -/
theorem writable_inputPayload {intent : RiskIntent} {context : RiskContext}
    {policy : RiskPolicy} : (inputPayload intent context policy).Writable = true ↔
      ShortInteger intent.expectedStateVersion ∧ ShortInteger context.stateVersion := by
  simp [inputPayload, writable_obj, writable_intentPayload, writable_contextPayload,
    writable_policyPayload]

end AutoTrade.Risk
