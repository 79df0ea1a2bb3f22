import AutoTrade.Risk.Raising

/-!
# Evaluations that return

Which inputs an evaluation decides on, as long as its arithmetic stays inside the envelope.
-/

namespace AutoTrade.Risk

open Lib Numeric

variable {intent : RiskIntent} {context : RiskContext} {policy : RiskPolicy}

/-- The scenarios that an evaluation reads for the portfolio before the intent. -/
def BaseCovered (context : RiskContext) (scenarios : List Scenario) : Prop :=
  ∀ scenario ∈ scenarios, ∀ symbol, baseQuantity context symbol ≠ 0 → symbol ∈ scenario.keys

/-- What an evaluation needs besides the marks. -/
structure Evaluable (intent : RiskIntent) (context : RiskContext) (policy : RiskPolicy) :
    Prop where
  directional : DirectionalPositive intent context
  versions : ShortInteger context.stateVersion ∧ ShortInteger intent.expectedStateVersion
  /-- An intent that closes the portfolio has scenarios for what it closes. -/
  closing : (∀ symbol, projectedQuantity intent context symbol = 0) →
    BaseCovered context context.stressScenarios ∧
      (policy.maxExpectedShortfall.isSome = true → BaseCovered context context.tailScenarios)

theorem covers_base_iff {projection : Projection} (projected : Projected intent context projection)
    {scenarios : List Scenario} :
    Covers scenarios projection.baseNotionals ↔ BaseCovered context scenarios := by
  simp only [Covers, BaseCovered, projected.baseKeys]

theorem keys_eq_nil_iff {projection : Projection} (projected : Projected intent context projection) :
    projection.notionals.keys = [] ↔ ∀ symbol, projectedQuantity intent context symbol = 0 := by
  simp only [List.eq_nil_iff_forall_not_mem, projected.keys, not_not]

theorem flatCovered_iff {projection : Projection}
    (projected : Projected intent context projection) :
    FlatCovered context policy projection.notionals projection.baseNotionals ↔
      ((∀ symbol, projectedQuantity intent context symbol = 0) →
        BaseCovered context context.stressScenarios ∧
          (policy.maxExpectedShortfall.isSome = true →
            BaseCovered context context.tailScenarios)) := by
  rw [FlatCovered, keys_eq_nil_iff projected, covers_base_iff projected, covers_base_iff projected]

/-- A marked portfolio with consistent types is evaluated, while the arithmetic stays inside the
envelope, exactly when its exposures are directional, its versions short and, for an intent that
closes the portfolio, the scenarios cover what it closes. -/
theorem evaluation_returns_iff [Fingerprint] {store : Option EvidenceStore}
    (marked : Marked intent context)
    (inside : ∀ operation,
      evaluateRisk intent context policy store ≠ .error (.arithmetic operation)) :
    (∃ decision, evaluateRisk intent context policy store = .ok decision) ↔
      Evaluable intent context policy := by
  constructor
  · intro returns
    obtain ⟨decision, success⟩ := returns
    simp only [evaluateRisk, bind_eq_ok] at success
    obtain ⟨projection, projectEq, assessment, assessEq, rules, rulesEq, _⟩ := success
    have projected := project_eq_ok projectEq
    constructor
    · exact projected.directional
    · exact short_of_riskRules rulesEq
    · exact (flatCovered_iff projected).mp (flatCovered_of_assess assessEq)
  · intro evaluable
    have only : RaisesOnly RiskError.IsArithmetic (evaluateRisk intent context policy store) := by
      apply (raisesOnly_project marked evaluable.directional).bind
      intro projection projectEq
      have flat := (flatCovered_iff (project_eq_ok projectEq)).mpr evaluable.closing
      apply (raisesOnly_assess flat).then
      intro assessment
      apply (raisesOnly_riskRules evaluable.versions.1 evaluable.versions.2).then
      intro rules
      apply (raisesOnly_riskInputFingerprint evaluable.versions.1 evaluable.versions.2).then
      intro inputFingerprint
      exact raisesOnly_pure
    apply only.returns
    intro error arithmetic
    cases error with
    | arithmetic operation => exact inside operation
    | valueError message => exact arithmetic.elim
    | typeError message => exact arithmetic.elim
    | keyError key => exact arithmetic.elim

/-! ## Closing a portfolio of one symbol -/

/-- A small whole amount. -/
def amount (number : Fin 10000) : Decimal :=
  Decimal.whole number (number.isLt.trans (by decide))

/-- One unit of `A` at a price of 100. -/
def heldContext (scenarios : List Scenario)
    (normal : ∀ scenario ∈ scenarios, ∀ key ∈ scenario.keys, Normal key) : RiskContext where
  stateVersion := 7
  equity := amount 1000
  positions := ⟨[("A", amount 1)], by simp⟩
  marks := ⟨[("A", amount 100)], by simp⟩
  reservedPositionDelta := ∅
  dailyPnl := 0
  drawdownFraction := 0
  marketDataAgeSeconds := 0
  fxAgeSeconds := ∅
  fxRequired := false
  marginHeadroom := amount 500
  capabilityAllowed := true
  borrowAvailable := none
  stressScenarios := scenarios
  stressScenarioLabels := []
  tailScenarios := []
  liquidationHeadroom := none
  liquidationScope := none
  liquidationHeadroomEvidence := none
  decisionTime := none
  assetBuckets := ∅
  venues := ∅
  liquidityCapacity := ∅
  factorLoadings := ∅
  spreadFraction := ∅
  slippageFraction := ∅
  clockAgeSeconds := none
  settlementAllowed := none
  optionDeliverableVerified := none
  optionExerciseCashRequired := none
  optionExerciseCashAvailable := none
  futuresDeliveryHeadroomSeconds := ∅
  equivalentExposurePerUnit := ∅
  instrumentTypes := ⟨[("A", .spot)], by simp⟩
  equity_pos := by decide +kernel
  marks_pos := by decide +kernel
  drawdown_bounded := by decide +kernel
  dataAge_nonneg := by decide +kernel
  ages_nonneg := by decide
  margin_nonneg := by decide +kernel
  options_nonneg := by decide
  exposures_ne_zero := by decide
  labelsNormal := by decide
  labelsAligned := Or.inl rfl
  evidenceScoped := by decide
  keysNormal := ⟨by decide +kernel, by simpa using normal, by decide⟩

def closingIntent : RiskIntent where
  symbol := "A"
  side := .sell
  quantity := amount 1
  price := amount 100
  expectedStateVersion := 7
  reduceOnly := true
  action := .flatten
  instrumentType := .spot
  symbolNormal := by decide +kernel
  quantity_pos := by decide +kernel
  price_pos := by decide +kernel
  reducing := fun _ => rfl
  exercising := by decide

def basicPolicy : RiskPolicy where
  maxAbsPosition := amount 10
  maxSingleNotional := amount 1000
  maxGrossLeverage := amount 2
  maxNetLeverage := amount 2
  maxDailyLoss := amount 100
  maxDrawdownFraction := amount 1
  maxDataAgeSeconds := amount 60
  maxFxAgeSeconds := amount 60
  minMarginHeadroom := amount 100
  maxStressLoss := amount 100
  maxExpectedShortfall := none
  expectedShortfallTailFraction := none
  minLiquidationHeadroom := none
  requiredStressScenarioLabels := none
  requiredStressScenarioDigests := none
  requiredTailScenarioSetDigest := none
  maxAssetConcentrationFraction := none
  maxVenueConcentrationFraction := none
  maxOrderParticipationFraction := none
  maxAbsFactorExposure := none
  maxSpreadFraction := none
  maxSlippageFraction := none
  maxClockAgeSeconds := none
  allowedActions := none
  requireSettlementEvidence := false
  requireOptionExerciseEvidence := false
  minFuturesDeliveryHeadroomSeconds := none
  position_pos := by decide +kernel
  notional_pos := by decide +kernel
  gross_pos := by decide +kernel
  net_pos := by decide +kernel
  dailyLoss_nonneg := by decide +kernel
  drawdown_nonneg := by decide +kernel
  dataAge_nonneg := by decide +kernel
  fxAge_nonneg := by decide +kernel
  margin_nonneg := by decide +kernel
  stressLoss_nonneg := by decide +kernel
  shortfall_nonneg := by decide
  tail_bounded := by decide
  tailTogether := by decide
  liquidation_nonneg := by decide
  labelsNormal := by decide
  digestsCanonical := by decide
  labelsTogether := ⟨rfl, fun _ absent => nomatch absent⟩
  tailDigestCanonical := by decide
  fractions_bounded := by decide
  factor_nonneg := by decide
  clock_nonneg := by decide
  actionsDistinct := by decide
  delivery_nonneg := by decide

/-- A scenario for another symbol. -/
theorem loss_bounded : (-1 : Int).natAbs < 10 ^ maxSignificantDigits := by decide

def otherShock : Scenario := ⟨[("B", tenths (-1) loss_bounded)], by simp⟩

def coveredContext : RiskContext := heldContext [shocked (tenths (-1) loss_bounded)] (by decide +kernel)

def uncoveredContext : RiskContext := heldContext [otherShock] (by decide +kernel)

theorem baseQuantity_held {scenarios : List Scenario}
    (normal : ∀ scenario ∈ scenarios, ∀ key ∈ scenario.keys, Normal key) {symbol : String}
    (other : symbol ≠ "A") : baseQuantity (heldContext scenarios normal) symbol = 0 := by
  have absent : quantityOf (heldContext scenarios normal).positions symbol = 0 := by
    simp [quantityOf, heldContext, Dict.get?, Dict.find?, other.symm]
  rw [baseQuantity, absent]
  exact add_zero 0

theorem marked_closing {scenarios : List Scenario}
    (normal : ∀ scenario ∈ scenarios, ∀ key ∈ scenario.keys, Normal key) :
    Marked closingIntent (heldContext scenarios normal) where
  own := List.mem_singleton.mpr rfl
  projected symbol held := by
    by_contra absent
    have other : symbol ≠ closingIntent.symbol := fun same =>
      absent (List.mem_singleton.mpr same)
    apply held
    rw [projectedQuantity, baseQuantity_held normal other, if_neg other, add_zero]
  declared declared found := (Option.some.inj found).symm

/-- Closing the whole portfolio raises `KeyError` when a stress scenario lacks the symbol. -/
theorem close_without_scenario :
    letI := Fingerprint.flat
    Marked closingIntent uncoveredContext ∧
    (∀ operation, evaluateRisk closingIntent uncoveredContext basicPolicy none ≠
      .error (.arithmetic operation)) ∧
    ¬ ∃ decision, evaluateRisk closingIntent uncoveredContext basicPolicy none = .ok decision := by
  have raised : @evaluateRisk Fingerprint.flat closingIntent uncoveredContext basicPolicy none =
      .error (.keyError "A") := by decide +kernel
  refine ⟨marked_closing _, ?_, ?_⟩
  · intro operation arithmetic
    rw [raised] at arithmetic
    cases arithmetic
  · intro returns
    obtain ⟨decision, success⟩ := returns
    rw [raised] at success
    cases success

theorem evaluation_returns_iff_closing :
    letI := Fingerprint.flat
    ∃ decision, evaluateRisk closingIntent coveredContext basicPolicy none = .ok decision := by
  let := Fingerprint.flat
  have computed : (evaluateRisk closingIntent coveredContext basicPolicy none).toOption.isSome := by
    decide +kernel
  have inside : ∀ operation, evaluateRisk closingIntent coveredContext basicPolicy none ≠
      .error (.arithmetic operation) := by
    intro operation raised
    rw [raised] at computed
    cases computed
  apply (evaluation_returns_iff (marked_closing _) inside).mpr
  constructor
  · intro symbol type _ _ exposure found
    exact absurd found (Option.not_mem_none exposure)
  · exact ⟨by decide, by decide⟩
  · intro _
    constructor
    · intro scenario listed symbol held
      have same : symbol = "A" := by
        by_contra other
        exact held (baseQuantity_held _ other)
      rw [List.mem_singleton.mp listed, same]
      exact List.mem_singleton.mpr rfl
    · intro limited
      cases limited

end AutoTrade.Risk
