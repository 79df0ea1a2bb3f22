import AutoTrade.Lib.Mirror
import AutoTrade.Risk.Admission

/-!
# Stricter policies

An evaluation under a policy mirrors the one under a stricter policy: it returns wherever the
other one does, and each of its rules passes where the stricter rule does.
-/

namespace AutoTrade.Risk

open Lib Numeric

/-- What the first option holds, the second one bounds in the order. -/
abbrev Configured {α : Type} (order : α → α → Prop) (loose strict : Option α) : Prop :=
  ∀ limit ∈ loose, ∃ own ∈ strict, order own limit

/-- A maximum of the first policy is one of the second policy, no higher. -/
abbrev Capped (limit : RiskPolicy → Option Decimal) (loose strict : RiskPolicy) : Prop :=
  Configured (· ≤ ·) (limit loose) (limit strict)

/-- The second policy configures what the first one does, at least as strictly. -/
structure Stricter (loose strict : RiskPolicy) : Prop where
  position : strict.maxAbsPosition ≤ loose.maxAbsPosition
  notional : strict.maxSingleNotional ≤ loose.maxSingleNotional
  gross : strict.maxGrossLeverage ≤ loose.maxGrossLeverage
  net : strict.maxNetLeverage ≤ loose.maxNetLeverage
  dailyLoss : strict.maxDailyLoss ≤ loose.maxDailyLoss
  drawdown : strict.maxDrawdownFraction ≤ loose.maxDrawdownFraction
  dataAge : strict.maxDataAgeSeconds ≤ loose.maxDataAgeSeconds
  fxAge : strict.maxFxAgeSeconds ≤ loose.maxFxAgeSeconds
  stressLoss : strict.maxStressLoss ≤ loose.maxStressLoss
  margin : loose.minMarginHeadroom ≤ strict.minMarginHeadroom
  asset : Capped (·.maxAssetConcentrationFraction) loose strict
  venue : Capped (·.maxVenueConcentrationFraction) loose strict
  participation : Capped (·.maxOrderParticipationFraction) loose strict
  factor : Capped (·.maxAbsFactorExposure) loose strict
  spread : Capped (·.maxSpreadFraction) loose strict
  slippage : Capped (·.maxSlippageFraction) loose strict
  clockAge : Capped (·.maxClockAgeSeconds) loose strict
  liquidation : Configured (· ≥ ·) loose.minLiquidationHeadroom strict.minLiquidationHeadroom
  delivery : Configured (· ≥ ·) loose.minFuturesDeliveryHeadroomSeconds
    strict.minFuturesDeliveryHeadroomSeconds
  shortfall : Configured (fun own limit => own ≤ limit ∧
      strict.expectedShortfallTailFraction = loose.expectedShortfallTailFraction ∧
      strict.requiredTailScenarioSetDigest = loose.requiredTailScenarioSetDigest)
    loose.maxExpectedShortfall strict.maxExpectedShortfall
  labels : Configured (fun own required => own = required ∧
      strict.requiredStressScenarioDigests = loose.requiredStressScenarioDigests)
    loose.requiredStressScenarioLabels strict.requiredStressScenarioLabels
  actions : Configured (· ⊆ ·) loose.allowedActions strict.allowedActions
  settlement : loose.requireSettlementEvidence = true → strict.requireSettlementEvidence = true
  exercise : loose.requireOptionExerciseEvidence = true →
    strict.requireOptionExerciseEvidence = true

variable {intent : RiskIntent} {context : RiskContext} {loose strict : RiskPolicy}
  {store : Option EvidenceStore} {projection : Projection}

/-! ## Assessments -/

/-- Results that agree where something is configured. -/
def Agree {α β : Type} (configured : Option β) (tight slack : α) : Prop :=
  ∀ limit ∈ configured, slack = tight

/-- What is computed for a configured limit does not depend on the limit. -/
theorem mirrors_configured {α β : Type} {order : β → β → Prop}
    (compute : Option β → Except RiskError α) {looseLimit strictLimit : Option β} {absent : α}
    (covered : Configured order looseLimit strictLimit) (none_eq : compute none = .ok absent)
    (some_eq : ∀ own limit, compute (some own) = compute (some limit)) :
    Mirrors (Agree looseLimit) (compute strictLimit) (compute looseLimit) := by
  intro value returned
  cases looseLimit with
  | none => exact ⟨absent, none_eq, fun _ configured => nomatch configured⟩
  | some limit =>
      obtain ⟨own, rfl, _⟩ := covered limit rfl
      exact ⟨value, (some_eq limit own).trans returned, fun _ _ => rfl⟩

/-- Stress results with the same losses, whose regimes agree where labels are required. -/
structure SameLosses (loose : RiskPolicy) (tight slack : StressResult) : Prop where
  regime : Agree loose.requiredStressScenarioLabels tight.regimeComplete slack.regimeComplete
  covered : slack.coverageComplete = tight.coverageComplete
  worst : slack.worst = tight.worst
  baseWorst : slack.baseWorst = tight.baseWorst

/-- What an assessment under a policy shares with the one under a stricter policy. -/
structure Relaxes (loose : RiskPolicy) (tight slack : Assessment) : Prop where
  asset : Agree loose.maxAssetConcentrationFraction tight.asset slack.asset
  venue : Agree loose.maxVenueConcentrationFraction tight.venue slack.venue
  participation : Agree loose.maxOrderParticipationFraction tight.participation
    slack.participation
  factor : Agree loose.maxAbsFactorExposure tight.factor slack.factor
  stress : SameLosses loose tight.stress slack.stress
  tail : Agree loose.maxExpectedShortfall tight.tail slack.tail
  reducesAbsolute : slack.reducesAbsoluteExposure = tight.reducesAbsoluteExposure
  currentAfter : slack.currentAfterIntent = tight.currentAfterIntent
  reducesCurrent : slack.reducesCurrentExposure = tight.reducesCurrentExposure
  protective : tight.protectiveReduction ≤ slack.protectiveReduction

/-- The exemption of the stricter policy is one of the other policy. -/
theorem tailNonworsening_of_stricter (stricter : Stricter loose strict) {tight slack : TailResult}
    (same : Agree loose.maxExpectedShortfall tight slack)
    (holds : tailNonworsening strict projection tight = true) :
    tailNonworsening loose projection slack = true := by
  rw [tailNonworsening, decide_eq_true_eq] at holds ⊢
  cases limited : loose.maxExpectedShortfall with
  | none => exact Or.inl rfl
  | some limit =>
      obtain ⟨own, ownEq, _⟩ := stricter.shortfall limit limited
      rw [same limit limited]
      rw [ownEq] at holds
      exact Or.inr (holds.resolve_left (Option.some_ne_none own))

section Assess

variable [Fingerprint] {notionals baseNotionals : Dict String Decimal}

theorem mirrors_stressOf (stricter : Stricter loose strict) :
    Mirrors (SameLosses loose) (stressOf context strict notionals baseNotionals)
      (stressOf context loose notionals baseNotionals) := by
  have regimes : Mirrors (Agree loose.requiredStressScenarioLabels)
      (stressRegime context strict notionals) (stressRegime context loose notionals) := by
    intro value returned
    cases configured : loose.requiredStressScenarioLabels with
    | none =>
        rw [stressRegime, configured]
        exact ⟨_, rfl, fun _ present => by cases present⟩
    | some required =>
        obtain ⟨_, labels, rfl, digests⟩ := stricter.labels required configured
        rw [stressRegime, labels, digests] at returned
        rw [stressRegime, configured]
        exact ⟨value, returned, fun _ _ => rfl⟩
  apply regimes.bind
  intro tight slack same
  apply mirrors_same
  intro losses
  apply mirrors_pure
  exact ⟨fun required present => congrArg Prod.fst (same required present), rfl, rfl, rfl⟩

theorem mirrors_tailOf (stricter : Stricter loose strict) :
    Mirrors (Agree loose.maxExpectedShortfall) (tailOf context strict notionals baseNotionals)
      (tailOf context loose notionals baseNotionals) := by
  intro value returned
  cases limited : loose.maxExpectedShortfall with
  | none =>
      rw [tailOf, limited]
      exact ⟨_, rfl, fun _ present => by cases present⟩
  | some limit =>
      obtain ⟨own, ownEq, _, fraction, digest⟩ := stricter.shortfall limit limited
      rw [tailOf, ownEq, fraction, digest] at returned
      rw [tailOf, limited]
      refine ⟨value, ?_, fun _ _ => rfl⟩
      cases fractionEq : loose.expectedShortfallTailFraction <;> rwa [fractionEq] at returned

/-- The assessments of the two runs. -/
theorem mirrors_assess (stricter : Stricter loose strict) :
    Mirrors (Relaxes loose) (assess intent context strict projection)
      (assess intent context loose projection) := by
  apply (mirrors_configured (fun limit => concentrationOf limit _ _ _ _) stricter.asset rfl
    (by simp [concentrationOf])).bind
  intro _ _ asset
  apply (mirrors_configured (fun limit => concentrationOf limit _ _ _ _) stricter.venue rfl
    (by simp [concentrationOf])).bind
  intro _ _ venue
  apply (mirrors_configured (fun limit => participationOf limit _ _) stricter.participation rfl
    (by intro own limit; cases context.liquidityCapacity.get? intent.symbol <;> rfl)).bind
  intro _ _ participation
  apply (mirrors_configured (fun limit => factorExposureOf limit _ _ _) stricter.factor rfl
    (by simp [factorExposureOf])).bind
  intro _ _ factor
  apply (mirrors_stressOf stricter).bind
  intro _ _ losses
  apply (mirrors_tailOf stricter).bind
  intro _ _ tail
  apply mirrors_same
  intro reducesAbsolute
  apply mirrors_same
  intro currentAfter
  apply mirrors_same
  intro reducesCurrent
  apply mirrors_pure
  refine ⟨asset, venue, participation, factor, losses, tail, rfl, rfl, rfl, ?_⟩
  intro protects
  rw [decide_eq_true_eq] at protects ⊢
  obtain ⟨reduceOnly, absolute, current, gross, net, stress, tails⟩ := protects
  refine ⟨reduceOnly, absolute, current, gross, net, ?_,
    tailNonworsening_of_stricter stricter tail tails⟩
  rwa [stressNonworsening, losses.covered, losses.worst, losses.baseWorst]

end Assess

/-! ## Rules -/

/-- The second rule passes where the first one does. -/
def Looser (tight slack : RiskRuleResult) : Prop := tight.passed ≤ slack.passed

/-- The second rules all pass where the first ones do. -/
def Admits (tight slack : List RiskRuleResult) : Prop :=
  tight.all RiskRuleResult.passed ≤ slack.all RiskRuleResult.passed

theorem le_of_tighter {value own limit : Decimal} (within : value ≤ own) (tighter : own ≤ limit) :
    value ≤ limit :=
  Decimal.le_def.mpr ((Decimal.le_def.mp within).trans (Decimal.le_def.mp tighter))

/-- The fraction of a decimal is inside the envelope. -/
theorem boundedFraction_toRat (value : Decimal) : boundedFraction value.toRat = .ok value.toRat := by
  obtain ⟨_, valid, _⟩ := bind_eq_ok.mp (validate_terminating_eq_ok.mpr (Eq.refl value.toRat))
  rw [boundedFraction, valid]
  rfl

section Limits

variable {name reason observed : String} {own limit : Decimal} {tight slack : Bool}

theorem looser_ceilingRule {value : Decimal} (tighter : own ≤ limit) (protects : tight ≤ slack) :
    Looser (ceilingRule name value own tight reason) (ceilingRule name value limit slack reason) := by
  intro passed
  simp only [ceilingRule, decide_eq_true_eq] at passed ⊢
  exact passed.imp (fun within => le_of_tighter within tighter) protects

theorem looser_observedRule {observation : Option Decimal} (tighter : own ≤ limit) :
    Looser (observedRule name observation reason own)
      (observedRule name observation reason limit) := by
  intro passed
  simp only [observedRule, decide_eq_true_eq] at passed ⊢
  obtain ⟨value, known, within⟩ := passed
  exact ⟨value, known, le_of_tighter within tighter⟩

theorem mirrors_fractionLeDecimal {fraction : ℚ} (tighter : own ≤ limit) :
    Mirrors (· ≤ ·) (fractionLeDecimal fraction own) (fractionLeDecimal fraction limit) := by
  apply mirrors_same
  intro value
  rw [boundedFraction_toRat, boundedFraction_toRat]
  apply mirrors_pure
  intro within
  rw [decide_eq_true_eq] at within ⊢
  exact within.trans (Decimal.le_def.mp tighter)

theorem mirrors_leverageRule {fraction : ℚ} {report : Decimal} (tighter : own ≤ limit)
    (protects : tight ≤ slack) :
    Mirrors Looser (leverageRule name fraction report own tight reason)
      (leverageRule name fraction report limit slack reason) := by
  apply (mirrors_fractionLeDecimal tighter).bind
  intro within image weaker
  apply mirrors_pure
  intro passed
  rw [Bool.or_eq_true] at passed ⊢
  exact passed.imp weaker protects

theorem mirrors_fractionRule {complete : Bool} {fraction : ℚ} (tighter : own ≤ limit) :
    Mirrors Looser (fractionRule name complete fraction observed reason own)
      (fractionRule name complete fraction observed reason limit) := by
  cases complete with
  | false => exact mirrors_same fun _ => mirrors_pure id
  | true => exact (mirrors_fractionLeDecimal tighter).bind fun _ _ weaker => mirrors_pure weaker

theorem mirrors_expectedShortfallRule {tail : TailResult} (tighter : own ≤ limit)
    (protects : tight ≤ slack) :
    Mirrors Looser (expectedShortfallRule tail tight own)
      (expectedShortfallRule tail slack limit) := by
  refine Mirrors.bind (?_ : Mirrors (· ≤ ·) _ _) ?_
  · cases tail.shortfallFraction with
    | none => exact mirrors_pure id
    | some fraction =>
        cases tail.coverageComplete with
        | false => exact mirrors_pure id
        | true => exact mirrors_fractionLeDecimal tighter
  · intro within image weaker
    apply mirrors_pure
    intro passed
    simp only [decide_eq_true_eq] at passed ⊢
    exact ⟨passed.1, passed.2.1, passed.2.2.imp weaker protects⟩

theorem mirrors_liquidationHeadroomRule [Fingerprint] (tighter : limit ≤ own)
    (protects : tight ≤ slack) :
    Mirrors Looser (liquidationHeadroomRule context store tight own)
      (liquidationHeadroomRule context store slack limit) := by
  apply mirrors_same
  intro verified
  apply mirrors_pure
  intro passed
  simp only [decide_eq_true_eq] at passed ⊢
  obtain ⟨valid, headroom, known, met⟩ := passed
  exact ⟨valid, headroom, known, met.imp (le_of_tighter tighter) protects⟩

end Limits

section Optional

variable {α : Type} {order : α → α → Prop} {looseLimit strictLimit : Option α}

theorem admits_optionalRule {tight slack : α → RiskRuleResult}
    (covered : Configured order looseLimit strictLimit)
    (rules : ∀ own, ∀ limit ∈ looseLimit, order own limit → Looser (tight own) (slack limit)) :
    Admits (optionalRule strictLimit tight) (optionalRule looseLimit slack) := by
  cases looseLimit with
  | none => exact fun _ => rfl
  | some limit =>
      obtain ⟨own, rfl, tighter⟩ := covered limit rfl
      simpa [Admits, Looser, optionalRule] using rules own limit rfl tighter

theorem mirrors_optionalComparison {tight slack : α → Except RiskError RiskRuleResult}
    (covered : Configured order looseLimit strictLimit)
    (rules : ∀ own, ∀ limit ∈ looseLimit, order own limit →
      Mirrors Looser (tight own) (slack limit)) :
    Mirrors Admits (optionalComparison strictLimit tight) (optionalComparison looseLimit slack) := by
  cases looseLimit with
  | none => exact fun _ _ => ⟨[], rfl, fun _ => rfl⟩
  | some limit =>
      obtain ⟨own, rfl, tighter⟩ := covered limit rfl
      apply (rules own limit rfl tighter).bind
      intro value image looser
      apply mirrors_pure
      simpa [Admits, Looser] using looser

end Optional

theorem admits_ite {tight slack : Prop} [Decidable tight] [Decidable slack]
    {rules : List RiskRuleResult} (required : slack → tight) :
    Admits (if tight then rules else []) (if slack then rules else []) := by
  intro passed
  split
  next needed => rwa [if_pos (required needed)] at passed
  next => rfl

theorem mirrors_tailRules (stricter : Stricter loose strict) {tight slack : TailResult}
    {protective exempt : Bool} (same : Agree loose.maxExpectedShortfall tight slack)
    (protects : protective ≤ exempt) :
    Mirrors Admits (tailRules context strict tight protective)
      (tailRules context loose slack exempt) := by
  rw [tailRules, tailRules]
  cases limited : loose.maxExpectedShortfall with
  | none => exact fun _ _ => ⟨[], rfl, fun _ => rfl⟩
  | some limit =>
      obtain ⟨own, ownEq, tighter, _⟩ := stricter.shortfall limit limited
      rw [ownEq, same limit limited]
      apply (mirrors_expectedShortfallRule tighter protects).bind
      intro value image looser
      apply mirrors_pure
      intro passed
      simp only [List.all_cons, List.all_nil, Bool.and_true, Bool.and_eq_true] at passed ⊢
      exact passed.imp_right looser

section Evaluate

variable [Fingerprint]

/-- The rules of the two runs. -/
theorem mirrors_riskRules (stricter : Stricter loose strict) {tight slack : Assessment}
    (relaxes : Relaxes loose tight slack) :
    Mirrors Admits (riskRules intent context strict store projection tight)
      (riskRules intent context loose store projection slack) := by
  have protects := relaxes.protective
  apply mirrors_same
  intro derivative
  apply mirrors_same
  intro version
  apply mirrors_same
  intro position
  apply (mirrors_leverageRule stricter.gross protects).bind
  intro _ _ gross
  apply (mirrors_leverageRule stricter.net protects).bind
  intro _ _ net
  apply (mirrors_optionalComparison stricter.asset fun _ limit limited tighter =>
    (relaxes.asset limit limited).symm ▸ mirrors_fractionRule tighter).bind
  intro _ _ asset
  apply (mirrors_optionalComparison stricter.venue fun _ limit limited tighter =>
    (relaxes.venue limit limited).symm ▸ mirrors_fractionRule tighter).bind
  intro _ _ venue
  apply (mirrors_optionalComparison stricter.participation fun _ limit limited tighter =>
    (relaxes.participation limit limited).symm ▸ mirrors_fractionRule tighter).bind
  intro _ _ participation
  apply mirrors_same
  intro negatedPnl
  apply (mirrors_tailRules stricter relaxes.tail protects).bind
  intro _ _ tail
  apply (mirrors_optionalComparison stricter.liquidation fun _ _ _ tighter =>
    mirrors_liquidationHeadroomRule tighter protects).bind
  intro _ _ liquidation
  rw [reduceOnlyRule, reduceOnlyRule, relaxes.currentAfter, relaxes.reducesAbsolute,
    relaxes.reducesCurrent]
  apply mirrors_same
  intro reduceOnly
  apply mirrors_pure
  intro passed
  simp only [List.all_append, List.all_cons, List.all_nil, Bool.and_true, Bool.and_eq_true,
    and_assoc] at passed ⊢
  obtain ⟨derived, current, capable, actions, settled, exercised, fresh, clock, fx, held, single,
    grossHeld, netHeld, assetHeld, venueHeld, participated, spread, slippage, factor, daily,
    drawn, margin, covered, regime, stressed, tailHeld, liquidated, borrowed, delivered,
    reduced⟩ := passed
  refine ⟨derived, current, capable, ?_, admits_ite stricter.settlement settled,
    admits_ite (And.imp_left stricter.exercise) exercised, ?_, ?_, ?_,
    looser_ceilingRule stricter.position protects held,
    looser_ceilingRule stricter.notional protects single,
    gross grossHeld, net netHeld, asset assetHeld, venue venueHeld, participation participated,
    ?_, ?_, ?_,
    looser_ceilingRule stricter.dailyLoss protects daily,
    looser_ceilingRule stricter.drawdown protects drawn,
    ?_, ?_, ?_, ?_, tail tailHeld, liquidation liquidated, borrowed, ?_, reduced⟩
  · exact admits_optionalRule stricter.actions (fun own allowed _ subset permitted => by
      simp only [allowedActionRule, decide_eq_true_eq] at permitted ⊢
      exact subset permitted) actions
  · simp only [marketFreshnessRule, decide_eq_true_eq] at fresh ⊢
    exact le_of_tighter fresh stricter.dataAge
  · exact admits_optionalRule stricter.clockAge (fun _ _ _ => looser_observedRule) clock
  · simp only [fxFreshnessRule, decide_eq_true_eq] at fx ⊢
    exact fx.imp_right fun within => le_of_tighter within stricter.fxAge
  · exact admits_optionalRule stricter.spread (fun _ _ _ => looser_observedRule) spread
  · exact admits_optionalRule stricter.slippage (fun _ _ _ => looser_observedRule) slippage
  · refine admits_optionalRule stricter.factor ?_ factor
    intro own limit limited tighter passed
    rw [relaxes.factor limit limited]
    simp only [factorExposureRule, decide_eq_true_eq] at passed ⊢
    exact passed.imp_right (Or.imp (fun within => le_of_tighter within tighter)
      (And.imp_left protects))
  · simp only [marginHeadroomRule, decide_eq_true_eq] at margin ⊢
    exact margin.imp (le_of_tighter stricter.margin) protects
  · rwa [stressCoverageRule, relaxes.stress.covered]
  · exact admits_optionalRule stricter.labels (fun _ required present _ complete => by
      rwa [stressRegimeRule, relaxes.stress.regime required present]) regime
  · simp only [stressLossRule, decide_eq_true_eq] at stressed ⊢
    rw [relaxes.stress.covered, relaxes.stress.worst]
    exact stressed.imp_right
      (Or.imp (fun within => le_of_tighter within stricter.stressLoss) protects)
  · rw [deliveryRules] at delivered ⊢
    split
    next future =>
      rw [if_pos future] at delivered
      refine admits_optionalRule stricter.delivery ?_ delivered
      intro own limit _ tighter passed
      simp only [deliveryCutoffRule, decide_eq_true_eq] at passed ⊢
      refine passed.imp protects ?_
      intro sufficient
      obtain ⟨seconds, known, met⟩ := sufficient
      exact ⟨seconds, known, le_of_tighter tighter met⟩
    next => rfl

/-- An intent that is admitted under a policy is admitted under every policy that it is at least
as strict as, whose evaluation returns as well. -/
theorem stricter_policy_admits_less (stricter : Stricter loose strict) {decision : RiskDecision}
    (returned : evaluateRisk intent context strict store = .ok decision)
    (admitted : decision.admitted = true) :
    ∃ other, evaluateRisk intent context loose store = .ok other ∧ other.admitted = true := by
  simp only [evaluateRisk, bind_eq_ok, pure_eq_ok] at returned
  obtain ⟨projection, projected, tight, assessed, rules, ruled, _, _, rfl⟩ := returned
  obtain ⟨slack, assessedLoose, relaxes⟩ := mirrors_assess stricter tight assessed
  obtain ⟨others, ruledLoose, admits⟩ := mirrors_riskRules stricter relaxes rules ruled
  obtain ⟨observed, limit⟩ := short_of_riskRules ruled
  have writable : (inputPayload intent context loose).Writable = true :=
    writable_inputPayload.mpr ⟨limit, observed⟩
  obtain ⟨encoded, written⟩ := exists_jsonText writable
  simp only [evaluateRisk, bind_eq_ok, pure_eq_ok, riskInputFingerprint]
  exact ⟨_, ⟨projection, projected, slack, assessedLoose, others, ruledLoose, _,
    ⟨encoded, written, rfl⟩, rfl⟩, admits admitted⟩

end Evaluate

/-- A stricter policy than the basic one. -/
def carefulPolicy : RiskPolicy :=
  { basicPolicy with
    maxStressLoss := amount ⟨50, by decide⟩
    allowedActions := some [.reduce, .flatten]
    stressLoss_nonneg := by decide +kernel
    actionsDistinct := by decide }

/-- The closing intent passes the careful policy and so the basic one. -/
theorem stricter_policy_admits_less_closing :
    letI := Fingerprint.flat
    ∃ decision, evaluateRisk closingIntent coveredContext basicPolicy none = .ok decision ∧
      decision.admitted = true := by
  let := Fingerprint.flat
  have stricter : Stricter basicPolicy carefulPolicy := by constructor <;> decide +kernel
  obtain ⟨decision, returned, admitted⟩ := exists_of_any
    (evaluateRisk closingIntent coveredContext carefulPolicy none) (by decide +kernel)
  exact stricter_policy_admits_less stricter returned admitted

end AutoTrade.Risk
