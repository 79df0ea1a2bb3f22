import AutoTrade.Margin.Perpetual

/-!
# Conservative stress

The stress only takes from the equity, whatever the tiers are, and a severer one takes
more.  The maintenance requirement grows with the notional where no tier asks for less at
the upper bound of the tier before it.
-/

namespace AutoTrade.Margin

open Lib Numeric Provider Reconciliation

/-! ## Exact results -/

theorem resource_eq_ok {α : Type} {message : String} {computation : Except ExactDecimalError α}
    {result : α} : resource message computation = .ok result ↔ computation = .ok result :=
  mapError_eq_ok

theorem exactAbs_toRat {value result : Decimal} (success : exactAbs value = .ok result) :
    result.toRat = |value.toRat| :=
  terminatingDecimal_toRat success

theorem one_toRat : one.toRat = 1 := by
  simp [one, Decimal.whole]

/-- The figures as rational numbers. -/
structure FiguresOf (amounts : MarginAmounts) (evidence : PerpetualMarginEvidence)
    (stress : PerpetualStress) (figures : MarginFigures) : Prop where
  notional : figures.notional.toRat = |amounts.signedNotional.toRat|
  stressedNotional : figures.stressedNotional.toRat =
    |amounts.signedNotional.toRat| * (1 + stress.notionalIncreaseFraction.toRat)
  divergence : figures.divergence =
    |evidence.markPrice.toRat - evidence.indexPrice.toRat| / evidence.indexPrice.toRat * 10000
  divergenceLimit : figures.divergenceLimit = amounts.divergenceLimit.toRat
  currentEquity : figures.currentEquity.toRat =
    amounts.collateral.toRat * evidence.collateralFxToSettlement.toRat *
      (1 - amounts.haircut.toRat) + amounts.unrealized.toRat
  stressedEquity : figures.stressedEquity.toRat =
    amounts.collateral.toRat * (evidence.collateralFxToSettlement.toRat *
      (1 - stress.collateralFxLossFraction.toRat)) * (1 - amounts.haircut.toRat) +
        amounts.unrealized.toRat -
      |amounts.signedNotional.toRat| * stress.priceLossFraction.toRat -
      |amounts.signedNotional.toRat| * stress.exitCostFraction.toRat -
      stress.additionalFundingLoss.toRat - stress.unavailableExitExtraLoss.toRat

theorem marginFigures_eq_ok {amounts : MarginAmounts} {evidence : PerpetualMarginEvidence}
    {stress : PerpetualStress} {figures : MarginFigures}
    (success : marginFigures amounts evidence stress = .ok figures) :
    FiguresOf amounts evidence stress figures := by
  simp only [marginFigures, bind_eq_ok, pure_eq_ok, exactAdd_eq_ok, exactSubtract_eq_ok] at success
  obtain ⟨notional, notionalEq, growth, growthEq, stressedNotional, stressedNotionalEq, delta,
    deltaEq, distance, distanceEq, divergence, divergenceEq, multiplier, multiplierEq, worth,
    worthEq, collateralValue, collateralValueEq, currentEquity, currentEquityEq, remaining,
    remainingEq, stressedFx, stressedFxEq, stressedWorth, stressedWorthEq, stressedValue,
    stressedValueEq, priceLoss, priceLossEq, exitCost, exitCostEq, gross, grossEq, afterPrice,
    afterPriceEq, afterExit, afterExitEq, afterFunding, afterFundingEq, stressedEquity,
    stressedEquityEq, rfl⟩ := success
  have magnitude := exactAbs_toRat notionalEq
  have apart := exactAbs_toRat distanceEq
  rw [one_toRat] at growthEq multiplierEq remainingEq
  constructor
  · exact magnitude
  · rw [exactMultiply_pair stressedNotionalEq, magnitude, growthEq]
  · rw [boundedFraction_eq divergenceEq, apart, deltaEq]
  · rfl
  · rw [currentEquityEq, exactMultiply_pair collateralValueEq, exactMultiply_pair worthEq,
      multiplierEq]
  · rw [stressedEquityEq, afterFundingEq, afterExitEq, afterPriceEq, grossEq,
      exactMultiply_pair stressedValueEq, exactMultiply_pair stressedWorthEq,
      exactMultiply_pair stressedFxEq, exactMultiply_pair priceLossEq,
      exactMultiply_pair exitCostEq, multiplierEq, remainingEq, magnitude]

/-! ## Equity -/

/-- The stress `severer` is at least `stress` in every loss. -/
structure SeverelyAtLeast (stress severer : PerpetualStress) : Prop where
  priceLoss : stress.priceLossFraction.toRat ≤ severer.priceLossFraction.toRat
  collateralFxLoss :
    stress.collateralFxLossFraction.toRat ≤ severer.collateralFxLossFraction.toRat
  exitCost : stress.exitCostFraction.toRat ≤ severer.exitCostFraction.toRat
  fundingLoss : stress.additionalFundingLoss.toRat ≤ severer.additionalFundingLoss.toRat
  extraLoss : stress.unavailableExitExtraLoss.toRat ≤ severer.unavailableExitExtraLoss.toRat
  increase : stress.notionalIncreaseFraction.toRat ≤ severer.notionalIncreaseFraction.toRat

/-- The amounts differ in the haircut at most, which is not smaller. -/
structure HaircutAtLeast (amounts others : MarginAmounts) : Prop where
  signedNotional : others.signedNotional = amounts.signedNotional
  collateral : others.collateral = amounts.collateral
  unrealized : others.unrealized = amounts.unrealized
  divergenceLimit : others.divergenceLimit = amounts.divergenceLimit
  haircut : amounts.haircut.toRat ≤ others.haircut.toRat

/-- What the readers accept. -/
structure Admissible (amounts : MarginAmounts) : Prop where
  collateral : 0 ≤ amounts.collateral.toRat
  haircut : 0 ≤ amounts.haircut.toRat ∧ amounts.haircut.toRat ≤ 1

theorem nonNegative_eq_ok {value : DecimalInput} {name : String} {result : Decimal}
    (success : nonNegative value name = .ok result) : 0 ≤ result.toRat := by
  simp only [nonNegative, bind_eq_ok, throw_unless_eq_ok, pure_eq_ok, not_lt] at success
  obtain ⟨_, -, nonnegative, rfl⟩ := success
  exact nonnegative

theorem readAmounts_admissible {request : MarginRequest} {amounts : MarginAmounts}
    (success : readAmounts request = .ok amounts) : Admissible amounts := by
  simp only [readAmounts, bind_eq_ok, throw_unless_eq_ok, pure_eq_ok, not_lt] at success
  obtain ⟨_, -, collateral, collateralEq, _, -, haircut, haircutEq, atMost, _, -, rfl⟩ := success
  exact ⟨nonNegative_eq_ok collateralEq, nonNegative_eq_ok haircutEq, atMost⟩

section Equity

variable {amounts : MarginAmounts} {evidence : PerpetualMarginEvidence} {stress : PerpetualStress}
  {figures : MarginFigures}

theorem FiguresOf.stressed_le_current (spec : FiguresOf amounts evidence stress figures)
    (admissible : Admissible amounts) :
    figures.stressedEquity.toRat ≤ figures.currentEquity.toRat := by
  have worth : 0 ≤ amounts.collateral.toRat * evidence.collateralFxToSettlement.toRat *
      (1 - amounts.haircut.toRat) :=
    mul_nonneg (mul_nonneg admissible.collateral evidence.fx_pos.le)
      (sub_nonneg.mpr admissible.haircut.2)
  have fxLoss := mul_nonneg worth stress.collateralFxLoss_mem.1
  have priceLoss := mul_nonneg (abs_nonneg amounts.signedNotional.toRat) stress.priceLoss_mem.1
  have exitCost := mul_nonneg (abs_nonneg amounts.signedNotional.toRat) stress.exitCost_mem.1
  have fundingLoss := stress.fundingLoss_nonneg
  have extraLoss := stress.extraLoss_nonneg
  rw [spec.stressedEquity, spec.currentEquity]
  linarith

variable {others : MarginAmounts} {severer : PerpetualStress} {worse : MarginFigures}

theorem FiguresOf.currentEquity_anti (spec : FiguresOf amounts evidence stress figures)
    (worseSpec : FiguresOf others evidence severer worse) (admissible : Admissible amounts)
    (haircuts : HaircutAtLeast amounts others) :
    worse.currentEquity.toRat ≤ figures.currentEquity.toRat := by
  have worth := mul_nonneg admissible.collateral evidence.fx_pos.le
  have taken := mul_le_mul_of_nonneg_left haircuts.haircut worth
  rw [worseSpec.currentEquity, spec.currentEquity, haircuts.collateral, haircuts.unrealized]
  linarith

theorem FiguresOf.stressedEquity_anti (spec : FiguresOf amounts evidence stress figures)
    (worseSpec : FiguresOf others evidence severer worse) (admissible : Admissible amounts)
    (otherAdmissible : Admissible others) (haircuts : HaircutAtLeast amounts others)
    (losses : SeverelyAtLeast stress severer) :
    worse.stressedEquity.toRat ≤ figures.stressedEquity.toRat := by
  have worth := mul_nonneg admissible.collateral evidence.fx_pos.le
  have multiplier : 1 - others.haircut.toRat ≤ 1 - amounts.haircut.toRat := by
    linarith [haircuts.haircut]
  have remaining : 1 - severer.collateralFxLossFraction.toRat ≤
      1 - stress.collateralFxLossFraction.toRat := by
    linarith [losses.collateralFxLoss]
  have kept : 0 ≤ 1 - others.haircut.toRat := sub_nonneg.mpr otherAdmissible.haircut.2
  have left : 0 ≤ 1 - stress.collateralFxLossFraction.toRat :=
    sub_nonneg.mpr stress.collateralFxLoss_mem.2
  have value := mul_le_mul_of_nonneg_left (mul_le_mul remaining multiplier kept left) worth
  have priceLoss := mul_le_mul_of_nonneg_left losses.priceLoss
    (abs_nonneg amounts.signedNotional.toRat)
  have exitCost := mul_le_mul_of_nonneg_left losses.exitCost
    (abs_nonneg amounts.signedNotional.toRat)
  have fundingLoss := losses.fundingLoss
  have extraLoss := losses.extraLoss
  rw [worseSpec.stressedEquity, spec.stressedEquity, haircuts.collateral, haircuts.unrealized,
    haircuts.signedNotional]
  linarith

end Equity

/-! ## Requirements -/

/-- The formula of a tier. -/
def MarginTier.formula (tier : MarginTier) (notional : ℚ) : ℚ :=
  notional * tier.maintenanceRate.toRat +
    (match tier.adjustmentConvention with
      | .add => tier.maintenanceAdjustment.toRat
      | .deduct => -tier.maintenanceAdjustment.toRat)

theorem maintenanceRequirement_eq_ok {tier : MarginTier} {notional requirement : Decimal}
    (success : tier.maintenanceRequirement notional = .ok requirement) :
    requirement.toRat = tier.formula notional.toRat := by
  simp only [MarginTier.maintenanceRequirement, bind_eq_ok, resource_eq_ok, throw_unless_eq_ok,
    pure_eq_ok] at success
  obtain ⟨_, ⟨base, baseEq, adjusted⟩, -, rfl⟩ := success
  have product := exactMultiply_pair baseEq
  rw [MarginTier.formula, ← product]
  cases convention : tier.adjustmentConvention with
  | add =>
      rw [convention] at adjusted
      exact exactAdd_eq_ok.mp adjusted
  | deduct =>
      rw [convention] at adjusted
      rw [exactSubtract_eq_ok.mp adjusted, sub_eq_add_neg]

theorem MarginTier.formula_mono (tier : MarginTier) {left right : ℚ} (ordered : left ≤ right) :
    tier.formula left ≤ tier.formula right := by
  rw [formula, formula]
  gcongr
  exact tier.rate_nonneg

/-- No tier asks for less at the upper bound of the tier before it. -/
def RequirementsRise (tiers : List MarginTier) : Prop :=
  tiers.IsChain fun earlier later =>
    earlier.formula earlier.notionalUpperBound.toRat ≤
      later.formula earlier.notionalUpperBound.toRat

theorem RisingBounds.chain {tiers : List MarginTier} (rising : RisingBounds tiers) :
    tiers.IsChain fun earlier later =>
      earlier.notionalUpperBound.toRat < later.notionalUpperBound.toRat :=
  (List.isChain_map _).mp rising.tail

/-- The first tier asks for no more at its upper bound than the selected tier does above. -/
theorem first_le_selected {first : MarginTier} {rest : List MarginTier} {notional : Decimal}
    {tier : MarginTier}
    (bounds : (first :: rest).IsChain fun earlier later =>
      earlier.notionalUpperBound.toRat < later.notionalUpperBound.toRat)
    (rises : RequirementsRise (first :: rest))
    (beyond : first.notionalUpperBound.toRat ≤ notional.toRat)
    (success : selectTier notional rest = .ok tier) :
    first.formula first.notionalUpperBound.toRat ≤ tier.formula notional.toRat := by
  induction rest generalizing first with
  | nil => cases success
  | cons second rest ih =>
      obtain ⟨step, restRises⟩ := List.isChain_cons_cons.mp rises
      obtain ⟨above, restBounds⟩ := List.isChain_cons_cons.mp bounds
      rw [selectTier] at success
      split at success
      next covered =>
        cases success
        exact step.trans (tier.formula_mono beyond)
      next uncovered =>
        rw [Decimal.le_def, not_le] at uncovered
        have later := ih restBounds restRises uncovered.le success
        exact step.trans ((second.formula_mono above.le).trans later)

/-- The requirement grows with the notional. -/
theorem selected_mono {tiers : List MarginTier} {left right : Decimal}
    {leftTier rightTier : MarginTier} (rising : RisingBounds tiers)
    (rises : RequirementsRise tiers) (ordered : left.toRat ≤ right.toRat)
    (leftSelected : selectTier left tiers = .ok leftTier)
    (rightSelected : selectTier right tiers = .ok rightTier) :
    leftTier.formula left.toRat ≤ rightTier.formula right.toRat := by
  have bounds := rising.chain
  clear rising
  induction tiers with
  | nil => cases leftSelected
  | cons first rest ih =>
      rw [selectTier] at leftSelected rightSelected
      split at rightSelected
      next rightCovered =>
        cases rightSelected
        have leftCovered : left ≤ rightTier.notionalUpperBound := ordered.trans rightCovered
        rw [if_pos leftCovered, Except.ok.injEq] at leftSelected
        rw [← leftSelected]
        exact rightTier.formula_mono ordered
      next rightBeyond =>
        split at leftSelected
        next leftCovered =>
          cases leftSelected
          rw [Decimal.le_def, not_le] at rightBeyond
          have boundary := first_le_selected bounds rises rightBeyond.le rightSelected
          exact (leftTier.formula_mono leftCovered).trans boundary
        next leftBeyond =>
          exact ih rises.tail leftSelected rightSelected bounds.tail

/-! ## The verdict -/

theorem verdictOf_allow {reasons : List String} :
    verdictOf reasons = .allowNewRisk ↔ reasons = [] := by
  rw [verdictOf]
  split
  next breach =>
    constructor
    · intro absurd
      cases absurd
    · rintro rfl
      simp at breach
  next quiet => by_cases empty : reasons = [] <;> simp [empty]

section Verdict

variable [IsoFormat]

/-- What the result of `judge` says about its figures. -/
structure Judged (figures : MarginFigures) (evidence : PerpetualMarginEvidence) (now : Instant)
    (maximumAgeSeconds : Int) (result : PerpetualMarginResult) : Prop where
  current : result.currentEquitySettlement = figures.currentEquity
  stressed : result.stressedEquitySettlement = figures.stressedEquity
  requirement : ∃ tier, selectTier figures.notional evidence.marginTiers = .ok tier ∧
    result.maintenanceRequirement.toRat = tier.formula figures.notional.toRat
  stressedRequirement : ∃ tier, selectTier figures.stressedNotional evidence.marginTiers = .ok tier ∧
    result.stressedMaintenanceRequirement.toRat = tier.formula figures.stressedNotional.toRat
  headroom : result.liquidationHeadroom.toRat =
    figures.stressedEquity.toRat - result.stressedMaintenanceRequirement.toRat
  allowed : result.verdict = .allowNewRisk ↔
    (∃ freshness, evidence.observedTimes.mapM (freshnessReason now maximumAgeSeconds) =
        .ok freshness ∧ freshness.filterMap id = []) ∧
      ¬ figures.divergenceLimit < figures.divergence ∧
        result.maintenanceRequirement.toRat ≤ figures.currentEquity.toRat ∧
          0 ≤ result.liquidationHeadroom.toRat

theorem judge_eq_ok {figures : MarginFigures} {evidence : PerpetualMarginEvidence} {now : Instant}
    {maximumAgeSeconds : Int} {result : PerpetualMarginResult}
    (success : judge figures evidence now maximumAgeSeconds = .ok result) :
    Judged figures evidence now maximumAgeSeconds result := by
  simp only [judge, bind_eq_ok, resource_eq_ok, pure_eq_ok, exactSubtract_eq_ok] at success
  obtain ⟨tier, selected, maintenance, required, stressedTier, stressedSelected,
    stressedMaintenance, stressedRequired, freshness, fresh, headroom, headroomEq, rfl⟩ := success
  constructor
  · rfl
  · rfl
  · exact ⟨tier, selected, maintenanceRequirement_eq_ok required⟩
  · exact ⟨stressedTier, stressedSelected, maintenanceRequirement_eq_ok stressedRequired⟩
  · exact headroomEq
  · simp only [verdictOf_allow, List.append_eq_nil_iff, fresh, Except.ok.injEq, exists_eq_left',
      Decimal.lt_def, ite_eq_right_iff, reduceCtorEq, imp_false, not_lt, and_assoc]

end Verdict

/-- Requests that differ in the haircut are read alike. -/
theorem readAmounts_haircut {request : MarginRequest} {haircut : DecimalInput}
    {amounts others : MarginAmounts} (first : readAmounts request = .ok amounts)
    (second : readAmounts { request with collateralHaircutFraction := haircut } = .ok others)
    (larger : ∀ taken more,
      nonNegative request.collateralHaircutFraction "collateral_haircut_fraction" = .ok taken →
      nonNegative haircut "collateral_haircut_fraction" = .ok more → taken.toRat ≤ more.toRat) :
    HaircutAtLeast amounts others := by
  simp only [readAmounts, bind_eq_ok, throw_unless_eq_ok, pure_eq_ok] at first second
  obtain ⟨notional, notionalEq, collateral, collateralEq, unrealized, unrealizedEq, taken, takenEq,
    -, limit, limitEq, rfl⟩ := first
  obtain ⟨notional', notionalEq', collateral', collateralEq', unrealized', unrealizedEq', more,
    moreEq, -, limit', limitEq', rfl⟩ := second
  constructor
  · exact Except.ok.inj (notionalEq'.symm.trans notionalEq)
  · exact Except.ok.inj (collateralEq'.symm.trans collateralEq)
  · exact Except.ok.inj (unrealizedEq'.symm.trans unrealizedEq)
  · exact Except.ok.inj (limitEq'.symm.trans limitEq)
  · exact larger taken more takenEq moreEq

section Evaluation

variable [CaseMap] [IsoFormat] [Fingerprint]

/-- The stages of an evaluation that returns. -/
theorem evaluatePerpetualMargin_eq_ok {capability : CapabilitySnapshot} {request : MarginRequest}
    {evidence : PerpetualMarginEvidence} {store : ArtifactStore} {stress : PerpetualStress}
    {result : PerpetualMarginResult}
    (success : evaluatePerpetualMargin capability request evidence store stress = .ok result) :
    ∃ now amounts figures, instant request.evaluatedAt "evaluated_at" = .ok now ∧
      readAmounts request = .ok amounts ∧ FiguresOf amounts evidence stress figures ∧
        Judged figures evidence now request.maximumEvidenceAgeSeconds result := by
  simp only [evaluatePerpetualMargin, bind_eq_ok, throw_unless_eq_ok, resource_eq_ok] at success
  obtain ⟨-, -, -, -, now, nowEq, -, amounts, amountsEq, figures, figuresEq, judged⟩ := success
  exact ⟨now, amounts, figures, nowEq, amountsEq, marginFigures_eq_ok figuresEq,
    judge_eq_ok judged⟩

/-- Margin stress is conservative.  The stressed equity is at most the current one.  Where
no tier asks for less at the upper bound of the tier before it, the stressed requirement is
at least the current one and the headroom at most the current excess.  A severer stress or a
larger haircut never turns another verdict into `ALLOW_NEW_RISK`; for a larger growth of the
notional this takes such tiers. -/
theorem margin_stress_conservative {capability : CapabilitySnapshot} {request : MarginRequest}
    {evidence : PerpetualMarginEvidence} {store : ArtifactStore} {stress : PerpetualStress}
    {result : PerpetualMarginResult}
    (evaluated : evaluatePerpetualMargin capability request evidence store stress = .ok result) :
    result.stressedEquitySettlement.toRat ≤ result.currentEquitySettlement.toRat ∧
      (RequirementsRise evidence.marginTiers →
        result.maintenanceRequirement.toRat ≤ result.stressedMaintenanceRequirement.toRat ∧
          result.liquidationHeadroom.toRat ≤ result.currentEquitySettlement.toRat -
            result.maintenanceRequirement.toRat) ∧
      ∀ (severer : PerpetualStress) (haircut : DecimalInput) (worse : PerpetualMarginResult),
        SeverelyAtLeast stress severer →
        (∀ taken more,
          nonNegative request.collateralHaircutFraction "collateral_haircut_fraction" =
            .ok taken →
          nonNegative haircut "collateral_haircut_fraction" = .ok more →
            taken.toRat ≤ more.toRat) →
        severer.notionalIncreaseFraction = stress.notionalIncreaseFraction ∨
          RequirementsRise evidence.marginTiers →
        evaluatePerpetualMargin capability
          { request with collateralHaircutFraction := haircut } evidence store severer =
            .ok worse →
        worse.verdict = .allowNewRisk → result.verdict = .allowNewRisk := by
  obtain ⟨now, amounts, figures, nowEq, amountsEq, spec, judged⟩ :=
    evaluatePerpetualMargin_eq_ok evaluated
  have admissible := readAmounts_admissible amountsEq
  have equity : figures.stressedEquity.toRat ≤ figures.currentEquity.toRat :=
    spec.stressed_le_current admissible
  obtain ⟨tier, selected, required⟩ := judged.requirement
  obtain ⟨stressedTier, stressedSelected, stressedRequired⟩ := judged.stressedRequirement
  refine ⟨?_, ?_, ?_⟩
  · rw [judged.stressed, judged.current]
    exact equity
  · intro rises
    have grown : figures.notional.toRat ≤ figures.stressedNotional.toRat := by
      rw [spec.notional, spec.stressedNotional]
      exact le_mul_of_one_le_right (abs_nonneg _)
        (le_add_of_nonneg_right stress.increase_nonneg)
    have requirement := selected_mono evidence.rising rises grown selected stressedSelected
    rw [← required, ← stressedRequired] at requirement
    refine ⟨requirement, ?_⟩
    rw [judged.headroom, judged.current]
    linarith
  · intro severer haircut worse losses larger growth worseEvaluated allowed
    obtain ⟨otherNow, others, worseFigures, otherNowEq, othersEq, worseSpec, worseJudged⟩ :=
      evaluatePerpetualMargin_eq_ok worseEvaluated
    have sameNow : otherNow = now := Except.ok.inj (otherNowEq.symm.trans nowEq)
    subst sameNow
    have haircuts := readAmounts_haircut amountsEq othersEq larger
    have otherAdmissible := readAmounts_admissible othersEq
    obtain ⟨fresh, converging, maintained, solvent⟩ := worseJudged.allowed.mp allowed
    obtain ⟨worseTier, worseSelected, worseRequired⟩ := worseJudged.requirement
    obtain ⟨worseStressedTier, worseStressedSelected, worseStressedRequired⟩ :=
      worseJudged.stressedRequirement
    have sameNotional : worseFigures.notional = figures.notional := by
      apply Decimal.ext
      rw [worseSpec.notional, spec.notional, haircuts.signedNotional]
    rw [sameNotional] at worseSelected worseRequired
    rw [selected, Except.ok.injEq] at worseSelected
    subst worseSelected
    have requirement : result.stressedMaintenanceRequirement.toRat ≤
        worse.stressedMaintenanceRequirement.toRat := by
      rw [stressedRequired, worseStressedRequired]
      rcases growth with same | rises
      · have sameStressed : worseFigures.stressedNotional = figures.stressedNotional := by
          apply Decimal.ext
          rw [worseSpec.stressedNotional, spec.stressedNotional, haircuts.signedNotional, same]
        rw [sameStressed] at worseStressedSelected ⊢
        rw [stressedSelected, Except.ok.injEq] at worseStressedSelected
        rw [worseStressedSelected]
      · apply selected_mono evidence.rising rises _ stressedSelected worseStressedSelected
        rw [worseSpec.stressedNotional, spec.stressedNotional, haircuts.signedNotional]
        have increase := losses.increase
        gcongr
    have current := spec.currentEquity_anti worseSpec admissible haircuts
    have stressed := spec.stressedEquity_anti worseSpec admissible otherAdmissible haircuts losses
    rw [judged.allowed]
    refine ⟨fresh, ?_, ?_, ?_⟩
    · rwa [spec.divergence, spec.divergenceLimit, ← haircuts.divergenceLimit,
        ← worseSpec.divergence, ← worseSpec.divergenceLimit]
    · rw [required, ← worseRequired]
      exact maintained.trans current
    · rw [judged.headroom]
      rw [worseJudged.headroom] at solvent
      linarith

end Evaluation

/-! ## A table whose second tier asks for less -/

section Samples

attribute [local instance] FloatText.none CaseMap.ascii UuidFormat.lenient IsoFormat.seconds
  Fingerprint.zeros

/-- The manifest of an artifact with its own metadata. -/
def sampleManifest (artifactId payload : String) (metadata : List (String × Json Unit)) :
    Json Unit :=
  .obj [("artifact_id", .str artifactId), ("sha256", .str ("sha256:" ++ sha256 payload)),
    ("manifest_hash", .str ("sha256:" ++ sha256 "")), ("rights", .obj [("storage", .bool true)]),
    ("media_type", .str "application/json"), ("metadata", .obj metadata)]

/-- The text of a payload. -/
def payloadText (payload : Except PerpetualMarginError (Json Unit)) : String :=
  (payload.toOption.bind Json.canonicalText).getD ""

/-- A store that holds the two artifacts of the evidence. -/
def storeOf (evidence : PerpetualMarginEvidence) : ArtifactStore where
  readAuthenticatedSnapshot artifactId :=
    if artifactId = evidence.tierTableEvidenceRef then
      let payload := payloadText evidence.tierTablePayload
      some (sampleManifest artifactId payload (evidence.commonMetadata ++
        [("artifact_kind", .str "PERPETUAL_MARGIN_TIER_TABLE"),
          ("observed_at", .str evidence.marginTiersObservedAt)]), payload)
    else
      let payload := payloadText evidence.evidenceBundlePayload
      some (sampleManifest artifactId payload (evidence.commonMetadata ++
        [("artifact_kind", .str "PERPETUAL_MARGIN_EVIDENCE_BUNDLE"),
          ("observed_at", .str evidence.markObservedAt)]), payload)

/-- All of the notional up to 100 and nothing up to 200. -/
def fallingTiers : Except PerpetualMarginError (List MarginTier) := do
  let first ← MarginTier.create ⟨.int 100, .int 1, .int 0, "ADD"⟩
  let second ← MarginTier.create ⟨.int 200, .int 0, .int 0, "ADD"⟩
  return [first, second]

def sampleTime : String := "2026-01-01T00:00:00Z"

def sampleEvidence (tiers : List MarginTier) : PerpetualMarginEvidenceState where
  providerId := "p"
  accountId := "a"
  entityId := "e"
  environment := "SIMULATION"
  instrumentVersion := "i"
  capabilitySnapshotId := "c"
  positionMode := "NET"
  marginMode := "CROSS"
  collateralCurrency := "USD"
  settlementCurrency := "USD"
  riskTierRevision := "1"
  evidenceBundleRef := "bundle"
  tierTableEvidenceRef := "table"
  markPrice := .int 10
  indexPrice := .int 10
  collateralFxToSettlement := .int 1
  markObservedAt := sampleTime
  indexObservedAt := sampleTime
  collateralFxObservedAt := sampleTime
  marginTiersObservedAt := sampleTime
  marginTiers := tiers
  providerEnvironment := none

def sampleCapability (evidence : PerpetualMarginEvidence) : CapabilitySnapshot where
  snapshotId := "c"
  identity := evidence.capabilityIdentity
  environment := "SIMULATION"
  positionMode := "NET"
  status := "VERIFIED"
  observedAt := ⟨0⟩
  expiresAt := ⟨9999999999000000⟩

/-- A position of 100 over collateral of 130. -/
def sampleRequest : MarginRequest where
  instrumentVersion := "i"
  marginMode := "CROSS"
  collateralCurrency := "USD"
  settlementCurrency := "USD"
  riskTierRevision := "1"
  signedNotionalSettlement := .int (-100)
  collateralAmount := .int 130
  unrealizedPnlSettlement := .int 0
  evaluatedAt := sampleTime
  maximumEvidenceAgeSeconds := 0
  maximumMarkIndexDivergenceBps := .int 0
  collateralHaircutFraction := .int 0

/-- A funding loss of 60, with a growth of the notional. -/
def sampleStress (increase : Int) : Except PerpetualMarginError PerpetualStress :=
  PerpetualStress.create (.int 0) (.int 0) (.int 0) (.int 60) (.int 0) (.int increase)

/-- What a sample run shows. -/
def shown (result : PerpetualMarginResult) : MarginVerdict × ℚ × ℚ :=
  (result.verdict, result.maintenanceRequirement.toRat,
    result.stressedMaintenanceRequirement.toRat)

/-- The fractions and losses of a stress. -/
def PerpetualStress.values (stress : PerpetualStress) : List ℚ :=
  [stress.priceLossFraction.toRat, stress.collateralFxLossFraction.toRat,
    stress.exitCostFraction.toRat, stress.additionalFundingLoss.toRat,
    stress.unavailableExitExtraLoss.toRat, stress.notionalIncreaseFraction.toRat]

/-- Two evaluations that differ in the growth of the notional, with their stresses. -/
def sampleRuns : Except PerpetualMarginError
    ((List ℚ × MarginVerdict × ℚ × ℚ) × (List ℚ × MarginVerdict × ℚ × ℚ)) := do
  let tiers ← fallingTiers
  let evidence ← PerpetualMarginEvidence.create (sampleEvidence tiers)
  let calm ← sampleStress 0
  let severe ← sampleStress 1
  let first ← evaluatePerpetualMargin (sampleCapability evidence) sampleRequest evidence
    (storeOf evidence) calm
  let second ← evaluatePerpetualMargin (sampleCapability evidence) sampleRequest evidence
    (storeOf evidence) severe
  return ((calm.values, shown first), (severe.values, shown second))

theorem sampleRuns_eq : sampleRuns.toOption =
    some (([0, 0, 0, 60, 0, 0], .liquidationStress, 100, 100),
      ([0, 0, 0, 60, 0, 1], .allowNewRisk, 100, 0)) := by
  decide +kernel

/-- Two evaluations that differ in the growth of the notional. -/
theorem exists_sampleRuns : ∃ capability request evidence store calm severe first second,
    evaluatePerpetualMargin capability request evidence store calm = .ok first ∧
      evaluatePerpetualMargin capability request evidence store severe = .ok second ∧
        SeverelyAtLeast calm severe ∧ shown first = (.liquidationStress, 100, 100) ∧
          shown second = (.allowNewRisk, 100, 0) := by
  have runs := sampleRuns_eq
  cases run : sampleRuns with
  | error error =>
      rw [run] at runs
      cases runs
  | ok results =>
      rw [run] at runs
      have same := Option.some.inj runs
      subst same
      simp only [sampleRuns, bind_eq_ok, pure_eq_ok, Prod.mk.injEq, PerpetualStress.values,
        List.cons.injEq, and_true] at run
      obtain ⟨tiers, -, evidence, -, calm, -, severe, -, first, evaluated, second, otherEvaluated,
        ⟨⟨price, fx, exit, funding, extra, increase⟩, firstShown⟩,
        ⟨price', fx', exit', funding', extra', increase'⟩, secondShown⟩ := run
      refine ⟨_, _, _, _, calm, severe, first, second, evaluated, otherEvaluated, ?_, firstShown,
        secondShown⟩
      constructor
      · rw [price, price']
      · rw [fx, fx']
      · rw [exit, exit']
      · rw [funding, funding']
      · rw [extra, extra']
      · rw [increase, increase']
        norm_num

/-- A growth of the notional into a tier that asks for less lowers the stressed requirement
below the current one and turns `LIQUIDATION_STRESS` into `ALLOW_NEW_RISK`. -/
theorem growth_allows_new_risk : ∃ capability request evidence store calm severe first second,
    evaluatePerpetualMargin capability request evidence store calm = .ok first ∧
      evaluatePerpetualMargin capability request evidence store severe = .ok second ∧
        SeverelyAtLeast calm severe ∧ first.verdict = .liquidationStress ∧
          second.verdict = .allowNewRisk ∧
            second.stressedMaintenanceRequirement.toRat < second.maintenanceRequirement.toRat := by
  obtain ⟨capability, request, evidence, store, calm, severe, first, second, evaluated,
    otherEvaluated, severer, firstShown, secondShown⟩ := exists_sampleRuns
  simp only [shown, Prod.mk.injEq] at firstShown secondShown
  refine ⟨capability, request, evidence, store, calm, severe, first, second, evaluated,
    otherEvaluated, severer, firstShown.1, secondShown.1, ?_⟩
  rw [secondShown.2.1, secondShown.2.2]
  norm_num

/-- The equity of the sample under stress. -/
theorem sample_stress_conservative : ∃ capability request evidence store stress result,
    evaluatePerpetualMargin capability request evidence store stress = .ok result ∧
      result.stressedEquitySettlement.toRat ≤ result.currentEquitySettlement.toRat := by
  obtain ⟨capability, request, evidence, store, calm, _, first, _, evaluated, _⟩ :=
    exists_sampleRuns
  exact ⟨capability, request, evidence, store, calm, first, evaluated,
    (margin_stress_conservative evaluated).1⟩

end Samples

end AutoTrade.Margin
