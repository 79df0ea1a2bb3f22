import AutoTrade.Risk.FailClosed
import Mathlib.Algebra.BigOperators.Finprod

/-!
# What an admission guarantees

An admitted intent keeps the limits of the policy as exact rationals, over all symbols, or it
reduces what the portfolio has at risk.
-/

namespace AutoTrade.Risk

open Lib Numeric

variable {intent : RiskIntent} {context : RiskContext} {policy : RiskPolicy}
  {store : Option EvidenceStore} {projection : Projection}

/-- The exposure of a symbol before the intent. -/
def baseExposure (intent : RiskIntent) (context : RiskContext) (symbol : String) : ℚ :=
  baseQuantity context symbol * unitExposure intent context symbol

/-- The exposure of a symbol after the intent. -/
def projectedExposure (intent : RiskIntent) (context : RiskContext) (symbol : String) : ℚ :=
  projectedQuantity intent context symbol * unitExposure intent context symbol

/-- The limits on the portfolio after the intent, on its losses and on the margin. -/
structure WithinLimits (intent : RiskIntent) (context : RiskContext) (policy : RiskPolicy) :
    Prop where
  position : ∀ symbol, |projectedQuantity intent context symbol| ≤ policy.maxAbsPosition.toRat
  gross : ∑ᶠ symbol, |projectedExposure intent context symbol| ≤
    policy.maxGrossLeverage.toRat * context.equity.toRat
  net : |∑ᶠ symbol, projectedExposure intent context symbol| ≤
    policy.maxNetLeverage.toRat * context.equity.toRat
  stress : ∀ scenario ∈ context.stressScenarios,
    -∑ᶠ symbol, projectedExposure intent context symbol *
      ((scenario.get? symbol).getD 0).toRat ≤ policy.maxStressLoss.toRat
  dailyLoss : -context.dailyPnl.toRat ≤ policy.maxDailyLoss.toRat
  drawdown : context.drawdownFraction ≤ policy.maxDrawdownFraction
  margin : policy.minMarginHeadroom ≤ context.marginHeadroom

/-- A quantity gets strictly smaller without crossing flat. -/
def Shrinks (before after : ℚ) : Prop := |after| < |before| ∧ 0 ≤ before * after

/-- A reduce-only intent that shrinks the position, the gross and not the net exposure. -/
structure Reduces (intent : RiskIntent) (context : RiskContext) : Prop where
  reduceOnly : intent.reduceOnly = true
  projected : Shrinks (baseQuantity context intent.symbol)
    (projectedQuantity intent context intent.symbol)
  current : Shrinks (quantityOf context.positions intent.symbol).toRat
    ((quantityOf context.positions intent.symbol).toRat + intentQuantity intent)
  gross : ∑ᶠ symbol, |projectedExposure intent context symbol| <
    ∑ᶠ symbol, |baseExposure intent context symbol|
  net : |∑ᶠ symbol, projectedExposure intent context symbol| ≤
    |∑ᶠ symbol, baseExposure intent context symbol|

/-! ## Sums, maxima and losses -/

/-- Sums over the notionals of quantities are sums over all symbols. -/
theorem sums_of_notionals {notionals : Dict String Decimal} {quantity unit : String → ℚ}
    (keys : ∀ symbol, symbol ∈ notionals.keys ↔ quantity symbol ≠ 0)
    (found : ∀ symbol notional, notionals.get? symbol = some notional →
      notional.toRat = quantity symbol * unit symbol) :
    (notionals.values.map fun notional => |notional.toRat|).sum =
        ∑ᶠ symbol, |quantity symbol * unit symbol| ∧
      (notionals.values.map Decimal.toRat).sum = ∑ᶠ symbol, quantity symbol * unit symbol ∧
      ∀ scenario, pnl notionals scenario =
        ∑ᶠ symbol, quantity symbol * unit symbol * ((scenario.get? symbol).getD 0).toRat := by
  have sum (term : String → ℚ → ℚ) (zero : ∀ symbol, term symbol 0 = 0) :
      (notionals.entries.map fun entry => term entry.1 entry.2.toRat).sum =
        ∑ᶠ symbol, term symbol (quantity symbol * unit symbol) := by
    have support : Function.support (fun symbol => term symbol (quantity symbol * unit symbol)) ⊆
        ↑notionals.keys.toFinset := by
      intro symbol held
      rw [Finset.mem_coe, List.mem_toFinset, keys]
      intro flat
      apply held
      change term symbol (quantity symbol * unit symbol) = 0
      rw [flat, zero_mul, zero]
    have distinct : notionals.keys.Nodup := notionals.nodup
    rw [finsum_eq_sum_of_support_subset _ support, List.sum_toFinset _ distinct, Dict.keys,
      List.map_map]
    congr 1
    apply List.map_congr_left
    intro entry listed
    rw [found entry.1 entry.2 (Dict.mem_entries.mp listed)]
    rfl
  rw [Dict.values, List.map_map, List.map_map]
  exact ⟨sum (fun _ => abs) fun _ => abs_zero, sum (fun _ => id) fun _ => rfl, fun scenario =>
    sum (fun symbol exposure => exposure * ((scenario.get? symbol).getD 0).toRat)
      fun _ => zero_mul _⟩

theorem le_foldl_maximum (values : List Decimal) (start : Decimal) :
    ∀ value ∈ start :: values, value.toRat ≤ (values.foldl maximum start).toRat := by
  induction values generalizing start with
  | nil => simp
  | cons value rest ih =>
      have step := ih (maximum start value)
      simp only [List.forall_mem_cons, maximum_toRat, max_le_iff] at step ⊢
      exact ⟨step.1.1, step.1.2, step.2⟩

/-- The worst loss is at least that of every scenario. -/
theorem le_worst {comparable : Bool} {scenarios : List Scenario}
    {notionals baseNotionals : Dict String Decimal} {start losses : Decimal × Decimal}
    (success : scenarios.foldlM (stressStep comparable notionals baseNotionals) start = .ok losses) :
    start.2.toRat ≤ losses.2.toRat ∧
      ∀ scenario ∈ scenarios, -pnl notionals scenario ≤ losses.2.toRat := by
  induction scenarios generalizing start with
  | nil =>
      cases success
      simp
  | cons scenario rest ih =>
      simp only [List.foldlM_cons, stressStep, worsen, bind_eq_ok, pure_eq_ok] at success
      obtain ⟨_, ⟨_, _, _, ⟨gain, gainEq, negated, negatedEq, rfl⟩, rfl⟩, tail⟩ := success
      obtain ⟨above, all⟩ := ih tail
      rw [maximum_toRat, max_le_iff, riskNegate_eq_ok.mp negatedEq, scenarioPnl_eq gainEq] at above
      exact ⟨above.1, List.forall_mem_cons.mpr ⟨above.2, all⟩⟩

/-! ## Admission -/

theorem leverage_within {name reason : String} {fraction : ℚ} {report limit equity : Decimal}
    {protective : Bool} {rule : RiskRuleResult} {exposure : ℚ}
    (computed : leverageRule name fraction report limit protective reason = .ok rule)
    (passed : rule.passed = true) (unprotected : protective = false) (positive : 0 < equity)
    (fractionEq : fraction = exposure / equity.toRat) : exposure ≤ limit.toRat * equity.toRat := by
  simp only [leverageRule, fractionLeDecimal, bind_eq_ok, pure_eq_ok, envelope_eq_ok] at computed
  obtain ⟨within, ⟨value, valueEq, bound, boundEq, rfl⟩, rfl⟩ := computed
  simp only [unprotected, Bool.or_false, decide_eq_true_eq] at passed
  rw [boundedFraction_eq valueEq, boundedFraction_eq boundEq, fractionEq] at passed
  exact (div_le_iff₀ (Decimal.lt_def.mp positive)).mp passed

theorem shrinks_of_reduces {before after : Decimal} (reduces : reducesExposure before after = .ok true) :
    Shrinks before.toRat after.toRat := by
  simp only [reducesExposure, bind_eq_ok] at reduces
  obtain ⟨sizeAfter, afterEq, sizeBefore, beforeEq, reduces⟩ := reduces
  split at reduces
  next smaller =>
    simp only [bind_eq_ok, pure_eq_ok, decide_eq_true_eq] at reduces
    obtain ⟨product, productEq, same⟩ := reduces
    rw [Decimal.lt_def, riskAbs_eq_ok.mp afterEq, riskAbs_eq_ok.mp beforeEq] at smaller
    rw [Decimal.le_def, riskProduct_eq productEq] at same
    exact ⟨smaller, same⟩
  next => cases reduces

theorem abs_le_of_projectedAbsPosition {position limit : Decimal}
    (computed : projectedAbsPosition projection = .ok position) (positive : 0 < limit)
    (held : position ≤ limit) (symbol : String) :
    |(quantityOf projection.projectedPositions symbol).toRat| ≤ limit.toRat := by
  simp only [projectedAbsPosition, bind_eq_ok, pure_eq_ok, mapM_eq_ok] at computed
  obtain ⟨sizes, all, rfl⟩ := computed
  rw [quantityOf]
  cases found : projection.projectedPositions.get? symbol with
  | none =>
      rw [Option.getD_none, Decimal.toRat_zero, abs_zero]
      exact (Decimal.lt_def.mp positive).le
  | some quantity =>
      have listed : quantity ∈ projection.projectedPositions.values :=
        List.mem_map_of_mem (Dict.mem_entries.mpr found)
      obtain ⟨size, member, sizeEq⟩ := exists_of_mem_forall₂ all.flip listed
      rw [Option.getD_some, ← riskAbs_eq_ok.mp sizeEq]
      cases sizes with
      | nil => cases member
      | cons first rest => exact (le_foldl_maximum rest first size member).trans held

section Evaluate

variable [Fingerprint]

/-- A protective reduction reduces the portfolio. -/
theorem assess_eq_ok {assessment : Assessment} (projected : Projected intent context projection)
    (assessed : assess intent context policy projection = .ok assessment) :
    stressOf context policy projection.notionals projection.baseNotionals =
        .ok assessment.stress ∧
      (assessment.protectiveReduction = true → Reduces intent context) := by
  simp only [assess, bind_eq_ok, pure_eq_ok] at assessed
  obtain ⟨_, _, _, _, _, _, _, _, stress, stressEq, _, _, absolute, absoluteEq, currentAfter,
    currentEq, current, currentReduces, rfl⟩ := assessed
  refine ⟨stressEq, ?_⟩
  intro protective
  simp only [decide_eq_true_eq] at protective
  obtain ⟨reduceOnly, rfl, rfl, gross, net, _⟩ := protective
  obtain ⟨grossSum, netSum, _⟩ := sums_of_notionals projected.keys projected.notional
  obtain ⟨baseGrossSum, baseNetSum, _⟩ :=
    sums_of_notionals projected.baseKeys projected.baseNotional
  rw [Decimal.lt_def, projected.gross, projected.baseGross, grossSum, baseGrossSum] at gross
  rw [Decimal.le_def, projected.net, projected.baseNet, netSum, baseNetSum] at net
  refine ⟨reduceOnly, ?_, ?_, gross, net⟩
  · rw [← projected.base, ← projected.resulting]
    exact shrinks_of_reduces absoluteEq
  · rw [← projected.signed, ← riskAdd_eq_ok.mp currentEq]
    exact shrinks_of_reduces currentReduces

/-- The losses of covered scenarios. -/
theorem covered_of_stressOf {notionals baseNotionals : Dict String Decimal} {stress : StressResult}
    (success : stressOf context policy notionals baseNotionals = .ok stress)
    (covered : stress.coverageComplete = true) :
    (context.stressScenarios ≠ [] ∨ notionals.keys = []) ∧
      Covers context.stressScenarios notionals ∧
      ∀ scenario ∈ context.stressScenarios, -pnl notionals scenario ≤ stress.worst.toRat := by
  simp only [stressOf, bind_eq_ok, pure_eq_ok] at success
  obtain ⟨_, _, losses, lossesEq, rfl⟩ := success
  rw [stressLosses, if_pos covered] at lossesEq
  rw [decide_eq_true_eq] at covered
  exact ⟨covered.1, uncovered_eq_nil.mp covered.2, (le_worst lossesEq).2⟩

/-- An admitted intent has stress scenarios for every symbol that is held after it and borrow
evidence for a new or larger short, and it is within the limits or reduces the portfolio. -/
theorem admitted_within_or_reduces {decision : RiskDecision}
    (returned : evaluateRisk intent context policy store = .ok decision)
    (admitted : decision.admitted = true) :
    (∀ symbol, projectedQuantity intent context symbol ≠ 0 → context.stressScenarios ≠ [] ∧
        ∀ scenario ∈ context.stressScenarios, symbol ∈ scenario.keys) ∧
      (projectedQuantity intent context intent.symbol < 0 →
        projectedQuantity intent context intent.symbol < baseQuantity context intent.symbol →
        context.borrowAvailable = some true) ∧
      (WithinLimits intent context policy ∨ Reduces intent context) := by
  simp only [evaluateRisk, bind_eq_ok, pure_eq_ok] at returned
  obtain ⟨projection, projectEq, assessment, assessed, rules, ruled, _, _, rfl⟩ := returned
  have projected := project_eq_ok projectEq
  obtain ⟨stressEq, protects⟩ := assess_eq_ok projected assessed
  simp only [riskRules, bind_eq_ok, pure_eq_ok] at ruled
  obtain ⟨_, _, _, _, position, positionEq, gross, grossEq, net, netEq, _, _, _, _, _, _, negated,
    negatedEq, _, _, _, _, _, _, rfl⟩ := ruled
  simp only [List.all_append, List.all_cons, List.all_nil, Bool.and_true, Bool.and_eq_true,
    and_assoc] at admitted
  obtain ⟨-, -, -, -, -, -, -, -, -, held, -, grossHeld, netHeld, -, -, -, -, -, -, daily, drawn,
    margin, covered, -, stressed, -, -, borrowed, -, -⟩ := admitted
  obtain ⟨present, covers, losses⟩ := covered_of_stressOf stressEq covered
  obtain ⟨grossSum, netSum, pnlSum⟩ := sums_of_notionals projected.keys projected.notional
  refine ⟨?_, ?_, ?_⟩
  · intro symbol exposed
    have key := (projected.keys symbol).mpr exposed
    exact ⟨present.resolve_right (List.ne_nil_of_mem key), fun scenario listed =>
      covers scenario listed symbol key⟩
  · intro short larger
    rw [← projected.resulting] at short larger
    rw [← projected.base] at larger
    simp only [shortBorrowRule, opensShort, decide_eq_true_eq] at borrowed
    exact borrowed.resolve_left fun closed => closed ⟨short, larger⟩
  · cases unprotected : assessment.protectiveReduction with
    | true => exact Or.inr (protects unprotected)
    | false =>
        simp only [positionLimitRule, dailyLossRule, drawdownRule, ceilingRule, marginHeadroomRule,
          stressLossRule, unprotected, decide_eq_true_eq, Bool.false_eq_true, or_false]
          at held daily drawn margin stressed
        refine Or.inl ⟨?_, ?_, ?_, ?_, ?_, drawn, margin⟩
        · intro symbol
          rw [← projected.positions]
          exact abs_le_of_projectedAbsPosition positionEq policy.position_pos held symbol
        · exact leverage_within grossEq grossHeld unprotected context.equity_pos
            (projected.grossLeverage.trans (by rw [projected.gross, grossSum]; rfl))
        · exact leverage_within netEq netHeld unprotected context.equity_pos
            (projected.netLeverage.trans (by rw [projected.net, netSum]; rfl))
        · intro scenario listed
          have lost := losses scenario listed
          rw [pnlSum] at lost
          exact lost.trans (Decimal.le_def.mp stressed.2)
        · rw [Decimal.le_def, maximum_toRat, max_le_iff, riskNegate_eq_ok.mp negatedEq] at daily
          exact daily.1

end Evaluate

theorem exists_of_any (evaluation : Except RiskError RiskDecision)
    (any : evaluation.toOption.any (·.admitted) = true) :
    ∃ decision, evaluation = .ok decision ∧ decision.admitted = true := by
  cases evaluation with
  | error error => cases any
  | ok decision => exact ⟨decision, rfl, any⟩

/-- Closing the portfolio of one symbol is admitted. -/
theorem admitted_within_or_reduces_closing :
    letI := Fingerprint.flat
    WithinLimits closingIntent coveredContext basicPolicy ∨ Reduces closingIntent coveredContext := by
  let := Fingerprint.flat
  obtain ⟨decision, returned, admitted⟩ := exists_of_any
    (evaluateRisk closingIntent coveredContext basicPolicy none) (by decide +kernel)
  exact (admitted_within_or_reduces returned admitted).2.2

end AutoTrade.Risk
