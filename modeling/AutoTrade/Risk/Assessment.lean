import AutoTrade.Risk.Projection

/-!
# The assessment of a projection

The second part of `evaluate_risk`: concentration, participation, factor exposure, stress
and tail losses of the projected portfolio and whether the intent protectively reduces it.
-/

namespace AutoTrade.Risk

open Lib Numeric

/-! ## Concentration and participation -/

/-- The largest share of one bucket. -/
structure Concentration where
  fraction : ℚ
  report : Decimal
  /-- The symbols without a bucket. -/
  missing : List String

/-- The gross exposure of each bucket. -/
def bucketTotals (buckets : Dict String String) (notionals : Dict String Decimal) :
    Except RiskError (Dict String Decimal) :=
  notionals.entries.foldlM (fun groups entry =>
    match buckets.get? entry.1 with
    | none => .ok groups
    | some bucket => do
        let size ← riskAbs entry.2
        let total ← riskAdd (quantityOf groups bucket) size
        return groups.set bucket total) ∅

/-- The concentration by asset bucket or by venue, when the policy limits it. -/
def concentrationOf (limit : Option Decimal) (buckets : Dict String String)
    (notionals : Dict String Decimal) (gross : Decimal) (name : String) :
    Except RiskError Concentration := do
  if limit = none ∨ gross ≤ 0 then
    return ⟨0, 0, []⟩
  let groups ← bucketTotals buckets notionals
  let missing := notionals.keys.filter (· ∉ buckets.keys)
  if missing ≠ [] ∨ groups.entries = [] then
    return ⟨0, 0, missing⟩
  let fraction ← exactRatio (maximumOf groups.values) gross name
  let report ← ratioReport fraction
  return ⟨fraction, report, missing⟩

/-- The share of the evidenced liquidity that the order takes. -/
structure Participation where
  fraction : ℚ
  report : Decimal
  evidenced : Bool

/-- The participation, when the policy limits it. -/
def participationOf (limit : Option Decimal) (capacity : Option Decimal) (quantity : Decimal) :
    Except RiskError Participation :=
  match limit, capacity with
  | none, _ => .ok ⟨0, 0, true⟩
  | some _, none => .ok ⟨0, 0, false⟩
  | some _, some capacity => do
      if capacity ≤ 0 then
        return ⟨0, 0, false⟩
      let fraction ← exactRatio quantity capacity "liquidity participation"
      let report ← ratioReport fraction
      return ⟨fraction, report, true⟩

/-! ## Factor exposure -/

/-- The exposure of notionals to each factor. -/
def factorTotals (loadings : Dict String (Dict String Decimal))
    (notionals : Dict String Decimal) : Except RiskError (Dict String Decimal) :=
  notionals.entries.foldlM (fun totals entry =>
    ((loadings.get? entry.1).getD ∅).entries.foldlM (fun totals loading => do
      let exposure ← riskProduct entry.2 loading.2
      let total ← riskAdd (quantityOf totals loading.1) exposure
      return totals.set loading.1 total) totals) ∅

/-- The largest exposure to a factor. -/
def largestFactor (totals : Dict String Decimal) : Except RiskError Decimal := do
  let sizes ← totals.values.mapM riskAbs
  return maximumOf sizes

/-- The exposure to factors before and after the intent. -/
structure FactorExposure where
  exposure : Decimal
  baseExposure : Decimal
  /-- The symbols without loadings. -/
  missing : List String

/-- The factor exposure, when the policy limits it. -/
def factorExposureOf (limit : Option Decimal) (loadings : Dict String (Dict String Decimal))
    (notionals baseNotionals : Dict String Decimal) : Except RiskError FactorExposure := do
  if limit = none then
    return ⟨0, 0, []⟩
  let totals ← factorTotals loadings notionals
  let missing := notionals.keys.filter fun symbol =>
    (loadings.get? symbol).all fun values => values.entries = []
  let exposure ← (if missing = [] then largestFactor totals else .ok 0)
  let baseTotals ← factorTotals loadings baseNotionals
  let baseExposure ← largestFactor baseTotals
  return ⟨exposure, baseExposure, missing⟩

/-! ## Scenarios -/

/-- The symbols that some scenario lacks. -/
def uncovered (scenarios : List Scenario) (notionals : Dict String Decimal) : List String :=
  notionals.keys.filter fun symbol => ∃ scenario ∈ scenarios, symbol ∉ scenario.keys

/-- `base_stress_comparison_complete` and `base_tail_comparison_complete`. -/
def baseComparisonComplete (scenarios : List Scenario)
    (notionals baseNotionals : Dict String Decimal) : Bool :=
  notionals.keys = [] ∨ baseNotionals.keys = [] ∨
    scenarios ≠ [] ∧ uncovered scenarios baseNotionals = []

/-- The stress losses before and after the intent. -/
structure StressResult where
  coverageComplete : Bool
  missing : List String
  regimeComplete : Bool
  missingLabels : List String
  mismatchedLabels : List String
  worst : Decimal
  baseWorst : Decimal

/-- `mismatched_stress_labels`. -/
def mismatchedStressLabels [Fingerprint] (context : RiskContext) (required : List String)
    (digests : Dict String String) : Except RiskError (List String) := do
  let observed : Dict String Scenario :=
    (∅ : Dict String Scenario).setAll (context.stressScenarioLabels.zip context.stressScenarios)
  let found ← required.mapM fun label =>
    match observed.get? label with
    | none => .ok none
    | some scenario => do
        let digest ← stressScenarioDigest scenario.input
        let expected ← lookup digests label
        return if digest = expected then none else some label
  return found.reduceOption

/-- The worst loss after one more scenario. -/
def worsen (notionals : Dict String Decimal) (worst : Decimal) (scenario : Scenario) :
    Except RiskError Decimal := do
  let pnl ← scenarioPnl notionals scenario
  let loss ← riskNegate pnl
  return maximum worst loss

/-- One scenario of the stress loop. -/
def stressStep (comparable : Bool) (notionals baseNotionals : Dict String Decimal)
    (losses : Decimal × Decimal) (scenario : Scenario) :
    Except RiskError (Decimal × Decimal) := do
  let baseWorst ← (if comparable then worsen baseNotionals losses.1 scenario else .ok losses.1)
  let worst ← worsen notionals losses.2 scenario
  return (baseWorst, worst)

/-- The losses that the stress loop returns before and after the intent. -/
def stressLosses (covered comparable : Bool) (scenarios : List Scenario)
    (notionals baseNotionals : Dict String Decimal) : Except RiskError (Decimal × Decimal) :=
  if covered then scenarios.foldlM (stressStep comparable notionals baseNotionals) (0, 0)
  else .ok (0, 0)

/-- `stress_regime_coverage_complete`, with the labels that are missing or mismatched. -/
def stressRegime [Fingerprint] (context : RiskContext) (policy : RiskPolicy)
    (notionals : Dict String Decimal) : Except RiskError (Bool × List String × List String) :=
  match policy.requiredStressScenarioLabels with
  | none => .ok (true, [], [])
  | some required =>
      if notionals.keys = [] then .ok (true, [], [])
      else do
        let missingLabels := required.filter (· ∉ context.stressScenarioLabels)
        let mismatched ← mismatchedStressLabels context required
          (policy.requiredStressScenarioDigests.getD ∅)
        return (decide (missingLabels = [] ∧ mismatched = [] ∧
          context.stressScenarioLabels.length = context.stressScenarios.length),
          missingLabels, mismatched)

/-- The stress coverage and losses. -/
def stressOf [Fingerprint] (context : RiskContext) (policy : RiskPolicy)
    (notionals baseNotionals : Dict String Decimal) : Except RiskError StressResult := do
  let regime ← stressRegime context policy notionals
  let missing := uncovered context.stressScenarios notionals
  let coverageComplete : Bool :=
    (context.stressScenarios ≠ [] ∨ notionals.keys = []) ∧ missing = []
  let comparable := baseComparisonComplete context.stressScenarios notionals baseNotionals
  let losses ← stressLosses coverageComplete comparable context.stressScenarios notionals
    baseNotionals
  return ⟨coverageComplete, missing, regime.1, regime.2.1, regime.2.2, losses.2, losses.1⟩

/-- The tail losses before and after the intent. -/
structure TailResult where
  coverageComplete : Bool
  distributionMatches : Bool
  baseComparable : Bool
  missing : List String
  shortfallFraction : Option ℚ
  shortfall : Option Decimal
  baseShortfallFraction : Option ℚ

/-- The shortfall of covered scenarios with its report. -/
def reportedTail (notionals : Dict String Decimal) (scenarios : List Scenario) (tailCount : Nat)
    (name : String) : Except RiskError (ℚ × Decimal) := do
  let fraction ← tailAverage notionals scenarios tailCount name
  let report ← ratioReport fraction
  return (fraction, report)

/-- `tail_distribution_matches`. -/
def tailDistributionMatches [Fingerprint] (scenarios : List Scenario)
    (requiredDigest : Option String) (notionals : Dict String Decimal) : Except RiskError Bool :=
  if notionals.keys = [] then .ok true
  else if scenarios = [] then .ok false
  else do
    let digest ← tailScenarioSetDigest (scenarios.map Scenario.input)
    return decide (some digest = requiredDigest)

/-- `tail_count`. -/
def tailCountOf (scenarios : List Scenario) (tailFraction : Decimal) : Except RiskError Nat :=
  if scenarios = [] then .ok 0 else selectTailCount scenarios.length tailFraction

/-- The expected shortfall after the intent, when the scenarios cover it. -/
def projectedShortfall (covered : Bool) (scenarios : List Scenario) (tailCount : Nat)
    (notionals : Dict String Decimal) : Except RiskError (Option (ℚ × Decimal)) :=
  if ¬ covered then .ok none
  else if notionals.keys = [] then .ok (some (0, 0))
  else (reportedTail notionals scenarios tailCount "expected shortfall").map some

/-- The expected shortfall before the intent, when it can be compared. -/
def baseShortfall (comparable : Bool) (scenarios : List Scenario) (tailCount : Nat)
    (baseNotionals : Dict String Decimal) : Except RiskError (Option (ℚ × Decimal)) :=
  if baseNotionals.keys = [] then .ok (some (0, 0))
  else if comparable ∧ scenarios ≠ [] then
    (reportedTail baseNotionals scenarios tailCount "base expected shortfall").map some
  else .ok none

/-- The tail coverage and the expected shortfalls of a configured policy. -/
def configuredTail [Fingerprint] (scenarios : List Scenario) (requiredDigest : Option String)
    (tailFraction : Decimal) (notionals baseNotionals : Dict String Decimal) :
    Except RiskError TailResult := do
  let distributionMatches ← tailDistributionMatches scenarios requiredDigest notionals
  let missing := uncovered scenarios notionals
  let coverageComplete : Bool :=
    (scenarios ≠ [] ∨ notionals.keys = []) ∧ distributionMatches ∧ missing = []
  let comparable := baseComparisonComplete scenarios notionals baseNotionals
  let tailCount ← tailCountOf scenarios tailFraction
  let shortfall ← projectedShortfall coverageComplete scenarios tailCount notionals
  let base ← baseShortfall comparable scenarios tailCount baseNotionals
  return ⟨coverageComplete, distributionMatches, comparable, missing, shortfall.map Prod.fst,
    shortfall.map Prod.snd, base.map Prod.fst⟩

/-- The tail coverage and losses; the limit and the fraction are configured together. -/
def tailOf [Fingerprint] (context : RiskContext) (policy : RiskPolicy)
    (notionals baseNotionals : Dict String Decimal) : Except RiskError TailResult :=
  match policy.maxExpectedShortfall, policy.expectedShortfallTailFraction with
  | some _, some tailFraction =>
      configuredTail context.tailScenarios policy.requiredTailScenarioSetDigest tailFraction
        notionals baseNotionals
  | _, _ => .ok ⟨true, true, true, [], none, none, none⟩

/-! ## Protective reductions -/

/-- The quantity gets strictly smaller without crossing flat. -/
def reducesExposure (before after : Decimal) : Except RiskError Bool := do
  let sizeAfter ← riskAbs after
  let sizeBefore ← riskAbs before
  if sizeAfter < sizeBefore then
    let product ← riskProduct before after
    return decide (0 ≤ product)
  return false

/-- The names that the second part of `evaluate_risk` binds. -/
structure Assessment where
  asset : Concentration
  venue : Concentration
  participation : Participation
  factor : FactorExposure
  stress : StressResult
  tail : TailResult
  reducesAbsoluteExposure : Bool
  currentAfterIntent : Decimal
  reducesCurrentExposure : Bool
  protectiveReduction : Bool

/-- `stress_nonworsening`. -/
def stressNonworsening (scenarios : List Scenario) (projection : Projection)
    (stress : StressResult) : Bool :=
  projection.notionals.keys = [] ∨
    stress.coverageComplete ∧
      baseComparisonComplete scenarios projection.notionals projection.baseNotionals ∧
      stress.worst ≤ stress.baseWorst

/-- `tail_nonworsening`. -/
def tailNonworsening (policy : RiskPolicy) (projection : Projection) (tail : TailResult) : Bool :=
  policy.maxExpectedShortfall = none ∨ projection.notionals.keys = [] ∨
    tail.coverageComplete ∧ tail.baseComparable ∧
      ∃ shortfall ∈ tail.shortfallFraction, ∃ baseShortfall ∈ tail.baseShortfallFraction,
        shortfall ≤ baseShortfall

/-- The second part of `evaluate_risk`. -/
def assess [Fingerprint] (intent : RiskIntent) (context : RiskContext) (policy : RiskPolicy)
    (projection : Projection) : Except RiskError Assessment := do
  let asset ← concentrationOf policy.maxAssetConcentrationFraction context.assetBuckets
    projection.notionals projection.gross "asset concentration"
  let venue ← concentrationOf policy.maxVenueConcentrationFraction context.venues
    projection.notionals projection.gross "venue concentration"
  let participation ← participationOf policy.maxOrderParticipationFraction
    (context.liquidityCapacity.get? intent.symbol) intent.quantity
  let factor ← factorExposureOf policy.maxAbsFactorExposure context.factorLoadings
    projection.notionals projection.baseNotionals
  let stress ← stressOf context policy projection.notionals projection.baseNotionals
  let tail ← tailOf context policy projection.notionals projection.baseNotionals
  let reducesAbsoluteExposure ← reducesExposure projection.basePosition projection.resulting
  let current := quantityOf context.positions intent.symbol
  let currentAfterIntent ← riskAdd current projection.signed
  let reducesCurrentExposure ← reducesExposure current currentAfterIntent
  let protectiveReduction : Bool :=
    intent.reduceOnly ∧ reducesAbsoluteExposure ∧ reducesCurrentExposure ∧
      projection.gross < projection.baseGross ∧ projection.net ≤ projection.baseNet ∧
      stressNonworsening context.stressScenarios projection stress ∧
      tailNonworsening policy projection tail
  return ⟨asset, venue, participation, factor, stress, tail, reducesAbsoluteExposure,
    currentAfterIntent, reducesCurrentExposure, protectiveReduction⟩

end AutoTrade.Risk
