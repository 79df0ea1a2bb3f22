import AutoTrade.Lib.Largest
import AutoTrade.Risk.Domain

/-!
# Scenarios

Normalization and content identities of scenarios, the loss of a portfolio in a
scenario and the expected shortfall over the worst tail of a list of scenarios.
-/

namespace AutoTrade.Risk

open Lib Numeric

/-! ## Normalization -/

/-- The messages that `_decimal` reports as a failure of resources. -/
def isResourceFailure (value : DecimalInput) (detail : String) : Bool :=
  "resource envelope".toList <:+: detail.toList ||
  "maximum significant digits".toList <:+: detail.toList ||
  "maximum scale".toList <:+: detail.toList ||
  "maximum integer digits".toList <:+: detail.toList ||
  (detail == "invalid or oversized decimal presentation" &&
    match value with
    | .text text => maxDecimalTextLength < text.length
    | _ => false)

/-- `_decimal`. -/
def decimal (value : DecimalInput) (name : String) : Except RiskError Decimal :=
  if value = .inexact then
    .error (.typeError s!"{name} must use Decimal, string or integer input")
  else
    (parseBoundedExactDecimal value true).mapError fun error =>
      if isResourceFailure value error.message then
        .valueError s!"{name} exceeds the exact Decimal resource envelope"
      else .valueError s!"{name} must be a bounded finite decimal"

/-- `_positive`. -/
def positive (value : DecimalInput) (name : String) : Except RiskError Decimal := do
  let result ← decimal value name
  if result ≤ 0 then
    throw (.valueError s!"{name} must be positive")
  return result

/-- `_identity_key`. -/
def identityKey (value name : String) : Except RiskError String := do
  if strip value = "" then
    throw (.valueError s!"{name} keys must be non-empty strings")
  return strip value

/-- The entry of an item, with a stripped key and a parsed value. -/
def normalizeItem (name : String) (parser : DecimalInput → String → Except RiskError Decimal)
    (normalized : Dict String Decimal) (item : String × DecimalInput) :
    Except RiskError (Dict String Decimal) := do
  let key ← identityKey item.1 name
  if key ∈ normalized.keys then
    throw (.valueError s!"{name} keys must be unique after normalization")
  let value ← parser item.2 key
  return normalized.set key value

def normalizeItems (items : List (String × DecimalInput)) (name : String)
    (parser : DecimalInput → String → Except RiskError Decimal) :
    Except RiskError (Dict String Decimal) :=
  items.foldlM (normalizeItem name parser) ∅

/-- `_normalize_mapping`. -/
def normalizeMapping (values : Dict String DecimalInput) (name : String)
    (parser : DecimalInput → String → Except RiskError Decimal) :
    Except RiskError (Dict String Decimal) :=
  normalizeItems values.entries name parser

/-! ## Content identities -/

/-- The normalization of a scenario. -/
def normalizeScenario (scenario : Dict String DecimalInput) : Except RiskError Scenario :=
  normalizeMapping scenario "stress_scenario" fun value key =>
    decimal value ("stress shock " ++ key)

/-- `stress_scenario_digest`. -/
def stressScenarioDigest [Fingerprint] (scenario : Dict String DecimalInput) :
    Except RiskError String := do
  let normalized ← normalizeScenario scenario
  let encoded ← jsonText (Json.ofTexts (normalized.mapValues decimalText))
  return "sha256:" ++ sha256 encoded

/-- `tail_scenario_set_digest`. -/
def tailScenarioSetDigest [Fingerprint] (scenarios : List (Dict String DecimalInput)) :
    Except RiskError String := do
  let digests ← scenarios.mapM stressScenarioDigest
  let encoded ← jsonText (.arr ((digests.insertionSort (· ≤ ·)).map .str))
  return "sha256:" ++ sha256 encoded

/-- A normalized scenario as an argument. -/
def Scenario.input (scenario : Scenario) : Dict String DecimalInput := scenario.mapValues .bounded

/-! ## Losses -/

/-- `mapping[key]`. -/
def lookup {ν : Type} (mapping : Dict String ν) (key : String) : Except RiskError ν :=
  match mapping.get? key with
  | some value => .ok value
  | none => .error (.keyError key)

theorem lookup_eq_ok {ν : Type} {mapping : Dict String ν} {key : String} {value : ν} :
    lookup mapping key = .ok value ↔ mapping.get? key = some value := by
  rw [lookup]
  split
  next other found => simp [found]
  next absent => simp [absent]

/-- The pnl of notionals in a scenario. -/
def scenarioPnl (notionals : Dict String Decimal) (scenario : Scenario) :
    Except RiskError Decimal :=
  riskSum (notionals.entries.map fun entry => do
    let shock ← lookup scenario entry.1
    riskProduct entry.2 shock)

/-- `max(_risk_negate(pnl), _ZERO)`. -/
def scenarioLoss (notionals : Dict String Decimal) (scenario : Scenario) :
    Except RiskError Decimal := do
  let pnl ← scenarioPnl notionals scenario
  let loss ← riskNegate pnl
  return maximum loss 0

/-- The `tail_count` of a non-empty list of scenarios. -/
def selectTailCount (count : Nat) (tailFraction : Decimal) : Except RiskError Nat := do
  let fraction ← riskFraction (count * tailFraction.toRat) "tail-count selection"
  let ceiling ← nonnegativeFractionCeiling fraction
  return max 1 ceiling.toNat

/-- The average of the `tail_count` largest losses. -/
def tailAverage (notionals : Dict String Decimal) (scenarios : List Scenario) (tailCount : Nat)
    (name : String) : Except RiskError ℚ := do
  let losses ← scenarios.mapM (scenarioLoss notionals)
  let tail := (losses.insertionSort (· ≥ ·)).take tailCount
  let total ← riskSum (tail.map .ok)
  let count ← envelope name (terminatingDecimal tail.length)
  exactRatio total count name

/-- The expected shortfall of a non-empty list of scenarios. -/
def expectedShortfall (notionals : Dict String Decimal) (scenarios : List Scenario)
    (tailFraction : Decimal) : Except RiskError ℚ := do
  let tailCount ← selectTailCount scenarios.length tailFraction
  tailAverage notionals scenarios tailCount "expected shortfall"

end AutoTrade.Risk
