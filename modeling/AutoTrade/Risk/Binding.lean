import AutoTrade.Reconciliation.Evidence
import AutoTrade.Risk.Evaluation
import AutoTrade.Risk.Requirements

/-!
# Bound decisions

The fingerprint of a risk decision, the binding of an evaluation to the intent, the
versions, the requirements and the period it holds for, and the validation of a bound
decision.
-/

namespace AutoTrade.Risk

open Lib Numeric

open Reconciliation (IsoFormat)

/-! ## The fingerprint -/

/-- A decision with any numbers of a caller. -/
abbrev GivenDecision : Type := Decision DecimalInput DecimalInput

/-- `type(value) is Decimal`. -/
def isDecimal : DecimalInput → Bool
  | .decimal _ | .bounded _ | .nonFinite => true
  | .int _ | .text _ | .inexact => false

/-- `_validate_risk_decision_shape` for the decimals. -/
def validateRiskDecisionShape (decision : GivenDecision) : Except RiskError Unit :=
  [("resulting_position", decision.resultingPosition), ("gross_leverage", decision.grossLeverage),
    ("net_leverage", decision.netLeverage),
    ("worst_stress_loss", decision.worstStressLoss)].forM fun field =>
      if isDecimal field.2 then .ok ()
      else .error (.typeError s!"risk decision {field.1} must be an exact Decimal")

/-- `_canonical_decimal_text` of any `Decimal`. -/
def givenText (value : DecimalInput) : Except RiskError String :=
  match value with
  | .decimal tuple => envelope "decimal identity" (canonicalDecimalText tuple)
  | .bounded value => .ok (decimalText value)
  | _ => .error (.arithmetic "decimal identity")

/-- `_risk_binding_text`. -/
def riskBindingText (value name : String) : Except RiskError String := do
  if strip value = "" then
    throw (.valueError s!"{name} is required")
  return strip value

/-- `_risk_binding_instant`. -/
def riskBindingInstant [IsoFormat] (value : Option String) (name : String) :
    Except RiskError Instant := do
  let text ← riskBindingText (value.getD "") name
  match IsoFormat.parse text with
  | some instant => .ok instant
  | none => .error (.valueError s!"{name} must be an ISO timestamp with timezone")

def rulePayload (result : RiskRuleResult) : Payload :=
  .obj [("rule", .str result.rule), ("passed", .bool result.passed),
    ("observed", .str result.observed), ("limit", .str result.limit),
    ("reason", .str result.reason)]

/-- Which values of the binding are present. -/
def bindingValues {δ ρ : Type} (decision : Decision δ ρ) : List Bool :=
  [decision.intentHash.isSome, decision.stateVersion.isSome, decision.policyVersion.isSome,
    decision.reservationVersion.isSome, decision.reservationRequirements.isSome,
    decision.capabilitySnapshotId.isSome, decision.evaluatedAt.isSome,
    decision.validUntil.isSome]

/-- The members of the policy in the fingerprinted value. -/
def policyMembers (policy : Option String) : Except RiskError (List (String × Payload)) :=
  match policy with
  | none => .ok []
  | some policy =>
      if policy ≠ riskArithmeticPolicyId then
        .error (.valueError "unsupported risk arithmetic policy")
      else .ok [("arithmetic_policy_id", .str policy)]

/-- The members of the binding, without the snapshot, when one is present. -/
def bindingMembers (decision : GivenDecision) :
    Except RiskError (Option (List (String × Payload))) :=
  if true ∈ bindingValues decision then
    if false ∈ bindingValues decision then
      .error (.valueError "risk decision binding must be complete")
    else do
      let requirements ← reservationRequirementsPayload
        (.tuple (decision.reservationRequirements.getD []))
      return some [("intent_hash", optionPayload .str decision.intentHash),
        ("state_version", optionPayload .int decision.stateVersion),
        ("policy_version", optionPayload .int decision.policyVersion),
        ("reservation_version", optionPayload .int decision.reservationVersion),
        ("reservation_requirements", requirements),
        ("capability_snapshot_id", optionPayload .str decision.capabilitySnapshotId),
        ("evaluated_at", optionPayload .str decision.evaluatedAt),
        ("valid_until", optionPayload .str decision.validUntil)]
  else .ok none

/-- The binding with the authoritative snapshot. -/
def snapshotMembers (snapshot : Option String) (binding : Option (List (String × Payload))) :
    Except RiskError (Option (List (String × Payload))) :=
  match snapshot with
  | none => .ok binding
  | some snapshot =>
      match binding with
      | none => .error (.valueError
          "authoritative risk snapshot requires complete risk decision binding")
      | some members => do
          let text ← riskBindingText snapshot "authoritative_risk_snapshot_id"
          return some (members ++ [("authoritative_risk_snapshot_id", .str text)])

/-- The value whose text `risk_decision_fingerprint` digests. -/
def decisionPayload (decision : GivenDecision) : Except RiskError Payload := do
  validateRiskDecisionShape decision
  let resultingPosition ← givenText decision.resultingPosition
  let grossLeverage ← givenText decision.grossLeverage
  let netLeverage ← givenText decision.netLeverage
  let worstStressLoss ← givenText decision.worstStressLoss
  let policy ← policyMembers decision.arithmeticPolicyId
  let members ← bindingMembers decision
  let binding ← snapshotMembers decision.authoritativeRiskSnapshotId members
  return .obj ([("admitted", .bool decision.admitted),
    ("resulting_position", .str resultingPosition), ("gross_leverage", .str grossLeverage),
    ("net_leverage", .str netLeverage), ("worst_stress_loss", .str worstStressLoss),
    ("input_fingerprint", .str decision.inputFingerprint),
    ("rules", listPayload rulePayload decision.rules)] ++ policy ++
    binding.toList.map fun members => ("binding", .obj members))

/-- `risk_decision_fingerprint`. -/
def riskDecisionFingerprint [Fingerprint] (decision : GivenDecision) : Except RiskError String := do
  let payload ← decisionPayload decision
  let encoded ← jsonText payload
  return sha256 encoded

/-! ## Binding and validation -/

/-- The arguments of `evaluate_bound_risk` besides the intent, the context and the policy. -/
structure RiskBinding where
  intentHash : String
  policyVersion : ℤ
  reservationVersion : ℤ
  reservationRequirements : Dict String DecimalInput
  capabilitySnapshotId : String
  evaluatedAt : String
  validUntil : String
  authoritativeRiskSnapshotId : Option String

/-- `bind_risk_decision`. -/
def bindRiskDecision [Fingerprint] [IsoFormat] (decision : GivenDecision) (stateVersion : ℤ)
    (binding : RiskBinding) : Except RiskError GivenDecision := do
  validateRiskDecisionShape decision
  if decision.arithmeticPolicyId ≠ some riskArithmeticPolicyId then
    throw (.valueError "risk decision must use the current exact arithmetic policy")
  let intentHash ← riskBindingText binding.intentHash "intent_hash"
  let capability ← riskBindingText binding.capabilitySnapshotId "capability_snapshot_id"
  let snapshot ← binding.authoritativeRiskSnapshotId.mapM fun snapshot =>
    riskBindingText snapshot "authoritative_risk_snapshot_id"
  if stateVersion < 0 then
    throw (.valueError "state_version must be a non-negative integer")
  if binding.policyVersion < 1 then
    throw (.valueError "policy_version must be a positive integer")
  if binding.reservationVersion < 0 then
    throw (.valueError "reservation_version must be a non-negative integer")
  let requirements ← normalizeReservationRequirements binding.reservationRequirements
  let evaluatedAt ← riskBindingText binding.evaluatedAt "evaluated_at"
  let validUntil ← riskBindingText binding.validUntil "valid_until"
  let evaluated ← riskBindingInstant (some evaluatedAt) "evaluated_at"
  let valid ← riskBindingInstant (some validUntil) "valid_until"
  if valid ≤ evaluated then
    throw (.valueError "evaluated_at must precede valid_until")
  let bound := { decision with
    decisionId := none
    intentHash := some intentHash
    stateVersion := some stateVersion
    policyVersion := some binding.policyVersion
    reservationVersion := some binding.reservationVersion
    reservationRequirements :=
      some (requirements.map fun item => (item.1, DecimalInput.bounded item.2))
    capabilitySnapshotId := some capability
    authoritativeRiskSnapshotId := snapshot
    evaluatedAt := some evaluatedAt
    validUntil := some validUntil }
  let digest ← riskDecisionFingerprint bound
  return { bound with decisionId := some ("risk:sha256:" ++ digest) }

/-- `validate_bound_risk_decision`. -/
def validateBoundRiskDecision [Fingerprint] [IsoFormat] (decision : GivenDecision)
    (now : String) : Except RiskError Unit := do
  validateRiskDecisionShape decision
  if decision.decisionId = none then
    throw (.valueError "risk_decision must be bound before admission")
  if decision.arithmeticPolicyId ≠ some riskArithmeticPolicyId then
    throw (.valueError "risk_decision arithmetic policy is not current")
  let digest ← riskDecisionFingerprint decision
  if decision.decisionId ≠ some ("risk:sha256:" ++ digest) then
    throw (.valueError "risk_decision_id does not match bound evidence")
  let current ← riskBindingInstant (some now) "now"
  let evaluated ← riskBindingInstant decision.evaluatedAt "evaluated_at"
  let valid ← riskBindingInstant decision.validUntil "valid_until"
  if current < evaluated then
    throw (.valueError "risk_decision is not yet valid")
  if valid ≤ current then
    throw (.valueError "risk_decision is expired")

/-- `evaluate_bound_risk`. -/
def evaluateBoundRisk [Fingerprint] [IsoFormat] (intent : RiskIntent) (context : RiskContext)
    (policy : RiskPolicy) (binding : RiskBinding) (store : Option EvidenceStore) :
    Except RiskError GivenDecision := do
  if store.isSome then
    throw (.valueError "caller-selected evidence_store cannot bind financial risk")
  let requirements ← normalizeReservationRequirements binding.reservationRequirements
  let sealedRequirements : Dict String DecimalInput :=
    requirements.foldl (fun items item => items.set item.1 (.bounded item.2)) ∅
  let decision ← evaluateRisk intent context policy none
  bindRiskDecision (decision.map .bounded .bounded) context.stateVersion
    { binding with reservationRequirements := sealedRequirements }

end AutoTrade.Risk
