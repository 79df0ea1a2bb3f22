import AutoTrade.Risk.Binding
import AutoTrade.Risk.FailClosed

/-!
# Tampering with bound decisions

A bound decision is valid through its period.  Another decision under its identity is
rejected, unless all that differs is the white space around the snapshot id.
-/

namespace AutoTrade.Risk

open Lib Numeric

open Reconciliation (IsoFormat)

/-! ## What is fingerprinted -/

/-- The decision with the values of its numbers. -/
def Decision.valued (decision : GivenDecision) : Decision (Option Decimal) (Option Decimal) :=
  decision.map exactDecimal? number?

/-- The decision with its snapshot id stripped. -/
def Decision.stripped (decision : GivenDecision) : GivenDecision :=
  { decision with
    authoritativeRiskSnapshotId := decision.authoritativeRiskSnapshotId.map strip }

/-- A decision that presents the values of another one. -/
def Presents (given : GivenDecision) (decision : RiskDecision) : Prop :=
  given.stripped.valued = decision.map some some

/-- A decision that has a fingerprint with a binding. -/
structure Sealable (decision : RiskDecision) : Prop where
  policy : decision.arithmeticPolicyId = some riskArithmeticPolicyId
  complete : false ∉ bindingValues decision
  requirements : ∀ items ∈ decision.reservationRequirements, CanonicalItems items
  snapshot : ∀ snapshot ∈ decision.authoritativeRiskSnapshotId, Normal snapshot

namespace Sealable

variable {decision : RiskDecision}

theorem required (sealable : Sealable decision) :
    decision.reservationRequirements.isSome = true := by
  have complete := sealable.complete
  simp only [bindingValues, List.mem_cons, not_or, Bool.false_eq, Bool.not_eq_false] at complete
  exact complete.2.2.2.2.1

theorem evaluated (sealable : Sealable decision) : decision.evaluatedAt.isSome = true := by
  have complete := sealable.complete
  simp only [bindingValues, List.mem_cons, not_or, Bool.false_eq, Bool.not_eq_false] at complete
  exact complete.2.2.2.2.2.2.1

end Sealable

def bindingPayload (decision : RiskDecision) : Payload :=
  .obj ([("intent_hash", optionPayload .str decision.intentHash),
    ("state_version", optionPayload .int decision.stateVersion),
    ("policy_version", optionPayload .int decision.policyVersion),
    ("reservation_version", optionPayload .int decision.reservationVersion),
    ("reservation_requirements",
      requirementTexts (decision.reservationRequirements.getD [])),
    ("capability_snapshot_id", optionPayload .str decision.capabilitySnapshotId),
    ("evaluated_at", optionPayload .str decision.evaluatedAt),
    ("valid_until", optionPayload .str decision.validUntil)] ++
    decision.authoritativeRiskSnapshotId.toList.map fun snapshot =>
      ("authoritative_risk_snapshot_id", .str snapshot))

/-- The fingerprinted value of a decision with a binding. -/
def sealedPayload (decision : RiskDecision) : Payload :=
  .obj [("admitted", .bool decision.admitted),
    ("resulting_position", decimalPayload decision.resultingPosition),
    ("gross_leverage", decimalPayload decision.grossLeverage),
    ("net_leverage", decimalPayload decision.netLeverage),
    ("worst_stress_loss", decimalPayload decision.worstStressLoss),
    ("input_fingerprint", .str decision.inputFingerprint),
    ("rules", listPayload rulePayload decision.rules),
    ("arithmetic_policy_id", .str riskArithmeticPolicyId),
    ("binding", bindingPayload decision)]

/-! ## The texts of decimals -/

/-- A decimal within the envelope is written as its value. -/
theorem canonicalDecimalText_of_admitTuple {tuple : DecimalTuple} {value : Decimal}
    (admitted : admitTuple tuple = .ok value) :
    canonicalDecimalText tuple = .ok (decimalText value) := by
  cases valid : validateDecimalEnvelope tuple with
  | error error =>
      rw [admitTuple_of_invalid valid] at admitted
      cases admitted
  | ok inside =>
      have written := canonicalText_eq value
      rw [Decimal.canonicalText, bind_eq_ok] at written
      obtain ⟨presented, found, text⟩ := written
      have same : tuple.toRat = presented.tuple.toRat :=
        (admitTuple_toRat admitted).symm.trans (presentTerminating_toRat found).symm
      rw [canonicalDecimalText_eq_of_toRat_eq valid presented.admitted same, text]

theorem givenText_eq_ok {value : DecimalInput} {text : String} :
    givenText value = .ok text ↔ ∃ number, exactDecimal? value = some number ∧
      decimalText number = text := by
  cases value with
  | decimal tuple =>
      cases admitted : admitTuple tuple with
      | error error =>
          have invalid : ¬ ∃ text, canonicalDecimalText tuple = .ok text := by
            intro ⟨text, written⟩
            rw [canonicalDecimalText, bind_eq_ok] at written
            obtain ⟨inside, valid, _⟩ := written
            rw [admitTuple_of_valid valid] at admitted
            cases admitted
          simp only [not_exists] at invalid
          simp [givenText, envelope, exactDecimal?, admitted, Except.toOption, mapError_eq_ok,
            invalid]
      | ok number =>
          simp [givenText, envelope, exactDecimal?, admitted, Except.toOption, mapError_eq_ok,
            canonicalDecimalText_of_admitTuple admitted]
  | bounded value => simp [givenText, exactDecimal?]
  | nonFinite => simp [givenText, exactDecimal?]
  | int value => simp [givenText, exactDecimal?]
  | text value => simp [givenText, exactDecimal?]
  | inexact => simp [givenText, exactDecimal?]

theorem isDecimal_of_exactDecimal? {value : DecimalInput} {number : Decimal}
    (exact : exactDecimal? value = some number) : isDecimal value = true := by
  cases value <;> first | rfl | cases exact

theorem riskBindingText_eq_ok {value name text : String} :
    riskBindingText value name = .ok text ↔ strip value ≠ "" ∧ strip value = text := by
  rw [riskBindingText, throw_unless_eq_ok, pure_eq_ok]

/-! ## The parts of the fingerprinted value -/

theorem presents_iff {given : GivenDecision} {decision : RiskDecision} :
    Presents given decision ↔
      (given.admitted = decision.admitted ∧
        exactDecimal? given.resultingPosition = some decision.resultingPosition ∧
        exactDecimal? given.grossLeverage = some decision.grossLeverage ∧
        exactDecimal? given.netLeverage = some decision.netLeverage ∧
        exactDecimal? given.worstStressLoss = some decision.worstStressLoss) ∧
      (given.inputFingerprint = decision.inputFingerprint ∧ given.rules = decision.rules ∧
        given.arithmeticPolicyId = decision.arithmeticPolicyId ∧
        given.decisionId = decision.decisionId) ∧
      (given.intentHash = decision.intentHash ∧ given.stateVersion = decision.stateVersion ∧
        given.policyVersion = decision.policyVersion ∧
        given.reservationVersion = decision.reservationVersion ∧
        (given.reservationRequirements.map fun items =>
            items.map fun item => (item.1, number? item.2)) =
          (decision.reservationRequirements.map fun items =>
            items.map fun item => (item.1, some item.2)) ∧
        given.capabilitySnapshotId = decision.capabilitySnapshotId ∧
        given.authoritativeRiskSnapshotId.map strip = decision.authoritativeRiskSnapshotId ∧
        given.evaluatedAt = decision.evaluatedAt ∧ given.validUntil = decision.validUntil) := by
  simp only [Presents, Decision.valued, Decision.stripped, Decision.map, Decision.mk.injEq,
    and_assoc]

theorem requirementMembers_eq_ok {values : List (String × DecimalInput)} {payload : Payload} :
    reservationRequirementsPayload (.tuple values) = .ok payload ↔
      ∃ items, CanonicalItems items ∧ (values.map fun value => (value.1, number? value.2)) =
        items.map (fun item => (item.1, some item.2)) ∧ requirementTexts items = payload := by
  simp only [reservationRequirementsPayload, bind_eq_ok, pure_eq_ok, canonicalRequirements_eq_ok,
    and_assoc]

theorem snapshotMembers_eq_ok {snapshot : Option String} {members : List (String × Payload)}
    {binding : Option (List (String × Payload))} :
    snapshotMembers snapshot (some members) = .ok binding ↔
      (∀ stripped ∈ snapshot.map strip, Normal stripped) ∧
        some (members ++ (snapshot.map strip).toList.map fun text =>
          ("authoritative_risk_snapshot_id", Json.str text)) = binding := by
  cases snapshot with
  | none => simp [snapshotMembers]
  | some snapshot =>
      simp [snapshotMembers, map_eq_ok, riskBindingText_eq_ok, Lib.Normal]

theorem validateRiskDecisionShape_eq_ok {decision : GivenDecision} :
    validateRiskDecisionShape decision = .ok () ↔
      isDecimal decision.resultingPosition = true ∧ isDecimal decision.grossLeverage = true ∧
        isDecimal decision.netLeverage = true ∧ isDecimal decision.worstStressLoss = true := by
  rw [validateRiskDecisionShape, forM_eq_ok]
  simp

/-- The binding of a decision that has one. -/
theorem bindingMembers_eq_ok {given : GivenDecision}
    (bound : given.evaluatedAt.isSome = true)
    {members : Option (List (String × Payload))} :
    bindingMembers given = .ok members ↔ false ∉ bindingValues given ∧
      ∃ items, CanonicalItems items ∧
        ((given.reservationRequirements.getD []).map fun value => (value.1, number? value.2)) =
          items.map (fun item => (item.1, some item.2)) ∧
        some [("intent_hash", optionPayload .str given.intentHash),
          ("state_version", optionPayload .int given.stateVersion),
          ("policy_version", optionPayload .int given.policyVersion),
          ("reservation_version", optionPayload .int given.reservationVersion),
          ("reservation_requirements", requirementTexts items),
          ("capability_snapshot_id", optionPayload .str given.capabilitySnapshotId),
          ("evaluated_at", optionPayload .str given.evaluatedAt),
          ("valid_until", optionPayload .str given.validUntil)] = members := by
  have present : true ∈ bindingValues given := by simp [bindingValues, bound]
  rw [bindingMembers, if_pos present, guard_eq_ok]
  simp only [bind_eq_ok, pure_eq_ok, requirementMembers_eq_ok]
  apply and_congr_right'
  constructor
  · rintro ⟨payload, ⟨items, canonical, same, written⟩, listed⟩
    rw [← written] at listed
    exact ⟨items, canonical, same, listed⟩
  · rintro ⟨items, canonical, same, listed⟩
    exact ⟨_, ⟨items, canonical, same, rfl⟩, listed⟩

/-! ## The fingerprinted value -/

theorem policyMembers_current : policyMembers (some riskArithmeticPolicyId) =
    .ok [("arithmetic_policy_id", .str riskArithmeticPolicyId)] := by
  rw [policyMembers, if_neg (not_not.mpr rfl)]

/-- A decision with the current policy and a binding has a fingerprinted value exactly when it
presents a decision that can be sealed. -/
theorem decisionPayload_eq_ok {given : GivenDecision} {payload : Payload} :
    (given.arithmeticPolicyId = some riskArithmeticPolicyId ∧ given.evaluatedAt.isSome = true ∧
      decisionPayload given = .ok payload) ↔
      ∃ decision, Sealable decision ∧ Presents given decision ∧
        sealedPayload decision = payload := by
  constructor
  · rintro ⟨policy, bound, success⟩
    simp only [decisionPayload, bind_eq_ok, pure_eq_ok, givenText_eq_ok, policy,
      policyMembers_current, bindingMembers_eq_ok bound] at success
    obtain ⟨_, _, _, ⟨position, positionRead, positionText⟩, _, ⟨gross, grossRead, grossText⟩,
      _, ⟨net, netRead, netText⟩, _, ⟨loss, lossRead, lossText⟩, policyItems, policyEq, members,
      ⟨complete, items, canonical, numbers, membersEq⟩, binding, snapshotEq, same⟩ := success
    rw [← membersEq, snapshotMembers_eq_ok] at snapshotEq
    obtain ⟨normal, bindingEq⟩ := snapshotEq
    have required : given.reservationRequirements.isSome = true := by
      simp only [bindingValues, List.mem_cons, not_or, Bool.false_eq, Bool.not_eq_false] at complete
      exact complete.2.2.2.2.1
    obtain ⟨values, valuesEq⟩ := Option.isSome_iff_exists.mp required
    refine ⟨{ given with
      resultingPosition := position
      grossLeverage := gross
      netLeverage := net
      worstStressLoss := loss
      reservationRequirements := some items
      authoritativeRiskSnapshotId := given.authoritativeRiskSnapshotId.map strip }, ?_, ?_, ?_⟩
    · constructor
      · exact policy
      · rw [bindingValues, required] at complete
        exact complete
      · intro other listed
        rw [← Option.some.inj listed]
        exact canonical
      · exact normal
    · rw [valuesEq] at numbers
      exact presents_iff.mpr ⟨⟨rfl, positionRead, grossRead, netRead, lossRead⟩,
        ⟨rfl, rfl, rfl, rfl⟩, rfl, rfl, rfl, rfl, by rw [valuesEq]; exact congrArg some numbers,
        rfl, rfl, rfl, rfl⟩
    · rw [← same, ← bindingEq, ← Except.ok.inj policyEq, ← positionText, ← grossText, ← netText,
        ← lossText]
      rfl
  · rintro ⟨decision, sealable, presents, same⟩
    obtain ⟨⟨admitted, positionRead, grossRead, netRead, lossRead⟩,
      ⟨fingerprint, rules, policy, _⟩, intent, state, version, reservation, required, capability,
      snapshot, evaluated, valid⟩ := presents_iff.mp presents
    obtain ⟨items, itemsEq⟩ := Option.isSome_iff_exists.mp sealable.required
    have canonical := sealable.requirements items itemsEq
    rw [itemsEq, Option.map_some, Option.map_eq_some_iff] at required
    obtain ⟨values, valuesEq, numbers⟩ := required
    have policyCurrent := policy.trans sealable.policy
    have bound : given.evaluatedAt.isSome = true := by
      rw [evaluated]
      exact sealable.evaluated
    have complete : false ∉ bindingValues given := by
      have whole := sealable.complete
      rw [bindingValues, itemsEq] at whole
      rw [bindingValues, intent, state, version, reservation, valuesEq, capability, evaluated, valid]
      exact whole
    have normal : ∀ stripped ∈ given.authoritativeRiskSnapshotId.map strip, Normal stripped := by
      rw [snapshot]
      exact sealable.snapshot
    refine ⟨policyCurrent, bound, ?_⟩
    simp only [decisionPayload, bind_eq_ok, pure_eq_ok, givenText_eq_ok, policyCurrent]
    refine ⟨(), validateRiskDecisionShape_eq_ok.mpr ⟨isDecimal_of_exactDecimal? positionRead,
        isDecimal_of_exactDecimal? grossRead, isDecimal_of_exactDecimal? netRead,
        isDecimal_of_exactDecimal? lossRead⟩, _, ⟨_, positionRead, rfl⟩, _, ⟨_, grossRead, rfl⟩, _,
      ⟨_, netRead, rfl⟩, _, ⟨_, lossRead, rfl⟩, _, policyMembers_current, _,
      (bindingMembers_eq_ok bound).mpr ⟨complete, items, canonical, ?_, rfl⟩, _,
      snapshotMembers_eq_ok.mpr ⟨normal, rfl⟩, ?_⟩
    · rw [valuesEq]
      exact numbers
    · rw [← same, admitted, fingerprint, rules, intent, state, version, reservation, capability,
        snapshot, evaluated, valid, sealedPayload, bindingPayload, itemsEq]
      rfl

/-! ## The fingerprinted value identifies the decision -/

/-- Values whose images are told apart by their texts. -/
def Identifies {α : Type} (image : α → Payload) : Prop :=
  Function.Injective fun value => (image value).normal

theorem identifies_str : Identifies Json.str := fun _ _ same => Json.str.inj same

theorem identifies_int : Identifies Json.int := fun _ _ same => Json.int.inj same

theorem identifies_decimal : Identifies decimalPayload := fun _ _ same =>
  decimalText_injective (Json.str.inj same)

theorem Identifies.option {α : Type} {image : α → Payload} (identifies : Identifies image)
    (present : ∀ value, (image value).normal ≠ .null) : Identifies (optionPayload image) := by
  intro left right same
  cases left with
  | none =>
      cases right with
      | none => rfl
      | some right => exact absurd same.symm (present right)
  | some left =>
      cases right with
      | none => exact absurd same (present left)
      | some right => exact congrArg some (identifies same)

theorem identifies_texts : Identifies (optionPayload Json.str) :=
  identifies_str.option nofun

theorem identifies_versions : Identifies (optionPayload Json.int) :=
  identifies_int.option nofun

theorem Identifies.list {α : Type} {image : α → Payload} (identifies : Identifies image) :
    Identifies (listPayload image) := by
  intro left right same
  simp only [listPayload, Json.normal, Json.arr.injEq, Json.normalItems_eq, List.map_map] at same
  exact List.map_injective_iff.mpr identifies same

theorem rulePayload_distinct (result : RiskRuleResult) : (rulePayload result).Distinct := by
  simp [rulePayload, Json.Distinct, Json.DistinctMembers]

theorem identifies_rule : Identifies rulePayload := by
  intro left right same
  have member := Json.map_get?_of_normal (rulePayload_distinct left) (rulePayload_distinct right)
    same
  have rule := member "rule"
  have passed := member "passed"
  have observed := member "observed"
  have limit := member "limit"
  have reason := member "reason"
  simp only [rulePayload, Json.get?, Dict.find?] at rule passed observed limit reason
  simp [Json.normal] at rule passed observed limit reason
  cases left
  cases right
  simp_all

theorem requirementTexts_normal {items : List (String × Decimal)}
    (sorted : items.Pairwise fun left right => left.1 < right.1) :
    (requirementTexts items).normal = requirementTexts items := by
  rw [requirementTexts, Json.normal, Json.normalMembers_eq, List.map_map]
  congr 1
  apply List.Pairwise.insertionSort_eq
  exact List.pairwise_map.mpr (sorted.imp le_of_lt)

theorem requirementTexts_injective : Function.Injective requirementTexts := by
  intro left right same
  apply List.map_injective_iff.mpr _ (Json.obj.inj same)
  intro first second equal
  rw [Prod.mk.injEq] at equal
  exact Prod.ext equal.1 (decimalText_injective (Json.str.inj equal.2))

theorem requirementTexts_distinct {items : List (String × Decimal)}
    (canonical : CanonicalItems items) : (requirementTexts items).Distinct := by
  simp only [requirementTexts, Json.Distinct, Json.distinctMembers_iff, List.map_map]
  constructor
  · exact List.pairwise_map.mpr (canonical.sorted.imp ne_of_lt)
  · intro member listed
    obtain ⟨item, _, same⟩ := List.mem_map.mp listed
    rw [← same]
    trivial

@[simp] theorem optionPayload_distinct {α : Type} {image : α → Payload}
    (distinct : ∀ value, (image value).Distinct) (value : Option α) :
    (optionPayload image value).Distinct := by
  cases value with
  | none => trivial
  | some value => exact distinct value

theorem bindingPayload_distinct {decision : RiskDecision} (sealable : Sealable decision) :
    (bindingPayload decision).Distinct := by
  obtain ⟨items, itemsEq⟩ := Option.isSome_iff_exists.mp sealable.required
  have requirements := requirementTexts_distinct (sealable.requirements items itemsEq)
  have text : ∀ value : Option String, (optionPayload Json.str value : Payload).Distinct :=
    optionPayload_distinct fun _ => trivial
  have version : ∀ value : Option ℤ, (optionPayload Json.int value : Payload).Distinct :=
    optionPayload_distinct fun _ => trivial
  rw [bindingPayload, itemsEq, Option.getD_some]
  cases decision.authoritativeRiskSnapshotId <;>
    simp [Json.Distinct, Json.distinctMembers_iff, text, version, requirements]

theorem sealedPayload_distinct {decision : RiskDecision} (sealable : Sealable decision) :
    (sealedPayload decision).Distinct := by
  have binding := bindingPayload_distinct sealable
  have rules : (listPayload rulePayload decision.rules).Distinct := by
    rw [listPayload, Json.Distinct, Json.distinctItems_iff]
    exact List.forall_mem_map.mpr fun result _ => rulePayload_distinct result
  simp [sealedPayload, Json.Distinct, Json.distinctMembers_iff, decimalPayload, binding, rules]

/-- The bindings of two decisions with one fingerprinted value. -/
theorem binding_eq {left right : RiskDecision} (sealedLeft : Sealable left)
    (sealedRight : Sealable right)
    (same : (bindingPayload left).normal = (bindingPayload right).normal) :
    left.intentHash = right.intentHash ∧ left.stateVersion = right.stateVersion ∧
      left.policyVersion = right.policyVersion ∧
      left.reservationVersion = right.reservationVersion ∧
      left.reservationRequirements = right.reservationRequirements ∧
      left.capabilitySnapshotId = right.capabilitySnapshotId ∧
      left.authoritativeRiskSnapshotId = right.authoritativeRiskSnapshotId ∧
      left.evaluatedAt = right.evaluatedAt ∧ left.validUntil = right.validUntil := by
  have member := Json.map_get?_of_normal (bindingPayload_distinct sealedLeft)
    (bindingPayload_distinct sealedRight) same
  have intent := member "intent_hash"
  have state := member "state_version"
  have policy := member "policy_version"
  have reservation := member "reservation_version"
  have requirements := member "reservation_requirements"
  have capability := member "capability_snapshot_id"
  have evaluated := member "evaluated_at"
  have valid := member "valid_until"
  have snapshot := member "authoritative_risk_snapshot_id"
  simp [bindingPayload, Json.get?, Dict.find?] at intent state policy reservation
  simp [bindingPayload, Json.get?, Dict.find?] at requirements capability evaluated valid
  have snapshots : (optionPayload Json.str left.authoritativeRiskSnapshotId : Payload).normal =
      (optionPayload Json.str right.authoritativeRiskSnapshotId).normal := by
    cases leftSnapshot : left.authoritativeRiskSnapshotId <;>
      cases rightSnapshot : right.authoritativeRiskSnapshotId <;>
      simp [bindingPayload, Json.get?, Dict.find?, leftSnapshot, rightSnapshot] at snapshot <;>
      simp [optionPayload, snapshot]
  have required : left.reservationRequirements = right.reservationRequirements := by
    obtain ⟨leftItems, leftEq⟩ := Option.isSome_iff_exists.mp sealedLeft.required
    obtain ⟨rightItems, rightEq⟩ := Option.isSome_iff_exists.mp sealedRight.required
    rw [leftEq, rightEq, Option.getD_some, Option.getD_some,
      requirementTexts_normal (sealedLeft.requirements leftItems leftEq).sorted,
      requirementTexts_normal (sealedRight.requirements rightItems rightEq).sorted] at requirements
    rw [leftEq, rightEq, requirementTexts_injective requirements]
  exact ⟨identifies_texts intent, identifies_versions state, identifies_versions policy,
    identifies_versions reservation, required, identifies_texts capability,
    identifies_texts snapshots, identifies_texts evaluated, identifies_texts valid⟩

/-- Decisions with one fingerprinted value differ in their identity at most. -/
theorem eq_of_sealedPayload {left right : RiskDecision} (sealedLeft : Sealable left)
    (sealedRight : Sealable right) (identity : left.decisionId = right.decisionId)
    (same : (sealedPayload left).normal = (sealedPayload right).normal) : left = right := by
  have member := Json.map_get?_of_normal (sealedPayload_distinct sealedLeft)
    (sealedPayload_distinct sealedRight) same
  have admitted := member "admitted"
  have position := member "resulting_position"
  have gross := member "gross_leverage"
  have net := member "net_leverage"
  have loss := member "worst_stress_loss"
  have fingerprint := member "input_fingerprint"
  have rules := member "rules"
  have binding := member "binding"
  simp [sealedPayload, Json.get?, Dict.find?] at admitted position gross net loss
  simp [sealedPayload, Json.get?, Dict.find?] at fingerprint rules binding
  have bindings := binding_eq sealedLeft sealedRight binding
  cases left
  cases right
  simp only [Decision.mk.injEq]
  exact ⟨Json.bool.inj admitted, identifies_decimal position, identifies_decimal gross,
    identifies_decimal net, identifies_decimal loss, Json.str.inj fingerprint,
    identifies_rule.list rules, sealedLeft.policy.trans sealedRight.policy.symm, identity,
    bindings⟩

/-! ## Identities -/

/-- The fingerprint does not depend on the identity of the decision. -/
theorem decisionPayload_identity (given : GivenDecision) (identity : Option String) :
    decisionPayload { given with decisionId := identity } = decisionPayload given := rfl

section Identity

variable [Fingerprint]

/-- A decision under the identity of what it presents. -/
def Sealed (given : GivenDecision) (decision : RiskDecision) : Prop :=
  Sealable decision ∧ Presents given decision ∧
    ∃ text, jsonText (sealedPayload decision) = .ok text ∧
      given.decisionId = some ("risk:sha256:" ++ sha256 text)

theorem exists_sealed {given : GivenDecision} {payload : Payload} {text : String}
    (policy : given.arithmeticPolicyId = some riskArithmeticPolicyId)
    (bound : given.evaluatedAt.isSome = true) (payloadEq : decisionPayload given = .ok payload)
    (textEq : jsonText payload = .ok text)
    (identity : given.decisionId = some ("risk:sha256:" ++ sha256 text)) :
    ∃ decision, Sealed given decision := by
  obtain ⟨decision, sealable, presents, same⟩ :=
    decisionPayload_eq_ok.mp ⟨policy, bound, payloadEq⟩
  rw [← same] at textEq
  exact ⟨decision, sealable, presents, text, textEq, identity⟩

/-- Two decisions under one identity present the same values. -/
theorem Sealed.eq {left right : GivenDecision} {leftDecision rightDecision : RiskDecision}
    (injective : Function.Injective (sha256 : String → String))
    (sealedLeft : Sealed left leftDecision) (sealedRight : Sealed right rightDecision)
    (identity : left.decisionId = right.decisionId) : leftDecision = rightDecision := by
  obtain ⟨sealableLeft, presentsLeft, leftText, leftWritten, leftId⟩ := sealedLeft
  obtain ⟨sealableRight, presentsRight, rightText, rightWritten, rightId⟩ := sealedRight
  have digests := identity
  rw [leftId, rightId, Option.some.injEq, String.append_right_inj] at digests
  rw [injective digests] at leftWritten
  apply eq_of_sealedPayload sealableLeft sealableRight
  · have leftIdentity := (presents_iff.mp presentsLeft).2.1.2.2.2
    have rightIdentity := (presents_iff.mp presentsRight).2.1.2.2.2
    rw [← leftIdentity, ← rightIdentity, identity]
  · exact jsonText_injective (sealedPayload_distinct sealableLeft)
      (sealedPayload_distinct sealableRight) leftWritten rightWritten

end Identity

/-! ## Validation -/

section Validation

variable [IsoFormat]

theorem riskBindingInstant_eq_ok {value : Option String} {name : String} {instant : Instant} :
    riskBindingInstant value name = .ok instant ↔
      strip (value.getD "") ≠ "" ∧ IsoFormat.parse (strip (value.getD "")) = some instant := by
  simp only [riskBindingInstant, bind_eq_ok, riskBindingText_eq_ok]
  constructor
  · intro ⟨text, ⟨present, same⟩, parsed⟩
    rw [same]
    cases read : IsoFormat.parse text with
    | none => simp [read] at parsed
    | some found =>
        simp only [read, Except.ok.injEq] at parsed
        exact ⟨same ▸ present, congrArg some parsed⟩
  · intro ⟨present, read⟩
    exact ⟨_, ⟨present, rfl⟩, by rw [read]⟩

/-- A time inside the period of a binding. -/
def InPeriod (evaluatedAt validUntil : Option String) (now : String) : Prop :=
  ∃ current evaluated valid, riskBindingInstant (some now) "now" = .ok current ∧
    riskBindingInstant evaluatedAt "evaluated_at" = .ok evaluated ∧
    riskBindingInstant validUntil "valid_until" = .ok valid ∧ evaluated ≤ current ∧ current < valid

theorem isSome_of_instant {value : Option String} {name : String} {instant : Instant}
    (read : riskBindingInstant value name = .ok instant) : value.isSome = true := by
  cases value with
  | none => exact absurd rfl (riskBindingInstant_eq_ok.mp read).1
  | some value => rfl

variable [Fingerprint]

/-- What a validation accepts. -/
theorem validate_eq_ok {given : GivenDecision} {now : String} :
    validateBoundRiskDecision given now = .ok () ↔
      (∃ decision, Sealed given decision) ∧ InPeriod given.evaluatedAt given.validUntil now := by
  simp only [validateBoundRiskDecision, riskDecisionFingerprint, throw_unless_eq_ok, bind_eq_ok,
    pure_eq_ok, not_not]
  have expired : ∀ {late : Prop} [Decidable late] {error : RiskError},
      ((if late then throw error else pure ()) : Except RiskError Unit) = .ok () ↔ ¬ late := by
    intro late _ error
    split <;> simp_all [throw, throwThe, MonadExceptOf.throw, pure, Except.pure]
  simp only [expired, not_lt, not_le]
  constructor
  · rintro ⟨_, _, _, policy, _, ⟨payload, payloadEq, text, textEq, digestEq⟩, identity, current,
      currentEq, evaluated, evaluatedEq, valid, validEq, after, before⟩
    constructor
    · rw [← digestEq] at identity
      exact exists_sealed policy (isSome_of_instant evaluatedEq) payloadEq textEq identity
    · exact ⟨current, evaluated, valid, currentEq, evaluatedEq, validEq, after, before⟩
  · rintro ⟨⟨decision, sealable, presents, text, textEq, identity⟩, current, evaluated, valid,
      currentEq, evaluatedEq, validEq, after, before⟩
    obtain ⟨policy, _, payloadEq⟩ := decisionPayload_eq_ok.mpr ⟨decision, sealable, presents, rfl⟩
    have shape : validateRiskDecisionShape given = .ok () := by
      have steps := payloadEq
      rw [decisionPayload, bind_eq_ok] at steps
      obtain ⟨_, checked, _⟩ := steps
      exact checked
    refine ⟨(), shape, ?_, policy, _, ⟨_, payloadEq, text, textEq, rfl⟩, identity, current,
      currentEq, evaluated, evaluatedEq, valid, validEq, after, before⟩
    rw [identity]
    exact Option.some_ne_none _

end Validation

/-! ## Bound decisions -/

theorem strip_of_mapM {snapshot stripped : Option String} {name : String}
    (read : (snapshot.mapM fun snapshot => riskBindingText snapshot name) = .ok stripped) :
    stripped.map strip = stripped := by
  cases snapshot with
  | none =>
      cases read
      rfl
  | some snapshot =>
      simp only [Option.mapM_some, map_eq_ok, riskBindingText_eq_ok] at read
      obtain ⟨text, ⟨_, same⟩, rfl⟩ := read
      rw [← same, Option.map_some, strip_strip]

/-- The white space around the snapshot id is all that differs. -/
def PaddedSnapshot (other decision : GivenDecision) : Prop :=
  other.authoritativeRiskSnapshotId.map strip = decision.authoritativeRiskSnapshotId ∧
    Decision.valued { other with
      authoritativeRiskSnapshotId := decision.authoritativeRiskSnapshotId } = decision.valued

/-- A decision that only pads the snapshot id presents the same values. -/
theorem stripped_valued_eq_iff {other decision : GivenDecision}
    (stripped : decision.authoritativeRiskSnapshotId.map strip =
      decision.authoritativeRiskSnapshotId) :
    other.stripped.valued = decision.stripped.valued ↔ PaddedSnapshot other decision := by
  simp only [PaddedSnapshot, Decision.stripped, Decision.valued, Decision.map, Decision.mk.injEq,
    stripped]
  constructor
  · intro ⟨admitted, position, gross, net, loss, fingerprint, rules, policy, identity, intent, state,
      version, reservation, required, capability, snapshot, evaluated, valid⟩
    exact ⟨snapshot, admitted, position, gross, net, loss, fingerprint, rules, policy, identity,
      intent, state, version, reservation, required, capability, trivial, evaluated, valid⟩
  · intro ⟨snapshot, admitted, position, gross, net, loss, fingerprint, rules, policy, identity,
      intent, state, version, reservation, required, capability, _, evaluated, valid⟩
    exact ⟨admitted, position, gross, net, loss, fingerprint, rules, policy, identity, intent, state,
      version, reservation, required, capability, snapshot, evaluated, valid⟩

section Bound

variable [Fingerprint] [IsoFormat]

/-- What a binding returns. -/
theorem sealed_of_bindRiskDecision {given decision : GivenDecision} {stateVersion : ℤ}
    {binding : RiskBinding} (bound : bindRiskDecision given stateVersion binding = .ok decision) :
    (∃ content, Sealed decision content) ∧
      decision.authoritativeRiskSnapshotId.map strip = decision.authoritativeRiskSnapshotId ∧
      ∃ evaluated valid,
        riskBindingInstant decision.evaluatedAt "evaluated_at" = .ok evaluated ∧
        riskBindingInstant decision.validUntil "valid_until" = .ok valid ∧ evaluated < valid := by
  simp only [bindRiskDecision, riskDecisionFingerprint, throw_unless_eq_ok,
    bind_eq_ok, pure_eq_ok, not_not, not_le] at bound
  obtain ⟨_, _, policy, _, _, _, _, snapshot, snapshotEq, _, _, _, requirements, _, evaluatedAt, _,
    validUntil, _, evaluated, evaluatedEq, valid, validEq, ordered, digest,
    ⟨payload, payloadEq, text, textEq, digestEq⟩, same⟩ := bound
  subst same
  refine ⟨?_, strip_of_mapM snapshotEq, evaluated, valid, evaluatedEq, validEq, ordered⟩
  rw [← decisionPayload_identity _ (some ("risk:sha256:" ++ digest))] at payloadEq
  exact exists_sealed policy rfl payloadEq textEq (by rw [digestEq])

theorem sealed_of_evaluateBoundRisk {intent : RiskIntent} {context : RiskContext}
    {policy : RiskPolicy} {binding : RiskBinding} {store : Option EvidenceStore}
    {decision : GivenDecision}
    (bound : evaluateBoundRisk intent context policy binding store = .ok decision) :
    (∃ content, Sealed decision content) ∧
      decision.authoritativeRiskSnapshotId.map strip = decision.authoritativeRiskSnapshotId ∧
      ∃ evaluated valid,
        riskBindingInstant decision.evaluatedAt "evaluated_at" = .ok evaluated ∧
        riskBindingInstant decision.validUntil "valid_until" = .ok valid ∧ evaluated < valid := by
  simp only [evaluateBoundRisk, throw_unless_eq_ok, bind_eq_ok] at bound
  obtain ⟨_, _, _, _, _, bound⟩ := bound
  exact sealed_of_bindRiskDecision bound

/-- A decision that only pads the snapshot id passes the validation where the bound one does. -/
theorem validate_padded {other decision : GivenDecision} {content : RiskDecision} {now : String}
    (stripped : decision.authoritativeRiskSnapshotId.map strip =
      decision.authoritativeRiskSnapshotId)
    (padded : PaddedSnapshot other decision) (identity : other.decisionId = decision.decisionId)
    (sealedContent : Sealed decision content)
    (period : InPeriod decision.evaluatedAt decision.validUntil now) :
    validateBoundRiskDecision other now = .ok () := by
  have presents := ((stripped_valued_eq_iff stripped).mpr padded).trans sealedContent.2.1
  have fields := presents_iff.mp presents
  have held := presents_iff.mp sealedContent.2.1
  apply validate_eq_ok.mpr
  constructor
  · refine ⟨content, sealedContent.1, presents, ?_⟩
    rw [identity]
    exact sealedContent.2.2
  · rw [fields.2.2.2.2.2.2.2.2.2.1, fields.2.2.2.2.2.2.2.2.2.2, ← held.2.2.2.2.2.2.2.2.2.1,
      ← held.2.2.2.2.2.2.2.2.2.2]
    exact period

/-- A bound decision is valid at exactly the times of its period, and a different decision under
its identity is rejected at all times exactly when it does not only pad the snapshot id. -/
theorem bound_decisions_tamper_evident
    (injective : Function.Injective (sha256 : String → String)) {intent : RiskIntent}
    {context : RiskContext} {policy : RiskPolicy} {binding : RiskBinding}
    {store : Option EvidenceStore} {decision : GivenDecision}
    (bound : evaluateBoundRisk intent context policy binding store = .ok decision) :
    (∃ evaluated valid, riskBindingInstant decision.evaluatedAt "evaluated_at" = .ok evaluated ∧
      riskBindingInstant decision.validUntil "valid_until" = .ok valid ∧
      ∀ now, validateBoundRiskDecision decision now = .ok () ↔
        ∃ current, riskBindingInstant (some now) "now" = .ok current ∧ evaluated ≤ current ∧
          current < valid) ∧
    ∀ other : GivenDecision, other.decisionId = decision.decisionId →
      other.valued ≠ decision.valued →
        ((∀ now, ∃ error, validateBoundRiskDecision other now = .error error) ↔
          ¬ PaddedSnapshot other decision) := by
  obtain ⟨⟨content, sealedContent⟩, stripped, evaluated, valid, evaluatedEq, validEq, ordered⟩ :=
    sealed_of_evaluateBoundRisk bound
  constructor
  · refine ⟨evaluated, valid, evaluatedEq, validEq, ?_⟩
    intro now
    rw [validate_eq_ok]
    constructor
    · intro ⟨_, current, from', until', currentEq, fromEq, untilEq, after, before⟩
      rw [evaluatedEq, Except.ok.injEq] at fromEq
      rw [validEq, Except.ok.injEq] at untilEq
      exact ⟨current, currentEq, fromEq ▸ after, untilEq ▸ before⟩
    · intro ⟨current, currentEq, after, before⟩
      exact ⟨⟨content, sealedContent⟩, current, evaluated, valid, currentEq, evaluatedEq, validEq,
        after, before⟩
  · intro other identity _
    constructor
    · intro rejected padded
      have started : riskBindingInstant (some (decision.evaluatedAt.getD "")) "now" =
          .ok evaluated :=
        riskBindingInstant_eq_ok.mpr (riskBindingInstant_eq_ok.mp evaluatedEq)
      have accepted := validate_padded stripped padded identity sealedContent
        ⟨evaluated, evaluated, valid, started, evaluatedEq, validEq, le_refl evaluated, ordered⟩
      obtain ⟨error, raised⟩ := rejected (decision.evaluatedAt.getD "")
      rw [accepted] at raised
      cases raised
    · intro unpadded now
      cases outcome : validateBoundRiskDecision other now with
      | error error => exact ⟨error, rfl⟩
      | ok _ =>
          obtain ⟨⟨otherContent, sealedOther⟩, _⟩ := validate_eq_ok.mp outcome
          have same := sealedOther.eq injective sealedContent identity
          rw [same] at sealedOther
          have equal := sealedOther.2.1.trans sealedContent.2.1.symm
          exact absurd ((stripped_valued_eq_iff stripped).mp equal) unpadded

end Bound

/-! ## A bound decision with a padded snapshot -/

def snapshotBinding : RiskBinding where
  intentHash := "intent-1"
  policyVersion := 1
  reservationVersion := 0
  reservationRequirements := ⟨[("cash", .int 5)], by simp⟩
  capabilitySnapshotId := "cap-1"
  evaluatedAt := "2026-01-01T00:00:00Z"
  validUntil := "2026-01-01T00:05:00Z"
  authoritativeRiskSnapshotId := some "snap-1"

/-- The decision that is bound to the snapshot. -/
def boundClosing : Except RiskError GivenDecision :=
  @evaluateBoundRisk Fingerprint.plain IsoFormat.seconds closingIntent coveredContext basicPolicy
    snapshotBinding none

theorem boundClosing_fields :
    boundClosing.toOption.map (fun decision => (decision.authoritativeRiskSnapshotId,
      decision.evaluatedAt, decision.validUntil)) =
      some (some "snap-1", some "2026-01-01T00:00:00Z", some "2026-01-01T00:05:00Z") := by
  decide +kernel

theorem exists_boundClosing : ∃ decision, boundClosing = .ok decision ∧
    decision.authoritativeRiskSnapshotId = some "snap-1" ∧
    decision.evaluatedAt = some "2026-01-01T00:00:00Z" ∧
    decision.validUntil = some "2026-01-01T00:05:00Z" := by
  have fields := boundClosing_fields
  cases outcome : boundClosing with
  | error error =>
      rw [outcome] at fields
      cases fields
  | ok decision =>
      rw [outcome] at fields
      have values := Option.some.inj fields
      rw [Prod.mk.injEq, Prod.mk.injEq] at values
      exact ⟨decision, rfl, values⟩

/-- A decision with a padded snapshot id passes the validation under the identity of another. -/
theorem padded_snapshot_validates :
    letI := Fingerprint.plain
    letI := IsoFormat.seconds
    ∃ decision, evaluateBoundRisk closingIntent coveredContext basicPolicy snapshotBinding none =
        .ok decision ∧
      ∃ other : GivenDecision, other.decisionId = decision.decisionId ∧
        other.valued ≠ decision.valued ∧
        validateBoundRiskDecision other "2026-01-01T00:00:00Z" = .ok () := by
  let := Fingerprint.plain
  let := IsoFormat.seconds
  obtain ⟨decision, bound, snapshot, evaluated, valid⟩ := exists_boundClosing
  obtain ⟨⟨content, sealedContent⟩, stripped, _⟩ := sealed_of_evaluateBoundRisk bound
  refine ⟨decision, bound, { decision with authoritativeRiskSnapshotId := some " snap-1 " }, rfl,
    ?_, ?_⟩
  · intro same
    have snapshots := congrArg Decision.authoritativeRiskSnapshotId same
    have padded : some " snap-1 " = decision.authoritativeRiskSnapshotId := snapshots
    rw [snapshot] at padded
    exact absurd (Option.some.inj padded) (by decide)
  · apply validate_padded stripped _ _ sealedContent
    · rw [evaluated, valid]
      exact ⟨⟨1767225600000000⟩, ⟨1767225600000000⟩, ⟨1767225900000000⟩, by decide +kernel,
        by decide +kernel, by decide +kernel, by decide, by decide⟩
    · constructor
      · rw [snapshot]
        exact congrArg some (by decide +kernel : strip " snap-1 " = "snap-1")
      · rfl
    · rfl

theorem bound_decisions_tamper_evident_closing :
    letI := Fingerprint.plain
    letI := IsoFormat.seconds
    ∃ decision, evaluateBoundRisk closingIntent coveredContext basicPolicy snapshotBinding none =
        .ok decision ∧
      validateBoundRiskDecision decision "2026-01-01T00:04:59Z" = .ok () ∧
      (∀ now, ∃ error, validateBoundRiskDecision
        { decision with admitted := !decision.admitted } now = .error error) := by
  let := Fingerprint.plain
  let := IsoFormat.seconds
  obtain ⟨decision, bound, _, evaluatedAt, validUntil⟩ := exists_boundClosing
  have plain : Function.Injective (sha256 : String → String) := fun _ _ same => same
  obtain ⟨⟨evaluated, valid, evaluatedEq, validEq, timely⟩, tampered⟩ :=
    bound_decisions_tamper_evident plain bound
  have flipped : ∀ flag : Bool, (!flag) ≠ flag := by decide
  refine ⟨decision, bound, ?_, ?_⟩
  · rw [evaluatedAt] at evaluatedEq
    rw [validUntil] at validEq
    have started : riskBindingInstant (some "2026-01-01T00:00:00Z") "evaluated_at" =
        .ok ⟨1767225600000000⟩ := by decide +kernel
    have ends : riskBindingInstant (some "2026-01-01T00:05:00Z") "valid_until" =
        .ok ⟨1767225900000000⟩ := by decide +kernel
    rw [started, Except.ok.injEq] at evaluatedEq
    rw [ends, Except.ok.injEq] at validEq
    rw [timely, ← evaluatedEq, ← validEq]
    exact ⟨⟨1767225899000000⟩, by decide +kernel, by decide, by decide⟩
  · apply (tampered _ _ _).mpr
    · intro padded
      exact flipped decision.admitted (congrArg Decision.admitted padded.2)
    · rfl
    · intro same
      exact flipped decision.admitted (congrArg Decision.admitted same)

end AutoTrade.Risk
