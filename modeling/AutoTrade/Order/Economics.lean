import AutoTrade.Lib.Selection
import AutoTrade.Lib.Total
import AutoTrade.Numeric.Amount
import AutoTrade.Order.Transitions
import Mathlib.Algebra.BigOperators.Group.Finset.Basic

/-!
# Economics of an order from its history

The current fills and the execution index of an order are views of its history:
a current fill is the latest observation of its fill, and an execution maps to
the fill of its observations.
-/

namespace AutoTrade.Order

open Lib Numeric

/-- The fill that an observation is about. -/
def FillRecord.fill (observation : FillRecord) : String :=
  observation.correctionOf.getD observation.fillId

/-! ## History -/

/-- The latest observation of a fill. -/
def latestObservation (history : List FillRecord) (fillId : String) : Option FillRecord :=
  (history.filter fun observation => observation.fill = fillId).getLast?

theorem latestObservation_concat {history : List FillRecord} {observation : FillRecord}
    {fillId : String} :
    latestObservation (history ++ [observation]) fillId =
      if observation.fill = fillId then some observation
      else latestObservation history fillId := by
  rw [latestObservation, latestObservation, List.filter_append]
  split
  next same => simp [same]
  next other => simp [other]

theorem latestObservation_eq_none {history : List FillRecord} {fillId : String} :
    latestObservation history fillId = none ↔
      fillId ∉ history.map FillRecord.fill := by
  rw [latestObservation, List.getLast?_eq_none_iff, List.filter_eq_nil_iff]
  simp

/-- What the latest observation of a fill adds to the filled quantity. -/
def activeQuantity (latest : Option FillRecord) : ℚ :=
  match latest with
  | some observation => if observation.active then observation.quantity.toRat else 0
  | none => 0

/-- The quantities of the latest observations that are active. -/
def historicalQuantity (history : List FillRecord) : ℚ :=
  ∑ fillId ∈ (history.map FillRecord.fill).toFinset,
    activeQuantity (latestObservation history fillId)

/-- The fields that identify a registered order. -/
structure RegistrationIdentity where
  providerId : String
  accountId : String
  environment : Environment
  clientOrderId : String
  instrument : String
  side : Side
  requestedQuantity : Decimal
  ocoGroupId : Option String
  parentIntentId : Option String
  deriving DecidableEq, Repr

namespace OrderProjection

/-- `_registration_identity`. -/
def registrationIdentity (order : OrderProjection) : RegistrationIdentity where
  providerId := order.providerId
  accountId := order.accountId
  environment := order.environment
  clientOrderId := order.clientOrderId
  instrument := order.instrument
  side := order.side
  requestedQuantity := order.requestedQuantity
  ocoGroupId := order.ocoGroupId
  parentIntentId := order.parentIntentId

/-- `historical_execution_observed`. -/
def historicalExecutionObserved (order : OrderProjection) : Bool :=
  order.history.any fun observation => observation.active && 0 < observation.quantity

/-! ## What a fill call inserts -/

/-- What a fill call that returns does, with the checks that have passed. -/
inductive Inserts (order : OrderProjection) : OrderProjection → Prop where
  | same : Inserts order order
  | fill {candidate : FillRecord} (original : candidate.correctionOf = none)
      (positive : 0 < candidate.quantity)
      (fresh : order.fills.get? candidate.fillId = none)
      (unmapped : order.providerExecutionIds.get? candidate.providerExecutionId = none) :
      Inserts order (order.insertFill candidate)
  | revision {fillId revision : String} {current candidate : FillRecord}
      (found : order.fills.get? fillId = some current)
      (about : candidate.correctionOf = some fillId)
      (execution : candidate.providerExecutionId = current.providerExecutionId)
      (positive : 0 < candidate.quantity ∨
        ∃ other existing, order.fills.get? other = some existing ∧
          existing.quantity = candidate.quantity) :
      Inserts order (order.insertRevision fillId revision candidate)

theorem positive_of_valid {quantity price : Decimal} (valid : ¬ (quantity ≤ 0 ∨ price ≤ 0)) :
    0 < quantity := by
  rw [Decimal.lt_def]
  exact lt_of_not_ge fun nonpositive => valid (.inl nonpositive)

theorem fillCandidate_original {fillId providerExecutionId : String}
    {quantity price : DecimalInput} {providerRevision : Option String} {candidate : FillRecord}
    (success : fillCandidate fillId providerExecutionId quantity price providerRevision =
      .ok candidate) : candidate.correctionOf = none ∧ 0 < candidate.quantity := by
  simp only [fillCandidate, bind_eq_ok, guard_eq_ok, pure_eq_ok] at success
  obtain ⟨_, _, _, _, _, _, _, _, positive, _, _, rfl⟩ := success
  exact ⟨rfl, positive_of_valid positive⟩

theorem inserts_of_recordCandidate {order next : OrderProjection} {candidate : FillRecord}
    {accepted : Bool} (original : candidate.correctionOf = none)
    (positive : 0 < candidate.quantity)
    (success : order.recordCandidate candidate = .ok (next, accepted)) : Inserts order next := by
  simp only [recordCandidate] at success
  split at success
  next =>
    cases success
    exact .same
  rw [guard_eq_ok] at success
  obtain ⟨-, success⟩ := success
  split at success
  next =>
    split at success
    next =>
      cases success
      exact .same
    next => cases success
  next fresh =>
    simp only [guard_eq_ok, Bool.not_eq_true, Option.isSome_eq_false_iff,
      Option.isNone_iff_eq_none] at success
    obtain ⟨unmapped, -, equal⟩ := success
    cases equal
    exact .fill original positive fresh unmapped

theorem inserts_of_applyRevision {order next : OrderProjection} {fillId : String}
    {quantity price : Decimal} {active : Bool} {providerRevision : String}
    {correctionFillId : Option String} {accepted : Bool}
    (positive : 0 < quantity ∨ ∃ other existing, order.fills.get? other = some existing ∧
      existing.quantity = quantity)
    (success : order.applyRevision fillId quantity price active providerRevision
      correctionFillId = .ok (next, accepted)) : Inserts order next := by
  obtain ⟨fid, current, revision, correction, -, found, -, -, effect⟩ :=
    applyRevision_cases success
  rcases effect with ⟨rfl, -⟩ | ⟨-, -, rfl⟩
  · exact .same
  · exact .revision found rfl rfl positive

theorem inserts_of_observe {order next : OrderProjection} {observation : FillCall}
    {accepted : Bool} (success : order.observe observation = .ok (next, accepted)) :
    Inserts order next := by
  cases observation with
  | recordFill fillId providerExecutionId quantity price providerRevision =>
      rw [observe, recordFill, bind_eq_ok] at success
      obtain ⟨candidate, built, recorded⟩ := success
      obtain ⟨original, positive⟩ := fillCandidate_original built
      exact inserts_of_recordCandidate original positive recorded
  | correctFill fillId quantity price providerRevision correctionFillId =>
      obtain ⟨_, _, _, _, -, -, -, -, positive, revised⟩ := correctFill_cases success
      exact inserts_of_applyRevision (.inl (positive_of_valid positive)) revised
  | bustFill fillId providerRevision correctionFillId =>
      obtain ⟨fid, existing, -, found, revised⟩ := bustFill_cases success
      exact inserts_of_applyRevision (.inr ⟨fid, existing, found, rfl⟩) revised

/-! ## Views of the history -/

/-- The current fills and the execution index are views of the history. -/
structure Recorded (order : OrderProjection) : Prop where
  current : ∀ fillId, order.fills.get? fillId = latestObservation order.history fillId
  executions : ∀ observation ∈ order.history,
    order.providerExecutionIds.get? observation.providerExecutionId = some observation.fill
  indexed : ∀ execution fillId, order.providerExecutionIds.get? execution = some fillId →
    ∃ observation ∈ order.history, observation.providerExecutionId = execution
  positive : ∀ observation ∈ order.history, 0 < observation.quantity

/-- A later state of an order. -/
structure Grows (before after : OrderProjection) : Prop where
  history : before.history <+: after.history
  executions : ∀ execution fillId, before.providerExecutionIds.get? execution = some fillId →
    after.providerExecutionIds.get? execution = some fillId
  identity : after.registrationIdentity = before.registrationIdentity

theorem Grows.refl (order : OrderProjection) : Grows order order :=
  ⟨List.prefix_refl _, fun _ _ found => found, rfl⟩

theorem Grows.trans {first second third : OrderProjection} (left : Grows first second)
    (right : Grows second third) : Grows first third :=
  ⟨left.history.trans right.history,
    fun execution fillId found =>
      right.executions execution fillId (left.executions execution fillId found),
    right.identity.trans left.identity⟩

variable {order next : OrderProjection}

theorem Recorded.mem_history (recorded : Recorded order) {fillId : String} {record : FillRecord}
    (found : order.fills.get? fillId = some record) :
    record ∈ order.history ∧ record.fill = fillId := by
  rw [recorded.current] at found
  have member := List.mem_filter.mp (List.mem_of_getLast? found)
  exact ⟨member.1, of_decide_eq_true member.2⟩

/-- The step lemma for fill calls. -/
theorem Recorded.inserts (recorded : Recorded order) (inserts : Inserts order next) :
    Recorded next ∧ Grows order next := by
  cases inserts with
  | same => exact ⟨recorded, .refl order⟩
  | @fill candidate original positive fresh unmapped =>
      have own : candidate.fill = candidate.fillId := by rw [FillRecord.fill, original]; rfl
      have kept : ∀ execution fillId,
          order.providerExecutionIds.get? execution = some fillId →
            candidate.providerExecutionId ≠ execution := by
        intro execution fillId found same
        rw [← same, unmapped] at found
        cases found
      refine ⟨⟨?_, ?_, ?_, ?_⟩, ⟨List.prefix_append _ _, ?_, rfl⟩⟩
      · intro fillId
        rw [insertFill, latestObservation_concat, Dict.get?_set, own, recorded.current]
      · intro observation member
        rw [insertFill, Dict.get?_set]
        rcases List.mem_append.mp member with earlier | last
        · have found := recorded.executions observation earlier
          rw [if_neg (kept _ _ found), found]
        · rw [List.mem_singleton.mp last, if_pos rfl, own]
      · intro execution fillId found
        rw [insertFill, Dict.get?_set] at found
        split at found
        next same => exact ⟨candidate, List.mem_append_right _ (List.mem_singleton_self _), same⟩
        next =>
          obtain ⟨observation, member, same⟩ := recorded.indexed execution fillId found
          exact ⟨observation, List.mem_append_left _ member, same⟩
      · intro observation member
        rcases List.mem_append.mp member with earlier | last
        · exact recorded.positive observation earlier
        · rwa [List.mem_singleton.mp last]
      · intro execution fillId found
        rw [insertFill, Dict.get?_set, if_neg (kept execution fillId found), found]
  | @revision fillId revision current candidate found about execution positive =>
      have own : candidate.fill = fillId := by rw [FillRecord.fill, about]; rfl
      obtain ⟨listed, same⟩ := recorded.mem_history found
      refine ⟨⟨?_, ?_, ?_, ?_⟩, ⟨List.prefix_append _ _, fun _ _ mapped => mapped, rfl⟩⟩
      · intro other
        rw [insertRevision, latestObservation_concat, Dict.get?_set, own, recorded.current]
      · intro observation member
        rcases List.mem_append.mp member with earlier | last
        · exact recorded.executions observation earlier
        · rw [List.mem_singleton.mp last, execution, own, ← same]
          exact recorded.executions current listed
      · intro other fill mapped
        obtain ⟨observation, member, equal⟩ := recorded.indexed other fill mapped
        exact ⟨observation, List.mem_append_left _ member, equal⟩
      · intro observation member
        rcases List.mem_append.mp member with earlier | last
        · exact recorded.positive observation earlier
        · rw [List.mem_singleton.mp last]
          rcases positive with positive | ⟨other, existing, stored, equal⟩
          · exact positive
          · rw [← equal]
            exact recorded.positive existing (recorded.mem_history stored).1

/-- The step lemma. -/
theorem Recorded.step [CaseMap] (recorded : Recorded order) (invocation : Call) :
    Recorded (order.step invocation) ∧ Grows order (order.step invocation) := by
  cases invocation with
  | fill observation =>
      rw [OrderProjection.step]
      split
      next => exact ⟨recorded, .refl order⟩
      next success => exact recorded.inserts (inserts_of_observe success)
  | lifecycle request =>
      have changes := request_changes order request
      rw [OrderProjection.step]
      generalize (order.request request).1 = next at changes
      obtain ⟨current, executions, indexed, positive⟩ := recorded
      cases changes <;>
        exact ⟨⟨current, executions, indexed, positive⟩,
          ⟨List.prefix_refl _, fun _ _ found => found, rfl⟩⟩

/-! ## Quantities -/

/-- The difference of two quantities, or zero where it is not positive. -/
def positiveDifference (left right : Decimal) : Except OrderError Decimal := do
  let difference ← (exactSubtract left right).mapError .exactDecimal
  pure (if 0 < difference then difference else 0)

/-- `open_quantity`. -/
def openQuantity (order : OrderProjection) : Except OrderError Decimal := do
  let filled ← order.filledQuantity
  positiveDifference order.requestedQuantity filled

/-- `overfill_quantity`. -/
def overfillQuantity (order : OrderProjection) : Except OrderError Decimal := do
  let filled ← order.filledQuantity
  positiveDifference filled order.requestedQuantity

theorem positiveDifference_eq_ok {left right result : Decimal} :
    positiveDifference left right = .ok result ↔
      Representable (left.toRat - right.toRat) ∧
        result.toRat = max (left.toRat - right.toRat) 0 := by
  have clipped : ∀ difference : Decimal,
      (if 0 < difference then difference else 0).toRat = max difference.toRat 0 := by
    intro difference
    split
    next positive => exact (max_eq_left (le_of_lt positive)).symm
    next nonpositive => exact (max_eq_right (not_lt.mp nonpositive)).symm
  simp only [positiveDifference, bind_eq_ok, mapError_eq_ok, exactSubtract_eq_ok, pure_eq_ok]
  constructor
  · rintro ⟨difference, exact_difference, equal⟩
    rw [← equal, clipped, exact_difference]
    exact ⟨exact_difference ▸ difference.bounded, rfl⟩
  · rintro ⟨representable, equal⟩
    refine ⟨⟨_, representable⟩, rfl, ?_⟩
    apply Decimal.ext
    rw [clipped, equal]

/-- The active quantity of the current fills. -/
theorem sum_activeFills (order : OrderProjection) :
    (order.activeFills.map fun fill => fill.quantity.toRat).sum =
      ∑ fillId ∈ order.fills.keys.toFinset, activeQuantity (order.fills.get? fillId) := by
  rw [List.sum_toFinset _ order.fills.nodup_keys]
  have current : order.fills.keys.map (fun fillId => activeQuantity (order.fills.get? fillId)) =
      order.fills.values.map fun fill => if fill.active then fill.quantity.toRat else 0 := by
    rw [Dict.keys, Dict.values, List.map_map, List.map_map]
    apply List.map_congr_left
    intro entry member
    rw [Function.comp_apply, Dict.mem_entries.mp member]
    rfl
  rw [current]
  exact selectedSum_eq_sum_ite (fun fill : FillRecord => fill.quantity.toRat) FillRecord.active _

/-- `filled_quantity` returns the quantity of the history where a bounded
decimal expresses it. -/
theorem Recorded.filledQuantity (recorded : Recorded order) {filled : Decimal} :
    order.filledQuantity = .ok filled ↔ filled.toRat = historicalQuantity order.history := by
  have keys : order.fills.keys.toFinset = (order.history.map FillRecord.fill).toFinset := by
    ext fillId
    rw [List.mem_toFinset, List.mem_toFinset, ← not_iff_not, ← latestObservation_eq_none,
      ← recorded.current, Dict.get?_eq_none]
  have nonnegative : ∀ value ∈ order.activeFills.map FillRecord.quantity, 0 ≤ value.toRat := by
    intro value member
    obtain ⟨fill, listed, rfl⟩ := List.mem_map.mp member
    obtain ⟨fillId, found⟩ := Dict.mem_values.mp (List.mem_of_mem_filter listed)
    exact le_of_lt (recorded.positive fill (recorded.mem_history found).1)
  have total := order.sum_activeFills
  simp only [keys, recorded.current] at total
  rw [OrderProjection.filledQuantity, mapError_eq_ok, exactSum_eq_ok nonnegative, List.map_map,
    historicalQuantity, ← total]
  rfl

theorem Recorded.filledQuantity_returns (recorded : Recorded order) :
    (∃ filled, order.filledQuantity = .ok filled) ↔
      Representable (historicalQuantity order.history) := by
  simp only [recorded.filledQuantity]
  exact ⟨fun ⟨filled, equal⟩ => equal ▸ filled.bounded, fun bounded => ⟨⟨_, bounded⟩, rfl⟩⟩

theorem Recorded.openQuantity (recorded : Recorded order) {opened : Decimal} :
    order.openQuantity = .ok opened ↔
      Representable (historicalQuantity order.history) ∧
        Representable (order.requestedQuantity.toRat - historicalQuantity order.history) ∧
        opened.toRat =
          max (order.requestedQuantity.toRat - historicalQuantity order.history) 0 := by
  simp only [OrderProjection.openQuantity, bind_eq_ok, recorded.filledQuantity,
    positiveDifference_eq_ok]
  constructor
  · intro ⟨filled, equal, rest⟩
    rw [equal] at rest
    exact ⟨equal ▸ filled.bounded, rest⟩
  · intro ⟨bounded, rest⟩
    exact ⟨⟨_, bounded⟩, rfl, rest⟩

theorem Recorded.overfillQuantity (recorded : Recorded order) {overfilled : Decimal} :
    order.overfillQuantity = .ok overfilled ↔
      Representable (historicalQuantity order.history) ∧
        Representable (historicalQuantity order.history - order.requestedQuantity.toRat) ∧
        overfilled.toRat =
          max (historicalQuantity order.history - order.requestedQuantity.toRat) 0 := by
  simp only [OrderProjection.overfillQuantity, bind_eq_ok, recorded.filledQuantity,
    positiveDifference_eq_ok]
  constructor
  · intro ⟨filled, equal, rest⟩
    rw [equal] at rest
    exact ⟨equal ▸ filled.bounded, rest⟩
  · intro ⟨bounded, rest⟩
    exact ⟨⟨_, bounded⟩, rfl, rest⟩

/-- The open and the overfilled quantity split what the fills leave. -/
theorem Recorded.balance (recorded : Recorded order) {filled opened overfilled : Decimal}
    (filledOk : order.filledQuantity = .ok filled) (openOk : order.openQuantity = .ok opened)
    (overfillOk : order.overfillQuantity = .ok overfilled) :
    opened.toRat - overfilled.toRat = order.requestedQuantity.toRat - filled.toRat ∧
      (opened = 0 ∨ overfilled = 0) := by
  have total := recorded.filledQuantity.mp filledOk
  have left := (recorded.openQuantity.mp openOk).2.2
  have excess := (recorded.overfillQuantity.mp overfillOk).2.2
  rw [← total] at left excess
  simp only [← Decimal.toRat_eq_zero]
  rcases le_total filled.toRat order.requestedQuantity.toRat with within | beyond
  · rw [max_eq_left (sub_nonneg.mpr within)] at left
    rw [max_eq_right (sub_nonpos.mpr within)] at excess
    rw [left, excess]
    exact ⟨sub_zero _, .inr rfl⟩
  · rw [max_eq_right (sub_nonpos.mpr beyond)] at left
    rw [max_eq_left (sub_nonneg.mpr beyond)] at excess
    rw [left, excess]
    exact ⟨by ring, .inl rfl⟩

/-! ## Reachable orders -/

/-- The states that an order reaches. -/
inductive Reachable [CaseMap] : OrderProjection → Prop where
  | create {providerId accountId environmentName clientOrderId instrument sideName : String}
      {requestedQuantity : DecimalInput} {ocoGroupId parentIntentId : Option String}
      {order : OrderProjection}
      (created : OrderProjection.create providerId accountId environmentName clientOrderId
        instrument sideName requestedQuantity ocoGroupId parentIntentId = .ok order) :
      Reachable order
  | step {order : OrderProjection} (reached : Reachable order) (invocation : Call) :
      Reachable (order.step invocation)

theorem recorded_of_create [CaseMap]
    {providerId accountId environmentName clientOrderId instrument sideName : String}
    {requestedQuantity : DecimalInput} {ocoGroupId parentIntentId : Option String}
    (created : OrderProjection.create providerId accountId environmentName clientOrderId
      instrument sideName requestedQuantity ocoGroupId parentIntentId = .ok order) :
    Recorded order := by
  simp only [OrderProjection.create, bind_eq_ok, guard_eq_ok, pure_eq_ok] at created
  obtain ⟨_, _, _, _, _, _, _, _, _, _, _, _, _, _, _, _, _, _, _, _, _, rfl⟩ := created
  constructor
  · intro fillId
    rfl
  · intro observation member
    cases member
  · intro execution fillId found
    cases found
  · intro observation member
    cases member

/-- The run lemma. -/
theorem Reachable.recorded [CaseMap] (reached : Reachable order) : Recorded order := by
  induction reached with
  | create created => exact recorded_of_create created
  | step _ invocation ih => exact (ih.step invocation).1

end OrderProjection

end AutoTrade.Order
