import AutoTrade.Lib.Mutation
import AutoTrade.Order.Transitions

/-!
# Order operations statement by statement

The operations of an order with their checks and assignments in the order of the
source.  Every operation but `acknowledge` checks all of its arguments before its
first assignment; `acknowledge` binds the submission attempt first.
-/

namespace AutoTrade.Order

open Lib Numeric
open Lib.Mutation (checked self assign)

/-- An operation on an order. -/
abbrev Operation (α : Type) : Type := Mutation OrderProjection OrderError α

namespace Operation

/-! ## Submission -/

/-- `_bind_submission_attempt`. -/
def bindSubmissionAttempt (attemptId : String) : Operation Unit := do
  let attempt ← checked (text attemptId "attempt_id")
  let order ← self
  if order.submissionAttemptId ≠ none ∧ order.submissionAttemptId ≠ some attempt then
    throw (.conflict "order already belongs to a different submission attempt")
  assign fun order => { order with submissionAttemptId := some attempt }

/-- `mark_send_started`. -/
def markSendStarted (attemptId : String) : Operation Unit := bindSubmissionAttempt attemptId

/-- The statements of `acknowledge` after the attempt is bound. -/
def acknowledgeBound [CaseMap] (providerOrderId : Option String) (status : String) :
    Operation Unit := do
  let orderId ← checked (optionalText providerOrderId "provider_order_id")
  let normalized ← checked (OrderProjection.submissionStatus status)
  let order ← self
  if orderId ≠ none ∧ order.providerOrderId ≠ none ∧ order.providerOrderId ≠ orderId then
    throw (.conflict "provider_order_id changed")
  if (order.submissionState = .accepted ∨ order.submissionState = .rejected) ∧
      normalized ≠ order.submissionState then
    throw (.conflict "terminal submission outcome cannot change")
  assign fun order => { order with providerOrderId := orderId.or order.providerOrderId }
  assign fun order => { order with rejected := order.rejected || normalized = .rejected }
  assign fun order => { order with submissionState := normalized }

/-- `acknowledge`. -/
def acknowledge [CaseMap] (providerOrderId : Option String) (status : String)
    (attemptId : Option String) : Operation Unit :=
  match attemptId with
  | none => acknowledgeBound providerOrderId status
  | some attempt => do
      bindSubmissionAttempt attempt
      acknowledgeBound providerOrderId status

/-! ## Fills -/

/-- The revision of a new fill. -/
def recordFillRevision (candidate : FillRecord) : Operation Unit :=
  match candidate.providerRevision with
  | none => pure ()
  | some revision => do
      let order ← self
      if (order.revisionRecords.get? (candidate.fillId, revision)).isSome then
        throw (.conflict "provider revision already maps to another observation")
      assign fun order => { order with
        revisionRecords := order.revisionRecords.set (candidate.fillId, revision) candidate }

/-- The statements of `record_fill` on a fill id that is not known. -/
def recordNewFill (candidate : FillRecord) : Operation Bool := do
  let order ← self
  if (order.providerExecutionIds.get? candidate.providerExecutionId).isSome then
    throw (.conflict "provider_execution_id already maps to another fill_id")
  recordFillRevision candidate
  assign fun order => { order with fills := order.fills.set candidate.fillId candidate }
  assign fun order => { order with
    providerExecutionIds :=
      order.providerExecutionIds.set candidate.providerExecutionId candidate.fillId }
  assign fun order => { order with history := order.history ++ [candidate] }
  pure true

/-- `record_fill`. -/
def recordFill (fillId providerExecutionId : String) (quantity price : DecimalInput)
    (providerRevision : Option String) : Operation Bool := do
  let candidate ← checked (OrderProjection.fillCandidate fillId providerExecutionId quantity
    price providerRevision)
  let order ← self
  if candidate ∈ order.history then pure false
  else if order.history.any fun item => item.fillId = candidate.fillId then
    throw (.conflict "fill_id already belongs to another observation")
  else match order.fills.get? candidate.fillId with
    | some existing =>
        if existing = candidate then pure false
        else throw (.conflict "fill_id already has different content")
    | none => recordNewFill candidate

/-- The statements of `_apply_revision` on its candidate observation. -/
def recordRevision (fillId revision : String) (candidate : FillRecord) : Operation Bool := do
  let order ← self
  match order.revisionRecords.get? (fillId, revision) with
  | some prior =>
      if prior = candidate then pure false
      else throw (.conflict "provider revision already has different content")
  | none => do
      if candidate.fillId ≠ fillId ∧ (order.history.any fun item =>
          item.fillId = candidate.fillId ∧ item ≠ candidate) then
        throw (.conflict "correction_fill_id already belongs to another observation")
      assign fun order => { order with
        revisionRecords := order.revisionRecords.set (fillId, revision) candidate }
      assign fun order => { order with fills := order.fills.set fillId candidate }
      assign fun order => { order with history := order.history ++ [candidate] }
      pure true

/-- `_apply_revision`. -/
def applyRevision (fillId : String) (quantity price : Decimal) (active : Bool)
    (providerRevision : String) (correctionFillId : Option String) : Operation Bool := do
  let fid ← checked (text fillId "fill_id")
  let order ← self
  match order.fills.get? fid with
  | none => throw (.keyError fid)
  | some current => do
      let revision ← checked (text providerRevision "provider_revision")
      let correction ← checked (optionalText correctionFillId "correction_fill_id")
      recordRevision fid revision
        (OrderProjection.revisedRecord fid current quantity price active revision correction)

/-- `bust_fill`. -/
def bustFill (fillId providerRevision : String) (correctionFillId : Option String) :
    Operation Bool := do
  let fid ← checked (text fillId "fill_id")
  let order ← self
  match order.fills.get? fid with
  | none => throw (.keyError fid)
  | some existing =>
      applyRevision fid existing.quantity existing.price false providerRevision correctionFillId

/-- `correct_fill`. -/
def correctFill (fillId : String) (quantity price : DecimalInput) (providerRevision : String)
    (correctionFillId : Option String) : Operation Bool := do
  let fid ← checked (text fillId "fill_id")
  let order ← self
  match order.fills.get? fid with
  | none => throw (.keyError fid)
  | some existing => do
      let qty ← checked (decimal quantity "corrected quantity")
      let px ← checked (decimal price "corrected price")
      if qty ≤ 0 ∨ px ≤ 0 then
        throw (.valueError "corrected quantity and price must be positive")
      applyRevision fid qty px existing.active providerRevision correctionFillId

/-! ## Lifecycle requests -/

/-- `request_cancel`. -/
def requestCancel (commandId : String) : Operation Unit := do
  let command ← checked (text commandId "command_id")
  let order ← self
  if order.cancelCommandId = some command then pure ()
  else if order.cancelCommandId ≠ none then
    throw (.conflict "cancel request already has a different command_id")
  else if order.replaceRequested then
    throw (.conflict "cancel and replace requests cannot be pending together")
  else if order.rejected ∨ order.expired then
    throw (.conflict "terminal order cannot accept a new cancel request")
  else do
    assign fun order => { order with cancelCommandId := some command }
    assign fun order => { order with
      cancelRequested := order.cancelRequested || !order.cancelled }

/-- `reject_cancel`. -/
def rejectCancel (commandId reasonCode : String) : Operation Unit := do
  let command ← checked (text commandId "command_id")
  let _ ← checked (text reasonCode "reason_code")
  let order ← self
  if order.cancelled then
    throw (.conflict "confirmed cancellation cannot be relabelled rejected")
  else if order.cancelRequested = false ∨ order.cancelCommandId = none then
    throw (.conflict "order has no pending cancel request")
  else if order.cancelCommandId ≠ some command then
    throw (.conflict "cancel rejection command_id does not match pending request")
  else do
    assign fun order => { order with cancelRequested := false }
    assign fun order => { order with cancelCommandId := none }

/-- `request_replace`. -/
def requestReplace (commandId : String) : Operation Unit := do
  let command ← checked (text commandId "command_id")
  let order ← self
  if command ∈ order.resolvedReplaceCommands then
    throw (.conflict "resolved replace command_id cannot be reused")
  else if order.replaceCommandId = some command then pure ()
  else if order.replaceCommandId ≠ none then
    throw (.conflict "replace request already has a different command_id")
  else if order.cancelRequested then
    throw (.conflict "cancel and replace requests cannot be pending together")
  else if order.rejected ∨ order.cancelled ∨ order.expired then
    throw (.conflict "terminal order cannot accept a new replace request")
  else do
    let filled ← checked order.filledQuantity
    if order.requestedQuantity ≤ filled then
      throw (.conflict "fully filled order cannot accept a new replace request")
    assign fun order => { order with replaceCommandId := some command }
    assign fun order => { order with replaceRequested := true }

/-- `reject_replace`. -/
def rejectReplace (commandId reasonCode : String) : Operation Unit := do
  let command ← checked (text commandId "command_id")
  let _ ← checked (text reasonCode "reason_code")
  let order ← self
  if order.replaceRequested = false ∨ order.replaceCommandId = none then
    throw (.conflict "order has no pending replace request")
  else if order.replaceCommandId ≠ some command then
    throw (.conflict "replace rejection command_id does not match pending request")
  else do
    assign fun order => { order with
      resolvedReplaceCommands := order.resolvedReplaceCommands.insert command }
    assign fun order => { order with replaceRequested := false }
    assign fun order => { order with replaceCommandId := none }

/-- `confirm_expired`. -/
def confirmExpired : Operation Unit := do
  let order ← self
  if order.rejected ∨ order.cancelled then
    throw (.conflict "terminal order outcome cannot be relabelled expired")
  else if order.cancelRequested ∨ order.replaceRequested then
    throw (.conflict "pending cancel/replace must resolve before expiry is recorded")
  else assign fun order => { order with expired := true }

/-- `confirm_cancel`, also `cancel`. -/
def confirmCancel : Operation Unit := do
  let order ← self
  if order.rejected ∨ order.expired then
    throw (.conflict "terminal order cannot also be confirmed cancelled")
  else if order.replaceRequested then
    throw (.conflict "replace request must resolve before cancellation is confirmed")
  else do
    assign fun order => { order with cancelRequested := true }
    assign fun order => { order with cancelled := true }

/-- `mark_oco_peer_filled`. -/
def markOcoPeerFilled : Operation Unit := do
  let order ← self
  if order.ocoGroupId = none then throw (.valueError "order is not in an OCO group")
  let filled ← checked order.filledQuantity
  assign fun order => { order with ocoViolation := order.ocoViolation || 0 < filled }

/-! ## Calls -/

/-- A call that reports a fill observation. -/
def observe : FillCall → Operation Bool
  | .recordFill fillId providerExecutionId quantity price providerRevision =>
      recordFill fillId providerExecutionId quantity price providerRevision
  | .correctFill fillId quantity price providerRevision correctionFillId =>
      correctFill fillId quantity price providerRevision correctionFillId
  | .bustFill fillId providerRevision correctionFillId =>
      bustFill fillId providerRevision correctionFillId

/-- Any other call. -/
def request [CaseMap] : LifecycleCall → Operation Unit
  | .markSendStarted attemptId => markSendStarted attemptId
  | .acknowledge providerOrderId status attemptId => acknowledge providerOrderId status attemptId
  | .requestCancel commandId => requestCancel commandId
  | .rejectCancel commandId reasonCode => rejectCancel commandId reasonCode
  | .requestReplace commandId => requestReplace commandId
  | .rejectReplace commandId reasonCode => rejectReplace commandId reasonCode
  | .confirmExpired => confirmExpired
  | .confirmCancel => confirmCancel
  | .markOcoPeerFilled => markOcoPeerFilled

/-- A call of an order, whose flag only a fill observation returns. -/
def perform [CaseMap] : Call → Operation (Option Bool)
  | .fill observation => some <$> observe observation
  | .lifecycle invocation => (fun _ => none) <$> request invocation

/-! ## The operations of the projection -/

open Lib.Mutation (on_bind on_checked on_self)

/-- What a request returns with the order after it. -/
def answered (result : OrderProjection × Except OrderError Unit) :
    Except OrderError Unit × OrderProjection :=
  (result.2, result.1)

section Refinement

variable (order : OrderProjection)

theorem bindSubmissionAttempt_on (attemptId : String) :
    (bindSubmissionAttempt attemptId).on order =
      answered (order.settle (order.bindSubmissionAttempt attemptId)) := by
  simp only [bindSubmissionAttempt, OrderProjection.bindSubmissionAttempt, on_bind, on_checked]
  cases text attemptId "attempt_id" with
  | error error => rfl
  | ok attempt =>
      simp only [on_self, ok_bind]
      by_cases other : order.submissionAttemptId ≠ none ∧
          order.submissionAttemptId ≠ some attempt
      · simp only [if_pos other]
        rfl
      · simp only [if_neg other]
        rfl

theorem acknowledgeBound_on [CaseMap] (providerOrderId : Option String) (status : String) :
    (acknowledgeBound providerOrderId status).on order =
      answered (order.settle (order.acknowledgeBound providerOrderId status)) := by
  simp only [acknowledgeBound, OrderProjection.acknowledgeBound, on_bind, on_checked]
  cases optionalText providerOrderId "provider_order_id" with
  | error error => rfl
  | ok orderId =>
      cases OrderProjection.submissionStatus status with
      | error error => rfl
      | ok normalized =>
          simp only [on_self, ok_bind]
          by_cases changed : orderId ≠ none ∧ order.providerOrderId ≠ none ∧
              order.providerOrderId ≠ orderId
          · simp only [if_pos changed]
            rfl
          · simp only [if_neg changed]
            by_cases terminal : (order.submissionState = .accepted ∨
                order.submissionState = .rejected) ∧ normalized ≠ order.submissionState
            · simp only [if_pos terminal]
              rfl
            · simp only [if_neg terminal]
              rfl

theorem acknowledge_on [CaseMap] (providerOrderId : Option String) (status : String)
    (attemptId : Option String) :
    (acknowledge providerOrderId status attemptId).on order =
      answered (order.acknowledge providerOrderId status attemptId) := by
  cases attemptId with
  | none =>
      simp only [acknowledge, OrderProjection.acknowledge, acknowledgeBound_on]
      cases order.acknowledgeBound providerOrderId status <;> rfl
  | some attempt =>
      simp only [acknowledge, OrderProjection.acknowledge, on_bind, bindSubmissionAttempt_on]
      cases order.bindSubmissionAttempt attempt with
      | error error => rfl
      | ok bound =>
          simp only [OrderProjection.settle, answered, acknowledgeBound_on]

end Refinement

end Operation

end AutoTrade.Order
