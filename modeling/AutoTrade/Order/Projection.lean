import AutoTrade.Lib.Dict
import AutoTrade.Lib.Raise
import AutoTrade.Lib.Text
import AutoTrade.Numeric.ExactDecimal

/-!
# Order lifecycle projection

The executable model of `order_projection.OrderProjection`.

Every operation except `acknowledge` checks all of its arguments before the
first assignment, so a call that raises leaves the projection as it was.
`acknowledge` binds the submission attempt first and keeps that binding when a
later check raises; its model returns the projection beside the outcome.
-/

namespace AutoTrade.Order

open Lib Numeric

/-- The exceptions an order call raises. -/
inductive OrderError where
  | valueError (message : String)
  | typeError (message : String)
  | keyError (key : String)
  | conflict (message : String)
  | exactDecimal (error : ExactDecimalError)
  deriving DecidableEq, Repr

inductive Environment where
  | replay
  | simulation
  | paper
  | live
  deriving DecidableEq, Repr

inductive Side where
  | buy
  | sell
  deriving DecidableEq, Repr

inductive SubmissionState where
  | pending
  | accepted
  | rejected
  | unknown
  deriving DecidableEq, Repr

structure FillRecord where
  fillId : String
  providerExecutionId : String
  quantity : Decimal
  price : Decimal
  active : Bool
  providerRevision : Option String
  correctionOf : Option String
  deriving DecidableEq, Repr

structure OrderProjection where
  providerId : String
  accountId : String
  environment : Environment
  clientOrderId : String
  instrument : String
  side : Side
  requestedQuantity : Decimal
  ocoGroupId : Option String
  parentIntentId : Option String
  providerOrderId : Option String
  submissionAttemptId : Option String
  submissionState : SubmissionState
  cancelRequested : Bool
  cancelled : Bool
  cancelCommandId : Option String
  replaceRequested : Bool
  replaceCommandId : Option String
  resolvedReplaceCommands : List String
  expired : Bool
  rejected : Bool
  fills : Dict String FillRecord
  providerExecutionIds : Dict String String
  revisionRecords : Dict (String × String) FillRecord
  history : List FillRecord
  ocoViolation : Bool
  deriving DecidableEq, Repr

/-- `_text`. -/
def text (value name : String) : Except OrderError String :=
  let normalized := strip value
  if normalized = "" then .error (.valueError s!"{name} is required") else .ok normalized

/-- `_text` on an argument that may be `None`. -/
def optionalText (value : Option String) (name : String) :
    Except OrderError (Option String) :=
  match value with
  | none => .ok none
  | some value => (text value name).map some

/-- `_decimal`. -/
def decimal (value : DecimalInput) (name : String) : Except OrderError Decimal :=
  match value with
  | .inexact =>
      .error (.typeError s!"{name} must use exact Decimal, string or integer input")
  | value =>
      (parseBoundedExactDecimal value true).mapError fun _ =>
        .valueError s!"{name} must be a bounded finite decimal"

/-- `_environment`. -/
def environment [CaseMap] (value : String) : Except OrderError Environment := do
  let name ← text value "environment"
  let normalized := upper name
  if normalized = "REPLAY" then pure .replay
  else if normalized = "SIMULATION" then pure .simulation
  else if normalized = "PAPER" then pure .paper
  else if normalized = "LIVE" then pure .live
  else .error (.valueError "unsupported environment")

/-- The side check of `__init__`. -/
def orderSide [CaseMap] (value : String) : Except OrderError Side := do
  let name ← text value "side"
  let normalized := upper name
  if normalized = "BUY" then pure .buy
  else if normalized = "SELL" then pure .sell
  else .error (.valueError "side must be BUY or SELL")

namespace OrderProjection

/-- `OrderProjection.__init__`. -/
def create [CaseMap] (providerId accountId environmentName clientOrderId instrument
    sideName : String) (requestedQuantity : DecimalInput)
    (ocoGroupId parentIntentId : Option String) : Except OrderError OrderProjection := do
  let provider ← text providerId "provider_id"
  let account ← text accountId "account_id"
  let environment ← Order.environment environmentName
  let clientOrder ← text clientOrderId "client_order_id"
  let instrument ← text instrument "instrument"
  let side ← orderSide sideName
  let requested ← decimal requestedQuantity "requested_quantity"
  if requested ≤ 0 then .error (.valueError "requested_quantity must be positive")
  else do
    let ocoGroup ← optionalText ocoGroupId "oco_group_id"
    let parentIntent ← optionalText parentIntentId "parent_intent_id"
    if parentIntent = some clientOrder then
      .error (.valueError "order cannot amend itself")
    else pure {
      providerId := upper provider
      accountId := account
      environment := environment
      clientOrderId := clientOrder
      instrument := instrument
      side := side
      requestedQuantity := requested
      ocoGroupId := ocoGroup
      parentIntentId := parentIntent
      providerOrderId := none
      submissionAttemptId := none
      submissionState := .pending
      cancelRequested := false
      cancelled := false
      cancelCommandId := none
      replaceRequested := false
      replaceCommandId := none
      resolvedReplaceCommands := []
      expired := false
      rejected := false
      fills := ∅
      providerExecutionIds := ∅
      revisionRecords := ∅
      history := []
      ocoViolation := false }

/-! ## Submission -/

/-- `_bind_submission_attempt`, also `mark_send_started`. -/
def bindSubmissionAttempt (projection : OrderProjection) (attemptId : String) :
    Except OrderError OrderProjection := do
  let attempt ← text attemptId "attempt_id"
  if projection.submissionAttemptId ≠ none ∧
      projection.submissionAttemptId ≠ some attempt then
    .error (.conflict "order already belongs to a different submission attempt")
  else pure { projection with submissionAttemptId := some attempt }

/-- The submission outcome a status names. -/
def submissionStatus [CaseMap] (status : String) : Except OrderError SubmissionState := do
  let name ← text status "status"
  let normalized := upper name
  if normalized = "ACKNOWLEDGED" ∨ normalized = "ACCEPTED" then pure .accepted
  else if normalized = "REJECTED" then pure .rejected
  else if normalized = "UNKNOWN" then pure .unknown
  else .error (.valueError "unsupported submission status")

/-- `acknowledge` after the attempt is bound. -/
def acknowledgeBound [CaseMap] (projection : OrderProjection)
    (providerOrderId : Option String) (status : String) :
    Except OrderError OrderProjection := do
  let orderId ← optionalText providerOrderId "provider_order_id"
  let normalized ← submissionStatus status
  if orderId ≠ none ∧ projection.providerOrderId ≠ none ∧
      projection.providerOrderId ≠ orderId then
    .error (.conflict "provider_order_id changed")
  else if (projection.submissionState = .accepted ∨
      projection.submissionState = .rejected) ∧
      normalized ≠ projection.submissionState then
    .error (.conflict "terminal submission outcome cannot change")
  else pure { projection with
    providerOrderId := orderId.or projection.providerOrderId
    rejected := projection.rejected || normalized = .rejected
    submissionState := normalized }

/-- `acknowledge`.  The attempt stays bound when a later check raises. -/
def acknowledge [CaseMap] (projection : OrderProjection) (providerOrderId : Option String)
    (status : String) (attemptId : Option String) :
    OrderProjection × Except OrderError Unit :=
  let bound : Except OrderError OrderProjection := match attemptId with
    | none => .ok projection
    | some attempt => projection.bindSubmissionAttempt attempt
  match bound with
  | .error error => (projection, .error error)
  | .ok bound =>
      match bound.acknowledgeBound providerOrderId status with
      | .error error => (bound, .error error)
      | .ok acknowledged => (acknowledged, .ok ())

/-! ## Fills, corrections and busts -/

/-- The observation `record_fill` builds from its arguments. -/
def fillCandidate (fillId providerExecutionId : String) (quantity price : DecimalInput)
    (providerRevision : Option String) : Except OrderError FillRecord := do
  let fid ← text fillId "fill_id"
  let executionId ← text providerExecutionId "provider_execution_id"
  let qty ← decimal quantity "quantity"
  let px ← decimal price "price"
  if qty ≤ 0 ∨ px ≤ 0 then
    .error (.valueError "fill quantity and price must be positive")
  else do
    let revision ← optionalText providerRevision "provider_revision"
    pure {
      fillId := fid
      providerExecutionId := executionId
      quantity := qty
      price := px
      active := true
      providerRevision := revision
      correctionOf := none }

/-- The assignments of an accepted `record_fill`. -/
def insertFill (projection : OrderProjection) (candidate : FillRecord) : OrderProjection :=
  { projection with
    revisionRecords := match candidate.providerRevision with
      | none => projection.revisionRecords
      | some revision =>
          projection.revisionRecords.set (candidate.fillId, revision) candidate
    fills := projection.fills.set candidate.fillId candidate
    providerExecutionIds :=
      projection.providerExecutionIds.set candidate.providerExecutionId candidate.fillId
    history := projection.history ++ [candidate] }

/-- `record_fill` on its candidate observation. -/
def recordCandidate (projection : OrderProjection) (candidate : FillRecord) :
    Except OrderError (OrderProjection × Bool) :=
  if candidate ∈ projection.history then .ok (projection, false)
  else if projection.history.any fun item => item.fillId = candidate.fillId then
    .error (.conflict "fill_id already belongs to another observation")
  else match projection.fills.get? candidate.fillId with
    | some existing =>
        if existing = candidate then .ok (projection, false)
        else .error (.conflict "fill_id already has different content")
    | none =>
        if (projection.providerExecutionIds.get? candidate.providerExecutionId).isSome then
          .error (.conflict "provider_execution_id already maps to another fill_id")
        else if (candidate.providerRevision.bind fun revision =>
            projection.revisionRecords.get? (candidate.fillId, revision)).isSome then
          .error (.conflict "provider revision already maps to another observation")
        else .ok (projection.insertFill candidate, true)

/-- `record_fill`. -/
def recordFill (projection : OrderProjection) (fillId providerExecutionId : String)
    (quantity price : DecimalInput) (providerRevision : Option String) :
    Except OrderError (OrderProjection × Bool) := do
  let candidate ← fillCandidate fillId providerExecutionId quantity price providerRevision
  projection.recordCandidate candidate

/-- The observation `_apply_revision` builds over the current fill. -/
def revisedRecord (fillId : String) (current : FillRecord) (quantity price : Decimal)
    (active : Bool) (revision : String) (correctionFillId : Option String) : FillRecord where
  fillId := correctionFillId.getD fillId
  providerExecutionId := current.providerExecutionId
  quantity := quantity
  price := price
  active := active
  providerRevision := some revision
  correctionOf := some fillId

/-- The assignments of an accepted revision. -/
def insertRevision (projection : OrderProjection) (fillId revision : String)
    (candidate : FillRecord) : OrderProjection :=
  { projection with
    revisionRecords := projection.revisionRecords.set (fillId, revision) candidate
    fills := projection.fills.set fillId candidate
    history := projection.history ++ [candidate] }

/-- `_apply_revision` on its candidate observation. -/
def recordRevision (projection : OrderProjection) (fillId revision : String)
    (candidate : FillRecord) : Except OrderError (OrderProjection × Bool) :=
  match projection.revisionRecords.get? (fillId, revision) with
  | some prior =>
      if prior = candidate then .ok (projection, false)
      else .error (.conflict "provider revision already has different content")
  | none =>
      if candidate.fillId ≠ fillId ∧ (projection.history.any fun item =>
          item.fillId = candidate.fillId ∧ item ≠ candidate) then
        .error (.conflict "correction_fill_id already belongs to another observation")
      else .ok (projection.insertRevision fillId revision candidate, true)

/-- `_apply_revision`. -/
def applyRevision (projection : OrderProjection) (fillId : String)
    (quantity price : Decimal) (active : Bool) (providerRevision : String)
    (correctionFillId : Option String) : Except OrderError (OrderProjection × Bool) := do
  let fid ← text fillId "fill_id"
  match projection.fills.get? fid with
  | none => .error (.keyError fid)
  | some current => do
      let revision ← text providerRevision "provider_revision"
      let correction ← optionalText correctionFillId "correction_fill_id"
      projection.recordRevision fid revision
        (revisedRecord fid current quantity price active revision correction)

/-- `bust_fill`. -/
def bustFill (projection : OrderProjection) (fillId providerRevision : String)
    (correctionFillId : Option String) : Except OrderError (OrderProjection × Bool) := do
  let fid ← text fillId "fill_id"
  match projection.fills.get? fid with
  | none => .error (.keyError fid)
  | some existing =>
      projection.applyRevision fid existing.quantity existing.price false providerRevision
        correctionFillId

/-- `correct_fill`. -/
def correctFill (projection : OrderProjection) (fillId : String)
    (quantity price : DecimalInput) (providerRevision : String)
    (correctionFillId : Option String) : Except OrderError (OrderProjection × Bool) := do
  let fid ← text fillId "fill_id"
  match projection.fills.get? fid with
  | none => .error (.keyError fid)
  | some existing => do
      let qty ← decimal quantity "corrected quantity"
      let px ← decimal price "corrected price"
      if qty ≤ 0 ∨ px ≤ 0 then
        .error (.valueError "corrected quantity and price must be positive")
      else
        projection.applyRevision fid qty px existing.active providerRevision correctionFillId

/-! ## Lifecycle requests -/

/-- `active_fills`. -/
def activeFills (projection : OrderProjection) : List FillRecord :=
  projection.fills.values.filter FillRecord.active

/-- `filled_quantity`. -/
def filledQuantity (projection : OrderProjection) : Except OrderError Decimal :=
  (exactSum (projection.activeFills.map FillRecord.quantity) 0).mapError .exactDecimal

/-- `request_cancel`. -/
def requestCancel (projection : OrderProjection) (commandId : String) :
    Except OrderError OrderProjection := do
  let command ← text commandId "command_id"
  if projection.cancelCommandId = some command then pure projection
  else if projection.cancelCommandId ≠ none then
    .error (.conflict "cancel request already has a different command_id")
  else if projection.replaceRequested then
    .error (.conflict "cancel and replace requests cannot be pending together")
  else if projection.rejected ∨ projection.expired then
    .error (.conflict "terminal order cannot accept a new cancel request")
  else pure { projection with
    cancelCommandId := some command
    cancelRequested := projection.cancelRequested || !projection.cancelled }

/-- `reject_cancel`. -/
def rejectCancel (projection : OrderProjection) (commandId reasonCode : String) :
    Except OrderError OrderProjection := do
  let command ← text commandId "command_id"
  let _ ← text reasonCode "reason_code"
  if projection.cancelled then
    .error (.conflict "confirmed cancellation cannot be relabelled rejected")
  else if projection.cancelRequested = false ∨ projection.cancelCommandId = none then
    .error (.conflict "order has no pending cancel request")
  else if projection.cancelCommandId ≠ some command then
    .error (.conflict "cancel rejection command_id does not match pending request")
  else pure { projection with cancelRequested := false, cancelCommandId := none }

/-- `request_replace`. -/
def requestReplace (projection : OrderProjection) (commandId : String) :
    Except OrderError OrderProjection := do
  let command ← text commandId "command_id"
  if command ∈ projection.resolvedReplaceCommands then
    .error (.conflict "resolved replace command_id cannot be reused")
  else if projection.replaceCommandId = some command then pure projection
  else if projection.replaceCommandId ≠ none then
    .error (.conflict "replace request already has a different command_id")
  else if projection.cancelRequested then
    .error (.conflict "cancel and replace requests cannot be pending together")
  else if projection.rejected ∨ projection.cancelled ∨ projection.expired then
    .error (.conflict "terminal order cannot accept a new replace request")
  else do
    let filled ← projection.filledQuantity
    if projection.requestedQuantity ≤ filled then
      .error (.conflict "fully filled order cannot accept a new replace request")
    else pure { projection with
      replaceCommandId := some command
      replaceRequested := true }

/-- `reject_replace`. -/
def rejectReplace (projection : OrderProjection) (commandId reasonCode : String) :
    Except OrderError OrderProjection := do
  let command ← text commandId "command_id"
  let _ ← text reasonCode "reason_code"
  if projection.replaceRequested = false ∨ projection.replaceCommandId = none then
    .error (.conflict "order has no pending replace request")
  else if projection.replaceCommandId ≠ some command then
    .error (.conflict "replace rejection command_id does not match pending request")
  else pure { projection with
    resolvedReplaceCommands := projection.resolvedReplaceCommands.insert command
    replaceRequested := false
    replaceCommandId := none }

/-- `confirm_expired`. -/
def confirmExpired (projection : OrderProjection) : Except OrderError OrderProjection :=
  if projection.rejected ∨ projection.cancelled then
    .error (.conflict "terminal order outcome cannot be relabelled expired")
  else if projection.cancelRequested ∨ projection.replaceRequested then
    .error (.conflict "pending cancel/replace must resolve before expiry is recorded")
  else .ok { projection with expired := true }

/-- `confirm_cancel`, also `cancel`. -/
def confirmCancel (projection : OrderProjection) : Except OrderError OrderProjection :=
  if projection.rejected ∨ projection.expired then
    .error (.conflict "terminal order cannot also be confirmed cancelled")
  else if projection.replaceRequested then
    .error (.conflict "replace request must resolve before cancellation is confirmed")
  else .ok { projection with cancelRequested := true, cancelled := true }

/-- `mark_oco_peer_filled`. -/
def markOcoPeerFilled (projection : OrderProjection) : Except OrderError OrderProjection :=
  if projection.ocoGroupId = none then
    .error (.valueError "order is not in an OCO group")
  else do
    let filled ← projection.filledQuantity
    pure { projection with ocoViolation := projection.ocoViolation || 0 < filled }

end OrderProjection

/-! ## Calls and runs -/

/-- A call that reports a fill observation. -/
inductive FillCall where
  | recordFill (fillId providerExecutionId : String) (quantity price : DecimalInput)
      (providerRevision : Option String)
  | correctFill (fillId : String) (quantity price : DecimalInput)
      (providerRevision : String) (correctionFillId : Option String)
  | bustFill (fillId providerRevision : String) (correctionFillId : Option String)
  deriving DecidableEq, Repr

/-- Any other call of the projection. -/
inductive LifecycleCall where
  | markSendStarted (attemptId : String)
  | acknowledge (providerOrderId : Option String) (status : String)
      (attemptId : Option String)
  | requestCancel (commandId : String)
  | rejectCancel (commandId reasonCode : String)
  | requestReplace (commandId : String)
  | rejectReplace (commandId reasonCode : String)
  | confirmExpired
  | confirmCancel
  | markOcoPeerFilled
  deriving DecidableEq, Repr

inductive Call where
  | fill (observation : FillCall)
  | lifecycle (request : LifecycleCall)
  deriving DecidableEq, Repr

namespace OrderProjection

/-- The new projection and the returned flag of a fill call, or its exception. -/
def observe (projection : OrderProjection) :
    FillCall → Except OrderError (OrderProjection × Bool)
  | .recordFill fillId providerExecutionId quantity price providerRevision =>
      projection.recordFill fillId providerExecutionId quantity price providerRevision
  | .correctFill fillId quantity price providerRevision correctionFillId =>
      projection.correctFill fillId quantity price providerRevision correctionFillId
  | .bustFill fillId providerRevision correctionFillId =>
      projection.bustFill fillId providerRevision correctionFillId

/-- A call without partial effects as a projection and an outcome. -/
def settle (projection : OrderProjection) (result : Except OrderError OrderProjection) :
    OrderProjection × Except OrderError Unit :=
  match result with
  | .error error => (projection, .error error)
  | .ok next => (next, .ok ())

def request [CaseMap] (projection : OrderProjection) :
    LifecycleCall → OrderProjection × Except OrderError Unit
  | .markSendStarted attemptId =>
      projection.settle (projection.bindSubmissionAttempt attemptId)
  | .acknowledge providerOrderId status attemptId =>
      projection.acknowledge providerOrderId status attemptId
  | .requestCancel commandId => projection.settle (projection.requestCancel commandId)
  | .rejectCancel commandId reasonCode =>
      projection.settle (projection.rejectCancel commandId reasonCode)
  | .requestReplace commandId => projection.settle (projection.requestReplace commandId)
  | .rejectReplace commandId reasonCode =>
      projection.settle (projection.rejectReplace commandId reasonCode)
  | .confirmExpired => projection.settle projection.confirmExpired
  | .confirmCancel => projection.settle projection.confirmCancel
  | .markOcoPeerFilled => projection.settle projection.markOcoPeerFilled

/-- The projection after a call, whether it returns or raises. -/
def step [CaseMap] (projection : OrderProjection) : Call → OrderProjection
  | .fill observation =>
      match projection.observe observation with
      | .error _ => projection
      | .ok (next, _) => next
  | .lifecycle request => (projection.request request).1

/-- The projection after a sequence of calls. -/
def run [CaseMap] (projection : OrderProjection) (calls : List Call) : OrderProjection :=
  calls.foldl step projection

end OrderProjection

end AutoTrade.Order
