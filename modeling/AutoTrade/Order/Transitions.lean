import AutoTrade.Order.Projection

/-!
# What an order call can do

A fill call that returns leaves the projection alone, inserts one new
observation or inserts one revision.  `Changes` lists what a lifecycle call can
assign and the checks that have passed when it does.  Invariants of the
projection are derived from these two facts and not from the calls themselves.
-/

namespace AutoTrade.Order

open Lib Numeric

namespace OrderProjection

/-! ## Fill calls -/

theorem recordCandidate_cases {projection next : OrderProjection} {candidate : FillRecord}
    {accepted : Bool} (success : projection.recordCandidate candidate = .ok (next, accepted)) :
    (next = projection ∧ accepted = false) ∨
      (projection.fills.get? candidate.fillId = none ∧
        (candidate.providerRevision.bind fun revision =>
          projection.revisionRecords.get? (candidate.fillId, revision)).isSome ≠ true ∧
        next = projection.insertFill candidate ∧ accepted = true) := by
  simp only [recordCandidate] at success
  split at success
  · cases success
    exact .inl ⟨rfl, rfl⟩
  rw [guard_eq_ok] at success
  obtain ⟨-, success⟩ := success
  split at success
  · split at success
    · cases success
      exact .inl ⟨rfl, rfl⟩
    · cases success
  next fresh =>
    simp only [guard_eq_ok] at success
    obtain ⟨-, unused, equal⟩ := success
    cases equal
    exact .inr ⟨fresh, unused, rfl, rfl⟩

/-- `_apply_revision` on a known fill with well-formed texts. -/
theorem applyRevision_eq {projection : OrderProjection} {fillId fid : String}
    {quantity price : Decimal} {active : Bool} {providerRevision revision : String}
    {correctionFillId correction : Option String} {current : FillRecord}
    (fidText : text fillId "fill_id" = .ok fid)
    (found : projection.fills.get? fid = some current)
    (revisionText : text providerRevision "provider_revision" = .ok revision)
    (correctionText : optionalText correctionFillId "correction_fill_id" = .ok correction) :
    projection.applyRevision fillId quantity price active providerRevision correctionFillId =
      projection.recordRevision fid revision
        (revisedRecord fid current quantity price active revision correction) := by
  simp only [applyRevision, fidText, found, revisionText, correctionText, bind, Except.bind]

theorem recordRevision_cases {projection next : OrderProjection} {fillId revision : String}
    {candidate : FillRecord} {accepted : Bool}
    (success : projection.recordRevision fillId revision candidate = .ok (next, accepted)) :
    (next = projection ∧ accepted = false) ∨
      (projection.revisionRecords.get? (fillId, revision) = none ∧ accepted = true ∧
        next = projection.insertRevision fillId revision candidate) := by
  simp only [recordRevision] at success
  split at success
  · split at success
    · cases success
      exact .inl ⟨rfl, rfl⟩
    · cases success
  next unused =>
    rw [guard_eq_ok] at success
    cases success.2
    exact .inr ⟨unused, rfl, rfl⟩

/-- A revision that returns either repeats a stored one or is inserted. -/
theorem applyRevision_cases {projection next : OrderProjection} {fillId : String}
    {quantity price : Decimal} {active : Bool} {providerRevision : String}
    {correctionFillId : Option String} {accepted : Bool}
    (success : projection.applyRevision fillId quantity price active providerRevision
      correctionFillId = .ok (next, accepted)) :
    ∃ fid current revision correction,
      text fillId "fill_id" = .ok fid ∧ projection.fills.get? fid = some current ∧
      text providerRevision "provider_revision" = .ok revision ∧
      optionalText correctionFillId "correction_fill_id" = .ok correction ∧
      ((next = projection ∧ accepted = false) ∨
        (projection.revisionRecords.get? (fid, revision) = none ∧ accepted = true ∧
          next = projection.insertRevision fid revision
            (revisedRecord fid current quantity price active revision correction))) := by
  rw [applyRevision, bind_eq_ok] at success
  obtain ⟨fid, fidText, rest⟩ := success
  split at rest
  · cases rest
  next current found =>
    simp only [bind_eq_ok] at rest
    obtain ⟨revision, revisionText, correction, correctionText, recorded⟩ := rest
    exact ⟨fid, current, revision, correction, fidText, found, revisionText, correctionText,
      recordRevision_cases recorded⟩

theorem correctFill_cases {projection next : OrderProjection} {fillId : String}
    {quantity price : DecimalInput} {providerRevision : String}
    {correctionFillId : Option String} {accepted : Bool}
    (success : projection.correctFill fillId quantity price providerRevision
      correctionFillId = .ok (next, accepted)) :
    ∃ fid existing qty px, text fillId "fill_id" = .ok fid ∧
      projection.fills.get? fid = some existing ∧
      decimal quantity "corrected quantity" = .ok qty ∧
      decimal price "corrected price" = .ok px ∧ ¬(qty ≤ 0 ∨ px ≤ 0) ∧
      projection.applyRevision fid qty px existing.active providerRevision
        correctionFillId = .ok (next, accepted) := by
  rw [correctFill, bind_eq_ok] at success
  obtain ⟨fid, fidText, rest⟩ := success
  split at rest
  · cases rest
  next existing found =>
    simp only [bind_eq_ok, guard_eq_ok] at rest
    obtain ⟨qty, quantityOk, px, priceOk, positive, revised⟩ := rest
    exact ⟨fid, existing, qty, px, fidText, found, quantityOk, priceOk, positive, revised⟩

theorem bustFill_cases {projection next : OrderProjection} {fillId providerRevision : String}
    {correctionFillId : Option String} {accepted : Bool}
    (success : projection.bustFill fillId providerRevision correctionFillId =
      .ok (next, accepted)) :
    ∃ fid existing, text fillId "fill_id" = .ok fid ∧
      projection.fills.get? fid = some existing ∧
      projection.applyRevision fid existing.quantity existing.price false providerRevision
        correctionFillId = .ok (next, accepted) := by
  rw [bustFill, bind_eq_ok] at success
  obtain ⟨fid, fidText, rest⟩ := success
  split at rest
  · cases rest
  next existing found => exact ⟨fid, existing, fidText, found, rest⟩

/-- A fill call that returns inserts at most one observation. -/
theorem observe_cases {projection next : OrderProjection} {observation : FillCall}
    {accepted : Bool} (success : projection.observe observation = .ok (next, accepted)) :
    next = projection ∨ (∃ candidate, next = projection.insertFill candidate) ∨
      ∃ fillId revision candidate,
        next = projection.insertRevision fillId revision candidate := by
  have revised : ∀ {fillId quantity price active providerRevision correctionFillId},
      projection.applyRevision fillId quantity price active providerRevision
        correctionFillId = .ok (next, accepted) →
      next = projection ∨ (∃ candidate, next = projection.insertFill candidate) ∨
        ∃ fillId revision candidate,
          next = projection.insertRevision fillId revision candidate := by
    intro _ _ _ _ _ _ applied
    obtain ⟨fid, _, revision, _, -, -, -, -, effect⟩ := applyRevision_cases applied
    rcases effect with ⟨same, -⟩ | ⟨-, -, inserted⟩
    · exact .inl same
    · exact .inr (.inr ⟨fid, revision, _, inserted⟩)
  cases observation with
  | recordFill fillId providerExecutionId quantity price providerRevision =>
      rw [observe, recordFill, bind_eq_ok] at success
      obtain ⟨candidate, -, recorded⟩ := success
      rcases recordCandidate_cases recorded with ⟨same, -⟩ | ⟨-, -, inserted, -⟩
      · exact .inl same
      · exact .inr (.inl ⟨candidate, inserted⟩)
  | correctFill fillId quantity price providerRevision correctionFillId =>
      obtain ⟨_, _, _, _, -, -, -, -, -, applied⟩ := correctFill_cases success
      exact revised applied
  | bustFill fillId providerRevision correctionFillId =>
      obtain ⟨_, _, -, -, applied⟩ := bustFill_cases success
      exact revised applied

/-! ## Lifecycle calls -/

/-- No attempt but `attempt` is bound to the order. -/
def AttemptFree (projection : OrderProjection) (attempt : String) : Prop :=
  projection.submissionAttemptId = none ∨ projection.submissionAttemptId = some attempt

/-- The submission has a final outcome. -/
def SubmissionClosed (projection : OrderProjection) : Prop :=
  projection.submissionState = .accepted ∨ projection.submissionState = .rejected

/-- What a lifecycle call can assign, with the checks passed before it does. -/
inductive Changes [CaseMap] (projection : OrderProjection) :
    LifecycleCall → OrderProjection → Prop where
  | same {request} : Changes projection request projection
  | bound {request attempt} (free : projection.AttemptFree attempt) :
      Changes projection request { projection with submissionAttemptId := some attempt }
  | acknowledged {providerOrderId orderId status outcome attemptId attempt}
      (parsed : submissionStatus status = .ok outcome)
      (final : projection.SubmissionClosed → outcome = projection.submissionState) :
      Changes projection (.acknowledge providerOrderId status attemptId) { projection with
        submissionAttemptId := attempt
        providerOrderId := orderId
        rejected := projection.rejected || outcome = .rejected
        submissionState := outcome }
  | cancelRequested {commandId command} (vacant : projection.cancelCommandId = none)
      (alone : projection.replaceRequested = false) :
      Changes projection (.requestCancel commandId) { projection with
        cancelCommandId := some command
        cancelRequested := projection.cancelRequested || !projection.cancelled }
  | cancelRejected {commandId reasonCode} (unconfirmed : projection.cancelled = false) :
      Changes projection (.rejectCancel commandId reasonCode)
        { projection with cancelRequested := false, cancelCommandId := none }
  | replaceRequested {commandId command}
      (unresolved : command ∉ projection.resolvedReplaceCommands)
      (alone : projection.cancelRequested = false) :
      Changes projection (.requestReplace commandId) { projection with
        replaceCommandId := some command
        replaceRequested := true }
  | replaceRejected {commandId reasonCode command} :
      Changes projection (.rejectReplace commandId reasonCode) { projection with
        resolvedReplaceCommands := projection.resolvedReplaceCommands.insert command
        replaceRequested := false
        replaceCommandId := none }
  | expired (open_ : projection.rejected = false) (uncancelled : projection.cancelled = false) :
      Changes projection .confirmExpired { projection with expired := true }
  | cancelled (open_ : projection.rejected = false) (unexpired : projection.expired = false)
      (alone : projection.replaceRequested = false) :
      Changes projection .confirmCancel
        { projection with cancelRequested := true, cancelled := true }
  | ocoMarked {violation} :
      Changes projection .markOcoPeerFilled { projection with ocoViolation := violation }

theorem bindSubmissionAttempt_eq_ok {projection next : OrderProjection} {attemptId : String} :
    projection.bindSubmissionAttempt attemptId = .ok next ↔
      ∃ attempt, text attemptId "attempt_id" = .ok attempt ∧ projection.AttemptFree attempt ∧
        { projection with submissionAttemptId := some attempt } = next := by
  simp only [bindSubmissionAttempt, bind_eq_ok, guard_eq_ok, pure_eq_ok, AttemptFree]
  simp only [ne_eq, not_and_or, not_not]

section Requests

variable [CaseMap]

theorem settle_changes {projection : OrderProjection} {request : LifecycleCall}
    {result : Except OrderError OrderProjection}
    (returned : ∀ next, result = .ok next → Changes projection request next) :
    Changes projection request (projection.settle result).1 := by
  cases result with
  | error error => exact .same
  | ok next => exact returned next rfl

theorem acknowledgeBound_eq_ok {projection next : OrderProjection}
    {providerOrderId : Option String} {status : String} :
    projection.acknowledgeBound providerOrderId status = .ok next ↔
      ∃ orderId, optionalText providerOrderId "provider_order_id" = .ok orderId ∧
        ∃ outcome, submissionStatus status = .ok outcome ∧
          (orderId = none ∨ projection.providerOrderId = none ∨
            projection.providerOrderId = orderId) ∧
          (projection.SubmissionClosed → outcome = projection.submissionState) ∧
          { projection with
            providerOrderId := orderId.or projection.providerOrderId
            rejected := projection.rejected || outcome = .rejected
            submissionState := outcome } = next := by
  simp only [acknowledgeBound, bind_eq_ok, guard_eq_ok, pure_eq_ok, SubmissionClosed]
  simp only [ne_eq, not_and_or, not_not, imp_iff_not_or]

theorem acknowledge_changes (projection : OrderProjection) (providerOrderId : Option String)
    (status : String) (attemptId : Option String) :
    Changes projection (.acknowledge providerOrderId status attemptId)
      (projection.acknowledge providerOrderId status attemptId).1 := by
  cases attemptId with
  | none =>
      simp only [acknowledge]
      cases result : projection.acknowledgeBound providerOrderId status with
      | error error => exact .same
      | ok next =>
          obtain ⟨orderId, -, outcome, parsed, -, final, rfl⟩ := acknowledgeBound_eq_ok.mp result
          exact .acknowledged parsed final
  | some attemptId =>
      simp only [acknowledge]
      cases binding : projection.bindSubmissionAttempt attemptId with
      | error error => exact .same
      | ok bound =>
          obtain ⟨attempt, -, free, rfl⟩ := bindSubmissionAttempt_eq_ok.mp binding
          simp only
          split
          · exact .bound free
          next next result =>
            obtain ⟨orderId, -, outcome, parsed, -, final, rfl⟩ :=
              acknowledgeBound_eq_ok.mp result
            exact .acknowledged parsed final

/-- Every lifecycle call, returning or raising, is one of the listed changes. -/
theorem request_changes (projection : OrderProjection) (request : LifecycleCall) :
    Changes projection request (projection.request request).1 := by
  cases request with
  | markSendStarted attemptId =>
      apply settle_changes
      intro next success
      obtain ⟨attempt, -, free, rfl⟩ := bindSubmissionAttempt_eq_ok.mp success
      exact .bound free
  | acknowledge providerOrderId status attemptId =>
      exact acknowledge_changes projection providerOrderId status attemptId
  | requestCancel commandId =>
      apply settle_changes
      intro next success
      simp only [requestCancel, bind_eq_ok] at success
      obtain ⟨command, -, rest⟩ := success
      split at rest
      · cases rest
        exact .same
      · simp only [guard_eq_ok, pure_eq_ok, ne_eq, not_not, Bool.not_eq_true] at rest
        obtain ⟨vacant, alone, -, rfl⟩ := rest
        exact .cancelRequested vacant alone
  | rejectCancel commandId reasonCode =>
      apply settle_changes
      intro next success
      simp only [rejectCancel, bind_eq_ok, guard_eq_ok, pure_eq_ok, Bool.not_eq_true] at success
      obtain ⟨_, -, _, -, unconfirmed, -, -, rfl⟩ := success
      exact .cancelRejected unconfirmed
  | requestReplace commandId =>
      apply settle_changes
      intro next success
      simp only [requestReplace, bind_eq_ok, guard_eq_ok] at success
      obtain ⟨command, -, unresolved, rest⟩ := success
      split at rest
      · cases rest
        exact .same
      · simp only [bind_eq_ok, guard_eq_ok, pure_eq_ok, Bool.not_eq_true] at rest
        obtain ⟨-, alone, -, _, -, -, rfl⟩ := rest
        exact .replaceRequested unresolved alone
  | rejectReplace commandId reasonCode =>
      apply settle_changes
      intro next success
      simp only [rejectReplace, bind_eq_ok, guard_eq_ok, pure_eq_ok] at success
      obtain ⟨_, -, _, -, -, -, rfl⟩ := success
      exact .replaceRejected
  | confirmExpired =>
      apply settle_changes
      intro next success
      simp only [confirmExpired, guard_eq_ok, Except.ok.injEq, not_or, Bool.not_eq_true]
        at success
      obtain ⟨⟨open_, uncancelled⟩, -, rfl⟩ := success
      exact .expired open_ uncancelled
  | confirmCancel =>
      apply settle_changes
      intro next success
      simp only [confirmCancel, guard_eq_ok, Except.ok.injEq, not_or, Bool.not_eq_true]
        at success
      obtain ⟨⟨open_, unexpired⟩, alone, rfl⟩ := success
      exact .cancelled open_ unexpired alone
  | markOcoPeerFilled =>
      apply settle_changes
      intro next success
      simp only [markOcoPeerFilled, guard_eq_ok, bind_eq_ok, pure_eq_ok] at success
      obtain ⟨-, _, -, rfl⟩ := success
      exact .ocoMarked

end Requests

end OrderProjection

end AutoTrade.Order
