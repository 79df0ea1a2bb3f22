import AutoTrade.Order.Transitions

/-!
# Exclusive order outcomes

Rejection, cancellation and expiry exclude one another, and so do a pending
cancel and a pending replace.  `confirm_cancel`, `confirm_expired` and the two
requests check for the others before they assign.  `acknowledge` checks the
submission state only: a provider that reports `REJECTED` after the order was
confirmed cancelled or expired, while the submission is still `PENDING` or
`UNKNOWN`, leaves the order with two outcomes.  `exclusive_iff` shows that this
is the only way to get there.
-/

namespace AutoTrade.Order

open Lib Numeric

namespace OrderProjection

/-- The lifecycle flags name at most one outcome and at most one pending request. -/
structure Exclusive (projection : OrderProjection) : Prop where
  rejectedAlone : projection.rejected → projection.cancelled = false ∧ projection.expired = false
  cancelledAlone : projection.cancelled → projection.expired = false
  onePending : projection.cancelRequested → projection.replaceRequested = false
  confirmed : projection.cancelled → projection.cancelRequested
  replacing : projection.replaceRequested ↔ projection.replaceCommandId ≠ none

/-- No replace command that was resolved is pending. -/
def ResolvedAway (resolved : List String) (projection : OrderProjection) : Prop :=
  ∀ command ∈ resolved, projection.replaceCommandId ≠ some command

/-- The lifecycle flags are exclusive all along a run, and a replace command
resolved at some point of it is pending at no later point. -/
def Orderly [CaseMap] (initial : OrderProjection) (calls : List Call) : Prop :=
  ∀ earlier middle later, calls = earlier ++ middle ++ later →
    (initial.run earlier).Exclusive ∧
      ResolvedAway (initial.run earlier).resolvedReplaceCommands
        (initial.run (earlier ++ middle))

/-- An `acknowledge` call that passes its checks and reports `REJECTED` for an
order that is cancelled or expired and whose submission is still open. -/
def RejectsLate [CaseMap] (projection : OrderProjection) : Call → Prop
  | .lifecycle (.acknowledge providerOrderId status attemptId) =>
      (projection.cancelled ∨ projection.expired) ∧ ¬ projection.SubmissionClosed ∧
        submissionStatus status = .ok .rejected ∧
        (∀ value ∈ attemptId, ∃ attempt, text value "attempt_id" = .ok attempt ∧
          projection.AttemptFree attempt) ∧
        ∃ orderId, optionalText providerOrderId "provider_order_id" = .ok orderId ∧
          (orderId = none ∨ projection.providerOrderId = none ∨
            projection.providerOrderId = orderId)
  | _ => False

/-! ## The invariant -/

/-- The invariant of the lifecycle: its flags are exclusive, what was resolved
is not pending, and a rejected submission has rejected the order. -/
structure Lifecycle (projection : OrderProjection) : Prop extends Exclusive projection where
  resolvedAway : ResolvedAway projection.resolvedReplaceCommands projection
  submission : projection.submissionState = .rejected → projection.rejected

theorem create_lifecycle [CaseMap] {providerId accountId environmentName clientOrderId
    instrument sideName : String} {requestedQuantity : DecimalInput}
    {ocoGroupId parentIntentId : Option String} {initial : OrderProjection}
    (created : create providerId accountId environmentName clientOrderId instrument sideName
      requestedQuantity ocoGroupId parentIntentId = .ok initial) : Lifecycle initial := by
  simp only [create, bind_eq_ok, guard_eq_ok, pure_eq_ok] at created
  obtain ⟨_, -, _, -, _, -, _, -, _, -, _, -, _, -, -, _, -, _, -, -, rfl⟩ := created
  constructor
  · constructor <;> simp
  · simp [ResolvedAway]
  · simp

/-- Fill calls do not touch the lifecycle. -/
theorem Lifecycle.observe {projection next : OrderProjection} {observation : FillCall}
    {accepted : Bool} (held : Lifecycle projection)
    (success : projection.observe observation = .ok (next, accepted)) : Lifecycle next := by
  rcases observe_cases success with rfl | ⟨candidate, rfl⟩ | ⟨fillId, revision, candidate, rfl⟩
  · exact held
  · exact { held with }
  · exact { held with }

/-- A rejection that an exclusive lifecycle accepts in time leaves it exclusive. -/
theorem Lifecycle.acknowledged {projection : OrderProjection}
    {outcome : SubmissionState} {attempt orderId : Option String} (held : Lifecycle projection)
    (final : projection.SubmissionClosed → outcome = projection.submissionState)
    (timely : outcome = .rejected → projection.SubmissionClosed ∨
      (projection.cancelled = false ∧ projection.expired = false)) :
    Lifecycle { projection with
      submissionAttemptId := attempt
      providerOrderId := orderId
      rejected := projection.rejected || outcome = .rejected
      submissionState := outcome } where
  rejectedAlone now := by
    simp only [Bool.or_eq_true, decide_eq_true_eq] at now
    rcases now with before | reported
    · exact held.rejectedAlone before
    · rcases timely reported with closed | unfinished
      · apply held.rejectedAlone
        apply held.submission
        rw [← final closed, reported]
      · exact unfinished
  cancelledAlone := held.cancelledAlone
  onePending := held.onePending
  confirmed := held.confirmed
  replacing := held.replacing
  resolvedAway := held.resolvedAway
  submission reported := by
    simp only [Bool.or_eq_true, decide_eq_true_eq]
    exact .inr reported

section Runs

variable [CaseMap]

/-- An `acknowledge` call that does not reject late keeps the invariant, also
when it raises after binding the attempt. -/
theorem Lifecycle.acknowledge {projection : OrderProjection}
    {providerOrderId attemptId : Option String} {status : String}
    (held : Lifecycle projection)
    (timely : ¬ projection.RejectsLate
      (.lifecycle (.acknowledge providerOrderId status attemptId))) :
    Lifecycle (projection.acknowledge providerOrderId status attemptId).1 := by
  -- The projection with the attempt bound differs in the attempt only.
  have accept : ∀ attempt next,
      (∀ value ∈ attemptId, ∃ bound, text value "attempt_id" = .ok bound ∧
        projection.AttemptFree bound) →
      acknowledgeBound { projection with submissionAttemptId := attempt }
        providerOrderId status = .ok next → Lifecycle next := by
    intro attempt next free result
    obtain ⟨orderId, orderText, outcome, parsed, same, final, rfl⟩ :=
      acknowledgeBound_eq_ok.mp result
    apply held.acknowledged final
    rintro rfl
    by_cases closed : projection.SubmissionClosed
    · exact .inl closed
    · right
      by_contra finished
      apply timely
      refine ⟨?_, closed, parsed, free, orderId, orderText, same⟩
      by_contra neither
      simp only [not_or, Bool.not_eq_true] at neither
      exact finished neither
  cases attemptId with
  | none =>
      simp only [OrderProjection.acknowledge]
      cases result : projection.acknowledgeBound providerOrderId status with
      | error error => exact held
      | ok next => exact accept projection.submissionAttemptId next (by simp) result
  | some value =>
      simp only [OrderProjection.acknowledge]
      cases binding : projection.bindSubmissionAttempt value with
      | error error => exact held
      | ok bound =>
          obtain ⟨attempt, attemptText, free, rfl⟩ := bindSubmissionAttempt_eq_ok.mp binding
          simp only
          split
          · exact { held with }
          next next result =>
            apply accept (some attempt) next _ result
            intro other member
            cases member
            exact ⟨attempt, attemptText, free⟩

/-- Any other lifecycle call keeps the invariant. -/
theorem Lifecycle.changes {projection next : OrderProjection} {request : LifecycleCall}
    (held : Lifecycle projection) (changes : Changes projection request next)
    (other : ∀ providerOrderId status attemptId,
      request ≠ .acknowledge providerOrderId status attemptId) : Lifecycle next := by
  cases changes with
  | same => exact held
  | bound free => exact { held with }
  | acknowledged parsed final => exact absurd rfl (other _ _ _)
  | cancelRequested vacant alone =>
      exact { held with
        onePending := fun _ => alone
        confirmed := fun finished => by simp [held.confirmed finished] }
  | cancelRejected unconfirmed =>
      exact { held with
        onePending := fun pending => by cases pending
        confirmed := fun finished => by simp [unconfirmed] at finished }
  | @replaceRequested commandId command unresolved alone =>
      exact { held with
        onePending := fun pending => by simp [alone] at pending
        replacing := by simp
        resolvedAway := fun resolved member same => by
          cases same
          exact unresolved member }
  | replaceRejected =>
      exact { held with
        onePending := fun _ => rfl
        replacing := by simp
        resolvedAway := fun _ _ => by simp }
  | expired open_ uncancelled =>
      exact { held with
        rejectedAlone := fun rejected => by simp [open_] at rejected
        cancelledAlone := fun finished => by simp [uncancelled] at finished }
  | cancelled open_ unexpired alone =>
      exact { held with
        rejectedAlone := fun rejected => by simp [open_] at rejected
        cancelledAlone := fun _ => unexpired
        onePending := fun _ => alone
        confirmed := fun _ => rfl }
  | ocoMarked => exact { held with }

/-- A call keeps the invariant unless it rejects the order late. -/
theorem Lifecycle.step {projection : OrderProjection} {invocation : Call}
    (held : Lifecycle projection) (timely : ¬ projection.RejectsLate invocation) :
    Lifecycle (projection.step invocation) := by
  cases invocation with
  | fill observation =>
      simp only [OrderProjection.step]
      split
      · exact held
      next next accepted success => exact held.observe success
  | lifecycle request =>
      by_cases acknowledging : ∃ providerOrderId status attemptId,
          request = .acknowledge providerOrderId status attemptId
      · obtain ⟨providerOrderId, status, attemptId, rfl⟩ := acknowledging
        exact held.acknowledge timely
      · apply held.changes (request_changes projection request)
        intro providerOrderId status attemptId same
        exact acknowledging ⟨providerOrderId, status, attemptId, same⟩

/-- A late rejection leaves the order with two outcomes. -/
theorem not_exclusive_of_rejectsLate {projection : OrderProjection} {invocation : Call}
    (late : projection.RejectsLate invocation) :
    ¬ (projection.step invocation).Exclusive := by
  cases invocation with
  | fill observation => exact absurd late id
  | lifecycle request =>
      cases request with
      | acknowledge providerOrderId status attemptId =>
          obtain ⟨finished, unclosed, parsed, free, orderId, orderText, same⟩ := late
          have accepted : ∀ attempt,
              acknowledgeBound { projection with submissionAttemptId := attempt }
                providerOrderId status = .ok { projection with
                  submissionAttemptId := attempt
                  providerOrderId := orderId.or projection.providerOrderId
                  rejected := projection.rejected || (SubmissionState.rejected = .rejected)
                  submissionState := .rejected } := by
            intro attempt
            rw [acknowledgeBound_eq_ok]
            exact ⟨orderId, orderText, .rejected, parsed, same,
              fun closed => absurd closed unclosed, rfl⟩
          have rejected : ∀ attempt, ¬ Exclusive { projection with
              submissionAttemptId := attempt
              providerOrderId := orderId.or projection.providerOrderId
              rejected := projection.rejected || (SubmissionState.rejected = .rejected)
              submissionState := .rejected } := by
            intro attempt exclusive
            obtain ⟨uncancelled, unexpired⟩ := exclusive.rejectedAlone (by simp)
            rcases finished with cancelled | expired
            · simp [cancelled] at uncancelled
            · simp [expired] at unexpired
          cases attemptId with
          | none =>
              have result := accepted projection.submissionAttemptId
              simp only [OrderProjection.step, request, acknowledge, result]
              exact rejected projection.submissionAttemptId
          | some value =>
              obtain ⟨attempt, attemptText, available⟩ := free value rfl
              have binding := bindSubmissionAttempt_eq_ok.mpr
                ⟨attempt, attemptText, available, rfl⟩
              simp only [OrderProjection.step, request, acknowledge, binding,
                accepted (some attempt)]
              exact rejected (some attempt)
      | _ => exact absurd late id

/-! ## Runs -/

/-- A replace command once resolved stays resolved. -/
theorem step_resolved {projection : OrderProjection} (invocation : Call) :
    projection.resolvedReplaceCommands ⊆
      (projection.step invocation).resolvedReplaceCommands := by
  cases invocation with
  | fill observation =>
      simp only [OrderProjection.step]
      split
      · exact List.Subset.refl _
      next next accepted success =>
        rcases observe_cases success with rfl | ⟨_, rfl⟩ | ⟨_, _, _, rfl⟩ <;>
          exact List.Subset.refl _
  | lifecycle request =>
      have changes := request_changes projection request
      simp only [OrderProjection.step]
      generalize (projection.request request).1 = next at changes
      cases changes with
      | replaceRejected =>
          intro command member
          exact List.mem_insert_of_mem member
      | _ => exact List.Subset.refl _

theorem run_resolved (projection : OrderProjection) (calls : List Call) :
    projection.resolvedReplaceCommands ⊆
      (projection.run calls).resolvedReplaceCommands := by
  induction calls generalizing projection with
  | nil => exact List.Subset.refl _
  | cons invocation rest ih =>
      exact List.Subset.trans (step_resolved invocation) (ih (projection.step invocation))

theorem run_append (projection : OrderProjection) (first second : List Call) :
    projection.run (first ++ second) = (projection.run first).run second := by
  simp only [run, List.foldl_append]

/-- The invariant holds all along a run in which no order is rejected late. -/
theorem Lifecycle.run {initial : OrderProjection} (held : Lifecycle initial)
    {calls : List Call}
    (timely : ∀ earlier invocation later, calls = earlier ++ invocation :: later →
      ¬ (initial.run earlier).RejectsLate invocation) : Lifecycle (initial.run calls) := by
  induction calls using List.reverseRecOn with
  | nil => exact held
  | append_singleton earlier invocation ih =>
      rw [run_append]
      apply Lifecycle.step
      · apply ih
        intro first middle rest split
        exact timely first middle (rest ++ [invocation]) (by rw [split]; simp)
      · exact timely earlier invocation [] rfl

/-- A run keeps its orders' outcomes and pending requests exclusive exactly when
no `acknowledge` call in it reports `REJECTED` for an order that is already
cancelled or expired while its submission is open. -/
theorem exclusive_iff {providerId accountId environmentName clientOrderId instrument
    sideName : String} {requestedQuantity : DecimalInput}
    {ocoGroupId parentIntentId : Option String} {initial : OrderProjection}
    (created : create providerId accountId environmentName clientOrderId instrument sideName
      requestedQuantity ocoGroupId parentIntentId = .ok initial) (calls : List Call) :
    Orderly initial calls ↔
      ∀ earlier invocation later, calls = earlier ++ invocation :: later →
        ¬ (initial.run earlier).RejectsLate invocation := by
  constructor
  · intro orderly earlier invocation later split late
    obtain ⟨exclusive, -⟩ := orderly (earlier ++ [invocation]) [] later (by simp [split])
    rw [run_append] at exclusive
    exact not_exclusive_of_rejectsLate late exclusive
  · intro timely earlier middle later split
    have held : ∀ reached rest, calls = reached ++ rest → Lifecycle (initial.run reached) := by
      intro reached rest divided
      apply (create_lifecycle created).run
      intro first invocation others inner
      exact timely first invocation (others ++ rest) (by rw [divided, inner]; simp)
    refine ⟨(held earlier (middle ++ later) (by rw [split]; simp)).toExclusive, ?_⟩
    intro command resolved
    apply (held (earlier ++ middle) later split).resolvedAway
    rw [run_append]
    exact run_resolved (initial.run earlier) middle resolved

end Runs

section Sample

attribute [local instance] CaseMap.ascii

def freshOrder : OrderProjection :=
  (create "alpaca" "account" "PAPER" "order-1" "ABC" "BUY" (.int 10) none none).toOption.get
    (by decide +kernel)

/-- An order rejected by the provider before anything else happened. -/
theorem rejected_in_time :
    Orderly freshOrder [.lifecycle (.acknowledge none "REJECTED" none)] := by
  apply (exclusive_iff (eq_ok_get (by decide +kernel)) _).mpr
  intro earlier invocation later split late
  cases earlier with
  | nil =>
      cases split
      obtain ⟨finished, -⟩ := late
      revert finished
      decide +kernel
  | cons first rest => simp at split

/-- A provider that confirms the cancellation of an order and then reports its
submission rejected leaves the order both cancelled and rejected. -/
theorem cancelled_and_rejected :
    ¬ ∀ (initial : OrderProjection) (calls : List Call),
      create "alpaca" "account" "PAPER" "order-1" "ABC" "BUY" (.int 10) none none =
          .ok initial → Orderly initial calls := by
  intro always
  have orderly := always freshOrder
    [.lifecycle .confirmCancel, .lifecycle (.acknowledge none "REJECTED" none)]
    (eq_ok_get (by decide +kernel))
  obtain ⟨exclusive, -⟩ := orderly
    [.lifecycle .confirmCancel, .lifecycle (.acknowledge none "REJECTED" none)] [] [] rfl
  have uncancelled := (exclusive.rejectedAlone (by decide +kernel)).1
  revert uncancelled
  decide +kernel

end Sample

end OrderProjection

end AutoTrade.Order
