import AutoTrade.Order.Statements

/-!
# Failed order operations

Which operations leave an order as it was where they raise.  The checks of every
operation but `acknowledge` come before its assignments.  A call of `acknowledge`
that raises after it bound the first submission attempt keeps the binding.
-/

namespace AutoTrade.Order

open Lib Numeric
open Lib.Mutation (Atomic Returns Reads checked self assign reads_checked reads_self
  returns_assign returns_pure atomic_map atomic_throw atomic_guard atomic_unless)

namespace Operation

/-! ## Operations whose checks come first -/

theorem atomic_bindSubmissionAttempt (attemptId : String) :
    Atomic (bindSubmissionAttempt attemptId) := by
  apply (reads_checked _).atomic_bind
  intro attempt
  apply reads_self.atomic_bind
  intro order
  apply atomic_unless
  exact (returns_assign _).atomic

theorem atomic_acknowledgeBound [CaseMap] (providerOrderId : Option String) (status : String) :
    Atomic (acknowledgeBound providerOrderId status) := by
  apply (reads_checked _).atomic_bind
  intro orderId
  apply (reads_checked _).atomic_bind
  intro normalized
  apply reads_self.atomic_bind
  intro order
  apply atomic_unless
  apply atomic_unless
  apply Returns.atomic
  apply (returns_assign _).bind
  intro _
  apply (returns_assign _).bind
  intro _
  exact returns_assign _

theorem atomic_recordFillRevision (candidate : FillRecord) :
    Atomic (recordFillRevision candidate) := by
  unfold recordFillRevision
  split
  next => exact (returns_pure ()).atomic
  next =>
    apply reads_self.atomic_bind
    intro order
    apply atomic_unless
    exact (returns_assign _).atomic

theorem atomic_recordNewFill (candidate : FillRecord) : Atomic (recordNewFill candidate) := by
  apply reads_self.atomic_bind
  intro order
  apply atomic_unless
  apply (atomic_recordFillRevision candidate).bind
  intro _
  apply (returns_assign _).bind
  intro _
  apply (returns_assign _).bind
  intro _
  apply (returns_assign _).bind
  intro _
  exact returns_pure true

theorem atomic_recordFill (fillId providerExecutionId : String) (quantity price : DecimalInput)
    (providerRevision : Option String) :
    Atomic (recordFill fillId providerExecutionId quantity price providerRevision) := by
  apply (reads_checked _).atomic_bind
  intro candidate
  apply reads_self.atomic_bind
  intro order
  split
  next => exact (returns_pure false).atomic
  next =>
    apply atomic_guard
    split
    next =>
      split
      next => exact (returns_pure false).atomic
      next => exact atomic_throw _
    next => exact atomic_recordNewFill candidate

theorem atomic_recordRevision (fillId revision : String) (candidate : FillRecord) :
    Atomic (recordRevision fillId revision candidate) := by
  apply reads_self.atomic_bind
  intro order
  split
  next =>
    split
    next => exact (returns_pure false).atomic
    next => exact atomic_throw _
  next =>
    apply atomic_unless
    apply Returns.atomic
    apply (returns_assign _).bind
    intro _
    apply (returns_assign _).bind
    intro _
    apply (returns_assign _).bind
    intro _
    exact returns_pure true

theorem atomic_applyRevision (fillId : String) (quantity price : Decimal) (active : Bool)
    (providerRevision : String) (correctionFillId : Option String) :
    Atomic (applyRevision fillId quantity price active providerRevision correctionFillId) := by
  apply (reads_checked _).atomic_bind
  intro fid
  apply reads_self.atomic_bind
  intro order
  split
  next => exact atomic_throw _
  next =>
    apply (reads_checked _).atomic_bind
    intro revision
    apply (reads_checked _).atomic_bind
    intro correction
    exact atomic_recordRevision _ _ _

theorem atomic_observe (observation : FillCall) : Atomic (observe observation) := by
  cases observation with
  | recordFill => exact atomic_recordFill _ _ _ _ _
  | correctFill =>
      apply (reads_checked _).atomic_bind
      intro fid
      apply reads_self.atomic_bind
      intro order
      split
      next => exact atomic_throw _
      next =>
        apply (reads_checked _).atomic_bind
        intro qty
        apply (reads_checked _).atomic_bind
        intro px
        apply atomic_unless
        exact atomic_applyRevision _ _ _ _ _ _
  | bustFill =>
      apply (reads_checked _).atomic_bind
      intro fid
      apply reads_self.atomic_bind
      intro order
      split
      next => exact atomic_throw _
      next => exact atomic_applyRevision _ _ _ _ _ _

theorem atomic_requestCancel (commandId : String) : Atomic (requestCancel commandId) := by
  apply (reads_checked _).atomic_bind
  intro command
  apply reads_self.atomic_bind
  intro order
  split
  next => exact (returns_pure ()).atomic
  next =>
    apply atomic_guard
    apply atomic_guard
    apply atomic_guard
    apply Returns.atomic
    apply (returns_assign _).bind
    intro _
    exact returns_assign _

theorem atomic_rejectCancel (commandId reasonCode : String) :
    Atomic (rejectCancel commandId reasonCode) := by
  apply (reads_checked _).atomic_bind
  intro command
  apply (reads_checked _).atomic_bind
  intro _
  apply reads_self.atomic_bind
  intro order
  apply atomic_guard
  apply atomic_guard
  apply atomic_guard
  apply Returns.atomic
  apply (returns_assign _).bind
  intro _
  exact returns_assign _

theorem atomic_requestReplace (commandId : String) : Atomic (requestReplace commandId) := by
  apply (reads_checked _).atomic_bind
  intro command
  apply reads_self.atomic_bind
  intro order
  apply atomic_guard
  split
  next => exact (returns_pure ()).atomic
  next =>
    apply atomic_guard
    apply atomic_guard
    apply atomic_guard
    apply (reads_checked _).atomic_bind
    intro filled
    apply atomic_unless
    apply Returns.atomic
    apply (returns_assign _).bind
    intro _
    exact returns_assign _

theorem atomic_rejectReplace (commandId reasonCode : String) :
    Atomic (rejectReplace commandId reasonCode) := by
  apply (reads_checked _).atomic_bind
  intro command
  apply (reads_checked _).atomic_bind
  intro _
  apply reads_self.atomic_bind
  intro order
  apply atomic_guard
  apply atomic_guard
  apply Returns.atomic
  apply (returns_assign _).bind
  intro _
  apply (returns_assign _).bind
  intro _
  exact returns_assign _

theorem atomic_confirmExpired : Atomic confirmExpired := by
  apply reads_self.atomic_bind
  intro order
  apply atomic_guard
  apply atomic_guard
  exact (returns_assign _).atomic

theorem atomic_confirmCancel : Atomic confirmCancel := by
  apply reads_self.atomic_bind
  intro order
  apply atomic_guard
  apply atomic_guard
  apply Returns.atomic
  apply (returns_assign _).bind
  intro _
  exact returns_assign _

theorem atomic_markOcoPeerFilled : Atomic markOcoPeerFilled := by
  apply reads_self.atomic_bind
  intro order
  apply atomic_unless
  apply (reads_checked _).atomic_bind
  intro filled
  exact (returns_assign _).atomic

/-! ## Calls -/

theorem atomic_request [CaseMap] (invocation : LifecycleCall)
    (other : ∀ providerOrderId status attempt,
      invocation ≠ .acknowledge providerOrderId status (some attempt)) :
    Atomic (request invocation) := by
  cases invocation with
  | markSendStarted attemptId => exact atomic_bindSubmissionAttempt attemptId
  | acknowledge providerOrderId status attemptId =>
      cases attemptId with
      | none => exact atomic_acknowledgeBound providerOrderId status
      | some attempt => exact absurd rfl (other providerOrderId status attempt)
  | requestCancel => exact atomic_requestCancel _
  | rejectCancel => exact atomic_rejectCancel _ _
  | requestReplace => exact atomic_requestReplace _
  | rejectReplace => exact atomic_rejectReplace _ _
  | confirmExpired => exact atomic_confirmExpired
  | confirmCancel => exact atomic_confirmCancel
  | markOcoPeerFilled => exact atomic_markOcoPeerFilled

/-- The statements of `acknowledge` after the attempt is bound return. -/
def Acknowledges [CaseMap] (order : OrderProjection) (providerOrderId : Option String)
    (status : String) : Prop :=
  ∃ orderId, optionalText providerOrderId "provider_order_id" = .ok orderId ∧
    ∃ outcome, OrderProjection.submissionStatus status = .ok outcome ∧
      (orderId = none ∨ order.providerOrderId = none ∨ order.providerOrderId = orderId) ∧
        (order.SubmissionClosed → outcome = order.submissionState)

/-- The call binds the first attempt of the order and then refuses its other
arguments. -/
def HalfBinds [CaseMap] (order : OrderProjection) : Call → Prop
  | .lifecycle (.acknowledge providerOrderId status (some attempt)) =>
      strip attempt ≠ "" ∧ order.submissionAttemptId = none ∧
        ¬ Acknowledges order providerOrderId status
  | _ => False

theorem text_eq_ok {value name normalized : String} :
    text value name = .ok normalized ↔ strip value ≠ "" ∧ strip value = normalized := by
  simp only [text, guard_eq_ok, Except.ok.injEq]

section Calls

variable [CaseMap] {order : OrderProjection}

theorem acknowledges_iff {providerOrderId : Option String} {status : String} :
    Acknowledges order providerOrderId status ↔
      ∃ next, order.acknowledgeBound providerOrderId status = .ok next := by
  simp only [OrderProjection.acknowledgeBound_eq_ok, Acknowledges]
  constructor
  · rintro ⟨orderId, named, outcome, parsed, same, final⟩
    exact ⟨_, orderId, named, outcome, parsed, same, final, rfl⟩
  · rintro ⟨_, orderId, named, outcome, parsed, same, final, -⟩
    exact ⟨orderId, named, outcome, parsed, same, final⟩

/-- A call of `acknowledge` with an attempt keeps the order where it raises, unless
it binds the first attempt before. -/
theorem acknowledge_unchanged_iff {providerOrderId : Option String} {status attempt : String} :
    (∀ error after, (acknowledge providerOrderId status (some attempt)).on order =
        (.error error, after) → after = order) ↔
      ¬ (strip attempt ≠ "" ∧ order.submissionAttemptId = none ∧
        ¬ Acknowledges order providerOrderId status) := by
  simp only [acknowledge_on, answered, OrderProjection.acknowledge]
  cases binding : order.bindSubmissionAttempt attempt with
  | error error =>
      refine iff_of_true (fun _ after raised => (Prod.mk.inj raised).2.symm) ?_
      rintro ⟨present, unbound, -⟩
      have bound := OrderProjection.bindSubmissionAttempt_eq_ok.mpr
        ⟨strip attempt, text_eq_ok.mpr ⟨present, rfl⟩, .inl unbound, rfl⟩
      rw [binding] at bound
      cases bound
  | ok bound =>
      obtain ⟨normalized, read, free, same⟩ :=
        OrderProjection.bindSubmissionAttempt_eq_ok.mp binding
      obtain ⟨present, -⟩ := text_eq_ok.mp read
      have kept : Acknowledges bound providerOrderId status ↔
          Acknowledges order providerOrderId status := by
        rw [← same]
        exact Iff.rfl
      rw [← kept, acknowledges_iff]
      dsimp only
      cases outcome : bound.acknowledgeBound providerOrderId status with
      | ok next =>
          refine iff_of_true (fun _ _ raised => by cases raised) ?_
          rintro ⟨-, -, refused⟩
          exact refused ⟨next, rfl⟩
      | error error =>
          have refused : ¬ ∃ next, (.error error : Except OrderError OrderProjection) =
              .ok next := by
            rintro ⟨_, raised⟩
            cases raised
          constructor
          · rintro unchanged ⟨-, unbound, -⟩
            have attempts := congrArg OrderProjection.submissionAttemptId (unchanged error _ rfl)
            rw [← same, unbound] at attempts
            cases attempts
          · intro whole _ after raised
            rw [← (Prod.mk.inj raised).2, ← same]
            rcases free with unbound | already
            · exact absurd ⟨present, unbound, refused⟩ whole
            · rw [← already]

/-- A call that raises leaves the order as it was, unless it is an
acknowledgement that binds the first attempt and then refuses its other
arguments. -/
theorem failed_call_unchanged_iff (order : OrderProjection) (call : Call) :
    (∀ error after, (perform call).on order = (.error error, after) → after = order) ↔
      ¬ HalfBinds order call := by
  cases call with
  | fill observation =>
      have atomic := atomic_map some (atomic_observe observation)
      exact iff_of_true (fun error after raised => atomic order error after raised) id
  | lifecycle invocation =>
      by_cases half : ∃ providerOrderId status attempt,
          invocation = .acknowledge providerOrderId status (some attempt)
      · obtain ⟨providerOrderId, status, attempt, rfl⟩ := half
        refine Iff.trans ?_ acknowledge_unchanged_iff
        simp only [perform, request, map_eq_pure_bind, Mutation.on_bind]
        cases (acknowledge providerOrderId status (some attempt)).on order with
        | mk result after => cases result <;> simp
      · have other : ∀ providerOrderId status attempt,
            invocation ≠ .acknowledge providerOrderId status (some attempt) :=
          fun providerOrderId status attempt same => half ⟨_, _, _, same⟩
        have atomic := atomic_map (fun _ => (none : Option Bool)) (atomic_request invocation other)
        refine iff_of_true (fun error after raised => atomic order error after raised) ?_
        intro halves
        cases invocation with
        | acknowledge providerOrderId status attemptId =>
            cases attemptId with
            | none => exact halves
            | some attempt => exact other _ _ _ rfl
        | _ => exact halves

end Calls

/-! ## An acknowledgement with an unknown status -/

section Sample

attribute [local instance] CaseMap.ascii

/-- An acknowledgement with an attempt and an unknown status. -/
def unknownStatus : Call := .lifecycle (.acknowledge none "BOGUS" (some "attempt-1"))

/-- The call raises and leaves the attempt bound to a new order. -/
theorem failed_acknowledgement_binds :
    (OrderProjection.create "alpaca" "account" "PAPER" "order-1" "ABC" "BUY" (.int 10) none none).map
        (fun order => (order.submissionAttemptId, ((perform unknownStatus).on order).1,
          ((perform unknownStatus).on order).2.submissionAttemptId)) =
      .ok (none, .error (.valueError "unsupported submission status"), some "attempt-1") := by
  decide +kernel

end Sample

end Operation

end AutoTrade.Order
