import AutoTrade.Recovery.ClockRuns
import AutoTrade.Recovery.Effects

/-!
# Host readiness

In every state that calls reach, READY implies the conditions of readiness, as
long as no recovery scan of a READY controller is interrupted after it recovered
an attempt.  An attempt that is noted or recovered stays unresolved until a call
releases it.
-/

namespace AutoTrade.Recovery

open Lib Store

/-- What READY stands for. -/
structure Ready (controller : RecoveryController) : Prop where
  owned : controller.owner ≠ none
  writable : controller.storageWritable = true
  trusted : controller.clockTrusted = true
  reconciled : controller.providerReconciled = true
  settled : controller.unresolvedAttempts = ∅
  started : ReasonCode.startupReconciliationRequired ∉ controller.reasonCodes
  leased : ReasonCode.leaseExpiredNoFailover ∉ controller.reasonCodes

/-- READY implies its conditions. -/
def Sound (controller : RecoveryController) : Prop := controller.state = .ready → Ready controller

/-- Every unresolved send is an unresolved attempt. -/
def Listed (controller : RecoveryController) : Prop :=
  controller.unresolvedSendAttempts ⊆ controller.unresolvedAttempts

/-- The attempt is an unresolved send, with the binding it has. -/
structure Holds (attemptId : String) (binding : Option SendBinding)
    (controller : RecoveryController) : Prop where
  sent : attemptId ∈ controller.unresolvedSendAttempts
  bound : ∀ known ∈ binding, controller.unresolvedSendBindings.get? attemptId = some known

section Fields

variable {controller next : RecoveryController}

/-- `_recompute_state` assigns READY only under its conditions. -/
theorem ready_of_recomputeState (ready : controller.recomputeState.state = .ready) :
    Ready controller.recomputeState := by
  simp only [RecoveryController.recomputeState, RecoveryController.computedState] at ready
  split at ready
  next => cases ready
  next owned =>
    split at ready
    next => cases ready
    next writable =>
      split at ready
      next => cases ready
      next trusted =>
        split at ready
        next => cases ready
        next settled =>
          split at ready
          next => cases ready
          next leased =>
            split at ready
            next established =>
              have stored : controller.storageWritable = true := by simpa using writable
              have running : controller.clockTrusted = true := by simpa using trusted
              have none : controller.unresolvedAttempts = ∅ := by simpa using settled
              exact ⟨owned, stored, running, established.1, none, established.2, leased⟩
            next => cases ready

theorem not_ready_of_mem {attemptId : String}
    (unresolved : attemptId ∈ controller.unresolvedAttempts) : ¬ Ready controller := by
  intro ready
  rw [ready.settled] at unresolved
  exact absurd unresolved (Finset.notMem_empty attemptId)

/-- Fields that are not READY. -/
theorem sound_of_ne_ready (other : controller.state ≠ .ready) : Sound controller :=
  fun ready => absurd ready other

theorem Holds.bind {attemptId other : String} {binding : Option SendBinding} {known : SendBinding}
    (holds : Holds attemptId binding controller) (agrees : ¬ controller.Conflicts other known) :
    Holds attemptId binding (controller.bound other known) := by
  constructor
  · exact Finset.mem_insert_of_mem holds.sent
  · intro stored member
    have bound := holds.bound stored member
    by_cases same : other = attemptId
    · subst same
      have equal : stored = known := by
        by_contra differs
        exact agrees ⟨stored, bound, differs⟩
      rw [equal]
      exact Dict.get?_set_self _ _ _
    · rw [← bound]
      exact Dict.get?_set_of_ne _ known same

theorem Listed.recoverFinding {found : Finding} {recovered after : Finset String}
    (listed : Listed controller)
    (success : controller.recoverFinding found recovered = .ok (next, after)) : Listed next := by
  rcases recoverFinding_eq_ok success with ⟨-, rfl, -⟩ | ⟨key, -, -, rfl⟩ |
    ⟨attemptId, binding, identity, -, -, -, rfl⟩
  · exact listed
  · exact Finset.insert_subset_insert key listed
  · exact Finset.insert_subset_insert attemptId listed

theorem Holds.recoverFinding {attemptId : String} {binding : Option SendBinding} {found : Finding}
    {recovered after : Finset String} (holds : Holds attemptId binding controller)
    (success : controller.recoverFinding found recovered = .ok (next, after)) :
    Holds attemptId binding next := by
  rcases recoverFinding_eq_ok success with ⟨-, rfl, -⟩ | ⟨key, -, -, rfl⟩ |
    ⟨other, known, identity, -, agrees, -, rfl⟩
  · exact holds
  · exact ⟨Finset.mem_insert_of_mem holds.sent, holds.bound⟩
  · have bound := holds.bind agrees
    exact ⟨bound.sent, bound.bound⟩

/-! ## Scans -/

section Scans

variable {scope : SubmissionScope} {groups : List (String × List SubmissionRow)}
  {recovered : Finset String} [Fingerprint] [CaseMap]

/-- The scan raises at this attempt. -/
def Rejected (controller : RecoveryController) (scope : SubmissionScope)
    (group : String × List SubmissionRow) : Prop :=
  (∃ error, finding scope group.1 group.2 = .error error) ∨
    ∃ attemptId binding identity,
      finding scope group.1 group.2 = .ok (.ambiguous attemptId binding identity) ∧
        controller.Conflicts attemptId binding

/-- No ambiguous attempt precedes the first attempt that the scan rejects. -/
def Orderly (controller : RecoveryController) (scope : SubmissionScope)
    (groups : List (String × List SubmissionRow)) : Prop :=
  ∀ before group after, groups = before ++ group :: after →
    (∀ earlier ∈ before, ¬ Rejected controller scope earlier) → Rejected controller scope group →
      ∀ earlier ∈ before, finding scope earlier.1 earlier.2 = .ok .settled

/-- What every finding preserves the scan preserves, also when it raises. -/
theorem recoverGroups_induction (holds : RecoveryController → Prop)
    (step : ∀ {controller next : RecoveryController} {found : Finding}
      {recovered after : Finset String}, holds controller →
        controller.recoverFinding found recovered = .ok (next, after) → holds next)
    (start : holds controller) :
    holds (RecoveryController.recoverGroups scope groups controller recovered).1 := by
  induction groups generalizing controller recovered with
  | nil => exact start
  | cons group rest ih =>
      rw [RecoveryController.recoverGroups]
      split
      next => exact start
      next found _ =>
        split
        next => exact start
        next next after success => exact ih (step start success)

/-- A finding binds at most the attempt of its own aggregate. -/
theorem conflicts_of_recoverFinding {group : String × List SubmissionRow} {found : Finding}
    {after : Finset String} {attemptId : String} {binding : SendBinding}
    (examined : finding scope group.1 group.2 = .ok found)
    (success : controller.recoverFinding found recovered = .ok (next, after))
    (conflicts : next.Conflicts attemptId binding) :
    controller.Conflicts attemptId binding ∨
      (Dispatch.attemptAggregate scope.environment scope.accountId attemptId).aggregateId =
        group.1 := by
  rcases recoverFinding_eq_ok success with ⟨-, rfl, -⟩ | ⟨_, _, _, rfl⟩ |
    ⟨other, bound, identity, rfl, -, -, rfl⟩
  · exact Or.inl conflicts
  · exact Or.inl conflicts
  · obtain ⟨existing, stored, differs⟩ := conflicts
    by_cases same : other = attemptId
    · exact Or.inr (same ▸ aggregateId_of_ambiguous examined)
    · left
      refine ⟨existing, ?_, differs⟩
      rw [← Dict.get?_set_of_ne controller.unresolvedSendBindings bound same]
      exact stored

/-- An attempt that the scan does not reject is recovered. -/
theorem exists_recoverFinding {group : String × List SubmissionRow}
    (passed : ¬ Rejected controller scope group) :
    ∃ found, finding scope group.1 group.2 = .ok found ∧
      ∀ recovered, ∃ next after,
        controller.recoverFinding found recovered = .ok (next, after) := by
  rw [Rejected, not_or] at passed
  cases examined : finding scope group.1 group.2 with
  | error error => exact absurd ⟨error, examined⟩ passed.1
  | ok found =>
      refine ⟨found, rfl, ?_⟩
      intro recovered
      cases found with
      | settled => exact ⟨_, _, rfl⟩
      | legacy key => exact ⟨_, _, rfl⟩
      | ambiguous attemptId binding identity =>
          have agrees : ¬ controller.Conflicts attemptId binding := fun conflicts =>
            passed.2 ⟨attemptId, binding, identity, examined, conflicts⟩
          exact ⟨_, _, if_neg agrees⟩

/-- A scan that rejects no attempt returns. -/
theorem recoverGroups_eq_ok (recovered : Finset String)
    (distinct : (groups.map Prod.fst).Nodup)
    (passed : ∀ group ∈ groups, ¬ Rejected controller scope group) :
    ∃ next after,
      RecoveryController.recoverGroups scope groups controller recovered = (next, .ok after) := by
  induction groups generalizing controller recovered with
  | nil => exact ⟨_, _, rfl⟩
  | cons group rest ih =>
      rw [List.map_cons, List.nodup_cons] at distinct
      obtain ⟨found, examined, recovers⟩ := exists_recoverFinding (passed group List.mem_cons_self)
      obtain ⟨next, after, success⟩ := recovers recovered
      simp only [RecoveryController.recoverGroups, examined, success]
      apply ih _ distinct.2
      intro other member rejected
      apply passed other (List.mem_cons_of_mem group member)
      rcases rejected with raises | ⟨attemptId, binding, identity, ambiguous, conflicts⟩
      · exact Or.inl raises
      · right
        refine ⟨attemptId, binding, identity, ambiguous, ?_⟩
        rcases conflicts_of_recoverFinding examined success conflicts with before | same
        · exact before
        · -- the two attempts would be one aggregate
          rw [aggregateId_of_ambiguous ambiguous] at same
          exact absurd (List.mem_map.mpr ⟨other, member, same⟩) distinct.1

/-- A rejected attempt is raised at. -/
theorem recoverGroups_of_rejected {group : String × List SubmissionRow}
    (groups : List (String × List SubmissionRow)) (recovered : Finset String)
    (rejected : Rejected controller scope group) :
    ∃ error, RecoveryController.recoverGroups scope (group :: groups) controller recovered =
      (controller, .error error) := by
  rw [RecoveryController.recoverGroups]
  rcases rejected with ⟨error, raises⟩ | ⟨attemptId, binding, identity, ambiguous, conflicts⟩
  · rw [raises]
    exact ⟨error, rfl⟩
  · have raised : controller.recoverFinding (.ambiguous attemptId binding identity) recovered =
        .error (.runtime "Durable ambiguous submission conflicts with recovered identity") :=
      if_pos conflicts
    simp only [ambiguous, raised]
    exact ⟨_, rfl⟩

/-- An orderly scan that raises leaves the fields as they are. -/
theorem Orderly.recoverGroups_eq (orderly : Orderly controller scope groups)
    (distinct : (groups.map Prod.fst).Nodup) {error : RecoveryError}
    (failed : RecoveryController.recoverGroups scope groups controller recovered =
      (next, .error error)) : next = controller := by
  induction groups generalizing recovered with
  | nil => cases failed
  | cons group rest ih =>
      by_cases rejected : Rejected controller scope group
      · obtain ⟨_, raised⟩ := recoverGroups_of_rejected rest recovered rejected
        rw [raised] at failed
        cases failed
        rfl
      · obtain ⟨found, examined, recovers⟩ := exists_recoverFinding rejected
        by_cases settled : found = .settled
        · subst settled
          rw [RecoveryController.recoverGroups, examined] at failed
          apply ih _ (List.nodup_cons.mp distinct).2 failed
          intro before other after split passed first earlier member
          have both := orderly (group :: before) other after (by rw [split]; rfl)
            (List.forall_mem_cons.mpr ⟨rejected, passed⟩) first
          exact both earlier (List.mem_cons_of_mem group member)
        · -- then no later attempt is rejected, so the scan returns
          have passed : ∀ other ∈ group :: rest, ¬ Rejected controller scope other := by
            by_contra some
            push Not at some
            classical
            obtain ⟨other, member, raises⟩ := some
            have searched : ((group :: rest).find? fun other =>
                decide (Rejected controller scope other)).isSome := by
              rw [List.find?_isSome]
              exact ⟨other, member, decide_eq_true raises⟩
            obtain ⟨first, located⟩ := Option.isSome_iff_exists.mp searched
            rw [List.find?_eq_some_iff_append] at located
            obtain ⟨holds, before, after, split, none⟩ := located
            cases before with
            | nil =>
                cases split
                exact rejected (of_decide_eq_true holds)
            | cons head before =>
                cases split
                have all := orderly (group :: before) first after rfl
                  (fun earlier listed => by simpa using none earlier listed)
                  (of_decide_eq_true holds) group List.mem_cons_self
                rw [examined] at all
                exact settled (Except.ok.inj all)
          obtain ⟨_, _, returned⟩ := recoverGroups_eq_ok recovered distinct passed
          rw [returned] at failed
          cases failed

/-- The scan adds to the attempts it recovered. -/
theorem subset_of_recoverGroups {after : Finset String}
    (success : RecoveryController.recoverGroups scope groups controller recovered =
      (next, .ok after)) : recovered ⊆ after ∧ (after = ∅ → next = controller) := by
  induction groups generalizing controller recovered with
  | nil =>
      cases success
      exact ⟨Finset.Subset.refl _, fun _ => rfl⟩
  | cons group rest ih =>
      rw [RecoveryController.recoverGroups] at success
      split at success
      next => cases success
      next found _ =>
        split at success
        next => cases success
        next middle added step =>
          obtain ⟨subset, same⟩ := ih success
          have fresh : ∀ key, added = insert key recovered → recovered ⊆ after ∧ after ≠ ∅ := by
            rintro key rfl
            rw [Finset.insert_subset_iff] at subset
            exact ⟨subset.2, Finset.ne_empty_of_mem subset.1⟩
          rcases recoverFinding_eq_ok step with ⟨-, rfl, rfl⟩ | ⟨key, -, grown, -⟩ |
            ⟨attemptId, _, _, -, -, grown, -⟩
          · exact ⟨subset, same⟩
          · exact ⟨(fresh key grown).1, fun none => absurd none (fresh key grown).2⟩
          · exact ⟨(fresh attemptId grown).1, fun none => absurd none (fresh attemptId grown).2⟩

/-- The attempts that a scan returns are unresolved sends. -/
theorem sent_of_recoverGroups {after : Finset String}
    (sent : recovered ⊆ controller.unresolvedSendAttempts)
    (success : RecoveryController.recoverGroups scope groups controller recovered =
      (next, .ok after)) : after ⊆ next.unresolvedSendAttempts := by
  induction groups generalizing controller recovered with
  | nil =>
      cases success
      exact sent
  | cons group rest ih =>
      rw [RecoveryController.recoverGroups] at success
      split at success
      next => cases success
      next found _ =>
        split at success
        next => cases success
        next middle added step =>
          apply ih _ success
          rcases recoverFinding_eq_ok step with ⟨-, rfl, rfl⟩ | ⟨key, -, rfl, rfl⟩ |
            ⟨attemptId, _, _, -, -, rfl, rfl⟩
          · exact sent
          · exact Finset.insert_subset_insert key sent
          · exact Finset.insert_subset_insert attemptId sent

theorem state_recoverGroups (scope : SubmissionScope) (controller : RecoveryController)
    (groups : List (String × List SubmissionRow)) (recovered : Finset String) :
    (RecoveryController.recoverGroups scope groups controller recovered).1.state =
      controller.state := by
  apply recoverGroups_induction (fun fields => fields.state = controller.state) _ rfl
  intro fields next found recovered after same success
  rcases recoverFinding_eq_ok success with ⟨-, rfl, -⟩ | ⟨_, -, -, rfl⟩ |
    ⟨_, _, _, -, -, -, rfl⟩
  · exact same
  · exact same
  · exact same

/-- What every finding and the last statements of a scan preserve. -/
theorem recoverRows_induction (holds : RecoveryController → Prop) {rows : List SubmissionRow}
    (step : ∀ {controller next : RecoveryController} {found : Finding}
      {recovered after : Finset String}, holds controller →
        controller.recoverFinding found recovered = .ok (next, after) → holds next)
    (finish : ∀ {controller : RecoveryController}, holds controller →
      holds (RecoveryController.recomputeState { controller with
        providerReconciled := false
        reasonCodes := controller.reasonCodes ∪ {.providerUncertainty} }))
    (start : holds controller) : holds (controller.recoverRows scope rows).1 := by
  have scanned : holds (RecoveryController.recoverGroups scope (grouped rows).entries controller
      ∅).1 := recoverGroups_induction holds step start
  rw [RecoveryController.recoverRows]
  split
  next next error failed =>
    rw [failed] at scanned
    exact scanned
  next next recovered success =>
    rw [success] at scanned
    split
    next => exact scanned
    next => exact finish scanned

/-- A scan keeps READY sound unless it is interrupted on a READY controller after
it recovered an attempt. -/
theorem Sound.recoverRows {rows : List SubmissionRow} (sound : Sound controller)
    (orderly : controller.state = .ready → Orderly controller scope (grouped rows).entries) :
    Sound (controller.recoverRows scope rows).1 := by
  have state := state_recoverGroups scope controller (grouped rows).entries ∅
  rw [RecoveryController.recoverRows]
  split
  next next error failed =>
    rw [failed] at state
    intro ready
    have same := (orderly (state ▸ ready)).recoverGroups_eq (grouped rows).nodup failed
    rw [same] at ready ⊢
    exact sound ready
  next next recovered success =>
    split
    next none =>
      rw [(subset_of_recoverGroups success).2 none]
      exact sound
    next => exact ready_of_recomputeState

end Scans

/-! ## Operations -/

theorem sound_withStorage (writable : Bool) : Sound (controller.withStorage writable) := by
  rw [RecoveryController.withStorage]
  split
  · exact ready_of_recomputeState
  · exact ready_of_recomputeState

theorem sound_withClock (trusted : Bool) : Sound (controller.withClock trusted) := by
  rw [RecoveryController.withClock]
  split
  · exact ready_of_recomputeState
  · exact ready_of_recomputeState

theorem Sound.leaseExpired (sound : Sound controller) : Sound controller.leaseExpired := by
  rw [RecoveryController.leaseExpired]
  split
  next => exact sound
  next =>
    apply sound_of_ne_ready
    by_cases ready : controller.state = .ready
    · simp [ready]
    · simp [ready]

theorem noted_eq_ok {attempt : OutboundAttempt} (success : controller.noted attempt = .ok next) :
    ¬ controller.Conflicts attempt.attemptId
        ⟨attempt.intentId, attempt.ownerEpoch, attempt.evidence⟩ ∧
      next = RecoveryController.recomputeState { controller.bound attempt.attemptId
        ⟨attempt.intentId, attempt.ownerEpoch, attempt.evidence⟩ with
          providerReconciled := false
          reasonCodes := controller.reasonCodes ∪ {.providerUncertainty} } := by
  simp only [RecoveryController.noted, throw_unless_eq_ok, pure_eq_ok] at success
  obtain ⟨_, _, agrees, rfl⟩ := success
  exact ⟨agrees, rfl⟩

/-- A resolution that `resolve_attempt` accepts. -/
structure Resolved (binding : SendBinding) (attempt : OutboundAttempt) : Prop where
  terminal : attempt.phase ∈ [SendPhase.acknowledged, .rejected, .provenAbsent]
  intent : attempt.intentId = binding.intentId
  epoch : attempt.ownerEpoch = binding.ownerEpoch
  evidence : binding.evidence <+: attempt.evidence
  new : binding.evidence.length < attempt.evidence.length

theorem resolved_eq_ok {attempt : OutboundAttempt}
    (success : controller.resolved attempt = .ok next) :
    ∃ binding, controller.unresolvedSendBindings.get? attempt.attemptId = some binding ∧
      Resolved binding attempt ∧ next = controller.released attempt.attemptId := by
  rw [RecoveryController.resolved, guard_eq_ok, not_not] at success
  obtain ⟨terminal, success⟩ := success
  split at success
  next => cases success
  next binding bound =>
    rw [guard_eq_ok, guard_eq_ok, guard_eq_ok, guard_eq_ok, not_or, not_ne_iff, not_ne_iff,
      not_ne_iff, not_le] at success
    obtain ⟨⟨intent, epoch⟩, evidence, new, _, success⟩ := success
    exact ⟨binding, bound, ⟨terminal, intent, epoch, evidence ▸ List.take_prefix _ _, new⟩,
      (Except.ok.inj success).symm⟩

theorem reconciled_eq_ok {consistent : Bool} {uncertainty : List String}
    (success : controller.reconciled consistent uncertainty = .ok next) :
    ∃ reported consistent, next = RecoveryController.recomputeState { controller with
      unresolvedAttempts := controller.unresolvedSendAttempts ∪ reported
      providerReconciled := consistent
      reasonCodes := controller.reconciledCodes consistent } := by
  simp only [RecoveryController.reconciled, throw_unless_eq_ok, pure_eq_ok] at success
  obtain ⟨_, _, _, rfl⟩ := success
  exact ⟨_, _, rfl⟩

theorem transferred_eq_ok {newOwnerId : String} {oldSenderFenced consistent : Bool}
    (success : controller.transferred newOwnerId oldSenderFenced consistent = .ok next) :
    next.state = .recovering ∧ next.unresolvedSendAttempts = controller.unresolvedSendAttempts ∧
      next.unresolvedAttempts = controller.unresolvedAttempts ∧
      next.unresolvedSendBindings = controller.unresolvedSendBindings := by
  rw [RecoveryController.transferred] at success
  split at success
  next => cases success
  next =>
    simp only [guard_eq_ok, Except.ok.injEq] at success
    obtain ⟨_, _, _, _, _, rfl⟩ := success
    exact ⟨rfl, rfl, rfl, rfl⟩

/-! ## Checkpoints -/

section Checkpoints

variable [CaseMap] {payload : CheckpointPayload} {identities : Dict String RecoveredIdentity}

/-- The checkpoint carries a terminal resolution of the attempt with its whole
identity. -/
def Terminal (payload : CheckpointPayload) (attemptId : String) (identity : RecoveredIdentity) :
    Prop :=
  ∃ resolution ∈ payload.submissionResolutions, resolution.attemptId.map strip = some attemptId ∧
    upper (strip resolution.outcome) ∈ terminalOutcomes ∧ Resolves payload resolution identity

theorem checkedOutcome_eq_ok {resolution : CheckpointResolution} {outcome : String}
    (success : checkedOutcome resolution = .ok outcome) :
    outcome = upper (strip resolution.outcome) := by
  simp only [checkedOutcome, throw_unless_eq_ok, pure_eq_ok] at success
  obtain ⟨_, _, _, _, _, _, _, rfl⟩ := success
  rfl

/-- Only a terminal resolution with the identity of an attempt resolves it. -/
theorem terminal_of_checkpointVerdict {verdict : ResolutionVerdict}
    (collected : checkpointVerdict payload identities = .ok verdict) :
    ∀ attemptId ∈ verdict.terminallyResolved, ∃ identity,
      identities.get? attemptId = some identity ∧ Terminal payload attemptId identity := by
  rw [checkpointVerdict, throw_unless_eq_ok] at collected
  apply foldlM_invariant (fun verdict : ResolutionVerdict =>
    ∀ attemptId ∈ verdict.terminallyResolved, ∃ identity,
      identities.get? attemptId = some identity ∧ Terminal payload attemptId identity) _ _
    collected.2
  · intro resolution member before after resolved step
    rw [resolutionStep, bind_eq_ok] at step
    obtain ⟨outcome, checked, step⟩ := step
    have normalized := checkedOutcome_eq_ok checked
    cases found : resolution.attemptId.bind fun _ =>
        identities.get? (strip (resolution.attemptId.getD "")) with
    | none =>
        simp only [found, pure_eq_ok] at step
        rw [← step]
        exact resolved
    | some identity =>
        simp only [found, throw_unless_eq_ok, not_not, pure_eq_ok] at step
        obtain ⟨_, resolves, rfl⟩ := step
        rw [Option.bind_eq_some_iff] at found
        obtain ⟨text, named, found⟩ := found
        intro attemptId listed
        simp only at listed
        split at listed
        next terminal =>
          rw [Finset.mem_insert] at listed
          rcases listed with rfl | earlier
          · refine ⟨identity, found, resolution, member, ?_, normalized ▸ terminal, resolves⟩
            rw [named]
            rfl
          · exact resolved attemptId earlier
        next => exact resolved attemptId listed
  · intro attemptId none
    exact absurd none (Finset.notMem_empty attemptId)

end Checkpoints

/-! ## Calls -/

section Calls

variable {π κ : Type} [Carries CheckpointEvent π] [SubmissionView π] [Fingerprint] [CaseMap]
  {journal later : Journal π κ} {call : Call} {result : Except RecoveryError Answer}

/-- The scan of a READY controller is orderly. -/
def OrderlyCall (journal : Journal π κ) (controller : RecoveryController) (call : Call) : Prop :=
  ∀ environment accountId scope,
    call = .recoverDurableSubmissionUncertainty environment accountId →
      SubmissionScope.create environment accountId = .ok scope → controller.state = .ready →
        Orderly controller scope (grouped (submissionRows journal)).entries

/-- One call keeps READY sound. -/
theorem Sound.acts (sound : Sound controller) (orderly : OrderlyCall journal controller call)
    (acts : Acts journal later call controller next result) : Sound next := by
  cases acts with
  | raised => exact sound
  | started owner => exact sound_of_ne_ready (by simp [RecoveryController.started])
  | restored owner scope rows =>
      have started : Sound (controller.started owner) :=
        sound_of_ne_ready (by simp [RecoveryController.started])
      exact started.recoverRows fun ready => by cases ready
  | @recovered _ _ _ next scope attempts created success =>
      have kept := sound.recoverRows (orderly _ _ scope rfl created)
      rw [success] at kept
      exact kept
  | @interrupted _ _ _ next scope failure error created failed =>
      have kept := sound.recoverRows (orderly _ _ scope rfl created)
      rw [failed] at kept
      exact kept
  | unbound => exact ready_of_recomputeState
  | accepted => exact ready_of_recomputeState
  | reconciled success =>
      obtain ⟨reported, consistent, rfl⟩ := reconciled_eq_ok success
      exact ready_of_recomputeState
  | storage writable => exact sound_withStorage writable
  | clock trusted => exact sound_withClock trusted
  | noted success =>
      obtain ⟨_, rfl⟩ := noted_eq_ok success
      exact ready_of_recomputeState
  | resolved success =>
      obtain ⟨_, _, _, rfl⟩ := resolved_eq_ok success
      exact ready_of_recomputeState
  | transferred success =>
      obtain ⟨state, _⟩ := transferred_eq_ok success
      apply sound_of_ne_ready
      rw [state]
      decide
  | leaseExpired => exact sound.leaseExpired
  | stopped => exact sound_of_ne_ready (by simp [RecoveryController.halted])

/-- One call keeps the unresolved sends among the unresolved attempts. -/
theorem Listed.acts (listed : Listed controller)
    (acts : Acts journal later call controller next result) : Listed next := by
  cases acts with
  | raised => exact listed
  | started owner => exact listed
  | restored owner scope rows =>
      have started : Listed (controller.started owner) := listed
      exact recoverRows_induction Listed Listed.recoverFinding (fun scanned => scanned) started
  | @recovered _ _ _ next scope attempts created success =>
      have scanned : Listed (controller.recoverRows scope (submissionRows journal)).1 :=
        recoverRows_induction Listed Listed.recoverFinding (fun scanned => scanned) listed
      rw [success] at scanned
      exact scanned
  | @interrupted _ _ _ next scope failure error created failed =>
      have scanned : Listed (controller.recoverRows scope (submissionRows journal)).1 :=
        recoverRows_induction Listed Listed.recoverFinding (fun scanned => scanned) listed
      rw [failed] at scanned
      exact scanned
  | unbound => exact listed
  | accepted => exact Finset.subset_union_left
  | reconciled success =>
      obtain ⟨reported, consistent, rfl⟩ := reconciled_eq_ok success
      exact Finset.subset_union_left
  | storage writable =>
      rw [RecoveryController.withStorage]
      split
      · exact listed
      · exact listed
  | clock trusted =>
      rw [RecoveryController.withClock]
      split
      · exact listed
      · exact listed
  | @noted attempt _ next success =>
      obtain ⟨_, rfl⟩ := noted_eq_ok success
      exact Finset.insert_subset_insert attempt.attemptId listed
  | resolved success =>
      obtain ⟨_, _, _, rfl⟩ := resolved_eq_ok success
      exact Finset.erase_subset_erase _ listed
  | transferred success =>
      obtain ⟨_, sends, unresolved, _⟩ := transferred_eq_ok success
      rw [Listed, sends, unresolved]
      exact listed
  | leaseExpired =>
      rw [RecoveryController.leaseExpired]
      split
      · exact listed
      · exact listed
  | stopped => exact Finset.Subset.refl _

/-- A call that releases an attempt. -/
inductive Releases (later : Journal π κ) (controller : RecoveryController) (attemptId : String) :
    Call → Except RecoveryError Answer → Prop where
  | stopped (result : Except RecoveryError Answer) :
      Releases later controller attemptId .stop result
  | resolved {attempt : OutboundAttempt} {binding : SendBinding} {answer : Answer}
      (same : attempt.attemptId = attemptId)
      (bound : controller.unresolvedSendBindings.get? attemptId = some binding)
      (accepted : Resolved binding attempt) :
      Releases later controller attemptId (.resolveAttempt attempt) (.ok answer)
  | checkpoint {query : CheckpointQuery} {evidence : CheckpointEvidence}
      {payload : CheckpointPayload} {identity : RecoveredIdentity}
      (owned : controller.owner = some evidence.owner) (presents : Presents later evidence payload)
      (recovered : controller.recoveredUnknownIdentities.get? attemptId = some identity)
      (terminal : Terminal payload attemptId identity) :
      Releases later controller attemptId (.recordReconciliationCheckpoint query)
        (.ok (.evidence evidence))

/-- One call that does not release an attempt keeps it. -/
theorem Holds.acts {attemptId : String} {binding : Option SendBinding}
    (holds : Holds attemptId binding controller)
    (kept : ¬ Releases later controller attemptId call result)
    (acts : Acts journal later call controller next result) : Holds attemptId binding next := by
  cases acts with
  | raised => exact holds
  | started owner => exact ⟨holds.sent, holds.bound⟩
  | restored owner scope rows =>
      have started : Holds attemptId binding (controller.started owner) :=
        ⟨holds.sent, holds.bound⟩
      exact recoverRows_induction (Holds attemptId binding) Holds.recoverFinding
        (fun scanned => ⟨scanned.sent, scanned.bound⟩) started
  | @recovered _ _ _ next scope attempts created success =>
      have scanned : Holds attemptId binding
          (controller.recoverRows scope (submissionRows journal)).1 :=
        recoverRows_induction (Holds attemptId binding) Holds.recoverFinding
          (fun scanned => ⟨scanned.sent, scanned.bound⟩) holds
      rw [success] at scanned
      exact scanned
  | @interrupted _ _ _ next scope failure error created failed =>
      have scanned : Holds attemptId binding
          (controller.recoverRows scope (submissionRows journal)).1 :=
        recoverRows_induction (Holds attemptId binding) Holds.recoverFinding
          (fun scanned => ⟨scanned.sent, scanned.bound⟩) holds
      rw [failed] at scanned
      exact scanned
  | unbound => exact ⟨holds.sent, holds.bound⟩
  | @accepted query _ evidence payload verdict owned presents collected =>
      have open' : attemptId ∉ verdict.terminallyResolved := by
        intro listed
        obtain ⟨identity, recovered, terminal⟩ :=
          terminal_of_checkpointVerdict collected attemptId listed
        exact kept (.checkpoint owned presents recovered terminal)
      constructor
      · exact Finset.mem_sdiff.mpr ⟨holds.sent, open'⟩
      · intro known member
        rw [← holds.bound known member]
        exact Dict.get?_filterKeys (by simpa using open')
  | reconciled success =>
      obtain ⟨reported, consistent, rfl⟩ := reconciled_eq_ok success
      exact ⟨holds.sent, holds.bound⟩
  | storage writable =>
      rw [RecoveryController.withStorage]
      split
      · exact ⟨holds.sent, holds.bound⟩
      · exact ⟨holds.sent, holds.bound⟩
  | clock trusted =>
      rw [RecoveryController.withClock]
      split
      · exact ⟨holds.sent, holds.bound⟩
      · exact ⟨holds.sent, holds.bound⟩
  | noted success =>
      obtain ⟨agrees, rfl⟩ := noted_eq_ok success
      have bound := holds.bind agrees
      exact ⟨bound.sent, bound.bound⟩
  | @resolved attempt _ next success =>
      obtain ⟨known, bound, accepted, rfl⟩ := resolved_eq_ok success
      have other : attemptId ≠ attempt.attemptId := by
        rintro rfl
        exact kept (.resolved rfl bound accepted)
      constructor
      · exact Finset.mem_erase_of_ne_of_mem other holds.sent
      · intro stored member
        rw [← holds.bound stored member]
        exact Dict.get?_filterKeys (by simpa using other)
  | transferred success =>
      obtain ⟨_, sends, _, bindings⟩ := transferred_eq_ok success
      exact ⟨sends ▸ holds.sent, bindings ▸ holds.bound⟩
  | leaseExpired =>
      rw [RecoveryController.leaseExpired]
      split
      · exact holds
      · exact ⟨holds.sent, holds.bound⟩
  | stopped => exact absurd (.stopped _) kept

/-- A noted attempt is an unresolved send with its binding. -/
theorem holds_of_noted {attempt : OutboundAttempt} {answer : Answer}
    (acts : Acts journal later (.noteUnknownSend attempt) controller next (.ok answer)) :
    Holds attempt.attemptId (some ⟨attempt.intentId, attempt.ownerEpoch, attempt.evidence⟩)
      next := by
  cases acts with
  | noted success =>
      obtain ⟨_, rfl⟩ := noted_eq_ok success
      constructor
      · exact Finset.mem_insert_self _ _
      · rintro _ ⟨⟩
        exact Dict.get?_set_self _ _ _

/-- A recovered attempt is an unresolved send. -/
theorem sent_of_recovered {environment accountId : String} {attempts : List String}
    (acts : Acts journal later (.recoverDurableSubmissionUncertainty environment accountId)
      controller next (.ok (.recovered attempts))) :
    ∀ attemptId ∈ attempts, attemptId ∈ next.unresolvedSendAttempts := by
  cases acts with
  | recovered created success =>
      intro attemptId member
      rw [RecoveryController.recoverRows] at success
      split at success
      next => cases success
      next scanned recovered returned =>
        have sent := sent_of_recoverGroups (Finset.empty_subset _) returned
        split at success
        next =>
          cases success
          cases member
        next =>
          cases success
          exact sent ((Finset.mem_sort _).mp member)

end Calls

end Fields

/-! ## Runs -/

section Runs

variable {π κ : Type} [DecidableEq π] [DecidableEq κ] [Carries RecoveryEvent π]
  [Carries CheckpointEvent π] [Carries RecoveryCommand κ] [SubmissionView π] [Fingerprint]
  [CaseMap] {start host next : Host π κ} {call : Call} {result : Except RecoveryError Answer}

theorem Host.Performs.acts (performs : Host.Performs Appends host call result next) :
    Acts host.journal next.journal call host.controller next.controller result := by
  obtain ⟨⟨now, ends⟩, _⟩ := performs
  exact acts_of_ends ends

/-- What every call preserves holds in every state of a run. -/
theorem Host.Runs.induction (holds : RecoveryController → Prop)
    {permitted : Host π κ → Call → Except RecoveryError Answer → Host π κ → Prop}
    (step : ∀ {host next : Host π κ} {call : Call} {result : Except RecoveryError Answer},
      holds host.controller → permitted host call result next →
        Acts host.journal next.journal call host.controller next.controller result →
          holds next.controller)
    (runs : Host.Runs Appends permitted start host) (initial : holds start.controller) :
    holds host.controller := by
  induction runs with
  | refl => exact initial
  | tail _ last ih =>
      cases last with
      | outside => exact ih
      | call allowed performs => exact step ih allowed performs.acts

/-- Others may append a row at any time. -/
theorem Host.runs_append {outside : Journal π κ → Journal π κ → Prop}
    {permitted : Host π κ → Call → Except RecoveryError Answer → Host π κ → Prop}
    (host : Host π κ) (row : Envelope π)
    (moves : ∀ later : Journal π κ, host.journal ≤ later →
      later.events = host.journal.events ++ [row] → outside host.journal later) :
    Host.Runs outside permitted host (host.append row) := by
  rw [Host.append]
  split
  next journal result success =>
    rcases Journal.appendEvent_cases success with ⟨-, rfl, -⟩ | ⟨-, events, commands⟩
    · exact .refl
    · exact .single (.outside (moves journal
        ⟨⟨_, events.symm⟩, commands ▸ List.prefix_rfl⟩ events))
  next => exact .refl

theorem Host.runs_after {outside : Journal π κ → Journal π κ → Prop}
    {permitted : Host π κ → Call → Except RecoveryError Answer → Host π κ → Prop}
    (host : Host π κ) (call : Call)
    (allowed : ∀ result, permitted host call result (host.after call)) :
    Host.Runs outside permitted host (host.after call) := by
  obtain ⟨result, performs⟩ := Host.performs_after outside host call
  exact .single (.call (allowed result) performs)

/-- In every state that a new controller reaches by any calls, whatever others
append, READY implies its conditions, as long as the scans of a READY controller
are orderly.  A noted or recovered attempt is an unresolved send, and stays
unresolved, with its binding, as long as no call releases it. -/
theorem host_readiness_sound {durable trusted : Bool} {ownerScope : String}
    (new : start.controller = .fresh durable ownerScope trusted)
    (runs : Host.Runs Appends (fun host call _ _ =>
      OrderlyCall host.journal host.controller call) start host) :
    (host.controller.state = .ready → Ready host.controller) ∧
      (∀ attempt answer next,
        Host.Performs Appends host (.noteUnknownSend attempt) (.ok answer) next →
          Holds attempt.attemptId
            (some ⟨attempt.intentId, attempt.ownerEpoch, attempt.evidence⟩) next.controller) ∧
      (∀ environment accountId attempts next,
        Host.Performs Appends host (.recoverDurableSubmissionUncertainty environment accountId)
            (.ok (.recovered attempts)) next →
          ∀ attemptId ∈ attempts, attemptId ∈ next.controller.unresolvedSendAttempts) ∧
      ∀ attemptId binding, Holds attemptId binding host.controller → ∀ last,
        Host.Runs Appends (fun host call result next =>
          ¬ Releases next.journal host.controller attemptId call result) host last →
          Holds attemptId binding last.controller ∧
            attemptId ∈ last.controller.unresolvedAttempts := by
  have listed : Listed host.controller := by
    apply runs.induction Listed fun held _ acts => held.acts acts
    rw [new]
    exact Finset.Subset.refl _
  refine ⟨?_, ?_, ?_, ?_⟩
  · apply runs.induction Sound fun held orderly acts => held.acts orderly acts
    rw [new]
    exact sound_of_ne_ready (by simp [RecoveryController.fresh])
  · intro attempt answer next performs
    exact holds_of_noted performs.acts
  · intro environment accountId attempts next performs
    exact sent_of_recovered performs.acts
  · intro attemptId binding holds last rest
    have held := rest.induction (Holds attemptId binding)
      (fun held kept acts => held.acts kept acts) holds
    have still := rest.induction Listed (fun held _ acts => held.acts acts) listed
    exact ⟨held, still held.sent⟩

end Runs

/-! ## A scan that is interrupted -/

section Samples

/-- The rows of a journal of one host. -/
inductive HostBody where
  | recovery (event : RecoveryEvent)
  | checkpoint (event : CheckpointEvent)
  | submission (event : Dispatch.SubmissionEvent)
  deriving DecidableEq

@[reducible] def HostBody.recoveryCarried : Carries RecoveryEvent HostBody where
  embed := .recovery
  view body := match body with
    | .recovery event => some event
    | _ => none
  view_embed _ := rfl

@[reducible] def HostBody.checkpointCarried : Carries CheckpointEvent HostBody where
  embed := .checkpoint
  view body := match body with
    | .checkpoint event => some event
    | _ => none
  view_embed _ := rfl

@[reducible] def HostBody.submissionCarried : Carries Dispatch.SubmissionEvent HostBody where
  embed := .submission
  view body := match body with
    | .submission event => some event
    | _ => none
  view_embed _ := rfl

attribute [local instance] CaseMap.ascii Fingerprint.sizes Carries.self
  HostBody.recoveryCarried HostBody.checkpointCarried HostBody.submissionCarried

/-- The rows of dispatchers in the journal of a host. -/
@[reducible] def HostBody.submissionView : SubmissionView HostBody := ⟨dispatchRow⟩

attribute [local instance] HostBody.submissionView

/-- A host of one scope. -/
abbrev SampleHost : Type := Host HostBody RecoveryCommand

/-- The checkpoint that the query names. -/
def sampleQuery : CheckpointQuery := ⟨"r1", "SIMULATED", "A", "PAPER", none⟩

/-- A complete checkpoint of the first owner. -/
def samplePayload : CheckpointPayload where
  providerId := "SIMULATED"
  accountId := "A"
  environment := "PAPER"
  providerEnvironment := some "PAPER"
  observedAt := ⟨0⟩
  complete := true
  snapshotConsistent := true
  activityCoverageComplete := true
  submissionResolutions := []
  blockingResources := []
  checkpointOwner := some ("alpha", "1")
  details := ""

def sampleCheckpoint : Envelope HostBody :=
  checkpointEnvelope (checkpointAggregate "r1" ⟨"SIMULATED", "A", "PAPER", "PAPER"⟩) 1
    samplePayload

/-- A new controller of the scope on a new journal. -/
def newHost : SampleHost := ⟨.fresh true "PAPER:A" true, Journal.empty, none⟩

/-- The host after its start, with a first checkpoint in the journal. -/
def checkpointedHost : SampleHost := (newHost.after (.start "alpha")).append sampleCheckpoint

/-- The host after its first reconciliation. -/
def readyHost : SampleHost := checkpointedHost.after (.recordReconciliationCheckpoint sampleQuery)

/-- A row of an attempt by a dispatcher of an epoch. -/
def sampleRow (attemptId : String) (version ownerEpoch : Nat)
    (payload : Dispatch.SubmissionPayload) : Envelope HostBody where
  eventId := attemptId ++ Nat.repr version
  aggregate := Dispatch.attemptAggregate .paper "A" attemptId
  aggregateVersion := version
  committedAt := ⟨0⟩
  body := .submission ⟨.paper, ownerEpoch, "", payload⟩
  outboxTopic := none

def samplePrepared (attemptId : String) : Dispatch.SubmissionPayload :=
  .prepared {
    attemptId := attemptId
    intentId := attemptId
    intentHash := ""
    provider := "SIMULATED"
    requestHash := ""
    clientOrderId := attemptId
    environment := .paper
    accountId := "A"
    ownerToken := "t"
    ownerEpoch := 1
    preparedAt := ⟨0⟩
    submissionScope := ""
    submissionScopeHash := "" }

/-- An attempt at its send barrier, and one that a dispatcher of the next epoch
recovered from its send barrier. -/
def uncertainHost : SampleHost :=
  ((((readyHost.append (sampleRow "a1" 1 1 (samplePrepared "a1"))).append
    (sampleRow "a1" 2 1 (.sending "a1" "t" 1 ""))).append
    (sampleRow "later" 1 1 (samplePrepared "later"))).append
    (sampleRow "later" 2 1 (.sending "later" "t" 1 ""))).append
    (sampleRow "later" 3 2 (.unknown "later" "" none))

/-- The scan of the two attempts. -/
def interruptedHost : SampleHost :=
  uncertainHost.after (.recoverDurableSubmissionUncertainty "PAPER" "A")

theorem runs_readyHost {outside : Journal HostBody RecoveryCommand →
      Journal HostBody RecoveryCommand → Prop}
    (permitted : SampleHost → Call → Except RecoveryError Answer → SampleHost → Prop)
    (moves : ∀ journal later : Journal HostBody RecoveryCommand, journal ≤ later →
      later.events = journal.events ++ [sampleCheckpoint] → outside journal later)
    (starts : ∀ result, permitted newHost (.start "alpha") result
      (newHost.after (.start "alpha")))
    (checks : ∀ result, permitted checkpointedHost (.recordReconciliationCheckpoint sampleQuery)
      result readyHost) :
    Host.Runs outside permitted newHost readyHost := by
  have started : Host.Runs outside permitted newHost (newHost.after (.start "alpha")) :=
    newHost.runs_after (.start "alpha") starts
  have noted : Host.Runs outside permitted (newHost.after (.start "alpha")) checkpointedHost :=
    Host.runs_append _ _ fun later growth events => moves _ later growth events
  exact (started.trans noted).trans (Host.runs_after _ _ checks)

theorem runs_uncertainHost : Host.Runs Appends (fun _ _ _ _ => True) newHost uncertainHost := by
  have ready : Host.Runs Appends (fun _ _ _ _ => True) newHost readyHost :=
    runs_readyHost _ (fun _ _ growth _ => growth) (fun _ => trivial) fun _ => trivial
  have appends : ∀ (host : SampleHost) (row : Envelope HostBody),
      Host.Runs Appends (fun _ _ _ _ => True) host (host.append row) :=
    fun host row => Host.runs_append host row fun _ growth _ => growth
  unfold uncertainHost
  apply Relation.ReflTransGen.trans _ (appends _ _)
  apply Relation.ReflTransGen.trans _ (appends _ _)
  apply Relation.ReflTransGen.trans _ (appends _ _)
  apply Relation.ReflTransGen.trans _ (appends _ _)
  exact ready.trans (appends _ _)

theorem runs_interruptedHost : Host.Runs Appends (fun _ _ _ _ => True) newHost interruptedHost :=
  runs_uncertainHost.trans (Host.runs_after _ _ fun _ => trivial)

-- evaluated by the kernel only
attribute [irreducible] readyHost interruptedHost

theorem interruptedHost_state : interruptedHost.controller.state = .ready ∧
    "a1" ∈ interruptedHost.controller.unresolvedAttempts := by
  decide +kernel

/-- A scan that raises at the second attempt leaves the host READY with the first
one unresolved. -/
theorem interrupted_scan_ready : ∃ host : SampleHost,
    Host.Runs Appends (fun _ _ _ _ => True) newHost host ∧
      host.controller.state = .ready ∧ ¬ Ready host.controller :=
  ⟨interruptedHost, runs_interruptedHost, interruptedHost_state.1,
    not_ready_of_mem interruptedHost_state.2⟩

/-- The host before the scan. -/
theorem ready_host_readiness_sound : Ready readyHost.controller := by
  have orderly : Host.Runs Appends (fun host call _ _ =>
      OrderlyCall host.journal host.controller call) newHost readyHost := by
    apply runs_readyHost _ fun _ _ growth _ => growth
    · intro _ _ _ _ other
      cases other
    · intro _ _ _ _ other
      cases other
  exact (host_readiness_sound rfl orderly).1 (by decide +kernel)

end Samples

end AutoTrade.Recovery
