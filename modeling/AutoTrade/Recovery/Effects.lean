import AutoTrade.Recovery.Controller

/-!
# What a call does

`Acts` says once what a call can do to the fields of a controller, with the
journal it started on and the one it ended on; every call of the model is one of
its cases.  Others only append to the journal.
-/

namespace AutoTrade.Recovery

open Lib Store

section Fields

variable {controller next : RecoveryController} {recovered after : Finset String}

/-- The fields that an operation on the fields leaves alone. -/
theorem recoverFinding_eq_ok {found : Finding}
    (success : controller.recoverFinding found recovered = .ok (next, after)) :
    (found = .settled ∧ next = controller ∧ after = recovered) ∨
      (∃ key, found = .legacy key ∧ after = insert key recovered ∧ next = { controller with
        unresolvedSendAttempts := insert key controller.unresolvedSendAttempts
        unresolvedAttempts := insert key controller.unresolvedAttempts
        reasonCodes :=
          controller.reasonCodes ∪ {.legacySubmissionIdentityUnrecoverable} }) ∨
      ∃ attemptId binding identity, found = .ambiguous attemptId binding identity ∧
        ¬ controller.Conflicts attemptId binding ∧ after = insert attemptId recovered ∧
        next = { controller.bound attemptId binding with
          recoveredUnknownIdentities :=
            controller.recoveredUnknownIdentities.set attemptId identity } := by
  cases found with
  | settled =>
      cases success
      exact Or.inl ⟨rfl, rfl, rfl⟩
  | legacy key =>
      cases success
      exact Or.inr (Or.inl ⟨key, rfl, rfl, rfl⟩)
  | ambiguous attemptId binding identity =>
      rw [RecoveryController.recoverFinding, guard_eq_ok] at success
      obtain ⟨agrees, same⟩ := success
      cases same
      exact Or.inr (Or.inr ⟨attemptId, binding, identity, rfl, agrees, rfl, rfl⟩)

end Fields

section Acts

variable {π κ : Type} [DecidableEq π] [DecidableEq κ] [Carries RecoveryEvent π]
  [Carries CheckpointEvent π] [Carries RecoveryCommand κ] [SubmissionView π] [Fingerprint]
  [CaseMap]

/-- The rows that `recover_durable_submission_uncertainty` loads. -/
def submissionRows (journal : Journal π κ) : List SubmissionRow :=
  (journal.loadEventsByAggregateType "submission_attempt").map SubmissionView.row

/-- The evidence names a checkpoint of the journal that is bound to the owner. -/
structure Presents (journal : Journal π κ) (evidence : CheckpointEvidence)
    (payload : CheckpointPayload) : Prop where
  row : ∃ row eventType, journal.events[evidence.journalSequence - 1]? = some row ∧
    0 < evidence.journalSequence ∧ row.eventId = evidence.eventId ∧
    checkpoint? row = some ⟨eventType, payload⟩
  owner : payload.owner = .ok (strip evidence.owner.ownerId, strip (Nat.repr evidence.owner.epoch))

/-- What a call on the fields of a controller does, from one journal to another. -/
inductive Acts (journal later : Journal π κ) : Call → RecoveryController → RecoveryController →
    Except RecoveryError Answer → Prop where
  | raised (call : Call) (controller : RecoveryController) (error : RecoveryError) :
      Acts journal later call controller controller (.error error)
  | started {ownerId : String} {controller : RecoveryController} (owner : OwnerFence)
      (result : Except RecoveryError Answer) (absent : controller.owner = none) :
      Acts journal later (.start ownerId) controller (controller.started owner) result
  | restored {ownerId : String} {controller : RecoveryController} (owner : OwnerFence)
      (scope : SubmissionScope) (rows : List SubmissionRow) (result : Except RecoveryError Answer)
      (absent : controller.owner = none) :
      Acts journal later (.start ownerId) controller
        ((controller.started owner).recoverRows scope rows).1 result
  | recovered {environment accountId : String} {controller next : RecoveryController}
      {scope : SubmissionScope} {attempts : List String}
      (created : SubmissionScope.create environment accountId = .ok scope)
      (success : controller.recoverRows scope (submissionRows journal) = (next, .ok attempts)) :
      Acts journal later (.recoverDurableSubmissionUncertainty environment accountId) controller
        next (.ok (.recovered attempts))
  | interrupted {environment accountId : String} {controller next : RecoveryController}
      {scope : SubmissionScope} {failure : RecoveryError} (error : RecoveryError)
      (created : SubmissionScope.create environment accountId = .ok scope)
      (failed : controller.recoverRows scope (submissionRows journal) = (next, .error failure)) :
      Acts journal later (.recoverDurableSubmissionUncertainty environment accountId) controller
        next (.error error)
  | unbound {query : CheckpointQuery} {controller : RecoveryController} (error : RecoveryError) :
      Acts journal later (.recordReconciliationCheckpoint query) controller
        controller.withoutCheckpoint (.error error)
  | accepted {query : CheckpointQuery} {controller : RecoveryController}
      {evidence : CheckpointEvidence} {payload : CheckpointPayload} {verdict : ResolutionVerdict}
      (owned : controller.owner = some evidence.owner) (presents : Presents later evidence payload)
      (collected : checkpointVerdict payload controller.recoveredUnknownIdentities = .ok verdict) :
      Acts journal later (.recordReconciliationCheckpoint query) controller
        (controller.accepted payload verdict) (.ok (.evidence evidence))
  | reconciled {consistent : Bool} {uncertainty : List String}
      {controller next : RecoveryController}
      (success : controller.reconciled consistent uncertainty = .ok next) :
      Acts journal later (.recordReconciliation consistent uncertainty) controller next
        (.ok .nothing)
  | storage (writable : Bool) (controller : RecoveryController) :
      Acts journal later (.setStorageWritable writable) controller
        (controller.withStorage writable) (.ok .nothing)
  | clock (trusted : Bool) (reasonCode evidenceRef : Option String)
      (controller : RecoveryController) :
      Acts journal later (.setClockTrusted trusted reasonCode evidenceRef) controller
        (controller.withClock trusted) (.ok .nothing)
  | noted {attempt : OutboundAttempt} {controller next : RecoveryController}
      (success : controller.noted attempt = .ok next) :
      Acts journal later (.noteUnknownSend attempt) controller next (.ok .nothing)
  | resolved {attempt : OutboundAttempt} {controller next : RecoveryController}
      (success : controller.resolved attempt = .ok next) :
      Acts journal later (.resolveAttempt attempt) controller next (.ok .nothing)
  | transferred {newOwnerId : String} {oldSenderFenced consistent : Bool}
      {controller next : RecoveryController}
      (success : controller.transferred newOwnerId oldSenderFenced consistent = .ok next) :
      Acts journal later (.transferOwner newOwnerId oldSenderFenced consistent) controller next
        (.ok (.owner next.owner))
  | leaseExpired (controller : RecoveryController) :
      Acts journal later .onLeaseExpired controller controller.leaseExpired (.ok .nothing)
  | stopped (controller : RecoveryController) :
      Acts journal later .stop controller controller.halted (.ok .nothing)

end Acts

/-! ## The calls -/

section Reads

variable {π κ : Type}

/-- Others only append. -/
abbrev Appends (journal later : Journal π κ) : Prop := journal ≤ later

theorem le_of_appends {state later : Journal π κ}
    (others : Relation.ReflTransGen Appends state later) : state ≤ later := by
  induction others with
  | refl => exact le_rfl
  | tail _ last ih => exact ih.trans last

/-- A numbered row stays at its position. -/
theorem getElem?_of_numbered {state later : Journal π κ} (growth : state ≤ later)
    {row : Envelope π} {sequence : Nat} (member : (row, sequence) ∈ state.events.zipIdx 1) :
    later.events[sequence - 1]? = some row ∧ 0 < sequence := by
  have found := List.mk_mem_zipIdx_iff_le_and_getElem?_sub.mp member
  obtain ⟨added, equal⟩ := growth.1
  constructor
  · rw [← equal, List.getElem?_append_left (List.getElem?_eq_some_iff.mp found.2).1]
    exact found.2
  · exact found.1

end Reads

section Calls

set_option linter.unusedSectionVars false

variable {π κ : Type} [DecidableEq π] [DecidableEq κ] [Carries RecoveryEvent π]
  [Carries CheckpointEvent π] [Carries RecoveryCommand κ] [SubmissionView π] [Fingerprint]
  [CaseMap] {state : Journal π κ} {own : RecoveryController}

/-- The fields are the ones the computation started on. -/
def Unchanged (state : Journal π κ) (own : RecoveryController) (later : Journal π κ)
    (after : RecoveryController) : Prop := state ≤ later ∧ after = own

theorem ensures_latestDurableOwner :
    Party.Ensures Appends (fun later after (_ : Option OwnerFence) =>
        Unchanged state own later after) (Unchanged state own)
      (latestDurableOwner : Controlling π κ (Option OwnerFence)) state own := by
  unfold latestDurableOwner
  apply Party.ensures_get
  split
  · exact Party.ensures_pure ⟨le_rfl, rfl⟩
  · apply Party.ensures_bind
    apply Party.ensures_ask
    apply Raising.ensures_read
    intro later others
    apply Party.ensures_bind
    apply Party.ensures_ofExcept
    · intro chain _
      exact Party.ensures_pure ⟨le_of_appends others, rfl⟩
    · intro _ _
      exact ⟨le_of_appends others, rfl⟩

theorem ensures_requireCurrentDurableOwner :
    Party.Ensures Appends (fun later after (_ : Unit) => Unchanged state own later after)
      (Unchanged state own) (requireCurrentDurableOwner : Controlling π κ Unit) state own := by
  unfold requireCurrentDurableOwner
  apply Party.ensures_get
  split
  · exact Party.ensures_pure ⟨le_rfl, rfl⟩
  · apply Party.ensures_bind
    apply ensures_latestDurableOwner.imp
    · intro later after durable unchanged
      split
      · exact Party.ensures_throw unchanged
      · exact Party.ensures_pure unchanged
    · exact fun _ _ unchanged => unchanged

theorem latestCheckpoint_eq_ok {rows : List (Envelope π × Nat)} {scope : ReconciliationScope}
    {found : (Envelope π × Nat) × CheckpointPayload}
    (success : latestCheckpoint rows scope = .ok (some found)) :
    rows.getLast? = some found.1 ∧
      ∃ eventType, checkpoint? found.1.1 = some ⟨eventType, found.2⟩ := by
  rw [latestCheckpoint] at success
  split at success
  next => cases success
  next last listed =>
    rw [bind_eq_ok] at success
    obtain ⟨payload, required, success⟩ := success
    rw [bind_eq_ok] at success
    obtain ⟨_, _, success⟩ := success
    cases pure_eq_ok.mp success
    rw [requireCheckpointScope] at required
    split at required
    next => cases required
    next event carried =>
      split at required
      next =>
        cases required
        exact ⟨listed, event.eventType, carried⟩
      next => cases required

theorem readyCheckpoint_eq_ok {rows : List (Envelope π × Nat)} {scope : ReconciliationScope}
    {hostId ownerEpoch : String} {found ready : (Envelope π × Nat) × CheckpointPayload} :
    readyCheckpoint scope found rows hostId ownerEpoch = .ok (some ready) ↔
      ready = found ∧ (∃ latest, latestCheckpointForScope rows scope = .ok latest ∧
        latest.map (fun latest => latest.1.1.eventId) = some found.1.1.eventId) ∧
      strip hostId ≠ "" ∧ strip ownerEpoch ≠ "" ∧
      found.2.owner = .ok (strip hostId, strip ownerEpoch) := by
  simp only [readyCheckpoint, requiredText, bind_eq_ok, throw_unless_eq_ok, guard_eq_ok,
    not_ne_iff, pure_eq_ok, Except.ok.injEq]
  constructor
  · rintro ⟨latest, loaded, same, owner, bound, _, ⟨host, rfl⟩, _, ⟨epoch, rfl⟩, equal⟩
    split at equal
    next owned =>
      cases equal
      exact ⟨rfl, ⟨latest, loaded, same⟩, host, epoch, owned ▸ bound⟩
    next => cases equal
  · rintro ⟨rfl, ⟨latest, loaded, same⟩, host, epoch, bound⟩
    exact ⟨latest, loaded, same, _, bound, _, ⟨host, rfl⟩, _, ⟨epoch, rfl⟩, if_pos rfl⟩

/-- A checkpoint that is loaded for readiness is a row of the journal that is
bound to the owner. -/
theorem ensures_loadCheckpointForReadiness (query : CheckpointQuery) (owner : OwnerFence) :
    Raising.Ensures Appends (fun later found => ∀ row payload, found = some (row, payload) →
        Presents later ⟨row.1.eventId, row.2, owner⟩ payload) (fun _ => True)
      (loadCheckpointForReadiness query owner.ownerId (Nat.repr owner.epoch) :
        Recording π κ (Option ((Envelope π × Nat) × CheckpointPayload))) state := by
  unfold loadCheckpointForReadiness
  apply Raising.ensures_bind
  apply Raising.ensures_ofExcept _ fun _ _ => trivial
  intro reconciliationId _
  apply Raising.ensures_bind
  apply Raising.ensures_ofExcept _ fun _ _ => trivial
  intro scope _
  apply Raising.ensures_bind
  apply Raising.ensures_read
  intro first others
  apply Raising.ensures_bind
  apply Raising.ensures_ofExcept _ fun _ _ => trivial
  intro checkpoint loaded
  split
  next => exact Raising.ensures_pure fun _ _ none => by cases none
  next found =>
    apply Raising.ensures_bind
    apply Raising.ensures_read
    intro second later
    apply Raising.ensures_ofExcept _ fun _ _ => trivial
    rintro _ ready row payload rfl
    obtain ⟨rfl, _, _, _, bound⟩ := readyCheckpoint_eq_ok.mp ready
    obtain ⟨listed, eventType, carried⟩ := latestCheckpoint_eq_ok loaded
    have member : row ∈ state.events.zipIdx 1 :=
      (List.mem_filter.mp (List.mem_of_getLast? listed)).1
    obtain ⟨stored, counted⟩ := getElem?_of_numbered
      ((le_of_appends others).trans (le_of_appends later)) member
    exact ⟨⟨row.1, eventType, stored, counted, rfl, carried⟩, bound⟩

/-- What a call does, as a postcondition on values and on exceptions. -/
abbrev Performs (call : Call) (computation : Controlling π κ Answer) (state : Journal π κ)
    (own : RecoveryController) : Prop :=
  Party.Ensures Appends (fun later after answer => Acts state later call own after (.ok answer))
    (fun later after => ∀ error, Acts state later call own after (.error error))
    computation state own

theorem ensures_recordCheckpoint (query : CheckpointQuery) :
    Performs (.recordReconciliationCheckpoint query) (do
      let evidence ← recordCheckpoint query
      pure (.evidence evidence)) state own := by
  apply Party.ensures_bind
  unfold recordCheckpoint
  apply Party.ensures_get
  split
  next => exact Party.ensures_throw fun error => .raised _ _ error
  next owner owned =>
    apply Party.ensures_unless fun _ error => .raised _ _ error
    intro _
    apply Party.ensures_bind
    apply ensures_requireCurrentDurableOwner.imp
    · rintro first _ _ ⟨growth, rfl⟩
      apply Party.ensures_unless fun _ error => .raised _ _ error
      intro _
      apply Party.ensures_bind
      apply Party.ensures_ask
      apply (ensures_loadCheckpointForReadiness query owner).imp
      · intro second found presents
        split
        next =>
          apply Party.ensures_bind
          apply Party.ensures_change
          · intro _ _
            exact Party.ensures_throw fun error => .unbound error
          · intro _ failed
            cases failed
        next row payload =>
          apply Party.ensures_bind
          apply Party.ensures_update
          · intro next success
            apply Party.ensures_pure
            apply Party.ensures_pure
            rw [RecoveryController.acceptCheckpoint, bind_eq_ok] at success
            obtain ⟨verdict, collected, success⟩ := success
            rw [throw_unless_eq_ok, pure_eq_ok] at success
            rw [← success.2]
            exact .accepted owned (presents row payload rfl) collected
          · exact fun _ _ error => .raised _ _ error
      · exact fun _ _ error => .raised _ _ error
    · rintro _ _ ⟨_, rfl⟩ error
      exact .raised _ _ error

theorem ensures_appendOwner (owner : OwnerFence) (now : Instant) :
    Party.Ensures Appends (fun _ after (_ : Unit) => after = own) (fun _ after => after = own)
      (appendOwner owner now : Controlling π κ Unit) state own := by
  unfold appendOwner
  apply Party.ensures_get
  split
  · exact Party.ensures_pure rfl
  · apply Party.ensures_bind
    apply (Party.ensures_ask_own _).imp
    · exact fun _ _ _ same => Party.ensures_pure same
    · exact fun _ _ same => same

/-- The fields after a recovery of some rows, or without one. -/
def Restores (own after : RecoveryController) : Prop :=
  after = own ∨ ∃ scope rows, after = (own.recoverRows scope rows).1

theorem ensures_recoverDurableSubmissionUncertainty (environment accountId : String) :
    Party.Ensures Appends
      (fun _ after attempts => ∃ scope, SubmissionScope.create environment accountId = .ok scope ∧
        own.recoverRows scope (submissionRows state) = (after, .ok attempts))
      (fun _ after => after = own ∨ ∃ scope failure,
        SubmissionScope.create environment accountId = .ok scope ∧
          own.recoverRows scope (submissionRows state) = (after, .error failure))
      (recoverDurableSubmissionUncertainty environment accountId :
        Controlling π κ (List String)) state own := by
  unfold recoverDurableSubmissionUncertainty
  apply Party.ensures_get
  apply Party.ensures_unless
  · exact fun _ => Or.inl rfl
  intro _
  apply Party.ensures_bind
  apply Party.ensures_ofExcept
  · intro scope created
    apply Party.ensures_bind
    apply Party.ensures_ask
    apply Raising.ensures_read
    intro later _
    apply Party.ensures_unless
    · exact fun _ => Or.inl rfl
    intro _
    apply Party.ensures_change
    · intro attempts success
      exact ⟨scope, created, Prod.ext rfl success⟩
    · intro failure failed
      exact Or.inr ⟨scope, failure, created, Prod.ext rfl failed⟩
  · exact fun _ _ => Or.inl rfl

theorem ensures_recoverOwnerScope :
    Party.Ensures Appends (fun _ after (_ : Unit) => Restores own after)
      (fun _ after => Restores own after) (recoverOwnerScope : Controlling π κ Unit) state
      own := by
  unfold recoverOwnerScope
  apply Party.ensures_get
  split
  next => exact Party.ensures_pure (Or.inl rfl)
  next environment accountId _ =>
    split
    next => exact Party.ensures_pure (Or.inl rfl)
    next =>
      apply Party.ensures_bind
      apply (ensures_recoverDurableSubmissionUncertainty environment accountId).imp
      · rintro _ after _ ⟨scope, _, success⟩
        exact Party.ensures_pure (Or.inr ⟨scope, _, by rw [success]⟩)
      · rintro _ after (same | ⟨scope, _, _, failed⟩)
        · exact Or.inl same
        · exact Or.inr ⟨scope, _, by rw [failed]⟩

theorem ensures_start (ownerId : String) (now : Instant) :
    Performs (.start ownerId) (do
      let fence ← start ownerId now
      pure (.owner fence)) state own := by
  apply Party.ensures_bind
  unfold start
  apply Party.ensures_unless fun _ error => .raised _ _ error
  intro _
  apply Party.ensures_get
  apply Party.ensures_unless fun _ error => .raised _ _ error
  intro absent
  rw [not_ne_iff] at absent
  have acts : ∀ {later after} (owner : OwnerFence) (result : Except RecoveryError Answer),
      Restores (own.started owner) after →
        Acts state later (.start ownerId) own after result := by
    rintro later after owner result (rfl | ⟨scope, rows, rfl⟩)
    · exact .started owner result absent
    · exact .restored owner scope rows result absent
  apply Party.ensures_bind
  apply ensures_latestDurableOwner.imp
  · rintro first _ durable ⟨growth, rfl⟩
    apply Party.ensures_unless fun _ error => .raised _ _ error
    intro _
    apply Party.ensures_bind
    apply (ensures_appendOwner _ now).imp
    · rintro second _ _ rfl
      apply Party.ensures_bind
      apply Party.ensures_change
      · intro _ _
        apply Party.ensures_bind
        apply ensures_recoverOwnerScope.imp
        · intro later after _ restores
          exact Party.ensures_pure (Party.ensures_pure (acts _ _ restores))
        · exact fun _ _ restores error => acts _ _ restores
      · intro _ failed
        cases failed
    · rintro _ _ rfl error
      exact .raised _ _ error
  · rintro _ _ ⟨_, rfl⟩ error
    exact .raised _ _ error

theorem ensures_recordClockTransition (trusted : Bool) (reasonCode evidenceRef : Option String)
    (now : Instant) :
    Party.Ensures Appends (fun _ after (_ : Unit) => after = own) (fun _ after => after = own)
      (recordClockTransition trusted reasonCode evidenceRef now : Controlling π κ Unit) state
      own := by
  unfold recordClockTransition
  apply Party.ensures_get
  split
  · exact Party.ensures_pure rfl
  · split
    · exact Party.ensures_throw rfl
    · apply Party.ensures_bind
      apply (Party.ensures_ask_own _).imp
      · exact fun _ _ _ same => Party.ensures_pure same
      · exact fun _ _ same => same

/-- Every call is a case of `Acts`. -/
theorem performs (call : Call) (now : Instant) : Performs call (call.perform now) state own := by
  cases call with
  | start ownerId => exact ensures_start ownerId now
  | recoverDurableSubmissionUncertainty environment accountId =>
      apply Party.ensures_bind
      apply (ensures_recoverDurableSubmissionUncertainty environment accountId).imp
      · rintro _ _ _ ⟨scope, created, success⟩
        exact Party.ensures_pure (.recovered created success)
      · rintro _ _ (rfl | ⟨scope, _, created, failed⟩) error
        · exact .raised _ _ error
        · exact .interrupted error created failed
  | recordReconciliation consistent uncertainty =>
      apply Party.ensures_bind
      unfold recordReconciliation
      apply Party.ensures_get
      apply Party.ensures_unless fun _ error => .raised _ _ error
      intro _
      apply Party.ensures_bind
      apply ensures_requireCurrentDurableOwner.imp
      · rintro _ _ _ ⟨_, rfl⟩
        apply Party.ensures_update
        · exact fun next success => Party.ensures_pure (.reconciled success)
        · exact fun _ _ error => .raised _ _ error
      · rintro _ _ ⟨_, rfl⟩ error
        exact .raised _ _ error
  | recordReconciliationCheckpoint query => exact ensures_recordCheckpoint query
  | setStorageWritable writable =>
      apply Party.ensures_change
      · rintro _ ⟨⟩
        exact .storage writable own
      · intro _ failed
        cases failed
  | setClockTrusted trusted reasonCode evidenceRef =>
      apply Party.ensures_bind
      unfold setClockTrusted
      apply Party.ensures_bind
      apply (ensures_recordClockTransition trusted reasonCode evidenceRef now).imp
      · rintro _ _ _ rfl
        apply Party.ensures_change
        · exact fun _ _ => Party.ensures_pure (.clock trusted reasonCode evidenceRef _)
        · intro _ failed
          cases failed
      · rintro _ _ rfl error
        exact .raised _ _ error
  | noteUnknownSend attempt =>
      apply Party.ensures_bind
      apply Party.ensures_update
      · exact fun next success => Party.ensures_pure (.noted success)
      · exact fun _ _ error => .raised _ _ error
  | resolveAttempt attempt =>
      apply Party.ensures_bind
      apply Party.ensures_update
      · exact fun next success => Party.ensures_pure (.resolved success)
      · exact fun _ _ error => .raised _ _ error
  | transferOwner newOwnerId oldSenderFenced consistent =>
      apply Party.ensures_bind
      apply Party.ensures_update
      · intro next success
        apply Party.ensures_get
        exact Party.ensures_pure (.transferred success)
      · exact fun _ _ error => .raised _ _ error
  | onLeaseExpired =>
      apply Party.ensures_change
      · rintro _ ⟨⟩
        exact .leaseExpired own
      · intro _ failed
        cases failed
  | stop =>
      apply Party.ensures_change
      · rintro _ ⟨⟩
        exact .stopped own
      · intro _ failed
        cases failed

/-- How a call ends. -/
theorem acts_of_ends {call : Call} {now : Instant} {later : Journal π κ}
    {after : RecoveryController} {result : Except RecoveryError Answer}
    (ends : Party.Ends Appends (call.perform now) state own later after result) :
    Acts state later call own after result := by
  obtain ⟨returned, raised⟩ := (performs call now).ends ends
  cases result with
  | ok answer => exact returned answer rfl
  | error error => exact raised error rfl error

end Calls

end AutoTrade.Recovery
