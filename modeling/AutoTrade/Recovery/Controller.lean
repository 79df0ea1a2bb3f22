import AutoTrade.Lib.Party
import AutoTrade.Recovery.Checkpoint
import AutoTrade.Recovery.Uncertainty
import Mathlib.Data.Finset.Sort

/-!
# The recovery controller

The model of `RecoveryController`.  A controller is a party with its fields as
its own state.  Each operation is a function on the fields, and a call reads the
journal and then performs the operation; between two accesses of the journal
others may change it.
-/

namespace AutoTrade.Recovery

open Lib Store
open Dispatch (Environment)

inductive HostState where
  | stopped
  | recovering
  | ready
  | degraded
  | blocked
  deriving DecidableEq, Repr

/-- The texts that the controller adds to `reason_codes`. -/
inductive ReasonCode where
  | startupReconciliationRequired
  | clockRequalificationRequired
  | providerUncertainty
  | durableJournalUnavailable
  | clockUntrusted
  | leaseExpiredNoFailover
  | legacySubmissionIdentityUnrecoverable
  | stopped
  deriving DecidableEq, Repr

inductive SendPhase where
  | created
  | durable
  | sentUnknown
  | acknowledged
  | rejected
  | provenAbsent
  deriving DecidableEq, Repr

/-- `OutboundAttempt`, whose fields a caller may set. -/
structure OutboundAttempt where
  attemptId : String
  intentId : String
  ownerEpoch : Nat
  phase : SendPhase
  providerOrderId : Option String
  evidence : List String
  deriving DecidableEq, Repr

structure RecoveryController where
  /-- `owner_store is not None`. -/
  durable : Bool
  ownerScope : String
  state : HostState
  owner : Option OwnerFence
  reasonCodes : Finset ReasonCode
  unresolvedAttempts : Finset String
  unresolvedSendAttempts : Finset String
  unresolvedSendBindings : Dict String SendBinding
  recoveredUnknownIdentities : Dict String RecoveredIdentity
  storageWritable : Bool
  clockTrusted : Bool
  providerReconciled : Bool
  deriving DecidableEq

/-- What the loop over the resolutions of a checkpoint collects. -/
structure ResolutionVerdict where
  reportedUnresolved : Finset String
  terminallyResolved : Finset String
  seen : Finset String

/-- `normalized_outcome`s that end an attempt. -/
def terminalOutcomes : List String :=
  ["PROVEN_ABSENT", "OBSERVED_EXECUTION", "OBSERVED_WORKING_ORDER"]

section Resolutions

variable [CaseMap]

/-- The checks of one resolution that use nothing else. -/
def checkedOutcome (resolution : CheckpointResolution) : Except RecoveryError String := do
  let outcome := upper (strip resolution.outcome)
  if outcome ∉ "UNKNOWN" :: terminalOutcomes then
    throw (.runtime "Reconciliation submission outcome is unsupported")
  if ∃ text ∈ resolution.providerOrderIds ++ resolution.providerExecutionIds, strip text = "" then
    throw (.runtime "Reconciliation submission provider identities are invalid")
  if ¬ (resolution.providerOrderIds.map strip).Nodup ∨
      ¬ (resolution.providerExecutionIds.map strip).Nodup then
    throw (.runtime "Reconciliation submission provider identities must be unique")
  if outcome ∈ ["UNKNOWN", "PROVEN_ABSENT"] ∧
      (resolution.providerOrderIds ≠ [] ∨ resolution.providerExecutionIds ≠ []) then
    throw (.runtime "Absence/unknown reconciliation cannot carry provider identity")
  if outcome = "OBSERVED_EXECUTION" ∧ resolution.providerExecutionIds = [] then
    throw (.runtime "Observed execution reconciliation lacks execution identity")
  if outcome = "OBSERVED_WORKING_ORDER" ∧
      (resolution.providerOrderIds = [] ∨ resolution.providerExecutionIds ≠ []) then
    throw (.runtime "Observed working-order reconciliation identity is invalid")
  if outcome = "UNKNOWN" ∧ strip (resolution.attemptId.getD "") = "" then
    throw (.runtime "UNKNOWN reconciliation resolution lacks attempt identity")
  pure outcome

/-- The resolution and the scope of its checkpoint agree with an identity. -/
def Resolves (payload : CheckpointPayload) (resolution : CheckpointResolution)
    (identity : RecoveredIdentity) : Prop :=
  resolution.intentId = some identity.intentId ∧
    resolution.clientOrderId = some identity.clientOrderId ∧
    upper (strip payload.providerId) = identity.provider ∧
    upper (strip payload.environment) = identity.environment ∧
    strip payload.accountId = identity.accountId

instance (payload : CheckpointPayload) (resolution : CheckpointResolution)
    (identity : RecoveredIdentity) : Decidable (Resolves payload resolution identity) :=
  inferInstanceAs (Decidable (_ ∧ _))

/-- A pass of the loop over the resolutions of a checkpoint. -/
def resolutionStep (payload : CheckpointPayload) (identities : Dict String RecoveredIdentity)
    (verdict : ResolutionVerdict) (resolution : CheckpointResolution) :
    Except RecoveryError ResolutionVerdict := do
  let outcome ← checkedOutcome resolution
  let attemptId := strip (resolution.attemptId.getD "")
  let reported := if outcome = "UNKNOWN" then insert attemptId verdict.reportedUnresolved
    else verdict.reportedUnresolved
  match resolution.attemptId.bind fun _ => identities.get? attemptId with
  | none => pure { verdict with reportedUnresolved := reported }
  | some identity =>
      if attemptId ∈ verdict.seen then
        throw (.runtime "Reconciliation checkpoint duplicates recovered submission resolution")
      if ¬ Resolves payload resolution identity then
        throw (.runtime
          "Reconciliation resolution identity conflicts with recovered submission")
      pure {
        reportedUnresolved := reported
        terminallyResolved := if outcome ∈ terminalOutcomes then
          insert attemptId verdict.terminallyResolved else verdict.terminallyResolved
        seen := insert attemptId verdict.seen }

/-- The checks of a checkpoint and what they collect. -/
def checkpointVerdict (payload : CheckpointPayload) (identities : Dict String RecoveredIdentity) :
    Except RecoveryError ResolutionVerdict := do
  if ∃ resource ∈ payload.blockingResources, strip resource = "" then
    throw (.runtime "Reconciliation blocking resource is invalid")
  payload.submissionResolutions.foldlM (resolutionStep payload identities) {
    reportedUnresolved := (payload.blockingResources.map fun resource =>
      "resource:" ++ strip resource).toFinset
    terminallyResolved := ∅
    seen := ∅ }

end Resolutions

namespace RecoveryController

variable (controller : RecoveryController)

/-! ## Operations on the fields -/

/-- The state that `_recompute_state` assigns. -/
def computedState : HostState :=
  if controller.owner = none then .stopped
  else if !controller.storageWritable then .blocked
  else if !controller.clockTrusted then .blocked
  else if controller.unresolvedAttempts ≠ ∅ then .degraded
  else if .leaseExpiredNoFailover ∈ controller.reasonCodes then .degraded
  else if controller.providerReconciled ∧
      .startupReconciliationRequired ∉ controller.reasonCodes then .ready
  else .recovering

/-- `_recompute_state`. -/
def recomputeState : RecoveryController := { controller with state := controller.computedState }

/-- The fields that `start` assigns. -/
def started (owner : OwnerFence) : RecoveryController :=
  { controller with
    owner := some owner
    state := .recovering
    providerReconciled := false
    reasonCodes := {.startupReconciliationRequired} }

/-- The attempt as an unresolved send. -/
def bound (attemptId : String) (binding : SendBinding) : RecoveryController :=
  { controller with
    unresolvedSendBindings := controller.unresolvedSendBindings.set attemptId binding
    unresolvedSendAttempts := insert attemptId controller.unresolvedSendAttempts
    unresolvedAttempts := insert attemptId controller.unresolvedAttempts }

/-- A binding that differs from the one of the same attempt. -/
def Conflicts (attemptId : String) (binding : SendBinding) : Prop :=
  ∃ existing ∈ controller.unresolvedSendBindings.get? attemptId, existing ≠ binding

instance (attemptId : String) (binding : SendBinding) :
    Decidable (controller.Conflicts attemptId binding) :=
  inferInstanceAs (Decidable (∃ existing ∈ _, _))

/-- The changes of `recover_durable_submission_uncertainty` for one finding. -/
def recoverFinding : Finding → Finset String → Except RecoveryError
    (RecoveryController × Finset String)
  | .settled, recovered => .ok (controller, recovered)
  | .legacy key, recovered =>
      .ok ({ controller with
        unresolvedSendAttempts := insert key controller.unresolvedSendAttempts
        unresolvedAttempts := insert key controller.unresolvedAttempts
        reasonCodes := controller.reasonCodes ∪ {.legacySubmissionIdentityUnrecoverable} },
        insert key recovered)
  | .ambiguous attemptId binding identity, recovered =>
      if controller.Conflicts attemptId binding then
        .error (.runtime "Durable ambiguous submission conflicts with recovered identity")
      else .ok ({ controller.bound attemptId binding with
        recoveredUnknownIdentities :=
          controller.recoveredUnknownIdentities.set attemptId identity },
        insert attemptId recovered)

section Recovery

variable [Fingerprint] [CaseMap]

/-- The loop of `recover_durable_submission_uncertainty`.  It keeps its changes
when it raises. -/
def recoverGroups (scope : SubmissionScope) : List (String × List SubmissionRow) →
    RecoveryController → Finset String →
    RecoveryController × Except RecoveryError (Finset String)
  | [], controller, recovered => (controller, .ok recovered)
  | (aggregateId, rows) :: rest, controller, recovered =>
      match finding scope aggregateId rows with
      | .error error => (controller, .error error)
      | .ok found =>
          match controller.recoverFinding found recovered with
          | .error error => (controller, .error error)
          | .ok (next, recovered) => recoverGroups scope rest next recovered

omit [Fingerprint] [CaseMap] in
theorem trans_texts : IsTrans String (· ≤ ·) := inferInstance

omit [Fingerprint] [CaseMap] in
theorem antisymm_texts : Std.Antisymm (α := String) (· ≤ ·) := inferInstance

attribute [local instance] trans_texts antisymm_texts in
/-- `recover_durable_submission_uncertainty` of the rows it loads. -/
def recoverRows (scope : SubmissionScope) (rows : List SubmissionRow) :
    RecoveryController × Except RecoveryError (List String) :=
  match recoverGroups scope (grouped rows).entries controller ∅ with
  | (next, .error error) => (next, .error error)
  | (next, .ok recovered) =>
      if recovered = ∅ then (next, .ok [])
      else (recomputeState { next with
        providerReconciled := false
        reasonCodes := next.reasonCodes ∪ {.providerUncertainty} },
        .ok (recovered.sort (· ≤ ·)))

end Recovery

/-- The fields after a search that found no checkpoint. -/
def withoutCheckpoint : RecoveryController :=
  recomputeState { controller with
    providerReconciled := false
    reasonCodes := controller.reasonCodes ∪
      {.startupReconciliationRequired, .providerUncertainty} }

/-- The reason codes after a reconciliation. -/
def reconciledCodes (reconciled : Bool) : Finset ReasonCode :=
  if reconciled then
    controller.reasonCodes \
      {.startupReconciliationRequired, .clockRequalificationRequired, .providerUncertainty}
  else controller.reasonCodes ∪ {.providerUncertainty}

/-- The fields after an accepted checkpoint. -/
def accepted (payload : CheckpointPayload) (verdict : ResolutionVerdict) : RecoveryController :=
  let sticky := controller.unresolvedSendAttempts \ verdict.terminallyResolved
  let unresolved := sticky ∪ verdict.reportedUnresolved
  let reconciled := payload.complete && payload.snapshotConsistent &&
    payload.activityCoverageComplete && unresolved = ∅
  recomputeState { controller with
    unresolvedSendAttempts := sticky
    unresolvedSendBindings := controller.unresolvedSendBindings.filterKeys
      (· ∉ verdict.terminallyResolved)
    recoveredUnknownIdentities := controller.recoveredUnknownIdentities.filterKeys
      (· ∉ verdict.terminallyResolved)
    unresolvedAttempts := unresolved
    providerReconciled := reconciled
    reasonCodes := controller.reconciledCodes reconciled }

/-- `record_reconciliation_checkpoint` of the checkpoint it loads. -/
def acceptCheckpoint [CaseMap] (payload : CheckpointPayload) (eventId : String) :
    Except RecoveryError RecoveryController := do
  let verdict ← checkpointVerdict payload controller.recoveredUnknownIdentities
  if eventId = "" then
    throw (.runtime "Reconciliation checkpoint durable identity is invalid")
  pure (controller.accepted payload verdict)

/-- The fields that `record_reconciliation` assigns. -/
def reconciled (consistent : Bool) (uncertainty : List String) :
    Except RecoveryError RecoveryController := do
  if controller.durable then
    throw (.permission "Durable recovery requires a journal-issued reconciliation checkpoint")
  if !controller.storageWritable then
    throw (.permission "Reconciliation cannot establish readiness without durable journal")
  if ∃ item ∈ uncertainty, strip item = "" then
    throw (.value "reconciliation uncertainty identities must be non-empty strings")
  let unresolved := controller.unresolvedSendAttempts ∪ (uncertainty.map strip).toFinset
  let consistent := consistent && unresolved = ∅
  pure <| recomputeState { controller with
    unresolvedAttempts := unresolved
    providerReconciled := consistent
    reasonCodes := controller.reconciledCodes consistent }

/-- `set_storage_writable`. -/
def withStorage (writable : Bool) : RecoveryController :=
  if writable then
    recomputeState { controller with
      storageWritable := true
      reasonCodes := controller.reasonCodes.erase .durableJournalUnavailable }
  else
    recomputeState { controller with
      storageWritable := false
      providerReconciled := false
      reasonCodes := controller.reasonCodes ∪
        {.durableJournalUnavailable, .startupReconciliationRequired} }

/-- The fields that `set_clock_trusted` assigns. -/
def withClock (trusted : Bool) : RecoveryController :=
  if trusted then
    recomputeState { controller with
      clockTrusted := true
      reasonCodes := controller.reasonCodes.erase .clockUntrusted }
  else
    recomputeState { controller with
      clockTrusted := false
      providerReconciled := false
      reasonCodes := controller.reasonCodes ∪
        {.clockUntrusted, .clockRequalificationRequired, .startupReconciliationRequired} }

/-- `note_unknown_send`. -/
def noted (attempt : OutboundAttempt) : Except RecoveryError RecoveryController := do
  if attempt.phase ≠ .sentUnknown then
    throw (.value "Only uncertain sent attempts block readiness")
  if attempt.evidence.length ≠ 1 then
    throw (.value "uncertain send must retain exactly one durable send-start evidence ref")
  let binding : SendBinding := ⟨attempt.intentId, attempt.ownerEpoch, attempt.evidence⟩
  if controller.Conflicts attempt.attemptId binding then
    throw (.value "attempt_id is already bound to different unresolved send identity")
  pure <| recomputeState { controller.bound attempt.attemptId binding with
    providerReconciled := false
    reasonCodes := controller.reasonCodes ∪ {.providerUncertainty} }

/-- The fields after the resolution of an attempt. -/
def released (attemptId : String) : RecoveryController :=
  recomputeState { controller with
    unresolvedSendBindings := controller.unresolvedSendBindings.filterKeys (· ≠ attemptId)
    unresolvedSendAttempts := controller.unresolvedSendAttempts.erase attemptId
    unresolvedAttempts := controller.unresolvedAttempts.erase attemptId
    reasonCodes := if controller.unresolvedAttempts.erase attemptId = ∅ then
      controller.reasonCodes.erase .providerUncertainty
      else controller.reasonCodes }

/-- `resolve_attempt`. -/
def resolved (attempt : OutboundAttempt) : Except RecoveryError RecoveryController :=
  if attempt.phase ∉ [.acknowledged, .rejected, .provenAbsent] then
    .error (.value "Attempt is not externally resolved")
  else match controller.unresolvedSendBindings.get? attempt.attemptId with
    | none => .error (.value "Attempt was not recorded as an unresolved send")
    | some binding =>
        if attempt.intentId ≠ binding.intentId ∨ attempt.ownerEpoch ≠ binding.ownerEpoch then
          .error (.value "Resolved attempt identity does not match unresolved send")
        else if attempt.evidence.take binding.evidence.length ≠ binding.evidence then
          .error (.value "Resolved attempt does not preserve original send evidence")
        else if attempt.evidence.length ≤ binding.evidence.length then
          .error (.value "External resolution requires new terminal evidence")
        else if attempt.phase = .acknowledged ∧ attempt.providerOrderId.getD "" = "" then
          .error (.value "Acknowledged resolution requires provider order identity")
        else .ok (controller.released attempt.attemptId)

/-- `transfer_owner`, which a durable controller never does. -/
def transferred (newOwnerId : String) (oldSenderFenced reconciled : Bool) :
    Except RecoveryError RecoveryController :=
  match controller.owner with
  | none => .error (.runtime "No current owner to transfer")
  | some owner =>
      if strip newOwnerId = "" then .error (.value "New owner identity is required")
      else if strip newOwnerId = owner.ownerId then
        .error (.value "New owner must differ from current owner")
      else if controller.durable then
        .error (.permission
          "Durable owner transfer requires independently issued takeover evidence")
      else if !oldSenderFenced then
        .error (.permission "Old sender must be externally fenced")
      else if !reconciled ∨ !controller.providerReconciled ∨ controller.unresolvedAttempts ≠ ∅ then
        .error (.permission "Ownership transfer requires recorded current reconciliation")
      else .ok { controller with
        owner := some ⟨strip newOwnerId, owner.epoch + 1⟩
        providerReconciled := false
        reasonCodes := controller.reasonCodes.erase .leaseExpiredNoFailover ∪
          {.startupReconciliationRequired}
        state := .recovering }

/-- `on_lease_expired`. -/
def leaseExpired : RecoveryController :=
  if controller.owner = none then controller
  else { controller with
    reasonCodes := controller.reasonCodes ∪ {.leaseExpiredNoFailover}
    state := if controller.state = .ready then .degraded else controller.state }

/-- `stop`. -/
def halted : RecoveryController :=
  { controller with
    state := .stopped
    owner := none
    providerReconciled := false
    reasonCodes := {.stopped}
    unresolvedAttempts := ∅
    unresolvedSendAttempts := ∅
    unresolvedSendBindings := ∅
    recoveredUnknownIdentities := ∅ }

end RecoveryController

/-! ## Calls -/

/-- How the rows of a journal read as submission rows. -/
class SubmissionView (π : Type) where
  row : Envelope π → SubmissionRow

/-- What `record_reconciliation_checkpoint` returns. -/
structure CheckpointEvidence where
  eventId : String
  journalSequence : Nat
  owner : OwnerFence
  deriving DecidableEq, Repr

section Calls

variable {π κ : Type} [DecidableEq π] [DecidableEq κ] [Carries RecoveryEvent π]
  [Carries CheckpointEvent π] [Carries RecoveryCommand κ] [SubmissionView π] [Fingerprint]
  [CaseMap]

/-- A computation of a controller. -/
abbrev Controlling (π κ α : Type) : Type :=
  Party (Journal π κ) RecoveryController RecoveryError α

/-- The fields of a new controller. -/
def RecoveryController.fresh (durable : Bool) (ownerScope : String) (clockTrusted : Bool) :
    RecoveryController where
  durable := durable
  ownerScope := ownerScope
  state := .stopped
  owner := none
  reasonCodes := ∅
  unresolvedAttempts := ∅
  unresolvedSendAttempts := ∅
  unresolvedSendBindings := ∅
  recoveredUnknownIdentities := ∅
  storageWritable := true
  clockTrusted := clockTrusted
  providerReconciled := false

/-- `RecoveryController.__init__`, with a journal if it is durable. -/
def RecoveryController.create (durable : Bool) (ownerScope : String) :
    Recording π κ RecoveryController := do
  if strip ownerScope = "" then throw (.value "owner_scope is required")
  if ¬ durable then pure (fresh false (strip ownerScope) true)
  else do
    let incidents ← loadChain (strip ownerScope) none
    pure (fresh true (strip ownerScope) (trustedAfter incidents))

/-- One step of the loop of `durable_owner_chain`. -/
def durableOwner (numbered : Envelope π × Nat) : Except RecoveryError OwnerFence :=
  match recoveryEvent? numbered.1 with
  | some (.owner eventType ownerId ownerEpoch) =>
      if eventType ≠ ownerEventType then
        .error (.runtime "Recovery owner journal contains unsupported event type")
      else if strip ownerId = "" then
        .error (.runtime "Recovery owner journal contains invalid owner identity")
      else match canonicalEpoch? ownerEpoch with
        | none => .error (.runtime "Recovery owner journal contains invalid owner epoch")
        | some epoch =>
            if numbered.1.aggregateVersion ≠ numbered.2 ∨ epoch ≠ numbered.2 then
              .error (.runtime "Recovery owner journal epoch/version chain is invalid")
            else .ok ⟨strip ownerId, epoch⟩
  | _ => .error (.runtime "Recovery owner journal contains unsupported event type")

/-- `_latest_durable_owner`. -/
def latestDurableOwner : Controlling π κ (Option OwnerFence) := do
  let controller ← get
  if ¬ controller.durable then pure none
  else do
    let rows ← Party.ask (Raising.read fun journal =>
      journal.loadEvents (ownerAggregate controller.ownerScope))
    let chain ← Party.ofExcept ((rows.zipIdx 1).mapM durableOwner)
    pure chain.getLast?

/-- `_require_current_durable_owner`. -/
def requireCurrentDurableOwner : Controlling π κ Unit := do
  let controller ← get
  if ¬ controller.durable ∨ controller.owner = none then pure ()
  else do
    let durable ← latestDurableOwner
    if durable ≠ controller.owner then
      throw (.permission "Durable sender fence no longer belongs to this owner")

/-- `recover_durable_submission_uncertainty`. -/
def recoverDurableSubmissionUncertainty (environment accountId : String) :
    Controlling π κ (List String) := do
  let controller ← get
  if ¬ controller.durable then
    throw (.permission "Durable submission recovery requires a journal-backed controller")
  let scope ← Party.ofExcept (SubmissionScope.create environment accountId)
  let rows ← Party.ask (Raising.read fun journal =>
    (journal.loadEventsByAggregateType "submission_attempt").map SubmissionView.row)
  if ∃ row ∈ rows, row.aggregateId = "" then
    throw (.runtime "Submission journal aggregate identity is invalid")
  Party.change fun controller => controller.recoverRows scope rows

/-- `owner_scope.split(":", 1)`. -/
def splitScope (ownerScope : String) : Option (String × String) :=
  let characters := ownerScope.toList
  if ':' ∈ characters then
    some (String.ofList (characters.takeWhile (· ≠ ':')),
      String.ofList ((characters.dropWhile (· ≠ ':')).drop 1))
  else none

/-- `_recover_scoped_submission_uncertainty_from_owner_scope`. -/
def recoverOwnerScope : Controlling π κ Unit := do
  let controller ← get
  match splitScope controller.ownerScope with
  | none => pure ()
  | some (environment, accountId) =>
      if ¬ controller.durable ∨ Environment.ofText environment = none then pure ()
      else do
        let _ ← recoverDurableSubmissionUncertainty environment accountId
        pure ()

/-- `_append_durable_owner`. -/
def appendOwner (owner : OwnerFence) (now : Instant) : Controlling π κ Unit := do
  let controller ← get
  if ¬ controller.durable then pure ()
  else do
    let _ ← Party.ask (appendDurableOwner controller.ownerScope owner now)
    pure ()

/-- `start`.  The sender gate only excludes interleavings. -/
def start (ownerId : String) (now : Instant) : Controlling π κ OwnerFence := do
  if strip ownerId = "" then throw (.value "Owner identity is required")
  let controller ← get
  if controller.owner ≠ none then throw (.runtime "Host already has an owner")
  let durable ← latestDurableOwner
  if controller.durable ∧ durable ≠ none then
    throw (.permission
      "Durable owner already exists; independently authorized takeover is required")
  let candidate : OwnerFence := ⟨strip ownerId, durable.elim 1 fun owner => owner.epoch + 1⟩
  appendOwner candidate now
  Party.change fun controller => (controller.started candidate, .ok ())
  recoverOwnerScope
  pure candidate

/-- `record_reconciliation_checkpoint`. -/
def recordCheckpoint (query : CheckpointQuery) : Controlling π κ CheckpointEvidence := do
  let controller ← get
  match controller.owner with
  | none => throw (.runtime "No active owner")
  | some owner => do
      if ¬ controller.durable then
        throw (.permission "Journal-issued reconciliation requires a durable owner store")
      requireCurrentDurableOwner
      if ¬ controller.storageWritable then
        throw (.permission "Reconciliation cannot establish readiness without durable journal")
      let checkpoint ← Party.ask
        (loadCheckpointForReadiness query owner.ownerId (Nat.repr owner.epoch))
      match checkpoint with
      | none => do
          Party.change fun controller => (controller.withoutCheckpoint, .ok ())
          throw (.permission
            "No current reconciliation checkpoint is bound to this recovery owner")
      | some (row, payload) => do
          Party.update fun controller => controller.acceptCheckpoint payload row.1.eventId
          pure ⟨row.1.eventId, row.2, owner⟩

/-- `record_reconciliation`. -/
def recordReconciliation (consistent : Bool) (uncertainty : List String) :
    Controlling π κ Unit := do
  let controller ← get
  if controller.owner = none then throw (.runtime "No active owner")
  requireCurrentDurableOwner
  Party.update fun controller => controller.reconciled consistent uncertainty

/-- The arguments of the transition that `set_clock_trusted` appends. -/
def clockTransition (controller : RecoveryController) (owner : OwnerFence) (trusted : Bool)
    (reasonCode evidenceRef : Option String) (now : Instant) : TransitionArgs where
  ownerScope := controller.ownerScope
  ownerId := owner.ownerId
  ownerEpoch := owner.epoch
  trusted := trusted
  reasonCode := reasonCode.getD (if trusted then "clock-trust-restored" else "clock-untrusted")
  evidenceRef := evidenceRef
  committedAt := now

/-- The first part of `set_clock_trusted`. -/
def recordClockTransition (trusted : Bool) (reasonCode evidenceRef : Option String)
    (now : Instant) : Controlling π κ Unit := do
  let controller ← get
  if ¬ (controller.durable ∧ trusted ≠ controller.clockTrusted) then pure ()
  else
    match controller.owner with
    | none =>
        throw (.permission
          "Durable clock trust transition requires an active recovery owner")
    | some owner => do
        let _ ← Party.ask (appendClockTrustTransition
          (clockTransition controller owner trusted reasonCode evidenceRef now))
        pure ()

/-- `set_clock_trusted`. -/
def setClockTrusted (trusted : Bool) (reasonCode evidenceRef : Option String) (now : Instant) :
    Controlling π κ Unit := do
  recordClockTransition trusted reasonCode evidenceRef now
  Party.change fun controller => (controller.withClock trusted, .ok ())

/-- A call of a public operation. -/
inductive Call where
  | start (ownerId : String)
  | recoverDurableSubmissionUncertainty (environment accountId : String)
  | recordReconciliation (consistent : Bool) (uncertainty : List String)
  | recordReconciliationCheckpoint (query : CheckpointQuery)
  | setStorageWritable (writable : Bool)
  | setClockTrusted (trusted : Bool) (reasonCode evidenceRef : Option String)
  | noteUnknownSend (attempt : OutboundAttempt)
  | resolveAttempt (attempt : OutboundAttempt)
  | transferOwner (newOwnerId : String) (oldSenderFenced reconciled : Bool)
  | onLeaseExpired
  | stop

/-- What a call returns. -/
inductive Answer where
  | nothing
  | owner (fence : Option OwnerFence)
  | recovered (attempts : List String)
  | evidence (evidence : CheckpointEvidence)
  deriving DecidableEq, Repr

/-- A call at a time. -/
def Call.perform (now : Instant) : (call : Call) → Controlling π κ Answer
  | .start ownerId => do
      let fence ← Recovery.start ownerId now
      pure (.owner fence)
  | .recoverDurableSubmissionUncertainty environment accountId => do
      let attempts ← Recovery.recoverDurableSubmissionUncertainty environment accountId
      pure (.recovered attempts)
  | .recordReconciliation consistent uncertainty => do
      Recovery.recordReconciliation consistent uncertainty
      pure .nothing
  | .recordReconciliationCheckpoint query => do
      let evidence ← recordCheckpoint query
      pure (.evidence evidence)
  | .setStorageWritable writable =>
      Party.change fun controller => (controller.withStorage writable, .ok .nothing)
  | .setClockTrusted trusted reasonCode evidenceRef => do
      Recovery.setClockTrusted trusted reasonCode evidenceRef now
      pure .nothing
  | .noteUnknownSend attempt => do
      Party.update fun controller => controller.noted attempt
      pure .nothing
  | .resolveAttempt attempt => do
      Party.update fun controller => controller.resolved attempt
      pure .nothing
  | .transferOwner newOwnerId oldSenderFenced reconciled => do
      Party.update fun controller => controller.transferred newOwnerId oldSenderFenced reconciled
      let controller ← get
      pure (.owner controller.owner)
  | .onLeaseExpired => Party.change fun controller => (controller.leaseExpired, .ok .nothing)
  | .stop => Party.change fun controller => (controller.halted, .ok .nothing)

/-! ## Runs -/

/-- A controller on a journal.  `established` is no field of the source: it is the
journal sequence of the checkpoint that the last call accepted. -/
structure Host (π κ : Type) where
  controller : RecoveryController
  journal : Journal π κ
  established : Option Nat

/-- The checkpoint that is accepted after a call. -/
def establishedBy (result : Except RecoveryError Answer) (before : Option Nat) : Option Nat :=
  match result with
  | .ok (.evidence evidence) => some evidence.journalSequence
  | _ => before

namespace Host

/-- One call, with the changes of others between its accesses of the journal. -/
def Performs (outside : Journal π κ → Journal π κ → Prop) (host : Host π κ) (call : Call)
    (result : Except RecoveryError Answer) (next : Host π κ) : Prop :=
  (∃ now, Party.Ends outside (call.perform now) host.journal host.controller next.journal
    next.controller result) ∧ next.established = establishedBy result host.established

/-- One step of a run: others change the journal, or a permitted call. -/
inductive Steps (outside : Journal π κ → Journal π κ → Prop)
    (permitted : Host π κ → Call → Except RecoveryError Answer → Host π κ → Prop) :
    Host π κ → Host π κ → Prop where
  | outside {host : Host π κ} {later : Journal π κ} (moved : outside host.journal later) :
      Steps outside permitted host { host with journal := later }
  | call {host next : Host π κ} {call : Call} {result : Except RecoveryError Answer}
      (allowed : permitted host call result next)
      (performs : Performs outside host call result next) :
      Steps outside permitted host next

/-- Every sequence of calls that are permitted. -/
def Runs (outside : Journal π κ → Journal π κ → Prop)
    (permitted : Host π κ → Call → Except RecoveryError Answer → Host π κ → Prop) :
    Host π κ → Host π κ → Prop :=
  Relation.ReflTransGen (Steps outside permitted)

/-- The host after another writer appended a row. -/
def append (host : Host π κ) (row : Envelope π) : Host π κ :=
  match host.journal.appendEvent row none with
  | .ok (journal, _) => { host with journal := journal }
  | .error _ => host

/-- The host after a call without interference. -/
def after (host : Host π κ) (call : Call) : Host π κ :=
  let ended := (call.perform ⟨0⟩ : Controlling π κ Answer).play host.journal host.controller
  ⟨ended.2.2, ended.1, establishedBy ended.2.1 host.established⟩

theorem performs_after (outside : Journal π κ → Journal π κ → Prop) (host : Host π κ)
    (call : Call) : ∃ result, Performs outside host call result (host.after call) :=
  ⟨_, ⟨⟨0⟩, Party.ends_play _ _ _⟩, rfl⟩

end Host

end Calls

end AutoTrade.Recovery
