import AutoTrade.Recovery.ClockIncident

/-!
# Reconciliation checkpoints

The part of `reconciliation_journal.py` that loads the checkpoint of provider
truth that may establish readiness.  The body of a checkpoint is kept with the
members that recovery reads; the other members are one text.
-/

namespace AutoTrade.Recovery

open Lib Store

/-- An item of `submission_resolutions`. -/
structure CheckpointResolution where
  attemptId : Option String
  intentId : Option String
  clientOrderId : Option String
  outcome : String
  evidenceReason : String
  providerOrderIds : List String
  providerExecutionIds : List String
  deriving DecidableEq, Repr

/-- The payload of `AccountReconciled`.  `details` is the text of the members
that no function here reads. -/
structure CheckpointPayload where
  providerId : String
  accountId : String
  environment : String
  providerEnvironment : Option String
  observedAt : Instant
  complete : Bool
  snapshotConsistent : Bool
  activityCoverageComplete : Bool
  submissionResolutions : List CheckpointResolution
  blockingResources : List String
  /-- `host_id` and `owner_epoch` of `checkpoint_owner`. -/
  checkpointOwner : Option (String × String)
  details : String
  deriving DecidableEq, Repr

structure CheckpointEvent where
  eventType : String
  payload : CheckpointPayload
  deriving DecidableEq, Repr

/-- The arguments that name a checkpoint. -/
structure CheckpointQuery where
  reconciliationId : String
  providerId : String
  accountId : String
  environment : String
  providerEnvironment : Option String
  deriving DecidableEq, Repr

/-- The result of `_scope`. -/
structure ReconciliationScope where
  providerId : String
  accountId : String
  environment : String
  providerEnvironment : String
  deriving DecidableEq, Repr

def accountReconciled : String := "AccountReconciled"

/-- The aggregate type of checkpoints. -/
def reconciliationType : String := "account_reconciliation"

/-- `_text`. -/
def requiredText (value name : String) : Except RecoveryError String :=
  if strip value = "" then .error (.value (name ++ " is required")) else .ok (strip value)

section Scopes

variable [CaseMap] [Fingerprint]

/-- `_scope`. -/
def CheckpointQuery.scope (query : CheckpointQuery) :
    Except RecoveryError ReconciliationScope := do
  let provider ← (requiredText query.providerId "provider_id").map upper
  let account ← requiredText query.accountId "account_id"
  let runtime ← (requiredText query.environment "environment").map upper
  if provider = "BYBIT" ∧ query.providerEnvironment = none then
    throw (.value "BYBIT reconciliation requires explicit provider_environment")
  let providerScope ← match query.providerEnvironment with
    | none => pure runtime
    | some environment => (requiredText environment "provider_environment").map upper
  if provider = "BYBIT" ∧ providerScope ∉ ["MAINNET", "TESTNET", "DEMO"] then
    throw (.value "BYBIT provider_environment must be MAINNET, TESTNET or DEMO")
  if provider = "BYBIT" ∧ runtime ≠ (if providerScope = "MAINNET" then "LIVE" else "PAPER") then
    throw (.value "BYBIT provider_environment does not match runtime environment")
  pure ⟨provider, account, runtime, providerScope⟩

/-- `_reconciliation_aggregate_id` in its aggregate. -/
def checkpointAggregate (reconciliationId : String) (scope : ReconciliationScope) :
    Aggregate where
  aggregateType := reconciliationType
  aggregateId := "account-reconciliation:" ++ uuid5
    ("https://events.autotrade.local/reconciliation-scope/" ++
      canonicalJson ([scope.providerId, scope.accountId, scope.environment] ++
        (if scope.providerEnvironment ≠ scope.environment then [scope.providerEnvironment]
          else []) ++ [reconciliationId]))

/-- The payload is of the scope. -/
def CheckpointPayload.InScope (payload : CheckpointPayload) (scope : ReconciliationScope) : Prop :=
  payload.providerId = scope.providerId ∧ payload.accountId = scope.accountId ∧
    payload.environment = scope.environment ∧
    payload.providerEnvironment.getD scope.environment = scope.providerEnvironment

instance (payload : CheckpointPayload) (scope : ReconciliationScope) :
    Decidable (payload.InScope scope) := inferInstanceAs (Decidable (_ ∧ _))

/-- `_checkpoint_owner`. -/
def CheckpointPayload.owner (payload : CheckpointPayload) :
    Except RecoveryError (String × String) :=
  match payload.checkpointOwner with
  | none => .error (.value "checkpoint owner identity is required")
  | some (hostId, ownerEpoch) => do
      let hostId ← requiredText hostId "checkpoint_owner.host_id"
      let ownerEpoch ← requiredText ownerEpoch "checkpoint_owner.owner_epoch"
      pure (hostId, ownerEpoch)

/-- `_require_negative_resolution_authority`. -/
def requireNegativeResolutionAuthority (payload : CheckpointPayload) :
    Except RecoveryError Unit := do
  let provider ← (requiredText payload.providerId "provider_id").map upper
  let environment ← (requiredText payload.environment "environment").map upper
  if environment ∉ ["PAPER", "LIVE"] ∨ environment = "PAPER" ∧ provider = "SIMULATED" then pure ()
  else payload.submissionResolutions.forM fun resolution => do
    let outcome ← requiredText resolution.outcome "outcome"
    if upper outcome = "PROVEN_ABSENT" then
      throw (.value ("PAPER/LIVE real-provider PROVEN_ABSENT requires accepted " ++
        "provider coverage authority"))

/-- `payload_digest`, of the members in a fixed order. -/
def CheckpointPayload.digest (payload : CheckpointPayload) : String :=
  "sha256:" ++ identityDigest [payload.providerId, payload.accountId, payload.environment,
    payload.providerEnvironment.getD "", toString payload.observedAt.microseconds,
    toString payload.complete, toString payload.snapshotConsistent,
    toString payload.activityCoverageComplete,
    canonicalJson (payload.submissionResolutions.map fun resolution => canonicalJson
      [resolution.attemptId.getD "", resolution.intentId.getD "",
        resolution.clientOrderId.getD "", resolution.outcome, resolution.evidenceReason,
        canonicalJson resolution.providerOrderIds,
        canonicalJson resolution.providerExecutionIds]),
    canonicalJson payload.blockingResources,
    canonicalJson (payload.checkpointOwner.elim [] fun owner => [owner.1, owner.2]),
    payload.details]

end Scopes

section Programs

variable {π κ : Type} [Carries CheckpointEvent π] [Fingerprint] [CaseMap]

/-- The checkpoint of a row. -/
def checkpoint? (row : Envelope π) : Option CheckpointEvent := Carries.view row.body

/-- The rows of an aggregate type with their journal sequence. -/
def rowsOfType (events : List (Envelope π)) (aggregateType : String) : List (Envelope π × Nat) :=
  (events.zipIdx 1).filter fun row => row.1.aggregate.aggregateType = aggregateType

/-- `_require_checkpoint_scope`. -/
def requireCheckpointScope (row : Envelope π) (scope : ReconciliationScope) :
    Except RecoveryError CheckpointPayload :=
  match checkpoint? row with
  | none => .error (.value "checkpoint payload is required")
  | some event =>
      if event.payload.InScope scope then .ok event.payload
      else .error (.value "checkpoint reconciliation scope mismatch")

/-- `load_latest_reconciliation_checkpoint` of the rows it loads. -/
def latestCheckpoint (rows : List (Envelope π × Nat)) (scope : ReconciliationScope) :
    Except RecoveryError (Option ((Envelope π × Nat) × CheckpointPayload)) :=
  match rows.getLast? with
  | none => .ok none
  | some row => do
      let payload ← requireCheckpointScope row.1 scope
      requireNegativeResolutionAuthority payload
      pure (some (row, payload))

/-- One step of the loop of `load_latest_reconciliation_checkpoint_for_scope`. -/
def scopeStep (scope : ReconciliationScope)
    (latest : Option ((Envelope π × Nat) × CheckpointPayload))
    (row : Envelope π × Nat) :
    Except RecoveryError (Option ((Envelope π × Nat) × CheckpointPayload)) :=
  match checkpoint? row.1 with
  | none => .error (.value "reconciliation checkpoint payload is required")
  | some event =>
      if event.eventType ≠ accountReconciled ∨ ¬ event.payload.InScope scope then .ok latest
      else if row.1.aggregateVersion = 0 then
        .error (.value
          "reconciliation checkpoint aggregate_version must be a positive integer")
      else .ok (some (row, event.payload))

/-- `load_latest_reconciliation_checkpoint_for_scope` of the rows it loads. -/
def latestCheckpointForScope (rows : List (Envelope π × Nat)) (scope : ReconciliationScope) :
    Except RecoveryError (Option ((Envelope π × Nat) × CheckpointPayload)) := do
  let latest ← rows.foldlM (scopeStep scope) none
  match latest with
  | none => pure none
  | some (row, payload) => do
      requireNegativeResolutionAuthority payload
      pure (some (row, payload))

/-- The last part of `load_reconciliation_checkpoint_for_readiness`: the checkpoint
is the latest of its scope and bound to the owner. -/
def readyCheckpoint (scope : ReconciliationScope) (found : (Envelope π × Nat) × CheckpointPayload)
    (rows : List (Envelope π × Nat)) (hostId ownerEpoch : String) :
    Except RecoveryError (Option ((Envelope π × Nat) × CheckpointPayload)) := do
  let latest ← latestCheckpointForScope rows scope
  if latest.map (fun latest => latest.1.1.eventId) ≠ some found.1.1.eventId then
    throw (.value "readiness requires the latest reconciliation checkpoint for scope")
  let owner ← found.2.owner
  let expectedHost ← requiredText hostId "host_id"
  let expectedEpoch ← requiredText ownerEpoch "owner_epoch"
  pure (if owner = (expectedHost, expectedEpoch) then some found else none)

/-- The rows of the checkpoints that a query names. -/
def checkpointRows (events : List (Envelope π)) (reconciliationId : String)
    (scope : ReconciliationScope) : List (Envelope π × Nat) :=
  eventsAtOrBeforeCut events (checkpointAggregate reconciliationId scope) none

/-- `load_reconciliation_checkpoint_for_readiness`. -/
def loadCheckpointForReadiness (query : CheckpointQuery) (hostId ownerEpoch : String) :
    Recording π κ (Option ((Envelope π × Nat) × CheckpointPayload)) := do
  let reconciliationId ← Raising.ofExcept
    (requiredText query.reconciliationId "reconciliation_id")
  let scope ← Raising.ofExcept query.scope
  let rows ← Raising.read fun journal => checkpointRows journal.events reconciliationId scope
  let checkpoint ← Raising.ofExcept (latestCheckpoint rows scope)
  match checkpoint with
  | none => pure none
  | some found => do
      let rows ← Raising.read fun journal => rowsOfType journal.events reconciliationType
      Raising.ofExcept (readyCheckpoint scope found rows hostId ownerEpoch)

/-- The envelope of a checkpoint. -/
def checkpointEnvelope (aggregate : Aggregate) (version : Nat) (payload : CheckpointPayload) :
    Envelope π where
  eventId := uuid5 ("https://events.autotrade.local/reconciliation/" ++ aggregate.aggregateId ++
    "/" ++ Nat.repr version ++ "/" ++ payload.digest)
  aggregate := aggregate
  aggregateVersion := version
  committedAt := payload.observedAt
  body := Carries.embed (CheckpointEvent.mk accountReconciled payload)
  outboxTopic := some "autotrade.reconciliation.events"

end Programs

end AutoTrade.Recovery
