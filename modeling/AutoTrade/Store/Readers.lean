import AutoTrade.Store.Tables
import Mathlib.Data.Prod.Lex

/-!
# Readers, delivery and checkpoints

The rest of `JournalStore`: the event loaders, the outbox worker's reads and its
acknowledgement, and the projection checkpoints.
-/

namespace AutoTrade.Store.Tables

open Lib

variable {F : Type} [FloatText F] [DecidableEq F] [Fingerprint]

/-! ## Loading events -/

section Loading

variable [TextFormats]

/-- A row that was selected with its `journal_sequence`, decoded. -/
def decodeRow (row : EventRow) : Except StoreError (Json F) :=
  decodeEventRow row.toEventCore (some row.journalSequence)

/-- `get_event`. -/
def getEvent (tables : Tables) (eventId : String) : Except StoreError (Option (Json F)) := do
  let eventId ← requireText eventId "event_id"
  match tables.eventRow? eventId with
  | none => pure none
  | some row => (decodeRow row).map some

/-- `load_events`. -/
def loadEvents (tables : Tables) (aggregateType aggregateId : String) :
    Except StoreError (List (Json F)) := do
  let aggregateType ← requireText aggregateType "aggregate_type"
  let aggregateId ← requireText aggregateId "aggregate_id"
  ((tables.rowsOf aggregateType aggregateId).insertionSort fun left right =>
    left.aggregateVersion ≤ right.aggregateVersion).mapM decodeRow

/-- The journal sequences of a page follow each other. -/
def checkPage : (expected : Nat) → List (Json F) → Except StoreError Unit
  | _, [] => .ok ()
  | expected, event :: rest =>
      if event.get? "journal_sequence" ≠ some (.int expected) then
        .error (.valueError ("journal events after cut are not contiguous; " ++
          "qualification cannot infer conservation"))
      else checkPage (expected + 1) rest

/-- `load_events_after_journal_sequence`. -/
def loadEventsAfterJournalSequence (tables : Tables) (afterSequence limit : Nat) :
    Except StoreError (List (Json F)) := do
  if limit < 1 ∨ 100000 < limit then
    throw (.valueError "limit must be between 1 and 100000")
  let current ← tables.journalSequenceValue
  if current < afterSequence then
    throw (.valueError "after_sequence cannot be ahead of the journal")
  let rows := ((tables.events.filter fun row => afterSequence < row.journalSequence).insertionSort
    fun left right => left.journalSequence ≤ right.journalSequence).take limit
  let decoded ← rows.mapM decodeRow
  checkPage (afterSequence + 1) decoded
  pure decoded

end Loading

/-! ## The outbox -/

section Outbox

variable (F)

/-- The hash of an outbox row is the one of its topic and payload. -/
def checkOutboxHash (row : OutboxRow) : Except StoreError Unit := do
  requireCanonicalColumn row.topic "outbox topic"
  let actual ← outboxEnvelopeDigest F row.topic row.payloadJson
  if row.envelopeHash ≠ actual then
    throw (.valueError "outbox envelope hash does not match stored payload")

variable {F} [TextFormats]

/-- An outbox row publishes the envelope of its event; the payload. -/
def checkPublication (row : OutboxRow) (event : EventRow) : Except StoreError (Json F) := do
  let decoded : Json F ← decodeEventRow event.toEventCore none
  let payload ← loadCanonical row.payloadJson "outbox payload is not valid JSON"
    "outbox payload is not canonical JSON"
  let authoritative ← loadCanonical event.envelopeJson
    "journal event envelope is not valid JSON" "journal event envelope is not canonical JSON"
  checkCore event.toEventCore (payloadOf decoded) authoritative
  if row.payloadJson ≠ event.envelopeJson then
    throw (.valueError "outbox payload does not match authoritative journal event envelope")
  pure payload

/-- An entry of `pending_outbox`. -/
structure PendingEntry (F : Type) where
  outboxId : String
  eventId : String
  topic : String
  payload : Json F
  createdAt : String
  envelopeHash : String

/-- One entry of `pending_outbox`. -/
def pendingEntry (row : OutboxRow) (event : EventRow) : Except StoreError (PendingEntry F) := do
  checkOutboxHash F row
  let payload ← checkPublication row event
  requireCanonicalColumn row.outboxId "outbox_id"
  requireCanonicalColumn row.createdAt "outbox created_at"
  pure ⟨row.outboxId, event.eventId, row.topic, payload, row.createdAt, row.envelopeHash⟩

/-- The outbox rows joined with their events. -/
def publications (tables : Tables) : List (OutboxRow × EventRow) :=
  tables.outbox.filterMap fun row => (tables.eventRow? row.eventId).map fun event => (row, event)

/-- The undelivered publications, by creation time and outbox id. -/
def pendingRows (tables : Tables) (limit : Nat) : List (OutboxRow × EventRow) :=
  (((tables.publications.filter fun item => item.1.deliveredAt.isNone).insertionSort
    fun left right => toLex (left.1.createdAt, left.1.outboxId) ≤
      toLex (right.1.createdAt, right.1.outboxId)).take limit)

/-- `pending_outbox`. -/
def pendingOutbox (tables : Tables) (limit : Nat) : Except StoreError (List (PendingEntry F)) :=
  if limit < 1 ∨ 1000 < limit then
    .error (.valueError "limit must be between 1 and 1000")
  else (tables.pendingRows limit).mapM fun item => pendingEntry item.1 item.2

/-- A row after the `UPDATE` of an acknowledgement. -/
def OutboxRow.deliver (row : OutboxRow) (outboxId envelopeHash : String) (now : Reading) :
    OutboxRow :=
  if row.outboxId = outboxId ∧ row.deliveredAt = none ∧ row.envelopeHash = envelopeHash then
    { row with deliveredAt := some now.text }
  else row

variable (F) in
/-- `mark_outbox_delivered`. -/
def markOutboxDelivered (tables : Tables) (outboxId expectedEnvelopeHash : String)
    (expectedJournalSequence : Option Nat) (expectedCounts : Option WholeStoreCounts)
    (now : Reading) : Except StoreError (Tables × Bool) := do
  requireCanonicalColumn outboxId "outbox_id"
  requireCanonicalColumn expectedEnvelopeHash "expected_envelope_hash"
  match tables.publications.find? fun item => item.1.outboxId = outboxId with
  | none => .error (.keyError outboxId)
  | some (row, event) => do
      checkOutboxHash F row
      if row.envelopeHash ≠ expectedEnvelopeHash then
        throw (.valueError "outbox delivery acknowledgement is stale")
      let _ : Json F ← checkPublication row event
      let cut ← tables.journalSequenceValue
      checkCut expectedJournalSequence cut
        "journal sequence changed after whole-store validation"
      tables.checkCounts expectedCounts
        "whole-store state changed after bootstrap validation"
      match row.deliveredAt with
      | some deliveredAt => do
          requireCanonicalColumn deliveredAt "outbox delivered_at"
          pure (tables, false)
      | none => do
          let next := { tables with
            outbox := tables.outbox.map fun row =>
              OutboxRow.deliver row outboxId expectedEnvelopeHash now }
          if (tables.outbox.filter fun row => row.outboxId = outboxId ∧
              row.deliveredAt = none ∧ row.envelopeHash = expectedEnvelopeHash).length ≠ 1 then
            throw (.valueError "outbox delivery state changed before acknowledgement")
          pure (next, true)

end Outbox

/-! ## Checkpoints -/

/-- The checks of a stored checkpoint; `identity` is what its hash binds. -/
def checkStoredState (stateJson stateHash updatedAt label hashError : String)
    (identity : Json F → Json F) : Except StoreError Unit := do
  requireCanonicalColumn stateJson s!"{label} state_json"
  requireCanonicalColumn stateHash s!"{label} state_hash"
  requireCanonicalColumn updatedAt s!"{label} updated_at"
  let state ← loadCanonical stateJson s!"{label} state is not valid JSON"
    s!"{label} state is not canonical JSON"
  let expected ← payloadDigest (identity state)
  if expected ≠ stateHash then
    throw (.valueError hashError)

/-- What `_projection_checkpoint_digest` binds. -/
def checkpointIdentity (projectionName aggregateType aggregateId : String)
    (aggregateVersion : Nat) (state : Json F) : Json F :=
  .obj [("projection_name", .str projectionName), ("aggregate_type", .str aggregateType),
    ("aggregate_id", .str aggregateId), ("aggregate_version", .int aggregateVersion),
    ("state", state)]

/-- `SELECT … FROM projection_checkpoints` by its key. -/
def checkpoint? (tables : Tables) (projectionName aggregateType aggregateId : String) :
    Option CheckpointRow :=
  tables.checkpoints.find? fun row => row.projectionName = projectionName ∧
    row.aggregateType = aggregateType ∧ row.aggregateId = aggregateId

/-- `INSERT … ON CONFLICT DO UPDATE`: the row replaces the one with its key, or is
new. -/
def upsert {Row : Type} (sameKey : Row → Bool) (row : Row) : List Row → List Row
  | [] => [row]
  | other :: rest => if sameKey other then row :: rest else other :: upsert sameKey row rest

/-- The upsert on `projection_checkpoints`. -/
def upsertCheckpoint (row : CheckpointRow) (rows : List CheckpointRow) : List CheckpointRow :=
  upsert (fun other => other.projectionName = row.projectionName ∧
    other.aggregateType = row.aggregateType ∧ other.aggregateId = row.aggregateId) row rows

/-- A stored checkpoint admits one at this version: the same one, or a later
one. -/
def checkProgress (same : Bool) (version stored : Nat) (message : String) :
    Except StoreError Bool :=
  if same then .ok false
  else if version ≤ stored then .error (.valueError message)
  else .ok true

variable (F) in
/-- The checks of the checkpoint that is stored under a key. -/
def checkStoredCheckpoint (stored : Option CheckpointRow) : Except StoreError Unit :=
  match stored with
  | none => .ok ()
  | some row => checkStoredState (F := F) row.stateJson row.stateHash row.updatedAt
      "projection checkpoint"
      "projection checkpoint hash does not match identity, version, and state"
      (checkpointIdentity row.projectionName row.aggregateType row.aggregateId
        row.aggregateVersion)

/-- Whether the stored checkpoint is to be replaced. -/
def replacesCheckpoint (stored : Option CheckpointRow) (aggregateVersion : Nat)
    (stateJson stateHash : String) : Except StoreError Bool :=
  match stored with
  | none => .ok true
  | some row => checkProgress (row.aggregateVersion = aggregateVersion &&
      row.stateJson = stateJson && row.stateHash = stateHash) aggregateVersion
      row.aggregateVersion "projection checkpoint cannot regress or change at the same version"

/-- `save_projection_checkpoint`. -/
def saveProjectionCheckpoint (tables : Tables)
    (projectionName aggregateType aggregateId : String) (aggregateVersion : Nat)
    (state : Detached F) (now : Reading) : Except StoreError (Tables × Bool) := do
  let projectionName ← requireText projectionName "projection_name"
  let aggregateType ← requireText aggregateType "aggregate_type"
  let aggregateId ← requireText aggregateId "aggregate_id"
  let stateJson ← canonicalJsonText state.value
  let stateHash ← payloadDigest
    (checkpointIdentity projectionName aggregateType aggregateId aggregateVersion state.value)
  let existing := tables.checkpoint? projectionName aggregateType aggregateId
  checkStoredCheckpoint F existing
  let journalVersion ← tables.aggregateVersionValue aggregateType aggregateId
  if journalVersion < aggregateVersion then
    throw (.valueError "projection checkpoint cannot outrun the journal")
  let replaces ← replacesCheckpoint existing aggregateVersion stateJson stateHash
  if replaces then
    pure ({ tables with
      checkpoints := upsertCheckpoint ⟨projectionName, aggregateType, aggregateId,
        aggregateVersion, stateJson, stateHash, now.text⟩ tables.checkpoints }, true)
  else pure (tables, false)

/-- What the hash of a global checkpoint binds. -/
def globalCheckpointIdentity (projectionName : String) (journalSequence : Nat)
    (state : Json F) : Json F :=
  .obj [("projection_name", .str projectionName), ("journal_sequence", .int journalSequence),
    ("state", state)]

/-- `SELECT … FROM global_projection_checkpoints` by its key. -/
def globalCheckpoint? (tables : Tables) (projectionName : String) :
    Option GlobalCheckpointRow :=
  tables.globalCheckpoints.find? fun row => row.projectionName = projectionName

/-- The upsert on `global_projection_checkpoints`. -/
def upsertGlobalCheckpoint (row : GlobalCheckpointRow) (rows : List GlobalCheckpointRow) :
    List GlobalCheckpointRow :=
  upsert (fun other => other.projectionName = row.projectionName) row rows

variable (F) in
/-- The checks of the global checkpoint that is stored under a key. -/
def checkStoredGlobalCheckpoint (stored : Option GlobalCheckpointRow) : Except StoreError Unit :=
  match stored with
  | none => .ok ()
  | some row => checkStoredState (F := F) row.stateJson row.stateHash row.updatedAt
      "global projection checkpoint"
      "global projection checkpoint hash does not match identity, cut, and state"
      (globalCheckpointIdentity row.projectionName row.journalSequence)

/-- Whether the stored global checkpoint is to be replaced. -/
def replacesGlobalCheckpoint (stored : Option GlobalCheckpointRow) (journalSequence : Nat)
    (stateJson stateHash : String) : Except StoreError Bool :=
  match stored with
  | none => .ok true
  | some row => checkProgress (row.journalSequence = journalSequence &&
      row.stateJson = stateJson && row.stateHash = stateHash) journalSequence
      row.journalSequence
      "global projection checkpoint cannot regress or change at the same journal cut"

/-- `save_global_projection_checkpoint`. -/
def saveGlobalProjectionCheckpoint (tables : Tables) (projectionName : String)
    (journalSequence : Nat) (state : Detached F) (now : Reading) :
    Except StoreError (Tables × Bool) := do
  let projectionName ← requireText projectionName "projection_name"
  let stateJson ← canonicalJsonText state.value
  let stateHash ← payloadDigest
    (globalCheckpointIdentity projectionName journalSequence state.value)
  let current ← tables.journalSequenceValue
  if current < journalSequence then
    throw (.valueError "global projection checkpoint cannot outrun the journal")
  let existing := tables.globalCheckpoint? projectionName
  checkStoredGlobalCheckpoint F existing
  let replaces ← replacesGlobalCheckpoint existing journalSequence stateJson stateHash
  if replaces then
    pure ({ tables with
      globalCheckpoints := upsertGlobalCheckpoint ⟨projectionName, journalSequence, stateJson,
        stateHash, now.text⟩ tables.globalCheckpoints }, true)
  else pure (tables, false)

end AutoTrade.Store.Tables
