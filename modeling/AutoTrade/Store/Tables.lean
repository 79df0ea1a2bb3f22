import AutoTrade.Store.Envelope
import AutoTrade.Store.Journal

/-!
# The tables of the journal store

The executable model of `JournalStore` at the level of its five business
tables.  A SQLite transaction is one function on the tables; a transaction that
raises is rolled back, so it returns no tables.
-/

namespace AutoTrade.Store

open Lib

/-! ## Rows -/

/-- A reading of the clock, `_now()`. -/
structure Reading where
  text : String
  normal : Normal text

/-- A row of `outbox`. -/
structure OutboxRow where
  outboxId : String
  eventId : String
  topic : String
  payloadJson : String
  createdAt : String
  deliveredAt : Option String
  envelopeHash : String
  deriving DecidableEq, Repr

/-- `effect_kind` with its `effect_json` and `effect_hash`. -/
inductive CommandEffect where
  | legacyUnknown
  | resultOnly
  | eventBatch (effectJson effectHash : String)
  deriving DecidableEq, Repr

/-- A row of `command_dedupe`. -/
structure CommandRow where
  commandId : String
  actor : String
  environment : String
  idempotencyKey : String
  requestHash : String
  resultJson : String
  resultHash : String
  stateVersion : Nat
  createdAt : String
  effect : CommandEffect
  deriving DecidableEq, Repr

/-- A row of `projection_checkpoints`. -/
structure CheckpointRow where
  projectionName : String
  aggregateType : String
  aggregateId : String
  aggregateVersion : Nat
  stateJson : String
  stateHash : String
  updatedAt : String
  deriving DecidableEq, Repr

/-- A row of `global_projection_checkpoints`. -/
structure GlobalCheckpointRow where
  projectionName : String
  journalSequence : Nat
  stateJson : String
  stateHash : String
  updatedAt : String
  deriving DecidableEq, Repr

/-- The business tables; rows are in insertion order. -/
structure Tables where
  events : List EventRow
  outbox : List OutboxRow
  commands : List CommandRow
  checkpoints : List CheckpointRow
  globalCheckpoints : List GlobalCheckpointRow
  deriving DecidableEq, Repr

/-- The expected row counts of a whole store. -/
structure WholeStoreCounts where
  events : Nat
  outbox : Nat
  commandDedupe : Nat
  projectionCheckpoints : Nat
  globalProjectionCheckpoints : Nat
  deriving DecidableEq, Repr

namespace Tables

/-- A new store. -/
def empty : Tables := ⟨[], [], [], [], []⟩

/-- `_whole_store_state_counts`. -/
def wholeStoreStateCounts (tables : Tables) : WholeStoreCounts where
  events := tables.events.length
  outbox := tables.outbox.length
  commandDedupe := tables.commands.length
  projectionCheckpoints := tables.checkpoints.length
  globalProjectionCheckpoints := tables.globalCheckpoints.length

/-! ## Cursors -/

/-- The length of a series that is `1..n` up to order, if it is one. -/
def contiguousCount (values : List Nat) : Option Nat :=
  if values = [] then some 0
  else if values.min? = some 1 ∧ values.max? = some values.length ∧
      values.dedup.length = values.length then some values.length
  else none

/-- The rows of one aggregate. -/
def rowsOf (tables : Tables) (aggregateType aggregateId : String) : List EventRow :=
  tables.events.filter fun row =>
    row.aggregateType = aggregateType ∧ row.aggregateId = aggregateId

/-- `_aggregate_version_value`. -/
def aggregateVersionValue (tables : Tables) (aggregateType aggregateId : String) :
    Except StoreError Nat :=
  match contiguousCount ((tables.rowsOf aggregateType aggregateId).map fun row =>
      row.aggregateVersion) with
  | some count => .ok count
  | none =>
      .error (.valueError
        "aggregate version authority is not a contiguous positive integer sequence")

/-- `_journal_sequence_value`. -/
def journalSequenceValue (tables : Tables) : Except StoreError Nat :=
  match contiguousCount (tables.events.map EventRow.journalSequence) with
  | some count => .ok count
  | none =>
      .error (.valueError ("journal sequence authority is not a contiguous canonical " ++
        "positive integer series"))

/-- The comparison of a cursor with the cut the caller validated. -/
def checkCut (expected : Option Nat) (current : Nat) (message : String) :
    Except StoreError Unit :=
  if expected.any fun cut => cut ≠ current then .error (.valueError message) else .ok ()

/-- The comparison of the row counts with those the caller validated. -/
def checkCounts (tables : Tables) (expected : Option WholeStoreCounts) (message : String) :
    Except StoreError Unit :=
  if expected.any fun counts => counts ≠ tables.wholeStoreStateCounts then
    .error (.valueError message)
  else .ok ()

/-! ## Statements

An `INSERT` raises `IntegrityError` where it would break a constraint.
-/

/-- `INSERT INTO events`. -/
def insertEvent (tables : Tables) (row : EventRow) : Except StoreError Tables :=
  if row.aggregateVersion = 0 ∨ (tables.events.any fun other =>
      other.eventId = row.eventId ∨ other.journalSequence = row.journalSequence ∨
        (other.aggregateType = row.aggregateType ∧ other.aggregateId = row.aggregateId ∧
          other.aggregateVersion = row.aggregateVersion)) then
    .error .integrityError
  else .ok { tables with events := tables.events ++ [row] }

/-- `INSERT INTO outbox`. -/
def insertOutbox (tables : Tables) (row : OutboxRow) : Except StoreError Tables :=
  if (tables.outbox.any fun other =>
        other.outboxId = row.outboxId ∨ other.eventId = row.eventId) ∨
      (tables.events.any fun event => event.eventId = row.eventId) = false then
    .error .integrityError
  else .ok { tables with outbox := tables.outbox ++ [row] }

/-- `INSERT INTO command_dedupe`. -/
def insertCommand (tables : Tables) (row : CommandRow) : Except StoreError Tables :=
  if tables.commands.any fun other =>
      other.commandId = row.commandId ∨ (other.actor = row.actor ∧
        other.environment = row.environment ∧ other.idempotencyKey = row.idempotencyKey) then
    .error .integrityError
  else .ok { tables with commands := tables.commands ++ [row] }

/-- `SELECT … FROM events WHERE event_id = ?`. -/
def eventRow? (tables : Tables) (eventId : String) : Option EventRow :=
  tables.events.find? fun row => row.eventId = eventId

/-- `SELECT … FROM outbox WHERE event_id = ?`. -/
def outboxRow? (tables : Tables) (eventId : String) : Option OutboxRow :=
  tables.outbox.find? fun row => row.eventId = eventId

/-- `SELECT … FROM command_dedupe` by the scoped idempotency key. -/
def commandRow? (tables : Tables) (actor environment idempotencyKey : String) :
    Option CommandRow :=
  tables.commands.find? fun row =>
    row.actor = actor ∧ row.environment = environment ∧ row.idempotencyKey = idempotencyKey

section Transactions

variable (F : Type) [FloatText F] [DecidableEq F] [Fingerprint]

/-! ## Appending one event -/

/-- The `outbox_id` of an event. -/
def outboxId (eventId : String) : String :=
  "outbox-" ++ String.ofList ((sha256 eventId).toList.take 32)

/-- The envelope hash of the publication intent, if there is one. -/
def publicationHash (event : PreparedEvent) : Except StoreError (Option String) :=
  match event.outboxTopic with
  | none => .ok none
  | some topic => (outboxEnvelopeDigest F topic event.envelopeJson).map some

/-- The insertion of an event and of its outbox row. -/
def insertPrepared (tables : Tables) (event : PreparedEvent) (journalSequence : Nat)
    (now : Reading) : Except StoreError Tables := do
  let tables ← tables.insertEvent ⟨event.toEventCore, journalSequence⟩
  match event.outboxTopic with
  | none => pure tables
  | some topic => do
      let envelopeHash ← outboxEnvelopeDigest F topic event.envelopeJson
      tables.insertOutbox {
        outboxId := outboxId event.eventId
        eventId := event.eventId
        topic
        payloadJson := event.envelopeJson
        createdAt := now.text
        deliveredAt := none
        envelopeHash }

/-- The stored publication intent is the one of the event. -/
def samePublication (stored : Option OutboxRow) (event : PreparedEvent)
    (envelopeHash : Option String) : Bool :=
  match stored, event.outboxTopic, envelopeHash with
  | none, none, _ => true
  | some row, some topic, some hash =>
      row.topic = topic && row.payloadJson = event.envelopeJson && row.envelopeHash = hash
  | _, _, _ => false

/-- The transaction of `append_event` after the envelope checks. -/
def appendPrepared (tables : Tables) (event : PreparedEvent)
    (expectedJournalSequence : Option Nat) (expectedCounts : Option WholeStoreCounts)
    (now : Reading) : Except StoreError (Tables × AppendResult) :=
  match tables.eventRow? event.eventId with
  | some existing => do
      let envelopeHash ← publicationHash F event
      if ¬ (existing.toEventCore = event.toEventCore ∧
          samePublication (tables.outboxRow? event.eventId) event envelopeHash = true) then
        throw (.valueError
          "event_id conflicts with an existing event or publication intent")
      let _ ← tables.aggregateVersionValue event.aggregateType event.aggregateId
      let _ ← tables.journalSequenceValue
      pure (tables, ⟨event.eventId, event.aggregateVersion, false⟩)
  | none => do
      let cut ← tables.journalSequenceValue
      checkCut expectedJournalSequence cut
        "journal sequence changed after whole-store validation"
      tables.checkCounts expectedCounts
        "whole-store state changed after bootstrap validation"
      let current ← tables.aggregateVersionValue event.aggregateType event.aggregateId
      if event.aggregateVersion ≠ current + 1 then
        throw (.valueError (s!"aggregate_version must be {current + 1} for " ++
          s!"{event.aggregateType}/{event.aggregateId}"))
      let next ← tables.insertPrepared F event (cut + 1) now
      pure (next, ⟨event.eventId, event.aggregateVersion, true⟩)

variable {F}

/-- `append_event`. -/
def appendEvent [TextFormats] (tables : Tables) (envelope : Detached F)
    (outboxTopic : Option String) (expectedJournalSequence : Option Nat)
    (expectedCounts : Option WholeStoreCounts) (now : Reading) :
    Except StoreError (Tables × AppendResult) := do
  let event ← appendColumns envelope.value outboxTopic
  tables.appendPrepared F event expectedJournalSequence expectedCounts now

/-! ## Command effects -/

/-- `_decode_command_result`. -/
def decodeCommandResult (row : CommandRow) : Except StoreError (Json F) :=
  if row.resultHash ≠ textDigest row.resultJson then
    .error (.valueError "command result hash does not match stored result")
  else loadCanonical row.resultJson "command result is not valid JSON"
    "command result is not canonical JSON"

/-- The description of one event of a batch. -/
def effectDescriptor (event : PreparedEvent) (journalSequence : Nat) :
    Except StoreError (Json F) := do
  let outboxHash ← publicationHash F event
  pure (.obj [
    ("event_id", .str event.eventId), ("aggregate_type", .str event.aggregateType),
    ("aggregate_id", .str event.aggregateId),
    ("aggregate_version", .int event.aggregateVersion),
    ("journal_sequence", .int journalSequence), ("envelope_hash", .str event.envelopeHash),
    ("outbox_topic", event.outboxTopic.elim .null .str),
    ("outbox_hash", outboxHash.elim .null .str)])

variable (F) in
/-- `_event_batch_effect`. -/
def eventBatchEffect (prepared : List PreparedEvent) (journalSequences : List Nat) :
    Except StoreError (String × String) :=
  if journalSequences.length ≠ prepared.length then
    .error (.valueError "command event-batch journal sequence cardinality mismatch")
  else do
    let descriptors ← (prepared.zip journalSequences).mapM fun item =>
      effectDescriptor (F := F) item.1 item.2
    let effectJson ← canonicalJsonText (.obj [("events", .arr descriptors)])
    pure (effectJson, textDigest effectJson)

variable (F) in
/-- The stored effect, after its integrity checks. -/
def loadEffect (effectJson effectHash : String) : Except StoreError (Json F) :=
  if effectHash ≠ textDigest effectJson then
    .error (.valueError "command effect hash does not match stored effect")
  else loadCanonical effectJson "command effect is not valid JSON"
    "command effect is not canonical JSON"

/-- The journal sequence of a descriptor. -/
def descriptorSequence (descriptor : Json F) : Except StoreError Nat :=
  match descriptor.get? "journal_sequence" with
  | some (.int (.ofNat (number + 1))) => .ok (number + 1)
  | _ =>
      .error (.valueError "command event-batch journal sequence is missing or invalid")

/-- The descriptors of a stored effect. -/
def effectRows (effect : Json F) : Except StoreError (List (Json F)) :=
  match effect.get? "events" with
  | some (.arr (first :: rest)) => .ok (first :: rest)
  | _ => .error (.valueError "command event-batch effect is empty or invalid")

variable (F) in
/-- `_stored_effect_journal_sequences`. -/
def storedEffectJournalSequences (effectJson effectHash : String) :
    Except StoreError (List Nat) := do
  let effect ← loadEffect F effectJson effectHash
  let rows ← effectRows effect
  let sequences ← rows.mapM descriptorSequence
  if ¬ sequences.Nodup then
    .error (.valueError "command event-batch journal sequences are duplicated")
  else pure sequences

/-- The keys of a descriptor. -/
def descriptorFields : List String := [
  "event_id", "aggregate_type", "aggregate_id", "aggregate_version", "journal_sequence",
  "envelope_hash", "outbox_topic", "outbox_hash"]

/-- The publication intent of a stored event is the one its descriptor names. -/
def verifyPublicationIntent (stored : Option OutboxRow) (envelopeJson : String)
    (descriptor : Json F) : Except StoreError Unit :=
  match descriptor.get? "outbox_topic", stored with
  | some .null, none => .ok ()
  | some .null, some _ =>
      .error (.valueError "command event-batch publication intent changed")
  | _, none => .error (.valueError "command event-batch publication intent is missing")
  | topic, some row => do
      requireCanonicalColumn row.topic "command event-batch outbox topic"
      let envelopeHash ← outboxEnvelopeDigest F row.topic row.payloadJson
      if topic ≠ some (.str row.topic) ∨ row.payloadJson ≠ envelopeJson ∨
          descriptor.get? "outbox_hash" ≠ some (.str row.envelopeHash) ∨
          descriptor.get? "outbox_hash" ≠ some (.str envelopeHash) then
        .error (.valueError "command event-batch publication intent changed")
      else pure ()

/-- One descriptor of a stored effect against the tables. -/
def verifyDescriptor [TextFormats] (tables : Tables) (descriptor : Json F) :
    Except StoreError Unit :=
  if ¬ (fieldsOf descriptor ⊆ descriptorFields ∧ descriptorFields ⊆ fieldsOf descriptor) then
    .error (.valueError "command event-batch descriptor is invalid")
  else
    match descriptor.get? "event_id" with
    | some (.str eventId) =>
        match tables.eventRow? eventId with
        | none => .error (.valueError "command event-batch event is missing")
        | some row => do
            let _ : Json F ← decodeEventRow row.toEventCore (some row.journalSequence)
            if descriptor.get? "aggregate_type" ≠ some (.str row.aggregateType) ∨
                descriptor.get? "aggregate_id" ≠ some (.str row.aggregateId) ∨
                descriptor.get? "aggregate_version" ≠ some (.int row.aggregateVersion) ∨
                descriptor.get? "journal_sequence" ≠ some (.int row.journalSequence) ∨
                descriptor.get? "envelope_hash" ≠ some (.str row.envelopeHash) then
              throw (.valueError "command event-batch event identity changed")
            if descriptor.get? "envelope_hash" ≠ some (.str (textDigest row.envelopeJson)) then
              throw (.valueError "command event-batch envelope hash changed")
            verifyPublicationIntent (tables.outboxRow? eventId) row.envelopeJson descriptor
    | _ => .error (.valueError "command event-batch event is missing")

variable (F) in
/-- `_verify_stored_event_batch_effect`. -/
def verifyStoredEventBatchEffect [TextFormats] (tables : Tables)
    (effectJson effectHash : String) : Except StoreError Unit := do
  let effect ← loadEffect F effectJson effectHash
  if fieldsOf effect ≠ ["events"] then
    throw (.valueError "command event-batch effect shape is invalid")
  let rows ← effectRows effect
  rows.forM tables.verifyDescriptor

/-! ## Commands -/

/-- `_require_text`. -/
def requireText (value name : String) : Except StoreError String :=
  if strip value = "" then .error (.valueError s!"{name} must be non-empty text")
  else .ok (strip value)

/-- `_command_environment`. -/
def commandEnvironment [CaseMap] (value : String) : Except StoreError String :=
  if isEnvironment (upper (strip value)) then .ok (upper (strip value))
  else .error (.valueError "environment must be REPLAY, SIMULATION, PAPER, or LIVE")

/-- `_reject_legacy_unscoped_key`. -/
def rejectLegacyUnscopedKey (tables : Tables) (idempotencyKey : String) :
    Except StoreError Unit :=
  match tables.commandRow? "__LEGACY_UNSCOPED__" "__LEGACY_UNSCOPED__" idempotencyKey with
  | some _ =>
      .error (.valueError ("idempotency_key exists in legacy unscoped command history; " ++
        "use a new key"))
  | none => .ok ()

/-- The identity, the request and the result of a command. -/
structure Command (F : Type) where
  commandId : String
  actor : String
  environment : String
  idempotencyKey : String
  request : Detached F
  result : Detached F
  stateVersion : Nat

/-- The normalized identity of a command. -/
structure CommandScope where
  commandId : String
  actor : String
  environment : String
  idempotencyKey : String
  deriving DecidableEq, Repr

/-- A command after the checks of its arguments. -/
structure PreparedCommand (F : Type) extends CommandScope where
  requestHash : String
  resultJson : String
  result : Json F
  stateVersion : Nat

/-- `_command_scope`: the scoped idempotency key. -/
def scopedKey [CaseMap] (actor environment idempotencyKey : String) :
    Except StoreError (String × String × String) := do
  let actor ← requireText actor "actor"
  let environment ← commandEnvironment environment
  let idempotencyKey ← requireText idempotencyKey "idempotency_key"
  pure (actor, environment, idempotencyKey)

/-- The checks of a command's identity. -/
def commandScope [CaseMap] (command : Command F) : Except StoreError CommandScope := do
  let commandId ← requireText command.commandId "command_id"
  let (actor, environment, idempotencyKey) ←
    scopedKey command.actor command.environment command.idempotencyKey
  pure { commandId, actor, environment, idempotencyKey }

/-- The texts of the request and the result. -/
def prepareCommand (command : Command F) (scope : CommandScope) :
    Except StoreError (PreparedCommand F) := do
  let requestHash ← payloadDigest command.request.value
  let resultJson ← canonicalJsonText command.result.value
  pure {
    toCommandScope := scope, requestHash, resultJson
    result := command.result.value
    stateVersion := command.stateVersion }

/-- The row of a new command. -/
def PreparedCommand.row (command : PreparedCommand F) (effect : CommandEffect)
    (now : Reading) : CommandRow where
  commandId := command.commandId
  actor := command.actor
  environment := command.environment
  idempotencyKey := command.idempotencyKey
  requestHash := command.requestHash
  resultJson := command.resultJson
  resultHash := textDigest command.resultJson
  stateVersion := command.stateVersion
  createdAt := now.text
  effect := effect

/-- The error of a command whose effect is of another kind. -/
def effectKindError (effect : CommandEffect) : StoreError :=
  match effect with
  | .legacyUnknown =>
      .valueError ("legacy command history has ambiguous transactional effect; " ++
        "use a new idempotency key")
  | _ => .valueError "idempotency_key belongs to a different command effect kind"

/-- The checks of a row that was found under the idempotency key. -/
def replayResult (existing : CommandRow) (requestHash : String) :
    Except StoreError (Json F) := do
  let saved ← decodeCommandResult existing
  if existing.requestHash ≠ requestHash then
    .error (.valueError "idempotency_key was already used for a different request")
  else pure saved

/-- The check that a command id is new. -/
def checkCommandId (tables : Tables) (commandId : String) : Except StoreError Unit :=
  if tables.commands.any fun row => row.commandId = commandId then
    .error (.valueError "command_id already exists with another idempotency key")
  else .ok ()

/-- `record_command`: the result and whether the command was new. -/
def recordCommand [CaseMap] (tables : Tables) (command : Command F) (now : Reading) :
    Except StoreError (Tables × Json F × Bool) := do
  let scope ← commandScope command
  let prepared ← prepareCommand command scope
  tables.rejectLegacyUnscopedKey prepared.idempotencyKey
  match tables.commandRow? prepared.actor prepared.environment prepared.idempotencyKey with
  | some existing => do
      let saved ← replayResult existing prepared.requestHash
      match existing.effect with
      | .resultOnly => pure (tables, saved, false)
      | effect => throw (effectKindError effect)
  | none => do
      tables.checkCommandId prepared.commandId
      let next ← tables.insertCommand (prepared.row .resultOnly now)
      pure (next, prepared.result, true)

/-- The version at which an aggregate goes on; `next` holds the versions of the
aggregates already met. -/
def expectedVersion (tables : Tables) (next : Dict (String × String) Nat)
    (key : String × String) : Except StoreError Nat :=
  match next.get? key with
  | some expected => .ok expected
  | none => (tables.aggregateVersionValue key.1 key.2).map (· + 1)

/-- The batch is new and every event is at the next version of its aggregate. -/
def checkVersions (tables : Tables) (next : Dict (String × String) Nat) :
    List PreparedEvent → Except StoreError Unit
  | [] => .ok ()
  | event :: rest => do
      if (tables.eventRow? event.eventId).isSome then
        throw (.valueError "event_id already exists for another command")
      let key := (event.aggregateType, event.aggregateId)
      let expected ← tables.expectedVersion next key
      if event.aggregateVersion ≠ expected then
        throw (.valueError (s!"aggregate_version must be {expected} " ++
          s!"for {event.aggregateType}/{event.aggregateId}"))
      checkVersions tables (next.set key (expected + 1)) rest

variable (F) in
/-- The insertion of a batch from a journal sequence on, with a clock reading
for each event. -/
def insertPreparedBatch (tables : Tables) (journalSequence : Nat)
    (now : Nat → Reading) : List PreparedEvent → Except StoreError Tables
  | [] => .ok tables
  | event :: rest => do
      let next ← tables.insertPrepared F event journalSequence (now journalSequence)
      insertPreparedBatch next (journalSequence + 1) now rest

/-- What `commit_command` returns. -/
structure CommitOutcome (F : Type) where
  result : Json F
  inserted : Bool
  appended : List AppendResult

/-- The transaction of `commit_command` for an idempotency key that was used. -/
def replayCommit [TextFormats] (tables : Tables) (existing : CommandRow)
    (command : PreparedCommand F) (prepared : List PreparedEvent) :
    Except StoreError (Tables × CommitOutcome F) := do
  let saved ← replayResult existing command.requestHash
  match existing.effect with
  | .eventBatch storedEffectJson storedEffectHash => do
      let sequences ← storedEffectJournalSequences F storedEffectJson storedEffectHash
      let retry ← eventBatchEffect F prepared sequences
      if (storedEffectJson, storedEffectHash) ≠ retry then
        throw (.valueError "idempotency_key retry event batch differs from original effect")
      tables.verifyStoredEventBatchEffect F storedEffectJson storedEffectHash
      let _ ← tables.journalSequenceValue
      prepared.forM fun event => do
        let _ ← tables.aggregateVersionValue event.aggregateType event.aggregateId
      pure (tables, ⟨saved, false, []⟩)
  | effect => throw (effectKindError effect)

/-- The transaction of `commit_command` for a new idempotency key. -/
def insertCommit (tables : Tables) (command : PreparedCommand F)
    (prepared : List PreparedEvent) (expectedJournalSequence : Option Nat)
    (expectedCounts : Option WholeStoreCounts) (now : Nat → Reading) :
    Except StoreError (Tables × CommitOutcome F) := do
  tables.checkCommandId command.commandId
  let cut ← tables.journalSequenceValue
  checkCut expectedJournalSequence cut
    "journal sequence changed after financial evidence validation"
  tables.checkCounts expectedCounts
    "whole-store state changed after financial evidence validation"
  let (effectJson, effectHash) ← eventBatchEffect F prepared
    (List.range' (cut + 1) prepared.length)
  tables.checkVersions ∅ prepared
  let withCommand ← tables.insertCommand
    (command.row (.eventBatch effectJson effectHash) (now cut))
  let next ← withCommand.insertPreparedBatch F (cut + 1) now prepared
  pure (next, ⟨command.result, true, prepared.map fun event =>
    ⟨event.eventId, event.aggregateVersion, true⟩⟩)

/-- The events of `commit_command` and what it expects of the store. -/
structure Batch (F : Type) where
  events : List (Detached F × Option String)
  expectedJournalSequence : Option Nat
  expectedCounts : Option WholeStoreCounts

/-- `commit_command`. -/
def commitCommand [TextFormats] [CaseMap] (tables : Tables) (command : Command F)
    (batch : Batch F) (now : Nat → Reading) :
    Except StoreError (Tables × CommitOutcome F) := do
  let scope ← commandScope command
  if batch.events.isEmpty then
    throw (.valueError "At least one event is required")
  let prepared ← prepareCommand command scope
  let events ← prepareBatch [] batch.events
  tables.rejectLegacyUnscopedKey prepared.idempotencyKey
  match tables.commandRow? prepared.actor prepared.environment prepared.idempotencyKey with
  | some existing => tables.replayCommit existing prepared events
  | none =>
      tables.insertCommit prepared events batch.expectedJournalSequence
        batch.expectedCounts now

end Transactions

end Tables

end AutoTrade.Store
