import AutoTrade.Store.Retries

/-!
# Exactly-once commands

Once a command is stored, every later call under its key leaves the tables: a
repetition returns the stored result and anything else raises.
-/

namespace AutoTrade.Store.Tables

open Lib

section Statements

variable {F : Type} [FloatText F] [CaseMap]

/-- The key under which a command is deduplicated, if its parts are valid. -/
def Command.key? (command : Command F) : Option (String × String × String) :=
  (scopedKey command.actor command.environment command.idempotencyKey).toOption

/-- The other arguments of a command pass their checks. -/
def Command.Accepted (command : Command F) : Prop :=
  strip command.commandId ≠ "" ∧ command.result.value.canonicalText ≠ none

/-- The texts of a command that are identified by their hashes. -/
def hashedTexts (command : Command F) (events : List (Detached F × Option String)) :
    Set String :=
  { text | command.request.value.canonicalText = some text } ∪ envelopeTexts events

variable [DecidableEq F] [TextFormats] [Fingerprint]

/-- One row is stored under the key of the command, and a call under the key
changes nothing. -/
structure Settled (tables : Tables) (command : Command F) : Prop where
  single : ∀ key ∈ command.key?, (tables.commands.map CommandRow.key).count key = 1
  committing : ∀ (retry : Command F) batch now, retry.key? = command.key? →
    tables.call (.commitCommand retry batch now) = tables
  recording : ∀ (retry : Command F) now, retry.key? = command.key? →
    tables.call (.recordCommand retry now) = tables

/-- The tables after a `commit_command` that inserted its batch. -/
structure CommittedOnce (tables : Tables) (command : Command F)
    (events : List (Detached F × Option String)) : Prop extends Settled tables command where
  repeated : ∀ (retry : Command F) (batch : Batch F) now, retry.key? = command.key? →
    retry.Accepted → retry.request.content = command.request.content →
      contents batch.events = contents events →
        tables.commitCommand retry batch now = .ok (tables, ⟨command.result.content, false, []⟩)
  different : ∀ (retry : Command F) (batch : Batch F) now, retry.key? = command.key? →
    Set.InjOn sha256 (hashedTexts command events ∪ hashedTexts retry batch.events) →
      ¬ (retry.request.content = command.request.content ∧
        contents batch.events = contents events) →
        ∃ error, tables.commitCommand retry batch now = .error error
  otherKind : ∀ (retry : Command F) now, retry.key? = command.key? →
    ∃ error, tables.recordCommand retry now = .error error

/-- The tables after a `record_command` that inserted its row. -/
structure RecordedOnce (tables : Tables) (command : Command F) : Prop
    extends Settled tables command where
  repeated : ∀ (retry : Command F) now, retry.key? = command.key? → retry.Accepted →
    retry.request.content = command.request.content →
      tables.recordCommand retry now = .ok (tables, command.result.content, false)
  different : ∀ (retry : Command F) now, retry.key? = command.key? →
    Set.InjOn sha256 (hashedTexts command [] ∪ hashedTexts retry []) →
      retry.request.content ≠ command.request.content →
        ∃ error, tables.recordCommand retry now = .error error
  otherKind : ∀ (retry : Command F) (batch : Batch F) now, retry.key? = command.key? →
    ∃ error, tables.commitCommand retry batch now = .error error

end Statements

/-! ## The row of a command -/

theorem key?_of_commandScope {F : Type} [CaseMap] {command : Command F} {scope : CommandScope}
    (identified : commandScope command = .ok scope) :
    command.key? = some (scope.actor, scope.environment, scope.idempotencyKey) := by
  rw [Command.key?, (commandScope_eq_ok.mp identified).2]
  rfl

/-- A row is the one that a command left. -/
structure Leaves {F : Type} [FloatText F] [Fingerprint] [CaseMap] (command : Command F)
    (row : CommandRow) : Prop where
  key : command.key? = some (CommandRow.key row)
  result : command.result.value.canonicalText = some row.resultJson
  resultHash : row.resultHash = textDigest row.resultJson
  request : ∃ text, command.request.value.canonicalText = some text ∧
    row.requestHash = textDigest text

section Rows

variable {F : Type} [FloatText F] [Fingerprint] [CaseMap]

theorem leaves_row {command : Command F} {scope : CommandScope} {prepared : PreparedCommand F}
    (identified : commandScope command = .ok scope)
    (digested : prepareCommand command scope = .ok prepared) (effect : CommandEffect)
    (now : Reading) : Leaves command (prepared.row effect now) := by
  obtain ⟨rfl, _, result, text, request, hash⟩ := prepareCommand_eq_ok digested
  exact {
    key := key?_of_commandScope identified
    result := result
    resultHash := rfl
    request := ⟨text, request, hash⟩ }

variable [TextFormats] {tables : Tables}

/-- A call under the key of a stored row finds it. -/
theorem Sound.commandRow?_of_key (sound : Sound F tables) {row : CommandRow}
    (member : row ∈ tables.commands) {retry : Command F}
    (key : retry.key? = some (CommandRow.key row)) {scope : CommandScope}
    (identified : commandScope retry = .ok scope) {prepared : PreparedCommand F}
    (digested : prepareCommand retry scope = .ok prepared) :
    tables.commandRow? prepared.actor prepared.environment prepared.idempotencyKey =
      some row := by
  have same := (prepareCommand_eq_ok digested).1
  rw [key?_of_commandScope identified, ← same, Option.some.injEq] at key
  simp only [CommandRow.key, Prod.mk.injEq] at key
  rw [key.1, key.2.1, key.2.2]
  exact sound.commandRow? member

/-- A `commit_command` under the key of a stored row replays it. -/
theorem Sound.replayCommit_of_commitCommand [DecidableEq F] (sound : Sound F tables)
    {row : CommandRow} (member : row ∈ tables.commands) {retry : Command F}
    (key : retry.key? = some (CommandRow.key row)) {batch : Batch F} {now : Nat → Reading}
    {next : Tables} {outcome : CommitOutcome F}
    (success : tables.commitCommand retry batch now = .ok (next, outcome)) :
    ∃ scope prepared events, prepareCommand retry scope = .ok prepared ∧
      prepareBatch [] batch.events = .ok events ∧
      tables.replayCommit row prepared events = .ok (next, outcome) := by
  obtain ⟨scope, prepared, events, identified, _, digested, columns, replayed⟩ :=
    commitCommand_eq_ok success
  have found := sound.commandRow?_of_key member key identified digested
  rw [found] at replayed
  rcases replayed with ⟨existing, same, replayed⟩ | ⟨absent, _⟩
  · rw [Option.some.injEq] at same
    subst same
    exact ⟨scope, prepared, events, digested, columns, replayed⟩
  · cases absent

/-- A `record_command` under the key of a stored row returns its result. -/
theorem Sound.replay_of_recordCommand (sound : Sound F tables) {row : CommandRow}
    (member : row ∈ tables.commands) {retry : Command F}
    (key : retry.key? = some (CommandRow.key row)) {now : Reading} {next : Tables}
    {result : Json F} {inserted : Bool}
    (success : tables.recordCommand retry now = .ok (next, result, inserted)) :
    next = tables ∧ row.effect = .resultOnly ∧ ∃ scope prepared,
      prepareCommand retry scope = .ok prepared ∧ row.requestHash = prepared.requestHash := by
  obtain ⟨scope, prepared, identified, digested, replayed⟩ := recordCommand_eq_ok success
  have found := sound.commandRow?_of_key member key identified digested
  rw [found] at replayed
  rcases replayed with ⟨existing, same, effect, _, request, unchanged, _⟩ | ⟨absent, _⟩
  · rw [Option.some.injEq] at same
    subst same
    exact ⟨unchanged, effect, scope, prepared, digested, request⟩
  · cases absent

theorem call_eq_of_perform [DecidableEq F] {invocation : StoreCall F}
    (unchanged : ∀ next, tables.perform invocation = .ok next → next = tables) :
    tables.call invocation = tables := by
  rcases tables.call_cases invocation with committed | ⟨_, raised⟩
  · exact unchanged _ committed
  · exact raised

theorem Sound.settled [DecidableEq F] (sound : Sound F tables) {row : CommandRow}
    (member : row ∈ tables.commands) {command : Command F} (leaves : Leaves command row) :
    Settled tables command where
  single := by
    intro key same
    rw [leaves.key, Option.mem_some_iff] at same
    rw [← same]
    exact List.count_eq_one_of_mem sound.keys (List.mem_map_of_mem member)
  committing := by
    intro retry batch now same
    apply call_eq_of_perform
    intro next performed
    obtain ⟨outcome, success⟩ := map_fst_eq_ok.mp performed
    obtain ⟨_, _, _, _, _, replayed⟩ :=
      sound.replayCommit_of_commitCommand member (same.trans leaves.key) success
    exact (replayCommit_eq_ok replayed).1
  recording := by
    intro retry now same
    apply call_eq_of_perform
    intro next performed
    obtain ⟨⟨result, inserted⟩, success⟩ := map_fst_eq_ok.mp performed
    exact (sound.replay_of_recordCommand member (same.trans leaves.key) success).1

end Rows

/-! ## Repetitions -/

theorem requireText_eq_ok {value name text : String} :
    requireText value name = .ok text ↔ strip value ≠ "" ∧ strip value = text := by
  rw [requireText, guard_eq_ok, Except.ok.injEq]

theorem canonicalText_of_content {F : Type} [FloatText F] {left right : Detached F}
    (same : left.content = right.content) :
    left.value.canonicalText = right.value.canonicalText := by
  rw [← Json.canonicalText_normal left.value, ← Json.canonicalText_normal right.value]
  exact congrArg Json.canonicalText same

section Repetitions

variable {F : Type} [FloatText F] [Fingerprint] [CaseMap]

/-- An accepted command with the request of a stored one passes its checks. -/
theorem Leaves.prepares {command retry : Command F} {row : CommandRow}
    (leaves : Leaves command row) (key : retry.key? = command.key?) (accepted : retry.Accepted)
    (request : retry.request.content = command.request.content) :
    ∃ scope prepared, commandScope retry = .ok scope ∧
      prepareCommand retry scope = .ok prepared ∧ row.requestHash = prepared.requestHash := by
  obtain ⟨resultJson, result⟩ := Option.ne_none_iff_exists'.mp accepted.2
  obtain ⟨text, requested, hashed⟩ := leaves.request
  rw [← canonicalText_of_content request] at requested
  rw [leaves.key, Command.key?] at key
  have sameKey : scopedKey retry.actor retry.environment retry.idempotencyKey =
      .ok (CommandRow.key row) := by
    cases found : scopedKey retry.actor retry.environment retry.idempotencyKey with
    | error error =>
        rw [found] at key
        cases key
    | ok same =>
        rw [found] at key
        rw [Option.some.inj key]
  have identified : commandScope retry =
      .ok ⟨strip retry.commandId, row.actor, row.environment, row.idempotencyKey⟩ :=
    commandScope_eq_ok.mpr ⟨requireText_eq_ok.mpr ⟨accepted.1, rfl⟩, sameKey⟩
  have digested : ∀ scope, prepareCommand retry scope =
      .ok ⟨scope, textDigest text, resultJson, retry.result.value, retry.stateVersion⟩ := by
    intro scope
    simp only [prepareCommand, payloadDigest_eq_ok.mpr ⟨text, requested, rfl⟩,
      canonicalJsonText_eq_ok.mpr result, ok_bind]
    rfl
  exact ⟨_, _, identified, digested _, hashed⟩

/-- A command with the request hash of a stored one has its request. -/
theorem Leaves.request_eq {command retry : Command F} {row : CommandRow}
    (leaves : Leaves command row) {events retried : List (Detached F × Option String)}
    (injective : Set.InjOn sha256 (hashedTexts command events ∪ hashedTexts retry retried))
    {scope : CommandScope} {prepared : PreparedCommand F}
    (digested : prepareCommand retry scope = .ok prepared)
    (same : row.requestHash = prepared.requestHash) :
    retry.request.content = command.request.content := by
  obtain ⟨_, _, _, text, request, hash⟩ := prepareCommand_eq_ok digested
  obtain ⟨text', request', hash'⟩ := leaves.request
  have sameText : text = text' := by
    apply textDigest_injOn injective
    · exact .inr (.inl request)
    · exact .inl (.inl request')
    · rw [← hash, ← hash', same]
  rw [← sameText] at request'
  exact Json.canonicalText_injective retry.request.distinct command.request.distinct
    request request'

variable [DecidableEq F] [TextFormats] {tables : Tables}

/-- A `commit_command` under the key of a stored row that passes its checks. -/
theorem Sound.commitCommand_eq (sound : Sound F tables) {row : CommandRow}
    (member : row ∈ tables.commands) {retry : Command F}
    (key : retry.key? = some (CommandRow.key row)) {scope : CommandScope}
    (identified : commandScope retry = .ok scope) {prepared : PreparedCommand F}
    (digested : prepareCommand retry scope = .ok prepared) {batch : Batch F}
    (nonempty : batch.events ≠ []) {events : List PreparedEvent}
    (columns : prepareBatch [] batch.events = .ok events) (now : Nat → Reading) :
    tables.commitCommand retry batch now = tables.replayCommit row prepared events := by
  have found := sound.commandRow?_of_key member key identified digested
  simp only [Tables.commitCommand, identified, digested, columns, ok_bind,
    sound.rejectLegacyUnscopedKey, found, List.isEmpty_iff, nonempty, ↓reduceIte]

theorem Leaves.committedOnce (sound : Sound F tables) {row : CommandRow}
    (member : row ∈ tables.commands) {command : Command F} (leaves : Leaves command row)
    {events : List (Detached F × Option String)} (nonempty : events ≠ [])
    {prepared : List PreparedEvent} (columns : prepareBatch [] events = .ok prepared)
    {first : Nat} {effectJson effectHash : String}
    (effect : row.effect = .eventBatch effectJson effectHash)
    (covers : Covers F tables prepared first effectJson effectHash) :
    CommittedOnce tables command events where
  toSettled := sound.settled member leaves
  repeated := by
    intro retry batch now key accepted request same
    obtain ⟨scope, digest, identified, digested, hashed⟩ := leaves.prepares key accepted request
    have retried : batch.events ≠ [] := by
      intro empty
      rw [empty, contents, List.map_nil, eq_comm, contents, List.map_eq_nil_iff] at same
      exact nonempty same
    rw [sound.commitCommand_eq member (key.trans leaves.key) identified digested retried
      ((prepareBatch_congr same).trans columns)]
    exact sound.replayCommit covers effect hashed leaves.result leaves.resultHash
  different := by
    intro retry batch now key injective differs
    cases outcome : tables.commitCommand retry batch now with
    | error error => exact ⟨error, rfl⟩
    | ok result =>
        obtain ⟨scope, digest, retried, digested, columns', replayed⟩ :=
          sound.replayCommit_of_commitCommand member (key.trans leaves.key) outcome
        refine absurd ⟨?_, ?_⟩ differs
        · exact leaves.request_eq injective digested (replayCommit_eq_ok replayed).2.2.2.2.1
        · have rebuilt := covers.contents_of_replayCommit effect replayed
          apply Eq.symm
          apply contents_eq_of_forall₂ (prepareBatch_eq_ok columns) (prepareBatch_eq_ok columns')
            rebuilt
          apply injective.mono
          exact Set.union_subset_union Set.subset_union_right Set.subset_union_right
  otherKind := by
    intro retry now key
    cases outcome : tables.recordCommand retry now with
    | error error => exact ⟨error, rfl⟩
    | ok result =>
        have kind := (sound.replay_of_recordCommand member (key.trans leaves.key) outcome).2.1
        rw [effect] at kind
        cases kind

theorem Leaves.recordedOnce (sound : Sound F tables) {row : CommandRow}
    (member : row ∈ tables.commands) {command : Command F} (leaves : Leaves command row)
    (effect : row.effect = .resultOnly) : RecordedOnce tables command where
  toSettled := sound.settled member leaves
  repeated := by
    intro retry now key accepted request
    obtain ⟨scope, digest, identified, digested, hashed⟩ := leaves.prepares key accepted request
    have found := sound.commandRow?_of_key member (key.trans leaves.key) identified digested
    have decoded := decodeCommandResult_written leaves.result leaves.resultHash
    simp only [Tables.recordCommand, identified, digested, ok_bind,
      sound.rejectLegacyUnscopedKey, found, replayResult, decoded, hashed, effect, ne_eq,
      not_true_eq_false, ↓reduceIte]
    rfl
  different := by
    intro retry now key injective differs
    cases outcome : tables.recordCommand retry now with
    | error error => exact ⟨error, rfl⟩
    | ok result =>
        obtain ⟨_, _, scope, digest, digested, sameHash⟩ :=
          sound.replay_of_recordCommand member (key.trans leaves.key) outcome
        exact absurd (leaves.request_eq injective digested sameHash) differs
  otherKind := by
    intro retry batch now key
    cases outcome : tables.commitCommand retry batch now with
    | error error => exact ⟨error, rfl⟩
    | ok result =>
        obtain ⟨_, _, _, _, _, replayed⟩ :=
          sound.replayCommit_of_commitCommand member (key.trans leaves.key) outcome
        obtain ⟨_, _, _, _, _, _, _, _, kind, _⟩ := replayCommit_eq_ok replayed
        rw [effect] at kind
        cases kind

end Repetitions

/-! ## Exactly once -/

section Main

variable {F : Type} [FloatText F] [DecidableEq F] [TextFormats] [Fingerprint] [CaseMap]

/-- A command that `commit_command` inserts, on sound tables. -/
theorem Sound.commits_once {tables next : Tables} (sound : Sound F tables) {command : Command F}
    {batch : Batch F} {now : Nat → Reading} {outcome : CommitOutcome F}
    (success : tables.commitCommand command batch now = .ok (next, outcome))
    (inserted : outcome.inserted = true) :
    ∃ row prepared, next.commands = tables.commands ++ [row] ∧
      next.events = tables.events ++ batchRows (tables.events.length + 1) prepared ∧
      prepareBatch [] batch.events = .ok prepared ∧
      ∀ between : List (StoreCall F),
        CommittedOnce (next.runFrom between) command batch.events := by
  have reached := sound.commitCommand success
  obtain ⟨scope, prepared, events, identified, nonempty, digested, columns,
    ⟨_, _, replayed⟩ | ⟨_, inserted'⟩⟩ := commitCommand_eq_ok success
  · rw [(replayCommit_eq_ok replayed).2.1] at inserted
    cases inserted
  · obtain ⟨effectJson, effectHash, reading, _, stored, commands, covers, _⟩ :=
      sound.insertCommit (ne_nil_of_prepareBatch nonempty columns)
        (admitted_of_prepareBatch columns) inserted'
    refine ⟨_, events, commands, stored, columns, fun between => ?_⟩
    have grows := next.runFrom_grows between
    have later := reached.runFrom between
    have member : prepared.row (.eventBatch effectJson effectHash) reading ∈ next.commands := by
      rw [commands]
      exact List.mem_append_right _ (List.mem_singleton_self _)
    exact (leaves_row identified digested _ reading).committedOnce later
      (grows.commands.subset member) nonempty columns rfl
      (covers.grows grows later.publishedOnce)

/-- A command that `record_command` inserts, on sound tables. -/
theorem Sound.records_once {tables next : Tables} (sound : Sound F tables) {command : Command F}
    {now : Reading} {result : Json F}
    (success : tables.recordCommand command now = .ok (next, result, true)) :
    ∃ row, next.commands = tables.commands ++ [row] ∧ next.events = tables.events ∧
      ∀ between : List (StoreCall F), RecordedOnce (next.runFrom between) command := by
  have reached := sound.recordCommand success
  obtain ⟨scope, prepared, identified, digested, ⟨_, _, _, _, _, _, absurd⟩ | ⟨_, stored, _⟩⟩ :=
    recordCommand_eq_ok success
  · cases absurd
  · obtain ⟨_, grown⟩ := insertCommand_eq_ok stored
    have member : prepared.row .resultOnly now ∈ next.commands := by
      rw [grown]
      exact List.mem_append_right _ (List.mem_singleton_self _)
    refine ⟨prepared.row .resultOnly now, by rw [grown], by rw [grown], fun between => ?_⟩
    exact (leaves_row identified digested .resultOnly now).recordedOnce (reached.runFrom between)
      ((next.runFrom_grows between).commands.subset member) rfl

/-- In every run, a command that is inserted adds one row and one batch, and after
any further calls every call under its key leaves the tables: a repetition returns
the stored result, and one that differs in its request, its batch or its kind
raises. -/
theorem exactly_once (before : List (StoreCall F)) (command : Command F) :
    (∀ (batch : Batch F) now next outcome,
      (run before).commitCommand command batch now = .ok (next, outcome) →
        outcome.inserted = true → ∃ row prepared,
          next.commands = (run before).commands ++ [row] ∧
          next.events = (run before).events ++
            batchRows ((run before).events.length + 1) prepared ∧
          prepareBatch [] batch.events = .ok prepared ∧
          ∀ between : List (StoreCall F),
            CommittedOnce (next.runFrom between) command batch.events) ∧
    ∀ now next result, (run before).recordCommand command now = .ok (next, result, true) →
      ∃ row, next.commands = (run before).commands ++ [row] ∧
        next.events = (run before).events ∧
        ∀ between : List (StoreCall F), RecordedOnce (next.runFrom between) command := by
  constructor
  · intro batch now next outcome success inserted
    exact (sound_run before).commits_once success inserted
  · intro now next result success
    exact (sound_run before).records_once success

end Main

section Sample

attribute [local instance] FloatText.none TextFormats.lenient Fingerprint.plain CaseMap.ascii

/-- An event of an order. -/
def sampleEnvelope : Detached Unit where
  value := .obj [
    ("event_id", .str "event-1"), ("event_type", .str "created"),
    ("aggregate_type", .str "order"), ("aggregate_id", .str "1"),
    ("aggregate_version", .str "1"), ("payload", .null), ("payload_hash", .str "sha256:null"),
    ("committed_at", .str "now")]
  distinct := ⟨by decide, trivial, trivial, trivial, trivial, trivial, trivial, trivial, trivial,
    trivial⟩

/-- A command with one event. -/
def sampleCommand : Tables.Command Unit where
  commandId := "command-1"
  actor := "operator"
  environment := "paper"
  idempotencyKey := "key-1"
  request := ⟨.null, trivial⟩
  result := ⟨.bool true, trivial⟩
  stateVersion := 0

def sampleBatch : Tables.Batch Unit := ⟨[(sampleEnvelope, some "orders")], none, none⟩

theorem normal_now : Normal "now" := by decide

def sampleNow (_ : Nat) : Reading := ⟨"now", normal_now⟩

theorem sample_committed : (empty.commitCommand sampleCommand sampleBatch
    sampleNow).toOption.isSome = true := by decide +kernel

theorem sample_exactly_once : ∃ (next : Tables) (row : CommandRow)
    (prepared : List PreparedEvent),
    next.commands = [row] ∧ next.events = batchRows 1 prepared ∧
      prepareBatch [] sampleBatch.events = .ok prepared ∧
      ∀ between : List (StoreCall Unit),
        CommittedOnce (next.runFrom between) sampleCommand sampleBatch.events := by
  have inserted : ((empty.commitCommand sampleCommand sampleBatch
      sampleNow).toOption.get sample_committed).2.inserted = true := by decide +kernel
  obtain ⟨row, prepared, commands, events, columns, once⟩ :=
    (exactly_once [] sampleCommand).1 sampleBatch sampleNow _ _ (eq_ok_get sample_committed)
      inserted
  exact ⟨_, row, prepared, commands, events, columns, once⟩

end Sample

end AutoTrade.Store.Tables
