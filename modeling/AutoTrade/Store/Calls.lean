import AutoTrade.Store.Admission
import AutoTrade.Store.Readers

/-!
# Runs of a journal store

The writing calls of `JournalStore` in any order, and what every one of them
preserves of the rows that are there: rows are only added, an outbox row only
becomes delivered, and a checkpoint only moves forward.
-/

namespace AutoTrade.Store

open Lib

/-- A writing call with its arguments and its clock readings. -/
inductive StoreCall (F : Type) where
  | appendEvent (envelope : Detached F) (outboxTopic : Option String)
      (expectedJournalSequence : Option Nat) (expectedCounts : Option WholeStoreCounts)
      (now : Reading)
  | commitCommand (command : Tables.Command F) (batch : Tables.Batch F) (now : Nat → Reading)
  | recordCommand (command : Tables.Command F) (now : Reading)
  | markOutboxDelivered (outboxId expectedEnvelopeHash : String)
      (expectedJournalSequence : Option Nat) (expectedCounts : Option WholeStoreCounts)
      (now : Reading)
  | saveProjectionCheckpoint (projectionName aggregateType aggregateId : String)
      (aggregateVersion : Nat) (state : Detached F) (now : Reading)
  | saveGlobalProjectionCheckpoint (projectionName : String) (journalSequence : Nat)
      (state : Detached F) (now : Reading)

namespace Tables

section Run

variable {F : Type} [FloatText F] [DecidableEq F] [TextFormats] [Fingerprint] [CaseMap]

/-- The tables a call commits. -/
def perform (tables : Tables) (invocation : StoreCall F) : Except StoreError Tables :=
  match invocation with
  | .appendEvent envelope outboxTopic expectedJournalSequence expectedCounts now =>
      (tables.appendEvent envelope outboxTopic expectedJournalSequence expectedCounts now).map
        Prod.fst
  | .commitCommand command batch now => (tables.commitCommand command batch now).map Prod.fst
  | .recordCommand command now => (tables.recordCommand command now).map Prod.fst
  | .markOutboxDelivered outboxId expectedEnvelopeHash expectedJournalSequence expectedCounts
      now =>
      (tables.markOutboxDelivered F outboxId expectedEnvelopeHash expectedJournalSequence
        expectedCounts now).map Prod.fst
  | .saveProjectionCheckpoint projectionName aggregateType aggregateId aggregateVersion state
      now =>
      (tables.saveProjectionCheckpoint projectionName aggregateType aggregateId
        aggregateVersion state now).map Prod.fst
  | .saveGlobalProjectionCheckpoint projectionName journalSequence state now =>
      (tables.saveGlobalProjectionCheckpoint projectionName journalSequence state now).map
        Prod.fst

/-- The tables after a call, returning or raising. -/
def call (tables : Tables) (invocation : StoreCall F) : Tables :=
  match tables.perform invocation with
  | .ok next => next
  | .error _ => tables

/-- The tables after a sequence of calls. -/
def runFrom (tables : Tables) (calls : List (StoreCall F)) : Tables :=
  calls.foldl call tables

/-- The tables after a sequence of calls on a new store. -/
def run (calls : List (StoreCall F)) : Tables := runFrom empty calls

end Run

/-! ## Growth -/

/-- An outbox row without its delivery. -/
def OutboxRow.intent (row : OutboxRow) : OutboxRow := { row with deliveredAt := none }

/-- A row is its publication intent with its delivery. -/
theorem OutboxRow.intent_deliveredAt (row : OutboxRow) :
    { OutboxRow.intent row with deliveredAt := row.deliveredAt } = row := rfl

/-- What every call preserves of the rows that are there. -/
structure Grows (before after : Tables) : Prop where
  events : before.events <+: after.events
  commands : before.commands <+: after.commands
  outbox : ∀ row ∈ before.outbox, ∃ row' ∈ after.outbox,
    OutboxRow.intent row' = OutboxRow.intent row ∧
      ∀ moment, row.deliveredAt = some moment → row'.deliveredAt = some moment
  added : ∀ row' ∈ after.outbox, (∃ row ∈ before.outbox,
    OutboxRow.intent row' = OutboxRow.intent row) ∨
      ∀ event ∈ before.events, event.eventId ≠ row'.eventId
  checkpoints : ∀ projectionName aggregateType aggregateId row,
    before.checkpoint? projectionName aggregateType aggregateId = some row →
      ∃ row', after.checkpoint? projectionName aggregateType aggregateId = some row' ∧
        row.aggregateVersion ≤ row'.aggregateVersion
  globalCheckpoints : ∀ projectionName row,
    before.globalCheckpoint? projectionName = some row →
      ∃ row', after.globalCheckpoint? projectionName = some row' ∧
        row.journalSequence ≤ row'.journalSequence

theorem Grows.refl (tables : Tables) : tables.Grows tables where
  events := List.prefix_rfl
  commands := List.prefix_rfl
  outbox row member := ⟨row, member, rfl, fun _ delivered => delivered⟩
  added row member := .inl ⟨row, member, rfl⟩
  checkpoints _ _ _ row found := ⟨row, found, Nat.le_refl _⟩
  globalCheckpoints _ row found := ⟨row, found, Nat.le_refl _⟩

theorem Grows.trans {first second third : Tables} (left : first.Grows second)
    (right : second.Grows third) : first.Grows third where
  events := left.events.trans right.events
  commands := left.commands.trans right.commands
  outbox := by
    intro row member
    obtain ⟨row', member', same, kept⟩ := left.outbox row member
    obtain ⟨row'', member'', same', kept'⟩ := right.outbox row' member'
    exact ⟨row'', member'', same'.trans same, fun moment delivered =>
      kept' moment (kept moment delivered)⟩
  added := by
    intro row'' member''
    rcases right.added row'' member'' with ⟨row', member', same'⟩ | fresh
    · have sameEvent : (OutboxRow.intent row'').eventId = (OutboxRow.intent row').eventId :=
        congrArg OutboxRow.eventId same'
      rcases left.added row' member' with ⟨row, member, same⟩ | fresh
      · exact .inl ⟨row, member, same'.trans same⟩
      · right
        intro event known equal
        exact fresh event known (equal.trans sameEvent)
    · right
      intro event known
      exact fresh event (left.events.subset known)
  checkpoints := by
    intro projectionName aggregateType aggregateId row found
    obtain ⟨row', found', later⟩ := left.checkpoints _ _ _ row found
    obtain ⟨row'', found'', later'⟩ := right.checkpoints _ _ _ row' found'
    exact ⟨row'', found'', later.trans later'⟩
  globalCheckpoints := by
    intro projectionName row found
    obtain ⟨row', found', later⟩ := left.globalCheckpoints _ row found
    obtain ⟨row'', found'', later'⟩ := right.globalCheckpoints _ row' found'
    exact ⟨row'', found'', later.trans later'⟩

/-! ## Statements -/

theorem insertEvent_eq_ok {tables next : Tables} {row : EventRow}
    (success : tables.insertEvent row = .ok next) :
    (∀ other ∈ tables.events, other.eventId ≠ row.eventId) ∧
      next = { tables with events := tables.events ++ [row] } := by
  rw [insertEvent, guard_eq_ok, Except.ok.injEq] at success
  obtain ⟨fresh, rfl⟩ := success
  simp only [List.any_eq_true, decide_eq_true_eq, not_or, not_exists, not_and] at fresh
  exact ⟨fun other member => (fresh.2 other member).1, rfl⟩

theorem insertOutbox_eq_ok {tables next : Tables} {row : OutboxRow}
    (success : tables.insertOutbox row = .ok next) :
    (∀ other ∈ tables.outbox, other.eventId ≠ row.eventId) ∧
      next = { tables with outbox := tables.outbox ++ [row] } := by
  rw [insertOutbox, guard_eq_ok, Except.ok.injEq] at success
  obtain ⟨fresh, rfl⟩ := success
  simp only [List.any_eq_true, decide_eq_true_eq, not_or, not_exists, not_and] at fresh
  exact ⟨fun other member => (fresh.1 other member).2, rfl⟩

theorem insertCommand_eq_ok {tables next : Tables} {row : CommandRow}
    (success : tables.insertCommand row = .ok next) :
    (∀ other ∈ tables.commands, ¬ (other.actor = row.actor ∧
      other.environment = row.environment ∧ other.idempotencyKey = row.idempotencyKey)) ∧
      next = { tables with commands := tables.commands ++ [row] } := by
  rw [insertCommand, guard_eq_ok, Except.ok.injEq] at success
  obtain ⟨fresh, rfl⟩ := success
  simp only [List.any_eq_true, decide_eq_true_eq, not_or, not_exists, not_and] at fresh
  refine ⟨fun other member same => ?_, rfl⟩
  exact (fresh other member).2 same.1 same.2.1 same.2.2

theorem insertCommand_grows {tables next : Tables} {row : CommandRow}
    (success : tables.insertCommand row = .ok next) : tables.Grows next := by
  obtain ⟨_, rfl⟩ := insertCommand_eq_ok success
  exact { Grows.refl tables with commands := List.prefix_append _ _ }

section Inserting

variable {F : Type} [FloatText F] [Fingerprint]

variable (F) in
/-- The outbox row of an event that is to be published. -/
def publicationRow (event : PreparedEvent) (now : Reading) :
    Except StoreError (Option OutboxRow) :=
  match event.outboxTopic with
  | none => .ok none
  | some topic =>
      (outboxEnvelopeDigest F topic event.envelopeJson).map fun envelopeHash => some {
        outboxId := outboxId event.eventId
        eventId := event.eventId
        topic
        payloadJson := event.envelopeJson
        createdAt := now.text
        deliveredAt := none
        envelopeHash }

/-- What the insertion of a prepared event adds. -/
theorem insertPrepared_eq_ok {tables next : Tables} {event : PreparedEvent}
    {journalSequence : Nat} {now : Reading}
    (success : tables.insertPrepared F event journalSequence now = .ok next) :
    ∃ publication, publicationRow F event now = .ok publication ∧
      (∀ other ∈ tables.events, other.eventId ≠ event.eventId) ∧
      next = { tables with
        events := tables.events ++ [⟨event.toEventCore, journalSequence⟩]
        outbox := tables.outbox ++ publication.toList } := by
  rw [insertPrepared, bind_eq_ok] at success
  obtain ⟨extended, inserted, success⟩ := success
  obtain ⟨fresh, rfl⟩ := insertEvent_eq_ok inserted
  cases intended : event.outboxTopic with
  | none =>
      simp only [intended, pure_eq_ok] at success
      subst success
      simp only [publicationRow, intended]
      exact ⟨none, rfl, fresh, by rw [Option.toList_none, List.append_nil]⟩
  | some topic =>
      simp only [intended, bind_eq_ok] at success
      obtain ⟨envelopeHash, digest, success⟩ := success
      obtain ⟨_, rfl⟩ := insertOutbox_eq_ok success
      simp only [publicationRow, intended, digest]
      exact ⟨_, rfl, fresh, rfl⟩

theorem mem_publicationRow {event : PreparedEvent} {now : Reading}
    {publication : Option OutboxRow} (success : publicationRow F event now = .ok publication)
    {row : OutboxRow} (member : row ∈ publication.toList) :
    event.outboxTopic = some row.topic ∧ row.eventId = event.eventId ∧
      row.payloadJson = event.envelopeJson ∧ row.outboxId = outboxId event.eventId ∧
      row.createdAt = now.text ∧ row.deliveredAt = none ∧
      outboxEnvelopeDigest F row.topic event.envelopeJson = .ok row.envelopeHash := by
  rw [Option.mem_toList] at member
  unfold publicationRow at success
  split at success
  next =>
    cases success
    cases member
  next topic found =>
    cases digest : outboxEnvelopeDigest F topic event.envelopeJson with
    | error error =>
        rw [digest] at success
        cases success
    | ok envelopeHash =>
        rw [digest] at success
        cases success
        cases member
        exact ⟨found, rfl, rfl, rfl, rfl, rfl, digest⟩

theorem publicationRow_topic {event : PreparedEvent} {now : Reading}
    {publication : Option OutboxRow} (success : publicationRow F event now = .ok publication) :
    publication.map OutboxRow.topic = event.outboxTopic := by
  unfold publicationRow at success
  split at success
  next unpublished =>
    cases success
    exact unpublished.symm
  next topic found =>
    cases digest : outboxEnvelopeDigest F topic event.envelopeJson with
    | error error =>
        rw [digest] at success
        cases success
    | ok envelopeHash =>
        rw [digest] at success
        cases success
        exact found.symm

theorem insertPrepared_grows {tables next : Tables} {event : PreparedEvent}
    {journalSequence : Nat} {now : Reading}
    (success : tables.insertPrepared F event journalSequence now = .ok next) :
    tables.Grows next := by
  obtain ⟨publication, published, fresh, rfl⟩ := insertPrepared_eq_ok success
  exact {
    events := List.prefix_append _ _
    commands := List.prefix_rfl
    outbox := fun row member =>
      ⟨row, List.mem_append_left _ member, rfl, fun _ delivered => delivered⟩
    added := by
      intro row member
      rcases List.mem_append.mp member with old | new
      · exact .inl ⟨row, old, rfl⟩
      · right
        intro other known
        rw [(mem_publicationRow published new).2.1]
        exact fresh other known
    checkpoints := fun _ _ _ row found => ⟨row, found, Nat.le_refl _⟩
    globalCheckpoints := fun _ row found => ⟨row, found, Nat.le_refl _⟩ }

theorem insertPreparedBatch_grows {batch : List PreparedEvent} {tables next : Tables}
    {journalSequence : Nat} {now : Nat → Reading}
    (success : tables.insertPreparedBatch F journalSequence now batch = .ok next) :
    tables.Grows next := by
  induction batch generalizing tables journalSequence with
  | nil =>
      cases success
      exact Grows.refl _
  | cons event rest ih =>
      rw [insertPreparedBatch, bind_eq_ok] at success
      obtain ⟨middle, first, tail⟩ := success
      exact (insertPrepared_grows first).trans (ih tail)

theorem insertPrepared_frame {tables next : Tables} {event : PreparedEvent}
    {journalSequence : Nat} {now : Reading}
    (success : tables.insertPrepared F event journalSequence now = .ok next) :
    next.commands = tables.commands ∧ next.checkpoints = tables.checkpoints ∧
      next.globalCheckpoints = tables.globalCheckpoints := by
  obtain ⟨_, _, _, rfl⟩ := insertPrepared_eq_ok success
  exact ⟨rfl, rfl, rfl⟩

theorem insertPreparedBatch_frame {batch : List PreparedEvent} {tables next : Tables}
    {journalSequence : Nat} {now : Nat → Reading}
    (success : tables.insertPreparedBatch F journalSequence now batch = .ok next) :
    next.commands = tables.commands ∧ next.checkpoints = tables.checkpoints ∧
      next.globalCheckpoints = tables.globalCheckpoints := by
  induction batch generalizing tables journalSequence with
  | nil =>
      cases success
      exact ⟨rfl, rfl, rfl⟩
  | cons event rest ih =>
      rw [insertPreparedBatch, bind_eq_ok] at success
      obtain ⟨middle, first, tail⟩ := success
      obtain ⟨commands, checkpoints, globalCheckpoints⟩ := insertPrepared_frame first
      obtain ⟨commands', checkpoints', globalCheckpoints'⟩ := ih tail
      exact ⟨commands'.trans commands, checkpoints'.trans checkpoints,
        globalCheckpoints'.trans globalCheckpoints⟩

end Inserting

/-! ## What a call does -/

theorem scopedKey_environment [CaseMap] {actor environment idempotencyKey : String}
    {key : String × String × String}
    (success : scopedKey actor environment idempotencyKey = .ok key) :
    isEnvironment key.2.1 = true := by
  simp only [scopedKey, commandEnvironment, bind_eq_ok, pure_eq_ok] at success
  obtain ⟨_, _, environment, valid, _, _, rfl⟩ := success
  split at valid
  next known =>
    cases valid
    exact known
  next => cases valid

/-- The scoped key of a command and its command id. -/
theorem commandScope_eq_ok [CaseMap] {F : Type} {command : Command F} {scope : CommandScope} :
    commandScope command = .ok scope ↔
      requireText command.commandId "command_id" = .ok scope.commandId ∧
        scopedKey command.actor command.environment command.idempotencyKey =
          .ok (scope.actor, scope.environment, scope.idempotencyKey) := by
  simp only [commandScope, bind_eq_ok, pure_eq_ok]
  constructor
  · rintro ⟨commandId, found, ⟨actor, environment, idempotencyKey⟩, key, rfl⟩
    exact ⟨found, key⟩
  · rintro ⟨found, key⟩
    exact ⟨_, found, _, key, rfl⟩

section Cases

variable {F : Type} [FloatText F] [Fingerprint]

/-- An append that returns found the same event or inserted it at the next
version of its aggregate. -/
theorem appendPrepared_cases {tables next : Tables} {event : PreparedEvent}
    {expected : Option Nat} {counts : Option WholeStoreCounts} {now : Reading}
    {result : AppendResult}
    (success : tables.appendPrepared F event expected counts now = .ok (next, result)) :
    (next = tables ∧ ∃ existing envelopeHash,
        tables.eventRow? event.eventId = some existing ∧
          existing.toEventCore = event.toEventCore ∧
          samePublication (tables.outboxRow? event.eventId) event envelopeHash = true) ∨
      ∃ cut current, tables.journalSequenceValue = .ok cut ∧
        tables.aggregateVersionValue event.aggregateType event.aggregateId = .ok current ∧
        event.aggregateVersion = current + 1 ∧
        tables.insertPrepared F event (cut + 1) now = .ok next := by
  unfold appendPrepared at success
  split at success
  next existing found =>
    simp only [bind_eq_ok, throw_unless_eq_ok, not_not] at success
    obtain ⟨envelopeHash, _, same, _, _, _, _, success⟩ := success
    cases success
    exact .inl ⟨rfl, existing, envelopeHash, found, same⟩
  next =>
    simp only [bind_eq_ok, throw_unless_eq_ok, not_not] at success
    obtain ⟨cut, position, _, _, _, _, current, counted, version, extended, inserted,
      success⟩ := success
    cases success
    exact .inr ⟨cut, current, position, counted, version, inserted⟩

theorem appendPrepared_grows {tables next : Tables} {event : PreparedEvent}
    {expected : Option Nat} {counts : Option WholeStoreCounts} {now : Reading}
    {result : AppendResult}
    (success : tables.appendPrepared F event expected counts now = .ok (next, result)) :
    tables.Grows next := by
  rcases appendPrepared_cases success with ⟨rfl, _⟩ | ⟨_, _, _, _, _, inserted⟩
  · exact Grows.refl _
  · exact insertPrepared_grows inserted

theorem appendPrepared_frame {tables next : Tables} {event : PreparedEvent}
    {expected : Option Nat} {counts : Option WholeStoreCounts} {now : Reading}
    {result : AppendResult}
    (success : tables.appendPrepared F event expected counts now = .ok (next, result)) :
    next.commands = tables.commands ∧ next.checkpoints = tables.checkpoints ∧
      next.globalCheckpoints = tables.globalCheckpoints := by
  rcases appendPrepared_cases success with ⟨rfl, _⟩ | ⟨_, _, _, _, _, inserted⟩
  · exact ⟨rfl, rfl, rfl⟩
  · exact insertPrepared_frame inserted

/-- What the texts of a prepared command are. -/
theorem prepareCommand_eq_ok {command : Command F} {scope : CommandScope}
    {prepared : PreparedCommand F} (success : prepareCommand command scope = .ok prepared) :
    prepared.toCommandScope = scope ∧ prepared.result = command.result.value ∧
      command.result.value.canonicalText = some prepared.resultJson ∧
      ∃ text, command.request.value.canonicalText = some text ∧
        prepared.requestHash = textDigest text := by
  simp only [prepareCommand, bind_eq_ok, pure_eq_ok, payloadDigest_eq_ok,
    canonicalJsonText_eq_ok] at success
  obtain ⟨_, ⟨text, request, rfl⟩, _, result, rfl⟩ := success
  exact ⟨rfl, rfl, result, text, request, rfl⟩

theorem replayResult_eq_ok {existing : CommandRow} {requestHash : String} {saved : Json F}
    (success : replayResult existing requestHash = .ok saved) :
    decodeCommandResult existing = .ok saved ∧ existing.requestHash = requestHash := by
  rw [replayResult, bind_eq_ok] at success
  obtain ⟨decoded, found, success⟩ := success
  rw [guard_eq_ok, not_not, pure_eq_ok] at success
  obtain ⟨same, rfl⟩ := success
  exact ⟨found, same⟩

/-- What a first `commit_command` has checked and inserts. -/
theorem insertCommit_eq_ok {tables next : Tables} {command : PreparedCommand F}
    {prepared : List PreparedEvent} {expected : Option Nat}
    {counts : Option WholeStoreCounts} {now : Nat → Reading} {outcome : CommitOutcome F}
    (success : tables.insertCommit command prepared expected counts now =
      .ok (next, outcome)) :
    ∃ cut effectJson effectHash withCommand, tables.journalSequenceValue = .ok cut ∧
      eventBatchEffect F prepared (List.range' (cut + 1) prepared.length) =
        .ok (effectJson, effectHash) ∧
      tables.checkVersions ∅ prepared = .ok () ∧
      tables.insertCommand (command.row (.eventBatch effectJson effectHash) (now cut)) =
        .ok withCommand ∧
      withCommand.insertPreparedBatch F (cut + 1) now prepared = .ok next ∧
      outcome = ⟨command.result, true, prepared.map fun event =>
        ⟨event.eventId, event.aggregateVersion, true⟩⟩ := by
  simp only [insertCommit, bind_eq_ok] at success
  obtain ⟨_, _, cut, position, _, _, _, _, ⟨effectJson, effectHash⟩, effect, _, versions,
    withCommand, inserted, extended, batch, success⟩ := success
  cases success
  exact ⟨cut, effectJson, effectHash, withCommand, position, effect, versions, inserted, batch,
    rfl⟩

section Recording

variable [CaseMap]

/-- What every `record_command` that returns has checked. -/
theorem recordCommand_eq_ok {tables next : Tables} {command : Command F} {now : Reading}
    {result : Json F} {inserted : Bool}
    (success : tables.recordCommand command now = .ok (next, result, inserted)) :
    ∃ scope prepared, commandScope command = .ok scope ∧
      prepareCommand command scope = .ok prepared ∧
      ((∃ existing, tables.commandRow? prepared.actor prepared.environment
          prepared.idempotencyKey = some existing ∧ existing.effect = .resultOnly ∧
          decodeCommandResult existing = .ok result ∧
          existing.requestHash = prepared.requestHash ∧ next = tables ∧ inserted = false) ∨
        (tables.commandRow? prepared.actor prepared.environment prepared.idempotencyKey = none ∧
          tables.insertCommand (prepared.row .resultOnly now) = .ok next ∧
          result = prepared.result ∧ inserted = true)) := by
  simp only [recordCommand, bind_eq_ok] at success
  obtain ⟨scope, identified, prepared, digested, _, _, success⟩ := success
  refine ⟨scope, prepared, identified, digested, ?_⟩
  split at success
  next existing found =>
    rw [bind_eq_ok] at success
    obtain ⟨saved, replayed, success⟩ := success
    obtain ⟨decoded, sameRequest⟩ := replayResult_eq_ok replayed
    split at success
    next effect =>
      cases success
      exact .inl ⟨existing, found, effect, decoded, sameRequest, rfl, rfl⟩
    next => cases success
  next absent =>
    simp only [bind_eq_ok] at success
    obtain ⟨_, _, extended, command, success⟩ := success
    cases success
    exact .inr ⟨absent, command, rfl, rfl⟩

theorem recordCommand_grows {tables next : Tables} {command : Command F} {now : Reading}
    {result : Json F} {inserted : Bool}
    (success : tables.recordCommand command now = .ok (next, result, inserted)) :
    tables.Grows next := by
  obtain ⟨_, _, _, _, ⟨_, _, _, _, _, rfl, _⟩ | ⟨_, command, _⟩⟩ := recordCommand_eq_ok success
  · exact Grows.refl _
  · exact insertCommand_grows command

end Recording

section Committing

variable [DecidableEq F] [TextFormats]

/-- What a retry of `commit_command` has checked. -/
theorem replayCommit_eq_ok {tables next : Tables} {existing : CommandRow}
    {command : PreparedCommand F} {prepared : List PreparedEvent} {outcome : CommitOutcome F}
    (success : tables.replayCommit existing command prepared = .ok (next, outcome)) :
    next = tables ∧ outcome.inserted = false ∧ outcome.appended = [] ∧
      decodeCommandResult existing = .ok outcome.result ∧
      existing.requestHash = command.requestHash ∧
      ∃ effectJson effectHash sequences, existing.effect = .eventBatch effectJson effectHash ∧
        storedEffectJournalSequences F effectJson effectHash = .ok sequences ∧
        eventBatchEffect F prepared sequences = .ok (effectJson, effectHash) := by
  rw [replayCommit, bind_eq_ok] at success
  obtain ⟨saved, replayed, success⟩ := success
  obtain ⟨decoded, sameRequest⟩ := replayResult_eq_ok replayed
  split at success
  next effectJson effectHash effect =>
    simp only [bind_eq_ok, throw_unless_eq_ok, not_not] at success
    obtain ⟨sequences, stored, retry, rebuilt, same, _, _, _, _, _, _, success⟩ := success
    cases success
    rw [← same] at rebuilt
    exact ⟨rfl, rfl, rfl, decoded, sameRequest, effectJson, effectHash, sequences, effect,
      stored, rebuilt⟩
  next => cases success

variable [CaseMap]

/-- What every `commit_command` that returns has checked. -/
theorem commitCommand_eq_ok {tables next : Tables} {command : Command F}
    {batch : Batch F} {now : Nat → Reading} {outcome : CommitOutcome F}
    (success : tables.commitCommand command batch now = .ok (next, outcome)) :
    ∃ scope prepared events, commandScope command = .ok scope ∧ batch.events ≠ [] ∧
      prepareCommand command scope = .ok prepared ∧ prepareBatch [] batch.events = .ok events ∧
      ((∃ existing, tables.commandRow? prepared.actor prepared.environment
          prepared.idempotencyKey = some existing ∧
          tables.replayCommit existing prepared events = .ok (next, outcome)) ∨
        (tables.commandRow? prepared.actor prepared.environment prepared.idempotencyKey = none ∧
          tables.insertCommit prepared events batch.expectedJournalSequence
            batch.expectedCounts now = .ok (next, outcome))) := by
  simp only [commitCommand, bind_eq_ok, throw_unless_eq_ok] at success
  obtain ⟨scope, identified, nonempty, prepared, digested, events, admitted, _, _, success⟩ :=
    success
  refine ⟨scope, prepared, events, identified, ?_, digested, admitted, ?_⟩
  · rwa [List.isEmpty_iff] at nonempty
  · split at success
    next existing found => exact .inl ⟨existing, found, success⟩
    next absent => exact .inr ⟨absent, success⟩

theorem commitCommand_grows {tables next : Tables} {command : Command F}
    {batch : Batch F} {now : Nat → Reading} {outcome : CommitOutcome F}
    (success : tables.commitCommand command batch now = .ok (next, outcome)) :
    tables.Grows next := by
  obtain ⟨_, _, _, _, _, _, _, ⟨_, _, replayed⟩ | ⟨_, inserted⟩⟩ := commitCommand_eq_ok success
  · rw [(replayCommit_eq_ok replayed).1]
    exact Grows.refl _
  · obtain ⟨_, _, _, _, _, _, _, command, events, _⟩ := insertCommit_eq_ok inserted
    exact (insertCommand_grows command).trans (insertPreparedBatch_grows events)

end Committing

end Cases

/-! ## Deliveries and checkpoints -/

@[simp] theorem OutboxRow.intent_deliver (row : OutboxRow) (outboxId envelopeHash : String)
    (now : Reading) :
    OutboxRow.intent (OutboxRow.deliver row outboxId envelopeHash now) =
      OutboxRow.intent row := by
  unfold OutboxRow.deliver
  split <;> rfl

theorem OutboxRow.deliver_kept {row : OutboxRow} {moment : String}
    (delivered : row.deliveredAt = some moment) (outboxId envelopeHash : String)
    (now : Reading) :
    (OutboxRow.deliver row outboxId envelopeHash now).deliveredAt = some moment := by
  unfold OutboxRow.deliver
  split
  next pending =>
    rw [pending.2.1] at delivered
    cases delivered
  next => exact delivered

section Acknowledging

variable {F : Type} [FloatText F] [DecidableEq F] [TextFormats] [Fingerprint]

/-- An acknowledgement that returns changes no row, or delivers the row with the
outbox id. -/
theorem markOutboxDelivered_cases {tables next : Tables}
    {outboxId envelopeHash : String} {expected : Option Nat}
    {counts : Option WholeStoreCounts} {now : Reading} {delivered : Bool}
    (success : tables.markOutboxDelivered F outboxId envelopeHash expected counts now =
      .ok (next, delivered)) :
    next = tables ∨ next = { tables with
      outbox := tables.outbox.map fun row => OutboxRow.deliver row outboxId envelopeHash now } := by
  simp only [markOutboxDelivered, bind_eq_ok] at success
  obtain ⟨_, _, _, _, success⟩ := success
  split at success
  next => cases success
  next row event found =>
    simp only [bind_eq_ok, throw_unless_eq_ok] at success
    obtain ⟨_, _, _, _, _, _, _, _, _, _, _, success⟩ := success
    split at success
    next =>
      rw [bind_eq_ok] at success
      obtain ⟨_, _, success⟩ := success
      cases success
      exact .inl rfl
    next =>
      rw [throw_unless_eq_ok] at success
      obtain ⟨_, success⟩ := success
      cases success
      exact .inr rfl

theorem markOutboxDelivered_grows {tables next : Tables}
    {outboxId envelopeHash : String} {expected : Option Nat}
    {counts : Option WholeStoreCounts} {now : Reading} {delivered : Bool}
    (success : tables.markOutboxDelivered F outboxId envelopeHash expected counts now =
      .ok (next, delivered)) : tables.Grows next := by
  rcases markOutboxDelivered_cases success with rfl | rfl
  · exact Grows.refl _
  · exact {
      events := List.prefix_rfl
      commands := List.prefix_rfl
      outbox := fun row member => ⟨_, List.mem_map_of_mem member, by simp,
        fun moment old => OutboxRow.deliver_kept old _ _ _⟩
      added := by
        intro row' member'
        obtain ⟨row, member, rfl⟩ := List.mem_map.mp member'
        exact .inl ⟨row, member, by simp⟩
      checkpoints := fun _ _ _ row found => ⟨row, found, Nat.le_refl _⟩
      globalCheckpoints := fun _ row found => ⟨row, found, Nat.le_refl _⟩ }

end Acknowledging

/-- A row that an upsert adds is the new one. -/
theorem mem_of_mem_upsert {Row : Type} {sameKey : Row → Bool} {row found : Row}
    {rows : List Row} (member : found ∈ upsert sameKey row rows) : found = row ∨ found ∈ rows := by
  induction rows with
  | nil => exact .inl (List.mem_singleton.mp member)
  | cons other rest ih =>
      rw [upsert] at member
      split at member
      · exact (List.mem_cons.mp member).imp_right (List.mem_cons_of_mem other)
      · rcases List.mem_cons.mp member with rfl | tail
        · exact .inr List.mem_cons_self
        · exact (ih tail).imp_right (List.mem_cons_of_mem other)

/-- The row that an upsert puts is the one under its key. -/
theorem find?_upsert_self {Row : Type} {sameKey : Row → Bool} {row : Row} {rows : List Row}
    (own : sameKey row = true) : (upsert sameKey row rows).find? sameKey = some row := by
  induction rows with
  | nil => rw [upsert, List.find?_cons, own]
  | cons other rest ih =>
      rw [upsert]
      cases same : sameKey other with
      | true => rw [if_pos rfl, List.find?_cons, own]
      | false =>
          rw [if_neg Bool.false_ne_true, List.find?_cons, same]
          exact ih

/-- An upsert does not change what is under another key. -/
theorem find?_upsert_of_ne {Row : Type} {sameKey wanted : Row → Bool} {row : Row}
    {rows : List Row} (other : wanted row = false)
    (apart : ∀ stored, sameKey stored = true → wanted stored = false) :
    (upsert sameKey row rows).find? wanted = rows.find? wanted := by
  induction rows with
  | nil => rw [upsert, List.find?_cons, other]
  | cons first rest ih =>
      rw [upsert]
      cases same : sameKey first with
      | true => rw [if_pos rfl, List.find?_cons, List.find?_cons, other, apart first same]
      | false =>
          rw [if_neg Bool.false_ne_true, List.find?_cons, List.find?_cons, ih]

theorem checkProgress_eq_ok {same replaces : Bool} {version stored : Nat} {message : String}
    (success : checkProgress same version stored message = .ok replaces)
    (replaced : replaces = true) : stored < version := by
  unfold checkProgress at success
  split at success
  next =>
    cases success
    cases replaced
  next =>
    split at success
    next => cases success
    next later => exact Nat.not_le.mp later

section Checkpoints

variable {F : Type} [FloatText F] [Fingerprint]

/-- A save that returns changes no row, or puts a checkpoint that is not ahead of
the aggregate and is later than the stored one. -/
theorem saveProjectionCheckpoint_cases {tables next : Tables}
    {projectionName aggregateType aggregateId : String} {aggregateVersion : Nat}
    {state : Detached F} {now : Reading} {inserted : Bool}
    (success : tables.saveProjectionCheckpoint projectionName aggregateType aggregateId
      aggregateVersion state now = .ok (next, inserted)) :
    next = tables ∨ ∃ row current,
      next = { tables with checkpoints := upsertCheckpoint row tables.checkpoints } ∧
      tables.aggregateVersionValue row.aggregateType row.aggregateId = .ok current ∧
      row.aggregateVersion ≤ current ∧
      ∀ stored, tables.checkpoint? row.projectionName row.aggregateType row.aggregateId =
        some stored → stored.aggregateVersion < row.aggregateVersion := by
  simp only [saveProjectionCheckpoint, bind_eq_ok, throw_unless_eq_ok] at success
  obtain ⟨name, _, type, _, id, _, stateJson, _, stateHash, _, _, _, current, counted, behind,
    replaces, progress, success⟩ := success
  split at success
  next replaced =>
    cases success
    refine .inr ⟨_, current, rfl, counted, Nat.not_lt.mp behind, ?_⟩
    intro stored found
    rw [found] at progress
    exact checkProgress_eq_ok progress replaced
  next =>
    cases success
    exact .inl rfl

theorem saveProjectionCheckpoint_grows {tables next : Tables}
    {projectionName aggregateType aggregateId : String} {aggregateVersion : Nat}
    {state : Detached F} {now : Reading} {inserted : Bool}
    (success : tables.saveProjectionCheckpoint projectionName aggregateType aggregateId
      aggregateVersion state now = .ok (next, inserted)) : tables.Grows next := by
  rcases saveProjectionCheckpoint_cases success with rfl | ⟨row, _, rfl, _, _, later⟩
  · exact Grows.refl _
  · refine { Grows.refl tables with checkpoints := ?_ }
    intro projectionName aggregateType aggregateId stored found
    by_cases same : row.projectionName = projectionName ∧ row.aggregateType = aggregateType ∧
        row.aggregateId = aggregateId
    · obtain ⟨rfl, rfl, rfl⟩ := same
      exact ⟨row, find?_upsert_self (decide_eq_true ⟨rfl, rfl, rfl⟩), (later stored found).le⟩
    · refine ⟨stored, ?_, Nat.le_refl _⟩
      rw [← found]
      refine find?_upsert_of_ne (decide_eq_false same) fun other key => decide_eq_false ?_
      rw [decide_eq_true_eq] at key
      rw [key.1, key.2.1, key.2.2]
      exact same

/-- As `saveProjectionCheckpoint_cases`, of a global checkpoint. -/
theorem saveGlobalProjectionCheckpoint_cases {tables next : Tables} {projectionName : String}
    {journalSequence : Nat} {state : Detached F} {now : Reading} {inserted : Bool}
    (success : tables.saveGlobalProjectionCheckpoint projectionName journalSequence state now =
      .ok (next, inserted)) :
    next = tables ∨ ∃ row current,
      next = { tables with
        globalCheckpoints := upsertGlobalCheckpoint row tables.globalCheckpoints } ∧
      tables.journalSequenceValue = .ok current ∧ row.journalSequence ≤ current ∧
      ∀ stored, tables.globalCheckpoint? row.projectionName = some stored →
        stored.journalSequence < row.journalSequence := by
  simp only [saveGlobalProjectionCheckpoint, bind_eq_ok, throw_unless_eq_ok] at success
  obtain ⟨name, _, stateJson, _, stateHash, _, current, position, behind, _, _, replaces,
    progress, success⟩ := success
  split at success
  next replaced =>
    cases success
    refine .inr ⟨_, current, rfl, position, Nat.not_lt.mp behind, ?_⟩
    intro stored found
    rw [found] at progress
    exact checkProgress_eq_ok progress replaced
  next =>
    cases success
    exact .inl rfl

theorem saveGlobalProjectionCheckpoint_grows {tables next : Tables} {projectionName : String}
    {journalSequence : Nat} {state : Detached F} {now : Reading} {inserted : Bool}
    (success : tables.saveGlobalProjectionCheckpoint projectionName journalSequence state now =
      .ok (next, inserted)) : tables.Grows next := by
  rcases saveGlobalProjectionCheckpoint_cases success with rfl | ⟨row, _, rfl, _, _, later⟩
  · exact Grows.refl _
  · refine { Grows.refl tables with globalCheckpoints := ?_ }
    intro projectionName stored found
    by_cases same : row.projectionName = projectionName
    · subst same
      exact ⟨row, find?_upsert_self (decide_eq_true rfl), (later stored found).le⟩
    · refine ⟨stored, ?_, Nat.le_refl _⟩
      rw [← found]
      refine find?_upsert_of_ne (decide_eq_false same) fun other key => decide_eq_false ?_
      rw [decide_eq_true_eq] at key
      rw [key]
      exact same

end Checkpoints

/-! ## Every call -/

section Runs

variable {F : Type} [FloatText F] [DecidableEq F] [TextFormats] [Fingerprint] [CaseMap]

theorem perform_grows {tables next : Tables} {invocation : StoreCall F}
    (success : tables.perform invocation = .ok next) : tables.Grows next := by
  cases invocation with
  | appendEvent =>
      obtain ⟨_, success⟩ := map_fst_eq_ok.mp success
      rw [appendEvent, bind_eq_ok] at success
      obtain ⟨event, _, appended⟩ := success
      exact appendPrepared_grows appended
  | commitCommand =>
      obtain ⟨_, success⟩ := map_fst_eq_ok.mp success
      exact commitCommand_grows success
  | recordCommand =>
      obtain ⟨_, success⟩ := map_fst_eq_ok.mp success
      exact recordCommand_grows success
  | markOutboxDelivered =>
      obtain ⟨_, success⟩ := map_fst_eq_ok.mp success
      exact markOutboxDelivered_grows success
  | saveProjectionCheckpoint =>
      obtain ⟨_, success⟩ := map_fst_eq_ok.mp success
      exact saveProjectionCheckpoint_grows success
  | saveGlobalProjectionCheckpoint =>
      obtain ⟨_, success⟩ := map_fst_eq_ok.mp success
      exact saveGlobalProjectionCheckpoint_grows success

/-- A call commits its tables, or raises and leaves them. -/
theorem call_cases (tables : Tables) (invocation : StoreCall F) :
    tables.perform invocation = .ok (tables.call invocation) ∨
      (∃ error, tables.perform invocation = .error error) ∧ tables.call invocation = tables := by
  unfold call
  cases tables.perform invocation with
  | ok next => exact .inl rfl
  | error error => exact .inr ⟨⟨error, rfl⟩, rfl⟩

theorem call_grows (tables : Tables) (invocation : StoreCall F) :
    tables.Grows (tables.call invocation) := by
  rcases tables.call_cases invocation with committed | ⟨_, raised⟩
  · exact perform_grows committed
  · rw [raised]
    exact Grows.refl _

theorem run_append (calls later : List (StoreCall F)) :
    run (calls ++ later) = (run calls).runFrom later :=
  List.foldl_append

theorem runFrom_grows (tables : Tables) (calls : List (StoreCall F)) :
    tables.Grows (tables.runFrom calls) := by
  induction calls generalizing tables with
  | nil => exact Grows.refl _
  | cons invocation rest ih => exact (tables.call_grows invocation).trans (ih _)

end Runs

end Tables

end AutoTrade.Store
