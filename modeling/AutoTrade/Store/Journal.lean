import AutoTrade.Lib.Raise
import AutoTrade.Lib.Time
import Mathlib.Data.List.Nodup
import Mathlib.Order.Basic

/-!
# Journal store

The executable model of `JournalStore.append_event`, `commit_command` and the
event loaders.  A SQLite transaction is one function from the journal before it
to the journal after it; a transaction that raises is rolled back.

A journal carries its two table invariants: the versions of every aggregate are
contiguous from one, and event ids are distinct.  `journal_sequence` is the
position in `events`.
-/

namespace AutoTrade.Store

open Lib

/-- `aggregate_type` and `aggregate_id`. -/
structure Aggregate where
  aggregateType : String
  aggregateId : String
  deriving DecidableEq, Repr

/-- An event row with its outbox row.  `body` holds the event type, the payload
and the remaining envelope fields. -/
structure Envelope (π : Type) where
  eventId : String
  aggregate : Aggregate
  aggregateVersion : Nat
  committedAt : Instant
  body : π
  outboxTopic : Option String
  deriving DecidableEq, Repr

/-- Bodies of one component inside the bodies of a shared journal. -/
class Carries (β π : Type) where
  embed : β → π
  view : π → Option β
  view_embed : ∀ body, view (embed body) = some body

attribute [simp] Carries.view_embed

/-- A journal of one component. -/
@[reducible] def Carries.self (β : Type) : Carries β β := ⟨id, some, fun _ => rfl⟩

/-- A row of `command_dedupe` with an event-batch effect. -/
structure Command (π κ : Type) where
  commandId : String
  actor : String
  environment : String
  idempotencyKey : String
  request : κ
  result : κ
  stateVersion : Nat
  batch : List (Envelope π)
  firstSequence : Nat
  deriving DecidableEq, Repr

/-- The `ValueError` a rejected transaction raises. -/
structure ValueError where
  message : String
  deriving DecidableEq, Repr

structure AppendResult where
  eventId : String
  aggregateVersion : Nat
  inserted : Bool
  deriving DecidableEq, Repr

/-- The rows of one aggregate. -/
def eventsOf {π : Type} (events : List (Envelope π)) (aggregate : Aggregate) :
    List (Envelope π) :=
  events.filter fun event => event.aggregate = aggregate

theorem eventsOf_append {π : Type} (front back : List (Envelope π)) (aggregate : Aggregate) :
    eventsOf (front ++ back) aggregate = eventsOf front aggregate ++ eventsOf back aggregate :=
  List.filter_append front back

theorem mem_eventsOf {π : Type} {events : List (Envelope π)} {aggregate : Aggregate}
    {event : Envelope π} :
    event ∈ eventsOf events aggregate ↔ event ∈ events ∧ event.aggregate = aggregate := by
  simp [eventsOf]

/-- The versions of a list of rows count from one. -/
def Contiguous {π : Type} (events : List (Envelope π)) : Prop :=
  events.map Envelope.aggregateVersion = List.range' 1 events.length

structure Journal (π κ : Type) where
  events : List (Envelope π)
  commands : List (Command π κ)
  contiguous : ∀ aggregate, Contiguous (eventsOf events aggregate)
  distinct : (events.map Envelope.eventId).Nodup

namespace Journal

variable {π κ : Type}

/-- A new store. -/
def empty : Journal π κ where
  events := []
  commands := []
  contiguous _ := rfl
  distinct := List.nodup_nil

/-- `load_events`.  Versions are contiguous, so the order of the versions is
the order of the rows. -/
def loadEvents (journal : Journal π κ) (aggregate : Aggregate) : List (Envelope π) :=
  eventsOf journal.events aggregate

/-- `load_events_by_aggregate_type`, in append order. -/
def loadEventsByAggregateType (journal : Journal π κ) (aggregateType : String) :
    List (Envelope π) :=
  journal.events.filter fun event => event.aggregate.aggregateType = aggregateType

/-- `_aggregate_version_value`. -/
def aggregateVersion (journal : Journal π κ) (aggregate : Aggregate) : Nat :=
  (journal.loadEvents aggregate).length

/-- `current_journal_sequence`. -/
def currentJournalSequence (journal : Journal π κ) : Nat := journal.events.length

/-- `get_event`. -/
def getEvent (journal : Journal π κ) (eventId : String) : Option (Envelope π) :=
  journal.events.find? fun event => event.eventId = eventId

theorem getEvent_eq_none {journal : Journal π κ} {eventId : String} :
    journal.getEvent eventId = none ↔ ∀ event ∈ journal.events, event.eventId ≠ eventId := by
  simp [getEvent]

theorem mem_of_getEvent {journal : Journal π κ} {eventId : String} {event : Envelope π}
    (found : journal.getEvent eventId = some event) :
    event ∈ journal.events ∧ event.eventId = eventId :=
  ⟨List.mem_of_find?_eq_some found, by simpa using List.find?_some found⟩

/-- The insertion of one row at the next version of its aggregate. -/
def extend (journal : Journal π κ) (event : Envelope π)
    (next : event.aggregateVersion = journal.aggregateVersion event.aggregate + 1)
    (fresh : journal.getEvent event.eventId = none) : Journal π κ where
  events := journal.events ++ [event]
  commands := journal.commands
  contiguous aggregate := by
    have before := journal.contiguous aggregate
    rw [Contiguous] at before
    rw [Contiguous, eventsOf_append, List.map_append, before]
    by_cases same : event.aggregate = aggregate
    · subst same
      have single : eventsOf [event] event.aggregate = [event] := by simp [eventsOf]
      rw [single, List.length_append, List.range'_append_1.symm, List.map_singleton, next,
        Nat.add_comm _ 1]
      rfl
    · have skipped : eventsOf [event] aggregate = [] := by simp [eventsOf, same]
      simp [skipped]
  distinct := by
    rw [List.map_append, List.nodup_append]
    refine ⟨journal.distinct, List.nodup_singleton _, ?_⟩
    intro eventId member other otherMem
    obtain ⟨stored, storedMem, rfl⟩ := List.mem_map.mp member
    rw [List.map_singleton, List.mem_singleton] at otherMem
    rw [otherMem]
    exact getEvent_eq_none.mp fresh stored storedMem

/-- The error of a row that is not at the next version of its aggregate. -/
def versionError (expected : Nat) (aggregate : Aggregate) : ValueError :=
  ⟨s!"aggregate_version must be {expected} for {aggregate.aggregateType}/{aggregate.aggregateId}"⟩

/-- `append_event`. -/
def appendEvent [DecidableEq π] (journal : Journal π κ) (event : Envelope π)
    (expectedJournalSequence : Option Nat) :
    Except ValueError (Journal π κ × AppendResult) :=
  match fresh : journal.getEvent event.eventId with
  | some existing =>
      if existing = event then
        .ok (journal, ⟨event.eventId, event.aggregateVersion, false⟩)
      else .error ⟨"event_id conflicts with an existing event or publication intent"⟩
  | none =>
      if expectedJournalSequence.any fun expected => expected ≠ journal.currentJournalSequence then
        .error ⟨"journal sequence changed after whole-store validation"⟩
      else if next : event.aggregateVersion = journal.aggregateVersion event.aggregate + 1 then
        .ok (journal.extend event next fresh, ⟨event.eventId, event.aggregateVersion, true⟩)
      else .error (versionError (journal.aggregateVersion event.aggregate + 1) event.aggregate)

/-- The arguments of `commit_command`. -/
structure CommandArgs (π κ : Type) where
  commandId : String
  actor : String
  environment : String
  idempotencyKey : String
  request : κ
  result : κ
  stateVersion : Nat
  events : List (Envelope π)
  expectedJournalSequence : Option Nat

/-- The rows of a batch, each at the next version of its aggregate and with an
event id that no row has. -/
def insertBatch (journal : Journal π κ) : List (Envelope π) → Except ValueError (Journal π κ)
  | [] => .ok journal
  | event :: rest =>
      match fresh : journal.getEvent event.eventId with
      | some _ => .error ⟨"event_id already exists for another command"⟩
      | none =>
          if next : event.aggregateVersion = journal.aggregateVersion event.aggregate + 1 then
            (journal.extend event next fresh).insertBatch rest
          else
            .error (versionError (journal.aggregateVersion event.aggregate + 1) event.aggregate)

/-- The row of `command_dedupe` with a scoped idempotency key. -/
def findCommand (journal : Journal π κ) (args : CommandArgs π κ) : Option (Command π κ) :=
  journal.commands.find? fun command =>
    command.actor = args.actor ∧ command.environment = args.environment ∧
      command.idempotencyKey = args.idempotencyKey

/-- The row that `commit_command` inserts. -/
def commandRow (journal : Journal π κ) (args : CommandArgs π κ) : Command π κ where
  commandId := args.commandId
  actor := args.actor
  environment := args.environment
  idempotencyKey := args.idempotencyKey
  request := args.request
  result := args.result
  stateVersion := args.stateVersion
  batch := args.events
  firstSequence := journal.currentJournalSequence + 1

/-- The insertion of one command row. -/
def recordRow (journal : Journal π κ) (command : Command π κ) : Journal π κ :=
  { journal with commands := journal.commands ++ [command] }

/-- What `commit_command` returns: the result, whether the command was new, and
the inserted rows. -/
structure CommitResult (κ : Type) where
  result : κ
  inserted : Bool
  appended : List AppendResult

/-- `commit_command`. -/
def commitCommand [DecidableEq π] [DecidableEq κ] (journal : Journal π κ) (args : CommandArgs π κ) :
    Except ValueError (Journal π κ × CommitResult κ) :=
  if args.events = [] then .error ⟨"At least one event is required"⟩
  else if ¬ (args.events.map Envelope.eventId).Nodup then
    .error ⟨"event_id is duplicated within the transaction"⟩
  else
    match journal.findCommand args with
    | some existing =>
        if existing.request ≠ args.request then
          .error ⟨"idempotency_key was already used for a different request"⟩
        else if existing.batch ≠ args.events then
          .error ⟨"idempotency_key retry event batch differs from original effect"⟩
        else .ok (journal, ⟨existing.result, false, []⟩)
    | none =>
        if journal.commands.any fun command => command.commandId = args.commandId then
          .error ⟨"command_id already exists with another idempotency key"⟩
        else if args.expectedJournalSequence.any fun expected =>
            expected ≠ journal.currentJournalSequence then
          .error ⟨"journal sequence changed after financial evidence validation"⟩
        else
          (journal.insertBatch args.events).map fun next =>
            (next.recordRow (journal.commandRow args),
              ⟨args.result, true, args.events.map fun event =>
                ⟨event.eventId, event.aggregateVersion, true⟩⟩)

/-! ## Growth -/

/-- A later journal keeps the rows of an earlier one. -/
instance : Preorder (Journal π κ) where
  le earlier later := earlier.events <+: later.events ∧ earlier.commands <+: later.commands
  le_refl journal := ⟨List.prefix_rfl, List.prefix_rfl⟩
  le_trans _ _ _ first second := ⟨first.1.trans second.1, first.2.trans second.2⟩

theorem loadEvents_prefix {earlier later : Journal π κ} (growth : earlier ≤ later)
    (aggregate : Aggregate) :
    earlier.loadEvents aggregate <+: later.loadEvents aggregate :=
  growth.1.filter _

/-- A row's version is its position among the rows of its aggregate. -/
theorem version_eq {journal : Journal π κ} {aggregate : Aggregate}
    {before after : List (Envelope π)} {event : Envelope π}
    (split : journal.loadEvents aggregate = before ++ event :: after) :
    event.aggregateVersion = before.length + 1 := by
  have versions := journal.contiguous aggregate
  have rows : eventsOf journal.events aggregate = before ++ event :: after := split
  rw [Contiguous, rows] at versions
  have position := congrArg (fun versions => versions[before.length]?) versions
  simp only [List.map_append, List.map_cons, List.length_append, List.length_cons] at position
  rw [List.getElem?_append_right (by simp), List.getElem?_range' (by omega), List.length_map,
    Nat.sub_self, List.getElem?_cons_zero, Option.some.injEq] at position
  omega

theorem getLast_version {journal : Journal π κ} {aggregate : Aggregate} {event : Envelope π}
    (last : (journal.loadEvents aggregate).getLast? = some event) :
    event.aggregateVersion = (journal.loadEvents aggregate).length := by
  obtain ⟨before, split⟩ := List.getLast?_eq_some_iff.mp last
  rw [version_eq split, split]
  simp

theorem mem_loadEvents {journal : Journal π κ} {aggregate : Aggregate} {event : Envelope π} :
    event ∈ journal.loadEvents aggregate ↔
      event ∈ journal.events ∧ event.aggregate = aggregate :=
  mem_eventsOf

/-! ## What a transaction does -/

/-- An append that returns found an identical row or inserted the row at the
next version. -/
theorem appendEvent_cases [DecidableEq π] {journal next : Journal π κ} {event : Envelope π}
    {expected : Option Nat} {result : AppendResult}
    (success : journal.appendEvent event expected = .ok (next, result)) :
    (result.inserted = false ∧ next = journal ∧ event ∈ journal.events) ∨
      (result.inserted = true ∧ next.events = journal.events ++ [event] ∧
        next.commands = journal.commands) := by
  unfold appendEvent at success
  split at success
  · rename_i existing found
    split at success
    · rename_i same
      cases success
      subst same
      exact Or.inl ⟨rfl, rfl, (mem_of_getEvent found).1⟩
    · cases success
  · split at success
    · cases success
    · split at success
      · cases success
        exact Or.inr ⟨rfl, rfl, rfl⟩
      · cases success

/-- A batch that is inserted follows the rows that were there. -/
theorem insertBatch_events {journal next : Journal π κ} {batch : List (Envelope π)}
    (success : journal.insertBatch batch = .ok next) :
    next.events = journal.events ++ batch ∧ next.commands = journal.commands := by
  induction batch generalizing journal with
  | nil =>
      cases success
      simp
  | cons event rest ih =>
      rw [insertBatch] at success
      split at success
      · cases success
      · split at success
        · obtain ⟨events, commands⟩ := ih success
          rw [events, commands]
          simp [extend]
        · cases success

/-- A commit that returns found its own row or inserted the command with its
batch. -/
theorem commitCommand_cases [DecidableEq π] [DecidableEq κ] {journal next : Journal π κ}
    {args : CommandArgs π κ} {result : CommitResult κ}
    (success : journal.commitCommand args = .ok (next, result)) :
    (result.inserted = false ∧ next = journal ∧ ∃ command ∈ journal.commands,
        command.actor = args.actor ∧ command.environment = args.environment ∧
          command.idempotencyKey = args.idempotencyKey ∧ command.request = args.request ∧
          command.batch = args.events) ∨
      (result.inserted = true ∧ next.events = journal.events ++ args.events ∧
        next.commands = journal.commands ++ [journal.commandRow args] ∧
        journal.findCommand args = none) := by
  unfold commitCommand at success
  rw [guard_eq_ok, guard_eq_ok] at success
  obtain ⟨-, -, success⟩ := success
  split at success
  · rename_i existing found
    rw [guard_eq_ok, guard_eq_ok] at success
    obtain ⟨request, batch, success⟩ := success
    cases success
    refine Or.inl ⟨rfl, rfl, existing, List.mem_of_find?_eq_some found, ?_⟩
    have scope := List.find?_some found
    simp only [decide_eq_true_eq] at scope
    exact ⟨scope.1, scope.2.1, scope.2.2, not_not.mp request, not_not.mp batch⟩
  · rename_i absent
    rw [guard_eq_ok, guard_eq_ok] at success
    obtain ⟨-, -, success⟩ := success
    cases inserted : journal.insertBatch args.events with
    | error error =>
        rw [inserted] at success
        cases success
    | ok extended =>
        rw [inserted] at success
        cases success
        obtain ⟨events, commands⟩ := insertBatch_events inserted
        exact Or.inr ⟨rfl, events, by rw [← commands]; rfl, absent⟩

/-- A commit that inserts a command found the journal sequence it expected. -/
theorem commitCommand_sequence [DecidableEq π] [DecidableEq κ] {journal next : Journal π κ}
    {args : CommandArgs π κ} {result : CommitResult κ}
    (success : journal.commitCommand args = .ok (next, result))
    (inserted : result.inserted = true) :
    ∀ expected ∈ args.expectedJournalSequence, expected = journal.currentJournalSequence := by
  unfold commitCommand at success
  rw [guard_eq_ok, guard_eq_ok] at success
  obtain ⟨-, -, success⟩ := success
  split at success
  · rw [guard_eq_ok, guard_eq_ok] at success
    cases success.2.2
    cases inserted
  · rw [guard_eq_ok, guard_eq_ok] at success
    intro expected member
    by_contra other
    apply success.2.1
    rw [Option.mem_def] at member
    rw [member, Option.any_some]
    exact decide_eq_true other

/-! ## Batches of commands -/

/-- The batch of every command is in the journal. -/
def Recorded (journal : Journal π κ) : Prop :=
  ∀ command ∈ journal.commands, ∀ event ∈ command.batch, event ∈ journal.events

theorem recorded_empty : (empty : Journal π κ).Recorded := by
  intro command member
  cases member

theorem Recorded.appendEvent [DecidableEq π] {journal next : Journal π κ} {event : Envelope π}
    {expected : Option Nat} {result : AppendResult} (recorded : journal.Recorded)
    (success : journal.appendEvent event expected = .ok (next, result)) : next.Recorded := by
  rcases appendEvent_cases success with ⟨-, rfl, -⟩ | ⟨-, events, commands⟩
  · exact recorded
  · intro command member row inBatch
    rw [commands] at member
    rw [events]
    exact List.mem_append_left _ (recorded command member row inBatch)

theorem Recorded.commitCommand [DecidableEq π] [DecidableEq κ] {journal next : Journal π κ}
    {args : CommandArgs π κ} {result : CommitResult κ} (recorded : journal.Recorded)
    (success : journal.commitCommand args = .ok (next, result)) : next.Recorded := by
  rcases commitCommand_cases success with ⟨-, rfl, -⟩ | ⟨-, events, commands, -⟩
  · exact recorded
  · intro command member row inBatch
    rw [commands] at member
    rw [events]
    rcases List.mem_append.mp member with old | new
    · exact List.mem_append_left _ (recorded command old row inBatch)
    · rw [List.mem_singleton.mp new] at inBatch
      exact List.mem_append_right _ inBatch

end Journal

end AutoTrade.Store
