import AutoTrade.Dispatch.Dispatcher

/-!
# The submission protocol

What a journal transaction may do to the history of submission attempts, stated
without the program that does it.  `Moves` is a relation on the shared state;
its premises hold in the state the transaction finds.  `contract` says whether
provider wrappers keep the guard contract.
-/

namespace AutoTrade.Dispatch

open Lib Store

variable {π κ : Type}

/-- A later state keeps the rows and the trace of an earlier one. -/
instance : Preorder (World π κ) where
  le earlier later := earlier.journal ≤ later.journal ∧ earlier.trace <+: later.trace
  le_refl world := ⟨le_rfl, List.prefix_rfl⟩
  le_trans _ _ _ first second := ⟨first.1.trans second.1, first.2.trans second.2⟩

/-- The rows of an aggregate. -/
def World.history (world : World π κ) (aggregate : Aggregate) : List (Envelope π) :=
  world.journal.loadEvents aggregate

/-- The state after a transaction that added rows and entries of the trace. -/
structure Extends (world next : World π κ) (added : List (Envelope π)) (marks : List Mark) :
    Prop where
  events : next.journal.events = world.journal.events ++ added
  commands : world.journal.commands <+: next.journal.commands
  trace : next.trace = world.trace ++ marks

/-- The aggregate type of submission attempts. -/
def IsAttempt (aggregate : Aggregate) : Prop := aggregate.aggregateType = "submission_attempt"

/-- An aggregate that no dispatcher writes. -/
def Apart (aggregate : Aggregate) : Prop :=
  aggregate.aggregateType ≠ "submission_attempt" ∧
    aggregate.aggregateType ≠ "submission_intent"

/-- The event type of the last row of an aggregate. -/
def World.lastType [Carries SubmissionEvent π] (world : World π κ) (aggregate : Aggregate) :
    Option EventType :=
  (world.history aggregate).getLast?.bind eventType?

/-- The attempt has a `SubmissionBlocked` row. -/
def WasBlocked [Carries SubmissionEvent π] (world : World π κ) (aggregate : Aggregate) : Prop :=
  ∃ event ∈ world.history aggregate, eventType? event = some .submissionBlocked

/-- One transaction of the protocol. -/
inductive Moves [Carries SubmissionEvent π] [Fingerprint] [CaseMap] (contract : Prop)
    (world next : World π κ) : Prop where
  /-- Rows of other aggregates. -/
  | foreign {added : List (Envelope π)} (grown : Extends world next added [])
      (apart : ∀ event ∈ added, Apart event.aggregate)
  | start {call : Nat} {attempt intent : Aggregate}
      (grown : Extends world next [] [.started call attempt intent])
      (fresh : ∀ attempt intent, .started call attempt intent ∉ world.trace)
  | absent {call : Nat} {aggregate : Aggregate}
      (grown : Extends world next [] [.absent call aggregate])
      (empty : world.history aggregate = [])
  | prepare {event : Envelope π} {payload : PreparedPayload}
      (grown : Extends world next [event] []) (attempt : IsAttempt event.aggregate)
      (kind : submission? event = some (.prepared payload))
      (first : world.history event.aggregate = [])
  | block {event : Envelope π} (grown : Extends world next [event] [])
      (attempt : IsAttempt event.aggregate)
      (kind : eventType? event = some .submissionBlocked)
      (last : world.lastType event.aggregate = some .submissionPrepared)
  /-- The send barrier: the send and the binding of its intent. -/
  | send {call : Nat} {event binding first : Envelope π} {payload : PreparedPayload}
      (grown : Extends world next [event, binding]
        [.barrierPassed call event.aggregate binding.aggregate])
      (attempt : IsAttempt event.aggregate)
      (kind : eventType? event = some .submissionSending)
      (bound : eventType? binding = some .submissionIntentBound)
      (prepared : world.history event.aggregate = [first])
      (carried : submission? first = some (.prepared payload))
      (intent : binding.aggregate = payload.intent.aggregate)
      (unbound : world.history binding.aggregate = [])
  | resolve {event : Envelope π} (grown : Extends world next [event] [])
      (attempt : IsAttempt event.aggregate)
      (kind : eventType? event = some .submissionSent ∨
        eventType? event = some .submissionUnknown)
      (last : world.lastType event.aggregate = some .submissionSending)
  /-- `SubmissionUnknown` for an attempt whose guard was not passed.  Under the
  contract this follows `SubmissionPrepared`, unless a rejection was lost. -/
  | expose {event : Envelope π} (grown : Extends world next [event] [])
      (attempt : IsAttempt event.aggregate)
      (kind : eventType? event = some .submissionUnknown)
      (nonempty : world.history event.aggregate ≠ [])
      (excused : world.lastType event.aggregate = some .submissionPrepared ∨
        (contract → ∃ call, .lostRejection call event.aggregate ∈ world.trace))
  | outbound {call : Nat} {attempt : Aggregate}
      (grown : Extends world next [] [.outbound call attempt])
      (passed : contract → ∃ intent, .barrierPassed call attempt intent ∈ world.trace)
  | lose {call : Nat} {attempt : Aggregate}
      (grown : Extends world next [] [.lostRejection call attempt])
  /-- A call reports `BLOCKED` only if its attempt was blocked or if it found
  neither its attempt nor its intent. -/
  | report {call : Nat} {attempt intent : Aggregate} {status : DispatchStatus}
      (grown : Extends world next [] [.reported call status])
      (started : .started call attempt intent ∈ world.trace)
      (blocked : status = .blocked →
        (.absent call attempt ∈ world.trace ∧ .absent call intent ∈ world.trace) ∨
          WasBlocked world attempt)

/-! ## Histories of extended states -/

namespace Extends

variable {world next : World π κ} {added : List (Envelope π)} {marks : List Mark}

theorem le (grown : Extends world next added marks) : world ≤ next :=
  ⟨⟨⟨added, grown.events.symm⟩, grown.commands⟩, ⟨marks, grown.trace.symm⟩⟩

/-- A transaction adds its rows at the end of their aggregates. -/
theorem history (grown : Extends world next added marks) (aggregate : Aggregate) :
    next.history aggregate = world.history aggregate ++ eventsOf added aggregate := by
  rw [World.history, Journal.loadEvents, grown.events, eventsOf_append]
  rfl

theorem refl (world : World π κ) : Extends world world [] [] where
  events := (List.append_nil _).symm
  commands := List.prefix_rfl
  trace := (List.append_nil _).symm

theorem mem_trace (grown : Extends world next added marks) {entry : Mark}
    (member : entry ∈ next.trace) : entry ∈ world.trace ∨ entry ∈ marks := by
  rw [grown.trace] at member
  exact List.mem_append.mp member

end Extends

/-- Appending one row changes the history of its aggregate only. -/
theorem Extends.history_single {world next : World π κ} {event : Envelope π}
    {marks : List Mark} (grown : Extends world next [event] marks) (aggregate : Aggregate) :
    next.history aggregate =
      if event.aggregate = aggregate then world.history aggregate ++ [event]
      else world.history aggregate := by
  rw [grown.history]
  split
  · rename_i same
    simp [eventsOf, same]
  · rename_i different
    simp [eventsOf, different]

section Order

variable {known world later : World π κ}

theorem history_grows (growth : world ≤ later) (aggregate : Aggregate) :
    world.history aggregate <+: later.history aggregate :=
  Journal.loadEvents_prefix growth.1 aggregate

theorem history_ne_nil_of_le (growth : world ≤ later) {aggregate : Aggregate}
    (nonempty : world.history aggregate ≠ []) : later.history aggregate ≠ [] := by
  intro empty
  have initial := history_grows growth aggregate
  rw [empty] at initial
  exact nonempty (List.prefix_nil.mp initial)

theorem mem_history {aggregate : Aggregate} {event : Envelope π} :
    event ∈ world.history aggregate ↔
      event ∈ world.journal.events ∧ event.aggregate = aggregate :=
  Journal.mem_loadEvents

theorem mem_trace_of_le (growth : world ≤ later) {entry : Mark} (member : entry ∈ world.trace) :
    entry ∈ later.trace :=
  growth.2.subset member

theorem mem_events_of_le (growth : world ≤ later) {event : Envelope π}
    (member : event ∈ world.journal.events) : event ∈ later.journal.events :=
  growth.1.1.subset member

/-- A row stands in the history of its aggregate at its version. -/
theorem history_split {event : Envelope π} (member : event ∈ world.journal.events) :
    ∃ before after, world.history event.aggregate = before ++ event :: after ∧
      event.aggregateVersion = before.length + 1 := by
  obtain ⟨before, after, split⟩ :=
    List.append_of_mem (mem_history.mpr ⟨member, rfl⟩)
  exact ⟨before, after, split, Journal.version_eq split⟩

/-- The first version of an aggregate is the first row. -/
theorem history_first {event : Envelope π} (member : event ∈ world.journal.events)
    (version : event.aggregateVersion = 1) :
    ∃ after, world.history event.aggregate = event :: after := by
  obtain ⟨before, after, split, position⟩ := history_split member
  have front : before = [] := List.length_eq_zero_iff.mp (by omega)
  rw [front] at split
  exact ⟨after, split⟩

/-- The row at the last version of an aggregate is its last row. -/
theorem history_last {event : Envelope π} (member : event ∈ world.journal.events)
    (length : (world.history event.aggregate).length = event.aggregateVersion) :
    (world.history event.aggregate).getLast? = some event := by
  obtain ⟨before, after, split, position⟩ := history_split member
  rw [split, List.length_append, List.length_cons, position] at length
  have back : after = [] := List.length_eq_zero_iff.mp (by omega)
  rw [split, back]
  simp

/-- An aggregate whose length did not change has the rows it had. -/
theorem history_eq (growth : world ≤ later) {aggregate : Aggregate}
    (length : (later.history aggregate).length ≤ (world.history aggregate).length) :
    later.history aggregate = world.history aggregate :=
  ((history_grows growth aggregate).eq_of_length_le length).symm

/-- A list of rows that was read from an aggregate. -/
def Seen (known : World π κ) (aggregate : Aggregate) (world : World π κ)
    (events : List (Envelope π)) : Prop :=
  ∃ seen, known ≤ seen ∧ seen ≤ world ∧ events = seen.history aggregate

theorem Seen.grow {aggregate : Aggregate} {events : List (Envelope π)}
    (seen : Seen known aggregate world events) (growth : world ≤ later) :
    Seen known aggregate later events := by
  obtain ⟨moment, after, before, read⟩ := seen
  exact ⟨moment, after, before.trans growth, read⟩

/-- An append at the version that follows a read finds the rows that were
read. -/
theorem Seen.unchanged {aggregate : Aggregate} {events : List (Envelope π)}
    (seen : Seen known aggregate world events)
    (length : (world.history aggregate).length = events.length) :
    world.history aggregate = events := by
  obtain ⟨moment, -, before, rfl⟩ := seen
  exact history_eq before (by omega)

/-- The last row that was read has the version of the read. -/
theorem Seen.last_version {aggregate : Aggregate} {events : List (Envelope π)}
    (seen : Seen known aggregate world events)
    {last : Envelope π} (found : events.getLast? = some last) :
    last.aggregateVersion = events.length := by
  obtain ⟨moment, -, -, rfl⟩ := seen
  exact Journal.getLast_version found

theorem WasBlocked.grow [Carries SubmissionEvent π] {aggregate : Aggregate}
    (blocked : WasBlocked world aggregate) (growth : world ≤ later) :
    WasBlocked later aggregate := by
  obtain ⟨event, member, kind⟩ := blocked
  exact ⟨event, (history_grows growth aggregate).subset member, kind⟩

end Order

/-! ## Rows of a dispatcher -/

section Events

variable [Carries SubmissionEvent π] [Fingerprint] (dispatcher : GuardedDispatcher)
  (attemptId : String) (version : Nat) (payload : SubmissionPayload) (now : Instant)

@[simp] theorem submission?_envelope (aggregate : Aggregate) (topic : String) :
    submission? (π := π) (dispatcher.envelope aggregate attemptId version payload now topic) =
      some payload := by
  simp [submission?, GuardedDispatcher.envelope]

@[simp] theorem submission?_attemptEvent :
    submission? (π := π) (dispatcher.attemptEvent attemptId version payload now) =
      some payload :=
  submission?_envelope ..

@[simp] theorem eventType?_attemptEvent :
    eventType? (π := π) (dispatcher.attemptEvent attemptId version payload now) =
      some payload.eventType := by
  simp [eventType?]

@[simp] theorem attemptEvent_aggregate :
    (dispatcher.attemptEvent attemptId version payload now : Envelope π).aggregate =
      dispatcher.aggregate attemptId := rfl

theorem isAttempt_aggregate : IsAttempt (dispatcher.aggregate attemptId) := rfl

end Events

variable [Carries SubmissionEvent π] [Fingerprint] [CaseMap] {contract : Prop}
  {world next : World π κ}

theorem Moves.idle : Moves contract world world :=
  .foreign (Extends.refl world) fun _ member => absurd member List.not_mem_nil

theorem Moves.grows (moves : Moves contract world next) : world ≤ next := by
  cases moves with
  | foreign grown _ => exact grown.le
  | start grown _ => exact grown.le
  | absent grown _ => exact grown.le
  | prepare grown _ _ _ => exact grown.le
  | block grown _ _ _ => exact grown.le
  | send grown _ _ _ _ _ _ _ => exact grown.le
  | resolve grown _ _ _ => exact grown.le
  | expose grown _ _ _ _ => exact grown.le
  | outbound grown _ => exact grown.le
  | lose grown => exact grown.le
  | report grown _ _ => exact grown.le

theorem grows_of_moves {later : World π κ}
    (path : Relation.ReflTransGen (Moves contract) world later) : world ≤ later := by
  induction path with
  | refl => exact le_rfl
  | tail _ last ih => exact ih.trans last.grows

end AutoTrade.Dispatch
