import AutoTrade.Dispatch.Protocol

/-!
# Computations that follow the protocol

`Keeps` says that every transaction of a computation is a move of the protocol,
whatever other calls and writers do between its transactions, and describes its
result.  The rules compose computations; the lemmas below them are about the
journal transactions and about recovery.
-/

set_option linter.unusedSectionVars false

namespace AutoTrade.Dispatch

open Lib Store

variable {π κ : Type} [Carries SubmissionEvent π] [Fingerprint] [CaseMap] {contract : Prop}
  {known : World π κ} {α β : Type}

/-- A computation that only makes moves of the protocol. -/
def Keeps (contract : Prop) (post : World π κ → Except DispatchError α → Prop)
    (computation : Dispatching π κ α) (known : World π κ) : Prop :=
  Program.Meets (Moves contract) post computation.run known

/-- A postcondition on returned values only. -/
def Returning (post : World π κ → α → Prop) (world : World π κ) :
    Except DispatchError α → Prop
  | .ok value => post world value
  | .error _ => True

/-- A postcondition of a computation that returns. -/
def Returns (post : World π κ → α → Prop) (world : World π κ) :
    Except DispatchError α → Prop
  | .ok value => post world value
  | .error _ => False

section Rules

variable {post : World π κ → Except DispatchError α → Prop}

theorem keeps_pure {value : α} (holds : ∀ world, known ≤ world → post world (.ok value)) :
    Keeps contract post (pure value) known :=
  Program.meets_done holds

theorem keeps_throw {error : DispatchError}
    (holds : ∀ world, known ≤ world → post world (.error error)) :
    Keeps contract post (throw error) known :=
  Program.meets_done holds

theorem keeps_ofExcept {result : Except DispatchError α}
    (holds : ∀ world, known ≤ world → post world result) :
    Keeps contract post (ofExcept result) known :=
  Program.meets_done holds

theorem keeps_bind {computation : Dispatching π κ α} {following : α → Dispatching π κ β}
    {final : World π κ → Except DispatchError β → Prop}
    (first : Keeps contract post computation known)
    (returned : ∀ world value, known ≤ world → post world (.ok value) →
      Keeps contract final (following value) world)
    (raised : ∀ world error, known ≤ world → post world (.error error) →
      ∀ later, world ≤ later → final later (.error error)) :
    Keeps contract final (computation >>= following) known :=
  Program.Meets.andThen Moves.grows first returned raised

/-- Sequential composition where nothing is said about exceptions. -/
theorem keeps_bind_returning {computation : Dispatching π κ α}
    {following : α → Dispatching π κ β} {final : World π κ → β → Prop}
    (first : Keeps contract post computation known)
    (returned : ∀ world value, known ≤ world → post world (.ok value) →
      Keeps contract (Returning final) (following value) world) :
    Keeps contract (Returning final) (computation >>= following) known :=
  keeps_bind first returned fun _ _ _ _ _ _ => trivial

theorem Keeps.weaken {weaker : World π κ → Except DispatchError α → Prop}
    {computation : Dispatching π κ α} (keeps : Keeps contract post computation known)
    (implied : ∀ world result, post world result → weaker world result) :
    Keeps contract weaker computation known :=
  Program.Meets.weaken implied keeps

theorem Keeps.after {computation : Dispatching π κ α}
    (keeps : Keeps contract post computation known) :
    Keeps contract (fun world result => known ≤ world ∧ post world result) computation known :=
  Program.Meets.after Moves.grows le_rfl keeps

theorem keeps_observe {computation : Dispatching π κ α}
    (keeps : Keeps contract post computation known) :
    Keeps contract (Returns post) (observe computation) known :=
  Program.Meets.map keeps fun _ _ holds => holds

theorem keeps_readJournal {view : Journal π κ → α}
    (holds : ∀ seen, known ≤ seen → ∀ world, seen ≤ world → post world (.ok (view seen.journal))) :
    Keeps contract post (readJournal view) known := by
  have reads : Program.Meets (Moves contract) (fun world value => post world (.ok value))
      (Program.read fun world => view world.journal) known :=
    Program.meets_read (fun _ => Moves.idle) holds
  exact reads.map fun _ _ post => post

end Rules

/-! ## Journal transactions -/

theorem Moves.still {world next : World π κ} (grown : Extends world next [] []) :
    Moves contract world next :=
  .foreign grown fun _ member => absurd member List.not_mem_nil

/-- The result of an append: the row is durable, or a `ValueError` was raised. -/
def Appended (event : Envelope π) (rejected : List Mark) (world : World π κ) :
    Except DispatchError AppendResult → Prop
  | .ok _ => event ∈ world.journal.events
  | .error error => (∃ message, error = .valueError message) ∧ rejected ⊆ world.trace

theorem keeps_appendEvent [DecidableEq π] {event : Envelope π} {rejected : List Mark}
    (inserted : ∀ world next, known ≤ world → Extends world next [event] [] →
      event.aggregateVersion = (world.history event.aggregate).length + 1 →
      Moves contract world next)
    (lost : ∀ world next, known ≤ world → Extends world next [] rejected →
      Moves contract world next) :
    Keeps contract (Appended event rejected) (appendEvent event rejected) known := by
  apply Program.meets_atomic
  intro world growth
  unfold appendTransaction
  cases appended : world.journal.appendEvent event none with
  | error error =>
      have grown : Extends world { world with trace := world.trace ++ rejected } [] rejected :=
        ⟨(List.append_nil _).symm, List.prefix_rfl, rfl⟩
      refine ⟨lost _ _ growth grown, ?_⟩
      intro later further
      refine ⟨⟨error.message, rfl⟩, ?_⟩
      intro entry member
      exact mem_trace_of_le further (List.mem_append_right _ member)
  | ok outcome =>
      obtain ⟨journal, result⟩ := outcome
      rcases Journal.appendEvent_cases appended with ⟨-, rfl, stored⟩ | ⟨-, events, commands⟩
      · refine ⟨Moves.idle, ?_⟩
        intro later further
        exact mem_events_of_le further stored
      · have grown : Extends world { world with journal := journal } [event] [] :=
          ⟨events, commands ▸ List.prefix_rfl, (List.append_nil _).symm⟩
        have appendedLast := grown.history_single event.aggregate
        rw [if_pos rfl] at appendedLast
        refine ⟨inserted _ _ growth grown (Journal.version_eq appendedLast), ?_⟩
        intro later further
        apply mem_events_of_le further
        change event ∈ journal.events
        rw [events]
        exact List.mem_append_right _ (List.mem_singleton_self event)

/-- The result of the send barrier: its rows are durable, or it raised. -/
def Committed (events : List (Envelope π)) (passed : Mark) (world : World π κ) :
    Except DispatchError Unit → Prop
  | .ok () => passed ∈ world.trace ∧ ∀ event ∈ events, event ∈ world.journal.events
  | .error error =>
      (∃ message, error = .valueError message) ∨ ∃ reason, error = .dispatchBlocked reason

theorem keeps_commitCommand [DecidableEq π] [DecidableEq κ] {args : Journal.CommandArgs π κ}
    {passed : Mark}
    (passes : ∀ world next, known ≤ world → Extends world next args.events [passed] →
      Moves contract world next) :
    Keeps contract (Committed args.events passed) (commitCommand args passed) known := by
  apply Program.meets_atomic
  intro world growth
  unfold commitTransaction
  cases committed : world.journal.commitCommand args with
  | error error => exact ⟨Moves.idle, fun later further => Or.inl ⟨error.message, rfl⟩⟩
  | ok outcome =>
      obtain ⟨journal, result⟩ := outcome
      rcases Journal.commitCommand_cases committed with
        ⟨repeated, rfl, -⟩ | ⟨fresh, events, commands, -⟩
      · simp only [repeated, Bool.false_eq_true, if_false]
        exact ⟨Moves.idle, fun later further => Or.inr ⟨_, rfl⟩⟩
      · simp only [fresh, if_true]
        have grown : Extends world ⟨journal, world.trace ++ [passed]⟩ args.events [passed] :=
          ⟨events, commands ▸ List.prefix_append _ _, rfl⟩
        refine ⟨passes _ _ growth grown, ?_⟩
        intro later further
        refine ⟨mem_trace_of_le further (List.mem_append_right _ (List.mem_singleton_self _)), ?_⟩
        intro event member
        apply mem_events_of_le further
        change event ∈ journal.events
        rw [events]
        exact List.mem_append_right _ member

theorem keeps_mark {entry : Mark}
    (moves : ∀ world next, known ≤ world → Extends world next [] [entry] →
      Moves contract world next) :
    Keeps contract (Returns fun world _ => entry ∈ world.trace) (mark entry) known := by
  refine Program.Meets.map (Program.meets_atomic ?_) fun world _ marked => marked
  intro world growth
  have grown : Extends world { world with trace := world.trace ++ [entry] } [] [entry] :=
    ⟨(List.append_nil _).symm, List.prefix_rfl, rfl⟩
  refine ⟨moves _ _ growth grown, ?_⟩
  intro later further
  exact mem_trace_of_le further (List.mem_append_right _ (List.mem_singleton_self _))

theorem keeps_events (dispatcher : GuardedDispatcher) (attemptId : String) :
    Keeps contract (Returns (Seen known (dispatcher.aggregate attemptId)))
      (dispatcher.events attemptId) known :=
  keeps_readJournal fun seen growth _ further => ⟨seen, growth, further, rfl⟩

theorem keeps_loadFor [DecidableEq π] (call : Nat) (aggregate : Aggregate) :
    Keeps contract (Returns fun world events => Seen known aggregate world events ∧
      (events = [] → .absent call aggregate ∈ world.trace))
      (loadFor call aggregate) known := by
  refine Program.Meets.map (Program.meets_atomic ?_) fun world _ loaded => loaded
  intro world growth
  by_cases empty : world.journal.loadEvents aggregate = []
  · have grown : Extends world { world with trace := world.trace ++ [.absent call aggregate] }
        [] [.absent call aggregate] := ⟨(List.append_nil _).symm, List.prefix_rfl, rfl⟩
    simp only [empty, if_true]
    refine ⟨Moves.absent grown empty, ?_⟩
    intro later further
    refine ⟨⟨world, growth, grown.le.trans further, empty.symm⟩, ?_⟩
    intro _
    exact mem_trace_of_le further (List.mem_append_right _ (List.mem_singleton_self _))
  · simp only [empty, if_false, List.append_nil]
    refine ⟨Moves.idle, ?_⟩
    intro later further
    exact ⟨⟨world, growth, further, rfl⟩, fun none => absurd none empty⟩

/-! ## Recovery -/

/-- A recovery reports `BLOCKED` only for a blocked attempt. -/
def Recovered (aggregate : Aggregate) (world : World π κ) (outcome : DispatchOutcome) : Prop :=
  outcome.status = .blocked → WasBlocked world aggregate

section Recovery

variable [ResponseDecoder]

theorem exactOutcome_not_blocked (response : ExactResponse) (clientOrderId : String) :
    (exactOutcome response clientOrderId).status ≠ .blocked := by
  unfold exactOutcome
  repeat' split
  all_goals simp

/-- A terminal outcome is `BLOCKED` only for a blocked row. -/
theorem blocked_of_outcomeFromTerminal? {payload : Option SubmissionPayload}
    {clientOrderId : String} {outcome : DispatchOutcome}
    (terminal : outcomeFromTerminal? payload clientOrderId = some outcome)
    (blocked : outcome.status = .blocked) :
    payload.map SubmissionPayload.eventType = some .submissionBlocked := by
  unfold outcomeFromTerminal? at terminal
  split at terminal <;> cases terminal
  · exact absurd blocked (exactOutcome_not_blocked _ _)
  · cases blocked
  · rfl
  · cases blocked

/-- The outcome of the last row of a read. -/
theorem Seen.recovered {aggregate : Aggregate} {world : World π κ} {events : List (Envelope π)}
    (seen : Seen known aggregate world events) {last : Envelope π}
    (found : events.getLast? = some last) {clientOrderId : String} {outcome : DispatchOutcome}
    (terminal : outcomeFromTerminal? (submission? last) clientOrderId = some outcome) :
    Recovered aggregate world outcome := by
  intro blocked
  obtain ⟨moment, -, before, rfl⟩ := seen
  refine ⟨last, (history_grows before aggregate).subset (List.mem_of_getLast? found), ?_⟩
  exact blocked_of_outcomeFromTerminal? terminal blocked

theorem keeps_outcomeOfLast {aggregate : Aggregate} {events : List (Envelope π)}
    {earlier : World π κ} (seen : Seen earlier aggregate known events) (clientOrderId : String) :
    Keeps contract (Returning (Recovered aggregate))
      (outcomeOfLast events clientOrderId : Dispatching π κ DispatchOutcome) known := by
  unfold outcomeOfLast
  split
  · exact keeps_throw fun _ _ => trivial
  · rename_i last found
    split
    · exact keeps_throw fun _ _ => trivial
    · rename_i outcome terminal
      exact keeps_pure fun world growth => (seen.grow growth).recovered found terminal

/-- The outcome of a last row that is not blocked is not `BLOCKED`. -/
theorem keeps_outcomeOfLast_open {events : List (Envelope π)} {last : Envelope π}
    (found : events.getLast? = some last) {clientOrderId : String}
    (unblocked : (submission? last).map SubmissionPayload.eventType ≠ some .submissionBlocked) :
    Keeps contract (Returning fun _ outcome => outcome.status ≠ .blocked)
      (outcomeOfLast events clientOrderId : Dispatching π κ DispatchOutcome) known := by
  unfold outcomeOfLast
  rw [found]
  simp only
  split
  · exact keeps_throw fun _ _ => trivial
  · rename_i outcome terminal
    exact keeps_pure fun _ _ blocked =>
      unblocked (blocked_of_outcomeFromTerminal? terminal blocked)

variable [DecidableEq π]

theorem keeps_converge {dispatcher : GuardedDispatcher} {attemptId clientOrderId : String}
    {version : Nat} {payload : SubmissionPayload} {now : Instant}
    {sending : DispatchError → Dispatching π κ DispatchOutcome}
    (inserted : ∀ world next, known ≤ world →
      Extends world next [dispatcher.attemptEvent attemptId version payload now] [] →
      version = (world.history (dispatcher.aggregate attemptId)).length + 1 →
      Moves contract world next)
    (continued : ∀ error world, known ≤ world →
      Keeps contract (Returning (Recovered (dispatcher.aggregate attemptId)))
        (sending error) world) :
    Keeps contract (Returning (Recovered (dispatcher.aggregate attemptId)))
      (dispatcher.converge attemptId clientOrderId version payload now sending) known := by
  unfold GuardedDispatcher.converge
  refine keeps_bind_returning (keeps_observe (keeps_appendEvent inserted fun _ _ _ => Moves.still))
    ?_
  intro world appended growth _
  refine keeps_bind_returning (keeps_events dispatcher attemptId) ?_
  intro current events further seen
  cases appended with
  | ok _ => exact keeps_outcomeOfLast seen clientOrderId
  | error error =>
      cases found : events.getLast? with
      | none => exact keeps_throw fun _ _ => trivial
      | some last =>
          simp only
          split
          · rename_i outcome terminal
            exact keeps_pure fun later beyond => (seen.grow beyond).recovered found terminal
          · exact continued error current (growth.trans further)
          · exact keeps_throw fun _ _ => trivial

theorem keeps_recoverExisting {dispatcher : GuardedDispatcher}
    {attemptId clientOrderId : String} {now : Instant} (depth : Nat) :
    Keeps contract (Returning (Recovered (dispatcher.aggregate attemptId)))
      (dispatcher.recoverExisting attemptId clientOrderId now depth) known := by
  induction depth generalizing known with
  | zero => exact keeps_throw fun _ _ => trivial
  | succ depth ih =>
      refine keeps_bind_returning (keeps_events dispatcher attemptId) ?_
      intro world events growth seen
      cases found : events.getLast? with
      | none => exact keeps_throw fun _ _ => trivial
      | some last =>
          -- an append after the last row that was read finds that row last
          have unmoved : ∀ later, world ≤ later →
              last.aggregateVersion + 1 =
                (later.history (dispatcher.aggregate attemptId)).length + 1 →
              later.lastType (dispatcher.aggregate attemptId) = eventType? last := by
            intro later further version
            have same := (seen.grow further).unchanged
              (by rw [← seen.last_version found]; omega)
            rw [World.lastType, same, found]
            rfl
          simp only
          split
          · rename_i outcome terminal
            exact keeps_pure fun later further => (seen.grow further).recovered found terminal
          · rename_i kind
            apply keeps_converge
            · intro later next further grown version
              refine Moves.resolve grown (isAttempt_aggregate ..) (Or.inr (by simp; rfl)) ?_
              rw [attemptEvent_aggregate, unmoved later further version, eventType?, kind]
              rfl
            · intro error later _
              exact keeps_throw fun _ _ => trivial
          · rename_i payload kind
            split
            · exact keeps_pure fun _ _ blocked => by cases blocked
            · exact keeps_pure fun _ _ blocked => by cases blocked
            · apply keeps_converge
              · intro later next further grown version
                refine Moves.block grown (isAttempt_aggregate ..) (by simp; rfl) ?_
                rw [attemptEvent_aggregate, unmoved later further version, eventType?, kind]
                rfl
              · intro error later _
                exact ih
          · exact keeps_throw fun _ _ => trivial

end Recovery

end AutoTrade.Dispatch
