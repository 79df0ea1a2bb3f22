import AutoTrade.Dispatch.Keeps

/-!
# Dispatch follows the protocol

Every transaction of a `dispatch` call is a move of the protocol.  Each function
of the dispatcher has one lemma that says so; `Reaches.moves` lifts them to every
interleaving of any number of calls.
-/

set_option linter.unusedSectionVars false

namespace AutoTrade.Dispatch

open Lib Store

variable {π κ : Type} [Carries SubmissionEvent π] [Fingerprint] [CaseMap] {contract : Prop}
  {known : World π κ} {α β : Type}

/-! ## The final guard -/

section Guard

variable [DecidableEq π] [DecidableEq κ] [Carries (SendCommand π) κ]
  {dispatcher : GuardedDispatcher} {call : Nat} {args : DispatchArgs} {clientOrderId : String}

/-- The call's own `SubmissionPrepared` row is durable. -/
def Prepared (dispatcher : GuardedDispatcher) (args : DispatchArgs) (clientOrderId : String)
    (world : World π κ) : Prop :=
  dispatcher.preparedEvent args clientOrderId ∈ world.journal.events

/-- The call's send barrier has committed. -/
structure Passed (dispatcher : GuardedDispatcher) (call : Nat) (args : DispatchArgs)
    (clientOrderId : String) (world : World π κ) : Prop where
  trace : .barrierPassed call (dispatcher.aggregate args.attemptId)
    (dispatcher.intent args).aggregate ∈ world.trace
  sending : dispatcher.sendingEvent args clientOrderId ∈ world.journal.events

theorem Prepared.grow {world later : World π κ}
    (prepared : Prepared dispatcher args clientOrderId world) (growth : world ≤ later) :
    Prepared dispatcher args clientOrderId later :=
  mem_events_of_le growth prepared

theorem Passed.grow {world later : World π κ}
    (passed : Passed dispatcher call args clientOrderId world) (growth : world ≤ later) :
    Passed dispatcher call args clientOrderId later :=
  ⟨mem_trace_of_le growth passed.trace, mem_events_of_le growth passed.sending⟩

/-- Before version two of a prepared attempt the row of the call is the only
one. -/
theorem Prepared.history {world : World π κ}
    (prepared : Prepared dispatcher args clientOrderId world)
    (version : 2 = (world.history (dispatcher.aggregate args.attemptId)).length + 1) :
    world.history (dispatcher.aggregate args.attemptId) =
      [dispatcher.preparedEvent args clientOrderId] := by
  obtain ⟨after, split⟩ := history_first prepared rfl
  change world.history (dispatcher.aggregate args.attemptId) = _ at split
  rw [split, List.length_cons] at version
  rw [split, List.length_eq_zero_iff.mp (show after.length = 0 by omega)]

theorem Prepared.lastType {world : World π κ}
    (prepared : Prepared dispatcher args clientOrderId world)
    (version : 2 = (world.history (dispatcher.aggregate args.attemptId)).length + 1) :
    world.lastType (dispatcher.aggregate args.attemptId) = some .submissionPrepared := by
  rw [World.lastType, prepared.history version]
  exact eventType?_attemptEvent ..

/-- Before version three of a sent attempt its send is the last row. -/
theorem Passed.lastType {world : World π κ}
    (passed : Passed dispatcher call args clientOrderId world)
    (version : 3 = (world.history (dispatcher.aggregate args.attemptId)).length + 1) :
    world.lastType (dispatcher.aggregate args.attemptId) = some .submissionSending := by
  have last := history_last passed.sending (by
    change (world.history (dispatcher.aggregate args.attemptId)).length = 2
    omega)
  change (world.history (dispatcher.aggregate args.attemptId)).getLast? = _ at last
  rw [World.lastType, last]
  exact eventType?_attemptEvent ..

/-- An append of `SubmissionBlocked` at version two. -/
theorem Prepared.block {world next : World π κ}
    (prepared : Prepared dispatcher args clientOrderId world) {reason : String}
    {owner : Option (String × Nat)} {now : Instant}
    (grown : Extends world next
      [dispatcher.attemptEvent args.attemptId 2 (.blocked clientOrderId reason owner) now] [])
    (version : 2 = (world.history (dispatcher.aggregate args.attemptId)).length + 1) :
    Moves contract world next :=
  .block grown (isAttempt_aggregate ..) (eventType?_attemptEvent ..) (prepared.lastType version)

/-- How a guard fails: with `DispatchBlocked`, or because a rejection was lost. -/
def GuardFailure (dispatcher : GuardedDispatcher) (call : Nat) (args : DispatchArgs)
    (world : World π κ) (error : DispatchError) : Prop :=
  (∃ reason, error = .dispatchBlocked reason) ∨ dispatcher.lostMark call args ∈ world.trace

/-- The result of a step of the guard. -/
def Guarding (dispatcher : GuardedDispatcher) (call : Nat) (args : DispatchArgs)
    (returned : World π κ → Prop) (world : World π κ) : Except DispatchError Unit → Prop
  | .ok () => returned world
  | .error error => GuardFailure dispatcher call args world error

theorem GuardFailure.grow {world later : World π κ} {error : DispatchError}
    (failure : GuardFailure dispatcher call args world error) (growth : world ≤ later) :
    GuardFailure dispatcher call args later error :=
  failure.imp_right (mem_trace_of_le growth)

/-- Sequential composition of steps of the guard. -/
theorem keeps_bind_guarding {α : Type} {post : World π κ → Except DispatchError α → Prop}
    {computation : Dispatching π κ α} {following : α → Dispatching π κ Unit}
    {returned : World π κ → Prop} (first : Keeps contract post computation known)
    (next : ∀ world value, known ≤ world → post world (.ok value) →
      Keeps contract (Guarding dispatcher call args returned) (following value) world)
    (failed : ∀ world error, post world (.error error) →
      GuardFailure dispatcher call args world error) :
    Keeps contract (Guarding dispatcher call args returned) (computation >>= following) known :=
  keeps_bind first next fun world error _ raised _ further =>
    (failed world error raised).grow further

theorem keeps_reject (prepared : Prepared dispatcher args clientOrderId known) (reason : String)
    (owner : Option (String × Nat)) {returned : World π κ → Prop} :
    Keeps contract (Guarding dispatcher call args returned)
      (dispatcher.reject call args clientOrderId reason owner) known := by
  refine keeps_bind_guarding (keeps_appendEvent ?_ fun _ _ _ => Moves.lose) ?_ ?_
  · intro world next growth grown version
    exact (prepared.grow growth).block grown version
  · intro world _ _ _
    exact keeps_throw fun _ _ => Or.inl ⟨reason, rfl⟩
  · intro world error raised
    exact Or.inr (raised.2 (List.mem_singleton_self _))

theorem keeps_rejectIf (prepared : Prepared dispatcher args clientOrderId known)
    (rejection : Option String) (owner : Option (String × Nat)) :
    Keeps contract (Guarding dispatcher call args (Prepared dispatcher args clientOrderId))
      (dispatcher.rejectIf call args clientOrderId rejection owner) known := by
  cases rejection with
  | none => exact keeps_pure fun _ growth => prepared.grow growth
  | some reason => exact keeps_reject prepared reason owner

theorem keeps_rejectLease (prepared : Prepared dispatcher args clientOrderId known)
    (reason : String) (now : Instant) :
    Keeps contract (Guarding dispatcher call args (Prepared dispatcher args clientOrderId))
      (dispatcher.rejectLease args clientOrderId reason now) known := by
  refine keeps_bind_guarding (keeps_observe (keeps_appendEvent ?_ fun _ _ _ => Moves.still)) ?_ ?_
  · intro world next growth grown version
    exact (prepared.grow growth).block grown version
  · intro world _ _ _
    exact keeps_throw fun _ _ => Or.inl ⟨reason, rfl⟩
  · intro world error raised
    exact raised.elim

theorem keeps_checkLease (prepared : Prepared dispatcher args clientOrderId known)
    (durable : List (Envelope π)) :
    Keeps contract (Guarding dispatcher call args (Prepared dispatcher args clientOrderId))
      (dispatcher.checkLease args clientOrderId durable) known := by
  unfold GuardedDispatcher.checkLease
  split
  · exact keeps_throw fun _ _ => Or.inl ⟨_, rfl⟩
  · split
    · split
      · exact keeps_pure fun _ growth => prepared.grow growth
      · exact keeps_rejectLease prepared _ _
      · exact keeps_rejectLease prepared _ _
    · exact keeps_throw fun _ _ => Or.inl ⟨_, rfl⟩

/-- The send barrier finds the prepared attempt alone and the intent unbound. -/
theorem Prepared.send {world next : World π κ}
    (prepared : Prepared dispatcher args clientOrderId world)
    (grown : Extends world next
      [dispatcher.sendingEvent args clientOrderId, dispatcher.bindingEvent args clientOrderId]
      [.barrierPassed call (dispatcher.aggregate args.attemptId)
        (dispatcher.intent args).aggregate]) :
    Moves contract world next := by
  have attempts : eventsOf [dispatcher.sendingEvent (π := π) args clientOrderId,
      dispatcher.bindingEvent args clientOrderId] (dispatcher.aggregate args.attemptId) =
      [dispatcher.sendingEvent args clientOrderId] := by
    simp [eventsOf, GuardedDispatcher.sendingEvent, GuardedDispatcher.bindingEvent,
      GuardedDispatcher.envelope, IntentKey.aggregate, GuardedDispatcher.aggregate,
      attemptAggregate]
  have intents : eventsOf [dispatcher.sendingEvent (π := π) args clientOrderId,
      dispatcher.bindingEvent args clientOrderId] (dispatcher.intent args).aggregate =
      [dispatcher.bindingEvent args clientOrderId] := by
    simp [eventsOf, GuardedDispatcher.sendingEvent, GuardedDispatcher.bindingEvent,
      GuardedDispatcher.envelope, IntentKey.aggregate, GuardedDispatcher.aggregate,
      attemptAggregate]
  have sent := grown.history (dispatcher.aggregate args.attemptId)
  have bound := grown.history (dispatcher.intent args).aggregate
  rw [attempts] at sent
  rw [intents] at bound
  have first : 1 = (world.history (dispatcher.intent args).aggregate).length + 1 :=
    Journal.version_eq bound
  refine Moves.send grown (isAttempt_aggregate ..) (eventType?_attemptEvent ..) ?_
    (prepared.history (Journal.version_eq sent)) (submission?_attemptEvent ..) rfl ?_
  · rw [eventType?, GuardedDispatcher.bindingEvent, submission?_envelope]
    rfl
  · exact List.length_eq_zero_iff.mp (by
      change (world.history (dispatcher.intent args).aggregate).length = 0
      omega)

theorem keeps_sendBarrier (prepared : Prepared dispatcher args clientOrderId known)
    (journalSequence : Nat) :
    Keeps contract
      (Guarding dispatcher call args (Passed dispatcher call args clientOrderId))
      (dispatcher.sendBarrier call args clientOrderId journalSequence) known := by
  refine keeps_bind_guarding (keeps_observe (keeps_commitCommand ?_)) ?_
    fun _ _ raised => raised.elim
  · intro world next growth grown
    exact (prepared.grow growth).send grown
  · intro world committed growth outcome
    cases committed with
    | ok _ =>
        have passed : Passed dispatcher call args clientOrderId world :=
          ⟨outcome.1, outcome.2 _ List.mem_cons_self⟩
        exact keeps_pure fun later further => passed.grow further
    | error error =>
        rcases outcome with ⟨message, rfl⟩ | ⟨reason, rfl⟩
        · refine keeps_bind_guarding (keeps_events dispatcher args.attemptId) ?_
            fun _ _ raised => raised.elim
          intro current latest further _
          split
          · exact keeps_reject (prepared.grow (growth.trans further)) _ _
          · exact keeps_throw fun _ _ => Or.inl ⟨_, rfl⟩
        · exact keeps_throw fun _ _ => Or.inl ⟨reason, rfl⟩

theorem keeps_finalGuard (prepared : Prepared dispatcher args clientOrderId known) :
    Keeps contract
      (Guarding dispatcher call args (Passed dispatcher call args clientOrderId))
      (dispatcher.finalGuard call args clientOrderId) known := by
  refine keeps_bind_guarding (keeps_rejectIf prepared _ _) ?_ fun _ _ failed => failed
  intro _ _ _ prepared
  refine keeps_bind_guarding (keeps_rejectIf prepared _ _) ?_ fun _ _ failed => failed
  intro gated _ _ prepared
  have cut : Keeps contract (Returns fun world _ => Prepared dispatcher args clientOrderId world)
      (readJournal Journal.currentJournalSequence) gated :=
    keeps_readJournal fun seen growth world further => prepared.grow (growth.trans further)
  refine keeps_bind_guarding cut ?_ fun _ _ raised => raised.elim
  intro _ journalSequence _ prepared
  refine keeps_bind_guarding (keeps_rejectIf prepared _ _) ?_ fun _ _ failed => failed
  intro _ _ _ prepared
  refine keeps_bind_guarding (keeps_rejectIf prepared _ _) ?_ fun _ _ failed => failed
  intro _ _ _ prepared
  refine keeps_bind_guarding (keeps_events dispatcher args.attemptId) ?_
    fun _ _ raised => raised.elim
  intro _ durable growth _
  refine keeps_bind_guarding (keeps_checkLease (prepared.grow growth) durable) ?_
    fun _ _ failed => failed
  intro _ _ _ prepared
  exact keeps_sendBarrier prepared journalSequence

/-! ## The provider wrapper -/

/-- The guard contract of a provider wrapper: an outbound request only after
`final_guard` returned, and a `DispatchBlocked` from it is propagated. -/
def Wrapper.Contract : Wrapper → (passed : Bool) → Prop
  | .finalGuard returned raised, passed =>
      returned.Contract true ∧
        (∀ reason, raised (.dispatchBlocked reason) = .raise (.dispatchBlocked reason)) ∧
        ∀ error, (raised error).Contract passed
  | .outbound next, passed => passed = true ∧ next.Contract passed
  | .respond _, _ => True
  | .raise _, _ => True

open GuardedDispatcher (GuardState)

/-- What is known while a wrapper runs. -/
def Ready (contract : Prop) (dispatcher : GuardedDispatcher) (call : Nat) (args : DispatchArgs)
    (clientOrderId : String) (world : World π κ) (wrapper : Wrapper) : GuardState → Prop
  | .uncalled => True
  | .rejected => contract → dispatcher.lostMark call args ∈ world.trace ∨
      ∃ reason, wrapper = .raise (.dispatchBlocked reason)
  | .passed => Passed dispatcher call args clientOrderId world

/-- What is known when a wrapper has ended. -/
def Ended (contract : Prop) (dispatcher : GuardedDispatcher) (call : Nat) (args : DispatchArgs)
    (clientOrderId : String) (world : World π κ)
    (ended : Except DispatchError TransportResponse × GuardState) : Prop :=
  match ended.2 with
  | .uncalled => True
  | .rejected => contract → dispatcher.lostMark call args ∈ world.trace ∨
      ∃ reason, ended.1 = .error (.dispatchBlocked reason)
  | .passed => Passed dispatcher call args clientOrderId world

/-- A wrapper that performs a request goes on with what is known. -/
theorem Ready.outbound {world later : World π κ} {next : Wrapper} {state : GuardState}
    (ready : Ready contract dispatcher call args clientOrderId world (.outbound next) state)
    (growth : world ≤ later) :
    Ready contract dispatcher call args clientOrderId later next state := by
  cases state with
  | uncalled => trivial
  | rejected =>
      intro under
      rcases ready under with lost | ⟨reason, impossible⟩
      · exact Or.inl (mem_trace_of_le growth lost)
      · cases impossible
  | passed => exact Passed.grow ready growth

/-- A wrapper ends with what is known. -/
theorem Ready.ended {world later : World π κ} {wrapper : Wrapper} {state : GuardState}
    {result : Except DispatchError TransportResponse}
    (ready : Ready contract dispatcher call args clientOrderId world wrapper state)
    (growth : world ≤ later)
    (raised : ∀ reason, wrapper = .raise (.dispatchBlocked reason) →
      result = .error (.dispatchBlocked reason)) :
    Ended contract dispatcher call args clientOrderId later (result, state) := by
  cases state with
  | uncalled => trivial
  | rejected =>
      intro under
      rcases ready under with lost | ⟨reason, same⟩
      · exact Or.inl (mem_trace_of_le growth lost)
      · exact Or.inr ⟨reason, raised reason same⟩
  | passed => exact Passed.grow ready growth

/-- A rejected guard that the wrapper did not propagate lost its rejection. -/
theorem Ended.lost {world : World π κ} {result : Except DispatchError TransportResponse}
    (ended : Ended contract dispatcher call args clientOrderId world (result, .rejected))
    (masked : ∀ reason, result ≠ .error (.dispatchBlocked reason)) (under : contract) :
    dispatcher.lostMark call args ∈ world.trace := by
  rcases ended under with lost | ⟨reason, same⟩
  · exact lost
  · exact absurd same (masked reason)

theorem keeps_transportSend (prepared : Prepared dispatcher args clientOrderId known)
    {wrapper : Wrapper} {state : GuardState}
    (ready : Ready contract dispatcher call args clientOrderId known wrapper state)
    (keeping : contract → wrapper.Contract (state = .passed)) :
    Keeps contract (Returns (Ended contract dispatcher call args clientOrderId))
      (dispatcher.transportSend call args clientOrderId wrapper state) known := by
  induction wrapper generalizing state known with
  | finalGuard returned raised ihReturned ihRaised =>
      cases state with
      | uncalled =>
          unfold GuardedDispatcher.transportSend
          refine keeps_bind (keeps_observe (keeps_finalGuard prepared)) ?_
            fun _ _ _ raised => raised.elim
          intro world guarded growth outcome
          cases guarded with
          | ok _ =>
              exact ihReturned (prepared.grow growth) outcome fun under => (keeping under).1
          | error error =>
              apply ihRaised error (prepared.grow growth)
              · intro under
                rcases outcome with ⟨reason, rfl⟩ | lost
                · exact Or.inr ⟨reason, (keeping under).2.1 reason⟩
                · exact Or.inl lost
              · intro under
                exact (keeping under).2.2 error
      | rejected =>
          unfold GuardedDispatcher.transportSend
          apply ihRaised _ prepared
          · intro under
            rcases ready under with lost | ⟨reason, impossible⟩
            · exact Or.inl lost
            · cases impossible
          · intro under
            exact (keeping under).2.2 _
      | passed =>
          unfold GuardedDispatcher.transportSend
          refine ihRaised _ prepared ?_ fun under => (keeping under).2.2 _
          exact ready
  | outbound next ih =>
      unfold GuardedDispatcher.transportSend
      refine keeps_bind (keeps_mark ?_) ?_ fun _ _ _ raised => raised.elim
      · intro world later growth grown
        refine Moves.outbound grown fun under => ?_
        have reached : state = .passed := of_decide_eq_true (keeping under).1
        subst reached
        exact ⟨_, (Passed.grow ready growth).trace⟩
      · intro world _ growth _
        refine ih (prepared.grow growth) (ready.outbound growth) fun under => (keeping under).2
  | respond response =>
      refine keeps_pure fun world growth => ?_
      exact (ready.ended growth fun reason same => nomatch same)
  | raise error =>
      refine keeps_pure fun world growth => ?_
      exact (ready.ended growth fun reason same => by cases same; rfl)

/-! ## After the wrapper -/

/-- Any result. -/
def Anything (_ : World π κ) (_ : Except DispatchError α) : Prop := True

theorem keeps_bind_anything {post : World π κ → Except DispatchError α → Prop}
    {computation : Dispatching π κ α} {following : α → Dispatching π κ β}
    (first : Keeps contract post computation known)
    (returned : ∀ world value, known ≤ world → post world (.ok value) →
      Keeps contract Anything (following value) world) :
    Keeps contract Anything (computation >>= following) known :=
  keeps_bind first returned fun _ _ _ _ _ _ => trivial

theorem keeps_returned (value : α) :
    Keeps contract Anything (pure value : Dispatching π κ α) known :=
  keeps_pure fun _ _ => trivial

theorem keeps_raised (error : DispatchError) :
    Keeps contract Anything (throw error : Dispatching π κ α) known :=
  keeps_throw fun _ _ => trivial

/-- A read that ends in a send is followed by version three only if nothing was
appended since. -/
theorem Prepared.sendingLast {seen world : World π κ}
    (prepared : Prepared dispatcher args clientOrderId seen) (growth : seen ≤ world)
    (last : seen.lastType (dispatcher.aggregate args.attemptId) = some .submissionSending)
    (version : 3 = (world.history (dispatcher.aggregate args.attemptId)).length + 1) :
    world.lastType (dispatcher.aggregate args.attemptId) = some .submissionSending := by
  have long : 2 ≤ (seen.history (dispatcher.aggregate args.attemptId)).length := by
    by_contra short
    have nonempty : seen.history (dispatcher.aggregate args.attemptId) ≠ [] := by
      intro empty
      simp [World.lastType, empty] at last
    have positive := List.length_pos_iff.mpr nonempty
    rw [prepared.lastType (by omega)] at last
    cases last
  rw [World.lastType, history_eq growth (by omega)]
  exact last

variable [ResponseDecoder]

theorem keeps_afterBlocked (reason : String) :
    Keeps contract Anything
      (dispatcher.afterBlocked args clientOrderId reason : Dispatching π κ DispatchOutcome)
      known := by
  refine keeps_bind_anything (keeps_events dispatcher args.attemptId) ?_
  intro world events _ _
  simp only
  split
  · exact keeps_returned _
  · exact keeps_returned _
  · exact keeps_returned _

theorem keeps_expose {earlier : World π κ} {events : List (Envelope π)} {last : Envelope π}
    (seen : Seen earlier (dispatcher.aggregate args.attemptId) known events)
    (found : events.getLast? = some last)
    (lost : contract → dispatcher.lostMark call args ∈ known.trace) (reason : String) :
    Keeps contract Anything (dispatcher.expose args clientOrderId last reason) known := by
  refine keeps_bind_anything (keeps_appendEvent ?_ fun _ _ _ => Moves.still)
    fun _ _ _ _ => keeps_returned _
  intro world next growth grown version
  change last.aggregateVersion + 1 =
    (world.history (dispatcher.aggregate args.attemptId)).length + 1 at version
  have same := (seen.grow growth).unchanged (by rw [← seen.last_version found]; omega)
  refine Moves.expose grown (isAttempt_aggregate ..) (eventType?_attemptEvent ..) ?_
    (Or.inr fun under => ⟨call, mem_trace_of_le growth (lost under)⟩)
  intro empty
  change world.history (dispatcher.aggregate args.attemptId) = [] at empty
  rw [same] at empty
  simp [empty] at found

theorem keeps_afterFailure (prepared : Prepared dispatcher args clientOrderId known)
    (error : DispatchError) (state : GuardState)
    (lost : state = .rejected → contract → dispatcher.lostMark call args ∈ known.trace) :
    Keeps contract Anything (dispatcher.afterFailure args clientOrderId error state) known := by
  refine keeps_bind_anything (keeps_events dispatcher args.attemptId) ?_
  intro world events growth seen
  cases found : events.getLast? with
  | none => exact keeps_raised _
  | some last =>
      simp only
      split
      · rename_i kind
        refine keeps_bind_anything (keeps_appendEvent ?_ fun _ _ _ => Moves.still)
          fun _ _ _ _ => keeps_returned _
        intro later next further grown version
        obtain ⟨moment, before, after, rfl⟩ := seen
        refine Moves.resolve grown (isAttempt_aggregate ..) (Or.inr (eventType?_attemptEvent ..)) ?_
        apply (prepared.grow before).sendingLast (after.trans further) _ version
        rw [World.lastType, found]
        simp [eventType?, kind, SubmissionPayload.eventType]
      · refine keeps_bind_anything (keeps_appendEvent ?_ fun _ _ _ => Moves.still)
          fun _ _ _ _ => keeps_returned _
        intro later next further grown version
        exact (prepared.grow (growth.trans further)).block grown version
      · exact keeps_expose seen found (fun under => mem_trace_of_le growth (lost rfl under)) _
      · exact keeps_raised _

theorem keeps_afterUnguarded (prepared : Prepared dispatcher args clientOrderId known) :
    Keeps contract Anything (dispatcher.afterUnguarded args clientOrderId) known := by
  refine keeps_bind_anything (keeps_appendEvent ?_ fun _ _ _ => Moves.still)
    fun _ _ _ _ => keeps_returned _
  intro world next growth grown version
  have alone := prepared.grow growth
  refine Moves.expose grown (isAttempt_aggregate ..) (eventType?_attemptEvent ..) ?_
    (Or.inl (alone.lastType version))
  rw [attemptEvent_aggregate, alone.history version]
  exact List.cons_ne_nil _ _

theorem keeps_afterSwallowed
    (lost : contract → dispatcher.lostMark call args ∈ known.trace) :
    Keeps contract Anything (dispatcher.afterSwallowed args clientOrderId) known := by
  refine keeps_bind_anything (keeps_events dispatcher args.attemptId) ?_
  intro world events growth seen
  cases found : events.getLast? with
  | none => exact keeps_raised _
  | some last => exact keeps_expose seen found (fun under => mem_trace_of_le growth (lost under)) _

/-- The terminal event of a response is `SubmissionSent` or
`SubmissionUnknown`. -/
theorem terminalOf_eventType {response : TransportResponse}
    {terminal : SubmissionPayload × DispatchOutcome}
    (success : GuardedDispatcher.terminalOf clientOrderId response = .ok terminal) :
    terminal.1.eventType = .submissionSent ∨ terminal.1.eventType = .submissionUnknown := by
  unfold GuardedDispatcher.terminalOf at success
  split at success
  · dsimp only at success
    split at success
    · cases success
      exact Or.inr rfl
    · split at success
      · split at success
        · cases success
        · cases success
          exact Or.inl rfl
      · cases success
        exact Or.inl rfl
  · cases success
  · cases success
  · cases success
  · cases success
    exact Or.inl rfl

/-- A terminal event after the barrier. -/
theorem Passed.keeps_append (passed : Passed dispatcher call args clientOrderId known)
    {payload : SubmissionPayload}
    (kind : payload.eventType = .submissionSent ∨ payload.eventType = .submissionUnknown) :
    Keeps contract (Appended (dispatcher.attemptEvent args.attemptId 3 payload args.barrierNow) [])
      (dispatcher.append args.attemptId 3 payload args.barrierNow []) known := by
  refine keeps_appendEvent ?_ fun _ _ _ => Moves.still
  intro world next growth grown version
  refine Moves.resolve grown (isAttempt_aggregate ..) ?_ ((passed.grow growth).lastType version)
  rw [eventType?_attemptEvent]
  exact kind.imp (congrArg some) (congrArg some)

theorem keeps_afterSend (passed : Passed dispatcher call args clientOrderId known)
    (response : TransportResponse) :
    Keeps contract Anything (dispatcher.afterSend args clientOrderId response) known := by
  have journaling : Keeps contract Anything (do
      let terminal ← ofExcept (GuardedDispatcher.terminalOf clientOrderId response)
      let _ ← dispatcher.append args.attemptId 3 terminal.1 args.barrierNow []
      pure terminal.2) known := by
    have decided : Keeps contract
        (fun _ result => result = GuardedDispatcher.terminalOf clientOrderId response)
        (ofExcept (GuardedDispatcher.terminalOf clientOrderId response)) known :=
      keeps_ofExcept fun _ _ => rfl
    refine keeps_bind_anything decided ?_
    intro world terminal growth success
    exact keeps_bind_anything
      ((passed.grow growth).keeps_append (terminalOf_eventType success.symm))
      fun _ _ _ _ => keeps_returned _
  refine keeps_bind_anything (keeps_observe journaling) ?_
  intro world journaled growth _
  cases journaled with
  | ok outcome => exact keeps_returned _
  | error persistenceError =>
      refine keeps_bind_anything
        (keeps_observe ((passed.grow growth).keeps_append (Or.inr rfl))) ?_
      intro later recorded _ _
      cases recorded with
      | ok _ => exact keeps_returned _
      | error _ => exact keeps_raised _

theorem keeps_transmit (prepared : Prepared dispatcher args clientOrderId known)
    (keeping : contract → args.transport.Contract false) :
    Keeps contract Anything (dispatcher.transmit call args clientOrderId) known := by
  refine keeps_bind_anything (keeps_transportSend prepared trivial keeping) ?_
  intro world ended growth outcome
  change Ended contract dispatcher call args clientOrderId world ended at outcome
  have still := prepared.grow growth
  split
  · exact keeps_afterBlocked _
  · rename_i error state masked
    have lost : state = .rejected → contract → dispatcher.lostMark call args ∈ world.trace := by
      intro rejected
      subst rejected
      exact outcome.lost fun reason same => masked reason (Except.error.inj same)
    exact keeps_afterFailure still error state lost
  · exact keeps_afterUnguarded still
  · exact keeps_afterSwallowed (outcome.lost fun reason same => nomatch same)
  · exact keeps_afterSend outcome _

/-! ## Dispatch -/

theorem keeps_blockEarly (prepared : Prepared dispatcher args clientOrderId known)
    (stored reported : String) :
    Keeps contract Anything (dispatcher.blockEarly args clientOrderId stored reported) known := by
  refine keeps_bind_anything (keeps_appendEvent ?_ fun _ _ _ => Moves.still)
    fun _ _ _ _ => keeps_returned _
  intro world next growth grown version
  exact (prepared.grow growth).block grown version

theorem keeps_authorize (prepared : Prepared dispatcher args clientOrderId known)
    (keeping : contract → args.transport.Contract false) :
    Keeps contract Anything (dispatcher.authorize call args clientOrderId) known := by
  unfold GuardedDispatcher.authorize
  split
  · exact keeps_blockEarly prepared _ _
  · split
    · exact keeps_transmit prepared keeping
    · exact keeps_blockEarly prepared _ _

theorem keeps_prepare (keeping : contract → args.transport.Contract false) :
    Keeps contract Anything (dispatcher.prepare call args clientOrderId) known := by
  have scanned : Keeps contract Anything
      (readJournal fun journal => dispatcher.legacyAttempt args clientOrderId journal) known :=
    keeps_readJournal fun _ _ _ _ => trivial
  refine keeps_bind_anything scanned ?_
  intro world legacy growth _
  have resolved : Keeps contract Anything (ofExcept legacy) world :=
    keeps_ofExcept fun _ _ => trivial
  refine keeps_bind_anything resolved ?_
  intro current legacyAttemptId _ _
  cases legacyAttemptId with
  | some attemptId => exact (keeps_recoverExisting _).weaken fun _ _ _ => trivial
  | none =>
      refine keeps_bind_anything (keeps_appendEvent ?_ fun _ _ _ => Moves.still) ?_
      · intro state next further grown version
        refine Moves.prepare grown (isAttempt_aggregate ..) (submission?_attemptEvent ..) ?_
        have first : 1 = (state.history (dispatcher.aggregate args.attemptId)).length + 1 :=
          version
        exact List.length_eq_zero_iff.mp (by
          change (state.history (dispatcher.aggregate args.attemptId)).length = 0
          omega)
      · intro later prepared _ durable
        split
        · exact keeps_authorize durable keeping
        · exact (keeps_recoverExisting _).weaken fun _ _ _ => trivial

/-- The call found no row of its attempt and no row of its intent. -/
structure Fresh (dispatcher : GuardedDispatcher) (call : Nat) (args : DispatchArgs)
    (world : World π κ) : Prop where
  attempt : .absent call (dispatcher.aggregate args.attemptId) ∈ world.trace
  intent : .absent call (dispatcher.intent args).aggregate ∈ world.trace

/-- Why a call may report `BLOCKED`. -/
def Justified (dispatcher : GuardedDispatcher) (call : Nat) (args : DispatchArgs)
    (world : World π κ) (outcome : DispatchOutcome) : Prop :=
  outcome.status = .blocked →
    Fresh dispatcher call args world ∨ WasBlocked world (dispatcher.aggregate args.attemptId)

theorem keeps_afterBound (intentEvents : List (Envelope π)) :
    Keeps contract (Returning fun _ outcome => outcome.status ≠ .blocked)
      (dispatcher.afterBound args clientOrderId intentEvents : Dispatching π κ DispatchOutcome)
      known := by
  unfold GuardedDispatcher.afterBound
  split
  · split
    · exact keeps_throw fun _ _ => trivial
    · split
      · exact keeps_throw fun _ _ => trivial
      · refine keeps_bind_returning (keeps_events dispatcher _) ?_
        intro world canonical _ _
        cases found : canonical.getLast? with
        | none => exact keeps_throw fun _ _ => trivial
        | some last =>
            simp only
            split
            · exact keeps_pure fun _ _ blocked => nomatch blocked
            · rename_i kind
              exact keeps_outcomeOfLast_open found (by rw [kind]; exact fun same => nomatch same)
            · rename_i kind
              exact keeps_outcomeOfLast_open found (by rw [kind]; exact fun same => nomatch same)
            · exact keeps_throw fun _ _ => trivial
  · exact keeps_throw fun _ _ => trivial

theorem keeps_dispatch (keeping : contract → args.transport.Contract false) :
    Keeps contract (Returning (Justified dispatcher call args))
      (dispatcher.dispatch call args) known := by
  have validated : Keeps contract Anything (ofExcept (dispatcher.validate args)) known :=
    keeps_ofExcept fun _ _ => trivial
  refine keeps_bind_returning validated ?_
  intro world clientOrderId _ _
  refine keeps_bind_returning (keeps_loadFor call (dispatcher.aggregate args.attemptId)) ?_
  intro current existing growth loaded
  cases existing with
  | cons first rest =>
      simp only
      split
      · split
        · exact (keeps_recoverExisting _).weaken fun state result recovered => by
            cases result with
            | ok outcome => exact fun blocked => Or.inr (recovered blocked)
            | error error => trivial
        · exact keeps_throw fun _ _ => trivial
      · exact keeps_throw fun _ _ => trivial
  | nil =>
      refine keeps_bind_returning (keeps_loadFor call (dispatcher.intent args).aggregate) ?_
      intro later intentEvents further found
      split
      · rename_i empty
        have fresh : Fresh dispatcher call args later :=
          ⟨mem_trace_of_le further (loaded.2 rfl), found.2 empty⟩
        refine (keeps_prepare keeping).after.weaken ?_
        rintro state result ⟨beyond, -⟩
        cases result with
        | ok outcome =>
            exact fun _ => Or.inl ⟨mem_trace_of_le beyond fresh.attempt,
              mem_trace_of_le beyond fresh.intent⟩
        | error error => trivial
      · refine (keeps_afterBound intentEvents).weaken ?_
        intro state result reported
        cases result with
        | ok outcome => exact fun blocked => absurd blocked reported
        | error error => trivial

theorem meets_launch (keeping : contract → args.transport.Contract false)
    (started : .started call (dispatcher.aggregate args.attemptId)
      (dispatcher.intent args).aggregate ∈ known.trace) :
    Program.Meets (Moves contract) (fun _ _ => True) (dispatcher.launch call args) known := by
  have dispatched : Keeps contract _ (dispatcher.dispatch call args) known := keeps_dispatch keeping
  refine Program.Meets.bind dispatched.after ?_ Moves.grows
  rintro world result - ⟨growth, justified⟩
  cases result with
  | error error => exact Program.meets_done fun _ _ => trivial
  | ok outcome =>
      refine Program.meets_atomic fun state further => ⟨?_, fun _ _ => trivial⟩
      have grown : Extends state
          { state with trace := state.trace ++ [.reported call outcome.status] } []
          [.reported call outcome.status] := ⟨(List.append_nil _).symm, List.prefix_rfl, rfl⟩
      refine Moves.report grown (mem_trace_of_le (growth.trans further) started) ?_
      intro blocked
      rcases justified blocked with fresh | blockedRow
      · exact Or.inl ⟨mem_trace_of_le further fresh.attempt, mem_trace_of_le further fresh.intent⟩
      · exact Or.inr (blockedRow.grow further)

end Guard

/-! ## Systems of dispatchers -/

/-- The start of a `dispatch` call by any dispatcher with any arguments. -/
def Starts [DecidableEq π] [DecidableEq κ] [Carries (SendCommand π) κ] [ResponseDecoder]
    (contract : Prop) (world later : World π κ) (program : Program (World π κ) Unit) : Prop :=
  ∃ (dispatcher : GuardedDispatcher) (call : Nat) (args : DispatchArgs),
    (contract → args.transport.Contract false) ∧
      (∀ attempt intent, .started call attempt intent ∉ world.trace) ∧
      later = { world with trace := world.trace ++ [.started call
        (dispatcher.aggregate args.attemptId) (dispatcher.intent args).aggregate] } ∧
      program = dispatcher.launch call args

/-- A transaction of another writer of the journal. -/
def Outside (world later : World π κ) : Prop :=
  ∃ added, Extends world later added [] ∧ ∀ event ∈ added, Apart event.aggregate

/-- An empty journal. -/
def World.empty : World π κ := ⟨Journal.empty, []⟩

/-- The states that any number of dispatchers and other writers reach from an
empty journal, in any interleaving. -/
def Reaches [DecidableEq π] [DecidableEq κ] [Carries (SendCommand π) κ] [ResponseDecoder]
    (contract : Prop) (world : World π κ) : Prop :=
  ∃ pool, System.Runs (Starts contract) Outside ⟨World.empty, []⟩ ⟨world, pool⟩

theorem Reaches.of_runs [DecidableEq π] [DecidableEq κ] [Carries (SendCommand π) κ]
    [ResponseDecoder] {system : System (World π κ)}
    (runs : System.Runs (Starts contract) Outside ⟨World.empty, []⟩ system) :
    Reaches contract system.shared :=
  ⟨system.pool, runs⟩

/-- The start of a call. -/
def startCall [DecidableEq π] [DecidableEq κ] [Carries (SendCommand π) κ] [ResponseDecoder]
    (system : System (World π κ)) (dispatcher : GuardedDispatcher) (call : Nat)
    (args : DispatchArgs) : System (World π κ) :=
  ⟨{ system.shared with trace := system.shared.trace ++ [.started call
      (dispatcher.aggregate args.attemptId) (dispatcher.intent args).aggregate] },
    system.pool ++ [dispatcher.launch call args]⟩

theorem runs_startCall [DecidableEq π] [DecidableEq κ] [Carries (SendCommand π) κ]
    [ResponseDecoder] (system : System (World π κ)) (dispatcher : GuardedDispatcher) (call : Nat)
    (args : DispatchArgs) (keeping : contract → args.transport.Contract false)
    (fresh : ∀ entry ∈ system.shared.trace, ∀ attempt intent,
      entry ≠ .started call attempt intent) :
    System.Runs (Starts contract) Outside system (startCall system dispatcher call args) :=
  .single (.start ⟨dispatcher, call, args, keeping,
    fun attempt intent member => fresh _ member attempt intent rfl, rfl, rfl⟩)

/-- Runs of calls that follow the protocol are moves. -/
theorem runs_moves [DecidableEq π] [DecidableEq κ] [Carries (SendCommand π) κ]
    [ResponseDecoder] {system after : System (World π κ)}
    (guaranteed : system.Guaranteed (Moves contract))
    (runs : System.Runs (Starts contract) Outside system after) :
    Relation.ReflTransGen (Moves contract) system.shared after.shared ∧
      after.Guaranteed (Moves contract) := by
  refine System.Runs.guaranteed Moves.grows ?_ ?_ guaranteed runs
  · rintro state later program ⟨dispatcher, call, args, keeping, fresh, rfl, rfl⟩
    refine ⟨Moves.start ⟨(List.append_nil _).symm, List.prefix_rfl, rfl⟩ fresh, ?_⟩
    exact meets_launch keeping (List.mem_append_right _ (List.mem_singleton_self _))
  · rintro state later ⟨added, grown, apart⟩
    exact Moves.foreign grown apart

theorem guaranteed_empty :
    (⟨World.empty, []⟩ : System (World π κ)).Guaranteed (Moves contract) :=
  fun _ member => absurd member List.not_mem_nil

/-- Every interleaving follows the protocol. -/
theorem Reaches.moves [DecidableEq π] [DecidableEq κ] [Carries (SendCommand π) κ]
    [ResponseDecoder] {world : World π κ} (reaches : Reaches contract world) :
    Relation.ReflTransGen (Moves contract) World.empty world := by
  obtain ⟨pool, runs⟩ := reaches
  exact (runs_moves guaranteed_empty runs).1

end AutoTrade.Dispatch
