import AutoTrade.Dispatch.ExactResponse
import AutoTrade.Dispatch.SingleSend

/-!
# Provenance of exact responses

A terminal row with an exact response is the third row of its attempt, after the prepared
and the sending row of the call that journals it.  So the journal binds the response to what
was sent, in every interleaving.
-/

set_option linter.unusedSectionVars false

namespace AutoTrade.Dispatch

open Lib Store

/-- The client order id of a terminal payload with an exact response. -/
def exactOrder? (payload : SubmissionPayload) : Option String :=
  match terminalMembers payload with
  | some (_, order, some _, _) => some order
  | _ => none

section Rows

variable {π κ : Type} [DecidableEq π] [DecidableEq κ] [Carries SubmissionEvent π]
  [Carries (SendCommand π) κ] [ByteFingerprint] [CaseMap]
  {world next later : World π κ} {event : Envelope π}

/-- A row whose call wrote the prepared and the sending row of its attempt. -/
def Backed (world : World π κ) (event : Envelope π) (order : String) : Prop :=
  ∃ (dispatcher : GuardedDispatcher) (args : DispatchArgs),
    dispatcher.validate args = .ok order ∧ Prepared dispatcher args order world ∧
      dispatcher.sendingEvent args order ∈ world.journal.events ∧
      event.aggregate = dispatcher.aggregate args.attemptId ∧ event.aggregateVersion = 3

/-- A row of an attempt with an exact response is backed. -/
def Sound (world : World π κ) (event : Envelope π) : Prop :=
  IsAttempt event.aggregate → ∀ order, (submission? event).bind exactOrder? = some order →
    Backed world event order

/-- A transaction adds sound rows. -/
def Grounded (world next : World π κ) : Prop :=
  world ≤ next ∧ ∀ event ∈ next.journal.events, event ∈ world.journal.events ∨ Sound next event

theorem Sound.grow (sound : Sound world event) (growth : world ≤ later) : Sound later event := by
  intro attempt order exact
  obtain ⟨dispatcher, args, valid, prepared, sending, own⟩ := sound attempt order exact
  exact ⟨dispatcher, args, valid, prepared.grow growth, mem_events_of_le growth sending, own⟩

theorem Grounded.grows (grounded : Grounded world next) : world ≤ next := grounded.1

theorem Extends.grounded {added : List (Envelope π)} {marks : List Mark}
    (grown : Extends world next added marks) (sound : ∀ event ∈ added, Sound next event) :
    Grounded world next := by
  refine ⟨grown.le, ?_⟩
  intro event member
  rw [grown.events, List.mem_append] at member
  exact member.imp_right (sound event)

theorem Grounded.idle : Grounded world world :=
  (Extends.refl world).grounded fun _ member => absurd member List.not_mem_nil

theorem sound_of_no_response (none : (submission? event).bind exactOrder? = none) :
    Sound world event := by
  intro _ order exact
  rw [none] at exact
  cases exact

theorem sound_attemptEvent (dispatcher : GuardedDispatcher) (attemptId : String) (version : Nat)
    {payload : SubmissionPayload} (now : Instant) (none : exactOrder? payload = none) :
    Sound world (dispatcher.attemptEvent attemptId version payload now) := by
  apply sound_of_no_response
  rw [submission?_attemptEvent]
  exact none

end Rows

/-! ## Computations that add sound rows -/

section Rules

variable {π κ α β : Type} [DecidableEq π] [DecidableEq κ] [Carries SubmissionEvent π]
  [Carries (SendCommand π) κ] [ByteFingerprint] [CaseMap] {known : World π κ}

/-- A computation whose transactions add sound rows. -/
def Grounds (post : World π κ → Except DispatchError α → Prop)
    (computation : Dispatching π κ α) (known : World π κ) : Prop :=
  Program.Meets Grounded post computation.run known

variable {post : World π κ → Except DispatchError α → Prop} {computation : Dispatching π κ α}

theorem grounds_pure (value : α) : Grounds Anything (pure value) known :=
  Program.meets_done fun _ _ => trivial

theorem grounds_throw (error : DispatchError) :
    Grounds Anything (throw error : Dispatching π κ α) known :=
  Program.meets_done fun _ _ => trivial

theorem grounds_ofExcept (result : Except DispatchError α) :
    Grounds (fun _ found => found = result) (ofExcept result) known :=
  Program.meets_done fun _ _ => rfl

theorem grounds_bind {following : α → Dispatching π κ β} (first : Grounds post computation known)
    (rest : ∀ world value, known ≤ world → post world (.ok value) →
      Grounds Anything (following value) world) :
    Grounds Anything (computation >>= following) known :=
  Program.Meets.andThen Grounded.grows first rest fun _ _ _ _ _ _ => trivial

/-- Sequential composition where nothing is said about the first result. -/
theorem grounds_seq {following : α → Dispatching π κ β}
    (first : Grounds Anything computation known)
    (rest : ∀ world value, known ≤ world → Grounds Anything (following value) world) :
    Grounds Anything (computation >>= following) known :=
  grounds_bind first fun world value growth _ => rest world value growth

theorem grounds_observe (grounds : Grounds Anything computation known) :
    Grounds Anything (observe computation) known :=
  Program.Meets.map grounds fun _ _ _ => trivial

/-- What a computation keeps in the protocol, it keeps with the rows it adds. -/
theorem Grounds.keeps {contract : Prop} (grounds : Grounds Anything computation known)
    (keeps : Keeps contract post computation known) : Grounds post computation known :=
  (Program.Meets.both grounds keeps).weaken fun _ _ both => both.2

theorem grounds_readJournal (view : Journal π κ → α) :
    Grounds Anything (readJournal view) known := by
  have reads : Program.Meets Grounded (fun _ _ => True)
      (Program.read fun world : World π κ => view world.journal) known :=
    Program.meets_read (fun _ => Grounded.idle) fun _ _ _ _ => trivial
  exact reads.map fun _ _ _ => trivial

theorem grounds_events (dispatcher : GuardedDispatcher) (attemptId : String) :
    Grounds Anything (dispatcher.events attemptId : Dispatching π κ _) known :=
  grounds_readJournal _

theorem grounds_mark (entry : Mark) :
    Grounds Anything (mark entry : Dispatching π κ Unit) known := by
  refine Program.Meets.map (Program.meets_atomic ?_) fun _ _ (_ : True) => trivial
  intro world _
  have grown : Extends world { world with trace := world.trace ++ [entry] } [] [entry] :=
    ⟨(List.append_nil _).symm, List.prefix_rfl, rfl⟩
  exact ⟨grown.grounded fun _ member => absurd member List.not_mem_nil, fun _ _ => trivial⟩

theorem grounds_loadFor (call : Nat) (aggregate : Aggregate) :
    Grounds Anything (loadFor call aggregate : Dispatching π κ _) known := by
  refine Program.Meets.map (Program.meets_atomic ?_) fun _ _ (_ : True) => trivial
  intro world _
  have grown (marks : List Mark) :
      Extends world { world with trace := world.trace ++ marks } [] marks :=
    ⟨(List.append_nil _).symm, List.prefix_rfl, rfl⟩
  exact ⟨(grown _).grounded fun _ member => absurd member List.not_mem_nil, fun _ _ => trivial⟩

/-- An append that, if it adds its row, adds a sound one. -/
theorem grounds_appendEvent {event : Envelope π} {rejected : List Mark}
    (sound : ∀ world next, known ≤ world → Extends world next [event] [] → Sound next event) :
    Grounds (Appended event rejected) (appendEvent event rejected) known := by
  apply Program.meets_atomic
  intro world growth
  unfold appendTransaction
  cases appended : world.journal.appendEvent event none with
  | error error =>
      have grown : Extends world { world with trace := world.trace ++ rejected } [] rejected :=
        ⟨(List.append_nil _).symm, List.prefix_rfl, rfl⟩
      refine ⟨grown.grounded fun _ member => absurd member List.not_mem_nil, ?_⟩
      intro later further
      refine ⟨⟨error.message, rfl⟩, ?_⟩
      intro entry member
      exact mem_trace_of_le further (List.mem_append_right _ member)
  | ok outcome =>
      obtain ⟨journal, result⟩ := outcome
      rcases Journal.appendEvent_cases appended with ⟨-, rfl, stored⟩ | ⟨-, events, commands⟩
      · refine ⟨Grounded.idle, ?_⟩
        intro later further
        exact mem_events_of_le further stored
      · have grown : Extends world { world with journal := journal } [event] [] :=
          ⟨events, commands ▸ List.prefix_rfl, (List.append_nil _).symm⟩
        refine ⟨grown.grounded ?_, ?_⟩
        · intro added member
          rw [List.mem_singleton.mp member]
          exact sound world _ growth grown
        · intro later further
          apply mem_events_of_le further
          change event ∈ journal.events
          rw [events]
          exact List.mem_append_right _ (List.mem_singleton_self event)

theorem grounds_append {dispatcher : GuardedDispatcher} {attemptId : String} {version : Nat}
    {payload : SubmissionPayload} {now : Instant} {rejected : List Mark}
    (none : exactOrder? payload = none) :
    Grounds Anything
      (dispatcher.append attemptId version payload now rejected : Dispatching π κ _) known :=
  Program.Meets.weaken (fun _ _ _ => trivial) (grounds_appendEvent fun _ _ _ _ =>
    sound_attemptEvent dispatcher attemptId version now none)

/-- The send barrier adds no row with an exact response. -/
theorem grounds_commitCommand {args : Journal.CommandArgs π κ} {passed : Mark}
    (none : ∀ event ∈ args.events, (submission? event).bind exactOrder? = none) :
    Grounds Anything (commitCommand args passed : Dispatching π κ Unit) known := by
  apply Program.meets_atomic
  intro world growth
  unfold commitTransaction
  cases committed : world.journal.commitCommand args with
  | error error => exact ⟨Grounded.idle, fun _ _ => trivial⟩
  | ok outcome =>
      obtain ⟨journal, result⟩ := outcome
      rcases Journal.commitCommand_cases committed with
        ⟨repeated, rfl, -⟩ | ⟨fresh, events, commands, -⟩
      · simp only [repeated, Bool.false_eq_true, if_false]
        exact ⟨Grounded.idle, fun _ _ => trivial⟩
      · simp only [fresh, if_true]
        have grown : Extends world ⟨journal, world.trace ++ [passed]⟩ args.events [passed] :=
          ⟨events, commands ▸ List.prefix_append _ _, rfl⟩
        refine ⟨grown.grounded ?_, fun _ _ => trivial⟩
        intro event member
        exact sound_of_no_response (none event member)

end Rules

/-! ## The dispatcher -/

section Guard

variable {π κ : Type} [DecidableEq π] [DecidableEq κ] [Carries SubmissionEvent π]
  [Carries (SendCommand π) κ] [ByteFingerprint] [CaseMap] {known : World π κ}
  {dispatcher : GuardedDispatcher} {call : Nat} {args : DispatchArgs} {order : String}

theorem grounds_reject (reason : String) (owner : Option (String × Nat)) :
    Grounds Anything
      (dispatcher.reject call args order reason owner : Dispatching π κ Unit) known :=
  grounds_seq (grounds_append rfl) fun _ _ _ => grounds_throw _

theorem grounds_rejectIf (rejection : Option String) (owner : Option (String × Nat)) :
    Grounds Anything
      (dispatcher.rejectIf call args order rejection owner : Dispatching π κ Unit) known := by
  cases rejection with
  | none => exact grounds_pure _
  | some reason => exact grounds_reject reason owner

theorem grounds_rejectLease (reason : String) (now : Instant) :
    Grounds Anything
      (dispatcher.rejectLease args order reason now : Dispatching π κ Unit) known :=
  grounds_seq (grounds_observe (grounds_append rfl)) fun _ _ _ => grounds_throw _

theorem grounds_checkLease (durable : List (Envelope π)) :
    Grounds Anything
      (dispatcher.checkLease args order durable : Dispatching π κ Unit) known := by
  unfold GuardedDispatcher.checkLease
  split
  · exact grounds_throw _
  · split
    · split
      · exact grounds_pure _
      · exact grounds_rejectLease _ _
      · exact grounds_rejectLease _ _
    · exact grounds_throw _

/-- The rows of the send barrier carry no response. -/
theorem sendCommand_no_response (journalSequence : Nat) :
    ∀ event ∈ (dispatcher.sendCommand args order journalSequence :
      Journal.CommandArgs π κ).events, (submission? event).bind exactOrder? = none := by
  intro event member
  rcases List.mem_pair.mp member with rfl | rfl
  · rw [GuardedDispatcher.sendingEvent, submission?_attemptEvent]
    rfl
  · rw [GuardedDispatcher.bindingEvent, submission?_envelope]
    rfl

theorem grounds_sendBarrier (journalSequence : Nat) :
    Grounds Anything
      (dispatcher.sendBarrier call args order journalSequence : Dispatching π κ Unit) known := by
  refine grounds_seq (grounds_observe (grounds_commitCommand (sendCommand_no_response _))) ?_
  intro world committed _
  split
  · exact grounds_pure _
  · refine grounds_seq (grounds_events dispatcher args.attemptId) ?_
    intro current latest _
    split
    · exact grounds_reject _ _
    · exact grounds_throw _
  · exact grounds_throw _

theorem grounds_finalGuard :
    Grounds Anything (dispatcher.finalGuard call args order : Dispatching π κ Unit) known := by
  refine grounds_seq (grounds_rejectIf _ _) fun _ _ _ => ?_
  refine grounds_seq (grounds_rejectIf _ _) fun _ _ _ => ?_
  refine grounds_seq (grounds_readJournal _) fun _ journalSequence _ => ?_
  refine grounds_seq (grounds_rejectIf _ _) fun _ _ _ => ?_
  refine grounds_seq (grounds_rejectIf _ _) fun _ _ _ => ?_
  refine grounds_seq (grounds_events dispatcher args.attemptId) fun _ durable _ => ?_
  exact grounds_seq (grounds_checkLease durable) fun _ _ _ => grounds_sendBarrier journalSequence

theorem grounds_transportSend (wrapper : Wrapper) (state : GuardedDispatcher.GuardState) :
    Grounds Anything (dispatcher.transportSend call args order wrapper state :
      Dispatching π κ (Except DispatchError TransportResponse × GuardedDispatcher.GuardState))
      known := by
  induction wrapper generalizing state known with
  | finalGuard returned raised ihReturned ihRaised =>
      unfold GuardedDispatcher.transportSend
      cases state with
      | uncalled =>
          refine grounds_seq (grounds_observe grounds_finalGuard) ?_
          intro world guarded _
          cases guarded with
          | ok _ => exact ihReturned _
          | error error => exact ihRaised error _
      | rejected => exact ihRaised _ _
      | passed => exact ihRaised _ _
  | outbound next ih =>
      exact grounds_seq (grounds_mark _) fun _ _ _ => ih state
  | respond response => exact grounds_pure _
  | raise error => exact grounds_pure _

variable [ResponseDecoder]

theorem grounds_afterBlocked (reason : String) :
    Grounds Anything
      (dispatcher.afterBlocked args order reason : Dispatching π κ DispatchOutcome) known := by
  refine grounds_seq (grounds_events dispatcher args.attemptId) ?_
  intro world events _
  simp only
  split
  · exact grounds_pure _
  · exact grounds_pure _
  · exact grounds_pure _

theorem grounds_expose (last : Envelope π) (reason : String) :
    Grounds Anything
      (dispatcher.expose args order last reason : Dispatching π κ DispatchOutcome) known :=
  grounds_seq (grounds_append rfl) fun _ _ _ => grounds_pure _

theorem grounds_afterFailure (error : DispatchError) (state : GuardedDispatcher.GuardState) :
    Grounds Anything
      (dispatcher.afterFailure args order error state : Dispatching π κ DispatchOutcome)
      known := by
  refine grounds_seq (grounds_events dispatcher args.attemptId) ?_
  intro world events _
  split
  · exact grounds_throw _
  · split
    · exact grounds_seq (grounds_append rfl) fun _ _ _ => grounds_pure _
    · exact grounds_seq (grounds_append rfl) fun _ _ _ => grounds_pure _
    · exact grounds_expose _ _
    · exact grounds_throw _

theorem grounds_afterUnguarded :
    Grounds Anything
      (dispatcher.afterUnguarded args order : Dispatching π κ DispatchOutcome) known :=
  grounds_seq (grounds_append rfl) fun _ _ _ => grounds_pure _

theorem grounds_afterSwallowed :
    Grounds Anything
      (dispatcher.afterSwallowed args order : Dispatching π κ DispatchOutcome) known := by
  refine grounds_seq (grounds_events dispatcher args.attemptId) ?_
  intro world events _
  split
  · exact grounds_throw _
  · exact grounds_expose _ _

/-- A terminal payload carries the client order id of its call. -/
theorem exactOrder?_terminalOf {response : TransportResponse}
    {terminal : SubmissionPayload × DispatchOutcome}
    (success : GuardedDispatcher.terminalOf order response = .ok terminal) {carried : String}
    (exact : exactOrder? terminal.1 = some carried) : carried = order := by
  unfold GuardedDispatcher.terminalOf at success
  split at success
  · dsimp only at success
    split at success
    · cases success
      exact (Option.some.inj exact).symm
    · split at success
      · split at success
        · cases success
        · cases success
          exact (Option.some.inj exact).symm
      · cases success
        exact (Option.some.inj exact).symm
  · cases success
  · cases success
  · cases success
  · cases success
    cases exact

/-- The terminal row of a call that prepared its attempt and passed the send barrier. -/
theorem grounds_terminal (valid : dispatcher.validate args = .ok order)
    (prepared : Prepared dispatcher args order known)
    (passed : Passed dispatcher call args order known) {payload : SubmissionPayload}
    (own : ∀ carried, exactOrder? payload = some carried → carried = order) :
    Grounds Anything
      (dispatcher.append args.attemptId 3 payload args.barrierNow [] : Dispatching π κ _)
      known := by
  refine Program.Meets.weaken (fun _ _ _ => trivial) (grounds_appendEvent ?_)
  intro world next growth grown _ carried exact
  rw [submission?_attemptEvent] at exact
  rw [own carried exact]
  have later := growth.trans grown.le
  exact ⟨dispatcher, args, valid, prepared.grow later, (passed.grow later).sending, rfl, rfl⟩

theorem grounds_afterSend (valid : dispatcher.validate args = .ok order)
    (prepared : Prepared dispatcher args order known)
    (passed : Passed dispatcher call args order known) (response : TransportResponse) :
    Grounds Anything
      (dispatcher.afterSend args order response : Dispatching π κ DispatchOutcome) known := by
  have journaling : Grounds (κ := κ) Anything (do
      let terminal ← ofExcept (GuardedDispatcher.terminalOf order response)
      let _ ← dispatcher.append args.attemptId 3 terminal.1 args.barrierNow []
      pure terminal.2) known := by
    refine grounds_bind (grounds_ofExcept _) ?_
    intro world terminal growth success
    exact grounds_seq (grounds_terminal valid (prepared.grow growth) (passed.grow growth)
      fun carried exact => exactOrder?_terminalOf success.symm exact) fun _ _ _ => grounds_pure _
  refine grounds_seq (grounds_observe journaling) ?_
  intro world journaled growth
  cases journaled with
  | ok outcome => exact grounds_pure _
  | error persistenceError =>
      refine grounds_seq (grounds_observe (grounds_append rfl)) ?_
      intro later recorded _
      cases recorded with
      | ok _ => exact grounds_pure _
      | error _ => exact grounds_throw _

theorem grounds_transmit (valid : dispatcher.validate args = .ok order)
    (prepared : Prepared dispatcher args order known) :
    Grounds Anything
      (dispatcher.transmit call args order : Dispatching π κ DispatchOutcome) known := by
  have sent : Grounds (Returns (Ended False dispatcher call args order))
      (dispatcher.transportSend call args order args.transport .uncalled) known :=
    (grounds_transportSend args.transport .uncalled).keeps
      (keeps_transportSend prepared trivial False.elim)
  refine grounds_bind sent ?_
  intro world ended growth outcome
  change Ended False dispatcher call args order world ended at outcome
  split
  · exact grounds_afterBlocked _
  · exact grounds_afterFailure _ _
  · exact grounds_afterUnguarded
  · exact grounds_afterSwallowed
  · exact grounds_afterSend valid (prepared.grow growth) outcome _

theorem grounds_blockEarly (stored reported : String) :
    Grounds Anything
      (dispatcher.blockEarly args order stored reported : Dispatching π κ DispatchOutcome)
      known :=
  grounds_seq (grounds_append rfl) fun _ _ _ => grounds_pure _

theorem grounds_authorize (valid : dispatcher.validate args = .ok order)
    (prepared : Prepared dispatcher args order known) :
    Grounds Anything
      (dispatcher.authorize call args order : Dispatching π κ DispatchOutcome) known := by
  unfold GuardedDispatcher.authorize
  split
  · exact grounds_blockEarly _ _
  · split
    · exact grounds_transmit valid prepared
    · exact grounds_blockEarly _ _

theorem grounds_outcomeOfLast (events : List (Envelope π)) :
    Grounds Anything (outcomeOfLast events order : Dispatching π κ DispatchOutcome) known := by
  unfold outcomeOfLast
  split
  · exact grounds_throw _
  · split
    · exact grounds_throw _
    · exact grounds_pure _

theorem grounds_converge {attemptId : String} {version : Nat} {payload : SubmissionPayload}
    {now : Instant} {sending : DispatchError → Dispatching π κ DispatchOutcome}
    (none : exactOrder? payload = none)
    (continued : ∀ error world, known ≤ world → Grounds Anything (sending error) world) :
    Grounds Anything (dispatcher.converge attemptId order version payload now sending) known := by
  unfold GuardedDispatcher.converge
  refine grounds_seq (grounds_observe (grounds_append none)) ?_
  intro world appended growth
  refine grounds_seq (grounds_events dispatcher attemptId) ?_
  intro current events further
  split
  · exact grounds_outcomeOfLast _
  · split
    · exact grounds_throw _
    · split
      · exact grounds_pure _
      · exact continued _ current (growth.trans further)
      · exact grounds_throw _

theorem grounds_recoverExisting {attemptId : String} {now : Instant} (depth : Nat) :
    Grounds Anything (dispatcher.recoverExisting attemptId order now depth :
      Dispatching π κ DispatchOutcome) known := by
  induction depth generalizing known with
  | zero => exact grounds_throw _
  | succ depth ih =>
      refine grounds_seq (grounds_events dispatcher attemptId) ?_
      intro world events _
      split
      · exact grounds_throw _
      · split
        · exact grounds_pure _
        · exact grounds_converge rfl fun _ _ _ => grounds_throw _
        · split
          · exact grounds_pure _
          · exact grounds_pure _
          · exact grounds_converge rfl fun _ _ _ => ih
        · exact grounds_throw _

theorem grounds_afterBound (intentEvents : List (Envelope π)) :
    Grounds Anything
      (dispatcher.afterBound args order intentEvents : Dispatching π κ DispatchOutcome)
      known := by
  unfold GuardedDispatcher.afterBound
  split
  · split
    · exact grounds_throw _
    · split
      · exact grounds_throw _
      · refine grounds_seq (grounds_events dispatcher _) ?_
        intro world canonical _
        split
        · exact grounds_throw _
        · split
          · exact grounds_pure _
          · exact grounds_outcomeOfLast _
          · exact grounds_outcomeOfLast _
          · exact grounds_throw _
  · exact grounds_throw _

theorem grounds_prepare (valid : dispatcher.validate args = .ok order) :
    Grounds Anything
      (dispatcher.prepare call args order : Dispatching π κ DispatchOutcome) known := by
  refine grounds_seq (grounds_readJournal _) ?_
  intro world legacy _
  refine grounds_bind (grounds_ofExcept legacy) ?_
  intro current legacyAttemptId _ _
  split
  · exact grounds_recoverExisting _
  · refine grounds_bind (grounds_appendEvent ?_) ?_
    · intro _ _ _ _
      exact sound_attemptEvent dispatcher args.attemptId 1 args.now rfl
    · intro later inserted _ prepared
      split
      · exact grounds_authorize valid prepared
      · exact grounds_recoverExisting _

theorem grounds_dispatch :
    Grounds Anything (dispatcher.dispatch call args : Dispatching π κ DispatchOutcome) known := by
  refine grounds_bind (grounds_ofExcept (dispatcher.validate args)) ?_
  intro world order _ valid
  refine grounds_seq (grounds_loadFor call _) ?_
  intro current existing _
  split
  · split
    · split
      · exact grounds_recoverExisting _
      · exact grounds_throw _
    · exact grounds_throw _
  · refine grounds_seq (grounds_loadFor call _) ?_
    intro later intentEvents _
    split
    · exact grounds_prepare valid.symm
    · exact grounds_afterBound _

theorem grounded_launch :
    Program.Meets Grounded (fun _ _ => True)
      (dispatcher.launch call args : Program (World π κ) Unit) known := by
  have dispatched : Grounds Anything (dispatcher.dispatch call args) known := grounds_dispatch
  refine Program.Meets.bind dispatched ?_ Grounded.grows
  intro world result _ _
  cases result with
  | error error => exact Program.meets_done fun _ _ => trivial
  | ok outcome =>
      refine Program.meets_atomic fun state _ => ⟨?_, fun _ _ => trivial⟩
      have grown : Extends state
          { state with trace := state.trace ++ [.reported call outcome.status] } []
          [.reported call outcome.status] := ⟨(List.append_nil _).symm, List.prefix_rfl, rfl⟩
      exact grown.grounded fun _ member => absurd member List.not_mem_nil

/-! ## Every interleaving -/

theorem Reaches.grounded {contract : Prop} {world : World π κ}
    (reaches : Reaches contract world) :
    Relation.ReflTransGen Grounded World.empty world := by
  obtain ⟨pool, runs⟩ := reaches
  refine (System.Runs.guaranteed Grounded.grows ?_ ?_ ?_ runs).1
  · rintro state later program ⟨dispatcher, call, args, -, -, rfl, rfl⟩
    have grown : Extends state
        { state with trace := state.trace ++ [.started call
          (dispatcher.aggregate args.attemptId) (dispatcher.intent args).aggregate] } []
        [.started call (dispatcher.aggregate args.attemptId) (dispatcher.intent args).aggregate] :=
      ⟨(List.append_nil _).symm, List.prefix_rfl, rfl⟩
    exact ⟨grown.grounded fun _ member => absurd member List.not_mem_nil, grounded_launch⟩
  · rintro state later ⟨added, grown, apart⟩
    refine grown.grounded ?_
    intro event member attempt
    exact absurd attempt (apart event member).1
  · intro program member
    exact absurd member List.not_mem_nil

/-- In every interleaving, a row of an attempt with an exact response is backed. -/
theorem Reaches.sound {contract : Prop} {world : World π κ} (reaches : Reaches contract world) :
    ∀ event ∈ world.journal.events, Sound world event := by
  have moves := reaches.grounded
  clear reaches
  induction moves with
  | refl =>
      intro event member
      exact absurd member List.not_mem_nil
  | tail _ last ih =>
      intro event member
      rcases last.2 event member with old | sound
      · exact (ih event old).grow last.1
      · exact sound

/-! ## Responses of a run -/

/-- What a call that passed its checks writes into its prepared payload. -/
theorem sendable_preparedPayload (valid : dispatcher.validate args = .ok order) :
    Sendable (dispatcher.preparedPayload args order) := by
  unfold GuardedDispatcher.validate at valid
  split at valid
  · cases valid
  next passed =>
    rw [List.find?_eq_none] at passed
    have provider := passed (args.provider, "provider") (by simp)
    exact ⟨fun blank => provider (decide_eq_true blank),
      fun blank => dispatcher.account_normal.2 (dispatcher.account_normal.1 ▸ blank),
      stableClientOrderId_present valid, ⟨args.request, rfl⟩, rfl⟩

/-- A row stands at its version. -/
theorem history_at {world : World π κ} {event : Envelope π} {aggregate : Aggregate}
    (member : event ∈ world.journal.events) (own : event.aggregate = aggregate) :
    (world.history aggregate)[event.aggregateVersion - 1]? = some event := by
  obtain ⟨before, after, split, version⟩ := history_split member
  rw [← own, split, version, Nat.add_sub_cancel, List.getElem?_append_right le_rfl, Nat.sub_self]
  rfl

/-- The rows of an attempt whose last row is backed. -/
theorem Backed.history {world : World π κ} {event : Envelope π}
    (backed : Backed world event order) (member : event ∈ world.journal.events)
    (last : (world.history event.aggregate).getLast? = some event) :
    ∃ (dispatcher : GuardedDispatcher) (args : DispatchArgs),
      dispatcher.validate args = .ok order ∧ world.history event.aggregate =
        [dispatcher.preparedEvent args order, dispatcher.sendingEvent args order, event] := by
  obtain ⟨dispatcher, args, valid, prepared, sending, own, version⟩ := backed
  have length : (world.history event.aggregate).length = 3 :=
    (Journal.getLast_version last).symm.trans version
  have first := history_at prepared own.symm
  have second := history_at sending own.symm
  have third := history_at member rfl
  rw [version] at third
  obtain ⟨one, two, three, rows⟩ := List.length_eq_three.mp length
  rw [rows] at first second third ⊢
  cases first
  cases second
  cases third
  exact ⟨dispatcher, args, valid, rfl⟩

/-- An exact response that a dispatch journals as the terminal event of its attempt is read
back: the same bytes, status and reason, and `UNKNOWN` exactly for an ambiguous one. -/
theorem exact_response_read_back {contract : Prop} {world : World π κ}
    (reaches : Reaches contract world) {environment accountId attemptId : String}
    {aggregate : Aggregate}
    (named : submissionAttemptAggregateId environment accountId attemptId = .ok aggregate)
    {event : Envelope π} (last : (world.history aggregate).getLast? = some event)
    (response : ExactJsonTransportResponse) {terminal : SubmissionPayload × DispatchOutcome}
    (ended : GuardedDispatcher.terminalOf order response.transport = .ok terminal)
    (journaled : submission? event = some terminal.1) :
    ∃ binding, loadSubmissionResponseBinding world.journal environment accountId attemptId =
        .ok binding ∧
      binding.responseBytes = response.responseBytes ∧
      binding.httpStatus = response.httpStatus ∧
      binding.ambiguityReason = response.ambiguityReason ∧
      (binding.terminalState = .unknown ↔ response.requiresReconciliation = true) := by
  obtain ⟨attempt, normal, present⟩ := submissionAttemptAggregateId_ok named
  obtain ⟨member, own⟩ := mem_history.mp (List.mem_of_getLast? last)
  subst own
  have members := response.terminalMembers_of_terminalOf ended
  have exact : (submission? event).bind exactOrder? = some order := by
    rw [journaled, Option.bind_some, exactOrder?, members]
  obtain ⟨dispatcher, args, valid, rows⟩ :=
    (reaches.sound event member attempt order exact).history member last
  refine ⟨response.binding event.aggregate attemptId (dispatcher.preparedPayload args order)
    event.committedAt, ?_, rfl, rfl, rfl, ?_⟩
  · rw [loadSubmissionResponseBinding, named, ok_bind,
      show world.journal.loadEvents event.aggregate = _ from rows]
    simp only [GuardedDispatcher.preparedEvent, GuardedDispatcher.sendingEvent,
      submission?_attemptEvent, journaled, Option.bind_some, members]
    exact bindRows_exact response (sendable_preparedPayload valid) present normal
  · change response.terminalState = _ ↔ _
    rw [ExactJsonTransportResponse.terminalState]
    split
    · rename_i ambiguous
      exact iff_of_true rfl ambiguous
    · rename_i definitive
      exact iff_of_false (by intro same; cases same) definitive

end Guard

/-! ## An ambiguous response that is no text -/

section Sample

attribute [local instance] CaseMap.ascii ByteFingerprint.tails Carries.self ResponseDecoder.plain

/-- A gateway error with one byte that is not UTF-8. -/
def gatewayError : ExactJsonTransportResponse :=
  ⟨[255], some 503, true, some "gateway_error", by decide, ⟨_, rfl, by decide +kernel⟩, by decide⟩

/-- A call that receives the gateway error after its send barrier. -/
def failedOrder : DispatchArgs :=
  { sampleOrder "first" "broker" "intent" with
    transport := .finalGuard (.outbound (.respond gatewayError.transport)) .raise }

def failedRun : System SampleWorld :=
  (startCall ⟨World.empty, []⟩ sampleOwner 0 failedOrder).play (List.replicate 20 0)

theorem failedRun_reached : Reaches False failedRun.shared := by
  have started : System.Runs (Starts False) Outside ⟨World.empty, []⟩ _ :=
    runs_startCall (⟨World.empty, []⟩ : System SampleWorld) sampleOwner 0 failedOrder False.elim
      (by simp [World.empty])
  exact Reaches.of_runs (started.trans (System.runs_play _ _))

/-- The client order id of the call. -/
def failedClientOrder : String := ((sampleOwner.validate failedOrder).toOption).getD ""

theorem failedRun_last :
    ((failedRun.shared.history (sampleOwner.aggregate "first")).getLast?.bind submission?) =
      some (.unknown failedClientOrder "gateway_error" (some gatewayError.exact)) := by
  decide +kernel

theorem gateway_error_read_back :
    ∃ binding, loadSubmissionResponseBinding failedRun.shared.journal "simulation" "account"
        "first" = .ok binding ∧
      binding.responseBytes = [255] ∧ binding.httpStatus = some 503 ∧
      binding.ambiguityReason = some "gateway_error" ∧
      (binding.terminalState = .unknown ↔ true = true) := by
  obtain ⟨event, last, journaled⟩ := Option.bind_eq_some_iff.mp failedRun_last
  have named : submissionAttemptAggregateId "simulation" "account" "first" =
      .ok (sampleOwner.aggregate "first") := rfl
  exact exact_response_read_back failedRun_reached named last gatewayError rfl journaled

end Sample

end AutoTrade.Dispatch
