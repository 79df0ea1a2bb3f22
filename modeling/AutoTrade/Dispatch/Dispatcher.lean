import AutoTrade.Dispatch.Submission
import AutoTrade.Lib.Program

/-!
# Guarded dispatch

The model of `GuardedDispatcher.dispatch` and `_recover_existing` as programs
whose transactions are the journal transactions of the source.  Other
dispatchers, recoveries and writers run between any two of them.

The shared state is the journal together with a trace.  The trace is no part of
the source: it records when a call starts, which aggregates it found without
rows, when its send barrier committed, its outbound requests and the status it
reports.
-/

namespace AutoTrade.Dispatch

open Lib Store

/-- An observable moment of a dispatch call. -/
inductive Mark where
  | started (call : Nat) (attempt intent : Aggregate)
  /-- The call found no row of an aggregate. -/
  | absent (call : Nat) (aggregate : Aggregate)
  /-- The call's send barrier committed, so its `final_guard` returns. -/
  | barrierPassed (call : Nat) (attempt intent : Aggregate)
  /-- The wrapper of the call performed an outbound request. -/
  | outbound (call : Nat) (attempt : Aggregate)
  /-- The final guard of the call could not append its rejection. -/
  | lostRejection (call : Nat) (attempt : Aggregate)
  | reported (call : Nat) (status : DispatchStatus)
  deriving DecidableEq, Repr

structure World (π κ : Type) where
  journal : Journal π κ
  trace : List Mark

/-- A computation of a dispatcher. -/
abbrev Dispatching (π κ α : Type) : Type := ExceptT DispatchError (Program (World π κ)) α

/-- `_decode_exact_json_bytes` on UTF-8 text: the canonical text of the decoded
value, or none if decoding raises. -/
class ResponseDecoder where
  decodeExactJson : String → Option String

export ResponseDecoder (decodeExactJson)

/-- Texts as their own decoded values, for evaluation. -/
@[reducible] def ResponseDecoder.plain : ResponseDecoder := ⟨some⟩

section Transactions

variable {π κ : Type} [DecidableEq π] [DecidableEq κ]

/-- One read of the journal. -/
def readJournal {α : Type} (view : Journal π κ → α) : Dispatching π κ α :=
  ExceptT.lift (Program.read fun world => view world.journal)

/-- An entry of the trace. -/
def mark (entry : Mark) : Dispatching π κ Unit :=
  ExceptT.lift (Program.atomic fun world => ({ world with trace := world.trace ++ [entry] }, ()))

/-- `load_events`, with an entry of the trace if there are none. -/
def loadFor (call : Nat) (aggregate : Aggregate) : Dispatching π κ (List (Envelope π)) :=
  ExceptT.lift (Program.atomic fun world =>
    let events := world.journal.loadEvents aggregate
    ({ world with
        trace := world.trace ++ if events = [] then [.absent call aggregate] else [] }, events))

/-- The effect of `append_event`; `rejected` is added to the trace if it
raises. -/
def appendTransaction (event : Envelope π) (rejected : List Mark) (world : World π κ) :
    World π κ × Except DispatchError AppendResult :=
  match world.journal.appendEvent event none with
  | .ok (journal, result) => ({ world with journal := journal }, .ok result)
  | .error error =>
      ({ world with trace := world.trace ++ rejected }, .error (.valueError error.message))

/-- `append_event`. -/
def appendEvent (event : Envelope π) (rejected : List Mark) : Dispatching π κ AppendResult :=
  ExceptT.mk (Program.atomic (appendTransaction event rejected))

/-- The effect of `commit_command` at the send barrier. -/
def commitTransaction (args : Journal.CommandArgs π κ) (passed : Mark) (world : World π κ) :
    World π κ × Except DispatchError Unit :=
  match world.journal.commitCommand args with
  | .ok (journal, result) =>
      if result.inserted then (⟨journal, world.trace ++ [passed]⟩, .ok ())
      else (⟨journal, world.trace⟩, .error (.dispatchBlocked "send_barrier_already_committed"))
  | .error error => (world, .error (.valueError error.message))

/-- `commit_command` at the send barrier. -/
def commitCommand (args : Journal.CommandArgs π κ) (passed : Mark) : Dispatching π κ Unit :=
  ExceptT.mk (Program.atomic (commitTransaction args passed))

/-- The result of a computation inside a `try` statement. -/
def observe {α : Type} (computation : Dispatching π κ α) :
    Dispatching π κ (Except DispatchError α) :=
  ExceptT.lift computation.run

end Transactions

section Dispatch

variable {π κ : Type} [DecidableEq π] [DecidableEq κ] [Carries SubmissionEvent π]
  [Carries (SendCommand π) κ] [Fingerprint] [CaseMap] [ResponseDecoder]

namespace GuardedDispatcher

variable (dispatcher : GuardedDispatcher)

/-- `scope_key`. -/
def scopeKey : String := identityDigest [dispatcher.environment.name, dispatcher.accountId]

/-- The aggregate of `_aggregate_id`. -/
def aggregate (attemptId : String) : Aggregate :=
  attemptAggregate dispatcher.environment dispatcher.accountId attemptId

/-- `_event_id`. -/
def eventId (attemptId : String) (eventType : EventType) (version : Nat) : String :=
  uuid5 ("dispatch-event:" ++
    identityDigest [dispatcher.scopeKey, attemptId, eventType.name, toString version])

/-- `_envelope` with the outbox topic of its row. -/
def envelope (aggregate : Aggregate) (attemptId : String) (version : Nat)
    (payload : SubmissionPayload) (now : Instant) (topic : String) : Envelope π where
  eventId := dispatcher.eventId attemptId payload.eventType version
  aggregate := aggregate
  aggregateVersion := version
  committedAt := now
  body := Carries.embed (β := SubmissionEvent)
    { environment := dispatcher.environment
      ownerEpoch := dispatcher.ownerEpoch
      correlationId := uuid5 ("dispatch-correlation:" ++
        identityDigest [dispatcher.scopeKey, attemptId])
      payload := payload }
  outboxTopic := some topic

/-- The row of one event of an attempt. -/
def attemptEvent (attemptId : String) (version : Nat) (payload : SubmissionPayload)
    (now : Instant) : Envelope π :=
  dispatcher.envelope (dispatcher.aggregate attemptId) attemptId version payload now
    "autotrade.submission.events"

/-- `_events`. -/
def events (attemptId : String) : Dispatching π κ (List (Envelope π)) :=
  readJournal fun journal => journal.loadEvents (dispatcher.aggregate attemptId)

/-- `_append` without a journal cut. -/
def append (attemptId : String) (version : Nat) (payload : SubmissionPayload) (now : Instant)
    (rejected : List Mark) : Dispatching π κ AppendResult :=
  appendEvent (dispatcher.attemptEvent attemptId version payload now) rejected

end GuardedDispatcher

/-- `_outcome_from_terminal` of an exact `SubmissionSent` response. -/
def exactOutcome (response : ExactResponse) (clientOrderId : String) : DispatchOutcome :=
  if response.responseEncoding ≠ .utf8Json then
    ⟨.unknown, clientOrderId, none, "exact_response_invalid"⟩
  else if response.responseText = "" then
    ⟨.unknown, clientOrderId, none, "exact_response_unavailable"⟩
  else if "sha256:" ++ sha256 response.responseText ≠ response.responseSha256 then
    ⟨.unknown, clientOrderId, none, "exact_response_invalid"⟩
  else
    match decodeExactJson response.responseText with
    | none => ⟨.unknown, clientOrderId, none, "exact_response_invalid"⟩
    | some value => ⟨.sent, clientOrderId, some value, "sent_confirmed"⟩

/-- `_outcome_from_terminal`; none if the event is not terminal. -/
def outcomeFromTerminal? (payload : Option SubmissionPayload) (clientOrderId : String) :
    Option DispatchOutcome :=
  match payload with
  | some (.sent _ (.exact response)) => some (exactOutcome response clientOrderId)
  | some (.sent _ (.mirror value)) =>
      some ⟨.sent, clientOrderId, some value, "sent_confirmed"⟩
  | some (.blocked _ reason _) => some ⟨.blocked, clientOrderId, none, reason⟩
  | some (.unknown _ reason _) => some ⟨.unknown, clientOrderId, none, reason⟩
  | _ => none

/-- `_outcome_from_terminal(events[-1])`. -/
def outcomeOfLast (events : List (Envelope π)) (clientOrderId : String) :
    Dispatching π κ DispatchOutcome :=
  match events.getLast? with
  | none => throw (.other "IndexError")
  | some last =>
      match outcomeFromTerminal? (submission? last) clientOrderId with
      | none => throw (.valueError "event is not terminal")
      | some outcome => pure outcome

namespace GuardedDispatcher

variable (dispatcher : GuardedDispatcher)

/-- An append of `_recover_existing` that may lose its version to another
owner: the loser converges on the durable result. -/
def converge (attemptId clientOrderId : String) (version : Nat) (payload : SubmissionPayload)
    (now : Instant) (sending : DispatchError → Dispatching π κ DispatchOutcome) :
    Dispatching π κ DispatchOutcome := do
  let appended ← observe (dispatcher.append attemptId version payload now [])
  let current ← dispatcher.events attemptId
  match appended with
  | .ok _ => outcomeOfLast current clientOrderId
  | .error error =>
      match current.getLast? with
      | none => throw (.runtimeError "submission attempt disappeared")
      | some last =>
          match outcomeFromTerminal? (submission? last) clientOrderId, submission? last with
          | some outcome, _ => pure outcome
          | none, some (.sending ..) => sending error
          | none, _ => throw error

/-- `_recover_existing`.  `depth` is the remaining recursion depth of the
interpreter. -/
def recoverExisting (attemptId clientOrderId : String) (now : Instant) :
    (depth : Nat) → Dispatching π κ DispatchOutcome
  | 0 => throw (.runtimeError "maximum recursion depth exceeded")
  | depth + 1 => do
      let events ← dispatcher.events attemptId
      match events.getLast? with
      | none => throw (.runtimeError "submission attempt disappeared")
      | some last =>
          match outcomeFromTerminal? (submission? last) clientOrderId, submission? last with
          | some outcome, _ => pure outcome
          | none, some (.sending ..) =>
              dispatcher.converge attemptId clientOrderId (last.aggregateVersion + 1)
                (.unknown clientOrderId "recovered_after_send_barrier_without_terminal_result"
                  none)
                (max last.committedAt now) throw
          | none, some (.prepared payload) =>
              match preparedLeaseState payload.preparedAt now dispatcher.preparedLeaseSeconds with
              | .before =>
                  pure ⟨.inProgress, clientOrderId, none, "clock_before_prepared_timestamp"⟩
              | .active =>
                  pure ⟨.inProgress, clientOrderId, none, "prepared_owner_lease_active"⟩
              | .expired =>
                  dispatcher.converge attemptId clientOrderId (last.aggregateVersion + 1)
                    (.blocked clientOrderId "prepared_owner_lease_expired_before_send" none) now
                    fun _ => recoverExisting attemptId clientOrderId now depth
          | none, _ => throw (.runtimeError "unsupported submission attempt state")

/-- The recursion depth of the interpreter. -/
def recursionLimit : Nat := 1000

end GuardedDispatcher

/-- A pure step of a dispatcher. -/
def ofExcept {α : Type} (result : Except DispatchError α) : Dispatching π κ α :=
  ExceptT.mk (pure result)

/-! ## The final send guard -/

namespace DispatchArgs

variable (args : DispatchArgs)

def requestHash : String := "sha256:" ++ sha256 args.request

def submissionScopeHash : String := "sha256:" ++ sha256 args.submissionScope

/-- `barrier_now` after the guard was called. -/
def barrierNow : Instant :=
  match args.barrierClock with
  | some (.ok time) => if time < args.now then args.now else time
  | _ => args.now

/-- The rejection by the final barrier clock. -/
def clockRejection : Option String :=
  match args.barrierClock with
  | some (.error typeName) => some ("final_barrier_clock_failed:" ++ typeName)
  | some (.ok time) =>
      if time < args.now then some "final_barrier_clock_moved_backwards" else none
  | none => none

/-- The rejection by the sender takeover gate, which guards PAPER and LIVE. -/
def gateRejection (environment : Environment) : Option String :=
  match environment.guarded, args.senderGate with
  | true, .error typeName => some ("sender_authority_gate_failed:" ++ typeName)
  | _, _ => none

/-- The rejection by the sender fence. -/
def fenceRejection (environment : Environment) : Option String :=
  match args.senderCheck with
  | none => if environment.guarded then some "sender_fence_required" else none
  | some (.error typeName) => some ("sender_fence_rejected:" ++ typeName)
  | some (.ok ()) => none

/-- The rejection by the authority check at the barrier. -/
def authorityRejection : Option String :=
  match args.barrierAuthority with
  | .raised typeName => some ("authority_check_failed_at_final_barrier:" ++ typeName)
  | answer => if answer.validated.1 then none else some answer.validated.2

end DispatchArgs

namespace GuardedDispatcher

variable (dispatcher : GuardedDispatcher) (call : Nat) (args : DispatchArgs)
  (clientOrderId : String)

/-- The intent of a call. -/
def intent : IntentKey :=
  intentKey args.provider dispatcher.environment dispatcher.accountId args.intentId

/-- `owner_token` and `owner_epoch`. -/
def owner : String × Nat := (dispatcher.ownerToken, dispatcher.ownerEpoch)

def preparedPayload : PreparedPayload where
  attemptId := args.attemptId
  intentId := args.intentId
  intentHash := args.intentHash
  provider := args.provider
  requestHash := args.requestHash
  clientOrderId := clientOrderId
  environment := dispatcher.environment
  accountId := dispatcher.accountId
  ownerToken := dispatcher.ownerToken
  ownerEpoch := dispatcher.ownerEpoch
  preparedAt := args.now
  submissionScope := args.submissionScope
  submissionScopeHash := args.submissionScopeHash

/-- The row of `SubmissionPrepared`. -/
def preparedEvent : Envelope π :=
  dispatcher.attemptEvent args.attemptId 1
    (.prepared (dispatcher.preparedPayload args clientOrderId)) args.now

/-- The row of `SubmissionIntentBound`. -/
def bindingEvent : Envelope π :=
  dispatcher.envelope (dispatcher.intent args).aggregate args.attemptId 1
    (.intentBound
      { attemptId := args.attemptId
        provider := args.provider
        environment := dispatcher.environment
        accountId := dispatcher.accountId
        intentId := args.intentId
        intentHash := args.intentHash
        requestHash := args.requestHash
        clientOrderId := clientOrderId
        submissionScopeHash := args.submissionScopeHash
        boundAt := args.barrierNow })
    args.barrierNow "autotrade.submission.intent.events"

/-- The row of `SubmissionSending`. -/
def sendingEvent : Envelope π :=
  dispatcher.attemptEvent args.attemptId 2
    (.sending clientOrderId dispatcher.ownerToken dispatcher.ownerEpoch
      "final_send_barrier_passed")
    args.barrierNow

/-- The command that commits the send and the intent binding together. -/
def sendCommand (journalSequence : Nat) : Journal.CommandArgs π κ :=
  let event : Envelope π := dispatcher.sendingEvent args clientOrderId
  { commandId := event.eventId
    actor := "dispatcher:" ++ dispatcher.scopeKey
    environment := dispatcher.environment.name
    idempotencyKey := "send-barrier:" ++ event.eventId
    request := Carries.embed (SendCommand.request event journalSequence)
    result := Carries.embed (SendCommand.result (π := π) event.eventId)
    stateVersion := journalSequence
    events := [event, dispatcher.bindingEvent args clientOrderId]
    expectedJournalSequence := some journalSequence }

/-- The lost append of a rejection. -/
def lostMark : Mark := .lostRejection call (dispatcher.aggregate args.attemptId)

/-- A rejection at the barrier is journaled before it is raised. -/
def reject (reason : String) (owner : Option (String × Nat)) : Dispatching π κ Unit := do
  let _ ← dispatcher.append args.attemptId 2 (.blocked clientOrderId reason owner)
    args.barrierNow [dispatcher.lostMark call args]
  throw (.dispatchBlocked reason)

def rejectIf (rejection : Option String) (owner : Option (String × Nat)) :
    Dispatching π κ Unit :=
  match rejection with
  | none => pure ()
  | some reason => dispatcher.reject call args clientOrderId reason owner

/-- A lease rejection; the append may lose to another owner. -/
def rejectLease (reason : String) (now : Instant) : Dispatching π κ Unit := do
  let _ ← observe (dispatcher.append args.attemptId 2
    (.blocked clientOrderId reason (some dispatcher.owner)) now [])
  throw (.dispatchBlocked reason)

/-- The check of the durable attempt and its lease before the send. -/
def checkLease (durable : List (Envelope π)) : Dispatching π κ Unit :=
  if durable.getLast?.bind eventType? ≠ some .submissionPrepared then
    throw (.dispatchBlocked "submission_changed_during_final_send_validation")
  else
    match durable.head?.bind submission? with
    | some (.prepared payload) =>
        match preparedLeaseState payload.preparedAt args.barrierNow
          dispatcher.preparedLeaseSeconds with
        | .active => pure ()
        | .expired =>
            dispatcher.rejectLease args clientOrderId "prepared_owner_lease_expired_before_send"
              args.barrierNow
        | .before =>
            dispatcher.rejectLease args clientOrderId "final_barrier_clock_moved_before_prepared"
              args.now
    | _ => throw (.dispatchBlocked "submission_prepared_chronology_invalid")

/-- The send barrier: one transaction for the send and the intent binding. -/
def sendBarrier (journalSequence : Nat) : Dispatching π κ Unit := do
  let committed ← observe (commitCommand
    (dispatcher.sendCommand args clientOrderId journalSequence)
    (.barrierPassed call (dispatcher.aggregate args.attemptId) (dispatcher.intent args).aggregate))
  match committed with
  | .ok () => pure ()
  | .error (.valueError _) => do
      let latest ← dispatcher.events args.attemptId
      if latest.getLast?.bind eventType? = some .submissionPrepared then
        dispatcher.reject call args clientOrderId "journal_changed_during_final_send_validation"
          none
      else throw (.dispatchBlocked "journal_changed_during_final_send_validation")
  | .error error => throw error

/-- `final_guard` on its first call. -/
def finalGuard : Dispatching π κ Unit := do
  dispatcher.rejectIf call args clientOrderId args.clockRejection none
  dispatcher.rejectIf call args clientOrderId (args.gateRejection dispatcher.environment) none
  let journalSequence ← readJournal Journal.currentJournalSequence
  dispatcher.rejectIf call args clientOrderId (args.fenceRejection dispatcher.environment)
    (some dispatcher.owner)
  dispatcher.rejectIf call args clientOrderId args.authorityRejection none
  let durable ← dispatcher.events args.attemptId
  dispatcher.checkLease args clientOrderId durable
  dispatcher.sendBarrier call args clientOrderId journalSequence

/-! ## The provider wrapper -/

/-- `guard_called` and `barrier_passed`. -/
inductive GuardState where
  | uncalled
  | rejected
  | passed
  deriving DecidableEq, Repr

/-- `transport_send` with its `final_guard`. -/
def transportSend : Wrapper → GuardState →
    Dispatching π κ (Except DispatchError TransportResponse × GuardState)
  | .finalGuard returned raised, .uncalled => do
      let guarded ← observe (dispatcher.finalGuard call args clientOrderId)
      match guarded with
      | .ok () => transportSend returned .passed
      | .error error => transportSend (raised error) .rejected
  | .finalGuard _ raised, state =>
      transportSend (raised (.runtimeError "final send guard may be consumed only once")) state
  | .outbound next, state => do
      mark (.outbound call (dispatcher.aggregate args.attemptId))
      transportSend next state
  | .respond response, state => pure (.ok response, state)
  | .raise error, state => pure (.error error, state)

/-- `barrier_now` once the wrapper has ended. -/
def resolvedNow : GuardState → Instant
  | .uncalled => args.now
  | .rejected | .passed => args.barrierNow

/-- A wrapper that raised `DispatchBlocked`. -/
def afterBlocked (reason : String) : Dispatching π κ DispatchOutcome := do
  let events ← dispatcher.events args.attemptId
  let last := events.getLast?.bind submission?
  match outcomeFromTerminal? last clientOrderId, last with
  | some outcome, _ => pure outcome
  | none, some (.sending ..) =>
      pure ⟨.unknown, clientOrderId, none, "concurrent_send_barrier_already_committed"⟩
  | none, _ => pure ⟨.blocked, clientOrderId, none, reason⟩

/-- The append of `SubmissionUnknown` after the last durable event, when the
wrapper hid a rejected guard. -/
def expose (last : Envelope π) (reason : String) : Dispatching π κ DispatchOutcome := do
  let _ ← dispatcher.append args.attemptId (last.aggregateVersion + 1)
    (.unknown clientOrderId reason none) args.barrierNow []
  pure ⟨.unknown, clientOrderId, none, "provider_guard_contract_violation"⟩

/-- A wrapper that raised any other exception. -/
def afterFailure (error : DispatchError) (state : GuardState) :
    Dispatching π κ DispatchOutcome := do
  let events ← dispatcher.events args.attemptId
  match events.getLast? with
  | none => throw (.other "IndexError")
  | some last =>
      match submission? last, state with
      | some (.sending ..), state => do
          let _ ← dispatcher.append args.attemptId 3
            (.unknown clientOrderId
              ("transport_exception_after_send_barrier:" ++ error.typeName) none)
            (resolvedNow args state) []
          pure ⟨.unknown, clientOrderId, none, "transport_result_ambiguous"⟩
      | _, .uncalled => do
          let _ ← dispatcher.append args.attemptId 2
            (.blocked clientOrderId
              ("transport_failed_before_final_guard:" ++ error.typeName) none)
            args.now []
          pure ⟨.blocked, clientOrderId, none, "transport_failed_before_send"⟩
      | _, .rejected =>
          dispatcher.expose args clientOrderId last
            ("provider_wrapper_masked_final_guard_failure:" ++ error.typeName)
      | _, .passed => throw error

/-- A wrapper that returned without calling the guard. -/
def afterUnguarded : Dispatching π κ DispatchOutcome := do
  let _ ← dispatcher.append args.attemptId 2
    (.unknown clientOrderId "provider_wrapper_returned_without_final_guard" none) args.now []
  pure ⟨.unknown, clientOrderId, none, "provider_guard_contract_violation"⟩

/-- A wrapper that swallowed a rejected guard. -/
def afterSwallowed : Dispatching π κ DispatchOutcome := do
  let events ← dispatcher.events args.attemptId
  match events.getLast? with
  | none => throw (.other "IndexError")
  | some last =>
      dispatcher.expose args clientOrderId last "provider_wrapper_swallowed_final_guard_failure"

/-- The terminal event and the outcome of a response after the barrier. -/
def terminalOf (response : TransportResponse) :
    Except DispatchError (SubmissionPayload × DispatchOutcome) :=
  match response with
  | .exact response requiresReconciliation ambiguityReason =>
      let reason := ambiguityReason.getD "provider_response_ambiguous"
      if requiresReconciliation then
        .ok (.unknown clientOrderId reason (some response),
          ⟨.unknown, clientOrderId, none, reason⟩)
      else if response.responseEncoding = .utf8Json then
        match decodeExactJson response.responseText with
        | none => .error (.valueError "provider response must be exact UTF-8 JSON bytes")
        | some value => .ok (.sent clientOrderId (.exact response),
            ⟨.sent, clientOrderId, some value, "sent_confirmed"⟩)
      else .ok (.sent clientOrderId (.exact response),
        ⟨.sent, clientOrderId, none, "sent_confirmed"⟩)
  | .tampered => .error (.valueError "exact transport response authority is unavailable")
  | .subtype => .error (.typeError "exact provider response subtype is forbidden")
  | .plain none => .error (.typeError "Object is not JSON serializable")
  | .plain (some value) => .ok (.sent clientOrderId (.mirror value),
      ⟨.sent, clientOrderId, some value, "sent_confirmed"⟩)

/-- A wrapper that returned after the barrier passed. -/
def afterSend (response : TransportResponse) : Dispatching π κ DispatchOutcome := do
  let journaled ← observe (do
    let terminal ← ofExcept (terminalOf clientOrderId response)
    let _ ← dispatcher.append args.attemptId 3 terminal.1 args.barrierNow []
    pure terminal.2)
  match journaled with
  | .ok outcome => pure outcome
  | .error persistenceError => do
      let recorded ← observe (dispatcher.append args.attemptId 3
        (.unknown clientOrderId
          ("sent_response_persistence_failed:" ++ persistenceError.typeName) none)
        args.barrierNow [])
      match recorded with
      | .ok _ => pure ⟨.unknown, clientOrderId, none, "sent_response_persistence_failed"⟩
      | .error _ => throw persistenceError

/-- The transport call of `dispatch` and what follows it. -/
def transmit : Dispatching π κ DispatchOutcome := do
  let ended ← dispatcher.transportSend call args clientOrderId args.transport .uncalled
  match ended with
  | (.error (.dispatchBlocked reason), _) => dispatcher.afterBlocked args clientOrderId reason
  | (.error error, state) => dispatcher.afterFailure args clientOrderId error state
  | (.ok _, .uncalled) => dispatcher.afterUnguarded args clientOrderId
  | (.ok _, .rejected) => dispatcher.afterSwallowed args clientOrderId
  | (.ok response, .passed) => dispatcher.afterSend args clientOrderId response

/-! ## Dispatch -/

/-- A rejection by the authority before the transport call. -/
def blockEarly (stored reported : String) : Dispatching π κ DispatchOutcome := do
  let _ ← dispatcher.append args.attemptId 2 (.blocked clientOrderId stored none) args.now []
  pure ⟨.blocked, clientOrderId, none, reported⟩

/-- The first authority check, on a prepared attempt. -/
def authorize : Dispatching π κ DispatchOutcome :=
  match args.authority with
  | .raised typeName =>
      dispatcher.blockEarly args clientOrderId
        ("authority_check_failed_before_send:" ++ typeName) "authority_check_failed_before_send"
  | answer =>
      if answer.validated.1 then dispatcher.transmit call args clientOrderId
      else dispatcher.blockEarly args clientOrderId answer.validated.2 answer.validated.2

/-- The content that a historical attempt and a call share for one intent. -/
def sameContent (payload : PreparedPayload) : Bool :=
  payload.intentId = args.intentId ∧ payload.intentHash = args.intentHash ∧
    payload.provider = args.provider ∧ payload.requestHash = args.requestHash ∧
    payload.clientOrderId = clientOrderId ∧ payload.environment = dispatcher.environment ∧
    payload.accountId = dispatcher.accountId ∧
    payload.submissionScopeHash = args.submissionScopeHash

/-- The content that an intent binding and a call share. -/
def sameBinding (payload : BindingPayload) : Bool :=
  payload.provider = args.provider ∧ payload.environment = dispatcher.environment ∧
    payload.accountId = dispatcher.accountId ∧ payload.intentId = args.intentId ∧
    payload.intentHash = args.intentHash ∧ payload.requestHash = args.requestHash ∧
    payload.clientOrderId = clientOrderId ∧
    payload.submissionScopeHash = args.submissionScopeHash

/-- One attempt in `_legacy_submission_intent_attempt`. -/
def legacyCandidate (events : List (Envelope π)) : Except DispatchError (Option String) :=
  match events.head?.bind submission? with
  | some (.prepared payload) =>
      if lower (strip payload.provider) ≠ lower (strip args.provider) ∨
          payload.environment ≠ dispatcher.environment ∨
          payload.accountId ≠ dispatcher.accountId ∨ payload.intentId ≠ args.intentId then
        .ok none
      else if dispatcher.sameContent args clientOrderId payload = false then
        .error (.valueError "intent_id conflicts with historical submission content")
      else if payload.attemptId = "" then
        .error (.runtimeError "historical submission attempt identity is invalid")
      else
        match events.getLast?.bind eventType? with
        | some .submissionBlocked => .ok none
        | some .submissionPrepared | some .submissionSending | some .submissionSent
        | some .submissionUnknown => .ok (some payload.attemptId)
        | _ => .error (.runtimeError
            "historical submission attempt has unsupported terminal state")
  | _ => .error (.runtimeError "durable submission attempt does not start prepared")

/-- `_legacy_submission_intent_attempt`. -/
def legacyAttempt (journal : Journal π κ) : Except DispatchError (Option String) := do
  let rows := journal.loadEventsByAggregateType "submission_attempt"
  let aggregates := (rows.map Envelope.aggregate).eraseDups
  let candidates ← aggregates.mapM fun aggregate =>
    dispatcher.legacyCandidate args clientOrderId (eventsOf rows aggregate)
  let unique := (candidates.filterMap id).eraseDups
  if 1 < unique.length then
    throw (.runtimeError
      "multiple durable non-blocked submission attempts exist for one economic intent")
  else pure unique.head?

/-- A call whose intent already has a durable binding. -/
def afterBound (intentEvents : List (Envelope π)) : Dispatching π κ DispatchOutcome :=
  match intentEvents.map submission? with
  | [some (.intentBound payload)] =>
      if dispatcher.sameBinding args clientOrderId payload = false then
        throw (.valueError "intent_id conflicts with existing submission content")
      else if payload.attemptId = "" then
        throw (.runtimeError "durable submission intent owner is invalid")
      else do
        let canonical ← dispatcher.events payload.attemptId
        match canonical.getLast? with
        | none => throw (.runtimeError "submission intent binding lost its canonical attempt")
        | some last =>
            match submission? last with
            | some (.sending ..) =>
                pure ⟨.unknown, clientOrderId, none, "intent_send_already_committed"⟩
            | some (.sent ..) | some (.unknown ..) => outcomeOfLast canonical clientOrderId
            | _ =>
                throw (.runtimeError
                  "submission intent binding has no irreversible send evidence")
  | _ => throw (.runtimeError "durable submission intent binding is invalid")

/-- A call that found no row of its attempt and no row of its intent. -/
def prepare : Dispatching π κ DispatchOutcome := do
  let legacy ← readJournal fun journal => dispatcher.legacyAttempt args clientOrderId journal
  let legacyAttemptId ← ofExcept legacy
  match legacyAttemptId with
  | some attemptId =>
      dispatcher.recoverExisting attemptId clientOrderId args.now recursionLimit
  | none => do
      let prepared ← appendEvent (dispatcher.preparedEvent args clientOrderId) []
      if prepared.inserted then dispatcher.authorize call args clientOrderId
      else dispatcher.recoverExisting args.attemptId clientOrderId args.now recursionLimit

/-- The checks of the identifiers of a call. -/
def validate : Except DispatchError String :=
  match [(args.attemptId, "attempt_id"), (args.intentId, "intent_id"),
    (args.intentHash, "intent_hash"), (args.provider, "provider")].find? fun field =>
      strip field.1 = "" with
  | some field => .error (.valueError s!"{field.2} is required")
  | none => stableClientOrderId (dispatcher.intent args) args.clientIdMaxLength args.clientIdFormat

/-- The content that the first row of an attempt and a call share. -/
def sameAttempt (payload : PreparedPayload) : Bool :=
  payload.attemptId = args.attemptId ∧ dispatcher.sameContent args clientOrderId payload

/-- `dispatch`. -/
def dispatch : Dispatching π κ DispatchOutcome := do
  let clientOrderId ← ofExcept (dispatcher.validate args)
  let existing ← loadFor call (dispatcher.aggregate args.attemptId)
  match existing with
  | first :: _ =>
      match submission? first with
      | some (.prepared payload) =>
          if dispatcher.sameAttempt args clientOrderId payload then
            dispatcher.recoverExisting args.attemptId clientOrderId args.now recursionLimit
          else throw (.valueError "attempt_id conflicts with existing submission content")
      | _ => throw (.valueError "attempt_id conflicts with existing submission content")
  | [] => do
      let intentEvents ← loadFor call (dispatcher.intent args).aggregate
      if intentEvents = [] then dispatcher.prepare call args clientOrderId
      else dispatcher.afterBound args clientOrderId intentEvents

/-- A call of `dispatch` as a program; a returned outcome is reported. -/
def launch : Program (World π κ) Unit := do
  let result ← (dispatcher.dispatch call args).run
  match result with
  | .ok outcome =>
      Program.atomic fun world =>
        ({ world with trace := world.trace ++ [.reported call outcome.status] }, ())
  | .error _ => pure ()

end GuardedDispatcher

end Dispatch

end AutoTrade.Dispatch
