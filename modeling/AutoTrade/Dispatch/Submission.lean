import AutoTrade.Lib.Fingerprint
import AutoTrade.Lib.Text
import AutoTrade.Store.Journal

/-!
# Submission attempts

The data of `dispatch.py`: durable submission events, their identities, the
dispatcher and the arguments of one `dispatch` call.
-/

namespace AutoTrade.Dispatch

open Lib Store

inductive Environment where
  | replay
  | simulation
  | paper
  | live
  deriving DecidableEq, Repr

namespace Environment

/-- The canonical text of an environment. -/
def name : Environment → String
  | replay => "REPLAY"
  | simulation => "SIMULATION"
  | paper => "PAPER"
  | live => "LIVE"

/-- `environment.strip().upper()` and the membership test. -/
def ofText [CaseMap] (text : String) : Option Environment :=
  let normalized := upper (strip text)
  [replay, simulation, paper, live].find? fun environment => environment.name = normalized

/-- Membership in `{"PAPER", "LIVE"}`. -/
def guarded : Environment → Bool
  | paper | live => true
  | replay | simulation => false

end Environment

/-- The exceptions a dispatch call or a provider wrapper raises. -/
inductive DispatchError where
  | valueError (message : String)
  | typeError (message : String)
  | runtimeError (message : String)
  | dispatchBlocked (reason : String)
  | other (typeName : String)
  deriving DecidableEq, Repr

/-- `type(error).__name__`. -/
def DispatchError.typeName : DispatchError → String
  | valueError _ => "ValueError"
  | typeError _ => "TypeError"
  | runtimeError _ => "RuntimeError"
  | dispatchBlocked _ => "DispatchBlocked"
  | other typeName => typeName

/-! ## Durable events -/

structure PreparedPayload where
  attemptId : String
  intentId : String
  intentHash : String
  provider : String
  requestHash : String
  clientOrderId : String
  environment : Environment
  accountId : String
  ownerToken : String
  ownerEpoch : Nat
  preparedAt : Instant
  submissionScope : String
  submissionScopeHash : String
  deriving DecidableEq, Repr

/-- The payload of `SubmissionIntentBound`. -/
structure BindingPayload where
  attemptId : String
  provider : String
  environment : Environment
  accountId : String
  intentId : String
  intentHash : String
  requestHash : String
  clientOrderId : String
  submissionScopeHash : String
  boundAt : Instant
  deriving DecidableEq, Repr

inductive ResponseEncoding where
  | utf8Json
  | hex
  | utf8Opaque
  deriving DecidableEq, Repr

/-- The exact response bytes of a provider as they are journaled. -/
structure ExactResponse where
  responseText : String
  responseSha256 : String
  responseEncoding : ResponseEncoding
  httpStatus : Option Nat
  deriving DecidableEq, Repr

/-- The response of a `SubmissionSent` event: exact bytes, or the mirror of a
plain JSON value by its canonical text. -/
inductive SentResponse where
  | exact (response : ExactResponse)
  | mirror (value : String)
  deriving DecidableEq, Repr

/-- The event types of a submission with their payloads. -/
inductive SubmissionPayload where
  | prepared (payload : PreparedPayload)
  | blocked (clientOrderId reason : String) (owner : Option (String × Nat))
  | sending (clientOrderId ownerToken : String) (ownerEpoch : Nat) (reason : String)
  | sent (clientOrderId : String) (response : SentResponse)
  | unknown (clientOrderId reason : String) (evidence : Option ExactResponse)
  | intentBound (payload : BindingPayload)
  deriving DecidableEq, Repr

inductive EventType where
  | submissionPrepared
  | submissionBlocked
  | submissionSending
  | submissionSent
  | submissionUnknown
  | submissionIntentBound
  deriving DecidableEq, Repr

def EventType.name : EventType → String
  | submissionPrepared => "SubmissionPrepared"
  | submissionBlocked => "SubmissionBlocked"
  | submissionSending => "SubmissionSending"
  | submissionSent => "SubmissionSent"
  | submissionUnknown => "SubmissionUnknown"
  | submissionIntentBound => "SubmissionIntentBound"

def SubmissionPayload.eventType : SubmissionPayload → EventType
  | prepared _ => .submissionPrepared
  | blocked .. => .submissionBlocked
  | sending .. => .submissionSending
  | sent .. => .submissionSent
  | unknown .. => .submissionUnknown
  | intentBound _ => .submissionIntentBound

/-- The body of a submission envelope. -/
structure SubmissionEvent where
  environment : Environment
  ownerEpoch : Nat
  correlationId : String
  payload : SubmissionPayload
  deriving DecidableEq, Repr

/-- What a dispatcher hands to `commit_command`: its request and its result. -/
inductive SendCommand (π : Type) where
  | request (event : Envelope π) (journalSequence : Nat)
  | result (eventId : String)
  deriving DecidableEq, Repr

section Reading

variable {π : Type} [Carries SubmissionEvent π]

/-- The submission payload of a row, if the row carries one. -/
def submission? (event : Envelope π) : Option SubmissionPayload :=
  (Carries.view (β := SubmissionEvent) event.body).map SubmissionEvent.payload

/-- `event["event_type"]` of a submission row. -/
def eventType? (event : Envelope π) : Option EventType :=
  (submission? event).map SubmissionPayload.eventType

end Reading

/-! ## Identities -/

section Identities

variable [Fingerprint] [CaseMap]

/-- `submission_attempt_aggregate_id` of a normalized scope. -/
def attemptAggregate (environment : Environment) (accountId attemptId : String) : Aggregate where
  aggregateType := "submission_attempt"
  aggregateId := "submission-attempt:" ++
    identityDigest [environment.name, strip accountId, strip attemptId]

/-- The economic intent that a submission carries. -/
structure IntentKey where
  provider : String
  environment : Environment
  accountId : String
  intentId : String
  deriving DecidableEq, Repr

/-- The intent of raw identifiers, up to provider case and surrounding white
space. -/
def intentKey (provider : String) (environment : Environment) (accountId intentId : String) :
    IntentKey where
  provider := lower (strip provider)
  environment := environment
  accountId := strip accountId
  intentId := strip intentId

/-- The digest of an intent. -/
def IntentKey.digest (key : IntentKey) : String :=
  identityDigest [key.provider, key.environment.name, key.accountId, key.intentId]

/-- `submission_intent_aggregate_id`. -/
def IntentKey.aggregate (key : IntentKey) : Aggregate where
  aggregateType := "submission_intent"
  aggregateId := "submission-intent:" ++ key.digest

/-- The intent that a prepared attempt carries. -/
def PreparedPayload.intent (payload : PreparedPayload) : IntentKey :=
  intentKey payload.provider payload.environment payload.accountId payload.intentId

/-- `stable_client_order_id` for validated identifiers. -/
def stableClientOrderId (key : IntentKey) (maxLength : Int) (clientIdFormat : String) :
    Except DispatchError String :=
  let format := upper (strip clientIdFormat)
  if format = "UUID" then
    if maxLength < 36 then
      .error (.valueError "UUID client-order identity requires max_length of at least 36")
    else .ok (uuid5 ("client-order:" ++ key.digest))
  else if format = "TOKEN" then
    if maxLength < 20 then
      .error (.valueError
        "max_length must be an integer of at least 20 to preserve client-order identity entropy")
    else .ok (String.ofList (("at-" ++ key.digest).toList.take maxLength.toNat))
  else .error (.valueError "client_id_format must be TOKEN or UUID")

end Identities

/-! ## Dispatchers and calls -/

inductive LeaseState where
  | before
  | active
  | expired
  deriving DecidableEq, Repr

/-- `_prepared_lease_state`. -/
def preparedLeaseState (preparedAt now : Instant) (leaseSeconds : Nat) : LeaseState :=
  let elapsed := now.microseconds - preparedAt.microseconds
  if elapsed < 0 then .before
  else if elapsed < leaseSeconds * 1000000 then .active
  else .expired

/-- A `GuardedDispatcher` on a store. -/
structure GuardedDispatcher where
  environment : Environment
  accountId : String
  ownerToken : String
  ownerEpoch : Nat
  preparedLeaseSeconds : Nat
  account_normal : Normal accountId
  epoch_positive : 0 < ownerEpoch
  lease_positive : 0 < preparedLeaseSeconds

/-- What an `authority_check` callback does. -/
inductive AuthorityAnswer where
  | raised (typeName : String)
  /-- The result is not a pair. -/
  | malformed
  /-- The first component is not a boolean. -/
  | untypedDecision
  /-- The second component is not text. -/
  | untypedReason
  | decision (allowed : Bool) (reason : String)
  deriving DecidableEq, Repr

/-- `_validated_authority_result`. -/
def AuthorityAnswer.validated : AuthorityAnswer → Bool × String
  | raised _ | malformed => (false, "authority_check_invalid_result")
  | untypedDecision => (false, "authority_check_invalid_allowed")
  | untypedReason => (false, "authority_check_invalid_reason")
  | decision allowed reason =>
      if strip reason = "" then (false, "authority_check_invalid_reason")
      else (allowed, strip reason)

/-- What `transport_send` returns. -/
inductive TransportResponse where
  | exact (response : ExactResponse) (requiresReconciliation : Bool)
      (ambiguityReason : Option String)
  /-- An exact response whose issued state was changed. -/
  | tampered
  /-- An instance of a subclass of the exact response type. -/
  | subtype
  /-- Any other value by its canonical JSON text, if it has one. -/
  | plain (value : Option String)
  deriving DecidableEq, Repr

/-- A provider wrapper: what it does with `final_guard`, when it performs an
outbound request, and how it ends. -/
inductive Wrapper where
  | finalGuard (returned : Wrapper) (raised : DispatchError → Wrapper)
  | outbound (next : Wrapper)
  | respond (response : TransportResponse)
  | raise (error : DispatchError)

/-- The arguments of `dispatch` with the answers of its callbacks.  `request` and
`submissionScope` are canonical JSON texts. -/
structure DispatchArgs where
  attemptId : String
  intentId : String
  intentHash : String
  provider : String
  request : String
  submissionScope : String
  now : Instant
  clientIdMaxLength : Int
  clientIdFormat : String
  authority : AuthorityAnswer
  barrierAuthority : AuthorityAnswer
  barrierClock : Option (Except String Instant)
  senderGate : Except String Unit
  senderCheck : Option (Except String Unit)
  transport : Wrapper

inductive DispatchStatus where
  | sent
  | blocked
  | unknown
  | inProgress
  deriving DecidableEq, Repr

structure DispatchOutcome where
  status : DispatchStatus
  clientOrderId : String
  response : Option String
  reason : String
  deriving DecidableEq, Repr

end AutoTrade.Dispatch
