import AutoTrade.Dispatch.Submission
import AutoTrade.Lib.Dict
import AutoTrade.Recovery.ClockIncident

/-!
# Uncertain submissions

The part of `recovery.py` that reads submission attempts from the dispatch
journal: the grouping of the rows, the transition table, the sender identity and
what one attempt means for recovery.  Nothing here changes the controller.
-/

namespace AutoTrade.Recovery

open Lib Store
open Dispatch (Environment EventType SubmissionEvent SubmissionPayload attemptAggregate)

/-! ## Rows -/

/-- A member of a stored object as the checks tell it apart. -/
inductive Member (α : Type) where
  | missing
  /-- A value of another type. -/
  | mistyped
  | value (value : α)
  deriving DecidableEq, Repr

namespace Member

/-- `isinstance` on the result of `get`. -/
def value? {α : Type} : Member α → Option α
  | .value stored => some stored
  | _ => none

/-- The text of a member that is a text with content. -/
def content? (field : Member String) : Option String :=
  field.value?.filter fun text => strip text ≠ ""

end Member

/-- The members of a submission payload that recovery reads. -/
structure SubmissionFields where
  environment : Member String
  accountId : Member String
  attemptId : Member String
  intentId : Member String
  clientOrderId : Member String
  provider : Member String
  ownerToken : Member String
  ownerEpoch : Member Nat
  deriving DecidableEq, Repr

/-- A row of the aggregate type of submission attempts.  The payload is missing
where it is no object. -/
structure SubmissionRow where
  eventId : String
  aggregateId : String
  aggregateVersion : Nat
  eventType : String
  ownerEpoch : Member String
  payload : Option SubmissionFields
  deriving DecidableEq, Repr

/-- `_normalized_submission_scope`. -/
structure SubmissionScope where
  environment : Environment
  accountId : String
  deriving DecidableEq, Repr

def SubmissionScope.create [CaseMap] (environment accountId : String) :
    Except RecoveryError SubmissionScope :=
  match Environment.ofText environment with
  | none => .error (.value "environment must be REPLAY, SIMULATION, PAPER, or LIVE")
  | some environment =>
      if strip accountId = "" then .error (.value "account_id is required")
      else .ok ⟨environment, strip accountId⟩

/-- `grouped`: the rows by their aggregate, in the order of the first rows. -/
def grouped (rows : List SubmissionRow) : Dict String (List SubmissionRow) :=
  rows.foldl (fun groups row =>
    groups.set row.aggregateId ((groups.get? row.aggregateId).getD [] ++ [row])) ∅

/-! ## Rows of the dispatcher -/

/-- A payload without members. -/
def SubmissionFields.none : SubmissionFields where
  environment := .missing
  accountId := .missing
  attemptId := .missing
  intentId := .missing
  clientOrderId := .missing
  provider := .missing
  ownerToken := .missing
  ownerEpoch := .missing

/-- The members of a payload that a dispatcher writes. -/
def payloadFields : (payload : SubmissionPayload) → SubmissionFields
  | .prepared payload =>
      { environment := .value payload.environment.name
        accountId := .value payload.accountId
        attemptId := .value payload.attemptId
        intentId := .value payload.intentId
        clientOrderId := .value payload.clientOrderId
        provider := .value payload.provider
        ownerToken := .value payload.ownerToken
        ownerEpoch := .value payload.ownerEpoch }
  | .blocked clientOrderId _ owner =>
      { SubmissionFields.none with
        clientOrderId := .value clientOrderId
        ownerToken := owner.elim .missing fun owner => .value owner.1
        ownerEpoch := owner.elim .missing fun owner => .value owner.2 }
  | .sending clientOrderId ownerToken ownerEpoch _ =>
      { SubmissionFields.none with
        clientOrderId := .value clientOrderId
        ownerToken := .value ownerToken
        ownerEpoch := .value ownerEpoch }
  | .sent clientOrderId _ | .unknown clientOrderId _ _ =>
      { SubmissionFields.none with clientOrderId := .value clientOrderId }
  | .intentBound payload =>
      { SubmissionFields.none with
        environment := .value payload.environment.name
        accountId := .value payload.accountId
        attemptId := .value payload.attemptId
        intentId := .value payload.intentId
        clientOrderId := .value payload.clientOrderId
        provider := .value payload.provider }

/-- A row of a journal that carries the events of dispatchers. -/
def dispatchRow {π : Type} [Carries SubmissionEvent π] (row : Envelope π) : SubmissionRow :=
  let event? := Carries.view (β := SubmissionEvent) row.body
  { eventId := row.eventId
    aggregateId := row.aggregate.aggregateId
    aggregateVersion := row.aggregateVersion
    eventType := event?.elim "" fun event => event.payload.eventType.name
    ownerEpoch := event?.elim .missing fun event => .value (Nat.repr event.ownerEpoch)
    payload := event?.map fun event => payloadFields event.payload }

/-! ## Validation of one attempt -/

def preparedEvent : String := EventType.submissionPrepared.name

def sendingEvent : String := EventType.submissionSending.name

def unknownEvent : String := EventType.submissionUnknown.name

/-- `valid_sequences`. -/
def validSequences : List (List String) :=
  let blocked := EventType.submissionBlocked.name
  [[preparedEvent],
    [preparedEvent, blocked],
    [preparedEvent, unknownEvent],
    [preparedEvent, sendingEvent],
    [preparedEvent, sendingEvent, EventType.submissionSent.name],
    [preparedEvent, sendingEvent, unknownEvent],
    -- a wrapper may mask the rejection of the final guard
    [preparedEvent, blocked, unknownEvent]]

/-- One step of the loop of `_validated_submission_event_sequence`. -/
def sequenceStep (aggregateId : String) (numbered : SubmissionRow × Nat) :
    Except RecoveryError String :=
  if numbered.1.aggregateId ≠ aggregateId then
    .error (.runtime "Submission journal aggregate identity changed")
  else if numbered.1.aggregateVersion ≠ numbered.2 then
    .error (.runtime "Submission journal aggregate versions are not contiguous")
  else if numbered.1.eventType = "" then
    .error (.runtime "Submission journal event type is invalid")
  else .ok numbered.1.eventType

/-- `_validated_submission_event_sequence`. -/
def validatedEventSequence (aggregateId : String) (rows : List SubmissionRow) :
    Except RecoveryError (List String) := do
  if rows = [] then throw (.runtime "Submission journal aggregate is empty")
  let sequence ← (rows.zipIdx 1).mapM (sequenceStep aggregateId)
  if sequence ∉ validSequences then
    throw (.runtime ("Submission journal transition sequence is invalid: " ++
      " -> ".intercalate sequence))
  pure sequence

/-- The number of a canonical positive integer text. -/
def canonicalEpoch? (text : String) : Option Nat :=
  let number := Nat.ofDigitChars 10 text.toList 0
  if 0 < number ∧ Nat.repr number = text then some number else none

/-- The value of a check that may fail. -/
def require {α : Type} (value : Option α) (message : String) : Except RecoveryError α :=
  match value with
  | some value => .ok value
  | none => .error (.runtime message)

/-- The sender that an attempt was prepared by. -/
structure Sender where
  envelopeEpoch : String
  ownerEpoch : Nat
  ownerToken : String
  clientOrderId : String
  deriving DecidableEq, Repr

/-- The first part of `_validated_submission_sender_identity`. -/
def preparedSender (first : SubmissionRow) : Except RecoveryError Sender := do
  let payload ← require first.payload "SubmissionPrepared payload is invalid"
  let envelopeEpoch ← require (first.ownerEpoch.value?.filter fun text =>
    (canonicalEpoch? text).isSome) "SubmissionPrepared owner epoch is invalid"
  let ownerEpoch ← require (payload.ownerEpoch.value?.filter fun epoch =>
    canonicalEpoch? envelopeEpoch = some epoch)
    "SubmissionPrepared payload owner epoch does not match envelope"
  let ownerToken ← require (payload.ownerToken.value?.filter fun text => strip text ≠ "")
    "SubmissionPrepared owner token is invalid"
  let clientOrderId ← require payload.clientOrderId.content?
    "SubmissionPrepared client order identity is invalid"
  pure ⟨envelopeEpoch, ownerEpoch, ownerToken, clientOrderId⟩

/-- One step of the loop of `_validated_submission_sender_identity`. -/
def senderStep (sender : Sender) (row : SubmissionRow) : Except RecoveryError Unit := do
  if row.ownerEpoch ≠ .value sender.envelopeEpoch then
    throw (.runtime "Submission journal owner epoch changed within one attempt")
  let payload ← require row.payload "Submission journal event payload is invalid"
  if payload.clientOrderId ≠ .value sender.clientOrderId then
    throw (.runtime "Submission journal client order identity changed within one attempt")
  if row.eventType = sendingEvent then
    if payload.ownerEpoch ≠ .value sender.ownerEpoch then
      throw (.runtime "SubmissionSending owner epoch does not match Prepared")
    if payload.ownerToken ≠ .value sender.ownerToken then
      throw (.runtime "SubmissionSending owner token does not match Prepared")
  else
    if payload.ownerEpoch ≠ .missing ∧ payload.ownerEpoch ≠ .value sender.ownerEpoch then
      throw (.runtime "Submission event payload owner epoch does not match Prepared")
    if payload.ownerToken ≠ .missing ∧ payload.ownerToken ≠ .value sender.ownerToken then
      throw (.runtime "Submission event payload owner token does not match Prepared")

/-- `_validated_submission_sender_identity`. -/
def validatedSenderIdentity (first : SubmissionRow) (rows : List SubmissionRow) :
    Except RecoveryError Nat := do
  let sender ← preparedSender first
  rows.forM (senderStep sender)
  pure sender.ownerEpoch

/-! ## What an attempt means -/

/-- An item of `_unresolved_send_bindings`. -/
structure SendBinding where
  intentId : String
  ownerEpoch : Nat
  evidence : List String
  deriving DecidableEq, Repr

/-- An item of `_recovered_unknown_identities`. -/
structure RecoveredIdentity where
  intentId : String
  clientOrderId : String
  provider : String
  environment : String
  accountId : String
  deriving DecidableEq, Repr

/-- What recovery learns from one attempt. -/
inductive Finding where
  /-- An attempt of another scope, or one that is not ambiguous. -/
  | settled
  /-- An ambiguous attempt without an identity. -/
  | legacy (key : String)
  | ambiguous (attemptId : String) (binding : SendBinding) (identity : RecoveredIdentity)
  deriving DecidableEq, Repr

section Findings

variable [Fingerprint] [CaseMap]

/-- The end of a pass of the loop, on an attempt that is ambiguous. -/
def ambiguousFinding (scope : SubmissionScope) (aggregateId : String) (payload : SubmissionFields)
    (last : SubmissionRow) (ownerEpoch : Nat) : Except RecoveryError Finding :=
  match payload.attemptId.content? with
  | none => .ok (.legacy ("legacy_submission:" ++ aggregateId))
  | some attemptId =>
      match payload.intentId.content?, payload.clientOrderId.content?,
        payload.provider.content? with
      | some intentId, some clientOrderId, some provider =>
          if last.eventId = "" then
            .error (.runtime "Ambiguous submission evidence identity is invalid")
          else .ok (.ambiguous (strip attemptId) ⟨strip intentId, ownerEpoch, [last.eventId]⟩
            ⟨strip intentId, strip clientOrderId, upper (strip provider), scope.environment.name,
              scope.accountId⟩)
      | _, _, _ =>
          .error (.runtime "Ambiguous submission lacks durable reconciliation identity")

/-- The check of the aggregate of an attempt that has an identity. -/
def checkAggregate (scope : SubmissionScope) (aggregateId : String) (payload : SubmissionFields) :
    Except RecoveryError Unit :=
  match payload.attemptId.content? with
  | none => .ok ()
  | some attemptId =>
      if (attemptAggregate scope.environment scope.accountId (strip attemptId)).aggregateId ≠
          aggregateId then
        .error (.runtime "SubmissionPrepared attempt identity does not match durable aggregate")
      else .ok ()

/-- The rest of a pass of the loop, on an attempt of the scope. -/
def scopedFinding (scope : SubmissionScope) (aggregateId : String) (payload : SubmissionFields)
    (first last : SubmissionRow) (rows : List SubmissionRow) : Except RecoveryError Finding := do
  let sequence ← validatedEventSequence aggregateId rows
  checkAggregate scope aggregateId payload
  if sequence.getLast? ≠ some sendingEvent ∧ sequence.getLast? ≠ some unknownEvent then
    pure .settled
  else do
    let ownerEpoch ← validatedSenderIdentity first rows
    ambiguousFinding scope aggregateId payload last ownerEpoch

/-- A pass of the loop of `recover_durable_submission_uncertainty`, up to the
changes of the controller. -/
def finding (scope : SubmissionScope) (aggregateId : String) (rows : List SubmissionRow) :
    Except RecoveryError Finding := do
  let first ← require rows.head? "Submission journal aggregate is empty"
  let last ← require rows.getLast? "Submission journal aggregate is empty"
  if first.eventType ≠ preparedEvent then
    throw (.runtime "Submission journal aggregate does not start with SubmissionPrepared")
  let payload ← require first.payload "SubmissionPrepared payload is invalid"
  let environment ← require payload.environment.value?
    "SubmissionPrepared durable scope is invalid"
  let accountId ← require payload.accountId.value? "SubmissionPrepared durable scope is invalid"
  if upper (strip environment) ≠ scope.environment.name ∨ strip accountId ≠ scope.accountId then
    pure .settled
  else scopedFinding scope aggregateId payload first last rows

/-- The finding of an attempt of the scope. -/
theorem scopedFinding_eq_ok {scope : SubmissionScope} {aggregateId : String}
    {payload : SubmissionFields} {first last : SubmissionRow} {rows : List SubmissionRow}
    {found : Finding} : scopedFinding scope aggregateId payload first last rows = .ok found ↔
      ∃ sequence, validatedEventSequence aggregateId rows = .ok sequence ∧
        checkAggregate scope aggregateId payload = .ok () ∧
        if sequence.getLast? ≠ some sendingEvent ∧ sequence.getLast? ≠ some unknownEvent then
          found = .settled
        else ∃ ownerEpoch, validatedSenderIdentity first rows = .ok ownerEpoch ∧
          ambiguousFinding scope aggregateId payload last ownerEpoch = .ok found := by
  rw [scopedFinding, bind_eq_ok]
  apply exists_congr
  intro sequence
  apply and_congr_right
  intro _
  rw [bind_eq_ok]
  constructor
  · rintro ⟨_, checked, success⟩
    refine ⟨checked, ?_⟩
    split at success
    next settled => rw [if_pos settled, ← pure_eq_ok.mp success]
    next open' =>
      rw [if_neg open', ← bind_eq_ok]
      exact success
  · rintro ⟨checked, rest⟩
    refine ⟨(), checked, ?_⟩
    split at rest
    next settled => rw [if_pos settled, rest]; rfl
    next open' =>
      rw [if_neg open', bind_eq_ok]
      exact rest

/-- An ambiguous attempt belongs to the aggregate of its identity. -/
theorem aggregateId_of_ambiguous {scope : SubmissionScope} {aggregateId attemptId : String}
    {rows : List SubmissionRow} {binding : SendBinding} {identity : RecoveredIdentity}
    (found : finding scope aggregateId rows = .ok (.ambiguous attemptId binding identity)) :
    (attemptAggregate scope.environment scope.accountId attemptId).aggregateId = aggregateId := by
  rw [finding, bind_eq_ok] at found
  obtain ⟨first, _, found⟩ := found
  rw [bind_eq_ok] at found
  obtain ⟨last, _, found⟩ := found
  rw [throw_unless_eq_ok, bind_eq_ok] at found
  obtain ⟨_, payload, _, found⟩ := found
  rw [bind_eq_ok] at found
  obtain ⟨environment, _, found⟩ := found
  rw [bind_eq_ok] at found
  obtain ⟨accountId, _, found⟩ := found
  split at found
  next => cases found
  next =>
    obtain ⟨sequence, _, checked, rest⟩ := scopedFinding_eq_ok.mp found
    split at rest
    next => cases rest
    next =>
      obtain ⟨ownerEpoch, _, found⟩ := rest
      rw [ambiguousFinding] at found
      rw [checkAggregate] at checked
      split at found
      next => cases found
      next text content =>
        rw [content] at checked
        split at found
        next =>
          rw [guard_eq_ok] at found
          cases found.2
          rw [guard_eq_ok, not_ne_iff] at checked
          exact checked.1
        next => cases found

end Findings

end AutoTrade.Recovery
