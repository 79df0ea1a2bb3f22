import AutoTrade.Lib.Fingerprint
import AutoTrade.Lib.Raising
import AutoTrade.Lib.Text
import AutoTrade.Store.Journal

/-!
# Durable clock incidents

The model of `recovery_clock_incident.py`.  The chain of clock incidents of an
owner scope is replayed from two aggregates of the journal, the recovery owners
and the clock incidents, up to an optional cut of the journal sequence.

A trust transition is a program over the shared journal.  The sender gate only
excludes interleavings, so the program does not take it.
-/

namespace AutoTrade.Recovery

open Lib Store

/-- The exceptions of the recovery modules with their messages. -/
inductive RecoveryError where
  | runtime (message : String)
  | permission (message : String)
  | value (message : String)
  deriving DecidableEq, Repr

/-- The payload of a clock incident event. -/
structure ClockPayload where
  schemaVersion : String
  generation : String
  incidentId : String
  ownerId : String
  ownerEpoch : String
  reasonCode : String
  evidenceRef : Option String
  deriving DecidableEq, Repr

/-- The event types and payloads of the two aggregates. -/
inductive RecoveryEvent where
  | owner (eventType ownerId ownerEpoch : String)
  | clock (eventType : String) (payload : ClockPayload)
  deriving DecidableEq, Repr

/-- The request and the result of a trust transition. -/
inductive RecoveryCommand where
  | request (ownerScope ownerId ownerEpoch : String) (trusted : Bool) (reasonCode : String)
      (evidenceRef : Option String) (journalSequenceCut : Nat)
  | result (generation : Nat) (incidentId : String) (trusted : Bool)
  deriving DecidableEq, Repr

/-- `ClockIncident`. -/
structure ClockIncident where
  generation : Nat
  incidentId : String
  ownerId : String
  ownerEpoch : Nat
  reasonCode : String
  evidenceRef : Option String
  lostJournalSequence : Nat
  restoredJournalSequence : Option Nat
  restoreOwnerId : Option String
  restoreOwnerEpoch : Option Nat
  restoreReasonCode : Option String
  restoreEvidenceRef : Option String
  deriving DecidableEq, Repr

/-- `ClockIncident.restored`. -/
def ClockIncident.restored (incident : ClockIncident) : Bool :=
  incident.restoredJournalSequence.isSome

/-- An item of `_validated_owner_events`. -/
structure OwnerRow where
  journalSequence : Nat
  ownerId : String
  ownerEpoch : Nat
  deriving DecidableEq, Repr

def clockLostEvent : String := "RecoveryClockTrustLost"

def clockRestoredEvent : String := "RecoveryClockTrustRestored"

def ownerEventType : String := "RecoveryOwnerChanged"

def schemaVersion : String := "1"

def clockAggregate (ownerScope : String) : Aggregate := ⟨"recovery_clock_incident", ownerScope⟩

def ownerAggregate (ownerScope : String) : Aggregate := ⟨"recovery_owner", ownerScope⟩

/-! ## Checks of texts -/

/-- `_canonical_text`. -/
def canonicalText (value name : String) : Except RecoveryError String :=
  if Normal value then .ok value
  else .error (.runtime (name ++ " must be canonical non-empty text"))

/-- `_positive_int` of a text. -/
def positiveText (value name : String) : Except RecoveryError Nat :=
  let number := Nat.ofDigitChars 10 value.toList 0
  if 0 < number ∧ Nat.repr number = value then .ok number
  else .error (.runtime (name ++ " must be a canonical positive integer"))

/-- `_positive_int` of an integer. -/
def positiveInt (value : Nat) (name : String) : Except RecoveryError Nat :=
  if 0 < value then .ok value
  else .error (.runtime (name ++ " must be a canonical positive integer"))

/-- The pattern of reasons and of evidence: a letter or digit, then at most
`limit` letters, digits and marks. -/
def matchesCode (limit : Nat) (text : String) : Bool :=
  match text.toList with
  | [] => false
  | first :: rest => first.isAlphanum && rest.length ≤ limit &&
      rest.all fun character => character.isAlphanum || "._:-/".toList.contains character

/-- `_reason`. -/
def reason (value name : String) : Except RecoveryError String := do
  let text ← canonicalText value name
  if matchesCode 127 text then pure text else throw (.runtime (name ++ " is not canonical"))

/-- `_optional_evidence`. -/
def optionalEvidence (value : Option String) (name : String) :
    Except RecoveryError (Option String) :=
  match value with
  | none => .ok none
  | some value => do
      let text ← canonicalText value name
      if matchesCode 255 text then pure (some text)
      else throw (.runtime (name ++ " is not canonical"))

/-- One character of a Python string literal. -/
def reprChar (quote character : Char) : List Char :=
  if character = quote ∨ character = '\\' then ['\\', character]
  else if character = '\n' then ['\\', 'n']
  else if character = '\r' then ['\\', 'r']
  else if character = '\t' then ['\\', 't']
  else if character.toNat < 0x20 ∨ character.toNat = 0x7f then
    ['\\', 'x', hexDigit (character.toNat / 16), hexDigit (character.toNat % 16)]
  else [character]

/-- `repr` of a text whose characters beyond ASCII are printable. -/
def reprText (text : String) : String :=
  let quote := if text.toList.contains '\'' && !text.toList.contains '"' then '"' else '\''
  String.ofList (quote :: text.toList.flatMap (reprChar quote) ++ [quote])

section Chains

variable {π : Type} [Carries RecoveryEvent π] [Fingerprint]

/-- The recovery event of a row. -/
def recoveryEvent? (event : Envelope π) : Option RecoveryEvent := Carries.view event.body

/-- `_events_at_or_before_cut`: the rows of an aggregate with their journal
sequence. -/
def eventsAtOrBeforeCut (events : List (Envelope π)) (aggregate : Aggregate)
    (cut : Option Nat) : List (Envelope π × Nat) :=
  (events.zipIdx 1).filter fun row =>
    row.1.aggregate = aggregate ∧ ∀ limit ∈ cut, row.2 ≤ limit

/-- One step of the loop of `_validated_owner_events`. -/
def ownerRow (numbered : (Envelope π × Nat) × Nat) : Except RecoveryError OwnerRow :=
  match recoveryEvent? numbered.1.1 with
  | some (.owner eventType ownerId ownerEpoch) => do
      if eventType ≠ ownerEventType then
        throw (.runtime "recovery owner journal contains unsupported event type")
      let ownerId ← canonicalText ownerId "owner_id"
      let ownerEpoch ← positiveText ownerEpoch "owner_epoch"
      let aggregateVersion ← positiveInt numbered.1.1.aggregateVersion "aggregate_version"
      if aggregateVersion ≠ numbered.2 ∨ ownerEpoch ≠ numbered.2 then
        throw (.runtime "recovery owner epoch/version chain is invalid")
      pure ⟨numbered.1.2, ownerId, ownerEpoch⟩
  | _ => throw (.runtime "recovery owner journal contains unsupported event type")

/-- `_validated_owner_events` of the rows it loads. -/
def validatedOwnerEvents (rows : List (Envelope π × Nat)) : Except RecoveryError (List OwnerRow) :=
  (rows.zipIdx 1).mapM ownerRow

/-- `_owner_at_sequence`. -/
def ownerAtSequence (owners : List OwnerRow) (sequence : Nat) :
    Except RecoveryError (String × Nat) :=
  match (owners.filter fun owner => owner.journalSequence < sequence).getLast? with
  | some owner => .ok (owner.ownerId, owner.ownerEpoch)
  | none => .error (.runtime "clock incident has no preceding durable recovery owner")

/-- `_incident_id`. -/
def incidentId (ownerScope : String) (generation : Nat) : String :=
  uuid5 ("https://recovery.autotrade.local/clock-incident/" ++ reprText ownerScope ++ "/" ++
    Nat.repr generation)

/-- The incident of a loss. -/
def lostIncident (payload : ClockPayload) (generation ownerEpoch sequence : Nat) :
    Except RecoveryError ClockIncident := do
  let reasonCode ← reason payload.reasonCode "reason_code"
  let evidenceRef ← optionalEvidence payload.evidenceRef "evidence_ref"
  pure {
    generation := generation
    incidentId := payload.incidentId
    ownerId := payload.ownerId
    ownerEpoch := ownerEpoch
    reasonCode := reasonCode
    evidenceRef := evidenceRef
    lostJournalSequence := sequence
    restoredJournalSequence := none
    restoreOwnerId := none
    restoreOwnerEpoch := none
    restoreReasonCode := none
    restoreEvidenceRef := none }

/-- The incident after its restoration. -/
def restoredIncident (current : ClockIncident) (payload : ClockPayload)
    (ownerEpoch sequence : Nat) : Except RecoveryError ClockIncident := do
  let reasonCode ← reason payload.reasonCode "reason_code"
  let evidenceRef ← optionalEvidence payload.evidenceRef "evidence_ref"
  pure { current with
    restoredJournalSequence := some sequence
    restoreOwnerId := some payload.ownerId
    restoreOwnerEpoch := some ownerEpoch
    restoreReasonCode := some reasonCode
    restoreEvidenceRef := evidenceRef }

/-- The branches of `load_clock_incident_chain` on the event type. -/
def applyTransition (incidents : List ClockIncident) (eventType : String) (payload : ClockPayload)
    (generation ownerEpoch sequence : Nat) : Except RecoveryError (List ClockIncident) :=
  if eventType = clockLostEvent then
    if incidents.getLast?.any fun current => !current.restored then
      .error (.runtime "clock incident generation overlaps an unresolved incident")
    else if generation ≠ incidents.length + 1 then
      .error (.runtime "clock incident generation is not monotonic")
    else do
      let incident ← lostIncident payload generation ownerEpoch sequence
      pure (incidents ++ [incident])
  else if eventType = clockRestoredEvent then
    match incidents.getLast? with
    | none => .error (.runtime "clock restoration has no unresolved incident")
    | some current =>
        if current.restored then
          .error (.runtime "clock restoration has no unresolved incident")
        else if generation ≠ current.generation ∨ payload.incidentId ≠ current.incidentId then
          .error (.runtime "clock restoration incident binding is invalid")
        else do
          let incident ← restoredIncident current payload ownerEpoch sequence
          pure (incidents.dropLast ++ [incident])
  else .error (.runtime "clock incident journal contains unsupported event type")

/-- One step of the loop of `load_clock_incident_chain`. -/
def chainStep (ownerScope : String) (owners : List OwnerRow) (incidents : List ClockIncident)
    (numbered : (Envelope π × Nat) × Nat) : Except RecoveryError (List ClockIncident) := do
  let aggregateVersion ← positiveInt numbered.1.1.aggregateVersion "aggregate_version"
  if aggregateVersion ≠ numbered.2 then
    throw (.runtime "clock incident aggregate version chain is invalid")
  match recoveryEvent? numbered.1.1 with
  | some (.clock eventType payload) =>
      if payload.schemaVersion ≠ schemaVersion then
        throw (.runtime "clock incident schema version is unsupported")
      let ownerId ← canonicalText payload.ownerId "owner_id"
      let ownerEpoch ← positiveText payload.ownerEpoch "owner_epoch"
      let owner ← ownerAtSequence owners numbered.1.2
      if owner ≠ (ownerId, ownerEpoch) then
        throw (.runtime "clock incident durable owner binding is invalid")
      let generation ← positiveText payload.generation "generation"
      let named ← canonicalText payload.incidentId "incident_id"
      if named ≠ incidentId ownerScope generation then
        throw (.runtime "clock incident identity is invalid")
      applyTransition incidents eventType payload generation ownerEpoch numbered.1.2
  | _ => throw (.runtime "clock incident payload is invalid")

/-- `load_clock_incident_chain` of the rows it loads. -/
def replayChain (ownerScope : String) (ownerRows clockRows : List (Envelope π × Nat)) :
    Except RecoveryError (List ClockIncident) := do
  let owners ← validatedOwnerEvents ownerRows
  (clockRows.zipIdx 1).foldlM (chainStep ownerScope owners) []

/-- `load_clock_incident_chain` on the rows of a journal. -/
def loadClockIncidentChain (events : List (Envelope π)) (ownerScope : String)
    (cut : Option Nat) : Except RecoveryError (List ClockIncident) := do
  let scope ← canonicalText ownerScope "owner_scope"
  replayChain scope (eventsAtOrBeforeCut events (ownerAggregate scope) cut)
    (eventsAtOrBeforeCut events (clockAggregate scope) cut)

/-- The trust state after a replay. -/
def trustedAfter (incidents : List ClockIncident) : Bool :=
  incidents.getLast?.all ClockIncident.restored

/-- The generation of the last incident. -/
def lastGeneration (incidents : List ClockIncident) : Nat :=
  (incidents.getLast?.map ClockIncident.generation).getD 0

end Chains

/-! ## Trust transitions -/

/-- The arguments of `append_clock_trust_transition`. -/
structure TransitionArgs where
  ownerScope : String
  ownerId : String
  ownerEpoch : Nat
  trusted : Bool
  reasonCode : String
  evidenceRef : Option String
  committedAt : Instant
  deriving DecidableEq, Repr

section Programs

variable {π κ : Type} [Carries RecoveryEvent π] [Fingerprint]

/-- A program over the shared journal. -/
abbrev Recording (π κ α : Type) : Type := Raising (Journal π κ) RecoveryError α

/-- `load_clock_incident_chain` as two reads of the journal. -/
def loadChain (ownerScope : String) (cut : Option Nat) : Recording π κ (List ClockIncident) := do
  let owners ← Raising.read fun journal =>
    eventsAtOrBeforeCut journal.events (ownerAggregate ownerScope) cut
  let owners ← Raising.ofExcept (validatedOwnerEvents owners)
  let rows ← Raising.read fun journal =>
    eventsAtOrBeforeCut journal.events (clockAggregate ownerScope) cut
  Raising.ofExcept ((rows.zipIdx 1).foldlM (chainStep ownerScope owners) [])

variable [DecidableEq π] [DecidableEq κ]

/-- `commit_command` as one transaction. -/
def commitTransaction (args : Journal.CommandArgs π κ) (journal : Journal π κ) :
    Journal π κ × Except RecoveryError (Journal.CommitResult κ) :=
  match journal.commitCommand args with
  | .ok (next, result) => (next, .ok result)
  | .error error => (journal, .error (.value error.message))

/-- `append_event` as one transaction. -/
def appendTransaction (event : Envelope π) (journal : Journal π κ) :
    Journal π κ × Except RecoveryError AppendResult :=
  match journal.appendEvent event none with
  | .ok (next, result) => (next, .ok result)
  | .error error => (journal, .error (.value error.message))

/-- The incident of a transition: its generation and its id. -/
def transitionIncident (ownerScope : String) (trusted : Bool) (incidents : List ClockIncident) :
    Nat × String :=
  match trusted, incidents.getLast? with
  | true, some current => (current.generation, current.incidentId)
  | _, _ => (lastGeneration incidents + 1, incidentId ownerScope (lastGeneration incidents + 1))

/-- The event type of a transition. -/
def transitionEvent (trusted : Bool) : String :=
  if trusted then clockRestoredEvent else clockLostEvent

/-- The payload of a transition. -/
def transitionPayload (args : TransitionArgs) (incident : Nat × String) : ClockPayload where
  schemaVersion := schemaVersion
  generation := Nat.repr incident.1
  incidentId := incident.2
  ownerId := args.ownerId
  ownerEpoch := Nat.repr args.ownerEpoch
  reasonCode := args.reasonCode
  evidenceRef := args.evidenceRef

/-- The envelope of a transition. -/
def transitionEnvelope (args : TransitionArgs) (incident : Nat × String) (version : Nat) :
    Envelope π where
  eventId := uuid5 ("https://recovery.autotrade.local/clock-incident-event/" ++
    reprText args.ownerScope ++ "/" ++ Nat.repr version ++ "/" ++ transitionEvent args.trusted ++
    "/" ++ incident.2)
  aggregate := clockAggregate args.ownerScope
  aggregateVersion := version
  committedAt := args.committedAt
  body := Carries.embed (RecoveryEvent.clock (transitionEvent args.trusted)
    (transitionPayload args incident))
  outboxTopic := none

/-- `scope.split(":", 1)[0].upper()`. -/
def runtimeEnvironment [CaseMap] (scope : String) : String :=
  upper (String.ofList (scope.toList.takeWhile fun character => character ≠ ':'))

variable [Carries RecoveryCommand κ] [CaseMap]

/-- The arguments that a transition hands to `commit_command`. -/
def transitionCommand (args : TransitionArgs) (incident : Nat × String) (version cut : Nat) :
    Journal.CommandArgs π κ where
  commandId := (transitionEnvelope args incident version : Envelope π).eventId
  actor := "recovery-clock-incident"
  environment := runtimeEnvironment args.ownerScope
  idempotencyKey := (transitionEnvelope args incident version : Envelope π).eventId
  request := Carries.embed (RecoveryCommand.request args.ownerScope args.ownerId
    (Nat.repr args.ownerEpoch) args.trusted args.reasonCode args.evidenceRef cut)
  result := Carries.embed (RecoveryCommand.result incident.1 incident.2 args.trusted)
  stateVersion := version
  events := [transitionEnvelope args incident version]
  expectedJournalSequence := some cut

/-- The statements of `append_clock_trust_transition` after the trust state at the
cut turned out to be another one. -/
def commitTransition (args : TransitionArgs) (incidents : List ClockIncident) (cut : Nat) :
    Recording π κ Nat := do
  let owners ← Raising.read fun journal =>
    eventsAtOrBeforeCut journal.events (ownerAggregate args.ownerScope) (some cut)
  let owners ← Raising.ofExcept (validatedOwnerEvents owners)
  let clockEvents ← Raising.read fun journal =>
    eventsAtOrBeforeCut journal.events (clockAggregate args.ownerScope) (some cut)
  let current ← Raising.read Journal.currentJournalSequence
  if current ≠ cut then
    throw (.value "journal sequence changed after clock incident validation")
  if owners.getLast?.map (fun owner => (owner.ownerId, owner.ownerEpoch)) ≠
      some (args.ownerId, args.ownerEpoch) then
    throw (.permission "clock incident owner is not the current durable recovery owner")
  let version := clockEvents.length + 1
  let incident := transitionIncident args.ownerScope args.trusted incidents
  if runtimeEnvironment args.ownerScope ∉ ["REPLAY", "SIMULATION", "PAPER", "LIVE"] then
    throw (.permission "durable clock incident requires environment-scoped recovery owner")
  let _ ← Raising.atomic (commitTransaction (transitionCommand args incident version cut))
  let replayed ← loadChain args.ownerScope none
  if lastGeneration replayed ≠ incident.1 then
    throw (.runtime "clock incident append did not round-trip")
  if trustedAfter replayed ≠ args.trusted then
    throw (.runtime "clock incident append produced wrong trust state")
  pure incident.1

/-- `append_clock_trust_transition`. -/
def appendClockTrustTransition (args : TransitionArgs) : Recording π κ Nat := do
  let _ ← Raising.ofExcept (canonicalText args.ownerScope "owner_scope")
  let _ ← Raising.ofExcept (canonicalText args.ownerId "owner_id")
  let _ ← Raising.ofExcept (positiveInt args.ownerEpoch "owner_epoch")
  let _ ← Raising.ofExcept (reason args.reasonCode "reason_code")
  let _ ← Raising.ofExcept (optionalEvidence args.evidenceRef "evidence_ref")
  let cut ← Raising.read Journal.currentJournalSequence
  let incidents ← loadChain args.ownerScope (some cut)
  if args.trusted = trustedAfter incidents then pure (lastGeneration incidents)
  else commitTransition args incidents cut

/-! ## Recovery owners -/

/-- `OwnerFence`. -/
structure OwnerFence where
  ownerId : String
  epoch : Nat
  deriving DecidableEq, Repr

/-- The envelope of `_append_durable_owner`. -/
def ownerEnvelope (ownerScope : String) (owner : OwnerFence) (now : Instant) : Envelope π where
  eventId := uuid5 ("https://recovery.autotrade.local/" ++ reprText ownerScope ++ "/" ++
    Nat.repr owner.epoch ++ "/" ++ reprText owner.ownerId)
  aggregate := ownerAggregate ownerScope
  aggregateVersion := owner.epoch
  committedAt := now
  body := Carries.embed (RecoveryEvent.owner ownerEventType owner.ownerId (Nat.repr owner.epoch))
  outboxTopic := none

/-- `_append_durable_owner`. -/
def appendDurableOwner (ownerScope : String) (owner : OwnerFence) (now : Instant) :
    Recording π κ AppendResult :=
  Raising.atomic (appendTransaction (ownerEnvelope ownerScope owner now))

end Programs

end AutoTrade.Recovery
