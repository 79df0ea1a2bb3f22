import AutoTrade.Lib.Json
import AutoTrade.Lib.Text
import AutoTrade.Lib.Versions
import AutoTrade.Provider.Domain
import AutoTrade.Reconciliation.Evidence
import AutoTrade.Store.Envelope
import Mathlib.Data.Prod.Lex

/-!
# Market event vintages

The executable model of `vintages.causal_market_event_history` and
`vintages.point_in_time_market_events`: the checks of one event, the index of
its revisions visible by a cutoff and the order of the returned rows.

An event is a mapping of arbitrary Python objects.  Texts, datetimes, lists and
mappings are spelled out where the checks read them; any other object is a
parameter, seen through `type(...) is dict` and `json.dumps`.
-/

namespace AutoTrade.Research

open Lib Provider Reconciliation

/-- `HistoricalDataError`, its subclass `HistoricalConflict` and the error of
an unexpected set of fields. -/
inductive HistoricalError where
  | invalid (message : String)
  | conflict (message : String)
  | fields (owner : String) (missing unknown : List String)
  deriving DecidableEq, Repr

/-! ## Events -/

/-- A `datetime`: one with a built-in timezone, one without a timezone, one
with a foreign timezone, or an instance of a subclass. -/
inductive Moment where
  | aware (instant : Instant)
  | naive
  | foreign
  | inexact
  deriving DecidableEq, Repr

inductive Scalar (π : Type) where
  | text (value : String)
  | datetime (moment : Moment)
  | other (value : π)
  deriving DecidableEq, Repr

/-- A mapping is `exact` if it is a `dict`. -/
inductive Field (π : Type) where
  | scalar (value : Scalar π)
  | list (items : List (Scalar π))
  | mapping (exact : Bool) (members : Dict String (Scalar π))
  deriving DecidableEq, Repr

def Field.scalar? {π : Type} : Field π → Option (Scalar π)
  | scalar value => some value
  | _ => none

/-- `dict(raw)`. -/
abbrev RawEvent (π : Type) : Type := Dict String (Field π)

def RawEvent.scalar? {π : Type} (event : RawEvent π) (key : String) : Option (Scalar π) :=
  (event.get? key).bind Field.scalar?

/-- What the module asks of an arbitrary object: whether it is a `dict`, and
the value that `json.dumps` writes for it. -/
class PythonObject (F : outParam Type) (π : Type) where
  isDict : π → Bool
  dumps : π → Option (Json F)
  dumps_distinct : ∀ {value json}, dumps value = some json → json.Distinct

/-! ## Readers -/

variable {π : Type}

/-- `_text`. -/
def text (value : Option (Scalar π)) (name : String) : Except HistoricalError String :=
  match value with
  | some (.text value) =>
      if strip value = "" then .error (.invalid s!"{name} must be non-empty exact text")
      else .ok (strip value)
  | _ => .error (.invalid s!"{name} must be non-empty exact text")

/-- `_non_negative_sequence` on a text. -/
def nonNegativeSequence (value name : String) : Except HistoricalError Nat :=
  if Store.isSequence value && value.toList.length ≤ Json.maxStrDigits then
    .ok (Nat.ofDigitChars 10 value.toList 0)
  else .error (.invalid s!"{name} must be a canonical non-negative integer")

/-- A field that has to be a text with a `Sequence`. -/
def sequenceField (value : Option (Scalar π)) (name : String) : Except HistoricalError Nat :=
  match value with
  | some (.text value) => nonNegativeSequence value name
  | _ => .error (.invalid s!"{name} must be a canonical string Sequence")

/-- `_digest`. -/
def digest (value : Option (Scalar π)) (name : String) : Except HistoricalError String := do
  let text ← text value name
  if text.toList.take 7 ≠ "sha256:".toList ∨ text.toList.length ≠ 71 then
    .error (.invalid s!"{name} must be a canonical SHA-256 digest")
  else if (text.toList.drop 7).any (fun character => character ∉ "0123456789abcdef".toList) then
    .error (.invalid s!"{name} must be lowercase hexadecimal")
  else .ok text

/-- `_ADAPTER_VERSION`. -/
def isAdapterVersion (value : String) : Bool :=
  match value.toList with
  | [] => false
  | first :: rest => first.isAlphanum && rest.length ≤ 127 &&
      rest.all fun character => character.isAlphanum || character ∈ "._:+@/-".toList

def marketEventKinds : List String :=
  ["TRADE", "QUOTE", "BOOK_SNAPSHOT", "BOOK_DELTA", "BAR", "FUNDING", "MARK", "INDEX", "STATUS"]

def marketEventFields : List String :=
  ["event_id", "instrument_version", "adapter_version", "kind", "source_event_at", "available_at",
    "availability_basis", "ingested_at", "source_sequence", "revision", "payload",
    "quality_flags", "raw_evidence_ref"]

def marketEventRequiredFields : List String :=
  marketEventFields.filter fun field => field ≠ "source_sequence"

def evidenceFields : List String :=
  ["artifact_id", "sha256", "source_uri", "observed_at", "rights_id"]

def evidenceRequiredFields : List String := ["artifact_id", "sha256", "observed_at"]

section Formats

variable [IsoFormat]

/-- `_utc`. -/
def utc (value : Option (Scalar π)) (name : String) : Except HistoricalError Instant :=
  match value with
  | some (.datetime (.aware instant)) => .ok instant
  | some (.datetime .naive) => .error (.invalid s!"{name} must be timezone-aware")
  | some (.datetime .foreign) =>
      .error (.invalid s!"{name} must use built-in timezone authority")
  | some (.datetime .inexact) => .error (.invalid s!"{name} must be an exact datetime")
  | value => do
      let text ← text value name
      if text.toList.getLast? ≠ some 'Z' then
        .error (.invalid s!"{name} must be UTC and end in Z")
      else match IsoFormat.parse text with
        | some instant => .ok instant
        | none => .error (.invalid s!"{name} must be an ISO date-time")

variable [UuidFormat]

/-- `_uuid`. -/
def uuid (value : Option (Scalar π)) (name : String) : Except HistoricalError String := do
  let text ← text value name
  match UuidFormat.canonical text with
  | some uuid => .ok uuid
  | none => .error (.invalid s!"{name} must be a UUID")

/-- An optional field that has to be a text. -/
def optionalText (members : Dict String (Scalar π)) (name : String) :
    Except HistoricalError Unit :=
  if name ∈ members.keys then (text (members.get? name) name).map fun _ => () else .ok ()

/-- `_evidence`, of which the caller reads `observed_at`. -/
def evidence (value : Option (Field π)) : Except HistoricalError Instant :=
  match value with
  | some (.mapping _ members) => do
      if evidenceRequiredFields.any fun field => field ∉ members.keys then
        .error (.invalid "source evidence is incomplete")
      else if members.keys.any fun field => field ∉ evidenceFields then
        .error (.fields "source evidence" []
          (members.keys.filter fun field => field ∉ evidenceFields))
      else do
        let _ ← uuid (members.get? "artifact_id") "artifact_id"
        let _ ← digest (members.get? "sha256") "evidence sha256"
        let observed ← utc (members.get? "observed_at") "observed_at"
        optionalText members "source_uri"
        optionalText members "rights_id"
        .ok observed
  | _ => .error (.invalid "source evidence must be an object")

/-- `quality_flags` is a list of distinct texts that are not empty. -/
def checkQualityFlags (value : Option (Field π)) : Except HistoricalError Unit :=
  let flag : Scalar π → Option String
    | .text value => if value = "" then none else some value
    | _ => none
  match value with
  | some (.list items) =>
      match items.mapM flag with
      | some flags =>
          if flags.Nodup then .ok ()
          else .error (.invalid
            "market event quality_flags must be a unique array of non-empty strings")
      | none => .error (.invalid
          "market event quality_flags must be a unique array of non-empty strings")
  | _ => .error (.invalid
      "market event quality_flags must be a unique array of non-empty strings")

/-- What the checks of an event read. -/
@[ext] structure EventFacts where
  rawEventId : String
  eventId : String
  instrumentVersion : String
  adapterVersion : String
  kind : String
  revision : Nat
  availableAt : Instant
  sourceAt : Instant
  ingestedAt : Instant
  observedAt : Instant
  deriving DecidableEq, Repr

/-- `effective_knowledge`. -/
def EventFacts.knowledge (facts : EventFacts) : Instant :=
  max facts.availableAt (max facts.ingestedAt facts.observedAt)

/-- The exact text of a field, where it has one. -/
def exactText (value : Option (Scalar π)) : Option String :=
  match value with
  | some (.text value) => some value
  | _ => none

/-- The fields are those of the contract. -/
def checkFields (event : RawEvent π) : Except HistoricalError Unit :=
  let missing := marketEventRequiredFields.filter fun field => field ∉ event.keys
  let unknown := event.keys.filter fun field => field ∉ marketEventFields
  if missing ≠ [] ∨ unknown ≠ [] then .error (.fields "market event" missing unknown) else .ok ()

/-- A source sequence, where the event has one, is a text with a `Sequence`. -/
def checkSourceSequence (event : RawEvent π) : Except HistoricalError Unit :=
  if "source_sequence" ∈ event.keys then
    (sequenceField (event.scalar? "source_sequence") "source_sequence").map fun _ => ()
  else .ok ()

/-- The adapter version as it was given. -/
def readAdapterVersion (event : RawEvent π) : Except HistoricalError String :=
  match exactText (event.scalar? "adapter_version") with
  | some version =>
      if isAdapterVersion version then .ok version
      else .error (.invalid "adapter_version must be a canonical bounded ASCII build token")
  | none => .error (.invalid "adapter_version must be a canonical bounded ASCII build token")

variable {F : Type} [PythonObject F π]

/-- `type(event.get("payload")) is dict`. -/
def hasPayload (event : RawEvent π) : Bool :=
  match event.get? "payload" with
  | some (.mapping exact _) => exact
  | some (.scalar (.other value)) => PythonObject.isDict value
  | _ => false

/-- The chronology of one event. -/
def checkTimes (facts : EventFacts) : Except HistoricalError EventFacts :=
  if facts.observedAt < facts.sourceAt then
    .error (.invalid "raw evidence cannot be observed before source_event_at")
  else if facts.ingestedAt < facts.observedAt then
    .error (.invalid "raw evidence cannot be observed after event ingestion")
  else .ok facts

/-- The checks that read nothing but the event. -/
def readEvent (event : RawEvent π) : Except HistoricalError EventFacts := do
  checkFields event
  let eventId ← uuid (event.scalar? "event_id") "event_id"
  let instrumentVersion ← text (event.scalar? "instrument_version") "instrument_version"
  let adapterVersion ← readAdapterVersion event
  let kind ← text (event.scalar? "kind") "kind"
  if kind ∉ marketEventKinds then .error (.invalid "market event kind is not canonical")
  else if !hasPayload event then .error (.invalid "market event payload must be an object")
  else do
    checkQualityFlags (event.get? "quality_flags")
    checkSourceSequence event
    let revision ← sequenceField (event.scalar? "revision") "revision"
    let available ← utc (event.scalar? "available_at") "available_at"
    let sourceAt ← utc (event.scalar? "source_event_at") "source_event_at"
    let ingested ← utc (event.scalar? "ingested_at") "ingested_at"
    let _ ← text (event.scalar? "availability_basis") "availability_basis"
    if available < sourceAt then
      .error (.invalid "available_at cannot precede source_event_at")
    else if ingested < available then
      .error (.invalid "ingested_at cannot precede evidenced available_at")
    else do
      let observed ← evidence (event.get? "raw_evidence_ref")
      checkTimes {
        rawEventId := (exactText (event.scalar? "event_id")).getD ""
        eventId := eventId
        instrumentVersion := instrumentVersion
        adapterVersion := adapterVersion
        kind := kind
        revision := revision
        availableAt := available
        sourceAt := sourceAt
        ingestedAt := ingested
        observedAt := observed }

end Formats

/-! ## Canonical bytes -/

variable {F : Type} [PythonObject F π]

/-- A scalar as `json.dumps` sees it; a `datetime` is not serializable. -/
def Scalar.json : Scalar π → Option (Json F)
  | text value => some (.str value)
  | datetime _ => none
  | other value => PythonObject.dumps value

def Field.json : Field π → Option (Json F)
  | scalar value => value.json
  | list items => Json.arr <$> items.mapM Scalar.json
  | mapping exact members =>
      if exact then
        Json.obj <$> members.entries.mapM fun entry => Prod.mk entry.1 <$> entry.2.json
      else none

/-- The event as a JSON object. -/
def eventJson (event : RawEvent π) : Option (Json F) :=
  Json.obj <$> event.entries.mapM fun entry => Prod.mk entry.1 <$> entry.2.json

/-- `_canonical_bytes`. -/
def canonicalBytes [FloatText F] (event : RawEvent π) : Except HistoricalError String :=
  match eventJson event >>= Json.canonicalText with
  | some text => .ok text
  | none => .error (.invalid "value is not canonically serializable")

/-! ## Visible revisions -/

variable [FloatText F] [IsoFormat] [UuidFormat]

/-- A checked revision of an event with what the index keeps of it. -/
structure EventRevision (π : Type) [PythonObject F π] where
  event : RawEvent π
  facts : EventFacts
  canonical : String
  read : readEvent event = .ok facts
  encoded : canonicalBytes event = .ok canonical

/-- The checks of a revision against another one of the event that is visible. -/
def compareRevisions (revision other : EventRevision π) : Except HistoricalError Unit :=
  if revision.facts.sourceAt ≠ other.facts.sourceAt ∨
      revision.facts.instrumentVersion ≠ other.facts.instrumentVersion ∨
      revision.facts.kind ≠ other.facts.kind ∨
      revision.facts.adapterVersion ≠ other.facts.adapterVersion then
    .error (.conflict "event revision changed source identity metadata")
  else if other.facts.revision < revision.facts.revision ∧
      revision.facts.availableAt < other.facts.availableAt then
    .error (.conflict "higher event revision cannot backdate availability")
  else if revision.facts.revision < other.facts.revision ∧
      other.facts.availableAt < revision.facts.availableAt then
    .error (.conflict "higher event revision cannot predate lower revision availability")
  else if other.facts.revision < revision.facts.revision ∧
        revision.facts.knowledge ≤ other.facts.knowledge ∨
      revision.facts.revision < other.facts.revision ∧
        other.facts.knowledge ≤ revision.facts.knowledge then
    .error (.conflict "higher event revision must have later effective knowledge time")
  else .ok ()

/-- Revisions are indexed by event identity and revision number; a repeated
revision has the same bytes.  The knowledge times, which the source keeps in an
index of their own under the same keys, are read from the facts. -/
def revisionIndex : Versioning (EventRevision π) String Nat String HistoricalError where
  identity revision := revision.facts.eventId
  rank revision := revision.facts.revision
  content revision := revision.canonical
  compare := compareRevisions
  conflict := .conflict "same event revision has conflicting bytes"

/-- The event is visible by the cutoff. -/
def EventFacts.visible (facts : EventFacts) (point : Instant) : Bool :=
  !(point < facts.availableAt || point < facts.ingestedAt || point < facts.observedAt)

/-- One iteration of `causal_market_event_history`. -/
def admitEvent (point : Instant) (seen : Dict String (Dict Nat (EventRevision π)))
    (event : RawEvent π) : Except HistoricalError (Dict String (Dict Nat (EventRevision π))) :=
  match read : readEvent event with
  | .error error => .error error
  | .ok facts =>
      if !facts.visible point then .ok seen
      else match encoded : canonicalBytes event with
        | .error error => .error error
        | .ok canonical => revisionIndex.store seen ⟨event, facts, canonical, read, encoded⟩

/-- The key of the returned order: availability, source time, the identity as
it was given, and the revision. -/
def rowKey (event : RawEvent π) :
    Except HistoricalError (Instant ×ₗ Instant ×ₗ String ×ₗ Nat) := do
  let available ← utc (event.scalar? "available_at") "available_at"
  let sourceAt ← utc (event.scalar? "source_event_at") "source_event_at"
  let revision ← sequenceField (event.scalar? "revision") "revision"
  pure (toLex (available, toLex (sourceAt,
    toLex ((exactText (event.scalar? "event_id")).getD "", revision))))

/-- `rows.sort`. -/
def sortRows (rows : List (RawEvent π)) : Except HistoricalError (List (RawEvent π)) := do
  let keyed ← rows.mapM fun row => (rowKey row).map fun key => (key, row)
  pure ((keyed.insertionSort fun left right => left.1 ≤ right.1).map Prod.snd)

/-- `causal_market_event_history`. -/
def causalMarketEventHistory (events : List (RawEvent π)) (cutoff : Scalar π) :
    Except HistoricalError (List (RawEvent π)) := do
  let point ← utc (some cutoff) "cutoff"
  let seen ← events.foldlM (admitEvent point) ∅
  sortRows ((Versioning.stored seen).map EventRevision.event)

/-- One iteration of `point_in_time_market_events`. -/
def selectLatest (selected : Dict String (Nat × String × RawEvent π)) (event : RawEvent π) :
    Except HistoricalError (Dict String (Nat × String × RawEvent π)) := do
  let eventId ← uuid (event.scalar? "event_id") "event_id"
  let revision ← sequenceField (event.scalar? "revision") "revision"
  let canonical ← canonicalBytes event
  match selected.get? eventId with
  | none => .ok (selected.set eventId (revision, canonical, event))
  | some previous =>
      if previous.1 < revision then .ok (selected.set eventId (revision, canonical, event))
      else if revision = previous.1 ∧ canonical ≠ previous.2.1 then
        .error (.conflict "same event revision has conflicting bytes")
      else .ok selected

/-- `point_in_time_market_events`. -/
def pointInTimeMarketEvents (events : List (RawEvent π)) (cutoff : Scalar π) :
    Except HistoricalError (List (RawEvent π)) := do
  let history ← causalMarketEventHistory events cutoff
  let selected ← history.foldlM selectLatest ∅
  sortRows (selected.values.map fun item => item.2.2)

end AutoTrade.Research
