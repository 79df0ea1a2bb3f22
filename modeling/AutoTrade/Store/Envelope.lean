import AutoTrade.Lib.JsonParser
import AutoTrade.Lib.Raise
import AutoTrade.Lib.Text

/-!
# Event envelopes

The executable model of the envelope checks of `_persistence_impl.py`: the
contract checks an envelope claims by carrying `schema_version`, the columns a
writer derives from an envelope, and `_decode_event_row`, which checks the
columns again and restores the envelope.
-/

namespace AutoTrade.Store

open Lib

/-- What a store call raises. -/
inductive StoreError where
  | valueError (message : String)
  | typeError (message : String)
  | keyError (key : String)
  | integrityError
  /-- The `ValueError` of `json.dumps` on a float or an integer without text. -/
  | unwritable
  deriving DecidableEq, Repr

/-- What `_detach_json_value` returns: object keys are distinct. -/
structure Detached (F : Type) where
  value : Json F
  distinct : value.Distinct

/-- The parts of the standard library that the envelope checks call:
`urlsplit` finds a scheme, and `datetime.fromisoformat` accepts a text. -/
class TextFormats where
  urlsplit : String → Bool
  fromisoformat : String → Bool

/-- Formats that accept every text, for evaluation. -/
@[reducible] def TextFormats.lenient : TextFormats where
  urlsplit _ := true
  fromisoformat _ := true

section Envelope

variable {F : Type} [FloatText F] [DecidableEq F]

/-! ## Text and digests -/

/-- `canonical_json`. -/
def canonicalJsonText (value : Json F) : Except StoreError String :=
  match value.canonicalText with
  | some text => .ok text
  | none => .error .unwritable

/-- `"sha256:" + sha256(text).hexdigest()`, also `_event_envelope_digest`. -/
def textDigest [Fingerprint] (text : String) : String := "sha256:" ++ sha256 text

/-- `payload_digest`. -/
def payloadDigest [Fingerprint] (value : Json F) : Except StoreError String :=
  (canonicalJsonText value).map textDigest

/-- `_require_canonical_durable_text`. -/
def requireCanonicalDurableText (value : Option (Json F)) (name : String) :
    Except StoreError String :=
  match value with
  | some (.str text) =>
      if Normal text then .ok text
      else .error (.valueError s!"{name} must be canonical non-empty text")
  | _ => .error (.valueError s!"{name} must be canonical non-empty text")

/-- `_require_canonical_durable_text` on a text column. -/
def requireCanonicalColumn (text name : String) : Except StoreError Unit :=
  if Normal text then .ok ()
  else .error (.valueError s!"{name} must be canonical non-empty text")

/-- `_SEQUENCE_RE`. -/
def isSequence (text : String) : Bool :=
  text.toList = ['0'] ||
    (text.toList ≠ [] && text.toList.all Char.isDigit && text.toList.head? ≠ some '0')

/-- `_sequence` of a positive number. -/
def sequence (value : Option (Json F)) (name : String) : Except StoreError Nat :=
  match value with
  | some (.str text) =>
      if isSequence text = false then
        .error (.valueError s!"{name} must be a positive canonical integer sequence string")
      else if Json.maxStrDigits < text.toList.length then .error .unwritable
      else
        let number := Nat.ofDigitChars 10 text.toList 0
        if number = 0 then
          .error (.valueError s!"{name} must be a positive canonical integer sequence string")
        else .ok number
  | _ =>
      .error (.valueError s!"{name} must be a positive canonical integer sequence string")

variable (F) in
/-- `_outbox_envelope_digest`; its text has no float, whatever `F` is. -/
def outboxEnvelopeDigest [Fingerprint] (topic payloadJson : String) : Except StoreError String :=
  if Normal topic then
    (canonicalJsonText
      (.obj [("topic", .str topic), ("payload_json", .str payloadJson)] : Json F)).map textDigest
  else .error (.valueError "outbox topic must be canonical non-empty text")

/-! ## The envelope contract -/

def isHexDigit (character : Char) : Bool :=
  character.isDigit || ('a' ≤ character && character ≤ 'f') ||
    ('A' ≤ character && character ≤ 'F')

/-- `hexdigest` writes hexadecimal digits. -/
def HexDigests [Fingerprint] : Prop :=
  ∀ text, ∀ character ∈ (sha256 text).toList, isHexDigit character = true

/-- `_UUID_TEXT_RE`; `UUID` accepts every such text. -/
def isUuidText (text : String) : Bool :=
  let groups := text.toList.splitOn '-'
  groups.map List.length = [8, 4, 4, 4, 12] && groups.all fun group => group.all isHexDigit

/-- `_SEMVER_RE`. -/
def isSemVer (text : String) : Bool :=
  let groups := text.toList.splitOn '.'
  groups.length = 3 && groups.all fun group => group ≠ [] && group.all Char.isDigit

/-- `_UTC_INSTANT_RE`; a digit outside ASCII is rejected by `fromisoformat`. -/
def isUtcInstantText (text : String) : Bool :=
  let digits (part : List Char) (count : Nat) := part.length = count && part.all Char.isDigit
  match text.toList.splitOnP fun character => character = 'T' || character = 't' with
  | [day, moment] =>
      (match day.splitOn '-' with
        | [year, month, date] => digits year 4 && digits month 2 && digits date 2
        | _ => false) &&
      moment.getLast? = some 'Z' &&
      (match moment.dropLast.splitOn ':' with
        | [hour, minute, second] =>
            digits hour 2 && digits minute 2 &&
            (match second.splitOn '.' with
              | [whole] => digits whole 2
              | [whole, fraction] =>
                  digits whole 2 && fraction ≠ [] && fraction.all Char.isDigit
              | _ => false)
        | _ => false)
  | _ => false

/-- The `Digest` scalar. -/
def isDigest (text : String) : Bool :=
  let hex (character : Char) := character.isDigit || ('a' ≤ character && character ≤ 'f')
  "sha256:".toList.isPrefixOf text.toList &&
    (text.toList.drop 7).length = 64 && (text.toList.drop 7).all hex

/-- `_URI_TEXT_RE` without a malformed percent escape. -/
def isUriText (text : String) : Bool :=
  let letter (character : Char) :=
    ('a' ≤ character && character ≤ 'z') || ('A' ≤ character && character ≤ 'Z')
  let scheme := text.toList.takeWhile (· ≠ ':')
  let rest := text.toList.dropWhile (· ≠ ':')
  (match scheme with
    | first :: others => letter first && others.all fun character =>
        letter character || character.isDigit || "+.-".toList.contains character
    | [] => false) &&
  (match rest with
    | _ :: body => body.all fun character => letter character || character.isDigit ||
        "-._~:/?#[]@!$&'()*+,;=%".toList.contains character
    | [] => false) &&
  rest.tails.all fun tail =>
    match tail with
    | '%' :: first :: second :: _ => isHexDigit first && isHexDigit second
    | '%' :: _ => false
    | _ => true

/-- `_require_uuid_text`. -/
def requireUuidText (value : Option (Json F)) (name : String) : Except StoreError Unit :=
  match value with
  | some (.str text) =>
      if isUuidText text then .ok ()
      else .error (.valueError s!"{name} must be a UUID string")
  | _ => .error (.valueError s!"{name} must be a UUID string")

/-- `_require_absolute_uri`. -/
def requireAbsoluteUri [TextFormats] (value : Option (Json F)) (name : String) :
    Except StoreError Unit :=
  match value with
  | some (.str text) =>
      if isUriText text && TextFormats.urlsplit text then .ok ()
      else .error (.valueError s!"{name} must be an absolute URI")
  | _ => .error (.valueError s!"{name} must be an absolute URI")

/-- `_require_utc_instant`. -/
def requireUtcInstant [TextFormats] (value : Option (Json F)) (name : String) :
    Except StoreError Unit :=
  match value with
  | some (.str text) =>
      if isUtcInstantText text = false then
        .error (.valueError s!"{name} must be an RFC3339 UTC instant ending Z")
      else if TextFormats.fromisoformat (String.ofList text.toList.dropLast ++ "+00:00") then
        .ok ()
      else .error (.valueError s!"{name} must be a valid UTC instant")
  | _ => .error (.valueError s!"{name} must be an RFC3339 UTC instant ending Z")

/-- A text field that satisfies a predicate, as `is_valid_common_scalar` checks it. -/
def requireScalar (valid : String → Bool) (value : Option (Json F)) (message : String) :
    Except StoreError Unit :=
  match value with
  | some (.str text) => if valid text then .ok () else .error (.valueError message)
  | _ => .error (.valueError message)

/-- A check of a field that may be missing. -/
def ifPresent (value : Option (Json F)) (check : Option (Json F) → Except StoreError Unit) :
    Except StoreError Unit :=
  match value with
  | none => .ok ()
  | some _ => check value

/-- The `Environment` scalar. -/
def isEnvironment (text : String) : Bool :=
  ["REPLAY", "SIMULATION", "PAPER", "LIVE"].contains text

/-- `_EVENT_ENVELOPE_REQUIRED_FIELDS`, sorted. -/
def requiredFields : List String := [
  "aggregate_id", "aggregate_type", "aggregate_version", "committed_at", "correlation_id",
  "environment", "event_id", "event_type", "evidence_refs", "host_id", "observed_at",
  "occurred_at", "owner_epoch", "payload", "payload_hash", "schema_version"]

/-- `_EVENT_ENVELOPE_OPTIONAL_FIELDS`, sorted. -/
def optionalFields : List String := [
  "account_id", "causation_id", "provider_event_id", "provider_id", "provider_sequence",
  "source_resolution"]

/-- The keys of an object, none for another value. -/
def fieldsOf (value : Json F) : List String :=
  match value with
  | .obj members => members.map Prod.fst
  | _ => []

/-- `_validate_evidence_ref`. -/
def validateEvidenceRef [TextFormats] (value : Json F) : Except StoreError Unit :=
  match value with
  | .obj _ => do
      let fields := fieldsOf value
      if ¬ ["artifact_id", "sha256", "observed_at"] ⊆ fields then
        throw (.valueError "EventEnvelope EvidenceRef is missing required fields")
      if ¬ fields ⊆ ["artifact_id", "sha256", "observed_at", "source_uri", "rights_id"] then
        throw (.valueError "EventEnvelope EvidenceRef contains unsupported fields")
      requireUuidText (value.get? "artifact_id") "EvidenceRef artifact_id"
      requireScalar isDigest (value.get? "sha256")
        "EvidenceRef sha256 must be a canonical Digest"
      requireUtcInstant (value.get? "observed_at") "EvidenceRef observed_at"
      ifPresent (value.get? "source_uri") fun field =>
        requireAbsoluteUri field "EvidenceRef source_uri"
      ifPresent (value.get? "rights_id") fun field =>
        requireScalar (· ≠ "") field "EvidenceRef rights_id must be non-empty text"
  | _ => .error (.valueError "EventEnvelope evidence_refs entries must be objects")

/-- The evidence references of an envelope. -/
def validateEvidenceRefs [TextFormats] (value : Option (Json F)) : Except StoreError Unit :=
  match value with
  | some (.arr references) => references.forM validateEvidenceRef
  | _ => .error (.valueError "EventEnvelope evidence_refs must be an array")

/-- A causation id may be missing or `None`. -/
def validateCausation (value : Option (Json F)) : Except StoreError Unit :=
  match value with
  | none => .ok ()
  | some .null => .ok ()
  | some _ => requireUuidText value "EventEnvelope causation_id"

/-- The checks of an envelope with every required field and no unknown one. -/
def validateFields [TextFormats] (envelope : Json F) : Except StoreError Unit := do
  requireUuidText (envelope.get? "event_id") "EventEnvelope event_id"
  requireUuidText (envelope.get? "correlation_id") "EventEnvelope correlation_id"
  validateCausation (envelope.get? "causation_id")
  ["event_type", "aggregate_type", "aggregate_id", "host_id"].forM fun field =>
    requireScalar (· ≠ "") (envelope.get? field) s!"EventEnvelope {field} must be non-empty text"
  requireScalar isSemVer (envelope.get? "schema_version")
    "EventEnvelope schema_version must be SemVer text"
  requireScalar isSequence (envelope.get? "aggregate_version")
    "EventEnvelope aggregate_version must be a canonical Sequence"
  requireScalar isSequence (envelope.get? "owner_epoch")
    "EventEnvelope owner_epoch must be a canonical Sequence"
  requireScalar isEnvironment (envelope.get? "environment")
    "EventEnvelope environment must be canonical"
  ["occurred_at", "observed_at", "committed_at"].forM fun field =>
    requireUtcInstant (envelope.get? field) s!"EventEnvelope {field}"
  requireScalar isDigest (envelope.get? "payload_hash")
    "EventEnvelope payload_hash must be a canonical Digest"
  validateEvidenceRefs (envelope.get? "evidence_refs")
  ["provider_id", "account_id", "provider_event_id", "source_resolution"].forM fun field =>
    ifPresent (envelope.get? field) fun value =>
      requireScalar (· ≠ "") value s!"EventEnvelope {field} must be non-empty text"
  ifPresent (envelope.get? "provider_sequence") fun value =>
    requireScalar isSequence value
      "EventEnvelope provider_sequence must be a canonical Sequence"

/-- `_validate_canonical_event_envelope_if_claimed`. -/
def validateCanonicalEventEnvelopeIfClaimed [TextFormats] (envelope : Json F) :
    Except StoreError Unit :=
  if "schema_version" ∉ fieldsOf envelope then .ok ()
  else do
    let missing := requiredFields.filter (· ∉ fieldsOf envelope)
    let unknown := ((fieldsOf envelope).filter (· ∉ requiredFields ++ optionalFields)
      |>.insertionSort (· ≤ ·))
    if missing ≠ [] then
      throw (.valueError ("canonical EventEnvelope is missing required fields: " ++
        String.intercalate ", " missing))
    if unknown ≠ [] then
      throw (.valueError ("canonical EventEnvelope contains unsupported fields: " ++
        String.intercalate ", " unknown))
    validateFields envelope

/-! ## Columns -/

/-- The columns of `events` that come from an envelope. -/
structure EventCore where
  eventId : String
  eventType : String
  aggregateType : String
  aggregateId : String
  aggregateVersion : Nat
  payloadJson : String
  payloadHash : String
  committedAt : String
  envelopeJson : String
  envelopeHash : String
  deriving DecidableEq, Repr

/-- An envelope with its publication intent, ready to be inserted. -/
structure PreparedEvent extends EventCore where
  outboxTopic : Option String
  deriving DecidableEq, Repr

/-- A row of `events`. -/
structure EventRow extends EventCore where
  journalSequence : Nat
  deriving DecidableEq, Repr

/-- `envelope.get("payload")`. -/
def payloadOf (envelope : Json F) : Json F := (envelope.get? "payload").getD .null

/-- The checks of a publication topic. -/
def checkTopic (outboxTopic : Option String) : Except StoreError Unit :=
  match outboxTopic with
  | none => .ok ()
  | some topic => requireCanonicalColumn topic "outbox_topic"

/-- The envelope checks of `append_event`. -/
def appendColumns [TextFormats] [Fingerprint] (envelope : Json F)
    (outboxTopic : Option String) : Except StoreError PreparedEvent :=
  match envelope with
  | .obj _ => do
      validateCanonicalEventEnvelopeIfClaimed envelope
      let eventId ← requireCanonicalDurableText (envelope.get? "event_id") "event_id"
      let eventType ← requireCanonicalDurableText (envelope.get? "event_type") "event_type"
      let aggregateType ← requireCanonicalDurableText (envelope.get? "aggregate_type")
        "aggregate_type"
      let aggregateId ← requireCanonicalDurableText (envelope.get? "aggregate_id") "aggregate_id"
      let aggregateVersion ← sequence (envelope.get? "aggregate_version") "aggregate_version"
      let payloadHash ← payloadDigest (payloadOf envelope)
      if envelope.get? "payload_hash" ≠ some (.str payloadHash) then
        throw (.valueError "payload_hash does not match payload")
      let payloadJson ← canonicalJsonText (payloadOf envelope)
      let envelopeJson ← canonicalJsonText envelope
      let committedAt ← requireCanonicalDurableText (envelope.get? "committed_at")
        "committed_at"
      checkTopic outboxTopic
      pure {
        eventId, eventType, aggregateType, aggregateId, aggregateVersion, payloadJson,
        payloadHash, committedAt, envelopeJson, outboxTopic
        envelopeHash := textDigest envelopeJson }
  | _ => .error (.typeError "event envelope must be an exact dict")

/-- The envelope checks of `commit_command`, after the events with the ids
`seen`. -/
def batchColumns [TextFormats] [Fingerprint] (seen : List String) (envelope : Json F)
    (outboxTopic : Option String) : Except StoreError PreparedEvent :=
  match envelope with
  | .obj _ => do
      validateCanonicalEventEnvelopeIfClaimed envelope
      let eventId ← requireCanonicalDurableText (envelope.get? "event_id") "event_id"
      if eventId ∈ seen then
        throw (.valueError "event_id is duplicated within the transaction")
      let eventType ← requireCanonicalDurableText (envelope.get? "event_type") "event_type"
      let aggregateType ← requireCanonicalDurableText (envelope.get? "aggregate_type")
        "aggregate_type"
      let aggregateId ← requireCanonicalDurableText (envelope.get? "aggregate_id") "aggregate_id"
      let aggregateVersion ← sequence (envelope.get? "aggregate_version") "aggregate_version"
      let payloadJson ← canonicalJsonText (payloadOf envelope)
      let payloadHash := textDigest payloadJson
      if envelope.get? "payload_hash" ≠ some (.str payloadHash) then
        throw (.valueError "payload_hash does not match payload")
      let committedAt ← requireCanonicalDurableText (envelope.get? "committed_at")
        "committed_at"
      checkTopic outboxTopic
      let envelopeJson ← canonicalJsonText envelope
      pure {
        eventId, eventType, aggregateType, aggregateId, aggregateVersion, payloadJson,
        payloadHash, committedAt, envelopeJson, outboxTopic
        envelopeHash := textDigest envelopeJson }
  | _ => .error (.typeError "Each event envelope must be an exact dict")

/-- The batch checks of `commit_command`, after the events with the ids `seen`. -/
def prepareBatch [TextFormats] [Fingerprint] (seen : List String) :
    List (Detached F × Option String) → Except StoreError (List PreparedEvent)
  | [] => .ok []
  | (envelope, outboxTopic) :: rest => do
      let prepared ← batchColumns seen envelope.value outboxTopic
      let others ← prepareBatch (prepared.eventId :: seen) rest
      pure (prepared :: others)

/-! ## Decoding -/

/-- `json.loads` and the canonical round trip that every stored text must make. -/
def loadCanonical (text : String) (invalid notCanonical : String) :
    Except StoreError (Json F) :=
  match Json.loads text with
  | none => .error (.valueError invalid)
  | some value => do
      let again ← canonicalJsonText value
      if again ≠ text then .error (.valueError notCanonical) else pure value

/-- `str` of a version. -/
def versionText (version : Nat) : String := String.ofList (Nat.toDigits 10 version)

/-- The envelope fields that the columns repeat. -/
def coreEnvelope (row : EventCore) (payload : Json F) : List (String × Json F) := [
  ("event_id", .str row.eventId), ("event_type", .str row.eventType),
  ("aggregate_type", .str row.aggregateType), ("aggregate_id", .str row.aggregateId),
  ("aggregate_version", .str (versionText row.aggregateVersion)), ("payload", payload),
  ("payload_hash", .str row.payloadHash), ("committed_at", .str row.committedAt)]

/-- The envelope repeats the columns.  Payloads on both sides were read from
canonical text, so their keys are in one order. -/
def checkCore (row : EventCore) (payload envelope : Json F) : Except StoreError Unit :=
  (coreEnvelope row payload).forM fun field =>
    if (envelope.get? field.1).getD .null ≠ field.2 then
      .error (.valueError "journal event envelope conflicts with core journal event")
    else .ok ()

/-- `dict.update`. -/
def update (value : Json F) (fields : List (String × Json F)) : Json F :=
  match value with
  | .obj members =>
      .obj (fields.foldl (fun members field => Dict.insertEntry field.1 field.2 members) members)
  | value => value

/-- What a decoded row shows of the columns. -/
def decodedFields (row : EventCore) (journalSequence : Option Nat) (payload : Json F) :
    List (String × Json F) := [
  ("event_id", .str row.eventId), ("event_type", .str row.eventType),
  ("aggregate_type", .str row.aggregateType), ("aggregate_id", .str row.aggregateId),
  ("aggregate_version", .int row.aggregateVersion), ("payload", payload),
  ("payload_hash", .str row.payloadHash), ("committed_at", .str row.committedAt)] ++
  match journalSequence with
  | none => []
  | some position => [("journal_sequence", .int position)]

/-- `_decode_event_row`, of a row that was selected with or without its
`journal_sequence`. -/
def decodeEventRow [TextFormats] [Fingerprint] (row : EventCore)
    (journalSequence : Option Nat) : Except StoreError (Json F) := do
  requireCanonicalColumn row.eventId "event_id"
  requireCanonicalColumn row.eventType "event_type"
  requireCanonicalColumn row.aggregateType "aggregate_type"
  requireCanonicalColumn row.aggregateId "aggregate_id"
  requireCanonicalColumn row.committedAt "committed_at"
  if row.aggregateVersion = 0 then
    throw (.valueError "aggregate_version must be a positive canonical integer")
  let payload : Json F ← loadCanonical row.payloadJson
    "journal event payload is not valid JSON" "journal event payload is not canonical JSON"
  let payloadHash ← payloadDigest payload
  if payloadHash ≠ row.payloadHash then
    throw (.valueError "journal event payload hash does not match stored payload")
  if journalSequence = some 0 then
    throw (.valueError "journal event sequence must be a positive integer")
  if row.envelopeHash ≠ textDigest row.envelopeJson then
    throw (.valueError "journal event envelope hash does not match stored envelope")
  let envelope : Json F ← loadCanonical row.envelopeJson
    "journal event envelope is not valid JSON" "journal event envelope is not canonical JSON"
  match envelope with
  | .obj _ => do
      validateCanonicalEventEnvelopeIfClaimed envelope
      checkCore row payload envelope
      pure (update envelope (decodedFields row journalSequence payload))
  | _ => throw (.valueError "journal event envelope must be a JSON object")

end Envelope

end AutoTrade.Store
