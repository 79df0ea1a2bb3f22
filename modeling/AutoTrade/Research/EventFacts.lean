import AutoTrade.Lib.JsonParser
import AutoTrade.Research.MarketEvents

/-!
# The facts of an event

Canonical bytes determine everything that the checks of an event read.
-/

namespace AutoTrade.Research

open Lib Provider Reconciliation

variable {π : Type}

/-! ## Readers -/

theorem text_eq_ok {value : Option (Scalar π)} {name result : String}
    (success : text value name = .ok result) : ∃ raw, value = some (.text raw) := by
  unfold text at success
  split at success
  next raw => exact ⟨raw, rfl⟩
  next => cases success

theorem sequenceField_eq_ok {value : Option (Scalar π)} {name : String} {result : Nat}
    (success : sequenceField value name = .ok result) : ∃ raw, value = some (.text raw) := by
  unfold sequenceField at success
  split at success
  next raw => exact ⟨raw, rfl⟩
  next => cases success

/-- A field from which an instant is read holds a text or a datetime. -/
theorem utc_eq_ok [IsoFormat] {value : Option (Scalar π)} {name : String} {instant : Instant}
    (success : utc value name = .ok instant) :
    (∃ raw, value = some (.text raw)) ∨ ∃ moment, value = some (.datetime moment) := by
  unfold utc at success
  split at success
  next => exact .inr ⟨_, rfl⟩
  next => cases success
  next => cases success
  next => cases success
  next =>
    rw [bind_eq_ok] at success
    obtain ⟨_, present, -⟩ := success
    exact .inl (text_eq_ok present)

theorem uuid_eq_ok [UuidFormat] {value : Option (Scalar π)} {name result : String}
    (success : uuid value name = .ok result) : ∃ raw, value = some (.text raw) := by
  rw [uuid, bind_eq_ok] at success
  obtain ⟨_, present, -⟩ := success
  exact text_eq_ok present

theorem readAdapterVersion_eq_ok {event : RawEvent π} {version : String}
    (success : readAdapterVersion event = .ok version) :
    event.scalar? "adapter_version" = some (.text version) := by
  rw [readAdapterVersion] at success
  split at success
  next value found =>
    split at success
    next =>
      cases success
      unfold exactText at found
      split at found
      next present =>
        cases found
        exact present
      next => cases found
    next => cases success
  next => cases success

theorem evidence_eq_ok [IsoFormat] [UuidFormat] {value : Option (Field π)} {observed : Instant}
    (success : evidence value = .ok observed) :
    ∃ exact members, value = some (.mapping exact members) ∧
      utc (members.get? "observed_at") "observed_at" = .ok observed := by
  unfold evidence at success
  split at success
  next exact members =>
    simp only [guard_eq_ok, bind_eq_ok, Except.ok.injEq] at success
    obtain ⟨-, -, _, -, _, -, instant, read, _, -, _, -, rfl⟩ := success
    exact ⟨exact, members, rfl, read⟩
  next => cases success

/-! ## Canonical bytes -/

section Canonical

variable {F : Type} [PythonObject F π]

theorem Scalar.json_distinct {value : Scalar π} {json : Json F} (written : value.json = some json) :
    json.Distinct := by
  cases value with
  | text value =>
      cases written
      exact True.intro
  | datetime moment => cases written
  | other value => exact PythonObject.dumps_distinct written

/-- Members written one by one keep their keys. -/
theorem members_mapM {ν : Type} {write : ν → Option (Json F)} {entries : List (String × ν)}
    {members : List (String × Json F)}
    (written : (entries.mapM fun entry => Prod.mk entry.1 <$> write entry.2) = some members) :
    members.map Prod.fst = entries.map Prod.fst ∧
      (∀ key, Dict.find? key members = (Dict.find? key entries).bind write) ∧
      ∀ entry ∈ entries, (write entry.2).isSome := by
  induction entries generalizing members with
  | nil =>
      cases written
      exact ⟨rfl, fun _ => rfl, fun _ member => absurd member List.not_mem_nil⟩
  | cons entry rest ih =>
      rw [List.mapM_cons] at written
      simp only [Option.bind_eq_bind, Option.bind_eq_some_iff, Option.map_eq_map,
        Option.map_eq_some_iff, Option.pure_def, Option.some.injEq] at written
      obtain ⟨_, ⟨json, first, rfl⟩, others, tail, rfl⟩ := written
      obtain ⟨keys, found, all⟩ := ih tail
      refine ⟨by rw [List.map_cons, List.map_cons, keys], ?_, ?_⟩
      · intro key
        rw [Dict.find?, Dict.find?]
        split
        next => exact first.symm
        next => exact found key
      · intro other member
        rcases List.mem_cons.mp member with rfl | later
        · rw [first]
          rfl
        · exact all other later

theorem distinctMembers_mapM {ν : Type} (write : ν → Option (Json F))
    (distinct : ∀ {value json}, write value = some json → json.Distinct)
    {entries : List (String × ν)} {members : List (String × Json F)}
    (written : (entries.mapM fun entry => Prod.mk entry.1 <$> write entry.2) = some members) :
    Json.DistinctMembers members := by
  induction entries generalizing members with
  | nil =>
      cases written
      exact True.intro
  | cons entry rest ih =>
      rw [List.mapM_cons] at written
      simp only [Option.bind_eq_bind, Option.bind_eq_some_iff, Option.map_eq_map,
        Option.map_eq_some_iff, Option.pure_def, Option.some.injEq] at written
      obtain ⟨_, ⟨json, first, rfl⟩, others, tail, rfl⟩ := written
      exact ⟨distinct first, ih tail⟩

theorem distinctItems_mapM {items : List (Scalar π)} {written : List (Json F)}
    (all : items.mapM Scalar.json = some written) : Json.DistinctItems written := by
  induction items generalizing written with
  | nil =>
      cases all
      exact True.intro
  | cons item rest ih =>
      rw [List.mapM_cons] at all
      simp only [Option.bind_eq_bind, Option.bind_eq_some_iff, Option.pure_def,
        Option.some.injEq] at all
      obtain ⟨json, first, others, tail, rfl⟩ := all
      exact ⟨Scalar.json_distinct first, ih tail⟩

theorem Field.json_distinct {value : Field π} {json : Json F} (written : value.json = some json) :
    json.Distinct := by
  cases value with
  | scalar value => exact Scalar.json_distinct written
  | list items =>
      rw [Field.json, Option.map_eq_map, Option.map_eq_some_iff] at written
      obtain ⟨members, all, rfl⟩ := written
      exact distinctItems_mapM all
  | mapping exact members =>
      rw [Field.json] at written
      split at written
      next =>
        rw [Option.map_eq_map, Option.map_eq_some_iff] at written
        obtain ⟨written, all, rfl⟩ := written
        refine ⟨?_, distinctMembers_mapM Scalar.json Scalar.json_distinct all⟩
        rw [(members_mapM all).1]
        exact members.nodup
      next => cases written

theorem eventJson_distinct {event : RawEvent π} {json : Json F}
    (written : eventJson event = some json) : json.Distinct := by
  rw [eventJson, Option.map_eq_map, Option.map_eq_some_iff] at written
  obtain ⟨members, all, rfl⟩ := written
  refine ⟨?_, distinctMembers_mapM Field.json Field.json_distinct all⟩
  rw [(members_mapM all).1]
  exact event.nodup

theorem eventJson_get? {event : RawEvent π} {json : Json F}
    (written : eventJson event = some json) (key : String) :
    json.get? key = (event.get? key).bind Field.json := by
  rw [eventJson, Option.map_eq_map, Option.map_eq_some_iff] at written
  obtain ⟨members, all, rfl⟩ := written
  exact (members_mapM all).2.1 key

/-- No field of an event that has canonical bytes holds a datetime. -/
theorem eventJson_isSome {event : RawEvent π} {json : Json F}
    (written : eventJson event = some json) {key : String} {value : Field π}
    (found : event.get? key = some value) : (value.json).isSome := by
  rw [eventJson, Option.map_eq_map, Option.map_eq_some_iff] at written
  obtain ⟨members, all, rfl⟩ := written
  exact (members_mapM all).2.2 (key, value) (Dict.mem_entries.mpr found)

/-- A mapping that has a JSON value is a dictionary of members that have one. -/
theorem mapping_json {exact : Bool} {members : Dict String (Scalar π)} {json : Json F}
    (written : (Field.mapping exact members).json = some json) :
    (∀ key, json.get? key = (members.get? key).bind Scalar.json) ∧
      ∀ key value, members.get? key = some value → value.json.isSome := by
  rw [Field.json] at written
  split at written
  next =>
    rw [Option.map_eq_map, Option.map_eq_some_iff] at written
    obtain ⟨entries, all, rfl⟩ := written
    obtain ⟨-, found, serialized⟩ := members_mapM all
    exact ⟨found, fun key value listed => serialized (key, value) (Dict.mem_entries.mpr listed)⟩
  next => cases written

theorem RawEvent.scalar?_eq_some {event : RawEvent π} {key : String} {value : Scalar π} :
    event.scalar? key = some value ↔ event.get? key = some (.scalar value) := by
  rw [RawEvent.scalar?, Option.bind_eq_some_iff]
  constructor
  · intro ⟨field, found, scalar⟩
    cases field with
    | scalar other =>
        cases scalar
        exact found
    | list items => cases scalar
    | mapping exact members => cases scalar
  · intro found
    exact ⟨_, found, rfl⟩

/-- What the checks of an event read where. -/
structure Reads [IsoFormat] [UuidFormat] (event : RawEvent π) (facts : EventFacts) : Prop where
  rawEventId : facts.rawEventId = (exactText (event.scalar? "event_id")).getD ""
  eventId : uuid (event.scalar? "event_id") "event_id" = .ok facts.eventId
  instrumentVersion : text (event.scalar? "instrument_version") "instrument_version" =
    .ok facts.instrumentVersion
  adapterVersion : readAdapterVersion event = .ok facts.adapterVersion
  kind : text (event.scalar? "kind") "kind" = .ok facts.kind
  revision : sequenceField (event.scalar? "revision") "revision" = .ok facts.revision
  availableAt : utc (event.scalar? "available_at") "available_at" = .ok facts.availableAt
  sourceAt : utc (event.scalar? "source_event_at") "source_event_at" = .ok facts.sourceAt
  ingestedAt : utc (event.scalar? "ingested_at") "ingested_at" = .ok facts.ingestedAt
  observedAt : evidence (event.get? "raw_evidence_ref") = .ok facts.observedAt

theorem readEvent_eq_ok [IsoFormat] [UuidFormat] {event : RawEvent π} {facts : EventFacts}
    (success : readEvent event = .ok facts) : Reads event facts := by
  simp only [readEvent, bind_eq_ok, guard_eq_ok, checkTimes] at success
  obtain ⟨_, -, eventId, eventIdRead, instrumentVersion, instrumentRead, adapterVersion,
    adapterRead, kind, kindRead, -, -, _, -, _, -, revision, revisionRead, available,
    availableRead, sourceAt, sourceRead, ingested, ingestedRead, _, -, -, -, observed,
    observedRead, -, -, equal⟩ := success
  cases equal
  exact ⟨rfl, eventIdRead, instrumentRead, adapterRead, kindRead, revisionRead, availableRead,
    sourceRead, ingestedRead, observedRead⟩

variable [FloatText F]

theorem canonicalBytes_eq_ok {event : RawEvent π} {bytes : String} :
    canonicalBytes event = .ok bytes ↔
      ∃ json, eventJson event = some json ∧ json.canonicalText = some bytes := by
  rw [← Option.bind_eq_some_iff, canonicalBytes]
  cases written : eventJson event >>= Json.canonicalText with
  | none =>
      constructor
      · intro impossible
        cases impossible
      · intro impossible
        rw [Option.bind_eq_bind] at written
        rw [written] at impossible
        cases impossible
  | some other =>
      rw [Option.bind_eq_bind] at written
      rw [written, Option.some.injEq]
      exact Except.ok.injEq other bytes ▸ Iff.rfl

/-- The events have one canonical text. -/
def SameBytes (first second : RawEvent π) : Prop :=
  ∃ bytes, canonicalBytes first = .ok bytes ∧ canonicalBytes second = .ok bytes

variable {first second : RawEvent π}

/-- Members of events with one canonical text differ in the order of keys at most. -/
theorem SameBytes.get? (same : SameBytes first second) (key : String) :
    ((first.get? key).bind Field.json).map Json.normal =
      ((second.get? key).bind Field.json).map Json.normal := by
  obtain ⟨bytes, firstBytes, secondBytes⟩ := same
  obtain ⟨firstJson, firstWritten, firstText⟩ := canonicalBytes_eq_ok.mp firstBytes
  obtain ⟨secondJson, secondWritten, secondText⟩ := canonicalBytes_eq_ok.mp secondBytes
  have distinct := eventJson_distinct firstWritten
  have otherDistinct := eventJson_distinct secondWritten
  have normal := Json.canonicalText_injective distinct otherDistinct firstText secondText
  rw [← eventJson_get? firstWritten, ← eventJson_get? secondWritten, ← Json.get?_normal distinct,
    ← Json.get?_normal otherDistinct, normal]

/-- A text field of events with one canonical text is the same. -/
theorem SameBytes.scalar? (same : SameBytes first second) {key firstText secondText : String}
    (firstFound : first.scalar? key = some (.text firstText))
    (secondFound : second.scalar? key = some (.text secondText)) :
    first.scalar? key = second.scalar? key := by
  have members := same.get? key
  rw [RawEvent.scalar?_eq_some.mp firstFound, RawEvent.scalar?_eq_some.mp secondFound] at members
  have equal : firstText = secondText := by
    simpa [Field.json, Scalar.json, Json.normal] using members
  rw [firstFound, secondFound, equal]

/-- An event with canonical bytes holds no datetime. -/
theorem scalar?_ne_datetime {event : RawEvent π} {bytes key : String} {moment : Moment}
    (encoded : canonicalBytes event = .ok bytes) : event.scalar? key ≠ some (.datetime moment) := by
  intro found
  obtain ⟨json, written, -⟩ := canonicalBytes_eq_ok.mp encoded
  have serialized := eventJson_isSome written (RawEvent.scalar?_eq_some.mp found)
  cases serialized

/-! ## Facts -/

variable [IsoFormat]

/-- The time fields of events with one canonical text are the same. -/
theorem SameBytes.time (same : SameBytes first second) {key firstName secondName : String}
    {firstTime secondTime : Instant}
    (firstRead : utc (first.scalar? key) firstName = .ok firstTime)
    (secondRead : utc (second.scalar? key) secondName = .ok secondTime) :
    first.scalar? key = second.scalar? key := by
  obtain ⟨bytes, firstBytes, secondBytes⟩ := same
  rcases utc_eq_ok firstRead with ⟨firstText, firstFound⟩ | ⟨moment, found⟩
  · rcases utc_eq_ok secondRead with ⟨secondText, secondFound⟩ | ⟨moment, found⟩
    · exact SameBytes.scalar? ⟨bytes, firstBytes, secondBytes⟩ firstFound secondFound
    · exact absurd found (scalar?_ne_datetime secondBytes)
  · exact absurd found (scalar?_ne_datetime firstBytes)

variable [UuidFormat]

theorem SameBytes.observedAt (same : SameBytes first second) {firstTime secondTime : Instant}
    (firstRead : evidence (first.get? "raw_evidence_ref") = .ok firstTime)
    (secondRead : evidence (second.get? "raw_evidence_ref") = .ok secondTime) :
    firstTime = secondTime := by
  obtain ⟨firstExact, firstMembers, firstFound, firstObserved⟩ := evidence_eq_ok firstRead
  obtain ⟨secondExact, secondMembers, secondFound, secondObserved⟩ := evidence_eq_ok secondRead
  have members := same.get? "raw_evidence_ref"
  obtain ⟨bytes, firstBytes, secondBytes⟩ := same
  obtain ⟨_, firstWritten, -⟩ := canonicalBytes_eq_ok.mp firstBytes
  obtain ⟨_, secondWritten, -⟩ := canonicalBytes_eq_ok.mp secondBytes
  obtain ⟨firstJson, firstValue⟩ :=
    Option.isSome_iff_exists.mp (eventJson_isSome firstWritten firstFound)
  obtain ⟨secondJson, secondValue⟩ :=
    Option.isSome_iff_exists.mp (eventJson_isSome secondWritten secondFound)
  rw [firstFound, secondFound, Option.bind_some, Option.bind_some, firstValue, secondValue,
    Option.map_some, Option.map_some, Option.some.injEq] at members
  obtain ⟨firstGet, firstSerialized⟩ := mapping_json firstValue
  obtain ⟨secondGet, secondSerialized⟩ := mapping_json secondValue
  have observed := Json.get?_normal (Field.json_distinct firstValue) "observed_at"
  rw [members, Json.get?_normal (Field.json_distinct secondValue), firstGet, secondGet] at observed
  have datetime : ∀ {members : Dict String (Scalar π)} {moment : Moment},
      (∀ key value, members.get? key = some value → value.json.isSome) →
        members.get? "observed_at" ≠ some (.datetime moment) := by
    intro members moment serialized found
    cases serialized _ _ found
  rcases utc_eq_ok firstObserved with ⟨firstText, firstPresent⟩ | ⟨moment, present⟩
  · rcases utc_eq_ok secondObserved with ⟨secondText, secondPresent⟩ | ⟨moment, present⟩
    · rw [firstPresent, secondPresent] at observed
      have equal : secondText = firstText := by
        simpa [Scalar.json, Json.normal] using observed
      rw [firstPresent] at firstObserved
      rw [secondPresent, equal, firstObserved] at secondObserved
      exact Except.ok.inj secondObserved
    · exact absurd present (datetime secondSerialized)
  · exact absurd present (datetime firstSerialized)

/-- Canonical bytes determine the facts. -/
theorem SameBytes.facts (same : SameBytes first second) {firstFacts secondFacts : EventFacts}
    (firstRead : readEvent first = .ok firstFacts)
    (secondRead : readEvent second = .ok secondFacts) : firstFacts = secondFacts := by
  have left := readEvent_eq_ok firstRead
  have right := readEvent_eq_ok secondRead
  have field : ∀ {key : String},
      (∃ raw, first.scalar? key = some (.text raw)) →
      (∃ raw, second.scalar? key = some (.text raw)) →
        first.scalar? key = second.scalar? key := by
    intro key ⟨_, firstFound⟩ ⟨_, secondFound⟩
    exact same.scalar? firstFound secondFound
  have read : ∀ {α : Type} {value other : Option (Scalar π)}
      (reader : Option (Scalar π) → Except HistoricalError α) {result otherResult : α},
      value = other → reader value = .ok result → reader other = .ok otherResult →
        result = otherResult := by
    intro α value other reader result otherResult equal success otherSuccess
    rw [equal, otherSuccess] at success
    exact (Except.ok.inj success).symm
  have eventId := field (uuid_eq_ok left.eventId) (uuid_eq_ok right.eventId)
  have instrument := field (text_eq_ok left.instrumentVersion) (text_eq_ok right.instrumentVersion)
  have leftAdapter := readAdapterVersion_eq_ok left.adapterVersion
  have rightAdapter := readAdapterVersion_eq_ok right.adapterVersion
  have adapter := field ⟨_, leftAdapter⟩ ⟨_, rightAdapter⟩
  have kind := field (text_eq_ok left.kind) (text_eq_ok right.kind)
  have revision := field (sequenceField_eq_ok left.revision) (sequenceField_eq_ok right.revision)
  apply EventFacts.ext
  · rw [left.rawEventId, right.rawEventId, eventId]
  · exact read (fun value => uuid value "event_id") eventId left.eventId right.eventId
  · exact read (fun value => text value "instrument_version") instrument
      left.instrumentVersion right.instrumentVersion
  · rw [leftAdapter, rightAdapter, Option.some.injEq, Scalar.text.injEq] at adapter
    exact adapter
  · exact read (fun value => text value "kind") kind left.kind right.kind
  · exact read (fun value => sequenceField value "revision") revision left.revision
      right.revision
  · exact read (fun value => utc value "available_at")
      (same.time left.availableAt right.availableAt) left.availableAt right.availableAt
  · exact read (fun value => utc value "source_event_at")
      (same.time left.sourceAt right.sourceAt) left.sourceAt right.sourceAt
  · exact read (fun value => utc value "ingested_at")
      (same.time left.ingestedAt right.ingestedAt) left.ingestedAt right.ingestedAt
  · exact same.observedAt left.observedAt right.observedAt

end Canonical

end AutoTrade.Research
