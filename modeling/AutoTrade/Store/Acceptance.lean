import AutoTrade.Store.Loading
import AutoTrade.Store.Retries

/-!
# No poison events

An envelope that a writer has accepted is read back by every reader, after any
further calls.
-/

namespace AutoTrade.Store.Tables

open Lib

section Statements

variable {F : Type} [FloatText F] [DecidableEq F] [TextFormats] [Fingerprint]

/-- The event readers return an envelope as `decoded`, which shows the journal
sequence of its row and otherwise the envelope, with its version as an integer. -/
structure Loads (tables : Tables) (envelope : Detached F) (row : EventRow)
    (decoded : Json F) : Prop where
  eventId : envelope.value.get? "event_id" = some (.str row.eventId)
  aggregateType : envelope.value.get? "aggregate_type" = some (.str row.aggregateType)
  aggregateId : envelope.value.get? "aggregate_id" = some (.str row.aggregateId)
  version : envelope.value.get? "aggregate_version" =
    some (.str (versionText row.aggregateVersion))
  shows : Shows envelope.value row.toEventCore (some row.journalSequence) decoded
  getEvent : tables.getEvent row.eventId = .ok (some decoded)
  loadEvents : ∃ events : List (Json F),
    tables.loadEvents row.aggregateType row.aggregateId = .ok events ∧
      events[row.aggregateVersion - 1]? = some decoded
  page : ∀ cursor limit, cursor ≤ tables.events.length → 0 < limit → limit ≤ 100000 →
    ∃ events : List (Json F), tables.loadEventsAfterJournalSequence cursor limit = .ok events ∧
      (cursor < row.journalSequence → row.journalSequence ≤ cursor + limit →
        events[row.journalSequence - cursor - 1]? = some decoded)

/-- The outbox reader returns an envelope under its topic until it is delivered. -/
structure Publicizes (tables : Tables) (envelope : Detached F) (row : EventRow)
    (topic : String) : Prop where
  entries : ∀ limit, 0 < limit → limit ≤ 1000 → ∃ entries : List (PendingEntry F),
    tables.pendingOutbox limit = .ok entries ∧
      (∀ entry ∈ entries, entry.eventId = row.eventId →
        entry.topic = topic ∧ entry.payload = envelope.content) ∧
      ((∃ publication ∈ tables.outbox, publication.eventId = row.eventId ∧
          publication.deliveredAt = none) →
        (tables.outbox.filter fun publication => publication.deliveredAt.isNone).length ≤ limit →
          ∃ entry ∈ entries, entry.eventId = row.eventId)

/-- Every reader returns an accepted envelope. -/
def Readable (tables : Tables) (envelope : Detached F) (outboxTopic : Option String) : Prop :=
  ∃ row decoded, Loads tables envelope row decoded ∧
    (HexDigests → ∀ topic ∈ outboxTopic, Publicizes tables envelope row topic)

variable (F) in
/-- The events of an aggregate come back in the order of the journal. -/
def Ordered (tables : Tables) (aggregateType aggregateId : String) : Prop :=
  ∃ events : List (Json F), tables.loadEvents aggregateType aggregateId = .ok events ∧
    List.Forall₂ (fun row event => decodeRow row = .ok event)
      (tables.rowsOf aggregateType aggregateId) events ∧
    (tables.rowsOf aggregateType aggregateId).Pairwise fun earlier later =>
      earlier.journalSequence < later.journalSequence

/-- The envelope texts of the stored events. -/
def storedTexts (tables : Tables) : Set String :=
  { text | ∃ row ∈ tables.events, row.envelopeJson = text }

end Statements

/-! ## Stored events -/

/-- An event is stored with its publication intent. -/
structure Stored (tables : Tables) (event : PreparedEvent) : Prop where
  present : ∃ position, ⟨event.toEventCore, position⟩ ∈ tables.events
  intends : tables.Intends event

theorem Stored.grows {tables next : Tables} {event : PreparedEvent}
    (stored : Stored tables event) (grows : tables.Grows next)
    (once : (next.outbox.map OutboxRow.eventId).Nodup) : Stored next event := by
  obtain ⟨position, member⟩ := stored.present
  exact ⟨⟨position, grows.events.subset member⟩, stored.intends.grows grows once member rfl⟩

theorem Covers.stored_of_mem {F : Type} [FloatText F] [Fingerprint] {tables : Tables}
    {prepared : List PreparedEvent} {first : Nat} {effectJson effectHash : String}
    (covers : Covers F tables prepared first effectJson effectHash) {event : PreparedEvent}
    (member : event ∈ prepared) : Stored tables event := by
  obtain ⟨row, listed, same⟩ := mem_batchRows first member
  refine ⟨⟨row.journalSequence, ?_⟩, covers.intends event member⟩
  rw [← same]
  exact covers.stored.subset listed

/-- A stored publication that matches an event has its topic. -/
theorem topic_of_samePublication {stored : Option OutboxRow} {event : PreparedEvent}
    {envelopeHash : Option String} (same : samePublication stored event envelopeHash = true) :
    stored.map OutboxRow.topic = event.outboxTopic := by
  unfold samePublication at same
  split at same
  next unpublished => rw [unpublished, Option.map_none]
  next row topic _ intended =>
    simp only [Bool.and_eq_true, decide_eq_true_eq] at same
    rw [intended, Option.map_some, same.1.1]
  next => cases same

/-- `append_event` stores its event or finds it stored. -/
theorem Journaled.stored_of_appendPrepared {F : Type} [FloatText F] [TextFormats] [Fingerprint]
    {tables next : Tables} (before : Journaled F tables) {event : PreparedEvent}
    {expected : Option Nat} {counts : Option WholeStoreCounts} {now : Reading}
    {result : AppendResult} (journaled : Journaled F next)
    (success : tables.appendPrepared F event expected counts now = .ok (next, result)) :
    Stored next event := by
  rcases appendPrepared_cases success with
    ⟨rfl, existing, envelopeHash, found, same, publication⟩ | ⟨cut, _, _, _, _, inserted⟩
  · refine ⟨⟨existing.journalSequence, ?_⟩, ?_⟩
    · rw [← same]
      exact List.mem_of_find?_eq_some found
    · exact topic_of_samePublication publication
  · have intends := before.intends_insertPrepared inserted journaled.publishedOnce
    obtain ⟨_, _, _, rfl⟩ := insertPrepared_eq_ok inserted
    exact ⟨⟨cut + 1, List.mem_append_right _ (List.mem_singleton_self _)⟩, intends⟩

section Proofs

variable {F : Type} [FloatText F] [DecidableEq F] [TextFormats] [Fingerprint] {tables : Tables}

/-- A decoded row stands in a decoded list where the row stands. -/
theorem getElem?_of_decodes {rows : List EventRow} {events : List (Json F)}
    (decodes : List.Forall₂ (fun row event => decodeRow row = .ok event) rows events)
    {index : Nat} {row : EventRow} (found : rows[index]? = some row) {decoded : Json F}
    (read : decodeRow row = .ok decoded) : events[index]? = some decoded := by
  obtain ⟨event, there, again⟩ := forall₂_getElem? decodes found
  rw [read, Except.ok.injEq] at again
  rw [again]
  exact there

theorem Journaled.loads (journaled : Journaled F tables) {row : EventRow}
    (member : row ∈ tables.events) {envelope : Detached F}
    (admits : Admits envelope.value row.toEventCore) :
    ∃ decoded, Loads tables envelope row decoded := by
  obtain ⟨decoded, read, shows⟩ := journaled.decodeRow member admits
  refine ⟨decoded, ?_⟩
  exact {
    eventId := admits.eventId
    aggregateType := admits.aggregateType
    aggregateId := admits.aggregateId
    version := admits.aggregateVersion
    shows := shows
    getEvent := journaled.getEvent member admits read
    loadEvents := by
      obtain ⟨events, loaded, decodes⟩ :=
        journaled.loadEvents admits.aggregateTypeNormal admits.aggregateIdNormal
      refine ⟨events, loaded, getElem?_of_decodes decodes ?_ read⟩
      apply (journaled.versions row.aggregateType row.aggregateId).getElem?
      exact List.mem_filter.mpr ⟨member, decide_eq_true ⟨rfl, rfl⟩⟩
    page := by
      intro cursor limit reached positive bounded
      obtain ⟨events, loaded, decodes⟩ :=
        journaled.loadEventsAfterJournalSequence reached positive bounded
      refine ⟨events, loaded, fun after within => getElem?_of_decodes decodes ?_ read⟩
      have position : cursor + (row.journalSequence - cursor - 1) = row.journalSequence - 1 := by
        omega
      have inside : row.journalSequence - cursor - 1 < limit := by
        omega
      rw [List.getElem?_take_of_lt inside, List.getElem?_drop, position]
      exact journaled.positions.getElem? member }

/-- A publication of a stored row is pending with its envelope until it is
delivered. -/
theorem Journaled.publicizes (journaled : Journaled F tables) (hex : HexDigests)
    {row : EventRow} (member : row ∈ tables.events) {envelope : Detached F}
    (admits : Admits envelope.value row.toEventCore) {topic : String}
    (published : (tables.outboxRow? row.eventId).map OutboxRow.topic = some topic) :
    Publicizes tables envelope row topic := by
  obtain ⟨publication, found, rfl⟩ := Option.map_eq_some_iff.mp published
  have only : ∀ other ∈ tables.outbox, other.eventId = row.eventId → other = publication := by
    intro other listed same
    have again := find?_key journaled.publishedOnce listed
    rw [same] at again
    exact Option.some.inj (again.symm.trans found)
  constructor
  intro limit positive bounded
  obtain ⟨entries, pending, read⟩ := journaled.pendingOutbox hex positive bounded
  refine ⟨entries, pending, ?_, ?_⟩
  · intro entry listed same
    obtain ⟨⟨other, event⟩, waiting, entered⟩ := exists_of_mem_forall₂ read listed
    obtain ⟨stored, known, publishes⟩ :=
      journaled.mem_publications.mp (mem_of_mem_pendingRows waiting)
    obtain ⟨envelope', admits'⟩ := journaled.admitted event known
    have shown := publishes.pendingEntry hex admits'
    rw [entered, Except.ok.injEq] at shown
    subst shown
    have sameRow : event = row := by
      apply Option.some.inj
      rw [← journaled.eventRow? known, ← journaled.eventRow? member]
      exact congrArg tables.eventRow? same
    subst sameRow
    have own := publishes.pendingEntry hex admits
    rw [entered, Except.ok.injEq, PendingEntry.mk.injEq] at own
    exact ⟨congrArg OutboxRow.topic (only other stored publishes.eventId), own.2.2.2.1⟩
  · rintro ⟨other, stored, same, undelivered⟩ fits
    have publishes : Publishes F other row := by
      rw [only other stored same]
      exact journaled.publishes member found
    have waiting := mem_pendingRows
      (journaled.mem_publications.mpr ⟨stored, member, publishes⟩) undelivered fits
    obtain ⟨entry, listed, entered⟩ := exists_of_mem_forall₂ read.flip waiting
    refine ⟨entry, listed, ?_⟩
    rw [publishes.pendingEntry hex admits, Except.ok.injEq] at entered
    rw [← entered]

theorem Journaled.ordered (journaled : Journaled F tables) {aggregateType aggregateId : String}
    (typeNormal : Normal aggregateType) (idNormal : Normal aggregateId) :
    Ordered F tables aggregateType aggregateId := by
  obtain ⟨events, loaded, decodes⟩ := journaled.loadEvents typeNormal idNormal
  exact ⟨events, loaded, decodes, journaled.positions.pairwise_lt.filter _⟩

/-- A stored event is read back under every envelope that it admits. -/
theorem Stored.readable {event : PreparedEvent} (stored : Stored tables event)
    (journaled : Journaled F tables) {envelope : Detached F}
    (admits : Admits envelope.value event.toEventCore) :
    Readable tables envelope event.outboxTopic := by
  obtain ⟨position, member⟩ := stored.present
  obtain ⟨decoded, loads⟩ := journaled.loads member admits
  refine ⟨_, decoded, loads, fun hex topic intended => ?_⟩
  apply journaled.publicizes hex member admits
  rw [← Option.mem_def.mp intended]
  exact stored.intends

/-! ## Accepted envelopes -/

variable [CaseMap]

/-- `commit_command` stores its events or finds them stored. -/
theorem Sound.stored_of_commitCommand {next : Tables} (sound : Sound F tables)
    {command : Command F} {batch : Batch F} {now : Nat → Reading} {outcome : CommitOutcome F}
    (success : tables.commitCommand command batch now = .ok (next, outcome))
    (injective : outcome.inserted = true ∨
      Set.InjOn sha256 (envelopeTexts batch.events ∪ tables.storedTexts))
    {item : Detached F × Option String} (member : item ∈ batch.events) :
    ∃ event, Stored next event ∧ Admits item.1.value event.toEventCore ∧
      event.outboxTopic = item.2 := by
  obtain ⟨scope, prepared, events, identified, nonempty, digested, columns,
    ⟨row, found, replayed⟩ | ⟨_, inserted⟩⟩ := commitCommand_eq_ok success
  · obtain ⟨unchanged, kept, _, _, _, effectJson, effectHash, _, effect, _⟩ :=
      replayCommit_eq_ok replayed
    subst unchanged
    rw [kept, Bool.false_eq_true, false_or] at injective
    have stored := (sound.commands row (of_commandRow?_eq_some found).1).effect
    rw [effect] at stored
    obtain ⟨originals, first, covers⟩ := stored
    obtain ⟨retried, listed, admits, topic, _⟩ :=
      exists_of_mem_forall₂ (prepareBatch_eq_ok columns).flip member
    obtain ⟨original, present, hash, sameTopic⟩ :=
      exists_of_mem_forall₂ (covers.contents_of_replayCommit effect replayed) listed
    have kept := covers.stored_of_mem present
    obtain ⟨position, row⟩ := kept.present
    obtain ⟨envelope, admitted⟩ := sound.admitted _ row
    refine ⟨original, kept, admitted.congr ?_, sameTopic.trans topic⟩
    have text : original.envelopeJson = retried.envelopeJson := by
      apply textDigest_injOn injective
      · exact .inr ⟨_, row, rfl⟩
      · exact .inl ⟨item, member, admits.written⟩
      · rw [← admits.envelopeHash, ← admitted.envelopeHash]
        exact hash
    apply Json.canonicalText_injective envelope.distinct item.1.distinct admitted.written
    rw [text]
    exact admits.written
  · obtain ⟨effectJson, effectHash, _, _, _, _, covers, _⟩ :=
      sound.insertCommit (ne_nil_of_prepareBatch nonempty columns)
        (admitted_of_prepareBatch columns) inserted
    obtain ⟨event, present, admits, topic, _⟩ :=
      exists_of_mem_forall₂ (prepareBatch_eq_ok columns).flip member
    exact ⟨event, covers.stored_of_mem present, admits, topic⟩

/-- A stored event is read back after any further calls. -/
theorem Stored.readable_runFrom {event : PreparedEvent} (stored : Stored tables event)
    (sound : Sound F tables) {envelope : Detached F}
    (admits : Admits envelope.value event.toEventCore) (between : List (StoreCall F)) :
    Readable (tables.runFrom between) envelope event.outboxTopic := by
  have later := (sound.runFrom between).toJournaled
  have kept := stored.grows (tables.runFrom_grows between) later.publishedOnce
  exact kept.readable later admits

/-- An envelope that `append_event` accepts is read back after any further calls. -/
theorem Sound.readable_of_appendEvent {next : Tables} (sound : Sound F tables)
    {envelope : Detached F} {outboxTopic : Option String} {expected : Option Nat}
    {counts : Option WholeStoreCounts} {now : Reading} {result : AppendResult}
    (success : tables.appendEvent envelope outboxTopic expected counts now = .ok (next, result))
    (between : List (StoreCall F)) : Readable (next.runFrom between) envelope outboxTopic := by
  have reached := sound.appendEvent success
  rw [Tables.appendEvent, bind_eq_ok] at success
  obtain ⟨event, columns, appended⟩ := success
  obtain ⟨admits, topic, _⟩ := appendColumns_eq_ok columns
  have stored := sound.stored_of_appendPrepared reached.toJournaled appended
  rw [← topic]
  exact stored.readable_runFrom reached admits between

/-- Every envelope that `append_event` or `commit_command` accepts is returned by
every reader after any further calls, with its payload, its version as an
integer and its other fields, where `journal_sequence` is the one of its row;
the events of an aggregate come back in the order of the journal. -/
theorem no_poison_events (before between : List (StoreCall F)) :
    (∀ (envelope : Detached F) (outboxTopic : Option String) expected counts now next result,
      (run before).appendEvent envelope outboxTopic expected counts now = .ok (next, result) →
        Readable (next.runFrom between) envelope outboxTopic) ∧
    (∀ (command : Command F) (batch : Batch F) now next outcome,
      (run before).commitCommand command batch now = .ok (next, outcome) →
        (outcome.inserted = true ∨
          Set.InjOn sha256 (envelopeTexts batch.events ∪ (run before).storedTexts)) →
          ∀ item ∈ batch.events, Readable (next.runFrom between) item.1 item.2) ∧
    ∀ aggregateType aggregateId, Normal aggregateType → Normal aggregateId →
      Ordered F (run before) aggregateType aggregateId := by
  have sound := sound_run before
  refine ⟨?_, ?_, ?_⟩
  · intro envelope outboxTopic expected counts now next result success
    exact sound.readable_of_appendEvent success between
  · intro command batch now next outcome success injective item member
    obtain ⟨event, stored, admits, topic⟩ :=
      sound.stored_of_commitCommand success injective member
    rw [← topic]
    exact stored.readable_runFrom (sound.commitCommand success) admits between
  · intro aggregateType aggregateId typeNormal idNormal
    exact sound.ordered typeNormal idNormal

end Proofs

section Sample

attribute [local instance] FloatText.none TextFormats.lenient Fingerprint.hexadecimal CaseMap.ascii

theorem hexDigests_hexadecimal : HexDigests := by
  intro text character member
  have digits : ∀ digit < 16, isHexDigit (hexDigit digit) = true := by decide
  rw [Lib.sha256, String.toList_ofList, List.mem_flatMap] at member
  obtain ⟨_, _, member⟩ := member
  obtain ⟨place, _, rfl⟩ := List.mem_map.mp member
  exact digits _ (Nat.mod_lt _ (by decide))

/-- An event with a field under the name of the journal sequence. -/
def markedEnvelope : Detached Unit where
  value := .obj [
    ("event_id", .str "event-1"), ("event_type", .str "created"),
    ("aggregate_type", .str "order"), ("aggregate_id", .str "1"),
    ("aggregate_version", .str "1"), ("payload", .null),
    ("payload_hash", .str (textDigest "null")), ("committed_at", .str "now"),
    ("journal_sequence", .str "mine")]
  distinct := ⟨by decide, trivial, trivial, trivial, trivial, trivial, trivial, trivial, trivial,
    trivial, trivial⟩

def markedNow : Reading := ⟨"now", by decide⟩

theorem marked_accepted : (empty.appendEvent markedEnvelope (some "orders") none none
    markedNow).toOption.isSome = true := by decide +kernel

/-- The accepted event is read back, from the outbox too. -/
theorem marked_readable : ∃ next row decoded result,
    empty.appendEvent markedEnvelope (some "orders") none none markedNow = .ok (next, result) ∧
      Loads next markedEnvelope row decoded ∧ Publicizes next markedEnvelope row "orders" := by
  obtain ⟨⟨next, result⟩, accepted⟩ := exists_eq_ok marked_accepted
  obtain ⟨row, decoded, loads, publicizes⟩ := (no_poison_events [] []).1 markedEnvelope
    (some "orders") none none markedNow next result accepted
  exact ⟨next, row, decoded, result, accepted, loads,
    publicizes hexDigests_hexadecimal "orders" rfl⟩

/-- The readers show the journal sequence of the row instead of the field. -/
theorem marked_overwritten : ∃ next result decoded,
    empty.appendEvent markedEnvelope (some "orders") none none markedNow = .ok (next, result) ∧
      next.getEvent "event-1" = .ok (some decoded) ∧
      decoded.get? "journal_sequence" ≠
        (markedEnvelope.value.get? "journal_sequence").map Json.normal := by
  obtain ⟨⟨next, result⟩, accepted⟩ := exists_eq_ok marked_accepted
  obtain ⟨row, decoded, loads, _⟩ := Sound.empty.readable_of_appendEvent accepted []
  have named : row.eventId = "event-1" :=
    (Json.str.inj (Option.some.inj loads.eventId)).symm
  have read := loads.getEvent
  rw [named] at read
  refine ⟨next, result, decoded, accepted, read, ?_⟩
  rw [loads.shows.journalSequence _ rfl]
  intro same
  cases Option.some.inj same

end Sample

end AutoTrade.Store.Tables
