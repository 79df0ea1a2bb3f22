import AutoTrade.Lib.Numbered
import AutoTrade.Store.Admission
import AutoTrade.Store.Calls
import Mathlib.Data.List.Dedup

/-!
# Sound tables

The invariant of the tables over runs of calls.  Its first part, `Journaled`, is
about the events and their publications alone, so that a batch keeps it event by
event; `Sound` adds what the commands and the checkpoints say of them.
-/

namespace AutoTrade.Store.Tables

open Lib

/-! ## Cursors -/

theorem contiguousCount_range' (count : Nat) :
    contiguousCount (List.range' 1 count) = some count := by
  cases count with
  | zero => rfl
  | succ last =>
      have low : (List.range' 1 (last + 1)).min? = some 1 := by
        rw [List.min?_eq_some_iff]
        exact ⟨List.mem_range'_1.mpr ⟨Nat.le_refl 1, by omega⟩,
          fun _ member => (List.mem_range'_1.mp member).1⟩
      have high : (List.range' 1 (last + 1)).max? = some (last + 1) := by
        rw [List.max?_eq_some_iff]
        refine ⟨List.mem_range'_1.mpr ⟨by omega, by omega⟩, fun value member => ?_⟩
        have := (List.mem_range'_1.mp member).2
        omega
      rw [contiguousCount, if_neg (List.ne_nil_of_length_pos (by simp)), low, high,
        List.dedup_eq_self.mpr (List.nodup_range' ..), List.length_range']
      exact if_pos ⟨rfl, rfl, rfl⟩

/-- The number of events of an aggregate. -/
def versionCount (tables : Tables) (aggregateType aggregateId : String) : Nat :=
  (tables.rowsOf aggregateType aggregateId).length

theorem rowsOf_mono {tables next : Tables} (growth : tables.events <+: next.events)
    (aggregateType aggregateId : String) :
    tables.rowsOf aggregateType aggregateId <+: next.rowsOf aggregateType aggregateId :=
  growth.filter _

theorem rowsOf_append {tables next : Tables} {row : EventRow}
    (appended : next.events = tables.events ++ [row]) (aggregateType aggregateId : String) :
    next.rowsOf aggregateType aggregateId = tables.rowsOf aggregateType aggregateId ++
      if row.aggregateType = aggregateType ∧ row.aggregateId = aggregateId then [row] else [] := by
  simp only [rowsOf, appended, List.filter_append, List.filter_singleton, Bool.cond_decide]

/-! ## Batches and publication intents -/

/-- The rows of a batch that is inserted from a journal sequence on. -/
def batchRows : (first : Nat) → List PreparedEvent → List EventRow
  | _, [] => []
  | first, event :: rest => ⟨event.toEventCore, first⟩ :: batchRows (first + 1) rest

theorem mem_batchRows (first : Nat) {batch : List PreparedEvent} {event : PreparedEvent}
    (member : event ∈ batch) :
    ∃ row ∈ batchRows first batch, row.toEventCore = event.toEventCore := by
  induction batch generalizing first with
  | nil => cases member
  | cons head rest ih =>
      rcases List.mem_cons.mp member with rfl | tail
      · exact ⟨_, List.mem_cons_self, rfl⟩
      · obtain ⟨row, listed, same⟩ := ih (first + 1) tail
        exact ⟨row, List.mem_cons_of_mem _ listed, same⟩

/-- The stored publication intent of an event is its own. -/
def Intends (tables : Tables) (event : PreparedEvent) : Prop :=
  (tables.outboxRow? event.eventId).map OutboxRow.topic = event.outboxTopic

theorem of_outboxRow?_eq_some {tables : Tables} {eventId : String} {row : OutboxRow}
    (found : tables.outboxRow? eventId = some row) :
    row ∈ tables.outbox ∧ row.eventId = eventId := by
  rw [Tables.outboxRow?] at found
  have same := List.find?_some found
  exact ⟨List.mem_of_find?_eq_some found, of_decide_eq_true same⟩

theorem eventId_of_intent_eq {left right : OutboxRow}
    (same : OutboxRow.intent left = OutboxRow.intent right) : left.eventId = right.eventId := by
  have eventId := congrArg OutboxRow.eventId same
  exact eventId

/-- The publication intent of a stored event never changes. -/
theorem Grows.outboxRow? {before after : Tables} (grows : before.Grows after)
    (once : (after.outbox.map OutboxRow.eventId).Nodup) {event : EventRow}
    (known : event ∈ before.events) :
    (after.outboxRow? event.eventId).map OutboxRow.intent =
      (before.outboxRow? event.eventId).map OutboxRow.intent := by
  cases found : before.outboxRow? event.eventId with
  | some row =>
      obtain ⟨member, same⟩ := of_outboxRow?_eq_some found
      obtain ⟨row', member', intent, _⟩ := grows.outbox row member
      have kept := find?_key once member'
      rw [eventId_of_intent_eq intent, same] at kept
      rw [Tables.outboxRow?, kept, Option.map_some, Option.map_some, intent]
  | none =>
      rw [Option.map_none, Option.map_eq_none_iff, Tables.outboxRow?, List.find?_eq_none]
      intro row' member'
      rw [decide_eq_true_eq]
      rcases grows.added row' member' with ⟨row, member, intent⟩ | fresh
      · have other := List.find?_eq_none.mp found row member
        rw [decide_eq_true_eq] at other
        exact fun equal => other ((eventId_of_intent_eq intent).symm.trans equal)
      · exact fun equal => fresh event known equal.symm

theorem Intends.grows {before after : Tables} {event : PreparedEvent}
    (intends : before.Intends event) (grows : before.Grows after)
    (once : (after.outbox.map OutboxRow.eventId).Nodup) {row : EventRow}
    (known : row ∈ before.events) (same : row.eventId = event.eventId) :
    after.Intends event := by
  have kept := congrArg (Option.map OutboxRow.topic) (grows.outboxRow? once known)
  rw [Option.map_map, Option.map_map, same] at kept
  exact kept.trans intends

/-- The versions that a batch check holds are those of the events inserted so
far. -/
def Tracks (tables current : Tables) (versions : Dict (String × String) Nat) : Prop :=
  ∀ aggregateType aggregateId, (versions.get? (aggregateType, aggregateId)).getD
    (tables.versionCount aggregateType aggregateId + 1) =
      current.versionCount aggregateType aggregateId + 1

/-- An event that is at the version its aggregate goes on with is inserted. -/
theorem Tracks.insert {tables current next : Tables} {versions : Dict (String × String) Nat}
    (tracks : Tracks tables current versions) {row : EventRow}
    (appended : next.events = current.events ++ [row])
    (version : row.aggregateVersion =
      current.versionCount row.aggregateType row.aggregateId + 1) :
    Tracks tables next (versions.set (row.aggregateType, row.aggregateId)
      (row.aggregateVersion + 1)) := by
  intro aggregateType aggregateId
  rw [versionCount.eq_1 next, rowsOf_append appended, List.length_append]
  by_cases same : row.aggregateType = aggregateType ∧ row.aggregateId = aggregateId
  · obtain ⟨rfl, rfl⟩ := same
    rw [Dict.get?_set_self, if_pos ⟨rfl, rfl⟩, version]
    rfl
  · have other : (row.aggregateType, row.aggregateId) ≠ (aggregateType, aggregateId) := by
      intro equal
      exact same (Prod.mk.inj equal)
    rw [Dict.get?_set_of_ne _ _ other, if_neg same]
    exact tracks aggregateType aggregateId

/-! ## Events and publications -/

section Invariant

variable (F : Type) [FloatText F] [Fingerprint]

/-- An outbox row is the publication intent of an event. -/
structure Publishes (row : OutboxRow) (event : EventRow) : Prop where
  eventId : row.eventId = event.eventId
  outboxId : row.outboxId = outboxId event.eventId
  topic : Normal row.topic
  payloadJson : row.payloadJson = event.envelopeJson
  createdAt : Normal row.createdAt
  envelopeHash : outboxEnvelopeDigest F row.topic row.payloadJson = .ok row.envelopeHash

variable {F} in
/-- What the insertion of an event adds to the outbox. -/
theorem publishes_of_mem {event : PreparedEvent} {journalSequence : Nat} {now : Reading}
    {publication : Option OutboxRow} (topic : CanonicalTopic event.outboxTopic)
    (published : publicationRow F event now = .ok publication) {row : OutboxRow}
    (member : row ∈ publication.toList) :
    Publishes F row ⟨event.toEventCore, journalSequence⟩ := by
  obtain ⟨intended, eventId, payload, outboxId, createdAt, _, digest⟩ :=
    mem_publicationRow published member
  exact {
    eventId := eventId
    outboxId := outboxId
    topic := topic row.topic intended
    payloadJson := payload
    createdAt := createdAt ▸ now.normal
    envelopeHash := payload.symm ▸ digest }

variable {F} in
theorem Publishes.deliver {row : OutboxRow} {event : EventRow} (publishes : Publishes F row event)
    (outboxId envelopeHash : String) (now : Reading) :
    Publishes F (OutboxRow.deliver row outboxId envelopeHash now) event := by
  unfold OutboxRow.deliver
  split
  next => exact { publishes with }
  next => exact publishes

variable [TextFormats]

/-- The events are numbered from one, over the journal and in every aggregate;
each was admitted, and each publication is the one of an event. -/
structure Journaled (tables : Tables) : Prop where
  positions : Numbered EventRow.journalSequence tables.events
  versions : ∀ aggregateType aggregateId, Numbered (fun row => row.aggregateVersion)
    (tables.rowsOf aggregateType aggregateId)
  identified : (tables.events.map fun row => row.eventId).Nodup
  admitted : ∀ row ∈ tables.events, ∃ envelope : Detached F,
    Admits envelope.value row.toEventCore
  published : ∀ row ∈ tables.outbox, ∃ event ∈ tables.events, Publishes F row event
  publishedOnce : (tables.outbox.map OutboxRow.eventId).Nodup

end Invariant

section Events

variable {F : Type} [FloatText F] [TextFormats] [Fingerprint] {tables : Tables}

theorem Journaled.empty : Journaled F empty where
  positions := Numbered.nil
  versions _ _ := Numbered.nil
  identified := List.nodup_nil
  admitted _ member := (List.not_mem_nil member).elim
  published _ member := (List.not_mem_nil member).elim
  publishedOnce := List.nodup_nil

theorem Journaled.journalSequenceValue (journaled : Journaled F tables) :
    tables.journalSequenceValue = .ok tables.events.length := by
  rw [Tables.journalSequenceValue, journaled.positions, contiguousCount_range']

theorem Journaled.aggregateVersionValue (journaled : Journaled F tables)
    (aggregateType aggregateId : String) :
    tables.aggregateVersionValue aggregateType aggregateId =
      .ok (tables.versionCount aggregateType aggregateId) := by
  rw [Tables.aggregateVersionValue, journaled.versions, contiguousCount_range', versionCount]

theorem Journaled.eventRow? (journaled : Journaled F tables) {row : EventRow}
    (member : row ∈ tables.events) : tables.eventRow? row.eventId = some row :=
  find?_key journaled.identified member

/-- The step lemma: the next event of its aggregate keeps the events and their
publications sound. -/
theorem Journaled.insertPrepared (journaled : Journaled F tables) {next : Tables}
    {event : PreparedEvent} {now : Reading}
    (admitted : ∃ envelope : Detached F, Admits envelope.value event.toEventCore)
    (topic : CanonicalTopic event.outboxTopic)
    (version : event.aggregateVersion =
      tables.versionCount event.aggregateType event.aggregateId + 1)
    (success : tables.insertPrepared F event (tables.events.length + 1) now = .ok next) :
    Journaled F next := by
  obtain ⟨publication, published, fresh, rfl⟩ := insertPrepared_eq_ok success
  exact {
    positions := journaled.positions.append_one rfl
    versions := by
      intro aggregateType aggregateId
      rw [rowsOf_append rfl]
      split
      next same =>
        refine (journaled.versions aggregateType aggregateId).append_one ?_
        rw [← same.1, ← same.2]
        exact version
      next =>
        rw [List.append_nil]
        exact journaled.versions aggregateType aggregateId
    identified := by
      rw [List.map_append, List.map_singleton]
      refine journaled.identified.append (List.nodup_singleton _) ?_
      rw [List.disjoint_singleton]
      intro known
      obtain ⟨other, member, same⟩ := List.mem_map.mp known
      exact fresh other member same
    admitted := by
      intro row member
      rcases List.mem_append.mp member with old | new
      · exact journaled.admitted row old
      · rw [List.mem_singleton.mp new]
        exact admitted
    published := by
      intro row member
      rcases List.mem_append.mp member with old | new
      · obtain ⟨event, known, publishes⟩ := journaled.published row old
        exact ⟨event, List.mem_append_left _ known, publishes⟩
      · exact ⟨_, List.mem_append_right _ (List.mem_singleton_self _),
          publishes_of_mem topic published new⟩
    publishedOnce := by
      rw [List.map_append]
      apply journaled.publishedOnce.append
      · cases publication with
        | none => exact List.nodup_nil
        | some row => exact List.nodup_singleton _
      · intro eventId listed added
        obtain ⟨old, known, rfl⟩ := List.mem_map.mp listed
        obtain ⟨row, new, same⟩ := List.mem_map.mp added
        obtain ⟨other, member, publishes⟩ := journaled.published old known
        apply fresh other member
        rw [← publishes.eventId, ← same, (mem_publicationRow published new).2.1] }

/-- An event is stored with its publication intent. -/
theorem Journaled.intends_insertPrepared (journaled : Journaled F tables) {next : Tables}
    {event : PreparedEvent} {journalSequence : Nat} {now : Reading}
    (success : tables.insertPrepared F event journalSequence now = .ok next)
    (once : (next.outbox.map OutboxRow.eventId).Nodup) : next.Intends event := by
  obtain ⟨publication, published, fresh, rfl⟩ := insertPrepared_eq_ok success
  rw [Intends, ← publicationRow_topic published]
  cases publication with
  | none =>
      rw [Option.map_none, Option.map_eq_none_iff, Tables.outboxRow?, List.find?_eq_none]
      intro row member
      rw [decide_eq_true_eq]
      rw [Option.toList_none, List.append_nil] at member
      obtain ⟨other, known, publishes⟩ := journaled.published row member
      exact fun same => fresh other known (publishes.eventId.symm.trans same)
  | some row =>
      have found := find?_key once
        (List.mem_append_right tables.outbox (List.mem_singleton_self row))
      rw [(mem_publicationRow published (List.mem_singleton_self row)).2.1] at found
      exact congrArg (Option.map OutboxRow.topic) found

theorem Journaled.expectedVersion (journaled : Journaled F tables)
    (versions : Dict (String × String) Nat) (key : String × String) :
    tables.expectedVersion versions key =
      .ok ((versions.get? key).getD (tables.versionCount key.1 key.2 + 1)) := by
  unfold Tables.expectedVersion
  split
  next found => rw [found, Option.getD_some]
  next absent =>
    rw [journaled.aggregateVersionValue, absent]
    rfl

theorem Journaled.checkVersions_cons (journaled : Journaled F tables)
    {versions : Dict (String × String) Nat} {event : PreparedEvent} {rest : List PreparedEvent}
    (success : tables.checkVersions versions (event :: rest) = .ok ()) :
    event.aggregateVersion =
        (versions.get? (event.aggregateType, event.aggregateId)).getD
          (tables.versionCount event.aggregateType event.aggregateId + 1) ∧
      tables.checkVersions (versions.set (event.aggregateType, event.aggregateId)
        (event.aggregateVersion + 1)) rest = .ok () := by
  simp only [checkVersions, throw_unless_eq_ok, journaled.expectedVersion, ok_bind,
    not_not] at success
  obtain ⟨_, version, success⟩ := success
  rw [← version] at success
  exact ⟨version, success⟩

/-- The run lemma of a batch. -/
theorem Journaled.insertPreparedBatch (journaled : Journaled F tables)
    {batch : List PreparedEvent} {current next : Tables}
    {versions : Dict (String × String) Nat} {now : Nat → Reading}
    (reached : Journaled F current) (tracks : Tracks tables current versions)
    (checked : tables.checkVersions versions batch = .ok ())
    (admitted : ∀ event ∈ batch, (∃ envelope : Detached F,
      Admits envelope.value event.toEventCore) ∧ CanonicalTopic event.outboxTopic)
    (success : current.insertPreparedBatch F (current.events.length + 1) now batch = .ok next) :
    Journaled F next ∧
      next.events = current.events ++ batchRows (current.events.length + 1) batch ∧
      ∀ event ∈ batch, next.Intends event := by
  induction batch generalizing current versions with
  | nil =>
      cases success
      refine ⟨reached, (List.append_nil _).symm, ?_⟩
      intro event member
      cases member
  | cons event rest ih =>
      obtain ⟨version, checked⟩ := journaled.checkVersions_cons checked
      rw [List.forall_mem_cons] at admitted
      rw [Tables.insertPreparedBatch, bind_eq_ok] at success
      obtain ⟨middle, first, tail⟩ := success
      rw [tracks] at version
      have inserted := reached.insertPrepared admitted.1.1 admitted.1.2 version first
      obtain ⟨publication, _, _, grown⟩ := insertPrepared_eq_ok first
      have appended : middle.events =
          current.events ++ [⟨event.toEventCore, current.events.length + 1⟩] := by
        rw [grown]
      have longer : middle.events.length = current.events.length + 1 := by
        rw [appended, List.length_append, List.length_singleton]
      rw [← longer] at tail
      obtain ⟨final, events, intents⟩ :=
        ih inserted (tracks.insert appended version) checked admitted.2 tail
      have known : ⟨event.toEventCore, current.events.length + 1⟩ ∈ middle.events := by
        rw [appended]
        exact List.mem_append_right _ (List.mem_singleton_self _)
      have intends := (reached.intends_insertPrepared first inserted.publishedOnce).grows
        (insertPreparedBatch_grows tail) final.publishedOnce known rfl
      refine ⟨final, ?_, List.forall_mem_cons.mpr ⟨intends, intents⟩⟩
      rw [events, longer, appended, List.append_assoc]
      rfl

end Events

/-! ## Commands and checkpoints -/

section Sound

variable (F : Type) [FloatText F] [Fingerprint]

/-- An effect names a batch that was inserted from a journal sequence on. -/
structure Covers (tables : Tables) (prepared : List PreparedEvent) (first : Nat)
    (effectJson effectHash : String) : Prop where
  nonempty : prepared ≠ []
  positive : 0 < first
  effect : eventBatchEffect F prepared (List.range' first prepared.length) =
    .ok (effectJson, effectHash)
  stored : batchRows first prepared <:+: tables.events
  intends : ∀ event ∈ prepared, tables.Intends event

/-- The effect of a command is known, and a batch effect is stored. -/
def SoundEffect (tables : Tables) : CommandEffect → Prop
  | .legacyUnknown => False
  | .resultOnly => True
  | .eventBatch effectJson effectHash =>
      ∃ prepared first, Covers F tables prepared first effectJson effectHash

/-- What holds of a command row. -/
structure SoundCommand (tables : Tables) (row : CommandRow) : Prop where
  environment : isEnvironment row.environment = true
  result : ∃ result : Detached F, result.value.canonicalText = some row.resultJson
  resultHash : row.resultHash = textDigest row.resultJson
  effect : SoundEffect F tables row.effect

variable {F} in
theorem Covers.grows {tables next : Tables} {prepared : List PreparedEvent} {first : Nat}
    {effectJson effectHash : String}
    (covers : Covers F tables prepared first effectJson effectHash)
    (grows : tables.Grows next) (once : (next.outbox.map OutboxRow.eventId).Nodup) :
    Covers F next prepared first effectJson effectHash := by
  refine { covers with stored := covers.stored.trans grows.events.isInfix, intends := ?_ }
  intro event member
  obtain ⟨row, listed, same⟩ := mem_batchRows first member
  exact (covers.intends event member).grows grows once (covers.stored.subset listed)
    (congrArg EventCore.eventId same)

variable {F} in
theorem SoundCommand.grows {tables next : Tables} {row : CommandRow}
    (sound : SoundCommand F tables row) (grows : tables.Grows next)
    (once : (next.outbox.map OutboxRow.eventId).Nodup) : SoundCommand F next row := by
  have kept : ∀ effect, SoundEffect F tables effect → SoundEffect F next effect
    | .legacyUnknown, absurd => absurd
    | .resultOnly, _ => trivial
    | .eventBatch _ _, ⟨prepared, first, covers⟩ => ⟨prepared, first, covers.grows grows once⟩
  exact { sound with effect := kept row.effect sound.effect }

variable {F} in
/-- The row of a prepared command is sound when its effect is. -/
theorem soundCommand_row [CaseMap] {tables : Tables} {command : Command F} {scope : CommandScope}
    {prepared : PreparedCommand F} (identified : commandScope command = .ok scope)
    (digested : prepareCommand command scope = .ok prepared) (effect : CommandEffect)
    (stored : SoundEffect F tables effect) (now : Reading) :
    SoundCommand F tables (prepared.row effect now) := by
  obtain ⟨same, _, result, _⟩ := prepareCommand_eq_ok digested
  have environment := scopedKey_environment (commandScope_eq_ok.mp identified).2
  rw [← same] at environment
  exact {
    environment := environment
    result := ⟨command.result, result⟩
    resultHash := rfl
    effect := stored }

/-- The unique key of a command row. -/
def CommandRow.key (row : CommandRow) : String × String × String :=
  (row.actor, row.environment, row.idempotencyKey)

variable [TextFormats]

/-- The invariant of the tables. -/
structure Sound (tables : Tables) : Prop extends Journaled F tables where
  commands : ∀ row ∈ tables.commands, SoundCommand F tables row
  keys : (tables.commands.map CommandRow.key).Nodup
  checkpoints : ∀ row ∈ tables.checkpoints,
    row.aggregateVersion ≤ tables.versionCount row.aggregateType row.aggregateId
  globalCheckpoints : ∀ row ∈ tables.globalCheckpoints,
    row.journalSequence ≤ tables.events.length

end Sound

section Preservation

variable {F : Type} [FloatText F] [TextFormats] [Fingerprint] {tables : Tables}

theorem Sound.empty : Sound F empty where
  toJournaled := Journaled.empty
  commands _ member := (List.not_mem_nil member).elim
  keys := List.nodup_nil
  checkpoints _ member := (List.not_mem_nil member).elim
  globalCheckpoints _ member := (List.not_mem_nil member).elim

/-- A transaction keeps the tables sound when it keeps the events sound and the
rows it adds are sound. -/
theorem Sound.of_grows (sound : Sound F tables) {next : Tables} (grows : tables.Grows next)
    (journaled : Journaled F next)
    (commands : ∀ row ∈ next.commands, row ∈ tables.commands ∨ SoundCommand F next row)
    (keys : (next.commands.map CommandRow.key).Nodup)
    (checkpoints : ∀ row ∈ next.checkpoints, row ∈ tables.checkpoints ∨
      row.aggregateVersion ≤ tables.versionCount row.aggregateType row.aggregateId)
    (globalCheckpoints : ∀ row ∈ next.globalCheckpoints, row ∈ tables.globalCheckpoints ∨
      row.journalSequence ≤ tables.events.length) : Sound F next where
  toJournaled := journaled
  commands row member := by
    rcases commands row member with old | new
    · exact (sound.commands row old).grows grows journaled.publishedOnce
    · exact new
  keys := keys
  checkpoints row member := by
    have longer : tables.versionCount row.aggregateType row.aggregateId ≤
        next.versionCount row.aggregateType row.aggregateId :=
      (rowsOf_mono grows.events _ _).length_le
    rcases checkpoints row member with old | new
    · exact (sound.checkpoints row old).trans longer
    · exact new.trans longer
  globalCheckpoints row member := by
    have longer : tables.events.length ≤ next.events.length := grows.events.length_le
    rcases globalCheckpoints row member with old | new
    · exact (sound.globalCheckpoints row old).trans longer
    · exact new.trans longer

end Preservation

end AutoTrade.Store.Tables
