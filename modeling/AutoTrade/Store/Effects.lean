import AutoTrade.Store.Integrity

/-!
# Command effects

The effect of a command names its events in a canonical JSON text.  A stored
effect can be read back, the journal sequences it names are the ones of the
stored events, and its verification succeeds on sound tables.
-/

namespace AutoTrade.Store.Tables

open Lib

/-! ## Descriptors -/

/-- What a descriptor says of an event at a journal sequence. -/
structure Describes {F : Type} (descriptor : Json F) (event : PreparedEvent)
    (journalSequence : Nat) (outboxHash : Option String) : Prop where
  eventId : descriptor.get? "event_id" = some (.str event.eventId)
  aggregateType : descriptor.get? "aggregate_type" = some (.str event.aggregateType)
  aggregateId : descriptor.get? "aggregate_id" = some (.str event.aggregateId)
  aggregateVersion : descriptor.get? "aggregate_version" = some (.int event.aggregateVersion)
  journalSequence : descriptor.get? "journal_sequence" = some (.int journalSequence)
  envelopeHash : descriptor.get? "envelope_hash" = some (.str event.envelopeHash)
  outboxTopic : descriptor.get? "outbox_topic" = some (event.outboxTopic.elim .null .str)
  outboxHash : descriptor.get? "outbox_hash" = some (outboxHash.elim .null .str)
  fields : (fieldsOf descriptor).Perm descriptorFields

/-- A text or `None`. -/
theorem distinct_elim {F : Type} (text : Option String) :
    (text.elim .null .str : Json F).Distinct := by
  cases text <;> trivial

theorem normal_elim {F : Type} (text : Option String) :
    (text.elim .null .str : Json F).normal = text.elim .null .str := by
  cases text <;> rfl

section Descriptors

variable {F : Type} [FloatText F] [Fingerprint]

/-- A descriptor that was written, as it is read back. -/
theorem describes_of_effectDescriptor {event : PreparedEvent} {journalSequence : Nat}
    {descriptor : Json F} (success : effectDescriptor event journalSequence = .ok descriptor) :
    descriptor.Distinct ∧ ∃ outboxHash, publicationHash F event = .ok outboxHash ∧
      Describes descriptor.normal event journalSequence outboxHash := by
  simp only [effectDescriptor, bind_eq_ok, pure_eq_ok] at success
  obtain ⟨outboxHash, hashed, rfl⟩ := success
  have distinct : (Json.obj [
      ("event_id", .str event.eventId), ("aggregate_type", .str event.aggregateType),
      ("aggregate_id", .str event.aggregateId),
      ("aggregate_version", .int event.aggregateVersion),
      ("journal_sequence", .int journalSequence), ("envelope_hash", .str event.envelopeHash),
      ("outbox_topic", event.outboxTopic.elim .null .str),
      ("outbox_hash", outboxHash.elim .null .str)] : Json F).Distinct :=
    ⟨(by decide : descriptorFields.Nodup), trivial, trivial, trivial, trivial, trivial, trivial,
      distinct_elim _, distinct_elim _, trivial⟩
  have read := Json.get?_normal distinct
  refine ⟨distinct, outboxHash, hashed, ?_⟩
  constructor
  · rw [read]
    rfl
  · rw [read]
    rfl
  · rw [read]
    rfl
  · rw [read]
    rfl
  · rw [read]
    rfl
  · rw [read]
    rfl
  · rw [read]
    exact congrArg some (normal_elim event.outboxTopic)
  · rw [read]
    exact congrArg some (normal_elim outboxHash)
  · exact fieldsOf_normal _

/-- What an effect text is made of. -/
theorem eventBatchEffect_eq_ok {prepared : List PreparedEvent} {sequences : List Nat}
    {effectJson effectHash : String}
    (success : eventBatchEffect F prepared sequences = .ok (effectJson, effectHash)) :
    sequences.length = prepared.length ∧ ∃ descriptors : List (Json F),
      List.Forall₂ (fun item descriptor => effectDescriptor item.1 item.2 = .ok descriptor)
        (prepared.zip sequences) descriptors ∧
      (Json.obj [("events", .arr descriptors)]).canonicalText = some effectJson ∧
      effectHash = textDigest effectJson := by
  rw [eventBatchEffect, guard_eq_ok, not_not] at success
  obtain ⟨sameLength, success⟩ := success
  simp only [bind_eq_ok, pure_eq_ok, canonicalJsonText_eq_ok, mapM_eq_ok, Prod.mk.injEq] at success
  obtain ⟨descriptors, described, _, written, rfl, rfl⟩ := success
  exact ⟨sameLength, descriptors, described, written, rfl⟩

/-- What is read of a stored effect. -/
structure Reads (prepared : List PreparedEvent) (sequences : List Nat) (effect : Json F)
    (descriptors : List (Json F)) : Prop where
  fields : fieldsOf effect = ["events"]
  events : effect.get? "events" = some (.arr descriptors)
  described : List.Forall₂ (fun item descriptor => ∃ outboxHash,
    publicationHash F item.1 = .ok outboxHash ∧ Describes descriptor item.1 item.2 outboxHash)
      (prepared.zip sequences) descriptors

/-- An effect that was written is read back. -/
theorem loadEffect_written {prepared : List PreparedEvent} {sequences : List Nat}
    {effectJson effectHash : String}
    (success : eventBatchEffect F prepared sequences = .ok (effectJson, effectHash)) :
    ∃ effect descriptors, loadEffect F effectJson effectHash = .ok effect ∧
      Reads prepared sequences effect descriptors := by
  obtain ⟨_, descriptors, written, text, rfl⟩ := eventBatchEffect_eq_ok success
  have read : List.Forall₂ (fun item descriptor => ∃ outboxHash,
      publicationHash F item.1 = .ok outboxHash ∧ Describes descriptor item.1 item.2 outboxHash)
        (prepared.zip sequences) (descriptors.map Json.normal) := by
    rw [List.forall₂_map_right_iff]
    exact written.imp fun item descriptor made => (describes_of_effectDescriptor made).2
  have each : ∀ descriptor ∈ descriptors, descriptor.Distinct := by
    clear text read
    generalize prepared.zip sequences = items at written
    induction written with
    | nil =>
        intro descriptor member
        cases member
    | cons made _ ih =>
        exact List.forall_mem_cons.mpr ⟨(describes_of_effectDescriptor made).1, ih⟩
  have distinct : (Json.obj [("events", .arr descriptors)] : Json F).Distinct :=
    ⟨List.nodup_singleton _, Json.distinctItems_iff.mpr each, trivial⟩
  refine ⟨(Json.obj [("events", .arr descriptors)]).normal, descriptors.map Json.normal, ?_, ?_,
    ?_, read⟩
  · rw [loadEffect, if_neg (not_not.mpr rfl)]
    exact loadCanonical_written distinct text _ _
  · exact List.perm_singleton.mp (fieldsOf_normal _)
  · rw [Json.get?_normal distinct]
    exact congrArg (some ∘ Json.arr) (Json.normalItems_eq descriptors)

theorem Reads.effectRows {prepared : List PreparedEvent} {sequences : List Nat}
    {effect : Json F} {descriptors : List (Json F)}
    (reads : Reads prepared sequences effect descriptors) (nonempty : prepared ≠ [])
    (sameLength : sequences.length = prepared.length) :
    Tables.effectRows effect = .ok descriptors := by
  have described := reads.described
  rw [Tables.effectRows, reads.events]
  cases descriptors with
  | nil =>
      rw [List.forall₂_nil_right_iff, List.zip_eq_nil_iff] at described
      rcases described with empty | empty
      · exact absurd empty nonempty
      · rw [empty] at sameLength
        exact absurd (List.length_eq_zero_iff.mp sameLength.symm) nonempty
  | cons first rest => rfl

/-- The journal sequences of a stored effect are the ones it was written with. -/
theorem storedEffectJournalSequences_written {prepared : List PreparedEvent}
    {sequences : List Nat} {effectJson effectHash : String} (nonempty : prepared ≠ [])
    (positive : ∀ position ∈ sequences, 0 < position) (distinct : sequences.Nodup)
    (success : eventBatchEffect F prepared sequences = .ok (effectJson, effectHash)) :
    storedEffectJournalSequences F effectJson effectHash = .ok sequences := by
  obtain ⟨effect, descriptors, loaded, reads⟩ := loadEffect_written success
  have sameLength := (eventBatchEffect_eq_ok success).1
  have rows := reads.effectRows nonempty sameLength
  have positions : descriptors.mapM descriptorSequence = .ok sequences := by
    have second : (prepared.zip sequences).map Prod.snd = sequences :=
      List.map_snd_zip sameLength.le
    have numbered : ∀ item ∈ prepared.zip sequences, 0 < item.2 := by
      intro item member
      apply positive
      rw [← second]
      exact List.mem_map_of_mem member
    rw [mapM_eq_ok, ← second, List.forall₂_map_right_iff]
    apply ((List.forall₂_and_left _ _).mpr ⟨numbered, reads.described⟩).flip.imp
    rintro descriptor ⟨event, position⟩ ⟨above, _, _, describes⟩
    obtain ⟨previous, rfl⟩ := Nat.exists_eq_succ_of_ne_zero (Nat.pos_iff_ne_zero.mp above)
    rw [descriptorSequence, describes.journalSequence]
  simp only [storedEffectJournalSequences, loaded, rows, positions, ok_bind]
  rw [if_neg (not_not.mpr distinct)]
  rfl

/-- The journal sequences of a stored effect. -/
theorem Covers.storedEffectJournalSequences {tables : Tables} {prepared : List PreparedEvent}
    {first : Nat} {effectJson effectHash : String}
    (covers : Covers F tables prepared first effectJson effectHash) :
    Tables.storedEffectJournalSequences F effectJson effectHash =
      .ok (List.range' first prepared.length) := by
  apply storedEffectJournalSequences_written covers.nonempty _ (List.nodup_range' ..) covers.effect
  intro position member
  exact covers.positive.trans_le (List.mem_range'_1.mp member).1

end Descriptors

/-! ## Verification -/

theorem batchRows_eq_map (first : Nat) (prepared : List PreparedEvent) :
    batchRows first prepared = (prepared.zip (List.range' first prepared.length)).map
      fun item => ⟨item.1.toEventCore, item.2⟩ := by
  induction prepared generalizing first with
  | nil => rfl
  | cons event rest ih =>
      rw [batchRows, ih, List.length_cons, List.range'_succ, List.zip_cons_cons, List.map_cons]

theorem map_journalSequence_batchRows (first : Nat) (prepared : List PreparedEvent) :
    (batchRows first prepared).map EventRow.journalSequence =
      List.range' first prepared.length := by
  rw [batchRows_eq_map, List.map_map]
  exact List.map_snd_zip (List.length_range'.le)

theorem length_batchRows (first : Nat) (prepared : List PreparedEvent) :
    (batchRows first prepared).length = prepared.length := by
  have lengths := congrArg List.length (map_journalSequence_batchRows first prepared)
  rwa [List.length_map, List.length_range'] at lengths

section Verification

variable {F : Type} [FloatText F] [TextFormats] [Fingerprint] {tables : Tables}

/-- The publication of a sound outbox row is the one of the event with its id. -/
theorem Journaled.publishes (journaled : Journaled F tables) {row : EventRow}
    (member : row ∈ tables.events) {publication : OutboxRow}
    (found : tables.outboxRow? row.eventId = some publication) : Publishes F publication row := by
  obtain ⟨stored, same⟩ := of_outboxRow?_eq_some found
  obtain ⟨event, known, publishes⟩ := journaled.published publication stored
  have sameId : event.eventId = row.eventId := publishes.eventId.symm.trans same
  have sameRow : some event = some row := by
    rw [← journaled.eventRow? known, ← journaled.eventRow? member, sameId]
  rw [← Option.some.inj sameRow]
  exact publishes

variable [DecidableEq F]

theorem Journaled.verifyPublicationIntent (journaled : Journaled F tables)
    {event : PreparedEvent} {position : Nat}
    (member : ⟨event.toEventCore, position⟩ ∈ tables.events) (intends : tables.Intends event)
    {outboxHash : Option String} (hashed : publicationHash F event = .ok outboxHash)
    {descriptor : Json F} (describes : Describes descriptor event position outboxHash) :
    verifyPublicationIntent (tables.outboxRow? event.eventId) event.envelopeJson descriptor =
      .ok () := by
  have intended := describes.outboxTopic
  rw [Intends] at intends
  cases found : tables.outboxRow? event.eventId with
  | none =>
      rw [found] at intends
      rw [← intends] at intended
      simp only [Tables.verifyPublicationIntent, intended, Option.map_none, Option.elim_none]
  | some publication =>
      have publishes := journaled.publishes member found
      have payload : publication.payloadJson = event.envelopeJson := publishes.payloadJson
      have digest := publishes.envelopeHash
      have stored := describes.outboxHash
      rw [found] at intends
      rw [publicationHash, ← intends] at hashed
      rw [← intends] at intended
      rw [payload] at digest
      simp only [Option.map_some, digest, Except.map, Except.ok.injEq] at hashed
      subst hashed
      simp only [Tables.verifyPublicationIntent, intended, Option.map_some, Option.elim_some,
        requireCanonicalColumn_eq_ok.mpr publishes.topic, payload, digest, stored, ok_bind]
      exact if_neg (by simp)

theorem Journaled.verifyDescriptor (journaled : Journaled F tables)
    {event : PreparedEvent} {position : Nat}
    (member : ⟨event.toEventCore, position⟩ ∈ tables.events) (intends : tables.Intends event)
    {outboxHash : Option String} (hashed : publicationHash F event = .ok outboxHash)
    {descriptor : Json F} (describes : Describes descriptor event position outboxHash) :
    tables.verifyDescriptor descriptor = .ok () := by
  obtain ⟨envelope, admits⟩ := journaled.admitted _ member
  have positive := journaled.positions.pos member
  have numbered : some position ≠ some 0 := by
    rw [ne_eq, Option.some.injEq]
    exact Nat.pos_iff_ne_zero.mp positive
  have decoded := admits.decodeEventRow envelope.distinct numbered
  have row := journaled.eventRow? member
  have intent := journaled.verifyPublicationIntent member intends hashed describes
  rw [Tables.verifyDescriptor, if_neg]
  · simp only [describes.eventId, describes.aggregateType, describes.aggregateId,
      describes.aggregateVersion, describes.journalSequence, describes.envelopeHash, row]
    simp only [decoded, ok_bind]
    rw [if_neg (by simp), if_neg]
    · exact intent
    · rw [not_not]
      exact congrArg (fun hash => some (Json.str hash)) admits.envelopeHash
  · rw [not_not]
    exact ⟨describes.fields.subset, describes.fields.symm.subset⟩

/-- A stored effect passes its verification. -/
theorem Covers.verifyStoredEventBatchEffect (journaled : Journaled F tables)
    {prepared : List PreparedEvent} {first : Nat} {effectJson effectHash : String}
    (covers : Covers F tables prepared first effectJson effectHash) :
    tables.verifyStoredEventBatchEffect F effectJson effectHash = .ok () := by
  obtain ⟨effect, descriptors, loaded, reads⟩ := loadEffect_written covers.effect
  have rows := reads.effectRows covers.nonempty List.length_range'
  have each : descriptors.forM tables.verifyDescriptor = .ok () := by
    rw [forM_eq_ok]
    intro descriptor member
    obtain ⟨⟨event, position⟩, listed, outboxHash, hashed, describes⟩ :=
      exists_of_mem_forall₂ reads.described member
    apply journaled.verifyDescriptor _ _ hashed describes
    · apply covers.stored.subset
      rw [batchRows_eq_map]
      exact List.mem_map_of_mem listed
    · exact covers.intends event (List.of_mem_zip listed).1
  simp only [Tables.verifyStoredEventBatchEffect, loaded, ok_bind, reads.fields, ne_eq,
    not_true_eq_false, ↓reduceIte, rows]
  exact each

end Verification

end AutoTrade.Store.Tables
