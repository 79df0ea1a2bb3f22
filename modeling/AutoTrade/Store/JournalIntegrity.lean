import AutoTrade.Store.Effects

/-!
# Integrity of the journal

The structure of the tables after every run of calls, and what later calls keep
of it.
-/

namespace AutoTrade.Store.Tables

open Lib

section Statements

variable (F : Type) [FloatText F] [Fingerprint]

/-- A stored effect lists events that are present under consecutive journal
sequences. -/
structure ListsStored (tables : Tables) (effectJson effectHash : String)
    (descriptors : List (Json F)) (rows : List EventRow) : Prop where
  loaded : ∃ effect, loadEffect F effectJson effectHash = .ok effect ∧
    effect.get? "events" = some (.arr descriptors)
  listed : List.Forall₂ (fun descriptor row =>
    descriptor.get? "event_id" = some (.str row.eventId) ∧
      descriptor.get? "aggregate_type" = some (.str row.aggregateType) ∧
      descriptor.get? "aggregate_id" = some (.str row.aggregateId) ∧
      descriptor.get? "aggregate_version" = some (.int row.aggregateVersion) ∧
      descriptor.get? "journal_sequence" = some (.int row.journalSequence) ∧
      descriptor.get? "envelope_hash" = some (.str row.envelopeHash)) descriptors rows
  nonempty : rows ≠ []
  present : ∀ row ∈ rows, row ∈ tables.events
  consecutive : ∃ first, rows.map EventRow.journalSequence = List.range' first rows.length

/-- The structure of the tables. -/
structure Integral (tables : Tables) : Prop where
  journalSequences : tables.events.map EventRow.journalSequence =
    List.range' 1 tables.events.length
  aggregateVersions : ∀ aggregateType aggregateId,
    (tables.rowsOf aggregateType aggregateId).map (fun row => row.aggregateVersion) =
      List.range' 1 (tables.rowsOf aggregateType aggregateId).length
  increasing : ∀ aggregateType aggregateId,
    ∀ left ∈ tables.rowsOf aggregateType aggregateId,
      ∀ right ∈ tables.rowsOf aggregateType aggregateId,
        left.aggregateVersion < right.aggregateVersion ↔
          left.journalSequence < right.journalSequence
  publications : ∀ row ∈ tables.outbox, ∃ event ∈ tables.events,
    event.eventId = row.eventId ∧ row.payloadJson = event.envelopeJson
  effects : ∀ row ∈ tables.commands, ∀ effectJson effectHash,
    row.effect = .eventBatch effectJson effectHash →
      ∃ descriptors rows, ListsStored F tables effectJson effectHash descriptors rows
  checkpoints : ∀ row ∈ tables.checkpoints,
    row.aggregateVersion ≤ (tables.rowsOf row.aggregateType row.aggregateId).length
  globalCheckpoints : ∀ row ∈ tables.globalCheckpoints,
    row.journalSequence ≤ tables.events.length

/-- What later calls keep: deliveries are final and checkpoints do not regress. -/
structure Keeps (before after : Tables) : Prop where
  delivered : ∀ row ∈ before.outbox, row.deliveredAt ≠ none → row ∈ after.outbox ∧
    ∀ other ∈ after.outbox, other.eventId = row.eventId → other = row
  checkpoints : ∀ projectionName aggregateType aggregateId row,
    before.checkpoint? projectionName aggregateType aggregateId = some row →
      ∃ later, after.checkpoint? projectionName aggregateType aggregateId = some later ∧
        row.aggregateVersion ≤ later.aggregateVersion
  globalCheckpoints : ∀ projectionName row,
    before.globalCheckpoint? projectionName = some row →
      ∃ later, after.globalCheckpoint? projectionName = some later ∧
        row.journalSequence ≤ later.journalSequence

variable {F} in
theorem Covers.listsStored {tables : Tables} {prepared : List PreparedEvent} {first : Nat}
    {effectJson effectHash : String}
    (covers : Covers F tables prepared first effectJson effectHash) :
    ∃ descriptors rows, ListsStored F tables effectJson effectHash descriptors rows := by
  obtain ⟨effect, descriptors, loaded, reads⟩ := loadEffect_written covers.effect
  refine ⟨descriptors, batchRows first prepared, ?_⟩
  exact {
    loaded := ⟨effect, loaded, reads.events⟩
    listed := by
      rw [batchRows_eq_map, List.forall₂_map_right_iff]
      apply reads.described.flip.imp
      rintro descriptor ⟨event, position⟩ ⟨_, _, describes⟩
      exact ⟨describes.eventId, describes.aggregateType, describes.aggregateId,
        describes.aggregateVersion, describes.journalSequence, describes.envelopeHash⟩
    nonempty := by
      rw [← List.length_pos_iff, length_batchRows, List.length_pos_iff]
      exact covers.nonempty
    present := fun row member => covers.stored.subset member
    consecutive := ⟨first, by rw [map_journalSequence_batchRows, length_batchRows]⟩ }

end Statements

theorem Grows.keeps {before after : Tables} (grows : before.Grows after)
    (once : (after.outbox.map OutboxRow.eventId).Nodup) : before.Keeps after where
  delivered := by
    intro row member delivered
    obtain ⟨row', member', intent, kept⟩ := grows.outbox row member
    obtain ⟨moment, found⟩ := Option.ne_none_iff_exists'.mp delivered
    have same : row' = row := by
      rw [← OutboxRow.intent_deliveredAt row', ← OutboxRow.intent_deliveredAt row, intent, found,
        kept moment found]
    subst same
    refine ⟨member', fun other listed sameId => ?_⟩
    exact List.inj_on_of_nodup_map once listed member' sameId
  checkpoints := grows.checkpoints
  globalCheckpoints := grows.globalCheckpoints

section Proofs

variable {F : Type} [FloatText F] [TextFormats] [Fingerprint] {tables : Tables}

/-- Versions of one aggregate follow the order of the journal. -/
theorem Journaled.increasing (journaled : Journaled F tables)
    (aggregateType aggregateId : String) {left right : EventRow}
    (leftMember : left ∈ tables.rowsOf aggregateType aggregateId)
    (rightMember : right ∈ tables.rowsOf aggregateType aggregateId) :
    left.aggregateVersion < right.aggregateVersion ↔
      left.journalSequence < right.journalSequence := by
  have positions : (tables.rowsOf aggregateType aggregateId).Pairwise fun earlier later =>
      earlier.journalSequence < later.journalSequence :=
    journaled.positions.pairwise_lt.filter _
  exact lt_iff_lt_of_pairwise (journaled.versions aggregateType aggregateId).pairwise_lt positions
    leftMember rightMember

theorem Sound.integral (sound : Sound F tables) : Integral F tables where
  journalSequences := sound.positions
  aggregateVersions := sound.versions
  increasing := fun _ _ _ left _ right => sound.increasing _ _ left right
  publications := by
    intro row member
    obtain ⟨event, known, publishes⟩ := sound.published row member
    exact ⟨event, known, publishes.eventId.symm, publishes.payloadJson⟩
  effects := by
    intro row member effectJson effectHash effect
    have stored := (sound.commands row member).effect
    rw [effect] at stored
    obtain ⟨_, _, covers⟩ := stored
    exact covers.listsStored
  checkpoints := sound.checkpoints
  globalCheckpoints := sound.globalCheckpoints

end Proofs

variable {F : Type} [FloatText F] [DecidableEq F] [TextFormats] [Fingerprint] [CaseMap]

/-- After every sequence of calls the journal has its structure, whatever the
clocks read and whichever calls raised; later calls keep deliveries and
checkpoints, and a call that raises changes nothing. -/
theorem tables_integrity (calls : List (StoreCall F)) :
    Integral F (run calls) ∧
      (∀ later : List (StoreCall F), (run calls).Keeps (run (calls ++ later))) ∧
      ∀ (invocation : StoreCall F) (error : StoreError),
        (run calls).perform invocation = .error error →
          run (calls ++ [invocation]) = run calls := by
  refine ⟨(sound_run calls).integral, ?_, ?_⟩
  · intro later
    have sound := sound_run (calls ++ later)
    rw [run_append] at sound ⊢
    exact ((run calls).runFrom_grows later).keeps sound.publishedOnce
  · intro invocation error raised
    rw [run_append, runFrom, List.foldl_cons, List.foldl_nil, call, raised]

end AutoTrade.Store.Tables
