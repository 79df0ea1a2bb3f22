import AutoTrade.Store.Soundness

/-!
# Every call keeps the tables sound

The step lemma of each writing call, and the run lemma: the tables are sound
after every sequence of calls, whichever of them raise.
-/

namespace AutoTrade.Store.Tables

open Lib

variable {F : Type} [FloatText F] [TextFormats] [Fingerprint]

/-! ## Appending -/

/-- The events are sound whatever the other tables hold. -/
theorem Journaled.of_eq {tables next : Tables} (journaled : Journaled F tables)
    (events : next.events = tables.events) (outbox : next.outbox = tables.outbox) :
    Journaled F next := by
  have rows : ∀ aggregateType aggregateId,
      next.rowsOf aggregateType aggregateId = tables.rowsOf aggregateType aggregateId := by
    intro aggregateType aggregateId
    rw [rowsOf, rowsOf, events]
  exact {
    positions := by
      rw [events]
      exact journaled.positions
    versions := by
      intro aggregateType aggregateId
      rw [rows]
      exact journaled.versions aggregateType aggregateId
    identified := by
      rw [events]
      exact journaled.identified
    admitted := by
      rw [events]
      exact journaled.admitted
    published := by
      rw [events, outbox]
      exact journaled.published
    publishedOnce := by
      rw [outbox]
      exact journaled.publishedOnce }

/-- An append that inserts keeps the events sound. -/
theorem Journaled.appendPrepared {tables next : Tables} (journaled : Journaled F tables)
    {event : PreparedEvent} {expected : Option Nat} {counts : Option WholeStoreCounts}
    {now : Reading} {result : AppendResult}
    (admitted : ∃ envelope : Detached F, Admits envelope.value event.toEventCore)
    (topic : CanonicalTopic event.outboxTopic)
    (success : tables.appendPrepared F event expected counts now = .ok (next, result)) :
    Journaled F next := by
  rcases appendPrepared_cases success with
    ⟨rfl, _⟩ | ⟨cut, current, position, counted, version, inserted⟩
  · exact journaled
  · rw [journaled.journalSequenceValue, Except.ok.injEq] at position
    rw [journaled.aggregateVersionValue, Except.ok.injEq] at counted
    subst position counted
    exact journaled.insertPrepared admitted topic version inserted

/-- A transaction that leaves commands and checkpoints keeps the tables sound. -/
theorem Sound.of_frame {tables next : Tables} (sound : Sound F tables)
    (grows : tables.Grows next) (journaled : Journaled F next)
    (frame : next.commands = tables.commands ∧ next.checkpoints = tables.checkpoints ∧
      next.globalCheckpoints = tables.globalCheckpoints) : Sound F next := by
  apply sound.of_grows grows journaled
  · rw [frame.1]
    exact fun row member => .inl member
  · rw [frame.1]
    exact sound.keys
  · rw [frame.2.1]
    exact fun row member => .inl member
  · rw [frame.2.2]
    exact fun row member => .inl member

theorem Sound.appendEvent [DecidableEq F] {tables next : Tables} (sound : Sound F tables)
    {envelope : Detached F} {outboxTopic : Option String} {expected : Option Nat}
    {counts : Option WholeStoreCounts} {now : Reading} {result : AppendResult}
    (success : tables.appendEvent envelope outboxTopic expected counts now =
      .ok (next, result)) : Sound F next := by
  rw [Tables.appendEvent, bind_eq_ok] at success
  obtain ⟨event, columns, appended⟩ := success
  obtain ⟨admits, topic, canonical⟩ := appendColumns_eq_ok columns
  rw [← topic] at canonical
  exact sound.of_frame (appendPrepared_grows appended)
    (sound.appendPrepared ⟨envelope, admits⟩ canonical appended) (appendPrepared_frame appended)

/-! ## Commands -/

/-- Adding a command row under a new key keeps the keys distinct. -/
theorem Sound.keys_append {tables next : Tables} (sound : Sound F tables) {row : CommandRow}
    (success : tables.insertCommand row = .ok next) :
    ((tables.commands ++ [row]).map CommandRow.key).Nodup := by
  rw [List.map_append, List.map_singleton]
  refine sound.keys.append (List.nodup_singleton _) ?_
  rw [List.disjoint_singleton]
  intro used
  obtain ⟨other, member, same⟩ := List.mem_map.mp used
  simp only [CommandRow.key, Prod.mk.injEq] at same
  exact (insertCommand_eq_ok success).1 other member same

/-- What a first `commit_command` leaves: its events are stored from the next
journal sequence on. -/
theorem Sound.insertCommit {tables next : Tables} (sound : Sound F tables)
    {command : PreparedCommand F} {prepared : List PreparedEvent} {expected : Option Nat}
    {counts : Option WholeStoreCounts} {now : Nat → Reading} {outcome : CommitOutcome F}
    (nonempty : prepared ≠ [])
    (admitted : ∀ event ∈ prepared, (∃ envelope : Detached F,
      Admits envelope.value event.toEventCore) ∧ CanonicalTopic event.outboxTopic)
    (success : tables.insertCommit command prepared expected counts now =
      .ok (next, outcome)) :
    ∃ effectJson effectHash reading,
      Journaled F next ∧
      next.events = tables.events ++ batchRows (tables.events.length + 1) prepared ∧
      next.commands = tables.commands ++
        [command.row (.eventBatch effectJson effectHash) reading] ∧
      Covers F next prepared (tables.events.length + 1) effectJson effectHash ∧
      (next.commands.map CommandRow.key).Nodup ∧
      next.checkpoints = tables.checkpoints ∧
      next.globalCheckpoints = tables.globalCheckpoints := by
  obtain ⟨cut, effectJson, effectHash, withCommand, position, effect, versions, inserted, batch,
    rfl⟩ := insertCommit_eq_ok success
  rw [sound.journalSequenceValue, Except.ok.injEq] at position
  subst position
  obtain ⟨_, rfl⟩ := insertCommand_eq_ok inserted
  have reached : Journaled F { tables with commands := tables.commands ++
      [command.row (.eventBatch effectJson effectHash) (now tables.events.length)] } :=
    sound.toJournaled.of_eq rfl rfl
  obtain ⟨journaled, events, intends⟩ := sound.toJournaled.insertPreparedBatch reached
    (fun _ _ => rfl) versions admitted batch
  obtain ⟨commands, checkpoints, globalCheckpoints⟩ := insertPreparedBatch_frame batch
  refine ⟨effectJson, effectHash, now tables.events.length, journaled, events, commands, ?_,
    commands ▸ sound.keys_append inserted, checkpoints, globalCheckpoints⟩
  exact {
    nonempty := nonempty
    positive := Nat.succ_pos _
    effect := effect
    stored := events ▸ List.suffix_append _ _ |>.isInfix
    intends := intends }

section Commands

variable [CaseMap]

theorem Sound.commitCommand [DecidableEq F] {tables next : Tables} (sound : Sound F tables)
    {command : Command F} {batch : Batch F} {now : Nat → Reading} {outcome : CommitOutcome F}
    (success : tables.commitCommand command batch now = .ok (next, outcome)) :
    Sound F next := by
  have grows := commitCommand_grows success
  obtain ⟨scope, prepared, events, identified, nonempty, digested, columns,
    ⟨_, _, replayed⟩ | ⟨_, inserted⟩⟩ := commitCommand_eq_ok success
  · rw [(replayCommit_eq_ok replayed).1]
    exact sound
  · obtain ⟨effectJson, effectHash, reading, journaled, _, commands, covers, keys, checkpoints,
      globalCheckpoints⟩ := sound.insertCommit (ne_nil_of_prepareBatch nonempty columns)
        (admitted_of_prepareBatch columns) inserted
    apply sound.of_grows grows journaled
    · intro row member
      rw [commands] at member
      rcases List.mem_append.mp member with old | new
      · exact .inl old
      · right
        have stored : SoundEffect F next (.eventBatch effectJson effectHash) :=
          ⟨events, _, covers⟩
        rw [List.mem_singleton.mp new]
        exact soundCommand_row identified digested _ stored reading
    · exact keys
    · rw [checkpoints]
      exact fun row member => .inl member
    · rw [globalCheckpoints]
      exact fun row member => .inl member

theorem Sound.recordCommand {tables next : Tables} (sound : Sound F tables)
    {command : Command F} {now : Reading} {result : Json F} {inserted : Bool}
    (success : tables.recordCommand command now = .ok (next, result, inserted)) :
    Sound F next := by
  have grows := recordCommand_grows success
  obtain ⟨scope, prepared, identified, digested, ⟨_, _, _, _, _, rfl, _⟩ | ⟨_, command, _⟩⟩ :=
    recordCommand_eq_ok success
  · exact sound
  · obtain ⟨_, rfl⟩ := insertCommand_eq_ok command
    apply sound.of_grows grows (sound.toJournaled.of_eq rfl rfl)
    · intro row member
      rcases List.mem_append.mp member with old | new
      · exact .inl old
      · right
        rw [List.mem_singleton.mp new]
        exact soundCommand_row identified digested .resultOnly trivial now
    · exact sound.keys_append command
    · exact fun row member => .inl member
    · exact fun row member => .inl member

end Commands

/-! ## Deliveries and checkpoints -/

theorem Sound.markOutboxDelivered [DecidableEq F] {tables next : Tables} (sound : Sound F tables)
    {outboxId envelopeHash : String} {expected : Option Nat}
    {counts : Option WholeStoreCounts} {now : Reading} {delivered : Bool}
    (success : tables.markOutboxDelivered F outboxId envelopeHash expected counts now =
      .ok (next, delivered)) : Sound F next := by
  have grows := markOutboxDelivered_grows success
  rcases markOutboxDelivered_cases success with rfl | rfl
  · exact sound
  · refine sound.of_frame grows { sound.toJournaled with published := ?_, publishedOnce := ?_ }
      ⟨rfl, rfl, rfl⟩
    · intro row' member'
      obtain ⟨row, member, rfl⟩ := List.mem_map.mp member'
      obtain ⟨event, known, publishes⟩ := sound.published row member
      exact ⟨event, known, publishes.deliver outboxId envelopeHash now⟩
    · have same : ∀ row : OutboxRow,
          (OutboxRow.deliver row outboxId envelopeHash now).eventId = row.eventId :=
        fun row => eventId_of_intent_eq (OutboxRow.intent_deliver row _ _ _)
      rw [List.map_map]
      exact (List.map_congr_left fun row _ => same row) ▸ sound.publishedOnce

theorem Sound.saveProjectionCheckpoint {tables next : Tables} (sound : Sound F tables)
    {projectionName aggregateType aggregateId : String} {aggregateVersion : Nat}
    {state : Detached F} {now : Reading} {inserted : Bool}
    (success : tables.saveProjectionCheckpoint projectionName aggregateType aggregateId
      aggregateVersion state now = .ok (next, inserted)) : Sound F next := by
  have grows := saveProjectionCheckpoint_grows success
  rcases saveProjectionCheckpoint_cases success with rfl | ⟨row, current, rfl, counted, behind, _⟩
  · exact sound
  · rw [sound.aggregateVersionValue, Except.ok.injEq] at counted
    subst counted
    apply sound.of_grows grows (sound.toJournaled.of_eq rfl rfl)
    · exact fun row member => .inl member
    · exact sound.keys
    · intro found member
      rcases mem_of_mem_upsert member with rfl | old
      · exact .inr behind
      · exact .inl old
    · exact fun row member => .inl member

theorem Sound.saveGlobalProjectionCheckpoint {tables next : Tables} (sound : Sound F tables)
    {projectionName : String} {journalSequence : Nat} {state : Detached F} {now : Reading}
    {inserted : Bool}
    (success : tables.saveGlobalProjectionCheckpoint projectionName journalSequence state now =
      .ok (next, inserted)) : Sound F next := by
  have grows := saveGlobalProjectionCheckpoint_grows success
  rcases saveGlobalProjectionCheckpoint_cases success with
    rfl | ⟨row, current, rfl, position, behind, _⟩
  · exact sound
  · rw [sound.journalSequenceValue, Except.ok.injEq] at position
    subst position
    apply sound.of_grows grows (sound.toJournaled.of_eq rfl rfl)
    · exact fun row member => .inl member
    · exact sound.keys
    · exact fun row member => .inl member
    · intro found member
      rcases mem_of_mem_upsert member with rfl | old
      · exact .inr behind
      · exact .inl old

/-! ## Runs -/

section Runs

variable [DecidableEq F] [CaseMap]

/-- The step lemma of the invariant. -/
theorem Sound.perform {tables next : Tables} (sound : Sound F tables)
    {invocation : StoreCall F} (success : tables.perform invocation = .ok next) :
    Sound F next := by
  cases invocation with
  | appendEvent =>
      obtain ⟨_, success⟩ := map_fst_eq_ok.mp success
      exact sound.appendEvent success
  | commitCommand =>
      obtain ⟨_, success⟩ := map_fst_eq_ok.mp success
      exact sound.commitCommand success
  | recordCommand =>
      obtain ⟨_, success⟩ := map_fst_eq_ok.mp success
      exact sound.recordCommand success
  | markOutboxDelivered =>
      obtain ⟨_, success⟩ := map_fst_eq_ok.mp success
      exact sound.markOutboxDelivered success
  | saveProjectionCheckpoint =>
      obtain ⟨_, success⟩ := map_fst_eq_ok.mp success
      exact sound.saveProjectionCheckpoint success
  | saveGlobalProjectionCheckpoint =>
      obtain ⟨_, success⟩ := map_fst_eq_ok.mp success
      exact sound.saveGlobalProjectionCheckpoint success

theorem Sound.call {tables : Tables} (sound : Sound F tables) (invocation : StoreCall F) :
    Sound F (tables.call invocation) := by
  rcases tables.call_cases invocation with committed | ⟨_, raised⟩
  · exact sound.perform committed
  · rw [raised]
    exact sound

/-- The run lemma of the invariant. -/
theorem Sound.runFrom {tables : Tables} (sound : Sound F tables) (calls : List (StoreCall F)) :
    Sound F (tables.runFrom calls) := by
  induction calls generalizing tables with
  | nil => exact sound
  | cons invocation rest ih => exact ih (sound.call invocation)

theorem sound_run (calls : List (StoreCall F)) : Sound F (run calls) :=
  Sound.empty.runFrom calls

end Runs

end AutoTrade.Store.Tables
