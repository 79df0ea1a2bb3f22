import AutoTrade.Recovery.ClockCalls
import AutoTrade.Recovery.Readiness

/-!
# Reconciliation after a clock incident

A trust transition only clears fields of the controller, and readiness is derived
again from whichever checkpoint is the latest of its scope.  READY rests on a
checkpoint that was committed after the last clock incident was restored, as long
as every call that reconciles loads such a checkpoint.
-/

namespace AutoTrade.Recovery

open Lib Store

/-- The last incident was restored before the row at a sequence. -/
def RestoredBefore (incidents : List ClockIncident) (sequence : Nat) : Prop :=
  ∀ current ∈ incidents.getLast?,
    ∃ restored ∈ current.restoredJournalSequence, restored < sequence

theorem RestoredBefore.trusted {incidents : List ClockIncident} {sequence : Nat}
    (before : RestoredBefore incidents sequence) : trustedAfter incidents = true := by
  rw [trustedAfter]
  cases last : incidents.getLast? with
  | none => rfl
  | some current =>
      obtain ⟨restored, member, _⟩ := before current last
      rw [Option.all_some, ClockIncident.restored, Option.isSome_iff_exists]
      exact ⟨restored, member⟩

/-! ## Loading a checkpoint -/

section Loading

set_option linter.unusedSectionVars false

variable {π κ : Type} [DecidableEq π] [DecidableEq κ] [Carries RecoveryEvent π]
  [Carries CheckpointEvent π] [Carries RecoveryCommand κ] [SubmissionView π] [Fingerprint]
  [CaseMap] {journal later : Journal π κ} {scope : ReconciliationScope}

/-- The checkpoint that a query loads for readiness from a journal. -/
def Loads (journal : Journal π κ) (query : CheckpointQuery) (owner : OwnerFence)
    (found : (Envelope π × Nat) × CheckpointPayload) : Prop :=
  ∃ reconciliationId scope,
    requiredText query.reconciliationId "reconciliation_id" = .ok reconciliationId ∧
      query.scope = .ok scope ∧
      latestCheckpoint (checkpointRows journal.events reconciliationId scope) scope =
        .ok (some found) ∧
      readyCheckpoint scope found (rowsOfType journal.events reconciliationType) owner.ownerId
        (Nat.repr owner.epoch) = .ok (some found)

theorem latestCheckpointForScope_eq_ok {rows : List (Envelope π × Nat)}
    {latest : Option ((Envelope π × Nat) × CheckpointPayload)} :
    latestCheckpointForScope rows scope = .ok latest ↔
      rows.foldlM (scopeStep scope) none = .ok latest ∧
        ∀ found ∈ latest, requireNegativeResolutionAuthority found.2 = .ok () := by
  rw [latestCheckpointForScope, bind_eq_ok]
  constructor
  · rintro ⟨folded, run, success⟩
    cases folded with
    | none =>
        cases pure_eq_ok.mp success
        exact ⟨run, fun _ none => by cases none⟩
    | some found =>
        simp only [bind_eq_ok, pure_eq_ok] at success
        obtain ⟨_, authorized, rfl⟩ := success
        refine ⟨run, ?_⟩
        rintro _ ⟨⟩
        exact authorized
  · rintro ⟨run, authorized⟩
    refine ⟨latest, run, ?_⟩
    cases latest with
    | none => rfl
    | some found =>
        simp only [authorized found rfl, ok_bind]
        rfl

/-- The latest checkpoint after more rows is the one before them or one of them. -/
theorem foldlM_scopeStep {rows : List (Envelope π × Nat)}
    {before latest : Option ((Envelope π × Nat) × CheckpointPayload)}
    (success : rows.foldlM (scopeStep scope) before = .ok latest) :
    latest = before ∨ ∃ found, latest = some found ∧ found.1 ∈ rows := by
  induction rows generalizing before with
  | nil => exact Or.inl (pure_eq_ok.mp success).symm
  | cons row rows ih =>
      rw [List.foldlM_cons, bind_eq_ok] at success
      obtain ⟨middle, step, rest⟩ := success
      rcases ih rest with rfl | ⟨found, same, member⟩
      · rw [scopeStep] at step
        split at step
        next => cases step
        next event _ =>
          split at step
          next => exact Or.inl (Except.ok.inj step).symm
          next =>
            rw [guard_eq_ok, Except.ok.injEq] at step
            exact Or.inr ⟨(row, event.payload), step.2.symm, List.mem_cons_self⟩
      · exact Or.inr ⟨found, same, List.mem_cons_of_mem _ member⟩

theorem rowsOfType_append (events added : List (Envelope π)) (aggregateType : String) :
    rowsOfType (events ++ added) aggregateType = rowsOfType events aggregateType ++
      (added.zipIdx (1 + events.length)).filter fun row =>
        row.1.aggregate.aggregateType = aggregateType := by
  rw [rowsOfType, rowsOfType, List.zipIdx_append, List.filter_append]

/-- A checkpoint of a journal that is the latest of its scope later on is the
latest one in that journal already. -/
theorem readyCheckpoint_of_le {found : (Envelope π × Nat) × CheckpointPayload}
    {hostId ownerEpoch : String} (growth : journal ≤ later)
    (stored : found.1.1 ∈ journal.events)
    (ready : readyCheckpoint scope found (rowsOfType later.events reconciliationType) hostId
      ownerEpoch = .ok (some found)) :
    readyCheckpoint scope found (rowsOfType journal.events reconciliationType) hostId
      ownerEpoch = .ok (some found) := by
  rw [readyCheckpoint_eq_ok] at ready ⊢
  obtain ⟨_, ⟨latest, loaded, same⟩, owned⟩ := ready
  refine ⟨rfl, ⟨latest, ?_, same⟩, owned⟩
  obtain ⟨added, events⟩ := growth.1
  rw [latestCheckpointForScope_eq_ok] at loaded ⊢
  refine ⟨?_, loaded.2⟩
  have run := loaded.1
  rw [← events, rowsOfType_append, List.foldlM_append, bind_eq_ok] at run
  obtain ⟨before, first, rest⟩ := run
  rcases foldlM_scopeStep rest with rfl | ⟨other, rfl, member⟩
  · exact first
  · -- a row of the same event id would be in the journal twice
    have listed : other.1.1 ∈ added := List.fst_mem_of_mem_zipIdx (List.mem_filter.mp member).1
    have distinct := later.distinct
    rw [← events, List.map_append, List.nodup_append] at distinct
    have equal : other.1.1.eventId = found.1.1.eventId := Option.some.inj same
    exact absurd equal.symm (distinct.2.2 _ (List.mem_map_of_mem stored) _
      (List.mem_map_of_mem listed))

/-- What a load returns, the journal that it started on has. -/
theorem ensures_loads {state : Journal π κ} (query : CheckpointQuery) (owner : OwnerFence) :
    Raising.Ensures Appends
      (fun later found => state ≤ later ∧ ∀ row payload, found = some (row, payload) →
        Loads state query owner (row, payload)) (fun _ => True)
      (loadCheckpointForReadiness query owner.ownerId (Nat.repr owner.epoch) :
        Recording π κ (Option ((Envelope π × Nat) × CheckpointPayload))) state := by
  unfold loadCheckpointForReadiness
  apply Raising.ensures_bind
  apply Raising.ensures_ofExcept _ fun _ _ => trivial
  intro reconciliationId named
  apply Raising.ensures_bind
  apply Raising.ensures_ofExcept _ fun _ _ => trivial
  intro scope within
  apply Raising.ensures_bind
  apply Raising.ensures_read
  intro first others
  have growth := le_of_appends others
  apply Raising.ensures_bind
  apply Raising.ensures_ofExcept _ fun _ _ => trivial
  intro checkpoint loaded
  split
  next => exact Raising.ensures_pure ⟨growth, fun _ _ none => by cases none⟩
  next found =>
    apply Raising.ensures_bind
    apply Raising.ensures_read
    intro second more
    apply Raising.ensures_ofExcept _ fun _ _ => trivial
    intro _ ready
    refine ⟨growth.trans (le_of_appends more), ?_⟩
    rintro row payload rfl
    obtain ⟨rfl, _⟩ := readyCheckpoint_eq_ok.mp ready
    have listed := (latestCheckpoint_eq_ok loaded).1
    have stored : row.1 ∈ state.events := List.fst_mem_of_mem_zipIdx
      (List.mem_filter.mp (List.mem_of_getLast? listed)).1
    exact ⟨reconciliationId, scope, named, within, loaded,
      readyCheckpoint_of_le growth stored ready⟩

/-- A complete checkpoint that leaves no send unresolved. -/
def Reconciles (controller : RecoveryController) (payload : CheckpointPayload) : Prop :=
  payload.complete = true ∧ payload.snapshotConsistent = true ∧
    payload.activityCoverageComplete = true ∧
    ∃ verdict, checkpointVerdict payload controller.recoveredUnknownIdentities = .ok verdict ∧
      controller.unresolvedSendAttempts ⊆ verdict.terminallyResolved ∧
      verdict.reportedUnresolved = ∅

theorem reconciles_of_accepted {controller : RecoveryController} {payload : CheckpointPayload}
    {verdict : ResolutionVerdict}
    (collected : checkpointVerdict payload controller.recoveredUnknownIdentities = .ok verdict)
    (reconciled : (controller.accepted payload verdict).providerReconciled = true) :
    Reconciles controller payload := by
  simp only [RecoveryController.accepted, RecoveryController.recomputeState, Bool.and_eq_true,
    decide_eq_true_eq, Finset.union_eq_empty, Finset.sdiff_eq_empty_iff_subset] at reconciled
  obtain ⟨⟨⟨complete, consistent⟩, covered⟩, settled, reported⟩ := reconciled
  exact ⟨complete, consistent, covered, verdict, collected, settled, reported⟩

/-- A call that reconciles loaded a complete checkpoint from a journal that it saw. -/
theorem ensures_recordCheckpoint_loads {state : Journal π κ} {own : RecoveryController}
    (query : CheckpointQuery) :
    Party.Ensures Appends
      (fun later after evidence => after.providerReconciled = true →
        ∃ seen row payload, state ≤ seen ∧ seen ≤ later ∧
          Loads seen query evidence.owner (row, payload) ∧ Reconciles own payload ∧
          own.owner = some evidence.owner ∧ evidence.journalSequence = row.2)
      (fun _ _ => True) (recordCheckpoint query : Controlling π κ CheckpointEvidence) state
      own := by
  unfold recordCheckpoint
  apply Party.ensures_get
  split
  next => exact Party.ensures_throw trivial
  next owner owned =>
    apply Party.ensures_unless fun _ => trivial
    intro _
    apply Party.ensures_bind
    apply ensures_requireCurrentDurableOwner.imp
    · rintro first _ _ ⟨growth, rfl⟩
      apply Party.ensures_unless fun _ => trivial
      intro _
      apply Party.ensures_bind
      apply Party.ensures_ask
      apply (ensures_loads query owner).imp
      · rintro second found ⟨further, loads⟩
        split
        next =>
          apply Party.ensures_bind
          apply Party.ensures_change
          · intro _ _
            exact Party.ensures_throw trivial
          · exact fun _ _ => trivial
        next row payload =>
          apply Party.ensures_bind
          apply Party.ensures_update
          · intro next success
            apply Party.ensures_pure
            intro reconciled
            rw [RecoveryController.acceptCheckpoint, bind_eq_ok] at success
            obtain ⟨verdict, collected, success⟩ := success
            rw [throw_unless_eq_ok, pure_eq_ok] at success
            rw [← success.2] at reconciled
            exact ⟨first, row, payload, growth, further, loads row payload rfl,
              reconciles_of_accepted collected reconciled, owned, rfl⟩
          · exact fun _ _ => trivial
      · exact fun _ _ => trivial
    · exact fun _ _ _ => trivial

end Loading

/-! ## Fields -/

section Fields

variable {controller next : RecoveryController}

/-- READY stands only while the provider is reconciled. -/
def Reconciled (controller : RecoveryController) : Prop :=
  controller.state = .ready → controller.providerReconciled = true

theorem reconciled_of_recomputeState : Reconciled controller.recomputeState :=
  fun ready => (ready_of_recomputeState ready).reconciled

theorem reconciled_of_ne_ready (other : controller.state ≠ .ready) : Reconciled controller :=
  fun ready => absurd ready other

/-- The scope stays, and the provider is reconciled only if it was. -/
structure Keeps (controller next : RecoveryController) : Prop where
  durable : next.durable = controller.durable
  ownerScope : next.ownerScope = controller.ownerScope
  reconciled : next.providerReconciled = true → controller.providerReconciled = true

theorem Keeps.refl (controller : RecoveryController) : Keeps controller controller :=
  ⟨rfl, rfl, id⟩

theorem keeps_withClock {trusted : Bool} : Keeps controller (controller.withClock trusted) := by
  rw [RecoveryController.withClock]
  split
  · exact ⟨rfl, rfl, id⟩
  · exact ⟨rfl, rfl, fun reconciled => by cases reconciled⟩

/-- A loss of the clock leaves the provider unreconciled. -/
theorem trusted_of_withClock {trusted : Bool}
    (reconciled : (controller.withClock trusted).providerReconciled = true) : trusted = true := by
  rw [RecoveryController.withClock] at reconciled
  split at reconciled
  next restored => exact restored
  next => cases reconciled

section Scans

variable [Fingerprint] [CaseMap] {scope : SubmissionScope} {rows : List SubmissionRow}

theorem keeps_recoverRows (controller : RecoveryController) (scope : SubmissionScope)
    (rows : List SubmissionRow) : Keeps controller (controller.recoverRows scope rows).1 := by
  apply recoverRows_induction (Keeps controller) _ _ (Keeps.refl controller)
  · intro fields after found recovered added kept success
    rcases recoverFinding_eq_ok success with ⟨-, rfl, -⟩ | ⟨_, -, -, rfl⟩ |
      ⟨_, _, _, -, -, -, rfl⟩
    · exact kept
    · exact ⟨kept.durable, kept.ownerScope, kept.reconciled⟩
    · exact ⟨kept.durable, kept.ownerScope, kept.reconciled⟩
  · intro fields kept
    exact ⟨kept.durable, kept.ownerScope, fun reconciled => by cases reconciled⟩

theorem Reconciled.recoverRows (reconciled : Reconciled controller) :
    Reconciled (controller.recoverRows scope rows).1 := by
  apply recoverRows_induction Reconciled _ _ reconciled
  · intro fields after found recovered added kept success
    rcases recoverFinding_eq_ok success with ⟨-, rfl, -⟩ | ⟨_, -, -, rfl⟩ |
      ⟨_, _, _, -, -, -, rfl⟩
    · exact kept
    · exact kept
    · exact kept
  · exact fun _ => reconciled_of_recomputeState

end Scans

section Calls

variable {π κ : Type} [Carries CheckpointEvent π] [SubmissionView π] [Fingerprint] [CaseMap]
  {journal later : Journal π κ} {call : Call} {result : Except RecoveryError Answer}

theorem Reconciled.acts (reconciled : Reconciled controller)
    (acts : Acts journal later call controller next result) : Reconciled next := by
  cases acts with
  | raised => exact reconciled
  | started owner => exact reconciled_of_ne_ready (by simp [RecoveryController.started])
  | restored owner scope rows =>
      have started : Reconciled (controller.started owner) :=
        reconciled_of_ne_ready (by simp [RecoveryController.started])
      exact started.recoverRows
  | @recovered _ _ _ next scope attempts created success =>
      have kept : Reconciled (controller.recoverRows scope (submissionRows journal)).1 :=
        reconciled.recoverRows
      rw [success] at kept
      exact kept
  | @interrupted _ _ _ next scope failure error created failed =>
      have kept : Reconciled (controller.recoverRows scope (submissionRows journal)).1 :=
        reconciled.recoverRows
      rw [failed] at kept
      exact kept
  | unbound => exact reconciled_of_recomputeState
  | accepted => exact reconciled_of_recomputeState
  | reconciled success =>
      obtain ⟨reported, consistent, rfl⟩ := reconciled_eq_ok success
      exact reconciled_of_recomputeState
  | storage writable => exact fun ready => (sound_withStorage writable ready).reconciled
  | clock trusted => exact fun ready => (sound_withClock trusted ready).reconciled
  | noted success =>
      obtain ⟨_, rfl⟩ := noted_eq_ok success
      exact reconciled_of_recomputeState
  | resolved success =>
      obtain ⟨_, _, _, rfl⟩ := resolved_eq_ok success
      exact reconciled_of_recomputeState
  | transferred success =>
      obtain ⟨state, _⟩ := transferred_eq_ok success
      apply reconciled_of_ne_ready
      rw [state]
      decide
  | leaseExpired =>
      rw [RecoveryController.leaseExpired]
      split
      next => exact reconciled
      next =>
        apply reconciled_of_ne_ready
        by_cases ready : controller.state = .ready
        · simp [ready]
        · simp [ready]
  | stopped => exact reconciled_of_ne_ready (by simp [RecoveryController.halted])

theorem eq_withClock_of_acts {trusted : Bool} {reasonCode evidenceRef : Option String}
    {answer : Answer} (acts : Acts journal later (.setClockTrusted trusted reasonCode evidenceRef)
      controller next (.ok answer)) : next = controller.withClock trusted := by
  cases acts with
  | clock => rfl

/-- A durable controller reconciles only by a checkpoint. -/
theorem keeps_of_acts (durable : controller.durable = true)
    (acts : Acts journal later call controller next result) :
    (Keeps controller next ∧
        (next.providerReconciled = true → ∀ before, establishedBy result before = before)) ∨
      ∃ query evidence payload, call = .recordReconciliationCheckpoint query ∧
        result = .ok (.evidence evidence) ∧ Presents later evidence payload ∧
        next.durable = controller.durable ∧ next.ownerScope = controller.ownerScope := by
  cases acts with
  | raised => exact Or.inl ⟨Keeps.refl controller, fun _ _ => rfl⟩
  | started owner =>
      exact Or.inl ⟨⟨rfl, rfl, fun reconciled => by cases reconciled⟩,
        fun reconciled => by cases reconciled⟩
  | restored owner scope rows =>
      have kept := keeps_recoverRows (controller.started owner) scope rows
      have never : ((controller.started owner).recoverRows scope rows).1.providerReconciled ≠
          true := fun reconciled => by cases kept.reconciled reconciled
      exact Or.inl ⟨⟨kept.durable, kept.ownerScope, fun reconciled => absurd reconciled never⟩,
        fun reconciled => absurd reconciled never⟩
  | @recovered _ _ _ next scope attempts created success =>
      have kept := keeps_recoverRows controller scope (submissionRows journal)
      rw [success] at kept
      exact Or.inl ⟨kept, fun _ _ => rfl⟩
  | @interrupted _ _ _ next scope failure error created failed =>
      have kept := keeps_recoverRows controller scope (submissionRows journal)
      rw [failed] at kept
      exact Or.inl ⟨kept, fun _ _ => rfl⟩
  | unbound => exact Or.inl ⟨⟨rfl, rfl, fun reconciled => by cases reconciled⟩, fun _ _ => rfl⟩
  | @accepted query _ evidence payload verdict owned presents collected =>
      exact Or.inr ⟨query, evidence, payload, rfl, rfl, presents, rfl, rfl⟩
  | reconciled success =>
      rw [RecoveryController.reconciled, durable] at success
      cases success
  | storage writable =>
      refine Or.inl ⟨?_, fun _ _ => rfl⟩
      rw [RecoveryController.withStorage]
      split
      · exact ⟨rfl, rfl, id⟩
      · exact ⟨rfl, rfl, fun reconciled => by cases reconciled⟩
  | clock trusted => exact Or.inl ⟨keeps_withClock, fun _ _ => rfl⟩
  | noted success =>
      obtain ⟨_, rfl⟩ := noted_eq_ok success
      exact Or.inl ⟨⟨rfl, rfl, fun reconciled => by cases reconciled⟩, fun _ _ => rfl⟩
  | resolved success =>
      obtain ⟨_, _, _, rfl⟩ := resolved_eq_ok success
      exact Or.inl ⟨⟨rfl, rfl, id⟩, fun _ _ => rfl⟩
  | transferred success =>
      rw [RecoveryController.transferred] at success
      split at success
      next => cases success
      next =>
        simp only [durable, guard_eq_ok, if_true] at success
        simp at success
  | leaseExpired =>
      refine Or.inl ⟨?_, fun _ _ => rfl⟩
      rw [RecoveryController.leaseExpired]
      split
      · exact Keeps.refl controller
      · exact ⟨rfl, rfl, id⟩
  | stopped =>
      exact Or.inl ⟨⟨rfl, rfl, fun reconciled => by cases reconciled⟩, fun _ _ => rfl⟩

end Calls

end Fields

/-! ## Runs -/

section Runs

set_option linter.unusedSectionVars false

variable {π κ : Type} [DecidableEq π] [DecidableEq κ] [Carries RecoveryEvent π]
  [Carries CheckpointEvent π] [Carries RecoveryCommand κ] [SubmissionView π] [Fingerprint]
  [CaseMap] {ownerScope : String} {start host next : Host π κ} {call : Call}
  {result : Except RecoveryError Answer}

theorem Presents.mono {journal later : Journal π κ} {evidence : CheckpointEvidence}
    {payload : CheckpointPayload} (presents : Presents journal evidence payload)
    (growth : journal ≤ later) : Presents later evidence payload := by
  obtain ⟨row, eventType, stored, rest⟩ := presents.row
  obtain ⟨added, events⟩ := growth.1
  refine ⟨⟨row, eventType, ?_, rest⟩, presents.owner⟩
  rw [← events, List.getElem?_append_left (List.getElem?_eq_some_iff.mp stored).1]
  exact stored

/-- The checkpoint that a host accepted last was committed after the last incident
was restored. -/
def Established (host : Host π κ) (incidents : List ClockIncident) : Prop :=
  ∃ evidence payload, host.established = some evidence.journalSequence ∧
    Presents host.journal evidence payload ∧ RestoredBefore incidents evidence.journalSequence

/-- The host of a scope while a reconciled provider rests on a checkpoint after the
last incident. -/
structure Tracks (ownerScope : String) (host : Host π κ) : Prop where
  durable : host.controller.durable = true
  named : host.controller.ownerScope = ownerScope
  reconciled : Reconciled host.controller
  incidents : ∃ incidents, (∃ owners, Chained ownerScope host.journal.events owners incidents) ∧
    (host.controller.providerReconciled = true → Established host incidents)

/-- Every checkpoint that would reconcile the provider, in the journals that the
call may see, was committed after the last incident was restored. -/
def FreshCall (host : Host π κ) (call : Call) (next : Host π κ) : Prop :=
  ∀ query, call = .recordReconciliationCheckpoint query → ∀ owner ∈ host.controller.owner,
    ∀ seen : Journal π κ, host.journal ≤ seen → seen ≤ next.journal → ∀ row payload,
      Loads seen query owner (row, payload) → Reconciles host.controller payload →
        ∀ incidents, loadClockIncidentChain seen.events host.controller.ownerScope none =
          .ok incidents → RestoredBefore incidents row.2

/-- What a fresh call reconciles with. -/
theorem restoredBefore_of_performs {query : CheckpointQuery} {evidence : CheckpointEvidence}
    {incidents : List ClockIncident} (normal : Normal host.controller.ownerScope)
    (fresh : FreshCall host (.recordReconciliationCheckpoint query) next)
    (chained : ∃ owners, Chained host.controller.ownerScope host.journal.events owners incidents)
    (performs : Host.Performs (Outside host.controller.ownerScope) host
      (.recordReconciliationCheckpoint query) (.ok (.evidence evidence)) next)
    (reconciled : next.controller.providerReconciled = true) :
    RestoredBefore incidents evidence.journalSequence := by
  obtain ⟨⟨now, ends⟩, _⟩ := performs
  have loads : Party.Ensures Appends
      (fun later after answer => ∀ evidence, answer = .evidence evidence →
        after.providerReconciled = true → ∃ seen row payload, host.journal ≤ seen ∧
          seen ≤ later ∧ Loads seen query evidence.owner (row, payload) ∧
          Reconciles host.controller payload ∧ host.controller.owner = some evidence.owner ∧
          evidence.journalSequence = row.2) (fun _ _ => True)
      ((Call.recordReconciliationCheckpoint query).perform now : Controlling π κ Answer)
      host.journal host.controller := by
    apply Party.ensures_bind
    apply (ensures_recordCheckpoint_loads query).imp
    · intro later after evidence holds
      apply Party.ensures_pure
      rintro _ ⟨⟩
      exact holds
    · exact fun _ _ _ => trivial
  have quiet : Party.Quiet ((Call.recordReconciliationCheckpoint query).perform now :
      Controlling π κ Answer) := quiet_perform now (by simp) (by simp)
  have outside := outside_of_steps (quiet.ends ends)
  obtain ⟨seen, row, payload, growth, further, loaded, reconciles, owned, sequence⟩ :=
    (loads.ends (ends.mono fun _ _ outside => outside.1)).1 _ rfl evidence rfl reconciled
  obtain ⟨owners, chained⟩ := chained
  have there := (load_eq_ok normal).mpr ⟨owners, chained.outside (outside.of_le growth further)⟩
  rw [sequence]
  exact fresh query rfl _ owned seen growth further row payload loaded reconciles incidents there

/-- The step lemma. -/
theorem Tracks.performs (canonical : ∀ text, Normal (uuid5 text)) (normal : Normal ownerScope)
    (tracks : Tracks ownerScope host) (fresh : FreshCall host call next)
    (performs : Host.Performs (Outside ownerScope) host call result next) :
    Tracks ownerScope next := by
  obtain ⟨durable, rfl, reconciled, incidents, chained, established⟩ := tracks
  obtain ⟨⟨now, ends⟩, accepted⟩ := id performs
  have acts : Acts host.journal next.journal call host.controller next.controller result :=
    acts_of_ends (ends.mono fun _ _ outside => outside.1)
  have recorded : Recorded host.controller.ownerScope incidents host.journal host.journal :=
    ⟨le_rfl, chained⟩
  obtain ⟨returned, raised⟩ := (ensures_recorded_perform canonical call now recorded).ends ends
  have kept := reconciled.acts acts
  have same : (Recorded host.controller.ownerScope incidents host.journal next.journal) →
      Tracks host.controller.ownerScope next := by
    intro still
    rcases keeps_of_acts durable acts with ⟨keeps, before⟩ |
      ⟨query, evidence, payload, rfl, rfl, presents, fixed, named⟩
    · refine ⟨keeps.durable.trans durable, keeps.ownerScope, kept, incidents, still.chained, ?_⟩
      intro established'
      obtain ⟨evidence, payload, sequence, presents, restored⟩ :=
        established (keeps.reconciled established')
      refine ⟨evidence, payload, ?_, presents.mono still.grown, restored⟩
      rw [accepted, before established', sequence]
    · refine ⟨fixed.trans durable, named, kept, incidents, still.chained, ?_⟩
      intro established'
      exact ⟨evidence, payload, accepted, presents,
        restoredBefore_of_performs normal fresh chained performs established'⟩
  cases result with
  | error error => exact same (raised error rfl)
  | ok answer =>
      rcases returned answer rfl with still |
        ⟨after, trusted, reasonCode, evidenceRef, moved, rfl, agreed, switched⟩
      · exact same still
      · -- a switched trust state leaves the provider unreconciled
        have fields := eq_withClock_of_acts acts
        rw [fields] at kept
        refine ⟨?_, ?_, fields ▸ kept, after, moved.chained, ?_⟩
        · rw [fields, keeps_withClock.durable]
          exact durable
        · rw [fields]
          exact keeps_withClock.ownerScope
        · intro established'
          rw [fields] at established'
          obtain ⟨_, _, _, _, earlier⟩ := established (keeps_withClock.reconciled established')
          exact absurd (earlier.trusted.trans (trusted_of_withClock established').symm) switched

/-- Checkpoints are rows of other aggregates than owners and clock incidents. -/
theorem checkpointAggregate_ne (reconciliationId : String) (scope : ReconciliationScope) :
    checkpointAggregate reconciliationId scope ≠ ownerAggregate ownerScope ∧
      checkpointAggregate reconciliationId scope ≠ clockAggregate ownerScope := by
  simp [checkpointAggregate, ownerAggregate, clockAggregate, reconciliationType]

/-- A created controller starts with the trust state of its chain. -/
theorem ensures_create (ownerScope : String) (state : Journal π κ) :
    Raising.Ensures (Outside (strip ownerScope))
      (fun later controller => strip ownerScope ≠ "" ∧ ∃ incidents,
        (∃ owners, Chained (strip ownerScope) later.events owners incidents) ∧
          controller = .fresh true (strip ownerScope) (trustedAfter incidents))
      (fun _ => True)
      (RecoveryController.create true ownerScope : Recording π κ RecoveryController) state := by
  unfold RecoveryController.create
  apply Raising.ensures_unless fun _ => trivial
  intro named
  rw [if_neg (by simp)]
  apply Raising.ensures_bind
  apply (ensures_loadChain fun _ none => by cases none).imp
  · rintro later incidents ⟨outside, owners, chained⟩
    exact Raising.ensures_pure ⟨named, incidents, ⟨owners, chained.outside outside⟩, rfl⟩
  · exact fun _ _ => trivial

/-- A journal-backed controller is READY only on a checkpoint that was committed
after the last clock incident of its scope was restored, whatever others commit to
the journal, as long as every call reconciles with such a checkpoint. -/
theorem clock_incident_forces_reconciliation (canonical : ∀ text, Normal (uuid5 text))
    {ownerScope : String} {before : Journal π κ}
    (created : Program.Ends (Outside (strip ownerScope))
      (RecoveryController.create true ownerScope : Recording π κ RecoveryController).run before
      start.journal (.ok start.controller))
    (runs : Host.Runs (Outside (strip ownerScope)) (fun host call _ next =>
      FreshCall host call next) start host) :
    ∃ incidents, loadClockIncidentChain host.journal.events host.controller.ownerScope none =
        .ok incidents ∧
      (host.controller.state = .ready → ∃ evidence payload,
        host.established = some evidence.journalSequence ∧
          Presents host.journal evidence payload ∧
          ∀ current ∈ incidents.getLast?, ∃ restored ∈ current.restoredJournalSequence,
            restored < evidence.journalSequence) := by
  obtain ⟨named, incidents, chained, fields⟩ := (ensures_create ownerScope before).ends created
  have normal := normal_strip named
  have tracks : Tracks (strip ownerScope) host := by
    induction runs with
    | refl =>
        refine ⟨?_, ?_, ?_, incidents, chained, ?_⟩
        · rw [fields, RecoveryController.fresh]
        · rw [fields, RecoveryController.fresh]
        · exact reconciled_of_ne_ready (by simp [fields, RecoveryController.fresh])
        · intro reconciled
          simp [fields, RecoveryController.fresh] at reconciled
    | tail _ last ih =>
        cases last with
        | outside moved =>
            obtain ⟨durable, name, kept, incidents, ⟨owners, chain⟩, established⟩ := ih
            refine ⟨durable, name, kept, incidents, ⟨owners, chain.outside moved⟩, ?_⟩
            intro reconciled
            obtain ⟨evidence, payload, sequence, presents, restored⟩ := established reconciled
            exact ⟨evidence, payload, sequence, presents.mono moved.1, restored⟩
        | call allowed performs => exact ih.performs canonical normal allowed performs
  obtain ⟨_, name, reconciled, incidents, ⟨owners, chain⟩, established⟩ := tracks
  rw [name]
  exact ⟨incidents, (load_eq_ok normal).mpr ⟨owners, chain⟩, fun ready =>
    established (reconciled ready)⟩

end Runs

/-! ## A checkpoint that is presented again -/

section Samples

theorem normal_sizes (text : String) : Normal (Fingerprint.sizes.uuid5 text) := by
  change Normal (Nat.repr _)
  apply normal_of_forall
  · exact Nat.repr_ne_empty
  · intro character member
    rw [Nat.repr, String.toList_ofList] at member
    have digit := Nat.isDigit_of_mem_toDigits (by decide) (by decide) member
    simp only [Char.isDigit, Bool.and_eq_true, decide_eq_true_eq] at digit
    have lower : 48 ≤ character.toNat := digit.1
    have upper : character.toNat ≤ 57 := digit.2
    exact isSpace_eq_false (lower.trans' (by decide)) (upper.trans (by decide))

attribute [local instance] CaseMap.ascii Fingerprint.sizes Carries.self
  HostBody.recoveryCarried HostBody.checkpointCarried HostBody.submissionCarried
  HostBody.submissionView

/-- The host after a loss of the clock and its restoration. -/
def restoredHost : SampleHost :=
  (readyHost.after (.setClockTrusted false none none)).after (.setClockTrusted true none none)

/-- The host after the checkpoint from before the incident is presented again. -/
def staleHost : SampleHost := restoredHost.after (.recordReconciliationCheckpoint sampleQuery)

/-- A checkpoint after the incident. -/
def laterCheckpoint : Envelope HostBody :=
  { checkpointEnvelope (checkpointAggregate "r1" ⟨"SIMULATED", "A", "PAPER", "PAPER"⟩) 2
      samplePayload with eventId := "later" }

/-- The restored host with a checkpoint after the incident. -/
def renewedHost : SampleHost := restoredHost.append laterCheckpoint

/-- The host that reconciles after the incident. -/
def freshHost : SampleHost := renewedHost.after (.recordReconciliationCheckpoint sampleQuery)

/-- The journal sequence of the restoration of the last incident. -/
def lastRestoration (host : SampleHost) : Except RecoveryError (Option (Option Nat)) :=
  (loadClockIncidentChain host.journal.events host.controller.ownerScope none).map
    fun incidents => incidents.getLast?.map ClockIncident.restoredJournalSequence

/-- The journal sequence of the last checkpoint that the query names. -/
def lastCheckpoint (host : SampleHost) : Option Nat :=
  (checkpointRows host.journal.events "r1" ⟨"SIMULATED", "A", "PAPER", "PAPER"⟩).getLast?.map
    Prod.snd

theorem outside_checkpoint (row : Envelope HostBody) (reconciliationId : String)
    (scope : ReconciliationScope)
    (named : row.aggregate = checkpointAggregate reconciliationId scope)
    (journal later : Journal HostBody RecoveryCommand) (growth : journal ≤ later)
    (events : later.events = journal.events ++ [row]) : Outside "PAPER:A" journal later := by
  refine ⟨growth, [row], events, List.forall_mem_singleton.mpr ?_⟩
  rw [named]
  exact checkpointAggregate_ne reconciliationId scope

theorem runs_restoredHost {permitted : SampleHost → Call → Except RecoveryError Answer →
      SampleHost → Prop}
    (ready : Host.Runs (Outside "PAPER:A") permitted newHost readyHost)
    (transits : ∀ (host : SampleHost) trusted result,
      permitted host (.setClockTrusted trusted none none) result
        (host.after (.setClockTrusted trusted none none))) :
    Host.Runs (Outside "PAPER:A") permitted newHost restoredHost :=
  (ready.trans (Host.runs_after _ _ (transits _ false))).trans
    (Host.runs_after _ _ (transits _ true))

/-- The controller of the samples is created on a new journal. -/
theorem newHost_created : Program.Ends (Outside (strip "PAPER:A"))
    (RecoveryController.create true "PAPER:A" :
      Recording HostBody RecoveryCommand RecoveryController).run Journal.empty newHost.journal
    (.ok newHost.controller) :=
  Program.ends_run _ _

-- evaluated by the kernel only
attribute [irreducible] restoredHost staleHost renewedHost freshHost

theorem staleHost_state : staleHost.controller.state = .ready ∧ staleHost.established = some 2 ∧
    lastRestoration staleHost = .ok (some (some 4)) := by
  decide +kernel

/-- The chain that a restoration is read from. -/
theorem lastRestoration_eq_ok {host : SampleHost} {restoration : Option (Option Nat)}
    (read : lastRestoration host = .ok restoration) : ∃ incidents,
      loadClockIncidentChain host.journal.events host.controller.ownerScope none = .ok incidents ∧
        incidents.getLast?.map ClockIncident.restoredJournalSequence = restoration := by
  rw [lastRestoration] at read
  cases loaded : loadClockIncidentChain host.journal.events host.controller.ownerScope none with
  | error error =>
      rw [loaded] at read
      cases read
  | ok incidents =>
      rw [loaded] at read
      exact ⟨incidents, rfl, Except.ok.inj read⟩

/-- A checkpoint from before the incident, presented again, makes the host READY. -/
theorem stale_checkpoint_ready : ∃ (host : SampleHost) (incidents : List ClockIncident)
      (current : ClockIncident) (restored : Nat),
    Host.Runs (Outside "PAPER:A") (fun _ _ _ _ => True) newHost host ∧
      host.controller.state = .ready ∧
      loadClockIncidentChain host.journal.events host.controller.ownerScope none =
        .ok incidents ∧
      incidents.getLast? = some current ∧ current.restoredJournalSequence = some restored ∧
      ∃ sequence, host.established = some sequence ∧ sequence < restored := by
  obtain ⟨ready, established, read⟩ := staleHost_state
  obtain ⟨incidents, loaded, last⟩ := lastRestoration_eq_ok read
  obtain ⟨current, listed, restored⟩ := Option.map_eq_some_iff.mp last
  refine ⟨staleHost, incidents, current, 4, ?_, ready, loaded, listed, restored, 2, established,
    by decide⟩
  have first : Host.Runs (Outside "PAPER:A") (fun _ _ _ _ => True) newHost readyHost :=
    runs_readyHost _ (outside_checkpoint sampleCheckpoint "r1" _ rfl) (fun _ => trivial)
      fun _ => trivial
  unfold staleHost
  exact (runs_restoredHost first fun _ _ _ => trivial).trans (Host.runs_after _ _ fun _ => trivial)

/-- A call without interference sees only the journal it starts on. -/
theorem freshCall_after {host : SampleHost} {query : CheckpointQuery}
    (checks : ∀ owner row payload, Loads host.journal query owner (row, payload) →
      ∀ incidents, loadClockIncidentChain host.journal.events host.controller.ownerScope none =
        .ok incidents → RestoredBefore incidents row.2) :
    FreshCall host (.recordReconciliationCheckpoint query)
      (host.after (.recordReconciliationCheckpoint query)) := by
  rintro _ ⟨⟩ owner _ seen growth further row payload loads _ incidents loaded
  have quiet : Party.Quiet ((Call.recordReconciliationCheckpoint query).perform ⟨0⟩ :
      Controlling HostBody RecoveryCommand Answer) := quiet_perform _ (by simp) (by simp)
  have stays : (host.after (.recordReconciliationCheckpoint query)).journal = host.journal :=
    quiet.play_eq _ _
  rw [stays] at further
  have same : host.journal.events = seen.events :=
    growth.1.eq_of_length_le further.1.length_le
  rw [Loads, ← same] at loads
  rw [← same] at loaded
  exact checks owner row payload loads incidents loaded

/-- The checkpoint that the sample query loads. -/
theorem sequence_of_loads {host : SampleHost} {owner : OwnerFence} {row : Envelope HostBody × Nat}
    {payload : CheckpointPayload} (loads : Loads host.journal sampleQuery owner (row, payload)) :
    lastCheckpoint host = some row.2 := by
  obtain ⟨reconciliationId, scope, named, within, loaded, _⟩ := loads
  have id : reconciliationId = "r1" := by
    have text : requiredText sampleQuery.reconciliationId "reconciliation_id" = .ok "r1" := by
      decide +kernel
    rw [text, Except.ok.injEq] at named
    exact named.symm
  have whole : scope = ⟨"SIMULATED", "A", "PAPER", "PAPER"⟩ := by
    have scope : sampleQuery.scope = .ok ⟨"SIMULATED", "A", "PAPER", "PAPER"⟩ := by
      decide +kernel
    rw [scope, Except.ok.injEq] at within
    exact within.symm
  subst id whole
  rw [lastCheckpoint, (latestCheckpoint_eq_ok loaded).1]
  rfl

theorem freshCall_of_state {host : SampleHost} {restoration : Option (Option Nat)} {sequence : Nat}
    (read : lastRestoration host = .ok restoration) (last : lastCheckpoint host = some sequence)
    (before : ∀ current ∈ restoration, ∃ restored ∈ current, restored < sequence) :
    FreshCall host (.recordReconciliationCheckpoint sampleQuery)
      (host.after (.recordReconciliationCheckpoint sampleQuery)) := by
  apply freshCall_after
  intro owner row payload loads incidents loaded
  have named := sequence_of_loads loads
  rw [last, Option.some.injEq] at named
  obtain ⟨_, again, rfl⟩ := lastRestoration_eq_ok read
  rw [loaded, Except.ok.injEq] at again
  subst again
  intro current listed
  rw [← named]
  exact before _ (Option.mem_map_of_mem _ listed)

theorem checkpointedHost_state : lastRestoration checkpointedHost = .ok none ∧
    lastCheckpoint checkpointedHost = some 2 := by
  decide +kernel

theorem renewedHost_state : lastRestoration renewedHost = .ok (some (some 4)) ∧
    lastCheckpoint renewedHost = some 5 ∧ freshHost.controller.state = .ready := by
  decide +kernel

/-- The host that reconciles after the incident with a checkpoint after it. -/
theorem renewed_checkpoint_after_incident : ∃ incidents,
    loadClockIncidentChain freshHost.journal.events freshHost.controller.ownerScope none =
        .ok incidents ∧
      ∃ evidence payload, freshHost.established = some evidence.journalSequence ∧
        Presents freshHost.journal evidence payload ∧
        ∀ current ∈ incidents.getLast?, ∃ restored ∈ current.restoredJournalSequence,
          restored < evidence.journalSequence := by
  have ready : Host.Runs (Outside "PAPER:A") (fun host call _ next => FreshCall host call next)
      newHost readyHost := by
    apply runs_readyHost _ (outside_checkpoint sampleCheckpoint "r1" _ rfl)
    · intro _ _ other
      cases other
    · intro _
      have first := checkpointedHost_state
      have fresh := freshCall_of_state first.1 first.2 fun _ none => by cases none
      unfold readyHost
      exact fresh
  have restored : Host.Runs (Outside "PAPER:A") (fun host call _ next =>
      FreshCall host call next) newHost restoredHost :=
    runs_restoredHost ready fun _ _ _ _ other => by cases other
  have renewed : Host.Runs (Outside "PAPER:A") (fun host call _ next =>
      FreshCall host call next) restoredHost renewedHost := by
    unfold renewedHost
    exact Host.runs_append _ _ (outside_checkpoint laterCheckpoint "r1" _ rfl restoredHost.journal)
  have checked : Host.Runs (Outside "PAPER:A") (fun host call _ next =>
      FreshCall host call next) renewedHost freshHost := by
    unfold freshHost
    apply Host.runs_after
    intro _
    apply freshCall_of_state renewedHost_state.1 renewedHost_state.2.1
    rintro _ ⟨⟩
    exact ⟨4, rfl, by decide⟩
  obtain ⟨incidents, loaded, established⟩ := clock_incident_forces_reconciliation normal_sizes
    newHost_created ((restored.trans renewed).trans checked)
  exact ⟨incidents, loaded, established renewedHost_state.2.2⟩

end Samples

end AutoTrade.Recovery
