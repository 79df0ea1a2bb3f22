import AutoTrade.Recovery.ClockChain

/-!
# Clock incidents under interleaving

Trust transitions and owner changes of one scope, and other appends, in any
interleaving.  A transition is committed at the cut it was validated on, so it
continues the chain of the journal it is appended to, and every prefix of the
journal replays.
-/

namespace AutoTrade.Recovery

open Lib Store

/-! ## Transactions -/

section Transactions

variable {π κ : Type} {known : Journal π κ} [DecidableEq π]

/-- A commit inserts its rows at the journal sequence that it expects. -/
theorem follows_commit [DecidableEq κ] {moves : Journal π κ → Journal π κ → Prop} [Growing moves]
    {command : Journal.CommandArgs π κ}
    (inserted : ∀ journal next : Journal π κ, known ≤ journal →
      (∀ expected ∈ command.expectedJournalSequence, expected = journal.events.length) →
      next.events = journal.events ++ command.events → journal.commands <+: next.commands →
      moves journal next) :
    Follows moves (fun _ _ => True)
      (Raising.atomic (commitTransaction command) :
        Recording π κ (Journal.CommitResult κ)) known := by
  apply follows_atomic
  intro journal growth
  rw [commitTransaction]
  split
  next next result success =>
    refine ⟨?_, fun _ _ => trivial⟩
    rcases Journal.commitCommand_cases success with ⟨-, rfl, -⟩ | ⟨new, events, commands, -⟩
    · exact Growing.idle _
    · exact inserted journal next growth (Journal.commitCommand_sequence success new) events
        (commands ▸ List.prefix_append _ _)
  next => exact ⟨Growing.idle _, fun _ _ => trivial⟩

/-- An append inserts its row. -/
theorem follows_append {moves : Journal π κ → Journal π κ → Prop} [Growing moves]
    {row : Envelope π}
    (inserted : ∀ journal next : Journal π κ, known ≤ journal →
      next.events = journal.events ++ [row] → journal.commands <+: next.commands →
      moves journal next) :
    Follows moves (fun _ _ => True)
      (Raising.atomic (appendTransaction row) : Recording π κ AppendResult) known := by
  apply follows_atomic
  intro journal growth
  rw [appendTransaction]
  split
  next next result success =>
    refine ⟨?_, fun _ _ => trivial⟩
    rcases Journal.appendEvent_cases success with ⟨-, rfl, -⟩ | ⟨-, events, commands⟩
    · exact Growing.idle _
    · exact inserted journal next growth events (commands ▸ List.prefix_rfl)
  next => exact ⟨Growing.idle _, fun _ _ => trivial⟩

end Transactions

theorem aggregates_ne (ownerScope : String) :
    clockAggregate ownerScope ≠ ownerAggregate ownerScope := by
  simp [clockAggregate, ownerAggregate]

/-- What is before a cut stays as it is. -/
theorem take_eq_of_le {π κ : Type} {journal later : Journal π κ} (growth : journal ≤ later)
    {cut : Nat} (within : cut ≤ journal.events.length) :
    later.events.take cut = journal.events.take cut := by
  obtain ⟨added, equal⟩ := growth.1
  rw [← equal, List.take_append_of_le_length within]

/-- An appended row has the next version of its aggregate. -/
theorem version_of_concat {π κ : Type} {journal next : Journal π κ} {row : Envelope π}
    (appended : next.events = journal.events ++ [row]) :
    row.aggregateVersion = (eventsOf journal.events row.aggregate).length + 1 := by
  have rows : next.loadEvents row.aggregate = eventsOf journal.events row.aggregate ++ [row] := by
    rw [Journal.loadEvents, appended, eventsOf_append]
    simp [eventsOf]
  exact Journal.version_eq rows

theorem lastGeneration_eq {incidents : List ClockIncident}
    (generations : incidents.map ClockIncident.generation = List.range' 1 incidents.length) :
    lastGeneration incidents = incidents.length := by
  rw [lastGeneration, ← List.getLast?_map, generations]
  cases incidents.length with
  | zero => rfl
  | succ count => simp [List.range'_1_concat, Nat.add_comm]

section Runs

variable {π κ : Type} [Carries RecoveryEvent π] [Fingerprint] {ownerScope : String}
  {events front added : List (Envelope π)} {owners : List OwnerRow}
  {incidents : List ClockIncident} {args : TransitionArgs} {version : Nat}

/-! ## Chains of a journal -/

/-- The replay of a journal. -/
def Chained (ownerScope : String) (events : List (Envelope π)) (owners : List OwnerRow)
    (incidents : List ClockIncident) : Prop :=
  Replayed ownerScope (sequenced events (ownerAggregate ownerScope))
    (sequenced events (clockAggregate ownerScope)) owners incidents

theorem load_eq_ok (normal : Normal ownerScope) :
    loadClockIncidentChain events ownerScope none = .ok incidents ↔
      ∃ owners, Chained ownerScope events owners incidents := by
  rw [loadClockIncidentChain, canonicalText_of_normal normal, ok_bind]
  exact replayChain_eq_ok

/-- The chain at a cut is the chain of the prefix that the cut ends. -/
theorem load_some (events : List (Envelope π)) (ownerScope : String) (cut : Nat) :
    loadClockIncidentChain events ownerScope (some cut) =
      loadClockIncidentChain (events.take cut) ownerScope none := by
  simp only [loadClockIncidentChain, eventsAtOrBeforeCut_some, sequenced]

theorem Chained.foreign (chained : Chained ownerScope events owners incidents)
    (apart : ∀ row ∈ added, row.aggregate ≠ ownerAggregate ownerScope ∧
      row.aggregate ≠ clockAggregate ownerScope) :
    Chained ownerScope (events ++ added) owners incidents := by
  rw [Chained, sequenced_foreign fun row member => (apart row member).1,
    sequenced_foreign fun row member => (apart row member).2]
  exact chained

/-- A new owner leaves the chain as it is. -/
theorem Chained.owner {owner : OwnerFence} {now : Instant}
    (chained : Chained ownerScope events owners incidents) (normal : Normal owner.ownerId)
    (epoch : owner.epoch = (eventsOf events (ownerAggregate ownerScope)).length + 1) :
    Chained ownerScope (events ++ [ownerEnvelope ownerScope owner now])
      (owners ++ [⟨events.length + 1, owner.ownerId, owner.epoch⟩]) incidents := by
  have apart : ∀ row ∈ [ownerEnvelope (π := π) ownerScope owner now],
      row.aggregate ≠ clockAggregate ownerScope :=
    List.forall_mem_singleton.mpr (aggregates_ne ownerScope).symm
  have own : (ownerEnvelope (π := π) ownerScope owner now).aggregate =
      ownerAggregate ownerScope := rfl
  rw [Chained, sequenced_foreign apart, sequenced_concat own]
  constructor
  · apply validatedOwnerEvents_concat chained.validated
    rw [ownerRow_eq_ok, length_sequenced]
    exact ⟨Carries.view_embed _, normal, epoch ▸ Nat.succ_pos _, epoch, epoch, rfl⟩
  · rw [foldlM_concat_owner fun numbered member => (sequence_le member).trans (Nat.le_succ _)]
    exact chained.chain

theorem transitionIncident_lost : transitionIncident ownerScope false incidents =
    (lastGeneration incidents + 1, incidentId ownerScope (lastGeneration incidents + 1)) := by
  cases last : incidents.getLast? <;> rfl

theorem transitionIncident_restored {current : ClockIncident}
    (last : incidents.getLast? = some current) :
    transitionIncident ownerScope true incidents =
      (current.generation, current.incidentId) := by
  simp only [transitionIncident, last]

/-- The incident of a transition to the other trust state is accepted. -/
theorem Alternates.exists_transition {rows : List (Envelope π × Nat)} {incident : Nat × String}
    (alternates : Alternates args.ownerScope rows incidents)
    (switches : args.trusted ≠ trustedAfter incidents)
    (coded : Coded args.reasonCode args.evidenceRef)
    (same : incident = transitionIncident args.ownerScope args.trusted incidents)
    (ownerEpoch sequence : Nat) :
    incident.2 = incidentId args.ownerScope incident.1 ∧ 0 < incident.1 ∧
      ∃ after, applyTransition incidents (transitionEvent args.trusted)
        (transitionPayload args incident) incident.1 ownerEpoch sequence = .ok after := by
  subst same
  cases trusted : args.trusted with
  | false =>
      have resolved : trustedAfter incidents = true := by simpa [trusted] using switches
      rw [transitionIncident_lost, transitionEvent, if_neg Bool.false_ne_true]
      refine ⟨rfl, Nat.succ_pos _, ?_⟩
      rw [lastGeneration_eq alternates.generations]
      exact exists_lost (transitionPayload args _) resolved coded ownerEpoch sequence
  | true =>
      have unresolved : trustedAfter incidents = false := by simpa [trusted] using switches
      rw [trustedAfter] at unresolved
      cases last : incidents.getLast? with
      | none => simp [last] at unresolved
      | some current =>
          rw [last, Option.all_some] at unresolved
          have member := List.mem_of_getLast? last
          have counted : current.generation ∈ List.range' 1 incidents.length :=
            alternates.generations ▸ List.mem_map_of_mem member
          rw [transitionIncident_restored last, transitionEvent, if_pos rfl]
          refine ⟨alternates.identified current member, (List.mem_range'_1.mp counted).1, ?_⟩
          exact exists_restored (transitionPayload args _) last unresolved coded rfl ownerEpoch
            sequence

/-- A transition to the other trust state by the current owner continues the
chain. -/
theorem Chained.transition (canonical : ∀ text, Normal (uuid5 text))
    (chained : Chained args.ownerScope events owners incidents)
    (switches : args.trusted ≠ trustedAfter incidents)
    (current : owners.getLast?.map (fun owner => (owner.ownerId, owner.ownerEpoch)) =
      some (args.ownerId, args.ownerEpoch))
    (normal : Normal args.ownerId) (epoch : 0 < args.ownerEpoch)
    (coded : Coded args.reasonCode args.evidenceRef)
    (next : version = (eventsOf events (clockAggregate args.ownerScope)).length + 1) :
    ∃ after, Chained args.ownerScope (events ++ [transitionEnvelope args
      (transitionIncident args.ownerScope args.trusted incidents) version]) owners after := by
  have alternates := alternates_of_replay chained.chain
  have apart : ∀ row ∈ [transitionEnvelope (π := π) args
      (transitionIncident args.ownerScope args.trusted incidents) version],
      row.aggregate ≠ ownerAggregate args.ownerScope :=
    List.forall_mem_singleton.mpr (aggregates_ne args.ownerScope)
  have own : (transitionEnvelope (π := π) args
      (transitionIncident args.ownerScope args.trusted incidents) version).aggregate =
      clockAggregate args.ownerScope := rfl
  obtain ⟨identified, counted, after, applied⟩ :=
    alternates.exists_transition switches coded rfl args.ownerEpoch (events.length + 1)
  refine ⟨after, ?_⟩
  rw [Chained, sequenced_foreign apart, sequenced_concat own]
  refine ⟨chained.validated, foldlM_concat.mpr ⟨incidents, chained.chain, ?_⟩⟩
  rw [chainStep_eq_ok, length_sequenced]
  refine ⟨_, _, _, (args.ownerId, args.ownerEpoch), ?_, applied⟩
  constructor
  · exact Carries.view_embed _
  · exact Nat.succ_pos _
  · exact next
  · rfl
  · exact normal
  · exact epoch
  · exact (ownerAtSequence_eq_ok (sequence_lt_of_validated chained.validated)).mpr current
  · rfl
  · rfl
  · exact counted
  · rfl
  · exact Eq.mpr (congrArg Normal identified) (canonical _)
  · exact identified

/-! ## Moves -/

/-- What a transaction of a transition does to the journal: nothing, or it appends
the other trust state by the current owner. -/
inductive Transits (args : TransitionArgs) (journal next : Journal π κ) : Prop where
  | idle (same : next = journal)
  | transition {owners : List OwnerRow} {incidents : List ClockIncident} {version : Nat}
      (appended : next.events = journal.events ++ [transitionEnvelope args
        (transitionIncident args.ownerScope args.trusted incidents) version])
      (commands : journal.commands <+: next.commands)
      (chained : Chained args.ownerScope journal.events owners incidents)
      (switches : args.trusted ≠ trustedAfter incidents)
      (current : owners.getLast?.map (fun owner => (owner.ownerId, owner.ownerEpoch)) =
        some (args.ownerId, args.ownerEpoch))
      (normal : Normal args.ownerId) (epoch : 0 < args.ownerEpoch)
      (coded : Coded args.reasonCode args.evidenceRef)

instance : Growing (Transits (π := π) (κ := κ) args) where
  idle _ := .idle rfl
  grows := by
    intro journal next transits
    cases transits with
    | idle same => exact same ▸ le_rfl
    | transition appended commands _ _ _ _ _ _ => exact ⟨⟨_, appended.symm⟩, commands⟩

variable {known : Journal π κ}

theorem follows_rows (aggregate : Aggregate) {cut : Nat} (within : cut ≤ known.events.length) :
    Follows (Transits args)
      (fun world rows => rows = sequenced (world.events.take cut) aggregate)
      (Raising.read fun journal => eventsAtOrBeforeCut journal.events aggregate (some cut) :
        Recording π κ (List (Envelope π × Nat))) known := by
  apply follows_read
  intro seen growth world further
  rw [eventsAtOrBeforeCut_some,
    take_eq_of_le further (within.trans growth.1.length_le)]

/-- The chain that a call reads at its cut. -/
theorem follows_loadChain {cut : Nat} (within : cut ≤ known.events.length) :
    Follows (Transits args)
      (fun world incidents => ∃ owners, Chained ownerScope (world.events.take cut) owners incidents)
      (loadChain ownerScope (some cut) : Recording π κ (List ClockIncident)) known := by
  unfold loadChain
  apply follows_bind (follows_rows _ within)
  intro first ownerRows growth readOwners
  apply follows_ofExcept_bind
  intro owners validated
  have stillWithin := within.trans growth.1.length_le
  apply follows_bind (follows_rows _ stillWithin)
  intro second clockRows further readRows
  apply follows_ofExcept
  intro incidents chain world beyond
  refine ⟨owners, ?_, ?_⟩
  · rw [← validated, readOwners, take_eq_of_le (further.trans beyond) stillWithin]
  · rw [← chain, readRows, take_eq_of_le beyond (stillWithin.trans further.1.length_le)]

/-- A call that reads without a cut appends nothing. -/
theorem follows_reload (cut : Option Nat) :
    Follows (Transits args) (fun _ _ => True)
      (loadChain ownerScope cut : Recording π κ (List ClockIncident)) known := by
  unfold loadChain
  apply follows_bind follows_look
  intro _ _ _ _
  apply follows_ofExcept_bind
  intro _ _
  apply follows_bind follows_look
  intro _ _ _ _
  exact follows_ofExcept fun _ _ _ _ => trivial

/-! ## Protocol -/

/-- A transaction of another writer of the journal. -/
def Outside (ownerScope : String) (journal next : Journal π κ) : Prop :=
  journal ≤ next ∧ ∃ added, next.events = journal.events ++ added ∧
    ∀ row ∈ added, row.aggregate ≠ ownerAggregate ownerScope ∧
      row.aggregate ≠ clockAggregate ownerScope

/-- One transaction of a system. -/
inductive Moves (ownerScope : String) (journal next : Journal π κ) : Prop where
  | foreign (outside : Outside ownerScope journal next)
  | owner {owner : OwnerFence} {now : Instant}
      (appended : next.events = journal.events ++ [ownerEnvelope ownerScope owner now])
      (commands : journal.commands <+: next.commands) (normal : Normal owner.ownerId)
  | transition {args : TransitionArgs} (about : args.ownerScope = ownerScope)
      (transits : Transits args journal next)

instance : Growing (Moves (π := π) (κ := κ) ownerScope) where
  idle journal := .foreign ⟨le_rfl, [], by simp⟩
  grows := by
    intro journal next moves
    cases moves with
    | foreign outside => exact outside.1
    | owner appended commands _ => exact ⟨⟨_, appended.symm⟩, commands⟩
    | transition _ transits => exact Growing.grows transits

/-- Every prefix of a journal has a chain. -/
def Replayable (ownerScope : String) (events : List (Envelope π)) : Prop :=
  ∀ front, front <+: events → ∃ owners incidents, Chained ownerScope front owners incidents

theorem Replayable.chained (replayable : Replayable ownerScope events) :
    ∃ owners incidents, Chained ownerScope events owners incidents :=
  replayable events List.prefix_rfl

theorem Replayable.concat {row : Envelope π} (replayable : Replayable ownerScope events)
    (chained : ∃ owners incidents, Chained ownerScope (events ++ [row]) owners incidents) :
    Replayable ownerScope (events ++ [row]) := by
  intro front isPrefix
  rcases List.prefix_concat_iff.mp isPrefix with rfl | earlier
  · exact chained
  · exact replayable front earlier

/-- The step lemma. -/
theorem Replayable.moves (canonical : ∀ text, Normal (uuid5 text)) {journal next : Journal π κ}
    (replayable : Replayable ownerScope journal.events) (moves : Moves ownerScope journal next) :
    Replayable ownerScope next.events := by
  cases moves with
  | foreign outside =>
      obtain ⟨_, added, events, apart⟩ := outside
      rw [events]
      intro front isPrefix
      rcases List.prefix_or_prefix_of_prefix isPrefix (List.prefix_append _ added) with
        earlier | later
      · exact replayable front earlier
      · obtain ⟨part, rfl⟩ := later
        obtain ⟨owners, incidents, chained⟩ := replayable.chained
        refine ⟨owners, incidents, chained.foreign fun row member => ?_⟩
        exact apart row (((List.prefix_append_right_inj _).mp isPrefix).subset member)
  | @owner owner now appended commands normal =>
      rw [appended]
      obtain ⟨owners, incidents, chained⟩ := replayable.chained
      apply replayable.concat
      exact ⟨_, incidents, chained.owner normal (version_of_concat appended)⟩
  | @transition args about transits =>
      subst about
      cases transits with
      | idle same => exact same ▸ replayable
      | @transition owners incidents version appended commands chained switches current normal
          epoch coded =>
          rw [appended]
          apply replayable.concat
          exact ⟨owners, chained.transition canonical switches current normal epoch coded
            (version_of_concat appended)⟩

/-- The trust state that a transaction of a call replaces is another one than the
one it asks for. -/
def Switches (args : TransitionArgs) (journal next : Journal π κ) : Prop :=
  next = journal ∨ ∃ incidents,
    loadClockIncidentChain journal.events args.ownerScope none = .ok incidents ∧
      trustedAfter incidents ≠ args.trusted

theorem Transits.switches {journal next : Journal π κ} (normal : Normal args.ownerScope)
    (transits : Transits args journal next) : Switches args journal next := by
  cases transits with
  | idle same => exact Or.inl same
  | transition _ _ chained switches _ _ _ _ =>
      exact Or.inr ⟨_, (load_eq_ok normal).mpr ⟨_, chained⟩, switches.symm⟩

/-- The events of a chain alternate. -/
theorem Chained.events_alternate (chained : Chained ownerScope events owners incidents) :
    (eventsOf events (clockAggregate ownerScope)).map clockEventType =
      (alternating (eventsOf events (clockAggregate ownerScope)).length).map some := by
  have alternates := (alternates_of_replay chained.chain).events
  rw [length_sequenced] at alternates
  rw [← alternates, ← map_fst_sequenced, List.map_map]
  rfl

/-- The last row of a chain is by the owner that is current there. -/
theorem Chained.current {row : Envelope π} (own : row.aggregate = clockAggregate ownerScope)
    (chained : Chained ownerScope (events ++ [row]) owners incidents) :
    ∃ ownerRow eventType payload,
      (eventsOf events (ownerAggregate ownerScope)).getLast? = some ownerRow ∧
        recoveryEvent? row = some (.clock eventType payload) ∧
        recoveryEvent? ownerRow =
          some (.owner ownerEventType payload.ownerId payload.ownerEpoch) := by
  have apart : ∀ other ∈ [row], other.aggregate ≠ ownerAggregate ownerScope :=
    List.forall_mem_singleton.mpr (own ▸ aggregates_ne ownerScope)
  rw [Chained, sequenced_foreign apart, sequenced_concat own] at chained
  obtain ⟨before, _, step⟩ := foldlM_concat.mp chained.chain
  obtain ⟨eventType, payload, generation, owner, transition, _⟩ := chainStep_eq_ok.mp step
  obtain ⟨last, found, rfl⟩ := Option.map_eq_some_iff.mp
    ((ownerAtSequence_eq_ok (sequence_lt_of_validated chained.validated)).mp transition.current)
  obtain ⟨numbered, listed, carried⟩ := getLast?_of_validated chained.validated found
  refine ⟨numbered.1, eventType, payload, ?_, transition.carried, ?_⟩
  · rw [← map_fst_sequenced, List.getLast?_map, listed]
    rfl
  · rw [carried, transition.named, transition.epochText]

/-! ## Calls -/

section Calls

variable [DecidableEq π] [DecidableEq κ] [Carries RecoveryCommand κ] [CaseMap]

/-- The rest of a call, from the chain at its cut to the commit at the cut. -/
theorem follows_commitTransition {cut : Nat} (within : cut ≤ known.events.length)
    (read : Chained args.ownerScope (known.events.take cut) owners incidents)
    (switches : args.trusted ≠ trustedAfter incidents) (normal : Normal args.ownerId)
    (epoch : 0 < args.ownerEpoch) (coded : Coded args.reasonCode args.evidenceRef) :
    Follows (Transits args) (fun _ _ => True)
      (commitTransition args incidents cut : Recording π κ Nat) known := by
  unfold commitTransition
  apply follows_bind (follows_rows _ within)
  intro first ownerRows growth readOwners
  apply follows_ofExcept_bind
  intro again validated
  have same : again = owners := by
    rw [readOwners, take_eq_of_le growth within, read.validated] at validated
    exact (Except.ok.inj validated).symm
  subst same
  apply follows_bind follows_look
  intro second clockRows further _
  apply follows_bind follows_look
  intro third current beyond _
  apply follows_unless
  intro _
  apply follows_unless
  intro current
  rw [not_ne_iff] at current
  apply follows_unless
  intro _
  have grown := growth.trans (further.trans beyond)
  apply follows_bind (follows_commit ?_)
  · intro fourth _ _ _
    apply follows_bind (follows_reload none)
    intro fifth replayed _ _
    apply follows_unless
    intro _
    apply follows_unless
    intro _
    exact follows_pure fun _ _ => trivial
  · intro journal next later expected appended commands
    -- the journal ends at the cut, so it is the journal that was read
    have ends : cut = journal.events.length := expected cut rfl
    have chained : Chained args.ownerScope journal.events again incidents := by
      have seen := take_eq_of_le (grown.trans later) within
      rw [ends, List.take_length] at seen
      rw [seen, ← ends]
      exact read
    exact .transition appended commands chained switches current normal epoch coded

theorem follows_appendClockTrustTransition (args : TransitionArgs) :
    Follows (Transits args) (fun _ _ => True)
      (appendClockTrustTransition args : Recording π κ Nat) known := by
  unfold appendClockTrustTransition
  apply follows_ofExcept_bind
  intro _ _
  apply follows_ofExcept_bind
  intro _ owner
  obtain ⟨normal, -⟩ := canonicalText_eq_ok owner
  apply follows_ofExcept_bind
  intro _ number
  obtain ⟨epoch, -⟩ := positiveInt_eq_ok number
  apply follows_ofExcept_bind
  intro _ checkedReason
  apply follows_ofExcept_bind
  intro _ checkedEvidence
  have coded : Coded args.reasonCode args.evidenceRef :=
    ⟨(reason_eq_ok.mp checkedReason).1, (optionalEvidence_eq_ok.mp checkedEvidence).1⟩
  have cutRead : Follows (Transits args) (fun world cut => cut ≤ world.events.length)
      (Raising.read Journal.currentJournalSequence : Recording π κ Nat) known :=
    follows_read fun _ _ _ further => further.1.length_le
  apply follows_bind cutRead
  intro first cut _ within
  apply follows_bind (follows_loadChain within)
  intro second incidents growth read
  obtain ⟨owners, chained⟩ := read
  split
  next => exact follows_pure fun _ _ => trivial
  next switches =>
    exact follows_commitTransition (within.trans growth.1.length_le) chained switches normal epoch
      coded

end Calls

/-! ## Systems of controllers -/

section Systems

variable [DecidableEq π] [DecidableEq κ] [Carries RecoveryCommand κ] [CaseMap]

/-- A call on the journal: a trust transition of the scope, or the append of an
owner with a normalized id. -/
inductive Calls (ownerScope : String) : Program (Journal π κ) Unit → Prop where
  | transition (args : TransitionArgs) (about : args.ownerScope = ownerScope) :
      Calls ownerScope (appendClockTrustTransition args : Recording π κ Nat).detach
  | owner {owner : OwnerFence} (normal : Normal owner.ownerId) (now : Instant) :
      Calls ownerScope (appendDurableOwner ownerScope owner now :
        Recording π κ AppendResult).detach

/-- The journals that calls and other writers reach from a new journal, in any
interleaving. -/
def Reaches (ownerScope : String) (journal : Journal π κ) : Prop :=
  ∃ pool, System.Runs (fun journal later program => later = journal ∧ Calls ownerScope program)
    (Outside ownerScope) ⟨Journal.empty, []⟩ ⟨journal, pool⟩

theorem Calls.meets {program : Program (Journal π κ) Unit} (calls : Calls ownerScope program) :
    Program.Meets (Moves ownerScope) (fun _ _ => True) program known := by
  cases calls with
  | transition args about =>
      apply Program.Meets.imp fun _ _ transits => Moves.transition about transits
      exact (follows_appendClockTrustTransition args).detach
  | owner normal now =>
      apply Follows.detach (follows_append ?_)
      intro journal next _ appended commands
      exact .owner appended commands normal

/-- A call without interference. -/
theorem Reaches.call {journal : Journal π κ} {program : Program (Journal π κ) Unit}
    (reaches : Reaches ownerScope journal) (calls : Calls ownerScope program) :
    Reaches ownerScope (program.run journal).1 := by
  obtain ⟨pool, runs⟩ := reaches
  have started : System.Runs (fun journal later program => later = journal ∧
      Calls ownerScope program) (Outside ownerScope) ⟨journal, pool⟩ ⟨journal, pool ++ [program]⟩ :=
    .single (.start ⟨rfl, calls⟩)
  exact ⟨_, (runs.trans started).trans (System.runs_alone journal pool _)⟩

/-- The run lemma. -/
theorem Reaches.replayable (canonical : ∀ text, Normal (uuid5 text)) {journal : Journal π κ}
    (reaches : Reaches ownerScope journal) : Replayable ownerScope journal.events := by
  obtain ⟨pool, runs⟩ := reaches
  have moves : Relation.ReflTransGen (Moves ownerScope) Journal.empty journal :=
    (System.Runs.guaranteed Growing.grows
      (fun started => ⟨started.1 ▸ Growing.idle _, started.2.meets⟩)
      (fun outside => Moves.foreign outside) (fun _ member => absurd member List.not_mem_nil)
      runs).1
  clear runs
  induction moves with
  | refl =>
      intro front isPrefix
      rw [List.prefix_nil.mp isPrefix]
      exact ⟨[], [], rfl, rfl⟩
  | tail _ last ih => exact ih.moves canonical last

/-- In every interleaving of transitions, owner changes and other appends, the
chain of every cut loads and is the chain of the prefix before the cut, with
generations counted from one; the events alternate, each is by the owner that is
current at its position, and a call only replaces a trust state that is not the
one it asks for. -/
theorem clock_chain_replayable (canonical : ∀ text, Normal (uuid5 text))
    (normal : Normal ownerScope) {journal : Journal π κ} (reaches : Reaches ownerScope journal) :
    (∀ cut, ∃ incidents, loadClockIncidentChain journal.events ownerScope cut = .ok incidents ∧
        incidents.map ClockIncident.generation = List.range' 1 incidents.length) ∧
      (∀ cut, loadClockIncidentChain journal.events ownerScope (some cut) =
        loadClockIncidentChain (journal.events.take cut) ownerScope none) ∧
      (journal.loadEvents (clockAggregate ownerScope)).map clockEventType =
        (alternating (journal.loadEvents (clockAggregate ownerScope)).length).map some ∧
      (∀ before row after, journal.events = before ++ row :: after →
        row.aggregate = clockAggregate ownerScope → ∃ ownerRow eventType payload,
          (eventsOf before (ownerAggregate ownerScope)).getLast? = some ownerRow ∧
            recoveryEvent? row = some (.clock eventType payload) ∧
            recoveryEvent? ownerRow =
              some (.owner ownerEventType payload.ownerId payload.ownerEpoch)) ∧
      ∀ args : TransitionArgs, args.ownerScope = ownerScope →
        (∀ known : Journal π κ, Program.Meets (Switches args) (fun _ _ => True)
          (appendClockTrustTransition args : Recording π κ Nat).detach known) ∧
        ∀ incidents, loadClockIncidentChain journal.events ownerScope none = .ok incidents →
          trustedAfter incidents = args.trusted →
          ((appendClockTrustTransition args : Recording π κ Nat).detach.run journal).1 =
            journal := by
  have replayable := reaches.replayable canonical
  have loads : ∀ front, front <+: journal.events → ∃ incidents,
      loadClockIncidentChain front ownerScope none = .ok incidents ∧
        incidents.map ClockIncident.generation = List.range' 1 incidents.length := by
    intro front isPrefix
    obtain ⟨owners, incidents, chained⟩ := replayable front isPrefix
    exact ⟨incidents, (load_eq_ok normal).mpr ⟨owners, chained⟩,
      (alternates_of_replay chained.chain).generations⟩
  refine ⟨?_, fun cut => load_some journal.events ownerScope cut, ?_, ?_, ?_⟩
  · intro cut
    cases cut with
    | none => exact loads journal.events List.prefix_rfl
    | some cut =>
        rw [load_some]
        exact loads _ ( List.take_prefix cut journal.events)
  · obtain ⟨owners, incidents, chained⟩ := replayable.chained
    exact chained.events_alternate
  · intro before row after split own
    obtain ⟨owners, incidents, chained⟩ := replayable (before ++ [row]) ⟨after, by simp [split]⟩
    exact chained.current own
  · rintro args rfl
    have switches : ∀ known : Journal π κ, Program.Meets (Switches args) (fun _ _ => True)
        (appendClockTrustTransition args : Recording π κ Nat).detach known := fun known =>
      (follows_appendClockTrustTransition args).detach.imp fun _ _ => Transits.switches normal
    refine ⟨switches, ?_⟩
    intro incidents loaded inForce
    apply (switches journal).run_eq
    rintro later (same | ⟨found, reloaded, other⟩)
    · exact same
    · rw [loaded, Except.ok.injEq] at reloaded
      exact absurd (reloaded ▸ inForce) other

end Systems

end Runs

/-! ## An owner that loses the clock -/

section Samples

/-- Texts without their white space as their own fingerprints, for evaluation. -/
@[reducible] def compactFingerprint : Fingerprint where
  sha256 text := text
  uuid5 text := String.ofList ('u' :: text.toList.filter fun character => !isSpace character)

theorem normal_compact (text : String) : Normal (compactFingerprint.uuid5 text) := by
  change Normal (String.ofList _)
  apply normal_of_forall
  · exact fun empty => by simpa using congrArg String.toList empty
  · intro character member
    rw [String.toList_ofList, List.mem_cons] at member
    rcases member with rfl | kept
    · decide
    · simpa using (List.mem_filter.mp kept).2

attribute [local instance] CaseMap.ascii compactFingerprint Carries.self

/-- A journal of this component. -/
abbrev RecoveryJournal : Type := Journal RecoveryEvent RecoveryCommand

/-- A loss by the first owner. -/
def transitionBy (reasonCode : String) : TransitionArgs where
  ownerScope := "PAPER:A"
  ownerId := "alpha"
  ownerEpoch := 1
  trusted := false
  reasonCode := reasonCode
  evidenceRef := none
  committedAt := ⟨0⟩

/-- The first owner of the scope. -/
def ownedJournal : RecoveryJournal :=
  ((appendDurableOwner "PAPER:A" ⟨"alpha", 1⟩ ⟨0⟩ :
    Recording RecoveryEvent RecoveryCommand AppendResult).detach.run Journal.empty).1

/-- The journal after one call. -/
def afterTransition (args : TransitionArgs) (journal : RecoveryJournal) : RecoveryJournal :=
  ((appendClockTrustTransition args :
    Recording RecoveryEvent RecoveryCommand Nat).detach.run journal).1

/-- A loss and a repeated loss. -/
def untrustedJournal : RecoveryJournal :=
  afterTransition (transitionBy "late-clock")
    (afterTransition (transitionBy "clock") ownedJournal)

theorem reaches_afterTransition {journal : RecoveryJournal} (reaches : Reaches "PAPER:A" journal)
    (reasonCode : String) :
    Reaches "PAPER:A" (afterTransition (transitionBy reasonCode) journal) :=
  reaches.call (.transition (transitionBy reasonCode) rfl)

theorem reaches_untrustedJournal : Reaches "PAPER:A" untrustedJournal := by
  have owned : Reaches "PAPER:A" ownedJournal :=
    Reaches.call ⟨[], .refl⟩ (.owner (by decide +kernel) ⟨0⟩)
  exact reaches_afterTransition (reaches_afterTransition owned "clock") "late-clock"

example : (loadClockIncidentChain untrustedJournal.events "PAPER:A" none).toOption.map
    (List.map fun incident => (incident.generation, incident.reasonCode)) =
      some [(1, "clock")] := by
  decide +kernel

theorem untrusted_clock_chain_replayable : ∃ incidents,
    loadClockIncidentChain untrustedJournal.events "PAPER:A" (some 1) = .ok incidents ∧
      incidents.map ClockIncident.generation = List.range' 1 incidents.length :=
  (clock_chain_replayable normal_compact (by decide +kernel) reaches_untrustedJournal).1 (some 1)

end Samples

end AutoTrade.Recovery
