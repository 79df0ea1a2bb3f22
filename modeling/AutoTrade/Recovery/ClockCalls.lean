import AutoTrade.Recovery.ClockRuns
import AutoTrade.Recovery.Effects
import Std.Data.String.ToNat

/-!
# The clock chain under the calls of a controller

Others append rows of other aggregates, so the chain that a call reads is the one
of the journal it started on.  Only a trust transition that commits changes the
chain, and then to the trust state it asks for.
-/

namespace AutoTrade.Recovery

open Lib Store

/-! ## Other writers -/

section Others

variable {π κ : Type} {ownerScope : String} {state between later : Journal π κ}

theorem Outside.refl (state : Journal π κ) : Outside ownerScope state state :=
  ⟨le_rfl, [], by simp⟩

theorem Outside.trans (first : Outside ownerScope state between)
    (second : Outside ownerScope between later) : Outside ownerScope state later := by
  obtain ⟨growth, added, events, apart⟩ := first
  obtain ⟨further, more, next, distinct⟩ := second
  refine ⟨growth.trans further, added ++ more, ?_, ?_⟩
  · rw [next, events, List.append_assoc]
  · rw [List.forall_mem_append]
    exact ⟨apart, distinct⟩

theorem outside_of_steps (others : Relation.ReflTransGen (Outside ownerScope) state later) :
    Outside ownerScope state later := by
  induction others with
  | refl => exact Outside.refl state
  | tail _ last ih => exact ih.trans last

/-- What a journal between two of them got from others. -/
theorem Outside.of_le (outside : Outside ownerScope state later) (growth : state ≤ between)
    (further : between ≤ later) : Outside ownerScope state between := by
  obtain ⟨_, added, events, apart⟩ := outside
  obtain ⟨part, equal⟩ := growth.1
  refine ⟨growth, part, equal.symm, ?_⟩
  intro row member
  apply apart row
  have within : state.events ++ part <+: state.events ++ added := by
    rw [equal, ← events]
    exact further.1
  exact ((List.prefix_append_right_inj _).mp within).subset member

/-- The rows that a cut selects. -/
def upTo (events : List (Envelope π)) : (cut : Option Nat) → List (Envelope π)
  | none => events
  | some cut => events.take cut

theorem eventsAtOrBeforeCut_eq (events : List (Envelope π)) (aggregate : Aggregate)
    (cut : Option Nat) :
    eventsAtOrBeforeCut events aggregate cut = sequenced (upTo events cut) aggregate := by
  cases cut with
  | none => rfl
  | some cut => exact eventsAtOrBeforeCut_some events aggregate cut

/-- The rows of the two aggregates at a cut stay as they are. -/
theorem Outside.sequenced_upTo (outside : Outside ownerScope state later) {cut : Option Nat}
    (within : ∀ limit ∈ cut, limit ≤ state.events.length) :
    sequenced (upTo later.events cut) (ownerAggregate ownerScope) =
        sequenced (upTo state.events cut) (ownerAggregate ownerScope) ∧
      sequenced (upTo later.events cut) (clockAggregate ownerScope) =
        sequenced (upTo state.events cut) (clockAggregate ownerScope) := by
  cases cut with
  | none =>
      obtain ⟨_, added, events, apart⟩ := outside
      simp only [upTo, events]
      exact ⟨sequenced_foreign fun row member => (apart row member).1,
        sequenced_foreign fun row member => (apart row member).2⟩
  | some cut =>
      simp only [upTo, take_eq_of_le outside.1 (within cut rfl), and_self]

end Others

theorem lastGeneration_concat (incidents : List ClockIncident) (incident : ClockIncident) :
    lastGeneration (incidents ++ [incident]) = incident.generation := by
  rw [lastGeneration, List.getLast?_concat]
  rfl

theorem Applies.lastGeneration_eq {incidents after : List ClockIncident} {eventType : String}
    {payload : ClockPayload} {generation : Nat}
    (applies : Applies incidents eventType payload generation after) :
    lastGeneration after = generation := by
  cases applies with
  | lost named trusted next generated identified unresolved =>
      rw [lastGeneration_concat, generated]
  | restored named split unresolved same generated identified resolved =>
      rw [lastGeneration_concat, generated, same]

section Chains

variable {π κ : Type} [Carries RecoveryEvent π] [Fingerprint] {ownerScope : String}
  {events : List (Envelope π)} {owners other : List OwnerRow}
  {incidents after : List ClockIncident} {args : TransitionArgs} {version : Nat}
  {state later : Journal π κ}

theorem Chained.outside (chained : Chained ownerScope state.events owners incidents)
    (outside : Outside ownerScope state later) :
    Chained ownerScope later.events owners incidents := by
  obtain ⟨_, added, events, apart⟩ := outside
  rw [events]
  exact chained.foreign apart

/-- A journal has one chain. -/
theorem Chained.unique (chained : Chained ownerScope events owners incidents)
    (again : Chained ownerScope events other after) : other = owners ∧ after = incidents := by
  have validated := again.validated
  rw [chained.validated, Except.ok.injEq] at validated
  subst validated
  have chain := again.chain
  rw [chained.chain, Except.ok.injEq] at chain
  exact ⟨rfl, chain.symm⟩

/-- What a committed transition does to the chain: it round-trips, to the other
trust state. -/
theorem Chained.transitioned {incident : Nat × String}
    (chained : Chained args.ownerScope events owners incidents)
    (next : Chained args.ownerScope (events ++ [transitionEnvelope args incident version]) other
      after) :
    lastGeneration after = incident.1 ∧ trustedAfter after = !trustedAfter incidents := by
  have apart : ∀ row ∈ [transitionEnvelope (π := π) args incident version],
      row.aggregate ≠ ownerAggregate args.ownerScope :=
    List.forall_mem_singleton.mpr (aggregates_ne args.ownerScope)
  have own : (transitionEnvelope (π := π) args incident version).aggregate =
      clockAggregate args.ownerScope := rfl
  have before := (alternates_of_replay chained.chain).trusted
  have following := (alternates_of_replay next.chain).trusted
  rw [sequenced_concat own, List.length_append, List.length_singleton] at following
  rw [Chained, sequenced_foreign apart, sequenced_concat own] at next
  have validated := next.validated
  rw [chained.validated, Except.ok.injEq] at validated
  subst validated
  constructor
  · obtain ⟨earlier, _, step⟩ := foldlM_concat.mp next.chain
    obtain ⟨eventType, payload, generation, owner, transition, applied⟩ :=
      chainStep_eq_ok.mp step
    have carried : recoveryEvent? (transitionEnvelope (π := π) args incident version) =
        some (.clock (transitionEvent args.trusted) (transitionPayload args incident)) :=
      Carries.view_embed _
    rw [transition.carried, Option.some.injEq, RecoveryEvent.clock.injEq] at carried
    have numbered := transition.generationText
    rw [carried.2] at numbered
    rw [(applies_of_ok applied).lastGeneration_eq]
    exact (Nat.repr_inj.mp numbered).symm
  · rw [before, following]
    by_cases even : (sequenced events (clockAggregate args.ownerScope)).length % 2 = 0
    · simp [even, Nat.add_mod]
    · simp [Nat.mod_two_ne_zero.mp even, Nat.add_mod]

end Chains

/-! ## Trust transitions -/

section Transitions

set_option linter.unusedSectionVars false

variable {π κ : Type} [DecidableEq π] [DecidableEq κ] [Carries RecoveryEvent π]
  [Carries RecoveryCommand κ] [Fingerprint] [CaseMap] {ownerScope : String}
  {owners : List OwnerRow} {incidents : List ClockIncident} {args : TransitionArgs}
  {state : Journal π κ}

/-- A load returns the chain at its cut, and raises only if there is none. -/
theorem ensures_loadChain {cut : Option Nat}
    (within : ∀ limit ∈ cut, limit ≤ state.events.length) :
    Raising.Ensures (Outside ownerScope)
      (fun later incidents => Outside ownerScope state later ∧
        ∃ owners, Chained ownerScope (upTo state.events cut) owners incidents)
      (fun later => Outside ownerScope state later ∧
        ¬ ∃ owners incidents, Chained ownerScope (upTo state.events cut) owners incidents)
      (loadChain ownerScope cut : Recording π κ (List ClockIncident)) state := by
  unfold loadChain
  apply Raising.ensures_bind
  apply Raising.ensures_read
  intro first others
  have outside := outside_of_steps others
  apply Raising.ensures_bind
  rw [eventsAtOrBeforeCut_eq]
  apply Raising.ensures_ofExcept
  · intro owners validated
    apply Raising.ensures_bind
    apply Raising.ensures_read
    intro second more
    rw [eventsAtOrBeforeCut_eq, (outside.sequenced_upTo within).2]
    have reached := outside.trans (outside_of_steps more)
    apply Raising.ensures_ofExcept
    · intro incidents chain
      exact ⟨reached, owners, validated, chain⟩
    · intro error failed
      refine ⟨reached, ?_⟩
      rintro ⟨other, incidents, chained⟩
      have same := chained.validated
      rw [validated, Except.ok.injEq] at same
      subst same
      rw [chained.chain] at failed
      cases failed
  · intro error failed
    refine ⟨outside, ?_⟩
    rintro ⟨owners, incidents, chained⟩
    rw [chained.validated] at failed
    cases failed

/-- A load of a chain that is there. -/
theorem ensures_loadChain_of_chained {cut : Option Nat}
    (within : ∀ limit ∈ cut, limit ≤ state.events.length)
    (chained : Chained ownerScope (upTo state.events cut) owners incidents) :
    Raising.Ensures (Outside ownerScope)
      (fun later loaded => Outside ownerScope state later ∧ loaded = incidents) (fun _ => False)
      (loadChain ownerScope cut : Recording π κ (List ClockIncident)) state := by
  apply (ensures_loadChain within).imp
  · rintro later loaded ⟨outside, _, again⟩
    exact ⟨outside, (chained.unique again).2⟩
  · rintro later ⟨_, absent⟩
    exact absent ⟨_, _, chained⟩

/-- The journal after a commit of a transition: as it was, or with the other trust
state as the last one. -/
def Committed (args : TransitionArgs) (owners : List OwnerRow) (incidents : List ClockIncident)
    (journal : Journal π κ) : Prop :=
  ∃ after, Chained args.ownerScope journal.events owners after ∧
    (after = incidents ∨ lastGeneration after =
      (transitionIncident args.ownerScope args.trusted incidents).1 ∧
        trustedAfter after = args.trusted)

theorem ensures_commit (canonical : ∀ text, Normal (uuid5 text)) {version : Nat}
    (chained : Chained args.ownerScope state.events owners incidents)
    (switches : args.trusted ≠ trustedAfter incidents)
    (current : owners.getLast?.map (fun owner => (owner.ownerId, owner.ownerEpoch)) =
      some (args.ownerId, args.ownerEpoch))
    (normal : Normal args.ownerId) (epoch : 0 < args.ownerEpoch)
    (coded : Coded args.reasonCode args.evidenceRef) (cut : Nat) :
    Raising.Ensures (Outside args.ownerScope)
      (fun later _ => Committed args owners incidents later)
      (fun later => Chained args.ownerScope later.events owners incidents)
      (Raising.atomic (commitTransaction (transitionCommand args
        (transitionIncident args.ownerScope args.trusted incidents) version cut)) :
        Recording π κ (Journal.CommitResult κ)) state := by
  apply Raising.ensures_atomic
  · intro result success later others
    have outside := outside_of_steps others
    rw [commitTransaction] at success outside
    split at success
    next next _ committed =>
      simp only [committed] at outside
      rcases Journal.commitCommand_cases committed with ⟨-, rfl, -⟩ | ⟨-, appended, -, -⟩
      · exact ⟨incidents, chained.outside outside, Or.inl rfl⟩
      · have added : next.events = state.events ++ [transitionEnvelope args
          (transitionIncident args.ownerScope args.trusted incidents) version] := appended
        have numbered : version =
            (eventsOf state.events (clockAggregate args.ownerScope)).length + 1 :=
          version_of_concat added
        obtain ⟨after, continued⟩ := chained.transition canonical switches current normal epoch
          coded numbered
        have roundTrip := chained.transitioned continued
        rw [← added] at continued
        refine ⟨after, continued.outside outside, Or.inr ⟨roundTrip.1, ?_⟩⟩
        rw [roundTrip.2]
        exact (Bool.eq_not.mpr switches).symm
    next => cases success
  · intro error failed later others
    have outside := outside_of_steps others
    rw [commitTransaction] at failed outside
    split at failed
    next => cases failed
    next _ rejected =>
      simp only [rejected] at outside
      exact chained.outside outside

/-- A transition that returns left the trust state it asks for, and one that raises
left the chain as it was: what it committed loads again. -/
theorem ensures_commitTransition (canonical : ∀ text, Normal (uuid5 text)) {cut : Nat}
    (read : Chained args.ownerScope (state.events.take cut) owners incidents)
    (chained : Chained args.ownerScope state.events owners incidents)
    (switches : args.trusted ≠ trustedAfter incidents) (normal : Normal args.ownerId)
    (epoch : 0 < args.ownerEpoch) (coded : Coded args.reasonCode args.evidenceRef) :
    Raising.Ensures (Outside args.ownerScope)
      (fun later _ => ∃ after, Chained args.ownerScope later.events owners after ∧
        trustedAfter after = args.trusted)
      (fun later => Chained args.ownerScope later.events owners incidents)
      (commitTransition args incidents cut : Recording π κ Nat) state := by
  unfold commitTransition
  apply Raising.ensures_bind
  apply Raising.ensures_read
  intro first others
  have outside := outside_of_steps others
  apply Raising.ensures_bind
  rw [eventsAtOrBeforeCut_some]
  apply Raising.ensures_ofExcept
  · intro again validated
    rw [read.validated, Except.ok.injEq] at validated
    subst validated
    apply Raising.ensures_bind
    apply Raising.ensures_read
    intro second more
    apply Raising.ensures_bind
    apply Raising.ensures_read
    intro third further
    have reached := (outside.trans (outside_of_steps more)).trans (outside_of_steps further)
    have still := chained.outside reached
    apply Raising.ensures_unless
    · exact fun _ => still
    intro _
    apply Raising.ensures_unless
    · exact fun _ => still
    intro current
    rw [not_ne_iff] at current
    apply Raising.ensures_unless
    · exact fun _ => still
    intro _
    apply Raising.ensures_bind
    apply (ensures_commit canonical still switches current normal epoch coded cut).imp
    · rintro fourth _ ⟨after, committed, outcome⟩
      apply Raising.ensures_bind
      apply (ensures_loadChain_of_chained (fun _ none => by cases none) committed).imp
      · rintro fifth replayed ⟨last, rfl⟩
        have final := committed.outside last
        apply Raising.ensures_unless
        · intro differs
          rcases outcome with rfl | ⟨generated, _⟩
          · exact final
          · exact absurd generated differs
        intro _
        apply Raising.ensures_unless
        · intro differs
          rcases outcome with rfl | ⟨_, trusted⟩
          · exact final
          · exact absurd trusted differs
        intro agreed
        exact Raising.ensures_pure ⟨replayed, final, not_ne_iff.mp agreed⟩
      · exact fun _ impossible => impossible.elim
    · exact fun _ unchanged => unchanged
  · exact fun _ _ => chained.outside outside

theorem ensures_appendClockTrustTransition (canonical : ∀ text, Normal (uuid5 text))
    (args : TransitionArgs) (chained : Chained args.ownerScope state.events owners incidents) :
    Raising.Ensures (Outside args.ownerScope)
      (fun later _ => ∃ after, Chained args.ownerScope later.events owners after ∧
        trustedAfter after = args.trusted ∧
        (after = incidents ∨ trustedAfter incidents ≠ args.trusted))
      (fun later => Chained args.ownerScope later.events owners incidents)
      (appendClockTrustTransition args : Recording π κ Nat) state := by
  unfold appendClockTrustTransition
  apply Raising.ensures_bind
  apply Raising.ensures_ofExcept
  case raises => exact fun _ _ => chained
  intro _ _
  apply Raising.ensures_bind
  apply Raising.ensures_ofExcept
  case raises => exact fun _ _ => chained
  intro _ owner
  apply Raising.ensures_bind
  apply Raising.ensures_ofExcept
  case raises => exact fun _ _ => chained
  intro _ number
  apply Raising.ensures_bind
  apply Raising.ensures_ofExcept
  case raises => exact fun _ _ => chained
  intro _ checkedReason
  apply Raising.ensures_bind
  apply Raising.ensures_ofExcept
  case raises => exact fun _ _ => chained
  intro _ checkedEvidence
  have coded : Coded args.reasonCode args.evidenceRef :=
    ⟨(reason_eq_ok.mp checkedReason).1, (optionalEvidence_eq_ok.mp checkedEvidence).1⟩
  apply Raising.ensures_bind
  apply Raising.ensures_read
  intro first others
  have outside := outside_of_steps others
  have within : state.events.length ≤ first.events.length := outside.1.1.length_le
  have prefixed : first.events.take state.events.length = state.events := by
    rw [take_eq_of_le outside.1 le_rfl, List.take_length]
  have read : Chained args.ownerScope (upTo first.events (some state.events.length)) owners
      incidents := by
    rw [upTo, prefixed]
    exact chained
  apply Raising.ensures_bind
  apply (ensures_loadChain_of_chained (fun _ limit => by cases limit; exact within) read).imp
  · rintro second loaded ⟨more, rfl⟩
    have reached := outside.trans more
    split
    next agreed =>
      exact Raising.ensures_pure ⟨_, chained.outside reached, agreed.symm, Or.inl rfl⟩
    next switches =>
      have again : Chained args.ownerScope (second.events.take state.events.length) owners
          loaded := by
        rw [take_eq_of_le more.1 within, prefixed]
        exact chained
      apply (ensures_commitTransition canonical again
        (chained.outside reached) switches (canonicalText_eq_ok owner).1
        (positiveInt_eq_ok number).1 coded).imp
      · rintro later _ ⟨after, committed, trusted⟩
        exact ⟨after, committed, trusted, Or.inr (Ne.symm switches)⟩
      · exact fun _ unchanged => unchanged
  · exact fun _ impossible => impossible.elim

theorem ensures_le_appendClockTrustTransition (args : TransitionArgs) :
    Raising.Ensures (Outside ownerScope) (fun later (_ : Nat) => state ≤ later)
      (fun later => state ≤ later) (appendClockTrustTransition args : Recording π κ Nat) state :=
  Raising.ensures_le_of_follows (fun _ _ outside => outside.1)
    (follows_appendClockTrustTransition args)

end Transitions

/-! ## Calls -/

section Calls

set_option linter.unusedSectionVars false

variable {π κ : Type} [DecidableEq π] [DecidableEq κ] [Carries RecoveryEvent π]
  [Carries CheckpointEvent π] [Carries RecoveryCommand κ] [SubmissionView π] [Fingerprint]
  [CaseMap] {ownerScope : String} {incidents : List ClockIncident}
  {origin state : Journal π κ} {own : RecoveryController}

theorem quiet_latestDurableOwner :
    Party.Quiet (latestDurableOwner : Controlling π κ (Option OwnerFence)) := by
  unfold latestDurableOwner
  apply Party.quiet_get
  intro own
  split
  · exact Party.quiet_pure none
  · apply Party.Quiet.bind (Party.quiet_ask (Raising.quiet_read _))
    intro rows
    apply Party.Quiet.bind (Party.quiet_ofExcept _)
    exact fun chain => Party.quiet_pure _

theorem quiet_requireCurrentDurableOwner :
    Party.Quiet (requireCurrentDurableOwner : Controlling π κ Unit) := by
  unfold requireCurrentDurableOwner
  apply Party.quiet_get
  intro own
  split
  · exact Party.quiet_pure ()
  · apply Party.Quiet.bind quiet_latestDurableOwner
    intro durable
    split
    · exact Party.quiet_throw _
    · exact Party.quiet_pure ()

theorem quiet_recoverDurableSubmissionUncertainty (environment accountId : String) :
    Party.Quiet (recoverDurableSubmissionUncertainty environment accountId :
      Controlling π κ (List String)) := by
  unfold recoverDurableSubmissionUncertainty
  apply Party.quiet_get
  intro own
  apply Party.Quiet.unless
  apply Party.Quiet.bind (Party.quiet_ofExcept _)
  intro scope
  apply Party.Quiet.bind (Party.quiet_ask (Raising.quiet_read _))
  intro rows
  apply Party.Quiet.unless
  exact Party.quiet_change _

theorem quiet_recoverOwnerScope :
    Party.Quiet (recoverOwnerScope : Controlling π κ Unit) := by
  unfold recoverOwnerScope
  apply Party.quiet_get
  intro own
  split
  · exact Party.quiet_pure ()
  · split
    · exact Party.quiet_pure ()
    · apply Party.Quiet.bind (quiet_recoverDurableSubmissionUncertainty _ _)
      exact fun _ => Party.quiet_pure ()

theorem quiet_loadCheckpointForReadiness (query : CheckpointQuery) (hostId ownerEpoch : String) :
    Raising.Quiet (loadCheckpointForReadiness query hostId ownerEpoch :
      Recording π κ (Option ((Envelope π × Nat) × CheckpointPayload))) := by
  unfold loadCheckpointForReadiness
  apply Raising.Quiet.bind (Raising.quiet_ofExcept _)
  intro reconciliationId
  apply Raising.Quiet.bind (Raising.quiet_ofExcept _)
  intro scope
  apply Raising.Quiet.bind (Raising.quiet_read _)
  intro rows
  apply Raising.Quiet.bind (Raising.quiet_ofExcept _)
  intro checkpoint
  split
  · exact Raising.quiet_pure none
  · apply Raising.Quiet.bind (Raising.quiet_read _)
    exact fun _ => Raising.quiet_ofExcept _

theorem quiet_recordCheckpoint (query : CheckpointQuery) :
    Party.Quiet (recordCheckpoint query : Controlling π κ CheckpointEvidence) := by
  unfold recordCheckpoint
  apply Party.quiet_get
  intro own
  split
  · exact Party.quiet_throw _
  · apply Party.Quiet.unless
    apply Party.Quiet.bind quiet_requireCurrentDurableOwner
    intro _
    apply Party.Quiet.unless
    apply Party.Quiet.bind (Party.quiet_ask (quiet_loadCheckpointForReadiness _ _ _))
    intro checkpoint
    split
    · apply Party.Quiet.bind (Party.quiet_change _)
      exact fun _ => Party.quiet_throw _
    · apply Party.Quiet.bind (Party.quiet_change _)
      exact fun _ => Party.quiet_pure _

theorem quiet_recordReconciliation (consistent : Bool) (uncertainty : List String) :
    Party.Quiet (recordReconciliation consistent uncertainty : Controlling π κ Unit) := by
  unfold recordReconciliation
  apply Party.quiet_get
  intro own
  apply Party.Quiet.unless
  apply Party.Quiet.bind quiet_requireCurrentDurableOwner
  exact fun _ => Party.quiet_change _

/-- Only the start and a trust transition write to the journal. -/
theorem quiet_perform {call : Call} (now : Instant) (other : ∀ ownerId, call ≠ .start ownerId)
    (apart : ∀ trusted reasonCode evidenceRef,
      call ≠ .setClockTrusted trusted reasonCode evidenceRef) :
    Party.Quiet (call.perform now : Controlling π κ Answer) := by
  cases call with
  | start ownerId => exact absurd rfl (other ownerId)
  | recoverDurableSubmissionUncertainty environment accountId =>
      apply Party.Quiet.bind (quiet_recoverDurableSubmissionUncertainty environment accountId)
      exact fun _ => Party.quiet_pure _
  | recordReconciliation consistent uncertainty =>
      apply Party.Quiet.bind (quiet_recordReconciliation consistent uncertainty)
      exact fun _ => Party.quiet_pure _
  | recordReconciliationCheckpoint query =>
      apply Party.Quiet.bind (quiet_recordCheckpoint query)
      exact fun _ => Party.quiet_pure _
  | setStorageWritable writable => exact Party.quiet_change _
  | setClockTrusted trusted reasonCode evidenceRef => exact absurd rfl (apart _ _ _)
  | noteUnknownSend attempt =>
      apply Party.Quiet.bind (Party.quiet_change _)
      exact fun _ => Party.quiet_pure _
  | resolveAttempt attempt =>
      apply Party.Quiet.bind (Party.quiet_change _)
      exact fun _ => Party.quiet_pure _
  | transferOwner newOwnerId oldSenderFenced reconciled =>
      apply Party.Quiet.bind (Party.quiet_change _)
      intro _
      apply Party.quiet_get
      exact fun _ => Party.quiet_pure _
  | onLeaseExpired => exact Party.quiet_change _
  | stop => exact Party.quiet_change _

/-- A journal that grew from another one and has a chain with these incidents. -/
structure Recorded (ownerScope : String) (incidents : List ClockIncident)
    (origin journal : Journal π κ) : Prop where
  grown : origin ≤ journal
  chained : ∃ owners, Chained ownerScope journal.events owners incidents

theorem Recorded.outside {later : Journal π κ}
    (recorded : Recorded ownerScope incidents origin state)
    (outside : Outside ownerScope state later) : Recorded ownerScope incidents origin later := by
  obtain ⟨owners, chained⟩ := recorded.chained
  exact ⟨recorded.grown.trans outside.1, owners, chained.outside outside⟩

/-- A quiet computation leaves the incidents as they are. -/
theorem ensures_recorded {α : Type} {computation : Controlling π κ α}
    (quiet : Party.Quiet computation) (recorded : Recorded ownerScope incidents origin state) :
    Party.Ensures (Outside ownerScope) (fun later _ _ => Recorded ownerScope incidents origin later)
      (fun later _ => Recorded ownerScope incidents origin later) computation state own := by
  apply quiet.ensures.imp
  · exact fun _ _ _ others => recorded.outside (outside_of_steps others)
  · exact fun _ _ others => recorded.outside (outside_of_steps others)

theorem ensures_recorded_appendOwner (owner : OwnerFence) (now : Instant)
    (normal : Normal owner.ownerId) (recorded : Recorded own.ownerScope incidents origin state) :
    Party.Ensures (Outside own.ownerScope)
      (fun later _ (_ : Unit) => Recorded own.ownerScope incidents origin later)
      (fun later _ => Recorded own.ownerScope incidents origin later)
      (appendOwner owner now : Controlling π κ Unit) state own := by
  unfold appendOwner
  apply Party.ensures_get
  split
  · exact Party.ensures_pure recorded
  · have appended : Recorded own.ownerScope incidents origin
        (appendTransaction (ownerEnvelope own.ownerScope owner now) state).1 := by
      rw [appendTransaction]
      split
      next next _ success =>
        rcases Journal.appendEvent_cases success with ⟨-, rfl, -⟩ | ⟨-, events, commands⟩
        · exact recorded
        · obtain ⟨owners, chained⟩ := recorded.chained
          have versioned : owner.epoch =
              (eventsOf state.events (ownerAggregate own.ownerScope)).length + 1 :=
            version_of_concat events
          have continued : Chained own.ownerScope next.events _ incidents :=
            events ▸ chained.owner normal versioned
          have growth : state ≤ next := ⟨⟨_, events.symm⟩, commands ▸ List.prefix_rfl⟩
          exact ⟨recorded.grown.trans growth, _, continued⟩
      next => exact recorded
    apply Party.ensures_bind
    apply Party.ensures_ask
    apply Raising.ensures_atomic
    · intro _ _ later others
      exact Party.ensures_pure (appended.outside (outside_of_steps others))
    · exact fun _ _ later others => appended.outside (outside_of_steps others)

/-- The start of an owner leaves the incidents as they are. -/
theorem ensures_recorded_start (ownerId : String) (now : Instant)
    (recorded : Recorded own.ownerScope incidents origin state) :
    Party.Ensures (Outside own.ownerScope)
      (fun later _ (_ : OwnerFence) => Recorded own.ownerScope incidents origin later)
      (fun later _ => Recorded own.ownerScope incidents origin later)
      (start ownerId now : Controlling π κ OwnerFence) state own := by
  unfold start
  apply Party.ensures_unless
  · exact fun _ => recorded
  intro named
  apply Party.ensures_get
  apply Party.ensures_unless
  · exact fun _ => recorded
  intro _
  apply Party.ensures_bind
  have unchanged : Party.Ensures (Outside own.ownerScope)
      (fun later after (_ : Option OwnerFence) => Unchanged state own later after)
      (Unchanged state own) (latestDurableOwner : Controlling π κ (Option OwnerFence)) state own :=
    ensures_latestDurableOwner.among fun _ _ outside => outside.1
  apply (unchanged.and (ensures_recorded quiet_latestDurableOwner recorded)).imp
  · rintro first _ durable ⟨⟨_, rfl⟩, kept⟩
    apply Party.ensures_unless
    · exact fun _ => kept
    intro _
    apply Party.ensures_bind
    apply Party.Ensures.imp (ensures_recorded_appendOwner _ now ?normal kept)
    case normal => exact normal_strip named
    · intro second _ _ still
      apply Party.ensures_bind
      apply Party.ensures_change
      · intro _ _
        apply Party.ensures_bind
        apply (ensures_recorded quiet_recoverOwnerScope still).imp
        · intro later after _ final
          apply Party.ensures_pure
          exact final
        · exact fun _ _ final => final
      · exact fun _ _ => still
    · exact fun _ _ still => still
  · exact fun _ _ kept => kept.2

/-- A trust transition that returns left the incidents or switched the trust state
to the one it asks for. -/
theorem ensures_recorded_setClockTrusted (canonical : ∀ text, Normal (uuid5 text))
    (trusted : Bool) (reasonCode evidenceRef : Option String) (now : Instant)
    (recorded : Recorded own.ownerScope incidents origin state) :
    Party.Ensures (Outside own.ownerScope)
      (fun later _ (_ : Unit) => ∃ after, Recorded own.ownerScope after origin later ∧
        (after = incidents ∨ trustedAfter after = trusted ∧ trustedAfter incidents ≠ trusted))
      (fun later _ => Recorded own.ownerScope incidents origin later)
      (setClockTrusted trusted reasonCode evidenceRef now : Controlling π κ Unit) state own := by
  unfold setClockTrusted recordClockTransition
  apply Party.ensures_bind
  apply Party.ensures_get
  have finish : ∀ {later after}, (∃ next, Recorded own.ownerScope next origin later ∧
      (next = incidents ∨ trustedAfter next = trusted ∧ trustedAfter incidents ≠ trusted)) →
      Party.Ensures (Outside own.ownerScope)
        (fun later _ (_ : Unit) => ∃ after, Recorded own.ownerScope after origin later ∧
          (after = incidents ∨ trustedAfter after = trusted ∧ trustedAfter incidents ≠ trusted))
        (fun later _ => Recorded own.ownerScope incidents origin later)
        (Party.change fun controller => (controller.withClock trusted, .ok ()) :
          Controlling π κ Unit) later after := by
    intro later after holds
    apply Party.ensures_change
    · exact fun _ _ => holds
    · intro _ failed
      cases failed
  split
  · exact Party.ensures_pure (finish ⟨incidents, recorded, Or.inl rfl⟩)
  · split
    next => exact Party.ensures_throw recorded
    next owner _ =>
      obtain ⟨owners, chained⟩ := recorded.chained
      apply Party.ensures_bind
      apply Party.ensures_ask
      apply ((ensures_appendClockTrustTransition canonical (clockTransition own owner trusted
        reasonCode evidenceRef now) chained).and (ensures_le_appendClockTrustTransition _)).imp
      · rintro later _ ⟨⟨after, next, agreed, outcome⟩, growth⟩
        apply Party.ensures_pure
        apply finish
        refine ⟨after, ⟨recorded.grown.trans growth, owners, next⟩, ?_⟩
        rcases outcome with same | switched
        · exact Or.inl same
        · exact Or.inr ⟨agreed, switched⟩
      · exact fun _ unchanged => ⟨recorded.grown.trans unchanged.2, owners, unchanged.1⟩

/-- What a call does to the incidents of its scope: nothing, or it switches the
trust state. -/
theorem ensures_recorded_perform (canonical : ∀ text, Normal (uuid5 text)) (call : Call)
    (now : Instant) (recorded : Recorded own.ownerScope incidents origin state) :
    Party.Ensures (Outside own.ownerScope)
      (fun later _ _ => Recorded own.ownerScope incidents origin later ∨
        ∃ after trusted reasonCode evidenceRef, Recorded own.ownerScope after origin later ∧
          call = .setClockTrusted trusted reasonCode evidenceRef ∧
          trustedAfter after = trusted ∧ trustedAfter incidents ≠ trusted)
      (fun later _ => Recorded own.ownerScope incidents origin later)
      (call.perform now : Controlling π κ Answer) state own := by
  by_cases writes : (∃ ownerId, call = .start ownerId) ∨
      ∃ trusted reasonCode evidenceRef, call = .setClockTrusted trusted reasonCode evidenceRef
  · rcases writes with ⟨ownerId, rfl⟩ | ⟨trusted, reasonCode, evidenceRef, rfl⟩
    · apply Party.ensures_bind
      apply (ensures_recorded_start ownerId now recorded).imp
      · exact fun _ _ _ final => Party.ensures_pure (Or.inl final)
      · exact fun _ _ final => final
    · apply Party.ensures_bind
      apply (ensures_recorded_setClockTrusted canonical trusted reasonCode evidenceRef now
        recorded).imp
      · rintro later _ _ ⟨after, next, rfl | ⟨agreed, switched⟩⟩
        · exact Party.ensures_pure (Or.inl next)
        · exact Party.ensures_pure (Or.inr ⟨after, _, _, _, next, rfl, agreed, switched⟩)
      · exact fun _ _ unchanged => unchanged
  · push Not at writes
    apply (ensures_recorded (quiet_perform now writes.1 writes.2) recorded).imp
    · exact fun _ _ _ final => Or.inl final
    · exact fun _ _ final => final

end Calls

end AutoTrade.Recovery
