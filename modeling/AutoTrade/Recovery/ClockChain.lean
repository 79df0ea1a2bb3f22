import AutoTrade.Recovery.ClockIncident

/-!
# Chains of clock incidents

What a replay of the two aggregates establishes, and which rows continue it.  A
replay that returns has alternating events, generations counted from one, and for
every event the owner that was current at its position.
-/

namespace AutoTrade.Recovery

open Lib Store

/-! ## Rows at a cut -/

section Rows

variable {π : Type} {events added : List (Envelope π)} {row : Envelope π} {aggregate : Aggregate}

/-- The rows of an aggregate with their journal sequence. -/
def sequenced (events : List (Envelope π)) (aggregate : Aggregate) : List (Envelope π × Nat) :=
  eventsAtOrBeforeCut events aggregate none

theorem sequenced_eq (events : List (Envelope π)) (aggregate : Aggregate) :
    sequenced events aggregate =
      (events.zipIdx 1).filter fun numbered => numbered.1.aggregate = aggregate := by
  simp [sequenced, eventsAtOrBeforeCut]

theorem sequence_le {numbered : Envelope π × Nat}
    (member : numbered ∈ sequenced events aggregate) : numbered.2 ≤ events.length := by
  rw [sequenced_eq] at member
  have below := List.snd_lt_add_of_mem_zipIdx (List.mem_filter.mp member).1
  omega

/-- The rows at a cut are the rows of the prefix that the cut ends. -/
theorem eventsAtOrBeforeCut_some (events : List (Envelope π)) (aggregate : Aggregate)
    (cut : Nat) :
    eventsAtOrBeforeCut events aggregate (some cut) = sequenced (events.take cut) aggregate := by
  have split := congrArg (fun rows => rows.zipIdx 1) (List.take_append_drop cut events)
  simp only [List.zipIdx_append] at split
  have before : ((events.take cut).zipIdx 1).filter (fun numbered =>
        numbered.1.aggregate = aggregate ∧ ∀ limit ∈ some cut, numbered.2 ≤ limit) =
      sequenced (events.take cut) aggregate := by
    rw [sequenced_eq]
    apply List.filter_congr
    intro numbered member
    have below := List.snd_lt_add_of_mem_zipIdx member
    rw [List.length_take] at below
    have within : ∀ limit ∈ some cut, numbered.2 ≤ limit := by
      rintro limit ⟨⟩
      omega
    simp [within]
  have after : ((events.drop cut).zipIdx (1 + (events.take cut).length)).filter
      (fun numbered => numbered.1.aggregate = aggregate ∧
        ∀ limit ∈ some cut, numbered.2 ≤ limit) = [] := by
    rw [List.filter_eq_nil_iff]
    intro numbered member
    have above := List.le_snd_of_mem_zipIdx member
    have nonempty : 0 < (events.drop cut).length := by
      have listed := List.fst_mem_of_mem_zipIdx member
      exact List.length_pos_of_mem listed
    rw [List.length_drop] at nonempty
    rw [List.length_take] at above
    simp only [decide_eq_true_eq, not_and]
    intro _ within
    have limited := within cut rfl
    omega
  rw [eventsAtOrBeforeCut, ← split, List.filter_append, before, after, List.append_nil]

theorem sequenced_append :
    sequenced (events ++ added) aggregate = sequenced events aggregate ++
      (added.zipIdx (1 + events.length)).filter fun numbered =>
        numbered.1.aggregate = aggregate := by
  rw [sequenced_eq, sequenced_eq, List.zipIdx_append, List.filter_append]

theorem sequenced_foreign (apart : ∀ row ∈ added, row.aggregate ≠ aggregate) :
    sequenced (events ++ added) aggregate = sequenced events aggregate := by
  have none : (added.zipIdx (1 + events.length)).filter (fun numbered =>
      numbered.1.aggregate = aggregate) = [] := by
    rw [List.filter_eq_nil_iff]
    intro numbered member
    simpa using apart _ (List.fst_mem_of_mem_zipIdx member)
  rw [sequenced_append, none, List.append_nil]

theorem sequenced_concat (own : row.aggregate = aggregate) :
    sequenced (events ++ [row]) aggregate =
      sequenced events aggregate ++ [(row, events.length + 1)] := by
  rw [sequenced_append, List.zipIdx_singleton, List.filter_cons, if_pos (by simpa using own),
    List.filter_nil, Nat.add_comm]

theorem map_fst_sequenced (events : List (Envelope π)) (aggregate : Aggregate) :
    (sequenced events aggregate).map Prod.fst = eventsOf events aggregate := by
  rw [sequenced_eq, eventsOf, ← List.zipIdx_map_fst 1 events, List.filter_map]
  rw [List.zipIdx_map_fst]
  rfl

theorem length_sequenced (events : List (Envelope π)) (aggregate : Aggregate) :
    (sequenced events aggregate).length = (eventsOf events aggregate).length := by
  rw [← map_fst_sequenced, List.length_map]

end Rows

/-! ## Texts that their checks accept -/

theorem canonicalText_of_normal {value : String} (normal : Normal value) (name : String) :
    canonicalText value name = .ok value := if_pos normal

theorem canonicalText_eq_ok {value name result : String}
    (success : canonicalText value name = .ok result) : Normal value ∧ result = value := by
  rw [canonicalText] at success
  split at success
  next normal => exact ⟨normal, (Except.ok.inj success).symm⟩
  next => cases success

theorem positiveInt_of_pos {value : Nat} (positive : 0 < value) (name : String) :
    positiveInt value name = .ok value := if_pos positive

theorem positiveInt_eq_ok {value result : Nat} {name : String}
    (success : positiveInt value name = .ok result) : 0 < value ∧ result = value := by
  rw [positiveInt] at success
  split at success
  next positive => exact ⟨positive, (Except.ok.inj success).symm⟩
  next => cases success

theorem positiveText_repr {number : Nat} (positive : 0 < number) (name : String) :
    positiveText (Nat.repr number) name = .ok number := by
  have parsed : Nat.ofDigitChars 10 (Nat.repr number).toList 0 = number := by
    rw [Nat.repr, String.toList_ofList, Nat.ofDigitChars_ten_toDigits]
  rw [positiveText, parsed]
  exact if_pos ⟨positive, rfl⟩

theorem positiveText_eq_ok {value name : String} {number : Nat}
    (success : positiveText value name = .ok number) : 0 < number ∧ value = Nat.repr number := by
  rw [positiveText] at success
  split at success
  next canonical =>
    cases success
    exact ⟨canonical.1, canonical.2.symm⟩
  next => cases success

/-! ## Owners -/

section Owners

variable {π : Type} [Carries RecoveryEvent π] {rows : List (Envelope π × Nat)}
  {row : Envelope π} {sequence : Nat} {owners : List OwnerRow} {owner : OwnerRow}

/-- A row of an owner with its epoch as its version. -/
theorem ownerRow_eq_ok {position : Nat} :
    ownerRow ((row, sequence), position) = .ok owner ↔
      recoveryEvent? row =
          some (.owner ownerEventType owner.ownerId (Nat.repr owner.ownerEpoch)) ∧
        Normal owner.ownerId ∧ 0 < owner.ownerEpoch ∧ row.aggregateVersion = position ∧
        owner.ownerEpoch = position ∧ owner.journalSequence = sequence := by
  constructor
  · intro success
    rw [ownerRow] at success
    split at success
    next eventType ownerId ownerEpoch carried =>
      rw [throw_unless_eq_ok, not_ne_iff, bind_eq_ok] at success
      obtain ⟨rfl, named, normal, success⟩ := success
      obtain ⟨normal, rfl⟩ := canonicalText_eq_ok normal
      rw [bind_eq_ok] at success
      obtain ⟨epoch, number, success⟩ := success
      obtain ⟨positive, rfl⟩ := positiveText_eq_ok number
      rw [bind_eq_ok] at success
      obtain ⟨version, counted, success⟩ := success
      obtain ⟨_, rfl⟩ := positiveInt_eq_ok counted
      rw [throw_unless_eq_ok, not_or, not_ne_iff, not_ne_iff, pure_eq_ok] at success
      obtain ⟨⟨versioned, epochs⟩, rfl⟩ := success
      exact ⟨carried, normal, positive, versioned, epochs, rfl⟩
    next => cases success
  · rintro ⟨carried, normal, positive, versioned, rfl, rfl⟩
    rw [ownerRow, carried]
    simp only [canonicalText_of_normal normal, positiveText_repr positive, versioned,
      positiveInt_of_pos positive, ok_bind]
    simp [pure, Except.pure]

/-- The next owner of a chain of owners. -/
theorem validatedOwnerEvents_concat (validated : validatedOwnerEvents rows = .ok owners)
    (next : ownerRow ((row, sequence), rows.length + 1) = .ok owner) :
    validatedOwnerEvents (rows ++ [(row, sequence)]) = .ok (owners ++ [owner]) := by
  rw [validatedOwnerEvents, mapM_eq_ok] at validated ⊢
  rw [List.zipIdx_append, List.zipIdx_singleton, Nat.add_comm 1]
  exact List.rel_append validated (List.Forall₂.cons next List.Forall₂.nil)

/-- Every owner comes before the next row. -/
theorem sequence_lt_of_validated {events : List (Envelope π)} {aggregate : Aggregate}
    (validated : validatedOwnerEvents (sequenced events aggregate) = .ok owners) :
    ∀ owner ∈ owners, owner.journalSequence < events.length + 1 := by
  rw [validatedOwnerEvents, mapM_eq_ok] at validated
  intro owner member
  obtain ⟨⟨⟨row, sequence⟩, position⟩, listed, success⟩ :=
    exists_of_mem_forall₂ validated member
  have numbered : (row, sequence) ∈ sequenced events aggregate :=
    List.fst_mem_of_mem_zipIdx listed
  rw [(ownerRow_eq_ok.mp success).2.2.2.2.2]
  exact Nat.lt_succ_of_le (sequence_le numbered)

/-- The last owner has the last row. -/
theorem getLast?_of_validated (validated : validatedOwnerEvents rows = .ok owners)
    (last : owners.getLast? = some owner) :
    ∃ numbered, rows.getLast? = some numbered ∧ recoveryEvent? numbered.1 =
      some (.owner ownerEventType owner.ownerId (Nat.repr owner.ownerEpoch)) := by
  obtain ⟨earlier, rfl⟩ := List.getLast?_eq_some_iff.mp last
  rw [validatedOwnerEvents, mapM_eq_ok] at validated
  rcases rows.eq_nil_or_concat with rfl | ⟨front, numbered, rfl⟩
  · have lengths := validated.length_eq
    simp at lengths
  · rw [List.concat_eq_append, List.zipIdx_append, List.zipIdx_singleton] at validated
    have lengths := validated.length_eq
    have final := List.forall₂_drop_append _ _ _ validated
    have dropped : (front.zipIdx 1 ++ [(numbered, 1 + front.length)]).drop earlier.length =
        [(numbered, 1 + front.length)] := by
      apply List.drop_left'
      simpa using lengths
    rw [dropped] at final
    cases final with
    | cons success _ =>
        exact ⟨numbered, by simp, (ownerRow_eq_ok.mp success).1⟩

/-- The owner at a position among rows that all come before it. -/
theorem ownerAtSequence_eq_ok {current : String × Nat}
    (before : ∀ owner ∈ owners, owner.journalSequence < sequence) :
    ownerAtSequence owners sequence = .ok current ↔
      owners.getLast?.map (fun owner => (owner.ownerId, owner.ownerEpoch)) = some current := by
  have all : owners.filter (fun owner => owner.journalSequence < sequence) = owners := by
    rw [List.filter_eq_self]
    intro owner member
    exact decide_eq_true (before owner member)
  rw [ownerAtSequence, all]
  cases owners.getLast? <;> simp

/-- A later owner is not current at an earlier position. -/
theorem ownerAtSequence_concat (later : sequence ≤ owner.journalSequence) :
    ownerAtSequence (owners ++ [owner]) sequence = ownerAtSequence owners sequence := by
  have none : [owner].filter (fun owner => owner.journalSequence < sequence) = [] := by
    simp [later]
  rw [ownerAtSequence, ownerAtSequence, List.filter_append, none, List.append_nil]

end Owners

/-! ## Transitions -/

section Transitions

variable {incidents after : List ClockIncident} {payload : ClockPayload}
  {eventType : String} {generation ownerEpoch sequence : Nat}

/-- The texts of a transition that its checks accept. -/
def Coded (reasonCode : String) (evidenceRef : Option String) : Prop :=
  (Normal reasonCode ∧ matchesCode 127 reasonCode = true) ∧
    ∀ evidence ∈ evidenceRef, Normal evidence ∧ matchesCode 255 evidence = true

theorem reason_eq_ok {value name result : String} :
    reason value name = .ok result ↔
      (Normal value ∧ matchesCode 127 value = true) ∧ result = value := by
  rw [reason, bind_eq_ok]
  constructor
  · rintro ⟨text, normal, success⟩
    obtain ⟨normal, rfl⟩ := canonicalText_eq_ok normal
    split at success
    next matched => exact ⟨⟨normal, matched⟩, (pure_eq_ok.mp success).symm⟩
    next => cases success
  · rintro ⟨⟨normal, matched⟩, rfl⟩
    exact ⟨result, canonicalText_of_normal normal name, if_pos matched⟩

theorem optionalEvidence_eq_ok {value result : Option String} {name : String} :
    optionalEvidence value name = .ok result ↔
      (∀ evidence ∈ value, Normal evidence ∧ matchesCode 255 evidence = true) ∧
        result = value := by
  cases value with
  | none =>
      rw [optionalEvidence, Except.ok.injEq, eq_comm]
      simp
  | some value =>
      rw [optionalEvidence, bind_eq_ok]
      constructor
      · rintro ⟨text, normal, success⟩
        obtain ⟨normal, rfl⟩ := canonicalText_eq_ok normal
        split at success
        next matched =>
          refine ⟨?_, (pure_eq_ok.mp success).symm⟩
          rintro evidence ⟨⟩
          exact ⟨normal, matched⟩
        next => cases success
      · rintro ⟨checked, rfl⟩
        obtain ⟨normal, matched⟩ := checked value rfl
        exact ⟨value, canonicalText_of_normal normal name, if_pos matched⟩

theorem trustedAfter_eq_not_any : trustedAfter incidents =
    !(incidents.getLast?.any fun current => !current.restored) := by
  rw [trustedAfter]
  cases incidents.getLast? <;> simp

/-- What a transition does to the incidents. -/
inductive Applies (incidents : List ClockIncident) (eventType : String) (payload : ClockPayload)
    (generation : Nat) : List ClockIncident → Prop where
  | lost {incident : ClockIncident} (named : eventType = clockLostEvent)
      (trusted : trustedAfter incidents = true) (next : generation = incidents.length + 1)
      (generated : incident.generation = generation)
      (identified : incident.incidentId = payload.incidentId)
      (unresolved : incident.restored = false) :
      Applies incidents eventType payload generation (incidents ++ [incident])
  | restored {earlier : List ClockIncident} {current incident : ClockIncident}
      (named : eventType = clockRestoredEvent) (split : incidents = earlier ++ [current])
      (unresolved : current.restored = false) (same : generation = current.generation)
      (generated : incident.generation = current.generation)
      (identified : incident.incidentId = current.incidentId)
      (resolved : incident.restored = true) :
      Applies incidents eventType payload generation (earlier ++ [incident])

theorem applies_of_ok (success :
    applyTransition incidents eventType payload generation ownerEpoch sequence = .ok after) :
    Applies incidents eventType payload generation after := by
  rw [applyTransition] at success
  split at success
  next named =>
    rw [guard_eq_ok, guard_eq_ok, not_ne_iff, bind_eq_ok] at success
    obtain ⟨resolved, next, incident, built, success⟩ := success
    cases pure_eq_ok.mp success
    rw [lostIncident, bind_eq_ok] at built
    obtain ⟨reasonCode, _, built⟩ := built
    rw [bind_eq_ok] at built
    obtain ⟨evidenceRef, _, built⟩ := built
    cases pure_eq_ok.mp built
    refine .lost named ?_ next rfl rfl rfl
    rw [trustedAfter_eq_not_any]
    simpa using resolved
  next =>
    split at success
    next named =>
      split at success
      next => cases success
      next current last =>
        obtain ⟨earlier, rfl⟩ := List.getLast?_eq_some_iff.mp last
        rw [guard_eq_ok, guard_eq_ok, not_or, not_ne_iff, not_ne_iff, bind_eq_ok] at success
        obtain ⟨unresolved, ⟨same, _⟩, incident, built, success⟩ := success
        cases pure_eq_ok.mp success
        rw [restoredIncident, bind_eq_ok] at built
        obtain ⟨reasonCode, _, built⟩ := built
        rw [bind_eq_ok] at built
        obtain ⟨evidenceRef, _, built⟩ := built
        cases pure_eq_ok.mp built
        rw [List.dropLast_concat]
        exact .restored named rfl (Bool.eq_false_of_not_eq_true unresolved) same rfl rfl rfl
    next => cases success

/-- A loss is accepted when the clock is trusted. -/
theorem exists_lost (payload : ClockPayload) (trusted : trustedAfter incidents = true)
    (coded : Coded payload.reasonCode payload.evidenceRef) (ownerEpoch sequence : Nat) :
    ∃ after, applyTransition incidents clockLostEvent payload (incidents.length + 1) ownerEpoch
      sequence = .ok after := by
  rw [trustedAfter_eq_not_any, Bool.not_eq_true'] at trusted
  rw [applyTransition, if_pos rfl, trusted, if_neg Bool.false_ne_true, if_neg (not_not.mpr rfl)]
  simp only [lostIncident, reason_eq_ok.mpr ⟨coded.1, rfl⟩,
    optionalEvidence_eq_ok.mpr ⟨coded.2, rfl⟩, ok_bind]
  exact ⟨_, rfl⟩

/-- A restoration of the unresolved incident is accepted. -/
theorem exists_restored (payload : ClockPayload) {current : ClockIncident}
    (last : incidents.getLast? = some current)
    (unresolved : current.restored = false)
    (coded : Coded payload.reasonCode payload.evidenceRef)
    (identified : payload.incidentId = current.incidentId) (ownerEpoch sequence : Nat) :
    ∃ after, applyTransition incidents clockRestoredEvent payload current.generation ownerEpoch
      sequence = .ok after := by
  have distinct : clockRestoredEvent ≠ clockLostEvent := by decide
  rw [applyTransition, if_neg distinct, if_pos rfl, last]
  simp only [unresolved, Bool.false_eq_true, if_false, identified, ne_eq, not_true_eq_false,
    or_self, restoredIncident, reason_eq_ok.mpr ⟨coded.1, rfl⟩,
    optionalEvidence_eq_ok.mpr ⟨coded.2, rfl⟩, ok_bind]
  exact ⟨_, rfl⟩

/-- Losses and restorations in turn, a loss first. -/
def alternating (length : Nat) : List String :=
  (List.range length).map fun index =>
    if index % 2 = 0 then clockLostEvent else clockRestoredEvent

theorem alternating_succ (length : Nat) :
    alternating (length + 1) = alternating length ++
      [if length % 2 = 0 then clockLostEvent else clockRestoredEvent] := by
  rw [alternating, List.range_succ, List.map_append]
  rfl

theorem trustedAfter_concat (incidents : List ClockIncident) (incident : ClockIncident) :
    trustedAfter (incidents ++ [incident]) = incident.restored := by
  rw [trustedAfter, List.getLast?_concat, Option.all_some]

end Transitions

/-! ## Replays -/

section Replays

variable {π : Type} [Carries RecoveryEvent π] [Fingerprint] {ownerScope : String}
  {rows : List (Envelope π × Nat)} {row : Envelope π} {sequence position : Nat}
  {owners : List OwnerRow} {owner : OwnerRow} {incidents after : List ClockIncident}

/-- The row of a transition by the owner that is current at its position. -/
structure TransitionRow (ownerScope : String) (owners : List OwnerRow) (row : Envelope π)
    (sequence position : Nat) (eventType : String) (payload : ClockPayload) (generation : Nat)
    (owner : String × Nat) : Prop where
  carried : recoveryEvent? row = some (.clock eventType payload)
  positive : 0 < position
  versioned : row.aggregateVersion = position
  schema : payload.schemaVersion = schemaVersion
  normal : Normal payload.ownerId
  epoch : 0 < owner.2
  current : ownerAtSequence owners sequence = .ok owner
  named : payload.ownerId = owner.1
  epochText : payload.ownerEpoch = Nat.repr owner.2
  counted : 0 < generation
  generationText : payload.generation = Nat.repr generation
  canonical : Normal payload.incidentId
  identified : payload.incidentId = incidentId ownerScope generation

theorem chainStep_eq_ok :
    chainStep ownerScope owners incidents ((row, sequence), position) = .ok after ↔
      ∃ eventType payload generation owner,
        TransitionRow ownerScope owners row sequence position eventType payload generation owner ∧
          applyTransition incidents eventType payload generation owner.2 sequence = .ok after := by
  constructor
  · intro success
    rw [chainStep, bind_eq_ok] at success
    obtain ⟨version, counted, success⟩ := success
    obtain ⟨positive, rfl⟩ := positiveInt_eq_ok counted
    rw [throw_unless_eq_ok, not_ne_iff] at success
    obtain ⟨versioned, success⟩ := success
    split at success
    next eventType payload carried =>
      rw [throw_unless_eq_ok, not_ne_iff, bind_eq_ok] at success
      obtain ⟨schema, ownerId, checkedOwner, success⟩ := success
      obtain ⟨normal, rfl⟩ := canonicalText_eq_ok checkedOwner
      rw [bind_eq_ok] at success
      obtain ⟨epoch, number, success⟩ := success
      obtain ⟨epochPositive, epochText⟩ := positiveText_eq_ok number
      rw [bind_eq_ok] at success
      obtain ⟨owner, current, success⟩ := success
      rw [throw_unless_eq_ok, not_ne_iff, bind_eq_ok] at success
      obtain ⟨rfl, generation, number, success⟩ := success
      obtain ⟨generationPositive, generationText⟩ := positiveText_eq_ok number
      rw [bind_eq_ok] at success
      obtain ⟨named, checkedId, success⟩ := success
      obtain ⟨canonical, rfl⟩ := canonicalText_eq_ok checkedId
      rw [throw_unless_eq_ok, not_ne_iff] at success
      exact ⟨eventType, payload, generation, _, ⟨carried, positive.trans_eq versioned,
        versioned, schema, normal, epochPositive, current, rfl, epochText, generationPositive,
        generationText, canonical, success.1⟩, success.2⟩
    next => cases success
  · rintro ⟨eventType, payload, generation, owner, transition, success⟩
    obtain ⟨ownerId, epoch⟩ := owner
    rw [chainStep]
    simp only [transition.versioned, positiveInt_of_pos transition.positive, transition.carried,
      transition.schema, canonicalText_of_normal transition.normal, transition.epochText,
      positiveText_repr transition.epoch, transition.current, transition.generationText,
      positiveText_repr transition.counted, canonicalText_of_normal transition.canonical, ok_bind]
    simp [transition.identified, transition.named, success]

/-- The event type of a row. -/
def clockEventType (row : Envelope π) : Option String :=
  match recoveryEvent? row with
  | some (.clock eventType _) => some eventType
  | _ => none

/-- Incidents of rows that alternate, numbered from one, all but the last one
restored. -/
structure Alternates (ownerScope : String) (rows : List (Envelope π × Nat))
    (incidents : List ClockIncident) : Prop where
  events : rows.map (fun numbered => clockEventType numbered.1) =
    (alternating rows.length).map some
  generations : incidents.map ClockIncident.generation = List.range' 1 incidents.length
  identified : ∀ incident ∈ incidents,
    incident.incidentId = incidentId ownerScope incident.generation
  trusted : trustedAfter incidents = decide (rows.length % 2 = 0)

theorem Alternates.nil : Alternates (π := π) ownerScope [] [] where
  events := rfl
  generations := rfl
  identified _ member := absurd member List.not_mem_nil
  trusted := rfl

theorem Alternates.concat {eventType : String} {payload : ClockPayload} {generation : Nat}
    {owner : String × Nat} (alternates : Alternates ownerScope rows incidents)
    (transition : TransitionRow ownerScope owners row sequence position eventType payload
      generation owner)
    (applies : Applies incidents eventType payload generation after) :
    Alternates ownerScope (rows ++ [(row, sequence)]) after := by
  have typed : clockEventType row = some eventType := by
    rw [clockEventType, transition.carried]
  have trusted := alternates.trusted
  cases applies with
  | @lost incident named resolved next generated identified unresolved =>
      rw [resolved, eq_comm, decide_eq_true_eq] at trusted
      constructor
      · rw [List.map_append, alternates.events, List.length_append, List.length_singleton,
          alternating_succ, if_pos trusted, List.map_append, List.map_singleton, typed, named]
        rfl
      · rw [List.map_append, alternates.generations, List.length_append, List.length_singleton,
          List.range'_1_concat, List.map_singleton, generated, next, Nat.add_comm 1]
      · rw [List.forall_mem_append]
        refine ⟨alternates.identified, List.forall_mem_singleton.mpr ?_⟩
        rw [identified, transition.identified, generated]
      · rw [trustedAfter_concat, unresolved, List.length_append, List.length_singleton]
        exact (decide_eq_false (by omega)).symm
  | @restored earlier current incident named split unresolved same generated identified resolved =>
      subst split
      rw [trustedAfter_concat, unresolved, eq_comm, decide_eq_false_iff_not] at trusted
      have generations := alternates.generations
      have identities := alternates.identified
      rw [List.map_append, List.map_singleton, List.length_append, List.length_singleton]
        at generations
      rw [List.forall_mem_append, List.forall_mem_singleton] at identities
      constructor
      · rw [List.map_append, alternates.events, List.length_append, List.length_singleton,
          alternating_succ, if_neg trusted, List.map_append, List.map_singleton, typed, named]
        rfl
      · rw [List.map_append, List.map_singleton, List.length_append, List.length_singleton,
          generated]
        exact generations
      · rw [List.forall_mem_append]
        refine ⟨identities.1, List.forall_mem_singleton.mpr ?_⟩
        rw [identified, identities.2, generated]
      · rw [trustedAfter_concat, resolved, List.length_append, List.length_singleton]
        exact (decide_eq_true (by omega)).symm

/-- A replay that returns. -/
structure Replayed (ownerScope : String) (ownerRows clockRows : List (Envelope π × Nat))
    (owners : List OwnerRow) (incidents : List ClockIncident) : Prop where
  validated : validatedOwnerEvents ownerRows = .ok owners
  chain : (clockRows.zipIdx 1).foldlM (chainStep ownerScope owners) [] = .ok incidents

theorem replayChain_eq_ok {ownerRows : List (Envelope π × Nat)} :
    replayChain ownerScope ownerRows rows = .ok incidents ↔
      ∃ owners, Replayed ownerScope ownerRows rows owners incidents := by
  rw [replayChain, bind_eq_ok]
  constructor
  · rintro ⟨owners, validated, chain⟩
    exact ⟨owners, validated, chain⟩
  · rintro ⟨owners, replayed⟩
    exact ⟨owners, replayed.validated, replayed.chain⟩

theorem foldlM_concat {scope : String} :
    ((rows ++ [(row, sequence)]).zipIdx 1).foldlM (chainStep scope owners) [] = .ok after ↔
      ∃ incidents, (rows.zipIdx 1).foldlM (chainStep scope owners) [] = .ok incidents ∧
        chainStep scope owners incidents ((row, sequence), rows.length + 1) = .ok after := by
  rw [List.zipIdx_append, List.zipIdx_singleton, List.foldlM_append, bind_eq_ok, Nat.add_comm 1]
  simp only [List.foldlM_cons, List.foldlM_nil, bind_pure]

/-- An owner that follows all rows of a chain leaves the chain as it is. -/
theorem foldlM_concat_owner (before : ∀ numbered ∈ rows, numbered.2 ≤ owner.journalSequence) :
    (rows.zipIdx 1).foldlM (chainStep ownerScope (owners ++ [owner])) [] =
      (rows.zipIdx 1).foldlM (chainStep ownerScope owners) [] := by
  induction rows using List.reverseRecOn with
  | nil => rfl
  | append_singleton rows numbered ih =>
      rw [List.forall_mem_append, List.forall_mem_singleton] at before
      rw [List.zipIdx_append, List.zipIdx_singleton, List.foldlM_append, List.foldlM_append,
        ih before.1]
      simp only [List.foldlM_cons, List.foldlM_nil, chainStep, ownerAtSequence_concat before.2]

/-- A chain that a replay accepts alternates. -/
theorem alternates_of_replay
    (chain : (rows.zipIdx 1).foldlM (chainStep ownerScope owners) [] = .ok incidents) :
    Alternates ownerScope rows incidents := by
  induction rows using List.reverseRecOn generalizing incidents with
  | nil =>
      cases pure_eq_ok.mp chain
      exact Alternates.nil
  | append_singleton rows numbered ih =>
      obtain ⟨row, sequence⟩ := numbered
      obtain ⟨before, chain, step⟩ := foldlM_concat.mp chain
      obtain ⟨eventType, payload, generation, owner, transition, applied⟩ :=
        chainStep_eq_ok.mp step
      exact (ih chain).concat transition (applies_of_ok applied)

end Replays

end AutoTrade.Recovery
