import AutoTrade.Budget.Replay

/-!
# The budget protocol

What a transaction may do to the rows of one budget, stated without the program
that does it.  `Moves` is a relation on the shared state; its premises hold in
the state the transaction finds.  `Sound` is the invariant of the rows: they
replay, and the label of an event determines the id of its row.
-/

namespace AutoTrade.Budget

open Lib Numeric Store

variable {π κ : Type}

/-- A later state keeps the rows and the answers of an earlier one. -/
instance : Preorder (World π κ) where
  le earlier later := earlier.journal ≤ later.journal ∧ earlier.answers <+: later.answers
  le_refl world := ⟨le_rfl, List.prefix_rfl⟩
  le_trans _ _ _ first second := ⟨first.1.trans second.1, first.2.trans second.2⟩

/-- The rows of a budget. -/
def rowsOf (budgetId : String) (journal : Journal π κ) : List (Envelope π) :=
  journal.loadEvents (budgetAggregate budgetId)

/-- The state after a transaction that added rows. -/
structure Extends (world next : World π κ) (added : List (Envelope π)) : Prop where
  events : next.journal.events = world.journal.events ++ added
  commands : world.journal.commands <+: next.journal.commands
  answers : next.answers = world.answers

namespace Extends

variable {world next : World π κ} {added : List (Envelope π)} {row : Envelope π}
  {budgetId : String}

theorem refl (world : World π κ) : Extends world world [] where
  events := (List.append_nil _).symm
  commands := List.prefix_rfl
  answers := rfl

theorem le (grown : Extends world next added) : world ≤ next :=
  ⟨⟨⟨added, grown.events.symm⟩, grown.commands⟩, grown.answers ▸ List.prefix_rfl⟩

theorem rows (grown : Extends world next added) (budgetId : String) :
    rowsOf budgetId next.journal =
      rowsOf budgetId world.journal ++ eventsOf added (budgetAggregate budgetId) := by
  rw [rowsOf, Journal.loadEvents, grown.events, eventsOf_append]
  rfl

theorem rows_foreign (grown : Extends world next added)
    (apart : ∀ row ∈ added, row.aggregate ≠ budgetAggregate budgetId) :
    rowsOf budgetId next.journal = rowsOf budgetId world.journal := by
  have none : eventsOf added (budgetAggregate budgetId) = [] :=
    List.filter_eq_nil_iff.mpr fun row member => by simpa using apart row member
  rw [grown.rows, none, List.append_nil]

theorem rows_single (grown : Extends world next [row])
    (own : row.aggregate = budgetAggregate budgetId) :
    rowsOf budgetId next.journal = rowsOf budgetId world.journal ++ [row] := by
  have one : eventsOf [row] (budgetAggregate budgetId) = [row] := by simp [eventsOf, own]
  rw [grown.rows, one]

/-- The added row is at the next version of the budget. -/
theorem version (grown : Extends world next [row])
    (own : row.aggregate = budgetAggregate budgetId) :
    row.aggregateVersion = (rowsOf budgetId world.journal).length + 1 :=
  Journal.version_eq (grown.rows_single own)

/-- The added row has an id that no row had. -/
theorem fresh (grown : Extends world next [row]) :
    ∀ stored ∈ world.journal.events, stored.eventId ≠ row.eventId := by
  have distinct := next.journal.distinct
  rw [grown.events, List.map_append, List.nodup_append] at distinct
  intro stored member
  exact distinct.2.2 _ (List.mem_map_of_mem member) _ List.mem_cons_self

end Extends

theorem rows_grow {earlier later : World π κ} (growth : earlier ≤ later) (budgetId : String) :
    rowsOf budgetId earlier.journal <+: rowsOf budgetId later.journal :=
  Journal.loadEvents_prefix growth.1 _

theorem mem_events_of_le {earlier later : World π κ} (growth : earlier ≤ later)
    {row : Envelope π} (member : row ∈ earlier.journal.events) : row ∈ later.journal.events :=
  growth.1.1.subset member

/-- An append at the version that follows a read finds the rows that were read. -/
theorem rows_unchanged {seen later : World π κ} (growth : seen ≤ later) {budgetId : String}
    (length : (rowsOf budgetId later.journal).length = (rowsOf budgetId seen.journal).length) :
    rowsOf budgetId later.journal = rowsOf budgetId seen.journal :=
  ((rows_grow growth budgetId).eq_of_length length.symm).symm

/-! ## Moves -/

/-- The identities of an event are normalized, and a route event is about the
request of its routing input. -/
structure BudgetEvent.Wellformed (event : BudgetEvent) : Prop where
  normal : ∀ label ∈ event.label, Normal label.2
  routed : ∀ payload, event = .routeReserved payload →
    payload.routingInput.requestId = payload.requestId

/-- The event of a row, with the id that its label gives. -/
structure Identified [Fingerprint] [Carries BudgetEvent π] (budgetId : String) (row : Envelope π)
    (event : BudgetEvent) : Prop where
  carried : budgetEvent? row = some event
  wellformed : event.Wellformed
  identity : ∀ label ∈ event.label, row.eventId = labelId budgetId label

/-- An event that reserves a cost for a request. -/
def Reserves (event : BudgetEvent) (requestId : String) (cost : Decimal) : Prop :=
  match event with
  | .costReserved named amount =>
      named = requestId ∧ exactDecimal (.text amount) "reservation" = .ok cost
  | .routeReserved payload => payload.routingInput.requestId = requestId ∧
      exactDecimal (.text payload.amount) "reservation" = .ok cost
  | _ => False

/-- The request and the cost of an answer. -/
def Answer.claim : Answer → String × Decimal
  | .admitted requestId cost => (requestId, cost)
  | .reserved requestId amount => (requestId, amount)

/-- A row of the budget reserves what an answer claims. -/
def Backed [Carries BudgetEvent π] (budgetId : String) (journal : Journal π κ) (entry : Answer) :
    Prop :=
  Normal entry.claim.1 ∧ ∃ row ∈ rowsOf budgetId journal, ∃ event,
    budgetEvent? row = some event ∧ Reserves event entry.claim.1 entry.claim.2

variable [Carries BudgetEvent π] [Fingerprint] [CaseMap]

/-- One transaction of the protocol. -/
inductive Moves (budgetId : String) (world next : World π κ) : Prop where
  /-- Rows of other aggregates. -/
  | foreign {added : List (Envelope π)} (grown : Extends world next added)
      (apart : ∀ row ∈ added, row.aggregate ≠ budgetAggregate budgetId)
  | found {environment : String} {row : Envelope π} {event : BudgetEvent}
      {ledger : PresentedLedger} (grown : Extends world next [row])
      (own : row.aggregate = budgetAggregate budgetId) (kind : Identified budgetId row event)
      (first : rowsOf budgetId world.journal = [])
      (created : initialLedger environment (some event) = .ok ledger)
  /-- A row that was validated on the rows that it follows. -/
  | append {environment : String} {row : Envelope π} {event : BudgetEvent}
      {ledger following : PresentedLedger} (grown : Extends world next [row])
      (own : row.aggregate = budgetAggregate budgetId) (kind : Identified budgetId row event)
      (replayed : replayEvents environment (rowsOf budgetId world.journal) = .ok ledger)
      (applied : ledger.apply event = .ok following)
  /-- A release with the amount that an earlier read of the rows showed. -/
  | release {environment requestId : String} {row : Envelope π} {released : Presented}
      {seen : List (Envelope π)} {earlier ledger : PresentedLedger}
      (grown : Extends world next [row]) (own : row.aggregate = budgetAggregate budgetId)
      (kind : Identified budgetId row (.costReleased requestId released.text))
      (read : seen <+: rowsOf budgetId world.journal)
      (before : replayEvents environment seen = .ok earlier)
      (held : earlier.amounts.get? requestId = some released)
      (replayed : replayEvents environment (rowsOf budgetId world.journal) = .ok ledger)
      (possible : ∃ result, ledger.release requestId = .ok result)
  | answer {entry : Answer} (journal : next.journal = world.journal)
      (answers : next.answers = world.answers ++ [(entry, world.journal)])
      (backed : Backed budgetId world.journal entry)

theorem Moves.idle {budgetId : String} {world : World π κ} : Moves budgetId world world :=
  .foreign (Extends.refl world) fun _ member => absurd member List.not_mem_nil

theorem Moves.grows {budgetId : String} {world next : World π κ}
    (moves : Moves budgetId world next) : world ≤ next := by
  cases moves with
  | foreign grown _ => exact grown.le
  | found grown _ _ _ _ => exact grown.le
  | append grown _ _ _ _ => exact grown.le
  | release grown _ _ _ _ _ _ _ => exact grown.le
  | answer journal answers _ => exact ⟨journal ▸ le_rfl, answers ▸ List.prefix_append _ _⟩

/-! ## Soundness -/

/-- The rows of a budget replay, and their ids are those of their labels. -/
structure Sound (budgetId : String) (journal : Journal π κ) : Prop where
  identified : ∀ row ∈ rowsOf budgetId journal, ∃ event, Identified budgetId row event
  replays : rowsOf budgetId journal ≠ [] → ∃ environment ledger,
    replayEvents environment (rowsOf budgetId journal) = .ok ledger

theorem Sound.congr {budgetId : String} {before after : Journal π κ}
    (sound : Sound budgetId before) (same : rowsOf budgetId after = rowsOf budgetId before) :
    Sound budgetId after := by
  constructor
  · rw [same]
    exact sound.identified
  · rw [same]
    exact sound.replays

/-- An identified row after which the rows replay. -/
theorem Sound.concat {budgetId : String} {world next : World π κ} {row : Envelope π}
    {event : BudgetEvent} (sound : Sound budgetId world.journal)
    (grown : Extends world next [row]) (own : row.aggregate = budgetAggregate budgetId)
    (kind : Identified budgetId row event)
    (replays : ∃ environment ledger,
      replayEvents environment (rowsOf budgetId world.journal ++ [row]) = .ok ledger) :
    Sound budgetId next.journal := by
  have rows := grown.rows_single own
  constructor
  · intro other member
    rw [rows] at member
    rcases List.mem_append.mp member with old | new
    · exact sound.identified other old
    · rw [List.mem_singleton.mp new]
      exact ⟨event, kind⟩
  · intro _
    rw [rows]
    exact replays

/-- A release shows what the ledger still holds: its request is not settled, and
an earlier release would have the id of this one. -/
theorem Sound.apply_release {budgetId environment requestId : String} {world next : World π κ}
    {row : Envelope π} {released : Presented} {seen : List (Envelope π)}
    {earlier ledger : PresentedLedger} (sound : Sound budgetId world.journal)
    (grown : Extends world next [row])
    (kind : Identified budgetId row (.costReleased requestId released.text))
    (read : seen <+: rowsOf budgetId world.journal)
    (before : replayEvents environment seen = .ok earlier)
    (held : earlier.amounts.get? requestId = some released)
    (replayed : replayEvents environment (rowsOf budgetId world.journal) = .ok ledger)
    (possible : ∃ result, ledger.release requestId = .ok result) :
    ∃ following, ledger.apply (.costReleased requestId released.text) = .ok following := by
  have named : strip requestId = requestId := (kind.wellformed.normal _ rfl).1
  obtain ⟨⟨following, candidate⟩, possible⟩ := possible
  obtain ⟨called, -, shown⟩ := PresentedLedger.release_ledger possible
  obtain ⟨added, split⟩ := read
  rw [← split] at replayed
  have applied := replayEvents_continues before replayed
  rcases PresentedLedger.applyAll_held applied held with kept | settled | ⟨event, member, again⟩
  · rw [named, kept, Option.getD_some] at shown
    refine ⟨following, ?_⟩
    rw [PresentedLedger.apply, possible, ok_bind, shown]
    exact if_neg (not_not_intro rfl)
  · obtain ⟨_, called⟩ := map_fst_eq_ok.mp called
    have unsettled := (BudgetLedger.release_cases called).1
    rw [named] at unsettled
    exact absurd settled unsettled
  · obtain ⟨other, otherShown, rfl, same⟩ := again
    obtain ⟨stored, stands, carried⟩ := List.mem_filterMap.mp member
    have listed : stored ∈ rowsOf budgetId world.journal := by
      rw [← split]
      exact List.mem_append_right seen stands
    obtain ⟨event, identified⟩ := sound.identified stored listed
    rw [identified.carried, Option.some.injEq] at carried
    subst carried
    have otherNamed : strip other = other := (identified.wellformed.normal _ rfl).1
    rw [otherNamed] at same
    have id := identified.identity _ rfl
    rw [same, ← kind.identity _ rfl] at id
    exact absurd id (grown.fresh stored (Journal.mem_loadEvents.mp listed).1)

/-- The step lemma of the rows. -/
theorem Sound.moves {budgetId : String} {world next : World π κ}
    (sound : Sound budgetId world.journal) (moves : Moves budgetId world next) :
    Sound budgetId next.journal := by
  cases moves with
  | foreign grown apart => exact sound.congr (grown.rows_foreign apart)
  | @found environment row event ledger grown own kind first created =>
      refine sound.concat grown own kind ⟨environment, ledger, ?_⟩
      have version := grown.version own
      rw [first] at version
      rw [first, List.nil_append, replayEvents, List.head?_cons, Option.bind_some, kind.carried,
        created, ok_bind, List.zipIdx_singleton, List.foldlM_cons, replayStep, version,
        kind.carried]
      obtain ⟨ceiling, durable, same, -, -⟩ := initialLedger_eq_ok created
      cases same
      rfl
  | append grown own kind replayed applied =>
      exact sound.concat grown own kind
        ⟨_, _, replayEvents_concat replayed (grown.version own) kind.carried applied⟩
  | release grown own kind read before held replayed possible =>
      obtain ⟨following, applied⟩ :=
        sound.apply_release grown kind read before held replayed possible
      exact sound.concat grown own kind
        ⟨_, _, replayEvents_concat replayed (grown.version own) kind.carried applied⟩
  | answer journal _ _ =>
      rw [journal]
      exact sound

/-- The journal of every answer is sound and backs it. -/
structure Accounted (budgetId : String) (world : World π κ) : Prop where
  sound : Sound budgetId world.journal
  answers : ∀ entry journal, (entry, journal) ∈ world.answers →
    Sound budgetId journal ∧ Backed budgetId journal entry

theorem accounted_empty (budgetId : String) : Accounted budgetId (World.empty : World π κ) where
  sound := {
    identified := by
      intro row member
      cases member
    replays := fun nonempty => absurd rfl nonempty }
  answers := by
    intro entry journal member
    cases member

/-- The step lemma of the answers. -/
theorem Accounted.moves {budgetId : String} {world next : World π κ}
    (accounted : Accounted budgetId world) (moves : Moves budgetId world next) :
    Accounted budgetId next := by
  refine ⟨accounted.sound.moves moves, ?_⟩
  intro entry journal member
  cases moves with
  | foreign grown _ | found grown _ _ _ _ | append grown _ _ _ _ | release grown _ _ _ _ _ _ _ =>
      rw [grown.answers] at member
      exact accounted.answers entry journal member
  | answer _ answers backed =>
      rw [answers] at member
      rcases List.mem_append.mp member with old | new
      · exact accounted.answers entry journal old
      · obtain ⟨rfl, rfl⟩ := Prod.mk.inj (List.mem_singleton.mp new)
        exact ⟨accounted.sound, backed⟩

end AutoTrade.Budget
