import AutoTrade.Budget.Keeps

/-!
# No overbooking across writers

Any number of calls on any number of objects of one budget, over one journal, in
any interleaving.  As long as every amount is written in a short text, the rows
of the budget replay, a label has one event, and the replayed ledger is below its
ceiling until a bill exceeds the estimate it is for.  An admission and a
reservation are backed by the journal of their answer.
-/

set_option linter.unusedSectionVars false

namespace AutoTrade.Budget

open Lib Numeric Store

/-! ## Systems of budgets -/

/-- A call of the interface with its arguments. -/
inductive Invocation where
  | create (budgetId environment : String) (ceiling : PresentedInput)
  | reserve (requestId : String) (amount : PresentedInput)
  | release (requestId : String)
  | settle (requestId : String) (incurred estimatedUnbilled : PresentedInput)
  | reconcileUnbilled (billingId requestId : String) (billed : PresentedInput)
  | admitRoute (policy : RoutingPolicy) (request : ModelRequest)
      (descriptors : List ModelDescriptor) (now : Instant)
      (context : Option (List (String × String)))

/-- Every amount that is written as it was given has a short text. -/
def Invocation.Short : Invocation → Prop
  | .create _ _ ceiling => ceiling.Short
  | .reserve _ _ => True
  | .release _ => True
  | .settle _ incurred estimatedUnbilled => incurred.Short ∧ estimatedUnbilled.Short
  | .reconcileUnbilled _ _ billed => billed.Short
  | .admitRoute _ _ descriptors _ _ =>
      ∀ descriptor ∈ descriptors, descriptor.estimatedCost.Short

/-- The budget that a call on an object is about. -/
def Invocation.budgetId (budget : DurableModelBudget) : Invocation → String
  | .create budgetId _ _ => strip budgetId
  | _ => budget.budgetId

section Writers

variable {π κ : Type} [Carries BudgetEvent π] [Fingerprint] [CaseMap] {budgetId : String}
  {world : World π κ}

section Systems

variable [DecidableEq π] [DecidableEq κ] [Carries BudgetCommand κ]

/-- A computation whose result nobody awaits. -/
def detach {α : Type} (computation : Budgeting π κ α) : Program (World π κ) Unit :=
  (fun _ => ()) <$> computation.run

/-- A call on an object. -/
def Invocation.launch (budget : DurableModelBudget) (clock : Nat → Except BudgetError Instant) :
    Invocation → Program (World π κ) Unit
  | .create budgetId environment ceiling =>
      detach (DurableModelBudget.create budgetId environment ceiling clock)
  | .reserve requestId amount => detach (budget.reserve requestId amount clock)
  | .release requestId => detach (budget.release requestId clock)
  | .settle requestId incurred estimatedUnbilled =>
      detach (budget.settle requestId incurred estimatedUnbilled clock)
  | .reconcileUnbilled billingId requestId billed =>
      detach (budget.reconcileUnbilled billingId requestId billed clock)
  | .admitRoute policy request descriptors now context =>
      detach (budget.admitRoute policy request descriptors now context clock)

/-- The start of a call that is about the budget. -/
def Starts (condition : Invocation → Prop) (budgetId : String) (world later : World π κ)
    (program : Program (World π κ) Unit) : Prop :=
  later = world ∧ ∃ budget clock invocation,
    condition invocation ∧ invocation.budgetId budget = budgetId ∧
      program = invocation.launch budget clock

/-- A transaction of another writer of the journal. -/
def Outside (budgetId : String) (world later : World π κ) : Prop :=
  ∃ added, Extends world later added ∧
    ∀ row ∈ added, row.aggregate ≠ budgetAggregate budgetId

/-- The states that calls and other writers reach from an empty journal, in any
interleaving. -/
def Reaches (condition : Invocation → Prop) (budgetId : String) (world : World π κ) : Prop :=
  ∃ pool, System.Runs (Starts condition budgetId) (Outside budgetId) ⟨World.empty, []⟩
    ⟨world, pool⟩

/-- A call without interference. -/
theorem Reaches.call {condition : Invocation → Prop} (reaches : Reaches condition budgetId world)
    {budget : DurableModelBudget} {clock : Nat → Except BudgetError Instant}
    {invocation : Invocation} (holds : condition invocation)
    (about : invocation.budgetId budget = budgetId) :
    Reaches condition budgetId ((invocation.launch budget clock).run world).1 := by
  obtain ⟨pool, runs⟩ := reaches
  have started : System.Runs (Starts condition budgetId) (Outside budgetId) ⟨world, pool⟩
      ⟨world, pool ++ [invocation.launch budget clock]⟩ :=
    .single (.start ⟨rfl, budget, clock, invocation, holds, about, rfl⟩)
  exact ⟨_, (runs.trans started).trans (System.runs_alone world pool _)⟩

theorem meets_detach {α : Type} {computation : Budgeting π κ α}
    (keeps : Keeps budgetId (fun _ _ => True) computation world) :
    Program.Meets (Moves budgetId) (fun _ _ => True) (detach computation) world :=
  Program.Meets.map keeps fun _ _ _ => trivial

theorem meets_launch (budget : DurableModelBudget) (clock : Nat → Except BudgetError Instant)
    {invocation : Invocation} (short : invocation.Short) :
    Program.Meets (Moves (invocation.budgetId budget)) (fun _ _ => True)
      (invocation.launch budget clock) world := by
  cases invocation with
  | create budgetId environment ceiling => exact meets_detach (keeps_create clock short)
  | reserve requestId amount => exact meets_detach (DurableModelBudget.keeps_reserve clock)
  | release requestId => exact meets_detach (DurableModelBudget.keeps_release clock)
  | settle requestId incurred estimatedUnbilled =>
      exact meets_detach (DurableModelBudget.keeps_settle clock short.1 short.2)
  | reconcileUnbilled billingId requestId billed =>
      exact meets_detach (DurableModelBudget.keeps_reconcileUnbilled clock short)
  | admitRoute policy request descriptors now context =>
      exact meets_detach (DurableModelBudget.keeps_admitRoute clock short)

/-- Every interleaving of calls with short amounts follows the protocol. -/
theorem Reaches.moves (reaches : Reaches Invocation.Short budgetId world) :
    Relation.ReflTransGen (Moves budgetId) World.empty world := by
  obtain ⟨pool, runs⟩ := reaches
  refine (System.Runs.guaranteed Moves.grows ?_ ?_ ?_ runs).1
  · rintro state later program ⟨rfl, budget, clock, invocation, short, rfl, rfl⟩
    exact ⟨Moves.idle, meets_launch budget clock short⟩
  · rintro state later ⟨added, grown, apart⟩
    exact Moves.foreign grown apart
  · intro program member
    exact absurd member List.not_mem_nil

/-- The run lemma. -/
theorem Reaches.accounted (reaches : Reaches Invocation.Short budgetId world) :
    Accounted budgetId world := by
  have moves := reaches.moves
  clear reaches
  induction moves with
  | refl => exact accounted_empty budgetId
  | tail _ last ih => exact ih.moves last

end Systems

/-! ## Replayed ledgers -/

/-- The label of a row. -/
def rowLabel (row : Envelope π) : Option (String × String) :=
  (budgetEvent? row).bind BudgetEvent.label

/-- A bill of the rows that is new exceeds what is left of the estimate of its
request. -/
def Overbilled (environment : String) (rows : List (Envelope π)) : Prop :=
  ∃ before row after ledger event invocation, rows = before ++ row :: after ∧
    replayEvents environment before = .ok ledger ∧ budgetEvent? row = some event ∧
      PresentedLedger.callOf event = some invocation ∧ ¬ ledger.ledger.BilledWithin invocation

/-- What a journal keeps of a budget. -/
structure Booked (budgetId : String) (journal : Journal π κ) : Prop where
  /-- The committed rows are accepted by a replay. -/
  replays : rowsOf budgetId journal ≠ [] →
    ∃ environment ledger, replayEvents environment (rowsOf budgetId journal) = .ok ledger
  /-- An action with its identity labels at most one row. -/
  single : ((rowsOf budgetId journal).filterMap rowLabel).Nodup
  /-- The ceiling holds unless a bill exceeded an estimate. -/
  within : ∀ environment ledger,
    replayEvents environment (rowsOf budgetId journal) = .ok ledger →
      ledger.ledger.exposure ≤ ledger.ledger.ceiling.toRat ∨
        Overbilled environment (rowsOf budgetId journal)

theorem Sound.single {journal : Journal π κ} (sound : Sound budgetId journal) :
    ((rowsOf budgetId journal).filterMap rowLabel).Nodup := by
  have distinct : (rowsOf budgetId journal).Pairwise fun left right =>
      left.eventId ≠ right.eventId :=
    List.pairwise_map.mp (journal.distinct.sublist (List.filter_sublist.map Envelope.eventId))
  rw [List.Nodup, List.pairwise_filterMap]
  apply distinct.imp_of_mem
  intro left right leftMember rightMember different label leftLabel other rightLabel same
  obtain ⟨leftEvent, leftKind⟩ := sound.identified left leftMember
  obtain ⟨rightEvent, rightKind⟩ := sound.identified right rightMember
  rw [rowLabel, leftKind.carried] at leftLabel
  rw [rowLabel, rightKind.carried] at rightLabel
  apply different
  rw [leftKind.identity label leftLabel, rightKind.identity other rightLabel, same]

/-- An event leaves the ceiling respected, unless it is a bill above its
estimate. -/
theorem PresentedLedger.apply_within {ledger following : PresentedLedger} {event : BudgetEvent}
    (within : ledger.ledger.Within) (applied : ledger.apply event = .ok following)
    (limited : ∀ invocation, callOf event = some invocation →
      ledger.ledger.BilledWithin invocation) : following.ledger.Within := by
  have performed := apply_ledger applied
  cases invoked : callOf event with
  | none =>
      rw [invoked] at performed
      rw [show following = ledger from performed]
      exact within
  | some invocation =>
      rw [invoked] at performed
      have step := within.call (limited invocation invoked)
      rw [BudgetLedger.call, performed] at step
      exact step

theorem PresentedLedger.within_init {ceiling : PresentedInput} {ledger : PresentedLedger}
    (created : init ceiling = .ok ledger) : ledger.ledger.Within := by
  simp only [init, bind_eq_ok, pure_eq_ok] at created
  obtain ⟨inner, created, rfl⟩ := created
  exact BudgetLedger.within_init created

/-- The first row of an accepted sequence initializes the budget. -/
theorem replayEvents_head {environment : String} {row : Envelope π} {rest : List (Envelope π)}
    {ledger : PresentedLedger} (replayed : replayEvents environment (row :: rest) = .ok ledger) :
    ∃ ceiling durable initial, budgetEvent? row = some (.initialized ceiling (some durable)) ∧
      PresentedLedger.init (.text ceiling) = .ok initial ∧
      initial.applyAll (budgetEvents rest) = .ok ledger := by
  obtain ⟨initial, created, applied⟩ := replayEvents_eq_ok replayed
  obtain ⟨ceiling, durable, first, -, created⟩ := initialLedger_eq_ok created
  have carried : budgetEvent? row = some (.initialized ceiling (some durable)) := first
  refine ⟨ceiling, durable, initial, carried, created, ?_⟩
  rw [budgetEvents, List.filterMap_cons_some carried, PresentedLedger.applyAll,
    List.foldlM_cons] at applied
  exact applied

theorem Overbilled.append {environment : String} {rows : List (Envelope π)}
    (overbilled : Overbilled environment rows) (added : List (Envelope π)) :
    Overbilled environment (rows ++ added) := by
  obtain ⟨before, row, after, ledger, event, invocation, rfl, rest⟩ := overbilled
  refine ⟨before, row, after ++ added, ledger, event, invocation, ?_, rest⟩
  rw [List.append_assoc, List.cons_append]

/-- The run lemma of the ceiling; the induction takes the last row away. -/
theorem within_replayEvents {environment : String} (rows : List (Envelope π))
    {ledger : PresentedLedger} (replayed : replayEvents environment rows = .ok ledger)
    (limited : ¬ Overbilled environment rows) : ledger.ledger.Within := by
  induction rows using List.reverseRecOn generalizing ledger with
  | nil => cases replayed
  | append_singleton rows row ih =>
      by_cases empty : rows = []
      · rw [empty] at replayed
        obtain ⟨ceiling, durable, initial, -, created, applied⟩ := replayEvents_head replayed
        cases applied
        exact PresentedLedger.within_init created
      · obtain ⟨earlier, before, applied⟩ := exists_replayEvents_of_append empty replayed
        have within := ih before fun overbilled => limited (overbilled.append [row])
        cases carried : budgetEvent? row with
        | none =>
            rw [budgetEvents, List.filterMap_cons_none carried] at applied
            cases applied
            exact within
        | some event =>
            rw [budgetEvents, List.filterMap_cons_some carried, PresentedLedger.applyAll,
              List.foldlM_cons, bind_eq_ok] at applied
            obtain ⟨following, applied, same⟩ := applied
            cases same
            apply PresentedLedger.apply_within within applied
            intro invocation invoked
            by_contra exceeded
            exact limited
              ⟨rows, row, [], earlier, event, invocation, rfl, before, carried, invoked, exceeded⟩

theorem Sound.booked {journal : Journal π κ} (sound : Sound budgetId journal) :
    Booked budgetId journal where
  replays := sound.replays
  single := sound.single
  within := by
    intro environment ledger replayed
    by_cases limited : Overbilled environment (rowsOf budgetId journal)
    · exact .inr limited
    · exact .inl (within_replayEvents _ replayed limited).ceiling

/-- A budget is not overbooked and its history replays, in every interleaving of
calls whose amounts have short texts. -/
theorem never_overbooked [DecidableEq π] [DecidableEq κ] [Carries BudgetCommand κ]
    (reaches : Reaches Invocation.Short budgetId world) : Booked budgetId world.journal :=
  reaches.accounted.sound.booked

/-! ## Backed answers -/

/-- The journal of an answer replays to a ledger where the request holds exactly
what the answer claims, or is settled. -/
def Holds (budgetId : String) (journal : Journal π κ) (entry : Answer) : Prop :=
  ∃ environment ledger, replayEvents environment (rowsOf budgetId journal) = .ok ledger ∧
    (ledger.ledger.reserved.get? entry.claim.1 = some entry.claim.2 ∨
      entry.claim.1 ∈ ledger.ledger.settledRequests)

/-- A release of the request follows the reservation that an answer claims. -/
def ReleasedSince (budgetId : String) (journal : Journal π κ) (entry : Answer) : Prop :=
  ∃ before row after event, rowsOf budgetId journal = before ++ row :: after ∧
    budgetEvent? row = some event ∧ Reserves event entry.claim.1 entry.claim.2 ∧
      ∃ later ∈ after, ∃ released, budgetEvent? later = some released ∧
        PresentedLedger.Releases released entry.claim.1

theorem PresentedLedger.Agrees.held {ledger following : PresentedLedger} {requestId : String}
    {input : PresentedInput} {cost : Decimal} (agrees : ledger.Agrees)
    (reserved : ledger.reserve requestId input = .ok following)
    (value : exactDecimal input.toInput "reservation" = .ok cost) :
    ∃ amount, following.amounts.get? (strip requestId) = some amount ∧ amount.value = cost := by
  have holds : following.ledger.reserved.get? (strip requestId) = some cost := by
    obtain ⟨parsed, same, -, ⟨found, kept⟩ | ⟨-, -, kept⟩⟩ :=
      BudgetLedger.reserve_cases (reserve_ledger reserved)
    · rw [value, Except.ok.injEq] at same
      rw [kept, found, same]
    · rw [value, Except.ok.injEq] at same
      rw [kept, Dict.get?_set_self, same]
  rw [agrees.reserve reserved] at holds
  exact Option.map_eq_some_iff.mp holds

/-- What a row that reserves a request does to the ledger. -/
theorem Identified.held {row : Envelope π} {event : BudgetEvent} {requestId : String}
    {cost : Decimal} (identified : Identified budgetId row event) (normal : Normal requestId)
    (reserves : Reserves event requestId cost) {ledger following : PresentedLedger}
    (agrees : ledger.Agrees) (applied : ledger.apply event = .ok following) :
    ∃ amount, following.amounts.get? requestId = some amount ∧ amount.value = cost := by
  cases event with
  | costReserved named shown =>
      obtain ⟨rfl, value⟩ := reserves
      have held := agrees.held applied value
      rwa [normal.1] at held
  | routeReserved payload =>
      obtain ⟨asked, value⟩ := reserves
      have held := agrees.held applied value
      rwa [← identified.wellformed.routed payload rfl, asked, normal.1] at held
  | _ => cases reserves

/-- A backed answer is held, settled or released since. -/
theorem Sound.backed {journal : Journal π κ} {entry : Answer} (sound : Sound budgetId journal)
    (backed : Backed budgetId journal entry) :
    Holds budgetId journal entry ∨ ReleasedSince budgetId journal entry := by
  obtain ⟨normal, row, member, event, carried, reserves⟩ := backed
  obtain ⟨identifiedEvent, identified⟩ := sound.identified row member
  obtain rfl : identifiedEvent = event :=
    Option.some.inj (identified.carried.symm.trans carried)
  obtain ⟨environment, ledger, replayed⟩ := sound.replays (List.ne_nil_of_mem member)
  obtain ⟨before, after, split⟩ := List.append_of_mem member
  have whole := replayed
  rw [split] at whole
  -- the first row initializes the budget, so rows stand before a reservation
  have nonempty : before ≠ [] := by
    intro empty
    rw [empty] at whole
    obtain ⟨_, _, _, first, -, -⟩ := replayEvents_head whole
    rw [carried, Option.some.injEq] at first
    rw [first] at reserves
    exact reserves
  obtain ⟨earlier, prior, applied⟩ := exists_replayEvents_of_append nonempty whole
  rw [budgetEvents, List.filterMap_cons_some carried, PresentedLedger.applyAll,
    List.foldlM_cons, bind_eq_ok] at applied
  obtain ⟨middle, applied, rest⟩ := applied
  have agrees := agrees_replayEvents prior
  obtain ⟨amount, held, value⟩ := identified.held normal reserves agrees applied
  rcases PresentedLedger.applyAll_held rest held with kept | settled | ⟨other, listed, releases⟩
  · refine .inl ⟨environment, ledger, replayed, .inl ?_⟩
    rw [agrees_replayEvents replayed, kept, Option.map_some, value]
  · exact .inl ⟨environment, ledger, replayed, .inr settled⟩
  · obtain ⟨later, stands, released⟩ := List.mem_filterMap.mp listed
    exact .inr ⟨before, row, after, _, split, carried, reserves, later, stands, other, released,
      releases⟩

/-- An admitted route and a reservation are backed by the journal at the moment
of their answer, unless the request was released since it was reserved. -/
theorem admission_backed [DecidableEq π] [DecidableEq κ] [Carries BudgetCommand κ]
    (reaches : Reaches Invocation.Short budgetId world) (entry : Answer) (journal : Journal π κ)
    (answered : (entry, journal) ∈ world.answers) :
    Holds budgetId journal entry ∨ ReleasedSince budgetId journal entry := by
  obtain ⟨sound, backed⟩ := reaches.accounted.answers entry journal answered
  exact sound.backed backed

/-! ## Ceilings that are not read back -/

section Unreadable

variable [DecidableEq π] [DecidableEq κ] [Carries BudgetCommand κ] {α β : Type}

/-- A computation without interference. -/
def alone (computation : Budgeting π κ α) (world : World π κ) :
    World π κ × Except BudgetError α :=
  Program.run computation.run world

theorem alone_ofExcept {result : Except BudgetError α} {value : α} (same : result = .ok value)
    (following : α → Budgeting π κ β) :
    alone (ofExcept result >>= following) world = alone (following value) world := by
  rw [same]
  rfl

theorem alone_ofExcept_fst {result : Except BudgetError α} {following : α → Budgeting π κ β}
    (quiet : ∀ value, (alone (following value) world).1 = world) :
    (alone (ofExcept result >>= following) world).1 = world := by
  cases result with
  | ok value => exact quiet value
  | error error => rfl

theorem alone_events (budget : DurableModelBudget)
    (following : List (Envelope π) → Budgeting π κ β) :
    alone (budget.events >>= following) world =
      alone (following (rowsOf budget.budgetId world.journal)) world := rfl

theorem alone_replay_fst {budget : DurableModelBudget}
    {following : PresentedLedger → Budgeting π κ β}
    (quiet : ∀ ledger, (alone (following ledger) world).1 = world) :
    (alone (budget.replay >>= following) world).1 = world := by
  have reads : alone (budget.replay >>= following) world =
      alone (ofExcept (replayEvents budget.environment (rowsOf budget.budgetId world.journal)) >>=
        following) world := rfl
  rw [reads]
  exact alone_ofExcept_fst quiet

theorem alone_append {row : Envelope π} {later : World π κ} {result : AppendResult}
    (appended : appendTransaction row world = (later, .ok result))
    (following : Except BudgetError AppendResult → Budgeting π κ β) :
    alone (observe (appendEvent row) >>= following) world =
      alone (following (.ok result)) later := by
  change Program.run (ExceptT.run (following (appendTransaction row world).2))
    (appendTransaction row world).1 = _
  rw [appended]
  rfl

/-- The first row of a journal. -/
theorem appendTransaction_empty (row : Envelope π) (first : row.aggregateVersion = 1) :
    ∃ later : World π κ, ∃ result, appendTransaction row World.empty = (later, .ok result) ∧
      later.journal.events = [row] := by
  have fits : ∃ journal result,
      (Journal.empty : Journal π κ).appendEvent row none = .ok (journal, result) ∧
        journal.events = [row] := by
    unfold Journal.appendEvent
    split
    next existing found => cases found
    next =>
      rw [if_neg (by simp)]
      split
      next => exact ⟨_, _, rfl, rfl⟩
      next other => exact absurd first other
  obtain ⟨journal, result, appended, events⟩ := fits
  unfold appendTransaction
  split
  next other outcome success =>
    obtain ⟨rfl, rfl⟩ := Prod.mk.inj (Except.ok.inj (success.symm.trans appended))
    exact ⟨_, _, rfl, events⟩
  next error failure =>
    cases failure.symm.trans appended

/-- No replay accepts a ceiling that is written in a long text. -/
theorem replayEvents_long {environment : String} {row : Envelope π} {rest : List (Envelope π)}
    {ceiling : Presented} {durable : Option String} {ledger : PresentedLedger}
    (carried : budgetEvent? row = some (.initialized ceiling.text durable))
    (long : ¬ ceiling.Short) : replayEvents environment (row :: rest) ≠ .ok ledger := by
  intro replayed
  obtain ⟨shown, _, initial, first, created, -⟩ := replayEvents_head replayed
  rw [carried, Option.some.injEq, BudgetEvent.initialized.injEq] at first
  rw [← first.1] at created
  simp only [PresentedLedger.init, BudgetLedger.init, bind_eq_ok] at created
  obtain ⟨_, ⟨_, parsed, _⟩, _⟩ := created
  have read := presentBoundedExactDecimal_value (.text ceiling.text) true
  rw [exactDecimal, mapError_eq_ok] at parsed
  rw [parsed] at read
  cases same : presentBoundedExactDecimal (.text ceiling.text) true with
  | error error =>
      rw [same] at read
      cases read
  | ok other => exact Presented.not_short long same

/-- A new budget commits its ceiling before it reads it back. -/
theorem create_commits (ceiling : Presented) {named environment durable : String}
    {clock : Nat → Except BudgetError Instant} {now : Instant} (normal : Normal named)
    (valid : environmentText environment = .ok durable) (nonnegative : 0 ≤ ceiling.value.toRat)
    (ticks : clock 0 = .ok now) :
    ∃ row, (alone (DurableModelBudget.create named environment (.decimal ceiling.tuple)
        clock) (World.empty : World π κ)).1.journal.events = [row] ∧
      row.aggregate = budgetAggregate named ∧
      budgetEvent? row = some (.initialized ceiling.text (some durable)) := by
  have shown : presentDecimal (.decimal ceiling.tuple) "budget ceiling" = .ok ceiling := by
    rw [presentDecimal, mapError_eq_ok]
    exact ceiling.presentTuple_tuple
  have admitted : BudgetLedger.init (PresentedInput.decimal ceiling.tuple).toInput =
      .ok ⟨ceiling.value, ∅, 0, ∅, ∅, ∅⟩ := by
    have parsed : exactDecimal (.decimal ceiling.tuple) "budget ceiling" = .ok ceiling.value :=
      PresentedLedger.presentDecimal_value shown
    rw [BudgetLedger.init, PresentedInput.toInput, parsed, ok_bind]
    exact if_neg (not_lt.mpr nonnegative)
  have name : text named "budget_id" = .ok named := by
    rw [text, normal.1, if_neg normal.2]
  let budget : DurableModelBudget := ⟨named, durable, ceiling⟩
  let row : Envelope π := budget.envelope (.initialized ceiling.text (some durable)) 1
    (eventId named "initialize") now
  obtain ⟨later, result, appended, events⟩ :=
    appendTransaction_empty (κ := κ) row rfl
  refine ⟨row, ?_, rfl, Carries.view_embed _⟩
  unfold DurableModelBudget.create
  rw [alone_ofExcept name, alone_ofExcept valid, alone_ofExcept admitted, alone_ofExcept shown,
    alone_events]
  extract_lets built finish event
  have finishing : (alone (finish ()) later).1 = later := by
    apply alone_replay_fst
    intro rebuilt
    apply alone_ofExcept_fst
    intro snapshot
    split <;> rfl
  have none : rowsOf named (World.empty : World π κ).journal = [] := rfl
  rw [if_pos none, alone_ofExcept ticks, alone_append appended]
  exact (congrArg (fun world => world.journal.events) finishing).trans events

end Unreadable

end Writers

/-! ## Runs of one budget -/

section Sample

attribute [local instance] CaseMap.ascii Fingerprint.plain Carries.self

/-- The shared state of a journal that only budgets write. -/
abbrev SampleWorld : Type := World BudgetEvent BudgetCommand

def sampleClock (_ : Nat) : Except BudgetError Instant := .ok ⟨0⟩

/-- A decimal with 254 digits and a positive exponent. -/
def longCeiling : Presented :=
  ⟨⟨false, (10 ^ 254 - 1) / 9, 1⟩, by decide +kernel, by decide +kernel⟩

theorem longCeiling_not_short : ¬ longCeiling.Short := by
  rw [Presented.Short, Presented.text, String.length_ofList]
  decide +kernel

/-- The creation of a budget with that ceiling. -/
def longCreation : Budgeting BudgetEvent BudgetCommand DurableModelBudget :=
  DurableModelBudget.create "budget" "PAPER" (.decimal longCeiling.tuple) sampleClock

theorem longCreation_commits : ∃ row, (alone longCreation World.empty).1.journal.events = [row] ∧
    row.aggregate = budgetAggregate "budget" ∧
      budgetEvent? row = some (.initialized longCeiling.text (some "PAPER")) := by
  have normal : Normal "budget" := by decide +kernel
  have valid : environmentText "PAPER" = .ok "PAPER" := by decide +kernel
  have nonnegative : 0 ≤ longCeiling.value.toRat := by decide +kernel
  have ticks : sampleClock 0 = .ok ⟨0⟩ := rfl
  unfold longCreation
  exact create_commits longCeiling normal valid nonnegative ticks

theorem longCreation_reached :
    Reaches (fun _ => True) "budget" (alone longCreation World.empty).1 := by
  have created : Reaches (fun _ => True) "budget"
      (((Invocation.create "budget" "PAPER" (.decimal longCeiling.tuple)).launch
        ⟨"budget", "PAPER", longCeiling⟩ sampleClock).run (World.empty : SampleWorld)).1 :=
    Reaches.call ⟨[], .refl⟩ trivial (by decide +kernel)
  rwa [Invocation.launch, detach, Program.run_map] at created

/-- The ceiling is admitted, and the row it is committed in does not replay. -/
theorem long_ceiling_never_replays :
    ¬ ∀ world : SampleWorld, Reaches (fun _ => True) "budget" world →
      Booked "budget" world.journal := by
  intro booked
  obtain ⟨row, events, own, carried⟩ := longCreation_commits
  have rows : rowsOf "budget" (alone longCreation World.empty).1.journal = [row] := by
    rw [rowsOf, Journal.loadEvents, events]
    simp [eventsOf, own]
  have replays := (booked _ longCreation_reached).replays
  rw [rows] at replays
  obtain ⟨environment, ledger, replayed⟩ := replays (List.cons_ne_nil _ _)
  exact replayEvents_long carried longCeiling_not_short replayed

/-- An object of a budget with a ceiling of five. -/
def sampleBudget : DurableModelBudget :=
  ⟨"budget", "PAPER", ⟨⟨false, 5, 0⟩, by decide +kernel, by decide⟩⟩

/-- Calls one after the other. -/
def sampleCalls (calls : List Invocation) : SampleWorld :=
  calls.foldl (fun world call => ((call.launch sampleBudget sampleClock).run world).1) World.empty

theorem sampleCalls_reached {condition : Invocation → Prop} {calls : List Invocation}
    (holds : ∀ call ∈ calls, condition call ∧ call.budgetId sampleBudget = "budget") :
    Reaches condition "budget" (sampleCalls calls) := by
  have run : ∀ world : SampleWorld, Reaches condition "budget" world →
      Reaches condition "budget" (calls.foldl (fun world call =>
        ((call.launch sampleBudget sampleClock).run world).1) world) := by
    induction calls with
    | nil => exact fun _ reached => reached
    | cons call rest ih =>
        rw [List.forall_mem_cons] at holds
        intro world reached
        exact ih holds.2 _ (reached.call holds.1.1 holds.1.2)
  exact run World.empty ⟨[], .refl⟩

/-- A reservation, its release and a retry of the reservation. -/
def retriedCalls : List Invocation :=
  [.create "budget" "PAPER" (.int 5), .reserve "request" (.int 2), .release "request",
    .reserve "request" (.int 2)]

theorem short_five : (PresentedInput.int 5).Short := by
  intro amount shown
  have all : ((presentBoundedExactDecimal (.int 5) true).toOption.all
      fun amount => decide amount.Short) = true := by decide +kernel
  rw [shown] at all
  exact of_decide_eq_true all

theorem retriedCalls_reached :
    Reaches Invocation.Short "budget" (sampleCalls retriedCalls) := by
  apply sampleCalls_reached
  simp only [retriedCalls, List.forall_mem_cons]
  refine ⟨⟨short_five, by decide +kernel⟩, ⟨trivial, rfl⟩, ⟨trivial, rfl⟩, ⟨trivial, rfl⟩, ?_⟩
  intro call member
  cases member

theorem retriedCalls_booked : (rowsOf "budget" (sampleCalls retriedCalls).journal).length = 3 ∧
    Booked "budget" (sampleCalls retriedCalls).journal :=
  ⟨by decide +kernel, never_overbooked retriedCalls_reached⟩

/-- The first reservation is held at its answer. -/
theorem retriedCalls_backed : ∃ entry journal,
    (entry, journal) ∈ (sampleCalls retriedCalls).answers ∧
      (Holds "budget" journal entry ∨ ReleasedSince "budget" journal entry) := by
  have answered : ((sampleCalls retriedCalls).answers[0]?).isSome := by decide +kernel
  obtain ⟨⟨entry, journal⟩, found⟩ := Option.isSome_iff_exists.mp answered
  have member := List.mem_of_getElem? found
  exact ⟨entry, journal, member, admission_backed retriedCalls_reached entry journal member⟩

/-- What the replay of an answer's journal says about its request. -/
def answerState (pair : Answer × Journal BudgetEvent BudgetCommand) :
    Option (Option Decimal × Bool) :=
  ((replayEvents "PAPER" (rowsOf "budget" pair.2)).toOption).map fun ledger =>
    (ledger.ledger.reserved.get? pair.1.claim.1,
      decide (pair.1.claim.1 ∈ ledger.ledger.settledRequests))

/-- The retry returns while nothing is reserved and nothing is settled. -/
theorem retry_is_not_held :
    ¬ ∀ world : SampleWorld, Reaches Invocation.Short "budget" world → ∀ entry journal,
      (entry, journal) ∈ world.answers → Holds "budget" journal entry := by
  intro held
  have state : ((sampleCalls retriedCalls).answers[1]?).map answerState =
      some (some (none, false)) := by decide +kernel
  obtain ⟨⟨entry, journal⟩, found, state⟩ := Option.map_eq_some_iff.mp state
  obtain ⟨ledger, replayed, state⟩ := Option.map_eq_some_iff.mp state
  have success : replayEvents "PAPER" (rowsOf "budget" journal) = .ok ledger := by
    cases result : replayEvents "PAPER" (rowsOf "budget" journal) with
    | error error =>
        rw [result] at replayed
        cases replayed
    | ok other =>
        rw [result] at replayed
        cases replayed
        rfl
  obtain ⟨unreserved, unsettled⟩ := Prod.mk.inj state
  obtain ⟨environment, other, again, holds⟩ :=
    held _ retriedCalls_reached entry journal (List.mem_of_getElem? found)
  obtain rfl := replayEvents_unique success again
  rcases holds with reserved | settled
  · cases unreserved.symm.trans reserved
  · exact of_decide_eq_false unsettled settled

end Sample

end AutoTrade.Budget
