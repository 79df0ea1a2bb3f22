import AutoTrade.Budget.Protocol

/-!
# Budget calls follow the protocol

Every transaction of a call on a model budget is a move of the protocol,
whatever other calls and writers do between its transactions.  Each function has
one lemma that says so and describes what it returns; the commit of a row takes
the move that its caller justifies.
-/

set_option linter.unusedSectionVars false

namespace AutoTrade.Budget

open Lib Numeric Store

variable {π κ : Type} [Carries BudgetEvent π] [Fingerprint] [CaseMap] {budgetId : String}
  {known : World π κ} {α β : Type}

/-- A computation that only makes moves of the protocol, with a postcondition on
what it returns. -/
def Keeps (budgetId : String) (post : World π κ → α → Prop) (computation : Budgeting π κ α)
    (known : World π κ) : Prop :=
  Program.Meets (Moves budgetId) (Program.Returning post) computation.run known

section Rules

variable {post : World π κ → α → Prop}

theorem keeps_pure {value : α} (holds : ∀ world, known ≤ world → post world value) :
    Keeps budgetId post (pure value) known :=
  Program.meets_return holds

theorem keeps_throw {error : BudgetError} :
    Keeps budgetId post (throw error) known :=
  Program.meets_raise

theorem keeps_ofExcept {result : Except BudgetError α}
    (holds : ∀ value, result = .ok value → ∀ world, known ≤ world → post world value) :
    Keeps budgetId post (ofExcept result) known := by
  apply Program.meets_done
  intro world growth
  cases result with
  | ok value => exact holds value rfl world growth
  | error error => trivial

theorem keeps_bind {computation : Budgeting π κ α} {following : α → Budgeting π κ β}
    {final : World π κ → β → Prop} (first : Keeps budgetId post computation known)
    (returned : ∀ world value, known ≤ world → post world value →
      Keeps budgetId final (following value) world) :
    Keeps budgetId final (computation >>= following) known :=
  Program.Meets.following Moves.grows first returned

/-- A pure computation before the rest. -/
theorem keeps_ofExcept_bind {result : Except BudgetError α} {following : α → Budgeting π κ β}
    {final : World π κ → β → Prop}
    (returned : ∀ value, result = .ok value → Keeps budgetId final (following value) known) :
    Keeps budgetId final (ofExcept result >>= following) known := by
  have computed : Keeps budgetId (fun _ value => result = .ok value) (ofExcept result) known :=
    keeps_ofExcept fun value same _ _ => same
  apply keeps_bind computed
  intro world value growth same
  exact (returned value same).mono growth

/-- A check that raises, and the statements after it. -/
theorem keeps_unless {condition : Prop} [Decidable condition] {error : BudgetError}
    {rest : Unit → Budgeting π κ α}
    (holds : ¬ condition → Keeps budgetId post (rest ()) known) :
    Keeps budgetId post (if condition then throw error >>= rest else rest ()) known := by
  split
  next => exact keeps_throw
  next passed => exact holds passed

theorem keeps_observe {computation : Budgeting π κ α}
    (keeps : Keeps budgetId post computation known) :
    Keeps budgetId (Program.Returning post) (observe computation) known :=
  Program.Meets.map keeps fun _ _ holds => holds

theorem Keeps.forget {computation : Budgeting π κ α}
    (keeps : Keeps budgetId post computation known) :
    Keeps budgetId (fun _ _ => True) computation known := by
  apply Program.Meets.weaken ?_ keeps
  intro world result _
  cases result with
  | ok value => trivial
  | error error => trivial

theorem keeps_readJournal {view : Journal π κ → α}
    (holds : ∀ seen, known ≤ seen → ∀ world, seen ≤ world → post world (view seen.journal)) :
    Keeps budgetId post (readJournal view) known := by
  have reads : Program.Meets (Moves budgetId) (fun world value => post world value)
      (Program.read fun world => view world.journal) known :=
    Program.meets_read (fun _ => Moves.idle) holds
  exact reads.map fun _ _ post => post

end Rules

/-! ## Transactions -/

section Transactions

variable [DecidableEq π] [DecidableEq κ]

/-- A commit returns when its rows are durable. -/
theorem keeps_commitCommand {args : Journal.CommandArgs π κ}
    (inserted : ∀ world next, known ≤ world → Extends world next args.events →
      Moves budgetId world next) :
    Keeps budgetId (fun world _ => ∀ row ∈ args.events, row ∈ world.journal.events)
      (commitCommand args) known := by
  apply Program.meets_atomic
  intro world growth
  unfold commitTransaction
  split
  next journal result success =>
    rcases Journal.commitCommand_cases success with
      ⟨-, rfl, existing, stored, -, -, -, -, batch⟩ | ⟨-, events, commands, -⟩
    · refine ⟨Moves.idle, ?_⟩
      intro later further row member
      rw [← batch] at member
      exact mem_events_of_le further (world.recorded existing stored row member)
    · refine ⟨inserted _ _ growth ⟨events, commands ▸ List.prefix_append _ _, rfl⟩, ?_⟩
      intro later further row member
      apply mem_events_of_le further
      change row ∈ journal.events
      rw [events]
      exact List.mem_append_right _ member
  next => exact ⟨Moves.idle, fun _ _ => trivial⟩

/-- An append returns when its row is durable. -/
theorem keeps_appendEvent {row : Envelope π}
    (inserted : ∀ world next, known ≤ world → Extends world next [row] →
      Moves budgetId world next) :
    Keeps budgetId (fun world _ => row ∈ world.journal.events)
      (appendEvent row : Budgeting π κ AppendResult) known := by
  apply Program.meets_atomic
  intro world growth
  unfold appendTransaction
  split
  next journal result success =>
    rcases Journal.appendEvent_cases success with ⟨-, rfl, stored⟩ | ⟨-, events, commands⟩
    · exact ⟨Moves.idle, fun later further => mem_events_of_le further stored⟩
    · refine ⟨inserted _ _ growth ⟨events, commands ▸ List.prefix_rfl, rfl⟩, ?_⟩
      intro later further
      apply mem_events_of_le further
      change row ∈ journal.events
      rw [events]
      exact List.mem_append_right _ (List.mem_singleton_self row)
  next => exact ⟨Moves.idle, fun _ _ => trivial⟩

/-- An answer that a row of the budget backs. -/
theorem keeps_answer {entry : Answer} (backed : Backed budgetId known.journal entry) :
    Keeps budgetId (fun _ _ => True) (answer entry : Budgeting π κ Unit) known := by
  apply Program.Meets.map ?_ fun _ _ (_ : True) => trivial
  apply Program.meets_atomic
  intro world growth
  refine ⟨Moves.answer rfl rfl ?_, fun _ _ => trivial⟩
  obtain ⟨normal, row, member, reserves⟩ := backed
  exact ⟨normal, row, (rows_grow growth budgetId).subset member, reserves⟩

theorem keeps_getEvent (eventId : String) :
    Keeps budgetId (fun world found => ∀ row ∈ found,
        row ∈ world.journal.events ∧ row.eventId = eventId)
      (DurableModelBudget.getEvent eventId : Budgeting π κ (Option (Envelope π))) known := by
  apply keeps_readJournal
  intro seen growth world further row found
  obtain ⟨member, same⟩ := Journal.mem_of_getEvent found
  exact ⟨mem_events_of_le further member, same⟩

end Transactions

/-! ## Commits -/

namespace DurableModelBudget

variable (budget : DurableModelBudget)

/-- The rows that a read found. -/
def Read (known world : World π κ) (rows : List (Envelope π)) : Prop :=
  ∃ seen, known ≤ seen ∧ seen ≤ world ∧ rows = rowsOf budget.budgetId seen.journal

theorem Read.grow {budget : DurableModelBudget} {world later : World π κ}
    {rows : List (Envelope π)} (read : budget.Read known world rows) (growth : world ≤ later) :
    budget.Read known later rows := by
  obtain ⟨seen, after, before, same⟩ := read
  exact ⟨seen, after, before.trans growth, same⟩

/-- A row at the version after a read follows the rows that were read. -/
theorem Read.unchanged {budget : DurableModelBudget} {world next : World π κ}
    {rows : List (Envelope π)} {row : Envelope π} (read : budget.Read known world rows)
    (grown : Extends world next [row])
    (own : row.aggregate = budgetAggregate budget.budgetId)
    (version : row.aggregateVersion = rows.length + 1) :
    rowsOf budget.budgetId world.journal = rows := by
  obtain ⟨seen, -, before, rfl⟩ := read
  have length := grown.version own
  exact rows_unchanged before (by omega)

/-- The row of a commit at a world that replays to an admitted ledger. -/
structure Admits (commit : Commit) (world next : World π κ) (row : Envelope π)
    (ledger : PresentedLedger) : Prop where
  grown : Extends world next [row]
  own : row.aggregate = budgetAggregate budget.budgetId
  carried : budgetEvent? row = some commit.event
  identity : row.eventId = labelId budget.budgetId (commit.action, commit.identity)
  replayed : replayEvents budget.environment (rowsOf budget.budgetId world.journal) = .ok ledger
  validated : commit.validate ledger = .ok ()

/-- The event of a commit is a row of the budget. -/
def Committed (commit : Commit) (world : World π κ) : Prop :=
  ∃ row ∈ rowsOf budget.budgetId world.journal, budgetEvent? row = some commit.event

theorem Committed.grow {budget : DurableModelBudget} {commit : Commit} {world later : World π κ}
    (committed : budget.Committed commit world) (growth : world ≤ later) :
    budget.Committed commit later := by
  obtain ⟨row, member, carried⟩ := committed
  exact ⟨row, (rows_grow growth _).subset member, carried⟩

/-- A row that was prepared by a commit. -/
structure Prepared (commit : Commit) (key : String) (known world : World π κ)
    (row : Envelope π) : Prop where
  prepared : ∃ rows ledger now, budget.Read known world rows ∧
    replayEvents budget.environment rows = .ok ledger ∧ commit.validate ledger = .ok () ∧
      row = budget.envelope commit.event (rows.length + 1) (eventId budget.budgetId key) now

theorem keeps_events :
    Keeps budget.budgetId (fun world rows => budget.Read known world rows)
      (budget.events : Budgeting π κ (List (Envelope π))) known :=
  keeps_readJournal fun seen growth _ further => ⟨seen, growth, further, rfl⟩

theorem keeps_replay :
    Keeps budget.budgetId (fun world ledger => ∃ rows, budget.Read known world rows ∧
        replayEvents budget.environment rows = .ok ledger)
      (budget.replay : Budgeting π κ PresentedLedger) known := by
  apply keeps_bind budget.keeps_events
  intro world rows growth read
  apply keeps_ofExcept
  intro ledger replayed later further
  exact ⟨rows, read.grow further, replayed⟩

variable {budget} {commit : Commit}

variable [DecidableEq π] [DecidableEq κ] [Carries BudgetCommand κ]

/-- A repetition finds the row of its event and inserts nothing. -/
theorem keeps_replayExistingEvent {key : String} {existing : Envelope π}
    (stored : existing ∈ known.journal.events) :
    Keeps budget.budgetId (fun world _ => budget.Committed commit world)
      (budget.replayExistingEvent commit key existing : Budgeting π κ Bool) known := by
  unfold replayExistingEvent
  apply keeps_unless
  intro conflict
  rw [not_or, not_not, not_not] at conflict
  obtain ⟨own, carried⟩ := conflict
  have committed : budget.Committed commit known :=
    ⟨existing, Journal.mem_loadEvents.mpr ⟨stored, own⟩, carried⟩
  refine keeps_bind (keeps_commitCommand ?_) ?_
  · intro world next growth grown
    exact absurd rfl (grown.fresh existing (mem_events_of_le growth stored))
  · intro world saved growth _
    apply keeps_unless
    intro _
    apply keeps_unless
    intro _
    exact keeps_pure fun later further => committed.grow (growth.trans further)

/-- The row of a commit is validated on the rows that it follows. -/
theorem keeps_prepare {key : String} (clock : Except BudgetError Instant) :
    Keeps budget.budgetId (fun world row => budget.Prepared commit key known world row)
      (budget.prepare commit key clock : Budgeting π κ (Envelope π)) known := by
  unfold prepare
  refine keeps_bind budget.keeps_events ?_
  intro world rows growth read
  apply keeps_ofExcept_bind
  intro ledger replayed
  apply keeps_ofExcept_bind
  intro _ validated
  apply keeps_ofExcept_bind
  intro now _
  apply keeps_pure
  intro later further
  exact ⟨rows, ledger, now, read.grow further, replayed, validated, rfl⟩

/-- A prepared row is inserted on the rows that it was validated on. -/
theorem keeps_insertRow {earlier : World π κ} {row : Envelope π} {key : String}
    (named : eventId budget.budgetId key = labelId budget.budgetId (commit.action, commit.identity))
    (prepared : budget.Prepared commit key earlier known row)
    (admitted : ∀ world next ledger, known ≤ world → budget.Admits commit world next row ledger →
      Moves budget.budgetId world next) :
    Keeps budget.budgetId (fun world _ => budget.Committed commit world)
      (budget.insertRow commit key row : Budgeting π κ Bool) known := by
  obtain ⟨rows, ledger, now, read, replayed, validated, rfl⟩ := prepared
  have carried : budgetEvent? (budget.envelope commit.event (rows.length + 1)
      (eventId budget.budgetId key) now : Envelope π) = some commit.event := by
    rw [budgetEvent?, envelope, Carries.view_embed]
  unfold insertRow
  refine keeps_bind (keeps_commitCommand ?_) ?_
  · intro world next growth grown
    refine admitted world next ledger growth ⟨grown, rfl, carried, named, ?_, validated⟩
    rw [(read.grow growth).unchanged grown rfl rfl]
    exact replayed
  · intro world saved growth stored
    apply keeps_unless
    intro _
    apply keeps_pure
    intro later further
    exact ⟨_, Journal.mem_loadEvents.mpr
      ⟨mem_events_of_le further (stored _ List.mem_cons_self), rfl⟩, carried⟩

/-- A commit takes the move that its caller justifies, or finds its event. -/
theorem keeps_commit (clock : Nat → Except BudgetError Instant) (normal : Normal commit.identity)
    (admitted : ∀ world next row ledger, known ≤ world →
      budget.Admits commit world next row ledger → Moves budget.budgetId world next) :
    Keeps budget.budgetId (fun world _ => budget.Committed commit world)
      (budget.commit commit clock : Budgeting π κ Bool) known := by
  unfold DurableModelBudget.commit
  apply keeps_ofExcept_bind
  intro identity same
  rw [text, normal.1, if_neg normal.2, Except.ok.injEq] at same
  subst same
  refine keeps_bind (keeps_getEvent _) ?_
  intro world found growth stored
  cases found with
  | some existing => exact keeps_replayExistingEvent (stored existing rfl).1
  | none =>
      refine keeps_bind (keeps_prepare (clock 0)) ?_
      intro second row further prepared
      refine keeps_bind (keeps_observe (keeps_insertRow rfl prepared ?_)) ?_
      · intro later next ledger beyond
        exact admitted later next row ledger (growth.trans (further.trans beyond))
      · intro third inserted beyond committed
        cases inserted with
        | ok inserted => exact keeps_pure fun later after => Committed.grow committed after
        | error error =>
            apply keeps_unless
            intro _
            refine keeps_bind (keeps_getEvent _) ?_
            intro fourth found after stored
            cases found with
            | some existing => exact keeps_replayExistingEvent (stored existing rfl).1
            | none =>
                refine keeps_bind (keeps_prepare (clock 1)) ?_
                intro fifth row last prepared
                apply keeps_insertRow rfl prepared
                intro later next ledger final
                exact admitted later next row ledger
                  (growth.trans (further.trans (beyond.trans (after.trans (last.trans final)))))

/-- A commit whose event applies wherever it is validated. -/
structure Applies (commit : Commit) : Prop where
  label : commit.event.label = some (commit.action, commit.identity)
  wellformed : commit.event.Wellformed
  applied : ∀ ledger, commit.validate ledger = .ok () →
    ∃ following, PresentedLedger.apply ledger commit.event = .ok following

theorem Admits.identified {world next : World π κ} {row : Envelope π} {ledger : PresentedLedger}
    (admits : budget.Admits commit world next row ledger)
    (label : commit.event.label = some (commit.action, commit.identity))
    (wellformed : commit.event.Wellformed) :
    Identified budget.budgetId row commit.event where
  carried := admits.carried
  wellformed := wellformed
  identity := by
    intro other same
    rw [label, Option.mem_def, Option.some.injEq] at same
    rw [← same]
    exact admits.identity

theorem keeps_commit_applied (clock : Nat → Except BudgetError Instant)
    (applies : Applies commit) :
    Keeps budget.budgetId (fun world _ => budget.Committed commit world)
      (budget.commit commit clock : Budgeting π κ Bool) known := by
  have normal : Normal commit.identity :=
    applies.wellformed.normal (commit.action, commit.identity) applies.label
  apply keeps_commit clock normal
  intro world next row ledger _ admits
  obtain ⟨following, applied⟩ := applies.applied ledger admits.validated
  exact .append admits.grown admits.own (admits.identified applies.label applies.wellformed)
    admits.replayed applied

/-- A commit whose event id is stored inserts nothing. -/
theorem keeps_commit_stored (clock : Nat → Except BudgetError Instant)
    (normal : Normal commit.identity) {existing : Envelope π}
    (stored : existing ∈ known.journal.events)
    (same : existing.eventId = labelId budget.budgetId (commit.action, commit.identity)) :
    Keeps budget.budgetId (fun world _ => budget.Committed commit world)
      (budget.commit commit clock : Budgeting π κ Bool) known := by
  apply keeps_commit clock normal
  intro world next row ledger growth admits
  exact absurd (same.trans admits.identity.symm)
    (admits.grown.fresh existing (mem_events_of_le growth stored))

/-! ## Calls -/

theorem validateReserve_apply {requestId : String} {amount : Presented} (short : amount.Short)
    {ledger : PresentedLedger} (validated : validateReserve requestId amount ledger = .ok ()) :
    ∃ following, ledger.reserve requestId (.text amount.text) = .ok following := by
  rw [validateReserve, bind_eq_ok] at validated
  obtain ⟨following, reserved, -⟩ := validated
  rw [← PresentedLedger.reserve_congr (present_short short)] at reserved
  exact ⟨following, reserved⟩

theorem text_eq_ok {value name result : String} (success : text value name = .ok result) :
    result = strip value ∧ Normal result := by
  rw [text, guard_eq_ok, Except.ok.injEq] at success
  obtain ⟨nonempty, rfl⟩ := success
  exact ⟨rfl, normal_strip nonempty⟩

theorem wellformed_of_label {event : BudgetEvent} {label : String × String}
    (labelled : event.label = some label) (normal : Normal label.2)
    (plain : ∀ payload, event ≠ .routeReserved payload) : event.Wellformed where
  normal := by
    intro other same
    rw [labelled, Option.mem_def, Option.some.injEq] at same
    rw [← same]
    exact normal
  routed payload same := absurd same (plain payload)

theorem keeps_reserve {requestId : String} {amount : PresentedInput}
    (clock : Nat → Except BudgetError Instant) :
    Keeps budget.budgetId (fun _ _ => True)
      (budget.reserve requestId amount clock : Budgeting π κ Bool) known := by
  unfold DurableModelBudget.reserve
  apply keeps_ofExcept_bind
  intro requestId named
  have normal := (text_eq_ok named).2
  apply keeps_ofExcept_bind
  intro probe _
  apply keeps_ofExcept_bind
  intro probe _
  apply keeps_ofExcept_bind
  intro normalized summed
  have short : normalized.Short :=
    Presented.short_of_exponent (presentSum_exponent (BudgetLedger.exact_eq_ok.mp summed))
  refine keeps_bind (keeps_commit_applied clock {
    label := rfl
    wellformed := wellformed_of_label rfl normal (by simp)
    applied := fun _ validated => validateReserve_apply short validated }) ?_
  intro world inserted growth committed
  obtain ⟨row, member, carried⟩ := committed
  refine keeps_bind (keeps_answer ⟨normal, row, member, _, carried, rfl, ?_⟩) ?_
  · exact exactDecimal_short short _
  · intro _ _ _ _
    exact keeps_pure fun _ _ => trivial

/-- A release of an amount that is not zero found a reservation. -/
theorem held_of_release {requestId : String} (normal : Normal requestId)
    {ledger following : PresentedLedger} {released : Presented}
    (success : ledger.release requestId = .ok (following, released))
    (nonzero : released.value ≠ 0) : ledger.amounts.get? requestId = some released := by
  have shown := (PresentedLedger.release_ledger success).2.2
  rw [normal.1] at shown
  cases found : ledger.amounts.get? requestId with
  | none =>
      rw [shown, found] at nonzero
      exact absurd Presented.value_zero nonzero
  | some amount => rw [shown, found, Option.getD_some]

theorem keeps_release {requestId : String} (clock : Nat → Except BudgetError Instant) :
    Keeps budget.budgetId (fun _ _ => True)
      (budget.release requestId clock : Budgeting π κ Bool) known := by
  unfold DurableModelBudget.release
  apply keeps_ofExcept_bind
  intro requestId named
  have normal := (text_eq_ok named).2
  refine keeps_bind (keeps_getEvent _) ?_
  intro world found growth stored
  cases found with
  | some existing =>
      obtain ⟨member, same⟩ := stored existing rfl
      simp only
      split
      next other shown _ =>
        apply keeps_unless
        intro _
        apply keeps_ofExcept_bind
        intro released _
        apply keeps_unless
        intro _
        apply Keeps.forget
        apply keeps_commit_stored clock ?_ member
        · exact same
        · exact normal
      next => exact keeps_throw
  | none =>
      refine keeps_bind budget.keeps_replay ?_
      intro later ledger further read
      obtain ⟨rows, ⟨seen, _, before, rfl⟩, replayed⟩ := read
      apply keeps_ofExcept_bind
      rintro ⟨following, released⟩ success
      simp only
      split
      next => exact keeps_pure fun _ _ => trivial
      next nonzero =>
        apply Keeps.forget
        apply keeps_commit clock ?_
        rotate_left
        · exact normal
        intro current next row found beyond admits
        have validated := admits.validated
        simp only [releaseCommit, validateRelease, bind_eq_ok] at validated
        obtain ⟨result, possible, -⟩ := validated
        exact .release admits.grown admits.own
          (admits.identified rfl (wellformed_of_label rfl normal (by simp [releaseCommit])))
          (rows_grow (before.trans beyond) _) replayed (held_of_release normal success nonzero)
          admits.replayed ⟨result, possible⟩

theorem normalizedCost_eq_ok {value : PresentedInput} {amount : Presented}
    (success : normalizedCost value = .ok amount) :
    presentBoundedExactDecimal value true = .ok amount := by
  simp only [normalizedCost, bind_eq_ok] at success
  obtain ⟨_, _, success⟩ := success
  exact mapError_eq_ok.mp success

theorem keeps_settle {requestId : String} {incurred estimatedUnbilled : PresentedInput}
    (clock : Nat → Except BudgetError Instant) (incurredShort : incurred.Short)
    (estimatedShort : estimatedUnbilled.Short) :
    Keeps budget.budgetId (fun _ _ => True)
      (budget.settle requestId incurred estimatedUnbilled clock : Budgeting π κ Bool) known := by
  unfold DurableModelBudget.settle
  apply keeps_ofExcept_bind
  intro requestId named
  have normal := (text_eq_ok named).2
  apply keeps_ofExcept_bind
  intro first firstCost
  apply keeps_ofExcept_bind
  intro second secondCost
  have firstShort := incurredShort first (normalizedCost_eq_ok firstCost)
  have secondShort := estimatedShort second (normalizedCost_eq_ok secondCost)
  apply Keeps.forget
  apply keeps_commit_applied clock
  exact {
    label := rfl
    wellformed := wellformed_of_label rfl normal (by simp)
    applied := by
      intro ledger validated
      simp only [bind_eq_ok] at validated
      obtain ⟨following, settled, -⟩ := validated
      rw [← PresentedLedger.settle_congr (present_short firstShort)
        (present_short secondShort)] at settled
      exact ⟨following, settled⟩ }

theorem keeps_reconcileUnbilled {billingId requestId : String} {billed : PresentedInput}
    (clock : Nat → Except BudgetError Instant) (billedShort : billed.Short) :
    Keeps budget.budgetId (fun _ _ => True)
      (budget.reconcileUnbilled billingId requestId billed clock : Budgeting π κ Bool) known := by
  unfold DurableModelBudget.reconcileUnbilled
  apply keeps_ofExcept_bind
  intro billingId named
  have normal := (text_eq_ok named).2
  apply keeps_ofExcept_bind
  intro requestId _
  apply keeps_ofExcept_bind
  intro amount cost
  have short := billedShort amount (normalizedCost_eq_ok cost)
  apply Keeps.forget
  apply keeps_commit_applied clock
  exact {
    label := rfl
    wellformed := wellformed_of_label rfl normal (by simp)
    applied := by
      intro ledger validated
      simp only [bind_eq_ok] at validated
      obtain ⟨following, reconciled, -⟩ := validated
      rw [← PresentedLedger.reconcileUnbilled_congr (present_short short)] at reconciled
      exact ⟨following, reconciled⟩ }

/-! ## Routes -/

theorem routingInput_requestId {policy : RoutingPolicy} {request : ModelRequest}
    {descriptors : List ModelDescriptor} {context : Option (List (String × String))}
    {input : RoutingInput} (success : routingInput policy request descriptors context = .ok input) :
    input.requestId = request.requestId := by
  simp only [routingInput, bind_eq_ok, pure_eq_ok] at success
  obtain ⟨_, _, rfl⟩ := success
  rfl

/-- A decision that is read back reserves the amount of the payload. -/
theorem decisionFromRoutePayload_cost {payload : RoutePayload} {decision : RouteDecision}
    (success : decisionFromRoutePayload payload = .ok decision) :
    exactDecimal (.text payload.amount) "reservation" = .ok decision.reservedCost.value := by
  unfold decisionFromRoutePayload at success
  extract_lets rest at success
  split at success
  next status _ =>
    simp only [pure_bind, rest, bind_eq_ok] at success
    obtain ⟨amount, shown, success⟩ := success
    replace success := (throw_unless_eq_ok.mp success).2
    simp only [bind_eq_ok] at success
    obtain ⟨modelId, _, providerId, _, success⟩ := success
    have cost : decision.reservedCost = amount := by
      split at success
      next => cases success; rfl
      next =>
        rw [bind_eq_ok] at success
        obtain ⟨revision, _, success⟩ := success
        cases success
        rfl
    rw [cost]
    have parsed : presentDecimal (.text payload.amount) "reservation" = .ok amount :=
      mapError_eq_ok.mpr (mapError_eq_ok.mp shown)
    exact PresentedLedger.presentDecimal_value parsed
  next => cases success

theorem keeps_readmitRoute {request : ModelRequest} {input : RoutingInput}
    {existing : Envelope π} (clock : Nat → Except BudgetError Instant)
    (about : input.requestId = request.requestId) (stored : existing ∈ known.journal.events)
    (same : existing.eventId = labelId budget.budgetId ("route_reserve", request.requestId)) :
    Keeps budget.budgetId (fun _ _ => True)
      (budget.readmitRoute request input existing clock : Budgeting π κ RouteDecision) known := by
  unfold readmitRoute
  split
  next payload _ =>
    apply keeps_unless
    intro conflict
    apply keeps_ofExcept_bind
    intro decision read
    refine keeps_bind (keeps_commit_stored clock ?_ stored ?_) ?_
    · exact request.identified
    · exact same
    · intro world _ growth committed
      obtain ⟨row, member, carried⟩ := committed
      have asked : payload.routingInput.requestId = request.requestId := by
        rw [not_not.mp conflict]
        exact about
      refine keeps_bind (keeps_answer ⟨request.identified, row, member, _, carried, asked, ?_⟩) ?_
      · exact decisionFromRoutePayload_cost read
      · intro _ _ _ _
        exact keeps_pure fun _ _ => trivial
  next => exact keeps_throw

theorem keeps_reserveRoute {request : ModelRequest} {input : RoutingInput}
    {decision : RouteDecision} (clock : Nat → Except BudgetError Instant)
    (about : input.requestId = request.requestId) (short : decision.reservedCost.Short) :
    Keeps budget.budgetId (fun _ _ => True)
      (budget.reserveRoute request input decision clock : Budgeting π κ RouteDecision) known := by
  unfold reserveRoute
  refine keeps_bind (keeps_observe (keeps_commit_applied clock {
    label := rfl
    wellformed := {
      normal := by
        intro label same
        cases same
        exact request.identified
      routed := by
        intro payload same
        cases same
        exact about }
    applied := fun _ validated => validateReserve_apply short validated })) ?_
  intro world inserted growth committed
  cases inserted with
  | error error =>
      simp only
      split
      next => exact keeps_pure fun _ _ => trivial
      next => exact keeps_throw
  | ok inserted =>
      obtain ⟨row, member, carried⟩ := committed
      refine keeps_bind (keeps_answer ⟨request.identified, row, member, _, carried, about, ?_⟩) ?_
      · exact exactDecimal_short short _
      · intro _ _ _ _
        exact keeps_pure fun _ _ => trivial

theorem keeps_admitRoute {policy : RoutingPolicy} {request : ModelRequest}
    {descriptors : List ModelDescriptor} {now : Instant}
    {context : Option (List (String × String))} (clock : Nat → Except BudgetError Instant)
    (short : ∀ descriptor ∈ descriptors, descriptor.estimatedCost.Short) :
    Keeps budget.budgetId (fun _ _ => True)
      (budget.admitRoute policy request descriptors now context clock :
        Budgeting π κ RouteDecision) known := by
  unfold admitRoute
  split
  next => exact keeps_ofExcept fun _ _ _ _ => trivial
  next =>
    apply keeps_ofExcept_bind
    intro input collected
    have about := routingInput_requestId collected
    refine keeps_bind (keeps_getEvent _) ?_
    intro world found growth stored
    cases found with
    | some existing =>
        exact keeps_readmitRoute clock about (stored existing rfl).1 (stored existing rfl).2
    | none =>
        refine keeps_bind budget.keeps_replay ?_
        intro later ledger further _
        apply keeps_ofExcept_bind
        intro snapshot _
        apply keeps_ofExcept_bind
        intro available _
        apply keeps_ofExcept_bind
        intro presented _
        apply keeps_ofExcept_bind
        intro authoritative _
        apply keeps_ofExcept_bind
        intro decision routed
        split
        next => exact keeps_pure fun _ _ => trivial
        next admitted =>
          obtain ⟨descriptor, member, cost⟩ := routeModel_admitted routed (not_not.mp admitted)
          exact keeps_reserveRoute clock about (cost ▸ short descriptor member)

end DurableModelBudget

/-! ## New objects -/

section Creation

theorem environmentText_idem {value environment : String}
    (success : environmentText value = .ok environment) :
    environmentText environment = .ok environment := by
  rw [environmentText] at success
  split at success
  next listed =>
    cases success
    rw [environmentText, strip_upper_strip, CaseMap.upper_upper, if_pos listed]
  next => cases success

/-- A short ceiling that is admitted is the ceiling of its own replay. -/
theorem init_short {ceiling : PresentedInput} {amount : Presented} {ledger : BudgetLedger}
    (admitted : BudgetLedger.init ceiling.toInput = .ok ledger)
    (shown : presentDecimal ceiling "budget ceiling" = .ok amount) (short : amount.Short) :
    PresentedLedger.init (.text amount.text) = .ok ⟨ledger, ∅⟩ := by
  have same : exactDecimal (.text amount.text) "budget ceiling" =
      exactDecimal ceiling.toInput "budget ceiling" := by
    rw [exactDecimal_short short, PresentedLedger.presentDecimal_value shown]
  rw [PresentedLedger.init, BudgetLedger.init]
  change ((exactDecimal (.text amount.text) "budget ceiling" >>= _) >>= _) = _
  rw [same]
  rw [BudgetLedger.init] at admitted
  rw [admitted]
  rfl

theorem initialLedger_initialized {ceiling environment : String} {ledger : PresentedLedger}
    (valid : environmentText environment = .ok environment)
    (created : PresentedLedger.init (.text ceiling) = .ok ledger) :
    initialLedger environment (some (.initialized ceiling (some environment))) = .ok ledger := by
  rw [initialLedger, valid, ok_bind, created]
  exact if_neg (not_not_intro rfl)

/-- An initialization has no label. -/
theorem identified_envelope (budget : DurableModelBudget) (ceiling : String)
    (environment : Option String) (version : Nat) (eventId : String) (now : Instant) :
    Identified budget.budgetId
      (budget.envelope (.initialized ceiling environment) version eventId now : Envelope π)
      (.initialized ceiling environment) where
  carried := Carries.view_embed _
  wellformed := {
    normal := by
      intro label same
      cases same
    routed := by
      intro payload same
      cases same }
  identity := by
    intro label same
    cases same

variable [DecidableEq π] [DecidableEq κ] [Carries BudgetCommand κ]

theorem keeps_create {named environment : String} {ceiling : PresentedInput}
    (clock : Nat → Except BudgetError Instant) (short : ceiling.Short) :
    Keeps (strip named) (fun _ _ => True)
      (DurableModelBudget.create named environment ceiling clock :
        Budgeting π κ DurableModelBudget) known := by
  unfold DurableModelBudget.create
  apply keeps_ofExcept_bind
  intro budgetId same
  obtain ⟨rfl, _⟩ := DurableModelBudget.text_eq_ok same
  apply keeps_ofExcept_bind
  intro environment written
  have valid := environmentText_idem written
  apply keeps_ofExcept_bind
  intro ledger admitted
  apply keeps_ofExcept_bind
  intro amount shown
  have presented := mapError_eq_ok.mp shown
  have created := init_short admitted shown (short amount presented)
  refine keeps_bind (DurableModelBudget.keeps_events ⟨_, _, _⟩) ?_
  intro world rows growth read
  extract_lets built finish event
  have finishing : ∀ later, Keeps (strip named) (fun _ _ => True) (finish ()) later := by
    intro later
    refine keeps_bind (DurableModelBudget.keeps_replay ⟨_, _, _⟩) ?_
    intro _ rebuilt _ _
    apply keeps_ofExcept_bind
    intro snapshot _
    apply keeps_unless
    intro _
    exact keeps_pure fun _ _ => trivial
  split
  next empty =>
    apply keeps_ofExcept_bind
    intro now _
    refine keeps_bind (keeps_observe (keeps_appendEvent ?_)) ?_
    · intro later next further grown
      have first := (read.grow further).unchanged grown rfl (by rw [empty]; rfl)
      exact .found grown rfl (identified_envelope ⟨_, _, _⟩ _ _ _ _ _)
        (first.trans empty) (initialLedger_initialized valid created)
    · intro later appended further _
      cases appended with
      | ok result => exact finishing later
      | error error =>
          refine keeps_bind (keeps_getEvent _) ?_
          intro last found _ _
          cases found with
          | none => exact keeps_throw
          | some concurrent =>
              apply keeps_unless
              intro _
              exact finishing last
  next => exact finishing world

end Creation

end AutoTrade.Budget
