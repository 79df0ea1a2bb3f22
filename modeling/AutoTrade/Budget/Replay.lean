import AutoTrade.Budget.Conservation
import AutoTrade.Budget.Journal

/-!
# Replays of a model budget

How the replay of a row sequence splits at a row, what one event does to the
ledger of a replay, and why a payload is accepted as its amounts were: an amount
whose text is short is read back as the same decimal.
-/

namespace AutoTrade.Budget

open Lib Numeric Store

/-! ## Amounts and their texts -/

theorem presentDecimal_congr {left right : PresentedInput}
    (same : presentBoundedExactDecimal left true = presentBoundedExactDecimal right true)
    (field : String) : presentDecimal left field = presentDecimal right field := by
  rw [presentDecimal, presentDecimal, same]

theorem exactDecimal_congr {left right : PresentedInput}
    (same : presentBoundedExactDecimal left true = presentBoundedExactDecimal right true)
    (field : String) : exactDecimal left.toInput field = exactDecimal right.toInput field := by
  rw [exactDecimal, exactDecimal, ← presentBoundedExactDecimal_value, same,
    presentBoundedExactDecimal_value]

/-- A short text is read as the decimal it shows. -/
theorem present_short {amount : Presented} (short : amount.Short) :
    presentBoundedExactDecimal (.text amount.text) true =
      presentBoundedExactDecimal (.decimal amount.tuple) true := by
  rw [Presented.present_text short]
  exact amount.presentTuple_tuple.symm

/-- The value of a short text. -/
theorem exactDecimal_short {amount : Presented} (short : amount.Short) (field : String) :
    exactDecimal (.text amount.text) field = .ok amount.value := by
  have value := presentBoundedExactDecimal_value (.text amount.text) true
  rw [Presented.present_text short] at value
  rw [exactDecimal, ← PresentedInput.toInput, ← value]
  rfl

namespace PresentedLedger

variable {ledger next : PresentedLedger}

theorem reserve_congr {left right : PresentedInput}
    (same : presentBoundedExactDecimal left true = presentBoundedExactDecimal right true)
    (requestId : String) : ledger.reserve requestId left = ledger.reserve requestId right := by
  simp only [reserve, BudgetLedger.reserve, exactDecimal_congr same, presentDecimal_congr same]

theorem settle_congr {left right first second : PresentedInput}
    (same : presentBoundedExactDecimal left true = presentBoundedExactDecimal right true)
    (other : presentBoundedExactDecimal first true = presentBoundedExactDecimal second true)
    (requestId : String) :
    ledger.settle requestId left first = ledger.settle requestId right second := by
  simp only [settle, BudgetLedger.settle, exactDecimal_congr same, exactDecimal_congr other]

theorem reconcileUnbilled_congr {left right : PresentedInput}
    (same : presentBoundedExactDecimal left true = presentBoundedExactDecimal right true)
    (billingId requestId : String) :
    ledger.reconcileUnbilled billingId requestId left =
      ledger.reconcileUnbilled billingId requestId right := by
  simp only [reconcileUnbilled, BudgetLedger.reconcileUnbilled, exactDecimal_congr same]

/-! ## One event -/

/-- The call on the ledger that an event makes. -/
def callOf : BudgetEvent → Option BudgetCall
  | .initialized _ _ => none
  | .costReserved requestId amount => some (.reserve requestId (.text amount))
  | .routeReserved payload => some (.reserve payload.requestId (.text payload.amount))
  | .costReleased requestId _ => some (.release requestId)
  | .costSettled requestId incurred estimatedUnbilled =>
      some (.settle requestId (.text incurred) (.text estimatedUnbilled))
  | .unbilledReconciled billingId requestId billed =>
      some (.reconcileUnbilled billingId requestId (.text billed))

theorem reserve_ledger {requestId : String} {amount : PresentedInput}
    (success : ledger.reserve requestId amount = .ok next) :
    ledger.ledger.reserve requestId amount.toInput = .ok next.ledger := by
  simp only [reserve, bind_eq_ok, pure_eq_ok] at success
  obtain ⟨_, reserved, _, -, rfl⟩ := success
  exact reserved

theorem release_ledger {requestId : String} {released : Presented}
    (success : ledger.release requestId = .ok (next, released)) :
    ledger.ledger.perform (.release requestId) = .ok next.ledger ∧
      next.amounts = ledger.amounts.erase (strip requestId) ∧
      released = (ledger.amounts.get? (strip requestId)).getD 0 := by
  simp only [release, bind_eq_ok, pure_eq_ok] at success
  obtain ⟨⟨inner, value⟩, performed, same⟩ := success
  cases same
  refine ⟨?_, rfl, rfl⟩
  rw [BudgetLedger.perform, performed]
  rfl

/-- An event performs its call on the ledger. -/
theorem apply_ledger {event : BudgetEvent} (success : ledger.apply event = .ok next) :
    (callOf event).elim (next = ledger) fun invocation =>
      ledger.ledger.perform invocation = .ok next.ledger := by
  cases event with
  | initialized ceiling environment =>
      cases success
      rfl
  | costReserved requestId amount => exact reserve_ledger success
  | routeReserved payload => exact reserve_ledger success
  | costReleased requestId shown =>
      simp only [apply, bind_eq_ok] at success
      obtain ⟨⟨inner, released⟩, performed, success⟩ := success
      simp only [guard_eq_ok, pure_eq_ok] at success
      obtain ⟨-, rfl⟩ := success
      exact (release_ledger performed).1
  | costSettled requestId incurred estimatedUnbilled =>
      simp only [apply, settle, bind_eq_ok, pure_eq_ok] at success
      obtain ⟨_, settled, rfl⟩ := success
      exact settled
  | unbilledReconciled billingId requestId billed =>
      simp only [apply, reconcileUnbilled, bind_eq_ok, pure_eq_ok] at success
      obtain ⟨_, reconciled, rfl⟩ := success
      exact reconciled

/-- The loop of `_replay_events` on events at their versions. -/
def applyAll (ledger : PresentedLedger) (events : List BudgetEvent) :
    Except BudgetError PresentedLedger :=
  events.foldlM apply ledger

/-! ## Reservations in a run -/

/-- The presentations are those of the reservations. -/
def Agrees (ledger : PresentedLedger) : Prop :=
  ∀ requestId, ledger.ledger.reserved.get? requestId =
    (ledger.amounts.get? requestId).map Presented.value

theorem presentDecimal_value {amount : PresentedInput} {field : String} {presented : Presented}
    (success : presentDecimal amount field = .ok presented) :
    exactDecimal amount.toInput field = .ok presented.value := by
  rw [presentDecimal, mapError_eq_ok] at success
  rw [exactDecimal, ← presentBoundedExactDecimal_value, success]
  rfl

theorem agrees_init {ceiling : PresentedInput} (created : init ceiling = .ok ledger) :
    ledger.Agrees := by
  simp only [init, BudgetLedger.init, bind_eq_ok, guard_eq_ok, pure_eq_ok] at created
  obtain ⟨_, ⟨_, _, _, rfl⟩, rfl⟩ := created
  intro requestId
  rfl

/-- A reservation that is new holds its amount. -/
theorem Agrees.reserve {requestId : String} {amount : PresentedInput} (agrees : ledger.Agrees)
    (success : ledger.reserve requestId amount = .ok next) : next.Agrees := by
  simp only [PresentedLedger.reserve, bind_eq_ok, pure_eq_ok] at success
  obtain ⟨inner, reserved, presented, shown, rfl⟩ := success
  obtain ⟨value, parsed, -, ⟨found, rfl⟩ | ⟨absent, -, rfl⟩⟩ := BudgetLedger.reserve_cases reserved
  · have present : (ledger.amounts.get? (strip requestId)).isSome := by
      rw [← Option.isSome_map, ← agrees, found]
      rfl
    rw [if_pos present]
    exact agrees
  · have fresh : ¬ (ledger.amounts.get? (strip requestId)).isSome := by
      rw [← Option.isSome_map, ← agrees, absent]
      exact Bool.false_ne_true
    rw [presentDecimal_value shown, Except.ok.injEq] at parsed
    subst parsed
    rw [if_neg fresh]
    intro other
    change (ledger.ledger.reserved.set _ _).get? other = _
    rw [Dict.get?_set, Dict.get?_set, agrees other]
    split <;> rfl

theorem Agrees.erase (agrees : ledger.Agrees) {requestId : String}
    (reserved : next.ledger.reserved = ledger.ledger.reserved.erase requestId)
    (amounts : next.amounts = ledger.amounts.erase requestId) : next.Agrees := by
  intro other
  rw [reserved, amounts, Dict.get?_erase, Dict.get?_erase, agrees other]
  split <;> rfl

theorem Agrees.apply {event : BudgetEvent} (agrees : ledger.Agrees)
    (success : ledger.apply event = .ok next) : next.Agrees := by
  cases event with
  | initialized ceiling environment =>
      cases success
      exact agrees
  | costReserved requestId amount => exact agrees.reserve success
  | routeReserved payload => exact agrees.reserve success
  | costReleased requestId shown =>
      simp only [PresentedLedger.apply, bind_eq_ok] at success
      obtain ⟨⟨inner, released⟩, performed, success⟩ := success
      simp only [guard_eq_ok, pure_eq_ok] at success
      obtain ⟨-, rfl⟩ := success
      obtain ⟨called, amounts, -⟩ := release_ledger performed
      obtain ⟨_, called⟩ := map_fst_eq_ok.mp called
      obtain ⟨_, _, same⟩ := BudgetLedger.release_cases called
      exact agrees.erase (congrArg BudgetLedger.reserved same) amounts
  | costSettled requestId incurred estimatedUnbilled =>
      simp only [PresentedLedger.apply, settle, bind_eq_ok, pure_eq_ok] at success
      obtain ⟨inner, settled, rfl⟩ := success
      obtain ⟨_, _, _, _, _, rfl⟩ := BudgetLedger.settle_eq_ok.mp settled
      exact agrees.erase rfl rfl
  | unbilledReconciled billingId requestId billed =>
      simp only [PresentedLedger.apply, reconcileUnbilled, bind_eq_ok, pure_eq_ok] at success
      obtain ⟨inner, reconciled, rfl⟩ := success
      obtain ⟨_, _, _, ⟨_, rfl⟩ | ⟨_, _, _, _, _, _, rfl⟩⟩ :=
        BudgetLedger.reconcileUnbilled_cases reconciled
      · exact agrees
      · exact agrees

/-- An event that releases a request. -/
def Releases (event : BudgetEvent) (requestId : String) : Prop :=
  ∃ named shown, event = .costReleased named shown ∧ strip named = requestId

/-- A request stays settled. -/
theorem apply_settled {event : BudgetEvent} {requestId : String}
    (success : ledger.apply event = .ok next)
    (settled : requestId ∈ ledger.ledger.settledRequests) :
    requestId ∈ next.ledger.settledRequests := by
  have performed := apply_ledger success
  cases event with
  | initialized ceiling environment =>
      cases success
      exact settled
  | costReserved _ amount | routeReserved payload =>
      obtain ⟨_, _, _, ⟨_, same⟩ | ⟨_, _, same⟩⟩ := BudgetLedger.reserve_cases performed <;>
        rw [same] <;> exact settled
  | costReleased _ shown =>
      obtain ⟨_, performed⟩ := map_fst_eq_ok.mp performed
      obtain ⟨_, _, same⟩ := BudgetLedger.release_cases performed
      rw [same]
      exact settled
  | costSettled _ incurred estimatedUnbilled =>
      obtain ⟨_, _, _, _, _, same⟩ := BudgetLedger.settle_eq_ok.mp performed
      rw [same]
      exact Finset.mem_insert_of_mem settled
  | unbilledReconciled billingId _ billed =>
      obtain ⟨_, _, _, ⟨_, same⟩ | ⟨_, _, _, _, _, _, same⟩⟩ :=
        BudgetLedger.reconcileUnbilled_cases performed <;> rw [same] <;> exact settled

/-- A reservation is kept as it is until its request is settled or released. -/
theorem apply_held {event : BudgetEvent} {requestId : String} {amount : Presented}
    (success : ledger.apply event = .ok next)
    (held : ledger.amounts.get? requestId = some amount) :
    next.amounts.get? requestId = some amount ∨
      requestId ∈ next.ledger.settledRequests ∨ Releases event requestId := by
  have reserving : ∀ {named : String} {input : PresentedInput},
      ledger.reserve named input = .ok next → next.amounts.get? requestId = some amount := by
    intro named input reserved
    simp only [reserve, bind_eq_ok, pure_eq_ok] at reserved
    obtain ⟨_, _, presented, _, rfl⟩ := reserved
    change (if _ then _ else _ : Dict String Presented).get? requestId = _
    split
    next => exact held
    next fresh =>
      rw [Dict.get?_set_of_ne _ _ ?_, held]
      intro same
      rw [same, held] at fresh
      exact fresh rfl
  cases event with
  | initialized ceiling environment =>
      cases success
      exact .inl held
  | costReserved _ shown => exact .inl (reserving success)
  | routeReserved payload => exact .inl (reserving success)
  | costReleased named shown =>
      by_cases same : strip named = requestId
      · exact .inr (.inr ⟨named, shown, rfl, same⟩)
      simp only [apply, bind_eq_ok] at success
      obtain ⟨⟨inner, released⟩, performed, success⟩ := success
      simp only [guard_eq_ok, pure_eq_ok] at success
      obtain ⟨-, rfl⟩ := success
      rw [(release_ledger performed).2.1, Dict.get?_erase_of_ne _ same]
      exact .inl held
  | costSettled named incurred estimatedUnbilled =>
      simp only [apply, settle, bind_eq_ok, pure_eq_ok] at success
      obtain ⟨inner, settled, rfl⟩ := success
      by_cases same : strip named = requestId
      · obtain ⟨_, _, _, _, _, rfl⟩ := BudgetLedger.settle_eq_ok.mp settled
        rw [← same]
        exact .inr (.inl (Finset.mem_insert_self _ _))
      · rw [Dict.get?_erase_of_ne _ same]
        exact .inl held
  | unbilledReconciled billingId named billed =>
      simp only [apply, reconcileUnbilled, bind_eq_ok, pure_eq_ok] at success
      obtain ⟨inner, _, rfl⟩ := success
      exact .inl held

/-- The run lemma of `apply_settled`. -/
theorem applyAll_settled {events : List BudgetEvent} {requestId : String}
    (success : ledger.applyAll events = .ok next)
    (settled : requestId ∈ ledger.ledger.settledRequests) :
    requestId ∈ next.ledger.settledRequests :=
  foldlM_invariant (fun ledger => requestId ∈ ledger.ledger.settledRequests)
    (fun _ _ _ _ settled applied => apply_settled applied settled) settled success

/-- The run lemma of `Agrees`. -/
theorem Agrees.applyAll {events : List BudgetEvent} (agrees : ledger.Agrees)
    (success : ledger.applyAll events = .ok next) : next.Agrees :=
  foldlM_invariant Agrees (fun _ _ _ _ agrees applied => agrees.apply applied) agrees success

/-- The run lemma of `apply_held`. -/
theorem applyAll_held {events : List BudgetEvent} {requestId : String} {amount : Presented}
    (success : ledger.applyAll events = .ok next)
    (held : ledger.amounts.get? requestId = some amount) :
    next.amounts.get? requestId = some amount ∨
      requestId ∈ next.ledger.settledRequests ∨ ∃ event ∈ events, Releases event requestId := by
  induction events generalizing ledger with
  | nil =>
      cases success
      exact .inl held
  | cons event rest ih =>
      rw [applyAll, List.foldlM_cons, bind_eq_ok] at success
      obtain ⟨middle, applied, success⟩ := success
      rcases apply_held applied held with kept | settled | released
      · rcases ih success kept with kept | settled | ⟨other, member, released⟩
        · exact .inl kept
        · exact .inr (.inl settled)
        · exact .inr (.inr ⟨other, List.mem_cons_of_mem event member, released⟩)
      · exact .inr (.inl (applyAll_settled success settled))
      · exact .inr (.inr ⟨event, List.mem_cons_self, released⟩)

end PresentedLedger

/-! ## Rows -/

section Rows

variable {π : Type} [Carries BudgetEvent π]

/-- The events of rows. -/
def budgetEvents (rows : List (Envelope π)) : List BudgetEvent := rows.filterMap budgetEvent?

theorem replayStep_eq_ok {ledger next : PresentedLedger} {row : Envelope π} {version : Nat} :
    replayStep ledger (row, version) = .ok next ↔ row.aggregateVersion = version ∧
      ∃ event, budgetEvent? row = some event ∧ ledger.apply event = .ok next := by
  rw [replayStep, guard_eq_ok, not_not]
  cases budgetEvent? row <;> simp

/-- The loop of a replay applies the events of its rows. -/
theorem applyAll_of_replaySteps {rows : List (Envelope π)} {version : Nat}
    {ledger next : PresentedLedger}
    (success : (rows.zipIdx version).foldlM replayStep ledger = .ok next) :
    ledger.applyAll (budgetEvents rows) = .ok next := by
  induction rows generalizing version ledger with
  | nil => exact success
  | cons row rest ih =>
      rw [List.zipIdx_cons, List.foldlM_cons, bind_eq_ok] at success
      obtain ⟨middle, stepped, success⟩ := success
      obtain ⟨-, event, carried, applied⟩ := replayStep_eq_ok.mp stepped
      rw [budgetEvents, List.filterMap_cons_some carried, PresentedLedger.applyAll,
        List.foldlM_cons, applied]
      exact ih success

variable [CaseMap]

theorem ne_nil_of_replayEvents {environment : String} {rows : List (Envelope π)}
    {ledger : PresentedLedger} (success : replayEvents environment rows = .ok ledger) :
    rows ≠ [] := by
  intro empty
  rw [empty] at success
  cases success

/-- A replay starts with the ledger of its first row. -/
theorem replayEvents_eq_ok {environment : String} {rows : List (Envelope π)}
    {ledger : PresentedLedger} (success : replayEvents environment rows = .ok ledger) :
    ∃ initial, initialLedger environment (rows.head?.bind budgetEvent?) = .ok initial ∧
      initial.applyAll (budgetEvents rows) = .ok ledger := by
  rw [replayEvents, bind_eq_ok] at success
  obtain ⟨initial, created, success⟩ := success
  exact ⟨initial, created, applyAll_of_replaySteps success⟩

theorem initialLedger_eq_ok {environment : String} {event : Option BudgetEvent}
    {ledger : PresentedLedger} (success : initialLedger environment event = .ok ledger) :
    ∃ ceiling durable, event = some (.initialized ceiling (some durable)) ∧
      environmentText durable = .ok environment ∧
      PresentedLedger.init (.text ceiling) = .ok ledger := by
  unfold initialLedger at success
  split at success
  next => cases success
  next ceiling durable =>
    simp only [bind_eq_ok, guard_eq_ok, not_not] at success
    obtain ⟨_, named, rfl, created⟩ := success
    exact ⟨ceiling, durable, rfl, named, created⟩
  next => cases success

/-- The first row of an accepted sequence determines the environment. -/
theorem replayEvents_unique {environment other : String} {rows : List (Envelope π)}
    {ledger replica : PresentedLedger} (success : replayEvents environment rows = .ok ledger)
    (again : replayEvents other rows = .ok replica) : ledger = replica := by
  have place : environment = other := by
    obtain ⟨_, created, -⟩ := replayEvents_eq_ok success
    obtain ⟨_, recreated, -⟩ := replayEvents_eq_ok again
    obtain ⟨_, durable, event, named, -⟩ := initialLedger_eq_ok created
    obtain ⟨_, durable', event', renamed, -⟩ := initialLedger_eq_ok recreated
    rw [event, Option.some.injEq, BudgetEvent.initialized.injEq, Option.some.injEq] at event'
    rw [event'.2, renamed] at named
    exact (Except.ok.inj named).symm
  rw [place, again] at success
  exact (Except.ok.inj success).symm

/-- A replay of more rows continues the replay of the first ones. -/
theorem replayEvents_append {environment : String} {rows : List (Envelope π)}
    (nonempty : rows ≠ []) (added : List (Envelope π)) :
    replayEvents environment (rows ++ added) = (replayEvents environment rows >>= fun ledger =>
      (added.zipIdx (1 + rows.length)).foldlM replayStep ledger) := by
  rw [replayEvents, replayEvents, List.head?_append_of_ne_nil _ nonempty, List.zipIdx_append]
  cases initialLedger environment (rows.head?.bind budgetEvent?) with
  | error error => rfl
  | ok initial =>
      rw [ok_bind, ok_bind, List.foldlM_append]

/-- The first rows of an accepted sequence are accepted. -/
theorem replayEvents_continues {environment : String} {rows added : List (Envelope π)}
    {earlier ledger : PresentedLedger} (before : replayEvents environment rows = .ok earlier)
    (success : replayEvents environment (rows ++ added) = .ok ledger) :
    earlier.applyAll (budgetEvents added) = .ok ledger := by
  rw [replayEvents_append (ne_nil_of_replayEvents before), before, ok_bind] at success
  exact applyAll_of_replaySteps success

theorem exists_replayEvents_of_append {environment : String} {rows added : List (Envelope π)}
    {ledger : PresentedLedger} (nonempty : rows ≠ [])
    (success : replayEvents environment (rows ++ added) = .ok ledger) :
    ∃ earlier, replayEvents environment rows = .ok earlier ∧
      earlier.applyAll (budgetEvents added) = .ok ledger := by
  rw [replayEvents_append nonempty, bind_eq_ok] at success
  obtain ⟨earlier, before, success⟩ := success
  exact ⟨earlier, before, applyAll_of_replaySteps success⟩

/-- A row at the next version whose event applies extends an accepted sequence. -/
theorem replayEvents_concat {environment : String} {rows : List (Envelope π)} {row : Envelope π}
    {event : BudgetEvent} {ledger next : PresentedLedger}
    (before : replayEvents environment rows = .ok ledger)
    (version : row.aggregateVersion = rows.length + 1) (carried : budgetEvent? row = some event)
    (applied : ledger.apply event = .ok next) :
    replayEvents environment (rows ++ [row]) = .ok next := by
  have stepped : replayStep ledger (row, 1 + rows.length) = .ok next :=
    replayStep_eq_ok.mpr ⟨version.trans (Nat.add_comm _ _), event, carried, applied⟩
  rw [replayEvents_append (ne_nil_of_replayEvents before), before, ok_bind, List.zipIdx_singleton,
    List.foldlM_cons, stepped]
  rfl

theorem agrees_replayEvents {environment : String} {rows : List (Envelope π)}
    {ledger : PresentedLedger} (success : replayEvents environment rows = .ok ledger) :
    ledger.Agrees := by
  obtain ⟨initial, created, applied⟩ := replayEvents_eq_ok success
  obtain ⟨ceiling, durable, -, -, created⟩ := initialLedger_eq_ok created
  exact (PresentedLedger.agrees_init created).applyAll applied

end Rows

end AutoTrade.Budget
