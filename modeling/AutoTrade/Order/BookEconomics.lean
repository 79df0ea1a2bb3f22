import AutoTrade.Order.OrderBook

/-!
# Economics of an order book

Along every run of a book the histories of its orders only grow.  The quantities
of an order are those of its history, the effective fills are the active fills
under distinct executions, and the breached OCO groups only grow.
-/

namespace AutoTrade.Order

open Lib Numeric

namespace OrderBookProjection

/-! ## Runs -/

/-- The orders of a book, each the view of its history that was registered. -/
structure Sound (book : OrderBookProjection) : Prop where
  recorded : ∀ id order, book.orders.get? id = some order → order.Recorded
  identified : ∀ id order, book.orders.get? id = some order →
    book.registeredIdentities.get? id = some order.registrationIdentity

/-- Every order of the first book is in a later state in the second. -/
def Grows (before after : OrderBookProjection) : Prop :=
  ∀ id order, before.orders.get? id = some order →
    ∃ next, after.orders.get? id = some next ∧ order.Grows next

theorem Grows.refl (book : OrderBookProjection) : book.Grows book :=
  fun _ order registered => ⟨order, registered, .refl order⟩

theorem Grows.trans {first second third : OrderBookProjection} (left : first.Grows second)
    (right : second.Grows third) : first.Grows third := by
  intro id order registered
  obtain ⟨middle, found, earlier⟩ := left id order registered
  obtain ⟨next, stored, later⟩ := right id middle found
  exact ⟨next, stored, earlier.trans later⟩

variable {book next : OrderBookProjection}

theorem Sound.checkedOrders (sound : book.Sound) :
    book.checkedOrders = .ok book.orders.entries := by
  rw [OrderBookProjection.checkedOrders, bind_eq_ok]
  refine ⟨(), forM_eq_ok.mpr ?_, rfl⟩
  intro entry member
  have identified := sound.identified entry.1 entry.2 (Dict.mem_entries.mp member)
  rw [assertRegisteredIdentity, if_neg (not_not.mpr identified)]

theorem Sound.insertOrder (sound : book.Sound) {order : OrderProjection}
    (recorded : order.Recorded) : (book.insertOrder order).Sound := by
  constructor
  · intro id other registered
    rw [OrderBookProjection.insertOrder, Dict.get?_set] at registered
    split at registered
    next =>
      cases registered
      exact recorded
    next => exact sound.recorded id other registered
  · intro id other registered
    rw [OrderBookProjection.insertOrder] at registered ⊢
    rw [Dict.get?_set] at registered ⊢
    split at registered
    next same =>
      cases registered
      exact if_pos same
    next different => rw [if_neg different, sound.identified id other registered]

theorem grows_insertOrder {order : OrderProjection}
    (fresh : book.orders.get? order.clientOrderId = none) :
    book.Grows (book.insertOrder order) := by
  intro id other registered
  have different : order.clientOrderId ≠ id := by
    intro same
    rw [← same, fresh] at registered
    cases registered
  refine ⟨other, ?_, .refl other⟩
  rw [insertOrder, Dict.get?_set_of_ne _ _ different, registered]

/-- A registration that returns adds at most the order. -/
theorem register_cases {order : OrderProjection} {held accepted : Bool}
    (success : book.register order held = .ok (next, accepted)) :
    next = book ∨
      book.orders.get? order.clientOrderId = none ∧ next = book.insertOrder order := by
  rw [register, bind_eq_ok] at success
  obtain ⟨_, -, success⟩ := success
  split at success
  next =>
    cases success
    exact .inl rfl
  next =>
    simp only [guard_eq_ok, bind_eq_ok, not_not] at success
    obtain ⟨-, fresh, _, -, equal⟩ := success
    cases equal
    exact .inr ⟨fresh, rfl⟩

variable [CaseMap]

/-- The step lemma. -/
theorem Sound.step (sound : book.Sound) (step : Step book next) :
    next.Sound ∧ book.Grows next := by
  cases step with
  | register reached success =>
      rcases register_cases success with rfl | ⟨fresh, rfl⟩
      · exact ⟨sound, .refl _⟩
      · exact ⟨sound.insertOrder reached.recorded, grows_insertOrder fresh⟩
  | @call clientOrderId order registered invocation =>
      obtain ⟨recorded, grows⟩ := (sound.recorded clientOrderId order registered).step invocation
      refine ⟨⟨?_, ?_⟩, ?_⟩
      · intro id other found
        rw [OrderBookProjection.call, Dict.get?_set] at found
        split at found
        next => cases found; exact recorded
        next => exact sound.recorded id other found
      · intro id other found
        rw [OrderBookProjection.call, Dict.get?_set] at found
        split at found
        next same =>
          cases found
          rw [grows.identity, ← same]
          exact sound.identified clientOrderId order registered
        next => exact sound.identified id other found
      · intro id other found
        rw [OrderBookProjection.call, Dict.get?_set]
        split
        next same =>
          rw [← same, registered] at found
          cases found
          exact ⟨_, rfl, grows⟩
        next => exact ⟨other, found, .refl other⟩

/-- The run lemma. -/
theorem Sound.runs (sound : book.Sound) (runs : Runs book next) :
    next.Sound ∧ book.Grows next := by
  induction runs with
  | refl => exact ⟨sound, .refl book⟩
  | tail _ step ih =>
      obtain ⟨middle, earlier⟩ := ih
      obtain ⟨last, later⟩ := middle.step step
      exact ⟨last, earlier.trans later⟩

theorem Reachable.sound (reached : book.Reachable) : book.Sound := by
  obtain ⟨_, _, _, start, created, runs⟩ := reached
  simp only [create, bind_eq_ok, pure_eq_ok] at created
  obtain ⟨_, _, _, _, _, _, rfl⟩ := created
  refine (Sound.runs ⟨?_, ?_⟩ runs).1 <;> intro id order registered <;> cases registered

end OrderBookProjection

/-! ## Effective fills -/

namespace OrderProjection

theorem mem_activeFills {order : OrderProjection} {fill : FillRecord} :
    fill ∈ order.activeFills ↔ ∃ fillId, order.fills.get? fillId = some fill ∧ fill.active := by
  rw [activeFills, List.mem_filter, Dict.mem_values]
  exact exists_and_right.symm

/-- The active fills of an order have distinct executions. -/
theorem Recorded.nodup_activeFills {order : OrderProjection} (recorded : order.Recorded) :
    (order.activeFills.map FillRecord.providerExecutionId).Nodup := by
  have listed : (order.fills.values.map FillRecord.providerExecutionId).Nodup := by
    rw [Dict.values, List.map_map]
    apply List.Nodup.map_on
    · intro first firstListed second secondListed same
      have firstFound := recorded.mem_history (Dict.mem_entries.mp firstListed)
      have secondFound := recorded.mem_history (Dict.mem_entries.mp secondListed)
      have firstOwner := recorded.executions first.2 firstFound.1
      have secondOwner := recorded.executions second.2 secondFound.1
      rw [Function.comp_apply, Function.comp_apply] at same
      rw [same, secondOwner, Option.some.injEq, firstFound.2, secondFound.2] at firstOwner
      have stored := Dict.mem_entries.mp firstListed
      rw [← firstOwner, Dict.mem_entries.mp secondListed] at stored
      exact Prod.ext firstOwner.symm (Option.some.inj stored).symm
    · exact List.Nodup.of_map _ order.fills.nodup
  exact listed.sublist (List.filter_sublist.map _)

end OrderProjection

namespace OrderBookProjection

/-- Claimed executions belong to the order, and none belonged to another. -/
theorem claimExecutions_eq_ok {registeredId : String} {owners claimed : Dict String String}
    {history : List FillRecord}
    (success : claimExecutions registeredId owners history = .ok claimed) :
    (∀ execution, claimed.get? execution =
      if execution ∈ history.map FillRecord.providerExecutionId then some registeredId
      else owners.get? execution) ∧
    ∀ observation ∈ history, ∀ prior,
      owners.get? observation.providerExecutionId = some prior → prior = registeredId := by
  induction history generalizing owners with
  | nil =>
      rw [claimExecutions, List.foldlM_nil, pure_eq_ok] at success
      subst success
      exact ⟨fun _ => rfl, fun _ member => absurd member List.not_mem_nil⟩
  | cons observation rest ih =>
      rw [claimExecutions, List.foldlM_cons, bind_eq_ok] at success
      obtain ⟨middle, first, tail⟩ := success
      rw [guard_eq_ok] at first
      obtain ⟨free, equal⟩ := first
      cases equal
      obtain ⟨claims, unowned⟩ := ih tail
      have own : ∀ prior, owners.get? observation.providerExecutionId = some prior →
          prior = registeredId := by
        intro prior found
        simpa [found] using free
      constructor
      · intro execution
        rw [claims execution, List.map_cons, Dict.get?_set]
        by_cases later : execution ∈ rest.map FillRecord.providerExecutionId
        · rw [if_pos later, if_pos (List.mem_cons_of_mem _ later)]
        · rw [if_neg later]
          simp only [List.mem_cons, later, or_false, eq_comm (a := execution)]
      · intro other member prior found
        rcases List.mem_cons.mp member with rfl | later
        · exact own prior found
        · by_cases same : observation.providerExecutionId = other.providerExecutionId
          · exact own prior (same ▸ found)
          · apply unowned other later prior
            rw [Dict.get?_set_of_ne _ _ same, found]

/-- What the loop of `effective_fills` maintains before the entries `rest`. -/
structure Gathered (rest : List (String × OrderProjection))
    (gathered : List FillRecord × Dict String String) : Prop where
  distinct : (gathered.1.map FillRecord.providerExecutionId).Nodup
  owned : ∀ fill ∈ gathered.1, ∃ owner,
    gathered.2.get? fill.providerExecutionId = some owner ∧ owner ∉ rest.map Prod.fst

theorem Gathered.step {id : String} {order : OrderProjection}
    {rest : List (String × OrderProjection)} {gathered after : List FillRecord × Dict String String}
    (held : Gathered ((id, order) :: rest) gathered) (recorded : order.Recorded)
    (other : id ∉ rest.map Prod.fst) (success : gatherFills gathered (id, order) = .ok after) :
    after.1 = gathered.1 ++ order.activeFills ∧ Gathered rest after := by
  rw [gatherFills, bind_eq_ok] at success
  obtain ⟨owners, claimed, equal⟩ := success
  cases equal
  obtain ⟨claims, unowned⟩ := claimExecutions_eq_ok claimed
  have observed : ∀ fill ∈ order.activeFills, fill ∈ order.history := by
    intro fill active
    obtain ⟨fillId, found, -⟩ := OrderProjection.mem_activeFills.mp active
    exact (recorded.mem_history found).1
  refine ⟨rfl, ?_, ?_⟩
  · rw [List.map_append, List.nodup_append]
    refine ⟨held.distinct, recorded.nodup_activeFills, ?_⟩
    intro execution earlier execution' later same
    subst same
    obtain ⟨fill, listed, rfl⟩ := List.mem_map.mp earlier
    obtain ⟨owner, found, outside⟩ := held.owned fill listed
    obtain ⟨active, activeListed, shared⟩ := List.mem_map.mp later
    have same := unowned active (observed active activeListed) owner (shared ▸ found)
    exact outside (same ▸ List.mem_cons_self)
  · intro fill member
    rw [claims]
    rcases List.mem_append.mp member with earlier | active
    · obtain ⟨owner, found, outside⟩ := held.owned fill earlier
      split
      · exact ⟨id, rfl, other⟩
      · exact ⟨owner, found, fun later => outside (List.mem_cons_of_mem _ later)⟩
    · rw [if_pos (List.mem_map_of_mem (observed fill active))]
      exact ⟨id, rfl, other⟩

theorem Gathered.run {entries : List (String × OrderProjection)}
    {gathered after : List FillRecord × Dict String String} (held : Gathered entries gathered)
    (recorded : ∀ entry ∈ entries, entry.2.Recorded) (distinct : (entries.map Prod.fst).Nodup)
    (success : entries.foldlM gatherFills gathered = .ok after) :
    after.1 = gathered.1 ++ entries.flatMap (fun entry => entry.2.activeFills) ∧
      (after.1.map FillRecord.providerExecutionId).Nodup := by
  induction entries generalizing gathered with
  | nil =>
      rw [List.foldlM_nil, pure_eq_ok] at success
      subst success
      exact ⟨(List.append_nil _).symm, held.distinct⟩
  | cons entry rest ih =>
      obtain ⟨id, order⟩ := entry
      rw [List.foldlM_cons, bind_eq_ok] at success
      obtain ⟨middle, first, tail⟩ := success
      rw [List.map_cons, List.nodup_cons] at distinct
      rw [List.forall_mem_cons] at recorded
      obtain ⟨appended, maintained⟩ := held.step recorded.1 distinct.1 first
      obtain ⟨total, nodup⟩ := ih maintained recorded.2 distinct.2 tail
      rw [total, appended, List.append_assoc]
      exact ⟨rfl, by rwa [total, appended, List.append_assoc] at nodup⟩

/-- The fill is the latest observation of its fill in a registered order, and active. -/
def ActiveFill (book : OrderBookProjection) (fill : FillRecord) : Prop :=
  ∃ id order, book.orders.get? id = some order ∧
    latestObservation order.history fill.fill = some fill ∧ fill.active

variable {book next : OrderBookProjection}

theorem Sound.effectiveFills (sound : book.Sound) {fills : List FillRecord}
    (success : book.effectiveFills = .ok fills) :
    (fills.map FillRecord.providerExecutionId).Nodup ∧
      ∀ fill, fill ∈ fills ↔ book.ActiveFill fill := by
  rw [OrderBookProjection.effectiveFills, sound.checkedOrders] at success
  simp only [ok_bind, bind_eq_ok, pure_eq_ok] at success
  obtain ⟨gathered, looped, rfl⟩ := success
  have start : Gathered book.orders.entries ([], ∅) :=
    ⟨List.nodup_nil, fun _ member => absurd member List.not_mem_nil⟩
  have recorded : ∀ entry ∈ book.orders.entries, entry.2.Recorded := fun entry member =>
    sound.recorded entry.1 entry.2 (Dict.mem_entries.mp member)
  obtain ⟨total, distinct⟩ := start.run recorded book.orders.nodup looped
  refine ⟨distinct, ?_⟩
  intro fill
  rw [total, List.nil_append, List.mem_flatMap]
  constructor
  · rintro ⟨⟨id, order⟩, listed, active⟩
    obtain ⟨fillId, found, isActive⟩ := OrderProjection.mem_activeFills.mp active
    have known := recorded _ listed
    refine ⟨id, order, Dict.mem_entries.mp listed, ?_, isActive⟩
    rw [(known.mem_history found).2, ← known.current, found]
  · rintro ⟨id, order, registered, latest, isActive⟩
    have known := sound.recorded id order registered
    refine ⟨(id, order), Dict.mem_entries.mpr registered, ?_⟩
    rw [OrderProjection.mem_activeFills]
    exact ⟨fill.fill, (known.current _).trans latest, isActive⟩

/-! ## OCO breaches -/

/-- The order is in the group and its history contains an execution. -/
def Executed (book : OrderBookProjection) (group id : String) : Prop :=
  ∃ order, book.orders.get? id = some order ∧ order.ocoGroupId = some group ∧
    order.historicalExecutionObserved

theorem Executed.grows {group id : String} (executed : book.Executed group id)
    (grows : book.Grows next) : next.Executed group id := by
  obtain ⟨order, registered, grouped, observed⟩ := executed
  obtain ⟨later, stored, growth⟩ := grows id order registered
  refine ⟨later, stored, ?_, ?_⟩
  · rw [← grouped]
    exact congrArg RegistrationIdentity.ocoGroupId growth.identity
  · rw [OrderProjection.historicalExecutionObserved, List.any_eq_true] at observed ⊢
    obtain ⟨observation, member, executes⟩ := observed
    exact ⟨observation, growth.history.subset member, executes⟩

theorem executedGroup_eq_some {entry : String × OrderProjection} {group : String} :
    executedGroup entry = some group ↔
      entry.2.ocoGroupId = some group ∧ entry.2.historicalExecutionObserved := by
  rw [executedGroup]
  split
  next observed => simp [observed]
  next missing => simp [missing]

/-- The orders of a group that were executed, in order of registration. -/
def executedOrders (book : OrderBookProjection) (group : String) : List String :=
  (book.orders.entries.filter fun entry => executedGroup entry = some group).map Prod.fst

theorem mem_executedOrders {group id : String} :
    id ∈ book.executedOrders group ↔ book.Executed group id := by
  rw [executedOrders, List.mem_map]
  constructor
  · intro ⟨⟨id, order⟩, member, equal⟩
    cases equal
    rw [List.mem_filter, decide_eq_true_eq, executedGroup_eq_some] at member
    exact ⟨order, Dict.mem_entries.mp member.1, member.2⟩
  · intro ⟨order, registered, executed⟩
    refine ⟨(id, order), ?_, rfl⟩
    rw [List.mem_filter, decide_eq_true_eq, executedGroup_eq_some]
    exact ⟨Dict.mem_entries.mpr registered, executed⟩

theorem nodup_executedOrders (group : String) : (book.executedOrders group).Nodup :=
  book.orders.nodup.sublist (List.filter_sublist.map Prod.fst)

theorem get?_breachedGroups {group : String} {members : List String} :
    (breachedGroups book.orders.entries).get? group = some members ↔
      1 < (book.executedOrders group).length ∧
        members = (book.executedOrders group).insertionSort (· ≤ ·) := by
  have grouped := Dict.getD_grouped executedGroup book.orders.entries group
  rw [breachedGroups, Dict.get?_mapValues, Dict.get?_filterValues, executedOrders,
    List.length_map, ← grouped]
  cases (Dict.grouped executedGroup book.orders.entries).get? group with
  | none => simp
  | some orders =>
      simp only [Option.filter_some, Option.getD_some, decide_eq_true_eq]
      split
      next several => simp [several, eq_comm]
      next few => simp [few]

theorem Grows.breachedGroups (grows : book.Grows next) {group : String} {members : List String}
    (breached : (breachedGroups book.orders.entries).get? group = some members) :
    ∃ grown, (OrderBookProjection.breachedGroups next.orders.entries).get? group = some grown ∧
      members ⊆ grown := by
  obtain ⟨several, equal⟩ := get?_breachedGroups.mp breached
  have included : book.executedOrders group ⊆ next.executedOrders group := by
    intro id member
    exact mem_executedOrders.mpr ((mem_executedOrders.mp member).grows grows)
  have longer := ((nodup_executedOrders group).subperm included).length_le
  refine ⟨_, get?_breachedGroups.mpr ⟨several.trans_le longer, rfl⟩, ?_⟩
  intro id member
  rw [equal, List.mem_insertionSort] at member
  rw [List.mem_insertionSort]
  exact included member

variable [CaseMap]

/-- The economics of every reachable book are those of its histories, and what
the histories establish is never taken back. -/
theorem economics_of_history (reached : book.Reachable) :
    (∀ id order, book.orders.get? id = some order →
      ((∃ filled, order.filledQuantity = .ok filled) ↔
        Representable (historicalQuantity order.history)) ∧
      (∀ filled, order.filledQuantity = .ok filled →
        filled.toRat = historicalQuantity order.history) ∧
      ∀ filled opened overfilled, order.filledQuantity = .ok filled →
        order.openQuantity = .ok opened → order.overfillQuantity = .ok overfilled →
        opened.toRat - overfilled.toRat = order.requestedQuantity.toRat - filled.toRat ∧
          (opened = 0 ∨ overfilled = 0)) ∧
    (∀ fills, book.effectiveFills = .ok fills →
      (fills.map FillRecord.providerExecutionId).Nodup ∧
        ∀ fill, fill ∈ fills ↔ book.ActiveFill fill) ∧
    ∀ later, Runs book later →
      (∀ id order, book.orders.get? id = some order →
        ∃ next, later.orders.get? id = some next ∧ ∀ observation ∈ order.history,
          next.providerExecutionIds.get? observation.providerExecutionId =
              some observation.fill ∧
            ∀ other ∈ next.history,
              other.providerExecutionId = observation.providerExecutionId →
                other.fill = observation.fill) ∧
      ∃ before after, book.ocoBreaches = .ok before ∧ later.ocoBreaches = .ok after ∧
        ∀ group members, before.get? group = some members →
          ∃ grown, after.get? group = some grown ∧ members ⊆ grown := by
  have sound := reached.sound
  refine ⟨?_, fun fills success => sound.effectiveFills success, ?_⟩
  · intro id order registered
    have recorded := sound.recorded id order registered
    exact ⟨recorded.filledQuantity_returns, fun _ => recorded.filledQuantity.mp,
      fun _ _ _ => recorded.balance⟩
  intro later runs
  obtain ⟨laterSound, grows⟩ := sound.runs runs
  constructor
  · intro id order registered
    obtain ⟨next, stored, growth⟩ := grows id order registered
    refine ⟨next, stored, ?_⟩
    intro observation member
    have recorded := laterSound.recorded id next stored
    have owner := recorded.executions observation (growth.history.subset member)
    refine ⟨owner, ?_⟩
    intro other otherMember same
    have otherOwner := recorded.executions other otherMember
    rw [same, owner, Option.some.injEq] at otherOwner
    exact otherOwner.symm
  · refine ⟨_, _, ?_, ?_, fun group members => grows.breachedGroups⟩
    · rw [ocoBreaches, sound.checkedOrders]
      rfl
    · rw [ocoBreaches, laterSound.checkedOrders]
      rfl

end OrderBookProjection

section Sample

attribute [local instance] CaseMap.ascii

open OrderBookProjection

def sampleBook : OrderBookProjection :=
  (OrderBookProjection.create "alpaca" "account" "PAPER").toOption.get (by decide +kernel)

theorem unfilled_created : (OrderProjection.create "alpaca" "account" "PAPER" "order-1" "ABC" "BUY"
    (.int 10) none none).toOption.isSome = true := by decide +kernel

/-- An order of the book's scope before any call. -/
def unfilledOrder : OrderProjection :=
  (OrderProjection.create "alpaca" "account" "PAPER" "order-1" "ABC" "BUY" (.int 10) none
    none).toOption.get unfilled_created

theorem unfilledOrder_reachable (calls : List Call) : (unfilledOrder.run calls).Reachable := by
  induction calls using List.reverseRecOn with
  | nil => exact .create (eq_ok_get (by decide +kernel))
  | append_singleton earlier invocation ih =>
      rw [OrderProjection.run, List.foldl_append]
      exact ih.step invocation

/-- The book in which the order is registered after some calls. -/
def bookAfter (calls : List Call) : OrderBookProjection :=
  sampleBook.insertOrder (unfilledOrder.run calls)

theorem bookAfter_reachable {calls : List Call}
    (registers : sampleBook.register (unfilledOrder.run calls) false =
      .ok (bookAfter calls, true)) : (bookAfter calls).Reachable :=
  ⟨"alpaca", "account", "PAPER", sampleBook, eq_ok_get (by decide +kernel),
    .single (.register (unfilledOrder_reachable calls) registers)⟩

/-- Overfilled by a correction: twelve filled of ten requested. -/
def overfill : List Call :=
  [.fill (.recordFill "fill-1" "execution-1" (.int 2) (.int 5) none),
    .fill (.correctFill "fill-1" (.int 12) (.int 5) "revision-1" none)]

theorem overfilled_quantity_returns :
    (∃ filled, (unfilledOrder.run overfill).filledQuantity = .ok filled) ↔
      Representable (historicalQuantity (unfilledOrder.run overfill).history) := by
  have reached : (bookAfter overfill).Reachable := bookAfter_reachable (by decide +kernel)
  exact ((economics_of_history reached).1 "order-1" (unfilledOrder.run overfill)
    (by decide +kernel)).1

/-- A fill of a huge quantity and a fill of a tiny one. -/
def extremeFills : List Call :=
  [.fill (.recordFill "fill-1" "execution-1" (.int (10 ^ 200)) (.int 5) none),
    .fill (.recordFill "fill-2" "execution-2" (.decimal ⟨false, 1, -100⟩) (.int 5) none)]

/-- A reachable order whose filled quantity no bounded decimal expresses. -/
theorem filled_quantity_raises :
    ¬ ∀ book : OrderBookProjection, book.Reachable →
      ∀ id order, book.orders.get? id = some order →
        ∃ filled, order.filledQuantity = .ok filled ∧
          filled.toRat = historicalQuantity order.history := by
  intro returns
  have reached : (bookAfter extremeFills).Reachable := bookAfter_reachable (by decide +kernel)
  obtain ⟨filled, success, -⟩ := returns (bookAfter extremeFills) reached "order-1"
    (unfilledOrder.run extremeFills) (by decide +kernel)
  have raised : (unfilledOrder.run extremeFills).filledQuantity.toOption = none := by
    decide +kernel
  rw [success] at raised
  cases raised

end Sample

end AutoTrade.Order
