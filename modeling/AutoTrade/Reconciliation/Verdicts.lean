import AutoTrade.Reconciliation.Gathering

/-!
# The verdicts of a reconciliation agree

A reconciliation is complete exactly when it blocks nothing, and it blocks a
resource exactly when a discrepancy between the arguments names it.  The
discrepancies are stated on the arguments, apart from the way the verdict
accumulates them.
-/

namespace AutoTrade.Reconciliation

open Lib Numeric

/-! ## Discrepancies -/

/-- Two amount mappings hold different amounts of a key. -/
def AmountsDiffer (ours theirs : AmountItems) (ourName theirName key : String) : Prop :=
  ∃ ourAmounts theirAmounts, amountMap ours ourName = .ok ourAmounts ∧
    amountMap theirs theirName = .ok theirAmounts ∧
    (amountOf theirAmounts key).toRat ≠ (amountOf ourAmounts key).toRat

/-- The amounts of a key are further apart than its tolerance. -/
def BeyondTolerance (tolerance ours theirs : AmountItems)
    (toleranceName ourName theirName key : String) : Prop :=
  ∃ tolerances ourAmounts theirAmounts, amountMap tolerance toleranceName = .ok tolerances ∧
    amountMap ours ourName = .ok ourAmounts ∧ amountMap theirs theirName = .ok theirAmounts ∧
    (amountOf tolerances key).toRat <
      |(amountOf theirAmounts key).toRat - (amountOf ourAmounts key).toRat|

/-- One of the three settlement surfaces holds different amounts of a currency. -/
def SettlementDiffers (items : SettlementItems) (currency : String) : Prop :=
  AmountsDiffer (items.localSettledCash.getD []) (items.providerSettledCash.getD [])
      "local_settled_cash" "provider_settled_cash" currency ∨
    AmountsDiffer (items.localUnsettledReceivable.getD [])
      (items.providerUnsettledReceivable.getD []) "local_unsettled_receivable"
      "provider_unsettled_receivable" currency ∨
    AmountsDiffer (items.localUnsettledPayable.getD [])
      (items.providerUnsettledPayable.getD []) "local_unsettled_payable"
      "provider_unsettled_payable" currency

/-- The activity coverage spans the coverage window. -/
def ActivitiesCovered [IsoFormat] (args : ReconcileArguments) : Prop :=
  ∃ coverage start finish, args.activityCoverage = some coverage ∧
    CoverageWindow args start finish ∧ coverage.surface = "ACTIVITIES" ∧
    coverage.provesCompleteWindow start finish

/-- The discrepancies of the arguments, each with a resource it names. -/
inductive Discrepancy [IsoFormat] (args : ReconcileArguments)
    (resolutions : List SubmissionResolution) : String → Prop where
  | unexpectedExecution {fill : ProviderFillEvidence} : fill ∈ args.providerFills →
      inadmissible fill = false →
      (∀ id ∈ args.localExecutionIds, strip id ≠ fill.providerExecutionId) →
      Discrepancy args resolutions ("INSTRUMENT:" ++ fill.instrument)
  | missingExecution {id : String} : id ∈ args.localExecutionIds →
      (∀ fill ∈ args.providerFills, inadmissible fill = false →
        fill.providerExecutionId ≠ strip id) →
      Discrepancy args resolutions "ACCOUNT"
  | unexpectedOrder {order : ProviderWorkingOrderEvidence} :
      order ∈ args.providerWorkingOrders →
      (∀ id ∈ args.localWorkingClientOrderIds, order.clientOrderId ≠ some (strip id)) →
      Discrepancy args resolutions ("INSTRUMENT:" ++ order.instrument)
  | missingOrder {id : String} : id ∈ args.localWorkingClientOrderIds →
      (∀ order ∈ args.providerWorkingOrders, order.clientOrderId ≠ some (strip id)) →
      Discrepancy args resolutions "ACCOUNT"
  | unexpectedActivity {activity : ProviderActivityEvidence} :
      activity ∈ args.providerActivities →
      (∀ id ∈ args.localProviderActivityIds, strip id ≠ activity.activityId) →
      activity.instrument = none → activity.currency = none →
      Discrepancy args resolutions "ACCOUNT"
  | unexpectedActivityOn {activity : ProviderActivityEvidence} {instrument : String} :
      activity ∈ args.providerActivities →
      (∀ id ∈ args.localProviderActivityIds, strip id ≠ activity.activityId) →
      activity.instrument = some instrument →
      Discrepancy args resolutions ("INSTRUMENT:" ++ instrument)
  | unexpectedActivityIn {activity : ProviderActivityEvidence} {currency : String} :
      activity ∈ args.providerActivities →
      (∀ id ∈ args.localProviderActivityIds, strip id ≠ activity.activityId) →
      activity.currency = some currency →
      Discrepancy args resolutions ("CASH:" ++ currency)
  | missingActivity {id : String} : id ∈ args.localProviderActivityIds →
      (∀ activity ∈ args.providerActivities, activity.activityId ≠ strip id) →
      Discrepancy args resolutions "ACCOUNT"
  | cashDifference {currency : String} :
      BeyondTolerance args.cashTolerance args.localCash args.providerCash "cash_tolerance"
        "local_cash" "provider_cash" currency →
      Discrepancy args resolutions ("CASH:" ++ currency)
  | positionDifference {instrument : String} :
      BeyondTolerance args.positionTolerance args.localPositions args.providerPositions
        "position_tolerance" "local_positions" "provider_positions" instrument →
      Discrepancy args resolutions ("INSTRUMENT:" ++ instrument)
  | settlementDifference {currency : String} : args.settlement.requested →
      args.settlementActivityComplete = some true →
      SettlementDiffers args.settlement currency →
      Discrepancy args resolutions ("CASH:" ++ currency)
  | borrowDifference {resource : String} :
      AmountsDiffer args.localBorrowedResources args.providerBorrowedResources
        "local_borrowed_resources" "provider_borrowed_resources" resource →
      Discrepancy args resolutions resource
  | activeRecall {recalled : String} : recalled ∈ args.activeBorrowRecallResources →
      Discrepancy args resolutions (strip recalled)
  | inadmissibleAccount {fill : ProviderFillEvidence} : fill ∈ args.providerFills →
      inadmissible fill = true →
      Discrepancy args resolutions "ACCOUNT"
  | inadmissibleInstrument {fill : ProviderFillEvidence} : fill ∈ args.providerFills →
      inadmissible fill = true →
      Discrepancy args resolutions ("INSTRUMENT:" ++ fill.instrument)
  | inconsistentSnapshot : ¬ SnapshotConsistent args →
      Discrepancy args resolutions "ACCOUNT"
  | incompletePagination : args.paginationComplete = false →
      Discrepancy args resolutions "ACCOUNT"
  | incompleteCoverage : args.requireActivityReconciliation → ¬ ActivitiesCovered args →
      Discrepancy args resolutions "ACCOUNT"
  | incompleteSettlement : args.settlement.requested →
      args.settlementActivityComplete ≠ some true →
      Discrepancy args resolutions "ACCOUNT"
  | unknownSubmission {resolution : SubmissionResolution} : resolution ∈ resolutions →
      resolution.outcome = .unknown →
      Discrepancy args resolutions "ACCOUNT"

theorem mem_activityResources {activity : ProviderActivityEvidence} {resource : String} :
    resource ∈ activityResources activity ↔
      (activity.instrument = none ∧ activity.currency = none ∧ resource = "ACCOUNT") ∨
      (∃ instrument, activity.instrument = some instrument ∧
        "INSTRUMENT:" ++ instrument = resource) ∨
      ∃ currency, activity.currency = some currency ∧ "CASH:" ++ currency = resource := by
  rw [activityResources]
  cases activity.instrument with
  | none => cases activity.currency <;> simp [eq_comm]
  | some instrument => cases activity.currency <;> simp [eq_comm]

/-- An activity names at least one resource. -/
theorem activityResources_ne_nil (activity : ProviderActivityEvidence) :
    activityResources activity ≠ [] := by
  rw [activityResources]
  cases activity.instrument with
  | none => cases activity.currency <;> simp
  | some instrument => simp

/-! ## The parts of the verdict -/

@[simp] theorem mem_sorted {members : Finset String} {member : String} :
    member ∈ sorted members ↔ member ∈ members :=
  Finset.mem_sort _

@[simp] theorem mem_whenever {condition : Bool} {resources : List String} {resource : String} :
    resource ∈ whenever condition resources ↔ condition = true ∧ resource ∈ resources := by
  cases condition <;> simp [whenever]

@[simp] theorem whenever_eq_nil {condition : Bool} {resources : List String} :
    whenever condition resources = [] ↔ condition = false ∨ resources = [] := by
  cases condition <;> simp [whenever]

/-- The part after the first colon, where the part before it has none. -/
theorem settlementCurrency_append {surface currency : String} (plain : ':' ∉ surface.toList) :
    settlementCurrency (surface ++ ":" ++ currency) = currency := by
  have dropped : (surface ++ ":" ++ currency).toList.dropWhile (· ≠ ':') =
      ':' :: currency.toList := by
    rw [String.toList_append, String.toList_append, List.append_assoc,
      List.dropWhile_append_of_pos]
    · rfl
    · intro character member
      apply decide_eq_true
      intro same
      rw [same] at member
      exact plain member
  rw [settlementCurrency, dropped, List.drop_succ_cons, List.drop_zero, String.ofList_toList]

/-- A plain comparison of two mappings finds the keys they differ in. -/
theorem exists_difference_iff {ours theirs : AmountItems} {ourName theirName : String}
    {ourAmounts theirAmounts : Dict String Decimal} {entries : List (String × Decimal)}
    (oursOk : amountMap ours ourName = .ok ourAmounts)
    (theirsOk : amountMap theirs theirName = .ok theirAmounts)
    (compared : differences nonzeroDifference ourAmounts theirAmounts = .ok entries)
    {key : String} :
    (∃ difference, (key, difference) ∈ entries) ↔
      AmountsDiffer ours theirs ourName theirName key := by
  rw [exists_nonzeroDifference compared]
  constructor
  · intro differ
    exact ⟨ourAmounts, theirAmounts, oursOk, theirsOk, differ⟩
  · rintro ⟨ours', theirs', oursOk', theirsOk', differ⟩
    cases oursOk.symm.trans oursOk'
    cases theirsOk.symm.trans theirsOk'
    exact differ

/-- The currencies of one settlement surface. -/
theorem exists_settlementEntry (surface : String) {entries : List (String × Decimal)}
    {currency : String} (plain : ':' ∉ surface.toList) :
    (∃ entry ∈ entries.map (fun entry => (surface ++ ":" ++ entry.1, entry.2)),
      settlementCurrency entry.1 = currency) ↔
      ∃ difference, (currency, difference) ∈ entries := by
  constructor
  · rintro ⟨entry, member, rfl⟩
    obtain ⟨⟨key, difference⟩, inside, rfl⟩ := List.mem_map.mp member
    rw [settlementCurrency_append plain]
    exact ⟨difference, inside⟩
  · rintro ⟨difference, inside⟩
    use (surface ++ ":" ++ currency, difference)
    constructor
    · exact List.mem_map.mpr ⟨(currency, difference), inside, rfl⟩
    · exact settlementCurrency_append plain

/-- A comparison with tolerances finds the keys that are further apart. -/
theorem exists_beyond_iff {tolerance ours theirs : AmountItems}
    {toleranceName ourName theirName : String}
    {tolerances ourAmounts theirAmounts : Dict String Decimal} {entries : List (String × Decimal)}
    (toleranceOk : amountMap tolerance toleranceName = .ok tolerances)
    (oursOk : amountMap ours ourName = .ok ourAmounts)
    (theirsOk : amountMap theirs theirName = .ok theirAmounts)
    (declared : ¬ tolerances.values.any (· < 0))
    (compared : differences (beyondTolerance tolerances) ourAmounts theirAmounts = .ok entries)
    {key : String} :
    (∃ difference, (key, difference) ∈ entries) ↔
      BeyondTolerance tolerance ours theirs toleranceName ourName theirName key := by
  rw [exists_beyondTolerance declared compared]
  constructor
  · intro beyond
    exact ⟨tolerances, ourAmounts, theirAmounts, toleranceOk, oursOk, theirsOk, beyond⟩
  · rintro ⟨tolerances', ours', theirs', toleranceOk', oursOk', theirsOk', beyond⟩
    cases toleranceOk.symm.trans toleranceOk'
    cases oursOk.symm.trans oursOk'
    cases theirsOk.symm.trans theirsOk'
    exact beyond

/-! ## What the gathered evidence says of the arguments -/

/-- The local identities that the provider does not know. -/
theorem missing_ne_empty {ours theirs : Finset String} {values : List String}
    (known : ∀ {id}, id ∈ ours ↔ ∃ value ∈ values, strip value = id) :
    ours \ theirs ≠ ∅ ↔ ∃ value ∈ values, strip value ∉ theirs := by
  rw [← Finset.nonempty_iff_ne_empty]
  constructor
  · rintro ⟨id, member⟩
    rw [Finset.mem_sdiff, known] at member
    obtain ⟨⟨value, inside, rfl⟩, unknown⟩ := member
    exact ⟨value, inside, unknown⟩
  · rintro ⟨value, inside, unknown⟩
    use strip value
    rw [Finset.mem_sdiff, known]
    exact ⟨⟨value, inside, rfl⟩, unknown⟩

section

variable [CaseMap] [IsoFormat] {args : ReconcileArguments} {gathered : Gathered}

namespace Gathering

/-- The executions that only the provider knows. -/
theorem exists_unexpectedFill (gathering : Gathering args gathered) {resource : String} :
    (∃ fill ∈ gathered.unexpectedFills, "INSTRUMENT:" ++ fill.instrument = resource) ↔
      ∃ fill ∈ args.providerFills, inadmissible fill = false ∧
        (∀ id ∈ args.localExecutionIds, strip id ≠ fill.providerExecutionId) ∧
        "INSTRUMENT:" ++ fill.instrument = resource := by
  rw [gathering.exists_fill _]
  · apply exists_congr
    intro fill
    simp only [Gathered.unexpectedFills, Gathered.admissibleFills, List.mem_filter,
      gathering.mem_localIds, decide_eq_true_eq, Bool.not_eq_true, not_exists, not_and, and_assoc,
      ne_eq]
  · intro left right same
    have instrument : left.instrument = right.instrument :=
      congrArg ProviderFillEvidence.Identity.instrument same
    have execution : left.providerExecutionId = right.providerExecutionId :=
      congrArg ProviderFillEvidence.Identity.providerExecutionId same
    rw [inadmissible_congr same, instrument, execution]

/-- The executions that only the local books know. -/
theorem missingExecutions_ne_empty (gathering : Gathering args gathered) :
    gathered.missingExecutions ≠ ∅ ↔
      ∃ id ∈ args.localExecutionIds, ∀ fill ∈ args.providerFills,
        inadmissible fill = false → fill.providerExecutionId ≠ strip id := by
  have known : ∀ id, id ∈ gathered.providerIds ↔
      ∃ fill ∈ args.providerFills, inadmissible fill = false ∧
        fill.providerExecutionId = id := by
    intro id
    rw [gathering.exists_fill _]
    · simp only [Gathered.providerIds, Gathered.admissibleFills, List.mem_toFinset, List.mem_map,
        List.mem_filter, decide_eq_true_eq, Bool.not_eq_true, and_assoc]
    · intro left right same
      have execution : left.providerExecutionId = right.providerExecutionId :=
        congrArg ProviderFillEvidence.Identity.providerExecutionId same
      rw [inadmissible_congr same, execution]
  rw [Gathered.missingExecutions, missing_ne_empty gathering.mem_localIds]
  simp only [known, not_exists, not_and, ne_eq]

theorem mem_unexpectedOrders (gathering : Gathering args gathered)
    {order : ProviderWorkingOrderEvidence} :
    order ∈ gathered.unexpectedOrders ↔ order ∈ args.providerWorkingOrders ∧
      ∀ id ∈ args.localWorkingClientOrderIds, order.clientOrderId ≠ some (strip id) := by
  rw [Gathered.unexpectedOrders, List.mem_filter, gathering.mem_orders]
  apply and_congr_right
  intro _
  cases order.clientOrderId with
  | none => simp
  | some client =>
      simp only [Option.all_some, gathering.mem_localWorking, decide_eq_true_eq, not_exists,
        not_and, ne_eq, Option.some.injEq]
      constructor
      · intro unknown id member same
        exact unknown id member same.symm
      · intro unknown id member same
        exact unknown id member same.symm

theorem missingWorking_ne_empty (gathering : Gathering args gathered) :
    gathered.missingWorking ≠ ∅ ↔
      ∃ id ∈ args.localWorkingClientOrderIds, ∀ order ∈ args.providerWorkingOrders,
        order.clientOrderId ≠ some (strip id) := by
  have known : ∀ id, id ∈ gathered.workingClientIds ↔
      ∃ order ∈ args.providerWorkingOrders, order.clientOrderId = some id := by
    intro id
    simp only [Gathered.workingClientIds, List.mem_toFinset, List.mem_filterMap,
      gathering.mem_orders]
  rw [Gathered.missingWorking, missing_ne_empty gathering.mem_localWorking]
  simp only [known, not_exists, not_and, ne_eq]

theorem mem_unexpectedActivities (gathering : Gathering args gathered)
    {activity : ProviderActivityEvidence} :
    activity ∈ gathered.unexpectedActivities ↔ activity ∈ args.providerActivities ∧
      ∀ id ∈ args.localProviderActivityIds, strip id ≠ activity.activityId := by
  simp only [Gathered.unexpectedActivities, List.mem_filter, gathering.mem_activities,
    gathering.mem_localActivities, decide_eq_true_eq, not_exists, not_and, ne_eq]

theorem missingActivities_ne_empty (gathering : Gathering args gathered) :
    gathered.missingActivities ≠ ∅ ↔
      ∃ id ∈ args.localProviderActivityIds, ∀ activity ∈ args.providerActivities,
        activity.activityId ≠ strip id := by
  have known : ∀ id, id ∈ gathered.activityIds ↔
      ∃ activity ∈ args.providerActivities, activity.activityId = id := by
    intro id
    simp only [Gathered.activityIds, List.mem_toFinset, List.mem_map, gathering.mem_activities]
  rw [Gathered.missingActivities, missing_ne_empty gathering.mem_localActivities]
  simp only [known, not_exists, not_and, ne_eq]

/-! ### Amounts -/

theorem exists_cashDifference (gathering : Gathering args gathered) {currency : String} :
    (∃ difference, (currency, difference) ∈ gathered.cashDifferences) ↔
      BeyondTolerance args.cashTolerance args.localCash args.providerCash "cash_tolerance"
        "local_cash" "provider_cash" currency := by
  obtain ⟨tolerances, toleranceOk, declared, theirsOk, ours, oursOk, compared⟩ := gathering.cash
  exact exists_beyond_iff toleranceOk oursOk theirsOk declared compared

theorem exists_positionDifference (gathering : Gathering args gathered) {instrument : String} :
    (∃ difference, (instrument, difference) ∈ gathered.positionDifferences) ↔
      BeyondTolerance args.positionTolerance args.localPositions args.providerPositions
        "position_tolerance" "local_positions" "provider_positions" instrument := by
  obtain ⟨tolerances, toleranceOk, declared, theirsOk, ours, oursOk, compared⟩ :=
    gathering.positions
  exact exists_beyond_iff toleranceOk oursOk theirsOk declared compared

theorem exists_borrowDifference (gathering : Gathering args gathered) {resource : String} :
    (∃ difference, (resource, difference) ∈ gathered.borrowDifferences) ↔
      AmountsDiffer args.localBorrowedResources args.providerBorrowedResources
        "local_borrowed_resources" "provider_borrowed_resources" resource := by
  obtain ⟨theirs, theirsOk, ours, oursOk, compared⟩ := gathering.borrow
  exact exists_difference_iff oursOk theirsOk compared

theorem exists_settlementDifference (gathering : Gathering args gathered) {currency : String} :
    (∃ entry ∈ gathered.settlementDifferences, settlementCurrency entry.1 = currency) ↔
      args.settlement.requested ∧ args.settlementActivityComplete = some true ∧
        SettlementDiffers args.settlement currency := by
  obtain ⟨maps, normalized, compared⟩ := gathering.settlement
  simp only [SettlementItems.normalize, bind_eq_ok, throw_unless_eq_ok, pure_eq_ok] at normalized
  obtain ⟨-, -, localSettled, localSettledOk, providerSettled, providerSettledOk,
    localReceivable, localReceivableOk, providerReceivable, providerReceivableOk, localPayable,
    localPayableOk, providerPayable, providerPayableOk, -, rfl⟩ := normalized
  rw [settlementDifferences] at compared
  by_cases wanted : (args.settlement.requested &&
      args.settlementActivityComplete = some true) = true
  · rw [if_neg (not_not.mpr wanted)] at compared
    simp only [bind_eq_ok, pure_eq_ok] at compared
    obtain ⟨settled, settledOk, receivable, receivableOk, payable, payableOk, same⟩ := compared
    rw [← same, SettlementDiffers, ← exists_difference_iff localSettledOk providerSettledOk
      settledOk, ← exists_difference_iff localReceivableOk providerReceivableOk receivableOk,
      ← exists_difference_iff localPayableOk providerPayableOk payableOk,
      ← exists_settlementEntry "SETTLED" (by decide),
      ← exists_settlementEntry "RECEIVABLE" (by decide),
      ← exists_settlementEntry "PAYABLE" (by decide)]
    rw [Bool.and_eq_true, decide_eq_true_eq] at wanted
    simp only [List.mem_append, or_and_right, exists_or, wanted.1, wanted.2, true_and, or_assoc]
    rfl
  · rw [if_pos wanted, pure_eq_ok] at compared
    rw [← compared]
    constructor
    · rintro ⟨entry, member, -⟩
      cases member
    · rintro ⟨requested, complete, -⟩
      exact absurd (by rw [requested, complete]; rfl) wanted

/-! ### Coverage -/

theorem activityCoverageComplete_iff (gathering : Gathering args gathered) :
    gathered.activityCoverageComplete = true ↔
      (args.requireActivityReconciliation → ActivitiesCovered args) := by
  have covered := gathering.activityCoverage
  rw [activityCoverageComplete, guard_eq_ok, pure_eq_ok] at covered
  rw [← covered.2, Bool.or_eq_true, Bool.not_eq_true', ← Bool.not_eq_true, ← imp_iff_not_or]
  apply imp_congr_right
  intro _
  cases present : args.activityCoverage with
  | none =>
      constructor
      · intro proven
        cases proven
      · rintro ⟨coverage, start, finish, found, -⟩
        rw [present] at found
        cases found
  | some coverage =>
      rw [Option.any_some, Bool.and_eq_true, decide_eq_true_eq]
      constructor
      · rintro ⟨surface, proven⟩
        exact ⟨coverage, _, _, present, ⟨gathering.start, gathering.finish⟩, surface, proven⟩
      · rintro ⟨found, start, finish, foundOk, ⟨startOk, finishOk⟩, surface, proven⟩
        cases present.symm.trans foundOk
        cases gathering.start.symm.trans startOk
        cases gathering.finish.symm.trans finishOk
        exact ⟨surface, proven⟩

/-! ## The blocking resources -/

/-- Every blocked resource is named by a discrepancy. -/
theorem discrepancy_of_blocked (gathering : Gathering args gathered) {resource : String}
    (blocked : resource ∈ gathered.blockedResources args) :
    Discrepancy args (gathered.resolutions args) resource := by
  simp only [Gathered.blockedResources, List.mem_append, or_assoc, mem_whenever] at blocked
  rcases blocked with borrow | active | snapshot | pagination | refused | fill | missingFill |
    order | missingOrder | coverage | activity | missingActivity | settlement | settled | cash |
    position | unknown
  · obtain ⟨⟨key, difference⟩, member, rfl⟩ := List.mem_map.mp borrow
    exact .borrowDifference (gathering.exists_borrowDifference.mp ⟨difference, member⟩)
  · obtain ⟨recalled, member, rfl⟩ := (mem_texts gathering.activeRecalls).mp active
    exact .activeRecall member
  · obtain ⟨inconsistent, same⟩ := snapshot
    rw [List.mem_singleton.mp same]
    apply Discrepancy.inconsistentSnapshot
    rw [← gathering.snapshotIsConsistent_iff, Bool.not_eq_true]
    exact (Bool.not_eq_true' _).mp inconsistent
  · obtain ⟨incomplete, same⟩ := pagination
    rw [List.mem_singleton.mp same]
    exact .incompletePagination ((Bool.not_eq_true' _).mp incomplete)
  · obtain ⟨nonempty, member⟩ := refused
    have collected := Collector.collect_collected (fillCollector_lawful gathered.scope)
      gathering.fills
    rcases List.mem_cons.mp member with rfl | instrument
    · obtain ⟨fill, found⟩ := List.exists_mem_of_ne_nil _ (of_decide_eq_true nonempty)
      obtain ⟨kept, refused⟩ := List.mem_filter.mp found
      exact .inadmissibleAccount (collected.subset fill kept) refused
    · obtain ⟨fill, found, named⟩ := List.mem_map.mp instrument
      obtain ⟨kept, refused⟩ := List.mem_filter.mp found
      rw [← named]
      exact .inadmissibleInstrument (collected.subset fill kept) refused
  · obtain ⟨found, member, named⟩ := List.mem_map.mp fill
    obtain ⟨fill, fillMem, admissible, unknown, same⟩ :=
      gathering.exists_unexpectedFill.mp ⟨found, member, named⟩
    rw [← same]
    exact .unexpectedExecution fillMem admissible unknown
  · obtain ⟨missing, same⟩ := missingFill
    rw [List.mem_singleton.mp same]
    obtain ⟨id, member, unknown⟩ :=
      gathering.missingExecutions_ne_empty.mp (of_decide_eq_true missing)
    exact .missingExecution member unknown
  · obtain ⟨order, member, named⟩ := List.mem_map.mp order
    obtain ⟨orderMem, unknown⟩ := gathering.mem_unexpectedOrders.mp member
    rw [← named]
    exact .unexpectedOrder orderMem unknown
  · obtain ⟨missing, same⟩ := missingOrder
    rw [List.mem_singleton.mp same]
    obtain ⟨id, member, unknown⟩ :=
      gathering.missingWorking_ne_empty.mp (of_decide_eq_true missing)
    exact .missingOrder member unknown
  · obtain ⟨incomplete, same⟩ := coverage
    rw [List.mem_singleton.mp same]
    rw [Bool.and_eq_true, Bool.not_eq_true'] at incomplete
    apply Discrepancy.incompleteCoverage incomplete.1
    intro covered
    have complete := gathering.activityCoverageComplete_iff.mpr (fun _ => covered)
    rw [incomplete.2] at complete
    cases complete
  · obtain ⟨activity, member, named⟩ := List.mem_flatMap.mp activity
    obtain ⟨activityMem, unknown⟩ := gathering.mem_unexpectedActivities.mp member
    obtain ⟨general, plain, rfl⟩ | ⟨instrument, some, rfl⟩ | ⟨currency, some, rfl⟩ :=
      mem_activityResources.mp named
    · exact .unexpectedActivity activityMem unknown general plain
    · exact .unexpectedActivityOn activityMem unknown some
    · exact .unexpectedActivityIn activityMem unknown some
  · obtain ⟨missing, same⟩ := missingActivity
    rw [List.mem_singleton.mp same]
    obtain ⟨id, member, unknown⟩ :=
      gathering.missingActivities_ne_empty.mp (of_decide_eq_true missing)
    exact .missingActivity member unknown
  · obtain ⟨incomplete, same⟩ := settlement
    rw [List.mem_singleton.mp same]
    rw [Bool.and_eq_true, decide_eq_true_eq] at incomplete
    exact .incompleteSettlement incomplete.1 incomplete.2
  · obtain ⟨entry, member, named⟩ := List.mem_map.mp settled
    obtain ⟨requested, complete, differs⟩ :=
      gathering.exists_settlementDifference.mp ⟨entry, member, rfl⟩
    rw [← named]
    exact .settlementDifference requested complete differs
  · obtain ⟨⟨currency, difference⟩, member, rfl⟩ := List.mem_map.mp cash
    exact .cashDifference (gathering.exists_cashDifference.mp ⟨difference, member⟩)
  · obtain ⟨⟨instrument, difference⟩, member, rfl⟩ := List.mem_map.mp position
    exact .positionDifference (gathering.exists_positionDifference.mp ⟨difference, member⟩)
  · obtain ⟨undecided, same⟩ := unknown
    rw [List.mem_singleton.mp same]
    obtain ⟨resolution, member, outcome⟩ := List.any_eq_true.mp undecided
    exact .unknownSubmission member (of_decide_eq_true outcome)

/-- A fill of the arguments without authority is seen in the kept fills. -/
theorem exists_inadmissible (gathering : Gathering args gathered) {fill : ProviderFillEvidence}
    (member : fill ∈ args.providerFills) (refused : inadmissible fill = true) :
    ∃ kept ∈ gathered.inadmissibleFills, kept.instrument = fill.instrument := by
  have seen := gathering.exists_fill (fun kept =>
    inadmissible kept = true ∧ kept.instrument = fill.instrument) (by
      intro left right same
      have instrument : left.instrument = right.instrument :=
        congrArg ProviderFillEvidence.Identity.instrument same
      rw [inadmissible_congr same, instrument])
  obtain ⟨kept, keptMem, keptRefused, same⟩ := seen.mp ⟨fill, member, refused, rfl⟩
  exact ⟨kept, List.mem_filter.mpr ⟨keptMem, keptRefused⟩, same⟩

/-- The resources of an unexpected activity. -/
theorem named_of_unexpectedActivity (gathering : Gathering args gathered)
    {activity : ProviderActivityEvidence} {resource : String}
    (member : activity ∈ args.providerActivities)
    (unknown : ∀ id ∈ args.localProviderActivityIds, strip id ≠ activity.activityId)
    (named : (activity.instrument = none ∧ activity.currency = none ∧ resource = "ACCOUNT") ∨
      (∃ instrument, activity.instrument = some instrument ∧
        "INSTRUMENT:" ++ instrument = resource) ∨
      ∃ currency, activity.currency = some currency ∧ "CASH:" ++ currency = resource) :
    resource ∈ gathered.unexpectedActivities.flatMap activityResources := by
  rw [List.mem_flatMap]
  use activity
  constructor
  · exact gathering.mem_unexpectedActivities.mpr ⟨member, unknown⟩
  · exact mem_activityResources.mpr named

/-- Every discrepancy blocks the resource it names. -/
theorem blocked_of_discrepancy (gathering : Gathering args gathered) {resource : String}
    (discrepancy : Discrepancy args (gathered.resolutions args) resource) :
    resource ∈ gathered.blockedResources args := by
  simp only [Gathered.blockedResources, List.mem_append, mem_whenever, or_assoc]
  cases discrepancy with
  | @unexpectedExecution fill member admissible unknown =>
      have part := List.mem_map.mpr (gathering.exists_unexpectedFill.mpr
        ⟨fill, member, admissible, unknown, rfl⟩)
      simp only [part, true_or, or_true]
  | missingExecution member unknown =>
      have part := decide_eq_true
        (gathering.missingExecutions_ne_empty.mpr ⟨_, member, unknown⟩)
      simp only [part, List.mem_singleton, and_self, true_or, or_true]
  | unexpectedOrder member unknown =>
      have part := List.mem_map_of_mem (f := ("INSTRUMENT:" ++ ·.instrument))
        (gathering.mem_unexpectedOrders.mpr ⟨member, unknown⟩)
      simp only [part, true_or, or_true]
  | missingOrder member unknown =>
      have part := decide_eq_true
        (gathering.missingWorking_ne_empty.mpr ⟨_, member, unknown⟩)
      simp only [part, List.mem_singleton, and_self, true_or, or_true]
  | unexpectedActivity member unknown general plain =>
      have part := gathering.named_of_unexpectedActivity member unknown
        (.inl ⟨general, plain, rfl⟩)
      simp only [part, true_or, or_true]
  | unexpectedActivityOn member unknown some =>
      have part := gathering.named_of_unexpectedActivity member unknown
        (.inr (.inl ⟨_, some, rfl⟩))
      simp only [part, true_or, or_true]
  | unexpectedActivityIn member unknown some =>
      have part := gathering.named_of_unexpectedActivity member unknown
        (.inr (.inr ⟨_, some, rfl⟩))
      simp only [part, true_or, or_true]
  | missingActivity member unknown =>
      have part := decide_eq_true
        (gathering.missingActivities_ne_empty.mpr ⟨_, member, unknown⟩)
      simp only [part, List.mem_singleton, and_self, true_or, or_true]
  | cashDifference beyond =>
      obtain ⟨difference, member⟩ := gathering.exists_cashDifference.mpr beyond
      have part := List.mem_map_of_mem (f := fun entry => "CASH:" ++ entry.1) member
      simp only [part, true_or, or_true]
  | positionDifference beyond =>
      obtain ⟨difference, member⟩ := gathering.exists_positionDifference.mpr beyond
      have part := List.mem_map_of_mem (f := fun entry => "INSTRUMENT:" ++ entry.1) member
      simp only [part, or_true, true_or]
  | settlementDifference requested complete differs =>
      obtain ⟨entry, member, currency⟩ :=
        gathering.exists_settlementDifference.mpr ⟨requested, complete, differs⟩
      have part := List.mem_map_of_mem
        (f := fun entry => "CASH:" ++ settlementCurrency entry.1) member
      rw [currency] at part
      simp only [part, true_or, or_true]
  | borrowDifference differs =>
      obtain ⟨difference, member⟩ := gathering.exists_borrowDifference.mpr differs
      have part := List.mem_map_of_mem (f := Prod.fst) member
      simp only [part, true_or]
  | activeRecall member =>
      have part := (mem_texts gathering.activeRecalls).mpr ⟨_, member, rfl⟩
      simp only [part, true_or, or_true]
  | inadmissibleAccount member refused =>
      obtain ⟨kept, keptMem, -⟩ := gathering.exists_inadmissible member refused
      have part := List.ne_nil_of_mem keptMem
      simp only [ne_eq, part, not_false_eq_true, decide_true, List.mem_cons, true_or, and_self,
        or_true]
  | inadmissibleInstrument member refused =>
      obtain ⟨kept, keptMem, same⟩ := gathering.exists_inadmissible member refused
      have part := List.ne_nil_of_mem keptMem
      have named := List.mem_map_of_mem (f := ("INSTRUMENT:" ++ ·.instrument)) keptMem
      rw [same] at named
      simp only [ne_eq, part, not_false_eq_true, decide_true, List.mem_cons, named, or_true,
        and_self, true_or]
  | inconsistentSnapshot inconsistent =>
      rw [← gathering.snapshotIsConsistent_iff, Bool.not_eq_true] at inconsistent
      simp only [inconsistent, Bool.not_false, List.mem_singleton, and_self, true_or, or_true]
  | incompletePagination incomplete =>
      simp only [incomplete, Bool.not_false, List.mem_singleton, and_self, true_or, or_true]
  | incompleteCoverage required uncovered =>
      have part : gathered.activityCoverageComplete = false := by
        rw [← Bool.not_eq_true, gathering.activityCoverageComplete_iff]
        intro covered
        exact uncovered (covered required)
      simp only [required, part, Bool.not_false, Bool.and_self, List.mem_singleton, and_self,
        true_or, or_true]
  | incompleteSettlement requested incomplete =>
      simp only [requested, ne_eq, incomplete, not_false_eq_true, decide_true, Bool.and_self,
        List.mem_singleton, and_self, true_or, or_true]
  | unknownSubmission member outcome =>
      have part : (gathered.resolutions args).any (·.outcome = .unknown) = true :=
        List.any_eq_true.mpr ⟨_, member, decide_eq_true outcome⟩
      simp only [part, List.mem_singleton, and_self, or_true]

/-- Nothing is blocked exactly when the reconciliation is complete. -/
theorem complete_iff (gathering : Gathering args gathered) :
    gathered.complete args = true ↔ gathered.blockedResources args = [] := by
  have flat : gathered.unexpectedActivities.flatMap activityResources = [] ↔
      gathered.unexpectedActivities = [] := by
    rw [List.flatMap_eq_nil_iff, List.eq_nil_iff_forall_not_mem]
    apply forall₂_congr
    intro activity _
    simp only [activityResources_ne_nil]
  -- A difference is only computed for a requested and complete settlement.
  have settled : (!args.settlement.requested ||
      (args.settlementActivityComplete = some true &&
        gathered.settlementDifferences = [])) = true ↔
      (args.settlement.requested && args.settlementActivityComplete ≠ some true) = false ∧
        gathered.settlementDifferences = [] := by
    cases entries : gathered.settlementDifferences with
    | nil => cases args.settlement.requested <;> simp
    | cons entry rest =>
        have named := gathering.exists_settlementDifference.mp
          ⟨entry, entries ▸ List.mem_cons_self, rfl⟩
        simp [named.1]
  -- Coverage that is not required counts as complete.
  have covered : (args.requireActivityReconciliation &&
      !gathered.activityCoverageComplete) = false ↔
      gathered.activityCoverageComplete = true := by
    cases required : args.requireActivityReconciliation with
    | true => simp
    | false =>
        have complete : gathered.activityCoverageComplete = true := by
          rw [gathering.activityCoverageComplete_iff, required]
          intro impossible
          cases impossible
        simp [complete]
  have resolved : (gathered.resolutions args).all (·.outcome ≠ .unknown) = true ↔
      (gathered.resolutions args).any (·.outcome = .unknown) = false := by
    simp
  simp only [Gathered.complete, Gathered.blockedResources, List.append_eq_nil_iff,
    whenever_eq_nil, List.map_eq_nil_iff, flat, settled, covered, resolved, Bool.and_eq_true,
    decide_eq_true_eq, List.cons_ne_nil, or_false, Bool.not_eq_false', decide_eq_false_iff_not,
    ne_eq, not_not]
  tauto

end Gathering

/-- A reconciliation that returns is complete exactly when it blocks nothing, and
it blocks exactly the resources that a discrepancy names. -/
theorem verdicts_agree {result : ReconciliationResult}
    (success : reconcileAccount args = .ok result) :
    (result.complete = true ↔ result.blockingResources = []) ∧
      ∀ resource, resource ∈ result.blockingResources ↔
        Discrepancy args result.submissionResolutions resource := by
  rw [reconcileAccount, bind_eq_ok] at success
  obtain ⟨gathered, returned, success⟩ := success
  rw [pure_eq_ok] at success
  subst success
  have gathering := gather_spec returned
  have blocked : ∀ resource, resource ∈ (gathered.verdict args).blockingResources ↔
      resource ∈ gathered.blockedResources args := by
    intro resource
    exact mem_sorted.trans List.mem_toFinset
  constructor
  · have complete := gathering.complete_iff
    rw [List.eq_nil_iff_forall_not_mem] at complete
    rw [List.eq_nil_iff_forall_not_mem]
    simp only [blocked]
    exact complete
  · intro resource
    rw [blocked]
    constructor
    · exact gathering.discrepancy_of_blocked
    · exact gathering.blocked_of_discrepancy

end

/-! ## A sample -/

section

attribute [local instance] CaseMap.ascii IsoFormat.seconds

/-- The provider reports a deposit that the local books do not know. -/
def sampleDiscrepant : ReconcileArguments :=
  { sampleArguments with
    providerCash := [("USD", .text "120.00")]
    providerActivities := [⟨sampleScope, "activity-1", "DEPOSIT", .manual,
      ⟨1767265200000000⟩, none, some "USD", none, none, none, none⟩] }

theorem discrepant_verdicts_agree : ∃ result,
    reconcileAccount sampleDiscrepant = .ok result ∧
      (result.complete = true ↔ result.blockingResources = []) ∧
      ∀ resource, resource ∈ result.blockingResources ↔
        Discrepancy sampleDiscrepant result.submissionResolutions resource := by
  have returned : (reconcileAccount sampleDiscrepant).toOption.isSome := by decide +kernel
  obtain ⟨result, success⟩ := exists_eq_ok returned
  exact ⟨result, success, verdicts_agree success⟩

example : (reconcileAccount sampleDiscrepant).map (·.complete) = .ok false := by
  decide +kernel

end

end AutoTrade.Reconciliation
