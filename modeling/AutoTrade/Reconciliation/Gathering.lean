import AutoTrade.Reconciliation.Account

/-!
# What an accepted call gathers

The specification of `gather`: one equation for each part of the arguments, and
the meaning of the differences and of the collected observations.  The results
about verdicts cite these facts and do not unfold `gather` again.
-/

namespace AutoTrade.Reconciliation

open Lib Numeric

/-! ## Collectors -/

theorem fillCollector_lawful (scope : AccountScope) : (fillCollector scope).Lawful := by
  apply Collector.Lawful.of_image ProviderFillEvidence.identity
  · intro left right
    exact decide_eq_true_iff
  · intro left right clash
    exact nomatch clash
  · intro left other right _ clash
    exact nomatch clash

theorem orderCollector_lawful (scope : AccountScope) : (orderCollector scope).Lawful := by
  apply Collector.Lawful.of_image id
  · intro left right
    exact decide_eq_true_iff
  · intro left right clash
    simp only [orderCollector, Bool.and_eq_true, decide_eq_true_eq] at clash ⊢
    obtain ⟨⟨known, same⟩, different⟩ := clash
    exact ⟨⟨same ▸ known, same.symm⟩, different.symm⟩
  · intro left other right same clash
    rw [id_eq, id_eq] at same
    rw [← same]
    exact clash

theorem activityCollector_lawful (scope : AccountScope) :
    (activityCollector scope).Lawful := by
  apply Collector.Lawful.of_image id
  · intro left right
    exact decide_eq_true_iff
  · intro left right clash
    exact nomatch clash
  · intro left other right _ clash
    exact nomatch clash

theorem submissionCollector_lawful (scope : AccountScope) :
    (submissionCollector scope).Lawful := by
  apply Collector.Lawful.of_image id
  · intro left right
    exact decide_eq_true_iff
  · intro left right clash
    simp only [submissionCollector, decide_eq_true_eq] at clash ⊢
    exact clash.symm
  · intro left other right same clash
    rw [id_eq, id_eq] at same
    rw [← same]
    exact clash

/-- Observations of one identity have one client order id, and are admissible
or inadmissible together. -/
theorem inadmissible_congr {left right : ProviderFillEvidence}
    (same : left.identity = right.identity) : inadmissible left = inadmissible right := by
  have side : left.side = right.side :=
    congrArg ProviderFillEvidence.Identity.side same
  have positionSide : left.positionSide = right.positionSide :=
    congrArg ProviderFillEvidence.Identity.positionSide same
  have positionEffect : left.positionEffect = right.positionEffect :=
    congrArg ProviderFillEvidence.Identity.positionEffect same
  have refs : left.evidenceRefs = [] ↔ right.evidenceRefs = [] := by
    have sorted : left.evidenceRefs.insertionSort (· ≤ ·) =
        right.evidenceRefs.insertionSort (· ≤ ·) :=
      congrArg ProviderFillEvidence.Identity.evidenceRefs same
    have lengths := congrArg List.length sorted
    rw [List.length_insertionSort, List.length_insertionSort] at lengths
    rw [← List.length_eq_zero_iff, ← List.length_eq_zero_iff, lengths]
  have errors : left.ingressErrors = right.ingressErrors := by
    simp only [ProviderFillEvidence.ingressErrors, side, positionSide, positionEffect, refs]
  rw [inadmissible, inadmissible, errors]

/-! ## Amounts and texts -/

/-- A text is stripped. -/
theorem text_eq_ok {value name result : String} :
    text value name = .ok result ↔ strip value ≠ "" ∧ strip value = result := by
  rw [text, guard_eq_ok, Except.ok.injEq]

/-- A list of texts that returns holds the stripped texts. -/
theorem mem_texts {values texts : List String} {item : String}
    (success : values.mapM (text · item) = .ok texts) {member : String} :
    member ∈ texts ↔ ∃ value ∈ values, strip value = member := by
  rw [mem_mapM success]
  constructor
  · rintro ⟨value, inside, parsed⟩
    exact ⟨value, inside, (text_eq_ok.mp parsed).2⟩
  · rintro ⟨value, inside, rfl⟩
    obtain ⟨result, -, parsed⟩ := exists_of_mem_forall₂ (mapM_eq_ok.mp success).flip inside
    exact ⟨value, inside, text_eq_ok.mpr ⟨(text_eq_ok.mp parsed).1, rfl⟩⟩

theorem mem_uniqueTexts {values : List String} {item name : String} {members : Finset String}
    (success : uniqueTexts values item name = .ok members) {member : String} :
    member ∈ members ↔ ∃ value ∈ values, strip value = member := by
  rw [uniqueTexts, bind_eq_ok] at success
  obtain ⟨texts, parsed, success⟩ := success
  rw [throw_unless_eq_ok, pure_eq_ok] at success
  obtain ⟨-, rfl⟩ := success
  rw [List.mem_toFinset, mem_texts parsed]

/-- A missing key stands for the amount zero. -/
theorem amountOf_eq_zero {amounts : Dict String Decimal} {key : String}
    (missing : key ∉ amounts.keys) : amountOf amounts key = 0 := by
  rw [amountOf, Dict.get?_eq_none.mpr missing, Option.getD_none]

/-- What the comparison of one key finds. -/
theorem compared_eq_ok {significant : String → Decimal → Except ReconciliationError Bool}
    {ours theirs : Dict String Decimal} {key : String} {entry : Option (String × Decimal)}
    (success : (do
      let difference ← amountDifference ours theirs key
      let differs ← significant key difference
      pure (if differs then some (key, difference) else none)) = Except.ok entry) :
    ∃ difference differs, amountDifference ours theirs key = .ok difference ∧
      significant key difference = .ok differs ∧
      entry = if differs then some (key, difference) else none := by
  rw [bind_eq_ok] at success
  obtain ⟨difference, subtracted, success⟩ := success
  rw [bind_eq_ok] at success
  obtain ⟨differs, tested, success⟩ := success
  rw [pure_eq_ok] at success
  exact ⟨difference, differs, subtracted, tested, success.symm⟩

theorem amountDifference_eq_ok {ours theirs : Dict String Decimal} {key : String}
    {difference : Decimal} :
    amountDifference ours theirs key = .ok difference ↔
      difference.toRat = (amountOf theirs key).toRat - (amountOf ours key).toRat := by
  rw [amountDifference, exact, mapError_eq_ok, exactSubtract_eq_ok]

/-- The keys with an entry are the ones whose exact difference is significant. -/
theorem exists_difference {significant : String → Decimal → Except ReconciliationError Bool}
    (meaning : String → ℚ → Prop)
    (decides : ∀ {key difference differs}, significant key difference = .ok differs →
      (differs = true ↔ meaning key difference.toRat))
    (still : ∀ key, ¬ meaning key 0) {ours theirs : Dict String Decimal}
    {entries : List (String × Decimal)}
    (success : differences significant ours theirs = .ok entries) {key : String} :
    (∃ difference, (key, difference) ∈ entries) ↔
      meaning key ((amountOf theirs key).toRat - (amountOf ours key).toRat) := by
  rw [differences, bind_eq_ok] at success
  obtain ⟨compared, visited, success⟩ := success
  rw [pure_eq_ok] at success
  subst success
  constructor
  · rintro ⟨difference, member⟩
    obtain ⟨entry, inside, same⟩ := List.mem_filterMap.mp member
    rw [id_eq] at same
    obtain ⟨other, -, body⟩ := (mem_mapM visited).mp inside
    obtain ⟨amount, differs, subtracted, tested, shape⟩ := compared_eq_ok body
    rw [same] at shape
    cases differs with
    | false => cases shape
    | true =>
        cases shape
        rw [← amountDifference_eq_ok.mp subtracted]
        exact (decides tested).mp rfl
  · intro meant
    have known : key ∈ sharedKeys ours theirs := by
      rw [sharedKeys, Finset.mem_sort, Finset.mem_union, List.mem_toFinset, List.mem_toFinset]
      by_contra unknown
      rw [not_or] at unknown
      rw [amountOf_eq_zero unknown.1, amountOf_eq_zero unknown.2, sub_self] at meant
      exact still key meant
    obtain ⟨entry, inside, body⟩ := exists_of_mem_forall₂ (mapM_eq_ok.mp visited).flip known
    obtain ⟨amount, differs, subtracted, tested, shape⟩ := compared_eq_ok body
    rw [← amountDifference_eq_ok.mp subtracted] at meant
    rw [(decides tested).mpr meant, if_pos rfl] at shape
    use amount
    exact List.mem_filterMap.mpr ⟨entry, inside, shape⟩

theorem nonzeroDifference_decides {key : String} {difference : Decimal} {differs : Bool}
    (success : nonzeroDifference key difference = .ok differs) :
    differs = true ↔ difference.toRat ≠ 0 := by
  rw [nonzeroDifference, pure_eq_ok] at success
  rw [← success, decide_eq_true_iff, Ne, Ne, Decimal.toRat_eq_zero]

theorem beyondTolerance_decides {tolerance : Dict String Decimal} {key : String}
    {difference : Decimal} {beyond : Bool}
    (success : beyondTolerance tolerance key difference = .ok beyond) :
    beyond = true ↔ (amountOf tolerance key).toRat < |difference.toRat| := by
  rw [beyondTolerance, bind_eq_ok] at success
  obtain ⟨magnitude, absolute, success⟩ := success
  rw [exact, mapError_eq_ok] at absolute
  rw [pure_eq_ok] at success
  rw [← success, decide_eq_true_iff, Decimal.lt_def, terminatingDecimal_toRat absolute]

/-- The keys of a plain comparison are the ones with different amounts. -/
theorem exists_nonzeroDifference {ours theirs : Dict String Decimal}
    {entries : List (String × Decimal)}
    (success : differences nonzeroDifference ours theirs = .ok entries) {key : String} :
    (∃ difference, (key, difference) ∈ entries) ↔
      (amountOf theirs key).toRat ≠ (amountOf ours key).toRat := by
  rw [exists_difference (fun _ difference => difference ≠ 0)
    nonzeroDifference_decides _ success, sub_ne_zero]
  intro key nonzero
  exact nonzero rfl

/-- The keys of a comparison with tolerances are the ones with amounts further
apart. -/
theorem exists_beyondTolerance {tolerance ours theirs : Dict String Decimal}
    {entries : List (String × Decimal)} (declared : ¬ tolerance.values.any (· < 0))
    (success : differences (beyondTolerance tolerance) ours theirs = .ok entries)
    {key : String} :
    (∃ difference, (key, difference) ∈ entries) ↔
      (amountOf tolerance key).toRat <
        |(amountOf theirs key).toRat - (amountOf ours key).toRat| := by
  apply exists_difference (fun key difference =>
    (amountOf tolerance key).toRat < |difference|) beyondTolerance_decides _ success
  intro key beyond
  rw [abs_zero] at beyond
  have negative : amountOf tolerance key < 0 := Decimal.lt_def.mpr beyond
  cases found : tolerance.get? key with
  | none =>
      rw [amountOf, found, Option.getD_none] at negative
      exact lt_irrefl (0 : ℚ) (Decimal.lt_def.mp negative)
  | some amount =>
      rw [amountOf, found, Option.getD_some] at negative
      apply declared
      rw [List.any_eq_true]
      exact ⟨amount, Dict.mem_values.mpr ⟨key, found⟩, decide_eq_true negative⟩

/-! ## Absence coverage -/

/-- The accepted coverage records are the ones of the scope with one record for
each surface, in their order. -/
theorem absenceCoverageIndex_eq_ok {scope : AccountScope}
    {evidence result : List CoverageSurfaceEvidence} :
    absenceCoverageIndex scope evidence = .ok result ↔
      evidence = result ∧ (∀ item ∈ evidence, item.scope = scope) ∧
        (evidence.map CoverageSurfaceEvidence.surface).Nodup := by
  induction evidence using List.reverseRecOn generalizing result with
  | nil =>
      rw [absenceCoverageIndex, List.foldlM_nil, pure_eq_ok]
      simp
  | append_singleton evidence item ih =>
      have fresh : (∀ kept ∈ evidence, kept.surface ≠ item.surface) ↔
          ¬ evidence.any (·.surface = item.surface) := by
        simp
      rw [absenceCoverageIndex, List.foldlM_append, bind_eq_ok]
      simp only [List.forall_mem_append, List.map_append,
        List.map_cons, List.map_nil, List.nodup_append, List.nodup_singleton, List.mem_singleton,
        forall_eq, List.forall_mem_map, true_and, fresh]
      constructor
      · rintro ⟨kept, first, last⟩
        obtain ⟨rfl, inScope, distinct⟩ := ih.mp first
        simp only [List.foldlM_cons, List.foldlM_nil, bind_eq_ok, throw_unless_eq_ok,
          pure_eq_ok] at last
        obtain ⟨next, ⟨itemScope, new, rfl⟩, same⟩ := last
        exact ⟨same, ⟨inScope, not_not.mp itemScope⟩, distinct, new⟩
      · rintro ⟨rfl, ⟨inScope, itemScope⟩, distinct, new⟩
        use evidence, ih.mpr ⟨rfl, inScope, distinct⟩
        simp only [List.foldlM_cons, List.foldlM_nil, bind_eq_ok, throw_unless_eq_ok, pure_eq_ok]
        exact ⟨_, ⟨not_not.mpr itemScope, new, rfl⟩, rfl⟩

/-! ## The specification of `gather` -/

/-- Two amount mappings of the arguments and the entries of their comparison. -/
structure Compared (ours theirs : AmountItems) (ourName theirName : String)
    (significant : String → Decimal → Except ReconciliationError Bool)
    (theirAmounts : Dict String Decimal) (entries : List (String × Decimal)) : Prop where
  theirs : amountMap theirs theirName = .ok theirAmounts
  compared : ∃ ourAmounts, amountMap ours ourName = .ok ourAmounts ∧
    differences significant ourAmounts theirAmounts = .ok entries

/-- What the arguments of an accepted call determine. -/
structure Gathering [CaseMap] [IsoFormat] (args : ReconcileArguments) (gathered : Gathered) :
    Prop where
  scope : AccountScope.create args.providerId args.accountId args.environment
    args.providerEnvironment = .ok gathered.scope
  start : (TimeText.instant <$> timeText args.coverageStart "coverage_start") =
    .ok gathered.start
  finish : (TimeText.instant <$> timeText args.coverageEnd "coverage_end") =
    .ok gathered.finish
  cash : ∃ tolerance, amountMap args.cashTolerance "cash_tolerance" = .ok tolerance ∧
    ¬ tolerance.values.any (· < 0) ∧
    Compared args.localCash args.providerCash "local_cash" "provider_cash"
      (beyondTolerance tolerance) gathered.providerCash gathered.cashDifferences
  positions : ∃ tolerance,
    amountMap args.positionTolerance "position_tolerance" = .ok tolerance ∧
    ¬ tolerance.values.any (· < 0) ∧
    Compared args.localPositions args.providerPositions "local_positions" "provider_positions"
      (beyondTolerance tolerance) gathered.providerPositions gathered.positionDifferences
  localIds : uniqueTexts args.localExecutionIds "local_execution_id" "local_execution_ids" =
    .ok gathered.localIds
  fills : (fillCollector gathered.scope).collect args.providerFills = .ok gathered.fills
  localWorking : uniqueTexts args.localWorkingClientOrderIds "local_working_client_order_id"
    "local_working_client_order_ids" = .ok gathered.localWorking
  orders : (orderCollector gathered.scope).collect args.providerWorkingOrders =
    .ok gathered.orders
  snapshotWindowCovered : snapshotWindow gathered.scope gathered.start gathered.finish
    args.snapshotConsistency = .ok gathered.snapshotWindowCovered
  activeRecalls : args.activeBorrowRecallResources.mapM
    (text · "active_borrow_recall_resource") = .ok gathered.activeRecalls
  borrow : ∃ theirs, Compared args.localBorrowedResources args.providerBorrowedResources
    "local_borrowed_resources" "provider_borrowed_resources" nonzeroDifference theirs
    gathered.borrowDifferences
  settlement : ∃ maps,
    args.settlement.normalize args.settlementActivityComplete = .ok maps ∧
    settlementDifferences
      (args.settlement.requested && args.settlementActivityComplete = some true) maps =
        .ok gathered.settlementDifferences
  localActivities : uniqueTexts args.localProviderActivityIds "local_provider_activity_id"
    "local_provider_activity_ids" = .ok gathered.localActivities
  activities : (activityCollector gathered.scope).collect args.providerActivities =
    .ok gathered.activities
  activityCoverage : activityCoverageComplete gathered.scope gathered.start gathered.finish
    args.requireActivityReconciliation args.activityCoverage =
      .ok gathered.activityCoverageComplete
  searched : ∃ texts,
    args.searchedClientOrderIds.mapM (text · "searched_client_order_id") = .ok texts ∧
    texts.toFinset = gathered.searched
  absence : absenceCoverageIndex gathered.scope args.absenceCoverage = .ok gathered.absence
  submissions : (submissionCollector gathered.scope).collect args.unknownSubmissions =
    .ok gathered.submissions

theorem gather_spec [CaseMap] [IsoFormat] {args : ReconcileArguments} {gathered : Gathered}
    (success : gather args = .ok gathered) : Gathering args gathered := by
  simp only [gather, bind_eq_ok, throw_unless_eq_ok, pure_eq_ok] at success
  obtain ⟨scope, scopeOk, start, startOk, finish, finishOk, -, localCash, localCashOk,
    providerCash, providerCashOk, localPositions, localPositionsOk, providerPositions,
    providerPositionsOk, cashTolerance, cashToleranceOk, positionTolerance,
    positionToleranceOk, declared, localIds, localIdsOk, fills, fillsOk, localWorking,
    localWorkingOk, orders, ordersOk, covered, coveredOk, -, -, localBorrowed,
    localBorrowedOk, providerBorrowed, providerBorrowedOk, recalls, recallsOk, -, -, -,
    borrow, borrowOk, maps, mapsOk, settlement, settlementOk, cash, cashOk, positions,
    positionsOk, localActivities, localActivitiesOk, -, -, activities, activitiesOk,
    coverage, coverageOk, searched, searchedOk, absence, absenceOk, submissions,
    submissionsOk, rfl⟩ := success
  rw [not_or] at declared
  constructor
  case scope => exact scopeOk
  case start =>
    rw [startOk]
    rfl
  case finish =>
    rw [finishOk]
    rfl
  case cash => exact ⟨cashTolerance, cashToleranceOk, declared.1, providerCashOk, localCash,
    localCashOk, cashOk⟩
  case positions => exact ⟨positionTolerance, positionToleranceOk, declared.2,
    providerPositionsOk, localPositions, localPositionsOk, positionsOk⟩
  case localIds => exact localIdsOk
  case fills => exact fillsOk
  case localWorking => exact localWorkingOk
  case orders => exact ordersOk
  case snapshotWindowCovered => exact coveredOk
  case activeRecalls => exact recallsOk
  case borrow => exact ⟨providerBorrowed, providerBorrowedOk, localBorrowed, localBorrowedOk,
    borrowOk⟩
  case settlement => exact ⟨maps, mapsOk, settlementOk⟩
  case localActivities => exact localActivitiesOk
  case activities => exact activitiesOk
  case activityCoverage => exact coverageOk
  case searched => exact ⟨searched, searchedOk, rfl⟩
  case absence => exact absenceOk
  case submissions => exact submissionsOk

/-! ## What the gathered evidence says of the arguments -/

/-- The coverage window of the arguments. -/
def CoverageWindow [IsoFormat] (args : ReconcileArguments) (start finish : Instant) : Prop :=
  (TimeText.instant <$> timeText args.coverageStart "coverage_start") = .ok start ∧
    (TimeText.instant <$> timeText args.coverageEnd "coverage_end") = .ok finish

/-- The snapshot is consistent and lies in the coverage window. -/
def SnapshotConsistent [IsoFormat] (args : ReconcileArguments) : Prop :=
  ∃ snapshot start finish, args.snapshotConsistency = some snapshot ∧
    CoverageWindow args start finish ∧ snapshot.consistent ∧
    start ≤ snapshot.queryStartedAt.instant ∧ snapshot.queryCompletedAt.instant ≤ finish

namespace Gathering

variable [CaseMap] [IsoFormat] {args : ReconcileArguments} {gathered : Gathered}

/-- A property of fills that their identity decides. -/
theorem exists_fill (gathering : Gathering args gathered)
    (property : ProviderFillEvidence → Prop)
    (respects : ∀ left right : ProviderFillEvidence, left.identity = right.identity →
      (property left ↔ property right)) :
    (∃ fill ∈ args.providerFills, property fill) ↔ ∃ fill ∈ gathered.fills, property fill := by
  apply (Collector.collect_collected (fillCollector_lawful gathered.scope)
    gathering.fills).exists_iff property
  intro left right agrees
  exact respects left right (of_decide_eq_true agrees)

theorem mem_orders (gathering : Gathering args gathered) {order : ProviderWorkingOrderEvidence} :
    order ∈ gathered.orders ↔ order ∈ args.providerWorkingOrders := by
  have same := (Collector.collect_collected (orderCollector_lawful gathered.scope)
    gathering.orders).exists_iff (· = order) (by
      intro left right agrees
      rw [of_decide_eq_true agrees])
  simpa using same.symm

theorem mem_activities (gathering : Gathering args gathered)
    {activity : ProviderActivityEvidence} :
    activity ∈ gathered.activities ↔ activity ∈ args.providerActivities := by
  have same := (Collector.collect_collected (activityCollector_lawful gathered.scope)
    gathering.activities).exists_iff (· = activity) (by
      intro left right agrees
      rw [of_decide_eq_true agrees])
  simpa using same.symm

theorem mem_localIds (gathering : Gathering args gathered) {id : String} :
    id ∈ gathered.localIds ↔ ∃ value ∈ args.localExecutionIds, strip value = id :=
  mem_uniqueTexts gathering.localIds

theorem mem_localWorking (gathering : Gathering args gathered) {id : String} :
    id ∈ gathered.localWorking ↔ ∃ value ∈ args.localWorkingClientOrderIds, strip value = id :=
  mem_uniqueTexts gathering.localWorking

theorem mem_localActivities (gathering : Gathering args gathered) {id : String} :
    id ∈ gathered.localActivities ↔ ∃ value ∈ args.localProviderActivityIds, strip value = id :=
  mem_uniqueTexts gathering.localActivities

theorem snapshotIsConsistent_iff (gathering : Gathering args gathered) :
    gathered.snapshotIsConsistent args.snapshotConsistency = true ↔ SnapshotConsistent args := by
  have covered := gathering.snapshotWindowCovered
  rw [Gathered.snapshotIsConsistent, Bool.and_eq_true]
  cases present : args.snapshotConsistency with
  | none =>
      constructor
      · rintro ⟨consistent, -⟩
        cases consistent
      · rintro ⟨snapshot, start, finish, found, -⟩
        rw [present] at found
        cases found
  | some snapshot =>
      rw [present, snapshotWindow, guard_eq_ok, pure_eq_ok] at covered
      rw [← covered.2, Option.any_some, Bool.and_eq_true, Bool.and_eq_true, decide_eq_true_eq,
        decide_eq_true_eq, decide_eq_true_eq]
      constructor
      · rintro ⟨consistent, ⟨started, -⟩, completed⟩
        exact ⟨snapshot, _, _, present, ⟨gathering.start, gathering.finish⟩, consistent, started,
          completed⟩
      · rintro ⟨found, start, finish, foundOk, ⟨startOk, finishOk⟩, consistent, started,
          completed⟩
        cases present.symm.trans foundOk
        cases gathering.start.symm.trans startOk
        cases gathering.finish.symm.trans finishOk
        exact ⟨consistent, ⟨started, snapshot.ordered⟩, completed⟩

end Gathering

end AutoTrade.Reconciliation
