import AutoTrade.Lib.Observations
import AutoTrade.Reconciliation.Evidence
import Mathlib.Data.Finset.Sort

/-!
# Account reconciliation

The executable model of `reconcile_account`.  `gather` is its first part: it
normalizes the arguments, checks their scope, collects the evidence and computes
the differences, and may raise.  `verdict` is the rest: the resolution of the
submissions of unknown outcome, the blocking resources with their reasons, and
the completeness flag.

The observations of one kind are collected by provider identity, the first one
of an identity being kept; the dictionaries and sets the source fills in the
same loops are views of the kept observations.
-/

namespace AutoTrade.Reconciliation

open Lib Numeric

/-- The items of a mapping argument. -/
abbrev AmountItems : Type := List (String × PresentedInput)

/-- The six settlement surfaces of the arguments. -/
structure SettlementItems where
  localSettledCash : Option AmountItems
  providerSettledCash : Option AmountItems
  localUnsettledReceivable : Option AmountItems
  providerUnsettledReceivable : Option AmountItems
  localUnsettledPayable : Option AmountItems
  providerUnsettledPayable : Option AmountItems

/-- The arguments of `reconcile_account`; an absent tolerance or borrow mapping
is an empty one. -/
structure ReconcileArguments where
  providerId : String
  accountId : String
  environment : String
  providerEnvironment : Option String
  localCash : AmountItems
  providerCash : AmountItems
  localPositions : AmountItems
  providerPositions : AmountItems
  localExecutionIds : List String
  providerFills : List ProviderFillEvidence
  localWorkingClientOrderIds : List String
  providerWorkingOrders : List ProviderWorkingOrderEvidence
  snapshotConsistency : Option SnapshotConsistencyEvidence
  unknownSubmissions : List UnknownSubmission
  searchedClientOrderIds : List String
  coverageStart : String
  coverageEnd : String
  paginationComplete : Bool
  absenceCoverage : List CoverageSurfaceEvidence
  localProviderActivityIds : List String
  providerActivities : List ProviderActivityEvidence
  providerActivityProviderId : Option String
  providerActivityAccountId : Option String
  activityCoverage : Option CoverageSurfaceEvidence
  requireActivityReconciliation : Bool
  cashTolerance : AmountItems
  positionTolerance : AmountItems
  resourceAvailability : Option ResourceAvailabilityEvidence
  localBorrowedResources : AmountItems
  providerBorrowedResources : AmountItems
  activeBorrowRecallResources : List String
  settlement : SettlementItems
  settlementActivityComplete : Option Bool

/-! ## Arguments -/

/-- One item of `_amount_map`. -/
def amountItem (name : String) (result : Dict String Decimal) (item : String × PresentedInput) :
    Except ReconciliationError (Dict String Decimal) := do
  let key ← text item.1 s!"{name} key"
  if (result.get? key).isSome then
    throw (.valueError s!"{name} keys must be unique after normalization")
  let amount ← decimal item.2 s!"{name}[{key}]"
  pure (result.set key amount.value)

/-- `_amount_map`. -/
def amountMap (values : AmountItems) (name : String) :
    Except ReconciliationError (Dict String Decimal) :=
  values.foldlM (amountItem name) ∅

/-- A tuple of identities that must be unique after normalization, as a set. -/
def uniqueTexts (values : List String) (item name : String) :
    Except ReconciliationError (Finset String) := do
  let texts ← values.mapM (text · item)
  if ¬ texts.Nodup then throw (.valueError s!"{name} must be unique")
  pure texts.toFinset

/-- An amount of a mapping, zero where the key is missing. -/
def amountOf (amounts : Dict String Decimal) (key : String) : Decimal :=
  (amounts.get? key).getD 0

/-- The keys of two mappings, sorted. -/
def sharedKeys (left right : Dict String Decimal) : List String :=
  (left.keys.toFinset ∪ right.keys.toFinset).sort (· ≤ ·)

/-- An exact operation whose failure is not caught. -/
def exact (computation : Except ExactDecimalError Decimal) :
    Except ReconciliationError Decimal :=
  computation.mapError .exactDecimal

/-- The provider amount less the local amount of a key. -/
def amountDifference (localMap providerMap : Dict String Decimal) (key : String) :
    Except ReconciliationError Decimal :=
  exact (exactSubtract (amountOf providerMap key) (amountOf localMap key))

/-- The comparison of a difference with the tolerance of its key. -/
def beyondTolerance (tolerance : Dict String Decimal) (key : String) (difference : Decimal) :
    Except ReconciliationError Bool := do
  let magnitude ← exact (exactAbs difference)
  pure (amountOf tolerance key < magnitude)

/-- The comparison of a difference with zero. -/
def nonzeroDifference (_key : String) (difference : Decimal) :
    Except ReconciliationError Bool :=
  pure (difference ≠ 0)

/-- The differences of two mappings that a test finds significant. -/
def differences (significant : String → Decimal → Except ReconciliationError Bool)
    (localMap providerMap : Dict String Decimal) :
    Except ReconciliationError (List (String × Decimal)) := do
  let entries ← (sharedKeys localMap providerMap).mapM fun key => do
    let difference ← amountDifference localMap providerMap key
    let differs ← significant key difference
    pure (if differs then some (key, difference) else none)
  pure (entries.filterMap id)

/-! ## Observations -/

/-- The scope checks of one observation. -/
def checkScope (scope : AccountScope) (subject : String) (observed : AccountScope) :
    Except ReconciliationError Unit :=
  if observed.providerId ≠ scope.providerId then
    .error (.valueError s!"{subject} provider_id mismatch")
  else if observed.accountId ≠ scope.accountId then
    .error (.valueError s!"{subject} account_id mismatch")
  else if observed.environment ≠ scope.environment then
    .error (.valueError s!"{subject} environment mismatch")
  else if observed.providerEnvironment ≠ scope.providerEnvironment then
    .error (.valueError s!"{subject} provider_environment mismatch")
  else .ok ()

/-- The loop over `provider_fills`. -/
def fillCollector (scope : AccountScope) :
    Collector ReconciliationError ProviderFillEvidence String where
  check fill := checkScope scope "provider fill evidence" fill.scope
  key := ProviderFillEvidence.providerExecutionId
  agrees first fill := first.identity = fill.identity
  conflict _ := .valueError "provider execution id has conflicting observations"
  clashes _ _ := false
  reused _ := .valueError "provider execution id has conflicting observations"

/-- The loop over `provider_working_orders`. -/
def orderCollector (scope : AccountScope) :
    Collector ReconciliationError ProviderWorkingOrderEvidence String where
  check order := checkScope scope "provider working-order evidence" order.scope
  key := ProviderWorkingOrderEvidence.providerOrderId
  agrees first order := first = order
  conflict _ := .valueError "provider working order id has conflicting observations"
  clashes first order :=
    first.clientOrderId.isSome && first.clientOrderId = order.clientOrderId && first ≠ order
  reused _ := .valueError "client order id maps to multiple provider working orders"

/-- The loop over `provider_activities`. -/
def activityCollector (scope : AccountScope) :
    Collector ReconciliationError ProviderActivityEvidence String where
  check activity := checkScope scope "provider activity evidence" activity.scope
  key := ProviderActivityEvidence.activityId
  agrees first activity := first = activity
  conflict _ := .valueError "provider activity id has conflicting observations"
  clashes _ _ := false
  reused _ := .valueError "provider activity id has conflicting observations"

/-- The loop over `unknown_submissions`. -/
def submissionCollector (scope : AccountScope) :
    Collector ReconciliationError UnknownSubmission String where
  check submission :=
    if submission.scope ≠ scope then .error (.valueError "unknown submission scope mismatch")
    else .ok ()
  key := UnknownSubmission.attemptId
  agrees first submission := first = submission
  conflict _ := .valueError "unknown submission attempt_id has conflicting observations"
  clashes first submission := first.clientOrderId = submission.clientOrderId
  reused _ := .valueError "unknown submission client_order_id is reused across attempts"

/-- `_absence_coverage_index`: the coverage records, one for each surface. -/
def absenceCoverageIndex (scope : AccountScope) (evidence : List CoverageSurfaceEvidence) :
    Except ReconciliationError (List CoverageSurfaceEvidence) :=
  evidence.foldlM (fun result item => do
    if item.scope ≠ scope then throw (.valueError "absence coverage scope mismatch")
    if result.any (·.surface = item.surface) then
      throw (.valueError s!"duplicate absence coverage surface: {item.surface}")
    pure (result ++ [item])) []

/-! ## The checks of the remaining evidence -/

/-- The snapshot window of `snapshot_consistency`, checked against the scope and
compared with the coverage: whether the window is covered. -/
def snapshotWindow (scope : AccountScope) (start finish : Instant)
    (snapshot : Option SnapshotConsistencyEvidence) : Except ReconciliationError Bool :=
  match snapshot with
  | none => pure false
  | some snapshot =>
      if snapshot.scope ≠ scope then
        .error (.valueError "provider snapshot consistency scope mismatch")
      else
        pure (start ≤ snapshot.queryStartedAt.instant &&
          snapshot.queryStartedAt.instant ≤ snapshot.queryCompletedAt.instant &&
          snapshot.queryCompletedAt.instant ≤ finish)

/-- The checks of `resource_availability`. -/
def checkResourceAvailability (scope : AccountScope)
    (snapshot : Option SnapshotConsistencyEvidence)
    (resources : Option ResourceAvailabilityEvidence) : Except ReconciliationError Unit :=
  match resources with
  | none => pure ()
  | some resources =>
      if resources.scope ≠ scope then
        .error (.valueError "resource availability scope mismatch")
      else match snapshot with
      | none =>
          .error (.valueError "resource availability requires snapshot consistency evidence")
      | some snapshot =>
          if resources.queryStartedAt.instant ≠ snapshot.queryStartedAt.instant ∨
              resources.queryCompletedAt.instant ≠ snapshot.queryCompletedAt.instant then
            .error (.valueError
              "resource availability snapshot cut differs from reconciliation")
          else pure ()

/-- The check of one borrow resource. -/
def checkBorrowResource (details : Dict String (Dict String String)) (resource : String) :
    Except ReconciliationError Unit :=
  if ¬ "BORROW:".isPrefixOf resource then
    .error (.valueError
      "borrow reconciliation resources must use canonical BORROW identity")
  else if (details.get? resource).bind (·.get? "resource_type") ≠ some "SECURITIES_BORROW" then
    .error (.valueError "borrow reconciliation requires typed availability evidence")
  else pure ()

/-- The settlement surfaces after normalization. -/
structure SettlementMaps where
  localSettled : Dict String Decimal
  providerSettled : Dict String Decimal
  localReceivable : Dict String Decimal
  providerReceivable : Dict String Decimal
  localPayable : Dict String Decimal
  providerPayable : Dict String Decimal

namespace SettlementItems

def surfaces (items : SettlementItems) : List (Option AmountItems) :=
  [items.localSettledCash, items.providerSettledCash, items.localUnsettledReceivable,
    items.providerUnsettledReceivable, items.localUnsettledPayable,
    items.providerUnsettledPayable]

/-- `settlement_requested`. -/
def requested (items : SettlementItems) : Bool := items.surfaces.any Option.isSome

/-- The checks and the normalization of the settlement surfaces. -/
def normalize (items : SettlementItems) (activityComplete : Option Bool) :
    Except ReconciliationError SettlementMaps := do
  if items.requested ∧ items.surfaces.any Option.isNone then
    throw (.valueError
      "settlement reconciliation requires all local/provider settlement surfaces")
  if items.requested ∧ activityComplete = none then
    throw (.valueError "settlement reconciliation requires explicit activity completeness")
  let localSettled ← amountMap (items.localSettledCash.getD []) "local_settled_cash"
  let providerSettled ← amountMap (items.providerSettledCash.getD []) "provider_settled_cash"
  let localReceivable ← amountMap (items.localUnsettledReceivable.getD [])
    "local_unsettled_receivable"
  let providerReceivable ← amountMap (items.providerUnsettledReceivable.getD [])
    "provider_unsettled_receivable"
  let localPayable ← amountMap (items.localUnsettledPayable.getD []) "local_unsettled_payable"
  let providerPayable ← amountMap (items.providerUnsettledPayable.getD [])
    "provider_unsettled_payable"
  if [localReceivable, providerReceivable, localPayable, providerPayable].any
      fun amounts => amounts.values.any (· < 0) then
    throw (.valueError "unsettled settlement surfaces must be non-negative")
  pure ⟨localSettled, providerSettled, localReceivable, providerReceivable, localPayable,
    providerPayable⟩

end SettlementItems

/-- `settlement_differences`: the differences of the three surfaces, keyed by
surface and currency. -/
def settlementDifferences (compared : Bool) (maps : SettlementMaps) :
    Except ReconciliationError (List (String × Decimal)) := do
  if ¬ compared then pure []
  else
    let settled ← differences nonzeroDifference maps.localSettled maps.providerSettled
    let receivable ← differences nonzeroDifference maps.localReceivable maps.providerReceivable
    let payable ← differences nonzeroDifference maps.localPayable maps.providerPayable
    pure (settled.map (fun entry => ("SETTLED:" ++ entry.1, entry.2)) ++
      receivable.map (fun entry => ("RECEIVABLE:" ++ entry.1, entry.2)) ++
      payable.map (fun entry => ("PAYABLE:" ++ entry.1, entry.2)))

/-- The scope of the provider activities, given apart from the evidence. -/
def checkActivityScope (scope : AccountScope) (provider account : Option String) [CaseMap] :
    Except ReconciliationError Unit := do
  let provider ← Option.map upper <$> optionalText provider "provider_activity_provider_id"
  let account ← optionalText account "provider_activity_account_id"
  if provider.isNone ≠ account.isNone then
    throw (.valueError "provider activity scope must provide provider/account together")
  if provider.any (· ≠ scope.providerId) then
    throw (.valueError "provider activity scope differs from reconciliation provider_id")
  if account.any (· ≠ scope.accountId) then
    throw (.valueError "provider activity scope differs from reconciliation account_id")

/-- `activity_coverage_complete`, with the scope check of the coverage. -/
def activityCoverageComplete (scope : AccountScope) (start finish : Instant) (required : Bool)
    (coverage : Option CoverageSurfaceEvidence) : Except ReconciliationError Bool :=
  if coverage.any (·.scope ≠ scope) then
    .error (.valueError "provider activity coverage scope mismatch")
  else
    pure (!required || coverage.any fun coverage =>
      coverage.surface = "ACTIVITIES" && coverage.provesCompleteWindow start finish)

/-! ## The collected evidence -/

/-- The local variables of `reconcile_account` after its last exception. -/
structure Gathered where
  scope : AccountScope
  start : Instant
  finish : Instant
  providerCash : Dict String Decimal
  providerPositions : Dict String Decimal
  localIds : Finset String
  fills : List ProviderFillEvidence
  localWorking : Finset String
  orders : List ProviderWorkingOrderEvidence
  snapshotWindowCovered : Bool
  activeRecalls : List String
  borrowDifferences : List (String × Decimal)
  settlementDifferences : List (String × Decimal)
  cashDifferences : List (String × Decimal)
  positionDifferences : List (String × Decimal)
  localActivities : Finset String
  activities : List ProviderActivityEvidence
  activityCoverageComplete : Bool
  searched : Finset String
  absence : List CoverageSurfaceEvidence
  submissions : List UnknownSubmission

/-- The part of `reconcile_account` that may raise. -/
def gather [CaseMap] [IsoFormat] (args : ReconcileArguments) :
    Except ReconciliationError Gathered := do
  let scope ← AccountScope.create args.providerId args.accountId args.environment
    args.providerEnvironment
  let start ← timeText args.coverageStart "coverage_start"
  let finish ← timeText args.coverageEnd "coverage_end"
  if finish.instant < start.instant then
    throw (.valueError "coverage_end must not precede coverage_start")
  let localCash ← amountMap args.localCash "local_cash"
  let providerCash ← amountMap args.providerCash "provider_cash"
  let localPositions ← amountMap args.localPositions "local_positions"
  let providerPositions ← amountMap args.providerPositions "provider_positions"
  let cashTolerance ← amountMap args.cashTolerance "cash_tolerance"
  let positionTolerance ← amountMap args.positionTolerance "position_tolerance"
  if cashTolerance.values.any (· < 0) ∨ positionTolerance.values.any (· < 0) then
    throw (.valueError "reconciliation tolerances must be non-negative")
  let localIds ← uniqueTexts args.localExecutionIds "local_execution_id" "local_execution_ids"
  let fills ← (fillCollector scope).collect args.providerFills
  let localWorking ← uniqueTexts args.localWorkingClientOrderIds
    "local_working_client_order_id" "local_working_client_order_ids"
  let orders ← (orderCollector scope).collect args.providerWorkingOrders
  let snapshotWindowCovered ← snapshotWindow scope start.instant finish.instant
    args.snapshotConsistency
  checkResourceAvailability scope args.snapshotConsistency args.resourceAvailability
  let localBorrowed ← amountMap args.localBorrowedResources "local_borrowed_resources"
  let providerBorrowed ← amountMap args.providerBorrowedResources "provider_borrowed_resources"
  let activeRecalls ← args.activeBorrowRecallResources.mapM
    (text · "active_borrow_recall_resource")
  if ¬ activeRecalls.Nodup then
    throw (.valueError "active_borrow_recall_resources must be unique")
  let borrowDetails := (args.resourceAvailability.map (·.resourceDetails)).getD ∅
  ((localBorrowed.keys.toFinset ∪ providerBorrowed.keys.toFinset ∪
    activeRecalls.toFinset).sort (· ≤ ·)).forM (checkBorrowResource borrowDetails)
  let borrowDifferences ← differences nonzeroDifference localBorrowed providerBorrowed
  let settlementMaps ← args.settlement.normalize args.settlementActivityComplete
  let settlementDifferences ← settlementDifferences
    (args.settlement.requested && args.settlementActivityComplete = some true) settlementMaps
  let cashDifferences ← differences (beyondTolerance cashTolerance) localCash providerCash
  let positionDifferences ← differences (beyondTolerance positionTolerance) localPositions
    providerPositions
  let localActivities ← uniqueTexts args.localProviderActivityIds "local_provider_activity_id"
    "local_provider_activity_ids"
  checkActivityScope scope args.providerActivityProviderId args.providerActivityAccountId
  let activities ← (activityCollector scope).collect args.providerActivities
  let activityCoverageComplete ← activityCoverageComplete scope start.instant finish.instant
    args.requireActivityReconciliation args.activityCoverage
  let searched ← args.searchedClientOrderIds.mapM (text · "searched_client_order_id")
  let absence ← absenceCoverageIndex scope args.absenceCoverage
  let submissions ← (submissionCollector scope).collect args.unknownSubmissions
  pure {
    scope, providerCash, providerPositions, localIds, fills, localWorking, orders,
    snapshotWindowCovered, activeRecalls, borrowDifferences, settlementDifferences,
    cashDifferences, positionDifferences, localActivities, activities,
    activityCoverageComplete, absence, submissions
    start := start.instant
    finish := finish.instant
    searched := searched.toFinset }

/-! ## Resolutions -/

inductive Outcome where
  | unknown
  | observedExecution
  | observedWorkingOrder
  | provenAbsent
  deriving DecidableEq, Repr

structure SubmissionResolution where
  attemptId : String
  intentId : String
  clientOrderId : String
  outcome : Outcome
  evidenceReason : String
  providerOrderIds : List String
  providerExecutionIds : List String
  deriving DecidableEq, Repr

/-- A fill without reconciliation authority. -/
def inadmissible (fill : ProviderFillEvidence) : Bool := fill.ingressErrors ≠ []

/-- The resources an activity blocks. -/
def activityResources (activity : ProviderActivityEvidence) : List String :=
  if activity.instrument = none ∧ activity.currency = none then ["ACCOUNT"]
  else
    (activity.instrument.map ("INSTRUMENT:" ++ ·)).toList ++
      (activity.currency.map ("CASH:" ++ ·)).toList

/-- `settlement_resource.split(":", 1)[1]`. -/
def settlementCurrency (resource : String) : String :=
  String.ofList ((resource.toList.dropWhile (· ≠ ':')).drop 1)

/-- The resources blocked under a condition. -/
def whenever (condition : Bool) (resources : List String) : List String :=
  if condition then resources else []

namespace Gathered

/-- `provider_by_id`. -/
def admissibleFills (gathered : Gathered) : List ProviderFillEvidence :=
  gathered.fills.filter (¬ inadmissible ·)

/-- `inadmissible_provider_by_id`. -/
def inadmissibleFills (gathered : Gathered) : List ProviderFillEvidence :=
  gathered.fills.filter inadmissible

/-- `snapshot_is_consistent`. -/
def snapshotIsConsistent (gathered : Gathered)
    (snapshot : Option SnapshotConsistencyEvidence) : Bool :=
  snapshot.any SnapshotConsistencyEvidence.consistent && gathered.snapshotWindowCovered

/-- `provider_working_by_client_id`. -/
def workingOrder (gathered : Gathered) (clientOrderId : String) :
    Option ProviderWorkingOrderEvidence :=
  gathered.orders.find? (·.clientOrderId = some clientOrderId)

/-- `_absence_is_proven`. -/
def absenceIsProven (gathered : Gathered) (submissionTime : Instant) : Bool :=
  ["OPEN_ORDERS", "ORDER_HISTORY", "EXECUTIONS", "ACTIVITIES"].all fun surface =>
    (gathered.absence.find? (·.surface = surface)).any fun evidence =>
      evidence.providerSemanticsExcludeExecution &&
        evidence.provesCompleteWindow submissionTime gathered.finish

/-- The executions of a client order id between its submission and the end of
the coverage. -/
def causalExecutionIds (gathered : Gathered) (submission : UnknownSubmission) :
    List String :=
  ((gathered.admissibleFills.filter fun fill =>
      fill.clientOrderId = some submission.clientOrderId &&
        (submission.startedAt.instant ≤ fill.tradeTime.instant &&
          fill.tradeTime.instant ≤ gathered.finish)).map
    ProviderFillEvidence.providerExecutionId).toFinset.sort (· ≤ ·)

/-- The reason of an outcome that no evidence decides. -/
def unknownReason (gathered : Gathered) (args : ReconcileArguments)
    (submission : UnknownSubmission) : String :=
  if ¬ args.paginationComplete then "provider_activity_pagination_incomplete"
  else if submission.clientOrderId ∉ gathered.searched then
    "client_order_id_not_explicitly_searched"
  else if ¬ (gathered.start ≤ submission.startedAt.instant ∧
      submission.startedAt.instant ≤ gathered.finish) then
    "submission_time_outside_complete_coverage"
  else if ¬ gathered.snapshotIsConsistent args.snapshotConsistency then
    "provider_snapshot_consistency_not_evidenced"
  else "absence_surface_evidence_incomplete"

/-- The resolution of one submission. -/
def resolve (gathered : Gathered) (args : ReconcileArguments)
    (submission : UnknownSubmission) : SubmissionResolution :=
  let working := gathered.workingOrder submission.clientOrderId
  let executionIds := gathered.causalExecutionIds submission
  let consistent := gathered.snapshotIsConsistent args.snapshotConsistency
  let causal := working.isSome && consistent && args.snapshotConsistency.any
    fun snapshot => submission.startedAt.instant ≤ snapshot.queryStartedAt.instant
  let resolution (outcome : Outcome) (reason : String) (orderIds : List String) :
      SubmissionResolution :=
    ⟨submission.attemptId, submission.intentId, submission.clientOrderId, outcome, reason,
      orderIds, executionIds⟩
  if executionIds ≠ [] then
    resolution .observedExecution "provider_execution_observed_after_submission" []
  else if causal then
    resolution .observedWorkingOrder
      "provider_working_order_observed_in_post_submission_snapshot"
      (working.map ProviderWorkingOrderEvidence.providerOrderId).toList
  else if working.isSome then
    resolution .unknown "provider_working_order_snapshot_not_causal_for_submission" []
  else if gathered.inadmissibleFills.any (·.clientOrderId = some submission.clientOrderId) then
    resolution .unknown
      "matching_provider_execution_lacks_financial_reconciliation_authority" []
  else if gathered.admissibleFills.any (·.clientOrderId = some submission.clientOrderId) then
    resolution .unknown "matching_provider_execution_outside_submission_window" []
  else if consistent ∧ args.paginationComplete ∧
      submission.clientOrderId ∈ gathered.searched ∧
      (gathered.start ≤ submission.startedAt.instant ∧
        submission.startedAt.instant ≤ gathered.finish) ∧
      gathered.absenceIsProven submission.startedAt.instant then
    resolution .provenAbsent
      ("complete_open_history_execution_activity_coverage_" ++
        "with_elapsed_consistency_horizons_and_provider_semantics") []
  else resolution .unknown (gathered.unknownReason args submission) []

/-! ## The verdict -/

def resolutions (gathered : Gathered) (args : ReconcileArguments) :
    List SubmissionResolution :=
  gathered.submissions.map (gathered.resolve args)

/-- `provider_ids`. -/
def providerIds (gathered : Gathered) : Finset String :=
  (gathered.admissibleFills.map ProviderFillEvidence.providerExecutionId).toFinset

/-- The fills of `unexpected`. -/
def unexpectedFills (gathered : Gathered) : List ProviderFillEvidence :=
  gathered.admissibleFills.filter (·.providerExecutionId ∉ gathered.localIds)

/-- `missing`. -/
def missingExecutions (gathered : Gathered) : Finset String :=
  gathered.localIds \ gathered.providerIds

/-- `provider_working_client_ids`. -/
def workingClientIds (gathered : Gathered) : Finset String :=
  (gathered.orders.filterMap ProviderWorkingOrderEvidence.clientOrderId).toFinset

/-- The orders of `unexpected_working`. -/
def unexpectedOrders (gathered : Gathered) : List ProviderWorkingOrderEvidence :=
  gathered.orders.filter fun order => order.clientOrderId.all (· ∉ gathered.localWorking)

/-- `missing_local_working`. -/
def missingWorking (gathered : Gathered) : Finset String :=
  gathered.localWorking \ gathered.workingClientIds

/-- `provider_activity_ids`. -/
def activityIds (gathered : Gathered) : Finset String :=
  (gathered.activities.map ProviderActivityEvidence.activityId).toFinset

/-- The activities of `unexpected_activities`. -/
def unexpectedActivities (gathered : Gathered) : List ProviderActivityEvidence :=
  gathered.activities.filter (·.activityId ∉ gathered.localActivities)

/-- The activities of `manual_or_external_activities`. -/
def manualActivities (gathered : Gathered) : List ProviderActivityEvidence :=
  gathered.unexpectedActivities.filter fun activity =>
    activity.origin ∈ [ActivityOrigin.manual, .external, .unknown]

/-- `missing_local_activities`. -/
def missingActivities (gathered : Gathered) : Finset String :=
  gathered.localActivities \ gathered.activityIds

/-- The additions to `blocking`, in source order. -/
def blockedResources (gathered : Gathered) (args : ReconcileArguments) : List String :=
  gathered.borrowDifferences.map Prod.fst ++
  gathered.activeRecalls ++
  whenever (!gathered.snapshotIsConsistent args.snapshotConsistency) ["ACCOUNT"] ++
  whenever (!args.paginationComplete) ["ACCOUNT"] ++
  whenever (gathered.inadmissibleFills ≠ [])
    ("ACCOUNT" :: gathered.inadmissibleFills.map ("INSTRUMENT:" ++ ·.instrument)) ++
  gathered.unexpectedFills.map ("INSTRUMENT:" ++ ·.instrument) ++
  whenever (gathered.missingExecutions ≠ ∅) ["ACCOUNT"] ++
  gathered.unexpectedOrders.map ("INSTRUMENT:" ++ ·.instrument) ++
  whenever (gathered.missingWorking ≠ ∅) ["ACCOUNT"] ++
  whenever (args.requireActivityReconciliation && !gathered.activityCoverageComplete)
    ["ACCOUNT"] ++
  gathered.unexpectedActivities.flatMap activityResources ++
  whenever (gathered.missingActivities ≠ ∅) ["ACCOUNT"] ++
  whenever (args.settlement.requested && args.settlementActivityComplete ≠ some true)
    ["ACCOUNT"] ++
  gathered.settlementDifferences.map (fun entry => "CASH:" ++ settlementCurrency entry.1) ++
  gathered.cashDifferences.map (fun entry => "CASH:" ++ entry.1) ++
  gathered.positionDifferences.map (fun entry => "INSTRUMENT:" ++ entry.1) ++
  whenever ((gathered.resolutions args).any (·.outcome = .unknown)) ["ACCOUNT"]

/-- The reason of an inconsistent snapshot. -/
def snapshotReason (gathered : Gathered) (snapshot : Option SnapshotConsistencyEvidence) :
    String :=
  match snapshot with
  | none => "provider snapshot consistency is not evidenced"
  | some snapshot =>
      if ¬ gathered.snapshotWindowCovered then
        "provider snapshot query window is outside reconciliation coverage"
      else if snapshot.sequenceGapDetected then
        "provider snapshot stream contains a sequence gap"
      else "provider composed snapshot did not complete buffered stream replay"

/-- `reasons`. -/
def reasons (gathered : Gathered) (args : ReconcileArguments) : List String :=
  whenever (gathered.borrowDifferences ≠ [])
    ["provider/local securities-borrow obligation differs"] ++
  whenever (gathered.activeRecalls ≠ [])
    ["active provider securities-borrow recall blocks increased short risk"] ++
  whenever (!gathered.snapshotIsConsistent args.snapshotConsistency)
    [gathered.snapshotReason args.snapshotConsistency] ++
  whenever (!args.paginationComplete) ["provider activity pagination is incomplete"] ++
  whenever (gathered.inadmissibleFills ≠ [])
    ["provider execution evidence lacks reconciliation financial direction/provenance authority"]
    ++
  whenever (gathered.unexpectedFills ≠ [])
    ["provider contains fills absent from local economic truth"] ++
  whenever (gathered.missingExecutions ≠ ∅)
    ["local fills are absent from provider evidence window"] ++
  whenever (gathered.unexpectedOrders ≠ [])
    ["provider contains working orders absent from local order truth"] ++
  whenever (gathered.missingWorking ≠ ∅)
    ["local working orders are absent from provider working-order snapshot"] ++
  whenever (args.requireActivityReconciliation && !gathered.activityCoverageComplete)
    ["provider activity coverage is incomplete for the reconciliation window"] ++
  whenever (gathered.unexpectedActivities ≠ [])
    ["provider contains account activity absent from local truth"] ++
  whenever (gathered.manualActivities ≠ [])
    ["manual, external or unknown-origin provider activity requires import or " ++
      "explicit reconciliation"] ++
  whenever (gathered.missingActivities ≠ ∅)
    ["local provider activity identities are absent from provider activity evidence"] ++
  whenever (args.settlement.requested && args.settlementActivityComplete ≠ some true)
    ["provider settlement/activity coverage is incomplete"] ++
  whenever (gathered.settlementDifferences ≠ [])
    ["provider/local settled or pending cash differs"] ++
  whenever (gathered.cashDifferences ≠ [])
    ["cash snapshot differs beyond declared tolerance"] ++
  whenever (gathered.positionDifferences ≠ [])
    ["position snapshot differs beyond declared tolerance"] ++
  whenever ((gathered.resolutions args).any (·.outcome = .unknown))
    ["one or more submission attempts remain UNKNOWN"] ++
  whenever ((gathered.resolutions args).any (·.outcome = .observedExecution))
    ["previously UNKNOWN submission has provider execution evidence"] ++
  whenever ((gathered.resolutions args).any (·.outcome = .observedWorkingOrder))
    ["previously UNKNOWN submission has provider working-order evidence"]

/-- `complete`. -/
def complete (gathered : Gathered) (args : ReconcileArguments) : Bool :=
  gathered.snapshotIsConsistent args.snapshotConsistency &&
  args.paginationComplete &&
  gathered.inadmissibleFills = [] &&
  gathered.unexpectedFills = [] &&
  gathered.missingExecutions = ∅ &&
  gathered.unexpectedOrders = [] &&
  gathered.missingWorking = ∅ &&
  gathered.activityCoverageComplete &&
  gathered.unexpectedActivities = [] &&
  gathered.missingActivities = ∅ &&
  gathered.borrowDifferences = [] &&
  gathered.activeRecalls = [] &&
  gathered.cashDifferences = [] &&
  gathered.positionDifferences = [] &&
  (!args.settlement.requested ||
    (args.settlementActivityComplete = some true && gathered.settlementDifferences = [])) &&
  (gathered.resolutions args).all (·.outcome ≠ .unknown)

end Gathered

structure ReconciliationResult where
  scope : AccountScope
  complete : Bool
  matchedExecutionIds : List String
  unexpectedExecutionIds : List String
  missingLocalExecutionIds : List String
  matchedWorkingClientOrderIds : List String
  unexpectedWorkingProviderOrderIds : List String
  missingLocalWorkingClientOrderIds : List String
  snapshotConsistent : Bool
  providerCash : Dict String Decimal
  providerPositions : Dict String Decimal
  snapshot : Option SnapshotConsistencyEvidence
  cashDifferences : List (String × Decimal)
  positionDifferences : List (String × Decimal)
  submissionResolutions : List SubmissionResolution
  blockingResources : List String
  reasons : List String
  matchedProviderActivityIds : List String
  unexpectedProviderActivityIds : List String
  missingLocalProviderActivityIds : List String
  manualOrExternalActivityIds : List String
  activityCoverageComplete : Bool
  resourceAvailability : Option ResourceAvailabilityEvidence
  borrowDifferences : List (String × Decimal)
  settlementDifferences : List (String × Decimal)
  settlementActivityComplete : Bool
  settlementReconciliationPerformed : Bool
  unexpectedProviderFills : List ProviderFillEvidence

/-- `tuple(sorted(...))` on a set of identities. -/
def sorted (members : Finset String) : List String := members.sort (· ≤ ·)

/-- The part of `reconcile_account` that only computes. -/
def Gathered.verdict (gathered : Gathered) (args : ReconcileArguments) :
    ReconciliationResult where
  scope := gathered.scope
  complete := gathered.complete args
  matchedExecutionIds := sorted (gathered.localIds ∩ gathered.providerIds)
  unexpectedExecutionIds := sorted (gathered.providerIds \ gathered.localIds)
  missingLocalExecutionIds := sorted gathered.missingExecutions
  matchedWorkingClientOrderIds := sorted (gathered.localWorking ∩ gathered.workingClientIds)
  unexpectedWorkingProviderOrderIds := sorted
    (gathered.unexpectedOrders.map ProviderWorkingOrderEvidence.providerOrderId).toFinset
  missingLocalWorkingClientOrderIds := sorted gathered.missingWorking
  snapshotConsistent := gathered.snapshotIsConsistent args.snapshotConsistency
  providerCash := gathered.providerCash
  providerPositions := gathered.providerPositions
  snapshot := args.snapshotConsistency
  cashDifferences := gathered.cashDifferences
  positionDifferences := gathered.positionDifferences
  submissionResolutions := gathered.resolutions args
  blockingResources := sorted (gathered.blockedResources args).toFinset
  reasons := gathered.reasons args
  matchedProviderActivityIds := sorted (gathered.localActivities ∩ gathered.activityIds)
  unexpectedProviderActivityIds := sorted (gathered.activityIds \ gathered.localActivities)
  missingLocalProviderActivityIds := sorted gathered.missingActivities
  manualOrExternalActivityIds := sorted
    (gathered.manualActivities.map ProviderActivityEvidence.activityId).toFinset
  activityCoverageComplete := gathered.activityCoverageComplete
  resourceAvailability := args.resourceAvailability
  borrowDifferences := gathered.borrowDifferences
  settlementDifferences := gathered.settlementDifferences
  settlementActivityComplete := !args.settlement.requested ||
    args.settlementActivityComplete = some true
  settlementReconciliationPerformed := args.settlement.requested
  unexpectedProviderFills := (sorted (gathered.providerIds \ gathered.localIds)).filterMap
    fun execution => gathered.admissibleFills.find? (·.providerExecutionId = execution)

/-- `reconcile_account`. -/
def reconcileAccount [CaseMap] [IsoFormat] (args : ReconcileArguments) :
    Except ReconciliationError ReconciliationResult := do
  let gathered ← gather args
  pure (gathered.verdict args)

/-! ## A sample -/

def sampleScope : AccountScope := ⟨"ALPACA", "account-1", .paper, "PAPER"⟩

/-- A snapshot taken in one query at noon. -/
def sampleSnapshot : SnapshotConsistencyEvidence where
  scope := sampleScope
  mode := .atomic
  queryStartedAt := ⟨"2026-01-01T12:00:00Z", ⟨1767268800000000⟩⟩
  queryCompletedAt := ⟨"2026-01-01T12:00:05Z", ⟨1767268805000000⟩⟩
  bufferedStreamEvents := false
  replayComplete := false
  sequenceGapDetected := false
  ordered := by decide

/-- An account without any evidence, covered for one day. -/
def sampleArguments : ReconcileArguments where
  providerId := "alpaca"
  accountId := "account-1"
  environment := "PAPER"
  providerEnvironment := none
  localCash := [("USD", .text "100.00")]
  providerCash := [("USD", .text "100.00")]
  localPositions := []
  providerPositions := []
  localExecutionIds := []
  providerFills := []
  localWorkingClientOrderIds := []
  providerWorkingOrders := []
  snapshotConsistency := some sampleSnapshot
  unknownSubmissions := []
  searchedClientOrderIds := []
  coverageStart := "2026-01-01T00:00:00Z"
  coverageEnd := "2026-01-02T00:00:00Z"
  paginationComplete := true
  absenceCoverage := []
  localProviderActivityIds := []
  providerActivities := []
  providerActivityProviderId := none
  providerActivityAccountId := none
  activityCoverage := none
  requireActivityReconciliation := false
  cashTolerance := []
  positionTolerance := []
  resourceAvailability := none
  localBorrowedResources := []
  providerBorrowedResources := []
  activeBorrowRecallResources := []
  settlement := ⟨none, none, none, none, none, none⟩
  settlementActivityComplete := none

section

attribute [local instance] CaseMap.ascii IsoFormat.seconds

example : (reconcileAccount sampleArguments).map (fun result =>
    (result.complete, result.blockingResources)) = .ok (true, []) := by
  decide +kernel

end

end AutoTrade.Reconciliation
