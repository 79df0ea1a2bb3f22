import AutoTrade.Lib.Numbered
import AutoTrade.Reconciliation.Absence
import AutoTrade.Reconciliation.Verdicts

/-!
# Reconciliation does not depend on the order of its evidence

Two calls whose arguments differ by the order of the observations and of the
identities both raise or return verdicts that agree.  `gather` keeps similar
observations, and every part of the verdict is a function of the identities of
what was kept.
-/

namespace AutoTrade.Reconciliation

open Lib Numeric

/-! ## Reordered arguments -/

/-- The lists of the arguments whose order is arbitrary. -/
structure Evidence where
  providerFills : List ProviderFillEvidence
  providerWorkingOrders : List ProviderWorkingOrderEvidence
  providerActivities : List ProviderActivityEvidence
  absenceCoverage : List CoverageSurfaceEvidence
  unknownSubmissions : List UnknownSubmission
  localExecutionIds : List String
  localWorkingClientOrderIds : List String
  localProviderActivityIds : List String
  searchedClientOrderIds : List String

/-- Each list of one is a permutation of the list of the other. -/
structure Evidence.Reordered (left right : Evidence) : Prop where
  providerFills : left.providerFills.Perm right.providerFills
  providerWorkingOrders : left.providerWorkingOrders.Perm right.providerWorkingOrders
  providerActivities : left.providerActivities.Perm right.providerActivities
  absenceCoverage : left.absenceCoverage.Perm right.absenceCoverage
  unknownSubmissions : left.unknownSubmissions.Perm right.unknownSubmissions
  localExecutionIds : left.localExecutionIds.Perm right.localExecutionIds
  localWorkingClientOrderIds :
    left.localWorkingClientOrderIds.Perm right.localWorkingClientOrderIds
  localProviderActivityIds :
    left.localProviderActivityIds.Perm right.localProviderActivityIds
  searchedClientOrderIds : left.searchedClientOrderIds.Perm right.searchedClientOrderIds

namespace ReconcileArguments

def evidence (args : ReconcileArguments) : Evidence where
  providerFills := args.providerFills
  providerWorkingOrders := args.providerWorkingOrders
  providerActivities := args.providerActivities
  absenceCoverage := args.absenceCoverage
  unknownSubmissions := args.unknownSubmissions
  localExecutionIds := args.localExecutionIds
  localWorkingClientOrderIds := args.localWorkingClientOrderIds
  localProviderActivityIds := args.localProviderActivityIds
  searchedClientOrderIds := args.searchedClientOrderIds

def withEvidence (args : ReconcileArguments) (evidence : Evidence) : ReconcileArguments :=
  { args with
    providerFills := evidence.providerFills
    providerWorkingOrders := evidence.providerWorkingOrders
    providerActivities := evidence.providerActivities
    absenceCoverage := evidence.absenceCoverage
    unknownSubmissions := evidence.unknownSubmissions
    localExecutionIds := evidence.localExecutionIds
    localWorkingClientOrderIds := evidence.localWorkingClientOrderIds
    localProviderActivityIds := evidence.localProviderActivityIds
    searchedClientOrderIds := evidence.searchedClientOrderIds }

end ReconcileArguments

/-! ## The parts that raise -/

theorem uniqueTexts_perm {values others : List String} {item name : String}
    (perm : values.Perm others) :
    Agree Eq (uniqueTexts values item name) (uniqueTexts others item name) := by
  rw [uniqueTexts, uniqueTexts]
  apply Agree.bind (Agree.mapM_perm perm _)
  intro left right _ _ related
  simp only [related.nodup_iff]
  apply Agree.guarded
  intro _
  exact List.toFinset_eq_of_perm _ _ related

theorem absenceCoverageIndex_perm {scope : AccountScope}
    {evidence others : List CoverageSurfaceEvidence} (perm : evidence.Perm others) :
    Agree List.Perm (absenceCoverageIndex scope evidence)
      (absenceCoverageIndex scope others) := by
  have together : ∀ {left right : List CoverageSurfaceEvidence}, left.Perm right →
      ∀ {kept}, absenceCoverageIndex scope left = .ok kept →
        absenceCoverageIndex scope right = .ok right ∧ kept = left := by
    intro left right perm kept success
    obtain ⟨same, inScope, distinct⟩ := absenceCoverageIndex_eq_ok.mp success
    constructor
    · rw [absenceCoverageIndex_eq_ok]
      refine ⟨rfl, ?_, (perm.map _).nodup_iff.mp distinct⟩
      intro item member
      exact inScope item (perm.mem_iff.mpr member)
    · exact same.symm
  cases first : absenceCoverageIndex scope evidence with
  | error error =>
      cases second : absenceCoverageIndex scope others with
      | error other => exact Agree.error_error
      | ok kept =>
          rw [(together perm.symm second).1] at first
          cases first
  | ok kept =>
      obtain ⟨second, rfl⟩ := together perm first
      rw [second]
      exact perm

/-! ## What two orders gather -/

/-- The observations that one call keeps. -/
structure Kept where
  fills : List ProviderFillEvidence
  orders : List ProviderWorkingOrderEvidence
  activities : List ProviderActivityEvidence
  absence : List CoverageSurfaceEvidence
  submissions : List UnknownSubmission

def Gathered.withKept (gathered : Gathered) (kept : Kept) : Gathered :=
  { gathered with
    fills := kept.fills
    orders := kept.orders
    activities := kept.activities
    absence := kept.absence
    submissions := kept.submissions }

/-- The observations kept by a call and by a reordered one. -/
structure Alike (gathered : Gathered) (kept : Kept) : Prop where
  fills : (fillCollector gathered.scope).Similar gathered.fills kept.fills
  orders : ∀ {order}, order ∈ gathered.orders ↔ order ∈ kept.orders
  activities : ∀ {activity}, activity ∈ gathered.activities ↔ activity ∈ kept.activities
  absence : gathered.absence.Perm kept.absence
  submissions : ∀ {submission},
    submission ∈ gathered.submissions ↔ submission ∈ kept.submissions

/-- Two orders of the evidence are refused together, or gather alike. -/
theorem gather_reordered [CaseMap] [IsoFormat] {args : ReconcileArguments} {evidence : Evidence}
    (reordered : args.evidence.Reordered evidence) :
    Agree (fun left right => ∃ kept, Alike left kept ∧ right = left.withKept kept)
      (gather args) (gather (args.withEvidence evidence)) := by
  unfold gather
  apply Agree.bind (Agree.same _)
  rintro scope _ _ _ rfl
  apply Agree.bind (Agree.same _)
  rintro start _ _ _ rfl
  apply Agree.bind (Agree.same _)
  rintro finish _ _ _ rfl
  apply Agree.guarded
  intro _
  apply Agree.bind (Agree.same _)
  rintro localCash _ _ _ rfl
  apply Agree.bind (Agree.same _)
  rintro providerCash _ _ _ rfl
  apply Agree.bind (Agree.same _)
  rintro localPositions _ _ _ rfl
  apply Agree.bind (Agree.same _)
  rintro providerPositions _ _ _ rfl
  apply Agree.bind (Agree.same _)
  rintro cashTolerance _ _ _ rfl
  apply Agree.bind (Agree.same _)
  rintro positionTolerance _ _ _ rfl
  apply Agree.guarded
  intro _
  apply Agree.bind (uniqueTexts_perm reordered.localExecutionIds)
  rintro localIds _ _ _ rfl
  apply Agree.bind (Collector.collect_perm (fillCollector_lawful scope) reordered.providerFills)
  intro fills otherFills _ _ fillsAlike
  apply Agree.bind (uniqueTexts_perm reordered.localWorkingClientOrderIds)
  rintro localWorking _ _ _ rfl
  apply Agree.bind (Collector.collect_perm (orderCollector_lawful scope)
    reordered.providerWorkingOrders)
  intro orders otherOrders _ _ ordersAlike
  apply Agree.bind (Agree.same _)
  rintro covered _ _ _ rfl
  apply Agree.bind (Agree.same _)
  rintro _ _ _ _ rfl
  apply Agree.bind (Agree.same _)
  rintro localBorrowed _ _ _ rfl
  apply Agree.bind (Agree.same _)
  rintro providerBorrowed _ _ _ rfl
  apply Agree.bind (Agree.same _)
  rintro recalls _ _ _ rfl
  apply Agree.guarded
  intro _
  apply Agree.bind (Agree.same _)
  rintro _ _ _ _ rfl
  apply Agree.bind (Agree.same _)
  rintro borrow _ _ _ rfl
  apply Agree.bind (Agree.same _)
  rintro maps _ _ _ rfl
  apply Agree.bind (Agree.same _)
  rintro settlement _ _ _ rfl
  apply Agree.bind (Agree.same _)
  rintro cash _ _ _ rfl
  apply Agree.bind (Agree.same _)
  rintro positions _ _ _ rfl
  apply Agree.bind (uniqueTexts_perm reordered.localProviderActivityIds)
  rintro localActivities _ _ _ rfl
  apply Agree.bind (Agree.same _)
  rintro _ _ _ _ rfl
  apply Agree.bind (Collector.collect_perm (activityCollector_lawful scope)
    reordered.providerActivities)
  intro activities otherActivities _ _ activitiesAlike
  apply Agree.bind (Agree.same _)
  rintro coverage _ _ _ rfl
  apply Agree.bind (Agree.mapM_perm reordered.searchedClientOrderIds _)
  intro searched otherSearched _ _ searchedPerm
  apply Agree.bind (absenceCoverageIndex_perm reordered.absenceCoverage)
  intro absence otherAbsence _ _ absencePerm
  apply Agree.bind (Collector.collect_perm (submissionCollector_lawful scope)
    reordered.unknownSubmissions)
  intro submissions otherSubmissions _ _ submissionsAlike
  use ⟨otherFills, otherOrders, otherActivities, otherAbsence, otherSubmissions⟩
  constructor
  · constructor
    · exact fillsAlike
    · intro order
      exact ordersAlike.mem_iff of_decide_eq_true
    · intro activity
      exact activitiesAlike.mem_iff of_decide_eq_true
    · exact absencePerm
    · intro submission
      exact submissionsAlike.mem_iff of_decide_eq_true
  · simp only [Gathered.withKept, List.toFinset_eq_of_perm _ _ searchedPerm]

/-! ## The parts of the verdict -/

/-- A lookup by a unique key depends on the members only. -/
theorem find?_eq_of_mem_iff {α κ : Type} [DecidableEq κ] {key : α → κ} {left right : List α}
    (leftDistinct : (left.map key).Nodup) (rightDistinct : (right.map key).Nodup)
    (same : ∀ {item}, item ∈ left ↔ item ∈ right) (wanted : κ) :
    left.find? (key · = wanted) = right.find? (key · = wanted) := by
  have found : ∀ {items : List α} {item : α}, (items.map key).Nodup →
      (items.find? (key · = wanted) = some item ↔ item ∈ items ∧ key item = wanted) := by
    intro items item distinct
    constructor
    · intro success
      exact ⟨List.mem_of_find?_eq_some success, by simpa using List.find?_some success⟩
    · rintro ⟨member, rfl⟩
      exact find?_key distinct member
  ext item
  rw [found leftDistinct, found rightDistinct, same]

theorem eq_nil_of_mem_iff {α : Type} {left right : List α}
    (same : ∀ {item}, item ∈ left ↔ item ∈ right) : left = [] ↔ right = [] := by
  rw [List.eq_nil_iff_forall_not_mem, List.eq_nil_iff_forall_not_mem]
  simp only [same]

theorem mem_map_of_mem_iff {α β : Type} {left right : List α} {image : α → β}
    (same : ∀ {item}, item ∈ left ↔ item ∈ right) {value : β} :
    value ∈ left.map image ↔ value ∈ right.map image := by
  simp only [List.mem_map, same]

theorem append_congr {first second third fourth : List String} (left : first = third)
    (right : second = fourth) : first ++ second = third ++ fourth := by
  rw [left, right]

theorem mem_append_congr {first second third fourth : List String} {member : String}
    (left : member ∈ first ↔ member ∈ third) (right : member ∈ second ↔ member ∈ fourth) :
    member ∈ first ++ second ↔ member ∈ third ++ fourth := by
  rw [List.mem_append, List.mem_append, left, right]

theorem whenever_nonempty {α : Type} [DecidableEq α] {left right : List α}
    (same : left = [] ↔ right = []) {resources : List String} :
    whenever (left ≠ []) resources = whenever (right ≠ []) resources := by
  rw [decide_eq_decide.mpr (not_congr same)]

theorem mem_whenever_congr {condition : Bool} {left right : List String} {member : String}
    (same : member ∈ left ↔ member ∈ right) :
    member ∈ whenever condition left ↔ member ∈ whenever condition right := by
  cases condition with
  | false => rfl
  | true => exact same

/-- The images of observations that a comparison by identity leaves unchanged. -/
theorem fill_respects {β : Type} {scope : AccountScope}
    {image : ProviderFillEvidence → β}
    (decided : ∀ left right : ProviderFillEvidence, left.identity = right.identity →
      image left = image right) : (fillCollector scope).Respects image := by
  intro left right _ agrees
  exact decided left right (of_decide_eq_true agrees)

section

variable {gathered : Gathered} {kept : Kept} {args : ReconcileArguments}

namespace Alike

theorem admissibleFills (alike : Alike gathered kept) :
    (fillCollector gathered.scope).Similar gathered.admissibleFills
      (gathered.withKept kept).admissibleFills := by
  apply alike.fills.filter
  apply fill_respects
  intro left right same
  rw [inadmissible_congr same]

theorem inadmissibleFills (alike : Alike gathered kept) :
    (fillCollector gathered.scope).Similar gathered.inadmissibleFills
      (gathered.withKept kept).inadmissibleFills := by
  apply alike.fills.filter
  apply fill_respects
  intro left right same
  exact inadmissible_congr same

theorem providerIds (alike : Alike gathered kept) :
    (gathered.withKept kept).providerIds = gathered.providerIds := by
  apply Eq.symm
  apply alike.admissibleFills.image_eq
  intro left right same _
  exact same

theorem unexpectedFills (alike : Alike gathered kept) :
    (fillCollector gathered.scope).Similar gathered.unexpectedFills
      (gathered.withKept kept).unexpectedFills := by
  apply alike.admissibleFills.filter
  intro left right same _
  have execution : left.providerExecutionId = right.providerExecutionId := same
  dsimp only
  rw [execution]

theorem missingExecutions (alike : Alike gathered kept) :
    (gathered.withKept kept).missingExecutions = gathered.missingExecutions := by
  rw [Gathered.missingExecutions, alike.providerIds]
  rfl

theorem workingClientIds (alike : Alike gathered kept) :
    (gathered.withKept kept).workingClientIds = gathered.workingClientIds := by
  ext id
  simp only [Gathered.workingClientIds, List.mem_toFinset, List.mem_filterMap, alike.orders]
  rfl

theorem missingWorking (alike : Alike gathered kept) :
    (gathered.withKept kept).missingWorking = gathered.missingWorking := by
  rw [Gathered.missingWorking, alike.workingClientIds]
  rfl

theorem unexpectedOrders (alike : Alike gathered kept) {order : ProviderWorkingOrderEvidence} :
    order ∈ gathered.unexpectedOrders ↔ order ∈ (gathered.withKept kept).unexpectedOrders := by
  rw [Gathered.unexpectedOrders, Gathered.unexpectedOrders, List.mem_filter, List.mem_filter,
    alike.orders]
  rfl

theorem activityIds (alike : Alike gathered kept) :
    (gathered.withKept kept).activityIds = gathered.activityIds := by
  ext id
  simp only [Gathered.activityIds, List.mem_toFinset, List.mem_map, alike.activities]
  rfl

theorem missingActivities (alike : Alike gathered kept) :
    (gathered.withKept kept).missingActivities = gathered.missingActivities := by
  rw [Gathered.missingActivities, alike.activityIds]
  rfl

theorem unexpectedActivities (alike : Alike gathered kept)
    {activity : ProviderActivityEvidence} :
    activity ∈ gathered.unexpectedActivities ↔
      activity ∈ (gathered.withKept kept).unexpectedActivities := by
  rw [Gathered.unexpectedActivities, Gathered.unexpectedActivities, List.mem_filter,
    List.mem_filter, alike.activities]
  rfl

theorem manualActivities (alike : Alike gathered kept) {activity : ProviderActivityEvidence} :
    activity ∈ gathered.manualActivities ↔
      activity ∈ (gathered.withKept kept).manualActivities := by
  rw [Gathered.manualActivities, Gathered.manualActivities, List.mem_filter, List.mem_filter,
    alike.unexpectedActivities]

/-! ### Resolutions -/

theorem causalExecutionIds (alike : Alike gathered kept) (submission : UnknownSubmission) :
    (gathered.withKept kept).causalExecutionIds submission =
      gathered.causalExecutionIds submission := by
  have selected := alike.admissibleFills.filter (fun fill =>
    fill.clientOrderId = some submission.clientOrderId &&
      (submission.startedAt.instant ≤ fill.tradeTime.instant &&
        fill.tradeTime.instant ≤ gathered.finish)) (by
    apply fill_respects
    intro left right same
    have client : left.clientOrderId = right.clientOrderId :=
      congrArg ProviderFillEvidence.Identity.clientOrderId same
    have time : left.tradeTime.instant = right.tradeTime.instant :=
      congrArg ProviderFillEvidence.Identity.tradeTime same
    rw [client, time])
  rw [Gathered.causalExecutionIds, Gathered.causalExecutionIds]
  apply congrArg (Finset.sort · (· ≤ ·))
  apply Eq.symm
  apply selected.image_eq
  intro left right same _
  exact same

theorem any_fill (alike : Alike gathered kept) (client : Option String) :
    (gathered.withKept kept).inadmissibleFills.any (·.clientOrderId = client) =
        gathered.inadmissibleFills.any (·.clientOrderId = client) ∧
      (gathered.withKept kept).admissibleFills.any (·.clientOrderId = client) =
        gathered.admissibleFills.any (·.clientOrderId = client) := by
  have respects : (fillCollector gathered.scope).Respects
      ProviderFillEvidence.clientOrderId := by
    apply fill_respects
    intro left right same
    exact congrArg ProviderFillEvidence.Identity.clientOrderId same
  have seen : ∀ {left right : List ProviderFillEvidence},
      (fillCollector gathered.scope).Similar left right →
      right.any (·.clientOrderId = client) = left.any (·.clientOrderId = client) := by
    intro left right similar
    rw [Bool.eq_iff_iff, List.any_eq_true, List.any_eq_true]
    have same : client ∈ left.map ProviderFillEvidence.clientOrderId ↔
        client ∈ right.map ProviderFillEvidence.clientOrderId := similar.mem_map_iff respects
    simpa [List.mem_map] using same.symm
  exact ⟨seen alike.inadmissibleFills, seen alike.admissibleFills⟩

/-- No two kept orders share a client order id. -/
theorem workingOrder (alike : Alike gathered kept)
    (unique : ∀ left ∈ gathered.orders, ∀ right ∈ gathered.orders,
      left.clientOrderId.isSome → left.clientOrderId = right.clientOrderId → left = right)
    (client : String) :
    (gathered.withKept kept).workingOrder client = gathered.workingOrder client := by
  have lookup : ∀ orders : List ProviderWorkingOrderEvidence,
      (∀ order, order ∈ gathered.orders ↔ order ∈ orders) → ∀ order,
      (orders.find? (·.clientOrderId = some client) = some order ↔
        order ∈ gathered.orders ∧ order.clientOrderId = some client) := by
    intro orders same order
    constructor
    · intro found
      exact ⟨(same order).mpr (List.mem_of_find?_eq_some found),
        by simpa using List.find?_some found⟩
    · rintro ⟨member, carries⟩
      cases found : orders.find? (·.clientOrderId = some client) with
      | none =>
          have missing := List.find?_eq_none.mp found order ((same order).mp member)
          simp [carries] at missing
      | some other =>
          have otherCarries : other.clientOrderId = some client := by
            simpa using List.find?_some found
          rw [unique other ((same other).mpr (List.mem_of_find?_eq_some found)) order member
            (by rw [otherCarries]; rfl) (otherCarries.trans carries.symm)]
  ext order
  exact (lookup kept.orders (fun _ => alike.orders) order).trans
    (lookup gathered.orders (fun _ => Iff.rfl) order).symm

theorem absenceIsProven (alike : Alike gathered kept)
    (distinct : (gathered.absence.map CoverageSurfaceEvidence.surface).Nodup)
    (submitted : Instant) :
    (gathered.withKept kept).absenceIsProven submitted = gathered.absenceIsProven submitted := by
  have lookup := find?_eq_of_mem_iff ((alike.absence.map _).nodup_iff.mp distinct) distinct
    alike.absence.mem_iff.symm
  simp only [Gathered.absenceIsProven, Gathered.withKept, lookup]

theorem resolve (alike : Alike gathered kept)
    (unique : ∀ left ∈ gathered.orders, ∀ right ∈ gathered.orders,
      left.clientOrderId.isSome → left.clientOrderId = right.clientOrderId → left = right)
    (distinct : (gathered.absence.map CoverageSurfaceEvidence.surface).Nodup)
    (submission : UnknownSubmission) :
    (gathered.withKept kept).resolve args submission = gathered.resolve args submission := by
  have fills := alike.any_fill (some submission.clientOrderId)
  simp only [Gathered.resolve, alike.workingOrder unique, alike.causalExecutionIds, fills.1,
    fills.2, alike.absenceIsProven distinct]
  rfl

theorem resolutions (alike : Alike gathered kept)
    (unique : ∀ left ∈ gathered.orders, ∀ right ∈ gathered.orders,
      left.clientOrderId.isSome → left.clientOrderId = right.clientOrderId → left = right)
    (distinct : (gathered.absence.map CoverageSurfaceEvidence.surface).Nodup)
    {resolution : SubmissionResolution} :
    resolution ∈ gathered.resolutions args ↔
      resolution ∈ (gathered.withKept kept).resolutions args := by
  simp only [Gathered.resolutions, List.mem_map, alike.submissions,
    alike.resolve unique distinct]
  rfl

end Alike

/-! ## The verdict -/

/-- Two results agree on everything that a verdict names by identity. -/
structure SameVerdict (left right : ReconciliationResult) : Prop where
  complete : left.complete = right.complete
  blockingResources : left.blockingResources = right.blockingResources
  reasons : left.reasons = right.reasons
  matchedExecutionIds : left.matchedExecutionIds = right.matchedExecutionIds
  unexpectedExecutionIds : left.unexpectedExecutionIds = right.unexpectedExecutionIds
  missingLocalExecutionIds : left.missingLocalExecutionIds = right.missingLocalExecutionIds
  matchedWorkingClientOrderIds :
    left.matchedWorkingClientOrderIds = right.matchedWorkingClientOrderIds
  unexpectedWorkingProviderOrderIds :
    left.unexpectedWorkingProviderOrderIds = right.unexpectedWorkingProviderOrderIds
  missingLocalWorkingClientOrderIds :
    left.missingLocalWorkingClientOrderIds = right.missingLocalWorkingClientOrderIds
  matchedProviderActivityIds :
    left.matchedProviderActivityIds = right.matchedProviderActivityIds
  unexpectedProviderActivityIds :
    left.unexpectedProviderActivityIds = right.unexpectedProviderActivityIds
  missingLocalProviderActivityIds :
    left.missingLocalProviderActivityIds = right.missingLocalProviderActivityIds
  manualOrExternalActivityIds :
    left.manualOrExternalActivityIds = right.manualOrExternalActivityIds
  unexpectedProviderFills : left.unexpectedProviderFills.map ProviderFillEvidence.identity =
    right.unexpectedProviderFills.map ProviderFillEvidence.identity
  cashDifferences : left.cashDifferences = right.cashDifferences
  positionDifferences : left.positionDifferences = right.positionDifferences
  borrowDifferences : left.borrowDifferences = right.borrowDifferences
  settlementDifferences : left.settlementDifferences = right.settlementDifferences
  resolutions : ∀ attempt,
    left.submissionResolutions.find? (·.attemptId = attempt) =
      right.submissionResolutions.find? (·.attemptId = attempt)

/-- What the constraints on one call's observations leave unique. -/
structure Unambiguous (gathered : Gathered) : Prop where
  fills : (gathered.fills.map ProviderFillEvidence.providerExecutionId).Nodup
  orders : ∀ left ∈ gathered.orders, ∀ right ∈ gathered.orders,
    left.clientOrderId.isSome → left.clientOrderId = right.clientOrderId → left = right
  absence : (gathered.absence.map CoverageSurfaceEvidence.surface).Nodup
  submissions : (gathered.submissions.map UnknownSubmission.attemptId).Nodup

theorem Gathering.unambiguous [CaseMap] [IsoFormat] (gathering : Gathering args gathered) :
    Unambiguous gathered where
  fills := (Collector.collect_collected (fillCollector_lawful gathered.scope)
    gathering.fills).distinct
  orders := by
    intro left leftMem right rightMem known same
    have lawful := orderCollector_lawful gathered.scope
    have collected := Collector.collect_collected lawful gathering.orders
    have consistent := collected.consistent lawful
    by_cases identity : left.providerOrderId = right.providerOrderId
    · exact of_decide_eq_true (consistent.agree left (collected.subset left leftMem) right
        (collected.subset right rightMem) identity)
    · have clear := consistent.apart left (collected.subset left leftMem) right
        (collected.subset right rightMem) identity
      by_contra different
      have clash : (orderCollector gathered.scope).clashes left right = true := by
        simp only [orderCollector, Bool.and_eq_true, decide_eq_true_eq]
        exact ⟨⟨known, same⟩, different⟩
      rw [clash] at clear
      cases clear
  absence := by
    obtain ⟨same, -, distinct⟩ := absenceCoverageIndex_eq_ok.mp gathering.absence
    rw [← same]
    exact distinct
  submissions := (Collector.collect_collected (submissionCollector_lawful gathered.scope)
    gathering.submissions).distinct

namespace Alike

theorem any_outcome (alike : Alike gathered kept) (unambiguous : Unambiguous gathered)
    (outcome : Outcome) :
    ((gathered.withKept kept).resolutions args).any (·.outcome = outcome) =
      (gathered.resolutions args).any (·.outcome = outcome) := by
  rw [Bool.eq_iff_iff, List.any_eq_true, List.any_eq_true]
  simp only [alike.resolutions unambiguous.orders unambiguous.absence]

theorem reasons (alike : Alike gathered kept) (unambiguous : Unambiguous gathered) :
    (gathered.withKept kept).reasons args = gathered.reasons args := by
  unfold Gathered.reasons
  repeat' with_reducible apply append_congr
  · rfl
  · rfl
  · rfl
  · rfl
  · exact whenever_nonempty alike.inadmissibleFills.eq_nil_iff.symm
  · exact whenever_nonempty alike.unexpectedFills.eq_nil_iff.symm
  · rw [alike.missingExecutions]
  · exact whenever_nonempty (eq_nil_of_mem_iff alike.unexpectedOrders).symm
  · rw [alike.missingWorking]
  · rfl
  · exact whenever_nonempty (eq_nil_of_mem_iff alike.unexpectedActivities).symm
  · exact whenever_nonempty (eq_nil_of_mem_iff alike.manualActivities).symm
  · rw [alike.missingActivities]
  · rfl
  · rfl
  · rfl
  · rfl
  · rw [alike.any_outcome unambiguous]
  · rw [alike.any_outcome unambiguous]
  · rw [alike.any_outcome unambiguous]

theorem blockedResources (alike : Alike gathered kept) (unambiguous : Unambiguous gathered)
    {resource : String} :
    resource ∈ (gathered.withKept kept).blockedResources args ↔
      resource ∈ gathered.blockedResources args := by
  have instrument : (fillCollector gathered.scope).Respects
      ("INSTRUMENT:" ++ ·.instrument) := by
    apply fill_respects
    intro left right same
    rw [show left.instrument = right.instrument from
      congrArg ProviderFillEvidence.Identity.instrument same]
  unfold Gathered.blockedResources
  repeat' with_reducible apply mem_append_congr
  · rfl
  · rfl
  · rfl
  · rfl
  · rw [whenever_nonempty alike.inadmissibleFills.eq_nil_iff.symm]
    apply mem_whenever_congr
    rw [List.mem_cons, List.mem_cons, alike.inadmissibleFills.mem_map_iff instrument]
  · exact (alike.unexpectedFills.mem_map_iff instrument).symm
  · rw [alike.missingExecutions]
  · exact (mem_map_of_mem_iff alike.unexpectedOrders).symm
  · rw [alike.missingWorking]
  · rfl
  · simp only [List.mem_flatMap, alike.unexpectedActivities]
  · rw [alike.missingActivities]
  · rfl
  · rfl
  · rfl
  · rfl
  · rw [alike.any_outcome unambiguous]

/-- The fills that are reported for an execution are observations of it. -/
theorem unexpectedProviderFills (alike : Alike gathered kept)
    (unambiguous : Unambiguous gathered) (other : Unambiguous (gathered.withKept kept)) :
    ((gathered.withKept kept).verdict args).unexpectedProviderFills.map
        ProviderFillEvidence.identity =
      (gathered.verdict args).unexpectedProviderFills.map ProviderFillEvidence.identity := by
  have distinct : ∀ {gathered : Gathered}, Unambiguous gathered →
      ((gathered.admissibleFills.map ProviderFillEvidence.identity).map
        ProviderFillEvidence.Identity.providerExecutionId).Nodup := by
    intro gathered unambiguous
    rw [List.map_map]
    exact unambiguous.fills.sublist (List.filter_sublist.map _)
  have identities : ∀ {identity},
      identity ∈ (gathered.withKept kept).admissibleFills.map ProviderFillEvidence.identity ↔
        identity ∈ gathered.admissibleFills.map ProviderFillEvidence.identity := by
    intro identity
    apply (alike.admissibleFills.mem_map_iff _).symm
    exact fill_respects fun _ _ same => same
  have lookup : ∀ execution : String,
      ((gathered.withKept kept).admissibleFills.find?
          (·.providerExecutionId = execution)).map ProviderFillEvidence.identity =
        (gathered.admissibleFills.find?
          (·.providerExecutionId = execution)).map ProviderFillEvidence.identity := by
    intro execution
    have same := find?_eq_of_mem_iff (distinct other) (distinct unambiguous) identities execution
    rw [List.find?_map, List.find?_map] at same
    exact same
  have executions : sorted ((gathered.withKept kept).providerIds \
      (gathered.withKept kept).localIds) =
        sorted (gathered.providerIds \ gathered.localIds) := by
    rw [alike.providerIds]
    rfl
  change ((sorted ((gathered.withKept kept).providerIds \
      (gathered.withKept kept).localIds)).filterMap _).map _ =
    ((sorted (gathered.providerIds \ gathered.localIds)).filterMap _).map _
  rw [executions, List.map_filterMap, List.map_filterMap]
  simp only [lookup]

theorem submissionResolutions (alike : Alike gathered kept)
    (unambiguous : Unambiguous gathered) (other : Unambiguous (gathered.withKept kept))
    (attempt : String) :
    ((gathered.withKept kept).resolutions args).find? (·.attemptId = attempt) =
      (gathered.resolutions args).find? (·.attemptId = attempt) := by
  have distinct : ∀ {gathered : Gathered}, Unambiguous gathered →
      ((gathered.resolutions args).map SubmissionResolution.attemptId).Nodup := by
    intro gathered unambiguous
    have attempts : (gathered.resolutions args).map SubmissionResolution.attemptId =
        gathered.submissions.map UnknownSubmission.attemptId := by
      rw [Gathered.resolutions, List.map_map]
      apply List.map_congr_left
      intro submission _
      exact Gathered.resolve_attemptId
    rw [attempts]
    exact unambiguous.submissions
  exact find?_eq_of_mem_iff (distinct other) (distinct unambiguous)
    (alike.resolutions unambiguous.orders unambiguous.absence).symm attempt

/-- The verdicts of calls that gather alike. -/
theorem sameVerdict (alike : Alike gathered kept) (unambiguous : Unambiguous gathered)
    (other : Unambiguous (gathered.withKept kept))
    (complete : gathered.complete args = (gathered.withKept kept).complete args) :
    SameVerdict (gathered.verdict args) ((gathered.withKept kept).verdict args) where
  complete := complete
  blockingResources := by
    simp only [Gathered.verdict]
    apply congrArg sorted
    ext resource
    rw [List.mem_toFinset, List.mem_toFinset, alike.blockedResources unambiguous]
  reasons := (alike.reasons unambiguous).symm
  matchedExecutionIds := by
    simp only [Gathered.verdict, alike.providerIds]
    rfl
  unexpectedExecutionIds := by
    simp only [Gathered.verdict, alike.providerIds]
    rfl
  missingLocalExecutionIds := by
    simp only [Gathered.verdict, alike.missingExecutions]
  matchedWorkingClientOrderIds := by
    simp only [Gathered.verdict, alike.workingClientIds]
    rfl
  unexpectedWorkingProviderOrderIds := by
    simp only [Gathered.verdict]
    apply congrArg sorted
    ext id
    rw [List.mem_toFinset, List.mem_toFinset, mem_map_of_mem_iff alike.unexpectedOrders]
  missingLocalWorkingClientOrderIds := by
    simp only [Gathered.verdict, alike.missingWorking]
  matchedProviderActivityIds := by
    simp only [Gathered.verdict, alike.activityIds]
    rfl
  unexpectedProviderActivityIds := by
    simp only [Gathered.verdict, alike.activityIds]
    rfl
  missingLocalProviderActivityIds := by
    simp only [Gathered.verdict, alike.missingActivities]
  manualOrExternalActivityIds := by
    simp only [Gathered.verdict]
    apply congrArg sorted
    ext id
    rw [List.mem_toFinset, List.mem_toFinset, mem_map_of_mem_iff alike.manualActivities]
  unexpectedProviderFills := (alike.unexpectedProviderFills unambiguous other).symm
  cashDifferences := rfl
  positionDifferences := rfl
  borrowDifferences := rfl
  settlementDifferences := rfl
  resolutions attempt := (alike.submissionResolutions unambiguous other attempt).symm

end Alike

end

/-- Two orders of the evidence raise together, or return the same verdict. -/
theorem order_independent [CaseMap] [IsoFormat] {args : ReconcileArguments}
    {evidence : Evidence} (reordered : args.evidence.Reordered evidence) :
    Agree SameVerdict (reconcileAccount args) (reconcileAccount (args.withEvidence evidence)) := by
  rw [reconcileAccount, reconcileAccount]
  apply Agree.bind (gather_reordered reordered)
  rintro gathered _ first second ⟨kept, alike, rfl⟩
  have gathering := gather_spec first
  have other := gather_spec second
  have complete : gathered.complete args = (gathered.withKept kept).complete args := by
    have rest : (gathered.withKept kept).complete args = true ↔
        (gathered.withKept kept).blockedResources args = [] := other.complete_iff
    rw [Bool.eq_iff_iff, gathering.complete_iff, rest]
    exact eq_nil_of_mem_iff (alike.blockedResources gathering.unambiguous).symm
  exact alike.sameVerdict gathering.unambiguous other.unambiguous complete

/-! ## A sample -/

section

attribute [local instance] CaseMap.ascii IsoFormat.seconds

/-- The coverage of the sample search in the opposite order. -/
def sampleReversed : Evidence :=
  { sampleSearched.evidence with
    absenceCoverage := sampleSearched.absenceCoverage.reverse }

theorem reversed_same_verdict :
    Agree SameVerdict (reconcileAccount sampleSearched)
      (reconcileAccount (sampleSearched.withEvidence sampleReversed)) := by
  apply order_independent
  constructor
  case absenceCoverage => exact (List.reverse_perm _).symm
  all_goals exact List.Perm.refl _

example : (reconcileAccount (sampleSearched.withEvidence sampleReversed)).toOption.isSome := by
  decide +kernel

end

end AutoTrade.Reconciliation
