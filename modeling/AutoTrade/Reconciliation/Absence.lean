import AutoTrade.Reconciliation.Gathering

/-!
# Proven absence

A submission is resolved as proven absent exactly when no provider observation
carries its client order id and the arguments evidence a complete search for it.
Both halves are stated on the arguments, so an observation cannot be lost on the
way, and more observations never prove an absence.
-/

namespace AutoTrade.Reconciliation

open Lib Numeric

/-- A surface is covered from the submission to the end of the coverage, by
evidence that excludes an execution. -/
structure SurfaceExcludes (evidence : CoverageSurfaceEvidence) (submitted finish : Instant) :
    Prop where
  semantics : evidence.providerSemanticsExcludeExecution
  pagination : evidence.paginationComplete
  horizon : evidence.consistencyHorizonSatisfied
  start : evidence.coverageStart ≤ submitted
  finish : finish ≤ evidence.coverageEnd

/-- What the arguments evidence about a submission that never reached the
provider. -/
structure Absent [IsoFormat] (args : ReconcileArguments) (submission : UnknownSubmission) :
    Prop where
  noFill : ∀ fill ∈ args.providerFills,
    fill.clientOrderId ≠ some submission.clientOrderId
  noOrder : ∀ order ∈ args.providerWorkingOrders,
    order.clientOrderId ≠ some submission.clientOrderId
  searched : ∃ value ∈ args.searchedClientOrderIds, strip value = submission.clientOrderId
  snapshot : SnapshotConsistent args
  pagination : args.paginationComplete
  covered : ∃ start finish, CoverageWindow args start finish ∧
    start ≤ submission.startedAt.instant ∧ submission.startedAt.instant ≤ finish ∧
    ∀ surface ∈ ["OPEN_ORDERS", "ORDER_HISTORY", "EXECUTIONS", "ACTIVITIES"],
      ∃ evidence ∈ args.absenceCoverage, evidence.surface = surface ∧
        SurfaceExcludes evidence submission.startedAt.instant finish

namespace Gathered

/-- The order of the cases leaves proven absence to a submission without any
observation. -/
theorem resolve_provenAbsent {gathered : Gathered} {args : ReconcileArguments}
    {submission : UnknownSubmission} :
    (gathered.resolve args submission).outcome = .provenAbsent ↔
      (∀ fill ∈ gathered.fills, fill.clientOrderId ≠ some submission.clientOrderId) ∧
      (∀ order ∈ gathered.orders, order.clientOrderId ≠ some submission.clientOrderId) ∧
      gathered.snapshotIsConsistent args.snapshotConsistency = true ∧
      args.paginationComplete = true ∧ submission.clientOrderId ∈ gathered.searched ∧
      (gathered.start ≤ submission.startedAt.instant ∧
        submission.startedAt.instant ≤ gathered.finish) ∧
      gathered.absenceIsProven submission.startedAt.instant = true := by
  have noOrder : (gathered.workingOrder submission.clientOrderId).isSome = false ↔
      ∀ order ∈ gathered.orders, order.clientOrderId ≠ some submission.clientOrderId := by
    simp [workingOrder]
  have noFill : (gathered.inadmissibleFills.any
        (·.clientOrderId = some submission.clientOrderId) = false ∧
      gathered.admissibleFills.any
        (·.clientOrderId = some submission.clientOrderId) = false) ↔
      ∀ fill ∈ gathered.fills, fill.clientOrderId ≠ some submission.clientOrderId := by
    simp only [inadmissibleFills, admissibleFills, List.any_eq_false, List.mem_filter,
      decide_eq_true_eq, and_imp, Bool.not_eq_true, ne_eq]
    constructor
    · rintro ⟨refused, admissible⟩ fill member
      cases authority : inadmissible fill with
      | true => exact refused fill member authority
      | false => exact admissible fill member authority
    · intro none
      constructor
      · intro fill member _
        exact none fill member
      · intro fill member _
        exact none fill member
  have noExecution : gathered.admissibleFills.any
        (·.clientOrderId = some submission.clientOrderId) = false →
      gathered.causalExecutionIds submission = [] := by
    intro none
    have empty : (gathered.admissibleFills.filter fun fill =>
        fill.clientOrderId = some submission.clientOrderId &&
          (submission.startedAt.instant ≤ fill.tradeTime.instant &&
            fill.tradeTime.instant ≤ gathered.finish)) = [] := by
      rw [List.filter_eq_nil_iff]
      intro fill member
      rw [Bool.and_eq_true, not_and]
      intro same
      exact absurd same (List.any_eq_false.mp none fill member)
    rw [causalExecutionIds, empty, List.map_nil, List.toFinset_nil, Finset.sort_empty]
  rw [← noFill, ← noOrder, resolve]
  dsimp only
  split
  next executions =>
    constructor
    · intro outcome
      cases outcome
    · rintro ⟨⟨-, admissible⟩, -⟩
      exact absurd (noExecution admissible) executions
  next executions =>
    split
    next causal =>
      constructor
      · intro outcome
        cases outcome
      · rintro ⟨-, working, -⟩
        rw [working] at causal
        cases causal
    next =>
      split
      next working =>
        constructor
        · intro outcome
          cases outcome
        · rintro ⟨-, none, -⟩
          rw [none] at working
          cases working
      next working =>
        split
        next refused =>
          constructor
          · intro outcome
            cases outcome
          · rintro ⟨⟨none, -⟩, -⟩
            rw [none] at refused
            cases refused
        next refused =>
          split
          next admissible =>
            constructor
            · intro outcome
              cases outcome
            · rintro ⟨⟨-, none⟩, -⟩
              rw [none] at admissible
              cases admissible
          next admissible =>
            rw [Bool.not_eq_true] at working refused admissible
            split
            next proven =>
              constructor
              · intro _
                exact ⟨⟨refused, admissible⟩, working, proven⟩
              · intro _
                rfl
            next unproven =>
              constructor
              · intro outcome
                cases outcome
              · rintro ⟨-, -, proven⟩
                exact absurd proven unproven

end Gathered

theorem Gathered.resolve_attemptId {gathered : Gathered} {args : ReconcileArguments}
    {submission : UnknownSubmission} :
    (gathered.resolve args submission).attemptId = submission.attemptId := by
  rw [resolve]
  split_ifs <;> rfl

theorem Gathered.resolve_clientOrderId {gathered : Gathered} {args : ReconcileArguments}
    {submission : UnknownSubmission} :
    (gathered.resolve args submission).clientOrderId = submission.clientOrderId := by
  rw [resolve]
  split_ifs <;> rfl

namespace Gathering

variable [CaseMap] [IsoFormat] {args : ReconcileArguments} {gathered : Gathered}

/-- The required surfaces are looked up among the coverage records. -/
theorem absenceIsProven_iff (gathering : Gathering args gathered) {submitted : Instant} :
    (submitted ≤ gathered.finish ∧ gathered.absenceIsProven submitted = true) ↔
      submitted ≤ gathered.finish ∧
        ∀ surface ∈ ["OPEN_ORDERS", "ORDER_HISTORY", "EXECUTIONS", "ACTIVITIES"],
          ∃ evidence ∈ args.absenceCoverage, evidence.surface = surface ∧
            SurfaceExcludes evidence submitted gathered.finish := by
  obtain ⟨same, -, distinct⟩ := absenceCoverageIndex_eq_ok.mp gathering.absence
  apply and_congr_right
  intro before
  rw [Gathered.absenceIsProven, List.all_eq_true]
  apply forall₂_congr
  intro surface _
  rw [← same, Option.any_eq_true]
  constructor
  · rintro ⟨evidence, found, excludes⟩
    simp only [CoverageSurfaceEvidence.provesCompleteWindow, Bool.and_eq_true,
      decide_eq_true_eq] at excludes
    obtain ⟨semantics, ⟨pagination, horizon⟩, ⟨start, -⟩, finish⟩ := excludes
    use evidence, List.mem_of_find?_eq_some found
    exact ⟨by simpa using List.find?_some found, semantics, pagination, horizon, start, finish⟩
  · rintro ⟨evidence, member, rfl, excludes⟩
    use evidence
    constructor
    · cases found : args.absenceCoverage.find? (·.surface = evidence.surface) with
      | none =>
          have missing := List.find?_eq_none.mp found evidence member
          simp at missing
      | some other =>
          have otherSurface : other.surface = evidence.surface := by
            simpa using List.find?_some found
          rw [List.inj_on_of_nodup_map distinct (List.mem_of_find?_eq_some found) member
            otherSurface]
    · simp only [CoverageSurfaceEvidence.provesCompleteWindow, Bool.and_eq_true,
        decide_eq_true_eq]
      exact ⟨excludes.semantics, ⟨excludes.pagination, excludes.horizon⟩,
        ⟨excludes.start, before⟩, excludes.finish⟩

/-- A submission is proven absent exactly when the arguments evidence it. -/
theorem provenAbsent_iff (gathering : Gathering args gathered)
    {submission : UnknownSubmission} :
    (gathered.resolve args submission).outcome = .provenAbsent ↔ Absent args submission := by
  have searched : submission.clientOrderId ∈ gathered.searched ↔
      ∃ value ∈ args.searchedClientOrderIds, strip value = submission.clientOrderId := by
    obtain ⟨texts, parsed, same⟩ := gathering.searched
    rw [← same, List.mem_toFinset, mem_texts parsed]
  have noFill : (∀ fill ∈ gathered.fills,
        fill.clientOrderId ≠ some submission.clientOrderId) ↔
      ∀ fill ∈ args.providerFills, fill.clientOrderId ≠ some submission.clientOrderId := by
    have seen := gathering.exists_fill
      (fun fill => fill.clientOrderId = some submission.clientOrderId) (by
        intro left right same
        rw [show left.clientOrderId = right.clientOrderId from
          congrArg ProviderFillEvidence.Identity.clientOrderId same])
    have absent := not_congr seen.symm
    push Not at absent
    exact absent
  rw [Gathered.resolve_provenAbsent, noFill, searched, gathering.snapshotIsConsistent_iff,
    and_assoc (b := submission.startedAt.instant ≤ gathered.finish),
    gathering.absenceIsProven_iff]
  simp only [gathering.mem_orders]
  constructor
  · rintro ⟨fills, orders, snapshot, pagination, search, started, finished, covered⟩
    exact ⟨fills, orders, search, snapshot, pagination, gathered.start, gathered.finish,
      ⟨gathering.start, gathering.finish⟩, started, finished, covered⟩
  · rintro ⟨fills, orders, search, snapshot, pagination, start, finish, ⟨startOk, finishOk⟩,
      started, finished, covered⟩
    cases gathering.start.symm.trans startOk
    cases gathering.finish.symm.trans finishOk
    exact ⟨fills, orders, snapshot, pagination, search, started, finished, covered⟩

end Gathering

/-- More observations evidence no further absence. -/
theorem Absent.of_more [IsoFormat] {args : ReconcileArguments} {submission : UnknownSubmission}
    {fills : List ProviderFillEvidence} {orders : List ProviderWorkingOrderEvidence}
    (moreFills : args.providerFills ⊆ fills) (moreOrders : args.providerWorkingOrders ⊆ orders)
    (absent : Absent { args with providerFills := fills, providerWorkingOrders := orders }
      submission) : Absent args submission where
  noFill fill member := absent.noFill fill (moreFills member)
  noOrder order member := absent.noOrder order (moreOrders member)
  searched := absent.searched
  snapshot := absent.snapshot
  pagination := absent.pagination
  covered := absent.covered

/-- A submission that is resolved as proven absent is evidenced to be absent, and
further observations never resolve another outcome as proven absent. -/
theorem absence_never_contradicted [CaseMap] [IsoFormat] {args : ReconcileArguments}
    {result : ReconciliationResult} (success : reconcileAccount args = .ok result) :
    (∀ resolution ∈ result.submissionResolutions, resolution.outcome = .provenAbsent →
      ∃ submission ∈ args.unknownSubmissions,
        submission.attemptId = resolution.attemptId ∧
          submission.clientOrderId = resolution.clientOrderId ∧ Absent args submission) ∧
    ∀ fills orders more, args.providerFills ⊆ fills → args.providerWorkingOrders ⊆ orders →
      reconcileAccount { args with providerFills := fills, providerWorkingOrders := orders } =
        .ok more →
      ∀ resolution ∈ result.submissionResolutions, ∀ other ∈ more.submissionResolutions,
        resolution.attemptId = other.attemptId → other.outcome = .provenAbsent →
          resolution.outcome = .provenAbsent := by
  rw [reconcileAccount, bind_eq_ok] at success
  obtain ⟨gathered, returned, success⟩ := success
  rw [pure_eq_ok] at success
  subst success
  have gathering := gather_spec returned
  have collected := Collector.collect_collected (submissionCollector_lawful gathered.scope)
    gathering.submissions
  constructor
  · intro resolution member absent
    obtain ⟨submission, kept, rfl⟩ := List.mem_map.mp member
    use submission, collected.subset submission kept
    exact ⟨Gathered.resolve_attemptId.symm, Gathered.resolve_clientOrderId.symm,
      gathering.provenAbsent_iff.mp absent⟩
  · intro fills orders more moreFills moreOrders moreOk resolution member other otherMem same
      absent
    rw [reconcileAccount, bind_eq_ok] at moreOk
    obtain ⟨others, othersOk, moreOk⟩ := moreOk
    rw [pure_eq_ok] at moreOk
    subst moreOk
    have gatheringMore := gather_spec othersOk
    have scopes : gathered.scope = others.scope :=
      Except.ok.inj (gathering.scope.symm.trans gatheringMore.scope)
    have submissions : gathered.submissions = others.submissions := by
      have kept := gathering.submissions
      rw [scopes] at kept
      exact Except.ok.inj (kept.symm.trans gatheringMore.submissions)
    obtain ⟨submission, kept, rfl⟩ := List.mem_map.mp member
    obtain ⟨again, keptAgain, rfl⟩ := List.mem_map.mp otherMem
    rw [Gathered.resolve_attemptId, Gathered.resolve_attemptId] at same
    rw [← submissions] at keptAgain
    cases List.inj_on_of_nodup_map collected.distinct kept keptAgain same
    exact gathering.provenAbsent_iff.mpr
      ((gatheringMore.provenAbsent_iff.mp absent).of_more moreFills moreOrders)

/-! ## A sample -/

section

attribute [local instance] CaseMap.ascii IsoFormat.seconds

/-- A surface that is covered for the whole day of the sample. -/
def sampleSurface (surface : String) : CoverageSurfaceEvidence where
  scope := sampleScope
  surface := surface
  coverageStart := ⟨1767225600000000⟩
  coverageEnd := ⟨1767312000000000⟩
  paginationComplete := true
  consistencyHorizonSatisfied := true
  providerSemanticsExcludeExecution := true
  ordered := by decide

/-- One submission of unknown outcome that a complete search did not find. -/
def sampleSearched : ReconcileArguments :=
  { sampleArguments with
    unknownSubmissions := [⟨"attempt-1", "intent-1", "client-1", sampleScope,
      ⟨"2026-01-01T10:00:00Z", ⟨1767261600000000⟩⟩⟩]
    searchedClientOrderIds := ["client-1"]
    absenceCoverage :=
      ["OPEN_ORDERS", "ORDER_HISTORY", "EXECUTIONS", "ACTIVITIES"].map sampleSurface }

theorem searched_absence_never_contradicted : ∃ result,
    reconcileAccount sampleSearched = .ok result ∧
    (∀ resolution ∈ result.submissionResolutions, resolution.outcome = .provenAbsent →
      ∃ submission ∈ sampleSearched.unknownSubmissions,
        submission.attemptId = resolution.attemptId ∧
          submission.clientOrderId = resolution.clientOrderId ∧
          Absent sampleSearched submission) ∧
    ∀ fills orders more, sampleSearched.providerFills ⊆ fills →
      sampleSearched.providerWorkingOrders ⊆ orders →
      reconcileAccount { sampleSearched with
        providerFills := fills, providerWorkingOrders := orders } = .ok more →
      ∀ resolution ∈ result.submissionResolutions, ∀ other ∈ more.submissionResolutions,
        resolution.attemptId = other.attemptId → other.outcome = .provenAbsent →
          resolution.outcome = .provenAbsent := by
  have returned : (reconcileAccount sampleSearched).toOption.isSome := by decide +kernel
  obtain ⟨result, success⟩ := exists_eq_ok returned
  exact ⟨result, success, absence_never_contradicted success⟩

example : (reconcileAccount sampleSearched).map (fun result =>
    result.submissionResolutions.map SubmissionResolution.outcome) = .ok [.provenAbsent] := by
  decide +kernel

end

end AutoTrade.Reconciliation
