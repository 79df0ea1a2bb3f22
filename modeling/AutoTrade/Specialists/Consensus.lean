import AutoTrade.Specialists.Proposals

/-!
# Consensus of the specialists

The proposal that `aggregate_specialists` returns, from the accepted roles on: its score is the
rounded mean of the correlation groups, its cost stays inside the plan, and neither depends on
the order of the roles and of the runs.
-/

namespace AutoTrade.Specialists

open Lib Numeric

/-! ## Proposals -/

/-- A rounded score is a score. -/
theorem RoundsHalfEven.bounded {value : ℚ} {score : Decimal} (rounds : RoundsHalfEven value score)
    (bound : |value| ≤ 1) : |score.toRat| ≤ 1 := by
  obtain ⟨units, scoreEq, rounded⟩ := rounds
  obtain ⟨power, powerEq⟩ : ∃ power : ℤ, (10 : ℚ) ^ maxScale = power :=
    ⟨10 ^ maxScale, by push_cast; rfl⟩
  have positive : (0 : ℚ) < power := powerEq ▸ by positivity
  rw [powerEq] at scoreEq rounded
  have limits := abs_le.mp bound
  have below : units ≤ power := by
    apply rounded.mono _ (Rounding.rounds_intCast .halfEven power)
    exact mul_le_of_le_one_left positive.le limits.2
  have above : -power ≤ units := by
    apply (Rounding.rounds_intCast .halfEven (-power)).mono _ rounded
    rw [Int.cast_neg, ← neg_one_mul]
    exact mul_le_mul_of_nonneg_right limits.1 positive.le
  rw [scoreEq, abs_le]
  constructor
  · rw [le_div_iff₀ positive, neg_one_mul]
    exact_mod_cast above
  · rw [div_le_one positive]
    exact_mod_cast below

/-- The data of a proposal are admitted as they are. -/
theorem AggregatedProposal.exists_create {score totalCost : Decimal}
    {acceptedRoles evidenceRefs : List String} {rejectedRoles : List (String × String)}
    (scoreBounded : |score.toRat| ≤ 1) (acceptedNormal : ∀ role ∈ acceptedRoles, Normal role)
    (acceptedNodup : acceptedRoles.Nodup)
    (rejectedNormal : ∀ item ∈ rejectedRoles, Normal item.1 ∧ Normal item.2)
    (refsNormal : ∀ ref ∈ evidenceRefs, Normal ref) (refsNodup : evidenceRefs.Nodup)
    (costNonneg : 0 ≤ totalCost.toRat) :
    AggregatedProposal.create (expectedDirection score) (.bounded score) acceptedRoles
        rejectedRoles evidenceRefs (.bounded totalCost) =
      .ok ⟨expectedDirection score, score, acceptedRoles, rejectedRoles, evidenceRefs, totalCost,
        scoreBounded, rfl, acceptedNormal, acceptedNodup, rejectedNormal, refsNormal, refsNodup,
        costNonneg⟩ := by
  obtain ⟨roles, rolesEq, sameRoles⟩ := exists_texts_of_normal "accepted role" acceptedNormal
  obtain ⟨refs, refsEq, sameRefs⟩ := exists_texts_of_normal "evidence reference" refsNormal
  obtain ⟨items, itemsEq, sameItems⟩ :=
    exists_rolePairs "rejected role" "rejection reason" rejectedNormal
  obtain ⟨value, valueEq⟩ := exists_magnitude score "aggregate score"
  have rolesNodup : (roles.map Subtype.val).Nodup := sameRoles.symm ▸ acceptedNodup
  have distinctRefs : (refs.map Subtype.val).Nodup := sameRefs.symm ▸ refsNodup
  rw [AggregatedProposal.create, decimal, parseBoundedExactDecimal, Except.mapError, ok_bind,
    valueEq, ok_bind, dif_pos scoreBounded, dif_pos rfl, rolesEq, ok_bind, dif_pos rolesNodup,
    itemsEq, ok_bind, refsEq, ok_bind, dif_pos distinctRefs, nonNegative_bounded costNonneg,
    ok_bind]
  simp only [sameRoles, sameItems, sameRefs]
  rfl

theorem addExact_eq_ok {left right result : Decimal} {name : String} :
    addExact left right name = .ok result ↔ result.toRat = left.toRat + right.toRat :=
  mapError_eq_ok.trans exactAdd_eq_ok

/-- The cost of the accepted runs. -/
def runCost (accepted : List Accepted) : ℚ := (accepted.map fun pair => pair.2.cost.toRat).sum

theorem runCost_nonneg (accepted : List Accepted) : 0 ≤ runCost accepted := by
  apply List.sum_nonneg
  intro cost member
  obtain ⟨pair, -, rfl⟩ := List.mem_map.mp member
  exact pair.2.cost_nonneg

theorem foldlM_addExact {accepted : List Accepted} {start total : Decimal} {name : String}
    (success : accepted.foldlM (fun total pair => addExact total pair.2.cost name) start =
      .ok total) : total.toRat = start.toRat + runCost accepted := by
  induction accepted generalizing start with
  | nil =>
      cases success
      simp [runCost]
  | cons pair rest ih =>
      rw [List.foldlM_cons, bind_eq_ok] at success
      obtain ⟨between, first, later⟩ := success
      rw [ih later, addExact_eq_ok.mp first, runCost, runCost, List.map_cons, List.sum_cons,
        add_assoc]

/-- The proposal of the accepted pairs with a score, a cost and the rejected roles. -/
structure Proposed (accepted : List Accepted) (rejected : List (String × String))
    (proposal : AggregatedProposal) : Prop where
  roles : proposal.acceptedRoles = sorted (accepted.map fun pair => pair.2.roleId)
  rejected : proposal.rejectedRoles = rejected
  refs : proposal.evidenceRefs = setOf (accepted.flatMap fun pair => pair.2.evidenceRefs)
  score : RoundsHalfEven (unroundedScore accepted) proposal.score
  cost : proposal.totalCost.toRat = runCost accepted

/-- What `propose` returns, whatever roles are rejected. -/
theorem propose_eq_ok {accepted : List Accepted} {rejected : List (String × String)}
    (distinct : (accepted.map fun pair => pair.2.roleId).Nodup)
    (normal : ∀ item ∈ rejected, Normal item.1 ∧ Normal item.2) {proposal : AggregatedProposal}
    (success : propose accepted rejected = .ok proposal) :
    Proposed accepted rejected proposal ∧ ∀ others : List (String × String),
      (∀ item ∈ others, Normal item.1 ∧ Normal item.2) →
        ∃ other, propose accepted others = .ok other ∧ Proposed accepted others other ∧
          other.score = proposal.score ∧ other.totalCost = proposal.totalCost := by
  have zero : |(0 : Decimal).toRat| ≤ 1 := by simp [Decimal.toRat_zero]
  have nonneg : 0 ≤ (0 : Decimal).toRat := Decimal.toRat_zero.ge
  have noText : ∀ text ∈ ([] : List String), Normal text := fun _ member =>
    absurd member List.not_mem_nil
  by_cases empty : accepted = []
  · subst empty
    have direction : expectedDirection 0 = Stance.flat := by
      simp [expectedDirection, Decimal.toRat_zero]
    have created : ∀ others : List (String × String),
        (othersNormal : ∀ item ∈ others, Normal item.1 ∧ Normal item.2) →
          propose [] others = .ok ⟨expectedDirection 0, 0, [], others, [], 0, zero, rfl, noText,
            List.nodup_nil, othersNormal, noText, List.nodup_nil, nonneg⟩ := by
      intro others othersNormal
      rw [propose, if_pos rfl, ← direction]
      exact AggregatedProposal.exists_create zero noText List.nodup_nil othersNormal noText
        List.nodup_nil nonneg
    have proposed : ∀ (others : List (String × String)) othersNormal,
        Proposed [] others ⟨expectedDirection 0, 0, [], others, [], 0, zero, rfl, noText,
          List.nodup_nil, othersNormal, noText, List.nodup_nil, nonneg⟩ := by
      intro others othersNormal
      refine ⟨rfl, rfl, rfl, ⟨0, ?_, ?_⟩, ?_⟩
      · simp [Decimal.toRat_zero]
      · simp [unroundedScore, positiveGroups, Rounding.Rounds]
      · simp [runCost, Decimal.toRat_zero]
    rw [created rejected normal, Except.ok.injEq] at success
    subst success
    refine ⟨proposed rejected normal, ?_⟩
    intro others othersNormal
    exact ⟨_, created others othersNormal, proposed others othersNormal, rfl, rfl⟩
  · simp only [propose, if_neg empty, bind_eq_ok] at success
    obtain ⟨scores, scoresEq, aggregate, aggregateEq, total, totalEq, success⟩ := success
    have rounds := averageScore_rounds aggregateEq
    rw [sum_scores scoresEq] at rounds
    have scoreBounded := rounds.bounded (abs_unroundedScore_le accepted)
    have cost := foldlM_addExact totalEq
    rw [Decimal.toRat_zero, zero_add] at cost
    have costNonneg : 0 ≤ total.toRat := cost ▸ runCost_nonneg accepted
    have rolesNormal : ∀ role ∈ sorted (accepted.map fun pair => pair.2.roleId), Normal role := by
      intro role member
      obtain ⟨pair, -, rfl⟩ := List.mem_map.mp (mem_sorted.mp member)
      exact pair.2.role_normal
    have rolesNodup : (sorted (accepted.map fun pair => pair.2.roleId)).Nodup :=
      (sorted_perm _).nodup_iff.mpr distinct
    have refsNormal : ∀ ref ∈ setOf (accepted.flatMap fun pair => pair.2.evidenceRefs),
        Normal ref := by
      intro ref member
      obtain ⟨pair, -, listed⟩ := List.mem_flatMap.mp (mem_setOf.mp member)
      exact pair.2.refs_normal ref listed
    rw [AggregatedProposal.exists_create scoreBounded rolesNormal rolesNodup normal refsNormal
      (nodup_setOf _) costNonneg, Except.ok.injEq] at success
    subst success
    refine ⟨⟨rfl, rfl, rfl, rounds, cost⟩, ?_⟩
    intro others othersNormal
    refine ⟨⟨expectedDirection aggregate, aggregate, _, others, _, total, scoreBounded, rfl,
      rolesNormal, rolesNodup, othersNormal, refsNormal, nodup_setOf _, costNonneg⟩, ?_,
      ⟨rfl, rfl, rfl, rounds, cost⟩, rfl, rfl⟩
    simp only [propose, if_neg empty, scoresEq, aggregateEq, totalEq, ok_bind]
    exact AggregatedProposal.exists_create scoreBounded rolesNormal rolesNodup othersNormal
      refsNormal (nodup_setOf _) costNonneg

/-! ## Costs -/

theorem costOf_sublist {byId : String → Option SpecialistSpec} {roles others : List String}
    (sublist : roles.Sublist others) : costOf byId roles ≤ costOf byId others := by
  induction sublist with
  | slnil => exact le_rfl
  | cons role _ ih =>
      apply ih.trans
      have single := costOf_nonneg byId [role]
      rw [costOf, List.map_singleton, List.sum_singleton] at single
      rw [costOf, costOf, List.map_cons, List.sum_cons]
      exact le_add_of_nonneg_left single
  | cons_cons role _ ih =>
      rw [costOf, costOf, List.map_cons, List.map_cons, List.sum_cons, List.sum_cons]
      exact add_le_add_right ih _

/-- Runs inside the maximal costs of their roles cost no more than the roles. -/
theorem runCost_le {byId : String → Option SpecialistSpec} {accepted : List Accepted}
    (within : ∀ pair ∈ accepted, byId pair.2.roleId = some pair.1 ∧
      pair.2.cost.toRat ≤ pair.1.maxCost.toRat) :
    runCost accepted ≤ costOf byId (accepted.map fun pair => pair.2.roleId) := by
  induction accepted with
  | nil => exact le_rfl
  | cons pair rest ih =>
      rw [List.forall_mem_cons] at within
      have later := ih within.2
      rw [runCost, costOf] at later ⊢
      rw [List.map_cons, List.map_cons, List.map_cons, List.sum_cons, List.sum_cons,
        within.1.1, Option.map_some, Option.getD_some]
      exact add_le_add within.1.2 later

/-! ## Plans -/

/-- The plan of a call that returns is the correct plan of its roles. -/
theorem planned_correct {specs : List SpecialistSpec} {plan : DagPlan} {snapshot : String}
    {inputs : List String} {totalBudget : DecimalInput} (distinct : (specs.map SpecialistSpec.roleId).Nodup)
    (planned : planSpecialists specs snapshot inputs totalBudget = .ok plan) :
    ∃ budget nonneg, nonNegative totalBudget "total_budget" = .ok ⟨budget, nonneg⟩ ∧
      PlanCorrect specs inputs budget plan := by
  have known := knownDependencies_of_plan distinct planned
  obtain ⟨budget, admitted⟩ : ∃ budget, Admitted snapshot inputs totalBudget budget := by
    by_contra refused
    obtain ⟨error, raised⟩ := planSpecialists_refused distinct refused
    rw [planned] at raised
    cases raised
  obtain ⟨nonneg, read⟩ := admitted.budget
  rcases planSpecialists_cases distinct known admitted with
    ⟨other, returned, -, correct⟩ | ⟨raised, -⟩ | ⟨raised, -⟩
  · rw [planned, Except.ok.injEq] at returned
    subst returned
    exact ⟨budget, nonneg, read, correct⟩
  · rw [planned] at raised
    cases raised
  · rw [planned] at raised
    cases raised

/-! ## Rejections -/

section Aggregation

variable [CaseMap]

theorem rejection_normal {context : ReviewContext} {spec : Option SpecialistSpec}
    {run : SpecialistRun} {reason : String} (rejected : rejection context spec run = some reason) :
    Normal reason := by
  unfold rejection at rejected
  split at rejected
  · cases rejected
    decide
  split at rejected
  · cases rejected
    decide
  split at rejected
  · cases rejected
    decide
  split at rejected
  · cases rejected
    decide
  split at rejected
  · cases rejected
    decide
  split at rejected
  · cases rejected
    decide
  · cases rejected

theorem rejectedPairs_normal {context : ReviewContext} {byId : String → Option SpecialistSpec}
    (scheduledNormal : ∀ role ∈ context.scheduled, Normal role) (runs : List SpecialistRun) :
    ∀ item ∈ rejectedPairs context byId runs, Normal item.1 ∧ Normal item.2 := by
  intro item member
  rw [rejectedPairs, List.mem_append, List.mem_append] at member
  rcases member with (refused | missing) | dropped
  · obtain ⟨run, -, refusalEq⟩ := List.mem_filterMap.mp refused
    unfold refusal acceptance at refusalEq
    split at refusalEq
    · cases refusalEq
    next none =>
      cases refusalEq
      refine ⟨run.role_normal, ?_⟩
      cases found : rejection context (byId run.roleId) run with
      | some reason => exact rejection_normal found
      | none =>
          rw [found] at none
          cases known : byId run.roleId with
          | none =>
              rw [known] at found
              cases found
          | some spec =>
              rw [known] at none
              cases none
  · obtain ⟨role, listed, rfl⟩ := List.mem_map.mp missing
    have reason : Normal "missing_result" := by decide
    exact ⟨scheduledNormal role (List.mem_filter.mp listed).1, reason⟩
  · obtain ⟨role, listed, rfl⟩ := List.mem_map.mp dropped
    have reason : Normal "dependency_result_unavailable" := by decide
    exact ⟨scheduledNormal role (List.mem_filter.mp listed).1, reason⟩

/-! ## Aggregation -/

/-- What the runs of a call are compared with. -/
def contextOf (plan : DagPlan) (snapshot : String) (deadline : Instant) (terms : List String) :
    ReviewContext :=
  ⟨plan.scheduledRoles, strip snapshot, deadline, setOf (terms.map fun term => lower (strip term))⟩

variable {specs : List SpecialistSpec} {runs : List SpecialistRun} {plan : DagPlan}
  {snapshot : String} {inputs : List String} {totalBudget : DecimalInput} {deadline : Instant}
  {terms : List String} {proposal : AggregatedProposal}

/-- The calls that return. -/
theorem aggregateSpecialists_eq_ok :
    aggregateSpecialists specs runs plan snapshot inputs totalBudget deadline terms =
        .ok proposal ↔
      specs ≠ [] ∧ (specs.map SpecialistSpec.roleId).Nodup ∧ strip snapshot ≠ "" ∧
        planSpecialists specs (strip snapshot) inputs totalBudget = .ok plan ∧
          (∀ term ∈ terms, strip term ≠ "") ∧ (runs.map SpecialistRun.roleId).Nodup ∧
            propose (acceptedPairs (contextOf plan snapshot deadline terms) (byRole specs).get? runs)
              (rejectedPairs (contextOf plan snapshot deadline terms) (byRole specs).get? runs) =
                .ok proposal := by
  rw [aggregateSpecialists, mapM_readmitSpec, ok_bind, throw_unless_eq_ok, throw_unless_eq_ok,
    readmitPlan_eq, ok_bind]
  simp only [bind_eq_ok, throw_unless_eq_ok, not_not]
  constructor
  · rintro ⟨nonempty, lengths, snapshotId, snapshotRead, canonical, planned, rfl, results, termsRead,
      reviewed, review, proposed⟩
    obtain ⟨given, snapshotEq⟩ := text_eq_ok.mp snapshotRead
    obtain ⟨termsGiven, termsEq⟩ := texts_eq_ok.mp termsRead
    have blockers : results.map (fun term => lower term.1) =
        terms.map fun term => lower (strip term) := by
      have images := congrArg (List.map lower) termsEq
      rw [List.map_map, List.map_map] at images
      exact images
    rw [snapshotEq, blockers] at review
    rw [snapshotEq] at planned
    obtain ⟨distinct, rfl⟩ := (review_eq_ok plan.scheduled_nodup).mp review
    refine ⟨?_, distinct_of_entries lengths, given, planned, termsGiven, distinct, proposed⟩
    rintro rfl
    exact nonempty rfl
  · rintro ⟨nonempty, distinctIds, given, planned, termsGiven, distinct, proposed⟩
    obtain ⟨results, termsRead, termsEq⟩ := exists_texts "blocking critique term" termsGiven
    have blockers : results.map (fun term => lower term.1) =
        terms.map fun term => lower (strip term) := by
      have images := congrArg (List.map lower) termsEq
      rw [List.map_map, List.map_map] at images
      exact images
    have entries := entries_byRole distinctIds
    refine ⟨?_, ?_, ⟨strip snapshot, normal_strip given⟩, text_eq_ok.mpr ⟨given, rfl⟩, plan,
      planned, rfl, results, termsRead, (_, _), (review_eq_ok plan.scheduled_nodup).mpr
        ⟨distinct, rfl⟩, ?_⟩
    · rw [entries, List.map_eq_nil_iff]
      exact nonempty
    · rw [entries, List.length_map]
    · rw [blockers]
      exact proposed

/-- A role whose run passes the filters. -/
def PassingRole (specs : List SpecialistSpec) (runs : List SpecialistRun) (context : ReviewContext)
    (role : String) : Prop :=
  ∃ spec ∈ specs, ∃ run ∈ runs, spec.roleId = role ∧ run.roleId = role ∧ Passes context spec run

/-- What a proposal says about the roles and the runs of a call, with the pairs of the accepted
roles and their runs. -/
structure ConsensusOf (specs : List SpecialistSpec) (runs : List SpecialistRun) (plan : DagPlan)
    (context : ReviewContext) (totalBudget : DecimalInput) (accepted : List Accepted)
    (proposal : AggregatedProposal) : Prop where
  pairs : ∀ pair ∈ accepted, pair.1 ∈ specs ∧ pair.2 ∈ runs ∧ pair.1.roleId = pair.2.roleId
  roles : (accepted.map fun pair => pair.2.roleId).Perm proposal.acceptedRoles
  passing : ∀ role ∈ proposal.acceptedRoles, PassingRole specs runs context role
  closed : Closed (dependenciesOf (byRole specs).get?) proposal.acceptedRoles.toFinset
  largest : ∀ others : Finset String, (∀ role ∈ others, PassingRole specs runs context role) →
    Closed (dependenciesOf (byRole specs).get?) others →
      ∀ role ∈ others, role ∈ proposal.acceptedRoles
  once : (proposal.acceptedRoles ++ proposal.rejectedRoles.map Prod.fst).Nodup
  every : ∀ role, role ∈ proposal.acceptedRoles ++ proposal.rejectedRoles.map Prod.fst ↔
    role ∈ plan.scheduledRoles ∨ role ∈ runs.map SpecialistRun.roleId
  cost : proposal.totalCost.toRat ≤ plan.reservedCost.toRat
  budget : ∃ budget, nonNegative totalBudget "total_budget" = .ok budget ∧
    plan.reservedCost.toRat ≤ budget.1.toRat
  score : RoundsHalfEven (unroundedScore accepted) proposal.score
  bounded : |proposal.score.toRat| ≤ 1
  influence : ∀ (others : List Accepted) (group : String),
    (∀ other, other ≠ group → (groupRuns accepted other).Perm (groupRuns others other)) →
      0 < weightOf (groupRuns accepted group) → 0 < weightOf (groupRuns others group) →
        |unroundedScore accepted - unroundedScore others| ≤ 2 / (positiveGroups accepted).card

theorem consensusOf (success : aggregateSpecialists specs runs plan snapshot inputs totalBudget
    deadline terms = .ok proposal) :
    ConsensusOf specs runs plan (contextOf plan snapshot deadline terms) totalBudget
      (acceptedPairs (contextOf plan snapshot deadline terms) (byRole specs).get? runs)
      proposal := by
  obtain ⟨nonempty, distinctIds, given, planned, termsGiven, distinct, proposed⟩ :=
    aggregateSpecialists_eq_ok.mp success
  obtain ⟨budget, nonneg, read, correct⟩ := planned_correct distinctIds planned
  let context := contextOf plan snapshot deadline terms
  have scheduledNodup : context.scheduled.Nodup := plan.scheduled_nodup
  have acceptedRoles : (acceptedPairs context (byRole specs).get? runs).map (fun pair =>
      pair.2.roleId) = context.scheduled.filter (· ∈ keptRoles context (byRole specs).get? runs) :=
    roles_acceptedPairs distinct
  have rolesNodup : ((acceptedPairs context (byRole specs).get? runs).map fun pair =>
      pair.2.roleId).Nodup := by
    rw [acceptedRoles]
    exact scheduledNodup.filter _
  obtain ⟨proposes, -⟩ := propose_eq_ok rolesNodup
    (rejectedPairs_normal plan.scheduled_normal runs) proposed
  have perm : ((acceptedPairs context (byRole specs).get? runs).map fun pair =>
      pair.2.roleId).Perm proposal.acceptedRoles := by
    rw [proposes.roles]
    exact (sorted_perm _).symm
  have members : ∀ role, role ∈ proposal.acceptedRoles ↔
      role ∈ keptRoles context (byRole specs).get? runs := by
    intro role
    rw [← perm.mem_iff, acceptedRoles, List.mem_filter, decide_eq_true_eq]
    constructor
    · intro both
      exact both.2
    · intro kept
      exact ⟨passing_scheduled distinct (keptRoles_subset kept), kept⟩
  have passes : ∀ role, role ∈ (passing context (byRole specs).get? runs).keys ↔
      PassingRole specs runs context role := by
    intro role
    rw [mem_keys_passing distinct, PassingRole]
    constructor
    · rintro ⟨run, listed, same, spec, known, passed⟩
      obtain ⟨member, specRole⟩ := (get?_byRole distinctIds).mp known
      exact ⟨spec, member, run, listed, specRole, same, passed⟩
    · rintro ⟨spec, member, run, listed, specRole, same, passed⟩
      exact ⟨run, listed, same, spec, (get?_byRole distinctIds).mpr ⟨member, specRole⟩, passed⟩
  obtain ⟨closed, largest⟩ := keptRoles_greatest scheduledNodup correct.ordered distinct
  have kept : proposal.acceptedRoles.toFinset = keptRoles context (byRole specs).get? runs := by
    ext role
    rw [List.mem_toFinset, members]
  obtain ⟨once, every⟩ := @reviewed_once _ context (byRole specs).get? runs scheduledNodup distinct
  have appended : ((acceptedPairs context (byRole specs).get? runs).map (fun pair =>
      pair.2.roleId) ++ (rejectedPairs context (byRole specs).get? runs).map Prod.fst).Perm
        (proposal.acceptedRoles ++ proposal.rejectedRoles.map Prod.fst) := by
    rw [proposes.rejected]
    exact perm.append_right _
  constructor
  · intro pair member
    obtain ⟨-, listed, known, -⟩ := (mem_acceptedPairs distinct).mp member
    obtain ⟨specMember, same⟩ := (get?_byRole distinctIds).mp known
    exact ⟨specMember, listed, same⟩
  · exact perm
  · intro role member
    exact (passes role).mp (keptRoles_subset ((members role).mp member))
  · rw [kept]
    exact closed
  · intro others otherPasses otherClosed role member
    rw [members]
    apply largest others _ otherClosed member
    intro other otherMember
    exact List.mem_toFinset.mpr ((passes other).mpr (otherPasses other otherMember))
  · exact appended.nodup_iff.mp once
  · intro role
    rw [← appended.mem_iff]
    exact every role
  · rw [proposes.cost, correct.reserves]
    have within : ∀ pair ∈ acceptedPairs context (byRole specs).get? runs,
        (byRole specs).get? pair.2.roleId = some pair.1 ∧
          pair.2.cost.toRat ≤ pair.1.maxCost.toRat := by
      intro pair member
      obtain ⟨-, -, known, passed⟩ := (mem_acceptedPairs distinct).mp member
      exact ⟨known, passed.cost⟩
    apply (runCost_le within).trans
    rw [acceptedRoles]
    exact costOf_sublist List.filter_sublist
  · exact ⟨⟨budget, nonneg⟩, read, correct.within⟩
  · exact proposes.score
  · exact proposal.score_bounded
  · intro others group same positive otherPositive
    exact abs_unroundedScore_sub_le same positive otherPositive

/-- The order of the roles and of the runs changes neither the accepted roles nor the score, the
direction, the evidence and the cost. -/
theorem aggregateSpecialists_perm {otherSpecs : List SpecialistSpec}
    {otherRuns : List SpecialistRun} (specsPerm : specs.Perm otherSpecs)
    (runsPerm : runs.Perm otherRuns) (success : aggregateSpecialists specs runs plan snapshot inputs
      totalBudget deadline terms = .ok proposal) :
    ∃ other, aggregateSpecialists otherSpecs otherRuns plan snapshot inputs totalBudget deadline
        terms = .ok other ∧ other.acceptedRoles = proposal.acceptedRoles ∧
      other.score = proposal.score ∧ other.direction = proposal.direction ∧
        other.evidenceRefs = proposal.evidenceRefs ∧ other.totalCost = proposal.totalCost := by
  obtain ⟨nonempty, distinctIds, given, planned, termsGiven, distinct, proposed⟩ :=
    aggregateSpecialists_eq_ok.mp success
  have otherIds := (specsPerm.map SpecialistSpec.roleId).nodup_iff.mp distinctIds
  have roles : (byRole otherSpecs).get? = (byRole specs).get? := by
    funext role
    apply Option.ext
    intro spec
    rw [get?_byRole otherIds, get?_byRole distinctIds, specsPerm.mem_iff]
  have rolesNodup : ((acceptedPairs (contextOf plan snapshot deadline terms) (byRole specs).get?
      runs).map fun pair => pair.2.roleId).Nodup := by
    rw [roles_acceptedPairs distinct]
    exact plan.scheduled_nodup.filter _
  obtain ⟨proposes, again⟩ := propose_eq_ok rolesNodup
    (rejectedPairs_normal plan.scheduled_normal runs) proposed
  obtain ⟨other, otherProposed, otherProposes, score, cost⟩ := again
    (rejectedPairs (contextOf plan snapshot deadline terms) (byRole specs).get? otherRuns)
    (rejectedPairs_normal plan.scheduled_normal otherRuns)
  refine ⟨other, aggregateSpecialists_eq_ok.mpr ⟨?_, otherIds, given, ?_, termsGiven,
    (runsPerm.map _).nodup_iff.mp distinct, ?_⟩, ?_, score, ?_, ?_, cost⟩
  · intro none
    rw [none] at specsPerm
    exact nonempty specsPerm.eq_nil
  · rw [planSpecialists_perm distinctIds specsPerm (.refl _)]
    exact planned
  · rw [roles, acceptedPairs_perm distinct runsPerm]
    exact otherProposed
  · rw [otherProposes.roles, proposes.roles]
  · rw [other.direction_eq, proposal.direction_eq, score]
  · rw [otherProposes.refs, proposes.refs]

/-- A proposal is the consensus of the largest dependency-closed part of the schedule whose runs
pass the filters, whatever the order of the roles and of the runs. -/
theorem aggregate_specialists_consensus (success : aggregateSpecialists specs runs plan snapshot
      inputs totalBudget deadline terms = .ok proposal) :
    (∃ accepted, ConsensusOf specs runs plan (contextOf plan snapshot deadline terms) totalBudget
      accepted proposal) ∧
    ∀ otherSpecs otherRuns, specs.Perm otherSpecs → runs.Perm otherRuns →
      ∃ other, aggregateSpecialists otherSpecs otherRuns plan snapshot inputs totalBudget deadline
          terms = .ok other ∧ other.acceptedRoles = proposal.acceptedRoles ∧
        other.score = proposal.score ∧ other.direction = proposal.direction ∧
          other.evidenceRefs = proposal.evidenceRefs ∧ other.totalCost = proposal.totalCost := by
  constructor
  · exact ⟨_, consensusOf success⟩
  · intro otherSpecs otherRuns specsPerm runsPerm
    exact aggregateSpecialists_perm specsPerm runsPerm success

end Aggregation

/-! ## A run of one role -/

section Samples

attribute [local instance] CaseMap.ascii

theorem zero_digits : 0 < 256 := by decide

theorem half_bounded : Representable (1 / 2) := ⟨1, by decide, 5, by norm_num, by decide⟩

theorem nothing_normal : ∀ entry ∈ [], Normal entry := by simp

/-- A role that costs one. -/
def soloRole : SpecialistSpec :=
  freeRole "solo" (by decide) (powerOfTen 0 zero_digits) (by decide +kernel)

/-- A run of the role that scores one half. -/
def soloRun : SpecialistRun where
  roleId := "solo"
  inputSnapshotId := "cut-1"
  direction := .long
  score := ⟨1 / 2, half_bounded⟩
  confidence := powerOfTen 0 zero_digits
  evidenceRefs := ["evidence:solo"]
  cost := powerOfTen 0 zero_digits
  completedAt := ⟨0⟩
  critique := []
  role_normal := by decide
  snapshot_normal := by decide
  confidence_bounded := by decide +kernel
  score_bounded := by decide +kernel
  direction_eq := by decide +kernel
  refs_normal := by decide
  refs_ne_nil := by simp
  refs_nodup := by decide
  cost_nonneg := by decide +kernel
  critique_normal := nothing_normal

/-- The plan of the role. -/
def soloPlan : DagPlan where
  inputSnapshotId := "cut-1"
  scheduledRoles := ["solo"]
  skippedRoles := []
  reservedCost := powerOfTen 0 zero_digits
  availableInputs := []
  totalBudget := powerOfTen 1 (by decide)
  snapshot_normal := by decide
  scheduled_normal := by decide
  scheduled_nodup := by decide
  skipped_normal := by simp
  available_normal := nothing_normal
  available_nodup := List.nodup_nil
  reserved_nonneg := by decide +kernel
  reserved_le := by decide +kernel

theorem soloPlan_planned : planSpecialists [soloRole] "cut-1" []
    (.bounded (powerOfTen 1 (by decide))) = .ok soloPlan := by
  have admitted : Admitted "cut-1" [] (.bounded (powerOfTen 1 (by decide)))
      (powerOfTen 1 (by decide)) :=
    ⟨by decide, by simp, by decide +kernel, nonNegative_bounded _ _⟩
  have turned : pass (byRole [soloRole]).get? (setOf ([].map strip)) (powerOfTen 1 (by decide))
      ⟨setOf (byRole [soloRole]).keys, [], [], 0⟩ =
        .ok (true, ⟨[], ["solo"], [], powerOfTen 0 (by decide)⟩) := by
    decide +kernel
  have passed : passes (byRole [soloRole]).get? (setOf ([].map strip)) (powerOfTen 1 (by decide))
      ⟨setOf (byRole [soloRole]).keys, [], [], 0⟩ =
        .ok ⟨[], ["solo"], [], powerOfTen 0 (by decide)⟩ := by
    rw [passes, if_neg (by decide)]
    split
    next raised =>
      rw [turned] at raised
      cases raised
    next raised =>
      rw [turned] at raised
      cases raised
    next next progress =>
      rw [turned] at progress
      cases progress
      rw [passes, if_pos rfl]
  rw [planSpecialists_admitted (by decide) admitted, passed, ok_bind]
  exact DagPlan.exists_create _ soloPlan.scheduled_normal soloPlan.scheduled_nodup
    soloPlan.skipped_normal soloPlan.available_normal soloPlan.available_nodup
    soloPlan.reserved_nonneg soloPlan.reserved_le

/-- The consensus of one role. -/
theorem solo_consensus : ∃ proposal, aggregateSpecialists [soloRole] [soloRun] soloPlan "cut-1" []
      (.bounded (powerOfTen 1 (by decide))) ⟨0⟩ [] = .ok proposal ∧
    ∃ accepted, ConsensusOf [soloRole] [soloRun] soloPlan (contextOf soloPlan "cut-1" ⟨0⟩ [])
      (.bounded (powerOfTen 1 (by decide))) accepted proposal := by
  have returns : (propose
      (acceptedPairs (contextOf soloPlan "cut-1" ⟨0⟩ []) (byRole [soloRole]).get? [soloRun])
      (rejectedPairs (contextOf soloPlan "cut-1" ⟨0⟩ []) (byRole [soloRole]).get?
        [soloRun])).toOption.isSome := by
    decide +kernel
  obtain ⟨proposal, proposed⟩ := exists_eq_ok returns
  have returned : aggregateSpecialists [soloRole] [soloRun] soloPlan "cut-1" []
      (.bounded (powerOfTen 1 (by decide))) ⟨0⟩ [] = .ok proposal :=
    aggregateSpecialists_eq_ok.mpr ⟨by simp, by decide, by decide, soloPlan_planned, by simp,
      by decide, proposed⟩
  exact ⟨proposal, returned, (aggregate_specialists_consensus returned).1⟩

end Samples

end AutoTrade.Specialists
