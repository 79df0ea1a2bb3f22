import AutoTrade.Specialists.Review
import AutoTrade.Specialists.Scores

/-!
# Proposals of specialist runs

What `aggregate_specialists` returns: the accepted roles are the largest part of the schedule
whose runs pass the filters and whose dependencies are accepted, every other role is rejected
once, the cost stays inside the plan, and the order of the roles and of the runs does not matter.
-/

namespace AutoTrade.Specialists

open Lib Numeric

/-! ## Reviewed roles -/

section Reviewed

variable [CaseMap] {context : ReviewContext} {byId : String → Option SpecialistSpec}
  {runs : List SpecialistRun}

/-- The roles that the cascade keeps. -/
def keptRoles (context : ReviewContext) (byId : String → Option SpecialistSpec)
    (runs : List SpecialistRun) : Finset String :=
  cascade (dependenciesOf byId) context.scheduled (passing context byId runs).keys.toFinset

/-- The accepted pairs in the order of the schedule. -/
def acceptedPairs (context : ReviewContext) (byId : String → Option SpecialistSpec)
    (runs : List SpecialistRun) : List Accepted :=
  context.scheduled.filterMap fun role =>
    if role ∈ keptRoles context byId runs then (passing context byId runs).get? role else none

/-- The rejected roles with their reasons. -/
def rejectedPairs (context : ReviewContext) (byId : String → Option SpecialistSpec)
    (runs : List SpecialistRun) : List (String × String) :=
  runs.filterMap (refusal context byId) ++
    ((context.scheduled.filter (· ∉ runs.map SpecialistRun.roleId)).map fun role =>
      (role, "missing_result")) ++
    ((context.scheduled.filter fun role => role ∈ (passing context byId runs).keys ∧
      role ∉ keptRoles context byId runs).map fun role => (role, "dependency_result_unavailable"))

theorem review_eq_ok (scheduled : context.scheduled.Nodup)
    {result : List Accepted × List (String × String)} :
    review context byId runs = .ok result ↔ (runs.map SpecialistRun.roleId).Nodup ∧
      result = (acceptedPairs context byId runs, rejectedPairs context byId runs) := by
  simp only [review, bind_eq_ok, reviewRuns_eq_ok, List.not_mem_nil, not_false_eq_true,
    implies_true, and_true, List.nil_append, and_assoc, pure_eq_ok, exists_and_left,
    exists_eq_left]
  apply and_congr_right
  intro distinct
  have known : ∀ role pair, (passing context byId runs).get? role = some pair →
      dependenciesOf byId role = pair.1.dependencies := by
    intro role pair found
    obtain ⟨-, -, byRole, -⟩ := (get?_passing distinct).mp found
    exact dependenciesOf_eq byRole
  obtain ⟨lookups, dropped⟩ := foldl_cascadeRole known scheduled
    (runs.filterMap (refusal context byId) ++
      ((context.scheduled.filter (· ∉ runs.map SpecialistRun.roleId)).map fun role =>
        (role, "missing_result")))
  rw [passing] at lookups dropped
  rw [dropped, List.filterMap_congr fun role _ => lookups role, eq_comm]
  rfl

theorem mem_keys_passing (distinct : (runs.map SpecialistRun.roleId).Nodup) {role : String} :
    role ∈ (passing context byId runs).keys ↔ ∃ run ∈ runs, run.roleId = role ∧
      ∃ spec, byId role = some spec ∧ Passes context spec run := by
  rw [Dict.mem_keys]
  constructor
  · rintro ⟨pair, found⟩
    obtain ⟨listed, same, known, passes⟩ := (get?_passing distinct).mp found
    exact ⟨pair.2, listed, same, pair.1, known, passes⟩
  · rintro ⟨run, listed, same, spec, known, passes⟩
    exact ⟨(spec, run), (get?_passing distinct).mpr ⟨listed, same, known, passes⟩⟩

theorem keptRoles_subset {role : String} (kept : role ∈ keptRoles context byId runs) :
    role ∈ (passing context byId runs).keys :=
  List.mem_toFinset.mp (cascade_subset _ _ kept)

theorem passing_scheduled (distinct : (runs.map SpecialistRun.roleId).Nodup) {role : String}
    (member : role ∈ (passing context byId runs).keys) : role ∈ context.scheduled := by
  obtain ⟨run, -, rfl, spec, -, passes⟩ := (mem_keys_passing distinct).mp member
  exact passes.scheduled

theorem mem_acceptedPairs (distinct : (runs.map SpecialistRun.roleId).Nodup) {pair : Accepted} :
    pair ∈ acceptedPairs context byId runs ↔ pair.2.roleId ∈ keptRoles context byId runs ∧
      pair.2 ∈ runs ∧ byId pair.2.roleId = some pair.1 ∧ Passes context pair.1 pair.2 := by
  rw [acceptedPairs, List.mem_filterMap]
  constructor
  · rintro ⟨role, -, found⟩
    split at found
    next kept =>
      obtain ⟨listed, rfl, known, passes⟩ := (get?_passing distinct).mp found
      exact ⟨kept, listed, known, passes⟩
    · cases found
  · rintro ⟨kept, listed, known, passes⟩
    refine ⟨pair.2.roleId, passes.scheduled, ?_⟩
    rw [if_pos kept]
    exact (get?_passing distinct).mpr ⟨listed, rfl, known, passes⟩

/-- The accepted roles in the order of the schedule. -/
theorem roles_acceptedPairs (distinct : (runs.map SpecialistRun.roleId).Nodup) :
    (acceptedPairs context byId runs).map (fun pair => pair.2.roleId) =
      context.scheduled.filter (· ∈ keptRoles context byId runs) := by
  rw [acceptedPairs, List.map_filterMap, ← List.filterMap_eq_filter]
  apply List.filterMap_congr
  intro role _
  by_cases kept : role ∈ keptRoles context byId runs
  · obtain ⟨pair, found⟩ := Dict.mem_keys.mp (keptRoles_subset kept)
    obtain ⟨-, same, -⟩ := (get?_passing distinct).mp found
    rw [if_pos kept, found, Option.map_some, same, Option.guard, if_pos (by simp [kept])]
  · rw [if_neg kept, Option.map_none, Option.guard, if_neg (by simp [kept])]

/-- The roles of the pairs that the loop over the runs rejects. -/
theorem mem_refusals (distinct : (runs.map SpecialistRun.roleId).Nodup) {role : String} :
    role ∈ (runs.filterMap (refusal context byId)).map Prod.fst ↔
      role ∈ runs.map SpecialistRun.roleId ∧ role ∉ (passing context byId runs).keys := by
  have refused : ∀ run, ∀ item, refusal context byId run = some item ↔
      acceptance context byId run = none ∧
        item = (run.roleId, (rejection context (byId run.roleId) run).getD "") := by
    intro run item
    unfold refusal
    split
    next pair accepted => simp [accepted]
    next none => simp [none, eq_comm]
  have accepts : ∀ run ∈ runs, acceptance context byId run = none ↔
      run.roleId ∉ (passing context byId runs).keys := by
    intro run listed
    rw [← not_iff_not, not_not, ← Ne, Option.ne_none_iff_exists', mem_keys_passing distinct]
    constructor
    · rintro ⟨pair, accepted⟩
      obtain ⟨-, known, passes⟩ := acceptance_eq_some.mp accepted
      exact ⟨run, listed, rfl, pair.1, known, passes⟩
    · rintro ⟨other, otherListed, same, spec, known, passes⟩
      rw [List.inj_on_of_nodup_map distinct otherListed listed same] at passes
      exact ⟨(spec, run), acceptance_eq_some.mpr ⟨rfl, known, passes⟩⟩
  simp only [List.mem_map, List.mem_filterMap, refused]
  constructor
  · rintro ⟨item, ⟨run, listed, none, rfl⟩, rfl⟩
    exact ⟨⟨run, listed, rfl⟩, (accepts run listed).mp none⟩
  · rintro ⟨⟨run, listed, rfl⟩, absent⟩
    exact ⟨_, ⟨run, listed, (accepts run listed).mpr absent, rfl⟩, rfl⟩

theorem refusals_sublist (runs : List SpecialistRun) :
    ((runs.filterMap (refusal context byId)).map Prod.fst).Sublist
      (runs.map SpecialistRun.roleId) := by
  induction runs with
  | nil => exact List.Sublist.refl _
  | cons run rest ih =>
      rw [List.filterMap_cons, List.map_cons]
      split
      · exact ih.cons _
      next item refused =>
        unfold refusal at refused
        split at refused
        · cases refused
        · cases refused
          exact ih.cons_cons _

/-- Every scheduled or submitted role is accepted or rejected, exactly once. -/
theorem reviewed_once (scheduled : context.scheduled.Nodup)
    (distinct : (runs.map SpecialistRun.roleId).Nodup) :
    ((acceptedPairs context byId runs).map (fun pair => pair.2.roleId) ++
        (rejectedPairs context byId runs).map Prod.fst).Nodup ∧
      ∀ role, role ∈ (acceptedPairs context byId runs).map (fun pair => pair.2.roleId) ++
          (rejectedPairs context byId runs).map Prod.fst ↔
        role ∈ context.scheduled ∨ role ∈ runs.map SpecialistRun.roleId := by
  have kept : ∀ role, role ∈ keptRoles context byId runs →
      role ∈ (passing context byId runs).keys := fun role => keptRoles_subset
  have passed : ∀ role, role ∈ (passing context byId runs).keys →
      role ∈ context.scheduled ∧ role ∈ runs.map SpecialistRun.roleId := by
    intro role member
    obtain ⟨run, listed, same, -⟩ := (mem_keys_passing distinct).mp member
    exact ⟨passing_scheduled distinct member, List.mem_map.mpr ⟨run, listed, same⟩⟩
  have fst : ∀ (roles : List String) (reason : String),
      (roles.map fun role => (role, reason)).map Prod.fst = roles := by
    intro roles reason
    rw [List.map_map]
    exact List.map_id' roles
  rw [roles_acceptedPairs distinct, rejectedPairs, List.map_append, List.map_append, fst, fst]
  constructor
  · rw [List.nodup_append', List.nodup_append', List.nodup_append']
    refine ⟨scheduled.filter _, ⟨⟨distinct.sublist (refusals_sublist runs), scheduled.filter _, ?_⟩,
      scheduled.filter _, ?_⟩, ?_⟩
    · intro role refused missing
      rw [mem_refusals distinct] at refused
      rw [List.mem_filter, decide_eq_true_eq] at missing
      exact missing.2 refused.1
    · intro role member dropped
      rw [List.mem_filter, decide_eq_true_eq] at dropped
      rcases List.mem_append.mp member with refused | missing
      · exact ((mem_refusals distinct).mp refused).2 dropped.2.1
      · rw [List.mem_filter, decide_eq_true_eq] at missing
        exact missing.2 (passed role dropped.2.1).2
    · intro role accepted member
      rw [List.mem_filter, decide_eq_true_eq] at accepted
      rcases List.mem_append.mp member with member | dropped
      · rcases List.mem_append.mp member with refused | missing
        · exact ((mem_refusals distinct).mp refused).2 (kept role accepted.2)
        · rw [List.mem_filter, decide_eq_true_eq] at missing
          exact missing.2 (passed role (kept role accepted.2)).2
      · rw [List.mem_filter, decide_eq_true_eq] at dropped
        exact dropped.2.2 accepted.2
  · intro role
    simp only [List.mem_append, mem_refusals distinct, List.mem_filter, decide_eq_true_eq]
    by_cases inPassing : role ∈ (passing context byId runs).keys
    · by_cases inKept : role ∈ keptRoles context byId runs
      · simp [passed role inPassing, inKept]
      · simp [passed role inPassing, inKept, inPassing]
    · have outside := mt (kept role) inPassing
      simp only [inPassing, outside]
      by_cases submitted : role ∈ runs.map SpecialistRun.roleId
      · simp [submitted]
      · simp [submitted]

/-- The accepted roles are the largest part of the passing ones that contains the dependencies of
its roles. -/
theorem keptRoles_greatest (scheduled : context.scheduled.Nodup)
    (ordered : Ordered (dependenciesOf byId) context.scheduled)
    (distinct : (runs.map SpecialistRun.roleId).Nodup) :
    Closed (dependenciesOf byId) (keptRoles context byId runs) ∧
      ∀ roles ⊆ (passing context byId runs).keys.toFinset, Closed (dependenciesOf byId) roles →
        roles ⊆ keptRoles context byId runs :=
  cascade_greatest ordered scheduled fun _ member =>
    passing_scheduled distinct (List.mem_toFinset.mp member)

/-! ## The order of the runs -/

section Orders

variable {others : List SpecialistRun}

theorem passing_perm (distinct : (runs.map SpecialistRun.roleId).Nodup) (perm : runs.Perm others)
    (role : String) :
    (passing context byId others).get? role = (passing context byId runs).get? role := by
  have otherDistinct := (perm.map SpecialistRun.roleId).nodup_iff.mp distinct
  apply Option.ext
  intro pair
  rw [get?_passing otherDistinct, get?_passing distinct, perm.mem_iff]

theorem keptRoles_perm (distinct : (runs.map SpecialistRun.roleId).Nodup)
    (perm : runs.Perm others) : keptRoles context byId others = keptRoles context byId runs := by
  have keys : (passing context byId others).keys.toFinset =
      (passing context byId runs).keys.toFinset := by
    ext role
    rw [List.mem_toFinset, List.mem_toFinset, Dict.mem_keys, Dict.mem_keys,
      passing_perm distinct perm]
  rw [keptRoles, keptRoles, keys]

theorem acceptedPairs_perm (distinct : (runs.map SpecialistRun.roleId).Nodup)
    (perm : runs.Perm others) :
    acceptedPairs context byId others = acceptedPairs context byId runs := by
  rw [acceptedPairs, acceptedPairs, keptRoles_perm distinct perm]
  apply List.filterMap_congr
  intro role _
  rw [passing_perm distinct perm]

end Orders

end Reviewed

end AutoTrade.Specialists
