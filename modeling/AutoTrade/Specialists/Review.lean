import AutoTrade.Specialists.Aggregation
import AutoTrade.Specialists.Schedules

/-!
# Review of specialist runs

The loop over the runs accepts the ones that pass every filter, and the loop over the schedule
keeps, of their roles, the largest part that contains the dependencies of its roles.
-/

namespace AutoTrade.Specialists

open Lib Numeric

/-! ## Records that are read again -/

theorem exists_magnitude (score : Decimal) (name : String) :
    ∃ value, magnitude score name = .ok value := by
  have representable : Representable |score.toRat| := by
    rcases abs_choice score.toRat with same | opposite
    · rw [same]
      exact score.bounded
    · rw [opposite]
      exact score.bounded.neg
  obtain ⟨value, success⟩ := terminatingDecimal_of_representable representable
  exact ⟨value, mapError_eq_ok.mpr success⟩

/-- A run is admitted again as it is. -/
theorem readmitRun_eq (run : SpecialistRun) : readmitRun run = .ok run := by
  obtain ⟨refs, refsEq, sameRefs⟩ :=
    exists_texts_of_normal "evidence reference" run.refs_normal
  obtain ⟨entries, entriesEq, sameEntries⟩ := exists_texts_of_normal "critique" run.critique_normal
  obtain ⟨value, valueEq⟩ := exists_magnitude run.score "score"
  have given : refs.map Subtype.val ≠ [] := sameRefs.symm ▸ run.refs_ne_nil
  have refsNodup : (refs.map Subtype.val).Nodup := sameRefs.symm ▸ run.refs_nodup
  rw [readmitRun, SpecialistRun.create, text_of_normal _ run.role_normal, ok_bind,
    text_of_normal _ run.snapshot_normal, ok_bind, decimal, parseBoundedExactDecimal,
    Except.mapError, ok_bind, nonNegative_bounded run.confidence_bounded.1, ok_bind,
    dif_pos run.confidence_bounded.2, valueEq, ok_bind, dif_pos run.score_bounded,
    dif_pos run.direction_eq, refsEq, ok_bind, dif_pos given, dif_pos refsNodup, entriesEq,
    ok_bind, nonNegative_bounded run.cost_nonneg, ok_bind]
  cases run
  simp only [sameRefs, sameEntries]
  rfl

/-- A plan is admitted again as it is. -/
theorem readmitPlan_eq (plan : DagPlan) : readmitPlan plan = .ok plan :=
  DagPlan.exists_create plan.snapshot_normal plan.scheduled_normal plan.scheduled_nodup
    plan.skipped_normal plan.available_normal plan.available_nodup plan.reserved_nonneg
    plan.reserved_le

section Review

variable [CaseMap] {context : ReviewContext} {byId : String → Option SpecialistSpec}

/-! ## Filters -/

/-- The run of a scheduled role passes every filter. -/
structure Passes (context : ReviewContext) (spec : SpecialistSpec) (run : SpecialistRun) :
    Prop where
  scheduled : run.roleId ∈ context.scheduled
  snapshot : run.inputSnapshotId = context.snapshotId
  deadline : run.completedAt ≤ context.deadline
  cost : run.cost.toRat ≤ spec.maxCost.toRat
  critique : ¬ blockedBy context.blockers run

theorem rejection_eq_none {spec : SpecialistSpec} {run : SpecialistRun} :
    rejection context (some spec) run = none ↔ Passes context spec run := by
  simp only [rejection]
  constructor
  · intro none
    split at none
    · cases none
    next scheduled =>
    split at none
    · cases none
    next snapshot =>
    split at none
    · cases none
    next deadline =>
    split at none
    · cases none
    next cost =>
    split at none
    · cases none
    next critique =>
    exact ⟨not_not.mp scheduled, not_not.mp snapshot, not_lt.mp deadline, not_lt.mp cost, critique⟩
  · intro passes
    rw [if_neg (not_not.mpr passes.scheduled), if_neg (not_not.mpr passes.snapshot),
      if_neg (not_lt.mpr passes.deadline), if_neg (not_lt.mpr passes.cost),
      if_neg passes.critique]

/-- The pair that a run adds to the accepted ones. -/
def acceptance (context : ReviewContext) (byId : String → Option SpecialistSpec)
    (run : SpecialistRun) : Option Accepted :=
  match byId run.roleId, rejection context (byId run.roleId) run with
  | some spec, none => some (spec, run)
  | _, _ => none

/-- The pair that a run adds to the rejected ones. -/
def refusal (context : ReviewContext) (byId : String → Option SpecialistSpec)
    (run : SpecialistRun) : Option (String × String) :=
  match acceptance context byId run with
  | some _ => none
  | none => some (run.roleId, (rejection context (byId run.roleId) run).getD "")

theorem acceptance_eq_some {run : SpecialistRun} {pair : Accepted} :
    acceptance context byId run = some pair ↔
      pair.2 = run ∧ byId run.roleId = some pair.1 ∧ Passes context pair.1 run := by
  obtain ⟨spec, other⟩ := pair
  unfold acceptance
  split
  next found known passed =>
    rw [known] at passed ⊢
    rw [Option.some.injEq, Prod.mk.injEq, Option.some.injEq]
    constructor
    · rintro ⟨rfl, rfl⟩
      exact ⟨rfl, rfl, rejection_eq_none.mp passed⟩
    · rintro ⟨rfl, rfl, -⟩
      exact ⟨rfl, rfl⟩
  next refused =>
    constructor
    · intro same
      cases same
    · rintro ⟨rfl, known, passes⟩
      have passed := rejection_eq_none.mpr passes
      rw [← known] at passed
      exact absurd passed (refused spec known)

theorem reviewRun_eq_ok {state next : ReviewState} {run : SpecialistRun} :
    reviewRun context byId state run = .ok next ↔ run.roleId ∉ state.seen ∧
      next = ⟨state.seen ++ [run.roleId],
        state.accepted ++ (acceptance context byId run).toList,
        state.rejected ++ (refusal context byId run).toList⟩ := by
  rw [reviewRun, readmitRun_eq, ok_bind, throw_unless_eq_ok]
  apply and_congr_right
  intro _
  dsimp only
  split
  next spec known passed =>
    have accepted : acceptance context byId run = some (spec, run) := by
      unfold acceptance
      rw [known] at passed ⊢
      rw [passed]
    rw [pure_eq_ok, refusal, accepted, eq_comm]
    simp
  next refused =>
    have none : acceptance context byId run = none := by
      unfold acceptance
      split
      next spec known passed => exact absurd passed (refused spec known)
      next => rfl
    rw [pure_eq_ok, refusal, none, eq_comm]
    simp

/-- The loop over the runs. -/
theorem reviewRuns_eq_ok {runs : List SpecialistRun} {state final : ReviewState} :
    runs.foldlM (reviewRun context byId) state = .ok final ↔
      ((runs.map SpecialistRun.roleId).Nodup ∧ ∀ run ∈ runs, run.roleId ∉ state.seen) ∧
        final = ⟨state.seen ++ runs.map SpecialistRun.roleId,
          state.accepted ++ runs.filterMap (acceptance context byId),
          state.rejected ++ runs.filterMap (refusal context byId)⟩ := by
  induction runs generalizing state with
  | nil =>
      rw [List.foldlM_nil, pure_eq_ok, eq_comm]
      simp
  | cons run rest ih =>
      rw [List.foldlM_cons, bind_eq_ok]
      have accepted : state.accepted ++ (run :: rest).filterMap (acceptance context byId) =
          state.accepted ++ (acceptance context byId run).toList ++
            rest.filterMap (acceptance context byId) := by
        rw [List.append_assoc, List.filterMap_cons]
        cases acceptance context byId run <;> rfl
      have rejected : state.rejected ++ (run :: rest).filterMap (refusal context byId) =
          state.rejected ++ (refusal context byId run).toList ++
            rest.filterMap (refusal context byId) := by
        rw [List.append_assoc, List.filterMap_cons]
        cases refusal context byId run <;> rfl
      rw [accepted, rejected, List.map_cons, List.nodup_cons, List.forall_mem_cons]
      constructor
      · rintro ⟨next, first, later⟩
        obtain ⟨fresh, rfl⟩ := reviewRun_eq_ok.mp first
        obtain ⟨⟨distinct, unseen⟩, rfl⟩ := ih.mp later
        refine ⟨⟨⟨?_, distinct⟩, fresh, ?_⟩, ?_⟩
        · intro member
          obtain ⟨other, listed, same⟩ := List.mem_map.mp member
          apply unseen other listed
          rw [same]
          exact List.mem_append_right _ (List.mem_singleton_self _)
        · intro other listed known
          exact unseen other listed (List.mem_append_left _ known)
        · simp
      · rintro ⟨⟨⟨fresh, distinct⟩, unseenFirst, unseen⟩, rfl⟩
        refine ⟨_, reviewRun_eq_ok.mpr ⟨unseenFirst, rfl⟩, ih.mpr ⟨⟨distinct, ?_⟩, ?_⟩⟩
        · intro other listed known
          rcases List.mem_append.mp known with earlier | same
          · exact unseen other listed earlier
          · rw [List.mem_singleton] at same
            exact fresh (same ▸ List.mem_map_of_mem listed)
        · simp

/-- The pairs of the accepted runs, under their roles. -/
def passing (context : ReviewContext) (byId : String → Option SpecialistSpec)
    (runs : List SpecialistRun) : Dict String Accepted :=
  acceptedByRole (runs.filterMap (acceptance context byId))

theorem roles_filterMap_sublist (runs : List SpecialistRun) :
    ((runs.filterMap (acceptance context byId)).map fun pair => pair.2.roleId).Sublist
      (runs.map SpecialistRun.roleId) := by
  induction runs with
  | nil => exact List.Sublist.refl _
  | cons run rest ih =>
      rw [List.filterMap_cons, List.map_cons]
      split
      · exact ih.cons _
      next pair accepted =>
        obtain ⟨same, -, -⟩ := acceptance_eq_some.mp accepted
        rw [List.map_cons, same]
        exact ih.cons_cons _

theorem get?_passing {runs : List SpecialistRun} (distinct : (runs.map SpecialistRun.roleId).Nodup)
    {role : String} {pair : Accepted} :
    (passing context byId runs).get? role = some pair ↔ pair.2 ∈ runs ∧ pair.2.roleId = role ∧
      byId role = some pair.1 ∧ Passes context pair.1 pair.2 := by
  have nodup : ((runs.filterMap (acceptance context byId)).map fun pair =>
      (pair.2.roleId, pair)).map Prod.fst |>.Nodup := by
    rw [List.map_map]
    exact distinct.sublist (roles_filterMap_sublist runs)
  rw [← Dict.mem_entries, passing, acceptedByRole, Dict.entries_setAll_empty nodup, List.mem_map]
  constructor
  · rintro ⟨other, member, same⟩
    cases same
    obtain ⟨run, listed, accepted⟩ := List.mem_filterMap.mp member
    obtain ⟨rfl, known, passes⟩ := acceptance_eq_some.mp accepted
    exact ⟨listed, rfl, known, passes⟩
  · rintro ⟨listed, rfl, known, passes⟩
    exact ⟨pair, List.mem_filterMap.mpr ⟨pair.2, listed,
      acceptance_eq_some.mpr ⟨rfl, known, passes⟩⟩, rfl⟩

end Review

/-! ## The cascade -/

theorem mem_keys_of_get? {dict others : Dict String Accepted} {kept : Finset String}
    (subset : ∀ role ∈ kept, role ∈ others.keys)
    (lookups : ∀ role, dict.get? role = if role ∈ kept then others.get? role else none)
    {role : String} : role ∈ dict.keys ↔ role ∈ kept := by
  rw [Dict.mem_keys, lookups]
  constructor
  · rintro ⟨pair, found⟩
    by_contra outside
    rw [if_neg outside] at found
    cases found
  · intro inside
    rw [if_pos inside, ← Dict.mem_keys]
    exact subset role inside

/-- The loop over the schedule drops what the cascade drops, and rejects it. -/
theorem foldl_cascadeRole {dependencies : String → List String} {dict : Dict String Accepted}
    (known : ∀ role pair, dict.get? role = some pair → dependencies role = pair.1.dependencies)
    {order : List String} (nodup : order.Nodup) (rejected : List (String × String)) :
    (∀ role, (order.foldl cascadeRole (dict, rejected)).1.get? role =
      if role ∈ cascade dependencies order dict.keys.toFinset then dict.get? role else none) ∧
    (order.foldl cascadeRole (dict, rejected)).2 = rejected ++
      (order.filter fun role => role ∈ dict.keys ∧
        role ∉ cascade dependencies order dict.keys.toFinset).map fun role =>
          (role, "dependency_result_unavailable") := by
  induction order using List.reverseRecOn with
  | nil =>
      constructor
      · intro role
        rw [cascade, List.foldl_nil, List.foldl_nil]
        split
        · rfl
        next absent =>
          rw [List.mem_toFinset] at absent
          exact Dict.get?_eq_none.mpr absent
      · simp
  | append_singleton order last ih =>
      rw [List.nodup_append'] at nodup
      have fresh : last ∉ order := fun member => nodup.2.2 member (List.mem_singleton_self last)
      obtain ⟨lookups, dropped⟩ := ih nodup.1
      have keptLast : last ∈ cascade dependencies order dict.keys.toFinset ↔ last ∈ dict.keys := by
        rw [mem_cascade_of_notMem fresh, List.mem_toFinset]
      have subset : ∀ role ∈ cascade dependencies order dict.keys.toFinset, role ∈ dict.keys :=
        fun role inside => List.mem_toFinset.mp (cascade_subset order _ inside)
      rw [cascade_append, List.foldl_append, List.foldl_cons, List.foldl_nil]
      generalize order.foldl cascadeRole (dict, rejected) = state at lookups dropped ⊢
      generalize cascade dependencies order dict.keys.toFinset = kept
        at keptLast lookups dropped subset ⊢
      have inside := fun role => @mem_keys_of_get? state.1 dict kept subset lookups role
      unfold cascadeRole
      split
      next missing =>
        have outside : last ∉ kept := by
          rw [← inside, ← Dict.get?_eq_none]
          exact missing
        have unchanged : (if ∀ dependency ∈ dependencies last, dependency ∈ kept then kept
            else kept.erase last) = kept := by
          rw [Finset.erase_eq_of_notMem outside, ite_self]
        rw [unchanged, List.filter_append, List.map_append, ← List.append_assoc, ← dropped]
        have none : last ∉ dict.keys := fun member => outside (keptLast.mpr member)
        simp [lookups, none]
      next pair found =>
        have held : last ∈ kept := by
          rw [← inside, Dict.mem_keys]
          exact ⟨pair, found⟩
        have needed : dependencies last = pair.1.dependencies := by
          apply known
          rw [← found, lookups, if_pos held]
        have others : ∀ role ∈ order, role ≠ last := fun role member same => fresh (same ▸ member)
        split
        next unavailable =>
          have missing : ¬ ∀ dependency ∈ dependencies last, dependency ∈ kept := by
            obtain ⟨dependency, listed, absent⟩ := unavailable
            rw [inside] at absent
            rw [needed]
            exact fun all => absent (all dependency listed)
          rw [if_neg missing]
          constructor
          · intro role
            by_cases same : role = last
            · subst same
              rw [if_neg (Finset.notMem_erase role kept), Dict.get?_eq_none, Dict.keys_filterKeys]
              simp
            · rw [Dict.get?_filterKeys (by simp [same]), lookups]
              simp [same]
          · have earlier : (order.filter fun role => role ∈ dict.keys ∧ role ∉ kept.erase last) =
                order.filter fun role => role ∈ dict.keys ∧ role ∉ kept := by
              apply List.filter_congr
              intro role member
              simp [others role member]
            rw [List.filter_append, List.map_append, ← List.append_assoc, earlier, ← dropped]
            simp [subset last held]
        next available =>
          have all : ∀ dependency ∈ dependencies last, dependency ∈ kept := by
            intro dependency listed
            rw [needed] at listed
            rw [← inside]
            by_contra absent
            exact available ⟨dependency, listed, absent⟩
          rw [if_pos all, List.filter_append, List.map_append, ← List.append_assoc, ← dropped]
          simp [lookups, held]

end AutoTrade.Specialists
