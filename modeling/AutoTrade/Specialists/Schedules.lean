import AutoTrade.Specialists.Planning

/-!
# Budgeted topological schedules

`plan_specialists` on roles with distinct ids and known dependencies returns a schedule of the
dependency graph inside the budget exactly when the graph has no cycle, unless a cost leaves
the numeric envelope; the order of the roles and of the inputs does not matter.
-/

namespace AutoTrade.Specialists

open Lib Numeric

/-! ## Readers -/

theorem text_eq_ok {value name : String} {result : { result : String // Normal result }} :
    text value name = .ok result ↔ strip value ≠ "" ∧ result.1 = strip value := by
  rw [text]
  split
  next empty => simp [empty]
  next nonempty =>
    rw [Except.ok.injEq, Subtype.ext_iff, eq_comm]
    simp [nonempty]

theorem text_of_normal {value : String} (name : String) (normal : Normal value) :
    text value name = .ok ⟨value, normal⟩ :=
  text_eq_ok.mpr ⟨normal.1.symm ▸ normal.2, normal.1.symm⟩

theorem texts_eq_ok {values : List String} {name : String}
    {results : List { result : String // Normal result }} :
    texts values name = .ok results ↔
      (∀ value ∈ values, strip value ≠ "") ∧ results.map Subtype.val = values.map strip :=
  mapM_eq_ok_iff_map fun _ _ _ => text_eq_ok

theorem exists_texts {values : List String} (name : String)
    (given : ∀ value ∈ values, strip value ≠ "") :
    ∃ results, texts values name = .ok results ∧ results.map Subtype.val = values.map strip := by
  have returns : ∀ value ∈ values, ∃ result, text value name = .ok result := fun value member =>
    ⟨⟨strip value, normal_strip (given value member)⟩, text_eq_ok.mpr ⟨given value member, rfl⟩⟩
  obtain ⟨results, success⟩ := exists_mapM returns
  exact ⟨results, success, (texts_eq_ok.mp success).2⟩

/-- A blank text is refused wherever it stands. -/
theorem texts_of_blank {values : List String} (name : String)
    (blank : ∃ value ∈ values, strip value = "") :
    texts values name = .error (.message s!"{name} is required") := by
  induction values with
  | nil =>
      obtain ⟨value, member, -⟩ := blank
      cases member
  | cons value rest ih =>
      rw [texts, List.mapM_cons]
      by_cases empty : strip value = ""
      · rw [text, dif_pos empty]
        rfl
      · have later : ∃ value ∈ rest, strip value = "" := by
          obtain ⟨other, member, otherEmpty⟩ := blank
          rcases List.mem_cons.mp member with rfl | listed
          · exact absurd otherEmpty empty
          · exact ⟨other, listed, otherEmpty⟩
        have failed := ih later
        rw [texts] at failed
        rw [text, dif_neg empty, ok_bind, failed]
        rfl

/-- Texts that are read already are read as they are. -/
theorem exists_texts_of_normal {values : List String} (name : String)
    (normal : ∀ value ∈ values, Normal value) :
    ∃ results, texts values name = .ok results ∧ results.map Subtype.val = values := by
  obtain ⟨results, success, same⟩ := exists_texts name fun value member =>
    (normal value member).1.symm ▸ (normal value member).2
  refine ⟨results, success, same.trans ?_⟩
  rw [List.map_congr_left fun value member => (normal value member).1, List.map_id']

theorem nonNegative_bounded {amount : Decimal} (nonneg : 0 ≤ amount.toRat) (name : String) :
    nonNegative (.bounded amount) name = .ok ⟨amount, nonneg⟩ := by
  rw [nonNegative, decimal, parseBoundedExactDecimal]
  exact dif_pos nonneg

/-- A role is admitted again as it is. -/
theorem readmitSpec_eq (spec : SpecialistSpec) : readmitSpec spec = .ok spec := by
  obtain ⟨inputs, inputsEq, sameInputs⟩ :=
    exists_texts_of_normal "required input" spec.inputs_normal
  obtain ⟨needed, neededEq, sameNeeded⟩ :=
    exists_texts_of_normal "dependency" spec.dependencies_normal
  have inputsNodup := sameInputs.symm ▸ spec.inputs_nodup
  have neededNodup := sameNeeded.symm ▸ spec.dependencies_nodup
  have independent : spec.roleId ∉ needed.map Subtype.val := sameNeeded.symm ▸ spec.independent
  rw [readmitSpec, SpecialistSpec.create, text_of_normal _ spec.role_normal, ok_bind,
    text_of_normal _ spec.group_normal, ok_bind, nonNegative_bounded spec.cost_nonneg, ok_bind,
    decimal, parseBoundedExactDecimal, Except.mapError, ok_bind, inputsEq, ok_bind, neededEq,
    ok_bind, dif_pos inputsNodup, dif_pos neededNodup, dif_pos independent]
  cases spec
  simp only [sameInputs, sameNeeded]
  rfl

theorem mapM_readmitSpec (specs : List SpecialistSpec) : specs.mapM readmitSpec = .ok specs := by
  rw [mapM_eq_ok, List.forall₂_same]
  intro spec _
  exact readmitSpec_eq spec

/-! ## Sets of texts -/

theorem sorted_perm (values : List String) : (sorted values).Perm values :=
  List.perm_insertionSort _ _

theorem mem_setOf {values : List String} {value : String} :
    value ∈ setOf values ↔ value ∈ values := by
  rw [setOf, mem_sorted, List.mem_dedup]

theorem nodup_setOf (values : List String) : (setOf values).Nodup :=
  (sorted_perm _).nodup_iff.mpr (List.nodup_dedup _)

theorem sorted_eq_of_perm {left right : List String} (perm : left.Perm right) :
    sorted left = sorted right := by
  apply List.Perm.eq_of_pairwise (fun _ _ _ _ => le_antisymm) (List.pairwise_insertionSort _ _)
    (List.pairwise_insertionSort _ _)
  exact (sorted_perm left).trans (perm.trans (sorted_perm right).symm)

/-- A set depends on its members only. -/
theorem setOf_congr {left right : List String} (same : ∀ value, value ∈ left ↔ value ∈ right) :
    setOf left = setOf right := by
  apply sorted_eq_of_perm
  rw [List.perm_ext_iff_of_nodup (List.nodup_dedup _) (List.nodup_dedup _)]
  intro value
  rw [List.mem_dedup, List.mem_dedup, same]

/-! ## Roles -/

section Roles

variable {specs : List SpecialistSpec}

theorem entries_byRole (distinct : (specs.map SpecialistSpec.roleId).Nodup) :
    (byRole specs).entries = specs.map fun spec => (spec.roleId, spec) := by
  apply Dict.entries_setAll_empty
  rw [List.map_map]
  exact distinct

theorem keys_byRole (distinct : (specs.map SpecialistSpec.roleId).Nodup) :
    (byRole specs).keys = specs.map SpecialistSpec.roleId := by
  rw [Dict.keys, entries_byRole distinct, List.map_map]
  rfl

/-- As many entries as roles means distinct ids. -/
theorem distinct_of_entries (lengths : (byRole specs).entries.length = specs.length) :
    (specs.map SpecialistSpec.roleId).Nodup := by
  have members : ∀ role, role ∈ (byRole specs).keys ↔ role ∈ specs.map SpecialistSpec.roleId := by
    intro role
    rw [byRole, Dict.mem_keys_setAll, List.map_map]
    simp [Dict.keys, EmptyCollection.emptyCollection, Dict.empty]
  have perm : (byRole specs).keys.Perm (specs.map SpecialistSpec.roleId).dedup := by
    rw [List.perm_ext_iff_of_nodup (Dict.nodup_keys _) (List.nodup_dedup _)]
    intro role
    rw [List.mem_dedup, members]
  have sizes : (specs.map SpecialistSpec.roleId).dedup.length =
      (specs.map SpecialistSpec.roleId).length := by
    rw [← perm.length_eq, Dict.keys, List.length_map, List.length_map, lengths]
  rw [← (List.dedup_sublist _).eq_of_length sizes]
  exact List.nodup_dedup _

theorem get?_byRole (distinct : (specs.map SpecialistSpec.roleId).Nodup) {role : String}
    {spec : SpecialistSpec} :
    (byRole specs).get? role = some spec ↔ spec ∈ specs ∧ spec.roleId = role := by
  rw [← Dict.mem_entries, entries_byRole distinct, List.mem_map]
  constructor
  · rintro ⟨other, member, same⟩
    cases same
    exact ⟨member, rfl⟩
  · rintro ⟨member, rfl⟩
    exact ⟨spec, member, rfl⟩

/-- Every dependency is the id of a role. -/
def KnownDependencies (specs : List SpecialistSpec) : Prop :=
  ∀ spec ∈ specs, ∀ dependency ∈ spec.dependencies, dependency ∈ specs.map SpecialistSpec.roleId

theorem known_byRole (distinct : (specs.map SpecialistSpec.roleId).Nodup)
    (known : KnownDependencies specs) :
    Known (byRole specs).get? (specs.map SpecialistSpec.roleId) where
  nodup := distinct
  members := by
    intro role
    rw [← keys_byRole distinct, Ne, Dict.get?_eq_none, not_not]
  dependencies := by
    intro role spec found
    exact known spec ((get?_byRole distinct).mp found).1

/-- The invariant holds before the first pass. -/
theorem settled_start (distinct : (specs.map SpecialistSpec.roleId).Nodup) (available : List String) {budget : Decimal}
    (nonneg : 0 ≤ budget.toRat) :
    Settled (byRole specs).get? available budget (specs.map SpecialistSpec.roleId)
      ⟨setOf (byRole specs).keys, [], [], 0⟩ where
  partition := by
    simp only [List.map_nil, List.append_nil]
    rw [keys_byRole distinct, setOf, List.dedup_eq_self.mpr distinct]
    exact sorted_perm _
  ordered := ordered_nil
  useful := fun _ member => absurd member List.not_mem_nil
  reserves := Decimal.toRat_zero
  within := Decimal.toRat_zero ▸ nonneg
  reasons := fun _ member => absurd member List.not_mem_nil
  cycles := by
    intro role listed _
    rw [mem_setOf, keys_byRole distinct]
    exact listed

end Roles

/-! ## Plans -/

theorem rolePair_eq_ok {roleName reasonName : String} {item : String × String}
    {result : { result : String // Normal result } × { result : String // Normal result }} :
    rolePair roleName reasonName item = .ok result ↔
      (strip item.1 ≠ "" ∧ strip item.2 ≠ "") ∧
        pairTexts result = (strip item.1, strip item.2) := by
  obtain ⟨role, reason⟩ := result
  simp only [rolePair, bind_eq_ok, text_eq_ok, pure_eq_ok, pairTexts, Prod.mk.injEq]
  constructor
  · rintro ⟨first, ⟨firstGiven, firstEq⟩, second, ⟨secondGiven, secondEq⟩, rfl, rfl⟩
    exact ⟨⟨firstGiven, secondGiven⟩, firstEq, secondEq⟩
  · rintro ⟨⟨firstGiven, secondGiven⟩, firstEq, secondEq⟩
    exact ⟨role, ⟨firstGiven, firstEq⟩, reason, ⟨secondGiven, secondEq⟩, rfl, rfl⟩

/-- Pairs that are read already are read as they are. -/
theorem exists_rolePairs {items : List (String × String)} (roleName reasonName : String)
    (normal : ∀ item ∈ items, Normal item.1 ∧ Normal item.2) :
    ∃ results, items.mapM (rolePair roleName reasonName) = .ok results ∧
      results.map pairTexts = items := by
  have returns : ∀ item ∈ items, ∃ result, rolePair roleName reasonName item = .ok result := by
    intro item member
    obtain ⟨roleNormal, reasonNormal⟩ := normal item member
    refine ⟨(⟨item.1, roleNormal⟩, ⟨item.2, reasonNormal⟩), ?_⟩
    rw [rolePair_eq_ok, roleNormal.1, reasonNormal.1]
    exact ⟨⟨roleNormal.2, reasonNormal.2⟩, rfl⟩
  obtain ⟨results, success⟩ := exists_mapM returns
  refine ⟨results, success, ((mapM_eq_ok_iff_map fun _ _ _ => rolePair_eq_ok).mp success).2.trans ?_⟩
  rw [List.map_congr_left (g := id), List.map_id]
  intro item member
  rw [(normal item member).1.1, (normal item member).2.1]
  rfl

/-- The data of a plan are admitted as they are. -/
theorem DagPlan.exists_create {inputSnapshotId : String} {scheduled available : List String}
    {skipped : List (String × String)} {reserved budget : Decimal}
    (snapshotNormal : Normal inputSnapshotId) (scheduledNormal : ∀ role ∈ scheduled, Normal role)
    (scheduledNodup : scheduled.Nodup)
    (skippedNormal : ∀ item ∈ skipped, Normal item.1 ∧ Normal item.2)
    (availableNormal : ∀ input ∈ available, Normal input) (availableNodup : available.Nodup)
    (reservedNonneg : 0 ≤ reserved.toRat) (within : reserved.toRat ≤ budget.toRat) :
    DagPlan.create inputSnapshotId scheduled skipped (.bounded reserved) available
        (.bounded budget) =
      .ok ⟨inputSnapshotId, scheduled, skipped, reserved, available, budget, snapshotNormal,
        scheduledNormal, scheduledNodup, skippedNormal, availableNormal, availableNodup,
        reservedNonneg, within⟩ := by
  obtain ⟨roles, rolesEq, sameRoles⟩ := exists_texts_of_normal "scheduled role" scheduledNormal
  obtain ⟨inputs, inputsEq, sameInputs⟩ :=
    exists_texts_of_normal "available input" availableNormal
  obtain ⟨items, itemsEq, sameItems⟩ :=
    exists_rolePairs "skipped role" "skip reason" skippedNormal
  have rolesNodup := sameRoles.symm ▸ scheduledNodup
  have inputsNodup := sameInputs.symm ▸ availableNodup
  rw [DagPlan.create, text_of_normal _ snapshotNormal, ok_bind, rolesEq, ok_bind,
    dif_pos rolesNodup, inputsEq, ok_bind, dif_pos inputsNodup, itemsEq, ok_bind,
    nonNegative_bounded reservedNonneg, ok_bind,
    nonNegative_bounded (reservedNonneg.trans within), ok_bind, dif_pos within]
  simp only [sameRoles, sameInputs, sameItems]
  rfl

/-! ## Schedules -/

/-- The arguments that the readers of `plan_specialists` accept. -/
structure Admitted (snapshot : String) (inputs : List String) (totalBudget : DecimalInput)
    (budget : Decimal) : Prop where
  snapshot : strip snapshot ≠ ""
  inputs : ∀ input ∈ inputs, strip input ≠ ""
  budget : ∃ nonneg, nonNegative totalBudget "total_budget" = .ok ⟨budget, nonneg⟩

/-- What a plan says about the roles. -/
structure PlanCorrect (specs : List SpecialistSpec) (inputs : List String) (budget : Decimal)
    (plan : DagPlan) : Prop where
  partition : (plan.scheduledRoles ++ plan.skippedRoles.map Prod.fst).Perm
    (specs.map SpecialistSpec.roleId)
  ordered : Ordered (dependenciesOf (byRole specs).get?) plan.scheduledRoles
  useful : ∀ role ∈ plan.scheduledRoles, ∃ spec ∈ specs, spec.roleId = role ∧
    Useful plan.availableInputs spec plan.scheduledRoles
  reserves : plan.reservedCost.toRat = costOf (byRole specs).get? plan.scheduledRoles
  within : plan.reservedCost.toRat ≤ budget.toRat
  reasons : ∀ item ∈ plan.skippedRoles, ∃ spec ∈ specs, spec.roleId = item.1 ∧
    SkippedFor (byRole specs).get? plan.availableInputs budget spec plan.scheduledRoles item.2
  budget : plan.totalBudget = budget
  inputs : plan.availableInputs = setOf (inputs.map strip)

theorem costOf_nonneg (byId : String → Option SpecialistSpec) (roles : List String) :
    0 ≤ costOf byId roles := by
  apply List.sum_nonneg
  intro cost member
  obtain ⟨role, -, rfl⟩ := List.mem_map.mp member
  cases byId role with
  | none => rfl
  | some spec => exact spec.cost_nonneg

theorem SkippedFor.normal {byId : String → Option SpecialistSpec} {available scheduled : List String}
    {budget : Decimal} {spec : SpecialistSpec} {reason : String}
    (skipped : SkippedFor byId available budget spec scheduled reason) : Normal reason := by
  cases skipped with
  | dependency => decide
  | inputs => decide
  | value => decide
  | budget => decide

section Schedules

variable {specs : List SpecialistSpec} {snapshot : String} {inputs : List String}
  {totalBudget : DecimalInput} {budget : Decimal}

/-- Planning roles with distinct ids. -/
theorem planSpecialists_eq (distinct : (specs.map SpecialistSpec.roleId).Nodup) :
    planSpecialists specs snapshot inputs totalBudget = (do
      let snapshotId ← text snapshot "input_snapshot_id"
      let budget ← nonNegative totalBudget "total_budget"
      let results ← texts inputs "available input"
      let final ← passes (byRole specs).get? (setOf (results.map Subtype.val)) budget
        ⟨setOf (byRole specs).keys, [], [], 0⟩
      DagPlan.create snapshotId final.scheduled final.skipped (.bounded final.reserved)
        (sorted (setOf (results.map Subtype.val))) (.bounded budget)) := by
  have lengths : (byRole specs).entries.length = specs.length := by
    rw [entries_byRole distinct, List.length_map]
  rw [planSpecialists, mapM_readmitSpec]
  simp only [ok_bind, ne_eq, lengths, not_true_eq_false, if_false]

/-- The loop and the record that follow the readers. -/
theorem planSpecialists_admitted (distinct : (specs.map SpecialistSpec.roleId).Nodup)
    (admitted : Admitted snapshot inputs totalBudget budget) :
    planSpecialists specs snapshot inputs totalBudget = (do
      let final ← passes (byRole specs).get? (setOf (inputs.map strip)) budget
        ⟨setOf (byRole specs).keys, [], [], 0⟩
      DagPlan.create (strip snapshot) final.scheduled final.skipped (.bounded final.reserved)
        (sorted (setOf (inputs.map strip))) (.bounded budget)) := by
  obtain ⟨nonneg, budgetRead⟩ := admitted.budget
  obtain ⟨results, inputsRead, same⟩ := exists_texts "available input" admitted.inputs
  have snapshotRead : text snapshot "input_snapshot_id" =
      .ok ⟨strip snapshot, normal_strip admitted.snapshot⟩ :=
    text_eq_ok.mpr ⟨admitted.snapshot, rfl⟩
  rw [planSpecialists_eq distinct, snapshotRead, ok_bind, budgetRead, ok_bind, inputsRead, ok_bind,
    same]

/-- What the loop has settled is admitted as a plan. -/
theorem Settled.exists_plan (distinct : (specs.map SpecialistSpec.roleId).Nodup)
    (admitted : Admitted snapshot inputs totalBudget budget) {final : PlanState}
    (finished : final.unresolved = [])
    (sound : Settled (byRole specs).get? (setOf (inputs.map strip)) budget
      (specs.map SpecialistSpec.roleId) final) :
    ∃ plan, DagPlan.create (strip snapshot) final.scheduled final.skipped
        (.bounded final.reserved) (sorted (setOf (inputs.map strip))) (.bounded budget) =
          .ok plan ∧ PlanCorrect specs inputs budget plan := by
  have partition := sound.partition
  rw [finished, List.nil_append] at partition
  have roleNormal : ∀ role ∈ specs.map SpecialistSpec.roleId, Normal role := by
    intro role member
    obtain ⟨spec, -, rfl⟩ := List.mem_map.mp member
    exact spec.role_normal
  have scheduledNormal : ∀ role ∈ final.scheduled, Normal role := fun role member =>
    roleNormal role (partition.mem_iff.mp (List.mem_append_left _ member))
  have nodup := partition.nodup_iff.mpr distinct
  rw [List.nodup_append'] at nodup
  have skippedNormal : ∀ item ∈ final.skipped, Normal item.1 ∧ Normal item.2 := by
    intro item member
    obtain ⟨spec, -, -, reason⟩ := sound.reasons item member
    exact ⟨roleNormal item.1 (partition.mem_iff.mp
      (List.mem_append_right _ (List.mem_map_of_mem member))), reason.normal⟩
  have available : sorted (setOf (inputs.map strip)) = setOf (inputs.map strip) := by
    rw [setOf]
    exact sorted_eq_of_perm (sorted_perm _)
  have availableNormal : ∀ input ∈ setOf (inputs.map strip), Normal input := by
    intro input member
    obtain ⟨given, listed, rfl⟩ := List.mem_map.mp (mem_setOf.mp member)
    exact normal_strip (admitted.inputs given listed)
  have nonneg : 0 ≤ final.reserved.toRat := sound.reserves ▸ costOf_nonneg _ _
  rw [available]
  refine ⟨_, DagPlan.exists_create (normal_strip admitted.snapshot) scheduledNormal nodup.1
    skippedNormal availableNormal (nodup_setOf _) nonneg sound.within, ?_⟩
  constructor
  · exact partition
  · exact sound.ordered
  · intro role member
    obtain ⟨spec, found, useful⟩ := sound.useful role member
    obtain ⟨listed, same⟩ := (get?_byRole distinct).mp found
    exact ⟨spec, listed, same, useful⟩
  · exact sound.reserves
  · exact sound.within
  · intro item member
    obtain ⟨spec, found, -, reason⟩ := sound.reasons item member
    obtain ⟨listed, same⟩ := (get?_byRole distinct).mp found
    exact ⟨spec, listed, same, reason⟩
  · rfl
  · rfl

/-- A plan is returned only where the dependencies are known. -/
theorem knownDependencies_of_plan (distinct : (specs.map SpecialistSpec.roleId).Nodup)
    {plan : DagPlan} (success : planSpecialists specs snapshot inputs totalBudget = .ok plan) :
    KnownDependencies specs := by
  rw [planSpecialists_eq distinct] at success
  simp only [bind_eq_ok] at success
  obtain ⟨_, -, budget, -, results, -, final, passed, -⟩ := success
  rw [passes] at passed
  split at passed
  next finished =>
    intro spec member
    have listed : spec.roleId ∈ setOf (byRole specs).keys := by
      rw [mem_setOf, keys_byRole distinct]
      exact List.mem_map_of_mem member
    dsimp only at finished
    rw [finished] at listed
    cases listed
  next unfinished =>
    obtain ⟨next, first⟩ : ∃ next, pass (byRole specs).get? (setOf (results.map Subtype.val))
        budget ⟨setOf (byRole specs).keys, [], [], 0⟩ = .ok next := by
      split at passed
      · cases passed
      next found => exact ⟨_, found⟩
      next found => exact ⟨_, found⟩
    have known := forall_of_foldlM (fun role => ∀ spec, (byRole specs).get? role = some spec →
        ∀ dependency ∈ spec.dependencies, (byRole specs).get? dependency ≠ none)
      (fun turned spec found => by
        obtain ⟨other, otherFound, listed, -⟩ := turn_eq_ok.mp turned
        rw [found, Option.some.injEq] at otherFound
        rw [otherFound]
        exact listed) first
    intro spec member dependency needed
    have listed : spec.roleId ∈ sorted (setOf (byRole specs).keys) := by
      rw [mem_sorted, mem_setOf, keys_byRole distinct]
      exact List.mem_map_of_mem member
    rw [← keys_byRole distinct, ← not_not (a := dependency ∈ _), ← Dict.get?_eq_none]
    exact known _ listed spec ((get?_byRole distinct).mpr ⟨member, rfl⟩) dependency needed

/-- The outcomes of planning. -/
theorem planSpecialists_cases (distinct : (specs.map SpecialistSpec.roleId).Nodup)
    (known : KnownDependencies specs) (admitted : Admitted snapshot inputs totalBudget budget) :
    (∃ plan, planSpecialists specs snapshot inputs totalBudget = .ok plan ∧
        ¬ Cyclic (dependenciesOf (byRole specs).get?) ∧ PlanCorrect specs inputs budget plan) ∨
      planSpecialists specs snapshot inputs totalBudget = .error cycleError ∧
        Cyclic (dependenciesOf (byRole specs).get?) ∨
      planSpecialists specs snapshot inputs totalBudget =
          .error (exceeds "reserved specialist cost") ∧
        Overflows (byRole specs).get? budget (specs.map SpecialistSpec.roleId) := by
  obtain ⟨nonneg, -⟩ := admitted.budget
  rw [planSpecialists_admitted distinct admitted]
  rcases (settled_start distinct (setOf (inputs.map strip)) nonneg).passes
      (known_byRole distinct known) with
    ⟨final, passed, finished, sound, acyclic⟩ | ⟨raised, cyclic⟩ | ⟨raised, overflows⟩
  · left
    obtain ⟨plan, created, correct⟩ := sound.exists_plan distinct admitted finished
    refine ⟨plan, ?_, acyclic, correct⟩
    rw [passed, ok_bind, created]
  · right
    left
    rw [raised]
    exact ⟨rfl, cyclic⟩
  · right
    right
    rw [raised]
    exact ⟨rfl, overflows⟩

/-- Arguments that the readers refuse raise. -/
theorem planSpecialists_refused (distinct : (specs.map SpecialistSpec.roleId).Nodup)
    (refused : ¬ ∃ budget, Admitted snapshot inputs totalBudget budget) :
    ∃ error, planSpecialists specs snapshot inputs totalBudget = .error error := by
  rw [planSpecialists_eq distinct]
  cases snapshotRead : text snapshot "input_snapshot_id" with
  | error error => exact ⟨error, rfl⟩
  | ok snapshotId =>
      cases budgetRead : nonNegative totalBudget "total_budget" with
      | error error => exact ⟨error, rfl⟩
      | ok budget =>
          have blank : ∃ input ∈ inputs, strip input = "" := by
            by_contra given
            push Not at given
            exact refused ⟨budget, (text_eq_ok.mp snapshotRead).1, given, budget.2, budgetRead⟩
          rw [ok_bind, ok_bind, texts_of_blank _ blank]
          exact ⟨_, rfl⟩

/-- The order of the roles and of the inputs does not matter. -/
theorem planSpecialists_perm (distinct : (specs.map SpecialistSpec.roleId).Nodup)
    {others : List SpecialistSpec} {otherInputs : List String} (perm : specs.Perm others)
    (inputsPerm : inputs.Perm otherInputs) :
    planSpecialists others snapshot otherInputs totalBudget =
      planSpecialists specs snapshot inputs totalBudget := by
  have otherDistinct : (others.map SpecialistSpec.roleId).Nodup :=
    (perm.map SpecialistSpec.roleId).nodup_iff.mp distinct
  have roles : (byRole others).get? = (byRole specs).get? := by
    funext role
    apply Option.ext
    intro spec
    rw [get?_byRole otherDistinct, get?_byRole distinct, perm.mem_iff]
  have keys : setOf (byRole others).keys = setOf (byRole specs).keys := by
    apply setOf_congr
    intro role
    rw [keys_byRole otherDistinct, keys_byRole distinct, (perm.map _).mem_iff]
  rw [planSpecialists_eq distinct, planSpecialists_eq otherDistinct, roles, keys]
  by_cases given : ∀ input ∈ inputs, strip input ≠ ""
  · obtain ⟨results, read, same⟩ := exists_texts "available input" given
    obtain ⟨otherResults, otherRead, otherSame⟩ := exists_texts "available input"
      fun input member => given input (inputsPerm.mem_iff.mpr member)
    have available : setOf (otherResults.map Subtype.val) = setOf (results.map Subtype.val) := by
      apply setOf_congr
      intro input
      rw [otherSame, same, (inputsPerm.map strip).mem_iff]
    simp only [read, otherRead, ok_bind, available]
  · push Not at given
    obtain ⟨input, member, empty⟩ := given
    have blank := texts_of_blank "available input" ⟨input, member, empty⟩
    have otherBlank := texts_of_blank "available input"
      ⟨input, inputsPerm.mem_iff.mp member, empty⟩
    simp only [blank, otherBlank]

end Schedules

/-- Planning ends.  On admitted arguments it returns a budgeted topological schedule of an
acyclic graph, reports the cycle of a cyclic one, or reports that the cost of a role does not fit
into the numeric envelope beside the costs of others; and no order of the roles or of the inputs
changes the outcome. -/
theorem plan_specialists_schedules (specs : List SpecialistSpec)
    (distinct : (specs.map SpecialistSpec.roleId).Nodup) (known : KnownDependencies specs)
    (snapshot : String) (inputs : List String) (totalBudget : DecimalInput) :
    (∀ budget, Admitted snapshot inputs totalBudget budget →
      (∃ plan, planSpecialists specs snapshot inputs totalBudget = .ok plan ∧
          ¬ Cyclic (dependenciesOf (byRole specs).get?) ∧ PlanCorrect specs inputs budget plan) ∨
        planSpecialists specs snapshot inputs totalBudget = .error cycleError ∧
          Cyclic (dependenciesOf (byRole specs).get?) ∨
        planSpecialists specs snapshot inputs totalBudget =
            .error (exceeds "reserved specialist cost") ∧
          Overflows (byRole specs).get? budget (specs.map SpecialistSpec.roleId)) ∧
    ((¬ ∃ budget, Admitted snapshot inputs totalBudget budget) →
      ∃ error, planSpecialists specs snapshot inputs totalBudget = .error error) ∧
    ∀ others otherInputs, specs.Perm others → inputs.Perm otherInputs →
      planSpecialists others snapshot otherInputs totalBudget =
        planSpecialists specs snapshot inputs totalBudget := by
  refine ⟨?_, ?_, ?_⟩
  · intro budget admitted
    exact planSpecialists_cases distinct known admitted
  · exact planSpecialists_refused distinct
  · intro others otherInputs perm inputsPerm
    exact planSpecialists_perm distinct perm inputsPerm

/-! ## Costs outside the numeric envelope -/

/-- `10 ^ digits`. -/
def powerOfTen (digits : Nat) (short : digits < 256) : Decimal :=
  ⟨10 ^ digits, 0, by decide, 10 ^ digits, by simp, by
    rw [Int.natAbs_pow]
    exact Nat.pow_lt_pow_right (by decide) short⟩

/-- `1e-200`. -/
def tinyCost : Decimal := ⟨1 / 10 ^ 200, 200, by decide, 1, by norm_num, by decide⟩

/-- A role without inputs and dependencies. -/
def freeRole (role : String) (normal : Normal role) (cost : Decimal) (nonneg : 0 ≤ cost.toRat) :
    SpecialistSpec :=
  ⟨role, "group", cost, powerOfTen 0 (by decide), [], [], normal, by decide, nonneg, by simp,
    by simp, by simp, by simp, by simp⟩

/-- Two roles whose costs have no common presentation. -/
def wideRoles : List SpecialistSpec :=
  [freeRole "huge" (by decide) (powerOfTen 200 (by decide)) (by decide +kernel),
    freeRole "tiny" (by decide) tinyCost (by decide +kernel)]

theorem wideRoles_distinct : (wideRoles.map SpecialistSpec.roleId).Nodup := by decide

theorem wideRoles_free : ∀ spec ∈ wideRoles, spec.dependencies = [] := by
  intro spec member
  rcases List.mem_cons.mp member with rfl | member
  · rfl
  · rw [List.mem_singleton.mp member]
    rfl

theorem wideRoles_known : KnownDependencies wideRoles := by
  intro spec member dependency needed
  rw [wideRoles_free spec member] at needed
  cases needed

/-- The roles in the other order. -/
theorem wide_roles_reversed :
    planSpecialists wideRoles.reverse "cut-1" [] (.text "1") =
      planSpecialists wideRoles "cut-1" [] (.text "1") :=
  (plan_specialists_schedules wideRoles wideRoles_distinct wideRoles_known "cut-1" []
    (.text "1")).2.2 wideRoles.reverse [] (List.reverse_perm _).symm (.refl _)

/-- Two roles without dependencies, inside the budget, that are not planned. -/
theorem wide_costs_not_planned :
    (wideRoles.map SpecialistSpec.roleId).Nodup ∧ KnownDependencies wideRoles ∧
      ¬ Cyclic (dependenciesOf (byRole wideRoles).get?) ∧
        planSpecialists wideRoles "cut-1" [] (.bounded (powerOfTen 201 (by decide))) =
          .error (exceeds "reserved specialist cost") := by
  have distinct := wideRoles_distinct
  refine ⟨distinct, wideRoles_known, ?_, ?_⟩
  · rintro ⟨role, cycle⟩
    obtain ⟨dependency, needed, -⟩ := cycle.next
    cases found : (byRole wideRoles).get? role with
    | none =>
        rw [dependenciesOf, found] at needed
        cases needed
    | some spec =>
        rw [dependenciesOf_eq found, wideRoles_free spec ((get?_byRole distinct).mp found).1] at needed
        cases needed
  · have admitted : Admitted "cut-1" [] (.bounded (powerOfTen 201 (by decide)))
        (powerOfTen 201 (by decide)) :=
      ⟨by decide, by simp, by decide +kernel, nonNegative_bounded _ _⟩
    have failed : pass (byRole wideRoles).get? (setOf []) (powerOfTen 201 (by decide))
        ⟨setOf (byRole wideRoles).keys, [], [], 0⟩ =
          .error (exceeds "reserved specialist cost") := by
      decide +kernel
    rw [planSpecialists_admitted distinct admitted, passes, if_neg (by decide)]
    split
    next raised =>
      rw [List.map_nil, failed] at raised
      cases raised
      rfl
    next raised =>
      rw [List.map_nil, failed] at raised
      cases raised
    next raised =>
      rw [List.map_nil, failed] at raised
      cases raised

end AutoTrade.Specialists
