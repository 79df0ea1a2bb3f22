import AutoTrade.Lib.Dependencies
import AutoTrade.Specialists.Dag

/-!
# Correctness of the planner

The loop invariant of `plan_specialists`: the roles are unsettled, scheduled or skipped, each
once; the scheduled ones come after their dependencies and are paid from the budget; the skipped
ones fail the first test that they fail; and the roles on a cycle stay unsettled.
-/

namespace AutoTrade.Specialists

open Lib Numeric

section Invariants

variable (byId : String → Option SpecialistSpec) (available : List String) (budget : Decimal)

/-- The dependencies of a role. -/
def dependenciesOf (role : String) : List String :=
  ((byId role).map SpecialistSpec.dependencies).getD []

/-- The sum of the maximal costs of roles. -/
def costOf (roles : List String) : ℚ :=
  (roles.map fun role => ((byId role).map fun spec => spec.maxCost.toRat).getD 0).sum

/-- Every input of the role is available. -/
def InputsAvailable (spec : SpecialistSpec) : Prop := ∀ input ∈ spec.requiredInputs, input ∈ available

/-- The role passes every test but the one of its cost. -/
structure Useful (spec : SpecialistSpec) (scheduled : List String) : Prop where
  dependencies : ∀ dependency ∈ spec.dependencies, dependency ∈ scheduled
  inputs : InputsAvailable available spec
  value : 0 < spec.expectedIncrementalValue.toRat

/-- The role fails the test of the reason and passes those before it. -/
inductive SkippedFor (spec : SpecialistSpec) (scheduled : List String) : String → Prop where
  | dependency (dependency : String) (listed : dependency ∈ spec.dependencies)
      (unscheduled : dependency ∉ scheduled) :
      SkippedFor spec scheduled "dependency_not_scheduled"
  | inputs (dependencies : ∀ dependency ∈ spec.dependencies, dependency ∈ scheduled)
      (missing : ¬ InputsAvailable available spec) : SkippedFor spec scheduled "missing_inputs"
  | value (dependencies : ∀ dependency ∈ spec.dependencies, dependency ∈ scheduled)
      (inputs : InputsAvailable available spec)
      (worthless : spec.expectedIncrementalValue.toRat ≤ 0) :
      SkippedFor spec scheduled "non_positive_incremental_value"
  /-- The role does not fit beside the roles that were scheduled before its turn. -/
  | budget (before after : List String) (split : scheduled = before ++ after)
      (useful : Useful available spec before)
      (exceeded : budget.toRat < costOf byId before + spec.maxCost.toRat) :
      SkippedFor spec scheduled "budget_exceeded"

/-- Some role does not fit into the numeric envelope beside other roles that fit the budget. -/
def Overflows (ids : List String) : Prop :=
  ∃ reserved role spec, reserved.Nodup ∧ (∀ other ∈ reserved, other ∈ ids) ∧ role ∈ ids ∧
    role ∉ reserved ∧ byId role = some spec ∧ costOf byId reserved ≤ budget.toRat ∧
      ¬ Representable (costOf byId reserved + spec.maxCost.toRat)

/-- The loop invariant. -/
structure Settled (ids : List String) (state : PlanState) : Prop where
  partition : (state.unresolved ++ (state.scheduled ++ state.skipped.map Prod.fst)).Perm ids
  ordered : Ordered (dependenciesOf byId) state.scheduled
  useful : ∀ role ∈ state.scheduled, ∃ spec, byId role = some spec ∧
    Useful available spec state.scheduled
  reserves : state.reserved.toRat = costOf byId state.scheduled
  within : state.reserved.toRat ≤ budget.toRat
  reasons : ∀ item ∈ state.skipped, ∃ spec, byId item.1 = some spec ∧
    (∀ dependency ∈ spec.dependencies, dependency ∉ state.unresolved) ∧
      SkippedFor byId available budget spec state.scheduled item.2
  cycles : ∀ role ∈ ids, Needs (dependenciesOf byId) role role → role ∈ state.unresolved

end Invariants

section Steps

variable {byId : String → Option SpecialistSpec} {available : List String} {budget : Decimal}
  {ids : List String} {state next : PlanState} {roleId : String} {spec : SpecialistSpec}

theorem dependenciesOf_eq (found : byId roleId = some spec) :
    dependenciesOf byId roleId = spec.dependencies := by
  rw [dependenciesOf, found]
  rfl

theorem costOf_append (found : byId roleId = some spec) (roles : List String) :
    costOf byId (roles ++ [roleId]) = costOf byId roles + spec.maxCost.toRat := by
  rw [costOf, costOf, List.map_append, List.sum_append, List.map_singleton, List.sum_singleton,
    found]
  rfl

theorem Useful.append {scheduled : List String} (useful : Useful available spec scheduled)
    (role : String) : Useful available spec (scheduled ++ [role]) :=
  { useful with dependencies := fun dependency listed =>
      List.mem_append_left _ (useful.dependencies dependency listed) }

/-- The reason stands when a role is scheduled on which the skipped one does not depend. -/
theorem SkippedFor.append {scheduled : List String} {reason role : String}
    (skipped : SkippedFor byId available budget spec scheduled reason)
    (independent : role ∉ spec.dependencies) :
    SkippedFor byId available budget spec (scheduled ++ [role]) reason := by
  have grown : ∀ dependency : String, dependency ∈ scheduled → dependency ∈ scheduled ++ [role] :=
    fun _ member => List.mem_append_left _ member
  cases skipped with
  | dependency dependency listed unscheduled =>
      apply SkippedFor.dependency dependency listed
      rw [List.mem_append, List.mem_singleton, not_or]
      constructor
      · exact unscheduled
      · intro same
        exact independent (same ▸ listed)
  | inputs dependencies missing =>
      exact .inputs (fun dependency listed => grown _ (dependencies dependency listed)) missing
  | value dependencies inputs worthless =>
      exact .value (fun dependency listed => grown _ (dependencies dependency listed)) inputs
        worthless
  | budget before after split useful exceeded =>
      apply SkippedFor.budget before (after ++ [role]) _ useful exceeded
      rw [split, List.append_assoc]

/-- What happens to a role whose dependencies are settled. -/
inductive RoleSettled (byId : String → Option SpecialistSpec) (available : List String)
    (budget : Decimal) (spec : SpecialistSpec) (roleId : String) (state : PlanState) :
    PlanState → Prop where
  | skipped (reason : String)
      (fails : SkippedFor byId available budget spec state.scheduled reason) :
      RoleSettled byId available budget spec roleId state (state.skip roleId reason)
  | scheduled (reserved : Decimal) (useful : Useful available spec state.scheduled)
      (paid : reserved.toRat = state.reserved.toRat + spec.maxCost.toRat)
      (within : reserved.toRat ≤ budget.toRat) :
      RoleSettled byId available budget spec roleId state (state.schedule roleId reserved)

/-- A role is settled by its tests, unless its cost does not fit into the numeric envelope. -/
theorem settleRole_cases (reserves : state.reserved.toRat = costOf byId state.scheduled) :
    (∃ settled, settleRole available budget spec state roleId = .ok settled ∧
        RoleSettled byId available budget spec roleId state settled) ∨
      settleRole available budget spec state roleId = .error (exceeds "reserved specialist cost") ∧
        ¬ Representable (state.reserved.toRat + spec.maxCost.toRat) := by
  unfold settleRole
  split
  next unscheduled =>
    obtain ⟨dependency, listed, absent⟩ := unscheduled
    exact .inl ⟨_, rfl, .skipped _ (.dependency dependency listed absent)⟩
  next dependencies =>
  have scheduled : ∀ dependency ∈ spec.dependencies, dependency ∈ state.scheduled := by
    intro dependency listed
    by_contra absent
    exact dependencies ⟨dependency, listed, absent⟩
  split
  next missing =>
    obtain ⟨input, required, absent⟩ := missing
    exact .inl ⟨_, rfl, .skipped _ (.inputs scheduled fun all => absent (all input required))⟩
  next present =>
  have inputs : InputsAvailable available spec := by
    intro input required
    by_contra absent
    exact present ⟨input, required, absent⟩
  split
  next worthless => exact .inl ⟨_, rfl, .skipped _ (.value scheduled inputs worthless)⟩
  next valued =>
  have useful : Useful available spec state.scheduled := ⟨scheduled, inputs, not_le.mp valued⟩
  cases added : exactAdd state.reserved spec.maxCost with
  | error error =>
      right
      constructor
      · rw [addExact, added]
        rfl
      · intro representable
        have returned : exactAdd state.reserved spec.maxCost = .ok ⟨_, representable⟩ :=
          exactAdd_eq_ok.mpr rfl
        rw [added] at returned
        cases returned
  | ok reserved =>
      left
      have paid := exactAdd_eq_ok.mp added
      rw [addExact, added]
      change ∃ settled, (if budget.toRat < reserved.toRat then
        .ok (state.skip roleId "budget_exceeded") else .ok (state.schedule roleId reserved) :
          Except SpecialistDagError PlanState) = .ok settled ∧ _
      split
      next exceeded =>
        refine ⟨_, rfl, .skipped _ (.budget state.scheduled [] (by simp) useful ?_)⟩
        rw [← reserves, ← paid]
        exact exceeded
      next fits => exact ⟨_, rfl, .scheduled reserved useful paid (not_lt.mp fits)⟩

end Steps

/-! ## The loops -/

/-- Every role is listed once, and so are the dependencies of the roles. -/
structure Known (byId : String → Option SpecialistSpec) (ids : List String) : Prop where
  nodup : ids.Nodup
  members : ∀ role, role ∈ ids ↔ byId role ≠ none
  dependencies : ∀ role spec, byId role = some spec →
    ∀ dependency ∈ spec.dependencies, dependency ∈ ids

section Loops

variable {byId : String → Option SpecialistSpec} {available : List String} {budget : Decimal}
  {ids : List String} {state settled : PlanState} {roleId : String} {spec : SpecialistSpec}

theorem Settled.mem (sound : Settled byId available budget ids state)
    (unresolved : roleId ∈ state.unresolved) : roleId ∈ ids :=
  sound.partition.mem_iff.mp (List.mem_append_left _ unresolved)

theorem Settled.nodup (known : Known byId ids) (sound : Settled byId available budget ids state) :
    (state.unresolved ++ (state.scheduled ++ state.skipped.map Prod.fst)).Nodup :=
  sound.partition.nodup_iff.mpr known.nodup

theorem Settled.notMem_scheduled (known : Known byId ids)
    (sound : Settled byId available budget ids state) (unresolved : roleId ∈ state.unresolved) :
    roleId ∉ state.scheduled := by
  have distinct := sound.nodup known
  rw [List.nodup_append'] at distinct
  exact fun member => distinct.2.2 unresolved (List.mem_append_left _ member)

/-- A role that moves to the settled ones leaves the partition a partition. -/
theorem partition_move {unresolved others : List String} (member : roleId ∈ unresolved)
    (partition : (unresolved ++ others).Perm ids) {later : List String}
    (moved : later.Perm (roleId :: others)) : (unresolved.erase roleId ++ later).Perm ids := by
  have first : (unresolved.erase roleId ++ later).Perm
      (unresolved.erase roleId ++ roleId :: others) := moved.append_left _
  have second : (unresolved.erase roleId ++ roleId :: others).Perm
      (roleId :: (unresolved.erase roleId ++ others)) := List.perm_middle
  have third : (roleId :: (unresolved.erase roleId ++ others)).Perm (unresolved ++ others) :=
    (List.perm_cons_erase member).symm.append_right others
  exact first.trans (second.trans (third.trans partition))

/-- A role on a cycle has a dependency that is not settled. -/
theorem Settled.cycles_erase (known : Known byId ids)
    (sound : Settled byId available budget ids state) (found : byId roleId = some spec)
    (free : ∀ dependency ∈ spec.dependencies, dependency ∉ state.unresolved) :
    ∀ role ∈ ids, Needs (dependenciesOf byId) role role → role ∈ state.unresolved.erase roleId := by
  intro role listed cycle
  have unresolved := sound.cycles role listed cycle
  by_cases same : role = roleId
  · subst same
    obtain ⟨dependency, needed, further⟩ := cycle.next
    rw [dependenciesOf_eq found] at needed
    have unsettled := sound.cycles dependency (known.dependencies _ _ found _ needed) further
    exact absurd unsettled (free dependency needed)
  · exact (List.mem_erase_of_ne same).mpr unresolved

/-- The invariant is kept when a role is settled. -/
theorem Settled.settle (known : Known byId ids) (sound : Settled byId available budget ids state)
    (unresolved : roleId ∈ state.unresolved) (found : byId roleId = some spec)
    (free : ∀ dependency ∈ spec.dependencies, dependency ∉ state.unresolved)
    (role : RoleSettled byId available budget spec roleId (state.resolved roleId) settled) :
    Settled byId available budget ids settled := by
  have cycles := sound.cycles_erase known found free
  have fewer : ∀ dependency : String, dependency ∉ state.unresolved →
      dependency ∉ state.unresolved.erase roleId :=
    fun _ absent member => absent (List.mem_of_mem_erase member)
  cases role with
  | skipped reason fails =>
      constructor
      · apply partition_move unresolved sound.partition
        rw [PlanState.skip, List.map_append, ← List.append_assoc]
        exact List.perm_append_singleton _ _
      · exact sound.ordered
      · exact sound.useful
      · exact sound.reserves
      · exact sound.within
      · intro item member
        rcases List.mem_append.mp member with earlier | last
        · obtain ⟨other, otherFound, settledDependencies, reasons⟩ := sound.reasons item earlier
          exact ⟨other, otherFound, fun dependency listed =>
            fewer _ (settledDependencies dependency listed), reasons⟩
        · rw [List.mem_singleton.mp last]
          exact ⟨spec, found, fun dependency listed => fewer _ (free dependency listed), fails⟩
      · exact cycles
  | scheduled reserved useful paid within =>
      constructor
      · apply partition_move unresolved sound.partition
        change (state.scheduled ++ [roleId] ++ state.skipped.map Prod.fst).Perm _
        rw [List.append_assoc]
        exact List.perm_middle
      · apply sound.ordered.append
        rw [dependenciesOf_eq found]
        exact useful.dependencies
      · intro other member
        rcases List.mem_append.mp member with earlier | last
        · obtain ⟨otherSpec, otherFound, otherUseful⟩ := sound.useful other earlier
          exact ⟨otherSpec, otherFound, otherUseful.append roleId⟩
        · rw [List.mem_singleton.mp last]
          exact ⟨spec, found, useful.append roleId⟩
      · change reserved.toRat = costOf byId (state.scheduled ++ [roleId])
        rw [costOf_append found, ← sound.reserves]
        exact paid
      · exact within
      · intro item member
        obtain ⟨other, otherFound, settledDependencies, reasons⟩ := sound.reasons item member
        exact ⟨other, otherFound, fun dependency listed =>
          fewer _ (settledDependencies dependency listed), reasons.append fun listed =>
            settledDependencies _ listed unresolved⟩
      · exact cycles

/-- Some dependency of the role is not settled. -/
def Blocked (byId : String → Option SpecialistSpec) (state : PlanState) (role : String) : Prop :=
  ∃ dependency ∈ dependenciesOf byId role, dependency ∈ state.unresolved

/-- A turn for an unsettled role leaves a blocked one and settles any other. -/
theorem Settled.turn (known : Known byId ids) (sound : Settled byId available budget ids state)
    (unresolved : roleId ∈ state.unresolved) (flag : Bool) :
    (Blocked byId state roleId ∧
        turn byId available budget (flag, state) roleId = .ok (flag, state)) ∨
      (∃ next, Specialists.turn byId available budget (flag, state) roleId = .ok (true, next) ∧
        Settled byId available budget ids next ∧
          next.unresolved = state.unresolved.erase roleId) ∨
      (Specialists.turn byId available budget (flag, state) roleId =
        .error (exceeds "reserved specialist cost") ∧ Overflows byId budget ids) := by
  obtain ⟨spec, found⟩ :=
    Option.ne_none_iff_exists'.mp ((known.members roleId).mp (sound.mem unresolved))
  have listed : ∀ dependency ∈ spec.dependencies, byId dependency ≠ none := fun dependency needed =>
    (known.members dependency).mp (known.dependencies _ _ found _ needed)
  have none : spec.dependencies.filter (fun dependency => (byId dependency).isNone) = [] := by
    rw [List.filter_eq_nil_iff]
    intro dependency needed
    simp [listed dependency needed]
  by_cases blocked : ∃ dependency ∈ spec.dependencies, dependency ∈ state.unresolved
  · left
    constructor
    · rw [Blocked, dependenciesOf_eq found]
      exact blocked
    · exact turn_eq_ok.mpr ⟨spec, found, listed, .inl ⟨blocked, rfl⟩⟩
  · right
    have free : ∀ dependency ∈ spec.dependencies, dependency ∉ state.unresolved :=
      fun dependency needed member => blocked ⟨dependency, needed, member⟩
    rcases @settleRole_cases byId available budget (state.resolved roleId) roleId spec
      sound.reserves with
      ⟨settled, success, role⟩ | ⟨failure, wide⟩
    · left
      refine ⟨settled, turn_eq_ok.mpr ⟨spec, found, listed, .inr ⟨free, settled, success, rfl⟩⟩,
        sound.settle known unresolved found free role, settleRole_unresolved success⟩
    · right
      constructor
      · rw [Specialists.turn, found]
        dsimp only
        rw [none, if_neg (by simp), if_neg blocked, failure]
        rfl
      · have distinct := sound.nodup known
        rw [List.nodup_append', List.nodup_append'] at distinct
        refine ⟨state.scheduled, roleId, spec, distinct.2.1.1, ?_, sound.mem unresolved,
          sound.notMem_scheduled known unresolved, found, ?_, ?_⟩
        · intro other member
          exact sound.partition.mem_iff.mp
            (List.mem_append_right _ (List.mem_append_left _ member))
        · rw [← sound.reserves]
          exact sound.within
        · rw [← sound.reserves]
          exact wide

/-- The turns of a pass keep the invariant; without progress they find every role blocked. -/
theorem Settled.turns (known : Known byId ids) {roles : List String} (distinct : roles.Nodup)
    (sound : Settled byId available budget ids state)
    (unresolved : ∀ role ∈ roles, role ∈ state.unresolved) (flag : Bool) :
    (∃ next, roles.foldlM (Specialists.turn byId available budget) (flag, state) = .ok next ∧
        Settled byId available budget ids next.2 ∧
          (next.1 = false →
            flag = false ∧ next.2 = state ∧ ∀ role ∈ roles, Blocked byId state role)) ∨
      roles.foldlM (Specialists.turn byId available budget) (flag, state) =
        .error (exceeds "reserved specialist cost") ∧ Overflows byId budget ids := by
  induction roles generalizing state flag with
  | nil =>
      left
      refine ⟨(flag, state), rfl, sound, ?_⟩
      intro idle
      exact ⟨idle, rfl, fun _ member => absurd member List.not_mem_nil⟩
  | cons roleId rest ih =>
      rw [List.nodup_cons] at distinct
      rw [List.forall_mem_cons] at unresolved
      rw [List.foldlM_cons]
      rcases sound.turn known unresolved.1 flag with
        ⟨blocked, stays⟩ | ⟨between, settles, keeps, erased⟩ | ⟨raises, overflows⟩
      · rw [stays, ok_bind]
        rcases ih distinct.2 sound unresolved.2 flag with ⟨next, later, kept, idle⟩ | raised
        · left
          refine ⟨next, later, kept, ?_⟩
          intro none
          obtain ⟨unmoved, same, others⟩ := idle none
          exact ⟨unmoved, same, List.forall_mem_cons.mpr ⟨blocked, others⟩⟩
        · exact .inr raised
      · rw [settles, ok_bind]
        have remaining : ∀ role ∈ rest, role ∈ between.unresolved := by
          intro role member
          rw [erased]
          have different : role ≠ roleId := by
            intro same
            exact distinct.1 (same ▸ member)
          exact (List.mem_erase_of_ne different).mpr (unresolved.2 role member)
        rcases ih distinct.2 keeps remaining true with ⟨next, later, kept, idle⟩ | raised
        · left
          refine ⟨next, later, kept, ?_⟩
          intro none
          cases (idle none).1
        · exact .inr raised
      · right
        rw [raises]
        exact ⟨rfl, overflows⟩

/-- The error of a graph that has a cycle. -/
def cycleError : SpecialistDagError := .message "specialist dependency graph contains a cycle"

/-- A role on a cycle is a role. -/
theorem Known.mem_of_needs (known : Known byId ids)
    (cycle : Needs (dependenciesOf byId) roleId roleId) : roleId ∈ ids := by
  obtain ⟨dependency, needed, -⟩ := cycle.next
  rw [known.members]
  intro missing
  rw [dependenciesOf, missing] at needed
  cases needed

/-- The loop settles every role, or finds a cycle or a cost outside the numeric envelope. -/
theorem Settled.passes (known : Known byId ids) (sound : Settled byId available budget ids state) :
    (∃ final, passes byId available budget state = .ok final ∧ final.unresolved = [] ∧
        Settled byId available budget ids final ∧ ¬ Cyclic (dependenciesOf byId)) ∨
      passes byId available budget state = .error cycleError ∧ Cyclic (dependenciesOf byId) ∨
      passes byId available budget state = .error (exceeds "reserved specialist cost") ∧
        Overflows byId budget ids := by
  induction size : state.unresolved.length using Nat.strong_induction_on generalizing state with
  | _ length ih =>
      subst size
      rw [Specialists.passes]
      split
      next finished =>
        left
        refine ⟨state, rfl, finished, sound, ?_⟩
        rintro ⟨role, cycle⟩
        have unresolved := sound.cycles role (known.mem_of_needs cycle) cycle
        rw [finished] at unresolved
        cases unresolved
      next unfinished =>
        have distinct := sound.nodup known
        rw [List.nodup_append'] at distinct
        have sortedNodup : (sorted state.unresolved).Nodup :=
          (List.perm_insertionSort _ _).nodup_iff.mpr distinct.1
        rcases sound.turns known sortedNodup (fun _ => mem_sorted.mp) false with
          ⟨⟨flag, next⟩, passed, kept, idle⟩ | ⟨raises, overflows⟩
        · cases flag with
          | true =>
              have shorter := pass_shrinks passed
              have later := ih _ shorter kept rfl
              split
              next failed => rw [pass, passed] at failed; cases failed
              next progress => rw [pass, passed] at progress; cases progress
              next other progress =>
                rw [pass, passed] at progress
                cases progress
                exact later
          | false =>
              obtain ⟨-, -, blocked⟩ := idle rfl
              have cyclic : Cyclic (dependenciesOf byId) := by
                by_contra acyclic
                have nonempty : state.unresolved.toFinset.Nonempty := by
                  rw [List.toFinset_nonempty_iff]
                  exact unfinished
                obtain ⟨role, member, ready⟩ := exists_ready acyclic nonempty
                rw [List.mem_toFinset] at member
                obtain ⟨dependency, needed, waits⟩ := blocked role (mem_sorted.mpr member)
                exact ready dependency needed (List.mem_toFinset.mpr waits)
              right
              left
              split
              next failed => rw [pass, passed] at failed; cases failed
              next => exact ⟨rfl, cyclic⟩
              next progress => rw [pass, passed] at progress; cases progress
        · right
          right
          split
          next failed =>
            rw [pass, raises] at failed
            cases failed
            exact ⟨rfl, overflows⟩
          next progress => rw [pass, raises] at progress; cases progress
          next progress => rw [pass, raises] at progress; cases progress

end Loops

end AutoTrade.Specialists
