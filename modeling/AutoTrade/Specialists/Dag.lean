import Mathlib.Data.List.Sort
import AutoTrade.Lib.Dict
import AutoTrade.Lib.Raise
import AutoTrade.Lib.Text
import AutoTrade.Numeric.ExactDecimal

/-!
# Specialist roles and plans

The records of `agents/dag.py` that a plan is made of, and `plan_specialists`, which settles
the roles in passes over the ones whose dependencies are settled.
-/

namespace AutoTrade.Specialists

open Lib Numeric

/-! ## Readers -/

/-- `SpecialistDagError`; a message with a list of roles is kept as its parts. -/
inductive SpecialistDagError where
  | message (text : String)
  | unknownDependencies (roleId : String) (unknown : List String)
  deriving DecidableEq, Repr

/-- `_text`. -/
def text (value name : String) : Except SpecialistDagError { result : String // Normal result } :=
  if nonempty : strip value = "" then .error (.message s!"{name} is required")
  else .ok ⟨strip value, normal_strip nonempty⟩

/-- `tuple(_text(item, name) for item in values)`. -/
def texts (values : List String) (name : String) :
    Except SpecialistDagError (List { result : String // Normal result }) :=
  values.mapM fun value => text value name

/-- `_decimal`. -/
def decimal (value : DecimalInput) (name : String) : Except SpecialistDagError Decimal :=
  (parseBoundedExactDecimal value true).mapError fun _ =>
    .message s!"{name} must use bounded exact decimal input"

/-- `_decimal` with `non_negative`. -/
def nonNegative (value : DecimalInput) (name : String) :
    Except SpecialistDagError { amount : Decimal // 0 ≤ amount.toRat } := do
  let result ← decimal value name
  if nonneg : 0 ≤ result.toRat then return ⟨result, nonneg⟩
  else throw (.message s!"{name} cannot be negative")

/-- The message of the exact operations. -/
def exceeds (name : String) : SpecialistDagError :=
  .message s!"{name} exceeds the exact numeric resource envelope"

/-- `_exact_add`. -/
def addExact (left right : Decimal) (name : String) : Except SpecialistDagError Decimal :=
  (exactAdd left right).mapError fun _ => exceeds name

/-- `sorted` of texts. -/
def sorted (values : List String) : List String := values.insertionSort (· ≤ ·)

/-- A set of texts, as the sorted list of its members. -/
def setOf (values : List String) : List String := sorted values.dedup

/-! ## Roles -/

/-- `SpecialistSpec`. -/
structure SpecialistSpec where
  roleId : String
  correlationGroup : String
  maxCost : Decimal
  expectedIncrementalValue : Decimal
  requiredInputs : List String
  dependencies : List String
  role_normal : Normal roleId
  group_normal : Normal correlationGroup
  cost_nonneg : 0 ≤ maxCost.toRat
  inputs_normal : ∀ input ∈ requiredInputs, Normal input
  dependencies_normal : ∀ dependency ∈ dependencies, Normal dependency
  inputs_nodup : requiredInputs.Nodup
  dependencies_nodup : dependencies.Nodup
  independent : roleId ∉ dependencies

theorem amount_nonneg (amount : { amount : Decimal // 0 ≤ amount.toRat }) : 0 ≤ amount.1.toRat :=
  amount.2

theorem forall_normal {values : List { result : String // Normal result }} :
    ∀ value ∈ values.map Subtype.val, Normal value := by
  intro value member
  obtain ⟨result, -, rfl⟩ := List.mem_map.mp member
  exact result.2

/-- `SpecialistSpec(...)`. -/
def SpecialistSpec.create (roleId correlationGroup : String)
    (maxCost expectedIncrementalValue : DecimalInput) (requiredInputs dependencies : List String) :
    Except SpecialistDagError SpecialistSpec := do
  let role ← text roleId "role_id"
  let group ← text correlationGroup "correlation_group"
  let cost ← nonNegative maxCost "max_cost"
  let value ← decimal expectedIncrementalValue "expected_incremental_value"
  let inputs ← texts requiredInputs "required input"
  let needed ← texts dependencies "dependency"
  if inputsNodup : (inputs.map Subtype.val).Nodup then
    if neededNodup : (needed.map Subtype.val).Nodup then
      if independent : role.1 ∉ needed.map Subtype.val then
        return ⟨role, group, cost, value, inputs.map Subtype.val, needed.map Subtype.val,
          normal_val role, normal_val group, amount_nonneg cost, forall_normal, forall_normal,
          inputsNodup, neededNodup, independent⟩
      else throw (.message "specialist cannot depend on itself")
    else throw (.message "dependencies must not contain duplicates")
  else throw (.message "required_inputs must not contain duplicates")

/-- `_readmit_spec`. -/
def readmitSpec (value : SpecialistSpec) : Except SpecialistDagError SpecialistSpec :=
  SpecialistSpec.create value.roleId value.correlationGroup (.bounded value.maxCost)
    (.bounded value.expectedIncrementalValue) value.requiredInputs value.dependencies

/-! ## Plans -/

/-- `DagPlan`. -/
@[ext] structure DagPlan where
  inputSnapshotId : String
  scheduledRoles : List String
  skippedRoles : List (String × String)
  reservedCost : Decimal
  availableInputs : List String
  totalBudget : Decimal
  snapshot_normal : Normal inputSnapshotId
  scheduled_normal : ∀ role ∈ scheduledRoles, Normal role
  scheduled_nodup : scheduledRoles.Nodup
  skipped_normal : ∀ item ∈ skippedRoles, Normal item.1 ∧ Normal item.2
  available_normal : ∀ input ∈ availableInputs, Normal input
  available_nodup : availableInputs.Nodup
  reserved_nonneg : 0 ≤ reservedCost.toRat
  reserved_le : reservedCost.toRat ≤ totalBudget.toRat

instance : DecidableEq DagPlan := fun _ _ => decidable_of_iff _ DagPlan.ext_iff.symm

/-- The pair of a role and a reason. -/
def rolePair (roleName reasonName : String) (item : String × String) : Except SpecialistDagError
    ({ result : String // Normal result } × { result : String // Normal result }) := do
  let role ← text item.1 roleName
  let reason ← text item.2 reasonName
  return (role, reason)

/-- The texts of a role and a reason. -/
def pairTexts (item : { result : String // Normal result } × { result : String // Normal result }) :
    String × String := (item.1.1, item.2.1)

theorem forall_pairs_normal
    {values : List ({ result : String // Normal result } × { result : String // Normal result })} :
    ∀ item ∈ values.map pairTexts, Normal item.1 ∧ Normal item.2 := by
  intro item member
  obtain ⟨result, -, rfl⟩ := List.mem_map.mp member
  exact ⟨result.1.2, result.2.2⟩

/-- `DagPlan(...)`. -/
def DagPlan.create (inputSnapshotId : String) (scheduledRoles : List String)
    (skippedRoles : List (String × String)) (reservedCost : DecimalInput)
    (availableInputs : List String) (totalBudget : DecimalInput) :
    Except SpecialistDagError DagPlan := do
  let snapshot ← text inputSnapshotId "input_snapshot_id"
  let scheduled ← texts scheduledRoles "scheduled role"
  if scheduledNodup : (scheduled.map Subtype.val).Nodup then
    let available ← texts availableInputs "available input"
    if availableNodup : (available.map Subtype.val).Nodup then
      let skipped ← skippedRoles.mapM (rolePair "skipped role" "skip reason")
      let reserved ← nonNegative reservedCost "reserved_cost"
      let budget ← nonNegative totalBudget "total_budget"
      if within : reserved.1.toRat ≤ budget.1.toRat then
        return ⟨snapshot, scheduled.map Subtype.val, skipped.map pairTexts, reserved,
          available.map Subtype.val, budget, normal_val snapshot, forall_normal, scheduledNodup,
          forall_pairs_normal, forall_normal, availableNodup, amount_nonneg reserved, within⟩
      else throw (.message "reserved_cost cannot exceed total_budget")
    else throw (.message "available_inputs must not contain duplicates")
  else throw (.message "scheduled_roles must not contain duplicates")

/-! ## Planning -/

/-- The variables of the loops of `plan_specialists`. -/
structure PlanState where
  unresolved : List String
  scheduled : List String
  skipped : List (String × String)
  reserved : Decimal
  deriving DecidableEq

namespace PlanState

/-- `unresolved.remove(role_id)`. -/
def resolved (state : PlanState) (roleId : String) : PlanState :=
  { state with unresolved := state.unresolved.erase roleId }

/-- `skipped.append((role_id, reason))`. -/
def skip (state : PlanState) (roleId reason : String) : PlanState :=
  { state with skipped := state.skipped ++ [(roleId, reason)] }

/-- `scheduled.append(role_id)` with the new reserve. -/
def schedule (state : PlanState) (roleId : String) (reserved : Decimal) : PlanState :=
  { state with scheduled := state.scheduled ++ [roleId], reserved := reserved }

end PlanState

section Planning

variable (byId : String → Option SpecialistSpec) (available : List String) (budget : Decimal)

/-- The part of a turn that follows `unresolved.remove(role_id)`. -/
def settleRole (spec : SpecialistSpec) (state : PlanState) (roleId : String) :
    Except SpecialistDagError PlanState :=
  if ∃ dependency ∈ spec.dependencies, dependency ∉ state.scheduled then
    .ok (state.skip roleId "dependency_not_scheduled")
  else if ∃ input ∈ spec.requiredInputs, input ∉ available then
    .ok (state.skip roleId "missing_inputs")
  else if spec.expectedIncrementalValue.toRat ≤ 0 then
    .ok (state.skip roleId "non_positive_incremental_value")
  else do
    let nextReserved ← addExact state.reserved spec.maxCost "reserved specialist cost"
    if budget.toRat < nextReserved.toRat then return state.skip roleId "budget_exceeded"
    else return state.schedule roleId nextReserved

/-- One turn of the inner loop, with the flag `progressed`. -/
def turn (progress : Bool × PlanState) (roleId : String) :
    Except SpecialistDagError (Bool × PlanState) :=
  match byId roleId with
  -- `by_id` has every role that is not settled
  | none => .error (.message "KeyError")
  | some spec =>
      let unknown := spec.dependencies.filter fun dependency => (byId dependency).isNone
      if unknown ≠ [] then .error (.unknownDependencies roleId (sorted unknown))
      else if ∃ dependency ∈ spec.dependencies, dependency ∈ progress.2.unresolved then
        .ok progress
      else do
        let settled ← settleRole available budget spec (progress.2.resolved roleId) roleId
        return (true, settled)

/-- The inner loop over the roles that are not settled when it starts. -/
def pass (state : PlanState) : Except SpecialistDagError (Bool × PlanState) :=
  (sorted state.unresolved).foldlM (turn byId available budget) (false, state)

end Planning

section Turns

variable {byId : String → Option SpecialistSpec} {available : List String} {budget : Decimal}

/-- What a turn does: nothing for a role with an unsettled dependency, else it settles it. -/
theorem turn_eq_ok {progress next : Bool × PlanState} {roleId : String} :
    turn byId available budget progress roleId = .ok next ↔
      ∃ spec, byId roleId = some spec ∧
        (∀ dependency ∈ spec.dependencies, byId dependency ≠ none) ∧
          ((∃ dependency ∈ spec.dependencies, dependency ∈ progress.2.unresolved) ∧
              next = progress ∨
            (∀ dependency ∈ spec.dependencies, dependency ∉ progress.2.unresolved) ∧
              ∃ settled, settleRole available budget spec (progress.2.resolved roleId) roleId =
                .ok settled ∧ next = (true, settled)) := by
  unfold turn
  split
  next missing => simp [missing]
  next spec found =>
    rw [guard_eq_ok]
    simp only [found, Option.some.injEq, exists_eq_left', not_not, List.filter_eq_nil_iff,
      Option.isNone_iff_eq_none]
    apply and_congr_right
    intro _
    split
    next blocked =>
      simp only [Except.ok.injEq, blocked, true_and]
      constructor
      · intro same
        exact .inl same.symm
      · rintro (same | ⟨free, -⟩)
        · exact same.symm
        · obtain ⟨dependency, listed, unresolved⟩ := blocked
          exact absurd unresolved (free dependency listed)
    next free =>
      simp only [not_exists, not_and] at free
      simp only [bind_eq_ok, pure_eq_ok]
      constructor
      · rintro ⟨settled, settledEq, same⟩
        exact .inr ⟨free, settled, settledEq, same.symm⟩
      · rintro (⟨⟨dependency, listed, unresolved⟩, -⟩ | ⟨-, settled, settledEq, same⟩)
        · exact absurd unresolved (free dependency listed)
        · exact ⟨settled, settledEq, same.symm⟩

/-- Settling a role leaves the others unsettled. -/
theorem settleRole_unresolved {spec : SpecialistSpec} {state settled : PlanState}
    {roleId : String} (success : settleRole available budget spec state roleId = .ok settled) :
    settled.unresolved = state.unresolved := by
  unfold settleRole at success
  split at success
  · cases success
    rfl
  split at success
  · cases success
    rfl
  split at success
  · cases success
    rfl
  rw [bind_eq_ok] at success
  obtain ⟨nextReserved, -, success⟩ := success
  split at success
  · cases success
    rfl
  · cases success
    rfl

theorem turn_sublist {progress next : Bool × PlanState} {roleId : String}
    (success : turn byId available budget progress roleId = .ok next) :
    next.2.unresolved.Sublist progress.2.unresolved := by
  obtain ⟨spec, -, -, ⟨-, rfl⟩ | ⟨-, settled, settledEq, rfl⟩⟩ := turn_eq_ok.mp success
  · exact List.Sublist.refl _
  · rw [settleRole_unresolved settledEq]
    exact List.erase_sublist

theorem turns_sublist {roles : List String} {progress next : Bool × PlanState}
    (success : roles.foldlM (turn byId available budget) progress = .ok next) :
    next.2.unresolved.Sublist progress.2.unresolved := by
  induction roles generalizing progress with
  | nil =>
      cases success
      exact List.Sublist.refl _
  | cons roleId rest ih =>
      rw [List.foldlM_cons, bind_eq_ok] at success
      obtain ⟨between, first, later⟩ := success
      exact (ih later).trans (turn_sublist first)

/-- Turns that make progress settle a role that was not settled. -/
theorem turns_shrink {roles : List String} {state next : PlanState}
    (listed : ∀ role ∈ roles, role ∈ state.unresolved)
    (success : roles.foldlM (turn byId available budget) (false, state) = .ok (true, next)) :
    next.unresolved.length < state.unresolved.length := by
  induction roles with
  | nil => cases success
  | cons roleId rest ih =>
      rw [List.forall_mem_cons] at listed
      rw [List.foldlM_cons, bind_eq_ok] at success
      obtain ⟨between, first, later⟩ := success
      obtain ⟨spec, -, -, ⟨-, rfl⟩ | ⟨-, settled, settledEq, rfl⟩⟩ := turn_eq_ok.mp first
      · exact ih listed.2 later
      · apply lt_of_le_of_lt (turns_sublist later).length_le
        rw [settleRole_unresolved settledEq, PlanState.resolved, List.length_erase_of_mem listed.1]
        exact Nat.sub_lt (List.length_pos_of_mem listed.1) Nat.one_pos

theorem mem_sorted {values : List String} {value : String} :
    value ∈ sorted values ↔ value ∈ values :=
  List.mem_insertionSort _

theorem pass_shrinks {state next : PlanState}
    (success : pass byId available budget state = .ok (true, next)) :
    next.unresolved.length < state.unresolved.length :=
  turns_shrink (fun _ => mem_sorted.mp) success

end Turns

/-! ## The outer loop -/

/-- The outer loop. -/
def passes (byId : String → Option SpecialistSpec) (available : List String) (budget : Decimal)
    (state : PlanState) : Except SpecialistDagError PlanState :=
  if state.unresolved = [] then .ok state
  else match _progress : pass byId available budget state with
    | .error error => .error error
    | .ok (false, _) => .error (.message "specialist dependency graph contains a cycle")
    | .ok (true, next) => passes byId available budget next
termination_by state.unresolved.length
decreasing_by exact pass_shrinks _progress

/-- `{item.role_id: item for item in items}`. -/
def byRole (items : List SpecialistSpec) : Dict String SpecialistSpec :=
  (∅ : Dict String SpecialistSpec).setAll (items.map fun item => (item.roleId, item))

/-- `plan_specialists`. -/
def planSpecialists (specs : List SpecialistSpec) (inputSnapshotId : String)
    (availableInputs : List String) (totalBudget : DecimalInput) :
    Except SpecialistDagError DagPlan := do
  let snapshotId ← text inputSnapshotId "input_snapshot_id"
  let budget ← nonNegative totalBudget "total_budget"
  let items ← specs.mapM readmitSpec
  if (byRole items).entries.length ≠ items.length then
    throw (.message "specialist role ids must be unique")
  let inputs ← texts availableInputs "available input"
  let available := setOf (inputs.map Subtype.val)
  let start : PlanState := ⟨setOf (byRole items).keys, [], [], 0⟩
  let final ← passes (byRole items).get? available budget start
  DagPlan.create snapshotId final.scheduled final.skipped (.bounded final.reserved)
    (sorted available) (.bounded budget)

end AutoTrade.Specialists
