import AutoTrade.Lib.Dependencies
import AutoTrade.Lib.Grouping
import AutoTrade.Lib.Time
import AutoTrade.Numeric.Quantum
import AutoTrade.Specialists.Dag

/-!
# Aggregation of specialist runs

`aggregate_specialists`: the runs that the plan admits are filtered, the acceptances cascade
along the dependencies, and the accepted scores are averaged with one weight for each
correlation group.
-/

namespace AutoTrade.Specialists

open Lib Numeric

/-! ## Records -/

/-- The directions of a run and of a proposal. -/
inductive Stance where
  | long
  | short
  | flat
  deriving DecidableEq, Repr

/-- The direction that matches the sign of a score. -/
def expectedDirection (score : Decimal) : Stance :=
  if 0 < score.toRat then .long else if score.toRat < 0 then .short else .flat

/-- `SpecialistRun`. -/
structure SpecialistRun where
  roleId : String
  inputSnapshotId : String
  direction : Stance
  score : Decimal
  confidence : Decimal
  evidenceRefs : List String
  cost : Decimal
  completedAt : Instant
  critique : List String
  role_normal : Normal roleId
  snapshot_normal : Normal inputSnapshotId
  confidence_bounded : 0 ≤ confidence.toRat ∧ confidence.toRat ≤ 1
  score_bounded : |score.toRat| ≤ 1
  direction_eq : direction = expectedDirection score
  refs_normal : ∀ ref ∈ evidenceRefs, Normal ref
  refs_ne_nil : evidenceRefs ≠ []
  refs_nodup : evidenceRefs.Nodup
  cost_nonneg : 0 ≤ cost.toRat
  critique_normal : ∀ entry ∈ critique, Normal entry

/-- `exact_abs` of a score. -/
def magnitude (score : Decimal) (name : String) : Except SpecialistDagError Decimal :=
  (exactAbs score).mapError fun _ => exceeds name

/-- `SpecialistRun(...)`. -/
def SpecialistRun.create (roleId inputSnapshotId : String) (direction : Stance)
    (score confidence : DecimalInput) (evidenceRefs : List String) (cost : DecimalInput)
    (completedAt : Instant) (critique : List String) :
    Except SpecialistDagError SpecialistRun := do
  let role ← text roleId "role_id"
  let snapshot ← text inputSnapshotId "input_snapshot_id"
  let value ← decimal score "score"
  let weight ← nonNegative confidence "confidence"
  if weightBounded : weight.1.toRat ≤ 1 then
    let _ ← magnitude value "score"
    if valueBounded : |value.toRat| ≤ 1 then
      if matching : direction = expectedDirection value then
        let refs ← texts evidenceRefs "evidence reference"
        if given : refs.map Subtype.val ≠ [] then
          if refsNodup : (refs.map Subtype.val).Nodup then
            let entries ← texts critique "critique"
            let price ← nonNegative cost "cost"
            return ⟨role, snapshot, direction, value, weight, refs.map Subtype.val, price,
              completedAt, entries.map Subtype.val, normal_val role, normal_val snapshot,
              ⟨weight.2, weightBounded⟩, valueBounded, matching, forall_normal, given, refsNodup,
              amount_nonneg price, forall_normal⟩
          else throw (.message "duplicate evidence references are not allowed")
        else throw (.message "specialist output requires evidence")
      else throw (.message "direction must match score sign")
    else throw (.message "score magnitude cannot exceed one")
  else throw (.message "confidence cannot exceed one")

/-- `_readmit_run`. -/
def readmitRun (value : SpecialistRun) : Except SpecialistDagError SpecialistRun :=
  SpecialistRun.create value.roleId value.inputSnapshotId value.direction (.bounded value.score)
    (.bounded value.confidence) value.evidenceRefs (.bounded value.cost) value.completedAt
    value.critique

/-- `_readmit_plan`. -/
def readmitPlan (value : DagPlan) : Except SpecialistDagError DagPlan :=
  DagPlan.create value.inputSnapshotId value.scheduledRoles value.skippedRoles
    (.bounded value.reservedCost) value.availableInputs (.bounded value.totalBudget)

/-- `AggregatedProposal`, which never grants live authority. -/
structure AggregatedProposal where
  direction : Stance
  score : Decimal
  acceptedRoles : List String
  rejectedRoles : List (String × String)
  evidenceRefs : List String
  totalCost : Decimal
  score_bounded : |score.toRat| ≤ 1
  direction_eq : direction = expectedDirection score
  accepted_normal : ∀ role ∈ acceptedRoles, Normal role
  accepted_nodup : acceptedRoles.Nodup
  rejected_normal : ∀ item ∈ rejectedRoles, Normal item.1 ∧ Normal item.2
  refs_normal : ∀ ref ∈ evidenceRefs, Normal ref
  refs_nodup : evidenceRefs.Nodup
  cost_nonneg : 0 ≤ totalCost.toRat

/-- `AggregatedProposal(...)`. -/
def AggregatedProposal.create (direction : Stance) (score : DecimalInput)
    (acceptedRoles : List String) (rejectedRoles : List (String × String))
    (evidenceRefs : List String) (totalCost : DecimalInput) :
    Except SpecialistDagError AggregatedProposal := do
  let value ← decimal score "aggregate score"
  let _ ← magnitude value "aggregate score"
  if valueBounded : |value.toRat| ≤ 1 then
    if matching : direction = expectedDirection value then
      let accepted ← texts acceptedRoles "accepted role"
      if acceptedNodup : (accepted.map Subtype.val).Nodup then
        let rejected ← rejectedRoles.mapM (rolePair "rejected role" "rejection reason")
        let refs ← texts evidenceRefs "evidence reference"
        if refsNodup : (refs.map Subtype.val).Nodup then
          let cost ← nonNegative totalCost "aggregate total_cost"
          return ⟨direction, value, accepted.map Subtype.val, rejected.map pairTexts,
            refs.map Subtype.val, cost, valueBounded, matching, forall_normal, acceptedNodup,
            forall_pairs_normal, forall_normal, refsNodup, amount_nonneg cost⟩
        else throw (.message "aggregate evidence references must not contain duplicates")
      else throw (.message "accepted_roles must not contain duplicates")
    else throw (.message "aggregate direction must match score sign")
  else throw (.message "aggregate score magnitude cannot exceed one")

/-! ## Filters -/

/-- What the runs are compared with. -/
structure ReviewContext where
  scheduled : List String
  snapshotId : String
  deadline : Instant
  blockers : List String

/-- Some critique of the run contains a blocking term. -/
def blockedBy [CaseMap] (blockers : List String) (run : SpecialistRun) : Prop :=
  blockers ≠ [] ∧ ∃ entry ∈ run.critique, ∃ term ∈ blockers, term.toList <:+: (lower entry).toList

instance [CaseMap] (blockers : List String) (run : SpecialistRun) :
    Decidable (blockedBy blockers run) := by
  unfold blockedBy
  infer_instance

/-- The reason for which a run is rejected. -/
def rejection [CaseMap] (context : ReviewContext) (spec : Option SpecialistSpec)
    (run : SpecialistRun) : Option String :=
  match spec with
  | none => some "unknown_role"
  | some spec =>
      if run.roleId ∉ context.scheduled then some "not_scheduled"
      else if run.inputSnapshotId ≠ context.snapshotId then some "input_snapshot_mismatch"
      else if context.deadline < run.completedAt then some "late"
      else if spec.maxCost.toRat < run.cost.toRat then some "cost_exceeded"
      else if blockedBy context.blockers run then some "blocking_critique"
      else none

/-- A role and its run. -/
abbrev Accepted : Type := SpecialistSpec × SpecialistRun

/-- The variables of the loop over the runs. -/
structure ReviewState where
  seen : List String
  accepted : List Accepted
  rejected : List (String × String)

section Review

variable [CaseMap] (context : ReviewContext) (byId : String → Option SpecialistSpec)

/-- One turn of the loop over the runs. -/
def reviewRun (state : ReviewState) (rawRun : SpecialistRun) :
    Except SpecialistDagError ReviewState := do
  let run ← readmitRun rawRun
  if run.roleId ∈ state.seen then throw (.message "duplicate specialist result")
  let seen := state.seen ++ [run.roleId]
  match byId run.roleId, rejection context (byId run.roleId) run with
  | some spec, none => return ⟨seen, state.accepted ++ [(spec, run)], state.rejected⟩
  | _, reason => return ⟨seen, state.accepted, state.rejected ++ [(run.roleId, reason.getD "")]⟩

/-- `{run.role_id: (spec, run) for spec, run in accepted}`. -/
def acceptedByRole (accepted : List Accepted) : Dict String Accepted :=
  (∅ : Dict String Accepted).setAll (accepted.map fun pair => (pair.2.roleId, pair))

/-- One turn of the loop over the dependencies of the scheduled roles. -/
def cascadeRole (state : Dict String Accepted × List (String × String)) (roleId : String) :
    Dict String Accepted × List (String × String) :=
  match state.1.get? roleId with
  | none => state
  | some pair =>
      if ∃ dependency ∈ pair.1.dependencies, dependency ∉ state.1.keys then
        (state.1.filterKeys (· ≠ roleId), state.2 ++ [(roleId, "dependency_result_unavailable")])
      else state

/-- The roles that are accepted in the order of the schedule, and the rejected ones. -/
def review (runs : List SpecialistRun) :
    Except SpecialistDagError (List Accepted × List (String × String)) := do
  let state ← runs.foldlM (reviewRun context byId) ⟨[], [], []⟩
  let missing := context.scheduled.filter (· ∉ state.seen)
  let rejected := state.rejected ++ missing.map fun role => (role, "missing_result")
  let final := context.scheduled.foldl cascadeRole (acceptedByRole state.accepted, rejected)
  return (context.scheduled.filterMap final.1.get?, final.2)

end Review

/-! ## Scores -/

/-- `_bounded_fraction`. -/
def bounded (value : ℚ) (name : String) : Except SpecialistDagError ℚ :=
  (boundedFraction value).mapError fun _ => exceeds name

/-- One turn of the loop over the runs of a group, with the sum of the confidences and the sum of
the weighted scores. -/
def weighRun (sums : ℚ × ℚ) (run : SpecialistRun) : Except SpecialistDagError (ℚ × ℚ) := do
  let weight ← bounded (sums.1 + run.confidence.toRat) "specialist group confidence"
  let product ← bounded (run.score.toRat * run.confidence.toRat) "specialist weighted score"
  let score ← bounded (sums.2 + product) "specialist group weighted score"
  return (weight, score)

/-- One turn of the loop over the groups. -/
def scoreGroup (scores : List ℚ) (group : List Accepted) : Except SpecialistDagError (List ℚ) := do
  let sums ← (group.map Prod.snd).foldlM weighRun (0, 0)
  if sums.1 = 0 then return scores
  else
    let score ← bounded (sums.2 / sums.1) "specialist group score"
    return scores ++ [score]

/-- `_SCORE_QUANTUM`. -/
def scoreQuantum : Decimal := ⟨1 / 10 ^ maxScale, maxScale, le_rfl, 1, by norm_num, by decide⟩

/-- `_score_decimal`. -/
def scoreDecimal (value : ℚ) : Except SpecialistDagError Decimal :=
  (do
    let checked ← boundedFraction value
    roundToQuantum checked scoreQuantum .halfEven).mapError fun _ => exceeds "aggregate score"

/-- The average of the scores of the groups. -/
def averageScore (scores : List ℚ) : Except SpecialistDagError Decimal := do
  if scores = [] then return 0
  else
    let total ← scores.foldlM (fun sum score => bounded (sum + score) "aggregate specialist score") 0
    let average ← bounded (total / scores.length) "aggregate specialist score"
    scoreDecimal average

/-- The proposal of the accepted roles. -/
def propose (accepted : List Accepted) (rejected : List (String × String)) :
    Except SpecialistDagError AggregatedProposal :=
  if accepted = [] then AggregatedProposal.create .flat (.bounded 0) [] rejected [] (.bounded 0)
  else do
    let groups := Dict.grouped (fun pair : Accepted => some pair.1.correlationGroup) accepted
    let scores ← groups.values.foldlM scoreGroup []
    let aggregate ← averageScore scores
    let refs := setOf (accepted.flatMap fun pair => pair.2.evidenceRefs)
    let totalCost ← accepted.foldlM
      (fun total pair => addExact total pair.2.cost "specialist total cost") 0
    AggregatedProposal.create (expectedDirection aggregate) (.bounded aggregate)
      (sorted (accepted.map fun pair => pair.2.roleId)) rejected refs (.bounded totalCost)

/-- `aggregate_specialists`. -/
def aggregateSpecialists [CaseMap] (specs : List SpecialistSpec) (runs : List SpecialistRun)
    (plan : DagPlan) (inputSnapshotId : String) (availableInputs : List String)
    (totalBudget : DecimalInput) (decisionDeadline : Instant)
    (blockingCritiqueTerms : List String) : Except SpecialistDagError AggregatedProposal := do
  let specItems ← specs.mapM readmitSpec
  let byId := byRole specItems
  if byId.entries = [] then
    throw (.message "at least one specialist specification is required")
  if byId.entries.length ≠ specItems.length then
    throw (.message "specialist role ids must be unique")
  let plan ← readmitPlan plan
  let snapshotId ← text inputSnapshotId "input_snapshot_id"
  let canonicalPlan ← planSpecialists specItems snapshotId availableInputs totalBudget
  if plan ≠ canonicalPlan then
    throw (.message "DagPlan does not match canonical planner output for this context")
  let terms ← texts blockingCritiqueTerms "blocking critique term"
  let blockers := setOf (terms.map fun term => lower term.1)
  let reviewed ← review ⟨plan.scheduledRoles, snapshotId, decisionDeadline, blockers⟩ byId.get? runs
  propose reviewed.1 reviewed.2

end AutoTrade.Specialists
