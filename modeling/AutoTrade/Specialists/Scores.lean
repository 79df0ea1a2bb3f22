import Mathlib.Algebra.BigOperators.Field
import Mathlib.Algebra.BigOperators.Group.Finset.Piecewise
import Mathlib.Algebra.Order.BigOperators.Group.List
import AutoTrade.Specialists.Aggregation

/-!
# Scores of proposals

The score of a proposal is the mean, over the correlation groups with a positive confidence, of
their confidence-weighted mean scores.  Each group moves it by no more than its share.
-/

namespace AutoTrade.Specialists

open Lib Numeric

/-! ## Groups -/

/-- The sum of the confidences. -/
def weightOf (runs : List SpecialistRun) : ℚ := (runs.map fun run => run.confidence.toRat).sum

/-- The sum of the scores, each weighted by its confidence. -/
def weightedScoreOf (runs : List SpecialistRun) : ℚ :=
  (runs.map fun run => run.score.toRat * run.confidence.toRat).sum

/-- The confidence-weighted mean score. -/
def groupScore (runs : List SpecialistRun) : ℚ := weightedScoreOf runs / weightOf runs

/-- The runs of a correlation group. -/
def groupRuns (accepted : List Accepted) (group : String) : List SpecialistRun :=
  (accepted.filter fun pair => pair.1.correlationGroup = group).map Prod.snd

/-- The groups with a positive confidence. -/
def positiveGroups (accepted : List Accepted) : Finset String :=
  (accepted.map fun pair => pair.1.correlationGroup).toFinset.filter fun group =>
    0 < weightOf (groupRuns accepted group)

/-- The mean of the scores of the groups with a positive confidence. -/
def unroundedScore (accepted : List Accepted) : ℚ :=
  (∑ group ∈ positiveGroups accepted, groupScore (groupRuns accepted group)) /
    (positiveGroups accepted).card

theorem weightOf_nonneg (runs : List SpecialistRun) : 0 ≤ weightOf runs := by
  apply List.sum_nonneg
  intro weight member
  obtain ⟨run, -, rfl⟩ := List.mem_map.mp member
  exact run.confidence_bounded.1

theorem weightOf_perm {left right : List SpecialistRun} (perm : left.Perm right) :
    weightOf left = weightOf right :=
  (perm.map _).sum_eq

theorem groupScore_perm {left right : List SpecialistRun} (perm : left.Perm right) :
    groupScore left = groupScore right := by
  rw [groupScore, groupScore, weightOf_perm perm, weightedScoreOf, weightedScoreOf,
    (perm.map _).sum_eq]

theorem abs_weightedScoreOf_le (runs : List SpecialistRun) :
    |weightedScoreOf runs| ≤ weightOf runs := by
  induction runs with
  | nil => simp [weightedScoreOf, weightOf]
  | cons run rest ih =>
      rw [weightedScoreOf, weightOf, List.map_cons, List.map_cons, List.sum_cons, List.sum_cons,
        ← weightedScoreOf, ← weightOf]
      have nonneg := run.confidence_bounded.1
      have product : |run.score.toRat * run.confidence.toRat| ≤ run.confidence.toRat := by
        rw [abs_mul, abs_of_nonneg nonneg]
        exact mul_le_of_le_one_left nonneg run.score_bounded
      exact (abs_add_le _ _).trans (add_le_add product ih)

/-- A weighted mean of scores is a score. -/
theorem abs_groupScore_le (runs : List SpecialistRun) : |groupScore runs| ≤ 1 := by
  rw [groupScore, abs_div, abs_of_nonneg (weightOf_nonneg runs)]
  exact div_le_one_of_le₀ (abs_weightedScoreOf_le runs) (weightOf_nonneg runs)

/-- A group has a positive confidence exactly when its runs have one. -/
theorem mem_positiveGroups {accepted : List Accepted} {group : String} :
    group ∈ positiveGroups accepted ↔ 0 < weightOf (groupRuns accepted group) := by
  rw [positiveGroups, Finset.mem_filter, List.mem_toFinset, List.mem_map]
  constructor
  · intro both
    exact both.2
  · intro positive
    refine ⟨?_, positive⟩
    have nonempty : groupRuns accepted group ≠ [] := by
      intro none
      rw [none, weightOf, List.map_nil, List.sum_nil] at positive
      exact lt_irrefl _ positive
    rw [groupRuns, Ne, List.map_eq_nil_iff] at nonempty
    obtain ⟨pair, member⟩ := List.exists_mem_of_ne_nil _ nonempty
    rw [List.mem_filter, decide_eq_true_eq] at member
    exact ⟨pair, member.1, member.2⟩

/-- The mean of the groups is a score. -/
theorem abs_unroundedScore_le (accepted : List Accepted) : |unroundedScore accepted| ≤ 1 := by
  have total : |∑ group ∈ positiveGroups accepted, groupScore (groupRuns accepted group)| ≤
      (positiveGroups accepted).card := by
    calc |∑ group ∈ positiveGroups accepted, groupScore (groupRuns accepted group)|
        ≤ ∑ group ∈ positiveGroups accepted, |groupScore (groupRuns accepted group)| :=
          Finset.abs_sum_le_sum_abs _ _
      _ ≤ ∑ group ∈ positiveGroups accepted, (1 : ℚ) :=
          Finset.sum_le_sum fun group _ => abs_groupScore_le _
      _ = (positiveGroups accepted).card := by
          rw [Finset.sum_const, nsmul_eq_mul, mul_one]
  rw [unroundedScore, abs_div, Nat.abs_cast]
  exact div_le_one_of_le₀ total (Nat.cast_nonneg _)

/-- Runs of one group with a positive confidence move the mean by no more than the share of the
group. -/
theorem abs_unroundedScore_sub_le {accepted others : List Accepted} {group : String}
    (same : ∀ other, other ≠ group → (groupRuns accepted other).Perm (groupRuns others other))
    (positive : 0 < weightOf (groupRuns accepted group))
    (otherPositive : 0 < weightOf (groupRuns others group)) :
    |unroundedScore accepted - unroundedScore others| ≤ 2 / (positiveGroups accepted).card := by
  have groups : positiveGroups others = positiveGroups accepted := by
    ext other
    rw [mem_positiveGroups, mem_positiveGroups]
    by_cases equal : other = group
    · subst equal
      simp [positive, otherPositive]
    · rw [weightOf_perm (same other equal)]
  have member : group ∈ positiveGroups accepted := mem_positiveGroups.mpr positive
  have apart : ∑ other ∈ positiveGroups accepted, groupScore (groupRuns accepted other) -
      ∑ other ∈ positiveGroups accepted, groupScore (groupRuns others other) =
        groupScore (groupRuns accepted group) - groupScore (groupRuns others group) := by
    rw [← Finset.sum_sub_distrib]
    apply Finset.sum_eq_single_of_mem group member
    intro other _ different
    rw [groupScore_perm (same other different), sub_self]
  rw [unroundedScore, unroundedScore, groups, ← sub_div, apart, abs_div, Nat.abs_cast]
  apply div_le_div_of_nonneg_right _ (Nat.cast_nonneg _)
  calc |groupScore (groupRuns accepted group) - groupScore (groupRuns others group)|
      ≤ |groupScore (groupRuns accepted group)| + |groupScore (groupRuns others group)| :=
        abs_sub _ _
    _ ≤ 1 + 1 := add_le_add (abs_groupScore_le _) (abs_groupScore_le _)
    _ = 2 := by norm_num

/-! ## The loops -/

theorem bounded_eq {value result : ℚ} {name : String} (success : bounded value name = .ok result) :
    result = value :=
  boundedFraction_eq (mapError_eq_ok.mp success)

theorem foldlM_weighRun {runs : List SpecialistRun} {start sums : ℚ × ℚ}
    (success : runs.foldlM weighRun start = .ok sums) :
    sums.1 = start.1 + weightOf runs ∧ sums.2 = start.2 + weightedScoreOf runs := by
  induction runs generalizing start with
  | nil =>
      cases success
      simp [weightOf, weightedScoreOf]
  | cons run rest ih =>
      rw [List.foldlM_cons, bind_eq_ok] at success
      obtain ⟨between, first, later⟩ := success
      simp only [weighRun, bind_eq_ok, pure_eq_ok] at first
      obtain ⟨weight, weightEq, product, productEq, score, scoreEq, rfl⟩ := first
      obtain ⟨weights, scores⟩ := ih later
      rw [weights, scores, bounded_eq weightEq, bounded_eq scoreEq, bounded_eq productEq]
      simp only [weightOf, weightedScoreOf, List.map_cons, List.sum_cons]
      constructor
      · ring
      · ring

/-- A group adds its score if it has a confidence. -/
theorem scoreGroup_eq {scores next : List ℚ} {group : List Accepted}
    (success : scoreGroup scores group = .ok next) :
    next = scores ++ (if weightOf (group.map Prod.snd) = 0 then []
      else [groupScore (group.map Prod.snd)]) := by
  simp only [scoreGroup, bind_eq_ok] at success
  obtain ⟨sums, folded, success⟩ := success
  obtain ⟨weights, weighted⟩ := foldlM_weighRun folded
  rw [zero_add] at weights weighted
  rw [weights, weighted] at success
  split at success
  next none =>
    cases success
    rw [if_pos none, List.append_nil]
  next some =>
    rw [bind_eq_ok] at success
    obtain ⟨score, scoreEq, success⟩ := success
    cases success
    rw [if_neg some, bounded_eq scoreEq]
    rfl

theorem foldlM_scoreGroup {groups : List (List Accepted)} {start scores : List ℚ}
    (success : groups.foldlM scoreGroup start = .ok scores) :
    scores = start ++ ((groups.map fun group => group.map Prod.snd).filter
      (0 < weightOf ·)).map groupScore := by
  induction groups generalizing start with
  | nil =>
      cases success
      simp
  | cons group rest ih =>
      rw [List.foldlM_cons, bind_eq_ok] at success
      obtain ⟨between, first, later⟩ := success
      rw [ih later, scoreGroup_eq first, List.map_cons, List.filter_cons, List.append_assoc]
      have sign := (weightOf_nonneg (group.map Prod.snd)).lt_iff_ne
      split
      next zero => simp [zero]
      next nonzero => simp [sign.mpr (Ne.symm nonzero)]

/-- The scores of the code are those of the groups with a positive confidence. -/
theorem sum_scores {accepted : List Accepted} {scores : List ℚ}
    (success : (Dict.grouped (fun pair : Accepted => some pair.1.correlationGroup)
      accepted).values.foldlM scoreGroup [] = .ok scores) :
    scores.sum / scores.length = unroundedScore accepted := by
  have groups := foldlM_scoreGroup success
  rw [Dict.values_grouped, List.map_map, List.nil_append] at groups
  let names := (Dict.grouped (fun pair : Accepted => some pair.1.correlationGroup) accepted).keys
  let positive := names.filter fun group => 0 < weightOf (groupRuns accepted group)
  have listed : scores = positive.map fun group => groupScore (groupRuns accepted group) := by
    rw [groups, List.filter_map, List.map_map]
    simp only [positive, Function.comp_def, Option.some.injEq]
    rfl
  have nodup : positive.Nodup := (Dict.nodup_keys _).filter _
  have members : positive.toFinset = positiveGroups accepted := by
    ext group
    rw [List.mem_toFinset, List.mem_filter, decide_eq_true_eq, Dict.mem_keys_grouped,
      positiveGroups, Finset.mem_filter, List.mem_toFinset, List.mem_map]
    simp only [Option.some.injEq]
  rw [unroundedScore, ← members, List.sum_toFinset _ nodup, List.toFinset_card_of_nodup nodup,
    listed, List.length_map]

/-- The score is the half-even rounding of the value to the scale of decimals. -/
def RoundsHalfEven (value : ℚ) (score : Decimal) : Prop :=
  ∃ units : ℤ, score.toRat = units / 10 ^ maxScale ∧
    Rounding.Rounds .halfEven (value * 10 ^ maxScale) units

theorem averageScore_rounds {scores : List ℚ} {aggregate : Decimal}
    (success : averageScore scores = .ok aggregate) :
    RoundsHalfEven (scores.sum / scores.length) aggregate := by
  rw [averageScore] at success
  split at success
  next none =>
    cases success
    refine ⟨0, ?_, ?_⟩
    · simp [Decimal.toRat_zero]
    · rw [none]
      simp [Rounding.Rounds]
  next some =>
    simp only [bind_eq_ok] at success
    obtain ⟨total, folded, average, averageEq, rounded⟩ := success
    have sums : ∀ (rest : List ℚ) (start finish : ℚ),
        rest.foldlM (fun sum score => bounded (sum + score) "aggregate specialist score") start =
          .ok finish → finish = start + rest.sum := by
      intro rest
      induction rest with
      | nil =>
          intro start finish same
          cases same
          simp
      | cons score rest ih =>
          intro start finish folded
          rw [List.foldlM_cons, bind_eq_ok] at folded
          obtain ⟨between, first, later⟩ := folded
          rw [ih between finish later, bounded_eq first, List.sum_cons, add_assoc]
    rw [bounded_eq averageEq, sums scores 0 total folded, zero_add, scoreDecimal, mapError_eq_ok,
      bind_eq_ok] at rounded
    obtain ⟨checked, checkedEq, roundedEq⟩ := rounded
    rw [boundedFraction_eq checkedEq] at roundedEq
    obtain ⟨step, shown, stepEq, spec, resultEq⟩ := roundToQuantum_rounded roundedEq
    obtain ⟨-, direction, units, mode, rounds, multiple⟩ := spec
    cases mode
    have quantum : scoreQuantum.toRat = 1 / 10 ^ maxScale := rfl
    rw [stepEq, quantum] at rounds multiple
    refine ⟨units, ?_, ?_⟩
    · rw [← resultEq, multiple, one_div_mul_eq_div]
    · rw [div_div_eq_mul_div, div_one] at rounds
      exact rounds

end AutoTrade.Specialists
