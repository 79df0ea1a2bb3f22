import AutoTrade.Lib.Sorted
import Mathlib.Algebra.BigOperators.Ring.List
import Mathlib.Algebra.Order.BigOperators.Group.List
import Mathlib.Algebra.Order.Field.Basic
import Mathlib.Algebra.Order.Ring.Rat
import Mathlib.Data.List.MinMax
import Mathlib.Data.List.Sort
import Mathlib.Tactic.FieldSimp
import Mathlib.Tactic.Linarith
import Mathlib.Tactic.Ring

/-!
# The largest values of a list

The average of the largest values of a list lies between the average and the maximum of
the list, and it does not grow with the number of the values that it takes.
-/

namespace AutoTrade.Lib

variable {K : Type}

section Average

variable [Field K]

/-- The average of a list. -/
def average (values : List K) : K := values.sum / values.length

theorem average_eq_of_perm {left right : List K} (perm : left.Perm right) :
    average left = average right := by
  rw [average, average, perm.sum_eq, perm.length_eq]

end Average

variable [LinearOrder K]

/-- The largest values of a list, in descending order. -/
def largest (count : Nat) (values : List K) : List K :=
  (values.insertionSort (· ≥ ·)).take count

theorem largest_eq_of_perm {left right : List K} (perm : left.Perm right) (count : Nat) :
    largest count left = largest count right := by
  have same : left.insertionSort (· ≥ ·) = right.insertionSort (· ≥ ·) :=
    (((List.perm_insertionSort _ left).trans perm).trans
      (List.perm_insertionSort _ right).symm).eq_of_pairwise' (List.pairwise_insertionSort _ _)
      (List.pairwise_insertionSort _ _)
  rw [largest, largest, same]

theorem length_largest {count : Nat} {values : List K} (bounded : count ≤ values.length) :
    (largest count values).length = count := by
  rw [largest, List.length_take, List.length_insertionSort, Nat.min_eq_left bounded]

/-- The other values of the list, none of them above one of the largest. -/
theorem exists_others (count : Nat) (values : List K) :
    ∃ others, values.Perm (largest count values ++ others) ∧
      ∀ value ∈ largest count values, ∀ other ∈ others, other ≤ value := by
  refine ⟨(values.insertionSort (· ≥ ·)).drop count, ?_, ?_⟩
  · rw [largest, List.take_append_drop]
    exact (List.perm_insertionSort _ values).symm
  · intro value early other late
    have sorted := List.pairwise_insertionSort (· ≥ ·) values
    exact rel_of_mem_take_of_mem_drop sorted early late

theorem largest_append_others {few many : Nat} (fewer : few ≤ many) (values : List K) :
    ∃ others, largest many values = largest few values ++ others ∧
      ∀ value ∈ largest few values, ∀ other ∈ others, other ≤ value := by
  refine ⟨((values.insertionSort (· ≥ ·)).take many).drop few, ?_, ?_⟩
  · have front := List.take_append_drop few ((values.insertionSort (· ≥ ·)).take many)
    rw [List.take_take, Nat.min_eq_left fewer] at front
    exact front.symm
  · intro value early other late
    have sorted := (List.pairwise_insertionSort (· ≥ ·) values).take (i := many)
    rw [largest, ← Nat.min_eq_left fewer, ← List.take_take] at early
    exact rel_of_mem_take_of_mem_drop sorted early late

theorem mem_of_mem_largest {count : Nat} {values : List K} {value : K}
    (member : value ∈ largest count values) : value ∈ values :=
  (List.mem_insertionSort _).mp (List.mem_of_mem_take member)

/-! ## Averages -/

variable [Field K] [IsStrictOrderedRing K]

/-- Values that are not above those of a list do not raise its average. -/
theorem average_append_le {high low : List K} (present : high ≠ [])
    (below : ∀ value ∈ high, ∀ other ∈ low, other ≤ value) :
    average (high ++ low) ≤ average high := by
  have each : ∀ value ∈ high, low.sum ≤ low.length * value := by
    intro value member
    rw [← nsmul_eq_mul]
    exact List.sum_le_card_nsmul low value (below value member)
  -- Summed over the high values: every low value is compared with every high one.
  have total : high.length * low.sum ≤ low.length * high.sum := by
    have bound := List.card_nsmul_le_sum (high.map fun value => (low.length : K) * value) low.sum (by
      intro image member
      obtain ⟨value, valueMember, rfl⟩ := List.mem_map.mp member
      exact each value valueMember)
    rwa [List.length_map, nsmul_eq_mul, List.sum_map_mul_left, List.map_id'] at bound
  have positive : (0 : K) < high.length := by
    exact_mod_cast List.length_pos_iff.mpr present
  have nonneg : (0 : K) ≤ low.length := Nat.cast_nonneg _
  rw [average, average, List.sum_append, List.length_append, Nat.cast_add,
    div_le_div_iff₀ (by linarith) positive]
  linarith

/-- The average of more of the largest values is not larger. -/
theorem average_largest_antitone {few many : Nat} {values : List K} (positive : 0 < few)
    (fewer : few ≤ many) (present : values ≠ []) :
    average (largest many values) ≤ average (largest few values) := by
  obtain ⟨others, split, below⟩ := largest_append_others fewer values
  have nonempty : largest few values ≠ [] := by
    rw [largest, Ne, List.take_eq_nil_iff, not_or]
    constructor
    · omega
    · intro empty
      apply present
      have length := congrArg List.length empty
      rw [List.length_insertionSort] at length
      exact List.length_eq_zero_iff.mp length
  rw [split]
  exact average_append_le nonempty below

/-- The average of the list is not above the average of its largest values. -/
theorem average_le_largest {count : Nat} {values : List K} (positive : 0 < count)
    (bounded : count ≤ values.length) : average values ≤ average (largest count values) := by
  obtain ⟨others, perm, below⟩ := exists_others count values
  have nonempty : largest count values ≠ [] := by
    intro empty
    have length := length_largest bounded
    rw [empty, List.length_nil] at length
    omega
  rw [average_eq_of_perm perm]
  exact average_append_le nonempty below

/-- An average is not above a bound of the values. -/
theorem average_le {values : List K} {bound : K} (present : values ≠ [])
    (below : ∀ value ∈ values, value ≤ bound) : average values ≤ bound := by
  have positive : (0 : K) < values.length := by
    exact_mod_cast List.length_pos_iff.mpr present
  rw [average, div_le_iff₀ positive, mul_comm, ← nsmul_eq_mul]
  exact List.sum_le_card_nsmul values bound below

/-- An average is not above the maximum. -/
theorem exists_average_le {values : List K} (present : values ≠ []) :
    ∃ value ∈ values, average values ≤ value := by
  have positive := List.length_pos_iff.mpr present
  refine ⟨values.maximum_of_length_pos positive, values.maximum_of_length_pos_mem positive, ?_⟩
  apply average_le present
  intro value member
  exact List.le_maximum_of_length_pos_of_mem member positive

end AutoTrade.Lib
