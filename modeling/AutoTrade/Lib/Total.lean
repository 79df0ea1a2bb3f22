import AutoTrade.Lib.Dict
import Mathlib.Algebra.BigOperators.Group.List.Basic

/-!
# Totals of dictionaries

The total of the values of a dictionary under a weight, and what assigning and
deleting one key does to it.
-/

namespace AutoTrade.Lib.Dict

section Total

variable {κ ν M : Type} [AddCommMonoid M]

/-- The total weight of the values. -/
def total (dict : Dict κ ν) (weight : ν → M) : M := (dict.values.map weight).sum

theorem total_eq (dict : Dict κ ν) (weight : ν → M) :
    dict.total weight = (dict.entries.map fun entry => weight entry.2).sum := by
  rw [total, values, List.map_map]
  rfl

end Total

variable {κ ν M : Type} [DecidableEq κ]

/-- `del dict[key]`, or the entries of a comprehension that skips the key. -/
def erase (dict : Dict κ ν) (key : κ) : Dict κ ν := dict.filterKeys fun other => other ≠ key

theorem find?_filter_ne {key other : κ} {entries : List (κ × ν)} :
    find? other (entries.filter fun entry => entry.1 ≠ key) =
      if key = other then none else find? other entries := by
  induction entries with
  | nil => simp [find?]
  | cons entry rest ih =>
      obtain ⟨first, value⟩ := entry
      rw [List.filter_cons]
      by_cases same : first = key
      · subst same
        rw [if_neg (by simp), ih]
        split
        next => rfl
        next different => rw [find?, if_neg different]
      · rw [if_pos (decide_eq_true same), find?, ih]
        split
        next found =>
          subst found
          rw [if_neg (Ne.symm same), find?, if_pos rfl]
        next => rw [find?]; split <;> simp_all

theorem get?_erase (dict : Dict κ ν) (key other : κ) :
    (dict.erase key).get? other = if key = other then none else dict.get? other :=
  find?_filter_ne

theorem get?_erase_of_ne (dict : Dict κ ν) {key other : κ} (different : key ≠ other) :
    (dict.erase key).get? other = dict.get? other := by
  rw [get?_erase, if_neg different]

variable [AddCommMonoid M]

theorem sum_entries (weight : ν → M) (key : κ) {entries : List (κ × ν)}
    (distinct : (entries.map Prod.fst).Nodup) :
    ((entries.filter fun entry => entry.1 ≠ key).map fun entry => weight entry.2).sum +
        (find? key entries).elim 0 weight =
      (entries.map fun entry => weight entry.2).sum := by
  induction entries with
  | nil => simp [find?]
  | cons entry rest ih =>
      obtain ⟨first, value⟩ := entry
      rw [List.map_cons, List.nodup_cons] at distinct
      have tail := ih distinct.2
      by_cases same : first = key
      · subst same
        have absent : find? first rest = none := find?_eq_none.mpr distinct.1
        rw [absent, Option.elim_none, add_zero] at tail
        simp only [List.filter_cons, ne_eq, not_true_eq_false, decide_false, Bool.false_eq_true,
          ↓reduceIte, find?, Option.elim_some, List.map_cons, List.sum_cons] at tail ⊢
        rw [tail, add_comm]
      · simp only [List.filter_cons, ne_eq, same, not_false_eq_true, decide_true, ↓reduceIte,
          find?, List.map_cons, List.sum_cons] at tail ⊢
        rw [add_assoc, tail]

theorem sum_insertEntry (weight : ν → M) (key : κ) (value : ν) {entries : List (κ × ν)}
    (distinct : (entries.map Prod.fst).Nodup) :
    ((insertEntry key value entries).map fun entry => weight entry.2).sum =
      ((entries.filter fun entry => entry.1 ≠ key).map fun entry => weight entry.2).sum +
        weight value := by
  induction entries with
  | nil => simp [insertEntry]
  | cons entry rest ih =>
      obtain ⟨first, stored⟩ := entry
      rw [List.map_cons, List.nodup_cons] at distinct
      by_cases same : first = key
      · subst same
        have tail := sum_entries weight first distinct.2
        rw [find?_eq_none.mpr distinct.1, Option.elim_none, add_zero] at tail
        simp only [insertEntry, ↓reduceIte, List.map_cons, List.sum_cons, List.filter_cons, ne_eq,
          not_true_eq_false, decide_false, Bool.false_eq_true] at tail ⊢
        rw [tail, add_comm]
      · have tail := ih distinct.2
        simp only [insertEntry, same, ↓reduceIte, List.map_cons, List.sum_cons, List.filter_cons,
          ne_eq, not_false_eq_true, decide_true] at tail ⊢
        rw [tail, add_assoc]

/-- The total without a key and the weight under the key. -/
theorem total_erase (dict : Dict κ ν) (weight : ν → M) (key : κ) :
    (dict.erase key).total weight + (dict.get? key).elim 0 weight = dict.total weight := by
  rw [total_eq, total_eq]
  exact sum_entries weight key dict.nodup

/-- An assignment replaces the weight under its key. -/
theorem total_set (dict : Dict κ ν) (weight : ν → M) (key : κ) (value : ν) :
    (dict.set key value).total weight = (dict.erase key).total weight + weight value := by
  rw [total_eq, total_eq]
  exact sum_insertEntry weight key value dict.nodup

end AutoTrade.Lib.Dict
