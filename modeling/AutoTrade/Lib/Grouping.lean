import AutoTrade.Lib.Dict
import Mathlib.Data.List.Induction

/-!
# Dictionaries of groups

Entries gathered under a key, and the groups that a test keeps.
-/

namespace AutoTrade.Lib.Dict

variable {κ ν τ : Type}

/-- The entries whose value a selection keeps, in order. -/
def filterValues (dict : Dict κ ν) (keep : ν → Bool) : Dict κ ν where
  entries := dict.entries.filter fun entry => keep entry.2
  nodup := dict.nodup.sublist (List.filter_sublist.map Prod.fst)

variable [DecidableEq κ]

theorem get?_filterValues (dict : Dict κ ν) (keep : ν → Bool) (key : κ) :
    (dict.filterValues keep).get? key = (dict.get? key).filter keep := by
  apply Option.ext
  intro value
  rw [← mem_entries, filterValues, List.mem_filter, mem_entries, Option.filter_eq_some_iff]

/-- `setdefault(key, []).append(entry)` for every entry that has a key. -/
def grouped (key : τ → Option κ) (entries : List τ) : Dict κ (List τ) :=
  entries.foldl (fun groups entry =>
    match key entry with
    | none => groups
    | some name => groups.set name ((groups.get? name).getD [] ++ [entry])) ∅

theorem getD_grouped (key : τ → Option κ) (entries : List τ) (name : κ) :
    ((grouped key entries).get? name).getD [] =
      entries.filter fun entry => key entry = some name := by
  induction entries using List.reverseRecOn with
  | nil => rfl
  | append_singleton earlier entry ih =>
      rw [List.filter_append, ← ih]
      rw [grouped, List.foldl_append, List.foldl_cons, List.foldl_nil, ← grouped]
      cases found : key entry with
      | none => simp [found]
      | some other =>
          simp only [get?_set]
          split
          next same =>
            subst same
            simp [found]
          next different => simp [found, different]

theorem mem_keys_grouped {key : τ → Option κ} {entries : List τ} {name : κ} :
    name ∈ (grouped key entries).keys ↔ ∃ entry ∈ entries, key entry = some name := by
  induction entries using List.reverseRecOn with
  | nil => simp [grouped, keys, EmptyCollection.emptyCollection, empty]
  | append_singleton earlier entry ih =>
      have split : (∃ other ∈ earlier ++ [entry], key other = some name) ↔
          (∃ other ∈ earlier, key other = some name) ∨ key entry = some name := by
        simp [or_and_right, exists_or]
      rw [split, ← ih, grouped, List.foldl_append, List.foldl_cons, List.foldl_nil, ← grouped]
      cases found : key entry with
      | none => simp
      | some other =>
          dsimp only
          rw [mem_keys_set, Option.some.injEq, or_comm]

theorem values_grouped (key : τ → Option κ) (entries : List τ) :
    (grouped key entries).values = (grouped key entries).keys.map fun name =>
      entries.filter fun entry => key entry = some name := by
  rw [values, keys, List.map_map]
  apply List.map_congr_left
  intro item member
  have found : (grouped key entries).get? item.1 = some item.2 := mem_entries.mp member
  rw [Function.comp_apply, ← getD_grouped, found, Option.getD_some]

end AutoTrade.Lib.Dict
