import Mathlib.Algebra.BigOperators.Group.List.Basic
import Mathlib.Algebra.Order.BigOperators.Group.List
import Mathlib.Tactic.Abel

/-!
# Sums over selected entries

`selectedSum` adds up a quantity over the entries of a list that a test keeps.
-/

namespace AutoTrade.Lib

variable {τ κ A : Type} [AddCommGroup A]

/-- Sum over a selection of the entries. -/
def selectedSum (amount : τ → A) (select : τ → Bool) (entries : List τ) : A :=
  ((entries.filter select).map amount).sum

theorem selectedSum_cons (amount : τ → A) (select : τ → Bool) (entry : τ) (rest : List τ) :
    selectedSum amount select (entry :: rest) =
      (if select entry then amount entry else 0) + selectedSum amount select rest := by
  cases selected : select entry <;> simp [selectedSum, selected]

theorem selectedSum_eq_sum_ite (amount : τ → A) (select : τ → Bool) (entries : List τ) :
    selectedSum amount select entries =
      (entries.map fun entry => if select entry then amount entry else 0).sum := by
  induction entries with
  | nil => rfl
  | cons entry rest ih => rw [selectedSum_cons, ih, List.map_cons, List.sum_cons]

theorem selectedSum_congr {amount : τ → A} {left right : τ → Bool} {entries : List τ}
    (same : ∀ entry ∈ entries, left entry = right entry) :
    selectedSum amount left entries = selectedSum amount right entries := by
  rw [selectedSum, selectedSum, List.filter_congr same]

/-- Summing a concatenation piece by piece. -/
theorem selectedSum_flatMap {σ : Type} (amount : τ → A) (select : τ → Bool)
    (pieces : List σ) (entries : σ → List τ) :
    selectedSum amount select (pieces.flatMap entries) =
      (pieces.map fun piece => selectedSum amount select (entries piece)).sum := by
  induction pieces with
  | nil => rfl
  | cons piece rest ih =>
      rw [List.map_cons, List.sum_cons, ← ih]
      simp [selectedSum]

/-- A disjoint selection adds up. -/
theorem selectedSum_or (amount : τ → A) (left right : τ → Bool) (entries : List τ)
    (disjoint : ∀ entry ∈ entries, ¬ (left entry ∧ right entry)) :
    selectedSum amount (fun entry => left entry || right entry) entries =
      selectedSum amount left entries + selectedSum amount right entries := by
  induction entries with
  | nil => simp [selectedSum]
  | cons entry rest ih =>
      have apart := disjoint entry List.mem_cons_self
      have tail := ih fun other member => disjoint other (List.mem_cons_of_mem entry member)
      simp only [selectedSum_cons, tail]
      cases chosenLeft : left entry <;> cases chosenRight : right entry <;>
        simp_all <;> abel

/-- Dropping one entry of a selection with distinct keys. -/
theorem selectedSum_erase [DecidableEq κ] {key : τ → κ} (amount : τ → A)
    (select : τ → Bool) {entries : List τ} {entry : τ}
    (distinct : (entries.map key).Nodup) (member : entry ∈ entries) :
    selectedSum amount (fun other => select other && decide (key other ≠ key entry)) entries =
      selectedSum amount select entries - (if select entry then amount entry else 0) := by
  induction entries with
  | nil => cases member
  | cons first rest ih =>
      obtain ⟨fresh, distinct⟩ := List.nodup_cons.mp distinct
      rw [selectedSum_cons, selectedSum_cons]
      rcases List.mem_cons.mp member with rfl | member
      · have unchanged : selectedSum amount
            (fun other => select other && decide (key other ≠ key entry)) rest =
              selectedSum amount select rest := by
          apply selectedSum_congr
          intro other found
          have distinctKey : key other ≠ key entry := by
            intro same
            exact fresh (same ▸ List.mem_map_of_mem found)
          simp [distinctKey]
        rw [unchanged]
        simp
      · have distinctKey : key first ≠ key entry := by
          intro same
          exact fresh (same ▸ List.mem_map_of_mem member)
        rw [ih distinct member]
        simp only [distinctKey, ne_eq, not_false_eq_true, decide_true, Bool.and_true]
        abel

theorem selectedSum_eq_zero {amount : τ → A} {select : τ → Bool} {entries : List τ}
    (vanishes : ∀ entry ∈ entries, select entry → amount entry = 0) :
    selectedSum amount select entries = 0 := by
  apply List.sum_eq_zero
  intro value member
  obtain ⟨entry, found, rfl⟩ := List.mem_map.mp member
  obtain ⟨found, chosen⟩ := List.mem_filter.mp found
  exact vanishes entry found chosen

/-- The entry with a key, where keys are distinct. -/
theorem selectedSum_single [DecidableEq κ] {key : τ → κ} (amount : τ → A)
    {entries : List τ} {entry : τ} (distinct : (entries.map key).Nodup)
    (member : entry ∈ entries) :
    selectedSum amount (fun other => key other = key entry) entries = amount entry := by
  induction entries with
  | nil => cases member
  | cons first rest ih =>
      obtain ⟨fresh, distinct⟩ := List.nodup_cons.mp distinct
      rw [selectedSum_cons]
      rcases List.mem_cons.mp member with rfl | member
      · rw [selectedSum_eq_zero]
        · simp
        · intro other found same
          exact absurd (of_decide_eq_true same ▸ List.mem_map_of_mem found) fresh
      · have different : key first ≠ key entry := by
          intro same
          exact fresh (same ▸ List.mem_map_of_mem member)
        simp [different, ih distinct member]

/-- A test inside the quantity is a test of the selection. -/
theorem selectedSum_ite (amount : τ → A) (test select : τ → Bool) (entries : List τ) :
    selectedSum (fun entry => if test entry then amount entry else 0) select entries =
      selectedSum amount (fun entry => select entry && test entry) entries := by
  induction entries with
  | nil => rfl
  | cons entry rest ih =>
      rw [selectedSum_cons, selectedSum_cons, ih]
      cases select entry <;> simp

theorem selectedSum_add (left right : τ → A) (select : τ → Bool) (entries : List τ) :
    selectedSum (fun entry => left entry + right entry) select entries =
      selectedSum left select entries + selectedSum right select entries := by
  induction entries with
  | nil => simp [selectedSum]
  | cons entry rest ih =>
      rw [selectedSum_cons, selectedSum_cons, selectedSum_cons, ih]
      split <;> abel

/-- Summing by the label of each entry, over distinct labels that include all
that occur. -/
theorem selectedSum_fiberwise [DecidableEq κ] (amount : τ → A) (label : τ → κ)
    (keep : τ → Bool) (select : κ → Bool) {labels : List κ} {entries : List τ}
    (distinct : labels.Nodup) (known : ∀ entry ∈ entries, keep entry → label entry ∈ labels) :
    selectedSum (fun name =>
        selectedSum amount (fun entry => keep entry && decide (label entry = name)) entries)
      select labels =
        selectedSum amount (fun entry => keep entry && select (label entry)) entries := by
  induction entries with
  | nil => exact selectedSum_eq_zero fun _ _ _ => rfl
  | cons entry rest ih =>
      have tail := ih fun other member => known other (List.mem_cons_of_mem entry member)
      simp only [selectedSum_cons]
      rw [selectedSum_add, tail]
      congr 1
      rw [selectedSum_ite (fun _ => amount entry)]
      cases kept : keep entry with
      | false => exact selectedSum_eq_zero fun _ _ chosen => by simp at chosen
      | true =>
          have member := known entry List.mem_cons_self kept
          have distinctIds : (labels.map id).Nodup := by rwa [List.map_id]
          cases chosen : select (label entry) with
          | true =>
              have single := selectedSum_single (fun _ => amount entry) distinctIds member
              rw [Bool.true_and, if_pos rfl]
              refine Eq.trans (selectedSum_congr ?_) single
              intro name _
              by_cases same : name = label entry
              · simp [same, chosen]
              · simp [same, Ne.symm same]
          | false =>
              refine selectedSum_eq_zero fun name _ both => ?_
              simp only [Bool.true_and, Bool.and_eq_true, decide_eq_true_eq] at both
              rw [← both.2, chosen] at both
              cases both.1

section Order

variable [PartialOrder A] [IsOrderedAddMonoid A]

end Order

end AutoTrade.Lib
