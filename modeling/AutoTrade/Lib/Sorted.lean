import Mathlib.Data.Finset.Card
import Mathlib.Data.Finset.Dedup
import Mathlib.Data.List.Sort

/-!
# Initial segments of sorted lists

A finite set is an initial segment of a strictly sorted list exactly when each
of its members comes before every listed element outside it.
-/

namespace AutoTrade.Lib

variable {α : Type} [DecidableEq α] {before : α → α → Prop}

omit [DecidableEq α] in
theorem rel_of_mem_take_of_mem_drop {values : List α} (sorted : values.Pairwise before)
    {count : Nat} {early late : α} (earlyMem : early ∈ values.take count)
    (lateMem : late ∈ values.drop count) : before early late := by
  rw [← List.take_append_drop count values, List.pairwise_append] at sorted
  exact sorted.2.2 early earlyMem late lateMem

omit [DecidableEq α] in
theorem mem_take_or_mem_drop {values : List α} {value : α} (count : Nat)
    (member : value ∈ values) : value ∈ values.take count ∨ value ∈ values.drop count := by
  rwa [← List.mem_append, List.take_append_drop]

/-- The first elements of a strictly sorted list form a given set exactly when
that set is closed towards the front. -/
theorem take_toFinset_eq_iff {values : List α} (sorted : values.Pairwise before)
    (asymmetric : ∀ left right, before left right → ¬ before right left)
    (distinct : values.Nodup) {members : Finset α} (listed : ∀ value ∈ members, value ∈ values) :
    (values.take members.card).toFinset = members ↔
      ∀ early ∈ members, ∀ late ∈ values, late ∉ members → before early late := by
  constructor
  · intro initial early earlyMem late lateMem outside
    have earlyTake : early ∈ values.take members.card := by
      rw [← List.mem_toFinset, initial]
      exact earlyMem
    rcases mem_take_or_mem_drop members.card lateMem with inside | lateDrop
    · rw [← List.mem_toFinset, initial] at inside
      exact absurd inside outside
    · exact rel_of_mem_take_of_mem_drop sorted earlyTake lateDrop
  · intro closed
    have takeCard : (values.take members.card).toFinset.card = members.card := by
      have bound : members.card ≤ values.length := by
        rw [← List.toFinset_card_of_nodup distinct]
        apply Finset.card_le_card
        intro value member
        exact List.mem_toFinset.mpr (listed value member)
      rw [List.toFinset_card_of_nodup (distinct.sublist (List.take_sublist _ _)),
        List.length_take, Nat.min_eq_left bound]
    apply Finset.eq_of_subset_of_card_le _ takeCard.ge
    intro value valueTake
    by_contra outside
    -- some member is pushed out of the first positions by `value`
    obtain ⟨pushed, pushedMem, pushedOut⟩ :
        ∃ pushed ∈ members, pushed ∉ (values.take members.card).toFinset := by
      by_contra none
      push Not at none
      have equal : members = (values.take members.card).toFinset :=
        Finset.eq_of_subset_of_card_le none takeCard.le
      rw [← equal] at valueTake
      exact outside valueTake
    rw [List.mem_toFinset] at valueTake pushedOut
    have valueMem : value ∈ values := List.mem_of_mem_take valueTake
    have pushedDrop : pushed ∈ values.drop members.card :=
      (mem_take_or_mem_drop members.card (listed pushed pushedMem)).resolve_left pushedOut
    exact asymmetric _ _ (rel_of_mem_take_of_mem_drop sorted valueTake pushedDrop)
      (closed pushed pushedMem value valueMem outside)

end AutoTrade.Lib
