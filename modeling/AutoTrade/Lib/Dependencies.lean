import Mathlib.Data.Finset.Basic
import Mathlib.Order.WellFoundedSet

/-!
# Dependencies

Items with dependencies on other items: cycles, lists in which every item comes after its
dependencies, and the largest part of a set that contains the dependencies of its items.
-/

namespace AutoTrade.Lib

variable {α : Type} {dependencies : α → List α}

/-! ## Cycles -/

/-- The item needs the other one, directly or through others. -/
def Needs (dependencies : α → List α) : α → α → Prop :=
  Relation.TransGen fun item dependency => dependency ∈ dependencies item

/-- Some item needs itself. -/
def Cyclic (dependencies : α → List α) : Prop := ∃ item, Needs dependencies item item

/-- An item on a cycle depends on an item of the cycle. -/
theorem Needs.next {item : α} (cycle : Needs dependencies item item) :
    ∃ dependency ∈ dependencies item, Needs dependencies dependency dependency := by
  rcases Relation.TransGen.head'_iff.mp cycle with ⟨dependency, listed, path⟩
  refine ⟨dependency, listed, ?_⟩
  exact Relation.TransGen.tail' path listed

/-- Without a cycle, some item of a set has no dependency in it. -/
theorem exists_ready (acyclic : ¬ Cyclic dependencies) {items : Finset α}
    (nonempty : items.Nonempty) :
    ∃ item ∈ items, ∀ dependency ∈ dependencies item, dependency ∉ items := by
  have : IsStrictOrder α fun left right => Needs dependencies right left :=
    { irrefl := fun item cycle => acyclic ⟨item, cycle⟩
      trans := fun _ _ _ first second => Relation.TransGen.trans second first }
  have founded := items.wellFoundedOn (r := fun left right => Needs dependencies right left)
  obtain ⟨item, member, least⟩ := founded.has_min Set.univ ⟨⟨_, nonempty.choose_spec⟩, trivial⟩
  refine ⟨item.1, item.2, ?_⟩
  intro dependency listed inside
  exact least ⟨dependency, inside⟩ trivial (Relation.TransGen.single listed)

/-! ## Ordered lists -/

/-- Every item of the list comes after its dependencies. -/
def Ordered (dependencies : α → List α) (order : List α) : Prop :=
  ∀ before item after, order = before ++ item :: after →
    ∀ dependency ∈ dependencies item, dependency ∈ before

theorem ordered_nil : Ordered dependencies [] := by
  intro before item after split
  simp at split

theorem Ordered.append {order : List α} (ordered : Ordered dependencies order) {item : α}
    (listed : ∀ dependency ∈ dependencies item, dependency ∈ order) :
    Ordered dependencies (order ++ [item]) := by
  intro before other after split
  rcases List.eq_nil_or_concat after with rfl | ⟨rest, last, rfl⟩
  · obtain ⟨rfl, same⟩ := List.append_inj' split rfl
    cases same
    exact listed
  · rw [List.concat_eq_append, ← List.cons_append, ← List.append_assoc] at split
    obtain ⟨same, -⟩ := List.append_inj' split rfl
    exact ordered before other rest same

/-- A dependency of an item of an ordered list is in the list. -/
theorem Ordered.mem {order : List α} (ordered : Ordered dependencies order) {item dependency : α}
    (member : item ∈ order) (listed : dependency ∈ dependencies item) : dependency ∈ order := by
  obtain ⟨before, after, rfl⟩ := List.append_of_mem member
  exact List.mem_append_left _ (ordered before item after rfl dependency listed)

/-! ## Closed sets -/

/-- The set contains the dependencies of its items. -/
def Closed (dependencies : α → List α) (items : Finset α) : Prop :=
  ∀ item ∈ items, ∀ dependency ∈ dependencies item, dependency ∈ items

section Cascade

variable [DecidableEq α]

/-- Drop, in the order of the list, the items with a dependency that is not kept. -/
def cascade (dependencies : α → List α) (order : List α) (kept : Finset α) : Finset α :=
  order.foldl (fun current item =>
    if ∀ dependency ∈ dependencies item, dependency ∈ current then current
    else current.erase item) kept

theorem cascade_append (order : List α) (item : α) (kept : Finset α) :
    cascade dependencies (order ++ [item]) kept =
      if ∀ dependency ∈ dependencies item, dependency ∈ cascade dependencies order kept then
        cascade dependencies order kept
      else (cascade dependencies order kept).erase item := by
  rw [cascade, List.foldl_append]
  rfl

theorem cascade_subset (order : List α) (kept : Finset α) :
    cascade dependencies order kept ⊆ kept := by
  induction order using List.reverseRecOn with
  | nil => exact Finset.Subset.refl kept
  | append_singleton order item ih =>
      rw [cascade_append]
      split
      · exact ih
      · exact (Finset.erase_subset _ _).trans ih

/-- Items that are not in the list stay. -/
theorem mem_cascade_of_notMem {order : List α} {item : α} (unlisted : item ∉ order)
    {kept : Finset α} : item ∈ cascade dependencies order kept ↔ item ∈ kept := by
  induction order using List.reverseRecOn with
  | nil => rfl
  | append_singleton order other ih =>
      rw [List.mem_append, List.mem_singleton, not_or] at unlisted
      rw [cascade_append]
      split
      · exact ih unlisted.1
      · rw [Finset.mem_erase, ih unlisted.1]
        simp [unlisted.2]

/-- No closed part of the set is dropped. -/
theorem Closed.subset_cascade {items kept : Finset α} (closed : Closed dependencies items)
    (subset : items ⊆ kept) (order : List α) : items ⊆ cascade dependencies order kept := by
  induction order using List.reverseRecOn with
  | nil => exact subset
  | append_singleton order item ih =>
      rw [cascade_append]
      split
      · exact ih
      next missing =>
        intro other member
        rw [Finset.mem_erase]
        constructor
        · intro same
          subst same
          exact missing fun dependency listed => ih (closed other member dependency listed)
        · exact ih member

/-- Along an ordered list without repetitions, what is kept of the items before is closed. -/
theorem closed_cascade {order : List α} (ordered : Ordered dependencies order)
    (nodup : order.Nodup) {kept : Finset α} :
    ∀ item ∈ order, item ∈ cascade dependencies order kept →
      ∀ dependency ∈ dependencies item, dependency ∈ cascade dependencies order kept := by
  induction order using List.reverseRecOn with
  | nil =>
      intro item member
      cases member
  | append_singleton order last ih =>
      have earlierOrdered : Ordered dependencies order := by
        intro before item after split
        apply ordered before item (after ++ [last])
        rw [split, List.append_assoc]
        rfl
      rw [List.nodup_append'] at nodup
      have fresh : last ∉ order := fun member => nodup.2.2 member (List.mem_singleton_self last)
      have earlier := ih earlierOrdered nodup.1
      have before : ∀ dependency ∈ dependencies last, dependency ∈ order :=
        ordered order last [] rfl
      have notLast : ∀ dependency ∈ order, dependency ≠ last := by
        intro dependency listed same
        exact fresh (same ▸ listed)
      intro item member
      rw [cascade_append]
      split
      next ready =>
        intro inside dependency listed
        rcases List.mem_append.mp member with old | new
        · exact earlier item old inside dependency listed
        · rw [List.mem_singleton.mp new] at listed
          exact ready dependency listed
      next missing =>
        intro inside dependency listed
        rw [Finset.mem_erase] at inside ⊢
        rcases List.mem_append.mp member with old | new
        · exact ⟨notLast _ (earlierOrdered.mem old listed), earlier item old inside.2 dependency listed⟩
        · exact absurd (List.mem_singleton.mp new) inside.1

/-- Along an ordered list, the cascade keeps the largest closed part of a part of the list. -/
theorem cascade_greatest {order : List α} (ordered : Ordered dependencies order)
    (nodup : order.Nodup) {kept : Finset α} (inside : ∀ item ∈ kept, item ∈ order) :
    Closed dependencies (cascade dependencies order kept) ∧
      ∀ items ⊆ kept, Closed dependencies items → items ⊆ cascade dependencies order kept := by
  constructor
  · intro item member
    exact closed_cascade ordered nodup item (inside item (cascade_subset order kept member)) member
  · intro items subset closed
    exact closed.subset_cascade subset order

end Cascade

end AutoTrade.Lib
