import AutoTrade.Lib.Reorder
import Mathlib.Data.List.Induction
import Mathlib.Data.List.Pairwise
import Mathlib.Data.Finset.Dedup

/-!
# Collecting observations

A stream of observations is collected by key: the first observation of a key is
kept, a later one has to agree with it, and two kept observations must not
clash.  Which stream is accepted does not depend on its order, and two orders of
one stream keep observations that agree with each other.
-/

namespace AutoTrade.Lib

/-- How observations are checked, identified and compared. -/
structure Collector (ε α κ : Type) where
  check : α → Except ε Unit
  key : α → κ
  agrees : α → α → Bool
  conflict : α → ε
  clashes : α → α → Bool
  reused : α → ε

namespace Collector

variable {ε α κ β : Type}

/-- The comparison of observations is an equivalence that clashes respect. -/
structure Lawful (collector : Collector ε α κ) : Prop where
  refl : ∀ item, collector.agrees item item
  symm : ∀ {left right}, collector.agrees left right → collector.agrees right left
  trans : ∀ {left middle right}, collector.agrees left middle →
    collector.agrees middle right → collector.agrees left right
  clash_symm : ∀ {left right}, collector.clashes left right → collector.clashes right left
  clash_congr : ∀ {left other right}, collector.agrees left other →
    collector.clashes left right → collector.clashes other right

/-- What a stream keeps: one of its observations for each key, which every
other observation of that key agrees with. -/
structure Collected (collector : Collector ε α κ) (items kept : List α) : Prop where
  subset : ∀ first ∈ kept, first ∈ items
  seen : ∀ item ∈ items, ∃ first ∈ kept,
    collector.key first = collector.key item ∧ collector.agrees first item
  distinct : (kept.map collector.key).Nodup
  checked : ∀ item ∈ items, collector.check item = .ok ()
  apart : kept.Pairwise fun left right => collector.clashes left right = false

/-- Which streams are accepted, whatever their order. -/
structure Consistent (collector : Collector ε α κ) (items : List α) : Prop where
  checked : ∀ item ∈ items, collector.check item = .ok ()
  agree : ∀ left ∈ items, ∀ right ∈ items, collector.key left = collector.key right →
    collector.agrees left right
  apart : ∀ left ∈ items, ∀ right ∈ items, collector.key left ≠ collector.key right →
    collector.clashes left right = false

/-- Kept observations that agree, key by key. -/
def Similar (collector : Collector ε α κ) (left right : List α) : Prop :=
  (∀ item ∈ left, ∃ other ∈ right,
    collector.key item = collector.key other ∧ collector.agrees item other) ∧
  ∀ item ∈ right, ∃ other ∈ left,
    collector.key item = collector.key other ∧ collector.agrees item other

variable {collector : Collector ε α κ} {items others kept left right : List α}

/-- Observations that are compared by an image of theirs. -/
theorem Lawful.of_image (image : α → β)
    (agrees : ∀ left right, collector.agrees left right ↔ image left = image right)
    (clash_symm : ∀ {left right}, collector.clashes left right → collector.clashes right left)
    (clash_congr : ∀ {left other right}, image left = image other →
      collector.clashes left right → collector.clashes other right) : collector.Lawful where
  refl item := (agrees item item).mpr rfl
  symm same := (agrees _ _).mpr ((agrees _ _).mp same).symm
  trans first second := (agrees _ _).mpr (((agrees _ _).mp first).trans ((agrees _ _).mp second))
  clash_symm := clash_symm
  clash_congr same := clash_congr ((agrees _ _).mp same)

/-- A property that agreement respects is seen on the kept observations. -/
theorem Collected.exists_iff (property : α → Prop)
    (respects : ∀ left right, collector.agrees left right → (property left ↔ property right))
    (collected : collector.Collected items kept) :
    (∃ item ∈ items, property item) ↔ ∃ item ∈ kept, property item := by
  constructor
  · rintro ⟨item, member, holds⟩
    obtain ⟨first, firstMem, -, agrees⟩ := collected.seen item member
    exact ⟨first, firstMem, (respects first item agrees).mpr holds⟩
  · rintro ⟨first, firstMem, holds⟩
    exact ⟨first, collected.subset first firstMem, holds⟩

/-- An accepted stream is consistent. -/
theorem Collected.consistent (lawful : collector.Lawful)
    (collected : collector.Collected items kept) : collector.Consistent items where
  checked := collected.checked
  agree := by
    intro one oneMem two twoMem same
    obtain ⟨first, firstMem, firstKey, firstAgrees⟩ := collected.seen one oneMem
    obtain ⟨second, secondMem, secondKey, secondAgrees⟩ := collected.seen two twoMem
    have equal : first = second := List.inj_on_of_nodup_map collected.distinct firstMem
      secondMem (by rw [firstKey, same, secondKey])
    subst equal
    exact lawful.trans (lawful.symm firstAgrees) secondAgrees
  apart := by
    intro one oneMem two twoMem different
    obtain ⟨first, firstMem, firstKey, firstAgrees⟩ := collected.seen one oneMem
    obtain ⟨second, secondMem, secondKey, secondAgrees⟩ := collected.seen two twoMem
    have unequal : first ≠ second := by
      rintro rfl
      exact different (firstKey.symm.trans secondKey)
    have symmetric : Std.Symm fun left right => collector.clashes left right = false := by
      constructor
      intro left right clear
      by_contra clash
      rw [Bool.not_eq_false] at clash
      rw [lawful.clash_symm clash] at clear
      cases clear
    have clear : collector.clashes first second = false :=
      collected.apart.forall firstMem secondMem unequal
    by_contra clash
    rw [Bool.not_eq_false] at clash
    have moved := lawful.clash_congr (lawful.symm firstAgrees) clash
    have again := lawful.clash_congr (lawful.symm secondAgrees) (lawful.clash_symm moved)
    rw [lawful.clash_symm again] at clear
    cases clear

theorem Consistent.perm (perm : items.Perm others) (consistent : collector.Consistent items) :
    collector.Consistent others where
  checked item member := consistent.checked item (perm.mem_iff.mpr member)
  agree one oneMem two twoMem :=
    consistent.agree one (perm.mem_iff.mpr oneMem) two (perm.mem_iff.mpr twoMem)
  apart one oneMem two twoMem :=
    consistent.apart one (perm.mem_iff.mpr oneMem) two (perm.mem_iff.mpr twoMem)

/-! ## What similar observations have in common -/

/-- A function of observations that agreement leaves unchanged. -/
def Respects (collector : Collector ε α κ) (image : α → β) : Prop :=
  ∀ {left right}, collector.key left = collector.key right → collector.agrees left right →
    image left = image right

theorem Similar.mem_map_iff {image : α → β} (respects : collector.Respects image)
    (similar : collector.Similar left right) {value : β} :
    value ∈ left.map image ↔ value ∈ right.map image := by
  rw [List.mem_map, List.mem_map]
  constructor
  · rintro ⟨item, member, rfl⟩
    obtain ⟨other, otherMem, key, agrees⟩ := similar.1 item member
    exact ⟨other, otherMem, (respects key agrees).symm⟩
  · rintro ⟨item, member, rfl⟩
    obtain ⟨other, otherMem, key, agrees⟩ := similar.2 item member
    exact ⟨other, otherMem, (respects key agrees).symm⟩

theorem Similar.image_eq [DecidableEq β] {image : α → β} (respects : collector.Respects image)
    (similar : collector.Similar left right) :
    (left.map image).toFinset = (right.map image).toFinset := by
  ext value
  rw [List.mem_toFinset, List.mem_toFinset, similar.mem_map_iff respects]

theorem Similar.filter (select : α → Bool) (respects : collector.Respects select)
    (similar : collector.Similar left right) :
    collector.Similar (left.filter select) (right.filter select) := by
  constructor
  · intro item member
    obtain ⟨inside, selected⟩ := List.mem_filter.mp member
    obtain ⟨other, otherMem, key, agrees⟩ := similar.1 item inside
    refine ⟨other, List.mem_filter.mpr ⟨otherMem, ?_⟩, key, agrees⟩
    rw [← respects key agrees, selected]
  · intro item member
    obtain ⟨inside, selected⟩ := List.mem_filter.mp member
    obtain ⟨other, otherMem, key, agrees⟩ := similar.2 item inside
    refine ⟨other, List.mem_filter.mpr ⟨otherMem, ?_⟩, key, agrees⟩
    rw [← respects key agrees, selected]

theorem Similar.eq_nil_iff (similar : collector.Similar left right) :
    left = [] ↔ right = [] := by
  constructor
  · rintro rfl
    cases right with
    | nil => rfl
    | cons item rest =>
        obtain ⟨other, member, -⟩ := similar.2 item List.mem_cons_self
        cases member
  · rintro rfl
    cases left with
    | nil => rfl
    | cons item rest =>
        obtain ⟨other, member, -⟩ := similar.1 item List.mem_cons_self
        cases member

/-- Observations that agree only with themselves are the same ones. -/
theorem Similar.mem_iff (exact : ∀ {one two}, collector.agrees one two → one = two)
    (similar : collector.Similar left right) {item : α} : item ∈ left ↔ item ∈ right := by
  constructor
  · intro member
    obtain ⟨other, otherMem, -, agrees⟩ := similar.1 item member
    rw [exact agrees]
    exact otherMem
  · intro member
    obtain ⟨other, otherMem, -, agrees⟩ := similar.2 item member
    rw [exact agrees]
    exact otherMem

/-! ## Streams -/

variable [DecidableEq κ]

/-- One observation after the ones that were kept. -/
def observe (collector : Collector ε α κ) (kept : List α) (item : α) :
    Except ε (List α) := do
  collector.check item
  match kept.find? (fun first => collector.key first = collector.key item) with
  | some first =>
      if ¬ collector.agrees first item then .error (collector.conflict item) else pure kept
  | none =>
      if kept.any (collector.clashes · item) then .error (collector.reused item)
      else pure (kept ++ [item])

/-- The observations that a stream keeps. -/
def collect (collector : Collector ε α κ) (items : List α) : Except ε (List α) :=
  items.foldlM collector.observe []

/-- Everything one accepted observation can do. -/
theorem observe_cases {next : List α} {item : α}
    (success : collector.observe kept item = .ok next) :
    collector.check item = .ok () ∧
      ((next = kept ∧ ∃ first ∈ kept,
          collector.key first = collector.key item ∧ collector.agrees first item) ∨
        (next = kept ++ [item] ∧ (∀ first ∈ kept, collector.key first ≠ collector.key item) ∧
          ∀ first ∈ kept, collector.clashes first item = false)) := by
  rw [observe, bind_eq_ok] at success
  obtain ⟨⟨⟩, checked, success⟩ := success
  use checked
  split at success
  next first found =>
    rw [guard_eq_ok, not_not, pure_eq_ok] at success
    left
    constructor
    · exact success.2.symm
    · use first, List.mem_of_find?_eq_some found
      exact ⟨by simpa using List.find?_some found, success.1⟩
  next fresh =>
    rw [guard_eq_ok, pure_eq_ok] at success
    right
    refine ⟨success.2.symm, ?_, ?_⟩
    · intro first member
      simpa using List.find?_eq_none.mp fresh first member
    · intro first member
      have apart := success.1
      rw [List.any_eq_true, not_exists] at apart
      simpa [member] using apart first

theorem collect_collected (lawful : collector.Lawful)
    (success : collector.collect items = .ok kept) : collector.Collected items kept := by
  induction items using List.reverseRecOn generalizing kept with
  | nil =>
      rw [collect, List.foldlM_nil, pure_eq_ok] at success
      subst success
      constructor <;> simp
  | append_singleton items item ih =>
      rw [collect, List.foldlM_append, bind_eq_ok] at success
      obtain ⟨middle, first, last⟩ := success
      rw [List.foldlM_cons, bind_eq_ok] at last
      obtain ⟨next, step, done⟩ := last
      rw [List.foldlM_nil, pure_eq_ok] at done
      subst done
      have before := ih first
      obtain ⟨checked, repeated | new⟩ := observe_cases step
      · obtain ⟨rfl, known⟩ := repeated
        constructor
        · intro entry member
          exact List.mem_append_left [item] (before.subset entry member)
        · intro entry member
          rcases List.mem_append.mp member with old | same
          · exact before.seen entry old
          · rw [List.mem_singleton.mp same]
            exact known
        · exact before.distinct
        · intro entry member
          rcases List.mem_append.mp member with old | same
          · exact before.checked entry old
          · rw [List.mem_singleton.mp same]
            exact checked
        · exact before.apart
      · obtain ⟨rfl, fresh, apart⟩ := new
        constructor
        · intro entry member
          rcases List.mem_append.mp member with old | same
          · exact List.mem_append_left [item] (before.subset entry old)
          · exact List.mem_append_right items same
        · intro entry member
          rcases List.mem_append.mp member with old | same
          · obtain ⟨kept, keptMem, agrees⟩ := before.seen entry old
            exact ⟨kept, List.mem_append_left [item] keptMem, agrees⟩
          · rw [List.mem_singleton.mp same]
            exact ⟨item, List.mem_append_right middle List.mem_cons_self, rfl, lawful.refl item⟩
        · rw [List.map_append, List.nodup_append]
          refine ⟨before.distinct, List.nodup_singleton _, ?_⟩
          intro one oneMem two twoMem
          obtain ⟨entry, member, rfl⟩ := List.mem_map.mp oneMem
          rw [List.mem_singleton.mp twoMem]
          exact fresh entry member
        · intro entry member
          rcases List.mem_append.mp member with old | same
          · exact before.checked entry old
          · rw [List.mem_singleton.mp same]
            exact checked
        · rw [List.pairwise_append]
          refine ⟨before.apart, List.pairwise_singleton _ _, ?_⟩
          intro entry member last lastMem
          rw [List.mem_singleton.mp lastMem]
          exact apart entry member

/-- A consistent stream is accepted. -/
theorem Consistent.exists_collect (lawful : collector.Lawful)
    (consistent : collector.Consistent items) : ∃ kept, collector.collect items = .ok kept := by
  induction items using List.reverseRecOn with
  | nil => exact ⟨[], rfl⟩
  | append_singleton items item ih =>
      have before : collector.Consistent items := by
        constructor
        · intro entry member
          exact consistent.checked entry (List.mem_append_left [item] member)
        · intro one oneMem two twoMem
          exact consistent.agree one (List.mem_append_left [item] oneMem) two
            (List.mem_append_left [item] twoMem)
        · intro one oneMem two twoMem
          exact consistent.apart one (List.mem_append_left [item] oneMem) two
            (List.mem_append_left [item] twoMem)
      obtain ⟨kept, success⟩ := ih before
      have collected := collect_collected lawful success
      have last : item ∈ items ++ [item] := List.mem_append_right items List.mem_cons_self
      have checked := consistent.checked item last
      rw [collect] at success
      rw [collect, List.foldlM_append, success, ok_bind, List.foldlM_cons]
      simp only [observe, checked, ok_bind]
      split
      next first found =>
        have member := collected.subset first (List.mem_of_find?_eq_some found)
        have agrees := consistent.agree first (List.mem_append_left [item] member) item last
          (by simpa using List.find?_some found)
        rw [if_neg (not_not.mpr agrees)]
        exact ⟨kept, rfl⟩
      next fresh =>
        have clear : ¬ kept.any (collector.clashes · item) = true := by
          rw [List.any_eq_true]
          rintro ⟨first, firstMem, clash⟩
          have different : collector.key first ≠ collector.key item := by
            simpa using List.find?_eq_none.mp fresh first firstMem
          rw [consistent.apart first (List.mem_append_left [item]
            (collected.subset first firstMem)) item last different] at clash
          cases clash
        rw [if_neg clear]
        exact ⟨kept ++ [item], rfl⟩

/-- Two orders of one stream keep similar observations, or are both refused. -/
theorem collect_perm (lawful : collector.Lawful) (perm : items.Perm others) :
    Agree collector.Similar (collector.collect items) (collector.collect others) := by
  have together : (∃ kept, collector.collect items = .ok kept) ↔
      ∃ kept, collector.collect others = .ok kept := by
    constructor
    · rintro ⟨kept, success⟩
      exact ((collect_collected lawful success).consistent lawful |>.perm perm).exists_collect
        lawful
    · rintro ⟨kept, success⟩
      exact ((collect_collected lawful success).consistent lawful
        |>.perm perm.symm).exists_collect lawful
  cases first : collector.collect items with
  | error error =>
      cases second : collector.collect others with
      | error other => exact Agree.error_error
      | ok kept =>
          obtain ⟨other, success⟩ := together.mpr ⟨kept, second⟩
          rw [first] at success
          cases success
  | ok kept =>
      obtain ⟨other, success⟩ := together.mp ⟨kept, first⟩
      rw [success]
      have here := collect_collected lawful first
      have there := collect_collected lawful success
      constructor
      · intro item member
        obtain ⟨match_, matchMem, key, agrees⟩ :=
          there.seen item (perm.mem_iff.mp (here.subset item member))
        exact ⟨match_, matchMem, key.symm, lawful.symm agrees⟩
      · intro item member
        obtain ⟨match_, matchMem, key, agrees⟩ :=
          here.seen item (perm.mem_iff.mpr (there.subset item member))
        exact ⟨match_, matchMem, key.symm, lawful.symm agrees⟩

end Collector

end AutoTrade.Lib
