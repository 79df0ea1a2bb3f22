import AutoTrade.Lib.Selection
import Mathlib.Algebra.Group.Nat.Even

/-!
# Histories with reversals

An entry of a history may reverse an earlier one, a reversal included.  The
lemmas say which entries carry the total of a quantity that every reversal
negates.  Histories are lists with the newest entry first.
-/

namespace AutoTrade.Lib

variable {τ κ A : Type}

section Reversal

variable (key : τ → κ) (reverses : τ → Option κ)

/-- Fresh keys, and every reversal undoes an earlier entry for the first
time. -/
inductive Reversible (undoes : τ → τ → Prop) : (history : List τ) → Prop where
  | nil : Reversible undoes []
  | plain {entry : τ} {older : List τ} (earlier : Reversible undoes older)
      (fresh : key entry ∉ older.map key) (plain : reverses entry = none) :
      Reversible undoes (entry :: older)
  | reversal {entry original : τ} {older : List τ} (earlier : Reversible undoes older)
      (fresh : key entry ∉ older.map key) (member : original ∈ older)
      (reversed : reverses entry = some (key original))
      (first : key original ∉ older.filterMap reverses) (undone : undoes entry original) :
      Reversible undoes (entry :: older)

variable [DecidableEq κ]

/-- Length of the chain of reversals that ends at the entry with this key. -/
def reversalDepth : (history : List τ) → (id : κ) → Nat
  | [], _ => 0
  | entry :: older, id =>
      if key entry = id then
        match reverses entry with
        | none => 0
        | some original => reversalDepth older original + 1
      else reversalDepth older id

/-- No entry reverses it. -/
def standing (history : List τ) (entry : τ) : Bool :=
  key entry ∉ history.filterMap reverses

/-- Neither reversed nor reversing. -/
def active (history : List τ) (entry : τ) : Bool :=
  standing key reverses history entry && (reverses entry).isNone

/-- A standing reversal at the end of an even chain: it undoes a reversal and
so brings an original entry back. -/
def reinstating (history : List τ) (entry : τ) : Bool :=
  standing key reverses history entry && (reverses entry).isSome &&
    decide (Even (reversalDepth key reverses history (key entry)))

/-- A standing entry at the end of an even chain. -/
def effective (history : List τ) (entry : τ) : Bool :=
  standing key reverses history entry &&
    decide (Even (reversalDepth key reverses history (key entry)))

end Reversal

section Lemmas

variable {key : τ → κ} {reverses : τ → Option κ} {undoes : τ → τ → Prop}
  {history : List τ}

theorem Reversible.nodup (reversible : Reversible key reverses undoes history) :
    (history.map key).Nodup := by
  induction reversible with
  | nil => exact List.nodup_nil
  | plain earlier fresh plain ih => exact List.nodup_cons.mpr ⟨fresh, ih⟩
  | reversal earlier fresh member reversed first undone ih =>
      exact List.nodup_cons.mpr ⟨fresh, ih⟩

theorem Reversible.reversed_nodup (reversible : Reversible key reverses undoes history) :
    (history.filterMap reverses).Nodup := by
  induction reversible with
  | nil => exact List.nodup_nil
  | plain earlier fresh plain ih =>
      rw [List.filterMap_cons_none plain]
      exact ih
  | reversal earlier fresh member reversed first undone ih =>
      rw [List.filterMap_cons_some reversed]
      exact List.nodup_cons.mpr ⟨first, ih⟩

theorem Reversible.reversed_known (reversible : Reversible key reverses undoes history)
    {id : κ} (member : id ∈ history.filterMap reverses) : id ∈ history.map key := by
  induction reversible with
  | nil => cases member
  | plain earlier fresh plain ih =>
      rw [List.filterMap_cons_none plain] at member
      exact List.mem_cons_of_mem _ (ih member)
  | reversal earlier fresh known reversed first undone ih =>
      rw [List.filterMap_cons_some reversed, List.mem_cons] at member
      rcases member with rfl | member
      · exact List.mem_cons_of_mem _ (List.mem_map_of_mem known)
      · exact List.mem_cons_of_mem _ (ih member)

/-- The entry a reversal undoes. -/
theorem Reversible.undone (reversible : Reversible key reverses undoes history)
    {entry : τ} {id : κ} (member : entry ∈ history) (reversed : reverses entry = some id) :
    ∃ original ∈ history, key original = id ∧ undoes entry original := by
  induction reversible with
  | nil => cases member
  | plain earlier fresh plain ih =>
      rcases List.mem_cons.mp member with rfl | member
      · rw [plain] at reversed
        cases reversed
      · obtain ⟨original, found, same, undone⟩ := ih member
        exact ⟨original, List.mem_cons_of_mem _ found, same, undone⟩
  | @reversal newest original older earlier fresh known undoing first undone ih =>
      rcases List.mem_cons.mp member with rfl | member
      · rw [undoing] at reversed
        exact ⟨original, List.mem_cons_of_mem _ known, Option.some.inj reversed, undone⟩
      · obtain ⟨original, found, same, undone⟩ := ih member
        exact ⟨original, List.mem_cons_of_mem _ found, same, undone⟩

variable [DecidableEq κ]

/-- Depths of earlier entries do not change. -/
theorem reversalDepth_cons_of_ne {entry : τ} {older : List τ} {id : κ}
    (other : key entry ≠ id) :
    reversalDepth key reverses (entry :: older) id = reversalDepth key reverses older id := by
  simp only [reversalDepth, if_neg other]

theorem reversalDepth_self_plain {entry : τ} {older : List τ}
    (plain : reverses entry = none) :
    reversalDepth key reverses (entry :: older) (key entry) = 0 := by
  simp only [reversalDepth, if_true, plain]

theorem reversalDepth_self_reversal {entry : τ} {older : List τ} {original : κ}
    (reversed : reverses entry = some original) :
    reversalDepth key reverses (entry :: older) (key entry) =
      reversalDepth key reverses older original + 1 := by
  simp only [reversalDepth, if_true, reversed]

theorem Reversible.depth_eq_zero (reversible : Reversible key reverses undoes history)
    {entry : τ} (member : entry ∈ history) (plain : reverses entry = none) :
    reversalDepth key reverses history (key entry) = 0 := by
  induction reversible with
  | nil => cases member
  | plain earlier fresh newestPlain ih =>
      rcases List.mem_cons.mp member with rfl | member
      · exact reversalDepth_self_plain plain
      · rw [reversalDepth_cons_of_ne]
        · exact ih member
        · intro same
          exact fresh (same ▸ List.mem_map_of_mem member)
  | reversal earlier fresh known reversed first undone ih =>
      rcases List.mem_cons.mp member with rfl | member
      · rw [plain] at reversed
        cases reversed
      · rw [reversalDepth_cons_of_ne]
        · exact ih member
        · intro same
          exact fresh (same ▸ List.mem_map_of_mem member)

variable [AddCommGroup A]

theorem standing_plain {entry other : τ} {older : List τ} (plain : reverses entry = none) :
    standing key reverses (entry :: older) other = standing key reverses older other := by
  simp [standing, List.filterMap_cons_none plain]

theorem standing_reversal {entry other : τ} {older : List τ} {id : κ}
    (reversed : reverses entry = some id) :
    standing key reverses (entry :: older) other =
      (standing key reverses older other && decide (key other ≠ id)) := by
  rw [Bool.eq_iff_iff]
  simp only [standing, List.filterMap_cons_some reversed, List.mem_cons, not_or,
    decide_eq_true_eq, Bool.and_eq_true]
  exact and_comm

/-- A new entry is standing. -/
theorem standing_new (reversible : Reversible key reverses undoes history) {entry : τ}
    (fresh : key entry ∉ history.map key) : standing key reverses history entry = true := by
  simp only [standing, decide_eq_true_eq]
  intro member
  exact fresh (reversible.reversed_known member)

/-- The total of a quantity that reversals negate is the total of the
effective entries. -/
theorem Reversible.sum_eq_effective {amount : τ → A}
    (reversible : Reversible key reverses undoes history)
    (negates : ∀ entry original, undoes entry original → amount entry = -amount original) :
    (history.map amount).sum =
      selectedSum amount (effective key reverses history) history := by
  induction reversible with
  | nil => simp [selectedSum]
  | @plain entry older earlier fresh plain ih =>
      have kept : selectedSum amount (effective key reverses (entry :: older)) older =
          selectedSum amount (effective key reverses older) older := by
        apply selectedSum_congr
        intro other member
        have otherKey : key entry ≠ key other := by
          intro same
          exact fresh (same ▸ List.mem_map_of_mem member)
        rw [effective, effective, standing_plain plain, reversalDepth_cons_of_ne otherKey]
      have counted : effective key reverses (entry :: older) entry = true := by
        rw [effective, standing_plain plain, standing_new earlier fresh,
          reversalDepth_self_plain plain]
        rfl
      rw [selectedSum_cons, counted, kept, List.map_cons, List.sum_cons, ih]
      rfl
  | @reversal entry original older earlier fresh member reversed first undone ih =>
      -- the reversed entry stops counting exactly when the reversal does not count
      have kept : selectedSum amount (effective key reverses (entry :: older)) older =
          selectedSum amount (fun other => effective key reverses older other &&
            decide (key other ≠ key original)) older := by
        apply selectedSum_congr
        intro other found
        have otherKey : key entry ≠ key other := by
          intro same
          exact fresh (same ▸ List.mem_map_of_mem found)
        rw [effective, effective, standing_reversal reversed,
          reversalDepth_cons_of_ne otherKey, Bool.and_right_comm]
      have stood : standing key reverses older original = true := by
        simpa only [standing, decide_eq_true_eq] using first
      have newKey : key entry ≠ key original := by
        intro same
        exact fresh (same ▸ List.mem_map_of_mem member)
      have alternates : effective key reverses (entry :: older) entry =
          !effective key reverses older original := by
        rw [effective, effective, standing_reversal reversed, standing_new earlier fresh,
          reversalDepth_self_reversal reversed, stood, Bool.true_and, Bool.true_and,
          decide_eq_true newKey, Bool.true_and, ← decide_not, decide_eq_decide]
        exact Nat.even_add_one
      rw [selectedSum_cons, kept, selectedSum_erase amount _ earlier.nodup member, alternates,
        List.map_cons, List.sum_cons, ih, negates entry original undone]
      cases effective key reverses older original with
      | false => simp
      | true =>
          simp only [Bool.not_true, Bool.false_eq_true, if_false, if_true]
          abel

/-- The total is carried by the active and the reinstating entries. -/
theorem Reversible.sum_eq_active_add_reinstating {amount : τ → A}
    (reversible : Reversible key reverses undoes history)
    (negates : ∀ entry original, undoes entry original → amount entry = -amount original) :
    (history.map amount).sum =
      selectedSum amount (active key reverses history) history +
        selectedSum amount (reinstating key reverses history) history := by
  rw [reversible.sum_eq_effective negates, ← selectedSum_or]
  · apply selectedSum_congr
    intro entry member
    cases reversed : reverses entry with
    | none =>
        have depth := reversible.depth_eq_zero member reversed
        simp [effective, active, reinstating, reversed, depth]
    | some original => simp [effective, active, reinstating, reversed]
  · intro entry _ both
    simp only [active, reinstating, Bool.and_eq_true, Option.isNone_iff_eq_none] at both
    simp [both.1.2] at both

end Lemmas

end AutoTrade.Lib
