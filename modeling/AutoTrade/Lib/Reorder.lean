import AutoTrade.Lib.Raise
import Mathlib.Data.List.Nodup
import Mathlib.Data.List.Perm.Basic

/-!
# Two runs of a computation that may raise

Two runs agree when both raise, with whatever errors, or both return related
values.  A loop over a list and the same loop over a permutation of it agree
although the error that is met first may differ.
-/

namespace AutoTrade.Lib

variable {ε α β γ δ : Type}

/-- Both runs raise, or both return and the values are related. -/
def Agree (related : α → β → Prop) : Except ε α → Except ε β → Prop
  | .ok left, .ok right => related left right
  | .error _, .error _ => True
  | .ok _, .error _ => False
  | .error _, .ok _ => False

namespace Agree

variable {related : α → β → Prop} {related' : γ → δ → Prop}

@[simp] theorem ok_ok {left : α} {right : β} :
    Agree (ε := ε) related (.ok left) (.ok right) ↔ related left right := Iff.rfl

@[simp] theorem error_error {left right : ε} :
    Agree related (.error left) (.error right) := trivial

theorem same (computation : Except ε α) : Agree Eq computation computation := by
  cases computation with
  | error error => exact error_error
  | ok value => exact ok_ok.mpr rfl

theorem bind {left : Except ε α} {right : Except ε β} {nextLeft : α → Except ε γ}
    {nextRight : β → Except ε δ} (first : Agree related left right)
    (next : ∀ fromLeft fromRight, left = .ok fromLeft → right = .ok fromRight →
      related fromLeft fromRight → Agree related' (nextLeft fromLeft) (nextRight fromRight)) :
    Agree related' (left >>= nextLeft) (right >>= nextRight) := by
  cases left with
  | error error =>
      cases right with
      | error other => exact error_error
      | ok value => exact first.elim
  | ok value =>
      cases right with
      | error other => exact first.elim
      | ok other => exact next value other rfl rfl first

/-- A statement that raises under one condition in both runs. -/
theorem guarded {condition : Prop} [Decidable condition] {left : Unit → Except ε α}
    {right : Unit → Except ε β} {error : ε}
    (next : ¬ condition → Agree related (left ()) (right ())) :
    Agree related (if condition then throw error >>= left else left ())
      (if condition then throw error >>= right else right ()) := by
  by_cases raises : condition
  · rw [if_pos raises, if_pos raises]
    exact error_error
  · rw [if_neg raises, if_neg raises]
    exact next raises

/-- Agreement on equal values is equality up to the error. -/
theorem toOption_eq {left right : Except ε α} (agree : Agree Eq left right) :
    left.toOption = right.toOption := by
  cases left with
  | error error =>
      cases right with
      | error other => rfl
      | ok value => exact agree.elim
  | ok value =>
      cases right with
      | error other => exact agree.elim
      | ok other => exact congrArg some agree

theorem trans {middle : α → α → Prop} {first second third : Except ε α}
    (compose : ∀ {a b c}, middle a b → middle b c → middle a c)
    (left : Agree middle first second) (right : Agree middle second third) :
    Agree middle first third := by
  cases first with
  | error error =>
      cases second with
      | error other => cases third with
        | error last => exact error_error
        | ok value => exact right.elim
      | ok value => exact left.elim
  | ok value =>
      cases second with
      | error other => exact left.elim
      | ok other => cases third with
        | error last => exact right.elim
        | ok last => exact compose left right

/-- Two runs that return together agree on nothing more. -/
theorem of_iff {left : Except ε α} {right : Except ε β}
    (together : (∃ value, left = .ok value) ↔ ∃ value, right = .ok value) :
    Agree (fun _ _ => True) left right := by
  cases left with
  | error error =>
      cases right with
      | error other => exact error_error
      | ok value => exact nomatch together.mpr ⟨value, rfl⟩
  | ok value =>
      cases right with
      | error other => exact nomatch together.mp ⟨value, rfl⟩
      | ok other => trivial

/-- A list comprehension over a permuted list yields a permutation. -/
theorem mapM_perm {values others : List α} (perm : values.Perm others)
    (body : α → Except ε β) :
    Agree List.Perm (values.mapM body) (others.mapM body) := by
  induction perm with
  | nil => exact List.Perm.refl _
  | @cons value rest rest' _ ih =>
      rw [List.mapM_cons, List.mapM_cons]
      apply bind (same (body value))
      rintro result _ _ _ rfl
      apply bind ih
      intro results results' _ _ related
      exact related.cons result
  | swap value other rest =>
      simp only [List.mapM_cons]
      cases first : body value with
      | error error =>
          cases second : body other with
          | error error' => exact error_error
          | ok result' => exact error_error
      | ok result =>
          cases second : body other with
          | error error' => exact error_error
          | ok result' =>
              simp only [ok_bind]
              cases rest.mapM body with
              | error error => exact error_error
              | ok results => exact List.Perm.swap result result' results
  | trans _ _ first second =>
      exact trans List.Perm.trans first second

/-- A loop of checks does not depend on the order. -/
theorem forM_perm {values others : List α} (perm : values.Perm others)
    (body : α → Except ε Unit) :
    Agree (fun _ _ => True) (values.forM body) (others.forM body) := by
  apply of_iff
  have returns : ∀ items : List α, (∃ value, items.forM body = .ok value) ↔
      ∀ item ∈ items, body item = .ok () := by
    intro items
    rw [← forM_eq_ok]
    constructor
    · rintro ⟨⟨⟩, success⟩
      exact success
    · intro success
      exact ⟨(), success⟩
  rw [returns, returns]
  constructor
  · intro passes item member
    exact passes item (perm.mem_iff.mpr member)
  · intro passes item member
    exact passes item (perm.mem_iff.mp member)

end Agree

end AutoTrade.Lib
