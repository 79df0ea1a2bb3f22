import AutoTrade.Lib.Raise

/-!
# Two runs of a computation

A computation mirrors another one when it returns wherever the other one does, with a related
result.  The rules follow the statements of both, so that two runs with different parameters
are compared statement by statement.
-/

namespace AutoTrade.Lib

variable {ε α β α' β' : Type} {related : α → β → Prop} {result : α' → β' → Prop}

/-- Where the first computation returns, the second one returns a related result. -/
def Mirrors (related : α → β → Prop) (first : Except ε α) (second : Except ε β) : Prop :=
  ∀ value, first = .ok value → ∃ image, second = .ok image ∧ related value image

theorem mirrors_pure {value : α} {image : β} (holds : related value image) :
    Mirrors related (pure value : Except ε α) (pure image) := by
  intro returned same
  cases same
  exact ⟨image, rfl, holds⟩

theorem Mirrors.bind {first : Except ε α} {second : Except ε β} {next : α → Except ε α'}
    {other : β → Except ε β'} (head : Mirrors related first second)
    (tail : ∀ value image, related value image → Mirrors result (next value) (other image)) :
    Mirrors result (first >>= next) (second >>= other) := by
  intro value returned
  obtain ⟨middle, firstEq, nextEq⟩ := bind_eq_ok.mp returned
  obtain ⟨image, secondEq, holds⟩ := head middle firstEq
  obtain ⟨finish, otherEq, final⟩ := tail middle image holds value nextEq
  exact ⟨finish, bind_eq_ok.mpr ⟨image, secondEq, otherEq⟩, final⟩

/-- Both computations start with one statement. -/
theorem mirrors_same {first : Except ε α} {next : α → Except ε α'} {other : α → Except ε β'}
    (tail : ∀ value, Mirrors result (next value) (other value)) :
    Mirrors result (first >>= next) (first >>= other) := by
  have head : Mirrors Eq first first := fun value returned => ⟨value, returned, rfl⟩
  exact head.bind fun value _ same => same ▸ tail value

end AutoTrade.Lib
