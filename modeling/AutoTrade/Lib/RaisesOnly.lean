import AutoTrade.Lib.Dict
import AutoTrade.Lib.Raise

/-!
# The exceptions of a computation

A computation that raises nothing outside a class of exceptions.  The rules follow the
statements of a computation, so the class of a long one is found from its calls.
-/

namespace AutoTrade.Lib

variable {ε ε' α β σ : Type} {allowed : ε → Prop}

/-- Every exception of the computation is in the class. -/
def RaisesOnly (allowed : ε → Prop) (computation : Except ε α) : Prop :=
  ∀ error, computation = .error error → allowed error

theorem raisesOnly_ok {value : α} : RaisesOnly allowed (.ok value) := by
  intro error raised
  cases raised

theorem raisesOnly_pure {value : α} : RaisesOnly allowed (pure value) := raisesOnly_ok

theorem raisesOnly_throw {error : ε} (inside : allowed error) :
    RaisesOnly allowed (throw error : Except ε α) := by
  intro other raised
  cases raised
  exact inside

theorem raisesOnly_error {error : ε} (inside : allowed error) :
    RaisesOnly allowed (.error error : Except ε α) := raisesOnly_throw inside

theorem RaisesOnly.bind {first : Except ε α} {next : α → Except ε β}
    (head : RaisesOnly allowed first)
    (tail : ∀ value, first = .ok value → RaisesOnly allowed (next value)) :
    RaisesOnly allowed (first >>= next) := by
  intro error raised
  rcases bind_eq_error.mp raised with early | ⟨value, returned, late⟩
  · exact head error early
  · exact tail value returned error late

/-- A computation that is only continued. -/
theorem RaisesOnly.then {first : Except ε α} {next : α → Except ε β}
    (head : RaisesOnly allowed first) (tail : ∀ value, RaisesOnly allowed (next value)) :
    RaisesOnly allowed (first >>= next) :=
  head.bind fun value _ => tail value

theorem raisesOnly_ite {condition : Prop} [Decidable condition] {left right : Except ε α}
    (first : condition → RaisesOnly allowed left)
    (second : ¬ condition → RaisesOnly allowed right) :
    RaisesOnly allowed (if condition then left else right) := by
  split
  next holds => exact first holds
  next fails => exact second fails

theorem raisesOnly_mapError {image : ε' → ε} {computation : Except ε' α}
    (inside : ∀ error, allowed (image error)) :
    RaisesOnly allowed (computation.mapError image) := by
  intro error raised
  cases computation with
  | error original =>
      cases raised
      exact inside original
  | ok value => cases raised

theorem raisesOnly_mapM {body : α → Except ε β} {values : List α}
    (all : ∀ value ∈ values, RaisesOnly allowed (body value)) :
    RaisesOnly allowed (values.mapM body) := by
  induction values with
  | nil => exact raisesOnly_pure
  | cons value rest ih =>
      rw [List.forall_mem_cons] at all
      rw [List.mapM_cons]
      exact all.1.then fun _ => (ih all.2).then fun _ => raisesOnly_pure

theorem raisesOnly_foldlM {body : σ → α → Except ε σ} {values : List α} {state : σ}
    (all : ∀ value ∈ values, ∀ state, RaisesOnly allowed (body state value)) :
    RaisesOnly allowed (values.foldlM body state) := by
  induction values generalizing state with
  | nil => exact raisesOnly_pure
  | cons value rest ih =>
      rw [List.forall_mem_cons] at all
      rw [List.foldlM_cons]
      exact (all.1 state).then fun _ => ih all.2

theorem raisesOnly_map {image : α → β} {computation : Except ε α}
    (inner : RaisesOnly allowed computation) : RaisesOnly allowed (computation.map image) := by
  intro error raised
  cases computation with
  | error original =>
      cases raised
      exact inner _ rfl
  | ok value => cases raised

theorem raisesOnly_traverse {κ ν μ : Type} {dict : Dict κ ν} {body : κ → ν → Except ε μ}
    (all : ∀ entry ∈ dict.entries, RaisesOnly allowed (body entry.1 entry.2)) :
    RaisesOnly allowed (dict.traverse body) := by
  have entries : ∀ listed : List (κ × ν),
      (∀ entry ∈ listed, RaisesOnly allowed (body entry.1 entry.2)) →
      RaisesOnly allowed (Dict.traverseEntries body listed) := by
    intro listed inside
    induction listed with
    | nil => exact raisesOnly_ok
    | cons entry rest ih =>
        rw [List.forall_mem_cons] at inside
        rw [Dict.traverseEntries]
        split
        next error raised => exact raisesOnly_error (inside.1 error raised)
        next image _ =>
          split
          next error raised => exact raisesOnly_error (ih inside.2 error raised)
          next images _ => exact raisesOnly_ok
  rw [Dict.traverse]
  split
  next error raised => exact raisesOnly_error (entries dict.entries all error raised)
  next images _ => exact raisesOnly_ok

/-- A computation that raises nothing but excluded exceptions returns. -/
theorem RaisesOnly.returns {computation : Except ε α} (only : RaisesOnly allowed computation)
    (excluded : ∀ error, allowed error → computation ≠ .error error) :
    ∃ result, computation = .ok result := by
  cases outcome : computation with
  | error error => exact absurd outcome (excluded error (only error outcome))
  | ok result => exact ⟨result, rfl⟩

end AutoTrade.Lib
