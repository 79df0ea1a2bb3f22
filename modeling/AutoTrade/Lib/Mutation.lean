import Mathlib.Logic.Basic

/-!
# Calls that mutate an object and may raise

A call reads an object, assigns to it and returns or raises; what it assigned
before it raised stays.  A call is atomic if raising leaves the object as it was,
which a call is whose checks all come before its assignments.
-/

namespace AutoTrade.Lib

/-- A call on an object. -/
abbrev Mutation (σ ε α : Type) : Type := ExceptT ε (StateM σ) α

namespace Mutation

variable {σ ε α β : Type}

/-- The result of a call and the object after it. -/
def on (call : Mutation σ ε α) (object : σ) : Except ε α × σ := call.run.run object

/-- A pure computation that may raise. -/
def checked (result : Except ε α) : Mutation σ ε α := ExceptT.mk (pure result)

/-- The object as it is now. -/
def self : Mutation σ ε σ := ExceptT.lift get

/-- An assignment to the object. -/
def assign (update : σ → σ) : Mutation σ ε Unit := ExceptT.lift (modify update)

section On

variable {call : Mutation σ ε α} {following : α → Mutation σ ε β} {object after : σ}

@[simp] theorem on_pure (value : α) : (pure value : Mutation σ ε α).on object =
    (.ok value, object) := rfl

@[simp] theorem on_throw (error : ε) : (throw error : Mutation σ ε α).on object =
    (.error error, object) := rfl

@[simp] theorem on_checked (result : Except ε α) :
    (checked result : Mutation σ ε α).on object = (result, object) := rfl

@[simp] theorem on_self : (self : Mutation σ ε σ).on object = (.ok object, object) := rfl

/-- What follows a call runs on the object that the call leaves. -/
theorem on_bind : (call >>= following).on object = match call.on object with
    | (.ok value, after) => (following value).on after
    | (.error error, after) => (.error error, after) := by
  rw [on, on, ExceptT.run_bind, StateT.run_bind]
  cases call.run.run object with
  | mk result after => cases result <;> rfl

theorem on_bind_ok {value : α} (returned : call.on object = (.ok value, after)) :
    (call >>= following).on object = (following value).on after := by
  rw [on_bind, returned]

end On

/-! ## Atomic calls -/

/-- A call that assigns nothing. -/
def Reads (call : Mutation σ ε α) : Prop := ∀ object, (call.on object).2 = object

/-- A call that does not raise. -/
def Returns (call : Mutation σ ε α) : Prop :=
  ∀ object, ∃ value after, call.on object = (.ok value, after)

/-- A call that leaves the object as it was where it raises. -/
def Atomic (call : Mutation σ ε α) : Prop :=
  ∀ object error after, call.on object = (.error error, after) → after = object

theorem reads_pure (value : α) : Reads (pure value : Mutation σ ε α) := fun _ => rfl

theorem reads_checked (result : Except ε α) : Reads (checked result : Mutation σ ε α) :=
  fun _ => rfl

theorem reads_self : Reads (self : Mutation σ ε σ) := fun _ => rfl

theorem returns_pure (value : α) : Returns (pure value : Mutation σ ε α) :=
  fun object => ⟨value, object, rfl⟩

theorem returns_assign (update : σ → σ) : Returns (assign update : Mutation σ ε Unit) :=
  fun object => ⟨(), update object, rfl⟩

section Rules

variable {call : Mutation σ ε α} {following : α → Mutation σ ε β}

theorem Returns.bind (returns : Returns call) (rest : ∀ value, Returns (following value)) :
    Returns (call >>= following) := by
  intro object
  obtain ⟨value, after, outcome⟩ := returns object
  rw [on_bind_ok outcome]
  exact rest value after

theorem atomic_throw (error : ε) : Atomic (throw error : Mutation σ ε α) := by
  intro object _ after raised
  rw [on_throw, Prod.mk.injEq] at raised
  exact raised.2.symm

theorem Reads.atomic (reads : Reads call) : Atomic call := by
  intro object error after raised
  have same := reads object
  rw [raised] at same
  exact same

theorem Returns.atomic (returns : Returns call) : Atomic call := by
  intro object error after raised
  obtain ⟨value, later, outcome⟩ := returns object
  rw [outcome] at raised
  cases raised

/-- Checks before the rest. -/
theorem Reads.atomic_bind (reads : Reads call) (rest : ∀ value, Atomic (following value)) :
    Atomic (call >>= following) := by
  intro object error after raised
  have same := reads object
  rw [on_bind] at raised
  cases outcome : call.on object with
  | mk result between =>
      rw [outcome] at same raised
      cases result with
      | ok value => exact (rest value between error after raised).trans same
      | error _ =>
          rw [Prod.mk.injEq] at raised
          exact raised.2.symm.trans same

/-- Assignments after the checks. -/
theorem Atomic.bind (atomic : Atomic call) (rest : ∀ value, Returns (following value)) :
    Atomic (call >>= following) := by
  intro object error after raised
  rw [on_bind] at raised
  cases outcome : call.on object with
  | mk result between =>
      rw [outcome] at raised
      cases result with
      | ok value =>
          obtain ⟨_, _, returned⟩ := rest value between
          dsimp only at raised
          rw [returned] at raised
          cases raised
      | error _ =>
          rw [Prod.mk.injEq] at raised
          exact atomic object _ after (raised.2 ▸ outcome)

theorem atomic_map (image : α → β) (atomic : Atomic call) : Atomic (image <$> call) := by
  rw [map_eq_pure_bind]
  exact atomic.bind fun value => returns_pure (image value)

/-- A check that raises, or the rest. -/
theorem atomic_guard {condition : Prop} [Decidable condition] {error : ε}
    {rest : Mutation σ ε α} (holds : Atomic rest) :
    Atomic (if condition then throw error else rest) := by
  split
  next => exact atomic_throw error
  next => exact holds

/-- A check that raises, and the statements after it. -/
theorem atomic_unless {condition : Prop} [Decidable condition] {error : ε}
    {rest : Unit → Mutation σ ε α} (holds : Atomic (rest ())) :
    Atomic (if condition then throw error >>= rest else rest ()) := by
  split
  next => exact atomic_throw error
  next => exact holds

end Rules

end Mutation

end AutoTrade.Lib
