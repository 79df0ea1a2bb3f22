import AutoTrade.Lib.Program

/-!
# Programs that may raise

A program over a shared state whose result is a value or an exception, with the
rules of the rely and guarantee judgement for it.  The postconditions are about
returned values.
-/

namespace AutoTrade.Lib

/-- A program that returns or raises. -/
abbrev Raising (σ ε α : Type) : Type := ExceptT ε (Program σ) α

namespace Raising

variable {σ ε α β : Type}

/-- A pure computation that may raise. -/
def ofExcept (result : Except ε α) : Raising σ ε α := ExceptT.mk (pure result)

/-- A transaction that only reads. -/
def read (view : σ → α) : Raising σ ε α := ExceptT.lift (Program.read view)

/-- One transaction that may raise. -/
def atomic (transaction : σ → σ × Except ε α) : Raising σ ε α :=
  ExceptT.mk (Program.atomic transaction)

/-- A program whose result and exception nobody awaits. -/
def detach (computation : Raising σ ε α) : Program σ Unit := (fun _ => ()) <$> computation.run

end Raising

/-- Moves that include waiting and only let the state grow. -/
class Growing {σ : Type} [Preorder σ] (moves : σ → σ → Prop) : Prop where
  idle : ∀ state, moves state state
  grows : ∀ {state later}, moves state later → state ≤ later

section Follows

variable {σ ε α β : Type} [Preorder σ] {moves : σ → σ → Prop} {known : σ} {post : σ → α → Prop}

/-- A program whose transactions are moves, with a postcondition on what it
returns. -/
def Follows (moves : σ → σ → Prop) (post : σ → α → Prop) (computation : Raising σ ε α)
    (known : σ) : Prop :=
  Program.Meets moves (Program.Returning post) computation.run known

theorem Follows.mono {computation : Raising σ ε α} {later : σ} (growth : known ≤ later)
    (follows : Follows moves post computation known) : Follows moves post computation later :=
  Program.Meets.mono growth follows

theorem Follows.detach {computation : Raising σ ε α}
    (follows : Follows moves post computation known) :
    Program.Meets moves (fun _ _ => True) computation.detach known :=
  Program.Meets.map follows fun _ _ _ => trivial

theorem follows_pure {value : α} (holds : ∀ state, known ≤ state → post state value) :
    Follows moves post (pure value : Raising σ ε α) known :=
  Program.meets_return holds

theorem follows_throw {error : ε} :
    Follows moves post (throw error : Raising σ ε α) known :=
  Program.meets_raise

/-- A check that raises, and the statements after it. -/
theorem follows_unless {condition : Prop} [Decidable condition] {error : ε}
    {rest : Unit → Raising σ ε α}
    (holds : ¬ condition → Follows moves post (rest ()) known) :
    Follows moves post (if condition then throw error >>= rest else rest ()) known := by
  split
  next => exact follows_throw
  next passed => exact holds passed

theorem follows_ofExcept {result : Except ε α}
    (holds : ∀ value, result = .ok value → ∀ state, known ≤ state → post state value) :
    Follows moves post (Raising.ofExcept result) known := by
  apply Program.meets_done
  intro state growth
  cases result with
  | ok value => exact holds value rfl state growth
  | error error => trivial

theorem follows_atomic {transaction : σ → σ × Except ε α}
    (step : ∀ state, known ≤ state → moves state (transaction state).1 ∧
      ∀ later, (transaction state).1 ≤ later →
        Program.Returning post later (transaction state).2) :
    Follows moves post (Raising.atomic transaction) known :=
  Program.meets_atomic step

variable [Growing moves]

theorem follows_bind {computation : Raising σ ε α} {following : α → Raising σ ε β}
    {final : σ → β → Prop} (first : Follows moves post computation known)
    (returned : ∀ state value, known ≤ state → post state value →
      Follows moves final (following value) state) :
    Follows moves final (computation >>= following) known :=
  Program.Meets.following Growing.grows first returned

/-- A pure computation before the rest. -/
theorem follows_ofExcept_bind {result : Except ε α} {following : α → Raising σ ε β}
    {final : σ → β → Prop}
    (returned : ∀ value, result = .ok value → Follows moves final (following value) known) :
    Follows moves final (Raising.ofExcept result >>= following) known := by
  have computed : Follows moves (fun _ value => result = .ok value)
      (Raising.ofExcept result : Raising σ ε α) known :=
    follows_ofExcept fun value same _ _ => same
  apply follows_bind computed
  intro state value growth same
  exact (returned value same).mono growth

theorem follows_read {view : σ → α}
    (holds : ∀ seen, known ≤ seen → ∀ state, seen ≤ state → post state (view seen)) :
    Follows moves post (Raising.read view : Raising σ ε α) known := by
  have reads : Program.Meets moves post (Program.read view) known :=
    Program.meets_read Growing.idle holds
  exact reads.map fun _ _ post => post

/-- A read about whose result nothing is said. -/
theorem follows_look {view : σ → α} :
    Follows moves (fun _ _ => True) (Raising.read view : Raising σ ε α) known :=
  follows_read fun _ _ _ _ => trivial

end Follows

end AutoTrade.Lib
