import Mathlib.Order.Basic
import Mathlib.Logic.Relation

/-!
# Interleaved programs over a shared state

A program is a tree of atomic transactions on a shared state.  A system runs any
number of programs, started at any time, one transaction at a time in any
order; a program that is never scheduled again has crashed.

`Meets` is a rely and guarantee judgement.  The rely is the order on shared
states, the guarantee is a relation `moves` that every transaction of the
program satisfies.
-/

namespace AutoTrade.Lib

/-- A tree of atomic transactions.  `next` receives the state the transaction
found. -/
inductive Program (σ α : Type) : Type where
  | done (result : α)
  | step (update : σ → σ) (next : σ → Program σ α)

namespace Program

variable {σ τ α β ε : Type}

/-- Sequential composition. -/
def bind : (program : Program σ α) → (following : α → Program σ β) → Program σ β
  | done result, following => following result
  | step update next, following => step update fun state => (next state).bind following

instance : Monad (Program σ) where
  pure := done
  bind := bind

/-- One transaction with a result. -/
def atomic (transaction : σ → σ × α) : Program σ α :=
  step (fun state => (transaction state).1) fun state => done (transaction state).2

/-- A transaction that only reads. -/
def read (view : σ → α) : Program σ α := step id fun state => done (view state)

/-- The run of a program without interference. -/
def run : (program : Program σ α) → (state : σ) → σ × α
  | done result, state => (state, result)
  | step update next, state => (next state).run (update state)

theorem run_bind (program : Program σ α) (following : α → Program σ β) (state : σ) :
    (program >>= following).run state =
      (following (program.run state).2).run (program.run state).1 := by
  induction program generalizing state with
  | done result => rfl
  | step update next ih => exact ih state (update state)

theorem run_map (image : α → β) (program : Program σ α) (state : σ) :
    ((image <$> program).run state).1 = (program.run state).1 :=
  congrArg Prod.fst (run_bind program (fun result => done (image result)) state)

section Meets

variable [Preorder σ]

/-- From the last state the program knows, whatever states grow from it, every
transaction is a move and the result satisfies the postcondition. -/
def Meets (moves : σ → σ → Prop) (post : σ → α → Prop) :
    (program : Program σ α) → (known : σ) → Prop
  | done result, known => ∀ state, known ≤ state → post state result
  | step update next, known => ∀ state, known ≤ state →
      moves state (update state) ∧ Meets moves post (next state) (update state)

variable {moves : σ → σ → Prop} {post : σ → α → Prop} {program : Program σ α} {known : σ}

/-- What a program meets it still meets when the state has grown. -/
theorem Meets.mono {later : σ} (growth : known ≤ later) (meets : Meets moves post program known) :
    Meets moves post program later := by
  cases program with
  | done result =>
      intro state further
      exact meets state (le_trans growth further)
  | step update next =>
      intro state further
      exact meets state (le_trans growth further)

theorem Meets.weaken {weaker : σ → α → Prop}
    (implied : ∀ state result, post state result → weaker state result)
    (meets : Meets moves post program known) : Meets moves weaker program known := by
  induction program generalizing known with
  | done result =>
      intro state growth
      exact implied state result (meets state growth)
  | step update next ih =>
      intro state growth
      obtain ⟨move, rest⟩ := meets state growth
      exact ⟨move, ih state rest⟩

/-- A guarantee that follows from another one. -/
theorem Meets.imp {wider : σ → σ → Prop} (implied : ∀ state later, moves state later →
    wider state later) (meets : Meets moves post program known) :
    Meets wider post program known := by
  induction program generalizing known with
  | done result => exact meets
  | step update next ih =>
      intro state growth
      obtain ⟨move, rest⟩ := meets state growth
      exact ⟨implied state _ move, ih state rest⟩

/-- What two judgements say of one program. -/
theorem Meets.both {others : σ → σ → Prop} {other : σ → α → Prop}
    (meets : Meets moves post program known) (also : Meets others other program known) :
    Meets moves (fun state result => post state result ∧ other state result) program known := by
  induction program generalizing known with
  | done result =>
      intro state growth
      exact ⟨meets state growth, also state growth⟩
  | step update next ih =>
      intro state growth
      obtain ⟨move, rest⟩ := meets state growth
      exact ⟨move, ih state rest (also state growth).2⟩

/-- A run without interference stays in a state that no move leaves. -/
theorem Meets.run_eq (stays : ∀ later, moves known later → later = known)
    (meets : Meets moves post program known) : (program.run known).1 = known := by
  induction program with
  | done result => rfl
  | step update next ih =>
      obtain ⟨move, rest⟩ := meets known le_rfl
      have same := stays _ move
      rw [same] at rest
      rw [run, same]
      exact ih known rest

/-- The next transaction of a program. -/
theorem Meets.next {update : σ → σ} {next : σ → Program σ α}
    (meets : Meets moves post (step update next) known) :
    moves known (update known) ∧ Meets moves post (next known) (update known) :=
  meets known le_rfl

theorem meets_done {result : α} (holds : ∀ state, known ≤ state → post state result) :
    Meets moves post (done result) known := holds

theorem meets_atomic {transaction : σ → σ × α}
    (step : ∀ state, known ≤ state → moves state (transaction state).1 ∧
      ∀ later, (transaction state).1 ≤ later → post later (transaction state).2) :
    Meets moves post (atomic transaction) known := step

theorem meets_read {view : σ → α} (idle : ∀ state, moves state state)
    (holds : ∀ state, known ≤ state → ∀ later, state ≤ later → post later (view state)) :
    Meets moves post (read view) known := by
  intro state growth
  exact ⟨idle state, holds state growth⟩

/-- The rule of sequential composition. -/
theorem Meets.bind {following : α → Program σ β} {final : σ → β → Prop}
    (meets : Meets moves post program known)
    (rest : ∀ state result, known ≤ state → post state result →
      Meets moves final (following result) state)
    (grown : ∀ {state later}, moves state later → state ≤ later) :
    Meets moves final (program >>= following) known := by
  induction program generalizing known with
  | done result => exact rest known result le_rfl (meets known le_rfl)
  | step update next ih =>
      intro state growth
      obtain ⟨move, tail⟩ := meets state growth
      refine ⟨move, ih state tail ?_⟩
      intro later result further holds
      exact rest later result (le_trans (le_trans growth (grown move)) further) holds

/-- A program ends in a state that grew from where it started. -/
theorem Meets.after (grown : ∀ {state later}, moves state later → state ≤ later) {origin : σ}
    (growth : origin ≤ known) (meets : Meets moves post program known) :
    Meets moves (fun state result => origin ≤ state ∧ post state result) program known := by
  induction program generalizing known with
  | done result =>
      intro state further
      exact ⟨growth.trans further, meets state further⟩
  | step update next ih =>
      intro state further
      obtain ⟨move, tail⟩ := meets state further
      exact ⟨move, ih state (growth.trans (further.trans (grown move))) tail⟩

/-- A program whose result is converted. -/
theorem Meets.map {image : α → β} {final : σ → β → Prop}
    (meets : Meets moves post program known)
    (implied : ∀ state result, post state result → final state (image result)) :
    Meets moves final (image <$> program) known := by
  induction program generalizing known with
  | done result =>
      intro state growth
      exact implied state result (meets state growth)
  | step update next ih =>
      intro state growth
      obtain ⟨move, tail⟩ := meets state growth
      exact ⟨move, ih state tail⟩

/-! ## Programs that may raise -/

/-- Sequential composition where an exception ends the program. -/
theorem Meets.andThen {computation : ExceptT ε (Program σ) α}
    {following : α → ExceptT ε (Program σ) β} {middle : σ → Except ε α → Prop}
    {final : σ → Except ε β → Prop}
    (grown : ∀ {state later}, moves state later → state ≤ later)
    (meets : Meets moves middle computation.run known)
    (returned : ∀ state result, known ≤ state → middle state (.ok result) →
      Meets moves final (following result).run state)
    (raised : ∀ state error, known ≤ state → middle state (.error error) →
      ∀ later, state ≤ later → final later (.error error)) :
    Meets moves final (computation >>= following : ExceptT ε (Program σ) β).run known := by
  refine Meets.bind meets ?_ grown
  intro state result growth holds
  cases result with
  | ok value => exact returned state value growth holds
  | error error => exact meets_done (raised state error growth holds)

/-- A postcondition on returned values only. -/
def Returning (post : σ → α → Prop) (state : σ) : Except ε α → Prop
  | .ok value => post state value
  | .error _ => True

/-- Sequential composition where nothing is said about exceptions. -/
theorem Meets.following {computation : ExceptT ε (Program σ) α}
    {following : α → ExceptT ε (Program σ) β} {middle : σ → α → Prop} {final : σ → β → Prop}
    (grown : ∀ {state later}, moves state later → state ≤ later)
    (meets : Meets moves (Returning middle) computation.run known)
    (returned : ∀ state result, known ≤ state → middle state result →
      Meets moves (Returning final) (following result).run state) :
    Meets moves (Returning final)
      (computation >>= following : ExceptT ε (Program σ) β).run known :=
  Meets.andThen grown meets returned fun _ _ _ _ _ _ => trivial

theorem meets_return {value : α} {middle : σ → α → Prop}
    (holds : ∀ state, known ≤ state → middle state value) :
    Meets moves (Returning middle) (pure value : ExceptT ε (Program σ) α).run known :=
  meets_done holds

theorem meets_raise {error : ε} {middle : σ → α → Prop} :
    Meets moves (Returning middle) (throw error : ExceptT ε (Program σ) α).run known :=
  meets_done fun _ _ => trivial

attribute [irreducible] Meets

end Meets

end Program

/-! ## Systems -/

/-- A shared state and the programs that run on it. -/
structure System (σ : Type) where
  shared : σ
  pool : List (Program σ Unit)

namespace System

variable {σ : Type}

/-- One step of a system: a program of the pool takes its next transaction, a
program starts, or something outside the pool changes the state. -/
inductive Steps (starts : σ → σ → Program σ Unit → Prop) (outside : σ → σ → Prop) :
    System σ → System σ → Prop where
  | transaction {system : System σ} {index : Nat} {update : σ → σ}
      {next : σ → Program σ Unit} (picked : system.pool[index]? = some (.step update next)) :
      Steps starts outside system
        ⟨update system.shared, system.pool.set index (next system.shared)⟩
  | start {system : System σ} {later : σ} {program : Program σ Unit}
      (started : starts system.shared later program) :
      Steps starts outside system ⟨later, system.pool ++ [program]⟩
  | outside {system : System σ} {later : σ} (moved : outside system.shared later) :
      Steps starts outside system ⟨later, system.pool⟩

/-- Every interleaving. -/
def Runs (starts : σ → σ → Program σ Unit → Prop) (outside : σ → σ → Prop) :
    System σ → System σ → Prop :=
  Relation.ReflTransGen (Steps starts outside)

/-- The next transaction of one program of the pool, if it has one. -/
def advance (system : System σ) (index : Nat) : System σ :=
  match system.pool[index]? with
  | some (.step update next) =>
      ⟨update system.shared, system.pool.set index (next system.shared)⟩
  | _ => system

/-- A schedule names the program that moves next. -/
def play (system : System σ) (schedule : List Nat) : System σ := schedule.foldl advance system

section Play

variable {starts : σ → σ → Program σ Unit → Prop} {outside : σ → σ → Prop}

theorem runs_advance (system : System σ) (index : Nat) :
    Runs starts outside system (system.advance index) := by
  unfold advance
  split
  · rename_i picked
    exact .single (.transaction picked)
  · exact .refl

/-- A program of the pool may run to its end without interference. -/
theorem runs_alone (state : σ) (pool : List (Program σ Unit)) (program : Program σ Unit) :
    Runs starts outside ⟨state, pool ++ [program]⟩
      ⟨(program.run state).1, pool ++ [.done ()]⟩ := by
  induction program generalizing state with
  | done result => exact .refl
  | step update next ih =>
      have picked : (pool ++ [Program.step update next])[pool.length]? =
          some (.step update next) := List.getElem?_concat_length
      have taken : Steps starts outside ⟨state, pool ++ [.step update next]⟩ _ :=
        .transaction picked
      rw [List.set_append_right _ _ (Nat.le_refl _), Nat.sub_self, List.set_cons_zero] at taken
      exact Relation.ReflTransGen.head taken (ih state (update state))

/-- Every schedule is an interleaving. -/
theorem runs_play (system : System σ) (schedule : List Nat) :
    Runs starts outside system (system.play schedule) := by
  induction schedule generalizing system with
  | nil => exact .refl
  | cons index schedule ih => exact (runs_advance system index).trans (ih _)

end Play

variable [Preorder σ] {starts : σ → σ → Program σ Unit → Prop} {outside moves : σ → σ → Prop}

/-- Every program of the pool still meets its guarantee. -/
def Guaranteed (moves : σ → σ → Prop) (system : System σ) : Prop :=
  ∀ program ∈ system.pool, Program.Meets moves (fun _ _ => True) program system.shared

/-- One step of a system of guaranteed programs is a move, and leaves the
programs guaranteed. -/
theorem Steps.guaranteed (grown : ∀ {state later}, moves state later → state ≤ later)
    (starting : ∀ {state later program}, starts state later program → moves state later ∧
      Program.Meets moves (fun _ _ => True) program later)
    (moving : ∀ {state later}, outside state later → moves state later)
    {system next : System σ} (guaranteed : system.Guaranteed moves)
    (steps : Steps starts outside system next) :
    moves system.shared next.shared ∧ next.Guaranteed moves := by
  cases steps with
  | @transaction index update next picked =>
      obtain ⟨move, rest⟩ := (guaranteed _ (List.mem_of_getElem? picked)).next
      refine ⟨move, ?_⟩
      intro program member
      rcases List.mem_or_eq_of_mem_set member with kept | rfl
      · exact (guaranteed program kept).mono (grown move)
      · exact rest
  | @start later program started =>
      obtain ⟨move, fresh⟩ := starting started
      refine ⟨move, ?_⟩
      intro other member
      rcases List.mem_append.mp member with kept | added
      · exact (guaranteed other kept).mono (grown move)
      · rw [List.mem_singleton.mp added]
        exact fresh
  | @outside later moved =>
      refine ⟨moving moved, ?_⟩
      intro program member
      exact (guaranteed program member).mono (grown (moving moved))

/-- Guaranteed programs move the shared state only by moves, in every
interleaving. -/
theorem Runs.guaranteed (grown : ∀ {state later}, moves state later → state ≤ later)
    (starting : ∀ {state later program}, starts state later program → moves state later ∧
      Program.Meets moves (fun _ _ => True) program later)
    (moving : ∀ {state later}, outside state later → moves state later)
    {system final : System σ} (guaranteed : system.Guaranteed moves)
    (runs : Runs starts outside system final) :
    Relation.ReflTransGen moves system.shared final.shared ∧ final.Guaranteed moves := by
  induction runs with
  | refl => exact ⟨.refl, guaranteed⟩
  | tail _ last ih =>
      obtain ⟨reached, kept⟩ := ih
      obtain ⟨move, after⟩ := last.guaranteed grown starting moving kept
      exact ⟨reached.tail move, after⟩

end System

end AutoTrade.Lib
