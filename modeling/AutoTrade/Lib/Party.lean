import AutoTrade.Lib.Raising

/-!
# Programs of one party

A party runs its programs one after the other on a shared state that others
change between its transactions.  `Ends` relates where a program starts to how
it ends, and `Ensures` is the weakest precondition of that relation.

A party also has a state of its own, which survives exceptions: a call that
raises keeps what it changed before.
-/

namespace AutoTrade.Lib

namespace Program

variable {σ α β : Type} {outside : σ → σ → Prop} {post : σ → α → Prop} {state final : σ}

/-- A program from its first transaction to its result, with the changes of
others after each transaction. -/
inductive Ends (outside : σ → σ → Prop) : Program σ α → σ → σ → α → Prop where
  | done (result : α) (state : σ) : Ends outside (.done result) state state result
  | step {update : σ → σ} {next : σ → Program σ α} {state between final : σ} {result : α}
      (others : Relation.ReflTransGen outside (update state) between)
      (rest : Ends outside (next state) between final result) :
      Ends outside (.step update next) state final result

/-- What a program does among others it can do among more of them. -/
theorem Ends.mono {wider : σ → σ → Prop} {program : Program σ α} {result : α}
    (implied : ∀ state later, outside state later → wider state later)
    (ends : Ends outside program state final result) : Ends wider program state final result := by
  induction ends with
  | done result state => exact .done result state
  | step others _ ih => exact .step (Relation.ReflTransGen.mono implied _ _ others) ih

/-- A run without interference. -/
theorem ends_run (program : Program σ α) (state : σ) :
    Ends outside program state (program.run state).1 (program.run state).2 := by
  induction program generalizing state with
  | done result => exact .done result state
  | step update next ih => exact .step .refl (ih state (update state))

/-- However the program ends, it ends in the postcondition. -/
def Ensures (outside : σ → σ → Prop) (post : σ → α → Prop) : (program : Program σ α) →
    (state : σ) → Prop
  | done result, state => post state result
  | step update next, state => ∀ between, Relation.ReflTransGen outside (update state) between →
      Ensures outside post (next state) between

theorem Ensures.ends {program : Program σ α} {result : α}
    (ensures : Ensures outside post program state)
    (ends : Ends outside program state final result) : post final result := by
  induction ends with
  | done result state => exact ensures
  | step others _ ih => exact ih (ensures _ others)

theorem Ensures.imp {weaker : σ → α → Prop} {program : Program σ α}
    (implied : ∀ state result, post state result → weaker state result)
    (ensures : Ensures outside post program state) : Ensures outside weaker program state := by
  induction program generalizing state with
  | done result => exact implied state result ensures
  | step update next ih =>
      intro between others
      exact ih state (ensures between others)

/-- The rule of sequential composition. -/
theorem Ensures.bind {program : Program σ α} {following : α → Program σ β} {last : σ → β → Prop}
    (ensures : Ensures outside (fun state result => Ensures outside last (following result) state)
      program state) :
    Ensures outside last (program >>= following) state := by
  induction program generalizing state with
  | done result => exact ensures
  | step update next ih =>
      intro between others
      exact ih state (ensures between others)

theorem Ensures.map {program : Program σ α} {image : α → β} {last : σ → β → Prop}
    (ensures : Ensures outside (fun state result => last state (image result)) program state) :
    Ensures outside last (image <$> program) state :=
  Ensures.bind (ensures.imp fun _ _ holds => holds)

theorem Ensures.and {other : σ → α → Prop} {program : Program σ α}
    (ensures : Ensures outside post program state)
    (besides : Ensures outside other program state) :
    Ensures outside (fun state result => post state result ∧ other state result) program state := by
  induction program generalizing state with
  | done result => exact ⟨ensures, besides⟩
  | step update next ih =>
      intro between others
      exact ih state (ensures between others) (besides between others)

/-- What holds among others holds among fewer of them. -/
theorem Ensures.among {wider : σ → σ → Prop} {program : Program σ α}
    (implied : ∀ state later, outside state later → wider state later)
    (ensures : Ensures wider post program state) : Ensures outside post program state := by
  induction program generalizing state with
  | done result => exact ensures
  | step update next ih =>
      intro between others
      exact ih state (ensures between (Relation.ReflTransGen.mono implied _ _ others))

/-- Every program ends somewhere. -/
theorem ensures_trivial (program : Program σ α) (state : σ) :
    Ensures outside (fun _ _ => True) program state := by
  induction program generalizing state with
  | done result => trivial
  | step update next ih => exact fun between _ => ih state between

/-- A program whose transactions let the state grow, among others that do. -/
theorem Meets.ensures_le [Preorder σ] {moves : σ → σ → Prop} {program : Program σ α}
    (grown : ∀ {state later}, moves state later → state ≤ later)
    (within : ∀ state later, outside state later → state ≤ later)
    (meets : Meets moves post program state) :
    Ensures outside (fun later _ => state ≤ later) program state := by
  induction program generalizing state with
  | done result => exact le_rfl
  | step update next ih =>
      intro between others
      obtain ⟨move, rest⟩ := meets.next
      have growth : update state ≤ between := by
        induction others with
        | refl => exact le_rfl
        | tail _ last further => exact further.trans (within _ _ last)
      apply (ih state (rest.mono growth)).imp
      exact fun later _ more => (grown move).trans (growth.trans more)

/-- No transaction of the program changes the shared state. -/
def Quiet : (program : Program σ α) → Prop
  | done _ => True
  | step update next => (∀ state, update state = state) ∧ ∀ state, Quiet (next state)

/-- Only others change the shared state under a quiet program. -/
theorem Quiet.ensures {program : Program σ α} (quiet : Quiet program) (state : σ) :
    Ensures outside (fun later _ => Relation.ReflTransGen outside state later) program state := by
  induction program generalizing state with
  | done result => exact .refl
  | step update next ih =>
      intro between others
      rw [quiet.1 state] at others
      apply (ih state (quiet.2 state) between).imp
      exact fun later _ reached => others.trans reached

/-- A quiet program without interference. -/
theorem Quiet.run_eq {program : Program σ α} (quiet : Quiet program) (state : σ) :
    (program.run state).1 = state := by
  induction program with
  | done result => rfl
  | step update next ih =>
      rw [run, quiet.1 state]
      exact ih state (quiet.2 state)

theorem Quiet.bind {program : Program σ α} {following : α → Program σ β} (quiet : Quiet program)
    (rest : ∀ result, Quiet (following result)) : Quiet (program >>= following) := by
  induction program with
  | done result => exact rest result
  | step update next ih => exact ⟨quiet.1, fun state => ih state (quiet.2 state)⟩

end Program

/-! ## Programs that may raise -/

namespace Raising

variable {σ ε α β : Type} {outside : σ → σ → Prop} {returned : σ → α → Prop} {raised : σ → Prop}
  {state : σ}

/-- A postcondition on returned values and one on exceptions. -/
def Ensures (outside : σ → σ → Prop) (returned : σ → α → Prop) (raised : σ → Prop)
    (computation : Raising σ ε α) (state : σ) : Prop :=
  Program.Ensures outside (fun state result => match result with
    | .ok value => returned state value
    | .error _ => raised state) computation.run state

theorem Ensures.imp {computation : Raising σ ε α} {weaker : σ → α → Prop} {weakly : σ → Prop}
    (ensures : Ensures outside returned raised computation state)
    (returns : ∀ state value, returned state value → weaker state value)
    (raises : ∀ state, raised state → weakly state) :
    Ensures outside weaker weakly computation state := by
  apply Program.Ensures.imp _ ensures
  intro state result holds
  cases result with
  | ok value => exact returns state value holds
  | error error => exact raises state holds

theorem Ensures.ends {computation : Raising σ ε α} {final : σ} {value : α}
    (ensures : Ensures outside returned raised computation state)
    (ends : Program.Ends outside computation.run state final (.ok value)) :
    returned final value := by
  have holds : Program.Ensures outside (fun state result => match result with
    | .ok value => returned state value
    | .error _ => raised state) computation.run state := ensures
  exact holds.ends ends

theorem Ensures.and {computation : Raising σ ε α} {other : σ → α → Prop} {either : σ → Prop}
    (ensures : Ensures outside returned raised computation state)
    (besides : Ensures outside other either computation state) :
    Ensures outside (fun state value => returned state value ∧ other state value)
      (fun state => raised state ∧ either state) computation state := by
  apply (Program.Ensures.and ensures besides).imp
  intro state result both
  cases result <;> exact both

theorem ensures_pure {value : α} (holds : returned state value) :
    Ensures outside returned raised (pure value : Raising σ ε α) state := holds

theorem ensures_bind {computation : Raising σ ε α} {following : α → Raising σ ε β}
    {last : σ → β → Prop}
    (ensures : Ensures outside (fun state value => Ensures outside last raised (following value)
      state) raised computation state) :
    Ensures outside last raised (computation >>= following) state := by
  apply Program.Ensures.bind
  apply Program.Ensures.imp _ ensures
  intro state result holds
  cases result with
  | ok value => exact holds
  | error error => exact holds

/-- A check that raises, and the statements after it. -/
theorem ensures_unless {condition : Prop} [Decidable condition] {error : ε}
    {rest : Unit → Raising σ ε α} (raises : condition → raised state)
    (holds : ¬ condition → Ensures outside returned raised (rest ()) state) :
    Ensures outside returned raised (if condition then throw error >>= rest else rest ())
      state := by
  split
  next failed => exact raises failed
  next passed => exact holds passed

theorem ensures_ofExcept {result : Except ε α}
    (returns : ∀ value, result = .ok value → returned state value)
    (raises : ∀ error, result = .error error → raised state) :
    Ensures outside returned raised (ofExcept result) state := by
  cases result with
  | ok value => exact returns value rfl
  | error error => exact raises error rfl

theorem ensures_read {view : σ → α}
    (holds : ∀ between, Relation.ReflTransGen outside state between →
      returned between (view state)) :
    Ensures outside returned raised (read view : Raising σ ε α) state := holds

theorem ensures_atomic {transaction : σ → σ × Except ε α}
    (returns : ∀ value, (transaction state).2 = .ok value →
      ∀ between, Relation.ReflTransGen outside (transaction state).1 between →
        returned between value)
    (raises : ∀ error, (transaction state).2 = .error error →
      ∀ between, Relation.ReflTransGen outside (transaction state).1 between → raised between) :
    Ensures outside returned raised (atomic transaction) state := by
  intro between others
  change match (transaction state).2 with
    | .ok value => returned between value
    | .error _ => raised between
  cases found : (transaction state).2 with
  | ok value => exact returns value found between others
  | error error => exact raises error found between others

/-- The state grows under a computation of growing transactions. -/
theorem ensures_le_of_follows [Preorder σ] {moves : σ → σ → Prop} [Growing moves]
    {computation : Raising σ ε α} {post : σ → α → Prop}
    (within : ∀ state later, outside state later → state ≤ later)
    (follows : Follows moves post computation state) :
    Ensures outside (fun later _ => state ≤ later) (fun later => state ≤ later) computation
      state := by
  apply (Program.Meets.ensures_le Growing.grows within follows).imp
  intro later result growth
  cases result <;> exact growth

/-- No transaction changes the shared state. -/
def Quiet (computation : Raising σ ε α) : Prop := Program.Quiet computation.run

theorem quiet_pure (value : α) : Quiet (pure value : Raising σ ε α) := trivial

theorem quiet_read (view : σ → α) : Quiet (read view : Raising σ ε α) :=
  ⟨fun _ => rfl, fun _ => trivial⟩

theorem quiet_ofExcept (result : Except ε α) : Quiet (ofExcept result : Raising σ ε α) := trivial

theorem Quiet.bind {computation : Raising σ ε α} {following : α → Raising σ ε β}
    (quiet : Quiet computation) (rest : ∀ value, Quiet (following value)) :
    Quiet (computation >>= following) := by
  apply Program.Quiet.bind quiet
  intro result
  cases result with
  | ok value => exact rest value
  | error error => exact trivial

end Raising

/-! ## A party with a state of its own -/

/-- A program of a party that returns or raises. -/
abbrev Party (σ τ ε α : Type) : Type := ExceptT ε (StateT τ (Program σ)) α

namespace Party

variable {σ τ ε α β : Type} {outside : σ → σ → Prop} {returned : σ → τ → α → Prop}
  {raised : σ → τ → Prop} {state : σ} {own : τ}

/-- A program on the shared state. -/
def ask (computation : Raising σ ε α) : Party σ τ ε α :=
  ExceptT.mk (StateT.mk fun own => (fun result => (result, own)) <$> computation.run)

/-- A pure computation that may raise. -/
def ofExcept (result : Except ε α) : Party σ τ ε α := ExceptT.mk (pure result)

/-- A change of the party's own state, kept also when it raises. -/
def change (transform : τ → τ × Except ε α) : Party σ τ ε α :=
  ExceptT.mk (StateT.mk fun own => pure ((transform own).2, (transform own).1))

/-- A change of the party's own state, or an exception that leaves it as it is. -/
def update (transform : τ → Except ε τ) : Party σ τ ε Unit :=
  change fun own => match transform own with
    | .ok next => (next, .ok ())
    | .error error => (own, .error error)

/-- How a call of a party ends. -/
def Ends (outside : σ → σ → Prop) (computation : Party σ τ ε α) (state : σ) (own : τ)
    (final : σ) (after : τ) (result : Except ε α) : Prop :=
  Program.Ends outside (computation.run.run own) state final (result, after)

/-- A call without interference. -/
def play (computation : Party σ τ ε α) (state : σ) (own : τ) : σ × Except ε α × τ :=
  (computation.run.run own).run state

theorem ends_play (computation : Party σ τ ε α) (state : σ) (own : τ) :
    Ends outside computation state own (computation.play state own).1
      (computation.play state own).2.2 (computation.play state own).2.1 :=
  Program.ends_run _ state

/-- A postcondition on returned values and one on exceptions. -/
def Ensures (outside : σ → σ → Prop) (returned : σ → τ → α → Prop) (raised : σ → τ → Prop)
    (computation : Party σ τ ε α) (state : σ) (own : τ) : Prop :=
  Program.Ensures outside (fun state result => match result.1 with
    | .ok value => returned state result.2 value
    | .error _ => raised state result.2) (computation.run.run own) state

theorem Ensures.ends {computation : Party σ τ ε α} {final : σ} {after : τ} {result : Except ε α}
    (ensures : Ensures outside returned raised computation state own)
    (ends : Ends outside computation state own final after result) :
    (∀ value, result = .ok value → returned final after value) ∧
      (∀ error, result = .error error → raised final after) := by
  have holds := Program.Ensures.ends ensures ends
  cases result with
  | ok value =>
      constructor
      · rintro _ ⟨⟩
        exact holds
      · exact fun _ same => by cases same
  | error error =>
      constructor
      · exact fun _ same => by cases same
      · rintro _ ⟨⟩
        exact holds

theorem Ensures.imp {computation : Party σ τ ε α} {weaker : σ → τ → α → Prop}
    {weakly : σ → τ → Prop} (ensures : Ensures outside returned raised computation state own)
    (returns : ∀ state own value, returned state own value → weaker state own value)
    (raises : ∀ state own, raised state own → weakly state own) :
    Ensures outside weaker weakly computation state own := by
  apply Program.Ensures.imp _ ensures
  rintro state ⟨result, after⟩ holds
  cases result with
  | ok value => exact returns state after value holds
  | error error => exact raises state after holds

theorem Ensures.and {computation : Party σ τ ε α} {other : σ → τ → α → Prop} {either : σ → τ → Prop}
    (ensures : Ensures outside returned raised computation state own)
    (besides : Ensures outside other either computation state own) :
    Ensures outside (fun state own value => returned state own value ∧ other state own value)
      (fun state own => raised state own ∧ either state own) computation state own := by
  apply (Program.Ensures.and ensures besides).imp
  rintro state ⟨result, after⟩ both
  cases result <;> exact both

theorem Ensures.among {wider : σ → σ → Prop} {computation : Party σ τ ε α}
    (implied : ∀ state later, outside state later → wider state later)
    (ensures : Ensures wider returned raised computation state own) :
    Ensures outside returned raised computation state own :=
  Program.Ensures.among implied ensures

theorem Ends.mono {wider : σ → σ → Prop} {computation : Party σ τ ε α} {final : σ} {after : τ}
    {result : Except ε α} (implied : ∀ state later, outside state later → wider state later)
    (ends : Ends outside computation state own final after result) :
    Ends wider computation state own final after result :=
  Program.Ends.mono implied ends

theorem ensures_pure {value : α} (holds : returned state own value) :
    Ensures outside returned raised (pure value : Party σ τ ε α) state own := holds

theorem ensures_throw {error : ε} (holds : raised state own) :
    Ensures outside returned raised (throw error : Party σ τ ε α) state own := holds

theorem ensures_bind {computation : Party σ τ ε α} {following : α → Party σ τ ε β}
    {last : σ → τ → β → Prop}
    (ensures : Ensures outside (fun state own value => Ensures outside last raised
      (following value) state own) raised computation state own) :
    Ensures outside last raised (computation >>= following) state own := by
  apply Program.Ensures.bind
  apply Program.Ensures.imp _ ensures
  rintro state ⟨result, after⟩ holds
  cases result with
  | ok value => exact holds
  | error error => exact holds

/-- A read of the party's own state. -/
theorem ensures_get {following : τ → Party σ τ ε α}
    (holds : Ensures outside returned raised (following own) state own) :
    Ensures outside returned raised (get >>= following) state own := holds

theorem ensures_unless {condition : Prop} [Decidable condition] {error : ε}
    {rest : Unit → Party σ τ ε α} (raises : condition → raised state own)
    (holds : ¬ condition → Ensures outside returned raised (rest ()) state own) :
    Ensures outside returned raised (if condition then throw error >>= rest else rest ())
      state own := by
  split
  next failed => exact raises failed
  next passed => exact holds passed

theorem ensures_ofExcept {result : Except ε α}
    (returns : ∀ value, result = .ok value → returned state own value)
    (raises : ∀ error, result = .error error → raised state own) :
    Ensures outside returned raised (ofExcept result) state own := by
  cases result with
  | ok value => exact returns value rfl
  | error error => exact raises error rfl

theorem ensures_ask {computation : Raising σ ε α}
    (ensures : Raising.Ensures outside (fun state value => returned state own value)
      (fun state => raised state own) computation state) :
    Ensures outside returned raised (ask computation) state own := by
  apply Program.Ensures.map
  apply Program.Ensures.imp _ ensures
  intro state result holds
  cases result with
  | ok value => exact holds
  | error error => exact holds

/-- A program on the shared state leaves the party's own state alone. -/
theorem ensures_ask_own (computation : Raising σ ε α) :
    Ensures outside (fun _ after _ => after = own) (fun _ after => after = own)
      (ask computation : Party σ τ ε α) state own := by
  apply ensures_ask
  apply Program.Ensures.imp _ (Program.ensures_trivial _ state)
  intro state result _
  cases result <;> rfl

theorem ensures_change {transform : τ → τ × Except ε α}
    (returns : ∀ value, (transform own).2 = .ok value → returned state (transform own).1 value)
    (raises : ∀ error, (transform own).2 = .error error → raised state (transform own).1) :
    Ensures outside returned raised (change transform) state own := by
  change match (transform own).2 with
    | .ok value => returned state (transform own).1 value
    | .error _ => raised state (transform own).1
  cases found : (transform own).2 with
  | ok value => exact returns value found
  | error error => exact raises error found

theorem ensures_update {transform : τ → Except ε τ} {returned : σ → τ → Unit → Prop}
    (returns : ∀ next, transform own = .ok next → returned state next ())
    (raises : ∀ error, transform own = .error error → raised state own) :
    Ensures outside returned raised (update transform) state own := by
  unfold update
  cases found : transform own with
  | ok next =>
      apply ensures_change
      · intro _ _
        simpa [found] using returns next found
      · intro _ failed
        simp [found] at failed
  | error error =>
      apply ensures_change
      · intro _ succeeded
        simp [found] at succeeded
      · intro _ _
        simpa [found] using raises error found

/-- No transaction changes the shared state. -/
def Quiet (computation : Party σ τ ε α) : Prop :=
  ∀ own, Program.Quiet (computation.run.run own)

/-- Only others change the shared state under a quiet call. -/
theorem Quiet.ends {computation : Party σ τ ε α} (quiet : Quiet computation) {final : σ}
    {after : τ} {result : Except ε α}
    (ends : Ends outside computation state own final after result) :
    Relation.ReflTransGen outside state final :=
  ((quiet own).ensures state).ends ends

theorem Quiet.play_eq {computation : Party σ τ ε α} (quiet : Quiet computation) (state : σ)
    (own : τ) : (computation.play state own).1 = state :=
  (quiet own).run_eq state

theorem Quiet.ensures {computation : Party σ τ ε α} (quiet : Quiet computation) :
    Ensures outside (fun later _ _ => Relation.ReflTransGen outside state later)
      (fun later _ => Relation.ReflTransGen outside state later) computation state own := by
  apply ((quiet own).ensures state).imp
  rintro later ⟨result, after⟩ reached
  cases result <;> exact reached

theorem quiet_pure (value : α) : Quiet (pure value : Party σ τ ε α) := fun _ => trivial

theorem quiet_throw (error : ε) : Quiet (throw error : Party σ τ ε α) := fun _ => trivial

theorem quiet_ofExcept (result : Except ε α) : Quiet (ofExcept result : Party σ τ ε α) :=
  fun _ => trivial

theorem quiet_change (transform : τ → τ × Except ε α) :
    Quiet (change transform : Party σ τ ε α) := fun _ => trivial

theorem quiet_ask {computation : Raising σ ε α} (quiet : Raising.Quiet computation) :
    Quiet (ask computation : Party σ τ ε α) :=
  fun _ => Program.Quiet.bind quiet fun _ => trivial

theorem quiet_get {following : τ → Party σ τ ε α} (quiet : ∀ own, Quiet (following own)) :
    Quiet (get >>= following) := fun own => quiet own own

theorem Quiet.bind {computation : Party σ τ ε α} {following : α → Party σ τ ε β}
    (quiet : Quiet computation) (rest : ∀ value, Quiet (following value)) :
    Quiet (computation >>= following) := by
  intro own
  apply Program.Quiet.bind (quiet own)
  rintro ⟨result, after⟩
  cases result with
  | ok value => exact rest value after
  | error error => exact trivial

theorem Quiet.unless {condition : Prop} [Decidable condition] {error : ε}
    {rest : Unit → Party σ τ ε α} (quiet : Quiet (rest ())) :
    Quiet (if condition then throw error >>= rest else rest ()) := by
  split
  next => exact quiet_throw error
  next => exact quiet

end Party

attribute [irreducible] Raising.Ensures Raising.Quiet Party.Ensures Party.Quiet

end AutoTrade.Lib
