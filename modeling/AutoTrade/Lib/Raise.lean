import Mathlib.Data.List.Basic
import Mathlib.Data.List.Forall2

/-!
# Computations that may raise

`Except` models a Python call that either returns or raises.  The lemmas invert
a successful computation and carry an invariant through a loop whose body may
raise.
-/

namespace AutoTrade.Lib

variable {ε ε' α β σ : Type}

/-- A sequence of two computations returns when both return. -/
theorem bind_eq_ok {first : Except ε α} {next : α → Except ε β} {result : β} :
    (first >>= next) = .ok result ↔
      ∃ value, first = .ok value ∧ next value = .ok result := by
  cases first with
  | error error => simp [bind, Except.bind]
  | ok value => simp [bind, Except.bind]

/-- A sequence of two computations raises where the first one does, or where the
second one does on the result of the first. -/
theorem bind_eq_error {first : Except ε α} {next : α → Except ε β} {error : ε} :
    (first >>= next) = .error error ↔
      first = .error error ∨ ∃ value, first = .ok value ∧ next value = .error error := by
  cases first with
  | error error => simp [bind, Except.bind]
  | ok value => simp [bind, Except.bind]

theorem mapError_eq_ok {image : ε → ε'} {computation : Except ε α} {result : α} :
    computation.mapError image = .ok result ↔ computation = .ok result := by
  cases computation <;> simp [Except.mapError]

theorem map_eq_ok {image : α → β} {computation : Except ε α} {result : β} :
    image <$> computation = .ok result ↔
      ∃ value, computation = .ok value ∧ image value = result := by
  cases computation with
  | error error => simp [Functor.map, Except.map]
  | ok value => simp [Functor.map, Except.map]

theorem map_fst_eq_ok {computation : Except ε (α × β)} {result : α} :
    computation.map Prod.fst = .ok result ↔ ∃ value, computation = .ok (result, value) := by
  cases computation with
  | error error => simp [Except.map]
  | ok pair =>
      obtain ⟨first, second⟩ := pair
      simp [Except.map]

@[simp] theorem ok_bind (value : α) (next : α → Except ε β) :
    (Except.ok value >>= next) = next value := rfl

@[simp] theorem error_bind (error : ε) (next : α → Except ε β) :
    (Except.error error >>= next) = .error error := rfl

@[simp] theorem pure_eq_ok {value result : α} :
    (pure value : Except ε α) = .ok result ↔ value = result := by
  simp [pure, Except.pure]

/-- A guard that raises leaves its condition false. -/
theorem guard_eq_ok {condition : Prop} [Decidable condition] {error : ε}
    {next : Except ε α} {result : α} :
    (if condition then .error error else next) = .ok result ↔
      ¬ condition ∧ next = .ok result := by
  split <;> simp_all

/-- A statement that raises under a condition, and the statements after it. -/
theorem throw_unless_eq_ok {condition : Prop} [Decidable condition] {error : ε}
    {next : Unit → Except ε α} {result : α} :
    (if condition then throw error >>= next else next ()) = .ok result ↔
      ¬ condition ∧ next () = .ok result := by
  split <;> simp_all [throw, throwThe, MonadExceptOf.throw]

/-- The value of a computation that returns. -/
theorem eq_ok_get {computation : Except ε α} (returns : computation.toOption.isSome) :
    computation = .ok (computation.toOption.get returns) := by
  cases computation with
  | error error => cases returns
  | ok value => rfl

theorem eq_ok_of_toOption {computation : Except ε α} {value : α}
    (found : computation.toOption = some value) : computation = .ok value := by
  cases computation with
  | error error => cases found
  | ok other => exact congrArg Except.ok (Option.some.inj found)

theorem exists_eq_ok {computation : Except ε α} (returns : computation.toOption.isSome) :
    ∃ result, computation = .ok result := ⟨_, eq_ok_get returns⟩

/-- A list comprehension returns when the body returns on every value. -/
theorem mapM_eq_ok {body : α → Except ε β} {values : List α} {results : List β} :
    values.mapM body = .ok results ↔
      List.Forall₂ (fun value result => body value = .ok result) values results := by
  induction values generalizing results with
  | nil =>
      rw [List.mapM_nil, pure_eq_ok, List.forall₂_nil_left_iff]
      exact eq_comm
  | cons value rest ih =>
      simp only [List.mapM_cons, bind_eq_ok, pure_eq_ok, ih, List.forall₂_cons_left_iff]
      constructor
      · rintro ⟨result, first, others, tail, rfl⟩
        exact ⟨result, others, first, tail, rfl⟩
      · rintro ⟨result, others, first, tail, rfl⟩
        exact ⟨result, first, others, tail, rfl⟩

/-- A list comprehension whose body returns, where a value is valid, the result
with the image of the value. -/
theorem mapM_eq_ok_iff_map {γ : Type} {body : α → Except ε β} {valid : α → Prop} {read : β → γ}
    {image : α → γ} {values : List α} {results : List β}
    (spec : ∀ value ∈ values, ∀ result,
      body value = .ok result ↔ valid value ∧ read result = image value) :
    values.mapM body = .ok results ↔
      (∀ value ∈ values, valid value) ∧ results.map read = values.map image := by
  induction values generalizing results with
  | nil =>
      rw [List.mapM_nil, pure_eq_ok, List.map_nil, List.map_eq_nil_iff, eq_comm]
      simp
  | cons value rest ih =>
      rw [List.forall_mem_cons] at spec ⊢
      simp only [List.mapM_cons, bind_eq_ok, pure_eq_ok, ih spec.2, spec.1, List.map_cons]
      constructor
      · rintro ⟨result, ⟨holds, same⟩, others, ⟨tail, images⟩, rfl⟩
        exact ⟨⟨holds, tail⟩, by rw [List.map_cons, same, images]⟩
      · rintro ⟨⟨holds, tail⟩, images⟩
        obtain ⟨result, others, rfl, same, rest⟩ := List.map_eq_cons_iff.mp images
        exact ⟨result, ⟨holds, same⟩, others, ⟨tail, rest⟩, rfl⟩

/-- A list comprehension returns when its body returns on every value. -/
theorem exists_mapM {body : α → Except ε β} {values : List α}
    (returns : ∀ value ∈ values, ∃ result, body value = .ok result) :
    ∃ results, values.mapM body = .ok results := by
  induction values with
  | nil => exact ⟨[], rfl⟩
  | cons value rest ih =>
      rw [List.forall_mem_cons] at returns
      obtain ⟨first, head⟩ := returns.1
      obtain ⟨others, tail⟩ := ih returns.2
      exact ⟨first :: others, mapM_eq_ok.mpr (List.Forall₂.cons head (mapM_eq_ok.mp tail))⟩

/-- Lists that are related member by member, at one position. -/
theorem forall₂_getElem? {related : α → β → Prop} {left : List α} {right : List β}
    (all : List.Forall₂ related left right) {index : Nat} {item : α}
    (found : left[index]? = some item) :
    ∃ value, right[index]? = some value ∧ related item value := by
  induction all generalizing index with
  | nil => cases found
  | cons head _ ih =>
      cases index with
      | zero =>
          cases found
          exact ⟨_, rfl, head⟩
      | succ previous => exact ih found

/-- Each member of the second list is related to one of the first. -/
theorem exists_of_mem_forall₂ {related : α → β → Prop} {left : List α}
    {right : List β} (all : List.Forall₂ related left right) {value : β} (member : value ∈ right) :
    ∃ item ∈ left, related item value := by
  induction all with
  | nil => cases member
  | @cons first image rest images head _ ih =>
      rcases List.mem_cons.mp member with rfl | tail
      · exact ⟨first, List.mem_cons_self, head⟩
      · obtain ⟨item, listed, holds⟩ := ih tail
        exact ⟨item, List.mem_cons_of_mem first listed, holds⟩

/-- Two lists that are related to a third one, member by member. -/
theorem forall₂_join {γ : Type} {first : α → γ → Prop} {second : β → γ → Prop} {left : List α}
    {right : List β} {common : List γ} (leftAll : List.Forall₂ first left common)
    (rightAll : List.Forall₂ second right common) :
    List.Forall₂ (fun left right => ∃ value, first left value ∧ second right value)
      left right := by
  induction leftAll generalizing right with
  | nil =>
      cases rightAll
      exact List.Forall₂.nil
  | cons head _ ih =>
      cases rightAll with
      | cons head' tail' => exact List.Forall₂.cons ⟨_, head, head'⟩ (ih tail')

/-- The results of a list comprehension that returns. -/
theorem mem_mapM {body : α → Except ε β} {values : List α} {results : List β}
    (success : values.mapM body = .ok results) {result : β} :
    result ∈ results ↔ ∃ value ∈ values, body value = .ok result := by
  rw [mapM_eq_ok] at success
  induction success with
  | nil => simp
  | @cons value first rest others head tail ih =>
      rw [List.mem_cons, List.exists_mem_cons_iff, ih, head, Except.ok.injEq]
      exact or_congr_left eq_comm

/-- A loop of checks returns when every check passes. -/
theorem forM_eq_ok {body : α → Except ε Unit} {values : List α} :
    values.forM body = .ok () ↔ ∀ value ∈ values, body value = .ok () := by
  induction values with
  | nil => exact ⟨fun _ _ member => absurd member List.not_mem_nil, fun _ => rfl⟩
  | cons value rest ih =>
      rw [List.forM, bind_eq_ok, List.forall_mem_cons, ← ih]
      constructor
      · rintro ⟨⟨⟩, first, tail⟩
        exact ⟨first, tail⟩
      · rintro ⟨first, tail⟩
        exact ⟨(), first, tail⟩

/-- What every iteration preserves holds after a loop that returns. -/
theorem foldlM_invariant {body : σ → α → Except ε σ} (invariant : σ → Prop)
    {values : List α} {start finish : σ}
    (preserved : ∀ value ∈ values, ∀ before after,
      invariant before → body before value = .ok after → invariant after)
    (initial : invariant start) (success : values.foldlM body start = .ok finish) :
    invariant finish := by
  induction values generalizing start with
  | nil =>
      simp only [List.foldlM_nil, pure_eq_ok] at success
      rw [← success]
      exact initial
  | cons value rest ih =>
      rw [List.foldlM_cons, bind_eq_ok] at success
      obtain ⟨middle, step, tail⟩ := success
      apply ih
      · intro other member
        exact preserved other (List.mem_cons_of_mem value member)
      · exact preserved value List.mem_cons_self start middle initial step
      · exact tail

/-- What every iteration checks holds of every value of a loop that returns. -/
theorem forall_of_foldlM {body : σ → α → Except ε σ} (property : α → Prop)
    {values : List α} {start finish : σ}
    (checked : ∀ {before after value}, body before value = .ok after → property value)
    (success : values.foldlM body start = .ok finish) : ∀ value ∈ values, property value := by
  induction values generalizing start with
  | nil => exact fun _ member => absurd member List.not_mem_nil
  | cons value rest ih =>
      rw [List.foldlM_cons, bind_eq_ok] at success
      obtain ⟨middle, step, tail⟩ := success
      rw [List.forall_mem_cons]
      exact ⟨checked step, ih tail⟩

end AutoTrade.Lib
