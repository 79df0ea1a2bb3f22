import AutoTrade.Lib.Raise
import Mathlib.Data.List.Induction

/-!
# Replaying a recorded history

A recorder applies observations to a state, keeps the accepted ones in a
history and may raise.  A recorder that absorbs the observations its history
already holds reproduces its state from that history, whatever absorbed
observations are presented in between.
-/

namespace AutoTrade.Lib

variable {σ α ε : Type}

/-- A call whose failure leaves the state unchanged. -/
def attempt (step : σ → α → Except ε σ) (state : σ) (observation : α) : σ :=
  match step state observation with
  | .ok next => next
  | .error _ => state

/-- What every accepted observation preserves holds after a run of calls. -/
theorem attempt_invariant {step : σ → α → Except ε σ} (invariant : σ → Prop)
    (preserved : ∀ {state observation next}, step state observation = .ok next →
      invariant state → invariant next)
    {start : σ} (initial : invariant start) (observations : List α) :
    invariant (observations.foldl (attempt step) start) := by
  induction observations generalizing start with
  | nil => exact initial
  | cons observation rest ih =>
      rw [List.foldl_cons]
      apply ih
      rw [attempt]
      split
      next accepted => exact preserved accepted initial
      next => exact initial

/-- An accepted observation is either recorded at the end of the history or
leaves the state as it was, and a redundant one is accepted. -/
structure Recorder (step : σ → α → Except ε σ) (history : σ → List α)
    (redundant : List α → α → Prop) : Prop where
  recorded : ∀ {state observation next}, step state observation = .ok next →
    next = state ∨ history next = history state ++ [observation]
  absorbed : ∀ {state observation}, redundant (history state) observation →
    step state observation = .ok state

/-- The sequences that present a history with redundant observations in
between. -/
inductive Interleaved (redundant : List α → α → Prop) : List α → List α → Prop where
  | nil : Interleaved redundant [] []
  | recorded {history presented : List α} (observation : α) :
      Interleaved redundant history presented →
      Interleaved redundant (history ++ [observation]) (presented ++ [observation])
  | redundant {history presented : List α} {observation : α} :
      redundant history observation → Interleaved redundant history presented →
      Interleaved redundant history (presented ++ [observation])

namespace Recorder

variable {step : σ → α → Except ε σ} {history : σ → List α} {redundant : List α → α → Prop}

theorem history_sublist (recorder : Recorder step history redundant)
    {observations : List α} {start finish : σ} (empty : history start = [])
    (replayed : observations.foldlM step start = .ok finish) :
    (history finish).Sublist observations := by
  induction observations using List.reverseRecOn generalizing finish with
  | nil =>
      rw [List.foldlM_nil, pure_eq_ok] at replayed
      rw [← replayed, empty]
  | append_singleton observations observation ih =>
      rw [List.foldlM_append, bind_eq_ok] at replayed
      obtain ⟨middle, first, last⟩ := replayed
      rw [List.foldlM_cons, bind_eq_ok] at last
      obtain ⟨next, accepted, done⟩ := last
      rw [List.foldlM_nil, pure_eq_ok] at done
      rw [← done]
      rcases recorder.recorded accepted with unchanged | appended
      · rw [unchanged]
        exact (ih first).trans (List.sublist_append_left observations [observation])
      · rw [appended]
        exact (ih first).append (List.Sublist.refl [observation])

/-- The history of a run of calls replays to its last state. -/
theorem replay_history (recorder : Recorder step history redundant) {start : σ}
    (empty : history start = []) (observations : List α) :
    (history (observations.foldl (attempt step) start)).foldlM step start =
      .ok (observations.foldl (attempt step) start) := by
  apply attempt_invariant (fun state => (history state).foldlM step start = .ok state)
  · intro state observation next accepted replayed
    rcases recorder.recorded accepted with unchanged | appended
    · rw [unchanged]
      exact replayed
    · rw [appended, List.foldlM_append, replayed, ok_bind, List.foldlM_cons, accepted]
      rfl
  · rw [empty]
    rfl

/-- Redundant observations do not change what a history replays to. -/
theorem replay_interleaved (recorder : Recorder step history redundant) {start finish : σ}
    (empty : history start = []) {presented : List α}
    (interleaved : Interleaved redundant (history finish) presented)
    (replayed : (history finish).foldlM step start = .ok finish) :
    presented.foldlM step start = .ok finish := by
  generalize accepted : history finish = observations at interleaved replayed
  induction interleaved generalizing finish with
  | nil => exact replayed
  | @recorded observations presented observation interleaved ih =>
      rw [List.foldlM_append, bind_eq_ok] at replayed
      obtain ⟨middle, first, last⟩ := replayed
      rw [List.foldlM_cons, bind_eq_ok] at last
      obtain ⟨next, step, done⟩ := last
      rw [List.foldlM_nil, pure_eq_ok] at done
      subst done
      have sublist := recorder.history_sublist empty first
      have whole : history middle = observations := by
        apply sublist.eq_of_length_le
        rcases recorder.recorded step with unchanged | appended
        · rw [← unchanged, accepted, List.length_append]
          exact Nat.le_add_right _ _
        · rw [accepted] at appended
          exact Nat.le_of_eq (congrArg List.length (List.append_cancel_right appended))
      rw [List.foldlM_append, ih whole first, ok_bind, List.foldlM_cons, step]
      rfl
  | @redundant observations presented observation known interleaved ih =>
      rw [← accepted] at known
      rw [List.foldlM_append, ih accepted replayed, ok_bind, List.foldlM_cons,
        recorder.absorbed known]
      rfl

end Recorder

end AutoTrade.Lib
