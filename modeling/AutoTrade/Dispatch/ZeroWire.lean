import AutoTrade.Dispatch.SingleSend

/-!
# Attempts that made no request

What each move of the protocol does to one attempt and to the trace, and from it the
histories that an attempt can have and which attempts made a request.
-/

set_option linter.unusedSectionVars false

namespace AutoTrade.Dispatch

open Lib Store

section Protocol

variable {π κ : Type} [Carries SubmissionEvent π] [Fingerprint] [CaseMap] {contract : Prop}
  {world next later : World π κ} {attempt : Aggregate}

/-! ## Attempts -/

/-- The event types of the rows of an attempt. -/
def World.kinds (world : World π κ) (attempt : Aggregate) : List (Option EventType) :=
  (world.history attempt).map eventType?

/-- The event lists of an attempt whose guard lost no rejection. -/
def legalKinds : List (List (Option EventType)) :=
  [[some .submissionPrepared],
    [some .submissionPrepared, some .submissionBlocked],
    [some .submissionPrepared, some .submissionUnknown],
    [some .submissionPrepared, some .submissionSending],
    [some .submissionPrepared, some .submissionSending, some .submissionSent],
    [some .submissionPrepared, some .submissionSending, some .submissionUnknown]]

/-- A final guard of the attempt could not append its rejection, because another owner had
closed the attempt. -/
def LostRejection (world : World π κ) (attempt : Aggregate) : Prop :=
  ∃ call, .lostRejection call attempt ∈ world.trace

/-- What a row that follows the rows of an attempt finds. -/
def Follows (contract : Prop) (world : World π κ) (attempt : Aggregate) : EventType → Prop
  | .submissionPrepared => world.kinds attempt = []
  | .submissionBlocked => (world.kinds attempt).getLast? = some (some .submissionPrepared)
  | .submissionSending => world.kinds attempt = [some .submissionPrepared]
  | .submissionSent => (world.kinds attempt).getLast? = some (some .submissionSending)
  | .submissionUnknown => (world.kinds attempt).getLast? = some (some .submissionSending) ∨
      world.kinds attempt ≠ [] ∧
        ((world.kinds attempt).getLast? = some (some .submissionPrepared) ∨
          (contract → LostRejection world attempt))
  | .submissionIntentBound => False

theorem getLast?_kinds {kind : EventType} (last : world.lastType attempt = some kind) :
    (world.kinds attempt).getLast? = some (some kind) := by
  rw [World.kinds, List.getLast?_map]
  obtain ⟨event, found, kindEq⟩ := Option.bind_eq_some_iff.mp last
  rw [found, Option.map_some, kindEq]

theorem Extends.kinds {added : List (Envelope π)} {marks : List Mark}
    (grown : Extends world next added marks) (attempt : Aggregate) :
    next.kinds attempt = world.kinds attempt ++ (eventsOf added attempt).map eventType? := by
  rw [World.kinds, grown.history, List.map_append]
  rfl

/-- What an appended row does to an attempt. -/
theorem Extends.appended {event : Envelope π} {marks : List Mark} {kind : EventType}
    (grown : Extends world next [event] marks) (kindEq : eventType? event = some kind)
    (follows : event.aggregate = attempt → Follows contract world attempt kind) :
    next.kinds attempt = world.kinds attempt ∨
      ∃ kind, next.kinds attempt = world.kinds attempt ++ [some kind] ∧
        Follows contract world attempt kind := by
  have kinds := grown.kinds attempt
  by_cases own : event.aggregate = attempt
  · refine Or.inr ⟨kind, ?_, follows own⟩
    rw [kinds, eventsOf, List.filter_cons_of_pos (by simpa using own)]
    simp [kindEq]
  · refine Or.inl ?_
    rw [kinds, eventsOf, List.filter_cons_of_neg (by simpa using own)]
    simp

/-- A move leaves the rows of an attempt as they are, or one row follows them. -/
theorem Moves.kinds (moves : Moves contract world next) (type : IsAttempt attempt) :
    next.kinds attempt = world.kinds attempt ∨
      ∃ kind, next.kinds attempt = world.kinds attempt ++ [some kind] ∧
        Follows contract world attempt kind := by
  have still {marks : List Mark} (grown : Extends world next [] marks) :
      next.kinds attempt = world.kinds attempt := by
    rw [grown.kinds]
    exact List.append_nil _
  cases moves with
  | @foreign added grown apart =>
      refine Or.inl ?_
      have none : eventsOf added attempt = [] := by
        refine List.filter_eq_nil_iff.mpr fun event member own => ?_
        exact (apart event member).1 ((of_decide_eq_true own) ▸ type)
      rw [grown.kinds, none]
      exact List.append_nil _
  | start grown _ | absent grown _ | outbound grown _ | lose grown | report grown _ _ =>
      exact Or.inl (still grown)
  | prepare grown _ kind first =>
      refine grown.appended (by rw [eventType?, kind]; rfl) ?_
      rintro rfl
      exact congrArg (List.map eventType?) first
  | block grown _ kind last =>
      refine grown.appended kind ?_
      rintro rfl
      exact getLast?_kinds last
  | @send call event binding first payload grown own kind bound prepared carried intent unbound =>
      have apart : binding.aggregate ≠ attempt := by
        intro same
        rw [intent] at same
        rw [← same] at type
        have impossible : "submission_intent" = "submission_attempt" := type
        exact absurd impossible (by decide)
      have alone : world.kinds event.aggregate = [some .submissionPrepared] := by
        rw [World.kinds, prepared]
        simp [eventType?, carried, SubmissionPayload.eventType]
      have kinds := grown.kinds attempt
      rw [eventsOf, List.filter_cons] at kinds
      by_cases same : event.aggregate = attempt
      · refine Or.inr ⟨.submissionSending, ?_, same ▸ alone⟩
        rw [kinds]
        simp [same, apart, kind]
      · refine Or.inl ?_
        rw [kinds]
        simp [same, apart]
  | resolve grown _ kind last =>
      rcases kind with kind | kind
      · refine grown.appended kind ?_
        rintro rfl
        exact getLast?_kinds last
      · refine grown.appended kind ?_
        rintro rfl
        exact Or.inl (getLast?_kinds last)
  | expose grown _ kind nonempty excused =>
      refine grown.appended kind ?_
      rintro rfl
      refine Or.inr ⟨?_, excused.imp_left getLast?_kinds⟩
      intro empty
      exact nonempty (List.map_eq_nil_iff.mp empty)

/-- The rows of an attempt: `SubmissionPrepared`, then how the attempt went on, then what
its end was. -/
def Opened : List (Option EventType) → Prop
  | [] => True
  | [first] => first = some .submissionPrepared
  | first :: second :: rest => first = some .submissionPrepared ∧
      (second = some .submissionBlocked ∨ second = some .submissionUnknown ∨
        second = some .submissionSending) ∧
      ∀ kind ∈ rest, kind = some .submissionSent ∨ kind = some .submissionUnknown

/-- A last row `SubmissionPrepared` is the only row. -/
theorem Opened.prepared {kinds : List (Option EventType)} (opened : Opened kinds)
    (last : kinds.getLast? = some (some .submissionPrepared)) :
    kinds = [some .submissionPrepared] := by
  match kinds, opened with
  | [first], opened => rw [show first = _ from opened]
  | first :: second :: rest, ⟨_, how, ends⟩ =>
      rw [List.getLast?_cons_cons] at last
      have member := List.mem_cons.mp (List.mem_of_getLast? last)
      grind

/-- A last row `SubmissionSending` is the second row. -/
theorem Opened.sending {kinds : List (Option EventType)} (opened : Opened kinds)
    (last : kinds.getLast? = some (some .submissionSending)) :
    kinds = [some .submissionPrepared, some .submissionSending] := by
  match kinds, opened with
  | [first], opened =>
      rw [show first = _ from opened] at last
      cases last
  | [first, second], ⟨start, _, _⟩ =>
      cases last
      rw [start]
  | first :: second :: third :: rest, ⟨_, _, ends⟩ =>
      rw [List.getLast?_cons_cons, List.getLast?_cons_cons] at last
      have member := ends _ (List.mem_of_getLast? last)
      grind

/-- An attempt that was blocked was not sent. -/
theorem Opened.blocked {kinds : List (Option EventType)} (opened : Opened kinds)
    (blocked : some .submissionBlocked ∈ kinds) : some .submissionSending ∉ kinds := by
  match kinds, opened with
  | [first], opened =>
      rw [show first = _ from opened, List.mem_singleton] at blocked
      cases blocked
  | first :: second :: rest, ⟨start, how, ends⟩ =>
      have before := ends (some .submissionBlocked)
      have after := ends (some .submissionSending)
      grind

/-- A move keeps the form of an attempt. -/
theorem Opened.follows {kind : EventType} (opened : Opened (world.kinds attempt))
    (follows : Follows contract world attempt kind) :
    Opened (world.kinds attempt ++ [some kind]) := by
  cases kind with
  | submissionPrepared =>
      rw [show world.kinds attempt = [] from follows]
      rfl
  | submissionBlocked =>
      rw [opened.prepared follows]
      exact ⟨rfl, Or.inl rfl, by simp⟩
  | submissionSending =>
      rw [show world.kinds attempt = _ from follows]
      exact ⟨rfl, Or.inr (Or.inr rfl), by simp⟩
  | submissionSent =>
      rw [opened.sending follows]
      exact ⟨rfl, Or.inr (Or.inr rfl), by simp⟩
  | submissionUnknown =>
      have nonempty : world.kinds attempt ≠ [] := by
        rcases follows with last | ⟨nonempty, -⟩
        · rw [opened.sending last]
          exact List.cons_ne_nil _ _
        · exact nonempty
      match world.kinds attempt, opened, nonempty with
      | [first], opened, _ => exact ⟨opened, Or.inr (Or.inl rfl), by simp⟩
      | first :: second :: rest, ⟨start, how, ends⟩, _ =>
          refine ⟨start, how, ?_⟩
          intro kind member
          rcases List.mem_append.mp member with old | new
          · exact ends kind old
          · exact Or.inr (List.mem_singleton.mp new)
  | submissionIntentBound => exact follows.elim

/-- A row that follows the rows of an attempt leaves a legal list, unless a rejection of the
attempt was lost. -/
theorem Follows.legal {kind : EventType} (holds : contract) (opened : Opened (world.kinds attempt))
    (follows : Follows contract world attempt kind) :
    world.kinds attempt ++ [some kind] ∈ legalKinds ∨ LostRejection world attempt := by
  have sent (end' : EventType) (ended : end' = .submissionSent ∨ end' = .submissionUnknown)
      (last : (world.kinds attempt).getLast? = some (some .submissionSending)) :
      world.kinds attempt ++ [some end'] ∈ legalKinds := by
    rw [opened.sending last]
    rcases ended with rfl | rfl <;> decide
  cases kind with
  | submissionPrepared | submissionSending =>
      rw [show world.kinds attempt = _ from follows]
      exact Or.inl (by decide)
  | submissionBlocked =>
      rw [opened.prepared follows]
      exact Or.inl (by decide)
  | submissionSent => exact Or.inl (sent _ (Or.inl rfl) follows)
  | submissionUnknown =>
      rcases follows with last | ⟨-, last | lost⟩
      · exact Or.inl (sent _ (Or.inr rfl) last)
      · rw [opened.prepared last]
        exact Or.inl (by decide)
      · exact Or.inr (lost holds)
  | submissionIntentBound => exact follows.elim

/-! ## The trace -/

/-- What an entry of the trace records. -/
def Records (contract : Prop) (world next : World π κ) : Mark → Prop
  | .barrierPassed _ attempt _ => IsAttempt attempt ∧
      some .submissionSending ∈ next.kinds attempt
  | .outbound call attempt => contract → ∃ intent, .barrierPassed call attempt intent ∈ world.trace
  | _ => True

/-- A move adds at most one entry to the trace. -/
theorem Moves.trace (moves : Moves contract world next) :
    next.trace = world.trace ∨
      ∃ entry, next.trace = world.trace ++ [entry] ∧ Records contract world next entry := by
  cases moves with
  | foreign grown _ | prepare grown _ _ _ | block grown _ _ _ | resolve grown _ _ _
  | expose grown _ _ _ _ => exact Or.inl (grown.trace.trans (List.append_nil _))
  | start grown _ | absent grown _ | lose grown | report grown _ _ =>
      exact Or.inr ⟨_, grown.trace, trivial⟩
  | @send call event binding first payload grown own kind bound prepared carried intent unbound =>
      refine Or.inr ⟨_, grown.trace, own, ?_⟩
      rw [grown.kinds, eventsOf, List.filter_cons_of_pos (by simp)]
      simp [kind]
  | outbound grown passed => exact Or.inr ⟨_, grown.trace, passed⟩

/-- The attempts and the trace of a state that the protocol reaches. -/
structure Chronology (contract : Prop) (world : World π κ) : Prop where
  opened : ∀ attempt, IsAttempt attempt → Opened (world.kinds attempt)
  legal : contract → ∀ attempt, IsAttempt attempt →
    world.kinds attempt = [] ∨ world.kinds attempt ∈ legalKinds ∨ LostRejection world attempt
  passed : ∀ call attempt intent, .barrierPassed call attempt intent ∈ world.trace →
    IsAttempt attempt ∧ some .submissionSending ∈ world.kinds attempt
  made : contract → ∀ call attempt, .outbound call attempt ∈ world.trace →
    ∃ intent, .barrierPassed call attempt intent ∈ world.trace

theorem kinds_grow (growth : world ≤ later) {kind : Option EventType}
    (member : kind ∈ world.kinds attempt) : kind ∈ later.kinds attempt :=
  ((history_grows growth attempt).map eventType?).subset member

theorem LostRejection.grow (lost : LostRejection world attempt) (growth : world ≤ later) :
    LostRejection later attempt := by
  obtain ⟨call, member⟩ := lost
  exact ⟨call, mem_trace_of_le growth member⟩

/-- An entry of the trace after a move was there before or is what the move records. -/
theorem Moves.records (moves : Moves contract world next) {entry : Mark}
    (member : entry ∈ next.trace) : entry ∈ world.trace ∨ Records contract world next entry := by
  rcases moves.trace with same | ⟨added, grown, records⟩
  · rw [same] at member
    exact Or.inl member
  · rw [grown, List.mem_append, List.mem_singleton] at member
    rcases member with old | rfl
    · exact Or.inl old
    · exact Or.inr records

theorem Chronology.moves (chronology : Chronology contract world)
    (moves : Moves contract world next) : Chronology contract next where
  opened := by
    intro attempt type
    have opened := chronology.opened attempt type
    rcases moves.kinds type with same | ⟨kind, grown, follows⟩
    · rw [same]
      exact opened
    · rw [grown]
      exact opened.follows follows
  legal := by
    intro holds attempt type
    rcases moves.kinds type with same | ⟨kind, grown, follows⟩
    · rw [same]
      exact (chronology.legal holds attempt type).imp_right
        (Or.imp_right fun lost => lost.grow moves.grows)
    · rw [grown]
      exact Or.inr ((follows.legal holds (chronology.opened attempt type)).imp_right
        fun lost => lost.grow moves.grows)
  passed := by
    intro call attempt intent member
    rcases moves.records member with old | new
    · exact (chronology.passed call attempt intent old).imp_right (kinds_grow moves.grows)
    · exact new
  made := by
    intro holds call attempt member
    rcases moves.records member with old | new
    · exact (chronology.made holds call attempt old).imp fun _ => mem_trace_of_le moves.grows
    · exact (new holds).imp fun _ => mem_trace_of_le moves.grows

theorem chronology_empty : Chronology contract (World.empty : World π κ) where
  opened _ _ := trivial
  legal _ _ _ := Or.inl rfl
  passed _ _ _ member := absurd member List.not_mem_nil
  made _ _ _ member := absurd member List.not_mem_nil

theorem wasBlocked_iff : WasBlocked world attempt ↔
    some .submissionBlocked ∈ world.kinds attempt := by
  rw [World.kinds, List.mem_map]
  rfl

section Systems

variable [DecidableEq π] [DecidableEq κ] [Carries (SendCommand π) κ] [ResponseDecoder]
  {system after : System (World π κ)}

theorem Chronology.of_moves (path : Relation.ReflTransGen (Moves contract) World.empty world) :
    Chronology contract world := by
  induction path with
  | refl => exact chronology_empty
  | tail _ last ih => exact ih.moves last

/-- Under the guard contract: an attempt whose guard lost no rejection has one of six event
lists; a blocked attempt made no request and makes none later; an attempt that made a request
was sent and is never blocked. -/
theorem blocked_made_no_request
    (reached : System.Runs (Starts True) Outside (⟨World.empty, []⟩ : System (World π κ)) system)
    (runs : System.Runs (Starts True) Outside system after) :
    (∀ attempt, IsAttempt attempt → ¬ LostRejection system.shared attempt →
      system.shared.kinds attempt = [] ∨ system.shared.kinds attempt ∈ legalKinds) ∧
    (∀ attempt, WasBlocked system.shared attempt →
      ∀ call, .outbound call attempt ∉ after.shared.trace) ∧
    ∀ call attempt, .outbound call attempt ∈ system.shared.trace →
      some .submissionSending ∈ system.shared.kinds attempt ∧ ¬ WasBlocked after.shared attempt := by
  obtain ⟨path, guaranteed⟩ := runs_moves guaranteed_empty reached
  obtain ⟨onward, -⟩ := runs_moves guaranteed runs
  have growth := grows_of_moves onward
  have before := Chronology.of_moves path
  have chronology := Chronology.of_moves (path.trans onward)
  have unsent {attempt : Aggregate} {call : Nat} (blocked : WasBlocked after.shared attempt) :
      .outbound call attempt ∉ after.shared.trace := by
    intro outbound
    obtain ⟨intent, passed⟩ := chronology.made trivial call attempt outbound
    obtain ⟨type, sending⟩ := chronology.passed call attempt intent passed
    exact (chronology.opened attempt type).blocked (wasBlocked_iff.mp blocked) sending
  refine ⟨?_, ?_, ?_⟩
  · intro attempt type kept
    rcases before.legal trivial attempt type with none | legal | lost
    · exact Or.inl none
    · exact Or.inr legal
    · exact absurd lost kept
  · intro attempt blocked call
    exact unsent (blocked.grow growth)
  · intro call attempt outbound
    obtain ⟨intent, passed⟩ := before.made trivial call attempt outbound
    refine ⟨(before.passed call attempt intent passed).2, ?_⟩
    intro blocked
    exact unsent blocked (mem_trace_of_le growth outbound)

end Systems

end Protocol

/-! ## The race of two spellings -/

section Sample

attribute [local instance] CaseMap.ascii Fingerprint.plain Carries.self ResponseDecoder.plain

theorem race_runs :
    System.Runs (Starts True) Outside (⟨World.empty, []⟩ : System SampleWorld) race := by
  have keeping (attemptId provider intentId : String) :
      (sampleOrder attemptId provider intentId).transport.Contract false :=
    ⟨⟨rfl, trivial⟩, fun _ => rfl, fun _ => trivial⟩
  have first : System.Runs (Starts True) Outside (⟨World.empty, []⟩ : System SampleWorld) _ :=
    runs_startCall _ sampleOwner 0 (sampleOrder "first" "broker" "intent")
      (fun _ => keeping _ _ _) (by simp [World.empty])
  have second : System.Runs (Starts True) Outside _ racers :=
    runs_startCall _ sampleOwner 1 (sampleOrder "second" " Broker" "intent ")
      (fun _ => keeping _ _ _) (by simp [startCall, World.empty])
  exact (first.trans second).trans (System.runs_play racers _)

/-- The call that lost the race was blocked and makes no request. -/
theorem race_loser_made_no_request :
    some .submissionSending ∈ race.shared.kinds (sampleOwner.aggregate "first") ∧
      ∀ call, .outbound call (sampleOwner.aggregate "second") ∉ race.shared.trace := by
  obtain ⟨-, unsent, sent⟩ := blocked_made_no_request race_runs Relation.ReflTransGen.refl
  have requested : .outbound 0 (sampleOwner.aggregate "first") ∈ race.shared.trace := by
    decide +kernel
  have blocked : some .submissionBlocked ∈ race.shared.kinds (sampleOwner.aggregate "second") := by
    decide +kernel
  generalize race.shared = world at requested blocked unsent sent ⊢
  exact ⟨(sent 0 _ requested).1, unsent _ (wasBlocked_iff.mpr blocked)⟩

end Sample

end AutoTrade.Dispatch
