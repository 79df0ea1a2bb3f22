import AutoTrade.Dispatch.Refinement

/-!
# At most one send per economic intent

The send barrier commits `SubmissionSending` together with the first row of the
intent aggregate, so a journal holds at most one send for the intent that the
attempts carry, whatever spelling, attempt ids and interleaving led to it.
-/

set_option linter.unusedSectionVars false

namespace AutoTrade.Dispatch

open Lib Store

section Sends

variable {π κ : Type} [Carries SubmissionEvent π]

/-- A `SubmissionSending` row of an attempt. -/
def IsSending (event : Envelope π) : Prop :=
  IsAttempt event.aggregate ∧ eventType? event = some .submissionSending

instance (event : Envelope π) : Decidable (IsSending event) :=
  inferInstanceAs (Decidable (event.aggregate.aggregateType = _ ∧ _))

variable [Fingerprint] [CaseMap]

/-- The intent that the attempt of a row carries in its `SubmissionPrepared`
row. -/
def carriedIntent (journal : Journal π κ) (event : Envelope π) : Option IntentKey :=
  match (journal.loadEvents event.aggregate).head?.bind submission? with
  | some (.prepared payload) => some payload.intent
  | _ => none

/-- The sends whose attempts carry an intent. -/
def sendings (journal : Journal π κ) (key : IntentKey) : List (Envelope π) :=
  journal.events.filter fun event => IsSending event ∧ carriedIntent journal event = some key

/-- The calls whose final guard returned for an intent. -/
def passes (trace : List Mark) (intent : Aggregate) : List Mark :=
  trace.filter fun entry =>
    match entry with
    | .barrierPassed _ _ passed => passed = intent
    | _ => false

/-- Every send carries a bound intent, and no intent has two sends. -/
structure Sends (world : World π κ) : Prop where
  bound : ∀ event ∈ world.journal.events, IsSending event →
    ∃ key, carriedIntent world.journal event = some key ∧ world.history key.aggregate ≠ []
  single : ∀ key, (sendings world.journal key).length ≤ 1
  opened : ∀ call attempt intent, .barrierPassed call attempt intent ∈ world.trace →
    world.history intent ≠ []
  once : ∀ intent, (passes world.trace intent).length ≤ 1

variable {contract : Prop} {world next : World π κ} {added : List (Envelope π)}
  {marks : List Mark}

/-- The intent of an attempt does not change. -/
theorem carriedIntent_eq (growth : world ≤ next) {event : Envelope π}
    (member : event ∈ world.journal.events) :
    carriedIntent next.journal event = carriedIntent world.journal event := by
  obtain ⟨before, after, split, -⟩ := history_split member
  obtain ⟨more, extended⟩ := history_grows growth event.aggregate
  have heads : (next.journal.loadEvents event.aggregate).head? =
      (world.journal.loadEvents event.aggregate).head? := by
    change (next.history event.aggregate).head? = (world.history event.aggregate).head?
    rw [← extended, List.head?_append_of_ne_nil]
    rw [split]
    simp
  simp only [carriedIntent, heads]

theorem sendings_extend (grown : Extends world next added marks) (key : IntentKey) :
    sendings next.journal key = sendings world.journal key ++
      added.filter fun event =>
        IsSending event ∧ carriedIntent next.journal event = some key := by
  rw [sendings, grown.events, List.filter_append, sendings]
  congr 1
  apply List.filter_congr
  intro event member
  rw [carriedIntent_eq grown.le member]

theorem passes_append (trace : List Mark) (intent : Aggregate) :
    passes (trace ++ marks) intent = passes trace intent ++ passes marks intent :=
  List.filter_append ..

/-- A transaction without a send keeps the sends. -/
theorem Sends.quiet (sends : Sends world) (grown : Extends world next added marks)
    (noSend : ∀ event ∈ added, ¬ IsSending event)
    (noPass : ∀ call attempt intent, .barrierPassed call attempt intent ∉ marks) :
    Sends next where
  bound := by
    intro event member sending
    rw [grown.events, List.mem_append] at member
    rcases member with old | new
    · obtain ⟨key, carried, bound⟩ := sends.bound event old sending
      exact ⟨key, (carriedIntent_eq grown.le old).trans carried,
        history_ne_nil_of_le grown.le bound⟩
    · exact absurd sending (noSend event new)
  single := by
    intro key
    have none : added.filter (fun event =>
        IsSending event ∧ carriedIntent next.journal event = some key) = [] := by
      rw [List.filter_eq_nil_iff]
      intro event member sending
      exact noSend event member (of_decide_eq_true sending).1
    rw [sendings_extend grown, none, List.append_nil]
    exact sends.single key
  opened := by
    intro call attempt intent member
    rcases grown.mem_trace member with old | new
    · exact history_ne_nil_of_le grown.le (sends.opened call attempt intent old)
    · exact absurd new (noPass call attempt intent)
  once := by
    intro intent
    have none : passes marks intent = [] := by
      rw [passes, List.filter_eq_nil_iff]
      intro entry member
      cases entry with
      | barrierPassed call attempt passed => exact absurd member (noPass call attempt passed)
      | _ => simp
    rw [grown.trace, passes_append, none, List.append_nil]
    exact sends.once intent

/-- A row of another event type is not a send. -/
theorem not_isSending {event : Envelope π} {kind : EventType}
    (found : eventType? event = some kind) (different : kind ≠ .submissionSending) :
    ¬ IsSending event := by
  intro sending
  rw [sending.2] at found
  exact different (Option.some.inj found).symm

/-- The send barrier keeps the sends: the intent had no row before it. -/
theorem Sends.send (sends : Sends world) {call : Nat} {event binding first : Envelope π}
    {payload : PreparedPayload}
    (grown : Extends world next [event, binding]
      [.barrierPassed call event.aggregate binding.aggregate])
    (bound : eventType? binding = some .submissionIntentBound)
    (prepared : world.history event.aggregate = [first])
    (carried : submission? first = some (.prepared payload))
    (intent : binding.aggregate = payload.intent.aggregate)
    (unbound : world.history binding.aggregate = []) : Sends next := by
  have notBinding : ¬ IsSending binding := not_isSending bound (by decide)
  have opened : next.history binding.aggregate ≠ [] := by
    rw [grown.history, eventsOf]
    simp
  have carriedNext : carriedIntent next.journal event = some payload.intent := by
    have rows := grown.history event.aggregate
    rw [prepared] at rows
    simp only [carriedIntent]
    change (match (next.history event.aggregate).head?.bind submission? with
      | some (.prepared payload) => some payload.intent
      | _ => none) = _
    rw [rows]
    simp [carried]
  refine ⟨?_, ?_, ?_, ?_⟩
  · intro other member sending
    rw [grown.events, List.mem_append] at member
    rcases member with old | new
    · obtain ⟨key, carriedOld, boundOld⟩ := sends.bound other old sending
      exact ⟨key, (carriedIntent_eq grown.le old).trans carriedOld,
        history_ne_nil_of_le grown.le boundOld⟩
    · rcases List.mem_pair.mp new with rfl | rfl
      · exact ⟨payload.intent, carriedNext, intent ▸ opened⟩
      · exact absurd sending notBinding
  · intro key
    rw [sendings_extend grown]
    by_cases same : payload.intent = key
    · -- an earlier send for the key would have opened its intent
      have none : sendings world.journal key = [] := by
        rw [sendings, List.filter_eq_nil_iff]
        intro other member sent
        obtain ⟨sending, carriedOther⟩ := of_decide_eq_true sent
        obtain ⟨bindingKey, carriedKey, boundKey⟩ := sends.bound other member sending
        rw [carriedOther, Option.some.injEq] at carriedKey
        rw [← carriedKey, ← same, ← intent] at boundKey
        exact boundKey unbound
      rw [none, List.nil_append, List.filter_cons, List.filter_cons_of_neg (by simp [notBinding])]
      split <;> simp
    · have skipped : ([event, binding].filter fun event =>
          IsSending event ∧ carriedIntent next.journal event = some key) = [] := by
        rw [List.filter_cons_of_neg (by simp [carriedNext, same]),
          List.filter_cons_of_neg (by simp [notBinding])]
        rfl
      rw [skipped, List.append_nil]
      exact sends.single key
  · intro other attempt passed member
    rcases grown.mem_trace member with old | new
    · exact history_ne_nil_of_le grown.le (sends.opened other attempt passed old)
    · cases List.mem_singleton.mp new
      exact opened
  · intro passed
    rw [grown.trace, passes_append]
    by_cases same : binding.aggregate = passed
    · have none : passes world.trace passed = [] := by
        rw [passes, List.filter_eq_nil_iff]
        intro entry member
        cases entry with
        | barrierPassed other attempt opened =>
            intro matched
            have open' := sends.opened other attempt opened member
            rw [of_decide_eq_true matched, ← same] at open'
            exact open' unbound
        | _ => simp
      rw [none, List.nil_append]
      exact List.length_filter_le _ _
    · have skipped :
          passes [.barrierPassed call event.aggregate binding.aggregate] passed = [] := by
        simp [passes, same]
      rw [skipped, List.append_nil]
      exact sends.once passed

theorem Sends.moves (sends : Sends world) (moves : Moves contract world next) : Sends next := by
  cases moves with
  | foreign grown apart =>
      refine sends.quiet grown (fun event member sending => ?_) (by simp)
      exact (apart event member).1 sending.1
  | start grown _ => exact sends.quiet grown (by simp) (by simp)
  | absent grown _ => exact sends.quiet grown (by simp) (by simp)
  | prepare grown _ kind _ =>
      refine sends.quiet grown (fun event member => ?_) (by simp)
      have prepared : eventType? event = some .submissionPrepared := by
        rw [List.mem_singleton.mp member, eventType?, kind]
        rfl
      exact not_isSending prepared (by decide)
  | block grown _ kind _ =>
      refine sends.quiet grown (fun event member => ?_) (by simp)
      rw [List.mem_singleton.mp member]
      exact not_isSending kind (by decide)
  | send grown _ _ bound prepared carried intent unbound =>
      exact sends.send grown bound prepared carried intent unbound
  | resolve grown _ kind _ =>
      refine sends.quiet grown (fun event member => ?_) (by simp)
      rw [List.mem_singleton.mp member]
      rcases kind with sent | unknown
      · exact not_isSending sent (by decide)
      · exact not_isSending unknown (by decide)
  | expose grown _ kind _ _ =>
      refine sends.quiet grown (fun event member => ?_) (by simp)
      rw [List.mem_singleton.mp member]
      exact not_isSending kind (by decide)
  | outbound grown _ => exact sends.quiet grown (by simp) (by simp)
  | lose grown => exact sends.quiet grown (by simp) (by simp)
  | report grown _ _ => exact sends.quiet grown (by simp) (by simp)

theorem sends_empty : Sends (World.empty : World π κ) where
  bound _ member := absurd member List.not_mem_nil
  single _ := Nat.zero_le 1
  opened _ _ _ member := absurd member List.not_mem_nil
  once _ := Nat.zero_le 1

theorem sends_of_moves (path : Relation.ReflTransGen (Moves contract) World.empty world) :
    Sends world := by
  induction path with
  | refl => exact sends_empty
  | tail _ last ih => exact ih.moves last

variable [DecidableEq π] [DecidableEq κ] [Carries (SendCommand π) κ] [ResponseDecoder]

theorem Reaches.sends (reaches : Reaches contract world) : Sends world :=
  sends_of_moves reaches.moves

/-- At most one irreversible send per economic intent, in every interleaving of
any number of dispatchers, recoveries and other writers, with any wrappers. -/
theorem single_send (reaches : Reaches contract world) :
    (∀ event ∈ world.journal.events, IsSending event →
      (carriedIntent world.journal event).isSome) ∧
    ∀ key : IntentKey, (sendings world.journal key).length ≤ 1 ∧
      (passes world.trace key.aggregate).length ≤ 1 := by
  have sends := reaches.sends
  constructor
  · intro event member sending
    obtain ⟨key, carried, -⟩ := sends.bound event member sending
    rw [carried]
    rfl
  · intro key
    exact ⟨sends.single key, sends.once key.aggregate⟩

end Sends

/-! ## A race of two spellings -/

section Sample

attribute [local instance] CaseMap.ascii Fingerprint.plain Carries.self ResponseDecoder.plain

/-- The shared state of a journal that only dispatchers write. -/
abbrev SampleWorld : Type := World SubmissionEvent (SendCommand SubmissionEvent)

def sampleOwner : GuardedDispatcher :=
  ⟨.simulation, "account", "owner", 1, 60, by decide +kernel, by decide, by decide⟩

/-- An order that its authority allows, through a wrapper that keeps the
contract. -/
def sampleOrder (attemptId provider intentId : String) : DispatchArgs where
  attemptId := attemptId
  intentId := intentId
  intentHash := "hash"
  provider := provider
  request := "request"
  submissionScope := "scope"
  now := ⟨0⟩
  clientIdMaxLength := 32
  clientIdFormat := "TOKEN"
  authority := .decision true "allowed"
  barrierAuthority := .decision true "allowed"
  barrierClock := none
  senderGate := .ok ()
  senderCheck := none
  transport := .finalGuard (.outbound (.respond (.plain (some "accepted")))) .raise

/-- Two calls for one intent in two spellings. -/
def racers : System SampleWorld :=
  startCall
    (startCall ⟨World.empty, []⟩ sampleOwner 0 (sampleOrder "first" "broker" "intent"))
    sampleOwner 1 (sampleOrder "second" " Broker" "intent ")

/-- The two calls, one transaction each in turn. -/
def race : System SampleWorld := racers.play (List.replicate 20 [0, 1]).flatten

theorem race_reached : Reaches False race.shared := by
  have first : System.Runs (Starts False) Outside ⟨World.empty, []⟩ _ :=
    runs_startCall (⟨World.empty, []⟩ : System SampleWorld) sampleOwner 0
      (sampleOrder "first" "broker" "intent") False.elim (by simp [World.empty])
  have second : System.Runs (Starts False) Outside _ racers :=
    runs_startCall _ sampleOwner 1 (sampleOrder "second" " Broker" "intent ") False.elim (by
      intro entry member attempt intent same
      rw [same] at member
      simp [startCall, World.empty] at member)
  exact Reaches.of_runs ((first.trans second).trans (System.runs_play racers _))

/-- Both calls prepared an attempt for the intent, and one of them sent it. -/
theorem race_sends_once :
    (race.shared.journal.loadEventsByAggregateType "submission_attempt").length = 5 ∧
      (sendings race.shared.journal
        (sampleOwner.intent (sampleOrder "first" "broker" "intent"))).length = 1 ∧
      ∀ key : IntentKey, (sendings race.shared.journal key).length ≤ 1 ∧
        (passes race.shared.trace key.aggregate).length ≤ 1 :=
  ⟨by decide +kernel, by decide +kernel, (single_send race_reached).2⟩

end Sample

end AutoTrade.Dispatch
