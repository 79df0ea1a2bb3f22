import AutoTrade.Budget.Routing
import AutoTrade.Lib.Fingerprint
import AutoTrade.Lib.Program
import AutoTrade.Store.Journal

/-!
# Durable model budgets

The model of `DurableModelBudget` as programs over a shared journal whose
transactions are the journal transactions of the source: every mutation is
validated on the ledger that a cut of the journal replays to, and is committed
at the version after that cut.

A payload has an amount as `str` writes it.  The ledger of a replay therefore
keeps the presentation of its reservations, which the text of a release shows.
The shared state also has the answers of `reserve` and `admit_route`, each with
the journal at that moment; they are no part of the source.
-/

namespace AutoTrade.Budget

open Lib Numeric Store

/-! ## Events and commands -/

/-- The descriptor part of `_routing_input`. -/
structure DescriptorInput where
  modelId : String
  providerId : String
  revision : Option String
  remote : Bool
  estimatedCost : String
  latencyMs : Nat
  qualityScore : String
  deriving DecidableEq, Repr

/-- The rate limits of `_routing_input`, which only the cost-aware mode has. -/
structure RateLimitInput where
  agentId : String
  snapshot : Option (String × Nat × List ProviderRateLimit)
  deriving DecidableEq, Repr

/-- `_routing_input`. -/
structure RoutingInput where
  mode : RoutingMode
  policyModelIds : List String
  fixedModelId : Option String
  allowRemote : Bool
  maximumCost : String
  maximumLatencyMs : Option Nat
  requestId : String
  requestModelIds : List String
  privacyRemoteAllowed : Bool
  budgetCap : String
  deadlineUtc : String
  cancelled : Bool
  rateLimit : Option RateLimitInput
  descriptors : List DescriptorInput
  reservationContext : Option (List (String × String))
  deriving DecidableEq, Repr

/-- The payload of `ModelRouteReserved`. -/
structure RoutePayload where
  requestId : String
  amount : String
  routeStatus : String
  modelId : Option String
  providerId : Option String
  revision : Option String
  routingInput : RoutingInput
  deriving DecidableEq, Repr

/-- The event types of a model budget with their payloads. -/
inductive BudgetEvent where
  | initialized (ceiling : String) (environment : Option String)
  | costReserved (requestId amount : String)
  | routeReserved (payload : RoutePayload)
  | costReleased (requestId released : String)
  | costSettled (requestId incurred estimatedUnbilled : String)
  | unbilledReconciled (billingId requestId billed : String)
  deriving DecidableEq, Repr

/-- What a budget hands to `commit_command`: its requests and its results. -/
inductive BudgetCommand where
  | costRequest (requestId amount : String)
  | routeRequest (routingInput : RoutingInput)
  | releaseRequest (requestId : String)
  | settleRequest (requestId incurred estimatedUnbilled : String)
  | billingRequest (billingId requestId billed : String)
  | reserved (requestId amount : String)
  | routed (status : String) (modelId providerId revision : Option String) (reservedCost : String)
  | released (amount : String)
  | settled (requestId incurred estimatedUnbilled : String)
  | reconciled (billingId requestId billed : String)
  deriving DecidableEq, Repr

/-- The action and the identity of an event; an initialization has none. -/
def BudgetEvent.label : BudgetEvent → Option (String × String)
  | .initialized _ _ => none
  | .costReserved requestId _ => some ("reserve", requestId)
  | .routeReserved payload => some ("route_reserve", payload.requestId)
  | .costReleased requestId _ => some ("release", requestId)
  | .costSettled requestId _ _ => some ("settle", requestId)
  | .unbilledReconciled billingId _ _ => some ("billing", billingId)

/-! ## Replay -/

/-- `_text`. -/
def text (value name : String) : Except BudgetError String :=
  if strip value = "" then .error (.valueError s!"{name} is required") else .ok (strip value)

/-- `_environment`. -/
def environmentText [CaseMap] (value : String) : Except BudgetError String :=
  if upper (strip value) ∈ ["REPLAY", "SIMULATION", "PAPER", "LIVE"] then
    .ok (upper (strip value))
  else .error (.valueError "environment must be REPLAY, SIMULATION, PAPER, or LIVE")

/-- `_exact_decimal`, with the presentation of its result. -/
def presentDecimal (value : PresentedInput) (field : String) : Except BudgetError Presented :=
  (presentBoundedExactDecimal value true).mapError fun _ =>
    .valueError s!"{field} must use finite exact decimal input"

/-- A ledger with the decimals that its reservations hold. -/
structure PresentedLedger where
  ledger : BudgetLedger
  amounts : Dict String Presented
  deriving DecidableEq

namespace PresentedLedger

/-- `BudgetLedger(ceiling)`. -/
def init (ceiling : PresentedInput) : Except BudgetError PresentedLedger := do
  let ledger ← BudgetLedger.init ceiling.toInput
  pure ⟨ledger, ∅⟩

/-- `reserve`. -/
def reserve (ledger : PresentedLedger) (requestId : String) (amount : PresentedInput) :
    Except BudgetError PresentedLedger := do
  let next ← ledger.ledger.reserve requestId amount.toInput
  let presented ← presentDecimal amount "reservation"
  pure ⟨next, if (ledger.amounts.get? (strip requestId)).isSome then ledger.amounts
    else ledger.amounts.set (strip requestId) presented⟩

/-- `release`. -/
def release (ledger : PresentedLedger) (requestId : String) :
    Except BudgetError (PresentedLedger × Presented) := do
  let (next, _) ← ledger.ledger.release requestId
  pure (⟨next, ledger.amounts.erase (strip requestId)⟩,
    (ledger.amounts.get? (strip requestId)).getD 0)

/-- `settle`. -/
def settle (ledger : PresentedLedger) (requestId : String)
    (incurred estimatedUnbilled : PresentedInput) : Except BudgetError PresentedLedger := do
  let next ← ledger.ledger.settle requestId incurred.toInput estimatedUnbilled.toInput
  pure ⟨next, ledger.amounts.erase (strip requestId)⟩

/-- `reconcile_unbilled`. -/
def reconcileUnbilled (ledger : PresentedLedger) (billingId requestId : String)
    (billed : PresentedInput) : Except BudgetError PresentedLedger := do
  let next ← ledger.ledger.reconcileUnbilled billingId requestId billed.toInput
  pure { ledger with ledger := next }

/-- `_apply`. -/
def apply (ledger : PresentedLedger) (event : BudgetEvent) : Except BudgetError PresentedLedger :=
  match event with
  | .initialized _ _ => .ok ledger
  | .costReserved requestId amount => ledger.reserve requestId (.text amount)
  | .routeReserved payload => ledger.reserve payload.requestId (.text payload.amount)
  | .costReleased requestId shown => do
      let (next, released) ← ledger.release requestId
      if released.text ≠ shown then
        .error (.valueError "durable model budget release evidence is inconsistent")
      else pure next
  | .costSettled requestId incurred estimatedUnbilled =>
      ledger.settle requestId (.text incurred) (.text estimatedUnbilled)
  | .unbilledReconciled billingId requestId billed =>
      ledger.reconcileUnbilled billingId requestId (.text billed)

end PresentedLedger

section Replay

variable {π : Type} [Carries BudgetEvent π]

/-- The budget event of a row. -/
def budgetEvent? (event : Envelope π) : Option BudgetEvent := Carries.view event.body

/-- One step of the loop of `_replay_events`. -/
def replayStep (ledger : PresentedLedger) (numbered : Envelope π × Nat) :
    Except BudgetError PresentedLedger :=
  if numbered.1.aggregateVersion ≠ numbered.2 then
    .error (.valueError "durable model budget event sequence is not contiguous")
  else
    match budgetEvent? numbered.1 with
    | none => .error (.valueError "unsupported durable model budget event")
    | some event => ledger.apply event

/-- The ledger and the environment of an initialization. -/
def initialLedger [CaseMap] (environment : String) (event : Option BudgetEvent) :
    Except BudgetError PresentedLedger :=
  match event with
  | some (.initialized _ none) =>
      .error (.valueError "legacy model budget lacks durable environment binding")
  | some (.initialized ceiling (some durable)) => do
      let durable ← environmentText durable
      if durable ≠ environment then
        .error (.valueError "budget environment conflicts with durable model budget")
      else PresentedLedger.init (.text ceiling)
  | _ => .error (.valueError "durable model budget initialization is missing")

/-- `_replay_events` of a budget with an environment. -/
def replayEvents [CaseMap] (environment : String) (events : List (Envelope π)) :
    Except BudgetError PresentedLedger := do
  let ledger ← initialLedger environment (events.head?.bind budgetEvent?)
  (events.zipIdx 1).foldlM replayStep ledger

end Replay

/-! ## The shared state -/

/-- What a call answered. -/
inductive Answer where
  /-- `admit_route` returned `ADMITTED` with a reserved cost. -/
  | admitted (requestId : String) (cost : Decimal)
  /-- `reserve` returned. -/
  | reserved (requestId : String) (amount : Decimal)
  deriving DecidableEq, Repr

/-- The journal, and the answers with the journal at that moment. -/
structure World (π κ : Type) where
  journal : Journal π κ
  answers : List (Answer × Journal π κ)
  recorded : journal.Recorded

/-- A new store. -/
def World.empty {π κ : Type} : World π κ := ⟨.empty, [], Journal.recorded_empty⟩

/-- A computation of a budget. -/
abbrev Budgeting (π κ α : Type) : Type := ExceptT BudgetError (Program (World π κ)) α

section Transactions

variable {π κ : Type} [DecidableEq π] [DecidableEq κ]

/-- One read of the journal. -/
def readJournal {α : Type} (view : Journal π κ → α) : Budgeting π κ α :=
  ExceptT.lift (Program.read fun world => view world.journal)

/-- An answer. -/
def answer (entry : Answer) : Budgeting π κ Unit :=
  ExceptT.lift (Program.atomic fun world =>
    ({ world with answers := world.answers ++ [(entry, world.journal)] }, ()))

/-- The effect of `append_event`. -/
def appendTransaction (event : Envelope π) (world : World π κ) :
    World π κ × Except BudgetError AppendResult :=
  match success : world.journal.appendEvent event none with
  | .ok (journal, result) =>
      (⟨journal, world.answers, world.recorded.appendEvent success⟩, .ok result)
  | .error error => (world, .error (.valueError error.message))

/-- `append_event`. -/
def appendEvent (event : Envelope π) : Budgeting π κ AppendResult :=
  ExceptT.mk (Program.atomic (appendTransaction event))

/-- The effect of `commit_command`. -/
def commitTransaction (args : Journal.CommandArgs π κ) (world : World π κ) :
    World π κ × Except BudgetError (Journal.CommitResult κ) :=
  match success : world.journal.commitCommand args with
  | .ok (journal, result) =>
      (⟨journal, world.answers, world.recorded.commitCommand success⟩, .ok result)
  | .error error => (world, .error (.valueError error.message))

/-- `commit_command`. -/
def commitCommand (args : Journal.CommandArgs π κ) :
    Budgeting π κ (Journal.CommitResult κ) :=
  ExceptT.mk (Program.atomic (commitTransaction args))

/-- The result of a computation inside a `try` statement. -/
def observe {α : Type} (computation : Budgeting π κ α) :
    Budgeting π κ (Except BudgetError α) :=
  ExceptT.lift computation.run

/-- A pure computation that may raise. -/
def ofExcept {α : Type} (result : Except BudgetError α) : Budgeting π κ α :=
  ExceptT.mk (pure result)

end Transactions

/-- `part in text`. -/
def contains (part text : String) : Bool := decide (part.toList <:+: text.toList)

/-- `str(error)`. -/
def BudgetError.message : BudgetError → String
  | .valueError message => message
  | .exactDecimal error => error.message

/-! ## Identities -/

/-- A `DurableModelBudget`. -/
structure DurableModelBudget where
  budgetId : String
  environment : String
  ceiling : Presented
  deriving DecidableEq

/-- The aggregate of a budget. -/
def budgetAggregate (budgetId : String) : Aggregate := ⟨"model_budget", budgetId⟩

section Identities

variable [Fingerprint]

/-- `_idempotency_key`. -/
def idempotencyKey (budgetId action identity : String) : String :=
  "model-budget:" ++ action ++ ":" ++
    identityDigest ["idempotency", budgetId, action, identity]

/-- `_event_id`. -/
def eventId (budgetId key : String) : String :=
  "model-budget-" ++ identityDigest ["event", budgetId, key]

/-- `_command_id`. -/
def commandId (budgetId key : String) : String :=
  "model-budget-command-" ++ identityDigest ["command", budgetId, key]

/-- The event id of an action with its identity. -/
def labelId (budgetId : String) (label : String × String) : String :=
  eventId budgetId (idempotencyKey budgetId label.1 label.2)

end Identities

/-! ## Routing inputs -/

/-- `_reservation_context`. -/
def reservationContext (values : Option (List (String × String))) :
    Except BudgetError (Option (List (String × String))) :=
  match values with
  | none => .ok none
  | some entries => do
      let normalized ← entries.mapM fun entry => do
        let key ← text entry.1 "reservation_context key"
        if entry.1 ≠ key then
          throw (.valueError "reservation_context keys must be canonical text")
        let value ← text entry.2 s!"reservation_context[{key}]"
        if entry.2 ≠ value then
          throw (.valueError "reservation_context values must be canonical text")
        pure (key, value)
      if ¬ (normalized.map Prod.fst).Nodup then
        throw (.valueError "reservation_context keys must be unique")
      pure (some (normalized.insertionSort fun left right => left.1 ≤ right.1))

/-- A descriptor in `_routing_input`. -/
def descriptorInput (descriptor : ModelDescriptor) : DescriptorInput where
  modelId := descriptor.modelId
  providerId := descriptor.providerId
  revision := descriptor.revision
  remote := descriptor.remote
  estimatedCost := descriptor.estimatedCost.text
  latencyMs := descriptor.latencyMs
  qualityScore := descriptor.qualityScore.text

/-- The rate limits in `_routing_input`. -/
def rateLimitInput (policy : RoutingPolicy) (request : ModelRequest) : Option RateLimitInput :=
  if policy.mode = .costAware then
    some ⟨request.agentId, request.rateLimitSnapshot.map fun snapshot =>
      (snapshot.agentId, snapshot.remainingAgentRequests,
        snapshot.providerLimits.insertionSort fun left right =>
          left.providerId ≤ right.providerId)⟩
  else none

/-- `_routing_input`. -/
def routingInput (policy : RoutingPolicy) (request : ModelRequest)
    (descriptors : List ModelDescriptor) (context : Option (List (String × String))) :
    Except BudgetError RoutingInput := do
  let context ← reservationContext context
  pure {
    mode := policy.mode
    policyModelIds := policy.allowedModelIds
    fixedModelId := policy.fixedModelId
    allowRemote := policy.allowRemote
    maximumCost := policy.maximumCost.text
    maximumLatencyMs := policy.maximumLatencyMs
    requestId := request.requestId
    requestModelIds := request.allowedModelIds
    privacyRemoteAllowed := request.privacyRemoteAllowed
    budgetCap := request.budgetRemaining.text
    deadlineUtc := request.deadlineUtc.isoformat
    cancelled := request.cancelled
    rateLimit := rateLimitInput policy request
    descriptors := (descriptors.insertionSort fun left right =>
      left.modelId ≤ right.modelId).map descriptorInput
    reservationContext := context }

/-- A text of a route payload. -/
def payloadText (value : Option String) (name : String) : Except BudgetError String :=
  match value with
  | none => .error (.valueError s!"{name} is required")
  | some value => text value name

/-- `_decision_from_route_payload`. -/
def decisionFromRoutePayload (payload : RoutePayload) : Except BudgetError RouteDecision := do
  let status ← match [RouteStatus.admitted, .noModel, .rejected].find?
      (·.value = payload.routeStatus) with
    | some status => pure status
    | none => throw (.valueError "durable model route payload is invalid")
  let amount ← (presentBoundedExactDecimal (.text payload.amount) true).mapError fun _ =>
    .valueError "durable model route payload is invalid"
  if status ≠ .admitted then
    throw (.valueError "durable model route reservation must be ADMITTED")
  let modelId ← payloadText payload.modelId "model_id"
  let providerId ← payloadText payload.providerId "provider_id"
  let revision ← match payload.revision with
    | none => pure none
    | some revision => some <$> text revision "revision"
  pure ⟨status, some modelId, some providerId, revision, amount, "admitted_durable_budget"⟩

/-! ## Commits -/

/-- The arguments of `_commit`. -/
structure Commit where
  action : String
  identity : String
  request : BudgetCommand
  event : BudgetEvent
  result : BudgetCommand
  validate : PresentedLedger → Except BudgetError Unit

/-- Whether a refused commit is tried again. -/
def isContention (error : BudgetError) : Bool :=
  contains "aggregate_version must be" error.message ||
    contains "idempotency_key retry event batch differs" error.message

section Programs

variable {π κ : Type} [DecidableEq π] [DecidableEq κ] [Carries BudgetEvent π]
  [Carries BudgetCommand κ] [Fingerprint] [CaseMap]

namespace DurableModelBudget

variable (budget : DurableModelBudget)

/-- `get_event`. -/
def getEvent (eventId : String) : Budgeting π κ (Option (Envelope π)) :=
  readJournal fun journal => journal.getEvent eventId

/-- `_events`. -/
def events : Budgeting π κ (List (Envelope π)) :=
  readJournal fun journal => journal.loadEvents (budgetAggregate budget.budgetId)

/-- `_replay`. -/
def replay : Budgeting π κ PresentedLedger := do
  let events ← budget.events
  ofExcept (replayEvents budget.environment events)

/-- `_envelope`. -/
def envelope (event : BudgetEvent) (version : Nat) (eventId : String) (committedAt : Instant) :
    Envelope π where
  eventId := eventId
  aggregate := budgetAggregate budget.budgetId
  aggregateVersion := version
  committedAt := committedAt
  body := Carries.embed event
  outboxTopic := none

/-- The arguments of `commit_command` for a row. -/
def commandArgs (commit : Commit) (key : String) (event : Envelope π) :
    Journal.CommandArgs π κ where
  commandId := commandId budget.budgetId key
  actor := "autotrade-model-budget"
  environment := budget.environment
  idempotencyKey := key
  request := Carries.embed commit.request
  result := Carries.embed commit.result
  stateVersion := event.aggregateVersion
  events := [event]
  expectedJournalSequence := none

/-- `replay_existing_event`. -/
def replayExistingEvent (commit : Commit) (key : String) (existing : Envelope π) :
    Budgeting π κ Bool := do
  if existing.aggregate ≠ budgetAggregate budget.budgetId ∨
      budgetEvent? existing ≠ some commit.event then
    throw (.valueError "model budget idempotency identity conflicts with durable event")
  -- the envelope that was committed has no publication intent
  let saved ← commitCommand (budget.commandArgs commit key { existing with outboxTopic := none })
  if saved.inserted then
    throw (.valueError "existing model budget event unexpectedly inserted on replay")
  if saved.result ≠ Carries.embed commit.result then
    throw (.valueError "model budget command result conflicts with durable event")
  pure false

/-- The row of a commit, validated on the cut of the journal that it follows. -/
def prepare (commit : Commit) (key : String) (clock : Except BudgetError Instant) :
    Budgeting π κ (Envelope π) := do
  let frozen ← budget.events
  let ledger ← ofExcept (replayEvents budget.environment frozen)
  ofExcept (commit.validate ledger)
  let now ← ofExcept clock
  pure (budget.envelope commit.event (frozen.length + 1) (eventId budget.budgetId key) now)

/-- The commit of a validated row: whether it was new. -/
def insertRow (commit : Commit) (key : String) (row : Envelope π) : Budgeting π κ Bool := do
  let saved ← commitCommand (budget.commandArgs commit key row)
  if ¬ saved.inserted ∧ saved.result ≠ Carries.embed commit.result then
    throw (.valueError "model budget command result conflicts with durable event")
  pure saved.inserted

/-- `_commit`; the clock is read once for each attempt. -/
def commit (commit : Commit) (clock : Nat → Except BudgetError Instant) : Budgeting π κ Bool := do
  let identity ← ofExcept (text commit.identity "identity")
  let key := idempotencyKey budget.budgetId commit.action identity
  match ← getEvent (eventId budget.budgetId key) with
  | some existing => budget.replayExistingEvent commit key existing
  | none => do
    let row ← budget.prepare commit key (clock 0)
    match ← observe (budget.insertRow commit key row) with
    | .ok inserted => pure inserted
    | .error error => do
      if ¬ isContention error then throw error
      match ← getEvent (eventId budget.budgetId key) with
      | some existing => budget.replayExistingEvent commit key existing
      | none => do
        let row ← budget.prepare commit key (clock 1)
        budget.insertRow commit key row

/-! ## Calls -/

/-- `__init__` of a new object. -/
def create (budgetId environment : String) (ceiling : PresentedInput)
    (clock : Nat → Except BudgetError Instant) : Budgeting π κ DurableModelBudget := do
  let budgetId ← ofExcept (text budgetId "budget_id")
  let environment ← ofExcept (environmentText environment)
  let _ ← ofExcept (BudgetLedger.init ceiling.toInput)
  let ceiling ← ofExcept (presentDecimal ceiling "budget ceiling")
  let budget : DurableModelBudget := ⟨budgetId, environment, ceiling⟩
  let existing ← budget.events
  if existing = [] then do
    let now ← ofExcept (clock 0)
    let event := BudgetEvent.initialized ceiling.text (some environment)
    let row : Envelope π := budget.envelope event 1 (eventId budgetId "initialize") now
    match ← observe (appendEvent row) with
    | .ok _ => pure ()
    | .error error => do
      match ← getEvent row.eventId with
      | none => throw error
      | some concurrent =>
          if concurrent.aggregate ≠ row.aggregate ∨ concurrent.aggregateVersion ≠ 1 ∨
              budgetEvent? concurrent ≠ some event then
            throw error
  let rebuilt ← budget.replay
  let snapshot ← ofExcept rebuilt.ledger.snapshot
  if snapshot.ceiling ≠ ceiling.value then
    throw (.valueError "budget ceiling conflicts with durable model budget")
  pure budget

/-- The reservation that a commit validates. -/
def validateReserve (requestId : String) (amount : Presented) (ledger : PresentedLedger) :
    Except BudgetError Unit := do
  let _ ← ledger.reserve requestId (.decimal amount.tuple)

/-- `reserve`. -/
def reserve (requestId : String) (amount : PresentedInput)
    (clock : Nat → Except BudgetError Instant) : Budgeting π κ Bool := do
  let requestId ← ofExcept (text requestId "request_id")
  let probe ← ofExcept (BudgetLedger.init (.bounded budget.ceiling.value))
  let probe ← ofExcept (probe.reserve "probe" amount.toInput)
  let normalized ← ofExcept (exact (presentSum probe.reserved.values))
  let inserted ← budget.commit {
    action := "reserve"
    identity := requestId
    request := .costRequest requestId normalized.text
    event := .costReserved requestId normalized.text
    result := .reserved requestId normalized.text
    validate := validateReserve requestId normalized } clock
  answer (.reserved requestId normalized.value)
  pure inserted

/-- The release that a commit validates: it still releases the same amount. -/
def validateRelease (requestId : String) (released : Presented) (ledger : PresentedLedger) :
    Except BudgetError Unit := do
  let (_, candidate) ← ledger.release requestId
  if candidate.value ≠ released.value then
    throw (.valueError "model budget release amount changed before commit")

/-- The commit of a release. -/
def releaseCommit (requestId shown : String)
    (validate : PresentedLedger → Except BudgetError Unit) : Commit where
  action := "release"
  identity := requestId
  request := .releaseRequest requestId
  event := .costReleased requestId shown
  result := .released shown
  validate := validate

/-- `release`. -/
def release (requestId : String) (clock : Nat → Except BudgetError Instant) :
    Budgeting π κ Bool := do
  let requestId ← ofExcept (text requestId "request_id")
  match ← getEvent (labelId budget.budgetId ("release", requestId)) with
  | some existing =>
      match budgetEvent? existing with
      | some (.costReleased other shown) => do
          if existing.aggregate ≠ budgetAggregate budget.budgetId ∨ other ≠ requestId then
            throw (.valueError "model budget release identity conflicts with durable event")
          let released ← ofExcept ((presentBoundedExactDecimal (.text shown) true).mapError
            fun _ => .valueError "durable model budget release evidence is inconsistent")
          if released.value ≤ 0 ∨ released.text ≠ shown then
            throw (.valueError "durable model budget release evidence is inconsistent")
          budget.commit (releaseCommit requestId shown fun _ => .ok ()) clock
      | _ => throw (.valueError "model budget release identity conflicts with durable event")
  | none => do
      let ledger ← budget.replay
      let (_, released) ← ofExcept (ledger.release requestId)
      if released.value = 0 then pure false
      else
        budget.commit (releaseCommit requestId released.text
          (validateRelease requestId released)) clock

/-- The amount of `BudgetLedger(value).snapshot().ceiling`. -/
def normalizedCost (value : PresentedInput) : Except BudgetError Presented := do
  let _ ← BudgetLedger.init value.toInput
  presentDecimal value "budget ceiling"

/-- `settle`. -/
def settle (requestId : String) (incurred estimatedUnbilled : PresentedInput)
    (clock : Nat → Except BudgetError Instant) : Budgeting π κ Bool := do
  let requestId ← ofExcept (text requestId "request_id")
  let incurred ← ofExcept (normalizedCost incurred)
  let estimated ← ofExcept (normalizedCost estimatedUnbilled)
  budget.commit {
    action := "settle"
    identity := requestId
    request := .settleRequest requestId incurred.text estimated.text
    event := .costSettled requestId incurred.text estimated.text
    result := .settled requestId incurred.text estimated.text
    validate := fun ledger => do
      let _ ← ledger.settle requestId (.decimal incurred.tuple) (.decimal estimated.tuple) } clock

/-- `reconcile_unbilled`. -/
def reconcileUnbilled (billingId requestId : String) (billed : PresentedInput)
    (clock : Nat → Except BudgetError Instant) : Budgeting π κ Bool := do
  let billingId ← ofExcept (text billingId "billing_id")
  let requestId ← ofExcept (text requestId "request_id")
  let billed ← ofExcept (normalizedCost billed)
  budget.commit {
    action := "billing"
    identity := billingId
    request := .billingRequest billingId requestId billed.text
    event := .unbilledReconciled billingId requestId billed.text
    result := .reconciled billingId requestId billed.text
    validate := fun ledger => do
      let _ ← ledger.reconcileUnbilled billingId requestId (.decimal billed.tuple) } clock

/-- The commit of an admitted route. -/
def routeCommit (payload : RoutePayload) (identity : String) (decision : RouteDecision)
    (validate : PresentedLedger → Except BudgetError Unit) : Commit where
  action := "route_reserve"
  identity := identity
  request := .routeRequest payload.routingInput
  event := .routeReserved payload
  result := .routed decision.status.value decision.modelId decision.providerId decision.revision
    decision.reservedCost.text
  validate := validate

/-- `authoritative_request`: the request with what the budget leaves of its cap. -/
def authoritativeRequest (request : ModelRequest) (available : Presented) :
    Except BudgetError ModelRequest :=
  let effective := if available.value < request.budgetRemaining.value then available
    else request.budgetRemaining
  if nonnegative : 0 ≤ effective.value then
    .ok { request with budgetRemaining := effective, nonnegative := nonnegative }
  else .error (.valueError "budget remaining cannot be negative")

/-- `admit_route` on a journal that has the admission. -/
def readmitRoute (request : ModelRequest) (input : RoutingInput) (existing : Envelope π)
    (clock : Nat → Except BudgetError Instant) : Budgeting π κ RouteDecision := do
  match budgetEvent? existing with
  | some (.routeReserved payload) => do
      if payload.routingInput ≠ input then
        throw (.valueError "model route identity conflicts with durable admission")
      let decision ← ofExcept (decisionFromRoutePayload payload)
      let _ ← budget.commit (routeCommit payload request.requestId decision fun _ => .ok ()) clock
      answer (.admitted request.requestId decision.reservedCost.value)
      pure decision
  | _ => throw (.valueError "model route identity conflicts with durable admission")

/-- The commit of a decision that `route_model` admitted. -/
def reserveRoute (request : ModelRequest) (input : RoutingInput) (decision : RouteDecision)
    (clock : Nat → Except BudgetError Instant) : Budgeting π κ RouteDecision := do
  let payload : RoutePayload := {
    requestId := request.requestId
    amount := decision.reservedCost.text
    routeStatus := decision.status.value
    modelId := decision.modelId
    providerId := decision.providerId
    revision := decision.revision
    routingInput := input }
  match ← observe (budget.commit (routeCommit payload request.requestId decision
      (validateReserve request.requestId decision.reservedCost)) clock) with
  | .error error =>
      if contains "budget exhausted" error.message then
        pure (.refusal .noModel "durable_budget_exhausted")
      else throw error
  | .ok _ => do
      answer (.admitted request.requestId decision.reservedCost.value)
      pure { decision with reason := "admitted_durable_budget" }

/-- `admit_route`. -/
def admitRoute (policy : RoutingPolicy) (request : ModelRequest)
    (descriptors : List ModelDescriptor) (now : Instant)
    (context : Option (List (String × String))) (clock : Nat → Except BudgetError Instant) :
    Budgeting π κ RouteDecision := do
  if request.cancelled ∨ request.deadlineUtc.instant ≤ now ∨ policy.mode = .zero then
    ofExcept (routeModel policy request [] now)
  else do
    let input ← ofExcept (routingInput policy request descriptors context)
    match ← getEvent (labelId budget.budgetId ("route_reserve", request.requestId)) with
    | some existing => budget.readmitRoute request input existing clock
    | none => do
        let ledger ← budget.replay
        let snapshot ← ofExcept ledger.ledger.snapshot
        let available ← ofExcept snapshot.available
        let presented ← ofExcept (exact (presentTerminating available.toRat))
        let authoritative ← ofExcept (authoritativeRequest request presented)
        let decision ← ofExcept (routeModel policy authoritative descriptors now)
        if decision.status ≠ .admitted then pure decision
        else budget.reserveRoute request input decision clock

end DurableModelBudget

end Programs

end AutoTrade.Budget
