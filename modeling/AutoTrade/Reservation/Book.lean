import AutoTrade.Lib.Dict
import AutoTrade.Lib.Raise
import AutoTrade.Lib.Text
import AutoTrade.Numeric.ExactDecimal

/-!
# Reservation book

The executable model of `reservations.ReservationBook`: admission, consumption,
restoration and terminalisation of reserved resources.

Every operation assigns `_records` last, so a call that raises leaves the book
as it was; the model returns either the new book and snapshot or the exception.
-/

namespace AutoTrade.Reservation

open Lib Numeric

/-- Why `InsufficientAvailable` was raised. -/
inductive Shortage where
  | capitalUnresolved
  | noEvidence (resource : String)
  | insufficient (resource : String) (available reserved requested : Decimal)
  deriving DecidableEq, Repr

/-- The exceptions a reservation call raises. -/
inductive ReservationError where
  | valueError (message : String)
  | typeError (message : String)
  | keyError (message : String)
  | conflict (message : String)
  | insufficientAvailable (shortage : Shortage)
  deriving DecidableEq, Repr

inductive ReservationState where
  | working
  | unknown
  | bustedPendingReconciliation
  | filled
  | canceled
  | rejected
  | provenAbsent
  deriving DecidableEq, Repr

namespace ReservationState

/-- Membership in `TERMINAL_STATES`. -/
def terminal : ReservationState → Bool
  | filled | canceled | rejected | provenAbsent => true
  | working | unknown | bustedPendingReconciliation => false

/-- Membership in `HELD_STATES`. -/
def held : ReservationState → Bool
  | working | unknown | bustedPendingReconciliation => true
  | filled | canceled | rejected | provenAbsent => false

/-- The member of `TERMINAL_STATES` with a given name. -/
def ofTerminalName (name : String) : Option ReservationState :=
  if name = "FILLED" then some filled
  else if name = "CANCELED" then some canceled
  else if name = "REJECTED" then some rejected
  else if name = "PROVEN_ABSENT" then some provenAbsent
  else none

theorem held_eq_not_terminal (state : ReservationState) : state.held = !state.terminal := by
  cases state <;> rfl

theorem terminal_of_ofTerminalName {name : String} {state : ReservationState}
    (found : ofTerminalName name = some state) : state.terminal = true := by
  simp only [ofTerminalName] at found
  repeat' split at found
  all_goals
    cases found <;> rfl

end ReservationState

/-- Amounts by resource name. -/
abbrev Amounts : Type := Dict String Decimal

/-- Caller-supplied amounts by resource name. -/
abbrev AmountInputs : Type := Dict String DecimalInput

/-- `_decimal`. -/
def decimal (value : DecimalInput) (name : String) : Except ReservationError Decimal :=
  match value with
  | .inexact => .error (.typeError s!"{name} must use Decimal, string or integer input")
  | value =>
      (parseBoundedExactDecimal value true).mapError fun _ =>
        .valueError s!"{name} must be an exact finite decimal within the resource envelope"

/-- `_text`. -/
def text (value : String) (name : String) : Except ReservationError String :=
  let normalized := strip value
  if normalized = "" then .error (.valueError s!"{name} is required") else .ok normalized

/-- One entry of the loop in `_amounts`. -/
def addAmount (allowZero : Bool) (normalized : Amounts) (item : String × DecimalInput) :
    Except ReservationError Amounts := do
  let key ← text item.1 "resource"
  if (normalized.get? key).isSome then
    .error (.valueError "resource names must be unique after normalization")
  else do
    let amount ← decimal item.2 s!"amount[{key}]"
    if amount < 0 ∨ (amount = 0 ∧ allowZero = false) then
      .error (.valueError "resource amounts must be positive")
    else pure (normalized.set key amount)

/-- `_amounts`. -/
def amounts (values : AmountInputs) (allowZero : Bool) : Except ReservationError Amounts :=
  if values.entries = [] then .error (.valueError "resource amounts are required")
  else values.entries.foldlM (addAmount allowZero) ∅

structure ReservationSnapshot where
  reservationId : String
  intentId : String
  original : Amounts
  remaining : Amounts
  consumed : Amounts
  state : ReservationState
  resolutionEvidence : Option String
  deriving DecidableEq, Repr

/-- `ReservationBook._records`. -/
structure ReservationBook where
  records : Dict String ReservationSnapshot
  deriving DecidableEq, Repr

/-- `CapitalAvailabilityEvidence`. -/
structure CapitalAvailabilityEvidence where
  blocksNewRisk : Bool
  reservationResources : AmountInputs
  deriving DecidableEq, Repr

/-- The effect of a call that returns: the new book and the returned snapshot. -/
abbrev Outcome : Type := Except ReservationError (ReservationBook × ReservationSnapshot)

/-- `dict.get(resource, Decimal("0"))`. -/
def amountOf (values : Amounts) (resource : String) : Decimal :=
  (values.get? resource).getD 0

/-- `{resource: Decimal("0") for resource in values}`. -/
def zeroed (values : Amounts) : Amounts := values.mapValues fun _ => 0

/-- An exact operation whose failure is reported as a reservation conflict. -/
def withinAuthority (message : String) {α : Type} (result : Except ExactDecimalError α) :
    Except ReservationError α :=
  result.mapError fun _ => .conflict message

namespace ReservationBook

/-- `ReservationBook()`. -/
def empty : ReservationBook := ⟨∅⟩

/-- `self._records[record.reservation_id] = record` and the returned snapshot. -/
def commit (book : ReservationBook) (record : ReservationSnapshot) :
    ReservationBook × ReservationSnapshot :=
  (⟨book.records.set record.reservationId record⟩, record)

/-- `_get_record`. -/
def getRecord (book : ReservationBook) (reservationId : String) :
    Except ReservationError ReservationSnapshot := do
  let key ← text reservationId "reservation_id"
  match book.records.get? key with
  | none => .error (.keyError s!"Unknown reservation: {key}")
  | some record => pure record

/-- The records in `HELD_STATES`, `active()` in the source. -/
def active (book : ReservationBook) : List ReservationSnapshot :=
  book.records.values.filter fun record => record.state.held

/-- `total_reserved`. -/
def totalReserved (book : ReservationBook) (resource : String) :
    Except ReservationError Decimal := do
  let key ← text resource "resource"
  withinAuthority "reserved total exceeds exact decimal authority"
    (exactSum (book.active.map fun record => amountOf record.remaining key) 0)

/-- The admission test of `reserve` for one required resource. -/
def admitResource (book : ReservationBook) (availability : Amounts) (resource : String)
    (amount : Decimal) : Except ReservationError Unit :=
  match availability.get? resource with
  | none => .error (.insufficientAvailable (.noEvidence resource))
  | some available => do
      let alreadyReserved ← book.totalReserved resource
      let projectedReserved ← withinAuthority
        "reservation admission exceeds exact decimal authority"
        (exactAdd alreadyReserved amount)
      if available < projectedReserved then
        .error (.insufficientAvailable
          (.insufficient resource available alreadyReserved amount))
      else pure ()

/-- The record a successful admission creates. -/
def admitted (reservationId intentId : String) (needed : Amounts) : ReservationSnapshot where
  reservationId := reservationId
  intentId := intentId
  original := needed
  remaining := needed
  consumed := zeroed needed
  state := .working
  resolutionEvidence := none

/-- `reserve`. -/
def reserve (book : ReservationBook) (reservationId intentId : String)
    (requirements available : AmountInputs) : Outcome := do
  let rid ← text reservationId "reservation_id"
  let iid ← text intentId "intent_id"
  let needed ← amounts requirements false
  let availability ← amounts available true
  match book.records.get? rid with
  | some existing =>
      if existing.intentId ≠ iid ∨ existing.original.same needed = false then
        .error (.conflict "reservation_id was already committed with different content")
      else pure (book, existing)
  | none =>
      if book.records.values.any fun record => record.intentId = iid then
        .error (.conflict "intent_id already has a different reservation")
      else do
        needed.entries.forM fun item => book.admitResource availability item.1 item.2
        pure (book.commit (admitted rid iid needed))

/-- `reserve_from_capital`. -/
def reserveFromCapital (book : ReservationBook) (reservationId intentId : String)
    (requirements : AmountInputs) (capital : CapitalAvailabilityEvidence) : Outcome :=
  if capital.blocksNewRisk then
    .error (.insufficientAvailable .capitalUnresolved)
  else book.reserve reservationId intentId requirements capital.reservationResources

/-- The running `remaining` and `consumed` maps of a consumption loop. -/
structure Cut where
  remaining : Amounts
  consumed : Amounts
  deriving DecidableEq, Repr

/-- One entry of the loop that `consume` and `consume_and_mark_filled` share. -/
def consumeAmount (cut : Cut) (item : String × Decimal) : Except ReservationError Cut :=
  let (resource, amount) := item
  match cut.remaining.get? resource with
  | none => .error (.conflict s!"Resource {resource} was not reserved")
  | some remaining =>
      if remaining < amount then
        .error (.conflict s!"Consumption exceeds remaining reservation for {resource}")
      else do
        let nextRemaining ← withinAuthority
          "reservation consumption exceeds exact decimal authority"
          (exactSubtract remaining amount)
        match cut.consumed.get? resource with
        | none => .error (.keyError resource)
        | some consumed => do
            let nextConsumed ← withinAuthority
              "reservation consumption exceeds exact decimal authority"
              (exactAdd consumed amount)
            pure ⟨cut.remaining.set resource nextRemaining,
              cut.consumed.set resource nextConsumed⟩

/-- `consume`. -/
def consume (book : ReservationBook) (reservationId : String) (usage : AmountInputs) :
    Outcome := do
  let current ← book.getRecord reservationId
  if current.state.held = false then
    .error (.conflict "Cannot consume a terminal reservation")
  else do
    let used ← amounts usage false
    let cut ← used.entries.foldlM consumeAmount ⟨current.remaining, current.consumed⟩
    pure (book.commit { current with remaining := cut.remaining, consumed := cut.consumed })

/-- `consume_and_mark_filled`. -/
def consumeAndMarkFilled (book : ReservationBook) (reservationId : String)
    (usage : AmountInputs) (resolutionEvidence : String) : Outcome := do
  let current ← book.getRecord reservationId
  if current.state.held = false then
    .error (.conflict "Cannot consume and terminalize a terminal reservation")
  else do
    let evidence ← text resolutionEvidence "resolution_evidence"
    let used ← amounts usage false
    let cut ← used.entries.foldlM consumeAmount ⟨current.remaining, current.consumed⟩
    pure (book.commit { current with
      remaining := zeroed current.remaining
      consumed := cut.consumed
      state := .filled
      resolutionEvidence := some evidence })

/-- The remainder after restoring an amount; a canceled reservation keeps its
released remainder. -/
def restoredRemaining (canceled : Bool) (remaining amount : Decimal) :
    Except ReservationError Decimal :=
  if canceled then .ok remaining
  else withinAuthority "reservation restoration exceeds exact decimal authority"
    (exactAdd remaining amount)

/-- One entry of the loop in `restore_consumption`. -/
def restoreAmount (original : Amounts) (canceled : Bool) (cut : Cut)
    (item : String × Decimal) : Except ReservationError Cut :=
  let (resource, amount) := item
  match cut.consumed.get? resource, original.get? resource with
  | some consumed, some limit =>
      if consumed < amount then
        .error (.conflict s!"Restoration exceeds consumed reservation for {resource}")
      else do
        let nextConsumed ← withinAuthority
          "reservation restoration exceeds exact decimal authority"
          (exactSubtract consumed amount)
        match cut.remaining.get? resource with
        | none => .error (.keyError resource)
        | some remaining => do
            let nextRemaining ← restoredRemaining canceled remaining amount
            if limit < nextRemaining then
              .error (.conflict s!"Restoration exceeds original reservation for {resource}")
            else
              pure ⟨cut.remaining.set resource nextRemaining,
                cut.consumed.set resource nextConsumed⟩
  | _, _ => .error (.conflict s!"Resource {resource} was not reserved")

/-- The remainder a bust of a filled reservation rebuilds for one resource. -/
def rebuildAmount (consumed : Amounts) (resource : String) (original : Decimal) :
    Except ReservationError Decimal :=
  match consumed.get? resource with
  | none =>
      .error (.conflict s!"Consumed authority is missing reserved resource {resource}")
  | some used => do
      let rebuilt ← withinAuthority
        "post-bust reservation rebuild exceeds exact decimal authority"
        (exactSubtract original used)
      if rebuilt < 0 then
        .error (.conflict s!"Consumed reservation exceeds original for {resource}")
      else pure rebuilt

/-- `restore_consumption`. -/
def restoreConsumption (book : ReservationBook) (reservationId : String)
    (usage : AmountInputs) : Outcome := do
  let current ← book.getRecord reservationId
  if current.state.held = false ∧ current.state ≠ .filled ∧ current.state ≠ .canceled then
    .error (.conflict "Cannot restore consumption on a terminal reservation")
  else do
    let restored ← amounts usage false
    let cut ← restored.entries.foldlM
      (restoreAmount current.original (current.state = .canceled))
      ⟨current.remaining, current.consumed⟩
    if current.state = .filled then do
      let rebuilt ← current.original.traverse (rebuildAmount cut.consumed)
      pure (book.commit { current with
        remaining := rebuilt
        consumed := cut.consumed
        state := .bustedPendingReconciliation
        resolutionEvidence := none })
    else
      pure (book.commit { current with remaining := cut.remaining, consumed := cut.consumed })

/-- `mark_unknown`. -/
def markUnknown (book : ReservationBook) (reservationId : String) : Outcome := do
  let current ← book.getRecord reservationId
  if current.state.terminal then
    .error (.conflict "A terminal reservation cannot become UNKNOWN")
  else if current.state = .bustedPendingReconciliation then
    .error (.conflict
      "A post-bust reservation requires canonical reconciliation before UNKNOWN")
  else if current.state = .unknown then pure (book, current)
  else pure (book.commit { current with state := .unknown, resolutionEvidence := none })

/-- `mark_terminal`. -/
def markTerminal [CaseMap] (book : ReservationBook) (reservationId outcome : String)
    (resolutionEvidence : String) : Outcome := do
  let current ← book.getRecord reservationId
  let name ← text outcome "outcome"
  let normalized := upper name
  match ReservationState.ofTerminalName normalized with
  | none => .error (.valueError s!"Unsupported terminal outcome: {normalized}")
  | some state => do
      let evidence ← text resolutionEvidence "resolution_evidence"
      let anyConsumed := current.consumed.values.any fun amount => amount ≠ 0
      if (state = .rejected ∨ state = .provenAbsent) ∧ anyConsumed then
        .error (.conflict s!"{normalized} cannot erase already consumed exposure")
      else if current.state.terminal then
        if current.state ≠ state ∨ current.resolutionEvidence ≠ some evidence then
          .error (.conflict "Terminal reservation cannot be resolved differently")
        else pure (book, current)
      else
        pure (book.commit { current with
          remaining := zeroed current.remaining
          state := state
          resolutionEvidence := some evidence })

end ReservationBook

/-- A call on a reservation book with its arguments. -/
inductive Call where
  | reserve (reservationId intentId : String) (requirements available : AmountInputs)
  | reserveFromCapital (reservationId intentId : String) (requirements : AmountInputs)
      (capital : CapitalAvailabilityEvidence)
  | consume (reservationId : String) (usage : AmountInputs)
  | consumeAndMarkFilled (reservationId : String) (usage : AmountInputs)
      (resolutionEvidence : String)
  | restoreConsumption (reservationId : String) (usage : AmountInputs)
  | markUnknown (reservationId : String)
  | markTerminal (reservationId outcome resolutionEvidence : String)
  deriving DecidableEq, Repr

namespace ReservationBook

variable [CaseMap]

/-- The outcome of one call. -/
def call (book : ReservationBook) : Call → Outcome
  | .reserve reservationId intentId requirements available =>
      book.reserve reservationId intentId requirements available
  | .reserveFromCapital reservationId intentId requirements capital =>
      book.reserveFromCapital reservationId intentId requirements capital
  | .consume reservationId usage => book.consume reservationId usage
  | .consumeAndMarkFilled reservationId usage resolutionEvidence =>
      book.consumeAndMarkFilled reservationId usage resolutionEvidence
  | .restoreConsumption reservationId usage => book.restoreConsumption reservationId usage
  | .markUnknown reservationId => book.markUnknown reservationId
  | .markTerminal reservationId outcome resolutionEvidence =>
      book.markTerminal reservationId outcome resolutionEvidence

/-- The book after a call; a call that raises leaves it unchanged. -/
def step (book : ReservationBook) (invocation : Call) : ReservationBook :=
  match book.call invocation with
  | .ok (next, _) => next
  | .error _ => book

/-- The book after a sequence of calls on a new book. -/
def run (calls : List Call) : ReservationBook := calls.foldl step empty

end ReservationBook

end AutoTrade.Reservation
