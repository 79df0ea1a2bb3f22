import AutoTrade.Lib.AsciiJson
import AutoTrade.Lib.Fingerprint
import AutoTrade.Lib.Mutation
import AutoTrade.Lib.Text
import AutoTrade.Numeric.Amount

/-!
# Funding ledger

`FundingLedger` of `perpetuals.py`: funding payments under their event ids, with one
amount for each funding period of an instrument and the balances of the currencies, and
the checkpoint from which a ledger is rebuilt by applying its events again.
-/

namespace AutoTrade.Perpetuals

open Lib Numeric

attribute [local instance] FloatText.none

/-! ## Arguments -/

/-- `PerpetualError`. -/
structure PerpetualError where
  message : String
  deriving DecidableEq, Repr

/-- `_translate_exact`. -/
def translateExact {α : Type} (computation : Except ExactDecimalError α) :
    Except PerpetualError α :=
  computation.mapError fun _ =>
    ⟨"exact financial arithmetic exceeds the supported resource envelope"⟩

/-- `_decimal`. -/
def decimal (value : DecimalInput) (name : String) : Except PerpetualError Decimal :=
  if value = .inexact then .error ⟨s!"{name} must use exact decimal input"⟩
  else (parseBoundedExactDecimal value true).mapError fun _ =>
    ⟨s!"{name} exceeds the supported exact-decimal resource envelope"⟩

/-- `_text`. -/
def text (value name : String) : Except PerpetualError String :=
  if strip value = "" then .error ⟨s!"{name} is required"⟩ else .ok (strip value)

/-- The arguments of `apply`. -/
structure FundingCall where
  eventId : String
  fundingPeriodId : String
  instrumentId : String
  currency : String
  amount : DecimalInput

/-! ## The ledger -/

/-- A value of `_events`. -/
structure EventRecord where
  fingerprint : String
  period : String
  currency : String
  amount : Decimal
  deriving DecidableEq

/-- A value of `_periods`. -/
structure PeriodRecord where
  fingerprint : String
  currency : String
  amount : Decimal
  deriving DecidableEq

structure FundingLedger where
  events : Dict String EventRecord
  periods : Dict (String × String) PeriodRecord
  balances : Dict String Decimal

/-- `FundingLedger()`. -/
def FundingLedger.empty : FundingLedger := ⟨∅, ∅, ∅⟩

/-- The object that `_fingerprint` writes. -/
def fingerprintTexts (instrumentId currency amount : String) : Dict String String where
  entries := [("instrument_id", instrumentId), ("currency", currency), ("amount", amount)]
  nodup := by simp

/-- `_fingerprint`. -/
def fingerprint [Fingerprint] (instrumentId currency : String) (amount : Decimal) :
    Except PerpetualError String := do
  let written ← translateExact amount.canonicalText
  let payload : Json Unit := .ofTexts (fingerprintTexts instrumentId currency written)
  return sha256 (payload.asciiText.getD "")

/-- The arguments of `apply` once they are read. -/
structure FundingArguments where
  identifier : String
  period : String
  instrument : String
  unit : String
  value : Decimal
  fingerprint : String

/-- The readers of `apply`. -/
def readCall [CaseMap] [Fingerprint] (call : FundingCall) :
    Except PerpetualError FundingArguments := do
  let identifier ← text call.eventId "event_id"
  let period ← text call.fundingPeriodId "funding_period_id"
  let instrument ← text call.instrumentId "instrument_id"
  let currency ← text call.currency "currency"
  let value ← decimal call.amount "amount"
  let digest ← fingerprint instrument (upper currency) value
  return ⟨identifier, period, instrument, upper currency, value, digest⟩

namespace FundingLedger

/-- `self._events[identifier] = …`. -/
def setEvent (ledger : FundingLedger) (arguments : FundingArguments) : FundingLedger :=
  let record := ⟨arguments.fingerprint, arguments.period, arguments.unit, arguments.value⟩
  { ledger with events := ledger.events.set arguments.identifier record }

/-- `self._periods[period_key] = …`. -/
def setPeriod (ledger : FundingLedger) (arguments : FundingArguments) : FundingLedger :=
  let record := ⟨arguments.fingerprint, arguments.unit, arguments.value⟩
  { ledger with periods := ledger.periods.set (arguments.instrument, arguments.period) record }

/-- `self._balances[unit] = …`. -/
def setBalance (ledger : FundingLedger) (unit : String) (balance : Decimal) : FundingLedger :=
  { ledger with balances := ledger.balances.set unit balance }

/-- The part of `apply` that follows the readers. -/
def applyArguments (arguments : FundingArguments) :
    Mutation FundingLedger PerpetualError Decimal := do
  let ledger ← .self
  match ledger.events.get? arguments.identifier with
  | some existing =>
      if existing.fingerprint ≠ arguments.fingerprint ∨ existing.period ≠ arguments.period then
        throw ⟨"funding event id was reused with different content"⟩
      else return existing.amount
  | none =>
      match ledger.periods.get? (arguments.instrument, arguments.period) with
      | some existing =>
          if existing.fingerprint ≠ arguments.fingerprint then
            throw ⟨"funding period was reused with different economic content"⟩
          else do
            .assign fun ledger => ledger.setEvent arguments
            return existing.amount
      | none => do
          let newBalance ← .checked (translateExact
            (exactAdd ((ledger.balances.get? arguments.unit).getD 0) arguments.value))
          .assign fun ledger => ledger.setEvent arguments
          .assign fun ledger => ledger.setPeriod arguments
          .assign fun ledger => ledger.setBalance arguments.unit newBalance
          return arguments.value

/-- `apply`. -/
def apply [CaseMap] [Fingerprint] (call : FundingCall) :
    Mutation FundingLedger PerpetualError Decimal := do
  let arguments ← .checked (readCall call)
  applyArguments arguments

/-- The ledger after a call that returns. -/
def applied [CaseMap] [Fingerprint] (ledger : FundingLedger) (call : FundingCall) :
    Except PerpetualError FundingLedger :=
  let outcome := (apply call).on ledger
  outcome.1.map fun _ => outcome.2

/-- `balance`. -/
def balance [CaseMap] (ledger : FundingLedger) (currency : String) :
    Except PerpetualError Decimal := do
  let unit ← text currency "currency"
  return (ledger.balances.get? (upper unit)).getD 0

end FundingLedger

/-! ## Checkpoints -/

/-- An event of a checkpoint. -/
structure FundingEvent where
  eventId : String
  fundingPeriodId : String
  instrumentId : String
  currency : String
  amount : String

namespace FundingEvent

def keys : List String :=
  ["event_id", "funding_period_id", "instrument_id", "currency", "amount"]

def fields (event : FundingEvent) : List String :=
  [event.eventId, event.fundingPeriodId, event.instrumentId, event.currency, event.amount]

def texts (event : FundingEvent) : Dict String String where
  entries := keys.zip event.fields
  nodup := by simp [keys, fields]

/-- The event as it is exported. -/
def json (event : FundingEvent) : Json Unit := .ofTexts event.texts

/-- The call that applies the event again. -/
def call (event : FundingEvent) : FundingCall :=
  ⟨event.eventId, event.fundingPeriodId, event.instrumentId, event.currency, .text event.amount⟩

end FundingEvent

/-- `set(value) == keys`. -/
def hasKeys (keys expected : List String) : Bool :=
  decide ((∀ key ∈ keys, key ∈ expected) ∧ ∀ key ∈ expected, key ∈ keys)

/-- The shape check of an event. -/
def readEvent (value : Json Unit) : Option FundingEvent :=
  match value.texts? with
  | none => none
  | some texts =>
      if hasKeys texts.keys FundingEvent.keys then
        some ⟨(texts.get? "event_id").getD "", (texts.get? "funding_period_id").getD "",
          (texts.get? "instrument_id").getD "", (texts.get? "currency").getD "",
          (texts.get? "amount").getD ""⟩
      else none

namespace FundingLedger

section Checkpoints

variable [CaseMap] [Fingerprint]

/-- One turn of the event loop of `from_state`, with the ids seen. -/
def restoreEvent (progress : List String × FundingLedger) (value : Json Unit) :
    Except PerpetualError (List String × FundingLedger) :=
  match readEvent value with
  | none => .error ⟨"serialized funding event has invalid shape"⟩
  | some event => do
      if (∃ field ∈ event.fields, ¬ Normal field) ∨ event.currency ≠ upper event.currency then
        throw ⟨"serialized funding event identity is not canonical"⟩
      if event.eventId ∈ progress.1 then
        throw ⟨"serialized funding event identity is duplicated"⟩
      let amount ← decimal (.text event.amount) "amount"
      let written ← translateExact amount.canonicalText
      if written ≠ event.amount then
        throw ⟨"serialized funding event amount is not canonical"⟩
      let next ← applied progress.2 event.call
      return (progress.1 ++ [event.eventId], next)

/-- One turn of the balance loop of `from_state`. -/
def restoreBalance (balances : Dict String Decimal) (item : String × Json Unit) :
    Except PerpetualError (Dict String Decimal) :=
  match item.2 with
  | .str amount => do
      let unit ← text item.1 "currency"
      if upper unit ≠ item.1 then
        throw ⟨"serialized funding currency is not canonical"⟩
      let value ← decimal (.text amount) "balance"
      let written ← translateExact value.canonicalText
      if written ≠ amount then
        throw ⟨"serialized funding balance is not canonical"⟩
      return balances.set (upper unit) value
  | _ => .error ⟨"serialized funding units and amounts must be exact text"⟩

/-- The part of `from_state` that follows the shape checks. -/
def restore (events : List (Json Unit)) (balances : List (String × Json Unit)) :
    Except PerpetualError FundingLedger := do
  let expected ← balances.foldlM restoreBalance ∅
  let result ← events.foldlM restoreEvent ([], empty)
  if result.2.balances.same expected = false then
    throw ⟨"serialized funding balances do not match events"⟩
  return result.2

/-- `from_state`. -/
def fromState (state : Json Unit) : Except PerpetualError FundingLedger :=
  match state with
  | .obj members =>
      if hasKeys (members.map Prod.fst) ["schema_version", "events", "balances"] = false then
        .error ⟨"funding state has missing or unexpected components"⟩
      else if Dict.find? "schema_version" members ≠ some (.str "funding-ledger@1") then
        .error ⟨"unsupported funding state schema_version"⟩
      else match Dict.find? "events" members, Dict.find? "balances" members with
        | some (.arr events), some (.obj balances) => restore events balances
        | _, _ => .error ⟨"funding events and balances must be exact collections"⟩
  | _ => .error ⟨"funding state has missing or unexpected components"⟩

/-- The owner of a period by the fingerprint and the period. -/
def owners (ledger : FundingLedger) : Dict (String × String) (String × String × Decimal) :=
  (∅ : Dict (String × String) (String × String × Decimal)).setAll
    (ledger.periods.entries.map fun item =>
      ((item.2.fingerprint, item.1.2), (item.1.1, item.2.currency, item.2.amount)))

/-- One turn of the event loop of `export_state`. -/
def exportEvent (ledger : FundingLedger) (item : String × EventRecord) :
    Except PerpetualError (Json Unit) :=
  match ledger.owners.get? (item.2.fingerprint, item.2.period) with
  | none => .error ⟨"funding event is detached from its period state"⟩
  | some owner => do
      if owner.2 ≠ (item.2.currency, item.2.amount) then
        throw ⟨"funding event is detached from its period state"⟩
      let written ← translateExact item.2.amount.canonicalText
      return FundingEvent.json ⟨item.1, item.2.period, owner.1, item.2.currency, written⟩

/-- `sorted(self._balances.items())`, with the amounts as texts. -/
def exportBalances (ledger : FundingLedger) :
    Except PerpetualError (List (String × Json Unit)) :=
  (ledger.balances.entries.insertionSort fun left right => left.1 ≤ right.1).mapM fun item => do
    let written ← translateExact item.2.canonicalText
    return (item.1, .str written)

/-- `export_state`. -/
def exportState (ledger : FundingLedger) : Except PerpetualError (Json Unit) := do
  let events ← ledger.events.entries.mapM ledger.exportEvent
  let balances ← ledger.exportBalances
  let state : Json Unit := .obj [("schema_version", .str "funding-ledger@1"),
    ("events", .arr events), ("balances", .obj balances)]
  let restored ← fromState state
  if (restored.events.same ledger.events && restored.periods.same ledger.periods &&
      restored.balances.same ledger.balances) = false then
    throw ⟨"funding component state is inconsistent"⟩
  return state

end Checkpoints

end FundingLedger

end AutoTrade.Perpetuals
