import AutoTrade.CorporateActions.Equity
import AutoTrade.Lib.Grouping
import Mathlib.Data.List.Sort
import Mathlib.Data.Prod.Lex

/-!
# The corporate-action book

`CorporateActionBook`: the application of an event to the state of one instrument,
the fences that order the events, the change to a successor version, and the two ways
to rebuild a book, from its initial state and from a checkpoint.
-/

namespace AutoTrade.CorporateActions

open Lib Numeric Instruments

/-! ## Events -/

/-- The kinds of corporate events. -/
inductive EventKind where
  | split
  | cashDividend
  | mergerCash
  | delist
  | symbolChange
  deriving DecidableEq, Repr

/-- The text of a kind. -/
def EventKind.text : EventKind → String
  | .split => "SPLIT"
  | .cashDividend => "CASH_DIVIDEND"
  | .mergerCash => "MERGER_CASH"
  | .delist => "DELIST"
  | .symbolChange => "SYMBOL_CHANGE"

/-- `CorporateEvent` after `__post_init__`. -/
structure CorporateEvent where
  eventId : String
  instrumentId : String
  instrumentVersion : Nat
  kind : EventKind
  effectiveDate : Date
  sourceRevision : String
  payload : Dict String String
  sourceSequence : Option Nat
  effectiveAt : Option Datetime
  eventNormal : Normal eventId
  instrumentNormal : Normal instrumentId
  revisionNormal : Normal sourceRevision
  version_pos : 1 ≤ instrumentVersion
  keysNormal : ∀ key ∈ payload.keys, Normal key
  dated : ∀ instant ∈ effectiveAt, instant.1.date = effectiveDate

/-- The keys of a payload with two fields. -/
theorem normal_keys {first second left right : String} (firstNormal : Normal first)
    (secondNormal : Normal second) :
    ∀ key ∈ (((∅ : Dict String String).set first left).set second right).keys, Normal key := by
  intro key member
  rcases Dict.mem_keys_set.mp member with rfl | member
  · exact secondNormal
  · rcases Dict.mem_keys_set.mp member with rfl | member
    · exact firstNormal
    · rw [Dict.keys_empty] at member
      exact absurd member List.not_mem_nil

namespace CorporateEvent

/-- `left == right`, which compares the payloads as dictionaries. -/
def same (left right : CorporateEvent) : Bool :=
  left.eventId = right.eventId && left.instrumentId = right.instrumentId &&
    left.instrumentVersion = right.instrumentVersion && left.kind = right.kind &&
    left.effectiveDate = right.effectiveDate && left.sourceRevision = right.sourceRevision &&
    left.payload.same right.payload && left.sourceSequence = right.sourceSequence &&
    left.effectiveAt = right.effectiveAt

/-- `set(event.payload) == keys`. -/
def HasKeys (event : CorporateEvent) (keys : List String) : Prop :=
  (∀ key ∈ event.payload.keys, key ∈ keys) ∧ ∀ key ∈ keys, key ∈ event.payload.keys

instance (event : CorporateEvent) (keys : List String) : Decidable (event.HasKeys keys) :=
  inferInstanceAs (Decidable (_ ∧ _))

/-- `event.payload.get(key)` as an argument of `_decimal`, where `Decimal(None)`
raises like a text that is no number. -/
def amount (event : CorporateEvent) (key : String) : AmountInput :=
  match event.payload.get? key with
  | none => .nonFinite
  | some value => .text value

/-- The event that `_delist` hands to `_merger_cash`. -/
def merger (event : CorporateEvent) : CorporateEvent where
  eventId := event.eventId
  instrumentId := event.instrumentId
  instrumentVersion := event.instrumentVersion
  kind := .mergerCash
  effectiveDate := event.effectiveDate
  sourceRevision := event.sourceRevision
  payload := ((∅ : Dict String String).set "cash_per_share"
    ((event.payload.get? "cash_per_share").getD "")).set "currency"
    ((event.payload.get? "currency").getD "")
  sourceSequence := none
  effectiveAt := none
  eventNormal := event.eventNormal
  instrumentNormal := event.instrumentNormal
  revisionNormal := event.revisionNormal
  version_pos := event.version_pos
  keysNormal := normal_keys (by decide) (by decide)
  dated _ member := absurd member (Option.not_mem_none _)

end CorporateEvent

/-! ## Versions -/

/-- The fields of a version that a symbol change may not change. -/
structure Economics where
  assetClass : String
  baseCurrency : String
  quoteCurrency : String
  settlementCurrency : String
  quantityUnit : String
  contractMultiplier : Decimal
  deriving DecidableEq

/-- `changed_economic_fields`. -/
def Economics.changedFields (successor current : Economics) : List String :=
  ([("asset_class", decide (successor.assetClass = current.assetClass)),
    ("base_currency", decide (successor.baseCurrency = current.baseCurrency)),
    ("quote_currency", decide (successor.quoteCurrency = current.quoteCurrency)),
    ("settlement_currency", decide (successor.settlementCurrency = current.settlementCurrency)),
    ("quantity_unit", decide (successor.quantityUnit = current.quantityUnit)),
    ("contract_multiplier",
      decide (successor.contractMultiplier = current.contractMultiplier))].filter
    fun field => !field.2).map Prod.fst

/-- The content of a version, with the fields that no corporate action reads. -/
structure Content (β : Type) where
  economics : Economics
  rest : β
  deriving DecidableEq

/-! ## The book -/

/-- `Transition`. -/
structure Transition [CaseMap] where
  eventId : String
  before : EquityState
  after : EquityState
  economicPnl : FiniteDecimal
  reason : String

/-- `CorporateActionBook`. -/
structure CorporateActionBook [CaseMap] (γ β : Type) where
  state : EquityState
  instrumentVersion : InstrumentVersion (Content β)
  registry : InstrumentRegistry γ (Content β)
  events : Dict String (CorporateEvent × Transition)
  lastEffectiveDate : Option Date
  lastSourceSequence : Option Nat

variable [CaseMap] [DigitMap] {γ β : Type}

namespace CorporateActionBook

/-- `CorporateActionBook(state, instrument_version=..., registry=...)`. -/
def new [DecidableEq β] (state : EquityState) (instrumentVersion : InstrumentVersion (Content β))
    (registry : InstrumentRegistry γ (Content β)) :
    Except CorporateActionError (CorporateActionBook γ β) := do
  let economics := instrumentVersion.content.economics
  if economics.assetClass ≠ "CASH_EQUITY" then
    throw (.valueError "corporate-action book requires a CASH_EQUITY instrument")
  if ((registry.versions instrumentVersion.instrumentId).filter fun item =>
      item.version = instrumentVersion.version) ≠ [instrumentVersion] then
    throw (.valueError
      "instrument_version must be the exact version registered in InstrumentRegistry")
  if state.symbol ≠ instrumentVersion.providerSymbol then
    throw (.valueError "equity state symbol does not match bound instrument version")
  let settlementCurrency ← text economics.settlementCurrency "instrument settlement_currency"
  if state.currency ≠ upper settlementCurrency.1 then
    throw (.valueError
      "equity state currency does not match bound instrument settlement currency")
  return ⟨state, instrumentVersion, registry, ∅, none, none⟩

/-- `_cash_event_amount`. -/
def cashEventAmount (book : CorporateActionBook γ β) (event : CorporateEvent)
    (amountKey : String) : Except CorporateActionError NonnegativeDecimal := do
  if ¬ event.HasKeys [amountKey, "currency"] then
    throw (.valueError s!"{event.kind.text} requires exactly {amountKey} and currency")
  let currency ← text ((event.payload.get? "currency").getD "") "currency"
  let expected := upper book.instrumentVersion.content.economics.settlementCurrency
  if upper currency.1 ≠ expected ∨ upper currency.1 ≠ book.state.currency then
    throw (.valueError
      "corporate-action cash currency does not match bound settlement currency")
  nonnegative (event.amount amountKey) amountKey

/-- `_split`. -/
def split (book : CorporateActionBook γ β) (event : CorporateEvent) :
    Except CorporateActionError Transition := do
  if ¬ event.HasKeys ["numerator", "denominator"] then
    throw (.valueError "split requires exactly numerator and denominator")
  let numerator ← positive (event.amount "numerator") "numerator"
  let denominator ← positive (event.amount "denominator") "denominator"
  let ratio ← divide numerator.1 denominator.1
  let before := book.state
  let quantity ← multiply before.quantity ratio
  let borrowed ← multiply before.borrowedQuantity.1 ratio
  let recalled ← multiply before.recalledQuantity.1 ratio
  let after ← EquityState.make { before.fields with
    quantity := .decimal quantity
    borrowedQuantity := .decimal borrowed
    recalledQuantity := .decimal recalled }
  return ⟨event.eventId, before, after, 0, "share quantity adjusted; total basis unchanged"⟩

/-- `_cash_dividend`. -/
def cashDividend (book : CorporateActionBook γ β) (event : CorporateEvent) :
    Except CorporateActionError Transition := do
  let perShare ← book.cashEventAmount event "per_share"
  let before := book.state
  let entitlement ← multiply before.quantity perShare.1
  let unsettledCash ← add before.unsettledCash entitlement
  let after ← EquityState.make { before.fields with unsettledCash := .decimal unsettledCash }
  return ⟨event.eventId, before, after, entitlement,
    "dividend recorded as unsettled cash until settlement evidence"⟩

/-- `_merger_cash`. -/
def mergerCash (book : CorporateActionBook γ β) (event : CorporateEvent) :
    Except CorporateActionError Transition := do
  let cashPerShare ← book.cashEventAmount event "cash_per_share"
  let before := book.state
  if before.borrowedQuantity.1 ≠ 0 then
    throw (.valueError
      "cash merger with unresolved borrowed quantity requires explicit provider handling")
  let proceeds ← multiply before.quantity cashPerShare.1
  let pnl ← subtract proceeds before.totalBasis.1
  let unsettledCash ← add before.unsettledCash proceeds
  let after ← EquityState.make { before.fields with
    quantity := .decimal 0
    totalBasis := .decimal 0
    unsettledCash := .decimal unsettledCash }
  return ⟨event.eventId, before, after, pnl,
    "shares extinguished and cash consideration recorded unsettled"⟩

/-- `_delist`. -/
def delist (book : CorporateActionBook γ β) (event : CorporateEvent) :
    Except CorporateActionError Transition :=
  if ¬ event.HasKeys ["cash_per_share", "currency"] then
    .error (.valueError "delisting requires exactly cash_per_share and currency")
  else book.mergerCash event.merger

/-- `int(raw_version)` of a canonical positive integer. -/
def successorVersion (rawVersion : String) : Except CorporateActionError Nat :=
  let digits := rawVersion.toList
  if digits = [] ∨ digits.head? = some '0' ∨ ¬ digits.all isAsciiDigit then
    .error (.valueError "successor_instrument_version must be a canonical positive integer")
  else if 4300 < digits.length then
    .error (.valueError ("Exceeds the limit (4300 digits) for integer string conversion: value has "
      ++ s!"{digits.length} digits; use sys.set_int_max_str_digits() to increase the limit"))
  else .ok (digitsValue digits)

/-- `_symbol_change`. -/
def symbolChange (book : CorporateActionBook γ β) (event : CorporateEvent) :
    Except CorporateActionError (Transition × InstrumentVersion (Content β)) := do
  if ¬ event.HasKeys ["successor_instrument_version"] then
    throw (.valueError "symbol change requires only successor_instrument_version")
  let version ← successorVersion
    ((event.payload.get? "successor_instrument_version").getD "")
  let current := book.instrumentVersion
  if version ≠ current.version + 1 then
    throw (.valueError "symbol change successor must be the next instrument version")
  match (book.registry.versions current.instrumentId).filter fun item =>
      item.version = version with
  | [successor] =>
      if successor.instrumentId ≠ current.instrumentId then
        throw (.valueError "symbol change cannot change immutable instrument_id")
      if event.effectiveAt = none then
        throw (.valueError "symbol change requires exact timezone-aware effective_at")
      if event.effectiveAt ≠ some successor.effectiveFrom then
        throw (.valueError
          "symbol change effective_at does not match successor effective_from")
      if successor.providerId ≠ current.providerId ∨ successor.venueId ≠ current.venueId then
        throw (.valueError
          "symbol change successor must preserve provider and venue identity")
      if successor.providerSymbol = current.providerSymbol then
        throw (.valueError
          "symbol change successor must carry a different provider symbol")
      let changed := successor.content.economics.changedFields current.content.economics
      if changed ≠ [] then
        throw (.valueError ("symbol change successor changes economic identity: " ++
          ", ".intercalate changed))
      let before := book.state
      let after ← EquityState.make { before.fields with symbol := successor.providerSymbol }
      return (⟨event.eventId, before, after, 0,
        "instrument version advanced to registered successor; economic position unchanged"⟩,
        successor)
  | _ =>
      throw (.valueError "symbol change successor is not registered in InstrumentRegistry")

/-- The checks of `apply` on the instrument and the order of an event. -/
def checkOrder (book : CorporateActionBook γ β) (event : CorporateEvent) :
    Except CorporateActionError Unit := do
  if event.instrumentId ≠ book.instrumentVersion.instrumentId ∨
      event.instrumentVersion ≠ book.instrumentVersion.version then
    throw (.valueError "corporate event instrument identity mismatch")
  match book.lastEffectiveDate with
  | none => return
  | some last =>
      if event.effectiveDate < last then
        throw (.valueError
          "corporate events must be applied in non-decreasing effective-date order")
      if event.effectiveDate = last then
        match book.lastSourceSequence, event.sourceSequence with
        | some earlier, some later =>
            if later ≤ earlier then
              throw (.valueError
                "same-date corporate events must follow increasing source_sequence")
        | _, _ =>
            throw (.valueError
              "same-date corporate events require authoritative source_sequence")

/-- The transition of an event, and the version that replaces the bound one. -/
def transition (book : CorporateActionBook γ β) (event : CorporateEvent) :
    Except CorporateActionError (Transition × Option (InstrumentVersion (Content β))) :=
  match event.kind with
  | .split => do return (← book.split event, none)
  | .cashDividend => do return (← book.cashDividend event, none)
  | .mergerCash => do return (← book.mergerCash event, none)
  | .delist => do return (← book.delist event, none)
  | .symbolChange => do
      let (transition, successor) ← book.symbolChange event
      return (transition, some successor)

/-- The assignments at the end of `apply`. -/
def record (book : CorporateActionBook γ β) (event : CorporateEvent) (transition : Transition)
    (successor : Option (InstrumentVersion (Content β))) : CorporateActionBook γ β where
  state := transition.after
  instrumentVersion := successor.getD book.instrumentVersion
  registry := book.registry
  events := book.events.set event.eventId (event, transition)
  lastEffectiveDate := some event.effectiveDate
  lastSourceSequence := event.sourceSequence

/-- The statements of `apply`, with the book after its assignments. -/
def accept (book : CorporateActionBook γ β) (event : CorporateEvent) :
    Except CorporateActionError (Transition × CorporateActionBook γ β) :=
  match book.events.get? event.eventId with
  | some (priorEvent, transition) =>
      if priorEvent.same event then .ok (transition, book)
      else .error (.valueError
        "corporate event identity was reused with different content")
  | none => do
      book.checkOrder event
      let (transition, successor) ← book.transition event
      return (transition, book.record event transition successor)

/-- `apply`, which assigns after its last statement that may raise. -/
def apply (book : CorporateActionBook γ β) (event : CorporateEvent) :
    Except CorporateActionError Transition × CorporateActionBook γ β :=
  match book.accept event with
  | .error error => (.error error, book)
  | .ok (transition, next) => (.ok transition, next)

end CorporateActionBook

end AutoTrade.CorporateActions
