import AutoTrade.Perpetuals.FundingLedger

/-!
# Applied funding calls

A call of `apply` that returns finds its event, adds an event to a known period or books a
new period, and a call that raises assigns nothing.  The arguments are read once; read again
from the canonical event they are the same.
-/

namespace AutoTrade.Perpetuals

open Lib Numeric

attribute [local instance] FloatText.none

theorem translateExact_eq_ok {α : Type} {computation : Except ExactDecimalError α} {result : α} :
    translateExact computation = .ok result ↔ computation = .ok result :=
  mapError_eq_ok

theorem text_eq_ok {value name result : String} :
    text value name = .ok result ↔ strip value ≠ "" ∧ strip value = result := by
  rw [text]
  split
  next empty => simp [empty]
  next nonempty => simp [nonempty]

theorem text_normal {value name result : String} (success : text value name = .ok result) :
    Normal result := by
  obtain ⟨nonempty, rfl⟩ := text_eq_ok.mp success
  exact normal_strip nonempty

theorem text_of_normal {value : String} (name : String) (normal : Normal value) :
    text value name = .ok value := by
  rw [text_eq_ok, normal.1]
  exact ⟨normal.2, rfl⟩

/-! ## Texts of amounts -/

/-- The canonical text of an amount is read back as the amount. -/
theorem decimal_canonicalText {value : Decimal} {written name : String}
    (success : value.canonicalText = .ok written) : decimal (.text written) name = .ok value := by
  obtain ⟨found, foundEq, read⟩ := value.exists_canonicalText
  rw [success, Except.ok.injEq] at foundEq
  rw [decimal, if_neg (by simp), foundEq, read true]
  rfl

theorem canonicalText_injective {left right : Decimal} {written : String}
    (first : left.canonicalText = .ok written) (second : right.canonicalText = .ok written) :
    left = right := by
  have read := @decimal_canonicalText _ _ "amount" first
  rw [decimal_canonicalText second] at read
  exact (Except.ok.inj read).symm

/-! ## Fingerprints -/

theorem exists_asciiText (texts : Dict String String) :
    ∃ written, (Json.ofTexts texts : Json Unit).asciiText = some written := by
  rw [Json.asciiText, Json.canonicalText, if_pos (Json.ofTexts_writable texts)]
  exact ⟨_, rfl⟩

section Fingerprints

variable [Fingerprint]

/-- A fingerprint identifies the instrument, the currency and the amount. -/
theorem fingerprint_injective (injective : Function.Injective (sha256 : String → String))
    {instrument other currency unit digest : String} {amount value : Decimal}
    (first : fingerprint instrument currency amount = .ok digest)
    (second : fingerprint other unit value = .ok digest) :
    instrument = other ∧ currency = unit ∧ amount = value := by
  simp only [fingerprint, bind_eq_ok, translateExact_eq_ok, pure_eq_ok] at first second
  obtain ⟨written, writtenEq, firstEq⟩ := first
  obtain ⟨others, othersEq, secondEq⟩ := second
  have digests := injective (firstEq.trans secondEq.symm)
  obtain ⟨payload, payloadEq⟩ := exists_asciiText (fingerprintTexts instrument currency written)
  obtain ⟨payload', payloadEq'⟩ := exists_asciiText (fingerprintTexts other unit others)
  rw [payloadEq, payloadEq', Option.getD_some, Option.getD_some] at digests
  subst digests
  have normals := Json.asciiText_injective (Json.ofTexts_distinct _) (Json.ofTexts_distinct _)
    payloadEq payloadEq'
  have lookups := Json.normal_ofTexts_eq_iff.mp normals
  have instruments := congrFun lookups "instrument_id"
  have currencies := congrFun lookups "currency"
  have amounts := congrFun lookups "amount"
  simp only [Dict.get?, fingerprintTexts, Dict.find?, if_true, Option.some.injEq] at instruments
  simp [Dict.get?, fingerprintTexts, Dict.find?] at currencies
  simp [Dict.get?, fingerprintTexts, Dict.find?] at amounts
  subst amounts
  exact ⟨instruments, currencies, canonicalText_injective writtenEq othersEq⟩

end Fingerprints

/-! ## Arguments -/

/-- What the readers guarantee. -/
structure Readable [CaseMap] [Fingerprint] (arguments : FundingArguments) : Prop where
  identifier : Normal arguments.identifier
  period : Normal arguments.period
  instrument : Normal arguments.instrument
  unit : Normal arguments.unit
  uppercase : upper arguments.unit = arguments.unit
  digest : Perpetuals.fingerprint arguments.instrument arguments.unit arguments.value =
    .ok arguments.fingerprint

/-- An event whose fields `from_state` accepts. -/
structure Canonical [CaseMap] (event : FundingEvent) : Prop where
  normal : ∀ field ∈ event.fields, Normal field
  uppercase : upper event.currency = event.currency
  amount : ∃ value : Decimal, value.canonicalText = .ok event.amount

/-- The event that `export_state` writes for the arguments. -/
structure Exported (arguments : FundingArguments) (event : FundingEvent) : Prop where
  eventId : event.eventId = arguments.identifier
  period : event.fundingPeriodId = arguments.period
  instrument : event.instrumentId = arguments.instrument
  currency : event.currency = arguments.unit
  amount : arguments.value.canonicalText = .ok event.amount

theorem exists_exported (arguments : FundingArguments) :
    ∃ event, Exported arguments event := by
  obtain ⟨written, writtenEq, -⟩ := arguments.value.exists_canonicalText
  exact ⟨⟨_, _, _, _, written⟩, rfl, rfl, rfl, rfl, writtenEq⟩

section Arguments

variable [CaseMap] [Fingerprint]

theorem readCall_readable {call : FundingCall} {arguments : FundingArguments}
    (success : readCall call = .ok arguments) : Readable arguments := by
  simp only [readCall, bind_eq_ok, pure_eq_ok] at success
  obtain ⟨_, identifier, _, period, _, instrument, _, currency, _, -, _, digest, rfl⟩ := success
  exact ⟨text_normal identifier, text_normal period, text_normal instrument,
    normal_upper (text_normal currency), CaseMap.upper_upper _, digest⟩

theorem Exported.canonical {arguments : FundingArguments} {event : FundingEvent}
    (exported : Exported arguments event) (readable : Readable arguments) : Canonical event := by
  constructor
  · intro field member
    simp only [FundingEvent.fields, List.mem_cons, List.not_mem_nil, or_false] at member
    rcases member with rfl | rfl | rfl | rfl | rfl
    · rw [exported.eventId]
      exact readable.identifier
    · rw [exported.period]
      exact readable.period
    · rw [exported.instrument]
      exact readable.instrument
    · rw [exported.currency]
      exact readable.unit
    · exact Decimal.normal_canonicalText exported.amount
  · rw [exported.currency]
    exact readable.uppercase
  · exact ⟨arguments.value, exported.amount⟩

/-- The arguments are read again from their event. -/
theorem Exported.readCall {arguments : FundingArguments} {event : FundingEvent}
    (exported : Exported arguments event) (readable : Readable arguments) :
    readCall event.call = .ok arguments := by
  have canonical := exported.canonical readable
  have normal : ∀ field ∈ event.fields, Normal field := canonical.normal
  simp only [FundingEvent.fields, List.forall_mem_cons] at normal
  obtain ⟨identifier, period, instrument, currency, -⟩ := normal
  rw [Perpetuals.readCall, FundingEvent.call, text_of_normal _ identifier, ok_bind,
    text_of_normal _ period, ok_bind, text_of_normal _ instrument, ok_bind,
    text_of_normal _ currency, ok_bind, decimal_canonicalText exported.amount, ok_bind,
    canonical.uppercase, exported.instrument, exported.currency, readable.digest, ok_bind,
    exported.eventId, exported.period]
  rfl

/-- A canonical event is the event of the arguments that are read from it. -/
theorem Canonical.exported {event : FundingEvent} (canonical : Canonical event)
    {arguments : FundingArguments} (success : Perpetuals.readCall event.call = .ok arguments) :
    Exported arguments event := by
  have normal : ∀ field ∈ event.fields, Normal field := canonical.normal
  simp only [FundingEvent.fields, List.forall_mem_cons] at normal
  obtain ⟨identifier, period, instrument, currency, -⟩ := normal
  obtain ⟨value, written⟩ := canonical.amount
  rw [Perpetuals.readCall, FundingEvent.call, text_of_normal _ identifier, ok_bind,
    text_of_normal _ period, ok_bind, text_of_normal _ instrument, ok_bind,
    text_of_normal _ currency, ok_bind, decimal_canonicalText written, ok_bind,
    bind_eq_ok] at success
  obtain ⟨digest, -, success⟩ := success
  rw [pure_eq_ok] at success
  subst success
  exact ⟨rfl, rfl, rfl, canonical.uppercase.symm, written⟩

end Arguments

/-! ## Calls -/

namespace FundingLedger

/-- What a call on read arguments that returns does. -/
inductive Booked (ledger : FundingLedger) (arguments : FundingArguments) :
    Decimal → FundingLedger → Prop where
  /-- The event is known. -/
  | known (existing : EventRecord)
      (found : ledger.events.get? arguments.identifier = some existing)
      (same : existing.fingerprint = arguments.fingerprint ∧ existing.period = arguments.period) :
      Booked ledger arguments existing.amount ledger
  /-- Another event of a known period. -/
  | another (existing : PeriodRecord) (new : ledger.events.get? arguments.identifier = none)
      (found : ledger.periods.get? (arguments.instrument, arguments.period) = some existing)
      (same : existing.fingerprint = arguments.fingerprint) :
      Booked ledger arguments existing.amount (ledger.setEvent arguments)
  /-- The first event of a period. -/
  | first (balance : Decimal) (new : ledger.events.get? arguments.identifier = none)
      (newPeriod : ledger.periods.get? (arguments.instrument, arguments.period) = none)
      (added : exactAdd ((ledger.balances.get? arguments.unit).getD 0) arguments.value =
        .ok balance) :
      Booked ledger arguments arguments.value
        (((ledger.setEvent arguments).setPeriod arguments).setBalance arguments.unit balance)

theorem applyArguments_ok {ledger after : FundingLedger} {arguments : FundingArguments}
    {value : Decimal} : (applyArguments arguments).on ledger = (.ok value, after) ↔
      Booked ledger arguments value after := by
  rw [applyArguments, Mutation.on_bind, Mutation.on_self]
  dsimp only
  constructor
  · intro returned
    split at returned
    next existing found =>
      split at returned
      · cases returned
      next same =>
        rw [not_or, not_not, not_not] at same
        cases returned
        exact .known existing found same
    next new =>
      split at returned
      next existing found =>
        split at returned
        · cases returned
        next same =>
          rw [not_not] at same
          cases returned
          exact .another existing new found same
      next newPeriod =>
        cases added : exactAdd ((ledger.balances.get? arguments.unit).getD 0) arguments.value with
        | error error =>
            rw [added] at returned
            cases returned
        | ok balance =>
            rw [added] at returned
            cases returned
            exact .first balance new newPeriod added
  · intro booked
    cases booked with
    | known existing found same =>
        rw [found]
        dsimp only
        rw [if_neg (by simp [same.1, same.2])]
        rfl
    | another existing new found same =>
        rw [new, found]
        dsimp only
        rw [if_neg (by simp [same])]
        rfl
    | first balance new newPeriod added =>
        rw [new, newPeriod]
        dsimp only
        rw [added]
        rfl

theorem applyArguments_atomic (arguments : FundingArguments) :
    Mutation.Atomic (applyArguments arguments) := by
  apply Mutation.reads_self.atomic_bind
  intro ledger
  split
  · exact Mutation.atomic_guard (Mutation.reads_pure _).atomic
  split
  · exact Mutation.atomic_guard
      ((Mutation.returns_assign _).bind fun _ => Mutation.returns_pure _).atomic
  · apply (Mutation.reads_checked _).atomic_bind
    intro balance
    exact ((Mutation.returns_assign _).bind fun _ => (Mutation.returns_assign _).bind fun _ =>
      (Mutation.returns_assign _).bind fun _ => Mutation.returns_pure _).atomic

section Calls

variable [CaseMap] [Fingerprint]

/-- A call that raises changes nothing. -/
theorem apply_atomic (call : FundingCall) : Mutation.Atomic (apply call) :=
  (Mutation.reads_checked _).atomic_bind applyArguments_atomic

theorem apply_on (ledger : FundingLedger) (call : FundingCall) :
    (apply call).on ledger = match readCall call with
      | .error error => (.error error, ledger)
      | .ok arguments => (applyArguments arguments).on ledger := by
  rw [apply, Mutation.on_bind, Mutation.on_checked]
  cases readCall call <;> rfl

theorem apply_ok {ledger after : FundingLedger} {call : FundingCall} {value : Decimal} :
    (apply call).on ledger = (.ok value, after) ↔
      ∃ arguments, readCall call = .ok arguments ∧ Booked ledger arguments value after := by
  rw [apply_on]
  cases read : readCall call with
  | error error => simp
  | ok arguments => simp [applyArguments_ok]

theorem applied_eq_ok {ledger after : FundingLedger} {call : FundingCall} :
    ledger.applied call = .ok after ↔
      ∃ value, (apply call).on ledger = (.ok value, after) := by
  rw [applied]
  cases outcome : (apply call).on ledger with
  | mk result later =>
      cases result with
      | error error => simp [Except.map]
      | ok value => simp [Except.map]

end Calls

end FundingLedger

end AutoTrade.Perpetuals
