import AutoTrade.Perpetuals.Applied

/-!
# Booked funding

The ledger after any calls is the ledger of its own events, applied in the order in which
they came.  A balance is the sum over the periods of its currency, each once, and the
periods are those of the calls that returned.
-/

namespace AutoTrade.Perpetuals

open Lib Numeric

/-- The economic content of a call. -/
structure FundingPayment where
  instrument : String
  period : String
  currency : String
  amount : Decimal
  deriving DecidableEq

/-- The payment of the read arguments. -/
def FundingArguments.payment (arguments : FundingArguments) : FundingPayment :=
  ⟨arguments.instrument, arguments.period, arguments.unit, arguments.value⟩

namespace FundingLedger

/-- The payment of an entry of `_periods`. -/
def periodPayment (item : (String × String) × PeriodRecord) : FundingPayment :=
  ⟨item.1.1, item.1.2, item.2.currency, item.2.amount⟩

/-- The sum of the payments in one currency. -/
def totalOf (payments : List FundingPayment) (unit : String) : ℚ :=
  ((payments.filter fun payment => payment.currency = unit).map fun payment =>
    payment.amount.toRat).sum

/-- An entry of `_events` and the event that is exported for it. -/
structure Logged (ledger : FundingLedger) (item : String × EventRecord) (event : FundingEvent) :
    Prop where
  eventId : event.eventId = item.1
  period : event.fundingPeriodId = item.2.period
  currency : event.currency = item.2.currency
  amount : item.2.amount.canonicalText = .ok event.amount
  owner : ledger.periods.get? (event.instrumentId, item.2.period) =
    some ⟨item.2.fingerprint, item.2.currency, item.2.amount⟩

/-- A new event of a ledger that keeps the periods. -/
theorem Logged.mono {ledger after : FundingLedger} {item : String × EventRecord}
    {event : FundingEvent} (logged : Logged ledger item event)
    (kept : ∀ key record, ledger.periods.get? key = some record →
      after.periods.get? key = some record) : Logged after item event :=
  { logged with owner := kept _ _ logged.owner }

theorem entries_setEvent {ledger : FundingLedger} {arguments : FundingArguments}
    (new : ledger.events.get? arguments.identifier = none) :
    (ledger.setEvent arguments).events.entries = ledger.events.entries ++
      [(arguments.identifier,
        ⟨arguments.fingerprint, arguments.period, arguments.unit, arguments.value⟩)] :=
  Dict.entries_set_of_get?_eq_none new _

section Sound

variable [CaseMap] [Fingerprint]

/-- The ledger of the logged events, which has the payments `paid`. -/
structure Sound (ledger : FundingLedger) (log : List FundingEvent)
    (paid : List FundingPayment) : Prop where
  replays : log.foldlM (fun current event => current.applied event.call) empty = .ok ledger
  logged : List.Forall₂ (Logged ledger) ledger.events.entries log
  canonical : ∀ event ∈ log, Canonical event
  digests : ∀ key record, ledger.periods.get? key = some record →
    fingerprint key.1 record.currency record.amount = .ok record.fingerprint
  payments : ∀ payment, payment ∈ paid ↔
    ∃ digest, ledger.periods.get? (payment.instrument, payment.period) =
      some ⟨digest, payment.currency, payment.amount⟩
  sums : ∀ unit, ((ledger.balances.get? unit).getD 0).toRat =
    totalOf (ledger.periods.entries.map periodPayment) unit
  units : ∀ unit ∈ ledger.balances.keys, Normal unit ∧ upper unit = unit

theorem sound_empty : Sound empty [] [] := by
  constructor
  · rfl
  · exact .nil
  · exact fun _ member => absurd member List.not_mem_nil
  · intro key record found
    cases found
  · intro payment
    constructor
    · intro member
      cases member
    · rintro ⟨_, found⟩
      cases found
  · intro unit
    rfl
  · intro unit member
    cases member

variable {ledger after : FundingLedger} {log : List FundingEvent} {paid : List FundingPayment}
  {arguments : FundingArguments} {event : FundingEvent} {value : Decimal}

theorem Sound.eventIds (sound : Sound ledger log paid) :
    log.map FundingEvent.eventId = ledger.events.keys := by
  have related := sound.logged
  clear sound
  rw [Dict.keys]
  generalize ledger.events.entries = entries at related ⊢
  induction related with
  | nil => rfl
  | cons first _ ih => rw [List.map_cons, List.map_cons, ih, first.eventId]

/-- The event of the arguments, applied to the ledger. -/
theorem Exported.applied (exported : Exported arguments event) (readable : Readable arguments)
    (booked : Booked ledger arguments value after) : ledger.applied event.call = .ok after :=
  applied_eq_ok.mpr ⟨value, apply_ok.mpr ⟨arguments, exported.readCall readable, booked⟩⟩

theorem Sound.replays_append (sound : Sound ledger log paid) (exported : Exported arguments event)
    (readable : Readable arguments) (booked : Booked ledger arguments value after) :
    (log ++ [event]).foldlM (fun current event => current.applied event.call) empty =
      .ok after := by
  rw [List.foldlM_append, sound.replays, ok_bind, List.foldlM_cons,
    Exported.applied exported readable booked]
  rfl

theorem Sound.canonical_append (sound : Sound ledger log paid)
    (exported : Exported arguments event) (readable : Readable arguments) :
    ∀ other ∈ log ++ [event], Canonical other := by
  intro other member
  rcases List.mem_append.mp member with earlier | last
  · exact sound.canonical other earlier
  · rw [List.mem_singleton.mp last]
    exact exported.canonical readable

/-- The payment of a known period with the same fingerprint. -/
theorem Sound.known_period (injective : Function.Injective (sha256 : String → String))
    (sound : Sound ledger log paid) (readable : Readable arguments) {instrument period : String}
    {record : PeriodRecord} (found : ledger.periods.get? (instrument, period) = some record)
    (same : record.fingerprint = arguments.fingerprint) :
    instrument = arguments.instrument ∧
      record = ⟨arguments.fingerprint, arguments.unit, arguments.value⟩ := by
  have digest := sound.digests _ _ found
  rw [same] at digest
  obtain ⟨sameInstrument, sameCurrency, sameAmount⟩ :=
    fingerprint_injective injective digest readable.digest
  refine ⟨sameInstrument, ?_⟩
  rw [← same, ← sameCurrency, ← sameAmount]

theorem Sound.payments_append (sound : Sound ledger log paid)
    (kept : ∀ key record, after.periods.get? key = some record ↔
      ledger.periods.get? key = some record ∨
        (key = (arguments.instrument, arguments.period) ∧
          record = ⟨arguments.fingerprint, arguments.unit, arguments.value⟩))
    (payment : FundingPayment) : payment ∈ paid ++ [arguments.payment] ↔
      ∃ digest, after.periods.get? (payment.instrument, payment.period) =
        some ⟨digest, payment.currency, payment.amount⟩ := by
  rw [List.mem_append, List.mem_singleton, sound.payments]
  simp only [kept]
  constructor
  · rintro (⟨digest, found⟩ | rfl)
    · exact ⟨digest, .inl found⟩
    · exact ⟨arguments.fingerprint, .inr ⟨rfl, rfl⟩⟩
  · rintro ⟨digest, found | ⟨sameKey, sameRecord⟩⟩
    · exact .inl ⟨digest, found⟩
    · right
      obtain ⟨instrument, period, currency, amount⟩ := payment
      simp only [Prod.mk.injEq, PeriodRecord.mk.injEq] at sameKey sameRecord
      rw [FundingArguments.payment, sameKey.1, sameKey.2, sameRecord.2.1, sameRecord.2.2]

/-- A call that finds its event pays what is paid. -/
theorem Sound.known (injective : Function.Injective (sha256 : String → String))
    (sound : Sound ledger log paid) (readable : Readable arguments) {existing : EventRecord}
    (found : ledger.events.get? arguments.identifier = some existing)
    (same : existing.fingerprint = arguments.fingerprint ∧ existing.period = arguments.period) :
    Sound ledger log (paid ++ [arguments.payment]) := by
  refine { sound with payments := sound.payments_append ?_ }
  obtain ⟨event, -, logged⟩ := exists_of_mem_forall₂ sound.logged.flip (Dict.mem_entries.mpr found)
  obtain ⟨sameInstrument, sameRecord⟩ := sound.known_period injective readable logged.owner same.1
  intro key record
  constructor
  · exact .inl
  · rintro (held | ⟨rfl, rfl⟩)
    · exact held
    · have owner := logged.owner
      rw [sameInstrument, same.2, sameRecord] at owner
      exact owner

/-- A call that adds an event to a known period. -/
theorem Sound.another (injective : Function.Injective (sha256 : String → String))
    (sound : Sound ledger log paid) (readable : Readable arguments)
    (exported : Exported arguments event) {existing : PeriodRecord}
    (new : ledger.events.get? arguments.identifier = none)
    (found : ledger.periods.get? (arguments.instrument, arguments.period) = some existing)
    (same : existing.fingerprint = arguments.fingerprint) :
    Sound (ledger.setEvent arguments) (log ++ [event]) (paid ++ [arguments.payment]) := by
  obtain ⟨-, record⟩ := sound.known_period injective readable found same
  rw [record] at found
  constructor
  · exact sound.replays_append exported readable (.another existing new (record ▸ found) same)
  · rw [entries_setEvent new]
    apply List.rel_append
    · exact sound.logged.imp fun _ _ logged => logged.mono fun _ _ => id
    · refine .cons ⟨exported.eventId, exported.period, exported.currency, exported.amount, ?_⟩ .nil
      rw [exported.instrument]
      exact found
  · exact sound.canonical_append exported readable
  · exact sound.digests
  · apply sound.payments_append
    intro key other
    constructor
    · exact .inl
    · rintro (held | ⟨rfl, rfl⟩)
      · exact held
      · exact found
  · exact sound.sums
  · exact sound.units

/-- A call that books a new period. -/
theorem Sound.first (sound : Sound ledger log paid) (readable : Readable arguments)
    (exported : Exported arguments event) {balance : Decimal}
    (new : ledger.events.get? arguments.identifier = none)
    (newPeriod : ledger.periods.get? (arguments.instrument, arguments.period) = none)
    (added : exactAdd ((ledger.balances.get? arguments.unit).getD 0) arguments.value =
      .ok balance) :
    Sound (((ledger.setEvent arguments).setPeriod arguments).setBalance arguments.unit balance)
      (log ++ [event]) (paid ++ [arguments.payment]) := by
  have kept : ∀ key record,
      ((ledger.setEvent arguments).setPeriod arguments).periods.get? key = some record ↔
        ledger.periods.get? key = some record ∨
          (key = (arguments.instrument, arguments.period) ∧
            record = ⟨arguments.fingerprint, arguments.unit, arguments.value⟩) := by
    intro key record
    rw [setPeriod, setEvent, Dict.get?_set]
    split
    next equal =>
      subst equal
      rw [newPeriod, Option.some.injEq, eq_comm]
      simp
    next different => simp [Ne.symm different]
  constructor
  · exact sound.replays_append exported readable (.first balance new newPeriod added)
  · have entries := entries_setEvent new
    rw [setEvent] at entries
    rw [setBalance, setPeriod, setEvent, entries]
    apply List.rel_append
    · exact sound.logged.imp fun _ _ logged => logged.mono fun key record held =>
        (kept key record).mpr (.inl held)
    · refine .cons ⟨exported.eventId, exported.period, exported.currency, exported.amount, ?_⟩ .nil
      rw [exported.instrument]
      exact (kept _ _).mpr (.inr ⟨rfl, rfl⟩)
  · exact sound.canonical_append exported readable
  · intro key record held
    rcases (kept key record).mp held with earlier | ⟨rfl, rfl⟩
    · exact sound.digests key record earlier
    · exact readable.digest
  · exact sound.payments_append kept
  · intro unit
    have periods : ((((ledger.setEvent arguments).setPeriod arguments).setBalance arguments.unit
        balance).periods.entries.map periodPayment) =
          ledger.periods.entries.map periodPayment ++ [arguments.payment] := by
      rw [setBalance, setPeriod, setEvent]
      dsimp only
      rw [Dict.entries_set_of_get?_eq_none newPeriod, List.map_append]
      rfl
    have before := sound.sums unit
    rw [periods, totalOf, List.filter_append, List.map_append, List.sum_append, ← totalOf, ← before]
    rw [setBalance, setPeriod, setEvent]
    dsimp only
    rw [Dict.get?_set]
    by_cases equal : arguments.unit = unit
    · subst equal
      rw [if_pos rfl, Option.getD_some, exactAdd_eq_ok.mp added]
      simp [FundingArguments.payment]
    · rw [if_neg equal]
      simp [FundingArguments.payment, equal]
  · intro unit member
    rw [setBalance] at member
    rcases Dict.mem_keys_set.mp member with rfl | earlier
    · exact ⟨readable.unit, readable.uppercase⟩
    · exact sound.units unit earlier

/-- A call that returns keeps the ledger sound, and logs its event if it is new. -/
theorem Sound.booked (injective : Function.Injective (sha256 : String → String))
    (sound : Sound ledger log paid) (readable : Readable arguments)
    (exported : Exported arguments event) (booked : Booked ledger arguments value after) :
    Sound after (if event.eventId ∈ log.map FundingEvent.eventId then log else log ++ [event])
      (paid ++ [arguments.payment]) := by
  rw [sound.eventIds, exported.eventId]
  have known : ∀ existing, ledger.events.get? arguments.identifier = some existing →
      arguments.identifier ∈ ledger.events.keys :=
    fun existing found => Dict.mem_keys.mpr ⟨existing, found⟩
  cases booked with
  | known existing found same =>
      rw [if_pos (known existing found)]
      exact sound.known injective readable found same
  | another existing new found same =>
      rw [if_neg (Dict.get?_eq_none.mp new)]
      exact sound.another injective readable exported new found same
  | first balance new newPeriod added =>
      rw [if_neg (Dict.get?_eq_none.mp new)]
      exact sound.first readable exported new newPeriod added

end Sound

/-! ## Runs -/

section Runs

variable [CaseMap] [Fingerprint]

/-- The ledger after the calls. -/
def ledgerAfter (ledger : FundingLedger) (calls : List FundingCall) : FundingLedger :=
  calls.foldl (fun current call => ((apply call).on current).2) ledger

/-- The payment of a call that returns. -/
def paidBy (ledger : FundingLedger) (call : FundingCall) : List FundingPayment :=
  match ((apply call).on ledger).1, readCall call with
  | .ok _, .ok arguments => [arguments.payment]
  | _, _ => []

/-- The payments of the calls that return. -/
def paid (ledger : FundingLedger) : List FundingCall → List FundingPayment
  | [] => []
  | call :: rest => ledger.paidBy call ++ paid ((apply call).on ledger).2 rest

variable {ledger : FundingLedger} {log : List FundingEvent} {payments : List FundingPayment}

theorem Sound.step (injective : Function.Injective (sha256 : String → String))
    (sound : Sound ledger log payments) (call : FundingCall) :
    ∃ logs, Sound ((apply call).on ledger).2 logs (payments ++ ledger.paidBy call) := by
  cases outcome : (apply call).on ledger with
  | mk result next =>
      cases result with
      | error error =>
          have same := apply_atomic call ledger error next outcome
          subst same
          refine ⟨log, ?_⟩
          rw [paidBy, outcome, List.append_nil]
          exact sound
      | ok value =>
          obtain ⟨arguments, read, booked⟩ := apply_ok.mp outcome
          obtain ⟨event, exported⟩ := exists_exported arguments
          have booking := sound.booked injective (readCall_readable read) exported booked
          rw [paidBy, outcome, read]
          exact ⟨_, booking⟩

theorem Sound.run (injective : Function.Injective (sha256 : String → String))
    (sound : Sound ledger log payments) (calls : List FundingCall) :
    ∃ logs, Sound (ledger.ledgerAfter calls) logs (payments ++ ledger.paid calls) := by
  induction calls generalizing ledger log payments with
  | nil =>
      refine ⟨log, ?_⟩
      rw [FundingLedger.paid, List.append_nil]
      exact sound
  | cons call rest ih =>
      obtain ⟨logs, next⟩ := sound.step injective call
      obtain ⟨later, reached⟩ := ih next
      refine ⟨later, ?_⟩
      rw [FundingLedger.paid, ← List.append_assoc]
      exact reached

/-- The ledger of any calls is the ledger of its own events. -/
theorem exists_sound (injective : Function.Injective (sha256 : String → String))
    (calls : List FundingCall) :
    ∃ log, Sound (empty.ledgerAfter calls) log (empty.paid calls) :=
  sound_empty.run injective calls

end Runs

end FundingLedger

end AutoTrade.Perpetuals
