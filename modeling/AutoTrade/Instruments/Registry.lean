import AutoTrade.Lib.Dict
import AutoTrade.Lib.Raise
import AutoTrade.Lib.Text
import AutoTrade.Lib.Time
import AutoTrade.Lib.Timeline

/-!
# Instrument registry

The append-only history of instrument versions in `instruments.py`: calendars,
versions with half-open intervals of validity, admission, and the lookups by
instrument and by provider symbol.  The fields of a version that neither
admission nor a lookup reads are its content.
-/

namespace AutoTrade.Instruments

open Lib

/-- `InstrumentRegistryError` and its two subclasses, with their messages. -/
inductive RegistryError where
  | invalid (message : String)
  | conflict (message : String)
  | notFound (message : String)
  deriving DecidableEq, Repr

/-- `datetime.min` in UTC. -/
def datetimeMin : Instant := ⟨-62135596800000000⟩

/-- `datetime.max` in UTC. -/
def datetimeMax : Instant := ⟨253402300799999999⟩

/-- A `datetime` in UTC. -/
abbrev Datetime : Type := { instant : Instant // datetimeMin ≤ instant ∧ instant ≤ datetimeMax }

namespace Datetime

/-- The last `datetime`. -/
def max : Datetime := ⟨datetimeMax, by decide, le_refl _⟩

theorem le_max (instant : Datetime) : instant ≤ max := instant.property.2

end Datetime

/-- `_text`. -/
def text (value field : String) : Except RegistryError String :=
  if strip value = "" then .error (.invalid (field ++ " is required")) else .ok (strip value)

/-- `TradingCalendar` with the sessions, transitions and overrides as its rest. -/
structure TradingCalendar (γ : Type) where
  calendarId : String
  timezoneId : String
  rest : γ
  deriving DecidableEq

/-- `InstrumentVersion`, whose constructor checks the number and the end. -/
structure InstrumentVersion (β : Type) where
  instrumentId : String
  version : Nat
  providerId : String
  venueId : String
  providerSymbol : String
  calendarId : String
  timezoneId : String
  effectiveFrom : Datetime
  effectiveTo : Option Datetime
  content : β
  version_pos : 1 ≤ version
  ends_after : ∀ limit ∈ effectiveTo, effectiveFrom < limit
  deriving DecidableEq

namespace InstrumentVersion

variable {β : Type}

/-- `contains`. -/
def contains (version : InstrumentVersion β) (instant : Datetime)
    (implicitEnd : Option Datetime) : Prop :=
  Inside version.effectiveFrom (clip version.effectiveTo implicitEnd) instant

instance (version : InstrumentVersion β) (instant : Datetime) (implicitEnd : Option Datetime) :
    Decidable (version.contains instant implicitEnd) :=
  inferInstanceAs (Decidable (Inside _ _ _))

/-- Two versions name one provider symbol. -/
def SameSymbol (left right : InstrumentVersion β) : Prop :=
  left.providerId = right.providerId ∧ left.venueId = right.venueId ∧
    left.providerSymbol = right.providerSymbol

instance (left right : InstrumentVersion β) : Decidable (left.SameSymbol right) :=
  inferInstanceAs (Decidable (_ ∧ _ ∧ _))

end InstrumentVersion

/-- An interval of `_intervals`. -/
structure Interval (β : Type) where
  instrumentId : String
  version : InstrumentVersion β
  start : Datetime
  stop : Option Datetime

/-- `_overlap`, where an interval without end stops at `datetime.max`. -/
def overlap (leftStart : Datetime) (leftEnd : Option Datetime) (rightStart : Datetime)
    (rightEnd : Option Datetime) : Prop :=
  leftStart < rightEnd.getD Datetime.max ∧ rightStart < leftEnd.getD Datetime.max

instance (leftStart : Datetime) (leftEnd : Option Datetime) (rightStart : Datetime)
    (rightEnd : Option Datetime) : Decidable (overlap leftStart leftEnd rightStart rightEnd) :=
  inferInstanceAs (Decidable (_ ∧ _))

/-- Intervals of different instruments that the admission refuses. -/
def Interval.Conflicts {β : Type} (left right : Interval β) : Prop :=
  left.instrumentId ≠ right.instrumentId ∧ left.version.SameSymbol right.version ∧
    overlap left.start left.stop right.start right.stop

instance {β : Type} (left right : Interval β) : Decidable (left.Conflicts right) :=
  inferInstanceAs (Decidable (_ ∧ _ ∧ _))

/-- `InstrumentRegistry`. -/
structure InstrumentRegistry (γ β : Type) where
  calendars : Dict String (TradingCalendar γ)
  histories : Dict String (List (InstrumentVersion β))

namespace InstrumentRegistry

variable {γ β : Type}

/-- A registry without versions and with the calendar of `continuous_24_7`. -/
def new (continuous : γ) : InstrumentRegistry γ β where
  calendars := Dict.set ∅ "CONTINUOUS_24_7" ⟨"CONTINUOUS_24_7", "UTC", continuous⟩
  histories := ∅

/-- `sort(key=lambda item: item.version)`. -/
def byVersion (versions : List (InstrumentVersion β)) : List (InstrumentVersion β) :=
  versions.insertionSort fun left right => left.version ≤ right.version

/-- `versions`. -/
def versions (registry : InstrumentRegistry γ β) (instrumentId : String) :
    List (InstrumentVersion β) :=
  (registry.histories.get? instrumentId).getD []

/-- The versions with a candidate appended, as `_candidate_state` and the commit
compute them. -/
def appended (registry : InstrumentRegistry γ β) (candidate : InstrumentVersion β) :
    Dict String (List (InstrumentVersion β)) :=
  registry.histories.set candidate.instrumentId
    (byVersion (registry.versions candidate.instrumentId ++ [candidate]))

/-- `_intervals`. -/
def intervals (state : Dict String (List (InstrumentVersion β))) : List (Interval β) :=
  state.entries.flatMap fun entry =>
    (segments InstrumentVersion.effectiveFrom InstrumentVersion.effectiveTo
      (byVersion entry.2)).map fun segment =>
        ⟨entry.1, segment.1, segment.1.effectiveFrom, segment.2⟩

section Calls

variable [DecidableEq γ] [DecidableEq β]

/-- `add_calendar`. -/
def addCalendar (registry : InstrumentRegistry γ β) (calendar : TradingCalendar γ) :
    Except RegistryError Unit × InstrumentRegistry γ β :=
  let committed : InstrumentRegistry γ β :=
    { registry with calendars := registry.calendars.set calendar.calendarId calendar }
  match registry.calendars.get? calendar.calendarId with
  | none => (.ok (), committed)
  | some existing =>
      if existing = calendar then (.ok (), committed)
      else (.error (.conflict "calendar_id is immutable"), registry)

/-- The checks of `add` on the history of the instrument; whether there is
something to commit. -/
def checkHistory (existing : List (InstrumentVersion β)) (version : InstrumentVersion β) :
    Except RegistryError Bool :=
  match existing.getLast? with
  | some last =>
      match existing.filter fun item => item.version = version.version with
      | [] =>
          if version.version ≠ last.version + 1 then
            .error (.conflict ("next version must be " ++ toString (last.version + 1)))
          else if version.effectiveFrom ≤ last.effectiveFrom then
            .error (.conflict "new version must start after the previous version")
          else .ok true
      | [same] =>
          if same = version then .ok false
          else .error (.conflict "instrument version already exists with different content")
      | _ => .error (.conflict "instrument version already exists with different content")
  | none =>
      if version.version ≠ 1 then .error (.conflict "first instrument version must be 1")
      else .ok true

/-- The statements of `add` before the commit; whether there is something to
commit. -/
def check (registry : InstrumentRegistry γ β) (version : InstrumentVersion β) :
    Except RegistryError Bool := do
  match registry.calendars.get? version.calendarId with
  | none => throw (.invalid "calendar_id is unknown")
  | some calendar =>
      if calendar.timezoneId ≠ version.timezoneId then
        throw (.invalid "instrument timezone_id conflicts with its calendar")
      let new ← checkHistory (registry.versions version.instrumentId) version
      if new ∧ ¬ (intervals (registry.appended version)).Pairwise fun left right =>
          ¬ left.Conflicts right then
        throw (.conflict
          "provider symbol is assigned to different instruments in overlapping intervals")
      return new

/-- `add`, which commits after its last check. -/
def add (registry : InstrumentRegistry γ β) (version : InstrumentVersion β) :
    Except RegistryError Unit × InstrumentRegistry γ β :=
  match registry.check version with
  | .error error => (.error error, registry)
  | .ok false => (.ok (), registry)
  | .ok true => (.ok (), { registry with histories := registry.appended version })

end Calls

/-- The loop of `at`, from the last version to the first. -/
def inForce (instant : Datetime) : List (InstrumentVersion β) → Option (InstrumentVersion β)
  | [] => none
  | version :: rest =>
      match inForce instant rest with
      | some found => some found
      | none =>
          if version.contains instant (rest.head?.map InstrumentVersion.effectiveFrom) then
            some version
          else none

/-- `at`. -/
def atInstant (registry : InstrumentRegistry γ β) (instrumentId : String) (instant : Datetime) :
    Except RegistryError (InstrumentVersion β) :=
  match registry.versions instrumentId with
  | [] => .error (.notFound "instrument_id is unknown")
  | versions =>
      match inForce instant versions with
      | some version => .ok version
      | none => .error (.notFound "no instrument version is effective at requested instant")

/-- The answers of the instruments, in the order in which they were added; only
`InstrumentNotFound` is skipped. -/
def answers (registry : InstrumentRegistry γ β) (instant : Datetime) :
    List String → Except RegistryError (List (InstrumentVersion β))
  | [] => .ok []
  | instrumentId :: rest =>
      match registry.atInstant instrumentId instant with
      | .ok version => do return version :: (← answers registry instant rest)
      | .error (.notFound _) => answers registry instant rest
      | .error error => .error error

/-- The statements of `resolve` after its loop. -/
def soleMatch : List (InstrumentVersion β) → Except RegistryError (InstrumentVersion β)
  | [] => .error (.notFound "provider symbol is not effective at requested instant")
  | [version] => .ok version
  | _ => .error (.conflict "provider symbol resolution is ambiguous")

/-- `resolve`. -/
def resolve (registry : InstrumentRegistry γ β) (providerId venueId providerSymbol : String)
    (instant : Datetime) : Except RegistryError (InstrumentVersion β) := do
  let provider ← text providerId "provider_id"
  let venue ← text venueId "venue_id"
  let symbol ← text providerSymbol "provider_symbol"
  let found ← registry.answers instant registry.histories.keys
  soleMatch (found.filter fun version => version.providerId = provider ∧
    version.venueId = venue ∧ version.providerSymbol = symbol)

end InstrumentRegistry

end AutoTrade.Instruments
