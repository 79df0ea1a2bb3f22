import Mathlib.Order.Basic
import Mathlib.Data.Int.Order.Basic

/-!
# Dates and instants

A calendar date is a day number and an instant is a number of microseconds,
both in UTC; Python compares such values by the moment they denote.
-/

namespace AutoTrade.Lib

/-- A calendar date as a day number. -/
abbrev Date : Type := Int

/-- A UTC instant in microseconds. -/
structure Instant where
  microseconds : Int
  deriving DecidableEq, Repr

namespace Instant

/-- `datetime.date()`. -/
def date (instant : Instant) : Date := instant.microseconds / 86400000000

theorem microseconds_injective : Function.Injective microseconds := by
  rintro ⟨left⟩ ⟨right⟩ equal
  exact congrArg Instant.mk equal

instance : LinearOrder Instant := LinearOrder.lift' microseconds microseconds_injective

/-- A number in at least `width` digits. -/
def padded (width : Nat) (number : Int) : String :=
  let digits := Nat.toDigits 10 number.toNat
  String.ofList (List.replicate (width - digits.length) '0' ++ digits)

/-- `isoformat()` in UTC with `Z` for the offset, for the years of a `datetime`. -/
def utcText (instant : Instant) : String :=
  let day := instant.microseconds / 86400000000 + 719468
  let time := instant.microseconds % 86400000000
  let era := day / 146097
  let dayOfEra := day - era * 146097
  let yearOfEra := (dayOfEra - dayOfEra / 1460 + dayOfEra / 36524 - dayOfEra / 146096) / 365
  let dayOfYear := dayOfEra - (365 * yearOfEra + yearOfEra / 4 - yearOfEra / 100)
  let shifted := (5 * dayOfYear + 2) / 153
  let month := if shifted < 10 then shifted + 3 else shifted - 9
  let year := yearOfEra + era * 400 + (if month ≤ 2 then 1 else 0)
  let seconds := time / 1000000
  padded 4 year ++ "-" ++ padded 2 month ++ "-" ++
    padded 2 (dayOfYear - (153 * shifted + 2) / 5 + 1) ++ "T" ++ padded 2 (seconds / 3600) ++
    ":" ++ padded 2 (seconds / 60 % 60) ++ ":" ++ padded 2 (seconds % 60) ++
    (if time % 1000000 = 0 then "" else "." ++ padded 6 (time % 1000000)) ++ "Z"

end Instant

end AutoTrade.Lib
