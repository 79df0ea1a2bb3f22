import Mathlib.Tactic.NormNum
import Mathlib.Tactic.Zify
import AutoTrade.Lib.Text
import AutoTrade.Lib.Time

/-!
# The calendar of instants

The civil date of a day number and the day number of a civil date in the proleptic Gregorian
calendar, and a reader that finds an instant in its canonical text.
-/

namespace AutoTrade.Lib

/-- A year, a month and a day of the month. -/
structure CivilDate where
  year : Int
  month : Int
  day : Int
  deriving DecidableEq, Repr

/-- The civil date of a day number. -/
def civilDate (date : Int) : CivilDate :=
  let day := date + 719468
  let era := day / 146097
  let dayOfEra := day - era * 146097
  let yearOfEra := (dayOfEra - dayOfEra / 1460 + dayOfEra / 36524 - dayOfEra / 146096) / 365
  let dayOfYear := dayOfEra - (365 * yearOfEra + yearOfEra / 4 - yearOfEra / 100)
  let shifted := (5 * dayOfYear + 2) / 153
  let month := if shifted < 10 then shifted + 3 else shifted - 9
  ⟨yearOfEra + era * 400 + (if month ≤ 2 then 1 else 0), month,
    dayOfYear - (153 * shifted + 2) / 5 + 1⟩

/-- The day number of a civil date. -/
def CivilDate.date (civil : CivilDate) : Int :=
  let year := if civil.month ≤ 2 then civil.year - 1 else civil.year
  let era := year / 400
  let yearOfEra := year - era * 400
  let dayOfYear := (153 * ((civil.month + 9) % 12) + 2) / 5 + civil.day - 1
  era * 146097 + (yearOfEra * 365 + yearOfEra / 4 - yearOfEra / 100 + dayOfYear) - 719468

/-! ## Days, years and eras -/

/-- The year of a day in a century whose leap days are counted in steps of 1460 days. -/
theorem dayOfCentury_bounds {century day leaps year : Int} (century_nonneg : 0 ≤ century)
    (century_le : century ≤ 3) (day_nonneg : 0 ≤ day) (day_le : day ≤ 36523)
    (leapsEq : leaps = (24 * century + day) / 1460) (yearEq : year = (day - leaps) / 365) :
    0 ≤ year ∧ year < 100 ∧ 0 ≤ day - (365 * year + year / 4) ∧
      day - (365 * year + year / 4) ≤ 365 := by
  have leaps_nonneg : 0 ≤ leaps := by omega
  have leaps_le : leaps ≤ 25 := by omega
  have near : 4 * leaps - 1 ≤ year ∧ year ≤ 4 * leaps + 3 := by omega
  have quarter : year / 4 = leaps + (year - 4 * leaps) / 4 := by omega
  have rest : year - 4 * leaps = -1 ∨ year - 4 * leaps = 0 ∨ year - 4 * leaps = 1 ∨
      year - 4 * leaps = 2 ∨ year - 4 * leaps = 3 := by omega
  rw [quarter]
  rcases rest with at_ | at_ | at_ | at_ | at_
  all_goals
    rw [at_]
    have exact_ : year = 4 * leaps + (year - 4 * leaps) := by omega
    rw [at_] at exact_
    subst exact_
    refine ⟨by omega, by omega, by omega, by omega⟩

/-- The year of the era and the day of the year of a day of the era. -/
theorem dayOfEra_bounds {dayOfEra yearOfEra : Int} (nonnegative : 0 ≤ dayOfEra)
    (below : dayOfEra < 146097)
    (yearEq : yearOfEra =
      (dayOfEra - dayOfEra / 1460 + dayOfEra / 36524 - dayOfEra / 146096) / 365) :
    0 ≤ yearOfEra ∧ yearOfEra < 400 ∧
      0 ≤ dayOfEra - (365 * yearOfEra + yearOfEra / 4 - yearOfEra / 100) ∧
        dayOfEra - (365 * yearOfEra + yearOfEra / 4 - yearOfEra / 100) ≤ 365 := by
  by_cases last : dayOfEra = 146096
  · subst last
    norm_num at yearEq
    subst yearEq
    norm_num
  · obtain ⟨century, centuryEq⟩ : ∃ century, century = dayOfEra / 36524 := ⟨_, rfl⟩
    obtain ⟨day, dayEq⟩ : ∃ day, day = dayOfEra - 36524 * century := ⟨_, rfl⟩
    obtain ⟨leaps, leapsEq⟩ : ∃ leaps, leaps = (24 * century + day) / 1460 := ⟨_, rfl⟩
    obtain ⟨year, year_eq⟩ : ∃ year, year = (day - leaps) / 365 := ⟨_, rfl⟩
    have bounds := dayOfCentury_bounds (by omega) (by omega) (by omega) (by omega) leapsEq year_eq
    have whole : yearOfEra = 100 * century + year := by omega
    have quarters : (100 * century + year) / 4 = 25 * century + year / 4 := by omega
    have hundreds : (100 * century + year) / 100 = century := by omega
    rw [whole, quarters, hundreds]
    refine ⟨by omega, by omega, by omega, by omega⟩

/-- The shift of a month to a year that starts in March is undone by its inverse. -/
theorem date_of_shifted {era yearOfEra dayOfYear shifted : Int} (yearOfEra_nonneg : 0 ≤ yearOfEra)
    (yearOfEra_lt : yearOfEra < 400) (dayOfYear_nonneg : 0 ≤ dayOfYear)
    (dayOfYear_le : dayOfYear ≤ 365) (shiftedEq : shifted = (5 * dayOfYear + 2) / 153) :
    CivilDate.date
        ⟨yearOfEra + era * 400 + (if (if shifted < 10 then shifted + 3 else shifted - 9) ≤ 2
            then 1 else 0),
          if shifted < 10 then shifted + 3 else shifted - 9,
          dayOfYear - (153 * shifted + 2) / 5 + 1⟩ =
      era * 146097 + (yearOfEra * 365 + yearOfEra / 4 - yearOfEra / 100 + dayOfYear) - 719468 := by
  have month : ((if shifted < 10 then shifted + 3 else shifted - 9) + 9) % 12 = shifted := by
    split <;> omega
  have year : (if (if shifted < 10 then shifted + 3 else shifted - 9) ≤ 2
      then yearOfEra + era * 400 + (if (if shifted < 10 then shifted + 3 else shifted - 9) ≤ 2
        then 1 else 0) - 1
      else yearOfEra + era * 400 + (if (if shifted < 10 then shifted + 3 else shifted - 9) ≤ 2
        then 1 else 0)) = yearOfEra + era * 400 := by
    by_cases early : (if shifted < 10 then shifted + 3 else shifted - 9) ≤ 2
    · simp only [if_pos early]
      omega
    · simp only [if_neg early]
      omega
  have whole : (yearOfEra + era * 400) / 400 = era := by omega
  have rest : yearOfEra + era * 400 - era * 400 = yearOfEra := by omega
  unfold CivilDate.date
  dsimp only
  rw [month, year, whole, rest]
  omega

/-- The civil date of a day denotes that day. -/
theorem date_civilDate (date : Int) : (civilDate date).date = date := by
  have bounds := @dayOfEra_bounds (date + 719468 - (date + 719468) / 146097 * 146097) _
    (by omega) (by omega) rfl
  have shown := @date_of_shifted ((date + 719468) / 146097) _ _ _ bounds.1 bounds.2.1
    bounds.2.2.1 bounds.2.2.2 rfl
  rw [civilDate, shown]
  omega

/-- The fields of a civil date lie in the ranges of their digits. -/
theorem civilDate_bounds {date : Int} (lower : -719162 ≤ date) (upper : date ≤ 2932896) :
    (1 ≤ (civilDate date).year ∧ (civilDate date).year < 10000) ∧
      (1 ≤ (civilDate date).month ∧ (civilDate date).month < 100) ∧
        1 ≤ (civilDate date).day ∧ (civilDate date).day < 100 := by
  have bounds := @dayOfEra_bounds (date + 719468 - (date + 719468) / 146097 * 146097) _
    (by omega) (by omega) rfl
  unfold civilDate
  dsimp only
  revert bounds
  generalize (date + 719468 - (date + 719468) / 146097 * 146097 -
    (date + 719468 - (date + 719468) / 146097 * 146097) / 1460 +
    (date + 719468 - (date + 719468) / 146097 * 146097) / 36524 -
    (date + 719468 - (date + 719468) / 146097 * 146097) / 146096) / 365 = yearOfEra
  intro bounds
  refine ⟨?_, ?_, ?_⟩
  · split <;> omega
  · split <;> omega
  · omega

namespace Instant

/-- The canonical text in the fields of the civil date and of the time of the day. -/
theorem utcText_eq (instant : Instant) :
    instant.utcText =
      padded 4 (civilDate instant.date).year ++ "-" ++ padded 2 (civilDate instant.date).month ++
        "-" ++ padded 2 (civilDate instant.date).day ++ "T" ++
        padded 2 (instant.microseconds % 86400000000 / 1000000 / 3600) ++ ":" ++
        padded 2 (instant.microseconds % 86400000000 / 1000000 / 60 % 60) ++ ":" ++
        padded 2 (instant.microseconds % 86400000000 / 1000000 % 60) ++
        (if instant.microseconds % 86400000000 % 1000000 = 0 then ""
          else "." ++ padded 6 (instant.microseconds % 86400000000 % 1000000)) ++ "Z" := rfl

/-! ## The reader -/

/-- A number in exactly `width` digits, and what follows it. -/
def readField (width : Nat) (text : List Char) : Option (Int × List Char) :=
  if (text.take width).length = width ∧ (text.take width).all Char.isDigit then
    some (Nat.ofDigitChars 10 (text.take width) 0, text.drop width)
  else none

/-- What follows a mark. -/
def readMark (mark : Char) : List Char → Option (List Char)
  | [] => none
  | first :: rest => if first = mark then some rest else none

/-- The microseconds after a point, zero where there is none, and what follows them. -/
def readFraction (text : List Char) : Option (Int × List Char) :=
  match readMark '.' text with
  | some rest => readField 6 rest
  | none => some (0, text)

/-- The instant of a text `YYYY-MM-DDThh:mm:ss` with six digits of a fraction or none and
`Z` for the offset. -/
def readUtc (text : String) : Option Instant := do
  let (year, rest) ← readField 4 text.toList
  let rest ← readMark '-' rest
  let (month, rest) ← readField 2 rest
  let rest ← readMark '-' rest
  let (day, rest) ← readField 2 rest
  let rest ← readMark 'T' rest
  let (hour, rest) ← readField 2 rest
  let rest ← readMark ':' rest
  let (minute, rest) ← readField 2 rest
  let rest ← readMark ':' rest
  let (second, rest) ← readField 2 rest
  let (fraction, rest) ← readFraction rest
  let civil : CivilDate := ⟨year, month, day⟩
  if rest = ['Z'] ∧ 1 ≤ year ∧ civilDate civil.date = civil ∧ hour < 24 ∧ minute < 60 ∧
      second < 60 then
    some ⟨(civil.date * 86400 + hour * 3600 + minute * 60 + second) * 1000000 + fraction⟩
  else none

/-- The digits of a padded number fill the width. -/
theorem length_padded {width : Nat} {number : Int} (positive : 0 < width)
    (below : number.toNat < 10 ^ width) : (padded width number).toList.length = width := by
  have short := (Nat.length_toDigits_le_iff (by decide : 1 < 10) positive).mpr below
  simp only [padded, String.toList_ofList, List.length_append, List.length_replicate]
  omega

theorem isDigit_padded (width : Nat) (number : Int) :
    (padded width number).toList.all Char.isDigit = true := by
  simp only [padded, String.toList_ofList, List.all_append, List.all_replicate]
  have digits : (Nat.toDigits 10 number.toNat).all Char.isDigit = true := by
    rw [List.all_eq_true]
    intro digit member
    exact Nat.isDigit_of_mem_toDigits (by decide) (by decide) member
  rw [digits]
  simp

theorem ofDigitChars_padded (width : Nat) (number : Int) :
    Nat.ofDigitChars 10 (padded width number).toList 0 = number.toNat := by
  simp only [padded, String.toList_ofList, Nat.ofDigitChars_append,
    Nat.ofDigitChars_replicate_zero, Nat.mul_zero, Nat.ofDigitChars_ten_toDigits]

/-- The reader of a field undoes its writer. -/
theorem readField_padded {width : Nat} {number : Int} (rest : List Char) (positive : 0 < width)
    (nonnegative : 0 ≤ number) (below : number < (10 : Int) ^ width) :
    readField width ((padded width number).toList ++ rest) = some (number, rest) := by
  have natural : number.toNat < 10 ^ width := by
    zify
    rw [Int.toNat_of_nonneg nonnegative]
    exact below
  have filled := length_padded positive natural
  have taken : ((padded width number).toList ++ rest).take width = (padded width number).toList :=
    List.take_left' filled
  have dropped : ((padded width number).toList ++ rest).drop width = rest :=
    List.drop_left' filled
  rw [readField, taken, dropped, if_pos ⟨filled, isDigit_padded width number⟩,
    ofDigitChars_padded, Int.toNat_of_nonneg nonnegative]

@[simp] theorem readMark_cons (mark : Char) (rest : List Char) :
    readMark mark (mark :: rest) = some rest := if_pos rfl

/-- The characters of the microseconds of a canonical text. -/
def fractionChars (fraction : Int) : List Char :=
  if fraction = 0 then [] else '.' :: (padded 6 fraction).toList

theorem readFraction_fractionChars {fraction : Int} (nonnegative : 0 ≤ fraction)
    (below : fraction < 1000000) :
    readFraction (fractionChars fraction ++ ['Z']) = some (fraction, ['Z']) := by
  rw [fractionChars]
  split
  next zero =>
    rw [zero]
    rfl
  next =>
    rw [List.cons_append, readFraction, readMark_cons]
    exact readField_padded _ (by decide) nonnegative (by omega)

/-- The characters of the canonical text, field by field. -/
theorem toList_utcText (instant : Instant) :
    instant.utcText.toList =
      (padded 4 (civilDate instant.date).year).toList ++ '-' ::
        ((padded 2 (civilDate instant.date).month).toList ++ '-' ::
          ((padded 2 (civilDate instant.date).day).toList ++ 'T' ::
            ((padded 2 (instant.microseconds % 86400000000 / 1000000 / 3600)).toList ++ ':' ::
              ((padded 2 (instant.microseconds % 86400000000 / 1000000 / 60 % 60)).toList ++ ':' ::
                ((padded 2 (instant.microseconds % 86400000000 / 1000000 % 60)).toList ++
                  (fractionChars (instant.microseconds % 86400000000 % 1000000) ++ ['Z'])))))) := by
  rw [utcText_eq, fractionChars]
  split <;> simp

/-- The reader finds an instant in its canonical text. -/
theorem readUtc_utcText {instant : Instant} (lower : -719162 ≤ instant.date)
    (upper : instant.date ≤ 2932896) : readUtc instant.utcText = some instant := by
  obtain ⟨year, month, day⟩ := civilDate_bounds lower upper
  have whole : instant.microseconds =
      86400000000 * instant.date + instant.microseconds % 86400000000 :=
    (Int.mul_ediv_add_emod _ _).symm
  have denoted := date_civilDate instant.date
  rw [readUtc, toList_utcText]
  have time_nonneg : 0 ≤ instant.microseconds % 86400000000 := by omega
  have time_lt : instant.microseconds % 86400000000 < 86400000000 := by omega
  revert whole time_nonneg time_lt
  generalize instant.microseconds % 86400000000 = time
  intro whole time_nonneg time_lt
  have hour : 0 ≤ time / 1000000 / 3600 ∧ time / 1000000 / 3600 < 24 := by omega
  have minute : 0 ≤ time / 1000000 / 60 % 60 ∧ time / 1000000 / 60 % 60 < 60 := by omega
  have second : 0 ≤ time / 1000000 % 60 ∧ time / 1000000 % 60 < 60 := by omega
  have fraction : 0 ≤ time % 1000000 ∧ time % 1000000 < 1000000 := by omega
  have field {number : Int} (nonnegative : 0 ≤ number) (below : number < 100)
      (rest : List Char) :
      readField 2 ((padded 2 number).toList ++ rest) = some (number, rest) :=
    readField_padded rest (by decide) nonnegative below
  rw [readField_padded _ (by decide) (by omega) (by omega)]
  simp only [Option.bind_eq_bind, Option.bind_some, readMark_cons,
    field (by omega : 0 ≤ (civilDate instant.date).month) month.2,
    field (by omega : 0 ≤ (civilDate instant.date).day) day.2,
    field hour.1 (hour.2.trans (by decide)), field minute.1 (minute.2.trans (by decide)),
    field second.1 (second.2.trans (by decide)),
    readFraction_fractionChars fraction.1 fraction.2]
  rw [if_pos ⟨trivial, year.1, congrArg civilDate denoted, hour.2, minute.2, second.2⟩]
  apply congrArg some
  apply microseconds_injective
  dsimp only
  rw [denoted, whole]
  omega

/-- No character of a padded number is white space. -/
theorem kept_padded (width : Nat) (number : Int) :
    (padded width number).toList.all (fun character => !isSpace character) = true := by
  rw [List.all_eq_true]
  intro character member
  have digit := List.all_eq_true.mp (isDigit_padded width number) character member
  rw [Char.isDigit, Bool.and_eq_true, decide_eq_true_eq, decide_eq_true_eq] at digit
  have lower : 48 ≤ character.toNat := digit.1
  have upper : character.toNat ≤ 57 := digit.2
  rw [isSpace_eq_false (by omega) (by omega)]
  rfl

theorem kept_fractionChars (fraction : Int) :
    (fractionChars fraction).all (fun character => !isSpace character) = true := by
  rw [fractionChars]
  split
  next => rfl
  next => rw [List.all_cons, kept_padded]; decide

/-- The canonical text of an instant is normal text. -/
theorem normal_utcText (instant : Instant) : Normal instant.utcText := by
  have kept : instant.utcText.toList.all (fun character => !isSpace character) = true := by
    rw [toList_utcText]
    simp only [List.all_append, List.all_cons, List.all_nil, kept_padded, kept_fractionChars]
    decide
  apply normal_of_forall
  · intro empty
    have chars := toList_utcText instant
    rw [empty] at chars
    simp at chars
  · intro character member
    have visible := List.all_eq_true.mp kept character member
    rwa [Bool.not_eq_true'] at visible

end Instant

end AutoTrade.Lib
