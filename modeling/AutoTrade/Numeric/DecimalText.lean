import AutoTrade.Numeric.Presentation

/-!
# The text of a decimal

`str(value)` of an admitted decimal and its reading by
`parse_bounded_exact_decimal`.  The text has an exponent when the exponent of the
decimal is positive or the value is below a millionth, and its parts are those
the reader's grammar finds; a text within the length limit is therefore read as
the decimal it was written from.  A decimal without a positive exponent is
always written within the limit.
-/

namespace AutoTrade.Numeric

open Lib

/-! ## The writer -/

/-- `"%+d" % number`. -/
def signedText (number : Int) : List Char :=
  (if number < 0 then '-' else '+') ::
    if number = 0 then ['0'] else digitText number.natAbs

/-- `str(value)` of a finite decimal. -/
def decimalChars (value : DecimalTuple) : List Char :=
  let sign := if value.negative then ['-'] else []
  let digits := if value.coefficient = 0 then ['0'] else digitText value.coefficient
  let leftDigits := value.exponent + digits.length
  let dotPlace := if value.exponent ≤ 0 ∧ -6 < leftDigits then leftDigits else 1
  let mantissa :=
    if dotPlace ≤ 0 then '0' :: '.' :: (List.replicate (-dotPlace).toNat '0' ++ digits)
    else if digits.length ≤ dotPlace then
      digits ++ List.replicate (dotPlace - digits.length).toNat '0'
    else digits.take dotPlace.toNat ++ '.' :: digits.drop dotPlace.toNat
  let exponent := if leftDigits = dotPlace then [] else 'E' :: signedText (leftDigits - dotPlace)
  sign ++ mantissa ++ exponent

/-- `str(value)`. -/
def Presented.text (presented : Presented) : String := String.ofList (decimalChars presented.tuple)

/-! ## Parts of a written decimal -/

/-- What the grammar finds in a written decimal. -/
structure Written (value : DecimalTuple) where
  integerPart : List Char
  fractionalPart : List Char
  exponent : Option Int
  integerPresent : integerPart ≠ []
  significant : (integerPart ++ fractionalPart).dropWhile (· = '0') = digitText value.coefficient
  digits : ∀ char ∈ integerPart ++ fractionalPart, isAsciiDigit char
  scale : exponent.getD 0 - fractionalPart.length = value.exponent
  whole : exponent = some 0 → False
  chars : decimalChars value = (if value.negative then ['-'] else []) ++
    (integerPart ++ Shape.pointed fractionalPart) ++ exponent.elim [] fun power =>
      'E' :: signedText power

theorem dropWhile_digitText {number : Nat} (nonzero : number ≠ 0) :
    (digitText number).dropWhile (· = '0') = digitText number := by
  have starts := digitText_startsNonzero nonzero
  simp only [startsNonzero, Bool.and_eq_true, decide_eq_true_eq] at starts
  obtain ⟨present, nonzeroHead⟩ := starts
  obtain ⟨first, rest, split⟩ := List.exists_cons_of_ne_nil present
  rw [split] at nonzeroHead ⊢
  rw [List.dropWhile_cons_of_neg]
  simpa using nonzeroHead

theorem dropWhile_zeros_append (count : Nat) (digits : List Char) :
    (List.replicate count '0' ++ digits).dropWhile (· = '0') = digits.dropWhile (· = '0') := by
  rw [List.dropWhile_append_of_pos]
  intro char member
  exact decide_eq_true (List.eq_of_mem_replicate member)

theorem digitText_ne_nil {number : Nat} (nonzero : number ≠ 0) : digitText number ≠ [] := by
  have starts := digitText_startsNonzero nonzero
  simp only [startsNonzero, Bool.and_eq_true, decide_eq_true_eq] at starts
  exact starts.1

/-- A value below one, written with zeros after the point. -/
def Written.small (value : DecimalTuple) (nonzero : value.coefficient ≠ 0)
    (plain : value.exponent ≤ 0 ∧ -6 < value.exponent + (digitText value.coefficient).length)
    (below : value.exponent + (digitText value.coefficient).length ≤ 0) : Written value where
  integerPart := ['0']
  fractionalPart :=
    List.replicate (-(value.exponent + (digitText value.coefficient).length)).toNat '0' ++
      digitText value.coefficient
  exponent := none
  integerPresent := List.cons_ne_nil _ _
  significant := by
    rw [List.singleton_append, List.dropWhile_cons_of_pos (by decide), dropWhile_zeros_append,
      dropWhile_digitText nonzero]
  digits := by
    intro char member
    rcases List.mem_append.mp member with point | rest
    · rw [List.mem_singleton.mp point]
      decide
    · rcases List.mem_append.mp rest with zero | digit
      · rw [List.eq_of_mem_replicate zero]
        decide
      · exact digitText_digits _ char digit
  scale := by
    rw [List.length_append, List.length_replicate, Option.getD_none]
    omega
  whole := by simp
  chars := by
    have fraction : List.replicate
        (-(value.exponent + (digitText value.coefficient).length)).toNat '0' ++
          digitText value.coefficient ≠ [] :=
      List.append_ne_nil_of_right_ne_nil _ (digitText_ne_nil nonzero)
    simp only [decimalChars, if_neg nonzero, if_pos plain, if_pos below, if_true,
      Shape.pointed, if_neg fraction, Option.elim_none]
    rfl

/-- A value with its point inside or after its digits. -/
def Written.plain (value : DecimalTuple) (nonzero : value.coefficient ≠ 0)
    (negative : value.exponent ≤ 0)
    (above : 0 < value.exponent + (digitText value.coefficient).length) : Written value where
  integerPart := (digitText value.coefficient).take
    (value.exponent + (digitText value.coefficient).length).toNat
  fractionalPart := (digitText value.coefficient).drop
    (value.exponent + (digitText value.coefficient).length).toNat
  exponent := none
  integerPresent := by
    rw [ne_eq, List.take_eq_nil_iff]
    rintro (zero | empty)
    · omega
    · exact digitText_ne_nil nonzero empty
  significant := by rw [List.take_append_drop, dropWhile_digitText nonzero]
  digits := by
    rw [List.take_append_drop]
    exact digitText_digits _
  scale := by
    rw [List.length_drop, Option.getD_none]
    omega
  whole := by simp
  chars := by
    have inside : value.exponent ≤ 0 ∧
        -6 < value.exponent + (digitText value.coefficient).length := ⟨negative, by omega⟩
    simp only [decimalChars, if_neg nonzero, if_pos inside, if_neg (not_le.mpr above), if_true,
      Option.elim_none, Shape.pointed]
    by_cases zero : value.exponent = 0
    · simp [zero]
    · have inner : ¬ ((digitText value.coefficient).length : Int) ≤
          value.exponent + (digitText value.coefficient).length := by omega
      have fraction : (digitText value.coefficient).drop
          (value.exponent + (digitText value.coefficient).length).toNat ≠ [] := by
        rw [ne_eq, List.drop_eq_nil_iff]
        omega
      rw [if_neg inner, if_neg fraction]

/-- A value in scientific notation. -/
def Written.scientific (value : DecimalTuple) (nonzero : value.coefficient ≠ 0)
    (scientific : ¬ (value.exponent ≤ 0 ∧
      -6 < value.exponent + (digitText value.coefficient).length)) : Written value where
  integerPart := (digitText value.coefficient).take 1
  fractionalPart := (digitText value.coefficient).drop 1
  exponent := some (value.exponent + (digitText value.coefficient).length - 1)
  integerPresent := by
    rw [ne_eq, List.take_eq_nil_iff]
    rintro (zero | empty)
    · cases zero
    · exact digitText_ne_nil nonzero empty
  significant := by rw [List.take_append_drop, dropWhile_digitText nonzero]
  digits := by
    rw [List.take_append_drop]
    exact digitText_digits _
  scale := by
    have present := List.length_pos_iff.mpr (digitText_ne_nil nonzero)
    rw [List.length_drop, Option.getD_some]
    omega
  whole := by
    have present := List.length_pos_iff.mpr (digitText_ne_nil nonzero)
    rw [Option.some.injEq]
    omega
  chars := by
    have present := List.length_pos_iff.mpr (digitText_ne_nil nonzero)
    have away : value.exponent + (digitText value.coefficient).length ≠ 1 := by omega
    simp only [decimalChars, if_neg nonzero, if_neg scientific,
      if_neg (by decide : ¬ (1 : Int) ≤ 0), if_neg away, Option.elim_some, Shape.pointed,
      Int.toNat_one]
    by_cases single : (digitText value.coefficient).length = 1
    · have rest : (digitText value.coefficient).drop 1 = [] :=
        List.drop_eq_nil_iff.mpr single.le
      rw [rest, List.take_of_length_le single.le]
      simp [single]
    · have several : ¬ ((digitText value.coefficient).length : Int) ≤ 1 := by omega
      have rest : (digitText value.coefficient).drop 1 ≠ [] := by
        rw [ne_eq, List.drop_eq_nil_iff]
        omega
      rw [if_neg several, if_neg rest]

/-- Every decimal that is not zero is written in parts. -/
def writtenParts (value : DecimalTuple) (nonzero : value.coefficient ≠ 0) : Written value :=
  if plain : value.exponent ≤ 0 ∧
      -6 < value.exponent + (digitText value.coefficient).length then
    if below : value.exponent + (digitText value.coefficient).length ≤ 0 then
      .small value nonzero plain below
    else .plain value nonzero plain.1 (not_le.mp below)
  else .scientific value nonzero plain

/-! ## The grammar on written decimals -/

theorem splitSign_signed (negative : Bool) {text : List Char}
    (digit : ∀ first, text.head? = some first → isAsciiDigit first) :
    splitSign ((if negative then ['-'] else []) ++ text) = (negative, text) := by
  cases negative with
  | true => rfl
  | false =>
      rw [if_neg Bool.false_ne_true, List.nil_append]
      cases text with
      | nil => rfl
      | cons first rest =>
          have isDigit := digit first rfl
          unfold splitSign
          split
          next same =>
            cases same
            exact absurd isDigit (by decide)
          next same =>
            cases same
            exact absurd isDigit (by decide)
          next => rfl

/-- The digits of a signed number. -/
def magnitudeText (number : Int) : List Char :=
  if number = 0 then ['0'] else digitText number.natAbs

theorem magnitudeText_digits (number : Int) : ∀ char ∈ magnitudeText number, isAsciiDigit char := by
  intro char member
  rw [magnitudeText] at member
  split at member
  · rw [List.mem_singleton.mp member]
    decide
  · exact digitText_digits _ char member

theorem magnitudeText_ne_nil (number : Int) : magnitudeText number ≠ [] := by
  rw [magnitudeText]
  split
  · exact List.cons_ne_nil _ _
  next nonzero => exact digitText_ne_nil (Int.natAbs_ne_zero.mpr nonzero)

theorem digitsValue_magnitudeText (number : Int) :
    digitsValue (magnitudeText number) = number.natAbs := by
  rw [magnitudeText]
  split
  next zero =>
    rw [zero]
    rfl
  · exact digitsValue_digitText _

theorem splitSign_signedText (number : Int) :
    splitSign (signedText number) = (decide (number < 0), magnitudeText number) := by
  rw [signedText, ← magnitudeText]
  by_cases negative : number < 0
  · rw [if_pos negative, decide_eq_true negative]
    rfl
  · rw [if_neg negative, decide_eq_false negative]
    rfl

theorem matchExponent_written (exponent : Option Int) :
    matchExponent (exponent.elim [] fun power => 'E' :: signedText power) =
      some (exponent.map signedText) := by
  cases exponent with
  | none => rfl
  | some power =>
      have digits : (magnitudeText power).all isAsciiDigit :=
        List.all_eq_true.mpr (magnitudeText_digits power)
      simp only [Option.elim_some, matchExponent, splitSign_signedText]
      rw [if_pos ⟨.inr trivial, magnitudeText_ne_nil power, digits⟩]
      rfl

/-! ## Finding the parts -/

/-- The exponent with its mark, where there is one. -/
def exponentTail (exponent : Option Int) : List Char :=
  exponent.elim [] fun power => 'E' :: signedText power

theorem takeWhile_exponentTail (exponent : Option Int) :
    (exponentTail exponent).takeWhile isAsciiDigit = [] := by
  cases exponent <;> rfl

theorem dropWhile_exponentTail (exponent : Option Int) :
    (exponentTail exponent).dropWhile isAsciiDigit = exponentTail exponent := by
  cases exponent <;> rfl

theorem matchExponent_tail (exponent : Option Int) :
    matchExponent (exponentTail exponent) = some (exponent.map signedText) :=
  matchExponent_written exponent

/-- The grammar finds the parts of a decimal text. -/
theorem matchPresentation_parts (negative : Bool) {integerPart fractionalPart : List Char}
    (exponent : Option Int) (present : integerPart ≠ [])
    (integerDigits : ∀ char ∈ integerPart, isAsciiDigit char)
    (fractionDigits : ∀ char ∈ fractionalPart, isAsciiDigit char) :
    matchPresentation ((if negative then ['-'] else []) ++
        (integerPart ++ (Shape.pointed fractionalPart ++ exponentTail exponent))) =
      some ⟨negative, integerPart, fractionalPart, exponent.map signedText⟩ := by
  have headDigit : ∀ first ∈ (integerPart ++ (Shape.pointed fractionalPart ++
      exponentTail exponent)).head?, isAsciiDigit first := by
    intro first head
    obtain ⟨other, others, split⟩ := List.exists_cons_of_ne_nil present
    rw [split] at head
    cases head
    exact integerDigits _ (by rw [split]; exact List.mem_cons_self)
  rw [matchPresentation, splitSign_signed _ headDigit]
  simp only
  rw [List.takeWhile_append_of_pos integerDigits, List.dropWhile_append_of_pos integerDigits,
    Shape.pointed]
  by_cases empty : fractionalPart = []
  · rw [if_pos empty, List.nil_append, takeWhile_exponentTail, dropWhile_exponentTail,
      List.append_nil]
    split
    next rest point =>
      cases exponent with
      | none => cases point
      | some power => cases point
    next =>
      rw [if_neg present, matchExponent_tail, empty]
      rfl
  · rw [if_neg empty, List.cons_append, List.takeWhile_cons_of_neg (by decide),
      List.dropWhile_cons_of_neg (by decide), List.append_nil]
    simp only
    rw [List.takeWhile_append_of_pos fractionDigits, List.dropWhile_append_of_pos fractionDigits,
      takeWhile_exponentTail, dropWhile_exponentTail, List.append_nil,
      if_neg fun both => empty both.2, matchExponent_tail]
    rfl

namespace Written

variable {value : DecimalTuple} (written : Written value)

/-- The exponent with its mark, where there is one. -/
def tail : List Char := written.exponent.elim [] fun power => 'E' :: signedText power

/-- The grammar finds the parts of a written decimal. -/
theorem matchPresentation_eq :
    matchPresentation (decimalChars value) =
      some ⟨value.negative, written.integerPart, written.fractionalPart,
        written.exponent.map signedText⟩ := by
  have chars : decimalChars value = (if value.negative then ['-'] else []) ++
      (written.integerPart ++ (Shape.pointed written.fractionalPart ++
        exponentTail written.exponent)) := by
    rw [written.chars, List.append_assoc, List.append_assoc, exponentTail]
  rw [chars]
  apply matchPresentation_parts _ _ written.integerPresent
  · exact fun char member => written.digits char (List.mem_append_left _ member)
  · exact fun char member => written.digits char (List.mem_append_right _ member)

end Written

/-! ## Reading a written decimal -/

/-- The loop of `_bounded_exponent` computes small numbers. -/
theorem saturatedMagnitude_eq {saturation : Nat} {digits : List Char}
    (small : digitsValue digits ≤ saturation + 1) :
    saturatedMagnitude saturation digits = digitsValue digits := by
  induction digits using List.reverseRecOn with
  | nil => rfl
  | append_singleton earlier digit ih =>
      have grown : digitsValue (earlier ++ [digit]) =
          digitsValue earlier * 10 + (digit.toNat - 48) := by
        simp [digitsValue]
      rw [grown] at small ⊢
      have before := ih (by omega)
      rw [saturatedMagnitude] at before ⊢
      rw [List.foldl_append, before, List.foldl_cons, List.foldl_nil]
      have inside : digitsValue earlier ≤ saturation := by omega
      rw [if_pos inside, min_eq_right small]

theorem boundedExponent_signedText {power minimum maximum : Int} (above : minimum ≤ power)
    (below : power ≤ maximum) :
    boundedExponent (signedText power) minimum maximum = .ok power := by
  have magnitude : saturatedMagnitude (max minimum.natAbs maximum.natAbs + 1)
      (magnitudeText power) = power.natAbs := by
    rw [saturatedMagnitude_eq]
    · exact digitsValue_magnitudeText power
    · rw [digitsValue_magnitudeText]
      omega
  have value : (if power < 0 then -(power.natAbs : Int) else power.natAbs) = power := by
    split <;> omega
  have inside : ¬ (power < minimum ∨ maximum < power) := by omega
  have present : signedText power ≠ [] := List.cons_ne_nil _ _
  rw [boundedExponent, if_neg present, splitSign_signedText]
  simp only [magnitude, decide_eq_true_eq, value]
  rw [if_neg inside]

/-- The exponent of a written decimal is read back. -/
theorem Written.boundedExponent_eq {value : DecimalTuple} (written : Written value)
    {minimum maximum : Int} (above : minimum ≤ written.exponent.getD 0)
    (below : written.exponent.getD 0 ≤ maximum) :
    boundedExponent ((written.exponent.map signedText).getD []) minimum maximum =
      .ok (written.exponent.getD 0) := by
  cases found : written.exponent with
  | none => rfl
  | some power =>
      rw [found] at above below
      exact boundedExponent_signedText above below

/-- The limits of an admitted decimal. -/
theorem limits_of_admitted {value : DecimalTuple}
    (admitted : validateDecimalEnvelope value = .ok value) (nonzero : value.coefficient ≠ 0) :
    (digitText value.coefficient).length ≤ maxSignificantDigits ∧
      -(maxScale : Int) ≤ value.exponent ∧
        ((digitText value.coefficient).length : Int) + value.exponent ≤ maxIntegerDigits := by
  rw [validateDecimalEnvelope, if_neg nonzero, guard_eq_ok, guard_eq_ok, guard_eq_ok,
    DecimalTuple.digitCount, if_neg nonzero, ← digitText_length] at admitted
  obtain ⟨significant, scale, integers, -⟩ := admitted
  refine ⟨not_lt.mp significant, not_lt.mp scale, ?_⟩
  exact (le_max_left _ _).trans (not_lt.mp integers)

/-- A written decimal within the length limit is read as it was. -/
theorem preflight_decimalChars {value : DecimalTuple}
    (admitted : validateDecimalEnvelope value = .ok value) (nonzero : value.coefficient ≠ 0)
    (short : (decimalChars value).length ≤ maxDecimalTextLength) :
    preflightBoundedPresentation (String.ofList (decimalChars value)) true = .ok value := by
  have written := writtenParts value nonzero
  obtain ⟨significant, scale, integers⟩ := limits_of_admitted admitted nonzero
  have present := digitText_ne_nil nonzero
  have exponent := written.scale
  have read : boundedExponent ((written.exponent.map signedText).getD [])
      (written.fractionalPart.length - maxScale)
      (written.fractionalPart.length + maxIntegerDigits -
        (digitText value.coefficient).length) = .ok (written.exponent.getD 0) :=
    written.boundedExponent_eq (by omega) (by omega)
  have inside : ¬ ((maxScale : Int) < max (-value.exponent) 0 ∨
      (maxIntegerDigits : Int) <
        max ((digitText value.coefficient).length + value.exponent) 0) := by
    simp only [maxScale, maxIntegerDigits] at scale integers ⊢
    omega
  unfold preflightBoundedPresentation
  rw [if_neg (by simpa using short), String.toList_ofList, written.matchPresentation_eq]
  simp only [Bool.not_true, Bool.and_false, Bool.false_eq_true, if_false, written.significant,
    if_neg present, if_neg (not_lt.mpr significant), read, ok_bind, exponent, if_neg inside,
    digitsValue_digitText]
  rfl

/-! ## Lengths -/

theorem length_sign_le (negative : Bool) :
    (if negative then ['-'] else [] : List Char).length ≤ 1 := by
  cases negative <;> decide

/-- An exponent below the point has at most three digits. -/
theorem length_signedText_le {power : Int} (small : power.natAbs < 1000) :
    (signedText power).length ≤ 4 := by
  rw [signedText, List.length_cons]
  split
  · simp
  · rw [digitText_length]
    have digits := (Nat.digits_length_le_iff (b := 10) (k := 3) (by decide) power.natAbs).mpr small
    omega

theorem length_pointed_le (fraction : List Char) :
    (Shape.pointed fraction).length ≤ fraction.length + 1 := by
  rw [Shape.pointed]
  split
  · simp
  · rw [List.length_cons]

theorem Written.length_le {value : DecimalTuple} (written : Written value) :
    (decimalChars value).length ≤
      written.integerPart.length + written.fractionalPart.length + 2 + written.tail.length := by
  have sign := length_sign_le value.negative
  have fraction := length_pointed_le written.fractionalPart
  rw [written.chars, List.length_append, List.length_append, List.length_append, ← tail]
  omega

/-- A decimal without a positive exponent is written within the length limit. -/
theorem length_decimalChars_le {value : DecimalTuple}
    (admitted : validateDecimalEnvelope value = .ok value) (nonzero : value.coefficient ≠ 0)
    (nonpositive : value.exponent ≤ 0) :
    (decimalChars value).length ≤ maxDecimalTextLength := by
  obtain ⟨significant, scale, -⟩ := limits_of_admitted admitted nonzero
  have present := List.length_pos_iff.mpr (digitText_ne_nil nonzero)
  simp only [maxSignificantDigits, maxScale, maxDecimalTextLength] at significant scale ⊢
  by_cases plain : -6 < value.exponent + (digitText value.coefficient).length
  · by_cases below : value.exponent + (digitText value.coefficient).length ≤ 0
    · have length := (Written.small value nonzero ⟨nonpositive, plain⟩ below).length_le
      simp only [Written.small, Written.tail, List.length_append, List.length_replicate,
        List.length_singleton, Option.elim_none, List.length_nil] at length
      omega
    · have length := (Written.plain value nonzero nonpositive (not_le.mp below)).length_le
      simp only [Written.plain, Written.tail, List.length_take, List.length_drop,
        Option.elim_none, List.length_nil] at length
      omega
  · have scientific : ¬ (value.exponent ≤ 0 ∧
        -6 < value.exponent + (digitText value.coefficient).length) := fun both => plain both.2
    have length := (Written.scientific value nonzero scientific).length_le
    have power : (signedText
        (value.exponent + (digitText value.coefficient).length - 1)).length ≤ 4 :=
      length_signedText_le (by omega)
    simp only [Written.scientific, Written.tail, List.length_take, List.length_drop,
      Option.elim_some, List.length_cons] at length
    omega

/-! ## Presented decimals -/

namespace Presented

/-- The text is one that the reader admits. -/
def Short (presented : Presented) : Prop := presented.text.length ≤ maxDecimalTextLength

instance (presented : Presented) : Decidable presented.Short :=
  inferInstanceAs (Decidable (_ ≤ _))

theorem eq_zero_of_coefficient {presented : Presented}
    (zero : presented.tuple.coefficient = 0) : presented = 0 := by
  have same := presented.canonicalZero zero
  obtain ⟨tuple, admitted, canonicalZero⟩ := presented
  cases same
  rfl

theorem presentTuple_tuple (presented : Presented) :
    presentTuple presented.tuple = .ok presented := by
  rw [presentTuple]
  split
  next invalid =>
    rw [presented.admitted] at invalid
    cases invalid
  next =>
    split
    next zero => rw [eq_zero_of_coefficient zero]
    next => rfl

/-- A decimal whose text is short is read back as it was. -/
theorem present_text {presented : Presented} (short : presented.Short) :
    presentBoundedExactDecimal (.text presented.text) true = .ok presented := by
  rw [presentBoundedExactDecimal, bind_eq_ok]
  by_cases zero : presented.tuple.coefficient = 0
  · rw [eq_zero_of_coefficient zero]
    exact ⟨⟨false, 0, 0⟩, by decide +kernel, rfl⟩
  · refine ⟨presented.tuple, ?_, presentTuple_tuple presented⟩
    apply preflight_decimalChars presented.admitted zero
    rwa [Short, text, String.length_ofList] at short

/-- No other text is read at all. -/
theorem not_short {presented other : Presented} (long : ¬ presented.Short) :
    presentBoundedExactDecimal (.text presented.text) true ≠ .ok other := by
  intro success
  rw [presentBoundedExactDecimal, preflightBoundedPresentation, if_pos (not_le.mp long)] at success
  cases success

/-- A decimal without a positive exponent has a short text. -/
theorem short_of_exponent {presented : Presented} (nonpositive : presented.tuple.exponent ≤ 0) :
    presented.Short := by
  rw [Short, text, String.length_ofList]
  by_cases zero : presented.tuple.coefficient = 0
  · rw [eq_zero_of_coefficient zero]
    decide +kernel
  · exact length_decimalChars_le presented.admitted zero nonpositive

end Presented

/-- Every decimal that an argument is admitted as has a short text. -/
def PresentedInput.Short (input : PresentedInput) : Prop :=
  ∀ amount, presentBoundedExactDecimal input true = .ok amount → amount.Short

end AutoTrade.Numeric
