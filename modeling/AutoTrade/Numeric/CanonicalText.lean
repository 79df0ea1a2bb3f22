import AutoTrade.Lib.Raise
import AutoTrade.Numeric.ExactDecimal
import Mathlib.Data.List.DropRight

/-!
# Canonical decimal text

The executable model of `canonical_decimal_text` and
`parse_canonical_decimal_text`, and the codec laws between them.  The writer
works on the `(sign, digits, exponent)` triple of a decimal; the reader on a
text grammar with limits of its own.  Between the two stands the shape of a
canonical text: an integer part without leading zeros and a fraction without
trailing zeros.
-/

namespace AutoTrade.Numeric

open Lib

/-! ## The writer -/

/-- The decimal digits of a positive number, `str(number)`. -/
def digitText (number : Nat) : List Char := ((Nat.digits 10 number).map Nat.digitChar).reverse

/-- `format(value, "f")` of a finite decimal that is not zero. -/
def formatFixed (value : DecimalTuple) : List Char :=
  let sign := if value.negative then ['-'] else []
  let digits := digitText value.coefficient
  if 0 ≤ value.exponent then sign ++ digits ++ List.replicate value.exponent.toNat '0'
  else
    let scale := (-value.exponent).toNat
    if scale < digits.length then
      sign ++ digits.take (digits.length - scale) ++
        '.' :: digits.drop (digits.length - scale)
    else sign ++ ['0'] ++ '.' :: (List.replicate (scale - digits.length) '0' ++ digits)

/-- `canonical_decimal_text`. -/
def canonicalDecimalText (value : DecimalTuple) : Except ExactDecimalError String := do
  let _ ← validateDecimalEnvelope value
  if value.coefficient = 0 then pure "0"
  else
    let fixed := formatFixed value
    if '.' ∈ fixed then
      pure (String.ofList ((fixed.rdropWhile (· = '0')).rdropWhile (· = '.')))
    else pure (String.ofList fixed)

/-- `as_fraction`. -/
def asFraction (value : DecimalTuple) : Except ExactDecimalError ℚ := do
  let tuple ← validateDecimalEnvelope value
  if tuple.coefficient = 0 then pure 0
  else do
    validateFractionIntermediate tuple.toRat
    pure tuple.toRat

/-! ## The reader -/

/-- The text without its minus sign. -/
def unsignedText (text : List Char) : List Char :=
  if text.head? = some '-' then text.tail else text

/-- `[1-9][0-9]*` on a run of digits. -/
def startsNonzero (digits : List Char) : Bool := digits ≠ [] && digits.head? ≠ some '0'

/-- `[0-9]*[1-9]`. -/
def endsNonzero (digits : List Char) : Bool :=
  digits.all isAsciiDigit && digits ≠ [] && digits.getLast? ≠ some '0'

/-- The `Decimal` expression of the common scalars, matched in full. -/
def matchCanonicalDecimal (text : List Char) : Bool :=
  let integerPart := (unsignedText text).takeWhile isAsciiDigit
  match (unsignedText text).dropWhile isAsciiDigit with
  | [] => startsNonzero integerPart || (integerPart = ['0'] && text.head? ≠ some '-')
  | mark :: fraction =>
      mark = '.' && (startsNonzero integerPart || integerPart = ['0']) && endsNonzero fraction

/-- `value.partition(".")` on the unsigned text: the integer and the fractional
part. -/
def partitionPoint (text : List Char) : List Char × List Char :=
  ((unsignedText text).takeWhile (· ≠ '.'), ((unsignedText text).dropWhile (· ≠ '.')).tail)

/-- `_within_decimal_envelope`. -/
def withinDecimalEnvelope (text : List Char) : Bool :=
  let (integerPart, fractionalPart) := partitionPoint text
  let integerMagnitude := if integerPart = ['0'] then 0 else integerPart.length
  let significant := ((integerPart ++ fractionalPart).dropWhile (· = '0')).length
  let significantDigits := if significant = 0 then 1 else significant
  significantDigits ≤ maxSignificantDigits && fractionalPart.length ≤ maxScale &&
    integerMagnitude ≤ maxIntegerDigits

/-- `is_valid_common_scalar("Decimal", value)`. -/
def isValidDecimalScalar (text : List Char) : Bool :=
  text.length ≤ maxDecimalTextLength && matchCanonicalDecimal text && withinDecimalEnvelope text

/-- `Decimal(value)` on a text of the canonical grammar. -/
def decimalOfText (text : List Char) : DecimalTuple :=
  let (integerPart, fractionalPart) := partitionPoint text
  ⟨text.head? = some '-', digitsValue (integerPart ++ fractionalPart), -fractionalPart.length⟩

/-- `parse_canonical_decimal_text`. -/
def parseCanonicalDecimalText (value : String) : Except ExactDecimalError DecimalTuple :=
  if ¬ isValidDecimalScalar value.toList then
    .error ⟨"value must be canonical bounded Decimal text"⟩
  else do
    let result := decimalOfText value.toList
    let _ ← validateDecimalEnvelope result
    pure result

/-! ## Digits -/

theorem isAsciiDigit_digitChar {digit : Nat} (below : digit < 10) :
    isAsciiDigit (Nat.digitChar digit) := by
  interval_cases digit <;> decide

theorem digitChar_toNat {digit : Nat} (below : digit < 10) :
    (Nat.digitChar digit).toNat - 48 = digit := by
  interval_cases digit <;> decide

theorem digitChar_of_isAsciiDigit {char : Char} (isDigit : isAsciiDigit char) :
    Nat.digitChar (char.toNat - 48) = char := by
  simp only [isAsciiDigit, Bool.and_eq_true, decide_eq_true_eq] at isDigit
  obtain ⟨low, high⟩ := isDigit
  have back : char = Char.ofNat char.toNat := (Char.ofNat_toNat char).symm
  generalize char.toNat = code at low high back
  subst back
  interval_cases code <;> decide

/-- The values of the digits, least significant first. -/
def digitValues (digits : List Char) : List Nat :=
  (digits.map fun digit => digit.toNat - 48).reverse

theorem digitsValue_eq (digits : List Char) :
    digitsValue digits = Nat.ofDigits 10 (digitValues digits) := by
  induction digits using List.reverseRecOn with
  | nil => rfl
  | append_singleton earlier digit ih =>
      have grown : digitValues (earlier ++ [digit]) =
          (digit.toNat - 48) :: digitValues earlier := by
        simp [digitValues]
      simp only [digitsValue, List.foldl_append, List.foldl_cons, List.foldl_nil] at ih ⊢
      rw [ih, grown, Nat.ofDigits_cons]
      ring

theorem digitsValue_append (left right : List Char) :
    digitsValue (left ++ right) = digitsValue left * 10 ^ right.length + digitsValue right := by
  rw [digitsValue_eq, digitsValue_eq, digitsValue_eq, digitValues, List.map_append,
    List.reverse_append, Nat.ofDigits_append, digitValues, digitValues, List.length_reverse,
    List.length_map]
  ring

theorem digitsValue_zeros (count : Nat) : digitsValue (List.replicate count '0') = 0 := by
  rw [digitsValue_eq, digitValues, List.map_replicate, List.reverse_replicate]
  exact Nat.ofDigits_replicate_zero

theorem digitText_length (number : Nat) :
    (digitText number).length = (Nat.digits 10 number).length := by
  simp [digitText]

theorem digitText_digits (number : Nat) : ∀ char ∈ digitText number, isAsciiDigit char := by
  intro char member
  obtain ⟨digit, found, rfl⟩ := List.mem_map.mp (List.mem_reverse.mp member)
  exact isAsciiDigit_digitChar (Nat.digits_lt_base (by decide) found)

/-- The digits of a number denote it. -/
theorem digitsValue_digitText (number : Nat) : digitsValue (digitText number) = number := by
  have values : digitValues (digitText number) = Nat.digits 10 number := by
    rw [digitValues, digitText, List.map_reverse, List.reverse_reverse, List.map_map]
    conv_rhs => rw [← List.map_id (Nat.digits 10 number)]
    apply List.map_congr_left
    intro digit member
    exact digitChar_toNat (Nat.digits_lt_base (by decide) member)
  rw [digitsValue_eq, values, Nat.ofDigits_digits]

theorem digitText_startsNonzero {number : Nat} (nonzero : number ≠ 0) :
    startsNonzero (digitText number) := by
  have present : Nat.digits 10 number ≠ [] := Nat.digits_ne_nil_iff_ne_zero.mpr nonzero
  have last := Nat.getLast_digit_ne_zero 10 nonzero
  have below : (Nat.digits 10 number).getLast present < 10 :=
    Nat.digits_lt_base (by decide) (List.getLast_mem present)
  have head : (digitText number).head? =
      some (Nat.digitChar ((Nat.digits 10 number).getLast present)) := by
    rw [digitText, List.head?_reverse, List.getLast?_map, List.getLast?_eq_some_getLast present]
    rfl
  simp only [startsNonzero, head, Bool.and_eq_true, decide_eq_true_eq, ne_eq, Option.some.injEq]
  constructor
  · intro empty
    rw [empty] at head
    cases head
  · generalize (Nat.digits 10 number).getLast present = digit at last below
    interval_cases digit
    · exact absurd rfl last
    all_goals decide

/-- Digits without leading zeros are the digits of the number they denote. -/
theorem digitText_digitsValue {digits : List Char} (all : ∀ char ∈ digits, isAsciiDigit char)
    (leading : startsNonzero digits) : digitText (digitsValue digits) = digits := by
  simp only [startsNonzero, Bool.and_eq_true, decide_eq_true_eq] at leading
  obtain ⟨present, nonzero⟩ := leading
  have below : ∀ value ∈ digitValues digits, value < 10 := by
    intro value member
    obtain ⟨char, found, rfl⟩ := List.mem_map.mp (List.mem_reverse.mp member)
    have isDigit := all char found
    simp only [isAsciiDigit, Bool.and_eq_true, decide_eq_true_eq] at isDigit
    omega
  have last : ∀ nonempty : digitValues digits ≠ [], (digitValues digits).getLast nonempty ≠ 0 := by
    intro nonempty
    obtain ⟨first, rest, rfl⟩ := List.exists_cons_of_ne_nil present
    have isDigit := all first List.mem_cons_self
    have rebuilt := digitChar_of_isAsciiDigit isDigit
    simp only [digitValues, List.map_cons, List.reverse_cons, List.getLast_append_singleton]
    intro zero
    rw [zero] at rebuilt
    exact nonzero (congrArg some rebuilt.symm)
  rw [digitsValue_eq, digitText, Nat.digits_ofDigits 10 (by decide) _ below last, digitValues,
    List.map_reverse, List.reverse_reverse, List.map_map]
  conv_rhs => rw [← List.map_id digits]
  apply List.map_congr_left
  intro char member
  exact digitChar_of_isAsciiDigit (all char member)

theorem takeWhile_zeros (digits : List Char) :
    digits.takeWhile (· = '0') =
      List.replicate (digits.takeWhile (· = '0')).length '0' := by
  apply List.eq_replicate_of_mem
  intro char member
  simpa using List.mem_takeWhile_imp member

theorem digitsValue_dropZeros (digits : List Char) :
    digitsValue (digits.dropWhile (· = '0')) = digitsValue digits := by
  conv_rhs => rw [← List.takeWhile_append_dropWhile (p := (· = '0')) (l := digits)]
  rw [digitsValue_append, takeWhile_zeros, digitsValue_zeros]
  simp

/-- Digits with their leading zeros dropped are the digits of the number they
denote. -/
theorem digitText_dropZeros {digits : List Char} (all : ∀ char ∈ digits, isAsciiDigit char) :
    digitText (digitsValue digits) = digits.dropWhile (· = '0') := by
  rw [← digitsValue_dropZeros]
  cases rest : digits.dropWhile (· = '0') with
  | nil => rfl
  | cons first tail =>
      rw [← rest]
      apply digitText_digitsValue
      · intro char member
        exact all char ((List.dropWhile_sublist _).subset member)
      · have nonzero := List.head_dropWhile_not (· = '0') (l := digits) (by rw [rest]; simp)
        simp only [rest, List.head_cons, decide_eq_false_iff_not] at nonzero
        simp [startsNonzero, rest, nonzero]

/-! ## Canonical texts -/

/-- The parts of a canonical text: an integer part without leading zeros, a
fraction without trailing zeros, and no minus sign before zero. -/
structure Shape where
  negative : Bool
  integer : List Char
  fraction : List Char
  integerDigits : ∀ char ∈ integer, isAsciiDigit char
  fractionDigits : ∀ char ∈ fraction, isAsciiDigit char
  leading : startsNonzero integer ∨ integer = ['0']
  trailing : fraction.getLast? ≠ some '0'
  signed : negative → ¬ (integer = ['0'] ∧ fraction = [])

namespace Shape

/-- The fraction with its point, where there is one. -/
def pointed (fraction : List Char) : List Char :=
  if fraction = [] then [] else '.' :: fraction

/-- The canonical text. -/
def text (shape : Shape) : List Char :=
  (if shape.negative then ['-'] else []) ++ shape.integer ++ pointed shape.fraction

/-- The decimal the text denotes. -/
def toTuple (shape : Shape) : DecimalTuple :=
  ⟨shape.negative, digitsValue (shape.integer ++ shape.fraction), -shape.fraction.length⟩

theorem integer_ne_nil (shape : Shape) : shape.integer ≠ [] := by
  rcases shape.leading with starts | zero
  · simp only [startsNonzero, Bool.and_eq_true, decide_eq_true_eq] at starts
    exact starts.1
  · simp [zero]

theorem digits (shape : Shape) : ∀ char ∈ shape.integer ++ shape.fraction, isAsciiDigit char := by
  intro char member
  rcases List.mem_append.mp member with inInteger | inFraction
  · exact shape.integerDigits char inInteger
  · exact shape.fractionDigits char inFraction

theorem isAsciiDigit_ne {char : Char} (isDigit : isAsciiDigit char) (mark : Char)
    (other : isAsciiDigit mark = false) : char ≠ mark := by
  rintro rfl
  rw [isDigit] at other
  cases other

/-- The first character is a minus sign exactly in a negative text. -/
theorem head_text (shape : Shape) :
    (shape.text.head? = some '-') ↔ shape.negative = true := by
  obtain ⟨first, rest, split⟩ := List.exists_cons_of_ne_nil shape.integer_ne_nil
  have isDigit := shape.integerDigits first (by rw [split]; exact List.mem_cons_self)
  have notMinus := isAsciiDigit_ne isDigit '-' (by decide)
  cases sign : shape.negative <;> simp [text, sign, split, notMinus]

theorem unsignedText_text (shape : Shape) :
    unsignedText shape.text = shape.integer ++ pointed shape.fraction := by
  rw [unsignedText]
  cases sign : shape.negative with
  | true =>
      rw [if_pos (shape.head_text.mpr sign), text, sign]
      simp
  | false =>
      rw [if_neg (fun minus => by simp [shape.head_text.mp minus] at sign), text, sign]
      simp

/-- A scan over the integer part stops at the point. -/
theorem span_text (shape : Shape) (scan : Char → Bool)
    (passes : ∀ char ∈ shape.integer, scan char) (stops : scan '.' = false) :
    (unsignedText shape.text).takeWhile scan = shape.integer ∧
      (unsignedText shape.text).dropWhile scan = pointed shape.fraction := by
  rw [unsignedText_text, List.takeWhile_append_of_pos passes,
    List.dropWhile_append_of_pos passes]
  rw [pointed]
  split
  · simp
  · simp [stops]

theorem match_text (shape : Shape) : matchCanonicalDecimal shape.text := by
  obtain ⟨taken, dropped⟩ := shape.span_text isAsciiDigit shape.integerDigits (by decide)
  simp only [matchCanonicalDecimal, taken, dropped]
  have sign := shape.head_text
  by_cases empty : shape.fraction = []
  · simp only [pointed, if_pos empty]
    rcases shape.leading with starts | zero
    · simp [starts]
    · have positive : shape.negative ≠ true := fun negative =>
        shape.signed negative ⟨zero, empty⟩
      have unsigned : shape.text.head? ≠ some '-' := fun minus => positive (sign.mp minus)
      simp [zero, unsigned]
  · have ends : endsNonzero shape.fraction := by
      simp only [endsNonzero, Bool.and_eq_true, List.all_eq_true, decide_eq_true_eq]
      exact ⟨⟨shape.fractionDigits, empty⟩, shape.trailing⟩
    simp only [pointed, if_neg empty, ends, Bool.and_true, decide_true, Bool.true_and,
      Bool.or_eq_true, decide_eq_true_eq]
    exact shape.leading

theorem partitionPoint_text (shape : Shape) :
    partitionPoint shape.text = (shape.integer, shape.fraction) := by
  have passes : ∀ char ∈ shape.integer, decide (char ≠ '.') = true := by
    intro char member
    exact decide_eq_true (isAsciiDigit_ne (shape.integerDigits char member) '.' (by decide))
  obtain ⟨taken, dropped⟩ := shape.span_text (fun char => decide (char ≠ '.')) passes (by decide)
  rw [partitionPoint, taken, dropped, pointed]
  split
  next empty => rw [empty]; rfl
  next => rfl

theorem decimalOfText_text (shape : Shape) : decimalOfText shape.text = shape.toTuple := by
  simp only [decimalOfText, partitionPoint_text, toTuple, DecimalTuple.mk.injEq, and_true]
  rw [Bool.eq_iff_iff, decide_eq_true_eq]
  exact shape.head_text

/-- Every text of the grammar has a shape. -/
theorem exists_of_match {text : List Char} (matched : matchCanonicalDecimal text) :
    ∃ shape : Shape, shape.text = text := by
  have split := List.takeWhile_append_dropWhile (p := isAsciiDigit) (l := unsignedText text)
  have integerDigits : ∀ char ∈ (unsignedText text).takeWhile isAsciiDigit, isAsciiDigit char :=
    fun _ member => List.mem_takeWhile_imp member
  have signed : text = (if text.head? = some '-' then ['-'] else []) ++ unsignedText text := by
    rw [unsignedText]
    split
    next minus =>
      obtain ⟨rest, rfl⟩ := List.head?_eq_some_iff.mp minus
      rfl
    next => rfl
  simp only [matchCanonicalDecimal] at matched
  split at matched
  next ended =>
    simp only [Bool.or_eq_true, Bool.and_eq_true, decide_eq_true_eq] at matched
    rw [ended, List.append_nil] at split
    refine ⟨⟨decide (text.head? = some '-'), (unsignedText text).takeWhile isAsciiDigit, [],
      integerDigits, by simp, matched.imp_right And.left, by simp, ?_⟩, ?_⟩
    · intro negative zero
      have starts : startsNonzero ['0'] = false := by decide
      rw [zero.1, starts] at matched
      simp only [decide_eq_true_eq] at negative
      simp [negative] at matched
    · simp only [Shape.text, decide_eq_true_eq, pointed, if_true, List.append_nil, split]
      exact signed.symm
  next mark fraction dropped =>
    simp only [Bool.or_eq_true, Bool.and_eq_true, decide_eq_true_eq, endsNonzero,
      List.all_eq_true] at matched
    obtain ⟨⟨rfl, leading⟩, ⟨fractionDigits, present⟩, trailing⟩ := matched
    refine ⟨⟨decide (text.head? = some '-'), (unsignedText text).takeWhile isAsciiDigit, fraction,
      integerDigits, fractionDigits, leading, trailing, fun _ zero => present zero.2⟩, ?_⟩
    rw [dropped] at split
    simp only [Shape.text, decide_eq_true_eq, pointed, if_neg present, List.append_assoc, split]
    exact signed.symm

/-- The significant digits of a text are the digits of its coefficient. -/
theorem significant (shape : Shape) :
    ((shape.integer ++ shape.fraction).dropWhile (· = '0')).length =
      (Nat.digits 10 shape.toTuple.coefficient).length := by
  rw [← digitText_dropZeros shape.digits, digitText_length, toTuple]

theorem integer_length_le (shape : Shape) (other : shape.integer ≠ ['0']) :
    shape.integer.length + shape.fraction.length =
      (Nat.digits 10 shape.toTuple.coefficient).length := by
  have starts : startsNonzero shape.integer := shape.leading.resolve_right other
  obtain ⟨first, rest, split⟩ := List.exists_cons_of_ne_nil shape.integer_ne_nil
  rw [← significant, split]
  simp only [startsNonzero, split, Bool.and_eq_true, decide_eq_true_eq, List.head?_cons,
    ne_eq, Option.some.injEq] at starts
  simp only [List.cons_append, List.dropWhile_cons, starts.2, decide_false]
  simp only [Bool.false_eq_true, if_false, List.length_cons, List.length_append]
  omega

/-- What a text within the digit limits denotes is admitted. -/
theorem admitted (shape : Shape)
    (digitBound : (Nat.digits 10 shape.toTuple.coefficient).length ≤ maxSignificantDigits)
    (scaleBound : shape.fraction.length ≤ maxScale) :
    ∃ tuple, validateDecimalEnvelope shape.toTuple = .ok tuple := by
  simp only [maxSignificantDigits, maxScale] at digitBound scaleBound
  simp only [validateDecimalEnvelope]
  split
  · exact ⟨_, rfl⟩
  next nonzero =>
    have count : shape.toTuple.digitCount =
        (Nat.digits 10 shape.toTuple.coefficient).length := by
      rw [DecimalTuple.digitCount, if_neg nonzero]
    have exponent : shape.toTuple.exponent = -shape.fraction.length := rfl
    rw [count, exponent, if_neg, if_neg, if_neg]
    · exact ⟨_, rfl⟩
    all_goals simp only [maxSignificantDigits, maxScale, maxIntegerDigits]; omega

/-- A text within the digit limits is accepted. -/
theorem accepted (shape : Shape)
    (digitBound : (Nat.digits 10 shape.toTuple.coefficient).length ≤ maxSignificantDigits)
    (scaleBound : shape.fraction.length ≤ maxScale) :
    parseCanonicalDecimalText (String.ofList shape.text) = .ok shape.toTuple := by
  simp only [maxSignificantDigits, maxScale] at digitBound scaleBound
  have magnitude : (if shape.integer = ['0'] then 0 else shape.integer.length) ≤ 256 ∧
      shape.integer.length + shape.fraction.length ≤ 257 := by
    split
    next zero =>
      rw [zero]
      simp only [List.length_singleton]
      omega
    next other =>
      have total := shape.integer_length_le other
      omega
  have valid : isValidDecimalScalar shape.text := by
    have short : shape.text.length ≤ maxDecimalTextLength := by
      simp only [text, pointed, List.length_append, maxDecimalTextLength]
      have sign : (if shape.negative then ['-'] else []).length ≤ 1 := by
        split <;> simp
      by_cases empty : shape.fraction = []
      · rw [if_pos empty, List.length_nil]
        omega
      · rw [if_neg empty, List.length_cons]
        omega
    simp only [isValidDecimalScalar, withinDecimalEnvelope, partitionPoint_text, significant,
      shape.match_text, Bool.and_eq_true, decide_eq_true_eq, maxSignificantDigits, maxScale,
      maxIntegerDigits]
    refine ⟨⟨short, trivial⟩, ⟨?_, scaleBound⟩, magnitude.1⟩
    split <;> omega
  obtain ⟨tuple, inside⟩ := shape.admitted digitBound scaleBound
  simp only [parseCanonicalDecimalText, String.toList_ofList, valid, not_true, if_false,
    decimalOfText_text, inside, ok_bind]
  rfl

/-- Accepted text is within the digit limits. -/
theorem of_accepted {value : String} {result : DecimalTuple}
    (parsed : parseCanonicalDecimalText value = .ok result) :
    ∃ shape : Shape, value = String.ofList shape.text ∧ result = shape.toTuple ∧
      ∃ tuple, validateDecimalEnvelope result = .ok tuple := by
  simp only [parseCanonicalDecimalText, guard_eq_ok, not_not, isValidDecimalScalar,
    Bool.and_eq_true, bind_eq_ok, pure_eq_ok] at parsed
  obtain ⟨⟨⟨-, matched⟩, -⟩, tuple, inside, rfl⟩ := parsed
  obtain ⟨shape, same⟩ := exists_of_match matched
  refine ⟨shape, ?_, ?_, tuple, inside⟩
  · rw [same, String.ofList_toList]
  · rw [← same, decimalOfText_text]

/-- Stripping zeros and then the point from a fixed rendering. -/
theorem strip_pointed {front fraction : List Char} (present : front ≠ [])
    (frontDigit : isAsciiDigit (front.getLast present))
    (fractionDigits : ∀ char ∈ fraction, isAsciiDigit char) :
    ((front ++ '.' :: fraction).rdropWhile (· = '0')).rdropWhile (· = '.') =
      front ++ pointed (fraction.rdropWhile (· = '0')) := by
  have zeros : (front ++ '.' :: fraction).rdropWhile (· = '0') =
      front ++ '.' :: fraction.rdropWhile (· = '0') := by
    induction fraction using List.reverseRecOn with
    | nil => rw [List.rdropWhile_concat_neg _ _ _ (by decide), List.rdropWhile_nil]
    | append_singleton earlier digit ih =>
        have rest := ih fun char member => fractionDigits char (List.mem_append_left _ member)
        rw [← List.cons_append, ← List.append_assoc, List.rdropWhile_concat, rest,
          List.rdropWhile_concat]
        split <;> simp
  rw [zeros, pointed]
  split
  next empty =>
    rw [empty, List.rdropWhile_concat_pos _ _ _ (by decide), List.rdropWhile_eq_self_iff.mpr,
      List.append_nil]
    intro _
    simpa using isAsciiDigit_ne frontDigit '.' (by decide)
  next nonempty =>
    apply List.rdropWhile_eq_self_iff.mpr
    intro whole
    have last : (front ++ '.' :: fraction.rdropWhile (· = '0')).getLast whole =
        (fraction.rdropWhile (· = '0')).getLast nonempty := by
      rw [List.getLast_append_of_ne_nil _ (by simp), List.getLast_cons nonempty]
    have isDigit := fractionDigits _
      (( List.rdropWhile_prefix _ fraction).subset (List.getLast_mem nonempty))
    rw [last]
    simpa using isAsciiDigit_ne isDigit '.' (by decide)

/-- The shape that trimming a fraction leaves, and the zeros it dropped. -/
theorem exists_trimmed (negative : Bool) {integer fraction : List Char}
    (integerDigits : ∀ char ∈ integer, isAsciiDigit char)
    (fractionDigits : ∀ char ∈ fraction, isAsciiDigit char)
    (leading : startsNonzero integer ∨ integer = ['0'])
    (nonzero : digitsValue (integer ++ fraction) ≠ 0) :
    ∃ (shape : Shape) (dropped : Nat), shape.negative = negative ∧ shape.integer = integer ∧
      shape.fraction = fraction.rdropWhile (· = '0') ∧
      fraction.length = shape.fraction.length + dropped ∧
      digitsValue (integer ++ fraction) = shape.toTuple.coefficient * 10 ^ dropped := by
  have split : fraction.rdropWhile (· = '0') ++ fraction.rtakeWhile (· = '0') = fraction :=
    List.rdropWhile_append_rtakeWhile
  have zeros : fraction.rtakeWhile (· = '0') =
      List.replicate (fraction.rtakeWhile (· = '0')).length '0' := by
    apply List.eq_replicate_of_mem
    intro char member
    simpa using List.mem_rtakeWhile_imp member
  have scaled : digitsValue (integer ++ fraction) =
      digitsValue (integer ++ fraction.rdropWhile (· = '0')) *
        10 ^ (fraction.rtakeWhile (· = '0')).length := by
    conv_lhs => rw [← split, ← List.append_assoc]
    rw [digitsValue_append, zeros, digitsValue_zeros, List.length_replicate, add_zero]
  refine ⟨⟨negative, integer, fraction.rdropWhile (· = '0'), integerDigits, ?_, leading, ?_, ?_⟩,
    (fraction.rtakeWhile (· = '0')).length, rfl, rfl, rfl, ?_, scaled⟩
  · intro char member
    exact fractionDigits char (( List.rdropWhile_prefix _ _).subset member)
  · intro last
    have present : fraction.rdropWhile (· = '0') ≠ [] := by
      intro empty
      rw [empty] at last
      cases last
    rw [List.getLast?_eq_some_getLast present, Option.some.injEq] at last
    exact List.rdropWhile_last_not _ _ present (by simpa using last)
  · rintro - ⟨zero, empty⟩
    rw [zero, empty] at scaled
    apply nonzero
    rw [zero, scaled]
    simp [digitsValue]
  · conv_lhs => rw [← split]
    rw [List.length_append]

end Shape

/-! ## What the writer writes -/

/-- Zeros at the end of a coefficient are a shift of the exponent. -/
theorem DecimalTuple.toRat_shift (negative : Bool) (coefficient shift : Nat) (exponent : Int) :
    DecimalTuple.toRat ⟨negative, coefficient * 10 ^ shift, exponent⟩ =
      DecimalTuple.toRat ⟨negative, coefficient, exponent + shift⟩ := by
  have power : (10 : ℚ) ^ (exponent + shift) = 10 ^ shift * 10 ^ exponent := by
    rw [zpow_add₀ (by norm_num), zpow_natCast, mul_comm]
  simp only [toRat, signedCoefficient, power]
  cases negative <;> simp <;> ring

/-- Triples with one exponent that denote one value. -/
theorem DecimalTuple.coefficient_eq {leftSign rightSign : Bool} {left right : Nat}
    {exponent : Int} (same : DecimalTuple.toRat ⟨leftSign, left, exponent⟩ =
      DecimalTuple.toRat ⟨rightSign, right, exponent⟩) :
    left = right ∧ (left ≠ 0 → leftSign = rightSign) := by
  have power : (10 : ℚ) ^ exponent ≠ 0 := zpow_ne_zero _ (by norm_num)
  have signed := mul_right_cancel₀ power same
  rw [Int.cast_inj] at signed
  simp only [signedCoefficient] at signed
  cases leftSign <;> cases rightSign <;> simp at signed ⊢ <;> omega

/-- The text `canonical_decimal_text` returns for a decimal that is not zero. -/
def fixedText (value : DecimalTuple) : List Char :=
  if '.' ∈ formatFixed value then
    ((formatFixed value).rdropWhile (· = '0')).rdropWhile (· = '.')
  else formatFixed value

theorem canonicalDecimalText_eq {value tuple : DecimalTuple}
    (inside : validateDecimalEnvelope value = .ok tuple) (nonzero : value.coefficient ≠ 0) :
    canonicalDecimalText value = .ok (String.ofList (fixedText value)) := by
  simp only [canonicalDecimalText, inside, ok_bind, if_neg nonzero, fixedText]
  split <;> rfl

/-- A rendering with a point, trimmed. -/
theorem fixedText_pointed {value : DecimalTuple} {integer fraction : List Char}
    (rendered : formatFixed value =
      (if value.negative then ['-'] else []) ++ integer ++ '.' :: fraction)
    (present : integer ≠ []) (integerDigits : ∀ char ∈ integer, isAsciiDigit char)
    (fractionDigits : ∀ char ∈ fraction, isAsciiDigit char) :
    fixedText value = (if value.negative then ['-'] else []) ++ integer ++
      Shape.pointed (fraction.rdropWhile (· = '0')) := by
  have point : '.' ∈ formatFixed value := by
    rw [rendered]
    simp
  rw [fixedText, if_pos point, rendered]
  have nonempty : (if value.negative then ['-'] else []) ++ integer ≠ [] := by
    simp [present]
  apply Shape.strip_pointed nonempty _ fractionDigits
  rw [List.getLast_append_of_ne_nil _ present]
  exact integerDigits _ (List.getLast_mem present)

/-- A rendering with a point has a canonical shape that denotes the value. -/
theorem exists_shape_of_pointed {value : DecimalTuple} {integer fraction : List Char}
    (nonzero : value.coefficient ≠ 0)
    (rendered : formatFixed value =
      (if value.negative then ['-'] else []) ++ integer ++ '.' :: fraction)
    (integerDigits : ∀ char ∈ integer, isAsciiDigit char)
    (fractionDigits : ∀ char ∈ fraction, isAsciiDigit char)
    (leading : startsNonzero integer ∨ integer = ['0'])
    (denotes : digitsValue (integer ++ fraction) = value.coefficient)
    (scale : value.exponent = -(fraction.length : Int)) :
    ∃ shape : Shape, fixedText value = shape.text ∧ shape.toTuple.toRat = value.toRat ∧
      shape.fraction.length ≤ fraction.length ∧
      (Nat.digits 10 shape.toTuple.coefficient).length ≤
        (Nat.digits 10 value.coefficient).length := by
  obtain ⟨shape, dropped, sameSign, sameInteger, trimmed, lengths, scaled⟩ :=
    Shape.exists_trimmed value.negative integerDigits fractionDigits leading
      (denotes.trans_ne nonzero)
  rw [denotes] at scaled
  have present : integer ≠ [] := sameInteger ▸ shape.integer_ne_nil
  refine ⟨shape, ?_, ?_, by omega, ?_⟩
  · rw [fixedText_pointed rendered present integerDigits fractionDigits, Shape.text, sameSign,
      sameInteger, trimmed]
  · obtain ⟨negative, coefficient, exponent⟩ := value
    simp only at scaled scale sameSign
    rw [scaled, DecimalTuple.toRat_shift, Shape.toTuple, sameSign, scale, lengths]
    congr 2
    push_cast
    ring
  · apply Nat.le_length_digits_le
    rw [scaled]
    exact Nat.le_mul_of_pos_right _ (by positivity)

/-- A rendering without a point is canonical as it stands. -/
theorem exists_shape_of_whole {value : DecimalTuple} (nonzero : value.coefficient ≠ 0)
    (whole : 0 ≤ value.exponent) :
    ∃ shape : Shape, fixedText value = shape.text ∧ shape.toTuple.toRat = value.toRat ∧
      shape.fraction.length = 0 ∧
      (Nat.digits 10 shape.toTuple.coefficient).length =
        (Nat.digits 10 value.coefficient).length + value.exponent.toNat := by
  obtain ⟨negative, coefficient, exponent⟩ := value
  simp only at nonzero whole ⊢
  have digits : ∀ char ∈ digitText coefficient ++ List.replicate exponent.toNat '0',
      isAsciiDigit char := by
    intro char member
    rcases List.mem_append.mp member with own | zero
    · exact digitText_digits coefficient char own
    · rw [List.eq_of_mem_replicate zero]
      decide
  have starts : startsNonzero (digitText coefficient ++ List.replicate exponent.toNat '0') := by
    have own := digitText_startsNonzero nonzero
    simp only [startsNonzero, Bool.and_eq_true, decide_eq_true_eq] at own ⊢
    obtain ⟨first, rest, split⟩ := List.exists_cons_of_ne_nil own.1
    rw [split] at own ⊢
    exact ⟨by simp, own.2⟩
  have rendered : formatFixed ⟨negative, coefficient, exponent⟩ =
      (if negative then ['-'] else []) ++
        (digitText coefficient ++ List.replicate exponent.toNat '0') := by
    simp only [formatFixed, if_pos whole, List.append_assoc]
  have pointless : '.' ∉ formatFixed ⟨negative, coefficient, exponent⟩ := by
    rw [rendered]
    intro member
    rcases List.mem_append.mp member with inSign | inDigits
    · cases negative <;> simp at inSign
    · exact Shape.isAsciiDigit_ne (digits '.' inDigits) '.' (by decide) rfl
  have value : digitsValue (digitText coefficient ++ List.replicate exponent.toNat '0' ++ []) =
      coefficient * 10 ^ exponent.toNat := by
    rw [List.append_nil, digitsValue_append, digitsValue_digitText, digitsValue_zeros,
      List.length_replicate, add_zero]
  refine ⟨⟨negative, _, [], digits, by simp, .inl starts, by simp, ?_⟩, ?_, ?_, rfl, ?_⟩
  · rintro - ⟨zero, -⟩
    rw [zero] at starts
    cases starts
  · rw [fixedText, if_neg pointless, rendered, Shape.text, Shape.pointed, if_pos rfl,
      List.append_nil]
  · rw [Shape.toTuple, value, DecimalTuple.toRat_shift]
    congr 1
    simp [whole]
  · rw [Shape.toTuple, value, mul_comm, Nat.digits_base_pow_mul (by decide) (by omega),
      List.length_append, List.length_replicate, add_comm]

/-- The point falls among the digits, or before them. -/
theorem exists_pointed {value : DecimalTuple} (nonzero : value.coefficient ≠ 0)
    (fractional : ¬ 0 ≤ value.exponent) :
    ∃ shape : Shape, fixedText value = shape.text ∧ shape.toTuple.toRat = value.toRat ∧
      shape.fraction.length ≤ (-value.exponent).toNat ∧
      (Nat.digits 10 shape.toTuple.coefficient).length ≤
        (Nat.digits 10 value.coefficient).length := by
  have digits := digitText_digits value.coefficient
  have starts := digitText_startsNonzero nonzero
  have denotes := digitsValue_digitText value.coefficient
  by_cases mixed : (-value.exponent).toNat < (digitText value.coefficient).length
  · obtain ⟨kept, keptEq⟩ : ∃ kept,
        (digitText value.coefficient).length - (-value.exponent).toNat = kept + 1 :=
      ⟨(digitText value.coefficient).length - (-value.exponent).toNat - 1, by omega⟩
    have rendered : formatFixed value = (if value.negative then ['-'] else []) ++
        (digitText value.coefficient).take (kept + 1) ++
          '.' :: (digitText value.coefficient).drop (kept + 1) := by
      simp only [formatFixed, if_neg fractional, if_pos mixed, keptEq]
    have leading : startsNonzero ((digitText value.coefficient).take (kept + 1)) := by
      simp only [startsNonzero, Bool.and_eq_true, decide_eq_true_eq] at starts ⊢
      obtain ⟨first, rest, split⟩ := List.exists_cons_of_ne_nil starts.1
      rw [split] at starts ⊢
      exact ⟨by simp, starts.2⟩
    have length : ((digitText value.coefficient).drop (kept + 1)).length =
        (-value.exponent).toNat := by
      rw [List.length_drop]
      omega
    rw [← length]
    apply exists_shape_of_pointed nonzero rendered
    · exact fun char member => digits char (List.mem_of_mem_take member)
    · exact fun char member => digits char (List.mem_of_mem_drop member)
    · exact .inl leading
    · rw [List.take_append_drop, denotes]
    · rw [length]
      omega
  · have rendered : formatFixed value = (if value.negative then ['-'] else []) ++ ['0'] ++
        '.' :: (List.replicate ((-value.exponent).toNat -
          (digitText value.coefficient).length) '0' ++ digitText value.coefficient) := by
      simp only [formatFixed, if_neg fractional, if_neg mixed]
    have length : (List.replicate ((-value.exponent).toNat -
        (digitText value.coefficient).length) '0' ++ digitText value.coefficient).length =
          (-value.exponent).toNat := by
      rw [List.length_append, List.length_replicate]
      omega
    rw [← length]
    apply exists_shape_of_pointed nonzero rendered
    · intro char member
      rw [List.mem_singleton.mp member]
      decide
    · intro char member
      rcases List.mem_append.mp member with zero | own
      · rw [List.eq_of_mem_replicate zero]
        decide
      · exact digits char own
    · exact .inr rfl
    · rw [← List.append_assoc, digitsValue_append, digitsValue_append, digitsValue_zeros, denotes]
      simp [digitsValue]
    · rw [length]
      omega

/-- The shape of zero. -/
def Shape.zero : Shape where
  negative := false
  integer := ['0']
  fraction := []
  integerDigits := by
    intro char member
    rw [List.mem_singleton.mp member]
    decide
  fractionDigits := by simp
  leading := .inr rfl
  trailing := by simp
  signed := by simp

theorem DecimalTuple.toRat_eq_zero {value : DecimalTuple} :
    value.toRat = 0 ↔ value.coefficient = 0 := by
  have power : (10 : ℚ) ^ value.exponent ≠ 0 := zpow_ne_zero _ (by norm_num)
  rw [toRat, mul_eq_zero, or_iff_left power, signedCoefficient]
  split <;> simp

/-- The writer's text has a canonical shape that denotes the written value and
keeps within the digit limits. -/
theorem exists_shape {value tuple : DecimalTuple}
    (inside : validateDecimalEnvelope value = .ok tuple) :
    ∃ shape : Shape, canonicalDecimalText value = .ok (String.ofList shape.text) ∧
      shape.toTuple.toRat = value.toRat ∧ shape.fraction.length ≤ maxScale ∧
      (Nat.digits 10 shape.toTuple.coefficient).length ≤ maxSignificantDigits := by
  by_cases zero : value.coefficient = 0
  · refine ⟨.zero, ?_, ?_, by decide, by decide⟩
    · simp only [canonicalDecimalText, inside, ok_bind, if_pos zero]
      rfl
    · rw [DecimalTuple.toRat_eq_zero.mpr zero, DecimalTuple.toRat_eq_zero]
      rfl
  · rw [canonicalDecimalText_eq inside zero]
    simp only [validateDecimalEnvelope, if_neg zero, guard_eq_ok, DecimalTuple.digitCount,
      maxSignificantDigits, maxScale, maxIntegerDigits] at inside ⊢
    obtain ⟨significant, scale, integers, -⟩ := inside
    by_cases whole : 0 ≤ value.exponent
    · obtain ⟨shape, written, same, noFraction, digits⟩ := exists_shape_of_whole zero whole
      exact ⟨shape, by rw [written], same, by omega, by omega⟩
    · obtain ⟨shape, written, same, fraction, digits⟩ := exists_pointed zero whole
      exact ⟨shape, by rw [written], same, by omega, by omega⟩

/-! ## The codec laws -/

namespace Shape

/-- The fraction of a canonical text keeps its last digit when written again. -/
theorem rdropWhile_fraction (shape : Shape) :
    shape.fraction.rdropWhile (· = '0') = shape.fraction := by
  rw [List.rdropWhile_eq_self_iff]
  intro present zero
  apply shape.trailing
  rw [List.getLast?_eq_some_getLast present]
  simpa using zero

theorem dropZeros (shape : Shape) (starts : startsNonzero shape.integer) :
    (shape.integer ++ shape.fraction).dropWhile (· = '0') = shape.integer ++ shape.fraction := by
  obtain ⟨first, rest, split⟩ := List.exists_cons_of_ne_nil shape.integer_ne_nil
  simp only [startsNonzero, split, Bool.and_eq_true, decide_eq_true_eq, List.head?_cons, ne_eq,
    Option.some.injEq] at starts
  rw [split, List.cons_append, List.dropWhile_cons_of_neg]
  simpa using starts.2

theorem coefficient_eq_zero (shape : Shape) :
    shape.toTuple.coefficient = 0 ↔ shape.integer = ['0'] ∧ shape.fraction = [] := by
  constructor
  · intro zero
    have dropped : (shape.integer ++ shape.fraction).dropWhile (· = '0') = [] := by
      rw [← digitText_dropZeros shape.digits]
      change digitText shape.toTuple.coefficient = []
      rw [zero]
      rfl
    have zeros := List.dropWhile_eq_nil_iff.mp dropped
    have integer : shape.integer = ['0'] := by
      rcases shape.leading with starts | single
      · rw [shape.dropZeros starts, List.append_eq_nil_iff] at dropped
        exact absurd dropped.1 shape.integer_ne_nil
      · exact single
    refine ⟨integer, ?_⟩
    by_contra present
    apply shape.trailing
    rw [List.getLast?_eq_some_getLast present]
    simpa using zeros _ (List.mem_append_right _ (List.getLast_mem present))
  · rintro ⟨integer, fraction⟩
    simp [toTuple, integer, fraction, digitsValue]

/-- The writer gives a canonical text back. -/
theorem fixedText_toTuple (shape : Shape) (nonzero : shape.toTuple.coefficient ≠ 0) :
    fixedText shape.toTuple = shape.text := by
  have written : digitText shape.toTuple.coefficient =
      (shape.integer ++ shape.fraction).dropWhile (· = '0') := digitText_dropZeros shape.digits
  have exponent : shape.toTuple.exponent = -(shape.fraction.length : Int) := rfl
  by_cases empty : shape.fraction = []
  · -- no fraction: the integer part is written without a point
    have starts : startsNonzero shape.integer := shape.leading.resolve_right fun single =>
      nonzero (shape.coefficient_eq_zero.mpr ⟨single, empty⟩)
    have rendered : formatFixed shape.toTuple =
        (if shape.negative then ['-'] else []) ++ shape.integer := by
      rw [shape.dropZeros starts, empty, List.append_nil] at written
      have zero : shape.toTuple.exponent = 0 := by rw [exponent, empty]; rfl
      simp only [formatFixed, zero, written, le_refl, if_true, Int.toNat_zero,
        List.replicate_zero, List.append_nil]
      rfl
    have pointless : '.' ∉ formatFixed shape.toTuple := by
      rw [rendered]
      intro member
      rcases List.mem_append.mp member with inSign | inInteger
      · cases sign : shape.negative <;> simp [sign] at inSign
      · exact isAsciiDigit_ne (shape.integerDigits '.' inInteger) '.' (by decide) rfl
    rw [fixedText, if_neg pointless, rendered, text, empty, pointed, if_pos rfl, List.append_nil]
  · have fractional : ¬ 0 ≤ shape.toTuple.exponent := by
      have positive := List.length_pos_iff.mpr empty
      omega
    have scale : (-shape.toTuple.exponent).toNat = shape.fraction.length := by omega
    have rendered : formatFixed shape.toTuple =
        (if shape.toTuple.negative then ['-'] else []) ++ shape.integer ++
          '.' :: shape.fraction := by
      simp only [formatFixed, if_neg fractional, scale]
      rcases shape.leading with starts | single
      · rw [shape.dropZeros starts] at written
        have length : shape.fraction.length < (shape.integer ++ shape.fraction).length := by
          have positive := List.length_pos_iff.mpr shape.integer_ne_nil
          rw [List.length_append]
          omega
        rw [written, if_pos length, List.length_append, Nat.add_sub_cancel, List.take_left,
          List.drop_left]
      · -- a bare zero: the zeros the digits lost come back as padding
        have stripped : (shape.integer ++ shape.fraction).dropWhile (· = '0') =
            shape.fraction.dropWhile (· = '0') := by
          rw [single]
          rfl
        have split := List.takeWhile_append_dropWhile (p := (· = '0')) (l := shape.fraction)
        have lengths := congrArg List.length split
        rw [List.length_append] at lengths
        have short : ¬ shape.fraction.length < (shape.fraction.dropWhile (· = '0')).length := by
          omega
        rw [written, stripped, if_neg short, single]
        have padding : shape.fraction.length - (shape.fraction.dropWhile (· = '0')).length =
            (shape.fraction.takeWhile (· = '0')).length := by
          omega
        rw [padding, ← takeWhile_zeros, split]
    rw [fixedText_pointed rendered shape.integer_ne_nil shape.integerDigits shape.fractionDigits,
      rdropWhile_fraction, text, toTuple]

theorem canonicalDecimalText_toTuple (shape : Shape) {tuple : DecimalTuple}
    (inside : validateDecimalEnvelope shape.toTuple = .ok tuple) :
    canonicalDecimalText shape.toTuple = .ok (String.ofList shape.text) := by
  by_cases zero : shape.toTuple.coefficient = 0
  · obtain ⟨integer, fraction⟩ := shape.coefficient_eq_zero.mp zero
    have positive : shape.negative = false := by
      cases sign : shape.negative with
      | false => rfl
      | true => exact absurd ⟨integer, fraction⟩ (shape.signed sign)
    simp only [canonicalDecimalText, inside, ok_bind, if_pos zero]
    rw [text, positive, integer, fraction]
    rfl
  · rw [canonicalDecimalText_eq inside zero, shape.fixedText_toTuple zero]

/-- The coefficient of a text with a fraction does not end in zero. -/
theorem coefficient_mod_ten (shape : Shape) (present : shape.fraction ≠ []) :
    shape.toTuple.coefficient % 10 ≠ 0 := by
  obtain ⟨earlier, last, split⟩ := List.eq_nil_or_concat' shape.fraction |>.resolve_left present
  have isDigit := shape.fractionDigits last (by rw [split]; simp)
  have nonzero : last ≠ '0' := by
    rintro rfl
    exact shape.trailing (by rw [split]; simp)
  have rebuilt := digitChar_of_isAsciiDigit isDigit
  have value : shape.toTuple.coefficient =
      digitsValue (shape.integer ++ earlier) * 10 + (last.toNat - 48) := by
    change digitsValue (shape.integer ++ shape.fraction) = _
    rw [split, ← List.append_assoc, digitsValue_append]
    simp [digitsValue]
  simp only [isAsciiDigit, Bool.and_eq_true, decide_eq_true_eq] at isDigit
  rw [value]
  intro zero
  have digit : last.toNat - 48 = 0 := by omega
  rw [digit] at rebuilt
  exact nonzero rebuilt.symm

theorem fraction_le_of_toRat_eq {left right : Shape}
    (same : left.toTuple.toRat = right.toTuple.toRat) :
    right.fraction.length ≤ left.fraction.length := by
  by_contra longer
  obtain ⟨shift, lengths⟩ : ∃ shift, right.fraction.length = left.fraction.length + shift :=
    ⟨right.fraction.length - left.fraction.length, by omega⟩
  have present : right.fraction ≠ [] := List.length_pos_iff.mp (by omega)
  -- written with the longer scale, the coefficient on the left ends in zero
  have shifted : DecimalTuple.toRat ⟨left.negative,
      left.toTuple.coefficient * 10 ^ shift, -right.fraction.length⟩ =
        DecimalTuple.toRat ⟨right.negative, right.toTuple.coefficient,
          -right.fraction.length⟩ := by
    have exponent : -(right.fraction.length : Int) + shift = -(left.fraction.length : Int) := by
      omega
    rw [DecimalTuple.toRat_shift, exponent]
    exact same
  have coefficients := (DecimalTuple.coefficient_eq shifted).1
  obtain ⟨more, rfl⟩ : ∃ more, shift = more + 1 := ⟨shift - 1, by omega⟩
  apply right.coefficient_mod_ten present
  rw [← coefficients, pow_succ, ← Nat.mul_assoc, Nat.mul_mod_left]

/-- Canonical texts that denote one value denote one triple. -/
theorem toTuple_eq_of_toRat_eq {left right : Shape}
    (same : left.toTuple.toRat = right.toTuple.toRat) : left.toTuple = right.toTuple := by
  have length : left.fraction.length = right.fraction.length :=
    le_antisymm (fraction_le_of_toRat_eq same.symm) (fraction_le_of_toRat_eq same)
  have aligned : DecimalTuple.toRat ⟨left.negative, left.toTuple.coefficient,
      -right.fraction.length⟩ = right.toTuple.toRat := by
    rw [← length]
    exact same
  obtain ⟨coefficients, signs⟩ := DecimalTuple.coefficient_eq aligned
  have sign : left.negative = right.negative := by
    by_cases zero : left.toTuple.coefficient = 0
    · have leftZero := left.coefficient_eq_zero.mp zero
      have rightZero := right.coefficient_eq_zero.mp (coefficients.symm.trans zero)
      rw [Bool.eq_iff_iff]
      exact iff_of_false (fun negative => left.signed negative leftZero)
        fun negative => right.signed negative rightZero
    · exact signs zero
  have leftTuple : left.toTuple =
      ⟨left.negative, left.toTuple.coefficient, -(left.fraction.length : Int)⟩ := rfl
  rw [leftTuple, sign, coefficients, length]
  rfl

end Shape

/-- `as_fraction` of an admitted decimal is its value. -/
theorem asFraction_eq {value tuple : DecimalTuple}
    (inside : validateDecimalEnvelope value = .ok tuple) : asFraction value = .ok value.toRat := by
  simp only [asFraction, inside, ok_bind]
  have bounded := representable_of_validateDecimalEnvelope inside
  by_cases zero : value.coefficient = 0
  · have normal : tuple.coefficient = 0 := by
      rw [validateDecimalEnvelope, if_pos zero] at inside
      cases inside
      rfl
    rw [if_pos normal, DecimalTuple.toRat_eq_zero.mpr zero]
    rfl
  · have same : tuple = value := by
      simp only [validateDecimalEnvelope, if_neg zero, guard_eq_ok, Except.ok.injEq] at inside
      exact inside.2.2.2.symm
    rw [same] at bounded ⊢
    obtain ⟨result, terminating⟩ := terminatingDecimal_of_representable bounded
    rw [terminatingDecimal, bind_eq_ok] at terminating
    obtain ⟨⟨⟩, intermediate, -⟩ := terminating
    rw [if_neg zero, intermediate]
    rfl

/-- Two admitted decimals with one value are written alike. -/
theorem canonicalDecimalText_eq_of_toRat_eq {left right leftTuple rightTuple : DecimalTuple}
    (leftInside : validateDecimalEnvelope left = .ok leftTuple)
    (rightInside : validateDecimalEnvelope right = .ok rightTuple)
    (same : left.toRat = right.toRat) : canonicalDecimalText left = canonicalDecimalText right := by
  obtain ⟨leftShape, leftWritten, leftSame, leftScale, leftDigits⟩ := exists_shape leftInside
  obtain ⟨rightShape, rightWritten, rightSame, rightScale, rightDigits⟩ :=
    exists_shape rightInside
  have tuples := Shape.toTuple_eq_of_toRat_eq (leftSame.trans (same.trans rightSame.symm))
  obtain ⟨_, -, -, _, leftValid⟩ := Shape.of_accepted (leftShape.accepted leftDigits leftScale)
  obtain ⟨_, -, -, _, rightValid⟩ :=
    Shape.of_accepted (rightShape.accepted rightDigits rightScale)
  have leftText := leftShape.canonicalDecimalText_toTuple leftValid
  have rightText := rightShape.canonicalDecimalText_toTuple rightValid
  rw [leftWritten, rightWritten, ← leftText, ← rightText, tuples]

/-- The canonical decimal codec: a written decimal reads back with its value,
two decimals are written alike exactly when they have one value, and an accepted
text is written back unchanged. -/
theorem canonical_codec :
    (∀ value tuple, validateDecimalEnvelope value = .ok tuple →
      ∃ text result, canonicalDecimalText value = .ok text ∧
        parseCanonicalDecimalText text = .ok result ∧ result.toRat = value.toRat) ∧
    (∀ left right leftTuple rightTuple, validateDecimalEnvelope left = .ok leftTuple →
      validateDecimalEnvelope right = .ok rightTuple →
        (canonicalDecimalText left = canonicalDecimalText right ↔
          asFraction left = asFraction right)) ∧
    ∀ text result, parseCanonicalDecimalText text = .ok result →
      canonicalDecimalText result = .ok text := by
  refine ⟨?_, ?_, ?_⟩
  · intro value tuple inside
    obtain ⟨shape, written, same, scale, digits⟩ := exists_shape inside
    exact ⟨_, _, written, shape.accepted digits scale, same⟩
  · intro left right leftTuple rightTuple leftInside rightInside
    obtain ⟨leftShape, leftWritten, leftSame, leftScale, leftDigits⟩ := exists_shape leftInside
    obtain ⟨rightShape, rightWritten, rightSame, rightScale, rightDigits⟩ :=
      exists_shape rightInside
    have leftRead := leftShape.accepted leftDigits leftScale
    have rightRead := rightShape.accepted rightDigits rightScale
    rw [leftWritten, rightWritten, asFraction_eq leftInside, asFraction_eq rightInside,
      Except.ok.injEq, Except.ok.injEq]
    constructor
    · intro equal
      rw [equal, rightRead, Except.ok.injEq] at leftRead
      rw [← leftSame, ← rightSame, leftRead]
    · intro equal
      have written := canonicalDecimalText_eq_of_toRat_eq leftInside rightInside equal
      rw [leftWritten, rightWritten] at written
      exact Except.ok.inj written
  · intro text result parsed
    obtain ⟨shape, rfl, rfl, tuple, inside⟩ := Shape.of_accepted parsed
    exact shape.canonicalDecimalText_toTuple inside

example : canonicalDecimalText ⟨true, 1200, -5⟩ = .ok "-0.012" := by decide +kernel

end AutoTrade.Numeric
