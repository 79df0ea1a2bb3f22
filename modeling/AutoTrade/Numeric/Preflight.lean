import AutoTrade.Numeric.DecimalText

/-!
# The text preflight

The grammar of a decimal presentation, the decimal that a presentation denotes,
and the agreement of `_preflight_bounded_presentation` with the envelope of that
decimal.
-/

namespace AutoTrade.Numeric

open Lib

/-! ## The grammar -/

/-- `[+-]?`, with whether it is a minus. -/
inductive SignText : Bool → List Char → Prop where
  | none : SignText false []
  | plus : SignText false ['+']
  | minus : SignText true ['-']

/-- `[0-9]+(?:\.[0-9]*)?|\.[0-9]+`, with the digits before and after the point. -/
inductive MantissaText : List Char → List Char → List Char → Prop where
  | whole {integer : List Char} (present : integer ≠ [])
      (digits : ∀ char ∈ integer, isAsciiDigit char) : MantissaText integer [] integer
  | pointed {integer fraction : List Char} (present : integer ≠ [] ∨ fraction ≠ [])
      (integerDigits : ∀ char ∈ integer, isAsciiDigit char)
      (fractionDigits : ∀ char ∈ fraction, isAsciiDigit char) :
      MantissaText integer fraction (integer ++ '.' :: fraction)

/-- `(?:[eE][+-]?[0-9]+)?`, with the text after the mark. -/
inductive ExponentText : Option (List Char) → List Char → Prop where
  | none : ExponentText none []
  | marked {mark : Char} {negative : Bool} {sign digits : List Char}
      (isMark : mark = 'e' ∨ mark = 'E') (signed : SignText negative sign)
      (present : digits ≠ []) (all : ∀ char ∈ digits, isAsciiDigit char) :
      ExponentText (some (sign ++ digits)) (mark :: (sign ++ digits))

/-- The texts of the `_BOUNDED_PRESENTATION` expression with their groups. -/
inductive PresentationText : Presentation → List Char → Prop where
  | of {negative : Bool} {sign integer fraction mantissa exponent : List Char}
      {exponentText : Option (List Char)} (signed : SignText negative sign)
      (written : MantissaText integer fraction mantissa)
      (scaled : ExponentText exponentText exponent) :
      PresentationText ⟨negative, integer, fraction, exponentText⟩
        (sign ++ (mantissa ++ exponent))

/-- The text does not start with a digit. -/
def Stops (text : List Char) : Prop := ∀ first ∈ text.head?, isAsciiDigit first = false

/-- The text does not start with a sign. -/
def Unsigned (text : List Char) : Prop := ∀ first ∈ text.head?, first ≠ '-' ∧ first ≠ '+'

theorem Unsigned.of_digits {digits rest : List Char} (present : digits ≠ [])
    (all : ∀ char ∈ digits, isAsciiDigit char) : Unsigned (digits ++ rest) := by
  intro first head
  cases digits with
  | nil => exact absurd rfl present
  | cons digit others =>
      cases head
      have isDigit := all first List.mem_cons_self
      constructor
      · exact Shape.isAsciiDigit_ne isDigit '-' (by decide)
      · exact Shape.isAsciiDigit_ne isDigit '+' (by decide)

theorem splitSign_unsigned {text : List Char} (start : Unsigned text) :
    splitSign text = (false, text) := by
  unfold splitSign
  split
  next rest => exact absurd rfl (start '-' rfl).1
  next rest => exact absurd rfl (start '+' rfl).2
  next => rfl

theorem SignText.splitSign_eq {negative : Bool} {sign rest : List Char}
    (signed : SignText negative sign) (start : Unsigned rest) :
    splitSign (sign ++ rest) = (negative, rest) := by
  cases signed with
  | none => exact splitSign_unsigned start
  | plus => rfl
  | minus => rfl

theorem exists_signText (text : List Char) :
    ∃ sign, SignText (splitSign text).1 sign ∧ text = sign ++ (splitSign text).2 := by
  unfold splitSign
  split
  · exact ⟨['-'], .minus, rfl⟩
  · exact ⟨['+'], .plus, rfl⟩
  · exact ⟨[], .none, rfl⟩

/-- A run of digits ends where no digit follows. -/
theorem span_digits {digits rest : List Char} (all : ∀ char ∈ digits, isAsciiDigit char)
    (stops : Stops rest) : (digits ++ rest).takeWhile isAsciiDigit = digits ∧
      (digits ++ rest).dropWhile isAsciiDigit = rest := by
  induction digits with
  | nil =>
      cases rest with
      | nil => exact ⟨rfl, rfl⟩
      | cons first others => simp [stops first rfl]
  | cons digit others ih =>
      obtain ⟨taken, dropped⟩ := ih fun char member => all char (List.mem_cons_of_mem digit member)
      simp [all digit List.mem_cons_self, taken, dropped]

theorem ExponentText.stops {exponentText : Option (List Char)} {text : List Char}
    (scaled : ExponentText exponentText text) : Stops text := by
  intro first head
  cases scaled with
  | none => cases head
  | marked isMark =>
      cases head
      rcases isMark with rfl | rfl <;> decide

/-! ## The matcher -/

theorem matchExponent_eq_some {exponentText : Option (List Char)} {text : List Char} :
    matchExponent text = some exponentText ↔ ExponentText exponentText text := by
  constructor
  · intro matched
    cases text with
    | nil =>
        cases matched
        exact .none
    | cons mark rest =>
        simp only [matchExponent, Option.ite_none_right_eq_some, Option.some.injEq] at matched
        obtain ⟨⟨isMark, present, all⟩, rfl⟩ := matched
        obtain ⟨sign, signed, split⟩ := exists_signText rest
        rw [split]
        exact .marked isMark signed present (List.all_eq_true.mp all)
  · intro scaled
    cases scaled with
    | none => rfl
    | marked isMark signed present all =>
        have start := @Unsigned.of_digits _ [] present all
        rw [List.append_nil] at start
        rw [matchExponent, signed.splitSign_eq start]
        exact if_pos ⟨isMark, present, List.all_eq_true.mpr all⟩

theorem mantissa_unsigned {integer fraction mantissa rest : List Char}
    (written : MantissaText integer fraction mantissa) : Unsigned (mantissa ++ rest) := by
  cases written with
  | whole present digits => exact Unsigned.of_digits present digits
  | pointed present integerDigits =>
      by_cases empty : integer = []
      · subst empty
        intro first head
        cases head
        decide
      · rw [List.append_assoc]
        exact Unsigned.of_digits empty integerDigits

/-- The matcher finds the groups of the texts of the expression, and of no others. -/
theorem matchPresentation_eq_some {text : List Char} {parts : Presentation} :
    matchPresentation text = some parts ↔ PresentationText parts text := by
  constructor
  · intro matched
    obtain ⟨sign, signed, signEq⟩ := exists_signText text
    rw [signEq]
    rw [matchPresentation] at matched
    generalize splitSign text = halves at matched signed
    obtain ⟨negative, unsigned⟩ := halves
    dsimp only at matched signed ⊢
    have integerDigits : ∀ char ∈ unsigned.takeWhile isAsciiDigit, isAsciiDigit char :=
      fun _ member => List.mem_takeWhile_imp member
    rw [← List.takeWhile_append_dropWhile (p := isAsciiDigit) (l := unsigned)]
    generalize unsigned.takeWhile isAsciiDigit = integer at matched integerDigits ⊢
    split at matched
    next rest point =>
      have fractionDigits : ∀ char ∈ rest.takeWhile isAsciiDigit, isAsciiDigit char :=
        fun _ member => List.mem_takeWhile_imp member
      rw [point, ← List.takeWhile_append_dropWhile (p := isAsciiDigit) (l := rest)]
      generalize rest.takeWhile isAsciiDigit = fraction at matched fractionDigits ⊢
      simp only [Option.ite_none_left_eq_some, Option.map_eq_some_iff] at matched
      obtain ⟨present, exponentText, scaled, rfl⟩ := matched
      have written : MantissaText integer fraction (integer ++ '.' :: fraction) :=
        .pointed (not_and_or.mp present) integerDigits fractionDigits
      have whole := PresentationText.of signed written (matchExponent_eq_some.mp scaled)
      rwa [List.append_assoc, List.cons_append] at whole
    next =>
      simp only [Option.ite_none_left_eq_some, Option.map_eq_some_iff] at matched
      obtain ⟨present, exponentText, scaled, rfl⟩ := matched
      exact .of signed (.whole present integerDigits) (matchExponent_eq_some.mp scaled)
  · intro presented
    cases presented with
    | of signed written scaled =>
        have stops := scaled.stops
        have found := matchExponent_eq_some.mpr scaled
        rw [matchPresentation, signed.splitSign_eq (mantissa_unsigned written)]
        dsimp only
        cases written with
        | whole present digits =>
            obtain ⟨taken, dropped⟩ := span_digits digits stops
            rw [taken, dropped]
            cases scaled with
            | none => simp [present, matchExponent]
            | marked isMark =>
                split
                next same =>
                  cases same
                  rcases isMark with point | point <;> cases point
                next => rw [if_neg present, found, Option.map_some]
        | pointed present integerDigits fractionDigits =>
            have point : ∀ rest : List Char, Stops ('.' :: rest) := by
              intro rest first head
              cases head
              rfl
            obtain ⟨integerTaken, rest⟩ := span_digits integerDigits (point _)
            obtain ⟨fractionTaken, tail⟩ := span_digits fractionDigits stops
            rw [List.append_assoc, List.cons_append, integerTaken, rest]
            simp only
            rw [fractionTaken, tail, if_neg (not_and_or.mpr present), found, Option.map_some]

/-! ## What a presentation denotes -/

/-- The number that the text after an exponent mark denotes. -/
def exponentValue (text : List Char) : Int :=
  let (negative, digits) := splitSign text
  if negative then -(digitsValue digits : Int) else digitsValue digits

/-- The triple of the decimal that a presentation denotes. -/
def Presentation.tuple (parts : Presentation) : DecimalTuple where
  negative := parts.negative
  coefficient := digitsValue (parts.integerPart ++ parts.fractionalPart)
  exponent := exponentValue (parts.exponentText.getD []) - parts.fractionalPart.length

theorem PresentationText.digits {parts : Presentation} {text : List Char}
    (presented : PresentationText parts text) :
    ∀ char ∈ parts.integerPart ++ parts.fractionalPart, isAsciiDigit char := by
  intro char member
  cases presented with
  | of signed written scaled =>
      cases written with
      | whole present digits =>
          rw [List.append_nil] at member
          exact digits char member
      | pointed present integerDigits fractionDigits =>
          rcases List.mem_append.mp member with inInteger | inFraction
          · exact integerDigits char inInteger
          · exact fractionDigits char inFraction

/-- The digits without the leading zeros are those of the coefficient. -/
theorem PresentationText.significant {parts : Presentation} {text : List Char}
    (presented : PresentationText parts text) :
    (parts.integerPart ++ parts.fractionalPart).dropWhile (· = '0') =
      digitText parts.tuple.coefficient :=
  (digitText_dropZeros presented.digits).symm

/-! ## The exponent -/

/-- The loop of `_bounded_exponent` computes the number up to its saturation. -/
theorem saturatedMagnitude_min (saturation : Nat) (digits : List Char) :
    saturatedMagnitude saturation digits = min (saturation + 1) (digitsValue digits) := by
  induction digits using List.reverseRecOn with
  | nil => simp [saturatedMagnitude, digitsValue]
  | append_singleton earlier digit ih =>
      have grown : digitsValue (earlier ++ [digit]) =
          digitsValue earlier * 10 + (digit.toNat - 48) := by
        simp [digitsValue]
      rw [saturatedMagnitude] at ih
      rw [saturatedMagnitude, List.foldl_append, List.foldl_cons, List.foldl_nil, ih, grown]
      by_cases reached : digitsValue earlier ≤ saturation
      · rw [min_eq_right (by omega : digitsValue earlier ≤ saturation + 1), if_pos reached]
      · rw [min_eq_left (by omega : saturation + 1 ≤ digitsValue earlier),
          if_neg (by omega : ¬ saturation + 1 ≤ saturation)]
        omega

/-- `_bounded_exponent` returns the number that the text denotes where the limits
hold it, and raises elsewhere. -/
theorem boundedExponent_eq_ok {text : List Char} {minimum maximum value : Int}
    (present : text ≠ []) :
    boundedExponent text minimum maximum = .ok value ↔
      value = exponentValue text ∧ minimum ≤ value ∧ value ≤ maximum := by
  rw [boundedExponent, if_neg present, exponentValue]
  obtain ⟨negative, digits⟩ := splitSign text
  simp only [saturatedMagnitude_min, guard_eq_ok, Except.ok.injEq]
  cases negative with
  | true => simp only [if_true]; omega
  | false => simp only [Bool.false_eq_true, if_false]; omega

/-- The same with the text of an absent exponent, whose limits are not checked. -/
theorem boundedExponent_read {text : List Char} {minimum maximum value : Int} :
    boundedExponent text minimum maximum = .ok value ↔
      value = exponentValue text ∧ (text = [] ∨ minimum ≤ value ∧ value ≤ maximum) := by
  by_cases absent : text = []
  · subst absent
    simp [boundedExponent, exponentValue, splitSign, digitsValue, eq_comm]
  · rw [boundedExponent_eq_ok absent, or_iff_right absent]

/-! ## The preflight -/

/-- The envelope of a decimal that is not zero, in terms of its triple. -/
theorem validateDecimalEnvelope_eq_ok {value tuple : DecimalTuple}
    (nonzero : value.coefficient ≠ 0) :
    validateDecimalEnvelope value = .ok tuple ↔
      (digitText value.coefficient).length ≤ maxSignificantDigits ∧
      -(maxScale : Int) ≤ value.exponent ∧
      ((digitText value.coefficient).length : Int) + value.exponent ≤ maxIntegerDigits ∧
      value = tuple := by
  rw [validateDecimalEnvelope, if_neg nonzero, guard_eq_ok, guard_eq_ok, guard_eq_ok,
    DecimalTuple.digitCount, if_neg nonzero, ← digitText_length, not_lt, not_lt, not_lt,
    Except.ok.injEq, max_le_iff]
  have limit : (0 : Int) ≤ maxIntegerDigits := Int.natCast_nonneg _
  simp only [limit, and_true]

/-- A short text that denotes a decimal other than zero passes the preflight where
that decimal passes the envelope. -/
theorem preflight_eq_ok {value : String} {parts : Presentation} {tuple : DecimalTuple}
    (short : value.length ≤ maxDecimalTextLength)
    (presented : PresentationText parts value.toList) (nonzero : parts.tuple.coefficient ≠ 0) :
    preflightBoundedPresentation value true = .ok tuple ↔
      validateDecimalEnvelope parts.tuple = .ok tuple := by
  have written : digitsValue (digitText parts.tuple.coefficient) = parts.tuple.coefficient :=
    digitsValue_digitText _
  unfold preflightBoundedPresentation
  rw [if_neg (not_lt.mpr short), matchPresentation_eq_some.mpr presented,
    validateDecimalEnvelope_eq_ok nonzero]
  simp only [Bool.not_true, Bool.and_false, Bool.false_eq_true, if_false, presented.significant,
    if_neg (digitText_ne_nil nonzero), written, throw_unless_eq_ok, not_lt,
    bind_eq_ok, pure_eq_ok, boundedExponent_read]
  have exponent : parts.tuple.exponent =
      exponentValue (parts.exponentText.getD []) - parts.fractionalPart.length := rfl
  have scaleLimit : (0 : Int) ≤ maxScale := Int.natCast_nonneg _
  have integerLimit : (0 : Int) ≤ maxIntegerDigits := Int.natCast_nonneg _
  constructor
  · rintro ⟨significant, power, ⟨read, _⟩, inside, result⟩
    subst read
    exact ⟨significant, by omega, by omega, result⟩
  · rintro ⟨significant, scale, integers, result⟩
    refine ⟨significant, _, ⟨rfl, ?_⟩, ?_, result⟩
    · omega
    · omega

/-- A zero of any scale passes the preflight as the canonical zero. -/
theorem preflight_zero {value : String} {parts : Presentation} {allowExponent : Bool}
    {tuple : DecimalTuple} (presented : PresentationText parts value.toList)
    (zero : parts.tuple.coefficient = 0)
    (success : preflightBoundedPresentation value allowExponent = .ok tuple) :
    tuple = ⟨false, 0, 0⟩ := by
  unfold preflightBoundedPresentation at success
  rw [guard_eq_ok, matchPresentation_eq_some.mpr presented] at success
  have empty : digitText parts.tuple.coefficient = [] := by
    rw [zero]
    rfl
  simp only [throw_unless_eq_ok, presented.significant, empty, if_true, pure_eq_ok] at success
  exact success.2.2.symm

/-- A text that passes without an exponent passes where one is permitted. -/
theorem preflight_of_plain {value : String} {allowExponent : Bool} {tuple : DecimalTuple}
    (success : preflightBoundedPresentation value allowExponent = .ok tuple) :
    preflightBoundedPresentation value true = .ok tuple := by
  unfold preflightBoundedPresentation at success ⊢
  rw [guard_eq_ok] at success
  obtain ⟨short, success⟩ := success
  rw [if_neg short]
  cases found : matchPresentation value.toList with
  | none =>
      rw [found] at success
      cases success
  | some parts =>
      rw [found] at success
      simp only [throw_unless_eq_ok] at success
      simp only [Bool.not_true, Bool.and_false, Bool.false_eq_true, if_false]
      exact success.2

/-- The decimal of a text that passes the preflight passes the envelope. -/
theorem exists_admitTuple_of_preflight {value : String} {allowExponent : Bool}
    {tuple : DecimalTuple}
    (success : preflightBoundedPresentation value allowExponent = .ok tuple) :
    ∃ amount, admitTuple tuple = .ok amount := by
  have read := success
  unfold preflightBoundedPresentation at read
  rw [guard_eq_ok] at read
  obtain ⟨short, read⟩ := read
  cases found : matchPresentation value.toList with
  | none =>
      rw [found] at read
      cases read
  | some parts =>
      have presented := matchPresentation_eq_some.mp found
      by_cases zero : parts.tuple.coefficient = 0
      · rw [preflight_zero presented zero success]
        exact ⟨_, rfl⟩
      · have admitted := (preflight_eq_ok (not_lt.mp short) presented zero).mp
          (preflight_of_plain success)
        have same := validateDecimalEnvelope_eq admitted zero
        subst same
        exact ⟨_, admitTuple_of_valid admitted⟩

/-- The preflight agrees with the envelope.  A text of the grammar that is short
enough and denotes a decimal other than zero passes exactly where that decimal
does, and passes as that decimal; an exponent text of any length is read as the
number it denotes or raises where the limits exclude that number; and a text that
passes the preflight is admitted. -/
theorem preflight_agrees :
    (∀ value parts tuple, value.length ≤ maxDecimalTextLength →
      PresentationText parts value.toList → parts.tuple.coefficient ≠ 0 →
      (preflightBoundedPresentation value true = .ok tuple ↔
        validateDecimalEnvelope parts.tuple = .ok tuple)) ∧
    (∀ (text : List Char) (minimum maximum value : Int), text ≠ [] →
      (boundedExponent text minimum maximum = .ok value ↔
        value = exponentValue text ∧ minimum ≤ value ∧ value ≤ maximum)) ∧
    ∀ value allowExponent error,
      parseBoundedExactDecimal (.text value) allowExponent = .error error ↔
        preflightBoundedPresentation value allowExponent = .error error := by
  constructor
  · intro value parts tuple short presented nonzero
    exact preflight_eq_ok short presented nonzero
  constructor
  · intro text minimum maximum value present
    exact boundedExponent_eq_ok present
  · intro value allowExponent error
    rw [parseBoundedExactDecimal]
    cases read : preflightBoundedPresentation value allowExponent with
    | error raised => rw [error_bind, Except.error.injEq, Except.error.injEq]
    | ok tuple =>
        obtain ⟨amount, admitted⟩ := exists_admitTuple_of_preflight read
        rw [ok_bind, admitted]
        simp

/-- An exponent of many digits is read without its magnitude. -/
example : boundedExponent ('-' :: List.replicate 200 '0' ++ ['7']) (-256) 256 = .ok (-7) := by
  decide +kernel

example : (boundedExponent (List.replicate 200 '9') (-256) 256).toOption = none := by
  decide +kernel

end AutoTrade.Numeric
