import AutoTrade.Numeric.Amount
import AutoTrade.Order.Projection

/-!
# Decimal renderers

Five functions of the repository write a decimal as text.  Four trim the fixed rendering;
the correlation guard builds the text from the sign, the digits and the exponent.
-/

namespace AutoTrade.Order

open Lib Numeric

/-! ## The renderers -/

/-- The fixed rendering without trailing zeros, with one text for every zero. -/
def trimmedText (value : DecimalTuple) : String :=
  if value.coefficient = 0 then "0" else String.ofList (fixedText value)

/-- `_decimal` of `durable_order_projection.py`, with the presentation of its result. -/
def presentedDecimal (value : PresentedInput) (name : String) : Except OrderError Presented :=
  match value with
  | .inexact =>
      .error (.typeError s!"{name} must use exact Decimal, string or integer input")
  | value =>
      (presentBoundedExactDecimal value true).mapError fun _ =>
        .valueError s!"{name} must be a bounded finite decimal"

/-- `_decimal_text` of `durable_order_projection.py`. -/
def orderDecimalText (value : PresentedInput) (name : String) : Except OrderError String := do
  let number ← presentedDecimal value name
  return trimmedText number.tuple

/-- `_decimal_text` of `durable_settlement.py`. -/
def settlementDecimalText (value : DecimalTuple) : String := trimmedText value

/-- `_decimal_text` of `execution_realism.py`. -/
def realismDecimalText (value : DecimalTuple) : String := trimmedText value

/-- The digits of `as_tuple`, which are never empty. -/
def tupleDigits (value : DecimalTuple) : List Char :=
  if value.coefficient = 0 then ['0'] else digitText value.coefficient

/-- The text of the digits with the point at its place. -/
def placedDigits (value : DecimalTuple) : List Char :=
  let coefficient := tupleDigits value
  if 0 ≤ value.exponent then coefficient ++ List.replicate value.exponent.toNat '0'
  else
    let split := coefficient.length + value.exponent
    if 0 < split then coefficient.take split.toNat ++ '.' :: coefficient.drop split.toNat
    else '0' :: '.' :: (List.replicate (-split).toNat '0' ++ coefficient)

/-- Trailing zeros and points removed, where there is a point. -/
def stripPlaced (text : List Char) : List Char :=
  if '.' ∈ text then (text.rdropWhile (· = '0')).rdropWhile (· = '.') else text

/-- `_dec_text` of `portfolio_correlation.py`. -/
def decText (value : DecimalTuple) : String :=
  let text := stripPlaced (placedDigits value)
  if text.all fun char => char = '0' || char = '.' then "0"
  else String.ofList ((if value.negative then ['-'] else []) ++ text)

inductive Renderer where
  | canonical
  | order (name : String)
  | settlement
  | realism
  | correlation

/-- The text of a decimal, where the renderer returns one. -/
def Renderer.render (renderer : Renderer) (value : DecimalTuple) : Option String :=
  match renderer with
  | .canonical => (canonicalDecimalText value).toOption
  | .order name => (orderDecimalText (.decimal value) name).toOption
  | .settlement => some (settlementDecimalText value)
  | .realism => some (realismDecimalText value)
  | .correlation => some (decText value)

/-! ## Stripping -/

/-- A character that stops the strip is kept. -/
theorem mem_rdropWhile {strip : Char → Bool} {text : List Char} {char : Char}
    (member : char ∈ text) (stops : strip char = false) : char ∈ text.rdropWhile strip := by
  rw [← List.rdropWhile_append_rtakeWhile (p := strip) (l := text), List.mem_append] at member
  rcases member with kept | dropped
  · exact kept
  · rw [List.mem_rtakeWhile_imp dropped] at stops
    cases stops

/-- A strip that stops inside the text leaves what stands before it. -/
theorem rdropWhile_append {strip : Char → Bool} (before : List Char) {text : List Char}
    {char : Char} (member : char ∈ text) (stops : strip char = false) :
    (before ++ text).rdropWhile strip = before ++ text.rdropWhile strip := by
  have nonempty : (text.reverse.dropWhile strip).isEmpty = false := by
    rw [List.isEmpty_eq_false_iff, Ne, List.dropWhile_eq_nil_iff]
    intro all
    rw [all char (List.mem_reverse.mpr member)] at stops
    cases stops
  rw [List.rdropWhile, List.rdropWhile, List.reverse_append, List.dropWhile_append, nonempty]
  simp

theorem mem_stripPlaced {text : List Char} {char : Char} (member : char ∈ text)
    (digit : char ≠ '0') (point : char ≠ '.') : char ∈ stripPlaced text := by
  rw [stripPlaced]
  split
  · exact mem_rdropWhile (mem_rdropWhile member (decide_eq_false digit)) (decide_eq_false point)
  · exact member

/-! ## The digit-level renderer -/

/-- A digit of a decimal that is not zero is neither zero nor the point. -/
theorem exists_digit {value : DecimalTuple} (nonzero : value.coefficient ≠ 0) :
    ∃ char ∈ digitText value.coefficient, char ≠ '0' ∧ char ≠ '.' := by
  have starts := digitText_startsNonzero nonzero
  simp only [startsNonzero, Bool.and_eq_true, decide_eq_true_eq] at starts
  obtain ⟨first, rest, split⟩ := List.exists_cons_of_ne_nil starts.1
  have member : first ∈ digitText value.coefficient := by
    rw [split]
    exact List.mem_cons_self
  refine ⟨first, member, ?_, ?_⟩
  · rintro rfl
    exact starts.2 (by rw [split]; rfl)
  · exact Shape.isAsciiDigit_ne (digitText_digits _ first member) '.' (by decide)

/-- The fixed rendering is the sign before the placed digits. -/
theorem formatFixed_eq {value : DecimalTuple} (nonzero : value.coefficient ≠ 0) :
    formatFixed value = (if value.negative then ['-'] else []) ++ placedDigits value := by
  have digits : tupleDigits value = digitText value.coefficient := if_neg nonzero
  rw [formatFixed, placedDigits, digits]
  by_cases whole : 0 ≤ value.exponent
  · rw [if_pos whole, if_pos whole, List.append_assoc]
  · simp only [if_neg whole]
    by_cases inside : (-value.exponent).toNat < (digitText value.coefficient).length
    · have split : 0 < ((digitText value.coefficient).length : ℤ) + value.exponent := by omega
      have place : (((digitText value.coefficient).length : ℤ) + value.exponent).toNat =
          (digitText value.coefficient).length - (-value.exponent).toNat := by omega
      rw [if_pos inside, if_pos split, place, List.append_assoc]
    · have split : ¬ 0 < ((digitText value.coefficient).length : ℤ) + value.exponent := by omega
      have padding : (-(((digitText value.coefficient).length : ℤ) + value.exponent)).toNat =
          (-value.exponent).toNat - (digitText value.coefficient).length := by omega
      rw [if_neg inside, if_neg split, padding, List.append_assoc]
      rfl

/-- Every digit is placed. -/
theorem mem_placedDigits {value : DecimalTuple} {char : Char} (member : char ∈ tupleDigits value) :
    char ∈ placedDigits value := by
  simp only [placedDigits]
  split
  · exact List.mem_append_left _ member
  split
  next split =>
    rw [← List.take_append_drop (((tupleDigits value).length : ℤ) + value.exponent).toNat
      (tupleDigits value), List.mem_append] at member
    rcases member with early | late
    · exact List.mem_append_left _ early
    · exact List.mem_append_right _ (List.mem_cons_of_mem _ late)
  · exact List.mem_cons_of_mem _ (List.mem_cons_of_mem _ (List.mem_append_right _ member))

/-- Only zeros and the point are placed besides the digits. -/
theorem of_mem_placedDigits {value : DecimalTuple} {char : Char}
    (member : char ∈ placedDigits value) :
    char ∈ tupleDigits value ∨ char = '0' ∨ char = '.' := by
  simp only [placedDigits] at member
  split at member
  · rcases List.mem_append.mp member with digit | zero
    · exact .inl digit
    · exact .inr (.inl (List.eq_of_mem_replicate zero))
  split at member
  · rcases List.mem_append.mp member with early | late
    · exact .inl (List.mem_of_mem_take early)
    · rcases List.mem_cons.mp late with point | later
      · exact .inr (.inr point)
      · exact .inl (List.mem_of_mem_drop later)
  · rw [List.mem_cons, List.mem_cons, List.mem_append] at member
    rcases member with zero | point | padding | digit
    · exact .inr (.inl zero)
    · exact .inr (.inr point)
    · exact .inr (.inl (List.eq_of_mem_replicate padding))
    · exact .inl digit

theorem of_mem_stripPlaced {text : List Char} {char : Char} (member : char ∈ stripPlaced text) :
    char ∈ text := by
  rw [stripPlaced] at member
  split at member
  · exact ( List.rdropWhile_prefix _ _).subset (( List.rdropWhile_prefix _ _).subset member)
  · exact member

/-- The digit-level text is the trimmed one. -/
theorem decText_eq (value : DecimalTuple) : decText value = trimmedText value := by
  rw [decText, trimmedText]
  by_cases zero : value.coefficient = 0
  · have all : (stripPlaced (placedDigits value)).all (fun char => char = '0' || char = '.') := by
      rw [List.all_eq_true]
      intro char member
      have placed := of_mem_placedDigits (of_mem_stripPlaced member)
      rw [tupleDigits, if_pos zero, List.mem_singleton, or_self_left] at placed
      simpa using placed
    rw [if_pos all, if_pos zero]
  · obtain ⟨char, member, digit, point⟩ := exists_digit zero
    have digits : tupleDigits value = digitText value.coefficient := if_neg zero
    rw [← digits] at member
    have placed := mem_placedDigits member
    have kept := mem_stripPlaced placed digit point
    have some : ¬ (stripPlaced (placedDigits value)).all (fun char => char = '0' || char = '.') := by
      intro all
      have only := List.all_eq_true.mp all char kept
      simp [digit, point] at only
    rw [if_neg some, if_neg zero, fixedText, formatFixed_eq zero, stripPlaced]
    have sign : '.' ∉ if value.negative then ['-'] else [] := by
      split <;> simp
    by_cases pointed : '.' ∈ placedDigits value
    · have both : '.' ∈ (if value.negative then ['-'] else []) ++ placedDigits value :=
        List.mem_append_right _ pointed
      have zeros := @mem_rdropWhile (· = '0') _ _ placed (decide_eq_false digit)
      rw [if_pos pointed, if_pos both, rdropWhile_append _ placed (decide_eq_false digit),
        rdropWhile_append _ zeros (decide_eq_false point)]
    · have neither : '.' ∉ (if value.negative then ['-'] else []) ++ placedDigits value := by
        rw [List.mem_append, not_or]
        exact ⟨sign, pointed⟩
      rw [if_neg pointed, if_neg neither]

/-! ## Agreement -/

/-- `canonical_decimal_text` returns the trimmed text of an admitted decimal. -/
theorem canonicalDecimalText_eq_trimmed {value tuple : DecimalTuple}
    (inside : validateDecimalEnvelope value = .ok tuple) :
    canonicalDecimalText value = .ok (trimmedText value) := by
  by_cases zero : value.coefficient = 0
  · simp only [canonicalDecimalText, inside, ok_bind, if_pos zero, trimmedText]
    rfl
  · rw [canonicalDecimalText_eq inside zero, trimmedText, if_neg zero]

theorem orderDecimalText_eq_trimmed {value tuple : DecimalTuple} (name : String)
    (inside : validateDecimalEnvelope value = .ok tuple) :
    orderDecimalText (.decimal value) name = .ok (trimmedText value) := by
  simp only [orderDecimalText, presentedDecimal, presentBoundedExactDecimal, presentTuple]
  split
  next invalid =>
    rw [inside] at invalid
    cases invalid
  next valid =>
    split
    next zero =>
      rw [trimmedText, if_pos zero]
      rfl
    · rfl

theorem render_eq (renderer : Renderer) {value tuple : DecimalTuple}
    (inside : validateDecimalEnvelope value = .ok tuple) :
    renderer.render value = some (trimmedText value) := by
  cases renderer with
  | canonical => rw [Renderer.render, canonicalDecimalText_eq_trimmed inside]; rfl
  | order name => rw [Renderer.render, orderDecimalText_eq_trimmed name inside]; rfl
  | settlement => rfl
  | realism => rfl
  | correlation => rw [Renderer.render, decText_eq]

/-- The trimmed texts of admitted decimals identify their values. -/
theorem trimmedText_eq_iff {left right leftTuple rightTuple : DecimalTuple}
    (leftInside : validateDecimalEnvelope left = .ok leftTuple)
    (rightInside : validateDecimalEnvelope right = .ok rightTuple) :
    trimmedText left = trimmedText right ↔ left.toRat = right.toRat := by
  have leftWritten := canonicalDecimalText_eq_trimmed leftInside
  have rightWritten := canonicalDecimalText_eq_trimmed rightInside
  constructor
  · intro same
    obtain ⟨text, written, read⟩ := parse_canonicalDecimalText leftInside
    obtain ⟨other, otherWritten, otherRead⟩ := parse_canonicalDecimalText rightInside
    rw [leftWritten, Except.ok.injEq] at written
    rw [rightWritten, Except.ok.injEq] at otherWritten
    obtain ⟨amount, parsed, amountEq⟩ := read true
    obtain ⟨otherAmount, otherParsed, otherAmountEq⟩ := otherRead true
    rw [← written, same, otherWritten, otherParsed, Except.ok.injEq] at parsed
    rw [← amountEq, ← otherAmountEq, parsed]
  · intro same
    have equal := canonicalDecimalText_eq_of_toRat_eq leftInside rightInside same
    rw [leftWritten, rightWritten] at equal
    exact Except.ok.inj equal

/-- All decimal renderers agree.  They write one text for every decimal inside the shared
envelope, and two texts, whichever renderers wrote them, are equal exactly for equal
values; so are their digests where the digest does not collide. -/
theorem renderers_agree :
    (∀ value tuple, validateDecimalEnvelope value = .ok tuple →
      ∃ text, ∀ renderer : Renderer, renderer.render value = some text) ∧
    ∀ left right leftTuple rightTuple, validateDecimalEnvelope left = .ok leftTuple →
      validateDecimalEnvelope right = .ok rightTuple → ∀ first second : Renderer,
        (first.render left = second.render right ↔ left.toRat = right.toRat) ∧
          ∀ digest : String → String, Function.Injective digest →
            ((first.render left).map digest = (second.render right).map digest ↔
              left.toRat = right.toRat) := by
  constructor
  · intro value tuple inside
    exact ⟨trimmedText value, fun renderer => render_eq renderer inside⟩
  · intro left right leftTuple rightTuple leftInside rightInside first second
    have texts := trimmedText_eq_iff leftInside rightInside
    rw [render_eq first leftInside, render_eq second rightInside]
    constructor
    · rw [Option.some.injEq, texts]
    · intro digest injective
      rw [Option.map_some, Option.map_some, Option.some.injEq, injective.eq_iff, texts]

/-- Minus zero with an exponent, and a fraction of zeros. -/
theorem negative_zero_renderers_agree :
    ∃ text, ∀ renderer : Renderer, renderer.render ⟨true, 0, 7⟩ = some text :=
  renderers_agree.1 ⟨true, 0, 7⟩ ⟨true, 0, 0⟩ rfl

example : decText ⟨true, 1200, -5⟩ = "-0.012" := by decide +kernel

end AutoTrade.Order
