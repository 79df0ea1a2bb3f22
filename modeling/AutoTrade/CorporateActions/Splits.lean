import AutoTrade.Accounting.SplitAdjustment
import AutoTrade.CorporateActions.Book
import AutoTrade.Numeric.Exactness

/-!
# Splits

`_split` rounds the ratio to the default context before it multiplies.  The quantities
after a split are the exact ones where the context holds them and the error of the
ratio, times the quantity before, stays inside their cells.
-/

namespace AutoTrade.CorporateActions

open Lib Numeric Instruments

/-! ## Terms -/

/-- A character that `Decimal(text)` neither strips nor skips. -/
def Kept (char : Char) : Prop := 33 ≤ char.toNat ∧ char.toNat ≤ 126 ∧ char ≠ '_'

theorem kept_of_digit {char : Char} (digit : isAsciiDigit char) : Kept char := by
  have apart := Shape.isAsciiDigit_ne digit '_' (by decide)
  simp only [isAsciiDigit, Bool.and_eq_true, decide_eq_true_eq] at digit
  exact ⟨by omega, by omega, apart⟩

theorem kept_of_sign {negative : Bool} {sign : List Char} (signed : SignText negative sign) :
    ∀ char ∈ sign, Kept char := by
  intro char member
  cases signed with
  | none => exact absurd member List.not_mem_nil
  | plus =>
      rw [List.mem_singleton.mp member]
      exact ⟨by decide, by decide, by decide⟩
  | minus =>
      rw [List.mem_singleton.mp member]
      exact ⟨by decide, by decide, by decide⟩

theorem kept_of_mantissa {integer fraction mantissa : List Char}
    (written : MantissaText integer fraction mantissa) : ∀ char ∈ mantissa, Kept char := by
  intro char member
  cases written with
  | whole present digits => exact kept_of_digit (digits char member)
  | pointed present integerDigits fractionDigits =>
      rcases List.mem_append.mp member with before | after
      · exact kept_of_digit (integerDigits char before)
      · rcases List.mem_cons.mp after with rfl | after
        · exact ⟨by decide, by decide, by decide⟩
        · exact kept_of_digit (fractionDigits char after)

theorem kept_of_exponent {exponentText : Option (List Char)} {exponent : List Char}
    (scaled : ExponentText exponentText exponent) : ∀ char ∈ exponent, Kept char := by
  intro char member
  cases scaled with
  | none => exact absurd member List.not_mem_nil
  | marked isMark signed present all =>
      rcases List.mem_cons.mp member with rfl | member
      · rcases isMark with rfl | rfl
        · exact ⟨by decide, by decide, by decide⟩
        · exact ⟨by decide, by decide, by decide⟩
      · rcases List.mem_append.mp member with before | after
        · exact kept_of_sign signed char before
        · exact kept_of_digit (all char after)

theorem kept_of_presentation {parts : Presentation} {text : List Char}
    (presented : PresentationText parts text) : ∀ char ∈ text, Kept char := by
  intro char member
  cases presented with
  | of signed written scaled =>
      rcases List.mem_append.mp member with before | member
      · exact kept_of_sign signed char before
      · rcases List.mem_append.mp member with before | after
        · exact kept_of_mantissa written char before
        · exact kept_of_exponent scaled char after

theorem presentation_ne_nil {parts : Presentation} {text : List Char}
    (presented : PresentationText parts text) : text ≠ [] := by
  intro empty
  rw [empty] at presented
  exact absurd (matchPresentation_eq_some.mpr presented) (by simp [matchPresentation, splitSign])

/-- `Decimal(text)` reads a text of the bounded grammar as the number it denotes. -/
theorem decimalOfText_of_presentation [DigitMap] {parts : Presentation} {value : String}
    (presented : PresentationText parts value.toList) :
    decimalOfText value = some (ofTuple parts.tuple) := by
  have kept := kept_of_presentation presented
  have normal : Normal value := by
    apply normal_of_forall
    · intro empty
      exact presentation_ne_nil presented (String.toList_eq_nil_iff.mpr empty)
    · intro char member
      exact isSpace_eq_false (kept char member).1 (kept char member).2.1
  have visible : value.toList.filter (fun char => decide (char ≠ '_')) = value.toList := by
    apply List.filter_eq_self.mpr
    intro char member
    exact decide_eq_true (kept char member).2.2
  have ascii : value.toList.map DigitMap.ascii = value.toList := by
    rw [List.map_congr_left (g := id), List.map_id]
    intro char member
    exact DigitMap.ascii_eq char (by have := (kept char member).2.1; omega)
  rw [decimalOfText, normal.1]
  simp only [visible, ascii, matchPresentation_eq_some.mpr presented, Option.map_some]

/-- A term that the accounting module reads is the same number here. -/
theorem decimalOfText_of_decimal [DigitMap] {value field : String} {amount : Decimal}
    (read : Accounting.decimal (.text value) field = .ok amount) :
    ∃ number, decimalOfText value = some number ∧ number.toRat = amount.toRat := by
  rw [Accounting.decimal, mapError_eq_ok, parseBoundedExactDecimal, bind_eq_ok] at read
  · obtain ⟨tuple, passed, admitted⟩ := read
    have short : value.length ≤ maxDecimalTextLength := by
      unfold preflightBoundedPresentation at passed
      rw [guard_eq_ok] at passed
      exact not_lt.mp passed.1
    cases found : matchPresentation value.toList with
    | none =>
        unfold preflightBoundedPresentation at passed
        rw [guard_eq_ok, found] at passed
        cases passed.2
    | some parts =>
        have presented := matchPresentation_eq_some.mp found
        refine ⟨_, decimalOfText_of_presentation presented, ?_⟩
        change parts.tuple.toRat = amount.toRat
        rw [admitTuple_toRat admitted]
        by_cases zero : parts.tuple.coefficient = 0
        · rw [preflight_zero presented zero passed, DecimalTuple.toRat_eq_zero.mpr zero]
          exact (DecimalTuple.toRat_eq_zero.mpr rfl).symm
        · rw [validateDecimalEnvelope_eq ((preflight_eq_ok short presented zero).mp passed) zero]
  · exact fun other => by cases other

/-! ## Amounts that survive -/

/-- What the rounding to the default context adds to a ratio. -/
def ratioError (numerator denominator : ℚ) : ℚ :=
  defaultContext.rounded (numerator / denominator) - numerator / denominator

/-- The default context holds the exact split of the amount, and the amount times the
error of the ratio stays inside the cell of that split. -/
def Survives (numerator denominator amount : ℚ) : Prop :=
  amount = 0 ∨
    (defaultContext.Holds (amount * numerator / denominator) ∧
      defaultContext.Cell (amount * numerator / denominator)
        (amount * numerator / denominator + amount * ratioError numerator denominator))

theorem survives_iff {numerator denominator amount : ℚ} (above : 0 < numerator)
    (below : 0 < denominator) :
    defaultContext.rounded (amount * defaultContext.rounded (numerator / denominator)) =
      amount * numerator / denominator ↔ Survives numerator denominator amount := by
  have shifted : amount * defaultContext.rounded (numerator / denominator) =
      amount * numerator / denominator + amount * ratioError numerator denominator := by
    rw [ratioError]
    ring
  by_cases zero : amount = 0
  · simp [Survives, zero]
  · have nonzero : amount * numerator / denominator ≠ 0 :=
      div_ne_zero (mul_ne_zero zero above.ne') below.ne'
    rw [shifted, DecimalContext.rounded_eq_iff _ nonzero, Survives, or_iff_right zero]

theorem exact_iff {numerator denominator amount : ℚ} (above : 0 < numerator)
    (below : 0 < denominator) :
    defaultContext.rounded (amount * defaultContext.rounded (numerator / denominator)) *
      denominator = amount * numerator ↔ Survives numerator denominator amount := by
  rw [← survives_iff above below, eq_div_iff below.ne']

/-! ## What a split computes -/

theorem CorporateEvent.amount_eq {left right : CorporateEvent} (same : left.same right = true)
    (key : String) : left.amount key = right.amount key := by
  simp only [CorporateEvent.same, Bool.and_eq_true] at same
  rw [CorporateEvent.amount, CorporateEvent.amount, Dict.get?_eq_of_same same.1.1.2]

theorem CorporateEvent.kind_eq {left right : CorporateEvent} (same : left.same right = true) :
    left.kind = right.kind := by
  simp only [CorporateEvent.same, Bool.and_eq_true, decide_eq_true_eq] at same
  exact same.1.1.1.1.1.2

theorem finish_eq_ok {value : ℚ} {result : FiniteDecimal} (success : finish value = .ok result) :
    result.toRat = defaultContext.rounded value := by
  unfold finish at success
  split at success
  · cases success
  next found =>
    cases success
    rw [DecimalContext.finish] at found
    split at found
    · cases found
    · rw [← Option.some.inj found]

theorem nonnegative_eq_ok [DigitMap] {value : FiniteDecimal} {name : String}
    {result : NonnegativeDecimal} (success : nonnegative (.decimal value) name = .ok result) :
    result.1 = value := by
  simp only [nonnegative, decimal, ok_bind] at success
  split at success
  · cases success
    rfl
  · cases success

theorem text_eq_ok {value name : String} {result : { value : String // Normal value }}
    (success : text value name = .ok result) : result.1 = strip value := by
  rw [text] at success
  split at success
  · cases success
  · cases success
    rfl

/-- The terms of an event. -/
def Terms [DigitMap] (event : CorporateEvent) (numerator denominator : ℚ) : Prop :=
  0 < numerator ∧ 0 < denominator ∧
    (∃ number, decimal (event.amount "numerator") "numerator" = .ok number ∧
      number.toRat = numerator) ∧
    ∃ number, decimal (event.amount "denominator") "denominator" = .ok number ∧
      number.toRat = denominator

theorem positive_eq_ok [DigitMap] {value : AmountInput} {name : String} {result : PositiveDecimal} :
    positive value name = .ok result ↔ decimal value name = .ok result.1 := by
  constructor
  · intro success
    rw [positive, bind_eq_ok] at success
    obtain ⟨number, read, success⟩ := success
    split at success
    · cases success
      exact read
    · cases success
  · intro read
    simp only [positive, read, ok_bind, dif_pos result.2]
    rfl

theorem Terms.unique [DigitMap] {event : CorporateEvent} {first second third fourth : ℚ}
    (left : Terms event first second) (right : Terms event third fourth) :
    first = third ∧ second = fourth := by
  obtain ⟨-, -, ⟨_, leftNumerator, rfl⟩, ⟨_, leftDenominator, rfl⟩⟩ := left
  obtain ⟨-, -, ⟨_, rightNumerator, rfl⟩, ⟨_, rightDenominator, rfl⟩⟩ := right
  rw [leftNumerator, Except.ok.injEq] at rightNumerator
  rw [leftDenominator, Except.ok.injEq] at rightDenominator
  rw [rightNumerator, rightDenominator]
  exact ⟨rfl, rfl⟩

/-- The terms of a split and the quantities that it computes; the rest of the state
is kept. -/
structure SplitOf [CaseMap] [DigitMap] (event : CorporateEvent) (transition : Transition)
    (numerator denominator : PositiveDecimal) : Prop where
  numeratorRead : positive (event.amount "numerator") "numerator" = .ok numerator
  denominatorRead : positive (event.amount "denominator") "denominator" = .ok denominator
  quantity : transition.after.quantity.toRat = defaultContext.rounded
    (transition.before.quantity.toRat *
      defaultContext.rounded (numerator.1.toRat / denominator.1.toRat))
  borrowed : transition.after.borrowedQuantity.1.toRat = defaultContext.rounded
    (transition.before.borrowedQuantity.1.toRat *
      defaultContext.rounded (numerator.1.toRat / denominator.1.toRat))
  recalled : transition.after.recalledQuantity.1.toRat = defaultContext.rounded
    (transition.before.recalledQuantity.1.toRat *
      defaultContext.rounded (numerator.1.toRat / denominator.1.toRat))
  symbol : transition.after.symbol = transition.before.symbol
  totalBasis : transition.after.totalBasis = transition.before.totalBasis
  settledCash : transition.after.settledCash = transition.before.settledCash
  unsettledCash : transition.after.unsettledCash = transition.before.unsettledCash
  currency : transition.after.currency = transition.before.currency
  accruedFinancing : transition.after.accruedFinancing = transition.before.accruedFinancing

section

variable [CaseMap] [DigitMap] {γ β : Type}

namespace EquityState

/-- What the constructor reads of its arguments. -/
theorem make_eq_ok {fields : EquityFields} {state : EquityState}
    (success : make fields = .ok state) :
    decimal fields.quantity "quantity" = .ok state.quantity ∧
      nonnegative fields.borrowedQuantity "borrowed_quantity" = .ok state.borrowedQuantity ∧
      nonnegative fields.recalledQuantity "recalled_quantity" = .ok state.recalledQuantity ∧
      state.symbol = strip fields.symbol ∧
      nonnegative fields.totalBasis "total_basis" = .ok state.totalBasis ∧
      decimal fields.settledCash "settled_cash" = .ok state.settledCash ∧
      decimal fields.unsettledCash "unsettled_cash" = .ok state.unsettledCash ∧
      state.currency = upper (strip fields.currency) ∧
      nonnegative fields.accruedFinancing "accrued_financing" = .ok state.accruedFinancing := by
  simp only [make, bind_eq_ok] at success
  obtain ⟨quantity, quantityRead, borrowed, borrowedRead, recalled, recalledRead, success⟩ :=
    success
  split at success
  next bounded =>
    split at success
    next => cases success
    next matched =>
      simp only [bind_eq_ok, pure_eq_ok] at success
      obtain ⟨symbol, symbolRead, basis, basisRead, settled, settledRead, unsettled,
        unsettledRead, currency, currencyRead, accrued, accruedRead, rfl⟩ := success
      exact ⟨quantityRead, borrowedRead, recalledRead, text_eq_ok symbolRead, basisRead,
        settledRead, unsettledRead, congrArg upper (text_eq_ok currencyRead), accruedRead⟩
  next => cases success

/-- A state whose quantities are replaced keeps its other fields. -/
theorem make_quantities {state next : EquityState} {quantity borrowed recalled : FiniteDecimal}
    (success : make { state.fields with
      quantity := .decimal quantity
      borrowedQuantity := .decimal borrowed
      recalledQuantity := .decimal recalled } = .ok next) :
    (next.quantity = quantity ∧ next.borrowedQuantity.1 = borrowed ∧
      next.recalledQuantity.1 = recalled) ∧ next.symbol = state.symbol ∧
      next.totalBasis = state.totalBasis ∧ next.settledCash = state.settledCash ∧
      next.unsettledCash = state.unsettledCash ∧ next.currency = state.currency ∧
      next.accruedFinancing = state.accruedFinancing := by
  obtain ⟨quantityRead, borrowedRead, recalledRead, symbolRead, basisRead, settledRead,
    unsettledRead, currencyRead, accruedRead⟩ := make_eq_ok success
  refine ⟨⟨?_, nonnegative_eq_ok borrowedRead, nonnegative_eq_ok recalledRead⟩, ?_,
    Subtype.ext (nonnegative_eq_ok basisRead), ?_, ?_, ?_,
    Subtype.ext (nonnegative_eq_ok accruedRead)⟩
  · exact (Except.ok.inj quantityRead).symm
  · rw [symbolRead]
    exact state.symbolNormal.1
  · exact (Except.ok.inj settledRead).symm
  · exact (Except.ok.inj unsettledRead).symm
  · rw [currencyRead]
    change upper (strip state.currency) = state.currency
    rw [state.currencyNormal.1, state.currencyUpper]

end EquityState

namespace CorporateActionBook

theorem split_spec {book : CorporateActionBook γ β} {event : CorporateEvent}
    {transition : Transition} (success : book.split event = .ok transition) :
    ∃ numerator denominator, SplitOf event transition numerator denominator := by
  simp only [split, bind_eq_ok, throw_unless_eq_ok, pure_eq_ok] at success
  obtain ⟨-, numerator, numeratorRead, denominator, denominatorRead, ratio, divided, quantity,
    quantityEq, borrowed, borrowedEq, recalled, recalledEq, after, made, rfl⟩ := success
  obtain ⟨⟨first, second, third⟩, symbol, basis, settled, unsettled, currency, accrued⟩ :=
    EquityState.make_quantities made
  have ratioEq := finish_eq_ok divided
  refine ⟨numerator, denominator, numeratorRead, denominatorRead, ?_, ?_, ?_, symbol, basis,
    settled, unsettled, currency, accrued⟩
  · rw [first, finish_eq_ok quantityEq, ratioEq]
  · rw [second, finish_eq_ok borrowedEq, ratioEq]
  · rw [third, finish_eq_ok recalledEq, ratioEq]

/-- The books that calls make of a new one, over a registry that may grow. -/
inductive Reached [DecidableEq β] : CorporateActionBook γ β → Prop where
  | new {state : EquityState} {version : InstrumentVersion (Content β)}
      {registry : InstrumentRegistry γ (Content β)} {book : CorporateActionBook γ β}
      (created : CorporateActionBook.new state version registry = .ok book) : Reached book
  | apply {book : CorporateActionBook γ β} (event : CorporateEvent) (reached : Reached book) :
      Reached (book.apply event).2
  | registered {book : CorporateActionBook γ β} (registry : InstrumentRegistry γ (Content β))
      (reached : Reached book) : Reached { book with registry := registry }

/-- The recorded splits are splits of their events. -/
def SplitsRecorded (book : CorporateActionBook γ β) : Prop :=
  ∀ eventId event transition, book.events.get? eventId = some (event, transition) →
    event.kind = .split → ∃ numerator denominator,
      SplitOf event transition numerator denominator

theorem apply_eq_ok {book : CorporateActionBook γ β} {event : CorporateEvent}
    {transition : Transition} :
    (book.apply event).1 = .ok transition ↔ ∃ next, book.accept event = .ok (transition, next) := by
  unfold apply
  split
  next raised => simp [raised]
  next returned => simp [returned]

/-- What an accepted call does: it repeats a recorded transition, or it records a new one. -/
theorem accept_cases {book next : CorporateActionBook γ β} {event : CorporateEvent}
    {transition : Transition} (success : book.accept event = .ok (transition, next)) :
    (∃ prior, book.events.get? event.eventId = some (prior, transition) ∧
      prior.same event = true ∧ next = book) ∨
    (book.events.get? event.eventId = none ∧ book.checkOrder event = .ok () ∧
      ∃ successor, book.transition event = .ok (transition, successor) ∧
        next = book.record event transition successor) := by
  unfold accept at success
  split at success
  next prior recorded found =>
    split at success
    next same =>
      cases success
      exact .inl ⟨prior, found, same, rfl⟩
    next => cases success
  next fresh =>
    simp only [bind_eq_ok, pure_eq_ok] at success
    obtain ⟨_, ordered, ⟨made, successor⟩, moved, built⟩ := success
    cases built
    exact .inr ⟨fresh, ordered, successor, moved, rfl⟩

theorem split_of_transition {book : CorporateActionBook γ β} {event : CorporateEvent}
    {transition : Transition} {successor : Option (InstrumentVersion (Content β))}
    (kind : event.kind = .split)
    (success : book.transition event = .ok (transition, successor)) :
    ∃ numerator denominator, SplitOf event transition numerator denominator := by
  rw [CorporateActionBook.transition, kind] at success
  simp only [bind_eq_ok, pure_eq_ok] at success
  obtain ⟨made, divided, built⟩ := success
  cases built
  exact split_spec divided

theorem SplitsRecorded.apply {book : CorporateActionBook γ β} (recorded : book.SplitsRecorded)
    (event : CorporateEvent) : (book.apply event).2.SplitsRecorded := by
  unfold CorporateActionBook.apply
  split
  next => exact recorded
  next made next accepted =>
    rcases accept_cases accepted with ⟨_, _, _, rfl⟩ | ⟨_, _, successor, moved, rfl⟩
    · exact recorded
    · intro eventId other transition found kind
      change (book.events.set event.eventId (event, made)).get? eventId = some (other, transition)
        at found
      rw [Dict.get?_set] at found
      split at found
      next =>
        cases found
        exact split_of_transition kind moved
      next => exact recorded eventId other transition found kind

theorem Reached.splitsRecorded [DecidableEq β] {book : CorporateActionBook γ β}
    (reached : book.Reached) : book.SplitsRecorded := by
  induction reached with
  | new created =>
      simp only [CorporateActionBook.new, bind_eq_ok, throw_unless_eq_ok, pure_eq_ok] at created
      obtain ⟨-, -, -, -, -, -, rfl⟩ := created
      intro eventId event transition found
      cases found
  | apply event _ ih => exact ih.apply event
  | registered _ _ ih => exact ih

end CorporateActionBook

/-- An accepted split, new or retried, has the quantities of its terms. -/
theorem CorporateActionBook.Reached.split_of_apply [DecidableEq β]
    {book : CorporateActionBook γ β} (reached : book.Reached) {event : CorporateEvent}
    {transition : Transition} (kind : event.kind = .split)
    (accepted : (book.apply event).1 = .ok transition) :
    ∃ numerator denominator, SplitOf event transition numerator denominator := by
  obtain ⟨next, accepted⟩ := CorporateActionBook.apply_eq_ok.mp accepted
  rcases CorporateActionBook.accept_cases accepted with
    ⟨prior, found, same, _⟩ | ⟨_, _, successor, moved, _⟩
  · have priorKind := (CorporateEvent.kind_eq same).trans kind
    obtain ⟨numerator, denominator, splits⟩ := reached.splitsRecorded _ _ _ found priorKind
    refine ⟨numerator, denominator, { splits with numeratorRead := ?_, denominatorRead := ?_ }⟩
    · rw [← CorporateEvent.amount_eq same]
      exact splits.numeratorRead
    · rw [← CorporateEvent.amount_eq same]
      exact splits.denominatorRead
  · exact CorporateActionBook.split_of_transition kind moved

/-! ## Exactness -/

/-- The quantity, the borrowed and the recalled quantity. -/
def EquityState.amounts (state : EquityState) : List ℚ :=
  [state.quantity.toRat, state.borrowedQuantity.1.toRat, state.recalledQuantity.1.toRat]

/-- The quantities after are those before times the ratio. -/
def Transition.Exact (transition : Transition) (numerator denominator : ℚ) : Prop :=
  List.Forall₂ (fun before after => after * denominator = before * numerator)
    transition.before.amounts transition.after.amounts

namespace SplitOf

variable {event back : CorporateEvent} {transition returned : Transition}
  {numerator denominator : PositiveDecimal}

theorem exact_iff (splits : SplitOf event transition numerator denominator) :
    transition.Exact numerator.1.toRat denominator.1.toRat ↔
      ∀ amount ∈ transition.before.amounts,
        Survives numerator.1.toRat denominator.1.toRat amount := by
  simp only [Transition.Exact, EquityState.amounts, List.forall₂_cons, List.Forall₂.nil,
    splits.quantity, splits.borrowed, splits.recalled, List.forall_mem_cons, and_true,
    CorporateActions.exact_iff numerator.2 denominator.2, List.not_mem_nil, false_imp_iff,
    implies_true]

/-- A split back restores the state where it restores the quantities. -/
theorem restores_iff (splits : SplitOf event transition numerator denominator)
    (back : SplitOf back returned denominator numerator)
    (follows : returned.before = transition.after) :
    returned.after = transition.before ↔ returned.after.amounts = transition.before.amounts := by
  constructor
  · intro same
    rw [same]
  · intro same
    simp only [EquityState.amounts, List.cons.injEq, and_true] at same
    obtain ⟨quantity, borrowed, recalled⟩ := same
    apply EquityState.ext
    · rw [back.symbol, follows, splits.symbol]
    · exact FiniteDecimal.ext quantity
    · rw [back.totalBasis, follows, splits.totalBasis]
    · rw [back.settledCash, follows, splits.settledCash]
    · rw [back.unsettledCash, follows, splits.unsettledCash]
    · rw [back.currency, follows, splits.currency]
    · exact Subtype.ext (FiniteDecimal.ext borrowed)
    · rw [back.accruedFinancing, follows, splits.accruedFinancing]
    · exact Subtype.ext (FiniteDecimal.ext recalled)

end SplitOf

/-- After an exact split, the split back restores the amounts that survive it. -/
theorem SplitOf.amounts_iff {back : CorporateEvent} {transition returned : Transition}
    {numerator denominator : PositiveDecimal}
    (backwards : SplitOf back returned denominator numerator)
    (follows : returned.before = transition.after)
    (exact : transition.Exact numerator.1.toRat denominator.1.toRat) :
    returned.after.amounts = transition.before.amounts ↔
      ∀ amount ∈ transition.before.amounts, Survives denominator.1.toRat numerator.1.toRat
        (amount * numerator.1.toRat / denominator.1.toRat) := by
  have restored : ∀ before after : ℚ,
      after * denominator.1.toRat = before * numerator.1.toRat →
      (defaultContext.rounded
        (after * defaultContext.rounded (denominator.1.toRat / numerator.1.toRat)) = before ↔
        Survives denominator.1.toRat numerator.1.toRat
          (before * numerator.1.toRat / denominator.1.toRat)) := by
    intro before after product
    rw [← survives_iff denominator.2 numerator.2,
      ← (eq_div_iff denominator.2.ne').mpr product, product,
      mul_div_cancel_right₀ before numerator.2.ne']
  simp only [Transition.Exact, EquityState.amounts, List.forall₂_cons, List.Forall₂.nil,
    and_true] at exact
  obtain ⟨quantity, borrowed, recalled⟩ := exact
  simp only [EquityState.amounts, List.cons.injEq, and_true, backwards.quantity,
    backwards.borrowed, backwards.recalled, follows, restored _ _ quantity,
    restored _ _ borrowed, restored _ _ recalled, List.forall_mem_cons, List.not_mem_nil,
    false_imp_iff, implies_true]

theorem SplitOf.terms {event : CorporateEvent} {transition : Transition}
    {numerator denominator : PositiveDecimal}
    (splits : SplitOf event transition numerator denominator) :
    Terms event numerator.1.toRat denominator.1.toRat :=
  ⟨numerator.2, denominator.2, ⟨_, positive_eq_ok.mp splits.numeratorRead, rfl⟩,
    ⟨_, positive_eq_ok.mp splits.denominatorRead, rfl⟩⟩

theorem SplitOf.of_terms {event : CorporateEvent} {transition : Transition}
    {first second numerator denominator : PositiveDecimal}
    (splits : SplitOf event transition first second)
    (terms : Terms event numerator.1.toRat denominator.1.toRat) :
    SplitOf event transition numerator denominator := by
  obtain ⟨above, below⟩ := splits.terms.unique terms
  have sameNumerator : first = numerator := Subtype.ext (FiniteDecimal.ext above)
  have sameDenominator : second = denominator := Subtype.ext (FiniteDecimal.ext below)
  rwa [sameNumerator, sameDenominator] at splits

/-- The accounting module books the exact change, so the quantity agrees with it where
it survives. -/
theorem SplitOf.booked_iff {event : CorporateEvent} {transition : Transition}
    {numerator denominator : PositiveDecimal}
    (splits : SplitOf event transition numerator denominator) {tuple : DecimalTuple}
    (position : tuple.toRat = transition.before.quantity.toRat)
    {numeratorText denominatorText : String}
    (numeratorGiven : event.payload.get? "numerator" = some numeratorText)
    (denominatorGiven : event.payload.get? "denominator" = some denominatorText)
    {transactionId causeEventId instrument : String}
    {effectiveAt observedAt : Option Accounting.Timestamp} {orderKey corrects : Option String}
    {booked : Accounting.JournalTransaction}
    (success : Accounting.bookEquitySplitAdjustment transactionId causeEventId instrument
      (.decimal tuple) (.text numeratorText) (.text denominatorText) effectiveAt orderKey
      observedAt corrects = .ok booked) :
    Accounting.splitDelta booked =
        some (transition.after.quantity.toRat - transition.before.quantity.toRat) ↔
      Survives numerator.1.toRat denominator.1.toRat transition.before.quantity.toRat := by
  obtain ⟨before, num, den, beforeRead, numRead, denRead, delta⟩ :=
    Accounting.bookEquitySplitAdjustment_delta success
  have sameBefore : before.toRat = transition.before.quantity.toRat := by
    rw [Accounting.decimal, mapError_eq_ok] at beforeRead
    · rw [← position]
      exact admitTuple_toRat beforeRead
    · exact fun other => by cases other
  have sameNumerator : num.toRat = numerator.1.toRat := by
    obtain ⟨number, read, same⟩ := decimalOfText_of_decimal numRead
    have other := positive_eq_ok.mp splits.numeratorRead
    rw [CorporateEvent.amount, numeratorGiven] at other
    simp only [decimal, read, Except.ok.injEq] at other
    rw [← other, same]
  have sameDenominator : den.toRat = denominator.1.toRat := by
    obtain ⟨number, read, same⟩ := decimalOfText_of_decimal denRead
    have other := positive_eq_ok.mp splits.denominatorRead
    rw [CorporateEvent.amount, denominatorGiven] at other
    simp only [decimal, read, Except.ok.injEq] at other
    rw [← other, same]
  rw [delta, sameBefore, sameNumerator, sameDenominator, Option.some.injEq,
    ← survives_iff numerator.2 denominator.2, splits.quantity, sub_left_inj]
  exact eq_comm

/-- A split is exact where all three amounts survive the rounding of its ratio.  The
basis and the cash are kept.  It is exact and the reverse split restores the state
where the amounts survive both, and its change of quantity is the one that the
accounting module books where the quantity survives. -/
theorem CorporateActionBook.equity_splits_exact [DecidableEq β] {book : CorporateActionBook γ β}
    (reached : book.Reached) {event : CorporateEvent} {transition : Transition}
    (kind : event.kind = .split) (accepted : (book.apply event).1 = .ok transition) :
    ∃ numerator denominator, Terms event numerator denominator ∧
      (transition.Exact numerator denominator ↔
        ∀ amount ∈ transition.before.amounts, Survives numerator denominator amount) ∧
      transition.after.totalBasis = transition.before.totalBasis ∧
      transition.after.settledCash = transition.before.settledCash ∧
      transition.after.unsettledCash = transition.before.unsettledCash ∧
      (∀ (later : CorporateActionBook γ β) (back : CorporateEvent) (returned : Transition),
        later.Reached → back.kind = .split → (later.apply back).1 = .ok returned →
        Terms back denominator numerator → returned.before = transition.after →
        (transition.Exact numerator denominator ∧ returned.after = transition.before ↔
          ∀ amount ∈ transition.before.amounts, Survives numerator denominator amount ∧
            Survives denominator numerator (amount * numerator / denominator))) ∧
      ∀ (tuple : DecimalTuple) (numeratorText denominatorText : String)
        (transactionId causeEventId instrument : String)
        (effectiveAt observedAt : Option Accounting.Timestamp) (orderKey corrects : Option String)
        (booked : Accounting.JournalTransaction),
        tuple.toRat = transition.before.quantity.toRat →
        event.payload.get? "numerator" = some numeratorText →
        event.payload.get? "denominator" = some denominatorText →
        Accounting.bookEquitySplitAdjustment transactionId causeEventId instrument
          (.decimal tuple) (.text numeratorText) (.text denominatorText) effectiveAt orderKey
          observedAt corrects = .ok booked →
        (Accounting.splitDelta booked =
            some (transition.after.quantity.toRat - transition.before.quantity.toRat) ↔
          Survives numerator denominator transition.before.quantity.toRat) := by
  obtain ⟨numerator, denominator, splits⟩ := reached.split_of_apply kind accepted
  refine ⟨_, _, splits.terms, splits.exact_iff, splits.totalBasis, splits.settledCash,
    splits.unsettledCash, ?_, ?_⟩
  · intro later back returned laterReached backKind backAccepted terms follows
    obtain ⟨_, _, raw⟩ := laterReached.split_of_apply backKind backAccepted
    have backwards : SplitOf back returned denominator numerator := raw.of_terms terms
    rw [splits.restores_iff backwards follows]
    constructor
    · intro ⟨exact, restored⟩ amount member
      exact ⟨splits.exact_iff.mp exact amount member,
        (backwards.amounts_iff follows exact).mp restored amount member⟩
    · intro both
      have exact := splits.exact_iff.mpr fun amount member => (both amount member).1
      exact ⟨exact, (backwards.amounts_iff follows exact).mpr
        fun amount member => (both amount member).2⟩
  · intro tuple numeratorText denominatorText transactionId causeEventId instrument effectiveAt
      observedAt orderKey corrects booked position numeratorGiven denominatorGiven success
    exact splits.booked_iff position numeratorGiven denominatorGiven success

end

/-! ## Whole shares -/

section

/-- The digits of ASCII. -/
@[reducible] def DigitMap.same : DigitMap := ⟨id, fun _ _ => rfl⟩

attribute [local instance] CaseMap.ascii DigitMap.same

/-- A version of a share. -/
def share : InstrumentVersion (Content Unit) where
  instrumentId := "share"
  version := 1
  providerId := "provider"
  venueId := "venue"
  providerSymbol := "SHR"
  calendarId := "CONTINUOUS_24_7"
  timezoneId := "UTC"
  effectiveFrom := ⟨⟨0⟩, by decide, by decide⟩
  effectiveTo := none
  content := ⟨⟨"CASH_EQUITY", "USD", "USD", "USD", "SHARE", .whole 1 Decimal.one_bounded⟩, ()⟩
  version_pos := Nat.one_pos
  ends_after _ member := absurd member (Option.not_mem_none _)

def shareRegistry : InstrumentRegistry Unit (Content Unit) :=
  ⟨∅, (∅ : Dict String _).set "share" [share]⟩

/-- A long position of whole shares. -/
def shares (count : Nat) : EquityState where
  symbol := "SHR"
  quantity := .whole count
  totalBasis := ⟨.whole 90, by decide +kernel⟩
  settledCash := 0
  unsettledCash := 0
  currency := "USD"
  borrowedQuantity := ⟨0, le_rfl⟩
  accruedFinancing := ⟨0, le_rfl⟩
  recalledQuantity := ⟨0, le_rfl⟩
  symbolNormal := by decide
  currencyNormal := by decide
  currencyUpper := by decide
  recalled_le := le_rfl
  matched := by
    have long : ¬ (count : ℚ) < 0 := not_lt.mpr (Nat.cast_nonneg count)
    simp [checkBorrowed, FiniteDecimal.whole, long]

def sharesBook (count : Nat) : CorporateActionBook Unit Unit :=
  ⟨shares count, share, shareRegistry, ∅, none, none⟩

theorem sharesBook_reached (count : Nat) : (sharesBook count).Reached := by
  have created : CorporateActionBook.new (shares count) share shareRegistry =
      .ok (sharesBook count) := rfl
  exact CorporateActionBook.Reached.new created

/-- A split of the share. -/
def splitEvent (numerator denominator : String) : CorporateEvent where
  eventId := "split"
  instrumentId := "share"
  instrumentVersion := 1
  kind := .split
  effectiveDate := 0
  sourceRevision := "1"
  payload := ((∅ : Dict String String).set "numerator" numerator).set "denominator" denominator
  sourceSequence := some 1
  effectiveAt := none
  eventNormal := by decide
  instrumentNormal := by decide
  revisionNormal := by decide
  version_pos := Nat.one_pos
  keysNormal := normal_keys (by decide) (by decide)
  dated _ member := absurd member (Option.not_mem_none _)

/-- The quantity after a split of whole shares. -/
def quantityAfter (count : Nat) (numerator denominator : String) : Option ℚ :=
  ((sharesBook count).apply (splitEvent numerator denominator)).1.toOption.map fun transition =>
    transition.after.quantity.toRat

theorem exists_split {count : Nat} {numerator denominator : String} {quantity : ℚ}
    (computed : quantityAfter count numerator denominator = some quantity) :
    ∃ transition, ((sharesBook count).apply (splitEvent numerator denominator)).1 =
        .ok transition ∧ transition.after.quantity.toRat = quantity := by
  obtain ⟨transition, returned, same⟩ := Option.map_eq_some_iff.mp computed
  refine ⟨transition, ?_, same⟩
  cases result : ((sharesBook count).apply (splitEvent numerator denominator)).1 with
  | error error =>
      rw [result] at returned
      cases returned
  | ok accepted =>
      rw [result] at returned
      rw [Option.some.inj returned]

theorem three_shares_one_for_three : ∃ transition,
    ((sharesBook 3).apply (splitEvent "1" "3")).1 = .ok transition ∧
      ¬ transition.after.quantity.toRat * 3 = (sharesBook 3).state.quantity.toRat * 1 := by
  obtain ⟨transition, accepted, quantity⟩ := exists_split
    (show quantityAfter 3 "1" "3" = some (9999999999999999999999999999 / 10 ^ 28) by
      decide +kernel)
  refine ⟨transition, accepted, ?_⟩
  rw [quantity]
  change ¬ _ = ((3 : ℤ) : ℚ) * 1
  norm_num

theorem four_shares_three_for_two : ∃ transition,
    ((sharesBook 4).apply (splitEvent "3" "2")).1 = .ok transition ∧
      transition.after.quantity.toRat = 6 ∧
      transition.after.totalBasis = transition.before.totalBasis ∧
      ∃ numerator denominator, Terms (splitEvent "3" "2") numerator denominator ∧
        (transition.Exact numerator denominator ↔
          ∀ amount ∈ transition.before.amounts, Survives numerator denominator amount) := by
  obtain ⟨transition, accepted, quantity⟩ := exists_split
    (show quantityAfter 4 "3" "2" = some 6 by decide +kernel)
  obtain ⟨numerator, denominator, terms, exact, basis, -⟩ :=
    CorporateActionBook.equity_splits_exact (sharesBook_reached 4) rfl accepted
  exact ⟨transition, accepted, quantity, basis, numerator, denominator, terms, exact⟩

end

end AutoTrade.CorporateActions
