import AutoTrade.Lib.Raise
import AutoTrade.Numeric.ExactDecimal

/-!
# FIFO lot book

The executable model of `lot_book.FifoLotBook` and its conservation law.  A lot
keeps its total basis as an exact rational, so a partial sale splits it without
rounding even when the share does not terminate as a decimal.  A call assigns
the lots and the realized profit only after the snapshot of the new state
returned.
-/

namespace AutoTrade.Accounting

open Lib Numeric

/-- The exceptions a lot-book call raises. -/
inductive LotBookError where
  | typeError (message : String)
  | valueError (message : String)
  /-- An index beyond the end of the lot list. -/
  | indexError
  deriving DecidableEq, Repr

/-- `Decimal | Fraction`. -/
inductive ExactBasis where
  | decimal (value : Decimal)
  | fraction (value : ℚ)
  deriving DecidableEq, Repr

def ExactBasis.toRat : ExactBasis → ℚ
  | .decimal value => value.toRat
  | .fraction value => value

structure Lot where
  quantity : Decimal
  totalBasis : ℚ
  deriving DecidableEq, Repr

structure BasisSnapshot where
  position : Decimal
  openBasis : ExactBasis
  realizedPnl : ExactBasis
  deriving DecidableEq, Repr

structure FifoLotBook where
  lots : List Lot
  realized : ℚ
  deriving DecidableEq, Repr

namespace FifoLotBook

/-! ## Exact arithmetic -/

/-- An exact operation whose resource error is reported by the lot book. -/
def exactly {α : Type} (computation : Except ExactDecimalError α) : Except LotBookError α :=
  computation.mapError fun _ =>
    .valueError "lot-book exact arithmetic exceeds resource envelope"

/-- `_decimal`. -/
def decimal : DecimalInput → Except LotBookError Decimal
  | .inexact =>
      .error (.typeError "Financial values must use Decimal, string or integer input")
  | value =>
      (parseBoundedExactDecimal value true).mapError fun _ =>
        .valueError "Value must be a bounded exact decimal"

/-- `_fraction`. -/
def fraction (value : ℚ) : Except LotBookError ℚ := exactly (boundedFraction value)

/-- `_fraction_add`. -/
def fractionAdd (left right : ℚ) : Except LotBookError ℚ := exactly (boundedFraction (left + right))

/-- `_fraction_subtract`. -/
def fractionSubtract (left right : ℚ) : Except LotBookError ℚ :=
  exactly (boundedFraction (left - right))

/-- `_fraction_multiply`. -/
def fractionMultiply (left right : ℚ) : Except LotBookError ℚ :=
  exactly (boundedFraction (left * right))

/-- `_exact_decimal_multiply`. -/
def exactDecimalMultiply (left right : Decimal) : Except LotBookError Decimal :=
  exactly (exactMultiply [left, right])

/-- `_exact_decimal_subtract`. -/
def exactDecimalSubtract (left right : Decimal) : Except LotBookError Decimal :=
  exactly (exactSubtract left right)

/-- `_decimal_sum`. -/
def decimalSum (values : List Decimal) : Except LotBookError Decimal :=
  exactly (exactSum values 0)

/-- `_public_exact`. -/
def publicExact (value : ℚ) : Except LotBookError ExactBasis := do
  let value ← fraction value
  match terminatingDecimal value with
  | .ok terminating => pure (.decimal terminating)
  | .error _ => pure (.fraction value)

theorem exactly_eq_ok {α : Type} {computation : Except ExactDecimalError α} {result : α} :
    exactly computation = .ok result ↔ computation = .ok result := mapError_eq_ok

theorem fraction_eq {value result : ℚ} (success : fraction value = .ok result) :
    result = value := boundedFraction_eq (exactly_eq_ok.mp success)

theorem fractionAdd_eq {left right result : ℚ} (success : fractionAdd left right = .ok result) :
    result = left + right := boundedFraction_eq (exactly_eq_ok.mp success)

theorem fractionSubtract_eq {left right result : ℚ}
    (success : fractionSubtract left right = .ok result) : result = left - right :=
  boundedFraction_eq (exactly_eq_ok.mp success)

theorem fractionMultiply_eq {left right result : ℚ}
    (success : fractionMultiply left right = .ok result) : result = left * right :=
  boundedFraction_eq (exactly_eq_ok.mp success)

theorem exactDecimalSubtract_toRat {left right result : Decimal}
    (success : exactDecimalSubtract left right = .ok result) :
    result.toRat = left.toRat - right.toRat :=
  exactSubtract_eq_ok.mp (exactly_eq_ok.mp success)

theorem exactDecimalMultiply_toRat {left right result : Decimal}
    (success : exactDecimalMultiply left right = .ok result) :
    result.toRat = left.toRat * right.toRat := by
  rw [exactDecimalMultiply, exactly_eq_ok] at success
  rw [accumulate_toRat success]
  simp

theorem decimalSum_toRat {values : List Decimal} {result : Decimal}
    (success : decimalSum values = .ok result) :
    result.toRat = (values.map Decimal.toRat).sum := by
  rw [exactSum_toRat (exactly_eq_ok.mp success), Decimal.toRat_zero, zero_add]

theorem publicExact_toRat {value : ℚ} {result : ExactBasis}
    (success : publicExact value = .ok result) : result.toRat = value := by
  rw [publicExact, bind_eq_ok] at success
  obtain ⟨same, bounded, rest⟩ := success
  rw [fraction_eq bounded] at rest
  split at rest
  next terminating found =>
    cases rest
    exact terminatingDecimal_eq_ok.mp found
  next =>
    cases rest
    rfl

/-! ## Trades -/

/-- The basis of a list of lots, added up in order. -/
def openBasis (lots : List Lot) : Except LotBookError ℚ :=
  lots.foldlM (fun total lot => fractionAdd total lot.totalBasis) 0

/-- `_snapshot_for`. -/
def snapshotFor (lots : List Lot) (realized : ℚ) : Except LotBookError BasisSnapshot := do
  let position ← decimalSum (lots.map Lot.quantity)
  let basis ← openBasis lots
  let openBasis ← publicExact basis
  let realizedPnl ← publicExact realized
  pure ⟨position, openBasis, realizedPnl⟩

/-- `snapshot`. -/
def snapshot (book : FifoLotBook) : Except LotBookError BasisSnapshot :=
  snapshotFor book.lots book.realized

/-- The amounts of an admitted trade. -/
structure Terms where
  quantity : Decimal
  price : Decimal
  fee : Decimal
  deriving DecidableEq, Repr

/-- The argument checks of `buy` and `sell`. -/
def terms (quantity price fee : DecimalInput) (message : String) :
    Except LotBookError Terms := do
  let qty ← decimal quantity
  let px ← decimal price
  let charge ← decimal fee
  if qty ≤ 0 ∨ px ≤ 0 ∨ charge < 0 then .error (.valueError message)
  else pure ⟨qty, px, charge⟩

/-- `buy`. -/
def buy (book : FifoLotBook) (quantity price fee : DecimalInput) :
    Except LotBookError (FifoLotBook × BasisSnapshot) := do
  let trade ← terms quantity price fee
    "Buy quantity and price must be positive and fee non-negative"
  let product ← exactDecimalMultiply trade.quantity trade.price
  let value ← fraction product.toRat
  let charge ← fraction trade.fee.toRat
  let totalCost ← fractionAdd value charge
  let candidateLots := book.lots ++ [⟨trade.quantity, totalCost⟩]
  let nextSnapshot ← snapshotFor candidateLots book.realized
  pure ({ book with lots := candidateLots }, nextSnapshot)

/-- `min(remaining, lot.quantity)`. -/
def takenFrom (remaining : Decimal) (lot : Lot) : Decimal :=
  if lot.quantity < remaining then lot.quantity else remaining

/-- The basis that goes with a part of a lot, and the lot that is left. -/
def splitLot (lot : Lot) (taken : Decimal) : Except LotBookError (ℚ × Lot) := do
  let part ← fraction taken.toRat
  let unit ← fraction (1 / lot.quantity.toRat)
  let share ← fractionMultiply part unit
  let takenBasis ← fractionMultiply lot.totalBasis share
  let leftoverQuantity ← exactDecimalSubtract lot.quantity taken
  let leftoverBasis ← fractionSubtract lot.totalBasis takenBasis
  pure (takenBasis, ⟨leftoverQuantity, leftoverBasis⟩)

/-- A part that is not the whole lot is all that remains to be sold. -/
theorem takenFrom_eq {remaining : Decimal} {lot : Lot}
    (partial_ : takenFrom remaining lot ≠ lot.quantity) : takenFrom remaining lot = remaining := by
  simp only [takenFrom] at partial_ ⊢
  split
  next whole => simp [whole] at partial_
  next => rfl

/-- The loop of `sell`: the basis removed and the lots left. -/
def consume (remaining : Decimal) (removedBasis : ℚ) (workingLots : List Lot) :
    Except LotBookError (ℚ × List Lot) :=
  if _positive : 0 < remaining then
    match workingLots with
    | [] => .error .indexError
    | lot :: rest =>
        if _whole : takenFrom remaining lot = lot.quantity then
          match fractionAdd removedBasis lot.totalBasis with
          | .error error => .error error
          | .ok removed =>
              match exactDecimalSubtract remaining (takenFrom remaining lot) with
              | .error error => .error error
              | .ok left => consume left removed rest
        else
          match splitLot lot (takenFrom remaining lot) with
          | .error error => .error error
          | .ok (takenBasis, leftover) =>
              match fractionAdd removedBasis takenBasis with
              | .error error => .error error
              | .ok removed =>
                  match _sold : exactDecimalSubtract remaining (takenFrom remaining lot) with
                  | .error error => .error error
                  | .ok left => consume left removed (leftover :: rest)
  else .ok (removedBasis, workingLots)
termination_by workingLots.length + if 0 < remaining then 1 else 0
decreasing_by
  · simp only [List.length_cons, _positive, if_true]
    split <;> omega
  · have finished : ¬ 0 < left := by
      rw [Decimal.lt_def, exactDecimalSubtract_toRat _sold, takenFrom_eq _whole]
      simp
    simp only [List.length_cons, _positive, finished, if_true, if_false]
    omega

/-- `sell`. -/
def sell (book : FifoLotBook) (quantity price fee : DecimalInput) :
    Except LotBookError (FifoLotBook × BasisSnapshot) := do
  let trade ← terms quantity price fee
    "Sell quantity and price must be positive and fee non-negative"
  let current ← snapshotFor book.lots book.realized
  if current.position < trade.quantity then
    .error (.valueError "Cannot sell more than the available long position")
  else do
    let (removedBasis, workingLots) ← consume trade.quantity 0 book.lots
    let product ← exactDecimalMultiply trade.quantity trade.price
    let value ← fraction product.toRat
    let charge ← fraction trade.fee.toRat
    let netProceeds ← fractionSubtract value charge
    let gain ← fractionSubtract netProceeds removedBasis
    let newRealized ← fractionAdd book.realized gain
    let nextSnapshot ← snapshotFor workingLots newRealized
    pure (⟨workingLots, newRealized⟩, nextSnapshot)

/-! ## Calls and runs -/

inductive TradeCall where
  | buy (quantity price fee : DecimalInput)
  | sell (quantity price fee : DecimalInput)
  deriving DecidableEq, Repr

def trade (book : FifoLotBook) :
    TradeCall → Except LotBookError (FifoLotBook × BasisSnapshot)
  | .buy quantity price fee => book.buy quantity price fee
  | .sell quantity price fee => book.sell quantity price fee

/-- The book after a call and what the call returns or raises. -/
def call (book : FifoLotBook) (invocation : TradeCall) :
    FifoLotBook × Except LotBookError BasisSnapshot :=
  match book.trade invocation with
  | .error error => (book, .error error)
  | .ok (next, snapshot) => (next, .ok snapshot)

/-- What the calls that returned bought, sold, paid and received. -/
structure Totals where
  bought : ℚ
  sold : ℚ
  cost : ℚ
  proceeds : ℚ
  deriving DecidableEq, Repr

/-- The totals with one more trade. -/
def Totals.record (totals : Totals) : TradeCall → Totals
  | .buy quantity price fee =>
      match terms quantity price fee "" with
      | .error _ => totals
      | .ok trade => { totals with
          bought := totals.bought + trade.quantity.toRat
          cost := totals.cost + (trade.quantity.toRat * trade.price.toRat + trade.fee.toRat) }
  | .sell quantity price fee =>
      match terms quantity price fee "" with
      | .error _ => totals
      | .ok trade => { totals with
          sold := totals.sold + trade.quantity.toRat
          proceeds := totals.proceeds +
            (trade.quantity.toRat * trade.price.toRat - trade.fee.toRat) }

/-- A book beside the totals of the calls that returned. -/
structure Session where
  book : FifoLotBook
  totals : Totals
  deriving DecidableEq, Repr

/-- `FifoLotBook()`. -/
def Session.empty : Session := ⟨⟨[], 0⟩, ⟨0, 0, 0, 0⟩⟩

def Session.step (session : Session) (invocation : TradeCall) : Session :=
  match session.book.call invocation with
  | (next, .error _) => { session with book := next }
  | (next, .ok _) => ⟨next, session.totals.record invocation⟩

def Session.run (calls : List TradeCall) : Session := calls.foldl Session.step Session.empty

/-! ## Conservation -/

/-- The quantity held in a list of lots. -/
def held (lots : List Lot) : ℚ := (lots.map fun lot => lot.quantity.toRat).sum

/-- The basis of a list of lots. -/
def basis (lots : List Lot) : ℚ := (lots.map Lot.totalBasis).sum

/-- Every lot holds something. -/
def Positive (lots : List Lot) : Prop := ∀ lot ∈ lots, 0 < lot.quantity

@[simp] theorem held_nil : held [] = 0 := rfl
@[simp] theorem basis_nil : basis [] = 0 := rfl

@[simp] theorem held_cons (lot : Lot) (rest : List Lot) :
    held (lot :: rest) = lot.quantity.toRat + held rest := by
  simp [held]

@[simp] theorem basis_cons (lot : Lot) (rest : List Lot) :
    basis (lot :: rest) = lot.totalBasis + basis rest := by
  simp [basis]

theorem Positive.held_nonneg {lots : List Lot} (positive : Positive lots) : 0 ≤ held lots := by
  apply List.sum_nonneg
  intro value member
  obtain ⟨lot, found, rfl⟩ := List.mem_map.mp member
  exact le_of_lt (positive lot found)

theorem openBasis_eq {lots : List Lot} {result : ℚ} (success : openBasis lots = .ok result) :
    result = basis lots := by
  have general : ∀ {start}, lots.foldlM (fun total lot => fractionAdd total lot.totalBasis)
      start = .ok result → result = start + basis lots := by
    clear success
    induction lots with
    | nil =>
        intro start success
        cases success
        simp
    | cons lot rest ih =>
        intro start success
        rw [List.foldlM_cons, bind_eq_ok] at success
        obtain ⟨middle, first, tail⟩ := success
        rw [ih tail, fractionAdd_eq first, basis_cons]
        ring
  rw [general success, zero_add]

/-- A snapshot that returns states the position, basis and profit exactly. -/
theorem snapshotFor_toRat {lots : List Lot} {realized : ℚ} {taken : BasisSnapshot}
    (success : snapshotFor lots realized = .ok taken) :
    taken.position.toRat = held lots ∧ taken.openBasis.toRat = basis lots ∧
      taken.realizedPnl.toRat = realized := by
  simp only [snapshotFor, bind_eq_ok, pure_eq_ok] at success
  obtain ⟨position, summed, total, added, shown, first, gain, second, rfl⟩ := success
  refine ⟨?_, ?_, publicExact_toRat second⟩
  · rw [decimalSum_toRat summed, held, List.map_map]
    rfl
  · rw [publicExact_toRat first, openBasis_eq added]

theorem terms_eq_ok {quantity price fee : DecimalInput} {message : String} {trade : Terms}
    (success : terms quantity price fee message = .ok trade) :
    0 < trade.quantity ∧ ∀ other, terms quantity price fee other = .ok trade := by
  simp only [terms, bind_eq_ok, guard_eq_ok, pure_eq_ok] at success ⊢
  obtain ⟨qty, first, px, second, charge, third, valid, rfl⟩ := success
  refine ⟨?_, fun other => ⟨qty, first, px, second, charge, third, valid, rfl⟩⟩
  rw [Decimal.lt_def]
  exact not_le.mp fun nonpositive => valid (.inl nonpositive)

/-- Splitting a lot conserves its quantity and its basis. -/
theorem splitLot_conserves {lot leftover : Lot} {taken : Decimal} {takenBasis : ℚ}
    (success : splitLot lot taken = .ok (takenBasis, leftover)) :
    leftover.quantity.toRat = lot.quantity.toRat - taken.toRat ∧
      takenBasis + leftover.totalBasis = lot.totalBasis := by
  simp only [splitLot, bind_eq_ok, pure_eq_ok, Prod.mk.injEq] at success
  obtain ⟨part, -, unit, -, share, -, partBasis, -, quantity, left, rest, subtracted, rfl, rfl⟩ :=
    success
  refine ⟨exactDecimalSubtract_toRat left, ?_⟩
  rw [fractionSubtract_eq subtracted]
  ring

theorem takenFrom_le (remaining : Decimal) (lot : Lot) :
    (takenFrom remaining lot).toRat ≤ lot.quantity.toRat ∧
      (takenFrom remaining lot).toRat ≤ remaining.toRat := by
  simp only [takenFrom]
  split
  next less => exact ⟨le_rfl, le_of_lt less⟩
  next less => exact ⟨not_lt.mp less, le_rfl⟩

/-- What the loop of `sell` does with lots that cover the quantity to be sold:
it takes exactly that quantity, and the basis it removes is the basis it takes
from the lots. -/
structure Consumed (remaining : Decimal) (removedBasis : ℚ) (lots : List Lot)
    (removed : ℚ) (left : List Lot) : Prop where
  positive : Positive left
  quantity : held left = held lots - remaining.toRat
  basis : removed + FifoLotBook.basis left = removedBasis + FifoLotBook.basis lots

theorem consume_consumed {remaining : Decimal} {removedBasis removed : ℚ}
    {lots left : List Lot} (positive : Positive lots) (nonneg : 0 ≤ remaining.toRat)
    (success : consume remaining removedBasis lots = .ok (removed, left)) :
    Consumed remaining removedBasis lots removed left := by
  fun_induction consume remaining removedBasis lots with
  | case1 => cases success
  | case2 => cases success
  | case3 => cases success
  | case4 remaining removedBasis pending lot rest whole sum added next sold ih =>
      have exhausted := exactDecimalSubtract_toRat sold
      obtain ⟨-, bound⟩ := takenFrom_le remaining lot
      obtain ⟨kept, quantity, total⟩ := ih (fun other member =>
        positive other (List.mem_cons_of_mem lot member)) (by linarith) success
      refine ⟨kept, ?_, ?_⟩
      · rw [quantity, exhausted, held_cons, whole]
        ring
      · rw [total, fractionAdd_eq added, basis_cons]
        ring
  | case5 => cases success
  | case6 => cases success
  | case7 => cases success
  | case8 remaining removedBasis pending lot rest partial_ takenBasis leftover divided sum added
      next sold ih =>
      have exhausted := exactDecimalSubtract_toRat sold
      obtain ⟨within, bound⟩ := takenFrom_le remaining lot
      obtain ⟨leftQuantity, leftBasis⟩ := splitLot_conserves divided
      have more : (takenFrom remaining lot).toRat < lot.quantity.toRat :=
        lt_of_le_of_ne within fun same => partial_ (Decimal.ext same)
      have positiveLeft : Positive (leftover :: rest) := by
        intro other member
        rcases List.mem_cons.mp member with rfl | member
        · rw [Decimal.lt_def, leftQuantity, Decimal.toRat_zero]
          linarith
        · exact positive other (List.mem_cons_of_mem lot member)
      obtain ⟨kept, quantity, total⟩ := ih positiveLeft (by linarith) success
      refine ⟨kept, ?_, ?_⟩
      · rw [quantity, exhausted, held_cons, held_cons, leftQuantity]
        ring
      · rw [total, fractionAdd_eq added, basis_cons, basis_cons, ← leftBasis]
        ring
  | case9 remaining removedBasis lots finished =>
      cases success
      have nothing : remaining.toRat = 0 := le_antisymm (not_lt.mp finished) nonneg
      exact ⟨positive, by rw [nothing, sub_zero], rfl⟩

/-! ## Raising for the envelope -/

/-- A computation that raises only where exact arithmetic leaves the resource envelope. -/
def WithinEnvelope {α : Type} (computation : Except LotBookError α) : Prop :=
  ∀ error, computation = .error error →
    error = .valueError "lot-book exact arithmetic exceeds resource envelope"

theorem WithinEnvelope.ok {α : Type} (value : α) :
    WithinEnvelope (.ok value : Except LotBookError α) := by
  intro error raised
  cases raised

theorem WithinEnvelope.exactly {α : Type} (computation : Except ExactDecimalError α) :
    WithinEnvelope (FifoLotBook.exactly computation) := by
  intro error raised
  cases computation with
  | error other =>
      cases raised
      rfl
  | ok value => cases raised

theorem WithinEnvelope.bind {α β : Type} {first : Except LotBookError α}
    {next : α → Except LotBookError β} (within : WithinEnvelope first)
    (later : ∀ value, first = .ok value → WithinEnvelope (next value)) :
    WithinEnvelope (first >>= next) := by
  cases first with
  | error other =>
      intro error raised
      cases raised
      exact within other rfl
  | ok value => exact later value rfl

/-- An exception passed on by a caller. -/
theorem WithinEnvelope.raised {α β : Type} {first : Except LotBookError α}
    {error : LotBookError} (within : WithinEnvelope first) (failed : first = .error error) :
    WithinEnvelope (.error error : Except LotBookError β) := by
  intro other raised
  cases raised
  exact within error failed

theorem splitLot_within (lot : Lot) (taken : Decimal) : WithinEnvelope (splitLot lot taken) := by
  apply (WithinEnvelope.exactly _).bind
  intro part _
  apply (WithinEnvelope.exactly _).bind
  intro unit _
  apply (WithinEnvelope.exactly _).bind
  intro share _
  apply (WithinEnvelope.exactly _).bind
  intro takenBasis _
  apply (WithinEnvelope.exactly _).bind
  intro quantity _
  apply (WithinEnvelope.exactly _).bind
  intro rest _
  exact .ok _

/-- The loop never runs out of lots that cover the quantity to be sold. -/
theorem consume_within {remaining : Decimal} {removedBasis : ℚ} {lots : List Lot}
    (positive : Positive lots) (covered : remaining.toRat ≤ held lots) :
    WithinEnvelope (consume remaining removedBasis lots) := by
  fun_induction consume remaining removedBasis lots with
  | case1 remaining removedBasis pending =>
      rw [Decimal.lt_def, Decimal.toRat_zero] at pending
      rw [held_nil] at covered
      exact absurd covered (not_le.mpr pending)
  | case2 remaining removedBasis pending lot rest whole error failed =>
      exact (WithinEnvelope.exactly _).raised failed
  | case3 remaining removedBasis pending lot rest whole sum added error failed =>
      exact (WithinEnvelope.exactly _).raised failed
  | case4 remaining removedBasis pending lot rest whole sum added next sold ih =>
      apply ih
      · intro other member
        exact positive other (List.mem_cons_of_mem lot member)
      · rw [held_cons] at covered
        rw [exactDecimalSubtract_toRat sold, whole]
        linarith
  | case5 remaining removedBasis pending lot rest partial_ error failed =>
      exact (splitLot_within _ _).raised failed
  | case6 remaining removedBasis pending lot rest partial_ takenBasis leftover divided error
      failed => exact (WithinEnvelope.exactly _).raised failed
  | case7 remaining removedBasis pending lot rest partial_ takenBasis leftover divided sum added
      error failed => exact (WithinEnvelope.exactly _).raised failed
  | case8 remaining removedBasis pending lot rest partial_ takenBasis leftover divided sum added
      next sold ih =>
      have finished := exactDecimalSubtract_toRat sold
      rw [takenFrom_eq partial_, sub_self] at finished
      have done : consume next sum (leftover :: rest) = .ok (sum, leftover :: rest) := by
        rw [consume, dif_neg]
        rw [Decimal.lt_def, finished, Decimal.toRat_zero]
        exact lt_irrefl 0
      rw [done]
      exact .ok _
  | case9 remaining removedBasis lots finished => exact .ok _

theorem publicExact_within (value : ℚ) : WithinEnvelope (publicExact value) := by
  apply (WithinEnvelope.exactly _).bind
  intro bounded _
  split
  · exact .ok _
  · exact .ok _

theorem openBasis_within (lots : List Lot) : WithinEnvelope (openBasis lots) := by
  have general : ∀ start, WithinEnvelope (lots.foldlM
      (fun total lot => fractionAdd total lot.totalBasis) start) := by
    induction lots with
    | nil =>
        intro start
        exact .ok start
    | cons lot rest ih =>
        intro start
        rw [List.foldlM_cons]
        apply (WithinEnvelope.exactly _).bind
        intro total _
        exact ih total
  exact general 0

theorem snapshotFor_within (lots : List Lot) (realized : ℚ) :
    WithinEnvelope (snapshotFor lots realized) := by
  apply (WithinEnvelope.exactly _).bind
  intro position _
  apply (openBasis_within lots).bind
  intro total _
  apply (publicExact_within total).bind
  intro shown _
  apply (publicExact_within realized).bind
  intro gain _
  exact .ok _

/-! ## No lot is read beyond the end -/

/-- A computation that does not index an empty lot list. -/
def InRange {α : Type} (computation : Except LotBookError α) : Prop :=
  computation ≠ .error .indexError

theorem WithinEnvelope.inRange {α : Type} {computation : Except LotBookError α}
    (within : WithinEnvelope computation) : InRange computation := by
  intro raised
  cases within _ raised

theorem InRange.reported {α : Type} (computation : Except ExactDecimalError α)
    (message : String) :
    InRange (computation.mapError fun _ => LotBookError.valueError message) := by
  cases computation with
  | error error => exact fun same => by cases same
  | ok value => exact fun same => by cases same

theorem InRange.bind {α β : Type} {first : Except LotBookError α}
    {next : α → Except LotBookError β} (inRange : InRange first)
    (later : ∀ value, first = .ok value → InRange (next value)) : InRange (first >>= next) := by
  cases first with
  | error error =>
      intro same
      cases same
      exact inRange rfl
  | ok value => exact later value rfl

theorem decimal_inRange (value : DecimalInput) : InRange (decimal value) := by
  cases value with
  | inexact => exact fun same => by cases same
  | _ =>
      rw [decimal]
      · exact InRange.reported _ _
      · exact fun same => by cases same

theorem terms_inRange (quantity price fee : DecimalInput) (message : String) :
    InRange (terms quantity price fee message) := by
  refine (decimal_inRange quantity).bind fun qty _ => ?_
  refine (decimal_inRange price).bind fun px _ => ?_
  refine (decimal_inRange fee).bind fun charge _ => ?_
  split <;> exact fun same => by cases same

theorem buy_inRange (book : FifoLotBook) (quantity price fee : DecimalInput) :
    InRange (book.buy quantity price fee) := by
  refine (terms_inRange _ _ _ _).bind fun trade _ => ?_
  refine (WithinEnvelope.exactly _).inRange.bind fun product _ => ?_
  refine (WithinEnvelope.exactly _).inRange.bind fun value _ => ?_
  refine (WithinEnvelope.exactly _).inRange.bind fun charge _ => ?_
  refine (WithinEnvelope.exactly _).inRange.bind fun totalCost _ => ?_
  refine (snapshotFor_within _ _).inRange.bind fun taken _ => ?_
  exact fun same => by cases same

/-- The availability check of `sell` makes its list access safe. -/
theorem sell_inRange {book : FifoLotBook} (positive : Positive book.lots)
    (quantity price fee : DecimalInput) : InRange (book.sell quantity price fee) := by
  refine (terms_inRange _ _ _ _).bind fun trade _ => ?_
  refine (snapshotFor_within _ _).inRange.bind fun current taken => ?_
  split
  · exact fun same => by cases same
  next available =>
    have covered : trade.quantity.toRat ≤ held book.lots := by
      rw [← (snapshotFor_toRat taken).1]
      exact not_lt.mp available
    refine (consume_within positive covered).inRange.bind fun consumed _ => ?_
    refine (WithinEnvelope.exactly _).inRange.bind fun product _ => ?_
    refine (WithinEnvelope.exactly _).inRange.bind fun value _ => ?_
    refine (WithinEnvelope.exactly _).inRange.bind fun charge _ => ?_
    refine (WithinEnvelope.exactly _).inRange.bind fun netProceeds _ => ?_
    refine (WithinEnvelope.exactly _).inRange.bind fun gain _ => ?_
    refine (WithinEnvelope.exactly _).inRange.bind fun newRealized _ => ?_
    refine (snapshotFor_within _ _).inRange.bind fun taken _ => ?_
    exact fun same => by cases same

theorem trade_inRange {book : FifoLotBook} (positive : Positive book.lots)
    (invocation : TradeCall) : InRange (book.trade invocation) := by
  cases invocation with
  | buy quantity price fee => exact buy_inRange book quantity price fee
  | sell quantity price fee => exact sell_inRange positive quantity price fee

/-! ## Sessions -/

/-- What every session satisfies: the lots hold what was bought and not sold,
and their basis is the cost of the trades and the profit taken out of it. -/
structure Balanced (session : Session) : Prop where
  positive : Positive session.book.lots
  position : held session.book.lots = session.totals.bought - session.totals.sold
  basis : FifoLotBook.basis session.book.lots =
    session.totals.cost - session.totals.proceeds + session.book.realized
  readable : ∃ taken, session.book.snapshot = .ok taken

theorem Balanced.buy {session : Session} (balanced : Balanced session)
    {quantity price fee : DecimalInput} {next : FifoLotBook} {taken : BasisSnapshot}
    (bought : session.book.buy quantity price fee = .ok (next, taken)) :
    Balanced ⟨next, session.totals.record (.buy quantity price fee)⟩ := by
  simp only [FifoLotBook.buy, bind_eq_ok, pure_eq_ok, Prod.mk.injEq] at bought
  obtain ⟨trade, parsed, product, multiplied, value, first, charge, second, totalCost, added,
    shown, read, rfl, rfl⟩ := bought
  obtain ⟨positive, admitted⟩ := terms_eq_ok parsed
  have cost : totalCost = trade.quantity.toRat * trade.price.toRat + trade.fee.toRat := by
    rw [fractionAdd_eq added, fraction_eq first, fraction_eq second,
      exactDecimalMultiply_toRat multiplied]
  simp only [Totals.record, admitted]
  constructor
  · intro lot member
    rcases List.mem_append.mp member with old | new
    · exact balanced.positive lot old
    · rw [List.mem_singleton.mp new]
      exact positive
  · have before := balanced.position
    simp only [held, List.map_append, List.sum_append, List.map_cons, List.map_nil,
      List.sum_singleton] at before ⊢
    rw [before]
    ring
  · have before := balanced.basis
    simp only [FifoLotBook.basis, List.map_append, List.sum_append, List.map_cons, List.map_nil,
      List.sum_singleton] at before ⊢
    rw [before, cost]
    ring
  · exact ⟨shown, read⟩

theorem Balanced.sell {session : Session} (balanced : Balanced session)
    {quantity price fee : DecimalInput} {next : FifoLotBook} {taken : BasisSnapshot}
    (sold : session.book.sell quantity price fee = .ok (next, taken)) :
    Balanced ⟨next, session.totals.record (.sell quantity price fee)⟩ := by
  simp only [FifoLotBook.sell, bind_eq_ok, guard_eq_ok, pure_eq_ok, Prod.mk.injEq,
    Prod.exists] at sold
  obtain ⟨trade, parsed, current, -, -, removed, left, consumed, product, multiplied, value,
    first, charge, second, netProceeds, net, gain, gained, newRealized, added, shown, read,
    rfl, rfl⟩ := sold
  obtain ⟨positive, admitted⟩ := terms_eq_ok parsed
  obtain ⟨positiveLeft, quantityLeft, basisLeft⟩ :=
    consume_consumed balanced.positive (le_of_lt positive) consumed
  have profit : newRealized = session.book.realized +
      (trade.quantity.toRat * trade.price.toRat - trade.fee.toRat - removed) := by
    rw [fractionAdd_eq added, fractionSubtract_eq gained, fractionSubtract_eq net,
      fraction_eq first, fraction_eq second, exactDecimalMultiply_toRat multiplied]
  simp only [Totals.record, admitted]
  constructor
  · exact positiveLeft
  · have before := balanced.position
    simp only at quantityLeft ⊢
    rw [quantityLeft, before]
    ring
  · have before := balanced.basis
    simp only at basisLeft ⊢
    rw [profit]
    linarith
  · exact ⟨shown, read⟩

theorem Balanced.trade {session : Session} (balanced : Balanced session)
    {invocation : TradeCall} {next : FifoLotBook} {taken : BasisSnapshot}
    (traded : session.book.trade invocation = .ok (next, taken)) :
    Balanced ⟨next, session.totals.record invocation⟩ := by
  cases invocation with
  | buy quantity price fee => exact balanced.buy traded
  | sell quantity price fee => exact balanced.sell traded

theorem Balanced.step {session : Session} (balanced : Balanced session)
    (invocation : TradeCall) : Balanced (session.step invocation) := by
  rw [Session.step, call]
  cases traded : session.book.trade invocation with
  | error error => exact balanced
  | ok result => exact balanced.trade traded

theorem run_balanced (calls : List TradeCall) : Balanced (Session.run calls) := by
  refine List.foldlRecOn (motive := Balanced) calls Session.step ?_ ?_
  · constructor
    · exact fun lot member => absurd member List.not_mem_nil
    · simp [Session.empty]
    · simp [Session.empty]
    · exact ⟨⟨0, .decimal 0, .decimal 0⟩, by decide +kernel⟩
  · intro session balanced invocation _
    exact balanced.step invocation

/-- In every book reached by `buy` and `sell` calls, returning or raising, each
lot holds a positive quantity; the snapshot returns, its position is what was
bought less what was sold and is never negative, and its open basis is the cost
of the buys less the proceeds of the sells plus the realized profit.  A call
that raises changes nothing, and none reads a lot beyond the end of the list. -/
theorem fifo_conserved (calls : List TradeCall) :
    Positive (Session.run calls).book.lots ∧
    (∃ taken, (Session.run calls).book.snapshot = .ok taken ∧
      taken.position.toRat =
        (Session.run calls).totals.bought - (Session.run calls).totals.sold ∧
      0 ≤ taken.position ∧
      taken.openBasis.toRat =
        (Session.run calls).totals.cost - (Session.run calls).totals.proceeds +
          taken.realizedPnl.toRat) ∧
    ∀ invocation error, ((Session.run calls).book.call invocation).2 = .error error →
      ((Session.run calls).book.call invocation).1 = (Session.run calls).book ∧
        error ≠ .indexError := by
  obtain ⟨positive, position, total, taken, read⟩ := run_balanced calls
  obtain ⟨shownPosition, shownBasis, shownGain⟩ := snapshotFor_toRat read
  refine ⟨positive, ⟨taken, read, ?_, ?_, ?_⟩, ?_⟩
  · rw [shownPosition, position]
  · rw [Decimal.le_def, shownPosition]
    exact positive.held_nonneg
  · rw [shownBasis, shownGain, total]
  · intro invocation error raised
    have inRange := trade_inRange positive invocation
    rw [call] at raised ⊢
    cases traded : (Session.run calls).book.trade invocation with
    | error other =>
        rw [traded] at raised inRange
        cases raised
        exact ⟨rfl, fun same => inRange (congrArg Except.error same)⟩
    | ok result =>
        rw [traded] at raised
        cases raised

end FifoLotBook

end AutoTrade.Accounting
