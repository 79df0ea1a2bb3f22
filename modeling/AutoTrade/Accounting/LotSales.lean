import AutoTrade.Accounting.LotBook
import AutoTrade.Lib.Inventory
import AutoTrade.Numeric.Exactness

/-!
# Consecutive sales from a lot book

The loop of `sell` takes an amount out of an inventory of lots.  Two sales at one
price therefore leave the lots and the profit of one sale of both quantities, where
no exact operation leaves the resource envelope.
-/

namespace AutoTrade.Accounting.FifoLotBook

open Lib Numeric

/-- A lot as its quantity with its worth. -/
def Lot.pair (lot : Lot) : ℚ × ℚ := (lot.quantity.toRat, lot.totalBasis)

theorem pair_injective : Function.Injective Lot.pair := by
  intro left right equal
  cases left
  cases right
  simp only [Lot.pair, Prod.mk.injEq] at equal
  rw [Decimal.ext equal.1, equal.2]

theorem splitLot_pair {lot leftover : Lot} {taken : Decimal} {takenBasis : ℚ}
    (success : splitLot lot taken = .ok (takenBasis, leftover)) :
    Lot.pair leftover = (lot.quantity.toRat - taken.toRat,
      lot.totalBasis - lot.totalBasis * (taken.toRat / lot.quantity.toRat)) := by
  simp only [splitLot, bind_eq_ok, pure_eq_ok, Prod.mk.injEq] at success
  obtain ⟨part, partEq, unit, unitEq, share, shareEq, partBasis, partBasisEq, quantity, left,
    rest, subtracted, -, rfl⟩ := success
  rw [Lot.pair, exactDecimalSubtract_toRat left, fractionSubtract_eq subtracted,
    fractionMultiply_eq partBasisEq, fractionMultiply_eq shareEq, fraction_eq partEq,
    fraction_eq unitEq, mul_one_div]

/-- The loop of `sell` takes the quantity out of the lots. -/
theorem consume_takeOut {remaining : Decimal} {removedBasis removed : ℚ}
    {lots left : List Lot} (success : consume remaining removedBasis lots = .ok (removed, left)) :
    left.map Lot.pair = Inventory.takeOut remaining.toRat (lots.map Lot.pair) := by
  fun_induction consume remaining removedBasis lots with
  | case1 => cases success
  | case2 => cases success
  | case3 => cases success
  | case4 remaining removedBasis pending lot rest whole sum added next sold ih =>
      obtain ⟨-, bound⟩ := takenFrom_le remaining lot
      rw [whole] at bound
      rw [ih success, exactDecimalSubtract_toRat sold, whole, List.map_cons]
      exact (Inventory.takeOut_whole _ _ pending bound).symm
  | case5 => cases success
  | case6 => cases success
  | case7 => cases success
  | case8 remaining removedBasis pending lot rest partial_ takenBasis leftover divided sum added
      next sold ih =>
      obtain ⟨within, -⟩ := takenFrom_le remaining lot
      have all := takenFrom_eq partial_
      have short : remaining.toRat < lot.quantity.toRat := by
        rw [all] at within
        exact lt_of_le_of_ne within fun same => partial_ (all.trans (Decimal.ext same))
      have finished := exactDecimalSubtract_toRat sold
      rw [all, sub_self] at finished
      rw [ih success, finished, Inventory.takeOut_of_nonpos le_rfl, List.map_cons, List.map_cons,
        splitLot_pair divided, all]
      exact (Inventory.takeOut_part _ _ pending short).symm
  | case9 remaining removedBasis lots finished =>
      cases success
      exact (Inventory.takeOut_of_nonpos (not_lt.mp finished) _).symm

/-! ## One sale -/

/-- The lots and the profit that a sale leaves. -/
structure Sold (book next : FifoLotBook) (quantity price fee : Decimal) : Prop where
  positive : Positive next.lots
  holding : held next.lots = held book.lots - quantity.toRat
  lots : next.lots.map Lot.pair = Inventory.takeOut quantity.toRat (book.lots.map Lot.pair)
  realized : next.realized = book.realized + (quantity.toRat * price.toRat - fee.toRat -
    (basis book.lots - basis next.lots))

/-- A sale that returns, in terms of its amounts. -/
theorem sell_sold {book next : FifoLotBook} {quantity price fee : DecimalInput}
    {amount unitPrice charge : Decimal} {taken : BasisSnapshot} (positive : Positive book.lots)
    (quantityEq : decimal quantity = .ok amount) (priceEq : decimal price = .ok unitPrice)
    (feeEq : decimal fee = .ok charge)
    (success : book.sell quantity price fee = .ok (next, taken)) :
    Sold book next amount unitPrice charge ∧
      snapshotFor next.lots next.realized = .ok taken := by
  simp only [sell, terms, quantityEq, priceEq, feeEq, bind_eq_ok, guard_eq_ok, pure_eq_ok,
    ok_bind, Prod.mk.injEq] at success
  obtain ⟨trade, ⟨valid, rfl⟩, current, -, -, ⟨removed, left⟩, consumed, product, productEq,
    value, valueEq, paid, paidEq, net, netEq, gain, gainEq, profit, profitEq, shown, read, rfl,
    rfl⟩ := success
  have nonneg : 0 ≤ amount.toRat := le_of_lt (not_le.mp fun none => valid (.inl none))
  obtain ⟨kept, holding, total⟩ := consume_consumed positive nonneg consumed
  refine ⟨⟨kept, holding, consume_takeOut consumed, ?_⟩, read⟩
  rw [fractionAdd_eq profitEq, fractionSubtract_eq gainEq, fractionSubtract_eq netEq,
    fraction_eq valueEq, fraction_eq paidEq, exactDecimalMultiply_toRat productEq]
  dsimp only
  linarith

/-! ## Two sales -/

/-- Two sales leave what one sale of both quantities leaves. -/
theorem Sold.add {book middle last whole : FifoLotBook} {first second both price fee charge
    fees : Decimal} (positive : Positive book.lots) (firstNonneg : 0 ≤ first.toRat)
    (secondNonneg : 0 ≤ second.toRat) (quantities : both.toRat = first.toRat + second.toRat)
    (charges : fees.toRat = fee.toRat + charge.toRat)
    (firstSold : Sold book middle first price fee)
    (secondSold : Sold middle last second price charge)
    (wholeSold : Sold book whole both price fees) : last = whole := by
  have lots : last.lots = whole.lots := by
    apply (List.map_injective_iff.mpr pair_injective)
    rw [secondSold.lots, firstSold.lots, wholeSold.lots, quantities]
    apply Inventory.takeOut_takeOut _ firstNonneg secondNonneg
    intro lot member
    obtain ⟨stored, listed, rfl⟩ := List.mem_map.mp member
    exact positive stored listed
  have realized : last.realized = whole.realized := by
    rw [secondSold.realized, firstSold.realized, wholeSold.realized, quantities, charges, lots]
    ring
  cases last
  cases whole
  cases lots
  cases realized
  rfl

/-! ## Sales inside the envelope -/

/-- A sale of a positive quantity that the lots hold raises only for the envelope. -/
theorem sell_within {book : FifoLotBook} {quantity price fee : DecimalInput}
    {amount unitPrice charge : Decimal} (positive : Positive book.lots)
    (quantityEq : decimal quantity = .ok amount) (priceEq : decimal price = .ok unitPrice)
    (feeEq : decimal fee = .ok charge) (some_ : 0 < amount) (priced : 0 < unitPrice)
    (charged : 0 ≤ charge) (available : amount.toRat ≤ held book.lots) :
    WithinEnvelope (book.sell quantity price fee) := by
  have valid : ¬ (amount ≤ 0 ∨ unitPrice ≤ 0 ∨ charge < 0) := by
    intro invalid
    rcases invalid with none | unpriced | paid
    · exact absurd some_ (not_lt_of_ge (α := ℚ) none)
    · exact absurd priced (not_lt_of_ge (α := ℚ) unpriced)
    · exact absurd charged (not_le_of_gt (α := ℚ) paid)
  have trade : terms quantity price fee
      "Sell quantity and price must be positive and fee non-negative" =
        .ok ⟨amount, unitPrice, charge⟩ := by
    rw [terms, quantityEq, ok_bind, priceEq, ok_bind, feeEq, ok_bind, if_neg valid]
    rfl
  rw [sell, trade, ok_bind]
  apply (snapshotFor_within _ _).bind
  intro current taken
  have enough : ¬ current.position < amount := by
    rw [Decimal.lt_def, (snapshotFor_toRat taken).1]
    exact not_lt.mpr available
  rw [if_neg enough]
  apply (consume_within positive available).bind
  intro consumed _
  apply (WithinEnvelope.exactly _).bind
  intro product _
  apply (WithinEnvelope.exactly _).bind
  intro value _
  apply (WithinEnvelope.exactly _).bind
  intro paid _
  apply (WithinEnvelope.exactly _).bind
  intro net _
  apply (WithinEnvelope.exactly _).bind
  intro gain _
  apply (WithinEnvelope.exactly _).bind
  intro profit _
  apply (snapshotFor_within _ _).bind
  intro taken _
  exact .ok _

/-- Selling in two steps at one price is selling once.  From every book that trades
have built, two sales of quantities that the position covers, with their fees, and
one sale of the two quantities with the two fees can raise only for the envelope,
and where none of them does they leave the same lots, the same profit and the same
snapshot. -/
theorem fifo_sell_additive (calls : List TradeCall)
    (first second both price firstFee secondFee bothFee : DecimalInput)
    (firstAmount secondAmount bothAmount unitPrice firstCharge secondCharge bothCharge : Decimal)
    (current : BasisSnapshot)
    (firstEq : decimal first = .ok firstAmount) (secondEq : decimal second = .ok secondAmount)
    (bothEq : decimal both = .ok bothAmount) (priceEq : decimal price = .ok unitPrice)
    (firstFeeEq : decimal firstFee = .ok firstCharge)
    (secondFeeEq : decimal secondFee = .ok secondCharge)
    (bothFeeEq : decimal bothFee = .ok bothCharge)
    (firstSome : 0 < firstAmount) (secondSome : 0 < secondAmount) (priced : 0 < unitPrice)
    (firstCharged : 0 ≤ firstCharge) (secondCharged : 0 ≤ secondCharge)
    (quantities : bothAmount.toRat = firstAmount.toRat + secondAmount.toRat)
    (charges : bothCharge.toRat = firstCharge.toRat + secondCharge.toRat)
    (taken : (Session.run calls).book.snapshot = .ok current)
    (covered : bothAmount ≤ current.position) :
    WithinEnvelope ((Session.run calls).book.sell both price bothFee) ∧
    WithinEnvelope ((Session.run calls).book.sell first price firstFee) ∧
    ∀ middle shown, (Session.run calls).book.sell first price firstFee = .ok (middle, shown) →
      WithinEnvelope (middle.sell second price secondFee) ∧
      ∀ last lastShown whole wholeShown,
        middle.sell second price secondFee = .ok (last, lastShown) →
        (Session.run calls).book.sell both price bothFee = .ok (whole, wholeShown) →
        last = whole ∧ lastShown = wholeShown := by
  have positive := (run_balanced calls).positive
  have position : bothAmount.toRat ≤ held (Session.run calls).book.lots := by
    rw [← (snapshotFor_toRat taken).1]
    exact covered
  have firstPositive : 0 < firstAmount.toRat := firstSome
  have secondPositive : 0 < secondAmount.toRat := secondSome
  have bothSome : 0 < bothAmount := by
    rw [Decimal.lt_def, quantities]
    exact add_pos firstPositive secondPositive
  have bothCharged : 0 ≤ bothCharge := by
    show (0 : ℚ) ≤ bothCharge.toRat
    rw [charges]
    exact add_nonneg firstCharged secondCharged
  constructor
  · exact sell_within positive bothEq priceEq bothFeeEq bothSome priced bothCharged position
  constructor
  · exact sell_within positive firstEq priceEq firstFeeEq firstSome priced firstCharged
      (by linarith)
  intro middle shown soldFirst
  obtain ⟨partial_, -⟩ := sell_sold positive firstEq priceEq firstFeeEq soldFirst
  constructor
  · apply sell_within partial_.positive secondEq priceEq secondFeeEq secondSome priced
      secondCharged
    rw [partial_.holding]
    linarith
  intro last lastShown whole wholeShown soldSecond soldBoth
  obtain ⟨rest, lastRead⟩ := sell_sold partial_.positive secondEq priceEq secondFeeEq soldSecond
  obtain ⟨all, wholeRead⟩ := sell_sold positive bothEq priceEq bothFeeEq soldBoth
  have same := partial_.add positive firstPositive.le secondPositive.le quantities charges rest all
  constructor
  · exact same
  · rw [same, wholeRead] at lastRead
    exact (Except.ok.inj lastRead).symm

/-! ## A book of two lots -/

/-- Three units bought at 1, two at 2 with a fee of 1. -/
def twoLots : List TradeCall :=
  [.buy (.int 3) (.int 1) (.int 0), .buy (.int 2) (.int 2) (.int 1)]

/-- Two units and then two more, at 3 with a fee of 1 each: the first sale ends
inside the first lot, the second inside the second. -/
theorem twoLots_sold :
    WithinEnvelope ((Session.run twoLots).book.sell (.int 4) (.int 3) (.int 2)) ∧
    WithinEnvelope ((Session.run twoLots).book.sell (.int 2) (.int 3) (.int 1)) ∧
    ∀ middle shown,
      (Session.run twoLots).book.sell (.int 2) (.int 3) (.int 1) = .ok (middle, shown) →
      WithinEnvelope (middle.sell (.int 2) (.int 3) (.int 1)) ∧
      ∀ last lastShown whole wholeShown,
        middle.sell (.int 2) (.int 3) (.int 1) = .ok (last, lastShown) →
        (Session.run twoLots).book.sell (.int 4) (.int 3) (.int 2) = .ok (whole, wholeShown) →
        last = whole ∧ lastShown = wholeShown := by
  apply fifo_sell_additive twoLots (.int 2) (.int 2) (.int 4) (.int 3) (.int 1) (.int 1) (.int 2)
    (.whole 2 (by decide)) (.whole 2 (by decide)) (.whole 4 (by decide)) (.whole 3 (by decide))
    (.whole 1 (by decide)) (.whole 1 (by decide)) (.whole 2 (by decide))
    ⟨.whole 5 (by decide), .decimal (.whole 8 (by decide)), .decimal 0⟩
  all_goals decide +kernel

example : ((Session.run twoLots).book.sell (.int 4) (.int 3) (.int 2)).map
    (fun sold => (sold.1.lots.map Lot.totalBasis, sold.1.realized)) = .ok ([5 / 2], 9 / 2) := by
  decide +kernel

end AutoTrade.Accounting.FifoLotBook
