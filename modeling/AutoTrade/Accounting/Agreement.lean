import AutoTrade.Accounting.Position
import Mathlib.Tactic.Ring

/-!
# Projected and posted positions

The quantity `project_equity_position` returns is the sum of the position
changes of the active transactions.  It differs from `EconomicBook.position`
by what reinstating reversals post.
-/

namespace AutoTrade.Accounting

open Lib Numeric

/-! ## Exact results -/

theorem exactAddition_eq_ok {left right result : Decimal} {conflict : Bool} :
    exactAddition left right conflict = .ok result ↔
      result.toRat = left.toRat + right.toRat := by
  rw [exactAddition, mapError_eq_ok, exactAdd_eq_ok]

theorem exactDifference_eq_ok {left right result : Decimal} {conflict : Bool} :
    exactDifference left right conflict = .ok result ↔
      result.toRat = left.toRat - right.toRat := by
  rw [exactDifference, mapError_eq_ok, exactSubtract_eq_ok]

theorem exactAbsolute_eq_ok {value result : Decimal} {conflict : Bool} :
    exactAbsolute value conflict = .ok result ↔ result.toRat = |value.toRat| := by
  rw [exactAbsolute, mapError_eq_ok, exactAbs, terminatingDecimal_eq_ok]

theorem exactRatioProduct_toRat {value numerator denominator result : Decimal}
    {message : String}
    (success : exactRatioProduct value numerator denominator message = .ok result) :
    result.toRat = value.toRat * numerator.toRat / denominator.toRat := by
  rw [exactRatioProduct, guard_eq_ok, exactRational, mapError_eq_ok,
    validate_terminating_eq_ok] at success
  exact success.2

/-! ## FIFO replay -/

/-- Quantity the open lots hold. -/
def heldQuantity (lots : List EquityLot) : ℚ :=
  (lots.map fun lot => lot.quantity.toRat).sum

@[simp] theorem heldQuantity_nil : heldQuantity [] = 0 := rfl

@[simp] theorem heldQuantity_cons (lot : EquityLot) (rest : List EquityLot) :
    heldQuantity (lot :: rest) = lot.quantity.toRat + heldQuantity rest := by
  simp [heldQuantity]

@[simp] theorem heldQuantity_append (left right : List EquityLot) :
    heldQuantity (left ++ right) = heldQuantity left + heldQuantity right := by
  simp [heldQuantity]

theorem totalQuantity_toRat {lots : List EquityLot} {total : Decimal}
    (success : totalQuantity lots = .ok total) : total.toRat = heldQuantity lots := by
  rw [exactTotal_toRat success, heldQuantity, List.map_map]
  rfl

/-- What one iteration of the closing loop computes. -/
theorem closeLot_spec {unitPrice remaining realized : Decimal} {lot : EquityLot}
    {closing : Closing} (success : closeLot unitPrice lot remaining realized = .ok closing) :
    let closed := min |lot.quantity.toRat| |remaining.toRat|
    (0 < lot.quantity ∧ closing.lotQuantity.toRat = lot.quantity.toRat - closed ∧
        closing.remaining.toRat = remaining.toRat + closed) ∨
      (¬ 0 < lot.quantity ∧ closing.lotQuantity.toRat = lot.quantity.toRat + closed ∧
        closing.remaining.toRat = remaining.toRat - closed) := by
  rw [closeLot, bind_eq_ok] at success
  obtain ⟨remainingSize, remainingAbs, success⟩ := success
  rw [bind_eq_ok] at success
  obtain ⟨lotSize, lotAbs, success⟩ := success
  rw [exactAbsolute_eq_ok] at remainingAbs lotAbs
  have closed : (if lotSize < remainingSize then lotSize else remainingSize).toRat =
      min |lot.quantity.toRat| |remaining.toRat| := by
    rw [← lotAbs, ← remainingAbs]
    split
    next smaller => exact (min_eq_left (le_of_lt (Decimal.lt_def.mp smaller))).symm
    next larger => exact (min_eq_right (not_lt.mp (fun less => larger
        (Decimal.lt_def.mpr less)))).symm
  generalize (if lotSize < remainingSize then lotSize else remainingSize) = closeQuantity
    at closed success
  by_cases long : 0 < lot.quantity
  · left
    simp only [if_pos long, bind_eq_ok, pure_eq_ok] at success
    obtain ⟨_, _, _, _, _, _, lotQuantity, lotEq, rest, restEq, rfl⟩ := success
    rw [exactDifference_eq_ok, closed] at lotEq
    rw [exactAddition_eq_ok, closed] at restEq
    exact ⟨long, lotEq, restEq⟩
  · right
    simp only [if_neg long, bind_eq_ok, pure_eq_ok] at success
    obtain ⟨_, _, _, _, _, _, lotQuantity, lotEq, rest, restEq, rfl⟩ := success
    rw [exactAddition_eq_ok, closed] at lotEq
    rw [exactDifference_eq_ok, closed] at restEq
    exact ⟨long, lotEq, restEq⟩

theorem closeLot_conserves {unitPrice remaining realized : Decimal} {lot : EquityLot}
    {closing : Closing} (success : closeLot unitPrice lot remaining realized = .ok closing) :
    closing.lotQuantity.toRat + closing.remaining.toRat =
      lot.quantity.toRat + remaining.toRat := by
  rcases closeLot_spec success with ⟨_, lotEq, restEq⟩ | ⟨_, lotEq, restEq⟩
  · rw [lotEq, restEq]
    ring
  · rw [lotEq, restEq]
    ring

theorem closeLots_conserves {unitPrice : Decimal} {lots kept : List EquityLot}
    {remaining realized rest profit : Decimal}
    (success : closeLots unitPrice lots remaining realized = .ok (kept, rest, profit)) :
    heldQuantity kept + rest.toRat = heldQuantity lots + remaining.toRat := by
  induction lots generalizing remaining realized with
  | nil =>
      cases success
      rfl
  | cons lot others ih =>
      rw [closeLots] at success
      split at success
      next => 
        cases success
        rfl
      next =>
        rw [bind_eq_ok] at success
        obtain ⟨closing, closed, success⟩ := success
        have conserved := closeLot_conserves closed
        split at success
        next empty =>
          rw [ih success, heldQuantity_cons]
          rw [empty, Decimal.toRat_zero, zero_add] at conserved
          rw [conserved]
          ring
        next =>
          cases success
          rw [heldQuantity_cons, heldQuantity_cons, add_right_comm, conserved]
          ring

theorem applyFill_conserves {holding next : Holding} {transactionId : String}
    {quantity unitPrice : Decimal}
    (success : applyFill holding transactionId quantity unitPrice = .ok next) :
    heldQuantity next.lots = heldQuantity holding.lots + quantity.toRat := by
  rw [applyFill, bind_eq_ok] at success
  obtain ⟨⟨lots, remaining, realized⟩, loop, success⟩ := success
  rw [← closeLots_conserves loop]
  simp only at success
  split at success
  next empty =>
    cases success
    rw [empty, Decimal.toRat_zero, add_zero]
  next =>
    cases success
    simp

theorem splitLots_scale {numerator denominator : Decimal} {lots scaled : List EquityLot}
    (success : lots.mapM (splitLot numerator denominator) = .ok scaled) :
    heldQuantity scaled = heldQuantity lots * numerator.toRat / denominator.toRat := by
  have pairs := mapM_eq_ok.mp success
  induction pairs with
  | nil => simp
  | @cons lot next lots rest first tail ih =>
      rw [splitLot, bind_eq_ok] at first
      obtain ⟨quantity, scaledQuantity, first⟩ := first
      rw [bind_eq_ok] at first
      obtain ⟨unitPrice, _, first⟩ := first
      cases first
      rw [heldQuantity_cons, heldQuantity_cons, ih (mapM_eq_ok.mpr tail),
        exactRatioProduct_toRat scaledQuantity]
      ring

theorem applySplit_conserves {holding next : Holding} {delta numerator denominator : Decimal}
    (success : applySplit holding delta numerator denominator = .ok next) :
    heldQuantity next.lots = heldQuantity holding.lots + delta.toRat := by
  rw [applySplit, bind_eq_ok] at success
  obtain ⟨current, total, success⟩ := success
  rw [guard_eq_ok, bind_eq_ok] at success
  obtain ⟨_, projected, ratio, success⟩ := success
  rw [bind_eq_ok] at success
  obtain ⟨change, difference, success⟩ := success
  rw [guard_eq_ok, not_not, bind_eq_ok] at success
  obtain ⟨rfl, lots, scaled, success⟩ := success
  cases success
  rw [exactDifference_eq_ok.mp difference, exactRatioProduct_toRat ratio,
    totalQuantity_toRat total, splitLots_scale scaled]
  ring

theorem applyEvent_conserves {holding next : Holding} {event : PositionEvent}
    (success : applyEvent holding event = .ok next) :
    heldQuantity next.lots = heldQuantity holding.lots + event.terms.change.toRat := by
  rw [applyEvent] at success
  cases terms : event.terms with
  | split delta numerator denominator =>
      rw [terms] at success
      exact applySplit_conserves success
  | fill quantity unitPrice =>
      rw [terms] at success
      exact applyFill_conserves success

/-- The replayed lots hold the sum of the position changes. -/
theorem replay_conserves {events : List PositionEvent} {holding final : Holding}
    (success : events.foldlM applyEvent holding = .ok final) :
    heldQuantity final.lots =
      heldQuantity holding.lots + (events.map fun event => event.terms.change.toRat).sum := by
  induction events generalizing holding with
  | nil =>
      cases success
      simp
  | cons event rest ih =>
      rw [List.foldlM_cons, bind_eq_ok] at success
      obtain ⟨next, step, tail⟩ := success
      rw [ih tail, applyEvent_conserves step, List.map_cons, List.sum_cons]
      ring

/-! ## Position events -/

theorem orderEvents_perm {corrected : Bool} {events ordered : List PositionEvent}
    (success : orderEvents corrected events = .ok ordered) : ordered.Perm events := by
  rw [orderEvents] at success
  split at success
  next =>
    rw [bind_eq_ok] at success
    obtain ⟨_, _, success⟩ := success
    rw [guard_eq_ok, pure_eq_ok] at success
    rw [← success.2]
    exact List.perm_insertionSort _ events
  next =>
    cases success
    exact List.Perm.refl _

theorem checkFill_quantity {transaction : JournalTransaction} {symbol settlement : String}
    {quantity projected unitPrice : Decimal}
    (success : checkFill transaction symbol settlement quantity = .ok (projected, unitPrice)) :
    projected = quantity := by
  rw [checkFill] at success
  split at success
  next => cases success
  next =>
    split at success
    next =>
      simp only [bind_eq_ok] at success
      obtain ⟨_, _, success⟩ := success
      split at success
      next => cases success
      next =>
        simp only [bind_eq_ok] at success
        obtain ⟨_, _, _, _, _, _, _, _, _, _, _, _, success⟩ := success
        split at success
        next => cases success
        next =>
          cases success
          rfl
    next => cases success

theorem postedTo_singleton {account asset : String} {transaction : JournalTransaction}
    {item : Posting} (only : postingsTo transaction account asset = [item]) :
    postedTo account asset transaction = item.signedAmount.toRat := by
  rw [postingsTo] at only
  rw [postedTo, postedSum, only]
  simp

/-- The shape of a transaction that books a split. -/
theorem splitTerms_eq_some {transaction : JournalTransaction} {symbol : String}
    {delta numerator denominator : Decimal} :
    canonicalEquitySplitTerms transaction symbol =
        .ok (some (delta, numerator, denominator)) ↔
      ∃ clearing position, (transaction.postings.filter fun item =>
          ("CORPORATE_ACTION_SPLIT_CLEARING:" ++ symbol ++ ":").toList.isPrefixOf
            item.ledgerAccount.toList ∧ item.assetOrCurrency = symbol) = [clearing] ∧
        postingsTo transaction ("POSITION:" ++ symbol) symbol = [position] ∧
        transaction.postings.length = 2 ∧ position.signedAmount ≠ 0 ∧
        exactNegate position.signedAmount true = .ok clearing.signedAmount ∧
        splitRatio (clearing.ledgerAccount.toList.drop
          ("CORPORATE_ACTION_SPLIT_CLEARING:" ++ symbol ++ ":").toList.length) =
            .ok (numerator, denominator) ∧
        position.signedAmount = delta := by
  simp only [canonicalEquitySplitTerms]
  constructor
  · intro success
    split at success
    next => cases success
    next clearing marked =>
      split at success
      next position only =>
        rw [throw_unless_eq_ok, not_not] at success
        obtain ⟨both, success⟩ := success
        rw [throw_unless_eq_ok, bind_eq_ok] at success
        obtain ⟨nonzero, negated, opposite, success⟩ := success
        rw [throw_unless_eq_ok, not_not, bind_eq_ok] at success
        obtain ⟨rfl, ⟨_, _⟩, ratio, success⟩ := success
        cases success
        exact ⟨clearing, position, marked, only, both, nonzero, opposite, ratio, rfl⟩
      next => cases success
    next => cases success
  · rintro ⟨clearing, position, marked, only, both, nonzero, opposite, ratio, rfl⟩
    rw [marked]
    simp only [only, both, nonzero, opposite, ratio, ne_eq, not_true_eq_false, ↓reduceIte,
      ok_bind]
    rfl

theorem splitTerms_delta {transaction : JournalTransaction} {symbol : String}
    {delta numerator denominator : Decimal}
    (success : canonicalEquitySplitTerms transaction symbol =
      .ok (some (delta, numerator, denominator))) :
    postedTo ("POSITION:" ++ symbol) symbol transaction = delta.toRat := by
  obtain ⟨_, position, _, only, _, _, _, _, rfl⟩ := splitTerms_eq_some.mp success
  exact postedTo_singleton only

theorem fillTerms_quantity {transaction : JournalTransaction} {symbol settlement : String}
    {found : Option (Decimal × Decimal)}
    (success : canonicalEquityFillTerms transaction symbol settlement = .ok found) :
    postedTo ("POSITION:" ++ symbol) symbol transaction =
      (found.map fun terms => terms.1.toRat).getD 0 := by
  rw [canonicalEquityFillTerms, guard_eq_ok] at success
  obtain ⟨_, success⟩ := success
  split at success
  next none =>
    cases success
    rw [postingsTo] at none
    rw [postedTo, postedSum, none]
    rfl
  next item only =>
    rw [postedTo_singleton only]
    cases result : checkFill transaction symbol settlement item.signedAmount with
    | error error =>
        rw [result] at success
        cases success
    | ok terms =>
        rw [result] at success
        cases success
        rw [← checkFill_quantity result]
        rfl
  next => cases success

/-- A position event changes the position by what its transaction posts. -/
theorem positionTerms_change {transaction : JournalTransaction} {symbol settlement : String}
    {terms : Option PositionTerms}
    (success : positionTerms transaction symbol settlement = .ok terms) :
    postedTo ("POSITION:" ++ symbol) symbol transaction =
      (terms.map fun found => found.change.toRat).getD 0 := by
  rw [positionTerms, bind_eq_ok] at success
  obtain ⟨split, splitTerms, success⟩ := success
  cases split with
  | some found =>
      cases success
      exact splitTerms_delta splitTerms
  | none =>
      rw [bind_eq_ok] at success
      obtain ⟨fill, fillTerms, success⟩ := success
      rw [fillTerms_quantity fillTerms]
      cases fill with
      | some found =>
          cases success
          rfl
      | none =>
          cases success
          rfl

/-- The events carry what the active transactions post. -/
theorem positionEvents_change {transactions : List JournalTransaction}
    {symbol settlement : String} {events : List PositionEvent}
    (success : positionEvents transactions symbol settlement = .ok events) :
    (events.map fun event => event.terms.change.toRat).sum =
      selectedSum (postedTo ("POSITION:" ++ symbol) symbol) (isActive transactions)
        transactions := by
  rw [positionEvents, bind_eq_ok] at success
  obtain ⟨found, loop, success⟩ := success
  cases success
  rw [mapM_eq_ok] at loop
  rw [selectedSum]
  generalize transactions.filter (isActive transactions) = chosen at loop
  induction loop with
  | nil => rfl
  | @cons transaction event rest others first tail ih =>
      rw [positionEvent] at first
      cases result : positionTerms transaction symbol settlement with
      | error error =>
          rw [result] at first
          cases first
      | ok terms =>
          rw [result] at first
          have change := positionTerms_change result
          cases terms with
          | none =>
              cases first
              rw [List.map_cons, List.sum_cons, change, ← ih]
              simp
          | some found =>
              cases first
              rw [List.map_cons, List.sum_cons, change, ← ih]
              simp

/-! ## Agreement -/

/-- The plain sum of the postings to the position account. -/
def postedQuantity (book : EconomicBook) (symbol : String) : ℚ :=
  (book.transactions.map (postedTo ("POSITION:" ++ symbol) symbol)).sum

/-- Quantity that reinstating reversals post to the position account. -/
def reinstatedQuantity (book : EconomicBook) (symbol : String) : ℚ :=
  reinstatedTo ("POSITION:" ++ symbol) symbol book.transactions

theorem position_toRat {book : EconomicBook} {instrument : String} {held : Decimal}
    (success : book.position instrument = .ok held) :
    held.toRat = postedQuantity book (strip instrument) := by
  rw [EconomicBook.position, bind_eq_ok] at success
  obtain ⟨symbol, named, success⟩ := success
  rw [name, guard_eq_ok, Except.ok.injEq] at named
  obtain ⟨nonempty, rfl⟩ := named
  have account : Normal ("POSITION:" ++ strip instrument) :=
    normal_append (by rfl) (by decide) (normal_strip nonempty)
  rw [EconomicBook.balance_toRat success, account.1, strip_strip, postedQuantity]

/-- The projected quantity is the sum over the active transactions. -/
theorem projected_quantity {book : EconomicBook} {instrument settlementCurrency : String}
    {markPrice : Option DecimalInput} {projection : EquityPositionProjection}
    (projected : projectEquityPosition book instrument settlementCurrency markPrice =
      .ok projection) :
    projection.quantity.toRat =
      selectedSum (postedTo ("POSITION:" ++ strip instrument) (strip instrument))
        (isActive book.transactions) book.transactions := by
  simp only [projectEquityPosition, bind_eq_ok, pure_eq_ok] at projected
  obtain ⟨symbol, named, settlement, _, mark, _, corrections, _, events, found, ordered,
    sorted, holding, replayed, quantity, total, _, _, _, _, _, _, rfl⟩ := projected
  rw [name, guard_eq_ok, Except.ok.injEq] at named
  obtain ⟨_, rfl⟩ := named
  rw [totalQuantity_toRat total, replay_conserves replayed, heldQuantity_nil, zero_add,
    ← positionEvents_change found]
  exact ((orderEvents_perm sorted).map _).sum_eq

/-- A projection that returns agrees with the plain sum of the position
postings, and so with `position`, exactly when the reinstating reversals post a
net quantity of zero. -/
theorem projected_position_iff {book : EconomicBook} {instrument settlementCurrency : String}
    {markPrice : Option DecimalInput} {projection : EquityPositionProjection}
    (reachable : book.Reachable)
    (projected : projectEquityPosition book instrument settlementCurrency markPrice =
      .ok projection) :
    (projection.quantity.toRat = postedQuantity book (strip instrument) ↔
      reinstatedQuantity book (strip instrument) = 0) ∧
    ∀ held, book.position instrument = .ok held →
      (projection.quantity = held ↔ reinstatedQuantity book (strip instrument) = 0) := by
  have agreement : projection.quantity.toRat = postedQuantity book (strip instrument) ↔
      reinstatedQuantity book (strip instrument) = 0 := by
    rw [projected_quantity projected, postedQuantity, reachable.lineage.posted_eq,
      reinstatedQuantity, left_eq_add]
  constructor
  · exact agreement
  · intro held position
    rw [← agreement, ← position_toRat position]
    exact ⟨congrArg Decimal.toRat, Decimal.ext⟩

section Sample

/-- A canonical fill, or the reversal of one, at effective time zero. -/
def sampleFill (id : String) (quantity cash : Int) (reverses : Option String)
    (orderKey : String) (observed : Int) (corrects : Option String) : TransactionInput where
  transactionId := id
  causeEventId := id
  postings := [⟨"POSITION:ABC", "ABC", .int quantity⟩,
    ⟨"CLEARING:ABC", "ABC", .int (-quantity)⟩,
    ⟨"CASH:USD", "USD", .int cash⟩, ⟨"CLEARING:USD", "USD", .int (-cash)⟩]
  reversesTransactionId := reverses
  economicEffectiveAt := some (.at ⟨0⟩)
  economicOrderKey := some orderKey
  observedAt := some (.at ⟨observed⟩)
  correctsTransactionId := corrects

/-- A fill, its reversal and its replacement. -/
def correctedFill : List TransactionInput := [
  sampleFill "buy" 10 (-1000) none "k" 0 none,
  sampleFill "reverse-buy" (-10) 1000 (some "buy") "r" 1 none,
  sampleFill "replace-buy" 5 (-500) none "k" 1 (some "buy")]

/-- A fill whose reversal is itself reversed; both are replaced. -/
def reinstatedFill : List TransactionInput := [
  sampleFill "buy" 10 (-1000) none "k" 0 none,
  sampleFill "reverse-buy" (-10) 1000 (some "buy") "r" 1 none,
  sampleFill "reverse-reversal" 10 (-1000) (some "reverse-buy") "rr" 2 none,
  sampleFill "replace-buy" 5 (-500) none "k" 1 (some "buy"),
  sampleFill "replace-reversal" 3 (-300) none "r" 2 (some "reverse-buy")]

/-- The book and the projection after a batch, with the posted position. -/
def sampleOutcome (batch : List TransactionInput) :
    Except AccountingError (EconomicBook × EquityPositionProjection × Decimal) := do
  let (book, _) ← EconomicBook.empty.appendBatch batch
  let projection ← projectEquityPosition book "ABC" "USD" none
  let held ← book.position "ABC"
  pure (book, projection, held)

theorem sampleOutcome_spec {batch : List TransactionInput}
    {outcome : EconomicBook × EquityPositionProjection × Decimal}
    (success : sampleOutcome batch = .ok outcome) :
    outcome.1.Reachable ∧
      projectEquityPosition outcome.1 "ABC" "USD" none = .ok outcome.2.1 ∧
      outcome.1.position "ABC" = .ok outcome.2.2 := by
  simp only [sampleOutcome, bind_eq_ok, pure_eq_ok] at success
  obtain ⟨⟨final, appended⟩, batched, found, projected, posted, position, equal⟩ := success
  cases equal
  exact ⟨.appendBatch .empty batched, projected, position⟩

def correctedOutcome : EconomicBook × EquityPositionProjection × Decimal :=
  (sampleOutcome correctedFill).toOption.get (by decide +kernel)

def reinstatedOutcome : EconomicBook × EquityPositionProjection × Decimal :=
  (sampleOutcome reinstatedFill).toOption.get (by decide +kernel)

theorem correctedOutcome_spec :
    sampleOutcome correctedFill = .ok correctedOutcome := eq_ok_get _

theorem reinstatedOutcome_spec :
    sampleOutcome reinstatedFill = .ok reinstatedOutcome := eq_ok_get _

/-- A corrected fill is projected with the posted quantity. -/
theorem correctedFill_agrees :
    reinstatedQuantity correctedOutcome.1 (strip "ABC") = 0 ∧
      correctedOutcome.2.1.quantity = correctedOutcome.2.2 := by
  have net : reinstatedQuantity correctedOutcome.1 (strip "ABC") = 0 := by decide +kernel
  obtain ⟨reachable, projected, position⟩ := sampleOutcome_spec correctedOutcome_spec
  exact ⟨net, ((projected_position_iff reachable projected).2 _ position).mpr net⟩

/-- After a reversal of a reversal the projection drops the reinstated fill
that `position` still counts: 8 against 18. -/
theorem reinstatedFill_disagrees :
    ¬ ∀ (book : EconomicBook) (instrument settlementCurrency : String)
      (markPrice : Option DecimalInput) (projection : EquityPositionProjection)
      (held : Decimal), book.Reachable →
      projectEquityPosition book instrument settlementCurrency markPrice = .ok projection →
      book.position instrument = .ok held → projection.quantity = held := by
  intro agreement
  obtain ⟨reachable, projected, position⟩ := sampleOutcome_spec reinstatedOutcome_spec
  have unequal : reinstatedOutcome.2.1.quantity ≠ reinstatedOutcome.2.2 := by decide +kernel
  exact unequal (agreement _ _ _ _ _ _ reachable projected position)

end Sample

end AutoTrade.Accounting
