import AutoTrade.Accounting.ProfitAndLoss
import AutoTrade.Accounting.SingleBooking
import AutoTrade.Accounting.SplitAdjustment
import AutoTrade.Numeric.Quantum

/-!
# Reading booked economics back

The readers `accounting._canonical_equity_fill_terms` and `_canonical_equity_split_terms` undo
`book_equity_fill` and `book_equity_split_adjustment`: the accounts that the writers name by
concatenation are told apart by their marks, and the unit price is the exact quotient of cash
and quantity.
-/

namespace AutoTrade.Accounting

open Lib Numeric

/-! ## Account names -/

/-- Accounts whose marks differ in one character are different. -/
theorem account_ne {left right leftText rightText : String} (index : Nat) {first second : Char}
    (leftMark : left.toList[index]? = some first) (rightMark : right.toList[index]? = some second)
    (different : first ≠ second) : left ++ leftText ≠ right ++ rightText := by
  intro same
  have chars := congrArg (fun account => account.toList[index]?) same
  obtain ⟨leftBound, -⟩ := List.getElem?_eq_some_iff.mp leftMark
  obtain ⟨rightBound, -⟩ := List.getElem?_eq_some_iff.mp rightMark
  simp only [String.toList_append, List.getElem?_append_left leftBound,
    List.getElem?_append_left rightBound, leftMark, rightMark, Option.some.injEq] at chars
  exact different chars

theorem account_injective {mark left right : String} (same : mark ++ left = mark ++ right) :
    left = right := by
  have chars := congrArg String.toList same
  rw [String.toList_append, String.toList_append, List.append_cancel_left_eq] at chars
  exact String.toList_inj.mp chars

theorem clearing_ne_position (left right : String) : "CLEARING:" ++ left ≠ "POSITION:" ++ right :=
  account_ne 0 (by decide : _ = some 'C') (by decide : _ = some 'P') (by decide)

theorem cash_ne_position (left right : String) : "CASH:" ++ left ≠ "POSITION:" ++ right :=
  account_ne 0 (by decide : _ = some 'C') (by decide : _ = some 'P') (by decide)

theorem expense_ne_position (left right : String) :
    "FEE_EXPENSE:" ++ left ≠ "POSITION:" ++ right :=
  account_ne 0 (by decide : _ = some 'F') (by decide : _ = some 'P') (by decide)

theorem cash_ne_clearing (left right : String) : "CASH:" ++ left ≠ "CLEARING:" ++ right :=
  account_ne 1 (by decide : _ = some 'A') (by decide : _ = some 'L') (by decide)

theorem expense_ne_clearing (left right : String) :
    "FEE_EXPENSE:" ++ left ≠ "CLEARING:" ++ right :=
  account_ne 0 (by decide : _ = some 'F') (by decide : _ = some 'C') (by decide)

theorem expense_ne_cash (left right : String) : "FEE_EXPENSE:" ++ left ≠ "CASH:" ++ right :=
  account_ne 0 (by decide : _ = some 'F') (by decide : _ = some 'C') (by decide)

theorem split_ne_position (left right : String) :
    "CORPORATE_ACTION_SPLIT_CLEARING:" ++ left ≠ "POSITION:" ++ right :=
  account_ne 0 (by decide : _ = some 'C') (by decide : _ = some 'P') (by decide)

theorem isPrefixOf_mark (mark text : String) :
    mark.toList.isPrefixOf (mark ++ text).toList = true := by
  rw [String.toList_append, List.isPrefixOf_iff_prefix]
  exact List.prefix_append _ _

theorem isPrefixOf_eq_false {mark account : String} (other : ∀ text, mark ++ text ≠ account) :
    mark.toList.isPrefixOf account.toList = false := by
  rw [Bool.eq_false_iff]
  intro marked
  obtain ⟨text, split⟩ := List.isPrefixOf_iff_prefix.mp marked
  apply other (String.ofList text)
  rw [← String.toList_inj, String.toList_append, String.toList_ofList, split]

/-- A posting of an amount to an account in an asset. -/
structure Posts (item : Posting) (account asset : String) (amount : ℚ) : Prop where
  account : item.ledgerAccount = account
  asset : item.assetOrCurrency = asset
  amount : item.signedAmount.toRat = amount

theorem posts_of_posting {mark asset : String} {first : Char} {amount : Decimal} {item : Posting}
    (start : mark.toList.head? = some first) (kept : isSpace first = false)
    (normal : Normal asset)
    (success : posting (mark ++ asset) asset (.bounded amount) = .ok item) :
    Posts item (mark ++ asset) asset amount.toRat := by
  obtain ⟨account, unit, same⟩ := posting_fields success
  constructor
  · rw [account, (normal_append start kept normal).1]
  · rw [unit, normal.1]
  · rw [same]

/-! ## Fills -/

/-- The sign of the quantity. -/
def Side.sign : Side → ℚ
  | .buy => 1
  | .sell => -1

/-- The legs of a trade. -/
structure TradeLegs (position clearing cash cashClearing : Posting) (symbol settlement : String)
    (quantity unitPrice : ℚ) : Prop where
  position : Posts position ("POSITION:" ++ symbol) symbol quantity
  clearing : Posts clearing ("CLEARING:" ++ symbol) symbol (-quantity)
  cash : Posts cash ("CASH:" ++ settlement) settlement (-(quantity * unitPrice))
  cashClearing : Posts cashClearing ("CLEARING:" ++ settlement) settlement (quantity * unitPrice)

/-- The legs of a fee in a unit. -/
structure FeeLegs (credit expense : Posting) (unit : String) (fee : ℚ) : Prop where
  credit : Posts credit ("CASH:" ++ unit) unit (-fee)
  expense : Posts expense ("FEE_EXPENSE:" ++ unit) unit fee

/-- The unit of a fee. -/
def feeUnit (settlement : String) (feeCurrency : Option String) : String :=
  match feeCurrency with
  | none => settlement
  | some currency => if currency = "" then settlement else currency

theorem tradeLegs_of_postings {symbol settlement : String} {signed opposite paid returned : Decimal}
    {position clearing cash cashClearing : Posting} {unitPrice : ℚ}
    (symbolNormal : Normal symbol) (settlementNormal : Normal settlement)
    (paidEq : paid.toRat = -(signed.toRat * unitPrice))
    (positionEq : posting ("POSITION:" ++ symbol) symbol (.bounded signed) = .ok position)
    (oppositeEq : exactNegate signed false = .ok opposite)
    (clearingEq : posting ("CLEARING:" ++ symbol) symbol (.bounded opposite) = .ok clearing)
    (cashEq : posting ("CASH:" ++ settlement) settlement (.bounded paid) = .ok cash)
    (returnedEq : exactNegate paid false = .ok returned)
    (cashClearingEq : posting ("CLEARING:" ++ settlement) settlement (.bounded returned) =
      .ok cashClearing) :
    TradeLegs position clearing cash cashClearing symbol settlement signed.toRat unitPrice := by
  constructor
  · exact posts_of_posting rfl (by decide) symbolNormal positionEq
  · rw [← exactNegate_eq_ok.mp oppositeEq]
    exact posts_of_posting rfl (by decide) symbolNormal clearingEq
  · rw [← paidEq]
    exact posts_of_posting rfl (by decide) settlementNormal cashEq
  · have amount : signed.toRat * unitPrice = returned.toRat := by
      rw [exactNegate_eq_ok.mp returnedEq, paidEq, neg_neg]
    rw [amount]
    exact posts_of_posting rfl (by decide) settlementNormal cashClearingEq

/-- What the postings of a fill carry for the fee. -/
inductive Charged (settlement : String) (fee : Decimal) (feeCurrency : Option String) :
    List Posting → Prop where
  | free (zero : fee = 0) : Charged settlement fee feeCurrency []
  | charged {credit expense : Posting} (nonzero : fee ≠ 0)
      (present : strip (feeUnit settlement feeCurrency) ≠ "")
      (legs : FeeLegs credit expense (strip (feeUnit settlement feeCurrency)) fee.toRat) :
      Charged settlement fee feeCurrency [credit, expense]

/-- The postings of a fill. -/
theorem equityFillPostings_cases {symbol settlement : String} {side : Side}
    {quantity unitPrice fee : Decimal} {feeCurrency : Option String} {postings : List Posting}
    (symbolNormal : Normal symbol) (settlementNormal : Normal settlement)
    (success : equityFillPostings symbol settlement side quantity unitPrice fee feeCurrency =
      .ok postings) :
    ∃ position clearing cash cashClearing charges,
      TradeLegs position clearing cash cashClearing symbol settlement
        (side.sign * quantity.toRat) unitPrice.toRat ∧
      Charged settlement fee feeCurrency charges ∧
      postings = [position, clearing, cash, cashClearing] ++ charges := by
  have charges {position clearing cash cashClearing : Posting}
      (rest : (if fee = 0 then pure [position, clearing, cash, cashClearing]
        else do
          let unit ← name (feeUnit settlement feeCurrency) "fee_currency"
          let negatedFee ← exactNegate fee false
          let feeCash ← posting ("CASH:" ++ unit) unit (.bounded negatedFee)
          let feeExpense ← posting ("FEE_EXPENSE:" ++ unit) unit (.bounded fee)
          pure ([position, clearing, cash, cashClearing] ++ [feeCash, feeExpense]) :
            Except AccountingError (List Posting)) = .ok postings) :
      ∃ charges, Charged settlement fee feeCurrency charges ∧
        postings = [position, clearing, cash, cashClearing] ++ charges := by
    split at rest
    next zero =>
      rw [pure_eq_ok] at rest
      exact ⟨[], .free zero, by rw [List.append_nil, rest]⟩
    next nonzero =>
      simp only [bind_eq_ok, pure_eq_ok] at rest
      obtain ⟨unit, unitEq, negated, negatedEq, credit, creditEq, expense, expenseEq, rfl⟩ := rest
      obtain ⟨present, rfl⟩ := name_eq_ok.mp unitEq
      refine ⟨_, .charged nonzero present ⟨?_, ?_⟩, rfl⟩
      · rw [← exactNegate_eq_ok.mp negatedEq]
        exact posts_of_posting rfl (by decide) (normal_strip present) creditEq
      · exact posts_of_posting rfl (by decide) (normal_strip present) expenseEq
  cases side with
  | buy =>
      simp only [equityFillPostings, pure_bind, bind_eq_ok] at success
      obtain ⟨value, valueEq, paid, paidEq, position, positionEq, opposite, oppositeEq, clearing,
        clearingEq, cash, cashEq, returned, returnedEq, cashClearing, cashClearingEq,
        rest⟩ := success
      obtain ⟨extra, charged, rfl⟩ := charges rest
      refine ⟨position, clearing, cash, cashClearing, extra, ?_, charged, rfl⟩
      rw [Side.sign, one_mul]
      exact tradeLegs_of_postings symbolNormal settlementNormal
        (by rw [exactNegate_eq_ok.mp paidEq, exactProduct_pair valueEq]) positionEq oppositeEq
        clearingEq cashEq returnedEq cashClearingEq
  | sell =>
      simp only [equityFillPostings, pure_bind, bind_eq_ok] at success
      obtain ⟨signed, signedEq, value, valueEq, position, positionEq, opposite, oppositeEq,
        clearing, clearingEq, cash, cashEq, returned, returnedEq, cashClearing, cashClearingEq,
        rest⟩ := success
      obtain ⟨extra, charged, rfl⟩ := charges rest
      refine ⟨position, clearing, cash, cashClearing, extra, ?_, charged, rfl⟩
      rw [Side.sign, neg_one_mul, ← exactNegate_eq_ok.mp signedEq]
      exact tradeLegs_of_postings symbolNormal settlementNormal
        (by rw [exactNegate_eq_ok.mp signedEq, exactProduct_pair valueEq, neg_mul, neg_neg])
        positionEq oppositeEq clearingEq cashEq returnedEq cashClearingEq

theorem Posts.kept {item : Posting} {account asset : String} {amount : ℚ}
    (posts : Posts item account asset amount) :
    decide (item.ledgerAccount = account ∧ item.assetOrCurrency = asset) = true :=
  decide_eq_true ⟨posts.account, posts.asset⟩

theorem Posts.dropped {item : Posting} {account asset other unit : String} {amount : ℚ}
    (posts : Posts item account asset amount) (different : account ≠ other) :
    decide (item.ledgerAccount = other ∧ item.assetOrCurrency = unit) = false :=
  decide_eq_false fun both => different (posts.account.symm.trans both.1)

section Legs

variable {symbol settlement : String} {quantity unitPrice : ℚ} {fee : Decimal}
  {feeCurrency : Option String} {transaction : JournalTransaction}
  {position clearing cash cashClearing : Posting} {charges : List Posting}

/-- The postings of a fee are to none of the accounts of the trade. -/
theorem Charged.dropped (charged : Charged settlement fee feeCurrency charges)
    {mark text unit : String} (notCash : ∀ asset, "CASH:" ++ asset ≠ mark ++ text)
    (notExpense : ∀ asset, "FEE_EXPENSE:" ++ asset ≠ mark ++ text) :
    (charges.filter fun item => item.ledgerAccount = mark ++ text ∧
      item.assetOrCurrency = unit) = [] := by
  cases charged with
  | free zero => rfl
  | charged nonzero present legs =>
      rw [List.filter_cons, legs.credit.dropped (notCash _), List.filter_cons,
        legs.expense.dropped (notExpense _)]
      rfl

/-- The readers find the legs of the trade. -/
theorem TradeLegs.found
    (legs : TradeLegs position clearing cash cashClearing symbol settlement quantity unitPrice)
    (charged : Charged settlement fee feeCurrency charges) (distinct : symbol ≠ settlement)
    (posted : transaction.postings = [position, clearing, cash, cashClearing] ++ charges) :
    postingsTo transaction ("POSITION:" ++ symbol) symbol = [position] ∧
      postingsTo transaction ("CLEARING:" ++ symbol) symbol = [clearing] ∧
        postingsTo transaction ("CLEARING:" ++ settlement) settlement = [cashClearing] := by
  have others : "CLEARING:" ++ settlement ≠ "CLEARING:" ++ symbol :=
    fun same => distinct (account_injective same).symm
  refine ⟨?_, ?_, ?_⟩
  · rw [postingsTo, posted, List.filter_append, charged.dropped
      (fun asset => cash_ne_position asset symbol) (fun asset => expense_ne_position asset symbol)]
    simp only [List.filter_cons, legs.position.kept,
      legs.clearing.dropped (clearing_ne_position symbol symbol),
      legs.cash.dropped (cash_ne_position settlement symbol),
      legs.cashClearing.dropped (clearing_ne_position settlement symbol)]
    rfl
  · rw [postingsTo, posted, List.filter_append, charged.dropped
      (fun asset => cash_ne_clearing asset symbol) (fun asset => expense_ne_clearing asset symbol)]
    simp only [List.filter_cons, legs.clearing.kept,
      legs.position.dropped (clearing_ne_position symbol symbol).symm,
      legs.cash.dropped (cash_ne_clearing settlement symbol), legs.cashClearing.dropped others]
    rfl
  · rw [postingsTo, posted, List.filter_append, charged.dropped
      (fun asset => cash_ne_clearing asset settlement)
      (fun asset => expense_ne_clearing asset settlement)]
    simp only [List.filter_cons, legs.cashClearing.kept,
      legs.position.dropped (clearing_ne_position settlement symbol).symm,
      legs.cash.dropped (cash_ne_clearing settlement settlement),
      legs.clearing.dropped others.symm]
    rfl

/-- What the reader makes of the fee currency. -/
def readFeeCurrency (settlement : String) (fee : Decimal) (feeCurrency : Option String) :
    Option String :=
  if fee = 0 then none else some (strip (feeUnit settlement feeCurrency))

/-- The reader finds the fee. -/
theorem TradeLegs.feeTerms
    (legs : TradeLegs position clearing cash cashClearing symbol settlement quantity unitPrice)
    (charged : Charged settlement fee feeCurrency charges)
    (posted : transaction.postings = [position, clearing, cash, cashClearing] ++ charges) :
    feeTerms transaction = .ok (fee, readFeeCurrency settlement fee feeCurrency) := by
  have trade : ([position, clearing, cash, cashClearing].filter fun item =>
      "FEE_EXPENSE:".toList.isPrefixOf item.ledgerAccount.toList) = [] := by
    rw [List.filter_eq_nil_iff]
    intro item member
    rw [Bool.not_eq_true]
    simp only [List.mem_cons, List.not_mem_nil, or_false] at member
    rcases member with rfl | rfl | rfl | rfl
    · rw [legs.position.account]
      exact isPrefixOf_eq_false fun text => expense_ne_position text symbol
    · rw [legs.clearing.account]
      exact isPrefixOf_eq_false fun text => expense_ne_clearing text symbol
    · rw [legs.cash.account]
      exact isPrefixOf_eq_false fun text => expense_ne_cash text settlement
    · rw [legs.cashClearing.account]
      exact isPrefixOf_eq_false fun text => expense_ne_clearing text settlement
  rw [Accounting.feeTerms, posted, List.filter_append, trade, List.nil_append]
  cases charged with
  | free zero =>
      rw [readFeeCurrency, if_pos zero, zero]
      rfl
  | charged nonzero present fees =>
      rename_i credit expense
      have amount : expense.signedAmount = fee := Decimal.ext fees.expense.amount
      have creditOther : "FEE_EXPENSE:".toList.isPrefixOf credit.ledgerAccount.toList = false := by
        rw [fees.credit.account]
        exact isPrefixOf_eq_false fun text => expense_ne_cash text _
      have expenseMarked : "FEE_EXPENSE:".toList.isPrefixOf expense.ledgerAccount.toList = true := by
        rw [fees.expense.account]
        exact isPrefixOf_mark _ _
      rw [List.filter_cons, creditOther, List.filter_cons, expenseMarked]
      simp only [Bool.false_eq_true, if_false, if_true, List.filter_nil, fees.expense.account,
        fees.expense.asset, ne_eq, not_true_eq_false, amount]
      rw [readFeeCurrency, if_neg nonzero]

/-- The reader infers the unit price. -/
theorem TradeLegs.fillPrice {price : Decimal} (positive : 0 < price)
    (legs : TradeLegs position clearing cash cashClearing symbol settlement quantity price.toRat)
    (nonzero : quantity ≠ 0) {tradeCash : Decimal}
    (returned : exactNegate cashClearing.signedAmount true = .ok tradeCash) :
    fillPrice position.signedAmount tradeCash = .ok price := by
  rw [Decimal.lt_def, Decimal.toRat_zero] at positive
  have paid : tradeCash.toRat = -(quantity * price.toRat) := by
    rw [exactNegate_eq_ok.mp returned, legs.cashClearing.amount]
  let ratio : Decimal := ⟨-price.toRat, price.bounded.neg⟩
  have divided : exactRatio tradeCash position.signedAmount
      "Position projection requires an exactly representable finite price" = .ok ratio := by
    have held : position.signedAmount ≠ 0 := by
      intro zero
      rw [← Decimal.toRat_eq_zero, legs.position.amount] at zero
      exact nonzero zero
    rw [exactRatio, if_neg held, exactRational, mapError_eq_ok, validate_terminating_eq_ok, paid,
      legs.position.amount]
    change -price.toRat = _
    field_simp
  have magnitude : exactAbsolute ratio true = .ok price := by
    rw [exactAbsolute_eq_ok]
    change _ = |-price.toRat|
    rw [abs_neg, abs_of_pos positive]
  have opposite : ¬ (tradeCash = 0 ∨ (0 < tradeCash ↔ 0 < position.signedAmount)) := by
    rw [← Decimal.toRat_eq_zero, Decimal.lt_def, Decimal.lt_def, Decimal.toRat_zero,
      legs.position.amount, paid]
    rcases lt_or_gt_of_ne nonzero with sold | bought
    · have received := mul_neg_of_neg_of_pos sold positive
      rintro (none | same)
      · linarith
      · exact absurd (same.mp (by linarith)) (by linarith)
    · have spent := mul_pos bought positive
      rintro (none | same)
      · linarith
      · exact absurd (same.mpr bought) (by linarith)
  have above : ¬ price ≤ 0 := by
    rw [Decimal.le_def, Decimal.toRat_zero]
    exact not_le.mpr positive
  rw [Accounting.fillPrice, if_neg opposite, divided, ok_bind, magnitude, ok_bind, if_neg above]
  rfl

/-- The postings do not depend on how the fee currency was spelled. -/
theorem equityFillPostings_readFeeCurrency {side : Side} {amount price : Decimal}
    (charged : Charged settlement fee feeCurrency charges) :
    equityFillPostings symbol settlement side amount price fee
        (readFeeCurrency settlement fee feeCurrency) =
      equityFillPostings symbol settlement side amount price fee feeCurrency := by
  cases charged with
  | free zero => simp only [equityFillPostings, if_pos zero]
  | charged nonzero present fees =>
      have unit : name (feeUnit settlement (readFeeCurrency settlement fee feeCurrency))
          "fee_currency" = name (feeUnit settlement feeCurrency) "fee_currency" := by
        rw [readFeeCurrency, if_neg nonzero, feeUnit, if_neg present, name, name, strip_strip]
      -- the fee currency is read after nine steps that do not mention it
      cases side with
      | buy =>
          simp only [equityFillPostings, if_neg nonzero]
          iterate 9 refine bind_congr fun _ => ?_
          exact congrArg (· >>= _) unit
      | sell =>
          simp only [equityFillPostings, if_neg nonzero]
          iterate 9 refine bind_congr fun _ => ?_
          exact congrArg (· >>= _) unit

end Legs

/-- A transaction without its timestamps and links. -/
def bareTransaction (transaction : JournalTransaction) : JournalTransaction :=
  { transaction with
    reversesTransactionId := none
    economicEffectiveAt := none
    economicOrderKey := none
    observedAt := none
    correctsTransactionId := none }

theorem validateTransaction_bare {transaction : JournalTransaction}
    (valid : validateTransaction transaction = .ok ()) (two : 2 ≤ transaction.postings.length) :
    validateTransaction (bareTransaction transaction) = .ok () := by
  obtain ⟨totals, traversed, balanced⟩ := validateTransaction_totals valid
  have counted : ¬ transaction.postings.length < 2 := Nat.not_lt.mpr two
  simp only [validateTransaction, bareTransaction, traversed, balanced, counted, ok_bind,
    Option.isNone_none, ne_eq, not_true_eq_false, if_false]
  rfl

theorem checkFill_eq (transaction : JournalTransaction) (symbol settlement : String)
    (quantity : Decimal) {clearing cashClearing : Posting}
    (nonzero : quantity ≠ 0)
    (instrument : postingsTo transaction ("CLEARING:" ++ symbol) symbol = [clearing])
    (cash : postingsTo transaction ("CLEARING:" ++ settlement) settlement = [cashClearing])
    {tradeCash unitPrice fee magnitude : Decimal} {feeCurrency : Option String}
    (opposite : exactNegate quantity true = .ok clearing.signedAmount)
    (returned : exactNegate cashClearing.signedAmount true = .ok tradeCash)
    (priced : fillPrice quantity tradeCash = .ok unitPrice)
    (charged : feeTerms transaction = .ok (fee, feeCurrency))
    (size : exactAbsolute quantity true = .ok magnitude)
    (expected : equityFillPostings symbol settlement (if 0 < quantity then .buy else .sell)
      magnitude unitPrice fee feeCurrency = .ok transaction.postings)
    (valid : validateTransaction (bareTransaction transaction) = .ok ()) :
    checkFill transaction symbol settlement quantity = .ok (quantity, unitPrice) := by
  rw [checkFill, if_neg nonzero, instrument, cash]
  dsimp only
  rw [opposite, ok_bind, if_neg (not_not.mpr rfl), returned, ok_bind, priced, ok_bind, charged,
    ok_bind]
  dsimp only
  rw [size, ok_bind, expected, ok_bind]
  change (validateTransaction (bareTransaction transaction) >>= _) = _
  rw [valid, ok_bind, if_neg (not_not.mpr rfl)]
  rfl

section Written

variable [CaseMap] {transactionId causeEventId instrument settlementCurrency sideName : String}
  {quantity price fee : DecimalInput} {feeCurrency orderKey corrects : Option String}
  {effectiveAt observedAt : Option Timestamp} {transaction : JournalTransaction}

/-- What `book_equity_fill` reads from its arguments. -/
structure FillRead (sideName : String) (quantity price : DecimalInput) (side : Side)
    (amount unitPrice : Decimal) : Prop where
  side : upper (strip sideName) = (match side with | .buy => "BUY" | .sell => "SELL")
  quantity : decimal quantity "quantity" = .ok amount
  price : decimal price "price" = .ok unitPrice
  quantityPositive : 0 < amount.toRat
  pricePositive : 0 < unitPrice.toRat

/-- The normal arguments of a fill that was booked. -/
theorem bookEquityFill_built
    (success : bookEquityFill transactionId causeEventId instrument settlementCurrency sideName
      quantity price fee feeCurrency effectiveAt orderKey observedAt corrects = .ok transaction) :
    Normal (strip instrument) ∧ Normal (strip settlementCurrency) ∧
      validateTransaction transaction = .ok () ∧
      ∃ side amount unitPrice charge, FillRead sideName quantity price side amount unitPrice ∧
        equityFillPostings (strip instrument) (strip settlementCurrency) side amount unitPrice
          charge feeCurrency = .ok transaction.postings := by
  unfold bookEquityFill at success
  rw [bind_eq_ok] at success
  obtain ⟨symbol, symbolName, success⟩ := success
  rw [bind_eq_ok] at success
  obtain ⟨settlement, settlementName, success⟩ := success
  rw [bind_eq_ok] at success
  obtain ⟨sideText, sideRead, success⟩ := success
  obtain ⟨symbolPresent, rfl⟩ := name_eq_ok.mp symbolName
  obtain ⟨settlementPresent, rfl⟩ := name_eq_ok.mp settlementName
  obtain ⟨-, rfl⟩ := name_eq_ok.mp sideRead
  extract_lets sided at success
  have read : ∃ side : Side, sided side = .ok transaction ∧
      upper (strip sideName) = (match side with | .buy => "BUY" | .sell => "SELL") := by
    split at success
    next bought => exact ⟨.buy, success, bought⟩
    next =>
      split at success
      next sold => exact ⟨.sell, success, sold⟩
      next => cases success
  obtain ⟨side, read, sideEq⟩ := read
  simp only [sided, bind_eq_ok, throw_unless_eq_ok, pure_eq_ok, not_or] at read
  obtain ⟨amount, amountEq, unitPrice, priceEq, charge, -, ⟨amountAbove, priceAbove⟩, postings,
    postingsEq, _, -, _, -, _, -, _, -, _, -, _, -, _, valid, rfl⟩ := read
  rw [Decimal.le_def, Decimal.toRat_zero, not_le] at amountAbove priceAbove
  exact ⟨normal_strip symbolPresent, normal_strip settlementPresent, valid, side, amount,
    unitPrice, charge, ⟨sideEq, amountEq, priceEq, amountAbove, priceAbove⟩, postingsEq⟩

/-- `_canonical_equity_fill_terms` on the names that a caller gives. -/
def equityFillTerms (transaction : JournalTransaction) (instrument settlementCurrency : String) :
    Except AccountingError (Option (Decimal × Decimal)) := do
  let symbol ← name instrument "instrument"
  let settlement ← name settlementCurrency "settlement_currency"
  canonicalEquityFillTerms transaction symbol settlement

/-- The reader undoes the booking of a fill. -/
theorem equityFillTerms_of_booked
    (success : bookEquityFill transactionId causeEventId instrument settlementCurrency sideName
      quantity price fee feeCurrency effectiveAt orderKey observedAt corrects = .ok transaction)
    (distinct : strip instrument ≠ strip settlementCurrency) :
    ∃ side amount unitPrice signed, FillRead sideName quantity price side amount unitPrice ∧
      equityFillTerms transaction instrument settlementCurrency = .ok (some (signed, unitPrice)) ∧
        signed.toRat = side.sign * amount.toRat := by
  obtain ⟨symbolNormal, settlementNormal, valid, side, amount, unitPrice, charge, read, built⟩ :=
    bookEquityFill_built success
  obtain ⟨position, clearing, cash, cashClearing, charges, legs, charged, posted⟩ :=
    equityFillPostings_cases symbolNormal settlementNormal built
  obtain ⟨positions, clearings, cashClearings⟩ := legs.found charged distinct posted
  have nonzero : side.sign * amount.toRat ≠ 0 := by
    have positive := read.quantityPositive.ne'
    cases side <;> simp [Side.sign, positive]
  have same := legs.position.amount
  refine ⟨side, amount, unitPrice, position.signedAmount, read, ?_, same⟩
  have opposite : exactNegate position.signedAmount true = .ok clearing.signedAmount := by
    rw [exactNegate_eq_ok, legs.clearing.amount, same]
  have returned : exactNegate cashClearing.signedAmount true = .ok cash.signedAmount := by
    rw [exactNegate_eq_ok, legs.cash.amount, legs.cashClearing.amount]
  have size : exactAbsolute position.signedAmount true = .ok amount := by
    rw [exactAbsolute_eq_ok, same]
    cases side with
    | buy => rw [Side.sign, one_mul, abs_of_pos read.quantityPositive]
    | sell => rw [Side.sign, neg_one_mul, abs_neg, abs_of_pos read.quantityPositive]
  have direction : (if 0 < position.signedAmount then Side.buy else .sell) = side := by
    have above : 0 < position.signedAmount ↔ 0 < side.sign * amount.toRat := by
      rw [Decimal.lt_def, Decimal.toRat_zero, same]
    cases side with
    | buy =>
        rw [Side.sign, one_mul] at above
        exact if_pos (above.mpr read.quantityPositive)
    | sell =>
        rw [Side.sign, neg_one_mul, neg_pos] at above
        exact if_neg fun bought => absurd (above.mp bought) (not_lt.mpr read.quantityPositive.le)
  have rebuilt : equityFillPostings (strip instrument) (strip settlementCurrency)
      (if 0 < position.signedAmount then .buy else .sell) amount unitPrice charge
      (readFeeCurrency (strip settlementCurrency) charge feeCurrency) =
        .ok transaction.postings := by
    rw [direction, equityFillPostings_readFeeCurrency charged, built]
  have two : 2 ≤ transaction.postings.length := by
    rw [posted, List.length_append]
    exact Nat.le_add_right_of_le (Nat.le_add_left 2 2)
  have checked := checkFill_eq transaction (strip instrument) (strip settlementCurrency)
    position.signedAmount (fun zero => nonzero (by rw [← same, zero, Decimal.toRat_zero]))
    clearings cashClearings opposite returned
    (legs.fillPrice (Decimal.lt_def.mpr (by
      rw [Decimal.toRat_zero]
      exact read.pricePositive)) nonzero returned)
    (legs.feeTerms charged posted) size rebuilt (validateTransaction_bare valid two)
  rw [equityFillTerms, name_eq_ok.mpr ⟨symbolNormal.2, rfl⟩, ok_bind,
    name_eq_ok.mpr ⟨settlementNormal.2, rfl⟩, ok_bind, canonicalEquityFillTerms, if_neg distinct,
    positions]
  dsimp only
  rw [checked]
  rfl

end Written

/-! ## Splits -/

/-- The canonical text of a positive whole number consists of its digits. -/
theorem canonicalInteger_of_canonicalText {value : Decimal} {text : String}
    (positive : 0 < value.toRat) (whole : value.toRat.den = 1)
    (written : value.canonicalText = .ok text) : canonicalInteger text.toList = true := by
  obtain ⟨shape, rfl, same, digitBound⟩ := Decimal.exists_shape_of_canonicalText written
  rw [← same] at positive whole
  obtain ⟨unsigned, noFraction, starts⟩ := Shape.of_whole positive whole
  have digits : shape.text = shape.integer := by
    simp [Shape.text, unsigned, noFraction, Shape.pointed]
  simp only [startsNonzero, Bool.and_eq_true, decide_eq_true_eq] at starts
  have nonzero : shape.integer ≠ ['0'] := by
    intro zero
    rw [zero] at starts
    exact starts.2 rfl
  have length := shape.integer_length_le nonzero
  rw [String.toList_ofList, digits, canonicalInteger]
  simp only [Bool.and_eq_true, decide_eq_true_eq, List.all_eq_true, Bool.not_eq_true',
    Bool.and_eq_false_iff, decide_eq_false_iff_not]
  have within : shape.integer.length ≤ maxIntegerDigits := by
    simp only [maxSignificantDigits, maxIntegerDigits] at digitBound ⊢
    omega
  exact ⟨⟨⟨⟨within, starts.1⟩, shape.integerDigits⟩, nonzero⟩, Or.inr starts.2⟩

theorem digits_of_canonicalInteger {digits : List Char} (canonical : canonicalInteger digits) :
    digits ≠ [] ∧ ∀ char ∈ digits, isAsciiDigit char = true := by
  simp only [canonicalInteger, Bool.and_eq_true, decide_eq_true_eq, List.all_eq_true] at canonical
  exact ⟨canonical.1.1.1.2, canonical.1.1.2⟩

/-- The reader finds the two numbers of a ratio. -/
theorem splitRatio_of_texts {numerator denominator : Decimal} {numText denText : String}
    (numCanonical : canonicalInteger numText.toList = true)
    (denCanonical : canonicalInteger denText.toList = true)
    (numRead : parseBoundedExactDecimal (.text numText) true = .ok numerator)
    (denRead : parseBoundedExactDecimal (.text denText) true = .ok denominator)
    (different : numerator ≠ denominator) :
    splitRatio (numText ++ ":" ++ denText).toList = .ok (numerator, denominator) := by
  have unmarked {digits : List Char} (canonical : canonicalInteger digits = true) :
      ':' ∉ digits := by
    intro member
    have digit := (digits_of_canonicalInteger canonical).2 ':' member
    exact absurd digit (by decide)
  have parts : (numText ++ ":" ++ denText).toList.splitOn ':' =
      [numText.toList, denText.toList] := by
    rw [String.toList_append, String.toList_append, List.append_assoc]
    change (numText.toList ++ ':' :: denText.toList).splitOn ':' = _
    rw [List.splitOn_append_cons_self_of_not_mem (unmarked numCanonical),
      List.splitOn_eq_singleton (unmarked denCanonical)]
  have readable {text : String} {value : Decimal} (field : String)
      (parsed : parseBoundedExactDecimal (.text text) true = .ok value) :
      decimal (.text (String.ofList text.toList)) field = .ok value := by
    rw [String.ofList_toList, decimal, parsed]
    · rfl
    · exact fun other => by cases other
  rw [splitRatio, parts]
  simp only [numCanonical, denCanonical, Bool.and_self, if_true,
    readable "split numerator" numRead, readable "split denominator" denRead, ok_bind,
    if_neg different]
  rfl

section Split

variable {transactionId causeEventId instrument : String}
  {preSplitQuantity numerator denominator : DecimalInput} {orderKey corrects : Option String}
  {effectiveAt observedAt : Option Timestamp} {transaction : JournalTransaction}

/-- The name of the clearing account of a split. -/
def splitAccount (symbol numText denText : String) : String :=
  "CORPORATE_ACTION_SPLIT_CLEARING:" ++ symbol ++ ":" ++ numText ++ ":" ++ denText

theorem strip_splitAccount (symbol numText : String) {denText : String}
    (normal : Normal denText) :
    strip (splitAccount symbol numText denText) = splitAccount symbol numText denText := by
  have start : ("CORPORATE_ACTION_SPLIT_CLEARING:" ++ symbol ++ ":" ++ numText ++
      ":").toList.head? = some 'C' := by
    simp only [String.toList_append]
    rfl
  exact (normal_append start (by decide) normal).1

/-- What `book_equity_split_adjustment` reads from its arguments. -/
structure SplitRead (preSplitQuantity numerator denominator : DecimalInput)
    (before num den : Decimal) : Prop where
  before : decimal preSplitQuantity "pre_split_quantity" = .ok before
  numerator : decimal numerator "numerator" = .ok num
  denominator : decimal denominator "denominator" = .ok den
  numeratorPositive : 0 < num.toRat
  denominatorPositive : 0 < den.toRat
  numeratorWhole : num.toRat.den = 1
  denominatorWhole : den.toRat.den = 1

/-- The normal arguments and the postings of a split that was booked. -/
theorem bookEquitySplitAdjustment_built
    (booked : bookEquitySplitAdjustment transactionId causeEventId instrument preSplitQuantity
      numerator denominator effectiveAt orderKey observedAt corrects = .ok transaction) :
    Normal (strip instrument) ∧ ∃ before num den numText denText position clearing,
      SplitRead preSplitQuantity numerator denominator before num den ∧
      num.canonicalText = .ok numText ∧ den.canonicalText = .ok denText ∧
      Posts position ("POSITION:" ++ strip instrument) (strip instrument)
        (before.toRat * num.toRat / den.toRat - before.toRat) ∧
      position.signedAmount ≠ 0 ∧
      Posts clearing (splitAccount (strip instrument) numText denText) (strip instrument)
        (-(before.toRat * num.toRat / den.toRat - before.toRat)) ∧
      transaction.postings = [position, clearing] := by
  simp only [bookEquitySplitAdjustment, bind_eq_ok, throw_unless_eq_ok, pure_eq_ok, not_or,
    not_not] at booked
  obtain ⟨symbol, symbolName, before, beforeEq, num, numEq, den, denEq, numFraction, numWhole,
    denFraction, denWhole, ⟨numAbove, denAbove, numOne, denOne⟩, -, after, afterEq, delta, deltaEq,
    nonzero, numText, numWritten, denText, denWritten, _, -, _, -, position, positionEq, opposite,
    oppositeEq, clearing, clearingEq, _, -, _, -, _, -, _, -, _, -, rfl⟩ := booked
  obtain ⟨present, rfl⟩ := name_eq_ok.mp symbolName
  have normal := normal_strip present
  rw [ratioArithmetic, mapError_eq_ok] at numWhole denWhole numWritten denWritten
  rw [boundedFraction_eq numWhole] at numOne
  rw [boundedFraction_eq denWhole] at denOne
  rw [Decimal.le_def, Decimal.toRat_zero, not_le] at numAbove denAbove
  have change : delta.toRat = before.toRat * num.toRat / den.toRat - before.toRat := by
    rw [exactDifference_eq_ok.mp deltaEq, exactRatioProduct_toRat afterEq]
  obtain ⟨account, unit, amount⟩ := posting_fields clearingEq
  have posted : Posts clearing (splitAccount (strip instrument) numText denText)
      (strip instrument) (-delta.toRat) := by
    constructor
    · rw [account]
      exact strip_splitAccount _ _ (Decimal.normal_canonicalText denWritten)
    · rw [unit, normal.1]
    · rw [amount, exactNegate_eq_ok.mp oppositeEq]
  have held : position.signedAmount ≠ 0 := by
    rw [(posting_fields positionEq).2.2]
    exact nonzero
  refine ⟨normal, before, num, den, numText, denText, position, clearing,
    ⟨beforeEq, numEq, denEq, numAbove, denAbove, numOne, denOne⟩, numWritten, denWritten, ?_, held,
    ?_, rfl⟩
  · rw [← change]
    exact posts_of_posting rfl (by decide) normal positionEq
  · rw [← change]
    exact posted

/-- `_canonical_equity_split_terms` on the name that a caller gives. -/
def equitySplitTerms (transaction : JournalTransaction) (instrument : String) :
    Except AccountingError (Option (Decimal × Decimal × Decimal)) := do
  let symbol ← name instrument "instrument"
  canonicalEquitySplitTerms transaction symbol

theorem splitAccount_eq (symbol numText denText : String) :
    splitAccount symbol numText denText =
      "CORPORATE_ACTION_SPLIT_CLEARING:" ++ symbol ++ ":" ++ (numText ++ ":" ++ denText) := by
  have regrouped (front : String) :
      front ++ numText ++ ":" ++ denText = front ++ (numText ++ ":" ++ denText) := by
    rw [← String.append_assoc, ← String.append_assoc]
  exact regrouped _

theorem splitAccount_ne_position (symbol numText denText other : String) :
    splitAccount symbol numText denText ≠ "POSITION:" ++ other := by
  rw [splitAccount_eq, String.append_assoc, String.append_assoc]
  exact split_ne_position _ _

/-- The reader undoes the booking of a split for its instrument, and finds no split of any
other instrument. -/
theorem equitySplitTerms_of_booked
    (booked : bookEquitySplitAdjustment transactionId causeEventId instrument preSplitQuantity
      numerator denominator effectiveAt orderKey observedAt corrects = .ok transaction) :
    ∃ before num den delta, SplitRead preSplitQuantity numerator denominator before num den ∧
      equitySplitTerms transaction instrument = .ok (some (delta, num, den)) ∧
        delta.toRat = before.toRat * num.toRat / den.toRat - before.toRat ∧
        ∀ other, strip other ≠ "" → strip other ≠ strip instrument →
          equitySplitTerms transaction other = .ok none := by
  obtain ⟨normal, before, num, den, numText, denText, position, clearing, read, numWritten,
    denWritten, positionPosts, held, clearingPosts, posted⟩ :=
      bookEquitySplitAdjustment_built booked
  have denPositive := read.denominatorPositive
  have different : num ≠ den := by
    intro same
    apply held
    rw [← Decimal.toRat_eq_zero, positionPosts.amount, same, mul_div_assoc,
      div_self denPositive.ne', mul_one, sub_self]
  have numCanonical := canonicalInteger_of_canonicalText read.numeratorPositive
    read.numeratorWhole numWritten
  have denCanonical := canonicalInteger_of_canonicalText denPositive read.denominatorWhole
    denWritten
  have positionUnmarked : ("CORPORATE_ACTION_SPLIT_CLEARING:" ++ strip instrument ++
      ":").toList.isPrefixOf position.ledgerAccount.toList = false := by
    rw [positionPosts.account]
    apply isPrefixOf_eq_false
    intro text
    rw [String.append_assoc, String.append_assoc]
    exact split_ne_position _ _
  have clearingMarked : ("CORPORATE_ACTION_SPLIT_CLEARING:" ++ strip instrument ++
      ":").toList.isPrefixOf clearing.ledgerAccount.toList = true := by
    rw [clearingPosts.account, splitAccount_eq]
    exact isPrefixOf_mark _ _
  have terms : canonicalEquitySplitTerms transaction (strip instrument) =
      .ok (some (position.signedAmount, num, den)) := by
    refine splitTerms_eq_some.mpr ⟨clearing, position, ?_, ?_, ?_, held, ?_, ?_, rfl⟩
    · rw [posted]
      rw [List.filter_cons_of_neg, List.filter_cons_of_pos, List.filter_nil]
      · exact decide_eq_true ⟨clearingMarked, clearingPosts.asset⟩
      · rw [decide_eq_true_eq, positionUnmarked]
        exact fun marked => Bool.false_ne_true marked.1
    · rw [postingsTo, posted]
      rw [List.filter_cons, positionPosts.kept, List.filter_cons,
        clearingPosts.dropped (splitAccount_ne_position _ _ _ _)]
      rfl
    · rw [posted]
      rfl
    · rw [exactNegate_eq_ok, clearingPosts.amount, positionPosts.amount]
    · rw [clearingPosts.account, splitAccount_eq]
      generalize "CORPORATE_ACTION_SPLIT_CLEARING:" ++ strip instrument ++ ":" = mark
      rw [String.toList_append, List.drop_left]
      obtain ⟨_, numShown, numRead⟩ := num.exists_canonicalText
      obtain ⟨_, denShown, denRead⟩ := den.exists_canonicalText
      rw [numWritten, Except.ok.injEq] at numShown
      rw [denWritten, Except.ok.injEq] at denShown
      rw [← numShown] at numRead
      rw [← denShown] at denRead
      exact splitRatio_of_texts numCanonical denCanonical (numRead true) (denRead true) different
  refine ⟨before, num, den, position.signedAmount, read, ?_, positionPosts.amount, ?_⟩
  · rw [equitySplitTerms, name_eq_ok.mpr ⟨normal.2, rfl⟩, ok_bind, terms]
  · intro other present apart
    rw [equitySplitTerms, name_eq_ok.mpr ⟨present, rfl⟩, ok_bind, canonicalEquitySplitTerms, posted]
    simp only [List.filter_cons, positionPosts.asset, clearingPosts.asset, apart.symm,
      List.filter_nil, and_false, decide_false, Bool.false_eq_true, if_false]

end Split

section

variable [CaseMap]

/-- The readers undo the writers.  A booked fill whose instrument is not its settlement
currency is read as its signed quantity and its price, whatever fee it carries, and a booked
split is read as its change of quantity and its ratio for its instrument, and as no split of
any other. -/
theorem booked_terms_read_back :
    (∀ (transactionId causeEventId instrument settlementCurrency sideName : String)
      (quantity price fee : DecimalInput) (feeCurrency orderKey corrects : Option String)
      (effectiveAt observedAt : Option Timestamp) (transaction : JournalTransaction),
      bookEquityFill transactionId causeEventId instrument settlementCurrency sideName quantity
        price fee feeCurrency effectiveAt orderKey observedAt corrects = .ok transaction →
      strip instrument ≠ strip settlementCurrency →
      ∃ side amount unitPrice signed,
        FillRead sideName quantity price side amount unitPrice ∧
        equityFillTerms transaction instrument settlementCurrency =
          .ok (some (signed, unitPrice)) ∧
        signed.toRat = side.sign * amount.toRat) ∧
    ∀ (transactionId causeEventId instrument : String)
      (preSplitQuantity numerator denominator : DecimalInput) (orderKey corrects : Option String)
      (effectiveAt observedAt : Option Timestamp) (transaction : JournalTransaction),
      bookEquitySplitAdjustment transactionId causeEventId instrument preSplitQuantity numerator
        denominator effectiveAt orderKey observedAt corrects = .ok transaction →
      ∃ before num den delta, SplitRead preSplitQuantity numerator denominator before num den ∧
        equitySplitTerms transaction instrument = .ok (some (delta, num, den)) ∧
        delta.toRat = before.toRat * num.toRat / den.toRat - before.toRat ∧
        ∀ other, strip other ≠ "" → strip other ≠ strip instrument →
          equitySplitTerms transaction other = .ok none := by
  constructor
  · intro transactionId causeEventId instrument settlementCurrency sideName quantity price fee
      feeCurrency orderKey corrects effectiveAt observedAt transaction success distinct
    exact equityFillTerms_of_booked success distinct
  · intro transactionId causeEventId instrument preSplitQuantity numerator denominator orderKey
      corrects effectiveAt observedAt transaction booked
    exact equitySplitTerms_of_booked booked

end

section Sample

attribute [local instance] CaseMap.ascii

/-- A sale whose fee is paid in the instrument, and the split of a short position. -/
def booksOfSample : Except AccountingError (JournalTransaction × JournalTransaction) := do
  let sale ← bookEquityFill "sale" "cause" "A:B" " USD" "sell" (.text "3") (.text "0.1")
    (.text "0.01") (some "A:B") none none none none
  let adjustment ← bookEquitySplitAdjustment "split" "cause" "A:B" (.text "-5") (.text "3")
    (.text "2") none none none none
  pure (sale, adjustment)

/-- The sale is read as minus three at its price, and the split by its ratio for its own
instrument only. -/
theorem sale_and_split_read_back :
    ∃ sale adjustment signed unitPrice delta numerator denominator,
      booksOfSample = .ok (sale, adjustment) ∧
        equityFillTerms sale "A:B" " USD" = .ok (some (signed, unitPrice)) ∧
        equitySplitTerms adjustment "A:B" = .ok (some (delta, numerator, denominator)) ∧
        equitySplitTerms adjustment "A" = .ok none := by
  obtain ⟨⟨sale, adjustment⟩, built⟩ := exists_eq_ok (by decide +kernel :
    booksOfSample.toOption.isSome = true)
  have booked := built
  simp only [booksOfSample, bind_eq_ok, pure_eq_ok] at booked
  obtain ⟨_, sold, _, adjusted, same⟩ := booked
  cases same
  obtain ⟨-, -, unitPrice, signed, -, fill, -⟩ := booked_terms_read_back.1 _ _ _ _ _ _ _ _ _ _ _
    _ _ _ sold (by decide)
  obtain ⟨-, numerator, denominator, delta, -, split, -, none⟩ := booked_terms_read_back.2 _ _ _ _
    _ _ _ _ _ _ _ adjusted
  exact ⟨sale, adjustment, signed, unitPrice, delta, numerator, denominator, built, fill, split,
    none "A" (by decide) (by decide)⟩

end Sample

end AutoTrade.Accounting
