import AutoTrade.Accounting.Lineage
import Mathlib.Data.List.Sort
import Mathlib.Data.Prod.Lex

/-!
# Equity position projection

The executable model of `accounting.project_equity_position`: the canonical
fill and split shapes, the exclusion of reversed and reversing transactions and
the FIFO replay of the remaining position events.
-/

namespace AutoTrade.Accounting

open Lib Numeric

/-! ## Exact arithmetic of the accounting module -/

/-- `_exact_product`. -/
def exactProduct (values : List Decimal) (conflict : Bool) : Except AccountingError Decimal :=
  (exactMultiply values).mapError fun _ =>
    arithmeticError conflict "accounting product exceeds exact arithmetic resource envelope"

/-- `_exact_difference`. -/
def exactDifference (left right : Decimal) (conflict : Bool) :
    Except AccountingError Decimal :=
  (exactSubtract left right).mapError fun _ =>
    arithmeticError conflict
      "accounting difference exceeds exact arithmetic resource envelope"

/-- `_exact_addition`. -/
def exactAddition (left right : Decimal) (conflict : Bool) : Except AccountingError Decimal :=
  (exactAdd left right).mapError fun _ =>
    arithmeticError conflict "accounting addition exceeds exact arithmetic resource envelope"

/-- `_exact_absolute`. -/
def exactAbsolute (value : Decimal) (conflict : Bool) : Except AccountingError Decimal :=
  (exactAbs value).mapError fun _ =>
    arithmeticError conflict
      "accounting absolute value exceeds exact arithmetic resource envelope"

/-- A bounded terminating rational, or the conflict of a quotient. -/
def exactRational (value : ℚ) (message : String) : Except AccountingError Decimal :=
  (do validateFractionIntermediate value; terminatingDecimal value).mapError fun _ =>
    .conflict message

/-- `_exact_ratio`. -/
def exactRatio (numerator denominator : Decimal) (message : String) :
    Except AccountingError Decimal :=
  if denominator = 0 then .error (.conflict message)
  else exactRational (numerator.toRat / denominator.toRat) message

/-- `_exact_ratio_product`. -/
def exactRatioProduct (value numerator denominator : Decimal) (message : String) :
    Except AccountingError Decimal :=
  if denominator = 0 then .error (.conflict message)
  else exactRational (value.toRat * numerator.toRat / denominator.toRat) message

/-! ## Canonical fills -/

inductive Side where
  | buy
  | sell
  deriving DecidableEq, Repr

/-- The postings `book_equity_fill` builds from its normalized arguments. -/
def equityFillPostings (symbol settlement : String) (side : Side)
    (quantity unitPrice fee : Decimal) (feeCurrency : Option String) :
    Except AccountingError (List Posting) := do
  let signedQuantity ← match side with
    | .buy => pure quantity
    | .sell => exactNegate quantity false
  let tradeValue ← exactProduct [quantity, unitPrice] false
  let tradeCash ← match side with
    | .buy => exactNegate tradeValue false
    | .sell => pure tradeValue
  let position ← posting ("POSITION:" ++ symbol) symbol (.bounded signedQuantity)
  let negatedQuantity ← exactNegate signedQuantity false
  let clearing ← posting ("CLEARING:" ++ symbol) symbol (.bounded negatedQuantity)
  let cash ← posting ("CASH:" ++ settlement) settlement (.bounded tradeCash)
  let negatedCash ← exactNegate tradeCash false
  let cashClearing ← posting ("CLEARING:" ++ settlement) settlement (.bounded negatedCash)
  let trade := [position, clearing, cash, cashClearing]
  if fee = 0 then pure trade
  else do
    let feeUnit ← name (match feeCurrency with
      | none => settlement
      | some currency => if currency = "" then settlement else currency) "fee_currency"
    let negatedFee ← exactNegate fee false
    let feeCash ← posting ("CASH:" ++ feeUnit) feeUnit (.bounded negatedFee)
    let feeExpense ← posting ("FEE_EXPENSE:" ++ feeUnit) feeUnit (.bounded fee)
    pure (trade ++ [feeCash, feeExpense])

/-- `book_equity_fill`, in normal form. -/
def bookEquityFill [CaseMap] (transactionId causeEventId instrument settlementCurrency
    sideName : String) (quantity price fee : DecimalInput) (feeCurrency : Option String)
    (economicEffectiveAt : Option Timestamp) (economicOrderKey : Option String)
    (observedAt : Option Timestamp) (correctsTransactionId : Option String) :
    Except AccountingError JournalTransaction := do
  let symbol ← name instrument "instrument"
  let settlement ← name settlementCurrency "settlement_currency"
  let sideText ← name sideName "side"
  let side ← if upper sideText = "BUY" then pure .buy
    else if upper sideText = "SELL" then pure .sell
    else .error (.valueError "side must be BUY or SELL")
  let qty ← decimal quantity "quantity"
  let unitPrice ← decimal price "price"
  let feeAmount ← decimal fee "fee"
  if qty ≤ 0 ∨ unitPrice ≤ 0 then
    throw (.valueError "quantity and price must be positive")
  let postings ← equityFillPostings symbol settlement side qty unitPrice feeAmount feeCurrency
  let transactionId ← name transactionId "transaction_id"
  let causeEventId ← name causeEventId "cause_event_id"
  let effective ← instant economicEffectiveAt "economic_effective_at"
  let orderKey ← optionalName economicOrderKey "economic_order_key"
  let observed ← instant observedAt "observed_at"
  let corrects ← optionalName correctsTransactionId "corrects_transaction_id"
  let transaction : JournalTransaction :=
    ⟨transactionId, causeEventId, postings, none, effective, orderKey, observed, corrects⟩
  validateTransaction transaction
  pure transaction

/-- The fee amount and currency the postings of a fill carry. -/
def feeTerms (transaction : JournalTransaction) :
    Except AccountingError (Decimal × Option String) :=
  match transaction.postings.filter fun item =>
      "FEE_EXPENSE:".toList.isPrefixOf item.ledgerAccount.toList with
  | [] => .ok (0, none)
  | [item] =>
      if item.ledgerAccount ≠ "FEE_EXPENSE:" ++ item.assetOrCurrency then
        .error (.conflict "Position projection requires canonical equity-fill fee postings")
      else .ok (item.signedAmount, some item.assetOrCurrency)
  | _ => .error (.conflict "Position projection requires canonical equity-fill fee postings")

/-- The price of a position posting and its settlement clearing. -/
def fillPrice (quantity tradeCash : Decimal) : Except AccountingError Decimal := do
  if tradeCash = 0 ∨ (0 < tradeCash ↔ 0 < quantity) then
    throw (.conflict "Position projection requires cash direction opposite to quantity")
  let ratio ← exactRatio tradeCash quantity
    "Position projection requires an exactly representable finite price"
  let unitPrice ← exactAbsolute ratio true
  if unitPrice ≤ 0 then
    throw (.conflict "Position projection requires a finite positive price")
  pure unitPrice

/-- The checks of a canonical fill with position quantity `quantity`. -/
def checkFill (transaction : JournalTransaction) (symbol settlement : String)
    (quantity : Decimal) : Except AccountingError (Decimal × Decimal) := do
  if quantity = 0 then
    throw (.conflict "Position projection cannot infer a zero-quantity fill")
  match postingsTo transaction ("CLEARING:" ++ symbol) symbol,
      postingsTo transaction ("CLEARING:" ++ settlement) settlement with
  | [instrumentClearing], [settlementClearing] => do
      let negated ← exactNegate quantity true
      if instrumentClearing.signedAmount ≠ negated then
        throw (.conflict
          "Position projection requires canonical equity-fill clearing postings")
      let tradeCash ← exactNegate settlementClearing.signedAmount true
      let unitPrice ← fillPrice quantity tradeCash
      let (feeAmount, feeCurrency) ← feeTerms transaction
      let magnitude ← exactAbsolute quantity true
      let expected ← equityFillPostings symbol settlement
        (if 0 < quantity then .buy else .sell) magnitude unitPrice feeAmount feeCurrency
      validateTransaction { transaction with
        postings := expected
        reversesTransactionId := none
        economicEffectiveAt := none
        economicOrderKey := none
        observedAt := none
        correctsTransactionId := none }
      if transaction.postings ≠ expected then
        throw (.conflict
          "Position projection requires complete canonical equity-fill posting shape")
      pure (quantity, unitPrice)
  | _, _ =>
      throw (.conflict "Position projection requires canonical equity-fill clearing postings")

/-- `_canonical_equity_fill_terms`: quantity and unit price. -/
def canonicalEquityFillTerms (transaction : JournalTransaction)
    (symbol settlement : String) : Except AccountingError (Option (Decimal × Decimal)) :=
  if symbol = settlement then
    .error (.valueError "instrument and settlement_currency must be distinct")
  else match postingsTo transaction ("POSITION:" ++ symbol) symbol with
    | [] => .ok none
    | [item] => (checkFill transaction symbol settlement item.signedAmount).map some
    | _ =>
        .error (.conflict
          "Position projection requires exactly one canonical position posting")

/-! ## Canonical splits -/

/-- The shape of a canonical ratio number. -/
def canonicalInteger (digits : List Char) : Bool :=
  digits.length ≤ maxIntegerDigits && digits ≠ [] && digits.all isAsciiDigit &&
    digits ≠ ['0'] && !(digits.length > 1 && digits.head? = some '0')

/-- The numerator and denominator a split clearing account encodes. -/
def splitRatio (suffix : List Char) : Except AccountingError (Decimal × Decimal) :=
  match suffix.splitOn ':' with
  | [numText, denText] => do
      if canonicalInteger numText && canonicalInteger denText then
        let numerator ← decimal (.text (String.ofList numText)) "split numerator"
        let denominator ← decimal (.text (String.ofList denText)) "split denominator"
        if numerator = denominator then
          throw (.conflict "Split projection ratio must change quantity")
        pure (numerator, denominator)
      else throw (.conflict "Split projection ratio identity is not canonical")
  | _ => .error (.conflict "Split projection ratio identity is malformed")

/-- `_canonical_equity_split_terms`: delta, numerator and denominator. -/
def canonicalEquitySplitTerms (transaction : JournalTransaction) (symbol : String) :
    Except AccountingError (Option (Decimal × Decimal × Decimal)) :=
  let mark := ("CORPORATE_ACTION_SPLIT_CLEARING:" ++ symbol ++ ":").toList
  match transaction.postings.filter fun item =>
      mark.isPrefixOf item.ledgerAccount.toList ∧ item.assetOrCurrency = symbol with
  | [] => .ok none
  | [clearing] =>
      match postingsTo transaction ("POSITION:" ++ symbol) symbol with
      | [position] => do
          if transaction.postings.length ≠ 2 then
            throw (.conflict "Split projection rejects non-canonical extra postings")
          let delta := position.signedAmount
          if delta = 0 then
            throw (.conflict
              "Split projection requires an exactly balanced non-zero quantity delta")
          let negated ← exactNegate delta true
          if clearing.signedAmount ≠ negated then
            throw (.conflict
              "Split projection requires an exactly balanced non-zero quantity delta")
          let (numerator, denominator) ←
            splitRatio (clearing.ledgerAccount.toList.drop mark.length)
          pure (some (delta, numerator, denominator))
      | _ =>
          .error (.conflict
            "Split projection requires exactly one position and split-clearing posting")
  | _ =>
      .error (.conflict
        "Split projection requires exactly one position and split-clearing posting")

/-! ## Position events -/

/-- The terms of a position event. -/
inductive PositionTerms where
  | split (delta numerator denominator : Decimal)
  | fill (quantity unitPrice : Decimal)
  deriving DecidableEq, Repr

/-- The position change an event stands for. -/
def PositionTerms.change : PositionTerms → Decimal
  | split delta _ _ => delta
  | fill quantity _ => quantity

/-- Split terms if there are any, else fill terms. -/
def positionTerms (transaction : JournalTransaction) (symbol settlement : String) :
    Except AccountingError (Option PositionTerms) := do
  match ← canonicalEquitySplitTerms transaction symbol with
  | some (delta, numerator, denominator) => pure (some (.split delta numerator denominator))
  | none =>
      match ← canonicalEquityFillTerms transaction symbol settlement with
      | some (quantity, unitPrice) => pure (some (.fill quantity unitPrice))
      | none => pure none

/-- A transaction that projects to a position event. -/
structure PositionEvent where
  transaction : JournalTransaction
  terms : PositionTerms
  deriving DecidableEq, Repr

/-- The position event of a transaction, if it has one. -/
def positionEvent (symbol settlement : String) (transaction : JournalTransaction) :
    Except AccountingError (Option PositionEvent) :=
  (positionTerms transaction symbol settlement).map fun terms =>
    terms.map fun found => ⟨transaction, found⟩

/-- The events of the active transactions, in append order. -/
def positionEvents (transactions : List JournalTransaction) (symbol settlement : String) :
    Except AccountingError (List PositionEvent) := do
  let events ← (transactions.filter (isActive transactions)).mapM
    (positionEvent symbol settlement)
  pure (events.filterMap id)

/-- Whether the reversed transaction was a position event, with the check that
it is known. -/
def correctedTerms (byId : Dict String JournalTransaction) (symbol settlement : String)
    (correctedId : String) : Except AccountingError (Option PositionTerms) :=
  match byId.get? correctedId with
  | none => .error (.conflict "Position correction reversal lacks original transaction")
  | some corrected => positionTerms corrected symbol settlement

/-- The lineage checks of one reversed position event. -/
def checkLineage (transactions : List JournalTransaction)
    (byId : Dict String JournalTransaction) (symbol : String)
    (reversal : JournalTransaction) (correctedId : String) (terms : PositionTerms) :
    Except AccountingError Unit :=
  match transactions.filter (fun item => item.correctsTransactionId = some correctedId),
      byId.get? correctedId with
  | [replacement], some corrected =>
      if replacement.economicEffectiveAt ≠ corrected.economicEffectiveAt ∨
          replacement.economicOrderKey ≠ corrected.economicOrderKey ∨
          replacement.observedAt ≠ reversal.observedAt then
        .error (.conflict
          "Corrected FIFO lineage changed economic identity or observation evidence")
      else match terms with
        | .fill _ _ => .ok ()
        | .split _ _ _ => do
            let replacementTerms ← canonicalEquitySplitTerms replacement symbol
            if replacementTerms.isNone then
              .error (.conflict
                "Corrected split history requires one canonical split replacement")
            else pure ()
  | _, _ =>
      .error (.conflict
        "Corrected FIFO history requires exactly one explicit replacement lineage")

/-- A reversal of a position event with the terms it reverses. -/
structure PositionCorrection where
  reversal : JournalTransaction
  correctedId : String
  terms : PositionTerms
  deriving DecidableEq, Repr

/-- The correction a transaction makes, if it reverses a position event. -/
def positionCorrection (byId : Dict String JournalTransaction) (symbol settlement : String)
    (transaction : JournalTransaction) : Except AccountingError (Option PositionCorrection) :=
  match transaction.reversesTransactionId with
  | none => .ok none
  | some correctedId =>
      (correctedTerms byId symbol settlement correctedId).map fun terms =>
        terms.map fun found => ⟨transaction, correctedId, found⟩

/-- The reversals of position events, after their lineage checks. -/
def positionCorrections (transactions : List JournalTransaction) (symbol settlement : String) :
    Except AccountingError (List PositionCorrection) := do
  let byId : Dict String JournalTransaction :=
    Dict.setAll ∅ (transactions.map fun item => (item.transactionId, item))
  let found ← transactions.mapM (positionCorrection byId symbol settlement)
  let corrections := found.filterMap id
  corrections.forM fun correction =>
    checkLineage transactions byId symbol correction.reversal correction.correctedId
      correction.terms
  pure corrections

/-! ## Economic order -/

/-- The key a corrected or split history sorts by. -/
def orderKey (event : PositionEvent) : Except AccountingError (Instant × String) :=
  match event.transaction.economicEffectiveAt, event.transaction.economicOrderKey with
  | some effective, some key => .ok (effective, key)
  | _, _ =>
      .error (.conflict ("Corrected/split FIFO history requires economic effective-time " ++
        "and immutable order evidence for every position event"))

def PositionEvent.isSplit (event : PositionEvent) : Bool :=
  match event.terms with
  | .split _ _ _ => true
  | .fill _ _ => false

/-- One entry of the ordering check: the keys seen so far. -/
def checkOrder (seen : List (Instant × String)) (event : PositionEvent) :
    Except AccountingError (List (Instant × String)) := do
  let key ← orderKey event
  if key ∈ seen then
    .error (.conflict "Corrected/split FIFO history has ambiguous economic ordering")
  else pure (key :: seen)

/-- `(effective time, order key, transaction id)`. -/
def sortKey (event : PositionEvent) : Instant ×ₗ String ×ₗ String :=
  toLex (event.transaction.economicEffectiveAt.getD ⟨0⟩,
    toLex (event.transaction.economicOrderKey.getD "", event.transaction.transactionId))

/-- Events in economic order; only a corrected or split history is reordered. -/
def orderEvents (corrected : Bool) (events : List PositionEvent) :
    Except AccountingError (List PositionEvent) :=
  if corrected || events.any PositionEvent.isSplit then do
    let _ ← events.foldlM checkOrder []
    let times (split : Bool) := (events.filter fun event => event.isSplit = split).map
      fun event => event.transaction.economicEffectiveAt
    if (times true).any fun moment => moment ∈ times false then
      .error (.conflict "same-effective-time fill and split lack qualified causal order")
    else pure (events.insertionSort fun left right => sortKey left ≤ sortKey right)
  else .ok events

/-! ## FIFO replay -/

structure EquityLot where
  quantity : Decimal
  unitPrice : Decimal
  transactionId : String
  deriving DecidableEq, Repr

/-- Open lots and realized profit. -/
structure Holding where
  lots : List EquityLot
  realized : Decimal
  deriving DecidableEq, Repr

/-- Total quantity of the lots. -/
def totalQuantity (lots : List EquityLot) : Except AccountingError Decimal :=
  exactTotal (lots.map EquityLot.quantity) true

/-- A lot after a split. -/
def splitLot (numerator denominator : Decimal) (lot : EquityLot) :
    Except AccountingError EquityLot := do
  let quantity ← exactRatioProduct lot.quantity numerator denominator
    "Split lot quantity is not exactly representable"
  let unitPrice ← exactRatioProduct lot.unitPrice denominator numerator
    "Split lot basis is not exactly representable"
  pure { lot with quantity := quantity, unitPrice := unitPrice }

/-- A split event applied to the open lots. -/
def applySplit (holding : Holding) (delta numerator denominator : Decimal) :
    Except AccountingError Holding := do
  let current ← totalQuantity holding.lots
  if current = 0 then
    .error (.conflict "Split adjustment cannot transform an empty projected position")
  else do
    let next ← exactRatioProduct current numerator denominator
      "Split projected quantity is not exactly representable"
    let change ← exactDifference next current true
    if change ≠ delta then
      .error (.conflict "Split adjustment delta conflicts with projected pre-split quantity")
    else do
      let lots ← holding.lots.mapM (splitLot numerator denominator)
      pure { holding with lots := lots }

/-- What closing against one lot leaves: the lot quantity, the remaining fill
and the realized profit. -/
structure Closing where
  lotQuantity : Decimal
  remaining : Decimal
  realized : Decimal
  deriving DecidableEq, Repr

/-- One iteration of the closing loop. -/
def closeLot (unitPrice : Decimal) (lot : EquityLot) (remaining realized : Decimal) :
    Except AccountingError Closing := do
  let remainingSize ← exactAbsolute remaining true
  let lotSize ← exactAbsolute lot.quantity true
  let closeQuantity := if lotSize < remainingSize then lotSize else remainingSize
  if 0 < lot.quantity then do
    let gain ← exactDifference unitPrice lot.unitPrice true
    let profit ← exactProduct [closeQuantity, gain] true
    let realized ← exactAddition realized profit true
    let lotQuantity ← exactDifference lot.quantity closeQuantity true
    let remaining ← exactAddition remaining closeQuantity true
    pure ⟨lotQuantity, remaining, realized⟩
  else do
    let gain ← exactDifference lot.unitPrice unitPrice true
    let profit ← exactProduct [closeQuantity, gain] true
    let realized ← exactAddition realized profit true
    let lotQuantity ← exactAddition lot.quantity closeQuantity true
    let remaining ← exactDifference remaining closeQuantity true
    pure ⟨lotQuantity, remaining, realized⟩

/-- The closing loop: the lots left, the remaining fill and the realized
profit. -/
def closeLots (unitPrice : Decimal) : (lots : List EquityLot) →
    (remaining realized : Decimal) →
    Except AccountingError (List EquityLot × Decimal × Decimal)
  | [], remaining, realized => .ok ([], remaining, realized)
  | lot :: rest, remaining, realized =>
      if remaining = 0 ∨ (0 < lot.quantity ↔ 0 < remaining) then
        .ok (lot :: rest, remaining, realized)
      else do
        let closing ← closeLot unitPrice lot remaining realized
        if closing.lotQuantity = 0 then
          closeLots unitPrice rest closing.remaining closing.realized
        else
          -- a lot outlives the fill only when the fill is used up, and then the
          -- loop condition fails (`closeLot_remaining`)
          pure ({ lot with quantity := closing.lotQuantity } :: rest, closing.remaining,
            closing.realized)

/-- A fill event applied to the open lots. -/
def applyFill (holding : Holding) (transactionId : String) (quantity unitPrice : Decimal) :
    Except AccountingError Holding := do
  let (lots, remaining, realized) ←
    closeLots unitPrice holding.lots quantity holding.realized
  if remaining = 0 then pure ⟨lots, realized⟩
  else pure ⟨lots ++ [⟨remaining, unitPrice, transactionId⟩], realized⟩

/-- One position event applied to the open lots. -/
def applyEvent (holding : Holding) (event : PositionEvent) : Except AccountingError Holding :=
  match event.terms with
  | .split delta numerator denominator => applySplit holding delta numerator denominator
  | .fill quantity unitPrice =>
      applyFill holding event.transaction.transactionId quantity unitPrice

/-! ## The projection -/

inductive PolicyVersion where
  | fifoGrossV1
  | fifoGrossEffectiveV2
  | fifoGrossCaSplitV3
  deriving DecidableEq, Repr

structure EquityPositionProjection where
  instrument : String
  settlementCurrency : String
  quantity : Decimal
  openCostBasis : Decimal
  realizedPnl : Decimal
  unrealizedPnl : Option Decimal
  markPrice : Option Decimal
  lots : List EquityLot
  policyVersion : PolicyVersion
  deriving DecidableEq, Repr

/-- Cost of an open lot. -/
def lotCost (lot : EquityLot) : Except AccountingError Decimal := do
  let size ← exactAbsolute lot.quantity true
  exactProduct [size, lot.unitPrice] true

/-- Unrealized profit of an open lot at a mark. -/
def lotGain (mark : Decimal) (lot : EquityLot) : Except AccountingError Decimal := do
  let size ← exactAbsolute lot.quantity true
  let gain ← if 0 < lot.quantity then exactDifference mark lot.unitPrice true
    else exactDifference lot.unitPrice mark true
  exactProduct [size, gain] true

/-- The optional mark price, checked to be positive. -/
def checkedMark (markPrice : Option DecimalInput) :
    Except AccountingError (Option Decimal) :=
  match markPrice with
  | none => .ok none
  | some price => do
      let mark ← decimal price "mark_price"
      if mark ≤ 0 then .error (.valueError "mark_price must be positive")
      else pure (some mark)

/-- The unrealized profit at an optional mark. -/
def unrealizedPnl (lots : List EquityLot) (mark : Option Decimal) :
    Except AccountingError (Option Decimal) :=
  match mark with
  | none => .ok none
  | some price => do
      let gains ← lots.mapM (lotGain price)
      (exactTotal gains true).map some

/-- `project_equity_position`. -/
def projectEquityPosition (book : EconomicBook) (instrument settlementCurrency : String)
    (markPrice : Option DecimalInput) : Except AccountingError EquityPositionProjection := do
  let symbol ← name instrument "instrument"
  let settlement ← name settlementCurrency "settlement_currency"
  let mark ← checkedMark markPrice
  let corrections ← positionCorrections book.transactions symbol settlement
  let events ← positionEvents book.transactions symbol settlement
  let ordered ← orderEvents (corrections ≠ []) events
  let holding ← ordered.foldlM applyEvent ⟨[], 0⟩
  let quantity ← totalQuantity holding.lots
  let costs ← holding.lots.mapM lotCost
  let openCostBasis ← exactTotal costs true
  let unrealized ← unrealizedPnl holding.lots mark
  pure {
    instrument := symbol
    settlementCurrency := settlement
    quantity := quantity
    openCostBasis := openCostBasis
    realizedPnl := holding.realized
    unrealizedPnl := unrealized
    markPrice := mark
    lots := holding.lots
    policyVersion :=
      if events.any PositionEvent.isSplit then .fifoGrossCaSplitV3
      else if corrections ≠ [] then .fifoGrossEffectiveV2
      else .fifoGrossV1 }

end AutoTrade.Accounting
