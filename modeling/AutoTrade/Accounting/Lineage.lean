import AutoTrade.Accounting.Journal
import AutoTrade.Lib.Reversal

/-!
# Lineage of a reachable journal

What `append` guarantees of the whole journal: the indexes describe the
transaction list, and every reversal negates an earlier transaction for the
first time.  An account balance is then the sum over the active and the
reinstating transactions.
-/

namespace AutoTrade.Accounting

open Lib Numeric

/-- Sum a transaction posts to the selected accounts and assets. -/
def postedSum (select : String → String → Bool) (transaction : JournalTransaction) : ℚ :=
  ((transaction.postings.filter fun item =>
    select item.ledgerAccount item.assetOrCurrency).map fun item =>
      item.signedAmount.toRat).sum

/-- Sum a transaction posts to an account in an asset. -/
def postedTo (account asset : String) : (transaction : JournalTransaction) → ℚ :=
  postedSum fun heldIn unit => heldIn = account ∧ unit = asset

/-- The postings of one transaction negate those of another. -/
def Negates (reversal original : JournalTransaction) : Prop :=
  original.postings.mapM EconomicBook.negatedPosting = .ok reversal.postings

/-- Ids that some transaction reverses. -/
def reversedIds (transactions : List JournalTransaction) : List String :=
  transactions.filterMap JournalTransaction.reversesTransactionId

/-- Neither reversed nor reversing. -/
def isActive (transactions : List JournalTransaction) (transaction : JournalTransaction) :
    Bool :=
  transaction.transactionId ∉ reversedIds transactions &&
    transaction.reversesTransactionId.isNone

/-- A reversal that no transaction reverses and that stands at the end of a
chain of an even number of reversals. -/
def isReinstating (transactions : List JournalTransaction)
    (transaction : JournalTransaction) : Bool :=
  reinstating JournalTransaction.transactionId JournalTransaction.reversesTransactionId
    transactions.reverse transaction

/-- A transaction that no transaction reverses and that stands at the end of a
chain of an even number of reversals: its postings are in effect. -/
def isEffective (transactions : List JournalTransaction) (transaction : JournalTransaction) :
    Bool :=
  effective JournalTransaction.transactionId JournalTransaction.reversesTransactionId
    transactions.reverse transaction

/-- Sum the reinstating transactions post to an account in an asset. -/
def reinstatedTo (account asset : String) (transactions : List JournalTransaction) : ℚ :=
  selectedSum (postedTo account asset) (isReinstating transactions) transactions

theorem exactNegate_eq_ok {value result : Decimal} {conflict : Bool} :
    exactNegate value conflict = .ok result ↔ result.toRat = -value.toRat := by
  rw [exactNegate, mapError_eq_ok, exactSubtract_eq_ok, Decimal.toRat_zero, zero_sub]

theorem exactTotal_toRat {values : List Decimal} {conflict : Bool} {result : Decimal}
    (success : exactTotal values conflict = .ok result) :
    result.toRat = (values.map Decimal.toRat).sum := by
  rw [exactTotal, mapError_eq_ok] at success
  rw [exactSum_toRat success, Decimal.toRat_zero, zero_add]

/-- A reversal posts the opposite to every selection of accounts. -/
theorem Negates.postedSum {reversal original : JournalTransaction}
    (negates : Negates reversal original) (select : String → String → Bool) :
    Accounting.postedSum select reversal = -Accounting.postedSum select original := by
  have pairs := mapM_eq_ok.mp negates
  rw [Accounting.postedSum, Accounting.postedSum]
  generalize original.postings = items at pairs
  generalize reversal.postings = negatedItems at pairs
  induction pairs with
  | nil => simp
  | @cons item negated items rest first tail ih =>
      simp only [EconomicBook.negatedPosting, Except.map] at first
      split at first
      next => cases first
      next amount found =>
        cases first
        have opposite := exactNegate_eq_ok.mp found
        cases selected : select item.ledgerAccount item.assetOrCurrency with
        | true =>
            rw [List.filter_cons_of_pos (by simp [selected]),
              List.filter_cons_of_pos (by simp [selected]), List.map_cons, List.map_cons,
              List.sum_cons, List.sum_cons, ih, opposite]
            ring
        | false =>
            rw [List.filter_cons_of_neg (by simp [selected]),
              List.filter_cons_of_neg (by simp [selected]), ih]

theorem postedAmounts_toRat (transactions : List JournalTransaction) (account asset : String) :
    ((EconomicBook.postedAmounts transactions account asset).map Decimal.toRat).sum =
      (transactions.map (postedTo account asset)).sum := by
  induction transactions with
  | nil => rfl
  | cons transaction rest ih =>
      rw [List.map_cons, List.sum_cons, ← ih]
      simp [EconomicBook.postedAmounts, postedTo, postedSum, Function.comp_def]

namespace EconomicBook

/-- What `append` checks before it changes the book. -/
structure Accepts (book : EconomicBook) (transaction : JournalTransaction) : Prop where
  valid : validateTransaction transaction = .ok ()
  fresh : book.byId.get? transaction.transactionId = none
  uncaused : book.byCauseEventId.get? transaction.causeEventId = none
  reversal : ∀ originalId, transaction.reversesTransactionId = some originalId →
    book.checkReversal transaction originalId = .ok ()
  correction : ∀ correctedId, transaction.correctsTransactionId = some correctedId →
    book.checkCorrection transaction correctedId = .ok ()

/-- A successful `append` finds the transaction stored or inserts it. -/
theorem appendNormal_cases {book next : EconomicBook} {transaction : JournalTransaction}
    {appended : Bool} (success : book.appendNormal transaction = .ok (next, appended)) :
    (next = book ∧ appended = false ∧
        book.byId.get? transaction.transactionId = some transaction) ∨
      book.Accepts transaction ∧ next = book.insert transaction ∧ appended = true := by
  rw [appendNormal, bind_eq_ok] at success
  obtain ⟨⟨⟩, valid, success⟩ := success
  split at success
  next existing found =>
    left
    rw [guard_eq_ok, pure_eq_ok, not_not] at success
    obtain ⟨rfl, equal⟩ := success
    cases equal
    exact ⟨rfl, rfl, found⟩
  next fresh =>
    right
    rw [guard_eq_ok, bind_eq_ok] at success
    obtain ⟨uncaused, ⟨⟩, reversal, success⟩ := success
    rw [bind_eq_ok] at success
    obtain ⟨⟨⟩, correction, success⟩ := success
    rw [pure_eq_ok] at success
    cases success
    refine ⟨?_, rfl, rfl⟩
    constructor
    · exact valid
    · exact fresh
    · simpa using uncaused
    · intro originalId reversed
      simpa [reversed] using reversal
    · intro correctedId corrected
      simpa [corrected] using correction

theorem checkReversal_eq_ok {book : EconomicBook} {transaction : JournalTransaction}
    {originalId : String} (success : book.checkReversal transaction originalId = .ok ()) :
    ∃ original, book.byId.get? originalId = some original ∧
      originalId ∉ book.reversedTransactionIds ∧ Negates transaction original := by
  rw [checkReversal] at success
  split at success
  next => cases success
  next original found =>
    rw [guard_eq_ok, bind_eq_ok] at success
    obtain ⟨first, expected, negated, success⟩ := success
    rw [guard_eq_ok, not_not] at success
    refine ⟨original, found, first, ?_⟩
    rw [Negates, negated, success.1]

/-- The indexes describe the journal and its reversals are in order. -/
structure Lineage (book : EconomicBook) : Prop where
  byId : ∀ id transaction, book.byId.get? id = some transaction ↔
    transaction ∈ book.transactions ∧ transaction.transactionId = id
  reversed : ∀ id, id ∈ book.reversedTransactionIds ↔ id ∈ reversedIds book.transactions
  reversible : Reversible JournalTransaction.transactionId
    JournalTransaction.reversesTransactionId Negates book.transactions.reverse

theorem empty_lineage : Lineage empty where
  byId := by simp [empty]
  reversed := by simp [empty, reversedIds]
  reversible := .nil

theorem Lineage.distinct {book : EconomicBook} (lineage : book.Lineage) :
    (book.transactions.map JournalTransaction.transactionId).Nodup := by
  have distinct := lineage.reversible.nodup
  rwa [List.map_reverse, List.nodup_reverse] at distinct

theorem Lineage.fresh {book : EconomicBook} (lineage : book.Lineage) {id : String}
    (fresh : book.byId.get? id = none) :
    id ∉ book.transactions.map JournalTransaction.transactionId :=
  Dict.Indexes.fresh lineage.byId fresh

theorem Lineage.insert {book : EconomicBook} {transaction : JournalTransaction}
    (lineage : book.Lineage) (accepts : book.Accepts transaction) :
    (book.insert transaction).Lineage where
  byId := Dict.Indexes.append lineage.byId accepts.fresh
  reversed := by
    intro id
    have before := lineage.reversed id
    simp only [EconomicBook.insert, reversedIds, List.filterMap_append, List.mem_append]
      at before ⊢
    cases reverses : transaction.reversesTransactionId with
    | none => simpa [reverses] using before
    | some originalId =>
        simp only [Finset.mem_insert, before, List.filterMap_cons_some reverses,
          List.filterMap_nil, List.mem_singleton]
        exact or_comm
  reversible := by
    have fresh : transaction.transactionId ∉
        book.transactions.reverse.map JournalTransaction.transactionId := by
      rw [List.map_reverse, List.mem_reverse]
      exact lineage.fresh accepts.fresh
    simp only [EconomicBook.insert, List.reverse_append, List.reverse_cons, List.reverse_nil,
      List.nil_append, List.singleton_append]
    cases reverses : transaction.reversesTransactionId with
    | none => exact .plain lineage.reversible fresh reverses
    | some originalId =>
        obtain ⟨original, found, first, negates⟩ :=
          checkReversal_eq_ok (accepts.reversal originalId reverses)
        obtain ⟨member, rfl⟩ := (lineage.byId originalId original).mp found
        rw [lineage.reversed, reversedIds, ← List.mem_reverse, ← List.filterMap_reverse]
          at first
        exact .reversal lineage.reversible fresh (List.mem_reverse.mpr member) reverses first
          negates

theorem Lineage.appendNormal {book next : EconomicBook} {transaction : JournalTransaction}
    {appended : Bool} (lineage : book.Lineage)
    (success : book.appendNormal transaction = .ok (next, appended)) : next.Lineage := by
  rcases appendNormal_cases success with ⟨rfl, -, -⟩ | ⟨accepts, rfl, -⟩
  · exact lineage
  · exact lineage.insert accepts

theorem Lineage.append {book next : EconomicBook} {input : TransactionInput}
    {appended : Bool} (lineage : book.Lineage)
    (success : book.append input = .ok (next, appended)) : next.Lineage := by
  rw [EconomicBook.append, bind_eq_ok] at success
  obtain ⟨transaction, _, success⟩ := success
  exact lineage.appendNormal success

theorem rebuild_lineage {transactions : List JournalTransaction} {book : EconomicBook}
    (success : rebuild transactions = .ok book) : book.Lineage := by
  refine foldlM_invariant Lineage ?_ empty_lineage success
  intro transaction _ before after lineage step
  simp only [Except.map] at step
  split at step
  next => cases step
  next result found =>
    cases step
    exact lineage.appendNormal found

theorem Lineage.appendBatch {book next : EconomicBook} {batch : List TransactionInput}
    {appended : Bool} (lineage : book.Lineage)
    (success : book.appendBatch batch = .ok (next, appended)) : next.Lineage := by
  rw [EconomicBook.appendBatch, guard_eq_ok, bind_eq_ok] at success
  obtain ⟨_, start, rebuilt, success⟩ := success
  rw [bind_eq_ok] at success
  obtain ⟨⟨candidate, outcomes⟩, loop, success⟩ := success
  have candidateLineage : candidate.Lineage := by
    refine foldlM_invariant (fun progress => progress.1.Lineage) ?_
      (rebuild_lineage rebuilt) loop
    intro input _ before after lineage step
    rw [appendNext, bind_eq_ok] at step
    obtain ⟨⟨result, outcome⟩, appended, step⟩ := step
    cases step
    exact lineage.append appended
  rw [guard_eq_ok] at success
  obtain ⟨_, success⟩ := success
  split at success
  · cases success
    exact candidateLineage
  · cases success
    exact lineage

/-- Every reachable journal has its lineage in order. -/
theorem Reachable.lineage {book : EconomicBook} (reachable : Reachable book) :
    book.Lineage := by
  induction reachable with
  | empty => exact empty_lineage
  | append reachable success ih => exact ih.append success
  | appendBatch reachable success ih => exact ih.appendBatch success

/-- What all transactions post is what the effective ones post. -/
theorem Lineage.posted_eq_effective {book : EconomicBook} (lineage : book.Lineage)
    (select : String → String → Bool) :
    (book.transactions.map (postedSum select)).sum =
      selectedSum (postedSum select) (isEffective book.transactions) book.transactions := by
  have total := lineage.reversible.sum_eq_effective
    (fun _ _ negates => negates.postedSum select)
  simp only [selectedSum, List.filter_reverse, List.map_reverse, List.sum_reverse] at total
  exact total

theorem isEffective_standing {transactions : List JournalTransaction}
    {transaction : JournalTransaction} (inEffect : isEffective transactions transaction) :
    transaction.transactionId ∉ reversedIds transactions := by
  simp only [isEffective, effective, standing, Bool.and_eq_true, decide_eq_true_eq,
    List.filterMap_reverse, List.mem_reverse] at inEffect
  exact inEffect.1

/-- An unreversed transaction that reverses nothing is in effect. -/
theorem Lineage.effective_of_active {book : EconomicBook} (lineage : book.Lineage)
    {transaction : JournalTransaction} (member : transaction ∈ book.transactions)
    (standing : transaction.transactionId ∉ reversedIds book.transactions)
    (plain : transaction.reversesTransactionId = none) :
    isEffective book.transactions transaction = true := by
  have depth := lineage.reversible.depth_eq_zero (List.mem_reverse.mpr member) plain
  rw [isEffective, effective, depth, Lib.standing]
  simpa [reversedIds, List.filterMap_reverse] using standing

/-- Account totals are carried by the active and the reinstating
transactions. -/
theorem Lineage.posted_eq {book : EconomicBook} (lineage : book.Lineage)
    (account asset : String) :
    (book.transactions.map (postedTo account asset)).sum =
      selectedSum (postedTo account asset) (isActive book.transactions) book.transactions +
        reinstatedTo account asset book.transactions := by
  have split := lineage.reversible.sum_eq_active_add_reinstating
    (fun _ _ negates => negates.postedSum fun heldIn unit => heldIn = account ∧ unit = asset)
  have sameActive : active JournalTransaction.transactionId
      JournalTransaction.reversesTransactionId book.transactions.reverse =
        isActive book.transactions := by
    funext transaction
    simp [active, standing, isActive, reversedIds, List.filterMap_reverse]
  rw [sameActive] at split
  simp only [selectedSum, List.filter_reverse, List.map_reverse, List.sum_reverse] at split
  exact split

/-- `position` and `cash` return the plain sum of the postings. -/
theorem balance_toRat {book : EconomicBook} {account asset : String} {held : Decimal}
    (success : book.balance account asset = .ok held) :
    held.toRat = (book.transactions.map (postedTo (strip account) (strip asset))).sum := by
  rw [balance, bind_eq_ok] at success
  obtain ⟨normalAccount, accountName, success⟩ := success
  rw [bind_eq_ok] at success
  obtain ⟨normalAsset, assetName, total⟩ := success
  rw [name, guard_eq_ok, Except.ok.injEq] at accountName assetName
  rw [exactTotal_toRat total, postedAmounts_toRat, accountName.2, assetName.2]

end EconomicBook

end AutoTrade.Accounting
