import AutoTrade.Settlement.OpeningCash

/-!
# Settlement cash conservation

`settle` moves cash incrementally while a snapshot sums the unsettled
obligations anew.  Both are compared through two rationals of a book: its
economic cash, and the settled cash left when every payable is taken off.  A
read of the book that returns, returns these values; no read rounds, but each
of them raises when one of the sums it passes through leaves the 256 digits of
an exact decimal.
-/

namespace AutoTrade.Settlement

open Lib Numeric

namespace SettlementBook

section Conservation

variable [CaseMap]

/-- Amounts of the unsettled obligations in a currency that a test keeps. -/
def unsettledAmount (book : SettlementBook) (keep : SettlementObligation → Bool)
    (currency : String) : ℚ :=
  obligedIn currency
    (fun obligation => obligation.obligationId ∉ book.settledIds && keep obligation)
    book.obligations.values

/-- Settled cash and everything still to be settled. -/
def economicValue (book : SettlementBook) (currency : String) : ℚ :=
  book.cashOf currency + book.unsettledAmount (fun _ => true) currency

/-- Settled cash less the payables. -/
def spendableValue (book : SettlementBook) (currency : String) : ℚ :=
  book.cashOf currency +
    book.unsettledAmount (fun obligation => !decide (0 < obligation.amount)) currency

/-! ## What a snapshot reads -/

/-- Negated amounts add up to the negated total. -/
theorem owed_toRat {payables : List SettlementObligation} {owed : List Decimal}
    (success : payables.mapM (fun obligation =>
      (exactSubtract 0 obligation.amount).mapError SettlementError.exactDecimal) = .ok owed) :
    (owed.map Decimal.toRat).sum =
      -(payables.map fun obligation => obligation.amount.toRat).sum := by
  rw [mapM_eq_ok] at success
  induction success with
  | nil => simp
  | cons first tail ih =>
      rw [mapError_eq_ok, exactSubtract_eq_ok, Decimal.toRat_zero, zero_sub] at first
      rw [List.map_cons, List.map_cons, List.sum_cons, List.sum_cons, ih, first]
      ring

theorem unsettledIn_sum (book : SettlementBook) (keep : SettlementObligation → Bool)
    (unit : String) :
    (((book.unsettledIn unit).filter keep).map fun obligation => obligation.amount.toRat).sum =
      book.unsettledAmount keep unit := by
  rw [unsettledAmount, obligedIn, selectedSum, unsettledIn, List.filter_filter]
  congr 2
  apply List.filter_congr
  intro obligation _
  simp only [Bool.decide_and, decide_not]
  cases keep obligation <;> simp

/-- A snapshot that returns states the settled cash, the receivables and the
payables of its currency. -/
theorem snapshot_toRat {book : SettlementBook} {code : String}
    {snapshot : SettlementSnapshot} (taken : book.snapshot code = .ok snapshot) :
    snapshot.settledCash.toRat = book.cashOf (upper (strip code)) ∧
      snapshot.unsettledReceivable.toRat = book.unsettledAmount
        (fun obligation => decide (0 < obligation.amount)) (upper (strip code)) ∧
      snapshot.unsettledPayable.toRat = -book.unsettledAmount
        (fun obligation => !decide (0 < obligation.amount)) (upper (strip code)) := by
  simp only [SettlementBook.snapshot, List.partition_eq_filter_filter, bind_eq_ok,
    mapError_eq_ok, pure_eq_ok] at taken
  obtain ⟨unit, named, owed, owing, receivable, receivableSum, payable, payableSum, rfl⟩ := taken
  rw [text, guard_eq_ok, Except.ok.injEq] at named
  obtain ⟨-, rfl⟩ := named
  refine ⟨rfl, ?_, ?_⟩
  · rw [exactSum_toRat receivableSum, ← unsettledIn_sum, Decimal.toRat_zero, zero_add,
      List.map_map]
    rfl
  · rw [exactSum_toRat payableSum, owed_toRat owing, ← unsettledIn_sum, Decimal.toRat_zero,
      zero_add]
    rfl

theorem unsettledAmount_split (book : SettlementBook) (keep : SettlementObligation → Bool)
    (currency : String) :
    book.unsettledAmount (fun _ => true) currency =
      book.unsettledAmount keep currency +
        book.unsettledAmount (fun obligation => !keep obligation) currency := by
  rw [unsettledAmount, unsettledAmount, unsettledAmount, obligedIn, obligedIn, obligedIn,
    ← selectedSum_or]
  · apply selectedSum_congr
    intro obligation _
    cases keep obligation <;> simp
  · intro obligation _ both
    simp only [Bool.and_eq_true, Bool.not_eq_true'] at both
    rw [both.1.2.2] at both
    cases both.2.2.2

/-- Economic cash, where it returns, is settled cash plus the unsettled
obligations. -/
theorem economicCash_toRat {book : SettlementBook} {code : String}
    {snapshot : SettlementSnapshot} {total : Decimal}
    (taken : book.snapshot code = .ok snapshot) (summed : snapshot.economicCash = .ok total) :
    total.toRat = book.economicValue (upper (strip code)) := by
  obtain ⟨cash, receivable, payable⟩ := snapshot_toRat taken
  simp only [SettlementSnapshot.economicCash, SettlementSnapshot.netUnsettled, bind_eq_ok,
    mapError_eq_ok, exactAdd_eq_ok, exactSubtract_eq_ok] at summed
  obtain ⟨net, netSum, summed⟩ := summed
  rw [summed, netSum, cash, receivable, payable, economicValue,
    book.unsettledAmount_split fun obligation => decide (0 < obligation.amount)]
  ring

/-- Spendable cash, where it returns, is what payables and the reserve leave. -/
theorem availableToSpend_toRat {book : SettlementBook} {code : String} {reserve : DecimalInput}
    {available : Decimal} (read : book.availableToSpend code reserve = .ok available) :
    ∃ locked, decimal reserve "reserve" = .ok locked ∧
      available.toRat = max (book.spendableValue (upper (strip code)) - locked.toRat) 0 := by
  simp only [availableToSpend, bind_eq_ok, guard_eq_ok, mapError_eq_ok, exactSubtract_eq_ok,
    pure_eq_ok] at read
  obtain ⟨snapshot, taken, locked, parsed, -, uncommitted, first, rest, second, rfl⟩ := read
  refine ⟨locked, parsed, ?_⟩
  obtain ⟨cash, -, payable⟩ := snapshot_toRat taken
  have value : rest.toRat = book.spendableValue (upper (strip code)) - locked.toRat := by
    rw [second, first, cash, payable, spendableValue]
    ring
  rw [← value]
  split
  next positive => exact (max_eq_left (le_of_lt positive)).symm
  next negative => exact (max_eq_right (not_lt.mp negative)).symm

/-! ## What a call changes -/

theorem Consistent.values_ids {book : SettlementBook} (consistent : Consistent book) :
    book.obligations.values.map SettlementObligation.obligationId = book.obligations.keys := by
  rw [Dict.values, Dict.keys, List.map_map]
  apply List.map_congr_left
  rintro ⟨key, obligation⟩ member
  exact consistent.keyed key obligation (Dict.mem_entries.mp member)

/-- Settling takes one obligation out of the unsettled ones. -/
theorem unsettledAmount_applySettlement {book : SettlementBook} (consistent : Consistent book)
    {obligation : SettlementObligation} {evidence : SettlementEvidence} {total : Decimal}
    (found : book.obligations.get? evidence.obligationId = some obligation)
    (unsettled : evidence.obligationId ∉ book.settledIds)
    (keep : SettlementObligation → Bool) (currency : String) :
    (book.applySettlement obligation evidence total).unsettledAmount keep currency =
      book.unsettledAmount keep currency -
        if obligation.currency = currency ∧ keep obligation then obligation.amount.toRat
        else 0 := by
  have identity := consistent.keyed _ _ found
  have distinct : (book.obligations.values.map SettlementObligation.obligationId).Nodup := by
    rw [consistent.values_ids]
    exact book.obligations.nodup_keys
  have erased := selectedSum_erase
    (fun other : SettlementObligation => other.amount.toRat)
    (fun other => decide (other.currency = currency) &&
      (decide (other.obligationId ∉ book.settledIds) && keep other))
    distinct (Dict.mem_values.mpr ⟨_, found⟩)
  rw [unsettledAmount, unsettledAmount, obligedIn, obligedIn]
  have chosen : (decide (obligation.currency = currency) &&
      (decide (obligation.obligationId ∉ book.settledIds) && keep obligation)) =
        decide (obligation.currency = currency ∧ keep obligation) := by
    simp [identity, unsettled]
  rw [chosen] at erased
  simp only [decide_eq_true_eq] at erased
  rw [← erased]
  apply selectedSum_congr
  intro other _
  simp only [applySettlement, Finset.mem_insert, identity]
  by_cases same : other.obligationId = evidence.obligationId
  · simp [same]
  · simp [same]

theorem cashOf_applySettlement {book : SettlementBook} {obligation : SettlementObligation}
    {evidence : SettlementEvidence} {total : Decimal}
    (sum : total.toRat = book.cashOf obligation.currency + obligation.amount.toRat)
    (currency : String) :
    (book.applySettlement obligation evidence total).cashOf currency =
      book.cashOf currency +
        if obligation.currency = currency then obligation.amount.toRat else 0 := by
  rw [cashOf, applySettlement, Dict.get?_set]
  split
  next same =>
    rw [← same, ← sum]
    rfl
  next => rw [cashOf, add_zero]

/-- Settling moves an amount from the unsettled obligations into cash. -/
theorem settle_economicValue {book next : SettlementBook} (consistent : Consistent book)
    {obligationId : String} {asOf : Date} {evidence : SettlementEvidence} {changed : Bool}
    (settled : book.settle obligationId asOf evidence = .ok (next, changed))
    (currency : String) : next.economicValue currency = book.economicValue currency := by
  rcases settle_cases settled with rfl | ⟨obligation, total, found, unsettled, -, sum, rfl⟩
  · rfl
  · rw [economicValue, economicValue, cashOf_applySettlement sum,
      unsettledAmount_applySettlement consistent found unsettled]
    simp only [and_true]
    ring

/-- Settling a payable pays what was already taken off. -/
theorem settle_spendableValue {book next : SettlementBook} (consistent : Consistent book)
    {obligationId : String} {asOf : Date} {evidence : SettlementEvidence} {changed : Bool}
    {obligation : SettlementObligation}
    (settled : book.settle obligationId asOf evidence = .ok (next, changed))
    (found : book.obligations.get? evidence.obligationId = some obligation)
    (payable : obligation.amount < 0) (currency : String) :
    next.spendableValue currency = book.spendableValue currency := by
  rcases settle_cases settled with rfl | ⟨stored, total, held, unsettled, -, sum, rfl⟩
  · rfl
  · rw [found] at held
    cases held
    have owed : ¬ 0 < obligation.amount := by
      rw [Decimal.lt_def] at payable ⊢
      exact not_lt.mpr (le_of_lt payable)
    rw [spendableValue, spendableValue, cashOf_applySettlement sum,
      unsettledAmount_applySettlement consistent found unsettled]
    simp only [owed, decide_false, Bool.not_false, and_true]
    ring

/-- A receivable is not spendable before it settles. -/
theorem add_spendableValue {book next : SettlementBook} {obligation : SettlementObligation}
    {changed : Bool} (added : book.add obligation = .ok (next, changed))
    (receivable : 0 < obligation.amount) (currency : String) :
    next.spendableValue currency = book.spendableValue currency := by
  rcases add_cases added with rfl | ⟨fresh, -, rfl⟩
  · rfl
  · rw [spendableValue, spendableValue, unsettledAmount, unsettledAmount, Dict.values,
      Dict.entries_set_of_get?_eq_none fresh, obligedIn, obligedIn, selectedSum, selectedSum]
    simp [receivable, cashOf, Dict.values]

/-! ## Runs -/

/-- The book after a call, whether it returns or raises. -/
def attempt (book : SettlementBook) (invocation : SettlementCall) : SettlementBook :=
  match book.call invocation with
  | .ok next => next
  | .error _ => book

/-- The book after a sequence of calls. -/
def attempts (book : SettlementBook) (calls : List SettlementCall) : SettlementBook :=
  calls.foldl attempt book

theorem attempts_advances {book : SettlementBook} (consistent : Consistent book)
    (calls : List SettlementCall) :
    Consistent (book.attempts calls) ∧ Advances book (book.attempts calls) := by
  refine List.foldlRecOn (motive := fun current => Consistent current ∧ Advances book current)
    calls attempt ⟨consistent, Advances.refl book⟩ ?_
  rintro current ⟨held, advanced⟩ invocation _
  rw [attempt]
  split
  next next returned =>
    have moved := call_advances held returned
    exact ⟨moved.1, advanced.trans moved.2⟩
  next => exact ⟨held, advanced⟩

/-- `economic_cash` of `snapshot(currency)`. -/
def readEconomicCash (book : SettlementBook) (currency : String) :
    Except SettlementError Decimal := do
  let taken ← book.snapshot currency
  taken.economicCash

/-- What a settlement keeps: the economic cash of every currency and, when it
settles a payable, what the payables and the reserve leave to spend. -/
structure SettlesConserving (book next : SettlementBook) (paid : Prop) : Prop where
  economic : ∀ currency before after, book.readEconomicCash currency = .ok before →
    next.readEconomicCash currency = .ok after → after = before
  uncommitted : paid → ∀ currency before after, book.snapshot currency = .ok before →
    next.snapshot currency = .ok after →
      after.settledCash.toRat - after.unsettledPayable.toRat =
        before.settledCash.toRat - before.unsettledPayable.toRat
  available : paid → ∀ currency reserve before after,
    book.availableToSpend currency reserve = .ok before →
      next.availableToSpend currency reserve = .ok after → after = before

theorem readEconomicCash_toRat {book : SettlementBook} {currency : String} {total : Decimal}
    (read : book.readEconomicCash currency = .ok total) :
    total.toRat = book.economicValue (upper (strip currency)) := by
  rw [readEconomicCash, bind_eq_ok] at read
  obtain ⟨snapshot, taken, summed⟩ := read
  exact economicCash_toRat taken summed

theorem availableToSpend_congr {book next : SettlementBook} {currency : String}
    {reserve : DecimalInput} {before after : Decimal}
    (same : ∀ unit, next.spendableValue unit = book.spendableValue unit)
    (first : book.availableToSpend currency reserve = .ok before)
    (second : next.availableToSpend currency reserve = .ok after) : after = before := by
  obtain ⟨locked, parsed, value⟩ := availableToSpend_toRat first
  obtain ⟨again, parsedAgain, valueAgain⟩ := availableToSpend_toRat second
  rw [parsed, Except.ok.injEq] at parsedAgain
  subst parsedAgain
  apply Decimal.ext
  rw [value, valueAgain, same]

theorem settle_conserves {book next : SettlementBook} (consistent : Consistent book)
    {obligationId : String} {asOf : Date} {evidence : SettlementEvidence} {changed : Bool}
    (settled : book.settle obligationId asOf evidence = .ok (next, changed)) :
    SettlesConserving book next (∃ obligation,
      book.obligations.get? evidence.obligationId = some obligation ∧
        obligation.amount < 0) where
  economic currency before after first second := by
    apply Decimal.ext
    rw [readEconomicCash_toRat first, readEconomicCash_toRat second,
      settle_economicValue consistent settled]
  uncommitted := by
    rintro ⟨obligation, found, payable⟩ currency before after first second
    have same := settle_spendableValue consistent settled found payable (upper (strip currency))
    obtain ⟨cash, -, owed⟩ := snapshot_toRat first
    obtain ⟨cashAfter, -, owedAfter⟩ := snapshot_toRat second
    rw [cash, owed, cashAfter, owedAfter, sub_neg_eq_add, sub_neg_eq_add]
    exact same
  available := by
    rintro ⟨obligation, found, payable⟩ currency reserve before after first second
    exact availableToSpend_congr
      (settle_spendableValue consistent settled found payable) first second

/-- In every book reached by `add` and `settle` calls, returning or raising,
settled cash is the opening cash and the amounts of the obligations settled
since, each once.  A settlement changes no economic cash that both books report,
and one of a payable no spendable cash; a new receivable changes none either. -/
theorem cash_conserved {cash : Dict String DecimalInput}
    {obligations : List SettlementObligation} {evidence : Dict String SettlementEvidence}
    {start : SettlementBook} (opened : init cash obligations evidence = .ok start)
    (calls : List SettlementCall) :
    (∀ currency, (start.attempts calls).cashOf currency = start.cashOf currency +
      ∑ key ∈ (start.attempts calls).settledIds \ start.settledIds,
        amountIn (start.attempts calls).obligations currency key) ∧
    (∀ currency snapshot, (start.attempts calls).snapshot currency = .ok snapshot →
      snapshot.settledCash.toRat = (start.attempts calls).cashOf (upper (strip currency))) ∧
    (∀ obligationId asOf record next changed,
      (start.attempts calls).settle obligationId asOf record = .ok (next, changed) →
        SettlesConserving (start.attempts calls) next (∃ obligation,
          (start.attempts calls).obligations.get? record.obligationId = some obligation ∧
            obligation.amount < 0)) ∧
    ∀ obligation next changed,
      (start.attempts calls).add obligation = .ok (next, changed) → 0 < obligation.amount →
        ∀ currency reserve before after,
          (start.attempts calls).availableToSpend currency reserve = .ok before →
            next.availableToSpend currency reserve = .ok after → after = before := by
  obtain ⟨consistent, advances⟩ := attempts_advances (init_consistent opened) calls
  refine ⟨advances.cash, ?_, ?_, ?_⟩
  · intro currency snapshot taken
    exact (snapshot_toRat taken).1
  · intro obligationId asOf record next changed settled
    exact settle_conserves consistent settled
  · intro obligation next changed added receivable currency reserve before after first second
    exact availableToSpend_congr (add_spendableValue added receivable) first second

end Conservation

section Sample

attribute [local instance] CaseMap.ascii

/-- Obligations in dollars, all due at once: a huge receivable and two tiny
payables. -/
def strainedObligations : List SettlementObligation :=
  ([("receivable", ⟨false, 1, 56⟩), ("first", ⟨true, 5, -201⟩),
    ("second", ⟨true, 5, -201⟩)].mapM fun (item : String × DecimalTuple) =>
      SettlementObligation.create item.1 item.1 "USD" (.decimal item.2) 0 0 "CASH" none
        none).toOption.get (by decide +kernel)

/-- A book without cash that holds these obligations. -/
def strainedBook : SettlementBook :=
  (init ∅ strainedObligations ∅).toOption.get (by decide +kernel)

theorem strainedBook_opened : init ∅ strainedObligations ∅ = .ok strainedBook := eq_ok_get _

/-- Evidence that the first payable was paid. -/
def firstPaid : SettlementEvidence :=
  (SettlementEvidence.create "first" "statement" ⟨0⟩).toOption.get (by decide +kernel)

/-- The book after that payment. -/
def paidBook : SettlementBook :=
  ((strainedBook.settle "first" 0 firstPaid).toOption.get (by decide +kernel)).1

/-- The payment leaves what the remaining payable lets spend. -/
theorem paidBook_conserves :
    strainedBook.settle "first" 0 firstPaid = .ok (paidBook, true) ∧
      SettlesConserving strainedBook paidBook (∃ obligation,
        strainedBook.obligations.get? "first" = some obligation ∧ obligation.amount < 0) := by
  have settled : strainedBook.settle "first" 0 firstPaid = .ok (paidBook, true) := by
    decide +kernel
  exact ⟨settled,
    (cash_conserved strainedBook_opened []).2.2.1 "first" 0 firstPaid paidBook true settled⟩

/-- Settling one of the payables makes `economic_cash` raise: the other payable
taken off the receivable needs one digit more than an exact decimal has. -/
theorem economicCash_raises_after_settlement :
    ¬ ∀ (book next : SettlementBook) (obligations : List SettlementObligation)
      (obligationId : String) (asOf : Date) (evidence : SettlementEvidence)
      (currency : String), init ∅ obligations ∅ = .ok book →
        book.settle obligationId asOf evidence = .ok (next, true) →
          next.readEconomicCash currency = book.readEconomicCash currency := by
  intro unchanged
  have same := unchanged strainedBook paidBook strainedObligations "first" 0 firstPaid "USD"
    strainedBook_opened (by decide +kernel)
  have before : (strainedBook.readEconomicCash "USD").toOption.isSome := by decide +kernel
  have after : (paidBook.readEconomicCash "USD").toOption.isSome = false := by decide +kernel
  rw [same, before] at after
  cases after

end Sample

end SettlementBook

end AutoTrade.Settlement
