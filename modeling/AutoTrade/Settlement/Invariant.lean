import AutoTrade.Settlement.Book
import Mathlib.Algebra.BigOperators.Group.Finset.Basic

/-!
# Settlement book invariants

What every book reached by `add` and `settle` satisfies (`Consistent`), and how
calls that return move a book (`Advances`): nothing known is lost, and settled
cash grows by exactly the amounts of the newly settled obligations.
-/

namespace AutoTrade.Settlement

open Lib Numeric

variable [CaseMap]

namespace SettlementBook

/-- Settled cash of a currency as a rational. -/
def cashOf (book : SettlementBook) (currency : String) : ℚ :=
  ((book.settledCash.get? currency).getD 0).toRat

/-- What settling an obligation adds to a currency. -/
def amountIn (obligations : Dict String SettlementObligation) (currency obligationId : String) :
    ℚ :=
  match obligations.get? obligationId with
  | some obligation => if obligation.currency = currency then obligation.amount.toRat else 0
  | none => 0

/-! ## Consistent books -/

/-- What every book reached by `add` and `settle` satisfies. -/
structure Consistent (book : SettlementBook) : Prop where
  keyed : ∀ key obligation, book.obligations.get? key = some obligation →
    obligation.obligationId = key
  indexed : ∀ key obligation, book.obligations.get? key = some obligation →
    book.byCauseComponent.get? (obligation.causeEventId, obligation.componentId) =
      some obligation
  settled : ∀ key, key ∈ book.settledIds ↔ key ∈ book.settlementEvidence.keys
  evidenced : ∀ key record, book.settlementEvidence.get? key = some record →
    record.obligationId = key ∧ ∃ obligation, book.obligations.get? key = some obligation ∧
      obligation.settlementDate ≤ record.observedAt.date
  currencies : ∀ currency ∈ book.settledCash.keys, Normal currency ∧ upper currency = currency

/-- How a call that returns moves a book: nothing known is lost, and cash grows
by the amounts of the newly settled obligations. -/
structure Advances (before after : SettlementBook) : Prop where
  obligations : ∀ key obligation, before.obligations.get? key = some obligation →
    after.obligations.get? key = some obligation
  evidence : ∀ key record, before.settlementEvidence.get? key = some record →
    after.settlementEvidence.get? key = some record
  settledIds : before.settledIds ⊆ after.settledIds
  known : ∀ key ∈ after.settledIds \ before.settledIds, key ∈ after.obligations.keys
  cash : ∀ currency, after.cashOf currency = before.cashOf currency +
    ∑ key ∈ after.settledIds \ before.settledIds, amountIn after.obligations currency key
  currencies : ∀ currency, currency ∈ after.settledCash.keys ↔
    currency ∈ before.settledCash.keys ∨
      ∃ key ∈ after.settledIds \ before.settledIds, ∃ obligation,
        after.obligations.get? key = some obligation ∧ obligation.currency = currency

namespace Advances

theorem refl (book : SettlementBook) : Advances book book where
  obligations _ _ found := found
  evidence _ _ found := found
  settledIds := Finset.Subset.refl _
  known key member := by simp at member
  cash currency := by simp
  currencies currency := by simp

theorem amountIn_eq {before after : SettlementBook} (advances : Advances before after)
    {key : String} (known : key ∈ before.obligations.keys) (currency : String) :
    amountIn after.obligations currency key = amountIn before.obligations currency key := by
  obtain ⟨obligation, found⟩ := Dict.mem_keys.mp known
  rw [amountIn, amountIn, found, advances.obligations key obligation found]

theorem trans {first second third : SettlementBook} (left : Advances first second)
    (right : Advances second third) : Advances first third := by
  have newIds : third.settledIds \ first.settledIds =
      (second.settledIds \ first.settledIds) ∪ (third.settledIds \ second.settledIds) := by
    ext key
    have leftSubset := @left.settledIds key
    have rightSubset := @right.settledIds key
    simp only [Finset.mem_sdiff, Finset.mem_union]
    tauto
  have disjoint : Disjoint (second.settledIds \ first.settledIds)
      (third.settledIds \ second.settledIds) := by
    rw [Finset.disjoint_left]
    intro key inSecond inThird
    exact (Finset.mem_sdiff.mp inThird).2 (Finset.mem_sdiff.mp inSecond).1
  have knownThird : ∀ key ∈ second.settledIds \ first.settledIds,
      key ∈ third.obligations.keys := by
    intro key member
    obtain ⟨obligation, found⟩ := Dict.mem_keys.mp (left.known key member)
    exact Dict.mem_keys.mpr ⟨obligation, right.obligations key obligation found⟩
  constructor
  · intro key obligation found
    exact right.obligations key obligation (left.obligations key obligation found)
  · intro key record found
    exact right.evidence key record (left.evidence key record found)
  · exact Finset.Subset.trans left.settledIds right.settledIds
  · intro key member
    rw [newIds, Finset.mem_union] at member
    rcases member with early | late
    · exact knownThird key early
    · exact right.known key late
  · intro currency
    rw [newIds, Finset.sum_union disjoint, right.cash currency, left.cash currency]
    have early : ∑ key ∈ second.settledIds \ first.settledIds,
          amountIn third.obligations currency key =
        ∑ key ∈ second.settledIds \ first.settledIds,
          amountIn second.obligations currency key :=
      Finset.sum_congr rfl fun key member =>
        right.amountIn_eq (left.known key member) currency
    rw [early]
    ring
  · intro currency
    rw [newIds, right.currencies, left.currencies, or_assoc]
    apply or_congr Iff.rfl
    constructor
    · rintro (⟨key, member, obligation, found, same⟩ | ⟨key, member, obligation, found, same⟩)
      · exact ⟨key, Finset.mem_union_left _ member, obligation,
          right.obligations key obligation found, same⟩
      · exact ⟨key, Finset.mem_union_right _ member, obligation, found, same⟩
    · rintro ⟨key, member, obligation, found, same⟩
      rcases Finset.mem_union.mp member with early | late
      · obtain ⟨stored, storedFound⟩ := Dict.mem_keys.mp (left.known key early)
        have equal := right.obligations key stored storedFound
        rw [found] at equal
        cases equal
        exact .inl ⟨key, early, obligation, storedFound, same⟩
      · exact .inr ⟨key, late, obligation, found, same⟩

end Advances

/-! ## Calls inverted -/

theorem add_cases {book next : SettlementBook} {obligation : SettlementObligation}
    {changed : Bool} (success : book.add obligation = .ok (next, changed)) :
    next = book ∨
      (book.obligations.get? obligation.obligationId = none ∧
        book.byCauseComponent.get? (obligation.causeEventId, obligation.componentId) = none ∧
        next = { book with
          obligations := book.obligations.set obligation.obligationId obligation
          byCauseComponent := book.byCauseComponent.set
            (obligation.causeEventId, obligation.componentId) obligation }) := by
  simp only [add] at success
  split at success
  next existing found =>
    rw [guard_eq_ok] at success
    cases success.2
    exact .inl rfl
  next fresh =>
    rw [guard_eq_ok] at success
    obtain ⟨unused, equal⟩ := success
    cases equal
    exact .inr ⟨fresh, by simpa using unused, rfl⟩

/-- A settlement that returns is a retry or applies one obligation in full. -/
theorem settle_cases {book next : SettlementBook} {obligationId : String} {asOf : Date}
    {evidence : SettlementEvidence} {changed : Bool}
    (success : book.settle obligationId asOf evidence = .ok (next, changed)) :
    next = book ∨
      ∃ obligation total, book.obligations.get? evidence.obligationId = some obligation ∧
        evidence.obligationId ∉ book.settledIds ∧
        obligation.settlementDate ≤ evidence.observedAt.date ∧
        total.toRat = book.cashOf obligation.currency + obligation.amount.toRat ∧
        next = book.applySettlement obligation evidence total := by
  rw [settle, bind_eq_ok] at success
  obtain ⟨key, -, rest⟩ := success
  rw [guard_eq_ok, not_not] at rest
  obtain ⟨rfl, rest⟩ := rest
  split at rest
  · cases rest
  next obligation found =>
    split at rest
    next =>
      rw [guard_eq_ok, pure_eq_ok] at rest
      cases rest.2
      exact .inl rfl
    next unsettled =>
      simp only [guard_eq_ok, bind_eq_ok, mapError_eq_ok, exactAdd_eq_ok, pure_eq_ok] at rest
      obtain ⟨-, notEarly, -, total, sum, equal⟩ := rest
      cases equal
      exact .inr ⟨obligation, total, found, unsettled, Int.not_lt.mp notEarly, sum, rfl⟩

/-- A settlement whose checks pass depends only on the cash sum. -/
theorem settle_eq_ok {book : SettlementBook} {asOf : Date} {evidence : SettlementEvidence}
    {obligation : SettlementObligation}
    (found : book.obligations.get? evidence.obligationId = some obligation)
    (unsettled : evidence.obligationId ∉ book.settledIds)
    (due : obligation.settlementDate ≤ evidence.observedAt.date)
    (observed : evidence.observedAt.date ≤ asOf) :
    book.settle evidence.obligationId asOf evidence =
      ((exactAdd ((book.settledCash.get? obligation.currency).getD 0)
        obligation.amount).mapError .exactDecimal).map fun total =>
          (book.applySettlement obligation evidence total, true) := by
  have keyText : text evidence.obligationId "obligation_id" = .ok evidence.obligationId := by
    have normal := evidence.obligationIdNormal
    rw [text, normal.1, if_neg normal.2]
  have asOfDue : ¬ asOf < obligation.settlementDate :=
    Int.not_lt.mpr (Int.le_trans due observed)
  simp only [settle, keyText, bind, Except.bind, ne_eq, not_true, if_false, found,
    if_neg unsettled, if_neg asOfDue, if_neg (Int.not_lt.mpr due),
    if_neg (Int.not_lt.mpr observed)]
  cases exactAdd ((book.settledCash.get? obligation.currency).getD 0) obligation.amount <;> rfl

/-! ## Runs -/

theorem Advances.add {book next : SettlementBook} {obligation : SettlementObligation}
    {changed : Bool} (success : book.add obligation = .ok (next, changed)) :
    Advances book next := by
  rcases add_cases success with same | ⟨fresh, -, rfl⟩
  · rw [same]
    exact Advances.refl book
  · constructor
    · intro key stored found
      rw [Dict.get?_set_of_ne]
      · exact found
      · intro same
        rw [← same, fresh] at found
        cases found
    · intro key record found
      exact found
    · exact Finset.Subset.refl _
    · intro key member
      simp at member
    · intro currency
      simp [cashOf]
    · intro currency
      simp

theorem Advances.applySettlement {book : SettlementBook} {obligation : SettlementObligation}
    {evidence : SettlementEvidence} {total : Decimal} (consistent : Consistent book)
    (found : book.obligations.get? evidence.obligationId = some obligation)
    (unsettled : evidence.obligationId ∉ book.settledIds)
    (sum : total.toRat = book.cashOf obligation.currency + obligation.amount.toRat) :
    Advances book (book.applySettlement obligation evidence total) := by
  have newIds : insert evidence.obligationId book.settledIds \ book.settledIds =
      {evidence.obligationId} := by
    rw [Finset.insert_sdiff_of_notMem _ unsettled, Finset.sdiff_self, insert_empty_eq]
  constructor
  · intro key stored storedFound
    exact storedFound
  · intro key record recordFound
    simp only [SettlementBook.applySettlement]
    rw [Dict.get?_set_of_ne]
    · exact recordFound
    · intro same
      apply unsettled
      rw [consistent.settled, same]
      exact Dict.mem_keys.mpr ⟨record, recordFound⟩
  · exact Finset.subset_insert _ _
  · intro key member
    simp only [SettlementBook.applySettlement, newIds, Finset.mem_singleton] at member
    rw [member]
    exact Dict.mem_keys.mpr ⟨obligation, found⟩
  · intro currency
    simp only [SettlementBook.applySettlement, newIds, Finset.sum_singleton, amountIn, found,
      cashOf, Dict.get?_set]
    split
    next same =>
      subst same
      exact sum
    next => exact (add_zero _).symm
  · intro currency
    simp only [SettlementBook.applySettlement, newIds, Finset.mem_singleton, exists_eq_left,
      found, Option.some.injEq, Dict.mem_keys_set, exists_eq_left']
    exact or_comm

theorem Advances.settle {book next : SettlementBook} {obligationId : String} {asOf : Date}
    {evidence : SettlementEvidence} {changed : Bool} (consistent : Consistent book)
    (success : book.settle obligationId asOf evidence = .ok (next, changed)) :
    Advances book next := by
  rcases settle_cases success with same | ⟨obligation, total, found, unsettled, -, sum, rfl⟩
  · rw [same]
    exact Advances.refl book
  · exact Advances.applySettlement consistent found unsettled sum

theorem Consistent.add {book next : SettlementBook} {obligation : SettlementObligation}
    {changed : Bool} (consistent : Consistent book)
    (success : book.add obligation = .ok (next, changed)) : Consistent next := by
  have advances := Advances.add success
  rcases add_cases success with same | ⟨fresh, unused, rfl⟩
  · rw [same]
    exact consistent
  · constructor
    · intro key stored found
      rw [Dict.get?_set] at found
      split at found
      next same =>
        cases found
        exact same
      next => exact consistent.keyed key stored found
    · intro key stored found
      rw [Dict.get?_set] at found
      split at found
      next =>
        cases found
        exact Dict.get?_set_self _ _ _
      next =>
        have index := consistent.indexed key stored found
        rw [Dict.get?_set_of_ne]
        · exact index
        · intro same
          rw [← same, unused] at index
          cases index
    · exact consistent.settled
    · intro key record found
      obtain ⟨identity, stored, storedFound, due⟩ := consistent.evidenced key record found
      exact ⟨identity, stored, advances.obligations key stored storedFound, due⟩
    · exact consistent.currencies

/-- Recording evidence settles exactly its obligation. -/
theorem Consistent.settled_set {book : SettlementBook} (consistent : Consistent book)
    (obligationId : String) (evidence : SettlementEvidence) (key : String) :
    key ∈ insert obligationId book.settledIds ↔
      key ∈ (book.settlementEvidence.set obligationId evidence).keys := by
  rw [Finset.mem_insert, consistent.settled, Dict.mem_keys_set, eq_comm]

theorem Consistent.evidenced_set {book : SettlementBook} (consistent : Consistent book)
    {obligation : SettlementObligation} {evidence : SettlementEvidence}
    (found : book.obligations.get? evidence.obligationId = some obligation)
    (due : obligation.settlementDate ≤ evidence.observedAt.date) (key : String)
    (record : SettlementEvidence)
    (stored : (book.settlementEvidence.set evidence.obligationId evidence).get? key =
      some record) :
    record.obligationId = key ∧ ∃ obligation, book.obligations.get? key = some obligation ∧
      obligation.settlementDate ≤ record.observedAt.date := by
  rw [Dict.get?_set] at stored
  split at stored
  next same =>
    cases stored
    exact ⟨same, obligation, same ▸ found, due⟩
  next => exact consistent.evidenced key record stored

theorem Consistent.applySettlement {book : SettlementBook}
    {obligation : SettlementObligation} {evidence : SettlementEvidence}
    (consistent : Consistent book)
    (found : book.obligations.get? evidence.obligationId = some obligation)
    (due : obligation.settlementDate ≤ evidence.observedAt.date) (total : Decimal) :
    Consistent (book.applySettlement obligation evidence total) := by
  constructor
  · exact consistent.keyed
  · exact consistent.indexed
  · exact consistent.settled_set evidence.obligationId evidence
  · exact consistent.evidenced_set found due
  · intro currency member
    rw [SettlementBook.applySettlement, Dict.mem_keys_set] at member
    rcases member with same | old
    · rw [← same]
      exact ⟨obligation.currencyNormal, obligation.currencyUpper⟩
    · exact consistent.currencies currency old

theorem Consistent.settle {book next : SettlementBook} {obligationId : String} {asOf : Date}
    {evidence : SettlementEvidence} {changed : Bool} (consistent : Consistent book)
    (success : book.settle obligationId asOf evidence = .ok (next, changed)) :
    Consistent next := by
  rcases settle_cases success with same | ⟨obligation, total, found, -, due, -, rfl⟩
  · rw [same]
    exact consistent
  · exact consistent.applySettlement found due total

/-- One call that returns keeps the book consistent and advances it. -/
theorem call_advances {book next : SettlementBook} {invocation : SettlementCall}
    (consistent : Consistent book) (success : book.call invocation = .ok next) :
    Consistent next ∧ Advances book next := by
  cases invocation with
  | add obligation =>
      rw [call, map_fst_eq_ok] at success
      obtain ⟨changed, added⟩ := success
      exact ⟨consistent.add added, Advances.add added⟩
  | settle obligationId asOf evidence =>
      rw [call, map_fst_eq_ok] at success
      obtain ⟨changed, settled⟩ := success
      exact ⟨consistent.settle settled, Advances.settle consistent settled⟩

/-- Calls that return keep the book consistent and advance it. -/
theorem run_advances {book final : SettlementBook} {calls : List SettlementCall}
    (consistent : Consistent book) (success : book.run calls = .ok final) :
    Consistent final ∧ Advances book final := by
  refine foldlM_invariant (fun current => Consistent current ∧ Advances book current) ?_
    ⟨consistent, Advances.refl book⟩ success
  intro invocation _ before after holds step
  have moved := call_advances holds.1 step
  exact ⟨moved.1, holds.2.trans moved.2⟩

/-! ## Construction -/

omit [CaseMap] in
theorem text_of_normal {value : String} (normal : Normal value) (name : String) :
    text value name = .ok value := by
  rw [text, normal.1, if_neg normal.2]

theorem addCash_cases {currencyName duplicate amountName : String}
    {before after : Dict String Decimal} {item : String × DecimalInput}
    (success : addCash currencyName duplicate amountName before item = .ok after) :
    ∃ unit amount, Normal unit ∧ upper unit = unit ∧ after = before.set unit amount := by
  simp only [addCash, bind_eq_ok, guard_eq_ok, pure_eq_ok] at success
  obtain ⟨currency, currencyText, -, amount, -, rfl⟩ := success
  simp only [text, guard_eq_ok, Except.ok.injEq] at currencyText
  obtain ⟨nonempty, rfl⟩ := currencyText
  exact ⟨_, amount, normal_upper (normal_strip nonempty), CaseMap.upper_upper _, rfl⟩

/-- A normalization loop leaves canonical currencies. -/
theorem addCash_currencies {currencyName duplicate amountName : String}
    {items : List (String × DecimalInput)} {cash : Dict String Decimal}
    (success : items.foldlM (addCash currencyName duplicate amountName) ∅ = .ok cash) :
    ∀ currency ∈ cash.keys, Normal currency ∧ upper currency = currency := by
  refine foldlM_invariant (fun current : Dict String Decimal =>
    ∀ currency ∈ current.keys, Normal currency ∧ upper currency = currency) ?_ (by simp)
    success
  intro item _ before after holds step currency member
  obtain ⟨unit, amount, normal, isUpper, rfl⟩ := addCash_cases step
  rw [Dict.mem_keys_set] at member
  rcases member with same | old
  · rw [← same]
    exact ⟨normal, isUpper⟩
  · exact holds currency old

theorem restoreEvidence_cases {book next : SettlementBook}
    {item : String × SettlementEvidence} (success : book.restoreEvidence item = .ok next) :
    ∃ obligation, book.obligations.get? item.2.obligationId = some obligation ∧
      obligation.settlementDate ≤ item.2.observedAt.date ∧
      next = { book with
        settledIds := insert item.2.obligationId book.settledIds
        settlementEvidence :=
          book.settlementEvidence.set item.2.obligationId item.2 } := by
  rw [restoreEvidence, bind_eq_ok] at success
  obtain ⟨key, -, rest⟩ := success
  rw [guard_eq_ok, not_not] at rest
  obtain ⟨rfl, rest⟩ := rest
  split at rest
  · cases rest
  next obligation found =>
    simp only [guard_eq_ok, pure_eq_ok] at rest
    obtain ⟨-, due, equal⟩ := rest
    exact ⟨obligation, found, Int.not_lt.mp due, equal.symm⟩

theorem Consistent.restoreEvidence {book next : SettlementBook}
    {item : String × SettlementEvidence} (consistent : Consistent book)
    (success : book.restoreEvidence item = .ok next) : Consistent next := by
  obtain ⟨obligation, found, due, rfl⟩ := restoreEvidence_cases success
  constructor
  · exact consistent.keyed
  · exact consistent.indexed
  · exact consistent.settled_set item.2.obligationId item.2
  · exact consistent.evidenced_set found due
  · exact consistent.currencies

/-- A constructed book is consistent. -/
theorem init_consistent {settledCash : Dict String DecimalInput}
    {obligations : List SettlementObligation} {evidence : Dict String SettlementEvidence}
    {book : SettlementBook} (success : init settledCash obligations evidence = .ok book) :
    Consistent book := by
  simp only [init, bind_eq_ok] at success
  obtain ⟨cash, cashOk, added, addedOk, restored⟩ := success
  have canonical := addCash_currencies cashOk
  have opened : Consistent ⟨cash, ∅, ∅, ∅, ∅⟩ := by
    constructor
    · simp
    · simp
    · simp
    · simp
    · exact canonical
  have withObligations : Consistent added := by
    refine foldlM_invariant Consistent ?_ opened addedOk
    intro obligation _ before after holds step
    obtain ⟨changed, addition⟩ := map_fst_eq_ok.mp step
    exact holds.add addition
  refine foldlM_invariant Consistent ?_ withObligations restored
  intro item _ before after holds step
  exact holds.restoreEvidence step

end SettlementBook

end AutoTrade.Settlement
