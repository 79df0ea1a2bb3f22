import AutoTrade.Lib.Numbered
import AutoTrade.Settlement.Restart

/-!
# Settling due obligations

`settle_due` selects the due obligations whose evidence was observed and settles
them one after the other on the live book.  Its selection does not ask whether
the evidence predates the settlement date, which `settle` rejects, so a call that
raises may leave the obligations before the rejected one settled.
-/

namespace AutoTrade.Settlement

open Lib Numeric

namespace SettlementBook

/-- The supplied evidence of an obligation. -/
def suppliedRecord (evidence : Dict String SettlementEvidence) (obligationId : String) :
    Option SettlementEvidence :=
  evidence.values.find? fun record => record.obligationId = obligationId

theorem suppliedRecord_named {evidence : Dict String SettlementEvidence} {obligationId : String}
    {record : SettlementEvidence} (found : suppliedRecord evidence obligationId = some record) :
    record.obligationId = obligationId := by
  have same := List.find?_some found
  exact of_decide_eq_true same

section Calls

variable [CaseMap]

/-- One entry of the evidence loop of `settle_due`. -/
def supplyEvidence (obligations : Dict String SettlementObligation)
    (normalized : Dict String SettlementEvidence) (item : String × SettlementEvidence) :
    Except SettlementError (Dict String SettlementEvidence) := do
  let obligationId ← text item.1 "settlement_evidence obligation_id"
  if item.2.obligationId ≠ obligationId then
    .error (.conflict "settlement evidence key does not match evidence obligation_id")
  else if (obligations.get? obligationId).isNone then
    .error (.conflict "settlement evidence references an unknown obligation")
  else if (normalized.get? obligationId).isSome then
    .error (.conflict "settlement evidence contains duplicate normalized obligation ids")
  else pure (normalized.set obligationId item.2)

/-- Obligations in the order of `(settlement_date, obligation_id)`. -/
def dueObligations (obligations : Dict String SettlementObligation) :
    List SettlementObligation :=
  obligations.values.insertionSort fun left right =>
    (toLex (left.settlementDate, left.obligationId) : Date ×ₗ String) ≤
      toLex (right.settlementDate, right.obligationId)

/-- The evidence under which the loop settles an obligation. -/
def dueRecord (book : SettlementBook) (asOf : Date)
    (lookup : String → Option SettlementEvidence) (obligation : SettlementObligation) :
    Option SettlementEvidence :=
  (lookup obligation.obligationId).filter fun record =>
    obligation.obligationId ∉ book.settledIds ∧ obligation.settlementDate ≤ asOf ∧
      record.observedAt.date ≤ asOf

/-- The loop of `settle_due`, which mutates the live book. -/
def settleEach (asOf : Date) (lookup : String → Option SettlementEvidence) :
    List SettlementObligation → SettlementBook → List String →
      SettlementBook × Except SettlementError (List String)
  | [], book, settled => (book, .ok settled)
  | obligation :: rest, book, settled =>
      match book.dueRecord asOf lookup obligation with
      | none => settleEach asOf lookup rest book settled
      | some record =>
          match book.settle obligation.obligationId asOf record with
          | .error error => (book, .error error)
          | .ok (next, _) =>
              settleEach asOf lookup rest next (settled ++ [obligation.obligationId])

/-- `settle_due`, with the book that it leaves. -/
def settleDue (book : SettlementBook) (asOf : Date) (evidence : Dict String SettlementEvidence) :
    SettlementBook × Except SettlementError (List String) :=
  match evidence.entries.foldlM (supplyEvidence book.obligations) ∅ with
  | .error error => (book, .error error)
  | .ok normalized => settleEach asOf normalized.get? (dueObligations book.obligations) book []

/-! ## Supplied evidence -/

/-- The evidence dict names known obligations, each at most once. -/
structure Acceptable (obligations : Dict String SettlementObligation)
    (items : List (String × SettlementEvidence)) : Prop where
  named : ∀ item ∈ items, strip item.1 = item.2.obligationId
  known : ∀ item ∈ items, item.2.obligationId ∈ obligations.keys
  distinct : (items.map fun item => item.2.obligationId).Nodup

theorem supplyEvidence_eq_ok {obligations : Dict String SettlementObligation}
    {normalized next : Dict String SettlementEvidence} {item : String × SettlementEvidence} :
    supplyEvidence obligations normalized item = .ok next ↔
      (strip item.1 = item.2.obligationId ∧ item.2.obligationId ∈ obligations.keys ∧
        normalized.get? item.2.obligationId = none) ∧
          normalized.set item.2.obligationId item.2 = next := by
  simp only [supplyEvidence, text, bind_eq_ok, guard_eq_ok, pure_eq_ok, Except.ok.injEq]
  constructor
  · rintro ⟨_, ⟨-, rfl⟩, named, known, fresh, rfl⟩
    rw [not_not] at named
    rw [Option.isNone_iff_eq_none, ← ne_eq, Option.ne_none_iff_exists'] at known
    rw [Bool.not_eq_true, Option.isSome_eq_false_iff, Option.isNone_iff_eq_none] at fresh
    rw [named]
    exact ⟨⟨rfl, Dict.mem_keys.mpr known, fresh⟩, rfl⟩
  · rintro ⟨⟨named, known, fresh⟩, rfl⟩
    obtain ⟨obligation, found⟩ := Dict.mem_keys.mp known
    refine ⟨item.2.obligationId, ⟨?_, named⟩, not_not.mpr rfl, ?_, ?_, rfl⟩
    · rw [named]
      exact item.2.obligationIdNormal.2
    · simp [found]
    · simp [fresh]

/-- The evidence loop returns exactly on acceptable evidence. -/
theorem supplyAll_eq_ok {obligations : Dict String SettlementObligation}
    {items : List (String × SettlementEvidence)}
    {current normalized : Dict String SettlementEvidence} :
    items.foldlM (supplyEvidence obligations) current = .ok normalized ↔
      (Acceptable obligations items ∧
        ∀ item ∈ items, current.get? item.2.obligationId = none) ∧
          current.setAll (items.map fun item => (item.2.obligationId, item.2)) = normalized := by
  induction items generalizing current with
  | nil =>
      rw [List.foldlM_nil, pure_eq_ok]
      have empty : Acceptable obligations [] := ⟨by simp, by simp, List.nodup_nil⟩
      simp [empty, Dict.setAll]
  | cons item rest ih =>
      simp only [List.foldlM_cons, bind_eq_ok, supplyEvidence_eq_ok, ih]
      constructor
      · rintro ⟨_, ⟨⟨named, known, fresh⟩, rfl⟩, ⟨acceptable, unused⟩, rfl⟩
        have apart : ∀ other ∈ rest, item.2.obligationId ≠ other.2.obligationId := by
          intro other member same
          have none_ := unused other member
          rw [same, Dict.get?_set_self] at none_
          cases none_
        refine ⟨⟨⟨?_, ?_, ?_⟩, ?_⟩, rfl⟩
        · exact List.forall_mem_cons.mpr ⟨named, acceptable.named⟩
        · exact List.forall_mem_cons.mpr ⟨known, acceptable.known⟩
        · rw [List.map_cons, List.nodup_cons, List.mem_map]
          refine ⟨?_, acceptable.distinct⟩
          rintro ⟨other, member, same⟩
          exact apart other member same.symm
        · rw [List.forall_mem_cons]
          refine ⟨fresh, fun other member => ?_⟩
          rw [← Dict.get?_set_of_ne current item.2 (apart other member)]
          exact unused other member
      · rintro ⟨⟨⟨named, known, distinct⟩, fresh⟩, rfl⟩
        rw [List.forall_mem_cons] at named known fresh
        rw [List.map_cons, List.nodup_cons] at distinct
        refine ⟨_, ⟨⟨named.1, known.1, fresh.1⟩, rfl⟩,
          ⟨⟨named.2, known.2, distinct.2⟩, fun other member => ?_⟩, rfl⟩
        rw [Dict.get?_set_of_ne]
        · exact fresh.2 other member
        · intro same
          exact distinct.1 (List.mem_map.mpr ⟨other, member, same.symm⟩)

/-- Acceptable evidence is looked up by the obligation that it names. -/
theorem supplied_of_acceptable {obligations : Dict String SettlementObligation}
    {evidence : Dict String SettlementEvidence}
    (acceptable : Acceptable obligations evidence.entries) :
    ∃ normalized : Dict String SettlementEvidence,
      evidence.entries.foldlM (supplyEvidence obligations) ∅ = .ok normalized ∧
        normalized.get? = suppliedRecord evidence := by
  refine ⟨_, supplyAll_eq_ok.mpr ⟨⟨acceptable, fun _ _ => rfl⟩, rfl⟩, ?_⟩
  have keys : ((evidence.entries.map fun item => (item.2.obligationId, item.2)).map
      Prod.fst).Nodup := by
    rw [List.map_map]
    exact acceptable.distinct
  have entries := Dict.entries_setAll_empty keys
  have distinct : (evidence.values.map SettlementEvidence.obligationId).Nodup := by
    rw [Dict.values, List.map_map]
    exact acceptable.distinct
  funext obligationId
  apply Option.ext
  intro record
  rw [← Dict.mem_entries, entries, List.mem_map]
  constructor
  · rintro ⟨item, member, equal⟩
    cases equal
    exact find?_key distinct (List.mem_map.mpr ⟨item, member, rfl⟩)
  · intro found
    obtain ⟨item, member, rfl⟩ := List.mem_map.mp (List.mem_of_find?_eq_some found)
    exact ⟨item, member, congrArg (fun id => (id, item.2)) (suppliedRecord_named found)⟩

/-! ## The loop -/

/-- An obligation that `settle` rejects under the supplied evidence. -/
def Rejected (book : SettlementBook) (lookup : String → Option SettlementEvidence)
    (obligation : SettlementObligation) : Prop :=
  (∃ record, lookup obligation.obligationId = some record ∧
    record.observedAt.date < obligation.settlementDate) ∨
      ¬ Representable (book.cashOf obligation.currency + obligation.amount.toRat)

/-- No obligation of the list has evidence that predates its settlement date, and
every running total is representable. -/
structure Clear (obligations : Dict String SettlementObligation) (cash : String → ℚ)
    (lookup : String → Option SettlementEvidence) (due : List SettlementObligation) : Prop where
  observed : ∀ obligation ∈ due, ∀ record, lookup obligation.obligationId = some record →
    obligation.settlementDate ≤ record.observedAt.date
  representable : SumsRepresentable obligations cash (due.map SettlementObligation.obligationId)

/-- Obligations of a book that the loop settles. -/
structure Settling (asOf : Date) (lookup : String → Option SettlementEvidence)
    (book : SettlementBook) (due : List SettlementObligation) : Prop where
  consistent : Consistent book
  distinct : (due.map SettlementObligation.obligationId).Nodup
  known : ∀ obligation ∈ due,
    book.obligations.get? obligation.obligationId = some obligation
  pending : ∀ obligation ∈ due, ∃ record, book.dueRecord asOf lookup obligation = some record

variable {asOf : Date} {lookup : String → Option SettlementEvidence} {book : SettlementBook}
  {obligation : SettlementObligation} {rest due : List SettlementObligation}

theorem dueRecord_eq_some {record : SettlementEvidence} :
    book.dueRecord asOf lookup obligation = some record ↔
      lookup obligation.obligationId = some record ∧ obligation.obligationId ∉ book.settledIds ∧
        obligation.settlementDate ≤ asOf ∧ record.observedAt.date ≤ asOf := by
  rw [dueRecord, Option.filter_eq_some_iff, decide_eq_true_iff]

/-- What is settled does not change what is due elsewhere. -/
theorem dueRecord_applySettlement {record : SettlementEvidence} {total : Decimal}
    {other : SettlementObligation} (apart : other.obligationId ≠ record.obligationId) :
    (book.applySettlement obligation record total).dueRecord asOf lookup other =
      book.dueRecord asOf lookup other := by
  have same : other.obligationId ∉ insert record.obligationId book.settledIds ↔
      other.obligationId ∉ book.settledIds := by
    rw [Finset.mem_insert, not_or, and_iff_right apart]
  simp only [dueRecord, applySettlement, same]

/-- The running totals after the first of the list. -/
theorem clear_cons {obligations : Dict String SettlementObligation} {cash : String → ℚ} :
    Clear obligations cash lookup (obligation :: rest) ↔
      (∀ record, lookup obligation.obligationId = some record →
        obligation.settlementDate ≤ record.observedAt.date) ∧
      (∀ currency, Representable (cash currency)) ∧
        Clear obligations (fun currency => cash currency +
          amountIn obligations currency obligation.obligationId) lookup rest := by
  constructor
  · rintro ⟨observed, sums⟩
    rw [List.forall_mem_cons] at observed
    rw [List.map_cons, sumsRepresentable_cons] at sums
    exact ⟨observed.1, sums.1, observed.2, sums.2⟩
  · rintro ⟨first, start, observed, sums⟩
    constructor
    · exact List.forall_mem_cons.mpr ⟨first, observed⟩
    · rw [List.map_cons, sumsRepresentable_cons]
      exact ⟨start, sums⟩

theorem representable_cashOf (book : SettlementBook) (currency : String) :
    Representable (book.cashOf currency) :=
  ((book.settledCash.get? currency).getD 0).bounded

/-- Where the loop settles its next obligation. -/
structure Settled (asOf : Date) (lookup : String → Option SettlementEvidence)
    (book next : SettlementBook) (obligation : SettlementObligation)
    (rest : List SettlementObligation) : Prop where
  settling : Settling asOf lookup next rest
  observed : ∀ record, lookup obligation.obligationId = some record →
    obligation.settlementDate ≤ record.observedAt.date
  obligations : next.obligations = book.obligations
  settledIds : next.settledIds = insert obligation.obligationId book.settledIds
  evidence : ∀ key, next.settlementEvidence.get? key =
    if obligation.obligationId = key then lookup key else book.settlementEvidence.get? key
  cash : next.cashOf = fun currency => book.cashOf currency +
    amountIn book.obligations currency obligation.obligationId

/-- The spec lemma of `settle` for an obligation that the loop selects. -/
theorem settle_selected {record : SettlementEvidence}
    (found : book.obligations.get? record.obligationId = some obligation)
    (unsettled : record.obligationId ∉ book.settledIds)
    (matured : obligation.settlementDate ≤ asOf) (observed : record.observedAt.date ≤ asOf) :
    book.settle record.obligationId asOf record =
      if record.observedAt.date < obligation.settlementDate then
        .error (.conflict "settlement evidence predates contractual settlement date")
      else ((exactAdd ((book.settledCash.get? obligation.currency).getD 0)
        obligation.amount).mapError .exactDecimal).map fun total =>
          (book.applySettlement obligation record total, true) := by
  split
  next early =>
    have matured' : ¬ asOf < obligation.settlementDate := Int.not_lt.mpr matured
    simp only [settle, text_of_normal record.obligationIdNormal, ok_bind, ne_eq, not_true,
      if_false, found, if_neg unsettled, if_neg matured', if_pos early]
  next late => exact settle_eq_ok found unsettled (Int.not_lt.mp late) observed

/-- The step lemma: the next obligation is rejected and the book stays, or it is
settled and the rest is left. -/
theorem Settling.step
    (named : ∀ key record, lookup key = some record → record.obligationId = key)
    (settling : Settling asOf lookup book (obligation :: rest)) :
    ∃ record, book.dueRecord asOf lookup obligation = some record ∧
      ((Rejected book lookup obligation ∧
          ∃ error, book.settle obligation.obligationId asOf record = .error error) ∨
        ∃ next changed, book.settle obligation.obligationId asOf record = .ok (next, changed) ∧
          ¬ Rejected book lookup obligation ∧ Settled asOf lookup book next obligation rest) := by
  obtain ⟨record, due⟩ := settling.pending obligation List.mem_cons_self
  obtain ⟨supplied, unsettled, matured, observed⟩ := dueRecord_eq_some.mp due
  have found := settling.known obligation List.mem_cons_self
  have identity := named _ _ supplied
  obtain ⟨apart, distinct⟩ := List.nodup_cons.mp settling.distinct
  refine ⟨record, due, ?_⟩
  have stored : book.obligations.get? record.obligationId = some obligation := identity ▸ found
  have fresh : record.obligationId ∉ book.settledIds := identity ▸ unsettled
  rw [← identity, settle_selected stored fresh matured observed]
  by_cases early : record.observedAt.date < obligation.settlementDate
  · rw [if_pos early]
    exact .inl ⟨.inl ⟨record, supplied, early⟩, _, rfl⟩
  rw [if_neg early]
  cases sum : exactAdd ((book.settledCash.get? obligation.currency).getD 0)
      obligation.amount with
  | error error =>
      refine .inl ⟨.inr fun representable => ?_, _, rfl⟩
      have total := exactAdd_eq_ok.mpr (rfl : (Decimal.mk _ representable).toRat =
        ((book.settledCash.get? obligation.currency).getD 0).toRat + obligation.amount.toRat)
      rw [sum] at total
      cases total
  | ok total =>
      have value : total.toRat = book.cashOf obligation.currency + obligation.amount.toRat :=
        exactAdd_eq_ok.mp sum
      have due := Int.not_lt.mp early
      have advances := Advances.applySettlement settling.consistent stored fresh value
      refine .inr ⟨_, _, rfl, ?_, ?_⟩
      · rintro (⟨other, again, before⟩ | unrepresentable)
        · rw [supplied] at again
          cases again
          exact early before
        · exact unrepresentable (value ▸ total.bounded)
      · constructor
        · constructor
          · exact settling.consistent.applySettlement stored due total
          · exact distinct
          · exact fun other member => settling.known other (List.mem_cons_of_mem _ member)
          · intro other member
            rw [dueRecord_applySettlement]
            · exact settling.pending other (List.mem_cons_of_mem _ member)
            · rw [identity]
              exact fun same => apart (List.mem_map.mpr ⟨other, member, same⟩)
        · intro other again
          rw [supplied] at again
          cases again
          exact due
        · rfl
        · rw [applySettlement, identity]
        · intro key
          rw [applySettlement, identity, Dict.get?_set]
          split
          next same => rw [← same, supplied]
          next => rfl
        · funext currency
          have newIds : (book.applySettlement obligation record total).settledIds \
              book.settledIds = {record.obligationId} := by
            rw [applySettlement, Finset.insert_sdiff_of_notMem _ fresh, Finset.sdiff_self,
              insert_empty_eq]
          rw [advances.cash currency, newIds, Finset.sum_singleton, identity]
          rfl

/-- The loop skips what is not due. -/
theorem settleEach_filter {obligations : List SettlementObligation} {settled : List String}
    (named : ∀ key record, lookup key = some record → record.obligationId = key)
    (distinct : (obligations.map SettlementObligation.obligationId).Nodup)
    (known : ∀ obligation ∈ obligations,
      book.obligations.get? obligation.obligationId = some obligation) :
    settleEach asOf lookup obligations book settled =
      settleEach asOf lookup (obligations.filter fun obligation =>
        (book.dueRecord asOf lookup obligation).isSome) book settled := by
  induction obligations generalizing book settled with
  | nil => rfl
  | cons obligation rest ih =>
      obtain ⟨apart, distinct⟩ := List.nodup_cons.mp distinct
      rw [List.forall_mem_cons] at known
      cases due : book.dueRecord asOf lookup obligation with
      | none =>
          simp only [settleEach, due, List.filter_cons, Option.isSome_none, Bool.false_eq_true,
            if_false]
          exact ih distinct known.2
      | some record =>
          have identity := named _ _ (dueRecord_eq_some.mp due).1
          simp only [settleEach, due, List.filter_cons, Option.isSome_some, if_true]
          cases outcome : book.settle obligation.obligationId asOf record with
          | error error => rfl
          | ok result =>
              have kept : ∀ other ∈ rest, result.1.dueRecord asOf lookup other =
                  book.dueRecord asOf lookup other := by
                intro other member
                rcases settle_cases outcome with same | ⟨stored, total, -, -, -, -, same⟩
                · rw [same]
                · rw [same]
                  apply dueRecord_applySettlement
                  rw [identity]
                  exact fun equal => apart (List.mem_map.mpr ⟨other, member, equal⟩)
              have stays : result.1.obligations = book.obligations := by
                rcases settle_cases outcome with same | ⟨stored, total, -, -, -, -, same⟩
                · rw [same]
                · rw [same]
                  rfl
              show settleEach asOf lookup rest result.1 _ = settleEach asOf lookup _ result.1 _
              rw [ih distinct (stays.symm ▸ known.2)]
              congr 1
              exact List.filter_congr fun other member => by rw [kept other member]

/-- What the loop leaves when it settles the whole list. -/
structure Finished (lookup : String → Option SettlementEvidence) (book after : SettlementBook)
    (ids : List String) : Prop where
  settledIds : after.settledIds = book.settledIds ∪ ids.toFinset
  evidence : ∀ key, after.settlementEvidence.get? key =
    if key ∈ ids then lookup key else book.settlementEvidence.get? key
  cash : ∀ currency, after.cashOf currency =
    book.cashOf currency + (ids.map (amountIn book.obligations currency)).sum

/-- The run lemma of a list without a rejected obligation. -/
theorem Settling.finished (settled : List String)
    (named : ∀ key record, lookup key = some record → record.obligationId = key)
    (settling : Settling asOf lookup book due)
    (clear : Clear book.obligations book.cashOf lookup due) :
    ∃ after, settleEach asOf lookup due book settled =
        (after, .ok (settled ++ due.map SettlementObligation.obligationId)) ∧
      Finished lookup book after (due.map SettlementObligation.obligationId) := by
  induction due generalizing book settled with
  | nil =>
      refine ⟨book, by simp [settleEach], ?_⟩
      constructor <;> simp
  | cons obligation rest ih =>
      obtain ⟨record, found, ⟨rejected, _⟩ | ⟨next, changed, success, _, step⟩⟩ :=
        settling.step named
      · exfalso
        obtain ⟨observed, -, rest⟩ := clear_cons.mp clear
        rcases rejected with ⟨other, supplied, early⟩ | unrepresentable
        · exact absurd early (Int.not_lt.mpr (observed other supplied))
        · have total := (rest.representable [] List.nil_prefix obligation.currency)
          rw [amountIn, settling.known obligation List.mem_cons_self] at total
          simp only [if_true, List.map_nil, List.sum_nil, add_zero] at total
          exact unrepresentable total
      · have clearRest : Clear next.obligations next.cashOf lookup rest := by
          rw [step.obligations, step.cash]
          exact (clear_cons.mp clear).2.2
        obtain ⟨after, ended, finished⟩ :=
          ih (settled ++ [obligation.obligationId]) step.settling clearRest
        refine ⟨after, ?_, ?_⟩
        · simp only [settleEach, found, success, ended, List.map_cons, List.append_assoc,
            List.singleton_append]
        · constructor
          · rw [finished.settledIds, step.settledIds, List.map_cons, List.toFinset_cons]
            simp
          · intro key
            rw [finished.evidence, step.evidence, List.map_cons]
            by_cases listed : key ∈ rest.map SettlementObligation.obligationId
            · rw [if_pos listed, if_pos (List.mem_cons_of_mem _ listed)]
            · simp only [List.mem_cons, listed, or_false, if_false, eq_comm]
          · intro currency
            rw [finished.cash, step.cash, step.obligations, List.map_cons, List.map_cons,
              List.sum_cons, add_assoc]

/-- The run lemma of a list with a rejected obligation: the book stays exactly
where it is the first one. -/
theorem Settling.stopped (settled : List String)
    (named : ∀ key record, lookup key = some record → record.obligationId = key)
    (settling : Settling asOf lookup book due)
    (unclear : ¬ Clear book.obligations book.cashOf lookup due) :
    ∃ after error, settleEach asOf lookup due book settled = (after, .error error) ∧
      book.settledIds ⊆ after.settledIds ∧
        ((∃ first ∈ due.head?, Rejected book lookup first) → after = book) ∧
          (after.settledIds = book.settledIds →
            ∃ first ∈ due.head?, Rejected book lookup first) := by
  induction due generalizing book settled with
  | nil =>
      apply absurd _ unclear
      constructor
      · exact fun _ absent => absurd absent List.not_mem_nil
      · intro ids initial currency
        rw [List.prefix_nil.mp initial, List.map_nil, List.sum_nil, add_zero]
        exact book.representable_cashOf currency
  | cons obligation rest ih =>
      obtain ⟨record, found, ⟨rejected, error, raised⟩ | ⟨next, changed, success, accepted, step⟩⟩ :=
        settling.step named
      · refine ⟨book, error, by simp only [settleEach, found, raised], Finset.Subset.refl _,
          fun _ => rfl, fun _ => ⟨obligation, rfl, rejected⟩⟩
      · have unclearRest : ¬ Clear next.obligations next.cashOf lookup rest := by
          rw [step.obligations, step.cash]
          intro clear
          exact unclear (clear_cons.mpr ⟨step.observed, book.representable_cashOf, clear⟩)
        obtain ⟨after, error, ended, grown, _⟩ :=
          ih (settled ++ [obligation.obligationId]) step.settling unclearRest
        have unsettled := (dueRecord_eq_some.mp found).2.1
        have inserted : obligation.obligationId ∈ after.settledIds := by
          apply grown
          rw [step.settledIds]
          exact Finset.mem_insert_self _ _
        refine ⟨after, error, ?_, ?_, ?_, ?_⟩
        · simp only [settleEach, found, success, ended]
        · apply Finset.Subset.trans _ grown
          rw [step.settledIds]
          exact Finset.subset_insert _ _
        · rintro ⟨first, same, rejected⟩
          cases same
          exact absurd rejected accepted
        · intro same
          exact absurd (same ▸ inserted) unsettled

/-! ## Reachable books -/

/-- The books that constructors, restarts and calls reach. -/
inductive Reachable : SettlementBook → Prop
  | init {settledCash : Dict String DecimalInput} {obligations : List SettlementObligation}
      {evidence : Dict String SettlementEvidence} {book : SettlementBook}
      (opened : init settledCash obligations evidence = .ok book) : Reachable book
  | fromHistory {checkpoint : SettlementCheckpoint} {obligations : List SettlementObligation}
      {evidence : Dict String SettlementEvidence} {book : SettlementBook}
      (restored : fromHistory checkpoint obligations evidence = .ok book) : Reachable book
  | call {book next : SettlementBook} {invocation : SettlementCall} (reachable : Reachable book)
      (returned : book.call invocation = .ok next) : Reachable next
  | settleDue {book : SettlementBook} (reachable : Reachable book) (asOf : Date)
      (evidence : Dict String SettlementEvidence) : Reachable (book.settleDue asOf evidence).1

theorem Consistent.fromHistory {checkpoint : SettlementCheckpoint}
    {obligations : List SettlementObligation} {evidence : Dict String SettlementEvidence}
    (restored : fromHistory checkpoint obligations evidence = .ok book) : Consistent book := by
  simp only [SettlementBook.fromHistory, bind_eq_ok, guard_eq_ok] at restored
  obtain ⟨validation, opened, normalized, -, -, -, replayed⟩ := restored
  refine foldlM_invariant Consistent ?_ (init_consistent opened) replayed
  intro key _ before after consistent step
  rw [replay] at step
  split at step
  next =>
    rw [map_fst_eq_ok] at step
    obtain ⟨changed, settled⟩ := step
    exact consistent.settle settled
  next => cases step

/-- The loop keeps the book consistent, also where it raises. -/
theorem Consistent.settleEach {obligations : List SettlementObligation} {settled : List String}
    (consistent : Consistent book) :
    Consistent (settleEach asOf lookup obligations book settled).1 := by
  induction obligations generalizing book settled with
  | nil => exact consistent
  | cons obligation rest ih =>
      rw [SettlementBook.settleEach]
      split
      next => exact ih consistent
      next =>
        split
        next => exact consistent
        next success => exact ih (consistent.settle success)

theorem Reachable.consistent (reachable : Reachable book) : Consistent book := by
  induction reachable with
  | init opened => exact init_consistent opened
  | fromHistory restored => exact Consistent.fromHistory restored
  | call _ returned ih => exact (call_advances ih returned).1
  | settleDue _ asOf evidence ih =>
      rw [SettlementBook.settleDue]
      split
      next => exact ih
      next => exact ih.settleEach

/-! ## All or nothing -/

/-- The obligations that are due under the supplied evidence, in order. -/
def dueList (book : SettlementBook) (asOf : Date) (evidence : Dict String SettlementEvidence) :
    List SettlementObligation :=
  (dueObligations book.obligations).filter fun obligation =>
    (book.dueRecord asOf (suppliedRecord evidence) obligation).isSome

/-- The ids are exactly the due ones, each once and in order, and the book after
has settled them. -/
structure Settles (book after : SettlementBook) (asOf : Date)
    (evidence : Dict String SettlementEvidence) (ids : List String) : Prop where
  ordered : ids.Pairwise fun left right =>
    dueKey book.obligations left < dueKey book.obligations right
  exact : ∀ key, key ∈ ids ↔ ∃ obligation record,
    book.obligations.get? key = some obligation ∧ record ∈ evidence.values ∧
      record.obligationId = key ∧ key ∉ book.settledIds ∧
        obligation.settlementDate ≤ asOf ∧ record.observedAt.date ≤ asOf
  finished : Finished (suppliedRecord evidence) book after ids

/-- A call that raises leaves cash, ids and evidence as they were, and a call that
returns has settled what is due. -/
structure AllOrNothing (book : SettlementBook) (asOf : Date)
    (evidence : Dict String SettlementEvidence) : Prop where
  raised : ∀ after error, book.settleDue asOf evidence = (after, .error error) →
    after.settledCash = book.settledCash ∧ after.settledIds = book.settledIds ∧
      after.settlementEvidence = book.settlementEvidence
  returned : ∀ after ids, book.settleDue asOf evidence = (after, .ok ids) →
    Settles book after asOf evidence ids

/-- The evidence is refused as a whole, or the first due obligation is rejected,
or no due obligation is. -/
def Undivided (book : SettlementBook) (asOf : Date)
    (evidence : Dict String SettlementEvidence) : Prop :=
  ¬ Acceptable book.obligations evidence.entries ∨
    (∃ first ∈ (book.dueList asOf evidence).head?,
      book.Rejected (suppliedRecord evidence) first) ∨
    Clear book.obligations book.cashOf (suppliedRecord evidence) (book.dueList asOf evidence)

theorem mem_dueObligations (consistent : Consistent book) :
    obligation ∈ dueObligations book.obligations ↔
      book.obligations.get? obligation.obligationId = some obligation := by
  rw [dueObligations, List.mem_insertionSort, Dict.mem_values]
  constructor
  · rintro ⟨key, found⟩
    rwa [consistent.keyed key obligation found]
  · exact fun found => ⟨_, found⟩

theorem nodup_dueObligations (consistent : Consistent book) :
    ((dueObligations book.obligations).map SettlementObligation.obligationId).Nodup := by
  have ids := congrArg (List.map Prod.fst) consistent.obligation_entries
  rw [List.map_map] at ids
  have distinct : (book.obligations.values.map SettlementObligation.obligationId).Nodup :=
    ids ▸ book.obligations.nodup
  exact ((List.perm_insertionSort _ _).map _).nodup_iff.mpr distinct

theorem settling_dueList (consistent : Consistent book) (asOf : Date)
    (evidence : Dict String SettlementEvidence) :
    Settling asOf (suppliedRecord evidence) book (book.dueList asOf evidence) where
  consistent := consistent
  distinct := (nodup_dueObligations consistent).sublist (List.filter_sublist.map _)
  known _ member := (mem_dueObligations consistent).mp (List.mem_of_mem_filter member)
  pending _ member := Option.isSome_iff_exists.mp (List.mem_filter.mp member).2

theorem dueKey_of_known (consistent : Consistent book)
    (member : obligation ∈ dueObligations book.obligations) :
    dueKey book.obligations obligation.obligationId =
      toLex (obligation.settlementDate, obligation.obligationId) := by
  rw [dueKey, (mem_dueObligations consistent).mp member]
  rfl

theorem ordered_dueList (consistent : Consistent book) (asOf : Date)
    (evidence : Dict String SettlementEvidence) :
    ((book.dueList asOf evidence).map SettlementObligation.obligationId).Pairwise
      fun left right => dueKey book.obligations left < dueKey book.obligations right := by
  have sorted : (dueObligations book.obligations).Pairwise fun left right =>
      dueKey book.obligations left.obligationId ≤ dueKey book.obligations right.obligationId := by
    have byKey := List.pairwise_insertionSort
      (fun left right : SettlementObligation =>
        (toLex (left.settlementDate, left.obligationId) : Date ×ₗ String) ≤
          toLex (right.settlementDate, right.obligationId)) book.obligations.values
    apply byKey.imp_of_mem
    intro left right leftMember rightMember ordered
    rwa [dueKey_of_known consistent leftMember, dueKey_of_known consistent rightMember]
  have strict := List.Pairwise.imp₂ (fun left right ordered different =>
      lt_of_le_of_ne ordered fun same => different (dueKey_injective book.obligations same))
    sorted (List.pairwise_map.mp (nodup_dueObligations consistent))
  exact List.pairwise_map.mpr (strict.filter _)

theorem mem_dueList (consistent : Consistent book) {asOf : Date}
    {evidence : Dict String SettlementEvidence}
    (acceptable : Acceptable book.obligations evidence.entries) {key : String} :
    key ∈ (book.dueList asOf evidence).map SettlementObligation.obligationId ↔
      ∃ obligation record, book.obligations.get? key = some obligation ∧
        record ∈ evidence.values ∧ record.obligationId = key ∧ key ∉ book.settledIds ∧
          obligation.settlementDate ≤ asOf ∧ record.observedAt.date ≤ asOf := by
  have distinct : (evidence.values.map SettlementEvidence.obligationId).Nodup := by
    rw [Dict.values, List.map_map]
    exact acceptable.distinct
  simp only [List.mem_map, dueList, List.mem_filter, Option.isSome_iff_exists, dueRecord_eq_some]
  constructor
  · rintro ⟨obligation, ⟨listed, record, supplied, unsettled, matured, observed⟩, rfl⟩
    exact ⟨obligation, record, (mem_dueObligations consistent).mp listed,
      List.mem_of_find?_eq_some supplied, suppliedRecord_named supplied, unsettled, matured,
      observed⟩
  · rintro ⟨obligation, record, found, member, rfl, unsettled, matured, observed⟩
    have identity := consistent.keyed _ _ found
    rw [← identity] at found unsettled
    refine ⟨obligation, ⟨(mem_dueObligations consistent).mpr found, record, ?_, unsettled, matured,
      observed⟩, identity⟩
    rw [identity]
    exact find?_key distinct member

/-- The call on evidence that is refused. -/
theorem settleDue_refused (asOf : Date) {evidence : Dict String SettlementEvidence}
    (refused : ¬ Acceptable book.obligations evidence.entries) :
    ∃ error, book.settleDue asOf evidence = (book, .error error) := by
  rw [settleDue]
  cases outcome : evidence.entries.foldlM (supplyEvidence book.obligations) ∅ with
  | error error => exact ⟨error, rfl⟩
  | ok normalized => exact absurd (supplyAll_eq_ok.mp outcome).1.1 refused

/-- The call on evidence that is accepted settles the due list. -/
theorem settleDue_accepted (consistent : Consistent book) (asOf : Date)
    {evidence : Dict String SettlementEvidence}
    (acceptable : Acceptable book.obligations evidence.entries) :
    book.settleDue asOf evidence =
      settleEach asOf (suppliedRecord evidence) (book.dueList asOf evidence) book [] := by
  obtain ⟨normalized, supplied, lookup⟩ := supplied_of_acceptable acceptable
  rw [settleDue, supplied]
  show settleEach asOf normalized.get? _ book [] = _
  rw [lookup]
  exact settleEach_filter (fun _ _ => suppliedRecord_named) (nodup_dueObligations consistent)
    fun _ member => (mem_dueObligations consistent).mp member

/-- `settle_due` is all or nothing exactly where its evidence is refused, or the
first due obligation is rejected, or no due obligation is. -/
theorem settle_due_all_or_nothing_iff (reachable : Reachable book) (asOf : Date)
    (evidence : Dict String SettlementEvidence) :
    book.AllOrNothing asOf evidence ↔ book.Undivided asOf evidence := by
  have consistent := reachable.consistent
  have settling := settling_dueList consistent asOf evidence
  have named : ∀ key record, suppliedRecord evidence key = some record →
      record.obligationId = key := fun _ _ => suppliedRecord_named
  by_cases acceptable : Acceptable book.obligations evidence.entries
  · have accepted := settleDue_accepted consistent asOf acceptable
    by_cases clear : Clear book.obligations book.cashOf (suppliedRecord evidence)
        (book.dueList asOf evidence)
    · refine iff_of_true ?_ (.inr (.inr clear))
      obtain ⟨after, ended, finished⟩ := settling.finished [] named clear
      rw [← accepted, List.nil_append] at ended
      constructor
      · intro _ _ raised
        rw [ended] at raised
        cases raised
      · intro _ _ returned
        rw [ended] at returned
        cases returned
        exact ⟨ordered_dueList consistent asOf evidence,
          fun _ => mem_dueList consistent acceptable, finished⟩
    · obtain ⟨after, error, ended, -, first, only⟩ := settling.stopped [] named clear
      rw [← accepted] at ended
      constructor
      · intro whole
        exact .inr (.inl (only (whole.raised _ _ ended).2.1))
      · rintro (refused | rejected | cleared)
        · exact absurd acceptable refused
        · constructor
          · intro _ _ raised
            rw [ended, first rejected] at raised
            cases raised
            exact ⟨rfl, rfl, rfl⟩
          · intro _ _ returned
            rw [ended] at returned
            cases returned
        · exact absurd cleared clear
  · obtain ⟨error, refused⟩ := settleDue_refused asOf acceptable
    refine iff_of_true ?_ (.inl acceptable)
    constructor
    · intro _ _ raised
      rw [refused] at raised
      cases raised
      exact ⟨rfl, rfl, rfl⟩
    · intro _ _ returned
      rw [refused] at returned
      cases returned

end Calls

/-! ## Evidence that predates the second obligation -/

section Sample

attribute [local instance] CaseMap.ascii

/-- Evidence of a sample obligation observed on the given day. -/
def sampleObserved (obligationId : String) (day : Int) (normal : Normal obligationId) :
    SettlementEvidence :=
  ⟨obligationId, "statement", ⟨day * 86400000000⟩, normal⟩

/-- The book that owes both sample obligations. -/
def sampleOwing : SettlementBook := sampleBook sampleAdds (by decide +kernel)

/-- Evidence of both obligations, the one of the later obligation too early. -/
def sampleEvidence : Dict String SettlementEvidence :=
  (Dict.set ∅ "a" (sampleObserved "a" 1 sampleEarly.obligationIdNormal)).set "b"
    (sampleObserved "b" 1 sampleLate.obligationIdNormal)

theorem reachable_sampleOwing : Reachable sampleOwing := by
  have opened : init ∅ [sampleEarly, sampleLate] ∅ = .ok sampleOwing := by decide +kernel
  exact .init opened

/-- Evidence of the first obligation alone is settled as a whole. -/
theorem single_obligation_all_or_nothing :
    sampleOwing.AllOrNothing 3 (Dict.set ∅ "a" (sampleObserved "a" 1 (by decide))) := by
  apply (settle_due_all_or_nothing_iff reachable_sampleOwing _ _).mpr
  have due : sampleOwing.dueList 3 (Dict.set ∅ "a" (sampleObserved "a" 1 (by decide))) =
      [sampleEarly] := by decide +kernel
  have total : ∀ currency, Representable (sampleOwing.cashOf currency +
      amountIn sampleOwing.obligations currency "a") := by
    intro currency
    have empty : sampleOwing.settledCash = ∅ := by decide +kernel
    have found : sampleOwing.obligations.get? "a" = some sampleEarly := by decide +kernel
    have zero : (0 : Decimal).toRat = 0 := rfl
    rw [cashOf, empty, amountIn, found, Dict.get?_empty, Option.getD_none, zero, zero_add]
    dsimp only
    split
    next => exact sampleEarly.amount.bounded
    next => exact Decimal.representable_zero
  refine .inr (.inr ?_)
  rw [due]
  apply clear_cons.mpr
  refine ⟨?_, sampleOwing.representable_cashOf, ?_, ?_⟩
  · decide +kernel
  · exact fun _ absent => absurd absent List.not_mem_nil
  · intro settled initial currency
    rw [List.prefix_nil.mp initial, List.map_nil, List.sum_nil, add_zero]
    exact total currency

/-- The call raises and leaves the first obligation settled. -/
theorem settle_due_keeps_first_settlement :
    Reachable sampleOwing ∧
      (sampleOwing.settleDue 3 sampleEvidence).2 =
        .error (.conflict "settlement evidence predates contractual settlement date") ∧
      sampleOwing.settledIds = ∅ ∧
      (sampleOwing.settleDue 3 sampleEvidence).1.settledIds = {"a"} :=
  ⟨reachable_sampleOwing, by decide +kernel, by decide +kernel, by decide +kernel⟩

end Sample

end SettlementBook

end AutoTrade.Settlement
