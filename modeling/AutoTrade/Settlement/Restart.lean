import AutoTrade.Lib.Sorted
import AutoTrade.Settlement.Invariant

/-!
# Restart from a settlement checkpoint

A live book settles obligations in the order their evidence arrives, while
`from_history` recognises a checkpoint as the first ids in the order
`(settlement_date, obligation_id)` and replays the rest in that order.
`restart_iff` states exactly when the restart rebuilds the live book.
-/

namespace AutoTrade.Settlement

open Lib Numeric

namespace SettlementBook

section Restart

variable [CaseMap]

/-! ## Construction from retained history -/

/-- Cash under canonical currencies passes a normalization loop unchanged. -/
theorem addCash_canonical {cash : Dict String Decimal} (currencyName duplicate amountName : String)
    (canonical : ∀ currency ∈ cash.keys, Normal currency ∧ upper currency = currency) :
    (cash.mapValues DecimalInput.bounded).entries.foldlM
      (addCash currencyName duplicate amountName) ∅ = .ok cash := by
  have assigns : ∀ item ∈ cash.entries, ∀ current : Dict String Decimal,
      current.get? item.1 = none →
        addCash currencyName duplicate amountName current (item.1, .bounded item.2) =
          .ok (current.set item.1 item.2) := by
    intro item member current fresh
    obtain ⟨normal, isUpper⟩ := canonical item.1 (List.mem_map.mpr ⟨item, member, rfl⟩)
    simp [addCash, text_of_normal normal, isUpper, fresh, decimal,
      parseBoundedExactDecimal, Except.mapError, bind, Except.bind, pure, Except.pure]
  rw [Dict.mapValues, List.foldlM_map, Dict.foldlM_setAll id assigns cash.nodup
    fun _ _ => Dict.get?_empty _, List.map_id, Dict.setAll_entries]

/-- Adding obligations with distinct ids and causes stores them all. -/
theorem addAll_eq_ok {obligations : List SettlementObligation} (book : SettlementBook)
    (distinctIds : (obligations.map SettlementObligation.obligationId).Nodup)
    (distinctCauses : (obligations.map fun obligation =>
      (obligation.causeEventId, obligation.componentId)).Nodup)
    (freshIds : ∀ obligation ∈ obligations,
      book.obligations.get? obligation.obligationId = none)
    (freshCauses : ∀ obligation ∈ obligations,
      book.byCauseComponent.get? (obligation.causeEventId, obligation.componentId) = none) :
    ∃ index, obligations.foldlM (fun current obligation =>
        (current.add obligation).map Prod.fst) book =
      .ok { book with
        obligations := book.obligations.setAll
          (obligations.map fun obligation => (obligation.obligationId, obligation))
        byCauseComponent := index } := by
  induction obligations generalizing book with
  | nil => exact ⟨book.byCauseComponent, rfl⟩
  | cons obligation rest ih =>
      rw [List.map_cons, List.nodup_cons] at distinctIds distinctCauses
      have added : (book.add obligation).map Prod.fst = .ok { book with
          obligations := book.obligations.set obligation.obligationId obligation
          byCauseComponent := book.byCauseComponent.set
            (obligation.causeEventId, obligation.componentId) obligation } := by
        simp [SettlementBook.add, freshIds obligation List.mem_cons_self,
          freshCauses obligation List.mem_cons_self, Except.map]
      rw [List.foldlM_cons, added]
      refine ih _ distinctIds.2 distinctCauses.2 ?_ ?_
      · intro other member
        rw [Dict.get?_set_of_ne]
        · exact freshIds other (List.mem_cons_of_mem obligation member)
        · intro same
          exact distinctIds.1 (List.mem_map.mpr ⟨other, member, same.symm⟩)
      · intro other member
        rw [Dict.get?_set_of_ne]
        · exact freshCauses other (List.mem_cons_of_mem obligation member)
        · intro same
          exact distinctCauses.1 (List.mem_map.mpr ⟨other, member, same.symm⟩)

/-- Evidence of known due obligations under distinct ids is stored in full. -/
theorem restoreAll_eq_ok {items : List (String × SettlementEvidence)} {book : SettlementBook}
    (distinct : (items.map Prod.fst).Nodup)
    (fresh : ∀ item ∈ items, book.settlementEvidence.get? item.1 = none)
    (valid : ∀ item ∈ items, item.2.obligationId = item.1 ∧
      ∃ obligation, book.obligations.get? item.1 = some obligation ∧
        obligation.settlementDate ≤ item.2.observedAt.date) :
    items.foldlM restoreEvidence book = .ok { book with
      settledIds := (items.map Prod.fst).toFinset ∪ book.settledIds
      settlementEvidence := book.settlementEvidence.setAll items } := by
  induction items generalizing book with
  | nil => simp [Dict.setAll, pure, Except.pure]
  | cons item rest ih =>
      rw [List.map_cons, List.nodup_cons] at distinct
      obtain ⟨identity, obligation, found, due⟩ := valid item List.mem_cons_self
      have normal : Normal item.1 := identity ▸ item.2.obligationIdNormal
      have restored : book.restoreEvidence item = .ok { book with
          settledIds := insert item.1 book.settledIds
          settlementEvidence := book.settlementEvidence.set item.1 item.2 } := by
        simp [SettlementBook.restoreEvidence, text_of_normal normal, identity, found,
          fresh item List.mem_cons_self, Int.not_lt.mpr due, bind, Except.bind, pure,
          Except.pure]
      have restFresh : ∀ other ∈ rest,
          (book.settlementEvidence.set item.1 item.2).get? other.1 = none := by
        intro other member
        rw [Dict.get?_set_of_ne]
        · exact fresh other (List.mem_cons_of_mem item member)
        · intro same
          exact distinct.1 (List.mem_map.mpr ⟨other, member, same.symm⟩)
      rw [List.foldlM_cons, restored, ok_bind]
      refine Eq.trans (ih distinct.2 ?_ ?_) ?_
      · exact restFresh
      · intro other member
        exact valid other (List.mem_cons_of_mem item member)
      · simp [Dict.setAll]

/-! ## Checkpoints of consistent books -/

theorem Consistent.evidence_entries {book : SettlementBook} (consistent : Consistent book) :
    book.settlementEvidence.values.map (fun record => (record.obligationId, record)) =
      book.settlementEvidence.entries := by
  rw [Dict.values, List.map_map]
  conv_rhs => rw [← List.map_id book.settlementEvidence.entries]
  apply List.map_congr_left
  rintro ⟨key, record⟩ member
  have identity := (consistent.evidenced key record (Dict.mem_entries.mp member)).1
  simp [identity]

theorem Consistent.obligation_entries {book : SettlementBook} (consistent : Consistent book) :
    book.obligations.values.map (fun obligation => (obligation.obligationId, obligation)) =
      book.obligations.entries := by
  rw [Dict.values, List.map_map]
  conv_rhs => rw [← List.map_id book.obligations.entries]
  apply List.map_congr_left
  rintro ⟨key, obligation⟩ member
  have identity := consistent.keyed key obligation (Dict.mem_entries.mp member)
  simp [identity]

/-- A checkpoint holds the cash and the evidence of its book, sorted. -/
theorem checkpoint_cases {book : SettlementBook} {checkpointId : String}
    {checkpoint : SettlementCheckpoint} (consistent : Consistent book)
    (taken : book.checkpoint checkpointId = .ok checkpoint) :
    checkpoint.settledCash = SettlementCheckpoint.sortCash book.settledCash.entries ∧
      checkpoint.settledObligationEvidence =
        SettlementCheckpoint.sortEvidence book.settlementEvidence.values := by
  have assigns : ∀ item ∈ book.settlementEvidence.entries,
      ∀ current : Dict String SettlementEvidence, current.get? item.1 = none →
        SettlementCheckpoint.addEvidence current item = .ok (current.set item.1 item.2) := by
    intro item member current fresh
    have identity :=
      (consistent.evidenced item.1 item.2 (Dict.mem_entries.mp member)).1
    have normal : Normal item.1 := identity ▸ item.2.obligationIdNormal
    simp [SettlementCheckpoint.addEvidence, text_of_normal normal, identity, fresh, pure,
      Except.pure]
  have records := Dict.foldlM_setAll id assigns book.settlementEvidence.nodup
    fun _ _ => Dict.get?_empty _
  rw [List.map_id, Dict.setAll_entries] at records
  rw [SettlementBook.checkpoint, SettlementCheckpoint.create,
    addCash_canonical _ _ _ consistent.currencies, ok_bind, records, ok_bind, bind_eq_ok]
    at taken
  obtain ⟨identity, -, validated⟩ := taken
  simp only [SettlementCheckpoint.validate, bind_eq_ok, guard_eq_ok, pure_eq_ok] at validated
  obtain ⟨_, -, _, -, -, -, -, rfl⟩ := validated
  exact ⟨rfl, rfl⟩

theorem cashDict_perm {book : SettlementBook} {checkpoint : SettlementCheckpoint}
    (cash : checkpoint.settledCash =
      SettlementCheckpoint.sortCash book.settledCash.entries) :
    checkpoint.cashDict.entries.Perm book.settledCash.entries := by
  have perm : checkpoint.settledCash.Perm book.settledCash.entries := by
    rw [cash]
    exact List.perm_insertionSort _ _
  have distinct : (checkpoint.settledCash.map Prod.fst).Nodup :=
    (perm.map Prod.fst).nodup_iff.mpr book.settledCash.nodup
  have entries : checkpoint.cashDict.entries = checkpoint.settledCash :=
    Dict.entries_setAll_empty distinct
  rw [entries]
  exact perm

theorem evidenceDict_perm {book : SettlementBook} {checkpoint : SettlementCheckpoint}
    (consistent : Consistent book) (evidence : checkpoint.settledObligationEvidence =
      SettlementCheckpoint.sortEvidence book.settlementEvidence.values) :
    checkpoint.evidenceDict.entries.Perm book.settlementEvidence.entries := by
  have perm : (checkpoint.settledObligationEvidence.map fun record =>
      (record.obligationId, record)).Perm book.settlementEvidence.entries := by
    rw [evidence, ← consistent.evidence_entries]
    exact (List.perm_insertionSort _ _).map _
  have distinct := (perm.map Prod.fst).nodup_iff.mpr book.settlementEvidence.nodup
  have entries : checkpoint.evidenceDict.entries =
      checkpoint.settledObligationEvidence.map fun record =>
        (record.obligationId, record) := by
    rw [SettlementCheckpoint.evidenceDict]
    have assigned := Dict.entries_setAll_empty distinct
    rw [Dict.setAll, List.foldl_map] at assigned
    exact assigned
  rw [entries]
  exact perm

/-- The book that `from_history` validates holds the obligations of the live
book and the cash and evidence of the checkpointed one. -/
theorem validation_eq_ok {book live : SettlementBook} {checkpointId : String}
    {checkpoint : SettlementCheckpoint} (consistent : Consistent book)
    (liveConsistent : Consistent live) (advances : Advances book live)
    (taken : book.checkpoint checkpointId = .ok checkpoint) :
    ∃ validation, init (checkpoint.cashDict.mapValues .bounded) live.obligations.values
        checkpoint.evidenceDict = .ok validation ∧
      validation.obligations = live.obligations ∧
      validation.settledIds = book.settledIds ∧
      validation.settledCash = checkpoint.cashDict ∧
      validation.settlementEvidence = checkpoint.evidenceDict := by
  obtain ⟨cash, evidence⟩ := checkpoint_cases consistent taken
  have cashPerm := cashDict_perm cash
  have evidencePerm := evidenceDict_perm consistent evidence
  have canonical : ∀ currency ∈ checkpoint.cashDict.keys,
      Normal currency ∧ upper currency = currency := by
    intro currency member
    apply consistent.currencies
    exact (cashPerm.map Prod.fst).mem_iff.mp member
  have distinctIds : (live.obligations.values.map SettlementObligation.obligationId).Nodup := by
    have keys := live.obligations.nodup
    rw [← liveConsistent.obligation_entries, List.map_map] at keys
    exact keys
  have distinctCauses : (live.obligations.values.map fun obligation =>
      (obligation.causeEventId, obligation.componentId)).Nodup := by
    refine List.Nodup.map_on ?_ (List.Nodup.of_map _ distinctIds)
    intro left leftMem right rightMem same
    obtain ⟨leftKey, leftFound⟩ := Dict.mem_values.mp leftMem
    obtain ⟨rightKey, rightFound⟩ := Dict.mem_values.mp rightMem
    have leftIndex := liveConsistent.indexed leftKey left leftFound
    rw [same, liveConsistent.indexed rightKey right rightFound] at leftIndex
    exact (Option.some.inj leftIndex).symm
  obtain ⟨index, added⟩ := addAll_eq_ok ⟨checkpoint.cashDict, ∅, ∅, ∅, ∅⟩ distinctIds
    distinctCauses (fun _ _ => rfl) (fun _ _ => rfl)
  rw [liveConsistent.obligation_entries, Dict.setAll_entries] at added
  have valid : ∀ item ∈ checkpoint.evidenceDict.entries, item.2.obligationId = item.1 ∧
      ∃ obligation, live.obligations.get? item.1 = some obligation ∧
        obligation.settlementDate ≤ item.2.observedAt.date := by
    intro item member
    have stored := Dict.mem_entries.mp (evidencePerm.mem_iff.mp member)
    exact liveConsistent.evidenced item.1 item.2 (advances.evidence item.1 item.2 stored)
  have ids : (checkpoint.evidenceDict.entries.map Prod.fst).toFinset ∪ ∅ =
      book.settledIds := by
    ext key
    rw [Finset.union_empty, List.mem_toFinset, (evidencePerm.map Prod.fst).mem_iff,
      consistent.settled]
    rfl
  refine ⟨⟨checkpoint.cashDict, live.obligations, index, book.settledIds,
    checkpoint.evidenceDict⟩, ?_, rfl, rfl, rfl, rfl⟩
  rw [init, addCash_canonical _ _ _ canonical, ok_bind, added, ok_bind]
  refine Eq.trans (restoreAll_eq_ok checkpoint.evidenceDict.nodup ?_ valid) ?_
  · intro item _
    rfl
  · simp only [ids, Dict.setAll_entries]

/-! ## The due order -/

theorem dueKey_injective (obligations : Dict String SettlementObligation) :
    Function.Injective (dueKey obligations) := by
  intro left right same
  exact congrArg (fun key => (ofLex key).2) same

instance (obligations : Dict String SettlementObligation) :
    Std.Total fun left right => dueKey obligations left ≤ dueKey obligations right :=
  ⟨fun _ _ => le_total _ _⟩

instance (obligations : Dict String SettlementObligation) :
    IsTrans String fun left right => dueKey obligations left ≤ dueKey obligations right :=
  ⟨fun _ _ _ => le_trans⟩

theorem mem_dueOrder {obligations : Dict String SettlementObligation} {ids : List String}
    {key : String} : key ∈ dueOrder obligations ids ↔ key ∈ ids :=
  List.mem_insertionSort _

theorem nodup_dueOrder (obligations : Dict String SettlementObligation) {ids : List String}
    (distinct : ids.Nodup) : (dueOrder obligations ids).Nodup :=
  (List.perm_insertionSort _ ids).nodup_iff.mpr distinct

/-- Distinct ids are sorted strictly. -/
theorem pairwise_dueOrder {obligations : Dict String SettlementObligation} {ids : List String}
    (distinct : ids.Nodup) :
    (dueOrder obligations ids).Pairwise fun left right =>
      dueKey obligations left < dueKey obligations right := by
  refine List.Pairwise.imp₂ ?_ (List.pairwise_insertionSort _ ids)
    (nodup_dueOrder obligations distinct)
  intro left right ordered different
  exact lt_of_le_of_ne ordered fun same => different (dueKey_injective obligations same)

/-! ## Replaying the suffix -/

/-- Every running total of settling `ids` in order is representable. -/
def SumsRepresentable (obligations : Dict String SettlementObligation) (cash : String → ℚ)
    (ids : List String) : Prop :=
  ∀ settled, settled <+: ids → ∀ currency,
    Representable (cash currency + (settled.map (amountIn obligations currency)).sum)

theorem sumsRepresentable_cons {obligations : Dict String SettlementObligation}
    {cash : String → ℚ} {key : String} {rest : List String} :
    SumsRepresentable obligations cash (key :: rest) ↔
      (∀ currency, Representable (cash currency)) ∧
        SumsRepresentable obligations
          (fun currency => cash currency + amountIn obligations currency key) rest := by
  constructor
  · intro sums
    constructor
    · intro currency
      simpa using sums [] List.nil_prefix currency
    · intro settled initial currency
      have total := sums (key :: settled) (List.prefix_cons_iff.mpr
        (.inr ⟨settled, rfl, initial⟩)) currency
      rw [List.map_cons, List.sum_cons, ← add_assoc] at total
      exact total
  · rintro ⟨start, later⟩ settled initial currency
    rcases List.prefix_cons_iff.mp initial with rfl | ⟨tail, rfl, tailInitial⟩
    · simpa using start currency
    · rw [List.map_cons, List.sum_cons, ← add_assoc]
      exact later tail tailInitial currency

/-- What the replay needs of a book: it knows the live obligations and has
settled none of the ids still to come. -/
structure Replaying (live book : SettlementBook) (ids : List String) : Prop where
  consistent : Consistent book
  obligations : book.obligations = live.obligations
  distinct : ids.Nodup
  pending : ∀ key ∈ ids, key ∉ book.settledIds
  evidenced : ∀ key ∈ ids, key ∈ live.settlementEvidence.keys

/-- A replayed settlement passes every check and depends only on its sum. -/
theorem replay_step {live book : SettlementBook} {key : String} {rest : List String}
    (liveConsistent : Consistent live) (replaying : Replaying live book (key :: rest)) :
    ∃ record obligation, live.settlementEvidence.get? key = some record ∧
      live.obligations.get? key = some obligation ∧ record.obligationId = key ∧
      obligation.settlementDate ≤ record.observedAt.date ∧
      replay live.settlementEvidence book key =
        ((exactAdd ((book.settledCash.get? obligation.currency).getD 0)
          obligation.amount).mapError .exactDecimal).map fun total =>
            book.applySettlement obligation record total := by
  obtain ⟨record, recordFound⟩ :=
    Dict.mem_keys.mp (replaying.evidenced key List.mem_cons_self)
  obtain ⟨identity, obligation, found, due⟩ := liveConsistent.evidenced key record recordFound
  refine ⟨record, obligation, recordFound, found, identity, due, ?_⟩
  have unsettled := replaying.pending key List.mem_cons_self
  have bookFound : book.obligations.get? key = some obligation := by
    rw [replaying.obligations, found]
  subst identity
  have settled := settle_eq_ok bookFound unsettled due
    (le_max_right obligation.settlementDate record.observedAt.date)
  simp only [replay, bookFound, recordFound, settled]
  cases exactAdd ((book.settledCash.get? obligation.currency).getD 0) obligation.amount <;> rfl

/-- What one replayed settlement leaves. -/
structure Replayed (live book next : SettlementBook) (key : String) (rest : List String) :
    Prop where
  replaying : Replaying live next rest
  advances : Advances book next
  settledIds : next.settledIds = insert key book.settledIds
  evidence : next.settlementEvidence.get? key = live.settlementEvidence.get? key

/-- Applying the settlement of the next id leaves the rest to replay. -/
theorem Replaying.next {live book : SettlementBook} {key : String} {rest : List String}
    (replaying : Replaying live book (key :: rest)) {obligation : SettlementObligation}
    {record : SettlementEvidence} {total : Decimal} (identity : record.obligationId = key)
    (recordFound : live.settlementEvidence.get? key = some record)
    (found : live.obligations.get? key = some obligation)
    (due : obligation.settlementDate ≤ record.observedAt.date)
    (sum : total.toRat = book.cashOf obligation.currency + obligation.amount.toRat) :
    Replayed live book (book.applySettlement obligation record total) key rest := by
  obtain ⟨keyNotRest, restDistinct⟩ := List.nodup_cons.mp replaying.distinct
  subst identity
  have stored : book.obligations.get? record.obligationId = some obligation := by
    rw [replaying.obligations, found]
  constructor
  · constructor
    · exact replaying.consistent.applySettlement stored due total
    · exact replaying.obligations
    · exact restDistinct
    · intro other member
      rw [applySettlement, Finset.mem_insert, not_or]
      constructor
      · intro same
        exact keyNotRest (same ▸ member)
      · exact replaying.pending other (List.mem_cons_of_mem _ member)
    · intro other member
      exact replaying.evidenced other (List.mem_cons_of_mem _ member)
  · exact Advances.applySettlement replaying.consistent stored
      (replaying.pending _ List.mem_cons_self) sum
  · rfl
  · rw [recordFound]
    exact Dict.get?_set_self _ _ _

/-- The cash after one replayed settlement. -/
theorem Replayed.cashOf {live book next : SettlementBook} {key : String} {rest : List String}
    (replayed : Replayed live book next key rest) (pending : key ∉ book.settledIds)
    (currency : String) :
    next.cashOf currency = book.cashOf currency + amountIn live.obligations currency key := by
  have newIds : next.settledIds \ book.settledIds = {key} := by
    rw [replayed.settledIds, Finset.insert_sdiff_of_notMem _ pending, Finset.sdiff_self,
      insert_empty_eq]
  rw [replayed.advances.cash currency, newIds, Finset.sum_singleton,
    replayed.replaying.obligations]

/-- The replay returns exactly when every running total is representable. -/
theorem replayAll_iff {live book : SettlementBook} {ids : List String}
    (liveConsistent : Consistent live) (replaying : Replaying live book ids) :
    (∃ final, ids.foldlM (replay live.settlementEvidence) book = .ok final) ↔
      SumsRepresentable live.obligations book.cashOf ids := by
  induction ids generalizing book with
  | nil =>
      refine iff_of_true ⟨book, rfl⟩ ?_
      intro settled initial currency
      have start : Representable (book.cashOf currency) :=
        ((book.settledCash.get? currency).getD 0).bounded
      rw [List.prefix_nil.mp initial]
      simpa using start
  | cons key rest ih =>
      obtain ⟨record, obligation, recordFound, found, identity, due, step⟩ :=
        replay_step liveConsistent replaying
      have pending := replaying.pending key List.mem_cons_self
      have start : ∀ currency, Representable (book.cashOf currency) := fun currency =>
        ((book.settledCash.get? currency).getD 0).bounded
      rw [sumsRepresentable_cons, and_iff_right start, List.foldlM_cons, step]
      constructor
      · rintro ⟨final, success⟩
        rw [bind_eq_ok] at success
        obtain ⟨next, applied, tail⟩ := success
        cases sum : exactAdd ((book.settledCash.get? obligation.currency).getD 0)
            obligation.amount with
        | error error =>
            rw [sum] at applied
            cases applied
        | ok total =>
            rw [sum] at applied
            cases applied
            have replayed := replaying.next identity recordFound found due
              (exactAdd_eq_ok.mp sum)
            have sums := (ih replayed.replaying).mp ⟨final, tail⟩
            have cash := funext fun currency => replayed.cashOf pending currency
            rwa [cash] at sums
      · intro sums
        have representable := sums [] List.nil_prefix obligation.currency
        simp only [amountIn, found, if_true, List.map_nil, List.sum_nil, add_zero]
          at representable
        have sum := exactAdd_eq_ok.mpr (rfl : (Decimal.mk _ representable).toRat =
          ((book.settledCash.get? obligation.currency).getD 0).toRat + obligation.amount.toRat)
        have replayed := replaying.next identity recordFound found due (exactAdd_eq_ok.mp sum)
        have cash := funext fun currency => replayed.cashOf pending currency
        rw [sum]
        apply (ih replayed.replaying).mpr
        rwa [cash]

/-- A replay that returns settles exactly its ids with the live evidence. -/
theorem replayAll_spec {live book final : SettlementBook} {ids : List String}
    (liveConsistent : Consistent live) (replaying : Replaying live book ids)
    (success : ids.foldlM (replay live.settlementEvidence) book = .ok final) :
    Consistent final ∧ Advances book final ∧ final.obligations = live.obligations ∧
      final.settledIds = ids.toFinset ∪ book.settledIds ∧
      ∀ key ∈ ids, final.settlementEvidence.get? key = live.settlementEvidence.get? key := by
  induction ids generalizing book with
  | nil =>
      cases success
      exact ⟨replaying.consistent, Advances.refl _, replaying.obligations, by simp, by simp⟩
  | cons key rest ih =>
      obtain ⟨record, obligation, recordFound, found, identity, due, step⟩ :=
        replay_step liveConsistent replaying
      rw [List.foldlM_cons, step, bind_eq_ok] at success
      obtain ⟨next, applied, tail⟩ := success
      cases sum : exactAdd ((book.settledCash.get? obligation.currency).getD 0)
          obligation.amount with
      | error error =>
          rw [sum] at applied
          cases applied
      | ok total =>
          rw [sum] at applied
          cases applied
          have replayed := replaying.next identity recordFound found due
            (exactAdd_eq_ok.mp sum)
          obtain ⟨consistent, advances, obligations, settledIds, evidence⟩ :=
            ih replayed.replaying tail
          refine ⟨consistent, replayed.advances.trans advances, obligations, ?_, ?_⟩
          · rw [settledIds, replayed.settledIds]
            simp
          · intro other member
            rcases List.mem_cons.mp member with rfl | later
            · have kept := replayed.evidence
              rw [recordFound] at kept ⊢
              exact advances.evidence _ record kept
            · exact evidence other later

/-! ## The restart -/

/-- Ids settled after the checkpoint, in due order. -/
def lateIds (checkpointed live : SettlementBook) : List String :=
  dueOrder live.obligations
    (live.settlementEvidence.keys.filter fun key => key ∉ checkpointed.settledIds)

/-- The condition for a restart: the obligations settled before the checkpoint
come first in due order, and settling the later ones in due order never leaves
the decimal envelope. -/
structure Replayable (checkpointed live : SettlementBook) : Prop where
  ordered : ∀ early ∈ checkpointed.settledIds, ∀ late ∈ live.settledIds,
    late ∉ checkpointed.settledIds →
      dueKey live.obligations early < dueKey live.obligations late
  representable : SumsRepresentable live.obligations checkpointed.cashOf
    (lateIds checkpointed live)

/-- Equal settled cash, settled ids and evidence; dictionaries compare by
content. -/
structure Agrees (left right : SettlementBook) : Prop where
  settledCash : ∀ currency, left.settledCash.get? currency = right.settledCash.get? currency
  settledIds : left.settledIds = right.settledIds
  evidence : ∀ key, left.settlementEvidence.get? key = right.settlementEvidence.get? key

instance (obligations : Dict String SettlementObligation) :
    Std.Irrefl fun left right => dueKey obligations left < dueKey obligations right :=
  ⟨fun _ => lt_irrefl _⟩

instance (obligations : Dict String SettlementObligation) :
    Std.Antisymm fun left right => dueKey obligations left < dueKey obligations right :=
  ⟨fun _ _ forth back => absurd back (lt_asymm forth)⟩

theorem Consistent.settledIds_eq {book : SettlementBook} (consistent : Consistent book) :
    book.settledIds = book.settlementEvidence.keys.toFinset := by
  ext key
  rw [List.mem_toFinset, consistent.settled]

/-- Behind the checkpointed ids come exactly the late ids. -/
theorem drop_dueOrder {checkpointed live : SettlementBook}
    (initial : ((dueOrder live.obligations live.settlementEvidence.keys).take
      checkpointed.settledIds.card).toFinset = checkpointed.settledIds) :
    (dueOrder live.obligations live.settlementEvidence.keys).drop
      checkpointed.settledIds.card = lateIds checkpointed live := by
  have distinct := live.settlementEvidence.nodup_keys
  refine List.Pairwise.eq_of_mem_iff
    ((pairwise_dueOrder distinct).sublist (List.drop_sublist _ _))
    (pairwise_dueOrder (distinct.filter _)) ?_
  intro key
  have inTake : key ∈ (dueOrder live.obligations live.settlementEvidence.keys).take
      checkpointed.settledIds.card ↔ key ∈ checkpointed.settledIds := by
    rw [← List.mem_toFinset, initial]
  have disjoint : key ∈ (dueOrder live.obligations live.settlementEvidence.keys).drop
      checkpointed.settledIds.card → key ∉ checkpointed.settledIds := by
    intro inDrop inIds
    have parts := nodup_dueOrder live.obligations distinct
    rw [← List.take_append_drop checkpointed.settledIds.card
      (dueOrder live.obligations live.settlementEvidence.keys), List.nodup_append] at parts
    exact parts.2.2 key (inTake.mpr inIds) key inDrop rfl
  rw [lateIds, mem_dueOrder, List.mem_filter, decide_eq_true_iff]
  constructor
  · intro inDrop
    exact ⟨mem_dueOrder.mp (List.mem_of_mem_drop inDrop), disjoint inDrop⟩
  · rintro ⟨member, outside⟩
    exact (mem_take_or_mem_drop _ (mem_dueOrder.mpr member)).resolve_left
      fun taken => outside (inTake.mp taken)

/-- The checkpointed ids are recognised as a prefix exactly when they come
first in due order. -/
theorem prefix_iff {checkpointed live : SettlementBook} (liveConsistent : Consistent live)
    (advances : Advances checkpointed live) :
    ((dueOrder live.obligations live.settlementEvidence.keys).take
        checkpointed.settledIds.card).toFinset = checkpointed.settledIds ↔
      ∀ early ∈ checkpointed.settledIds, ∀ late ∈ live.settledIds,
        late ∉ checkpointed.settledIds →
          dueKey live.obligations early < dueKey live.obligations late := by
  have distinct := live.settlementEvidence.nodup_keys
  rw [take_toFinset_eq_iff (pairwise_dueOrder distinct) (fun _ _ => lt_asymm)
    (nodup_dueOrder live.obligations distinct)]
  · simp only [mem_dueOrder, liveConsistent.settled]
  · intro key member
    rw [mem_dueOrder, ← liveConsistent.settled]
    exact advances.settledIds member

/-- `from_history` on the retained history of the live book. -/
theorem fromHistory_eq {checkpointed live : SettlementBook} {checkpointId : String}
    {checkpoint : SettlementCheckpoint} (consistent : Consistent checkpointed)
    (liveConsistent : Consistent live) (advances : Advances checkpointed live)
    (taken : checkpointed.checkpoint checkpointId = .ok checkpoint) :
    ∃ validation, Consistent validation ∧ validation.obligations = live.obligations ∧
      Agrees validation checkpointed ∧
      fromHistory checkpoint live.obligations.values live.settlementEvidence =
        if ((dueOrder live.obligations live.settlementEvidence.keys).take
            checkpointed.settledIds.card).toFinset ≠ checkpointed.settledIds then
          .error (.conflict
            "checkpoint settled history is not the exact retained-history prefix")
        else (lateIds checkpointed live).foldlM (replay live.settlementEvidence)
          validation := by
  obtain ⟨validation, built, obligations, settledIds, settledCash, evidence⟩ :=
    validation_eq_ok consistent liveConsistent advances taken
  obtain ⟨cashSorted, evidenceSorted⟩ := checkpoint_cases consistent taken
  have evidencePerm := evidenceDict_perm consistent evidenceSorted
  have evidenceGet : ∀ key, checkpoint.evidenceDict.get? key =
      checkpointed.settlementEvidence.get? key := Dict.get?_eq_of_perm evidencePerm
  have agrees : Agrees validation checkpointed := by
    refine ⟨fun currency => ?_, settledIds, fun key => ?_⟩
    · rw [settledCash]
      exact Dict.get?_eq_of_perm (cashDict_perm cashSorted) currency
    · rw [evidence, evidenceGet]
  have keys : checkpoint.evidenceDict.keys.toFinset = checkpointed.settledIds := by
    rw [consistent.settledIds_eq]
    exact List.toFinset_eq_of_perm _ _ (evidencePerm.map Prod.fst)
  have count : checkpoint.evidenceDict.keys.length = checkpointed.settledIds.card := by
    rw [← keys, List.toFinset_card_of_nodup checkpoint.evidenceDict.nodup_keys]
  have assigns : ∀ item ∈ live.settlementEvidence.entries,
      ∀ current : Dict String SettlementEvidence, current.get? item.1 = none →
        retainEvidence live.obligations current item =
          .ok (current.set item.1 item.2) := by
    intro item member current fresh
    obtain ⟨identity, obligation, found, -⟩ :=
      liveConsistent.evidenced item.1 item.2 (Dict.mem_entries.mp member)
    have normal : Normal item.1 := identity ▸ item.2.obligationIdNormal
    simp [retainEvidence, text_of_normal normal, identity, fresh, found, pure, Except.pure]
  have normalized := Dict.foldlM_setAll id assigns live.settlementEvidence.nodup
    fun _ _ => Dict.get?_empty _
  rw [List.map_id, Dict.setAll_entries] at normalized
  refine ⟨validation, init_consistent built, obligations, agrees, ?_⟩
  rw [fromHistory, built, ok_bind, obligations, normalized, ok_bind]
  simp only [count, keys]
  split
  next => rfl
  next initial =>
    rw [not_not] at initial
    have sameEvidence : ((dueOrder live.obligations live.settlementEvidence.keys).take
        checkpointed.settledIds.card).any (fun key =>
          live.settlementEvidence.get? key ≠ checkpoint.evidenceDict.get? key) = false := by
      rw [List.any_eq_false]
      intro key member
      rw [← List.mem_toFinset, initial, consistent.settled] at member
      obtain ⟨record, found⟩ := Dict.mem_keys.mp member
      simp [evidenceGet, found, advances.evidence key record found]
    have takeLength : ((dueOrder live.obligations live.settlementEvidence.keys).take
        checkpointed.settledIds.card).length = checkpointed.settledIds.card := by
      have distinct := nodup_dueOrder live.obligations live.settlementEvidence.nodup_keys
      rw [← List.toFinset_card_of_nodup (distinct.sublist (List.take_sublist _ _)), initial]
    rw [if_neg (by rw [sameEvidence]; exact Bool.false_ne_true), takeLength,
      drop_dueOrder initial]

/-- Two books that advance by the same obligations from books that agree
agree. -/
theorem Agrees.restored {validation checkpointed live restored : SettlementBook}
    (agrees : Agrees validation checkpointed) (advances : Advances checkpointed live)
    (moved : Advances validation restored)
    (obligations : restored.obligations = live.obligations)
    (settledIds : restored.settledIds = live.settledIds)
    (evidence : ∀ key ∈ lateIds checkpointed live,
      restored.settlementEvidence.get? key = live.settlementEvidence.get? key)
    (consistent : Consistent checkpointed) (restoredConsistent : Consistent restored)
    (liveConsistent : Consistent live) :
    Agrees restored live := by
  have cash : ∀ currency, restored.cashOf currency = live.cashOf currency := by
    intro currency
    rw [moved.cash, advances.cash, settledIds, obligations, agrees.settledIds]
    rw [cashOf, cashOf, agrees.settledCash]
  have currencies : ∀ currency,
      currency ∈ restored.settledCash.keys ↔ currency ∈ live.settledCash.keys := by
    intro currency
    have sameKeys : currency ∈ validation.settledCash.keys ↔
        currency ∈ checkpointed.settledCash.keys := by
      rw [Dict.mem_keys, Dict.mem_keys, agrees.settledCash]
    rw [moved.currencies, advances.currencies, settledIds, obligations, agrees.settledIds,
      sameKeys]
  refine ⟨fun currency => ?_, settledIds, fun key => ?_⟩
  · exact Dict.get?_eq_of_getD 0 (currencies currency) (Decimal.ext (cash currency))
  · by_cases settled : key ∈ live.settledIds
    · by_cases early : key ∈ checkpointed.settledIds
      · obtain ⟨record, found⟩ := Dict.mem_keys.mp ((consistent.settled key).mp early)
        rw [advances.evidence key record found, moved.evidence key record]
        rw [agrees.evidence, found]
      · apply evidence
        rw [lateIds, mem_dueOrder, List.mem_filter, decide_eq_true_iff]
        exact ⟨(liveConsistent.settled key).mp settled, early⟩
    · have notRestored : key ∉ restored.settledIds := settledIds ▸ settled
      rw [liveConsistent.settled] at settled
      rw [restoredConsistent.settled] at notRestored
      rw [Dict.get?_eq_none.mpr settled, Dict.get?_eq_none.mpr notRestored]

/-- A restart from a checkpoint of a run rebuilds the live book exactly when
the later settlements are replayable in due order. -/
theorem restart_iff (settledCash : Dict String DecimalInput)
    (start checkpointed live : SettlementBook) (before after : List SettlementCall)
    (checkpointId : String) (checkpoint : SettlementCheckpoint)
    (opened : init settledCash [] ∅ = .ok start)
    (first : start.run before = .ok checkpointed)
    (taken : checkpointed.checkpoint checkpointId = .ok checkpoint)
    (rest : checkpointed.run after = .ok live) :
    (∃ restored, fromHistory checkpoint live.obligations.values live.settlementEvidence =
        .ok restored ∧ Agrees restored live) ↔
      Replayable checkpointed live := by
  obtain ⟨consistent, -⟩ := run_advances (init_consistent opened) first
  obtain ⟨liveConsistent, advances⟩ := run_advances consistent rest
  obtain ⟨validation, validConsistent, obligations, agrees, restart⟩ :=
    fromHistory_eq consistent liveConsistent advances taken
  have replaying : Replaying live validation (lateIds checkpointed live) := by
    constructor
    · exact validConsistent
    · exact obligations
    · exact nodup_dueOrder _ (live.settlementEvidence.nodup_keys.filter _)
    · intro key member
      rw [lateIds, mem_dueOrder, List.mem_filter, decide_eq_true_iff] at member
      rw [agrees.settledIds]
      exact member.2
    · intro key member
      rw [lateIds, mem_dueOrder] at member
      exact List.mem_of_mem_filter member
  have cash : validation.cashOf = checkpointed.cashOf := by
    funext currency
    rw [cashOf, cashOf, agrees.settledCash]
  have replayable := replayAll_iff liveConsistent replaying
  rw [cash] at replayable
  rw [restart]
  constructor
  · rintro ⟨restored, success, -⟩
    rw [guard_eq_ok, not_not] at success
    exact ⟨(prefix_iff liveConsistent advances).mp success.1,
      replayable.mp ⟨restored, success.2⟩⟩
  · rintro ⟨ordered, representable⟩
    have initial := (prefix_iff liveConsistent advances).mpr ordered
    obtain ⟨restored, success⟩ := replayable.mpr representable
    rw [if_neg (not_not.mpr initial)]
    refine ⟨restored, success, ?_⟩
    obtain ⟨restoredConsistent, moved, sameObligations, settledIds, evidence⟩ :=
      replayAll_spec liveConsistent replaying success
    have ids : restored.settledIds = live.settledIds := by
      ext key
      have subset := @advances.settledIds key
      rw [settledIds, Finset.mem_union, List.mem_toFinset, lateIds, mem_dueOrder,
        List.mem_filter, decide_eq_true_iff, agrees.settledIds, ← liveConsistent.settled]
      tauto
    exact agrees.restored advances moved sameObligations ids evidence consistent
      restoredConsistent liveConsistent

end Restart

section Sample

attribute [local instance] CaseMap.ascii

theorem normal_usd : Normal "USD" := by decide

theorem upper_usd : upper "USD" = "USD" := by decide

/-- An obligation of one hundred dollars due on the given day. -/
def sampleObligation (obligationId : String) (due : Date) (normal : Normal obligationId)
    (ordered : (0 : Date) ≤ due) : SettlementObligation where
  obligationId := obligationId
  causeEventId := obligationId
  currency := "USD"
  amount := ⟨100, 0, by decide, 100, by norm_num, by decide⟩
  tradeDate := 0
  settlementDate := due
  componentId := "PRIMARY"
  sourceTransactionId := none
  ruleBinding := none
  obligationIdNormal := normal
  currencyNormal := normal_usd
  currencyUpper := upper_usd
  amountNonzero := by decide +kernel
  datesOrdered := ordered

def sampleEarly : SettlementObligation := sampleObligation "a" 1 (by decide) (by decide)
def sampleLate : SettlementObligation := sampleObligation "b" 2 (by decide) (by decide)

/-- Settle a sample obligation on day three. -/
def sampleSettle (obligationId : String) (normal : Normal obligationId) : SettlementCall :=
  .settle obligationId 3 ⟨obligationId, "statement", ⟨3 * 86400000000⟩, normal⟩

def sampleAdds : List SettlementCall := [.add sampleEarly, .add sampleLate]
def settleEarly : SettlementCall := sampleSettle "a" (by decide)
def settleLate : SettlementCall := sampleSettle "b" (by decide)

/-- The book after calls on an empty book. -/
def sampleBook (calls : List SettlementCall)
    (returns : ((⟨∅, ∅, ∅, ∅, ∅⟩ : SettlementBook).run calls).toOption.isSome = true) :
    SettlementBook :=
  ((⟨∅, ∅, ∅, ∅, ∅⟩ : SettlementBook).run calls).toOption.get returns

/-- The book with only the early obligation settled. -/
def sampleEarlySettled : SettlementBook :=
  sampleBook (sampleAdds ++ [settleEarly]) (by decide +kernel)

/-- The book with only the late obligation settled. -/
def sampleLateSettled : SettlementBook :=
  sampleBook (sampleAdds ++ [settleLate]) (by decide +kernel)

def sampleBothSettled : SettlementBook :=
  sampleBook (sampleAdds ++ [settleEarly, settleLate]) (by decide +kernel)

def sampleBothSettledLateFirst : SettlementBook :=
  sampleBook (sampleAdds ++ [settleLate, settleEarly]) (by decide +kernel)

/-- A checkpoint of a sample book. -/
def sampleCheckpoint (book : SettlementBook)
    (returns : (book.checkpoint "checkpoint").toOption.isSome = true) :
    SettlementCheckpoint :=
  (book.checkpoint "checkpoint").toOption.get returns

/-- Settling in due order around the checkpoint is replayable. -/
theorem replayable_in_due_order : Replayable sampleEarlySettled sampleBothSettled := by
  have restart := restart_iff ∅ ⟨∅, ∅, ∅, ∅, ∅⟩ sampleEarlySettled sampleBothSettled
    (sampleAdds ++ [settleEarly]) [settleLate] "checkpoint"
    (sampleCheckpoint sampleEarlySettled (by decide +kernel))
    (by decide +kernel) (by decide +kernel) (by decide +kernel) (by decide +kernel)
  apply restart.mp
  refine ⟨sampleBothSettled, by decide +kernel, ?_⟩
  exact ⟨fun _ => rfl, rfl, fun _ => rfl⟩

/-- A checkpoint taken after the later obligation was settled first cannot be
restarted once the earlier one is settled too. -/
theorem restart_fails_out_of_due_order :
    ¬ ∀ (settledCash : Dict String DecimalInput) (start checkpointed live : SettlementBook)
      (before after : List SettlementCall) (checkpointId : String)
      (checkpoint : SettlementCheckpoint),
      init settledCash [] ∅ = .ok start → start.run before = .ok checkpointed →
        checkpointed.checkpoint checkpointId = .ok checkpoint →
        checkpointed.run after = .ok live →
        ∃ restored, fromHistory checkpoint live.obligations.values live.settlementEvidence =
          .ok restored ∧ Agrees restored live := by
  intro restarts
  obtain ⟨restored, success, -⟩ := restarts ∅ ⟨∅, ∅, ∅, ∅, ∅⟩ sampleLateSettled
    sampleBothSettledLateFirst (sampleAdds ++ [settleLate]) [settleEarly] "checkpoint"
    (sampleCheckpoint sampleLateSettled (by decide +kernel)) (by decide +kernel)
    (by decide +kernel) (by decide +kernel) (by decide +kernel)
  have raised : fromHistory (sampleCheckpoint sampleLateSettled (by decide +kernel))
      sampleBothSettledLateFirst.obligations.values
      sampleBothSettledLateFirst.settlementEvidence =
      .error (.conflict
        "checkpoint settled history is not the exact retained-history prefix") := by
    decide +kernel
  rw [raised] at success
  cases success

end Sample

end SettlementBook

end AutoTrade.Settlement
