import AutoTrade.Settlement.EconomicCash
import AutoTrade.Settlement.Restart

/-!
# Settled and economic cash

The settled cash that `from_economic_book` projects, and the economic cash of
its snapshots, in terms of the journal.
-/

namespace AutoTrade.Settlement

open Lib Numeric

variable [CaseMap]

/-! ## Restart from an opening checkpoint -/

/-- Amounts of the obligations in a currency that a selection keeps. -/
def obligedIn (currency : String) (keep : SettlementObligation → Bool)
    (obligations : List SettlementObligation) : ℚ :=
  selectedSum (fun obligation => obligation.amount.toRat)
    (fun obligation => obligation.currency = currency && keep obligation) obligations

/-- Cash entries whose currency normalizes to `currency`. -/
def normalizedSum (currency : String) (entries : List (String × Decimal)) : ℚ :=
  selectedSum (fun entry => entry.2.toRat) (fun entry => upper (strip entry.1) = currency)
    entries

/-- The normalization loop of cash adds up the entries of each currency and
accepts at most one. -/
theorem addCash_sum {currencyName duplicate amountName : String}
    {entries : List (String × Decimal)} {start cash : Dict String Decimal}
    (success : (entries.map fun entry => (entry.1, DecimalInput.bounded entry.2)).foldlM
      (addCash currencyName duplicate amountName) start = .ok cash) :
    (∀ currency, ((cash.get? currency).getD 0).toRat =
      ((start.get? currency).getD 0).toRat + normalizedSum currency entries) ∧
    (entries.map fun entry => upper (strip entry.1)).Nodup ∧
    ∀ entry ∈ entries, start.get? (upper (strip entry.1)) = none := by
  induction entries generalizing start with
  | nil =>
      cases success
      simp [normalizedSum, selectedSum]
  | cons entry rest ih =>
      rw [List.map_cons, List.foldlM_cons, bind_eq_ok] at success
      obtain ⟨next, first, tail⟩ := success
      simp only [addCash, bind_eq_ok, guard_eq_ok, pure_eq_ok] at first
      obtain ⟨code, codeText, fresh, amount, parsed, rfl⟩ := first
      simp only [text, guard_eq_ok, Except.ok.injEq] at codeText
      obtain ⟨-, rfl⟩ := codeText
      simp only [decimal, parseBoundedExactDecimal, mapError_eq_ok, Except.ok.injEq] at parsed
      subst parsed
      have unset : start.get? (upper (strip entry.1)) = none := by simpa using fresh
      obtain ⟨sums, distinct, unused⟩ := ih tail
      refine ⟨?_, ?_, ?_⟩
      · intro currency
        rw [sums, normalizedSum, normalizedSum, selectedSum_cons, Dict.get?_set]
        by_cases same : upper (strip entry.1) = currency
        · rw [← same, unset]
          simp
        · simp [same]
      · rw [List.map_cons, List.nodup_cons]
        refine ⟨?_, distinct⟩
        intro member
        obtain ⟨other, found, same⟩ := List.mem_map.mp member
        have absent := unused other found
        rw [same, Dict.get?_set_self] at absent
        cases absent
      · intro other member
        rcases List.mem_cons.mp member with rfl | later
        · exact unset
        · have absent := unused other later
          rw [Dict.get?_set] at absent
          split at absent
          next => cases absent
          next => exact absent

namespace SettlementBook

theorem add_stores {book next : SettlementBook} {obligation : SettlementObligation}
    {changed : Bool} (success : book.add obligation = .ok (next, changed)) :
    next.obligations.get? obligation.obligationId = some obligation := by
  rw [SettlementBook.add] at success
  split at success
  next existing found =>
    rw [guard_eq_ok, not_not] at success
    obtain ⟨rfl, success⟩ := success
    cases success
    exact found
  next =>
    simp only [guard_eq_ok] at success
    cases success.2
    exact Dict.get?_set_self _ _ _

/-- Adding obligations stores each of them. -/
theorem addAll_stores {obligations : List SettlementObligation} {book next : SettlementBook}
    (success : obligations.foldlM (fun current obligation =>
      (current.add obligation).map Prod.fst) book = .ok next) :
    Advances book next ∧ ∀ obligation ∈ obligations,
      next.obligations.get? obligation.obligationId = some obligation := by
  induction obligations generalizing book with
  | nil =>
      cases success
      exact ⟨Advances.refl _, by simp⟩
  | cons obligation rest ih =>
      rw [List.foldlM_cons, bind_eq_ok] at success
      obtain ⟨middle, first, tail⟩ := success
      obtain ⟨changed, added⟩ := map_fst_eq_ok.mp first
      obtain ⟨advances, stored⟩ := ih tail
      refine ⟨(Advances.add added).trans advances, ?_⟩
      intro other member
      rcases List.mem_cons.mp member with rfl | later
      · exact advances.obligations _ _ (add_stores added)
      · exact stored other later

/-- Distinct obligations that can all be added have distinct ids. -/
theorem addAll_distinct {obligations : List SettlementObligation} {book next : SettlementBook}
    (distinct : obligations.Nodup)
    (success : obligations.foldlM (fun current obligation =>
      (current.add obligation).map Prod.fst) book = .ok next) :
    (obligations.map SettlementObligation.obligationId).Nodup := by
  have stored := (addAll_stores success).2
  refine List.Nodup.map_on ?_ distinct
  intro left leftMem right rightMem same
  have leftStored := stored left leftMem
  rw [same, stored right rightMem] at leftStored
  exact (Option.some.inj leftStored).symm

/-- Adding obligations under new ids appends them and changes no cash and no
evidence. -/
theorem addAll_appends {obligations : List SettlementObligation} {book next : SettlementBook}
    (distinct : (obligations.map SettlementObligation.obligationId).Nodup)
    (fresh : ∀ obligation ∈ obligations,
      book.obligations.get? obligation.obligationId = none)
    (success : obligations.foldlM (fun current obligation =>
      (current.add obligation).map Prod.fst) book = .ok next) :
    next.obligations.entries = book.obligations.entries ++
        obligations.map (fun obligation => (obligation.obligationId, obligation)) ∧
      next.settledCash = book.settledCash ∧ next.settledIds = book.settledIds ∧
      next.settlementEvidence = book.settlementEvidence := by
  induction obligations generalizing book with
  | nil =>
      cases success
      simp
  | cons obligation rest ih =>
      rw [List.map_cons, List.nodup_cons] at distinct
      rw [List.foldlM_cons, bind_eq_ok] at success
      obtain ⟨middle, first, tail⟩ := success
      have unknown := fresh obligation List.mem_cons_self
      obtain ⟨changed, added⟩ := map_fst_eq_ok.mp first
      simp only [SettlementBook.add, unknown, guard_eq_ok] at added
      cases added.2
      have restFresh : ∀ other ∈ rest, (book.obligations.set obligation.obligationId
          obligation).get? other.obligationId = none := by
        intro other member
        rw [Dict.get?_set_of_ne]
        · exact fresh other (List.mem_cons_of_mem obligation member)
        · intro same
          exact distinct.1 (List.mem_map.mpr ⟨other, member, same.symm⟩)
      obtain ⟨entries, cash, settled, evidence⟩ := ih distinct.2 restFresh tail
      refine ⟨?_, cash, settled, evidence⟩
      rw [entries, Dict.entries_set_of_get?_eq_none unknown]
      simp

theorem settle_settles {book next : SettlementBook} {obligationId : String} {asOf : Date}
    {evidence : SettlementEvidence} {changed : Bool}
    (success : book.settle obligationId asOf evidence = .ok (next, changed)) :
    next.obligations = book.obligations ∧
      next.settledIds = insert evidence.obligationId book.settledIds := by
  rw [settle, bind_eq_ok] at success
  obtain ⟨key, -, rest⟩ := success
  rw [guard_eq_ok, not_not] at rest
  obtain ⟨rfl, rest⟩ := rest
  split at rest
  · cases rest
  next obligation found =>
    split at rest
    next settled =>
      rw [guard_eq_ok, pure_eq_ok] at rest
      cases rest.2
      exact ⟨rfl, (Finset.insert_eq_of_mem settled).symm⟩
    next =>
      simp only [guard_eq_ok, bind_eq_ok, pure_eq_ok] at rest
      obtain ⟨-, -, -, total, -, equal⟩ := rest
      cases equal
      exact ⟨rfl, rfl⟩

/-- A replay that returns settles its ids. -/
theorem replayAll_settles {normalized : Dict String SettlementEvidence}
    {book final : SettlementBook} {ids : List String} (consistent : Consistent book)
    (identified : ∀ key record, normalized.get? key = some record → record.obligationId = key)
    (success : ids.foldlM (replay normalized) book = .ok final) :
    Consistent final ∧ Advances book final ∧ final.obligations = book.obligations ∧
      final.settledIds = ids.toFinset ∪ book.settledIds := by
  induction ids generalizing book with
  | nil =>
      cases success
      exact ⟨consistent, Advances.refl _, rfl, by simp⟩
  | cons key rest ih =>
      rw [List.foldlM_cons, bind_eq_ok] at success
      obtain ⟨next, first, tail⟩ := success
      rw [replay] at first
      split at first
      next obligation record found recordFound =>
        obtain ⟨changed, settled⟩ := map_fst_eq_ok.mp first
        obtain ⟨sameObligations, settledIds⟩ := settle_settles settled
        obtain ⟨finalConsistent, advances, obligations, ids⟩ :=
          ih (consistent.settle settled) tail
        refine ⟨finalConsistent, (Advances.settle consistent settled).trans advances,
          obligations.trans sameObligations, ?_⟩
        rw [ids, settledIds, identified key record recordFound]
        simp
      next => cases first

/-- The normalization of evidence under normal keys keeps its keys. -/
theorem retainAll_keys {obligations : Dict String SettlementObligation}
    {items : List (String × SettlementEvidence)} {start normalized : Dict String SettlementEvidence}
    (normal : ∀ item ∈ items, Normal item.1)
    (identified : ∀ key record, start.get? key = some record → record.obligationId = key)
    (success : items.foldlM (retainEvidence obligations) start = .ok normalized) :
    (∀ key record, normalized.get? key = some record → record.obligationId = key) ∧
      ∀ key, key ∈ normalized.keys ↔ key ∈ start.keys ∨ key ∈ items.map Prod.fst := by
  induction items generalizing start with
  | nil =>
      cases success
      exact ⟨identified, by simp⟩
  | cons item rest ih =>
      rw [List.foldlM_cons, bind_eq_ok] at success
      obtain ⟨next, first, tail⟩ := success
      simp only [retainEvidence, text_of_normal (normal item List.mem_cons_self), bind_eq_ok,
        guard_eq_ok, pure_eq_ok, Except.ok.injEq, not_not] at first
      obtain ⟨key, rfl, identity, -, -, rfl⟩ := first
      have stored : ∀ key record, (start.set item.1 item.2).get? key = some record →
          record.obligationId = key := by
        intro key record found
        rw [Dict.get?_set] at found
        split at found
        next same =>
          cases found
          rw [identity, same]
        next => exact identified key record found
      obtain ⟨kept, keys⟩ := ih (fun other member =>
        normal other (List.mem_cons_of_mem item member)) stored tail
      refine ⟨kept, ?_⟩
      intro key
      rw [keys, Dict.mem_keys_set, List.map_cons, List.mem_cons, eq_comm]
      tauto

/-- What a restart from a checkpoint without evidence yields. -/
structure Opened (opening : Dict String Decimal) (active : List SettlementObligation)
    (evidence : Dict String SettlementEvidence) (result : SettlementBook) : Prop where
  currencies : (opening.entries.map fun entry => upper (strip entry.1)).Nodup
  ids : (active.map SettlementObligation.obligationId).Nodup
  obligations : result.obligations.values = active
  settled : ∀ key, key ∈ result.settledIds ↔ key ∈ evidence.keys
  cash : ∀ currency, result.cashOf currency = normalizedSum currency opening.entries +
    obligedIn currency (fun obligation => obligation.obligationId ∈ evidence.keys) active

/-- The amounts that a set of known ids settles. -/
theorem sum_amountIn {obligations : Dict String SettlementObligation}
    {active : List SettlementObligation} (currency : String) {settled : Finset String}
    (entries : obligations.entries =
      active.map fun obligation => (obligation.obligationId, obligation))
    (known : ∀ key ∈ settled, key ∈ obligations.keys) :
    ∑ key ∈ settled, amountIn obligations currency key =
      obligedIn currency (fun obligation => obligation.obligationId ∈ settled) active := by
  have keys : obligations.keys = active.map SettlementObligation.obligationId := by
    rw [Dict.keys, entries, List.map_map]
    rfl
  have within : settled = obligations.keys.toFinset.filter fun key => key ∈ settled := by
    ext key
    rw [Finset.mem_filter, List.mem_toFinset]
    exact ⟨fun member => ⟨known key member, member⟩, And.right⟩
  have amounts : ∀ obligation ∈ active,
      amountIn obligations currency obligation.obligationId =
        if obligation.currency = currency then obligation.amount.toRat else 0 := by
    intro obligation member
    have found : obligations.get? obligation.obligationId = some obligation := by
      rw [← Dict.mem_entries, entries]
      exact List.mem_map_of_mem member
    rw [amountIn, found]
  calc ∑ key ∈ settled, amountIn obligations currency key
      = ∑ key ∈ obligations.keys.toFinset,
          if key ∈ settled then amountIn obligations currency key else 0 := by
        rw [← Finset.sum_filter, ← within]
    _ = (active.map fun obligation => if obligation.obligationId ∈ settled then
          amountIn obligations currency obligation.obligationId else 0).sum := by
        rw [List.sum_toFinset _ obligations.nodup_keys, keys, List.map_map]
        rfl
    _ = obligedIn currency (fun obligation => obligation.obligationId ∈ settled) active := by
        rw [obligedIn, selectedSum_eq_sum_ite]
        congr 1
        apply List.map_congr_left
        intro obligation member
        rw [amounts obligation member]
        by_cases inCurrency : obligation.currency = currency
        · simp [inCurrency]
        · simp [inCurrency]

theorem fromHistory_opening {opening : Dict String Decimal}
    {active : List SettlementObligation} {evidence : Dict String SettlementEvidence}
    {checkpointId : String} {checkpoint : SettlementCheckpoint} {result : SettlementBook}
    (distinct : active.Nodup) (normal : ∀ key ∈ evidence.keys, Normal key)
    (created : SettlementCheckpoint.create checkpointId (opening.mapValues .bounded) ∅ =
      .ok checkpoint)
    (restarted : fromHistory checkpoint active evidence = .ok result) :
    Opened opening active evidence result := by
  simp only [SettlementCheckpoint.create, SettlementCheckpoint.validate, bind_eq_ok,
    guard_eq_ok, pure_eq_ok] at created
  obtain ⟨cash, cashLoop, records, recordLoop, identity, -, _, -, _, -, -, -, -, rfl⟩ := created
  cases recordLoop
  obtain ⟨sums, currencies, -⟩ := addCash_sum cashLoop
  have canonical := addCash_currencies cashLoop
  generalize checkpointEq : SettlementCheckpoint.mk _ _ _ = checkpoint at restarted
  have cashSorted : checkpoint.settledCash = SettlementCheckpoint.sortCash
      (SettlementBook.mk cash ∅ ∅ ∅ ∅).settledCash.entries := by
    rw [← checkpointEq]
  have noEvidence : checkpoint.evidenceDict = ∅ := by
    rw [← checkpointEq]
    rfl
  have cashPerm := cashDict_perm cashSorted
  have cashCanonical : ∀ currency ∈ checkpoint.cashDict.keys,
      Normal currency ∧ upper currency = currency := by
    intro currency member
    exact canonical currency ((cashPerm.map Prod.fst).mem_iff.mp member)
  simp only [fromHistory, bind_eq_ok, noEvidence] at restarted
  obtain ⟨validation, built, normalized, retained, replayed⟩ := restarted
  have consistent := init_consistent built
  rw [init, addCash_canonical _ _ _ cashCanonical, ok_bind, bind_eq_ok] at built
  obtain ⟨added, adding, restored⟩ := built
  cases restored
  have ids := addAll_distinct distinct adding
  obtain ⟨entries, settledCash, settledIds, -⟩ := addAll_appends ids (by simp) adding
  obtain ⟨identified, keys⟩ := retainAll_keys (fun item member =>
    normal item.1 (List.mem_map_of_mem member)) (by simp) retained
  simp only [Dict.keys_empty, List.length_nil, List.take_zero, List.toFinset_nil, ne_eq,
    not_true_eq_false, if_false, List.any_nil, Bool.false_eq_true, List.drop_zero] at replayed
  obtain ⟨-, advances, obligations, settled⟩ :=
    replayAll_settles consistent identified replayed
  have settledKeys : ∀ key, key ∈ result.settledIds ↔ key ∈ evidence.keys := by
    intro key
    rw [settled, settledIds, Finset.union_empty, List.mem_toFinset, mem_dueOrder, keys,
      Dict.keys_empty]
    exact or_iff_right List.not_mem_nil
  have resultEntries : result.obligations.entries =
      active.map fun obligation => (obligation.obligationId, obligation) := by
    rw [obligations, entries]
    rfl
  constructor
  · simpa using currencies
  · exact ids
  · rw [Dict.values, resultEntries, List.map_map]
    exact List.map_id active
  · exact settledKeys
  · intro currency
    have opened : validation.cashOf currency = normalizedSum currency opening.entries := by
      have start := sums currency
      rw [Dict.get?_empty, Option.getD_none, Decimal.toRat_zero, zero_add] at start
      rw [cashOf, settledCash, ← start]
      exact congrArg (fun held => (held.getD 0).toRat)
        (Dict.get?_eq_of_perm cashPerm currency)
    have newIds : result.settledIds \ validation.settledIds = result.settledIds := by
      rw [settledIds]
      exact Finset.sdiff_empty
    have known : ∀ key ∈ result.settledIds, key ∈ result.obligations.keys := by
      intro key member
      exact advances.known key (newIds.symm ▸ member)
    rw [advances.cash, newIds, opened, sum_amountIn currency resultEntries known]
    congr 2
    funext obligation
    rw [decide_eq_decide]
    exact settledKeys _

end SettlementBook

end AutoTrade.Settlement
