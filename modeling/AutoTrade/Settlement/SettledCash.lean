import AutoTrade.Settlement.CashConservation
import Mathlib.Tactic.Linarith

/-!
# Trading cash is not settled cash

`from_economic_book` recovers the settled opening cash by subtraction.  The main
result says which postings of the journal the projected settled cash consists
of, and that the economic cash of a snapshot is the cash the journal posts.
-/

namespace AutoTrade.Settlement

open Lib Numeric
open Accounting

section SettledCash

variable [CaseMap]

/-! ## Cash of the journal -/

/-- The cash account of a currency that normalizes to `currency`. -/
def isCashIn (currency account asset : String) : Bool :=
  account = "CASH:" ++ asset && upper asset = currency

/-- Cash a transaction posts in a currency, by normalized code. -/
def cashIn (currency : String) : (transaction : JournalTransaction) → ℚ :=
  postedSum (isCashIn currency)

omit [CaseMap] in
theorem postedTo_cash (currency : String) (transaction : JournalTransaction) :
    postedTo ("CASH:" ++ currency) currency transaction =
      selectedSum (fun item : Posting => item.signedAmount.toRat)
        (fun item => isCash item && decide (item.assetOrCurrency = currency))
        transaction.postings := by
  rw [postedTo, postedSum, selectedSum]
  congr 2
  apply List.filter_congr
  intro item _
  rw [isCash, ← Bool.decide_and, decide_eq_decide]
  constructor
  · rintro ⟨account, rfl⟩
    exact ⟨account, rfl⟩
  · rintro ⟨account, rfl⟩
    exact ⟨account, rfl⟩

/-- The cash in a normalized currency, by the currencies that are spelled
out. -/
theorem cashIn_eq {transaction : JournalTransaction} {currencies : List String}
    (currency : String) (distinct : currencies.Nodup)
    (known : ∀ item ∈ transaction.postings, isCash item → item.assetOrCurrency ∈ currencies) :
    selectedSum (fun code => postedTo ("CASH:" ++ code) code transaction)
        (fun code => upper (strip code) = currency) currencies =
      cashIn currency transaction := by
  have fibers := selectedSum_fiberwise (fun item : Posting => item.signedAmount.toRat)
    Posting.assetOrCurrency isCash (fun code => decide (upper (strip code) = currency))
    distinct known
  simp only [← postedTo_cash] at fibers
  rw [fibers, cashIn, postedSum, selectedSum]
  congr 2
  apply List.filter_congr
  intro item _
  rw [isCashIn, isCash, item.assetNormal.1]

/-! ## Active obligations -/

/-- The obligation's source is not reversed. -/
def stands (reversed : List String) (obligation : SettlementObligation) : Bool :=
  obligation.sourceTransactionId.any fun source => source ∉ reversed

theorem mem_boundPairs {obligations : List SettlementObligation} {source currency : String} :
    (source, currency) ∈ boundPairs obligations ↔
      ∃ obligation ∈ obligations, obligation.sourceTransactionId = some source ∧
        obligation.currency = currency := by
  simp only [boundPairs, List.mem_filterMap, Option.map_eq_some_iff, Prod.mk.injEq]
  constructor
  · rintro ⟨obligation, member, found, sourced, rfl, rfl⟩
    exact ⟨obligation, member, sourced, rfl⟩
  · rintro ⟨obligation, member, sourced, rfl⟩
    exact ⟨obligation, member, source, sourced, rfl, rfl⟩

/-- What one iteration of the activation loop does. -/
theorem activate_cases {byTransaction : Dict String JournalTransaction}
    {reversed : List String} {active next : List SettlementObligation}
    {obligation : SettlementObligation}
    (success : activate byTransaction reversed active obligation = .ok next) :
    ∃ source transaction, obligation.sourceTransactionId = some source ∧
      byTransaction.get? source = some transaction ∧
      (source ∈ reversed ∧ next = active ∨
        source ∉ reversed ∧ (source, obligation.currency) ∉ boundPairs active ∧
          obligation.amount.toRat =
            postedTo ("CASH:" ++ obligation.currency) obligation.currency transaction ∧
          next = active ++ [obligation]) := by
  rw [activate] at success
  split at success
  next source binding sourced bound =>
    split at success
    next => cases success
    next transaction found =>
      rw [guard_eq_ok] at success
      obtain ⟨-, success⟩ := success
      refine ⟨source, transaction, sourced, found, ?_⟩
      split at success
      next reversedSource =>
        cases success
        exact .inl ⟨reversedSource, rfl⟩
      next standing =>
        simp only [guard_eq_ok, bind_eq_ok, mapError_eq_ok, pure_eq_ok, not_not] at success
        obtain ⟨unbound, effect, summed, rfl, rfl⟩ := success
        refine .inr ⟨standing, unbound, ?_, rfl⟩
        rw [exactSum_toRat summed, Decimal.toRat_zero, zero_add, List.map_map]
        rfl
  next => cases success

/-- The state of the activation loop after some obligations. -/
structure Activated (transactions : List JournalTransaction)
    (processed active : List SettlementObligation) : Prop where
  kept : active = processed.filter (stands (reversedIds transactions))
  sourced : ∀ obligation ∈ processed, ∃ transaction ∈ transactions,
    obligation.sourceTransactionId = some transaction.transactionId
  distinct : active.Nodup
  sums : ∀ currency, obligedIn currency (fun _ => true) active =
    selectedSum (postedTo ("CASH:" ++ currency) currency)
      (fun transaction => (transaction.transactionId, currency) ∈ boundPairs active)
      transactions

theorem boundPairs_append (left right : List SettlementObligation) :
    boundPairs (left ++ right) = boundPairs left ++ boundPairs right :=
  List.filterMap_append

theorem obligedIn_append (currency : String) (keep : SettlementObligation → Bool)
    (left right : List SettlementObligation) :
    obligedIn currency keep (left ++ right) =
      obligedIn currency keep left + obligedIn currency keep right := by
  simp [obligedIn, selectedSum]

/-- An activated obligation accounts for the cash of its source. -/
theorem Activated.append {transactions : List JournalTransaction}
    {processed active : List SettlementObligation} {obligation : SettlementObligation}
    {transaction : JournalTransaction} (activated : Activated transactions processed active)
    (distinct : (transactions.map JournalTransaction.transactionId).Nodup)
    (member : transaction ∈ transactions)
    (sourced : obligation.sourceTransactionId = some transaction.transactionId)
    (standing : transaction.transactionId ∉ reversedIds transactions)
    (unbound : (transaction.transactionId, obligation.currency) ∉ boundPairs active)
    (effect : obligation.amount.toRat =
      postedTo ("CASH:" ++ obligation.currency) obligation.currency transaction) :
    Activated transactions (processed ++ [obligation]) (active ++ [obligation]) where
  kept := by
    have kept : stands (reversedIds transactions) obligation = true := by
      simp [stands, sourced, standing]
    rw [List.filter_append, ← activated.kept]
    simp [kept]
  sourced := by
    intro other found
    rcases List.mem_append.mp found with earlier | last
    · exact activated.sourced other earlier
    · rw [List.mem_singleton.mp last]
      exact ⟨transaction, member, sourced⟩
  distinct := by
    refine activated.distinct.append (List.nodup_singleton obligation) ?_
    intro other found last
    rw [List.mem_singleton.mp last] at found
    exact unbound (mem_boundPairs.mpr ⟨obligation, found, sourced, rfl⟩)
  sums := by
    intro currency
    have added : boundPairs [obligation] = [(transaction.transactionId, obligation.currency)] := by
      simp [boundPairs, sourced]
    rw [obligedIn_append, activated.sums, boundPairs_append, added]
    by_cases same : obligation.currency = currency
    · subst same
      have single := selectedSum_single (postedTo ("CASH:" ++ obligation.currency)
        obligation.currency) distinct member
      have own : obligedIn obligation.currency (fun _ => true) [obligation] =
          obligation.amount.toRat := by
        simp [obligedIn, selectedSum]
      rw [own, effect, ← single, ← selectedSum_or]
      · apply selectedSum_congr
        intro other _
        simp
      · intro other _ both
        simp only [decide_eq_true_eq] at both
        rw [both.2] at both
        exact unbound both.1
    · have none : obligedIn currency (fun _ => true) [obligation] = 0 := by
        simp [obligedIn, selectedSum, same]
      rw [none, add_zero]
      apply selectedSum_congr
      intro other _
      simp [Ne.symm same]

/-- The activation loop over a journal with distinct transaction ids. -/
theorem activateAll_spec {transactions : List JournalTransaction}
    {byTransaction : Dict String JournalTransaction}
    {processed obligations active final : List SettlementObligation}
    (distinct : (transactions.map JournalTransaction.transactionId).Nodup)
    (indexed : ∀ source transaction, byTransaction.get? source = some transaction →
      transaction ∈ transactions ∧ transaction.transactionId = source)
    (activated : Activated transactions processed active)
    (success : obligations.foldlM (activate byTransaction (reversedIds transactions)) active =
      .ok final) :
    Activated transactions (processed ++ obligations) final := by
  induction obligations generalizing processed active with
  | nil =>
      cases success
      simpa using activated
  | cons obligation rest ih =>
      rw [List.foldlM_cons, bind_eq_ok] at success
      obtain ⟨next, first, tail⟩ := success
      obtain ⟨source, transaction, sourced, found, outcome⟩ := activate_cases first
      obtain ⟨member, rfl⟩ := indexed source transaction found
      have stepped : Activated transactions (processed ++ [obligation]) next := by
        rcases outcome with ⟨reversedSource, rfl⟩ | ⟨standing, unbound, effect, rfl⟩
        · constructor
          · rw [List.filter_append, ← activated.kept]
            simp [stands, sourced, reversedSource]
          · intro other known
            rcases List.mem_append.mp known with earlier | last
            · exact activated.sourced other earlier
            · rw [List.mem_singleton.mp last]
              exact ⟨transaction, member, sourced⟩
          · exact activated.distinct
          · exact activated.sums
        · exact activated.append distinct member sourced standing unbound effect
      rw [List.append_cons]
      exact ih stepped tail

/-! ## The trading fence -/

omit [CaseMap] in
theorem cashLegs_toRat {transaction : JournalTransaction} {legs : Dict String Decimal}
    (success : cashLegs transaction = .ok legs) (currency : String) :
    ((legs.get? currency).getD 0).toRat =
      postedTo ("CASH:" ++ currency) currency transaction := by
  rw [postedTo_cash]
  suffices loop : ∀ (items : List Posting) (start legs : Dict String Decimal),
      items.foldlM addCashLeg start = .ok legs →
        ((legs.get? currency).getD 0).toRat = ((start.get? currency).getD 0).toRat +
          selectedSum (fun item : Posting => item.signedAmount.toRat)
            (fun item => isCash item && decide (item.assetOrCurrency = currency)) items by
    simpa using loop transaction.postings ∅ legs success
  intro items
  induction items with
  | nil =>
      intro start legs success
      cases success
      simp [selectedSum]
  | cons item rest ih =>
      intro start legs success
      rw [List.foldlM_cons, bind_eq_ok] at success
      obtain ⟨next, first, tail⟩ := success
      rw [ih next legs tail, selectedSum_cons]
      rw [addCashLeg] at first
      split at first
      next cash =>
        simp only [bind_eq_ok, mapError_eq_ok, pure_eq_ok] at first
        obtain ⟨total, sum, rfl⟩ := first
        rw [exactAdd_eq_ok] at sum
        rw [Dict.get?_set]
        by_cases same : item.assetOrCurrency = currency
        · subst same
          simp only [if_true, Option.getD_some, sum, cash, Bool.true_and, decide_true]
          ring
        · simp [same]
      next other =>
        cases first
        simp [other]

omit [CaseMap] in
theorem requireCovered_covers {covered : List (String × String)} {message : String}
    {transaction : JournalTransaction} {currency : String}
    (success : requireCovered covered message transaction = .ok ())
    (nonzero : postedTo ("CASH:" ++ currency) currency transaction ≠ 0) :
    (transaction.transactionId, currency) ∈ covered := by
  rw [requireCovered, bind_eq_ok] at success
  obtain ⟨legs, found, success⟩ := success
  rw [guard_eq_ok] at success
  rw [← cashLegs_toRat found] at nonzero
  cases leg : legs.get? currency with
  | none =>
      rw [leg] at nonzero
      exact absurd rfl nonzero
  | some amount =>
      rw [leg] at nonzero
      by_contra uncovered
      apply success.1
      rw [List.any_eq_true]
      refine ⟨(currency, amount), Dict.mem_entries.mpr leg, ?_⟩
      have amountNonzero : amount ≠ 0 := fun zero => nonzero (by rw [zero]; rfl)
      simp [amountNonzero, uncovered]

omit [CaseMap] in
theorem checkTrading_covers {transactions : List JournalTransaction}
    {covered : List (String × String)} {transaction : JournalTransaction} {currency : String}
    (success : checkTrading transactions covered transaction = .ok ())
    (standing : transaction.transactionId ∉ reversedIds transactions)
    (plain : transaction.reversesTransactionId = none)
    (relevant : settlementRelevant transaction)
    (nonzero : postedTo ("CASH:" ++ currency) currency transaction ≠ 0) :
    (transaction.transactionId, currency) ∈ covered := by
  rw [checkTrading, if_neg (by simp [standing, plain]), if_pos relevant] at success
  exact requireCovered_covers success nonzero

/-! ## Opening cash -/

theorem openingEntry_spec {transactions : List JournalTransaction}
    {active : List SettlementObligation} {currency : String} {entry : String × Decimal}
    (success : openingEntry transactions active currency = .ok entry) :
    entry.1 = currency ∧ entry.2.toRat + obligedIn currency (fun _ => true) active =
      (transactions.map (postedTo ("CASH:" ++ currency) currency)).sum := by
  rw [openingEntry] at success
  cases opened : openingAmount transactions active currency with
  | error error =>
      rw [opened] at success
      cases success
  | ok amount =>
      rw [opened] at success
      cases success
      simp only [openingAmount, bind_eq_ok, mapError_eq_ok] at opened
      obtain ⟨total, totalSum, bound, boundSum, difference⟩ := opened
      refine ⟨rfl, ?_⟩
      have boundEq : bound.toRat = obligedIn currency (fun _ => true) active := by
        rw [exactSum_toRat boundSum, Decimal.toRat_zero, zero_add, List.map_map, obligedIn,
          selectedSum]
        simp [Function.comp_def]
      rw [exactSubtract_eq_ok.mp difference, exactSum_toRat totalSum, Decimal.toRat_zero,
        zero_add, postedAmounts_toRat, boundEq]
      ring

theorem cashCurrencies_nodup (transactions : List JournalTransaction)
    (obligations : List SettlementObligation) :
    (cashCurrencies transactions obligations).Nodup :=
  List.nodup_dedup _

theorem mem_cashCurrencies_of_cash {transactions : List JournalTransaction}
    {obligations : List SettlementObligation} {transaction : JournalTransaction}
    {item : Posting} (member : transaction ∈ transactions)
    (posted : item ∈ transaction.postings) (cash : isCash item) :
    item.assetOrCurrency ∈ cashCurrencies transactions obligations := by
  rw [cashCurrencies, List.mem_dedup, List.mem_append]
  left
  apply List.mem_map_of_mem
  rw [List.mem_filter]
  exact ⟨List.mem_flatMap.mpr ⟨transaction, member, posted⟩, cash⟩

theorem mem_cashCurrencies_of_obligation {transactions : List JournalTransaction}
    {obligations : List SettlementObligation} {obligation : SettlementObligation}
    (member : obligation ∈ obligations) :
    obligation.currency ∈ cashCurrencies transactions obligations := by
  rw [cashCurrencies, List.mem_dedup, List.mem_append]
  right
  exact List.mem_map_of_mem member

theorem SettlementObligation.normalized (obligation : SettlementObligation) :
    upper (strip obligation.currency) = obligation.currency := by
  rw [obligation.currencyNormal.1, obligation.currencyUpper]

/-- The cash of the journal, summed over the spelled-out currencies. -/
theorem posted_by_currency {transactions : List JournalTransaction} {currencies : List String}
    (currency : String) (distinct : currencies.Nodup)
    (known : ∀ transaction ∈ transactions, ∀ item ∈ transaction.postings, isCash item →
      item.assetOrCurrency ∈ currencies) :
    selectedSum (fun code => (transactions.map (postedTo ("CASH:" ++ code) code)).sum)
        (fun code => upper (strip code) = currency) currencies =
      (transactions.map (cashIn currency)).sum := by
  induction transactions with
  | nil => exact selectedSum_eq_zero fun _ _ _ => rfl
  | cons transaction rest ih =>
      simp only [List.map_cons, List.sum_cons]
      rw [selectedSum_add, cashIn_eq currency distinct (known transaction List.mem_cons_self),
        ih fun other member => known other (List.mem_cons_of_mem transaction member)]

/-- The obligations, summed over the spelled-out currencies. -/
theorem obliged_by_currency {active : List SettlementObligation} {currencies : List String}
    (currency : String) (distinct : currencies.Nodup)
    (known : ∀ obligation ∈ active, obligation.currency ∈ currencies) :
    selectedSum (fun code => obligedIn code (fun _ => true) active)
        (fun code => upper (strip code) = currency) currencies =
      obligedIn currency (fun _ => true) active := by
  have fibers := selectedSum_fiberwise
    (fun obligation : SettlementObligation => obligation.amount.toRat)
    SettlementObligation.currency (fun _ => true)
    (fun code => decide (upper (strip code) = currency)) distinct
    fun obligation member _ => known obligation member
  simp only [Bool.true_and, SettlementObligation.normalized] at fibers
  simp only [obligedIn, Bool.and_true]
  exact fibers

theorem openingEntries_sum {transactions : List JournalTransaction}
    {active : List SettlementObligation} {currencies : List String}
    {entries : List (String × Decimal)}
    (success : currencies.mapM (openingEntry transactions active) = .ok entries) :
    entries.map Prod.fst = currencies ∧ ∀ currency,
      normalizedSum currency entries +
        selectedSum (fun code => obligedIn code (fun _ => true) active)
          (fun code => upper (strip code) = currency) currencies =
        selectedSum (fun code => (transactions.map (postedTo ("CASH:" ++ code) code)).sum)
          (fun code => upper (strip code) = currency) currencies := by
  rw [mapM_eq_ok] at success
  induction success with
  | nil => exact ⟨rfl, fun _ => by simp [normalizedSum, selectedSum]⟩
  | cons first tail ih =>
      obtain ⟨rfl, balance⟩ := openingEntry_spec first
      refine ⟨by rw [List.map_cons, ih.1], ?_⟩
      intro currency
      have rest := ih.2 currency
      rw [normalizedSum] at rest
      rw [normalizedSum, selectedSum_cons, selectedSum_cons, selectedSum_cons, ← rest,
        ← balance]
      split
      · ring
      · ring

/-- `opening_cash` is the cash of the journal less the active obligations. -/
theorem opening_sum {transactions : List JournalTransaction}
    {obligations active : List SettlementObligation} {entries : List (String × Decimal)}
    (success : (cashCurrencies transactions obligations).mapM
      (openingEntry transactions active) = .ok entries)
    (kept : ∀ obligation ∈ active, obligation ∈ obligations) (currency : String) :
    normalizedSum currency entries + obligedIn currency (fun _ => true) active =
      (transactions.map (cashIn currency)).sum := by
  have distinct := cashCurrencies_nodup transactions obligations
  rw [← posted_by_currency currency distinct fun _ member _ posted cash =>
      mem_cashCurrencies_of_cash member posted cash,
    ← obliged_by_currency currency distinct fun obligation member =>
      mem_cashCurrencies_of_obligation (kept obligation member)]
  exact (openingEntries_sum success).2 currency

/-! ## The projection -/

theorem obligedIn_congr {currency : String} {left right : SettlementObligation → Bool}
    {obligations : List SettlementObligation}
    (same : ∀ obligation ∈ obligations, obligation.currency = currency →
      left obligation = right obligation) :
    obligedIn currency left obligations = obligedIn currency right obligations := by
  apply selectedSum_congr
  intro obligation member
  by_cases inCurrency : obligation.currency = currency
  · rw [same obligation member inCurrency]
  · simp [inCurrency]

theorem obligedIn_split (currency : String) (keep rest : SettlementObligation → Bool)
    (obligations : List SettlementObligation)
    (opposite : ∀ obligation ∈ obligations, rest obligation = !keep obligation) :
    obligedIn currency (fun _ => true) obligations =
      obligedIn currency keep obligations + obligedIn currency rest obligations := by
  rw [obligedIn, obligedIn, obligedIn, ← selectedSum_or]
  · apply selectedSum_congr
    intro obligation member
    rw [opposite obligation member]
    cases keep obligation <;> simp
  · intro obligation member both
    simp only [Bool.and_eq_true, opposite obligation member] at both
    simp [both.1.2] at both

/-- What `from_economic_book` computes from a journal. -/
structure Projects (transactions : List JournalTransaction)
    (obligations active : List SettlementObligation)
    (evidence : Dict String SettlementEvidence) (result : SettlementBook) : Prop where
  activated : Activated transactions obligations active
  fenced : ∀ transaction ∈ transactions,
    checkTrading transactions (boundPairs active) transaction = .ok ()
  unambiguous : ((cashCurrencies transactions obligations).map fun code =>
    upper (strip code)).Nodup
  obligations : result.obligations.values = active
  settled : ∀ obligation ∈ active, obligation.obligationId ∈ result.settledIds ↔
    obligation.obligationId ∈ evidence.keys
  cash : ∀ currency, result.cashOf currency + obligedIn currency (fun _ => true) active =
    (transactions.map (cashIn currency)).sum +
      obligedIn currency (fun obligation => obligation.obligationId ∈ evidence.keys) active

theorem fromTransactions_projects {owner : Option OwnerScope}
    {transactions : List JournalTransaction} {obligations : List SettlementObligation}
    {evidence : Dict String SettlementEvidence} {result : SettlementBook}
    (distinct : (transactions.map JournalTransaction.transactionId).Nodup)
    (built : SettlementBook.fromTransactions owner transactions obligations evidence =
      .ok result) :
    ∃ active, Projects transactions obligations active evidence result := by
  simp only [SettlementBook.fromTransactions, bind_eq_ok, guard_eq_ok] at built
  obtain ⟨⟨⟩, -, -, ⟨⟩, -, active, activating, ⟨⟩, fence, entries, opening, checkpoint,
    created, restarted⟩ := built
  have indexed : ∀ source transaction,
      (Dict.setAll ∅ (transactions.map fun item =>
        (item.transactionId, item))).get? source = some transaction →
        transaction ∈ transactions ∧ transaction.transactionId = source := by
    intro source transaction found
    have keys : ((transactions.map fun item => (item.transactionId, item)).map
        Prod.fst).Nodup := by
      rw [List.map_map]
      exact distinct
    rw [← Dict.mem_entries, Dict.entries_setAll_empty keys, List.mem_map] at found
    obtain ⟨item, member, equal⟩ := found
    cases equal
    exact ⟨member, rfl⟩
  have start : Activated transactions [] [] :=
    ⟨rfl, by simp, List.nodup_nil, fun _ => by simp [obligedIn, selectedSum, boundPairs]⟩
  have activated : Activated transactions obligations active :=
    activateAll_spec distinct indexed start activating
  have kept : ∀ obligation ∈ active, obligation ∈ obligations := by
    intro obligation member
    rw [activated.kept] at member
    exact (List.mem_filter.mp member).1
  have entryKeys := (openingEntries_sum opening).1
  have entriesDistinct : (entries.map Prod.fst).Nodup := by
    rw [entryKeys]
    exact cashCurrencies_nodup transactions obligations
  have normal : ∀ key ∈ (evidence.filterKeys fun key =>
      key ∈ active.map SettlementObligation.obligationId).keys, Normal key := by
    intro key member
    rw [Dict.keys_filterKeys, List.mem_filter, decide_eq_true_iff] at member
    obtain ⟨obligation, -, rfl⟩ := List.mem_map.mp member.2
    exact obligation.obligationIdNormal
  have opened := SettlementBook.fromHistory_opening activated.distinct normal created restarted
  have supplied : ∀ obligation ∈ active, (obligation.obligationId ∈ (evidence.filterKeys
      fun key => key ∈ active.map SettlementObligation.obligationId).keys ↔
        obligation.obligationId ∈ evidence.keys) := by
    intro obligation member
    rw [Dict.keys_filterKeys, List.mem_filter, decide_eq_true_iff]
    exact and_iff_left (List.mem_map_of_mem member)
  refine ⟨active, activated, forM_eq_ok.mp fence, ?_, opened.obligations, ?_, ?_⟩
  · have codes := opened.currencies
    rw [Dict.entries_setAll_empty entriesDistinct] at codes
    rw [← entryKeys, List.map_map]
    exact codes
  · intro obligation member
    rw [opened.settled, supplied obligation member]
  · intro currency
    have sums := opening_sum opening kept currency
    have evidenced : obligedIn currency (fun obligation => obligation.obligationId ∈
        (evidence.filterKeys fun key =>
          key ∈ active.map SettlementObligation.obligationId).keys) active =
        obligedIn currency (fun obligation => obligation.obligationId ∈ evidence.keys)
          active := by
      apply obligedIn_congr
      intro obligation member _
      rw [decide_eq_decide]
      exact supplied obligation member
    rw [opened.cash, Dict.entries_setAll_empty entriesDistinct, evidenced, ← sums]
    ring

omit [CaseMap] in
theorem lawful_pairs : LawfulBEq (String × String) := inferInstance

attribute [local instance] lawful_pairs in
/-- An obligation in the currency is bound to the transaction. -/
def isBound (obligations : List SettlementObligation) (currency : String)
    (transaction : JournalTransaction) : Bool :=
  (transaction.transactionId, currency) ∈ boundPairs obligations

/-- Where an obligation binds a currency, that currency has one spelling. -/
theorem Projects.cashIn_eq_postedTo {transactions : List JournalTransaction}
    {obligations active : List SettlementObligation}
    {evidence : Dict String SettlementEvidence} {result : SettlementBook}
    (projects : Projects transactions obligations active evidence result)
    {obligation : SettlementObligation} (known : obligation ∈ obligations)
    {transaction : JournalTransaction} (member : transaction ∈ transactions) :
    postedTo ("CASH:" ++ obligation.currency) obligation.currency transaction =
      cashIn obligation.currency transaction := by
  rw [← cashIn_eq obligation.currency (cashCurrencies_nodup transactions obligations)
    fun item posted cash => mem_cashCurrencies_of_cash member posted cash]
  have currencyKnown : obligation.currency ∈ cashCurrencies transactions obligations :=
    mem_cashCurrencies_of_obligation known
  have distinct : ((cashCurrencies transactions obligations).map id).Nodup := by
    rw [List.map_id]
    exact cashCurrencies_nodup transactions obligations
  rw [← selectedSum_single (fun code => postedTo ("CASH:" ++ code) code transaction) distinct
    currencyKnown]
  apply selectedSum_congr
  intro code found
  rw [decide_eq_decide]
  constructor
  · intro same
    rw [id, id] at same
    rw [same, obligation.normalized]
  · intro same
    have injective := List.inj_on_of_nodup_map projects.unambiguous found currencyKnown
    exact injective (same.trans obligation.normalized.symm)

theorem Projects.bound_iff {transactions : List JournalTransaction}
    {obligations active : List SettlementObligation}
    {evidence : Dict String SettlementEvidence} {result : SettlementBook}
    (projects : Projects transactions obligations active evidence result)
    (source currency : String) :
    (source, currency) ∈ boundPairs active ↔
      (source, currency) ∈ boundPairs obligations ∧ source ∉ reversedIds transactions := by
  rw [mem_boundPairs, mem_boundPairs, projects.activated.kept]
  constructor
  · rintro ⟨obligation, member, sourced, same⟩
    obtain ⟨known, standing⟩ := List.mem_filter.mp member
    rw [stands, sourced] at standing
    exact ⟨⟨obligation, known, sourced, same⟩, by simpa using standing⟩
  · rintro ⟨⟨obligation, known, sourced, same⟩, standing⟩
    refine ⟨obligation, List.mem_filter.mpr ⟨known, ?_⟩, sourced, same⟩
    rw [stands, sourced]
    simpa using standing

/-- The active obligations account for the cash of their sources. -/
theorem Projects.obliged_eq {transactions : List JournalTransaction}
    {obligations active : List SettlementObligation}
    {evidence : Dict String SettlementEvidence} {result : SettlementBook}
    (projects : Projects transactions obligations active evidence result) (currency : String) :
    obligedIn currency (fun _ => true) active =
      selectedSum (cashIn currency) (fun transaction => isBound active currency transaction)
        transactions := by
  rw [projects.activated.sums, selectedSum_eq_sum_ite, selectedSum_eq_sum_ite]
  congr 1
  apply List.map_congr_left
  intro transaction member
  cases bound : isBound active currency transaction with
  | false =>
      rw [isBound] at bound
      rw [bound]
      rfl
  | true =>
      rw [isBound] at bound
      rw [bound]
      rw [decide_eq_true_iff, projects.bound_iff, mem_boundPairs] at bound
      obtain ⟨⟨obligation, known, -, rfl⟩, -⟩ := bound
      exact projects.cashIn_eq_postedTo known member

/-- Trading cash of an active transaction is bound or zero. -/
theorem Projects.trading_bound {transactions : List JournalTransaction}
    {obligations active : List SettlementObligation}
    {evidence : Dict String SettlementEvidence} {result : SettlementBook}
    (projects : Projects transactions obligations active evidence result)
    {transaction : JournalTransaction} (member : transaction ∈ transactions)
    (standing : transaction.transactionId ∉ reversedIds transactions)
    (plain : transaction.reversesTransactionId = none)
    (relevant : settlementRelevant transaction) {currency : String}
    (unbound : isBound active currency transaction = false) :
    cashIn currency transaction = 0 := by
  rw [← cashIn_eq currency (cashCurrencies_nodup transactions obligations)
    fun item posted cash => mem_cashCurrencies_of_cash member posted cash]
  refine selectedSum_eq_zero fun code _ same => ?_
  by_contra nonzero
  have covered := checkTrading_covers (projects.fenced transaction member) standing plain
    relevant nonzero
  obtain ⟨obligation, known, sourced, rfl⟩ := mem_boundPairs.mp covered
  rw [decide_eq_true_iff, obligation.normalized] at same
  subst same
  rw [isBound, decide_eq_false_iff_not] at unbound
  exact unbound covered

/-! ## Settled cash in terms of the journal -/

/-- Cash of the transactions in effect that post to no position and to no FX
clearing and that no obligation in the currency binds. -/
def externalCash (transactions : List JournalTransaction)
    (obligations : List SettlementObligation) (currency : String) : ℚ :=
  selectedSum (cashIn currency) (fun transaction => isEffective transactions transaction &&
    !settlementRelevant transaction && !isBound obligations currency transaction) transactions

/-- The source of the obligation is in effect. -/
def sourceEffective (transactions : List JournalTransaction)
    (obligation : SettlementObligation) : Bool :=
  transactions.any fun transaction =>
    obligation.sourceTransactionId = some transaction.transactionId &&
      isEffective transactions transaction

/-- Amounts of the obligations in the currency that have evidence and a source
in effect. -/
def evidencedCash (transactions : List JournalTransaction)
    (obligations : List SettlementObligation) (evidence : Dict String SettlementEvidence)
    (currency : String) : ℚ :=
  obligedIn currency (fun obligation => obligation.obligationId ∈ evidence.keys &&
    sourceEffective transactions obligation) obligations

/-- Standing reversals are covered like the transactions they bring back: one
in effect that trades cash is bound, and one that is not in effect is not. -/
def ReversalsCovered (transactions : List JournalTransaction)
    (obligations : List SettlementObligation) (currency : String) : Prop :=
  ∀ transaction ∈ transactions, transaction.reversesTransactionId.isSome →
    transaction.transactionId ∉ reversedIds transactions →
      if isEffective transactions transaction then
        settlementRelevant transaction →
          isBound obligations currency transaction ∨ cashIn currency transaction = 0
      else isBound obligations currency transaction = false

/-- An unreversed bound transaction is in effect. -/
theorem ReversalsCovered.effective {book : EconomicBook} {currency : String}
    {obligations : List SettlementObligation}
    (covered : ReversalsCovered book.transactions obligations currency)
    (lineage : book.Lineage) {transaction : JournalTransaction}
    (member : transaction ∈ book.transactions)
    (standing : transaction.transactionId ∉ reversedIds book.transactions)
    (bound : isBound obligations currency transaction = true) :
    isEffective book.transactions transaction = true := by
  cases reverses : transaction.reversesTransactionId with
  | none => exact lineage.effective_of_active member standing reverses
  | some originalId =>
      have condition := covered transaction member (by simp [reverses]) standing
      by_contra outOfEffect
      rw [if_neg outOfEffect, bound] at condition
      cases condition

/-- The cash in effect is bound by active obligations or external. -/
theorem Projects.cash_split {book : EconomicBook} {currency : String}
    {obligations active : List SettlementObligation}
    {evidence : Dict String SettlementEvidence} {result : SettlementBook}
    (projects : Projects book.transactions obligations active evidence result)
    (lineage : book.Lineage)
    (covered : ReversalsCovered book.transactions obligations currency) :
    (book.transactions.map (cashIn currency)).sum =
      externalCash book.transactions obligations currency +
        obligedIn currency (fun _ => true) active := by
  have total : (book.transactions.map (cashIn currency)).sum =
      selectedSum (cashIn currency) (isEffective book.transactions) book.transactions :=
    lineage.posted_eq_effective (isCashIn currency)
  rw [total, projects.obliged_eq, externalCash, selectedSum_eq_sum_ite,
    selectedSum_eq_sum_ite, selectedSum_eq_sum_ite, ← List.sum_map_add]
  congr 1
  apply List.map_congr_left
  intro transaction member
  have boundActive : isBound active currency transaction = true ↔
      isBound obligations currency transaction = true ∧
        transaction.transactionId ∉ reversedIds book.transactions := by
    simpa only [isBound, decide_eq_true_eq] using projects.bound_iff _ _
  cases inEffect : isEffective book.transactions transaction with
  | false =>
      have unbound : isBound active currency transaction = false := by
        rw [← Bool.not_eq_true, boundActive]
        rintro ⟨bound, standing⟩
        rw [covered.effective lineage member standing bound] at inEffect
        cases inEffect
      simp [unbound]
  | true =>
      have standing := EconomicBook.isEffective_standing inEffect
      cases bound : isBound obligations currency transaction with
      | true => simp [boundActive.mpr ⟨bound, standing⟩]
      | false =>
          have unbound : isBound active currency transaction = false := by
            rw [← Bool.not_eq_true, boundActive, bound]
            exact fun both => Bool.false_ne_true both.1
          cases relevant : settlementRelevant transaction with
          | false => simp [unbound]
          | true =>
              have zero : cashIn currency transaction = 0 := by
                cases reverses : transaction.reversesTransactionId with
                | none => exact projects.trading_bound member standing reverses relevant unbound
                | some originalId =>
                    have condition := covered transaction member (by simp [reverses]) standing
                    rw [if_pos inEffect, bound] at condition
                    exact (condition relevant).resolve_left Bool.false_ne_true
              simp [zero]

/-- Evidence counts for the obligations whose source is in effect. -/
theorem Projects.evidenced_eq {book : EconomicBook} {currency : String}
    {obligations active : List SettlementObligation}
    {evidence : Dict String SettlementEvidence} {result : SettlementBook}
    (projects : Projects book.transactions obligations active evidence result)
    (lineage : book.Lineage)
    (covered : ReversalsCovered book.transactions obligations currency) :
    obligedIn currency (fun obligation => obligation.obligationId ∈ evidence.keys) active =
      evidencedCash book.transactions obligations evidence currency := by
  rw [projects.activated.kept, evidencedCash, obligedIn, obligedIn, selectedSum, selectedSum,
    List.filter_filter]
  congr 2
  apply List.filter_congr
  intro obligation member
  by_cases inCurrency : obligation.currency = currency
  · subst inCurrency
    have same : stands (reversedIds book.transactions) obligation =
        sourceEffective book.transactions obligation := by
      obtain ⟨transaction, found, sourced⟩ := projects.activated.sourced obligation member
      rw [Bool.eq_iff_iff, stands, sourced, sourceEffective, List.any_eq_true]
      constructor
      · intro standing
        have bound : isBound obligations obligation.currency transaction = true := by
          rw [isBound, decide_eq_true_iff, mem_boundPairs]
          exact ⟨obligation, member, sourced, rfl⟩
        refine ⟨transaction, found, ?_⟩
        rw [covered.effective lineage found (by simpa using standing) bound]
        simp [sourced]
      · rintro ⟨other, -, both⟩
        simp only [sourced, Option.some.injEq, Bool.and_eq_true, decide_eq_true_eq] at both
        have standing := EconomicBook.isEffective_standing both.2
        simpa [both.1] using standing
    rw [same, decide_eq_true rfl, Bool.true_and, Bool.true_and, Bool.and_comm]
  · simp [inCurrency]

/-! ## Main result -/

/-- Settled cash projected from a reachable journal consists of external cash
and of the evidenced obligations whose source is in effect; economic cash is the
cash the journal posts. -/
theorem settled_cash_eq {book : EconomicBook} {obligations : List SettlementObligation}
    {evidence : Dict String SettlementEvidence} {result : SettlementBook}
    (reachable : book.Reachable)
    (built : SettlementBook.fromEconomicBook book obligations evidence = .ok result) :
    (∀ currency, ReversalsCovered book.transactions obligations currency →
      result.cashOf currency = externalCash book.transactions obligations currency +
        evidencedCash book.transactions obligations evidence currency) ∧
    ∀ code snapshot total, result.snapshot code = .ok snapshot →
      snapshot.economicCash = .ok total →
        total.toRat = (book.transactions.map (cashIn (upper (strip code)))).sum := by
  have lineage := reachable.lineage
  obtain ⟨active, projects⟩ := fromTransactions_projects lineage.distinct built
  constructor
  · intro currency covered
    have cash := projects.cash currency
    rw [projects.cash_split lineage covered, projects.evidenced_eq lineage covered] at cash
    linarith
  · intro code snapshot total taken summed
    have cash := projects.cash (upper (strip code))
    rw [SettlementBook.economicCash_toRat taken summed, SettlementBook.economicValue,
      SettlementBook.unsettledAmount, projects.obligations]
    simp only [Bool.and_true]
    have split := obligedIn_split (upper (strip code))
      (fun obligation => obligation.obligationId ∈ evidence.keys)
      (fun obligation => obligation.obligationId ∉ result.settledIds) active
      fun obligation member => by
        rw [decide_not, decide_eq_decide.mpr (projects.settled obligation member)]
    linarith

instance (transactions : List JournalTransaction) (obligations : List SettlementObligation)
    (currency : String) : Decidable (ReversalsCovered transactions obligations currency) :=
  inferInstanceAs (Decidable (∀ transaction ∈ transactions, _ → _ → _))

end SettledCash

section Sample

attribute [local instance] CaseMap.ascii

/-- A two-posting transaction in dollars. -/
def sampleCash (id account : String) (amount : Int) (reverses : Option String) :
    TransactionInput where
  transactionId := id
  causeEventId := id
  postings := [⟨"CASH:USD", "USD", .int amount⟩, ⟨account, "USD", .int (-amount)⟩]
  reversesTransactionId := reverses
  economicEffectiveAt := none
  economicOrderKey := none
  observedAt := none
  correctsTransactionId := none

/-- A sale of an equity position for dollars. -/
def sampleSale (id : String) (quantity amount : Int) (reverses : Option String) :
    TransactionInput :=
  { sampleCash id "CLEARING:USD" amount reverses with
    postings := [⟨"POSITION:ABC", "ABC", .int (-quantity)⟩,
      ⟨"CLEARING:ABC", "ABC", .int quantity⟩, ⟨"CASH:USD", "USD", .int amount⟩,
      ⟨"CLEARING:USD", "USD", .int (-amount)⟩] }

def sampleRule : SettlementRuleBinding :=
  ⟨"rule", "1", ⟨"alpaca", "account", "PAPER", "PAPER"⟩, "1", "USD", 0, none, ["ref"]⟩

/-- An obligation bound to a transaction of the sample. -/
def sampleBound (source : String) (amount : Int) : Except SettlementError SettlementObligation :=
  SettlementObligation.create source source "usd" (.int amount) 0 1 "PRIMARY" (some source)
    (some sampleRule)

/-- The book and the projection of a batch with its obligations and evidence. -/
def sampleProjection (batch : List TransactionInput) (bound : List (String × Int))
    (settled : List String) :
    Except SettlementError (EconomicBook × List SettlementObligation ×
      Dict String SettlementEvidence × SettlementBook) := do
  let (book, _) ← (EconomicBook.empty.appendBatch batch).mapError fun _ => .valueError ""
  let obligations ← bound.mapM fun entry => sampleBound entry.1 entry.2
  let records ← settled.mapM fun source => SettlementEvidence.create source "ref"
    ⟨2 * 86400000000⟩
  let evidence := Dict.setAll ∅ (records.map fun record => (record.obligationId, record))
  let result ← SettlementBook.fromEconomicBook book obligations evidence
  pure (book, obligations, evidence, result)

theorem sampleProjection_spec {batch : List TransactionInput} {bound : List (String × Int)}
    {settled : List String}
    {outcome : EconomicBook × List SettlementObligation × Dict String SettlementEvidence ×
      SettlementBook}
    (success : sampleProjection batch bound settled = .ok outcome) :
    outcome.1.Reachable ∧ SettlementBook.fromEconomicBook outcome.1 outcome.2.1 outcome.2.2.1 =
      .ok outcome.2.2.2 := by
  simp only [sampleProjection, bind_eq_ok, mapError_eq_ok, pure_eq_ok] at success
  obtain ⟨⟨book, appended⟩, batched, obligations, _, records, _, result, built, rfl⟩ := success
  exact ⟨.appendBatch .empty batched, built⟩

/-- A deposit, a settled sale, an unsettled sale and a reversed sale. -/
def saleProjection : EconomicBook × List SettlementObligation ×
    Dict String SettlementEvidence × SettlementBook :=
  (sampleProjection [sampleCash "deposit" "EXTERNAL:USD" 5000 none,
    sampleSale "settled" 1 100 none, sampleSale "open" 2 200 none,
    sampleSale "busted" 4 400 none, sampleSale "bust" (-4) (-400) (some "busted")]
    [("settled", 100), ("open", 200), ("busted", 400)] ["settled", "busted"]).toOption.get
    (by decide +kernel)

/-- A bound dividend that is reversed. -/
def dividendProjection : EconomicBook × List SettlementObligation ×
    Dict String SettlementEvidence × SettlementBook :=
  (sampleProjection [sampleCash "dividend" "INCOME:USD" 100 none,
    sampleCash "reversal" "INCOME:USD" (-100) (some "dividend")]
    [("dividend", 100)] []).toOption.get (by decide +kernel)

/-- Only the deposit and the evidenced sale are settled. -/
theorem saleProjection_settled :
    ReversalsCovered saleProjection.1.transactions saleProjection.2.1 "USD" ∧
      saleProjection.2.2.2.cashOf "USD" = 5000 + 100 := by
  have covered : ReversalsCovered saleProjection.1.transactions saleProjection.2.1 "USD" := by
    decide +kernel
  have external : externalCash saleProjection.1.transactions saleProjection.2.1 "USD" = 5000 := by
    decide +kernel
  have evidenced : evidencedCash saleProjection.1.transactions saleProjection.2.1
      saleProjection.2.2.1 "USD" = 100 := by
    decide +kernel
  obtain ⟨reachable, built⟩ := sampleProjection_spec (eq_ok_get _)
  have settled := (settled_cash_eq reachable built).1 "USD" covered
  rw [← external, ← evidenced]
  exact ⟨covered, settled⟩

/-- The reversal of a bound dividend is bound to no obligation and trades
nothing, but it does not reduce the settled cash, because the dividend never
counted. -/
theorem dividendProjection_disagrees :
    ¬ ∀ (book : EconomicBook) (obligations : List SettlementObligation)
      (evidence : Dict String SettlementEvidence) (result : SettlementBook)
      (currency : String), book.Reachable →
      SettlementBook.fromEconomicBook book obligations evidence = .ok result →
      upper currency = currency →
      result.cashOf currency =
        selectedSum (postedTo ("CASH:" ++ currency) currency) (fun transaction =>
          !settlementRelevant transaction &&
            transaction.transactionId ∉ (boundPairs obligations).map Prod.fst)
          book.transactions +
        evidencedCash book.transactions obligations evidence currency := by
  intro agreement
  obtain ⟨reachable, built⟩ := sampleProjection_spec (eq_ok_get _)
  have equal := agreement dividendProjection.1 _ _ _ "USD" reachable built (by decide +kernel)
  revert equal
  decide +kernel

end Sample

end AutoTrade.Settlement
