import AutoTrade.Accounting.Agreement
import AutoTrade.Accounting.Integrity
import AutoTrade.Lib.Reorder

/-!
# Replay order of the equity position projection

A corrected or split history is replayed in economic order.  Two books that
hold the same transactions in different append orders therefore project to the
same outcome: every scan of the journal before the sort yields a permutation of
what it yields on the other book, and the sort ends in one list.
-/

namespace AutoTrade.Accounting

open Lib Numeric

/-! ## The history of an instrument -/

/-- The transaction books a split of the instrument. -/
def BooksSplit (symbol : String) (transaction : JournalTransaction) : Prop :=
  ∃ terms, canonicalEquitySplitTerms transaction symbol = .ok (some terms)

/-- The transaction reverses a position event of the instrument. -/
def CorrectsPosition (transactions : List JournalTransaction) (symbol settlement : String)
    (transaction : JournalTransaction) : Prop :=
  ∃ corrected ∈ transactions,
    transaction.reversesTransactionId = some corrected.transactionId ∧
    ∃ terms, positionTerms corrected symbol settlement = .ok (some terms)

/-- The history holds a position correction or a split of the instrument. -/
def CorrectedOrSplit (transactions : List JournalTransaction) (symbol settlement : String) :
    Prop :=
  ∃ transaction ∈ transactions,
    CorrectsPosition transactions symbol settlement transaction ∨ BooksSplit symbol transaction

theorem positionTerms_of_split {transaction : JournalTransaction} {symbol : String}
    (settlement : String) (split : BooksSplit symbol transaction) :
    ∃ delta numerator denominator, positionTerms transaction symbol settlement =
      .ok (some (.split delta numerator denominator)) := by
  obtain ⟨⟨delta, numerator, denominator⟩, found⟩ := split
  refine ⟨delta, numerator, denominator, ?_⟩
  rw [positionTerms, found]
  rfl

/-! ## The split behind a reversal -/

/-- Postings to one account in one asset with opposite amounts. -/
def Opposite (item negated : Posting) : Prop :=
  negated.ledgerAccount = item.ledgerAccount ∧
    negated.assetOrCurrency = item.assetOrCurrency ∧
    negated.signedAmount.toRat = -item.signedAmount.toRat

theorem Negates.opposite {reversal original : JournalTransaction}
    (negates : Negates reversal original) :
    List.Forall₂ Opposite original.postings reversal.postings := by
  apply (mapM_eq_ok.mp negates).imp
  intro item negated success
  simp only [EconomicBook.negatedPosting, Except.map] at success
  split at success
  next => cases success
  next amount found =>
    cases success
    exact ⟨rfl, rfl, exactNegate_eq_ok.mp found⟩

/-- A selection by account and asset keeps opposite postings in step. -/
theorem opposite_filter {items negated : List Posting}
    (pairs : List.Forall₂ Opposite items negated) (select : String → String → Bool) :
    List.Forall₂ Opposite
      (items.filter fun item => select item.ledgerAccount item.assetOrCurrency)
      (negated.filter fun item => select item.ledgerAccount item.assetOrCurrency) := by
  apply List.rel_filter _ pairs
  rintro item other ⟨account, asset, _⟩
  simp only [account, asset]

theorem opposite_singleton {items : List Posting} {negated : Posting}
    (pairs : List.Forall₂ Opposite items [negated]) :
    ∃ item, items = [item] ∧ Opposite item negated := by
  obtain ⟨item, rest, first, tail, rfl⟩ := List.forall₂_cons_right_iff.mp pairs
  rw [List.forall₂_nil_right_iff.mp tail]
  exact ⟨item, rfl, first⟩

/-- Only a split has a reversal of the shape of a split. -/
theorem BooksSplit.undone {symbol : String} {reversal original : JournalTransaction}
    (split : BooksSplit symbol reversal) (negates : Negates reversal original) :
    BooksSplit symbol original := by
  obtain ⟨⟨delta, numerator, denominator⟩, found⟩ := split
  obtain ⟨clearing, position, marked, only, both, nonzero, opposite, ratio, rfl⟩ :=
    splitTerms_eq_some.mp found
  have pairs := negates.opposite
  have markedPairs := opposite_filter pairs fun account asset =>
    ("CORPORATE_ACTION_SPLIT_CLEARING:" ++ symbol ++ ":").toList.isPrefixOf
      account.toList ∧ asset = symbol
  have positionPairs := opposite_filter pairs fun account asset =>
    account = "POSITION:" ++ symbol ∧ asset = symbol
  rw [marked] at markedPairs
  rw [postingsTo] at only
  rw [only] at positionPairs
  obtain ⟨clearing', marked', account, _, cleared⟩ := opposite_singleton markedPairs
  obtain ⟨position', only', _, _, posted⟩ := opposite_singleton positionPairs
  rw [exactNegate_eq_ok] at opposite
  refine ⟨(position'.signedAmount, numerator, denominator), splitTerms_eq_some.mpr
    ⟨clearing', position', marked', only', ?_, ?_, ?_, ?_, rfl⟩⟩
  · rw [pairs.length_eq, both]
  · intro zero
    apply nonzero
    rw [← Decimal.toRat_eq_zero, posted, zero, Decimal.toRat_zero, neg_zero]
  · rw [exactNegate_eq_ok]
    linarith
  · rw [← account]
    exact ratio

/-! ## Scans of a permuted journal -/

section Scans

variable {transactions others : List JournalTransaction}

theorem reversedIds_perm (perm : transactions.Perm others) :
    (reversedIds transactions).Perm (reversedIds others) :=
  perm.filterMap _

theorem isActive_perm (perm : transactions.Perm others) :
    isActive transactions = isActive others := by
  funext transaction
  simp only [isActive, (reversedIds_perm perm).mem_iff]

theorem get?_indexed (distinct : (transactions.map JournalTransaction.transactionId).Nodup)
    (id : String) (transaction : JournalTransaction) :
    (Dict.setAll ∅ (transactions.map fun item => (item.transactionId, item))).get? id =
        some transaction ↔ transaction ∈ transactions ∧ transaction.transactionId = id := by
  rw [← Dict.mem_entries, Dict.entries_setAll_empty, List.mem_map]
  · constructor
    · rintro ⟨item, member, equal⟩
      cases equal
      exact ⟨member, rfl⟩
    · rintro ⟨member, rfl⟩
      exact ⟨transaction, member, rfl⟩
  · rw [List.map_map]
    exact distinct

theorem get?_indexed_perm
    (distinct : (transactions.map JournalTransaction.transactionId).Nodup)
    (perm : transactions.Perm others) (id : String) :
    (Dict.setAll ∅ (transactions.map fun item => (item.transactionId, item))).get? id =
      (Dict.setAll ∅ (others.map fun item => (item.transactionId, item))).get? id := by
  apply Option.ext
  intro transaction
  rw [get?_indexed distinct, get?_indexed ((perm.map _).nodup_iff.mp distinct),
    perm.mem_iff]

/-- Only one transaction can be the replacement, so the replacements of a
permuted journal are judged alike. -/
theorem checkLineage_perm {byId byId' : Dict String JournalTransaction} {symbol : String}
    (perm : transactions.Perm others) (lookup : ∀ id, byId.get? id = byId'.get? id)
    (reversal : JournalTransaction) (correctedId : String) (terms : PositionTerms) :
    checkLineage transactions byId symbol reversal correctedId terms =
      checkLineage others byId' symbol reversal correctedId terms := by
  have found := perm.filter fun item => item.correctsTransactionId = some correctedId
  rw [checkLineage, checkLineage, lookup correctedId]
  generalize transactions.filter (fun item => item.correctsTransactionId = some correctedId) =
    replacements at found
  generalize others.filter (fun item => item.correctsTransactionId = some correctedId) =
    replacements' at found
  match replacements with
  | [] =>
      rw [List.nil_perm.mp found]
  | [replacement] =>
      rw [List.singleton_perm.mp found]
  | first :: second :: rest =>
      have longer := found.length_eq
      match replacements' with
      | [] => cases longer
      | [replacement] => cases longer
      | first' :: second' :: rest' => rfl

theorem positionCorrections_perm {symbol settlement : String}
    (distinct : (transactions.map JournalTransaction.transactionId).Nodup)
    (perm : transactions.Perm others) :
    Agree List.Perm (positionCorrections transactions symbol settlement)
      (positionCorrections others symbol settlement) := by
  have lookup := get?_indexed_perm distinct perm
  rw [positionCorrections, positionCorrections]
  generalize Dict.setAll ∅ (transactions.map fun item => (item.transactionId, item)) = byId
    at lookup
  generalize Dict.setAll ∅ (others.map fun item => (item.transactionId, item)) = byId'
    at lookup
  have scan : positionCorrection byId symbol settlement =
      positionCorrection byId' symbol settlement := by
    funext transaction
    simp only [positionCorrection, correctedTerms, lookup]
  have check : (fun correction : PositionCorrection =>
        checkLineage transactions byId symbol correction.reversal correction.correctedId
          correction.terms) =
      fun correction => checkLineage others byId' symbol correction.reversal
        correction.correctedId correction.terms := by
    funext correction
    exact checkLineage_perm perm lookup _ _ _
  rw [scan, check]
  apply Agree.bind (Agree.mapM_perm perm _)
  intro found found' _ _ related
  apply Agree.bind (Agree.forM_perm (related.filterMap id) _)
  intro _ _ _ _ _
  exact related.filterMap id

theorem positionEvents_perm {symbol settlement : String} (perm : transactions.Perm others) :
    Agree List.Perm (positionEvents transactions symbol settlement)
      (positionEvents others symbol settlement) := by
  rw [positionEvents, positionEvents, isActive_perm perm]
  apply Agree.bind (Agree.mapM_perm (perm.filter _) _)
  intro events events' _ _ related
  exact related.filterMap id

end Scans

/-! ## The economic order -/

/-- The ordering check passes exactly when every event has its key and no two
events share one. -/
theorem checkOrder_returns {events : List PositionEvent} {seen : List (Instant × String)} :
    (∃ result, events.foldlM checkOrder seen = .ok result) ↔
      ∃ keys, events.mapM orderKey = .ok keys ∧ keys.Nodup ∧ ∀ key ∈ keys, key ∉ seen := by
  induction events generalizing seen with
  | nil =>
      constructor
      · intro _
        exact ⟨[], rfl, List.nodup_nil, fun key member => absurd member List.not_mem_nil⟩
      · intro _
        exact ⟨seen, rfl⟩
  | cons event rest ih =>
      rw [List.foldlM_cons, List.mapM_cons, checkOrder]
      cases orderKey event with
      | error error => simp
      | ok key =>
          simp only [ok_bind]
          by_cases known : key ∈ seen
          · simp only [if_pos known, error_bind]
            constructor
            · rintro ⟨_, ⟨⟩⟩
            · rintro ⟨keys, found, _, unseen⟩
              simp only [bind_eq_ok, pure_eq_ok] at found
              obtain ⟨others, _, rfl⟩ := found
              exact absurd known (unseen key List.mem_cons_self)
          · simp only [if_neg known, pure_bind, ih, bind_eq_ok, pure_eq_ok]
            constructor
            · rintro ⟨keys, found, distinct, unseen⟩
              refine ⟨key :: keys, ⟨keys, found, rfl⟩, ?_, ?_⟩
              · rw [List.nodup_cons]
                exact ⟨fun member => unseen key member List.mem_cons_self, distinct⟩
              · intro other member
                rcases List.mem_cons.mp member with rfl | member
                · exact known
                · exact fun old => unseen other member (List.mem_cons_of_mem key old)
            · rintro ⟨_, ⟨keys, found, rfl⟩, distinct, unseen⟩
              rw [List.nodup_cons] at distinct
              refine ⟨keys, found, distinct.2, ?_⟩
              intro other member old
              rcases List.mem_cons.mp old with rfl | old
              · exact distinct.1 member
              · exact unseen other (List.mem_cons_of_mem key member) old

theorem checkOrder_perm {events others : List PositionEvent} (perm : events.Perm others) :
    Agree (fun _ _ => True) (events.foldlM checkOrder []) (others.foldlM checkOrder []) := by
  apply Agree.of_iff
  rw [checkOrder_returns, checkOrder_returns]
  have related := Agree.mapM_perm perm orderKey
  cases left : events.mapM orderKey with
  | error error =>
      cases right : others.mapM orderKey with
      | error other => simp
      | ok keys' =>
          rw [left, right] at related
          exact related.elim
  | ok keys =>
      cases right : others.mapM orderKey with
      | error other =>
          rw [left, right] at related
          exact related.elim
      | ok keys' =>
          rw [left, right, Agree.ok_ok] at related
          simp [related.nodup_iff]

/-- Sorting by a key that tells the events apart forgets their order. -/
theorem insertionSort_perm {events others : List PositionEvent} (perm : events.Perm others)
    (distinct : ∀ left ∈ events, ∀ right ∈ events,
      left.transaction.transactionId = right.transaction.transactionId → left = right) :
    events.insertionSort (fun left right => sortKey left ≤ sortKey right) =
      others.insertionSort (fun left right => sortKey left ≤ sortKey right) := by
  have total : Std.Total fun left right : PositionEvent => sortKey left ≤ sortKey right :=
    ⟨fun left right => le_total (sortKey left) (sortKey right)⟩
  have transitive : IsTrans PositionEvent fun left right => sortKey left ≤ sortKey right :=
    ⟨fun _ _ _ first second => le_trans first second⟩
  apply List.Perm.eq_of_pairwise
  · intro left right memberLeft memberRight below above
    rw [List.mem_insertionSort] at memberLeft memberRight
    apply distinct left memberLeft right (perm.mem_iff.mpr memberRight)
    have equal : sortKey left = sortKey right := le_antisymm below above
    simp only [sortKey, EmbeddingLike.apply_eq_iff_eq, Prod.mk.injEq] at equal
    exact equal.2.2
  · exact List.pairwise_insertionSort _ events
  · exact List.pairwise_insertionSort _ others
  · exact (List.perm_insertionSort _ events).trans
      (perm.trans (List.perm_insertionSort _ others).symm)

theorem any_isSplit_perm {events others : List PositionEvent} (perm : events.Perm others) :
    events.any PositionEvent.isSplit = others.any PositionEvent.isSplit := by
  rw [Bool.eq_iff_iff, List.any_eq_true, List.any_eq_true]
  simp only [perm.mem_iff]

/-- A reordered history is ordered alike from any append order. -/
theorem orderEvents_agree {corrected : Bool} {events others : List PositionEvent}
    (perm : events.Perm others)
    (reorders : (corrected || events.any PositionEvent.isSplit) = true)
    (distinct : ∀ left ∈ events, ∀ right ∈ events,
      left.transaction.transactionId = right.transaction.transactionId → left = right) :
    Agree Eq (orderEvents corrected events) (orderEvents corrected others) := by
  have clash : ((events.filter fun event => event.isSplit = true).map fun event =>
        event.transaction.economicEffectiveAt).any
          (fun moment => moment ∈ (events.filter fun event => event.isSplit = false).map
            fun event => event.transaction.economicEffectiveAt) =
      ((others.filter fun event => event.isSplit = true).map fun event =>
        event.transaction.economicEffectiveAt).any
          (fun moment => moment ∈ (others.filter fun event => event.isSplit = false).map
            fun event => event.transaction.economicEffectiveAt) := by
    rw [Bool.eq_iff_iff, List.any_eq_true, List.any_eq_true]
    simp only [((perm.filter _).map _).mem_iff]
  rw [orderEvents, orderEvents, ← any_isSplit_perm perm, if_pos reorders, if_pos reorders]
  apply Agree.bind (checkOrder_perm perm)
  intro _ _ _ _ _
  simp only [clash, insertionSort_perm perm distinct]
  exact Agree.same _

/-! ## What the journal gives the scans -/

theorem mem_positionEvents {transactions : List JournalTransaction}
    {symbol settlement : String} {events : List PositionEvent}
    (success : positionEvents transactions symbol settlement = .ok events)
    {event : PositionEvent} :
    event ∈ events ↔ event.transaction ∈ transactions ∧
      isActive transactions event.transaction = true ∧
      positionTerms event.transaction symbol settlement = .ok (some event.terms) := by
  rw [positionEvents, bind_eq_ok] at success
  obtain ⟨found, scanned, success⟩ := success
  cases success
  simp only [List.mem_filterMap, id_eq, exists_eq_right, mem_mapM scanned, List.mem_filter,
    positionEvent]
  constructor
  · rintro ⟨transaction, ⟨member, active⟩, parsed⟩
    cases terms : positionTerms transaction symbol settlement with
    | error error =>
        rw [terms] at parsed
        cases parsed
    | ok result =>
        rw [terms] at parsed
        cases result with
        | none => cases parsed
        | some result =>
            cases parsed
            exact ⟨member, active, terms⟩
  · rintro ⟨member, active, parsed⟩
    refine ⟨event.transaction, ⟨member, active⟩, ?_⟩
    rw [parsed]
    rfl

/-- The transaction id tells the events apart. -/
theorem positionEvents_distinct {transactions : List JournalTransaction}
    {symbol settlement : String} {events : List PositionEvent}
    (distinct : (transactions.map JournalTransaction.transactionId).Nodup)
    (success : positionEvents transactions symbol settlement = .ok events) :
    ∀ left ∈ events, ∀ right ∈ events,
      left.transaction.transactionId = right.transaction.transactionId → left = right := by
  rintro ⟨transaction, terms⟩ memberLeft ⟨transaction', terms'⟩ memberRight sameId
  obtain ⟨known, _, parsed⟩ := (mem_positionEvents success).mp memberLeft
  obtain ⟨known', _, parsed'⟩ := (mem_positionEvents success).mp memberRight
  have same : transaction = transaction' := List.inj_on_of_nodup_map distinct known known' sameId
  subst same
  have equal := parsed.symm.trans parsed'
  cases equal
  rfl

namespace EconomicBook

section History

variable {book : EconomicBook} {symbol settlement : String}

/-- The reversal of a position event is among the corrections. -/
theorem Lineage.corrected (lineage : book.Lineage) {transaction : JournalTransaction}
    (member : transaction ∈ book.transactions)
    (corrects : CorrectsPosition book.transactions symbol settlement transaction)
    {corrections : List PositionCorrection}
    (success : positionCorrections book.transactions symbol settlement = .ok corrections) :
    corrections ≠ [] := by
  obtain ⟨original, known, reverses, terms, parsed⟩ := corrects
  simp only [positionCorrections, bind_eq_ok, pure_eq_ok] at success
  obtain ⟨found, scanned, _, _, rfl⟩ := success
  have lookup := (get?_indexed lineage.distinct _ _).mpr ⟨known, rfl⟩
  have entry : some ⟨transaction, original.transactionId, terms⟩ ∈ found := by
    apply (mem_mapM scanned).mpr
    refine ⟨transaction, member, ?_⟩
    simp only [positionCorrection, reverses, correctedTerms, lookup, parsed]
    rfl
  exact List.ne_nil_of_mem (List.mem_filterMap.mpr ⟨_, entry, rfl⟩)

/-- A split is active, or it is reversed, or it reverses a split. -/
theorem Lineage.split_shows (settlement : String) (lineage : book.Lineage)
    {transaction : JournalTransaction}
    (member : transaction ∈ book.transactions) (split : BooksSplit symbol transaction) :
    isActive book.transactions transaction = true ∨
      ∃ reversal ∈ book.transactions,
        CorrectsPosition book.transactions symbol settlement reversal := by
  cases reverses : transaction.reversesTransactionId with
  | some originalId =>
      right
      obtain ⟨original, known, rfl, negates⟩ :=
        lineage.reversible.undone (List.mem_reverse.mpr member) reverses
      obtain ⟨_, _, _, parsed⟩ := positionTerms_of_split settlement (split.undone negates)
      exact ⟨transaction, member, original, List.mem_reverse.mp known, reverses, _, parsed⟩
  | none =>
      by_cases reversed : transaction.transactionId ∈ reversedIds book.transactions
      · right
        obtain ⟨reversal, known, undoes⟩ := List.mem_filterMap.mp reversed
        obtain ⟨_, _, _, parsed⟩ := positionTerms_of_split settlement split
        exact ⟨reversal, known, transaction, member, undoes, _, parsed⟩
      · left
        simp [isActive, reversed, reverses]

/-- A correction or a split makes the projection reorder the events. -/
theorem Lineage.reorders (lineage : book.Lineage)
    (history : CorrectedOrSplit book.transactions symbol settlement)
    {corrections : List PositionCorrection} {events : List PositionEvent}
    (corrected : positionCorrections book.transactions symbol settlement = .ok corrections)
    (active : positionEvents book.transactions symbol settlement = .ok events) :
    (decide (corrections ≠ []) || events.any PositionEvent.isSplit) = true := by
  rw [Bool.or_eq_true, decide_eq_true_iff, List.any_eq_true]
  obtain ⟨transaction, member, corrects | split⟩ := history
  · exact .inl (lineage.corrected member corrects corrected)
  · rcases lineage.split_shows settlement member split with
      standing | ⟨reversal, known, corrects⟩
    · obtain ⟨_, _, _, parsed⟩ := positionTerms_of_split settlement split
      exact .inr ⟨⟨transaction, _⟩,
        (mem_positionEvents active).mpr ⟨member, standing, parsed⟩, rfl⟩
    · exact .inl (lineage.corrected known corrects corrected)

end History

/-! ## Main result -/

/-- The outcome of the projection of a corrected or split history does not
depend on the append order: from two books with the same transactions both
projections raise, or both return the same projection. -/
theorem projection_order_independent (calls others : List JournalCall)
    (same : ∀ transaction, transaction ∈ (run calls).transactions ↔
      transaction ∈ (run others).transactions)
    (instrument settlementCurrency : String) (markPrice : Option DecimalInput)
    (history : CorrectedOrSplit (run calls).transactions (strip instrument)
      (strip settlementCurrency)) :
    (projectEquityPosition (run calls) instrument settlementCurrency markPrice).toOption =
      (projectEquityPosition (run others) instrument settlementCurrency markPrice).toOption := by
  have lineage := (run_sound calls).toLineage
  have distinct := lineage.distinct
  have perm : (run calls).transactions.Perm (run others).transactions :=
    (List.perm_ext_iff_of_nodup distinct.of_map (run_sound others).toLineage.distinct.of_map).mpr
      same
  apply Agree.toOption_eq
  rw [projectEquityPosition, projectEquityPosition]
  apply Agree.bind (Agree.same _)
  rintro symbol _ named _ rfl
  rw [name, guard_eq_ok, Except.ok.injEq] at named
  obtain ⟨_, rfl⟩ := named
  apply Agree.bind (Agree.same _)
  rintro settlement _ named _ rfl
  rw [name, guard_eq_ok, Except.ok.injEq] at named
  obtain ⟨_, rfl⟩ := named
  apply Agree.bind (Agree.same _)
  rintro mark _ _ _ rfl
  apply Agree.bind (positionCorrections_perm distinct perm)
  intro corrections corrections' corrected _ related
  apply Agree.bind (positionEvents_perm perm)
  intro events events' active _ permuted
  have flag : corrections' ≠ [] ↔ corrections ≠ [] := by
    rw [← List.length_pos_iff, ← List.length_pos_iff, related.length_eq]
  simp only [flag, ← any_isSplit_perm permuted]
  apply Agree.bind (orderEvents_agree permuted (lineage.reorders history corrected active)
    (positionEvents_distinct distinct active))
  rintro ordered _ _ _ rfl
  exact Agree.same _

section Sample

/-- A corrected fill followed by another fill of the instrument. -/
def fillLast : List JournalCall :=
  [.appendBatch correctedFill, .append (sampleFill "other" 2 (-300) none "j" 0 none)]

/-- The same transactions with the other fill first. -/
def fillFirst : List JournalCall :=
  [.append (sampleFill "other" 2 (-300) none "j" 0 none), .appendBatch correctedFill]

theorem fillLast_corrected :
    CorrectedOrSplit (run fillLast).transactions (strip "ABC") (strip "USD") := by
  have stored : ((run fillLast).transactions[1]?.bind fun reversal =>
      (run fillLast).transactions[0]?.bind fun original =>
        if reversal.reversesTransactionId = some original.transactionId then
          (positionTerms original (strip "ABC") (strip "USD")).toOption.join
        else none) ≠ none := by decide +kernel
  obtain ⟨terms, found⟩ := Option.ne_none_iff_exists'.mp stored
  simp only [Option.bind_eq_some_iff] at found
  obtain ⟨reversal, member, original, known, found⟩ := found
  split at found
  next reverses =>
    refine ⟨reversal, List.mem_of_getElem? member, .inl ⟨original,
      List.mem_of_getElem? known, reverses, terms, ?_⟩⟩
    cases parsed : positionTerms original (strip "ABC") (strip "USD") with
    | error error =>
        rw [parsed] at found
        cases found
    | ok result =>
        rw [parsed] at found
        exact congrArg Except.ok found
  next => cases found

theorem fillLast_fillFirst :
    (projectEquityPosition (run fillLast) "ABC" "USD" none).toOption =
      (projectEquityPosition (run fillFirst) "ABC" "USD" none).toOption := by
  have perm : (run fillLast).transactions.Perm (run fillFirst).transactions := by
    decide +kernel
  exact projection_order_independent fillLast fillFirst (fun _ => perm.mem_iff) "ABC" "USD"
    none fillLast_corrected

end Sample

end EconomicBook

end AutoTrade.Accounting
