import AutoTrade.Accounting.Lineage

/-!
# Integrity of the economic journal

What holds of every book that `append` and `append_batch` reach, with calls that
raise among them: each asset balances over all accounts, identities are used
once, reversals and replacements are unique and refer back, and the four
indexes describe the transaction list.  A batch is appended as a whole or not at
all, because the candidate book it is tried on is the live book rebuilt.
-/

namespace AutoTrade.Accounting

open Lib Numeric

/-! ## Balanced transactions -/

/-- The amounts of an asset, in order. -/
theorem getD_amountsByAsset (postings : List Posting) (asset : String) :
    ((amountsByAsset postings).get? asset).getD [] =
      (postings.filter fun item => item.assetOrCurrency = asset).map Posting.signedAmount := by
  have general : ∀ start : Dict String (List Decimal),
      ((postings.foldl (fun totals item => totals.set item.assetOrCurrency
        ((totals.get? item.assetOrCurrency).getD [] ++ [item.signedAmount])) start).get?
          asset).getD [] =
        (start.get? asset).getD [] ++
          (postings.filter fun item => item.assetOrCurrency = asset).map
            Posting.signedAmount := by
    induction postings with
    | nil => simp
    | cons item rest ih =>
        intro start
        rw [List.foldl_cons, ih, Dict.get?_set]
        by_cases same : item.assetOrCurrency = asset
        · rw [List.filter_cons_of_pos (by simp [same])]
          simp [same]
        · rw [List.filter_cons_of_neg (by simp [same])]
          simp [same]
  rw [amountsByAsset, general]
  simp

/-- The balance check of `validate_transaction`. -/
theorem validateTransaction_totals {transaction : JournalTransaction}
    (valid : validateTransaction transaction = .ok ()) :
    ∃ totals : Dict String Decimal,
      ((amountsByAsset transaction.postings).traverse fun _ amounts =>
        exactTotal amounts false) = .ok totals ∧
      totals.entries.filter (fun entry => entry.2 ≠ 0) = [] := by
  unfold validateTransaction at valid
  -- the statements of the check, the last one first
  extract_lets balance counted evidenced exclusive corrections observed at valid
  have afterOrder : observed () = .ok () := (throw_unless_eq_ok.mp valid).2
  have afterObserved : corrections () = .ok () := by
    simp only [observed] at afterOrder
    split at afterOrder
    · exact (throw_unless_eq_ok.mp afterOrder).2
    · exact afterOrder
  have afterCorrections : counted () = .ok () := by
    simp only [corrections] at afterObserved
    split at afterObserved
    · exact afterObserved
    · have afterSelf : exclusive () = .ok () := (throw_unless_eq_ok.mp afterObserved).2
      have afterExclusive : evidenced () = .ok () := (throw_unless_eq_ok.mp afterSelf).2
      exact (throw_unless_eq_ok.mp afterExclusive).2
  have balanced : balance () = .ok () := (throw_unless_eq_ok.mp afterCorrections).2
  simp only [balance, bind_eq_ok] at balanced
  obtain ⟨totals, traversed, rest⟩ := balanced
  refine ⟨totals, traversed, ?_⟩
  split at rest
  · cases rest
  next empty => exact not_not.mp empty

/-- A valid transaction posts nothing to an asset as a whole. -/
theorem validateTransaction_balanced {transaction : JournalTransaction}
    (valid : validateTransaction transaction = .ok ()) (asset : String) :
    postedSum (fun _ unit => unit = asset) transaction = 0 := by
  obtain ⟨totals, traversed, balanced⟩ := validateTransaction_totals valid
  have amounts := getD_amountsByAsset transaction.postings asset
  have sum : postedSum (fun _ unit => unit = asset) transaction =
      (((amountsByAsset transaction.postings).get? asset).getD [] |>.map Decimal.toRat).sum := by
    rw [amounts, postedSum, List.map_map]
    rfl
  rw [sum]
  cases found : (amountsByAsset transaction.postings).get? asset with
  | none => simp
  | some values =>
      have known : asset ∈ totals.keys := by
        rw [Dict.keys_traverse traversed]
        exact Dict.mem_keys.mpr ⟨values, found⟩
      obtain ⟨total, totalFound⟩ := Dict.mem_keys.mp known
      obtain ⟨stored, storedFound, added⟩ := Dict.get?_traverse traversed totalFound
      rw [found] at storedFound
      cases storedFound
      rw [List.filter_eq_nil_iff] at balanced
      have zero := balanced (asset, total) (Dict.mem_entries.mpr totalFound)
      simp only [ne_eq, decide_not, Bool.not_eq_true', decide_eq_false_iff_not, not_not] at zero
      rw [Option.getD_some, ← exactTotal_toRat added, zero, Decimal.toRat_zero]

/-! ## Stored transactions as arguments -/

/-- A stored posting, passed by a caller. -/
def Posting.toInput (item : Posting) : PostingInput where
  ledgerAccount := item.ledgerAccount
  assetOrCurrency := item.assetOrCurrency
  signedAmount := .bounded item.signedAmount

/-- A stored transaction, passed by a caller. -/
def JournalTransaction.toInput (transaction : JournalTransaction) : TransactionInput where
  transactionId := transaction.transactionId
  causeEventId := transaction.causeEventId
  postings := transaction.postings.map Posting.toInput
  reversesTransactionId := transaction.reversesTransactionId
  economicEffectiveAt := transaction.economicEffectiveAt.map .at
  economicOrderKey := transaction.economicOrderKey
  observedAt := transaction.observedAt.map .at
  correctsTransactionId := transaction.correctsTransactionId

theorem name_again {value field normal : String} (success : name value field = .ok normal) :
    name normal field = .ok normal := by
  rw [name, guard_eq_ok, Except.ok.injEq] at success
  obtain ⟨nonempty, rfl⟩ := success
  rw [name, strip_strip, if_neg nonempty]

theorem optionalName_again {value normal : Option String} {field : String}
    (success : optionalName value field = .ok normal) :
    optionalName normal field = .ok normal := by
  cases value with
  | none =>
      cases success
      rfl
  | some value =>
      simp only [optionalName] at success
      cases named : name value field with
      | error error =>
          rw [named] at success
          cases success
      | ok text =>
          rw [named] at success
          cases success
          simp only [optionalName, name_again named, Except.map]

theorem instant_again (moment : Option Instant) (field : String) :
    instant (moment.map .at) field = .ok moment := by
  cases moment <;> rfl

theorem posting_again (item : Posting) :
    posting item.toInput.ledgerAccount item.toInput.assetOrCurrency
      item.toInput.signedAmount = .ok item := by
  obtain ⟨account, asset, amount, accountNormal, assetNormal⟩ := item
  have accountPresent : strip account ≠ "" := accountNormal.1.symm ▸ accountNormal.2
  have assetPresent : strip asset ≠ "" := assetNormal.1.symm ▸ assetNormal.2
  simp only [posting, Posting.toInput, dif_neg accountPresent, dif_neg assetPresent, decimal_bounded,
    ok_bind, pure_eq_ok, Posting.mk.injEq]
  exact ⟨accountNormal.1, assetNormal.1, trivial⟩

/-- Normalizing what a normalized transaction stores gives it back. -/
theorem normalizedTransaction_again {input : TransactionInput}
    {transaction : JournalTransaction}
    (success : normalizedTransaction input = .ok transaction) :
    normalizedTransaction transaction.toInput = .ok transaction := by
  simp only [normalizedTransaction, bind_eq_ok, pure_eq_ok] at success ⊢
  obtain ⟨id, idName, cause, causeName, postings, _, reverses, reversesName, effective, _, order,
    orderName, observed, _, corrects, correctsName, rfl⟩ := success
  refine ⟨id, name_again idName, cause, name_again causeName, postings, ?_, reverses,
    optionalName_again reversesName, effective, instant_again _ _, order,
    optionalName_again orderName, observed, instant_again _ _, corrects,
    optionalName_again correctsName, rfl⟩
  rw [mapM_eq_ok, JournalTransaction.toInput, List.forall₂_map_left_iff, List.forall₂_same]
  intro item _
  exact posting_again item

namespace EconomicBook

/-! ## The invariant -/

/-- A replacement refers back: the corrected transaction and its reversal are
both earlier, and the replacement keeps the economic ordering. -/
def Replaces (earlier : List JournalTransaction) (replacement : JournalTransaction)
    (correctedId : String) : Prop :=
  (∃ corrected ∈ earlier, corrected.transactionId = correctedId ∧
    corrected.economicEffectiveAt = replacement.economicEffectiveAt ∧
    corrected.economicOrderKey = replacement.economicOrderKey) ∧
  ∃ reversal ∈ earlier, reversal.reversesTransactionId = some correctedId

/-- What every reachable book satisfies beside its lineage. -/
structure Sound (book : EconomicBook) : Prop extends Lineage book where
  valid : ∀ transaction ∈ book.transactions, validateTransaction transaction = .ok ()
  normal : ∀ transaction ∈ book.transactions,
    normalizedTransaction transaction.toInput = .ok transaction
  caused : ∀ cause transaction, book.byCauseEventId.get? cause = some transaction ↔
    transaction ∈ book.transactions ∧ transaction.causeEventId = cause
  causes : (book.transactions.map JournalTransaction.causeEventId).Nodup
  replacement : ∀ correctedId id, book.replacementByCorrectedId.get? correctedId = some id ↔
    ∃ transaction ∈ book.transactions, transaction.correctsTransactionId = some correctedId ∧
      transaction.transactionId = id
  replaced : (book.transactions.filterMap JournalTransaction.correctsTransactionId).Nodup
  replaces : ∀ earlier transaction later correctedId,
    book.transactions = earlier ++ transaction :: later →
      transaction.correctsTransactionId = some correctedId →
        Replaces earlier transaction correctedId
  rebuilt : rebuild book.transactions = .ok book

theorem empty_sound : Sound empty where
  toLineage := empty_lineage
  valid := by simp [empty]
  normal := by simp [empty]
  caused := by simp [empty]
  causes := by simp [empty]
  replacement := by simp [empty]
  replaced := by simp [empty]
  replaces := by simp [empty]
  rebuilt := rfl

theorem checkCorrection_eq_ok {book : EconomicBook} {transaction : JournalTransaction}
    {correctedId : String} (success : book.checkCorrection transaction correctedId = .ok ()) :
    ∃ corrected reversal, book.byId.get? correctedId = some corrected ∧
      (book.replacementByCorrectedId.get? correctedId = none ∨
        book.replacementByCorrectedId.get? correctedId = some transaction.transactionId) ∧
      corrected.economicEffectiveAt = transaction.economicEffectiveAt ∧
      corrected.economicOrderKey = transaction.economicOrderKey ∧
      reversal ∈ book.transactions ∧ reversal.reversesTransactionId = some correctedId := by
  rw [checkCorrection] at success
  split at success
  · cases success
  next corrected found =>
    simp only [guard_eq_ok, not_and_or, not_or, not_not] at success
    obtain ⟨-, single, ⟨sameInstant, sameKey⟩, rest⟩ := success
    split at rest
    · cases rest
    next reversal reversalFound =>
      refine ⟨corrected, reversal, found, single, sameInstant, sameKey, ?_, ?_⟩
      · exact List.mem_of_find?_eq_some reversalFound
      · simpa using List.find?_some reversalFound

/-- Splits of a list with one more entry. -/
theorem split_append_singleton {α : Type} {items earlier later : List α} {last entry : α}
    (split : items ++ [last] = earlier ++ entry :: later) :
    (earlier = items ∧ entry = last ∧ later = []) ∨
      ∃ rest, later = rest ++ [last] ∧ items = earlier ++ entry :: rest := by
  rcases List.eq_nil_or_concat later with rfl | ⟨rest, final, rfl⟩
  · obtain ⟨same, tail⟩ := List.append_inj' split rfl
    cases tail
    exact .inl ⟨same.symm, rfl, rfl⟩
  · rw [List.concat_eq_append, ← List.cons_append, ← List.append_assoc] at split
    obtain ⟨same, tail⟩ := List.append_inj' split rfl
    cases tail
    exact .inr ⟨rest, List.concat_eq_append .., same⟩

theorem appendNormal_of_accepts {book : EconomicBook} {transaction : JournalTransaction}
    (accepts : book.Accepts transaction) :
    book.appendNormal transaction = .ok (book.insert transaction, true) := by
  have reversal : transaction.reversesTransactionId.forM (book.checkReversal transaction) =
      .ok () := by
    cases reverses : transaction.reversesTransactionId with
    | none => rfl
    | some originalId => exact accepts.reversal originalId reverses
  have correction : transaction.correctsTransactionId.forM (book.checkCorrection transaction) =
      .ok () := by
    cases corrects : transaction.correctsTransactionId with
    | none => rfl
    | some correctedId => exact accepts.correction correctedId corrects
  simp only [appendNormal, accepts.valid, accepts.fresh, accepts.uncaused, reversal, correction,
    ok_bind]
  rfl

/-- A transaction that may be corrected has no replacement yet. -/
theorem Sound.unreplaced {book : EconomicBook} {transaction : JournalTransaction}
    {correctedId : String} (sound : book.Sound) (accepts : book.Accepts transaction)
    (corrects : transaction.correctsTransactionId = some correctedId) :
    book.replacementByCorrectedId.get? correctedId = none := by
  obtain ⟨-, -, -, single, -⟩ :=
    checkCorrection_eq_ok (accepts.correction correctedId corrects)
  rcases single with none_ | same
  · exact none_
  · obtain ⟨other, member, -, named⟩ := (sound.replacement _ _).mp same
    have known := (sound.byId _ _).mpr ⟨member, named⟩
    rw [accepts.fresh] at known
    cases known

theorem Sound.insert {book : EconomicBook} {transaction : JournalTransaction}
    (sound : book.Sound) (accepts : book.Accepts transaction)
    (normal : normalizedTransaction transaction.toInput = .ok transaction) :
    (book.insert transaction).Sound where
  toLineage := sound.toLineage.insert accepts
  valid := by
    intro other member
    rcases List.mem_append.mp member with old | new
    · exact sound.valid other old
    · rw [List.mem_singleton.mp new]
      exact accepts.valid
  normal := by
    intro other member
    rcases List.mem_append.mp member with old | new
    · exact sound.normal other old
    · rw [List.mem_singleton.mp new]
      exact normal
  caused := Dict.Indexes.append sound.caused accepts.uncaused
  causes := Dict.Indexes.nodup_append sound.caused sound.causes accepts.uncaused
  replacement := by
    intro correctedId id
    simp only [EconomicBook.insert, List.mem_append, List.mem_singleton]
    cases corrects : transaction.correctsTransactionId with
    | none =>
        rw [sound.replacement]
        constructor
        · rintro ⟨other, member, rest⟩
          exact ⟨other, .inl member, rest⟩
        · rintro ⟨other, member | rfl, rest⟩
          · exact ⟨other, member, rest⟩
          · rw [corrects] at rest
            cases rest.1
    | some replacedId =>
        have unreplaced := sound.unreplaced accepts corrects
        simp only [Dict.get?_set]
        split
        next same =>
          subst same
          rw [Option.some.injEq]
          constructor
          · rintro rfl
            exact ⟨transaction, .inr rfl, corrects, rfl⟩
          · rintro ⟨other, member | rfl, corrected, named⟩
            · rw [(sound.replacement replacedId id).mpr ⟨other, member, corrected, named⟩]
                at unreplaced
              cases unreplaced
            · exact named
        next different =>
          rw [sound.replacement]
          constructor
          · rintro ⟨other, member, rest⟩
            exact ⟨other, .inl member, rest⟩
          · rintro ⟨other, member | rfl, corrected, named⟩
            · exact ⟨other, member, corrected, named⟩
            · rw [corrects, Option.some.injEq] at corrected
              exact absurd corrected different
  replaced := by
    simp only [EconomicBook.insert, List.filterMap_append]
    cases corrects : transaction.correctsTransactionId with
    | none =>
        rw [List.filterMap_cons_none corrects, List.filterMap_nil, List.append_nil]
        exact sound.replaced
    | some replacedId =>
        have unreplaced := sound.unreplaced accepts corrects
        rw [List.filterMap_cons_some corrects, List.filterMap_nil, List.nodup_append']
        refine ⟨sound.replaced, List.nodup_singleton _, ?_⟩
        rw [List.disjoint_singleton, List.mem_filterMap]
        rintro ⟨other, member, corrected⟩
        rw [(sound.replacement replacedId _).mpr ⟨other, member, corrected, rfl⟩] at unreplaced
        cases unreplaced
  replaces := by
    intro earlier other later correctedId split corrects
    rcases split_append_singleton split with ⟨rfl, rfl, -⟩ | ⟨rest, -, before⟩
    · obtain ⟨corrected, reversal, found, -, sameInstant, sameKey, member, reverses⟩ :=
        checkCorrection_eq_ok (accepts.correction correctedId corrects)
      obtain ⟨known, same⟩ := (sound.byId correctedId corrected).mp found
      exact ⟨⟨corrected, known, same, sameInstant, sameKey⟩, reversal, member, reverses⟩
    · exact sound.replaces earlier other rest correctedId before corrects
  rebuilt := by
    have before := sound.rebuilt
    rw [rebuild] at before ⊢
    simp only [EconomicBook.insert, List.foldlM_append, before, ok_bind, List.foldlM_cons,
      List.foldlM_nil, appendNormal_of_accepts accepts]
    rfl

/-! ## Calls -/

/-- Re-appending a stored transaction returns `False` and changes nothing. -/
theorem Sound.append_stored {book : EconomicBook} (sound : book.Sound)
    {input : TransactionInput} {transaction : JournalTransaction}
    (normalized : normalizedTransaction input = .ok transaction)
    (member : transaction ∈ book.transactions) : book.append input = .ok (book, false) := by
  have found := (sound.byId _ _).mpr ⟨member, rfl⟩
  simp only [EconomicBook.append, normalized, ok_bind, appendNormal,
    sound.valid transaction member, found, ne_eq, not_true, if_false]
  rfl

/-- A successful `append` finds the normalized transaction stored or inserts it. -/
theorem Sound.append {book next : EconomicBook} {input : TransactionInput} {appended : Bool}
    (sound : book.Sound) (success : book.append input = .ok (next, appended)) :
    next.Sound ∧ ∃ transaction, normalizedTransaction input = .ok transaction ∧
      ((appended = false ∧ next = book ∧ transaction ∈ book.transactions) ∨
        (appended = true ∧ next.transactions = book.transactions ++ [transaction])) := by
  rw [EconomicBook.append, bind_eq_ok] at success
  obtain ⟨transaction, normalized, success⟩ := success
  rcases appendNormal_cases success with ⟨rfl, flag, found⟩ | ⟨accepts, rfl, flag⟩
  · exact ⟨sound, transaction, normalized, .inl ⟨flag, rfl, ((sound.byId _ _).mp found).1⟩⟩
  · exact ⟨sound.insert accepts (normalizedTransaction_again normalized), transaction,
      normalized, .inr ⟨flag, rfl⟩⟩

/-- How the loop of `append_batch` moves the candidate book. -/
structure Batched (start : EconomicBook) (batch : List TransactionInput)
    (transactions : List JournalTransaction) (candidate : EconomicBook)
    (outcomes : List Bool) : Prop where
  sound : candidate.Sound
  normalized : List.Forall₂ (fun input transaction =>
    normalizedTransaction input = .ok transaction) batch transactions
  appended : outcomes.all id → candidate.transactions = start.transactions ++ transactions
  found : ¬ outcomes.any id → candidate = start ∧
    ∀ transaction ∈ transactions, transaction ∈ start.transactions

theorem Sound.batch {start : EconomicBook} (sound : start.Sound)
    {batch : List TransactionInput} {candidate : EconomicBook} {outcomes : List Bool}
    (loop : batch.foldlM appendNext (start, []) = .ok (candidate, outcomes)) :
    ∃ transactions, Batched start batch transactions candidate outcomes := by
  induction batch using List.reverseRecOn generalizing candidate outcomes with
  | nil =>
      cases loop
      exact ⟨[], sound, .nil, by simp, by simp⟩
  | append_singleton earlier input ih =>
      rw [List.foldlM_append, bind_eq_ok] at loop
      obtain ⟨⟨middle, before⟩, first, last⟩ := loop
      simp only [List.foldlM_cons, List.foldlM_nil, bind_eq_ok, pure_eq_ok, appendNext] at last
      obtain ⟨_, ⟨⟨next, appended⟩, step, rfl⟩, equal⟩ := last
      cases equal
      obtain ⟨transactions, batched⟩ := ih first
      obtain ⟨nextSound, transaction, normalized, effect⟩ := batched.sound.append step
      refine ⟨transactions ++ [transaction], nextSound,
        List.rel_append batched.normalized (.cons normalized .nil), ?_, ?_⟩
      · intro every
        simp only [List.all_append, List.all_cons, List.all_nil, id_eq, Bool.and_true,
          Bool.and_eq_true] at every
        rcases effect with ⟨refused, -⟩ | ⟨-, grown⟩
        · rw [every.2] at refused
          cases refused
        · rw [grown, batched.appended every.1, List.append_assoc]
      · intro nothing
        simp only [List.any_append, List.any_cons, List.any_nil, id_eq, Bool.or_false,
          Bool.or_eq_true, not_or, Bool.not_eq_true] at nothing
        obtain ⟨same, members⟩ := batched.found (by rw [nothing.1]; simp)
        rcases effect with ⟨-, unchanged, stored⟩ | ⟨inserted, -⟩
        · refine ⟨unchanged.trans same, ?_⟩
          intro other member
          rcases List.mem_append.mp member with old | new
          · exact members other old
          · rw [List.mem_singleton.mp new, ← same]
            exact stored
        · rw [nothing.2] at inserted
          cases inserted

/-- A batch is appended as a whole, or was stored as a whole. -/
theorem Sound.appendBatch {book next : EconomicBook} {batch : List TransactionInput}
    {appended : Bool} (sound : book.Sound)
    (success : book.appendBatch batch = .ok (next, appended)) :
    next.Sound ∧ ∃ transactions, List.Forall₂ (fun input transaction =>
        normalizedTransaction input = .ok transaction) batch transactions ∧
      ((appended = false ∧ next = book ∧
          ∀ transaction ∈ transactions, transaction ∈ book.transactions) ∨
        (appended = true ∧ next.transactions = book.transactions ++ transactions)) := by
  rw [EconomicBook.appendBatch, guard_eq_ok, bind_eq_ok] at success
  obtain ⟨-, start, rebuilt, success⟩ := success
  rw [sound.rebuilt] at rebuilt
  cases rebuilt
  rw [bind_eq_ok] at success
  obtain ⟨⟨candidate, outcomes⟩, loop, success⟩ := success
  obtain ⟨transactions, batched⟩ := sound.batch loop
  simp only [guard_eq_ok, not_and, not_not] at success
  obtain ⟨whole, success⟩ := success
  split at success
  next some_ =>
    cases success
    exact ⟨batched.sound, transactions, batched.normalized,
      .inr ⟨rfl, batched.appended (whole some_)⟩⟩
  next none_ =>
    cases success
    exact ⟨sound, transactions, batched.normalized,
      .inl ⟨rfl, rfl, (batched.found none_).2⟩⟩

end EconomicBook

/-- A call on the journal. -/
inductive JournalCall where
  | append (input : TransactionInput)
  | appendBatch (batch : List TransactionInput)
  deriving DecidableEq, Repr

namespace EconomicBook

/-- The book after a call and what the call returns or raises. -/
def call (book : EconomicBook) (invocation : JournalCall) :
    EconomicBook × Except AccountingError Bool :=
  let result := match invocation with
    | .append input => book.append input
    | .appendBatch batch => book.appendBatch batch
  match result with
  | .error error => (book, .error error)
  | .ok (next, appended) => (next, .ok appended)

/-- The book after a sequence of calls on an empty one. -/
def run (calls : List JournalCall) : EconomicBook :=
  calls.foldl (fun book invocation => (book.call invocation).1) empty

theorem Sound.call {book : EconomicBook} (sound : book.Sound) (invocation : JournalCall) :
    (book.call invocation).1.Sound := by
  cases invocation with
  | append input =>
      simp only [EconomicBook.call]
      cases appended : book.append input with
      | error error => exact sound
      | ok result => exact (sound.append appended).1
  | appendBatch batch =>
      simp only [EconomicBook.call]
      cases appended : book.appendBatch batch with
      | error error => exact sound
      | ok result => exact (sound.appendBatch appended).1

theorem run_sound (calls : List JournalCall) : (run calls).Sound := by
  refine List.foldlRecOn (motive := Sound) calls _ empty_sound ?_
  intro book sound invocation _
  exact sound.call invocation

/-! ## Main result -/

/-- The balance of an account in an asset, as a rational. -/
def balanceOf (book : EconomicBook) (account asset : String) : ℚ :=
  (book.transactions.map (postedTo account asset)).sum

/-- What the journal of a book guarantees. -/
structure Integrity (book : EconomicBook) : Prop where
  balanced : ∀ (asset : String) (accounts : List String), accounts.Nodup →
    (∀ transaction ∈ book.transactions, ∀ item ∈ transaction.postings,
      item.ledgerAccount ∈ accounts) →
    (accounts.map fun account => book.balanceOf account asset).sum = 0
  reads : ∀ account asset held, book.balance account asset = .ok held →
    held.toRat = book.balanceOf (strip account) (strip asset)
  ids : (book.transactions.map JournalTransaction.transactionId).Nodup
  causes : (book.transactions.map JournalTransaction.causeEventId).Nodup
  reversedOnce : (reversedIds book.transactions).Nodup
  negated : ∀ reversal ∈ book.transactions, ∀ originalId,
    reversal.reversesTransactionId = some originalId →
      ∃ original ∈ book.transactions, original.transactionId = originalId ∧
        Negates reversal original
  replacedOnce : (book.transactions.filterMap JournalTransaction.correctsTransactionId).Nodup
  replaces : ∀ earlier transaction later correctedId,
    book.transactions = earlier ++ transaction :: later →
      transaction.correctsTransactionId = some correctedId →
        Replaces earlier transaction correctedId

/-- Balances over all accounts add up to what the transactions post. -/
theorem sum_balanceOf (book : EconomicBook) (asset : String) {accounts : List String}
    (distinct : accounts.Nodup)
    (known : ∀ transaction ∈ book.transactions, ∀ item ∈ transaction.postings,
      item.ledgerAccount ∈ accounts) :
    (accounts.map fun account => book.balanceOf account asset).sum =
      (book.transactions.map (postedSum fun _ unit => unit = asset)).sum := by
  have listed : ∀ item ∈ book.transactions.flatMap JournalTransaction.postings,
      decide (item.assetOrCurrency = asset) = true → item.ledgerAccount ∈ accounts := by
    intro item member _
    obtain ⟨transaction, found, posted⟩ := List.mem_flatMap.mp member
    exact known transaction found item posted
  have byAccount := selectedSum_fiberwise (fun item : Posting => item.signedAmount.toRat)
    Posting.ledgerAccount (fun item => decide (item.assetOrCurrency = asset)) (fun _ => true)
    distinct listed
  simp only [Bool.and_true] at byAccount
  rw [selectedSum_flatMap] at byAccount
  have whole : (book.transactions.map (postedSum fun _ unit => unit = asset)).sum =
      (book.transactions.map fun transaction =>
        selectedSum (fun item : Posting => item.signedAmount.toRat)
          (fun item => decide (item.assetOrCurrency = asset)) transaction.postings).sum := rfl
  rw [whole, ← byAccount, selectedSum, List.filter_true]
  congr 1
  apply List.map_congr_left
  intro account _
  rw [balanceOf, selectedSum_flatMap]
  congr 1
  apply List.map_congr_left
  intro transaction _
  rw [postedTo, postedSum, selectedSum]
  congr 2
  apply List.filter_congr
  intro item _
  rw [Bool.decide_and, Bool.and_comm]

theorem Sound.integrity {book : EconomicBook} (sound : book.Sound) : book.Integrity where
  balanced := by
    intro asset accounts distinct known
    rw [sum_balanceOf book asset distinct known]
    apply List.sum_eq_zero
    intro value member
    obtain ⟨transaction, found, rfl⟩ := List.mem_map.mp member
    exact validateTransaction_balanced (sound.valid transaction found) asset
  reads := fun _ _ _ read => balance_toRat read
  ids := sound.distinct
  causes := sound.causes
  reversedOnce := by
    have distinct := sound.reversible.reversed_nodup
    rwa [List.filterMap_reverse, List.nodup_reverse] at distinct
  negated := by
    intro reversal member originalId reverses
    obtain ⟨original, found, same, negates⟩ :=
      sound.reversible.undone (List.mem_reverse.mpr member) reverses
    exact ⟨original, List.mem_reverse.mp found, same, negates⟩
  replacedOnce := sound.replaced
  replaces := sound.replaces

/-- Every book reached by `append` and `append_batch` calls, returning or
raising, keeps its integrity.  Re-appending a stored transaction returns `False`
and changes nothing, a call that raises changes nothing, and a batch that
returns has been appended or was stored as a whole. -/
theorem journal_integrity (calls : List JournalCall) :
    (run calls).Integrity ∧
    (∀ transaction ∈ (run calls).transactions,
      (run calls).call (.append transaction.toInput) = (run calls, .ok false)) ∧
    (∀ invocation error, ((run calls).call invocation).2 = .error error →
      ((run calls).call invocation).1 = run calls) ∧
    ∀ batch appended, ((run calls).call (.appendBatch batch)).2 = .ok appended →
      ∃ transactions, List.Forall₂ (fun input transaction =>
          normalizedTransaction input = .ok transaction) batch transactions ∧
        ((appended = false ∧ ((run calls).call (.appendBatch batch)).1 = run calls ∧
            ∀ transaction ∈ transactions, transaction ∈ (run calls).transactions) ∨
          (appended = true ∧ ((run calls).call (.appendBatch batch)).1.transactions =
            (run calls).transactions ++ transactions)) := by
  have sound := run_sound calls
  refine ⟨sound.integrity, ?_, ?_, ?_⟩
  · intro transaction member
    have stored := sound.append_stored (sound.normal transaction member) member
    simp only [call, stored]
  · intro invocation error raised
    simp only [call] at raised ⊢
    split at raised
    · rfl
    · cases raised
  · intro batch appended returned
    simp only [call] at returned ⊢
    cases success : (run calls).appendBatch batch with
    | error error =>
        rw [success] at returned
        cases returned
    | ok result =>
        rw [success] at returned
        cases returned
        exact (sound.appendBatch success).2

end EconomicBook

end AutoTrade.Accounting
