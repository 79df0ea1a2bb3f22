import AutoTrade.Accounting.FillAccounting

/-!
# One active booking of an execution

The runs of the fill accounting calls over one book, and when at most one active
transaction carries the economic order key of an execution.  The two builders
name the cause of a booking differently, so an execution can be booked once
under each name; where every booking of an execution that is still active has
the cause of an earlier one, the journal refuses or recognises it.
-/

namespace AutoTrade.Accounting

open Lib Numeric
open Reconciliation (Environment)

/-! ## Fields of built transactions -/

theorem name_eq_ok {value field result : String} :
    name value field = .ok result ↔ strip value ≠ "" ∧ strip value = result := by
  rw [name, guard_eq_ok, Except.ok.injEq]

theorem optionalName_eq_ok {value result : Option String} {field : String}
    (success : optionalName value field = .ok result) : result = value.map strip := by
  cases value with
  | none =>
      cases success
      rfl
  | some value =>
      rw [optionalName] at success
      cases named : name value field with
      | error error =>
          rw [named] at success
          cases success
      | ok text =>
          rw [named] at success
          cases success
          rw [Option.map_some, (name_eq_ok.mp named).2]

/-- The identifying fields of a transaction with its texts stripped. -/
structure Stripped (transaction stored : JournalTransaction) : Prop where
  id : stored.transactionId = strip transaction.transactionId
  cause : stored.causeEventId = strip transaction.causeEventId
  reverses : stored.reversesTransactionId = transaction.reversesTransactionId.map strip
  orderKey : stored.economicOrderKey = transaction.economicOrderKey.map strip

theorem normalizedTransaction_stripped {transaction stored : JournalTransaction}
    (success : normalizedTransaction transaction.toInput = .ok stored) :
    Stripped transaction stored := by
  simp only [normalizedTransaction, bind_eq_ok, pure_eq_ok] at success
  obtain ⟨id, idName, cause, causeName, postings, -, reverses, reversesName, effective, -, order,
    orderName, observed, -, corrects, -, rfl⟩ := success
  constructor
  · exact (name_eq_ok.mp idName).2.symm
  · exact (name_eq_ok.mp causeName).2.symm
  · exact optionalName_eq_ok reversesName
  · exact optionalName_eq_ok orderName

section

variable [CaseMap]

/-- What `book_equity_fill` writes from its textual arguments. -/
theorem bookEquityFill_fields {id cause instrument settlement sideName : String}
    {quantity price fee : DecimalInput} {feeCurrency orderKey corrects : Option String}
    {effectiveAt observedAt : Option Timestamp} {transaction : JournalTransaction}
    (success : bookEquityFill id cause instrument settlement sideName quantity price fee
      feeCurrency effectiveAt orderKey observedAt corrects = .ok transaction) :
    transaction.causeEventId = strip cause ∧ transaction.reversesTransactionId = none ∧
      transaction.economicOrderKey = orderKey.map strip := by
  unfold bookEquityFill at success
  rw [bind_eq_ok] at success
  obtain ⟨symbol, -, success⟩ := success
  rw [bind_eq_ok] at success
  obtain ⟨currency, -, success⟩ := success
  rw [bind_eq_ok] at success
  obtain ⟨sideText, -, success⟩ := success
  extract_lets sided at success
  have read : ∃ side, sided side = .ok transaction := by
    split at success
    · exact ⟨.buy, success⟩
    · split at success
      · exact ⟨.sell, success⟩
      · cases success
  obtain ⟨side, read⟩ := read
  simp only [sided, bind_eq_ok, throw_unless_eq_ok, pure_eq_ok] at read
  obtain ⟨amount, -, unitPrice, -, charge, -, -, postings, -, transactionId, -, causeEventId,
    causeName, effective, -, order, orderName, observed, -, corrected, -, -, -, rfl⟩ := read
  constructor
  · exact (name_eq_ok.mp causeName).2.symm
  · constructor
    · rfl
    · exact optionalName_eq_ok orderName

theorem bookFill_fields {fill : Reconciliation.ProviderFillEvidence}
    {settlement transactionId causeEventId orderKey : String}
    {effectiveAt observedAt : Option Timestamp} {corrects : Option String}
    {transaction : JournalTransaction}
    (success : bookFill fill settlement transactionId causeEventId effectiveAt orderKey
      observedAt corrects = .ok transaction) :
    transaction.causeEventId = strip causeEventId ∧
      transaction.reversesTransactionId = none ∧
      transaction.economicOrderKey = some (strip orderKey) := by
  rw [bookFill] at success
  split at success
  · cases success
  · exact bookEquityFill_fields success

theorem validatedFillEvidence_provider {book : ScopedEconomicBook} {report : FillReport}
    {allowCorrection : Bool} {validated : ValidatedFill}
    (success : validatedFillEvidence book report allowCorrection = .ok validated) :
    (upper <$> name report.providerId "provider_id") = .ok validated.provider := by
  simp only [validatedFillEvidence, bind_eq_ok, throw_unless_eq_ok, pure_eq_ok] at success
  obtain ⟨provider, named, -, -, instrument, -, settlement, -, -, -, -, -, -, rfl⟩ := success
  exact named

/-- An order key is normal text. -/
theorem economicOrderKey_normal {provider execution key : String}
    (success : economicOrderKey provider execution = .ok key) : Normal key := by
  simp only [economicOrderKey, bind_eq_ok, pure_eq_ok] at success
  obtain ⟨name, -, id, idName, rfl⟩ := success
  obtain ⟨nonempty, rfl⟩ := name_eq_ok.mp idName
  have start : ("provider:" ++ upper name ++ ":execution:").toList.head? = some 'p' := by
    rw [String.toList_append, String.toList_append]
    rfl
  exact normal_append start rfl (normal_strip nonempty)

end

/-- The cause of a booked execution is normal text. -/
theorem fillCause_normal {provider account execution : String}
    {environment : Environment} {domain : Option String}
    (normal : Normal execution) :
    Normal (fillCause provider environment domain account execution) := by
  have start : ∀ middle, ("provider:" ++ provider ++ ":environment:" ++ environment.name ++ ":" ++
      middle ++ "account:" ++ account ++ ":execution:").toList.head? = some 'p' := by
    intro middle
    simp only [String.toList_append]
    rfl
  exact normal_append (start _) rfl normal

theorem reverseTransaction_reverses {original reversal : JournalTransaction}
    {transactionId causeEventId : String} {observedAt : Instant}
    (success : reverseTransaction original transactionId causeEventId observedAt =
      .ok reversal) : reversal.reversesTransactionId = some original.transactionId := by
  simp only [reverseTransaction, bind_eq_ok, pure_eq_ok] at success
  obtain ⟨-, -, id, -, cause, -, postings, -, -, -, rfl⟩ := success
  rfl

section

variable [Fingerprint]

theorem expectedReversal_reverses {book : ScopedEconomicBook} {args : FillBust}
    {validated : ValidatedFill} {revision : String} {observation : Instant}
    {source reversal : JournalTransaction}
    (success : expectedReversal book args validated revision observation source =
      .ok reversal) : reversal.reversesTransactionId ≠ none := by
  rw [expectedReversal, bind_eq_ok] at success
  obtain ⟨digest, -, success⟩ := success
  rw [reverseTransaction_reverses success]
  exact Option.some_ne_none _

end

/-- The reversals of a retried bust. -/
theorem committedBusts_reverse {book : EconomicBook}
    {expected : JournalTransaction → Except AccountingError JournalTransaction}
    {candidates reversals : List JournalTransaction}
    (reverses : ∀ source reversal, expected source = .ok reversal →
      reversal.reversesTransactionId ≠ none)
    (success : committedBusts book expected candidates = .ok reversals) :
    ∀ reversal ∈ reversals, reversal.reversesTransactionId ≠ none := by
  rw [committedBusts, bind_eq_ok] at success
  obtain ⟨found, listed, success⟩ := success
  cases success
  intro reversal member
  obtain ⟨entry, foundEntry, same⟩ := List.mem_filterMap.mp member
  rw [id_eq] at same
  subst same
  obtain ⟨source, -, built⟩ := (mem_mapM listed).mp foundEntry
  rw [bind_eq_ok] at built
  obtain ⟨result, made, built⟩ := built
  split at built
  · cases built
  next existing stored =>
    rw [throw_unless_eq_ok, not_not] at built
    obtain ⟨same, kept⟩ := built
    cases kept
    rw [same]
    exact reverses source result made

/-! ## Active bookings of a grown book -/

/-- At most one active booking for every order key. -/
def SingleActive (book : EconomicBook) : Prop :=
  ∀ orderKey, (activeFacts book orderKey).length ≤ 1

/-- What a grown book has active: earlier active bookings that are not reversed
now, and new ones. -/
theorem activeFacts_grown {book next : EconomicBook} {added : List JournalTransaction}
    (grown : next.transactions = book.transactions ++ added) (orderKey : String) :
    activeFacts next orderKey =
      (activeFacts book orderKey).filter (isActive next.transactions) ++
        added.filter fun item =>
          item.economicOrderKey = some orderKey && isActive next.transactions item := by
  have stays : ∀ item, isActive next.transactions item = true →
      isActive book.transactions item = true := by
    intro item active
    simp only [isActive, reversedIds, grown, List.filterMap_append, List.mem_append, not_or,
      Bool.and_eq_true, decide_eq_true_eq] at active ⊢
    exact ⟨decide_eq_true active.1.1, active.2⟩
  have old : activeFacts next orderKey =
      (book.transactions ++ added).filter fun item =>
        item.economicOrderKey = some orderKey && isActive next.transactions item := by
    rw [activeFacts, grown]
  rw [old, List.filter_append, activeFacts, List.filter_filter]
  congr 1
  apply List.filter_congr
  intro item _
  cases active : isActive next.transactions item with
  | false => simp
  | true => simp [stays item active]

theorem length_filter_active_le (book next : EconomicBook) (orderKey : String) :
    ((activeFacts book orderKey).filter (isActive next.transactions)).length ≤
      (activeFacts book orderKey).length :=
  List.length_filter_le _ _

/-- A new transaction of another order key, or a reversal, adds no active
booking of an order key. -/
theorem SingleActive.grow {book next : EconomicBook} {transaction : JournalTransaction}
    (single : SingleActive book)
    (grown : next.transactions = book.transactions ++ [transaction]) {orderKey : String}
    (other : transaction.economicOrderKey ≠ some orderKey ∨
      transaction.reversesTransactionId ≠ none) :
    (activeFacts next orderKey).length ≤ 1 := by
  have idle : (decide (transaction.economicOrderKey = some orderKey) &&
      isActive next.transactions transaction) = false := by
    rw [Bool.and_eq_false_iff]
    rcases other with different | reverses
    · exact .inl (decide_eq_false different)
    · right
      rw [isActive, Bool.and_eq_false_iff]
      right
      rw [Option.isNone_eq_false_iff, Option.isSome_iff_ne_none]
      exact reverses
  rw [activeFacts_grown grown, List.filter_cons_of_neg (by simpa using idle), List.filter_nil,
    List.append_nil]
  exact (length_filter_active_le book next orderKey).trans (single orderKey)

/-- A new booking where none was active. -/
theorem length_activeFacts_of_none {book next : EconomicBook}
    {transaction : JournalTransaction} {orderKey : String}
    (grown : next.transactions = book.transactions ++ [transaction])
    (inactive : activeFacts book orderKey = []) :
    (activeFacts next orderKey).length ≤ 1 := by
  rw [activeFacts_grown grown, inactive, List.filter_nil, List.nil_append]
  exact List.length_filter_le _ _

/-- What a booking appends. -/
structure Books (orderKey cause : String) (transaction : JournalTransaction) : Prop where
  orderKey : transaction.economicOrderKey = some orderKey
  cause : transaction.causeEventId = cause

/-- A booking keeps one active booking under its condition. -/
theorem SingleActive.append_booking {book next : EconomicBook} {orderKey cause : String}
    {transaction : JournalTransaction} {appended : Bool} (sound : book.Sound)
    (single : SingleActive book) (keyNormal : Normal orderKey) (causeNormal : Normal cause)
    (books : Books orderKey cause transaction)
    (kept : activeFacts book orderKey ≠ [] →
      ∃ earlier ∈ book.transactions, earlier.causeEventId = cause)
    (success : book.append transaction.toInput = .ok (next, appended)) : SingleActive next := by
  obtain ⟨nextSound, stored, normalized, effect⟩ := sound.append success
  rcases effect with ⟨-, rfl, -⟩ | ⟨-, grown⟩
  · exact single
  · have stripped := normalizedTransaction_stripped normalized
    have storedKey : stored.economicOrderKey = some orderKey := by
      rw [stripped.orderKey, books.orderKey, Option.map_some, keyNormal.1]
    have storedCause : stored.causeEventId = cause := by
      rw [stripped.cause, books.cause, causeNormal.1]
    intro other
    by_cases same : other = orderKey
    · subst same
      apply length_activeFacts_of_none grown
      by_contra active
      obtain ⟨earlier, member, caused⟩ := kept active
      have causes := nextSound.causes
      rw [grown, List.map_append, List.map_singleton, List.nodup_append'] at causes
      refine List.disjoint_singleton.mp causes.2.2 ?_
      rw [storedCause, ← caused]
      exact List.mem_map_of_mem member
    · apply single.grow grown
      left
      rw [storedKey, ne_eq, Option.some.injEq]
      exact fun equal => same equal.symm

/-- An appended reversal keeps one active booking. -/
theorem SingleActive.append_reversal {book next : EconomicBook}
    {reversal : JournalTransaction} {appended : Bool} (sound : book.Sound)
    (single : SingleActive book) (reverses : reversal.reversesTransactionId ≠ none)
    (success : book.append reversal.toInput = .ok (next, appended)) : SingleActive next := by
  obtain ⟨-, stored, normalized, effect⟩ := sound.append success
  rcases effect with ⟨-, rfl, -⟩ | ⟨-, grown⟩
  · exact single
  · intro orderKey
    apply single.grow grown
    right
    rw [(normalizedTransaction_stripped normalized).reverses, ne_eq, Option.map_eq_none_iff]
    exact reverses

/-- A reversal of the only active booking with its replacement keeps one active
booking. -/
theorem SingleActive.append_correction {book next : EconomicBook} {orderKey : String}
    {committed reversal replacement : JournalTransaction} {appended : Bool}
    (sound : book.Sound) (single : SingleActive book) (keyNormal : Normal orderKey)
    (only : activeFacts book orderKey = [committed])
    (reverses : reversal.reversesTransactionId = some committed.transactionId)
    (replaces : replacement.economicOrderKey = some orderKey)
    (success : book.appendBatch [reversal.toInput, replacement.toInput] =
      .ok (next, appended)) : SingleActive next := by
  obtain ⟨-, transactions, normalized, effect⟩ := sound.appendBatch success
  rcases effect with ⟨-, rfl, -⟩ | ⟨-, grown⟩
  · exact single
  · obtain ⟨storedReversal, rest, reversalNormal, others, rfl⟩ :=
      List.forall₂_cons_left_iff.mp normalized
    obtain ⟨storedReplacement, none_, replacementNormal, ended, rfl⟩ :=
      List.forall₂_cons_left_iff.mp others
    rw [List.forall₂_nil_left_iff] at ended
    subst ended
    have member : committed ∈ book.transactions := by
      have listed : committed ∈ activeFacts book orderKey := by
        rw [only]
        exact List.mem_singleton_self committed
      exact (List.mem_filter.mp listed).1
    have committedNormal := (normalizedTransaction_stripped (sound.normal _ member)).id
    have reversesStored : storedReversal.reversesTransactionId =
        some committed.transactionId := by
      rw [(normalizedTransaction_stripped reversalNormal).reverses, reverses, Option.map_some,
        ← committedNormal]
    have replacementKey : storedReplacement.economicOrderKey = some orderKey := by
      rw [(normalizedTransaction_stripped replacementNormal).orderKey, replaces,
        Option.map_some, keyNormal.1]
    have reversalIdle : isActive next.transactions storedReversal = false := by
      simp [isActive, reversesStored]
    intro other
    rw [activeFacts_grown grown, List.length_append, List.filter_cons_of_neg
      (by simp [reversalIdle])]
    by_cases same : other = orderKey
    · subst same
      have reversed : isActive next.transactions committed = false := by
        simp [isActive, reversedIds, grown, reversesStored]
      rw [only, List.filter_cons_of_neg (by simp [reversed]), List.filter_nil, List.length_nil,
        Nat.zero_add]
      exact List.length_filter_le _ _
    · have different : ¬ storedReplacement.economicOrderKey = some other := by
        rw [replacementKey, Option.some.injEq]
        exact fun equal => same equal.symm
      rw [List.filter_cons_of_neg (by simp [different]), List.filter_nil]
      exact (length_filter_active_le book next other).trans (single other)

/-- A batch that starts with a stored transaction adds nothing. -/
theorem SingleActive.append_stored_batch {book next : EconomicBook}
    {first second : JournalTransaction} {appended : Bool} (sound : book.Sound)
    (single : SingleActive book) (firstStored : first ∈ book.transactions)
    (success : book.appendBatch [first.toInput, second.toInput] = .ok (next, appended)) :
    SingleActive next := by
  obtain ⟨nextSound, transactions, normalized, effect⟩ := sound.appendBatch success
  rcases effect with ⟨-, rfl, -⟩ | ⟨-, grown⟩
  · exact single
  · obtain ⟨stored, rest, firstNormal, -, rfl⟩ := List.forall₂_cons_left_iff.mp normalized
    rw [sound.normal first firstStored, Except.ok.injEq] at firstNormal
    subst firstNormal
    have distinct := nextSound.distinct
    rw [grown, List.map_append, List.nodup_append'] at distinct
    exact absurd (List.mem_map_of_mem (List.mem_cons_self ..))
      (List.disjoint_left.mp distinct.2.2 (List.mem_map_of_mem firstStored))

/-- What the builder of a correction returns: the stored transactions of a
correction in force, or the ones of a new correction of the active booking. -/
inductive Correction (book : EconomicBook) (reversal replacement : JournalTransaction) : Prop
  | committed (stored : reversal ∈ book.transactions)
  | fresh (orderKey : String) (committed : JournalTransaction) (normal : Normal orderKey)
      (only : activeFacts book orderKey = [committed])
      (reverses : reversal.reversesTransactionId = some committed.transactionId)
      (replaces : replacement.economicOrderKey = some orderKey)

/-! ## Runs -/

/-- A call of the fill accounting.  The reversal of a bust may have been built
some calls earlier than it is appended. -/
inductive FillCall where
  | book (report : FillReport) (observedAt : Option Timestamp)
  | bookUnexpected (args : UnexpectedFill) (observedAt : Option Timestamp)
  | correct (args : FillCorrection)
  | appendBust (age : Nat) (args : FillBust)

/-- The books of a run; the earlier ones, latest first. -/
structure History where
  earlier : List ScopedEconomicBook
  current : ScopedEconomicBook

/-- The books of a run that has not begun. -/
def History.opened (environment : Environment) (accountId : String)
    (durable : Option DurableScope) : History where
  earlier := []
  current := ⟨environment, accountId, durable, .empty⟩

/-- The invariant of a run. -/
structure SinglyBooked (books : History) : Prop where
  sound : books.current.book.Sound
  single : SingleActive books.current.book

theorem opened_singlyBooked (environment : Environment) (accountId : String)
    (durable : Option DurableScope) :
    SinglyBooked (History.opened environment accountId durable) where
  sound := EconomicBook.empty_sound
  single := fun _ => Nat.zero_le 1

section

variable [CaseMap] [Fingerprint]

/-- The book that a call returns with. -/
def FillCall.result (books : History) : FillCall → Except AccountingError (EconomicBook × Bool)
  | .book report observedAt => bookProviderFill books.current report observedAt
  | .bookUnexpected args observedAt => bookUnexpectedProviderFill books.current args observedAt
  | .correct args => bookProviderFillCorrection books.current args
  | .appendBust age args => do
      let builtOver := (books.earlier[age]?).getD books.current
      let reversal ← buildProviderFillBustTransaction builtOver args
      books.current.book.append reversal.toInput

/-- A call that returns adds its book; one that raises leaves the book as it was. -/
def History.call (books : History) (invocation : FillCall) : History :=
  match invocation.result books with
  | .error _ => books
  | .ok (next, _) => ⟨books.current :: books.earlier, { books.current with book := next }⟩

/-- The books after a sequence of calls. -/
def History.run (books : History) (calls : List FillCall) : History :=
  calls.foldl History.call books

/-- The order key and the cause that a booking of an execution carries. -/
def FillCall.identity (book : ScopedEconomicBook) :
    FillCall → Except AccountingError (Option (String × String))
  | .book report _ => do
      let provider ← upper <$> name report.providerId "provider_id"
      let orderKey ← economicOrderKey provider report.fill.providerExecutionId
      pure (some (orderKey, fillCause provider book.environment
        (providerDomain book report.fill) book.accountId report.fill.providerExecutionId))
  | .bookUnexpected args _ => do
      let provider := args.fill.scope.providerId
      let orderKey ← economicOrderKey provider args.fill.providerExecutionId
      pure (some (orderKey, fillCause provider args.fill.scope.environment none
        args.fill.scope.accountId args.fill.providerExecutionId))
  | .correct _ => .ok none
  | .appendBust _ _ => .ok none

/-- A booking of an execution with an active booking has the cause of a
transaction of the book. -/
def KeepsCause (book : ScopedEconomicBook) (invocation : FillCall) : Prop :=
  ∀ orderKey cause, invocation.identity book = .ok (some (orderKey, cause)) →
    activeFacts book.book orderKey ≠ [] →
      ∃ earlier ∈ book.book.transactions, earlier.causeEventId = cause

/-! ## What a call adds -/

theorem buildProviderFillTransaction_books {book : ScopedEconomicBook} {report : FillReport}
    {observedAt : Option Timestamp} {transaction : JournalTransaction}
    (success : buildProviderFillTransaction book report observedAt = .ok transaction) :
    ∃ orderKey cause,
      (FillCall.book report observedAt).identity book = .ok (some (orderKey, cause)) ∧
        Normal orderKey ∧ Normal cause ∧ Books orderKey cause transaction := by
  rw [buildProviderFillTransaction, bind_eq_ok] at success
  obtain ⟨validated, valid, success⟩ := success
  simp only [bind_eq_ok] at success
  obtain ⟨digest, -, orderKey, keyed, observed, -, built⟩ := success
  obtain ⟨causeField, -, orderField⟩ := bookFill_fields built
  have named := validatedFillEvidence_provider valid
  have causeNormal : Normal (fillCause validated.provider book.environment
      (providerDomain book report.fill) book.accountId report.fill.providerExecutionId) :=
    fillCause_normal report.fill.identified
  have keyNormal := economicOrderKey_normal keyed
  refine ⟨orderKey, _, ?_, keyNormal, causeNormal, ?_, ?_⟩
  · simp only [FillCall.identity, named, ok_bind, keyed]
    rfl
  · rw [orderField, keyNormal.1]
  · rw [causeField, causeNormal.1]

theorem buildUnexpectedProviderFillTransaction_books {book : ScopedEconomicBook}
    {args : UnexpectedFill} {observedAt : Option Timestamp} {transaction : JournalTransaction}
    (success : buildUnexpectedProviderFillTransaction book args observedAt = .ok transaction) :
    ∃ orderKey cause,
      (FillCall.bookUnexpected args observedAt).identity book = .ok (some (orderKey, cause)) ∧
        Normal orderKey ∧ Normal cause ∧ Books orderKey cause transaction := by
  simp only [buildUnexpectedProviderFillTransaction, bind_eq_ok, throw_unless_eq_ok] at success
  obtain ⟨-, checkpoint, -, identityDigest, -, eventId, -, -, -, -, -, instrument, -, -,
    settlement, -, digest, -, orderKey, keyed, observed, -, built⟩ := success
  obtain ⟨causeField, -, orderField⟩ := bookFill_fields built
  have causeNormal : Normal (fillCause args.fill.scope.providerId args.fill.scope.environment
      none args.fill.scope.accountId args.fill.providerExecutionId) :=
    fillCause_normal args.fill.identified
  have keyNormal := economicOrderKey_normal keyed
  refine ⟨orderKey, _, ?_, keyNormal, causeNormal, ?_, ?_⟩
  · simp only [FillCall.identity, keyed, ok_bind]
    rfl
  · rw [orderField, keyNormal.1]
  · rw [causeField, causeNormal.1]

theorem committedCorrection_stored {book : ScopedEconomicBook} {args : FillCorrection}
    {original corrected : ValidatedFill} {observation : Instant} {orderKey : String}
    {active reversal replacement : JournalTransaction}
    (success : committedCorrection book args original corrected observation orderKey active =
      .ok (reversal, replacement)) : reversal ∈ book.book.transactions := by
  rw [committedCorrection] at success
  split at success
  · cases success
  · split at success
    next prior found priorFound reversalFound =>
      simp only [bind_eq_ok, throw_unless_eq_ok, pure_eq_ok] at success
      obtain ⟨-, matching, -, -, digest, -, -, same⟩ := success
      cases same
      exact List.mem_of_find?_eq_some reversalFound
    · cases success

theorem newCorrection_reverses {book : ScopedEconomicBook} {args : FillCorrection}
    {original corrected : ValidatedFill} {observation : Instant} {orderKey : String}
    {committed reversal replacement : JournalTransaction}
    (success : newCorrection book args original corrected observation orderKey committed =
      .ok (reversal, replacement)) :
    reversal.reversesTransactionId = some committed.transactionId ∧
      replacement.economicOrderKey = some (strip orderKey) := by
  simp only [newCorrection, bind_eq_ok, throw_unless_eq_ok, pure_eq_ok] at success
  obtain ⟨matching, -, -, digest, -, built, reversed, rebooked, booked, same⟩ := success
  cases same
  exact ⟨reverseTransaction_reverses reversed, (bookFill_fields booked).2.2⟩

theorem buildProviderFillCorrectionTransactions_cases {book : ScopedEconomicBook}
    {args : FillCorrection} {reversal replacement : JournalTransaction}
    (success : buildProviderFillCorrectionTransactions book args =
      .ok (reversal, replacement)) : Correction book.book reversal replacement := by
  simp only [buildProviderFillCorrectionTransactions, bind_eq_ok, throw_unless_eq_ok] at success
  obtain ⟨-, -, original, -, corrected, -, -, -, observation, -, orderKey, keyed, success⟩ :=
    success
  have keyNormal := economicOrderKey_normal keyed
  split at success
  next committed only =>
    rw [bind_eq_ok] at success
    obtain ⟨matching, -, success⟩ := success
    split at success
    · exact .committed (committedCorrection_stored success)
    · obtain ⟨reverses, replaces⟩ := newCorrection_reverses success
      exact .fresh orderKey committed keyNormal only reverses
        (by rw [replaces, keyNormal.1])
  · cases success

theorem buildProviderFillBustTransaction_reverses {book : ScopedEconomicBook} {args : FillBust}
    {reversal : JournalTransaction}
    (success : buildProviderFillBustTransaction book args = .ok reversal) :
    reversal.reversesTransactionId ≠ none := by
  simp only [buildProviderFillBustTransaction, bind_eq_ok, throw_unless_eq_ok] at success
  obtain ⟨validated, -, revision, -, -, observation, -, orderKey, -, matching, -, -, success⟩ :=
    success
  split at success
  · exact expectedReversal_reverses success
  · cases success
  · rw [bind_eq_ok] at success
    obtain ⟨reversals, retried, success⟩ := success
    split at success
    · cases success
      exact committedBusts_reverse (fun _ _ => expectedReversal_reverses) retried _
        (List.mem_singleton_self _)
    · cases success
    · cases success

/-! ## Main result -/

/-- A call that returns keeps one active booking under its condition. -/
theorem SinglyBooked.result {books : History} {invocation : FillCall} {next : EconomicBook}
    {appended : Bool} (booked : SinglyBooked books)
    (kept : KeepsCause books.current invocation)
    (success : invocation.result books = .ok (next, appended)) :
    next.Sound ∧ SingleActive next := by
  cases invocation with
  | book report observedAt =>
      rw [FillCall.result, bookProviderFill, bind_eq_ok] at success
      obtain ⟨transaction, built, success⟩ := success
      obtain ⟨orderKey, cause, identity, keyNormal, causeNormal, carries⟩ :=
        buildProviderFillTransaction_books built
      exact ⟨(booked.sound.append success).1, booked.single.append_booking booked.sound
        keyNormal causeNormal carries (kept orderKey cause identity) success⟩
  | bookUnexpected args observedAt =>
      rw [FillCall.result, bookUnexpectedProviderFill, bind_eq_ok] at success
      obtain ⟨transaction, built, success⟩ := success
      obtain ⟨orderKey, cause, identity, keyNormal, causeNormal, carries⟩ :=
        buildUnexpectedProviderFillTransaction_books built
      exact ⟨(booked.sound.append success).1, booked.single.append_booking booked.sound
        keyNormal causeNormal carries (kept orderKey cause identity) success⟩
  | correct args =>
      rw [FillCall.result, bookProviderFillCorrection, bind_eq_ok] at success
      obtain ⟨⟨reversal, replacement⟩, built, success⟩ := success
      refine ⟨(booked.sound.appendBatch success).1, ?_⟩
      cases buildProviderFillCorrectionTransactions_cases built with
      | committed stored => exact booked.single.append_stored_batch booked.sound stored success
      | fresh orderKey committed normal only reverses replaces =>
          exact booked.single.append_correction booked.sound normal only reverses replaces
            success
  | appendBust age args =>
      rw [FillCall.result, bind_eq_ok] at success
      obtain ⟨reversal, built, success⟩ := success
      exact ⟨(booked.sound.append success).1, booked.single.append_reversal booked.sound
        (buildProviderFillBustTransaction_reverses built) success⟩

theorem SinglyBooked.call {books : History} {invocation : FillCall}
    (booked : SinglyBooked books) (kept : KeepsCause books.current invocation) :
    SinglyBooked (books.call invocation) := by
  rw [History.call]
  split
  · exact booked
  next next appended success =>
    obtain ⟨sound, single⟩ := booked.result kept success
    exact ⟨sound, single⟩

theorem SinglyBooked.run {books : History} (booked : SinglyBooked books)
    {calls : List FillCall}
    (kept : ∀ before invocation after, calls = before ++ invocation :: after →
      KeepsCause (books.run before).current invocation) : SinglyBooked (books.run calls) := by
  induction calls using List.reverseRecOn with
  | nil => exact booked
  | append_singleton before invocation ih =>
      have earlier : SinglyBooked (books.run before) := by
        apply ih
        intro first call rest split
        exact kept first call (rest ++ [invocation]) (by rw [split]; simp)
      have step := earlier.call (kept before invocation [] rfl)
      rw [History.run, List.foldl_append]
      exact step

/-- A book that the fill accounting reaches from empty has at most one active
transaction of each order key, when every booking of an execution that still has
an active booking carries the cause of a transaction of the book. -/
theorem single_booking (environment : Environment) (accountId : String)
    (durable : Option DurableScope) (calls : List FillCall)
    (kept : ∀ before invocation after, calls = before ++ invocation :: after →
      KeepsCause ((History.opened environment accountId durable).run before).current
        invocation) (orderKey : String) :
    (activeFacts ((History.opened environment accountId durable).run calls).current.book
      orderKey).length ≤ 1 := by
  have booked := (opened_singlyBooked environment accountId durable).run kept
  exact booked.single orderKey

end

/-! ## An execution booked under two causes -/

section Samples

attribute [local instance] CaseMap.ascii Fingerprint.zeros

/-- A fill of a demo account that trades as paper. -/
def demoFill : Reconciliation.ProviderFillEvidence where
  scope := ⟨"BYBIT", "account-1", .paper, "DEMO"⟩
  providerExecutionId := "exec-1"
  clientOrderId := some "client-1"
  instrument := "BTCUSDT"
  quantity := ⟨⟨false, 2, 0⟩, rfl, by decide⟩
  price := ⟨⟨false, 100, 0⟩, rfl, by decide⟩
  feeAmount := ⟨⟨false, 1, 0⟩, rfl, by decide⟩
  feeCurrency := "USDT"
  tradeTime := ⟨"2026-01-01T12:00:00Z", ⟨1767268800000000⟩⟩
  side := some .buy
  positionSide := none
  positionEffect := none
  evidenceRefs := ["evidence-1"]
  identified := by decide +kernel
  positiveQuantity := by decide +kernel
  positivePrice := by decide +kernel
  distinctRefs := by decide

/-- The same execution in the order projection. -/
def demoReport : FillReport where
  providerId := "BYBIT"
  projected := {
    fillId := "fill-1", providerExecutionId := "exec-1", intentId := "intent-1"
    clientOrderId := some "client-1", side := .buy
    quantity := ⟨false, 2, 0⟩, price := ⟨false, 100, 0⟩
    positionSide := none, positionEffect := none, providerRevision := none
    correctionOf := none
    positiveQuantity := by decide +kernel, positivePrice := by decide +kernel }
  fill := demoFill
  expectedInstrument := "BTCUSDT"
  settlementCurrency := "USDT"

/-- A checkpoint that found the execution unexpected. -/
def demoCheckpoint : Checkpoint where
  eventId := "event-1"
  payloadHash := "sha256:" ++ String.ofList (List.replicate 64 '0')
  journalSequence := 1
  unexpectedExecutionIds := ["exec-1"]
  bindings := [{
    providerExecutionId := "exec-1"
    identity := providerFillIdentityPayload demoFill
    identityDigest := "sha256:" ++
      ((payloadHash (.obj (providerFillIdentityPayload demoFill))).toOption.getD "") }]

/-- The execution as reconciliation found it. -/
def demoUnexpected : UnexpectedFill where
  sharesStore := true
  checkpoint := .ok demoCheckpoint
  fill := demoFill
  expectedInstrument := "BTCUSDT"
  settlementCurrency := "USDT"

/-- The books of the demo account. -/
def demoBooks : History := .opened .paper "account-1" (some ⟨"BYBIT", "DEMO"⟩)

/-- A booking that is retried is active once. -/
theorem retried_single_booking :
    (activeFacts (demoBooks.run [.book demoReport none, .book demoReport none]).current.book
      "provider:BYBIT:execution:exec-1").length ≤ 1 := by
  apply single_booking
  intro before invocation after split
  cases before with
  | nil =>
      intro orderKey cause _ active
      exact absurd rfl active
  | cons first rest =>
      injection split with head tail
      subst head
      cases rest with
      | nil =>
          injection tail with head _
          subst head
          intro orderKey cause identity _
          have named : (FillCall.book demoReport none).identity
              (demoBooks.run [.book demoReport none]).current =
              .ok (some ("provider:BYBIT:execution:exec-1",
                "provider:BYBIT:environment:PAPER:provider-environment:DEMO:" ++
                  "account:account-1:execution:exec-1")) := by
            decide +kernel
          have carried : ∃ earlier ∈
              (demoBooks.run [.book demoReport none]).current.book.transactions,
              earlier.causeEventId =
                "provider:BYBIT:environment:PAPER:provider-environment:DEMO:" ++
                  "account:account-1:execution:exec-1" := by
            decide +kernel
          cases named.symm.trans identity
          exact carried
      | cons second others => simp at tail

/-- The execution booked as external and then through the projection. -/
def demoRun : History :=
  demoBooks.run [.bookUnexpected demoUnexpected none, .book demoReport none]

/-- Two bookings of the execution are active, and the position is twice the
quantity of the fill. -/
theorem external_then_projected_booked_twice :
    (activeFacts demoRun.current.book "provider:BYBIT:execution:exec-1").length = 2 ∧
      (demoRun.current.book.position "BTCUSDT").map Decimal.toRat = .ok 4 := by
  decide +kernel

end Samples

end AutoTrade.Accounting
