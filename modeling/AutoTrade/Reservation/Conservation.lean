import AutoTrade.Reservation.Book

/-!
# Reservation conservation

Each record of a reachable book splits its original amounts: while the record
is held, what remains and what was consumed add up to the original; a terminal
record holds nothing and never consumed more than the original.  The six
operations are inverted once (`call_cases`) and the invariant follows by
induction over the calls.
-/

namespace AutoTrade.Reservation

open Lib Numeric

/-- The value stored for a resource, zero for a resource that is absent. -/
def amount (values : Amounts) (resource : String) : ℚ := (amountOf values resource).toRat

theorem amount_of_get? {values : Amounts} {resource : String} {value : Decimal}
    (found : values.get? resource = some value) : amount values resource = value.toRat := by
  simp [amount, amountOf, found]

theorem amount_of_not_mem {values : Amounts} {resource : String}
    (absent : resource ∉ values.keys) : amount values resource = 0 := by
  simp [amount, amountOf, Dict.get?_eq_none.mpr absent]

theorem amount_set (values : Amounts) (key resource : String) (value : Decimal) :
    amount (values.set key value) resource =
      if key = resource then value.toRat else amount values resource := by
  simp only [amount, amountOf, Dict.get?_set]
  split <;> rfl

@[simp] theorem amount_zeroed (values : Amounts) (resource : String) :
    amount (zeroed values) resource = 0 := by
  simp only [amount, amountOf, zeroed, Dict.get?_mapValues]
  cases values.get? resource <;> rfl

@[simp] theorem keys_zeroed (values : Amounts) : (zeroed values).keys = values.keys := by
  simp [zeroed]

/-! ## Admitted amounts -/

theorem addAmount_eq_ok {allowZero : Bool} {before after : Amounts}
    {item : String × DecimalInput} (success : addAmount allowZero before item = .ok after) :
    ∃ key value, text item.1 "resource" = .ok key ∧
      before.get? key = none ∧ 0 ≤ value.toRat ∧
      (allowZero = false → 0 < value.toRat) ∧ after = before.set key value := by
  rw [addAmount, bind_eq_ok] at success
  obtain ⟨key, keyText, rest⟩ := success
  rw [guard_eq_ok, bind_eq_ok] at rest
  obtain ⟨fresh, value, -, tail⟩ := rest
  rw [guard_eq_ok, pure_eq_ok] at tail
  obtain ⟨sign, rfl⟩ := tail
  rw [not_or, Decimal.lt_def, not_lt, Decimal.toRat_zero] at sign
  refine ⟨key, value, keyText, by simpa using fresh, sign.1, ?_, rfl⟩
  intro positive
  apply lt_of_le_of_ne sign.1
  intro zero
  exact sign.2 ⟨Decimal.toRat_eq_zero.mp zero.symm, positive⟩

/-- Amounts of a request are non-negative, and positive unless zero is
allowed. -/
theorem amounts_nonneg {values : AmountInputs} {allowZero : Bool} {result : Amounts}
    (success : amounts values allowZero = .ok result) :
    ∀ resource value, result.get? resource = some value →
      0 ≤ value.toRat ∧ (allowZero = false → 0 < value.toRat) := by
  rw [amounts, guard_eq_ok] at success
  refine foldlM_invariant (fun current : Amounts => ∀ resource value,
    current.get? resource = some value →
      0 ≤ value.toRat ∧ (allowZero = false → 0 < value.toRat)) ?_ (by simp) success.2
  intro item _ before after holds step resource value found
  obtain ⟨key, added, -, -, nonneg, positive, rfl⟩ := addAmount_eq_ok step
  rw [Dict.get?_set] at found
  split at found
  · cases found
    exact ⟨nonneg, positive⟩
  · exact holds resource value found

theorem amount_nonneg {values : AmountInputs} {allowZero : Bool} {result : Amounts}
    (success : amounts values allowZero = .ok result) (resource : String) :
    0 ≤ amount result resource := by
  cases found : result.get? resource with
  | none => simp [amount, amountOf, found]
  | some value =>
      rw [amount_of_get? found]
      exact (amounts_nonneg success resource value found).1

/-- The entries of a request are the positive amounts it maps. -/
theorem entry_positive {usage : AmountInputs} {used : Amounts}
    (success : amounts usage false = .ok used) {item : String × Decimal}
    (member : item ∈ used.entries) : 0 < item.2.toRat :=
  (amounts_nonneg success item.1 item.2 (Dict.mem_entries.mp member)).2 rfl

/-! ## The loops over requested amounts -/

namespace ReservationBook

/-- The maps of a cut have the given keys, are non-negative and add up to
`total`. -/
structure Cut.Splits (cut : Cut) (keys : List String) (total : String → ℚ) : Prop where
  remainingKeys : cut.remaining.keys = keys
  consumedKeys : cut.consumed.keys = keys
  remainingNonneg : ∀ resource, 0 ≤ amount cut.remaining resource
  consumedNonneg : ∀ resource, 0 ≤ amount cut.consumed resource
  balanced : ∀ resource,
    amount cut.remaining resource + amount cut.consumed resource = total resource

/-- Moving a bounded amount between the two maps of one resource keeps the
split. -/
theorem Cut.Splits.transfer {cut : Cut} {keys : List String} {total : String → ℚ}
    (splits : cut.Splits keys total) {resource : String} {remaining consumed : Decimal}
    (present : resource ∈ keys) (remainingNonneg : 0 ≤ remaining.toRat)
    (consumedNonneg : 0 ≤ consumed.toRat)
    (conserved : remaining.toRat + consumed.toRat =
      amount cut.remaining resource + amount cut.consumed resource) :
    Cut.Splits ⟨cut.remaining.set resource remaining, cut.consumed.set resource consumed⟩
      keys total where
  remainingKeys := by
    rw [← splits.remainingKeys] at present ⊢
    exact Dict.keys_set_of_mem present remaining
  consumedKeys := by
    rw [← splits.consumedKeys] at present ⊢
    exact Dict.keys_set_of_mem present consumed
  remainingNonneg other := by
    rw [amount_set]
    split
    · exact remainingNonneg
    · exact splits.remainingNonneg other
  consumedNonneg other := by
    rw [amount_set]
    split
    · exact consumedNonneg
    · exact splits.consumedNonneg other
  balanced other := by
    rw [amount_set, amount_set]
    split
    next same =>
      subst same
      rw [conserved, splits.balanced]
    next => exact splits.balanced other

theorem withinAuthority_eq_ok {message : String} {α : Type}
    {computation : Except ExactDecimalError α} {result : α} :
    withinAuthority message computation = .ok result ↔ computation = .ok result :=
  mapError_eq_ok

theorem consumeAmount_eq_ok {before after : Cut} {item : String × Decimal}
    (success : consumeAmount before item = .ok after) :
    ∃ remaining consumed, item.1 ∈ before.remaining.keys ∧
      item.2.toRat ≤ amount before.remaining item.1 ∧
      remaining.toRat = amount before.remaining item.1 - item.2.toRat ∧
      consumed.toRat = amount before.consumed item.1 + item.2.toRat ∧
      after = ⟨before.remaining.set item.1 remaining,
        before.consumed.set item.1 consumed⟩ := by
  obtain ⟨resource, used⟩ := item
  simp only [consumeAmount] at success
  split at success
  · cases success
  next left leftFound =>
    rw [guard_eq_ok, bind_eq_ok] at success
    obtain ⟨covered, remaining, subtracted, rest⟩ := success
    rw [withinAuthority_eq_ok, exactSubtract_eq_ok] at subtracted
    split at rest
    · cases rest
    next already alreadyFound =>
      rw [bind_eq_ok] at rest
      obtain ⟨consumed, added, equal⟩ := rest
      rw [withinAuthority_eq_ok, exactAdd_eq_ok] at added
      rw [pure_eq_ok] at equal
      rw [Decimal.lt_def, not_lt] at covered
      rw [← amount_of_get? leftFound] at covered subtracted
      rw [← amount_of_get? alreadyFound] at added
      exact ⟨remaining, consumed, Dict.mem_keys.mpr ⟨left, leftFound⟩, covered,
        subtracted, added, equal.symm⟩

/-- The consumption loop keeps the split of the original amounts. -/
theorem consumeLoop_splits {usage : AmountInputs} {used : Amounts} {before after : Cut}
    {keys : List String} {total : String → ℚ} (request : amounts usage false = .ok used)
    (splits : before.Splits keys total)
    (success : used.entries.foldlM consumeAmount before = .ok after) :
    after.Splits keys total := by
  refine foldlM_invariant (fun cut => Cut.Splits cut keys total) ?_ splits success
  intro item member cut next holds step
  obtain ⟨remaining, consumed, present, covered, subtracted, added, rfl⟩ :=
    consumeAmount_eq_ok step
  have positive := entry_positive request member
  have consumedNonneg := holds.consumedNonneg item.1
  rw [holds.remainingKeys] at present
  apply holds.transfer present
  · linarith
  · linarith
  · linarith

theorem restoreAmount_eq_ok {original : Amounts} {canceled : Bool} {before after : Cut}
    {item : String × Decimal}
    (success : restoreAmount original canceled before item = .ok after) :
    ∃ remaining consumed, item.1 ∈ before.consumed.keys ∧
      item.2.toRat ≤ amount before.consumed item.1 ∧
      remaining.toRat = amount before.remaining item.1 +
        (if canceled then 0 else item.2.toRat) ∧
      consumed.toRat = amount before.consumed item.1 - item.2.toRat ∧
      after = ⟨before.remaining.set item.1 remaining,
        before.consumed.set item.1 consumed⟩ := by
  obtain ⟨resource, restored⟩ := item
  simp only [restoreAmount] at success
  split at success
  next already limit alreadyFound limitFound =>
    rw [guard_eq_ok, bind_eq_ok] at success
    obtain ⟨covered, consumed, subtracted, rest⟩ := success
    rw [withinAuthority_eq_ok, exactSubtract_eq_ok] at subtracted
    split at rest
    · cases rest
    next left leftFound =>
      rw [bind_eq_ok] at rest
      obtain ⟨remaining, added, equal⟩ := rest
      rw [guard_eq_ok, pure_eq_ok] at equal
      have next : remaining.toRat =
          amount before.remaining resource + (if canceled then 0 else restored.toRat) := by
        rw [amount_of_get? leftFound]
        cases canceled with
        | false =>
            simp only [restoredRemaining, Bool.false_eq_true, if_false] at added ⊢
            rwa [withinAuthority_eq_ok, exactAdd_eq_ok] at added
        | true =>
            simp only [restoredRemaining, if_true, Except.ok.injEq] at added ⊢
            rw [added, add_zero]
      rw [Decimal.lt_def, not_lt] at covered
      rw [← amount_of_get? alreadyFound] at covered subtracted
      exact ⟨remaining, consumed, Dict.mem_keys.mpr ⟨already, alreadyFound⟩, covered,
        next, subtracted, equal.2.symm⟩
  · cases success

/-- Restoring a held reservation keeps the split of the original amounts. -/
theorem restoreLoop_splits {usage : AmountInputs} {restored original : Amounts}
    {before after : Cut} {keys : List String} {total : String → ℚ}
    (request : amounts usage false = .ok restored) (splits : before.Splits keys total)
    (success : restored.entries.foldlM (restoreAmount original false) before = .ok after) :
    after.Splits keys total := by
  refine foldlM_invariant (fun cut => Cut.Splits cut keys total) ?_ splits success
  intro item member cut next holds step
  obtain ⟨remaining, consumed, present, covered, added, subtracted, rfl⟩ :=
    restoreAmount_eq_ok step
  have positive := entry_positive request member
  have remainingNonneg := holds.remainingNonneg item.1
  rw [holds.consumedKeys] at present
  simp only [Bool.false_eq_true, if_false] at added
  apply holds.transfer present
  · linarith
  · linarith
  · linarith

/-- What restoring a terminal reservation keeps: the consumed map has the same
keys and stays between zero and its bound, and a canceled reservation keeps its
remainder. -/
structure Cut.Reduces (canceled : Bool) (before after : Cut) : Prop where
  remainingKeys : before.remaining.keys = before.consumed.keys →
    after.remaining.keys = before.remaining.keys
  consumedKeys : after.consumed.keys = before.consumed.keys
  consumedNonneg : ∀ resource, 0 ≤ amount after.consumed resource
  consumedLe : ∀ resource, amount after.consumed resource ≤ amount before.consumed resource
  remainingKept : canceled = true → ∀ resource,
    amount after.remaining resource = amount before.remaining resource

theorem restoreLoop_reduces {usage : AmountInputs} {restored original : Amounts}
    {canceled : Bool} {before after : Cut} (request : amounts usage false = .ok restored)
    (nonneg : ∀ resource, 0 ≤ amount before.consumed resource)
    (success : restored.entries.foldlM (restoreAmount original canceled) before = .ok after) :
    Cut.Reduces canceled before after := by
  refine foldlM_invariant (fun cut => Cut.Reduces canceled before cut) ?_
    ⟨fun _ => rfl, rfl, nonneg, fun _ => le_refl _, fun _ _ => rfl⟩ success
  intro item member cut next holds step
  obtain ⟨remaining, consumed, present, covered, added, subtracted, rfl⟩ :=
    restoreAmount_eq_ok step
  have positive := entry_positive request member
  constructor
  · intro sameKeys
    rw [← holds.remainingKeys sameKeys]
    apply Dict.keys_set_of_mem
    rwa [holds.remainingKeys sameKeys, sameKeys, ← holds.consumedKeys]
  · rw [← holds.consumedKeys]
    exact Dict.keys_set_of_mem present consumed
  · intro resource
    rw [amount_set]
    split
    · linarith
    · exact holds.consumedNonneg resource
  · intro resource
    rw [amount_set]
    split
    next same =>
      subst same
      linarith [holds.consumedLe item.1]
    next => exact holds.consumedLe resource
  · intro isCanceled resource
    rw [amount_set]
    split
    next same =>
      subst same
      rw [added, isCanceled, if_pos rfl, add_zero]
      exact holds.remainingKept isCanceled item.1
    next => exact holds.remainingKept isCanceled resource

theorem rebuildAmount_eq_ok {consumed : Amounts} {resource : String}
    {original rebuilt : Decimal}
    (success : rebuildAmount consumed resource original = .ok rebuilt) :
    rebuilt.toRat = original.toRat - amount consumed resource ∧ 0 ≤ rebuilt.toRat := by
  simp only [rebuildAmount] at success
  split at success
  · cases success
  next used found =>
    rw [bind_eq_ok] at success
    obtain ⟨value, subtracted, rest⟩ := success
    rw [withinAuthority_eq_ok, exactSubtract_eq_ok] at subtracted
    rw [guard_eq_ok, pure_eq_ok] at rest
    obtain ⟨nonneg, rfl⟩ := rest
    rw [Decimal.lt_def, not_lt] at nonneg
    rw [amount_of_get? found]
    exact ⟨subtracted, nonneg⟩

end ReservationBook

/-! ## Conserved records -/

/-- The conservation law of one record. -/
structure Conserved (record : ReservationSnapshot) : Prop where
  remainingKeys : record.remaining.keys = record.original.keys
  consumedKeys : record.consumed.keys = record.original.keys
  originalNonneg : ∀ resource, 0 ≤ amount record.original resource
  remainingNonneg : ∀ resource, 0 ≤ amount record.remaining resource
  consumedNonneg : ∀ resource, 0 ≤ amount record.consumed resource
  held : record.state.held = true → ∀ resource,
    amount record.remaining resource + amount record.consumed resource =
      amount record.original resource
  terminal : record.state.terminal = true → ∀ resource,
    amount record.remaining resource = 0 ∧
      amount record.consumed resource ≤ amount record.original resource
  voided : record.state = .rejected ∨ record.state = .provenAbsent → ∀ resource,
    amount record.consumed resource = 0

namespace Conserved

variable {record : ReservationSnapshot}

theorem splits (conserved : Conserved record) (held : record.state.held = true) :
    ReservationBook.Cut.Splits ⟨record.remaining, record.consumed⟩ record.original.keys
      (amount record.original) :=
  ⟨conserved.remainingKeys, conserved.consumedKeys, conserved.remainingNonneg,
    conserved.consumedNonneg, conserved.held held⟩

/-- A record never consumed more than its original amounts. -/
theorem consumedLe (conserved : Conserved record) (resource : String) :
    amount record.consumed resource ≤ amount record.original resource := by
  cases terminal : record.state.terminal with
  | true => exact (conserved.terminal terminal resource).2
  | false =>
      have held : record.state.held = true := by
        rw [ReservationState.held_eq_not_terminal, terminal]
        rfl
      linarith [conserved.held held resource, conserved.remainingNonneg resource]

/-- A held record with a new split of its original amounts. -/
theorem ofSplits {remaining consumed : Amounts} (conserved : Conserved record)
    (held : record.state.held = true)
    (splits : ReservationBook.Cut.Splits ⟨remaining, consumed⟩ record.original.keys
      (amount record.original)) :
    Conserved { record with remaining := remaining, consumed := consumed } where
  remainingKeys := splits.remainingKeys
  consumedKeys := splits.consumedKeys
  originalNonneg := conserved.originalNonneg
  remainingNonneg := splits.remainingNonneg
  consumedNonneg := splits.consumedNonneg
  held _ := splits.balanced
  terminal isTerminal := by
    rw [ReservationState.held_eq_not_terminal] at held
    simp_all
  voided isVoid := by
    rcases isVoid with state | state
    · simp_all [ReservationState.held]
    · simp_all [ReservationState.held]

/-- Terminalisation releases the remainder and keeps bounded consumption. -/
theorem ofTerminal {consumed : Amounts} {state : ReservationState}
    {evidence : Option String} (conserved : Conserved record)
    (consumedKeys : consumed.keys = record.original.keys)
    (nonneg : ∀ resource, 0 ≤ amount consumed resource)
    (bounded : ∀ resource, amount consumed resource ≤ amount record.original resource)
    (isTerminal : state.terminal = true)
    (voided : state = .rejected ∨ state = .provenAbsent →
      ∀ resource, amount consumed resource = 0) :
    Conserved { record with
      remaining := zeroed record.remaining
      consumed := consumed
      state := state
      resolutionEvidence := evidence } where
  remainingKeys := by rw [keys_zeroed, conserved.remainingKeys]
  consumedKeys := consumedKeys
  originalNonneg := conserved.originalNonneg
  remainingNonneg resource := by rw [amount_zeroed]
  consumedNonneg := nonneg
  held isHeld := by
    rw [ReservationState.held_eq_not_terminal, isTerminal] at isHeld
    cases isHeld
  terminal _ resource := ⟨amount_zeroed _ _, bounded resource⟩
  voided := voided

/-- A bust of a filled reservation rebuilds every remainder from the original
and what is still consumed. -/
theorem ofRebuilt {rebuilt consumed : Amounts} (conserved : Conserved record)
    (consumedKeys : consumed.keys = record.original.keys)
    (nonneg : ∀ resource, 0 ≤ amount consumed resource)
    (success : record.original.traverse (ReservationBook.rebuildAmount consumed) =
      .ok rebuilt) :
    Conserved { record with
      remaining := rebuilt
      consumed := consumed
      state := .bustedPendingReconciliation
      resolutionEvidence := none } := by
  have keys := Dict.keys_traverse success
  have value : ∀ resource,
      amount rebuilt resource = amount record.original resource - amount consumed resource ∧
        0 ≤ amount rebuilt resource := by
    intro resource
    cases found : rebuilt.get? resource with
    | none =>
        have absent : resource ∉ rebuilt.keys := Dict.get?_eq_none.mp found
        have notOriginal : resource ∉ record.original.keys := keys ▸ absent
        have notConsumed : resource ∉ consumed.keys := by rwa [consumedKeys]
        rw [amount_of_not_mem absent, amount_of_not_mem notOriginal,
          amount_of_not_mem notConsumed]
        simp
    | some image =>
        obtain ⟨original, originalFound, rebuiltOk⟩ := Dict.get?_traverse success found
        rw [amount_of_get? found, amount_of_get? originalFound]
        exact ReservationBook.rebuildAmount_eq_ok rebuiltOk
  exact {
    remainingKeys := keys
    consumedKeys := consumedKeys
    originalNonneg := conserved.originalNonneg
    remainingNonneg := fun resource => (value resource).2
    consumedNonneg := nonneg
    held := fun _ resource => by
      have rebuiltValue := (value resource).1
      simp only [rebuiltValue]
      ring
    terminal := by simp [ReservationState.terminal]
    voided := by simp }

/-- A bust after cancellation reduces consumption and restores nothing. -/
theorem ofCanceled {after : ReservationBook.Cut} (conserved : Conserved record)
    (canceled : record.state = .canceled)
    (reduces : ReservationBook.Cut.Reduces true ⟨record.remaining, record.consumed⟩ after) :
    Conserved { record with remaining := after.remaining, consumed := after.consumed } := by
  have sameKeys : record.remaining.keys = record.consumed.keys := by
    rw [conserved.remainingKeys, conserved.consumedKeys]
  have isTerminal : record.state.terminal = true := by
    rw [canceled]
    rfl
  have released : ∀ resource, amount after.remaining resource = 0 := fun resource => by
    rw [reduces.remainingKept rfl resource]
    exact (conserved.terminal isTerminal resource).1
  exact {
    remainingKeys := (reduces.remainingKeys sameKeys).trans conserved.remainingKeys
    consumedKeys := reduces.consumedKeys.trans conserved.consumedKeys
    originalNonneg := conserved.originalNonneg
    remainingNonneg := fun resource => by simp only [released, le_refl]
    consumedNonneg := reduces.consumedNonneg
    held := by simp [canceled, ReservationState.held]
    terminal := fun _ resource =>
      ⟨released resource,
        le_trans (reduces.consumedLe resource) (conserved.consumedLe resource)⟩
    voided := by simp [canceled] }

/-- A newly admitted record holds everything it asked for. -/
theorem admitted {reservationId intentId : String} {needed : Amounts}
    (nonneg : ∀ resource, 0 ≤ amount needed resource) :
    Conserved (ReservationBook.admitted reservationId intentId needed) where
  remainingKeys := rfl
  consumedKeys := keys_zeroed needed
  originalNonneg := nonneg
  remainingNonneg := nonneg
  consumedNonneg resource := by simp [ReservationBook.admitted]
  held _ resource := by simp [ReservationBook.admitted]
  terminal := by simp [ReservationBook.admitted, ReservationState.terminal]
  voided := by simp [ReservationBook.admitted]

end Conserved

/-! ## What a call can do -/

namespace ReservationBook

/-- `next` replaces one record of `book` by a record of the same identity that
is conserved when the old one is. -/
def Rewrites (book next : ReservationBook) : Prop :=
  ∃ key current updated, next = (book.commit updated).1 ∧
    book.records.get? key = some current ∧
    updated.reservationId = current.reservationId ∧
    updated.intentId = current.intentId ∧
    (Conserved current → Conserved updated)

/-- `next` adds one admitted record under a new reservation and intent. -/
def Admits (book next : ReservationBook) : Prop :=
  ∃ record, book.records.get? record.reservationId = none ∧
    (∀ other ∈ book.records.values, other.intentId ≠ record.intentId) ∧
    Conserved record ∧ next = (book.commit record).1

theorem getRecord_eq_ok {book : ReservationBook} {reservationId : String}
    {record : ReservationSnapshot} (success : book.getRecord reservationId = .ok record) :
    ∃ key, book.records.get? key = some record := by
  rw [getRecord, bind_eq_ok] at success
  obtain ⟨key, -, rest⟩ := success
  split at rest
  · cases rest
  next found =>
    rw [pure_eq_ok] at rest
    exact ⟨key, rest ▸ found⟩

theorem reserve_cases {book next : ReservationBook} {reservationId intentId : String}
    {requirements available : AmountInputs} {snapshot : ReservationSnapshot}
    (success : book.reserve reservationId intentId requirements available =
      .ok (next, snapshot)) :
    next = book ∨ Admits book next := by
  simp only [reserve, bind_eq_ok] at success
  obtain ⟨rid, -, iid, -, needed, request, availability, -, rest⟩ := success
  split at rest
  next existing found =>
    rw [guard_eq_ok, pure_eq_ok] at rest
    cases rest.2
    exact .inl rfl
  next fresh =>
    rw [guard_eq_ok, bind_eq_ok] at rest
    obtain ⟨noIntent, _, -, equal⟩ := rest
    rw [pure_eq_ok] at equal
    cases equal
    refine .inr ⟨admitted rid iid needed, fresh, ?_, ?_, rfl⟩
    · intro other member same
      apply noIntent
      rw [List.any_eq_true]
      exact ⟨other, member, decide_eq_true same⟩
    · exact Conserved.admitted (amount_nonneg request)

theorem consume_cases {book next : ReservationBook} {reservationId : String}
    {usage : AmountInputs} {snapshot : ReservationSnapshot}
    (success : book.consume reservationId usage = .ok (next, snapshot)) :
    Rewrites book next := by
  rw [consume, bind_eq_ok] at success
  obtain ⟨current, found, rest⟩ := success
  simp only [guard_eq_ok, bind_eq_ok] at rest
  obtain ⟨isHeld, used, request, cut, loop, equal⟩ := rest
  rw [pure_eq_ok] at equal
  obtain ⟨key, stored⟩ := getRecord_eq_ok found
  refine ⟨key, current, _, congrArg Prod.fst equal.symm, stored, rfl, rfl,
    fun conserved => ?_⟩
  have held : current.state.held = true := by simpa using isHeld
  exact conserved.ofSplits held (consumeLoop_splits request (conserved.splits held) loop)

theorem consumeAndMarkFilled_cases {book next : ReservationBook} {reservationId : String}
    {usage : AmountInputs} {evidence : String} {snapshot : ReservationSnapshot}
    (success : book.consumeAndMarkFilled reservationId usage evidence =
      .ok (next, snapshot)) :
    Rewrites book next := by
  rw [consumeAndMarkFilled, bind_eq_ok] at success
  obtain ⟨current, found, rest⟩ := success
  simp only [guard_eq_ok, bind_eq_ok] at rest
  obtain ⟨isHeld, proof, -, used, request, cut, loop, equal⟩ := rest
  rw [pure_eq_ok] at equal
  obtain ⟨key, stored⟩ := getRecord_eq_ok found
  refine ⟨key, current, _, congrArg Prod.fst equal.symm, stored, rfl, rfl,
    fun conserved => ?_⟩
  have held : current.state.held = true := by simpa using isHeld
  have splits := consumeLoop_splits request (conserved.splits held) loop
  apply conserved.ofTerminal splits.consumedKeys splits.consumedNonneg
  · intro resource
    linarith [splits.balanced resource, splits.remainingNonneg resource]
  · rfl
  · simp

theorem restoreConsumption_cases {book next : ReservationBook} {reservationId : String}
    {usage : AmountInputs} {snapshot : ReservationSnapshot}
    (success : book.restoreConsumption reservationId usage = .ok (next, snapshot)) :
    Rewrites book next := by
  rw [restoreConsumption, bind_eq_ok] at success
  obtain ⟨current, found, rest⟩ := success
  simp only [guard_eq_ok, bind_eq_ok] at rest
  obtain ⟨restorable, restored, request, cut, loop, tail⟩ := rest
  obtain ⟨key, stored⟩ := getRecord_eq_ok found
  split at tail
  next filled =>
    rw [bind_eq_ok] at tail
    obtain ⟨rebuilt, rebuiltOk, equal⟩ := tail
    rw [pure_eq_ok] at equal
    refine ⟨key, current, _, congrArg Prod.fst equal.symm, stored, rfl, rfl,
      fun conserved => ?_⟩
    have reduces : Cut.Reduces _ ⟨current.remaining, current.consumed⟩ cut :=
      restoreLoop_reduces request conserved.consumedNonneg loop
    exact conserved.ofRebuilt (reduces.consumedKeys.trans conserved.consumedKeys)
      reduces.consumedNonneg rebuiltOk
  next notFilled =>
    rw [pure_eq_ok] at tail
    refine ⟨key, current, _, congrArg Prod.fst tail.symm, stored, rfl, rfl,
      fun conserved => ?_⟩
    by_cases canceled : current.state = .canceled
    · simp only [canceled, decide_true] at loop
      exact conserved.ofCanceled canceled
        (restoreLoop_reduces request conserved.consumedNonneg loop)
    · have held : current.state.held = true := by
        by_contra notHeld
        exact restorable ⟨by simpa using notHeld, notFilled, canceled⟩
      simp only [canceled, decide_false] at loop
      exact conserved.ofSplits held (restoreLoop_splits request (conserved.splits held) loop)

theorem markUnknown_cases {book next : ReservationBook} {reservationId : String}
    {snapshot : ReservationSnapshot}
    (success : book.markUnknown reservationId = .ok (next, snapshot)) :
    next = book ∨ Rewrites book next := by
  rw [markUnknown, bind_eq_ok] at success
  obtain ⟨current, found, rest⟩ := success
  simp only [guard_eq_ok] at rest
  obtain ⟨notTerminal, notBusted, tail⟩ := rest
  split at tail
  next =>
    rw [pure_eq_ok] at tail
    cases tail
    exact .inl rfl
  next =>
    rw [pure_eq_ok] at tail
    obtain ⟨key, stored⟩ := getRecord_eq_ok found
    refine .inr ⟨key, current, _, congrArg Prod.fst tail.symm, stored, rfl, rfl,
      fun conserved => ?_⟩
    have held : current.state.held = true := by
      rw [ReservationState.held_eq_not_terminal]
      simpa using notTerminal
    exact { conserved with
      held := fun _ => conserved.held held
      terminal := by simp [ReservationState.terminal]
      voided := by simp }

theorem amount_eq_zero_of_all {values : Amounts}
    (none : (values.values.any fun value => value ≠ 0) = false) (resource : String) :
    amount values resource = 0 := by
  cases found : values.get? resource with
  | none => simp [amount, amountOf, found]
  | some value =>
      rw [amount_of_get? found, Decimal.toRat_eq_zero]
      by_contra nonzero
      have any : (values.values.any fun value => value ≠ 0) = true := by
        rw [List.any_eq_true]
        exact ⟨value, Dict.mem_values.mpr ⟨resource, found⟩, decide_eq_true nonzero⟩
      rw [none] at any
      cases any

theorem markTerminal_cases [CaseMap] {book next : ReservationBook}
    {reservationId outcome evidence : String} {snapshot : ReservationSnapshot}
    (success : book.markTerminal reservationId outcome evidence = .ok (next, snapshot)) :
    next = book ∨ Rewrites book next := by
  simp only [markTerminal, bind_eq_ok] at success
  obtain ⟨current, found, name, -, rest⟩ := success
  split at rest
  · cases rest
  next state named =>
    rw [bind_eq_ok] at rest
    obtain ⟨proof, -, tail⟩ := rest
    rw [guard_eq_ok] at tail
    obtain ⟨mayVoid, tail⟩ := tail
    split at tail
    next =>
      rw [guard_eq_ok, pure_eq_ok] at tail
      cases tail.2
      exact .inl rfl
    next notTerminal =>
      rw [pure_eq_ok] at tail
      obtain ⟨key, stored⟩ := getRecord_eq_ok found
      refine .inr ⟨key, current, _, congrArg Prod.fst tail.symm, stored, rfl, rfl,
        fun conserved => ?_⟩
      apply conserved.ofTerminal conserved.consumedKeys conserved.consumedNonneg
        conserved.consumedLe (ReservationState.terminal_of_ofTerminalName named)
      intro isVoid
      apply amount_eq_zero_of_all
      rw [← Bool.not_eq_true]
      exact fun consumed => mayVoid ⟨isVoid, consumed⟩

/-- A call that returns leaves the book, admits one record or rewrites one. -/
theorem call_cases [CaseMap] {book next : ReservationBook} {invocation : Call}
    {snapshot : ReservationSnapshot} (success : book.call invocation = .ok (next, snapshot)) :
    next = book ∨ Admits book next ∨ Rewrites book next := by
  cases invocation with
  | reserve reservationId intentId requirements available =>
      rcases reserve_cases success with same | admits
      · exact .inl same
      · exact .inr (.inl admits)
  | reserveFromCapital reservationId intentId requirements capital =>
      simp only [call, reserveFromCapital, guard_eq_ok] at success
      rcases reserve_cases success.2 with same | admits
      · exact .inl same
      · exact .inr (.inl admits)
  | consume reservationId usage => exact .inr (.inr (consume_cases success))
  | consumeAndMarkFilled reservationId usage evidence =>
      exact .inr (.inr (consumeAndMarkFilled_cases success))
  | restoreConsumption reservationId usage =>
      exact .inr (.inr (restoreConsumption_cases success))
  | markUnknown reservationId =>
      rcases markUnknown_cases success with same | rewrites
      · exact .inl same
      · exact .inr (.inr rewrites)
  | markTerminal reservationId outcome evidence =>
      rcases markTerminal_cases success with same | rewrites
      · exact .inl same
      · exact .inr (.inr rewrites)

/-! ## Every reachable book -/

/-- Records are stored under their identity, conserve their amounts and have
distinct intents. -/
structure Conserving (book : ReservationBook) : Prop where
  keyed : ∀ key record, book.records.get? key = some record → record.reservationId = key
  conserved : ∀ key record, book.records.get? key = some record → Conserved record
  intents : ∀ key other record otherRecord, book.records.get? key = some record →
    book.records.get? other = some otherRecord →
    record.intentId = otherRecord.intentId → key = other

theorem conserving_empty : Conserving empty := by
  constructor <;> simp [empty]

theorem Conserving.admits {book next : ReservationBook} (conserving : Conserving book)
    (admits : Admits book next) : Conserving next := by
  obtain ⟨record, fresh, newIntent, conserved, rfl⟩ := admits
  constructor
  · intro key stored found
    simp only [commit, Dict.get?_set] at found
    split at found
    next same =>
      cases found
      exact same
    next => exact conserving.keyed key stored found
  · intro key stored found
    simp only [commit, Dict.get?_set] at found
    split at found
    next =>
      cases found
      exact conserved
    next => exact conserving.conserved key stored found
  · intro key other stored otherStored found otherFound same
    simp only [commit, Dict.get?_set] at found otherFound
    split at found
    next keyEq =>
      cases found
      split at otherFound
      next otherEq => rw [← keyEq, ← otherEq]
      next =>
        exact absurd same.symm
          (newIntent otherStored (Dict.mem_values.mpr ⟨other, otherFound⟩))
    next =>
      split at otherFound
      next =>
        cases otherFound
        exact absurd same (newIntent stored (Dict.mem_values.mpr ⟨key, found⟩))
      next => exact conserving.intents key other stored otherStored found otherFound same

theorem Conserving.rewrites {book next : ReservationBook} (conserving : Conserving book)
    (rewrites : Rewrites book next) : Conserving next := by
  obtain ⟨place, current, updated, rfl, stored, sameId, sameIntent, keeps⟩ := rewrites
  have placeEq : updated.reservationId = place := by
    rw [sameId, conserving.keyed place current stored]
  -- the rewritten record answers for the one it replaces under every key
  have lookup : ∀ key record, (book.commit updated).1.records.get? key = some record →
      ∃ old, book.records.get? key = some old ∧ record.intentId = old.intentId ∧
        (Conserved old → Conserved record) ∧ record.reservationId = old.reservationId := by
    intro key record found
    simp only [commit, Dict.get?_set, placeEq] at found
    split at found
    next same =>
      cases found
      exact ⟨current, same ▸ stored, sameIntent, keeps, sameId⟩
    next => exact ⟨record, found, rfl, id, rfl⟩
  constructor
  · intro key record found
    obtain ⟨old, oldFound, -, -, identity⟩ := lookup key record found
    rw [identity, conserving.keyed key old oldFound]
  · intro key record found
    obtain ⟨old, oldFound, -, kept, -⟩ := lookup key record found
    exact kept (conserving.conserved key old oldFound)
  · intro key other record otherRecord found otherFound same
    obtain ⟨old, oldFound, intent, -, -⟩ := lookup key record found
    obtain ⟨otherOld, otherOldFound, otherIntent, -, -⟩ := lookup other otherRecord otherFound
    exact conserving.intents key other old otherOld oldFound otherOldFound
      (by rw [← intent, ← otherIntent, same])

/-- One call, raising or not, keeps every conservation law. -/
theorem Conserving.step [CaseMap] {book : ReservationBook} (conserving : Conserving book)
    (invocation : Call) : Conserving (book.step invocation) := by
  simp only [ReservationBook.step]
  split
  next next snapshot success =>
    rcases call_cases success with same | admits | rewrites
    · rw [same]
      exact conserving
    · exact conserving.admits admits
    · exact conserving.rewrites rewrites
  next => exact conserving

theorem conserving_run [CaseMap] (calls : List Call) : Conserving (run calls) :=
  List.foldlRecOn calls ReservationBook.step conserving_empty
    fun _ conserving invocation _ => conserving.step invocation

/-- Records under different keys have different intents. -/
theorem Conserving.nodup_intents {book : ReservationBook} (conserving : Conserving book) :
    (book.records.values.map ReservationSnapshot.intentId).Nodup := by
  have entries : book.records.entries.Nodup := List.Nodup.of_map Prod.fst book.records.nodup
  rw [Dict.values, List.map_map]
  refine entries.map_on ?_
  rintro ⟨key, record⟩ member ⟨other, otherRecord⟩ otherMember same
  have found := Dict.mem_entries.mp member
  have otherFound := Dict.mem_entries.mp otherMember
  have keyEq := conserving.intents key other record otherRecord found otherFound same
  subst keyEq
  rw [found] at otherFound
  cases otherFound
  rfl

/-- After any calls, raising calls included, every record conserves its amounts
and no two records share an intent. -/
theorem run_conserves [CaseMap] (calls : List Call) :
    (∀ record ∈ (run calls).records.values, Conserved record) ∧
      ((run calls).records.values.map ReservationSnapshot.intentId).Nodup := by
  have conserving := conserving_run calls
  refine ⟨?_, conserving.nodup_intents⟩
  intro record member
  obtain ⟨key, found⟩ := Dict.mem_values.mp member
  exact conserving.conserved key record found

end ReservationBook

end AutoTrade.Reservation
