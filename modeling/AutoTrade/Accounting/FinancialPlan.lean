import AutoTrade.Accounting.Payload
import AutoTrade.Accounting.SingleBooking
import AutoTrade.Numeric.Exactness
import AutoTrade.Reservation.Book

/-!
# Financial plan of a provider fill

The executable model of `build_provider_fill_financial_plan`: the transaction that
books a buy, the reserved cash that it uses, and their digests.  The usage is built
by hand from the amounts of the fill; what the postings take out of the cash accounts
never exceeds it.
-/

namespace AutoTrade.Reservation

open Lib Numeric

/-! ## The digest of a reservation -/

/-- The name of a state. -/
def ReservationState.name : ReservationState → String
  | .working => "WORKING"
  | .unknown => "UNKNOWN"
  | .bustedPendingReconciliation => "BUSTED_PENDING_RECONCILIATION"
  | .filled => "FILLED"
  | .canceled => "CANCELED"
  | .rejected => "REJECTED"
  | .provenAbsent => "PROVEN_ABSENT"

/-- `_decimal_text`. -/
def decimalText (value : Decimal) : Except ReservationError String :=
  value.canonicalText.mapError fun _ =>
    .valueError "reservation decimal exceeds exact decimal authority"

/-- One amount mapping of `_snapshot_payload`, by resource. -/
def amountsPayload (amounts : Amounts) : Except ReservationError (Json Unit) := do
  let entries ← (amounts.entries.insertionSort (·.1 ≤ ·.1)).mapM fun entry => do
    let text ← decimalText entry.2
    pure (entry.1, Json.str text)
  pure (.obj entries)

/-- `_snapshot_payload`. -/
def snapshotPayload (snapshot : ReservationSnapshot) : Except ReservationError (Json Unit) := do
  let original ← amountsPayload snapshot.original
  let remaining ← amountsPayload snapshot.remaining
  let consumed ← amountsPayload snapshot.consumed
  pure (.obj [("reservation_id", .str snapshot.reservationId),
    ("intent_id", .str snapshot.intentId), ("original", original), ("remaining", remaining),
    ("consumed", consumed), ("state", .str snapshot.state.name),
    ("resolution_evidence", Accounting.optionalJson snapshot.resolutionEvidence)])

/-- `reservation_snapshot_digest`. -/
def reservationSnapshotDigest [Fingerprint] (snapshot : ReservationSnapshot) :
    Except ReservationError String :=
  Accounting.jsonDigest <$> snapshotPayload snapshot

end AutoTrade.Reservation

namespace AutoTrade.Accounting

open Lib Numeric
open Reconciliation (ProviderFillEvidence)
open Reservation (Amounts ReservationSnapshot reservationSnapshotDigest)

/-! ## The plan -/

/-- `ProviderFillFinancialPlan`. -/
structure ProviderFillFinancialPlan where
  reservationId : String
  intentId : String
  providerExecutionId : String
  reservationCutDigest : String
  transaction : JournalTransaction
  usageItems : List (String × Decimal)
  planDigest : String
  distinct : (usageItems.map Prod.fst).Nodup

/-- `usage`. -/
def ProviderFillFinancialPlan.usage (plan : ProviderFillFinancialPlan) : Amounts :=
  ⟨plan.usageItems, plan.distinct⟩

/-- The exact operations of the usage. -/
def usageAmount (computation : Except ExactDecimalError Decimal) :
    Except AccountingError Decimal :=
  computation.mapError fun _ =>
    .conflict "provider fill reservation usage exceeds exact decimal authority"

/-- The usage of a fill in a settlement currency. -/
def fillUsage (settlement : String) (fill : ProviderFillEvidence) :
    Except AccountingError Amounts := do
  let value ← usageAmount (exactMultiply [fill.quantity.value, fill.price.value])
  let usage := (∅ : Amounts).set ("CASH:" ++ settlement) value
  if 0 < fill.feeAmount.value then
    let feeKey := "CASH:" ++ fill.feeCurrency
    let amount ← usageAmount
      (exactAdd ((usage.get? feeKey).getD 0) fill.feeAmount.value)
    pure (usage.set feeKey amount)
  else pure usage

/-- The checks of one resource against the reservation. -/
def checkUsage (original : Amounts) (item : String × Decimal) : Except AccountingError Unit :=
  match original.get? item.1 with
  | none => .error (.conflict s!"provider fill requires unreserved resource {item.1}")
  | some limit =>
      if item.2 ≤ 0 then
        .error (.conflict "provider fill reservation usage must be strictly positive")
      else if limit < item.2 then
        .error (.conflict s!"provider fill usage exceeds admitted reservation for {item.1}")
      else .ok ()

/-- `tuple(sorted(usage.items()))`. -/
def sortedItems (usage : Amounts) : List (String × Decimal) :=
  usage.entries.insertionSort (·.1 ≤ ·.1)

theorem sortedItems_perm (usage : Amounts) : (sortedItems usage).Perm usage.entries :=
  List.perm_insertionSort _ _

theorem sortedItems_distinct (usage : Amounts) : ((sortedItems usage).map Prod.fst).Nodup :=
  ((sortedItems_perm usage).map Prod.fst).nodup_iff.mpr usage.nodup

/-- `derived_usage`. -/
def derivedUsage (items : List (String × Decimal)) : Except AccountingError (Json Unit) := do
  let entries ← items.mapM fun item => do
    let text ← item.2.canonicalText.mapError fun error => .valueError error.message
    pure (item.1, Json.str text)
  pure (.obj entries)

section Plan

variable [CaseMap] [Fingerprint]

/-- The end of `build_provider_fill_financial_plan`: the checked usage with the digests. -/
def sealPlan (fill : ProviderFillEvidence) (snapshot : ReservationSnapshot)
    (transaction : JournalTransaction) (usage : Amounts) :
    Except AccountingError ProviderFillFinancialPlan := do
  let reservationCutDigest ← (reservationSnapshotDigest snapshot).mapError fun _ =>
    .valueError "reservation decimal exceeds exact decimal authority"
  let transactionPayload ← canonicalTransaction transaction.toInput
  let derived ← derivedUsage (sortedItems usage)
  let material :=
    [("schema_version", Json.str "1.1.0"),
      ("provider_id", .str fill.scope.providerId),
      ("account_id", .str fill.scope.accountId),
      ("environment", .str fill.scope.environment.name),
      ("reservation_id", .str snapshot.reservationId),
      ("intent_id", .str snapshot.intentId),
      ("provider_execution_id", .str fill.providerExecutionId),
      ("reservation_cut_digest", .str reservationCutDigest),
      ("transaction", transactionPayload.json),
      ("derived_usage", derived)] ++
    (if fill.scope.providerEnvironment ≠ fill.scope.environment.name then
      [("provider_environment", .str fill.scope.providerEnvironment)] else [])
  pure {
    reservationId := snapshot.reservationId
    intentId := snapshot.intentId
    providerExecutionId := fill.providerExecutionId
    reservationCutDigest
    transaction
    usageItems := sortedItems usage
    planDigest := jsonDigest (.obj material)
    distinct := sortedItems_distinct usage }

/-- `build_provider_fill_financial_plan`. -/
def buildProviderFillFinancialPlan (book : ScopedEconomicBook) (report : FillReport)
    (snapshot : ReservationSnapshot) (assetFamily : String) (observedAt : Option Timestamp) :
    Except AccountingError ProviderFillFinancialPlan := do
  let family ← upper <$> name assetFamily "asset_family"
  if family ≠ "CASH_EQUITY" then
    throw (.conflict
      "provider fill reservation mapping is not qualified for this asset family")
  if snapshot.intentId ≠ report.projected.intentId then
    throw (.conflict "provider fill intent does not match admitted reservation")
  let transaction ← buildProviderFillTransaction book report observedAt
  if report.fill.side ≠ some .buy then
    throw (.conflict "cash-equity reservation consumption is qualified only for BUY fills")
  if report.fill.positionSide ≠ none then
    throw (.conflict "cash-equity reservation consumption rejects derivative position_side")
  let settlement ← upper <$> name report.settlementCurrency "settlement_currency"
  let usage ← fillUsage settlement report.fill
  usage.entries.forM (checkUsage snapshot.original)
  sealPlan report.fill snapshot transaction usage

end Plan

/-! ## The cash of a buy -/

/-- What a transaction adds to the balance of a cash account. -/
def cashChange (postings : List Posting) (currency : String) : ℚ :=
  ((postings.filter fun item => item.ledgerAccount = "CASH:" ++ currency ∧
    item.assetOrCurrency = currency).map fun item => item.signedAmount.toRat).sum

@[simp] theorem cashChange_nil (currency : String) : cashChange [] currency = 0 := rfl

theorem cashChange_cons (item : Posting) (rest : List Posting) (currency : String) :
    cashChange (item :: rest) currency =
      (if item.ledgerAccount = "CASH:" ++ currency ∧ item.assetOrCurrency = currency then
        item.signedAmount.toRat else 0) + cashChange rest currency := by
  by_cases posted : item.ledgerAccount = "CASH:" ++ currency ∧ item.assetOrCurrency = currency
  · simp [cashChange, posted]
  · rw [if_neg posted, zero_add, cashChange, cashChange, List.filter_cons_of_neg]
    simpa using posted

/-- A posting to a cash account in its own currency. -/
theorem cash_posting {unit : String} {amount : Decimal} {item : Posting} {rest : List Posting}
    (success : posting ("CASH:" ++ unit) unit (.bounded amount) = .ok item) (normal : Normal unit)
    (currency : String) : cashChange (item :: rest) currency =
      (if unit = currency then amount.toRat else 0) + cashChange rest currency := by
  obtain ⟨account, asset, signed⟩ := posting_fields success
  have accountNormal : Normal ("CASH:" ++ unit) := normal_append rfl (by decide) normal
  rw [cashChange_cons, account, asset, signed, accountNormal.1, normal.1]
  by_cases same : unit = currency
  · rw [if_pos ⟨by rw [same], same⟩, if_pos same]
  · rw [if_neg fun both => same both.2, if_neg same]

/-- A posting to an account of another kind. -/
theorem other_posting {mark unit : String} {amount : Decimal} {item : Posting}
    {rest : List Posting} {first : Char}
    (success : posting (mark ++ unit) unit (.bounded amount) = .ok item) (normal : Normal unit)
    (start : mark.toList.head? = some first) (kept : isSpace first = false)
    (other : ∀ currency, mark ++ unit ≠ "CASH:" ++ currency) (currency : String) :
    cashChange (item :: rest) currency = cashChange rest currency := by
  obtain ⟨account, -, -⟩ := posting_fields success
  have accountNormal := normal_append start kept normal
  rw [cashChange_cons, account, accountNormal.1, if_neg fun both => other currency both.1, zero_add]

/-- A name whose second letter is not that of a cash account names no cash account. -/
theorem cash_account_ne {mark : String} {second : Char} (letter : mark.toList[1]? = some second)
    (different : second ≠ 'A') (unit currency : String) : mark ++ unit ≠ "CASH:" ++ currency := by
  intro same
  have chars := congrArg (fun text => text.toList[1]?) same
  have long := (List.getElem?_eq_some_iff.mp letter).1
  simp only [String.toList_append] at chars
  rw [List.getElem?_append_left long, letter, List.getElem?_append_left (by decide)] at chars
  exact different (Option.some.inj chars)

/-- The postings of a buy take the value and the fee out of the cash accounts. -/
theorem equityFill_cash {symbol settlement feeCurrency : String} {quantity price fee : Decimal}
    {items : List Posting} (symbolNormal : Normal symbol) (settlementNormal : Normal settlement)
    (feeNormal : Normal feeCurrency)
    (success : equityFillPostings symbol settlement .buy quantity price fee (some feeCurrency) =
      .ok items) (currency : String) :
    cashChange items currency =
      -(if settlement = currency then quantity.toRat * price.toRat else 0) -
        (if feeCurrency = currency then fee.toRat else 0) := by
  have positionOther := @cash_account_ne "POSITION:" 'O' rfl (by decide)
  have clearingOther := @cash_account_ne "CLEARING:" 'L' rfl (by decide)
  have expenseOther := @cash_account_ne "FEE_EXPENSE:" 'E' rfl (by decide)
  simp only [equityFillPostings, pure_bind, bind_eq_ok] at success
  obtain ⟨value, valueEq, cash, cashEq, position, positionEq, negatedQuantity, -, clearing,
    clearingEq, cashItem, cashItemEq, negatedCash, -, cashClearing, cashClearingEq, rest⟩ := success
  have cashAmount : cash.toRat = -(quantity.toRat * price.toRat) := by
    rw [exactNegate_eq_ok.mp cashEq, exactMultiply_pair (mapError_eq_ok.mp valueEq)]
  have trade : ∀ tail, cashChange (position :: clearing :: cashItem :: cashClearing :: tail)
      currency = (if settlement = currency then cash.toRat else 0) + cashChange tail currency := by
    intro tail
    rw [other_posting positionEq symbolNormal rfl (by decide) (positionOther symbol),
      other_posting clearingEq symbolNormal rfl (by decide) (clearingOther symbol),
      cash_posting cashItemEq settlementNormal,
      other_posting cashClearingEq settlementNormal rfl (by decide) (clearingOther settlement)]
  have spent : (if settlement = currency then cash.toRat else 0) =
      -(if settlement = currency then quantity.toRat * price.toRat else 0) := by
    split
    · exact cashAmount
    · exact neg_zero.symm
  by_cases free : fee = 0
  · rw [if_pos free, pure_eq_ok] at rest
    subst rest
    rw [trade, spent, cashChange_nil, free, Decimal.toRat_zero, ite_self]
    ring
  · rw [if_neg free, if_neg feeNormal.2, name_of_normal feeNormal, ok_bind] at rest
    simp only [bind_eq_ok] at rest
    obtain ⟨negatedFee, negatedEq, feeCash, feeCashEq, feeExpense, feeExpenseEq, built⟩ := rest
    cases built
    have charged : (if feeCurrency = currency then negatedFee.toRat else 0) =
        -(if feeCurrency = currency then fee.toRat else 0) := by
      split
      · exact exactNegate_eq_ok.mp negatedEq
      · exact neg_zero.symm
    simp only [List.cons_append, List.nil_append]
    rw [trade, spent, cash_posting feeCashEq feeNormal,
      other_posting feeExpenseEq feeNormal rfl (by decide) (expenseOther feeCurrency), charged,
      cashChange_nil]
    ring

/-! ## The usage of a buy -/

/-- What a usage holds of a resource. -/
def used (usage : Amounts) (resource : String) : ℚ := ((usage.get? resource).getD 0).toRat

/-- The usage holds the value and a positive fee. -/
theorem fillUsage_used {settlement : String} {fill : ProviderFillEvidence} {usage : Amounts}
    (success : fillUsage settlement fill = .ok usage) (currency : String) :
    used usage ("CASH:" ++ currency) =
      (if settlement = currency then fill.quantity.value.toRat * fill.price.value.toRat else 0) +
        (if fill.feeCurrency = currency then max fill.feeAmount.value.toRat 0 else 0) := by
  rw [fillUsage, bind_eq_ok] at success
  obtain ⟨value, valueEq, success⟩ := success
  have valued := exactMultiply_pair (mapError_eq_ok.mp valueEq)
  have first : ∀ other, used ((∅ : Amounts).set ("CASH:" ++ settlement) value) ("CASH:" ++ other) =
      if settlement = other then fill.quantity.value.toRat * fill.price.value.toRat else 0 := by
    intro other
    rw [used, Dict.get?_set, ← valued]
    simp only [String.append_right_inj, Dict.get?_empty]
    split <;> rfl
  by_cases charged : 0 < fill.feeAmount.value
  · rw [if_pos charged, bind_eq_ok] at success
    obtain ⟨amount, amountEq, stored⟩ := success
    cases stored
    have total := exactAdd_eq_ok.mp (mapError_eq_ok.mp amountEq)
    by_cases same : fill.feeCurrency = currency
    · subst same
      have positive : 0 ≤ fill.feeAmount.value.toRat := le_of_lt charged
      rw [used, Dict.get?_set_self, Option.getD_some, total, if_pos rfl, max_eq_left positive]
      exact congrArg (· + fill.feeAmount.value.toRat) (first fill.feeCurrency)
    · rw [used, Dict.get?_set_of_ne, if_neg same, add_zero]
      · exact first currency
      · simpa only [ne_eq, String.append_right_inj] using same
  · rw [if_neg charged, pure_eq_ok] at success
    subst success
    have free : fill.feeAmount.value.toRat ≤ 0 := not_lt.mp charged
    rw [first, max_eq_right free, ite_self, add_zero]

/-- The checked resources are reserved. -/
theorem checkUsage_eq_ok {original : Amounts} {item : String × Decimal}
    (checked : checkUsage original item = .ok ()) :
    ∃ limit, original.get? item.1 = some limit ∧ 0 < item.2 ∧ item.2 ≤ limit := by
  rw [checkUsage] at checked
  split at checked
  · cases checked
  next limit found =>
    rw [guard_eq_ok, guard_eq_ok] at checked
    obtain ⟨positive, within, -⟩ := checked
    exact ⟨limit, found, lt_of_not_ge (α := ℚ) positive, le_of_not_gt (α := ℚ) within⟩

/-! ## The plan and its transaction -/

/-- The sorted items are those of the usage. -/
theorem sealPlan_plan [Fingerprint] {fill : ProviderFillEvidence} {snapshot : ReservationSnapshot}
    {transaction : JournalTransaction} {usage : Amounts} {plan : ProviderFillFinancialPlan}
    (success : sealPlan fill snapshot transaction usage = .ok plan) :
    plan.transaction = transaction ∧ ∀ resource, plan.usage.get? resource = usage.get? resource := by
  simp only [sealPlan, bind_eq_ok, pure_eq_ok] at success
  obtain ⟨_, -, _, -, _, -, rfl⟩ := success
  constructor
  · rfl
  · intro resource
    apply Option.ext
    intro amount
    rw [← Dict.mem_entries, ← Dict.mem_entries]
    exact (sortedItems_perm usage).mem_iff

section Laws

variable [CaseMap]

/-- A member that a normalized text names has a name that the case mapping keeps. -/
theorem optionalMember_upper {α : Type} {value : Option String} {field message : String}
    {members : List α} {memberName : α → String} {member : α}
    (success : Reconciliation.optionalMember value field message members memberName =
      .ok (some member)) : upper (memberName member) = memberName member := by
  cases value with
  | none => cases success
  | some value =>
      rw [Reconciliation.optionalMember, bind_eq_ok] at success
      obtain ⟨normalized, normalizedEq, success⟩ := success
      obtain ⟨raw, -, rfl⟩ := map_eq_ok.mp normalizedEq
      split at success
      next other found =>
        cases success
        have named := List.find?_some found
        rw [decide_eq_true_eq] at named
        rw [named, CaseMap.upper_upper]
      · cases success

/-- The constructor of provider evidence returns the fill. -/
def Constructed [Reconciliation.IsoFormat] (fill : ProviderFillEvidence) : Prop :=
  ∃ scope execution client instrument quantity price fee currency time side positionSide effect
    refs, ProviderFillEvidence.create scope execution client instrument quantity price fee currency
      time side positionSide effect refs = .ok fill

/-- A constructed fill has a normal fee currency, and the case mapping keeps the name
of its side. -/
theorem Constructed.normal [Reconciliation.IsoFormat] {fill : ProviderFillEvidence}
    (constructed : Constructed fill) :
    Normal fill.feeCurrency ∧ ∀ side, fill.side = some side → upper side.name = side.name := by
  obtain ⟨scope, execution, client, instrument, quantity, price, fee, currency, time, side,
    positionSide, effect, refs, created⟩ := constructed
  rw [ProviderFillEvidence.create] at created
  simp only [bind_eq_ok] at created
  obtain ⟨_, -, _, -, _, -, created⟩ := created
  split at created
  · cases created
  rw [bind_eq_ok] at created
  obtain ⟨_, -, created⟩ := created
  split at created
  · cases created
  simp only [bind_eq_ok] at created
  obtain ⟨_, -, _, -, unit, unitEq, member, memberEq, _, -, _, -, _, -, created⟩ := created
  split at created
  · cases created
  cases created
  obtain ⟨raw, rawEq, rfl⟩ := map_eq_ok.mp unitEq
  constructor
  · rw [Reconciliation.text, guard_eq_ok, Except.ok.injEq] at rawEq
    obtain ⟨present, rfl⟩ := rawEq
    exact normal_upper (normal_strip present)
  · intro found same
    dsimp only at same
    subst same
    exact optionalMember_upper memberEq

/-- The postings of a buy, from the arguments of `book_equity_fill`. -/
theorem bookEquityFill_buy {id cause instrument settlement feeCurrency : String}
    {quantity price fee : Decimal} {orderKey corrects : Option String}
    {effectiveAt observedAt : Option Timestamp} {transaction : JournalTransaction}
    (keeps : upper "BUY" = "BUY")
    (success : bookEquityFill id cause instrument settlement "BUY" (.bounded quantity)
      (.bounded price) (.bounded fee) (some feeCurrency) effectiveAt orderKey observedAt corrects =
        .ok transaction) :
    ∃ symbol, Normal symbol ∧ Normal (strip settlement) ∧
      equityFillPostings symbol (strip settlement) .buy quantity price fee (some feeCurrency) =
        .ok transaction.postings := by
  unfold bookEquityFill at success
  rw [bind_eq_ok] at success
  obtain ⟨symbol, symbolEq, success⟩ := success
  rw [bind_eq_ok] at success
  obtain ⟨currency, currencyEq, success⟩ := success
  rw [bind_eq_ok] at success
  obtain ⟨sideText, sideEq, success⟩ := success
  have bought : sideText = "BUY" := by
    rw [name_eq_ok] at sideEq
    rw [← sideEq.2]
    decide
  rw [bought, if_pos keeps] at success
  simp only [pure_bind, decimal_bounded, ok_bind, bind_eq_ok, throw_unless_eq_ok, pure_eq_ok] at success
  obtain ⟨-, postings, built, _, -, _, -, _, -, _, -, _, -, _, -, -, -, rfl⟩ := success
  obtain ⟨symbolPresent, rfl⟩ := name_eq_ok.mp symbolEq
  obtain ⟨currencyPresent, rfl⟩ := name_eq_ok.mp currencyEq
  exact ⟨_, normal_strip symbolPresent, normal_strip currencyPresent, built⟩

/-- The settlement currency of validated evidence. -/
theorem validatedFillEvidence_settlement {book : ScopedEconomicBook} {report : FillReport}
    {allowCorrection : Bool} {validated : ValidatedFill}
    (success : validatedFillEvidence book report allowCorrection = .ok validated) :
    (upper <$> name report.settlementCurrency "settlement_currency") =
      .ok validated.settlement := by
  simp only [validatedFillEvidence, bind_eq_ok, throw_unless_eq_ok, pure_eq_ok] at success
  obtain ⟨provider, -, -, -, instrument, -, settlement, named, -, -, -, -, -, rfl⟩ := success
  exact named

variable [Fingerprint]

/-- The cash that the transaction of a bought fill takes. -/
theorem buildProviderFillTransaction_cash {book : ScopedEconomicBook} {report : FillReport}
    {observedAt : Option Timestamp} {transaction : JournalTransaction} {settlement : String}
    (keeps : upper "BUY" = "BUY") (bought : report.fill.side = some .buy)
    (feeNormal : Normal report.fill.feeCurrency)
    (named : (upper <$> name report.settlementCurrency "settlement_currency") = .ok settlement)
    (success : buildProviderFillTransaction book report observedAt = .ok transaction)
    (currency : String) :
    cashChange transaction.postings currency =
      -(if settlement = currency then
          report.fill.quantity.value.toRat * report.fill.price.value.toRat else 0) -
        (if report.fill.feeCurrency = currency then report.fill.feeAmount.value.toRat else 0) := by
  rw [buildProviderFillTransaction, bind_eq_ok] at success
  obtain ⟨validated, valid, success⟩ := success
  simp only [bind_eq_ok] at success
  obtain ⟨digest, -, orderKey, -, observed, -, built⟩ := success
  rw [bookFill, bought] at built
  obtain ⟨symbol, symbolNormal, settlementNormal, postings⟩ := bookEquityFill_buy keeps built
  rw [validatedFillEvidence_settlement valid, Except.ok.injEq] at named
  obtain ⟨raw, rawEq, shown⟩ := map_eq_ok.mp (validatedFillEvidence_settlement valid)
  obtain ⟨present, rfl⟩ := name_eq_ok.mp rawEq
  have stripped : strip validated.settlement = settlement := by
    rw [← named, ← shown, strip_upper_strip]
  rw [stripped] at postings settlementNormal
  exact equityFill_cash symbolNormal settlementNormal feeNormal postings currency

/-- The plan of a fill uses the cash that its transaction takes.  Of every currency
it uses at least what the postings take out of the cash account, exactly that where
the fee is not negative; a currency whose cash decreases is in the usage; and every
resource of the usage is reserved, in an amount that covers it. -/
theorem financial_plan_covers_cash [Reconciliation.IsoFormat] (book : ScopedEconomicBook)
    (report : FillReport) (snapshot : ReservationSnapshot) (assetFamily : String)
    (observedAt : Option Timestamp) (plan : ProviderFillFinancialPlan)
    (constructed : Constructed report.fill)
    (built : buildProviderFillFinancialPlan book report snapshot assetFamily observedAt =
      .ok plan) :
    (∀ currency, -cashChange plan.transaction.postings currency ≤
      used plan.usage ("CASH:" ++ currency)) ∧
    (0 ≤ report.fill.feeAmount.value → ∀ currency,
      used plan.usage ("CASH:" ++ currency) = -cashChange plan.transaction.postings currency) ∧
    (∀ currency, cashChange plan.transaction.postings currency < 0 →
      ∃ amount, plan.usage.get? ("CASH:" ++ currency) = some amount) ∧
    ∀ resource amount, plan.usage.get? resource = some amount →
      ∃ limit, snapshot.original.get? resource = some limit ∧ 0 < amount ∧ amount ≤ limit := by
  simp only [buildProviderFillFinancialPlan, bind_eq_ok, throw_unless_eq_ok, not_not] at built
  obtain ⟨family, -, -, -, transaction, transactionEq, bought, -, settlement, named, usage,
    usageEq, _, checked, sealed⟩ := built
  obtain ⟨sameTransaction, sameUsage⟩ := sealPlan_plan sealed
  obtain ⟨feeNormal, keeps⟩ := constructed.normal
  have change := buildProviderFillTransaction_cash (keeps .buy bought) bought feeNormal named
    transactionEq
  have usedAmount := fillUsage_used usageEq
  have same : ∀ resource, used plan.usage resource = used usage resource := by
    intro resource
    rw [used, used, sameUsage]
  have covers : ∀ currency, -cashChange plan.transaction.postings currency ≤
      used plan.usage ("CASH:" ++ currency) := by
    intro currency
    rw [sameTransaction, same, change, usedAmount]
    have fee : (if report.fill.feeCurrency = currency then report.fill.feeAmount.value.toRat
        else 0) ≤ if report.fill.feeCurrency = currency then
          max report.fill.feeAmount.value.toRat 0 else 0 := by
      split
      · exact le_max_left _ _
      · exact le_rfl
    linarith
  constructor
  · exact covers
  constructor
  · intro charged currency
    have nonneg : 0 ≤ report.fill.feeAmount.value.toRat := charged
    rw [sameTransaction, same, change, usedAmount, max_eq_left nonneg]
    ring
  constructor
  · intro currency decreases
    have positive := (neg_pos.mpr decreases).trans_le (covers currency)
    cases found : plan.usage.get? ("CASH:" ++ currency) with
    | none =>
        rw [used, found] at positive
        exact absurd positive (lt_irrefl 0)
    | some amount => exact ⟨amount, rfl⟩
  · intro resource amount found
    rw [sameUsage] at found
    exact checkUsage_eq_ok (forM_eq_ok.mp checked _ (Dict.mem_entries.mpr found))

end Laws

/-! ## The plan of a demo fill -/

section Sample

attribute [local instance] CaseMap.ascii Fingerprint.zeros Reconciliation.IsoFormat.seconds

/-- The book of the demo account. -/
def demoBook : ScopedEconomicBook := ⟨.paper, "account-1", some ⟨"BYBIT", "DEMO"⟩, .empty⟩

/-- A reservation of 500 for the demo intent. -/
def demoReservation : ReservationSnapshot where
  reservationId := "reservation-1"
  intentId := "intent-1"
  original := (∅ : Amounts).set "CASH:USDT" (.whole 500 (by decide))
  remaining := (∅ : Amounts).set "CASH:USDT" (.whole 500 (by decide))
  consumed := (∅ : Amounts).set "CASH:USDT" 0
  state := .working
  resolutionEvidence := none

/-- The plan of the demo fill covers the 201 that its transaction takes. -/
theorem demo_plan_covers : ∃ plan,
    buildProviderFillFinancialPlan demoBook demoReport demoReservation "cash_equity" none =
      .ok plan ∧
    (∀ currency, -cashChange plan.transaction.postings currency ≤
      used plan.usage ("CASH:" ++ currency)) ∧
    (0 ≤ demoReport.fill.feeAmount.value → ∀ currency,
      used plan.usage ("CASH:" ++ currency) = -cashChange plan.transaction.postings currency) ∧
    (∀ currency, cashChange plan.transaction.postings currency < 0 →
      ∃ amount, plan.usage.get? ("CASH:" ++ currency) = some amount) ∧
    ∀ resource amount, plan.usage.get? resource = some amount →
      ∃ limit, demoReservation.original.get? resource = some limit ∧ 0 < amount ∧
        amount ≤ limit := by
  have constructed : Constructed demoReport.fill :=
    ⟨⟨"BYBIT", "account-1", .paper, "DEMO"⟩, "exec-1", some "client-1", "BTCUSDT", .int 2, .int 100,
      .int 1, "usdt", "2026-01-01T12:00:00Z", some "buy", none, none, ["evidence-1"],
      by decide +kernel⟩
  obtain ⟨plan, built⟩ : ∃ plan,
      buildProviderFillFinancialPlan demoBook demoReport demoReservation "cash_equity" none =
        .ok plan := exists_eq_ok (by decide +kernel)
  exact ⟨plan, built, financial_plan_covers_cash demoBook demoReport demoReservation "cash_equity"
    none plan constructed built⟩

end Sample

end AutoTrade.Accounting
