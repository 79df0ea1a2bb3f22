import AutoTrade.Futures.VariationMargin

/-!
# Conservation and replay of variation margin

The accumulated margin of a run is the exact profit from the opening price to
the last settlement price: a settlement adds the profit from the last price to
its own, and profits between prices add up.  The step lemma
`applySettlement_cases` is what every invariant follows from.
-/

namespace AutoTrade.Futures

open Lib Numeric

/-- The exact profit of a linear contract between two prices. -/
def linearValue (contracts multiplier entry exit : ℚ) : ℚ :=
  contracts * multiplier * (exit - entry)

/-- The exact profit of an inverse contract between two prices. -/
def inverseValue (contracts face entry exit : ℚ) : ℚ :=
  contracts * face * (1 / entry - 1 / exit)

/-- What the rules of a payoff promise: amounts have exact values, and the
profit between two prices can be split at any price. -/
structure PayoffRules.Lawful {payoff : Payoff} {α : Type} [Zero α]
    (rules : PayoffRules payoff α) (value : α → ℚ) (profit : ℚ → ℚ → ℚ → ℚ → ℚ) : Prop where
  value_zero : value 0 = 0
  created : ∀ {contract contracts price scope cumulative history state},
    rules.create contract (.bounded contracts) (.bounded price) scope cumulative history =
      .ok state →
    state.contract = contract ∧ state.signedContracts = contracts ∧
      state.lastSettlementPrice = price ∧ state.settlementScope = scope ∧
      state.cumulativeVariationMargin = cumulative ∧ state.settlementHistory = history
  pnl_value : ∀ {contracts face entry : Decimal} {exit : DecimalInput} {amount},
    rules.pnl (.bounded contracts) (.bounded face) (.bounded entry) exit = .ok amount →
    ∃ price, decimal exit "exit_price" true = .ok price ∧
      value amount = profit contracts.toRat face.toRat entry.toRat price.toRat
  add_value : ∀ {left right total}, rules.add left right = .ok total →
    value total = value left + value right
  profit_self : ∀ contracts face price, profit contracts face price price = 0
  profit_trans : ∀ contracts face entry middle exit,
    profit contracts face entry middle + profit contracts face middle exit =
      profit contracts face entry exit

theorem decimal_bounded_eq {value result : Decimal} {name : String} {positive : Bool}
    (success : decimal (.bounded value) name positive = .ok result) : result = value := by
  simp only [decimal, parseBoundedExactDecimal, Except.mapError, ok_bind, guard_eq_ok,
    pure_eq_ok] at success
  exact success.2.symm

theorem exact_eq_ok {computation : Except ExactDecimalError Decimal} {result : Decimal} :
    exact computation = .ok result ↔ computation = .ok result := mapError_eq_ok

theorem fraction_eq {value : Decimal} {result : ℚ} (success : fraction value = .ok result) :
    result = value.toRat :=
  boundedFraction_eq (mapError_eq_ok.mp success)

theorem VariationMarginState.create_eq_ok {contract : FuturesContract}
    {contracts price cumulative : Decimal} {scope : FuturesSettlementScope}
    {history : List FuturesSettlementEvidence} {state : VariationMarginState}
    (success : VariationMarginState.create contract (.bounded contracts) (.bounded price) scope
      (.bounded cumulative) history = .ok state) :
    state.contract = contract ∧ state.signedContracts = contracts ∧
      state.lastSettlementPrice = price ∧ state.settlementScope = scope ∧
      state.cumulativeVariationMargin = cumulative ∧ state.settlementHistory = history := by
  rw [VariationMarginState.create, bind_eq_ok] at success
  obtain ⟨parsed, parsedEq, success⟩ := success
  split at success
  · cases success
  split at success
  · cases success
  split at success
  · cases success
  next lastPrice priceEq =>
    rw [bind_eq_ok] at success
    obtain ⟨total, totalEq, success⟩ := success
    split at success
    · cases success
    split at success
    · cases success
    · cases success
      exact ⟨rfl, decimal_bounded_eq parsedEq, decimal_bounded_eq priceEq, rfl,
        decimal_bounded_eq totalEq, rfl⟩

theorem InverseVariationMarginState.create_eq_ok {contract : FuturesContract}
    {contracts price : Decimal} {scope : FuturesSettlementScope} {cumulative : ℚ}
    {history : List FuturesSettlementEvidence} {state : InverseVariationMarginState}
    (success : InverseVariationMarginState.create contract (.bounded contracts) (.bounded price)
      scope cumulative history = .ok state) :
    state.contract = contract ∧ state.signedContracts = contracts ∧
      state.lastSettlementPrice = price ∧ state.settlementScope = scope ∧
      state.cumulativeVariationMargin = cumulative ∧ state.settlementHistory = history := by
  rw [InverseVariationMarginState.create] at success
  split at success
  · cases success
  rw [bind_eq_ok] at success
  obtain ⟨parsed, parsedEq, success⟩ := success
  split at success
  · cases success
  split at success
  · cases success
  split at success
  · cases success
  next lastPrice priceEq =>
    rw [bind_eq_ok] at success
    obtain ⟨total, totalEq, success⟩ := success
    split at success
    · cases success
    · cases success
      exact ⟨rfl, decimal_bounded_eq parsedEq, decimal_bounded_eq priceEq, rfl,
        bounded_eq totalEq, rfl⟩

theorem linear_lawful : linear.Lawful Decimal.toRat linearValue where
  value_zero := rfl
  created := VariationMarginState.create_eq_ok
  pnl_value success := by
    simp only [linear, linearFuturesPnl, bind_eq_ok, exact_eq_ok] at success
    obtain ⟨contracts, contractsEq, face, faceEq, entry, entryEq, price, priceEq, spread,
      spreadEq, product⟩ := success
    rw [exactSubtract_eq_ok] at spreadEq
    rw [← decimal_bounded_eq contractsEq, ← decimal_bounded_eq faceEq,
      ← decimal_bounded_eq entryEq]
    use price, priceEq
    rw [accumulate_toRat product]
    simp only [List.foldl_cons, List.foldl_nil, one_mul, linearValue, spreadEq]
  add_value success := exactAdd_eq_ok.mp (exact_eq_ok.mp success)
  profit_self contracts face price := by simp [linearValue]
  profit_trans contracts face entry middle exit := by
    simp only [linearValue]
    ring

theorem inverse_lawful : inverse.Lawful id inverseValue where
  value_zero := rfl
  created := InverseVariationMarginState.create_eq_ok
  pnl_value success := by
    simp only [inverse, inverseFuturesPnlExact, bind_eq_ok] at success
    obtain ⟨contracts, contractsEq, face, faceEq, entry, entryEq, price, priceEq, entryValue,
      entryValueEq, entryInverse, entryInverseEq, priceValue, priceValueEq, priceInverse,
      priceInverseEq, spread, spreadEq, contractsValue, contractsValueEq, faceValue, faceValueEq,
      contractFace, contractFaceEq, product⟩ := success
    rw [← decimal_bounded_eq contractsEq, ← decimal_bounded_eq faceEq,
      ← decimal_bounded_eq entryEq]
    use price, priceEq
    rw [id, bounded_eq product, bounded_eq contractFaceEq, bounded_eq spreadEq,
      bounded_eq entryInverseEq, bounded_eq priceInverseEq, fraction_eq entryValueEq,
      fraction_eq priceValueEq, fraction_eq contractsValueEq, fraction_eq faceValueEq,
      inverseValue]
  add_value success := bounded_eq success
  profit_self contracts face price := by simp [inverseValue]
  profit_trans contracts face entry middle exit := by
    simp only [inverseValue]
    ring

/-! ## One settlement -/

section Steps

variable {payoff : Payoff} {α : Type} [Zero α] {rules : PayoffRules payoff α} {value : α → ℚ}
  {profit : ℚ → ℚ → ℚ → ℚ → ℚ}

/-- A settlement that is not a duplicate: the price and the history advance and
the margin grows by the profit since the last price. -/
structure Settles (value : α → ℚ) (profit : ℚ → ℚ → ℚ → ℚ → ℚ)
    (state : MarginState payoff α) (settlement : FuturesSettlementEvidence)
    (next : MarginState payoff α) : Prop where
  contract : next.contract = state.contract
  signedContracts : next.signedContracts = state.signedContracts
  lastSettlementPrice : next.lastSettlementPrice = settlement.settlementPrice
  cumulative : value next.cumulativeVariationMargin =
    value state.cumulativeVariationMargin +
      profit state.signedContracts.toRat state.contract.multiplier.toRat
        state.lastSettlementPrice.toRat settlement.settlementPrice.toRat
  settlementHistory : next.settlementHistory = state.settlementHistory ++ [settlement]

/-- Everything a successful settlement can do. -/
theorem applySettlement_cases (lawful : rules.Lawful value profit)
    {state next : MarginState payoff α} {settlement : FuturesSettlementEvidence}
    (success : (applySettlement rules state settlement).map Prod.fst = .ok next) :
    next = state ∨ Settles value profit state settlement next := by
  rw [map_fst_eq_ok] at success
  obtain ⟨amount, success⟩ := success
  rw [applySettlement, bind_eq_ok] at success
  obtain ⟨disposition, -, success⟩ := success
  split at success
  · left
    simp only [pure_eq_ok, Prod.mk.injEq] at success
    exact success.1.symm
  · right
    simp only [bind_eq_ok, pure_eq_ok, Prod.mk.injEq] at success
    obtain ⟨_, profitEq, total, totalEq, created, createdEq, rfl, rfl⟩ := success
    obtain ⟨contract, contracts, price, _, cumulative, history⟩ := lawful.created createdEq
    obtain ⟨exit, exitEq, profitValue⟩ := lawful.pnl_value profitEq
    constructor
    · exact contract
    · exact contracts
    · exact price
    · rw [cumulative, lawful.add_value totalEq, profitValue, decimal_bounded_eq exitEq]
    · exact history

/-- The latest observation of a period changes nothing. -/
theorem applySettlement_of_latest (rules : PayoffRules payoff α)
    {state : MarginState payoff α} {evidence : FuturesSettlementEvidence}
    (latest : IsLatest state.settlementHistory evidence) :
    applySettlement rules state evidence = .ok (state, 0) := by
  have required := requireSettlementContract_of_valid state.valid evidence latest.mem
  rw [applySettlement, settlementDuplicateOrRequireNew_of_latest latest required, ok_bind,
    if_pos rfl]
  rfl

theorem recorder (lawful : rules.Lawful value profit) :
    Recorder (fun state evidence => (applySettlement rules state evidence).map Prod.fst)
      MarginState.settlementHistory IsLatest where
  recorded accepted := by
    rcases applySettlement_cases lawful accepted with unchanged | settles
    · left
      exact unchanged
    · right
      exact settles.settlementHistory
  absorbed latest := by
    rw [applySettlement_of_latest rules latest]
    rfl

/-! ## Runs -/

/-- The margin is the exact profit of the position since it was opened. -/
structure Accrued (value : α → ℚ) (profit : ℚ → ℚ → ℚ → ℚ → ℚ)
    (opening state : MarginState payoff α) : Prop where
  contract : state.contract = opening.contract
  signedContracts : state.signedContracts = opening.signedContracts
  cumulative : value state.cumulativeVariationMargin =
    profit state.signedContracts.toRat state.contract.multiplier.toRat
      opening.lastSettlementPrice.toRat state.lastSettlementPrice.toRat

theorem Accrued.initial (lawful : rules.Lawful value profit) {opening : MarginState payoff α}
    (zero : opening.cumulativeVariationMargin = 0) : Accrued value profit opening opening where
  contract := rfl
  signedContracts := rfl
  cumulative := by rw [zero, lawful.value_zero, lawful.profit_self]

theorem Accrued.settle (lawful : rules.Lawful value profit)
    {opening state next : MarginState payoff α} {settlement : FuturesSettlementEvidence}
    (success : (applySettlement rules state settlement).map Prod.fst = .ok next)
    (accrued : Accrued value profit opening state) : Accrued value profit opening next := by
  rcases applySettlement_cases lawful success with rfl | settles
  · exact accrued
  · constructor
    · rw [settles.contract, accrued.contract]
    · rw [settles.signedContracts, accrued.signedContracts]
    · rw [settles.cumulative, accrued.cumulative, lawful.profit_trans, settles.contract,
        settles.signedContracts, settles.lastSettlementPrice]

/-- A run of settlement calls accrues the exact profit. -/
theorem settleAll_accrued (lawful : rules.Lawful value profit) {opening : MarginState payoff α}
    (zero : opening.cumulativeVariationMargin = 0)
    (settlements : List FuturesSettlementEvidence) :
    Accrued value profit opening (settleAll rules opening settlements) := by
  apply attempt_invariant (Accrued value profit opening)
  · exact Accrued.settle lawful
  · exact Accrued.initial lawful zero

/-- The margin and the mark of the position make up the profit up to the mark. -/
theorem Accrued.marked (lawful : rules.Lawful value profit) {opening state : MarginState payoff α}
    (accrued : Accrued value profit opening state) {mark : DecimalInput} {margin : α}
    (success : unrealized rules state mark = .ok margin) :
    ∃ price, decimal mark "exit_price" true = .ok price ∧
      value state.cumulativeVariationMargin + value margin =
        profit state.signedContracts.toRat state.contract.multiplier.toRat
          opening.lastSettlementPrice.toRat price.toRat := by
  obtain ⟨price, priceEq, marginValue⟩ := lawful.pnl_value success
  use price, priceEq
  rw [accrued.cumulative, marginValue, lawful.profit_trans]

/-- The history of a run replays to its state, with latest observations repeated
anywhere in between. -/
theorem replay_settleAll (lawful : rules.Lawful value profit) {opening : MarginState payoff α}
    (empty : opening.settlementHistory = []) (settlements : List FuturesSettlementEvidence)
    {presented : List FuturesSettlementEvidence}
    (interleaved : Interleaved IsLatest
      (settleAll rules opening settlements).settlementHistory presented) :
    replaySettlements rules opening presented = .ok (settleAll rules opening settlements) := by
  rw [replaySettlements, if_neg (not_not.mpr empty)]
  apply (recorder lawful).replay_interleaved empty interleaved
  exact (recorder lawful).replay_history empty settlements

end Steps

/-- Every state that settlement calls reach from an opening state holds the
exact profit since the opening, marks consistently, absorbs the latest
observation of each period and is the replay of its own history. -/
theorem variation_margin_conserved :
    (∀ (opening : VariationMarginState) (settlements : List FuturesSettlementEvidence),
      opening.settlementHistory = [] → opening.cumulativeVariationMargin = 0 →
      let state := settlements.foldl
        (attempt fun state evidence => (applyVariationMargin state evidence).map Prod.fst) opening
      state.cumulativeVariationMargin.toRat =
          state.signedContracts.toRat * state.contract.multiplier.toRat *
            (state.lastSettlementPrice.toRat - opening.lastSettlementPrice.toRat) ∧
        (∀ mark margin, unrealizedAfterVariation state mark = .ok margin →
          ∃ price, decimal mark "exit_price" true = .ok price ∧
            state.cumulativeVariationMargin.toRat + margin.toRat =
              state.signedContracts.toRat * state.contract.multiplier.toRat *
                (price.toRat - opening.lastSettlementPrice.toRat)) ∧
        (∀ evidence, IsLatest state.settlementHistory evidence →
          applyVariationMargin state evidence = .ok (state, 0)) ∧
        ∀ presented, Interleaved IsLatest state.settlementHistory presented →
          replayVariationMargin opening presented = .ok state) ∧
    (∀ (opening : InverseVariationMarginState) (settlements : List FuturesSettlementEvidence),
      opening.settlementHistory = [] → opening.cumulativeVariationMargin = 0 →
      let state := settlements.foldl
        (attempt fun state evidence => (applyInverseVariationMargin state evidence).map Prod.fst)
        opening
      state.cumulativeVariationMargin =
          state.signedContracts.toRat * state.contract.multiplier.toRat *
            (1 / opening.lastSettlementPrice.toRat - 1 / state.lastSettlementPrice.toRat) ∧
        (∀ mark margin, unrealizedInverseAfterVariation state mark = .ok margin →
          ∃ price, decimal mark "exit_price" true = .ok price ∧
            state.cumulativeVariationMargin + margin =
              state.signedContracts.toRat * state.contract.multiplier.toRat *
                (1 / opening.lastSettlementPrice.toRat - 1 / price.toRat)) ∧
        (∀ evidence, IsLatest state.settlementHistory evidence →
          applyInverseVariationMargin state evidence = .ok (state, 0)) ∧
        ∀ presented, Interleaved IsLatest state.settlementHistory presented →
          replayInverseVariationMargin opening presented = .ok state) := by
  constructor
  · intro opening settlements empty zero
    have accrued := settleAll_accrued linear_lawful zero settlements
    refine ⟨accrued.cumulative, ?_, ?_, ?_⟩
    · intro mark margin success
      exact accrued.marked linear_lawful success
    · intro evidence latest
      exact applySettlement_of_latest linear latest
    · intro presented interleaved
      exact replay_settleAll linear_lawful empty settlements interleaved
  · intro opening settlements empty zero
    have accrued := settleAll_accrued inverse_lawful zero settlements
    refine ⟨accrued.cumulative, ?_, ?_, ?_⟩
    · intro mark margin success
      exact accrued.marked inverse_lawful success
    · intro evidence latest
      exact applySettlement_of_latest inverse latest
    · intro presented interleaved
      exact replay_settleAll inverse_lawful empty settlements interleaved

section Quarterly

/-- A whole number as a decimal. -/
def whole (number : Nat) (bounded : number < 10 ^ maxSignificantDigits) : Decimal :=
  ⟨number, Decimal.representable_whole number bounded⟩

def quarterlyVersion : InstrumentVersion :=
  { instrumentId := "future", version := 1, providerId := "venue", assetClass := "FUTURE",
    payoff := some .linear, baseCurrency := "XBT", quoteCurrency := "USD",
    settlementCurrency := "USD", contractMultiplier := whole 10 (by decide),
    quantityStep := whole 1 (by decide), effectiveFrom := ⟨0⟩, effectiveTo := none }

def quarterly : FuturesContract :=
  { instrument := "future@1", payoff := .linear, multiplier := whole 10 (by decide),
    quoteCurrency := "USD", settlementCurrency := "USD", priceBaseCurrency := none,
    canonicalInstrument := some quarterlyVersion }

def quarterlyOpening : VariationMarginState :=
  { contract := quarterly, signedContracts := whole 2 (by decide),
    lastSettlementPrice := whole 100 (by decide), settlementScope := ⟨"clearing", none⟩,
    cumulativeVariationMargin := 0, settlementHistory := [], qualified := rfl,
    nonzero := by decide, aligned := by decide +kernel, positive := by decide +kernel,
    valid := rfl }

/-- The settlement of one day at a price, and its correction. -/
def quarterlySettlement (revision : Nat) (observation : String) (superseded : Option String)
    (initial : revision = 0 ↔ superseded = none) (price : Decimal) (positive : 0 < price) :
    FuturesSettlementEvidence :=
  { settlementId := "day-1", observationId := observation, instrumentId := "future",
    instrumentVersion := 1, scope := ⟨"clearing", none⟩, effectiveAt := ⟨5⟩, sequence := 0,
    revision, settlementPrice := price, priceCurrency := "USD", settlementCurrency := "USD",
    evidenceRef := none, supersedesObservationId := superseded, initial, positive }

def quarterlyRun : List FuturesSettlementEvidence :=
  [quarterlySettlement 0 "a" none (by decide) (whole 107 (by decide)) (by decide +kernel),
   quarterlySettlement 0 "a" none (by decide) (whole 107 (by decide)) (by decide +kernel),
   quarterlySettlement 1 "b" (some "a") (by decide) (whole 103 (by decide)) (by decide +kernel),
   quarterlySettlement 0 "a" none (by decide) (whole 107 (by decide)) (by decide +kernel)]

/-- A settlement, its repetition, its correction and a stale repetition leave
the profit at the corrected price. -/
theorem quarterly_conserved :
    (settleAll linear quarterlyOpening quarterlyRun).settlementHistory.length = 2 ∧
      (settleAll linear quarterlyOpening quarterlyRun).cumulativeVariationMargin.toRat =
        2 * 10 * (103 - 100) := by
  constructor
  · decide +kernel
  · have price : (settleAll linear quarterlyOpening quarterlyRun).lastSettlementPrice.toRat =
        103 := by decide +kernel
    have zero : quarterlyOpening.cumulativeVariationMargin = 0 := rfl
    have terms := settleAll_accrued linear_lawful zero quarterlyRun
    have conserved :
        (settleAll linear quarterlyOpening quarterlyRun).cumulativeVariationMargin.toRat = _ :=
      (variation_margin_conserved.1 quarterlyOpening quarterlyRun rfl zero).1
    rw [conserved]
    change (settleAll linear quarterlyOpening quarterlyRun).signedContracts.toRat *
      (settleAll linear quarterlyOpening quarterlyRun).contract.multiplier.toRat *
      ((settleAll linear quarterlyOpening quarterlyRun).lastSettlementPrice.toRat - _) = _
    rw [terms.signedContracts, terms.contract, price]
    rfl

end Quarterly

end AutoTrade.Futures
