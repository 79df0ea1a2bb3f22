import AutoTrade.Futures.Settlement
import AutoTrade.Lib.Replay

/-!
# Variation margin

The executable model of `futures.VariationMarginState` and
`futures.InverseVariationMarginState`: a position that is settled at a sequence
of prices.  The two states differ in the type of the accumulated amounts and in
the payoff; `PayoffRules` holds what differs and `applySettlement` what the two
apply functions share.

The accumulated margin is the exact profit from the opening price to the last
settlement price, and the recorded history replays to the state it was recorded
by.
-/

namespace AutoTrade.Futures

open Lib Numeric

/-- The fields of a variation-margin state with the checks of `__post_init__`
that relate them. -/
structure MarginState (payoff : Payoff) (α : Type) where
  contract : FuturesContract
  signedContracts : Decimal
  lastSettlementPrice : Decimal
  settlementScope : FuturesSettlementScope
  cumulativeVariationMargin : α
  settlementHistory : List FuturesSettlementEvidence
  qualified : contract.payoff = payoff
  nonzero : signedContracts ≠ 0
  aligned : requireContractQuantity contract signedContracts = .ok ()
  positive : 0 < lastSettlementPrice
  valid : validateSettlementHistory contract settlementScope settlementHistory
    lastSettlementPrice = .ok ()

abbrev VariationMarginState : Type := MarginState .linear Decimal
abbrev InverseVariationMarginState : Type := MarginState .inverse ℚ

/-- `VariationMarginState(...)`. -/
def VariationMarginState.create (contract : FuturesContract)
    (signedContracts lastSettlementPrice : DecimalInput)
    (settlementScope : FuturesSettlementScope) (cumulativeVariationMargin : DecimalInput)
    (settlementHistory : List FuturesSettlementEvidence) :
    Except FuturesError VariationMarginState := do
  let contracts ← decimal signedContracts "signed_contracts" false
  if zero : contracts = 0 then .error ⟨"signed_contracts must be non-zero"⟩
  else match aligned : requireContractQuantity contract contracts with
  | .error error => .error error
  | .ok () =>
    match price : decimal lastSettlementPrice "last_settlement_price" true with
    | .error error => .error error
    | .ok lastPrice => do
      let cumulative ← decimal cumulativeVariationMargin "cumulative_variation_margin" false
      if other : contract.payoff ≠ .linear then
        .error ⟨"decimal variation-margin state currently supports LINEAR futures only"⟩
      else match valid :
          validateSettlementHistory contract settlementScope settlementHistory lastPrice with
      | .error error => .error error
      | .ok () =>
        .ok ⟨contract, contracts, lastPrice, settlementScope, cumulative, settlementHistory,
          not_not.mp other, zero, aligned, decimal_positive price, valid⟩

/-- `InverseVariationMarginState(...)`. -/
def InverseVariationMarginState.create (contract : FuturesContract)
    (signedContracts lastSettlementPrice : DecimalInput)
    (settlementScope : FuturesSettlementScope) (cumulativeVariationMargin : ℚ)
    (settlementHistory : List FuturesSettlementEvidence) :
    Except FuturesError InverseVariationMarginState := do
  if other : contract.payoff ≠ .inverse then
    .error ⟨"inverse variation-margin state requires INVERSE futures"⟩
  else
    let contracts ← decimal signedContracts "signed_contracts" false
    if zero : contracts = 0 then .error ⟨"signed_contracts must be non-zero"⟩
    else match aligned : requireContractQuantity contract contracts with
    | .error error => .error error
    | .ok () =>
      match price : decimal lastSettlementPrice "last_settlement_price" true with
      | .error error => .error error
      | .ok lastPrice => do
        let cumulative ← bounded cumulativeVariationMargin
        match valid :
            validateSettlementHistory contract settlementScope settlementHistory lastPrice with
        | .error error => .error error
        | .ok () =>
          .ok ⟨contract, contracts, lastPrice, settlementScope, cumulative, settlementHistory,
            not_not.mp other, zero, aligned, decimal_positive price, valid⟩

/-- `linear_futures_pnl`. -/
def linearFuturesPnl (signedContracts multiplier entryPrice exitPrice : DecimalInput) :
    Except FuturesError Decimal := do
  let contracts ← decimal signedContracts "signed_contracts" false
  let contractMultiplier ← decimal multiplier "multiplier" true
  let entry ← decimal entryPrice "entry_price" true
  let exitValue ← decimal exitPrice "exit_price" true
  let spread ← exact (exactSubtract exitValue entry)
  exact (exactMultiply [contracts, contractMultiplier, spread])

/-- `_fraction`. -/
def fraction (value : Decimal) : Except FuturesError ℚ :=
  (boundedFraction value.toRat).mapError fun _ =>
    ⟨"futures exact arithmetic exceeds the shared resource envelope"⟩

/-- `inverse_futures_pnl_exact`. -/
def inverseFuturesPnlExact
    (signedContracts contractQuoteValue entryPrice exitPrice : DecimalInput) :
    Except FuturesError ℚ := do
  let contracts ← decimal signedContracts "signed_contracts" false
  let face ← decimal contractQuoteValue "contract_quote_value" true
  let entry ← decimal entryPrice "entry_price" true
  let exitValue ← decimal exitPrice "exit_price" true
  let entryInverse ← bounded (1 / (← fraction entry))
  let exitInverse ← bounded (1 / (← fraction exitValue))
  let inverseSpread ← bounded (entryInverse - exitInverse)
  let contractFace ← bounded ((← fraction contracts) * (← fraction face))
  bounded (contractFace * inverseSpread)

/-- What the two variation-margin states do not share. -/
structure PayoffRules (payoff : Payoff) (α : Type) where
  create : FuturesContract → DecimalInput → DecimalInput → FuturesSettlementScope → α →
    List FuturesSettlementEvidence → Except FuturesError (MarginState payoff α)
  pnl : DecimalInput → DecimalInput → DecimalInput → DecimalInput → Except FuturesError α
  add : α → α → Except FuturesError α

def linear : PayoffRules .linear Decimal where
  create contract signedContracts lastSettlementPrice scope cumulative history :=
    VariationMarginState.create contract signedContracts lastSettlementPrice scope
      (.bounded cumulative) history
  pnl := linearFuturesPnl
  add left right := exact (exactAdd left right)

def inverse : PayoffRules .inverse ℚ where
  create := InverseVariationMarginState.create
  pnl := inverseFuturesPnlExact
  add left right := bounded (left + right)

section Calls

variable {payoff : Payoff} {α : Type} [Zero α]

/-- The body of the two apply functions. -/
def applySettlement (rules : PayoffRules payoff α) (state : MarginState payoff α)
    (settlement : FuturesSettlementEvidence) :
    Except FuturesError (MarginState payoff α × α) := do
  let disposition ← settlementDuplicateOrRequireNew state.contract state.settlementScope
    state.settlementHistory settlement
  if disposition = .duplicate then pure (state, 0)
  else
    let amount ← rules.pnl (.bounded state.signedContracts) (.bounded state.contract.multiplier)
      (.bounded state.lastSettlementPrice) (.bounded settlement.settlementPrice)
    let newCumulative ← rules.add state.cumulativeVariationMargin amount
    let next ← rules.create state.contract (.bounded state.signedContracts)
      (.bounded settlement.settlementPrice) state.settlementScope newCumulative
      (state.settlementHistory ++ [settlement])
    pure (next, amount)

/-- The body of the two replay functions. -/
def replaySettlements (rules : PayoffRules payoff α) (openingState : MarginState payoff α)
    (settlements : List FuturesSettlementEvidence) :
    Except FuturesError (MarginState payoff α) :=
  if openingState.settlementHistory ≠ [] then
    .error ⟨"replay opening state must have empty settlement history"⟩
  else
    settlements.foldlM (fun state evidence => (applySettlement rules state evidence).map Prod.fst)
      openingState

/-- The body of the two mark functions. -/
def unrealized (rules : PayoffRules payoff α) (state : MarginState payoff α)
    (markPrice : DecimalInput) : Except FuturesError α :=
  rules.pnl (.bounded state.signedContracts) (.bounded state.contract.multiplier)
    (.bounded state.lastSettlementPrice) markPrice

/-- A run of settlement calls; a call that raises leaves the state unchanged. -/
def settleAll (rules : PayoffRules payoff α) (openingState : MarginState payoff α)
    (settlements : List FuturesSettlementEvidence) : MarginState payoff α :=
  settlements.foldl
    (attempt fun state evidence => (applySettlement rules state evidence).map Prod.fst)
    openingState

end Calls

/-- `apply_variation_margin`. -/
def applyVariationMargin (state : VariationMarginState)
    (settlement : FuturesSettlementEvidence) :
    Except FuturesError (VariationMarginState × Decimal) :=
  applySettlement linear state settlement

/-- `apply_inverse_variation_margin`. -/
def applyInverseVariationMargin (state : InverseVariationMarginState)
    (settlement : FuturesSettlementEvidence) :
    Except FuturesError (InverseVariationMarginState × ℚ) :=
  applySettlement inverse state settlement

/-- `replay_variation_margin`. -/
def replayVariationMargin (openingState : VariationMarginState)
    (settlements : List FuturesSettlementEvidence) : Except FuturesError VariationMarginState :=
  replaySettlements linear openingState settlements

/-- `replay_inverse_variation_margin`. -/
def replayInverseVariationMargin (openingState : InverseVariationMarginState)
    (settlements : List FuturesSettlementEvidence) :
    Except FuturesError InverseVariationMarginState :=
  replaySettlements inverse openingState settlements

/-- `unrealized_after_variation`. -/
def unrealizedAfterVariation (state : VariationMarginState) (markPrice : DecimalInput) :
    Except FuturesError Decimal :=
  unrealized linear state markPrice

/-- `unrealized_inverse_after_variation`. -/
def unrealizedInverseAfterVariation (state : InverseVariationMarginState)
    (markPrice : DecimalInput) : Except FuturesError ℚ :=
  unrealized inverse state markPrice

end AutoTrade.Futures
