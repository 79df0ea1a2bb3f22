import AutoTrade.Lib.AsciiJson
import AutoTrade.Lib.Fingerprint
import AutoTrade.Lib.Time
import AutoTrade.Numeric.Quantum
import AutoTrade.Order.Renderers

/-!
# Simulated executions

`simulate_execution` of `execution_realism.py`: one admitted order against one later liquidity
observation under a versioned cost model.
-/

namespace AutoTrade.Execution

open Lib Numeric

attribute [local instance] FloatText.none

/-! ## Records -/

/-- The exceptions of a simulation. -/
inductive ExecutionError where
  | realism (message : String)
  | assertion
  deriving DecidableEq, Repr

inductive Side where
  | buy
  | sell
  deriving DecidableEq, Repr

inductive OrderType where
  | market
  | limit
  | stopLimit
  deriving DecidableEq, Repr

inductive DataFidelity where
  | bar
  | topOfBook
  | book
  deriving DecidableEq, Repr

def DataFidelity.text : DataFidelity → String
  | bar => "BAR"
  | topOfBook => "TOP_OF_BOOK"
  | book => "BOOK"

inductive Scenario where
  | optimistic
  | base
  | adverse
  deriving DecidableEq, Repr

def Scenario.text : Scenario → String
  | optimistic => "OPTIMISTIC"
  | base => "BASE"
  | adverse => "ADVERSE"

/-- `ExecutionPriceProjectionPolicy`, of the one supported policy and version. -/
structure ExecutionPriceProjectionPolicy where
  instrumentVersion : String
  priceQuantum : Decimal
  instrumentMetadataBinding : String
  quantum_pos : 0 < priceQuantum.toRat
  deriving DecidableEq

/-- `ExecutionModel`. -/
structure ExecutionModel where
  modelVersion : String
  calibrationSha256 : String
  dataFidelity : DataFidelity
  scenario : Scenario
  latencyMs : ℕ
  feeRate : Decimal
  minimumFee : Decimal
  maxParticipation : Decimal
  slippageBps : Decimal
  impactBpsAtMaxParticipation : Decimal
  barHalfSpreadBps : Decimal
  scenarioCostMultiplier : Decimal
  priceProjection : Option ExecutionPriceProjectionPolicy
  fee_nonneg : 0 ≤ feeRate.toRat ∧ 0 ≤ minimumFee.toRat
  participation_bounds : 0 ≤ maxParticipation.toRat ∧ maxParticipation.toRat ≤ 1
  slippage_nonneg : 0 ≤ slippageBps.toRat
  impact_nonneg : 0 ≤ impactBpsAtMaxParticipation.toRat
  spread_nonneg : 0 ≤ barHalfSpreadBps.toRat
  multiplier_pos : 0 < scenarioCostMultiplier.toRat
  multiplier_scenario : scenario ≠ .optimistic → 1 ≤ scenarioCostMultiplier.toRat

/-- `SimulatedOrder`. -/
structure SimulatedOrder where
  orderId : String
  instrumentVersion : String
  side : Side
  orderType : OrderType
  quantity : Decimal
  submittedAt : Instant
  lotSize : Decimal
  limitPrice : Option Decimal
  stopPrice : Option Decimal
  alreadyTriggered : Bool
  quantity_pos : 0 < quantity.toRat
  lot_pos : 0 < lotSize.toRat
  quantity_multiple : ∃ units : ℤ, quantity.toRat = lotSize.toRat * units
  limit_pos : ∀ price ∈ limitPrice, 0 < price.toRat
  stop_pos : ∀ price ∈ stopPrice, 0 < price.toRat
  limit_given : limitPrice.isSome ↔ orderType ≠ .market
  stop_given : stopPrice.isSome ↔ orderType = .stopLimit
  triggered_stop : alreadyTriggered → orderType = .stopLimit

/-- `LiquidityObservation`. -/
structure LiquidityObservation where
  instrumentVersion : String
  marketTime : Instant
  availableAt : Instant
  availableVolume : Decimal
  intervalStart : Option Instant
  bid : Option Decimal
  ask : Option Decimal
  barHigh : Option Decimal
  barLow : Option Decimal
  available_later : marketTime ≤ availableAt
  volume_nonneg : 0 ≤ availableVolume.toRat
  interval_earlier : ∀ start ∈ intervalStart, start < marketTime
  prices_pos : ∀ quoted ∈ [bid, ask, barHigh, barLow], ∀ price ∈ quoted, 0 < price.toRat
  book_ordered : ∀ low ∈ bid, ∀ high ∈ ask, low.toRat ≤ high.toRat
  bar_ordered : ∀ low ∈ barLow, ∀ high ∈ barHigh, low.toRat ≤ high.toRat

/-- The status of an execution. -/
inductive ExecutionStatus where
  | filled
  | partialFill
  | noFill
  | waitingForLatency
  | ambiguousNoFill
  deriving DecidableEq, Repr

/-- `SimulatedExecution`. -/
structure SimulatedExecution where
  status : ExecutionStatus
  filledQuantity : Decimal
  fillPrice : Option Decimal
  fee : Decimal
  arrivalAt : Instant
  tradeTime : Option Instant
  evidenceAvailableAt : Instant
  triggered : Bool
  modelFingerprint : String
  scenario : Scenario
  dataFidelity : DataFidelity
  reason : String
  warnings : List String
  deriving DecidableEq

/-! ## The fingerprint of a model -/

/-- `_decimal_text` of an admitted decimal. -/
def decimalText (value : Decimal) : String :=
  ((presentTerminating value.toRat).toOption.map fun presented =>
    Order.realismDecimalText presented.tuple).getD ""

/-- The projection policy of the payload. -/
def projectionJson (policy : ExecutionPriceProjectionPolicy) : Json Unit :=
  .obj [("policy_id", .str "ADVERSE_INSTRUMENT_TICK"), ("policy_version", .str "1"),
    ("instrument_version", .str policy.instrumentVersion),
    ("price_quantum", .str (decimalText policy.priceQuantum)),
    ("instrument_metadata_binding", .str policy.instrumentMetadataBinding)]

/-- `fingerprint`. -/
def ExecutionModel.fingerprint [Fingerprint] (model : ExecutionModel) : String :=
  let payload : Json Unit :=
    .obj [("model_version", .str model.modelVersion),
      ("calibration_sha256", .str model.calibrationSha256),
      ("data_fidelity", .str model.dataFidelity.text), ("scenario", .str model.scenario.text),
      ("latency_ms", .int model.latencyMs), ("fee_rate", .str (decimalText model.feeRate)),
      ("minimum_fee", .str (decimalText model.minimumFee)),
      ("max_participation", .str (decimalText model.maxParticipation)),
      ("slippage_bps", .str (decimalText model.slippageBps)),
      ("impact_bps_at_max_participation", .str (decimalText model.impactBpsAtMaxParticipation)),
      ("bar_half_spread_bps", .str (decimalText model.barHalfSpreadBps)),
      ("scenario_cost_multiplier", .str (decimalText model.scenarioCostMultiplier)),
      ("price_projection", (model.priceProjection.map projectionJson).getD .null)]
  sha256 (payload.asciiText.getD "")

/-! ## Arithmetic -/

/-- `_exact_product`. -/
def exactProduct (values : List Decimal) (name : String) : Except ExecutionError Decimal :=
  (exactMultiply values).mapError fun _ =>
    .realism s!"{name} exceeds exact arithmetic resource envelope"

/-- `_bounded_rational`. -/
def boundedRational (value : ℚ) (name : String) : Except ExecutionError ℚ :=
  (boundedFraction value).mapError fun _ =>
    .realism s!"{name} exceeds exact rational resource envelope"

/-- `is_exact_decimal_multiple`. -/
def isExactDecimalMultiple (value quantum : Decimal) : Except ExactDecimalError Bool := do
  if quantum.toRat ≤ 0 then throw ⟨"quantum must be positive"⟩
  validateFractionIntermediate (value.toRat / quantum.toRat)
  return (value.toRat / quantum.toRat).den = 1

/-- `_round_down`. -/
def roundDown (quantity lotSize : Decimal) : Except ExecutionError Decimal :=
  (roundToQuantum quantity.toRat lotSize .floor).mapError fun _ =>
    .realism "quantity rounding exceeds exact arithmetic resource envelope"

/-- `max(left, right)`. -/
def maximum (left right : Decimal) : Decimal := if left.toRat < right.toRat then right else left

/-- `min(left, right)`. -/
def minimum (left right : Decimal) : Decimal := if right.toRat < left.toRat then right else left

/-! ## Prices -/

section Simulation

variable (order : SimulatedOrder) (observation : LiquidityObservation) (model : ExecutionModel)

/-- `_require_market_projection_authority`. -/
def requireMarketProjectionAuthority : Except ExecutionError ExecutionPriceProjectionPolicy :=
  match model.priceProjection with
  | none => .error (.realism "MARKET execution requires authoritative price projection policy")
  | some projection =>
      if projection.instrumentVersion ≠ order.instrumentVersion then
        .error (.realism
          "price projection instrument_version must match order instrument_version")
      else .ok projection

/-- A quotient that is zero where there is nothing to divide by. -/
def quotient (value divisor : ℚ) (name : String) : Except ExecutionError ℚ :=
  if 0 < divisor then boundedRational (value / divisor) name else .ok 0

/-- `_market_projected_price`. -/
def marketProjectedPrice (capacity basePrice additionalSpreadBps : Decimal) :
    Except ExecutionError Decimal := do
  let projection ← requireMarketProjectionAuthority order model
  let onGrid ← (isExactDecimalMultiple basePrice projection.priceQuantum).mapError fun _ =>
    .realism "market reference price grid check exceeds exact arithmetic resource envelope"
  if onGrid = false then
    throw (.realism "market reference price is not aligned to authoritative price quantum")
  let participation ← quotient capacity.toRat observation.availableVolume.toRat
    "market participation"
  let fraction ← quotient participation model.maxParticipation.toRat "market impact fraction"
  let impactBps ← boundedRational (model.impactBpsAtMaxParticipation.toRat * min fraction 1)
    "market impact bps"
  let beforeScenario ← boundedRational
    (additionalSpreadBps.toRat + model.slippageBps.toRat + impactBps)
    "market total bps before scenario"
  let totalBps ← boundedRational (beforeScenario * model.scenarioCostMultiplier.toRat)
    "market total bps"
  let priceDelta ← boundedRational (basePrice.toRat * totalBps / 10000) "market price delta"
  let unrounded ← boundedRational
    (if order.side = .buy then basePrice.toRat + priceDelta else basePrice.toRat - priceDelta)
    "market projected price"
  let fillPrice ← (roundToQuantum unrounded projection.priceQuantum
    (if order.side = .buy then .ceiling else .floor)).mapError fun _ =>
      .realism "market price projection exceeds exact arithmetic resource envelope"
  if fillPrice.toRat ≤ 0 then
    throw (.realism "configured adverse costs produce non-positive execution price")
  return fillPrice

/-- `_capacity_quantity`. -/
def capacityQuantity : Except ExecutionError Decimal := do
  let participatingVolume ← exactProduct [observation.availableVolume, model.maxParticipation]
    "participation capacity"
  roundDown (minimum order.quantity participatingVolume) order.lotSize

/-- The prices an order is compared with: the low and the high of the bar, or bid and ask. -/
def quotedPrices : Except ExecutionError (Decimal × Decimal) :=
  if model.dataFidelity = .bar then
    match observation.barLow, observation.barHigh with
    | some low, some high => .ok (low, high)
    | _, _ => .error (.realism "BAR fidelity requires bar_low and bar_high")
  else
    match observation.bid, observation.ask with
    | some bid, some ask => .ok (bid, ask)
    | _, _ => .error (.realism "TOP_OF_BOOK/BOOK fidelity requires bid and ask")

/-- `_limit_touched`. -/
def limitTouched : Except ExecutionError Bool :=
  match order.limitPrice with
  | none => .error .assertion
  | some limit => do
      let quoted ← quotedPrices observation model
      -- a bar reaches a limit with its near end, the book with the far side
      match model.dataFidelity, order.side with
      | .bar, .buy => return quoted.1.toRat ≤ limit.toRat
      | .bar, .sell => return limit.toRat ≤ quoted.2.toRat
      | _, .buy => return quoted.2.toRat ≤ limit.toRat
      | _, .sell => return limit.toRat ≤ quoted.1.toRat

/-- `_stop_touched`. -/
def stopTouched : Except ExecutionError Bool :=
  match order.stopPrice with
  | none => .error .assertion
  | some stop => do
      let quoted ← quotedPrices observation model
      match order.side with
      | .buy => return stop.toRat ≤ quoted.2.toRat
      | .sell => return quoted.1.toRat ≤ stop.toRat

/-- `_market_reference`. -/
def marketReference : Except ExecutionError (Decimal × Decimal) := do
  let quoted ← quotedPrices observation model
  return (if order.side = .buy then quoted.2 else quoted.1,
    if model.dataFidelity = .bar then model.barHalfSpreadBps else 0)

/-! ## The simulation -/

/-- The arrival of the order at the venue. -/
def arrival : Instant := ⟨order.submittedAt.microseconds + model.latencyMs * 1000⟩

/-- The warnings of a model. -/
def warnings : List String :=
  (match model.dataFidelity with
    | .bar => ["BAR fidelity cannot establish intrabar queue or event ordering"]
    | .topOfBook => ["TOP_OF_BOOK fidelity cannot establish queue priority"]
    | .book => []) ++
  if model.scenario = .optimistic then
    ["OPTIMISTIC execution evidence is not sufficient for promotion"]
  else []

variable [Fingerprint]

/-- An execution without a fill. -/
def unfilled (status : ExecutionStatus) (triggered : Bool) (reason : String) :
    SimulatedExecution :=
  ⟨status, 0, none, 0, arrival order model, none, observation.availableAt, triggered,
    model.fingerprint, model.scenario, model.dataFidelity, reason, warnings model⟩

/-- What follows for a stop order that is not triggered yet. -/
def awaitTrigger (capacity : Decimal) : Except ExecutionError SimulatedExecution := do
  let stop ← stopTouched order observation model
  if stop = false then
    return unfilled order observation model .noFill false "stop trigger was not reached"
  else if capacity.toRat ≤ 0 then
    return unfilled order observation model .noFill true
      "stop triggered but qualified participation capacity is below one lot"
  else
    let limit ← (if model.dataFidelity = .bar then limitTouched order observation model
      else .ok false)
    if limit = true then
      return unfilled order observation model .ambiguousNoFill true
        "BAR data cannot prove stop-before-limit intrabar ordering; wait for later liquidity"
    else
      return unfilled order observation model .noFill true
        "stop triggered; wait for later liquidity before limit execution"

/-- The execution of a quantity at a price. -/
def fillAt (capacity fillPrice : Decimal) : Except ExecutionError SimulatedExecution := do
  let notional ← exactProduct [capacity, fillPrice] "execution notional"
  let proportionalFee ← exactProduct [notional, model.feeRate] "execution fee"
  let status := if capacity = order.quantity then .filled else .partialFill
  return ⟨status, capacity, some fillPrice, maximum proportionalFee model.minimumFee,
    arrival order model, some observation.marketTime, observation.availableAt,
    order.alreadyTriggered, model.fingerprint, model.scenario, model.dataFidelity,
    if status = .filled then "full quantity executed under bounded conservative model"
    else "execution capped by qualified participation and available volume", warnings model⟩

/-- What follows when there is capacity for an order that may execute. -/
def execute (capacity : Decimal) : Except ExecutionError SimulatedExecution :=
  match order.orderType with
  | .market => do
      let reference ← marketReference order observation model
      let price ← marketProjectedPrice order observation model capacity reference.1 reference.2
      fillAt order observation model capacity price
  | _ => do
      let touched ← limitTouched order observation model
      if touched = false then
        return unfilled order observation model .noFill order.alreadyTriggered
          "limit price was not executable"
      else
        match order.limitPrice with
        | none => .error .assertion
        | some limit => fillAt order observation model capacity limit

/-- What follows when the liquidity is later than the arrival. -/
def meetLiquidity : Except ExecutionError SimulatedExecution := do
  let capacity ← capacityQuantity order observation model
  if order.orderType = .stopLimit ∧ order.alreadyTriggered = false then
    awaitTrigger order observation model capacity
  else if capacity.toRat ≤ 0 then
    return unfilled order observation model .noFill order.alreadyTriggered
      "qualified participation capacity is below one lot"
  else execute order observation model capacity

/-- `simulate_execution`. -/
def simulateExecution : Except ExecutionError SimulatedExecution := do
  if observation.instrumentVersion ≠ order.instrumentVersion then
    throw (.realism
      "liquidity instrument_version must exactly match order instrument_version")
  let _ ← (if order.orderType = .market then
      (requireMarketProjectionAuthority order model).map fun _ => ()
    else .ok ())
  if observation.marketTime ≤ arrival order model then
    return unfilled order observation model .waitingForLatency order.alreadyTriggered
      "liquidity is not strictly later than venue arrival"
  else if model.dataFidelity = .bar then
    match observation.intervalStart with
    | none => .error (.realism "BAR fidelity requires interval_start for causal volume")
    | some start =>
        if start < arrival order model then
          return unfilled order observation model .ambiguousNoFill order.alreadyTriggered
            ("BAR volume includes liquidity from before venue arrival; " ++
              "wait for a fully future interval")
        else meetLiquidity order observation model
  else meetLiquidity order observation model

end Simulation

end AutoTrade.Execution
