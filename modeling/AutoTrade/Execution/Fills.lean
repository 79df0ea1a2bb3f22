import AutoTrade.Execution.Realism

/-!
# What simulated fills guarantee

A fill of `simulate_execution` is later than the arrival of its order, within the qualified
capacity, at a price that the observation supports and no better than the configured costs.
-/

namespace AutoTrade.Execution

open Lib Numeric

attribute [local instance] FloatText.none

/-! ## Amounts -/

theorem maximum_toRat (left right : Decimal) :
    (maximum left right).toRat = max left.toRat right.toRat := by
  rw [maximum]
  split
  next below => exact (max_eq_right below.le).symm
  next above => exact (max_eq_left (not_lt.mp above)).symm

theorem minimum_toRat (left right : Decimal) :
    (minimum left right).toRat = min left.toRat right.toRat := by
  rw [minimum]
  split
  next below => exact (min_eq_right below.le).symm
  next above => exact (min_eq_left (not_lt.mp above)).symm

theorem boundedRational_eq_ok {value result : ℚ} {name : String}
    (success : boundedRational value name = .ok result) : result = value := by
  rw [boundedRational, mapError_eq_ok, boundedFraction, bind_eq_ok] at success
  obtain ⟨checked, -, same⟩ := success
  exact (pure_eq_ok.mp same).symm

/-- A quotient by a divisor that is not negative. -/
theorem quotient_eq_ok {value divisor result : ℚ} {name : String} (nonnegative : 0 ≤ divisor)
    (success : quotient value divisor name = .ok result) : result = value / divisor := by
  rw [quotient] at success
  split at success
  next positive => exact boundedRational_eq_ok success
  next vanishes =>
    have zero : divisor = 0 := le_antisymm (not_lt.mp vanishes) nonnegative
    rw [zero, div_zero]
    exact (Except.ok.inj success).symm

theorem exactProduct_pair {left right result : Decimal} {name : String}
    (success : exactProduct [left, right] name = .ok result) :
    result.toRat = left.toRat * right.toRat :=
  exactMultiply_pair (mapError_eq_ok.mp success)

section Simulation

variable {order : SimulatedOrder} {observation : LiquidityObservation} {model : ExecutionModel}

/-- The capacity is a multiple of the lot size within both limits. -/
theorem capacityQuantity_spec {capacity : Decimal}
    (success : capacityQuantity order observation model = .ok capacity) :
    (∃ lots : ℤ, capacity.toRat = order.lotSize.toRat * lots) ∧
      capacity.toRat ≤ order.quantity.toRat ∧
        capacity.toRat ≤ observation.availableVolume.toRat * model.maxParticipation.toRat := by
  rw [capacityQuantity, bind_eq_ok] at success
  obtain ⟨volume, product, rounds⟩ := success
  rw [roundDown, mapError_eq_ok] at rounds
  obtain ⟨-, multiple, below, -⟩ := roundToQuantum_lies rounds
  rw [minimum_toRat, exactProduct_pair product] at below
  exact ⟨multiple, below.trans (min_le_left _ _), below.trans (min_le_right _ _)⟩

/-! ## Limits -/

/-- The price that must reach the limit: the near end of a bar, the far side of the book. -/
def executablePrice (order : SimulatedOrder) (observation : LiquidityObservation)
    (model : ExecutionModel) : Option Decimal :=
  match model.dataFidelity, order.side with
  | .bar, .buy => observation.barLow
  | .bar, .sell => observation.barHigh
  | _, .buy => observation.ask
  | _, .sell => observation.bid

/-- A price is at least as good as the limit. -/
def Reaches (side : Side) (price limit : Decimal) : Prop :=
  match side with
  | .buy => price.toRat ≤ limit.toRat
  | .sell => limit.toRat ≤ price.toRat

theorem quotedPrices_eq_ok {quoted : Decimal × Decimal}
    (success : quotedPrices observation model = .ok quoted) :
    (model.dataFidelity = .bar → observation.barLow = some quoted.1 ∧
      observation.barHigh = some quoted.2) ∧
    (model.dataFidelity ≠ .bar → observation.bid = some quoted.1 ∧
      observation.ask = some quoted.2) := by
  rw [quotedPrices] at success
  split at success
  next bar =>
    split at success
    next low high lowEq highEq =>
      cases success
      exact ⟨fun _ => ⟨lowEq, highEq⟩, fun other => absurd bar other⟩
    next => cases success
  next book =>
    split at success
    next bid ask bidEq askEq =>
      cases success
      exact ⟨fun bar => absurd bar book, fun _ => ⟨bidEq, askEq⟩⟩
    next => cases success

theorem limitTouched_eq_true (touched : limitTouched order observation model = .ok true) :
    ∃ limit price, order.limitPrice = some limit ∧
      executablePrice order observation model = some price ∧ Reaches order.side price limit := by
  rw [limitTouched] at touched
  split at touched
  next => cases touched
  next limit limitEq =>
    rw [bind_eq_ok] at touched
    obtain ⟨quoted, quotes, reaches⟩ := touched
    obtain ⟨bar, book⟩ := quotedPrices_eq_ok quotes
    refine ⟨limit, ?_⟩
    rw [executablePrice]
    cases fidelity : model.dataFidelity <;> cases side : order.side <;>
      simp only [fidelity, side, pure_eq_ok, decide_eq_true_eq] at reaches
    · exact ⟨quoted.1, limitEq, (bar fidelity).1, reaches⟩
    · exact ⟨quoted.2, limitEq, (bar fidelity).2, reaches⟩
    · exact ⟨quoted.2, limitEq, (book (by rw [fidelity]; decide)).2, reaches⟩
    · exact ⟨quoted.1, limitEq, (book (by rw [fidelity]; decide)).1, reaches⟩
    · exact ⟨quoted.2, limitEq, (book (by rw [fidelity]; decide)).2, reaches⟩
    · exact ⟨quoted.1, limitEq, (book (by rw [fidelity]; decide)).1, reaches⟩

/-! ## Market prices -/

/-- The adverse end of the bar, or the far side of the book. -/
def adverseReference (order : SimulatedOrder) (observation : LiquidityObservation)
    (model : ExecutionModel) : Option Decimal :=
  match model.dataFidelity, order.side with
  | .bar, .buy => observation.barHigh
  | .bar, .sell => observation.barLow
  | _, .buy => observation.ask
  | _, .sell => observation.bid

/-- The spread that a bar does not show. -/
def spreadBps (model : ExecutionModel) : ℚ :=
  if model.dataFidelity = .bar then model.barHalfSpreadBps.toRat else 0

/-- All configured costs of a market order in basis points. -/
def totalBps (observation : LiquidityObservation) (model : ExecutionModel) (capacity : ℚ) : ℚ :=
  (spreadBps model + model.slippageBps.toRat + model.impactBpsAtMaxParticipation.toRat *
    min (capacity / observation.availableVolume.toRat / model.maxParticipation.toRat) 1) *
      model.scenarioCostMultiplier.toRat

/-- The reference moved against the order by all costs. -/
def adversePrice (side : Side) (reference costs : ℚ) : ℚ :=
  match side with
  | .buy => reference + reference * costs / 10000
  | .sell => reference - reference * costs / 10000

/-- The rounding against the order. -/
def adverseMode : Side → RoundingMode
  | .buy => .ceiling
  | .sell => .floor

/-- How a market order is priced. -/
structure MarketPriced (order : SimulatedOrder) (observation : LiquidityObservation)
    (model : ExecutionModel) (capacity price : Decimal) : Prop where
  priced : ∃ projection reference, model.priceProjection = some projection ∧
    projection.instrumentVersion = order.instrumentVersion ∧
      adverseReference order observation model = some reference ∧
        roundToQuantum (adversePrice order.side reference.toRat
          (totalBps observation model capacity.toRat)) projection.priceQuantum
            (adverseMode order.side) = .ok price
  positive : 0 < price.toRat

theorem marketReference_eq_ok {reference : Decimal × Decimal}
    (success : marketReference order observation model = .ok reference) :
    adverseReference order observation model = some reference.1 ∧
      reference.2.toRat = spreadBps model := by
  rw [marketReference, bind_eq_ok] at success
  obtain ⟨quoted, quotes, same⟩ := success
  rw [pure_eq_ok] at same
  subst same
  obtain ⟨bar, book⟩ := quotedPrices_eq_ok quotes
  constructor
  · rw [adverseReference]
    cases fidelity : model.dataFidelity <;> cases side : order.side
    · exact (bar fidelity).2
    · exact (bar fidelity).1
    · exact (book (by rw [fidelity]; decide)).2
    · exact (book (by rw [fidelity]; decide)).1
    · exact (book (by rw [fidelity]; decide)).2
    · exact (book (by rw [fidelity]; decide)).1
  · rw [spreadBps]
    by_cases bar : model.dataFidelity = .bar
    · simp only [if_pos bar]
    · simp only [if_neg bar, Decimal.toRat_zero]

theorem requireMarketProjectionAuthority_eq_ok {projection : ExecutionPriceProjectionPolicy}
    (success : requireMarketProjectionAuthority order model = .ok projection) :
    model.priceProjection = some projection ∧
      projection.instrumentVersion = order.instrumentVersion := by
  rw [requireMarketProjectionAuthority] at success
  split at success
  next => cases success
  next other found =>
    split at success
    next => cases success
    next same =>
      cases success
      exact ⟨found, not_not.mp same⟩

theorem marketProjectedPrice_eq_ok {capacity base spread price : Decimal}
    (success : marketProjectedPrice order observation model capacity base spread = .ok price)
    (reference : adverseReference order observation model = some base)
    (spreadEq : spread.toRat = spreadBps model) :
    MarketPriced order observation model capacity price := by
  simp only [marketProjectedPrice, bind_eq_ok, throw_unless_eq_ok, pure_eq_ok,
    mapError_eq_ok] at success
  obtain ⟨projection, authority, onGrid, -, -, participation, participates, fraction, fractions,
    impact, impacts, before, befores, total, totals, delta, deltas, unrounded, moves, rounded,
    rounds, positive, rfl⟩ := success
  have participationEq := quotient_eq_ok observation.volume_nonneg participates
  have fractionEq := quotient_eq_ok model.participation_bounds.1 fractions
  have totalEq : total = totalBps observation model capacity.toRat := by
    rw [totalBps, boundedRational_eq_ok totals, boundedRational_eq_ok befores,
      boundedRational_eq_ok impacts, fractionEq, participationEq, spreadEq]
  obtain ⟨found, version⟩ := requireMarketProjectionAuthority_eq_ok authority
  refine ⟨⟨projection, base, found, version, reference, ?_⟩, not_le.mp positive⟩
  rw [boundedRational_eq_ok moves, boundedRational_eq_ok deltas, totalEq] at rounds
  cases side : order.side with
  | buy =>
      rw [side] at rounds
      exact rounds
  | sell =>
      rw [side] at rounds
      exact rounds

/-! ## Fills -/

/-- What an execution with a fill guarantees. -/
structure Fill (order : SimulatedOrder) (observation : LiquidityObservation)
    (model : ExecutionModel) (execution : SimulatedExecution) : Prop where
  later : arrival order model < observation.marketTime
  interval : model.dataFidelity = .bar → ∃ start, observation.intervalStart = some start ∧
    arrival order model ≤ start
  capacity : capacityQuantity order observation model = .ok execution.filledQuantity
  positive : 0 < execution.filledQuantity.toRat
  triggered : order.orderType = .stopLimit → order.alreadyTriggered = true
  limit : order.orderType ≠ .market → ∃ limit price, order.limitPrice = some limit ∧
    execution.fillPrice = some limit ∧ executablePrice order observation model = some price ∧
      Reaches order.side price limit
  market : order.orderType = .market → ∃ price, execution.fillPrice = some price ∧
    MarketPriced order observation model execution.filledQuantity price
  fee : ∀ price ∈ execution.fillPrice, execution.fee.toRat =
    max (execution.filledQuantity.toRat * price.toRat * model.feeRate.toRat) model.minimumFee.toRat
  status : execution.status =
    if execution.filledQuantity = order.quantity then .filled else .partialFill

/-- An execution without a fill. -/
structure Unfilled (execution : SimulatedExecution) : Prop where
  status : execution.status ≠ .filled ∧ execution.status ≠ .partialFill
  quantity : execution.filledQuantity = 0
  price : execution.fillPrice = none
  fee : execution.fee = 0

variable [Fingerprint]

theorem unfilled_unfilled {status : ExecutionStatus} {triggered : Bool} {reason : String}
    (other : status ≠ .filled ∧ status ≠ .partialFill) :
    Unfilled (unfilled order observation model status triggered reason) :=
  ⟨other, rfl, rfl, rfl⟩

theorem unfilled_of_awaitTrigger {capacity : Decimal} {execution : SimulatedExecution}
    (success : awaitTrigger order observation model capacity = .ok execution) :
    Unfilled execution := by
  rw [awaitTrigger, bind_eq_ok] at success
  obtain ⟨stop, -, success⟩ := success
  split at success
  next =>
    cases success
    exact unfilled_unfilled (by decide)
  next =>
    split at success
    next =>
      cases success
      exact unfilled_unfilled (by decide)
    next =>
      rw [bind_eq_ok] at success
      obtain ⟨limit, -, success⟩ := success
      split at success
      next =>
        cases success
        exact unfilled_unfilled (by decide)
      next =>
        cases success
        exact unfilled_unfilled (by decide)

/-- What `fillAt` reports. -/
theorem fillAt_eq_ok {capacity price : Decimal} {execution : SimulatedExecution}
    (success : fillAt order observation model capacity price = .ok execution) :
    execution.filledQuantity = capacity ∧ execution.fillPrice = some price ∧
      execution.fee.toRat =
        max (capacity.toRat * price.toRat * model.feeRate.toRat) model.minimumFee.toRat ∧
      execution.status = if capacity = order.quantity then .filled else .partialFill := by
  simp only [fillAt, bind_eq_ok, pure_eq_ok] at success
  obtain ⟨notional, product, fee, charges, rfl⟩ := success
  refine ⟨rfl, rfl, ?_, rfl⟩
  rw [maximum_toRat, exactProduct_pair charges, exactProduct_pair product]

/-- The last step fills, or finds the limit out of reach. -/
theorem execute_cases {capacity : Decimal} {execution : SimulatedExecution}
    (later : arrival order model < observation.marketTime)
    (interval : model.dataFidelity = .bar → ∃ start, observation.intervalStart = some start ∧
      arrival order model ≤ start)
    (capacityEq : capacityQuantity order observation model = .ok capacity)
    (positive : 0 < capacity.toRat)
    (triggered : order.orderType = .stopLimit → order.alreadyTriggered = true)
    (success : execute order observation model capacity = .ok execution) :
    Unfilled execution ∨ Fill order observation model execution := by
  rw [execute] at success
  split at success
  next marketOrder =>
    simp only [bind_eq_ok] at success
    obtain ⟨reference, refers, price, prices, success⟩ := success
    obtain ⟨quantity, priceEq, fee, status⟩ := fillAt_eq_ok success
    obtain ⟨adverse, spread⟩ := marketReference_eq_ok refers
    right
    refine ⟨later, interval, quantity ▸ capacityEq, quantity ▸ positive, triggered, ?_, ?_, ?_,
      quantity ▸ status⟩
    · exact fun other => absurd marketOrder other
    · intro _
      refine ⟨price, priceEq, ?_⟩
      rw [quantity]
      exact marketProjectedPrice_eq_ok prices adverse spread
    · intro other found
      rw [priceEq, Option.mem_some_iff] at found
      rw [← found, quantity]
      exact fee
  next otherOrder =>
    rw [bind_eq_ok] at success
    obtain ⟨touched, touches, success⟩ := success
    split at success
    next =>
      cases success
      exact .inl (unfilled_unfilled (by decide))
    next reached =>
      have touchedTrue : touched = true := Bool.eq_true_of_not_eq_false reached
      rw [touchedTrue] at touches
      obtain ⟨limit, price, limitEq, executable, reaches⟩ := limitTouched_eq_true touches
      simp only [limitEq] at success
      obtain ⟨quantity, priceEq, fee, status⟩ := fillAt_eq_ok success
      right
      refine ⟨later, interval, quantity ▸ capacityEq, quantity ▸ positive, triggered, ?_, ?_, ?_,
        quantity ▸ status⟩
      · exact fun _ => ⟨limit, price, limitEq, priceEq, executable, reaches⟩
      · exact fun marketOrder => absurd marketOrder otherOrder
      · intro other found
        rw [priceEq, Option.mem_some_iff] at found
        rw [← found, quantity]
        exact fee

theorem meetLiquidity_cases {execution : SimulatedExecution}
    (later : arrival order model < observation.marketTime)
    (interval : model.dataFidelity = .bar → ∃ start, observation.intervalStart = some start ∧
      arrival order model ≤ start)
    (success : meetLiquidity order observation model = .ok execution) :
    Unfilled execution ∨ Fill order observation model execution := by
  rw [meetLiquidity, bind_eq_ok] at success
  obtain ⟨capacity, capacityEq, success⟩ := success
  split at success
  next => exact .inl (unfilled_of_awaitTrigger success)
  next ready =>
    split at success
    next =>
      cases success
      exact .inl (unfilled_unfilled (by decide))
    next positive =>
      apply execute_cases later interval capacityEq (not_le.mp positive) _ success
      intro stop
      rw [not_and] at ready
      exact Bool.eq_true_of_not_eq_false (ready stop)

/-- Every execution is without a fill, or its fill keeps all guarantees. -/
theorem simulateExecution_cases {execution : SimulatedExecution}
    (success : simulateExecution order observation model = .ok execution) :
    Unfilled execution ∨ Fill order observation model execution := by
  simp only [simulateExecution, throw_unless_eq_ok, bind_eq_ok] at success
  obtain ⟨-, -, -, success⟩ := success
  split at success
  next =>
    cases success
    exact .inl (unfilled_unfilled (by decide))
  next later =>
    rw [not_le] at later
    split at success
    next bar =>
      split at success
      next => cases success
      next start startEq =>
        split at success
        next =>
          cases success
          exact .inl (unfilled_unfilled (by decide))
        next causal =>
          exact meetLiquidity_cases later (fun _ => ⟨start, startEq, not_lt.mp causal⟩) success
    next book => exact meetLiquidity_cases later (fun bar => absurd bar book) success

/-! ## Costs -/

/-- The model with no smaller cost, and the same in all else that prices a fill. -/
structure Costlier (model costlier : ExecutionModel) : Prop where
  dataFidelity : costlier.dataFidelity = model.dataFidelity
  feeRate : costlier.feeRate = model.feeRate
  minimumFee : costlier.minimumFee = model.minimumFee
  maxParticipation : costlier.maxParticipation = model.maxParticipation
  priceProjection : costlier.priceProjection = model.priceProjection
  slippage : model.slippageBps.toRat ≤ costlier.slippageBps.toRat
  impact : model.impactBpsAtMaxParticipation.toRat ≤ costlier.impactBpsAtMaxParticipation.toRat
  spread : model.barHalfSpreadBps.toRat ≤ costlier.barHalfSpreadBps.toRat
  multiplier : model.scenarioCostMultiplier.toRat ≤ costlier.scenarioCostMultiplier.toRat

end Simulation

section Costs

variable {order : SimulatedOrder} {observation : LiquidityObservation}
  {model costlier : ExecutionModel}

theorem spreadBps_nonneg (model : ExecutionModel) : 0 ≤ spreadBps model := by
  rw [spreadBps]
  split
  next => exact model.spread_nonneg
  next => exact le_rfl

theorem spreadBps_mono (costs : Costlier model costlier) :
    spreadBps model ≤ spreadBps costlier := by
  rw [spreadBps, spreadBps, costs.dataFidelity]
  split
  next => exact costs.spread
  next => exact le_rfl

/-- The share of the impact is the same, and every cost is multiplied by a positive factor. -/
theorem totalBps_mono (costs : Costlier model costlier) {capacity : ℚ} (positive : 0 < capacity) :
    totalBps observation model capacity ≤ totalBps observation costlier capacity := by
  have share : 0 ≤ min (capacity / observation.availableVolume.toRat /
      model.maxParticipation.toRat) 1 := by
    apply le_min _ zero_le_one
    exact div_nonneg (div_nonneg positive.le observation.volume_nonneg)
      model.participation_bounds.1
  have impact := mul_le_mul_of_nonneg_right costs.impact share
  have spread := spreadBps_mono costs
  have inner : 0 ≤ spreadBps costlier + costlier.slippageBps.toRat +
      costlier.impactBpsAtMaxParticipation.toRat *
        min (capacity / observation.availableVolume.toRat / model.maxParticipation.toRat) 1 :=
    add_nonneg (add_nonneg (spreadBps_nonneg costlier) costlier.slippage_nonneg)
      (mul_nonneg costlier.impact_nonneg share)
  rw [totalBps, totalBps, costs.maxParticipation]
  apply mul_le_mul _ costs.multiplier model.multiplier_pos.le inner
  linarith [costs.slippage]

theorem adverseReference_pos {reference : Decimal}
    (found : adverseReference order observation model = some reference) : 0 < reference.toRat := by
  have quoted : adverseReference order observation model ∈
      [observation.bid, observation.ask, observation.barHigh, observation.barLow] := by
    rw [adverseReference]
    cases model.dataFidelity <;> cases order.side <;> simp
  exact observation.prices_pos _ quoted reference (Option.mem_def.mpr found)

/-- Higher costs move a market price against the order. -/
theorem marketPriced_mono (costs : Costlier model costlier) {capacity price other : Decimal}
    (positive : 0 < capacity.toRat) (priced : MarketPriced order observation model capacity price)
    (pricedOther : MarketPriced order observation costlier capacity other) :
    match order.side with
    | .buy => price.toRat ≤ other.toRat
    | .sell => other.toRat ≤ price.toRat := by
  obtain ⟨projection, reference, projects, -, refers, rounds⟩ := priced.priced
  obtain ⟨another, again, projectsOther, -, refersOther, roundsOther⟩ := pricedOther.priced
  have sameReference : adverseReference order observation costlier =
      adverseReference order observation model := by
    rw [adverseReference, adverseReference, costs.dataFidelity]
  rw [costs.priceProjection, projects, Option.some.injEq] at projectsOther
  rw [sameReference, refers, Option.some.injEq] at refersOther
  subst projectsOther refersOther
  have total := @totalBps_mono observation _ _ costs _ positive
  have moved : reference.toRat * totalBps observation model capacity.toRat / 10000 ≤
      reference.toRat * totalBps observation costlier capacity.toRat / 10000 := by
    apply div_le_div_of_nonneg_right _ (by norm_num)
    exact mul_le_mul_of_nonneg_left total (adverseReference_pos refers).le
  cases side : order.side with
  | buy =>
      rw [side] at rounds roundsOther
      exact roundToQuantum_mono (add_le_add_right moved _) rounds roundsOther
  | sell =>
      rw [side] at rounds roundsOther
      exact roundToQuantum_mono (sub_le_sub_left moved _) roundsOther rounds

/-- The cost of a fill with its fee. -/
def totalCost (execution : SimulatedExecution) : ℚ :=
  execution.filledQuantity.toRat * (execution.fillPrice.map Decimal.toRat).getD 0 +
    execution.fee.toRat

theorem totalCost_mono (costs : Costlier model costlier) {execution other : SimulatedExecution}
    (fill : Fill order observation model execution)
    (fillOther : Fill order observation costlier other) {price priceOther : Decimal}
    (found : execution.fillPrice = some price) (foundOther : other.fillPrice = some priceOther)
    (ordered : price.toRat ≤ priceOther.toRat)
    (quantity : other.filledQuantity = execution.filledQuantity) :
    totalCost execution ≤ totalCost other := by
  have notional : execution.filledQuantity.toRat * price.toRat ≤
      execution.filledQuantity.toRat * priceOther.toRat :=
    mul_le_mul_of_nonneg_left ordered fill.positive.le
  have charged := mul_le_mul_of_nonneg_right notional model.fee_nonneg.1
  have fee : execution.fee.toRat ≤ other.fee.toRat := by
    rw [fill.fee price found, fillOther.fee priceOther foundOther, quantity, costs.feeRate,
      costs.minimumFee]
    exact max_le_max charged le_rfl
  rw [totalCost, totalCost, found, foundOther, quantity]
  exact add_le_add notional fee

end Costs

/-! ## Simulated fills -/

/-- What a positive fill guarantees. -/
structure Guarantees (order : SimulatedOrder) (observation : LiquidityObservation)
    (model : ExecutionModel) (execution : SimulatedExecution) : Prop where
  later : arrival order model < observation.marketTime
  interval : model.dataFidelity = .bar → ∃ start, observation.intervalStart = some start ∧
    arrival order model ≤ start
  lots : ∃ lots : ℤ, execution.filledQuantity.toRat = order.lotSize.toRat * lots
  bounded : execution.filledQuantity.toRat ≤ min order.quantity.toRat
    (observation.availableVolume.toRat * model.maxParticipation.toRat)
  triggered : order.orderType = .stopLimit → order.alreadyTriggered = true
  limit : order.orderType ≠ .market → ∃ limit price, order.limitPrice = some limit ∧
    execution.fillPrice = some limit ∧ executablePrice order observation model = some price ∧
      Reaches order.side price limit
  market : order.orderType = .market → ∃ price projection reference,
    execution.fillPrice = some price ∧ model.priceProjection = some projection ∧
      adverseReference order observation model = some reference ∧
      (∃ ticks : ℤ, price.toRat = projection.priceQuantum.toRat * ticks) ∧
      match order.side with
      | .buy => adversePrice .buy reference.toRat
          (totalBps observation model execution.filledQuantity.toRat) ≤ price.toRat
      | .sell => price.toRat ≤ adversePrice .sell reference.toRat
          (totalBps observation model execution.filledQuantity.toRat)

theorem guarantees_of_fill {order : SimulatedOrder} {observation : LiquidityObservation}
    {model : ExecutionModel} {execution : SimulatedExecution}
    (fill : Fill order observation model execution) :
    Guarantees order observation model execution := by
  obtain ⟨lots, quantity, volume⟩ := capacityQuantity_spec fill.capacity
  refine ⟨fill.later, fill.interval, lots, le_min quantity volume, fill.triggered, fill.limit, ?_⟩
  intro marketOrder
  obtain ⟨price, found, priced⟩ := fill.market marketOrder
  obtain ⟨projection, reference, projects, -, refers, rounds⟩ := priced.priced
  obtain ⟨-, ticks, lies⟩ := roundToQuantum_lies rounds
  refine ⟨price, projection, reference, found, projects, refers, ticks, ?_⟩
  cases side : order.side with
  | buy =>
      rw [side] at lies
      exact lies.2
  | sell =>
      rw [side] at lies
      exact lies.1

theorem fill_of_pos [Fingerprint] {order : SimulatedOrder} {observation : LiquidityObservation}
    {model : ExecutionModel} {execution : SimulatedExecution}
    (success : simulateExecution order observation model = .ok execution)
    (positive : 0 < execution.filledQuantity.toRat) : Fill order observation model execution := by
  rcases simulateExecution_cases success with unfilled | fill
  · rw [unfilled.quantity] at positive
    exact absurd positive (lt_irrefl _)
  · exact fill

/-- Fills are causal, bounded and conservative, and higher costs never improve a market fill. -/
theorem simulated_fills_conservative [Fingerprint] (order : SimulatedOrder)
    (observation : LiquidityObservation) :
    (∀ (model : ExecutionModel) (execution : SimulatedExecution),
      simulateExecution order observation model = .ok execution →
        (0 < execution.filledQuantity.toRat → Guarantees order observation model execution) ∧
        (execution.status = .filled ↔ execution.filledQuantity = order.quantity) ∧
        (execution.status = .partialFill ↔ 0 < execution.filledQuantity.toRat ∧
          execution.filledQuantity.toRat < order.quantity.toRat) ∧
        (execution.status ≠ .filled → execution.status ≠ .partialFill →
          execution.filledQuantity = 0 ∧ execution.fee = 0 ∧ execution.fillPrice = none)) ∧
    ∀ (model costlier : ExecutionModel) (execution other : SimulatedExecution),
      Costlier model costlier → order.orderType = .market →
      simulateExecution order observation model = .ok execution →
      simulateExecution order observation costlier = .ok other →
      0 < execution.filledQuantity.toRat → 0 < other.filledQuantity.toRat →
        ∃ price priceOther, execution.fillPrice = some price ∧ other.fillPrice = some priceOther ∧
          (order.side = .buy → price.toRat ≤ priceOther.toRat ∧
            totalCost execution ≤ totalCost other) ∧
          (order.side = .sell → priceOther.toRat ≤ price.toRat) := by
  constructor
  · intro model execution success
    constructor
    · exact fun positive => guarantees_of_fill (fill_of_pos success positive)
    · rcases simulateExecution_cases success with unfilled | fill
      · have different : execution.filledQuantity ≠ order.quantity := by
          intro same
          have quantity := order.quantity_pos
          rw [← same, unfilled.quantity] at quantity
          exact lt_irrefl _ quantity
        have nothing : ¬ 0 < execution.filledQuantity.toRat := by
          rw [unfilled.quantity]
          exact lt_irrefl _
        refine ⟨iff_of_false unfilled.status.1 different,
          iff_of_false unfilled.status.2 fun both => nothing both.1, ?_⟩
        exact fun _ _ => ⟨unfilled.quantity, unfilled.fee, unfilled.price⟩
      · obtain ⟨-, within, -⟩ := capacityQuantity_spec fill.capacity
        rw [fill.status]
        by_cases full : execution.filledQuantity = order.quantity
        · rw [if_pos full]
          refine ⟨iff_of_true rfl full, iff_of_false (by decide) fun both => ?_, ?_⟩
          · rw [full] at both
            exact lt_irrefl _ both.2
          · exact fun other => absurd rfl other
        · rw [if_neg full]
          have less : execution.filledQuantity.toRat < order.quantity.toRat :=
            lt_of_le_of_ne within fun same => full (Decimal.ext same)
          refine ⟨iff_of_false (by decide) full, iff_of_true rfl ⟨fill.positive, less⟩, ?_⟩
          exact fun _ other => absurd rfl other
  · intro model costlier execution other costs marketOrder success successOther positive
      positiveOther
    have fill := fill_of_pos success positive
    have fillOther := fill_of_pos successOther positiveOther
    have capacity : capacityQuantity order observation costlier =
        capacityQuantity order observation model := by
      rw [capacityQuantity, capacityQuantity, costs.maxParticipation]
    have quantity : other.filledQuantity = execution.filledQuantity := by
      have own := fillOther.capacity
      rw [capacity, fill.capacity, Except.ok.injEq] at own
      exact own.symm
    obtain ⟨price, found, priced⟩ := fill.market marketOrder
    obtain ⟨priceOther, foundOther, pricedOther⟩ := fillOther.market marketOrder
    rw [quantity] at pricedOther
    have moved := marketPriced_mono costs positive priced pricedOther
    refine ⟨price, priceOther, found, foundOther, ?_, ?_⟩
    · intro side
      rw [side] at moved
      exact ⟨moved, totalCost_mono costs fill fillOther found foundOther moved quantity⟩
    · intro side
      rw [side] at moved
      exact moved

section Sample

attribute [local instance] Fingerprint.plain

/-- A small whole number. -/
def units (number : ℕ) (small : number < 10 ^ 9) : Decimal :=
  ⟨number, 0, Nat.zero_le _, number, by simp, by
    rw [Int.natAbs_natCast]
    exact small.trans (Nat.pow_lt_pow_right (by norm_num) (by decide))⟩

/-- Half of the visible volume may be taken, at no cost. -/
def sampleModel : ExecutionModel where
  modelVersion := "model:1"
  calibrationSha256 := "calibration"
  dataFidelity := .book
  scenario := .base
  latencyMs := 5
  feeRate := 0
  minimumFee := 0
  maxParticipation := ⟨1 / 2, 1, by decide, 5, by norm_num, by decide⟩
  slippageBps := 0
  impactBpsAtMaxParticipation := 0
  barHalfSpreadBps := 0
  scenarioCostMultiplier := units 1 (by norm_num)
  priceProjection := none
  fee_nonneg := by simp
  participation_bounds := by norm_num
  slippage_nonneg := by simp
  impact_nonneg := by simp
  spread_nonneg := by simp
  multiplier_pos := by norm_num [units]
  multiplier_scenario := by norm_num [units]

/-- A limit order for ten units. -/
def sampleOrder : SimulatedOrder where
  orderId := "order-1"
  instrumentVersion := "ABC@1"
  side := .buy
  orderType := .limit
  quantity := units 10 (by norm_num)
  submittedAt := ⟨0⟩
  lotSize := units 1 (by norm_num)
  limitPrice := some (units 20 (by norm_num))
  stopPrice := none
  alreadyTriggered := false
  quantity_pos := by norm_num [units]
  lot_pos := by norm_num [units]
  quantity_multiple := ⟨10, by norm_num [units]⟩
  limit_pos := by simp [units]
  stop_pos := by simp
  limit_given := by simp
  stop_given := by simp
  triggered_stop := by simp

/-- A book with ten units on each side. -/
def sampleObservation : LiquidityObservation where
  instrumentVersion := "ABC@1"
  marketTime := ⟨6000⟩
  availableAt := ⟨6000⟩
  availableVolume := units 10 (by norm_num)
  intervalStart := none
  bid := some (units 18 (by norm_num))
  ask := some (units 19 (by norm_num))
  barHigh := none
  barLow := none
  available_later := le_rfl
  volume_nonneg := by norm_num [units]
  interval_earlier := by simp
  prices_pos := by simp [units]
  book_ordered := by norm_num [units]
  bar_ordered := by simp

/-- Five of the ten units are executed. -/
theorem sample_partial : ∃ execution,
    simulateExecution sampleOrder sampleObservation sampleModel = .ok execution ∧
      execution.status = .partialFill ∧ execution.filledQuantity = units 5 (by decide) := by
  refine ⟨_, eq_ok_get (by decide +kernel), ?_⟩
  decide +kernel

/-- The partial fill is causal, within the participation and at the limit. -/
theorem sample_guarantees : ∃ execution,
    simulateExecution sampleOrder sampleObservation sampleModel = .ok execution ∧
      Guarantees sampleOrder sampleObservation sampleModel execution := by
  obtain ⟨execution, success, -, quantity⟩ := sample_partial
  refine ⟨execution, success, ?_⟩
  apply ((simulated_fills_conservative sampleOrder sampleObservation).1 sampleModel execution
    success).1
  rw [quantity]
  norm_num [units]

/-- An execution that is not filled may have a quantity and a price. -/
theorem partial_fill_has_quantity :
    ¬ ∀ (order : SimulatedOrder) (observation : LiquidityObservation) (model : ExecutionModel)
      (execution : SimulatedExecution),
      simulateExecution order observation model = .ok execution → execution.status ≠ .filled →
        execution.filledQuantity = 0 ∧ execution.fee = 0 ∧ execution.fillPrice = none := by
  intro claimed
  obtain ⟨execution, success, status, quantity⟩ := sample_partial
  have different : execution.status ≠ .filled := by
    rw [status]
    decide
  have nothing := (claimed _ _ _ execution success different).1
  rw [quantity] at nothing
  revert nothing
  decide +kernel

end Sample

end AutoTrade.Execution
