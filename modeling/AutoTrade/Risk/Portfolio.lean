import AutoTrade.Risk.Projection

/-!
# What a projection computes

The quantities of the portfolio before and after an intent, the symbols that are exposed
and the gross and net exposure as exact rationals.
-/

namespace AutoTrade.Risk

open Lib Numeric

/-! ## Quantities -/

/-- The quantity before the intent, reservations included. -/
def baseQuantity (context : RiskContext) (symbol : String) : ℚ :=
  (quantityOf context.positions symbol).toRat +
    (quantityOf context.reservedPositionDelta symbol).toRat

/-- The quantity of the intent with its sign. -/
def intentQuantity (intent : RiskIntent) : ℚ :=
  match intent.side with
  | .buy => intent.quantity.toRat
  | .sell => -intent.quantity.toRat

/-- The quantity after the intent, reservations included. -/
def projectedQuantity (intent : RiskIntent) (context : RiskContext) (symbol : String) : ℚ :=
  baseQuantity context symbol + if symbol = intent.symbol then intentQuantity intent else 0

theorem signedQuantity_eq {intent : RiskIntent} {signed : Decimal}
    (success : signedQuantity intent = .ok signed) : signed.toRat = intentQuantity intent := by
  rw [signedQuantity] at success
  rw [intentQuantity]
  cases side : intent.side with
  | buy =>
      rw [side] at success
      rw [← Except.ok.inj success]
  | sell =>
      rw [side] at success
      exact riskNegate_eq_ok.mp success

theorem quantityOf_set (mapping : Dict String Decimal) (symbol other : String)
    (quantity : Decimal) : quantityOf (mapping.set symbol quantity) other =
      if symbol = other then quantity else quantityOf mapping other := by
  rw [quantityOf, Dict.get?_set]
  split
  next => rfl
  next => rfl

/-- The reservations are added to the positions. -/
theorem reservedPositions_eq {context : RiskContext} {positions : Dict String Decimal}
    (success : reservedPositions context = .ok positions) (symbol : String) :
    (quantityOf positions symbol).toRat = baseQuantity context symbol := by
  have folded : ∀ (entries : List (String × Decimal)) (start finish : Dict String Decimal),
      (entries.map Prod.fst).Nodup →
      entries.foldlM (fun positions entry => do
        let quantity ← riskAdd (quantityOf positions entry.1) entry.2
        return positions.set entry.1 quantity) start = .ok finish →
      (quantityOf finish symbol).toRat =
        (quantityOf start symbol).toRat + ((Dict.find? symbol entries).getD 0).toRat := by
    intro entries
    induction entries with
    | nil =>
        intro start finish _ returned
        cases returned
        exact (add_zero _).symm
    | cons entry rest ih =>
        intro start finish distinct returned
        rw [List.map_cons, List.nodup_cons] at distinct
        simp only [List.foldlM_cons, bind_eq_ok, pure_eq_ok] at returned
        obtain ⟨middle, ⟨quantity, added, rfl⟩, tail⟩ := returned
        rw [ih _ _ distinct.2 tail, quantityOf_set, Dict.find?]
        split
        next same =>
          have absent : Dict.find? symbol rest = none := by
            rw [Dict.find?_eq_none, ← same]
            exact distinct.1
          rw [absent, riskAdd_eq_ok.mp added, same]
          exact add_zero _
        next => rfl
  exact folded _ _ _ context.reservedPositionDelta.nodup success

/-- The intent is added to the position of its symbol. -/
theorem projectedPositions_eq {intent : RiskIntent} {context : RiskContext}
    {signed projected : Decimal} {positions : Dict String Decimal}
    (signedEq : signedQuantity intent = .ok signed)
    (reservedEq : reservedPositions context = .ok positions)
    (projectedEq : riskAdd (quantityOf positions intent.symbol) signed = .ok projected)
    (symbol : String) : (quantityOf (positions.set intent.symbol projected) symbol).toRat =
      projectedQuantity intent context symbol := by
  rw [quantityOf_set, projectedQuantity]
  by_cases same : symbol = intent.symbol
  · rw [if_pos same.symm, if_pos same, riskAdd_eq_ok.mp projectedEq,
      reservedPositions_eq reservedEq, signedQuantity_eq signedEq, same]
  · rw [if_neg (Ne.symm same), if_neg same, reservedPositions_eq reservedEq, add_zero]

/-! ## Exposures -/

/-- The exposure of one unit of a symbol with a mark. -/
def unitExposure (intent : RiskIntent) (context : RiskContext) (symbol : String) : ℚ :=
  let mark := quantityOf context.marks symbol
  if isDerivativeSymbol intent context symbol then
    ((context.equivalentExposurePerUnit.get? symbol).getD mark).toRat
  else mark.toRat

theorem exposurePerUnit_eq {intent : RiskIntent} {context : RiskContext} {symbol : String}
    {exposure : Decimal} (success : exposurePerUnit intent context symbol = .ok exposure) :
    symbol ∈ context.marks.keys ∧ exposure.toRat = unitExposure intent context symbol := by
  simp only [exposurePerUnit, bind_eq_ok, pure_eq_ok, lookup_eq_ok] at success
  obtain ⟨mark, found, rfl⟩ := success
  constructor
  · exact Dict.mem_keys.mpr ⟨mark, found⟩
  · simp only [unitExposure, quantityOf, found, Option.getD_some]
    split
    next => rfl
    next => rfl

/-- The symbols with an exposure are those with a quantity. -/
theorem mem_keys_notionalsOf {intent : RiskIntent} {context : RiskContext}
    {positions notionals : Dict String Decimal}
    (success : notionalsOf intent context positions = .ok notionals) {symbol : String} :
    symbol ∈ notionals.keys ↔ quantityOf positions symbol ≠ 0 := by
  rw [Dict.keys_traverse success, Dict.mem_keys, Dict.get?_filterValues, quantityOf]
  cases positions.get? symbol with
  | none => simp
  | some quantity => simp [Option.filter]

/-- The exposure of a symbol is its quantity times the exposure of one unit. -/
theorem notional_eq {intent : RiskIntent} {context : RiskContext}
    {positions notionals : Dict String Decimal}
    (success : notionalsOf intent context positions = .ok notionals) {symbol : String}
    {notional : Decimal} (found : notionals.get? symbol = some notional) :
    notional.toRat = (quantityOf positions symbol).toRat * unitExposure intent context symbol := by
  obtain ⟨quantity, listed, computed⟩ := Dict.get?_traverse success found
  rw [Dict.get?_filterValues, Option.filter_eq_some_iff] at listed
  simp only [bind_eq_ok] at computed
  obtain ⟨exposure, exposureEq, product⟩ := computed
  rw [riskProduct_eq product, (exposurePerUnit_eq exposureEq).2, quantityOf, listed.1]
  rfl

theorem grossOf_eq {notionals : Dict String Decimal} {gross : Decimal}
    (success : grossOf notionals = .ok gross) :
    gross.toRat = (notionals.values.map fun notional => |notional.toRat|).sum := by
  apply riskSum_map _ success
  intro notional _ size computed
  exact riskAbs_eq_ok.mp computed

theorem netOf_eq {notionals : Dict String Decimal} {net : Decimal}
    (success : netOf notionals = .ok net) :
    net.toRat = |(notionals.values.map Decimal.toRat).sum| := by
  rw [netOf, bind_eq_ok] at success
  obtain ⟨total, totalEq, netEq⟩ := success
  rw [riskAbs_eq_ok.mp netEq, riskSum_values totalEq]

/-! ## The checks of the instrument types -/

/-- No directional type has an equivalent exposure that is not positive. -/
def DirectionalPositive (intent : RiskIntent) (context : RiskContext) : Prop :=
  ∀ symbol type, (context.instrumentTypes.get? symbol = some type ∨
      symbol = intent.symbol ∧ type = intent.instrumentType) → type.isDirectional = true →
    ∀ exposure ∈ context.equivalentExposurePerUnit.get? symbol, 0 < exposure

theorem checkDirectional_eq_ok {context : RiskContext} {symbol : String} {type : InstrumentType} :
    checkDirectional context symbol type = .ok () ↔ (type.isDirectional = true →
      ∀ exposure ∈ context.equivalentExposurePerUnit.get? symbol, 0 < exposure) := by
  rw [checkDirectional, guard_eq_ok, and_iff_left rfl, not_and, not_exists]
  apply imp_congr_right
  intro _
  simp only [not_and, Decimal.le_def, Decimal.lt_def, Decimal.toRat_zero, not_le]

theorem checkInstrumentTypes_eq_ok {intent : RiskIntent} {context : RiskContext} :
    checkInstrumentTypes intent context = .ok () ↔
      (∀ declared ∈ context.instrumentTypes.get? intent.symbol,
        declared = intent.instrumentType) ∧ DirectionalPositive intent context := by
  have checks : (do
        context.instrumentTypes.entries.forM fun entry => checkDirectional context entry.1 entry.2
        checkDirectional context intent.symbol intent.instrumentType) = .ok () ↔
      DirectionalPositive intent context := by
    rw [bind_eq_ok]
    constructor
    · intro passed symbol type typed
      obtain ⟨⟨⟩, all, own⟩ := passed
      apply checkDirectional_eq_ok.mp
      rcases typed with declared | ⟨rfl, rfl⟩
      · exact forM_eq_ok.mp all (symbol, type) (Dict.mem_entries.mpr declared)
      · exact own
    · intro positive
      refine ⟨(), forM_eq_ok.mpr ?_, ?_⟩
      · intro entry listed
        apply checkDirectional_eq_ok.mpr
        exact positive entry.1 entry.2 (Or.inl (Dict.mem_entries.mp listed))
      · exact checkDirectional_eq_ok.mpr (positive _ _ (Or.inr ⟨rfl, rfl⟩))
  rw [checkInstrumentTypes, throw_unless_eq_ok, checks]
  simp only [not_exists, not_and, not_not]

/-! ## The projection -/

/-- What a projection consists of. -/
structure Projected (intent : RiskIntent) (context : RiskContext) (projection : Projection) :
    Prop where
  directional : DirectionalPositive intent context
  signed : projection.signed.toRat = intentQuantity intent
  base : projection.basePosition.toRat = baseQuantity context intent.symbol
  resulting : projection.resulting.toRat = projectedQuantity intent context intent.symbol
  positions : ∀ symbol, (quantityOf projection.projectedPositions symbol).toRat =
    projectedQuantity intent context symbol
  baseKeys : ∀ symbol, symbol ∈ projection.baseNotionals.keys ↔ baseQuantity context symbol ≠ 0
  keys : ∀ symbol, symbol ∈ projection.notionals.keys ↔
    projectedQuantity intent context symbol ≠ 0
  baseNotional : ∀ symbol notional, projection.baseNotionals.get? symbol = some notional →
    notional.toRat = baseQuantity context symbol * unitExposure intent context symbol
  notional : ∀ symbol notional, projection.notionals.get? symbol = some notional →
    notional.toRat = projectedQuantity intent context symbol * unitExposure intent context symbol
  baseGross : projection.baseGross.toRat =
    (projection.baseNotionals.values.map fun notional => |notional.toRat|).sum
  baseNet : projection.baseNet.toRat =
    |(projection.baseNotionals.values.map Decimal.toRat).sum|
  gross : projection.gross.toRat =
    (projection.notionals.values.map fun notional => |notional.toRat|).sum
  net : projection.net.toRat = |(projection.notionals.values.map Decimal.toRat).sum|
  grossLeverage : projection.grossLeverageFraction = projection.gross.toRat / context.equity.toRat
  netLeverage : projection.netLeverageFraction = projection.net.toRat / context.equity.toRat

theorem decimal_ne_zero {value : Decimal} : value ≠ 0 ↔ value.toRat ≠ 0 := by
  rw [Ne, Ne, Decimal.ext_iff, Decimal.toRat_zero]

theorem project_eq_ok {intent : RiskIntent} {context : RiskContext} {projection : Projection}
    (success : project intent context = .ok projection) :
    Projected intent context projection := by
  simp only [project, throw_unless_eq_ok, bind_eq_ok, pure_eq_ok, not_not] at success
  obtain ⟨_, signed, signedEq, ⟨⟩, typed, basePosition, baseEq, resulting, resultingEq,
    basePositions, reservedEq, projected, projectedEq, _, baseNotionals, baseNotionalsEq,
    notionals, notionalsEq, baseGross, baseGrossEq, baseNet, baseNetEq, gross, grossEq, net,
    netEq, grossFraction, grossFractionEq, netFraction, netFractionEq, _, _, _, _, _, _,
    rfl⟩ := success
  have own := signedQuantity_eq signedEq
  have base := reservedPositions_eq reservedEq
  have positions := projectedPositions_eq signedEq reservedEq projectedEq
  constructor
  · exact (checkInstrumentTypes_eq_ok.mp typed).2
  · exact own
  · exact riskAdd_eq_ok.mp baseEq
  · rw [riskAdd_eq_ok.mp resultingEq, riskAdd_eq_ok.mp baseEq, own, projectedQuantity, if_pos rfl]
    rfl
  · exact positions
  · intro symbol
    rw [mem_keys_notionalsOf baseNotionalsEq, decimal_ne_zero, base]
  · intro symbol
    rw [mem_keys_notionalsOf notionalsEq, decimal_ne_zero, positions]
  · intro symbol notional found
    rw [notional_eq baseNotionalsEq found, base]
  · intro symbol notional found
    rw [notional_eq notionalsEq found, positions]
  · exact grossOf_eq baseGrossEq
  · exact netOf_eq baseNetEq
  · exact grossOf_eq grossEq
  · exact netOf_eq netEq
  · exact (exactRatio_eq grossFractionEq).2
  · exact (exactRatio_eq netFractionEq).2

end AutoTrade.Risk
