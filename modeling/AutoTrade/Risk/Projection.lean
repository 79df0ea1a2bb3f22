import AutoTrade.Lib.Grouping
import AutoTrade.Risk.Scenarios

/-!
# The projected portfolio

The first part of `evaluate_risk`: the portfolio before and after the intent, the
exposures of both and their leverage.  It does not depend on the policy.
-/

namespace AutoTrade.Risk

open Lib Numeric

/-- `mapping.get(symbol, _ZERO)`. -/
def quantityOf (mapping : Dict String Decimal) (symbol : String) : Decimal :=
  (mapping.get? symbol).getD 0

/-- `pre_intent_exposure_symbols`. -/
def preIntentExposureSymbols (context : RiskContext) : List String :=
  (context.positions.keys ++ context.reservedPositionDelta.keys).dedup.filter fun symbol =>
    quantityOf context.positions symbol ≠ 0 ∨ quantityOf context.reservedPositionDelta symbol ≠ 0

/-- `missing_instrument_type_symbols`. -/
def missingInstrumentTypeSymbols (context : RiskContext) : List String :=
  ((preIntentExposureSymbols context).filter (· ∉ context.instrumentTypes.keys)).insertionSort
    (· ≤ ·)

/-- `authoritative_instrument_type`. -/
def authoritativeInstrumentType (intent : RiskIntent) (context : RiskContext) (symbol : String) :
    Option InstrumentType :=
  if symbol = intent.symbol ∧ symbol ∉ preIntentExposureSymbols context then
    some intent.instrumentType
  else context.instrumentTypes.get? symbol

/-- The symbol has a derivative type. -/
def isDerivativeSymbol (intent : RiskIntent) (context : RiskContext) (symbol : String) : Bool :=
  (authoritativeInstrumentType intent context symbol).any InstrumentType.isDerivative

/-- `required_equivalent_symbols`. -/
def requiredEquivalentSymbols (intent : RiskIntent) (context : RiskContext) : List String :=
  let required := (preIntentExposureSymbols context).filter (isDerivativeSymbol intent context)
  if intent.instrumentType.isDerivative then required.insert intent.symbol else required

/-- `missing_equivalent_symbols`. -/
def missingEquivalentSymbols (intent : RiskIntent) (context : RiskContext) : List String :=
  ((requiredEquivalentSymbols intent context).filter
    (· ∉ context.equivalentExposurePerUnit.keys)).insertionSort (· ≤ ·)

/-- The equivalent exposure of a directional type is positive. -/
def checkDirectional (context : RiskContext) (symbol : String) (type : InstrumentType) :
    Except RiskError Unit :=
  if type.isDirectional ∧ ∃ exposure ∈ context.equivalentExposurePerUnit.get? symbol,
      exposure ≤ 0 then
    .error (.valueError
      (type.text ++ " equivalent exposure per unit must be positive for " ++ symbol))
  else .ok ()

/-- The checks of the instrument types. -/
def checkInstrumentTypes (intent : RiskIntent) (context : RiskContext) :
    Except RiskError Unit := do
  if ∃ declared ∈ context.instrumentTypes.get? intent.symbol, declared ≠ intent.instrumentType then
    throw (.valueError "context instrument type does not match intent instrument_type")
  context.instrumentTypes.entries.forM fun entry => checkDirectional context entry.1 entry.2
  checkDirectional context intent.symbol intent.instrumentType

/-- `base_positions`. -/
def reservedPositions (context : RiskContext) : Except RiskError (Dict String Decimal) :=
  context.reservedPositionDelta.entries.foldlM (fun positions entry => do
    let quantity ← riskAdd (quantityOf positions entry.1) entry.2
    return positions.set entry.1 quantity) context.positions

/-- `exposure_per_unit`. -/
def exposurePerUnit (intent : RiskIntent) (context : RiskContext) (symbol : String) :
    Except RiskError Decimal := do
  let mark ← lookup context.marks symbol
  return if isDerivativeSymbol intent context symbol then
      (context.equivalentExposurePerUnit.get? symbol).getD mark
    else mark

/-- The exposures of the quantities that are not zero. -/
def notionalsOf (intent : RiskIntent) (context : RiskContext) (positions : Dict String Decimal) :
    Except RiskError (Dict String Decimal) :=
  (positions.filterValues (· ≠ 0)).traverse fun symbol quantity => do
    let exposure ← exposurePerUnit intent context symbol
    riskProduct quantity exposure

/-- The gross exposure. -/
def grossOf (notionals : Dict String Decimal) : Except RiskError Decimal :=
  riskSum (notionals.values.map riskAbs)

/-- The net exposure. -/
def netOf (notionals : Dict String Decimal) : Except RiskError Decimal := do
  let total ← riskSum (notionals.values.map .ok)
  riskAbs total

/-- The names that the first part of `evaluate_risk` binds. -/
structure Projection where
  signed : Decimal
  basePosition : Decimal
  resulting : Decimal
  projectedPositions : Dict String Decimal
  baseNotionals : Dict String Decimal
  notionals : Dict String Decimal
  baseGross : Decimal
  baseNet : Decimal
  gross : Decimal
  net : Decimal
  grossLeverageFraction : ℚ
  netLeverageFraction : ℚ
  grossLeverage : Decimal
  netLeverage : Decimal
  singleNotional : Decimal

/-- The quantity of the intent with its sign. -/
def signedQuantity (intent : RiskIntent) : Except RiskError Decimal :=
  match intent.side with
  | .buy => .ok intent.quantity
  | .sell => riskNegate intent.quantity

/-- `single_notional`. -/
def singleNotionalOf (intent : RiskIntent) (context : RiskContext) (resulting : Decimal) :
    Except RiskError Decimal := do
  let exposure ← exposurePerUnit intent context intent.symbol
  let signedMark ← riskProduct resulting exposure
  let markNotional ← riskAbs signedMark
  let orderNotional ← riskProduct intent.quantity intent.price
  let signedIntent ← riskProduct intent.quantity exposure
  let intentNotional ← riskAbs signedIntent
  return maximum markNotional (maximum orderNotional intentNotional)

/-- The first part of `evaluate_risk`. -/
def project (intent : RiskIntent) (context : RiskContext) : Except RiskError Projection := do
  if intent.symbol ∉ context.marks.keys then
    throw (.valueError ("Missing mark for " ++ intent.symbol))
  let signed ← signedQuantity intent
  checkInstrumentTypes intent context
  let basePosition ← riskAdd (quantityOf context.positions intent.symbol)
    (quantityOf context.reservedPositionDelta intent.symbol)
  let resulting ← riskAdd basePosition signed
  let basePositions ← reservedPositions context
  let projected ← riskAdd (quantityOf basePositions intent.symbol) signed
  let projectedPositions := basePositions.set intent.symbol projected
  let missingMarks := (projectedPositions.filterValues (· ≠ 0)).keys.filter
    (· ∉ context.marks.keys)
  if missingMarks ≠ [] then
    throw (.valueError ("Missing marks for positions: " ++
      ", ".intercalate (missingMarks.insertionSort (· ≤ ·))))
  let baseNotionals ← notionalsOf intent context basePositions
  let notionals ← notionalsOf intent context projectedPositions
  let baseGross ← grossOf baseNotionals
  let baseNet ← netOf baseNotionals
  let gross ← grossOf notionals
  let net ← netOf notionals
  let grossLeverageFraction ← exactRatio gross context.equity "gross leverage"
  let netLeverageFraction ← exactRatio net context.equity "net leverage"
  let grossLeverage ← ratioReport grossLeverageFraction
  let netLeverage ← ratioReport netLeverageFraction
  let singleNotional ← singleNotionalOf intent context resulting
  return ⟨signed, basePosition, resulting, projectedPositions, baseNotionals, notionals,
    baseGross, baseNet, gross, net, grossLeverageFraction, netLeverageFraction, grossLeverage,
    netLeverage, singleNotional⟩

end AutoTrade.Risk
