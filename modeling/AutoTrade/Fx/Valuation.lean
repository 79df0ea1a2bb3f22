import AutoTrade.Lib.Dict
import AutoTrade.Lib.Fingerprint
import AutoTrade.Lib.Text
import AutoTrade.Lib.Time
import AutoTrade.Numeric.Amount
import AutoTrade.Numeric.Quantum

/-!
# Valuation of foreign balances

`fx_valuation.py`: a signed balance is converted by one direct or inverse quote, on the
side of the quote and with the haircut that do not overstate it, and rounded down where
the exact amount has no finite decimal expansion.
-/

namespace AutoTrade.Fx

open Lib Numeric

/-! ## Arguments -/

/-- `FxValuationError`. -/
structure FxValuationError where
  message : String
  deriving DecidableEq, Repr

/-- `_translate_exact`. -/
def translateExact {α : Type} (name : String) (computation : Except ExactDecimalError α) :
    Except FxValuationError α :=
  computation.mapError fun _ =>
    ⟨s!"{name} exceeds the supported exact-decimal resource envelope"⟩

/-- `_decimal`. -/
def decimal (value : DecimalInput) (name : String) : Except FxValuationError Decimal :=
  if value = .inexact then .error ⟨s!"{name} must use exact decimal input"⟩
  else (parseBoundedExactDecimal value true).mapError fun _ =>
    ⟨s!"{name} must be a finite decimal within the supported resource envelope"⟩

/-- `_text`. -/
def text (value name : String) : Except FxValuationError String :=
  if strip value = "" then .error ⟨s!"{name} is required"⟩ else .ok (strip value)

/-- `[A-Z0-9]{2,12}`. -/
def isCurrencyCode (currency : String) : Bool :=
  decide (2 ≤ currency.length ∧ currency.length ≤ 12) &&
    currency.toList.all fun character => character.isUpper || character.isDigit

/-- `_currency`. -/
def currency [CaseMap] (value name : String) : Except FxValuationError String := do
  let normalized ← text value name
  if isCurrencyCode (upper normalized) = false then
    throw ⟨s!"{name} must be a canonical currency/asset code"⟩
  return upper normalized

/-- `sha256:[0-9a-f]{64}`. -/
def isDigest (digest : String) : Bool :=
  decide (digest.toList.take 7 = "sha256:".toList ∧ digest.length = 71) &&
    (digest.toList.drop 7).all fun character =>
      character.isDigit || decide ('a' ≤ character ∧ character ≤ 'f')

/-- `_digest`. -/
def digest (value name : String) : Except FxValuationError String := do
  let normalized ← text value name
  if isDigest normalized = false then
    throw ⟨s!"{name} must be a canonical SHA-256 digest"⟩
  return normalized

/-- `_age_limit`, in microseconds. -/
def ageLimit (value : Int) : Except FxValuationError Int :=
  if value < 0 then .error ⟨"max_age must be a non-negative exact timedelta"⟩ else .ok value

/-- The haircut of a valuation. -/
def haircutOf (value : DecimalInput) : Except FxValuationError Decimal := do
  let haircut ← decimal value "haircut"
  if haircut < 0 ∨ 1 ≤ haircut.toRat then
    throw ⟨"haircut must be in [0, 1)"⟩
  return haircut

/-! ## Rounding policies -/

/-- The fields of an `FxRoundingPolicy` object. -/
structure FxRoundingPolicyState where
  reportingCurrency : String
  quantum : DecimalInput
  version : String

/-- `FxRoundingPolicy`. -/
structure FxRoundingPolicy where
  reportingCurrency : String
  quantum : Decimal
  version : String
  quantum_pos : 0 < quantum.toRat

/-- `FxRoundingPolicy(...)`. -/
def FxRoundingPolicy.create [CaseMap] (state : FxRoundingPolicyState) :
    Except FxValuationError FxRoundingPolicy := do
  let reporting ← currency state.reportingCurrency "reporting_currency"
  let quantum ← decimal state.quantum "quantum"
  if positive : 0 < quantum.toRat then
    let version ← text state.version "version"
    return ⟨reporting, quantum, version, positive⟩
  else throw ⟨"FX rounding quantum must be positive"⟩

/-- `policy_id`. -/
def FxRoundingPolicy.policyId [Fingerprint] (policy : FxRoundingPolicy) :
    Except FxValuationError String := do
  let quantum ← translateExact "FX rounding quantum" policy.quantum.canonicalText
  return "fx-rounding:sha256:" ++ sha256 ("FX_CONSERVATIVE_FINAL_AMOUNT|" ++ policy.version ++
    "|" ++ policy.reportingCurrency ++ "|" ++ quantum ++ "|FLOOR")

/-- `_validated_rounding_policy`. -/
def validatedRoundingPolicy [CaseMap] (value : Option FxRoundingPolicyState)
    (reportingCurrency : String) : Except FxValuationError (Option FxRoundingPolicy) :=
  match value with
  | none => .ok none
  | some state => do
      let policy ← FxRoundingPolicy.create state
      if policy.reportingCurrency ≠ reportingCurrency then
        throw ⟨"FX rounding policy reporting currency mismatch"⟩
      return some policy

/-! ## Quotes -/

/-- The fields of an `FxQuote` object. -/
structure FxQuoteState where
  baseCurrency : String
  quoteCurrency : String
  bid : DecimalInput
  ask : DecimalInput
  availableAt : Instant
  sourceId : String
  evidenceSha256 : String

/-- `FxQuote` as its `create` returns it. -/
structure FxQuote where
  baseCurrency : String
  quoteCurrency : String
  bid : Decimal
  ask : Decimal
  availableAt : Instant
  sourceId : String
  evidenceSha256 : String
  distinct : baseCurrency ≠ quoteCurrency
  bid_pos : 0 < bid.toRat
  spread : bid.toRat ≤ ask.toRat

/-- `FxQuote.create`, which `_validated_quote` repeats on the fields of a quote. -/
def FxQuote.create [CaseMap] (state : FxQuoteState) : Except FxValuationError FxQuote := do
  let base ← currency state.baseCurrency "base_currency"
  let quote ← currency state.quoteCurrency "quote_currency"
  if distinct : base ≠ quote then
    let bid ← decimal state.bid "bid"
    let ask ← decimal state.ask "ask"
    if positive : 0 < bid.toRat ∧ 0 < ask.toRat then
      if spread : bid.toRat ≤ ask.toRat then
        let sourceId ← text state.sourceId "source_id"
        let evidence ← digest state.evidenceSha256 "evidence_sha256"
        return ⟨base, quote, bid, ask, state.availableAt, sourceId, evidence, distinct,
          positive.1, spread⟩
      else throw ⟨"FX bid cannot exceed ask"⟩
    else throw ⟨"FX bid and ask must be positive"⟩
  else throw ⟨"FX quote currencies must differ"⟩

/-! ## Valuations -/

inductive FxSide where
  | identity
  | zeroBalance
  | unavailable
  | bid
  | askForLiability
  | inverseAsk
  | inverseBidForLiability
  deriving DecidableEq, Repr

inductive FxStatus where
  | certain
  | missing
  | futureEvidence
  | stale
  | roundingPolicyRequired
  deriving DecidableEq, Repr

def FxStatus.text : FxStatus → String
  | .certain => "CERTAIN"
  | .missing => "MISSING"
  | .futureEvidence => "FUTURE_EVIDENCE"
  | .stale => "STALE"
  | .roundingPolicyRequired => "ROUNDING_POLICY_REQUIRED"

/-- `FxValuation`. -/
structure FxValuation where
  sourceAmount : Decimal
  sourceCurrency : String
  reportingCurrency : String
  convertedAmount : Option Decimal
  rateUsed : Option Decimal
  side : FxSide
  status : FxStatus
  availableAt : Option Instant
  sourceId : Option String
  evidenceSha256 : Option String
  haircut : Decimal
  reason : String
  rateNumerator : Option ℤ
  rateDenominator : Option ℕ
  roundingPolicyId : Option String
  roundingQuantum : Option Decimal
  deriving DecidableEq

/-- `allocatable`. -/
def FxValuation.allocatable (valuation : FxValuation) : Bool := valuation.status = .certain

/-- `_has_terminating_decimal`; no factor divides the denominator more often than its binary
logarithm says. -/
def hasTerminatingDecimal (value : ℚ) : Bool :=
  match factorOut 2 (Nat.log2 value.den) value.den with
  | none => false
  | some (_, odd) =>
      match factorOut 5 (Nat.log2 odd) odd with
      | none => false
      | some (_, rest) => rest = 1

/-- `_optional_terminating_decimal`. -/
def optionalTerminatingDecimal (value : ℚ) : Option Decimal :=
  if hasTerminatingDecimal value then (terminatingDecimal value).toOption else none

/-- The side, the exact rate and the reported rate of a conversion. -/
def quotedRate (quote : FxQuote) (source reporting : String) (amount : Decimal) :
    Except FxValuationError (FxSide × ℚ × Option Decimal) :=
  if quote.baseCurrency = source ∧ quote.quoteCurrency = reporting then do
    let quoted := if 0 < amount.toRat then quote.bid else quote.ask
    let rate ← translateExact "FX quoted rate" (boundedFraction quoted.toRat)
    return (if 0 < amount.toRat then .bid else .askForLiability, rate, some quoted)
  else if quote.quoteCurrency = source ∧ quote.baseCurrency = reporting then do
    let quoted := if 0 < amount.toRat then quote.ask else quote.bid
    let fraction ← translateExact "FX quoted rate" (boundedFraction quoted.toRat)
    let rate ← translateExact "inverse FX exact rate" (boundedFraction (1 / fraction))
    return (if 0 < amount.toRat then .inverseAsk else .inverseBidForLiability, rate,
      optionalTerminatingDecimal rate)
  else .error ⟨"quote does not connect source and reporting currencies"⟩

/-- The exact amount after the haircut. -/
def exactConversion (amount haircut : Decimal) (rate : ℚ) : Except FxValuationError ℚ := do
  let source ← translateExact "FX source amount" (boundedFraction amount.toRat)
  let converted ← translateExact "FX exact converted amount" (boundedFraction (source * rate))
  let fraction ← translateExact "FX haircut" (boundedFraction haircut.toRat)
  if 0 < converted then
    let factor ← translateExact "FX asset haircut factor" (boundedFraction (1 - fraction))
    translateExact "FX exact haircut-adjusted amount" (boundedFraction (converted * factor))
  else if converted < 0 then
    let factor ← translateExact "FX liability haircut factor" (boundedFraction (1 + fraction))
    translateExact "FX exact haircut-adjusted amount" (boundedFraction (converted * factor))
  else return converted

/-- The converted amount and the policy that rounded it; nothing where the amount needs a
policy. -/
def finalAmount (exactAmount : ℚ) (policy : Option FxRoundingPolicy) :
    Except FxValuationError (Option (Decimal × Option FxRoundingPolicy)) :=
  if hasTerminatingDecimal exactAmount then do
    let converted ← translateExact "FX converted amount" (terminatingDecimal exactAmount)
    return some (converted, none)
  else match policy with
    | none => .ok none
    | some policy => do
        let converted ← translateExact "FX rounded converted amount"
          (roundToQuantum exactAmount policy.quantum .floor)
        return some (converted, some policy)

/-- `_unavailable`. -/
def unavailable (amount : Decimal) (source reporting : String) (status : FxStatus) (side : FxSide)
    (quote : Option FxQuote) (haircut : Decimal) (reason : String) (rate : Option ℚ) :
    FxValuation where
  sourceAmount := amount
  sourceCurrency := source
  reportingCurrency := reporting
  convertedAmount := none
  rateUsed := none
  side := side
  status := status
  availableAt := quote.map FxQuote.availableAt
  sourceId := quote.map FxQuote.sourceId
  evidenceSha256 := quote.map FxQuote.evidenceSha256
  haircut := haircut
  reason := reason
  rateNumerator := rate.map Rat.num
  rateDenominator := rate.map Rat.den
  roundingPolicyId := none
  roundingQuantum := none

/-- The valuation of an amount by a fresh quote. -/
def convert [Fingerprint] (amount : Decimal) (source reporting : String) (quote : FxQuote)
    (haircut : Decimal) (policy : Option FxRoundingPolicy) :
    Except FxValuationError FxValuation := do
  let (side, rate, rateUsed) ← quotedRate quote source reporting amount
  let exactAmount ← exactConversion amount haircut rate
  let final ← finalAmount exactAmount policy
  match final with
  | none =>
      return unavailable amount source reporting .roundingPolicyRequired side (some quote) haircut
        ("exact FX result has a non-terminating decimal expansion; " ++
          "an explicit reporting-currency rounding policy is required") (some rate)
  | some (converted, applied) => do
      let policyId ← applied.mapM FxRoundingPolicy.policyId
      return {
        sourceAmount := amount
        sourceCurrency := source
        reportingCurrency := reporting
        convertedAmount := some converted
        rateUsed := rateUsed
        side := side
        status := .certain
        availableAt := some quote.availableAt
        sourceId := some quote.sourceId
        evidenceSha256 := some quote.evidenceSha256
        haircut := haircut
        reason := "fresh evidenced conservative FX valuation"
        rateNumerator := some rate.num
        rateDenominator := some rate.den
        roundingPolicyId := policyId
        roundingQuantum := applied.map FxRoundingPolicy.quantum }

/-- The valuation of an amount of the reporting currency. -/
def identityValuation (amount : Decimal) (source reporting : String) (point : Instant) :
    FxValuation where
  sourceAmount := amount
  sourceCurrency := source
  reportingCurrency := reporting
  convertedAmount := some amount
  rateUsed := some (Decimal.whole 1 Decimal.one_bounded)
  side := .identity
  status := .certain
  availableAt := some point
  sourceId := some "IDENTITY"
  evidenceSha256 := none
  haircut := 0
  reason := "no FX conversion required"
  rateNumerator := some 1
  rateDenominator := some 1
  roundingPolicyId := none
  roundingQuantum := none

/-- The valuation of a zero balance. -/
def zeroValuation (amount : Decimal) (source reporting : String) : FxValuation where
  sourceAmount := amount
  sourceCurrency := source
  reportingCurrency := reporting
  convertedAmount := some 0
  rateUsed := none
  side := .zeroBalance
  status := .certain
  availableAt := none
  sourceId := none
  evidenceSha256 := none
  haircut := 0
  reason := "zero foreign balance requires no FX rate"
  rateNumerator := none
  rateDenominator := none
  roundingPolicyId := none
  roundingQuantum := none

/-- The valuation of a balance that needs a quote. -/
def valueForeign [Fingerprint] (amount : Decimal) (source reporting : String)
    (quote : Option FxQuote) (point : Instant) (maxAge : Int) (haircut : Decimal)
    (policy : Option FxRoundingPolicy) : Except FxValuationError FxValuation :=
  match quote with
  | none => .ok (unavailable amount source reporting .missing .unavailable none haircut
      "direct or inverse one-hop FX quote is missing" none)
  | some quote =>
      if point < quote.availableAt then
        .ok (unavailable amount source reporting .futureEvidence .unavailable (some quote)
          haircut "FX quote was not available at valuation time" none)
      else if maxAge < point.microseconds - quote.availableAt.microseconds then
        .ok (unavailable amount source reporting .stale .unavailable (some quote) haircut
          "FX quote exceeds maximum permitted age" none)
      else convert amount source reporting quote haircut policy

/-- The arguments of a valuation besides the balance and its quote, once they are read. -/
structure FxContext where
  reporting : String
  point : Instant
  maxAge : Int
  haircut : Decimal
  policy : Option FxRoundingPolicy

/-- `value_amount` on arguments that are read.  The quote is read only where the balance
needs one. -/
def FxContext.value [Fingerprint] (context : FxContext) (amount : Decimal) (source : String)
    (quote : Except FxValuationError (Option FxQuote)) : Except FxValuationError FxValuation :=
  if source = context.reporting then
    .ok (identityValuation amount source context.reporting context.point)
  else if amount = 0 then .ok (zeroValuation amount source context.reporting)
  else do
    let available ← quote
    valueForeign amount source context.reporting available context.point context.maxAge
      context.haircut context.policy

/-- The arguments of `value_amount` and `value_cash_balances` that both read alike. -/
structure FxTerms where
  reportingCurrency : String
  asOf : Instant
  maxAge : Int
  haircut : DecimalInput
  roundingPolicy : Option FxRoundingPolicyState

/-- The part of the arguments that follows the reporting currency. -/
def FxTerms.context [CaseMap] (terms : FxTerms) (reporting : String) :
    Except FxValuationError FxContext := do
  let maxAge ← ageLimit terms.maxAge
  let haircut ← haircutOf terms.haircut
  let policy ← validatedRoundingPolicy terms.roundingPolicy reporting
  return ⟨reporting, terms.asOf, maxAge, haircut, policy⟩

/-- `value_amount`. -/
def valueAmount [CaseMap] [Fingerprint] (amount : DecimalInput) (sourceCurrency : String)
    (quote : Option FxQuoteState) (terms : FxTerms) : Except FxValuationError FxValuation := do
  let sourceAmount ← decimal amount "amount"
  let source ← currency sourceCurrency "source_currency"
  let reporting ← currency terms.reportingCurrency "reporting_currency"
  let context ← terms.context reporting
  context.value sourceAmount source (quote.mapM FxQuote.create)

/-! ## Portfolios -/

inductive PortfolioStatus where
  | certain
  | uncertain
  deriving DecidableEq, Repr

/-- `PortfolioFxValuation`. -/
structure PortfolioFxValuation where
  reportingCurrency : String
  total : Option Decimal
  status : PortfolioStatus
  components : List FxValuation
  reasons : List String
  deriving DecidableEq

/-- The quotes under their normalized currencies. -/
def normalizedQuotes [CaseMap] (quotes : Dict String FxQuoteState) :
    Except FxValuationError (Dict String FxQuote) :=
  quotes.entries.foldlM (fun normalized item => do
    let code ← currency item.1 "quote currency"
    if code ∈ normalized.keys then
      throw ⟨"quotes contain duplicate normalized currency codes"⟩
    let quote ← FxQuote.create item.2
    return normalized.set code quote) ∅

/-- One turn of the loop over the balances, with the currencies seen and the components so
far. -/
def FxContext.valueBalance [CaseMap] [Fingerprint] (context : FxContext)
    (quotes : Dict String FxQuote) (progress : List String × List FxValuation)
    (item : String × DecimalInput) :
    Except FxValuationError (List String × List FxValuation) := do
  let code ← currency item.1 "balance currency"
  if code ∈ progress.1 then
    throw ⟨"balances contain duplicate normalized currency codes"⟩
  let amount ← decimal item.2 ("balance[" ++ code ++ "]")
  let quote := if code = context.reporting then none else quotes.get? code
  let component ← context.value amount code (.ok quote)
  return (progress.1 ++ [code], progress.2 ++ [component])

/-- The reason that a component is not certain. -/
def FxValuation.uncertainty (row : FxValuation) : String :=
  row.sourceCurrency ++ ": " ++ row.status.text ++ " - " ++ row.reason

/-- The portfolio of the components. -/
def portfolioOf (reporting : String) (components : List FxValuation) :
    Except FxValuationError PortfolioFxValuation :=
  if (components.filter fun row => !row.allocatable) ≠ [] then
    .ok {
      reportingCurrency := reporting
      total := none
      status := .uncertain
      components := components
      reasons := (components.filter fun row => !row.allocatable).map FxValuation.uncertainty }
  else do
    let total ← translateExact "portfolio FX total"
      (exactSum (components.filterMap FxValuation.convertedAmount) 0)
    return {
      reportingCurrency := reporting
      total := some total
      status := .certain
      components := components
      reasons := [] }

/-- `sorted(balances)`, with the amounts. -/
def sortedBalances (balances : Dict String DecimalInput) : List (String × DecimalInput) :=
  balances.entries.insertionSort fun left right => left.1 ≤ right.1

/-- `value_cash_balances`. -/
def valueCashBalances [CaseMap] [Fingerprint] (balances : Dict String DecimalInput)
    (quotes : Dict String FxQuoteState) (terms : FxTerms) :
    Except FxValuationError PortfolioFxValuation := do
  let normalized ← normalizedQuotes quotes
  let reporting ← currency terms.reportingCurrency "reporting_currency"
  let context ← terms.context reporting
  let (_, components) ← (sortedBalances balances).foldlM (context.valueBalance normalized) ([], [])
  portfolioOf reporting components

end AutoTrade.Fx
