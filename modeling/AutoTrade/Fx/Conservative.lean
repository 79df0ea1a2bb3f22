import AutoTrade.Fx.Valuation

/-!
# Conservative valuation

A real conversion multiplies the balance by the side of the quote that values it least and
takes the haircut from it, so that it is below the balance at every rate between the two
sides.  The rounding loses less than one quantum and only where the exact amount has no
finite expansion.  A portfolio is certain only if each of its balances is.
-/

namespace AutoTrade.Fx

open Lib Numeric

/-! ## Finite expansions -/

/-- A rational with a finite decimal expansion. -/
def Terminating (value : ℚ) : Prop :=
  ∃ (scale : ℕ) (coefficient : ℤ), value * 10 ^ scale = coefficient

/-- A factor divides a number no more often than the binary logarithm says. -/
theorem le_log2_of_pow_le {factor count number : ℕ} (large : 2 ≤ factor) (positive : number ≠ 0)
    (below : factor ^ count ≤ number) : count ≤ Nat.log2 number :=
  (Nat.le_log2 positive).mpr ((Nat.pow_le_pow_left large count).trans below)

theorem hasTerminatingDecimal_iff {value : ℚ} :
    hasTerminatingDecimal value = true ↔ Terminating value := by
  constructor
  · intro terminates
    rw [hasTerminatingDecimal] at terminates
    split at terminates
    · cases terminates
    next twos odd twosFound =>
      split at terminates
      · cases terminates
      next fives rest fivesFound =>
        have denominator : value.den = 2 ^ twos * 5 ^ fives := by
          rw [(factorOut_eq_some twosFound).1, (factorOut_eq_some fivesFound).1,
            of_decide_eq_true terminates, Nat.mul_one]
        have power : (10 : ℚ) ^ max twos fives ≠ 0 := by positivity
        exact ⟨_, _, (eq_div_iff power).mp (scaledNumerator denominator)⟩
  · intro terminating
    obtain ⟨scale, coefficient, scaled⟩ := terminating
    obtain ⟨twos, -, fives, -, denominator⟩ := factor_of_dvd_ten_pow (den_dvd_of_scaled scaled)
    have odd : 5 ^ fives % 2 ≠ 0 := by
      rw [Nat.pow_mod]
      simp
    have twosBound : twos ≤ Nat.log2 value.den := by
      apply le_log2_of_pow_le le_rfl value.den_ne_zero
      rw [denominator]
      exact Nat.le_mul_of_pos_right _ (by positivity)
    have fivesBound : fives ≤ Nat.log2 (5 ^ fives) :=
      le_log2_of_pow_le (by norm_num) (by positivity) le_rfl
    have twoFactor := factorOut_of_eq 2 _ twos (5 ^ fives) (by norm_num) odd twosBound
    have fiveFactor := factorOut_of_eq 5 _ fives 1 (by norm_num) (by norm_num) fivesBound
    rw [← denominator] at twoFactor
    rw [Nat.mul_one] at fiveFactor
    simp only [hasTerminatingDecimal, twoFactor, fiveFactor, decide_true]

/-! ## The exact amount -/

theorem translateExact_eq_ok {α : Type} {name : String} {computation : Except ExactDecimalError α}
    {result : α} : translateExact name computation = .ok result ↔ computation = .ok result :=
  mapError_eq_ok

/-- The two sides of a quote in the direction from the source to the reporting currency. -/
def FxQuote.sides (quote : FxQuote) (source : String) : ℚ × ℚ :=
  if quote.baseCurrency = source then (quote.bid.toRat, quote.ask.toRat)
  else (1 / quote.ask.toRat, 1 / quote.bid.toRat)

/-- The quote trades the two currencies, in one direction or the other. -/
def FxQuote.Connects (quote : FxQuote) (source reporting : String) : Prop :=
  (quote.baseCurrency = source ∧ quote.quoteCurrency = reporting) ∨
    (quote.quoteCurrency = source ∧ quote.baseCurrency = reporting)

theorem FxQuote.ask_pos (quote : FxQuote) : 0 < quote.ask.toRat :=
  quote.bid_pos.trans_le quote.spread

theorem FxQuote.sides_pos (quote : FxQuote) (source : String) :
    0 < (quote.sides source).1 ∧ (quote.sides source).1 ≤ (quote.sides source).2 := by
  rw [sides]
  split
  · exact ⟨quote.bid_pos, quote.spread⟩
  · exact ⟨one_div_pos.mpr quote.ask_pos, one_div_le_one_div_of_le quote.bid_pos quote.spread⟩

/-- An asset is converted at the lower side and a liability at the higher one. -/
theorem quotedRate_eq_ok {quote : FxQuote} {source reporting : String} {amount : Decimal}
    {side : FxSide} {rate : ℚ} {rateUsed : Option Decimal}
    (success : quotedRate quote source reporting amount = .ok (side, rate, rateUsed)) :
    quote.Connects source reporting ∧
      rate = (if 0 < amount.toRat then (quote.sides source).1 else (quote.sides source).2) ∧
      side ≠ .identity ∧ side ≠ .zeroBalance := by
  rw [quotedRate] at success
  split at success
  next direct =>
    simp only [bind_eq_ok, translateExact_eq_ok, pure_eq_ok, Prod.mk.injEq] at success
    obtain ⟨_, bounded, rfl, rfl, rfl⟩ := success
    rw [boundedFraction_eq bounded, FxQuote.sides, if_pos direct.1]
    refine ⟨.inl direct, ?_, ?_⟩
    · split <;> rfl
    · split <;> simp
  next notDirect =>
    split at success
    next inverse =>
      simp only [bind_eq_ok, translateExact_eq_ok, pure_eq_ok, Prod.mk.injEq] at success
      obtain ⟨fraction, read, _, bounded, rfl, rfl, rfl⟩ := success
      have turned : quote.baseCurrency ≠ source := by
        rw [← inverse.1]
        exact quote.distinct
      rw [boundedFraction_eq bounded, boundedFraction_eq read, FxQuote.sides, if_neg turned]
      refine ⟨.inr inverse, ?_, ?_⟩
      · split <;> rfl
      · split <;> simp
    · cases success

/-- The amount a balance is worth at the side and after the haircut that value it least. -/
def conservativeBound (amount haircut low high : ℚ) : ℚ :=
  if 0 < amount then (1 - haircut) * amount * low else (1 + haircut) * amount * high

theorem exactConversion_eq_ok {amount haircut : Decimal} {low high exactAmount : ℚ}
    (positive : 0 < low) (ordered : low ≤ high)
    (success : exactConversion amount haircut
      (if 0 < amount.toRat then low else high) = .ok exactAmount) :
    exactAmount = conservativeBound amount.toRat haircut.toRat low high := by
  have above : 0 < high := positive.trans_le ordered
  simp only [exactConversion, bind_eq_ok, translateExact_eq_ok] at success
  obtain ⟨source, sourceRead, converted, convertedRead, fraction, fractionRead, success⟩ := success
  rw [boundedFraction_eq sourceRead] at convertedRead
  rw [boundedFraction_eq convertedRead, boundedFraction_eq fractionRead] at success
  rw [conservativeBound]
  by_cases asset : 0 < amount.toRat
  · rw [if_pos asset] at success ⊢
    rw [if_pos (mul_pos asset positive)] at success
    simp only [bind_eq_ok, translateExact_eq_ok] at success
    obtain ⟨factor, factorRead, bounded⟩ := success
    rw [boundedFraction_eq bounded, boundedFraction_eq factorRead]
    ring
  · rw [if_neg asset] at success ⊢
    have notPositive : ¬ 0 < amount.toRat * high := by
      rw [mul_pos_iff_of_pos_right above]
      exact asset
    rw [if_neg notPositive] at success
    split at success
    · simp only [bind_eq_ok, translateExact_eq_ok] at success
      obtain ⟨factor, factorRead, bounded⟩ := success
      rw [boundedFraction_eq bounded, boundedFraction_eq factorRead]
      ring
    next notNegative =>
      have zero : amount.toRat * high = 0 := le_antisymm (not_lt.mp notPositive)
        (not_lt.mp notNegative)
      rw [pure_eq_ok] at success
      rw [← success, mul_assoc, zero, mul_zero]

/-- The bound is below the balance at every rate between the two sides. -/
theorem conservativeBound_le {amount haircut low high rate : ℚ} (nonnegative : 0 ≤ haircut)
    (positive : 0 < low) (atLeast : low ≤ rate) (atMost : rate ≤ high) :
    conservativeBound amount haircut low high ≤ amount * rate := by
  rw [conservativeBound]
  split
  next asset =>
    have reduced : (1 - haircut) * (amount * low) ≤ amount * low :=
      mul_le_of_le_one_left (mul_pos asset positive).le (by linarith)
    have raised : amount * low ≤ amount * rate := mul_le_mul_of_nonneg_left atLeast asset.le
    linarith
  next liability =>
    rw [not_lt] at liability
    have worth : amount * high ≤ 0 :=
      mul_nonpos_of_nonpos_of_nonneg liability (positive.le.trans (atLeast.trans atMost))
    have reduced : haircut * (amount * high) ≤ 0 := mul_nonpos_of_nonneg_of_nonpos nonnegative worth
    have raised : amount * high ≤ amount * rate := mul_le_mul_of_nonpos_left atMost liability
    linarith

/-! ## The converted amount -/

/-- How a converted amount lies at the exact one. -/
structure Floored (exactAmount : ℚ) (policy : Option FxRoundingPolicy) (converted : Decimal)
    (quantum : Option Decimal) : Prop where
  below : converted.toRat ≤ exactAmount
  exact_of_terminating : Terminating exactAmount → converted.toRat = exactAmount ∧ quantum = none
  rounded : ¬ Terminating exactAmount → ∃ applied, policy = some applied ∧
    quantum = some applied.quantum ∧ exactAmount < converted.toRat + applied.quantum.toRat ∧
      ∃ units : ℤ, converted.toRat = applied.quantum.toRat * units

theorem finalAmount_floored {exactAmount : ℚ} {policy applied : Option FxRoundingPolicy}
    {converted : Decimal} (success : finalAmount exactAmount policy = .ok (some (converted, applied))) :
    Floored exactAmount policy converted (applied.map FxRoundingPolicy.quantum) := by
  unfold finalAmount at success
  split at success
  next terminates =>
    rw [hasTerminatingDecimal_iff] at terminates
    simp only [bind_eq_ok, translateExact_eq_ok, pure_eq_ok, Option.some.injEq,
      Prod.mk.injEq] at success
    obtain ⟨_, read, rfl, rfl⟩ := success
    have same := terminatingDecimal_toRat read
    exact ⟨same.le, fun _ => ⟨same, rfl⟩, fun unbounded => absurd terminates unbounded⟩
  next unbounded =>
    rw [hasTerminatingDecimal_iff] at unbounded
    split at success
    · cases success
    next policy =>
      simp only [bind_eq_ok, translateExact_eq_ok, pure_eq_ok, Option.some.injEq,
        Prod.mk.injEq] at success
      obtain ⟨_, read, rfl, rfl⟩ := success
      obtain ⟨-, multiple, low, high⟩ := roundToQuantum_lies read
      exact ⟨low, fun terminates => absurd terminates unbounded,
        fun _ => ⟨policy, rfl, rfl, high, multiple⟩⟩

/-- What a certain real conversion of a balance is. -/
structure Conservative (context : FxContext) (quote : FxQuote) (valuation : FxValuation)
    (converted : Decimal) : Prop where
  connects : quote.Connects valuation.sourceCurrency context.reporting
  fresh : ¬ context.point < quote.availableAt ∧
    context.point.microseconds - quote.availableAt.microseconds ≤ context.maxAge
  read : valuation.convertedAmount = some converted ∧ valuation.haircut = context.haircut
  below_rate : ∀ rate, (quote.sides valuation.sourceCurrency).1 ≤ rate →
    rate ≤ (quote.sides valuation.sourceCurrency).2 →
      converted.toRat ≤ valuation.sourceAmount.toRat * rate
  below_asset : 0 < valuation.sourceAmount.toRat →
    converted.toRat ≤ (1 - context.haircut.toRat) * valuation.sourceAmount.toRat *
      (quote.sides valuation.sourceCurrency).1
  below_liability : valuation.sourceAmount.toRat < 0 →
    converted.toRat ≤ (1 + context.haircut.toRat) * valuation.sourceAmount.toRat *
      (quote.sides valuation.sourceCurrency).2
  within : Floored (conservativeBound valuation.sourceAmount.toRat context.haircut.toRat
    (quote.sides valuation.sourceCurrency).1 (quote.sides valuation.sourceCurrency).2)
      context.policy converted valuation.roundingQuantum

/-- A valuation that converts its balance. -/
def FxValuation.Real (valuation : FxValuation) : Prop :=
  valuation.side ≠ .identity ∧ valuation.side ≠ .zeroBalance

section Conversions

variable [Fingerprint]

/-- The amounts from which the certain outcome of `convert` comes. -/
theorem convert_certain {amount haircut : Decimal} {source reporting : String} {quote : FxQuote}
    {policy : Option FxRoundingPolicy} {valuation : FxValuation}
    (success : convert amount source reporting quote haircut policy = .ok valuation)
    (certain : valuation.status = .certain) :
    quote.Connects source reporting ∧ valuation.sourceAmount = amount ∧
      valuation.sourceCurrency = source ∧ valuation.haircut = haircut ∧ valuation.Real ∧
        ∃ converted, valuation.convertedAmount = some converted ∧
          Floored (conservativeBound amount.toRat haircut.toRat (quote.sides source).1
            (quote.sides source).2) policy converted valuation.roundingQuantum := by
  simp only [convert, bind_eq_ok] at success
  obtain ⟨⟨side, rate, rateUsed⟩, quoted, exactAmount, exactly, final, finally_, success⟩ := success
  obtain ⟨connects, rateEq, real⟩ := quotedRate_eq_ok quoted
  obtain ⟨positive, ordered⟩ := quote.sides_pos source
  rw [rateEq] at exactly
  have same := exactConversion_eq_ok positive ordered exactly
  cases final with
  | none =>
      rw [pure_eq_ok] at success
      rw [← success] at certain
      cases certain
  | some result =>
      obtain ⟨converted, applied⟩ := result
      simp only [bind_eq_ok, pure_eq_ok] at success
      obtain ⟨policyId, -, rfl⟩ := success
      have floored := finalAmount_floored finally_
      rw [same] at floored
      exact ⟨connects, rfl, rfl, rfl, real, converted, rfl, floored⟩

/-- The cases of a certain valuation. -/
theorem FxContext.value_certain {context : FxContext} {amount : Decimal} {source : String}
    {quote : Except FxValuationError (Option FxQuote)} {valuation : FxValuation}
    (nonnegative : 0 ≤ context.haircut.toRat)
    (success : context.value amount source quote = .ok valuation)
    (certain : valuation.status = .certain) :
    valuation.sourceAmount = amount ∧ valuation.sourceCurrency = source ∧
      ∃ converted, valuation.convertedAmount = some converted ∧
        ((source = context.reporting ∧ ¬ valuation.Real ∧ converted = amount) ∨
          (source ≠ context.reporting ∧ amount = 0 ∧ ¬ valuation.Real ∧ converted = 0) ∨
          (source ≠ context.reporting ∧ amount ≠ 0 ∧ valuation.Real ∧ ∃ available,
            quote = .ok (some available) ∧ Conservative context available valuation converted)) := by
  rw [value] at success
  split at success
  next identity =>
    cases success
    exact ⟨rfl, rfl, amount, rfl, .inl ⟨identity, fun real => real.1 rfl, rfl⟩⟩
  next foreign =>
    split at success
    next zero =>
      cases success
      exact ⟨rfl, rfl, 0, rfl, .inr (.inl ⟨foreign, zero, fun real => real.2 rfl, rfl⟩)⟩
    next nonzero =>
      rw [bind_eq_ok] at success
      obtain ⟨available, quoteEq, success⟩ := success
      unfold valueForeign at success
      split at success
      · cases success
        cases certain
      next available =>
        split at success
        · cases success
          cases certain
        next present =>
          split at success
          · cases success
            cases certain
          next recent =>
            obtain ⟨connects, amountEq, sourceEq, haircutEq, real, converted, convertedEq, within⟩ :=
              convert_certain success certain
            obtain ⟨positive, ordered⟩ := available.sides_pos source
            refine ⟨amountEq, sourceEq, converted, convertedEq,
              .inr (.inr ⟨foreign, nonzero, real, available, quoteEq, ?_⟩)⟩
            subst amountEq sourceEq
            constructor
            · exact connects
            · exact ⟨present, not_lt.mp recent⟩
            · exact ⟨convertedEq, haircutEq⟩
            · intro rate atLeast atMost
              exact within.below.trans (conservativeBound_le nonnegative positive atLeast atMost)
            · intro asset
              have below := within.below
              rwa [conservativeBound, if_pos asset] at below
            · intro liability
              have below := within.below
              rwa [conservativeBound, if_neg liability.not_gt] at below
            · exact within

end Conversions

/-! ## The arguments -/

theorem haircutOf_eq_ok {value : DecimalInput} {haircut : Decimal}
    (success : haircutOf value = .ok haircut) : 0 ≤ haircut.toRat ∧ haircut.toRat < 1 := by
  simp only [haircutOf, bind_eq_ok, throw_unless_eq_ok, pure_eq_ok] at success
  obtain ⟨_, -, inside, rfl⟩ := success
  rw [not_or] at inside
  exact ⟨not_lt.mp inside.1, not_le.mp inside.2⟩

section Arguments

variable [CaseMap]

theorem FxTerms.context_eq_ok {terms : FxTerms} {reporting : String} {context : FxContext}
    (success : terms.context reporting = .ok context) :
    context.reporting = reporting ∧ haircutOf terms.haircut = .ok context.haircut ∧
      validatedRoundingPolicy terms.roundingPolicy reporting = .ok context.policy := by
  simp only [FxTerms.context, bind_eq_ok, pure_eq_ok] at success
  obtain ⟨_, -, _, haircutEq, _, policyEq, rfl⟩ := success
  exact ⟨rfl, haircutEq, policyEq⟩

variable [Fingerprint]

theorem valueAmount_eq_ok {amount : DecimalInput} {sourceCurrency : String}
    {quote : Option FxQuoteState} {terms : FxTerms} {valuation : FxValuation} :
    valueAmount amount sourceCurrency quote terms = .ok valuation ↔
      ∃ sourceAmount source reporting context, decimal amount "amount" = .ok sourceAmount ∧
        currency sourceCurrency "source_currency" = .ok source ∧
          currency terms.reportingCurrency "reporting_currency" = .ok reporting ∧
            terms.context reporting = .ok context ∧
              context.value sourceAmount source (quote.mapM FxQuote.create) = .ok valuation := by
  simp only [valueAmount, bind_eq_ok]
  constructor
  · rintro ⟨sourceAmount, amountEq, source, sourceEq, reporting, reportingEq, context, contextEq,
      valued⟩
    exact ⟨sourceAmount, source, reporting, context, amountEq, sourceEq, reportingEq, contextEq,
      valued⟩
  · rintro ⟨sourceAmount, source, reporting, context, amountEq, sourceEq, reportingEq, contextEq,
      valued⟩
    exact ⟨sourceAmount, amountEq, source, sourceEq, reporting, reportingEq, context, contextEq,
      valued⟩

/-! ## Portfolios -/

/-- A component is the valuation of its balance. -/
def Values (context : FxContext) (quotes : Dict String FxQuote) (item : String × DecimalInput)
    (component : FxValuation) : Prop :=
  ∃ amount code, currency item.1 "balance currency" = .ok code ∧
    decimal item.2 ("balance[" ++ code ++ "]") = .ok amount ∧
      context.value amount code
        (.ok (if code = context.reporting then none else quotes.get? code)) = .ok component

/-- The loop values the balances one by one. -/
theorem valueBalances_values {context : FxContext} {quotes : Dict String FxQuote}
    {items : List (String × DecimalInput)} {before after : List String × List FxValuation}
    (success : items.foldlM (context.valueBalance quotes) before = .ok after) :
    ∃ components, after.2 = before.2 ++ components ∧
      List.Forall₂ (Values context quotes) items components := by
  induction items generalizing before with
  | nil =>
      cases success
      exact ⟨[], (List.append_nil _).symm, .nil⟩
  | cons item rest ih =>
      rw [List.foldlM_cons, bind_eq_ok] at success
      obtain ⟨next, step, success⟩ := success
      simp only [FxContext.valueBalance, bind_eq_ok, throw_unless_eq_ok, pure_eq_ok] at step
      obtain ⟨code, codeEq, -, amount, amountEq, component, valued, rfl⟩ := step
      obtain ⟨components, grown, related⟩ := ih success
      refine ⟨component :: components, ?_, .cons ⟨amount, code, codeEq, amountEq, valued⟩ related⟩
      rw [grown, List.append_assoc, List.singleton_append]

end Arguments

theorem portfolioOf_certain {reporting : String} {components : List FxValuation}
    {portfolio : PortfolioFxValuation} (success : portfolioOf reporting components = .ok portfolio)
    (certain : portfolio.status = .certain) :
    portfolio.components = components ∧
      (∀ component ∈ components, component.status = .certain) ∧
        ∃ total, portfolio.total = some total ∧
          total.toRat = ((components.filterMap FxValuation.convertedAmount).map
            Decimal.toRat).sum := by
  rw [portfolioOf] at success
  split at success
  · cases success
    cases certain
  next allocatable =>
    simp only [bind_eq_ok, translateExact_eq_ok, pure_eq_ok] at success
    obtain ⟨total, summed, rfl⟩ := success
    refine ⟨rfl, ?_, total, rfl, ?_⟩
    · intro component member
      rw [not_not, List.filter_eq_nil_iff] at allocatable
      simpa [FxValuation.allocatable] using allocatable component member
    · rw [exactSum_toRat summed, Decimal.toRat_zero, zero_add]

/-- The quote that was read is the given one. -/
theorem mapM_create_eq_ok [CaseMap] {quote : Option FxQuoteState} {available : FxQuote}
    (success : quote.mapM FxQuote.create = .ok (some available)) :
    ∃ state, quote = some state ∧ FxQuote.create state = .ok available := by
  cases quote with
  | none => cases success
  | some state =>
      rw [Option.mapM_some, map_eq_ok] at success
      obtain ⟨read, created, same⟩ := success
      cases same
      exact ⟨state, rfl, created⟩

/-- FX valuation is conservative.  A certain conversion by a quote is at most the balance at
every rate between the two sides of the quote, at most the haircut amount at the worse
side, equal to that amount where it has a finite expansion and less than one quantum below
it elsewhere.  A certain portfolio has a certain component for each of its balances, and
its total is their exact sum. -/
theorem fx_valuation_conservative [CaseMap] [Fingerprint] :
    (∀ amount sourceCurrency quote terms valuation,
      valueAmount amount sourceCurrency quote terms = .ok valuation →
      valuation.status = .certain → valuation.Real →
      ∃ context state available converted,
        currency terms.reportingCurrency "reporting_currency" = .ok context.reporting ∧
          terms.context context.reporting = .ok context ∧ quote = some state ∧
            FxQuote.create state = .ok available ∧
              decimal amount "amount" = .ok valuation.sourceAmount ∧
                currency sourceCurrency "source_currency" = .ok valuation.sourceCurrency ∧
                  Conservative context available valuation converted) ∧
    (∀ balances quotes terms portfolio, valueCashBalances balances quotes terms = .ok portfolio →
      portfolio.status = .certain →
      ∃ context normalized total, terms.context context.reporting = .ok context ∧
        normalizedQuotes quotes = .ok normalized ∧
          List.Forall₂ (Values context normalized) (sortedBalances balances)
            portfolio.components ∧
          (∀ component ∈ portfolio.components, component.status = .certain ∧
            ∃ converted, component.convertedAmount = some converted) ∧
          portfolio.total = some total ∧
          total.toRat = (portfolio.components.filterMap FxValuation.convertedAmount |>.map
            Decimal.toRat).sum) := by
  constructor
  · intro amount sourceCurrency quote terms valuation success certain real
    obtain ⟨sourceAmount, source, reporting, context, amountEq, sourceEq, reportingEq, contextEq,
      valued⟩ := valueAmount_eq_ok.mp success
    obtain ⟨sameReporting, haircutEq, -⟩ := FxTerms.context_eq_ok contextEq
    subst sameReporting
    obtain ⟨rfl, rfl, converted, convertedEq, identity | zero | foreign⟩ :=
      FxContext.value_certain (haircutOf_eq_ok haircutEq).1 valued certain
    · exact absurd real identity.2.1
    · exact absurd real zero.2.2.1
    · obtain ⟨-, -, -, available, quoteEq, conservative⟩ := foreign
      obtain ⟨state, given, created⟩ := mapM_create_eq_ok quoteEq
      exact ⟨context, state, available, converted, reportingEq, contextEq, given, created,
        amountEq, sourceEq, conservative⟩
  · intro balances quotes terms portfolio success certain
    simp only [valueCashBalances, bind_eq_ok] at success
    obtain ⟨normalized, normalizedEq, reporting, -, context, contextEq, ⟨seen, components⟩, looped,
      success⟩ := success
    obtain ⟨sameReporting, haircutEq, -⟩ := FxTerms.context_eq_ok contextEq
    subst sameReporting
    obtain ⟨sameComponents, allCertain, total, totalEq, summed⟩ := portfolioOf_certain success certain
    obtain ⟨values, grown, related⟩ := valueBalances_values looped
    rw [List.nil_append] at grown
    subst grown
    refine ⟨context, normalized, total, contextEq, normalizedEq, ?_, ?_, totalEq, ?_⟩
    · rw [sameComponents]
      exact related
    · rw [sameComponents]
      intro component member
      obtain ⟨item, -, amount, code, -, -, valued⟩ := exists_of_mem_forall₂ related member
      obtain ⟨-, -, converted, convertedEq, -⟩ := FxContext.value_certain
        (haircutOf_eq_ok haircutEq).1 valued (allCertain component member)
      exact ⟨allCertain component member, converted, convertedEq⟩
    · rw [sameComponents]
      exact summed

/-! ## A liability by an inverse quote -/

/-- Euros in which a dollar is quoted. -/
def dollarQuote (bid ask : String) : FxQuoteState where
  baseCurrency := "usd"
  quoteCurrency := "EUR"
  bid := .text bid
  ask := .text ask
  availableAt := ⟨0⟩
  sourceId := "desk"
  evidenceSha256 := "sha256:" ++ String.ofList (List.replicate 64 '0')

/-- Cents of a dollar. -/
def dollarTerms (haircut : String) : FxTerms where
  reportingCurrency := "USD"
  asOf := ⟨1⟩
  maxAge := 1
  haircut := .text haircut
  roundingPolicy := some ⟨"USD", .text "0.01", "1"⟩

theorem euro_debt_conservative :
    letI := CaseMap.ascii
    letI := Fingerprint.plain
    ∃ valuation, valueAmount (.int (-100)) "EUR" (some (dollarQuote "3" "4"))
        (dollarTerms "0.1") = .ok valuation ∧
      valuation.convertedAmount.map Decimal.toRat = some (-3667 / 100) ∧
      ∃ context available converted, Conservative context available valuation converted := by
  let := CaseMap.ascii
  let := Fingerprint.plain
  obtain ⟨valuation, valued⟩ := exists_eq_ok (by decide +kernel :
    (valueAmount (.int (-100)) "EUR" (some (dollarQuote "3" "4"))
      (dollarTerms "0.1")).toOption.isSome)
  have facts : (valueAmount (.int (-100)) "EUR" (some (dollarQuote "3" "4"))
      (dollarTerms "0.1")).toOption.map (fun valuation =>
        (valuation.status, valuation.side, valuation.convertedAmount.map Decimal.toRat)) =
      some (.certain, .inverseBidForLiability, some (-3667 / 100)) := by
    decide +kernel
  rw [valued] at facts
  simp only [Except.toOption, Option.map_some, Option.some.injEq, Prod.mk.injEq] at facts
  obtain ⟨certain, side, converted⟩ := facts
  have real : valuation.Real := by
    rw [FxValuation.Real, side]
    decide
  obtain ⟨context, _, available, amount, -, -, -, -, -, -, conservative⟩ :=
    fx_valuation_conservative.1 _ _ _ _ _ valued certain real
  exact ⟨valuation, valued, converted, context, available, amount, conservative⟩

end AutoTrade.Fx
