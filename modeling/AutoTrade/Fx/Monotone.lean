import AutoTrade.Fx.Conservative

/-!
# Larger balances

The exact amounts of two balances are ordered as the balances.  The converted amounts are
too, unless the smaller one is kept exactly between two multiples of the quantum and the
larger one is rounded down to the lower of them.
-/

namespace AutoTrade.Fx

open Lib Numeric

/-- The bound grows with the balance, also across zero. -/
theorem conservativeBound_mono {first second haircut low high : ℚ} (ordered : first ≤ second)
    (haircutBounds : 0 ≤ haircut ∧ haircut < 1) (sides : 0 < low ∧ low ≤ high) :
    conservativeBound first haircut low high ≤ conservativeBound second haircut low high := by
  have above : 0 < high := sides.1.trans_le sides.2
  have lowNonneg : 0 ≤ low := sides.1.le
  have kept : 0 ≤ 1 - haircut := by linarith
  have grown : 0 ≤ 1 + haircut := by linarith
  rw [conservativeBound, conservativeBound]
  by_cases asset : 0 < first
  · rw [if_pos asset, if_pos (asset.trans_le ordered)]
    gcongr
  · rw [if_neg asset]
    rw [not_lt] at asset
    split
    next rising =>
      have below : (1 + haircut) * first * high ≤ 0 :=
        mul_nonpos_of_nonpos_of_nonneg (mul_nonpos_of_nonneg_of_nonpos grown asset) above.le
      have rest : 0 ≤ (1 - haircut) * second * low :=
        mul_nonneg (mul_nonneg kept rising.le) lowNonneg
      exact below.trans rest
    · gcongr

/-- A multiple of the quantum is at most the rounding of a larger value. -/
theorem multiple_le_floored {quantum value converted : ℚ} {units others : ℤ}
    (positive : 0 < quantum) (multiple : converted = quantum * others)
    (below : quantum * units ≤ value) (within : value < converted + quantum) :
    quantum * units ≤ converted := by
  have scaled : quantum * units < quantum * ((others + 1 : ℤ) : ℚ) := by
    push_cast
    rw [mul_add, mul_one, ← multiple]
    exact below.trans_lt within
  have strict : units < others + 1 := by
    have cast := lt_of_mul_lt_mul_left scaled positive.le
    exact_mod_cast cast
  rw [multiple]
  exact mul_le_mul_of_nonneg_left (Int.cast_le.mpr (Int.lt_add_one_iff.mp strict)) positive.le

/-- The smaller exact amount is kept between two multiples of the quantum and the larger one
is rounded down below it. -/
def KeptAboveRounding (lowerExact upperExact : ℚ) (policy : Option FxRoundingPolicy)
    (lower upper : Decimal) : Prop :=
  ∃ applied, policy = some applied ∧ Terminating lowerExact ∧ ¬ Terminating upperExact ∧
    (∀ units : ℤ, lowerExact ≠ applied.quantum.toRat * units) ∧
      upper.toRat < lower.toRat ∧ lower.toRat < upper.toRat + applied.quantum.toRat

/-- Roundings of ordered amounts are ordered up to that case. -/
theorem Floored.mono {lowerExact upperExact : ℚ} {policy : Option FxRoundingPolicy}
    {lower upper : Decimal} {lowerQuantum upperQuantum : Option Decimal}
    (ordered : lowerExact ≤ upperExact) (first : Floored lowerExact policy lower lowerQuantum)
    (second : Floored upperExact policy upper upperQuantum) :
    lower.toRat ≤ upper.toRat ∨ KeptAboveRounding lowerExact upperExact policy lower upper := by
  by_cases upperTerminates : Terminating upperExact
  · rw [(second.exact_of_terminating upperTerminates).1]
    exact .inl (first.below.trans ordered)
  obtain ⟨applied, policyEq, -, within, others, multiple⟩ := second.rounded upperTerminates
  by_cases onGrid : ∃ units : ℤ, lower.toRat = applied.quantum.toRat * units
  · obtain ⟨units, lowerEq⟩ := onGrid
    left
    rw [lowerEq]
    apply multiple_le_floored applied.quantum_pos multiple _ within
    rw [← lowerEq]
    exact first.below.trans ordered
  · have lowerTerminates : Terminating lowerExact := by
      by_contra unbounded
      obtain ⟨other, otherEq, -, -, units, lowerEq⟩ := first.rounded unbounded
      rw [policyEq, Option.some.injEq] at otherEq
      subst otherEq
      exact onGrid ⟨units, lowerEq⟩
    have kept := (first.exact_of_terminating lowerTerminates).1
    rcases le_or_gt lower.toRat upper.toRat with below | above
    · exact .inl below
    · right
      refine ⟨applied, policyEq, lowerTerminates, upperTerminates, ?_, above, ?_⟩
      · intro units same
        exact onGrid ⟨units, kept.trans same⟩
      · rw [kept]
        exact ordered.trans_lt within

/-- An asset is not converted below zero. -/
theorem Floored.nonneg {exactAmount : ℚ} {policy : Option FxRoundingPolicy} {converted : Decimal}
    {quantum : Option Decimal} (floored : Floored exactAmount policy converted quantum)
    (nonnegative : 0 ≤ exactAmount) : 0 ≤ converted.toRat := by
  by_cases terminates : Terminating exactAmount
  · rw [(floored.exact_of_terminating terminates).1]
    exact nonnegative
  · obtain ⟨applied, -, -, within, units, multiple⟩ := floored.rounded terminates
    have zero : applied.quantum.toRat * (0 : ℤ) = 0 := by simp
    rw [← zero]
    exact multiple_le_floored applied.quantum_pos multiple (zero.trans_le nonnegative) within

/-- The exact amount of a valuation by a quote. -/
def exactAmountOf (context : FxContext) (quote : FxQuote) (valuation : FxValuation) : ℚ :=
  conservativeBound valuation.sourceAmount.toRat context.haircut.toRat
    (quote.sides valuation.sourceCurrency).1 (quote.sides valuation.sourceCurrency).2

/-- A larger balance is not valued lower, up to one quantum.  Two certain valuations with the
same arguments are ordered as their balances, except where the smaller one is kept exactly
between two multiples of the quantum and the larger one is rounded down to the lower of
them. -/
theorem valuation_monotone [CaseMap] [Fingerprint] {first second : DecimalInput}
    {sourceCurrency : String} {quote : Option FxQuoteState} {terms : FxTerms}
    {lower upper : FxValuation} {lowerConverted upperConverted : Decimal}
    (firstValued : valueAmount first sourceCurrency quote terms = .ok lower)
    (secondValued : valueAmount second sourceCurrency quote terms = .ok upper)
    (firstCertain : lower.status = .certain) (secondCertain : upper.status = .certain)
    (firstConverted : lower.convertedAmount = some lowerConverted)
    (secondConverted : upper.convertedAmount = some upperConverted)
    (ordered : lower.sourceAmount.toRat ≤ upper.sourceAmount.toRat) :
    lowerConverted.toRat ≤ upperConverted.toRat ∨
      ∃ state available context, quote = some state ∧ FxQuote.create state = .ok available ∧
        terms.context context.reporting = .ok context ∧
          KeptAboveRounding (exactAmountOf context available lower)
            (exactAmountOf context available upper) context.policy lowerConverted
              upperConverted := by
  obtain ⟨firstAmount, source, reporting, context, -, sourceEq, reportingEq, contextEq, valued⟩ :=
    valueAmount_eq_ok.mp firstValued
  obtain ⟨secondAmount, otherSource, otherReporting, otherContext, -, otherSourceEq,
    otherReportingEq, otherContextEq, otherValued⟩ := valueAmount_eq_ok.mp secondValued
  rw [sourceEq, Except.ok.injEq] at otherSourceEq
  rw [reportingEq, Except.ok.injEq] at otherReportingEq
  subst otherSourceEq otherReportingEq
  rw [contextEq, Except.ok.injEq] at otherContextEq
  subst otherContextEq
  obtain ⟨sameReporting, haircutEq, -⟩ := FxTerms.context_eq_ok contextEq
  subst sameReporting
  have haircutBounds := haircutOf_eq_ok haircutEq
  obtain ⟨lowerAmount, lowerSource, converted, convertedEq, lowerCase⟩ :=
    FxContext.value_certain haircutBounds.1 valued firstCertain
  obtain ⟨upperAmount, upperSource, otherConverted, otherConvertedEq, upperCase⟩ :=
    FxContext.value_certain haircutBounds.1 otherValued secondCertain
  rw [firstConverted, Option.some.injEq] at convertedEq
  rw [secondConverted, Option.some.injEq] at otherConvertedEq
  subst convertedEq otherConvertedEq
  rcases lowerCase with identity | zero | foreign
  · rcases upperCase with otherIdentity | otherZero | otherForeign
    · left
      rw [identity.2.2, otherIdentity.2.2, ← lowerAmount, ← upperAmount]
      exact ordered
    · exact absurd identity.1 otherZero.1
    · exact absurd identity.1 otherForeign.1
  · rcases upperCase with otherIdentity | otherZero | otherForeign
    · exact absurd otherIdentity.1 zero.1
    · left
      rw [zero.2.2.2, otherZero.2.2.2]
    · -- a positive balance above zero
      obtain ⟨-, -, -, available, -, conservative⟩ := otherForeign
      left
      rw [zero.2.2.2, Decimal.toRat_zero]
      apply conservative.within.nonneg
      have sides := available.sides_pos upper.sourceCurrency
      rw [lowerAmount, zero.2.1, Decimal.toRat_zero] at ordered
      have least := conservativeBound_mono ordered haircutBounds sides
      have origin : conservativeBound 0 context.haircut.toRat
          (available.sides upper.sourceCurrency).1 (available.sides upper.sourceCurrency).2 = 0 := by
        simp [conservativeBound]
      rwa [origin] at least
  · obtain ⟨different, _, -, available, quoteEq, conservative⟩ := foreign
    rcases upperCase with otherIdentity | otherZero | otherForeign
    · exact absurd otherIdentity.1 different
    · -- a debt below zero
      left
      rw [otherZero.2.2.2, Decimal.toRat_zero]
      rw [upperAmount, otherZero.2.1, Decimal.toRat_zero] at ordered
      have sides := available.sides_pos lower.sourceCurrency
      have below := conservative.below_rate _ le_rfl sides.2
      exact below.trans (mul_nonpos_of_nonpos_of_nonneg ordered sides.1.le)
    · obtain ⟨-, -, -, other, otherQuoteEq, otherConservative⟩ := otherForeign
      rw [quoteEq, Except.ok.injEq, Option.some.injEq] at otherQuoteEq
      subst otherQuoteEq
      have exactOrdered : exactAmountOf context available lower ≤
          exactAmountOf context available upper := by
        rw [exactAmountOf, exactAmountOf, lowerSource, upperSource]
        exact conservativeBound_mono ordered haircutBounds (available.sides_pos source)
      rcases conservative.within.mono exactOrdered otherConservative.within with below | kept
      · exact .inl below
      · obtain ⟨state, given, created⟩ := mapM_create_eq_ok quoteEq
        exact .inr ⟨state, available, context, given, created, contextEq, kept⟩

/-! ## An exact amount above a rounded one -/

section Samples

attribute [local instance] CaseMap.ascii Fingerprint.plain

/-- 1.005 euros are 0.335 dollars at three euros for a dollar. -/
theorem exists_keptValuation : ∃ lower upper : FxValuation,
    valueAmount (.text "1.005") "EUR" (some (dollarQuote "2" "3")) (dollarTerms "0") = .ok lower ∧
      valueAmount (.text "1.01") "EUR" (some (dollarQuote "2" "3")) (dollarTerms "0") = .ok upper ∧
        (lower.status, lower.sourceAmount.toRat, lower.convertedAmount.map Decimal.toRat) =
          (.certain, 1005 / 1000, some (335 / 1000)) ∧
        (upper.status, upper.sourceAmount.toRat, upper.convertedAmount.map Decimal.toRat) =
          (.certain, 101 / 100, some (33 / 100)) := by
  obtain ⟨lower, lowerEq⟩ := exists_eq_ok (by decide +kernel :
    (valueAmount (.text "1.005") "EUR" (some (dollarQuote "2" "3"))
      (dollarTerms "0")).toOption.isSome)
  obtain ⟨upper, upperEq⟩ := exists_eq_ok (by decide +kernel :
    (valueAmount (.text "1.01") "EUR" (some (dollarQuote "2" "3"))
      (dollarTerms "0")).toOption.isSome)
  have lowerFacts : (valueAmount (.text "1.005") "EUR" (some (dollarQuote "2" "3"))
      (dollarTerms "0")).toOption.map (fun lower =>
        (lower.status, lower.sourceAmount.toRat, lower.convertedAmount.map Decimal.toRat)) =
      some (.certain, 1005 / 1000, some (335 / 1000)) := by
    decide +kernel
  have upperFacts : (valueAmount (.text "1.01") "EUR" (some (dollarQuote "2" "3"))
      (dollarTerms "0")).toOption.map (fun upper =>
        (upper.status, upper.sourceAmount.toRat, upper.convertedAmount.map Decimal.toRat)) =
      some (.certain, 101 / 100, some (33 / 100)) := by
    decide +kernel
  rw [lowerEq] at lowerFacts
  rw [upperEq] at upperFacts
  exact ⟨lower, upper, lowerEq, upperEq, Option.some.inj lowerFacts, Option.some.inj upperFacts⟩

theorem larger_balance_valued_lower :
    ¬ ∀ (first second : DecimalInput) (sourceCurrency : String) (quote : Option FxQuoteState)
        (terms : FxTerms) (lower upper : FxValuation) (lowerConverted upperConverted : Decimal),
      valueAmount first sourceCurrency quote terms = .ok lower →
      valueAmount second sourceCurrency quote terms = .ok upper →
      lower.status = .certain → upper.status = .certain →
      lower.convertedAmount = some lowerConverted → upper.convertedAmount = some upperConverted →
      lower.sourceAmount.toRat ≤ upper.sourceAmount.toRat →
      lowerConverted.toRat ≤ upperConverted.toRat := by
  intro monotone
  obtain ⟨lower, upper, lowerEq, upperEq, lowerFacts, upperFacts⟩ := exists_keptValuation
  simp only [Prod.mk.injEq, Option.map_eq_some_iff] at lowerFacts upperFacts
  obtain ⟨lowerCertain, lowerAmount, lowerConverted, lowerConvertedEq, lowerValue⟩ := lowerFacts
  obtain ⟨upperCertain, upperAmount, upperConverted, upperConvertedEq, upperValue⟩ := upperFacts
  have ordered := monotone _ _ _ _ _ _ _ _ _ lowerEq upperEq lowerCertain upperCertain
    lowerConvertedEq upperConvertedEq (by rw [lowerAmount, upperAmount]; norm_num)
  rw [lowerValue, upperValue] at ordered
  norm_num at ordered

theorem kept_balance_monotone : ∃ lower upper : FxValuation,
    ∃ lowerConverted upperConverted : Decimal,
      lower.convertedAmount = some lowerConverted ∧ upper.convertedAmount = some upperConverted ∧
        ∃ available context, KeptAboveRounding (exactAmountOf context available lower)
          (exactAmountOf context available upper) context.policy lowerConverted
            upperConverted := by
  obtain ⟨lower, upper, lowerEq, upperEq, lowerFacts, upperFacts⟩ := exists_keptValuation
  simp only [Prod.mk.injEq, Option.map_eq_some_iff] at lowerFacts upperFacts
  obtain ⟨lowerCertain, lowerAmount, lowerConverted, lowerConvertedEq, lowerValue⟩ := lowerFacts
  obtain ⟨upperCertain, upperAmount, upperConverted, upperConvertedEq, upperValue⟩ := upperFacts
  rcases valuation_monotone lowerEq upperEq lowerCertain upperCertain lowerConvertedEq
    upperConvertedEq (by rw [lowerAmount, upperAmount]; norm_num) with below | kept
  · rw [lowerValue, upperValue] at below
    norm_num at below
  · obtain ⟨-, available, context, -, -, -, kept⟩ := kept
    exact ⟨lower, upper, lowerConverted, upperConverted, lowerConvertedEq, upperConvertedEq,
      available, context, kept⟩

end Samples

end AutoTrade.Fx
