import AutoTrade.Risk.Scenarios
import Mathlib.Logic.Function.Basic

/-!
# Laws of the expected shortfall

The expected shortfall is the average of the largest losses, whatever the order of the
scenarios, and the digest of a list of scenarios identifies it up to that order.
-/

namespace AutoTrade.Risk

open Lib Numeric

/-- Images under functions that distinguish the same values are permutations of each other
together. -/
theorem perm_map_iff {α β γ : Type} [Nonempty β] [Nonempty γ] {first : α → β} {second : α → γ}
    (alike : ∀ left right, first left = first right ↔ second left = second right)
    {left right : List α} :
    (left.map first).Perm (right.map first) ↔ (left.map second).Perm (right.map second) := by
  have through : ∀ {β γ : Type} [Nonempty γ] {first : α → β} {second : α → γ},
      (∀ left right, first left = first right → second left = second right) →
      (left.map first).Perm (right.map first) → (left.map second).Perm (right.map second) := by
    intro β γ _ first second factors perm
    obtain ⟨image, rfl⟩ := (Function.factorsThrough_iff second).mp fun left right =>
      factors left right
    rw [← List.map_map, ← List.map_map]
    exact perm.map image
  constructor
  · exact through fun left right => (alike left right).mp
  · exact through fun left right => (alike left right).mpr

/-! ## Identities of scenarios -/

section Identity

variable [Fingerprint]

/-- The digest of a normalized scenario. -/
def scenarioIdentity (normalized : Scenario) : String :=
  "sha256:" ++ sha256 ((jsonText (Json.ofTexts (normalized.mapValues decimalText))).toOption.getD "")

theorem stressScenarioDigest_eq {scenario : Dict String DecimalInput} {normalized : Scenario}
    (normalizes : normalizeScenario scenario = .ok normalized) :
    stressScenarioDigest scenario = .ok (scenarioIdentity normalized) := by
  obtain ⟨text, written⟩ := exists_jsonText
    (Json.ofTexts_writable (normalized.mapValues decimalText))
  rw [stressScenarioDigest, normalizes, ok_bind, scenarioIdentity, written]
  rfl

theorem digest_injective (injective : Function.Injective (sha256 : String → String)) :
    Function.Injective fun text => "sha256:" ++ sha256 text := by
  intro left right same
  exact injective (String.append_right_inj _ |>.mp same)

/-- Scenarios have one identity when they have the same shocks. -/
theorem scenarioIdentity_eq_iff (injective : Function.Injective (sha256 : String → String))
    {left right : Scenario} :
    scenarioIdentity left = scenarioIdentity right ↔ left.get? = right.get? := by
  obtain ⟨leftText, leftWritten⟩ := exists_jsonText
    (Json.ofTexts_writable (left.mapValues decimalText))
  obtain ⟨rightText, rightWritten⟩ := exists_jsonText
    (Json.ofTexts_writable (right.mapValues decimalText))
  have texts : (left.mapValues decimalText).get? = (right.mapValues decimalText).get? ↔
      left.get? = right.get? := by
    simp only [funext_iff, Dict.get?_mapValues,
      (Option.map_injective decimalText_injective).eq_iff]
  rw [← texts, ← Json.normal_ofTexts_eq_iff (F := Unit)]
  constructor
  · intro same
    rw [scenarioIdentity, scenarioIdentity] at same
    have equal := digest_injective injective same
    rw [leftWritten, rightWritten] at equal
    change leftText = rightText at equal
    rw [← equal] at rightWritten
    exact jsonText_injective (Json.ofTexts_distinct _) (Json.ofTexts_distinct _) leftWritten
      rightWritten
  · intro same
    rw [scenarioIdentity, scenarioIdentity, jsonText_eq_of_normal same]

theorem stressScenarioDigests_eq {scenarios : List (Dict String DecimalInput)}
    {normalized : List Scenario} (normalizes : scenarios.mapM normalizeScenario = .ok normalized) :
    scenarios.mapM stressScenarioDigest = .ok (normalized.map scenarioIdentity) := by
  rw [mapM_eq_ok] at normalizes ⊢
  induction normalizes with
  | nil => exact List.Forall₂.nil
  | cons head tail ih => exact List.Forall₂.cons (stressScenarioDigest_eq head) ih

/-- The value whose text is the identity of a list of scenarios. -/
def identityPayload (normalized : List Scenario) : Payload :=
  .arr (((normalized.map scenarioIdentity).insertionSort (· ≤ ·)).map .str)

theorem identityPayload_writable (normalized : List Scenario) :
    (identityPayload normalized).Writable = true := by
  rw [identityPayload, Json.Writable, Json.writableItems_iff]
  intro item member
  obtain ⟨text, _, rfl⟩ := List.mem_map.mp member
  rfl

theorem identityPayload_distinct (normalized : List Scenario) :
    (identityPayload normalized).Distinct := by
  rw [identityPayload, Json.Distinct, Json.distinctItems_iff]
  intro item member
  obtain ⟨text, _, rfl⟩ := List.mem_map.mp member
  trivial

theorem normal_identityPayload (normalized : List Scenario) :
    (identityPayload normalized).normal = identityPayload normalized := by
  rw [identityPayload, Json.normal, Json.normalItems_eq, List.map_map]
  rfl

theorem tailScenarioSetDigest_eq {scenarios : List (Dict String DecimalInput)}
    {normalized : List Scenario} (normalizes : scenarios.mapM normalizeScenario = .ok normalized) :
    ∃ text, jsonText (identityPayload normalized) = .ok text ∧
      tailScenarioSetDigest scenarios = .ok ("sha256:" ++ sha256 text) := by
  obtain ⟨text, written⟩ := exists_jsonText (identityPayload_writable normalized)
  refine ⟨text, written, ?_⟩
  rw [tailScenarioSetDigest, stressScenarioDigests_eq normalizes, ok_bind]
  change (jsonText (identityPayload normalized) >>= _) = _
  rw [written]
  rfl

/-- The digests of two lists of scenarios are equal exactly when the lists hold the same
scenarios as often. -/
theorem tailScenarioSetDigest_eq_iff (injective : Function.Injective (sha256 : String → String))
    {left right : List (Dict String DecimalInput)} {leftNormalized rightNormalized : List Scenario}
    (leftNormalizes : left.mapM normalizeScenario = .ok leftNormalized)
    (rightNormalizes : right.mapM normalizeScenario = .ok rightNormalized) :
    tailScenarioSetDigest left = tailScenarioSetDigest right ↔
      (leftNormalized.map Dict.get?).Perm (rightNormalized.map Dict.get?) := by
  obtain ⟨leftText, leftWritten, leftDigest⟩ := tailScenarioSetDigest_eq leftNormalizes
  obtain ⟨rightText, rightWritten, rightDigest⟩ := tailScenarioSetDigest_eq rightNormalizes
  rw [leftDigest, rightDigest, Except.ok.injEq,
    ← perm_map_iff fun _ _ => scenarioIdentity_eq_iff injective]
  have texts : leftText = rightText ↔
      identityPayload leftNormalized = identityPayload rightNormalized := by
    constructor
    · intro same
      rw [← same] at rightWritten
      have normals := jsonText_injective (identityPayload_distinct _) (identityPayload_distinct _)
        leftWritten rightWritten
      rwa [normal_identityPayload, normal_identityPayload] at normals
    · intro same
      rw [same, rightWritten] at leftWritten
      exact (Except.ok.inj leftWritten).symm
  have sorted : identityPayload leftNormalized = identityPayload rightNormalized ↔
      (leftNormalized.map scenarioIdentity).insertionSort (· ≤ ·) =
        (rightNormalized.map scenarioIdentity).insertionSort (· ≤ ·) := by
    rw [identityPayload, identityPayload, Json.arr.injEq]
    exact (List.map_injective_iff.mpr fun _ _ => Json.str.inj).eq_iff
  rw [(digest_injective injective).eq_iff, texts, sorted]
  constructor
  · intro same
    exact (List.perm_insertionSort _ _).symm.trans
      ((List.Perm.of_eq same).trans (List.perm_insertionSort _ _))
  · intro perm
    exact ((List.perm_insertionSort _ _).trans
      (perm.trans (List.perm_insertionSort _ _).symm)).eq_of_pairwise'
      (List.pairwise_insertionSort _ _) (List.pairwise_insertionSort _ _)

end Identity

/-! ## The loss of a portfolio -/

/-- Every scenario has a shock for every symbol. -/
def Covers (scenarios : List Scenario) (notionals : Dict String Decimal) : Prop :=
  ∀ scenario ∈ scenarios, ∀ symbol ∈ notionals.keys, symbol ∈ scenario.keys

/-- The pnl of notionals in a scenario. -/
def pnl (notionals : Dict String Decimal) (scenario : Scenario) : ℚ :=
  (notionals.entries.map fun entry =>
    entry.2.toRat * ((scenario.get? entry.1).getD 0).toRat).sum

/-- The loss of notionals in a scenario. -/
def loss (notionals : Dict String Decimal) (scenario : Scenario) : ℚ :=
  max (-pnl notionals scenario) 0

theorem scenarioPnl_eq {notionals : Dict String Decimal} {scenario : Scenario} {result : Decimal}
    (success : scenarioPnl notionals scenario = .ok result) :
    result.toRat = pnl notionals scenario := by
  apply riskSum_map _ success
  intro entry _ product computed
  simp only [bind_eq_ok, lookup_eq_ok] at computed
  obtain ⟨shock, found, computed⟩ := computed
  rw [riskProduct_eq computed, found]
  rfl

theorem scenarioLoss_eq {notionals : Dict String Decimal} {scenario : Scenario} {result : Decimal}
    (success : scenarioLoss notionals scenario = .ok result) :
    result.toRat = loss notionals scenario := by
  simp only [scenarioLoss, bind_eq_ok, pure_eq_ok] at success
  obtain ⟨gain, gainEq, negated, negatedEq, rfl⟩ := success
  rw [riskNegate_eq_ok, scenarioPnl_eq gainEq] at negatedEq
  rw [maximum_toRat, negatedEq, Decimal.toRat_zero, loss]

/-- Covered scenarios raise the error of the envelope only. -/
theorem raisesOnly_scenarioPnl {notionals : Dict String Decimal} {scenario : Scenario}
    (covered : ∀ symbol ∈ notionals.keys, symbol ∈ scenario.keys) :
    RaisesOnly RiskError.IsArithmetic (scenarioPnl notionals scenario) := by
  apply raisesOnly_sum
  intro term member
  obtain ⟨entry, listed, rfl⟩ := List.mem_map.mp member
  obtain ⟨shock, found⟩ := Dict.mem_keys.mp (covered entry.1 (List.mem_map_of_mem listed))
  rw [lookup_eq_ok.mpr found, ok_bind]
  exact raisesOnly_envelope

theorem raisesOnly_scenarioLoss {notionals : Dict String Decimal} {scenario : Scenario}
    (covered : ∀ symbol ∈ notionals.keys, symbol ∈ scenario.keys) :
    RaisesOnly RiskError.IsArithmetic (scenarioLoss notionals scenario) :=
  (raisesOnly_scenarioPnl covered).then fun _ => raisesOnly_envelope.then fun _ => raisesOnly_pure

/-! ## The average of the tail -/

/-- The comparison that sorts losses compares their values. -/
theorem map_toRat_tail (losses : List Decimal) (count : Nat) :
    ((losses.insertionSort (· ≥ ·)).take count).map Decimal.toRat =
      largest count (losses.map Decimal.toRat) := by
  rw [largest, List.map_take, List.map_insertionSort (· ≥ ·) (· ≥ ·)]
  intro left _ right _
  exact Iff.rfl

theorem selectTailCount_eq {count : Nat} {tailFraction : Decimal} {result : Nat}
    (success : selectTailCount count tailFraction = .ok result) :
    result = max 1 ⌈(count : ℚ) * tailFraction.toRat⌉₊ := by
  simp only [selectTailCount, riskFraction, bind_eq_ok, envelope_eq_ok, pure_eq_ok] at success
  obtain ⟨fraction, fractionEq, ceiling, ceilingEq, rfl⟩ := success
  rw [nonnegativeFractionCeiling_eq ceilingEq, boundedFraction_eq fractionEq, Int.ceil_toNat]

theorem raisesOnly_selectTailCount {count : Nat} {tailFraction : Decimal}
    (nonneg : 0 ≤ tailFraction) :
    RaisesOnly RiskError.IsArithmetic (selectTailCount count tailFraction) := by
  apply raisesOnly_envelope.bind
  intro fraction fractionEq
  rw [boundedFraction_eq (envelope_eq_ok.mp fractionEq)]
  apply (raisesOnly_nonnegativeFractionCeiling _).then
  · intro ceiling
    exact raisesOnly_pure
  · exact mul_nonneg (Nat.cast_nonneg count) nonneg

theorem scenarioLosses_eq {notionals : Dict String Decimal} {scenarios : List Scenario}
    {losses : List Decimal} (success : scenarios.mapM (scenarioLoss notionals) = .ok losses) :
    losses.map Decimal.toRat = scenarios.map (loss notionals) := by
  rw [mapM_eq_ok] at success
  induction success with
  | nil => rfl
  | cons head tail ih => rw [List.map_cons, List.map_cons, ih, scenarioLoss_eq head]

/-- The average of the tail is the average of the largest losses. -/
theorem tailAverage_eq {notionals : Dict String Decimal} {scenarios : List Scenario}
    {tailCount : Nat} {name : String} {result : ℚ}
    (success : tailAverage notionals scenarios tailCount name = .ok result) :
    result = average (largest tailCount (scenarios.map (loss notionals))) := by
  simp only [tailAverage, bind_eq_ok, envelope_eq_ok, terminatingDecimal_eq_ok] at success
  obtain ⟨losses, lossesEq, total, totalEq, count, countEq, ratio⟩ := success
  rw [(exactRatio_eq ratio).2, countEq, riskSum_values totalEq, average, ← scenarioLosses_eq lossesEq,
    ← map_toRat_tail, List.length_map]

/-- The tail of covered scenarios raises the error of the envelope only. -/
theorem raisesOnly_tailAverage {notionals : Dict String Decimal} {scenarios : List Scenario}
    {tailCount : Nat} {name : String} (present : scenarios ≠ []) (positive : 0 < tailCount)
    (covered : Covers scenarios notionals) :
    RaisesOnly RiskError.IsArithmetic (tailAverage notionals scenarios tailCount name) := by
  apply RaisesOnly.bind
  · apply raisesOnly_mapM
    intro scenario member
    exact raisesOnly_scenarioLoss (covered scenario member)
  · intro losses lossesEq
    apply RaisesOnly.then
    · apply raisesOnly_sum
      intro term member
      obtain ⟨value, _, rfl⟩ := List.mem_map.mp member
      exact raisesOnly_ok
    · intro total
      apply raisesOnly_envelope.bind
      intro count countEq
      apply raisesOnly_exactRatio
      have length := (mapM_eq_ok.mp lossesEq).length_eq
      have scenariosPos := List.length_pos_iff.mpr present
      rw [terminatingDecimal_eq_ok.mp (envelope_eq_ok.mp countEq), List.length_take,
        List.length_insertionSort, ← length]
      exact_mod_cast lt_min positive scenariosPos

/-- The order of the scenarios does not matter. -/
theorem tailAverage_of_perm {notionals : Dict String Decimal} {scenarios others : List Scenario}
    {tailCount : Nat} {name : String} {result : ℚ} (perm : others.Perm scenarios)
    (success : tailAverage notionals scenarios tailCount name = .ok result) :
    tailAverage notionals others tailCount name = .ok result := by
  rw [tailAverage, bind_eq_ok] at success
  obtain ⟨losses, lossesEq, rest⟩ := success
  obtain ⟨images, imagesEq, imagesPerm⟩ :=
    List.perm_comp_forall₂ perm (mapM_eq_ok.mp lossesEq)
  have tails : (images.insertionSort (· ≥ ·)).take tailCount =
      (losses.insertionSort (· ≥ ·)).take tailCount := by
    apply List.map_injective_iff.mpr fun _ _ => Decimal.ext
    rw [map_toRat_tail, map_toRat_tail]
    exact largest_eq_of_perm (imagesPerm.map _) tailCount
  rw [tailAverage, mapM_eq_ok.mpr imagesEq, ok_bind, tails]
  exact rest

/-! ## The laws -/

/-- The number of the scenarios in the tail. -/
def tailSize (count : Nat) (tailFraction : Decimal) : Nat :=
  max 1 ⌈(count : ℚ) * tailFraction.toRat⌉₊

/-- What holds of an expected shortfall. -/
structure ShortfallLaws (notionals : Dict String Decimal) (scenarios : List Scenario)
    (tailFraction : Decimal) (result : ℚ) : Prop where
  size : 1 ≤ tailSize scenarios.length tailFraction ∧
    tailSize scenarios.length tailFraction ≤ scenarios.length
  /-- It is the average of the largest losses. -/
  tail : ∃ tail others : List ℚ, (scenarios.map (loss notionals)).Perm (tail ++ others) ∧
    tail.length = tailSize scenarios.length tailFraction ∧
    (∀ value ∈ tail, ∀ other ∈ others, other ≤ value) ∧ result = average tail
  mean_le : average (scenarios.map (loss notionals)) ≤ result
  le_max : ∃ worst ∈ scenarios.map (loss notionals), result ≤ worst
  order : ∀ others : List Scenario, others.Perm scenarios →
    expectedShortfall notionals others tailFraction = .ok result
  antitone : ∀ (larger : Decimal) (smaller : ℚ), tailFraction ≤ larger →
    expectedShortfall notionals scenarios larger = .ok smaller → smaller ≤ result

theorem expectedShortfall_eq {notionals : Dict String Decimal} {scenarios : List Scenario}
    {tailFraction : Decimal} {result : ℚ}
    (success : expectedShortfall notionals scenarios tailFraction = .ok result) :
    result = average (largest (tailSize scenarios.length tailFraction)
      (scenarios.map (loss notionals))) := by
  rw [expectedShortfall, bind_eq_ok] at success
  obtain ⟨tailCount, counted, returned⟩ := success
  rw [tailAverage_eq returned, selectTailCount_eq counted, tailSize]

theorem tailSize_le {count : Nat} {tailFraction : Decimal} (positive : 0 < count)
    (bounded : tailFraction.toRat ≤ 1) :
    1 ≤ tailSize count tailFraction ∧ tailSize count tailFraction ≤ count := by
  constructor
  · exact le_max_left _ _
  · apply max_le positive
    rw [Nat.ceil_le]
    exact mul_le_of_le_one_right (Nat.cast_nonneg count) bounded

theorem tailSize_mono {count : Nat} {smaller larger : Decimal} (below : smaller ≤ larger) :
    tailSize count smaller ≤ tailSize count larger :=
  max_le_max_left 1 (Nat.ceil_mono (mul_le_mul_of_nonneg_left below (Nat.cast_nonneg count)))

/-- Every expected shortfall that is returned obeys the laws. -/
theorem shortfallLaws_of_returns {notionals : Dict String Decimal} {scenarios : List Scenario}
    {tailFraction : Decimal} {result : ℚ} (present : scenarios ≠ [])
    (bounded : tailFraction.toRat ≤ 1)
    (success : expectedShortfall notionals scenarios tailFraction = .ok result) :
    ShortfallLaws notionals scenarios tailFraction result := by
  have size := tailSize_le (List.length_pos_iff.mpr present) bounded
  have lossCount : (scenarios.map (loss notionals)).length = scenarios.length :=
    List.length_map (loss notionals)
  have lossesPresent : scenarios.map (loss notionals) ≠ [] := by
    rw [Ne, List.map_eq_nil_iff]
    exact present
  have tailLength := length_largest (size.2.trans_eq lossCount.symm)
  have value := expectedShortfall_eq success
  constructor
  · exact size
  · obtain ⟨others, perm, below⟩ := exists_others (tailSize scenarios.length tailFraction)
      (scenarios.map (loss notionals))
    exact ⟨_, others, perm, tailLength, below, value⟩
  · rw [value]
    exact average_le_largest size.1 (size.2.trans_eq lossCount.symm)
  · have tailPresent : largest (tailSize scenarios.length tailFraction)
        (scenarios.map (loss notionals)) ≠ [] := by
      rw [← List.length_pos_iff, tailLength]
      exact size.1
    obtain ⟨worst, member, above⟩ := exists_average_le tailPresent
    rw [value]
    exact ⟨worst, mem_of_mem_largest member, above⟩
  · intro others perm
    rw [expectedShortfall, bind_eq_ok] at success ⊢
    obtain ⟨tailCount, counted, returned⟩ := success
    rw [perm.length_eq]
    exact ⟨tailCount, counted, tailAverage_of_perm perm returned⟩
  · intro larger smaller above returned
    rw [value, expectedShortfall_eq returned]
    exact average_largest_antitone size.1 (tailSize_mono above) lossesPresent

theorem raisesOnly_expectedShortfall {notionals : Dict String Decimal} {scenarios : List Scenario}
    {tailFraction : Decimal} (present : scenarios ≠ []) (positive : 0 < tailFraction)
    (covered : Covers scenarios notionals) :
    RaisesOnly RiskError.IsArithmetic (expectedShortfall notionals scenarios tailFraction) := by
  apply (raisesOnly_selectTailCount (Decimal.lt_def.mp positive).le).bind
  intro tailCount counted
  apply raisesOnly_tailAverage present _ covered
  rw [selectTailCount_eq counted]
  exact lt_of_lt_of_le Nat.one_pos (le_max_left 1 _)

/-- The expected shortfall of covering scenarios is the average of the largest losses, and the
digest of a list of scenarios is its identity up to the order. -/
theorem expected_shortfall_laws [Fingerprint]
    (injective : Function.Injective (sha256 : String → String)) :
    (∀ (notionals : Dict String Decimal) (scenarios : List Scenario) (tailFraction : Decimal),
      scenarios ≠ [] → Covers scenarios notionals →
      0 < tailFraction → tailFraction.toRat ≤ 1 →
      RaisesOnly RiskError.IsArithmetic (expectedShortfall notionals scenarios tailFraction) ∧
      ∀ result, expectedShortfall notionals scenarios tailFraction = .ok result →
        ShortfallLaws notionals scenarios tailFraction result) ∧
    ∀ (left right : List (Dict String DecimalInput)) (leftNormalized rightNormalized :
        List Scenario),
      left.mapM normalizeScenario = .ok leftNormalized →
      right.mapM normalizeScenario = .ok rightNormalized →
      (∃ digest, tailScenarioSetDigest left = .ok digest) ∧
      (tailScenarioSetDigest left = tailScenarioSetDigest right ↔
        (leftNormalized.map Dict.get?).Perm (rightNormalized.map Dict.get?)) := by
  constructor
  · intro notionals scenarios tailFraction present covered positive bounded
    constructor
    · exact raisesOnly_expectedShortfall present positive covered
    · intro result success
      exact shortfallLaws_of_returns present bounded success
  · intro left right leftNormalized rightNormalized leftNormalizes rightNormalizes
    obtain ⟨text, _, digested⟩ := tailScenarioSetDigest_eq leftNormalizes
    exact ⟨⟨_, digested⟩, tailScenarioSetDigest_eq_iff injective leftNormalizes rightNormalizes⟩

/-! ## A portfolio of one symbol -/

/-- A number of tenths. -/
def tenths (number : ℤ) (small : number.natAbs < 10 ^ maxSignificantDigits) : Decimal :=
  ⟨number / 10, 1, by decide, number, by simp, small⟩

/-- A scenario that shocks one symbol. -/
def shocked (shock : Decimal) : Scenario := ⟨[("A", shock)], by simp⟩

def sampleNotionals : Dict String Decimal :=
  ⟨[("A", Decimal.whole 2 Decimal.two_bounded)], by simp⟩

def sampleScenarios : List Scenario :=
  [shocked (tenths (-1) (by decide)), shocked (tenths 1 (by decide)),
    shocked (tenths (-3) (by decide))]

/-- The worse half of three scenarios, and one distribution in two presentations. -/
theorem expected_shortfall_laws_three_scenarios :
    letI := Fingerprint.plain
    ShortfallLaws sampleNotionals sampleScenarios (tenths 5 (by decide)) (2 / 5) ∧
    tailScenarioSetDigest [⟨[(" A ", .text "1.50")], by simp⟩, ⟨[("A", .int 2)], by simp⟩] =
      tailScenarioSetDigest [⟨[("A", .text "2")], by simp⟩, ⟨[("A", .text "15e-1")], by simp⟩] := by
  let := Fingerprint.plain
  have laws := expected_shortfall_laws fun _ _ => id
  constructor
  · exact (laws.1 sampleNotionals sampleScenarios (tenths 5 (by decide)) (by decide) (by
      intro scenario member symbol listed
      rw [List.mem_singleton.mp listed]
      revert scenario
      decide) (by decide +kernel) (by decide +kernel)).2 (2 / 5) (by decide +kernel)
  · exact (laws.2 _ _ [shocked (tenths 15 (by decide)), shocked (Decimal.whole 2 (by decide))]
      [shocked (Decimal.whole 2 (by decide)), shocked (tenths 15 (by decide))]
      (by decide +kernel) (by decide +kernel)).2.mpr (List.Perm.swap _ _ [])

end AutoTrade.Risk
