import AutoTrade.Risk.Evaluation
import AutoTrade.Risk.ExpectedShortfall
import AutoTrade.Risk.Portfolio

/-!
# What an evaluation raises

The exceptions of every part of `evaluate_risk`: on marked inputs whose scenarios cover what
is compared, only those of the resource envelope.
-/

namespace AutoTrade.Risk

open Lib Numeric

/-- The symbols of the intent and of the projected portfolio have marks, and the declared type
is that of the intent. -/
structure Marked (intent : RiskIntent) (context : RiskContext) : Prop where
  own : intent.symbol ∈ context.marks.keys
  projected : ∀ symbol, projectedQuantity intent context symbol ≠ 0 → symbol ∈ context.marks.keys
  declared : ∀ declared ∈ context.instrumentTypes.get? intent.symbol,
    declared = intent.instrumentType

/-- A symbol with a quantity before the intent has a mark. -/
theorem Marked.base {intent : RiskIntent} {context : RiskContext} (marked : Marked intent context)
    {symbol : String} (held : baseQuantity context symbol ≠ 0) : symbol ∈ context.marks.keys := by
  by_cases same : symbol = intent.symbol
  · rw [same]
    exact marked.own
  · apply marked.projected
    rw [projectedQuantity, if_neg same, add_zero]
    exact held

theorem raisesOnly_signedQuantity {intent : RiskIntent} :
    RaisesOnly RiskError.IsArithmetic (signedQuantity intent) := by
  rw [signedQuantity]
  cases intent.side with
  | buy => exact raisesOnly_ok
  | sell => exact raisesOnly_envelope

theorem raisesOnly_reservedPositions {context : RiskContext} :
    RaisesOnly RiskError.IsArithmetic (reservedPositions context) := by
  apply raisesOnly_foldlM
  intro entry _ positions
  exact raisesOnly_envelope.then fun _ => raisesOnly_pure

theorem raisesOnly_exposurePerUnit {intent : RiskIntent} {context : RiskContext} {symbol : String}
    (marked : symbol ∈ context.marks.keys) :
    RaisesOnly RiskError.IsArithmetic (exposurePerUnit intent context symbol) := by
  obtain ⟨mark, found⟩ := Dict.mem_keys.mp marked
  rw [exposurePerUnit, lookup_eq_ok.mpr found, ok_bind]
  exact raisesOnly_pure

theorem raisesOnly_notionalsOf {intent : RiskIntent} {context : RiskContext}
    {positions : Dict String Decimal}
    (marked : ∀ symbol, quantityOf positions symbol ≠ 0 → symbol ∈ context.marks.keys) :
    RaisesOnly RiskError.IsArithmetic (notionalsOf intent context positions) := by
  apply raisesOnly_traverse
  intro entry listed
  have found := Dict.mem_entries.mp listed
  rw [Dict.get?_filterValues, Option.filter_eq_some_iff, decide_eq_true_eq] at found
  apply RaisesOnly.then
  · apply raisesOnly_exposurePerUnit
    apply marked
    rw [quantityOf, found.1]
    exact found.2
  · intro exposure
    exact raisesOnly_envelope

theorem raisesOnly_grossOf {notionals : Dict String Decimal} :
    RaisesOnly RiskError.IsArithmetic (grossOf notionals) := by
  apply raisesOnly_sum
  intro term member
  obtain ⟨value, _, rfl⟩ := List.mem_map.mp member
  exact raisesOnly_envelope

theorem raisesOnly_netOf {notionals : Dict String Decimal} :
    RaisesOnly RiskError.IsArithmetic (netOf notionals) := by
  apply RaisesOnly.then
  · apply raisesOnly_sum
    intro term member
    obtain ⟨value, _, rfl⟩ := List.mem_map.mp member
    exact raisesOnly_ok
  · intro total
    exact raisesOnly_envelope

theorem raisesOnly_singleNotionalOf {intent : RiskIntent} {context : RiskContext}
    {resulting : Decimal} (marked : intent.symbol ∈ context.marks.keys) :
    RaisesOnly RiskError.IsArithmetic (singleNotionalOf intent context resulting) :=
  (raisesOnly_exposurePerUnit marked).then fun _ => raisesOnly_envelope.then fun _ =>
    raisesOnly_envelope.then fun _ => raisesOnly_envelope.then fun _ =>
      raisesOnly_envelope.then fun _ => raisesOnly_envelope.then fun _ => raisesOnly_pure

/-- A marked portfolio whose instrument types pass their checks is projected. -/
theorem raisesOnly_project {intent : RiskIntent} {context : RiskContext}
    (marked : Marked intent context) (directional : DirectionalPositive intent context) :
    RaisesOnly RiskError.IsArithmetic (project intent context) := by
  have equity : 0 < context.equity.toRat := context.equity_pos
  rw [project, if_neg (not_not.mpr marked.own)]
  apply raisesOnly_signedQuantity.bind
  intro signed signedEq
  rw [checkInstrumentTypes_eq_ok.mpr ⟨marked.declared, directional⟩, ok_bind]
  apply raisesOnly_envelope.then
  intro basePosition
  apply raisesOnly_envelope.then
  intro resulting
  apply raisesOnly_reservedPositions.bind
  intro basePositions reservedEq
  apply raisesOnly_envelope.bind
  intro projected projectedEq
  have base := reservedPositions_eq reservedEq
  have positions := projectedPositions_eq signedEq reservedEq projectedEq
  have baseMarked : ∀ symbol, quantityOf basePositions symbol ≠ 0 →
      symbol ∈ context.marks.keys := by
    intro symbol held
    apply marked.base
    rwa [← base, ← decimal_ne_zero]
  have projectedMarked : ∀ symbol,
      quantityOf (basePositions.set intent.symbol projected) symbol ≠ 0 →
      symbol ∈ context.marks.keys := by
    intro symbol held
    apply marked.projected
    rwa [← positions, ← decimal_ne_zero]
  have noneMissing : ((basePositions.set intent.symbol projected).filterValues
      (· ≠ 0)).keys.filter (· ∉ context.marks.keys) = [] := by
    rw [List.filter_eq_nil_iff]
    intro symbol listed
    rw [Dict.mem_keys, Dict.get?_filterValues] at listed
    obtain ⟨quantity, found⟩ := listed
    rw [Option.filter_eq_some_iff, decide_eq_true_eq] at found
    rw [decide_eq_true_eq, not_not]
    apply projectedMarked
    rw [quantityOf, found.1]
    exact found.2
  rw [if_neg (not_not.mpr noneMissing)]
  apply (raisesOnly_notionalsOf baseMarked).then
  intro baseNotionals
  apply (raisesOnly_notionalsOf projectedMarked).then
  intro notionals
  apply raisesOnly_grossOf.then
  intro baseGross
  apply raisesOnly_netOf.then
  intro baseNet
  apply raisesOnly_grossOf.then
  intro gross
  apply raisesOnly_netOf.then
  intro net
  apply (raisesOnly_exactRatio equity).then
  intro grossFraction
  apply (raisesOnly_exactRatio equity).then
  intro netFraction
  apply raisesOnly_envelope.then
  intro grossLeverage
  apply raisesOnly_envelope.then
  intro netLeverage
  apply (raisesOnly_singleNotionalOf marked.own).then
  intro singleNotional
  exact raisesOnly_pure

/-! ## Concentration, participation and factors -/

theorem raisesOnly_bucketTotals {buckets : Dict String String} {notionals : Dict String Decimal} :
    RaisesOnly RiskError.IsArithmetic (bucketTotals buckets notionals) := by
  apply raisesOnly_foldlM
  intro entry _ groups
  cases buckets.get? entry.1 with
  | none => exact raisesOnly_ok
  | some bucket =>
      exact raisesOnly_envelope.then fun _ => raisesOnly_envelope.then fun _ => raisesOnly_pure

theorem raisesOnly_concentrationOf {limit : Option Decimal} {buckets : Dict String String}
    {notionals : Dict String Decimal} {gross : Decimal} {name : String} :
    RaisesOnly RiskError.IsArithmetic (concentrationOf limit buckets notionals gross name) := by
  apply raisesOnly_ite
  · intro _
    exact raisesOnly_pure
  · intro limited
    have positive : 0 < gross.toRat := not_le.mp (not_or.mp limited).2
    apply raisesOnly_bucketTotals.then
    intro groups
    apply raisesOnly_ite
    · intro _
      exact raisesOnly_pure
    · intro _
      exact (raisesOnly_exactRatio positive).then fun _ => raisesOnly_envelope.then fun _ =>
        raisesOnly_pure

theorem raisesOnly_participationOf {limit capacity : Option Decimal} {quantity : Decimal} :
    RaisesOnly RiskError.IsArithmetic (participationOf limit capacity quantity) := by
  cases limit with
  | none => exact raisesOnly_ok
  | some limit =>
      cases capacity with
      | none => exact raisesOnly_ok
      | some capacity =>
          apply raisesOnly_ite
          · intro _
            exact raisesOnly_pure
          · intro positive
            exact (raisesOnly_exactRatio (not_le.mp positive)).then fun _ =>
              raisesOnly_envelope.then fun _ => raisesOnly_pure

theorem raisesOnly_factorTotals {loadings : Dict String (Dict String Decimal)}
    {notionals : Dict String Decimal} :
    RaisesOnly RiskError.IsArithmetic (factorTotals loadings notionals) := by
  apply raisesOnly_foldlM
  intro entry _ totals
  apply raisesOnly_foldlM
  intro loading _ others
  exact raisesOnly_envelope.then fun _ => raisesOnly_envelope.then fun _ => raisesOnly_pure

theorem raisesOnly_largestFactor {totals : Dict String Decimal} :
    RaisesOnly RiskError.IsArithmetic (largestFactor totals) := by
  apply RaisesOnly.then
  · apply raisesOnly_mapM
    intro value _
    exact raisesOnly_envelope
  · intro sizes
    exact raisesOnly_pure

theorem raisesOnly_factorExposureOf {limit : Option Decimal}
    {loadings : Dict String (Dict String Decimal)} {notionals baseNotionals : Dict String Decimal} :
    RaisesOnly RiskError.IsArithmetic
      (factorExposureOf limit loadings notionals baseNotionals) := by
  apply raisesOnly_ite
  · intro _
    exact raisesOnly_pure
  · intro _
    apply raisesOnly_factorTotals.then
    intro totals
    apply RaisesOnly.then
    · exact raisesOnly_ite (fun _ => raisesOnly_largestFactor) fun _ => raisesOnly_ok
    · intro exposure
      exact raisesOnly_factorTotals.then fun _ => raisesOnly_largestFactor.then fun _ =>
        raisesOnly_pure

theorem raisesOnly_reducesExposure {before after : Decimal} :
    RaisesOnly RiskError.IsArithmetic (reducesExposure before after) := by
  apply raisesOnly_envelope.then
  intro sizeAfter
  apply raisesOnly_envelope.then
  intro sizeBefore
  exact raisesOnly_ite (fun _ => raisesOnly_envelope.then fun _ => raisesOnly_pure)
    fun _ => raisesOnly_pure

/-! ## Coverage -/

theorem uncovered_eq_nil {scenarios : List Scenario} {notionals : Dict String Decimal} :
    uncovered scenarios notionals = [] ↔ Covers scenarios notionals := by
  simp only [uncovered, List.filter_eq_nil_iff, decide_eq_true_eq, not_exists, not_and, not_not]
  constructor
  · intro all scenario listed symbol held
    exact all symbol held scenario listed
  · intro all symbol held scenario listed
    exact all scenario listed symbol held

theorem covers_of_keys_eq_nil {scenarios : List Scenario} {notionals : Dict String Decimal}
    (empty : notionals.keys = []) : Covers scenarios notionals := by
  intro scenario _ symbol held
  rw [empty] at held
  exact absurd held List.not_mem_nil

/-- A pnl that is computed has a shock for every symbol. -/
theorem covered_of_scenarioPnl {notionals : Dict String Decimal} {scenario : Scenario}
    {result : Decimal} (success : scenarioPnl notionals scenario = .ok result) :
    ∀ symbol ∈ notionals.keys, symbol ∈ scenario.keys := by
  obtain ⟨values, all, _⟩ := riskSum_eq_ok success
  intro symbol held
  obtain ⟨entry, listed, rfl⟩ := List.mem_map.mp held
  rw [List.forall₂_map_left_iff] at all
  obtain ⟨value, _, computed⟩ := exists_of_mem_forall₂ all.flip listed
  simp only [bind_eq_ok, lookup_eq_ok] at computed
  obtain ⟨shock, found, _⟩ := computed
  exact Dict.mem_keys.mpr ⟨shock, found⟩

/-- A normalized scenario is its own normalization. -/
theorem normalizeScenario_input {scenario : Scenario}
    (normal : ∀ key ∈ scenario.keys, Normal key) :
    normalizeScenario scenario.input = .ok scenario := by
  rw [normalizeScenario, normalizeMapping, normalizeItems, Scenario.input, Dict.mapValues, List.foldlM_map]
  refine (Dict.foldlM_setAll id ?_ scenario.nodup fun entry _ => Dict.get?_empty entry.1).trans ?_
  · intro entry listed current (fresh : current.get? entry.1 = none)
    have stripped := normal entry.1 (List.mem_map_of_mem listed)
    have key : identityKey entry.1 "stress_scenario" = .ok entry.1 := by
      rw [identityKey, stripped.1, if_neg stripped.2]
      rfl
    rw [normalizeItem, key, ok_bind]
    exact throw_unless_eq_ok.mpr ⟨Dict.get?_eq_none.mp fresh, rfl⟩
  · rw [List.map_id, Dict.setAll_entries]

/-! ## Stress losses -/

theorem raisesOnly_worsen {notionals : Dict String Decimal} {worst : Decimal}
    {scenario : Scenario} (covered : ∀ symbol ∈ notionals.keys, symbol ∈ scenario.keys) :
    RaisesOnly RiskError.IsArithmetic (worsen notionals worst scenario) :=
  (raisesOnly_scenarioPnl covered).then fun _ => raisesOnly_envelope.then fun _ => raisesOnly_pure

theorem raisesOnly_stressLosses {covered comparable : Bool} {scenarios : List Scenario}
    {notionals baseNotionals : Dict String Decimal}
    (covers : covered = true → Covers scenarios notionals)
    (coversBase : comparable = true → Covers scenarios baseNotionals) :
    RaisesOnly RiskError.IsArithmetic
      (stressLosses covered comparable scenarios notionals baseNotionals) := by
  apply raisesOnly_ite
  · intro complete
    apply raisesOnly_foldlM
    intro scenario listed losses
    apply RaisesOnly.then
    · exact raisesOnly_ite (fun compared => raisesOnly_worsen (coversBase compared scenario listed))
        fun _ => raisesOnly_ok
    · intro baseWorst
      exact (raisesOnly_worsen (covers complete scenario listed)).then fun _ => raisesOnly_pure
  · intro _
    exact raisesOnly_ok

/-- Stress losses that are compared before the intent cover it. -/
theorem covers_of_stressLosses {scenarios : List Scenario}
    {notionals baseNotionals : Dict String Decimal} {losses : Decimal × Decimal}
    (success : stressLosses true true scenarios notionals baseNotionals = .ok losses) :
    Covers scenarios baseNotionals := by
  apply forall_of_foldlM (fun scenario => ∀ symbol ∈ baseNotionals.keys, symbol ∈ scenario.keys)
    _ success
  intro before after scenario step
  simp only [stressStep, worsen, if_true, bind_eq_ok] at step
  obtain ⟨_, ⟨_, computed, _⟩, _⟩ := step
  exact covered_of_scenarioPnl computed

/-- The comparison with the base portfolio covers it, unless the projected portfolio is flat. -/
theorem covers_of_comparable {scenarios : List Scenario}
    {notionals baseNotionals : Dict String Decimal}
    (comparable : baseComparisonComplete scenarios notionals baseNotionals = true)
    (flat : notionals.keys = [] → Covers scenarios baseNotionals) :
    Covers scenarios baseNotionals := by
  rw [baseComparisonComplete, decide_eq_true_eq] at comparable
  rcases comparable with empty | empty | ⟨_, covered⟩
  · exact flat empty
  · exact covers_of_keys_eq_nil empty
  · exact uncovered_eq_nil.mp covered

/-! ## Tail losses -/

theorem raisesOnly_reportedTail {notionals : Dict String Decimal} {scenarios : List Scenario}
    {tailCount : Nat} {name : String}
    (present : scenarios ≠ []) (positive : 0 < tailCount) (covered : Covers scenarios notionals) :
    RaisesOnly RiskError.IsArithmetic (reportedTail notionals scenarios tailCount name) :=
  (raisesOnly_tailAverage present positive covered).then fun _ => raisesOnly_envelope.then fun _ =>
    raisesOnly_pure

theorem tailCountOf_pos {scenarios : List Scenario} {tailFraction : Decimal} {tailCount : Nat}
    (present : scenarios ≠ []) (success : tailCountOf scenarios tailFraction = .ok tailCount) :
    0 < tailCount := by
  rw [tailCountOf, if_neg present] at success
  rw [selectTailCount_eq success]
  exact lt_of_lt_of_le Nat.one_pos (le_max_left 1 _)

theorem raisesOnly_projectedShortfall {covered : Bool} {scenarios : List Scenario}
    {tailCount : Nat} {notionals : Dict String Decimal}
    (positive : scenarios ≠ [] → 0 < tailCount)
    (covers : covered = true →
      (scenarios ≠ [] ∨ notionals.keys = []) ∧ Covers scenarios notionals) :
    RaisesOnly RiskError.IsArithmetic
      (projectedShortfall covered scenarios tailCount notionals) := by
  apply raisesOnly_ite
  · intro _
    exact raisesOnly_ok
  · intro complete
    obtain ⟨present, all⟩ := covers (not_not.mp complete)
    apply raisesOnly_ite
    · intro _
      exact raisesOnly_ok
    · intro held
      have some := present.resolve_right held
      exact raisesOnly_map (raisesOnly_reportedTail some (positive some) all)

theorem raisesOnly_baseShortfall {comparable : Bool} {scenarios : List Scenario}
    {tailCount : Nat} {baseNotionals : Dict String Decimal}
    (positive : scenarios ≠ [] → 0 < tailCount)
    (covers : comparable = true → Covers scenarios baseNotionals) :
    RaisesOnly RiskError.IsArithmetic
      (baseShortfall comparable scenarios tailCount baseNotionals) := by
  apply raisesOnly_ite
  · intro _
    exact raisesOnly_ok
  · intro _
    apply raisesOnly_ite
    · intro compared
      exact raisesOnly_map (raisesOnly_reportedTail compared.2 (positive compared.2)
        (covers compared.1))
    · intro _
      exact raisesOnly_ok

/-- A base shortfall that is computed covers the base portfolio. -/
theorem covers_of_baseShortfall {scenarios : List Scenario} {tailCount : Nat}
    {baseNotionals : Dict String Decimal} {result : Option (ℚ × Decimal)}
    (success : baseShortfall true scenarios tailCount baseNotionals = .ok result) :
    Covers scenarios baseNotionals := by
  rw [baseShortfall] at success
  split at success
  next empty => exact covers_of_keys_eq_nil empty
  split at success
  next =>
    cases reported : reportedTail baseNotionals scenarios tailCount "base expected shortfall" with
    | error error =>
        rw [reported] at success
        cases success
    | ok _ =>
        simp only [reportedTail, tailAverage, bind_eq_ok] at reported
        obtain ⟨_, ⟨losses, lossesEq, _⟩, _⟩ := reported
        intro scenario listed
        obtain ⟨loss, _, computed⟩ := exists_of_mem_forall₂ (mapM_eq_ok.mp lossesEq).flip listed
        simp only [scenarioLoss, bind_eq_ok] at computed
        obtain ⟨_, pnl, _⟩ := computed
        exact covered_of_scenarioPnl pnl
  next none =>
    intro scenario listed
    exact absurd ⟨rfl, List.ne_nil_of_mem listed⟩ none

/-! ## Rules -/

variable {intent : RiskIntent} {context : RiskContext} {policy : RiskPolicy}
  {store : Option EvidenceStore} {notionals baseNotionals : Dict String Decimal}

theorem raisesOnly_derivativeRule :
    RaisesOnly RiskError.IsArithmetic (derivativeRule intent context) := by
  apply RaisesOnly.then
  · apply raisesOnly_ite
    · intro evidenced
      have required : intent.symbol ∈ requiredEquivalentSymbols intent context := by
        rw [requiredEquivalentSymbols, if_pos evidenced.2]
        exact List.mem_insert_self
      have complete := evidenced.1
      rw [derivativeExposureEvidenced, decide_eq_true_eq, missingEquivalentSymbols] at complete
      have none : (requiredEquivalentSymbols intent context).filter
          (· ∉ context.equivalentExposurePerUnit.keys) = [] := by
        rw [← List.length_eq_zero_iff, ← List.length_insertionSort (· ≤ ·), complete.2]
        rfl
      rw [List.filter_eq_nil_iff] at none
      have known := none intent.symbol required
      rw [decide_eq_true_eq, not_not] at known
      obtain ⟨exposure, found⟩ := Dict.mem_keys.mp known
      rw [lookup_eq_ok.mpr found]
      exact raisesOnly_ok
    · intro _
      apply raisesOnly_ite
      · intro _
        exact raisesOnly_ok
      · intro _
        exact raisesOnly_ite (fun _ => raisesOnly_ok) fun _ => raisesOnly_ok
  · intro observed
    exact raisesOnly_pure

theorem raisesOnly_stateVersionRule (observed : ShortInteger context.stateVersion)
    (limit : ShortInteger intent.expectedStateVersion) :
    RaisesOnly RiskError.IsArithmetic (stateVersionRule intent context) := by
  rw [stateVersionRule, integerText, if_pos observed, integerText, if_pos limit]
  exact raisesOnly_pure

theorem raisesOnly_fractionLeDecimal {value : ℚ} {limit : Decimal} :
    RaisesOnly RiskError.IsArithmetic (fractionLeDecimal value limit) :=
  raisesOnly_envelope.then fun _ => raisesOnly_envelope.then fun _ => raisesOnly_pure

theorem raisesOnly_fractionRule {name observed reason : String} {complete : Bool} {fraction : ℚ}
    {limit : Decimal} : RaisesOnly RiskError.IsArithmetic
      (fractionRule name complete fraction observed reason limit) :=
  (raisesOnly_ite (fun _ => raisesOnly_fractionLeDecimal) fun _ => raisesOnly_ok).then fun _ =>
    raisesOnly_pure

theorem raisesOnly_optionalComparison {α : Type} {limit : Option α}
    {rule : α → Except RiskError RiskRuleResult}
    (inside : ∀ value, RaisesOnly RiskError.IsArithmetic (rule value)) :
    RaisesOnly RiskError.IsArithmetic (optionalComparison limit rule) := by
  cases limit with
  | none => exact raisesOnly_ok
  | some value => exact (inside value).then fun _ => raisesOnly_pure

theorem raisesOnly_projectedAbsPosition {projection : Projection} :
    RaisesOnly RiskError.IsArithmetic (projectedAbsPosition projection) := by
  apply RaisesOnly.then
  · apply raisesOnly_mapM
    intro quantity _
    exact raisesOnly_envelope
  · intro sizes
    exact raisesOnly_pure

theorem raisesOnly_tailRules {tail : TailResult} {protective : Bool} :
    RaisesOnly RiskError.IsArithmetic (tailRules context policy tail protective) := by
  rw [tailRules]
  cases policy.maxExpectedShortfall with
  | none => exact raisesOnly_ok
  | some limit =>
      apply RaisesOnly.then
      · apply RaisesOnly.then
        · cases tail.shortfallFraction with
          | none => exact raisesOnly_ok
          | some fraction =>
              exact raisesOnly_ite (fun _ => raisesOnly_fractionLeDecimal) fun _ => raisesOnly_ok
        · intro within
          exact raisesOnly_pure
      · intro shortfall
        exact raisesOnly_pure

theorem writable_liquidationEvidencePayload {evidence : LiquidationHeadroomEvidence} :
    (liquidationEvidencePayload evidence).Writable = true ↔
      ShortInteger evidence.stateVersion := by
  have one : ShortInteger 1 := by decide
  simp [liquidationEvidencePayload, writable_obj, one]

theorem raisesOnly_reduceOnlyRule {projection : Projection} {assessment : Assessment} :
    RaisesOnly RiskError.IsArithmetic (reduceOnlyRule intent context projection assessment) :=
  raisesOnly_envelope.then fun _ => raisesOnly_envelope.then fun _ =>
    raisesOnly_envelope.then fun _ => raisesOnly_envelope.then fun _ => raisesOnly_pure

/-! ## Digests and evidence -/

/-- The scenarios cover the base portfolio where its losses are compared although the projected
portfolio is flat. -/
def FlatCovered (context : RiskContext) (policy : RiskPolicy)
    (notionals baseNotionals : Dict String Decimal) : Prop :=
  notionals.keys = [] → Covers context.stressScenarios baseNotionals ∧
    (policy.maxExpectedShortfall.isSome = true → Covers context.tailScenarios baseNotionals)

variable [Fingerprint]

theorem raisesOnly_stressScenarioDigest {scenario : Scenario}
    (listed : scenario ∈ context.stressScenarios ++ context.tailScenarios) :
    RaisesOnly RiskError.IsArithmetic (stressScenarioDigest scenario.input) := by
  rw [stressScenarioDigest_eq (normalizeScenario_input (context.keysNormal.2.1 scenario listed))]
  exact raisesOnly_ok

theorem raisesOnly_mismatchedStressLabels {required : List String} {digests : Dict String String}
    (known : ∀ label ∈ required, label ∈ digests.keys) :
    RaisesOnly RiskError.IsArithmetic (mismatchedStressLabels context required digests) := by
  apply RaisesOnly.then
  · apply raisesOnly_mapM
    intro label listed
    cases found : ((∅ : Dict String Scenario).setAll
        (context.stressScenarioLabels.zip context.stressScenarios)).get? label with
    | none => exact raisesOnly_ok
    | some scenario =>
        have member : scenario ∈ context.stressScenarios := by
          have entry := Dict.mem_entries.mpr found
          rw [Dict.entries_setAll_empty] at entry
          · exact (List.of_mem_zip entry).2
          · rw [List.map_fst_zip]
            · exact context.labelsNormal.1
            · rcases context.labelsAligned with none | aligned
              · rw [none]
                exact Nat.zero_le _
              · exact aligned.le
        obtain ⟨digest, expected⟩ := Dict.mem_keys.mp (known label listed)
        apply (raisesOnly_stressScenarioDigest (List.mem_append_left _ member)).then
        intro observed
        rw [lookup_eq_ok.mpr expected, ok_bind]
        exact raisesOnly_pure
  · intro found
    exact raisesOnly_pure

theorem raisesOnly_stressRegime :
    RaisesOnly RiskError.IsArithmetic (stressRegime context policy notionals) := by
  rw [stressRegime]
  cases labels : policy.requiredStressScenarioLabels with
  | none => exact raisesOnly_ok
  | some required =>
      apply raisesOnly_ite
      · intro _
        exact raisesOnly_ok
      · intro _
        apply RaisesOnly.then
        · apply raisesOnly_mismatchedStressLabels
          intro label listed
          have together := policy.labelsTogether
          rw [labels] at together
          cases digests : policy.requiredStressScenarioDigests with
          | none =>
              rw [digests] at together
              cases together.1
          | some digests' =>
              exact (together.2 required rfl digests' digests label).mp listed
        · intro mismatched
          exact raisesOnly_pure

theorem raisesOnly_stressOf (flat : notionals.keys = [] →
    Covers context.stressScenarios baseNotionals) :
    RaisesOnly RiskError.IsArithmetic (stressOf context policy notionals baseNotionals) := by
  apply raisesOnly_stressRegime.then
  intro regime
  apply RaisesOnly.then
  · apply raisesOnly_stressLosses
    · intro complete
      rw [decide_eq_true_eq] at complete
      exact uncovered_eq_nil.mp complete.2
    · intro comparable
      exact covers_of_comparable comparable flat
  · intro losses
    exact raisesOnly_pure

theorem raisesOnly_tailDistributionMatches {required : Option String} :
    RaisesOnly RiskError.IsArithmetic
      (tailDistributionMatches context.tailScenarios required notionals) := by
  apply raisesOnly_ite
  · intro _
    exact raisesOnly_ok
  · intro _
    apply raisesOnly_ite
    · intro _
      exact raisesOnly_ok
    · intro _
      have normalizes : (context.tailScenarios.map Scenario.input).mapM normalizeScenario =
          .ok context.tailScenarios := by
        rw [mapM_eq_ok, List.forall₂_map_left_iff, List.forall₂_same]
        intro scenario listed
        exact normalizeScenario_input
          (context.keysNormal.2.1 scenario (List.mem_append_right _ listed))
      obtain ⟨text, _, digested⟩ := tailScenarioSetDigest_eq normalizes
      rw [digested, ok_bind]
      exact raisesOnly_pure

theorem raisesOnly_configuredTail {required : Option String} {tailFraction : Decimal}
    (positive : 0 < tailFraction)
    (flat : notionals.keys = [] → Covers context.tailScenarios baseNotionals) :
    RaisesOnly RiskError.IsArithmetic (configuredTail context.tailScenarios required tailFraction
      notionals baseNotionals) := by
  apply raisesOnly_tailDistributionMatches.then
  intro distributionMatches
  apply RaisesOnly.bind
  · exact raisesOnly_ite (fun _ => raisesOnly_ok) fun _ =>
      raisesOnly_selectTailCount (Decimal.lt_def.mp positive).le
  · intro tailCount counted
    apply RaisesOnly.then
    · apply raisesOnly_projectedShortfall fun present => tailCountOf_pos present counted
      intro complete
      rw [decide_eq_true_eq] at complete
      exact ⟨complete.1, uncovered_eq_nil.mp complete.2.2⟩
    · intro shortfall
      apply RaisesOnly.then
      · exact raisesOnly_baseShortfall (fun present => tailCountOf_pos present counted)
          fun comparable => covers_of_comparable comparable flat
      · intro base
        exact raisesOnly_pure

theorem raisesOnly_tailOf (flat : FlatCovered context policy notionals baseNotionals) :
    RaisesOnly RiskError.IsArithmetic (tailOf context policy notionals baseNotionals) := by
  rw [tailOf]
  split
  next limit tailFraction limited fraction =>
    apply raisesOnly_configuredTail (policy.tail_bounded tailFraction fraction).1
    intro empty
    apply (flat empty).2
    rw [limited]
    rfl
  next => exact raisesOnly_ok

theorem raisesOnly_assess {projection : Projection}
    (flat : FlatCovered context policy projection.notionals projection.baseNotionals) :
    RaisesOnly RiskError.IsArithmetic (assess intent context policy projection) := by
  apply raisesOnly_concentrationOf.then
  intro asset
  apply raisesOnly_concentrationOf.then
  intro venue
  apply raisesOnly_participationOf.then
  intro participation
  apply raisesOnly_factorExposureOf.then
  intro factor
  apply (raisesOnly_stressOf fun empty => (flat empty).1).then
  intro stress
  apply (raisesOnly_tailOf flat).then
  intro tail
  apply raisesOnly_reducesExposure.then
  intro reducesAbsolute
  apply raisesOnly_envelope.then
  intro currentAfterIntent
  apply raisesOnly_reducesExposure.then
  intro reducesCurrent
  exact raisesOnly_pure

/-- An assessment that returns covers the base portfolio. -/
theorem flatCovered_of_assess {projection : Projection} {assessment : Assessment}
    (success : assess intent context policy projection = .ok assessment) :
    FlatCovered context policy projection.notionals projection.baseNotionals := by
  intro empty
  simp only [assess, bind_eq_ok] at success
  obtain ⟨_, _, _, _, _, _, _, _, stress, stressEq, tail, tailEq, _⟩ := success
  have comparable : ∀ scenarios,
      baseComparisonComplete scenarios projection.notionals projection.baseNotionals = true := by
    intro scenarios
    rw [baseComparisonComplete, decide_eq_true_eq]
    exact Or.inl empty
  have covered : ∀ scenarios, uncovered scenarios projection.notionals = [] := fun scenarios =>
    uncovered_eq_nil.mpr (covers_of_keys_eq_nil empty)
  constructor
  · simp only [stressOf, bind_eq_ok, covered, comparable, empty, or_true, and_self,
      decide_true] at stressEq
    obtain ⟨_, _, losses, lossesEq, _⟩ := stressEq
    exact covers_of_stressLosses lossesEq
  · intro limited
    obtain ⟨limit, limitEq⟩ := Option.isSome_iff_exists.mp limited
    obtain ⟨tailFraction, fractionEq⟩ :=
      Option.isSome_iff_exists.mp (policy.tailTogether.1.mp limited)
    rw [tailOf, limitEq, fractionEq] at tailEq
    simp only [configuredTail, bind_eq_ok, comparable] at tailEq
    obtain ⟨_, _, _, _, _, _, base, baseEq, _⟩ := tailEq
    exact covers_of_baseShortfall baseEq

theorem raisesOnly_verifyLiquidationHeadroomEvidence
    (short : ShortInteger context.stateVersion) : RaisesOnly RiskError.IsArithmetic
      (verifyLiquidationHeadroomEvidence context store) := by
  unfold verifyLiquidationHeadroomEvidence
  split
  next _ evidence scope time read present _ _ =>
    apply raisesOnly_ite
    · intro _
      exact raisesOnly_ok
    · intro _
      apply raisesOnly_ite
      · intro _
        exact raisesOnly_ok
      · intro _
        cases read evidence.artifactId with
        | none => exact raisesOnly_ok
        | some artifact =>
            apply raisesOnly_ite
            · intro _
              exact raisesOnly_ok
            · intro _
              rw [← (context.evidenceScoped evidence present).2.2.1] at short
              obtain ⟨text, written⟩ := exists_jsonText
                (writable_liquidationEvidencePayload.mpr short)
              change RaisesOnly _ (jsonText (liquidationEvidencePayload evidence) >>= _)
              rw [written, ok_bind]
              exact raisesOnly_pure
  next => exact raisesOnly_ok

theorem raisesOnly_riskRules {projection : Projection} {assessment : Assessment}
    (observed : ShortInteger context.stateVersion)
    (limit : ShortInteger intent.expectedStateVersion) : RaisesOnly RiskError.IsArithmetic
      (riskRules intent context policy store projection assessment) := by
  apply raisesOnly_derivativeRule.then
  intro derivative
  apply (raisesOnly_stateVersionRule observed limit).then
  intro version
  apply raisesOnly_projectedAbsPosition.then
  intro position
  apply (raisesOnly_fractionLeDecimal.then fun _ => raisesOnly_pure).then
  intro gross
  apply (raisesOnly_fractionLeDecimal.then fun _ => raisesOnly_pure).then
  intro net
  apply (raisesOnly_optionalComparison fun _ => raisesOnly_fractionRule).then
  intro asset
  apply (raisesOnly_optionalComparison fun _ => raisesOnly_fractionRule).then
  intro venue
  apply (raisesOnly_optionalComparison fun _ => raisesOnly_fractionRule).then
  intro participation
  apply raisesOnly_envelope.then
  intro negatedPnl
  apply raisesOnly_tailRules.then
  intro tail
  apply (raisesOnly_optionalComparison fun _ =>
    (raisesOnly_verifyLiquidationHeadroomEvidence observed).then fun _ => raisesOnly_pure).then
  intro liquidation
  apply raisesOnly_reduceOnlyRule.then
  intro reduceOnly
  exact raisesOnly_pure

theorem short_of_riskRules {projection : Projection} {assessment : Assessment}
    {rules : List RiskRuleResult}
    (success : riskRules intent context policy store projection assessment = .ok rules) :
    ShortInteger context.stateVersion ∧ ShortInteger intent.expectedStateVersion := by
  simp only [riskRules, stateVersionRule, integerText, bind_eq_ok] at success
  obtain ⟨_, _, version, ⟨observed, observedEq, limit, limitEq, _⟩, _⟩ := success
  constructor
  · by_contra long
    rw [if_neg long] at observedEq
    cases observedEq
  · by_contra long
    rw [if_neg long] at limitEq
    cases limitEq

theorem raisesOnly_riskInputFingerprint (observed : ShortInteger context.stateVersion)
    (limit : ShortInteger intent.expectedStateVersion) :
    RaisesOnly RiskError.IsArithmetic (riskInputFingerprint intent context policy) := by
  have writable : (inputPayload intent context policy).Writable = true :=
    writable_inputPayload.mpr ⟨limit, observed⟩
  obtain ⟨text, written⟩ := exists_jsonText writable
  rw [riskInputFingerprint, written, ok_bind]
  exact raisesOnly_pure

end AutoTrade.Risk
