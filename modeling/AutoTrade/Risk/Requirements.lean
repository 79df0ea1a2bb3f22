import AutoTrade.Numeric.Exactness
import AutoTrade.Risk.Payload
import AutoTrade.Risk.Scenarios

/-!
# Reservation requirements

The requirements that a bound decision carries: a mapping is normalized and sorted, a
tuple has to be what that gives.
-/

namespace AutoTrade.Risk

open Lib Numeric

/-- `sorted(items)`, whose keys are distinct. -/
def sortItems (items : List (String × Decimal)) : List (String × Decimal) :=
  items.insertionSort fun left right => left.1 ≤ right.1

/-- The parser of a reservation requirement. -/
def requirement (value : DecimalInput) (resource : String) : Except RiskError Decimal :=
  positive value s!"reservation_requirements[{resource}]"

/-- `normalize_reservation_requirements`. -/
def normalizeReservationRequirements (values : Dict String DecimalInput) :
    Except RiskError (List (String × Decimal)) := do
  let normalized ← normalizeMapping values "reservation_requirements" requirement
  if normalized.entries = [] then
    throw (.valueError "reservation_requirements must not be empty")
  return sortItems normalized.entries

/-- `==` of a decimal and an object. -/
def equalsGiven (value : Decimal) : DecimalInput → Bool
  | .decimal tuple => value.toRat = tuple.toRat
  | .bounded other => value = other
  | .int other => value.toRat = other
  | .nonFinite | .text _ | .inexact => false

/-- `==` of two tuples of items. -/
def equalItems : List (String × Decimal) → List (String × DecimalInput) → Bool
  | [], [] => true
  | entry :: entries, item :: items =>
      entry.1 = item.1 && equalsGiven entry.2 item.2 && equalItems entries items
  | _, _ => false

/-- The canonical tuple that `reservation_requirements_payload` accepts. -/
def canonicalRequirements (values : List (String × DecimalInput)) :
    Except RiskError (List (String × Decimal)) := do
  if values = [] then
    throw (.typeError "reservation requirements must be a non-empty canonical tuple")
  let items ← normalizeItems values "reservation_requirements" requirement
  if equalItems (sortItems items.entries) values = false then
    throw (.valueError "reservation requirements tuple is not canonical")
  return sortItems items.entries

/-- The arguments that `reservation_requirements_payload` distinguishes. -/
inductive Requirements where
  | mapping (values : Dict String DecimalInput)
  | tuple (values : List (String × DecimalInput))

/-- The texts of normalized requirements. -/
def requirementTexts (normalized : List (String × Decimal)) : Payload :=
  .obj (normalized.map fun item => (item.1, decimalPayload item.2))

/-- `reservation_requirements_payload`. -/
def reservationRequirementsPayload (values : Requirements) : Except RiskError Payload := do
  let normalized ← match values with
    | .mapping values => normalizeReservationRequirements values
    | .tuple values => canonicalRequirements values
  return requirementTexts normalized

/-! ## What the normalization of items returns -/

/-- An item that is normalized to an entry. -/
def ItemOf (name : String) (parser : DecimalInput → String → Except RiskError Decimal)
    (item : String × DecimalInput) (entry : String × Decimal) : Prop :=
  identityKey item.1 name = .ok entry.1 ∧ parser item.2 entry.1 = .ok entry.2

theorem identityKey_eq_ok {value name key : String} :
    identityKey value name = .ok key ↔ strip value ≠ "" ∧ strip value = key := by
  rw [identityKey, throw_unless_eq_ok, pure_eq_ok]

/-- Items are normalized one by one to entries of distinct keys. -/
theorem normalizeItems_eq_ok {items : List (String × DecimalInput)} {name : String}
    {parser : DecimalInput → String → Except RiskError Decimal} {dict : Dict String Decimal} :
    normalizeItems items name parser = .ok dict ↔
      List.Forall₂ (ItemOf name parser) items dict.entries := by
  suffices general : ∀ start : Dict String Decimal,
      items.foldlM (normalizeItem name parser) start = .ok dict ↔
        ∃ entries, List.Forall₂ (ItemOf name parser) items entries ∧
          dict.entries = start.entries ++ entries by
    rw [normalizeItems, general]
    constructor
    · rintro ⟨entries, each, same⟩
      rw [same]
      exact each
    · intro each
      exact ⟨dict.entries, each, rfl⟩
  induction items with
  | nil =>
      intro start
      rw [List.foldlM_nil, pure_eq_ok]
      constructor
      · intro same
        exact ⟨[], .nil, by rw [same, List.append_nil]⟩
      · rintro ⟨entries, each, same⟩
        cases each
        rw [List.append_nil] at same
        exact Dict.ext_entries same.symm
  | cons item rest ih =>
      intro start
      simp only [List.foldlM_cons, normalizeItem, bind_eq_ok, ih, throw_unless_eq_ok, pure_eq_ok]
      constructor
      · rintro ⟨next, ⟨key, keyed, fresh, value, parsed, stepped⟩, entries, each, same⟩
        refine ⟨(key, value) :: entries, .cons ⟨keyed, parsed⟩ each, ?_⟩
        rw [same, ← stepped, Dict.entries_set_of_get?_eq_none (Dict.get?_eq_none.mpr fresh),
          List.append_assoc]
        rfl
      · rintro ⟨entries, each, same⟩
        cases each with
        | cons first others =>
            rename_i entry entries
            have distinct := dict.nodup
            rw [same, List.map_append, List.map_cons] at distinct
            have fresh : entry.1 ∉ start.keys := fun present =>
              (List.nodup_append.mp distinct).2.2 _ present _ List.mem_cons_self rfl
            refine ⟨start.set entry.1 entry.2, ⟨entry.1, first.1, fresh, entry.2, first.2, rfl⟩,
              entries, others, ?_⟩
            rw [same, Dict.entries_set_of_get?_eq_none (Dict.get?_eq_none.mpr fresh),
              List.append_assoc]
            rfl

/-! ## Canonical tuples -/

/-- What `normalize_reservation_requirements` returns. -/
structure CanonicalItems (items : List (String × Decimal)) : Prop where
  present : items ≠ []
  sorted : items.Pairwise fun left right => left.1 < right.1
  normal : ∀ item ∈ items, Normal item.1
  positive : ∀ item ∈ items, 0 < item.2

/-- The value of a `Decimal` within the envelope. -/
def exactDecimal? : DecimalInput → Option Decimal
  | .decimal tuple => (admitTuple tuple).toOption
  | .bounded value => some value
  | _ => none

/-- The value of a number within the envelope. -/
def number? : DecimalInput → Option Decimal
  | .int value => (parseBoundedExactDecimal (.int value) true).toOption
  | value => exactDecimal? value

theorem requirement_eq_ok {value : DecimalInput} {resource : String} {amount : Decimal} :
    requirement value resource = .ok amount ↔
      parseBoundedExactDecimal value true = .ok amount ∧ 0 < amount := by
  simp only [requirement, Risk.positive, decimal, bind_eq_ok, throw_unless_eq_ok, pure_eq_ok,
    guard_eq_ok, mapError_eq_ok]
  constructor
  · rintro ⟨result, ⟨_, parsed⟩, above, same⟩
    rw [← same]
    exact ⟨parsed, Decimal.lt_def.mpr (not_le.mp (mt Decimal.le_def.mpr above))⟩
  · rintro ⟨parsed, above⟩
    refine ⟨amount, ⟨?_, parsed⟩, fun below => not_lt.mpr (Decimal.le_def.mp below) above, rfl⟩
    intro inexact
    rw [inexact] at parsed
    cases parsed

/-- The value of an admitted integer. -/
theorem toRat_of_parse_int {value : Int} {amount : Decimal}
    (parsed : parseBoundedExactDecimal (.int value) true = .ok amount) :
    amount.toRat = value := by
  simp only [parseBoundedExactDecimal] at parsed
  split at parsed
  next zero =>
    rw [zero, ← Except.ok.inj parsed]
    exact Int.cast_zero.symm
  split at parsed
  next => cases parsed
  next =>
    have signed : (⟨value < 0, value.natAbs, 0⟩ : DecimalTuple).signedCoefficient = value := by
      rw [DecimalTuple.signedCoefficient]
      split
      next negative =>
        have below : value < 0 := of_decide_eq_true negative
        simp only [Int.ofNat_natAbs_of_nonpos below.le, neg_neg]
      next positive =>
        have above : 0 ≤ value := not_lt.mp (mt decide_eq_true positive)
        exact Int.natAbs_of_nonneg above
    rw [admitTuple_toRat parsed, DecimalTuple.toRat, signed, zpow_zero, mul_one]

/-- A number is read as its value. -/
theorem parse_of_number? {value : DecimalInput} {amount : Decimal}
    (number : number? value = some amount) :
    parseBoundedExactDecimal value true = .ok amount := by
  have inverted : ∀ {computation : Except ExactDecimalError Decimal},
      computation.toOption = some amount → computation = .ok amount := by
    intro computation returned
    cases computation with
    | error error => cases returned
    | ok result => rw [Option.some.inj returned]
  cases value with
  | decimal tuple => exact inverted number
  | bounded value => rw [parseBoundedExactDecimal, Option.some.inj number]
  | int value => exact inverted number
  | nonFinite => cases number
  | text value => cases number
  | inexact => cases number

/-- A value that was read equals what it was read from exactly when that is a number. -/
theorem equalsGiven_iff {value : DecimalInput} {amount : Decimal}
    (parsed : parseBoundedExactDecimal value true = .ok amount) :
    equalsGiven amount value = true ↔ number? value = some amount := by
  cases value with
  | decimal tuple =>
      have admitted : admitTuple tuple = .ok amount := parsed
      simp [equalsGiven, number?, exactDecimal?, admitted, admitTuple_toRat admitted,
        Except.toOption]
  | bounded value =>
      rw [Except.ok.inj parsed]
      simp [equalsGiven, number?, exactDecimal?]
  | int value => simp [equalsGiven, number?, parsed, toRat_of_parse_int parsed, Except.toOption]
  | nonFinite => cases parsed
  | text value => simp [equalsGiven, number?, exactDecimal?]
  | inexact => cases parsed

theorem equalItems_iff {entries : List (String × Decimal)}
    {items : List (String × DecimalInput)} : equalItems entries items = true ↔
      List.Forall₂ (fun entry item => entry.1 = item.1 ∧ equalsGiven entry.2 item.2 = true)
        entries items := by
  induction entries generalizing items with
  | nil => cases items <;> simp [equalItems]
  | cons entry entries ih => cases items <;> simp [equalItems, ih]

theorem sortItems_eq_self {items : List (String × Decimal)}
    (sorted : items.Pairwise fun left right => left.1 ≤ right.1) : sortItems items = items :=
  sorted.insertionSort_eq

theorem keys_sortItems (items : List (String × Decimal)) :
    ((sortItems items).map Prod.fst).Pairwise (· ≤ ·) := by
  have : Std.Total fun first second : String × Decimal => first.1 ≤ second.1 :=
    ⟨fun first second => le_total first.1 second.1⟩
  have : IsTrans (String × Decimal) fun first second => first.1 ≤ second.1 :=
    ⟨fun _ _ _ => le_trans⟩
  exact List.pairwise_map.mpr (List.pairwise_insertionSort _ items)

/-- The items that present the values of entries. -/
theorem numbers_eq_iff {values : List (String × DecimalInput)}
    {items : List (String × Decimal)} :
    (values.map fun value => (value.1, number? value.2)) =
        items.map (fun item => (item.1, some item.2)) ↔
      List.Forall₂ (fun value item => value.1 = item.1 ∧ number? value.2 = some item.2)
        values items := by
  rw [← List.forall₂_eq_eq_eq, List.forall₂_map_left_iff, List.forall₂_map_right_iff]
  simp only [Prod.mk.injEq]

/-- A tuple is accepted exactly when it presents canonical items. -/
theorem canonicalRequirements_eq_ok {values : List (String × DecimalInput)}
    {items : List (String × Decimal)} : canonicalRequirements values = .ok items ↔
      CanonicalItems items ∧ (values.map fun value => (value.1, number? value.2)) =
        items.map fun item => (item.1, some item.2) := by
  simp only [canonicalRequirements, throw_unless_eq_ok, bind_eq_ok, pure_eq_ok,
    normalizeItems_eq_ok, numbers_eq_iff, Bool.not_eq_false, equalItems_iff]
  constructor
  · rintro ⟨present, dict, each, equal, sorted⟩
    rw [sorted] at equal
    have perm : items.Perm dict.entries := sorted ▸ List.perm_insertionSort _ dict.entries
    have stripped : ∀ entry ∈ dict.entries, Normal entry.1 := by
      intro entry listed
      obtain ⟨value, _, normalized⟩ := exists_of_mem_forall₂ each listed
      have keyed := identityKey_eq_ok.mp normalized.1
      rw [← keyed.2]
      exact normal_strip keyed.1
    have normal : ∀ item ∈ items, Normal item.1 := fun item listed =>
      stripped item (perm.mem_iff.mp listed)
    -- The keys of the tuple are stripped, so they come back in their order.
    have matched := (List.forall₂_and_left _ _).mpr ⟨normal, equal⟩
    have keys : dict.entries.map Prod.fst = items.map Prod.fst := by
      rw [← List.forall₂_eq_eq_eq, List.forall₂_map_left_iff, List.forall₂_map_right_iff]
      apply (forall₂_join each.flip matched).imp
      rintro entry item ⟨value, normalized, equals⟩
      rw [← (identityKey_eq_ok.mp normalized.1).2, ← equals.2.1]
      exact equals.1.1
    have ordered := keys_sortItems dict.entries
    rw [sorted, ← keys] at ordered
    have same := sortItems_eq_self (List.pairwise_map.mp ordered)
    rw [sorted] at same
    subst same
    constructor
    · constructor
      · intro empty
        rw [empty, List.forall₂_nil_left_iff] at equal
        exact present equal
      · exact List.pairwise_map.mp (ordered.sortedLE.sortedLT_of_nodup dict.nodup).pairwise
      · exact normal
      · intro item listed
        obtain ⟨value, _, normalized⟩ := exists_of_mem_forall₂ each listed
        exact (requirement_eq_ok.mp normalized.2).2
    · apply List.Forall₂.mp _ each equal.flip
      intro value item normalized equals
      have parsed := (requirement_eq_ok.mp normalized.2).1
      exact ⟨equals.1.symm, (equalsGiven_iff parsed).mp equals.2⟩
  · rintro ⟨canonical, each⟩
    have distinct : (items.map Prod.fst).Nodup :=
      List.pairwise_map.mpr (canonical.sorted.imp ne_of_lt)
    have sorted := sortItems_eq_self (canonical.sorted.imp le_of_lt)
    have checked := (List.forall₂_and_left _ _).mpr
      ⟨fun item listed => And.intro (canonical.normal item listed) (canonical.positive item listed),
        each.flip⟩
    refine ⟨?_, ⟨items, distinct⟩, ?_, ?_, sorted⟩
    · intro empty
      rw [empty, List.forall₂_nil_left_iff] at each
      exact canonical.present each
    · apply checked.flip.imp
      intro value item presented
      constructor
      · rw [identityKey_eq_ok, presented.2.1, presented.1.1.1]
        exact ⟨presented.1.1.2, rfl⟩
      · exact requirement_eq_ok.mpr ⟨parse_of_number? presented.2.2, presented.1.2⟩
    · rw [sorted]
      apply each.flip.imp
      intro item value presented
      exact ⟨presented.1.symm, (equalsGiven_iff (parse_of_number? presented.2)).mpr presented.2⟩

end AutoTrade.Risk
