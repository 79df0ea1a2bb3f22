import AutoTrade.Instruments.Registry
import AutoTrade.Lib.Calendar
import AutoTrade.Lib.Json
import AutoTrade.Numeric.Amount
import AutoTrade.Settlement.Book

/-!
# Buying-power evidence

The model of `settlement.BuyingPowerEvidence`: a provider's observation of margin credit, the
flat detail it is stored as, and the reader that rebuilds the observation from the detail.
-/

namespace AutoTrade.Settlement

open Lib Numeric
open Instruments (Datetime datetimeMin datetimeMax)

/-- The exceptions of the codec. -/
inductive EvidenceError where
  | settlement (error : SettlementError)
  /-- `astimezone` at the ends of the calendar. -/
  | overflowError (message : String)
  deriving DecidableEq, Repr

namespace EvidenceError

/-- `ValueError`. -/
def value (message : String) : EvidenceError := settlement (.valueError message)

/-- `TypeError`. -/
def type (message : String) : EvidenceError := settlement (.typeError message)

end EvidenceError

/-- A check of the settlement module inside the codec. -/
def checked {α : Type} (result : Except SettlementError α) : Except EvidenceError α :=
  result.mapError EvidenceError.settlement

theorem checked_eq_ok {α : Type} {result : Except SettlementError α} {value : α} :
    checked result = .ok value ↔ result = .ok value := mapError_eq_ok

theorem text_of_normal {value : String} (normal : Normal value) (name : String) :
    text value name = .ok value := by
  rw [text, normal.1, if_neg normal.2]

theorem text_eq_ok {value name result : String} :
    text value name = .ok result ↔ strip value ≠ "" ∧ strip value = result := by
  rw [text]
  split <;> simp_all

/-! ## Time -/

/-- A `datetime` with a fixed offset of `timezone`. -/
structure AwareDatetime where
  wall : Datetime
  /-- `utcoffset()` in microseconds. -/
  offset : Int
  offsetInDay : -86400000000 < offset ∧ offset < 86400000000
  deriving DecidableEq

/-- A `datetime` whose timezone is UTC. -/
def AwareDatetime.utc (moment : Datetime) : AwareDatetime := ⟨moment, 0, by decide⟩

/-- `_utc`. -/
def utc (value : AwareDatetime) : Except EvidenceError Datetime :=
  if inside : datetimeMin ≤ (⟨value.wall.val.microseconds - value.offset⟩ : Instant) ∧
      (⟨value.wall.val.microseconds - value.offset⟩ : Instant) ≤ datetimeMax then
    .ok ⟨⟨value.wall.val.microseconds - value.offset⟩, inside⟩
  else .error (.overflowError "date value out of range")

theorem utc_utc (moment : Datetime) : utc (.utc moment) = .ok moment := by
  have same : (⟨moment.val.microseconds - 0⟩ : Instant) = moment.val := by
    rw [Int.sub_zero]
  have inside : datetimeMin ≤ (⟨moment.val.microseconds - 0⟩ : Instant) ∧
      (⟨moment.val.microseconds - 0⟩ : Instant) ≤ datetimeMax := by
    rw [same]
    exact moment.property
  rw [utc]
  refine (dif_pos inside).trans (congrArg Except.ok ?_)
  exact Subtype.ext same

/-- What `datetime.fromisoformat` and `astimezone(timezone.utc)` make of a text. -/
inductive ParsedTime where
  | malformed
  | naive
  | outOfRange
  | utc (moment : Datetime)
  deriving DecidableEq

/-- `datetime.fromisoformat` on a text with `+00:00` for `Z`, and `astimezone`; the text of
`isoformat` is read back. -/
class IsoReader where
  parse : String → ParsedTime
  parse_utcText : ∀ moment : Datetime, parse moment.val.utcText = .utc moment

theorem Datetime.date_bounds (moment : Datetime) :
    -719162 ≤ moment.val.date ∧ moment.val.date ≤ 2932896 := by
  obtain ⟨⟨microseconds⟩, lower, upper⟩ := moment
  have lower' : (-62135596800000000 : Int) ≤ microseconds := lower
  have upper' : microseconds ≤ (253402300799999999 : Int) := upper
  change -719162 ≤ microseconds / 86400000000 ∧ microseconds / 86400000000 ≤ 2932896
  omega

/-- The reader of the texts that `isoformat` writes in UTC. -/
@[reducible] def IsoReader.utcOnly : IsoReader where
  parse text :=
    match Instant.readUtc text with
    | none => .malformed
    | some instant =>
        if inside : datetimeMin ≤ instant ∧ instant ≤ datetimeMax then .utc ⟨instant, inside⟩
        else .outOfRange
  parse_utcText := by
    intro moment
    have bounds := Datetime.date_bounds moment
    rw [Instant.readUtc_utcText bounds.1 bounds.2]
    exact dif_pos moment.property

/-! ## The account -/

namespace SettlementAccountScope

/-- The checks of `__post_init__` on the provider environment. -/
def checkProviderEnvironment (provider environment providerEnvironment : String)
    (explicit : Bool) : Except SettlementError Unit :=
  if provider = "BYBIT" then
    if explicit = false then
      .error (.valueError "BYBIT settlement scope requires explicit provider_environment")
    else if providerEnvironment ∉ ["MAINNET", "TESTNET", "DEMO"] then
      .error (.valueError "BYBIT provider_environment must be MAINNET, TESTNET or DEMO")
    else if environment = "LIVE" ∧ providerEnvironment ≠ "MAINNET" ∨
        environment = "PAPER" ∧ providerEnvironment ∉ ["TESTNET", "DEMO"] then
      .error (.valueError "BYBIT provider_environment does not match runtime environment")
    else .ok ()
  else if providerEnvironment ≠ environment then
    .error (.valueError ("provider_environment must equal runtime environment until an exact " ++
      "provider-domain policy is qualified"))
  else .ok ()

/-- What is accepted with an inferred provider environment is accepted when it is given. -/
theorem checkProviderEnvironment_explicit {provider environment providerEnvironment : String}
    {explicit : Bool}
    (accepted : checkProviderEnvironment provider environment providerEnvironment explicit =
      .ok ()) :
    checkProviderEnvironment provider environment providerEnvironment true = .ok () := by
  cases explicit with
  | true => exact accepted
  | false =>
      rw [checkProviderEnvironment] at accepted ⊢
      split at accepted
      next => cases accepted
      next other =>
        rw [if_neg other]
        exact accepted

variable [CaseMap]

/-- `SettlementAccountScope(...)`. -/
def create (providerId accountId environmentText : String)
    (providerEnvironmentText : Option String) :
    Except SettlementError SettlementAccountScope := do
  let provider ← upper <$> text providerId "provider_id"
  let account ← text accountId "account_id"
  let environment ← upper <$> text environmentText "environment"
  if environment ∉ ["REPLAY", "SIMULATION", "PAPER", "LIVE"] then
    throw (.valueError "unsupported environment")
  let providerEnvironment ← (match providerEnvironmentText with
    | none => pure environment
    | some domain => upper <$> text domain "provider_environment")
  checkProviderEnvironment provider environment providerEnvironment providerEnvironmentText.isSome
  pure ⟨provider, account, environment, providerEnvironment⟩

/-- What `__post_init__` leaves: a value that is rebuilt from its own fields. -/
def Accepted (scope : SettlementAccountScope) : Prop :=
  create scope.providerId scope.accountId scope.environment (some scope.providerEnvironment) =
    .ok scope

instance (scope : SettlementAccountScope) : Decidable scope.Accepted :=
  inferInstanceAs (Decidable (_ = _))

/-- The fields of an account that the constructor returned. -/
structure Normalized (scope : SettlementAccountScope) : Prop where
  provider : Normal scope.providerId
  account : Normal scope.accountId
  environment : Normal scope.environment
  providerEnvironment : Normal scope.providerEnvironment

/-- An upper-case text that came out of a case mapping. -/
def Upper (value : String) : Prop := Normal value ∧ upper value = value

theorem upper_strip_upper {value : String} (present : strip value ≠ "") :
    Upper (upper (strip value)) :=
  ⟨normal_upper (normal_strip present), CaseMap.upper_upper _⟩

theorem upper_text_eq_ok {value name result : String} :
    upper <$> text value name = .ok result ↔ strip value ≠ "" ∧ upper (strip value) = result := by
  simp only [map_eq_ok, text_eq_ok]
  constructor
  · rintro ⟨stripped, ⟨present, rfl⟩, rfl⟩
    exact ⟨present, rfl⟩
  · rintro ⟨present, rfl⟩
    exact ⟨_, ⟨present, rfl⟩, rfl⟩

theorem upper_text_of_upper {value : String} (upperCase : Upper value) (name : String) :
    upper <$> text value name = .ok value := by
  rw [upper_text_eq_ok, upperCase.1.1]
  exact ⟨upperCase.1.2, upperCase.2⟩

/-- The constructor accepts its own result. -/
theorem create_accepted {providerId accountId environmentText : String}
    {providerEnvironmentText : Option String} {scope : SettlementAccountScope}
    (created : create providerId accountId environmentText providerEnvironmentText = .ok scope) :
    scope.Accepted ∧ scope.Normalized := by
  simp only [create, bind_eq_ok, throw_unless_eq_ok, upper_text_eq_ok, text_eq_ok,
    pure_eq_ok] at created
  obtain ⟨provider, ⟨providerPresent, rfl⟩, account, ⟨accountPresent, rfl⟩, environment,
    ⟨environmentPresent, rfl⟩, supported, domain, named, ⟨⟩, checked, rfl⟩ := created
  have environmentUpper := upper_strip_upper environmentPresent
  have domainUpper : Upper domain := by
    cases providerEnvironmentText with
    | none =>
        rw [pure_eq_ok] at named
        rw [← named]
        exact environmentUpper
    | some given =>
        obtain ⟨present, rfl⟩ := upper_text_eq_ok.mp named
        exact upper_strip_upper present
  constructor
  · rw [Accepted, create, upper_text_of_upper (upper_strip_upper providerPresent), ok_bind,
      text_of_normal (normal_strip accountPresent), ok_bind,
      upper_text_of_upper environmentUpper, ok_bind]
    simp only [throw_unless_eq_ok, upper_text_of_upper domainUpper, ok_bind, Option.isSome_some,
      checkProviderEnvironment_explicit checked, pure_eq_ok, and_true]
    exact supported
  · exact ⟨(upper_strip_upper providerPresent).1, normal_strip accountPresent,
      environmentUpper.1, domainUpper.1⟩

theorem Accepted.normalized {scope : SettlementAccountScope} (accepted : scope.Accepted) :
    scope.Normalized := (create_accepted accepted).2

end SettlementAccountScope

/-! ## Texts with what they satisfy -/

namespace BuyingPowerEvidence

/-- `_text`, with what it leaves. -/
def namedText (value name : String) : Except EvidenceError { text : String // Normal text } :=
  if missing : strip value = "" then .error (.value s!"{name} is required")
  else .ok ⟨strip value, normal_strip missing⟩

theorem namedText_of_normal {value : String} (normal : Normal value) (name : String) :
    namedText value name = .ok ⟨value, normal⟩ := by
  have present : strip value ≠ "" := by
    rw [normal.1]
    exact normal.2
  rw [namedText, dif_neg present]
  exact congrArg Except.ok (Subtype.ext normal.1)

/-- The references of `__post_init__`. -/
def referenceTexts : (values : List String) →
    Except EvidenceError { texts : List String //
      (∀ text ∈ texts, Normal text) ∧ (values ≠ [] → texts ≠ []) }
  | [] => .ok ⟨[], by simp⟩
  | value :: rest => do
      let first ← namedText value "evidence_ref"
      let others ← referenceTexts rest
      pure ⟨first.1 :: others.1, List.forall_mem_cons.mpr ⟨first.2, others.2.1⟩,
        fun _ => List.cons_ne_nil _ _⟩

theorem referenceTexts_of_normal {values : List String}
    (normal : ∀ value ∈ values, Normal value) :
    referenceTexts values = .ok ⟨values, normal, id⟩ := by
  induction values with
  | nil => rfl
  | cons value rest ih =>
      rw [List.forall_mem_cons] at normal
      rw [referenceTexts, namedText_of_normal normal.1, ok_bind, ih normal.2]
      rfl

end BuyingPowerEvidence

/-! ## The fields of a detail -/

namespace BuyingPowerEvidence

/-- The field of a reference. -/
def referenceField (index : Nat) : String := "evidence_ref_" ++ Nat.repr index

/-- The numbered fields of the references. -/
def referenceItems (refs : List String) : List (String × Json Unit) :=
  refs.zipIdx.map fun item => (referenceField item.2, .str item.1)

/-- `fixed`. -/
def fixedFields : List String := [
  "schema_version", "resource_type", "credit_semantics", "evidence_id", "provider_id",
  "account_id", "environment", "provider_environment", "currency", "additional_credit",
  "observed_at", "valid_until", "evidence_ref_count"]

/-- The number of references that a detail declares. -/
def referenceCount (declared : Option (Json Unit)) : Except EvidenceError Nat :=
  match declared with
  | some (.str raw) =>
      if raw.toList ≠ [] ∧ raw.toList.all Char.isDigit then
        let count := Nat.ofDigitChars 10 raw.toList 0
        if count < 1 ∨ 64 < count ∨ raw ≠ Nat.repr count then
          .error (.value "margin-credit evidence_ref_count is invalid")
        else .ok count
      else .error (.value "margin-credit evidence_ref_count is invalid")
  | _ => .error (.value "margin-credit evidence_ref_count is invalid")

/-- `exact_text`. -/
def exactText (detail : Dict String (Json Unit)) (field : String) :
    Except EvidenceError String :=
  match detail.get? field with
  | some (.str value) =>
      if strip value = "" then .error (.type s!"margin-credit {field} must be exact text")
      else .ok (strip value)
  | _ => .error (.type s!"margin-credit {field} must be exact text")

/-- `exact_instant`. -/
def exactInstant [IsoReader] (detail : Dict String (Json Unit)) (field : String) :
    Except EvidenceError Datetime := do
  let text ← exactText detail field
  match IsoReader.parse text with
  | .malformed => .error (.value s!"margin-credit {field} must be an ISO timestamp")
  | .naive => .error (.value s!"margin-credit {field} must include a timezone")
  | .outOfRange => .error (.overflowError "date value out of range")
  | .utc moment => pure moment

theorem keys_referenceItems (refs : List String) :
    (referenceItems refs).map Prod.fst = (List.range refs.length).map referenceField := by
  rw [referenceItems, List.map_map, List.range_eq_range', ← List.zipIdx_map_snd, List.map_map]
  rfl

theorem toList_referenceField (index : Nat) :
    (referenceField index).toList = "evidence_ref_".toList ++ Nat.toDigits 10 index := by
  rw [referenceField, String.toList_append]
  exact congrArg _ String.toList_ofList

theorem referenceField_injective : Function.Injective referenceField := by
  intro left right same
  have texts := congrArg String.toList same
  rw [toList_referenceField, toList_referenceField, List.append_cancel_left_eq] at texts
  have numbers := congrArg (fun digits => Nat.ofDigitChars 10 digits 0) texts
  simpa only [Nat.ofDigitChars_ten_toDigits] using numbers

/-- A numbered field is none of the fixed fields. -/
theorem referenceField_notMem (index : Nat) : referenceField index ∉ fixedFields := by
  intro member
  have others : fixedFields.all (fun field => field.toList.take 13 ≠ "evidence_ref_".toList ||
      !(field.toList.drop 13).all Char.isDigit) = true := by decide +kernel
  have other := List.all_eq_true.mp others _ member
  have digits : (Nat.toDigits 10 index).all Char.isDigit = true := by
    rw [List.all_eq_true]
    intro digit member
    exact Nat.isDigit_of_mem_toDigits (by decide) (by decide) member
  rw [toList_referenceField, List.take_left' (by decide), List.drop_left' (by decide),
    digits] at other
  simp at other

/-! ## Reading a field back -/

theorem exactText_of_mem {detail : Dict String (Json Unit)} {field value : String}
    (member : (field, Json.str value) ∈ detail.entries) (normal : Normal value) :
    exactText detail field = .ok value := by
  have found := Dict.mem_entries.mp member
  rw [exactText, found]
  dsimp only
  rw [normal.1, if_neg normal.2]

theorem exactInstant_of_mem [IsoReader] {detail : Dict String (Json Unit)} {field : String}
    {moment : Datetime} (member : (field, Json.str moment.val.utcText) ∈ detail.entries) :
    exactInstant detail field = .ok moment := by
  rw [exactInstant, exactText_of_mem member (Instant.normal_utcText moment.val), ok_bind,
    IsoReader.parse_utcText]
  rfl

/-- The count of a detail is read while it is at most 64. -/
theorem referenceCount_repr {count : Nat} (positive : 0 < count) :
    referenceCount (some (.str (Nat.repr count))) =
      if 64 < count then .error (.value "margin-credit evidence_ref_count is invalid")
      else .ok count := by
  have chars : (Nat.repr count).toList = Nat.toDigits 10 count := String.toList_ofList
  have digits : (Nat.toDigits 10 count).all Char.isDigit = true := by
    rw [List.all_eq_true]
    intro digit member
    exact Nat.isDigit_of_mem_toDigits (by decide) (by decide) member
  rw [referenceCount]
  dsimp only
  rw [chars, if_pos ⟨Nat.toDigits_ne_nil, digits⟩, Nat.ofDigitChars_ten_toDigits]
  by_cases large : 64 < count
  · rw [if_pos large, if_pos (Or.inr (Or.inl large))]
  · rw [if_neg large, if_neg]
    rintro (zero | above | other)
    · exact absurd zero (by omega)
    · exact large above
    · exact other rfl

/-- The references are read back in their order. -/
theorem mapM_references {detail : Dict String (Json Unit)} {refs : List String}
    (held : ∀ item ∈ referenceItems refs, item ∈ detail.entries)
    (normal : ∀ reference ∈ refs, Normal reference) :
    (List.range refs.length).mapM (fun index => exactText detail (referenceField index)) =
      .ok refs := by
  rw [mapM_eq_ok, List.forall₂_iff_get]
  refine ⟨List.length_range, ?_⟩
  intro index below within
  simp only [List.get_eq_getElem, List.getElem_range]
  apply exactText_of_mem
  · apply held
    rw [referenceItems, List.mem_map]
    exact ⟨(refs[index], index), List.mk_mem_zipIdx_iff_getElem?.mpr
      (List.getElem?_eq_getElem within), rfl⟩
  · exact normal _ (List.getElem_mem within)

end BuyingPowerEvidence

section Evidence

variable [CaseMap]

/-- An account that the constructor returned. -/
abbrev AccountScope : Type := { scope : SettlementAccountScope // scope.Accepted }

/-! ## The evidence -/

/-- `BuyingPowerEvidence` after `__post_init__`. -/
structure BuyingPowerEvidence where
  evidenceId : String
  scope : AccountScope
  currency : String
  additionalCredit : Decimal
  observedAt : Datetime
  validUntil : Datetime
  evidenceRefs : List String
  evidenceIdNormal : Normal evidenceId
  currencyUpper : SettlementAccountScope.Upper currency
  creditNonnegative : ¬ additionalCredit < 0
  ordered : observedAt < validUntil
  refsPresent : evidenceRefs ≠ []
  refsNormal : ∀ reference ∈ evidenceRefs, Normal reference
  refsUnique : evidenceRefs.Nodup

namespace BuyingPowerEvidence

/-- `_text(...).upper()`. -/
def upperText (value name : String) :
    Except EvidenceError { text : String // SettlementAccountScope.Upper text } :=
  if missing : strip value = "" then .error (.value s!"{name} is required")
  else .ok ⟨upper (strip value), SettlementAccountScope.upper_strip_upper missing⟩

/-- `BuyingPowerEvidence(...)`. -/
def create (evidenceId : String) (scope : AccountScope) (currency : String)
    (additionalCredit : DecimalInput) (observedAt validUntil : AwareDatetime)
    (evidenceRefs : List String) : Except EvidenceError BuyingPowerEvidence := do
  if given : evidenceRefs ≠ [] then
    let evidenceId ← namedText evidenceId "evidence_id"
    let currency ← upperText currency "currency"
    let credit ← checked (decimal additionalCredit "additional_credit")
    if negative : credit < 0 then throw (.value "additional_credit cannot be negative")
    else
      let observed ← utc observedAt
      let limit ← utc validUntil
      if ordered : observed < limit then
        let refs ← referenceTexts evidenceRefs
        if unique : refs.1.Nodup then
          pure {
            evidenceId := evidenceId.1
            scope := scope
            currency := currency.1
            additionalCredit := credit
            observedAt := observed
            validUntil := limit
            evidenceRefs := refs.1
            evidenceIdNormal := normal_val evidenceId
            currencyUpper := currency.2
            creditNonnegative := negative
            ordered := ordered
            refsPresent := refs.2.2 given
            refsNormal := refs.2.1
            refsUnique := unique }
        else throw (.value "evidence_refs must be unique")
      else throw (.value "valid_until must be after observed_at")
  else throw (.type "evidence_refs must be a non-empty exact-text tuple")

theorem upperText_of_upper {value : String} (upperCase : SettlementAccountScope.Upper value)
    (name : String) : upperText value name = .ok ⟨value, upperCase⟩ := by
  have present : strip value ≠ "" := by
    rw [upperCase.1.1]
    exact upperCase.1.2
  rw [upperText, dif_neg present]
  apply congrArg Except.ok
  apply Subtype.ext
  change upper (strip value) = value
  rw [upperCase.1.1, upperCase.2]

/-- The constructor rebuilds an evidence from its own fields. -/
theorem create_self (evidence : BuyingPowerEvidence) {credit : DecimalInput}
    (read : decimal credit "additional_credit" = .ok evidence.additionalCredit) :
    create evidence.evidenceId evidence.scope evidence.currency credit
      (.utc evidence.observedAt) (.utc evidence.validUntil) evidence.evidenceRefs =
      .ok evidence := by
  rw [create, dif_pos evidence.refsPresent, namedText_of_normal evidence.evidenceIdNormal, ok_bind,
    upperText_of_upper evidence.currencyUpper, ok_bind, checked_eq_ok.mpr read, ok_bind,
    dif_neg evidence.creditNonnegative, utc_utc, ok_bind, utc_utc, ok_bind,
    dif_pos evidence.ordered, referenceTexts_of_normal evidence.refsNormal, ok_bind]
  exact dif_pos evidence.refsUnique

/-! ## The detail -/

/-- The fields of `resource_detail()` without the references. -/
def fixedItems (evidence : BuyingPowerEvidence) (credit : String) : List (String × Json Unit) := [
  ("schema_version", .str "margin-buying-power-resource.v1"),
  ("resource_type", .str "MARGIN_BUYING_POWER"),
  ("credit_semantics", .str "ADDITIONAL_TO_SETTLED_CASH"),
  ("evidence_id", .str evidence.evidenceId),
  ("provider_id", .str evidence.scope.1.providerId),
  ("account_id", .str evidence.scope.1.accountId),
  ("environment", .str evidence.scope.1.environment),
  ("provider_environment", .str evidence.scope.1.providerEnvironment),
  ("currency", .str evidence.currency),
  ("additional_credit", .str credit),
  ("observed_at", .str evidence.observedAt.val.utcText),
  ("valid_until", .str evidence.validUntil.val.utcText),
  ("evidence_ref_count", .str (Nat.repr evidence.evidenceRefs.length))]

/-- `resource_detail()`. -/
def resourceDetail (evidence : BuyingPowerEvidence) :
    Except SettlementError (Dict String (Json Unit)) := do
  let credit ← evidence.additionalCredit.canonicalText.mapError fun _ =>
    .conflict "buying-power credit exceeds exact rendering authority"
  let detail : Dict String (Json Unit) := (∅ : Dict String (Json Unit)).setAll
    (evidence.fixedItems credit)
  pure (detail.setAll (referenceItems evidence.evidenceRefs))

/-- `SettlementAccountScope(...)`, with what it leaves. -/
def accountScope (providerId accountId environment : String)
    (providerEnvironment : Option String) : Except EvidenceError AccountScope :=
  match created : SettlementAccountScope.create providerId accountId environment
      providerEnvironment with
  | .ok scope => .ok ⟨scope, (SettlementAccountScope.create_accepted created).1⟩
  | .error error => .error (.settlement error)

/-- `from_resource_detail`. -/
def fromResourceDetail [IsoReader] (detail : Dict String (Json Unit)) :
    Except EvidenceError BuyingPowerEvidence := do
  if detail.get? "schema_version" ≠ some (.str "margin-buying-power-resource.v1") then
    throw (.value "margin-credit resource detail schema is unsupported")
  if detail.get? "resource_type" ≠ some (.str "MARGIN_BUYING_POWER") then
    throw (.value "margin-credit resource detail has invalid resource_type")
  if detail.get? "credit_semantics" ≠ some (.str "ADDITIONAL_TO_SETTLED_CASH") then
    throw (.value "margin-credit evidence must be additional to settled cash")
  let count ← referenceCount (detail.get? "evidence_ref_count")
  let expected := fixedFields ++ (List.range count).map referenceField
  if ¬ ((∀ field ∈ detail.keys, field ∈ expected) ∧ ∀ field ∈ expected, field ∈ detail.keys) then
    throw (.value "margin-credit resource detail fields are invalid")
  let providerId ← exactText detail "provider_id"
  let accountId ← exactText detail "account_id"
  let environment ← exactText detail "environment"
  let providerEnvironment ← exactText detail "provider_environment"
  let scope ← accountScope providerId accountId environment (some providerEnvironment)
  let evidenceId ← exactText detail "evidence_id"
  let currency ← exactText detail "currency"
  let credit ← exactText detail "additional_credit"
  let observedAt ← exactInstant detail "observed_at"
  let validUntil ← exactInstant detail "valid_until"
  let refs ← (List.range count).mapM fun index => exactText detail (referenceField index)
  create evidenceId scope currency (.text credit) (.utc observedAt) (.utc validUntil) refs

theorem keys_fixedItems (evidence : BuyingPowerEvidence) (credit : String) :
    (evidence.fixedItems credit).map Prod.fst = fixedFields := rfl

/-- What a detail holds. -/
theorem exists_detail (evidence : BuyingPowerEvidence) :
    ∃ credit detail, evidence.additionalCredit.canonicalText = .ok credit ∧
      evidence.resourceDetail = .ok detail ∧
        detail.entries = evidence.fixedItems credit ++ referenceItems evidence.evidenceRefs := by
  obtain ⟨credit, written, -⟩ := evidence.additionalCredit.exists_canonicalText
  have distinct : ((evidence.fixedItems credit).map Prod.fst).Nodup := by
    rw [keys_fixedItems]
    decide
  have fixedEntries := Dict.entries_setAll_empty distinct
  refine ⟨credit, ((∅ : Dict String (Json Unit)).setAll (evidence.fixedItems credit)).setAll
    (referenceItems evidence.evidenceRefs), written, ?_, ?_⟩
  · rw [resourceDetail, written]
    rfl
  · rw [Dict.entries_setAll, fixedEntries]
    · rw [keys_referenceItems]
      exact List.nodup_range.map referenceField_injective
    · intro item member
      rw [Dict.get?_eq_none, Dict.keys, fixedEntries, keys_fixedItems]
      have named := List.mem_map_of_mem (f := Prod.fst) member
      rw [keys_referenceItems] at named
      obtain ⟨index, -, same⟩ := List.mem_map.mp named
      rw [← same]
      exact referenceField_notMem index

/-! ## Reading a detail back -/

theorem accountScope_self (scope : AccountScope) :
    accountScope scope.1.providerId scope.1.accountId scope.1.environment
      (some scope.1.providerEnvironment) = .ok scope := by
  rw [accountScope]
  split
  next found created =>
    have same := scope.2.symm.trans created
    exact congrArg Except.ok (Subtype.ext (Except.ok.inj same).symm)
  next error raised =>
    have same := scope.2.symm.trans raised
    cases same

/-- What the reader makes of the detail of an evidence. -/
theorem fromResourceDetail_eq [IsoReader] {evidence : BuyingPowerEvidence}
    {detail : Dict String (Json Unit)} (shown : evidence.resourceDetail = .ok detail) :
    fromResourceDetail detail =
      if 64 < evidence.evidenceRefs.length then
        .error (.value "margin-credit evidence_ref_count is invalid")
      else .ok evidence := by
  obtain ⟨credit, found, written, same, entries⟩ := evidence.exists_detail
  cases same.symm.trans shown
  have field (index : Nat) {item : String × Json Unit}
      (listed : (evidence.fixedItems credit)[index]? = some item) : item ∈ detail.entries := by
    rw [entries]
    exact List.mem_append_left _ (List.mem_of_getElem? listed)
  have keys : detail.keys = fixedFields ++
      (List.range evidence.evidenceRefs.length).map referenceField := by
    rw [Dict.keys, entries, List.map_append, keys_fixedItems, keys_referenceItems]
  have positive : 0 < evidence.evidenceRefs.length :=
    List.length_pos_iff.mpr evidence.refsPresent
  have account := evidence.scope.2.normalized
  have read : decimal (.text credit) "additional_credit" = .ok evidence.additionalCredit := by
    obtain ⟨text, writtenText, readText⟩ := evidence.additionalCredit.exists_canonicalText
    cases writtenText.symm.trans written
    exact mapError_eq_ok.mpr (readText true)
  rw [fromResourceDetail, if_neg (not_not.mpr (Dict.mem_entries.mp (field 0 rfl))),
    if_neg (not_not.mpr (Dict.mem_entries.mp (field 1 rfl))),
    if_neg (not_not.mpr (Dict.mem_entries.mp (field 2 rfl))), Dict.mem_entries.mp (field 12 rfl),
    referenceCount_repr positive]
  by_cases large : 64 < evidence.evidenceRefs.length
  · rw [if_pos large, if_pos large]
    rfl
  · rw [if_neg large, if_neg large, ok_bind]
    dsimp only
    rw [if_neg (not_not.mpr (by rw [keys]; exact ⟨fun _ => id, fun _ => id⟩)),
      exactText_of_mem (field 4 rfl) account.provider, ok_bind,
      exactText_of_mem (field 5 rfl) account.account, ok_bind,
      exactText_of_mem (field 6 rfl) account.environment, ok_bind,
      exactText_of_mem (field 7 rfl) account.providerEnvironment, ok_bind, accountScope_self,
      ok_bind, exactText_of_mem (field 3 rfl) evidence.evidenceIdNormal, ok_bind,
      exactText_of_mem (field 8 rfl) evidence.currencyUpper.1, ok_bind,
      exactText_of_mem (field 9 rfl) (Decimal.normal_canonicalText written), ok_bind,
      exactInstant_of_mem (field 10 rfl), ok_bind, exactInstant_of_mem (field 11 rfl), ok_bind,
      mapM_references (fun item member => by rw [entries]; exact List.mem_append_right _ member)
        evidence.refsNormal, ok_bind]
    exact create_self evidence read

/-- Every evidence has a detail.  With at most 64 references the detail is read back as the
evidence, with more it is refused for its count. -/
theorem buying_power_detail_read_back [IsoReader] (evidence : BuyingPowerEvidence) :
    ∃ detail, evidence.resourceDetail = .ok detail ∧
      (evidence.evidenceRefs.length ≤ 64 → fromResourceDetail detail = .ok evidence) ∧
        (64 < evidence.evidenceRefs.length → fromResourceDetail detail =
          .error (.value "margin-credit evidence_ref_count is invalid")) := by
  obtain ⟨_, detail, -, shown, -⟩ := evidence.exists_detail
  refine ⟨detail, shown, ?_, ?_⟩
  · intro within
    rw [fromResourceDetail_eq shown, if_neg (Nat.not_lt.mpr within)]
  · intro large
    rw [fromResourceDetail_eq shown, if_pos large]

end BuyingPowerEvidence

end Evidence

section Sample

attribute [local instance] CaseMap.ascii IsoReader.utcOnly

open BuyingPowerEvidence

/-- `datetime.fromtimestamp(seconds, timezone.utc)`. -/
def sampleMoment (seconds : Int)
    (inside : datetimeMin ≤ (⟨seconds * 1000000⟩ : Instant) ∧
      (⟨seconds * 1000000⟩ : Instant) ≤ datetimeMax) : AwareDatetime :=
  .utc ⟨⟨seconds * 1000000⟩, inside⟩

/-- An observation of 250 dollars of credit with the given number of references. -/
def sampleEvidence (count : Nat) : Except EvidenceError BuyingPowerEvidence :=
  create "bp-1" ⟨⟨"IBKR", "U1", "PAPER", "PAPER"⟩, by decide +kernel⟩ "USD" (.text "250")
    (sampleMoment 0 (by decide)) (sampleMoment 60 (by decide)) ((List.range count).map Nat.repr)

/-- The detail of an evidence with 65 references is not read back. -/
theorem many_references_refused :
    ∃ evidence detail, sampleEvidence 65 = .ok evidence ∧
      evidence.resourceDetail = .ok detail ∧ fromResourceDetail detail ≠ .ok evidence := by
  have counted : (sampleEvidence 65).toOption.map (fun evidence => evidence.evidenceRefs.length) =
      some 65 := by decide +kernel
  cases created : sampleEvidence 65 with
  | error error =>
      rw [created] at counted
      cases counted
  | ok evidence =>
      rw [created] at counted
      have length : evidence.evidenceRefs.length = 65 := Option.some.inj counted
      obtain ⟨_, detail, -, shown, -⟩ := evidence.exists_detail
      refine ⟨evidence, detail, rfl, shown, ?_⟩
      rw [fromResourceDetail_eq shown, if_pos (by omega)]
      exact nofun

end Sample

end AutoTrade.Settlement
