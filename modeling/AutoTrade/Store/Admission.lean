import AutoTrade.Store.Envelope

/-!
# Admitted envelopes

What a writer has checked of an envelope when it stores the columns, and that a
reader accepts every such row: reading a stored text restores the envelope with
its keys sorted, and no check depends on the order of keys.
-/

namespace AutoTrade.Store

open Lib

variable {F : Type}

/-! ## What the checks accept -/

theorem requireCanonicalDurableText_eq_ok {value : Option (Json F)} {name text : String} :
    requireCanonicalDurableText value name = .ok text ↔
      value = some (.str text) ∧ Normal text := by
  unfold requireCanonicalDurableText
  split
  next found =>
    split
    next normal =>
      simp only [Except.ok.injEq, Option.some.injEq, Json.str.injEq]
      constructor
      · rintro rfl
        exact ⟨rfl, normal⟩
      · exact fun accepted => accepted.1
    next abnormal =>
      constructor
      · intro success
        cases success
      · rintro ⟨same, normal⟩
        cases same
        exact absurd normal abnormal
  next other =>
    constructor
    · intro success
      cases success
    · rintro ⟨rfl, _⟩
      exact absurd rfl (other text)

theorem requireCanonicalColumn_eq_ok {text name : String} :
    requireCanonicalColumn text name = .ok () ↔ Normal text := by
  unfold requireCanonicalColumn
  split
  next normal => simp [normal]
  next abnormal => simp [abnormal]

theorem canonicalJsonText_eq_ok [FloatText F] {value : Json F} {text : String} :
    canonicalJsonText value = .ok text ↔ value.canonicalText = some text := by
  unfold canonicalJsonText
  split
  next found => simp [found]
  next found => simp [found]

theorem payloadDigest_eq_ok [FloatText F] [Fingerprint] {value : Json F} {digest : String} :
    payloadDigest value = .ok digest ↔
      ∃ text, value.canonicalText = some text ∧ textDigest text = digest := by
  rw [payloadDigest]
  cases found : canonicalJsonText value with
  | error error =>
      constructor
      · intro success
        cases success
      · rintro ⟨text, written, _⟩
        rw [canonicalJsonText_eq_ok.mpr written] at found
        cases found
  | ok text =>
      rw [canonicalJsonText_eq_ok] at found
      simp only [Except.map, Except.ok.injEq, found, Option.some.injEq, exists_eq_left']

/-- A canonical sequence text is the text of its number. -/
theorem versionText_ofDigitChars {text : String} (canonical : isSequence text = true) :
    versionText (Nat.ofDigitChars 10 text.toList 0) = text := by
  rw [versionText, Json.toDigits_ofDigitChars, String.ofList_toList]
  simp only [isSequence, Bool.or_eq_true, Bool.and_eq_true, decide_eq_true_iff,
    List.all_eq_true] at canonical
  rcases canonical with zero | ⟨⟨nonempty, all⟩, head⟩
  · exact .inl zero
  · exact .inr ⟨⟨nonempty, all⟩, head⟩

theorem sequence_eq_ok {value : Option (Json F)} {name : String} {number : Nat}
    (success : sequence value name = .ok number) :
    value = some (.str (versionText number)) ∧ 0 < number := by
  unfold sequence at success
  split at success
  next text =>
    rw [guard_eq_ok, guard_eq_ok] at success
    obtain ⟨canonical, _, success⟩ := success
    rw [guard_eq_ok, Except.ok.injEq] at success
    obtain ⟨positive, rfl⟩ := success
    rw [versionText_ofDigitChars (by simpa using canonical)]
    exact ⟨rfl, Nat.pos_of_ne_zero positive⟩
  next => cases success

/-- What the writer has checked of an envelope when it stores these columns. -/
structure Admits [FloatText F] [TextFormats] [Fingerprint] (envelope : Json F)
    (columns : EventCore) : Prop where
  isObject : ∃ members, envelope = .obj members
  valid : validateCanonicalEventEnvelopeIfClaimed envelope = .ok ()
  eventId : envelope.get? "event_id" = some (.str columns.eventId)
  eventIdNormal : Normal columns.eventId
  eventType : envelope.get? "event_type" = some (.str columns.eventType)
  eventTypeNormal : Normal columns.eventType
  aggregateType : envelope.get? "aggregate_type" = some (.str columns.aggregateType)
  aggregateTypeNormal : Normal columns.aggregateType
  aggregateId : envelope.get? "aggregate_id" = some (.str columns.aggregateId)
  aggregateIdNormal : Normal columns.aggregateId
  aggregateVersion : envelope.get? "aggregate_version" =
    some (.str (versionText columns.aggregateVersion))
  positive : 0 < columns.aggregateVersion
  payload : (payloadOf envelope).canonicalText = some columns.payloadJson
  payloadHash : columns.payloadHash = textDigest columns.payloadJson
  claimedHash : envelope.get? "payload_hash" = some (.str columns.payloadHash)
  committedAt : envelope.get? "committed_at" = some (.str columns.committedAt)
  committedAtNormal : Normal columns.committedAt
  written : envelope.canonicalText = some columns.envelopeJson
  envelopeHash : columns.envelopeHash = textDigest columns.envelopeJson

/-- A topic that passes its check. -/
def CanonicalTopic (outboxTopic : Option String) : Prop :=
  ∀ topic ∈ outboxTopic, Normal topic

theorem checkTopic_eq_ok {outboxTopic : Option String} :
    checkTopic outboxTopic = .ok () ↔ CanonicalTopic outboxTopic := by
  cases outboxTopic with
  | none => simp [checkTopic, CanonicalTopic]
  | some topic => simp [checkTopic, CanonicalTopic, requireCanonicalColumn_eq_ok]

section Writers

variable [FloatText F] [DecidableEq F] [TextFormats] [Fingerprint]

theorem appendColumns_eq_ok {envelope : Json F} {outboxTopic : Option String}
    {event : PreparedEvent} (success : appendColumns envelope outboxTopic = .ok event) :
    Admits envelope event.toEventCore ∧ event.outboxTopic = outboxTopic ∧
      CanonicalTopic outboxTopic := by
  unfold appendColumns at success
  split at success
  next members =>
    simp only [bind_eq_ok, requireCanonicalDurableText_eq_ok, payloadDigest_eq_ok,
      canonicalJsonText_eq_ok, throw_unless_eq_ok, pure_eq_ok] at success
    obtain ⟨_, valid, eventId, idFound, eventType, typeFound, aggregateType, aggregateFound,
      aggregateId, aggregateIdFound, version, versionFound, payloadHash,
      ⟨payloadText, payloadWritten, hashed⟩, claimed, payloadJson, payloadAgain, envelopeJson,
      written, committedAt, committedFound, _, topic, rfl⟩ := success
    obtain ⟨versionStored, positive⟩ := sequence_eq_ok versionFound
    rw [payloadWritten, Option.some.injEq] at payloadAgain
    subst payloadAgain
    exact ⟨{
      isObject := ⟨members, rfl⟩
      valid := valid
      eventId := idFound.1
      eventIdNormal := idFound.2
      eventType := typeFound.1
      eventTypeNormal := typeFound.2
      aggregateType := aggregateFound.1
      aggregateTypeNormal := aggregateFound.2
      aggregateId := aggregateIdFound.1
      aggregateIdNormal := aggregateIdFound.2
      aggregateVersion := versionStored
      positive := positive
      payload := payloadWritten
      payloadHash := hashed.symm
      claimedHash := not_not.mp claimed
      committedAt := committedFound.1
      committedAtNormal := committedFound.2
      written := written
      envelopeHash := rfl }, rfl, checkTopic_eq_ok.mp topic⟩
  next => cases success

theorem batchColumns_eq_ok {seen : List String} {envelope : Json F}
    {outboxTopic : Option String} {event : PreparedEvent}
    (success : batchColumns seen envelope outboxTopic = .ok event) :
    Admits envelope event.toEventCore ∧ event.outboxTopic = outboxTopic ∧
      CanonicalTopic outboxTopic ∧ event.eventId ∉ seen := by
  unfold batchColumns at success
  split at success
  next members =>
    simp only [bind_eq_ok, requireCanonicalDurableText_eq_ok, canonicalJsonText_eq_ok,
      throw_unless_eq_ok, pure_eq_ok] at success
    obtain ⟨_, valid, eventId, idFound, fresh, eventType, typeFound, aggregateType,
      aggregateFound, aggregateId, aggregateIdFound, version, versionFound, payloadJson,
      payloadWritten, claimed, committedAt, committedFound, _, topic, envelopeJson, written,
      rfl⟩ := success
    obtain ⟨versionStored, positive⟩ := sequence_eq_ok versionFound
    exact ⟨{
      isObject := ⟨members, rfl⟩
      valid := valid
      eventId := idFound.1
      eventIdNormal := idFound.2
      eventType := typeFound.1
      eventTypeNormal := typeFound.2
      aggregateType := aggregateFound.1
      aggregateTypeNormal := aggregateFound.2
      aggregateId := aggregateIdFound.1
      aggregateIdNormal := aggregateIdFound.2
      aggregateVersion := versionStored
      positive := positive
      payload := payloadWritten
      payloadHash := rfl
      claimedHash := not_not.mp claimed
      committedAt := committedFound.1
      committedAtNormal := committedFound.2
      written := written
      envelopeHash := rfl }, rfl, checkTopic_eq_ok.mp topic, fresh⟩
  next => cases success

/-- What a writer stores of the events of a batch. -/
theorem prepareBatch_eq_ok {seen : List String} {batch : List (Detached F × Option String)}
    {prepared : List PreparedEvent} (success : prepareBatch seen batch = .ok prepared) :
    List.Forall₂ (fun item event => Admits item.1.value event.toEventCore ∧
      event.outboxTopic = item.2 ∧ CanonicalTopic item.2) batch prepared := by
  induction batch generalizing seen prepared with
  | nil =>
      cases success
      exact List.Forall₂.nil
  | cons item rest ih =>
      obtain ⟨envelope, outboxTopic⟩ := item
      simp only [prepareBatch, bind_eq_ok, pure_eq_ok] at success
      obtain ⟨first, columns, others, tail, rfl⟩ := success
      obtain ⟨admits, topic, canonical, _⟩ := batchColumns_eq_ok columns
      exact List.Forall₂.cons ⟨admits, topic, canonical⟩ (ih tail)

/-- Every event that a writer stores was admitted. -/
theorem admitted_of_prepareBatch {seen : List String}
    {batch : List (Detached F × Option String)} {prepared : List PreparedEvent}
    (success : prepareBatch seen batch = .ok prepared) :
    ∀ event ∈ prepared, (∃ envelope : Detached F, Admits envelope.value event.toEventCore) ∧
      CanonicalTopic event.outboxTopic := by
  have stored := prepareBatch_eq_ok success
  clear success
  induction stored with
  | nil =>
      intro event member
      cases member
  | @cons item first rest others head tail ih =>
      rw [List.forall_mem_cons, head.2.1]
      exact ⟨⟨⟨item.1, head.1⟩, head.2.2⟩, ih⟩

theorem ne_nil_of_prepareBatch {seen : List String}
    {batch : List (Detached F × Option String)} {prepared : List PreparedEvent}
    (nonempty : batch ≠ []) (success : prepareBatch seen batch = .ok prepared) :
    prepared ≠ [] := by
  rintro rfl
  exact nonempty (List.forall₂_nil_right_iff.mp (prepareBatch_eq_ok success))

end Writers

/-! ## Checks do not depend on the order of keys -/

/-- A value without the order of its keys. -/
def Detached.content (value : Detached F) : Json F := value.value.normal

/-- The envelopes of a batch and their topics, in order. -/
def contents (events : List (Detached F × Option String)) : List (Json F × Option String) :=
  events.map fun item => (item.1.content, item.2)

theorem requireUuidText_normal (value : Option (Json F)) (name : String) :
    requireUuidText (value.map Json.normal) name = requireUuidText value name := by
  rcases value with _ | value
  · rfl
  · cases value <;> rfl

theorem requireScalar_normal (valid : String → Bool) (value : Option (Json F))
    (message : String) :
    requireScalar valid (value.map Json.normal) message = requireScalar valid value message := by
  rcases value with _ | value
  · rfl
  · cases value <;> rfl

theorem ifPresent_normal {check : Option (Json F) → Except StoreError Unit}
    (same : ∀ value, check (value.map Json.normal) = check value) (value : Option (Json F)) :
    ifPresent (value.map Json.normal) check = ifPresent value check := by
  rcases value with _ | value
  · rfl
  · exact same (some value)

theorem map_normal_eq_str {value : Option (Json F)} {text : String} :
    value.map Json.normal = some (.str text) ↔ value = some (.str text) := by
  rcases value with _ | value
  · exact Iff.rfl
  · cases value <;> simp [Json.normal]

theorem requireCanonicalDurableText_normal (value : Option (Json F)) (name : String) :
    requireCanonicalDurableText (value.map Json.normal) name =
      requireCanonicalDurableText value name := by
  rcases value with _ | value
  · rfl
  · cases value <;> rfl

theorem sequence_normal (value : Option (Json F)) (name : String) :
    sequence (value.map Json.normal) name = sequence value name := by
  rcases value with _ | value
  · rfl
  · cases value <;> rfl

theorem canonicalJsonText_normal [FloatText F] (value : Json F) :
    canonicalJsonText value.normal = canonicalJsonText value := by
  rw [canonicalJsonText, Json.canonicalText_normal, canonicalJsonText]

theorem validateCausation_normal (value : Option (Json F)) :
    validateCausation (value.map Json.normal) = validateCausation value := by
  rcases value with _ | value
  · rfl
  · cases value <;> rfl

theorem fieldsOf_normal (value : Json F) : (fieldsOf value.normal).Perm (fieldsOf value) := by
  cases value with
  | obj members =>
      rw [Json.normal, fieldsOf, fieldsOf, ← Json.keys_normalMembers members]
      exact (Json.sortMembers_perm _).map _
  | null => exact List.Perm.refl _
  | bool value => exact List.Perm.refl _
  | int value => exact List.Perm.refl _
  | float value => exact List.Perm.refl _
  | str value => exact List.Perm.refl _
  | arr items => exact List.Perm.refl _

theorem payloadOf_normal {envelope : Json F} (distinct : envelope.Distinct) :
    payloadOf envelope.normal = (payloadOf envelope).normal := by
  rw [payloadOf, payloadOf, Json.get?_normal distinct]
  cases envelope.get? "payload" <;> rfl

theorem payloadOf_distinct {envelope : Json F} (distinct : envelope.Distinct) :
    (payloadOf envelope).Distinct := by
  rw [payloadOf]
  cases found : envelope.get? "payload" with
  | none => trivial
  | some payload => exact distinct.get? found

section Validation

variable [TextFormats]

theorem requireUtcInstant_normal (value : Option (Json F)) (name : String) :
    requireUtcInstant (value.map Json.normal) name = requireUtcInstant value name := by
  rcases value with _ | value
  · rfl
  · cases value <;> rfl

theorem requireAbsoluteUri_normal (value : Option (Json F)) (name : String) :
    requireAbsoluteUri (value.map Json.normal) name = requireAbsoluteUri value name := by
  rcases value with _ | value
  · rfl
  · cases value <;> rfl

theorem validateEvidenceRef_normal {value : Json F} (distinct : value.Distinct) :
    validateEvidenceRef value.normal = validateEvidenceRef value := by
  cases value with
  | obj members =>
      have fields := fieldsOf_normal (Json.obj members)
      have required : ∀ names : List String,
          names ⊆ fieldsOf (Json.obj members).normal ↔ names ⊆ fieldsOf (Json.obj members) :=
        fun names => ⟨fun all _ member => fields.mem_iff.mp (all member),
          fun all _ member => fields.mem_iff.mpr (all member)⟩
      have supported : ∀ names : List String,
          fieldsOf (Json.obj members).normal ⊆ names ↔ fieldsOf (Json.obj members) ⊆ names :=
        fun names => ⟨fun all _ member => all (fields.mem_iff.mpr member),
          fun all _ member => all (fields.mem_iff.mp member)⟩
      have lookup := Json.get?_normal distinct
      simp only [Json.normal] at required supported lookup ⊢
      simp only [validateEvidenceRef, required, supported, lookup, requireUuidText_normal,
        requireScalar_normal, requireUtcInstant_normal]
      rw [ifPresent_normal, ifPresent_normal]
      · exact fun value => requireScalar_normal _ value _
      · exact fun value => requireAbsoluteUri_normal value _
  | null => rfl
  | bool value => rfl
  | int value => rfl
  | float value => rfl
  | str value => rfl
  | arr items => rfl

theorem validateEvidenceRefs_normal {value : Option (Json F)}
    (distinct : ∀ item ∈ value, item.Distinct) :
    validateEvidenceRefs (value.map Json.normal) = validateEvidenceRefs value := by
  rcases value with _ | value
  · rfl
  · cases value with
    | arr items =>
        have each := Json.distinctItems_iff.mp (distinct _ rfl)
        simp only [Option.map_some, Json.normal, validateEvidenceRefs, Json.normalItems_eq]
        clear distinct
        induction items with
        | nil => rfl
        | cons item rest ih =>
            rw [List.forall_mem_cons] at each
            rw [List.map_cons, List.forM, List.forM, validateEvidenceRef_normal each.1,
              ih each.2]
    | null => rfl
    | bool value => rfl
    | int value => rfl
    | float value => rfl
    | str value => rfl
    | obj members => rfl

theorem validateFields_normal {envelope : Json F} (distinct : envelope.Distinct) :
    validateFields envelope.normal = validateFields envelope := by
  have evidence : validateEvidenceRefs ((envelope.get? "evidence_refs").map Json.normal) =
      validateEvidenceRefs (envelope.get? "evidence_refs") :=
    validateEvidenceRefs_normal fun item found => distinct.get? found
  have optional : ∀ (valid : String → Bool) (message : String) (value : Option (Json F)),
      (ifPresent (value.map Json.normal) fun item => requireScalar valid item message) =
        ifPresent value fun item => requireScalar valid item message :=
    fun valid message value =>
      ifPresent_normal (fun item => requireScalar_normal valid item message) value
  simp only [validateFields, Json.get?_normal distinct, requireUuidText_normal,
    validateCausation_normal, requireScalar_normal, requireUtcInstant_normal, evidence, optional]

theorem validate_normal {envelope : Json F} (distinct : envelope.Distinct) :
    validateCanonicalEventEnvelopeIfClaimed envelope.normal =
      validateCanonicalEventEnvelopeIfClaimed envelope := by
  have fields := fieldsOf_normal envelope
  have unknown : ((fieldsOf envelope.normal).filter
        (· ∉ requiredFields ++ optionalFields)).insertionSort (· ≤ ·) =
      ((fieldsOf envelope).filter
        (· ∉ requiredFields ++ optionalFields)).insertionSort (· ≤ ·) := by
    apply List.Perm.eq_of_pairwise (fun left right _ _ => le_antisymm)
      (List.pairwise_insertionSort _ _) (List.pairwise_insertionSort _ _)
    exact ((List.perm_insertionSort _ _).trans (fields.filter _)).trans
      (List.perm_insertionSort _ _).symm
  simp only [validateCanonicalEventEnvelopeIfClaimed, unknown, fields.mem_iff,
    validateFields_normal distinct]

/-- Envelopes with one content are admitted with the same columns. -/
theorem Admits.congr [FloatText F] [Fingerprint] {left right : Detached F} {columns : EventCore}
    (same : left.content = right.content) (admits : Admits left.value columns) :
    Admits right.value columns := by
  have normal : left.value.normal = right.value.normal := same
  have text : ∀ {key value : String}, left.value.get? key = some (.str value) →
      right.value.get? key = some (.str value) := by
    intro key value found
    rw [← map_normal_eq_str, ← Json.get?_normal left.distinct, normal,
      Json.get?_normal right.distinct, map_normal_eq_str] at found
    exact found
  have payload : (payloadOf left.value).canonicalText = (payloadOf right.value).canonicalText := by
    rw [← Json.canonicalText_normal, ← payloadOf_normal left.distinct, normal,
      payloadOf_normal right.distinct, Json.canonicalText_normal]
  exact {
    isObject := by
      obtain ⟨members, object⟩ := admits.isObject
      rw [object] at normal
      cases found : right.value with
      | obj others => exact ⟨others, rfl⟩
      | null => rw [found] at normal; cases normal
      | bool value => rw [found] at normal; cases normal
      | int value => rw [found] at normal; cases normal
      | float value => rw [found] at normal; cases normal
      | str value => rw [found] at normal; cases normal
      | arr items => rw [found] at normal; cases normal
    valid := by
      rw [← validate_normal right.distinct, ← normal, validate_normal left.distinct]
      exact admits.valid
    eventId := text admits.eventId
    eventIdNormal := admits.eventIdNormal
    eventType := text admits.eventType
    eventTypeNormal := admits.eventTypeNormal
    aggregateType := text admits.aggregateType
    aggregateTypeNormal := admits.aggregateTypeNormal
    aggregateId := text admits.aggregateId
    aggregateIdNormal := admits.aggregateIdNormal
    aggregateVersion := text admits.aggregateVersion
    positive := admits.positive
    payload := payload ▸ admits.payload
    payloadHash := admits.payloadHash
    claimedHash := text admits.claimedHash
    committedAt := text admits.committedAt
    committedAtNormal := admits.committedAtNormal
    written := by
      rw [← Json.canonicalText_normal, ← normal, Json.canonicalText_normal]
      exact admits.written
    envelopeHash := admits.envelopeHash }

/-- What a writer stores does not depend on the order of keys. -/
theorem batchColumns_normal [FloatText F] [DecidableEq F] [Fingerprint] {envelope : Json F}
    (distinct : envelope.Distinct) (seen : List String) (outboxTopic : Option String) :
    batchColumns seen envelope.normal outboxTopic = batchColumns seen envelope outboxTopic := by
  have valid := validate_normal distinct
  have payload := payloadOf_normal distinct
  have text := canonicalJsonText_normal envelope
  have fields := Json.get?_normal distinct
  cases envelope with
  | obj members =>
      simp only [Json.normal] at valid payload text fields ⊢
      simp only [batchColumns, valid, payload, text, fields, canonicalJsonText_normal,
        requireCanonicalDurableText_normal, sequence_normal, ne_eq, map_normal_eq_str]
  | null => rfl
  | bool value => rfl
  | int value => rfl
  | float value => rfl
  | str value => rfl
  | arr items => rfl

/-- Batches with the same contents store the same columns. -/
theorem prepareBatch_congr [FloatText F] [DecidableEq F] [Fingerprint] {seen : List String}
    {left right : List (Detached F × Option String)} (same : contents left = contents right) :
    prepareBatch seen left = prepareBatch seen right := by
  induction left generalizing seen right with
  | nil =>
      rw [contents, List.map_nil, eq_comm, contents, List.map_eq_nil_iff] at same
      rw [same]
  | cons item rest ih =>
      cases right with
      | nil => cases same
      | cons other others =>
          simp only [contents, List.map_cons, List.cons.injEq, Prod.mk.injEq] at same
          obtain ⟨⟨content, topic⟩, tail⟩ := same
          have first : ∀ seen, batchColumns seen item.1.value item.2 =
              batchColumns seen other.1.value other.2 := by
            intro seen
            rw [← batchColumns_normal item.1.distinct, ← batchColumns_normal other.1.distinct,
              topic]
            exact congrArg (fun envelope => batchColumns seen envelope other.2) content
          simp only [prepareBatch, first, ih tail]

end Validation

/-! ## Decoding -/

/-- Reading a stored canonical text. -/
theorem loadCanonical_written [FloatText F] {value : Json F} {text : String}
    (distinct : value.Distinct) (written : value.canonicalText = some text)
    (invalid notCanonical : String) :
    loadCanonical text invalid notCanonical = .ok value.normal := by
  have again : canonicalJsonText value.normal = .ok text := by
    rw [canonicalJsonText_eq_ok, Json.canonicalText_normal, written]
  rw [loadCanonical, Json.loads_canonicalText distinct written]
  simp only [again, ok_bind, ne_eq, not_true_eq_false, ↓reduceIte]
  rfl

theorem find?_foldl_insertEntry {fields members : List (String × Json F)} (key : String)
    (distinct : (fields.map Prod.fst).Nodup) :
    Dict.find? key (fields.foldl (fun members field =>
      Dict.insertEntry field.1 field.2 members) members) =
        (Dict.find? key fields).or (Dict.find? key members) := by
  induction fields generalizing members with
  | nil => rfl
  | cons field rest ih =>
      obtain ⟨name, value⟩ := field
      rw [List.map_cons, List.nodup_cons] at distinct
      rw [List.foldl_cons, ih distinct.2, Dict.find?_insertEntry, Dict.find?]
      by_cases same : name = key
      · subst same
        rw [Dict.find?_eq_none.mpr distinct.1, if_pos rfl, if_pos rfl]
        rfl
      · rw [if_neg same]
        split
        next other => exact absurd other same
        next => rfl

/-- An update sets its fields and keeps the others. -/
theorem get?_update {members fields : List (String × Json F)} (key : String)
    (distinct : (fields.map Prod.fst).Nodup) :
    (update (.obj members) fields).get? key =
      (Dict.find? key fields).or ((Json.obj members).get? key) :=
  find?_foldl_insertEntry key distinct

/-- What a reader shows of a row with this envelope: the payload, the version as
an integer, the journal sequence where it was selected, and every other field of
the envelope. -/
structure Shows (envelope : Json F) (columns : EventCore) (journalSequence : Option Nat)
    (decoded : Json F) : Prop where
  payload : decoded.get? "payload" = some (payloadOf envelope).normal
  aggregateVersion : decoded.get? "aggregate_version" = some (.int columns.aggregateVersion)
  journalSequence : ∀ position ∈ journalSequence,
    decoded.get? "journal_sequence" = some (.int position)
  others : ∀ key, key ≠ "payload" → key ≠ "aggregate_version" → key ≠ "journal_sequence" →
    decoded.get? key = (envelope.get? key).map Json.normal

theorem decodedFields_nodup (columns : EventCore) (journalSequence : Option Nat)
    (payload : Json F) :
    ((decodedFields columns journalSequence payload).map Prod.fst).Nodup := by
  cases journalSequence with
  | none => exact (by decide : ["event_id", "event_type", "aggregate_type", "aggregate_id",
      "aggregate_version", "payload", "payload_hash", "committed_at"].Nodup)
  | some position => exact (by decide : ["event_id", "event_type", "aggregate_type",
      "aggregate_id", "aggregate_version", "payload", "payload_hash", "committed_at",
      "journal_sequence"].Nodup)

section Readers

variable [FloatText F] [TextFormats] [Fingerprint]

theorem Admits.shows {envelope : Json F} {columns : EventCore}
    (admits : Admits envelope columns) (distinct : envelope.Distinct)
    (journalSequence : Option Nat) :
    Shows envelope columns journalSequence (update envelope.normal
      (decodedFields columns journalSequence (payloadOf envelope).normal)) := by
  obtain ⟨members, isObject⟩ : ∃ members, envelope.normal = .obj members := by
    obtain ⟨members, rfl⟩ := admits.isObject
    exact ⟨_, rfl⟩
  have lookup : ∀ key, (update envelope.normal
      (decodedFields columns journalSequence (payloadOf envelope).normal)).get? key =
        (Dict.find? key (decodedFields columns journalSequence (payloadOf envelope).normal)).or
          ((envelope.get? key).map Json.normal) := by
    intro key
    rw [← Json.get?_normal distinct, isObject]
    exact get?_update key (decodedFields_nodup columns journalSequence _)
  refine ⟨?_, ?_, ?_, ?_⟩
  · rw [lookup]
    rfl
  · rw [lookup]
    rfl
  · rintro position selected
    rw [lookup, Option.mem_def.mp selected]
    rfl
  · intro key payload version sequence
    rw [lookup]
    by_cases shown : key ∈ ["event_id", "event_type", "aggregate_type", "aggregate_id",
        "payload_hash", "committed_at"]
    · simp only [List.mem_cons, List.not_mem_nil, or_false] at shown
      rcases shown with rfl | rfl | rfl | rfl | rfl | rfl
      · rw [admits.eventId]
        rfl
      · rw [admits.eventType]
        rfl
      · rw [admits.aggregateType]
        rfl
      · rw [admits.aggregateId]
        rfl
      · rw [admits.claimedHash]
        rfl
      · rw [admits.committedAt]
        rfl
    · rw [Dict.find?_eq_none.mpr, Option.none_or]
      intro listed
      apply shown
      cases journalSequence <;>
        simp only [decodedFields, List.map_append, List.map_cons, List.map_nil, List.append_nil,
          List.mem_append, List.mem_cons, List.not_mem_nil, or_false] at listed ⊢ <;>
        tauto

variable [DecidableEq F]

theorem Admits.checkCore_eq_ok {envelope : Json F} {columns : EventCore}
    (admits : Admits envelope columns) (distinct : envelope.Distinct) :
    checkCore columns (payloadOf envelope).normal envelope.normal = .ok () := by
  rw [checkCore, forM_eq_ok]
  intro field member
  rw [if_neg]
  rw [not_not, Json.get?_normal distinct]
  simp only [coreEnvelope, List.mem_cons, List.not_mem_nil, or_false] at member
  rcases member with rfl | rfl | rfl | rfl | rfl | rfl | rfl | rfl
  · rw [admits.eventId]
    rfl
  · rw [admits.eventType]
    rfl
  · rw [admits.aggregateType]
    rfl
  · rw [admits.aggregateId]
    rfl
  · rw [admits.aggregateVersion]
    rfl
  · rw [payloadOf]
    cases envelope.get? "payload" <;> rfl
  · rw [admits.claimedHash]
    rfl
  · rw [admits.committedAt]
    rfl

/-- A reader accepts every row of an admitted envelope. -/
theorem Admits.decodeEventRow {envelope : Json F} {columns : EventCore}
    (admits : Admits envelope columns) (distinct : envelope.Distinct)
    {journalSequence : Option Nat} (selected : journalSequence ≠ some 0) :
    decodeEventRow columns journalSequence = .ok (update envelope.normal
      (decodedFields columns journalSequence (payloadOf envelope).normal)) := by
  have payload := loadCanonical_written (payloadOf_distinct distinct) admits.payload
  have stored := loadCanonical_written distinct admits.written
  have hashed : payloadDigest (payloadOf envelope).normal = .ok columns.payloadHash := by
    rw [payloadDigest_eq_ok]
    refine ⟨columns.payloadJson, ?_, admits.payloadHash.symm⟩
    rw [Json.canonicalText_normal, admits.payload]
  have valid := admits.valid
  rw [← validate_normal distinct] at valid
  have core := admits.checkCore_eq_ok distinct
  have nonzero : columns.aggregateVersion ≠ 0 := Nat.pos_iff_ne_zero.mp admits.positive
  obtain ⟨members, isObject⟩ : ∃ members, envelope.normal = .obj members := by
    obtain ⟨members, rfl⟩ := admits.isObject
    exact ⟨_, rfl⟩
  simp only [Store.decodeEventRow, requireCanonicalColumn_eq_ok.mpr admits.eventIdNormal,
    requireCanonicalColumn_eq_ok.mpr admits.eventTypeNormal,
    requireCanonicalColumn_eq_ok.mpr admits.aggregateTypeNormal,
    requireCanonicalColumn_eq_ok.mpr admits.aggregateIdNormal,
    requireCanonicalColumn_eq_ok.mpr admits.committedAtNormal, ok_bind, if_neg nonzero,
    payload, hashed, ne_eq, not_true_eq_false, ↓reduceIte, if_neg selected,
    admits.envelopeHash, stored]
  rw [isObject] at valid core ⊢
  simp only [valid, core, ok_bind]
  rfl

end Readers

end AutoTrade.Store
