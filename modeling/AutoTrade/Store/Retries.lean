import AutoTrade.Store.Effects

/-!
# Retried commands

What a call under a used idempotency key meets: the row that is stored under the
key, its result, and an effect that only the same batch can rebuild.
-/

namespace AutoTrade.Store.Tables

open Lib

/-! ## The stored row -/

/-- A key that finds a row is the key of the row. -/
theorem of_commandRow?_eq_some {tables : Tables} {actor environment idempotencyKey : String}
    {row : CommandRow} (found : tables.commandRow? actor environment idempotencyKey = some row) :
    row ∈ tables.commands ∧ CommandRow.key row = (actor, environment, idempotencyKey) := by
  rw [Tables.commandRow?] at found
  have same := List.find?_some found
  rw [decide_eq_true_eq] at same
  refine ⟨List.mem_of_find?_eq_some found, ?_⟩
  rw [CommandRow.key, same.1, same.2.1, same.2.2]

section Lookup

variable {F : Type} [FloatText F] [TextFormats] [Fingerprint] {tables : Tables}

theorem Sound.commandRow? (sound : Sound F tables) {row : CommandRow}
    (member : row ∈ tables.commands) :
    tables.commandRow? row.actor row.environment row.idempotencyKey = some row := by
  have found := find?_key sound.keys member
  simp only [CommandRow.key, Prod.mk.injEq] at found
  exact found

/-- No command belongs to the legacy scope. -/
theorem Sound.rejectLegacyUnscopedKey (sound : Sound F tables) (idempotencyKey : String) :
    tables.rejectLegacyUnscopedKey idempotencyKey = .ok () := by
  unfold Tables.rejectLegacyUnscopedKey
  split
  next row found =>
    obtain ⟨member, key⟩ := of_commandRow?_eq_some found
    have environment := (sound.commands row member).environment
    have legacy : row.environment = "__LEGACY_UNSCOPED__" := congrArg (fun key => key.2.1) key
    rw [legacy] at environment
    exact absurd environment (by decide)
  next => rfl

end Lookup

/-! ## The stored batch -/

/-- A publication topic is what a descriptor shows of it. -/
theorem elim_injective {F : Type} {left right : Option String}
    (same : (left.elim .null .str : Json F) = right.elim .null .str) : left = right := by
  cases left with
  | none =>
      cases right with
      | none => rfl
      | some topic => cases same
  | some topic =>
      cases right with
      | none => cases same
      | some other => rw [Json.str.inj same]

theorem textDigest_injOn [Fingerprint] {texts : Set String}
    (injective : Set.InjOn sha256 texts) {left right : String} (leftMember : left ∈ texts)
    (rightMember : right ∈ texts) (same : textDigest left = textDigest right) :
    left = right := by
  apply injective leftMember rightMember
  rw [textDigest, textDigest, String.append_right_inj] at same
  exact same

/-- The texts of envelopes that `sha256` must tell apart. -/
def envelopeTexts {F : Type} [FloatText F] (events : List (Detached F × Option String)) :
    Set String :=
  { text | ∃ item ∈ events, item.1.value.canonicalText = some text }

theorem envelopeTexts_cons {F : Type} [FloatText F] (item : Detached F × Option String)
    (rest : List (Detached F × Option String)) :
    envelopeTexts rest ⊆ envelopeTexts (item :: rest) := by
  rintro text ⟨other, member, written⟩
  exact ⟨other, List.mem_cons_of_mem item member, written⟩

section Effects

variable {F : Type} [FloatText F] [Fingerprint]

/-- The result of a stored command is read back. -/
theorem decodeCommandResult_written {row : CommandRow} {result : Detached F}
    (written : result.value.canonicalText = some row.resultJson)
    (hashed : row.resultHash = textDigest row.resultJson) :
    decodeCommandResult row = .ok result.content := by
  rw [decodeCommandResult, if_neg (not_not.mpr hashed)]
  exact loadCanonical_written result.distinct written _ _

/-- Batches with one effect have the same envelopes under the same topics. -/
theorem eventBatchEffect_injective {left right : List PreparedEvent} {sequences : List Nat}
    {effectJson effectHash : String}
    (leftEffect : eventBatchEffect F left sequences = .ok (effectJson, effectHash))
    (rightEffect : eventBatchEffect F right sequences = .ok (effectJson, effectHash)) :
    List.Forall₂ (fun left right : PreparedEvent => left.envelopeHash = right.envelopeHash ∧
      left.outboxTopic = right.outboxTopic) left right := by
  have leftLength := (eventBatchEffect_eq_ok leftEffect).1
  have rightLength := (eventBatchEffect_eq_ok rightEffect).1
  obtain ⟨effect, descriptors, loaded, reads⟩ := loadEffect_written leftEffect
  obtain ⟨effect', descriptors', loaded', reads'⟩ := loadEffect_written rightEffect
  rw [loaded, Except.ok.injEq] at loaded'
  subst loaded'
  have sameRows := reads.events.symm.trans reads'.events
  rw [Option.some.injEq, Json.arr.injEq] at sameRows
  subst sameRows
  rw [← List.map_fst_zip leftLength.ge, ← List.map_fst_zip rightLength.ge,
    List.forall₂_map_left_iff, List.forall₂_map_right_iff]
  apply (forall₂_join reads.described reads'.described).imp
  rintro first second ⟨descriptor, ⟨_, _, describes⟩, _, _, describes'⟩
  have hash := describes.envelopeHash.symm.trans describes'.envelopeHash
  have topic := describes.outboxTopic.symm.trans describes'.outboxTopic
  rw [Option.some.injEq, Json.str.injEq] at hash
  rw [Option.some.injEq] at topic
  exact ⟨hash, elim_injective topic⟩

/-- Batches whose envelopes have one hash and whose topics agree have the same
contents. -/
theorem contents_eq_of_forall₂ [TextFormats] {left right : List (Detached F × Option String)}
    {leftPrepared rightPrepared : List PreparedEvent}
    (leftAdmits : List.Forall₂ (fun item event => Admits item.1.value event.toEventCore ∧
      event.outboxTopic = item.2 ∧ CanonicalTopic item.2) left leftPrepared)
    (rightAdmits : List.Forall₂ (fun item event => Admits item.1.value event.toEventCore ∧
      event.outboxTopic = item.2 ∧ CanonicalTopic item.2) right rightPrepared)
    (same : List.Forall₂ (fun left right : PreparedEvent =>
      left.envelopeHash = right.envelopeHash ∧ left.outboxTopic = right.outboxTopic)
      leftPrepared rightPrepared)
    (injective : Set.InjOn sha256 (envelopeTexts left ∪ envelopeTexts right)) :
    contents left = contents right := by
  induction same generalizing left right with
  | nil =>
      cases leftAdmits
      cases rightAdmits
      rfl
  | cons head tail ih =>
      cases leftAdmits with
      | @cons item _ rest _ admits admitsTail =>
          cases rightAdmits with
          | @cons other _ others _ admits' admitsTail' =>
              have text : item.1.value.canonicalText = other.1.value.canonicalText := by
                rw [admits.1.written, admits'.1.written, Option.some.injEq]
                apply textDigest_injOn injective
                · exact .inl ⟨item, List.mem_cons_self, admits.1.written⟩
                · exact .inr ⟨other, List.mem_cons_self, admits'.1.written⟩
                · rw [← admits.1.envelopeHash, ← admits'.1.envelopeHash]
                  exact head.1
              have content : item.1.content = other.1.content :=
                Json.canonicalText_injective item.1.distinct other.1.distinct admits.1.written
                  (text.symm.trans admits.1.written)
              have topic : item.2 = other.2 := by
                rw [← admits.2.1, ← admits'.2.1]
                exact head.2
              have later := ih admitsTail admitsTail' (injective.mono (Set.union_subset_union
                (envelopeTexts_cons item rest) (envelopeTexts_cons other others)))
              rw [contents, List.map_cons, content, topic, ← contents, later]
              rfl

end Effects

/-! ## Replays -/

section Replays

variable {F : Type} [FloatText F] [TextFormats] [Fingerprint] {tables : Tables}

/-- A retry that rebuilds the stored effect returns the stored result. -/
theorem Sound.replayCommit [DecidableEq F] (sound : Sound F tables) {row : CommandRow}
    {events : List PreparedEvent} {first : Nat} {effectJson effectHash : String}
    (covers : Covers F tables events first effectJson effectHash)
    (effect : row.effect = .eventBatch effectJson effectHash)
    {prepared : PreparedCommand F} (request : row.requestHash = prepared.requestHash)
    {result : Detached F} (written : result.value.canonicalText = some row.resultJson)
    (hashed : row.resultHash = textDigest row.resultJson) :
    tables.replayCommit row prepared events = .ok (tables, ⟨result.content, false, []⟩) := by
  have replayed : replayResult row prepared.requestHash = .ok result.content := by
    rw [replayResult, decodeCommandResult_written written hashed, ok_bind,
      if_neg (not_not.mpr request)]
    rfl
  have versions : (events.forM fun event => do
      let _ ← tables.aggregateVersionValue event.aggregateType event.aggregateId
      pure ()) = (.ok () : Except StoreError Unit) := by
    rw [forM_eq_ok]
    intro event _
    rw [sound.aggregateVersionValue]
    rfl
  simp only [Tables.replayCommit, replayed, effect, ok_bind,
    covers.storedEffectJournalSequences, covers.effect, ne_eq, not_true_eq_false, ↓reduceIte,
    covers.verifyStoredEventBatchEffect sound.toJournaled, sound.journalSequenceValue]
  rw [versions]
  rfl

/-- Only the stored batch rebuilds the stored effect. -/
theorem Covers.contents_of_replayCommit [DecidableEq F] {next : Tables} {row : CommandRow}
    {events retried : List PreparedEvent} {first : Nat} {effectJson effectHash : String}
    (covers : Covers F tables events first effectJson effectHash)
    (effect : row.effect = .eventBatch effectJson effectHash)
    {prepared : PreparedCommand F} {outcome : CommitOutcome F}
    (success : tables.replayCommit row prepared retried = .ok (next, outcome)) :
    List.Forall₂ (fun left right : PreparedEvent => left.envelopeHash = right.envelopeHash ∧
      left.outboxTopic = right.outboxTopic) events retried := by
  obtain ⟨_, _, _, _, _, effectJson', effectHash', sequences, effect', stored, rebuilt⟩ :=
    replayCommit_eq_ok success
  rw [effect, CommandEffect.eventBatch.injEq] at effect'
  obtain ⟨rfl, rfl⟩ := effect'
  rw [covers.storedEffectJournalSequences, Except.ok.injEq] at stored
  subst stored
  exact eventBatchEffect_injective covers.effect rebuilt

end Replays

end AutoTrade.Store.Tables
