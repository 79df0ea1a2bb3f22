import AutoTrade.Perpetuals.Checkpoints

/-!
# Round trip of the funding ledger

`export_state` returns on every ledger that calls reach, `from_state` rebuilds that ledger
from the checkpoint, and it returns only on checkpoints of such ledgers.
-/

namespace AutoTrade.Perpetuals

open Lib Numeric

attribute [local instance] FloatText.none

namespace FundingLedger

/-! ## Replayed events -/

section Replays

variable [CaseMap] [Fingerprint]

/-- New canonical events that are applied to a sound ledger are logged by it. -/
theorem Sound.replay (injective : Function.Injective (sha256 : String → String))
    {start ledger : FundingLedger} {before log : List FundingEvent} {payments : List FundingPayment}
    (sound : Sound start before payments) (canonical : ∀ event ∈ log, Canonical event)
    (distinct : ((before ++ log).map FundingEvent.eventId).Nodup)
    (replays : log.foldlM (fun current event => current.applied event.call) start = .ok ledger) :
    ∃ paid, Sound ledger (before ++ log) paid := by
  induction log generalizing start before payments with
  | nil =>
      rw [List.foldlM_nil, pure_eq_ok] at replays
      subst replays
      rw [List.append_nil]
      exact ⟨payments, sound⟩
  | cons event rest ih =>
      rw [List.foldlM_cons, bind_eq_ok] at replays
      obtain ⟨next, appliedEq, later⟩ := replays
      obtain ⟨value, outcome⟩ := applied_eq_ok.mp appliedEq
      obtain ⟨arguments, read, booked⟩ := apply_ok.mp outcome
      rw [List.forall_mem_cons] at canonical
      have exported := canonical.1.exported read
      have step := sound.booked injective (readCall_readable read) exported booked
      have fresh : event.eventId ∉ before.map FundingEvent.eventId := by
        rw [List.map_append, List.nodup_append'] at distinct
        intro member
        exact distinct.2.2 member (List.mem_map_of_mem List.mem_cons_self)
      rw [if_neg fresh] at step
      have rebracketed : before ++ event :: rest = before ++ [event] ++ rest := by simp
      rw [rebracketed] at distinct ⊢
      exact ih step canonical.2 distinct later

/-- The ledger of a checkpoint logs the events of the checkpoint. -/
theorem Replayed.sound (injective : Function.Injective (sha256 : String → String))
    {log : List FundingEvent} {ledger : FundingLedger} (replayed : Replayed log ledger) :
    ∃ paid, Sound ledger log paid :=
  sound_empty.replay injective replayed.canonical replayed.distinct replayed.replays

/-- The events that a ledger has logged rebuild it. -/
theorem Sound.replayed {log : List FundingEvent} {ledger : FundingLedger}
    {payments : List FundingPayment} (sound : Sound ledger log payments) : Replayed log ledger where
  canonical := sound.canonical
  distinct := sound.eventIds ▸ ledger.events.nodup
  replays := sound.replays

/-- Calls that return reach what the loop over them returns. -/
theorem ledgerAfter_of_replays {log : List FundingEvent} {start ledger : FundingLedger}
    (replays : log.foldlM (fun current event => current.applied event.call) start = .ok ledger) :
    start.ledgerAfter (log.map FundingEvent.call) = ledger := by
  induction log generalizing start with
  | nil =>
      rw [List.foldlM_nil, pure_eq_ok] at replays
      exact replays
  | cons event rest ih =>
      rw [List.foldlM_cons, bind_eq_ok] at replays
      obtain ⟨next, appliedEq, later⟩ := replays
      obtain ⟨value, outcome⟩ := applied_eq_ok.mp appliedEq
      have reached := ih later
      rw [ledgerAfter] at reached ⊢
      rw [List.map_cons, List.foldl_cons, outcome]
      exact reached

end Replays

/-! ## States -/

/-- The state that names the events and the balances. -/
def stateOf (log : List FundingEvent) (ledger : FundingLedger) : Json Unit :=
  .obj [("schema_version", .str "funding-ledger@1"), ("events", .arr (log.map FundingEvent.json)),
    ("balances", .ofTexts ledger.balanceTexts)]

theorem hasKeys_state : hasKeys
    ["schema_version", "events", "balances"] ["schema_version", "events", "balances"] = true :=
  hasKeys_iff.mpr fun _ => Iff.rfl

theorem normal_stateOf_iff {members : List (String × Json Unit)}
    (nodup : (members.map Prod.fst).Nodup) {log : List FundingEvent} {ledger : FundingLedger} :
    (Json.obj members).normal = (stateOf log ledger).normal ↔
      hasKeys (members.map Prod.fst) ["schema_version", "events", "balances"] = true ∧
        Dict.find? "schema_version" members = some (.str "funding-ledger@1") ∧
          ∃ events items, Dict.find? "events" members = some (.arr events) ∧
            Dict.find? "balances" members = some (.obj items) ∧
              (Json.arr events).normal = (Json.arr (log.map FundingEvent.json)).normal ∧
                (Json.obj items).normal = (Json.ofTexts ledger.balanceTexts).normal := by
  rw [stateOf, Json.normal_obj_eq_iff nodup (by simp)]
  constructor
  · intro lookups
    have schema := lookups "schema_version"
    have events := lookups "events"
    have balances := lookups "balances"
    simp only [Dict.find?, String.reduceEq, if_true, if_false, Option.map_some,
      Option.map_eq_some_iff] at schema events balances
    obtain ⟨version, versionFound, versionEq⟩ := schema
    obtain ⟨listed, listedFound, listedEq⟩ := events
    obtain ⟨held, heldFound, heldEq⟩ := balances
    obtain ⟨values, rfl⟩ := Json.exists_arr_of_normal listedEq
    obtain ⟨items, rfl⟩ := Json.exists_obj_of_normal heldEq
    refine ⟨?_, ?_, values, items, listedFound, heldFound, listedEq, heldEq⟩
    · rw [hasKeys_iff]
      intro key
      rw [← not_iff_not, ← Dict.find?_eq_none, ← Option.map_eq_none_iff (f := Json.normal),
        lookups key, Option.map_eq_none_iff, Dict.find?_eq_none]
      rfl
    · rw [versionFound, Json.normal_eq_str.mp versionEq]
  · rintro ⟨keys, schema, values, items, listedFound, heldFound, listedEq, heldEq⟩ key
    rw [hasKeys_iff] at keys
    simp only [Dict.find?]
    split
    next equal =>
      subst equal
      rw [schema]
    split
    next equal =>
      subst equal
      rw [listedFound, Option.map_some, listedEq, Option.map_some]
    split
    next equal =>
      subst equal
      rw [heldFound, Option.map_some, heldEq, Option.map_some]
    next notSchema notEvents notBalances =>
      have absent : key ∉ members.map Prod.fst := by
        rw [keys]
        simp [Ne.symm notSchema, Ne.symm notEvents, Ne.symm notBalances]
      rw [Dict.find?_eq_none.mpr absent]

/-! ## Exported balances -/

theorem exportBalances_eq (ledger : FundingLedger) : ledger.exportBalances =
    .ok ((ledger.balances.entries.insertionSort fun left right => left.1 ≤ right.1).map
      balanceItem) := by
  rw [exportBalances, mapM_eq_ok, List.forall₂_map_right_iff, List.forall₂_same]
  intro item _
  have written : item.2.canonicalText = .ok (amountText item.2) := canonicalText_eq_ok.mpr rfl
  rw [written]
  rfl

/-- The balances that are exported are those of the ledger, sorted. -/
theorem normal_sorted_balances (ledger : FundingLedger) :
    (Json.obj ((ledger.balances.entries.insertionSort fun left right => left.1 ≤ right.1).map
      balanceItem)).normal = (Json.ofTexts ledger.balanceTexts).normal := by
  have perm := List.perm_insertionSort (fun left right => left.1 ≤ right.1) ledger.balances.entries
  have nodup := (perm.map Prod.fst).nodup_iff.mpr ledger.balances.nodup
  rw [normal_balanceTexts_iff nodup]
  intro unit
  apply Option.ext
  intro value
  rw [Dict.find?_eq_some nodup, perm.mem_iff, Dict.mem_entries]

theorem distinct_balances (entries : List (String × Decimal))
    (nodup : (entries.map Prod.fst).Nodup) : (Json.obj (entries.map balanceItem)).Distinct := by
  rw [Json.Distinct, Json.distinctMembers_iff, List.map_map]
  constructor
  · exact nodup
  · intro member listed
    obtain ⟨entry, -, rfl⟩ := List.mem_map.mp listed
    trivial

theorem totalOf_perm {left right : List FundingPayment} (perm : left.Perm right) (unit : String) :
    totalOf left unit = totalOf right unit :=
  ((perm.filter _).map _).sum_eq

section States

variable [CaseMap] [Fingerprint]

theorem restore_eq_ok (injective : Function.Injective (sha256 : String → String))
    {events : List (Json Unit)} {items : List (String × Json Unit)} {ledger : FundingLedger}
    (distinctEvents : (Json.arr events).Distinct) (distinctItems : (Json.obj items).Distinct) :
    restore events items = .ok ledger ↔ ∃ log, Replayed log ledger ∧
      (Json.arr events).normal = (Json.arr (log.map FundingEvent.json)).normal ∧
        (Json.obj items).normal = (Json.ofTexts ledger.balanceTexts).normal := by
  rw [Json.Distinct, Json.distinctItems_iff] at distinctEvents
  simp only [restore, bind_eq_ok, throw_unless_eq_ok, pure_eq_ok, Bool.not_eq_false]
  constructor
  · rintro ⟨expected, balances, ⟨ids, result⟩, replayed, same, rfl⟩
    obtain ⟨log, related, canonical, ⟨distinct, -⟩, replays, -⟩ := restoreEvents_eq_ok.mp replayed
    have accepted : Replayed log result := ⟨canonical, distinct, replays⟩
    obtain ⟨paid, sound⟩ := accepted.sound injective
    exact ⟨log, accepted, (readEvents_iff distinctEvents).mp related,
      (balances_accepted_iff sound.units distinctItems).mp ⟨expected, balances, same⟩⟩
  · rintro ⟨log, replayed, related, balances⟩
    obtain ⟨paid, sound⟩ := replayed.sound injective
    obtain ⟨expected, restored, same⟩ := (balances_accepted_iff sound.units distinctItems).mpr balances
    refine ⟨expected, restored, (_, ledger), restoreEvents_eq_ok.mpr ⟨log,
      (readEvents_iff distinctEvents).mpr related, replayed.canonical, ⟨replayed.distinct, ?_⟩,
      replayed.replays, rfl⟩, same, rfl⟩
    exact fun _ _ => List.not_mem_nil

/-- `from_state` returns the ledger of the events that the state names, if it has the balances
that the state names. -/
theorem fromState_eq_ok (injective : Function.Injective (sha256 : String → String))
    {state : Json Unit} (distinct : state.Distinct) {ledger : FundingLedger} :
    fromState state = .ok ledger ↔
      ∃ log, Replayed log ledger ∧ state.normal = (stateOf log ledger).normal := by
  cases state with
  | obj members =>
      simp only [normal_stateOf_iff distinct.1]
      constructor
      · intro restored
        rw [fromState] at restored
        split at restored
        · cases restored
        next keys =>
        split at restored
        · cases restored
        next schema =>
        rw [Bool.not_eq_false] at keys
        rw [not_not] at schema
        split at restored
        next events items eventsFound itemsFound =>
          obtain ⟨log, replayed, same⟩ := (restore_eq_ok injective
            (Json.Distinct.get? distinct eventsFound) (Json.Distinct.get? distinct itemsFound)).mp
              restored
          exact ⟨log, replayed, keys, schema, events, items, eventsFound, itemsFound, same⟩
        · cases restored
      · rintro ⟨log, replayed, keys, schema, events, items, eventsFound, itemsFound, same⟩
        rw [fromState, if_neg (by simp [keys]), if_neg (by simp [schema]), eventsFound, itemsFound]
        exact (restore_eq_ok injective (Json.Distinct.get? distinct eventsFound)
          (Json.Distinct.get? distinct itemsFound)).mpr ⟨log, replayed, same⟩
  | null | bool _ | int _ | float _ | str _ | arr _ =>
      simp [fromState, stateOf, Json.normal]

/-! ## Exports -/

variable {ledger : FundingLedger} {log : List FundingEvent} {payments : List FundingPayment}

/-- A fingerprint and a period have one owner. -/
theorem Sound.owner (injective : Function.Injective (sha256 : String → String))
    (sound : Sound ledger log payments) {instrument period : String} {record : PeriodRecord}
    (found : ledger.periods.get? (instrument, period) = some record) :
    ledger.owners.get? (record.fingerprint, period) =
      some (instrument, record.currency, record.amount) := by
  apply Dict.get?_setAll_of_mem
  · rw [List.mem_map]
    exact ⟨((instrument, period), record), Dict.mem_entries.mpr found, rfl⟩
  · intro other listed
    rw [List.mem_map] at listed
    obtain ⟨⟨⟨otherInstrument, otherPeriod⟩, otherRecord⟩, held, same⟩ := listed
    simp only [Prod.mk.injEq] at same
    obtain ⟨⟨sameFingerprint, rfl⟩, rfl⟩ := same
    have otherFound := Dict.mem_entries.mp held
    have digest := sound.digests _ _ found
    have otherDigest := sound.digests _ _ otherFound
    rw [sameFingerprint] at otherDigest
    obtain ⟨sameInstrument, sameCurrency, sameAmount⟩ :=
      fingerprint_injective injective otherDigest digest
    dsimp only at sameInstrument
    rw [sameInstrument, sameCurrency, sameAmount]

theorem Sound.exportEvent (injective : Function.Injective (sha256 : String → String))
    (sound : Sound ledger log payments) {item : String × EventRecord} {event : FundingEvent}
    (logged : Logged ledger item event) : ledger.exportEvent item = .ok event.json := by
  rw [FundingLedger.exportEvent, sound.owner injective logged.owner]
  simp only [ne_eq, not_true_eq_false, if_false, logged.amount, translateExact,
    Except.mapError, ok_bind]
  rw [← logged.eventId, ← logged.period, ← logged.currency]
  rfl

theorem Sound.exportState (injective : Function.Injective (sha256 : String → String))
    (sound : Sound ledger log payments) : ∃ state, ledger.exportState = .ok state ∧
      state.normal = (stateOf log ledger).normal ∧ fromState state = .ok ledger := by
  have events : ledger.events.entries.mapM ledger.exportEvent =
      .ok (log.map FundingEvent.json) := by
    rw [mapM_eq_ok, List.forall₂_map_right_iff]
    exact sound.logged.imp fun _ _ logged => sound.exportEvent injective logged
  let state : Json Unit := .obj [("schema_version", .str "funding-ledger@1"),
    ("events", .arr (log.map FundingEvent.json)),
    ("balances", .obj ((ledger.balances.entries.insertionSort fun left right =>
      left.1 ≤ right.1).map balanceItem))]
  have distinct : state.Distinct := by
    rw [Json.Distinct, Json.distinctMembers_iff]
    constructor
    · simp
    · simp only [List.forall_mem_cons]
      refine ⟨trivial, ?_, distinct_balances _ ?_, by simp⟩
      · rw [Json.Distinct, Json.distinctItems_iff]
        intro value listed
        obtain ⟨event, -, rfl⟩ := List.mem_map.mp listed
        exact Json.ofTexts_distinct _
      · exact ((List.perm_insertionSort _ _).map Prod.fst).nodup_iff.mpr ledger.balances.nodup
  have normal : state.normal = (stateOf log ledger).normal := by
    rw [normal_stateOf_iff distinct.1]
    exact ⟨hasKeys_state, rfl, _, _, rfl, rfl, rfl, normal_sorted_balances ledger⟩
  have restored : fromState state = .ok ledger :=
    (fromState_eq_ok injective distinct).mpr ⟨log, sound.replayed, normal⟩
  refine ⟨state, ?_, normal, restored⟩
  rw [FundingLedger.exportState, events, ok_bind, exportBalances_eq, ok_bind]
  dsimp only
  rw [restored, ok_bind, Dict.same_iff.mpr fun _ => rfl, Dict.same_iff.mpr fun _ => rfl,
    Dict.same_iff.mpr fun _ => rfl]
  rfl

/-! ## The accumulator -/

/-- Two payments of one period are the same payment. -/
theorem Sound.single (sound : Sound ledger log payments) {first second : FundingPayment}
    (firstPaid : first ∈ payments) (secondPaid : second ∈ payments)
    (sameInstrument : first.instrument = second.instrument)
    (samePeriod : first.period = second.period) : first = second := by
  obtain ⟨digest, firstFound⟩ := (sound.payments first).mp firstPaid
  obtain ⟨otherDigest, secondFound⟩ := (sound.payments second).mp secondPaid
  rw [sameInstrument, samePeriod, secondFound, Option.some.injEq, PeriodRecord.mk.injEq]
    at firstFound
  obtain ⟨-, sameCurrency, sameAmount⟩ := firstFound
  cases first
  cases second
  dsimp only at sameInstrument samePeriod sameCurrency sameAmount
  rw [sameInstrument, samePeriod, ← sameCurrency, ← sameAmount]

/-- The periods of the ledger are the payments, each once. -/
theorem Sound.periods_perm (sound : Sound ledger log payments) :
    (ledger.periods.entries.map periodPayment).Perm payments.dedup := by
  rw [List.perm_ext_iff_of_nodup _ (List.nodup_dedup _)]
  · intro payment
    rw [List.mem_dedup, sound.payments, List.mem_map]
    constructor
    · rintro ⟨⟨⟨instrument, period⟩, digest, currency, amount⟩, held, rfl⟩
      exact ⟨digest, Dict.mem_entries.mp held⟩
    · rintro ⟨digest, found⟩
      exact ⟨_, Dict.mem_entries.mpr found, rfl⟩
  · apply List.Nodup.of_map fun payment : FundingPayment => (payment.instrument, payment.period)
    rw [List.map_map]
    exact ledger.periods.nodup

/-- A balance is the sum of the payments in its currency, each once. -/
theorem Sound.balance (sound : Sound ledger log payments) {currency : String}
    (nonempty : strip currency ≠ "") : ∃ value, ledger.balance currency = .ok value ∧
      value.toRat = totalOf payments.dedup (upper (strip currency)) := by
  refine ⟨(ledger.balances.get? (upper (strip currency))).getD 0, ?_, ?_⟩
  · rw [FundingLedger.balance, text_eq_ok.mpr ⟨nonempty, rfl⟩]
    rfl
  · rw [sound.sums, totalOf_perm sound.periods_perm]

/-- Whatever the calls, a balance is the sum over the funding periods that were paid in its
currency, each once and each with one amount; a call that raises changes nothing; the ledger is
exported and restored from its checkpoint; and only checkpoints of such ledgers are restored. -/
theorem funding_ledger_counts_once (injective : Function.Injective (sha256 : String → String))
    (calls : List FundingCall) :
    (∀ currency, strip currency ≠ "" → ∃ value,
      (empty.ledgerAfter calls).balance currency = .ok value ∧
        value.toRat = totalOf (empty.paid calls).dedup (upper (strip currency))) ∧
    (∀ first ∈ empty.paid calls, ∀ second ∈ empty.paid calls,
      first.instrument = second.instrument → first.period = second.period → first = second) ∧
    (∀ call error later, (apply call).on (empty.ledgerAfter calls) = (.error error, later) →
      later = empty.ledgerAfter calls) ∧
    (∃ state, (empty.ledgerAfter calls).exportState = .ok state ∧
      fromState state = .ok (empty.ledgerAfter calls)) ∧
    ∀ state : Json Unit, state.Distinct → ((∃ restored, fromState state = .ok restored) ↔
      ∃ others exported, (empty.ledgerAfter others).exportState = .ok exported ∧
        state.normal = exported.normal) := by
  obtain ⟨log, sound⟩ := exists_sound injective calls
  refine ⟨fun currency nonempty => sound.balance nonempty, ?_, ?_, ?_, ?_⟩
  · intro first firstPaid second secondPaid sameInstrument samePeriod
    exact sound.single firstPaid secondPaid sameInstrument samePeriod
  · intro call error later raised
    exact apply_atomic call _ error later raised
  · obtain ⟨state, exported, -, restored⟩ := sound.exportState injective
    exact ⟨state, exported, restored⟩
  · intro state distinct
    constructor
    · rintro ⟨restored, accepted⟩
      obtain ⟨events, replayed, same⟩ := (fromState_eq_ok injective distinct).mp accepted
      obtain ⟨paid, restoredSound⟩ := replayed.sound injective
      obtain ⟨exported, exportedEq, normal, -⟩ := restoredSound.exportState injective
      refine ⟨events.map FundingEvent.call, exported, ?_, same.trans normal.symm⟩
      rw [ledgerAfter_of_replays replayed.replays]
      exact exportedEq
    · rintro ⟨others, exported, exportedEq, same⟩
      obtain ⟨events, otherSound⟩ := exists_sound injective others
      obtain ⟨written, writtenEq, normal, -⟩ := otherSound.exportState injective
      rw [writtenEq, Except.ok.injEq] at exportedEq
      subst exportedEq
      exact ⟨_, (fromState_eq_ok injective distinct).mpr
        ⟨events, otherSound.replayed, same.trans normal⟩⟩

end States

/-- Two events of one period, an event that is used again for another period, and an event of
another period. -/
def sampleCalls : List FundingCall :=
  [⟨"event-1", "period-1", "PERP", "usd", .text "1.50"⟩,
    ⟨"event-2", "period-1", "PERP", "USD", .text "1.5"⟩,
    ⟨"event-1", "period-2", "PERP", "USD", .text "1.5"⟩,
    ⟨"event-3", "period-2", "PERP", "USD", .text "-0.5"⟩]

/-- The balance of the sample calls. -/
theorem sample_counts_once :
    let := CaseMap.ascii
    let := Fingerprint.plain
    ∀ currency, strip currency ≠ "" → ∃ value,
      (empty.ledgerAfter sampleCalls).balance currency = .ok value ∧
        value.toRat = totalOf (empty.paid sampleCalls).dedup (upper (strip currency)) := by
  let := CaseMap.ascii
  let := Fingerprint.plain
  exact (funding_ledger_counts_once (fun _ _ same => same) sampleCalls).1

end FundingLedger

end AutoTrade.Perpetuals
