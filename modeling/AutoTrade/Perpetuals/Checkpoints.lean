import AutoTrade.Perpetuals.Booked

/-!
# Funding checkpoints

A checkpoint names the events of a ledger in their order and its balances.  `from_state`
returns a ledger exactly when it is the ledger of the events and has the balances, and
`export_state` names the events that the ledger has booked.
-/

namespace AutoTrade.Perpetuals

open Lib Numeric

attribute [local instance] FloatText.none

/-! ## Texts of amounts -/

/-- The text of an amount. -/
def amountText (value : Decimal) : String := value.canonicalText.toOption.getD ""

theorem canonicalText_eq_ok {value : Decimal} {written : String} :
    value.canonicalText = .ok written ↔ amountText value = written := by
  obtain ⟨found, foundEq, -⟩ := value.exists_canonicalText
  rw [amountText, foundEq, Except.ok.injEq]
  rfl

theorem amountText_injective : Function.Injective amountText := by
  intro left right same
  exact canonicalText_injective (canonicalText_eq_ok.mpr same) (canonicalText_eq_ok.mpr rfl)

/-! ## Events -/

namespace FundingEvent

theorem get?_texts (event : FundingEvent) (key : String) : event.texts.get? key =
    if "event_id" = key then some event.eventId
    else if "funding_period_id" = key then some event.fundingPeriodId
    else if "instrument_id" = key then some event.instrumentId
    else if "currency" = key then some event.currency
    else if "amount" = key then some event.amount else none := rfl

end FundingEvent

theorem hasKeys_iff {keys expected : List String} :
    hasKeys keys expected = true ↔ ∀ key, key ∈ keys ↔ key ∈ expected := by
  rw [hasKeys, decide_eq_true_eq]
  constructor
  · intro both key
    exact ⟨both.1 key, both.2 key⟩
  · intro same
    exact ⟨fun key => (same key).mp, fun key => (same key).mpr⟩

/-- An event is read exactly from its members, in any order. -/
theorem readEvent_eq_some {value : Json Unit} (distinct : value.Distinct) {event : FundingEvent} :
    readEvent value = some event ↔ value.normal = event.json.normal := by
  constructor
  · intro read
    rw [readEvent] at read
    split at read
    · cases read
    next texts found =>
      split at read
      next shaped =>
        rw [Json.texts?_eq_some found, FundingEvent.json, Json.normal_ofTexts_eq_iff]
        rw [hasKeys_iff] at shaped
        cases read
        funext key
        rw [FundingEvent.get?_texts]
        have present : ∀ name ∈ FundingEvent.keys, texts.get? name =
            some ((texts.get? name).getD "") := by
          intro name member
          obtain ⟨text, textEq⟩ := Dict.mem_keys.mp ((shaped name).mpr member)
          rw [textEq, Option.getD_some]
        by_cases member : key ∈ FundingEvent.keys
        · rw [present key member]
          simp only [FundingEvent.keys, List.mem_cons, List.not_mem_nil, or_false] at member
          rcases member with rfl | rfl | rfl | rfl | rfl <;> simp
        · rw [Dict.get?_eq_none.mpr (mt (shaped key).mp member)]
          simp only [FundingEvent.keys, List.mem_cons, List.not_mem_nil, or_false, not_or] at member
          simp only [@eq_comm String _ key, member, if_false]
      · cases read
  · intro same
    obtain ⟨others, rfl, lookups⟩ := Json.exists_ofTexts_of_normal distinct same
    have shaped : hasKeys others.keys FundingEvent.keys = true := by
      rw [hasKeys_iff]
      intro key
      rw [Dict.mem_keys, lookups, ← Dict.mem_keys]
      rfl
    rw [readEvent, Json.texts?_ofTexts]
    dsimp only
    rw [if_pos shaped, lookups]
    simp [FundingEvent.get?_texts]

/-- The events of a checkpoint are read in their order. -/
theorem readEvents_iff {values : List (Json Unit)} (distinct : ∀ value ∈ values, value.Distinct)
    {log : List FundingEvent} :
    List.Forall₂ (fun value event => readEvent value = some event) values log ↔
      (Json.arr values).normal = (Json.arr (log.map FundingEvent.json)).normal := by
  rw [Json.normal_arr_eq_iff, List.map_map, ← List.forall₂_eq_eq_eq, List.forall₂_map_left_iff,
    List.forall₂_map_right_iff]
  induction values generalizing log with
  | nil =>
      rw [List.forall₂_nil_left_iff, List.forall₂_nil_left_iff]
  | cons value rest ih =>
      rw [List.forall_mem_cons] at distinct
      cases log with
      | nil => simp
      | cons event later =>
          rw [List.forall₂_cons, List.forall₂_cons, ih distinct.2, readEvent_eq_some distinct.1]
          rfl

namespace FundingLedger

/-! ## Balances -/

/-- The balances as texts. -/
def balanceTexts (ledger : FundingLedger) : Dict String String :=
  ledger.balances.mapValues amountText

/-- A unit that `from_state` accepts. -/
def UnitText [CaseMap] (unit : String) : Prop := Normal unit ∧ upper unit = unit

/-- The entry of a checkpoint for a balance. -/
def balanceItem (entry : String × Decimal) : String × Json Unit :=
  (entry.1, .str (amountText entry.2))

theorem find?_map_balanceItem (entries : List (String × Decimal)) (key : String) :
    Dict.find? key (entries.map balanceItem) =
      (Dict.find? key entries).map fun value => .str (amountText value) := by
  induction entries with
  | nil => rfl
  | cons entry rest ih =>
      obtain ⟨unit, value⟩ := entry
      rw [List.map_cons, balanceItem, Dict.find?, Dict.find?, ih]
      split <;> rfl

/-- The items under which the balances are found are those of the ledger. -/
theorem normal_balanceTexts_iff {ledger : FundingLedger} {entries : List (String × Decimal)}
    (nodup : (entries.map Prod.fst).Nodup) :
    (Json.obj (entries.map balanceItem)).normal = (Json.ofTexts ledger.balanceTexts).normal ↔
      ∀ unit, Dict.find? unit entries = ledger.balances.get? unit := by
  have items : Json.ofTexts ledger.balanceTexts =
      (.obj (ledger.balances.entries.map balanceItem) : Json Unit) := by
    rw [Json.ofTexts, balanceTexts, Dict.mapValues, List.map_map]
    rfl
  have keys : ∀ others : List (String × Decimal),
      (others.map balanceItem).map Prod.fst = others.map Prod.fst := by
    intro others
    rw [List.map_map]
    rfl
  rw [items, Json.normal_obj_eq_iff (keys _ ▸ nodup) (keys _ ▸ ledger.balances.nodup)]
  apply forall_congr'
  intro unit
  rw [find?_map_balanceItem, find?_map_balanceItem, ← Dict.get?]
  have injective : Function.Injective fun value => (.str (amountText value) : Json Unit).normal := by
    intro left right same
    simp only [Json.normal, Json.str.injEq] at same
    exact amountText_injective same
  rw [Option.map_map, Option.map_map]
  exact (Option.map_injective injective).eq_iff

section Balances

variable [CaseMap]

theorem restoreBalance_eq_ok {balances next : Dict String Decimal} {item : String × Json Unit} :
    restoreBalance balances item = .ok next ↔
      ∃ entry, item = balanceItem entry ∧ UnitText entry.1 ∧
        next = balances.set entry.1 entry.2 := by
  obtain ⟨unit, value⟩ := item
  unfold restoreBalance
  constructor
  · intro restored
    split at restored
    next amount isText =>
      dsimp only at isText restored
      simp only [bind_eq_ok, throw_unless_eq_ok, pure_eq_ok, translateExact_eq_ok, not_not]
        at restored
      obtain ⟨found, foundEq, same, amountValue, read, written, writtenEq, equal, rfl⟩ := restored
      subst equal
      have normal := normal_upper (text_normal foundEq)
      rw [same] at normal
      refine ⟨(unit, amountValue), ?_, ⟨normal, ?_⟩, ?_⟩
      · rw [isText, balanceItem, canonicalText_eq_ok.mp writtenEq]
      · rw [← same, CaseMap.upper_upper]
      · rw [same]
    · cases restored
  · rintro ⟨⟨unit', amount⟩, same, ⟨normal, uppercase⟩, rfl⟩
    cases same
    dsimp only at normal uppercase ⊢
    have written : amount.canonicalText = .ok (amountText amount) := canonicalText_eq_ok.mpr rfl
    rw [text_of_normal _ normal, ok_bind, uppercase, decimal_canonicalText written, ok_bind, written]
    simp [translateExact, Except.mapError]

theorem restoreBalances_eq_ok {items : List (String × Json Unit)}
    {start expected : Dict String Decimal} :
    items.foldlM restoreBalance start = .ok expected ↔
      ∃ entries, items = entries.map balanceItem ∧ (∀ entry ∈ entries, UnitText entry.1) ∧
        expected = start.setAll entries := by
  induction items generalizing start with
  | nil =>
      rw [List.foldlM_nil, pure_eq_ok]
      constructor
      · intro same
        exact ⟨[], rfl, by simp, same.symm⟩
      · rintro ⟨entries, none, -, rfl⟩
        rw [List.map_eq_nil_iff.mp none.symm]
        rfl
  | cons item rest ih =>
      rw [List.foldlM_cons, bind_eq_ok]
      constructor
      · rintro ⟨next, first, later⟩
        obtain ⟨entry, rfl, canonical, rfl⟩ := restoreBalance_eq_ok.mp first
        obtain ⟨entries, rfl, canonicals, rfl⟩ := ih.mp later
        exact ⟨entry :: entries, rfl, List.forall_mem_cons.mpr ⟨canonical, canonicals⟩, rfl⟩
      · rintro ⟨entries, same, canonicals, rfl⟩
        cases entries with
        | nil => cases same
        | cons entry later =>
            rw [List.map_cons, List.cons.injEq] at same
            obtain ⟨rfl, rfl⟩ := same
            rw [List.forall_mem_cons] at canonicals
            exact ⟨_, restoreBalance_eq_ok.mpr ⟨entry, rfl, canonicals.1, rfl⟩,
              ih.mpr ⟨later, rfl, canonicals.2, rfl⟩⟩

/-- The items of a checkpoint are accepted exactly when they are the balances of the ledger. -/
theorem balances_accepted_iff {items : List (String × Json Unit)} {ledger : FundingLedger}
    (units : ∀ unit ∈ ledger.balances.keys, UnitText unit) (distinct : (Json.obj items).Distinct) :
    (∃ expected, items.foldlM restoreBalance ∅ = .ok expected ∧
        ledger.balances.same expected = true) ↔
      (Json.obj items).normal = (Json.ofTexts ledger.balanceTexts).normal := by
  have nodup := distinct.1
  have found : ∀ entries : List (String × Decimal), (entries.map Prod.fst).Nodup → ∀ unit,
      ((∅ : Dict String Decimal).setAll entries).get? unit = Dict.find? unit entries := by
    intro entries entriesNodup unit
    rw [Dict.get?, Dict.entries_setAll_empty entriesNodup]
  constructor
  · rintro ⟨expected, restored, same⟩
    obtain ⟨entries, rfl, -, rfl⟩ := restoreBalances_eq_ok.mp restored
    rw [List.map_map] at nodup
    apply (normal_balanceTexts_iff nodup).mpr
    intro unit
    rw [Dict.same_iff.mp same, found entries nodup]
  · intro same
    obtain ⟨texts, itemsEq, lookups⟩ := Json.exists_ofTexts_of_normal distinct same
    -- the amounts of the items are those of the ledger
    have amounts : ∀ entry ∈ texts.entries, ∃ value, ledger.balances.get? entry.1 = some value ∧
        amountText value = entry.2 := by
      intro entry member
      have held := Dict.mem_entries.mp member
      rw [lookups, balanceTexts, Dict.get?_mapValues, Option.map_eq_some_iff] at held
      exact held
    let amountOf : String × String → String × Decimal :=
      fun entry => (entry.1, (ledger.balances.get? entry.1).getD 0)
    have written : items = (texts.entries.map amountOf).map balanceItem := by
      rw [Json.ofTexts, Json.obj.injEq] at itemsEq
      rw [itemsEq, List.map_map]
      apply List.map_congr_left
      intro entry member
      obtain ⟨value, valueEq, textEq⟩ := amounts entry member
      simp only [Function.comp_apply, amountOf, balanceItem, valueEq, Option.getD_some, textEq]
    have canonical : ∀ entry ∈ texts.entries.map amountOf, UnitText entry.1 := by
      intro entry member
      obtain ⟨text, listed, rfl⟩ := List.mem_map.mp member
      obtain ⟨value, valueEq, -⟩ := amounts text listed
      exact units _ (Dict.mem_keys.mpr ⟨value, valueEq⟩)
    refine ⟨_, restoreBalances_eq_ok.mpr ⟨_, written, canonical, rfl⟩, ?_⟩
    rw [written, List.map_map] at nodup
    rw [written] at same
    rw [Dict.same_iff]
    intro unit
    rw [found _ nodup, (normal_balanceTexts_iff nodup).mp same]

end Balances

/-! ## Ledgers -/

section Restoring

variable [CaseMap] [Fingerprint]

theorem restoreEvent_eq_ok {seen ids : List String} {ledger next : FundingLedger}
    {value : Json Unit} : restoreEvent (seen, ledger) value = .ok (ids, next) ↔
      ∃ event, readEvent value = some event ∧ Canonical event ∧ event.eventId ∉ seen ∧
        ledger.applied event.call = .ok next ∧ ids = seen ++ [event.eventId] := by
  unfold restoreEvent
  split
  next unread => simp [unread]
  next event read =>
    rw [throw_unless_eq_ok, throw_unless_eq_ok]
    simp only [bind_eq_ok, throw_unless_eq_ok, pure_eq_ok, translateExact_eq_ok, read,
      Option.some.injEq, exists_eq_left', Prod.mk.injEq, not_or, not_exists, not_and, not_not]
    constructor
    · rintro ⟨⟨normal, uppercase⟩, fresh, value, valueEq, written, writtenEq, same, after,
        appliedEq, idsEq, rfl⟩
      subst same
      exact ⟨⟨fun field member => normal field member, uppercase.symm, value, writtenEq⟩, fresh,
        appliedEq, idsEq.symm⟩
    · rintro ⟨⟨normal, uppercase, value, writtenEq⟩, fresh, appliedEq, idsEq⟩
      exact ⟨⟨fun field member => normal field member, uppercase.symm⟩, fresh, value,
        decimal_canonicalText writtenEq, _, writtenEq, rfl, next, appliedEq, idsEq.symm, rfl⟩

/-- The events of a checkpoint: canonical, each id once, and applied in their order. -/
structure Replayed (log : List FundingEvent) (ledger : FundingLedger) : Prop where
  canonical : ∀ event ∈ log, Canonical event
  distinct : (log.map FundingEvent.eventId).Nodup
  replays : log.foldlM (fun current event => current.applied event.call) empty = .ok ledger

theorem restoreEvents_eq_ok {values : List (Json Unit)} {seen ids : List String}
    {start ledger : FundingLedger} :
    values.foldlM restoreEvent (seen, start) = .ok (ids, ledger) ↔
      ∃ log, List.Forall₂ (fun value event => readEvent value = some event) values log ∧
        (∀ event ∈ log, Canonical event) ∧
        ((log.map FundingEvent.eventId).Nodup ∧ ∀ event ∈ log, event.eventId ∉ seen) ∧
        log.foldlM (fun current event => current.applied event.call) start = .ok ledger ∧
        ids = seen ++ log.map FundingEvent.eventId := by
  induction values generalizing seen start with
  | nil =>
      rw [List.foldlM_nil, pure_eq_ok, Prod.mk.injEq]
      constructor
      · rintro ⟨rfl, rfl⟩
        exact ⟨[], .nil, by simp, by simp, rfl, by simp⟩
      · rintro ⟨log, related, -, -, replays, rfl⟩
        cases related
        cases replays
        simp
  | cons value rest ih =>
      rw [List.foldlM_cons, bind_eq_ok]
      constructor
      · rintro ⟨⟨between, next⟩, first, later⟩
        obtain ⟨event, read, canonical, fresh, appliedEq, rfl⟩ := restoreEvent_eq_ok.mp first
        obtain ⟨log, related, canonicals, ⟨nodup, unseen⟩, replays, rfl⟩ := ih.mp later
        refine ⟨event :: log, .cons read related, ?_, ⟨?_, ?_⟩, ?_, ?_⟩
        · exact List.forall_mem_cons.mpr ⟨canonical, canonicals⟩
        · rw [List.map_cons, List.nodup_cons]
          constructor
          · intro member
            obtain ⟨other, listed, same⟩ := List.mem_map.mp member
            apply unseen other listed
            rw [same]
            exact List.mem_append_right _ (List.mem_singleton_self _)
          · exact nodup
        · rw [List.forall_mem_cons]
          constructor
          · exact fresh
          · intro other listed known
            exact unseen other listed (List.mem_append_left _ known)
        · rw [List.foldlM_cons, appliedEq]
          exact replays
        · rw [List.map_cons, List.append_assoc]
          rfl
      · rintro ⟨log, related, canonicals, ⟨nodup, unseen⟩, replays, rfl⟩
        cases related with
        | cons read related =>
            rw [List.foldlM_cons, bind_eq_ok] at replays
            obtain ⟨next, appliedEq, replays⟩ := replays
            rw [List.forall_mem_cons] at canonicals unseen
            rw [List.map_cons, List.nodup_cons] at nodup
            refine ⟨(_, next), restoreEvent_eq_ok.mpr
              ⟨_, read, canonicals.1, unseen.1, appliedEq, rfl⟩, ih.mpr ?_⟩
            refine ⟨_, related, canonicals.2, ⟨nodup.2, ?_⟩, replays, ?_⟩
            · intro other listed known
              rcases List.mem_append.mp known with earlier | same
              · exact unseen.2 other listed earlier
              · rw [List.mem_singleton] at same
                exact nodup.1 (same ▸ List.mem_map_of_mem listed)
            · rw [List.map_cons, List.append_assoc]
              rfl

end Restoring

end FundingLedger

end AutoTrade.Perpetuals
