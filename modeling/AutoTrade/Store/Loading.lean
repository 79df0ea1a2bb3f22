import AutoTrade.Store.Integrity

/-!
# Loading from sound tables

Every reader of events and of the outbox succeeds on sound tables, in the order
of the journal.
-/

namespace AutoTrade.Store.Tables

open Lib

theorem requireText_of_normal {text : String} (normal : Normal text) (name : String) :
    requireText text name = .ok text := by
  rw [requireText, normal.1, if_neg normal.2]

theorem isSpace_of_isHexDigit {character : Char} (hexadecimal : isHexDigit character = true) :
    isSpace character = false := by
  simp only [isHexDigit, Char.isDigit, Char.le_def, UInt32.le_iff_toNat_le, Bool.or_eq_true,
    Bool.and_eq_true, decide_eq_true_eq] at hexadecimal
  change (48 ≤ character.toNat ∧ character.toNat ≤ 57 ∨
    97 ≤ character.toNat ∧ character.toNat ≤ 102) ∨
      65 ≤ character.toNat ∧ character.toNat ≤ 70 at hexadecimal
  apply isSpace_eq_false <;> omega

/-- An outbox id is canonical text. -/
theorem normal_outboxId [Fingerprint] (hex : HexDigests) (eventId : String) :
    Normal (outboxId eventId) := by
  apply normal_of_forall
  · intro empty
    have characters := congrArg String.toList empty
    rw [outboxId, String.toList_append] at characters
    cases (List.append_eq_nil_iff.mp characters).1
  · intro character member
    rw [outboxId, String.toList_append, List.mem_append] at member
    rcases member with mark | taken
    · have kept : ∀ character ∈ "outbox-".toList, isSpace character = false :=
        List.all_iff_forall_prop.mp (by decide)
      exact kept character mark
    · rw [String.toList_ofList] at taken
      exact isSpace_of_isHexDigit (hex eventId character (List.mem_of_mem_take taken))

/-- The events of a page follow each other when their rows do. -/
theorem checkPage_of_forall₂ {F : Type} [DecidableEq F] {rows : List EventRow}
    {events : List (Json F)} {expected : Nat}
    (shown : List.Forall₂ (fun row event =>
      event.get? "journal_sequence" = some (.int (EventRow.journalSequence row))) rows events)
    (numbered : rows.map EventRow.journalSequence = List.range' expected rows.length) :
    checkPage expected events = .ok () := by
  induction shown generalizing expected with
  | nil => rfl
  | @cons row event rest others head _ ih =>
      rw [List.map_cons, List.length_cons, List.range'_succ, List.cons.injEq] at numbered
      rw [checkPage, head, numbered.1, if_neg (not_not.mpr rfl)]
      exact ih numbered.2

/-! ## Pending rows -/

/-- The publications are rows of the outbox. -/
theorem publications_sublist (tables : Tables) :
    (tables.publications.map Prod.fst).Sublist tables.outbox := by
  rw [publications]
  generalize tables.outbox = rows
  induction rows with
  | nil => exact .slnil
  | cons row rest ih =>
      rw [List.filterMap_cons]
      cases tables.eventRow? row.eventId with
      | none => exact ih.cons row
      | some event => exact ih.cons_cons row

theorem mem_of_mem_pendingRows {tables : Tables} {limit : Nat} {item : OutboxRow × EventRow}
    (member : item ∈ tables.pendingRows limit) : item ∈ tables.publications := by
  have sorted := List.mem_of_mem_take member
  rw [List.mem_insertionSort] at sorted
  exact (List.mem_filter.mp sorted).1

/-- Every undelivered publication is pending within a limit that fits them all. -/
theorem mem_pendingRows {tables : Tables} {limit : Nat} {item : OutboxRow × EventRow}
    (member : item ∈ tables.publications) (undelivered : item.1.deliveredAt = none)
    (fits : (tables.outbox.filter fun row => row.deliveredAt.isNone).length ≤ limit) :
    item ∈ tables.pendingRows limit := by
  have shorter : (tables.publications.filter fun item => item.1.deliveredAt.isNone).length ≤
      limit := by
    apply le_trans _ fits
    have rows := (tables.publications_sublist.filter fun row => row.deliveredAt.isNone).length_le
    rw [List.filter_map, List.length_map] at rows
    exact rows
  rw [pendingRows, List.take_of_length_le (by rw [List.length_insertionSort]; exact shorter),
    List.mem_insertionSort, List.mem_filter]
  refine ⟨member, ?_⟩
  rw [undelivered]
  rfl

section Rows

variable {F : Type} [FloatText F] [TextFormats] [Fingerprint] {tables : Tables}

/-- The published event of an outbox row. -/
theorem Journaled.mem_publications (journaled : Journaled F tables) {row : OutboxRow}
    {event : EventRow} : (row, event) ∈ tables.publications ↔
      row ∈ tables.outbox ∧ event ∈ tables.events ∧ Publishes F row event := by
  rw [publications, List.mem_filterMap]
  constructor
  · rintro ⟨other, member, found⟩
    rw [Option.map_eq_some_iff] at found
    obtain ⟨event', known, same⟩ := found
    rw [Prod.mk.injEq] at same
    obtain ⟨rfl, rfl⟩ := same
    obtain ⟨stored, listed, publishes⟩ := journaled.published other member
    rw [publishes.eventId, journaled.eventRow? listed, Option.some.injEq] at known
    subst known
    exact ⟨member, listed, publishes⟩
  · rintro ⟨member, listed, publishes⟩
    refine ⟨row, member, ?_⟩
    rw [publishes.eventId, journaled.eventRow? listed, Option.map_some]

variable [DecidableEq F]

/-- A row of an admitted envelope shows it. -/
theorem Journaled.decodeRow (journaled : Journaled F tables) {row : EventRow}
    (member : row ∈ tables.events) {envelope : Detached F}
    (admits : Admits envelope.value row.toEventCore) :
    ∃ decoded, Tables.decodeRow row = .ok decoded ∧
      Shows envelope.value row.toEventCore (some row.journalSequence) decoded := by
  have positive := journaled.positions.pos member
  refine ⟨_, admits.decodeEventRow envelope.distinct ?_, admits.shows envelope.distinct _⟩
  rw [ne_eq, Option.some.injEq]
  exact Nat.pos_iff_ne_zero.mp positive

/-- Any rows of the journal are decoded. -/
theorem Journaled.exists_mapM_decodeRow (journaled : Journaled F tables) {rows : List EventRow}
    (stored : rows ⊆ tables.events) :
    ∃ events : List (Json F), rows.mapM Tables.decodeRow = .ok events := by
  apply exists_mapM
  intro row member
  obtain ⟨envelope, admits⟩ := journaled.admitted row (stored member)
  obtain ⟨decoded, read, _⟩ := journaled.decodeRow (stored member) admits
  exact ⟨decoded, read⟩

/-- `get_event` on a stored row. -/
theorem Journaled.getEvent (journaled : Journaled F tables) {row : EventRow}
    (member : row ∈ tables.events) {envelope : Detached F}
    (admits : Admits envelope.value row.toEventCore) {decoded : Json F}
    (read : Tables.decodeRow row = .ok decoded) :
    tables.getEvent row.eventId = .ok (some decoded) := by
  simp only [Tables.getEvent, requireText_of_normal admits.eventIdNormal, ok_bind,
    journaled.eventRow? member, read]
  rfl

/-- `load_events` decodes the rows of an aggregate in the order of the journal. -/
theorem Journaled.loadEvents (journaled : Journaled F tables)
    {aggregateType aggregateId : String} (typeNormal : Normal aggregateType)
    (idNormal : Normal aggregateId) :
    ∃ events : List (Json F), tables.loadEvents aggregateType aggregateId = .ok events ∧
      List.Forall₂ (fun row event => Tables.decodeRow row = .ok event)
        (tables.rowsOf aggregateType aggregateId) events := by
  obtain ⟨events, read⟩ := journaled.exists_mapM_decodeRow (List.filter_subset_self ..)
  refine ⟨events, ?_, mapM_eq_ok.mp read⟩
  simp only [Tables.loadEvents, requireText_of_normal typeNormal, requireText_of_normal idNormal,
    ok_bind]
  rw [(journaled.versions aggregateType aggregateId).insertionSort_eq]
  exact read

/-- A page after a cut is decoded. -/
theorem Journaled.loadEventsAfterJournalSequence (journaled : Journaled F tables)
    {cursor limit : Nat} (reached : cursor ≤ tables.events.length) (positive : 0 < limit)
    (bounded : limit ≤ 100000) :
    ∃ events : List (Json F), tables.loadEventsAfterJournalSequence cursor limit = .ok events ∧
      List.Forall₂ (fun row event => Tables.decodeRow row = .ok event)
        ((tables.events.drop cursor).take limit) events := by
  have stored : (tables.events.drop cursor).take limit ⊆ tables.events :=
    fun row member => List.mem_of_mem_drop (List.mem_of_mem_take member)
  obtain ⟨events, read⟩ := journaled.exists_mapM_decodeRow stored
  have shown : List.Forall₂ (fun row event =>
      event.get? "journal_sequence" = some (.int (EventRow.journalSequence row)))
        ((tables.events.drop cursor).take limit) events := by
    apply ((List.forall₂_and_left _ _).mpr ⟨stored, mapM_eq_ok.mp read⟩).imp
    rintro row event ⟨member, decoded⟩
    obtain ⟨envelope, admits⟩ := journaled.admitted row member
    obtain ⟨_, again, shows⟩ := journaled.decodeRow member admits
    rw [decoded, Except.ok.injEq] at again
    subst again
    exact shows.journalSequence _ rfl
  have page : checkPage (cursor + 1) events = .ok () := by
    exact checkPage_of_forall₂ shown (journaled.positions.map_page cursor limit)
  have sorted : ((tables.events.filter fun row => cursor < row.journalSequence).insertionSort
      fun left right => left.journalSequence ≤ right.journalSequence) =
        tables.events.drop cursor := by
    rw [journaled.positions.filter_lt]
    exact ((journaled.positions.pairwise_lt.imp Nat.le_of_lt).drop).insertionSort_eq
  refine ⟨events, ?_, mapM_eq_ok.mp read⟩
  simp only [Tables.loadEventsAfterJournalSequence, journaled.journalSequenceValue, ok_bind,
    sorted, read, page, Nat.not_lt.mpr positive, Nat.not_lt.mpr bounded, Nat.not_lt.mpr reached,
    or_self, ↓reduceIte]
  rfl

/-! ## The outbox -/

/-- A publication is delivered with the content of its envelope. -/
theorem Publishes.pendingEntry {row : OutboxRow} {event : EventRow}
    (publishes : Publishes F row event) (hex : HexDigests) {envelope : Detached F}
    (admits : Admits envelope.value event.toEventCore) :
    Tables.pendingEntry row event = .ok ⟨row.outboxId, event.eventId, row.topic,
      envelope.content, row.createdAt, row.envelopeHash⟩ := by
  have decoded := admits.decodeEventRow envelope.distinct (by decide : none ≠ some 0)
  have shown : payloadOf (update envelope.value.normal (decodedFields event.toEventCore none
      (payloadOf envelope.value).normal)) = (payloadOf envelope.value).normal := by
    rw [payloadOf, (admits.shows envelope.distinct none).payload, Option.getD_some]
  have core := admits.checkCore_eq_ok envelope.distinct
  have payload := loadCanonical_written envelope.distinct admits.written
  have hash : checkOutboxHash F row = .ok () := by
    simp only [checkOutboxHash, requireCanonicalColumn_eq_ok.mpr publishes.topic,
      publishes.envelopeHash, ok_bind, ne_eq, not_true_eq_false, ↓reduceIte]
    rfl
  have checked : checkPublication row event = .ok envelope.content := by
    simp only [checkPublication, decoded, ok_bind, publishes.payloadJson, payload, shown, core,
      ne_eq, not_true_eq_false, ↓reduceIte]
    rfl
  have outboxIdNormal : Normal row.outboxId := by
    rw [publishes.outboxId]
    exact normal_outboxId hex _
  simp only [Tables.pendingEntry, hash, checked, ok_bind,
    requireCanonicalColumn_eq_ok.mpr outboxIdNormal,
    requireCanonicalColumn_eq_ok.mpr publishes.createdAt]
  rfl

/-- `pending_outbox` returns the entries of its rows. -/
theorem Journaled.pendingOutbox (journaled : Journaled F tables) (hex : HexDigests)
    {limit : Nat} (positive : 0 < limit) (bounded : limit ≤ 1000) :
    ∃ entries : List (PendingEntry F), tables.pendingOutbox limit = .ok entries ∧
      List.Forall₂ (fun item entry => Tables.pendingEntry item.1 item.2 = .ok entry)
        (tables.pendingRows limit) entries := by
  have each : ∀ item ∈ tables.pendingRows limit, ∃ entry : PendingEntry F,
      Tables.pendingEntry item.1 item.2 = .ok entry := by
    intro item member
    obtain ⟨_, known, publishes⟩ :=
      journaled.mem_publications.mp (mem_of_mem_pendingRows member)
    obtain ⟨envelope, admits⟩ := journaled.admitted item.2 known
    exact ⟨_, publishes.pendingEntry hex admits⟩
  obtain ⟨entries, read⟩ := exists_mapM each
  refine ⟨entries, ?_, mapM_eq_ok.mp read⟩
  rw [Tables.pendingOutbox, if_neg]
  · exact read
  · rintro (below | above)
    · exact Nat.not_lt.mpr positive below
    · exact Nat.not_lt.mpr bounded above

end Rows

end AutoTrade.Store.Tables
