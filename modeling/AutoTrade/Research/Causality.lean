import AutoTrade.Research.EventFacts

/-!
# Causal histories

The history by a cutoff depends on the set of events known by then and on
nothing else: not on their order, on repetitions, or on later events.
-/

namespace AutoTrade.Research

open Lib Provider Reconciliation

theorem visible_iff {facts : EventFacts} {point : Instant} :
    facts.visible point = true ↔ facts.knowledge ≤ point := by
  simp [EventFacts.visible, EventFacts.knowledge, and_assoc]

section Known

variable {π F : Type} [PythonObject F π] [IsoFormat] [UuidFormat]

/-- The event passes its checks. -/
def Passes (event : RawEvent π) : Prop := ∃ facts, readEvent event = .ok facts

/-- The event is known by the cutoff. -/
def knownBy (point : Instant) (event : RawEvent π) : Bool :=
  match readEvent event with
  | .ok facts => facts.knowledge ≤ point
  | .error _ => false

theorem knownBy_iff {point : Instant} {event : RawEvent π} :
    knownBy point event = true ↔
      ∃ facts, readEvent event = .ok facts ∧ facts.knowledge ≤ point := by
  rw [knownBy]
  cases readEvent event with
  | error error => simp
  | ok facts => simp

theorem knownBy_mono {earlier later : Instant} (ordered : earlier ≤ later) {event : RawEvent π}
    (known : knownBy earlier event = true) : knownBy later event = true := by
  obtain ⟨facts, read, before⟩ := knownBy_iff.mp known
  exact knownBy_iff.mpr ⟨facts, read, before.trans ordered⟩

end Known

variable {π F : Type} [PythonObject F π] [FloatText F] [IsoFormat] [UuidFormat]

/-! ## The index of revisions -/

theorem EventRevision.facts_eq {first second : EventRevision π}
    (same : first.canonical = second.canonical) : first.facts = second.facts :=
  SameBytes.facts ⟨first.canonical, first.encoded, same ▸ second.encoded⟩ first.read second.read

theorem compareRevisions_eq_ok {revision other : EventRevision π} :
    compareRevisions revision other = .ok () ↔
      (revision.facts.sourceAt = other.facts.sourceAt ∧
        revision.facts.instrumentVersion = other.facts.instrumentVersion ∧
        revision.facts.kind = other.facts.kind ∧
        revision.facts.adapterVersion = other.facts.adapterVersion) ∧
      (other.facts.revision < revision.facts.revision →
        other.facts.availableAt ≤ revision.facts.availableAt ∧
          other.facts.knowledge < revision.facts.knowledge) ∧
      (revision.facts.revision < other.facts.revision →
        revision.facts.availableAt ≤ other.facts.availableAt ∧
          revision.facts.knowledge < other.facts.knowledge) := by
  simp only [compareRevisions, guard_eq_ok, not_or, not_and, not_not, not_lt, not_le, and_true]
  constructor
  · intro ⟨metadata, backdated, predates, higher, lower⟩
    exact ⟨metadata, fun later => ⟨backdated later, higher later⟩,
      fun earlier => ⟨predates earlier, lower earlier⟩⟩
  · intro ⟨metadata, later, earlier⟩
    exact ⟨metadata, fun above => (later above).1, fun below => (earlier below).1,
      fun above => (later above).2, fun below => (earlier below).2⟩

theorem revisionIndex_lawful : (revisionIndex (π := π)).Lawful where
  comm first second compared := by
    have ⟨⟨source, instrument, kind, adapter⟩, later, earlier⟩ :=
      compareRevisions_eq_ok.mp compared
    exact compareRevisions_eq_ok.mpr
      ⟨⟨source.symm, instrument.symm, kind.symm, adapter.symm⟩, earlier, later⟩
  congr row first second same compared := by
    have facts := EventRevision.facts_eq same
    have other := compareRevisions_eq_ok.mp compared
    rw [facts] at other
    exact compareRevisions_eq_ok.mpr other

/-! ## Events known by a cutoff -/

/-- The revision of an event that passes its checks and has canonical bytes. -/
def revisionOf (event : RawEvent π) : Option (EventRevision π) :=
  match read : readEvent event, encoded : canonicalBytes event with
  | .ok facts, .ok canonical => some ⟨event, facts, canonical, read, encoded⟩
  | _, _ => none

theorem revisionOf_eq_some {event : RawEvent π} {revision : EventRevision π} :
    revisionOf event = some revision ↔ revision.event = event := by
  constructor
  · intro found
    rw [revisionOf] at found
    split at found
    next => cases found; rfl
    next => cases found
  · intro equal
    subst equal
    obtain ⟨event, facts, canonical, read, encoded⟩ := revision
    rw [revisionOf]
    split
    next otherFacts other otherRead otherEncoded =>
      have sameFacts : otherFacts = facts := Except.ok.inj (otherRead.symm.trans read)
      have sameBytes : other = canonical := Except.ok.inj (otherEncoded.symm.trans encoded)
      subst sameFacts sameBytes
      rfl
    next impossible => exact absurd encoded (impossible facts canonical read)

/-- The revisions of the events known by a cutoff, in order. -/
def knownRevisions (point : Instant) (events : List (RawEvent π)) : List (EventRevision π) :=
  (events.filter (knownBy point)).filterMap revisionOf

theorem mem_knownRevisions {point : Instant} {events : List (RawEvent π)}
    {revision : EventRevision π} :
    revision ∈ knownRevisions point events ↔
      revision.event ∈ events ∧ revision.facts.knowledge ≤ point := by
  rw [knownRevisions, List.mem_filterMap]
  constructor
  · intro ⟨event, member, found⟩
    rw [revisionOf_eq_some.mp found]
    rw [List.mem_filter, knownBy_iff, ← revisionOf_eq_some.mp found] at member
    obtain ⟨listed, facts, read, known⟩ := member
    rw [revision.read, Except.ok.injEq] at read
    exact ⟨revisionOf_eq_some.mp found ▸ listed, read ▸ known⟩
  · intro ⟨listed, known⟩
    refine ⟨revision.event, ?_, revisionOf_eq_some.mpr rfl⟩
    rw [List.mem_filter, knownBy_iff]
    exact ⟨listed, revision.facts, revision.read, known⟩

/-! ## The loop -/

theorem admitEvent_later {point : Instant} {seen : Dict String (Dict Nat (EventRevision π))}
    {event : RawEvent π} (passes : Passes event) (unknown : ¬ knownBy point event = true) :
    admitEvent point seen event = .ok seen := by
  obtain ⟨facts, read⟩ := passes
  rw [admitEvent]
  split
  next impossible => rw [read] at impossible; cases impossible
  next other otherRead =>
    rw [if_pos]
    rw [Bool.not_eq_true', ← Bool.not_eq_true, visible_iff]
    exact fun known => unknown (knownBy_iff.mpr ⟨other, otherRead, known⟩)

theorem admitEvent_known {point : Instant} {seen : Dict String (Dict Nat (EventRevision π))}
    {revision : EventRevision π} (known : knownBy point revision.event = true) :
    admitEvent point seen revision.event = revisionIndex.store seen revision := by
  obtain ⟨facts, read, before⟩ := knownBy_iff.mp known
  have found := revisionOf_eq_some.mpr (rfl : revision.event = revision.event)
  rw [admitEvent]
  split
  next impossible => rw [read] at impossible; cases impossible
  next other otherRead =>
    rw [otherRead, Except.ok.injEq] at read
    subst read
    rw [if_neg (by simpa [visible_iff] using before)]
    split
    next impossible => rw [revision.encoded] at impossible; cases impossible
    next canonical encoded =>
      have same : (⟨revision.event, other, canonical, otherRead, encoded⟩ : EventRevision π) =
          revision := Option.some.inj ((revisionOf_eq_some.mpr rfl).symm.trans found)
      rw [same]

theorem canonical_of_admitEvent {point : Instant}
    {seen next : Dict String (Dict Nat (EventRevision π))} {event : RawEvent π}
    (known : knownBy point event = true) (success : admitEvent point seen event = .ok next) :
    ∃ revision, revisionOf event = some revision := by
  obtain ⟨facts, read, before⟩ := knownBy_iff.mp known
  rw [admitEvent] at success
  split at success
  next => cases success
  next other otherRead =>
    rw [otherRead, Except.ok.injEq] at read
    subst read
    rw [if_neg (by simpa [visible_iff] using before)] at success
    split at success
    next => cases success
    next canonical encoded =>
      exact ⟨⟨event, other, canonical, otherRead, encoded⟩, revisionOf_eq_some.mpr rfl⟩

/-- Every event known by the cutoff has canonical bytes. -/
def Encodes (point : Instant) (events : List (RawEvent π)) : Prop :=
  ∀ event ∈ events, knownBy point event = true → ∃ revision, revisionOf event = some revision

/-- The loop stores the revisions of the known events. -/
theorem foldlM_admitEvent {point : Instant} {events : List (RawEvent π)}
    (passes : ∀ event ∈ events, Passes event)
    {seen final : Dict String (Dict Nat (EventRevision π))} :
    events.foldlM (admitEvent point) seen = .ok final ↔
      Encodes point events ∧
        (knownRevisions point events).foldlM revisionIndex.store seen = .ok final := by
  induction events generalizing seen with
  | nil => exact (and_iff_right fun _ member => absurd member List.not_mem_nil).symm
  | cons event rest ih =>
      rw [List.forall_mem_cons] at passes
      rw [List.foldlM_cons, bind_eq_ok, Encodes, List.forall_mem_cons]
      by_cases known : knownBy point event = true
      · constructor
        · intro ⟨middle, step, tail⟩
          obtain ⟨revision, found⟩ := canonical_of_admitEvent known step
          obtain ⟨encodes, stored⟩ := (ih passes.2).mp tail
          refine ⟨⟨fun _ => ⟨revision, found⟩, encodes⟩, ?_⟩
          rw [knownRevisions, List.filter_cons_of_pos known, List.filterMap_cons_some found,
            List.foldlM_cons, bind_eq_ok]
          rw [← revisionOf_eq_some.mp found] at step known
          exact ⟨middle, (admitEvent_known known).symm.trans step, stored⟩
        · intro ⟨⟨encoded, encodes⟩, stored⟩
          obtain ⟨revision, found⟩ := encoded known
          rw [knownRevisions, List.filter_cons_of_pos known, List.filterMap_cons_some found,
            List.foldlM_cons, bind_eq_ok] at stored
          obtain ⟨middle, step, tail⟩ := stored
          rw [← revisionOf_eq_some.mp found] at known ⊢
          exact ⟨middle, (admitEvent_known known).trans step, (ih passes.2).mpr ⟨encodes, tail⟩⟩
      · rw [knownRevisions, List.filter_cons_of_neg known]
        constructor
        · intro ⟨middle, step, tail⟩
          rw [admitEvent_later passes.1 known] at step
          cases step
          obtain ⟨encodes, stored⟩ := (ih passes.2).mp tail
          exact ⟨⟨fun later => absurd later known, encodes⟩, stored⟩
        · intro ⟨⟨_, encodes⟩, stored⟩
          exact ⟨seen, admitEvent_later passes.1 known, (ih passes.2).mpr ⟨encodes, stored⟩⟩

/-! ## The order of the rows -/

/-- The key of the returned order. -/
def EventFacts.key (facts : EventFacts) : Instant ×ₗ Instant ×ₗ String ×ₗ Nat :=
  toLex (facts.availableAt, toLex (facts.sourceAt, toLex (facts.rawEventId, facts.revision)))

theorem rowKey_event (revision : EventRevision π) :
    rowKey revision.event = .ok revision.facts.key := by
  have reads := readEvent_eq_ok revision.read
  rw [rowKey, reads.availableAt, ok_bind, reads.sourceAt, ok_bind, reads.revision, ok_bind,
    EventFacts.key, reads.rawEventId]
  rfl

/-- Sorting rows sorts their revisions. -/
theorem sortRows_events (revisions : List (EventRevision π)) :
    sortRows (revisions.map EventRevision.event) =
      .ok ((revisions.insertionSort fun left right => left.facts.key ≤ right.facts.key).map
        EventRevision.event) := by
  have keyed : (revisions.map EventRevision.event).mapM
      (fun row => (rowKey row).map fun key => (key, row)) =
        .ok (revisions.map fun revision => (revision.facts.key, revision.event)) := by
    rw [mapM_eq_ok]
    induction revisions with
    | nil => exact .nil
    | cons revision rest ih =>
        refine .cons ?_ ih
        rw [rowKey_event]
        rfl
  rw [sortRows, keyed, ok_bind, pure_eq_ok, ← List.map_insertionSort
    (fun left right : EventRevision π => left.facts.key ≤ right.facts.key)
    (fun left right => left.1 ≤ right.1)
    (fun revision => (revision.facts.key, revision.event)) _ (fun _ _ _ _ => Iff.rfl),
    List.map_map]
  rfl

/-! ## Histories -/

/-- The revisions of a history, in the returned order: the first known revision
of every place. -/
structure History (point : Instant) (events : List (RawEvent π))
    (revisions : List (EventRevision π)) : Prop where
  sorted : revisions.Pairwise fun left right => left.facts.key < right.facts.key
  first : ∀ revision, revision ∈ revisions ↔
    (knownRevisions point events).find?
      (revisionIndex.belongs revision.facts.eventId revision.facts.revision) = some revision

/-- The identity as it was given determines the normalized one. -/
theorem eventId_of_rawEventId {first second : EventRevision π}
    (same : first.facts.rawEventId = second.facts.rawEventId) :
    first.facts.eventId = second.facts.eventId := by
  have left := readEvent_eq_ok first.read
  have right := readEvent_eq_ok second.read
  obtain ⟨firstText, firstFound⟩ := uuid_eq_ok left.eventId
  obtain ⟨secondText, secondFound⟩ := uuid_eq_ok right.eventId
  have equal : firstText = secondText := by
    rw [left.rawEventId, right.rawEventId, firstFound, secondFound] at same
    exact same
  have firstRead := left.eventId
  have secondRead := right.eventId
  rw [firstFound, equal, ← secondFound, secondRead] at firstRead
  exact (Except.ok.inj firstRead).symm

theorem place_of_key {first second : EventRevision π}
    (same : first.facts.key = second.facts.key) :
    first.facts.eventId = second.facts.eventId ∧ first.facts.revision = second.facts.revision := by
  simp only [EventFacts.key, EmbeddingLike.apply_eq_iff_eq, Prod.mk.injEq] at same
  exact ⟨eventId_of_rawEventId same.2.2.1, same.2.2.2⟩

theorem History.unique {point : Instant} {events : List (RawEvent π)}
    {revisions others : List (EventRevision π)} (left : History point events revisions)
    (right : History point events others) : revisions = others := by
  have irreflexive : Std.Irrefl fun left right : EventRevision π =>
      left.facts.key < right.facts.key := ⟨fun revision => lt_irrefl revision.facts.key⟩
  have antisymmetric : Std.Antisymm fun left right : EventRevision π =>
      left.facts.key < right.facts.key :=
    ⟨fun left right below above => absurd above (lt_asymm below)⟩
  apply List.Subset.antisymm_of_pairwise left.sorted right.sorted
  · intro revision member
    exact (right.first revision).mpr ((left.first revision).mp member)
  · intro revision member
    exact (left.first revision).mpr ((right.first revision).mp member)

theorem history_of_indexes {point : Instant} {events : List (RawEvent π)}
    {seen : Dict String (Dict Nat (EventRevision π))}
    (indexes : revisionIndex.Indexes seen (knownRevisions point events)) :
    History point events ((Versioning.stored seen).insertionSort
      fun left right => left.facts.key ≤ right.facts.key) := by
  have total : Std.Total fun left right : EventRevision π => left.facts.key ≤ right.facts.key :=
    ⟨fun left right => le_total left.facts.key right.facts.key⟩
  have transitive : IsTrans (EventRevision π) fun left right => left.facts.key ≤ right.facts.key :=
    ⟨fun _ _ _ first second => le_trans first second⟩
  have first : ∀ revision, revision ∈ (Versioning.stored seen).insertionSort
      (fun left right => left.facts.key ≤ right.facts.key) ↔
        (knownRevisions point events).find?
          (revisionIndex.belongs revision.facts.eventId revision.facts.revision) =
            some revision := by
    intro revision
    rw [List.mem_insertionSort]
    exact indexes.mem_stored
  have distinct := (List.perm_insertionSort (fun left right : EventRevision π =>
    left.facts.key ≤ right.facts.key) (Versioning.stored seen)).nodup_iff.mpr indexes.nodup_stored
  refine ⟨?_, first⟩
  apply ((List.pairwise_insertionSort _ _).and distinct).imp_of_mem
  intro left right leftMem rightMem ordered
  apply lt_of_le_of_ne ordered.1
  intro same
  obtain ⟨identity, revision⟩ := place_of_key same
  have leftFirst := (first left).mp leftMem
  rw [identity, revision, (first right).mp rightMem] at leftFirst
  exact ordered.2 (Option.some.inj leftFirst).symm

/-- A history is returned exactly where all known events have canonical bytes
and are consistent. -/
theorem causalMarketEventHistory_eq_ok {point : Instant} {cutoff : Scalar π}
    (read : utc (some cutoff) "cutoff" = .ok point) {events rows : List (RawEvent π)}
    (passes : ∀ event ∈ events, Passes event) :
    causalMarketEventHistory events cutoff = .ok rows ↔
      Encodes point events ∧ revisionIndex.Consistent (knownRevisions point events) ∧
        ∃ revisions, History point events revisions ∧ rows = revisions.map EventRevision.event := by
  have empty : (revisionIndex (π := π)).Consistent [] := fun _ member =>
    absurd member List.not_mem_nil
  rw [causalMarketEventHistory, read, ok_bind]
  simp only [bind_eq_ok, foldlM_admitEvent passes, sortRows_events, Except.ok.injEq]
  constructor
  · rintro ⟨seen, ⟨encodes, stored⟩, equal⟩
    obtain ⟨consistent, indexes⟩ :=
      revisionIndex_lawful.run Versioning.indexes_empty empty stored
    exact ⟨encodes, consistent, _, history_of_indexes indexes, equal.symm⟩
  · rintro ⟨encodes, consistent, revisions, history, equal⟩
    obtain ⟨seen, stored⟩ := revisionIndex_lawful.returns_iff.mpr consistent
    obtain ⟨-, indexes⟩ := revisionIndex_lawful.run Versioning.indexes_empty empty stored
    refine ⟨seen, ⟨encodes, stored⟩, ?_⟩
    rw [equal, (history_of_indexes indexes).unique history]

theorem History.mem {point : Instant} {events : List (RawEvent π)}
    {revisions : List (EventRevision π)} (history : History point events revisions)
    {revision : EventRevision π} (member : revision ∈ revisions) :
    revision ∈ knownRevisions point events :=
  List.mem_of_find?_eq_some ((history.first revision).mp member)

/-- Every known revision is represented in the history. -/
theorem History.representative {point : Instant} {events : List (RawEvent π)}
    {revisions : List (EventRevision π)} (history : History point events revisions)
    (consistent : revisionIndex.Consistent (knownRevisions point events))
    {revision : EventRevision π} (member : revision ∈ knownRevisions point events) :
    ∃ other ∈ revisions, other.canonical = revision.canonical := by
  have own : revisionIndex.belongs revision.facts.eventId revision.facts.revision revision =
      true := Versioning.belongs_iff.mpr ⟨rfl, rfl⟩
  obtain ⟨other, found⟩ :=
    Option.isSome_iff_exists.mp (List.find?_isSome.mpr ⟨revision, member, own⟩)
  obtain ⟨identity, rank⟩ := Versioning.belongs_iff.mp (List.find?_some found)
  have same := consistent other (List.mem_of_find?_eq_some found) revision member identity
  rw [if_pos (show revisionIndex.rank other = revisionIndex.rank revision from rank)] at same
  refine ⟨other, ?_, same⟩
  rw [history.first, ← found]
  exact congrArg₂ (fun id number => (knownRevisions point events).find?
    (revisionIndex.belongs id number)) identity rank

end AutoTrade.Research
