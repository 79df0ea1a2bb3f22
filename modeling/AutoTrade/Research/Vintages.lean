import AutoTrade.Research.Causality

/-!
# Point-in-time histories across cutoffs

No row of a history depends on an event that becomes known later, on the order
of the events or on repetitions.
-/

namespace AutoTrade.Research

open Lib Provider Reconciliation

/-- The first value that passes a test stays the first where it is kept. -/
theorem find?_filter_of_kept {τ : Type} (keep : τ → Bool) {select : τ → Bool} {values : List τ} {value : τ}
    (found : values.find? select = some value) (kept : keep value = true) :
    (values.filter keep).find? select = some value := by
  rw [List.find?_eq_some_iff_append] at found ⊢
  obtain ⟨selected, before, after, split, skipped⟩ := found
  refine ⟨selected, before.filter keep, after.filter keep, ?_, ?_⟩
  · rw [split, List.filter_append, List.filter_cons_of_pos kept]
  · intro other member
    exact skipped other (List.mem_of_mem_filter member)

theorem exists_forall₂ {τ σ : Type} {related : τ → σ → Prop} {values : List τ}
    (exist : ∀ value ∈ values, ∃ image, related value image) :
    ∃ images, List.Forall₂ related values images := by
  induction values with
  | nil => exact ⟨[], .nil⟩
  | cons value rest ih =>
      rw [List.forall_mem_cons] at exist
      obtain ⟨image, first⟩ := exist.1
      obtain ⟨images, tail⟩ := ih exist.2
      exact ⟨image :: images, .cons first tail⟩

section Known

variable {π F : Type} [PythonObject F π] [IsoFormat] [UuidFormat] {point : Instant}
  {events others : List (RawEvent π)}

/-- The events known by the cutoff are the same. -/
def SameKnown (point : Instant) (events others : List (RawEvent π)) : Prop :=
  ∀ event, knownBy point event = true → (event ∈ events ↔ event ∈ others)

theorem SameKnown.symm (same : SameKnown point events others) : SameKnown point others events :=
  fun event known => (same event known).symm

end Known

section Histories

variable {π F : Type} [PythonObject F π] [FloatText F] [IsoFormat] [UuidFormat]

/-! ## Outcomes -/

/-- Both calls raise, or both return rows with the same canonical bytes. -/
def SameOutcome (left right : Except HistoricalError (List (RawEvent π))) : Prop :=
  match left, right with
  | .ok rows, .ok others => rows.map canonicalBytes = others.map canonicalBytes
  | .error _, .error _ => True
  | _, _ => False

theorem map_canonicalBytes (revisions : List (EventRevision π)) :
    (revisions.map EventRevision.event).map canonicalBytes =
      revisions.map fun revision => .ok revision.canonical := by
  rw [List.map_map]
  apply List.map_congr_left
  intro revision _
  exact revision.encoded

variable {point : Instant} {events others : List (RawEvent π)}

theorem SameKnown.mem_knownRevisions (same : SameKnown point events others)
    {revision : EventRevision π} (member : revision ∈ knownRevisions point events) :
    revision ∈ knownRevisions point others := by
  rw [Research.mem_knownRevisions] at member ⊢
  have known : knownBy point revision.event = true :=
    knownBy_iff.mpr ⟨revision.facts, revision.read, member.2⟩
  exact ⟨(same revision.event known).mp member.1, member.2⟩

theorem SameKnown.encodes (same : SameKnown point events others)
    (encodes : Encodes point events) : Encodes point others :=
  fun event member known => encodes event ((same event known).mpr member) known

/-- Histories of the same known events have the same canonical rows. -/
theorem SameKnown.canonical (same : SameKnown point events others)
    (consistent : revisionIndex.Consistent (knownRevisions point events))
    {revisions otherRevisions : List (EventRevision π)}
    (history : History point events revisions) (other : History point others otherRevisions) :
    revisions.map EventRevision.canonical = otherRevisions.map EventRevision.canonical := by
  have otherConsistent := consistent.mono fun _ => same.symm.mem_knownRevisions
  let signature (revision : EventRevision π) := (revision.facts.key, revision.canonical)
  have signed : ∀ {first second : EventRevision π}, first.canonical = second.canonical →
      signature first = signature second := by
    intro first second equal
    exact Prod.ext (congrArg EventFacts.key (EventRevision.facts_eq equal)) equal
  have equal : revisions.map signature = otherRevisions.map signature := by
    have irreflexive : Std.Irrefl fun left right :
        (Instant ×ₗ Instant ×ₗ String ×ₗ Nat) × String => left.1 < right.1 :=
      ⟨fun left => lt_irrefl left.1⟩
    have antisymmetric : Std.Antisymm fun left right :
        (Instant ×ₗ Instant ×ₗ String ×ₗ Nat) × String => left.1 < right.1 :=
      ⟨fun left right below above => absurd above (lt_asymm below)⟩
    have left : (revisions.map signature).Pairwise fun left right => left.1 < right.1 :=
      List.pairwise_map.mpr history.sorted
    have right : (otherRevisions.map signature).Pairwise fun left right => left.1 < right.1 :=
      List.pairwise_map.mpr other.sorted
    apply List.Subset.antisymm_of_pairwise left right
    · intro value member
      obtain ⟨revision, listed, rfl⟩ := List.mem_map.mp member
      obtain ⟨representative, present, bytes⟩ :=
        other.representative otherConsistent (same.mem_knownRevisions (history.mem listed))
      exact List.mem_map.mpr ⟨representative, present, signed bytes⟩
    · intro value member
      obtain ⟨revision, listed, rfl⟩ := List.mem_map.mp member
      obtain ⟨representative, present, bytes⟩ :=
        history.representative consistent (same.symm.mem_knownRevisions (other.mem listed))
      exact List.mem_map.mpr ⟨representative, present, signed bytes⟩
  have projected := congrArg (List.map Prod.snd) equal
  rwa [List.map_map, List.map_map] at projected

/-- The outcome depends on the set of known events only. -/
theorem SameKnown.outcome (same : SameKnown point events others) {cutoff : Scalar π}
    (read : utc (some cutoff) "cutoff" = .ok point)
    (passes : ∀ event ∈ events, Passes event) (othersPass : ∀ event ∈ others, Passes event) :
    SameOutcome (causalMarketEventHistory events cutoff)
      (causalMarketEventHistory others cutoff) := by
  have transfer : ∀ {left right : List (RawEvent π)} {rows : List (RawEvent π)},
      SameKnown point left right → (∀ event ∈ left, Passes event) →
        (∀ event ∈ right, Passes event) → causalMarketEventHistory left cutoff = .ok rows →
          ∃ others, causalMarketEventHistory right cutoff = .ok others ∧
            rows.map canonicalBytes = others.map canonicalBytes := by
    intro left right rows known leftPass rightPass success
    obtain ⟨encodes, consistent, revisions, history, rfl⟩ :=
      (causalMarketEventHistory_eq_ok read leftPass).mp success
    have otherConsistent := consistent.mono fun _ => known.symm.mem_knownRevisions
    obtain ⟨seen, stored⟩ := revisionIndex_lawful.returns_iff.mpr otherConsistent
    have empty : (revisionIndex (π := π)).Consistent [] := fun _ member =>
      absurd member List.not_mem_nil
    obtain ⟨-, indexes⟩ := revisionIndex_lawful.run Versioning.indexes_empty empty stored
    have other := history_of_indexes indexes
    refine ⟨_, (causalMarketEventHistory_eq_ok read rightPass).mpr
      ⟨known.encodes encodes, otherConsistent, _, other, rfl⟩, ?_⟩
    rw [map_canonicalBytes, map_canonicalBytes]
    have canonical := congrArg (List.map (Except.ok (ε := HistoricalError)))
      (known.canonical consistent history other)
    rwa [List.map_map, List.map_map] at canonical
  cases left : causalMarketEventHistory events cutoff with
  | ok rows =>
      obtain ⟨_, right, equal⟩ := transfer same passes othersPass left
      rw [right]
      exact equal
  | error error =>
      cases right : causalMarketEventHistory others cutoff with
      | error other => exact True.intro
      | ok rows =>
          obtain ⟨_, impossible, -⟩ := transfer same.symm othersPass passes right
          rw [left] at impossible
          cases impossible

/-! ## Earlier cutoffs -/

theorem knownRevisions_earlier {earlier later : Instant} (ordered : earlier ≤ later)
    (events : List (RawEvent π)) :
    knownRevisions earlier events =
      (knownRevisions later events).filter fun revision => revision.facts.knowledge ≤ earlier := by
  rw [knownRevisions, knownRevisions, List.filterMap_filter, List.filterMap_filter,
    List.filter_filterMap]
  apply List.filterMap_congr
  intro event _
  cases found : revisionOf event with
  | none => simp
  | some revision =>
      obtain rfl := revisionOf_eq_some.mp found
      have known : ∀ moment, knownBy moment revision.event = true ↔
          revision.facts.knowledge ≤ moment := by
        intro moment
        rw [knownBy_iff]
        constructor
        · rintro ⟨facts, read, before⟩
          rw [revision.read, Except.ok.injEq] at read
          exact read ▸ before
        · intro before
          exact ⟨revision.facts, revision.read, before⟩
      by_cases early : revision.facts.knowledge ≤ earlier
      · simp [known, early, early.trans ordered, Option.filter_some]
      · by_cases late : revision.facts.knowledge ≤ later <;>
          simp [known, early, late, Option.filter_some]

/-- The history at an earlier cutoff is the part of a later one known by then. -/
theorem History.earlier {earlier later : Instant} (ordered : earlier ≤ later)
    {revisions : List (EventRevision π)} (history : History later events revisions)
    (consistent : revisionIndex.Consistent (knownRevisions later events)) :
    History earlier events
      (revisions.filter fun revision => revision.facts.knowledge ≤ earlier) := by
  refine ⟨history.sorted.filter _, ?_⟩
  intro revision
  rw [List.mem_filter, knownRevisions_earlier ordered, history.first]
  constructor
  · intro ⟨found, early⟩
    exact find?_filter_of_kept _ found early
  · intro found
    have member := List.mem_filter.mp (List.mem_of_find?_eq_some found)
    obtain ⟨representative, first⟩ := Option.isSome_iff_exists.mp
      (List.find?_isSome.mpr ⟨revision, member.1, List.find?_some found⟩)
    obtain ⟨identity, rank⟩ := Versioning.belongs_iff.mp (List.find?_some first)
    have same := consistent representative (List.mem_of_find?_eq_some first) revision member.1
      identity
    rw [if_pos (show revisionIndex.rank representative = revisionIndex.rank revision from rank)]
      at same
    have early : decide (representative.facts.knowledge ≤ earlier) = true := by
      rw [EventRevision.facts_eq same]
      exact member.2
    have equal := find?_filter_of_kept
      (fun revision : EventRevision π => revision.facts.knowledge ≤ earlier) first early
    rw [found, Option.some.injEq] at equal
    exact ⟨equal ▸ first, member.2⟩

/-- A call that returns at a later cutoff returns at an earlier one, the rows
known by then. -/
theorem causalMarketEventHistory_earlier {earlier later : Instant} (ordered : earlier ≤ later)
    {cutoff laterCutoff : Scalar π} (read : utc (some cutoff) "cutoff" = .ok earlier)
    (laterRead : utc (some laterCutoff) "cutoff" = .ok later)
    (passes : ∀ event ∈ events, Passes event) {rows : List (RawEvent π)}
    (success : causalMarketEventHistory events laterCutoff = .ok rows) :
    causalMarketEventHistory events cutoff = .ok (rows.filter (knownBy earlier)) := by
  obtain ⟨encodes, consistent, revisions, history, rfl⟩ :=
    (causalMarketEventHistory_eq_ok laterRead passes).mp success
  rw [causalMarketEventHistory_eq_ok read passes]
  refine ⟨fun event member known => encodes event member (knownBy_mono ordered known), ?_, _,
    history.earlier ordered consistent, ?_⟩
  · rw [knownRevisions_earlier ordered]
    exact consistent.mono (List.filter_subset_self _)
  · rw [List.filter_map]
    congr 1
    apply List.filter_congr
    intro revision _
    rw [Function.comp_apply, Bool.eq_iff_iff, decide_eq_true_eq, knownBy_iff]
    constructor
    · intro ⟨facts, found, early⟩
      rw [revision.read, Except.ok.injEq] at found
      exact found ▸ early
    · intro early
      exact ⟨revision.facts, revision.read, early⟩

/-! ## Chronology -/

/-- Revisions of one event are known, and available, in their order. -/
theorem History.chronology {revisions : List (EventRevision π)}
    (history : History point events revisions)
    (consistent : revisionIndex.Consistent (knownRevisions point events))
    {first second : EventRevision π} (firstMem : first ∈ revisions)
    (secondMem : second ∈ revisions) (same : first.facts.eventId = second.facts.eventId)
    (ordered : first.facts.revision < second.facts.revision) :
    first.facts.availableAt ≤ second.facts.availableAt ∧
      first.facts.knowledge < second.facts.knowledge := by
  have compatible := consistent first (history.mem firstMem) second (history.mem secondMem) same
  rw [if_neg (show revisionIndex.rank first ≠ revisionIndex.rank second from ordered.ne)]
    at compatible
  exact (compareRevisions_eq_ok.mp compatible).2.2 ordered

/-! ## The latest revisions -/

/-- What `point_in_time_market_events` has selected from the revisions read so far. -/
structure Selected (selected : Dict String (Nat × String × RawEvent π))
    (read : List (EventRevision π)) : Prop where
  latest : ∀ id item, selected.get? id = some item →
    ∃ revision ∈ read, item = (revision.facts.revision, revision.canonical, revision.event) ∧
      revision.facts.eventId = id ∧
      ∀ other ∈ read, other.facts.eventId = id →
        other.facts.revision ≤ revision.facts.revision
  covers : ∀ revision ∈ read, ∃ item, selected.get? revision.facts.eventId = some item

theorem selected_empty : Selected (∅ : Dict String (Nat × String × RawEvent π)) [] :=
  ⟨fun _ _ found => absurd found.symm (Option.some_ne_none _),
    fun _ member => absurd member List.not_mem_nil⟩

/-- The step lemma. -/
theorem Selected.step {selected : Dict String (Nat × String × RawEvent π)}
    {read : List (EventRevision π)} {revision : EventRevision π} (held : Selected selected read)
    (compatible : ∀ other ∈ read, revisionIndex.Compatible other revision) :
    ∃ next, selectLatest selected revision.event = .ok next ∧
      Selected next (read ++ [revision]) := by
  have reads := readEvent_eq_ok revision.read
  have inserted : (∀ other ∈ read, other.facts.eventId = revision.facts.eventId →
      other.facts.revision ≤ revision.facts.revision) →
        Selected (selected.set revision.facts.eventId
          (revision.facts.revision, revision.canonical, revision.event)) (read ++ [revision]) := by
    intro highest
    constructor
    · intro id item found
      rw [Dict.get?_set] at found
      split at found
      next same =>
        cases found
        refine ⟨revision, List.mem_append_right _ (List.mem_singleton_self _), rfl, same, ?_⟩
        intro other member own
        rcases List.mem_append.mp member with earlier | last
        · exact highest other earlier (own.trans same.symm)
        · rw [List.mem_singleton.mp last]
      next different =>
        obtain ⟨latest, member, equal, own, bound⟩ := held.latest id item found
        refine ⟨latest, List.mem_append_left _ member, equal, own, ?_⟩
        intro other otherMem otherOwn
        rcases List.mem_append.mp otherMem with earlier | last
        · exact bound other earlier otherOwn
        · rw [List.mem_singleton.mp last] at otherOwn
          exact absurd otherOwn different
    · intro other member
      rw [Dict.get?_set]
      split
      next => exact ⟨_, rfl⟩
      next different =>
        rcases List.mem_append.mp member with earlier | last
        · exact held.covers other earlier
        · exact absurd (congrArg (fun item => item.facts.eventId)
            (List.mem_singleton.mp last)).symm different
  rw [selectLatest, reads.eventId, ok_bind, reads.revision, ok_bind, revision.encoded, ok_bind]
  split
  next fresh =>
    refine ⟨_, rfl, inserted ?_⟩
    intro other member same
    obtain ⟨item, found⟩ := held.covers other member
    rw [same, fresh] at found
    cases found
  next previous found =>
    obtain ⟨latest, member, rfl, own, bound⟩ := held.latest _ previous found
    have same := compatible latest member own
    split
    next above =>
      exact ⟨_, rfl, inserted fun other otherMem otherOwn =>
        (bound other otherMem otherOwn).trans above.le⟩
    next notAbove =>
      rw [if_neg]
      · refine ⟨selected, rfl, ?_, ?_⟩
        · intro id item stored
          obtain ⟨kept, keptMem, equal, keptOwn, keptBound⟩ := held.latest id item stored
          refine ⟨kept, List.mem_append_left _ keptMem, equal, keptOwn, ?_⟩
          intro other otherMem otherOwn
          rcases List.mem_append.mp otherMem with earlier | last
          · exact keptBound other earlier otherOwn
          · rw [List.mem_singleton.mp last] at otherOwn ⊢
            have latestBound := keptBound latest member (own.trans otherOwn)
            exact (not_lt.mp notAbove).trans latestBound
        · intro other otherMem
          rcases List.mem_append.mp otherMem with earlier | last
          · exact held.covers other earlier
          · rw [List.mem_singleton.mp last]
            exact ⟨_, found⟩
      · rintro ⟨equal, different⟩
        rw [if_pos (show revisionIndex.rank latest = revisionIndex.rank revision from equal.symm)]
          at same
        exact different same.symm

/-- The run lemma. -/
theorem Selected.run {selected : Dict String (Nat × String × RawEvent π)}
    {read more : List (EventRevision π)} (held : Selected selected read)
    (consistent : revisionIndex.Consistent (read ++ more)) :
    ∃ final, (more.map EventRevision.event).foldlM selectLatest selected = .ok final ∧
      Selected final (read ++ more) := by
  induction more generalizing selected read with
  | nil => exact ⟨selected, rfl, by rwa [List.append_nil]⟩
  | cons revision rest ih =>
      rw [List.append_cons] at consistent ⊢
      obtain ⟨middle, step, grown⟩ := held.step fun other member =>
        consistent other (by simp [member]) revision (by simp)
      obtain ⟨final, tail, selectedAll⟩ := ih grown consistent
      exact ⟨final, by rw [List.map_cons, List.foldlM_cons, step, ok_bind, tail], selectedAll⟩

/-- The selected revisions: one for each identity, with the highest number. -/
structure Latest (revisions latest : List (EventRevision π)) : Prop where
  distinct : (latest.map fun revision => revision.facts.eventId).Nodup
  highest : ∀ revision ∈ latest, revision ∈ revisions ∧ ∀ other ∈ revisions,
    other.facts.eventId = revision.facts.eventId →
      other.facts.revision ≤ revision.facts.revision
  covers : ∀ other ∈ revisions, ∃ revision ∈ latest,
    revision.facts.eventId = other.facts.eventId

theorem Latest.perm {revisions latest others : List (EventRevision π)}
    (held : Latest revisions latest) (perm : others.Perm latest) : Latest revisions others := by
  refine ⟨(perm.map _).nodup_iff.mpr held.distinct, ?_, ?_⟩
  · intro revision member
    exact held.highest revision (perm.mem_iff.mp member)
  · intro other member
    obtain ⟨revision, listed, same⟩ := held.covers other member
    exact ⟨revision, perm.mem_iff.mpr listed, same⟩

theorem Selected.latest_rows {selected : Dict String (Nat × String × RawEvent π)}
    {revisions : List (EventRevision π)} (held : Selected selected revisions) :
    ∃ latest, selected.values.map (fun item => item.2.2) = latest.map EventRevision.event ∧
      Latest revisions latest := by
  have listed : ∀ entry ∈ selected.entries, ∃ revision ∈ revisions,
      entry.2 = (revision.facts.revision, revision.canonical, revision.event) ∧
        revision.facts.eventId = entry.1 ∧ ∀ other ∈ revisions,
          other.facts.eventId = entry.1 → other.facts.revision ≤ revision.facts.revision := by
    intro entry member
    exact held.latest entry.1 entry.2 (Dict.mem_entries.mp member)
  obtain ⟨latest, pairs⟩ := exists_forall₂ listed
  have rows : selected.values.map (fun item => item.2.2) = latest.map EventRevision.event := by
    rw [Dict.values, List.map_map, ← List.forall₂_eq_eq_eq, List.forall₂_map_left_iff,
      List.forall₂_map_right_iff]
    exact pairs.imp fun _ _ related => congrArg (fun item => item.2.2) related.2.1
  have identities : selected.keys = latest.map fun revision => revision.facts.eventId := by
    rw [Dict.keys, ← List.forall₂_eq_eq_eq, List.forall₂_map_left_iff,
      List.forall₂_map_right_iff]
    exact pairs.imp fun _ _ related => related.2.2.1.symm
  refine ⟨latest, rows, ?_, ?_, ?_⟩
  · rw [← identities]
    exact selected.nodup_keys
  · intro revision member
    obtain ⟨entry, -, inside, -, own, bound⟩ := exists_of_mem_forall₂ pairs member
    exact ⟨inside, fun other otherMem same => bound other otherMem (same.trans own)⟩
  · intro other member
    obtain ⟨item, found⟩ := held.covers other member
    have key : other.facts.eventId ∈ latest.map (fun revision => revision.facts.eventId) := by
      rw [← identities, Dict.mem_keys]
      exact ⟨item, found⟩
    obtain ⟨revision, present, same⟩ := List.mem_map.mp key
    exact ⟨revision, present, same⟩

/-- `point_in_time_market_events` returns the latest revisions of the history. -/
theorem pointInTimeMarketEvents_eq_ok {cutoff : Scalar π}
    {revisions : List (EventRevision π)} (consistent : revisionIndex.Consistent revisions)
    (success : causalMarketEventHistory events cutoff =
      .ok (revisions.map EventRevision.event)) :
    ∃ latest, pointInTimeMarketEvents events cutoff = .ok (latest.map EventRevision.event) ∧
      Latest revisions latest := by
  obtain ⟨selected, looped, held⟩ := selected_empty.run consistent
  obtain ⟨latest, rows, described⟩ := held.latest_rows
  rw [List.nil_append] at described
  refine ⟨_, ?_, described.perm (List.perm_insertionSort
    (fun left right : EventRevision π => left.facts.key ≤ right.facts.key) latest)⟩
  rw [pointInTimeMarketEvents, success, ok_bind, looped, ok_bind, rows, sortRows_events]

/-! ## Causality -/

/-- The latest known revision of an event is known no earlier than any other. -/
theorem Latest.knowledge {revisions latest : List (EventRevision π)}
    (held : Latest revisions latest) (history : History point events revisions)
    (consistent : revisionIndex.Consistent (knownRevisions point events))
    {revision other : EventRevision π} (member : revision ∈ latest)
    (known : other ∈ knownRevisions point events)
    (same : other.facts.eventId = revision.facts.eventId) :
    other.facts.knowledge ≤ revision.facts.knowledge := by
  obtain ⟨listed, highest⟩ := held.highest revision member
  obtain ⟨representative, present, bytes⟩ := history.representative consistent known
  have facts := EventRevision.facts_eq bytes
  rw [← facts] at same ⊢
  rcases (highest representative present same).lt_or_eq with below | equal
  · exact (history.chronology consistent present listed same below).2.le
  · have first := (history.first representative).mp present
    rw [same, equal, (history.first revision).mp listed, Option.some.injEq] at first
    rw [first]

/-- The identity of an event that passes its checks. -/
def identityOf (event : RawEvent π) : Option String :=
  (readEvent event).toOption.map EventFacts.eventId

/-- Histories by a cutoff are causal and consistent across cutoffs. -/
theorem point_in_time_causal {events : List (RawEvent π)}
    (passes : ∀ event ∈ events, Passes event) {cutoff : Scalar π} {point : Instant}
    (read : utc (some cutoff) "cutoff" = .ok point) :
    (∀ others, (∀ event ∈ others, Passes event) → SameKnown point events others →
      SameOutcome (causalMarketEventHistory events cutoff)
        (causalMarketEventHistory others cutoff)) ∧
    ((∃ latest, pointInTimeMarketEvents events cutoff = .ok latest) ↔
      ∃ rows, causalMarketEventHistory events cutoff = .ok rows) ∧
    ∀ rows, causalMarketEventHistory events cutoff = .ok rows →
      (∀ earlierCutoff earlier, utc (some earlierCutoff) "cutoff" = .ok earlier →
        earlier ≤ point →
          causalMarketEventHistory events earlierCutoff = .ok (rows.filter (knownBy earlier))) ∧
      (∀ first ∈ rows, ∀ second ∈ rows, ∀ firstFacts secondFacts,
        readEvent first = .ok firstFacts → readEvent second = .ok secondFacts →
          firstFacts.eventId = secondFacts.eventId →
            firstFacts.revision < secondFacts.revision →
              firstFacts.availableAt ≤ secondFacts.availableAt ∧
                firstFacts.knowledge < secondFacts.knowledge) ∧
      ∀ latest, pointInTimeMarketEvents events cutoff = .ok latest →
        (latest.map identityOf).Nodup ∧
        (∀ row ∈ latest, row ∈ rows ∧ ∃ facts, readEvent row = .ok facts ∧
          ∀ event ∈ events, ∀ known, readEvent event = .ok known →
            known.knowledge ≤ point → known.eventId = facts.eventId →
              known.knowledge ≤ facts.knowledge) ∧
        ∀ event ∈ events, ∀ known, readEvent event = .ok known → known.knowledge ≤ point →
          ∃ row ∈ latest, identityOf row = some known.eventId := by
  have identity : ∀ revision : EventRevision π,
      identityOf revision.event = some revision.facts.eventId := by
    intro revision
    rw [identityOf, revision.read]
    rfl
  have selects : ∀ rows, causalMarketEventHistory events cutoff = .ok rows →
      ∃ revisions latest, rows = revisions.map EventRevision.event ∧
        Encodes point events ∧ revisionIndex.Consistent (knownRevisions point events) ∧
          History point events revisions ∧ Latest revisions latest ∧
            pointInTimeMarketEvents events cutoff = .ok (latest.map EventRevision.event) := by
    intro rows success
    obtain ⟨encodes, consistent, revisions, history, rfl⟩ :=
      (causalMarketEventHistory_eq_ok read passes).mp success
    obtain ⟨latest, selected, described⟩ := pointInTimeMarketEvents_eq_ok
      (consistent.mono fun _ member => history.mem member) success
    exact ⟨revisions, latest, rfl, encodes, consistent, history, described, selected⟩
  refine ⟨fun others othersPass same => same.outcome read passes othersPass, ?_, ?_⟩
  · constructor
    · intro ⟨latest, success⟩
      rw [pointInTimeMarketEvents, bind_eq_ok] at success
      obtain ⟨rows, returned, -⟩ := success
      exact ⟨rows, returned⟩
    · intro ⟨rows, success⟩
      obtain ⟨_, latest, -, -, -, -, -, selected⟩ := selects rows success
      exact ⟨_, selected⟩
  intro rows success
  obtain ⟨revisions, latest, rfl, encodes, consistent, history, described, selected⟩ :=
    selects rows success
  refine ⟨fun earlierCutoff earlier earlierRead ordered =>
    causalMarketEventHistory_earlier ordered earlierRead read passes success, ?_, ?_⟩
  · intro first firstMem second secondMem firstFacts secondFacts firstRead secondRead same ordered
    obtain ⟨left, leftMem, rfl⟩ := List.mem_map.mp firstMem
    obtain ⟨right, rightMem, rfl⟩ := List.mem_map.mp secondMem
    rw [left.read, Except.ok.injEq] at firstRead
    rw [right.read, Except.ok.injEq] at secondRead
    subst firstRead secondRead
    exact history.chronology consistent leftMem rightMem same ordered
  intro returned equal
  rw [selected, Except.ok.injEq] at equal
  subst equal
  have revisionKnown : ∀ event ∈ events, ∀ known, readEvent event = .ok known →
      known.knowledge ≤ point → ∃ revision ∈ knownRevisions point events,
        revision.facts = known := by
    intro event member known knownRead before
    obtain ⟨revision, found⟩ := encodes event member (knownBy_iff.mpr ⟨known, knownRead, before⟩)
    obtain rfl := revisionOf_eq_some.mp found
    rw [revision.read, Except.ok.injEq] at knownRead
    exact ⟨revision, mem_knownRevisions.mpr ⟨member, knownRead ▸ before⟩, knownRead⟩
  refine ⟨?_, ?_, ?_⟩
  · have distinct := described.distinct.map (Option.some_injective String)
    have identities : identityOf ∘ EventRevision.event =
        some ∘ fun revision : EventRevision π => revision.facts.eventId := funext identity
    rw [List.map_map] at distinct ⊢
    rwa [identities]
  · intro row member
    obtain ⟨revision, listed, rfl⟩ := List.mem_map.mp member
    refine ⟨List.mem_map_of_mem (described.highest revision listed).1, revision.facts,
      revision.read, ?_⟩
    intro event eventMem known knownRead before same
    obtain ⟨other, otherMem, rfl⟩ := revisionKnown event eventMem known knownRead before
    exact described.knowledge history consistent listed otherMem same
  · intro event member known knownRead before
    obtain ⟨other, otherMem, rfl⟩ := revisionKnown event member known knownRead before
    obtain ⟨representative, present, bytes⟩ := history.representative consistent otherMem
    obtain ⟨revision, listed, same⟩ := described.covers representative present
    refine ⟨revision.event, List.mem_map_of_mem listed, ?_⟩
    rw [identity, same, EventRevision.facts_eq bytes]

/-- Of two events with the same canonical bytes the first one is returned. -/
theorem first_returned {cutoff : Scalar π} (read : utc (some cutoff) "cutoff" = .ok point)
    {first second : EventRevision π} (same : first.canonical = second.canonical)
    (known : first.facts.knowledge ≤ point) :
    causalMarketEventHistory [first.event, second.event] cutoff = .ok [first.event] := by
  have facts := EventRevision.facts_eq same
  have passes : ∀ event ∈ [first.event, second.event], Passes event := by
    intro event member
    rcases List.mem_pair.mp member with rfl | rfl
    · exact ⟨first.facts, first.read⟩
    · exact ⟨second.facts, second.read⟩
  have firstKnown : knownBy point first.event = true :=
    knownBy_iff.mpr ⟨first.facts, first.read, known⟩
  have secondKnown : knownBy point second.event = true :=
    knownBy_iff.mpr ⟨second.facts, second.read, facts ▸ known⟩
  have revisions : knownRevisions point [first.event, second.event] = [first, second] := by
    rw [knownRevisions, List.filter_cons_of_pos firstKnown, List.filter_cons_of_pos secondKnown,
      List.filter_nil, List.filterMap_cons_some (revisionOf_eq_some.mpr rfl),
      List.filterMap_cons_some (revisionOf_eq_some.mpr rfl), List.filterMap_nil]
  have identity : revisionIndex.identity first = revisionIndex.identity second :=
    congrArg EventFacts.eventId facts
  have rank : revisionIndex.rank first = revisionIndex.rank second :=
    congrArg EventFacts.revision facts
  have place : ∀ id number, revisionIndex.belongs id number second =
      revisionIndex.belongs id number first := by
    intro id number
    rw [Versioning.belongs, Versioning.belongs, identity, rank]
  rw [causalMarketEventHistory_eq_ok read passes, revisions]
  refine ⟨?_, ?_, [first], ⟨List.pairwise_singleton _ _, ?_⟩, rfl⟩
  · intro event member _
    rcases List.mem_pair.mp member with rfl | rfl
    · exact ⟨first, revisionOf_eq_some.mpr rfl⟩
    · exact ⟨second, revisionOf_eq_some.mpr rfl⟩
  · have compatible : revisionIndex.Compatible first second := by
      intro _
      rw [if_pos rank]
      exact same
    intro left leftMem right rightMem
    rcases List.mem_pair.mp leftMem with rfl | rfl <;>
      rcases List.mem_pair.mp rightMem with rfl | rfl
    · exact Versioning.compatible_self _
    · exact compatible
    · exact revisionIndex_lawful.symm compatible
    · exact Versioning.compatible_self _
  · intro revision
    rw [List.mem_singleton, revisions, List.find?_cons, List.find?_cons, place]
    constructor
    · intro equal
      have own : revisionIndex.belongs first.facts.eventId first.facts.revision first = true :=
        Versioning.belongs_iff.mpr ⟨rfl, rfl⟩
      rw [equal, own]
    · intro found
      cases own : revisionIndex.belongs revision.facts.eventId revision.facts.revision first with
      | true =>
          rw [own] at found
          exact (Option.some.inj found).symm
      | false =>
          rw [own] at found
          cases found

end Histories

section Sample

/-- An empty list and an empty tuple. -/
inductive SampleObject where
  | list
  | tuple
  deriving DecidableEq, Repr

/-- `json.dumps` writes both as an empty array. -/
@[reducible] def SampleObject.sequences : PythonObject Unit SampleObject where
  isDict _ := false
  dumps _ := some (.arr [])
  dumps_distinct := by
    intro value json written
    cases written
    exact True.intro

attribute [local instance] FloatText.none SampleObject.sequences IsoFormat.seconds
  UuidFormat.lenient

/-- A trade whose payload holds an object. -/
@[irreducible] def sampleEvent (prices : SampleObject) : RawEvent SampleObject :=
  let text (value : String) : Field SampleObject := .scalar (.text value)
  (∅ : RawEvent SampleObject).setAll [
    ("event_id", text "a"), ("instrument_version", text "b"), ("adapter_version", text "c"),
    ("kind", text "BAR"), ("source_event_at", text "2024-01-01T00:00:00Z"),
    ("available_at", text "2024-01-01T00:00:01Z"), ("availability_basis", text "d"),
    ("ingested_at", text "2024-01-01T00:00:02Z"), ("revision", text "0"),
    ("payload", .mapping true ((∅ : Dict String (Scalar SampleObject)).set "p" (.other prices))),
    ("quality_flags", .list []),
    ("raw_evidence_ref", .mapping true ((∅ : Dict String (Scalar SampleObject)).setAll [
      ("artifact_id", .text "e"),
      ("sha256", .text
        "sha256:0000000000000000000000000000000000000000000000000000000000000000"),
      ("observed_at", .text "2024-01-01T00:00:02Z")]))]

/-- A cutoff given as a datetime. -/
def sampleCutoff : Scalar SampleObject := .datetime (.aware ⟨1704067210000000⟩)

theorem sampleCutoff_read :
    utc (some sampleCutoff) "cutoff" = .ok ⟨1704067210000000⟩ := rfl

theorem sampleEvent_json : eventJson (sampleEvent .tuple) = eventJson (sampleEvent .list) := by
  decide +kernel

theorem sampleEvent_encoded : (canonicalBytes (sampleEvent .list)).toOption.isSome := by
  decide +kernel

theorem sampleEvent_known (prices : SampleObject) :
    knownBy ⟨1704067210000000⟩ (sampleEvent prices) = true := by
  cases prices <;> decide +kernel

theorem sampleEvent_passes (prices : SampleObject) : Passes (sampleEvent prices) := by
  obtain ⟨facts, read, -⟩ := knownBy_iff.mp (sampleEvent_known prices)
  exact ⟨facts, read⟩

theorem sampleEvent_same_outcome :
    SameOutcome
      (causalMarketEventHistory [sampleEvent .list, sampleEvent .tuple] sampleCutoff)
      (causalMarketEventHistory [sampleEvent .tuple, sampleEvent .list] sampleCutoff) := by
  have passes : ∀ event ∈ [sampleEvent .list, sampleEvent .tuple], Passes event := by
    intro event member
    rcases List.mem_pair.mp member with rfl | rfl <;> exact sampleEvent_passes _
  have swap := List.Perm.swap (sampleEvent .tuple) (sampleEvent .list) []
  have swapped : ∀ event ∈ [sampleEvent .tuple, sampleEvent .list], Passes event :=
    fun event member => passes event (swap.mem_iff.mpr member)
  exact (@point_in_time_causal SampleObject Unit _ _ _ _ _ passes _ _ sampleCutoff_read).1 _
    swapped fun _ _ => swap.mem_iff

/-- Events with the same canonical bytes are returned as they came first. -/
theorem first_representation_returned :
    ¬ ∀ (events others : List (RawEvent SampleObject)) (cutoff : Scalar SampleObject),
      (∀ event ∈ events, Passes event) → events.Perm others →
        causalMarketEventHistory events cutoff = causalMarketEventHistory others cutoff := by
  intro unchanged
  obtain ⟨bytes, encoded⟩ := exists_eq_ok sampleEvent_encoded
  have otherEncoded : canonicalBytes (sampleEvent .tuple) = .ok bytes := by
    rw [canonicalBytes, sampleEvent_json, ← canonicalBytes, encoded]
  obtain ⟨facts, read, known⟩ := knownBy_iff.mp (sampleEvent_known .list)
  obtain ⟨otherFacts, otherRead, otherKnown⟩ := knownBy_iff.mp (sampleEvent_known .tuple)
  let first : EventRevision SampleObject := ⟨sampleEvent .list, facts, bytes, read, encoded⟩
  let second : EventRevision SampleObject :=
    ⟨sampleEvent .tuple, otherFacts, bytes, otherRead, otherEncoded⟩
  have passes : ∀ event ∈ [sampleEvent .list, sampleEvent .tuple], Passes event := by
    intro event member
    rcases List.mem_pair.mp member with rfl | rfl <;> exact sampleEvent_passes _
  have equal := unchanged _ _ sampleCutoff passes (List.Perm.swap _ _ [])
  have listFirst := @first_returned _ _ _ _ _ _ _ _ sampleCutoff_read first second rfl known
  have tupleFirst := @first_returned _ _ _ _ _ _ _ _ sampleCutoff_read second first rfl otherKnown
  have same : sampleEvent .list = sampleEvent .tuple := by
    have rows := listFirst.symm.trans (equal.trans tupleFirst)
    exact List.singleton_inj.mp (Except.ok.inj rows)
  revert same
  decide +kernel

end Sample

end AutoTrade.Research
