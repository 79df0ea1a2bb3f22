import AutoTrade.Instruments.Registry
import AutoTrade.Lib.Numbered

/-!
# Histories of instruments

The versions of an instrument are numbered from one and start one after the
other, so a lookup finds the one interval that has its instant.  Intervals of
different instruments under one provider symbol are compared at each admission;
the comparison sees every common instant but the last `datetime`.
-/

namespace AutoTrade.Instruments

open Lib

namespace InstrumentVersion

variable {β : Type} {left right : InstrumentVersion β}

theorem SameSymbol.symm (same : left.SameSymbol right) : right.SameSymbol left :=
  ⟨same.1.symm, same.2.1.symm, same.2.2.symm⟩

end InstrumentVersion

namespace InstrumentRegistry

variable {γ β : Type} {registry : InstrumentRegistry γ β} {instant : Datetime}
  {versions : List (InstrumentVersion β)} {version answer candidate : InstrumentVersion β}

/-! ## Lookups in one history -/

/-- The versions of one instrument. -/
structure History (instrumentId : String) (versions : List (InstrumentVersion β)) : Prop where
  numbered : Numbered InstrumentVersion.version versions
  increasing : versions.Pairwise fun earlier later => earlier.effectiveFrom < later.effectiveFrom
  named : ∀ version ∈ versions, version.instrumentId = instrumentId

theorem inForce_eq_covering : inForce instant versions =
    covering InstrumentVersion.effectiveFrom InstrumentVersion.effectiveTo instant versions := by
  induction versions with
  | nil => rfl
  | cons version rest ih =>
      rw [inForce, covering, ih]
      cases covering InstrumentVersion.effectiveFrom InstrumentVersion.effectiveTo instant rest <;>
        rfl

theorem History.nil {instrumentId : String} : History (β := β) instrumentId [] where
  numbered := Numbered.nil
  increasing := List.Pairwise.nil
  named _ member := absurd member List.not_mem_nil

/-- Sorting by version leaves a history as it is. -/
theorem History.byVersion_eq {instrumentId : String} (history : History instrumentId versions) :
    byVersion versions = versions :=
  history.numbered.insertionSort_eq

/-- The search of `at` finds the interval that has the instant. -/
theorem History.inForce_eq_some {instrumentId : String}
    (history : History instrumentId versions) :
    inForce instant versions = some version ↔
      ∃ limit, (version, limit) ∈ segments InstrumentVersion.effectiveFrom
          InstrumentVersion.effectiveTo versions ∧
        Inside version.effectiveFrom limit instant := by
  rw [inForce_eq_covering]
  exact covering_eq_some history.increasing

/-- The version that is in force after a candidate is appended. -/
theorem History.inForce_append {instrumentId : String}
    (history : History instrumentId (versions ++ [candidate])) :
    inForce instant (versions ++ [candidate]) =
      if candidate.effectiveFrom ≤ instant then
        if candidate.contains instant none then some candidate else none
      else inForce instant versions := by
  rw [inForce_eq_covering, covering_append history.increasing, inForce_eq_covering]
  rfl

/-- The checks on a history admit the first version or the next one. -/
theorem checkHistory_cases [DecidableEq β] (checked : checkHistory versions candidate = .ok true) :
    (versions = [] ∧ candidate.version = 1) ∨
      ∃ earlier last, versions = earlier ++ [last] ∧ candidate.version = last.version + 1 ∧
        last.effectiveFrom < candidate.effectiveFrom := by
  rw [checkHistory] at checked
  split at checked
  next last found =>
    obtain ⟨earlier, equal⟩ := List.getLast?_eq_some_iff.mp found
    split at checked
    · rw [guard_eq_ok, not_ne_iff, guard_eq_ok, not_le] at checked
      exact Or.inr ⟨earlier, last, equal, checked.1, checked.2.1⟩
    · split at checked <;> cases checked
    · cases checked
  next empty =>
    rw [guard_eq_ok, not_ne_iff] at checked
    exact Or.inl ⟨List.getLast?_eq_none_iff.mp empty, checked.1⟩

/-- An admitted version continues the history. -/
theorem History.append [DecidableEq β] {instrumentId : String}
    (history : History instrumentId versions) (named : candidate.instrumentId = instrumentId)
    (checked : checkHistory versions candidate = .ok true) :
    History instrumentId (versions ++ [candidate]) where
  numbered := by
    apply history.numbered.append_one
    obtain ⟨rfl, first⟩ | ⟨earlier, last, rfl, next, _⟩ := checkHistory_cases checked
    · exact first
    · rw [next, history.numbered.last, List.length_append, List.length_singleton]
  increasing := by
    rw [List.pairwise_append]
    refine ⟨history.increasing, List.pairwise_singleton _ _, ?_⟩
    intro version member added addedMember
    obtain rfl := List.mem_singleton.mp addedMember
    obtain ⟨rfl, _⟩ | ⟨earlier, last, rfl, _, after⟩ := checkHistory_cases checked
    · cases member
    · rcases List.mem_append.mp member with before | same
      · have order := (List.pairwise_append.mp history.increasing).2.2
        exact (order version before last List.mem_cons_self).trans after
      · exact List.mem_singleton.mp same ▸ after
  named := by
    intro version member
    rcases List.mem_append.mp member with before | same
    · exact history.named version before
    · exact List.mem_singleton.mp same ▸ named

/-! ## Admission -/

section Admission

variable [DecidableEq β]

/-- What the checks of `add` establish before a commit. -/
structure Admitted (registry : InstrumentRegistry γ β) (candidate : InstrumentVersion β) :
    Prop where
  history : checkHistory (registry.versions candidate.instrumentId) candidate = .ok true
  disjoint : (intervals (registry.appended candidate)).Pairwise fun left right =>
    ¬ left.Conflicts right

theorem check_eq_ok_true (checked : registry.check candidate = .ok true) :
    Admitted registry candidate := by
  rw [check] at checked
  split at checked
  · cases checked
  next calendar found =>
    rw [throw_unless_eq_ok] at checked
    obtain ⟨_, checked⟩ := checked
    rw [bind_eq_ok] at checked
    obtain ⟨new, history, checked⟩ := checked
    rw [throw_unless_eq_ok, pure_eq_ok] at checked
    obtain ⟨passed, rfl⟩ := checked
    exact ⟨history, by simpa using passed⟩

/-- A call of `add` leaves the registry as it is or appends an admitted version. -/
theorem add_cases (registry : InstrumentRegistry γ β) (candidate : InstrumentVersion β) :
    (registry.add candidate).2 = registry ∨
      (registry.add candidate).1 = .ok () ∧ Admitted registry candidate ∧
        (registry.add candidate).2 =
          { registry with histories := registry.appended candidate } := by
  rw [add]
  split
  · exact Or.inl rfl
  · exact Or.inl rfl
  next checked => exact Or.inr ⟨rfl, check_eq_ok_true checked, rfl⟩

/-- A rejected call changes nothing. -/
theorem add_of_error {error : RegistryError}
    (rejected : (registry.add candidate).1 = .error error) :
    (registry.add candidate).2 = registry := by
  rcases add_cases registry candidate with same | ⟨accepted, _⟩
  · exact same
  · rw [rejected] at accepted
    cases accepted

/-- The histories of a registry. -/
def Ordered (registry : InstrumentRegistry γ β) : Prop :=
  ∀ instrumentId, History instrumentId (registry.versions instrumentId)

theorem Ordered.appended (ordered : Ordered registry) (admitted : Admitted registry candidate)
    (instrumentId : String) :
    ((registry.appended candidate).get? instrumentId).getD [] =
      if candidate.instrumentId = instrumentId then
        registry.versions instrumentId ++ [candidate]
      else registry.versions instrumentId := by
  have continued := (ordered candidate.instrumentId).append rfl admitted.history
  rw [InstrumentRegistry.appended, Dict.get?_set, continued.byVersion_eq]
  by_cases own : candidate.instrumentId = instrumentId
  · subst own
    rw [if_pos rfl, if_pos rfl]
    rfl
  · rw [if_neg own, if_neg own]
    rfl

theorem Ordered.versions_add (ordered : Ordered registry) (admitted : Admitted registry candidate)
    (after : (registry.add candidate).2 =
      { registry with histories := registry.appended candidate }) (instrumentId : String) :
    (registry.add candidate).2.versions instrumentId =
      if candidate.instrumentId = instrumentId then
        registry.versions instrumentId ++ [candidate]
      else registry.versions instrumentId := by
  rw [after]
  exact ordered.appended admitted instrumentId

/-- Every call of `add` keeps the histories in order. -/
theorem Ordered.add (ordered : Ordered registry) (candidate : InstrumentVersion β) :
    Ordered (registry.add candidate).2 := by
  rcases add_cases registry candidate with same | ⟨_, admitted, after⟩
  · rw [same]
    exact ordered
  · intro instrumentId
    rw [ordered.versions_add admitted after]
    split
    next own =>
      subst own
      exact (ordered candidate.instrumentId).append rfl admitted.history
    next => exact ordered instrumentId

/-- The version in force after an admission. -/
theorem Ordered.inForce_add (ordered : Ordered registry) (admitted : Admitted registry candidate)
    (after : (registry.add candidate).2 =
      { registry with histories := registry.appended candidate }) (instrumentId : String)
    (instant : Datetime) :
    inForce instant ((registry.add candidate).2.versions instrumentId) =
      if candidate.instrumentId = instrumentId ∧ candidate.effectiveFrom ≤ instant then
        if candidate.contains instant none then some candidate else none
      else inForce instant (registry.versions instrumentId) := by
  have continued := ordered.add candidate instrumentId
  rw [ordered.versions_add admitted after] at continued ⊢
  by_cases own : candidate.instrumentId = instrumentId
  · rw [if_pos own] at continued ⊢
    simp only [own, true_and]
    exact continued.inForce_append
  · simp only [own, if_false, false_and]

end Admission

/-! ## One instrument for a provider symbol -/

/-- Two instruments do not answer to one provider symbol at one instant. -/
def Apart (registry : InstrumentRegistry γ β) : Prop :=
  ∀ {left right : String} {instant : Datetime} {first second : InstrumentVersion β},
    inForce instant (registry.versions left) = some first →
    inForce instant (registry.versions right) = some second → first.SameSymbol second →
    left = right

/-- A candidate and the last version of another instrument that are both without
end under one provider symbol, where one of them starts at the last `datetime`. -/
def Clash (registry : InstrumentRegistry γ β) (candidate : InstrumentVersion β) : Prop :=
  candidate.effectiveTo = none ∧
    ∃ instrumentId ∈ registry.histories.keys, instrumentId ≠ candidate.instrumentId ∧
      ∃ version ∈ (registry.versions instrumentId).getLast?,
        version.effectiveTo = none ∧ candidate.SameSymbol version ∧
          (candidate.effectiveFrom = Datetime.max ∨ version.effectiveFrom = Datetime.max)

instance (registry : InstrumentRegistry γ β) (candidate : InstrumentVersion β) :
    Decidable (registry.Clash candidate) :=
  inferInstanceAs (Decidable (_ ∧ ∃ instrumentId ∈ registry.histories.keys, _ ∧
    ∃ version ∈ (registry.versions instrumentId).getLast?, _ ∧ _ ∧ (_ ∨ _)))

/-- A version has the last `datetime` when it has no end. -/
theorem contains_max : version.contains Datetime.max none ↔ version.effectiveTo = none := by
  rw [InstrumentVersion.contains, inside_clip, Inside]
  constructor
  · intro contains
    cases ends : version.effectiveTo with
    | none => rfl
    | some limit => exact absurd (contains.1.2 limit ends) (not_lt.mpr (Datetime.le_max limit))
  · intro unending
    rw [unending]
    exact ⟨⟨Datetime.le_max _, by simp⟩, by simp⟩

theorem History.inForce_max {instrumentId : String} (history : History instrumentId versions) :
    inForce Datetime.max versions = some version ↔
      versions.getLast? = some version ∧ version.effectiveTo = none := by
  rcases versions.eq_nil_or_concat with rfl | ⟨earlier, last, rfl⟩
  · simp [inForce]
  · rw [List.concat_eq_append] at history ⊢
    rw [history.inForce_append, if_pos (Datetime.le_max _), List.getLast?_concat]
    simp only [contains_max]
    by_cases unending : last.effectiveTo = none
    · rw [if_pos unending]
      constructor
      · intro same
        cases same
        exact ⟨rfl, unending⟩
      · exact And.left
    · rw [if_neg unending]
      constructor
      · intro absent
        cases absent
      · rintro ⟨same, ends⟩
        cases same
        exact absurd ends unending

/-- Intervals with a common instant overlap, unless it is the last `datetime`
and one of them starts there. -/
theorem overlap_of_inside {leftStart rightStart : Datetime} {leftEnd rightEnd : Option Datetime}
    (left : Inside leftStart leftEnd instant) (right : Inside rightStart rightEnd instant) :
    overlap leftStart leftEnd rightStart rightEnd ∨
      instant = Datetime.max ∧ (leftStart = Datetime.max ∨ rightStart = Datetime.max) := by
  -- an instant before an end, or else not after the last one
  have below : ∀ {start : Datetime} {stop : Option Datetime}, start ≤ instant →
      (∀ limit ∈ stop, instant < limit) →
      start < stop.getD Datetime.max ∨ instant = Datetime.max ∧ start = Datetime.max := by
    intro start stop started before
    cases stop with
    | some limit => exact Or.inl (started.trans_lt (before limit rfl))
    | none =>
        rcases lt_or_eq_of_le (Datetime.le_max start) with less | same
        · exact Or.inl less
        · exact Or.inr ⟨(Datetime.le_max instant).antisymm (same ▸ started), same⟩
  rcases below left.1 right.2 with first | ⟨last, starts⟩
  · rcases below right.1 left.2 with second | ⟨last, starts⟩
    · exact Or.inl ⟨first, second⟩
    · exact Or.inr ⟨last, Or.inr starts⟩
  · exact Or.inr ⟨last, Or.inl starts⟩

/-- The intervals of a registry are the segments of its histories. -/
theorem mem_intervals {state : Dict String (List (InstrumentVersion β))}
    (ordered : ∀ instrumentId, History instrumentId ((state.get? instrumentId).getD []))
    {instrumentId : String} {start : Datetime} {limit : Option Datetime} :
    (⟨instrumentId, version, start, limit⟩ : Interval β) ∈ intervals state ↔
      (version, limit) ∈ segments InstrumentVersion.effectiveFrom InstrumentVersion.effectiveTo
          ((state.get? instrumentId).getD []) ∧
        start = version.effectiveFrom := by
  have history := ordered instrumentId
  rw [intervals, List.mem_flatMap]
  constructor
  · rintro ⟨⟨key, versions⟩, stored, mapped⟩
    obtain ⟨segment, listed, equal⟩ := List.mem_map.mp mapped
    cases equal
    rw [Dict.mem_entries.mp stored, Option.getD_some] at history ⊢
    rw [history.byVersion_eq] at listed
    exact ⟨listed, rfl⟩
  · rintro ⟨listed, rfl⟩
    cases found : state.get? instrumentId with
    | none =>
        rw [found] at listed
        cases listed
    | some versions =>
        rw [found, Option.getD_some] at history listed
        refine ⟨(instrumentId, versions), Dict.mem_entries.mpr found, ?_⟩
        rw [history.byVersion_eq]
        exact List.mem_map.mpr ⟨(version, limit), listed, rfl⟩

instance : Std.Symm fun left right : Interval β => ¬ left.Conflicts right where
  symm _ _ apart conflicts :=
    apart ⟨conflicts.1.symm, conflicts.2.1.symm, conflicts.2.2.symm⟩

/-- The instruments of an admitted state answer together at the last `datetime`
only. -/
theorem Admitted.eq_max [DecidableEq β] (admitted : Admitted registry candidate)
    (ordered : ∀ instrumentId, History instrumentId
      (((registry.appended candidate).get? instrumentId).getD []))
    {left right : String} {first second : InstrumentVersion β} (different : left ≠ right)
    (firstFound : inForce instant (((registry.appended candidate).get? left).getD []) = some first)
    (secondFound :
      inForce instant (((registry.appended candidate).get? right).getD []) = some second)
    (same : first.SameSymbol second) :
    instant = Datetime.max ∧
      (first.effectiveFrom = Datetime.max ∨ second.effectiveFrom = Datetime.max) := by
  obtain ⟨firstEnd, firstListed, firstInside⟩ := (ordered left).inForce_eq_some.mp firstFound
  obtain ⟨secondEnd, secondListed, secondInside⟩ :=
    (ordered right).inForce_eq_some.mp secondFound
  have separate : ¬ Interval.Conflicts ⟨left, first, first.effectiveFrom, firstEnd⟩
      ⟨right, second, second.effectiveFrom, secondEnd⟩ :=
    admitted.disjoint.forall ((mem_intervals ordered).mpr ⟨firstListed, rfl⟩)
      ((mem_intervals ordered).mpr ⟨secondListed, rfl⟩)
      fun equal => different (congrArg Interval.instrumentId equal)
  apply (overlap_of_inside firstInside secondInside).resolve_left
  intro overlaps
  exact separate ⟨different, same, overlaps⟩

theorem mem_keys_of_inForce {instrumentId : String}
    (found : inForce instant (registry.versions instrumentId) = some version) :
    instrumentId ∈ registry.histories.keys := by
  rw [Dict.mem_keys]
  cases stored : registry.histories.get? instrumentId with
  | none =>
      rw [versions, stored] at found
      cases found
  | some history => exact ⟨history, rfl⟩

/-- The candidate of an admission answers for its instrument at the last
`datetime` when it has no end. -/
theorem Clash.of_inForce {instrumentId : String} (ordered : Ordered registry)
    (found : inForce Datetime.max (registry.versions instrumentId) = some version)
    (different : instrumentId ≠ candidate.instrumentId)
    (covers : (if candidate.contains Datetime.max none then some candidate else none) =
      some answer)
    (same : answer.SameSymbol version)
    (starts : answer.effectiveFrom = Datetime.max ∨ version.effectiveFrom = Datetime.max) :
    Clash registry candidate := by
  split at covers
  next contains =>
    cases covers
    have last := (ordered instrumentId).inForce_max.mp found
    exact ⟨contains_max.mp contains, instrumentId, mem_keys_of_inForce found, different, version,
      last.1, last.2, same, starts⟩
  next => cases covers

/-- An admission without a clash keeps the instruments apart. -/
theorem Apart.add [DecidableEq β] (apart : Apart registry) (ordered : Ordered registry)
    (safe : ¬ Clash registry candidate) : Apart (registry.add candidate).2 := by
  rcases add_cases registry candidate with unchanged | ⟨_, admitted, after⟩
  · rw [unchanged]
    exact apart
  intro left right instant first second firstFound secondFound same
  by_contra different
  have continued : ∀ instrumentId, History instrumentId
      (((registry.appended candidate).get? instrumentId).getD []) := by
    intro instrumentId
    have history := ordered.add candidate instrumentId
    rwa [after] at history
  have last := admitted.eq_max continued different
    (by rw [after] at firstFound; exact firstFound)
    (by rw [after] at secondFound; exact secondFound) same
  obtain ⟨rfl, starts⟩ := last
  rw [ordered.inForce_add admitted after] at firstFound secondFound
  simp only [Datetime.le_max, and_true] at firstFound secondFound
  by_cases ownLeft : candidate.instrumentId = left
  · rw [if_pos ownLeft] at firstFound
    rw [if_neg fun ownRight => different (ownLeft.symm.trans ownRight)] at secondFound
    exact safe (Clash.of_inForce ordered secondFound (ownLeft ▸ Ne.symm different) firstFound
      same starts)
  rw [if_neg ownLeft] at firstFound
  by_cases ownRight : candidate.instrumentId = right
  · rw [if_pos ownRight] at secondFound
    exact safe (Clash.of_inForce ordered firstFound (Ne.symm ownLeft) secondFound same.symm
      starts.symm)
  · rw [if_neg ownRight] at secondFound
    exact different (apart firstFound secondFound same)

end InstrumentRegistry

end AutoTrade.Instruments
