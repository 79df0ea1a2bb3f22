import AutoTrade.Instruments.History

/-!
# Stable lookups

Lookups over the runs of a registry: `at` answers with the version whose interval
has the instant, `resolve` is never ambiguous as long as no admission clashes at
the last `datetime`, and a new version changes no answer before its start.
-/

namespace AutoTrade.Instruments

open Lib

namespace InstrumentRegistry

variable {γ β : Type} {registry : InstrumentRegistry γ β} {instant : Datetime}
  {version candidate : InstrumentVersion β} {instrumentId : String}

/-! ## Lookups through the versions in force -/

theorem atInstant_eq (registry : InstrumentRegistry γ β) (instrumentId : String)
    (instant : Datetime) :
    registry.atInstant instrumentId instant =
      match inForce instant (registry.versions instrumentId) with
      | some version => .ok version
      | none => .error (.notFound
          (if registry.versions instrumentId = [] then "instrument_id is unknown"
          else "no instrument version is effective at requested instant")) := by
  rw [atInstant]
  cases registry.versions instrumentId with
  | nil => rfl
  | cons version rest =>
      cases found : inForce instant (version :: rest) with
      | none => simp [found]
      | some other => simp [found]

theorem atInstant_eq_ok :
    registry.atInstant instrumentId instant = .ok version ↔
      inForce instant (registry.versions instrumentId) = some version := by
  rw [atInstant_eq]
  cases inForce instant (registry.versions instrumentId) with
  | none => simp
  | some found => simp

theorem answers_eq (registry : InstrumentRegistry γ β) (instant : Datetime)
    (instrumentIds : List String) :
    registry.answers instant instrumentIds = .ok (instrumentIds.filterMap fun instrumentId =>
      inForce instant (registry.versions instrumentId)) := by
  induction instrumentIds with
  | nil => rfl
  | cons instrumentId rest ih =>
      rw [answers, atInstant_eq, List.filterMap_cons, ih]
      cases inForce instant (registry.versions instrumentId) <;> rfl

/-- `at` answers with the version whose interval has the instant. -/
theorem Ordered.atInstant_eq_ok (ordered : Ordered registry) :
    registry.atInstant instrumentId instant = .ok version ↔
      ∃ interval ∈ intervals registry.histories, interval.instrumentId = instrumentId ∧
        interval.version = version ∧ Inside interval.start interval.stop instant := by
  rw [InstrumentRegistry.atInstant_eq_ok, (ordered instrumentId).inForce_eq_some]
  constructor
  · rintro ⟨limit, listed, inside⟩
    exact ⟨⟨instrumentId, version, version.effectiveFrom, limit⟩,
      (mem_intervals ordered).mpr ⟨listed, rfl⟩, rfl, rfl, inside⟩
  · rintro ⟨⟨_, _, start, limit⟩, member, rfl, rfl, inside⟩
    obtain ⟨listed, rfl⟩ := (mem_intervals ordered).mp member
    exact ⟨limit, listed, inside⟩

theorem exists_notFound (absent : ∀ version,
    registry.atInstant instrumentId instant ≠ .ok version) :
    ∃ message, registry.atInstant instrumentId instant = .error (.notFound message) := by
  rw [atInstant_eq] at absent ⊢
  cases found : inForce instant (registry.versions instrumentId) with
  | some version =>
      rw [found] at absent
      exact absurd rfl (absent version)
  | none => exact ⟨_, rfl⟩

/-- The versions that answer to a provider symbol. -/
def matching (registry : InstrumentRegistry γ β) (provider venue symbol : String)
    (instant : Datetime) : List (InstrumentVersion β) :=
  (registry.histories.keys.filterMap fun instrumentId =>
    inForce instant (registry.versions instrumentId)).filter fun version =>
      version.providerId = provider ∧ version.venueId = venue ∧ version.providerSymbol = symbol

theorem resolve_eq (registry : InstrumentRegistry γ β) (providerId venueId providerSymbol : String)
    (instant : Datetime) :
    registry.resolve providerId venueId providerSymbol instant = (do
      let provider ← text providerId "provider_id"
      let venue ← text venueId "venue_id"
      let symbol ← text providerSymbol "provider_symbol"
      soleMatch (registry.matching provider venue symbol instant)) := by
  rw [resolve, answers_eq]
  rfl

/-- Instruments that are apart give a provider symbol at most one answer. -/
theorem Apart.matching_cases (apart : Apart registry) (provider venue symbol : String)
    (instant : Datetime) :
    registry.matching provider venue symbol instant = [] ∨
      ∃ version, registry.matching provider venue symbol instant = [version] := by
  have different : (registry.matching provider venue symbol instant).Pairwise
      fun left right => ¬ left.SameSymbol right := by
    apply List.Pairwise.filter
    rw [List.pairwise_filterMap]
    apply registry.histories.nodup.imp
    intro left right distinct first firstFound second secondFound same
    exact distinct (apart firstFound secondFound same)
  have named : ∀ version ∈ registry.matching provider venue symbol instant,
      version.providerId = provider ∧ version.venueId = venue ∧
        version.providerSymbol = symbol := by
    intro version member
    exact of_decide_eq_true (List.mem_filter.mp member).2
  match registry.matching provider venue symbol instant, different, named with
  | [], _, _ => exact Or.inl rfl
  | [version], _, _ => exact Or.inr ⟨version, rfl⟩
  | first :: second :: rest, different, named =>
      have one := named first List.mem_cons_self
      have two := named second (List.mem_cons_of_mem first List.mem_cons_self)
      have same : first.SameSymbol second :=
        ⟨one.1.trans two.1.symm, one.2.1.trans two.2.1.symm, one.2.2.trans two.2.2.symm⟩
      exact absurd same (List.rel_of_pairwise_cons different List.mem_cons_self)

theorem text_ne_conflict (value field message : String) :
    text value field ≠ .error (.conflict message) := by
  rw [text]
  split <;> simp

/-- A lookup by a provider symbol raises a conflict over its answers only. -/
theorem exists_soleMatch {providerId venueId providerSymbol message : String}
    (raised : registry.resolve providerId venueId providerSymbol instant =
      .error (.conflict message)) :
    ∃ provider venue symbol, soleMatch (registry.matching provider venue symbol instant) =
      .error (.conflict message) := by
  rw [resolve_eq, bind_eq_error] at raised
  obtain ⟨provider, _, raised⟩ := raised.resolve_left (text_ne_conflict _ _ _)
  rw [bind_eq_error] at raised
  obtain ⟨venue, _, raised⟩ := raised.resolve_left (text_ne_conflict _ _ _)
  rw [bind_eq_error] at raised
  obtain ⟨symbol, _, raised⟩ := raised.resolve_left (text_ne_conflict _ _ _)
  exact ⟨provider, venue, symbol, raised⟩

/-- Instruments that are apart make no lookup ambiguous. -/
theorem Apart.resolve_ne (apart : Apart registry)
    (providerId venueId providerSymbol message : String) (instant : Datetime) :
    registry.resolve providerId venueId providerSymbol instant ≠ .error (.conflict message) := by
  intro raised
  obtain ⟨provider, venue, symbol, several⟩ := exists_soleMatch raised
  rcases apart.matching_cases provider venue symbol instant with none | ⟨version, one⟩
  · rw [none] at several
    cases several
  · rw [one] at several
    cases several

/-! ## Answers before a new version -/

section Later

variable [DecidableEq β]

/-- A new version is not in force before its start, nor does it end another one
there. -/
theorem Ordered.inForce_add_of_lt (ordered : Ordered registry)
    (before : instant < candidate.effectiveFrom) (instrumentId : String) :
    inForce instant ((registry.add candidate).2.versions instrumentId) =
      inForce instant (registry.versions instrumentId) := by
  rcases add_cases registry candidate with unchanged | ⟨_, admitted, after⟩
  · rw [unchanged]
  · rw [ordered.inForce_add admitted after, if_neg fun started => not_le.mpr before started.2]

theorem Ordered.matching_add_of_lt (ordered : Ordered registry)
    (before : instant < candidate.effectiveFrom) (provider venue symbol : String) :
    (registry.add candidate).2.matching provider venue symbol instant =
      registry.matching provider venue symbol instant := by
  rw [matching, matching]
  simp only [ordered.inForce_add_of_lt before]
  rcases add_cases registry candidate with unchanged | ⟨_, admitted, after⟩
  · rw [unchanged]
  rw [after, InstrumentRegistry.appended, Dict.keys_set]
  split
  next => rfl
  next absent =>
    have nothing : registry.versions candidate.instrumentId = [] := by
      rw [versions, Dict.get?_eq_none.mpr absent]
      rfl
    rw [List.filterMap_append, List.filterMap_cons, nothing]
    exact congrArg _ (List.append_nil _)

theorem Ordered.resolve_add_of_lt (ordered : Ordered registry)
    (before : instant < candidate.effectiveFrom) (providerId venueId providerSymbol : String) :
    (registry.add candidate).2.resolve providerId venueId providerSymbol instant =
      registry.resolve providerId venueId providerSymbol instant := by
  simp only [resolve_eq, ordered.matching_add_of_lt before]

/-- The answer of an instrument; the message changes with its first version. -/
theorem Ordered.atInstant_add_of_lt (ordered : Ordered registry)
    (before : instant < candidate.effectiveFrom) (instrumentId : String) :
    ((registry.add candidate).2.atInstant instrumentId instant).toOption =
      (registry.atInstant instrumentId instant).toOption := by
  rw [atInstant_eq, atInstant_eq, ordered.inForce_add_of_lt before]
  cases inForce instant (registry.versions instrumentId) <;> rfl

theorem Ordered.atInstant_add_of_one_lt (ordered : Ordered registry)
    (later : 1 < candidate.version) (before : instant < candidate.effectiveFrom)
    (instrumentId : String) :
    (registry.add candidate).2.atInstant instrumentId instant =
      registry.atInstant instrumentId instant := by
  have known : (registry.add candidate).2.versions instrumentId = [] ↔
      registry.versions instrumentId = [] := by
    rcases add_cases registry candidate with unchanged | ⟨_, admitted, after⟩
    · rw [unchanged]
    rw [ordered.versions_add admitted after]
    split
    next own =>
      obtain ⟨_, first⟩ | ⟨earlier, last, history, _⟩ := checkHistory_cases admitted.history
      · exact absurd first later.ne'
      · rw [own] at history
        simp [history]
    next => exact Iff.rfl
  rw [atInstant_eq, atInstant_eq, ordered.inForce_add_of_lt before]
  simp only [known]

end Later

/-! ## Runs of a registry -/

theorem histories_addCalendar [DecidableEq γ] (registry : InstrumentRegistry γ β)
    (calendar : TradingCalendar γ) :
    (registry.addCalendar calendar).2.histories = registry.histories := by
  rw [InstrumentRegistry.addCalendar]
  split
  · rfl
  · split <;> rfl

section Runs

variable [DecidableEq γ] [DecidableEq β] {continuous : γ}

/-- The registries that calls of `add_calendar` and `add` reach, rejected calls
included, where every call of `add` meets a condition. -/
inductive Reaches (condition : InstrumentRegistry γ β → InstrumentVersion β → Prop)
    (continuous : γ) : InstrumentRegistry γ β → Prop where
  | new : Reaches condition continuous (new continuous)
  | addCalendar {registry : InstrumentRegistry γ β} (calendar : TradingCalendar γ) :
      Reaches condition continuous registry →
      Reaches condition continuous (registry.addCalendar calendar).2
  | add {registry : InstrumentRegistry γ β} {version : InstrumentVersion β} :
      Reaches condition continuous registry → condition registry version →
      Reaches condition continuous (registry.add version).2

/-- The run lemma for the histories. -/
theorem Reaches.ordered {condition : InstrumentRegistry γ β → InstrumentVersion β → Prop}
    (reaches : Reaches condition continuous registry) : Ordered registry := by
  induction reaches with
  | new => exact fun _ => History.nil
  | addCalendar calendar _ ih =>
      intro instrumentId
      rw [versions, histories_addCalendar]
      exact ih instrumentId
  | @add registry version _ _ ih => exact ih.add version

/-- The run lemma for the provider symbols. -/
theorem Reaches.apart
    (reaches : Reaches (fun registry version => ¬ Clash registry version) continuous registry) :
    Apart registry := by
  induction reaches with
  | new =>
      intro left right instant first second found
      cases found
  | addCalendar calendar _ ih =>
      intro left right instant first second firstFound secondFound
      rw [versions, histories_addCalendar] at firstFound secondFound
      exact ih firstFound secondFound
  | add reaches safe ih => exact ih.add reaches.ordered safe

/-- In a run without a clash at the last `datetime`, the histories are numbered
and increasing, `at` answers by the intervals, one instrument at most answers to
a provider symbol, a rejected call changes nothing, and a new version changes no
answer before its start. -/
theorem history_stable
    (reaches : Reaches (fun registry version => ¬ Clash registry version) continuous registry) :
    (∀ instrumentId,
      (registry.versions instrumentId).map InstrumentVersion.version =
          List.range' 1 (registry.versions instrumentId).length ∧
        (registry.versions instrumentId).Pairwise fun earlier later =>
          earlier.effectiveFrom < later.effectiveFrom) ∧
      (∀ instrumentId instant,
        (∀ version, registry.atInstant instrumentId instant = .ok version ↔
          ∃ interval ∈ intervals registry.histories, interval.instrumentId = instrumentId ∧
            interval.version = version ∧ Inside interval.start interval.stop instant) ∧
        ((∀ version, registry.atInstant instrumentId instant ≠ .ok version) →
          ∃ message, registry.atInstant instrumentId instant = .error (.notFound message))) ∧
      (∀ left right instant first second,
        registry.atInstant left instant = .ok first →
        registry.atInstant right instant = .ok second → first.SameSymbol second →
        left = right) ∧
      (∀ providerId venueId providerSymbol message instant,
        registry.resolve providerId venueId providerSymbol instant ≠
          .error (.conflict message)) ∧
      (∀ version error, (registry.add version).1 = .error error →
        (registry.add version).2 = registry) ∧
      ∀ version instant, instant < version.effectiveFrom →
        (∀ providerId venueId providerSymbol,
          (registry.add version).2.resolve providerId venueId providerSymbol instant =
            registry.resolve providerId venueId providerSymbol instant) ∧
        ∀ instrumentId,
          ((registry.add version).2.atInstant instrumentId instant).toOption =
              (registry.atInstant instrumentId instant).toOption ∧
            (1 < version.version →
              (registry.add version).2.atInstant instrumentId instant =
                registry.atInstant instrumentId instant) := by
  have ordered := reaches.ordered
  have apart : Apart registry := reaches.apart
  refine ⟨?_, ?_, ?_, ?_, ?_, ?_⟩
  · intro instrumentId
    exact ⟨(ordered instrumentId).numbered, (ordered instrumentId).increasing⟩
  · intro instrumentId instant
    exact ⟨fun version => ordered.atInstant_eq_ok, exists_notFound⟩
  · intro left right instant first second firstFound secondFound
    rw [InstrumentRegistry.atInstant_eq_ok] at firstFound secondFound
    exact apart firstFound secondFound
  · intro providerId venueId providerSymbol message instant
    exact apart.resolve_ne providerId venueId providerSymbol message instant
  · intro version error
    exact add_of_error
  · intro version instant before
    constructor
    · intro providerId venueId providerSymbol
      exact ordered.resolve_add_of_lt before providerId venueId providerSymbol
    · intro instrumentId
      exact ⟨ordered.atInstant_add_of_lt before instrumentId,
        fun later => ordered.atInstant_add_of_one_lt later before instrumentId⟩

end Runs

/-! ## Two instruments that change their symbol -/

section Samples

/-- A version of an instrument on one venue. -/
def quoted (instrumentId : String) (version : { version : Nat // 1 ≤ version })
    (providerSymbol : String) (effectiveFrom : Datetime) : InstrumentVersion Unit where
  instrumentId := instrumentId
  version := version
  providerId := "BROKER"
  venueId := "XNAS"
  providerSymbol := providerSymbol
  calendarId := "CONTINUOUS_24_7"
  timezoneId := "UTC"
  effectiveFrom := effectiveFrom
  effectiveTo := none
  content := ()
  version_pos := version.property
  ends_after _ limit := by cases limit

def january : Datetime := ⟨⟨1767225600000000⟩, by decide, by decide⟩

def july : Datetime := ⟨⟨1782864000000000⟩, by decide, by decide⟩

def alpha : String := "00000000-0000-4000-8000-000000000001"

def beta : String := "00000000-0000-4000-8000-000000000002"

/-- A symbol that passes from one instrument to another in July. -/
def renamed : InstrumentRegistry Unit Unit :=
  ((((new ()).add (quoted alpha ⟨1, le_rfl⟩ "ABC" january)).2.add
    (quoted alpha ⟨2, by decide⟩ "ABD" july)).2.add (quoted beta ⟨1, le_rfl⟩ "ABC" july)).2

theorem reaches_renamed :
    Reaches (fun registry version => ¬ Clash registry version) () renamed := by
  refine .add (.add (.add .new ?_) ?_) ?_ <;> decide +kernel

example : (renamed.resolve "BROKER" "XNAS" "ABC" january).toOption.map
      InstrumentVersion.instrumentId = some alpha ∧
    (renamed.resolve "BROKER" "XNAS" "ABC" july).toOption.map
      InstrumentVersion.instrumentId = some beta := by
  decide +kernel

theorem renamed_history_stable : renamed.resolve "BROKER" "XNAS" "ABC" july ≠
    .error (.conflict "provider symbol resolution is ambiguous") :=
  (history_stable reaches_renamed).2.2.2.1 "BROKER" "XNAS" "ABC"
    "provider symbol resolution is ambiguous" july

/-- One symbol with an open interval, and another instrument from the last
`datetime` on. -/
def crowded : InstrumentRegistry Unit Unit :=
  (((new ()).add (quoted alpha ⟨1, le_rfl⟩ "ABC" january)).2.add
    (quoted beta ⟨1, le_rfl⟩ "ABC" Datetime.max)).2

/-- Both instruments are admitted, and a lookup of the symbol is ambiguous. -/
theorem resolve_ambiguous :
    Reaches (fun _ _ => True) () crowded ∧
      crowded.resolve "BROKER" "XNAS" "ABC" Datetime.max =
        .error (.conflict "provider symbol resolution is ambiguous") := by
  constructor
  · exact .add (.add .new trivial) trivial
  · decide +kernel

end Samples

end InstrumentRegistry

end AutoTrade.Instruments
