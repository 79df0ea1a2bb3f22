import AutoTrade.Research.Vintages

/-!
# Point-in-time universes

The model of `vintages.point_in_time_universe`: the latest instrument version that was
effective and evidenced by a cutoff.  A row is compared with the version that is selected when
it is read, and with no other.
-/

namespace AutoTrade.Research

open Lib Provider Reconciliation

variable {π : Type}

/-- What the checks of an instrument version ask of an arbitrary object: its value where
its type is `int`, and its members where it is a `Mapping`. -/
class VersionObject (π : Type) where
  int? : π → Option Int
  members? : π → Option (Dict String (Scalar π))

/-! ## Readers -/

/-- Digits, in groups that single underscores separate. -/
def isGrouped : List Char → Bool
  | [] => false
  | [last] => last.isDigit
  | first :: '_' :: rest => first.isDigit && isGrouped rest
  | first :: rest => first.isDigit && isGrouped rest

/-- `int(text)`. -/
def intOfText (value : String) : Option Int :=
  let body := (strip value).toList
  let grouped := if body.head? = some '-' ∨ body.head? = some '+' then body.tail else body
  let digits := grouped.filter Char.isDigit
  if isGrouped grouped && digits.length ≤ Json.maxStrDigits then
    let magnitude := Nat.ofDigitChars 10 digits 0
    some (if body.head? = some '-' then -magnitude else magnitude)
  else none

/-- `_sequence`. -/
def sequence [VersionObject π] (value : Option (Scalar π)) (name : String) :
    Except HistoricalError Nat :=
  match value with
  | some (.text value) =>
      match intOfText value with
      | none => .error (.invalid s!"{name} must be a positive integer")
      | some parsed =>
          if parsed < 1 ∨ Nat.repr parsed.toNat ≠ value then
            .error (.invalid s!"{name} must be a canonical positive integer")
          else .ok parsed.toNat
  | some (.other value) =>
      match VersionObject.int? value with
      | none => .error (.invalid s!"{name} must be a positive canonical integer")
      | some parsed =>
          if parsed < 1 then
            .error (.invalid s!"{name} must be a canonical positive integer")
          else .ok parsed.toNat
  | _ => .error (.invalid s!"{name} must be a positive canonical integer")

/-- An item of the evidence as `_evidence` sees it. -/
def evidenceItem [VersionObject π] (item : Scalar π) : Field π :=
  match item with
  | .other value =>
      match VersionObject.members? value with
      | some members => .mapping true members
      | none => .scalar item
  | _ => .scalar item

/-- What the loop reads of a row. -/
structure VersionFacts where
  instrumentId : String
  version : Nat
  effectiveFrom : Instant
  knownAt : Instant
  deriving DecidableEq, Repr

/-- The row is effective and evidenced by the cutoff. -/
def VersionFacts.visible (facts : VersionFacts) (point : Instant) : Bool :=
  !(point < facts.effectiveFrom || point < facts.knownAt)

section Loop

variable [IsoFormat] [UuidFormat] [VersionObject π]

/-- The checks of one row. -/
def readVersion (row : RawEvent π) : Except HistoricalError VersionFacts := do
  let instrumentId ← uuid (row.scalar? "instrument_id") "instrument_id"
  let version ← sequence (row.scalar? "version") "version"
  let effectiveFrom ← utc (row.scalar? "effective_from") "effective_from"
  match row.get? "metadata_evidence" with
  | some (.list (first :: rest)) => do
      let known ← evidence (some (evidenceItem first))
      let others ← rest.mapM fun item => evidence (some (evidenceItem item))
      pure ⟨instrumentId, version, effectiveFrom, others.foldl max known⟩
  | _ => .error (.invalid "historical instrument version requires metadata evidence")

variable {F : Type} [PythonObject F π] [FloatText F]

/-- One iteration of `point_in_time_universe`. -/
def selectVersion (point : Instant) (selected : Dict String (Nat × RawEvent π))
    (row : RawEvent π) : Except HistoricalError (Dict String (Nat × RawEvent π)) := do
  let facts ← readVersion row
  if !facts.visible point then .ok selected
  else match selected.get? facts.instrumentId with
    | none => .ok (selected.set facts.instrumentId (facts.version, row))
    | some previous =>
        if previous.1 < facts.version then
          .ok (selected.set facts.instrumentId (facts.version, row))
        else if facts.version = previous.1 then do
          let bytes ← canonicalBytes row
          let previousBytes ← canonicalBytes previous.2
          if bytes ≠ previousBytes then
            .error (.conflict "same instrument version has conflicting bytes")
          else .ok selected
        else .ok selected

/-- The key of the returned order. -/
def instrumentKey (row : RawEvent π) : String := (exactText (row.scalar? "instrument_id")).getD ""

/-- `point_in_time_universe`. -/
def pointInTimeUniverse (rows : List (RawEvent π)) (cutoff : Scalar π) :
    Except HistoricalError (List (RawEvent π)) := do
  let point ← utc (some cutoff) "cutoff"
  let selected ← rows.foldlM (selectVersion point) ∅
  pure ((selected.values.map Prod.snd).insertionSort fun left right =>
    instrumentKey left ≤ instrumentKey right)

/-! ## Well-formed rows -/

/-- A row that passes its checks and has canonical bytes. -/
structure InstrumentRow (π : Type) [PythonObject F π] [VersionObject π] where
  row : RawEvent π
  facts : VersionFacts
  canonical : String
  read : readVersion row = .ok facts
  encoded : canonicalBytes row = .ok canonical

namespace InstrumentRow

/-- Two rows of one instrument with one version and different content. -/
def Contradicts (first second : InstrumentRow π) : Prop :=
  first.facts.instrumentId = second.facts.instrumentId ∧
    first.facts.version = second.facts.version ∧ first.canonical ≠ second.canonical

theorem Contradicts.symm {first second : InstrumentRow π} (other : first.Contradicts second) :
    second.Contradicts first :=
  ⟨other.1.symm, other.2.1.symm, other.2.2.symm⟩

/-- No row of the instrument has a higher version. -/
def Highest (version : InstrumentRow π) (versions : List (InstrumentRow π)) : Prop :=
  ∀ other ∈ versions, other.facts.instrumentId = version.facts.instrumentId →
    other.facts.version ≤ version.facts.version

end InstrumentRow

/-- The rows that are visible by the cutoff. -/
def visibleRows (point : Instant) (versions : List (InstrumentRow π)) : List (InstrumentRow π) :=
  versions.filter fun version => version.facts.visible point

/-- Two of the rows contradict each other. -/
def Contradictory (versions : List (InstrumentRow π)) : Prop :=
  ∃ first ∈ versions, ∃ second ∈ versions, first.Contradicts second

/-- Two rows with the highest version of their instrument contradict each other. -/
def ContradictoryAtLatest (versions : List (InstrumentRow π)) : Prop :=
  ∃ first ∈ versions, ∃ second ∈ versions, first.Contradicts second ∧ first.Highest versions

/-! ## The loop -/

/-- What the loop has selected from the visible rows read so far. -/
structure Chosen (selected : Dict String (Nat × RawEvent π)) (read : List (InstrumentRow π)) :
    Prop where
  latest : ∀ id item, selected.get? id = some item →
    ∃ version ∈ read, item = (version.facts.version, version.row) ∧
      version.facts.instrumentId = id ∧ version.Highest read ∧
        ∀ other ∈ read, ¬ other.Contradicts version
  covers : ∀ version ∈ read, ∃ item, selected.get? version.facts.instrumentId = some item

/-- The row contradicts an earlier one, and no earlier row has a higher version. -/
def Noticed (read : List (InstrumentRow π)) (version : InstrumentRow π) : Prop :=
  version.Highest read ∧ ∃ other ∈ read, other.Contradicts version

theorem chosen_empty : Chosen (∅ : Dict String (Nat × RawEvent π)) ([] : List (InstrumentRow π)) :=
  ⟨fun _ _ found => absurd found.symm (Option.some_ne_none _),
    fun _ member => absurd member List.not_mem_nil⟩

/-- A row that is not visible leaves the selection. -/
theorem selectVersion_hidden {point : Instant} {selected : Dict String (Nat × RawEvent π)}
    {version : InstrumentRow π} (hidden : version.facts.visible point = false) :
    selectVersion point selected version.row = .ok selected := by
  rw [selectVersion, version.read, ok_bind, hidden]
  rfl

theorem foldlM_visibleRows {point : Instant} (selected : Dict String (Nat × RawEvent π))
    (versions : List (InstrumentRow π)) :
    (versions.map InstrumentRow.row).foldlM (selectVersion point) selected =
      ((visibleRows point versions).map InstrumentRow.row).foldlM (selectVersion point)
        selected := by
  induction versions generalizing selected with
  | nil => rfl
  | cons version rest ih =>
      cases seen : version.facts.visible point with
      | true =>
          have kept : visibleRows point (version :: rest) = version :: visibleRows point rest :=
            List.filter_cons_of_pos seen
          rw [kept, List.map_cons, List.map_cons, List.foldlM_cons, List.foldlM_cons]
          apply congrArg
          funext next
          exact ih next
      | false =>
          have dropped : visibleRows point (version :: rest) = visibleRows point rest :=
            List.filter_cons_of_neg (by simp [seen])
          rw [dropped, List.map_cons, List.foldlM_cons, selectVersion_hidden seen, ok_bind]
          exact ih selected

/-- A row with a version above the selected one is selected. -/
theorem Chosen.insert {selected : Dict String (Nat × RawEvent π)} {read : List (InstrumentRow π)}
    {version : InstrumentRow π} (held : Chosen selected read)
    (above : ∀ other ∈ read, other.facts.instrumentId = version.facts.instrumentId →
      other.facts.version < version.facts.version) :
    Chosen (selected.set version.facts.instrumentId (version.facts.version, version.row))
      (read ++ [version]) := by
  constructor
  · intro id item found
    rw [Dict.get?_set] at found
    split at found
    next same =>
      cases found
      refine ⟨version, by simp, rfl, same, ?_, ?_⟩
      · intro other member own
        rcases List.mem_append.mp member with earlier | last
        · exact (above other earlier own).le
        · rw [List.mem_singleton.mp last]
      · intro other member contradiction
        rcases List.mem_append.mp member with earlier | last
        · exact absurd contradiction.2.1 (above other earlier contradiction.1).ne
        · rw [List.mem_singleton.mp last] at contradiction
          exact contradiction.2.2 rfl
    next different =>
      obtain ⟨latest, member, equal, own, bound, agrees⟩ := held.latest id item found
      have other : version.facts.instrumentId ≠ latest.facts.instrumentId := by
        rw [own]
        exact different
      refine ⟨latest, List.mem_append_left _ member, equal, own, ?_, ?_⟩
      · intro third thirdMem thirdOwn
        rcases List.mem_append.mp thirdMem with earlier | last
        · exact bound third earlier thirdOwn
        · rw [List.mem_singleton.mp last] at thirdOwn
          exact absurd thirdOwn other
      · intro third thirdMem contradiction
        rcases List.mem_append.mp thirdMem with earlier | last
        · exact agrees third earlier contradiction
        · rw [List.mem_singleton.mp last] at contradiction
          exact other contradiction.1
  · intro other member
    rw [Dict.get?_set]
    split
    next => exact ⟨_, rfl⟩
    next different =>
      rcases List.mem_append.mp member with earlier | last
      · exact held.covers other earlier
      · rw [List.mem_singleton.mp last] at different
        exact absurd rfl different

/-- A row that is no higher than a version of the instrument and agrees with it is passed over. -/
theorem Chosen.skip {selected : Dict String (Nat × RawEvent π)} {read : List (InstrumentRow π)}
    {version latest : InstrumentRow π} (held : Chosen selected read) (member : latest ∈ read)
    (own : latest.facts.instrumentId = version.facts.instrumentId)
    (below : version.facts.version ≤ latest.facts.version)
    (agrees : ¬ version.Contradicts latest) : Chosen selected (read ++ [version]) := by
  constructor
  · intro id item found
    obtain ⟨kept, keptMem, equal, keptOwn, bound, keptAgrees⟩ := held.latest id item found
    refine ⟨kept, List.mem_append_left _ keptMem, equal, keptOwn, ?_, ?_⟩
    · intro other otherMem otherOwn
      rcases List.mem_append.mp otherMem with earlier | last
      · exact bound other earlier otherOwn
      · rw [List.mem_singleton.mp last] at otherOwn ⊢
        exact below.trans (bound latest member (own.trans otherOwn))
    · intro other otherMem contradiction
      rcases List.mem_append.mp otherMem with earlier | last
      · exact keptAgrees other earlier contradiction
      · rw [List.mem_singleton.mp last] at contradiction
        obtain ⟨sameId, sameVersion, different⟩ := contradiction
        have latestOwn := own.trans sameId
        have level : latest.facts.version = kept.facts.version :=
          (bound latest member latestOwn).antisymm (sameVersion ▸ below)
        have first : version.canonical = latest.canonical := by
          by_contra other
          exact agrees ⟨own.symm, sameVersion.trans level.symm, other⟩
        have second : latest.canonical = kept.canonical := by
          by_contra other
          exact keptAgrees latest member ⟨latestOwn, level, other⟩
        exact different (first.trans second)
  · intro other otherMem
    rcases List.mem_append.mp otherMem with earlier | last
    · exact held.covers other earlier
    · rw [List.mem_singleton.mp last, ← own]
      exact held.covers latest member

/-- The step lemma: a visible row is refused exactly when it is noticed. -/
theorem Chosen.step {point : Instant} {selected : Dict String (Nat × RawEvent π)}
    {read : List (InstrumentRow π)} {version : InstrumentRow π} (held : Chosen selected read)
    (seen : version.facts.visible point = true) :
    (Noticed read version ∧ ∃ message,
        selectVersion point selected version.row = .error (.conflict message)) ∨
      (¬ Noticed read version ∧ ∃ next, selectVersion point selected version.row = .ok next ∧
        Chosen next (read ++ [version])) := by
  rw [selectVersion, version.read, ok_bind, seen]
  cases found : selected.get? version.facts.instrumentId with
  | none =>
      have fresh : ∀ other ∈ read, other.facts.instrumentId ≠ version.facts.instrumentId := by
        intro other member same
        obtain ⟨item, present⟩ := held.covers other member
        rw [same, found] at present
        cases present
      right
      refine ⟨?_, _, rfl, held.insert fun other member same => absurd same (fresh other member)⟩
      intro noticed
      obtain ⟨other, member, contradiction⟩ := noticed.2
      exact fresh other member contradiction.1
  | some previous =>
      obtain ⟨latest, member, rfl, own, bound, agrees⟩ := held.latest _ previous found
      dsimp only
      rw [if_neg (by simp)]
      split
      next above =>
        have higher : ∀ other ∈ read, other.facts.instrumentId = version.facts.instrumentId →
            other.facts.version < version.facts.version := by
          intro other otherMem same
          exact (bound other otherMem (same.trans own.symm)).trans_lt above
        right
        refine ⟨?_, _, rfl, held.insert higher⟩
        intro noticed
        obtain ⟨other, otherMem, contradiction⟩ := noticed.2
        exact absurd contradiction.2.1 (higher other otherMem contradiction.1).ne
      next notAbove =>
        split
        next level =>
          rw [version.encoded, ok_bind, latest.encoded, ok_bind]
          split
          next different =>
            left
            refine ⟨⟨?_, latest, member, own, level.symm, Ne.symm different⟩, _, rfl⟩
            intro other otherMem same
            rw [level]
            exact bound other otherMem (same.trans own.symm)
          next same =>
            have equal : version.canonical = latest.canonical := not_not.mp same
            right
            refine ⟨?_, _, rfl, held.skip member own level.le fun contradiction =>
              contradiction.2.2 equal⟩
            intro noticed
            obtain ⟨other, otherMem, contradiction⟩ := noticed.2
            apply agrees other otherMem
            refine ⟨contradiction.1.trans own.symm, contradiction.2.1.trans level, ?_⟩
            rw [← equal]
            exact contradiction.2.2
        next notLevel =>
          have below : version.facts.version < latest.facts.version := by omega
          right
          refine ⟨?_, _, rfl, held.skip member own below.le fun contradiction =>
            absurd contradiction.2.1 below.ne⟩
          intro noticed
          have limit := noticed.1 latest member own
          omega

/-- One of the rows is noticed after the rows before it. -/
def NoticedAfter (read more : List (InstrumentRow π)) : Prop :=
  ∃ before version after, more = before ++ version :: after ∧ Noticed (read ++ before) version

theorem noticedAfter_cons {read rest : List (InstrumentRow π)} {version : InstrumentRow π} :
    NoticedAfter read (version :: rest) ↔
      Noticed read version ∨ NoticedAfter (read ++ [version]) rest := by
  constructor
  · intro ⟨before, other, after, split, noticed⟩
    cases before with
    | nil =>
        rw [List.nil_append, List.cons.injEq] at split
        rw [List.append_nil, ← split.1] at noticed
        exact Or.inl noticed
    | cons first before =>
        rw [List.cons_append, List.cons.injEq] at split
        right
        refine ⟨before, other, after, split.2, ?_⟩
        rwa [List.append_assoc, split.1]
  · intro cases_
    rcases cases_ with noticed | ⟨before, other, after, split, noticed⟩
    · refine ⟨[], version, rest, rfl, ?_⟩
      rwa [List.append_nil]
    · refine ⟨version :: before, other, after, by rw [split, List.cons_append], ?_⟩
      rwa [List.append_assoc] at noticed

/-- The run lemma: the loop is refused exactly when it notices a row. -/
theorem Chosen.run {point : Instant} {selected : Dict String (Nat × RawEvent π)}
    {read more : List (InstrumentRow π)} (held : Chosen selected read)
    (seen : ∀ version ∈ more, version.facts.visible point = true) :
    (NoticedAfter read more ∧ ∃ message,
        (more.map InstrumentRow.row).foldlM (selectVersion point) selected =
          .error (.conflict message)) ∨
      (¬ NoticedAfter read more ∧ ∃ final,
        (more.map InstrumentRow.row).foldlM (selectVersion point) selected = .ok final ∧
          Chosen final (read ++ more)) := by
  induction more generalizing selected read with
  | nil =>
      right
      refine ⟨?_, selected, rfl, by rwa [List.append_nil]⟩
      intro ⟨before, version, after, split, _⟩
      exact absurd split (by simp)
  | cons version rest ih =>
      rw [List.forall_mem_cons] at seen
      rw [noticedAfter_cons, List.map_cons, List.foldlM_cons]
      rcases held.step seen.1 with ⟨noticed, message, refused⟩ | ⟨unnoticed, next, step, grown⟩
      · left
        rw [refused]
        exact ⟨Or.inl noticed, message, rfl⟩
      · rw [step, ok_bind, List.append_cons read version rest]
        rcases ih grown seen.2 with ⟨noticed, refused⟩ | ⟨others, returned⟩
        · exact Or.inl ⟨Or.inr noticed, refused⟩
        · exact Or.inr ⟨fun either => either.elim unnoticed others, returned⟩

/-! ## The order of the rows -/

/-- A contradiction at a highest version is noticed in every order. -/
theorem ContradictoryAtLatest.noticed {versions : List (InstrumentRow π)}
    (contradictory : ContradictoryAtLatest versions) : NoticedAfter [] versions := by
  obtain ⟨first, firstMem, second, secondMem, contradiction, highest⟩ := contradictory
  obtain ⟨before, after, rfl⟩ := List.append_of_mem firstMem
  rcases List.mem_append.mp secondMem with earlier | later
  · refine ⟨before, first, after, rfl, ?_, second, earlier, contradiction.symm⟩
    intro other member same
    exact highest other (List.mem_append_left _ member) same
  · rcases List.mem_cons.mp later with rfl | last
    · exact absurd rfl contradiction.2.2
    · obtain ⟨between, rest, rfl⟩ := List.append_of_mem last
      refine ⟨before ++ first :: between, second, rest, by simp, ?_, first, by simp,
        contradiction⟩
      intro other member same
      rw [← contradiction.2.1]
      apply highest other _ (same.trans contradiction.1.symm)
      rw [List.nil_append] at member
      rcases List.mem_append.mp member with front | back
      · exact List.mem_append_left _ front
      · rcases List.mem_cons.mp back with rfl | middle
        · simp
        · simp [middle]

/-- Where the highest versions come first, only their contradictions are noticed. -/
theorem NoticedAfter.latest {versions : List (InstrumentRow π)}
    (descending : versions.Pairwise fun left right => right.facts.version ≤ left.facts.version)
    (noticed : NoticedAfter [] versions) : ContradictoryAtLatest versions := by
  obtain ⟨before, version, after, rfl, highest, other, member, contradiction⟩ := noticed
  rw [List.nil_append] at highest member
  refine ⟨version, by simp, other, by simp [member], contradiction.symm, ?_⟩
  intro third thirdMem same
  rcases List.mem_append.mp thirdMem with earlier | later
  · exact highest third earlier same
  · rcases List.mem_cons.mp later with rfl | last
    · exact le_refl _
    · have ordered := (List.pairwise_append.mp descending).2.1
      exact (List.pairwise_cons.mp ordered).1 third last

theorem NoticedAfter.contradictory {versions : List (InstrumentRow π)}
    (noticed : NoticedAfter [] versions) : Contradictory versions := by
  obtain ⟨before, version, after, rfl, -, other, member, contradiction⟩ := noticed
  rw [List.nil_append] at member
  exact ⟨other, by simp [member], version, by simp, contradiction⟩

theorem Contradictory.perm {versions others : List (InstrumentRow π)}
    (perm : others.Perm versions) : Contradictory others ↔ Contradictory versions := by
  simp only [Contradictory, perm.mem_iff]

theorem ContradictoryAtLatest.perm {versions others : List (InstrumentRow π)}
    (perm : others.Perm versions) :
    ContradictoryAtLatest others ↔ ContradictoryAtLatest versions := by
  simp only [ContradictoryAtLatest, InstrumentRow.Highest, perm.mem_iff]

/-! ## The universe -/

/-- The rows of a universe: one visible row of each instrument that has one, with the highest
version. -/
structure Selection (versions chosen : List (InstrumentRow π)) : Prop where
  distinct : (chosen.map fun version => version.facts.instrumentId).Nodup
  highest : ∀ version ∈ chosen, version ∈ versions ∧ version.Highest versions
  covers : ∀ other ∈ versions, ∃ version ∈ chosen,
    version.facts.instrumentId = other.facts.instrumentId

/-- What the loop selects are rows of a universe. -/
theorem Chosen.selection {selected : Dict String (Nat × RawEvent π)}
    {versions : List (InstrumentRow π)} (held : Chosen selected versions) :
    ∃ chosen, selected.values.map Prod.snd = chosen.map InstrumentRow.row ∧
      Selection versions chosen := by
  have listed : ∀ entry ∈ selected.entries, ∃ version ∈ versions,
      entry.2 = (version.facts.version, version.row) ∧
        version.facts.instrumentId = entry.1 ∧ version.Highest versions := by
    intro entry member
    obtain ⟨version, inside, equal, own, bound, -⟩ :=
      held.latest entry.1 entry.2 (Dict.mem_entries.mp member)
    exact ⟨version, inside, equal, own, bound⟩
  obtain ⟨chosen, pairs⟩ := exists_forall₂ listed
  have rows : selected.values.map Prod.snd = chosen.map InstrumentRow.row := by
    rw [Dict.values, List.map_map, ← List.forall₂_eq_eq_eq, List.forall₂_map_left_iff,
      List.forall₂_map_right_iff]
    exact pairs.imp fun _ _ related => congrArg Prod.snd related.2.1
  have identities : selected.keys = chosen.map fun version => version.facts.instrumentId := by
    rw [Dict.keys, ← List.forall₂_eq_eq_eq, List.forall₂_map_left_iff,
      List.forall₂_map_right_iff]
    exact pairs.imp fun _ _ related => related.2.2.1.symm
  refine ⟨chosen, rows, ?_, ?_, ?_⟩
  · rw [← identities]
    exact selected.nodup_keys
  · intro version member
    obtain ⟨entry, -, inside, -, -, bound⟩ := exists_of_mem_forall₂ pairs member
    exact ⟨inside, bound⟩
  · intro other member
    obtain ⟨item, found⟩ := held.covers other member
    have key : other.facts.instrumentId ∈
        chosen.map (fun version => version.facts.instrumentId) := by
      rw [← identities, Dict.mem_keys]
      exact ⟨item, found⟩
    obtain ⟨version, present, same⟩ := List.mem_map.mp key
    exact ⟨version, present, same⟩

/-- The rows sorted by the identity as it was given. -/
def sortedById (versions : List (InstrumentRow π)) : List (InstrumentRow π) :=
  versions.insertionSort fun left right => instrumentKey left.row ≤ instrumentKey right.row

namespace InstrumentRow

/-- The identity of a row is read from a text. -/
theorem instrument_text (version : InstrumentRow π) :
    ∃ raw, version.row.scalar? "instrument_id" = some (.text raw) ∧
      instrumentKey version.row = raw ∧
        uuid (some (.text raw : Scalar π)) "instrument_id" = .ok version.facts.instrumentId := by
  have read := version.read
  rw [readVersion, bind_eq_ok] at read
  obtain ⟨id, named, rest⟩ := read
  have identity : version.facts.instrumentId = id := by
    simp only [bind_eq_ok] at rest
    obtain ⟨_, -, _, -, rest⟩ := rest
    split at rest
    next =>
      simp only [bind_eq_ok, pure_eq_ok] at rest
      obtain ⟨_, -, _, -, equal⟩ := rest
      rw [← equal]
    next => cases rest
  obtain ⟨raw, found⟩ := uuid_eq_ok named
  refine ⟨raw, found, ?_, ?_⟩
  · rw [instrumentKey, found]
    rfl
  · rw [identity, ← found]
    exact named

/-- Rows with one sort key belong to one instrument. -/
theorem instrumentId_of_key {first second : InstrumentRow π}
    (same : instrumentKey first.row = instrumentKey second.row) :
    first.facts.instrumentId = second.facts.instrumentId := by
  obtain ⟨raw, -, key, read⟩ := first.instrument_text
  obtain ⟨other, -, otherKey, otherRead⟩ := second.instrument_text
  have texts : raw = other := by rw [← key, same, otherKey]
  rw [texts, otherRead] at read
  exact (Except.ok.inj read).symm

/-- Rows with the same canonical bytes have one sort key. -/
theorem key_of_canonical {first second : InstrumentRow π}
    (same : first.canonical = second.canonical) :
    instrumentKey first.row = instrumentKey second.row := by
  obtain ⟨raw, found, key, -⟩ := first.instrument_text
  obtain ⟨other, otherFound, otherKey, -⟩ := second.instrument_text
  have bytes : SameBytes first.row second.row :=
    ⟨first.canonical, first.encoded, same ▸ second.encoded⟩
  have equal := bytes.scalar? found otherFound
  rw [instrumentKey, instrumentKey, equal]

end InstrumentRow

/-- The sort key and the bytes of a row. -/
def keyedBytes (version : InstrumentRow π) : String × String :=
  (instrumentKey version.row, version.canonical)

theorem Selection.nodup_keys {versions chosen : List (InstrumentRow π)}
    (selection : Selection versions chosen) :
    (chosen.map fun version => instrumentKey version.row).Nodup := by
  have distinct := selection.distinct
  rw [List.nodup_iff_pairwise_ne, List.pairwise_map] at distinct ⊢
  exact distinct.imp fun different same => different (InstrumentRow.instrumentId_of_key same)

/-- Without a contradiction the row of an instrument has the same bytes in every order. -/
theorem Selection.mem_keyedBytes {versions others chosen selected : List (InstrumentRow π)}
    (perm : others.Perm versions) (consistent : ¬ Contradictory versions)
    (selection : Selection versions chosen) (other : Selection others selected)
    {item : String × String} (member : item ∈ chosen.map keyedBytes) :
    item ∈ selected.map keyedBytes := by
  obtain ⟨version, listed, rfl⟩ := List.mem_map.mp member
  obtain ⟨inside, highest⟩ := selection.highest version listed
  obtain ⟨second, present, same⟩ := other.covers version (perm.mem_iff.mpr inside)
  obtain ⟨secondInside, secondHighest⟩ := other.highest second present
  have level : second.facts.version = version.facts.version :=
    (highest second (perm.mem_iff.mp secondInside) same).antisymm
      (secondHighest version (perm.mem_iff.mpr inside) same.symm)
  have bytes : second.canonical = version.canonical := by
    by_contra different
    exact consistent ⟨second, perm.mem_iff.mp secondInside, version, inside, same, level,
      different⟩
  rw [List.mem_map]
  refine ⟨second, present, ?_⟩
  rw [keyedBytes, keyedBytes, InstrumentRow.key_of_canonical bytes, bytes]

theorem sortedById_perm (versions : List (InstrumentRow π)) :
    (sortedById versions).Perm versions := by
  rw [sortedById]
  exact List.perm_insertionSort _ versions

/-- Two selections from the same rows without a contradiction are returned with the same
bytes. -/
theorem Selection.same_bytes {versions others chosen selected : List (InstrumentRow π)}
    (perm : others.Perm versions) (consistent : ¬ Contradictory versions)
    (selection : Selection versions chosen) (other : Selection others selected) :
    (sortedById chosen).map keyedBytes = (sortedById selected).map keyedBytes := by
  have nodup {rows source : List (InstrumentRow π)} (held : Selection source rows) :
      (rows.map keyedBytes).Nodup := by
    apply List.Nodup.of_map Prod.fst
    rw [List.map_map]
    exact held.nodup_keys
  have sorted (rows : List (InstrumentRow π)) :
      ((sortedById rows).map keyedBytes).Pairwise fun left right => left.1 ≤ right.1 := by
    rw [List.pairwise_map]
    have total : Std.Total fun left right : InstrumentRow π =>
      instrumentKey left.row ≤ instrumentKey right.row := ⟨fun left right => le_total _ _⟩
    have transitive : IsTrans (InstrumentRow π) fun left right =>
      instrumentKey left.row ≤ instrumentKey right.row := ⟨fun _ _ _ => le_trans⟩
    exact List.pairwise_insertionSort
      (fun left right : InstrumentRow π => instrumentKey left.row ≤ instrumentKey right.row) rows
  have permuted : ((sortedById chosen).map keyedBytes).Perm
      ((sortedById selected).map keyedBytes) := by
    refine ((sortedById_perm chosen).map _).trans (List.Perm.trans ?_
      ((sortedById_perm selected).map _).symm)
    rw [List.perm_ext_iff_of_nodup (nodup selection) (nodup other)]
    intro item
    constructor
    · exact selection.mem_keyedBytes perm consistent other
    · exact other.mem_keyedBytes perm.symm
        (fun contradictory => consistent ((Contradictory.perm perm).mp contradictory)) selection
  apply permuted.eq_of_pairwise _ (sorted chosen) (sorted selected)
  intro left right leftMem rightMem below above
  obtain ⟨first, firstMem, rfl⟩ := List.mem_map.mp (permuted.mem_iff.mp leftMem)
  obtain ⟨second, secondMem, rfl⟩ := List.mem_map.mp rightMem
  have same := List.inj_on_of_nodup_map other.nodup_keys
    ((sortedById_perm selected).mem_iff.mp firstMem)
    ((sortedById_perm selected).mem_iff.mp secondMem) (le_antisymm below above)
  rw [same]

/-- What the call does with well-formed rows. -/
theorem pointInTimeUniverse_cases (versions : List (InstrumentRow π)) (point : Instant) :
    (NoticedAfter [] (visibleRows point versions) ∧ ∃ message,
        pointInTimeUniverse (versions.map InstrumentRow.row) (.datetime (.aware point)) =
          .error (.conflict message)) ∨
      (¬ NoticedAfter [] (visibleRows point versions) ∧ ∃ chosen,
        pointInTimeUniverse (versions.map InstrumentRow.row) (.datetime (.aware point)) =
          .ok ((sortedById chosen).map InstrumentRow.row) ∧
            Selection (visibleRows point versions) chosen) := by
  have seen : ∀ version ∈ visibleRows point versions, version.facts.visible point = true :=
    fun version member => (List.mem_filter.mp member).2
  have cutoff : utc (some (.datetime (.aware point) : Scalar π)) "cutoff" = .ok point := rfl
  rw [pointInTimeUniverse, cutoff, ok_bind, foldlM_visibleRows]
  rcases chosen_empty.run seen with ⟨noticed, message, refused⟩ | ⟨unnoticed, final, looped, held⟩
  · left
    rw [refused]
    exact ⟨noticed, message, rfl⟩
  · right
    rw [List.nil_append] at held
    obtain ⟨chosen, rows, selection⟩ := held.selection
    refine ⟨unnoticed, chosen, ?_, selection⟩
    rw [looped, ok_bind, rows, sortedById, List.map_insertionSort
      (fun left right : InstrumentRow π => instrumentKey left.row ≤ instrumentKey right.row)
      (fun left right => instrumentKey left ≤ instrumentKey right) InstrumentRow.row _
      (fun _ _ _ _ => Iff.rfl)]
    rfl

/-! ## Independence of the order -/

/-- The universe of the rows does not depend on their order: a conflict is raised exactly when
two visible rows contradict each other, and otherwise the latest visible rows are returned. -/
structure OrderIndependent (versions : List (InstrumentRow π)) (point : Instant) : Prop where
  permuted : ∀ others : List (InstrumentRow π), others.Perm versions →
    SameOutcome (pointInTimeUniverse (others.map InstrumentRow.row) (.datetime (.aware point)))
      (pointInTimeUniverse (versions.map InstrumentRow.row) (.datetime (.aware point)))
  raises : (∃ message, pointInTimeUniverse (versions.map InstrumentRow.row)
      (.datetime (.aware point)) = .error (.conflict message)) ↔
    Contradictory (visibleRows point versions)
  returns : ¬ Contradictory (visibleRows point versions) → ∃ chosen,
    pointInTimeUniverse (versions.map InstrumentRow.row) (.datetime (.aware point)) =
        .ok (chosen.map InstrumentRow.row) ∧
      Selection (visibleRows point versions) chosen

theorem Selection.perm {versions chosen others : List (InstrumentRow π)}
    (selection : Selection versions chosen) (perm : others.Perm chosen) :
    Selection versions others := by
  refine ⟨(perm.map _).nodup_iff.mpr selection.distinct, ?_, ?_⟩
  · intro version member
    exact selection.highest version (perm.mem_iff.mp member)
  · intro other member
    obtain ⟨version, listed, same⟩ := selection.covers other member
    exact ⟨version, perm.mem_iff.mpr listed, same⟩

theorem map_canonicalBytes_row (versions : List (InstrumentRow π)) :
    (versions.map InstrumentRow.row).map canonicalBytes =
      (versions.map keyedBytes).map fun item => .ok item.2 := by
  rw [List.map_map, List.map_map]
  apply List.map_congr_left
  intro version _
  exact version.encoded

/-- The universe is independent of the order of the rows exactly when contradictions among the
visible rows, if there are any, include one at the highest version of an instrument. -/
theorem universe_order_independent_iff (versions : List (InstrumentRow π)) (point : Instant) :
    OrderIndependent versions point ↔
      (Contradictory (visibleRows point versions) →
        ContradictoryAtLatest (visibleRows point versions)) := by
  constructor
  · intro independent contradictory
    have total : Std.Total fun left right : InstrumentRow π =>
      right.facts.version ≤ left.facts.version := ⟨fun left right => le_total _ _⟩
    have transitive : IsTrans (InstrumentRow π) fun left right =>
      right.facts.version ≤ left.facts.version := ⟨fun _ _ _ first second => second.trans first⟩
    let descending := versions.insertionSort fun left right : InstrumentRow π =>
      right.facts.version ≤ left.facts.version
    have perm : descending.Perm versions := List.perm_insertionSort _ versions
    have ordered : (visibleRows point descending).Pairwise fun left right =>
        right.facts.version ≤ left.facts.version :=
      (List.pairwise_insertionSort (fun left right : InstrumentRow π =>
        right.facts.version ≤ left.facts.version) versions).filter _
    obtain ⟨message, refused⟩ := independent.raises.mpr contradictory
    have outcome := independent.permuted descending perm
    rw [refused] at outcome
    rcases pointInTimeUniverse_cases descending point with ⟨noticed, -⟩ | ⟨-, chosen, returned, -⟩
    · exact (ContradictoryAtLatest.perm (perm.filter _)).mp (noticed.latest ordered)
    · rw [returned] at outcome
      exact outcome.elim
  · intro latest
    have noticed_iff : ∀ others : List (InstrumentRow π), others.Perm versions →
        (NoticedAfter [] (visibleRows point others) ↔
          Contradictory (visibleRows point versions)) := by
      intro others perm
      constructor
      · intro noticed
        exact (Contradictory.perm (perm.filter _)).mp noticed.contradictory
      · intro contradictory
        exact ((ContradictoryAtLatest.perm (perm.filter _)).mpr (latest contradictory)).noticed
    constructor
    · intro others perm
      rcases pointInTimeUniverse_cases others point with
        ⟨noticed, message, refused⟩ | ⟨unnoticed, chosen, returned, selection⟩
      · rcases pointInTimeUniverse_cases versions point with
          ⟨-, other, alsoRefused⟩ | ⟨otherwise, -⟩
        · rw [refused, alsoRefused]
          trivial
        · exact absurd ((noticed_iff versions (List.Perm.refl _)).mpr
            ((noticed_iff others perm).mp noticed)) otherwise
      · rcases pointInTimeUniverse_cases versions point with
          ⟨noticed, -⟩ | ⟨-, selected, alsoReturned, other⟩
        · exact absurd ((noticed_iff others perm).mpr
            ((noticed_iff versions (List.Perm.refl _)).mp noticed)) unnoticed
        · rw [returned, alsoReturned]
          have consistent : ¬ Contradictory (visibleRows point versions) :=
            fun contradictory => unnoticed ((noticed_iff others perm).mpr contradictory)
          have bytes := other.same_bytes (perm.filter _) consistent selection
          change _ = _
          rw [map_canonicalBytes_row, map_canonicalBytes_row, bytes]
    · rw [← noticed_iff versions (List.Perm.refl _)]
      rcases pointInTimeUniverse_cases versions point with
        ⟨noticed, refused⟩ | ⟨unnoticed, chosen, returned, -⟩
      · exact ⟨fun _ => noticed, fun _ => refused⟩
      · rw [returned]
        exact ⟨nofun, fun noticed => absurd noticed unnoticed⟩
    · intro consistent
      rcases pointInTimeUniverse_cases versions point with
        ⟨noticed, -⟩ | ⟨-, chosen, returned, selection⟩
      · exact absurd ((noticed_iff versions (List.Perm.refl _)).mp noticed) consistent
      · exact ⟨_, returned, selection.perm (sortedById_perm chosen)⟩

end Loop

section Sample

/-- A reference to evidence, as a dictionary. -/
inductive SampleEvidence where
  | reference
  deriving DecidableEq, Repr

/-- The members of the reference. -/
def SampleEvidence.members : Dict String (Scalar SampleEvidence) :=
  (∅ : Dict String (Scalar SampleEvidence)).setAll [
    ("artifact_id", .text "e"),
    ("sha256", .text "sha256:0000000000000000000000000000000000000000000000000000000000000000"),
    ("observed_at", .text "2024-01-01T00:00:00Z")]

@[reducible] def SampleEvidence.dictionaries : PythonObject Unit SampleEvidence where
  isDict _ := true
  dumps _ := some (.obj [
    ("artifact_id", .str "e"),
    ("sha256", .str "sha256:0000000000000000000000000000000000000000000000000000000000000000"),
    ("observed_at", .str "2024-01-01T00:00:00Z")])
  dumps_distinct := by
    intro value json written
    cases written
    refine ⟨by decide, ?_⟩
    simp [Json.DistinctMembers, Json.Distinct]

@[reducible] def SampleEvidence.mappings : VersionObject SampleEvidence where
  int? _ := none
  members? _ := some SampleEvidence.members

attribute [local instance] FloatText.none SampleEvidence.dictionaries SampleEvidence.mappings
  IsoFormat.seconds UuidFormat.lenient

/-- A version of one instrument under a provider symbol. -/
@[irreducible] def sampleVersion (version symbol : String) : RawEvent SampleEvidence :=
  let text (value : String) : Field SampleEvidence := .scalar (.text value)
  (∅ : RawEvent SampleEvidence).setAll [
    ("instrument_id", text "a"), ("version", text version), ("provider_symbol", text symbol),
    ("effective_from", text "2024-01-01T00:00:00Z"),
    ("metadata_evidence", .list [.other .reference])]

def sampleFacts (version : Nat) : VersionFacts :=
  ⟨"a", version, ⟨1704067200000000⟩, ⟨1704067200000000⟩⟩

/-- What the checks read of three versions, and the universe of them in one order. -/
theorem sampleVersions_read :
    ((readVersion (sampleVersion "1" "OLD")).toOption = some (sampleFacts 1) ∧
      (readVersion (sampleVersion "1" "NEW")).toOption = some (sampleFacts 1) ∧
        (readVersion (sampleVersion "2" "NEW")).toOption = some (sampleFacts 2)) ∧
    ((canonicalBytes (sampleVersion "1" "OLD")).toOption.isSome = true ∧
      (canonicalBytes (sampleVersion "1" "NEW")).toOption.isSome = true ∧
        (canonicalBytes (sampleVersion "2" "NEW")).toOption.isSome = true) ∧
    (canonicalBytes (sampleVersion "1" "OLD")).toOption ≠
      (canonicalBytes (sampleVersion "1" "NEW")).toOption ∧
    (pointInTimeUniverse
      [sampleVersion "1" "OLD", sampleVersion "2" "NEW", sampleVersion "1" "NEW"]
      (.datetime (.aware ⟨1704067210000000⟩))).toOption.isSome = true := by
  decide +kernel

/-- A contradiction about the first version is not noticed once the second version is read. -/
theorem late_contradiction_unnoticed :
    ¬ ∀ (versions : List (InstrumentRow SampleEvidence)) (point : Instant),
      OrderIndependent versions point := by
  intro independent
  obtain ⟨⟨firstRead, rewrittenRead, secondRead⟩, ⟨firstBytes, rewrittenBytes, secondBytes⟩,
    different, returned⟩ := sampleVersions_read
  let first : InstrumentRow SampleEvidence :=
    ⟨_, _, _, eq_ok_of_toOption firstRead, eq_ok_get firstBytes⟩
  let rewritten : InstrumentRow SampleEvidence :=
    ⟨_, _, _, eq_ok_of_toOption rewrittenRead, eq_ok_get rewrittenBytes⟩
  let second : InstrumentRow SampleEvidence :=
    ⟨_, _, _, eq_ok_of_toOption secondRead, eq_ok_get secondBytes⟩
  have seen : (sampleFacts 1).visible ⟨1704067210000000⟩ = true := by decide
  have contradictory :
      Contradictory (visibleRows ⟨1704067210000000⟩ [first, second, rewritten]) := by
    refine ⟨first, ?_, rewritten, ?_, rfl, rfl, ?_⟩
    · exact List.mem_filter.mpr ⟨by simp, seen⟩
    · exact List.mem_filter.mpr ⟨by simp, seen⟩
    · intro same
      exact different ((Option.some_get firstBytes).symm.trans
        ((congrArg some same).trans (Option.some_get rewrittenBytes)))
  obtain ⟨message, refused⟩ := (independent [first, second, rewritten] _).raises.mpr contradictory
  have rows : [first, second, rewritten].map InstrumentRow.row =
      [sampleVersion "1" "OLD", sampleVersion "2" "NEW", sampleVersion "1" "NEW"] := rfl
  rw [rows] at refused
  rw [refused] at returned
  cases returned

end Sample

end AutoTrade.Research
