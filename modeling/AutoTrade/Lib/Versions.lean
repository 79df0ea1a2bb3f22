import AutoTrade.Lib.Dict
import AutoTrade.Lib.Raise

/-!
# Indexes of versioned rows

A loop gathers rows under an identity and a rank.  A row whose place is taken
has to repeat the content of the stored row, any other has to be comparable
with every stored row of its identity.  Where comparison is symmetric and reads
only the content of the stored row, the loop returns exactly on the lists whose
rows are pairwise compatible, and it stores the first row of every place.
-/

namespace AutoTrade.Lib

/-- How rows are told apart and compared. -/
structure Versioning (τ κ ρ σ ε : Type) where
  identity : τ → κ
  rank : τ → ρ
  content : τ → σ
  /-- The comparison of a row with a stored one of another rank. -/
  compare : τ → τ → Except ε Unit
  conflict : ε

namespace Versioning

section Laws

variable {τ κ ρ σ ε : Type} [DecidableEq ρ] {versioning : Versioning τ κ ρ σ ε}

/-- Comparison does not depend on the order and reads the content of the stored row. -/
structure Lawful (versioning : Versioning τ κ ρ σ ε) : Prop where
  comm : ∀ first second, versioning.compare first second = .ok () →
    versioning.compare second first = .ok ()
  congr : ∀ row first second, versioning.content first = versioning.content second →
    versioning.compare row first = .ok () → versioning.compare row second = .ok ()

/-- Two rows can be in one index. -/
def Compatible (versioning : Versioning τ κ ρ σ ε) (first second : τ) : Prop :=
  versioning.identity first = versioning.identity second →
    if versioning.rank first = versioning.rank second then
      versioning.content first = versioning.content second
    else versioning.compare first second = .ok ()

/-- The rows are pairwise compatible. -/
def Consistent (versioning : Versioning τ κ ρ σ ε) (rows : List τ) : Prop :=
  ∀ first ∈ rows, ∀ second ∈ rows, versioning.Compatible first second

theorem compatible_self (row : τ) : versioning.Compatible row row := by
  intro _
  rw [if_pos rfl]

theorem Lawful.symm (lawful : versioning.Lawful) {first second : τ}
    (compatible : versioning.Compatible first second) :
    versioning.Compatible second first := by
  intro same
  have other := compatible same.symm
  split
  next equal =>
    rw [if_pos equal.symm] at other
    exact other.symm
  next different =>
    rw [if_neg (Ne.symm different)] at other
    exact lawful.comm first second other

/-- A row is compatible with every row that repeats a compatible one. -/
theorem Lawful.repeated (lawful : versioning.Lawful) {row first second : τ}
    (compatible : versioning.Compatible row first)
    (identity : versioning.identity first = versioning.identity second)
    (rank : versioning.rank first = versioning.rank second)
    (content : versioning.content first = versioning.content second) :
    versioning.Compatible row second := by
  intro same
  have other := compatible (same.trans identity.symm)
  rw [← rank]
  split
  next equal =>
    rw [if_pos equal] at other
    exact other.trans content
  next different =>
    rw [if_neg different] at other
    exact lawful.congr row first second content other

theorem Consistent.mono {rows others : List τ} (consistent : versioning.Consistent rows)
    (included : others ⊆ rows) : versioning.Consistent others :=
  fun first firstMem second secondMem =>
    consistent first (included firstMem) second (included secondMem)

theorem Lawful.consistent_concat (lawful : versioning.Lawful) {rows : List τ} {row : τ}
    (consistent : versioning.Consistent rows)
    (compatible : ∀ other ∈ rows, versioning.Compatible other row) :
    versioning.Consistent (rows ++ [row]) := by
  intro first firstMem second secondMem
  rw [List.mem_append, List.mem_singleton] at firstMem secondMem
  rcases firstMem with earlier | rfl <;> rcases secondMem with other | rfl
  · exact consistent first earlier second other
  · exact compatible first earlier
  · exact lawful.symm (compatible second other)
  · exact compatible_self _

end Laws

variable {τ κ ρ σ ε : Type} [DecidableEq κ] [DecidableEq ρ]

section Loop

variable [DecidableEq σ] (versioning : Versioning τ κ ρ σ ε)

/-- One iteration of the loop. -/
def store (seen : Dict κ (Dict ρ τ)) (row : τ) : Except ε (Dict κ (Dict ρ τ)) :=
  let history := (seen.get? (versioning.identity row)).getD ∅
  match history.get? (versioning.rank row) with
  | some stored =>
      if versioning.content stored ≠ versioning.content row then .error versioning.conflict
      else .ok seen
  | none => do
      history.values.forM (versioning.compare row)
      pure (seen.set (versioning.identity row) (history.set (versioning.rank row) row))

/-- The row stored in a place. -/
def place (seen : Dict κ (Dict ρ τ)) (identity : κ) (rank : ρ) : Option τ :=
  ((seen.get? identity).getD ∅).get? rank

/-- Whether a row belongs in a place. -/
def belongs (identity : κ) (rank : ρ) (row : τ) : Bool :=
  decide (versioning.identity row = identity) && decide (versioning.rank row = rank)

/-- Every place holds the first row that belongs there. -/
def Indexes (seen : Dict κ (Dict ρ τ)) (rows : List τ) : Prop :=
  ∀ identity rank, place seen identity rank = rows.find? (versioning.belongs identity rank)

end Loop

variable {versioning : Versioning τ κ ρ σ ε} {seen next : Dict κ (Dict ρ τ)} {rows : List τ}
  {row : τ}

@[simp] theorem belongs_iff {identity : κ} {rank : ρ} :
    versioning.belongs identity rank row = true ↔
      versioning.identity row = identity ∧ versioning.rank row = rank := by
  simp [belongs]

theorem indexes_empty : versioning.Indexes ∅ [] := fun _ _ => rfl

theorem Indexes.mem (indexes : versioning.Indexes seen rows) {identity : κ} {rank : ρ}
    (found : place seen identity rank = some row) :
    row ∈ rows ∧ versioning.identity row = identity ∧ versioning.rank row = rank := by
  rw [indexes] at found
  exact ⟨List.mem_of_find?_eq_some found, belongs_iff.mp (List.find?_some found)⟩

theorem Indexes.exists_place (indexes : versioning.Indexes seen rows) (member : row ∈ rows) :
    ∃ stored, place seen (versioning.identity row) (versioning.rank row) = some stored := by
  rw [indexes, ← Option.isSome_iff_exists, List.find?_isSome]
  exact ⟨row, member, belongs_iff.mpr ⟨rfl, rfl⟩⟩

theorem place_set (identity other : κ) (rank otherRank : ρ) :
    place (seen.set identity (((seen.get? identity).getD ∅).set rank row)) other otherRank =
      if identity = other ∧ rank = otherRank then some row
      else place seen other otherRank := by
  rw [place, Dict.get?_set]
  by_cases same : identity = other
  · rw [if_pos same, Option.getD_some, Dict.get?_set, ← same]
    simp only [true_and]
    rfl
  · simp only [same, false_and, if_false]
    rfl

theorem Indexes.set (indexes : versioning.Indexes seen rows)
    (free : place seen (versioning.identity row) (versioning.rank row) = none) :
    versioning.Indexes (seen.set (versioning.identity row)
      (((seen.get? (versioning.identity row)).getD ∅).set (versioning.rank row) row))
      (rows ++ [row]) := by
  intro identity rank
  rw [place_set, List.find?_append, ← indexes]
  split
  next own =>
    rw [← own.1, ← own.2, free]
    simp
  next other =>
    have elsewhere : versioning.belongs identity rank row = false := by
      rw [← Bool.not_eq_true, belongs_iff]
      exact other
    simp [elsewhere]

theorem Indexes.repeated (indexes : versioning.Indexes seen rows) {stored : τ}
    (taken : place seen (versioning.identity row) (versioning.rank row) = some stored) :
    versioning.Indexes seen (rows ++ [row]) := by
  intro identity rank
  rw [List.find?_append, ← indexes]
  by_cases own : versioning.belongs identity rank row = true
  · obtain ⟨rfl, rfl⟩ := belongs_iff.mp own
    rw [taken]
    rfl
  · simp [own]

/-! ## The stored rows -/

/-- All stored rows, by identity and then by rank. -/
def stored (seen : Dict κ (Dict ρ τ)) : List τ := seen.values.flatMap Dict.values

theorem Indexes.mem_stored (indexes : versioning.Indexes seen rows) :
    row ∈ stored seen ↔
      rows.find? (versioning.belongs (versioning.identity row) (versioning.rank row)) =
        some row := by
  rw [stored, List.mem_flatMap]
  constructor
  · intro ⟨history, listed, member⟩
    obtain ⟨identity, found⟩ := Dict.mem_values.mp listed
    obtain ⟨rank, taken⟩ := Dict.mem_values.mp member
    have placed : place seen identity rank = some row := by
      rw [place, found]
      exact taken
    obtain ⟨-, rfl, rfl⟩ := indexes.mem placed
    rw [← indexes, placed]
  · intro found
    rw [← indexes, place] at found
    cases history : seen.get? (versioning.identity row) with
    | none =>
        rw [history] at found
        cases found
    | some rest =>
        rw [history] at found
        exact ⟨rest, Dict.mem_values.mpr ⟨_, history⟩, Dict.mem_values.mpr ⟨_, found⟩⟩

/-- Every stored row is listed once. -/
theorem Indexes.nodup_stored (indexes : versioning.Indexes seen rows) : (stored seen).Nodup := by
  have placed : ∀ identity history, seen.get? identity = some history →
      ∀ rank row, history.get? rank = some row →
        versioning.identity row = identity ∧ versioning.rank row = rank := by
    intro identity history found rank row taken
    apply (indexes.mem _).2
    rw [place, found]
    exact taken
  rw [stored, Dict.values, List.flatMap_map, List.nodup_flatMap]
  constructor
  · intro entry listed
    have own := placed entry.1 entry.2 (Dict.mem_entries.mp listed)
    apply List.Nodup.map_on
    · intro first firstMem second secondMem same
      have firstRank := (own first.1 first.2 (Dict.mem_entries.mp firstMem)).2
      have secondRank := (own second.1 second.2 (Dict.mem_entries.mp secondMem)).2
      exact Prod.ext (by rw [← firstRank, ← secondRank, same]) same
    · exact List.Nodup.of_map _ entry.2.nodup
  · apply (List.pairwise_map.mp seen.nodup).imp_of_mem
    intro first second firstMem secondMem different row firstRow secondRow
    obtain ⟨rank, taken⟩ := Dict.mem_values.mp firstRow
    obtain ⟨other, found⟩ := Dict.mem_values.mp secondRow
    have firstOwn := (placed _ _ (Dict.mem_entries.mp firstMem) rank row taken).1
    have secondOwn := (placed _ _ (Dict.mem_entries.mp secondMem) other row found).1
    exact different (firstOwn.symm.trans secondOwn)

/-! ## The loop -/

variable [DecidableEq σ]

/-- The step lemma. -/
theorem Lawful.store (lawful : versioning.Lawful) (indexes : versioning.Indexes seen rows)
    (consistent : versioning.Consistent rows) (success : versioning.store seen row = .ok next) :
    versioning.Consistent (rows ++ [row]) ∧ versioning.Indexes next (rows ++ [row]) := by
  rw [Versioning.store] at success
  split at success
  next stored taken =>
    rw [guard_eq_ok, not_not] at success
    obtain ⟨content, equal⟩ := success
    cases equal
    obtain ⟨member, identity, rank⟩ := indexes.mem taken
    refine ⟨?_, indexes.repeated taken⟩
    apply lawful.consistent_concat consistent
    intro other otherMem
    exact lawful.repeated (consistent other otherMem stored member) identity rank content
  next free =>
    simp only [bind_eq_ok, pure_eq_ok] at success
    obtain ⟨_, compared, rfl⟩ := success
    rw [forM_eq_ok] at compared
    refine ⟨?_, indexes.set free⟩
    apply lawful.consistent_concat consistent
    intro other otherMem
    apply lawful.symm
    intro same
    obtain ⟨stored, taken⟩ := indexes.exists_place otherMem
    obtain ⟨member, identity, rank⟩ := indexes.mem taken
    rw [← same] at taken
    have different : versioning.rank row ≠ versioning.rank other := by
      intro equal
      rw [place, ← equal, free] at taken
      cases taken
    have comparable := compared stored (Dict.mem_values.mpr ⟨_, taken⟩)
    have repeats := consistent stored member other otherMem identity
    rw [if_pos rank] at repeats
    rw [if_neg different]
    exact lawful.congr row stored other repeats comparable

theorem Indexes.store_returns (indexes : versioning.Indexes seen rows)
    (compatible : ∀ other ∈ rows, versioning.Compatible row other) :
    ∃ next, versioning.store seen row = .ok next := by
  rw [Versioning.store]
  split
  next stored taken =>
    obtain ⟨member, identity, rank⟩ := indexes.mem taken
    have content := compatible stored member identity.symm
    rw [if_pos rank.symm] at content
    exact ⟨seen, if_neg (not_not.mpr content.symm)⟩
  next free =>
    refine ⟨_, bind_eq_ok.mpr ⟨(), forM_eq_ok.mpr ?_, rfl⟩⟩
    intro stored listed
    obtain ⟨rank, taken⟩ := Dict.mem_values.mp listed
    obtain ⟨member, identity, sameRank⟩ := indexes.mem taken
    have comparable := compatible stored member identity.symm
    rwa [if_neg] at comparable
    intro equal
    rw [← sameRank, ← equal, free] at taken
    cases taken

/-- The run lemma: a loop that returns has found the rows consistent. -/
theorem Lawful.run (lawful : versioning.Lawful) {more : List τ}
    (indexes : versioning.Indexes seen rows) (consistent : versioning.Consistent rows)
    (success : more.foldlM versioning.store seen = .ok next) :
    versioning.Consistent (rows ++ more) ∧ versioning.Indexes next (rows ++ more) := by
  induction more generalizing seen rows with
  | nil =>
      rw [List.foldlM_nil, pure_eq_ok] at success
      subst success
      rw [List.append_nil]
      exact ⟨consistent, indexes⟩
  | cons row rest ih =>
      rw [List.foldlM_cons, bind_eq_ok] at success
      obtain ⟨middle, step, tail⟩ := success
      obtain ⟨grown, indexed⟩ := lawful.store indexes consistent step
      rw [List.append_cons]
      exact ih indexed grown tail

/-- The loop returns on consistent rows. -/
theorem Lawful.run_returns (lawful : versioning.Lawful) {more : List τ}
    (indexes : versioning.Indexes seen rows)
    (consistent : versioning.Consistent (rows ++ more)) :
    ∃ final, more.foldlM versioning.store seen = .ok final := by
  induction more generalizing seen rows with
  | nil => exact ⟨seen, rfl⟩
  | cons row rest ih =>
      rw [List.append_cons] at consistent
      have compatible : ∀ other ∈ rows, versioning.Compatible row other := fun other member =>
        consistent row (by simp) other (by simp [member])
      obtain ⟨middle, step⟩ := indexes.store_returns compatible
      have earlier : versioning.Consistent rows := consistent.mono (by simp)
      obtain ⟨-, indexed⟩ := lawful.store indexes earlier step
      obtain ⟨final, tail⟩ := ih indexed consistent
      exact ⟨final, by rw [List.foldlM_cons, step, ok_bind, tail]⟩

/-- The loop returns exactly on consistent rows. -/
theorem Lawful.returns_iff (lawful : versioning.Lawful) :
    (∃ final, rows.foldlM versioning.store ∅ = .ok final) ↔ versioning.Consistent rows := by
  have empty : versioning.Consistent ([] : List τ) := fun _ member =>
    absurd member List.not_mem_nil
  constructor
  · intro ⟨final, success⟩
    exact (lawful.run indexes_empty empty success).1
  · intro consistent
    exact lawful.run_returns indexes_empty consistent

end Versioning

end AutoTrade.Lib
