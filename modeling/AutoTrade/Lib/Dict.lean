import Mathlib.Data.List.Nodup
import Mathlib.Data.List.Perm.Subperm
import Mathlib.Data.List.Basic

/-!
# Insertion-ordered dictionaries

A Python `dict` iterates in insertion order and keeps the position of a key
whose value is replaced.  `Dict` carries the uniqueness of its keys as a field,
so a dictionary with two entries for one key cannot be built.
-/

namespace AutoTrade.Lib

/-- A finite map with unique keys in insertion order. -/
structure Dict (κ ν : Type) where
  entries : List (κ × ν)
  nodup : (entries.map Prod.fst).Nodup
  deriving DecidableEq, Repr

namespace Dict

variable {κ ν μ : Type} [DecidableEq κ]

/-- First value stored under a key of an association list. -/
def find? (key : κ) : List (κ × ν) → Option ν
  | [] => none
  | (other, value) :: rest => if other = key then some value else find? key rest

/-- Replace the value of a present key in place, or append a new entry. -/
def insertEntry (key : κ) (value : ν) : List (κ × ν) → List (κ × ν)
  | [] => [(key, value)]
  | (other, old) :: rest =>
      if other = key then (key, value) :: rest
      else (other, old) :: insertEntry key value rest

theorem find?_eq_none {key : κ} {entries : List (κ × ν)} :
    find? key entries = none ↔ key ∉ entries.map Prod.fst := by
  induction entries with
  | nil => simp [find?]
  | cons entry rest ih =>
      obtain ⟨other, value⟩ := entry
      by_cases same : other = key
      · simp [find?, same]
      · simp [find?, same, ih, Ne.symm same]

theorem find?_eq_some {key : κ} {value : ν} {entries : List (κ × ν)}
    (nodup : (entries.map Prod.fst).Nodup) :
    find? key entries = some value ↔ (key, value) ∈ entries := by
  induction entries with
  | nil => simp [find?]
  | cons entry rest ih =>
      obtain ⟨other, stored⟩ := entry
      rw [List.map_cons, List.nodup_cons] at nodup
      by_cases same : other = key
      · subst same
        have absent : (other, value) ∉ rest := fun member =>
          nodup.1 (List.mem_map.mpr ⟨(other, value), member, rfl⟩)
        simp [find?, absent, eq_comm]
      · simp [find?, same, ih nodup.2, Ne.symm same]

theorem find?_insertEntry (key other : κ) (value : ν) (entries : List (κ × ν)) :
    find? other (insertEntry key value entries) =
      if key = other then some value else find? other entries := by
  induction entries with
  | nil => simp [insertEntry, find?]
  | cons entry rest ih =>
      obtain ⟨stored, old⟩ := entry
      by_cases sameKey : stored = key
      · subst sameKey
        by_cases sameOther : stored = other <;> simp [insertEntry, find?, sameOther]
      · simp only [insertEntry, if_neg sameKey, find?, ih]
        by_cases sameOther : stored = other
        · subst sameOther
          simp [Ne.symm sameKey]
        · simp [sameOther]

theorem map_fst_insertEntry (key : κ) (value : ν) (entries : List (κ × ν)) :
    (insertEntry key value entries).map Prod.fst =
      if key ∈ entries.map Prod.fst then entries.map Prod.fst
      else entries.map Prod.fst ++ [key] := by
  induction entries with
  | nil => simp [insertEntry]
  | cons entry rest ih =>
      obtain ⟨stored, old⟩ := entry
      by_cases same : stored = key
      · simp [insertEntry, same]
      · simp only [insertEntry, if_neg same, List.map_cons, ih, List.mem_cons,
          Ne.symm same, false_or]
        split <;> rfl

theorem nodup_insertEntry {key : κ} {value : ν} {entries : List (κ × ν)}
    (nodup : (entries.map Prod.fst).Nodup) :
    ((insertEntry key value entries).map Prod.fst).Nodup := by
  rw [map_fst_insertEntry]
  split
  next => exact nodup
  next absent =>
    rw [List.nodup_append]
    refine ⟨nodup, List.nodup_singleton key, ?_⟩
    intro left leftMem right rightMem equal
    rw [List.mem_singleton] at rightMem
    subst rightMem
    subst equal
    exact absent leftMem

/-- The dictionary without entries. -/
def empty : Dict κ ν := ⟨[], List.nodup_nil⟩

instance : EmptyCollection (Dict κ ν) := ⟨empty⟩

/-- `dict.get(key)`. -/
def get? (dict : Dict κ ν) (key : κ) : Option ν := find? key dict.entries

/-- `dict[key] = value`. -/
def set (dict : Dict κ ν) (key : κ) (value : ν) : Dict κ ν :=
  ⟨insertEntry key value dict.entries, nodup_insertEntry dict.nodup⟩

def keys (dict : Dict κ ν) : List κ := dict.entries.map Prod.fst

def values (dict : Dict κ ν) : List ν := dict.entries.map Prod.snd

/-- Replace every value, keeping the keys and their order. -/
def mapValues (dict : Dict κ ν) (image : ν → μ) : Dict κ μ :=
  ⟨dict.entries.map fun entry => (entry.1, image entry.2), by
    rw [List.map_map]
    exact dict.nodup⟩

/-- Values of an association list, computed by a body that may raise. -/
def traverseEntries {ε : Type} (body : κ → ν → Except ε μ) :
    List (κ × ν) → Except ε (List (κ × μ))
  | [] => .ok []
  | (key, value) :: rest =>
      match body key value with
      | .error error => .error error
      | .ok image =>
          match traverseEntries body rest with
          | .error error => .error error
          | .ok images => .ok ((key, image) :: images)

omit [DecidableEq κ] in
theorem map_fst_traverseEntries {ε : Type} {body : κ → ν → Except ε μ}
    {entries : List (κ × ν)} {images : List (κ × μ)}
    (success : traverseEntries body entries = .ok images) :
    images.map Prod.fst = entries.map Prod.fst := by
  induction entries generalizing images with
  | nil =>
      cases success
      rfl
  | cons entry rest ih =>
      simp only [traverseEntries] at success
      split at success
      · cases success
      split at success
      · cases success
      next tail tailSuccess =>
        cases success
        rw [List.map_cons, List.map_cons, ih tailSuccess]

/-- A dictionary rebuilt key by key, in order, by a body that may raise. -/
def traverse {ε : Type} (dict : Dict κ ν) (body : κ → ν → Except ε μ) :
    Except ε (Dict κ μ) :=
  match success : traverseEntries body dict.entries with
  | .error error => .error error
  | .ok images => .ok ⟨images, by
      rw [map_fst_traverseEntries success]
      exact dict.nodup⟩

/-- The entries whose key a selection keeps, in order. -/
def filterKeys (dict : Dict κ ν) (keep : κ → Bool) : Dict κ ν where
  entries := dict.entries.filter fun entry => keep entry.1
  nodup := dict.nodup.sublist (List.filter_sublist.map Prod.fst)

/-- `left == right` on dictionaries: equal values under equal keys, in any
order. -/
def same [DecidableEq ν] (left right : Dict κ ν) : Bool :=
  left.entries.length == right.entries.length &&
    left.entries.all fun entry => right.get? entry.1 == some entry.2

omit [DecidableEq κ] in
theorem nodup_keys (dict : Dict κ ν) : dict.keys.Nodup := dict.nodup

@[simp] theorem get?_empty (key : κ) : (∅ : Dict κ ν).get? key = none := rfl

omit [DecidableEq κ] in
@[simp] theorem keys_empty : (∅ : Dict κ ν).keys = [] := rfl

theorem get?_set (dict : Dict κ ν) (key other : κ) (value : ν) :
    (dict.set key value).get? other =
      if key = other then some value else dict.get? other :=
  find?_insertEntry key other value dict.entries

@[simp] theorem get?_set_self (dict : Dict κ ν) (key : κ) (value : ν) :
    (dict.set key value).get? key = some value := by
  simp [get?_set]

theorem get?_set_of_ne (dict : Dict κ ν) {key other : κ} (value : ν)
    (different : key ≠ other) :
    (dict.set key value).get? other = dict.get? other := by
  simp [get?_set, different]

theorem mem_entries {dict : Dict κ ν} {key : κ} {value : ν} :
    (key, value) ∈ dict.entries ↔ dict.get? key = some value :=
  (find?_eq_some dict.nodup).symm

theorem get?_eq_none {dict : Dict κ ν} {key : κ} :
    dict.get? key = none ↔ key ∉ dict.keys :=
  find?_eq_none

theorem mem_keys {dict : Dict κ ν} {key : κ} :
    key ∈ dict.keys ↔ ∃ value, dict.get? key = some value := by
  rw [← not_iff_not, ← get?_eq_none]
  cases dict.get? key <;> simp

/-- Lookups agree when they find keys alike and agree up to a default. -/
theorem get?_eq_of_getD {left right : Dict κ ν} {key : κ} (default : ν)
    (present : key ∈ left.keys ↔ key ∈ right.keys)
    (equal : (left.get? key).getD default = (right.get? key).getD default) :
    left.get? key = right.get? key := by
  rw [mem_keys, mem_keys] at present
  cases leftFound : left.get? key with
  | none =>
      cases rightFound : right.get? key with
      | none => rfl
      | some value => simp [leftFound, rightFound] at present
  | some value =>
      cases rightFound : right.get? key with
      | none => simp [leftFound, rightFound] at present
      | some other =>
          rw [leftFound, rightFound] at equal
          exact congrArg some equal

theorem mem_values {dict : Dict κ ν} {value : ν} :
    value ∈ dict.values ↔ ∃ key, dict.get? key = some value := by
  constructor
  · intro member
    obtain ⟨⟨key, stored⟩, entryMem, rfl⟩ := List.mem_map.mp member
    exact ⟨key, mem_entries.mp entryMem⟩
  · rintro ⟨key, found⟩
    exact List.mem_map.mpr ⟨(key, value), mem_entries.mpr found, rfl⟩

theorem keys_set (dict : Dict κ ν) (key : κ) (value : ν) :
    (dict.set key value).keys =
      if key ∈ dict.keys then dict.keys else dict.keys ++ [key] :=
  map_fst_insertEntry key value dict.entries

theorem mem_keys_set {dict : Dict κ ν} {key other : κ} {value : ν} :
    other ∈ (dict.set key value).keys ↔ key = other ∨ other ∈ dict.keys := by
  rw [mem_keys, mem_keys]
  simp only [get?_set]
  by_cases same : key = other
  · simp [same]
  · simp [same]

/-- Replacing the value of a present key keeps the key list. -/
theorem keys_set_of_mem {dict : Dict κ ν} {key : κ} (present : key ∈ dict.keys)
    (value : ν) : (dict.set key value).keys = dict.keys := by
  rw [keys_set, if_pos present]

omit [DecidableEq κ] in
@[simp] theorem keys_mapValues (dict : Dict κ ν) (image : ν → μ) :
    (dict.mapValues image).keys = dict.keys := by
  simp [keys, mapValues, Function.comp_def]

@[simp] theorem get?_mapValues (dict : Dict κ ν) (image : ν → μ) (key : κ) :
    (dict.mapValues image).get? key = (dict.get? key).map image := by
  obtain ⟨entries, nodup⟩ := dict
  simp only [get?, mapValues]
  induction entries with
  | nil => rfl
  | cons entry rest ih =>
      obtain ⟨other, value⟩ := entry
      rw [List.map_cons, List.nodup_cons] at nodup
      by_cases equal : other = key
      · simp [find?, equal]
      · simpa [find?, equal] using ih nodup.2

/-! ## Dictionaries built by assignment -/

/-- Assign every item in order. -/
def setAll (dict : Dict κ ν) (items : List (κ × ν)) : Dict κ ν :=
  items.foldl (fun current item => current.set item.1 item.2) dict

theorem mem_keys_setAll {dict : Dict κ ν} {items : List (κ × ν)} {key : κ} :
    key ∈ (dict.setAll items).keys ↔ key ∈ dict.keys ∨ key ∈ items.map Prod.fst := by
  induction items generalizing dict with
  | nil => simp [setAll]
  | cons item rest ih =>
      rw [setAll, List.foldl_cons, ← setAll, ih, mem_keys_set, List.map_cons, List.mem_cons,
        eq_comm, or_comm (a := key = item.1), or_assoc]

theorem entries_set_of_get?_eq_none {dict : Dict κ ν} {key : κ}
    (fresh : dict.get? key = none) (value : ν) :
    (dict.set key value).entries = dict.entries ++ [(key, value)] := by
  obtain ⟨entries, nodup⟩ := dict
  simp only [get?, set] at fresh ⊢
  clear nodup
  induction entries with
  | nil => rfl
  | cons entry rest ih =>
      obtain ⟨other, stored⟩ := entry
      by_cases same : other = key
      · simp [find?, same] at fresh
      · simp only [find?, if_neg same] at fresh
        simp only [insertEntry, if_neg same, ih fresh, List.cons_append]

/-- Items under new distinct keys are appended in order. -/
theorem entries_setAll {dict : Dict κ ν} {items : List (κ × ν)}
    (distinct : (items.map Prod.fst).Nodup)
    (fresh : ∀ item ∈ items, dict.get? item.1 = none) :
    (dict.setAll items).entries = dict.entries ++ items := by
  induction items generalizing dict with
  | nil => simp [setAll]
  | cons item rest ih =>
      rw [List.map_cons, List.nodup_cons] at distinct
      have restFresh : ∀ other ∈ rest, (dict.set item.1 item.2).get? other.1 = none := by
        intro other member
        rw [get?_set_of_ne]
        · exact fresh other (List.mem_cons_of_mem item member)
        · intro same
          exact distinct.1 (List.mem_map.mpr ⟨other, member, same.symm⟩)
      have step := ih distinct.2 restFresh
      rw [setAll] at step ⊢
      rw [List.foldl_cons, step,
        entries_set_of_get?_eq_none (fresh item List.mem_cons_self), List.append_assoc]
      rfl

omit [DecidableEq κ] in
theorem ext_entries {left right : Dict κ ν} (equal : left.entries = right.entries) :
    left = right := by
  cases left
  cases right
  cases equal
  rfl

theorem entries_setAll_empty {items : List (κ × ν)}
    (distinct : (items.map Prod.fst).Nodup) :
    ((∅ : Dict κ ν).setAll items).entries = items :=
  entries_setAll distinct fun _ _ => rfl

/-- Assigning a dictionary's entries to an empty one rebuilds it. -/
theorem setAll_entries (dict : Dict κ ν) : (∅ : Dict κ ν).setAll dict.entries = dict :=
  ext_entries (entries_setAll_empty dict.nodup)

/-- Assignments under whose keys stands one value each keep it, in any order. -/
theorem get?_setAll_of_mem {dict : Dict κ ν} {items : List (κ × ν)} {key : κ} {value : ν}
    (listed : (key, value) ∈ items) (single : ∀ other, (key, other) ∈ items → other = value) :
    (dict.setAll items).get? key = some value := by
  have kept : ∀ (rest : List (κ × ν)) (current : Dict κ ν),
      (∀ other, (key, other) ∈ rest → other = value) → current.get? key = some value →
        (current.setAll rest).get? key = some value := by
    intro rest
    induction rest with
    | nil => exact fun _ _ found => found
    | cons item rest ih =>
        intro current same found
        apply ih (current.set item.1 item.2) (fun other member =>
          same other (List.mem_cons_of_mem item member))
        rw [get?_set]
        split
        next equal =>
          subst equal
          exact congrArg some (same item.2 List.mem_cons_self)
        next => exact found
  induction items generalizing dict with
  | nil => cases listed
  | cons item rest ih =>
      have restSingle : ∀ other, (key, other) ∈ rest → other = value := fun other member =>
        single other (List.mem_cons_of_mem item member)
      rcases List.mem_cons.mp listed with rfl | later
      · exact kept rest _ restSingle (get?_set_self dict key value)
      · exact ih later restSingle

/-- A loop whose body assigns one new key per item assigns them all. -/
theorem foldlM_setAll {ε α : Type} (item : α → κ × ν)
    {body : Dict κ ν → α → Except ε (Dict κ ν)} {values : List α} {start : Dict κ ν}
    (assigns : ∀ value ∈ values, ∀ current : Dict κ ν, current.get? (item value).1 = none →
      body current value = .ok (current.set (item value).1 (item value).2))
    (distinct : (values.map fun value => (item value).1).Nodup)
    (fresh : ∀ value ∈ values, start.get? (item value).1 = none) :
    values.foldlM body start = .ok (start.setAll (values.map item)) := by
  induction values generalizing start with
  | nil => rfl
  | cons value rest ih =>
      rw [List.map_cons, List.nodup_cons] at distinct
      rw [List.foldlM_cons, assigns value List.mem_cons_self start
        (fresh value List.mem_cons_self)]
      apply ih
      · intro other member
        exact assigns other (List.mem_cons_of_mem value member)
      · exact distinct.2
      · intro other member
        rw [get?_set_of_ne]
        · exact fresh other (List.mem_cons_of_mem value member)
        · intro same
          exact distinct.1 (List.mem_map.mpr ⟨other, member, same.symm⟩)

/-- Dictionaries with the same entries up to order answer every lookup alike. -/
theorem get?_eq_of_perm {left right : Dict κ ν} (perm : left.entries.Perm right.entries)
    (key : κ) : left.get? key = right.get? key := by
  apply Option.ext
  intro value
  rw [← mem_entries, ← mem_entries, perm.mem_iff]

/-- Equal dictionaries answer every lookup alike. -/
theorem get?_eq_of_same [DecidableEq ν] {left right : Dict κ ν} (same : left.same right = true)
    (key : κ) : left.get? key = right.get? key := by
  rw [Dict.same, Bool.and_eq_true, beq_iff_eq, List.all_eq_true] at same
  obtain ⟨length, found⟩ := same
  have included : left.entries ⊆ right.entries := by
    intro entry member
    exact mem_entries.mpr (beq_iff_eq.mp (found entry member))
  have perm : left.entries.Perm right.entries :=
    ((List.Nodup.of_map Prod.fst left.nodup).subperm included).perm_of_length_le
      (Nat.le_of_eq length.symm)
  exact get?_eq_of_perm perm key

/-- Dictionaries are equal exactly when they answer every lookup alike. -/
theorem same_iff [DecidableEq ν] {left right : Dict κ ν} :
    left.same right = true ↔ ∀ key, left.get? key = right.get? key := by
  constructor
  · exact get?_eq_of_same
  · intro lookups
    have perm : left.entries.Perm right.entries := by
      rw [List.perm_ext_iff_of_nodup (List.Nodup.of_map Prod.fst left.nodup)
        (List.Nodup.of_map Prod.fst right.nodup)]
      intro entry
      rw [mem_entries, mem_entries, lookups]
    rw [Dict.same, Bool.and_eq_true, beq_iff_eq, List.all_eq_true]
    constructor
    · exact perm.length_eq
    · intro entry member
      rw [beq_iff_eq, ← mem_entries]
      exact perm.mem_iff.mp member

theorem find?_traverseEntries {ε : Type} {body : κ → ν → Except ε μ}
    {entries : List (κ × ν)} {images : List (κ × μ)}
    (success : traverseEntries body entries = .ok images) {key : κ} {image : μ}
    (found : find? key images = some image) :
    ∃ value, find? key entries = some value ∧ body key value = .ok image := by
  induction entries generalizing images with
  | nil =>
      cases success
      cases found
  | cons entry rest ih =>
      obtain ⟨other, value⟩ := entry
      simp only [traverseEntries] at success
      split at success
      · cases success
      next headImage headSuccess =>
        split at success
        · cases success
        next tail tailSuccess =>
          cases success
          by_cases equal : other = key
          · subst equal
            simp only [find?, if_true] at found ⊢
            cases found
            exact ⟨value, rfl, headSuccess⟩
          · simp only [find?, if_neg equal] at found ⊢
            exact ih tailSuccess found

omit [DecidableEq κ] in
theorem traverse_eq_ok {ε : Type} {body : κ → ν → Except ε μ} {dict : Dict κ ν}
    {result : Dict κ μ} (success : dict.traverse body = .ok result) :
    traverseEntries body dict.entries = .ok result.entries := by
  simp only [traverse] at success
  split at success
  · cases success
  next images equal =>
    cases success
    exact equal

omit [DecidableEq κ] in
theorem keys_traverse {ε : Type} {body : κ → ν → Except ε μ} {dict : Dict κ ν}
    {result : Dict κ μ} (success : dict.traverse body = .ok result) :
    result.keys = dict.keys :=
  map_fst_traverseEntries (traverse_eq_ok success)

/-- Each rebuilt value is the body's result on the value it replaces. -/
theorem get?_traverse {ε : Type} {body : κ → ν → Except ε μ} {dict : Dict κ ν}
    {result : Dict κ μ} (success : dict.traverse body = .ok result) {key : κ} {image : μ}
    (found : result.get? key = some image) :
    ∃ value, dict.get? key = some value ∧ body key value = .ok image :=
  find?_traverseEntries (traverse_eq_ok success) found

omit [DecidableEq κ] in
theorem keys_filterKeys (dict : Dict κ ν) (keep : κ → Bool) :
    (dict.filterKeys keep).keys = dict.keys.filter keep := by
  rw [keys, keys, filterKeys, List.filter_map]
  rfl

theorem get?_filterKeys {dict : Dict κ ν} {keep : κ → Bool} {key : κ} (kept : keep key = true) :
    (dict.filterKeys keep).get? key = dict.get? key := by
  apply Option.ext
  intro value
  rw [← mem_entries, ← mem_entries, filterKeys, List.mem_filter, kept]
  exact and_iff_left rfl

/-! ## Dictionaries that index a list -/

/-- `index` finds the entries of a list by their key. -/
def Indexes (index : Dict κ ν) (key : ν → κ) (entries : List ν) : Prop :=
  ∀ id entry, index.get? id = some entry ↔ entry ∈ entries ∧ key entry = id

namespace Indexes

variable {index : Dict κ ν} {key : ν → κ} {entries : List ν}

theorem fresh (indexes : Indexes index key entries) {id : κ} (unused : index.get? id = none) :
    id ∉ entries.map key := by
  intro member
  obtain ⟨entry, found, same⟩ := List.mem_map.mp member
  have known := (indexes id entry).mpr ⟨found, same⟩
  rw [unused] at known
  cases known

theorem nodup_append (indexes : Indexes index key entries) (distinct : (entries.map key).Nodup)
    {entry : ν} (unused : index.get? (key entry) = none) :
    ((entries ++ [entry]).map key).Nodup := by
  rw [List.map_append, List.nodup_append']
  refine ⟨distinct, List.nodup_singleton _, ?_⟩
  rw [List.map_singleton, List.disjoint_singleton]
  exact indexes.fresh unused

theorem append (indexes : Indexes index key entries) {entry : ν}
    (unused : index.get? (key entry) = none) :
    Indexes (index.set (key entry) entry) key (entries ++ [entry]) := by
  intro id other
  rw [get?_set, List.mem_append, List.mem_singleton]
  split
  next same =>
    subst same
    constructor
    · intro found
      cases found
      exact ⟨.inr rfl, rfl⟩
    · rintro ⟨member | rfl, same⟩
      · exact absurd (same ▸ List.mem_map_of_mem member) (indexes.fresh unused)
      · rfl
  next different =>
    rw [indexes]
    constructor
    · rintro ⟨member, same⟩
      exact ⟨.inl member, same⟩
    · rintro ⟨member | rfl, same⟩
      · exact ⟨member, same⟩
      · exact absurd same different

end Indexes

end Dict

end AutoTrade.Lib
