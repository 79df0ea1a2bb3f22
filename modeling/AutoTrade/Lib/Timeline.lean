import Mathlib.Data.List.Chain
import Mathlib.Data.List.Sort
import Mathlib.Order.Lattice

/-!
# Timelines

Items with a start and an optional end, in the order of their starts.  An item
ends at its own end or where the next one starts, whichever comes first, so no
point is inside two items of one timeline.
-/

namespace AutoTrade.Lib

variable {τ α : Type} [LinearOrder τ]

/-- The earlier of two optional ends. -/
def clip (stop next : Option τ) : Option τ :=
  match stop, next with
  | stop, none => stop
  | none, some limit => some limit
  | some stop, some limit => some (if limit < stop then limit else stop)

/-- A point from a start on and before an optional end. -/
def Inside (start : τ) (stop : Option τ) (point : τ) : Prop :=
  start ≤ point ∧ ∀ limit ∈ stop, point < limit

instance (start : τ) (stop : Option τ) (point : τ) : Decidable (Inside start stop point) :=
  inferInstanceAs (Decidable (_ ∧ ∀ limit ∈ stop, point < limit))

theorem inside_clip {start point : τ} {stop next : Option τ} :
    Inside start (clip stop next) point ↔
      Inside start stop point ∧ ∀ limit ∈ next, point < limit := by
  rw [Inside, Inside, and_assoc, and_congr_right_iff]
  intro _
  cases next with
  | none => cases stop <;> simp [clip]
  | some limit =>
      cases stop with
      | none => simp [clip]
      | some stop =>
          simp only [clip, Option.mem_def, Option.some.injEq, forall_eq']
          split
          next before => exact ⟨fun below => ⟨below.trans before, below⟩, And.right⟩
          next after =>
            exact ⟨fun below => ⟨below, lt_of_lt_of_le below (not_lt.mp after)⟩, And.left⟩

section Segments

variable (start : α → τ) (stop : α → Option τ)

/-- The items of a timeline with the ends that the next items leave them. -/
def segments : List α → List (α × Option τ)
  | [] => []
  | item :: rest => (item, clip (stop item) (rest.head?.map start)) :: segments rest

/-- The last item of a timeline whose segment has a point. -/
def covering (point : τ) : List α → Option α
  | [] => none
  | item :: rest =>
      match covering point rest with
      | some found => some found
      | none =>
          if Inside (start item) (clip (stop item) (rest.head?.map start)) point then some item
          else none

variable {start : α → τ} {stop : α → Option τ} {items : List α} {point : τ}

theorem mem_of_mem_segments {item : α} {limit : Option τ}
    (member : (item, limit) ∈ segments start stop items) : item ∈ items := by
  induction items with
  | nil => cases member
  | cons first rest ih =>
      rcases List.mem_cons.mp member with same | later
      · cases same
        exact List.mem_cons_self
      · exact List.mem_cons_of_mem first (ih later)

/-- A point that a segment has is not before the first item. -/
theorem start_le_of_inside {first : τ} (later : ∀ item ∈ items, first ≤ start item)
    {item : α} {limit : Option τ} (member : (item, limit) ∈ segments start stop items)
    (inside : Inside (start item) limit point) : first ≤ point :=
  (later item (mem_of_mem_segments member)).trans inside.1

/-- The search finds the one segment that has a point. -/
theorem covering_eq_some
    (increasing : items.Pairwise fun earlier later => start earlier < start later) {item : α} :
    covering start stop point items = some item ↔
      ∃ limit, (item, limit) ∈ segments start stop items ∧ Inside (start item) limit point := by
  induction items generalizing item with
  | nil => simp [covering, segments]
  | cons first rest ih =>
      have ih := fun item => @ih increasing.tail item
      -- the first segment ends where the second one starts
      have disjoint : Inside (start first) (clip (stop first) (rest.head?.map start)) point →
          covering start stop point rest = none := by
        intro inside
        cases rest with
        | nil => rfl
        | cons second others =>
            rw [inside_clip] at inside
            have before : point < start second := inside.2 (start second) rfl
            have later : ∀ item ∈ second :: others, start second ≤ start item :=
              List.forall_mem_cons.mpr ⟨le_refl _, fun item member =>
                (List.rel_of_pairwise_cons increasing.tail member).le⟩
            rw [Option.eq_none_iff_forall_ne_some]
            intro found covered
            obtain ⟨limit, listed, within⟩ := (ih found).mp covered
            exact absurd before (not_lt.mpr (start_le_of_inside later listed within))
      cases later : covering start stop point rest with
      | none =>
          rw [covering, later]
          constructor
          · intro found
            split_ifs at found with inside
            cases found
            exact ⟨_, List.mem_cons_self, inside⟩
          · rintro ⟨limit, listed, inside⟩
            cases listed with
            | head => exact if_pos inside
            | tail _ listed =>
                rw [(ih item).mpr ⟨limit, listed, inside⟩] at later
                cases later
      | some other =>
          rw [covering, later]
          constructor
          · intro same
            cases same
            obtain ⟨limit, listed, inside⟩ := (ih item).mp later
            exact ⟨limit, List.mem_cons_of_mem _ listed, inside⟩
          · rintro ⟨limit, listed, inside⟩
            cases listed with
            | head =>
                rw [disjoint inside] at later
                cases later
            | tail _ listed => exact later.symm.trans ((ih item).mpr ⟨limit, listed, inside⟩)

/-- An item that starts after all others takes its points from them. -/
theorem covering_append {added : α}
    (increasing : (items ++ [added]).Pairwise fun earlier later => start earlier < start later) :
    covering start stop point (items ++ [added]) =
      if start added ≤ point then
        if Inside (start added) (stop added) point then some added else none
      else covering start stop point items := by
  induction items with
  | nil =>
      rw [List.nil_append, covering, covering]
      by_cases started : start added ≤ point
      · rw [if_pos started]
        rfl
      · rw [if_neg started, if_neg fun inside => started inside.1]
        rfl
  | cons first rest ih =>
      rw [List.cons_append, covering, covering, ih increasing.tail]
      by_cases started : start added ≤ point
      · rw [if_pos started, if_pos started]
        by_cases inside : Inside (start added) (stop added) point
        · rw [if_pos inside]
        rw [if_neg inside]
        -- the first item ends before the added one starts
        have ended : ¬ Inside (start first)
            (clip (stop first) ((rest ++ [added]).head?.map start)) point := by
          intro within
          rw [inside_clip] at within
          cases rest with
          | nil => exact absurd (within.2 (start added) rfl) (not_lt.mpr started)
          | cons second others =>
              have order : start second < start added :=
                List.rel_of_pairwise_cons increasing.tail
                  (List.mem_append_right others List.mem_cons_self)
              exact absurd (within.2 (start second) rfl) (not_lt.mpr (order.le.trans started))
        exact if_neg ended
      · have limits : Inside (start first)
              (clip (stop first) ((rest ++ [added]).head?.map start)) point ↔
            Inside (start first) (clip (stop first) (rest.head?.map start)) point := by
          cases rest with
          | nil =>
              rw [inside_clip, inside_clip]
              refine and_congr_right fun _ => ?_
              simpa using not_le.mp started
          | cons second others => exact Iff.rfl
        simp only [if_neg started, limits]

end Segments

end AutoTrade.Lib
