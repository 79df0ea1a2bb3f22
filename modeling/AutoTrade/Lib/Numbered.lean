import Mathlib.Data.List.Infix
import Mathlib.Data.List.Sort

/-!
# Numbered rows

An append-only table numbers its rows from one.  The numbers then order the rows
as they were appended, and a page after a cursor is a suffix of the table.
-/

namespace AutoTrade.Lib

variable {α κ : Type}

/-- The rows are numbered from one, in their order. -/
def Numbered (number : α → Nat) (rows : List α) : Prop :=
  rows.map number = List.range' 1 rows.length

namespace Numbered

variable {number : α → Nat} {rows : List α}

theorem nil : Numbered number [] := rfl

/-- The next row takes the next number. -/
theorem append_one (numbered : Numbered number rows) {row : α}
    (next : number row = rows.length + 1) : Numbered number (rows ++ [row]) := by
  rw [Numbered, List.map_append, numbered, List.length_append, List.length_singleton,
    List.range'_1_concat, List.map_singleton, next, Nat.add_comm 1]

/-- The last row has the number of rows. -/
theorem last {row : α} (numbered : Numbered number (rows ++ [row])) :
    number row = rows.length + 1 := by
  rw [Numbered, List.map_append, List.length_append, List.length_singleton,
    List.range'_1_concat] at numbered
  have tails := (List.append_inj' numbered rfl).2
  rw [List.map_singleton, List.singleton_inj] at tails
  exact tails.trans (Nat.add_comm 1 _)

theorem pairwise_lt (numbered : Numbered number rows) :
    rows.Pairwise fun earlier later => number earlier < number later := by
  rw [← List.pairwise_map, numbered]
  exact List.pairwise_lt_range'

theorem le_length (numbered : Numbered number rows) {row : α} (member : row ∈ rows) :
    number row ≤ rows.length := by
  have listed := List.mem_map_of_mem (f := number) member
  rw [numbered, List.mem_range'_1] at listed
  omega

theorem pos (numbered : Numbered number rows) {row : α} (member : row ∈ rows) :
    0 < number row := by
  have listed := List.mem_map_of_mem (f := number) member
  rw [numbered, List.mem_range'_1] at listed
  exact listed.1

/-- A row stands where its number says. -/
theorem getElem? (numbered : Numbered number rows) {row : α} (member : row ∈ rows) :
    rows[number row - 1]? = some row := by
  obtain ⟨index, found⟩ := List.mem_iff_getElem?.mp member
  have within : index < rows.length := (List.getElem?_eq_some_iff.mp found).1
  have counted := congrArg (fun numbers => numbers[index]?) numbered
  simp only [List.getElem?_map, found, Option.map_some, List.getElem?_range' within,
    Option.some.injEq] at counted
  rw [counted, Nat.one_mul, Nat.add_sub_cancel_left]
  exact found

/-- Sorting by number leaves the order of insertion. -/
theorem insertionSort_eq (numbered : Numbered number rows) :
    (rows.insertionSort fun left right => number left ≤ number right) = rows :=
  (numbered.pairwise_lt.imp Nat.le_of_lt).insertionSort_eq

theorem take (numbered : Numbered number rows) (count : Nat) :
    Numbered number (rows.take count) := by
  rw [Numbered, List.map_take, numbered, List.length_take]
  rcases Nat.le_total count rows.length with within | beyond
  · rw [List.take_range'_of_length_ge within, Nat.min_eq_left within]
  · rw [List.take_range'_of_length_le beyond, Nat.min_eq_right beyond]

/-- The rows from a position on are numbered from there. -/
theorem map_drop (numbered : Numbered number rows) (start : Nat) :
    (rows.drop start).map number = List.range' (start + 1) (rows.length - start) := by
  rw [List.map_drop, numbered, List.drop_range', Nat.mul_one, Nat.add_comm 1]

/-- A page is numbered from its start. -/
theorem map_page (numbered : Numbered number rows) (start count : Nat) :
    ((rows.drop start).take count).map number =
      List.range' (start + 1) ((rows.drop start).take count).length := by
  rw [List.take_drop, (numbered.take (start + count)).map_drop, List.length_drop]

/-- The rows after a cursor are a suffix of the table. -/
theorem filter_lt (numbered : Numbered number rows) (cursor : Nat) :
    (rows.filter fun row => cursor < number row) = rows.drop cursor := by
  have behind : (rows.take cursor).filter (fun row => cursor < number row) = [] := by
    rw [List.filter_eq_nil_iff]
    intro row member
    rw [decide_eq_true_eq, Nat.not_lt]
    exact ((numbered.take cursor).le_length member).trans (List.length_take_le cursor rows)
  have ahead : (rows.drop cursor).filter (fun row => cursor < number row) = rows.drop cursor := by
    rw [List.filter_eq_self]
    intro row member
    have listed := List.mem_map_of_mem (f := number) member
    rw [numbered.map_drop, List.mem_range'_1] at listed
    exact decide_eq_true listed.1
  rw [← List.take_append_drop cursor rows, List.filter_append, behind, List.nil_append,
    List.take_append_drop, ahead]

end Numbered

/-- Two increasing series order the rows alike. -/
theorem lt_iff_lt_of_pairwise {first second : α → Nat} {rows : List α}
    (firsts : rows.Pairwise fun earlier later => first earlier < first later)
    (seconds : rows.Pairwise fun earlier later => second earlier < second later)
    {left right : α} (leftMember : left ∈ rows) (rightMember : right ∈ rows) :
    first left < first right ↔ second left < second right := by
  have both := firsts.and seconds
  refine List.Pairwise.forall_of_forall_of_flip
    (R := fun left right => first left < first right ↔ second left < second right)
    (fun _ _ => iff_of_false (Nat.lt_irrefl _) (Nat.lt_irrefl _)) ?_ ?_ leftMember rightMember
  · apply both.imp
    intro earlier later order
    exact iff_of_true order.1 order.2
  · apply both.imp
    intro earlier later order
    exact iff_of_false order.1.le.not_gt order.2.le.not_gt

/-! ## Lookups by a key -/

/-- A lookup by a key that no two rows share. -/
theorem find?_key [DecidableEq κ] {key : α → κ} {rows : List α}
    (distinct : (rows.map key).Nodup) {row : α} (member : row ∈ rows) :
    (rows.find? fun other => key other = key row) = some row := by
  induction rows with
  | nil => cases member
  | cons first rest ih =>
      obtain ⟨fresh, distinct⟩ := List.nodup_cons.mp distinct
      rw [List.find?_cons]
      rcases List.mem_cons.mp member with rfl | member
      · rw [decide_eq_true rfl]
      · have other : key first ≠ key row := by
          intro same
          exact fresh (same ▸ List.mem_map_of_mem member)
        rw [decide_eq_false other]
        exact ih distinct member

end AutoTrade.Lib
