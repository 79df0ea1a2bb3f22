import Mathlib.Algebra.Order.Field.Basic
import Mathlib.Tactic.FieldSimp
import Mathlib.Tactic.Linarith
import Mathlib.Tactic.Ring

/-!
# First-in first-out inventories

An inventory is a list of lots, each a quantity with its worth.  Taking an amount
out uses up the lots in order and leaves of the last one the rest of its quantity
with a proportional worth.
-/

namespace AutoTrade.Lib.Inventory

variable {K : Type} [Field K] [LinearOrder K]

/-- The lots that are left when an amount is taken out. -/
def takeOut (amount : K) : List (K × K) → List (K × K)
  | [] => []
  | (quantity, worth) :: rest =>
      if amount ≤ 0 then (quantity, worth) :: rest
      else if quantity ≤ amount then takeOut (amount - quantity) rest
      else (quantity - amount, worth - worth * (amount / quantity)) :: rest

theorem takeOut_of_nonpos {amount : K} (nothing : amount ≤ 0) (lots : List (K × K)) :
    takeOut amount lots = lots := by
  cases lots with
  | nil => rfl
  | cons lot rest => rw [takeOut, if_pos nothing]

/-- A lot that the amount covers is used up. -/
theorem takeOut_whole {amount quantity : K} (worth : K) (rest : List (K × K))
    (some_ : 0 < amount) (covered : quantity ≤ amount) :
    takeOut amount ((quantity, worth) :: rest) = takeOut (amount - quantity) rest := by
  rw [takeOut, if_neg (not_le.mpr some_), if_pos covered]

/-- A lot that the amount does not cover is split. -/
theorem takeOut_part {amount quantity : K} (worth : K) (rest : List (K × K))
    (some_ : 0 < amount) (short : amount < quantity) :
    takeOut amount ((quantity, worth) :: rest) =
      (quantity - amount, worth - worth * (amount / quantity)) :: rest := by
  rw [takeOut, if_neg (not_le.mpr some_), if_neg (not_le.mpr short)]

variable [IsStrictOrderedRing K]

/-- The worth of a lot that is split twice. -/
theorem split_split {quantity first second : K} (worth : K) (more : first < quantity)
    (positive : 0 < quantity) :
    worth - worth * (first / quantity) -
        (worth - worth * (first / quantity)) * (second / (quantity - first)) =
      worth - worth * ((first + second) / quantity) := by
  have whole : quantity ≠ 0 := positive.ne'
  have left : quantity - first ≠ 0 := (sub_pos.mpr more).ne'
  field_simp
  ring

/-- Taking out two amounts one after the other takes out their sum. -/
theorem takeOut_takeOut {first second : K} {lots : List (K × K)}
    (positive : ∀ lot ∈ lots, 0 < lot.1) (first_nonneg : 0 ≤ first)
    (second_nonneg : 0 ≤ second) :
    takeOut second (takeOut first lots) = takeOut (first + second) lots := by
  induction lots generalizing first with
  | nil => rfl
  | cons lot rest ih =>
      obtain ⟨quantity, worth⟩ := lot
      have own : 0 < quantity := positive (quantity, worth) List.mem_cons_self
      have others : ∀ lot ∈ rest, 0 < lot.1 := by
        intro lot member
        exact positive lot (List.mem_cons_of_mem _ member)
      cases first_nonneg.eq_or_lt with
      | inl none =>
          rw [← none, zero_add, takeOut_of_nonpos le_rfl]
      | inr some_ =>
          have total : 0 < first + second := add_pos_of_pos_of_nonneg some_ second_nonneg
          cases le_or_gt quantity first with
          | inl covered =>
              have both : quantity ≤ first + second := covered.trans (le_add_of_nonneg_right
                second_nonneg)
              rw [takeOut_whole worth rest some_ covered, takeOut_whole worth rest total both,
                ih others (sub_nonneg.mpr covered)]
              congr 1
              ring
          | inr short =>
              rw [takeOut_part worth rest some_ short]
              cases second_nonneg.eq_or_lt with
              | inl nothing =>
                  rw [← nothing, takeOut_of_nonpos le_rfl, add_zero,
                    takeOut_part worth rest some_ short]
              | inr more =>
                  cases le_or_gt (quantity - first) second with
                  | inl covered =>
                      rw [takeOut_whole _ rest more covered,
                        takeOut_whole worth rest total (by linarith)]
                      congr 1
                      ring
                  | inr left =>
                      rw [takeOut_part _ rest more left,
                        takeOut_part worth rest total (by linarith),
                        split_split worth short own]
                      congr 2
                      ring

end AutoTrade.Lib.Inventory
