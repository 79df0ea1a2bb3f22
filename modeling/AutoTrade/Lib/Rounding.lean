import Mathlib.Algebra.Order.Floor.Ring
import Mathlib.Algebra.Ring.Int.Parity
import Mathlib.Tactic.Linarith

/-!
# Rounding to integers

The relation between a value and the integer it is rounded to, downwards, upwards
or to the nearest with ties to the even one.  Each of the three is a function that is
monotone, keeps the integers, and is carried to its opposite by the sign.
-/

namespace AutoTrade.Lib.Rounding

variable {K : Type} [Field K] [LinearOrder K]

/-- The directions of a rounding. -/
inductive Direction where
  | floor
  | ceiling
  | halfEven
  deriving DecidableEq, Repr

/-- The direction seen from the other side of zero. -/
def Direction.opposite : Direction → Direction
  | .floor => .ceiling
  | .ceiling => .floor
  | .halfEven => .halfEven

/-- The value is rounded to the integer. -/
def Rounds : Direction → K → ℤ → Prop
  | .floor, value, units => (units : K) ≤ value ∧ value < units + 1
  | .ceiling, value, units => (units : K) - 1 < value ∧ value ≤ units
  | .halfEven, value, units =>
      |value - units| ≤ 1 / 2 ∧ (|value - units| = 1 / 2 → Even units)

theorem rounds_floor [FloorRing K] (value : K) : Rounds .floor value ⌊value⌋ :=
  ⟨Int.floor_le value, Int.lt_floor_add_one value⟩

variable [IsStrictOrderedRing K]

theorem rounds_intCast (direction : Direction) (units : ℤ) : Rounds direction (units : K) units := by
  cases direction with
  | floor => simp [Rounds]
  | ceiling => simp [Rounds]
  | halfEven => simp [Rounds]

theorem Rounds.neg {direction : Direction} {value : K} {units : ℤ}
    (rounds : Rounds direction value units) : Rounds direction.opposite (-value) (-units) := by
  cases direction with
  | floor =>
      simp only [Rounds, Direction.opposite, Int.cast_neg] at rounds ⊢
      constructor
      · linarith
      · linarith
  | ceiling =>
      simp only [Rounds, Direction.opposite, Int.cast_neg] at rounds ⊢
      constructor
      · linarith
      · linarith
  | halfEven =>
      have distance : |-value - ((-units : ℤ) : K)| = |value - units| := by
        rw [Int.cast_neg, ← neg_sub', abs_neg]
      simpa only [Rounds, Direction.opposite, distance, even_neg] using rounds

/-- Two ties of neighbouring integers cannot both be even. -/
theorem halfEven_mono {left right : K} {first second : ℤ} (ordered : left ≤ right)
    (down : Rounds .halfEven left first) (up : Rounds .halfEven right second) :
    first ≤ second := by
  by_contra crossed
  obtain ⟨nearFirst, tieFirst⟩ := down
  obtain ⟨nearSecond, tieSecond⟩ := up
  have apart : (second : K) + 1 ≤ first := by
    exact_mod_cast Int.add_one_le_iff.mpr (not_le.mp crossed)
  obtain ⟨low, -⟩ := abs_le.mp nearFirst
  obtain ⟨-, high⟩ := abs_le.mp nearSecond
  -- Both values are half way between the two integers.
  have firstTie : left - first = -(1 / 2) := by linarith
  have secondTie : right - second = 1 / 2 := by linarith
  have next : (first : K) = ((second + 1 : ℤ) : K) := by
    rw [Int.cast_add, Int.cast_one]
    linarith
  have evenFirst : Even first := tieFirst (by rw [firstTie, abs_neg, abs_of_pos]; norm_num)
  have evenSecond : Even second := tieSecond (by rw [secondTie, abs_of_pos]; norm_num)
  rw [Int.cast_inj.mp next, Int.even_add_one] at evenFirst
  exact evenFirst evenSecond

theorem Rounds.mono {direction : Direction} {left right : K} {first second : ℤ}
    (ordered : left ≤ right) (down : Rounds direction left first)
    (up : Rounds direction right second) : first ≤ second := by
  cases direction with
  | floor =>
      have below : (first : K) < second + 1 := down.1.trans_lt (ordered.trans_lt up.2)
      exact Int.lt_add_one_iff.mp (by exact_mod_cast below)
  | ceiling =>
      have below : (first : K) - 1 < second := down.1.trans_le (ordered.trans up.2)
      exact Int.sub_one_lt_iff.mp (by exact_mod_cast below)
  | halfEven => exact halfEven_mono ordered down up

theorem Rounds.unique {direction : Direction} {value : K} {first second : ℤ}
    (left : Rounds direction value first) (right : Rounds direction value second) :
    first = second :=
  le_antisymm (left.mono le_rfl right) (right.mono le_rfl left)

/-! ## By the floor -/

variable [FloorRing K]

theorem rounds_ceil (value : K) : Rounds .ceiling value ⌈value⌉ :=
  ⟨sub_lt_iff_lt_add.mpr (Int.ceil_lt_add_one value), Int.le_ceil value⟩

/-- Below the half the floor is nearest. -/
theorem rounds_below {value : K} (below : Int.fract value < 1 / 2) :
    Rounds .halfEven value ⌊value⌋ := by
  rw [Rounds, Int.self_sub_floor, abs_of_nonneg (Int.fract_nonneg value)]
  constructor
  · exact below.le
  · intro tie
    exact absurd tie below.ne

theorem sub_floor_add_one (value : K) : |value - ((⌊value⌋ + 1 : ℤ) : K)| = 1 - Int.fract value := by
  rw [Int.cast_add, Int.cast_one, ← sub_sub, Int.self_sub_floor, abs_sub_comm,
    abs_of_pos (sub_pos.mpr (Int.fract_lt_one value))]

/-- Above the half the next integer is nearest. -/
theorem rounds_above {value : K} (above : 1 / 2 < Int.fract value) :
    Rounds .halfEven value (⌊value⌋ + 1) := by
  rw [Rounds, sub_floor_add_one]
  constructor
  · linarith
  · intro tie
    linarith

/-- At the half the even one of the two is taken. -/
theorem rounds_tie {value : K} (tie : Int.fract value = 1 / 2) :
    Rounds .halfEven value (if Even ⌊value⌋ then ⌊value⌋ else ⌊value⌋ + 1) := by
  split
  next even =>
    rw [Rounds, Int.self_sub_floor, tie]
    constructor
    · norm_num
    · exact fun _ => even
  next odd =>
    rw [Rounds, sub_floor_add_one, tie]
    constructor
    · norm_num
    · exact fun _ => Int.even_add_one.mpr odd

/-- The nearest integer, the even one of two. -/
def halfEven (value : K) : ℤ :=
  if Int.fract value < 1 / 2 then ⌊value⌋
  else if 1 / 2 < Int.fract value then ⌊value⌋ + 1
  else if Even ⌊value⌋ then ⌊value⌋ else ⌊value⌋ + 1

theorem rounds_halfEven (value : K) : Rounds .halfEven value (halfEven value) := by
  rw [halfEven]
  split
  next below => exact rounds_below below
  next notBelow =>
    split
    next above => exact rounds_above above
    next notAbove =>
      apply rounds_tie
      exact le_antisymm (not_lt.mp notAbove) (not_lt.mp notBelow)

theorem halfEven_eq_iff {value : K} {units : ℤ} :
    halfEven value = units ↔ Rounds .halfEven value units := by
  constructor
  · intro same
    rw [← same]
    exact rounds_halfEven value
  · intro rounds
    exact (rounds_halfEven value).unique rounds

@[simp] theorem halfEven_intCast (units : ℤ) : halfEven (units : K) = units :=
  halfEven_eq_iff.mpr (rounds_intCast .halfEven units)

theorem abs_halfEven_le {value : K} {bound : ℤ} (bounded : |value| ≤ bound) :
    |halfEven value| ≤ bound := by
  obtain ⟨low, high⟩ := abs_le.mp bounded
  rw [← Int.cast_neg] at low
  apply abs_le.mpr
  constructor
  · exact (rounds_intCast .halfEven (-bound)).mono low (rounds_halfEven value)
  · exact (rounds_halfEven value).mono high (rounds_intCast .halfEven bound)

theorem le_abs_halfEven {value : K} {bound : ℤ} (bounded : bound ≤ |value|) :
    bound ≤ |halfEven value| := by
  rcases le_abs.mp bounded with right | left
  · exact ((rounds_intCast .halfEven bound).mono right (rounds_halfEven value)).trans
      (le_abs_self _)
  · have low : value ≤ ((-bound : ℤ) : K) := by
      rw [Int.cast_neg]
      exact le_neg_of_le_neg left
    have below := (rounds_halfEven value).mono low (rounds_intCast .halfEven (-bound))
    exact (le_neg_of_le_neg below).trans (neg_le_abs _)

end AutoTrade.Lib.Rounding
