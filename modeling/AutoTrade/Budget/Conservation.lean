import AutoTrade.Budget.Ledger
import Mathlib.Tactic.Linarith

/-!
# Conservation of the budget

What every call does to the exact totals of a ledger.  Costs that were incurred
or estimated are never forgotten, with one exception: `settle` assigns the
estimate of its request, and a request that was reserved again after an earlier
settlement may still have one.  `conserves_iff` shows that this is the only way
to lose a cost.
-/

namespace AutoTrade.Budget

open Lib Numeric

namespace BudgetLedger

/-! ## Totals -/

/-- The total of the reservations. -/
def totalReserved (ledger : BudgetLedger) : ℚ := ledger.reserved.total Decimal.toRat

/-- What was incurred and what is estimated but not billed. -/
def committed (ledger : BudgetLedger) : ℚ :=
  ledger.incurred.toRat + ledger.estimatedUnbilledByRequest.total Decimal.toRat

/-- Everything that counts against the ceiling. -/
def exposure (ledger : BudgetLedger) : ℚ := ledger.totalReserved + ledger.committed

/-- Reservations and estimates are not negative. -/
structure Nonnegative (ledger : BudgetLedger) : Prop where
  reserved : ∀ requestId amount, ledger.reserved.get? requestId = some amount → 0 ≤ amount.toRat
  estimated : ∀ requestId amount,
    ledger.estimatedUnbilledByRequest.get? requestId = some amount → 0 ≤ amount.toRat

theorem Nonnegative.estimateOf {ledger : BudgetLedger} (nonnegative : Nonnegative ledger)
    (requestId : String) : 0 ≤ (ledger.estimateOf requestId).toRat := by
  rw [BudgetLedger.estimateOf]
  cases found : ledger.estimatedUnbilledByRequest.get? requestId with
  | none => exact le_rfl
  | some amount => exact nonnegative.estimated requestId amount found

theorem elim_toRat (amount : Option Decimal) :
    amount.elim 0 Decimal.toRat = (amount.getD 0).toRat := by
  cases amount <;> rfl

theorem total_values (dict : Dict String Decimal) {total : Decimal}
    (summed : exactSum dict.values 0 = .ok total) : total.toRat = dict.total Decimal.toRat := by
  rw [exactSum_toRat summed, Decimal.toRat_zero, zero_add, Dict.total]

/-! ## Calls -/

section Inversion

variable {ledger next : BudgetLedger}

theorem exact_eq_ok {α : Type} {computation : Except ExactDecimalError α} {result : α} :
    exact computation = .ok result ↔ computation = .ok result :=
  mapError_eq_ok

/-- What is available is what the ceiling leaves, and nothing when it leaves less
than nothing. -/
theorem available_toRat {snapshot : BudgetSnapshot} {available : Decimal}
    (success : snapshot.available = .ok available) :
    available.toRat = max 0 (snapshot.ceiling.toRat -
      (snapshot.reserved.toRat + snapshot.incurred.toRat + snapshot.estimatedUnbilled.toRat)) := by
  simp only [BudgetSnapshot.available, bind_eq_ok, pure_eq_ok, exact_eq_ok] at success
  obtain ⟨used, summed, remaining, subtracted, rfl⟩ := success
  have usedValue := exactSum_toRat summed
  have remainingValue := exactSubtract_eq_ok.mp subtracted
  simp only [Decimal.toRat_zero, List.map_cons, List.map_nil, List.sum_cons,
    List.sum_nil] at usedValue
  have value : remaining.toRat = snapshot.ceiling.toRat -
      (snapshot.reserved.toRat + snapshot.incurred.toRat + snapshot.estimatedUnbilled.toRat) := by
    rw [remainingValue, usedValue]
    ring
  rw [← value]
  split
  next positive => exact (max_eq_right (le_of_lt positive)).symm
  next other => exact (max_eq_left (not_lt.mp other)).symm

theorem snapshot_eq_ok {snapshot : BudgetSnapshot} (success : ledger.snapshot = .ok snapshot) :
    snapshot.ceiling = ledger.ceiling ∧ snapshot.reserved.toRat = ledger.totalReserved ∧
      snapshot.incurred = ledger.incurred ∧ snapshot.estimatedUnbilled.toRat =
        ledger.estimatedUnbilledByRequest.total Decimal.toRat := by
  simp only [BudgetLedger.snapshot, bind_eq_ok, pure_eq_ok, exact_eq_ok] at success
  obtain ⟨reserved, summed, estimated, estimatedSum, rfl⟩ := success
  exact ⟨rfl, total_values _ summed, rfl, total_values _ estimatedSum⟩

/-- A reservation is a repetition, or a new one that fits below the ceiling. -/
theorem reserve_cases {requestId : String} {amount : DecimalInput}
    (success : ledger.reserve requestId amount = .ok next) :
    ∃ value, exactDecimal amount "reservation" = .ok value ∧ 0 ≤ value.toRat ∧
      ((ledger.reserved.get? (strip requestId) = some value ∧ next = ledger) ∨
        (ledger.reserved.get? (strip requestId) = none ∧
          value.toRat ≤ max 0 (ledger.ceiling.toRat - ledger.exposure) ∧
          next = { ledger with reserved := ledger.reserved.set (strip requestId) value })) := by
  simp only [reserve, identifier, bind_eq_ok, guard_eq_ok] at success
  obtain ⟨_, ⟨_, named⟩, value, parsed, nonnegative, success⟩ := success
  rw [Except.ok.injEq] at named
  subst named
  refine ⟨value, parsed, not_lt.mp nonnegative, ?_⟩
  split at success
  next prior found =>
    rw [guard_eq_ok, Except.ok.injEq, not_not] at success
    obtain ⟨rfl, rfl⟩ := success
    exact .inl ⟨found, rfl⟩
  next absent =>
    simp only [insertReservation, bind_eq_ok, guard_eq_ok, pure_eq_ok] at success
    obtain ⟨snapshot, taken, available, spare, fits, _, _, _, _, _, _, rfl⟩ := success
    refine .inr ⟨absent, ?_, rfl⟩
    obtain ⟨ceiling, reserved, incurred, estimated⟩ := snapshot_eq_ok taken
    have value := available_toRat spare
    rw [ceiling, reserved, incurred, estimated, add_assoc] at value
    rw [exposure, committed, ← value]
    exact not_lt.mp fits

theorem release_cases {requestId : String} {released : Decimal}
    (success : ledger.release requestId = .ok (next, released)) :
    strip requestId ∉ ledger.settledRequests ∧
      released = (ledger.reserved.get? (strip requestId)).getD 0 ∧
      next = { ledger with reserved := ledger.reserved.erase (strip requestId) } := by
  simp only [release, identifier, bind_eq_ok, guard_eq_ok, pure_eq_ok] at success
  obtain ⟨_, ⟨_, named⟩, unsettled, same⟩ := success
  rw [Except.ok.injEq] at named
  subst named
  cases same
  exact ⟨unsettled, rfl, rfl⟩

/-- The exact totals of a settlement stay in the decimal envelope. -/
structure Totals (ledger : BudgetLedger) (requestId : String)
    (incurred estimatedUnbilled newIncurred : Decimal) : Prop where
  cost : ∃ cost, exactAdd incurred estimatedUnbilled = .ok cost
  incurred : exactAdd ledger.incurred incurred = .ok newIncurred
  available : ∃ newUnbilled newReserved available,
    exactSum (ledger.estimatedUnbilledByRequest.values ++ [estimatedUnbilled]) 0 =
      .ok newUnbilled ∧
    exactSum (ledger.reserved.erase requestId).values 0 = .ok newReserved ∧
    BudgetSnapshot.available ⟨ledger.ceiling, newReserved, newIncurred, newUnbilled⟩ =
      .ok available

/-- A settlement that passes its checks. -/
structure Settles (ledger : BudgetLedger) (requestId : String)
    (incurredInput estimatedInput : DecimalInput)
    (incurred estimatedUnbilled reserved newIncurred : Decimal) : Prop where
  named : strip requestId ≠ ""
  incurredParsed : exactDecimal incurredInput "incurred cost" = .ok incurred
  estimatedParsed : exactDecimal estimatedInput "estimated unbilled cost" = .ok estimatedUnbilled
  incurredNonnegative : 0 ≤ incurred.toRat
  estimatedNonnegative : 0 ≤ estimatedUnbilled.toRat
  found : ledger.reserved.get? (strip requestId) = some reserved
  covered : incurred.toRat + estimatedUnbilled.toRat ≤ reserved.toRat
  totals : Totals ledger (strip requestId) incurred estimatedUnbilled newIncurred

/-- The ledger after a settlement. -/
def settled (ledger : BudgetLedger) (requestId : String)
    (estimatedUnbilled newIncurred : Decimal) : BudgetLedger :=
  { ledger with
    reserved := ledger.reserved.erase requestId
    incurred := newIncurred
    estimatedUnbilledByRequest :=
      ledger.estimatedUnbilledByRequest.set requestId estimatedUnbilled
    settledRequests := insert requestId ledger.settledRequests }

theorem settle_eq_ok {requestId : String} {incurredInput estimatedInput : DecimalInput} :
    ledger.settle requestId incurredInput estimatedInput = .ok next ↔
      ∃ incurred estimatedUnbilled reserved newIncurred,
        Settles ledger requestId incurredInput estimatedInput incurred estimatedUnbilled reserved
          newIncurred ∧
        next = ledger.settled (strip requestId) estimatedUnbilled newIncurred := by
  constructor
  · intro success
    simp only [settle, identifier, bind_eq_ok, guard_eq_ok, not_or] at success
    obtain ⟨_, ⟨named, same⟩, incurred, incurredParsed, estimated, estimatedParsed,
      nonnegative, success⟩ := success
    rw [Except.ok.injEq] at same
    subst same
    split at success
    next => cases success
    next reserved found =>
      simp only [settleReserved, bind_eq_ok, guard_eq_ok, pure_eq_ok, exact_eq_ok] at success
      obtain ⟨cost, added, covered, newIncurred, incurredSum, newUnbilled, unbilledSum,
        newReserved, reservedSum, available, spare, rfl⟩ := success
      refine ⟨incurred, estimated, reserved, newIncurred, ?_, rfl⟩
      rw [Decimal.lt_def, not_lt, exactAdd_eq_ok.mp added] at covered
      exact {
        named := named
        incurredParsed := incurredParsed
        estimatedParsed := estimatedParsed
        incurredNonnegative := not_lt.mp nonnegative.1
        estimatedNonnegative := not_lt.mp nonnegative.2
        found := found
        covered := covered
        totals := {
          cost := ⟨cost, added⟩
          incurred := incurredSum
          available := ⟨newUnbilled, newReserved, available, unbilledSum, reservedSum, spare⟩ } }
  · rintro ⟨incurred, estimated, reserved, newIncurred, settles, rfl⟩
    obtain ⟨cost, added⟩ := settles.totals.cost
    obtain ⟨newUnbilled, newReserved, available, unbilledSum, reservedSum, spare⟩ :=
      settles.totals.available
    have covered : ¬ reserved < cost := by
      rw [Decimal.lt_def, exactAdd_eq_ok.mp added]
      exact not_lt.mpr settles.covered
    have nonnegative : ¬ (incurred < 0 ∨ estimated < 0) := by
      rintro (negative | negative)
      · exact not_lt.mpr settles.incurredNonnegative negative
      · exact not_lt.mpr settles.estimatedNonnegative negative
    simp only [settle, identifier, if_neg settles.named, settles.incurredParsed,
      settles.estimatedParsed, ok_bind, if_neg nonnegative, settles.found, settleReserved,
      exact_eq_ok.mpr added, if_neg covered, exact_eq_ok.mpr settles.totals.incurred,
      exact_eq_ok.mpr unbilledSum,
      exact_eq_ok.mpr reservedSum, spare]
    rfl

/-- A bill is a repetition, or a new one of a settled request. -/
theorem reconcileUnbilled_cases {billingId requestId : String} {billed : DecimalInput}
    (success : ledger.reconcileUnbilled billingId requestId billed = .ok next) :
    ∃ value, exactDecimal billed "billed cost" = .ok value ∧ 0 ≤ value.toRat ∧
      ((ledger.reconciledBills.get? (strip billingId) = some (strip requestId, value) ∧
          next = ledger) ∨
        ∃ remaining newIncurred, ledger.reconciledBills.get? (strip billingId) = none ∧
          strip requestId ∈ ledger.settledRequests ∧
          remaining.toRat = (ledger.estimateOf (strip requestId)).toRat -
            min (ledger.estimateOf (strip requestId)).toRat value.toRat ∧
          newIncurred.toRat = ledger.incurred.toRat + value.toRat ∧
          next = { ledger with
            estimatedUnbilledByRequest :=
              ledger.estimatedUnbilledByRequest.set (strip requestId) remaining
            incurred := newIncurred
            reconciledBills :=
              ledger.reconciledBills.set (strip billingId) (strip requestId, value) }) := by
  simp only [reconcileUnbilled, identifier, bind_eq_ok, guard_eq_ok] at success
  obtain ⟨_, ⟨_, billingNamed⟩, _, ⟨_, requestNamed⟩, value, parsed, nonnegative, success⟩ :=
    success
  rw [Except.ok.injEq] at billingNamed requestNamed
  subst billingNamed requestNamed
  refine ⟨value, parsed, not_lt.mp nonnegative, ?_⟩
  split at success
  next prior found =>
    rw [guard_eq_ok, Except.ok.injEq, not_not] at success
    obtain ⟨rfl, rfl⟩ := success
    exact .inl ⟨found, rfl⟩
  next absent =>
    simp only [reconcileBill, guard_eq_ok, not_not, bind_eq_ok, pure_eq_ok, exact_eq_ok] at success
    obtain ⟨settled, remaining, subtracted, newIncurred, added, _, _, _, _, _, _, _, _, rfl⟩ :=
      success
    refine .inr ⟨remaining, newIncurred, absent, settled, ?_, exactAdd_eq_ok.mp added, rfl⟩
    rw [exactSubtract_eq_ok.mp subtracted]
    congr 1
    split
    next below => exact (min_eq_right (le_of_lt below)).symm
    next above => exact (min_eq_left (not_lt.mp above)).symm

end Inversion

/-! ## Runs -/

end BudgetLedger

/-- A call with its arguments. -/
inductive BudgetCall where
  | reserve (requestId : String) (amount : DecimalInput)
  | release (requestId : String)
  | settle (requestId : String) (incurred estimatedUnbilled : DecimalInput)
  | reconcileUnbilled (billingId requestId : String) (billed : DecimalInput)

namespace BudgetLedger

/-- The ledger that a call leaves when it returns. -/
def perform (ledger : BudgetLedger) (invocation : BudgetCall) :
    Except BudgetError BudgetLedger :=
  match invocation with
  | .reserve requestId amount => ledger.reserve requestId amount
  | .release requestId => (ledger.release requestId).map Prod.fst
  | .settle requestId incurred estimatedUnbilled =>
      ledger.settle requestId incurred estimatedUnbilled
  | .reconcileUnbilled billingId requestId billed =>
      ledger.reconcileUnbilled billingId requestId billed

/-- The ledger after a call, returning or raising. -/
def call (ledger : BudgetLedger) (invocation : BudgetCall) : BudgetLedger :=
  match ledger.perform invocation with
  | .ok next => next
  | .error _ => ledger

/-- A property of every call of a run at the state it finds. -/
def Along (property : BudgetLedger → BudgetCall → Prop) : BudgetLedger → List BudgetCall → Prop
  | _, [] => True
  | ledger, invocation :: rest =>
      property ledger invocation ∧ Along property (ledger.call invocation) rest

/-- No cost that was incurred or estimated is forgotten. -/
def Remembers (ledger : BudgetLedger) (invocation : BudgetCall) : Prop :=
  ledger.committed ≤ (ledger.call invocation).committed

/-- The reservations and estimates of other requests are as they were. -/
def LeavesOthers (before after : BudgetLedger) (requestId : String) : Prop :=
  ∀ other ≠ requestId, after.reserved.get? other = before.reserved.get? other ∧
    after.estimatedUnbilledByRequest.get? other = before.estimatedUnbilledByRequest.get? other

/-- Releases and settlements leave other requests. -/
def Separate (ledger : BudgetLedger) : BudgetCall → Prop
  | .release requestId =>
      LeavesOthers ledger (ledger.call (.release requestId)) (strip requestId)
  | .settle requestId incurred estimatedUnbilled =>
      LeavesOthers ledger (ledger.call (.settle requestId incurred estimatedUnbilled))
        (strip requestId)
  | _ => True

/-- A call that raises changes nothing. -/
def Atomic (ledger : BudgetLedger) (invocation : BudgetCall) : Prop :=
  ∀ error, ledger.perform invocation = .error error → ledger.call invocation = ledger

/-- A new bill is at most what is left of the estimate of its request. -/
def BilledWithin (ledger : BudgetLedger) : BudgetCall → Prop
  | .reconcileUnbilled billingId requestId billed => ∀ next value,
      ledger.reconcileUnbilled billingId requestId billed = .ok next →
        ledger.reconciledBills.get? (strip billingId) = none →
          exactDecimal billed "billed cost" = .ok value →
            value.toRat ≤ (ledger.estimateOf (strip requestId)).toRat
  | _ => True

/-- The ceiling holds in every state, as long as bills are within estimates. -/
def Bounded : BudgetLedger → List BudgetCall → Prop
  | ledger, [] => ledger.exposure ≤ ledger.ceiling.toRat
  | ledger, invocation :: rest => ledger.exposure ≤ ledger.ceiling.toRat ∧
      (ledger.BilledWithin invocation → Bounded (ledger.call invocation) rest)

/-- The conservation laws along a run. -/
structure Conserves (ledger : BudgetLedger) (calls : List BudgetCall) : Prop where
  remembers : Along Remembers ledger calls
  bounded : Bounded ledger calls
  separate : Along Separate ledger calls
  atomic : Along Atomic ledger calls

/-- A settlement that replaces a larger estimate of its request than the costs
it brings. -/
def Overwrites (ledger : BudgetLedger) : BudgetCall → Prop
  | .settle requestId incurredInput estimatedInput =>
      ∃ incurred estimatedUnbilled reserved newIncurred,
        Settles ledger requestId incurredInput estimatedInput incurred estimatedUnbilled reserved
          newIncurred ∧
        incurred.toRat + estimatedUnbilled.toRat < (ledger.estimateOf (strip requestId)).toRat
  | _ => False

/-! ## Steps -/

section Steps

variable {ledger next : BudgetLedger}

theorem totalReserved_erase (ledger : BudgetLedger) (requestId : String) :
    (ledger.reserved.erase requestId).total Decimal.toRat +
      ((ledger.reserved.get? requestId).getD 0).toRat = ledger.totalReserved := by
  rw [← elim_toRat]
  exact Dict.total_erase ledger.reserved Decimal.toRat requestId

/-- An assignment of an estimate changes the estimates by the difference. -/
theorem total_estimates_set (ledger : BudgetLedger) (requestId : String) (estimate : Decimal) :
    (ledger.estimatedUnbilledByRequest.set requestId estimate).total Decimal.toRat =
      ledger.estimatedUnbilledByRequest.total Decimal.toRat -
        (ledger.estimateOf requestId).toRat + estimate.toRat := by
  have removed := Dict.total_erase ledger.estimatedUnbilledByRequest Decimal.toRat requestId
  rw [elim_toRat, ← BudgetLedger.estimateOf] at removed
  rw [Dict.total_set, ← removed]
  ring

theorem committed_settled {incurred newIncurred : Decimal}
    (added : exactAdd ledger.incurred incurred = .ok newIncurred) (requestId : String)
    (estimate : Decimal) :
    (ledger.settled requestId estimate newIncurred).committed =
      ledger.committed + incurred.toRat + estimate.toRat -
        (ledger.estimateOf requestId).toRat := by
  rw [committed, settled, total_estimates_set, committed]
  change newIncurred.toRat + _ = _
  rw [exactAdd_eq_ok.mp added]
  ring

theorem totalReserved_settled {requestId : String} {reserved : Decimal}
    (found : ledger.reserved.get? requestId = some reserved) (estimate newIncurred : Decimal) :
    (ledger.settled requestId estimate newIncurred).totalReserved =
      ledger.totalReserved - reserved.toRat := by
  have removed := ledger.totalReserved_erase requestId
  rw [found, Option.getD_some] at removed
  rw [← removed, totalReserved, settled]
  ring

/-- The invariant of the ceiling. -/
structure Within (ledger : BudgetLedger) : Prop extends Nonnegative ledger where
  ceiling : ledger.exposure ≤ ledger.ceiling.toRat

theorem within_init {ceiling : DecimalInput} (created : init ceiling = .ok ledger) :
    Within ledger := by
  simp only [init, bind_eq_ok, guard_eq_ok, pure_eq_ok] at created
  obtain ⟨value, _, nonnegative, rfl⟩ := created
  exact {
    reserved := by
      intro requestId amount found
      cases found
    estimated := by
      intro requestId amount found
      cases found
    ceiling := by
      have empty : (∅ : Dict String Decimal).total Decimal.toRat = 0 := rfl
      rw [exposure, committed, totalReserved, empty, Decimal.toRat_zero]
      simpa using not_lt.mp nonnegative }

theorem Within.reserve {requestId : String} {amount : DecimalInput} (within : Within ledger)
    (success : ledger.reserve requestId amount = .ok next) : Within next := by
  obtain ⟨value, _, nonnegative, ⟨_, rfl⟩ | ⟨absent, fits, rfl⟩⟩ := reserve_cases success
  · exact within
  · have removed := ledger.totalReserved_erase (strip requestId)
    rw [absent, Option.getD_none, Decimal.toRat_zero, add_zero] at removed
    exact {
      reserved := by
        intro other amount found
        rw [Dict.get?_set] at found
        split at found
        next => exact Option.some.inj found ▸ nonnegative
        next => exact within.reserved other amount found
      estimated := within.estimated
      ceiling := by
        have below := within.ceiling
        rw [max_eq_right (sub_nonneg.mpr below)] at fits
        rw [exposure, totalReserved, Dict.total_set, removed]
        rw [exposure] at fits
        change _ + ledger.committed ≤ _
        linarith }

theorem Within.release {requestId : String} {released : Decimal} (within : Within ledger)
    (success : ledger.release requestId = .ok (next, released)) : Within next := by
  obtain ⟨_, _, rfl⟩ := release_cases success
  have removed := ledger.totalReserved_erase (strip requestId)
  have nonnegative : 0 ≤ ((ledger.reserved.get? (strip requestId)).getD 0).toRat := by
    cases found : ledger.reserved.get? (strip requestId) with
    | none => exact le_rfl
    | some amount => exact within.reserved _ amount found
  exact {
    reserved := by
      intro other amount found
      rw [Dict.get?_erase] at found
      split at found
      next => cases found
      next => exact within.reserved other amount found
    estimated := within.estimated
    ceiling := by
      have below := within.ceiling
      rw [exposure] at below
      change (ledger.reserved.erase (strip requestId)).total Decimal.toRat + ledger.committed ≤ _
      linarith }

theorem Within.settled {requestId : String} {incurredInput estimatedInput : DecimalInput}
    {incurred estimatedUnbilled reserved newIncurred : Decimal} (within : Within ledger)
    (settles : Settles ledger requestId incurredInput estimatedInput incurred estimatedUnbilled
      reserved newIncurred) :
    Within (ledger.settled (strip requestId) estimatedUnbilled newIncurred) where
  reserved := by
    intro other amount found
    rw [BudgetLedger.settled, Dict.get?_erase] at found
    split at found
    next => cases found
    next => exact within.reserved other amount found
  estimated := by
    intro other amount found
    rw [BudgetLedger.settled, Dict.get?_set] at found
    split at found
    next => exact Option.some.inj found ▸ settles.estimatedNonnegative
    next => exact within.estimated other amount found
  ceiling := by
    have below := within.ceiling
    have prior := within.estimateOf (strip requestId)
    have covered := settles.covered
    rw [exposure] at below ⊢
    rw [totalReserved_settled settles.found, committed_settled settles.totals.incurred]
    change _ ≤ ledger.ceiling.toRat
    linarith

/-- What a new bill does to the totals. -/
theorem committed_billed {requestId : String} {remaining newIncurred value : Decimal}
    (bills : Dict String (String × Decimal))
    (left : remaining.toRat = (ledger.estimateOf requestId).toRat -
      min (ledger.estimateOf requestId).toRat value.toRat)
    (added : newIncurred.toRat = ledger.incurred.toRat + value.toRat) :
    ({ ledger with
      estimatedUnbilledByRequest := ledger.estimatedUnbilledByRequest.set requestId remaining
      incurred := newIncurred
      reconciledBills := bills } : BudgetLedger).committed =
        ledger.committed + value.toRat - min (ledger.estimateOf requestId).toRat value.toRat := by
  rw [committed, committed, total_estimates_set, left]
  change newIncurred.toRat + _ = _
  rw [added]
  ring

theorem Within.reconcileUnbilled {billingId requestId : String} {billed : DecimalInput}
    (within : Within ledger)
    (limited : ledger.BilledWithin (.reconcileUnbilled billingId requestId billed))
    (success : ledger.reconcileUnbilled billingId requestId billed = .ok next) : Within next := by
  obtain ⟨value, parsed, nonnegative, ⟨_, rfl⟩ | ⟨remaining, newIncurred, fresh, _, left, added,
    rfl⟩⟩ := reconcileUnbilled_cases success
  · exact within
  · have covered := limited _ value success fresh parsed
    exact {
      reserved := within.reserved
      estimated := by
        intro other amount found
        rw [Dict.get?_set] at found
        split at found
        next =>
          rw [← Option.some.inj found, left]
          exact sub_nonneg.mpr (min_le_left _ _)
        next => exact within.estimated other amount found
      ceiling := by
        have below := within.ceiling
        rw [exposure] at below ⊢
        rw [committed_billed _ left added, min_eq_right covered, add_sub_cancel_right]
        exact below }

/-- The step lemma of the ceiling. -/
theorem Within.call (within : Within ledger) {invocation : BudgetCall}
    (limited : ledger.BilledWithin invocation) : Within (ledger.call invocation) := by
  unfold BudgetLedger.call
  split
  next next success =>
    cases invocation with
    | reserve requestId amount => exact within.reserve success
    | release requestId =>
        obtain ⟨released, success⟩ := map_fst_eq_ok.mp success
        exact within.release success
    | settle requestId incurred estimatedUnbilled =>
        obtain ⟨_, _, _, _, settles, rfl⟩ := settle_eq_ok.mp success
        exact within.settled settles
    | reconcileUnbilled billingId requestId billed =>
        exact within.reconcileUnbilled limited success
  next => exact within

/-- The run lemma of the ceiling. -/
theorem Within.bounded (within : Within ledger) (calls : List BudgetCall) :
    Bounded ledger calls := by
  induction calls generalizing ledger with
  | nil => exact within.ceiling
  | cons invocation rest ih =>
      exact ⟨within.ceiling, fun limited => ih (within.call limited)⟩

/-- A call forgets no cost exactly when it is no overwriting settlement. -/
theorem remembers_iff (ledger : BudgetLedger) (invocation : BudgetCall) :
    ledger.Remembers invocation ↔ ¬ ledger.Overwrites invocation := by
  rw [Remembers]
  cases invocation with
  | reserve requestId amount =>
      apply iff_of_true _ not_false
      unfold BudgetLedger.call
      split
      next next success =>
        obtain ⟨_, _, _, ⟨_, rfl⟩ | ⟨_, _, rfl⟩⟩ := reserve_cases success
        · exact le_rfl
        · exact le_rfl
      next => exact le_rfl
  | release requestId =>
      apply iff_of_true _ not_false
      unfold BudgetLedger.call
      split
      next next success =>
        obtain ⟨_, success⟩ := map_fst_eq_ok.mp success
        obtain ⟨_, _, rfl⟩ := release_cases success
        exact le_rfl
      next => exact le_rfl
  | settle requestId incurred estimatedUnbilled =>
      constructor
      · rintro kept ⟨incurred, estimated, reserved, newIncurred, settles, above⟩
        have success := settle_eq_ok.mpr ⟨_, _, _, _, settles, rfl⟩
        rw [BudgetLedger.call, perform, success] at kept
        have grown := committed_settled settles.totals.incurred (strip requestId) estimated
        linarith
      · intro safe
        unfold BudgetLedger.call
        split
        next next success =>
          obtain ⟨incurred, estimated, reserved, newIncurred, settles, rfl⟩ :=
            settle_eq_ok.mp success
          have above : (ledger.estimateOf (strip requestId)).toRat ≤
              incurred.toRat + estimated.toRat :=
            not_lt.mp fun below => safe ⟨_, _, _, _, settles, below⟩
          rw [committed_settled settles.totals.incurred]
          linarith
        next => exact le_rfl
  | reconcileUnbilled billingId requestId billed =>
      apply iff_of_true _ not_false
      unfold BudgetLedger.call
      split
      next next success =>
        obtain ⟨_, _, _, ⟨_, rfl⟩ | ⟨_, _, _, _, left, added, rfl⟩⟩ :=
          reconcileUnbilled_cases success
        · exact le_rfl
        · rw [committed_billed _ left added, add_sub_assoc]
          exact le_add_of_nonneg_right (sub_nonneg.mpr (min_le_right _ _))
      next => exact le_rfl

/-- Releases and settlements always leave other requests. -/
theorem separate (ledger : BudgetLedger) (invocation : BudgetCall) :
    ledger.Separate invocation := by
  cases invocation with
  | reserve => trivial
  | release requestId =>
      intro other different
      unfold BudgetLedger.call
      split
      next next success =>
        obtain ⟨_, success⟩ := map_fst_eq_ok.mp success
        obtain ⟨_, _, rfl⟩ := release_cases success
        exact ⟨Dict.get?_erase_of_ne _ (Ne.symm different), rfl⟩
      next => exact ⟨rfl, rfl⟩
  | settle requestId incurred estimatedUnbilled =>
      intro other different
      unfold BudgetLedger.call
      split
      next next success =>
        obtain ⟨_, _, _, _, _, rfl⟩ := settle_eq_ok.mp success
        exact ⟨Dict.get?_erase_of_ne _ (Ne.symm different),
          Dict.get?_set_of_ne _ _ (Ne.symm different)⟩
      next => exact ⟨rfl, rfl⟩
  | reconcileUnbilled => trivial

theorem atomic (ledger : BudgetLedger) (invocation : BudgetCall) :
    ledger.Atomic invocation := by
  intro error raised
  rw [BudgetLedger.call, raised]

end Steps

theorem along_of_forall {property : BudgetLedger → BudgetCall → Prop}
    (holds : ∀ ledger invocation, property ledger invocation) (ledger : BudgetLedger)
    (calls : List BudgetCall) : Along property ledger calls := by
  induction calls generalizing ledger with
  | nil => trivial
  | cons invocation rest ih => exact ⟨holds ledger invocation, ih _⟩

theorem along_congr {left right : BudgetLedger → BudgetCall → Prop}
    (equivalent : ∀ ledger invocation, left ledger invocation ↔ right ledger invocation)
    (ledger : BudgetLedger) (calls : List BudgetCall) :
    Along left ledger calls ↔ Along right ledger calls := by
  induction calls generalizing ledger with
  | nil => exact Iff.rfl
  | cons invocation rest ih => exact and_congr (equivalent ledger invocation) (ih _)

/-- In every run of a new ledger the conservation laws hold all along exactly
when no settlement replaces an estimate that is larger than its own costs. -/
theorem conserves_iff {ceiling : DecimalInput} {opened : BudgetLedger}
    (created : init ceiling = .ok opened) (calls : List BudgetCall) :
    Conserves opened calls ↔
      Along (fun ledger invocation => ¬ ledger.Overwrites invocation) opened calls := by
  rw [← along_congr remembers_iff]
  constructor
  · exact Conserves.remembers
  · intro remembers
    exact {
      remembers := remembers
      bounded := (within_init created).bounded calls
      separate := along_of_forall separate opened calls
      atomic := along_of_forall atomic opened calls }

/-! ## A lost estimate -/

/-- A settlement whose estimate stays. -/
def settledOnce : List BudgetCall :=
  [.reserve "request" (.int 10), .settle "request" (.int 4) (.int 6),
    .reconcileUnbilled "bill" "request" (.int 5)]

/-- A request that is reserved and settled again after a settlement. -/
def settledTwice : List BudgetCall :=
  [.reserve "request" (.int 10), .settle "request" (.int 0) (.int 10),
    .reserve "request" (.int 0), .settle "request" (.int 0) (.int 0)]

theorem opened_ten : (init (.int 10)).toOption.isSome = true := by decide +kernel

/-- A ledger with a ceiling of ten. -/
def tenLedger : BudgetLedger := (init (.int 10)).toOption.get opened_ten

theorem not_overwrites_of_estimate {ledger : BudgetLedger} {requestId : String}
    {incurred estimatedUnbilled : DecimalInput}
    (free : ledger.estimateOf (strip requestId) = 0) :
    ¬ ledger.Overwrites (.settle requestId incurred estimatedUnbilled) := by
  rintro ⟨_, _, _, _, settles, above⟩
  rw [free, Decimal.toRat_zero] at above
  exact not_lt.mpr (add_nonneg settles.incurredNonnegative settles.estimatedNonnegative) above

theorem settledOnce_conserves : Conserves tenLedger settledOnce := by
  apply (conserves_iff (eq_ok_get opened_ten) settledOnce).mpr
  refine ⟨not_false, not_overwrites_of_estimate ?_, not_false, trivial⟩
  decide +kernel

/-- The second settlement forgets the estimate of the first. -/
theorem settledTwice_forgets : ¬ Conserves tenLedger settledTwice := by
  intro conserves
  obtain ⟨_, _, _, remembers, _⟩ := conserves.remembers
  revert remembers
  rw [Remembers]
  decide +kernel

end BudgetLedger

end AutoTrade.Budget
