import AutoTrade.Order.Transitions

/-!
# Redelivered fill observations

A provider may deliver an observation again after later corrections or busts.
The history and the revision index only grow, and a fill keeps its provider
execution, so a redelivered `record_fill` is always recognised.  A redelivered
correction is compared with a candidate that carries the fill's *current*
active flag, and a redelivered bust with one that carries its current quantity
and price; `redelivery_iff` states exactly when these still match.
-/

namespace AutoTrade.Order

open Lib Numeric

namespace OrderProjection

/-! ## What later calls keep -/

/-- `after` keeps the history, the revision index and the execution identity of
every fill of `before`. -/
structure Extends (before after : OrderProjection) : Prop where
  history : ∀ record ∈ before.history, record ∈ after.history
  revisions : ∀ key record, before.revisionRecords.get? key = some record →
    after.revisionRecords.get? key = some record
  fills : ∀ fillId record, before.fills.get? fillId = some record →
    ∃ current, after.fills.get? fillId = some current ∧
      current.providerExecutionId = record.providerExecutionId

namespace Extends

theorem refl (projection : OrderProjection) : Extends projection projection :=
  ⟨fun _ member => member, fun _ _ found => found, fun _ record found => ⟨record, found, rfl⟩⟩

theorem trans {first second third : OrderProjection} (left : Extends first second)
    (right : Extends second third) : Extends first third where
  history record member := right.history record (left.history record member)
  revisions key record found := right.revisions key record (left.revisions key record found)
  fills fillId record found := by
    obtain ⟨middle, middleFound, middleExecution⟩ := left.fills fillId record found
    obtain ⟨current, currentFound, execution⟩ := right.fills fillId middle middleFound
    exact ⟨current, currentFound, execution.trans middleExecution⟩

/-- A call that changes neither fills nor their indexes. -/
theorem of_same {before after : OrderProjection} (history : after.history = before.history)
    (revisions : after.revisionRecords = before.revisionRecords)
    (fills : after.fills = before.fills) : Extends before after where
  history record member := by rwa [history]
  revisions key record found := by rwa [revisions]
  fills fillId record found := ⟨record, by rwa [fills], rfl⟩

end Extends

theorem extends_insertRevision {projection : OrderProjection} {fillId revision : String}
    {candidate current : FillRecord}
    (found : projection.fills.get? fillId = some current)
    (execution : candidate.providerExecutionId = current.providerExecutionId)
    (unused : projection.revisionRecords.get? (fillId, revision) = none) :
    Extends projection (projection.insertRevision fillId revision candidate) where
  history record member := List.mem_append_left _ member
  revisions key record stored := by
    rw [insertRevision, Dict.get?_set_of_ne]
    · exact stored
    · intro same
      rw [← same, unused] at stored
      cases stored
  fills other record stored := by
    simp only [insertRevision, Dict.get?_set]
    by_cases same : fillId = other
    · subst same
      rw [found] at stored
      cases stored
      exact ⟨candidate, if_pos rfl, execution⟩
    · exact ⟨record, by rw [if_neg same, stored], rfl⟩

theorem extends_insertFill {projection : OrderProjection} {candidate : FillRecord}
    (fresh : projection.fills.get? candidate.fillId = none)
    (unused : (candidate.providerRevision.bind fun revision =>
      projection.revisionRecords.get? (candidate.fillId, revision)).isSome ≠ true) :
    Extends projection (projection.insertFill candidate) where
  history record member := List.mem_append_left _ member
  revisions key record stored := by
    simp only [insertFill]
    cases revised : candidate.providerRevision with
    | none => exact stored
    | some revision =>
        rw [Dict.get?_set_of_ne]
        · exact stored
        · intro same
          apply unused
          rw [revised, Option.bind_some, same, stored]
          rfl
  fills other record stored := by
    simp only [insertFill, Dict.get?_set]
    by_cases same : candidate.fillId = other
    · subst same
      rw [fresh] at stored
      cases stored
    · exact ⟨record, by rw [if_neg same, stored], rfl⟩

theorem extends_applyRevision {projection next : OrderProjection} {fillId : String}
    {quantity price : Decimal} {active : Bool} {providerRevision : String}
    {correctionFillId : Option String} {accepted : Bool}
    (success : projection.applyRevision fillId quantity price active providerRevision
      correctionFillId = .ok (next, accepted)) : Extends projection next := by
  obtain ⟨fid, current, revision, correction, -, found, -, -, effect⟩ :=
    applyRevision_cases success
  rcases effect with ⟨same, -⟩ | ⟨unused, -, inserted⟩
  · rw [same]
    exact Extends.refl projection
  · rw [inserted]
    exact extends_insertRevision found rfl unused

/-! ## Every call extends the projection -/

theorem extends_observe {projection next : OrderProjection} {observation : FillCall}
    {accepted : Bool} (success : projection.observe observation = .ok (next, accepted)) :
    Extends projection next := by
  cases observation with
  | recordFill fillId providerExecutionId quantity price providerRevision =>
      rw [observe, recordFill, bind_eq_ok] at success
      obtain ⟨candidate, -, recorded⟩ := success
      rcases recordCandidate_cases recorded with ⟨same, -⟩ | ⟨fresh, unused, inserted, -⟩
      · rw [same]
        exact Extends.refl projection
      · rw [inserted]
        exact extends_insertFill fresh unused
  | correctFill fillId quantity price providerRevision correctionFillId =>
      obtain ⟨_, _, _, _, -, -, -, -, -, revised⟩ := correctFill_cases success
      exact extends_applyRevision revised
  | bustFill fillId providerRevision correctionFillId =>
      obtain ⟨_, _, -, -, revised⟩ := bustFill_cases success
      exact extends_applyRevision revised

/-- `next` differs from `projection` in lifecycle fields only. -/
def SameFills (projection next : OrderProjection) : Prop :=
  next.history = projection.history ∧
    next.revisionRecords = projection.revisionRecords ∧ next.fills = projection.fills

theorem SameFills.extends {projection next : OrderProjection}
    (same : SameFills projection next) : Extends projection next :=
  Extends.of_same same.1 same.2.1 same.2.2

theorem Changes.sameFills [CaseMap] {projection next : OrderProjection}
    {request : LifecycleCall} (changes : Changes projection request next) :
    SameFills projection next := by
  cases changes <;> exact ⟨rfl, rfl, rfl⟩

section Runs

variable [CaseMap]

theorem extends_step (projection : OrderProjection) (invocation : Call) :
    Extends projection (projection.step invocation) := by
  cases invocation with
  | fill observation =>
      simp only [step]
      split
      next => exact Extends.refl projection
      next next accepted success => exact extends_observe success
  | lifecycle request => exact (request_changes projection request).sameFills.extends

/-- Whatever is called, the history and indexes of a projection only grow. -/
theorem extends_run (projection : OrderProjection) (calls : List Call) :
    Extends projection (projection.run calls) :=
  List.foldlRecOn calls step (Extends.refl projection)
    fun _ extended invocation _ => extended.trans (extends_step _ invocation)

end Runs

/-! ## Redelivery -/

theorem text_normalized {value name normalized : String}
    (success : text value name = .ok normalized) :
    normalized = strip value ∧ text normalized name = .ok normalized := by
  simp only [text, guard_eq_ok, Except.ok.injEq] at success
  obtain ⟨nonempty, rfl⟩ := success
  exact ⟨rfl, by rw [text, strip_strip, if_neg nonempty]⟩

/-- The current record of the fill a call names. -/
def fillOf (projection : OrderProjection) (fillId : String) : Option FillRecord :=
  projection.fills.get? (strip fillId)

/-- An accepted revision is recognised again exactly when its rebuilt quantity,
price and active flag are those it was accepted with. -/
theorem applyRevision_again {projection next held : OrderProjection} {fillId : String}
    {quantity price quantity' price' : Decimal} {active active' : Bool}
    {providerRevision : String} {correctionFillId : Option String}
    (accepted : projection.applyRevision fillId quantity price active providerRevision
      correctionFillId = .ok (next, true)) (extended : Extends next held) :
    held.applyRevision fillId quantity' price' active' providerRevision correctionFillId =
        .ok (held, false) ↔
      quantity = quantity' ∧ price = price' ∧ active = active' := by
  obtain ⟨fid, current, revision, correction, fidText, found, revisionText, correctionText,
    effect⟩ := applyRevision_cases accepted
  rcases effect with ⟨-, impossible⟩ | ⟨unused, -, inserted⟩
  · cases impossible
  set candidate := revisedRecord fid current quantity price active revision correction
  have indexed : held.revisionRecords.get? (fid, revision) = some candidate := by
    apply extended.revisions
    rw [inserted]
    exact Dict.get?_set_self _ _ _
  obtain ⟨later, laterFound, execution⟩ := extended.fills fid candidate (by
    rw [inserted]
    exact Dict.get?_set_self _ _ _)
  have sameExecution : later.providerExecutionId = current.providerExecutionId := execution
  rw [applyRevision_eq fidText laterFound revisionText correctionText]
  simp only [recordRevision, indexed]
  constructor
  · intro recognised
    split at recognised
    next equal =>
      simp only [candidate, revisedRecord, FillRecord.mk.injEq] at equal
      obtain ⟨-, -, sameQuantity, samePrice, sameActive, -⟩ := equal
      exact ⟨sameQuantity, samePrice, sameActive⟩
    next => cases recognised
  · rintro ⟨rfl, rfl, rfl⟩
    exact if_pos (by simp only [candidate, revisedRecord, sameExecution])

theorem extends_fill {projection next held : OrderProjection} {fid : String}
    {existing : FillRecord} (found : projection.fills.get? fid = some existing)
    (first : Extends projection next) (rest : Extends next held) :
    ∃ later, held.fills.get? fid = some later := by
  obtain ⟨later, laterFound, -⟩ := (first.trans rest).fills fid existing found
  exact ⟨later, laterFound⟩

/-- The content of the named fill that a redelivered call is rebuilt from is
the content it had when the call was accepted.  A recorded fill is rebuilt from
its arguments alone. -/
def SameBasis (first later : OrderProjection) : FillCall → Prop
  | .recordFill .. => True
  | .correctFill fillId .. =>
      (first.fillOf fillId).map FillRecord.active = (later.fillOf fillId).map FillRecord.active
  | .bustFill fillId .. =>
      (first.fillOf fillId).map FillRecord.quantity =
          (later.fillOf fillId).map FillRecord.quantity ∧
        (first.fillOf fillId).map FillRecord.price = (later.fillOf fillId).map FillRecord.price

theorem recordFill_again {projection next held : OrderProjection}
    {fillId providerExecutionId : String} {quantity price : DecimalInput}
    {providerRevision : Option String}
    (accepted : projection.recordFill fillId providerExecutionId quantity price
      providerRevision = .ok (next, true)) (extended : Extends next held) :
    held.recordFill fillId providerExecutionId quantity price providerRevision =
      .ok (held, false) := by
  rw [recordFill, bind_eq_ok] at accepted
  obtain ⟨candidate, built, recorded⟩ := accepted
  rcases recordCandidate_cases recorded with ⟨-, impossible⟩ | ⟨-, -, inserted, -⟩
  · cases impossible
  have member : candidate ∈ held.history := by
    apply extended.history
    rw [inserted]
    exact List.mem_append_right _ List.mem_cons_self
  simp only [recordFill, built, bind, Except.bind, recordCandidate, if_pos member]

theorem correctFill_again {projection next held : OrderProjection} {fillId : String}
    {quantity price : DecimalInput} {providerRevision : String}
    {correctionFillId : Option String}
    (accepted : projection.correctFill fillId quantity price providerRevision
      correctionFillId = .ok (next, true)) (extended : Extends next held) :
    held.correctFill fillId quantity price providerRevision correctionFillId =
        .ok (held, false) ↔
      (projection.fillOf fillId).map FillRecord.active =
        (held.fillOf fillId).map FillRecord.active := by
  obtain ⟨fid, existing, qty, px, fidText, found, quantityOk, priceOk, positive, revised⟩ :=
    correctFill_cases accepted
  obtain ⟨later, laterFound⟩ := extends_fill found (extends_applyRevision revised) extended
  have rebuilt : held.correctFill fillId quantity price providerRevision correctionFillId =
      held.applyRevision fid qty px later.active providerRevision correctionFillId := by
    simp only [correctFill, fidText, laterFound, quantityOk, priceOk, bind, Except.bind,
      if_neg positive]
  rw [rebuilt, applyRevision_again revised extended, fillOf, fillOf,
    ← (text_normalized fidText).1, found, laterFound]
  simp

theorem bustFill_again {projection next held : OrderProjection}
    {fillId providerRevision : String} {correctionFillId : Option String}
    (accepted : projection.bustFill fillId providerRevision correctionFillId =
      .ok (next, true)) (extended : Extends next held) :
    held.bustFill fillId providerRevision correctionFillId = .ok (held, false) ↔
      (projection.fillOf fillId).map FillRecord.quantity =
          (held.fillOf fillId).map FillRecord.quantity ∧
        (projection.fillOf fillId).map FillRecord.price =
          (held.fillOf fillId).map FillRecord.price := by
  obtain ⟨fid, existing, fidText, found, revised⟩ := bustFill_cases accepted
  obtain ⟨later, laterFound⟩ := extends_fill found (extends_applyRevision revised) extended
  have rebuilt : held.bustFill fillId providerRevision correctionFillId =
      held.applyRevision fid later.quantity later.price false providerRevision
        correctionFillId := by
    simp only [bustFill, fidText, laterFound, bind, Except.bind]
  rw [rebuilt, applyRevision_again revised extended, fillOf, fillOf,
    ← (text_normalized fidText).1, found, laterFound]
  simp

/-- In every run, redelivering an accepted fill call returns `False` and leaves
the projection unchanged exactly when the call's basis is unchanged. -/
theorem redelivery_iff [CaseMap] (start next : OrderProjection) (before later : List Call)
    (observation : FillCall)
    (accepted : (start.run before).observe observation = .ok (next, true)) :
    (next.run later).observe observation = .ok (next.run later, false) ↔
      SameBasis (start.run before) (next.run later) observation := by
  have extended := extends_run next later
  cases observation with
  | recordFill fillId providerExecutionId quantity price providerRevision =>
      exact iff_of_true (recordFill_again accepted extended) trivial
  | correctFill fillId quantity price providerRevision correctionFillId =>
      exact correctFill_again accepted extended
  | bustFill fillId providerRevision correctionFillId =>
      exact bustFill_again accepted extended

section Sample

attribute [local instance] CaseMap.ascii

theorem sample_created : (create "alpaca" "account" "PAPER" "order-1" "ABC" "BUY" (.int 10) none
    none).toOption.isSome = true := by decide +kernel

/-- A new order for ten units. -/
def sampleOrder : OrderProjection :=
  (create "alpaca" "account" "PAPER" "order-1" "ABC" "BUY" (.int 10) none none).toOption.get
    sample_created

def sampleFill : FillCall := .recordFill "fill-1" "execution-1" (.int 2) (.int 5) none
def sampleCorrection : FillCall := .correctFill "fill-1" (.int 3) (.int 5) "revision-1" none
def sampleBust : FillCall := .bustFill "fill-1" "revision-2" none

/-- The order after the fill and its correction. -/
def sampleCorrected : OrderProjection :=
  sampleOrder.run [.fill sampleFill, .fill sampleCorrection]

/-- A correction redelivered with no bust in between is recognised. -/
theorem sampleCorrection_recognised :
    SameBasis (sampleOrder.run [.fill sampleFill]) (sampleCorrected.run []) sampleCorrection ∧
      (sampleCorrected.run []).observe sampleCorrection =
        .ok (sampleCorrected.run [], false) := by
  have basis : SameBasis (sampleOrder.run [.fill sampleFill]) (sampleCorrected.run [])
      sampleCorrection := by
    change Option.map _ _ = Option.map _ _
    decide +kernel
  have accepted : (sampleOrder.run [.fill sampleFill]).observe sampleCorrection =
      .ok (sampleCorrected, true) := by
    decide +kernel
  exact ⟨basis, (redelivery_iff sampleOrder sampleCorrected [.fill sampleFill] []
    sampleCorrection accepted).mpr basis⟩

/-- A correction redelivered after a bust of its fill raises instead of
returning `False`. -/
theorem redelivery_not_idempotent :
    ¬ ∀ (start next : OrderProjection) (before later : List Call) (observation : FillCall),
      create "alpaca" "account" "PAPER" "order-1" "ABC" "BUY" (.int 10) none none =
          .ok start →
        (start.run before).observe observation = .ok (next, true) →
        (next.run later).observe observation = .ok (next.run later, false) := by
  intro idempotent
  have again := idempotent sampleOrder sampleCorrected [.fill sampleFill] [.fill sampleBust]
    sampleCorrection (by decide +kernel) (by decide +kernel)
  have raised : (sampleCorrected.run [.fill sampleBust]).observe sampleCorrection =
      .error (.conflict "provider revision already has different content") := by
    decide +kernel
  rw [raised] at again
  cases again

end Sample

end OrderProjection

end AutoTrade.Order
