import AutoTrade.Budget.Ledger
import AutoTrade.Lib.Time
import AutoTrade.Numeric.DecimalText
import Mathlib.Data.List.Sort

/-!
# Model routing

The executable model of `model_gateway.route_model`: which model a policy admits
for a request, and at which cost.  The records keep what their constructors
check; a text of theirs is stripped and an amount is admitted with its
presentation.
-/

namespace AutoTrade.Budget

open Lib Numeric

inductive RoutingMode where
  | zero
  | localOnly
  | fixed
  | allowlist
  | dynamic
  | costAware
  deriving DecidableEq, Repr

inductive RouteStatus where
  | admitted
  | noModel
  | rejected
  deriving DecidableEq, Repr

/-- `RouteStatus.value`. -/
def RouteStatus.value : RouteStatus → String
  | admitted => "ADMITTED"
  | noModel => "NO_MODEL"
  | rejected => "REJECTED"

structure ModelDescriptor where
  modelId : String
  providerId : String
  revision : Option String
  remote : Bool
  estimatedCost : Presented
  latencyMs : Nat
  qualityScore : Presented
  nonnegative : 0 ≤ estimatedCost.value
  quality : 0 ≤ qualityScore.value ∧ qualityScore.value.toRat ≤ 1
  deriving DecidableEq

structure ProviderRateLimit where
  providerId : String
  remainingRequests : Nat
  deriving DecidableEq, Repr

structure ModelRateLimitSnapshot where
  agentId : String
  remainingAgentRequests : Nat
  providerLimits : List ProviderRateLimit
  distinct : (providerLimits.map ProviderRateLimit.providerId).Nodup
  deriving DecidableEq, Repr

structure RoutingPolicy where
  mode : RoutingMode
  allowedModelIds : List String
  fixedModelId : Option String
  allowRemote : Bool
  maximumCost : Presented
  maximumLatencyMs : Option Nat
  distinct : allowedModelIds.Nodup
  nonnegative : 0 ≤ maximumCost.value
  fixed : mode = .fixed → fixedModelId.isSome

/-- A timezone-aware `datetime` with its `isoformat()`. -/
structure AwareDatetime where
  instant : Instant
  isoformat : String
  deriving DecidableEq, Repr

structure ModelRequest where
  requestId : String
  allowedModelIds : List String
  privacyRemoteAllowed : Bool
  budgetRemaining : Presented
  deadlineUtc : AwareDatetime
  cancelled : Bool
  agentId : String
  rateLimitSnapshot : Option ModelRateLimitSnapshot
  identified : Normal requestId
  distinct : allowedModelIds.Nodup
  nonnegative : 0 ≤ budgetRemaining.value

structure RouteDecision where
  status : RouteStatus
  modelId : Option String
  providerId : Option String
  revision : Option String
  reservedCost : Presented
  reason : String
  deriving DecidableEq

/-- A decision that reserves nothing. -/
def RouteDecision.refusal (status : RouteStatus) (reason : String) : RouteDecision :=
  ⟨status, none, none, none, 0, reason⟩

/-- `_dedupe_descriptors`. -/
def dedupeDescriptors (descriptors : List ModelDescriptor) :
    Except BudgetError (Dict String ModelDescriptor) :=
  descriptors.foldlM (fun result descriptor =>
    if (result.get? descriptor.modelId).isSome then
      .error (.valueError s!"duplicate model descriptor: {descriptor.modelId}")
    else .ok (result.set descriptor.modelId descriptor)) ∅

/-- The identities that a policy considers, in order. -/
def candidateIds (policy : RoutingPolicy) : List String :=
  match policy.mode with
  | .fixed => policy.fixedModelId.toList
  | .allowlist | .dynamic | .localOnly | .costAware =>
      policy.allowedModelIds.insertionSort (· ≤ ·)
  | .zero => []

/-- What is left of the capacity of a provider. -/
def providerCapacity (snapshot : ModelRateLimitSnapshot) (providerId : String) : Nat :=
  ((snapshot.providerLimits.find? (·.providerId = providerId)).map
    ProviderRateLimit.remainingRequests).getD 0

/-- Whether a policy lets a remote model be used. -/
def admitsRemote (policy : RoutingPolicy) (request : ModelRequest)
    (capacity : String → Nat) (descriptor : ModelDescriptor) : Bool :=
  policy.mode ≠ .localOnly && policy.allowRemote && request.privacyRemoteAllowed &&
    (policy.mode ≠ .costAware || capacity descriptor.providerId ≠ 0)

/-- Whether a policy and a request admit a model. -/
def isCandidate (policy : RoutingPolicy) (request : ModelRequest) (capacity : String → Nat)
    (descriptor : ModelDescriptor) : Bool :=
  decide (descriptor.modelId ∈ policy.allowedModelIds) &&
    decide (descriptor.modelId ∈ request.allowedModelIds) &&
    (!descriptor.remote || admitsRemote policy request capacity descriptor) &&
    policy.maximumLatencyMs.all (descriptor.latencyMs ≤ ·) &&
    decide (descriptor.estimatedCost.value ≤ policy.maximumCost.value) &&
    decide (descriptor.estimatedCost.value ≤ request.budgetRemaining.value)

/-- The preference between models of equal quality. -/
def cheaper (left right : ModelDescriptor) : Bool :=
  left.estimatedCost.value < right.estimatedCost.value ||
    left.estimatedCost.value = right.estimatedCost.value &&
      (left.latencyMs < right.latencyMs ||
        left.latencyMs = right.latencyMs && left.modelId ≤ right.modelId)

/-- The sort key of the dynamic mode: quality, cost, latency and identity. -/
def betterQuality (left right : ModelDescriptor) : Bool :=
  right.qualityScore.value < left.qualityScore.value ||
    left.qualityScore.value = right.qualityScore.value && cheaper left right

/-- Local compute, then free remote capacity, then paid remote capacity. -/
def costTier (descriptor : ModelDescriptor) : Nat :=
  if ¬ descriptor.remote then 0 else if descriptor.estimatedCost.value = 0 then 1 else 2

/-- The sort key of the cost-aware mode: tier, cost, latency, quality and
identity. -/
def betterCost (left right : ModelDescriptor) : Bool :=
  costTier left < costTier right || costTier left = costTier right &&
    (left.estimatedCost.value < right.estimatedCost.value ||
      left.estimatedCost.value = right.estimatedCost.value &&
        (left.latencyMs < right.latencyMs || left.latencyMs = right.latencyMs &&
          (right.qualityScore.value < left.qualityScore.value ||
            left.qualityScore.value = right.qualityScore.value &&
              left.modelId ≤ right.modelId)))

/-- The first candidate in the order of a mode. -/
def chooseModel (mode : RoutingMode) (candidates : List ModelDescriptor) :
    Option ModelDescriptor :=
  match mode with
  | .fixed | .allowlist | .localOnly => candidates.head?
  | .costAware => (candidates.insertionSort fun left right => betterCost left right).head?
  | .dynamic | .zero =>
      (candidates.insertionSort fun left right => betterQuality left right).head?

/-- `route_model` after its capacity checks. -/
def routeWithCapacity (policy : RoutingPolicy) (request : ModelRequest)
    (capacity : String → Nat) (descriptors : List ModelDescriptor) :
    Except BudgetError RouteDecision := do
  let byId ← dedupeDescriptors descriptors
  let candidates := ((candidateIds policy).filterMap byId.get?).filter
    (isCandidate policy request capacity)
  match chooseModel policy.mode candidates with
  | none => pure (.refusal .noModel "no_admissible_model")
  | some chosen =>
      pure ⟨.admitted, some chosen.modelId, some chosen.providerId, chosen.revision,
        chosen.estimatedCost, "admitted"⟩

/-- `route_model`. -/
def routeModel (policy : RoutingPolicy) (request : ModelRequest)
    (descriptors : List ModelDescriptor) (now : Instant) : Except BudgetError RouteDecision :=
  if request.cancelled then .ok (.refusal .rejected "request_cancelled")
  else if request.deadlineUtc.instant ≤ now then .ok (.refusal .rejected "deadline_expired")
  else if policy.mode = .zero then .ok (.refusal .noModel "zero_model_policy")
  else if policy.mode = .costAware then
    match request.rateLimitSnapshot with
    | none => .ok (.refusal .rejected "rate_limit_unavailable")
    | some snapshot =>
        if snapshot.agentId ≠ request.agentId then
          .ok (.refusal .rejected "rate_limit_unavailable")
        else if snapshot.remainingAgentRequests = 0 then
          .ok (.refusal .noModel "agent_rate_limit_exhausted")
        else routeWithCapacity policy request (providerCapacity snapshot) descriptors
  else routeWithCapacity policy request (fun _ => 0) descriptors

/-! ## Admitted models -/

theorem mem_of_dedupeDescriptors {descriptors : List ModelDescriptor}
    {byId : Dict String ModelDescriptor} (success : dedupeDescriptors descriptors = .ok byId)
    {modelId : String} {descriptor : ModelDescriptor}
    (found : byId.get? modelId = some descriptor) : descriptor ∈ descriptors := by
  have known : ∀ modelId descriptor, byId.get? modelId = some descriptor →
      descriptor ∈ descriptors := by
    refine foldlM_invariant (fun byId : Dict String ModelDescriptor =>
      ∀ modelId descriptor, byId.get? modelId = some descriptor → descriptor ∈ descriptors)
      ?_ ?_ success
    · intro item member before after invariant step modelId descriptor found
      rw [guard_eq_ok, Except.ok.injEq] at step
      obtain ⟨-, rfl⟩ := step
      rw [Dict.get?_set] at found
      split at found
      · rw [← Option.some.inj found]
        exact member
      · exact invariant modelId descriptor found
    · intro modelId descriptor found
      cases found
  exact known modelId descriptor found

theorem mem_of_chooseModel {mode : RoutingMode} {candidates : List ModelDescriptor}
    {chosen : ModelDescriptor} (success : chooseModel mode candidates = some chosen) :
    chosen ∈ candidates := by
  cases mode with
  | fixed | allowlist | localOnly => exact List.mem_of_mem_head? success
  | costAware | dynamic | zero =>
      exact (List.mem_insertionSort _).mp (List.mem_of_mem_head? success)

/-- An admitted decision reserves the cost of a described model. -/
theorem routeWithCapacity_admitted {policy : RoutingPolicy} {request : ModelRequest}
    {capacity : String → Nat} {descriptors : List ModelDescriptor} {decision : RouteDecision}
    (success : routeWithCapacity policy request capacity descriptors = .ok decision)
    (admitted : decision.status = .admitted) :
    ∃ descriptor ∈ descriptors, descriptor.estimatedCost = decision.reservedCost := by
  rw [routeWithCapacity, bind_eq_ok] at success
  obtain ⟨byId, deduped, success⟩ := success
  simp only at success
  split at success
  next =>
    cases success
    cases admitted
  next chosen found =>
    cases success
    have candidate := (List.mem_filter.mp (mem_of_chooseModel found)).1
    obtain ⟨modelId, -, described⟩ := List.mem_filterMap.mp candidate
    exact ⟨chosen, mem_of_dedupeDescriptors deduped described, rfl⟩

theorem routeModel_admitted {policy : RoutingPolicy} {request : ModelRequest}
    {descriptors : List ModelDescriptor} {now : Instant} {decision : RouteDecision}
    (success : routeModel policy request descriptors now = .ok decision)
    (admitted : decision.status = .admitted) :
    ∃ descriptor ∈ descriptors, descriptor.estimatedCost = decision.reservedCost := by
  rw [routeModel] at success
  split at success
  · cases success
    cases admitted
  split at success
  · cases success
    cases admitted
  split at success
  · cases success
    cases admitted
  split at success
  · split at success
    · cases success
      cases admitted
    · split at success
      · cases success
        cases admitted
      split at success
      · cases success
        cases admitted
      · exact routeWithCapacity_admitted success admitted
  · exact routeWithCapacity_admitted success admitted

end AutoTrade.Budget
