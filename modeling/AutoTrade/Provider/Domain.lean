import AutoTrade.Lib.Raise
import AutoTrade.Lib.Text
import AutoTrade.Reconciliation.Evidence

/-!
# Provider domains

The model of `normalize_provider_environment` of `provider_domain.py`, and the
canonical UUID texts that scopes carry.
-/

namespace AutoTrade.Provider

open Lib
open Reconciliation (Environment)

/-- `ProviderDomainError`. -/
structure ProviderDomainError where
  message : String
  deriving DecidableEq, Repr

/-- `_environment_text`. -/
def environmentText (value name : String) : Except ProviderDomainError String :=
  if strip value = "" then .error ⟨s!"{name} is required"⟩ else .ok (strip value)

/-- The names of `_NORMALIZER_RUNTIME_ENVIRONMENTS`. -/
def runtimeEnvironments : List String := ["REPLAY", "SIMULATION", "PAPER", "LIVE"]

/-- The names of `_BYBIT_PROVIDER_ENVIRONMENTS`. -/
def bybitProviderEnvironments : List String := ["MAINNET", "TESTNET", "DEMO"]

/-- The characters of a canonical provider environment. -/
def isDomainCharacter (character : Char) : Bool :=
  "ABCDEFGHIJKLMNOPQRSTUVWXYZ0123456789._-".toList.contains character

section Normalization

variable [CaseMap]

/-- The branch of `normalize_provider_environment` for Bybit. -/
def bybitEnvironment (runtimeEnvironment : String) (providerEnvironment : Option String) :
    Except ProviderDomainError String := do
  let some value := providerEnvironment
    | throw ⟨"BYBIT requires explicit provider_environment"⟩
  let normalized ← upper <$> environmentText value "provider_environment"
  if normalized ∉ bybitProviderEnvironments then
    throw ⟨"BYBIT provider_environment must be MAINNET, TESTNET or DEMO"⟩
  if (runtimeEnvironment = "LIVE" ∧ normalized ≠ "MAINNET") ∨
      (runtimeEnvironment = "PAPER" ∧ normalized ∉ ["TESTNET", "DEMO"]) then
    throw ⟨"BYBIT provider_environment does not match runtime environment"⟩
  pure normalized

/-- The provider environment that is asked for, or the runtime environment. -/
def requestedEnvironment (runtimeEnvironment : String) :
    (providerEnvironment : Option String) → Except ProviderDomainError String
  | none => .ok runtimeEnvironment
  | some value => upper <$> environmentText value "provider_environment"

/-- The branch of `normalize_provider_environment` for every other provider. -/
def otherEnvironment (runtimeEnvironment : String) (providerEnvironment : Option String) :
    Except ProviderDomainError String := do
  let normalized ← requestedEnvironment runtimeEnvironment providerEnvironment
  if 64 < normalized.length ∨ normalized.toList.any (fun character => !isDomainCharacter character)
  then throw ⟨"provider_environment is not canonical"⟩
  pure normalized

/-- `normalize_provider_environment`. -/
def normalizeProviderEnvironment (providerId environment : String)
    (providerEnvironment : Option String) : Except ProviderDomainError String := do
  let provider ← upper <$> environmentText providerId "provider_id"
  let runtimeEnvironment ← upper <$> environmentText environment "environment"
  if runtimeEnvironment ∉ runtimeEnvironments then
    throw ⟨"environment must be REPLAY, SIMULATION, PAPER, or LIVE"⟩
  if provider = "BYBIT" then bybitEnvironment runtimeEnvironment providerEnvironment
  else otherEnvironment runtimeEnvironment providerEnvironment

/-! ## Normalizing again -/

/-- A domain that normalization leaves as it is. -/
structure CanonicalDomain (providerId environment domain : String) : Prop where
  normal : Normal domain
  again : normalizeProviderEnvironment providerId environment (some domain) = .ok domain
  default : domain = environment →
    normalizeProviderEnvironment providerId environment none = .ok domain

end Normalization

/-! ## UUIDs -/

/-- `str(UUID(text))`, where `UUID` accepts the text. -/
class UuidFormat where
  canonical : String → Option String
  canonical_canonical : ∀ {text uuid}, canonical text = some uuid → canonical uuid = some uuid
  canonical_normal : ∀ {text uuid}, canonical text = some uuid → Normal uuid

/-- Every normal text as a UUID, for evaluation. -/
@[reducible] def UuidFormat.lenient : UuidFormat where
  canonical text := if Normal text then some text else none
  canonical_canonical {text uuid} found := by
    split at found
    next normal =>
      cases found
      exact if_pos normal
    next => cases found
  canonical_normal {text uuid} found := by
    split at found
    next normal =>
      cases found
      exact normal
    next => cases found

end AutoTrade.Provider
