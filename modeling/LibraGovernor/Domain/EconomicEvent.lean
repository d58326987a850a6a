/-
# LibraGovernor.Domain.EconomicEvent -- one economic fact, and who it belongs to

An event is one resource fact with the attribution it was recorded under.  What a fact counts
as is decided by its basis alone (`ResourceBasis.role`, `ResourceBasis.isAdditive`); whom it
belongs to, in each dimension, by the embedded execution identity and the ids beside it
(`EconomicAttribution.dimensionKey`).  Amounts are read as exact rationals.
-/
import LibraGovernor.Domain.Clock
import LibraGovernor.Domain.QuotaWindow
import LibraGovernor.Domain.Uuid
import Mathlib.Algebra.Order.Floor.Ring
import Mathlib.Data.Rat.Floor

namespace LibraGovernor

set_option autoImplicit false

/-! ## Amounts -/

/-- An amount of a resource, its value an exact rational. -/
structure FactAmount where
  kind : ResourceKind
  value : ℚ
  deriving DecidableEq

/-- `f64::round` of what is not negative: half goes up. -/
def roundHalfUp (value : ℚ) : Int := ⌊value + 1 / 2⌋

/-- `ResourceAmount::from_kind_f64`. -/
def FactAmount.ofKind (kind : ResourceKind) (value : ℚ) : FactAmount :=
  let value := max value 0
  match kind with
  | .usd => ⟨.usd, (min (roundHalfUp value) i64Max : Int)⟩
  | .tokens => ⟨.tokens, (min (roundHalfUp value) u64Max : Int)⟩
  | .quotaPercent => ⟨.quotaPercent, min value 100⟩

/-! ## Facts -/

inductive ResourceBasis where
  | gatewayMeteredActual
  | providerReportedActual
  | hostEstimatedCost
  | quotaSnapshot
  | libraReservationHold
  | libraForecast
  | importedAllocationSnapshot
  deriving DecidableEq, Repr

inductive FactRole where
  | spend
  | hold
  | projection
  | reference
  deriving DecidableEq, Repr

inductive TruthStrength where
  | claimed
  | estimated
  | reported
  | metered
  deriving DecidableEq, Repr

def TruthStrength.rank : TruthStrength → Nat
  | .claimed => 0
  | .estimated => 1
  | .reported => 2
  | .metered => 3

namespace ResourceBasis

def role : ResourceBasis → FactRole
  | .gatewayMeteredActual | .providerReportedActual => .spend
  | .hostEstimatedCost | .libraForecast => .projection
  | .quotaSnapshot | .importedAllocationSnapshot => .reference
  | .libraReservationHold => .hold

def truthStrength : ResourceBasis → TruthStrength
  | .gatewayMeteredActual => .metered
  | .providerReportedActual => .reported
  | .hostEstimatedCost | .libraForecast => .estimated
  | .quotaSnapshot | .libraReservationHold | .importedAllocationSnapshot => .claimed

/-- A reading of a level is no amount to add. -/
def isAdditive : ResourceBasis → Bool
  | .quotaSnapshot | .importedAllocationSnapshot => false
  | _ => true

end ResourceBasis

structure ResourceFact where
  amount : FactAmount
  basis : ResourceBasis
  deriving DecidableEq

/-! ## Attribution -/

inductive UnknownReason where
  | notExposedByProvider
  | notConfigured
  | preAttributionRecord
  deriving DecidableEq, Repr

inductive Attributed (α : Type) where
  | known (value : α)
  | unknown (reason : UnknownReason)
  deriving DecidableEq, Repr

def Attributed.value {α : Type} : Attributed α → Option α
  | .known value => some value
  | .unknown _ => none

inductive Scope where
  | host
  | session
  | agent
  | turnTask
  | projectWorktree
  | unknown
  deriving DecidableEq, Repr

inductive LineageStatus where
  | root
  | child
  | unknown
  deriving DecidableEq, Repr

structure ScopeIdentityMissing where
  message : String
  deriving DecidableEq, Repr

/-- The envelope a provider's execution is known by, as far as keys and lineage read it. -/
structure ExecutionIdentity where
  hostId : String
  toolProvider : String
  providerSessionId : Option String
  agentId : Option String
  turnId : Option String
  lineageStatus : LineageStatus
  parentAgentId : Option String
  repoId : Option String
  worktreeId : Option String
  deriving DecidableEq, Repr

namespace ExecutionIdentity

/-- An empty string is no identity. -/
def present (value : Option String) (message : String) : Except ScopeIdentityMissing String :=
  match value with
  | some v => if v = "" then .error ⟨message⟩ else .ok v
  | none => .error ⟨message⟩

/-- The identity the data of a scope is keyed on; it never widens to a broader scope. -/
def cacheKey (identity : ExecutionIdentity) : Scope → Except ScopeIdentityMissing (List String)
  | .host => .ok [identity.hostId]
  | .session => do
      let session ← present identity.providerSessionId "SESSION scope requires provider_session_id"
      return [identity.hostId, identity.toolProvider, session]
  | .agent => do
      let missing := "AGENT scope requires provider_session_id and agent_id"
      let session ← present identity.providerSessionId missing
      let agent ← present identity.agentId missing
      return [identity.hostId, identity.toolProvider, session, agent]
  | .turnTask => do
      let missing := "TURN_TASK scope requires provider_session_id, agent_id, and turn_id"
      let session ← present identity.providerSessionId missing
      let agent ← present identity.agentId missing
      let turn ← present identity.turnId missing
      return [identity.hostId, identity.toolProvider, session, agent, turn]
  | .projectWorktree =>
      match present identity.worktreeId "" with
      | .ok worktree => .ok [worktree]
      | .error _ =>
          match present identity.repoId "" with
          | .ok repo => .ok [repo]
          | .error _ => .error ⟨"PROJECT_WORKTREE scope requires worktree_id or repo_id"⟩
  | .unknown => .error ⟨"UNKNOWN scope has no stable identity-keyed cache key by definition"⟩

end ExecutionIdentity

structure OrganizationId where
  val : String
  deriving DecidableEq, Repr

structure GatewayRequestId where
  val : String
  deriving DecidableEq, Repr

structure ModelRequest where
  request : GatewayRequestId
  model : Option String
  deriving DecidableEq, Repr

inductive EconomicDimension where
  | organization
  | principal
  | task
  | session
  | agent
  | turnTask
  | plan
  | modelRequest
  deriving DecidableEq, Repr

/-- What a dimension groups by. -/
abbrev DimensionKey := List String

inductive ProvenParent where
  | root
  | child (parent : DimensionKey)
  | unknown
  deriving DecidableEq, Repr

structure EconomicAttribution where
  execution : Attributed ExecutionIdentity
  task : Attributed TaskId
  plan : Attributed PlanId
  modelRequest : Attributed ModelRequest
  organization : Attributed OrganizationId
  principal : Attributed PrincipalId
  deriving DecidableEq, Repr

namespace EconomicAttribution

def fromExecution (execution : Attributed ExecutionIdentity) : EconomicAttribution where
  execution
  task := .unknown .notExposedByProvider
  plan := .unknown .notExposedByProvider
  modelRequest := .unknown .notExposedByProvider
  organization := .unknown .notConfigured
  principal := .unknown .notConfigured

/-- The execution's key for a scope, where it has one. -/
def executionKey (a : EconomicAttribution) (scope : Scope) : Option DimensionKey :=
  a.execution.value.bind fun identity => (identity.cacheKey scope).toOption

def dimensionKey (a : EconomicAttribution) : EconomicDimension → Option DimensionKey
  | .organization => a.organization.value.map fun v => [v.val]
  | .principal => a.principal.value.map fun v => [v.val]
  | .task => a.task.value.map fun v => [Uuid.text v.uuid]
  | .plan => a.plan.value.map fun v => [Uuid.text v.uuid]
  | .modelRequest => a.modelRequest.value.map fun v => [v.request.val, v.model.getD ""]
  | .session => a.executionKey .session
  | .agent => a.executionKey .agent
  | .turnTask => a.executionKey .turnTask

/-- The parent agent, where the identity proves one. -/
def provenParent (a : EconomicAttribution) : ProvenParent :=
  match a.execution.value with
  | none => .unknown
  | some identity =>
      match identity.lineageStatus with
      | .root => .root
      | .unknown => .unknown
      | .child =>
          match identity.parentAgentId with
          | none => .unknown
          | some parentAgentId =>
              match identity.cacheKey .session with
              | .error _ => .unknown
              | .ok key => .child (key ++ [parentAgentId])

end EconomicAttribution

/-! ## Events -/

inductive EconomicScope where
  | modelRequest
  | turnTask
  | agent
  | session
  | host
  | task
  | principal
  | organization
  | unknown
  deriving DecidableEq, Repr

def EconomicScope.isProvenBy (attribution : EconomicAttribution) : EconomicScope → Bool
  | .turnTask => (attribution.dimensionKey .turnTask).isSome
  | .agent => (attribution.dimensionKey .agent).isSome
  | .session => (attribution.dimensionKey .session).isSome
  | .host => attribution.execution.value.isSome
  | .modelRequest => (attribution.dimensionKey .modelRequest).isSome
  | .task => (attribution.dimensionKey .task).isSome
  | .principal => (attribution.dimensionKey .principal).isSome
  | .organization => (attribution.dimensionKey .organization).isSome
  | .unknown => true

/-- An instant as it is read: the instant, and the offset it was given in, in seconds. -/
structure ZonedInstant where
  instant : OffsetDateTime
  offset : Int
  deriving DecidableEq, Repr

inductive EconomicEventError where
  | occurredAtNotUtc (offset : Int)
  | scopeNotProven (scope : EconomicScope)
  | negativeAmount
  deriving DecidableEq, Repr

structure EconomicEvent where
  id : EconomicEventId
  occurredAt : OffsetDateTime
  fact : ResourceFact
  attribution : EconomicAttribution
  owningScope : EconomicScope
  deriving DecidableEq

/-- The contract version it also checks is a constant, and supported. -/
def EconomicEvent.validated (id : EconomicEventId) (occurredAt : ZonedInstant) (fact : ResourceFact)
    (attribution : EconomicAttribution) (owningScope : EconomicScope) :
    Except EconomicEventError EconomicEvent :=
  if occurredAt.offset ≠ 0 then .error (.occurredAtNotUtc occurredAt.offset)
  else if fact.amount.value < 0 then .error .negativeAmount
  else if owningScope ≠ .unknown ∧ owningScope.isProvenBy attribution = false then
    .error (.scopeNotProven owningScope)
  else .ok ⟨id, occurredAt.instant, fact, attribution, owningScope⟩

/-- What is recorded is never negative. -/
theorem FactAmount.ofKind_nonneg (kind : ResourceKind) (value : ℚ) :
    0 ≤ (FactAmount.ofKind kind value).value := by
  have nonneg : 0 ≤ max value 0 := le_max_right _ _
  have rounded : 0 ≤ roundHalfUp (max value 0) := by
    rw [roundHalfUp, Int.floor_nonneg]
    positivity
  cases kind with
  | usd =>
      show (0 : ℚ) ≤ ((min (roundHalfUp (max value 0)) i64Max : Int) : ℚ)
      exact_mod_cast le_min rounded (by decide)
  | tokens =>
      show (0 : ℚ) ≤ ((min (roundHalfUp (max value 0)) u64Max : Int) : ℚ)
      exact_mod_cast le_min rounded (by decide)
  | quotaPercent => exact le_min nonneg (by norm_num)

end LibraGovernor
