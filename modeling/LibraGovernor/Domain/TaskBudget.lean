/-
# LibraGovernor.Domain.TaskBudget -- amounts, envelopes and leases of a task

The data of the task ledger: a `TaskBudget` with its protected completion
reserve, the `Reservation` rows (leases) held against it, and the resource
accounts that subdivide it.  Amounts are read as exact integers in the smallest
unit: cents, tokens, and millionths of a percent, as fine as the source's `f32`
tells percentages apart.  The ledger's `REAL` columns hold exactly those, and its
`CHECK` constraints keep every stored one nonnegative.
-/
import LibraGovernor.Domain.SharedPool

namespace LibraGovernor

set_option autoImplicit false

structure TaskId where
  uuid : BitVec 128
  deriving DecidableEq, Repr

structure PlanId where
  uuid : BitVec 128
  deriving DecidableEq, Repr

structure AccountId where
  uuid : BitVec 128
  deriving DecidableEq, Repr

/-- A task's own account id is its task id. -/
def AccountId.forTask (taskId : TaskId) : AccountId := ⟨taskId.uuid⟩

structure ReservationId where
  uuid : BitVec 128
  deriving DecidableEq, Repr

structure RenewalId where
  uuid : BitVec 128
  deriving DecidableEq, Repr

inductive ResourceKind where
  | usd
  | tokens
  | quotaPercent
  deriving DecidableEq, Repr

structure ResourceAmount where
  kind : ResourceKind
  value : Int
  deriving DecidableEq, Repr

/-- What one percent counts. -/
def percentUnit : Int := 1000000

/-- The whole of a quota, one hundred percent. -/
def fullQuota : Int := 100 * percentUnit

/-- A whole percentage. -/
def ResourceAmount.quotaPercent (percent : Int) : ResourceAmount :=
  ⟨.quotaPercent, percent * percentUnit⟩

/-- Signed remaining capacity; an overrun makes it negative. -/
structure Headroom where
  kind : ResourceKind
  value : Int
  deriving DecidableEq, Repr

inductive ReservationClass where
  | requiredWork
  | optionalWork
  deriving DecidableEq, Repr

inductive LeaseKind where
  | workHold
  | subaccountFunding
  deriving DecidableEq, Repr

/-- A lease against a task or one of its accounts. -/
structure Reservation where
  id : ReservationId
  taskId : TaskId
  sessionId : String
  planId : Option PlanId
  class_ : ReservationClass
  resourceKind : ResourceKind
  amount : Int
  drawnFromReserve : Int
  state : ReservationState
  settledAmount : Option Int
  usageKnown : Option Bool
  idempotencyKey : String
  createdAt : OffsetDateTime
  expiresAt : OffsetDateTime
  settledAt : Option OffsetDateTime
  releasedAt : Option OffsetDateTime
  accountId : AccountId
  grantsAccount : Option AccountId
  leaseKind : LeaseKind
  settledAfterExpiry : Bool
  deriving DecidableEq, Repr

inductive CompletionReserveBasis where
  | estimateP80
  | policyTarget
  deriving DecidableEq, Repr

inductive LifetimeScope where
  | lifetimeBounded
  | turnScoped
  deriving DecidableEq, Repr

structure RenewalBound where
  lifetimeCeiling : ResourceAmount
  maxRenewals : Nat
  deriving DecidableEq, Repr

/-- The parts of an admission policy the ledger reads. -/
structure Policy where
  target : ResourceAmount
  hardCeiling : ResourceAmount
  turnCeiling : Option ResourceAmount
  renewal : Option RenewalBound
  deriving DecidableEq, Repr

/-- A `task_budgets` row. -/
structure TaskBudget where
  taskId : TaskId
  resourceKind : ResourceKind
  hardLimit : Int
  initialCompletionReserve : Int
  completionReserve : Int
  completionReserveBasis : CompletionReserveBasis
  lifetimeScope : LifetimeScope
  policy : Policy
  deriving DecidableEq, Repr

namespace TaskBudget

/-- `hard_limit + renewed_capacity`. -/
def effectiveHardLimit (b : TaskBudget) (renewed : Int) : Int := b.hardLimit + renewed

/-- The turn ceiling that gates the budget, or `none` for a lifetime gate. -/
def turnCeilingIfScoped (b : TaskBudget) : Option ResourceAmount :=
  match b.lifetimeScope with
  | .turnScoped => b.policy.turnCeiling
  | .lifetimeBounded => none

/-- The headroom a reservation is gated against, before the reserve. -/
def gateHeadroom (b : TaskBudget) (renewed settled active : Int) : Int :=
  match b.turnCeilingIfScoped with
  | some ceiling => ceiling.value - active
  | none => b.effectiveHardLimit renewed - settled - active

end TaskBudget

structure CompletionReserveEstimate where
  amount : ResourceAmount
  basis : CompletionReserveBasis
  deriving DecidableEq, Repr

/-! ## Renewals -/

/-- Why a quota window can be neither open nor blocking. -/
inductive IndeterminateReason where
  | noSnapshot
  | snapshotStale
  | snapshotUndisclosed
  | noDeclaredLimit
  | snapshotUnitMismatch
  | entitlementExpired
  | unsupportedSchemaVersion
  deriving DecidableEq, Repr

inductive BlockingStatus where
  | blocking
  | notBlocking
  | indeterminate (reason : IndeterminateReason)
  deriving DecidableEq, Repr

structure RenewalRequest where
  amount : ResourceAmount
  contractRevision : Nat
  idempotencyKey : String
  deriving DecidableEq, Repr

inductive RenewalRefusal where
  | renewalsDisabled
  | maxRenewalsExceeded (current max : Nat)
  | resourceKindMismatch (expected actual : ResourceKind)
  | grantExceedsHardCeiling (amount hardCeiling : ResourceAmount)
  | lifetimeCeilingExceeded (effectiveAfter lifetimeCeiling : ResourceAmount)
  | upstreamQuotaBlocking (status : BlockingStatus)
  | contractRevisionMismatch (requested current : Nat)
  | conflictingCompletionOutcomes
  | taskAlreadyCompleted
  | unboundLegacyCompletion
  deriving DecidableEq, Repr

inductive OutcomeKind where
  | completed
  | failed
  | aborted
  deriving DecidableEq, Repr

/-- An authoritative terminal claim about a task. -/
structure OutcomeAttestation where
  contractRevision : Option Nat
  outcomeKind : OutcomeKind
  deriving DecidableEq, Repr

structure TaskBudgetRenewal where
  id : RenewalId
  taskId : TaskId
  amount : Int
  contractRevision : Nat
  idempotencyKey : String
  deriving DecidableEq, Repr

/-! ## Accounts -/

inductive AccountLevel where
  | organization
  | principal
  | task
  | session
  | agent
  deriving DecidableEq, Repr

inductive AccountState where
  | open_
  | closed
  | expired
  deriving DecidableEq, Repr

/-- A `resource_accounts` row. -/
structure ResourceAccount where
  accountId : AccountId
  level : AccountLevel
  parentAccountId : Option AccountId
  resourceKind : ResourceKind
  naturalKey : String
  taskId : Option TaskId
  grantedCapacity : Option Int
  protectedReserve : Option Int
  fundingLeaseId : Option ReservationId
  state : AccountState
  closedAt : Option OffsetDateTime
  deriving DecidableEq, Repr

end LibraGovernor
