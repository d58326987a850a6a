/-
# LibraGovernor.Ledger.TaskLedger -- task budgets, leases, renewals and accounts

The transactions of the task ledger: budget initialisation, `reserve` with its
two classes, settlement and the three ways a lease is reclaimed, the reserve
adjustment, renewals, and the resource accounts with `grantSublease`.

The sums `reserve` reads are by task, those `grantSublease` reads by account.  A
reclaim gives the lease's draw back to the completion reserve; the sweeps reclaim
their leases one after the other (`reclaimAll`).
-/
import LibraGovernor.Domain.TaskBudget
import LibraGovernor.Ledger.Store
import Mathlib.Algebra.Order.Group.Int

namespace LibraGovernor

open Relational

set_option autoImplicit false

inductive TaskLedgerError where
  | ledger (e : LedgerError)
  | resourceKindMismatch (expected actual : ResourceKind)
  | negativeSettlement
  deriving DecidableEq, Repr

structure TaskLedger where
  taskBudgets : Table TaskBudget TaskBudget.taskId
  reservations : Table Reservation Reservation.id
  renewals : Table TaskBudgetRenewal TaskBudgetRenewal.id
  resourceAccounts : Table ResourceAccount ResourceAccount.accountId

namespace Reservation

def settledPart (r : Reservation) : Int := if r.state = .settled then r.settledAmount.getD 0 else 0

def activePart (r : Reservation) : Int := if r.state = .active then r.amount else 0

/-- `settled_amount - amount` when the actual cost exceeded the reservation. -/
def overrun (r : Reservation) : Option ResourceAmount :=
  match r.settledAmount with
  | none => none
  | some settled => if r.amount < settled then some ⟨r.resourceKind, settled - r.amount⟩ else none

/-- `amount - settled_amount` when the actual cost came in under it. -/
def refunded (r : Reservation) : Option ResourceAmount :=
  match r.settledAmount with
  | none => none
  | some settled => if settled < r.amount then some ⟨r.resourceKind, r.amount - settled⟩ else none

def settle (value : Int) (usageKnown late : Bool) (now : OffsetDateTime) (r : Reservation) :
    Reservation :=
  { r with
    state := .settled
    settledAmount := some value
    usageKnown := some usageKnown
    settledAt := some now
    settledAfterExpiry := late }

def release (now : OffsetDateTime) (r : Reservation) : Reservation :=
  { r with state := .released, releasedAt := some now }

def expire (now : OffsetDateTime) (r : Reservation) : Reservation :=
  { r with state := .expired, releasedAt := some now }

end Reservation

namespace TaskLedger

def empty : TaskLedger := ⟨.empty, .empty, .empty, .empty⟩

def lift {α : Type} : Except LedgerError α → Except TaskLedgerError α
  | .ok a => .ok a
  | .error e => .error (.ledger e)

/-! ## Reads -/

def taskBudget (s : TaskLedger) (taskId : TaskId) : Option TaskBudget := s.taskBudgets.find? taskId

/-- `SUM(amount)` of the task's renewals. -/
def renewedCapacity (s : TaskLedger) (taskId : TaskId) : Int :=
  s.renewals.sum fun r => if r.taskId = taskId then r.amount else 0

def settled (s : TaskLedger) (taskId : TaskId) : Int :=
  s.reservations.sum fun r => if r.taskId = taskId then r.settledPart else 0

def active (s : TaskLedger) (taskId : TaskId) : Int :=
  s.reservations.sum fun r => if r.taskId = taskId then r.activePart else 0

def accountSettled (s : TaskLedger) (accountId : AccountId) : Int :=
  s.reservations.sum fun r => if r.accountId = accountId then r.settledPart else 0

def accountActive (s : TaskLedger) (accountId : AccountId) : Int :=
  s.reservations.sum fun r => if r.accountId = accountId then r.activePart else 0

/-- `f64::MAX`, the capacity an account without a recorded one is read with. -/
def f64Max : Int := (2 ^ 53 - 1) * 2 ^ 971

/-- `v_account_capacity`: a task-level account reads its task's budget, any other
its own columns. -/
def accountCapacity (s : TaskLedger) (account : ResourceAccount) : Option Int × Option Int :=
  if account.level = .task then
    match account.taskId.bind s.taskBudget with
    | none => (none, none)
    | some budget => (some budget.hardLimit, some budget.completionReserve)
  else (account.grantedCapacity, account.protectedReserve)

/-! ## Row writes -/

/-- `INSERT INTO reservations`, with its checks, foreign keys and indexes. -/
def insertReservation (s : TaskLedger) (r : Reservation) : Except TaskLedgerError TaskLedger :=
  if r.amount < 0 ∨ r.drawnFromReserve < 0 then .error (.ledger .constraint)
  else if (s.resourceAccounts.find? r.accountId).isNone then .error (.ledger .constraint)
  else if r.grantsAccount.any (fun child => (s.resourceAccounts.find? child).isNone) then
    .error (.ledger .constraint)
  else if s.reservations.rows.any
      (fun r' => r'.accountId = r.accountId ∧ r'.idempotencyKey = r.idempotencyKey) then
    .error (.ledger .constraint)
  else
    match s.reservations.insert? r with
    | none => .error (.ledger .constraint)
    | some reservations => .ok { s with reservations }

/-- `UPDATE task_budgets SET completion_reserve = ?`, with its check. -/
def setCompletionReserve (s : TaskLedger) (taskId : TaskId) (value : Int) :
    Except TaskLedgerError TaskLedger :=
  if value < 0 then .error (.ledger .constraint)
  else .ok
    { s with
      taskBudgets := s.taskBudgets.updateAt taskId (fun b => { b with completionReserve := value })
        fun _ => rfl }

/-- `UPDATE task_budgets SET completion_reserve = completion_reserve + ?`. -/
def restoreReserve (s : TaskLedger) (taskId : TaskId) (restore : Int) : TaskLedger :=
  if 0 < restore then
    { s with
      taskBudgets := s.taskBudgets.updateAt taskId
        (fun b => { b with completionReserve := b.completionReserve + restore }) fun _ => rfl }
  else s

def updateReservation (s : TaskLedger) (id : ReservationId) (f : Reservation → Reservation)
    (keeps : ∀ r, (f r).id = r.id) : TaskLedger :=
  { s with reservations := s.reservations.updateAt id f keeps }

/-! ## Budgets -/

/-- `INSERT ... ON CONFLICT DO NOTHING` of a budget and its task account. -/
def initializeTaskBudget (s : TaskLedger) (taskId : TaskId) (policy : Policy)
    (reserve : CompletionReserveEstimate) (scope : LifetimeScope) (now : OffsetDateTime) :
    Except TaskLedgerError (Unit × TaskLedger) := do
  let _ ← lift (rfc3339 now)
  if policy.hardCeiling.value < 0 ∨ reserve.amount.value < 0 then throw (.ledger .constraint)
  else
  let budget : TaskBudget :=
    { taskId
      resourceKind := policy.target.kind
      hardLimit := policy.hardCeiling.value
      initialCompletionReserve := reserve.amount.value
      completionReserve := reserve.amount.value
      completionReserveBasis := reserve.basis
      lifetimeScope := if policy.turnCeiling.isSome then scope else .lifetimeBounded
      policy }
  let account : ResourceAccount :=
    { accountId := .forTask taskId
      level := .task
      parentAccountId := none
      resourceKind := policy.target.kind
      naturalKey := toString taskId.uuid.toNat
      taskId := some taskId
      grantedCapacity := none
      protectedReserve := none
      fundingLeaseId := none
      state := .open_
      closedAt := none }
  return ((), { s with
    taskBudgets := (s.taskBudgets.insert? budget).getD s.taskBudgets
    resourceAccounts := (s.resourceAccounts.insert? account).getD s.resourceAccounts })

/-! ## Reserve -/

structure ReserveRequest where
  taskId : TaskId
  sessionId : String
  planId : Option PlanId
  class_ : ReservationClass
  amount : ResourceAmount
  idempotencyKey : String
  now : OffsetDateTime
  ttlSecs : Nat
  deriving DecidableEq, Repr

inductive ReserveOutcome where
  | granted (reservation : Reservation)
  | alreadyGranted (reservation : Reservation)
  | insufficient (available : Headroom) (requested : ResourceAmount) (protectedReserve : Int)
  | noBudget
  deriving DecidableEq, Repr

def findByTaskKey (s : TaskLedger) (taskId : TaskId) (key : String) : Option Reservation :=
  s.reservations.rows.find? fun r => r.taskId = taskId ∧ r.idempotencyKey = key

/-- What a class may draw from the reserve for a request, or the headroom that
refuses it. -/
def drawFor (class_ : ReservationClass) (general reserve requested : Int) : Except Int Int :=
  match class_ with
  | .optionalWork => if general - reserve < requested then .error (general - reserve) else .ok 0
  | .requiredWork =>
      if general < requested then .error general
      else .ok (max 0 (requested - (general - reserve)))

def leaseExpiry (now : OffsetDateTime) (ttlSecs : Nat) :
    Except TaskLedgerError OffsetDateTime :=
  match now.checkedAdd (min ttlSecs maxTtlSecs) with
  | none => .error (.ledger .invalid)
  | some expiresAt => .ok expiresAt

/-- The row a granted reserve writes. -/
def workHold (req : ReserveRequest) (fresh : ReservationId) (kind : ResourceKind) (draw : Int)
    (expiresAt : OffsetDateTime) : Reservation where
  id := fresh
  taskId := req.taskId
  sessionId := req.sessionId
  planId := req.planId
  class_ := req.class_
  resourceKind := kind
  amount := req.amount.value
  drawnFromReserve := draw
  state := .active
  settledAmount := none
  usageKnown := none
  idempotencyKey := req.idempotencyKey
  createdAt := req.now
  expiresAt := expiresAt
  settledAt := none
  releasedAt := none
  accountId := .forTask req.taskId
  grantsAccount := none
  leaseKind := .workHold
  settledAfterExpiry := false

def reserve (s : TaskLedger) (req : ReserveRequest) (fresh : ReservationId) :
    Except TaskLedgerError (ReserveOutcome × TaskLedger) := do
  match s.findByTaskKey req.taskId req.idempotencyKey with
  | some existing => return (.alreadyGranted existing, s)
  | none =>
  match s.taskBudget req.taskId with
  | none => return (.noBudget, s)
  | some budget =>
  if req.amount.kind ≠ budget.resourceKind then
    throw (.resourceKindMismatch budget.resourceKind req.amount.kind)
  else
  let general := budget.gateHeadroom (s.renewedCapacity req.taskId) (s.settled req.taskId)
    (s.active req.taskId)
  match drawFor req.class_ general budget.completionReserve req.amount.value with
  | .error available =>
      return (.insufficient ⟨budget.resourceKind, available⟩ req.amount budget.completionReserve, s)
  | .ok draw =>
  let drawn ← s.setCompletionReserve req.taskId (budget.completionReserve - draw)
  let expiresAt ← leaseExpiry req.now req.ttlSecs
  let _ ← lift (rfc3339 req.now)
  let _ ← lift (rfc3339 expiresAt)
  let row := workHold req fresh budget.resourceKind draw expiresAt
  let s' ← drawn.insertReservation row
  return (.granted row, s')

/-! ## Settle and reclaim -/

inductive SettleOutcome where
  | settled (reservation : Reservation) (refunded overrun : Option ResourceAmount)
      (restoredToReserve : Int)
  | alreadyFinal (reservation : Reservation)
  | notFound
  deriving DecidableEq, Repr

def settle (s : TaskLedger) (id : ReservationId) (actual : Option ResourceAmount)
    (now : OffsetDateTime) : Except TaskLedgerError (SettleOutcome × TaskLedger) := do
  if actual.any (fun a => a.value < 0) then throw .negativeSettlement
  else
  match s.reservations.find? id with
  | none => return (.notFound, s)
  | some row =>
  let late : Bool := row.state = .expired
  if row.state = .active ∨ late then
    match actual.filter (fun a => a.kind ≠ row.resourceKind) with
    | some a => throw (.resourceKindMismatch row.resourceKind a.kind)
    | none =>
    let value := (actual.map ResourceAmount.value).getD row.amount
    let refund := max 0 (row.amount - value)
    let restore := if late then 0 else min refund row.drawnFromReserve
    let stamp ← lift (rfc3339 now)
    let close := Reservation.settle value actual.isSome late stamp
    let closed := close row
    return (.settled closed closed.refunded closed.overrun restore,
      (s.updateReservation id close fun _ => rfl).restoreReserve row.taskId restore)
  else return (.alreadyFinal row, s)

inductive ReleaseOutcome where
  | released (reservation : Reservation)
  | alreadyFinal (reservation : Reservation)
  | notFound
  deriving DecidableEq, Repr

/-- Closes one lease unspent and gives its draw back. -/
def reclaim (close : Reservation → Reservation) (keeps : ∀ r, (close r).id = r.id)
    (s : TaskLedger) (row : Reservation) : TaskLedger :=
  (s.updateReservation row.id close keeps).restoreReserve row.taskId row.drawnFromReserve

def release (s : TaskLedger) (id : ReservationId) (now : OffsetDateTime) :
    Except TaskLedgerError (ReleaseOutcome × TaskLedger) := do
  match s.reservations.find? id with
  | none => return (.notFound, s)
  | some row =>
  if row.state = .active then
    let stamp ← lift (rfc3339 now)
    return (.released (row.release stamp), reclaim (Reservation.release stamp) (fun _ => rfl) s row)
  else return (.alreadyFinal row, s)

/-- Reclaims leases one after the other. -/
def reclaimAll (close : Reservation → Reservation) (keeps : ∀ r, (close r).id = r.id)
    (s : TaskLedger) (rows : List Reservation) : TaskLedger :=
  rows.foldl (reclaim close keeps) s

def releaseActiveForPlan (s : TaskLedger) (taskId : TaskId) (planId : PlanId)
    (now : OffsetDateTime) : Except TaskLedgerError (List Reservation × TaskLedger) := do
  let rows := s.reservations.rows.filter fun r =>
    r.taskId = taskId ∧ r.planId = some planId ∧ r.state = .active
  if rows.isEmpty then return ([], s)
  else
  let stamp ← lift (rfc3339 now)
  return (rows.map (Reservation.release stamp),
    reclaimAll (Reservation.release stamp) (fun _ => rfl) s rows)

/-- An active lease the sweep selects: the comparison is of the stored texts. -/
def leaseStale (now : OffsetDateTime) (r : Reservation) : Bool :=
  decide (r.state = .active) && r.expiresAt.textLe now

/-- Marks the open account a funding lease granted as expired. -/
def expireGranted (now : OffsetDateTime) (s : TaskLedger) (row : Reservation) : TaskLedger :=
  match row.leaseKind, row.grantsAccount with
  | .subaccountFunding, some child =>
      { s with
        resourceAccounts := s.resourceAccounts.updateAt child
          (fun a => if a.state = .open_ then { a with state := .expired, closedAt := some now } else a)
          (by intro a; split <;> rfl) }
  | _, _ => s

/-- One turn of the expiry sweep. -/
def expireOne (now : OffsetDateTime) (s : TaskLedger) (row : Reservation) : TaskLedger :=
  expireGranted now (reclaim (Reservation.expire now) (fun _ => rfl) s row) row

def expireStaleReservations (s : TaskLedger) (now : OffsetDateTime) :
    Except TaskLedgerError (List Reservation × TaskLedger) := do
  let stamp ← lift (rfc3339 now)
  let rows := s.reservations.rows.filter (leaseStale now)
  return (rows.map (Reservation.expire stamp), rows.foldl (expireOne stamp) s)

inductive AdjustOutcome where
  | adjusted (before after : Int)
  | insufficient (available : Headroom) (requestedIncrease : Int)
  | noBudget
  deriving DecidableEq, Repr

def adjustCompletionReserve (s : TaskLedger) (taskId : TaskId) (newAmount : ResourceAmount)
    (basis : CompletionReserveBasis) (now : OffsetDateTime) :
    Except TaskLedgerError (AdjustOutcome × TaskLedger) := do
  match s.taskBudget taskId with
  | none => return (.noBudget, s)
  | some budget =>
  if newAmount.kind ≠ budget.resourceKind then
    throw (.resourceKindMismatch budget.resourceKind newAmount.kind)
  else
  let delta := newAmount.value - budget.completionReserve
  let headroom := budget.gateHeadroom (s.renewedCapacity taskId) (s.settled taskId)
    (s.active taskId) - budget.completionReserve
  if 0 < delta ∧ headroom < delta then
    return (.insufficient ⟨budget.resourceKind, headroom⟩ delta, s)
  else
    let _ ← lift (rfc3339 now)
    let adjusted ← s.setCompletionReserve taskId newAmount.value
    let rebased := { adjusted with
      taskBudgets := adjusted.taskBudgets.updateAt taskId
        (fun b => { b with completionReserveBasis := basis }) fun _ => rfl }
    return (.adjusted budget.completionReserve newAmount.value, rebased)

/-! ## Renewals -/

inductive GrantRenewalOutcome where
  | granted (renewal : TaskBudgetRenewal)
  | alreadyGranted (renewal : TaskBudgetRenewal)
  | refused (reason : RenewalRefusal)
  | noBudget
  deriving DecidableEq, Repr

/-- What the contract and attestation tables say about the task at the call. -/
structure TaskEvidence where
  contractRevisions : List Nat
  attestations : List OutcomeAttestation
  deriving DecidableEq, Repr

namespace TaskEvidence

/-- `MAX(revision)`. -/
def currentRevision (e : TaskEvidence) : Option Nat := e.contractRevisions.max?

/-- The distinct terminal kinds claimed at a revision. -/
def terminalKinds (e : TaskEvidence) (revision : Option Nat) : List OutcomeKind :=
  ((e.attestations.filter fun a => a.contractRevision = revision).map
    OutcomeAttestation.outcomeKind).dedup

/-- Whether an unbound completion claim exists while the task has a revision. -/
def unboundLegacyCompletion (e : TaskEvidence) : Bool :=
  e.currentRevision.isSome &&
    e.attestations.any fun a => a.contractRevision = none ∧ a.outcomeKind = .completed

end TaskEvidence

/-- The first gate a renewal request fails, if any, in the source's order. -/
def renewalRefusal (s : TaskLedger) (taskId : TaskId) (budget : TaskBudget)
    (request : RenewalRequest) (status : BlockingStatus) (evidence : TaskEvidence) :
    Option RenewalRefusal :=
  if request.amount.kind ≠ budget.resourceKind then
    some (.resourceKindMismatch budget.resourceKind request.amount.kind)
  else
  match budget.policy.renewal with
  | none => some .renewalsDisabled
  | some bound =>
  let count := (s.renewals.rows.filter fun r => r.taskId = taskId).length
  if bound.maxRenewals ≤ count then some (.maxRenewalsExceeded count bound.maxRenewals)
  else if budget.policy.hardCeiling.value < request.amount.value then
    some (.grantExceedsHardCeiling request.amount budget.policy.hardCeiling)
  else
  let after := budget.effectiveHardLimit (s.renewedCapacity taskId) + request.amount.value
  if bound.lifetimeCeiling.value < after then
    some (.lifetimeCeilingExceeded ⟨budget.resourceKind, after⟩ bound.lifetimeCeiling)
  else if status ≠ .notBlocking then some (.upstreamQuotaBlocking status)
  else
  match evidence.currentRevision.filter (fun current => request.contractRevision ≠ current) with
  | some current => some (.contractRevisionMismatch request.contractRevision current)
  | none =>
  let kinds := evidence.terminalKinds evidence.currentRevision
  if 1 < kinds.length then some .conflictingCompletionOutcomes
  else if .completed ∈ kinds then some .taskAlreadyCompleted
  else if evidence.unboundLegacyCompletion then some .unboundLegacyCompletion
  else none

def grantRenewal (s : TaskLedger) (taskId : TaskId) (request : RenewalRequest)
    (status : BlockingStatus) (evidence : TaskEvidence) (now : OffsetDateTime)
    (fresh : RenewalId) : Except TaskLedgerError (GrantRenewalOutcome × TaskLedger) := do
  match s.taskBudget taskId with
  | none => return (.noBudget, s)
  | some budget =>
  match s.renewals.rows.find? fun r =>
      r.taskId = taskId ∧ r.idempotencyKey = request.idempotencyKey with
  | some existing => return (.alreadyGranted existing, s)
  | none =>
  match s.renewalRefusal taskId budget request status evidence with
  | some reason => return (.refused reason, s)
  | none =>
  let _ ← lift (rfc3339 now)
  let renewal : TaskBudgetRenewal :=
    { id := fresh, taskId, amount := request.amount.value,
      contractRevision := request.contractRevision, idempotencyKey := request.idempotencyKey }
  -- The table checks `amount > 0`.
  if renewal.amount ≤ 0 then throw (.ledger .constraint)
  else
  match s.renewals.insert? renewal with
  | none => throw (.ledger .constraint)
  | some renewals => return (.granted renewal, { s with renewals })

/-! ## Accounts -/

inductive AccountError where
  | parentNotFound
  | parentNotOpen
  | resourceKindMismatch (expected actual : ResourceKind)
  | childExpiryExceedsFunding
  | parentHasNoTaskLineage
  deriving DecidableEq, Repr

/-- `INSERT ... ON CONFLICT (parent, level, natural_key) DO NOTHING`, then a
re-read of the row that won. -/
def ensureChildAccount (s : TaskLedger) (parentAccountId : AccountId) (level : AccountLevel)
    (naturalKey : String) (now : OffsetDateTime) (fresh : AccountId) :
    Except TaskLedgerError (Except AccountError ResourceAccount × TaskLedger) := do
  match s.resourceAccounts.find? parentAccountId with
  | none => return (.error .parentNotFound, s)
  | some parent =>
  let _ ← lift (rfc3339 now)
  match s.resourceAccounts.rows.find? fun a =>
      a.parentAccountId = some parentAccountId ∧ a.level = level ∧ a.naturalKey = naturalKey with
  | some existing => return (.ok existing, s)
  | none =>
  let account : ResourceAccount :=
    { accountId := fresh
      level
      parentAccountId := some parentAccountId
      resourceKind := parent.resourceKind
      naturalKey
      taskId := parent.taskId
      grantedCapacity := none
      protectedReserve := none
      fundingLeaseId := none
      state := .open_
      closedAt := none }
  match s.resourceAccounts.insert? account with
  | none => throw (.ledger .constraint)
  | some resourceAccounts => return (.ok account, { s with resourceAccounts })

structure GrantSubleaseRequest where
  parentAccountId : AccountId
  childAccountId : AccountId
  childNaturalKey : String
  amount : ResourceAmount
  idempotencyKey : String
  now : OffsetDateTime
  ttlSecs : Nat
  deriving DecidableEq, Repr

inductive GrantSubleaseOutcome where
  | granted (reservation : Reservation)
  | alreadyGranted (reservation : Reservation)
  | insufficient (available : Headroom) (requested : ResourceAmount)
  deriving DecidableEq, Repr

/-- Whether an expiry is past that of the lease now recorded as funding the parent;
a recorded lease that is not there is an error. -/
def exceedsFunding (s : TaskLedger) (parent : ResourceAccount) (expiresAt : OffsetDateTime) :
    Except TaskLedgerError Bool :=
  match parent.fundingLeaseId with
  | none => .ok false
  | some fundingId =>
      match s.reservations.find? fundingId with
      | none => .error (.ledger .invalid)
      | some funding => .ok (funding.expiresAt < expiresAt)

/-- What `grant_sublease` takes as still available in the parent. -/
def sublettable (s : TaskLedger) (parent : ResourceAccount) : Int :=
  (s.accountCapacity parent).1.getD f64Max - s.accountActive parent.accountId -
    s.accountSettled parent.accountId - (s.accountCapacity parent).2.getD 0

/-- The funding lease of a granted sublease. -/
def fundingLease (req : GrantSubleaseRequest) (fresh : ReservationId) (taskId : TaskId)
    (kind : ResourceKind) (expiresAt : OffsetDateTime) : Reservation where
  id := fresh
  taskId := taskId
  sessionId := req.childNaturalKey
  planId := none
  class_ := .optionalWork
  resourceKind := kind
  amount := req.amount.value
  drawnFromReserve := 0
  state := .active
  settledAmount := none
  usageKnown := none
  idempotencyKey := req.idempotencyKey
  createdAt := req.now
  expiresAt := expiresAt
  settledAt := none
  releasedAt := none
  accountId := req.parentAccountId
  grantsAccount := some req.childAccountId
  leaseKind := .subaccountFunding
  settledAfterExpiry := false

/-- `UPDATE resource_accounts SET granted_capacity = ?, funding_lease_id = ?`; the
table check forbids a capacity on a task-level account. -/
def fundAccount (s : TaskLedger) (child : AccountId) (amount : Int) (lease : ReservationId) :
    Except TaskLedgerError TaskLedger :=
  if (s.resourceAccounts.find? child).any (fun a => a.level = .task) then
    .error (.ledger .constraint)
  else .ok
    { s with
      resourceAccounts := s.resourceAccounts.updateAt child
        (fun a => { a with grantedCapacity := some amount, fundingLeaseId := some lease })
        fun _ => rfl }

def grantSublease (s : TaskLedger) (req : GrantSubleaseRequest) (fresh : ReservationId) :
    Except TaskLedgerError (Except AccountError GrantSubleaseOutcome × TaskLedger) := do
  match s.reservations.rows.find? fun r =>
      r.accountId = req.parentAccountId ∧ r.idempotencyKey = req.idempotencyKey with
  | some existing => return (.ok (.alreadyGranted existing), s)
  | none =>
  match s.resourceAccounts.find? req.parentAccountId with
  | none => return (.error .parentNotFound, s)
  | some parent =>
  if parent.state ≠ .open_ then return (.error .parentNotOpen, s)
  else if req.amount.kind ≠ parent.resourceKind then
    return (.error (.resourceKindMismatch parent.resourceKind req.amount.kind), s)
  else
  let expiresAt ← leaseExpiry req.now req.ttlSecs
  if ← s.exceedsFunding parent expiresAt then return (.error .childExpiryExceedsFunding, s)
  else if s.sublettable parent < req.amount.value then
    return (.ok (.insufficient ⟨parent.resourceKind, s.sublettable parent⟩ req.amount), s)
  else
  match parent.taskId with
  | none => return (.error .parentHasNoTaskLineage, s)
  | some taskId =>
  let _ ← lift (rfc3339 req.now)
  let _ ← lift (rfc3339 expiresAt)
  let lease := fundingLease req fresh taskId parent.resourceKind expiresAt
  let leased ← s.insertReservation lease
  let s' ← leased.fundAccount req.childAccountId req.amount.value fresh
  return (.ok (.granted lease), s')

end TaskLedger

end LibraGovernor
