/-
# LibraGovernor.Daemon.LaunchGate -- admit, renew, release and status of a launched job

The launch gate is an occupancy gate: a job holds one slot of its pool, under its launch id
as session and as idempotency key.  The four handlers add no locking of their own; each is
the ledger transactions it runs, one after the other.

The uuid of a new reservation is an argument of the request (`fresh`).
-/
import LibraGovernor.Ledger.Sweep
import LibraGovernor.Daemon.SharedBudget

namespace LibraGovernor

open Relational Transaction

set_option autoImplicit false

/-! ## Configuration, requests and answers -/

def launchPrincipal : PrincipalId := ⟨"libra-launcher"⟩

def launchUnit : QuotaUnit := .opaqueCredit "libra-launch-slot"

def defaultRetryAfterSecs : Nat := 5

def launchGateEnforcementScope : String := "launcher_owned_direct_children_only"

def launchPoolPrefix : String := "launch:"

structure LaunchPoolConfig where
  poolAlias : String
  capacity : Nat
  enabled : Bool
  deriving DecidableEq, Repr

structure LaunchGateConfig where
  pools : List LaunchPoolConfig
  holdTtlSecs : Nat
  deriving DecidableEq, Repr

def LaunchGateConfig.pool (launcher : LaunchGateConfig) (poolAlias : String) : Option LaunchPoolConfig :=
  launcher.pools.find? fun p => p.poolAlias = poolAlias

def poolIdForAlias (poolAlias : String) : PoolId := ⟨launchPoolPrefix ++ poolAlias⟩

inductive UnavailableReason where
  | notEnabled
  | unknownPool
  | adminDisabled
  | holdExpired
  | renewFailed
  | releaseRefused
  deriving DecidableEq, Repr

inductive WaitReason where
  | throttled (active capacity : Nat)
  | externalOverhang
  deriving DecidableEq, Repr

structure PoolStatus where
  poolAlias : String
  configuredCapacity : Nat
  effectiveCapacity : Nat
  active : Nat
  enabled : Bool
  enforcementScope : String
  deriving DecidableEq, Repr

/-- Instants are those the source writes as text. -/
inductive LaunchOutcome where
  | start (reservationId : SharedPoolReservationId) (expiresAt : OffsetDateTime) (renewEverySecs : Nat)
  | wait (reason : WaitReason) (retryAfterSecs : Nat)
  | unavailable (reason : UnavailableReason)
  | renewed (expiresAt : OffsetDateTime)
  | lost (state : ReservationState)
  | statusReport (pools : List PoolStatus)
  deriving DecidableEq, Repr

inductive LaunchRequest where
  | admission (poolAlias : String) (launchId : Uuid) (fresh : SharedPoolReservationId)
  | renew (reservationId : SharedPoolReservationId) (launchId : Uuid)
  | release (reservationId : SharedPoolReservationId) (launchId : Uuid)
  | status
  deriving DecidableEq, Repr

abbrev Gate (α : Type) := Procedure LedgerStore LedgerError α

/-! ## Handlers -/

/-- One slot, held under the launch id. -/
def slotRequest (launcher : LaunchGateConfig) (poolAlias : String) (launchId : Uuid)
    (now : OffsetDateTime) : SharedPoolReserveRequest where
  poolId := poolIdForAlias poolAlias
  principalId := launchPrincipal
  sessionId := launchId.text
  amount := 1
  unit := launchUnit
  idempotencyKey := launchId.text
  now := now
  ttlSecs := launcher.holdTtlSecs

/-- Full by what the ledger knows, or by what only the provider has seen. -/
def waitReason (admission : PoolAdmission) : WaitReason :=
  let knownSpendFull := admission.capacity ≤ min (admission.active + admission.settled) u64Max
  if ¬ knownSpendFull ∧ 0 < admission.externalOverhang then .externalOverhang
  else .throttled admission.active admission.capacity

/-- The answer to a reserve.  A replayed launch starts only while its hold is active and
unexpired; the lookup by key that found it does not look at its state. -/
def admitAnswer (launcher : LaunchGateConfig) (now : OffsetDateTime) :
    CoreReserveOutcome → Gate LaunchOutcome
  | .granted hold => pure (.start hold.id hold.expiresAt launcher.holdTtlSecs)
  | .alreadyGranted hold =>
      if hold.state = .active ∧ now < hold.expiresAt then
        pure (.start hold.id hold.expiresAt launcher.holdTtlSecs)
      else pure (.lost hold.state)
  | .insufficient admission _ => pure (.wait (waitReason admission) defaultRetryAfterSecs)
  | .noPool => pure (.unavailable .unknownPool)
  -- A reserve with no metered gate has no other outcome; the source marks it unreachable.
  | .snapshotUnusable _ => .fail .invalid
  | .sessionCapExceeded _ _ _ => .fail .invalid

def handleAdmit (launcher : Option LaunchGateConfig) (poolAlias : String) (launchId : Uuid)
    (now : OffsetDateTime) (fresh : SharedPoolReservationId) : Gate LaunchOutcome :=
  match launcher with
  | none => pure (.unavailable .notEnabled)
  | some launcher =>
  match launcher.pool poolAlias with
  | none => pure (.unavailable .unknownPool)
  | some poolCfg =>
  if poolCfg.enabled = false then pure (.unavailable .adminDisabled)
  else do
  let pool ← .transact id fun s =>
    s.ensurePool (poolIdForAlias poolCfg.poolAlias) launchUnit poolCfg.capacity now
  if pool.unit ≠ launchUnit then return .unavailable .unknownPool
  else
  let _ ← .transact id fun s => s.expireStaleSharedPoolReservations now
  let outcome ← .transact id fun s =>
    s.reserveShared (slotRequest launcher poolCfg.poolAlias launchId now) fresh
  admitAnswer launcher now outcome

def renewAnswer : SharedPoolRenewOutcome → LaunchOutcome
  | .renewed hold => .renewed hold.expiresAt
  | .notFound => .unavailable .holdExpired
  | .refused current =>
      if current.state ≠ .active then .lost current.state else .unavailable .renewFailed

def handleRenew (launcher : Option LaunchGateConfig) (reservationId : SharedPoolReservationId)
    (launchId : Uuid) (now : OffsetDateTime) : Gate LaunchOutcome :=
  match launcher with
  | none => pure (.unavailable .notEnabled)
  | some launcher => do
  let _ ← .transact id fun s => s.expireStaleSharedPoolReservations now
  let outcome ← .transact id fun s =>
    s.renewShared reservationId launchPrincipal launchId.text now launcher.holdTtlSecs
  return renewAnswer outcome

/-- The hold is a slot of this very launch. -/
def ownSlot (current : SharedPoolRow) (launchId : Uuid) : Bool :=
  decide (current.principalId = launchPrincipal ∧ current.sessionId = launchId.text) &&
    startsWith current.poolId.val launchPoolPrefix

def releaseAnswer : SharedPoolReleaseOutcome → LaunchOutcome
  | .released hold => .lost hold.state
  | .alreadyFinal hold => .lost hold.state
  | .notFound => .unavailable .holdExpired

/-- Who asks is checked here, before the release: the ledger's own release looks only at the
id and the state. -/
def handleRelease (reservationId : SharedPoolReservationId) (launchId : Uuid) (now : OffsetDateTime) :
    Gate LaunchOutcome := do
  match ← .read fun s => s.getSharedReservation reservationId with
  | none => return .unavailable .holdExpired
  | some current =>
  if ownSlot current launchId = false then return .unavailable .releaseRefused
  else
  let outcome ← .transact id fun s => s.releaseShared reservationId now
  return releaseAnswer outcome

def poolStatus (s : LedgerStore) (now : OffsetDateTime) (poolCfg : LaunchPoolConfig) : PoolStatus :=
  let admission := s.poolAdmission (poolIdForAlias poolCfg.poolAlias) now
  { poolAlias := poolCfg.poolAlias
    configuredCapacity := poolCfg.capacity
    effectiveCapacity := (admission.map PoolAdmission.capacity).getD 0
    active := (admission.map PoolAdmission.active).getD 0
    enabled := poolCfg.enabled
    enforcementScope := launchGateEnforcementScope }

def handleStatus (launcher : Option LaunchGateConfig) (now : OffsetDateTime) : Gate LaunchOutcome :=
  match launcher with
  | none => pure (.statusReport [])
  | some launcher => do
  let pools ← .read fun s => launcher.pools.map (poolStatus s now)
  return .statusReport pools

def handleLaunch (launcher : Option LaunchGateConfig) (now : OffsetDateTime) :
    LaunchRequest → Gate LaunchOutcome
  | .admission poolAlias launchId fresh => handleAdmit launcher poolAlias launchId now fresh
  | .renew reservationId launchId => handleRenew launcher reservationId launchId now
  | .release reservationId launchId => handleRelease reservationId launchId now
  | .status => handleStatus launcher now

end LibraGovernor
