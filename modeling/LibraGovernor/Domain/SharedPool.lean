/-
# LibraGovernor.Domain.SharedPool -- pools, holds and the admission arithmetic

The data of the shared pool: a `QuotaPool` with a fixed capacity, the
`SharedPoolReservation` rows held against it, the provider's gauge reading, and
`PoolAdmission`, whose `remaining` decides every reserve.  Amounts are the
source's `u64` values read as naturals; the bounds the code checks or saturates
at appear where it checks or saturates.
-/
import LibraGovernor.Domain.Clock
import Mathlib.Algebra.Group.Int.Defs
import Mathlib.Algebra.Group.Nat.Defs

namespace LibraGovernor

set_option autoImplicit false

structure PoolId where
  val : String
  deriving DecidableEq, Repr

structure PrincipalId where
  val : String
  deriving DecidableEq, Repr

/-- A v4 UUID naming one reservation row. -/
structure SharedPoolReservationId where
  uuid : BitVec 128
  deriving DecidableEq, Repr

inductive QuotaUnit where
  | usdCents
  | tokens
  | requests
  | opaqueCredit (credits : String)
  | percent
  deriving DecidableEq, Repr

structure QuotaPool where
  poolId : PoolId
  unit : QuotaUnit
  capacity : Nat
  createdAt : OffsetDateTime
  updatedAt : OffsetDateTime
  deriving DecidableEq, Repr

inductive ReservationState where
  | active
  | settled
  | released
  | expired
  deriving DecidableEq, Repr

/-- Which executor within a session a row is attributed to. -/
inductive ExecutorKind where
  | agentAbsent
  | agent
  | unattributed
  deriving DecidableEq, Repr

/-- How a row's spend reached the ledger. -/
inductive ChargeSource where
  | turnHold
  | subagentTranscript
  | gateway
  deriving DecidableEq, Repr

structure SharedPoolReservation where
  id : SharedPoolReservationId
  poolId : PoolId
  principalId : PrincipalId
  sessionId : String
  amount : Nat
  state : ReservationState
  settledAmount : Option Nat
  usageKnown : Option Bool
  idempotencyKey : String
  createdAt : OffsetDateTime
  expiresAt : OffsetDateTime
  settledAt : Option OffsetDateTime
  releasedAt : Option OffsetDateTime
  agentId : Option String
  executorKind : Option ExecutorKind
  chargeSource : Option ChargeSource
  deriving DecidableEq, Repr

namespace SharedPoolReservation

/-- `settled_amount - amount` when the actual cost exceeded the hold. -/
def overrun (r : SharedPoolReservation) : Option Nat :=
  match r.settledAmount with
  | none => none
  | some settled => if r.amount < settled then some (settled - r.amount) else none

/-- `amount - settled_amount` when the actual cost came in under the hold. -/
def refunded (r : SharedPoolReservation) : Option Nat :=
  match r.settledAmount with
  | none => none
  | some settled => if settled < r.amount then some (r.amount - settled) else none

end SharedPoolReservation

/-! ## Admission -/

/-- The figures one admission decision is derived from. -/
structure PoolAdmission where
  capacity : Nat
  settled : Nat
  active : Nat
  externalOverhang : Nat
  deriving DecidableEq, Repr

namespace PoolAdmission

/-- `i128::clamp` into the range of `i64`. -/
def clampI64 (value : Int) : Int := max (-(2 ^ 63)) (min value (2 ^ 63 - 1))

def remaining (a : PoolAdmission) : Int :=
  clampI64 ((a.capacity : Int) - a.settled - a.active - a.externalOverhang)

def admits (a : PoolAdmission) (requested : Nat) : Bool := decide ((requested : Int) ≤ a.remaining)

def overrun (a : PoolAdmission) : Nat := (-a.remaining).toNat

theorem clampI64_nonneg_iff (value : Int) : 0 ≤ clampI64 value ↔ 0 ≤ value := by
  unfold clampI64
  omega

/-- What admission means without the clamp. -/
theorem admits_sound {a : PoolAdmission} {requested : Nat} (admitted : a.admits requested = true) :
    a.settled + a.active + a.externalOverhang + requested ≤ a.capacity := by
  have le : (requested : Int) ≤ a.remaining := of_decide_eq_true admitted
  unfold remaining clampI64 at le
  omega

end PoolAdmission

/-! ## Provider snapshots -/

inductive Confidence where
  | low
  | medium
  | high
  deriving DecidableEq, Repr

structure QuotaAmount where
  unit : QuotaUnit
  value : Nat
  deriving DecidableEq, Repr

inductive GaugeReading where
  | undisclosed
  | used (used : QuotaAmount) (limit : Option Nat)
  deriving DecidableEq, Repr

structure PoolProviderSnapshot where
  poolId : PoolId
  observedAt : OffsetDateTime
  validUntil : Option OffsetDateTime
  reading : GaugeReading
  confidence : Confidence
  deriving DecidableEq, Repr

inductive SnapshotUnusable where
  | missing
  | undisclosed
  | noValidUntil
  | stale
  | limitMissing
  deriving DecidableEq, Repr

/-- The declared limit of a snapshot that may be trusted at `now`. -/
def meteredSnapshotLimit (snapshot : Option PoolProviderSnapshot) (now : OffsetDateTime) :
    Except SnapshotUnusable Nat :=
  match snapshot with
  | none => .error .missing
  | some snapshot =>
      match snapshot.reading with
      | .undisclosed => .error .undisclosed
      | .used _ limit =>
          match snapshot.validUntil with
          | none => .error .noValidUntil
          | some validUntil =>
              if validUntil ≤ now then .error .stale
              else
                match limit with
                | none => .error .limitMissing
                | some limit => .ok limit

end LibraGovernor
