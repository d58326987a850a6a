/-
# LibraGovernor.Ledger.SharedPool -- the shared-pool transactions

Every mutating operation of the shared pool, as the transaction the source runs:
a function of the store that either fails, leaving the store as it was, or gives
an outcome and the store it committed.  Row ids are drawn by the caller of the
model (`fresh`), because the source draws a random UUID; an id that is already
taken is refused by the primary key, as SQLite would refuse it.
-/
import LibraGovernor.Ledger.Store

namespace LibraGovernor

open Relational

set_option autoImplicit false

/-! ## Requests and outcomes -/

structure ExecutorAttribution where
  agentId : Option String := none
  executorKind : Option ExecutorKind := none
  chargeSource : Option ChargeSource := none
  deriving DecidableEq, Repr

namespace ExecutorAttribution

def mainExecutor (chargeSource : Option ChargeSource) : ExecutorAttribution :=
  { executorKind := some .agentAbsent, chargeSource }

def agent (agentId : String) (chargeSource : Option ChargeSource) : ExecutorAttribution :=
  { agentId := some agentId, executorKind := some .agent, chargeSource }

def unattributed (chargeSource : Option ChargeSource) : ExecutorAttribution :=
  { executorKind := some .unattributed, chargeSource }

/-- The kind an agent id and a kind resolve to, when they agree. -/
def resolveKind : Option ExecutorKind → Option String → Except LedgerError (Option ExecutorKind)
  | some .agent, some _ => .ok (some .agent)
  | some .agent, none => .error .invalid
  | some .agentAbsent, some _ => .error .invalid
  | some .unattributed, some _ => .error .invalid
  | some kind, none => .ok (some kind)
  | none, some _ => .ok (some .agent)
  | none, none => .ok none

/-- Validates the id and kind pairing and resolves it to what is persisted. -/
def resolve (a : ExecutorAttribution) : Except LedgerError ExecutorAttribution := do
  if a.agentId = some "" then throw .invalid
  let executorKind ← resolveKind a.executorKind a.agentId
  return { a with executorKind }

end ExecutorAttribution

inductive CapacitySource where
  | providerSnapshot
  | localConfigured (cap : Nat)
  deriving DecidableEq, Repr

structure SettleWatermark where
  at_ : Option OffsetDateTime
  messageIds : List String
  deriving DecidableEq, Repr

/-- The two columns a watermark is stored in. -/
def watermarkColumns (watermark : Option SettleWatermark) :
    Except LedgerError (Option OffsetDateTime × Option (List String)) :=
  match watermark with
  | none => .ok (none, none)
  | some w => do
      let stamp ← w.at_.mapM rfc3339
      return (stamp, if w.messageIds.isEmpty then none else some w.messageIds)

structure SharedPoolReserveRequest where
  poolId : PoolId
  principalId : PrincipalId
  sessionId : String
  amount : Nat
  unit : QuotaUnit
  idempotencyKey : String
  now : OffsetDateTime
  ttlSecs : Nat
  attribution : ExecutorAttribution := {}
  deriving DecidableEq, Repr

structure MeteredGate where
  sessionCap : Option Nat
  capacitySource : CapacitySource
  deriving DecidableEq, Repr

inductive CoreReserveOutcome where
  | granted (reservation : SharedPoolReservation)
  | alreadyGranted (reservation : SharedPoolReservation)
  | insufficient (admission : PoolAdmission) (requested : Nat)
  | noPool
  | snapshotUnusable (reason : SnapshotUnusable)
  | sessionCapExceeded (committed cap requested : Nat)
  deriving DecidableEq, Repr

structure SharedPoolChargeRequest where
  poolId : PoolId
  principalId : PrincipalId
  sessionId : String
  amount : Nat
  unit : QuotaUnit
  idempotencyKey : String
  now : OffsetDateTime
  attribution : ExecutorAttribution := {}
  capacitySource : CapacitySource
  usageKnown : Bool
  deriving DecidableEq, Repr

inductive SharedPoolChargeOutcome where
  | charged (reservation : SharedPoolReservation) (admission : PoolAdmission) (overrun : Nat)
      (capacityKnown : Bool)
  | alreadyCharged (reservation : SharedPoolReservation)
  | keyConflict (reservation : SharedPoolReservation)
  | noPool
  deriving DecidableEq, Repr

inductive SharedPoolSettleOutcome where
  | settled (reservation : SharedPoolReservation) (refunded overrun : Option Nat)
  | alreadyFinal (reservation : SharedPoolReservation)
  | notFound
  deriving DecidableEq, Repr

inductive SharedPoolReleaseOutcome where
  | released (reservation : SharedPoolReservation)
  | alreadyFinal (reservation : SharedPoolReservation)
  | notFound
  deriving DecidableEq, Repr

inductive SharedPoolRenewOutcome where
  | renewed (reservation : SharedPoolReservation)
  | notFound
  | refused (reservation : SharedPoolReservation)
  deriving DecidableEq, Repr

structure SourcedAdmission where
  admission : PoolAdmission
  capacityKnown : Bool
  deriving DecidableEq, Repr

/-! ## Row rewrites -/

namespace SharedPoolRow

/-- Whether a settle may close the row: active, or expired and so late. -/
def settleable (r : SharedPoolRow) : Bool := r.state = .active ∨ r.state = .expired

/-- The settle `UPDATE`.  Attribution recorded at hold time is kept. -/
def settle (value : Nat) (usageKnown : Bool) (now : OffsetDateTime)
    (supplied : ExecutorAttribution) (watermarkTs : Option OffsetDateTime)
    (watermarkMessageIds : Option (List String)) (r : SharedPoolRow) : SharedPoolRow :=
  { r with
    state := .settled
    settledAmount := some value
    usageKnown := some usageKnown
    settledAt := some now
    agentId := if r.executorKind.isSome then r.agentId else supplied.agentId
    executorKind := if r.executorKind.isSome then r.executorKind else supplied.executorKind
    chargeSource := r.chargeSource.or supplied.chargeSource
    watermarkTs
    watermarkMessageIds }

def release (now : OffsetDateTime) (r : SharedPoolRow) : SharedPoolRow :=
  { r with state := .released, releasedAt := some now }

def renew (expiresAt : OffsetDateTime) (r : SharedPoolRow) : SharedPoolRow := { r with expiresAt }

def expire (now : OffsetDateTime) (r : SharedPoolRow) : SharedPoolRow :=
  { r with state := .expired, releasedAt := some now }

/-- Expire-as-charge: an abandoned gateway hold is booked at its full amount. -/
def book (now : OffsetDateTime) (r : SharedPoolRow) : SharedPoolRow :=
  { r with
    state := .settled
    settledAmount := some r.amount
    usageKnown := some false
    settledAt := some now }

def mark (watermarkTs : Option OffsetDateTime) (watermarkMessageIds : Option (List String))
    (r : SharedPoolRow) : SharedPoolRow := { r with watermarkTs, watermarkMessageIds }

end SharedPoolRow

namespace LedgerStore

/-! ## Pools and admission -/

def ensurePool (s : LedgerStore) (poolId : PoolId) (unit : QuotaUnit) (capacity : Nat)
    (now : OffsetDateTime) : Except LedgerError (QuotaPool × LedgerStore) := do
  let stamp ← rfc3339 now
  let capacity ← checkedI64 capacity
  match s.quotaPools.find? poolId with
  | some pool => return (pool, s)
  | none =>
      let pool : QuotaPool := { poolId, unit, capacity, createdAt := stamp, updatedAt := stamp }
      match inserted : s.quotaPools.insert? pool with
      | none => throw .constraint
      | some quotaPools => return (pool, { s with
          quotaPools
          pooled := by
            intro r mem
            obtain ⟨old, was, same⟩ := s.pooled r mem
            exact ⟨old, (Table.mem_insert? inserted old).mpr (.inl was), same⟩ })

/-- Settled spend the provider could already have seen at `observedAt`. -/
def settledBefore (s : LedgerStore) (poolId : PoolId) (observedAt : OffsetDateTime) : Nat :=
  (s.reservations.rows.filterMap fun r =>
    if r.poolId = poolId ∧ r.state = .settled then
      match r.settledAmount, r.settledAt with
      | some settledAmount, some settledAt =>
          if settledAt ≤ observedAt then some settledAmount else none
      | _, _ => none
    else none).foldl (fun total x => min (total + x) u64Max) 0

/-- The part of a fresh snapshot's `used` figure the ledger has no record of. -/
def externalOverhang (s : LedgerStore) (poolId : PoolId) (now : OffsetDateTime) : Nat :=
  match s.snapshots.find? poolId with
  | none => 0
  | some snapshot =>
      if snapshot.validUntil.any (fun validUntil => validUntil ≤ now) then 0
      else
        match snapshot.reading with
        | .undisclosed => 0
        | .used used _ => used.value - s.settledBefore poolId snapshot.observedAt

def overhangFor (s : LedgerStore) (poolId : PoolId) (source : CapacitySource)
    (now : OffsetDateTime) : Nat :=
  match source with
  | .localConfigured _ => 0
  | .providerSnapshot => s.externalOverhang poolId now

def effectiveCapacity (s : LedgerStore) (pool : QuotaPool) (source : CapacitySource)
    (now : OffsetDateTime) : Except SnapshotUnusable Nat :=
  match source with
  | .localConfigured cap => .ok cap
  | .providerSnapshot =>
      (meteredSnapshotLimit (s.snapshots.find? pool.poolId) now).map (min pool.capacity)

/-- The admission figures of `poolId` under a given capacity. -/
def admissionAt (s : LedgerStore) (poolId : PoolId) (capacity : Nat) (source : CapacitySource)
    (now : OffsetDateTime) : PoolAdmission where
  capacity
  settled := (s.settledAndActive poolId).1
  active := (s.settledAndActive poolId).2
  externalOverhang := s.overhangFor poolId source now

def poolAdmission (s : LedgerStore) (poolId : PoolId) (now : OffsetDateTime) :
    Option PoolAdmission :=
  (s.quotaPool poolId).map fun pool => s.admissionAt poolId pool.capacity .providerSnapshot now

/-- A status read: an unusable snapshot falls back to the stored capacity. -/
def sourcedAdmission (s : LedgerStore) (pool : QuotaPool) (source : CapacitySource)
    (now : OffsetDateTime) : SourcedAdmission :=
  match s.effectiveCapacity pool source now with
  | .ok capacity => ⟨s.admissionAt pool.poolId capacity source now, true⟩
  | .error _ => ⟨s.admissionAt pool.poolId pool.capacity source now, false⟩

def poolAdmissionFor (s : LedgerStore) (poolId : PoolId) (now : OffsetDateTime)
    (source : CapacitySource) : Option SourcedAdmission :=
  (s.quotaPool poolId).map fun pool => s.sourcedAdmission pool source now

/-- One session's active and settled total; an SQL overflow is an error here. -/
def sessionCommitted (s : LedgerStore) (poolId : PoolId) (principalId : PrincipalId)
    (sessionId : String) : Except LedgerError Nat := do
  let mine := s.reservations.rows.filter fun r =>
    r.poolId = poolId ∧ r.principalId = principalId ∧ r.sessionId = sessionId
  let active ← sqlSum ((mine.filter fun r => r.state = .active).map fun r => r.amount)
  let settled ← sqlSum
    ((mine.filter fun r => r.state = .settled).map fun r => r.settledAmount.getD 0)
  return min (active + settled) u64Max

/-! ## Reserve -/

/-- The capacity a reserve is admitted against: the stored one, unless a metered
gate names its own source. -/
def reserveCapacity (s : LedgerStore) (pool : QuotaPool) (metered : Option MeteredGate)
    (now : OffsetDateTime) : Except SnapshotUnusable Nat :=
  match metered with
  | none => .ok pool.capacity
  | some gate => s.effectiveCapacity pool gate.capacitySource now

/-- The per-session cap of a metered gate: what is committed when it refuses. -/
def sessionCapRefusal (s : LedgerStore) (req : SharedPoolReserveRequest)
    (metered : Option MeteredGate) : Except LedgerError (Option (Nat × Nat)) :=
  match metered.bind MeteredGate.sessionCap with
  | none => .ok none
  | some cap => do
      let committed ← s.sessionCommitted req.poolId req.principalId req.sessionId
      return if cap < min (committed + req.amount) u64Max then some (committed, cap) else none

def overhangSource (metered : Option MeteredGate) : CapacitySource :=
  match metered with
  | none => .providerSnapshot
  | some gate => gate.capacitySource

/-- `now + min(ttl, MAX_TTL_SECS)`. -/
def expiryOf (now : OffsetDateTime) (ttlSecs : Nat) : Except LedgerError OffsetDateTime :=
  match now.checkedAdd (min ttlSecs maxTtlSecs) with
  | none => .error .invalid
  | some expiresAt => .ok expiresAt

/-- The row a granted reserve writes. -/
def holdRow (req : SharedPoolReserveRequest) (fresh : SharedPoolReservationId)
    (attribution : ExecutorAttribution) (amount : Nat) (createdAt expiresAt : OffsetDateTime) :
    SharedPoolRow where
  id := fresh
  poolId := req.poolId
  principalId := req.principalId
  sessionId := req.sessionId
  amount := amount
  state := .active
  settledAmount := none
  usageKnown := none
  idempotencyKey := req.idempotencyKey
  createdAt := createdAt
  expiresAt := expiresAt
  settledAt := none
  releasedAt := none
  agentId := attribution.agentId
  executorKind := attribution.executorKind
  chargeSource := attribution.chargeSource
  isCharge := false
  watermarkTs := none
  watermarkMessageIds := none

/-- The write of an admitted reserve. -/
def grantHold (s : LedgerStore) (req : SharedPoolReserveRequest) (fresh : SharedPoolReservationId)
    (attribution : ExecutorAttribution) : Except LedgerError (SharedPoolRow × LedgerStore) := do
  let expiresAt ← expiryOf req.now req.ttlSecs
  let amount ← checkedI64 req.amount
  let createdText ← rfc3339 req.now
  let expiresText ← rfc3339 expiresAt
  let row := holdRow req fresh attribution amount createdText expiresText
  let s' ← s.insertReservation row
  return (row, s')

def reserveSharedCore (s : LedgerStore) (req : SharedPoolReserveRequest)
    (metered : Option MeteredGate) (fresh : SharedPoolReservationId) :
    Except LedgerError (CoreReserveOutcome × LedgerStore) := do
  let attribution ← req.attribution.resolve
  match s.findByKey req.poolId req.principalId req.idempotencyKey with
  | some existing =>
      if existing.isCharge then throw .sharedPoolKeyConflict
      else return (.alreadyGranted existing.toSharedPoolReservation, s)
  | none =>
  match s.quotaPool req.poolId with
  | none => return (.noPool, s)
  | some pool =>
  if req.unit ≠ pool.unit then throw (.quotaUnitMismatch pool.unit req.unit)
  else
  match s.reserveCapacity pool metered req.now with
  | .error reason => return (.snapshotUnusable reason, s)
  | .ok capacity =>
  match ← s.sessionCapRefusal req metered with
  | some (committed, cap) => return (.sessionCapExceeded committed cap req.amount, s)
  | none =>
  let admission := s.admissionAt req.poolId capacity (overhangSource metered) req.now
  if admission.admits req.amount then
    let (row, s') ← s.grantHold req fresh attribution
    return (.granted row.toSharedPoolReservation, s')
  else return (.insufficient admission req.amount, s)

/-- A reserve with no metered gate. -/
def reserveShared (s : LedgerStore) (req : SharedPoolReserveRequest)
    (fresh : SharedPoolReservationId) : Except LedgerError (CoreReserveOutcome × LedgerStore) :=
  s.reserveSharedCore req none fresh

/-- A reserve under a metered gate. -/
def reserveSharedMetered (s : LedgerStore) (req : SharedPoolReserveRequest) (gate : MeteredGate)
    (fresh : SharedPoolReservationId) : Except LedgerError (CoreReserveOutcome × LedgerStore) :=
  s.reserveSharedCore req (some gate) fresh

/-- Upsert of the prompt a hold accepted. -/
def recordHoldPrompt (s : LedgerStore) (principalId : PrincipalId) (sessionId promptId : String)
    (reservation : SharedPoolReservationId) : LedgerStore :=
  { s with
    holdPrompts := s.holdPrompts.upsert ⟨principalId, sessionId, promptId, reservation⟩
      (fun p => { p with reservationId := reservation }) fun _ => rfl }

/-- Records a prompt when the caller names one. -/
def recordHoldPrompt? (s : LedgerStore) (principalId : PrincipalId) (sessionId : String)
    (promptId : Option String) (reservation : SharedPoolReservationId) : LedgerStore :=
  match promptId with
  | none => s
  | some prompt => s.recordHoldPrompt principalId sessionId prompt reservation

/-- The hold a reserve outcome hands out for a prompt: a grant, or a live replay
of the same session. -/
def promptHold (sessionId : String) : CoreReserveOutcome → Option SharedPoolReservation
  | .granted h => some h
  | .alreadyGranted h =>
      if h.state = .active ∧ h.sessionId = sessionId then some h else none
  | _ => none

/-- A metered reserve that records, in the same transaction, the prompt the hold
accepted. -/
def reserveSharedMeteredForPrompt (s : LedgerStore) (req : SharedPoolReserveRequest)
    (gate : MeteredGate) (promptId : Option String) (fresh : SharedPoolReservationId) :
    Except LedgerError (CoreReserveOutcome × LedgerStore) := do
  let (outcome, s') ← s.reserveSharedMetered req gate fresh
  match promptId, promptHold req.sessionId outcome with
  | some prompt, some h =>
      return (outcome, s'.recordHoldPrompt req.principalId req.sessionId prompt h.id)
  | _, _ => return (outcome, s')

/-! ## Charge -/

/-- Whether an existing row is this very charge, field for field. -/
def identicalCharge (existing : SharedPoolRow) (req : SharedPoolChargeRequest)
    (attribution : ExecutorAttribution) : Bool :=
  existing.isCharge &&
    decide (existing.state = .settled ∧ existing.settledAmount = some req.amount ∧
      existing.usageKnown = some req.usageKnown ∧ existing.sessionId = req.sessionId ∧
      existing.agentId = attribution.agentId ∧
      existing.executorKind = attribution.executorKind ∧
      existing.chargeSource = attribution.chargeSource)

/-- The row a charge writes: settled from the start. -/
def chargeRow (req : SharedPoolChargeRequest) (fresh : SharedPoolReservationId)
    (attribution : ExecutorAttribution) (amount : Nat) (now : OffsetDateTime)
    (watermark : Option OffsetDateTime × Option (List String)) : SharedPoolRow where
  id := fresh
  poolId := req.poolId
  principalId := req.principalId
  sessionId := req.sessionId
  amount := amount
  state := .settled
  settledAmount := some amount
  usageKnown := some req.usageKnown
  idempotencyKey := req.idempotencyKey
  createdAt := now
  expiresAt := now
  settledAt := some now
  releasedAt := none
  agentId := attribution.agentId
  executorKind := attribution.executorKind
  chargeSource := attribution.chargeSource
  isCharge := true
  watermarkTs := watermark.1
  watermarkMessageIds := watermark.2

/-- An identical replay whose row has no mark adopts the supplied one. -/
def adoptWatermark (s : LedgerStore) (existing : SharedPoolRow)
    (watermark : Option OffsetDateTime × Option (List String)) : LedgerStore :=
  if watermark.1.isSome then
    s.updateWhere (fun r => r.id = existing.id ∧ r.watermarkTs = none)
      (SharedPoolRow.mark watermark.1 watermark.2) fun _ => rfl
  else s

def chargeSharedWithWatermark (s : LedgerStore) (req : SharedPoolChargeRequest)
    (watermark : Option SettleWatermark) (fresh : SharedPoolReservationId) :
    Except LedgerError (SharedPoolChargeOutcome × LedgerStore) := do
  let columns ← watermarkColumns watermark
  let attribution ← req.attribution.resolve
  let amount ← checkedI64 req.amount
  match s.findByKey req.poolId req.principalId req.idempotencyKey with
  | some existing =>
      if identicalCharge existing req attribution then
        return (.alreadyCharged existing.toSharedPoolReservation,
          s.adoptWatermark existing columns)
      else return (.keyConflict existing.toSharedPoolReservation, s)
  | none =>
  match s.quotaPool req.poolId with
  | none => return (.noPool, s)
  | some pool =>
  if req.unit ≠ pool.unit then throw (.quotaUnitMismatch pool.unit req.unit)
  else
  let now ← rfc3339 req.now
  let row := chargeRow req fresh attribution amount now columns
  let s' ← s.insertReservation row
  let sourced := s'.sourcedAdmission pool req.capacitySource req.now
  return (.charged row.toSharedPoolReservation sourced.admission sourced.admission.overrun
    sourced.capacityKnown, s')

def chargeShared (s : LedgerStore) (req : SharedPoolChargeRequest)
    (fresh : SharedPoolReservationId) :
    Except LedgerError (SharedPoolChargeOutcome × LedgerStore) :=
  s.chargeSharedWithWatermark req none fresh

/-! ## Settle, release, renew -/

def settleSharedCore (s : LedgerStore) (id : SharedPoolReservationId) (actual : Option Nat)
    (usageKnown : Bool) (now : OffsetDateTime) (attribution : ExecutorAttribution)
    (watermark : Option SettleWatermark) :
    Except LedgerError (SharedPoolSettleOutcome × LedgerStore) := do
  let columns ← watermarkColumns watermark
  let supplied ← attribution.resolve
  match s.getSharedReservation id with
  | none => return (.notFound, s)
  | some row =>
  if row.settleable then
    let value ← checkedI64 (actual.getD row.amount)
    let stamp ← rfc3339 now
    let close := SharedPoolRow.settle value usageKnown stamp supplied columns.1 columns.2
    let closed := (close row).toSharedPoolReservation
    return (.settled closed closed.refunded closed.overrun,
      s.updateReservation id close fun _ => rfl)
  else return (.alreadyFinal row.toSharedPoolReservation, s)

def settleSharedWithWatermark (s : LedgerStore) (id : SharedPoolReservationId)
    (actual : Option Nat) (now : OffsetDateTime) (attribution : ExecutorAttribution)
    (watermark : Option SettleWatermark) :
    Except LedgerError (SharedPoolSettleOutcome × LedgerStore) :=
  s.settleSharedCore id actual actual.isSome now attribution watermark

def settleSharedAttributed (s : LedgerStore) (id : SharedPoolReservationId) (actual : Option Nat)
    (now : OffsetDateTime) (attribution : ExecutorAttribution) :
    Except LedgerError (SharedPoolSettleOutcome × LedgerStore) :=
  s.settleSharedWithWatermark id actual now attribution none

def settleShared (s : LedgerStore) (id : SharedPoolReservationId) (actual : Option Nat)
    (now : OffsetDateTime) : Except LedgerError (SharedPoolSettleOutcome × LedgerStore) :=
  s.settleSharedAttributed id actual now {}

def settleSharedMarked (s : LedgerStore) (id : SharedPoolReservationId) (amount : Nat)
    (usageKnown : Bool) (now : OffsetDateTime) :
    Except LedgerError (SharedPoolSettleOutcome × LedgerStore) :=
  s.settleSharedCore id (some amount) usageKnown now {} none

def releaseShared (s : LedgerStore) (id : SharedPoolReservationId) (now : OffsetDateTime) :
    Except LedgerError (SharedPoolReleaseOutcome × LedgerStore) := do
  match s.getSharedReservation id with
  | none => return (.notFound, s)
  | some row =>
  if row.state = .active then
    let stamp ← rfc3339 now
    return (.released (row.release stamp).toSharedPoolReservation,
      s.updateReservation id (SharedPoolRow.release stamp) fun _ => rfl)
  else return (.alreadyFinal row.toSharedPoolReservation, s)

/-- Forget every prompt `id` accepted. -/
def forgetPrompts (s : LedgerStore) (id : SharedPoolReservationId) : LedgerStore :=
  { s with holdPrompts := s.holdPrompts.delete fun p => p.reservationId = id }

/-- Releases a hold that never carried a turn, and its prompts with it. -/
def releaseAndForgetUnstartedShared (s : LedgerStore) (id : SharedPoolReservationId)
    (now : OffsetDateTime) : Except LedgerError (SharedPoolReleaseOutcome × LedgerStore) := do
  match s.getSharedReservation id with
  | none => return (.notFound, s)
  | some row =>
  if row.state = .active then
    let stamp ← rfc3339 now
    return (.released (row.release stamp).toSharedPoolReservation,
      (s.updateReservation id (SharedPoolRow.release stamp) fun _ => rfl).forgetPrompts id)
  else return (.alreadyFinal row.toSharedPoolReservation, s)

/-- Whether a renew names the row's own holder while the hold is fresh. -/
def renewable (row : SharedPoolRow) (principalId : PrincipalId) (sessionId : String)
    (now : OffsetDateTime) : Bool :=
  decide (row.principalId = principalId ∧ row.sessionId = sessionId ∧
    row.state = .active ∧ now < row.expiresAt)

def renewSharedForPrompt (s : LedgerStore) (id : SharedPoolReservationId)
    (principalId : PrincipalId) (sessionId : String) (now : OffsetDateTime) (ttlSecs : Nat)
    (promptId : Option String) : Except LedgerError (SharedPoolRenewOutcome × LedgerStore) := do
  match s.getSharedReservation id with
  | none => return (.notFound, s)
  | some row =>
  if renewable row principalId sessionId now then
    let expiresAt ← expiryOf now ttlSecs
    let stamp ← rfc3339 expiresAt
    let s' := s.updateReservation id (SharedPoolRow.renew stamp) fun _ => rfl
    let renewed := SharedPoolRenewOutcome.renewed (row.renew stamp).toSharedPoolReservation
    return (renewed, s'.recordHoldPrompt? principalId sessionId promptId id)
  else return (.refused row.toSharedPoolReservation, s)

def renewShared (s : LedgerStore) (id : SharedPoolReservationId) (principalId : PrincipalId)
    (sessionId : String) (now : OffsetDateTime) (ttlSecs : Nat) :
    Except LedgerError (SharedPoolRenewOutcome × LedgerStore) :=
  s.renewSharedForPrompt id principalId sessionId now ttlSecs none

def recordSharedWatermark (s : LedgerStore) (id : SharedPoolReservationId)
    (watermark : SettleWatermark) : Except LedgerError (Unit × LedgerStore) := do
  let columns ← watermarkColumns (some watermark)
  return ((), s.updateWhere (fun r => r.id = id ∧ r.state = .settled)
    (SharedPoolRow.mark columns.1 columns.2) fun _ => rfl)

/-! ## Sweeps -/

/-- An active hold whose expiry has passed. -/
def stale (now : OffsetDateTime) (r : SharedPoolRow) : Bool :=
  decide (r.state = .active ∧ r.expiresAt ≤ now)

/-- A stale gateway hold is booked; any other stale hold is freed. -/
def resolveStale (now : OffsetDateTime) (r : SharedPoolRow) : SharedPoolRow :=
  if r.gatewayHold then r.book now else r.expire now

theorem resolveStale_ident (now : OffsetDateTime) (r : SharedPoolRow) :
    (resolveStale now r).ident = r.ident := by
  unfold resolveStale
  split <;> rfl

def expireStaleSharedPoolReservations (s : LedgerStore) (now : OffsetDateTime) :
    Except LedgerError (List SharedPoolReservation × LedgerStore) := do
  let stamp ← rfc3339 now
  let resolved := (s.reservations.rows.filter (stale now)).map fun r =>
    (resolveStale stamp r).toSharedPoolReservation
  return (resolved, s.updateWhere (stale now) (resolveStale stamp) (resolveStale_ident stamp))

/-- `gw:<id>:` with a nonempty id. -/
def bootPrefixWellFormed (bootPrefixKeep : String) : Bool :=
  decide (4 < bootPrefixKeep.utf8ByteSize) && startsWith bootPrefixKeep "gw:" &&
    decide (bootPrefixKeep.toList.getLast? = some ':')

/-- An active gateway hold of another boot. -/
def orphaned (bootPrefixKeep : String) (r : SharedPoolRow) : Bool :=
  decide (r.state = .active) && r.gatewayHold && !startsWith r.idempotencyKey bootPrefixKeep

def settleOrphanedGatewayHolds (s : LedgerStore) (bootPrefixKeep : String)
    (now : OffsetDateTime) : Except LedgerError (List SharedPoolReservation × LedgerStore) := do
  if bootPrefixWellFormed bootPrefixKeep then
    let stamp ← rfc3339 now
    let booked := (s.reservations.rows.filter (orphaned bootPrefixKeep)).map fun r =>
      (r.book stamp).toSharedPoolReservation
    return (booked,
      s.updateWhere (orphaned bootPrefixKeep) (SharedPoolRow.book stamp) fun _ => rfl)
  else return ([], s)

/-! ## Provider snapshots -/

/-- What of a reading reaches the integer columns. -/
def checkReading : GaugeReading → Except LedgerError Unit
  | .undisclosed => .ok ()
  | .used used limit => do
      let _ ← checkedI64 used.value
      let _ ← limit.mapM checkedI64
      return ()

def readingUnitMismatch (reading : GaugeReading) (pool : QuotaPool) : Option QuotaUnit :=
  match reading with
  | .undisclosed => none
  | .used used _ => if used.unit ≠ pool.unit then some used.unit else none

/-- Replaces the pool's snapshot, unless the stored one was observed later. -/
def ingestPoolProviderSnapshot (s : LedgerStore) (poolId : PoolId) (observedAt : OffsetDateTime)
    (validUntil : Option OffsetDateTime) (reading : GaugeReading) (confidence : Confidence)
    (now : OffsetDateTime) : Except LedgerError (Unit × LedgerStore) := do
  if now < observedAt then throw .invalid
  else
  checkReading reading
  match s.quotaPool poolId with
  | none => throw (.noSuchPool poolId.val)
  | some pool =>
  match readingUnitMismatch reading pool with
  | some actual => throw (.quotaUnitMismatch pool.unit actual)
  | none =>
  if (s.snapshots.find? poolId).any (fun stored => observedAt < stored.observedAt) then
    return ((), s)
  else
    let observedAt ← rfc3339 observedAt
    let validUntil ← validUntil.mapM rfc3339
    let _ ← rfc3339 now
    let snapshot : PoolProviderSnapshot := { poolId, observedAt, validUntil, reading, confidence }
    return ((), { s with
      snapshots := s.snapshots.upsert snapshot
        (fun stored => { snapshot with poolId := stored.poolId }) fun _ => rfl })

end LedgerStore

end LibraGovernor
