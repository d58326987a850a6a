/-
# LibraGovernor.Daemon.Gateway -- per-request holds of the gateway

Under `enforcement = gateway` the gateway reserves the worst case of every request
before it is sent and settles it afterwards.  The daemon prices both sides with
the budget's own table.  `gatewayRow` is the door of settle, release and renew: it
hands out only rows the gateway wrote, so none of them can touch a turn hold.
-/
import LibraGovernor.Daemon.SharedBudget

namespace LibraGovernor

open Relational Transaction

set_option autoImplicit false

def maxGatewayFieldBytes : Nat := 256

def gatewayKeyPrefix : String := "gw:"

/-- Nonempty and printable ASCII without blanks. -/
def keyPartIsValid (part : List Char) : Bool :=
  !part.isEmpty && part.all fun c => 0x21 ≤ c.toNat && c.toNat ≤ 0x7E

/-- The prefix every key of one gateway process shares. -/
def gatewayBootPrefix (bootId : String) : Option String :=
  if keyPartIsValid bootId.toList && !bootId.toList.contains ':' then
    some (gatewayKeyPrefix ++ bootId ++ ":")
  else none

def gatewayKeyIsValid (key : String) : Bool :=
  decide (key.utf8ByteSize ≤ maxGatewayFieldBytes) &&
    match stripPrefix key gatewayKeyPrefix with
    | none => false
    | some rest =>
        match splitOnce ':' rest with
        | none => false
        | some (bootId, requestId) => keyPartIsValid bootId && keyPartIsValid requestId

/-! ## Reserve -/

structure GatewayReserveRequest where
  sessionId : String
  model : String
  bodyBytes : Nat
  maxTokens : Option Nat
  imageCount : Nat
  fastRequested : Bool
  key : String
  ttlSecs : Nat
  deriving DecidableEq, Repr

structure GatewayHold where
  reservationId : SharedPoolReservationId
  poolId : PoolId
  reservedUsdCents : Nat
  inputBoundTokens : Nat
  model : String
  maxTokens : Nat
  remainingUsdCents : Int
  replayed : Bool
  deriving DecidableEq, Repr

inductive GatewayRefusal where
  | notConfigured
  | configInvalid (reason : String)
  | notGatewayEnforced
  | clockAnomaly (laterPool : PoolId)
  | identity (reason : SharedBudgetRefusal)
  | sessionIdTooLong
  | invalidKey
  | unenforceable (gap : EnforcementGap)
  | capExhausted (remainingUsdCents : Int)
  | keyConflict
  | keyNotActive
  | poolUnitMismatch
  deriving DecidableEq, Repr

inductive GatewayReserveOutcome where
  | granted (hold : GatewayHold)
  | refused (refusal : GatewayRefusal)
  deriving DecidableEq, Repr

/-- The worst case of a request in whole cents. -/
def worstCaseCents (inputBoundTokens : Nat) (req : GatewayReserveRequest)
    (cfg : SharedBudgetConfig) : Except EnforcementGap ResourceAmount :=
  worstCaseUsdReservation inputBoundTokens req.maxTokens req.model req.fastRequested cfg.table

/-- The ledger request of a gateway reserve. -/
def gatewayReservation (req : GatewayReserveRequest) (poolId : PoolId) (amount : Nat)
    (now : OffsetDateTime) : SharedPoolReserveRequest where
  poolId := poolId
  principalId := principal
  sessionId := req.sessionId
  amount := amount
  unit := .usdCents
  idempotencyKey := req.key
  now := now
  ttlSecs := req.ttlSecs
  attribution := .unattributed (some .gateway)

/-- What a ledger reserve means to the gateway: the hold, or the refusal.  Only a
live hold of this session and size is a retry. -/
def gatewayHeld (req : GatewayReserveRequest) (worst : Nat) :
    Except LedgerError CoreReserveOutcome →
      Except SharedBudgetError (Except GatewayRefusal (SharedPoolReservation × Bool))
  | .ok (.granted hold) => .ok (.ok (hold, false))
  | .ok (.alreadyGranted hold) =>
      if hold.state ≠ .active then .ok (.error .keyNotActive)
      else if hold.amount ≠ worst ∨ hold.sessionId ≠ req.sessionId then .ok (.error .keyConflict)
      else .ok (.ok (hold, true))
  | .ok (.insufficient admission _) => .ok (.error (.capExhausted admission.remaining))
  | .ok .noPool => .error (.internal "pool missing right after creation")
  | .ok (.snapshotUnusable _) =>
      .error (.internal "a locally configured cap consulted a provider snapshot or session cap")
  | .ok (.sessionCapExceeded _ _ _) =>
      .error (.internal "a locally configured cap consulted a provider snapshot or session cap")
  | .error (.quotaUnitMismatch _ _) => .ok (.error .poolUnitMismatch)
  | .error .sharedPoolKeyConflict => .ok (.error .keyConflict)
  | .error e => .error (.ledger e)

/-- The hold handed out. -/
def heldOf (req : GatewayReserveRequest) (hold : SharedPoolReservation) (inputBoundTokens : Nat)
    (remaining : Int) (replayed : Bool) : GatewayHold where
  reservationId := hold.id
  poolId := hold.poolId
  reservedUsdCents := hold.amount
  inputBoundTokens := inputBoundTokens
  model := req.model
  maxTokens := req.maxTokens.getD 0
  remainingUsdCents := remaining
  replayed := replayed

def gatewayReserve (rt : SharedBudgetRuntime) (req : GatewayReserveRequest)
    (fresh : SharedPoolReservationId) : Daemon GatewayReserveOutcome :=
  match rt.state with
  | .absent => pure (.refused .notConfigured)
  | .invalid reason => pure (.refused (.configInvalid reason))
  | .valid cfg =>
  if cfg.enforcement ≠ .gateway then pure (.refused .notGatewayEnforced)
  else
  match validateIdentity req.sessionId none with
  | .error reason => pure (.refused (.identity reason))
  | .ok _ =>
  if maxGatewayFieldBytes < req.sessionId.utf8ByteSize then pure (.refused .sessionIdTooLong)
  else if gatewayKeyIsValid req.key = false then pure (.refused .invalidKey)
  else do
  let period ← periodOf cfg rt.now
  match ← laterPool period with
  | some later => return .refused (.clockAnomaly later)
  | none =>
  let inputBoundTokens := hardInputUpperBound req.bodyBytes req.imageCount
  match worstCaseCents inputBoundTokens req cfg with
  | .error gap => return .refused (.unenforceable gap)
  | .ok amount =>
  if amount.value < 0 then .fail (.internal "a worst-case reservation is negative")
  else
  let worst := amount.value.toNat
  let _ ← ensurePeriodPool period.poolId cfg rt.now
  let _ ← ledger fun s => s.expireStaleSharedPoolReservations rt.now
  let reserved ← .attempt fun s => s.reserveSharedMetered
    (gatewayReservation req period.poolId worst rt.now) ⟨none, source cfg⟩ fresh
  match gatewayHeld req worst reserved with
  | .error e => .fail e
  | .ok (.error refusal) => return .refused refusal
  | .ok (.ok (hold, replayed)) =>
  match ← remainingOf rt .answer hold.poolId cfg rt.now with
  | .error e => .fail (.ledger e)
  | .ok remaining =>
      return .granted (heldOf req hold inputBoundTokens remaining replayed)

/-! ## Settle, release, renew -/

inductive GatewayRow where
  | missing
  | foreign
  | hold (row : SharedPoolRow)

/-- A row the gateway may act on: a local-budget row it wrote itself. -/
def gatewayRow (s : LedgerStore) (id : SharedPoolReservationId) : GatewayRow :=
  match s.getSharedReservation id with
  | none => .missing
  | some row =>
      if row.ofGateway = true ∧ row.principalId = principal ∧
          startsWith row.poolId.val poolPrefix = true then .hold row
      else .foreign

structure GatewaySettleRequest where
  reservationId : SharedPoolReservationId
  observed : Option ObservedUsage
  completedCleanly : Bool
  sawMessageStart : Bool
  model : String
  maxTokens : Nat
  inputBoundTokens : Nat
  deriving DecidableEq, Repr

inductive GatewaySettleOutcome where
  | settled (bookedUsdCents reservedUsdCents : Nat) (usageKnown : Bool) (flags : SettleFlags)
      (overrunUsdCents : Option Nat)
  | alreadyFinal
  | notFound
  | notGatewayHold
  deriving DecidableEq, Repr

/-- The amount a settle books for a row reserved at `reserved`: the priced usage,
or the reservation when the file is no longer valid. -/
def gatewayPriced (rt : SharedBudgetRuntime) (req : GatewaySettleRequest) (reserved : Nat) :
    Nat × Bool × SettleFlags :=
  let held : ResourceAmount := ⟨.usd, (min reserved i64Max : Nat)⟩
  let priced :=
    match rt.state with
    | .valid cfg => settleAmountFor req.observed req.completedCleanly req.sawMessageStart held
        req.maxTokens req.inputBoundTokens .usd req.model cfg.table
    | _ => (held, false, {})
  (if priced.1.value < 0 then reserved else priced.1.value.toNat, priced.2)

def gatewaySettle (rt : SharedBudgetRuntime) (req : GatewaySettleRequest) :
    Daemon GatewaySettleOutcome := do
  match ← .read fun s => gatewayRow s req.reservationId with
  | .missing => return .notFound
  | .foreign => return .notGatewayHold
  | .hold row =>
  let (priced, usageKnown, flags) := gatewayPriced rt req row.amount
  match ← ledger fun s => s.settleSharedMarked req.reservationId priced usageKnown rt.now with
  | .settled reservation _ overrun =>
      return (.settled (reservation.settledAmount.getD row.amount) row.amount
        (reservation.usageKnown = some true) flags overrun)
  | .alreadyFinal _ => return .alreadyFinal
  | .notFound => return .notFound

inductive GatewayReleaseOutcome where
  | released
  | alreadyFinal
  | notFound
  | notGatewayHold
  deriving DecidableEq, Repr

def gatewayRelease (rt : SharedBudgetRuntime) (id : SharedPoolReservationId) :
    Daemon GatewayReleaseOutcome := do
  match ← .read fun s => gatewayRow s id with
  | .missing => return .notFound
  | .foreign => return .notGatewayHold
  | .hold _ =>
  match ← ledger fun s => s.releaseShared id rt.now with
  | .released _ => return .released
  | .alreadyFinal _ => return .alreadyFinal
  | .notFound => return .notFound

inductive GatewayRenewOutcome where
  | renewed
  | refused
  | notFound
  | notGatewayHold
  deriving DecidableEq, Repr

def gatewayRenew (rt : SharedBudgetRuntime) (id : SharedPoolReservationId) (ttlSecs : Nat) :
    Daemon GatewayRenewOutcome := do
  match ← .read fun s => gatewayRow s id with
  | .missing => return .notFound
  | .foreign => return .notGatewayHold
  | .hold row =>
  match ← ledger fun s => s.renewShared id principal row.sessionId rt.now ttlSecs with
  | .renewed _ => return .renewed
  | .refused _ => return .refused
  | .notFound => return .notFound

/-- Books every hold another gateway process left active. -/
def gatewayOrphansAtStart (rt : SharedBudgetRuntime) (bootId : String) :
    Daemon (List SharedPoolReservation) :=
  match gatewayBootPrefix bootId with
  | none => .fail (.internal "a gateway boot id is empty or contains ':'")
  | some bootPrefix => ledger fun s => s.settleOrphanedGatewayHolds bootPrefix rt.now

end LibraGovernor
