/-
# LibraGovernor.Daemon.SharedBudget -- the monthly budget: configuration, lanes, periods

What every shared-budget request of the daemon goes through before it touches the
ledger: the budget file in force, the identity and lane of the caller, the period
the clock is in, and the refusal of a clock that runs behind a pool that exists.

A request runs as a `Daemon` procedure: each ledger call is one transaction, and
an error after one leaves what it wrote.  What a request sees of its surroundings
(the file, the clock, a failing read) is its `SharedBudgetRuntime`.
-/
import LibraGovernor.Domain.Uuid
import LibraGovernor.Gateway.Pricing
import LibraGovernor.Ledger.Queries
import LibraGovernor.Lib.Procedure

namespace LibraGovernor

open Relational Transaction

set_option autoImplicit false

/-! ## Text -/

/-- `str::trim_start().starts_with(p)`. -/
def trimmedStartsWith (s p : String) : Bool :=
  p.toList.isPrefixOf (s.toList.dropWhile isWhitespace)

/-- A length-prefixed component. -/
def lp (s : String) : String := Nat.repr s.utf8ByteSize ++ ":" ++ s

/-- One character of a JSON string. -/
def jsonChar (c : Char) : List Char :=
  if c = '"' then ['\\', '"']
  else if c = '\\' then ['\\', '\\']
  else if c.toNat = 8 then ['\\', 'b']
  else if c.toNat = 12 then ['\\', 'f']
  else if c = '\n' then ['\\', 'n']
  else if c = '\r' then ['\\', 'r']
  else if c = '\t' then ['\\', 't']
  else if c.toNat < 32 then ['\\', 'u', '0', '0', hexDigit (c.toNat / 16), hexDigit (c.toNat % 16)]
  else [c]

def jsonString (s : String) : String :=
  "\"" ++ String.ofList (s.toList.flatMap jsonChar) ++ "\""

/-! ## Configuration -/

inductive Enforcement where
  | hooks
  | gateway
  deriving DecidableEq, Repr

/-- A validated budget file.  Every amount is positive and fits `i64`, and a turn
hold fits the cap. -/
structure SharedBudgetConfig where
  monthlyCapUsdCents : Nat
  timeZone : IanaTimeZone
  turnHoldUsdCents : Nat
  subagentUnmeasuredChargeUsdCents : Option Nat
  pricingOverrides : PricingTable
  enforcement : Enforcement
  cap_le : monthlyCapUsdCents ≤ i64Max
  hold_pos : 0 < turnHoldUsdCents
  hold_le : turnHoldUsdCents ≤ monthlyCapUsdCents
  unmeasured_pos : ∀ v, subagentUnmeasuredChargeUsdCents = some v → 0 < v ∧ v ≤ i64Max

/-- The price table in force. -/
def SharedBudgetConfig.table (cfg : SharedBudgetConfig) : PricingTable :=
  if cfg.pricingOverrides.rows.isEmpty then .pinned else .withOverrides cfg.pricingOverrides

inductive SharedBudgetFileState where
  | absent
  | valid (cfg : SharedBudgetConfig)
  | invalid (reason : String)

inductive GatewayRun where
  | stopped
  | passThrough
  | governorHeld
  deriving DecidableEq, Repr

/-- Where a request reads the pool's remaining figure. -/
inductive FigureRead where
  | gate
  | newTurn
  | answer
  deriving DecidableEq, Repr

/-- What one request sees: the file, the clock, the Codex marker, the gateway, and
whether SQLite fails a read of the pool's figures. -/
structure SharedBudgetRuntime where
  state : SharedBudgetFileState
  now : OffsetDateTime
  codexEnrolled : Bool := false
  gatewayRun : GatewayRun := .stopped
  readFailure : FigureRead → Option LedgerError := fun _ => none

/-! ## Answers -/

inductive SharedBudgetDenyReason where
  | configInvalid
  | clockAnomaly
  | capExhausted
  | gatewayUnavailable
  deriving DecidableEq, Repr

inductive SharedBudgetRefusal where
  | emptySessionId
  | reservedSessionScope
  | invalidAgentId
  | unsupportedProvider
  | invalidAmount
  | amountTooLarge
  | invalidIdempotencyKey
  | invalidEventTime
  | keyConflict
  | poolUnitMismatch
  | gatewayMetered
  | noSettledLane
  | eventBeforeRetention
  deriving DecidableEq, Repr

/-- What a transcript call answers with. -/
structure TranscriptPosture where
  reservationId : Option SharedPoolReservationId
  poolId : Option PoolId
  amountChargedUsdCents : Nat
  cumulativeUsdCents : Nat
  alreadyCharged : Bool
  executorKind : ExecutorKind
  remainingUsdCents : Int
  overrunUsdCents : Nat
  usageKnown : Bool
  unmeasured : Bool
  unpriced : Bool
  transcriptUnverified : Bool
  bindingMismatch : Bool
  eventTimeClamped : Bool
  deriving DecidableEq, Repr

/-- What the end of a session answers with. -/
structure TailPosture where
  reservationId : Option SharedPoolReservationId
  poolId : Option PoolId
  amountChargedUsdCents : Nat
  alreadyCharged : Bool
  remainingUsdCents : Int
  overrunUsdCents : Nat
  unmeasured : Bool
  unpriced : Bool
  transcriptUnverified : Bool
  bindingMismatch : Bool
  deriving DecidableEq, Repr

inductive SharedBudgetCheckState where
  | admitted
  | available
  | exhausted
  deriving DecidableEq, Repr

/-- The answer to a request.  Instants are those the source writes as text. -/
inductive SharedBudgetOutcome where
  | notConfigured
  | allowed (reservationId : SharedPoolReservationId) (poolId : PoolId) (holdUsdCents : Nat)
      (holdReused : Bool) (executorKind : ExecutorKind) (remainingUsdCents : Int)
      (periodEnd : OffsetDateTime)
  | gatewayMetered (remainingUsdCents : Int) (periodEnd : OffsetDateTime)
  | denied (reason : SharedBudgetDenyReason) (remainingUsdCents : Option Int)
      (periodEnd : Option OffsetDateTime) (detail : Option String)
  | refused (reason : SharedBudgetRefusal)
  | charged (reservationId : SharedPoolReservationId) (poolId : PoolId) (amountUsdCents : Nat)
      (alreadyCharged : Bool) (executorKind : ExecutorKind) (remainingUsdCents : Int)
      (overrunUsdCents : Nat) (capacityKnown eventTimeClamped : Bool)
  | transcriptCharged (posture : TranscriptPosture)
  | tailSettled (posture : TailPosture)
  | checked (state : SharedBudgetCheckState) (remainingUsdCents : Int) (periodEnd : OffsetDateTime)
  deriving DecidableEq, Repr

inductive SharedBudgetError where
  | ledger (e : LedgerError)
  | internal (what : String)
  | grantCleanupFailed (hold : SharedPoolReservationId) (read cleanup : LedgerError)
  deriving DecidableEq, Repr

abbrev Daemon (α : Type) := Procedure LedgerStore SharedBudgetError α

/-- One ledger transaction; its failure ends the request. -/
def ledger {α : Type} (tx : LedgerStore → Except LedgerError (α × LedgerStore)) : Daemon α :=
  Procedure.transact .ledger tx

theorem ledger_ok {α : Type} {tx : LedgerStore → Except LedgerError (α × LedgerStore)}
    {s s' : LedgerStore} {a : α} (done : tx s = .ok (a, s')) : ledger tx s = (.ok a, s') :=
  Procedure.transact_ok done

theorem ledger_error {α : Type} {tx : LedgerStore → Except LedgerError (α × LedgerStore)}
    {s : LedgerStore} {e : LedgerError} (failed : tx s = .error e) :
    ledger tx s = (.error (.ledger e), s) :=
  Procedure.transact_error failed

/-! ## Periods -/

def holdTtlSecs : Nat := 3600

def poolPrefix : String := "metered:local-budget/monthly-"

def ownerPoolPrefix : String := "metered:local-budget/"

def principal : PrincipalId := localBudgetOwner

structure Period where
  start : OffsetDateTime
  end_ : OffsetDateTime
  poolId : PoolId
  deriving DecidableEq, Repr

def periodAt (cfg : SharedBudgetConfig) (at_ : OffsetDateTime) : Except SharedBudgetError Period :=
  let bounds := calendarMonthBounds at_ cfg.timeZone
  match meteredPoolId principal (monthlyPoolAlias bounds.1 cfg.timeZone) with
  | none => .error (.internal "monthly pool alias is not a valid slug")
  | some poolId => .ok ⟨bounds.1, bounds.2, poolId⟩

/-- Runs `periodAt` inside a request. -/
def periodOf (cfg : SharedBudgetConfig) (at_ : OffsetDateTime) : Daemon Period :=
  match periodAt cfg at_ with
  | .ok period => pure period
  | .error e => .fail e

/-- The latest local-budget pool past the current period. -/
def laterPool (current : Period) : Daemon (Option PoolId) :=
  .read fun s => s.laterPoolThan poolPrefix current.poolId

def source (cfg : SharedBudgetConfig) : CapacitySource := .localConfigured cfg.monthlyCapUsdCents

/-- The only place a local-budget pool is created. -/
def ensurePeriodPool (poolId : PoolId) (cfg : SharedBudgetConfig) (now : OffsetDateTime) :
    Daemon QuotaPool :=
  ledger fun s => s.ensurePool poolId .usdCents cfg.monthlyCapUsdCents now

/-- The remaining figure of a pool; the whole cap when there is no pool yet. -/
def remainingFigure (s : LedgerStore) (poolId : PoolId) (cfg : SharedBudgetConfig)
    (now : OffsetDateTime) : Int :=
  match s.poolAdmissionFor poolId now (source cfg) with
  | some sourced => sourced.admission.remaining
  | none => cfg.monthlyCapUsdCents

def remainingOf (rt : SharedBudgetRuntime) (point : FigureRead) (poolId : PoolId)
    (cfg : SharedBudgetConfig) (now : OffsetDateTime) : Daemon (Except LedgerError Int) :=
  match rt.readFailure point with
  | some e => pure (.error e)
  | none => do
      let remaining ← .read fun s => remainingFigure s poolId cfg now
      return .ok remaining

/-! ## Lanes -/

def claudeProvider : String := "claude-code"

def codexProvider : String := "codex"

def reservedSessionPrefix : String := "execution-owner-v1:"

def providerLanePrefix : String := "shared-budget-provider-v1:"

def isClaudeProvider : Option String → Bool
  | none => true
  | some provider => provider = claudeProvider

def validateIdentity (sessionId : String) (agentId : Option String) :
    Except SharedBudgetRefusal ExecutorKind :=
  if isBlank sessionId then .error .emptySessionId
  else if trimmedStartsWith sessionId reservedSessionPrefix ||
      trimmedStartsWith sessionId providerLanePrefix then .error .reservedSessionScope
  else
    match agentId with
    | some agent => if isBlank agent then .error .invalidAgentId else .ok .agent
    | none => .ok .agentAbsent

/-- The lane key of a session: the session itself, or a derived key for Codex. -/
def budgetLane (sessionId : String) (provider : Option String) :
    Except SharedBudgetRefusal String :=
  match provider with
  | none => .ok sessionId
  | some provider =>
      if provider = claudeProvider then .ok sessionId
      else if provider = codexProvider then
        .ok (providerLanePrefix ++ "[" ++ jsonString codexProvider ++ "," ++
          jsonString sessionId ++ "]")
      else .error .unsupportedProvider

def validateAgent (agentId : Option String) : Except SharedBudgetRefusal Unit :=
  if agentId.any isBlank then .error .invalidAgentId else .ok ()

def validateLaneKey (lane : String) : Except SharedBudgetRefusal Unit :=
  if isBlank lane then .error .emptySessionId else .ok ()

/-- The kind and lane of a client, or the answer that ends the request. -/
def admissionLane (sessionId : String) (agentId provider : Option String) (codexEnrolled : Bool) :
    Except SharedBudgetOutcome (ExecutorKind × String) :=
  match validateIdentity sessionId agentId with
  | .error reason => .error (.refused reason)
  | .ok kind =>
  match budgetLane sessionId provider with
  | .error reason => .error (.refused reason)
  | .ok lane =>
      if provider = some codexProvider ∧ codexEnrolled = false then .error .notConfigured
      else .ok (kind, lane)

def configured : SharedBudgetFileState → Except SharedBudgetOutcome SharedBudgetConfig
  | .absent => .error .notConfigured
  | .invalid reason => .error (.denied .configInvalid none none (some reason))
  | .valid cfg => .ok cfg

def gatewayEnforced : SharedBudgetFileState → Bool
  | .valid cfg => cfg.enforcement = .gateway
  | _ => false

def attributionFor (agentId : Option String) (chargeSource : ChargeSource) : ExecutorAttribution :=
  match agentId with
  | some agent => .agent agent (some chargeSource)
  | none => .mainExecutor (some chargeSource)

def anomaly (later : PoolId) (current : Period) : SharedBudgetOutcome :=
  .denied .clockAnomaly none (some current.end_)
    (some ("pool " ++ later.val ++ " is of a later period than the current " ++
      current.poolId.val))

/-- What `admit` and `check` establish before they touch the ledger. -/
structure GateContext where
  kind : ExecutorKind
  lane : String
  cfg : SharedBudgetConfig
  now : OffsetDateTime
  period : Period

def gateContext (rt : SharedBudgetRuntime) (sessionId : String)
    (agentId provider : Option String) : Daemon (Except SharedBudgetOutcome GateContext) :=
  match rt.state with
  | .absent => pure (.error .notConfigured)
  | state =>
  match admissionLane sessionId agentId provider rt.codexEnrolled with
  | .error outcome => pure (.error outcome)
  | .ok (kind, lane) =>
  match configured state with
  | .error outcome => pure (.error outcome)
  | .ok cfg => do
  let period ← periodOf cfg rt.now
  match ← laterPool period with
  | some later => return .error (anomaly later period)
  | none => return .ok ⟨kind, lane, cfg, rt.now, period⟩

/-! ## Reads write nothing -/

section Keeps

open Procedure

variable {inv : LedgerStore → Prop}

theorem keeps_periodOf (cfg : SharedBudgetConfig) (at_ : OffsetDateTime) :
    Keeps inv (periodOf cfg at_) := by
  unfold periodOf
  split
  · exact Keeps.pure _
  · exact Keeps.fail _

/-- A request that needs a period goes on with it, or fails having written nothing. -/
theorem periodOf_bind {β : Type} {cfg : SharedBudgetConfig} {at_ : OffsetDateTime}
    {next : Period → Daemon β} {post : Except SharedBudgetError β → LedgerStore → Prop}
    (failed : ∀ e s, inv s → post (.error e) s)
    (rest : ∀ period, periodAt cfg at_ = .ok period → Triple inv (next period) post) :
    Triple inv (periodOf cfg at_ >>= next) post := by
  unfold periodOf
  split
  · rename_i period found
    exact rest period found
  · exact fun s holds => failed _ s holds

theorem keeps_laterPool (current : Period) : Keeps inv (laterPool current) := Keeps.read _

theorem keeps_remainingOf (rt : SharedBudgetRuntime) (point : FigureRead) (poolId : PoolId)
    (cfg : SharedBudgetConfig) (now : OffsetDateTime) :
    Keeps inv (remainingOf rt point poolId cfg now) := by
  unfold remainingOf
  split
  · exact Keeps.pure _
  · exact Keeps.bind (Keeps.read _) fun _ => Keeps.pure _

end Keeps

end LibraGovernor
