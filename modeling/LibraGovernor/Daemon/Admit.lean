/-
# LibraGovernor.Daemon.Admit -- a prompt asks for its turn's hold

`admitTurn` (the source's `admit`) renews the lane's live hold or reserves a new one, and binds the prompt to it.  A
lane has one live hold at a time: the sweep and the lookup come first, and a reserve is
reached only when there is none.  A prompt that another hold has accepted is a delayed
replay and is refused before anything is written.

The uuids of new rows and of the keys without a prompt are arguments (`AdmitNonces`).
-/
import LibraGovernor.Daemon.SharedBudget

namespace LibraGovernor

open Relational Transaction

set_option autoImplicit false

/-! ## Keys -/

/-- The idempotency key of a hold: `p` for a prompt the host named, `n` for a nonce. -/
def holdKey (sessionId : String) (agentId : Option String) (tag id : String) : String :=
  "hold:" ++ lp sessionId ++ "|" ++ (agentId.map lp).getD "-" ++ "|" ++ tag ++ lp id

def maxPromptIdBytes : Nat := 256

/-- A prompt id the budget keeps: not blank, and not too long. -/
def usablePrompt (promptId : Option String) : Option String :=
  promptId.filter fun p => !isBlank p && decide (p.utf8ByteSize ≤ maxPromptIdBytes)

structure AdmitNonces where
  key : String
  retryKey : String
  reservation : SharedPoolReservationId
  retryReservation : SharedPoolReservationId
  deriving DecidableEq, Repr

/-! ## The answer to a hold that is granted -/

/-- Answers with the hold.  When even the remaining figure cannot be read, a hold this
call has just created is released first. -/
def allowed (rt : SharedBudgetRuntime) (ctx : GateContext) (hold : SharedPoolReservation)
    (reused : Bool) : Daemon SharedBudgetOutcome :=
  match hold.executorKind with
  | none => .fail (.internal "a granted hold has no executor kind")
  | some kind => do
  match ← remainingOf rt .answer hold.poolId ctx.cfg ctx.now with
  | .ok remaining =>
      return .allowed hold.id hold.poolId hold.amount reused kind remaining ctx.period.end_
  | .error read =>
  if reused then .fail (.ledger read)
  else
  match ← .attempt fun s => s.releaseAndForgetUnstartedShared hold.id ctx.now with
  | .ok _ => .fail (.ledger read)
  | .error cleanup => .fail (.grantCleanupFailed hold.id read cleanup)

/-! ## Reserving -/

/-- The ledger request of a turn's hold. -/
def turnRequest (ctx : GateContext) (agentId : Option String) (key : String) :
    SharedPoolReserveRequest where
  poolId := ctx.period.poolId
  principalId := principal
  sessionId := ctx.lane
  amount := ctx.cfg.turnHoldUsdCents
  unit := .usdCents
  idempotencyKey := key
  now := ctx.now
  ttlSecs := holdTtlSecs
  attribution := attributionFor agentId .turnHold

/-- A replayed reserve handed out a hold this lane can run on. -/
def liveForLane (ctx : GateContext) (agentId : Option String) (hold : SharedPoolReservation) : Bool :=
  decide (hold.state = .active ∧ ctx.now < hold.expiresAt ∧ hold.sessionId = ctx.lane ∧
    hold.agentId = agentId)

/-- Reserves under the first key whose row is not a finished hold. -/
def reserveTurn (rt : SharedBudgetRuntime) (ctx : GateContext) (agentId mainPrompt : Option String) :
    List (String × SharedPoolReservationId) → Daemon SharedBudgetOutcome
  | [] => .fail (.internal "admit retry loop exhausted")
  | (key, fresh) :: rest => do
  let outcome ← .attempt fun s => s.reserveSharedMeteredForPrompt (turnRequest ctx agentId key)
    ⟨none, source ctx.cfg⟩ mainPrompt fresh
  match outcome with
  | .error (.quotaUnitMismatch _ _) => return .refused .poolUnitMismatch
  | .error .sharedPoolKeyConflict => return .refused .keyConflict
  | .error e => .fail (.ledger e)
  | .ok (.granted hold) => allowed rt ctx hold false
  | .ok (.alreadyGranted hold) =>
      if liveForLane ctx agentId hold then allowed rt ctx hold true
      else
      match rest with
      | [] => .fail (.internal "a fresh idempotency key named an existing hold")
      | rest => reserveTurn rt ctx agentId mainPrompt rest
  | .ok (.insufficient admission _) =>
      return .denied .capExhausted (some admission.remaining) (some ctx.period.end_) none
  | .ok .noPool => .fail (.internal "pool missing right after creation")
  | .ok (.snapshotUnusable _) =>
      .fail (.internal "a locally configured cap consulted a provider snapshot or session cap")
  | .ok (.sessionCapExceeded _ _ _) =>
      .fail (.internal "a locally configured cap consulted a provider snapshot or session cap")

/-- The keys an admission tries: the prompt's own or a nonce, then another nonce. -/
def turnKeys (ctx : GateContext) (agentId promptId : Option String) (nonces : AdmitNonces) :
    List (String × SharedPoolReservationId) :=
  let first := match promptId with
    | some prompt => holdKey ctx.lane agentId "p" prompt
    | none => holdKey ctx.lane agentId "n" nonces.key
  [(first, nonces.reservation),
   (holdKey ctx.lane agentId "n" nonces.retryKey, nonces.retryReservation)]

/-! ## Renewing -/

/-- A renewal for another prompt starts another turn, and the pool has to cover it. -/
def anotherTurn (s : LedgerStore) (ctx : GateContext) (existing : SharedPoolRow) :
    Option String → Bool
  | none => false
  | some prompt => decide (s.holdForPrompt principal ctx.lane prompt ≠ some existing.id)

/-- The renewal's own transaction; `none` when the hold could not be renewed. -/
def renewTurn (rt : SharedBudgetRuntime) (ctx : GateContext) (existing : SharedPoolRow)
    (mainPrompt : Option String) : Daemon (Option SharedBudgetOutcome) := do
  match ← ledger fun s => s.renewSharedForPrompt existing.id principal ctx.lane ctx.now holdTtlSecs
    mainPrompt with
  | .renewed hold =>
      let outcome ← allowed rt ctx hold true
      return some outcome
  | .notFound => return none
  | .refused _ => return none

/-- Renews the lane's live hold, after the test a new turn has to pass. -/
def renewLive (rt : SharedBudgetRuntime) (ctx : GateContext) (existing : SharedPoolRow)
    (mainPrompt : Option String) : Daemon (Option SharedBudgetOutcome) := do
  let newTurn ← .read fun s => anotherTurn s ctx existing mainPrompt
  if newTurn then
    match ← remainingOf rt .newTurn ctx.period.poolId ctx.cfg ctx.now with
    | .error e => .fail (.ledger e)
    | .ok remaining =>
    if min (remaining + existing.amount) i64Max < (ctx.cfg.turnHoldUsdCents : Int) then
      return some (.denied .capExhausted (some remaining) (some ctx.period.end_) none)
    else renewTurn rt ctx existing mainPrompt
  else renewTurn rt ctx existing mainPrompt

/-! ## Admission -/

/-- Under the gateway a Claude prompt reserves nothing; the answer is read off. -/
def gatewayAnswer (rt : SharedBudgetRuntime) (ctx : GateContext) (agentId : Option String) :
    Daemon SharedBudgetOutcome := do
  match ← remainingOf rt .gate ctx.period.poolId ctx.cfg ctx.now with
  | .error e => .fail (.ledger e)
  | .ok remaining =>
  if rt.gatewayRun ≠ .governorHeld then
    return .denied .gatewayUnavailable (some remaining) (some ctx.period.end_)
      (some "enforcement=gateway needs a running governor_held gateway")
  else
  let preflip ← .read fun s => s.activeSharedHoldForLane ctx.period.poolId principal
    ⟨ctx.lane, agentId, ctx.kind⟩ ctx.now
  if preflip.isNone ∧ remaining < (ctx.cfg.turnHoldUsdCents : Int) then
    return .denied .capExhausted (some remaining) (some ctx.period.end_) none
  else return .gatewayMetered remaining ctx.period.end_

/-- The prompt was accepted by a hold that is not the lane's live one. -/
def delayedReplay (s : LedgerStore) (ctx : GateContext) (live : Option SharedPoolRow) :
    Option String → Bool
  | none => false
  | some prompt =>
      match s.holdForPrompt principal ctx.lane prompt with
      | none => false
      | some accepted => decide (live.map (fun r => r.id) ≠ some accepted)

/-- Renews or reserves, once the pool is there and the sweep has run. -/
def admitOnLane (rt : SharedBudgetRuntime) (ctx : GateContext) (agentId promptId : Option String)
    (nonces : AdmitNonces) : Daemon SharedBudgetOutcome := do
  -- Only a main lane's prompt is bound: a subagent may carry its parent's.
  let mainPrompt := if agentId.isNone then promptId else none
  let live ← .read fun s => s.activeSharedHoldForLane ctx.period.poolId principal
    ⟨ctx.lane, agentId, ctx.kind⟩ ctx.now
  let replay ← .read fun s => delayedReplay s ctx live mainPrompt
  if replay then return .refused .keyConflict
  else
  match live with
  | none => reserveTurn rt ctx agentId mainPrompt (turnKeys ctx agentId promptId nonces)
  | some existing =>
      match ← renewLive rt ctx existing mainPrompt with
      | some outcome => return outcome
      | none => reserveTurn rt ctx agentId mainPrompt (turnKeys ctx agentId promptId nonces)

def admitTurn (rt : SharedBudgetRuntime) (sessionId : String) (agentId promptId provider : Option String)
    (nonces : AdmitNonces) : Daemon SharedBudgetOutcome := do
  match ← gateContext rt sessionId agentId provider with
  | .error outcome => return outcome
  | .ok ctx =>
  if ctx.cfg.enforcement = .gateway ∧ isClaudeProvider provider then gatewayAnswer rt ctx agentId
  else
  let _ ← ensurePeriodPool ctx.period.poolId ctx.cfg ctx.now
  let _ ← ledger fun s => s.expireStaleSharedPoolReservations ctx.now
  admitOnLane rt ctx agentId (usablePrompt promptId) nonces

end LibraGovernor
