/-
# LibraGovernor.Daemon.CodexSettle -- a Codex turn settles from its rollout

A Codex `Stop` names its turn.  The hold that accepted the turn settles at the sum of every
turn it accepted; a turn that no hold accepted is charged after the fact.  Then the lane is
recovered: its expired holds settle late by their own turns, and the newest measured hold
is trued up.  What fails in the recovery is skipped.

What reading a rollout gives at the time of the call is an argument (`CodexRollout`).
-/
import LibraGovernor.Daemon.Baseline
import LibraGovernor.Daemon.Settle

namespace LibraGovernor

open Relational Transaction

set_option autoImplicit false

/-- A rollout: the cents of a turn under a price table and a model, and whether the turn has
ended.  A turn that is measured but not priced has no cents. -/
structure CodexRollout where
  measured : PricingTable → (model turnId : String) → Except UsageUnavailable (Option Nat)
  complete : (turnId : String) → Bool

/-- A rollout as a request names it: the model, the path, and what it reads as. -/
structure RolloutSource where
  model : Option String
  path : Option String
  rollout : CodexRollout

inductive UnbookedReason where
  | configInvalid
  | measuredZero
  | alreadyCharged
  | refused
  | notBooked
  deriving DecidableEq, Repr

inductive CodexSettlement where
  | notConfigured
  | notApplicable
  | settled (reservationId : SharedPoolReservationId) (poolId : PoolId)
      (holdUsdCents settledUsdCents : Nat) (usageKnown : Bool) (overrunUsdCents turns : Nat)
      (unmeasuredReason : Option UnmeasuredReason)
  | alreadySettled
  | unadmitted (reservationId : SharedPoolReservationId) (chargedUsdCents : Nat)
      (usageKnown already : Bool) (unmeasuredReason : Option UnmeasuredReason)
  | unbooked (why : UnbookedReason)
  deriving DecidableEq, Repr

/-! ## Measuring -/

def maxCodexHoldTurns : Nat := 16

/-- Adds one turn: its cents, or the first reason a turn has none. -/
def addTurn (priced : String → Except UsageUnavailable (Option Nat))
    (sofar : Nat × Option UnmeasuredReason) (turnId : String) : Nat × Option UnmeasuredReason :=
  match priced turnId with
  | .ok (some cents) => (min (sofar.1 + cents) u64Max, sofar.2)
  | .ok none => (sofar.1, sofar.2.or (some .unpricedModel))
  | .error why => (sofar.1, sofar.2.or (some (unavailableReason why)))

/-- The cents of the turns, when they are all measured or exceed the hold, and why they are
not all measured. -/
def measureCodexTurns (cfg : SharedBudgetConfig) (turnIds : List String) (source : RolloutSource)
    (hold : Nat) : Option Nat × Option UnmeasuredReason :=
  match source.model.filter fun m => (cfg.table.lookup m).isSome with
  | none => (none, some .unpricedModel)
  | some model =>
  match source.path with
  | none => (none, some .noTranscriptPath)
  | some _ =>
  let measured := (turnIds.take maxCodexHoldTurns).foldl
    (addTurn (source.rollout.measured cfg.table model)) (0, none)
  match if maxCodexHoldTurns < turnIds.length then some .scanCapReached else measured.2 with
  | none => (some measured.1, none)
  | some reason => ((some measured.1).filter fun sum => decide (hold < sum), some reason)

/-! ## The hold of a turn -/

def codexAnswer (turns : Nat) (reason : Option UnmeasuredReason) :
    SharedPoolSettleOutcome → CodexSettlement
  | .settled reservation _ overrun =>
      .settled reservation.id reservation.poolId reservation.amount
        (reservation.settledAmount.getD reservation.amount) (reservation.usageKnown.getD false)
        (overrun.getD 0) turns reason
  | .alreadyFinal _ => .alreadySettled
  | .notFound => .alreadySettled

/-- What a hold settles at; an implausible figure settles at the hold. -/
def codexMeasure (cfg : SharedBudgetConfig) (turnIds : List String) (source : RolloutSource)
    (hold : Nat) : Option Nat × Option UnmeasuredReason :=
  let measured := measureCodexTurns cfg turnIds source hold
  if implausibleMeasurement cfg measured.1 then (none, some .implausibleUsage) else measured

/-- Settles a hold by the turns it accepted. -/
def settleCodexHold (rt : SharedBudgetRuntime) (lane turnId : String)
    (holdId : SharedPoolReservationId) (source : RolloutSource) : Daemon CodexSettlement := do
  let holds ← .read fun s => laneHolds s lane
  match holds.find? fun h => h.id = holdId with
  | none => return .alreadySettled
  | some target =>
  if target.settleable = false then return .alreadySettled
  else
  let accepted ← .read fun s => s.promptsForHold principal lane target.id
  let turns := if turnId ∈ accepted then accepted else accepted ++ [turnId]
  if absent rt.state then return .notConfigured
  else
  let measured := match rt.state with
    | .valid cfg => codexMeasure cfg turns source target.amount
    | _ => (none, some .configInvalid)
  let outcome ← ledger fun s => s.settleSharedWithWatermark target.id measured.1 rt.now
    (.mainExecutor (some .turnHold)) none
  return codexAnswer (min turns.length maxCodexHoldTurns) measured.2 outcome

/-! ## A turn without a hold -/

/-- The year of an instant written in UTC. -/
def utcYear (t : OffsetDateTime) : Int := (IanaTimeZone.utc.localMonth t).year

def codexTurnKey (lane turnId : String) : String := "codex-turn:" ++ lp lane ++ "|" ++ lp turnId

def codexCharge (lane turnId : String) (amount : Nat) (measured : Bool) (now : OffsetDateTime) :
    BookedCharge where
  sessionId := lane
  agentId := none
  amountUsdCents := amount
  key := codexTurnKey lane turnId
  chargeSource := .turnHold
  eventTime := some (.instant now (utcYear now))
  usageKnown := measured
  watermark := none

def unadmittedAnswer (amount : Nat) (measured : Bool) (reason : Option UnmeasuredReason) :
    SharedBudgetOutcome → CodexSettlement
  | .charged reservationId _ _ already _ _ _ _ _ =>
      .unadmitted reservationId amount measured already reason
  | .refused .keyConflict => .unbooked .alreadyCharged
  | .refused _ => .unbooked .refused
  | _ => .unbooked .notBooked

/-- Charges a turn that no hold accepted. -/
def chargeUnadmittedCodexTurn (rt : SharedBudgetRuntime) (lane turnId : String)
    (source : RolloutSource) (fresh : SharedPoolReservationId) : Daemon CodexSettlement :=
  match rt.state with
  | .valid cfg =>
      let measured := measureCodexTurns cfg [turnId] source cfg.turnHoldUsdCents
      let amount := measured.1.getD cfg.turnHoldUsdCents
      if amount = 0 then pure (.unbooked .measuredZero)
      else do
        let outcome ← bookCharge rt rt.state
          (codexCharge lane turnId amount measured.1.isSome rt.now) fresh
        return unadmittedAnswer amount measured.1.isSome measured.2 outcome
  | _ => pure (.unbooked .configInvalid)

/-! ## Recovery -/

def maxCodexRecoveriesPerSettle : Nat := 16

/-- A settled hold whose cents were measured. -/
def measuredHold (h : SharedPoolRow) : Bool :=
  decide (h.state = .settled ∧ h.usageKnown = some true) && h.settledAmount.isSome

/-- Keeps the later settled of two holds, then the later created. -/
def settledNewer (row best : SharedPoolRow) : Bool :=
  match best.settledAt, row.settledAt with
  | none, some _ => true
  | some _, none => false
  | none, none => decide (best.createdAt ≤ row.createdAt)
  | some b, some r => decide (b < r ∨ b = r ∧ best.createdAt ≤ row.createdAt)

/-- The lane's newest measured hold. -/
def trueupCandidate (holds : List SharedPoolRow) : Option SharedPoolReservationId :=
  (pick settledNewer (holds.filter measuredHold)).map fun h => h.id

/-- An expired hold that nothing has settled. -/
def orphanedHold (h : SharedPoolRow) : Bool := decide (h.state = .expired ∧ h.settledAmount = none)

/-- Settles the expired holds that have turns, up to the cap. -/
def recoverHolds (rt : SharedBudgetRuntime) (lane : String) (source : RolloutSource) :
    Nat → List SharedPoolRow → Daemon Unit
  | _, [] => pure ()
  | 0, _ => pure ()
  | cap + 1, hold :: rest => do
      let turns ← .read fun s => s.promptsForHold principal lane hold.id
      match turns with
      | [] => recoverHolds rt lane source (cap + 1) rest
      | first :: _ =>
          let _ ← (settleCodexHold rt lane first hold.id source).caught
          recoverHolds rt lane source cap rest

/-- The true-up of a hold: booked by the hold's own creation time. -/
def trueupCharge (lane : String) (hold : SharedPoolRow) (measured delta : Nat) : BookedCharge where
  sessionId := lane
  agentId := none
  amountUsdCents := delta
  key := codexPrefix lane hold.id ++ "c" ++ Nat.repr measured
  chargeSource := .turnHold
  eventTime := some (.instant hold.createdAt (utcYear hold.createdAt))
  usageKnown := true
  watermark := none

/-- Books what a measured hold under-counted, past what was trued up before. -/
def bookTrueup (rt : SharedBudgetRuntime) (cfg : SharedBudgetConfig) (lane : String)
    (hold : SharedPoolRow) (settled measured : Nat) (fresh : SharedPoolReservationId) :
    Daemon Unit := do
  let total ← .read fun s =>
    s.sharedChargesTotalByKeyPrefix principal (codexPrefix lane hold.id) ownerPoolPrefix
  match total with
  | .error e => .fail (.ledger e)
  | .ok prior =>
  let delta := measured - min (settled + prior) u64Max
  if delta = 0 then return ()
  else
  let period ← periodOf cfg hold.createdAt
  if period.poolId ≠ hold.poolId then return ()
  else
  let _ ← bookCharge rt rt.state (trueupCharge lane hold measured delta) fresh
  return ()

/-- Measures a settled hold again, once all its turns have ended. -/
def remeasureHold (rt : SharedBudgetRuntime) (cfg : SharedBudgetConfig) (lane : String)
    (hold : SharedPoolRow) (source : RolloutSource) (fresh : SharedPoolReservationId) :
    Daemon Unit := do
  let turns ← .read fun s => s.promptsForHold principal lane hold.id
  if turns.isEmpty || !turns.all source.rollout.complete then return ()
  else
  match measureCodexTurns cfg turns source hold.amount with
  | (some measured, none) => bookTrueup rt cfg lane hold (hold.settledAmount.getD 0) measured fresh
  | _ => return ()

def trueupCodexHold (rt : SharedBudgetRuntime) (lane : String) (holdId : SharedPoolReservationId)
    (source : RolloutSource) (fresh : SharedPoolReservationId) : Daemon Unit :=
  match rt.state with
  | .valid cfg =>
      if source.model.isNone || source.path.isNone then pure ()
      else do
        let holds ← .read fun s => laneHolds s lane
        match holds.find? fun h => h.id = holdId with
        | none => return ()
        | some hold =>
            if measuredHold hold then remeasureHold rt cfg lane hold source fresh else return ()
  | _ => pure ()

/-- Best effort: a hold that fails is skipped, and the rest still run. -/
def recoverCodexLane (rt : SharedBudgetRuntime) (lane : String)
    (trueupTarget : Option SharedPoolReservationId) (source : RolloutSource)
    (fresh : SharedPoolReservationId) : Daemon Unit := do
  let holds ← .read fun s => laneHolds s lane
  let _ ← recoverHolds rt lane source maxCodexRecoveriesPerSettle (holds.filter orphanedHold)
  match trueupTarget with
  | none => return ()
  | some id =>
      let _ ← (trueupCodexHold rt lane id source fresh).caught
      return ()

/-- What the `Stop` itself settles or charges. -/
def settleOwnTurn (rt : SharedBudgetRuntime) (lane turnId : String) (source : RolloutSource)
    (fresh : SharedPoolReservationId) : Daemon CodexSettlement := do
  match ← .read fun s => s.holdForPrompt principal lane turnId with
  | some holdId => settleCodexHold rt lane turnId holdId source
  | none => chargeUnadmittedCodexTurn rt lane turnId source fresh

/-- The lane key of a client's session. -/
def clientLane (sessionId : String) (provider : Option String) : Except SharedBudgetRefusal String := do
  let _ ← validateIdentity sessionId none
  budgetLane sessionId provider

/-- Settles a Codex turn at `Stop`; the recovery never changes its answer. -/
def settleCodexTurn (rt : SharedBudgetRuntime) (sessionId turnId : String) (source : RolloutSource)
    (fresh trueupFresh : SharedPoolReservationId) : Daemon CodexSettlement :=
  if absent rt.state || !rt.codexEnrolled then pure .notConfigured
  else
  match usablePrompt (some turnId), clientLane sessionId (some codexProvider) with
  | some turnId, .ok lane => do
      let trueupTarget ← .read fun s => trueupCandidate (laneHolds s lane)
      let primary ← (settleOwnTurn rt lane turnId source fresh).caught
      let _ ← recoverCodexLane rt lane trueupTarget source trueupFresh
      .ended primary
  | _, _ => pure .notApplicable

end LibraGovernor
