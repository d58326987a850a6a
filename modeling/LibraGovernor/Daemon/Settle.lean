/-
# LibraGovernor.Daemon.Settle -- a turn's hold settles from its transcript

A `Stop` settles the lane's pending hold from the transcript records past the lane's
mark, or at the hold amount when they cannot be measured; the end of a session settles a
hold that no `Stop` has settled, or charges the records past the mark.  Each writes the new
mark with the row it settles.

What reading a transcript gives at the time of the call is an argument (`TranscriptFile`).
-/
import LibraGovernor.Daemon.Admit
import LibraGovernor.Daemon.Charge
import LibraGovernor.Daemon.Transcript

namespace LibraGovernor

open Relational Transaction

set_option autoImplicit false

/-- The lines of a file from the oldest, or why it cannot be read. -/
abbrev TranscriptFile := Except UsageUnavailable (List PricedLine)

/-- Why a window was not, or not fully, measured. -/
inductive UnmeasuredReason where
  | bindingMismatch
  | futureTimestamp
  | transcriptUnverified
  | usageMalformed
  | unpricedModel
  | noTranscriptPath
  | transcriptUnreadable
  | scanCapReached
  | noUsageInWindow
  | transcriptInconsistent
  | configInvalid
  | implausibleUsage
  deriving DecidableEq, Repr

inductive TurnSettlement where
  | notConfigured
  | notApplicable
  | noHold
  | settled (reservationId : SharedPoolReservationId) (poolId : PoolId)
      (holdUsdCents settledUsdCents : Nat) (usageKnown : Bool) (overrunUsdCents : Nat)
      (unmeasuredReason : Option UnmeasuredReason)
  | alreadySettled
  deriving DecidableEq, Repr

/-! ## The lane -/

/-- The main executor's lane of a session. -/
def mainLane (sessionId : String) : Lane := ⟨sessionId, none, .agentAbsent⟩

def laneHolds (s : LedgerStore) (sessionId : String) : List SharedPoolRow :=
  s.sharedLaneHolds principal (mainLane sessionId) ownerPoolPrefix

/-- Keeps the later created of two holds; the one scanned last wins a tie. -/
def newestHold (holds : List SharedPoolRow) : Option SharedPoolRow :=
  pick (fun row best => decide (best.createdAt ≤ row.createdAt)) holds

/-- A hold that a turn can still settle. -/
def unsettled (r : SharedPoolRow) : Bool :=
  match r.state with
  | .active => true
  | .expired => r.settledAmount.isNone
  | _ => false

/-- A hold of a turn, by its source. -/
def turnSource (r : SharedPoolRow) : Bool :=
  decide (r.chargeSource ≠ some .gateway ∧ r.chargeSource ≠ some .subagentTranscript)

/-- The lane's newest hold in any state, when it is still unsettled. -/
def pendingHold (holds : List SharedPoolRow) : Option SharedPoolRow :=
  (newestHold (holds.filter turnSource)).filter unsettled

/-- Where the next window of a lane starts: its mark, else its latest settlement, else its
first hold.  The ids are remembered even without a mark. -/
def laneWindow (s : LedgerStore) (sessionId : String) (holds : List SharedPoolRow) :
    Option (OffsetDateTime × List String) :=
  let mark := s.sharedLaneWatermark principal (mainLane sessionId) ownerPoolPrefix
  let ids := (mark.map SettleWatermark.messageIds).getD []
  match mark.bind SettleWatermark.at_ with
  | some at_ => some (at_, ids)
  | none =>
      let settled := (holds.filter fun h => h.state = .settled).filterMap
        fun h : SharedPoolRow => h.settledAt
      let start := match settled.max? with
        | some at_ => some at_
        | none => (holds.map fun h : SharedPoolRow => h.createdAt).min?
      start.map fun at_ => (at_, ids)

/-- The ids a mark remembers: those before and those counted now, the oldest dropped past
the cap. -/
def mergedIds (previous counted : List String) : List String :=
  let ids := (previous ++ counted).eraseDups
  ids.drop (ids.length - LedgerStore.watermarkIdCap)

/-- The instant of a mark, when its year is one the budget stores. -/
def markInstant (newest : Option Stamp) : Option OffsetDateTime :=
  newest.bind fun ts => if inEventYears ts.year then some ts.at_ else none

/-! ## A window -/

/-- What a window is to settle at. -/
structure WindowMeasure where
  actual : Option Nat
  reason : Option UnmeasuredReason
  watermark : Option SettleWatermark
  deriving DecidableEq, Repr

def unavailableReason : UsageUnavailable → UnmeasuredReason
  | .noTranscriptPath => .noTranscriptPath
  | .unreadable => .transcriptUnreadable
  | .scanCapReached => .scanCapReached
  | .noUsageInWindow => .noUsageInWindow
  | .turnIncomplete => .transcriptInconsistent
  | .inconsistent => .transcriptInconsistent

/-- The figure, the reason and the mark an observation gives a hold of `amount`. -/
def measureOf (previousIds : List String) (amount : Nat) (bookFlat : Bool) :
    PricedObservation → WindowMeasure
  | .priced window =>
      ⟨some window.cents, none,
        some ⟨markInstant window.lastEventTime, mergedIds previousIds window.messageIds⟩⟩
  | .sessionMismatch => ⟨none, some .bindingMismatch, none⟩
  | .futureTimestamp pricedCents newestInBound messageIds =>
      ⟨pricedCents.filter fun cents => !bookFlat || decide (amount < cents), some .futureTimestamp,
        pricedCents.map fun _ => ⟨markInstant newestInBound, mergedIds previousIds messageIds⟩⟩
  | .sessionUnverified => ⟨none, some .transcriptUnverified, none⟩
  | .malformedUsage => ⟨none, some .usageMalformed, none⟩
  | .unpricedModels => ⟨none, some .unpricedModel, none⟩
  | .unavailable why => ⟨none, some (unavailableReason why), none⟩

def plausibleTurnFloorUsdCents : Nat := 100000

/-- Ten months of budget, with an absolute floor. -/
def settlementCeilingUsdCents (monthlyCapUsdCents : Nat) : Nat :=
  max (min (monthlyCapUsdCents * 10) u64Max) plausibleTurnFloorUsdCents

def implausibleMeasurement (cfg : SharedBudgetConfig) (cents : Option Nat) : Bool :=
  cents.any fun cents => decide (settlementCeilingUsdCents cfg.monthlyCapUsdCents < cents)

/-- A transcript as a request names it: a path, and what it reads as. -/
structure TranscriptSource where
  path : Option String
  file : TranscriptFile

def TranscriptSource.observe (source : TranscriptSource) (after : OffsetDateTime)
    (countedIds : List String) (now : OffsetDateTime) (sessionId : String) (table : PricingTable) :
    PricedObservation :=
  match source.path with
  | none => .unavailable .noTranscriptPath
  | some _ =>
      observePriced source.file (.parentWindow after countedIds (now + futureSkew)) sessionId table

/-- What a window settles at; an implausible figure settles at the hold, and its mark still
moves. -/
def windowMeasure (rt : SharedBudgetRuntime) (state : SharedBudgetFileState) (sessionId : String)
    (window : OffsetDateTime × List String) (amount : Nat) (source : TranscriptSource)
    (bookFlat : Bool) : WindowMeasure :=
  match state with
  | .valid cfg =>
      let measure := measureOf window.2 amount bookFlat
        (source.observe window.1 window.2 rt.now sessionId cfg.table)
      if implausibleMeasurement cfg measure.actual then
        { measure with actual := none, reason := some .implausibleUsage }
      else measure
  | _ => ⟨none, some .configInvalid, none⟩

def absent : SharedBudgetFileState → Bool
  | .absent => true
  | _ => false

inductive WindowOutcome where
  | settled (settlement : TurnSettlement)
  | notBooked (reason : Option UnmeasuredReason)
  deriving DecidableEq, Repr

def settledAnswer (reason : Option UnmeasuredReason) : SharedPoolSettleOutcome → TurnSettlement
  | .settled reservation _ overrun =>
      .settled reservation.id reservation.poolId reservation.amount
        (reservation.settledAmount.getD reservation.amount) (reservation.usageKnown.getD false)
        (overrun.getD 0) reason
  | .alreadyFinal _ => .alreadySettled
  | .notFound => .alreadySettled

/-- Settles a hold from the records past the lane's mark.  `bookFlat` settles an unmeasured
window at the hold amount. -/
def settleHoldFromWindow (rt : SharedBudgetRuntime) (state : SharedBudgetFileState)
    (sessionId : String) (holds : List SharedPoolRow) (target : SharedPoolRow)
    (source : TranscriptSource) (bookFlat : Bool) : Daemon WindowOutcome := do
  let window ← .read fun s => (laneWindow s sessionId holds).getD (target.createdAt, [])
  if absent state then return .settled .notConfigured
  else
  let measure := windowMeasure rt state sessionId window target.amount source bookFlat
  if measure.actual.isNone && !bookFlat then return .notBooked measure.reason
  else
  let outcome ← ledger fun s => s.settleSharedWithWatermark target.id measure.actual rt.now
    (.mainExecutor (some .turnHold)) measure.watermark
  return .settled (settledAnswer measure.reason outcome)

/-! ## The gateway's mark -/

/-- The zero-amount charge that moves a routed lane's mark to now. -/
def gatewayMarkCharge (cfg : SharedBudgetConfig) (poolId : PoolId) (sessionId : String)
    (now : OffsetDateTime) : SharedPoolChargeRequest where
  poolId := poolId
  principalId := principal
  sessionId := sessionId
  amount := 0
  unit := .usdCents
  idempotencyKey := "gateway-mark:" ++ lp sessionId ++ "|" ++ toString now
  now := now
  attribution := attributionFor none .turnHold
  capacitySource := source cfg
  usageKnown := true

/-- A routed session's spend is the gateway's: its mark moves past it. -/
def advanceGatewayMark (rt : SharedBudgetRuntime) (cfg : SharedBudgetConfig) (sessionId : String)
    (fresh : SharedPoolReservationId) : Daemon Unit := do
  if startsWith sessionId providerLanePrefix then return ()
  else
  let routed ← sessionIsRouted rt cfg sessionId
  if routed then
    let period ← periodOf cfg rt.now
    let marked ← .attempt fun s => s.chargeSharedWithWatermark
      (gatewayMarkCharge cfg period.poolId sessionId rt.now) (some ⟨some rt.now, []⟩) fresh
    match marked with
    | .ok _ => return ()
    | .error (.quotaUnitMismatch _ _) => return ()
    | .error e => .fail (.ledger e)
  else return ()

/-! ## A Stop -/

/-- A `Stop` for a prompt whose own hold is not the pending one. -/
def replayedStop (s : LedgerStore) (sessionId : String) (holds : List SharedPoolRow) :
    Option String → Bool
  | none => false
  | some prompt =>
      match s.holdForPrompt principal sessionId prompt with
      | some accepted => decide ((pendingHold holds).map (fun h => h.id) ≠ some accepted)
      | none => holds.any fun h =>
          decide (h.state = .settled ∧ h.idempotencyKey = holdKey sessionId none "p" prompt)

/-- Settles the pending hold, if there is one. -/
def settlePending (rt : SharedBudgetRuntime) (sessionId : String) (holds : List SharedPoolRow)
    (source : TranscriptSource) : Daemon TurnSettlement :=
  match pendingHold holds with
  | none => pure .noHold
  | some target => do
      match ← settleHoldFromWindow rt rt.state sessionId holds target source true with
      | .settled settlement => return settlement
      | .notBooked _ => return .noHold

/-- Settles the session's main turn at `Stop`; `sessionId` is the lane key. -/
def settleTurn (rt : SharedBudgetRuntime) (sessionId : String) (source : TranscriptSource)
    (promptId : Option String) (fresh : SharedPoolReservationId) : Daemon TurnSettlement :=
  match rt.state with
  | .absent => pure .notConfigured
  | state =>
  match validateLaneKey sessionId with
  | .error _ => pure .notApplicable
  | .ok () => do
  let holds ← .read fun s => laneHolds s sessionId
  let replay ← .read fun s => replayedStop s sessionId holds (usablePrompt promptId)
  if replay then return .alreadySettled
  else
  let settlement ← settlePending rt sessionId holds source
  match state with
  | .valid cfg =>
      if cfg.enforcement = .gateway then
        let _ ← advanceGatewayMark rt cfg sessionId fresh
        return settlement
      else return settlement
  | _ => return settlement

/-! ## The end of a session -/

structure TailFlags where
  unmeasured : Bool := false
  unpriced : Bool := false
  unverified : Bool := false
  mismatch : Bool := false
  deriving DecidableEq, Repr

def tailFlagsFor : Option UnmeasuredReason → TailFlags
  | none => {}
  | some .bindingMismatch => { mismatch := true, unmeasured := true }
  | some .transcriptUnverified => { unverified := true, unmeasured := true }
  | some .unpricedModel => { unpriced := true, unmeasured := true }
  | some _ => { unmeasured := true }

def tailPosture (cfg : SharedBudgetConfig) (admission : Option SourcedAdmission) (flags : TailFlags)
    (row : Option (SharedPoolReservationId × PoolId)) (charged : Nat) (already : Bool) : TailPosture where
  reservationId := row.map Prod.fst
  poolId := row.map Prod.snd
  amountChargedUsdCents := charged
  alreadyCharged := already
  remainingUsdCents := (admission.map fun a => a.admission.remaining).getD cfg.monthlyCapUsdCents
  overrunUsdCents := (admission.map fun a => a.admission.overrun).getD 0
  unmeasured := flags.unmeasured
  unpriced := flags.unpriced
  transcriptUnverified := flags.unverified
  bindingMismatch := flags.mismatch

/-- The flags of a tail that books nothing. -/
def tailFlagsOf : PricedObservation → TailFlags
  | .priced _ => {}
  | .unavailable .noUsageInWindow => {}
  | .sessionMismatch => { mismatch := true }
  | .sessionUnverified => { unverified := true, unmeasured := true }
  | .unpricedModels => { unpriced := true, unmeasured := true }
  | .futureTimestamp _ _ _ => { unmeasured := true }
  | .malformedUsage => { unmeasured := true }
  | .unavailable _ => { unmeasured := true }

def tailKey (rfc : OffsetDateTime → String) (sessionId : String) (after last : OffsetDateTime) :
    String :=
  "tail:" ++ lp sessionId ++ "|" ++ rfc after ++ "|" ++ rfc last

/-- The charge of a tail. -/
def tailCharge (rfc : OffsetDateTime → String) (sessionId : String)
    (window : OffsetDateTime × List String) (priced : PricedWindow) (last : Stamp) :
    BookedCharge where
  sessionId := sessionId
  agentId := none
  amountUsdCents := priced.cents
  key := tailKey rfc sessionId window.1 last.at_
  chargeSource := .turnHold
  eventTime := some (.instant last.at_ last.year)
  usageKnown := true
  watermark := some ⟨some last.at_, mergedIds window.2 priced.messageIds⟩

/-- A tail's charge, as its answer says it; any other answer is passed on. -/
def tailAnswer : SharedBudgetOutcome → SharedBudgetOutcome
  | .charged reservationId poolId amount already _ remaining overrun _ _ =>
      .tailSettled
        { reservationId := some reservationId
          poolId := some poolId
          amountChargedUsdCents := if already then 0 else amount
          alreadyCharged := already
          remainingUsdCents := remaining
          overrunUsdCents := overrun
          unmeasured := false
          unpriced := false
          transcriptUnverified := false
          bindingMismatch := false }
  | other => other

/-- Charges the records past the mark. -/
def chargeTail (rfc : OffsetDateTime → String) (rt : SharedBudgetRuntime) (cfg : SharedBudgetConfig)
    (sessionId : String) (admission : Option SourcedAdmission)
    (window : OffsetDateTime × List String) (observation : PricedObservation)
    (fresh : SharedPoolReservationId) : Daemon SharedBudgetOutcome :=
  match observation with
  | .priced priced =>
      match priced.lastEventTime.filter (fun ts => inEventYears ts.year) with
      | none => pure (.tailSettled (tailPosture cfg admission {} none 0 false))
      | some last =>
      if priced.cents = 0 then pure (.tailSettled (tailPosture cfg admission {} none 0 false))
      else do
        let outcome ← bookCharge rt rt.state (tailCharge rfc sessionId window priced last) fresh
        return tailAnswer outcome
  | other => pure (.tailSettled (tailPosture cfg admission (tailFlagsOf other) none 0 false))

/-- The tail of a lane with no pending hold. -/
def tailPastMark (rfc : OffsetDateTime → String) (rt : SharedBudgetRuntime)
    (cfg : SharedBudgetConfig) (sessionId : String) (admission : Option SourcedAdmission)
    (holds : List SharedPoolRow) (path : String) (file : TranscriptFile)
    (fresh : SharedPoolReservationId) : Daemon SharedBudgetOutcome := do
  let mark ← .read fun s => s.sharedLaneWatermark principal (mainLane sessionId) ownerPoolPrefix
  if (mark.bind SettleWatermark.at_).isNone && !holds.any (fun h => h.state = .settled) then
    return .refused .noSettledLane
  else
  let window ← .read fun s => laneWindow s sessionId holds
  match window with
  | none => .fail (.internal "a settled lane has no hold")
  | some window =>
      if !startsWith path "/" then
        pure (.tailSettled (tailPosture cfg admission { unmeasured := true } none 0 false))
      else
        chargeTail rfc rt cfg sessionId admission window
          (observePriced file (.parentWindow window.1 window.2 (rt.now + futureSkew)) sessionId
            cfg.table) fresh

/-- Settles the lane's pending hold as its `Stop` would have, if there is one; the amount of
an expired hold is booked only when it is measured. -/
def settlePendingTail (rt : SharedBudgetRuntime) (sessionId path : String) (file : TranscriptFile)
    (holds : List SharedPoolRow) : Daemon (Option WindowOutcome) :=
  match pendingHold holds with
  | none => pure none
  | some target => do
      let outcome ← settleHoldFromWindow rt rt.state sessionId holds target
        ⟨if isBlank path then none else some path, file⟩
        (decide (target.state = .active ∧ rt.now < target.expiresAt))
      return some outcome

/-- Settles the end of a session on its lane. -/
def settleTailOnLane (rfc : OffsetDateTime → String) (rt : SharedBudgetRuntime)
    (sessionId path : String) (file : TranscriptFile) (fresh : SharedPoolReservationId) : Daemon SharedBudgetOutcome :=
  match rt.state with
  | .absent => pure .notConfigured
  | state =>
  match validateLaneKey sessionId with
  | .error reason => pure (.refused reason)
  | .ok () =>
  match configured state with
  | .error outcome => pure outcome
  | .ok cfg => do
  let period ← periodOf cfg rt.now
  let admission ← .read fun s => s.poolAdmissionFor period.poolId rt.now (source cfg)
  let holds ← .read fun s => laneHolds s sessionId
  let pending ← settlePendingTail rt sessionId path file holds
  match pending with
  | some (.settled (.settled reservationId poolId _ settled _ _ reason)) =>
      let after ← .read fun s => s.poolAdmissionFor period.poolId rt.now (source cfg)
      return .tailSettled (tailPosture cfg after (tailFlagsFor reason) (some (reservationId, poolId))
        settled false)
  | some (.notBooked reason) =>
      return .tailSettled (tailPosture cfg admission (tailFlagsFor reason) none 0 false)
  | _ =>
  if cfg.enforcement = .gateway then
    let _ ← advanceGatewayMark rt cfg sessionId fresh
    return .refused .gatewayMetered
  else tailPastMark rfc rt cfg sessionId admission holds path file fresh

/-- A client's end of a session; a Codex lane stays inert. -/
def settleTail (rfc : OffsetDateTime → String) (rt : SharedBudgetRuntime) (sessionId path : String)
    (provider : Option String) (file : TranscriptFile) (fresh : SharedPoolReservationId) :
    Daemon SharedBudgetOutcome :=
  match rt.state with
  | .absent => pure .notConfigured
  | _ =>
  match admissionLane sessionId none provider false with
  | .error outcome => pure outcome
  | .ok (_, lane) => settleTailOnLane rfc rt lane path file fresh

/-! ## Heartbeat -/

/-- Renews each hold it is given; the count of those renewed. -/
def renewEach (sessionId : String) (now : OffsetDateTime) : List SharedPoolRow → Daemon Nat
  | [] => pure 0
  | hold :: rest => do
      let renewed ← ledger fun s => s.renewShared hold.id principal sessionId now holdTtlSecs
      let more ← renewEach sessionId now rest
      return match renewed with
        | .renewed _ => more + 1
        | _ => more

/-- A tool event keeps the session's live holds of the current period alive. -/
def heartbeat (rt : SharedBudgetRuntime) (sessionId : String) : Daemon Nat :=
  match rt.state with
  | .valid cfg =>
      match validateLaneKey sessionId with
      | .error _ => pure 0
      | .ok () => do
          let period ← periodOf cfg rt.now
          let holds ← .read fun s =>
            s.activeSharedHoldsForSession principal sessionId ownerPoolPrefix rt.now
          renewEach sessionId rt.now (holds.filter fun h => h.poolId = period.poolId)
  | _ => pure 0

end LibraGovernor
