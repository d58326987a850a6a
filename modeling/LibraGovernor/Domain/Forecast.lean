/-
# LibraGovernor.Domain.Forecast -- the earliest instant every window admits a task

The need of a task is one figure for all windows of its unit (`computeTaskNeed`).  It is
added to a window's outstanding holds as one more, and the window is evaluated as it always is
(`checkWindow`); a window that blocks says when it stops.  `earliestSafeAdmit` walks from one
such instant to the next until every window admits, at most `maxProbeSteps` times.
-/
import LibraGovernor.Domain.Pacing

namespace LibraGovernor

open Scan

set_option autoImplicit false

/-! ## Ids of what is injected -/

/-- A tag mixed into the first and the last byte. -/
def syntheticUuid (source : BitVec 128) (tag : BitVec 8) : BitVec 128 :=
  source ^^^ (tag.setWidth 128 <<< 120) ^^^ tag.setWidth 128

def syntheticNeedTag : BitVec 8 := 0xA5

/-! ## Requests and answers -/

structure PendingHold where
  id : ReservationId
  amount : QuotaAmount
  deriving DecidableEq, Repr

/-- One window with its evidence. -/
structure WindowInput where
  window : QuotaWindow
  usage : List QuotaUsage
  pending : List PendingHold
  snapshots : List ProviderSnapshot

inductive ForecastMode where
  | sustain (continuityReserveBp : Nat)
  | burst
  deriving DecidableEq, Repr

inductive PacingUnavailableReason where
  | windowIndeterminate (window : QuotaWindowId) (reason : IndeterminateReason)
  | noEstimateInWindowUnit (window : QuotaWindowId)
  | estimateInsufficient
  | belowMinConfidence
  | providerDeclaredReliefOnly
  | reliefUnknown
  | probeBudgetExhausted
  | beyondHorizon
  | needExceedsWindowLimit (window : QuotaWindowId)
  | noProjectedRelief (window : QuotaWindowId)
  | pastDeadline
  | pastTargetEnd
  | nonAdvancingRelief (window : QuotaWindowId)
  deriving DecidableEq, Repr

inductive PacingCause where
  | spacing
  | workingHours
  deriving DecidableEq, Repr

inductive NextAdmit where
  | now
  | at_ (instant : OffsetDateTime) (limiting : QuotaWindowId)
  | paced (instant : OffsetDateTime) (cause : PacingCause)
  | unavailable (reason : PacingUnavailableReason)
  deriving DecidableEq, Repr

inductive PacingWindowOutcome where
  | admit_
  | blockedAt (instant : OffsetDateTime)
  | unavailable (reason : PacingUnavailableReason)
  deriving DecidableEq, Repr

def maxProbeSteps : Nat := 64

/-! ## The need of a task -/

/-- A product in `u128`, which stops at its end. -/
def satMulU128 (x y : Nat) : Nat := min (x * y) (2 ^ 128 - 1)

/-- `u64::try_from(x).unwrap_or(u64::MAX)`. -/
def toU64 (x : Nat) : Nat := min x u64Max

def resourceKindForUnit : QuotaUnit → Option ResourceKind
  | .usdCents => some .usd
  | .tokens => some .tokens
  | .percent => some .quotaPercent
  | .requests => none
  | .opaqueCredit _ => none

/-- `QuotaAmount::try_from`; a percentage to the nearest basis point, its hundredth. -/
def QuotaAmount.ofResource (a : ResourceAmount) : Option QuotaAmount :=
  if a.value < 0 then none
  else
    match a.kind with
    | .usd => some ⟨.usdCents, a.value.toNat⟩
    | .tokens => some ⟨.tokens, a.value.toNat⟩
    | .quotaPercent => some ⟨.percent, (a.value.toNat + 5000) / 10000⟩

def resourceAmountToQuotaAmount (a : ResourceAmount) (unit : QuotaUnit) : Option QuotaAmount :=
  (QuotaAmount.ofResource a).filter fun converted => converted.unit = unit

namespace QuotaWindow

def isGauge (w : QuotaWindow) : Bool := w.kind.isGauge

def limitOrCapacity (w : QuotaWindow) : Option Nat :=
  match w.kind with
  | .fixedAligned _ _ limit => some limit
  | .sliding _ limit => some limit
  | .refillBucket capacity _ _ _ _ => some capacity
  | .opaqueProviderSnapshot _ => none

end QuotaWindow

/-- The windows that count in the estimate's kind. -/
def matchingWindows (windows : List QuotaWindow) (kind : ResourceKind) : List QuotaWindow :=
  windows.filter fun w => w.isGauge = false ∧ resourceKindForUnit w.unit = some kind

/-- The first of the smallest limits, and whose it is. -/
def smallestLimit (windows : List QuotaWindow) : Option (Nat × QuotaWindowId) :=
  best (fun x kept => decide (x.1 < kept.1))
    (windows.filterMap fun w => w.limitOrCapacity.map fun limit => (limit, w.id))

/-- The backoff ratio, in `u128`. -/
def scaledNeed (need backoffNumerator backoffDenominator : Nat) : Nat :=
  toU64 (satMulU128 need (max backoffNumerator 1) / max backoffDenominator 1)

/-- One figure for the task: the estimate, at least the completion reserve, scaled by the
backoff, and below the smallest limit. -/
def computeTaskNeed (windows : List QuotaWindow) (estimate : RemainingWorkEstimate)
    (contract : Option CompletionContract) (estimateForReserve : Option Estimate)
    (policy : AdmissionPolicy) (backoffNumerator backoffDenominator : Nat) :
    Except PacingUnavailableReason (Option QuotaAmount) :=
  match estimate.resource with
  | .unavailable _ => .error .estimateInsufficient
  | .insufficient _ _ => .error .estimateInsufficient
  | .quantiles kind p90 =>
  match matchingWindows windows kind with
  | [] => .ok none
  | first :: others =>
  match resourceAmountToQuotaAmount p90 first.unit with
  | none => .error (.noEstimateInWindowUnit first.id)
  | some base =>
  let floored :=
    match contract with
    | none => base.value
    | some contract =>
        let reserve := (completionReserveFor contract estimateForReserve policy).amount
        if reserve.kind = kind then
          match resourceAmountToQuotaAmount reserve first.unit with
          | some floor => max base.value floor.value
          | none => base.value
        else base.value
  match smallestLimit (first :: others) with
  | none => .ok (some ⟨first.unit, scaledNeed floored backoffNumerator backoffDenominator⟩)
  | some (limit, limitingWindow) =>
      if limit ≤ floored then .error (.needExceedsWindowLimit limitingWindow)
      else
        let scaled := scaledNeed floored backoffNumerator backoffDenominator
        .ok (some ⟨first.unit, if 0 < limit then min scaled (limit - 1) else scaled⟩)

/-! ## One window -/

/-- The spare headroom SUSTAIN asks of a window, in ten-thousandths of its limit. -/
def continuityAddition (window : QuotaWindow) (mode : ForecastMode) : Nat :=
  match mode with
  | .burst => 0
  | .sustain continuityReserveBp =>
      match window.limitOrCapacity with
      | none => 0
      | some limit => toU64 (satMulU128 limit continuityReserveBp / 10000)

/-- What is injected: the need and the spare headroom, below the window's own limit. -/
def injectedNeed (window : QuotaWindow) (need : Nat) (mode : ForecastMode) : Nat :=
  let inflated := toU64 (need + continuityAddition window mode)
  match window.limitOrCapacity with
  | none => inflated
  | some limit => if 0 < limit then min inflated (limit - 1) else inflated

def extractRelief : WindowState → Relief
  | .period state => state.relief
  | .bucket state => state.relief
  | .gauge state => state.relief

/-- The evidence of a window with one more hold. -/
def WindowInput.withNeed (input : WindowInput) (injected : Nat) : QuotaEvidence where
  usage := input.usage
  holds := (input.pending.map fun p => OutstandingHold.mk p.id p.amount) ++
    [⟨⟨syntheticUuid input.window.id.uuid syntheticNeedTag⟩, ⟨input.window.unit, injected⟩⟩]
  snapshots := input.snapshots

/-- A gauge is asked as it stands: there is nothing to add a need to. -/
def checkGauge (input : WindowInput) (t : OffsetDateTime) : PacingWindowOutcome :=
  let eval := input.window.evaluate ⟨input.usage, [], input.snapshots⟩ t
  match eval.blocking with
  | .notBlocking => .admit_
  | .indeterminate reason => .unavailable (.windowIndeterminate input.window.id reason)
  | .blocking =>
      match extractRelief eval.state with
      | .providerDeclared _ => .unavailable .providerDeclaredReliefOnly
      | _ => .unavailable .reliefUnknown

def checkWindow (input : WindowInput) (need : Option QuotaAmount) (mode : ForecastMode)
    (t : OffsetDateTime) : PacingWindowOutcome :=
  let window := input.window
  if window.isGauge then checkGauge input t
  else
  match need with
  | none => .unavailable (.noEstimateInWindowUnit window.id)
  | some need =>
  if need.unit ≠ window.unit then .unavailable (.noEstimateInWindowUnit window.id)
  else
  let eval := window.evaluate (input.withNeed (injectedNeed window need.value mode)) t
  match eval.blocking with
  | .notBlocking => .admit_
  | .indeterminate reason => .unavailable (.windowIndeterminate window.id reason)
  | .blocking =>
      match extractRelief eval.state with
      | .at_ instant => .blockedAt instant
      | .afterOutstandingHoldsSettle => .unavailable (.noProjectedRelief window.id)
      | .providerDeclared _ => .unavailable .providerDeclaredReliefOnly
      | .unknown => .unavailable .reliefUnknown
      | .notBlocking => .admit_

/-! ## The probe -/

/-- Of two reliefs the later; of equal ones the first. -/
def laterRelief (latest : Option (OffsetDateTime × QuotaWindowId)) (reliefAt : OffsetDateTime)
    (window : QuotaWindowId) : OffsetDateTime × QuotaWindowId :=
  match latest with
  | some (instant, limiting) => if reliefAt ≤ instant then (instant, limiting) else (reliefAt, window)
  | none => (reliefAt, window)

/-- One round over the windows: the latest relief, if any of them blocks. -/
def probeRound (need : Option QuotaAmount) (mode : ForecastMode) (t : OffsetDateTime) :
    Option (OffsetDateTime × QuotaWindowId) → List WindowInput →
      Except PacingUnavailableReason (Option (OffsetDateTime × QuotaWindowId))
  | latest, [] => .ok latest
  | latest, input :: rest =>
      match checkWindow input need mode t with
      | .admit_ => probeRound need mode t latest rest
      | .blockedAt reliefAt =>
          if reliefAt ≤ t then .error (.nonAdvancingRelief input.window.id)
          else probeRound need mode t (some (laterRelief latest reliefAt input.window.id)) rest
      | .unavailable reason => .error reason

def probe (windows : List WindowInput) (need : Option QuotaAmount) (mode : ForecastMode) :
    Nat → OffsetDateTime → Option QuotaWindowId → NextAdmit
  | 0, _, _ => .unavailable .probeBudgetExhausted
  | rounds + 1, t, limitingFromLastRound =>
      match probeRound need mode t none windows with
      | .error reason => .unavailable reason
      | .ok none =>
          match limitingFromLastRound with
          | none => .now
          | some limiting => .at_ t limiting
      | .ok (some (next, limiting)) => probe windows need mode rounds next (some limiting)

def earliestSafeAdmit (windows : List WindowInput) (needEstimate : RemainingWorkEstimate)
    (policy : AdmissionPolicy) (contract : Option CompletionContract)
    (estimateForReserve : Option Estimate) (mode : ForecastMode)
    (backoffNumerator backoffDenominator : Nat) (startAt : OffsetDateTime) : NextAdmit :=
  if needEstimate.confidence.rank < policy.minConfidence.rank then .unavailable .belowMinConfidence
  else
    match computeTaskNeed (windows.map WindowInput.window) needEstimate contract estimateForReserve
        policy backoffNumerator backoffDenominator with
    | .error reason => .unavailable reason
    | .ok need => probe windows need mode maxProbeSteps startAt none

end LibraGovernor
