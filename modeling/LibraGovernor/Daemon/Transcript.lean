/-
# LibraGovernor.Daemon.Transcript -- cumulative charging of a subagent's transcript

A subagent's file is priced as a whole on every call, and only what is not yet charged
for its family is booked.  Nothing stores the running total: it is the sum of the rows
under the family's key prefix, plus the largest `g<N>` mark, which records how much of
the file the gateway has metered.  Under the gateway a call books nothing and, for a
routed session, moves that mark.

How a file is read and priced is a parameter of the call (`TranscriptCall.read`), and so
is the hash that names a subagent without an id (`sha256Hex`).
-/
import LibraGovernor.Daemon.Charge
import LibraGovernor.Usage.Priced

namespace LibraGovernor

open Relational Transaction

set_option autoImplicit false

/-! ## Keys -/

/-- A number without its optional plus sign. -/
def unsigned : List Char → List Char
  | '+' :: rest => rest
  | text => text

/-- `str::parse::<u64>`. -/
def parseU64 (text : List Char) : Option Nat :=
  if unsigned text ≠ [] ∧ (unsigned text).all Char.isDigit = true ∧
      digitsValue (unsigned text) ≤ u64Max then
    some (digitsValue (unsigned text))
  else none

/-- The family of a subagent: its id, or the hash of its transcript's path. -/
def transcriptFamily (sha256Hex : String → String) (agentId : Option String) (path : String) :
    String :=
  match agentId with
  | some agent => "agent:" ++ agent
  | none => "path-sha256:" ++ sha256Hex path

def transcriptPrefix (sessionId family : String) : String :=
  "subagent-transcript:" ++ lp sessionId ++ "|" ++ lp family ++ "|"

/-- The key of a measured charge, of the unmeasured one, and of a gateway mark. -/
def measuredKey (keyPrefix : String) (cumulative : Nat) : String :=
  keyPrefix ++ ("c" ++ Nat.repr cumulative)

def unmeasuredKey (keyPrefix : String) : String := keyPrefix ++ "u"

def markKey (keyPrefix : String) (offset : Nat) : String := keyPrefix ++ ("g" ++ Nat.repr offset)

/-- The `g<N>` figure of a key under a family prefix. -/
def gatewayMark (keyPrefix key : String) : Option Nat :=
  (stripPrefix key (keyPrefix ++ "g")).bind parseU64

/-- The part of a file's cost that the gateway metered and no hook booked. -/
def gatewayMeteredOffset (s : LedgerStore) (keyPrefix : String) : Nat :=
  (((s.sharedChargeKeysByPrefix principal (keyPrefix ++ "g") ownerPoolPrefix).filterMap
    (gatewayMark keyPrefix)).max?).getD 0

/-- What a family has been charged, as a hooks-mode call reads it. -/
def alreadyCharged (s : LedgerStore) (keyPrefix : String) : Except LedgerError Nat := do
  let summed ← s.sharedChargesTotalByKeyPrefix principal keyPrefix ownerPoolPrefix
  return min (summed + gatewayMeteredOffset s keyPrefix) u64Max

/-- What a measurement adds to what a family has been charged. -/
def transcriptDelta (s : LedgerStore) (keyPrefix : String) (cumulative : Nat) :
    Except LedgerError Nat := do
  let already ← alreadyCharged s keyPrefix
  return cumulative - already

/-! ## Observations -/

/-- One call for a subagent's transcript: `read` is what pricing the file gives now, and
`sweep` is set by the sweep of every `Stop`. -/
structure TranscriptCall where
  sessionId : String
  agentId : Option String
  path : String
  read : PricedObservation
  sweep : Bool

namespace TranscriptCall

/-- Only an absolute path is read at all. -/
def observation (call : TranscriptCall) : PricedObservation :=
  if isBlank call.path || !startsWith call.path "/" then .unavailable .noTranscriptPath
  else call.read

def measured (call : TranscriptCall) : Option PricedWindow :=
  match call.observation with
  | .priced window => some window
  | _ => none

/-- A sweep passes over a file with nothing measurable yet. -/
def skipped (call : TranscriptCall) : Bool :=
  call.sweep &&
    match call.observation with
    | .unavailable .noUsageInWindow => true
    | .unavailable .unreadable => true
    | .unavailable .noTranscriptPath => true
    | _ => false

def unpriced (call : TranscriptCall) : Bool :=
  match call.observation with
  | .unpricedModels => true
  | _ => false

def unverified (call : TranscriptCall) : Bool :=
  match call.observation with
  | .sessionUnverified => true
  | _ => false

def mismatch (call : TranscriptCall) : Bool :=
  match call.observation with
  | .sessionMismatch => true
  | _ => false

end TranscriptCall

/-! ## The call -/

def sessionIsRouted (rt : SharedBudgetRuntime) (cfg : SharedBudgetConfig) (sessionId : String) :
    Daemon Bool := do
  let period ← periodOf cfg rt.now
  .read fun s => s.hasGatewayRowForSession period.poolId principal sessionId

/-- The zero-amount row that records how much of a file the gateway metered. -/
def offsetCharge (call : TranscriptCall) (keyPrefix : String) (offset : Nat) : BookedCharge where
  sessionId := call.sessionId
  agentId := call.agentId
  amountUsdCents := 0
  key := markKey keyPrefix offset
  chargeSource := .subagentTranscript
  eventTime := none
  usageKnown := true
  watermark := none

/-- Records the mark of a file; a pool in another unit is passed over. -/
def markOffset (rt : SharedBudgetRuntime) (cfg : SharedBudgetConfig) (call : TranscriptCall)
    (keyPrefix : String) (offset : Nat) (fresh : SharedPoolReservationId) : Daemon Unit := do
  let period ← periodOf cfg rt.now
  let marked ← .attempt fun s => s.chargeSharedWithWatermark
    (chargeRequest (offsetCharge call keyPrefix offset) period.poolId cfg rt.now) none fresh
  match marked with
  | .ok _ => return ()
  | .error (.quotaUnitMismatch _ _) => return ()
  | .error e => .fail (.ledger e)

/-- Gateway mode: moves the mark of a routed session. -/
def recordGatewayOffset (rt : SharedBudgetRuntime) (cfg : SharedBudgetConfig)
    (call : TranscriptCall) (keyPrefix : String) (summed : Nat) (window : PricedWindow)
    (fresh : SharedPoolReservationId) : Daemon Unit := do
  let offset := window.cents - summed
  let recorded ← .read fun s => gatewayMeteredOffset s keyPrefix
  if recorded < offset then
    let routed ← sessionIsRouted rt cfg call.sessionId
    if routed then markOffset rt cfg call keyPrefix offset fresh else return ()
  else return ()

/-- What a hooks-mode call books: the part of a measurement not yet charged, or the
fallback, once, for a file that cannot be measured. -/
def transcriptCharge (cfg : SharedBudgetConfig) (call : TranscriptCall) (keyPrefix : String)
    (already : Nat) : BookedCharge where
  sessionId := call.sessionId
  agentId := call.agentId
  amountUsdCents :=
    match call.measured with
    | some window => window.cents - already
    | none =>
        if already = 0 then cfg.subagentUnmeasuredChargeUsdCents.getD cfg.turnHoldUsdCents else 0
  key :=
    match call.measured with
    | some window => measuredKey keyPrefix window.cents
    | none => unmeasuredKey keyPrefix
  chargeSource := .subagentTranscript
  eventTime := (call.measured.bind PricedWindow.lastEventTime).bind fun last =>
    if inEventYears last.year then some (.instant last.at_ last.year) else none
  usageKnown := call.measured.isSome
  watermark := none

/-- Nothing new to book: the posture, without writing. -/
def transcriptPosture (rt : SharedBudgetRuntime) (cfg : SharedBudgetConfig) (call : TranscriptCall)
    (executorKind : ExecutorKind) (already : Nat) : Daemon SharedBudgetOutcome := do
  let period ← periodOf cfg rt.now
  let admission ← .read fun s => s.poolAdmissionFor period.poolId rt.now (source cfg)
  return (.transcriptCharged
    { reservationId := none
      poolId := none
      amountChargedUsdCents := 0
      cumulativeUsdCents := already
      alreadyCharged := true
      executorKind
      remainingUsdCents :=
        (admission.map fun a => a.admission.remaining).getD cfg.monthlyCapUsdCents
      overrunUsdCents := (admission.map fun a => a.admission.overrun).getD 0
      usageKnown := call.measured.isSome
      unmeasured := !call.measured.isSome
      unpriced := call.unpriced
      transcriptUnverified := call.unverified
      bindingMismatch := call.mismatch
      eventTimeClamped := false })

/-- The answer to a booked transcript charge; any other answer is passed on. -/
def transcriptAnswer (call : TranscriptCall) (already : Nat) : SharedBudgetOutcome → SharedBudgetOutcome
  | .charged reservationId poolId amount before kind remaining overrun _ clamped =>
      .transcriptCharged
        { reservationId := some reservationId
          poolId := some poolId
          amountChargedUsdCents := if before then 0 else amount
          cumulativeUsdCents := if before then already else min (already + amount) u64Max
          alreadyCharged := before
          executorKind := kind
          remainingUsdCents := remaining
          overrunUsdCents := overrun
          usageKnown := call.measured.isSome
          unmeasured := !call.measured.isSome
          unpriced := call.unpriced
          transcriptUnverified := call.unverified
          bindingMismatch := call.mismatch
          eventTimeClamped := clamped }
  | other => other

/-- Hooks mode: books what is not yet charged. -/
def chargeTranscriptHooks (rt : SharedBudgetRuntime) (state : SharedBudgetFileState)
    (cfg : SharedBudgetConfig) (call : TranscriptCall) (executorKind : ExecutorKind)
    (keyPrefix : String) (summed : Nat) (fresh : SharedPoolReservationId) :
    Daemon SharedBudgetOutcome := do
  let offset ← .read fun s => gatewayMeteredOffset s keyPrefix
  let already := min (summed + offset) u64Max
  let charge := transcriptCharge cfg call keyPrefix already
  if charge.amountUsdCents = 0 then transcriptPosture rt cfg call executorKind already
  else
  let outcome ← bookCharge rt state charge fresh
  return transcriptAnswer call already outcome

/-- The shared body of a subagent charge and of the sweep.  `none` is a sweep that
passed over the file. -/
def chargeTranscriptInner (sha256Hex : String → String) (rt : SharedBudgetRuntime)
    (state : SharedBudgetFileState) (call : TranscriptCall) (fresh : SharedPoolReservationId) :
    Daemon (Option SharedBudgetOutcome) :=
  match state with
  | .absent => pure (some .notConfigured)
  | state =>
  match validateIdentity call.sessionId call.agentId with
  | .error reason => pure (some (.refused reason))
  | .ok kind =>
  match configured state with
  | .error outcome => pure (some outcome)
  | .ok cfg =>
  if call.skipped then pure none
  else do
  let executorKind := if kind = .agentAbsent then .unattributed else kind
  let keyPrefix := transcriptPrefix call.sessionId
    (transcriptFamily sha256Hex call.agentId call.path)
  match ← .read fun s => s.sharedChargesTotalByKeyPrefix principal keyPrefix ownerPoolPrefix with
  | .error e => .fail (.ledger e)
  | .ok summed =>
  if cfg.enforcement = .gateway then
    match call.measured with
    | none => return some (.refused .gatewayMetered)
    | some window =>
        let _ ← recordGatewayOffset rt cfg call keyPrefix summed window fresh
        return some (.refused .gatewayMetered)
  else
  let outcome ← chargeTranscriptHooks rt state cfg call executorKind keyPrefix summed fresh
  return some outcome

/-- A client's call; a sweep's `none` never reaches it. -/
def chargeAgentTranscript (sha256Hex : String → String) (rt : SharedBudgetRuntime)
    (call : TranscriptCall) (fresh : SharedPoolReservationId) : Daemon SharedBudgetOutcome := do
  let outcome ← chargeTranscriptInner sha256Hex rt rt.state { call with sweep := false } fresh
  return outcome.getD .notConfigured

end LibraGovernor
