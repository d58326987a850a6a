/-
# LibraGovernor.Daemon.Legacy -- preflight, tool and finalize handlers of a lane

The three handlers of the legacy route, as scripts over the trajectory: every call into
the ledger that writes is one counted write, so a handler can be cut off between any two
of them.  The preflight publishes its plan as in flight, then gathers what the admission
needs, stores the verdict on the plan and only then reserves; a material tool event
replans and carries the prior verdict along; a finalize settles what the plan still holds
and writes its receipt.

What comes from outside is an argument: the clock, the uuids, the drafted criteria, the
estimates, the business context's deadline, the webhook's verdict and what the transcript
measures.  The shared budget's own settlement and the event outbox touch no table here.
-/
import LibraGovernor.Ledger.Trajectory
import LibraGovernor.Lib.Cut

namespace LibraGovernor

open Transaction

set_option autoImplicit false

inductive DaemonError where
  | ledger (e : TaskLedgerError)
  | policy (e : PolicyEvaluationError)
  | taskNotFound
  deriving DecidableEq, Repr

abbrev Handler (α : Type) : Type := Script Trajectory DaemonError α

namespace Handler

def onLedger {α : Type} (tx : Trajectory → Except LedgerError (α × Trajectory)) : Handler α :=
  Script.write (fun e => .ledger (.ledger e)) tx

def onBudget {α : Type} (tx : TaskLedger → Except TaskLedgerError (α × TaskLedger)) : Handler α :=
  Script.write .ledger (Trajectory.onBudget tx)

end Handler

structure ReplanHysteresisConfig where
  cooldownSecs : Nat := 300
  maxAutoReplans : Nat := 3
  deriving DecidableEq, Repr

structure DaemonConfig where
  policy : AdmissionPolicy
  lifetimeScope : LifetimeScope
  gateway : Bool
  reservationTtlSecs : Nat
  replanHysteresis : ReplanHysteresisConfig

/-! ## Preflight -/

structure PreflightInput where
  lane : String
  now : OffsetDateTime
  criteria : List CompletionCriterion
  features : String
  estimate : Estimate
  /-- The business context's answer, and the deadline in it. -/
  context : Option (Option OffsetDateTime)
  approval : Option ExternalApproval
  taskId : TaskId
  planId : PlanId
  reservationId : ReservationId

structure PreflightResult where
  taskId : TaskId
  planId : PlanId
  decision : PolicyDecision
  reserved : Option TaskLedger.ReserveOutcome

/-- The contract's next revision, or its first. -/
def draftContract (previous : Option CompletionContract) (criteria : List CompletionCriterion) :
    CompletionContract :=
  match previous with
  | some previous => previous.nextRevision criteria
  | none => .first criteria

def resolveOrCreateTaskForSession (sessionId : String) (fresh : TaskId) (now : OffsetDateTime) :
    Handler TaskId := do
  match ← Script.read fun s => s.taskIdForSession sessionId with
  | some existing => return existing
  | none =>
      Handler.onLedger fun s => s.insertTask fresh now
      Handler.onLedger fun s => s.insertSessionTask sessionId fresh now
      return fresh

/-- What a turn is taken to need. -/
def requestedAmount (policy : AdmissionPolicy) (kind : ResourceKind) (estimate : Estimate) :
    ResourceAmount :=
  (estimate.resourceP80.filter fun a => a.kind = kind).getD policy.turnFallbackRequest

/-- The part of a request that the completion reserve does not already hold. -/
def workEnvelope (kind : ResourceKind) (requested : ResourceAmount)
    (reserve : CompletionReserveEstimate) : ResourceAmount :=
  .fromKind kind (max (requested.value - reserve.amount.value) 0)

/-- What a task has spent, holds and was granted, as the snapshot hands it out. -/
structure BudgetFigures where
  used : ResourceAmount
  reserved : ResourceAmount
  granted : ResourceAmount

def budgetFigures (s : Trajectory) (budget : TaskBudget) : BudgetFigures where
  used := .fromKind budget.resourceKind (s.budget.settled budget.taskId)
  reserved := .fromKind budget.resourceKind (s.budget.active budget.taskId)
  granted := .fromKind budget.resourceKind (s.budget.renewedCapacity budget.taskId)

/-- The policy's verdict, before anybody outside is asked. -/
def policyDecision (effective : AdmissionPolicy) (budget : TaskBudget) (figures : BudgetFigures)
    (requested : ResourceAmount) (estimate : Estimate) :
    Except PolicyEvaluationError PolicyDecision := do
  let projected := ResourceAmount.fromKind budget.resourceKind
    (figures.used.value + figures.reserved.value + requested.value)
  let policy := { effective with resource := effective.resource.extendedBy figures.granted }
  let lifetime ← policy.evaluateWith projected (estimate.durationP80Secs.getD 0) estimate.confidence
    (decide (budget.lifetimeScope ≠ .turnScoped))
  let turn ← policy.evaluateTurn requested
  return lifetime.withTurnOutcome turn

/-- The webhook is asked only about a question. -/
def finalDecision (decision : PolicyDecision) (approval : Option ExternalApproval) : PolicyDecision :=
  match decision.admission, approval with
  | .approvalRequired _, some approval => applyExternalApproval decision approval
  | _, _ => decision

/-- The key a plan reserves under. -/
def planKey (planId : PlanId) : String := "plan:" ++ toString planId.uuid.toNat

def planReserve (config : DaemonConfig) (lane : String) (taskId : TaskId) (planId : PlanId)
    (amount : ResourceAmount) (now : OffsetDateTime) : TaskLedger.ReserveRequest where
  taskId := taskId
  sessionId := lane
  planId := some planId
  class_ := .requiredWork
  amount := amount
  idempotencyKey := planKey planId
  now := now
  ttlSecs := config.reservationTtlSecs

/-- The budget is initialised, and on a later preflight its reserve adjusted. -/
def prepareBudget (config : DaemonConfig) (input : PreflightInput) (taskId : TaskId)
    (reserve : CompletionReserveEstimate) (hadBudget : Bool) : Handler TaskBudget := do
  Handler.onBudget fun b =>
    b.initializeTaskBudget taskId config.policy.ledger reserve config.lifetimeScope input.now
  let budget ← Script.read fun s => s.budget.taskBudget taskId
  match budget with
  | none => Script.fail .taskNotFound
  | some budget =>
      if hadBudget then
        let _ ← Handler.onBudget fun b =>
          b.adjustCompletionReserve taskId reserve.amount reserve.basis input.now
        return budget
      else return budget

/-- The verdict is stored, and an admitted plan reserves its envelope. -/
def admitPlan (config : DaemonConfig) (input : PreflightInput) (taskId : TaskId)
    (budget : TaskBudget) (reserve : CompletionReserveEstimate) (decision : PolicyDecision) :
    Handler (Option TaskLedger.ReserveOutcome) := do
  Handler.onLedger fun s => s.setPlanAdmission input.planId decision.admission
  match decision.admission with
  | .admitted =>
      if config.gateway then return none
      else
        let requested := requestedAmount config.policy budget.resourceKind input.estimate
        let outcome ← Handler.onBudget fun b =>
          b.reserve (planReserve config input.lane taskId input.planId
            (workEnvelope budget.resourceKind requested reserve) input.now) input.reservationId
        return some outcome
  | _ => return none

def preflightPlan (input : PreflightInput) (taskId : TaskId) (contract : CompletionContract) :
    ExecutionPlan where
  id := input.planId
  taskId := taskId
  contractRevision := contract.revision
  createdAt := input.now
  estimate := some input.estimate
  taskFeatures := some input.features
  replaces := none
  admission := none

/-- Publishes a plan as the lane's only one in flight. -/
def publishPlan (lane : String) (plan : ExecutionPlan) (now : OffsetDateTime) : Handler Unit := do
  Handler.onLedger fun s => s.insertPlan plan
  Handler.onLedger fun s => s.supersedeInFlightPreflights lane
  Handler.onLedger fun s => s.recordPreflight lane plan.taskId plan.id now

/-- Releases what a plan still holds. -/
def releasePlan (taskId : TaskId) (planId : Option PlanId) (now : OffsetDateTime) : Handler Unit :=
  match planId with
  | none => pure ()
  | some planId => do
      let _ ← Handler.onBudget fun b => b.releaseActiveForPlan taskId planId now
      return ()

/-- The policy, narrowed by the business context if there is one. -/
def effectivePolicy (policy : AdmissionPolicy) (input : PreflightInput) : AdmissionPolicy :=
  match input.context with
  | some deadline => (applyBusinessContext policy deadline input.now).1
  | none => policy

/-- What a preflight has worked out when it comes to store its verdict. -/
structure PreflightVerdict where
  taskId : TaskId
  budget : TaskBudget
  reserve : CompletionReserveEstimate
  decision : PolicyDecision

/-- Publishes the plan and works out its final admission. -/
def decidePlan (config : DaemonConfig) (input : PreflightInput) : Handler PreflightVerdict := do
  let taskId ← resolveOrCreateTaskForSession input.lane input.taskId input.now
  let previousContract ← Script.read fun s => s.latestContract taskId
  let hadBudget ← Script.read fun s => (s.budget.taskBudget taskId).isSome
  let previousPlanId ← Script.read fun s => s.inFlightPlanForSession input.lane
  let contract := draftContract previousContract input.criteria
  Handler.onLedger fun s => s.insertContract taskId contract input.now
  publishPlan input.lane (preflightPlan input taskId contract) input.now
  releasePlan taskId previousPlanId input.now
  let reserve := completionReserveFor contract (some input.estimate) config.policy
  let budget ← prepareBudget config input taskId reserve hadBudget
  let figures ← Script.read fun s => budgetFigures s budget
  let requested := requestedAmount config.policy budget.resourceKind input.estimate
  match policyDecision (effectivePolicy config.policy input) budget figures requested input.estimate with
  | .error e => Script.fail (.policy e)
  | .ok evaluated =>
      return { taskId, budget, reserve, decision := finalDecision evaluated input.approval }

def handlePreflightPreparedForLane (config : DaemonConfig) (input : PreflightInput) :
    Handler PreflightResult := do
  let verdict ← decidePlan config input
  let reserved ← admitPlan config input verdict.taskId verdict.budget verdict.reserve verdict.decision
  return { taskId := verdict.taskId, planId := input.planId, decision := verdict.decision, reserved }

/-- Startup and preflight reconcile stale holds first; a failure there is only logged. -/
def reconcileStaleReservations (now : OffsetDateTime) : Handler Unit := do
  let _ ← Procedure.caught (Handler.onBudget fun b => b.expireStaleReservations now)
  return ()

def handlePreflightForLane (config : DaemonConfig) (input : PreflightInput) (sweepAt : OffsetDateTime) :
    Handler PreflightResult := do
  reconcileStaleReservations sweepAt
  handlePreflightPreparedForLane config input

/-! ## Tool events -/

structure ToolInput where
  lane : String
  toolName : String
  now : OffsetDateTime
  /-- What history says a task of these features typically takes. -/
  typicalToolCalls : Option Nat
  estimate : Estimate
  planId : PlanId
  reservationId : ReservationId

def toolCallCountIsMaterial (actual : Nat) : Option Nat → Bool
  | some typical =>
      if 0 < typical then decide (typical * 2 < actual) else decide (20 < actual)
  | none => decide (20 < actual)

def possibleToolLoop (sameToolStreak : Nat) : Bool := decide (4 ≤ sameToolStreak)

inductive HysteresisOutcome where
  | allow
  | suppressedCooldown
  | escalateApprovalNeeded
  deriving DecidableEq, Repr

def evaluateHysteresis (config : ReplanHysteresisConfig) (state : ReplanHysteresisState)
    (now : OffsetDateTime) : HysteresisOutcome :=
  if config.maxAutoReplans ≤ state.autoReplanCount then .escalateApprovalNeeded
  else
    match state.lastReplanAt with
    | some last =>
        if ((now - last).tdiv OffsetDateTime.nanosPerSecond).toNat < config.cooldownSecs then
          .suppressedCooldown
        else .allow
    | none => .allow

/-- The plan was refused, or waits for approval. -/
def wasNotAdmitted (plan : ExecutionPlan) : Bool :=
  match plan.admission with
  | some (.deny _) => true
  | some (.approvalRequired _) => true
  | _ => false

def replanPlan (input : ToolInput) (prior : ExecutionPlan) : ExecutionPlan where
  id := input.planId
  taskId := prior.taskId
  contractRevision := prior.contractRevision
  createdAt := input.now
  estimate := some input.estimate
  taskFeatures := prior.taskFeatures
  replaces := some prior.id
  admission := prior.admission

/-- The reserve of the recomputed envelope. -/
def replanReserve (config : DaemonConfig) (input : ToolInput) (taskId : TaskId) (prior : ExecutionPlan)
    (reserve : CompletionReserveEstimate) : Handler Unit := do
  let budget ← Script.read fun s => s.budget.taskBudget taskId
  match budget with
  | none => return ()
  | some budget =>
      if wasNotAdmitted prior then return ()
      else if config.gateway then return ()
      else
        let requested := requestedAmount config.policy budget.resourceKind input.estimate
        let _ ← Handler.onBudget fun b =>
          b.reserve (planReserve config input.lane taskId input.planId
            (workEnvelope budget.resourceKind requested reserve) input.now) input.reservationId
        return ()

/-- The reserve of the new plan is adjusted, and its envelope reserved. -/
def replanBudget (config : DaemonConfig) (input : ToolInput) (taskId : TaskId) (prior : ExecutionPlan) :
    Handler Unit := do
  match ← Script.read fun s => s.latestContract taskId with
  | none => return ()
  | some contract =>
      let reserve := completionReserveFor contract (some input.estimate) config.policy
      let _ ← Handler.onBudget fun b =>
        b.adjustCompletionReserve taskId reserve.amount reserve.basis input.now
      replanReserve config input taskId prior reserve

/-- Replaces the plan in flight by one for the remaining work. -/
def replan (config : DaemonConfig) (input : ToolInput) (taskId : TaskId) (plan : ExecutionPlan)
    (totalToolCalls : Nat) : Handler Unit := do
  publishPlan input.lane (replanPlan input plan) input.now
  releasePlan taskId (some plan.id) input.now
  replanBudget config input taskId plan
  Handler.onLedger fun s => s.recordReplanForTask taskId input.now totalToolCalls
  Handler.onLedger fun s => s.resetToolStreak input.lane

/-- The lane's task and the plan it has in flight. -/
def laneInFlight (s : Trajectory) (lane : String) : Option (TaskId × ExecutionPlan) :=
  match s.taskIdForSession lane, (s.inFlightPlanForSession lane).bind s.getPlan with
  | some taskId, some plan => some (taskId, plan)
  | _, _ => none

def handleToolInvokedForLane (config : DaemonConfig) (input : ToolInput) : Handler Unit := do
  Handler.onLedger fun s => s.incrementToolCallCount input.lane
  let streak ← Handler.onLedger fun s => s.recordToolInvocation input.lane input.toolName input.now
  match ← Script.read fun s => laneInFlight s input.lane with
  | none => return ()
  | some (taskId, plan) =>
  if plan.taskFeatures = none then return ()
  else
  let total ← Script.read fun s => s.toolCallCountForSession input.lane
  let state ← Script.read fun s => s.replanStateForTask taskId
  let material := toolCallCountIsMaterial (total - state.toolCallCountAtLastReplan)
    input.typicalToolCalls
  if possibleToolLoop streak || material then
    match evaluateHysteresis config.replanHysteresis state input.now with
    | .allow => replan config input taskId plan total
    | _ => return ()
  else return ()

/-! ## Finalize -/

structure FinalizeInput where
  sessionId : String
  lane : String
  now : OffsetDateTime
  /-- The fresh tokens measured since an instant. -/
  observe : OffsetDateTime → Option Nat

inductive FinalizeOutcome where
  | noActiveTask
  | finalized (receipt : ExecutionReceipt)
  deriving DecidableEq, Repr

/-- Settles each hold in turn; a measurement is only offered to a hold in tokens. -/
def settleEach (attributable : Option Nat) (now : OffsetDateTime) : List Reservation → Handler Unit
  | [] => pure ()
  | r :: rest => do
      let actual := (attributable.filter fun _ => r.resourceKind = .tokens).map fun tokens =>
        (⟨.tokens, tokens⟩ : ResourceAmount)
      let _ ← Handler.onBudget fun b => b.settle r.id actual now
      settleEach attributable now rest

def receiptFor (s : Trajectory) (input : FinalizeInput) (lane : String) (taskId : TaskId)
    (plan : ExecutionPlan) (startedAt : OffsetDateTime) (usage : Option Nat) : ExecutionReceipt where
  taskId := taskId
  contractRevision := plan.contractRevision
  planId := plan.id
  actualDurationSecs := ((input.now - startedAt).tdiv OffsetDateTime.nanosPerSecond).toNat
  actualUsage := (usage.map fun tokens => (⟨.tokens, tokens⟩ : ResourceAmount)).toList
  outcome := .unknown
  recordedAt := input.now
  toolCallCount := s.toolCallCountForSession lane
  taskFeatures := plan.taskFeatures

/-- Where the window of the next receipt starts. -/
def usageWindowStart (s : Trajectory) (taskId : TaskId) (startedAt : OffsetDateTime) :
    OffsetDateTime := (s.lastReceiptRecordedAt taskId).getD startedAt

def finalizeWithUsage (input : FinalizeInput) (lane : String) : Handler FinalizeOutcome := do
  match ← Script.read fun s => laneInFlight s lane with
  | none => return .noActiveTask
  | some (taskId, plan) =>
  let startedAt ← Script.read fun s => (s.planLineageStartedAt plan.id).getD plan.createdAt
  let windowStart ← Script.read fun s => usageWindowStart s taskId startedAt
  let usage := input.observe windowStart
  let receipt ← Script.read fun s => receiptFor s input lane taskId plan startedAt usage
  let active ← Script.read fun s => s.budget.reservations.rows.filter fun r =>
    r.taskId = taskId ∧ r.planId = some plan.id ∧ r.state = .active
  settleEach (if active.length = 1 then usage else none) input.now active
  Handler.onLedger fun s => s.insertReceipt receipt
  return .finalized receipt

/-- A derived lane without a task falls back to the session's own. -/
def resolveFinalizeLane (s : Trajectory) (sessionId lane : String) : String :=
  if lane ≠ sessionId ∧ ¬ ((s.taskIdForSession lane).isSome ∧ (s.inFlightPlanForSession lane).isSome) then
    sessionId
  else lane

/-- The plan in flight on the lane already has its receipt. -/
def alreadyFinalized (s : Trajectory) (lane : String) : Bool :=
  match s.taskIdForSession lane, s.inFlightPlanForSession lane with
  | some taskId, some planId => s.receiptExists taskId planId
  | _, _ => false

def handleFinalizeForLane (input : FinalizeInput) : Handler FinalizeOutcome := do
  let lane ← Script.read fun s => resolveFinalizeLane s input.sessionId input.lane
  let replayed ← Script.read fun s => alreadyFinalized s lane
  if replayed then return .noActiveTask
  else finalizeWithUsage input lane

/-! ## Runs -/

/-- A request of the legacy route, or the startup sweep. -/
inductive LegacyOp where
  | preflight (input : PreflightInput) (sweepAt : OffsetDateTime)
  | toolInvoked (input : ToolInput)
  | finalize (input : FinalizeInput)
  | sweep (now : OffsetDateTime)

/-- What the request leaves in the store when only `left` of its writes commit. -/
def LegacyOp.after (config : DaemonConfig) (left : Option Nat) (s : Trajectory) : LegacyOp → Trajectory
  | .preflight input sweepAt => ((handlePreflightForLane config input sweepAt).run left s).2
  | .toolInvoked input => ((handleToolInvokedForLane config input).run left s).2
  | .finalize input => ((handleFinalizeForLane input).run left s).2
  | .sweep now => ((reconcileStaleReservations now).run left s).2

end LibraGovernor
