/-
# LibraGovernor.Ledger.Trajectory -- tasks, plans, preflights and receipts

The tables of a task's trajectory: which task a session works on, the contract revisions
and plans of the task, which plan of a session is in flight, the receipts, the counters a
replan is decided from, and the outcome attestations.  The budget of the tasks is the
`TaskLedger` of the same store.

A timestamp column holds text, and the readers order it as text: `inFlightPlanForSession`
and `lastReceiptRecordedAt` take the text's maximum (`OffsetDateTime.textLe`), not the
latest instant.
-/
import LibraGovernor.Domain.Policy
import LibraGovernor.Ledger.TaskLedger
import LibraGovernor.Lib.Best
import LibraGovernor.Lib.Transaction

namespace LibraGovernor

open Relational Scan

set_option autoImplicit false

/-! ## Rows -/

inductive ExecutionOutcome where
  | completed (evidence : List String)
  | failed (evidence : List String)
  | aborted (evidence : List String)
  | unknown
  deriving DecidableEq, Repr

namespace ExecutionOutcome

/-- The kinds that end a task. -/
def terminalKind : ExecutionOutcome → Option OutcomeKind
  | .completed _ => some .completed
  | .failed _ => some .failed
  | .aborted _ => some .aborted
  | .unknown => none

def evidence : ExecutionOutcome → List String
  | .completed evidence => evidence
  | .failed evidence => evidence
  | .aborted evidence => evidence
  | .unknown => []

end ExecutionOutcome

structure SessionTask where
  sessionId : String
  taskId : TaskId
  deriving DecidableEq, Repr

structure ContractRow where
  taskId : TaskId
  contract : CompletionContract
  deriving DecidableEq, Repr

def ContractRow.key (c : ContractRow) : TaskId × Nat := (c.taskId, c.contract.revision)

structure ExecutionPlan where
  id : PlanId
  taskId : TaskId
  contractRevision : Nat
  createdAt : OffsetDateTime
  estimate : Option Estimate
  taskFeatures : Option String
  replaces : Option PlanId
  admission : Option Admission
  deriving DecidableEq, Repr

inductive PreflightStatus where
  | inFlight
  | superseded
  deriving DecidableEq, Repr

structure SessionPreflight where
  sessionId : String
  planId : PlanId
  taskId : TaskId
  status : PreflightStatus
  createdAt : OffsetDateTime
  deriving DecidableEq, Repr

def SessionPreflight.key (p : SessionPreflight) : String × PlanId := (p.sessionId, p.planId)

structure ExecutionReceipt where
  taskId : TaskId
  contractRevision : Nat
  planId : PlanId
  actualDurationSecs : Nat
  actualUsage : List ResourceAmount
  outcome : ExecutionOutcome
  recordedAt : OffsetDateTime
  toolCallCount : Nat
  taskFeatures : Option String
  deriving DecidableEq, Repr

def ExecutionReceipt.key (r : ExecutionReceipt) : TaskId × PlanId := (r.taskId, r.planId)

structure ToolCallCount where
  sessionId : String
  count : Nat
  lastToolName : Option String
  sameToolStreak : Nat
  deriving DecidableEq, Repr

structure ReplanHysteresisState where
  autoReplanCount : Nat := 0
  lastReplanAt : Option OffsetDateTime := none
  toolCallCountAtLastReplan : Nat := 0
  deriving DecidableEq, Repr

structure ReplanStateRow where
  taskId : TaskId
  state : ReplanHysteresisState
  deriving DecidableEq, Repr

structure AttestationId where
  uuid : BitVec 128
  deriving DecidableEq, Repr

/-- An `outcome_attestations` row: `outcome` is its kind and its evidence. -/
structure AttestationRow where
  id : AttestationId
  taskId : TaskId
  planId : Option PlanId
  contractRevision : Option Nat
  source : String
  sourceId : Option String
  outcome : ExecutionOutcome
  idempotencyKey : String
  authoritative : Bool
  attestedAt : OffsetDateTime
  deriving DecidableEq, Repr

structure Trajectory where
  tasks : Table TaskId id
  sessionTasks : Table SessionTask SessionTask.sessionId
  contracts : Table ContractRow ContractRow.key
  plans : Table ExecutionPlan ExecutionPlan.id
  preflights : Table SessionPreflight SessionPreflight.key
  receipts : Table ExecutionReceipt ExecutionReceipt.key
  toolCalls : Table ToolCallCount ToolCallCount.sessionId
  replanStates : Table ReplanStateRow ReplanStateRow.taskId
  attestations : Table AttestationRow AttestationRow.id
  budget : TaskLedger

namespace Trajectory

def empty : Trajectory := ⟨.empty, .empty, .empty, .empty, .empty, .empty, .empty, .empty, .empty, .empty⟩

/-- `INSERT`: a taken primary key is an error. -/
def inserted {ρ κ : Type} [DecidableEq κ] {key : ρ → κ} (t : Table ρ key) (row : ρ) :
    Except LedgerError (Table ρ key) :=
  match t.insert? row with
  | none => .error .constraint
  | some t' => .ok t'

/-! ## Sessions -/

def taskIdForSession (s : Trajectory) (sessionId : String) : Option TaskId :=
  (s.sessionTasks.find? sessionId).map SessionTask.taskId

def insertTask (s : Trajectory) (taskId : TaskId) (now : OffsetDateTime) :
    Except LedgerError (Unit × Trajectory) := do
  let _ ← rfc3339 now
  let tasks ← inserted s.tasks taskId
  return ((), { s with tasks })

def insertSessionTask (s : Trajectory) (sessionId : String) (taskId : TaskId) (now : OffsetDateTime) :
    Except LedgerError (Unit × Trajectory) := do
  let _ ← rfc3339 now
  let sessionTasks ← inserted s.sessionTasks ⟨sessionId, taskId⟩
  return ((), { s with sessionTasks })

/-- The highest revision recorded for the task. -/
def latestContract (s : Trajectory) (taskId : TaskId) : Option CompletionContract :=
  (best (fun c kept => decide (kept.contract.revision < c.contract.revision))
    (s.contracts.rows.filter fun c => c.taskId = taskId)).map ContractRow.contract

def insertContract (s : Trajectory) (taskId : TaskId) (contract : CompletionContract)
    (now : OffsetDateTime) : Except LedgerError (Unit × Trajectory) := do
  let _ ← rfc3339 now
  let contracts ← inserted s.contracts ⟨taskId, contract⟩
  return ((), { s with contracts })

/-! ## Plans and preflights -/

def getPlan (s : Trajectory) (planId : PlanId) : Option ExecutionPlan := s.plans.find? planId

def insertPlan (s : Trajectory) (plan : ExecutionPlan) : Except LedgerError (Unit × Trajectory) := do
  let _ ← rfc3339 plan.createdAt
  let plans ← inserted s.plans plan
  return ((), { s with plans })

def setPlanAdmission (s : Trajectory) (planId : PlanId) (admission : Admission) :
    Except LedgerError (Unit × Trajectory) :=
  .ok ((), { s with
    plans := s.plans.updateAt planId (fun p => { p with admission := some admission }) fun _ => rfl })

def supersedeInFlightPreflights (s : Trajectory) (sessionId : String) :
    Except LedgerError (Unit × Trajectory) :=
  .ok ((), { s with
    preflights := s.preflights.update
      (fun p => if p.sessionId = sessionId ∧ p.status = .inFlight then { p with status := .superseded }
        else p)
      (by intro p; split <;> rfl) })

def recordPreflight (s : Trajectory) (sessionId : String) (taskId : TaskId) (planId : PlanId)
    (now : OffsetDateTime) : Except LedgerError (Unit × Trajectory) := do
  let _ ← rfc3339 now
  let preflights ← inserted s.preflights ⟨sessionId, planId, taskId, .inFlight, now⟩
  return ((), { s with preflights })

/-- The session's preflights in flight. -/
def inFlight (s : Trajectory) (sessionId : String) : List SessionPreflight :=
  s.preflights.rows.filter fun p => p.sessionId = sessionId ∧ p.status = .inFlight

def inFlightPlanForSession (s : Trajectory) (sessionId : String) : Option PlanId :=
  (best (fun p kept => !p.createdAt.textLe kept.createdAt) (s.inFlight sessionId)).map
    SessionPreflight.planId

/-- The `replaces` links walked back from a plan, as far as `depth` allows; the creation time
of the last plan there. -/
def lineageStart (s : Trajectory) : Nat → ExecutionPlan → OffsetDateTime
  | 0, plan => plan.createdAt
  | depth + 1, plan =>
      match plan.replaces.bind s.getPlan with
      | none => plan.createdAt
      | some earlier => s.lineageStart depth earlier

def planLineageStartedAt (s : Trajectory) (planId : PlanId) : Option OffsetDateTime :=
  (s.getPlan planId).map (s.lineageStart 64)

/-! ## Receipts -/

def receiptExists (s : Trajectory) (taskId : TaskId) (planId : PlanId) : Bool :=
  (s.receipts.find? (taskId, planId)).isSome

/-- `MAX(recorded_at)`, of the texts. -/
def lastReceiptRecordedAt (s : Trajectory) (taskId : TaskId) : Option OffsetDateTime :=
  best (fun t kept => !t.textLe kept)
    ((s.receipts.rows.filter fun r => r.taskId = taskId).map ExecutionReceipt.recordedAt)

def insertReceipt (s : Trajectory) (receipt : ExecutionReceipt) :
    Except LedgerError (Unit × Trajectory) := do
  let _ ← rfc3339 receipt.recordedAt
  let receipts ← inserted s.receipts receipt
  return ((), { s with receipts })

/-! ## Counters -/

def toolCallCountForSession (s : Trajectory) (sessionId : String) : Nat :=
  ((s.toolCalls.find? sessionId).map ToolCallCount.count).getD 0

def incrementToolCallCount (s : Trajectory) (sessionId : String) :
    Except LedgerError (Unit × Trajectory) :=
  .ok ((), { s with
    toolCalls := s.toolCalls.upsert ⟨sessionId, 1, none, 0⟩ (fun c => { c with count := c.count + 1 })
      fun _ => rfl })

/-- The streak a call of `toolName` makes. -/
def toolStreak (s : Trajectory) (sessionId toolName : String) : Nat :=
  match s.toolCalls.find? sessionId with
  | some c => if c.lastToolName = some toolName then c.sameToolStreak + 1 else 1
  | none => 1

def recordToolInvocation (s : Trajectory) (sessionId toolName : String) (now : OffsetDateTime) :
    Except LedgerError (Nat × Trajectory) := do
  let _ ← rfc3339 now
  let streak := s.toolStreak sessionId toolName
  return (streak, { s with
    toolCalls := s.toolCalls.upsert ⟨sessionId, 0, some toolName, streak⟩
      (fun c => { c with lastToolName := some toolName, sameToolStreak := streak }) fun _ => rfl })

def resetToolStreak (s : Trajectory) (sessionId : String) : Except LedgerError (Unit × Trajectory) :=
  .ok ((), { s with
    toolCalls := s.toolCalls.updateAt sessionId (fun c => { c with sameToolStreak := 0 }) fun _ => rfl })

def replanStateForTask (s : Trajectory) (taskId : TaskId) : ReplanHysteresisState :=
  ((s.replanStates.find? taskId).map ReplanStateRow.state).getD {}

def recordReplanForTask (s : Trajectory) (taskId : TaskId) (now : OffsetDateTime) (toolCalls : Nat) :
    Except LedgerError (Unit × Trajectory) := do
  let _ ← rfc3339 now
  return ((), { s with
    replanStates := s.replanStates.upsert ⟨taskId, ⟨1, some now, toolCalls⟩⟩
      (fun r => { r with state := ⟨r.state.autoReplanCount + 1, some now, toolCalls⟩ }) fun _ => rfl })

/-! ## The budget of the tasks -/

/-- Runs a transaction of the task ledger. -/
def onBudget {α : Type} (tx : TaskLedger → Except TaskLedgerError (α × TaskLedger)) (s : Trajectory) :
    Except TaskLedgerError (α × Trajectory) :=
  match tx s.budget with
  | .ok (a, budget) => .ok (a, { s with budget })
  | .error e => .error e

end Trajectory

end LibraGovernor
