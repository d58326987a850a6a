/-
# LibraGovernor.Daemon.LegacyWrites -- what the handlers of a lane write at all

`Writes rel` lists the writes of a preflight and of a tool event: a relation that holds
across each of them holds across the whole handler, wherever it is cut off.  The plans
they insert are left to the caller: a preflight's starts a lineage, a replan's does not.
`Finalized` says what a finalize writes: its receipt, and what it settles.
-/
import LibraGovernor.Daemon.Legacy
import LibraGovernor.Ledger.TrajectoryTransitions

namespace LibraGovernor

open Relational Transaction

set_option autoImplicit false

/-- The relation holds across every write but that of a plan or a receipt. -/
structure Writes (rel : Trajectory → Trajectory → Prop) : Prop where
  refl : ∀ s, rel s s
  trans : ∀ s s' s'', rel s s' → rel s' s'' → rel s s''
  task : ∀ s s' taskId now, s.insertTask taskId now = .ok ((), s') → rel s s'
  sessionTask : ∀ s s' sessionId taskId now, s.insertSessionTask sessionId taskId now = .ok ((), s') →
    rel s s'
  contract : ∀ s contracts, rel s { s with contracts }
  preflights : ∀ s preflights, rel s { s with preflights }
  admission : ∀ s s' planId verdict, s.setPlanAdmission planId verdict = .ok ((), s') → rel s s'
  toolCalls : ∀ s toolCalls, rel s { s with toolCalls }
  replanStates : ∀ s replanStates, rel s { s with replanStates }
  budget : ∀ s budget, rel s { s with budget }

namespace Writes

variable {rel : Trajectory → Trajectory → Prop} (writes : Writes rel) {s : Trajectory}
  {config : DaemonConfig}

include writes

theorem onLedger {α : Type} {tx : Trajectory → Except LedgerError (α × Trajectory)}
    (step : ∀ s a s', tx s = .ok (a, s') → rel s s') : Script.Keeps (rel s) (Handler.onLedger tx) := by
  refine .write ?_
  intro mid a next before done
  exact writes.trans _ _ _ before (step mid a next done)

theorem onBudget {α : Type} (tx : TaskLedger → Except TaskLedgerError (α × TaskLedger)) :
    Script.Keeps (rel s) (Handler.onBudget tx) := by
  refine .write ?_
  intro mid a next before done
  obtain ⟨budget, -, rfl⟩ := Trajectory.onBudget_ok done
  exact writes.trans _ _ _ before (writes.budget mid budget)

theorem publishPlan (lane : String) {plan : ExecutionPlan} (now : OffsetDateTime)
    (stored : ∀ s s', s.insertPlan plan = .ok ((), s') → rel s s') :
    Script.Keeps (rel s) (publishPlan lane plan now) := by
  refine .bind (writes.onLedger fun s _ s' => stored s s') fun _ => .bind (writes.onLedger ?_)
    fun _ => writes.onLedger ?_
  · rintro s _ s' ⟨⟩
    exact writes.preflights s _
  · intro s _ s' done
    obtain ⟨preflights, -, rfl⟩ := Trajectory.recordPreflight_ok done
    exact writes.preflights s preflights

theorem releasePlan (taskId : TaskId) (planId : Option PlanId) (now : OffsetDateTime) :
    Script.Keeps (rel s) (releasePlan taskId planId now) := by
  cases planId with
  | none => exact .pure ()
  | some planId => exact .bind (writes.onBudget _) fun _ => .pure ()

theorem reconcileStaleReservations (now : OffsetDateTime) :
    Script.Keeps (rel s) (reconcileStaleReservations now) :=
  .bind (.caught (writes.onBudget _)) fun _ => .pure ()

theorem prepareBudget (input : PreflightInput) (taskId : TaskId)
    (reserve : CompletionReserveEstimate) (hadBudget : Bool) :
    Script.Keeps (rel s) (prepareBudget config input taskId reserve hadBudget) := by
  refine .bind (writes.onBudget _) fun _ => .bind (.read _) fun budget => ?_
  split
  · exact .fail _
  · split
    · exact .bind (writes.onBudget _) fun _ => .pure _
    · exact .pure _

theorem resolveOrCreateTaskForSession (sessionId : String) (fresh : TaskId) (now : OffsetDateTime) :
    Script.Keeps (rel s) (resolveOrCreateTaskForSession sessionId fresh now) := by
  refine .bind (.read _) fun existing => ?_
  split
  · exact .pure _
  · exact .bind (writes.onLedger fun s _ s' => writes.task s s' fresh now) fun _ =>
      .bind (writes.onLedger fun s _ s' => writes.sessionTask s s' sessionId fresh now) fun _ => .pure _

theorem decidePlan (input : PreflightInput)
    (stored : ∀ s s' plan, plan.replaces = none → s.insertPlan plan = .ok ((), s') → rel s s') :
    Script.Keeps (rel s) (decidePlan config input) := by
  refine .bind (writes.resolveOrCreateTaskForSession _ _ _) fun taskId => .bind (.read _) fun _ =>
    .bind (.read _) fun _ => .bind (.read _) fun _ => .bind (writes.onLedger ?_) fun _ =>
    .bind (writes.publishPlan _ _ fun s s' => stored s s' _ rfl) fun _ =>
    .bind (writes.releasePlan _ _ _) fun _ => .bind (writes.prepareBudget _ _ _ _) fun _ =>
    .bind (.read _) fun _ => ?_
  · intro s _ s' done
    obtain ⟨contracts, -, rfl⟩ := Trajectory.insertContract_ok done
    exact writes.contract s contracts
  · extract_lets requested
    split
    · exact .fail _
    · exact .pure _

theorem admitPlan (input : PreflightInput) (taskId : TaskId) (budget : TaskBudget)
    (reserve : CompletionReserveEstimate) (decision : PolicyDecision) :
    Script.Keeps (rel s) (admitPlan config input taskId budget reserve decision) := by
  refine .bind (writes.onLedger fun s _ s' => writes.admission s s' _ _) fun _ => ?_
  split
  · split
    · exact .pure _
    · exact .bind (writes.onBudget _) fun _ => .pure _
  · exact .pure _

theorem handlePreflightPreparedForLane (input : PreflightInput)
    (stored : ∀ s s' plan, plan.replaces = none → s.insertPlan plan = .ok ((), s') → rel s s') :
    Script.Keeps (rel s) (handlePreflightPreparedForLane config input) :=
  .bind (writes.decidePlan input stored) fun _ => .bind (writes.admitPlan _ _ _ _ _) fun _ => .pure _

theorem handlePreflightForLane (input : PreflightInput) (sweepAt : OffsetDateTime)
    (stored : ∀ s s' plan, plan.replaces = none → s.insertPlan plan = .ok ((), s') → rel s s') :
    Script.Keeps (rel s) (handlePreflightForLane config input sweepAt) :=
  .bind (writes.reconcileStaleReservations _) fun _ =>
    writes.handlePreflightPreparedForLane input stored

theorem replan (input : ToolInput) (taskId : TaskId) (plan : ExecutionPlan) (total : Nat)
    (stored : ∀ s s' plan, s.insertPlan plan = .ok ((), s') → rel s s') :
    Script.Keeps (rel s) (replan config input taskId plan total) := by
  refine .bind (writes.publishPlan _ _ fun s s' => stored s s' _) fun _ =>
    .bind (writes.releasePlan _ _ _) fun _ => .bind ?_ fun _ => .bind (writes.onLedger ?_) fun _ =>
    writes.onLedger ?_
  · refine .bind (.read _) fun contract => ?_
    split
    · exact .pure _
    · refine .bind (writes.onBudget _) fun _ => .bind (.read _) fun budget => ?_
      split
      · exact .pure _
      · split
        · exact .pure _
        · split
          · exact .pure _
          · exact .bind (writes.onBudget _) fun _ => .pure _
  · intro s _ s' done
    obtain ⟨replanStates, rfl⟩ := Trajectory.recordReplanForTask_ok done
    exact writes.replanStates s replanStates
  · rintro s _ s' ⟨⟩
    exact writes.toolCalls s _

theorem handleToolInvokedForLane (input : ToolInput)
    (stored : ∀ s s' plan, s.insertPlan plan = .ok ((), s') → rel s s') :
    Script.Keeps (rel s) (handleToolInvokedForLane config input) := by
  refine .bind (writes.onLedger ?_) fun _ => .bind (writes.onLedger ?_) fun streak =>
    .bind (.read _) fun current => ?_
  · rintro s _ s' ⟨⟩
    exact writes.toolCalls s _
  · intro s _ s' done
    obtain ⟨-, toolCalls, rfl⟩ := Trajectory.recordToolInvocation_ok done
    exact writes.toolCalls s toolCalls
  split
  · exact .pure _
  split
  · exact .pure _
  refine .bind (.read _) fun total => .bind (.read _) fun state => ?_
  extract_lets material
  split
  · split
    · exact writes.replan input _ _ _ stored
    · exact .pure _
  · exact .pure _

theorem settleEach (attributable : Option Nat) (now : OffsetDateTime) (rows : List Reservation) :
    Script.Keeps (rel s) (settleEach attributable now rows) := by
  induction rows with
  | nil => exact .pure _
  | cons row rows ih => exact .bind (writes.onBudget _) fun _ => ih

end Writes

/-! ## Finalize -/

/-- A finalize that wrote its receipt: the lane's plan in flight had none, and the receipt measures
what was used since the window's start. -/
structure Finalized (input : FinalizeInput) (lane : String) (receipt : ExecutionReceipt)
    (s s' : Trajectory) : Prop where
  flight : ∃ taskId plan startedAt, laneInFlight s lane = some (taskId, plan) ∧
    startedAt = (s.planLineageStartedAt plan.id).getD plan.createdAt ∧
    receipt = receiptFor s input lane taskId plan startedAt
      (input.observe (usageWindowStart s taskId startedAt))
  stored : s.receipts.insert? receipt = some s'.receipts
  frame : s' = { s with budget := s'.budget, receipts := s'.receipts }

/-- Only the budget differs. -/
def BudgetOnly (s s' : Trajectory) : Prop := s' = { s with budget := s'.budget }

theorem settleEach_budgetOnly (s : Trajectory) (attributable : Option Nat) (now : OffsetDateTime)
    (rows : List Reservation) : Script.Keeps (BudgetOnly s) (settleEach attributable now rows) := by
  induction rows with
  | nil => exact .pure _
  | cons row rows ih =>
      refine .bind (.write ?_) fun _ => ih
      intro mid _ next before done
      obtain ⟨budget, -, rfl⟩ := Trajectory.onBudget_ok done
      rw [BudgetOnly] at before ⊢
      rw [before]

/-- What is left of a finalize, by how it ended. -/
def FinalizeEnded (input : FinalizeInput) (lane : String) (s : Trajectory) :
    Except (Stopped DaemonError) FinalizeOutcome → Trajectory → Prop
  | .ok (.finalized receipt), s' => Finalized input lane receipt s s'
  | _, s' => BudgetOnly s s'

/-- A finalize writes its receipt last, or none. -/
theorem finalizeWithUsage_spec (input : FinalizeInput) (lane : String) (s : Trajectory) :
    Script.Triple (fun s' => s' = s) (finalizeWithUsage input lane) (FinalizeEnded input lane s) := by
  refine Script.Triple.read_bind fun current => ?_
  split
  · refine .pure ?_
    rintro _ ⟨rfl, -⟩
    rfl
  rename_i taskId plan
  refine Script.Triple.read_bind fun startedAt => Script.Triple.read_bind fun windowStart => ?_
  refine Script.Triple.read_bind fun receipt => Script.Triple.read_bind fun active => ?_
  refine Script.Triple.of_start ?_
  rintro s' ⟨⟨⟨⟨⟨rfl, here⟩, started⟩, window⟩, written⟩, -⟩
  have untouched : ∀ mid, mid = s' → BudgetOnly s' mid := by
    rintro _ rfl
    rfl
  refine Script.Triple.bind (M := fun _ mid => BudgetOnly s' mid) ?_ fun _ => ?_
  · refine Script.Triple.conseq (settleEach_budgetOnly s' _ _ _) untouched ?_
    intro r mid only
    cases r with
    | ok _ => exact only
    | error e => exact only
  · refine Script.Triple.write_bind (M := fun _ next => Finalized input lane receipt s' next) ?_ ?_
      fun _ => .pure fun next finalized => finalized
    · intro mid _ next only done
      obtain ⟨receipts, stored, rfl⟩ := Trajectory.insertReceipt_ok done
      have same : mid.receipts = s'.receipts := by rw [only]
      refine ⟨⟨taskId, plan, startedAt, here, started.symm, ?_⟩, ?_, ?_⟩
      · rw [window]
        exact written.symm
      · rw [← same]
        exact stored
      · rw [only]
    · intro mid e only
      exact only

theorem handleFinalizeForLane_ended (input : FinalizeInput) (s : Trajectory) :
    Script.Triple (fun s' => s' = s) (handleFinalizeForLane input)
      (FinalizeEnded input (resolveFinalizeLane s input.sessionId input.lane) s) := by
  refine Script.Triple.read_bind fun lane => Script.Triple.read_bind fun replayed => ?_
  split
  · refine .pure ?_
    rintro _ ⟨⟨rfl, -⟩, -⟩
    rfl
  · refine Script.Triple.of_start ?_
    rintro s' ⟨⟨rfl, lane_eq⟩, -⟩
    rw [lane_eq]
    exact finalizeWithUsage_spec input lane s'

theorem handleFinalizeForLane_spec {input : FinalizeInput} (own : input.sessionId = input.lane)
    (s : Trajectory) :
    Script.Triple (fun s' => s' = s) (handleFinalizeForLane input)
      (FinalizeEnded input input.lane s) := by
  have same : resolveFinalizeLane s input.sessionId input.lane = input.lane := by
    rw [resolveFinalizeLane, own]
    simp
  rw [← same]
  exact handleFinalizeForLane_ended input s

end LibraGovernor
