/-
# LibraGovernor.Daemon.PlanAdmission -- capacity is reserved for admitted plans

A preflight publishes its plan before it has a verdict on it, and stores the verdict
before it reserves.  A tool event that replans carries the stored verdict to the next plan
and reserves again unless the verdict was a refusal; a plan whose preflight was cut off
before it stored a verdict has none, and is taken for admitted.

`Rooted` says that a plan's `replaces` links lead to a plan for which a preflight of the
run computed `Admit`.  In every run, however its requests are cut off, in which no tool
event replans a plan without a stored verdict, every lease for required work is for a
rooted plan (`holds_for_admitted_plans`); `unadmitted_hold` is a run that breaks it.
-/
import LibraGovernor.Daemon.Legacy
import LibraGovernor.Ledger.TrajectoryTransitions

namespace LibraGovernor

open Relational Transaction Transition

set_option autoImplicit false

abbrev PlanTable : Type := Table ExecutionPlan ExecutionPlan.id

/-- The plan's lineage starts at a plan that a preflight computed `Admit` for. -/
inductive Rooted (plans : PlanTable) (computed : List PlanId) : PlanId → Prop
  | first {plan : ExecutionPlan} : plan ∈ plans → plan.replaces = none → plan.id ∈ computed →
      Rooted plans computed plan.id
  | replan {plan : ExecutionPlan} {prior : PlanId} : plan ∈ plans → plan.replaces = some prior →
      Rooted plans computed prior → Rooted plans computed plan.id

namespace Rooted

variable {plans plans' : PlanTable} {computed : List PlanId} {planId : PlanId}

/-- A lineage is read from the ids and the links of the plans alone. -/
theorem carry {computed' : List PlanId} (known : ∀ p ∈ computed, p ∈ computed')
    (there : ∀ plan ∈ plans, ∃ plan' ∈ plans', plan'.id = plan.id ∧ plan'.replaces = plan.replaces)
    (rooted : Rooted plans computed planId) : Rooted plans' computed' planId := by
  induction rooted with
  | first mem link listed =>
      obtain ⟨plan', mem', same, link'⟩ := there _ mem
      rw [← same]
      exact .first mem' (link'.trans link) (same ▸ known _ listed)
  | replan mem link _ ih =>
      obtain ⟨plan', mem', same, link'⟩ := there _ mem
      rw [← same]
      exact .replan mem' (link'.trans link) ih

theorem computed_mono {computed' : List PlanId} (known : ∀ p ∈ computed, p ∈ computed')
    (rooted : Rooted plans computed planId) : Rooted plans computed' planId :=
  rooted.carry known fun plan mem => ⟨plan, mem, rfl, rfl⟩

theorem insert {row : ExecutionPlan} (done : plans.insert? row = some plans')
    (rooted : Rooted plans computed planId) : Rooted plans' computed planId :=
  rooted.carry (fun _ => id) fun plan mem => ⟨plan, (Table.mem_insert? done plan).mpr (.inl mem), rfl, rfl⟩

theorem setAdmission (target : PlanId) (verdict : Admission) (rooted : Rooted plans computed planId) :
    Rooted (plans.updateAt target (fun p => { p with admission := some verdict }) fun _ => rfl)
      computed planId := by
  refine rooted.carry (fun _ => id) ?_
  intro plan mem
  refine ⟨_, (Table.mem_update _ _ _ _).mpr ⟨plan, mem, rfl⟩, ?_⟩
  split
  · exact ⟨rfl, rfl⟩
  · exact ⟨rfl, rfl⟩

end Rooted

/-! ## The invariant -/

/-- An admitted plan and a plan with a lease for required work are rooted. -/
structure AdmittedInv (computed : List PlanId) (plans : PlanTable) (budget : TaskLedger) : Prop where
  admitted : ∀ plan ∈ plans, plan.admission = some .admitted → Rooted plans computed plan.id
  held : ∀ r ∈ budget.reservations, r.class_ = .requiredWork →
    ∃ planId, r.planId = some planId ∧ Rooted plans computed planId

namespace AdmittedInv

variable {computed : List PlanId} {plans plans' : PlanTable} {budget budget' : TaskLedger}

theorem computed_mono {computed' : List PlanId} (inv : AdmittedInv computed plans budget)
    (known : ∀ p ∈ computed, p ∈ computed') : AdmittedInv computed' plans budget where
  admitted plan mem verdict := (inv.admitted plan mem verdict).computed_mono known
  held r mem required := by
    obtain ⟨planId, named, rooted⟩ := inv.held r mem required
    exact ⟨planId, named, rooted.computed_mono known⟩

theorem follows (inv : AdmittedInv computed plans budget) (follows : budget.Follows budget') :
    AdmittedInv computed plans budget' where
  admitted := inv.admitted
  held r' mem required := by
    obtain ⟨r, there, step⟩ := follows r' mem
    rw [step.planId]
    exact inv.held r there (step.class_ ▸ required)

theorem insertPlan {row : ExecutionPlan} (inv : AdmittedInv computed plans budget)
    (done : plans.insert? row = some plans')
    (rooted : row.admission = some .admitted → Rooted plans' computed row.id) :
    AdmittedInv computed plans' budget where
  admitted plan mem verdict := by
    rcases (Table.mem_insert? done plan).mp mem with old | rfl
    · exact (inv.admitted plan old verdict).insert done
    · exact rooted verdict
  held r mem required := by
    obtain ⟨planId, named, rooted⟩ := inv.held r mem required
    exact ⟨planId, named, rooted.insert done⟩

/-- Storing a verdict touches no link; only the plan it is stored on must be rooted. -/
theorem setPlanAdmission {planId : PlanId} {verdict : Admission}
    (inv : AdmittedInv computed plans budget)
    (rooted : verdict = .admitted → Rooted plans computed planId) :
    AdmittedInv computed
      (plans.updateAt planId (fun p => { p with admission := some verdict }) fun _ => rfl) budget := by
  refine ⟨?_, ?_⟩
  · intro plan' mem stored
    rw [Table.updateAt, Table.mem_update] at mem
    obtain ⟨plan, there, rfl⟩ := mem
    split at stored
    · rename_i here
      rw [if_pos here, show plan.id = planId from here]
      exact (rooted (Option.some.inj stored)).setAdmission planId verdict
    · rename_i other
      rw [if_neg other]
      exact (inv.admitted plan there stored).setAdmission planId verdict
  · intro r mem required
    obtain ⟨planId', named, rooted'⟩ := inv.held r mem required
    exact ⟨planId', named, rooted'.setAdmission planId verdict⟩

theorem reserve {req : TaskLedger.ReserveRequest} {fresh : ReservationId} {planId : PlanId}
    {out : TaskLedger.ReserveOutcome} (inv : AdmittedInv computed plans budget)
    (named : req.planId = some planId) (rooted : Rooted plans computed planId)
    (done : budget.reserve req fresh = .ok (out, budget')) : AdmittedInv computed plans budget' := by
  rcases TaskLedger.reserve_ok done with ⟨rfl, -⟩ | ⟨row, -, granted⟩
  · exact inv
  refine ⟨inv.admitted, ?_⟩
  intro r mem required
  rcases (Table.mem_insert? granted.inserted r).mp mem with old | rfl
  · exact inv.held r old required
  · obtain ⟨_, _, _, -, -, -, rfl, -⟩ := granted.budgeted
    exact ⟨planId, named, rooted⟩

end AdmittedInv

/-! ## One handler at a time -/

namespace Handler

variable {α : Type} {P : PlanTable → TaskLedger → Prop}

/-- What is said of the plans and the budget. -/
def Says (P : PlanTable → TaskLedger → Prop) (s : Trajectory) : Prop := P s.plans s.budget

/-- A write to another table. -/
theorem says_onLedger {tx : Trajectory → Except LedgerError (α × Trajectory)}
    (same : ∀ s a s', tx s = .ok (a, s') → s'.plans = s.plans ∧ s'.budget = s.budget) :
    Script.Keeps (Says P) (onLedger tx) := by
  refine .write ?_
  intro s a s' holds done
  obtain ⟨plans, budget⟩ := same s a s' done
  rw [Says, plans, budget]
  exact holds

theorem says_onBudget {tx : TaskLedger → Except TaskLedgerError (α × TaskLedger)}
    (keeps : ∀ plans b a b', P plans b → tx b = .ok (a, b') → P plans b') :
    Script.Keeps (Says P) (onBudget tx) := by
  refine .write ?_
  intro s a s' holds done
  obtain ⟨budget, committed, rfl⟩ := Trajectory.onBudget_ok done
  exact keeps _ _ _ _ holds committed

section Keeping

variable (follows : ∀ plans b b', b.Follows b' → TaskLedger.SameTerms b b' → P plans b → P plans b')

include follows

theorem says_releasePlan (taskId : TaskId) (planId : Option PlanId) (now : OffsetDateTime) :
    Script.Keeps (Says P) (releasePlan taskId planId now) := by
  cases planId with
  | none => exact .pure ()
  | some planId =>
      refine .bind (says_onBudget ?_) fun _ => .pure ()
      intro plans b a b' holds done
      exact follows plans b b' (.releaseActiveForPlan done) (.releaseActiveForPlan done) holds

theorem says_reconcileStaleReservations (now : OffsetDateTime) :
    Script.Keeps (Says P) (reconcileStaleReservations now) := by
  refine .bind (.caught (says_onBudget ?_)) fun _ => .pure ()
  intro plans b a b' holds done
  exact follows plans b b' (.expireStaleReservations done) (.expireStaleReservations done) holds

theorem says_settleEach (attributable : Option Nat) (now : OffsetDateTime) (rows : List Reservation) :
    Script.Keeps (Says P) (settleEach attributable now rows) := by
  induction rows with
  | nil => exact .pure ()
  | cons row rows ih =>
      refine .bind (says_onBudget ?_) fun _ => ih
      intro plans b a b' holds done
      exact follows plans b b' (.settle done) (.settle done) holds

theorem says_adjust (taskId : TaskId) (amount : ResourceAmount) (basis : CompletionReserveBasis)
    (now : OffsetDateTime) :
    Script.Keeps (Says P) (onBudget fun b => b.adjustCompletionReserve taskId amount basis now) := by
  refine says_onBudget ?_
  intro plans b a b' holds done
  exact follows plans b b' (.adjustCompletionReserve done) (.adjustCompletionReserve done) holds

theorem says_handleFinalizeForLane (input : FinalizeInput) :
    Script.Keeps (Says P) (handleFinalizeForLane input) := by
  refine .bind (.read _) fun lane => .bind (.read _) fun replayed => ?_
  split
  · exact .pure _
  · refine .bind (.read _) fun current => ?_
    split
    · exact .pure _
    · refine .bind (.read _) fun _ => .bind (.read _) fun _ => .bind (.read _) fun _ =>
        .bind (.read _) fun _ => .bind (says_settleEach follows _ _ _) fun _ =>
        .bind (says_onLedger ?_) fun _ => .pure _
      intro s a s' done
      obtain ⟨receipts, -, rfl⟩ := Trajectory.insertReceipt_ok done
      exact ⟨rfl, rfl⟩

end Keeping

theorem says_resolveOrCreateTaskForSession (sessionId : String) (fresh : TaskId) (now : OffsetDateTime) :
    Script.Keeps (Says P) (resolveOrCreateTaskForSession sessionId fresh now) := by
  refine .bind (.read _) fun existing => ?_
  split
  · exact .pure _
  · refine .bind (says_onLedger ?_) fun _ => .bind (says_onLedger ?_) fun _ => .pure _
    · intro s a s' done
      obtain ⟨tasks, -, rfl⟩ := Trajectory.insertTask_ok done
      exact ⟨rfl, rfl⟩
    · intro s a s' done
      obtain ⟨sessionTasks, -, rfl⟩ := Trajectory.insertSessionTask_ok done
      exact ⟨rfl, rfl⟩

theorem says_insertContract (taskId : TaskId) (contract : CompletionContract) (now : OffsetDateTime) :
    Script.Keeps (Says P) (onLedger fun s => s.insertContract taskId contract now) := by
  refine says_onLedger ?_
  intro s a s' done
  obtain ⟨contracts, -, rfl⟩ := Trajectory.insertContract_ok done
  exact ⟨rfl, rfl⟩

end Handler

section Handlers

variable {computed : List PlanId} {config : DaemonConfig}

open Handler (Says)

theorem admittedInv_follows (plans : PlanTable) (b b' : TaskLedger) (follows : b.Follows b')
    (_ : TaskLedger.SameTerms b b') (inv : AdmittedInv computed plans b) :
    AdmittedInv computed plans b' := inv.follows follows

/-- The plan that is published must be rooted if it comes with a verdict. -/
theorem publishPlan_admitted (computed : List PlanId) (lane : String) (plan : ExecutionPlan)
    (now : OffsetDateTime) (Q : TaskLedger → Prop) :
    Script.Triple
      (fun s => (Says (AdmittedInv computed) s ∧ Q s.budget) ∧
        (plan.admission = some .admitted →
          ∃ prior, plan.replaces = some prior ∧ Rooted s.plans computed prior))
      (publishPlan lane plan now)
      fun r s => (Says (AdmittedInv computed) s ∧ Q s.budget) ∧ (∀ u, r = .ok u → plan ∈ s.plans) := by
  refine Script.Triple.write_bind
    (M := fun _ => Says fun plans b => (AdmittedInv computed plans b ∧ Q b) ∧ plan ∈ plans) ?_ ?_
    fun _ => ?_
  · rintro s _ s' ⟨⟨inv, held⟩, rooted⟩ done
    obtain ⟨plans, stored, rfl⟩ := Trajectory.insertPlan_ok done
    have mem := (Table.mem_insert? stored plan).mpr (.inr rfl)
    refine ⟨⟨AdmittedInv.insertPlan inv stored fun verdict => ?_, held⟩, mem⟩
    obtain ⟨prior, link, lineage⟩ := rooted verdict
    exact .replan mem link (lineage.insert stored)
  · rintro s e ⟨inv, -⟩
    exact ⟨inv, nofun⟩
  refine Script.Triple.keep_bind (Handler.says_onLedger ?_) ?_ fun _ => ?_
  · rintro s _ s' ⟨⟩
    exact ⟨rfl, rfl⟩
  · rintro e s ⟨inv, -⟩
    exact ⟨inv, nofun⟩
  · refine Script.Triple.conseq (Handler.says_onLedger ?_) (fun _ => id) ?_
    · intro s _ s' done
      obtain ⟨preflights, -, rfl⟩ := Trajectory.recordPreflight_ok done
      exact ⟨rfl, rfl⟩
    · rintro r s ⟨inv, mem⟩
      exact ⟨inv, fun _ _ => mem⟩

/-- The plans of a preflight that has its verdict: its own plan starts a lineage. -/
def Published (computed : List PlanId) (planId : PlanId) (plans : PlanTable) (b : TaskLedger) : Prop :=
  AdmittedInv computed plans b ∧ ∃ plan ∈ plans, plan.id = planId ∧ plan.replaces = none

theorem Published.follows {planId : PlanId} (plans : PlanTable) (b b' : TaskLedger)
    (follows : b.Follows b') (_ : TaskLedger.SameTerms b b') (published : Published computed planId plans b) :
    Published computed planId plans b' := ⟨published.1.follows follows, published.2⟩

theorem prepareBudget_published {planId : PlanId} (input : PreflightInput) (taskId : TaskId)
    (reserve : CompletionReserveEstimate) (hadBudget : Bool) :
    Script.Keeps (Says (Published computed planId))
      (prepareBudget config input taskId reserve hadBudget) := by
  refine .bind (Handler.says_onBudget ?_) fun _ => .bind (.read _) fun budget => ?_
  · intro plans b _ b' published done
    exact ⟨published.1.follows (.initializeTaskBudget done), published.2⟩
  · split
    · exact .fail _
    · split
      · exact .bind (Handler.says_adjust Published.follows _ _ _ _) fun _ => .pure _
      · exact .pure _

/-- The invariant holds wherever the preflight stopped, and its plan is there once it has a
verdict. -/
def Decided (computed : List PlanId) (planId : PlanId) :
    Except (Stopped DaemonError) PreflightVerdict → Trajectory → Prop
  | .ok _, s => Says (Published computed planId) s
  | .error _, s => Says (AdmittedInv computed) s

theorem decidePlan_admitted (input : PreflightInput) :
    Script.Triple (Says (AdmittedInv computed)) (decidePlan config input)
      (Decided computed input.planId) := by
  have stopped : ∀ e s, Says (AdmittedInv computed) s → Decided computed input.planId (.error e) s :=
    fun e s inv => inv
  have stopped' : ∀ e s, Says (Published computed input.planId) s →
      Decided computed input.planId (.error e) s := fun e s published => published.1
  refine Script.Triple.keep_bind (Handler.says_resolveOrCreateTaskForSession _ _ _) stopped fun taskId => ?_
  refine Script.Triple.keep_bind (.read _) stopped fun previous => ?_
  refine Script.Triple.keep_bind (.read _) stopped fun hadBudget => ?_
  refine Script.Triple.keep_bind (.read _) stopped fun previousPlanId => ?_
  refine Script.Triple.keep_bind (Handler.says_insertContract _ _ _) stopped fun _ => ?_
  refine Script.Triple.bind (M := fun _ => Says (Published computed input.planId)) ?_ fun _ => ?_
  · refine (publishPlan_admitted computed _ _ _ fun _ => True).conseq ?_ ?_
    · intro s inv
      refine ⟨⟨inv, trivial⟩, ?_⟩
      rintro ⟨⟩
    · rintro r s ⟨⟨inv, -⟩, mem⟩
      split
      · exact ⟨inv, _, mem _ rfl, rfl, rfl⟩
      · exact stopped _ _ inv
  refine Script.Triple.keep_bind (Handler.says_releasePlan Published.follows _ _ _) stopped' fun _ => ?_
  refine Script.Triple.keep_bind (prepareBudget_published _ _ _ _) stopped' fun budget => ?_
  refine Script.Triple.keep_bind (.read _) stopped' fun figures => ?_
  extract_lets requested
  split
  · exact .fail fun s published => stopped' _ s published
  · exact .pure fun s published => published

theorem admitPlan_admitted (input : PreflightInput) (taskId : TaskId) (budget : TaskBudget)
    (reserve : CompletionReserveEstimate) (decision : PolicyDecision)
    (known : decision.admission = .admitted → input.planId ∈ computed) :
    Script.Triple (Says (Published computed input.planId))
      (admitPlan config input taskId budget reserve decision) fun _ => Says (AdmittedInv computed) := by
  have rooted : ∀ {plans b}, Published computed input.planId plans b → decision.admission = .admitted →
      Rooted plans computed input.planId := by
    rintro plans b ⟨-, plan, mem, same, link⟩ verdict
    rw [← same]
    exact .first mem link (same ▸ known verdict)
  refine Script.Triple.write_bind
    (M := fun _ => Says fun plans b => AdmittedInv computed plans b ∧
      (decision.admission = .admitted → Rooted plans computed input.planId)) ?_ ?_ fun _ => ?_
  · rintro s _ s' published ⟨⟩
    have stored := published.1.setPlanAdmission (rooted published)
    exact ⟨stored, fun verdict => (rooted published verdict).setAdmission input.planId _⟩
  · intro s e published
    exact published.1
  split
  · rename_i verdict
    split
    · exact .pure fun s holds => holds.1
    · refine Script.Triple.write_bind (M := fun _ => Says (AdmittedInv computed)) ?_ ?_
        fun _ => .pure fun s inv => inv
      · rintro s _ s' ⟨inv, lineage⟩ done
        obtain ⟨b, committed, rfl⟩ := Trajectory.onBudget_ok done
        exact AdmittedInv.reserve inv rfl (lineage verdict) committed
      · rintro s e ⟨inv, -⟩
        exact inv
  · exact .pure fun s holds => holds.1

/-! ## Tool events -/

/-- The new plan of a replan, and what is known of the verdict it carries. -/
def Replanned (computed : List PlanId) (config : DaemonConfig) (input : ToolInput) (taskId : TaskId)
    (prior : ExecutionPlan) (plans : PlanTable) (b : TaskLedger) : Prop :=
  AdmittedInv computed plans b ∧ replanPlan input prior ∈ plans ∧
    (config.gateway = false → (b.taskBudget taskId).isSome → prior.admission ≠ none)

theorem Replanned.follows {input : ToolInput} {taskId : TaskId} {prior : ExecutionPlan}
    (plans : PlanTable) (b b' : TaskLedger) (follows : b.Follows b') (terms : TaskLedger.SameTerms b b')
    (replanned : Replanned computed config input taskId prior plans b) :
    Replanned computed config input taskId prior plans b' := by
  obtain ⟨inv, mem, verdict⟩ := replanned
  refine ⟨inv.follows follows, mem, ?_⟩
  intro gateway budgeted
  refine verdict gateway ?_
  rw [← Option.isSome_map, ← terms.budgets taskId, Option.isSome_map]
  exact budgeted

theorem replanReserve_admitted (input : ToolInput) (taskId : TaskId) (prior : ExecutionPlan)
    (reserve : CompletionReserveEstimate) :
    Script.Keeps (Says (Replanned computed config input taskId prior))
      (replanReserve config input taskId prior reserve) := by
  refine Script.Triple.read_bind fun budget => ?_
  split
  · exact .pure fun s holds => holds.1
  split
  · exact .pure fun s holds => holds.1
  rename_i budget kept
  split
  · exact .pure fun s holds => holds.1
  rename_i direct
  refine Script.Triple.write_bind
    (M := fun _ => Says (Replanned computed config input taskId prior)) ?_ ?_
    fun _ => .pure fun s holds => holds
  · rintro s _ s' ⟨⟨inv, mem, verdict⟩, found⟩ done
    obtain ⟨b, committed, rfl⟩ := Trajectory.onBudget_ok done
    -- A stored verdict that is no refusal is an admission, and the new plan carries it.
    have stored := verdict (by simpa using direct) (by rw [found]; rfl)
    have admitted : prior.admission = some .admitted := by
      unfold wasNotAdmitted at kept
      split at kept
      · simp at kept
      · simp at kept
      · rename_i not_deny not_asked
        cases held : prior.admission with
        | none => exact absurd held stored
        | some admission =>
            cases admission with
            | admitted => rfl
            | approvalRequired requests => exact absurd held (not_asked requests)
            | deny reasons => exact absurd held (not_deny reasons)
    have rooted : Rooted s.plans computed input.planId := inv.admitted _ mem admitted
    exact ⟨inv.reserve rfl rooted committed, mem, fun _ _ => stored⟩
  · intro s e holds
    exact holds.1

theorem replanBudget_admitted (input : ToolInput) (taskId : TaskId) (prior : ExecutionPlan) :
    Script.Keeps (Says (Replanned computed config input taskId prior))
      (replanBudget config input taskId prior) := by
  refine .bind (.read _) fun contract => ?_
  split
  · exact .pure ()
  · exact .bind (Handler.says_adjust Replanned.follows _ _ _ _) fun _ =>
      replanReserve_admitted input taskId prior _

theorem replan_admitted (input : ToolInput) (taskId : TaskId) (prior : ExecutionPlan) (total : Nat) :
    Script.Triple
      (fun s => Says (AdmittedInv computed) s ∧ prior ∈ s.plans ∧
        (config.gateway = false → (s.budget.taskBudget taskId).isSome → prior.admission ≠ none))
      (replan config input taskId prior total) fun _ => Says (AdmittedInv computed) := by
  have stopped : ∀ (e : Stopped DaemonError) s,
      Says (Replanned computed config input taskId prior) s → Says (AdmittedInv computed) s :=
    fun e s holds => holds.1
  refine Script.Triple.bind (M := fun _ => Says (Replanned computed config input taskId prior)) ?_ fun _ => ?_
  · refine (publishPlan_admitted computed _ _ _ fun b => config.gateway = false →
      (b.taskBudget taskId).isSome → prior.admission ≠ none).conseq ?_ ?_
    · rintro s ⟨inv, mem, verdict⟩
      exact ⟨⟨inv, verdict⟩, fun stored => ⟨prior.id, rfl, inv.admitted prior mem stored⟩⟩
    · rintro r s ⟨⟨inv, verdict⟩, mem⟩
      split
      · exact ⟨inv, mem _ rfl, verdict⟩
      · exact inv
  refine Script.Triple.keep_bind (Handler.says_releasePlan Replanned.follows _ _ _) stopped fun _ => ?_
  refine Script.Triple.keep_bind (replanBudget_admitted _ _ _) stopped fun _ => ?_
  refine Script.Triple.keep_bind (Handler.says_onLedger ?_) stopped fun _ => ?_
  · intro s _ s' done
    obtain ⟨replanStates, rfl⟩ := Trajectory.recordReplanForTask_ok done
    exact ⟨rfl, rfl⟩
  · refine Script.Triple.conseq (Handler.says_onLedger ?_) (fun _ => id) fun _ => stopped .killed
    rintro s _ s' ⟨⟩
    exact ⟨rfl, rfl⟩

/-- The counters after a tool event has counted itself. -/
theorem counted_toolStreak (s : Trajectory) (lane toolName : String) {next : Trajectory} {out : Unit}
    (done : s.incrementToolCallCount lane = .ok (out, next)) :
    next.toolStreak lane toolName = s.toolStreak lane toolName := by
  cases done
  simp only [Trajectory.toolStreak, Table.find?_upsert, if_true]
  cases s.toolCalls.find? lane with
  | none => simp
  | some row => rfl

theorem counted_total (s : Trajectory) (lane toolName : String) (now : OffsetDateTime)
    {mid next : Trajectory} {out : Unit} {streak : Nat}
    (counted : s.incrementToolCallCount lane = .ok (out, mid))
    (invoked : mid.recordToolInvocation lane toolName now = .ok (streak, next)) :
    next.toolCallCountForSession lane = s.toolCallCountForSession lane + 1 := by
  cases counted
  simp only [Trajectory.recordToolInvocation, bind_eq_ok_iff] at invoked
  obtain ⟨_, -, done⟩ := invoked
  cases done
  simp only [Trajectory.toolCallCountForSession, Table.find?_upsert, if_true]
  cases s.toolCalls.find? lane with
  | none => rfl
  | some row => rfl

end Handlers

/-- Whether the tool event is one the lane's task is replanned at. -/
def ToolInput.replans (config : DaemonConfig) (s : Trajectory) (input : ToolInput) (taskId : TaskId) :
    Bool :=
  let state := s.replanStateForTask taskId
  let total := s.toolCallCountForSession input.lane + 1
  (possibleToolLoop (s.toolStreak input.lane input.toolName) ||
    toolCallCountIsMaterial (total - state.toolCallCountAtLastReplan) input.typicalToolCalls) &&
    decide (evaluateHysteresis config.replanHysteresis state input.now = .allow)

/-- A plan that a tool event would replan on the budget of its task has a stored verdict. -/
def LegacyOp.Answered (config : DaemonConfig) (s : Trajectory) : LegacyOp → Prop
  | .toolInvoked input =>
      ∀ taskId plan, laneInFlight s input.lane = some (taskId, plan) →
        input.replans config s taskId = true → config.gateway = false →
        (s.budget.taskBudget taskId).isSome → plan.admission ≠ none
  | _ => True

/-- The part of a preflight that ends with its verdict. -/
def sweepAndDecide (config : DaemonConfig) (input : PreflightInput) (sweepAt : OffsetDateTime) :
    Handler PreflightVerdict := do
  reconcileStaleReservations sweepAt
  decidePlan config input

/-- The plan for which the request, as far as it got, computed the final admission `Admit`. -/
def LegacyOp.computes (config : DaemonConfig) (left : Option Nat) (s : Trajectory) :
    LegacyOp → Option PlanId
  | .preflight input sweepAt =>
      match ((sweepAndDecide config input sweepAt).run left s).1 with
      | .ok verdict => if verdict.decision.admission = .admitted then some input.planId else none
      | .error _ => none
  | _ => none

section Steps

variable {computed : List PlanId} {config : DaemonConfig}

open Handler (Says)

theorem laneInFlight_mem {s : Trajectory} {lane : String} {taskId : TaskId} {plan : ExecutionPlan}
    (current : laneInFlight s lane = some (taskId, plan)) : plan ∈ s.plans := by
  unfold laneInFlight at current
  split at current
  · rename_i found
    cases current
    obtain ⟨planId, -, found⟩ := Option.bind_eq_some_iff.mp found
    exact ((Table.find?_eq_some_iff _ _ _).mp found).1
  · cases current

theorem handleToolInvokedForLane_admitted (input : ToolInput) (s : Trajectory)
    (inv : Says (AdmittedInv computed) s) (answered : (LegacyOp.toolInvoked input).Answered config s) :
    Script.Triple (fun s' => s' = s) (handleToolInvokedForLane config input)
      fun _ => Says (AdmittedInv computed) := by
  refine Script.Triple.write_bind
    (M := fun _ s₁ => s.incrementToolCallCount input.lane = .ok ((), s₁)) ?_ ?_ fun _ => ?_
  · rintro _ _ s₁ rfl done
    exact done
  · rintro _ e rfl
    exact inv
  refine Script.Triple.write_bind
    (M := fun streak s₂ => ∃ s₁, s.incrementToolCallCount input.lane = .ok ((), s₁) ∧
      s₁.recordToolInvocation input.lane input.toolName input.now = .ok (streak, s₂)) ?_ ?_
    fun streak => ?_
  · intro s₁ streak s₂ counted invoked
    exact ⟨s₁, counted, invoked⟩
  · rintro s₁ e ⟨⟩
    exact inv
  -- From here on the store is the first one but for the tool counters.
  have same : ∀ {s₁ s₂}, s.incrementToolCallCount input.lane = .ok ((), s₁) →
      s₁.recordToolInvocation input.lane input.toolName input.now = .ok (streak, s₂) →
      ∃ toolCalls, s₂ = { s with toolCalls } := by
    rintro s₁ s₂ ⟨⟩ invoked
    obtain ⟨-, toolCalls, rfl⟩ := Trajectory.recordToolInvocation_ok invoked
    exact ⟨toolCalls, rfl⟩
  have kept : ∀ s₂, (∃ s₁, s.incrementToolCallCount input.lane = .ok ((), s₁) ∧
      s₁.recordToolInvocation input.lane input.toolName input.now = .ok (streak, s₂)) →
      Says (AdmittedInv computed) s₂ := by
    rintro s₂ ⟨s₁, counted, invoked⟩
    obtain ⟨toolCalls, rfl⟩ := same counted invoked
    exact inv
  refine Script.Triple.read_bind fun current => ?_
  split
  · exact .pure fun s₂ holds => kept s₂ holds.1
  rename_i taskId plan
  split
  · exact .pure fun s₂ holds => kept s₂ holds.1
  refine Script.Triple.read_bind fun total => Script.Triple.read_bind fun state => ?_
  extract_lets material
  split
  · rename_i due
    split
    · rename_i allowed
      refine Script.Triple.conseq (replan_admitted input taskId plan total) ?_ fun _ _ => id
      rintro s₂ ⟨⟨⟨⟨s₁, counted, invoked⟩, here⟩, rfl⟩, rfl⟩
      have streaks := (Trajectory.recordToolInvocation_ok invoked).1
      have totals := counted_total s input.lane input.toolName input.now counted invoked
      have kept' := kept s₂ ⟨s₁, counted, invoked⟩
      obtain ⟨toolCalls, rfl⟩ := same counted invoked
      refine ⟨kept', laneInFlight_mem here, ?_⟩
      intro direct budgeted
      refine answered taskId plan here ?_ direct budgeted
      rw [counted_toolStreak s input.lane input.toolName counted] at streaks
      subst streaks
      rw [ToolInput.replans, ← totals, Bool.and_eq_true, decide_eq_true_eq]
      exact ⟨due, allowed⟩
    · exact .pure fun s₂ holds => kept s₂ holds.1.1.1
  · exact .pure fun s₂ holds => kept s₂ holds.1.1.1

theorem sweepAndDecide_admitted (input : PreflightInput) (sweepAt : OffsetDateTime) :
    Script.Triple (Says (AdmittedInv computed)) (sweepAndDecide config input sweepAt)
      (Decided computed input.planId) :=
  Script.Triple.keep_bind (Handler.says_reconcileStaleReservations admittedInv_follows _)
    (fun _ _ inv => inv) fun _ => decidePlan_admitted input

theorem handlePreflightForLane_eq (input : PreflightInput) (sweepAt : OffsetDateTime) :
    handlePreflightForLane config input sweepAt = sweepAndDecide config input sweepAt >>= fun verdict =>
      admitPlan config input verdict.taskId verdict.budget verdict.reserve verdict.decision >>=
        fun reserved => pure
          { taskId := verdict.taskId, planId := input.planId, decision := verdict.decision, reserved } :=
  (Procedure.bind_assoc _ _ _).symm

/-- A preflight keeps the invariant, with its own plan beside the computed ones if it came to
admit it. -/
theorem preflight_admitted (input : PreflightInput) (sweepAt : OffsetDateTime) (left : Option Nat)
    {s : Trajectory} (inv : Says (AdmittedInv computed) s) :
    Says (AdmittedInv (((LegacyOp.preflight input sweepAt).computes config left s).toList ++ computed))
      ((LegacyOp.preflight input sweepAt).after config left s) := by
  have decides : Script.Triple (Says (AdmittedInv computed)) (sweepAndDecide config input sweepAt)
      (Decided computed input.planId) := sweepAndDecide_admitted input sweepAt
  have decided := decides ⟨s, left⟩ inv
  simp only [LegacyOp.computes, LegacyOp.after, Script.run, handlePreflightForLane_eq]
  rw [Procedure.bind_apply]
  rcases stopped : sweepAndDecide config input sweepAt ⟨s, left⟩ with ⟨e | verdict, c⟩
  · rw [stopped] at decided
    exact decided
  · rw [stopped] at decided
    obtain ⟨inv', plan, mem, own⟩ : Published computed input.planId c.store.plans c.store.budget := decided
    simp only [Procedure.bind_pure_apply]
    generalize wider : (if verdict.decision.admission = .admitted then some input.planId
      else none).toList ++ computed = computed'
    have known : ∀ p ∈ computed, p ∈ computed' := by
      intro p listed
      rw [← wider]
      exact List.mem_append_right _ listed
    have listed : verdict.decision.admission = .admitted → input.planId ∈ computed' := by
      intro admitted
      rw [← wider, if_pos admitted]
      exact List.mem_append_left _ (List.mem_singleton_self _)
    have admits : Script.Triple (Says (Published computed' input.planId))
        (admitPlan config input verdict.taskId verdict.budget verdict.reserve verdict.decision)
        fun _ => Says (AdmittedInv computed') := admitPlan_admitted input _ _ _ _ listed
    exact admits c ⟨inv'.computed_mono known, plan, mem, own⟩

end Steps

/-! ## Every order of requests and cuts -/

/-- A request, and how many of its writes commit before it is cut off. -/
structure CutRequest where
  op : LegacyOp
  left : Option Nat

/-- The store, and the plans for which some preflight computed `Admit`. -/
structure AdmissionHistory where
  store : Trajectory
  computed : List PlanId

namespace AdmissionHistory

def empty : AdmissionHistory := ⟨.empty, []⟩

def step (config : DaemonConfig) (h : AdmissionHistory) (r : CutRequest) : AdmissionHistory where
  store := r.op.after config r.left h.store
  computed := (r.op.computes config r.left h.store).toList ++ h.computed

/-- Every lease for required work is for a plan whose lineage starts at an admitted one. -/
def HeldForAdmitted (h : AdmissionHistory) : Prop :=
  ∀ r ∈ h.store.budget.reservations, r.class_ = .requiredWork →
    ∃ planId, r.planId = some planId ∧ Rooted h.store.plans h.computed planId

/-- The invariant of a history. -/
def Inv (h : AdmissionHistory) : Prop := AdmittedInv h.computed h.store.plans h.store.budget

theorem step_inv (config : DaemonConfig) (h : AdmissionHistory) (r : CutRequest) (inv : h.Inv)
    (answered : r.op.Answered config h.store) : (h.step config r).Inv := by
  obtain ⟨op, left⟩ := r
  cases op with
  | preflight input sweepAt => exact preflight_admitted input sweepAt left inv
  | toolInvoked input =>
      exact (handleToolInvokedForLane_admitted input h.store inv answered).run left rfl
  | finalize input =>
      exact (Handler.says_handleFinalizeForLane admittedInv_follows input).run left inv
  | sweep now =>
      exact (Handler.says_reconcileStaleReservations admittedInv_follows now).run left inv

end AdmissionHistory

theorem holds_for_admitted_plans (config : DaemonConfig) (requests : List CutRequest)
    (answered : Along (AdmissionHistory.step config) (fun h r => r.op.Answered config h.store) .empty
      requests) :
    (run (AdmissionHistory.step config) .empty requests).HeldForAdmitted := by
  have start : AdmissionHistory.empty.Inv := by
    refine ⟨?_, ?_⟩
    · intro plan mem
      cases mem
    · intro r mem
      cases mem
  exact (run_invariant (AdmissionHistory.step_inv config) answered start).held

/-! ## Poles -/

/-- A hundred thousand tokens, for estimates of the given confidence. -/
def tokenPolicy (minConfidence : Confidence) : AdmissionPolicy where
  resource :=
    { mode := .hard, target := ⟨.tokens, 100000⟩, elasticCeiling := none,
      hardCeiling := ⟨.tokens, 100000⟩ }
  time :=
    { mode := .approval, targetSecs := 3600, elasticCeilingSecs := none, hardCeilingSecs := none,
      deadline := none }
  qualityFloor := .first [⟨"tests pass", true⟩]
  minConfidence := minConfidence
  renewal := none
  turn := none

def legacyConfig (policy : AdmissionPolicy) : DaemonConfig where
  policy := policy
  lifetimeScope := .lifetimeBounded
  gateway := false
  reservationTtlSecs := 3600
  replanHysteresis := {}

/-- An estimate of nothing but its confidence. -/
def blankEstimate : Estimate :=
  { durationP80Secs := none, resourceP80 := none, confidence := .low, nonneg := nofun }

def lanePreflight (n : BitVec 128) : PreflightInput :=
  { lane := "main", now := 0, criteria := [⟨"tests pass", true⟩], features := "edit",
    estimate := blankEstimate, context := none, approval := none, taskId := ⟨1⟩, planId := ⟨n⟩,
    reservationId := ⟨n⟩ }

def laneTool (n : BitVec 128) : CutRequest :=
  { op := .toolInvoked
      { lane := "main", toolName := "Bash", now := 0, typicalToolCalls := none,
        estimate := blankEstimate, planId := ⟨n⟩, reservationId := ⟨n⟩ }
    left := none }

/-- A preflight, and four calls of one tool, the last of which is a loop. -/
def admittedLoop : List CutRequest :=
  [⟨.preflight (lanePreflight 1) 0, none⟩, laneTool 2, laneTool 3, laneTool 4, laneTool 5]

/-- The same after a second preflight that is killed once its plan is in flight. -/
def killedLoop : List CutRequest :=
  [⟨.preflight (lanePreflight 1) 0, none⟩, ⟨.preflight (lanePreflight 2) 0, some 5⟩, laneTool 3,
    laneTool 4, laneTool 5, laneTool 6]

theorem not_rooted_nil (plans : PlanTable) (planId : PlanId) : ¬ Rooted plans [] planId := by
  intro rooted
  induction rooted with
  | first _ _ listed => cases listed
  | replan _ _ _ ih => exact ih

/-- Every preflight of the run is denied, and the plan of the killed one is reserved for. -/
theorem unadmitted_hold :
    ¬ (run (AdmissionHistory.step (legacyConfig (tokenPolicy .high))) .empty
      killedLoop).HeldForAdmitted := by
  have none_computed : (run (AdmissionHistory.step (legacyConfig (tokenPolicy .high))) .empty
      killedLoop).computed = [] := by decide +kernel
  have reserved : ((run (AdmissionHistory.step (legacyConfig (tokenPolicy .high))) .empty
      killedLoop).store.budget.reservations.rows.any fun r => r.class_ = .requiredWork) = true := by
    decide +kernel
  generalize run (AdmissionHistory.step (legacyConfig (tokenPolicy .high))) .empty killedLoop = h
    at none_computed reserved
  intro held
  obtain ⟨r, mem, required⟩ := List.any_eq_true.mp reserved
  obtain ⟨planId, -, rooted⟩ := held r mem (of_decide_eq_true required)
  rw [none_computed] at rooted
  exact not_rooted_nil _ _ rooted

theorem LegacyOp.answered_of_all {config : DaemonConfig} {s : Trajectory} {input : ToolInput}
    (all : ((laneInFlight s input.lane).all fun current => current.2.admission.isSome) = true) :
    (LegacyOp.toolInvoked input).Answered config s := by
  intro taskId plan here _ _ _ none
  rw [here, Option.all_some, none] at all
  cases all

theorem admitted_loop_held :
    (run (AdmissionHistory.step (legacyConfig (tokenPolicy .low))) .empty
      admittedLoop).HeldForAdmitted ∧
    ((run (AdmissionHistory.step (legacyConfig (tokenPolicy .low))) .empty
      admittedLoop).store.budget.reservations.rows.map Reservation.planId) = [some ⟨1⟩, some ⟨5⟩] := by
  refine ⟨holds_for_admitted_plans _ admittedLoop ?_, by decide +kernel⟩
  refine ⟨trivial, LegacyOp.answered_of_all ?_, LegacyOp.answered_of_all ?_,
    LegacyOp.answered_of_all ?_, LegacyOp.answered_of_all ?_, trivial⟩
  · decide +kernel
  · decide +kernel
  · decide +kernel
  · decide +kernel

end LibraGovernor
