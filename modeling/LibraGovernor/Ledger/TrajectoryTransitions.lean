/-
# LibraGovernor.Ledger.TrajectoryTransitions -- what each trajectory write changes

One inversion lemma for each write of the trajectory that can fail, in the form "the next
store is this one with that table replaced".  For the leases of the budget it is enough
to say that a ledger `Follows` another: every lease it has was there before, for the same
task, plan and key, and is still active only if nothing was done to it.  All writes of the
budget but `reserve` have that form.
-/
import LibraGovernor.Ledger.Trajectory
import LibraGovernor.Ledger.TaskTransitions

namespace LibraGovernor

open Relational Transaction

set_option autoImplicit false

/-! ## Leases that are there already -/

/-- A lease as it was, or closed. -/
structure Reservation.Follows (r r' : Reservation) : Prop where
  id : r'.id = r.id
  taskId : r'.taskId = r.taskId
  planId : r'.planId = r.planId
  class_ : r'.class_ = r.class_
  idempotencyKey : r'.idempotencyKey = r.idempotencyKey
  active : r'.state = .active → r' = r

namespace Reservation.Follows

theorem refl (r : Reservation) : r.Follows r := ⟨rfl, rfl, rfl, rfl, rfl, fun _ => rfl⟩

theorem trans {r r' r'' : Reservation} (first : r.Follows r') (next : r'.Follows r'') :
    r.Follows r'' where
  id := next.id.trans first.id
  taskId := next.taskId.trans first.taskId
  planId := next.planId.trans first.planId
  class_ := next.class_.trans first.class_
  idempotencyKey := next.idempotencyKey.trans first.idempotencyKey
  active := by
    intro active
    have same := next.active active
    rw [same] at active
    exact same.trans (first.active active)

theorem settle (value : Int) (known late : Bool) (now : OffsetDateTime) (r : Reservation) :
    r.Follows (r.settle value known late now) := ⟨rfl, rfl, rfl, rfl, rfl, nofun⟩

theorem release (now : OffsetDateTime) (r : Reservation) : r.Follows (r.release now) :=
  ⟨rfl, rfl, rfl, rfl, rfl, nofun⟩

theorem expire (now : OffsetDateTime) (r : Reservation) : r.Follows (r.expire now) :=
  ⟨rfl, rfl, rfl, rfl, rfl, nofun⟩

end Reservation.Follows

namespace TaskLedger

/-- Every lease was there before. -/
def Follows (b b' : TaskLedger) : Prop :=
  ∀ r' ∈ b'.reservations, ∃ r ∈ b.reservations, r.Follows r'

namespace Follows

variable {b b' b'' : TaskLedger}

theorem of_eq (same : b'.reservations = b.reservations) : Follows b b' := by
  intro r mem
  rw [same] at mem
  exact ⟨r, mem, .refl r⟩

theorem trans (first : Follows b b') (next : Follows b' b'') : Follows b b'' := by
  intro r'' mem
  obtain ⟨r', mem', step'⟩ := next r'' mem
  obtain ⟨r, mem, step⟩ := first r' mem'
  exact ⟨r, mem, step.trans step'⟩

theorem updateReservation {id : ReservationId} {f : Reservation → Reservation}
    {keeps : ∀ r, (f r).id = r.id} (follows : ∀ r : Reservation, r.Follows (f r)) :
    Follows b (b.updateReservation id f keeps) := by
  intro r' mem
  rw [TaskLedger.updateReservation, Table.updateAt, Table.mem_update] at mem
  obtain ⟨r, there, rfl⟩ := mem
  refine ⟨r, there, ?_⟩
  split
  · exact follows r
  · exact .refl r

theorem reclaim {close : Reservation → Reservation} {keeps : ∀ r, (close r).id = r.id}
    (follows : ∀ r : Reservation, r.Follows (close r)) (row : Reservation) :
    Follows b (TaskLedger.reclaim close keeps b row) := by
  have closed : Follows b (b.updateReservation row.id close keeps) := updateReservation follows
  exact closed.trans (of_eq (restoreReserve_reservations _ _ _))

/-- A sweep follows if each of its turns does. -/
theorem foldl {turn : TaskLedger → Reservation → TaskLedger}
    (each : ∀ b row, Follows b (turn b row)) (rows : List Reservation) :
    Follows b (rows.foldl turn b) := by
  induction rows generalizing b with
  | nil => exact of_eq rfl
  | cons row rows ih => exact (each b row).trans ih

theorem initializeTaskBudget {taskId : TaskId} {policy : Policy} {reserve : CompletionReserveEstimate}
    {scope : LifetimeScope} {now : OffsetDateTime} {out : Unit}
    (done : b.initializeTaskBudget taskId policy reserve scope now = .ok (out, b')) : Follows b b' :=
  of_eq (initializeTaskBudget_ok done).1

theorem settle {id : ReservationId} {actual : Option ResourceAmount} {now : OffsetDateTime}
    {out : SettleOutcome} (done : b.settle id actual now = .ok (out, b')) : Follows b b' := by
  rcases settle_ok done with rfl | ⟨row, value, known, -, -, ⟨-, rfl⟩ | ⟨-, rfl⟩⟩
  · exact of_eq rfl
  · exact (updateReservation (Reservation.Follows.settle value known false now)).trans
      (of_eq (restoreReserve_reservations _ _ _))
  · exact updateReservation (Reservation.Follows.settle value known true now)

theorem releaseActiveForPlan {taskId : TaskId} {planId : PlanId} {now : OffsetDateTime}
    {out : List Reservation} (done : b.releaseActiveForPlan taskId planId now = .ok (out, b')) :
    Follows b b' := by
  rw [releaseActiveForPlan_ok done]
  exact foldl (fun b row => reclaim (Reservation.Follows.release now) row) _

theorem expireStaleReservations {now : OffsetDateTime} {out : List Reservation}
    (done : b.expireStaleReservations now = .ok (out, b')) : Follows b b' := by
  rw [expireStaleReservations_ok done]
  refine foldl (fun b row => ?_) _
  rw [expireOne]
  exact (reclaim (Reservation.Follows.expire now) row).trans
    (of_eq (expireGranted_reservations _ _ _))

theorem adjustCompletionReserve {taskId : TaskId} {newAmount : ResourceAmount}
    {basis : CompletionReserveBasis} {now : OffsetDateTime} {out : AdjustOutcome}
    (done : b.adjustCompletionReserve taskId newAmount basis now = .ok (out, b')) : Follows b b' := by
  rcases adjustCompletionReserve_ok done with rfl | ⟨budget, -, -, -, same, -⟩
  · exact of_eq rfl
  · exact of_eq same

end Follows

/-! ## The terms of a budget -/

/-- What a budget was set up with. -/
def terms (budget : TaskBudget) : ResourceKind × Int × LifetimeScope × Policy :=
  (budget.resourceKind, budget.hardLimit, budget.lifetimeScope, budget.policy)

/-- The same tasks have budgets, on the same terms, and none was renewed. -/
structure SameTerms (b b' : TaskLedger) : Prop where
  budgets : ∀ taskId, (b'.taskBudget taskId).map terms = (b.taskBudget taskId).map terms
  renewals : b'.renewals = b.renewals

namespace SameTerms

variable {b b' b'' : TaskLedger}

theorem of_eq (same : b'.taskBudgets = b.taskBudgets) (renewals : b'.renewals = b.renewals) :
    SameTerms b b' := by
  refine ⟨?_, renewals⟩
  intro taskId
  rw [taskBudget, taskBudget, same]

theorem trans (first : SameTerms b b') (next : SameTerms b' b'') : SameTerms b b'' := by
  refine ⟨?_, next.renewals.trans first.renewals⟩
  intro taskId
  rw [next.budgets taskId, first.budgets taskId]

/-- Rewriting the other columns of one budget. -/
theorem updateAt {taskId : TaskId} (f : TaskBudget → TaskBudget) (keeps : ∀ b, (f b).taskId = b.taskId)
    (updated : b'.taskBudgets = b.taskBudgets.updateAt taskId f keeps)
    (renewals : b'.renewals = b.renewals) (same : ∀ budget, terms (f budget) = terms budget) :
    SameTerms b b' := by
  refine ⟨?_, renewals⟩
  intro other
  rw [taskBudget, taskBudget, updated, Table.find?_updateAt]
  split
  · rename_i here
    rw [here, Option.map_map]
    congr 1
    exact funext same
  · rfl

theorem restoreReserve (taskId : TaskId) (restore : Int) :
    SameTerms b (b.restoreReserve taskId restore) := by
  unfold TaskLedger.restoreReserve
  split
  · exact updateAt (fun b => { b with completionReserve := b.completionReserve + restore })
      (fun _ => rfl) rfl rfl fun _ => rfl
  · exact of_eq rfl rfl

theorem reclaim {close : Reservation → Reservation} {keeps : ∀ r, (close r).id = r.id}
    (row : Reservation) : SameTerms b (TaskLedger.reclaim close keeps b row) := by
  have closed : SameTerms b (b.updateReservation row.id close keeps) := of_eq rfl rfl
  exact closed.trans (restoreReserve _ _)

theorem foldl {turn : TaskLedger → Reservation → TaskLedger}
    (each : ∀ b row, SameTerms b (turn b row)) (rows : List Reservation) :
    SameTerms b (rows.foldl turn b) := by
  induction rows generalizing b with
  | nil => exact of_eq rfl rfl
  | cons row rows ih => exact (each b row).trans ih

theorem settle {id : ReservationId} {actual : Option ResourceAmount} {now : OffsetDateTime}
    {out : SettleOutcome} (done : b.settle id actual now = .ok (out, b')) : SameTerms b b' := by
  rcases settle_ok done with rfl | ⟨row, value, known, -, -, ⟨-, rfl⟩ | ⟨-, rfl⟩⟩
  · exact of_eq rfl rfl
  · have closed : SameTerms b (b.updateReservation id (Reservation.settle value known false now)
        fun _ => rfl) := of_eq rfl rfl
    exact closed.trans (restoreReserve _ _)
  · exact of_eq rfl rfl

theorem releaseActiveForPlan {taskId : TaskId} {planId : PlanId} {now : OffsetDateTime}
    {out : List Reservation} (done : b.releaseActiveForPlan taskId planId now = .ok (out, b')) :
    SameTerms b b' := by
  rw [releaseActiveForPlan_ok done]
  exact foldl (fun b row => reclaim row) _

theorem expireStaleReservations {now : OffsetDateTime} {out : List Reservation}
    (done : b.expireStaleReservations now = .ok (out, b')) : SameTerms b b' := by
  rw [expireStaleReservations_ok done]
  refine foldl (fun b row => ?_) _
  rw [expireOne]
  exact (reclaim row).trans (of_eq (expireGranted_budgets _ _ _) (expireGranted_renewals _ _ _))

theorem adjustCompletionReserve {taskId : TaskId} {newAmount : ResourceAmount}
    {basis : CompletionReserveBasis} {now : OffsetDateTime} {out : AdjustOutcome}
    (done : b.adjustCompletionReserve taskId newAmount basis now = .ok (out, b')) :
    SameTerms b b' := by
  rcases adjustCompletionReserve_ok done with rfl | ⟨budget, -, -, -, -, renewals, -, updated⟩
  · exact of_eq rfl rfl
  · have adjusted : SameTerms b { b with
        taskBudgets := b.taskBudgets.updateAt taskId
          (fun b => { b with completionReserve := newAmount.value }) fun _ => rfl } :=
      updateAt (fun b => { b with completionReserve := newAmount.value }) (fun _ => rfl) rfl rfl
        fun _ => rfl
    exact adjusted.trans (updateAt (fun b => { b with completionReserveBasis := basis })
      (fun _ => rfl) updated renewals fun _ => rfl)

theorem reserve {req : ReserveRequest} {fresh : ReservationId} {out : ReserveOutcome}
    (done : b.reserve req fresh = .ok (out, b')) : SameTerms b b' := by
  rcases reserve_ok done with ⟨rfl, -⟩ | ⟨row, -, granted⟩
  · exact of_eq rfl rfl
  · obtain ⟨budget, draw, _, -, -, -, -, -, updated⟩ := granted.budgeted
    exact updateAt (fun b => { b with completionReserve := budget.completionReserve - draw })
      (fun _ => rfl) updated granted.renewals fun _ => rfl

end SameTerms

/-! ## What is settled, and what is active -/

/-- Giving a lease back takes nothing out of what is settled. -/
theorem reclaim_settled {b : TaskLedger} {close : Reservation → Reservation}
    {keeps : ∀ r, (close r).id = r.id} {row : Reservation}
    (found : b.reservations.find? row.id = some row) (active : row.state = .active)
    (unsettled : (close row).state ≠ .settled) (taskId : TaskId) :
    (reclaim close keeps b row).settled taskId = b.settled taskId := by
  have moved := Table.sum_updateAt b.reservations found close keeps fun r =>
    if r.taskId = taskId then r.settledPart else 0
  simp only [Reservation.settledPart, active, unsettled, reduceCtorEq, if_false, ite_self,
    add_zero] at moved
  rw [settled, reclaim_reservations, settled]
  exact moved

theorem releaseActiveForPlan_settled {b b' : TaskLedger} {taskId : TaskId} {planId : PlanId}
    {now : OffsetDateTime} {out : List Reservation}
    (done : b.releaseActiveForPlan taskId planId now = .ok (out, b')) (other : TaskId) :
    b'.settled other = b.settled other := by
  rw [releaseActiveForPlan_ok done]
  have keep : ∀ (mid : TaskLedger) row, mid.settled other = b.settled other →
      mid.reservations.find? row.id = some row → row.state = .active →
      (reclaim (Reservation.release now) (fun _ => rfl) mid row).settled other = b.settled other := by
    intro mid row same found active
    exact (reclaim_settled found active (by rintro ⟨⟩) other).trans same
  refine sweep_invariant keep (reclaim_frame _ _) (selected_distinct b _) (selected_there b ?_) rfl
  · intro r selected
    exact (of_decide_eq_true selected).2.2

theorem expireStaleReservations_settled {b b' : TaskLedger} {now : OffsetDateTime}
    {out : List Reservation} (done : b.expireStaleReservations now = .ok (out, b')) (other : TaskId) :
    b'.settled other = b.settled other := by
  rw [expireStaleReservations_ok done]
  have keep : ∀ (mid : TaskLedger) row, mid.settled other = b.settled other →
      mid.reservations.find? row.id = some row → row.state = .active →
      (expireOne now mid row).settled other = b.settled other := by
    intro mid row same found active
    rw [expireOne, settled, expireGranted_reservations]
    exact (reclaim_settled found active (by rintro ⟨⟩) other).trans same
  refine sweep_invariant keep (expireOne_frame now) (selected_distinct b _) (selected_there b ?_) rfl
  · intro r stale
    simp only [leaseStale, Bool.and_eq_true, decide_eq_true_eq] at stale
    exact stale.1

/-- What is still active after leases were reclaimed was active before, and is none of them. -/
theorem active_of_reclaimAll {close : Reservation → Reservation} {keeps : ∀ r, (close r).id = r.id}
    (closes : ∀ r, (close r).state ≠ .active) (rows : List Reservation) {b : TaskLedger}
    {r : Reservation} (mem : r ∈ (reclaimAll close keeps b rows).reservations)
    (active : r.state = .active) : r ∈ b.reservations ∧ r.id ∉ rows.map Reservation.id := by
  induction rows generalizing b with
  | nil => exact ⟨mem, List.not_mem_nil⟩
  | cons row rows ih =>
      obtain ⟨mem', apart⟩ := ih (b := reclaim close keeps b row) mem
      rw [reclaim_reservations, Table.updateAt, Table.mem_update] at mem'
      obtain ⟨old, there, same⟩ := mem'
      by_cases here : old.id = row.id
      · rw [if_pos here] at same
        rw [← same] at active
        exact absurd active (closes old)
      · rw [if_neg here] at same
        subst same
        refine ⟨there, ?_⟩
        rw [List.map_cons, List.mem_cons, not_or]
        exact ⟨here, apart⟩

/-- A plan has nothing active once it was released. -/
theorem releaseActiveForPlan_none_active {b b' : TaskLedger} {taskId : TaskId} {planId : PlanId}
    {now : OffsetDateTime} {out : List Reservation}
    (done : b.releaseActiveForPlan taskId planId now = .ok (out, b')) {r : Reservation}
    (mem : r ∈ b'.reservations) (task : r.taskId = taskId) (plan : r.planId = some planId) :
    r.state ≠ .active := by
  intro active
  rw [releaseActiveForPlan_ok done] at mem
  obtain ⟨there, apart⟩ := active_of_reclaimAll (by rintro r ⟨⟩) _ mem active
  refine apart (List.mem_map_of_mem ?_)
  exact List.mem_filter.mpr ⟨there, decide_eq_true ⟨task, plan, active⟩⟩

/-- A task without an active lease holds nothing. -/
theorem active_eq_zero {b : TaskLedger} {taskId : TaskId}
    (none : ∀ r ∈ b.reservations, r.taskId = taskId → r.state ≠ .active) : b.active taskId = 0 := by
  refine Table.sum_eq_zero _ ?_
  intro r mem
  by_cases here : r.taskId = taskId
  · rw [if_pos here, Reservation.activePart, if_neg (none r mem here)]
  · rw [if_neg here]

/-- A required reserve within the headroom, under a fresh key, is granted. -/
theorem reserve_granted {b b' : TaskLedger} {req : ReserveRequest} {fresh : ReservationId}
    {out : ReserveOutcome} {budget : TaskBudget} (done : b.reserve req fresh = .ok (out, b'))
    (unused : ∀ r ∈ b.reservations, r.taskId = req.taskId → r.idempotencyKey ≠ req.idempotencyKey)
    (found : b.taskBudget req.taskId = some budget) (required : req.class_ = .requiredWork)
    (fits : req.amount.value ≤ budget.gateHeadroom (b.renewedCapacity req.taskId)
      (b.settled req.taskId) (b.active req.taskId)) : ∃ row, out = .granted row := by
  have free : b.findByTaskKey req.taskId req.idempotencyKey = none := by
    refine List.find?_eq_none.mpr ?_
    intro r mem same
    exact unused r mem (of_decide_eq_true same).1 (of_decide_eq_true same).2
  simp only [reserve, free, found, required, drawFor, if_neg (Int.not_lt.mpr fits)] at done
  split at done
  · cases done
  · simp only [bind_eq_ok_iff] at done
    obtain ⟨_, -, _, -, _, -, _, -, _, -, done⟩ := done
    cases done
    exact ⟨_, rfl⟩

end TaskLedger

/-! ## Inversions -/

namespace Trajectory

variable {s s' : Trajectory} {out : Unit}

theorem inserted_ok {ρ κ : Type} [DecidableEq κ] {key : ρ → κ} {t t' : Table ρ key} {row : ρ}
    (done : inserted t row = .ok t') : t.insert? row = some t' := by
  unfold inserted at done
  split at done
  · cases done
  · rename_i table found
    cases done
    exact found

theorem insertTask_ok {taskId : TaskId} {now : OffsetDateTime}
    (done : s.insertTask taskId now = .ok (out, s')) :
    ∃ tasks, s.tasks.insert? taskId = some tasks ∧ s' = { s with tasks } := by
  simp only [insertTask, bind_eq_ok_iff] at done
  obtain ⟨_, -, tasks, stored, done⟩ := done
  cases done
  exact ⟨tasks, inserted_ok stored, rfl⟩

theorem insertSessionTask_ok {sessionId : String} {taskId : TaskId} {now : OffsetDateTime}
    (done : s.insertSessionTask sessionId taskId now = .ok (out, s')) :
    ∃ sessionTasks, s.sessionTasks.insert? ⟨sessionId, taskId⟩ = some sessionTasks ∧
      s' = { s with sessionTasks } := by
  simp only [insertSessionTask, bind_eq_ok_iff] at done
  obtain ⟨_, -, sessionTasks, stored, done⟩ := done
  cases done
  exact ⟨sessionTasks, inserted_ok stored, rfl⟩

/-- A session stays with its task. -/
theorem taskIdForSession_insertSessionTask {sessionId : String} {taskId : TaskId} {now : OffsetDateTime}
    (done : s.insertSessionTask sessionId taskId now = .ok (out, s')) {lane : String} {known : TaskId}
    (named : s.taskIdForSession lane = some known) : s'.taskIdForSession lane = some known := by
  obtain ⟨sessionTasks, stored, rfl⟩ := insertSessionTask_ok done
  rw [taskIdForSession, Option.map_eq_some_iff] at named ⊢
  obtain ⟨row, found, rfl⟩ := named
  refine ⟨row, ?_, rfl⟩
  rw [Table.find?_eq_some_iff] at found ⊢
  exact ⟨(Table.mem_insert? stored row).mpr (.inl found.1), found.2⟩

theorem insertContract_ok {taskId : TaskId} {contract : CompletionContract} {now : OffsetDateTime}
    (done : s.insertContract taskId contract now = .ok (out, s')) :
    ∃ contracts, s.contracts.insert? ⟨taskId, contract⟩ = some contracts ∧
      s' = { s with contracts } := by
  simp only [insertContract, bind_eq_ok_iff] at done
  obtain ⟨_, -, contracts, stored, done⟩ := done
  cases done
  exact ⟨contracts, inserted_ok stored, rfl⟩

theorem insertPlan_ok {plan : ExecutionPlan} (done : s.insertPlan plan = .ok (out, s')) :
    ∃ plans, s.plans.insert? plan = some plans ∧ s' = { s with plans } := by
  simp only [insertPlan, bind_eq_ok_iff] at done
  obtain ⟨_, -, plans, stored, done⟩ := done
  cases done
  exact ⟨plans, inserted_ok stored, rfl⟩

theorem recordPreflight_ok {sessionId : String} {taskId : TaskId} {planId : PlanId}
    {now : OffsetDateTime} (done : s.recordPreflight sessionId taskId planId now = .ok (out, s')) :
    ∃ preflights, s.preflights.insert? ⟨sessionId, planId, taskId, .inFlight, now⟩ = some preflights ∧
      s' = { s with preflights } := by
  simp only [recordPreflight, bind_eq_ok_iff] at done
  obtain ⟨_, -, preflights, stored, done⟩ := done
  cases done
  exact ⟨preflights, inserted_ok stored, rfl⟩

theorem insertReceipt_ok {receipt : ExecutionReceipt}
    (done : s.insertReceipt receipt = .ok (out, s')) :
    ∃ receipts, s.receipts.insert? receipt = some receipts ∧ s' = { s with receipts } := by
  simp only [insertReceipt, bind_eq_ok_iff] at done
  obtain ⟨_, -, receipts, stored, done⟩ := done
  cases done
  exact ⟨receipts, inserted_ok stored, rfl⟩

theorem recordToolInvocation_ok {sessionId toolName : String} {now : OffsetDateTime} {streak : Nat}
    (done : s.recordToolInvocation sessionId toolName now = .ok (streak, s')) :
    streak = s.toolStreak sessionId toolName ∧ ∃ toolCalls, s' = { s with toolCalls } := by
  simp only [recordToolInvocation, bind_eq_ok_iff] at done
  obtain ⟨_, -, done⟩ := done
  cases done
  exact ⟨rfl, _, rfl⟩

theorem recordReplanForTask_ok {taskId : TaskId} {now : OffsetDateTime} {toolCalls : Nat}
    (done : s.recordReplanForTask taskId now toolCalls = .ok (out, s')) :
    ∃ replanStates, s' = { s with replanStates } := by
  simp only [recordReplanForTask, bind_eq_ok_iff] at done
  obtain ⟨_, -, done⟩ := done
  cases done
  exact ⟨_, rfl⟩

theorem onBudget_ok {α : Type} {tx : TaskLedger → Except TaskLedgerError (α × TaskLedger)} {a : α}
    (done : onBudget tx s = .ok (a, s')) :
    ∃ budget, tx s.budget = .ok (a, budget) ∧ s' = { s with budget } := by
  unfold onBudget at done
  split at done
  · rename_i a budget committed
    cases done
    exact ⟨budget, committed, rfl⟩
  · cases done

end Trajectory

end LibraGovernor
