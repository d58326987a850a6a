/-
# LibraGovernor.Daemon.Agreement -- policy and ledger agree on the legacy route

Every lane has at most one plan in flight, and what is active of its task is held for
that plan.  A preflight and a replan first publish the new plan and then release the old
one's leases, so the invariant is stated for the plans the leases are held for
(`AgreeWith`), which for a moment are not the ones in flight; once nothing of the task is
active the lane is `Ready` for the new plan's lease.

With that, a preflight that admits its plan is granted its envelope, whatever was
requested before, unless the policy's gate saturates (`Daemon.Envelope`).
-/
import LibraGovernor.Daemon.Envelope
import LibraGovernor.Daemon.PlanAdmission

namespace LibraGovernor

open Relational Scan Transaction Transition

set_option autoImplicit false

/-! ## Requests the ledger does not fail -/

/-- The request ended in an error of the ledger, or was killed. -/
def stoppedByLedger : Stopped DaemonError → Bool
  | .killed => true
  | .failed (.ledger _) => true
  | .failed _ => false

namespace Handler

variable {α β : Type} {pre inv : Trajectory → Prop} {M : α → Trajectory → Prop}

/-- Unless the ledger fails, the handler ends with a value and `M`, or with another error and
`inv`. -/
def Ends (pre : Trajectory → Prop) (p : Handler α) (M : α → Trajectory → Prop)
    (inv : Trajectory → Prop) : Prop :=
  Script.Triple pre p fun r s =>
    match r with
    | .ok a => M a s
    | .error e => stoppedByLedger e = false → inv s

namespace Ends

theorem pure {a : α} (holds : ∀ s, pre s → M a s) : Ends pre (Pure.pure a) M inv :=
  Script.Triple.pure holds

theorem fail {e : DaemonError} (holds : ∀ s, pre s → inv s) :
    Ends pre (Script.fail e : Handler α) M inv :=
  Script.Triple.fail fun s start _ => holds s start

theorem bind {p : Handler α} {f : α → Handler β} {N : β → Trajectory → Prop}
    (first : Ends pre p M inv) (next : ∀ a, Ends (M a) (f a) N inv) : Ends pre (p >>= f) N inv := by
  refine Script.Triple.bind (M := M) (first.conseq (fun _ => id) ?_) next
  intro r s ended
  cases r with
  | ok a => exact ended
  | error e => exact ended

theorem read_bind {f : Trajectory → α} {next : α → Handler β} {N : β → Trajectory → Prop}
    (rest : ∀ a, Ends (fun s => pre s ∧ f s = a) (next a) N inv) :
    Ends pre (Script.read f >>= next) N inv := Script.Triple.read_bind rest

theorem onLedger {tx : Trajectory → Except LedgerError (α × Trajectory)}
    (done : ∀ s a s', pre s → tx s = .ok (a, s') → M a s') :
    Ends pre (Handler.onLedger tx) M inv := by
  refine Script.Triple.write_cases done ?_ ?_
  · rintro s _ ⟨⟩
  · rintro s e _ ⟨⟩

theorem onBudget {tx : TaskLedger → Except TaskLedgerError (α × TaskLedger)}
    (done : ∀ s a budget, pre s → tx s.budget = .ok (a, budget) → M a { s with budget }) :
    Ends pre (Handler.onBudget tx) M inv := by
  refine Script.Triple.write_cases ?_ ?_ ?_
  · intro s a s' start committed
    obtain ⟨budget, done', rfl⟩ := Trajectory.onBudget_ok committed
    exact done s a budget start done'
  · rintro s _ ⟨⟩
  · rintro s e _ ⟨⟩

theorem of_start {p : Handler α} (each : ∀ s, pre s → Ends (fun s' => s' = s) p M inv) :
    Ends pre p M inv := Script.Triple.of_start each

theorem conseq {p : Handler α} {pre' : Trajectory → Prop} {M' : α → Trajectory → Prop}
    (ends : Ends pre p M inv) (stronger : ∀ s, pre' s → pre s) (weaker : ∀ a s, M a s → M' a s) :
    Ends pre' p M' inv := by
  refine Script.Triple.conseq ends stronger ?_
  intro r s ended
  cases r with
  | ok a => exact weaker a s ended
  | error e => exact ended

end Ends

end Handler

/-! ## What is in flight -/

namespace Trajectory

variable {s s' : Trajectory}

theorem inFlightPlan_of_singleton {lane : String} {p : SessionPreflight} (only : s.inFlight lane = [p]) :
    s.inFlightPlanForSession lane = some p.planId := by
  rw [inFlightPlanForSession, only]
  rfl

theorem inFlightPlan_congr {lane : String} (same : s'.inFlight lane = s.inFlight lane) :
    s'.inFlightPlanForSession lane = s.inFlightPlanForSession lane := by
  rw [inFlightPlanForSession, same, inFlightPlanForSession]

theorem supersede_own (lane : String) {out : Unit}
    (done : s.supersedeInFlightPreflights lane = .ok (out, s')) : s'.inFlight lane = [] := by
  cases done
  refine List.filter_eq_nil_iff.mpr ?_
  intro p mem
  rw [Table.mem_rows, Table.mem_update] at mem
  obtain ⟨old, -, rfl⟩ := mem
  by_cases here : old.sessionId = lane ∧ old.status = .inFlight
  · simp [here]
  · simp [here]

theorem supersede_others {lane other : String} (apart : other ≠ lane) {out : Unit}
    (done : s.supersedeInFlightPreflights lane = .ok (out, s')) :
    s'.inFlight other = s.inFlight other := by
  cases done
  refine filter_map_eq_filter ?_
  intro p mem
  by_cases here : p.sessionId = lane ∧ p.status = .inFlight
  · right
    simp [here, Ne.symm apart]
  · left
    rw [if_neg here]

theorem recordPreflight_inFlight {lane : String} {taskId : TaskId} {planId : PlanId}
    {now : OffsetDateTime} {out : Unit} (done : s.recordPreflight lane taskId planId now = .ok (out, s'))
    (other : String) :
    s'.inFlight other = s.inFlight other ++
      if other = lane then [⟨lane, planId, taskId, .inFlight, now⟩] else [] := by
  obtain ⟨preflights, stored, rfl⟩ := recordPreflight_ok done
  obtain ⟨-, rows⟩ := (Table.insert?_eq_some_iff _ _ _).mp stored
  simp only [inFlight, rows, List.filter_append]
  congr 1
  by_cases here : other = lane
  · simp [here]
  · simp [here, Ne.symm here]

end Trajectory

/-- The plan is in the plans, and the lane's only one in flight. -/
structure PublishedAs (lane : String) (plan : ExecutionPlan) (s s' : Trajectory) : Prop where
  plans : s.plans.insert? plan = some s'.plans
  own : ∃ p : SessionPreflight, p.planId = plan.id ∧ s'.inFlight lane = [p]
  others : ∀ other, other ≠ lane → s'.inFlight other = s.inFlight other
  frame : s' = { s with plans := s'.plans, preflights := s'.preflights }

theorem publishPlan_ends (lane : String) (plan : ExecutionPlan) (now : OffsetDateTime)
    (s : Trajectory) {inv : Trajectory → Prop} :
    Handler.Ends (fun s' => s' = s) (publishPlan lane plan now)
      (fun _ s' => PublishedAs lane plan s s') inv := by
  refine .bind (M := fun _ s₁ => s.insertPlan plan = .ok ((), s₁)) (.onLedger ?_) fun _ => ?_
  · rintro _ _ s₁ rfl done
    exact done
  refine .bind (M := fun _ s₂ => ∃ s₁, s.insertPlan plan = .ok ((), s₁) ∧
    s₁.supersedeInFlightPreflights lane = .ok ((), s₂)) (.onLedger ?_) fun _ => .onLedger ?_
  · intro s₁ _ s₂ inserted done
    exact ⟨s₁, inserted, done⟩
  · rintro s₂ _ s₃ ⟨s₁, inserted, superseded⟩ recorded
    have flight := Trajectory.recordPreflight_inFlight recorded
    have emptied := Trajectory.supersede_own lane superseded
    obtain ⟨plans, stored, rfl⟩ := Trajectory.insertPlan_ok inserted
    obtain ⟨preflights, -, rfl⟩ := Trajectory.recordPreflight_ok recorded
    refine ⟨?_, ⟨⟨lane, plan.id, plan.taskId, .inFlight, now⟩, rfl, ?_⟩, ?_, ?_⟩
    · cases superseded
      exact stored
    · rw [flight, emptied, if_pos rfl]
      rfl
    · intro other apart
      rw [flight, if_neg apart, List.append_nil]
      have aside := Trajectory.supersede_others apart superseded
      exact aside
    · cases superseded
      rfl

theorem PublishedAs.current {lane : String} {plan : ExecutionPlan} {s s' : Trajectory}
    (published : PublishedAs lane plan s s') : s'.inFlightPlanForSession lane = some plan.id := by
  obtain ⟨p, named, only⟩ := published.own
  rw [Trajectory.inFlightPlan_of_singleton only, named]

/-! ## The invariant -/

/-- The active leases of a lane's task are held for one plan of the lane. -/
def Held (current : String → Option PlanId) (s : Trajectory) : Prop :=
  ∀ lane taskId, s.taskIdForSession lane = some taskId → ∀ r ∈ s.budget.reservations,
    r.taskId = taskId → r.state = .active → r.planId = current lane

structure AgreeWith (config : DaemonConfig) (current : String → Option PlanId) (s : Trajectory) :
    Prop where
  one : ∀ lane, (s.inFlight lane).length ≤ 1
  known : ∀ lane taskId, s.taskIdForSession lane = some taskId → taskId ∈ s.tasks
  apart : ∀ lane lane' taskId, s.taskIdForSession lane = some taskId →
    s.taskIdForSession lane' = some taskId → lane = lane'
  owned : ∀ r ∈ s.budget.reservations, r.taskId ∈ s.tasks
  keyed : ∀ r ∈ s.budget.reservations, ∃ plan ∈ s.plans, r.planId = some plan.id ∧
    r.idempotencyKey = planKey plan.id
  terms : ∀ taskId budget, s.budget.taskBudget taskId = some budget →
    TaskLedger.terms budget = config.terms
  renewals : s.budget.renewals = .empty
  held : Held current s

/-- The leases are held for the plans in flight. -/
def Agree (config : DaemonConfig) (s : Trajectory) : Prop :=
  AgreeWith config s.inFlightPlanForSession s

namespace AgreeWith

variable {config : DaemonConfig} {current : String → Option PlanId} {s : Trajectory}

theorem empty (config : DaemonConfig) : Agree config .empty where
  one _ := Nat.zero_le 1
  known := by rintro lane taskId ⟨⟩
  apart := by rintro lane lane' taskId ⟨⟩
  owned := by rintro r ⟨⟩
  keyed := by rintro r ⟨⟩
  terms := by rintro taskId budget ⟨⟩
  renewals := rfl
  held := by rintro lane taskId ⟨⟩

/-- Leases may be closed, and budgets change on their terms. -/
theorem budget (agree : AgreeWith config current s) {budget' : TaskLedger}
    (follows : s.budget.Follows budget') (same : s.budget.SameTerms budget') :
    AgreeWith config current { s with budget := budget' } where
  one := agree.one
  known := agree.known
  apart := agree.apart
  owned r' mem := by
    obtain ⟨r, there, step⟩ := follows r' mem
    rw [step.taskId]
    exact agree.owned r there
  keyed r' mem := by
    obtain ⟨r, there, step⟩ := follows r' mem
    rw [step.planId, step.idempotencyKey]
    exact agree.keyed r there
  terms taskId budget found := by
    have before := same.budgets taskId
    rw [found, Option.map_some] at before
    obtain ⟨budget₀, there, terms⟩ := Option.map_eq_some_iff.mp before.symm
    rw [← terms]
    exact agree.terms taskId budget₀ there
  renewals := same.renewals.trans agree.renewals
  held lane taskId task r' mem here active := by
    obtain ⟨r, there, step⟩ := follows r' mem
    have unchanged := step.active active
    rw [unchanged] at here active ⊢
    exact agree.held lane taskId task r there here active

/-- A first budget of a task is set up on the terms of the configuration. -/
theorem firstBudget (agree : AgreeWith config current s) {taskId : TaskId}
    {reserve : CompletionReserveEstimate} {now : OffsetDateTime} {budget' : TaskLedger} {out : Unit}
    (done : s.budget.initializeTaskBudget taskId config.policy.ledger reserve config.lifetimeScope now =
      .ok (out, budget')) : AgreeWith config current { s with budget := budget' } := by
  obtain ⟨reservations, renewals, ⟨fresh, own, kind, hard, -, -, scope, policy, stored⟩, -⟩ :=
    TaskLedger.initializeTaskBudget_ok done
  refine
    { one := agree.one
      known := agree.known
      apart := agree.apart
      owned := fun r mem => agree.owned r (reservations ▸ mem)
      keyed := fun r mem => agree.keyed r (reservations ▸ mem)
      terms := ?_
      renewals := renewals.trans agree.renewals
      held := fun lane taskId task r mem => agree.held lane taskId task r (reservations ▸ mem) }
  intro other budget found
  cases inserted : s.budget.taskBudgets.insert? fresh with
  | none =>
      rw [TaskLedger.taskBudget, stored, inserted] at found
      exact agree.terms other budget found
  | some table =>
      rw [TaskLedger.taskBudget, stored, inserted, Option.getD_some, Table.find?_insert? inserted] at found
      split at found
      · cases found
        simp only [TaskLedger.terms, DaemonConfig.terms, kind, hard, scope, policy,
          AdmissionPolicy.ledger, Option.isSome_map]
      · exact agree.terms other budget found

/-- A new plan is published; what is held stays held for the earlier one. -/
theorem publish (agree : AgreeWith config current s) {lane : String} {plan : ExecutionPlan}
    {s' : Trajectory} (published : PublishedAs lane plan s s') : AgreeWith config current s' := by
  have frame := published.frame
  have one : ∀ other, (s'.inFlight other).length ≤ 1 := by
    intro other
    by_cases here : other = lane
    · obtain ⟨p, -, only⟩ := published.own
      rw [here, only]
      exact Nat.le_refl 1
    · rw [published.others other here]
      exact agree.one other
  have plans := published.plans
  rw [frame] at one plans ⊢
  refine
    { one := one
      known := agree.known
      apart := agree.apart
      owned := agree.owned
      keyed := ?_
      terms := agree.terms
      renewals := agree.renewals
      held := agree.held }
  intro r mem
  obtain ⟨plan', there, key⟩ := agree.keyed r mem
  exact ⟨plan', (Table.mem_insert? plans plan').mpr (.inl there), key⟩

/-- The lanes' tasks and their leases decide what is held. -/
theorem rebase (agree : AgreeWith config current s)
    (same : ∀ lane taskId, s.taskIdForSession lane = some taskId →
      s.inFlightPlanForSession lane = current lane ∨
        ∀ r ∈ s.budget.reservations, r.taskId = taskId → r.state ≠ .active) : Agree config s where
  one := agree.one
  known := agree.known
  apart := agree.apart
  owned := agree.owned
  keyed := agree.keyed
  terms := agree.terms
  renewals := agree.renewals
  held lane taskId task r mem here active := by
    rcases same lane taskId task with current | idle
    · rw [current]
      exact agree.held lane taskId task r mem here active
    · exact absurd active (idle r mem here)

/-- A plan that was not there before has no lease. -/
theorem unheld (agree : AgreeWith config current s) {plan : ExecutionPlan} {plans : Table ExecutionPlan
    ExecutionPlan.id} (stored : s.plans.insert? plan = some plans) :
    ∀ r ∈ s.budget.reservations, r.planId ≠ some plan.id := by
  intro r mem named
  obtain ⟨plan', there, named', -⟩ := agree.keyed r mem
  have same : plan'.id = plan.id := Option.some.inj (named'.symm.trans named)
  have absent := ((Table.insert?_eq_some_iff _ _ _).mp stored).1
  exact (Table.find?_eq_none_iff _ _).mp absent plan' there same

end AgreeWith

theorem planKey_injective {p q : PlanId} (same : planKey p = planKey q) : p = q := by
  have tails := congrArg String.toList same
  simp only [planKey, String.toList_append, List.append_cancel_left_eq] at tails
  have digits := congrArg (fun cs => Nat.ofDigitChars 10 cs 0) tails
  simp only [Nat.toString_eq_repr, Nat.toList_repr, Nat.ofDigitChars_ten_toDigits] at digits
  cases p
  cases q
  congr
  exact BitVec.eq_of_toNat_eq digits

/-! ## Ready for the new plan's lease -/

/-- A lane between two plans: its leases are still held for the earlier one. -/
structure Moving (config : DaemonConfig) (lane : String) (taskId : TaskId) (planId : PlanId)
    (spent : Int) (earlier : Option PlanId) (s : Trajectory) : Prop where
  agree : ∃ current, AgreeWith config current s ∧ current lane = earlier ∧
    ∀ other, other ≠ lane → current other = s.inFlightPlanForSession other
  task : s.taskIdForSession lane = some taskId
  current : s.inFlightPlanForSession lane = some planId
  unheld : ∀ r ∈ s.budget.reservations, r.planId ≠ some planId
  planned : ∃ plan ∈ s.plans, plan.id = planId
  spent : s.budget.settled taskId = spent

/-- The lane's task has nothing active, and its plan in flight no lease at all. -/
structure Ready (config : DaemonConfig) (lane : String) (taskId : TaskId) (planId : PlanId)
    (spent : Int) (s : Trajectory) : Prop where
  agree : Agree config s
  task : s.taskIdForSession lane = some taskId
  current : s.inFlightPlanForSession lane = some planId
  idle : ∀ r ∈ s.budget.reservations, r.taskId = taskId → r.state ≠ .active
  unheld : ∀ r ∈ s.budget.reservations, r.planId ≠ some planId
  planned : ∃ plan ∈ s.plans, plan.id = planId
  spent : s.budget.settled taskId = spent

section Moves

variable {config : DaemonConfig} {lane : String} {taskId : TaskId} {planId : PlanId} {spent : Int}
  {earlier : Option PlanId} {s : Trajectory}

theorem Agree.moving {plan : ExecutionPlan} {s' : Trajectory} (agree : Agree config s)
    (task : s.taskIdForSession lane = some taskId) (current : s.inFlightPlanForSession lane = earlier)
    (figure : s.budget.settled taskId = spent) (published : PublishedAs lane plan s s') :
    Moving config lane taskId plan.id spent earlier s' := by
  have after := agree.publish published
  have now := published.current
  have others := published.others
  have planned := (Table.mem_insert? published.plans plan).mpr (.inr rfl)
  have unheld := agree.unheld published.plans
  have frame := published.frame
  rw [frame] at after now others planned ⊢
  refine ⟨⟨_, after, current, ?_⟩, task, now, unheld, ⟨plan, planned, rfl⟩, figure⟩
  intro other apart
  exact (Trajectory.inFlightPlan_congr (others other apart)).symm

/-- Releasing the earlier plan leaves nothing active. -/
theorem Moving.ready (moving : Moving config lane taskId planId spent earlier s) {budget' : TaskLedger}
    (follows : s.budget.Follows budget') (same : s.budget.SameTerms budget')
    (settled : budget'.settled taskId = s.budget.settled taskId)
    (released : ∀ r ∈ budget'.reservations, r.taskId = taskId → r.planId = earlier →
      r.state ≠ .active) : Ready config lane taskId planId spent { s with budget := budget' } := by
  obtain ⟨current, agree, own, others⟩ := moving.agree
  have after := agree.budget follows same
  have idle : ∀ r ∈ budget'.reservations, r.taskId = taskId → r.state ≠ .active := by
    intro r mem here active
    refine released r mem here ?_ active
    rw [← own]
    exact after.held lane taskId moving.task r mem here active
  refine ⟨after.rebase ?_, moving.task, moving.current, idle, ?_, moving.planned,
    settled.trans moving.spent⟩
  · intro other otherTask task
    by_cases here : other = lane
    · right
      subst here
      rw [Option.some.inj (task.symm.trans moving.task)]
      exact idle
    · left
      exact (others other here).symm
  · intro r' mem
    obtain ⟨r, there, step⟩ := follows r' mem
    rw [step.planId]
    exact moving.unheld r there

theorem Ready.budget (ready : Ready config lane taskId planId spent s) {budget' : TaskLedger}
    (follows : s.budget.Follows budget') (agree : Agree config { s with budget := budget' })
    (settled : budget'.settled taskId = s.budget.settled taskId) :
    Ready config lane taskId planId spent { s with budget := budget' } where
  agree := agree
  task := ready.task
  current := ready.current
  idle r' mem here active := by
    obtain ⟨r, there, step⟩ := follows r' mem
    have unchanged := step.active active
    rw [unchanged] at here active
    exact ready.idle r there here active
  unheld r' mem := by
    obtain ⟨r, there, step⟩ := follows r' mem
    rw [step.planId]
    exact ready.unheld r there
  planned := ready.planned
  spent := settled.trans ready.spent

theorem Ready.adjust (ready : Ready config lane taskId planId spent s) {amount : ResourceAmount}
    {basis : CompletionReserveBasis} {now : OffsetDateTime} {out : TaskLedger.AdjustOutcome}
    {budget' : TaskLedger}
    (done : s.budget.adjustCompletionReserve taskId amount basis now = .ok (out, budget')) :
    Ready config lane taskId planId spent { s with budget := budget' } := by
  have follows := TaskLedger.Follows.adjustCompletionReserve done
  have terms := TaskLedger.SameTerms.adjustCompletionReserve done
  refine ready.budget follows (ready.agree.budget follows terms) ?_
  rcases TaskLedger.adjustCompletionReserve_ok done with rfl | ⟨_, -, -, -, same, -⟩
  · rfl
  · rw [TaskLedger.settled, same, TaskLedger.settled]

/-- The lease of the plan in flight, whatever came of it. -/
theorem Ready.reserve (ready : Ready config lane taskId planId spent s) {budget' : TaskLedger}
    {amount : ResourceAmount} {now : OffsetDateTime} {fresh : ReservationId}
    {out : TaskLedger.ReserveOutcome}
    (done : s.budget.reserve (planReserve config lane taskId planId amount now) fresh =
      .ok (out, budget')) : Agree config { s with budget := budget' } := by
  rcases TaskLedger.reserve_ok done with ⟨rfl, -⟩ | ⟨row, -, granted⟩
  · exact ready.agree
  have terms := TaskLedger.SameTerms.reserve done
  have agree := ready.agree
  obtain ⟨_, _, _, -, -, -, row_eq, -⟩ := granted.budgeted
  have rows : ∀ r ∈ budget'.reservations, r ∈ s.budget.reservations ∨ r = row := by
    intro r mem
    exact (Table.mem_insert? granted.inserted r).mp mem
  refine
    { one := agree.one
      known := agree.known
      apart := agree.apart
      owned := ?_
      keyed := ?_
      terms := ?_
      renewals := terms.renewals.trans agree.renewals
      held := ?_ }
  · intro r mem
    rcases rows r mem with old | rfl
    · exact agree.owned r old
    · rw [row_eq]
      exact agree.known lane taskId ready.task
  · intro r mem
    rcases rows r mem with old | rfl
    · exact agree.keyed r old
    · obtain ⟨plan, there, rfl⟩ := ready.planned
      rw [row_eq]
      exact ⟨plan, there, rfl, rfl⟩
  · intro other budget found
    have before := terms.budgets other
    rw [found, Option.map_some] at before
    obtain ⟨budget₀, there, same⟩ := Option.map_eq_some_iff.mp before.symm
    rw [← same]
    exact agree.terms other budget₀ there
  · intro other otherTask task r mem here active
    rcases rows r mem with old | rfl
    · exact agree.held other otherTask task r old here active
    · rw [row_eq] at here ⊢
      have owner : taskId = otherTask := here
      subst owner
      have same : lane = other := agree.apart lane other taskId ready.task task
      subst same
      exact ready.current.symm

end Moves

/-! ## One handler at a time -/

section Handlers

variable {config : DaemonConfig} {lane : String} {taskId : TaskId} {planId : PlanId} {spent : Int}
  {earlier : Option PlanId}

open Handler (Ends)

theorem publishPlan_moving (plan : ExecutionPlan) (now : OffsetDateTime) :
    Ends (fun s => Agree config s ∧ s.taskIdForSession lane = some taskId ∧
        s.inFlightPlanForSession lane = earlier ∧ s.budget.settled taskId = spent)
      (publishPlan lane plan now)
      (fun _ s => Moving config lane taskId plan.id spent earlier s) (Agree config) := by
  refine .of_start ?_
  rintro s ⟨agree, task, current, figure⟩
  refine (publishPlan_ends lane plan now s).conseq (fun _ => id) ?_
  intro _ s' published
  exact agree.moving task current figure published

theorem releasePlan_ready (now : OffsetDateTime) :
    Ends (Moving config lane taskId planId spent earlier) (releasePlan taskId earlier now)
      (fun _ s => Ready config lane taskId planId spent s) (Agree config) := by
  cases earlier with
  | none =>
      refine .pure ?_
      intro s moving
      -- Every lease names a plan, so none is held for no plan.
      have named : ∀ r ∈ s.budget.reservations, r.taskId = taskId → r.planId = none →
          r.state ≠ .active := by
        intro r mem _ unnamed
        obtain ⟨current, agree, -⟩ := moving.agree
        obtain ⟨plan, -, key, -⟩ := agree.keyed r mem
        rw [key] at unnamed
        cases unnamed
      exact moving.ready (.of_eq rfl) (.of_eq rfl rfl) rfl named
  | some planId =>
      refine .bind (M := fun _ s => Ready config lane taskId _ spent s) (.onBudget ?_)
        fun _ => .pure fun s ready => ready
      intro s _ budget' moving done
      refine moving.ready (.releaseActiveForPlan done) (.releaseActiveForPlan done)
        (TaskLedger.releaseActiveForPlan_settled done taskId) ?_
      intro r mem here named
      exact TaskLedger.releaseActiveForPlan_none_active done mem here named

/-- The task has a budget. -/
def Budgeted (taskId : TaskId) (b : TaskLedger) : Prop := (b.taskBudget taskId).isSome

theorem Budgeted.sameTerms (b b' : TaskLedger) (same : TaskLedger.SameTerms b b')
    (budgeted : Budgeted taskId b) : Budgeted taskId b' := by
  rw [Budgeted, ← Option.isSome_map, same.budgets taskId, Option.isSome_map]
  exact budgeted

/-- The task has a budget, and the one that was read is on the configured terms. -/
def OnTerms (config : DaemonConfig) (taskId : TaskId) (budget : TaskBudget) (b : TaskLedger) : Prop :=
  Budgeted taskId b ∧ budget.taskId = taskId ∧ TaskLedger.terms budget = config.terms

theorem prepareBudget_ready (input : PreflightInput) (reserve : CompletionReserveEstimate)
    (hadBudget : Bool) :
    Ends (Ready config lane taskId planId spent) (prepareBudget config input taskId reserve hadBudget)
      (fun budget s => Ready config lane taskId planId spent s ∧ OnTerms config taskId budget s.budget)
      (Agree config) := by
  refine .bind (M := fun _ s => Ready config lane taskId planId spent s) (.onBudget ?_) fun _ => ?_
  · intro s _ budget' ready done
    have same := (TaskLedger.initializeTaskBudget_ok done).1
    refine ready.budget (.initializeTaskBudget done) (ready.agree.firstBudget done) ?_
    rw [TaskLedger.settled, same, TaskLedger.settled]
  refine .read_bind fun found => ?_
  split
  · exact .fail fun s holds => holds.1.agree
  rename_i budget
  have onTerms : ∀ s, Ready config lane taskId planId spent s ∧
      s.budget.taskBudget taskId = some budget →
      Ready config lane taskId planId spent s ∧ OnTerms config taskId budget s.budget := by
    rintro s ⟨ready, found⟩
    refine ⟨ready, ?_, ((Table.find?_eq_some_iff _ _ _).mp found).2, ready.agree.terms taskId budget found⟩
    rw [Budgeted, found]
    rfl
  split
  · refine .bind (.onBudget ?_) fun _ => .pure fun s holds => holds
    rintro s _ budget' start done
    obtain ⟨ready, budgeted, own, terms⟩ := onTerms s start
    exact ⟨ready.adjust done, budgeted.sameTerms _ _ (.adjustCompletionReserve done), own, terms⟩
  · exact .pure onTerms

/-- The headroom depends on a budget's terms alone. -/
theorem gateHeadroom_congr {budget budget' : TaskBudget}
    (same : TaskLedger.terms budget = TaskLedger.terms budget') (renewed settled active : Int) :
    budget.gateHeadroom renewed settled active = budget'.gateHeadroom renewed settled active := by
  simp only [TaskLedger.terms, Prod.mk.injEq] at same
  obtain ⟨-, hard, scope, policy⟩ := same
  simp only [TaskBudget.gateHeadroom, TaskBudget.turnCeilingIfScoped, TaskBudget.effectiveHardLimit,
    hard, scope, policy]

/-- A verdict, and an envelope that the lane's budget covers if the verdict is to admit. -/
structure Verdict (config : DaemonConfig) (input : PreflightInput) (v : PreflightVerdict)
    (spent : Int) (s : Trajectory) : Prop where
  ready : Ready config input.lane v.taskId input.planId spent s
  budgeted : Budgeted v.taskId s.budget
  terms : TaskLedger.terms v.budget = config.terms
  covered : v.decision.admission = .admitted →
    (workEnvelope v.budget.resourceKind
      (requestedAmount config.policy v.budget.resourceKind input.estimate) v.reserve).value ≤
      v.budget.gateHeadroom 0 spent 0

theorem admitPlan_granted (input : PreflightInput) (v : PreflightVerdict) (direct : config.gateway = false) :
    Ends (Verdict config input v spent)
      (admitPlan config input v.taskId v.budget v.reserve v.decision)
      (fun reserved s => Agree config s ∧
        (v.decision.admission = .admitted → ∃ row, reserved = some (.granted row)))
      (Agree config) := by
  refine .bind (M := fun _ s => Verdict config input v spent s) (.onLedger ?_) fun _ => ?_
  · rintro s _ s' verdict ⟨⟩
    have agree := verdict.ready.agree
    have links : ∀ plan ∈ s.plans, ∃ plan' ∈ s.plans.updateAt input.planId
        (fun p => { p with admission := some v.decision.admission }) fun _ => rfl, plan'.id = plan.id := by
      intro plan mem
      refine ⟨_, (Table.mem_update _ _ _ _).mpr ⟨plan, mem, rfl⟩, ?_⟩
      split
      · rfl
      · rfl
    refine ⟨⟨{ agree with keyed := ?_ }, verdict.ready.task, verdict.ready.current, verdict.ready.idle,
      verdict.ready.unheld, ?_, verdict.ready.spent⟩, verdict.budgeted, verdict.terms, verdict.covered⟩
    · intro r mem
      obtain ⟨plan, there, named, key⟩ := agree.keyed r mem
      obtain ⟨plan', there', same⟩ := links plan there
      exact ⟨plan', there', same ▸ named, same ▸ key⟩
    · obtain ⟨plan, there, same⟩ := verdict.ready.planned
      obtain ⟨plan', there', same'⟩ := links plan there
      exact ⟨plan', there', same'.trans same⟩
  split
  · rename_i admitted
    rw [direct]
    refine .bind (M := fun out s => Agree config s ∧ ∃ row, out = .granted row) (.onBudget ?_)
      fun out => .pure ?_
    · intro s out budget' verdict done
      refine ⟨verdict.ready.reserve done, ?_⟩
      obtain ⟨budget, found⟩ := Option.isSome_iff_exists.mp verdict.budgeted
      refine TaskLedger.reserve_granted done ?_ found rfl ?_
      · intro r mem _ taken
        obtain ⟨plan, -, named, key⟩ := verdict.ready.agree.keyed r mem
        have same := planKey_injective (key.symm.trans taken)
        exact verdict.ready.unheld r mem (by rw [named, same])
      · have idle := TaskLedger.active_eq_zero verdict.ready.idle
        have renewed : s.budget.renewedCapacity v.taskId = 0 := by
          rw [TaskLedger.renewedCapacity, verdict.ready.agree.renewals, Table.sum_empty]
        have terms := (verdict.ready.agree.terms v.taskId budget found).trans verdict.terms.symm
        have covered := verdict.covered admitted
        rw [gateHeadroom_congr terms]
        simp only [planReserve, renewed, verdict.ready.spent, idle]
        exact covered
    · rintro s ⟨agree, row, rfl⟩
      exact ⟨agree, fun _ => ⟨row, rfl⟩⟩
  · rename_i refused
    refine .pure ?_
    intro s verdict
    exact ⟨verdict.ready.agree, fun admitted => absurd admitted refused⟩

/-- Where the gate saturates, what the next preflight reserves fits with what is settled. -/
def FitsFor (config : DaemonConfig) (input : PreflightInput) (taskId : TaskId) (s : Trajectory) : Prop :=
  config.Saturated →
    (envelopeAfter config input (s.latestContract taskId)).value + s.budget.settled taskId ≤ fullQuota

theorem envelopeAfter_percent (input : PreflightInput) (previous : Option CompletionContract)
    (percent : config.policy.resource.target.kind = .quotaPercent) :
    (envelopeAfter config input previous).value ≤ fullQuota := by
  rw [envelopeAfter, workEnvelope, percent, ResourceAmount.fromKind_percent]
  omega

theorem Agree.settled_unknown {s : Trajectory} (agree : Agree config s) (unknown : taskId ∉ s.tasks) :
    s.budget.settled taskId = 0 := by
  refine Table.sum_eq_zero _ ?_
  intro r mem
  rw [if_neg]
  rintro rfl
  exact unknown (agree.owned r mem)

/-- A lane without a task gets a fresh one. -/
theorem resolveOrCreateTaskForSession_agree (input : PreflightInput) :
    Ends (fun s => Agree config s ∧ ∀ taskId, s.taskIdForSession input.lane = some taskId →
        FitsFor config input taskId s)
      (resolveOrCreateTaskForSession input.lane input.taskId input.now)
      (fun taskId s => Agree config s ∧ s.taskIdForSession input.lane = some taskId ∧
        FitsFor config input taskId s) (Agree config) := by
  refine .read_bind fun existing => ?_
  split
  · rename_i taskId
    refine .pure ?_
    rintro s ⟨⟨agree, fits⟩, found⟩
    exact ⟨agree, found, fits taskId found⟩
  refine .bind (M := fun _ s => ∃ s₀, Agree config s₀ ∧ s₀.taskIdForSession input.lane = none ∧
    s₀.insertTask input.taskId input.now = .ok ((), s)) (.onLedger ?_) fun _ =>
    .bind (M := fun _ s => Agree config s ∧ s.taskIdForSession input.lane = some input.taskId ∧
      FitsFor config input input.taskId s) (.onLedger ?_) fun _ => .pure fun s holds => holds
  · rintro s _ s' ⟨⟨agree, -⟩, none⟩ done
    exact ⟨s, agree, none, done⟩
  · rintro s₁ _ s₂ ⟨s, agree, none, created⟩ linked
    obtain ⟨tasks, stored, rfl⟩ := Trajectory.insertTask_ok created
    obtain ⟨sessionTasks, stored', rfl⟩ := Trajectory.insertSessionTask_ok linked
    have unknown : input.taskId ∉ s.tasks := by
      intro mem
      exact (Table.find?_eq_none_iff _ _).mp ((Table.insert?_eq_some_iff _ _ _).mp stored).1 _ mem rfl
    have task : ∀ lane, (sessionTasks.find? lane).map SessionTask.taskId =
        if input.lane = lane then some input.taskId else s.taskIdForSession lane := by
      intro lane
      rw [Table.find?_insert? stored']
      split
      · rfl
      · rfl
    have linkedTo : ∀ lane taskId, (sessionTasks.find? lane).map SessionTask.taskId = some taskId →
        input.lane = lane ∧ taskId = input.taskId ∨ s.taskIdForSession lane = some taskId := by
      intro lane taskId found
      rw [task] at found
      split at found
      · rename_i here
        exact .inl ⟨here, (Option.some.inj found).symm⟩
      · exact .inr found
    have known : ∀ lane taskId, s.taskIdForSession lane = some taskId → taskId ≠ input.taskId := by
      rintro lane taskId found rfl
      exact unknown (agree.known lane _ found)
    refine ⟨?_, (task input.lane).trans (if_pos rfl), ?_⟩
    · refine
        { one := agree.one
          known := ?_
          apart := ?_
          owned := fun r mem => (Table.mem_insert? stored r.taskId).mpr (.inl (agree.owned r mem))
          keyed := agree.keyed
          terms := agree.terms
          renewals := agree.renewals
          held := ?_ }
      · intro lane taskId found
        rcases linkedTo lane taskId found with ⟨-, rfl⟩ | old
        · exact (Table.mem_insert? stored _).mpr (.inr rfl)
        · exact (Table.mem_insert? stored _).mpr (.inl (agree.known lane taskId old))
      · intro lane lane' taskId found found'
        rcases linkedTo lane taskId found with ⟨rfl, rfl⟩ | old
        · rcases linkedTo lane' _ found' with ⟨rfl, -⟩ | old'
          · rfl
          · exact absurd rfl (known lane' _ old')
        · rcases linkedTo lane' taskId found' with ⟨-, rfl⟩ | old'
          · exact absurd rfl (known lane _ old)
          · exact agree.apart lane lane' taskId old old'
      · intro lane taskId found r mem here active
        rcases linkedTo lane taskId found with ⟨-, rfl⟩ | old
        · exact absurd (here ▸ agree.owned r mem) unknown
        · exact agree.held lane taskId old r mem here active
    · intro saturated
      have small := envelopeAfter_percent input (s.latestContract input.taskId) saturated.1
      have zero := agree.settled_unknown unknown
      change (envelopeAfter config input (s.latestContract input.taskId)).value +
        s.budget.settled input.taskId ≤ fullQuota
      omega

theorem decidePlan_verdict (validated : config.policy.Validated) (input : PreflightInput) :
    Ends (fun s => Agree config s ∧ ∀ taskId, s.taskIdForSession input.lane = some taskId →
        FitsFor config input taskId s)
      (decidePlan config input) (fun v s => ∃ spent, Verdict config input v spent s) (Agree config) := by
  refine .bind (resolveOrCreateTaskForSession_agree input) fun taskId => ?_
  refine .read_bind fun previous => .read_bind fun hadBudget => .read_bind fun earlier => ?_
  refine .of_start ?_
  rintro s ⟨⟨⟨⟨agree, task, fits⟩, contract⟩, -⟩, current⟩
  generalize figure : s.budget.settled taskId = spent
  have fits' : config.Saturated → (envelopeAfter config input previous).value + spent ≤ fullQuota := by
    intro saturated
    rw [← contract, ← figure]
    exact fits saturated
  refine .bind (M := fun _ s => Agree config s ∧ s.taskIdForSession input.lane = some taskId ∧
    s.inFlightPlanForSession input.lane = earlier ∧ s.budget.settled taskId = spent) (.onLedger ?_)
    fun _ => ?_
  · rintro _ _ s' rfl done
    obtain ⟨contracts, -, rfl⟩ := Trajectory.insertContract_ok done
    exact ⟨{ agree with }, task, current, figure⟩
  refine .bind (publishPlan_moving _ _) fun _ => .bind (releasePlan_ready _) fun _ => ?_
  refine .bind (prepareBudget_ready _ _ _) fun budget => .read_bind fun figures => ?_
  extract_lets requested
  split
  · exact .fail fun s holds => holds.1.1.agree
  · rename_i evaluated decided
    refine .pure ?_
    rintro s ⟨⟨ready, budgeted, own, terms⟩, seen⟩
    refine ⟨spent, ready, budgeted, terms, ?_⟩
    intro admitted
    have kind : budget.resourceKind = config.policy.resource.target.kind := congrArg Prod.fst terms
    have idle := TaskLedger.active_eq_zero ready.idle
    have renewed : s.budget.renewedCapacity taskId = 0 := by
      rw [TaskLedger.renewedCapacity, ready.agree.renewals, Table.sum_empty]
    have covered := envelope_covered validated spent previous terms ?_ ?_ ?_ decided admitted fits'
    · rw [envelopeAfter, ← kind] at covered
      exact covered
    · rw [← seen, budgetFigures, own, ready.spent]
    · rw [← seen, budgetFigures, own, idle]
    · rw [← seen, budgetFigures, own, renewed]

theorem Ends.caught {α : Type} {P inv : Trajectory → Prop} {p : Handler α} (keeps : Script.Keeps P p) :
    Ends P (Procedure.caught p) (fun _ s => P s) inv := keeps

theorem reconcileStaleReservations_ends {P inv : Trajectory → Prop}
    (keeps : ∀ s now out budget', P s → s.budget.expireStaleReservations now = .ok (out, budget') →
      P { s with budget := budget' }) (now : OffsetDateTime) :
    Ends P (reconcileStaleReservations now) (fun _ s => P s) inv := by
  refine .bind (Ends.caught (.write ?_)) fun _ => .pure fun s holds => holds
  intro s out s' holds done
  obtain ⟨budget', committed, rfl⟩ := Trajectory.onBudget_ok done
  exact keeps s now out budget' holds committed

theorem agree_expired (s : Trajectory) (now : OffsetDateTime) (out : List Reservation)
    (budget' : TaskLedger) (agree : Agree config s)
    (done : s.budget.expireStaleReservations now = .ok (out, budget')) :
    Agree config { s with budget := budget' } :=
  agree.budget (.expireStaleReservations done) (.expireStaleReservations done)

/-- A preflight keeps the agreement, and what it admits it is granted. -/
theorem handlePreflightForLane_agree (validated : config.policy.Validated)
    (direct : config.gateway = false) (input : PreflightInput) (sweepAt : OffsetDateTime) :
    Ends (fun s => Agree config s ∧ ∀ taskId, s.taskIdForSession input.lane = some taskId →
        FitsFor config input taskId s)
      (handlePreflightForLane config input sweepAt)
      (fun result s => Agree config s ∧
        (result.decision.admission = .admitted → ∃ row, result.reserved = some (.granted row)))
      (Agree config) := by
  refine .bind (reconcileStaleReservations_ends ?_ sweepAt) fun _ =>
    .bind (decidePlan_verdict validated input) fun v => ?_
  · rintro s now out budget' ⟨agree, fits⟩ done
    refine ⟨agree_expired s now out budget' agree done, ?_⟩
    intro taskId task saturated
    have settled := TaskLedger.expireStaleReservations_settled done taskId
    have before := fits taskId task saturated
    rw [← settled] at before
    exact before
  · refine .of_start ?_
    rintro s ⟨spent, verdict⟩
    refine .bind (M := fun reserved s => Agree config s ∧
      (v.decision.admission = .admitted → ∃ row, reserved = some (.granted row))) ?_
      fun reserved => .pure fun s holds => holds
    have start : ∀ s', s' = s → Verdict config input v spent s' := by
      rintro _ rfl
      exact verdict
    exact (admitPlan_granted input v direct).conseq start fun _ _ => id

theorem replanReserve_agree (input : ToolInput) (prior : ExecutionPlan)
    (reserve : CompletionReserveEstimate) :
    Ends (Ready config input.lane taskId input.planId spent)
      (replanReserve config input taskId prior reserve) (fun _ s => Agree config s) (Agree config) := by
  refine .read_bind fun budget => ?_
  split
  · exact .pure fun s holds => holds.1.agree
  split
  · exact .pure fun s holds => holds.1.agree
  split
  · exact .pure fun s holds => holds.1.agree
  · refine .bind (M := fun _ s => Agree config s) (.onBudget ?_) fun _ => .pure fun s agree => agree
    rintro s _ budget' ⟨ready, -⟩ done
    exact ready.reserve done

theorem replan_agree (input : ToolInput) (plan : ExecutionPlan) (total : Nat) :
    Ends (fun s => Agree config s ∧ s.taskIdForSession input.lane = some taskId ∧
        s.inFlightPlanForSession input.lane = some plan.id)
      (replan config input taskId plan total) (fun _ s => Agree config s) (Agree config) := by
  refine .of_start ?_
  rintro s ⟨agree, task, current⟩
  have start : ∀ s', s' = s → Agree config s' ∧ s'.taskIdForSession input.lane = some taskId ∧
      s'.inFlightPlanForSession input.lane = some plan.id ∧
      s'.budget.settled taskId = s.budget.settled taskId := by
    rintro _ rfl
    exact ⟨agree, task, current, rfl⟩
  refine .bind ((publishPlan_moving _ _).conseq start fun _ _ => id) fun _ =>
    .bind (releasePlan_ready _) fun _ => .bind (M := fun _ s => Agree config s) ?_ fun _ =>
    .bind (M := fun _ s => Agree config s) (.onLedger ?_) fun _ => .onLedger ?_
  · refine .read_bind fun contract => ?_
    split
    · exact .pure fun s holds => holds.1.agree
    · refine .bind (M := fun _ s' => Ready config input.lane taskId input.planId
        (s.budget.settled taskId) s') (.onBudget ?_) fun _ => replanReserve_agree input plan _
      rintro s' _ budget' ⟨ready, -⟩ done
      exact ready.adjust done
  · intro s _ s' agree done
    obtain ⟨replanStates, rfl⟩ := Trajectory.recordReplanForTask_ok done
    exact { agree with }
  · rintro s _ s' agree ⟨⟩
    exact { agree with }

theorem laneInFlight_eq_some {s : Trajectory} {plan : ExecutionPlan}
    (current : laneInFlight s lane = some (taskId, plan)) :
    s.taskIdForSession lane = some taskId ∧ s.inFlightPlanForSession lane = some plan.id := by
  unfold laneInFlight at current
  split at current
  · rename_i task found
    cases current
    obtain ⟨planId, there, found⟩ := Option.bind_eq_some_iff.mp found
    rw [((Table.find?_eq_some_iff _ _ _).mp found).2]
    exact ⟨task, there⟩
  · cases current

theorem handleToolInvokedForLane_agree (input : ToolInput) :
    Ends (Agree config) (handleToolInvokedForLane config input) (fun _ s => Agree config s)
      (Agree config) := by
  refine .bind (M := fun _ s => Agree config s) (.onLedger ?_) fun _ =>
    .bind (M := fun _ s => Agree config s) (.onLedger ?_) fun streak => ?_
  · rintro s _ s' agree ⟨⟩
    exact { agree with }
  · intro s _ s' agree done
    obtain ⟨-, toolCalls, rfl⟩ := Trajectory.recordToolInvocation_ok done
    exact { agree with }
  refine .read_bind fun current => ?_
  split
  · exact .pure fun s holds => holds.1
  rename_i taskId plan
  split
  · exact .pure fun s holds => holds.1
  refine .read_bind fun total => .read_bind fun state => ?_
  extract_lets material
  split
  · split
    · refine (replan_agree input plan total).conseq ?_ fun _ _ => id
      rintro s ⟨⟨⟨agree, here⟩, -⟩, -⟩
      exact ⟨agree, laneInFlight_eq_some here⟩
    · exact .pure fun s holds => holds.1.1.1
  · exact .pure fun s holds => holds.1.1.1

theorem settleEach_agree (attributable : Option Nat) (now : OffsetDateTime) (rows : List Reservation) :
    Ends (Agree config) (settleEach attributable now rows) (fun _ s => Agree config s)
      (Agree config) := by
  induction rows with
  | nil => exact .pure fun s agree => agree
  | cons row rows ih =>
      refine .bind (M := fun _ s => Agree config s) (.onBudget ?_) fun _ => ih
      intro s _ budget' agree done
      exact agree.budget (.settle done) (.settle done)

theorem handleFinalizeForLane_agree (input : FinalizeInput) :
    Ends (Agree config) (handleFinalizeForLane input) (fun _ s => Agree config s) (Agree config) := by
  refine .read_bind fun lane => .read_bind fun replayed => ?_
  split
  · exact .pure fun s holds => holds.1.1
  refine .read_bind fun current => ?_
  split
  · exact .pure fun s holds => holds.1.1.1
  refine .read_bind fun startedAt => .read_bind fun windowStart => .read_bind fun receipt =>
    .read_bind fun active => ?_
  refine .bind (M := fun _ s => Agree config s) ((settleEach_agree _ _ _).conseq ?_ fun _ _ => id)
    fun _ => .bind (M := fun _ s => Agree config s) (.onLedger ?_) fun _ => .pure fun s agree => agree
  · rintro s ⟨⟨⟨⟨⟨⟨⟨agree, -⟩, -⟩, -⟩, -⟩, -⟩, -⟩, -⟩
    exact agree
  · intro s _ s' agree done
    obtain ⟨receipts, -, rfl⟩ := Trajectory.insertReceipt_ok done
    exact { agree with }

end Handlers

/-! ## Every order of requests -/

/-- The error a request ends in. -/
def errorOf {ε α : Type} : Except ε α → Option ε
  | .ok _ => none
  | .error e => some e

namespace LegacyOp

/-- The error the uninterrupted request ends in; the sweep only logs its own. -/
def error? (config : DaemonConfig) (s : Trajectory) : LegacyOp → Option (Stopped DaemonError)
  | .preflight input sweepAt => errorOf ((handlePreflightForLane config input sweepAt).run none s).1
  | .toolInvoked input => errorOf ((handleToolInvokedForLane config input).run none s).1
  | .finalize input => errorOf ((handleFinalizeForLane input).run none s).1
  | .sweep _ => none

/-- No call into the ledger fails. -/
def LedgerSound (config : DaemonConfig) (s : Trajectory) (op : LegacyOp) : Prop :=
  ∀ e, op.error? config s = some e → stoppedByLedger e = false

/-- A preflight's envelope fits with what its task has settled, where the gate saturates. -/
def Fits (config : DaemonConfig) (s : Trajectory) : LegacyOp → Prop
  | .preflight input _ =>
      ∀ taskId, s.taskIdForSession input.lane = some taskId → FitsFor config input taskId s
  | _ => True

theorem after_agree {config : DaemonConfig} (validated : config.policy.Validated)
    (direct : config.gateway = false) (s : Trajectory) (op : LegacyOp) (agree : Agree config s)
    (sound : op.LedgerSound config s ∧ op.Fits config s) : Agree config (op.after config none s) := by
  -- However the request ended, it was not the ledger that ended it.
  have ended : ∀ {α : Type} {pre : Trajectory → Prop} {p : Handler α}
      {M : α → Trajectory → Prop}, Handler.Ends pre p M (Agree config) → pre s →
      (∀ a s', M a s' → Agree config s') →
      (∀ e, errorOf (p.run none s).1 = some e → stoppedByLedger e = false) →
      Agree config (p.run none s).2 := by
    intro α pre p M ends start value sound
    have post := ends.run none start
    cases result : (p.run none s).1 with
    | ok a =>
        rw [result] at post
        exact value a _ post
    | error e =>
        rw [result] at post
        exact post (sound e (by rw [result]; rfl))
  cases op with
  | preflight input sweepAt =>
      exact ended (handlePreflightForLane_agree validated direct input sweepAt) ⟨agree, sound.2⟩
        (fun _ _ holds => holds.1) sound.1
  | toolInvoked input =>
      exact ended (handleToolInvokedForLane_agree input) agree (fun _ _ holds => holds) sound.1
  | finalize input =>
      exact ended (handleFinalizeForLane_agree input) agree (fun _ _ holds => holds) sound.1
  | sweep now =>
      refine ended (reconcileStaleReservations_ends agree_expired now) agree (fun _ _ holds => holds) ?_
      rintro e ⟨⟩

end LegacyOp

/-- A lane has at most one plan in flight, its task's active leases for required work are held for
that plan, and a plan has at most one receipt. -/
structure LanesInOrder (s : Trajectory) : Prop where
  one : ∀ lane, (s.inFlight lane).length ≤ 1
  held : ∀ lane taskId, s.taskIdForSession lane = some taskId → ∀ r ∈ s.budget.reservations,
    r.taskId = taskId → r.class_ = .requiredWork → r.state = .active →
    ∃ planId, r.planId = some planId ∧ s.inFlightPlanForSession lane = some planId
  receipts : ∀ taskId planId,
    (s.receipts.rows.filter fun r => r.taskId = taskId ∧ r.planId = planId).length ≤ 1

theorem receipts_le_one (s : Trajectory) (taskId : TaskId) (planId : PlanId) :
    (s.receipts.rows.filter fun r => r.taskId = taskId ∧ r.planId = planId).length ≤ 1 := by
  have distinct : ((s.receipts.rows.filter fun r => r.taskId = taskId ∧ r.planId = planId).map
      ExecutionReceipt.key).Nodup := s.receipts.nodup.sublist (List.filter_sublist.map _)
  cases found : s.receipts.rows.filter fun r => r.taskId = taskId ∧ r.planId = planId with
  | nil => exact Nat.zero_le 1
  | cons r rest =>
      cases rest with
      | nil => exact Nat.le_refl 1
      | cons r' rest =>
          exfalso
          have keys : ∀ x ∈ r :: r' :: rest, x.key = (taskId, planId) := by
            intro x mem
            rw [← found, List.mem_filter, decide_eq_true_eq] at mem
            rw [ExecutionReceipt.key, mem.2.1, mem.2.2]
          rw [found, List.map_cons, List.map_cons, keys r List.mem_cons_self,
            keys r' (List.mem_cons_of_mem _ List.mem_cons_self)] at distinct
          exact (List.nodup_cons.mp distinct).1 List.mem_cons_self

theorem Agree.lanesInOrder {config : DaemonConfig} {s : Trajectory} (agree : Agree config s) :
    LanesInOrder s where
  one := agree.one
  held lane taskId task r mem here _ active := by
    have current := agree.held lane taskId task r mem here active
    obtain ⟨plan, -, named, -⟩ := agree.keyed r mem
    exact ⟨plan.id, named, current ▸ named⟩
  receipts := receipts_le_one s

theorem admission_and_ledger_agree (config : DaemonConfig) (validated : config.policy.Validated)
    (direct : config.gateway = false) (ops : List LegacyOp)
    (sound : Along (LegacyOp.after config none)
      (fun s op => op.LedgerSound config s ∧ op.Fits config s) .empty ops) :
    LanesInOrder (run (LegacyOp.after config none) .empty ops) ∧
      ∀ input sweepAt result,
        (LegacyOp.preflight input sweepAt).Fits config (run (LegacyOp.after config none) .empty ops) →
        ((handlePreflightForLane config input sweepAt).run none
          (run (LegacyOp.after config none) .empty ops)).1 = .ok result →
        result.decision.admission = .admitted → ∃ row, result.reserved = some (.granted row) := by
  have agree := run_invariant (LegacyOp.after_agree validated direct) sound (AgreeWith.empty config)
  refine ⟨agree.lanesInOrder, ?_⟩
  intro input sweepAt result fits done admitted
  have post := (handlePreflightForLane_agree validated direct input sweepAt).run none ⟨agree, fits⟩
  rw [done] at post
  exact post.2 admitted

/-! ## Poles -/

/-- Four fifths of a quota, of which all may be spent. -/
def percentPolicy : AdmissionPolicy :=
  { tokenPolicy .low with
    resource :=
      { mode := .hard, target := .quotaPercent 80, elasticCeiling := none,
        hardCeiling := .quotaPercent 100 } }

def laneFinalize : LegacyOp :=
  .finalize { sessionId := "main", lane := "main", now := 0, observe := fun _ => none }

/-- A first turn of the lane, to its end. -/
def firstTurn : List LegacyOp := [.preflight (lanePreflight 1) 0, laneFinalize]

theorem LegacyOp.ledgerSound_of_isNone {config : DaemonConfig} {s : Trajectory} {op : LegacyOp}
    (none : (op.error? config s).isNone = true) : op.LedgerSound config s := by
  intro e failed
  rw [failed] at none
  cases none

theorem percentPolicy_validated : percentPolicy.Validated :=
  { resource := rfl, turn := nofun, renewal := nofun, nonneg := by decide }

/-- The second turn asks for 80 percent with 60 settled: the projection saturates at the ceiling,
the turn is admitted, and the ledger has not enough for it. -/
theorem admitted_but_insufficient :
    (legacyConfig percentPolicy).policy.Validated ∧ (legacyConfig percentPolicy).gateway = false ∧
    Along (LegacyOp.after (legacyConfig percentPolicy) none)
      (fun s op => op.LedgerSound (legacyConfig percentPolicy) s) .empty firstTurn ∧
    ∃ result, ((handlePreflightForLane (legacyConfig percentPolicy) (lanePreflight 2) 0).run none
        (run (LegacyOp.after (legacyConfig percentPolicy) none) .empty firstTurn)).1 = .ok result ∧
      result.decision.admission = .admitted ∧ ¬ ∃ row, result.reserved = some (.granted row) := by
  refine ⟨percentPolicy_validated, rfl, ⟨LegacyOp.ledgerSound_of_isNone (by decide +kernel),
    LegacyOp.ledgerSound_of_isNone (by decide +kernel), trivial⟩, ?_⟩
  have answer : (((handlePreflightForLane (legacyConfig percentPolicy) (lanePreflight 2) 0).run none
      (run (LegacyOp.after (legacyConfig percentPolicy) none) .empty firstTurn)).1.toOption.map
        fun result => (result.decision.admission, result.reserved)) =
      some (.admitted, some (.insufficient ⟨.quotaPercent, 40 * percentUnit⟩ (.quotaPercent 60) (20 * percentUnit))) := by
    decide +kernel
  generalize ((handlePreflightForLane (legacyConfig percentPolicy) (lanePreflight 2) 0).run none
    (run (LegacyOp.after (legacyConfig percentPolicy) none) .empty firstTurn)).1 = ended at answer
  obtain ⟨result, done, figures⟩ := Option.map_eq_some_iff.mp answer
  cases ended with
  | error e => cases done
  | ok value =>
      cases done
      obtain ⟨admitted, refused⟩ := Prod.mk.inj figures
      refine ⟨result, rfl, admitted, ?_⟩
      rintro ⟨row, granted⟩
      rw [refused] at granted
      cases granted

/-- A turn of a thousand tokens. -/
def smallTurn : PreflightInput :=
  { lanePreflight 2 with
    estimate := ⟨none, some ⟨.tokens, 1000⟩, .low, by rintro a ⟨⟩; decide⟩ }

theorem tokenPolicy_validated : (tokenPolicy .low).Validated :=
  { resource := rfl, turn := nofun, renewal := nofun, nonneg := by decide }

theorem small_turn_granted :
    LanesInOrder (run (LegacyOp.after (legacyConfig (tokenPolicy .low)) none) .empty firstTurn) ∧
    ∃ result, ((handlePreflightForLane (legacyConfig (tokenPolicy .low)) smallTurn 0).run none
        (run (LegacyOp.after (legacyConfig (tokenPolicy .low)) none) .empty firstTurn)).1 = .ok result ∧
      result.decision.admission = .admitted ∧ ∃ row, result.reserved = some (.granted row) := by
  have unsaturated : ¬ (legacyConfig (tokenPolicy .low)).Saturated := by decide
  have fits : ∀ s op, LegacyOp.Fits (legacyConfig (tokenPolicy .low)) s op := by
    intro s op
    cases op with
    | preflight input sweepAt => exact fun taskId _ saturated => absurd saturated unsaturated
    | toolInvoked input => trivial
    | finalize input => trivial
    | sweep now => trivial
  have agreed := admission_and_ledger_agree (legacyConfig (tokenPolicy .low)) tokenPolicy_validated rfl
    firstTurn ⟨⟨LegacyOp.ledgerSound_of_isNone (by decide +kernel), fits _ _⟩,
      ⟨LegacyOp.ledgerSound_of_isNone (by decide +kernel), fits _ _⟩, trivial⟩
  refine ⟨agreed.1, ?_⟩
  have granted := agreed.2 smallTurn 0
  have answer : (((handlePreflightForLane (legacyConfig (tokenPolicy .low)) smallTurn 0).run none
      (run (LegacyOp.after (legacyConfig (tokenPolicy .low)) none) .empty firstTurn)).1.toOption.map
        fun result => result.decision.admission) = some .admitted := by
    decide +kernel
  generalize ((handlePreflightForLane (legacyConfig (tokenPolicy .low)) smallTurn 0).run none
    (run (LegacyOp.after (legacyConfig (tokenPolicy .low)) none) .empty firstTurn)).1 = ended
    at answer granted
  obtain ⟨result, done, admitted⟩ := Option.map_eq_some_iff.mp answer
  cases ended with
  | error e => cases done
  | ok value =>
      cases done
      exact ⟨result, rfl, admitted, granted result (fits _ _) rfl admitted⟩

end LibraGovernor
