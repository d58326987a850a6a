/-
# LibraGovernor.Ledger.ReserveConservation -- the protected reserve is conserved

`RequiredWork` may draw the completion reserve, and once an overrun has pushed the
task past its limit the draw can exceed the lease itself; releasing or expiring
such a lease gives more back to the reserve than it frees.  The invariant
therefore carries the outstanding excess of the draws (`overdrawn`) beside what is
settled, active and protected:

    settled + active + overdrawn + reserve ≤ limit + spent,   overdrawn ≤ spent

where `spent` is what overruns and late settlements have added so far.  Every
operation keeps it (`apply_reserveInv`); `reserve_conserved` reads it off at the
end of a run.
-/
import LibraGovernor.Ledger.TaskTransitions

namespace LibraGovernor

open Relational Transaction Transition

set_option autoImplicit false

/-! ## What one step adds outside admission -/

/-- A lease settled while active, above its amount. -/
def leaseOverrun (before after : Reservation) : Nat :=
  if before.state = .active ∧ after.state = .settled then
    (after.settledAmount.getD 0 - before.amount).toNat
  else 0

/-- A lease settled after it expired: all of it. -/
def leaseLate (before after : Reservation) : Nat :=
  if before.state = .expired ∧ after.state = .settled then (after.settledAmount.getD 0).toNat
  else 0

/-- A figure of one task's leases. -/
def ofTask (taskId : TaskId) (w : Reservation → Reservation → Nat) (before after : Reservation) :
    Nat := if after.taskId = taskId then w before after else 0

def taskOverrunBy (taskId : TaskId) (s : TaskLedger) (op : TaskLedgerOp) : Nat :=
  s.reservations.movedSum (op.apply s).reservations (ofTask taskId leaseOverrun)

def taskLateBy (taskId : TaskId) (s : TaskLedger) (op : TaskLedgerOp) : Nat :=
  s.reservations.movedSum (op.apply s).reservations (ofTask taskId leaseLate)

namespace TaskLedger

/-! ## The invariant -/

/-- The live completion reserve; none before the budget exists. -/
def reserveOf (s : TaskLedger) (taskId : TaskId) : Int :=
  ((s.taskBudget taskId).map TaskBudget.completionReserve).getD 0

/-- The effective hard limit: the admitted one and every renewal. -/
def limitOf (s : TaskLedger) (taskId : TaskId) : Int :=
  ((s.taskBudget taskId).map TaskBudget.hardLimit).getD 0 + s.renewedCapacity taskId

/-- How far an active lease's draw exceeds the lease. -/
def overdrawnPart (r : Reservation) : Int :=
  if r.state = .active then max 0 (r.drawnFromReserve - r.amount) else 0

def overdrawn (s : TaskLedger) (taskId : TaskId) : Int :=
  s.reservations.sum fun r => if r.taskId = taskId then overdrawnPart r else 0

theorem overdrawnPart_nonneg (r : Reservation) : 0 ≤ overdrawnPart r := by
  unfold overdrawnPart
  split <;> omega

theorem overdrawn_nonneg (s : TaskLedger) (taskId : TaskId) : 0 ≤ s.overdrawn taskId := by
  refine Table.sum_nonneg _ fun r _ => ?_
  split
  · exact overdrawnPart_nonneg r
  · exact le_refl 0

/-- What a lease weighs against its task. -/
def load (taskId : TaskId) (r : Reservation) : Int :=
  if r.taskId = taskId then r.settledPart + r.activePart + overdrawnPart r else 0

theorem load_sum (s : TaskLedger) (taskId : TaskId) :
    s.settled taskId + s.active taskId + s.overdrawn taskId = s.reservations.sum (load taskId) := by
  rw [settled, active, overdrawn, ← Table.sum_add, ← Table.sum_add]
  refine Table.sum_congr _ fun r _ => ?_
  unfold load
  split <;> simp

structure ReserveInv (taskId : TaskId) (spent : Nat) (s : TaskLedger) : Prop where
  lifetime : ∀ b, s.taskBudget taskId = some b → b.turnCeilingIfScoped = none
  reserve_nonneg : 0 ≤ s.reserveOf taskId
  leases_nonneg : ∀ r ∈ s.reservations, 0 ≤ r.amount ∧ 0 ≤ r.drawnFromReserve
  overdrawn_le : s.overdrawn taskId ≤ spent
  conserved : s.settled taskId + s.active taskId + s.overdrawn taskId + s.reserveOf taskId ≤
    s.limitOf taskId + spent

theorem ReserveInv.mono {taskId : TaskId} {spent more : Nat} {s : TaskLedger}
    (inv : ReserveInv taskId spent s) (le : spent ≤ more) : ReserveInv taskId more s where
  lifetime := inv.lifetime
  reserve_nonneg := inv.reserve_nonneg
  leases_nonneg := inv.leases_nonneg
  overdrawn_le := by
    have := inv.overdrawn_le
    omega
  conserved := by
    have := inv.conserved
    omega

/-! ## Budgets -/

/-- Rewriting the reserve of one task. -/
theorem taskBudget_setReserve (t : Table TaskBudget TaskBudget.taskId) (taskId other : TaskId)
    (g : TaskBudget → Int) :
    (t.updateAt taskId (fun b => { b with completionReserve := g b }) fun _ => rfl).find? other =
      if other = taskId then (t.find? taskId).map fun b => { b with completionReserve := g b }
      else t.find? other :=
  Table.find?_updateAt t taskId other _ _

/-- Giving a draw back raises one task's reserve by at most that much. -/
theorem restoreReserve_spec (s : TaskLedger) (taskId other : TaskId) {restore : Int}
    (nonneg : 0 ≤ restore) :
    s.reserveOf other ≤ (s.restoreReserve taskId restore).reserveOf other ∧
      (s.restoreReserve taskId restore).reserveOf other ≤
        s.reserveOf other + (if other = taskId then restore else 0) ∧
      (s.restoreReserve taskId restore).limitOf other = s.limitOf other ∧
      (∀ b, (s.restoreReserve taskId restore).taskBudget other = some b →
        ∃ b', s.taskBudget other = some b' ∧
          b.turnCeilingIfScoped = b'.turnCeilingIfScoped) := by
  unfold restoreReserve
  split
  · simp only [reserveOf, limitOf, taskBudget, renewedCapacity, taskBudget_setReserve]
    by_cases same : other = taskId
    · subst same
      cases found : s.taskBudgets.find? other with
      | none => simp [nonneg]
      | some b =>
          simp only [if_true, Option.map_some, Option.getD_some]
          refine ⟨by omega, by omega, trivial, ?_⟩
          intro b' there
          cases there
          exact ⟨b, rfl, rfl⟩
    · simp only [same, if_false]
      refine ⟨by omega, by omega, trivial, fun b found => ⟨b, found, rfl⟩⟩
  · refine ⟨by omega, ?_, rfl, fun b found => ⟨b, found, rfl⟩⟩
    split <;> omega

/-! ## Leases -/

theorem mem_updateReservation (s : TaskLedger) (id : ReservationId)
    (f : Reservation → Reservation) (keeps : ∀ r, (f r).id = r.id) (r' : Reservation) :
    r' ∈ (s.updateReservation id f keeps).reservations ↔
      ∃ r ∈ s.reservations, (if r.id = id then f r else r) = r' :=
  Table.mem_update _ _ (Table.keeps_at keeps id) _

/-- Closing a lease and restoring `restore` keeps the invariant, when what the lease
weighs afterwards and what is restored stay within what it weighed and `more`. -/
theorem ReserveInv.close {taskId : TaskId} {spent : Nat} {s : TaskLedger}
    (inv : ReserveInv taskId spent s) (more : Nat) {row : Reservation}
    (found : s.reservations.find? row.id = some row) (f : Reservation → Reservation)
    (keeps : ∀ r, (f r).id = r.id) {restore : Int} (nonneg : 0 ≤ restore)
    (amounts : (f row).amount = row.amount ∧ (f row).drawnFromReserve = row.drawnFromReserve)
    (task : (f row).taskId = row.taskId) (closed : (f row).state ≠ .active)
    (weight : row.taskId = taskId →
      load taskId (f row) + restore ≤ load taskId row + more) :
    ReserveInv taskId (spent + more)
      ((s.updateReservation row.id f keeps).restoreReserve row.taskId restore) := by
  obtain ⟨low, high, limit, scope⟩ :=
    restoreReserve_spec (s.updateReservation row.id f keeps) row.taskId taskId nonneg
  have sums := Table.sum_updateAt s.reservations found f keeps (load taskId)
  have excess := Table.sum_updateAt s.reservations found f keeps
    fun r => if r.taskId = taskId then overdrawnPart r else 0
  have before := inv.conserved
  have excess_before := inv.overdrawn_le
  have part_nonneg := overdrawnPart_nonneg row
  have part_closed : overdrawnPart (f row) = 0 := by simp [overdrawnPart, closed]
  have other : row.taskId ≠ taskId → load taskId (f row) = load taskId row := by
    intro ne
    simp [load, task, ne]
  refine ⟨?_, le_trans inv.reserve_nonneg low, ?_, ?_, ?_⟩
  · intro b there
    obtain ⟨b', there', same⟩ := scope b there
    rw [same]
    exact inv.lifetime b' there'
  · intro r mem
    rw [restoreReserve_reservations] at mem
    obtain ⟨r', mem', rfl⟩ := (mem_updateReservation s row.id f keeps r).mp mem
    by_cases here : r'.id = row.id
    · have one := s.reservations.eq_of_key mem' ((Table.find?_eq_some_iff _ _ _).mp found).1 here
      subst one
      simp only [if_true, amounts.1, amounts.2]
      exact inv.leases_nonneg r' mem'
    · simp only [here, if_false]
      exact inv.leases_nonneg r' mem'
  · rw [overdrawn, restoreReserve_reservations]
    rw [overdrawn] at excess_before
    simp only [updateReservation, part_closed, ite_self, add_zero] at excess ⊢
    split at excess <;> omega
  · rw [load_sum, restoreReserve_reservations, limit]
    rw [load_sum] at before
    have same_limit : (s.updateReservation row.id f keeps).limitOf taskId = s.limitOf taskId := rfl
    have same_reserve : (s.updateReservation row.id f keeps).reserveOf taskId =
        s.reserveOf taskId := rfl
    rw [same_limit]
    rw [same_reserve] at high
    simp only [updateReservation] at *
    by_cases same : taskId = row.taskId
    · have := weight same.symm
      rw [if_pos same] at high
      omega
    · have := other (Ne.symm same)
      rw [if_neg same] at high
      omega

/-- The invariant of a task whose budget and sums a step leaves alone; renewals may
only raise its limit. -/
theorem ReserveInv.untouched {taskId : TaskId} {spent : Nat} {s s' : TaskLedger}
    (inv : ReserveInv taskId spent s)
    (leases : ∀ r ∈ s'.reservations, 0 ≤ r.amount ∧ 0 ≤ r.drawnFromReserve)
    (budget : s'.taskBudget taskId = s.taskBudget taskId)
    (sums : s'.settled taskId = s.settled taskId ∧ s'.active taskId = s.active taskId ∧
      s'.overdrawn taskId = s.overdrawn taskId)
    (renewed : s.renewedCapacity taskId ≤ s'.renewedCapacity taskId) :
    ReserveInv taskId spent s' := by
  obtain ⟨settled', active', overdrawn'⟩ := sums
  have before := inv.conserved
  refine ⟨?_, ?_, leases, ?_, ?_⟩
  · rw [budget]
    exact inv.lifetime
  · rw [reserveOf, budget]
    exact inv.reserve_nonneg
  · rw [overdrawn']
    exact inv.overdrawn_le
  · rw [settled', active', overdrawn']
    simp only [reserveOf, limitOf, budget] at before ⊢
    omega

theorem sums_congr {s s' : TaskLedger} (same : s'.reservations = s.reservations)
    (taskId : TaskId) :
    s'.settled taskId = s.settled taskId ∧ s'.active taskId = s.active taskId ∧
      s'.overdrawn taskId = s.overdrawn taskId := by
  simp only [settled, active, overdrawn, same, and_self]

theorem renewedCapacity_congr {s s' : TaskLedger} (same : s'.renewals = s.renewals)
    (taskId : TaskId) : s'.renewedCapacity taskId = s.renewedCapacity taskId := by
  rw [renewedCapacity, same, renewedCapacity]

/-- The invariant reads the leases, the budgets and the renewals only. -/
theorem ReserveInv.congr {taskId : TaskId} {spent : Nat} {s s' : TaskLedger}
    (inv : ReserveInv taskId spent s) (reservations : s'.reservations = s.reservations)
    (budgets : s'.taskBudgets = s.taskBudgets) (renewals : s'.renewals = s.renewals) :
    ReserveInv taskId spent s' :=
  inv.untouched (by rw [reservations]; exact inv.leases_nonneg)
    (by rw [taskBudget, budgets, taskBudget]) (sums_congr reservations taskId)
    (renewedCapacity_congr renewals taskId).ge

/-- Reclaiming an active lease adds nothing: what it weighed covers its draw. -/
theorem ReserveInv.reclaim {taskId : TaskId} {spent : Nat} {s : TaskLedger}
    (inv : ReserveInv taskId spent s) {row : Reservation}
    (found : s.reservations.find? row.id = some row) (active : row.state = .active)
    (close : Reservation → Reservation) (keeps : ∀ r, (close r).id = r.id)
    (amounts : (close row).amount = row.amount ∧
      (close row).drawnFromReserve = row.drawnFromReserve)
    (task : (close row).taskId = row.taskId)
    (closed : (close row).state ≠ .active ∧ (close row).state ≠ .settled) :
    ReserveInv taskId spent (TaskLedger.reclaim close keeps s row) := by
  have mem := ((Table.find?_eq_some_iff _ _ _).mp found).1
  refine inv.close 0 found close keeps (inv.leases_nonneg row mem).2 amounts task closed.1 ?_
  intro here
  have gone : load taskId (close row) = 0 := by
    simp [load, Reservation.settledPart, Reservation.activePart, overdrawnPart, closed]
  rw [gone]
  simp only [load, here, if_true, Reservation.settledPart, Reservation.activePart, overdrawnPart,
    active, reduceCtorEq, if_false]
  omega

theorem ReserveInv.expireOne {taskId : TaskId} {spent : Nat} {s : TaskLedger}
    (inv : ReserveInv taskId spent s) {row : Reservation}
    (found : s.reservations.find? row.id = some row) (active : row.state = .active)
    (now : OffsetDateTime) : ReserveInv taskId spent (TaskLedger.expireOne now s row) := by
  have reclaimed := inv.reclaim found active (Reservation.expire now) (fun _ => rfl)
    ⟨rfl, rfl⟩ rfl ⟨nofun, nofun⟩
  exact reclaimed.congr (by simp [TaskLedger.expireOne]) (by simp [TaskLedger.expireOne])
    (by simp [TaskLedger.expireOne])

/-! ## One lemma per operation -/

/-- A settle adds an overrun, or the whole of a lease that had expired. -/
theorem ReserveInv.settle {taskId : TaskId} {spent : Nat} {s s' : TaskLedger}
    {id : ReservationId} {actual : Option ResourceAmount} {now : OffsetDateTime}
    {out : SettleOutcome} (inv : ReserveInv taskId spent s)
    (done : s.settle id actual now = .ok (out, s')) :
    ReserveInv taskId
      (spent + (s.reservations.movedSum s'.reservations (ofTask taskId leaseOverrun) +
        s.reservations.movedSum s'.reservations (ofTask taskId leaseLate))) s' := by
  obtain rfl | ⟨row, value, known, found, nonneg, closed⟩ := settle_ok done
  · exact inv.mono (by omega)
  obtain ⟨mem, rfl⟩ := (Table.find?_eq_some_iff _ _ _).mp found
  have leases := inv.leases_nonneg row mem
  obtain ⟨active, rfl⟩ | ⟨expired, rfl⟩ := closed
  · -- The draw comes back only out of a refund, and an overrun leaves none.
    have paid := inv.close (ofTask taskId leaseOverrun row (row.settle value known false now)) found
      (Reservation.settle value known false now) (fun _ => rfl)
      (by omega : 0 ≤ min (max 0 (row.amount - value)) row.drawnFromReserve) ⟨rfl, rfl⟩ rfl
      (fun open_ => absurd open_ (by simp [Reservation.settle])) ?_
    · refine paid.mono ?_
      rw [restoreReserve_reservations]
      have := Table.le_movedSum_updateAt s.reservations found (Reservation.settle value known false now)
        (fun _ => rfl) (ofTask taskId leaseOverrun)
      simp only [updateReservation]
      omega
    · intro here
      simp only [load, here, if_true, Reservation.settledPart, Reservation.activePart,
        overdrawnPart, active, ofTask, leaseOverrun, Reservation.settle, Option.getD_some]
      simp only [reduceCtorEq, and_self, if_true, if_false]
      omega
  · have paid := inv.close (ofTask taskId leaseLate row (row.settle value known true now)) found
      (Reservation.settle value known true now) (fun _ => rfl) (le_refl 0) ⟨rfl, rfl⟩ rfl
      (fun open_ => absurd open_ (by simp [Reservation.settle])) ?_
    · refine paid.mono ?_
      have := Table.le_movedSum_updateAt s.reservations found (Reservation.settle value known true now)
        (fun _ => rfl) (ofTask taskId leaseLate)
      simp only [updateReservation]
      omega
    · intro here
      simp only [load, here, if_true, Reservation.settledPart, Reservation.activePart,
        overdrawnPart, expired, ofTask, leaseLate, Reservation.settle, Option.getD_some]
      simp only [reduceCtorEq, and_self, if_true, if_false]
      omega

/-- A sweep of selected active leases. -/
theorem ReserveInv.reclaimAll {taskId : TaskId} {spent : Nat} {s : TaskLedger}
    (inv : ReserveInv taskId spent s) (now : OffsetDateTime) (p : Reservation → Bool)
    (active : ∀ r, p r = true → r.state = .active) :
    ReserveInv taskId spent (TaskLedger.reclaimAll (Reservation.release now) (fun _ => rfl) s
      (s.reservations.rows.filter p)) :=
  sweep_invariant
    (fun _ _ good found active => good.reclaim found active (Reservation.release now) (fun _ => rfl)
      ⟨rfl, rfl⟩ rfl ⟨nofun, nofun⟩)
    (reclaim_frame _ _) (selected_distinct s p) (selected_there s active) inv

theorem ReserveInv.expireStale {taskId : TaskId} {spent : Nat} {s : TaskLedger}
    (inv : ReserveInv taskId spent s) (now : OffsetDateTime) :
    ReserveInv taskId spent
      ((s.reservations.rows.filter (leaseStale now)).foldl (TaskLedger.expireOne now) s) := by
  refine sweep_invariant (fun _ _ good found active => good.expireOne found active now)
    (expireOne_frame now) (selected_distinct s _) (selected_there s ?_) inv
  intro r stale
  simp only [leaseStale, Bool.and_eq_true, decide_eq_true_eq] at stale
  exact stale.1

/-- The headroom of a lifetime-gated budget, in the invariant's terms. -/
theorem gateHeadroom_eq {taskId : TaskId} {spent : Nat} {s : TaskLedger}
    (inv : ReserveInv taskId spent s) {budget : TaskBudget}
    (found : s.taskBudget taskId = some budget) :
    budget.gateHeadroom (s.renewedCapacity taskId) (s.settled taskId) (s.active taskId) =
      s.limitOf taskId - s.settled taskId - s.active taskId := by
  simp [TaskBudget.gateHeadroom, inv.lifetime budget found, TaskBudget.effectiveHardLimit, limitOf,
    found]

/-- What a granted reserve on the task leaves: the new lease, and the reserve less
its draw. -/
theorem GrantedWork.sums {s s' : TaskLedger} {req : ReserveRequest} {fresh : ReservationId}
    {row : Reservation} (granted : GrantedWork s req fresh row s') :
    ∃ draw, drawFor req.class_
        (((s.taskBudget req.taskId).map fun b => b.gateHeadroom (s.renewedCapacity req.taskId)
          (s.settled req.taskId) (s.active req.taskId)).getD 0) (s.reserveOf req.taskId)
        req.amount.value = .ok draw ∧
      0 ≤ draw ∧ draw ≤ s.reserveOf req.taskId ∧ 0 ≤ req.amount.value ∧
      s'.settled req.taskId = s.settled req.taskId ∧
      s'.active req.taskId = s.active req.taskId + req.amount.value ∧
      s'.overdrawn req.taskId = s.overdrawn req.taskId + max 0 (draw - req.amount.value) ∧
      s'.reserveOf req.taskId = s.reserveOf req.taskId - draw ∧
      s'.limitOf req.taskId = s.limitOf req.taskId := by
  obtain ⟨budget, draw, expiresAt, found, drawn, le, rfl, -, budgets⟩ := granted.budgeted
  have found' : s'.taskBudget req.taskId =
      some { budget with completionReserve := budget.completionReserve - draw } := by
    rw [taskBudget, budgets, taskBudget_setReserve, if_pos rfl]
    exact congrArg _ found
  refine ⟨draw, ?_, granted.nonneg.2, ?_, granted.nonneg.1, ?_, ?_, ?_, ?_, ?_⟩
  · simpa [reserveOf, found] using drawn
  · simpa [reserveOf, found] using le
  · rw [settled, Table.sum_insert? granted.inserted]
    simp [workHold, Reservation.settledPart, settled]
  · rw [active, Table.sum_insert? granted.inserted]
    simp [workHold, Reservation.activePart, active]
  · rw [overdrawn, Table.sum_insert? granted.inserted]
    simp [workHold, overdrawnPart, overdrawn]
  · simp [reserveOf, found, found']
  · simp [limitOf, found, found', renewedCapacity, granted.renewals]

/-- A granted reserve on another task. -/
theorem GrantedWork.elsewhere {s s' : TaskLedger} {req : ReserveRequest} {fresh : ReservationId}
    {row : Reservation} {taskId : TaskId} (granted : GrantedWork s req fresh row s')
    (ne : req.taskId ≠ taskId) :
    s'.taskBudget taskId = s.taskBudget taskId ∧ s'.settled taskId = s.settled taskId ∧
      s'.active taskId = s.active taskId ∧ s'.overdrawn taskId = s.overdrawn taskId := by
  obtain ⟨budget, draw, expiresAt, found, drawn, le, rfl, -, budgets⟩ := granted.budgeted
  refine ⟨?_, ?_, ?_, ?_⟩
  · rw [taskBudget, budgets, taskBudget_setReserve, if_neg (Ne.symm ne)]
    rfl
  · rw [settled, Table.sum_insert? granted.inserted]
    simp [workHold, ne, settled]
  · rw [active, Table.sum_insert? granted.inserted]
    simp [workHold, ne, active]
  · rw [overdrawn, Table.sum_insert? granted.inserted]
    simp [workHold, ne, overdrawn]

theorem ReserveInv.reserve {taskId : TaskId} {spent : Nat} {s s' : TaskLedger}
    {req : ReserveRequest} {fresh : ReservationId} {row : Reservation}
    (inv : ReserveInv taskId spent s) (granted : GrantedWork s req fresh row s') :
    ReserveInv taskId spent s' := by
  have leases : ∀ r ∈ s'.reservations, 0 ≤ r.amount ∧ 0 ≤ r.drawnFromReserve := by
    intro r mem
    obtain mem | rfl := (Table.mem_insert? granted.inserted r).mp mem
    · exact inv.leases_nonneg r mem
    · exact granted.nonneg
  have excess := inv.overdrawn_le
  have before := inv.conserved
  by_cases here : req.taskId = taskId
  · subst here
    obtain ⟨draw, drawn, draw_nonneg, draw_le, amount, settled', active', overdrawn', reserve',
      limit'⟩ := granted.sums
    obtain ⟨budget, _, _, found, -, -, -, -, budgets⟩ := granted.budgeted
    simp only [found, Option.map_some, Option.getD_some, gateHeadroom_eq inv found] at drawn
    refine ⟨?_, by omega, leases, ?_, ?_⟩
    · intro b there
      rw [taskBudget, budgets, taskBudget_setReserve, if_pos rfl,
        show s.taskBudgets.find? req.taskId = some budget from found] at there
      cases there
      exact inv.lifetime budget found
    -- Either the draw is nothing and the reserve is left whole, or it takes the
    -- reserve down to what the limit leaves beside the new lease.
    all_goals
      unfold drawFor at drawn
      split at drawn <;> split at drawn <;> cases drawn <;> omega
  · obtain ⟨budget', sums⟩ := granted.elsewhere here
    exact inv.untouched leases budget' sums (renewedCapacity_congr granted.renewals taskId).ge

/-- A granted `OptionalWork` reservation fits beside the whole reserve. -/
theorem optional_leaves_reserve {taskId : TaskId} {spent : Nat} {s s' : TaskLedger}
    {req : ReserveRequest} {fresh : ReservationId} {row : Reservation}
    (inv : ReserveInv taskId spent s) (granted : GrantedWork s req fresh row s')
    (here : req.taskId = taskId) (optional : req.class_ = .optionalWork) :
    s'.settled taskId + s'.active taskId + s'.reserveOf taskId ≤ s'.limitOf taskId := by
  subst here
  obtain ⟨draw, drawn, -, -, -, settled', active', -, reserve', limit'⟩ := granted.sums
  obtain ⟨budget, _, _, found, -⟩ := granted.budgeted
  simp only [found, Option.map_some, Option.getD_some, gateHeadroom_eq inv found, drawFor,
    optional] at drawn
  split at drawn <;> cases drawn
  omega

/-- An adjustment lowers the reserve or raises it within the headroom. -/
theorem ReserveInv.adjust {taskId other : TaskId} {spent : Nat} {s s' : TaskLedger}
    {newAmount : ResourceAmount} {basis : CompletionReserveBasis} {now : OffsetDateTime}
    {out : AdjustOutcome} (inv : ReserveInv taskId spent s)
    (done : s.adjustCompletionReserve other newAmount basis now = .ok (out, s')) :
    ReserveInv taskId spent s' := by
  obtain rfl | ⟨budget, found, nonneg, fits, reservations, renewals, -, budgets⟩ :=
    adjustCompletionReserve_ok done
  · exact inv
  have excess := inv.overdrawn_le
  have before := inv.conserved
  obtain ⟨settled', active', overdrawn'⟩ := sums_congr reservations taskId
  have renewed' := renewedCapacity_congr renewals taskId
  have leases : ∀ r ∈ s'.reservations, 0 ≤ r.amount ∧ 0 ≤ r.drawnFromReserve := by
    rw [reservations]
    exact inv.leases_nonneg
  have budget' : s'.taskBudget taskId = if taskId = other then some { budget with
      completionReserve := newAmount.value, completionReserveBasis := basis }
      else s.taskBudget taskId := by
    rw [taskBudget, budgets, Table.find?_updateAt, Table.find?_updateAt,
      show s.taskBudgets.find? other = some budget from found, if_pos rfl, Table.find?_updateAt]
    split <;> rfl
  by_cases here : taskId = other
  · subst here
    rw [if_pos rfl] at budget'
    have old : s.reserveOf taskId = budget.completionReserve := by rw [reserveOf, found]; rfl
    have reserve' : s'.reserveOf taskId = newAmount.value := by rw [reserveOf, budget']; rfl
    have limit' : s'.limitOf taskId = s.limitOf taskId := by
      rw [limitOf, budget', limitOf, found, renewed']
      rfl
    rw [gateHeadroom_eq inv found] at fits
    refine ⟨?_, by omega, leases, by omega, by omega⟩
    intro b there
    rw [budget'] at there
    cases there
    exact inv.lifetime budget found
  · rw [if_neg here] at budget'
    exact inv.untouched leases budget' ⟨settled', active', overdrawn'⟩ renewed'.ge

theorem ReserveInv.renew {taskId : TaskId} {spent : Nat} {s s' : TaskLedger}
    {renewal : TaskBudgetRenewal} (inv : ReserveInv taskId spent s)
    (positive : 0 < renewal.amount) (inserted : s.renewals.insert? renewal = some s'.renewals)
    (same : s' = { s with renewals := s'.renewals }) : ReserveInv taskId spent s' := by
  refine inv.untouched ?_ ?_ (sums_congr ?_ taskId) ?_
  · rw [same]
    exact inv.leases_nonneg
  · rw [same]
    rfl
  · rw [same]
  · rw [renewedCapacity, renewedCapacity, Table.sum_insert? inserted]
    split <;> omega

/-- The budget the invariant is about starts lifetime-bounded and with its reserve
within its limit. -/
theorem ReserveInv.initialize {taskId other : TaskId} {spent : Nat} {s s' : TaskLedger}
    {policy : Policy} {estimate : CompletionReserveEstimate} {scope : LifetimeScope}
    {now : OffsetDateTime} {out : Unit} (inv : ReserveInv taskId spent s)
    (lifetime : other = taskId → scope = .lifetimeBounded ∨ policy.turnCeiling = none)
    (within : other = taskId → estimate.amount.value ≤ policy.hardCeiling.value)
    (done : s.initializeTaskBudget other policy estimate scope now = .ok (out, s')) :
    ReserveInv taskId spent s' := by
  obtain ⟨reservations, renewals, ⟨budget, id, -, hard, reserve, nonneg, gate, -, budgets⟩, -⟩ :=
    initializeTaskBudget_ok done
  cases inserted : s.taskBudgets.insert? budget with
  | none => exact inv.congr reservations (by rw [budgets, inserted]; rfl) renewals
  | some table =>
      rw [inserted, Option.getD_some] at budgets
      have budget' : s'.taskBudget taskId =
          if other = taskId then some budget else s.taskBudget taskId := by
        rw [taskBudget, budgets, Table.find?_insert? inserted, id]
        rfl
      have absent : other = taskId → s.taskBudget taskId = none := by
        rintro rfl
        rw [← id]
        exact ((Table.insert?_eq_some_iff _ _ _).mp inserted).1
      obtain ⟨settled', active', overdrawn'⟩ := sums_congr reservations taskId
      have renewed' := renewedCapacity_congr renewals taskId
      have excess := inv.overdrawn_le
      have before := inv.conserved
      have leases : ∀ r ∈ s'.reservations, 0 ≤ r.amount ∧ 0 ≤ r.drawnFromReserve := by
        rw [reservations]
        exact inv.leases_nonneg
      by_cases here : other = taskId
      · rw [if_pos here] at budget'
        simp only [reserveOf, limitOf, absent here, Option.map_none, Option.getD_none] at before
        have := within here
        refine ⟨?_, ?_, leases, by omega, ?_⟩
        · intro b there
          rw [budget'] at there
          cases there
          obtain bounded | unbounded := lifetime here
          · simp [TaskBudget.turnCeilingIfScoped, gate, bounded]
          · simp [TaskBudget.turnCeilingIfScoped, gate, unbounded]
        · rw [reserveOf, budget']
          exact nonneg
        · simp only [reserveOf, limitOf, budget', Option.map_some, Option.getD_some]
          omega
      · rw [if_neg here] at budget'
        exact inv.untouched leases budget' ⟨settled', active', overdrawn'⟩ renewed'.ge

end TaskLedger

/-! ## Runs -/

/-- The task's budget is initialised lifetime-bounded, with its reserve within its
limit, and no capacity is sublet. -/
def LifetimeGated (taskId : TaskId) : TaskLedgerOp → Prop
  | .initializeTaskBudget other policy estimate scope _ =>
      other = taskId → (scope = .lifetimeBounded ∨ policy.turnCeiling = none) ∧
        estimate.amount.value ≤ policy.hardCeiling.value
  | .grantSublease _ _ => False
  | _ => True

open TaskLedger in
theorem apply_reserveInv (taskId : TaskId) (s : TaskLedger) (op : TaskLedgerOp) (spent : Nat)
    (gated : LifetimeGated taskId op) (inv : ReserveInv taskId spent s) :
    ReserveInv taskId (spent + (taskOverrunBy taskId s op + taskLateBy taskId s op))
      (op.apply s) := by
  -- Only a settle contributes; for the others it is enough to keep `spent`.
  have quiet : ReserveInv taskId spent (op.apply s) → ReserveInv taskId
      (spent + (taskOverrunBy taskId s op + taskLateBy taskId s op)) (op.apply s) :=
    fun kept => kept.mono (by omega)
  cases op with
  | initializeTaskBudget other policy estimate scope now =>
      refine quiet (commit_of inv fun _ s' done => ?_)
      exact inv.initialize (fun here => (gated here).1) (fun here => (gated here).2) done
  | reserve req fresh =>
      refine quiet (commit_of inv fun out s' done => ?_)
      obtain ⟨rfl, -⟩ | ⟨row, -, granted⟩ := reserve_ok done
      · exact inv
      · exact inv.reserve granted
  | settle id actual now =>
      unfold taskOverrunBy taskLateBy
      rw [TaskLedgerOp.apply]
      exact commit_of (P := fun s' => ReserveInv taskId
        (spent + (s.reservations.movedSum s'.reservations (ofTask taskId leaseOverrun) +
          s.reservations.movedSum s'.reservations (ofTask taskId leaseLate))) s')
        (inv.mono (by omega)) fun out s' done => inv.settle done
  | release id now =>
      refine quiet (commit_of inv fun out s' done => ?_)
      obtain rfl | ⟨row, found, active, rfl⟩ := release_ok done
      · exact inv
      · obtain ⟨-, rfl⟩ := (Table.find?_eq_some_iff _ _ _).mp found
        exact inv.reclaim found active (Reservation.release now) (fun _ => rfl) ⟨rfl, rfl⟩ rfl
          ⟨nofun, nofun⟩
  | releaseActiveForPlan other planId now =>
      refine quiet (commit_of inv fun out s' done => ?_)
      rw [releaseActiveForPlan_ok done]
      refine inv.reclaimAll now _ fun r selected => ?_
      simp only [decide_eq_true_eq] at selected
      exact selected.2.2
  | expireStaleReservations now =>
      refine quiet (commit_of inv fun out s' done => ?_)
      rw [expireStaleReservations_ok done]
      exact inv.expireStale now
  | adjustCompletionReserve other newAmount basis now =>
      exact quiet (commit_of inv fun out s' done => inv.adjust done)
  | grantRenewal other request status evidence now fresh =>
      refine quiet (commit_of inv fun out s' done => ?_)
      obtain rfl | ⟨renewal, positive, inserted, same⟩ := grantRenewal_ok done
      · exact inv
      · exact inv.renew positive inserted same
  | ensureChildAccount parent level naturalKey now fresh =>
      refine quiet (commit_of inv fun out s' done => ?_)
      obtain rfl | ⟨_, _, -, -, -, -, -, -, -, -, -, -, same⟩ := ensureChildAccount_ok done
      · exact inv
      · exact inv.congr (by rw [same]) (by rw [same]) (by rw [same])
  | grantSublease req fresh => exact gated.elim

theorem reserveInv_empty (taskId : TaskId) : TaskLedger.ReserveInv taskId 0 TaskLedger.empty where
  lifetime := by
    intro b found
    cases found
  reserve_nonneg := le_refl 0
  leases_nonneg := by
    intro r mem
    cases mem
  overdrawn_le := le_refl 0
  conserved := le_refl 0

/-- In every run over a lifetime-bounded budget the reserve stays nonnegative, the
task's commitments and its reserve stay within the effective limit and what
overruns and late settlements added, and an `OptionalWork` grant leaves them within
the limit itself. -/
theorem reserve_conserved (taskId : TaskId) (ops : List TaskLedgerOp)
    (gated : ∀ op ∈ ops, LifetimeGated taskId op) :
    let s := run TaskLedgerOp.apply TaskLedger.empty ops
    0 ≤ s.reserveOf taskId ∧
    s.settled taskId + s.active taskId + s.reserveOf taskId ≤ s.limitOf taskId +
      (total TaskLedgerOp.apply (taskOverrunBy taskId) TaskLedger.empty ops +
        total TaskLedgerOp.apply (taskLateBy taskId) TaskLedger.empty ops : Nat) ∧
    ∀ req fresh row s', req.taskId = taskId → req.class_ = .optionalWork →
      s.reserve req fresh = .ok (.granted row, s') →
      s'.settled taskId + s'.active taskId + s'.reserveOf taskId ≤ s'.limitOf taskId := by
  intro s
  have inv := run_accumulates (fun s op spent => apply_reserveInv taskId s op spent)
    (along_of_mem gated TaskLedger.empty) (reserveInv_empty taskId)
  rw [Nat.zero_add, total_add] at inv
  have conserved := inv.conserved
  have excess := TaskLedger.overdrawn_nonneg s taskId
  change s.settled taskId + s.active taskId + s.overdrawn taskId + s.reserveOf taskId ≤
    s.limitOf taskId + _ at conserved
  refine ⟨inv.reserve_nonneg, by omega, ?_⟩
  intro req fresh row s' here optional done
  obtain ⟨-, refused⟩ | ⟨row', -, granted⟩ := TaskLedger.reserve_ok done
  · exact absurd rfl (refused row)
  · exact TaskLedger.optional_leaves_reserve inv granted here optional

/-! ## Poles -/

def tracedTask : TaskId := ⟨7⟩

def tracedPolicy : Policy :=
  { target := ⟨.usd, 100⟩, hardCeiling := ⟨.usd, 100⟩, turnCeiling := none, renewal := none }

def tracedRequest (class_ : ReservationClass) (amount : Int) (key : String) (ttlSecs : Nat) :
    TaskLedger.ReserveRequest :=
  { taskId := tracedTask, sessionId := "session", planId := none, class_, amount := ⟨.usd, amount⟩,
    idempotencyKey := key, now := 0, ttlSecs }

/-- A limit of 100 with a reserve of 20: optional work of 30 settled at 60, required
work of 30 that draws 10 of the reserve and is settled after it expired. -/
def traced : List TaskLedgerOp :=
  [.initializeTaskBudget tracedTask tracedPolicy ⟨⟨.usd, 20⟩, .policyTarget⟩ .lifetimeBounded 0,
   .reserve (tracedRequest .optionalWork 30 "first" 10) ⟨1⟩,
   .settle ⟨1⟩ (some ⟨.usd, 60⟩) 0,
   .reserve (tracedRequest .requiredWork 30 "second" 0) ⟨2⟩,
   .expireStaleReservations 0,
   .settle ⟨2⟩ none 0]

/-- The bound is met by 90 settled and a reserve of 20 against 100 + 30 + 30. -/
theorem traced_conserved :
    (run TaskLedgerOp.apply TaskLedger.empty traced).settled tracedTask = 90 ∧
    (run TaskLedgerOp.apply TaskLedger.empty traced).reserveOf tracedTask = 20 ∧
    (run TaskLedgerOp.apply TaskLedger.empty traced).settled tracedTask +
        (run TaskLedgerOp.apply TaskLedger.empty traced).active tracedTask +
        (run TaskLedgerOp.apply TaskLedger.empty traced).reserveOf tracedTask ≤
      (run TaskLedgerOp.apply TaskLedger.empty traced).limitOf tracedTask +
        (total TaskLedgerOp.apply (taskOverrunBy tracedTask) TaskLedger.empty traced +
          total TaskLedgerOp.apply (taskLateBy tracedTask) TaskLedger.empty traced : Nat) ∧
    ∃ row s', (run TaskLedgerOp.apply TaskLedger.empty (traced.take 1)).reserve
        (tracedRequest .optionalWork 30 "first" 10) ⟨1⟩ = .ok (.granted row, s') ∧
      s'.settled tracedTask + s'.active tracedTask + s'.reserveOf tracedTask ≤
        s'.limitOf tracedTask := by
  have gated : ∀ op ∈ traced, LifetimeGated tracedTask op := by
    simp [traced, LifetimeGated, tracedPolicy]
  have first : ∀ op ∈ traced.take 1, LifetimeGated tracedTask op := by
    simp [traced, LifetimeGated, tracedPolicy]
  obtain ⟨row, s', done⟩ : ∃ row s', (run TaskLedgerOp.apply TaskLedger.empty
      (traced.take 1)).reserve (tracedRequest .optionalWork 30 "first" 10) ⟨1⟩ =
        .ok (.granted row, s') := ⟨_, _, rfl⟩
  refine ⟨by decide, by decide, (reserve_conserved tracedTask traced gated).2.1, row, s', done, ?_⟩
  exact (reserve_conserved tracedTask _ first).2.2 _ _ row s' rfl rfl done

end LibraGovernor
