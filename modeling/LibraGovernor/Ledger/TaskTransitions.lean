/-
# LibraGovernor.Ledger.TaskTransitions -- what each task-ledger transaction writes

One inversion lemma per transaction of the task ledger, and the alphabet of its
runs.  The sweeps are taken apart here too: `reclaimAll` and the expiry sweep only
ever reclaim leases that are active when their turn comes, because the leases a
sweep selects have distinct ids.
-/
import LibraGovernor.Ledger.TaskLedger
import LibraGovernor.Lib.Transaction
import LibraGovernor.Lib.Run

namespace LibraGovernor

open Relational Transaction

set_option autoImplicit false

namespace TaskLedger

@[simp] theorem lift_eq_ok_iff {α : Type} (x : Except LedgerError α) (a : α) :
    lift x = .ok a ↔ x = .ok a := by
  cases x with
  | error e => simp [lift]
  | ok b => simp [lift]

theorem rfc3339_eq {t stamp : OffsetDateTime} (stamped : rfc3339 t = .ok stamp) : stamp = t := by
  unfold rfc3339 at stamped
  split at stamped <;> cases stamped
  rfl

/-! ## Row writes -/

theorem insertReservation_ok {s s' : TaskLedger} {r : Reservation}
    (done : s.insertReservation r = .ok s') :
    0 ≤ r.amount ∧ 0 ≤ r.drawnFromReserve ∧ s.reservations.insert? r = some s'.reservations ∧
      (∀ child, r.grantsAccount = some child → s.resourceAccounts.find? child ≠ none) ∧
      s' = { s with reservations := s'.reservations } := by
  unfold insertReservation at done
  split at done
  · cases done
  rename_i nonneg
  split at done
  · cases done
  split at done
  · cases done
  rename_i granted
  split at done
  · cases done
  split at done
  · cases done
  rename_i table inserted
  cases done
  refine ⟨by omega, by omega, inserted, ?_, rfl⟩
  intro child grants absent
  simp [grants, absent] at granted

theorem setCompletionReserve_ok {s s' : TaskLedger} {taskId : TaskId} {value : Int}
    (done : s.setCompletionReserve taskId value = .ok s') :
    0 ≤ value ∧ s' = { s with
      taskBudgets := s.taskBudgets.updateAt taskId (fun b => { b with completionReserve := value })
        fun _ => rfl } := by
  unfold setCompletionReserve at done
  split at done
  · cases done
  · cases done
    exact ⟨by omega, rfl⟩

/-! ## One inversion per transaction -/

theorem initializeTaskBudget_ok {s s' : TaskLedger} {taskId : TaskId} {policy : Policy}
    {reserve : CompletionReserveEstimate} {scope : LifetimeScope} {now : OffsetDateTime}
    {out : Unit} (done : s.initializeTaskBudget taskId policy reserve scope now = .ok (out, s')) :
    s'.reservations = s.reservations ∧ s'.renewals = s.renewals ∧
      (∃ budget : TaskBudget, budget.taskId = taskId ∧ budget.resourceKind = policy.target.kind ∧
        budget.hardLimit = policy.hardCeiling.value ∧
        budget.completionReserve = reserve.amount.value ∧ 0 ≤ budget.completionReserve ∧
        budget.lifetimeScope = (if policy.turnCeiling.isSome then scope else .lifetimeBounded) ∧
        budget.policy = policy ∧
        s'.taskBudgets = (s.taskBudgets.insert? budget).getD s.taskBudgets) ∧
      (∃ account : ResourceAccount, account.accountId = .forTask taskId ∧ account.level = .task ∧
        account.parentAccountId = none ∧ account.taskId = some taskId ∧
        account.grantedCapacity = none ∧ account.protectedReserve = none ∧
        account.fundingLeaseId = none ∧ account.state = .open_ ∧
        s'.resourceAccounts = (s.resourceAccounts.insert? account).getD s.resourceAccounts) := by
  simp only [initializeTaskBudget, bind_eq_ok_iff] at done
  obtain ⟨stamp, -, done⟩ := done
  split at done
  · cases done
  rename_i nonneg
  cases done
  exact ⟨rfl, rfl, ⟨_, rfl, rfl, rfl, rfl, by simp only; omega, rfl, rfl, rfl⟩,
    ⟨_, rfl, rfl, rfl, rfl, rfl, rfl, rfl, rfl, rfl⟩⟩

/-- Everything a granted reserve knows. -/
structure GrantedWork (s : TaskLedger) (req : ReserveRequest) (fresh : ReservationId)
    (row : Reservation) (s' : TaskLedger) : Prop where
  budgeted : ∃ budget draw expiresAt, s.taskBudget req.taskId = some budget ∧
    drawFor req.class_ (budget.gateHeadroom (s.renewedCapacity req.taskId) (s.settled req.taskId)
      (s.active req.taskId)) budget.completionReserve req.amount.value = .ok draw ∧
    draw ≤ budget.completionReserve ∧
    row = workHold req fresh budget.resourceKind draw expiresAt ∧
    leaseExpiry req.now req.ttlSecs = .ok expiresAt ∧
    s'.taskBudgets = s.taskBudgets.updateAt req.taskId
      (fun b => { b with completionReserve := budget.completionReserve - draw }) fun _ => rfl
  nonneg : 0 ≤ row.amount ∧ 0 ≤ row.drawnFromReserve
  inserted : s.reservations.insert? row = some s'.reservations
  renewals : s'.renewals = s.renewals
  accounts : s'.resourceAccounts = s.resourceAccounts

theorem reserve_ok {s s' : TaskLedger} {req : ReserveRequest} {fresh : ReservationId}
    {out : ReserveOutcome} (done : s.reserve req fresh = .ok (out, s')) :
    (s' = s ∧ ∀ r, out ≠ .granted r) ∨ ∃ row, out = .granted row ∧
      GrantedWork s req fresh row s' := by
  simp only [reserve] at done
  split at done
  · cases done
    exact .inl ⟨rfl, by simp⟩
  split at done
  · cases done
    exact .inl ⟨rfl, by simp⟩
  rename_i budget found
  split at done
  · cases done
  split at done
  · cases done
    exact .inl ⟨rfl, by simp⟩
  rename_i draw drawn
  simp only [bind_eq_ok_iff, lift_eq_ok_iff] at done
  obtain ⟨mid, set, expiresAt, expiry, _, -, _, -, next, inserted, done⟩ := done
  cases done
  obtain ⟨left, rfl⟩ := setCompletionReserve_ok set
  obtain ⟨amount, drawn', inserted, -, same⟩ := insertReservation_ok inserted
  refine .inr ⟨_, rfl, ⟨budget, draw, expiresAt, found, drawn, by omega, rfl, expiry, ?_⟩,
    ⟨amount, drawn'⟩, inserted, ?_, ?_⟩
  · rw [same]
  · rw [same]
  · rw [same]

/-- A settle finds nothing to close, or closes an active or an expired lease. -/
theorem settle_ok {s s' : TaskLedger} {id : ReservationId} {actual : Option ResourceAmount}
    {now : OffsetDateTime} {out : SettleOutcome} (done : s.settle id actual now = .ok (out, s')) :
    s' = s ∨ ∃ row value known, s.reservations.find? id = some row ∧
      (0 ≤ row.amount → 0 ≤ value) ∧
      ((row.state = .active ∧
          s' = (s.updateReservation id (Reservation.settle value known false now)
            fun _ => rfl).restoreReserve row.taskId
              (min (max 0 (row.amount - value)) row.drawnFromReserve)) ∨
        (row.state = .expired ∧
          s' = s.updateReservation id (Reservation.settle value known true now) fun _ => rfl)) := by
  simp only [settle] at done
  split at done
  · cases done
  rename_i reported
  split at done
  · cases done
    exact .inl rfl
  rename_i row found
  split at done
  · rename_i open_
    split at done
    · cases done
    simp only [bind_eq_ok_iff, lift_eq_ok_iff] at done
    obtain ⟨stamp, stamped, done⟩ := done
    cases rfc3339_eq stamped
    cases done
    refine .inr ⟨row, (actual.map ResourceAmount.value).getD row.amount, actual.isSome, found,
      ?_, ?_⟩
    · intro nonneg
      cases actual with
      | none => exact nonneg
      | some a => simpa using reported
    · by_cases late : row.state = .expired
      · exact .inr ⟨late, by simp [late, restoreReserve]⟩
      · have active : row.state = .active := by simpa [late] using open_
        exact .inl ⟨active, by simp [late]⟩
  · cases done
    exact .inl rfl

theorem release_ok {s s' : TaskLedger} {id : ReservationId} {now : OffsetDateTime}
    {out : ReleaseOutcome} (done : s.release id now = .ok (out, s')) :
    s' = s ∨ ∃ row, s.reservations.find? id = some row ∧ row.state = .active ∧
      s' = reclaim (Reservation.release now) (fun _ => rfl) s row := by
  simp only [release] at done
  split at done
  · cases done
    exact .inl rfl
  rename_i row found
  split at done
  · rename_i active
    simp only [bind_eq_ok_iff, lift_eq_ok_iff] at done
    obtain ⟨stamp, stamped, done⟩ := done
    cases rfc3339_eq stamped
    cases done
    exact .inr ⟨row, found, active, rfl⟩
  · cases done
    exact .inl rfl

theorem releaseActiveForPlan_ok {s s' : TaskLedger} {taskId : TaskId} {planId : PlanId}
    {now : OffsetDateTime} {out : List Reservation}
    (done : s.releaseActiveForPlan taskId planId now = .ok (out, s')) :
    s' = reclaimAll (Reservation.release now) (fun _ => rfl) s
      (s.reservations.rows.filter fun r =>
        r.taskId = taskId ∧ r.planId = some planId ∧ r.state = .active) := by
  simp only [releaseActiveForPlan] at done
  split at done
  · rename_i none
    cases done
    rw [List.isEmpty_iff.mp none]
    rfl
  · simp only [bind_eq_ok_iff, lift_eq_ok_iff] at done
    obtain ⟨stamp, stamped, done⟩ := done
    cases rfc3339_eq stamped
    cases done
    rfl

theorem expireStaleReservations_ok {s s' : TaskLedger} {now : OffsetDateTime}
    {out : List Reservation} (done : s.expireStaleReservations now = .ok (out, s')) :
    s' = (s.reservations.rows.filter (leaseStale now)).foldl (expireOne now) s := by
  simp only [expireStaleReservations, bind_eq_ok_iff, lift_eq_ok_iff] at done
  obtain ⟨stamp, stamped, done⟩ := done
  cases rfc3339_eq stamped
  cases done
  rfl

/-- An adjustment sets the reserve; a raise stays within the headroom. -/
theorem adjustCompletionReserve_ok {s s' : TaskLedger} {taskId : TaskId}
    {newAmount : ResourceAmount} {basis : CompletionReserveBasis} {now : OffsetDateTime}
    {out : AdjustOutcome}
    (done : s.adjustCompletionReserve taskId newAmount basis now = .ok (out, s')) :
    s' = s ∨ ∃ budget, s.taskBudget taskId = some budget ∧ 0 ≤ newAmount.value ∧
      (newAmount.value ≤ budget.completionReserve ∨
        newAmount.value ≤ budget.gateHeadroom (s.renewedCapacity taskId) (s.settled taskId)
          (s.active taskId)) ∧
      s'.reservations = s.reservations ∧ s'.renewals = s.renewals ∧
      s'.resourceAccounts = s.resourceAccounts ∧
      s'.taskBudgets = (s.taskBudgets.updateAt taskId
        (fun b => { b with completionReserve := newAmount.value }) fun _ => rfl).updateAt taskId
          (fun b => { b with completionReserveBasis := basis }) fun _ => rfl := by
  simp only [adjustCompletionReserve] at done
  split at done
  · cases done
    exact .inl rfl
  rename_i budget found
  split at done
  · cases done
  split at done
  · cases done
    exact .inl rfl
  rename_i fits
  simp only [bind_eq_ok_iff, lift_eq_ok_iff] at done
  obtain ⟨_, -, adjusted, set, done⟩ := done
  cases done
  obtain ⟨nonneg, rfl⟩ := setCompletionReserve_ok set
  refine .inr ⟨budget, found, nonneg, ?_, rfl, rfl, rfl, rfl⟩
  omega

/-- A renewal adds one positive amount, or nothing. -/
theorem grantRenewal_ok {s s' : TaskLedger} {taskId : TaskId} {request : RenewalRequest}
    {status : BlockingStatus} {evidence : TaskEvidence} {now : OffsetDateTime} {fresh : RenewalId}
    {out : GrantRenewalOutcome}
    (done : s.grantRenewal taskId request status evidence now fresh = .ok (out, s')) :
    s' = s ∨ ∃ renewal, 0 < renewal.amount ∧ s.renewals.insert? renewal = some s'.renewals ∧
      s' = { s with renewals := s'.renewals } := by
  simp only [grantRenewal] at done
  split at done
  · cases done
    exact .inl rfl
  split at done
  · cases done
    exact .inl rfl
  split at done
  · cases done
    exact .inl rfl
  simp only [bind_eq_ok_iff, lift_eq_ok_iff] at done
  obtain ⟨_, -, done⟩ := done
  split at done
  · cases done
  rename_i positive
  split at done
  · cases done
  rename_i renewals inserted
  cases done
  exact .inr ⟨_, Int.not_le.mp positive, inserted, rfl⟩

theorem ensureChildAccount_ok {s s' : TaskLedger} {parentAccountId : AccountId}
    {level : AccountLevel} {naturalKey : String} {now : OffsetDateTime} {fresh : AccountId}
    {out : Except AccountError ResourceAccount}
    (done : s.ensureChildAccount parentAccountId level naturalKey now fresh = .ok (out, s')) :
    s' = s ∨ ∃ parent account, s.resourceAccounts.find? parentAccountId = some parent ∧
      s.resourceAccounts.insert? account = some s'.resourceAccounts ∧ account.accountId = fresh ∧ account.level = level ∧
      account.parentAccountId = some parentAccountId ∧ account.taskId = parent.taskId ∧
      account.grantedCapacity = none ∧ account.protectedReserve = none ∧
      account.fundingLeaseId = none ∧ account.state = .open_ ∧
      s' = { s with resourceAccounts := s'.resourceAccounts } := by
  simp only [ensureChildAccount] at done
  split at done
  · cases done
    exact .inl rfl
  rename_i parent found
  simp only [bind_eq_ok_iff, lift_eq_ok_iff] at done
  obtain ⟨_, -, done⟩ := done
  split at done
  · cases done
    exact .inl rfl
  split at done
  · cases done
  rename_i accounts inserted
  cases done
  exact .inr ⟨parent, _, found, inserted, rfl, rfl, rfl, rfl, rfl, rfl, rfl, rfl, rfl⟩

/-- Everything a granted sublease knows: the parent is open, the expiry is not past
the lease recorded as funding it, and the amount was available in it. -/
structure GrantedSublease (s : TaskLedger) (req : GrantSubleaseRequest) (fresh : ReservationId)
    (parent : ResourceAccount) (lease : Reservation) (s' : TaskLedger) : Prop where
  parent_found : s.resourceAccounts.find? req.parentAccountId = some parent
  parent_open : parent.state = .open_
  available : req.amount.value ≤ s.sublettable parent
  lease_eq : ∃ taskId expiresAt, parent.taskId = some taskId ∧
    leaseExpiry req.now req.ttlSecs = .ok expiresAt ∧
    s.exceedsFunding parent expiresAt = .ok false ∧
    lease = fundingLease req fresh taskId parent.resourceKind expiresAt
  nonneg : 0 ≤ req.amount.value
  inserted : s.reservations.insert? lease = some s'.reservations
  child : ∃ child, s.resourceAccounts.find? req.childAccountId = some child ∧ child.level ≠ .task
  accounts : s'.resourceAccounts = s.resourceAccounts.updateAt req.childAccountId
    (fun a => { a with grantedCapacity := some req.amount.value, fundingLeaseId := some fresh })
    fun _ => rfl
  budgets : s'.taskBudgets = s.taskBudgets
  renewals : s'.renewals = s.renewals

theorem grantSublease_ok {s s' : TaskLedger} {req : GrantSubleaseRequest}
    {fresh : ReservationId} {out : Except AccountError GrantSubleaseOutcome}
    (done : s.grantSublease req fresh = .ok (out, s')) :
    s' = s ∨ ∃ parent lease, out = .ok (.granted lease) ∧
      GrantedSublease s req fresh parent lease s' := by
  simp only [grantSublease] at done
  split at done
  · cases done
    exact .inl rfl
  split at done
  · cases done
    exact .inl rfl
  rename_i parent found
  split at done
  · cases done
    exact .inl rfl
  rename_i opened
  split at done
  · cases done
    exact .inl rfl
  simp only [bind_eq_ok_iff] at done
  obtain ⟨expiresAt, expiry, exceeds, funding, done⟩ := done
  split at done
  · cases done
    exact .inl rfl
  rename_i within
  split at done
  · cases done
    exact .inl rfl
  rename_i available
  split at done
  · cases done
    exact .inl rfl
  rename_i taskId lineage
  simp only [bind_eq_ok_iff, lift_eq_ok_iff] at done
  obtain ⟨_, -, _, -, mid, inserted, next, funded, done⟩ := done
  cases done
  obtain ⟨nonneg, -, inserted, granted, same⟩ := insertReservation_ok inserted
  unfold fundAccount at funded
  split at funded
  · cases funded
  rename_i level
  cases funded
  have accounts : mid.resourceAccounts = s.resourceAccounts := by rw [same]
  obtain ⟨child, there⟩ := Option.ne_none_iff_exists'.mp (granted req.childAccountId rfl)
  refine .inr ⟨parent, _, rfl, found, not_not.mp opened, by omega,
    ⟨taskId, expiresAt, lineage, expiry, ?_, rfl⟩, nonneg, inserted, ⟨child, there, ?_⟩, ?_, ?_, ?_⟩
  · rw [funding]
    simpa using within
  · simpa [accounts, there] using level
  · simp only [accounts]
  · rw [same]
  · rw [same]

/-! ## Sweeps -/

/-- A sweep that visits leases with distinct ids, each found and active at the start,
keeps what each turn keeps, as long as a turn leaves the other leases alone. -/
theorem sweep_invariant {turn : TaskLedger → Reservation → TaskLedger} {inv : TaskLedger → Prop}
    (keep : ∀ s row, inv s → s.reservations.find? row.id = some row → row.state = .active →
      inv (turn s row))
    (frame : ∀ s row other, other.id ≠ row.id → s.reservations.find? other.id = some other →
      (turn s row).reservations.find? other.id = some other)
    {s : TaskLedger} {rows : List Reservation} (distinct : (rows.map Reservation.id).Nodup)
    (there : ∀ r ∈ rows, s.reservations.find? r.id = some r ∧ r.state = .active)
    (start : inv s) : inv (rows.foldl turn s) := by
  induction rows generalizing s with
  | nil => exact start
  | cons row rows ih =>
      rw [List.map_cons, List.nodup_cons] at distinct
      obtain ⟨found, active⟩ := there row List.mem_cons_self
      refine ih distinct.2 ?_ (keep s row start found active)
      intro r mem
      obtain ⟨found', active'⟩ := there r (List.mem_cons_of_mem row mem)
      refine ⟨frame s row r ?_ found', active'⟩
      intro same
      exact distinct.1 (same ▸ List.mem_map_of_mem mem)

/-- The leases a `SELECT` returns have distinct ids and are found under them. -/
theorem selected_distinct (s : TaskLedger) (p : Reservation → Bool) :
    ((s.reservations.rows.filter p).map Reservation.id).Nodup :=
  s.reservations.nodup.sublist (List.filter_sublist.map _)

theorem selected_there (s : TaskLedger) {p : Reservation → Bool}
    (active : ∀ r, p r = true → r.state = .active) :
    ∀ r ∈ s.reservations.rows.filter p,
      s.reservations.find? r.id = some r ∧ r.state = .active := by
  intro r mem
  rw [List.mem_filter] at mem
  exact ⟨(Table.find?_eq_some_iff _ _ _).mpr ⟨mem.1, rfl⟩, active r mem.2⟩

@[simp] theorem restoreReserve_reservations (s : TaskLedger) (taskId : TaskId) (restore : Int) :
    (s.restoreReserve taskId restore).reservations = s.reservations := by
  unfold restoreReserve
  split <;> rfl

@[simp] theorem restoreReserve_renewals (s : TaskLedger) (taskId : TaskId) (restore : Int) :
    (s.restoreReserve taskId restore).renewals = s.renewals := by
  unfold restoreReserve
  split <;> rfl

@[simp] theorem restoreReserve_accounts (s : TaskLedger) (taskId : TaskId) (restore : Int) :
    (s.restoreReserve taskId restore).resourceAccounts = s.resourceAccounts := by
  unfold restoreReserve
  split <;> rfl

@[simp] theorem expireGranted_reservations (now : OffsetDateTime) (s : TaskLedger)
    (row : Reservation) : (expireGranted now s row).reservations = s.reservations := by
  unfold expireGranted
  split <;> rfl

@[simp] theorem expireGranted_budgets (now : OffsetDateTime) (s : TaskLedger)
    (row : Reservation) : (expireGranted now s row).taskBudgets = s.taskBudgets := by
  unfold expireGranted
  split <;> rfl

@[simp] theorem expireGranted_renewals (now : OffsetDateTime) (s : TaskLedger)
    (row : Reservation) : (expireGranted now s row).renewals = s.renewals := by
  unfold expireGranted
  split <;> rfl

theorem reclaim_reservations (close : Reservation → Reservation)
    (keeps : ∀ r, (close r).id = r.id) (s : TaskLedger) (row : Reservation) :
    (reclaim close keeps s row).reservations = s.reservations.updateAt row.id close keeps := by
  simp [reclaim, updateReservation]

theorem reclaim_frame (close : Reservation → Reservation) (keeps : ∀ r, (close r).id = r.id)
    (s : TaskLedger) (row other : Reservation) (apart : other.id ≠ row.id)
    (found : s.reservations.find? other.id = some other) :
    (reclaim close keeps s row).reservations.find? other.id = some other := by
  rw [reclaim_reservations, Table.find?_updateAt, if_neg apart]
  exact found

theorem expireOne_frame (now : OffsetDateTime) (s : TaskLedger) (row other : Reservation)
    (apart : other.id ≠ row.id) (found : s.reservations.find? other.id = some other) :
    (expireOne now s row).reservations.find? other.id = some other := by
  rw [expireOne, expireGranted_reservations]
  exact reclaim_frame _ _ s row other apart found

end TaskLedger

/-! ## Runs -/

/-- The task-ledger operations; each carries the arguments of one call. -/
inductive TaskLedgerOp where
  | initializeTaskBudget (taskId : TaskId) (policy : Policy) (reserve : CompletionReserveEstimate)
      (scope : LifetimeScope) (now : OffsetDateTime)
  | reserve (req : TaskLedger.ReserveRequest) (fresh : ReservationId)
  | settle (id : ReservationId) (actual : Option ResourceAmount) (now : OffsetDateTime)
  | release (id : ReservationId) (now : OffsetDateTime)
  | releaseActiveForPlan (taskId : TaskId) (planId : PlanId) (now : OffsetDateTime)
  | expireStaleReservations (now : OffsetDateTime)
  | adjustCompletionReserve (taskId : TaskId) (newAmount : ResourceAmount)
      (basis : CompletionReserveBasis) (now : OffsetDateTime)
  | grantRenewal (taskId : TaskId) (request : RenewalRequest) (status : BlockingStatus)
      (evidence : TaskLedger.TaskEvidence) (now : OffsetDateTime) (fresh : RenewalId)
  | ensureChildAccount (parentAccountId : AccountId) (level : AccountLevel) (naturalKey : String)
      (now : OffsetDateTime) (fresh : AccountId)
  | grantSublease (req : TaskLedger.GrantSubleaseRequest) (fresh : ReservationId)

/-- One atomic operation; a failed one changes nothing. -/
def TaskLedgerOp.apply (s : TaskLedger) : TaskLedgerOp → TaskLedger
  | .initializeTaskBudget taskId policy estimate scope now =>
      commit s (s.initializeTaskBudget taskId policy estimate scope now)
  | .reserve req fresh => commit s (s.reserve req fresh)
  | .settle id actual now => commit s (s.settle id actual now)
  | .release id now => commit s (s.release id now)
  | .releaseActiveForPlan taskId planId now => commit s (s.releaseActiveForPlan taskId planId now)
  | .expireStaleReservations now => commit s (s.expireStaleReservations now)
  | .adjustCompletionReserve taskId newAmount basis now =>
      commit s (s.adjustCompletionReserve taskId newAmount basis now)
  | .grantRenewal taskId request status evidence now fresh =>
      commit s (s.grantRenewal taskId request status evidence now fresh)
  | .ensureChildAccount parentAccountId level naturalKey now fresh =>
      commit s (s.ensureChildAccount parentAccountId level naturalKey now fresh)
  | .grantSublease req fresh => commit s (s.grantSublease req fresh)

end LibraGovernor
