/-
# LibraGovernor.Daemon.GatewayPool -- many requests over one task ledger

The daemon answers the gateway's calls from the task ledger: each is one transaction, and between
two of them the other requests, the expiry sweep and every other operation of the ledger may run.

In all of these interleavings (`requests_close`) a request has at most one reservation; the
provider is called only while it is there, in the task that the store binds the request's session to and
at the worst case of what is sent; and a request that is done leaves none active, unless the ledger did
not take its closing.  The argument joins what the monitor says of one request alone with what each
operation does to the rows it does not own: a session stays with its task, and a budget in its unit.
-/
import LibraGovernor.Gateway.RequestTrace
import LibraGovernor.Ledger.ReserveConservation
import LibraGovernor.Ledger.TrajectoryTransitions

namespace LibraGovernor

open Calls Progress Relational Transaction

set_option autoImplicit false

/-! ## The task ledger's authority -/

/-- The unit that the budget of a task is in. -/
def TaskLedger.budgetKind (s : TaskLedger) (taskId : TaskId) : Option ResourceKind :=
  (s.taskBudget taskId).map TaskBudget.resourceKind

/-- The task of a session, and the unit of its budget. -/
def budgetContext (s : Trajectory) (sessionId : String) : Option BudgetContext :=
  match s.taskIdForSession sessionId with
  | none => none
  | some taskId =>
  match s.budget.taskBudget taskId with
  | none => none
  | some budget => some ⟨taskId, budget.resourceKind⟩

theorem budgetContext_eq_some_iff {s : Trajectory} {sessionId : String} {context : BudgetContext} :
    budgetContext s sessionId = some context ↔ s.taskIdForSession sessionId = some context.taskId ∧
      s.budget.budgetKind context.taskId = some context.resourceKind := by
  unfold budgetContext TaskLedger.budgetKind
  cases named : s.taskIdForSession sessionId with
  | none => simp
  | some taskId =>
      dsimp only
      constructor
      · intro given
        split at given
        · cases given
        · rename_i budget found
          cases given
          exact ⟨rfl, by rw [found]; rfl⟩
      · rintro ⟨same, kind⟩
        cases same
        obtain ⟨budget, found, same⟩ := Option.map_eq_some_iff.mp kind
        simp only [found, same]

/-- What the policy of a budget says of the total that a request would make. -/
inductive PolicyVerdict where
  | admits
  | asks
  | denies (detail : String)
  deriving DecidableEq, Repr

def PolicyVerdict.approvalRequired : PolicyVerdict → Bool
  | .asks => true
  | _ => false

/-- Optional work, of no plan. -/
def SpendRequest.reserveRequest (req : SpendRequest) (now : OffsetDateTime) : TaskLedger.ReserveRequest where
  taskId := req.taskId
  sessionId := req.sessionId
  planId := none
  class_ := .optionalWork
  amount := req.amount
  idempotencyKey := req.idempotencyKey
  now := now
  ttlSecs := req.ttlSecs

def spendDecision (kind : ResourceKind) (approvalRequired : Bool) : TaskLedger.ReserveOutcome → SpendDecision
  | .granted r => .granted r.id ⟨r.resourceKind, r.amount⟩ approvalRequired
  | .alreadyGranted r => .granted r.id ⟨r.resourceKind, r.amount⟩ approvalRequired
  | .insufficient available requested protectedReserve =>
      .denied (.insufficient available requested ⟨kind, protectedReserve⟩)
  | .noBudget => .denied .noBudget

/-- The policy classifies; the reservation is what commits capacity. -/
def authorizeSpend (s : TaskLedger) (verdict : Option PolicyVerdict) (req : SpendRequest)
    (now : OffsetDateTime) (fresh : ReservationId) : Option SpendDecision × TaskLedger :=
  match s.taskBudget req.taskId with
  | none => (some (.denied .noBudget), s)
  | some budget =>
  match verdict with
  | none => (none, s)
  | some (.denies detail) => (some (.denied (.policyDenied detail)), s)
  | some verdict =>
  match s.reserve (req.reserveRequest now) fresh with
  | .error _ => (none, s)
  | .ok (outcome, s') => (some (spendDecision budget.resourceKind verdict.approvalRequired outcome), s')

/-! ## Rows that stay -/

/-- A lease that is the same but for its closing. -/
structure Reservation.Stays (r r' : Reservation) : Prop where
  id : r'.id = r.id
  taskId : r'.taskId = r.taskId
  sessionId : r'.sessionId = r.sessionId
  key : r'.idempotencyKey = r.idempotencyKey
  kind : r'.resourceKind = r.resourceKind
  amount : r'.amount = r.amount
  active : r'.state = .active → r.state = .active

namespace Reservation.Stays

theorem refl (r : Reservation) : r.Stays r := ⟨rfl, rfl, rfl, rfl, rfl, rfl, fun active => active⟩

theorem trans {r r' r'' : Reservation} (first : r.Stays r') (next : r'.Stays r'') : r.Stays r'' :=
  ⟨next.id.trans first.id, next.taskId.trans first.taskId, next.sessionId.trans first.sessionId,
    next.key.trans first.key, next.kind.trans first.kind, next.amount.trans first.amount,
    fun active => first.active (next.active active)⟩

theorem settle (value : Int) (known late : Bool) (now : OffsetDateTime) (r : Reservation) :
    r.Stays (r.settle value known late now) := ⟨rfl, rfl, rfl, rfl, rfl, rfl, fun active => by cases active⟩

theorem release (now : OffsetDateTime) (r : Reservation) : r.Stays (r.release now) :=
  ⟨rfl, rfl, rfl, rfl, rfl, rfl, fun active => by cases active⟩

theorem expire (now : OffsetDateTime) (r : Reservation) : r.Stays (r.expire now) :=
  ⟨rfl, rfl, rfl, rfl, rfl, rfl, fun active => by cases active⟩

end Reservation.Stays

namespace TaskLedger

/-- Every lease stays, and none is new under one of the keys. -/
structure Continues (keys : String → Prop) (b b' : TaskLedger) : Prop where
  back : ∀ r' ∈ b'.reservations, keys r'.idempotencyKey → ∃ r ∈ b.reservations, r.Stays r'
  forth : ∀ r ∈ b.reservations, ∃ r' ∈ b'.reservations, r.Stays r'

namespace Continues

variable {keys : String → Prop} {b b' b'' : TaskLedger}

theorem of_eq (same : b'.reservations = b.reservations) : Continues keys b b' where
  back r mem _ := ⟨r, same ▸ mem, .refl r⟩
  forth r mem := ⟨r, same ▸ mem, .refl r⟩

theorem trans (first : Continues keys b b') (next : Continues keys b' b'') : Continues keys b b'' where
  back := by
    intro r'' mem key
    obtain ⟨r', mem', stays'⟩ := next.back r'' mem key
    obtain ⟨r, mem, stays⟩ := first.back r' mem' (stays'.key ▸ key)
    exact ⟨r, mem, stays.trans stays'⟩
  forth := by
    intro r mem
    obtain ⟨r', mem', stays⟩ := first.forth r mem
    obtain ⟨r'', mem'', stays'⟩ := next.forth r' mem'
    exact ⟨r'', mem'', stays.trans stays'⟩

theorem updateReservation {id : ReservationId} {f : Reservation → Reservation}
    {keeps : ∀ r, (f r).id = r.id} (stays : ∀ r : Reservation, r.Stays (f r)) :
    Continues keys b (b.updateReservation id f keeps) where
  back := by
    intro r' mem _
    obtain ⟨r, there, rfl⟩ := (mem_updateReservation _ _ _ _ _).mp mem
    refine ⟨r, there, ?_⟩
    split
    · exact stays r
    · exact .refl r
  forth := by
    intro r mem
    refine ⟨if r.id = id then f r else r, ?_, ?_⟩
    · exact (mem_updateReservation _ _ _ _ _).mpr ⟨r, mem, rfl⟩
    · split
      · exact stays r
      · exact .refl r

theorem insert {row : Reservation} (inserted : b.reservations.insert? row = some b'.reservations)
    (other : ¬keys row.idempotencyKey) : Continues keys b b' where
  back := by
    intro r mem key
    rcases (Table.mem_insert? inserted r).mp mem with there | rfl
    · exact ⟨r, there, .refl r⟩
    · exact absurd key other
  forth r mem := ⟨r, (Table.mem_insert? inserted r).mpr (.inl mem), .refl r⟩

theorem reclaim {close : Reservation → Reservation} {keeps : ∀ r, (close r).id = r.id}
    (stays : ∀ r : Reservation, r.Stays (close r)) (row : Reservation) :
    Continues keys b (TaskLedger.reclaim close keeps b row) := by
  have closed : Continues keys b (b.updateReservation row.id close keeps) := updateReservation stays
  exact closed.trans (of_eq (restoreReserve_reservations _ _ _))

theorem foldl {turn : TaskLedger → Reservation → TaskLedger}
    (each : ∀ b row, Continues keys b (turn b row)) (rows : List Reservation) :
    Continues keys b (rows.foldl turn b) := by
  induction rows generalizing b with
  | nil => exact of_eq rfl
  | cons row rows ih => exact (each b row).trans ih

theorem settle {id : ReservationId} {actual : Option ResourceAmount} {now : OffsetDateTime}
    {out : SettleOutcome} (done : b.settle id actual now = .ok (out, b')) : Continues keys b b' := by
  rcases settle_ok done with rfl | ⟨row, value, known, -, -, ⟨-, rfl⟩ | ⟨-, rfl⟩⟩
  · exact of_eq rfl
  · exact (updateReservation (Reservation.Stays.settle value known false now)).trans
      (of_eq (restoreReserve_reservations _ _ _))
  · exact updateReservation (Reservation.Stays.settle value known true now)

theorem release {id : ReservationId} {now : OffsetDateTime} {out : ReleaseOutcome}
    (done : b.release id now = .ok (out, b')) : Continues keys b b' := by
  rcases release_ok done with rfl | ⟨row, -, -, rfl⟩
  · exact of_eq rfl
  · exact reclaim (Reservation.Stays.release now) row

theorem expireOne (now : OffsetDateTime) (row : Reservation) :
    Continues keys b (TaskLedger.expireOne now b row) := by
  rw [TaskLedger.expireOne]
  exact (reclaim (Reservation.Stays.expire now) row).trans (of_eq (expireGranted_reservations _ _ _))

end Continues

theorem alreadyGranted_key {s s' : TaskLedger} {req : ReserveRequest} {fresh : ReservationId}
    {r : Reservation} (done : s.reserve req fresh = .ok (.alreadyGranted r, s')) :
    r ∈ s.reservations ∧ r.idempotencyKey = req.idempotencyKey := by
  simp only [reserve] at done
  split at done
  · rename_i existing found
    cases done
    rw [findByTaskKey] at found
    have same := List.find?_some found
    exact ⟨List.mem_of_find?_eq_some found, (of_decide_eq_true same).2⟩
  split at done
  · cases done
  split at done
  · cases done
  split at done
  · cases done
  simp only [bind_eq_ok_iff, lift_eq_ok_iff] at done
  obtain ⟨_, -, _, -, _, -, _, -, _, -, done⟩ := done
  cases done

end TaskLedger

/-- An operation that reserves under none of the keys. -/
def TaskLedgerOp.Spares (keys : String → Prop) : TaskLedgerOp → Prop
  | .reserve req _ => ¬keys req.idempotencyKey
  | .grantSublease req _ => ¬keys req.idempotencyKey
  | _ => True

open TaskLedger in
theorem TaskLedgerOp.continues {keys : String → Prop} {op : TaskLedgerOp} (spares : op.Spares keys)
    (s : TaskLedger) : Continues keys s (op.apply s) := by
  have lift {α : Type} {tx : Except TaskLedgerError (α × TaskLedger)}
      (keep : ∀ out s', tx = .ok (out, s') → Continues keys s s') : Continues keys s (commit s tx) := by
    rcases tx with e | ⟨out, s'⟩
    · exact .of_eq rfl
    · exact keep out s' rfl
  cases op with
  | initializeTaskBudget taskId policy reserve scope now =>
      exact lift fun _ _ done => .of_eq (initializeTaskBudget_ok done).1
  | reserve req fresh =>
      refine lift fun out s' done => ?_
      rcases reserve_ok done with ⟨rfl, -⟩ | ⟨row, -, granted⟩
      · exact .of_eq rfl
      · obtain ⟨budget, draw, expiresAt, -, -, -, rfl, -⟩ := granted.budgeted
        exact .insert granted.inserted spares
  | settle id actual now => exact lift fun _ _ done => .settle done
  | release id now => exact lift fun _ _ done => .release done
  | releaseActiveForPlan taskId planId now =>
      refine lift fun out s' done => ?_
      rw [releaseActiveForPlan_ok done]
      exact .foldl (fun b row => .reclaim (Reservation.Stays.release now) row) _
  | expireStaleReservations now =>
      refine lift fun out s' done => ?_
      rw [expireStaleReservations_ok done]
      exact .foldl (fun b row => .expireOne now row) _
  | adjustCompletionReserve taskId newAmount basis now =>
      refine lift fun out s' done => ?_
      rcases adjustCompletionReserve_ok done with rfl | ⟨budget, -, -, -, same, -⟩
      · exact .of_eq rfl
      · exact .of_eq same
  | grantRenewal taskId request status evidence now fresh =>
      refine lift fun out s' done => ?_
      rcases grantRenewal_ok done with rfl | ⟨renewal, -, -, same⟩
      · exact .of_eq rfl
      · exact .of_eq (by rw [same])
  | ensureChildAccount parentAccountId level naturalKey now fresh =>
      refine lift fun out s' done => ?_
      rcases ensureChildAccount_ok done with rfl | ⟨_, _, -, -, -, -, -, -, -, -, -, -, same⟩
      · exact .of_eq rfl
      · exact .of_eq (by rw [same])
  | grantSublease req fresh =>
      refine lift fun out s' done => ?_
      rcases grantSublease_ok done with rfl | ⟨parent, lease, -, granted⟩
      · exact .of_eq rfl
      · obtain ⟨taskId, expiresAt, -, -, -, rfl⟩ := granted.lease_eq
        exact .insert granted.inserted spares

/-! ## Budgets and sessions -/

namespace TaskLedger

/-- Every budget keeps its unit. -/
def KeepsKinds (b b' : TaskLedger) : Prop :=
  ∀ taskId kind, b.budgetKind taskId = some kind → b'.budgetKind taskId = some kind

namespace KeepsKinds

variable {b b' b'' : TaskLedger}

theorem of_eq (same : b'.taskBudgets = b.taskBudgets) : KeepsKinds b b' := by
  intro taskId kind known
  rwa [budgetKind, taskBudget, same]

theorem of_terms (same : SameTerms b b') : KeepsKinds b b' := by
  intro taskId kind known
  have kinds := congrArg (Option.map Prod.fst) (same.budgets taskId)
  rw [Option.map_map, Option.map_map] at kinds
  exact kinds.trans known

theorem initializeTaskBudget {taskId : TaskId} {policy : Policy} {reserve : CompletionReserveEstimate}
    {scope : LifetimeScope} {now : OffsetDateTime} {out : Unit}
    (done : b.initializeTaskBudget taskId policy reserve scope now = .ok (out, b')) : KeepsKinds b b' := by
  obtain ⟨-, -, ⟨budget, -, -, -, -, -, -, -, budgets⟩, -⟩ := initializeTaskBudget_ok done
  intro other kind known
  cases inserted : b.taskBudgets.insert? budget with
  | none =>
      rw [inserted] at budgets
      exact of_eq budgets other kind known
  | some table =>
      rw [inserted] at budgets
      obtain ⟨row, found, same⟩ := Option.map_eq_some_iff.mp known
      refine Option.map_eq_some_iff.mpr ⟨row, ?_, same⟩
      rw [taskBudget, Table.find?_eq_some_iff] at found ⊢
      rw [budgets]
      exact ⟨(Table.mem_insert? inserted row).mpr (.inl found.1), found.2⟩

theorem release {id : ReservationId} {now : OffsetDateTime} {out : ReleaseOutcome}
    (done : b.release id now = .ok (out, b')) : KeepsKinds b b' := by
  rcases release_ok done with rfl | ⟨row, -, -, rfl⟩
  · exact of_eq rfl
  · exact of_terms (SameTerms.reclaim row)

end KeepsKinds

end TaskLedger

open TaskLedger in
theorem TaskLedgerOp.keepsKinds (op : TaskLedgerOp) (s : TaskLedger) : KeepsKinds s (op.apply s) := by
  have lift {α : Type} {tx : Except TaskLedgerError (α × TaskLedger)}
      (keep : ∀ out s', tx = .ok (out, s') → KeepsKinds s s') : KeepsKinds s (commit s tx) := by
    rcases tx with e | ⟨out, s'⟩
    · exact .of_eq rfl
    · exact keep out s' rfl
  cases op with
  | initializeTaskBudget taskId policy reserve scope now =>
      exact lift fun _ _ done => .initializeTaskBudget done
  | reserve req fresh => exact lift fun _ _ done => .of_terms (.reserve done)
  | settle id actual now => exact lift fun _ _ done => .of_terms (.settle done)
  | release id now => exact lift fun _ _ done => .release done
  | releaseActiveForPlan taskId planId now =>
      exact lift fun _ _ done => .of_terms (.releaseActiveForPlan done)
  | expireStaleReservations now =>
      exact lift fun _ _ done => .of_terms (.expireStaleReservations done)
  | adjustCompletionReserve taskId newAmount basis now =>
      exact lift fun _ _ done => .of_terms (.adjustCompletionReserve done)
  | grantRenewal taskId request status evidence now fresh =>
      refine lift fun out s' done => ?_
      rcases grantRenewal_ok done with rfl | ⟨renewal, -, -, same⟩
      · exact .of_eq rfl
      · exact .of_eq (by rw [same])
  | ensureChildAccount parentAccountId level naturalKey now fresh =>
      refine lift fun out s' done => ?_
      rcases ensureChildAccount_ok done with rfl | ⟨_, _, -, -, -, -, -, -, -, -, -, -, same⟩
      · exact .of_eq rfl
      · exact .of_eq (by rw [same])
  | grantSublease req fresh =>
      refine lift fun out s' done => ?_
      rcases grantSublease_ok done with rfl | ⟨parent, lease, -, granted⟩
      · exact .of_eq rfl
      · exact .of_eq granted.budgets

/-- Every session stays with its task, and every budget in its unit. -/
structure Trajectory.KeepsContexts (s s' : Trajectory) : Prop where
  task : ∀ lane taskId, s.taskIdForSession lane = some taskId → s'.taskIdForSession lane = some taskId
  kinds : s.budget.KeepsKinds s'.budget

theorem Trajectory.KeepsContexts.of_budget {s : Trajectory} {b : TaskLedger}
    (kinds : s.budget.KeepsKinds b) : s.KeepsContexts { s with budget := b } :=
  ⟨fun _ _ named => named, kinds⟩

theorem Trajectory.KeepsContexts.context {s s' : Trajectory} (keeps : s.KeepsContexts s')
    {sessionId : String} {context : BudgetContext} (told : budgetContext s sessionId = some context) :
    budgetContext s' sessionId = some context := by
  rw [budgetContext_eq_some_iff] at told ⊢
  exact ⟨keeps.task _ _ told.1, keeps.kinds _ _ told.2⟩

/-! ## What closing leaves -/

namespace TaskLedger

theorem settle_leaves_closed {s s' : TaskLedger} {id : ReservationId} {actual : Option ResourceAmount}
    {now : OffsetDateTime} {out : SettleOutcome} (done : s.settle id actual now = .ok (out, s')) :
    ∀ r ∈ s'.reservations, r.id = id → r.state ≠ .active := by
  intro r mem same
  simp only [settle] at done
  split at done
  · cases done
  split at done
  · rename_i none_
    cases done
    exact absurd same ((Table.find?_eq_none_iff _ _).mp none_ r mem)
  rename_i row found
  split at done
  · split at done
    · cases done
    simp only [bind_eq_ok_iff, lift_eq_ok_iff] at done
    obtain ⟨stamp, -, done⟩ := done
    cases done
    rw [restoreReserve_reservations] at mem
    obtain ⟨r, there, rfl⟩ := (mem_updateReservation _ _ _ _ _).mp mem
    by_cases here : r.id = id
    · rw [if_pos here]
      exact fun active => by cases active
    · rw [if_neg here] at same
      exact absurd same here
  · rename_i final
    cases done
    have only := (Table.find?_eq_some_iff _ _ _).mpr ⟨mem, same⟩
    rw [found] at only
    cases only
    exact fun active => final (.inl active)

theorem release_leaves_closed {s s' : TaskLedger} {id : ReservationId} {now : OffsetDateTime}
    {out : ReleaseOutcome} (done : s.release id now = .ok (out, s')) :
    ∀ r ∈ s'.reservations, r.id = id → r.state ≠ .active := by
  intro r mem same
  simp only [release] at done
  split at done
  · rename_i none_
    cases done
    exact absurd same ((Table.find?_eq_none_iff _ _).mp none_ r mem)
  rename_i row found
  split at done
  · simp only [bind_eq_ok_iff, lift_eq_ok_iff] at done
    obtain ⟨stamp, -, done⟩ := done
    cases done
    have own : row.id = id := ((Table.find?_eq_some_iff _ _ _).mp found).2
    have mem : r ∈ ((s.updateReservation row.id (Reservation.release stamp) fun _ => rfl).restoreReserve
      row.taskId row.drawnFromReserve).reservations := mem
    rw [restoreReserve_reservations] at mem
    obtain ⟨r, there, rfl⟩ := (mem_updateReservation _ _ _ _ _).mp mem
    by_cases here : r.id = row.id
    · rw [if_pos here]
      exact fun active => by cases active
    · rw [if_neg here] at same
      exact absurd (same.trans own.symm) here
  · rename_i final
    cases done
    have only := (Table.find?_eq_some_iff _ _ _).mpr ⟨mem, same⟩
    rw [found] at only
    cases only
    exact final

end TaskLedger

theorem reserved_spec {s : TaskLedger} {req : SpendRequest} {now : OffsetDateTime} {fresh : ReservationId}
    (free : ∀ r ∈ s.reservations, r.idempotencyKey ≠ req.idempotencyKey) (kind : ResourceKind)
    (approvalRequired : Bool) :
    let answer : Option SpendDecision × TaskLedger :=
      match s.reserve (req.reserveRequest now) fresh with
      | .error _ => (none, s)
      | .ok (outcome, s') => (some (spendDecision kind approvalRequired outcome), s')
    (answer.2 = s ∧ ∀ id reserved approvalRequired,
      answer.1 ≠ some (.granted id reserved approvalRequired)) ∨
    ∃ row reserved approvalRequired, answer.1 = some (.granted row.id reserved approvalRequired) ∧
      TaskLedger.GrantedWork s (req.reserveRequest now) fresh row answer.2 := by
  cases done : s.reserve (req.reserveRequest now) fresh with
  | error e => exact .inl ⟨rfl, by simp⟩
  | ok out =>
      obtain ⟨outcome, s'⟩ := out
      rcases TaskLedger.reserve_ok done with ⟨rfl, other⟩ | ⟨row, rfl, granted⟩
      · refine .inl ⟨rfl, ?_⟩
        cases outcome with
        | granted r => exact absurd rfl (other r)
        | alreadyGranted r =>
            exact absurd (TaskLedger.alreadyGranted_key done) (fun there => free r there.1 there.2)
        | insufficient available requested protectedReserve => simp [spendDecision]
        | noBudget => simp [spendDecision]
      · exact .inr ⟨row, _, _, rfl, granted⟩

theorem TaskLedger.GrantedWork.keepsKinds {s s' : TaskLedger} {req : TaskLedger.ReserveRequest}
    {fresh : ReservationId} {row : Reservation} (granted : TaskLedger.GrantedWork s req fresh row s') :
    s.KeepsKinds s' := by
  obtain ⟨budget, draw, _, -, -, -, -, -, updated⟩ := granted.budgeted
  exact .of_terms (.updateAt (fun b => { b with completionReserve := budget.completionReserve - draw })
    (fun _ => rfl) updated granted.renewals fun _ => rfl)

/-- What authorising can do: nothing that is granted, or one new row. -/
theorem authorizeSpend_spec {s : TaskLedger} {verdict : Option PolicyVerdict} {req : SpendRequest}
    {now : OffsetDateTime} {fresh : ReservationId}
    (free : ∀ r ∈ s.reservations, r.idempotencyKey ≠ req.idempotencyKey) :
    ((authorizeSpend s verdict req now fresh).2 = s ∧ ∀ id reserved approvalRequired,
      (authorizeSpend s verdict req now fresh).1 ≠ some (.granted id reserved approvalRequired)) ∨
    ∃ row reserved approvalRequired, (authorizeSpend s verdict req now fresh).1 =
        some (.granted row.id reserved approvalRequired) ∧
      TaskLedger.GrantedWork s (req.reserveRequest now) fresh row
        (authorizeSpend s verdict req now fresh).2 := by
  unfold authorizeSpend
  cases s.taskBudget req.taskId with
  | none => exact .inl ⟨rfl, by simp⟩
  | some budget =>
  match verdict with
  | none => exact .inl ⟨rfl, by simp⟩
  | some (.denies detail) => exact .inl ⟨rfl, by simp⟩
  | some .admits => exact reserved_spec free _ _
  | some .asks => exact reserved_spec free _ _

/-! ## The pool -/

/-- The store, and the requests one of whose closings it did not take. -/
structure RequestsWorld (ι : Type) where
  store : Trajectory
  faults : List ι

/-- The world with another ledger. -/
def RequestsWorld.withBudget {ι : Type} (w : RequestsWorld ι) (budget : TaskLedger) : RequestsWorld ι :=
  { w with store := { w.store with budget } }

/-- The calls the task ledger's authority answers. -/
def GatewayCall.onLedger : GatewayCall → Bool
  | .budgetContext _ => true
  | .authorize _ => true
  | .settleTask _ _ => true
  | .releaseTask _ => true
  | _ => false

/-- How the daemon serves a call of request `i`.  The authority may fail; what is not its to answer is
left open. -/
inductive ServesCall {ι : Type} (i : ι) (w : RequestsWorld ι) :
    (c : GatewayCall) → c.Answer → RequestsWorld ι → Prop
  | context (sessionId : String) :
      ServesCall i w (.budgetContext sessionId) (some (budgetContext w.store sessionId)) w
  | unconsulted (sessionId : String) : ServesCall i w (.budgetContext sessionId) none w
  | authorize (req : SpendRequest) (verdict : Option PolicyVerdict) (now : OffsetDateTime)
      (fresh : ReservationId) :
      ServesCall i w (.authorize req) (authorizeSpend w.store.budget verdict req now fresh).1
        (w.withBudget (authorizeSpend w.store.budget verdict req now fresh).2)
  | unheard (req : SpendRequest) : ServesCall i w (.authorize req) none w
  | settle {id : ReservationId} {actual : Option ResourceAmount} {now : OffsetDateTime}
      {out : TaskLedger.SettleOutcome} {s' : TaskLedger}
      (done : w.store.budget.settle id actual now = .ok (out, s')) :
      ServesCall i w (.settleTask id actual) () (w.withBudget s')
  | unsettled (id : ReservationId) (actual : Option ResourceAmount) :
      ServesCall i w (.settleTask id actual) () ⟨w.store, i :: w.faults⟩
  | release {id : ReservationId} {now : OffsetDateTime} {out : TaskLedger.ReleaseOutcome}
      {s' : TaskLedger} (done : w.store.budget.release id now = .ok (out, s')) :
      ServesCall i w (.releaseTask id) () (w.withBudget s')
  | unreleased (id : ReservationId) : ServesCall i w (.releaseTask id) () ⟨w.store, i :: w.faults⟩
  | elsewhere (c : GatewayCall) (a : c.Answer) (other : c.onLedger = false) : ServesCall i w c a w

def spendKey (inbound : Inbound) : String := "gw:" ++ inbound.id

/-- The requests' own keys. -/
def gatewayKeys {ι : Type} (inbounds : ι → Inbound) (key : String) : Prop :=
  ∃ i, key = spendKey (inbounds i)

/-- What the daemon beside the requests does: any operation of the ledger that reserves under none of
their keys, binding a session to its task, and any write of the other tables. -/
inductive DaemonMoves (keys : String → Prop) (s : Trajectory) : Trajectory → Prop
  | operate (op : TaskLedgerOp) (spares : op.Spares keys) :
      DaemonMoves keys s { s with budget := op.apply s.budget }
  | bind {sessionId : String} {taskId : TaskId} {now : OffsetDateTime} {s' : Trajectory}
      (done : s.insertSessionTask sessionId taskId now = .ok ((), s')) : DaemonMoves keys s s'
  | write {s' : Trajectory} (sessionTasks : s'.sessionTasks = s.sessionTasks)
      (budget : s'.budget = s.budget) : DaemonMoves keys s s'

def gatewayService {ι : Type} (inbounds : ι → Inbound) :
    Service ι (RequestsWorld ι) GatewayCall GatewayCall.Answer where
  serves := ServesCall
  moves w w' := DaemonMoves (gatewayKeys inbounds) w.store w'.store ∧ w'.faults = w.faults

theorem DaemonMoves.keepsContexts {keys : String → Prop} {s s' : Trajectory}
    (moved : DaemonMoves keys s s') : s.KeepsContexts s' := by
  cases moved with
  | operate op spares => exact .of_budget (op.keepsKinds s.budget)
  | bind done =>
      refine ⟨fun lane known => Trajectory.taskIdForSession_insertSessionTask done, ?_⟩
      obtain ⟨sessionTasks, -, rfl⟩ := Trajectory.insertSessionTask_ok done
      exact .of_eq rfl
  | write sessionTasks budget =>
      refine ⟨fun lane taskId named => ?_, .of_eq (by rw [budget])⟩
      rwa [Trajectory.taskIdForSession, sessionTasks]

theorem DaemonMoves.continues {keys : String → Prop} {s s' : Trajectory}
    (moved : DaemonMoves keys s s') : TaskLedger.Continues keys s.budget s'.budget := by
  cases moved with
  | operate op spares => exact op.continues spares s.budget
  | bind done =>
      obtain ⟨sessionTasks, -, rfl⟩ := Trajectory.insertSessionTask_ok done
      exact .of_eq rfl
  | write sessionTasks budget => exact .of_eq (by rw [budget])

/-! ## One request -/

/-- A lease as it was asked for, in the unit of its budget. -/
structure SpendRequest.Leased (req : SpendRequest) (s : TaskLedger) (r : Reservation) : Prop where
  taskId : r.taskId = req.taskId
  sessionId : r.sessionId = req.sessionId
  kind : s.budgetKind r.taskId = some r.resourceKind
  amount : r.amount = req.amount.value

theorem SpendRequest.Leased.stays {req : SpendRequest} {s s' : TaskLedger} {r r' : Reservation}
    (leased : req.Leased s r) (stays : r.Stays r') (kinds : s.KeepsKinds s') : req.Leased s' r' where
  taskId := stays.taskId.trans leased.taskId
  sessionId := stays.sessionId.trans leased.sessionId
  kind := by
    rw [stays.taskId, stays.kind]
    exact kinds _ _ leased.kind
  amount := stays.amount.trans leased.amount

/-- What the ledger has of a request. -/
structure HoldInv (key : String) (faulty : Prop) (m : Progress) (s : TaskLedger) : Prop where
  unasked : m.task = .unasked → ∀ r ∈ s.reservations, r.idempotencyKey ≠ key
  own : ∀ id, m.task.hold? = some id → ∀ r ∈ s.reservations, r.idempotencyKey = key → r.id = id
  open_ : ∀ id, m.task = .open_ id → ∃ req, m.reserved = some req ∧ ∃ r ∈ s.reservations,
    r.id = id ∧ r.idempotencyKey = key ∧ req.Leased s r
  closed : ∀ id, m.task = .closed id →
    faulty ∨ ∀ r ∈ s.reservations, r.idempotencyKey = key → r.state ≠ .active

namespace HoldInv

variable {key : String} {faulty faulty' : Prop} {m m' : Progress} {s s' : TaskLedger}

theorem congr (inv : HoldInv key faulty m s) (task : m'.task = m.task) (reserved : m'.reserved = m.reserved)
    (more : faulty → faulty') : HoldInv key faulty' m' s where
  unasked := task ▸ inv.unasked
  own := task ▸ inv.own
  open_ := reserved ▸ task ▸ inv.open_
  closed id closed := (inv.closed id (task ▸ closed)).imp_left more

/-- An operation that reserves nothing under the key. -/
theorem continues {keys : String → Prop} (inv : HoldInv key faulty m s) (mine : keys key)
    (step : TaskLedger.Continues keys s s') (kinds : s.KeepsKinds s') : HoldInv key faulty m s' where
  unasked := by
    intro task r' mem same
    obtain ⟨r, there, stays⟩ := step.back r' mem (same ▸ mine)
    exact inv.unasked task r there (stays.key.symm.trans same)
  own := by
    intro id held r' mem same
    obtain ⟨r, there, stays⟩ := step.back r' mem (same ▸ mine)
    exact stays.id.trans (inv.own id held r there (stays.key.symm.trans same))
  open_ := by
    intro id task
    obtain ⟨req, reserved, r, there, here, same, leased⟩ := inv.open_ id task
    obtain ⟨r', mem, stays⟩ := step.forth r there
    exact ⟨req, reserved, r', mem, stays.id.trans here, stays.key.trans same, leased.stays stays kinds⟩
  closed := by
    intro id task
    refine (inv.closed id task).imp_right fun none_ r' mem same active => ?_
    obtain ⟨r, there, stays⟩ := step.back r' mem (same ▸ mine)
    exact none_ r there (stays.key.symm.trans same) (stays.active active)

/-- The request's own reservation is closed. -/
theorem close {id : ReservationId} (inv : HoldInv key faulty m s) (held : m.task = .open_ id)
    (step : TaskLedger.Continues (· = key) s s') (kinds : s.KeepsKinds s')
    (closes : ∀ r ∈ s'.reservations, r.id = id → r.state ≠ .active) (task : m'.task = m.task.close) :
    HoldInv key faulty m' s' := by
  have after := inv.continues (by exact rfl) step kinds
  have closed : m'.task = .closed id := by rw [task, held]; rfl
  refine ⟨fun unasked => ?_, fun id' there => ?_, fun id' open_ => ?_, fun id' _ => .inr ?_⟩
  · rw [closed] at unasked
    cases unasked
  · rw [closed] at there
    exact after.own id' (by rw [held]; exact there)
  · rw [closed] at open_
    cases open_
  · intro r mem same
    exact closes r mem (after.own id (by rw [held]; rfl) r mem same)

/-- A closing the ledger did not take. -/
theorem fault {id : ReservationId} (inv : HoldInv key faulty m s) (held : m.task = .open_ id)
    (task : m'.task = m.task.close) (faulted : faulty') : HoldInv key faulty' m' s := by
  have closed : m'.task = .closed id := by rw [task, held]; rfl
  refine ⟨fun unasked => ?_, fun id' there => ?_, fun id' open_ => ?_, fun _ _ => .inl faulted⟩
  · rw [closed] at unasked
    cases unasked
  · rw [closed] at there
    exact inv.own id' (by rw [held]; exact there)
  · rw [closed] at open_
    cases open_

/-- The request's reservation is granted. -/
theorem grant {req : SpendRequest} {now : OffsetDateTime} {fresh : ReservationId} {row : Reservation}
    (inv : HoldInv key faulty m s) (unasked : m.task = .unasked) (mine : req.idempotencyKey = key)
    (granted : TaskLedger.GrantedWork s (req.reserveRequest now) fresh row s') (kinds : s.KeepsKinds s')
    (task : m'.task = .open_ row.id) (reserved : m'.reserved = some req) : HoldInv key faulty m' s' := by
  obtain ⟨budget, draw, expiresAt, found, -, -, rfl, -⟩ := granted.budgeted
  have mem := Table.mem_insert? granted.inserted
  refine ⟨fun none_ => ?_, fun id' there r listed same => ?_, fun id' open_ => ?_, fun id' closed => ?_⟩
  · rw [task] at none_
    cases none_
  · rcases (mem r).mp listed with old | rfl
    · exact absurd same (inv.unasked unasked r old)
    · rw [task] at there
      exact Option.some.inj there
  · rw [task] at open_
    cases open_
    have kind : s.budgetKind req.taskId = some budget.resourceKind :=
      congrArg (Option.map TaskBudget.resourceKind) found
    exact ⟨req, reserved, _, (mem _).mpr (.inr rfl), rfl, mine, rfl, rfl, kinds _ _ kind, rfl⟩
  · rw [task] at closed
    cases closed

theorem unique (inv : HoldInv key faulty m s) {r r' : Reservation} (mem : r ∈ s.reservations)
    (mine : r.idempotencyKey = key) (mem' : r' ∈ s.reservations) (mine' : r'.idempotencyKey = key) :
    r' = r := by
  match held : m.task.hold? with
  | none =>
      have unasked : m.task = .unasked := by
        cases task : m.task with
        | unasked => rfl
        | open_ id => rw [task] at held; cases held
        | closed id => rw [task] at held; cases held
      exact absurd mine (inv.unasked unasked r mem)
  | some id =>
      have found := (Table.find?_eq_some_iff _ _ _).mpr ⟨mem, inv.own id held r mem mine⟩
      have found' := (Table.find?_eq_some_iff _ _ _).mpr ⟨mem', inv.own id held r' mem' mine'⟩
      rw [found] at found'
      exact (Option.some.inj found').symm

theorem finished (inv : HoldInv key faulty m s) (task : m.task.isOpen = false) :
    faulty ∨ ∀ r ∈ s.reservations, r.idempotencyKey = key → r.state ≠ .active := by
  match held : m.task with
  | .unasked => exact .inr fun r mem same => absurd same (inv.unasked held r mem)
  | .closed id => exact inv.closed id held
  | .open_ id => exact absurd task (by rw [held]; exact Bool.noConfusion)

end HoldInv

/-- What a request was told of its task is what the store still says. -/
def Told (config : GatewayConfig) (inbound : Inbound) (m : Progress) (s : Trajectory) : Prop :=
  ∀ context, m.context = some context → ∃ sessionId, inbound.session config = some sessionId ∧
    budgetContext s sessionId = some context

theorem Told.keeps {config : GatewayConfig} {inbound : Inbound} {m m' : Progress} {s s' : Trajectory}
    (told : Told config inbound m s) (keeps : s.KeepsContexts s') (same : m'.context = m.context) :
    Told config inbound m' s' := by
  intro context given
  obtain ⟨sessionId, named, here⟩ := told context (same ▸ given)
  exact ⟨sessionId, named, keeps.context here⟩

/-- A reservation that backs a message: under the key of its request, in the task that its session is
bound to and the unit of that task's budget, at the worst case of the body. -/
structure Backs (config : GatewayConfig) (inbound : Inbound) (s : Trajectory) (body : Bytes)
    (r : Reservation) : Prop where
  key : r.idempotencyKey = spendKey inbound
  session : inbound.session config = some r.sessionId
  task : s.taskIdForSession r.sessionId = some r.taskId
  kind : s.budget.budgetKind r.taskId = some r.resourceKind
  amount : ∃ model amount, (parseMessagesEnvelope (config.json body)).model = some model ∧
    worstCaseReservation r.resourceKind body.length (parseMessagesEnvelope (config.json body)).maxTokens
      model (requestsFastSpeed (config.json body)) config.pricing = .ok amount ∧ r.amount = amount.value

/-- A message is sent over the request's own reservation. -/
theorem HoldInv.backs {config : GatewayConfig} {inbound : Inbound} {request : UpstreamRequest}
    {faulty : Prop} {m : Progress} {s : Trajectory} (inv : HoldInv (spendKey inbound) faulty m s.budget)
    (told : Told config inbound m s) (allowed : (monitor config inbound).allows m (.send request))
    (path : request.path = Route.messages.upstreamPath) :
    ∃ r ∈ s.budget.reservations, Backs config inbound s request.body r := by
  obtain ⟨sends, ⟨counts, -⟩ | ⟨-, covered⟩⟩ := allowed
  · rw [path] at counts
    exact absurd counts (by decide)
  obtain ⟨req, reserved, -, session, context, body, model, asked, task, read, declared, cost⟩ := covered.cost
  rw [sends.body] at read
  cases read
  obtain ⟨sessionId, named, here⟩ := told context asked
  rw [session] at named
  cases named
  obtain ⟨bound, unit⟩ := budgetContext_eq_some_iff.mp here
  match held : m.task with
  | .unasked => exact absurd covered.task (by rw [held]; exact Bool.false_ne_true)
  | .closed id => exact absurd covered.task (by rw [held]; exact Bool.false_ne_true)
  | .open_ id =>
      obtain ⟨req', same, r, mem, -, key, leased⟩ := inv.open_ id held
      rw [reserved] at same
      cases same
      have same : r.taskId = context.taskId := leased.taskId.trans task
      have kind : r.resourceKind = context.resourceKind := by
        have known := leased.kind
        rw [same, unit] at known
        exact (Option.some.inj known).symm
      refine ⟨r, mem, key, ?_, ?_, leased.kind, model, req.amount, declared, ?_, leased.amount⟩
      · rw [session, leased.sessionId]
      · rw [leased.sessionId, same]
        exact bound
      · rw [kind]
        exact cost

section Interleaved

variable {ι : Type} {config : GatewayConfig} {inbounds : ι → Inbound} {w w' : RequestsWorld ι}
  {ms : ι → Progress} {i : ι}

/-- What the monitors say of the requests is what the store has of them. -/
structure PoolInv (config : GatewayConfig) (inbounds : ι → Inbound) (w : RequestsWorld ι)
    (ms : ι → Progress) : Prop where
  holds : ∀ i, HoldInv (spendKey (inbounds i)) (i ∈ w.faults) (ms i) w.store.budget
  told : ∀ i, Told config (inbounds i) (ms i) w.store

theorem spendKey_ne (distinct : Function.Injective fun i => (inbounds i).id) {j : ι} (other : j ≠ i) :
    spendKey (inbounds i) ≠ spendKey (inbounds j) := by
  intro same
  have ids : ("gw:" ++ (inbounds i).id).toList = ("gw:" ++ (inbounds j).id).toList :=
    congrArg String.toList same
  rw [String.toList_append, String.toList_append] at ids
  exact other (distinct (String.toList_inj.mp (List.append_cancel_left ids))).symm

theorem PoolInv.move (inv : PoolInv config inbounds w ms) (moved : (gatewayService inbounds).moves w w') :
    PoolInv config inbounds w' ms := by
  obtain ⟨moved, faults⟩ := moved
  have keeps := moved.keepsContexts
  refine ⟨fun i => ?_, fun i => (inv.told i).keeps keeps rfl⟩
  rw [faults]
  exact (inv.holds i).continues ⟨i, rfl⟩ moved.continues keeps.kinds

variable [DecidableEq ι]

/-- A call changes what the store has of its own request, and spares the others. -/
theorem PoolInv.update {m : Progress} (inv : PoolInv config inbounds w ms)
    (keeps : w.store.KeepsContexts w'.store)
    (own : HoldInv (spendKey (inbounds i)) (i ∈ w'.faults) m w'.store.budget)
    (told : Told config (inbounds i) m w'.store)
    (others : ∀ j ≠ i, TaskLedger.Continues (· = spendKey (inbounds j)) w.store.budget w'.store.budget)
    (faults : ∀ j, j ∈ w.faults → j ∈ w'.faults) :
    PoolInv config inbounds w' (Function.update ms i m) := by
  refine ⟨fun j => ?_, fun j => ?_⟩
  · by_cases same : j = i
    · subst same
      rwa [Function.update_self]
    · rw [Function.update_of_ne same]
      exact ((inv.holds j).continues (by exact rfl) (others j same) keeps.kinds).congr rfl rfl (faults j)
  · by_cases same : j = i
    · subst same
      rwa [Function.update_self]
    · rw [Function.update_of_ne same]
      exact (inv.told j).keeps keeps rfl

/-- A call that leaves the store as it is. -/
theorem PoolInv.unmoved {m : Progress} (inv : PoolInv config inbounds w ms)
    (task : m.task = (ms i).task) (reserved : m.reserved = (ms i).reserved)
    (told : Told config (inbounds i) m w.store) : PoolInv config inbounds w (Function.update ms i m) :=
  inv.update ⟨fun _ _ named => named, .of_eq rfl⟩ ((inv.holds i).congr task reserved fun there => there)
    told (fun _ _ => .of_eq rfl) fun _ there => there

theorem next_ungranted {m : Progress} {req : SpendRequest} {answer : Option SpendDecision}
    (ungranted : ∀ id reserved approvalRequired, answer ≠ some (.granted id reserved approvalRequired)) :
    m.next (.authorize req) answer = m := by
  match answer with
  | none => rfl
  | some (.denied _) => rfl
  | some (.granted id reserved approvalRequired) => exact absurd rfl (ungranted id reserved approvalRequired)

theorem next_elsewhere {m : Progress} {c : GatewayCall} {a : c.Answer} (other : c.onLedger = false) :
    (m.next c a).task = m.task ∧ (m.next c a).reserved = m.reserved ∧ (m.next c a).context = m.context := by
  cases c with
  | budgetContext sessionId => cases other
  | authorize req => cases other
  | settleTask id actual => cases other
  | releaseTask id => cases other
  | reserveShared req =>
      match a with
      | none => exact ⟨rfl, rfl, rfl⟩
      | some .notConsulted => exact ⟨rfl, rfl, rfl⟩
      | some (.granted hold) => exact ⟨rfl, rfl, rfl⟩
      | some (.denied denial) => exact ⟨rfl, rfl, rfl⟩
  | _ => exact ⟨rfl, rfl, rfl⟩

theorem PoolInv.authorize (distinct : Function.Injective fun i => (inbounds i).id) {req : SpendRequest}
    (inv : PoolInv config inbounds w ms) (unasked : (ms i).task = .unasked)
    (mine : req.idempotencyKey = spendKey (inbounds i)) (verdict : Option PolicyVerdict)
    (now : OffsetDateTime) (fresh : ReservationId) :
    PoolInv config inbounds (w.withBudget (authorizeSpend w.store.budget verdict req now fresh).2)
      (Function.update ms i ((ms i).next (.authorize req)
        (authorizeSpend w.store.budget verdict req now fresh).1)) := by
  have free : ∀ r ∈ w.store.budget.reservations, r.idempotencyKey ≠ req.idempotencyKey :=
    mine ▸ (inv.holds i).unasked unasked
  rcases authorizeSpend_spec free with ⟨same, ungranted⟩ | ⟨row, reserved, approvalRequired, answer, granted⟩
  · rw [same, next_ungranted ungranted]
    exact inv.unmoved rfl rfl (inv.told i)
  · rw [answer]
    have kinds := granted.keepsKinds
    have keeps := Trajectory.KeepsContexts.of_budget kinds
    refine inv.update keeps ((inv.holds i).grant unasked mine granted kinds rfl rfl)
      ((inv.told i).keeps keeps rfl) (fun j other => ?_) fun _ there => there
    obtain ⟨budget, draw, expiresAt, -, -, -, rfl, -⟩ := granted.budgeted
    refine .insert granted.inserted fun theirs => ?_
    exact spendKey_ne distinct other (mine.symm.trans theirs)

theorem PoolInv.call (distinct : Function.Injective fun i => (inbounds i).id)
    (inv : PoolInv config inbounds w ms) {c : GatewayCall} {a : c.Answer}
    (allowed : (monitor config (inbounds i)).allows (ms i) c) (served : ServesCall i w c a w') :
    PoolInv config inbounds w' (Function.update ms i ((ms i).next c a)) := by
  cases served with
  | context sessionId =>
      refine inv.unmoved rfl rfl fun context given => ⟨sessionId, allowed.2, ?_⟩
      exact Option.some.inj (Option.join_eq_some_iff.mp given)
  | unconsulted sessionId =>
      exact inv.unmoved rfl rfl fun context given => (by cases given)
  | authorize req verdict now fresh =>
      exact inv.authorize distinct allowed.1 allowed.2.2.key verdict now fresh
  | unheard req => exact inv.unmoved rfl rfl (inv.told i)
  | settle done =>
      have kinds := TaskLedger.KeepsKinds.of_terms (.settle done)
      have keeps := Trajectory.KeepsContexts.of_budget kinds
      exact inv.update keeps
        ((inv.holds i).close allowed.1 (.settle done) kinds (TaskLedger.settle_leaves_closed done) rfl)
        ((inv.told i).keeps keeps rfl) (fun _ _ => .settle done) fun _ there => there
  | unsettled id actual =>
      exact inv.update ⟨fun _ _ named => named, .of_eq rfl⟩
        ((inv.holds i).fault allowed.1 rfl List.mem_cons_self) (inv.told i) (fun _ _ => .of_eq rfl)
        fun _ there => List.mem_cons_of_mem i there
  | release done =>
      have kinds := TaskLedger.KeepsKinds.release done
      have keeps := Trajectory.KeepsContexts.of_budget kinds
      exact inv.update keeps
        ((inv.holds i).close allowed.2 (.release done) kinds (TaskLedger.release_leaves_closed done) rfl)
        ((inv.told i).keeps keeps rfl) (fun _ _ => .release done) fun _ there => there
  | unreleased id =>
      exact inv.update ⟨fun _ _ named => named, .of_eq rfl⟩
        ((inv.holds i).fault allowed.2 rfl List.mem_cons_self) (inv.told i) (fun _ _ => .of_eq rfl)
        fun _ there => List.mem_cons_of_mem i there
  | elsewhere c a other =>
      obtain ⟨task, reserved, context⟩ := @next_elsewhere (ms i) c a other
      exact inv.unmoved task reserved ((inv.told i).keeps ⟨fun _ _ named => named, .of_eq rfl⟩ context)

/-- The requests as they arrive, over a store that has nothing of them. -/
def gatewayStart (config : GatewayConfig) (inbounds : ι → Inbound) (store : Trajectory) :
    Pool ι (RequestsWorld ι) GatewayCall GatewayCall.Answer GatewayResponse :=
  ⟨⟨store, []⟩, fun i => handleRequest config (inbounds i)⟩

/-- In any interleaving of requests with each other, with the other operations of the ledger and with
the binding of sessions to tasks: a message is sent only while the ledger has a reservation of its
request, in the task its session is bound to and at the worst case of the very body that is sent; no
request has two; and one that is done has no active one, unless the ledger did not take its closing. -/
theorem requests_close (config : GatewayConfig) (inbounds : ι → Inbound)
    (distinct : Function.Injective fun i => (inbounds i).id) (store : Trajectory)
    (fresh : ∀ i, ∀ r ∈ store.budget.reservations, r.idempotencyKey ≠ spendKey (inbounds i))
    {pool : Pool ι (RequestsWorld ι) GatewayCall GatewayCall.Answer GatewayResponse}
    (reaches : Pool.Reaches (gatewayService inbounds) (gatewayStart config inbounds store) pool) (i : ι) :
    (∀ request rest, pool.programs i = .call (.send request) rest →
      request.path = Route.messages.upstreamPath →
      ∃ r ∈ pool.state.store.budget.reservations,
        Backs config (inbounds i) pool.state.store request.body r) ∧
    (∀ r ∈ pool.state.store.budget.reservations, r.idempotencyKey = spendKey (inbounds i) →
      ∀ r' ∈ pool.state.store.budget.reservations, r'.idempotencyKey = spendKey (inbounds i) → r' = r) ∧
    ∀ response, pool.programs i = .done response → i ∈ pool.state.faults ∨
      ∀ r ∈ pool.state.store.budget.reservations, r.idempotencyKey = spendKey (inbounds i) →
        r.state ≠ .active := by
  have watched : Pool.Watched (fun i => monitor config (inbounds i)) (fun _ m _ => Finished m)
      (PoolInv config inbounds) (gatewayStart config inbounds store) fun _ => {} := by
    refine ⟨fun i => request_obeys config (inbounds i), fun i => ?_, fun i context given => ?_⟩
    · refine ⟨fun _ => fresh i, fun id held => ?_, fun id held => ?_, fun id held => ?_⟩
      · cases held
      · cases held
      · cases held
    · cases given
  obtain ⟨ms, obeys, inv⟩ := Pool.invariant
    (fun s ms i c a s' inv allowed served => inv.call distinct allowed served)
    (fun s ms s' inv moved => inv.move moved) reaches watched
  refine ⟨fun request rest waits path => ?_, fun r mem key r' mem' key' => ?_, fun response done => ?_⟩
  · have allowed := obeys i
    rw [waits] at allowed
    exact (inv.holds i).backs (inv.told i) allowed.1 path
  · exact (inv.holds i).unique mem key mem' key'
  · have ended := obeys i
    rw [done] at ended
    exact (inv.holds i).finished ended.task

end Interleaved

/-! ## Poles -/

/-- A daemon whose policy admits every request, at one moment. -/
def serveCall {ι : Type} (fresh : ι → ReservationId) (elsewhere : (c : GatewayCall) → c.Answer) (i : ι)
    (w : RequestsWorld ι) : (c : GatewayCall) → c.Answer × RequestsWorld ι
  | .budgetContext sessionId => (some (budgetContext w.store sessionId), w)
  | .authorize req =>
      let out := authorizeSpend w.store.budget (some .admits) req 0 (fresh i)
      (out.1, w.withBudget out.2)
  | .settleTask id actual =>
      match w.store.budget.settle id actual 0 with
      | .ok (_, s') => ((), w.withBudget s')
      | .error _ => ((), ⟨w.store, i :: w.faults⟩)
  | .releaseTask id =>
      match w.store.budget.release id 0 with
      | .ok (_, s') => ((), w.withBudget s')
      | .error _ => ((), ⟨w.store, i :: w.faults⟩)
  | c => (elsewhere c, w)

theorem serveCall_serves {ι : Type} (fresh : ι → ReservationId)
    (elsewhere : (c : GatewayCall) → c.Answer) (i : ι) (w : RequestsWorld ι) (c : GatewayCall) :
    ServesCall i w c (serveCall fresh elsewhere i w c).1 (serveCall fresh elsewhere i w c).2 := by
  cases c with
  | budgetContext sessionId => exact .context sessionId
  | authorize req => exact .authorize req (some .admits) 0 (fresh i)
  | settleTask id actual =>
      rw [serveCall]
      cases done : w.store.budget.settle id actual 0 with
      | ok out => exact .settle done
      | error e => exact .unsettled id actual
  | releaseTask id =>
      rw [serveCall]
      cases done : w.store.budget.release id 0 with
      | ok out => exact .release done
      | error e => exact .unreleased id
  | _ => exact .elsewhere _ _ rfl

/-- A session whose task has room for two messages, and no reserve. -/
def roomForTwo : Trajectory :=
  { commit Trajectory.empty (Trajectory.empty.insertSessionTask "session" ⟨7⟩ 0) with
    budget := TaskLedgerOp.apply .empty (.initializeTaskBudget ⟨7⟩
      { target := ⟨.tokens, 250⟩, hardCeiling := ⟨.tokens, 250⟩, turnCeiling := none, renewal := none }
      ⟨⟨.tokens, 0⟩, .policyTarget⟩ .lifetimeBounded 0) }

def twoMessages (first : Bool) : Inbound := smallMessage (if first then "first" else "second")

/-- The first is done when the second waits for the provider. -/
def twoRequests : Pool Bool (RequestsWorld Bool) GatewayCall GatewayCall.Answer GatewayResponse :=
  ((List.replicate 5 [true, false]).flatten ++ List.replicate 5 true).foldl
    (Pool.advance (serveCall (fun first => if first then ⟨1⟩ else ⟨2⟩) (granting 200)))
    (gatewayStart localGateway twoMessages roomForTwo)

/-- What the provider gets of the second. -/
def secondMessage : UpstreamRequest where
  method := "POST"
  origin := "provider"
  path := "/v1/messages"
  query := none
  headers := [("x-session", .text "session"), ("x-api-key", .text "key")]
  body := [1, 2, 3]

theorem twoRequests_close :
    (twoRequests.programs true).value? = some ⟨200, some .allowed, .relayed⟩ ∧
    (twoRequests.state.store.budget.reservations.rows.map fun r =>
        (r.idempotencyKey, r.taskId, r.amount, r.state)) =
      [("gw:first", ⟨7⟩, 101, .settled), ("gw:second", ⟨7⟩, 101, .active)] ∧
    (twoRequests.programs false).waits? = some (.send secondMessage) ∧
    (∃ r ∈ twoRequests.state.store.budget.reservations,
      Backs localGateway (twoMessages false) twoRequests.state.store [1, 2, 3] r) ∧
    ∀ r ∈ twoRequests.state.store.budget.reservations, r.idempotencyKey = spendKey (twoMessages true) →
      r.state ≠ .active := by
  have distinct : Function.Injective fun first => (twoMessages first).id := by
    intro a b same
    cases a <;> cases b <;> first | rfl | exact absurd same (by decide)
  have reaches : Pool.Reaches (gatewayService twoMessages)
      (gatewayStart localGateway twoMessages roomForTwo) twoRequests :=
    Pool.reaches_advance (serveCall_serves _ (granting 200)) _ _
  have none_ (r : Reservation) : r ∉ roomForTwo.budget.reservations := by
    have rows : roomForTwo.budget.reservations.rows = [] := by decide +kernel
    rw [← Table.mem_rows, rows]
    exact List.not_mem_nil
  have done : (twoRequests.programs true).value? = some ⟨200, some .allowed, .relayed⟩ := by
    decide +kernel
  have waits : (twoRequests.programs false).waits? = some (.send secondMessage) := by decide +kernel
  obtain ⟨rest, next⟩ := Program.waits?_eq_some waits
  refine ⟨done, by decide +kernel, waits, ?_, ?_⟩
  · exact (requests_close localGateway twoMessages distinct roomForTwo
      (fun _ r mem => absurd mem (none_ r)) reaches false).1 secondMessage rest next rfl
  · have closed := (requests_close localGateway twoMessages distinct roomForTwo
      (fun _ r mem => absurd mem (none_ r)) reaches true).2.2 _ (Program.value?_eq_some done)
    exact closed.resolve_left (by decide +kernel)

end LibraGovernor
