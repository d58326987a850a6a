/-
# LibraGovernor.Ledger.Expiry -- which task leases the sweep expires

The sweep of the task ledger selects leases by the text of `expires_at`, where the sweep
of the shared pool compares instants.  `ExpiresDue` says what the sweep is for: the active
leases whose expiry has come are expired, each gives its draw back to the reserve once, and
nothing else changes.

The sweep does so exactly when the text of every active lease's expiry is ordered against
the clock's as the instants are (`expires_due_iff`).  Within one second it is not: `00Z`
sorts after `00.5Z`.
-/
import LibraGovernor.Ledger.Attestation
import LibraGovernor.Ledger.TaskTransitions
import Mathlib.Algebra.BigOperators.Group.List.Basic

namespace LibraGovernor

open Relational Transaction

set_option autoImplicit false

namespace TaskLedger

/-- An active lease whose expiry has come: the comparison of the shared pool's sweep. -/
def due (now : OffsetDateTime) (r : Reservation) : Bool := decide (r.state = .active ∧ r.expiresAt ≤ now)

/-- What a lease gives back to the reserve of its task. -/
def restored (rows : List Reservation) (taskId : TaskId) : Int :=
  (rows.map fun r => if r.taskId = taskId then max r.drawnFromReserve 0 else 0).sum

/-- The store after exactly the selected leases are expired and their draws restored. -/
structure Expires (now : OffsetDateTime) (selected : Reservation → Bool) (s s' : TaskLedger) :
    Prop where
  reservations : s'.reservations.rows =
    s.reservations.rows.map fun r => if selected r then r.expire now else r
  budgets : s'.taskBudgets.rows = s.taskBudgets.rows.map fun b =>
    { b with completionReserve :=
        b.completionReserve + restored (s.reservations.rows.filter selected) b.taskId }

/-- The sweep is answered, and expires exactly what is due. -/
def ExpiresDue (s : TaskLedger) (now : OffsetDateTime) : Prop :=
  ∃ out s', s.expireStaleReservations now = .ok (out, s') ∧ Expires now (due now) s s'

/-! ## What the sweep does -/

theorem expireOne_reservations (now : OffsetDateTime) (s : TaskLedger) (row : Reservation) :
    (expireOne now s row).reservations =
      s.reservations.updateAt row.id (Reservation.expire now) fun _ => rfl := by
  rw [expireOne, expireGranted_reservations]
  exact reclaim_reservations _ _ s row

theorem expireOne_budgets (now : OffsetDateTime) (s : TaskLedger) (row : Reservation) :
    (expireOne now s row).taskBudgets.rows = s.taskBudgets.rows.map fun b =>
      { b with completionReserve :=
          b.completionReserve + if row.taskId = b.taskId then max row.drawnFromReserve 0 else 0 } := by
  rw [expireOne, expireGranted_budgets]
  change (restoreReserve _ _ _).taskBudgets.rows = _
  unfold restoreReserve
  split
  · rename_i positive
    refine List.map_congr_left ?_
    intro b _
    by_cases here : b.taskId = row.taskId
    · rw [if_pos here, if_pos here.symm, max_eq_left positive.le]
    · rw [if_neg here, if_neg fun same => here same.symm, add_zero]
  · rename_i none
    have zero : max row.drawnFromReserve 0 = 0 := max_eq_right (not_lt.mp none)
    rw [zero]
    simp only [ite_self, add_zero]
    exact (List.map_id _).symm

/-- Expiring leases one after the other expires those of their ids. -/
theorem foldl_expireOne_reservations (now : OffsetDateTime) (rows : List Reservation) (s : TaskLedger) :
    (rows.foldl (expireOne now) s).reservations.rows =
      s.reservations.rows.map fun r => if r.id ∈ rows.map Reservation.id then r.expire now else r := by
  induction rows generalizing s with
  | nil =>
      simp only [List.map_nil, List.not_mem_nil, if_false]
      exact (List.map_id _).symm
  | cons row rows ih =>
      rw [List.foldl_cons, ih, expireOne_reservations]
      change (s.reservations.rows.map _).map _ = _
      rw [List.map_map]
      refine List.map_congr_left ?_
      intro r _
      rw [Function.comp_apply, List.map_cons]
      by_cases here : r.id = row.id
      · have listed : r.id ∈ row.id :: rows.map Reservation.id := here ▸ List.mem_cons_self
        rw [if_pos here, if_pos listed]
        split
        · rfl
        · rfl
      · simp only [here, if_false, List.mem_cons, false_or]

theorem foldl_expireOne_budgets (now : OffsetDateTime) (rows : List Reservation) (s : TaskLedger) :
    (rows.foldl (expireOne now) s).taskBudgets.rows = s.taskBudgets.rows.map fun b =>
      { b with completionReserve := b.completionReserve + restored rows b.taskId } := by
  induction rows generalizing s with
  | nil =>
      simp only [List.foldl_nil, restored, List.map_nil, List.sum_nil, add_zero]
      exact (List.map_id _).symm
  | cons row rows ih =>
      rw [List.foldl_cons, ih, expireOne_budgets, List.map_map]
      refine List.map_congr_left ?_
      intro b _
      simp only [Function.comp_apply, restored, List.map_cons, List.sum_cons, add_assoc]

/-- The sweep expires what its text comparison selects. -/
theorem expireStaleReservations_expires {s s' : TaskLedger} {now : OffsetDateTime}
    {out : List Reservation} (done : s.expireStaleReservations now = .ok (out, s')) :
    Expires now (leaseStale now) s s' := by
  rw [expireStaleReservations_ok done]
  refine ⟨?_, foldl_expireOne_budgets now _ s⟩
  rw [foldl_expireOne_reservations]
  refine List.map_congr_left ?_
  intro r mem
  have selected : r.id ∈ (s.reservations.rows.filter (leaseStale now)).map Reservation.id ↔
      leaseStale now r = true := by
    constructor
    · intro listed
      obtain ⟨r', own, same⟩ := List.mem_map.mp listed
      rw [List.mem_filter] at own
      rw [← s.reservations.eq_of_key own.1 mem same]
      exact own.2
    · intro stale
      exact List.mem_map_of_mem (List.mem_filter.mpr ⟨mem, stale⟩)
  simp only [selected]

theorem expireStaleReservations_answered (s : TaskLedger) (now : OffsetDateTime) :
    (∃ out s', s.expireStaleReservations now = .ok (out, s')) ↔ now.formattable = true := by
  unfold expireStaleReservations rfc3339
  split
  · rename_i fits
    exact ⟨fun _ => fits, fun _ => ⟨_, _, rfl⟩⟩
  · rename_i fits
    refine ⟨?_, fun fits' => absurd fits' fits⟩
    rintro ⟨out, s', failed⟩
    cases failed

/-! ## When that is what is due -/

theorem leaseStale_eq_due_iff (now : OffsetDateTime) (r : Reservation) :
    leaseStale now r = due now r ↔ (r.state = .active → TextOrdered r.expiresAt now) := by
  unfold leaseStale due TextOrdered
  by_cases active : r.state = .active
  · simp only [active, decide_true, Bool.true_and, true_and, true_implies]
    rw [Bool.eq_iff_iff, decide_eq_true_iff]
  · simp [active]

theorem expire_ne_self {now : OffsetDateTime} {r : Reservation} (active : r.state = .active) :
    r.expire now ≠ r := by
  intro same
  have state := congrArg Reservation.state same
  rw [active] at state
  cases state

/-- A store that is swept by two selections of active leases was selected from alike. -/
theorem Expires.unique {now : OffsetDateTime} {p q : Reservation → Bool} {s s' : TaskLedger}
    (first : Expires now p s s') (second : Expires now q s s')
    (active : ∀ r, p r = true ∨ q r = true → r.state = .active) :
    ∀ r ∈ s.reservations, p r = q r := by
  intro r mem
  have rows := first.reservations.symm.trans second.reservations
  have own := List.map_inj_left.mp rows r mem
  cases here : p r with
  | true =>
      cases there : q r with
      | true => rfl
      | false =>
          rw [here, there] at own
          exact absurd own (expire_ne_self (active r (.inl here)))
  | false =>
      cases there : q r with
      | false => rfl
      | true =>
          rw [here, there] at own
          exact absurd own.symm (expire_ne_self (active r (.inr there)))

theorem Expires.congr {now : OffsetDateTime} {p q : Reservation → Bool} {s s' : TaskLedger}
    (expires : Expires now p s s') (same : ∀ r ∈ s.reservations, p r = q r) : Expires now q s s' := by
  refine ⟨?_, ?_⟩
  · rw [expires.reservations]
    refine List.map_congr_left ?_
    intro r mem
    rw [same r mem]
  · have filtered : s.reservations.rows.filter p = s.reservations.rows.filter q :=
      List.filter_congr same
    rw [expires.budgets, filtered]

/-- The sweep expires what is due exactly when the texts are ordered as the instants. -/
theorem expires_due_iff (s : TaskLedger) (now : OffsetDateTime) :
    s.ExpiresDue now ↔ now.formattable = true ∧
      ∀ r ∈ s.reservations, r.state = .active → TextOrdered r.expiresAt now := by
  constructor
  · rintro ⟨out, s', done, exact_⟩
    refine ⟨(s.expireStaleReservations_answered now).mp ⟨out, s', done⟩, ?_⟩
    intro r mem
    refine (leaseStale_eq_due_iff now r).mp ?_
    refine (expireStaleReservations_expires done).unique exact_ ?_ r mem
    rintro r (stale | due)
    · simp only [leaseStale, Bool.and_eq_true, decide_eq_true_eq] at stale
      exact stale.1
    · exact (of_decide_eq_true due).1
  · rintro ⟨fits, ordered⟩
    obtain ⟨out, s', done⟩ := (s.expireStaleReservations_answered now).mpr fits
    refine ⟨out, s', done, (expireStaleReservations_expires done).congr ?_⟩
    intro r mem
    exact (leaseStale_eq_due_iff now r).mpr (ordered r mem)

end TaskLedger

/-! ## Poles -/

/-- A task's only lease, expiring at the instant. -/
def leaseUntil (expiresAt : OffsetDateTime) : TaskLedger :=
  { TaskLedger.empty with
    reservations := ⟨[
      { id := ⟨1⟩, taskId := ⟨1⟩, sessionId := "main", planId := none, class_ := .requiredWork
        resourceKind := .tokens, amount := 100, drawnFromReserve := 0, state := .active
        settledAmount := none, usageKnown := none, idempotencyKey := "plan:1", createdAt := -60000000000
        expiresAt, settledAt := none, releasedAt := none, accountId := .forTask ⟨1⟩
        grantsAccount := none, leaseKind := .workHold, settledAfterExpiry := false }], List.nodup_singleton _⟩ }

/-- Half a second past `00Z` a lease until then is kept, and at `00Z` one until `00.5Z` is not. -/
theorem half_second_misjudged :
    ¬ (leaseUntil 0).ExpiresDue 500000000 ∧ ¬ (leaseUntil 500000000).ExpiresDue 0 := by
  refine ⟨?_, ?_⟩
  · rw [TaskLedger.expires_due_iff]
    rintro ⟨-, ordered⟩
    have text := ordered _ List.mem_cons_self rfl
    exact absurd text (by decide)
  · rw [TaskLedger.expires_due_iff]
    rintro ⟨-, ordered⟩
    have text := ordered _ List.mem_cons_self rfl
    exact absurd text (by decide)

end LibraGovernor
