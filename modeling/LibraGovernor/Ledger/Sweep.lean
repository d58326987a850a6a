/-
# LibraGovernor.Ledger.Sweep -- what the sweep of stale holds leaves

Every request of the daemon and of the launch gate that reserves or renews sweeps first.
`sweptStore` is the store that leaves: a hold past its expiry is closed, every other row is
as it was, and a pool's figures only ever fall.
-/
import LibraGovernor.Ledger.Oversubscription

namespace LibraGovernor

open Relational

set_option autoImplicit false

/-- The store after the sweep. -/
def sweptStore (now : OffsetDateTime) (s : LedgerStore) : LedgerStore :=
  s.updateWhere (LedgerStore.stale now) (LedgerStore.resolveStale now) (LedgerStore.resolveStale_ident now)

theorem sweep_ready (s : LedgerStore) {now : OffsetDateTime} (fits : now.formattable = true) :
    ∃ out, s.expireStaleSharedPoolReservations now = .ok (out, sweptStore now s) := by
  have stamp : rfc3339 now = .ok now := if_pos fits
  unfold LedgerStore.expireStaleSharedPoolReservations
  rw [stamp]
  exact ⟨_, rfl⟩

theorem swept_rows (now : OffsetDateTime) (s : LedgerStore) :
    (sweptStore now s).reservations.rows = s.reservations.rows.map fun r =>
      if LedgerStore.stale now r then LedgerStore.resolveStale now r else r := rfl

theorem swept_sum (now : OffsetDateTime) (s : LedgerStore) (w : SharedPoolRow → Nat) :
    (sweptStore now s).reservations.sum w = s.reservations.sum fun r =>
      w (if LedgerStore.stale now r then LedgerStore.resolveStale now r else r) := by
  unfold Table.sum
  rw [swept_rows, List.map_map]
  rfl

/-- A stale hold is not active any more. -/
theorem resolveStale_closed (now : OffsetDateTime) (r : SharedPoolRow) :
    (LedgerStore.resolveStale now r).state ≠ .active := by
  unfold LedgerStore.resolveStale
  split
  · rintro ⟨⟩
  · rintro ⟨⟩

/-! ## Figures -/

theorem settled_add_active (s : LedgerStore) (poolId : PoolId) :
    s.settled poolId + s.active poolId = committedIn poolId s.reservations := committed_eq s poolId

/-- A stale hold counts no more than before: it is booked at its amount, or freed. -/
theorem resolveStale_committed {now : OffsetDateTime} {r : SharedPoolRow}
    (stale : LedgerStore.stale now r = true) :
    (LedgerStore.resolveStale now r).committedPart ≤ r.committedPart := by
  have active : r.state = .active := (of_decide_eq_true stale).1
  have held : r.committedPart = r.amount := by
    simp [SharedPoolRow.committedPart, SharedPoolRow.settledPart, SharedPoolRow.activePart, active]
  rw [held]
  unfold LedgerStore.resolveStale
  split
  · simp [SharedPoolRow.committedPart, SharedPoolRow.settledPart, SharedPoolRow.activePart,
      SharedPoolRow.book]
  · simp [SharedPoolRow.committedPart, SharedPoolRow.settledPart, SharedPoolRow.activePart,
      SharedPoolRow.expire]

theorem resolveStale_poolId (now : OffsetDateTime) (r : SharedPoolRow) :
    (LedgerStore.resolveStale now r).poolId = r.poolId :=
  congrArg (fun ident => ident.2.1) (LedgerStore.resolveStale_ident now r)

/-- A sweep never takes capacity. -/
theorem swept_le (now : OffsetDateTime) (s : LedgerStore) (poolId : PoolId) :
    (sweptStore now s).settled poolId + (sweptStore now s).active poolId ≤
      s.settled poolId + s.active poolId := by
  rw [settled_add_active, settled_add_active]
  rw [committedIn, committedIn, swept_sum]
  refine Table.sum_le _ ?_
  intro r _
  by_cases stale : LedgerStore.stale now r = true
  · rw [if_pos stale, resolveStale_poolId]
    split
    · exact resolveStale_committed stale
    · exact Nat.le_refl 0
  · rw [if_neg stale]

/-- A sweep that finds no hold of the pool leaves its figures. -/
theorem swept_eq {now : OffsetDateTime} {s : LedgerStore} {poolId : PoolId}
    (timely : ∀ r ∈ s.reservations, r.poolId = poolId → r.state = .active → now < r.expiresAt) :
    (sweptStore now s).settled poolId + (sweptStore now s).active poolId =
      s.settled poolId + s.active poolId := by
  rw [settled_add_active, settled_add_active]
  rw [committedIn, committedIn, swept_sum]
  refine Table.sum_congr _ ?_
  intro r mem
  by_cases stale : LedgerStore.stale now r = true
  · have other : r.poolId ≠ poolId := by
      intro own
      have due := of_decide_eq_true stale
      exact absurd due.2 (not_le.mpr (timely r mem own due.1))
    rw [if_pos stale, resolveStale_poolId, if_neg other, if_neg other]
  · rw [if_neg stale]

end LibraGovernor
