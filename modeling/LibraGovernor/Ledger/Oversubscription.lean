/-
# LibraGovernor.Ledger.Oversubscription -- a pool is never granted past its capacity

A grant is admitted against the code's saturated sums; `granted_remaining` shows
that the very admission recomputed after the grant still has something
nonnegative left.  Over a run whose reserves on a pool all use one capacity,
`run_committed_le` bounds the mathematical sums: what is committed exceeds the
capacity only by spend that no reserve admitted (charges), by settles above
their hold, and by settles of holds that had already been freed.

The excess is read off the rows before and after each step (`chargedBy`,
`overrunBy`, `lateBy`), not off the outcome a call reports.
-/
import LibraGovernor.Ledger.Transitions

namespace LibraGovernor

open Relational Transaction Transition
open LedgerStore (GrantedReserve)

set_option autoImplicit false

/-! ## What one step adds outside admission -/

/-- A hold settled while active, above its amount. -/
def overrunOf (before after : SharedPoolRow) : Nat :=
  if before.state = .active ∧ after.state = .settled then
    after.settledAmount.getD 0 - before.amount
  else 0

/-- A hold settled after it expired: all of it. -/
def lateOf (before after : SharedPoolRow) : Nat :=
  if before.state = .expired ∧ after.state = .settled then after.settledAmount.getD 0 else 0

/-- A figure of one pool's rows. -/
def inPool (poolId : PoolId) (w : SharedPoolRow → SharedPoolRow → Nat)
    (before after : SharedPoolRow) : Nat := if after.poolId = poolId then w before after else 0

/-- The charges the operation records against a pool. -/
def chargedBy (poolId : PoolId) (s : LedgerStore) (op : SharedPoolOp) : Nat :=
  s.reservations.addedSum (op.apply s).reservations fun row =>
    if row.isCharge = true ∧ row.poolId = poolId then row.amount else 0

/-- The overruns of the holds the operation settles while active. -/
def overrunBy (poolId : PoolId) (s : LedgerStore) (op : SharedPoolOp) : Nat :=
  s.reservations.movedSum (op.apply s).reservations (inPool poolId overrunOf)

/-- The spend of the holds the operation settles after expiry. -/
def lateBy (poolId : PoolId) (s : LedgerStore) (op : SharedPoolOp) : Nat :=
  s.reservations.movedSum (op.apply s).reservations (inPool poolId lateOf)

/-- What a row commits of its pool. -/
def SharedPoolRow.committedPart (r : SharedPoolRow) : Nat := r.settledPart + r.activePart

/-- Settled plus active, as a mathematical sum. -/
def LedgerStore.committed (s : LedgerStore) (poolId : PoolId) : Nat :=
  s.settled poolId + s.active poolId

/-- The committed sum of a table, row by row. -/
def committedIn (poolId : PoolId) (t : ReservationTable) : Nat :=
  t.sum fun r => if r.poolId = poolId then r.committedPart else 0

theorem committed_eq (s : LedgerStore) (poolId : PoolId) :
    s.committed poolId = committedIn poolId s.reservations := by
  rw [LedgerStore.committed, LedgerStore.settled, LedgerStore.active, ← Table.sum_add, committedIn]
  refine Table.sum_congr _ fun r _ => ?_
  split
  · rfl
  · rfl

/-- One move adds to a row's commitment at most its overrun or its late spend. -/
theorem RowMove.committedPart_le {r r' : SharedPoolRow} (move : RowMove r r') :
    r'.committedPart ≤ r.committedPart + (overrunOf r r' + lateOf r r') := by
  unfold SharedPoolRow.committedPart SharedPoolRow.settledPart SharedPoolRow.activePart overrunOf
    lateOf
  cases move with
  | settle value usageKnown now supplied ts ids settleable =>
      simp only [SharedPoolRow.settleable, Bool.decide_or, Bool.or_eq_true, decide_eq_true_eq]
        at settleable
      rcases settleable with active | expired
      · simp [SharedPoolRow.settle, active]
        omega
      · simp [SharedPoolRow.settle, expired]
  | release now active => simp [SharedPoolRow.release]
  | renew expiresAt active => simp [SharedPoolRow.renew, active]
  | expire now active => simp [SharedPoolRow.expire]
  | book now active => simp [SharedPoolRow.book, active]
  | mark ts ids settled => simp [SharedPoolRow.mark, settled]

theorem RowMove.poolId {r r' : SharedPoolRow} (move : RowMove r r') : r'.poolId = r.poolId := by
  cases move <;> rfl

/-- Moving rows commits at most their overruns and their late spend more. -/
theorem committedIn_moved (poolId : PoolId) {t : ReservationTable}
    {f : SharedPoolRow → SharedPoolRow} (keeps : ∀ r, (f r).id = r.id)
    (moves : ∀ r ∈ t, f r = r ∨ RowMove r (f r)) :
    committedIn poolId (t.update f keeps) ≤ committedIn poolId t +
      (t.movedSum (t.update f keeps) (inPool poolId overrunOf) +
        t.movedSum (t.update f keeps) (inPool poolId lateOf)) := by
  rw [Table.movedSum_update, Table.movedSum_update, ← Table.sum_add, committedIn, committedIn,
    ← Table.sum_add, Table.sum_update]
  refine Table.sum_le t fun r mem => ?_
  unfold inPool
  rcases moves r mem with same | move
  · rw [same]
    omega
  · rw [move.poolId]
    split
    · exact move.committedPart_le
    · omega

theorem committedIn_charged (poolId : PoolId) {t u : ReservationTable} {row : SharedPoolRow}
    (charge : NewCharge row) (inserted : t.insert? row = some u) :
    committedIn poolId u = committedIn poolId t + t.addedSum u (fun row =>
      if row.isCharge = true ∧ row.poolId = poolId then row.amount else 0) := by
  have part : row.committedPart = row.amount := by
    simp [SharedPoolRow.committedPart, SharedPoolRow.settledPart, SharedPoolRow.activePart,
      charge.settled, charge.amount]
  rw [committedIn, Table.sum_insert? inserted, ← committedIn, Table.addedSum_insert? inserted]
  simp only [charge.charge, part, true_and]

/-! ## After a grant -/

section Granted

variable {s s' : LedgerStore} {req : SharedPoolReserveRequest} {metered : Option MeteredGate}
  {fresh : SharedPoolReservationId} {row : SharedPoolRow}

theorem granted_rows (granted : GrantedReserve s req metered fresh row s') :
    s'.reservations.rows = s.reservations.rows ++ [row] ∧ s'.quotaPools = s.quotaPools ∧
      s'.snapshots = s.snapshots := by
  obtain ⟨inserted, -, pools, snapshots, -⟩ := LedgerStore.insertReservation_ok granted.inserted
  exact ⟨((Table.insert?_eq_some_iff _ _ _).mp inserted).2, pools, snapshots⟩

theorem granted_row (granted : GrantedReserve s req metered fresh row s') :
    row.poolId = req.poolId ∧ row.amount = req.amount ∧ row.state = .active := by
  obtain ⟨attribution, expiresAt, -, -, rfl⟩ := granted.row_eq
  exact ⟨rfl, rfl, rfl⟩

theorem granted_settled (granted : GrantedReserve s req metered fresh row s') (poolId : PoolId) :
    s'.settled poolId = s.settled poolId := by
  have inserted := (LedgerStore.insertReservation_ok granted.inserted).1
  simp [LedgerStore.settled, Table.sum_insert? inserted, SharedPoolRow.settledPart,
    (granted_row granted).2.2]

theorem granted_active (granted : GrantedReserve s req metered fresh row s') :
    s'.active req.poolId = s.active req.poolId + req.amount := by
  have inserted := (LedgerStore.insertReservation_ok granted.inserted).1
  obtain ⟨pool, amount, active⟩ := granted_row granted
  simp [LedgerStore.active, Table.sum_insert? inserted, SharedPoolRow.activePart, pool, amount,
    active]

/-- An active row is no evidence a provider could have seen. -/
theorem granted_settledBefore (granted : GrantedReserve s req metered fresh row s')
    (poolId : PoolId) (observedAt : OffsetDateTime) :
    s'.settledBefore poolId observedAt = s.settledBefore poolId observedAt := by
  simp [LedgerStore.settledBefore, (granted_rows granted).1, List.filterMap_append,
    (granted_row granted).2.2]

theorem granted_overhangFor (granted : GrantedReserve s req metered fresh row s')
    (poolId : PoolId) (source : CapacitySource) (now : OffsetDateTime) :
    s'.overhangFor poolId source now = s.overhangFor poolId source now := by
  cases source with
  | localConfigured cap => rfl
  | providerSnapshot =>
      simp only [LedgerStore.overhangFor, LedgerStore.externalOverhang, (granted_rows granted).2.2,
        granted_settledBefore granted]

/-- The admission recomputed after a grant is not overdrawn: the active figure
grew by at most the amount that was admitted. -/
theorem granted_admission (granted : GrantedReserve s req metered fresh row s') {capacity : Nat}
    {source : CapacitySource}
    (admitted : (s.admissionAt req.poolId capacity source req.now).admits req.amount = true) :
    0 ≤ (s'.admissionAt req.poolId capacity source req.now).remaining := by
  have fits := PoolAdmission.admits_sound admitted
  rw [PoolAdmission.remaining, PoolAdmission.clampI64_nonneg_iff]
  simp only [LedgerStore.admissionAt, LedgerStore.settledAndActive_eq,
    granted_overhangFor granted, granted_settled granted, granted_active granted] at fits ⊢
  omega

end Granted

/-- The remaining figure of the admission a reserve is decided on, recomputed. -/
def remainingAfter (s : LedgerStore) (req : SharedPoolReserveRequest)
    (metered : Option MeteredGate) : Option Int :=
  match metered with
  | none => (s.poolAdmission req.poolId req.now).map PoolAdmission.remaining
  | some gate => (s.poolAdmissionFor req.poolId req.now gate.capacitySource).map
      fun sourced => sourced.admission.remaining

/-- A pool row is found under its own id. -/
theorem quotaPool_poolId {s : LedgerStore} {poolId : PoolId} {pool : QuotaPool}
    (found : s.quotaPool poolId = some pool) : pool.poolId = poolId :=
  ((Table.find?_eq_some_iff _ _ _).mp found).2

theorem granted_remaining {s s' : LedgerStore} {req : SharedPoolReserveRequest}
    {metered : Option MeteredGate} {fresh : SharedPoolReservationId} {row : SharedPoolRow}
    (granted : GrantedReserve s req metered fresh row s') :
    ∃ remaining, remainingAfter s' req metered = some remaining ∧ 0 ≤ remaining := by
  obtain ⟨pool, capacity, found, effective, admitted⟩ := granted.admitted
  have found' : s'.quotaPool req.poolId = some pool := by
    rw [LedgerStore.quotaPool, (granted_rows granted).2.1]
    exact found
  have nonneg := granted_admission granted admitted
  cases metered with
  | none =>
      cases effective
      simp only [remainingAfter, LedgerStore.poolAdmission, found', Option.map_some]
      exact ⟨_, rfl, nonneg⟩
  | some gate =>
      have effective' : s'.effectiveCapacity pool gate.capacitySource req.now = .ok capacity := by
        rw [← show s.effectiveCapacity pool gate.capacitySource req.now = .ok capacity from
          effective]
        simp only [LedgerStore.effectiveCapacity, (granted_rows granted).2.2]
      simp only [remainingAfter, LedgerStore.poolAdmissionFor, found', Option.map_some,
        LedgerStore.sourcedAdmission, effective', quotaPool_poolId found]
      exact ⟨_, rfl, nonneg⟩

/-! ## Over a run -/

/-- Every reserve of the operation on `poolId` is decided against `capacity`. -/
def ReservesAgainst (poolId : PoolId) (capacity : Nat) (s : LedgerStore) (op : SharedPoolOp) :
    Prop :=
  ∀ req metered, op.reserves = some (req, metered) → req.poolId = poolId →
    ∀ pool, s.quotaPool poolId = some pool →
      ∀ c, s.reserveCapacity pool metered req.now = .ok c → c = capacity

/-- A grant commits at most what was left, and nothing once the sums saturate. -/
theorem committedIn_opened {s : LedgerStore} {op : SharedPoolOp} {row : SharedPoolRow}
    {u : ReservationTable} {poolId : PoolId} {capacity : Nat} (fits : capacity ≤ u64Max)
    (uses : ReservesAgainst poolId capacity s op) (known : op.Opens s row)
    (inserted : s.reservations.insert? row = some u) :
    committedIn poolId u ≤ max capacity (s.committed poolId) := by
  obtain ⟨req, metered, reserves, fresh, s', granted⟩ := known
  obtain ⟨here, amount, active⟩ := granted_row granted
  rw [committedIn, Table.sum_insert? inserted, ← committedIn, ← committed_eq]
  by_cases same : row.poolId = poolId
  · obtain ⟨pool, c, found, effective, admitted⟩ := granted.admitted
    rw [here] at same
    subst same
    have c_eq := uses req metered reserves rfl pool found c effective
    have le := PoolAdmission.admits_sound admitted
    simp only [LedgerStore.admissionAt, LedgerStore.settledAndActive_eq] at le
    simp only [here, if_true, SharedPoolRow.committedPart, SharedPoolRow.settledPart,
      SharedPoolRow.activePart, active, amount, LedgerStore.committed]
    simp only [reduceCtorEq, if_false]
    omega
  · simp only [same, if_false]
    omega

/-- One step keeps the committed sum within the capacity and the excess so far,
plus the excess of the step. -/
theorem apply_committed_le {poolId : PoolId} {capacity : Nat} (fits : capacity ≤ u64Max)
    (s : LedgerStore) (op : SharedPoolOp) (spent : Nat)
    (uses : ReservesAgainst poolId capacity s op)
    (within : s.committed poolId ≤ capacity + spent) :
    (op.apply s).committed poolId ≤ capacity +
      (spent + (chargedBy poolId s op + overrunBy poolId s op + lateBy poolId s op)) := by
  unfold chargedBy overrunBy lateBy
  rw [committed_eq]
  have write := LedgerStore.apply_write s op
  generalize (op.apply s).reservations = u at write ⊢
  cases write with
  | same =>
      rw [committed_eq] at within
      omega
  | moved f keeps moves =>
      have step := committedIn_moved poolId keeps moves
      rw [committed_eq] at within
      omega
  | opened row hold known inserted =>
      have step := committedIn_opened fits uses known inserted
      omega
  | charged row charge known inserted =>
      have step := committedIn_charged poolId charge inserted
      rw [committed_eq] at within
      omega

/-- **No oversubscription.**  The admission recomputed right after a granted reserve
has nothing negative remaining; and in every store reached from the empty ledger
by operations whose reserves on a pool all use one capacity, what is settled and
active exceeds that capacity by no more than the charges, the overruns of holds
settled while active, and the holds settled after expiry. -/
theorem pool_never_oversubscribed :
    (∀ (s s' : LedgerStore) (req : SharedPoolReserveRequest) (metered : Option MeteredGate)
      (fresh : SharedPoolReservationId) (h : SharedPoolReservation),
      s.reserveSharedCore req metered fresh = .ok (.granted h, s') →
        ∃ remaining, remainingAfter s' req metered = some remaining ∧ 0 ≤ remaining) ∧
    (∀ (poolId : PoolId) (capacity : Nat) (ops : List SharedPoolOp), capacity ≤ u64Max →
      Along SharedPoolOp.apply (ReservesAgainst poolId capacity) LedgerStore.empty ops →
        let s := run SharedPoolOp.apply LedgerStore.empty ops
        s.settled poolId + s.active poolId ≤ capacity +
          (total SharedPoolOp.apply (chargedBy poolId) LedgerStore.empty ops +
            total SharedPoolOp.apply (overrunBy poolId) LedgerStore.empty ops +
            total SharedPoolOp.apply (lateBy poolId) LedgerStore.empty ops)) := by
  constructor
  · intro s s' req metered fresh h done
    rcases LedgerStore.reserveSharedCore_ok done with ⟨-, refused⟩ | ⟨row, -, granted⟩
    · exact absurd rfl (refused h)
    · exact granted_remaining granted
  · intro poolId capacity ops fits uses
    have start : LedgerStore.empty.committed poolId ≤ capacity + 0 := Nat.zero_le _
    have bound := run_accumulates (apply_committed_le fits) uses start
    rw [Nat.zero_add, total_add, total_add] at bound
    exact bound

/-! ## Poles -/

theorem reservesAgainst_of_not_reserve {poolId : PoolId} {capacity : Nat} {s : LedgerStore}
    {op : SharedPoolOp} (quiet : op.reserves = none) : ReservesAgainst poolId capacity s op := by
  intro req metered reserves
  rw [quiet] at reserves
  cases reserves

/-- A reserve under a configured cap is decided against that cap. -/
theorem reservesAgainst_localConfigured (poolId : PoolId) (capacity : Nat) (s : LedgerStore)
    (req : SharedPoolReserveRequest) (sessionCap : Option Nat) (promptId : Option String)
    (fresh : SharedPoolReservationId) :
    ReservesAgainst poolId capacity s
      (.reserveSharedMetered req ⟨sessionCap, .localConfigured capacity⟩ promptId fresh) := by
  intro req' metered reserves _ pool _ c effective
  cases reserves
  cases effective
  rfl

def spentPool : PoolId := ⟨"metered:team/monthly"⟩

def spendRequest (amount : Nat) (key : String) (ttlSecs : Nat) : SharedPoolReserveRequest :=
  { poolId := spentPool, principalId := ⟨"team"⟩, sessionId := "session", amount,
    unit := .usdCents, idempotencyKey := key, now := 0, ttlSecs }

def spendGate : MeteredGate := ⟨none, .localConfigured 100⟩

/-- A pool of 100: a hold of 60 settled at 70, a hold of 20 settled after it
expired, and a charge of 50. -/
def overspend : List SharedPoolOp :=
  [.ensurePool spentPool .usdCents 100 0,
   .reserveSharedMetered (spendRequest 60 "first" 10) spendGate none ⟨1⟩,
   .settleShared ⟨1⟩ (some 70) 0,
   .reserveSharedMetered (spendRequest 20 "second" 0) spendGate none ⟨2⟩,
   .expireStaleSharedPoolReservations 0,
   .settleShared ⟨2⟩ none 0,
   .chargeShared
     { poolId := spentPool, principalId := ⟨"team"⟩, sessionId := "session", amount := 50,
       unit := .usdCents, idempotencyKey := "third", now := 0,
       capacitySource := .localConfigured 100, usageKnown := true } none ⟨3⟩]

theorem overspend_along :
    Along SharedPoolOp.apply (ReservesAgainst spentPool 100) LedgerStore.empty overspend :=
  ⟨reservesAgainst_of_not_reserve rfl, reservesAgainst_localConfigured _ _ _ _ _ _ _,
    reservesAgainst_of_not_reserve rfl, reservesAgainst_localConfigured _ _ _ _ _ _ _,
    reservesAgainst_of_not_reserve rfl, reservesAgainst_of_not_reserve rfl,
    reservesAgainst_of_not_reserve rfl, trivial⟩

/-- The bound is met by 140 committed against 100 + 50 + 10 + 20. -/
theorem overspend_bounded :
    (∃ h s', LedgerStore.reserveSharedCore
        (run SharedPoolOp.apply LedgerStore.empty (overspend.take 1))
        (spendRequest 60 "first" 10) (some spendGate) ⟨1⟩ = .ok (.granted h, s') ∧
      ∃ remaining, remainingAfter s' (spendRequest 60 "first" 10) (some spendGate) =
        some remaining ∧ 0 ≤ remaining) ∧
    (run SharedPoolOp.apply LedgerStore.empty overspend).settled spentPool = 140 ∧
    (run SharedPoolOp.apply LedgerStore.empty overspend).settled spentPool +
        (run SharedPoolOp.apply LedgerStore.empty overspend).active spentPool ≤ 100 +
      (total SharedPoolOp.apply (chargedBy spentPool) LedgerStore.empty overspend +
        total SharedPoolOp.apply (overrunBy spentPool) LedgerStore.empty overspend +
        total SharedPoolOp.apply (lateBy spentPool) LedgerStore.empty overspend) := by
  obtain ⟨h, s', done⟩ : ∃ h s', LedgerStore.reserveSharedCore
      (run SharedPoolOp.apply LedgerStore.empty (overspend.take 1))
      (spendRequest 60 "first" 10) (some spendGate) ⟨1⟩ = .ok (.granted h, s') := ⟨_, _, rfl⟩
  refine ⟨⟨h, s', done, ?_⟩, by decide, ?_⟩
  · exact pool_never_oversubscribed.1 _ _ _ _ _ _ done
  · exact pool_never_oversubscribed.2 spentPool 100 overspend (by decide) overspend_along

end LibraGovernor
