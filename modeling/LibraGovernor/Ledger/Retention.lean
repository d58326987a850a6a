/-
# LibraGovernor.Ledger.Retention -- pruning closed monthly periods

`pruneClosedPeriods` deletes the local-budget pools that are old enough and hold no
active row, one transaction per pool.  With a pool go its rows, and so the
idempotency memory of every charge booked there; what is left of it is the charge
floor (`foldCharges`), one cumulative total per family of keys, and the retention
horizon, the newest pool ever removed.

`Prunes` is the code's own test for the pools a request takes away, read off the
store before the prune; `pruneOnePool_ok` says what one pool's transaction writes.
-/
import LibraGovernor.Ledger.Queries
import LibraGovernor.Lib.Procedure
import Mathlib.Data.List.Dedup
import Mathlib.Data.List.Sort
import Mathlib.Data.String.Basic

namespace LibraGovernor

open Relational Transaction

set_option autoImplicit false

inductive RetentionError where
  | keepMonthsZero
  | ledger (e : LedgerError)
  deriving DecidableEq, Repr

structure PruneRequest where
  keepMonths : Nat
  now : OffsetDateTime
  timeZone : IanaTimeZone
  dryRun : Bool

inductive PruneDisposition where
  | pruned
  | wouldPrune
  | retained
  | skippedActiveHold
  | skippedUnrecognisedAlias
  deriving DecidableEq, Repr

structure PoolPruneDetail where
  poolId : PoolId
  disposition : PruneDisposition
  rowsDeleted : Nat
  rowsKept : Nat
  rowsSelected : Nat
  deriving DecidableEq, Repr

structure PruneReport where
  dryRun : Bool
  keepMonths : Nat
  poolsConsidered : Nat
  poolsSelected : Nat
  poolsPruned : Nat
  rowsSelected : Nat
  rowsDeleted : Nat
  rowsKept : Nat
  pools : List PoolPruneDetail
  deriving DecidableEq, Repr

/-- The prefix of every local-budget pool id. -/
def localBudgetPoolPrefix : String := meteredPoolPrefix ++ localBudgetOwner.val ++ "/"

/-- Whether a period ended at or before the start of the month `keepMonths` before
the current one. -/
def isPrunablePeriod (poolIndex currentIndex : Int) (keepMonths : Nat) : Bool :=
  decide (poolIndex < currentIndex - keepMonths)

/-- The month of a local-budget pool. -/
def poolMonthIndex (poolId : PoolId) : Option Int :=
  ((parseMeteredPoolKey poolId).filter fun key => key.1 = localBudgetOwner).bind fun key =>
    monthIndexOfAlias key.2

/-- The month a prune runs in. -/
def PruneRequest.currentIndex (req : PruneRequest) : Option Int :=
  monthIndexOfAlias (monthlyPoolAlias (calendarMonthBounds req.now req.timeZone).1 req.timeZone)

/-! ## One pool -/

/-- The family of a key: everything up to its last `|`. -/
def familyPrefix (key : String) : String :=
  String.ofList (key.toList.reverse.dropWhile (· ≠ '|')).reverse

namespace SharedPoolRow

def closed (r : SharedPoolRow) : Bool :=
  r.state = .settled ∨ r.state = .released ∨ r.state = .expired

/-- A cumulative charge, whose total a prune has to keep. -/
def cumulativeCharge (r : SharedPoolRow) : Bool :=
  r.isCharge && decide (r.state = .settled) && r.settledAmount.isSome &&
    (startsWith r.idempotencyKey "subagent-transcript:" ||
      startsWith r.idempotencyKey "codex-trueup:")

/-- The floor a charge is folded into. -/
def floorKey (r : SharedPoolRow) : PrincipalId × String :=
  (r.principalId, familyPrefix r.idempotencyKey)

end SharedPoolRow

/-- `total = total + excluded.total`. -/
def ChargeFloor.raise (amount : Nat) (f : ChargeFloor) : ChargeFloor :=
  { f with total := f.total + amount }

theorem ChargeFloor.raise_key (amount : Nat) (f : ChargeFloor) : (f.raise amount).key = f.key := rfl

/-- `pool_id = max(pool_id, excluded.pool_id)`. -/
def RetentionHorizon.raise (poolId : PoolId) (h : RetentionHorizon) : RetentionHorizon :=
  { h with poolId := if h.poolId.val < poolId.val then poolId else h.poolId }

theorem RetentionHorizon.raise_poolPrefix (poolId : PoolId) (h : RetentionHorizon) :
    (h.raise poolId).poolPrefix = h.poolPrefix := rfl

abbrev ChargeFloorTable := Table ChargeFloor ChargeFloor.key

namespace LedgerStore

structure PoolCounts where
  total : Nat
  closed : Nat
  active : Nat

def poolCounts (s : LedgerStore) (poolId : PoolId) : PoolCounts :=
  let rows := s.reservations.rows.filter fun r => r.poolId = poolId
  ⟨rows.length, (rows.filter SharedPoolRow.closed).length,
    (rows.filter fun r => r.state = .active).length⟩

/-- One group of the fold: its sum, added to the floor of the group. -/
def raiseFloor (rows : List SharedPoolRow) (floor : ChargeFloorTable)
    (group : PrincipalId × String) : Except LedgerError ChargeFloorTable := do
  let total ← sqlSum ((rows.filter fun r => r.floorKey = group).map fun r =>
    r.settledAmount.getD 0)
  return floor.upsert ⟨group.1, group.2, total⟩ (ChargeFloor.raise total)
    (ChargeFloor.raise_key total)

/-- `INSERT ... SELECT ... GROUP BY ... ON CONFLICT DO UPDATE` of the charge floor. -/
def foldCharges (s : LedgerStore) (poolId : PoolId) : Except LedgerError ChargeFloorTable :=
  let rows := s.reservations.rows.filter fun r => decide (r.poolId = poolId) && r.cumulativeCharge
  (rows.map SharedPoolRow.floorKey).dedup.foldlM (raiseFloor rows) s.chargeFloor

/-- The horizon after `poolId` has been removed. -/
def raiseHorizon (s : LedgerStore) (poolId : PoolId) :
    Table RetentionHorizon RetentionHorizon.poolPrefix :=
  s.retentionHorizon.upsert ⟨localBudgetPoolPrefix, poolId⟩ (RetentionHorizon.raise poolId)
    (RetentionHorizon.raise_poolPrefix poolId)

/-- The pool holds no active row. -/
def Idle (s : LedgerStore) (poolId : PoolId) : Prop :=
  ∀ r ∈ s.reservations, r.poolId = poolId → r.closed = true

theorem idle_iff (s : LedgerStore) (poolId : PoolId) :
    s.Idle poolId ↔ ¬ 0 < (s.poolCounts poolId).active := by
  have closed_iff : ∀ r : SharedPoolRow, r.closed = true ↔ r.state ≠ .active := by
    intro r
    cases state : r.state <;> simp [SharedPoolRow.closed, state]
  simp only [Idle, poolCounts, List.length_pos_iff_exists_mem, List.mem_filter, decide_eq_true_eq,
    closed_iff, not_exists, not_and, and_imp]
  rfl

/-- What a removed pool leaves behind.  No row may still refer to it. -/
def removePool (s : LedgerStore) (poolId : PoolId) (idle : s.Idle poolId)
    (chargeFloor : ChargeFloorTable) : LedgerStore :=
  { s.deleteReservations fun r => decide (r.poolId = poolId) && r.closed with
    quotaPools := s.quotaPools.delete fun pool => pool.poolId = poolId
    pooled := by
      intro r mem
      obtain ⟨was, kept⟩ := (Table.mem_delete _ _ _).mp mem
      obtain ⟨pool, found, same⟩ := s.pooled r was
      refine ⟨pool, (Table.mem_delete _ _ _).mpr ⟨found, decide_eq_false ?_⟩, same⟩
      intro here
      have closed := idle r was (same.symm.trans here)
      simp [same.symm.trans here, closed] at kept
    snapshots := s.snapshots.delete fun snapshot => snapshot.poolId = poolId
    chargeFloor
    retentionHorizon := s.raiseHorizon poolId }

/-- Prunes one pool that is old enough, or only says what a prune would do. -/
def pruneOnePool (s : LedgerStore) (poolId : PoolId) (dryRun : Bool) :
    Except LedgerError (PoolPruneDetail × LedgerStore) :=
  if busy : 0 < (s.poolCounts poolId).active then
    .ok (⟨poolId, .skippedActiveHold, 0, (s.poolCounts poolId).total, 0⟩, s)
  else
  let closed := (s.poolCounts poolId).closed
  if dryRun then .ok (⟨poolId, .wouldPrune, 0, (s.poolCounts poolId).total, closed⟩, s)
  else do
    let chargeFloor ← s.foldCharges poolId
    return (⟨poolId, .pruned, closed, 0, closed⟩,
      s.removePool poolId ((s.idle_iff poolId).mpr busy) chargeFloor)

/-- One pool of the prune's loop. -/
def prunePool (req : PruneRequest) (currentIndex : Int) (poolId : PoolId) (s : LedgerStore) :
    Except LedgerError (PoolPruneDetail × LedgerStore) :=
  match poolMonthIndex poolId with
  | none => .ok (⟨poolId, .skippedUnrecognisedAlias, 0, (s.poolCounts poolId).total, 0⟩, s)
  | some index =>
      if isPrunablePeriod index currentIndex req.keepMonths then s.pruneOnePool poolId req.dryRun
      else .ok (⟨poolId, .retained, 0, (s.poolCounts poolId).total, 0⟩, s)

/-- The local-budget pools, in order. -/
def localBudgetPools (s : LedgerStore) : List PoolId :=
  ((s.quotaPools.rows.map QuotaPool.poolId).filter fun poolId =>
    startsWith poolId.val localBudgetPoolPrefix).insertionSort fun a b => a.val ≤ b.val

end LedgerStore

/-! ## The whole prune -/

/-- The loop over the pools; each is a transaction of its own. -/
def prunePools (req : PruneRequest) (currentIndex : Int) :
    List PoolId → Procedure LedgerStore RetentionError (List PoolPruneDetail)
  | [] => pure []
  | poolId :: rest => do
      let detail ← .transact .ledger (LedgerStore.prunePool req currentIndex poolId)
      let details ← prunePools req currentIndex rest
      return detail :: details

def pruneReport (req : PruneRequest) (pools : List PoolPruneDetail) : PruneReport where
  dryRun := req.dryRun
  keepMonths := req.keepMonths
  poolsConsidered := pools.length
  poolsSelected := (pools.filter fun d =>
    d.disposition = .pruned ∨ d.disposition = .wouldPrune).length
  poolsPruned := (pools.filter fun d => d.disposition = .pruned).length
  rowsSelected := (pools.map PoolPruneDetail.rowsSelected).sum
  rowsDeleted := (pools.map PoolPruneDetail.rowsDeleted).sum
  rowsKept := (pools.map PoolPruneDetail.rowsKept).sum
  pools := pools

def pruneClosedPeriods (req : PruneRequest) : Procedure LedgerStore RetentionError PruneReport :=
  if req.keepMonths = 0 then .fail .keepMonthsZero
  else
  match req.currentIndex with
  | none => .fail (.ledger .invalid)
  | some currentIndex => do
      let poolIds ← .read LedgerStore.localBudgetPools
      let pools ← prunePools req currentIndex poolIds
      return pruneReport req pools

/-! ## The charge floor -/

namespace LedgerStore

/-- The sum one group of the fold adds to its floor. -/
def groupSum (rows : List SharedPoolRow) (group : PrincipalId × String) : Nat :=
  ((rows.filter fun r => r.floorKey = group).map fun r => r.settledAmount.getD 0).sum

def floorOf (floor : ChargeFloorTable) (group : PrincipalId × String) : Nat :=
  ((floor.find? group).map ChargeFloor.total).getD 0

theorem raiseFloor_ok {rows : List SharedPoolRow} {floor floor' : ChargeFloorTable}
    {group : PrincipalId × String} (done : raiseFloor rows floor group = .ok floor') :
    groupSum rows group ≤ i64Max ∧ ∀ k, floorOf floor' k =
      floorOf floor k + if k = group then groupSum rows group else 0 := by
  simp only [raiseFloor, bind_eq_ok_iff, sqlSum] at done
  obtain ⟨total, summed, done⟩ := done
  split at summed
  · rename_i fits
    cases summed
    cases done
    refine ⟨fits, fun k => ?_⟩
    rw [floorOf, floorOf, Table.find?_upsert]
    by_cases here : k = group
    · subst here
      cases old : floor.find? k with
      | none => simp [ChargeFloor.key, groupSum]
      | some f => simp [ChargeFloor.key, ChargeFloor.raise, groupSum]
    · simp [ChargeFloor.key, here]
  · cases summed

theorem raiseFloor_of_fits {rows : List SharedPoolRow} (floor : ChargeFloorTable)
    {group : PrincipalId × String} (fits : groupSum rows group ≤ i64Max) :
    ∃ floor', raiseFloor rows floor group = .ok floor' := by
  have summed : sqlSum ((rows.filter fun r => r.floorKey = group).map fun r =>
      r.settledAmount.getD 0) = .ok (groupSum rows group) := if_pos fits
  simp only [raiseFloor, summed]
  exact ⟨_, rfl⟩

/-- Each group of the fold raises its own floor by its own sum. -/
theorem foldlM_raiseFloor_ok {rows : List SharedPoolRow} {groups : List (PrincipalId × String)}
    (nodup : groups.Nodup) {floor floor' : ChargeFloorTable}
    (done : groups.foldlM (raiseFloor rows) floor = .ok floor') (k : PrincipalId × String) :
    floorOf floor' k = floorOf floor k + if k ∈ groups then groupSum rows k else 0 := by
  induction groups generalizing floor with
  | nil =>
      cases done
      simp
  | cons group groups ih =>
      rw [List.foldlM_cons, bind_eq_ok_iff] at done
      obtain ⟨mid, raised, rest⟩ := done
      obtain ⟨absent, nodup⟩ := List.nodup_cons.mp nodup
      rw [ih nodup rest, (raiseFloor_ok raised).2 k]
      by_cases here : k = group
      · subst here
        simp [absent]
      · simp [here]

theorem foldlM_raiseFloor_fits {rows : List SharedPoolRow} {groups : List (PrincipalId × String)}
    (floor : ChargeFloorTable) :
    (∃ floor', groups.foldlM (raiseFloor rows) floor = .ok floor') ↔
      ∀ group ∈ groups, groupSum rows group ≤ i64Max := by
  induction groups generalizing floor with
  | nil => exact ⟨fun _ => nofun, fun _ => ⟨floor, rfl⟩⟩
  | cons group groups ih =>
      simp only [List.foldlM_cons, bind_eq_ok_iff, List.forall_mem_cons]
      constructor
      · rintro ⟨floor', mid, raised, rest⟩
        exact ⟨(raiseFloor_ok raised).1, (ih mid).mp ⟨floor', rest⟩⟩
      · rintro ⟨fits, others⟩
        obtain ⟨mid, raised⟩ := raiseFloor_of_fits floor fits
        obtain ⟨floor', rest⟩ := (ih mid).mpr others
        exact ⟨floor', mid, raised, rest⟩

/-- The rows of a pool that a prune folds. -/
def foldedRows (s : LedgerStore) (poolId : PoolId) : List SharedPoolRow :=
  s.reservations.rows.filter fun r => decide (r.poolId = poolId) && r.cumulativeCharge

/-- No group of the pool's cumulative charges sums past `i64`. -/
def folds (s : LedgerStore) (poolId : PoolId) : Bool :=
  ((s.foldedRows poolId).map SharedPoolRow.floorKey).all fun group =>
    decide (groupSum (s.foldedRows poolId) group ≤ i64Max)

theorem foldCharges_fits (s : LedgerStore) (poolId : PoolId) :
    (∃ floor, s.foldCharges poolId = .ok floor) ↔ s.folds poolId = true := by
  simp only [foldCharges, foldlM_raiseFloor_fits, List.mem_dedup, folds, List.all_eq_true,
    decide_eq_true_eq]
  rfl

theorem groupSum_eq_zero {rows : List SharedPoolRow} {group : PrincipalId × String}
    (absent : group ∉ rows.map SharedPoolRow.floorKey) : groupSum rows group = 0 := by
  have none : rows.filter (fun r => r.floorKey = group) = [] := by
    rw [List.filter_eq_nil_iff]
    intro r mem same
    exact absent (List.mem_map.mpr ⟨r, mem, by simpa using same⟩)
  rw [groupSum, none]
  rfl

theorem foldCharges_ok {s : LedgerStore} {poolId : PoolId} {floor : ChargeFloorTable}
    (done : s.foldCharges poolId = .ok floor) (k : PrincipalId × String) :
    floorOf floor k = floorOf s.chargeFloor k + groupSum (s.foldedRows poolId) k := by
  rw [foldlM_raiseFloor_ok (List.nodup_dedup _) done]
  split
  · rfl
  · rename_i absent
    have unfolded : k ∉ (s.foldedRows poolId).map SharedPoolRow.floorKey :=
      mt List.mem_dedup.mpr absent
    rw [groupSum_eq_zero unfolded]

/-! ## What a prune removes -/

/-- The period of the pool is one the request prunes. -/
def oldEnough (req : PruneRequest) (poolId : PoolId) : Bool :=
  match req.currentIndex, poolMonthIndex poolId with
  | some current, some index => isPrunablePeriod index current req.keepMonths
  | _, _ => false

/-- A pool the request prunes when its turn comes. -/
def prunable (s : LedgerStore) (req : PruneRequest) (poolId : PoolId) : Bool :=
  !req.dryRun && oldEnough req poolId && decide ((s.poolCounts poolId).active = 0)

/-- The pools a request removes, read off the store before it: the prunable ones, up to
the first whose charges overflow an SQL sum, which ends the prune. -/
def removedPools (s : LedgerStore) (req : PruneRequest) : List PoolId :=
  if req.keepMonths = 0 then [] else (s.localBudgetPools.filter (s.prunable req)).takeWhile s.folds

/-- What the cumulative charges of the removed pools amount to, for one floor. -/
def foldedFrom (s : LedgerStore) (gone : List PoolId) (k : PrincipalId × String) : Nat :=
  s.reservations.sum fun r =>
    if r.poolId ∈ gone ∧ r.cumulativeCharge = true ∧ r.floorKey = k then r.settledAmount.getD 0
    else 0

/-- The horizon has reached a pool. -/
def PrunedThrough (s : LedgerStore) (poolId : PoolId) : Prop :=
  ∃ h, s.sharedRetentionHorizon localBudgetPoolPrefix = some h ∧ poolId.val ≤ h.val

/-- `s'` is `s` without the pools `gone`. -/
structure PrunedBy (s : LedgerStore) (gone : List PoolId) (s' : LedgerStore) : Prop where
  rows : s'.reservations.rows = s.reservations.rows.filter fun r => r.poolId ∉ gone
  floor : ∀ k, floorOf s'.chargeFloor k = floorOf s.chargeFloor k + s.foldedFrom gone k
  kept : ∀ poolId, s.PrunedThrough poolId → s'.PrunedThrough poolId
  reached : ∀ poolId ∈ gone, s'.PrunedThrough poolId

theorem PrunedBy.none (s : LedgerStore) : PrunedBy s [] s where
  rows := by simp
  floor := by
    intro k
    rw [foldedFrom, Table.sum_eq_zero _ fun r _ => if_neg fun h => List.not_mem_nil h.1]
    rfl
  kept := fun _ reached => reached
  reached := nofun

theorem raiseHorizon_horizon (s : LedgerStore) (poolId : PoolId) :
    (s.raiseHorizon poolId).find? localBudgetPoolPrefix =
      some (((s.retentionHorizon.find? localBudgetPoolPrefix).map (RetentionHorizon.raise poolId)).getD
        ⟨localBudgetPoolPrefix, poolId⟩) := by
  rw [raiseHorizon, Table.find?_upsert]
  simp

theorem groupSum_foldedRows (s : LedgerStore) (poolId : PoolId) (k : PrincipalId × String) :
    groupSum (s.foldedRows poolId) k = s.foldedFrom [poolId] k := by
  have same : (s.foldedRows poolId).filter (fun r => r.floorKey = k) =
      s.reservations.rows.filter fun r =>
        r.poolId ∈ [poolId] ∧ r.cumulativeCharge = true ∧ r.floorKey = k := by
    rw [foldedRows, List.filter_filter]
    refine List.filter_congr fun r _ => ?_
    simp only [List.mem_singleton, Bool.decide_and, Bool.decide_eq_true]
    rw [Bool.and_comm, Bool.and_assoc]
  rw [groupSum, same, sum_map_filter, foldedFrom, Table.sum]

/-- Removing one pool. -/
theorem removePool_prunedBy {s : LedgerStore} {poolId : PoolId} (idle : s.Idle poolId)
    {floor : ChargeFloorTable} (folded : s.foldCharges poolId = .ok floor) :
    PrunedBy s [poolId] (s.removePool poolId idle floor) where
  rows := by
    show s.reservations.rows.filter _ = _
    refine List.filter_congr fun r mem => ?_
    by_cases here : r.poolId = poolId
    · simp [here, idle r mem here]
    · simp [here]
  floor := by
    intro k
    show floorOf floor k = _
    rw [foldCharges_ok folded, groupSum_foldedRows]
  kept := by
    rintro p ⟨h, found, le⟩
    simp only [sharedRetentionHorizon, Option.map_eq_some_iff] at found
    obtain ⟨old, found, rfl⟩ := found
    refine ⟨(old.raise poolId).poolId, ?_, ?_⟩
    · show ((s.raiseHorizon poolId).find? _).map _ = _
      rw [raiseHorizon_horizon, found]
      rfl
    · unfold RetentionHorizon.raise
      dsimp only
      split
      · rename_i lt
        exact le_trans le (le_of_lt lt)
      · exact le
  reached := by
    intro p mem
    rw [List.mem_singleton] at mem
    subst mem
    refine ⟨_, by
      show ((s.raiseHorizon p).find? _).map _ = _
      rw [raiseHorizon_horizon]
      rfl, ?_⟩
    cases s.retentionHorizon.find? localBudgetPoolPrefix with
    | none => exact le_refl _
    | some old =>
        simp only [Option.map_some, Option.getD_some, RetentionHorizon.raise]
        split
        · exact le_refl _
        · rename_i ge
          exact not_lt.mp ge

theorem PrunedBy.mem {s s' : LedgerStore} {gone : List PoolId} (pruned : PrunedBy s gone s')
    (r : SharedPoolRow) : r ∈ s'.reservations ↔ r ∈ s.reservations ∧ r.poolId ∉ gone := by
  rw [← Table.mem_rows, pruned.rows]
  simp

/-- One more pool. -/
theorem PrunedBy.step {s mid next : LedgerStore} {gone : List PoolId} {poolId : PoolId}
    (pruned : PrunedBy s gone mid) (apart : poolId ∉ gone) (one : PrunedBy mid [poolId] next) :
    PrunedBy s (gone ++ [poolId]) next where
  rows := by
    rw [one.rows, pruned.rows, List.filter_filter]
    refine List.filter_congr fun r _ => ?_
    simp only [List.mem_append, List.mem_singleton, not_or, Bool.decide_and]
    exact Bool.and_comm _ _
  floor := by
    intro k
    rw [one.floor, pruned.floor, Nat.add_assoc]
    congr 1
    -- The second pool's rows are the same in both stores.
    have same : mid.foldedFrom [poolId] k = s.foldedFrom [poolId] k := by
      rw [← groupSum_foldedRows, ← groupSum_foldedRows, foldedRows, foldedRows, pruned.rows,
        List.filter_filter]
      congr 1
      refine List.filter_congr fun r _ => ?_
      by_cases here : r.poolId = poolId
      · simp [here, apart]
      · simp [here]
    rw [same, foldedFrom, foldedFrom, foldedFrom, ← Table.sum_add]
    refine Table.sum_congr _ fun r _ => ?_
    by_cases here : r.poolId = poolId
    · simp [here, apart]
    · simp [here]
  kept := fun p reached => one.kept p (pruned.kept p reached)
  reached := by
    intro p mem
    rcases List.mem_append.mp mem with old | new
    · exact one.kept p (pruned.reached p old)
    · exact one.reached p new

theorem PrunedBy.foldedRows {s mid : LedgerStore} {gone : List PoolId} {poolId : PoolId}
    (pruned : PrunedBy s gone mid) (apart : poolId ∉ gone) :
    mid.foldedRows poolId = s.foldedRows poolId := by
  rw [LedgerStore.foldedRows, LedgerStore.foldedRows, pruned.rows, List.filter_filter]
  refine List.filter_congr fun r _ => ?_
  by_cases here : r.poolId = poolId
  · simp [here, apart]
  · simp [here]

theorem PrunedBy.poolCounts {s mid : LedgerStore} {gone : List PoolId} {poolId : PoolId}
    (pruned : PrunedBy s gone mid) (apart : poolId ∉ gone) :
    mid.poolCounts poolId = s.poolCounts poolId := by
  have same : mid.reservations.rows.filter (fun r => r.poolId = poolId) =
      s.reservations.rows.filter fun r => r.poolId = poolId := by
    rw [pruned.rows, List.filter_filter]
    refine List.filter_congr fun r _ => ?_
    by_cases here : r.poolId = poolId
    · simp [here, apart]
    · simp [here]
  rw [LedgerStore.poolCounts, LedgerStore.poolCounts, same]

section Loop

variable {req : PruneRequest} {current : Int} {s mid : LedgerStore} {gone : List PoolId}
  {poolId : PoolId}

/-- A pool that is not prunable is left alone. -/
theorem prunePool_keeps (now : req.currentIndex = some current) (pruned : PrunedBy s gone mid)
    (apart : poolId ∉ gone) (kept : s.prunable req poolId = false) :
    ∃ detail, prunePool req current poolId mid = .ok (detail, mid) := by
  unfold prunePool
  split
  · exact ⟨_, rfl⟩
  rename_i index month
  split
  · rename_i old
    unfold pruneOnePool
    split
    · exact ⟨_, rfl⟩
    · rename_i idle
      rw [pruned.poolCounts apart] at idle
      have dry : req.dryRun = true := by
        simpa [prunable, oldEnough, now, month, old, Nat.pos_iff_ne_zero.not_left.mp idle] using kept
      simp only [dry, if_true]
      exact ⟨_, rfl⟩
  · exact ⟨_, rfl⟩

/-- A prunable pool is removed when its charges fold, and otherwise ends the prune. -/
theorem prunePool_removes (now : req.currentIndex = some current) (pruned : PrunedBy s gone mid)
    (apart : poolId ∉ gone) (prunable : s.prunable req poolId = true) :
    if s.folds poolId then ∃ detail next, prunePool req current poolId mid = .ok (detail, next) ∧
      PrunedBy mid [poolId] next
    else ∃ e, prunePool req current poolId mid = .error e := by
  simp only [LedgerStore.prunable, Bool.and_eq_true, Bool.not_eq_true', decide_eq_true_eq] at prunable
  obtain ⟨⟨dry, old⟩, idle⟩ := prunable
  unfold oldEnough at old
  split at old
  · rename_i current' index now' month
    rw [now] at now'
    cases now'
    have folds : mid.folds poolId = s.folds poolId := by
      rw [LedgerStore.folds, LedgerStore.folds, pruned.foldedRows apart]
    have notBusy : ¬ 0 < (mid.poolCounts poolId).active := by
      rw [pruned.poolCounts apart, idle]
      exact Nat.lt_irrefl 0
    simp only [prunePool, month, old, if_true, pruneOnePool, dif_neg notBusy, dry]
    rw [← folds]
    cases fits : mid.folds poolId with
    | true =>
        obtain ⟨floor, folded⟩ := (mid.foldCharges_fits poolId).mpr fits
        simp only [folded]
        exact ⟨_, _, rfl, removePool_prunedBy _ folded⟩
    | false =>
        cases folded : mid.foldCharges poolId with
        | error e => exact ⟨e, rfl⟩
        | ok floor =>
            have fits' := (mid.foldCharges_fits poolId).mp ⟨floor, folded⟩
            rw [fits] at fits'
            cases fits'
  · cases old

theorem prunePools_cons_ok {detail : PoolPruneDetail} {next : LedgerStore}
    (done : prunePool req current poolId mid = .ok (detail, next)) (rest : List PoolId) :
    (prunePools req current (poolId :: rest) mid).2 = (prunePools req current rest next).2 := by
  show (Procedure.bind _ _ mid).2 = _
  simp only [Procedure.bind, Procedure.transact, done]
  show (Procedure.bind _ _ next).2 = _
  unfold Procedure.bind
  rcases prunePools req current rest next with ⟨e | details, after⟩
  · rfl
  · rfl

theorem prunePools_cons_error {e : LedgerError}
    (failed : prunePool req current poolId mid = .error e) (rest : List PoolId) :
    (prunePools req current (poolId :: rest) mid).2 = mid := by
  show (Procedure.bind _ _ mid).2 = _
  simp only [Procedure.bind, Procedure.transact, failed]

/-- The loop removes the prunable pools up to the first that overflows. -/
theorem prunePools_prunedBy (now : req.currentIndex = some current) {pools : List PoolId}
    (nodup : pools.Nodup) (pruned : PrunedBy s gone mid) (apart : ∀ p ∈ pools, p ∉ gone) :
    PrunedBy s (gone ++ (pools.filter (s.prunable req)).takeWhile s.folds)
      (prunePools req current pools mid).2 := by
  induction pools generalizing gone mid with
  | nil =>
      rw [List.filter_nil, List.takeWhile_nil, List.append_nil]
      exact pruned
  | cons poolId rest ih =>
      obtain ⟨fresh, nodup⟩ := List.nodup_cons.mp nodup
      have here : poolId ∉ gone := apart poolId List.mem_cons_self
      have others : ∀ p ∈ rest, p ∉ gone := fun p mem => apart p (List.mem_cons_of_mem _ mem)
      cases selected : s.prunable req poolId with
      | false =>
          obtain ⟨detail, done⟩ := prunePool_keeps now pruned here selected
          rw [prunePools_cons_ok done, List.filter_cons_of_neg (by simp [selected])]
          exact ih nodup pruned others
      | true =>
          have removes := prunePool_removes now pruned here selected
          rw [List.filter_cons_of_pos selected]
          split at removes
          · rename_i fits
            obtain ⟨detail, next, done, one⟩ := removes
            rw [prunePools_cons_ok done, List.takeWhile_cons_of_pos fits, List.append_cons]
            refine ih nodup (pruned.step here one) ?_
            intro p mem
            rw [List.mem_append, List.mem_singleton, not_or]
            exact ⟨others p mem, fun same => fresh (same ▸ mem)⟩
          · rename_i overflow
            obtain ⟨e, failed⟩ := removes
            rw [prunePools_cons_error failed, List.takeWhile_cons_of_neg overflow, List.append_nil]
            exact pruned

end Loop

theorem localBudgetPools_nodup (s : LedgerStore) : s.localBudgetPools.Nodup :=
  (List.perm_insertionSort _ _).nodup_iff.mpr (s.quotaPools.nodup.filter _)

/-- **What a prune does.**  Whatever it answers, it leaves the store without exactly
the pools `removedPools` reads off the store before it. -/
theorem pruneClosedPeriods_prunedBy (s : LedgerStore) (req : PruneRequest) :
    PrunedBy s (s.removedPools req) (pruneClosedPeriods req s).2 := by
  unfold pruneClosedPeriods removedPools
  split
  · exact .none s
  · cases now : req.currentIndex with
    | none =>
        have kept : s.localBudgetPools.filter (s.prunable req) = [] := by
          rw [List.filter_eq_nil_iff]
          intro p _
          simp [prunable, oldEnough, now]
        rw [kept]
        exact .none s
    | some current =>
        have done := prunePools_prunedBy now s.localBudgetPools_nodup (.none s) fun p _ => List.not_mem_nil
        rw [List.nil_append] at done
        show PrunedBy s _ (Procedure.bind _ _ s).2
        simp only [Procedure.bind, Procedure.read]
        show PrunedBy s _ (Procedure.bind _ _ s).2
        unfold Procedure.bind
        rcases result : prunePools req current s.localBudgetPools s with ⟨e | details, after⟩
        · rw [result] at done
          exact done
        · rw [result] at done
          exact done

end LedgerStore

end LibraGovernor
