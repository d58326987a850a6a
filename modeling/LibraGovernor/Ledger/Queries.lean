/-
# LibraGovernor.Ledger.Queries -- what the daemon reads off the shared pool

The `SELECT`s of the shared-budget daemon.  A lane is `(session, agent or none)`
and an executor kind; a lane's holds are its rows that are neither charges nor the
gateway's.  Where a query keeps the newest or the earliest row, ties go to the row
scanned first.
-/
import LibraGovernor.Ledger.SharedPool
import LibraGovernor.Lib.Transaction
import Mathlib.Data.List.Induction
import Mathlib.Data.List.Sort

namespace LibraGovernor

open Relational Transaction

set_option autoImplicit false

/-- Keeps the best row seen so far. -/
def prefer (better : SharedPoolRow → SharedPoolRow → Bool) :
    Option SharedPoolRow → SharedPoolRow → Option SharedPoolRow
  | none, row => some row
  | some best, row => if better row best then some row else some best

/-- The row a scan that keeps the best one ends with. -/
def pick (better : SharedPoolRow → SharedPoolRow → Bool) (rows : List SharedPoolRow) :
    Option SharedPoolRow :=
  rows.foldl (prefer better) none

/-- The most recently created row. -/
def newest (rows : List SharedPoolRow) : Option SharedPoolRow :=
  pick (fun row best => best.createdAt < row.createdAt) rows

/-- The first created row. -/
def earliest (rows : List SharedPoolRow) : Option SharedPoolRow :=
  pick (fun row best => row.createdAt < best.createdAt) rows

/-- One executor of a session. -/
structure Lane where
  sessionId : String
  agentId : Option String
  executorKind : ExecutorKind
  deriving DecidableEq, Repr

namespace SharedPoolRow

def ofGateway (r : SharedPoolRow) : Bool := r.chargeSource = some .gateway

/-- A hold a turn runs on: neither a recorded charge nor a gateway request's. -/
def turnHold (r : SharedPoolRow) : Bool := !r.isCharge && !r.ofGateway

def onLane (r : SharedPoolRow) (principalId : PrincipalId) (lane : Lane) : Bool :=
  decide (r.principalId = principalId ∧ r.sessionId = lane.sessionId ∧
    r.agentId = lane.agentId ∧ r.executorKind.getD .unattributed = lane.executorKind)

/-- A settled charge row under a key and a pool prefix. -/
def chargedUnder (r : SharedPoolRow) (principalId : PrincipalId)
    (keyPrefix poolPrefix : String) : Bool :=
  decide (r.principalId = principalId ∧ r.isCharge = true ∧ r.state = .settled) &&
    startsWith r.idempotencyKey keyPrefix && startsWith r.poolId.val poolPrefix

end SharedPoolRow

namespace LedgerStore

/-- An active hold of the lane in the pool, fresh at `now`. -/
def liveOnLane (poolId : PoolId) (principalId : PrincipalId) (lane : Lane)
    (now : OffsetDateTime) (r : SharedPoolRow) : Bool :=
  decide (r.poolId = poolId ∧ r.state = .active ∧ now < r.expiresAt) &&
    r.onLane principalId lane && r.turnHold

def activeSharedHoldForLane (s : LedgerStore) (poolId : PoolId) (principalId : PrincipalId)
    (lane : Lane) (now : OffsetDateTime) : Option SharedPoolRow :=
  newest (s.reservations.rows.filter (liveOnLane poolId principalId lane now))

/-- Every hold of the lane, in any state and any pool with the prefix. -/
def sharedLaneHolds (s : LedgerStore) (principalId : PrincipalId) (lane : Lane)
    (poolPrefix : String) : List SharedPoolRow :=
  s.reservations.rows.filter fun r =>
    r.onLane principalId lane && r.turnHold && startsWith r.poolId.val poolPrefix

def hasGatewayRowForSession (s : LedgerStore) (poolId : PoolId) (principalId : PrincipalId)
    (sessionId : String) : Bool :=
  s.reservations.rows.any fun r =>
    decide (r.poolId = poolId ∧ r.principalId = principalId ∧ r.sessionId = sessionId) &&
      r.ofGateway

/-- The row of a key in whichever pool with the prefix it landed in first. -/
def findSharedReservationByKey (s : LedgerStore) (principalId : PrincipalId) (key : String)
    (poolPrefix : String) : Option SharedPoolRow :=
  earliest (s.reservations.rows.filter fun r =>
    decide (r.principalId = principalId ∧ r.idempotencyKey = key) &&
      startsWith r.poolId.val poolPrefix)

/-- The pool of the session's newest hold. -/
def latestSharedHoldPoolForSession (s : LedgerStore) (principalId : PrincipalId)
    (sessionId poolPrefix : String) : Option PoolId :=
  (newest (s.reservations.rows.filter fun r =>
    decide (r.principalId = principalId ∧ r.sessionId = sessionId) &&
      startsWith r.poolId.val poolPrefix && !r.isCharge)).map fun r => r.poolId

/-- The holds a tool event keeps alive. -/
def activeSharedHoldsForSession (s : LedgerStore) (principalId : PrincipalId)
    (sessionId poolPrefix : String) (now : OffsetDateTime) : List SharedPoolRow :=
  s.reservations.rows.filter fun r =>
    decide (r.principalId = principalId ∧ r.sessionId = sessionId ∧ r.state = .active ∧
      now < r.expiresAt) && startsWith r.poolId.val poolPrefix && r.turnHold

/-- The latest pool with the prefix that is past `current`, if any. -/
def laterPoolThan (s : LedgerStore) (poolPrefix : String) (current : PoolId) : Option PoolId :=
  ((s.quotaPools.rows.map QuotaPool.poolId).filter fun p =>
    startsWith p.val poolPrefix && decide (current.val < p.val)).foldl
      (fun best p =>
        match best with
        | none => some p
        | some b => if b.val < p.val then some p else some b) none

/-- The newest pool a prune removed. -/
def sharedRetentionHorizon (s : LedgerStore) (poolPrefix : String) : Option PoolId :=
  (s.retentionHorizon.find? poolPrefix).map RetentionHorizon.poolId

/-- What a prune folded away under a key prefix. -/
def chargeFloorTotal (s : LedgerStore) (principalId : PrincipalId) (keyPrefix : String) : Nat :=
  ((s.chargeFloor.find? (principalId, keyPrefix)).map ChargeFloor.total).getD 0

/-- What has been charged under a key prefix: the retained rows, and what a prune
folded away for exactly this prefix.  A floor that outgrew `i64` is stored as a real
number, which the read cannot convert. -/
def sharedChargesTotalByKeyPrefix (s : LedgerStore) (principalId : PrincipalId)
    (keyPrefix poolPrefix : String) : Except LedgerError Nat := do
  let total ← sqlSum ((s.reservations.rows.filter fun r =>
    r.chargedUnder principalId keyPrefix poolPrefix).map fun r => r.settledAmount.getD 0)
  let floor := s.chargeFloorTotal principalId keyPrefix
  if i64Max < floor then throw .conversion
  return min (total + floor) i64Max

def sharedChargeKeysByPrefix (s : LedgerStore) (principalId : PrincipalId)
    (keyPrefix poolPrefix : String) : List String :=
  (s.reservations.rows.filter fun r => r.chargedUnder principalId keyPrefix poolPrefix).map
    fun r => r.idempotencyKey

def holdForPrompt (s : LedgerStore) (principalId : PrincipalId) (sessionId promptId : String) :
    Option SharedPoolReservationId :=
  (s.holdPrompts.find? (principalId, sessionId, promptId)).map HoldPrompt.reservationId

/-- Every prompt a hold accepted, sorted. -/
def promptsForHold (s : LedgerStore) (principalId : PrincipalId) (sessionId : String)
    (reservation : SharedPoolReservationId) : List String :=
  ((s.holdPrompts.rows.filter fun p => decide (p.principalId = principalId ∧
    p.sessionId = sessionId ∧ p.reservationId = reservation)).map HoldPrompt.promptId).insertionSort
      (fun a b => a ≤ b)

/-! ## The mark of a lane -/

def watermarkIdCap : Nat := 512

/-- How far past its own settlement a mark is still believed. -/
def watermarkSlack : Int := 10 * 60 * OffsetDateTime.nanosPerSecond

/-- The mark a settled row carries is believed. -/
def trusted (r : SharedPoolRow) : Bool :=
  match r.watermarkTs, r.settledAt with
  | some at_, some settled => decide (at_ ≤ settled + watermarkSlack)
  | _, _ => true

/-- A settled row of the lane that carries a mark. -/
def marks (principalId : PrincipalId) (lane : Lane) (poolPrefix : String) (r : SharedPoolRow) :
    Bool :=
  r.onLane principalId lane && startsWith r.poolId.val poolPrefix && decide (r.state = .settled) &&
    (r.watermarkTs.isSome || r.watermarkMessageIds.isSome)

/-- Latest settlement first, by the text of the instant. -/
def settledLater (a b : SharedPoolRow) : Bool :=
  match a.settledAt, b.settledAt with
  | some a, some b => b.textLe a
  | none, some _ => false
  | _, none => true

/-- The union of the rows' message ids, in the order they are met and up to the cap. -/
def unionIds (rows : List SharedPoolRow) : List String :=
  (rows.flatMap fun r => r.watermarkMessageIds.getD []).eraseDups.take watermarkIdCap

/-- The newest believed mark of a lane, and the message ids counted up to it. -/
def sharedLaneWatermark (s : LedgerStore) (principalId : PrincipalId) (lane : Lane)
    (poolPrefix : String) : Option SettleWatermark :=
  let rows := ((s.reservations.rows.filter (marks principalId lane poolPrefix)).insertionSort
    (fun a b => settledLater a b = true)).filter trusted
  if rows.isEmpty then none
  else some ⟨(rows.filterMap fun r => r.watermarkTs).max?, unionIds rows⟩

end LedgerStore

/-! ## Picking one row -/

section Pick

variable {better : SharedPoolRow → SharedPoolRow → Bool}

/-- A scan ends with a row it passed, or with the one it started from. -/
theorem foldl_prefer_mem {rows : List SharedPoolRow} {start : Option SharedPoolRow}
    {r : SharedPoolRow} (picked : rows.foldl (prefer better) start = some r) :
    r ∈ rows ∨ start = some r := by
  induction rows generalizing start with
  | nil => exact .inr picked
  | cons row rows ih =>
      rw [List.foldl_cons] at picked
      obtain later | here := ih picked
      · exact .inl (List.mem_cons_of_mem row later)
      · cases start with
        | none =>
            cases here
            exact .inl List.mem_cons_self
        | some best =>
            simp only [prefer] at here
            split at here
            · cases here
              exact .inl List.mem_cons_self
            · exact .inr here

theorem pick_mem {rows : List SharedPoolRow} {r : SharedPoolRow}
    (picked : pick better rows = some r) : r ∈ rows := by
  obtain mem | start := foldl_prefer_mem picked
  · exact mem
  · cases start

theorem foldl_prefer_ne_none (rows : List SharedPoolRow) (best : SharedPoolRow) :
    rows.foldl (prefer better) (some best) ≠ none := by
  induction rows generalizing best with
  | nil => exact nofun
  | cons row rows ih =>
      rw [List.foldl_cons, prefer]
      split
      · exact ih row
      · exact ih best

theorem pick_eq_none_iff (rows : List SharedPoolRow) : pick better rows = none ↔ rows = [] := by
  cases rows with
  | nil => exact ⟨fun _ => rfl, fun _ => rfl⟩
  | cons row rows =>
      constructor
      · intro absent
        exact absurd absent (foldl_prefer_ne_none rows row)
      · intro empty
        cases empty

section Aged

variable {β : Type} [LinearOrder β] {age : SharedPoolRow → β}

theorem foldl_prefer_younger (decides : ∀ row best, better row best = true ↔ age best ≤ age row)
    {r : SharedPoolRow} {rows : List SharedPoolRow} (less : ∀ h ∈ rows, age h < age r) :
    rows.foldl (prefer better) (some r) = some r := by
  induction rows with
  | nil => rfl
  | cons row rows ih =>
      have loses : ¬ better row r = true := by
        rw [decides]
        exact not_le.mpr (less row List.mem_cons_self)
      rw [List.foldl_cons, prefer, if_neg loses]
      exact ih fun h mem => less h (List.mem_cons_of_mem row mem)

/-- The last of the greatest rows is picked, where a later row wins a tie. -/
theorem pick_eq_some_iff (decides : ∀ row best, better row best = true ↔ age best ≤ age row)
    (rows : List SharedPoolRow) (r : SharedPoolRow) :
    pick better rows = some r ↔ ∃ older younger, rows = older ++ r :: younger ∧
      (∀ h ∈ older, age h ≤ age r) ∧ ∀ h ∈ younger, age h < age r := by
  constructor
  · intro picked
    induction rows using List.reverseRecOn generalizing r with
    | nil => cases picked
    | append_singleton rows last ih =>
        rw [pick, List.foldl_append, List.foldl_cons, List.foldl_nil] at picked
        change prefer better (pick better rows) last = some r at picked
        cases kept : pick better rows with
        | none =>
            rw [kept] at picked
            cases picked
            rw [(pick_eq_none_iff rows).mp kept]
            exact ⟨[], [], rfl, List.forall_mem_nil _, List.forall_mem_nil _⟩
        | some best =>
            obtain ⟨older, younger, rfl, before, after⟩ := ih best kept
            rw [kept, prefer] at picked
            split at picked
            · rename_i wins
              cases picked
              have above := (decides _ _).mp wins
              refine ⟨_, [], rfl, ?_, List.forall_mem_nil _⟩
              intro h mem
              rcases List.mem_append.mp mem with early | late
              · exact (before h early).trans above
              rcases List.mem_cons.mp late with rfl | late
              · exact above
              · exact (after h late).le.trans above
            · rename_i loses
              cases picked
              refine ⟨older, younger ++ [last], by simp, before, ?_⟩
              intro h mem
              rcases List.mem_append.mp mem with late | final
              · exact after h late
              · rw [List.mem_singleton.mp final]
                exact not_le.mp (mt (decides _ _).mpr loses)
  · rintro ⟨older, younger, rfl, before, after⟩
    have here : prefer better (pick better older) r = some r := by
      cases kept : pick better older with
      | none => rfl
      | some best => exact if_pos ((decides _ _).mpr (before best (pick_mem kept)))
    rw [pick, List.foldl_append, List.foldl_cons]
    change younger.foldl (prefer better) (prefer better (pick better older) r) = some r
    rw [here]
    exact foldl_prefer_younger decides after

end Aged

end Pick

end LibraGovernor
