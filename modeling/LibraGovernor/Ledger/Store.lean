/-
# LibraGovernor.Ledger.Store -- the shared-pool tables and what is read off them

The tables of the shared-pool migrations, with their constraints as part of the
type: every table has its primary key, `LedgerStore.uniqueKeys` is the unique index
on `(pool_id, principal_id, idempotency_key)`, and `LedgerStore.pooled` the foreign
key of a row's pool.  `insertReservation` is the one way a reservation row appears
and refuses a taken id, a taken key or a missing pool; `updateReservations` is the
one way a row changes and keeps all three.

The sums an admission reads come in two forms: `saturatingAmountSum`, which is
the code's (an SQL `SUM` that fails on `i64` overflow, then a saturating loop),
and the mathematical `settled` and `active` sums of a pool.
`saturatingAmountSum_eq` connects them.
-/
import LibraGovernor.Domain.Period
import LibraGovernor.Lib.Table

namespace LibraGovernor

open Relational

set_option autoImplicit false

inductive LedgerError where
  /-- `rusqlite::Error::InvalidQuery`, the ledger's `invalid()`. -/
  | invalid
  /-- A value the SQL layer could not convert (an unformattable instant). -/
  | conversion
  /-- A violated table constraint. -/
  | constraint
  /-- An SQL integer `SUM` overflowed. -/
  | integerOverflow
  | quotaUnitMismatch (expected actual : QuotaUnit)
  | noSuchPool (poolId : String)
  | sharedPoolKeyConflict
  deriving DecidableEq, Repr

/-- `Rfc3339` text of an instant, by the instant it denotes. -/
def rfc3339 (t : OffsetDateTime) : Except LedgerError OffsetDateTime :=
  if t.formattable then .ok t else .error .conversion

def checkedI64 (value : Nat) : Except LedgerError Nat :=
  if value ≤ i64Max then .ok value else .error .invalid

/-! ## Rows -/

/-- A `shared_pool_reservations` row: the reservation and the columns its
readers do not hand out. -/
structure SharedPoolRow extends SharedPoolReservation where
  isCharge : Bool
  watermarkTs : Option OffsetDateTime
  watermarkMessageIds : Option (List String)
  deriving DecidableEq, Repr

namespace SharedPoolRow

/-- The columns of the unique index. -/
def uniqueKey (r : SharedPoolRow) : PoolId × PrincipalId × String :=
  (r.poolId, r.principalId, r.idempotencyKey)

/-- Everything a row is known by; no update touches it. -/
def ident (r : SharedPoolRow) : SharedPoolReservationId × PoolId × PrincipalId × String :=
  (r.id, r.uniqueKey)

/-- A gateway request's hold, not a recorded charge. -/
def gatewayHold (r : SharedPoolRow) : Bool :=
  decide (r.chargeSource = some .gateway) && !r.isCharge

/-- What the row counts as settled spend of its pool. -/
def settledPart (r : SharedPoolRow) : Nat :=
  if r.state = .settled then r.settledAmount.getD 0 else 0

/-- What the row holds of its pool. -/
def activePart (r : SharedPoolRow) : Nat := if r.state = .active then r.amount else 0

end SharedPoolRow

structure ChargeFloor where
  principalId : PrincipalId
  keyPrefix : String
  total : Nat
  deriving DecidableEq, Repr

structure RetentionHorizon where
  poolPrefix : String
  poolId : PoolId
  deriving DecidableEq, Repr

structure HoldPrompt where
  principalId : PrincipalId
  sessionId : String
  promptId : String
  reservationId : SharedPoolReservationId
  deriving DecidableEq, Repr

def ChargeFloor.key (f : ChargeFloor) : PrincipalId × String := (f.principalId, f.keyPrefix)

def HoldPrompt.key (p : HoldPrompt) : PrincipalId × String × String :=
  (p.principalId, p.sessionId, p.promptId)

structure LedgerStore where
  quotaPools : Table QuotaPool QuotaPool.poolId
  reservations : Table SharedPoolRow (fun r => r.id)
  uniqueKeys : (reservations.rows.map SharedPoolRow.uniqueKey).Nodup
  pooled : ∀ r ∈ reservations, ∃ pool ∈ quotaPools, pool.poolId = r.poolId
  snapshots : Table PoolProviderSnapshot PoolProviderSnapshot.poolId
  chargeFloor : Table ChargeFloor ChargeFloor.key
  retentionHorizon : Table RetentionHorizon RetentionHorizon.poolPrefix
  holdPrompts : Table HoldPrompt HoldPrompt.key

namespace LedgerStore

def empty : LedgerStore where
  quotaPools := .empty
  reservations := .empty
  uniqueKeys := List.nodup_nil
  pooled := by
    intro r mem
    cases mem
  snapshots := .empty
  chargeFloor := .empty
  retentionHorizon := .empty
  holdPrompts := .empty

/-! ## Row writes -/

/-- `INSERT` into `shared_pool_reservations`. -/
def insertReservation (s : LedgerStore) (row : SharedPoolRow) : Except LedgerError LedgerStore :=
  if taken : row.uniqueKey ∈ s.reservations.rows.map SharedPoolRow.uniqueKey then
    .error .constraint
  else
    match inserted : s.reservations.insert? row, found : s.quotaPools.find? row.poolId with
    | some reservations, some pool => .ok
        { s with
          reservations
          uniqueKeys := by
            rw [((Table.insert?_eq_some_iff _ _ _).mp inserted).2]
            exact nodup_map_concat s.uniqueKeys taken
          pooled := by
            intro r mem
            rcases (Table.mem_insert? inserted r).mp mem with old | rfl
            · exact s.pooled r old
            · exact ⟨pool, (Table.find?_eq_some_iff _ _ _).mp found⟩ }
    | _, _ => .error .constraint

/-- `UPDATE` of `shared_pool_reservations`. -/
def updateReservations (s : LedgerStore) (f : SharedPoolRow → SharedPoolRow)
    (keeps : ∀ r, (f r).ident = r.ident) : LedgerStore :=
  { s with
    reservations := s.reservations.update f fun r => congrArg Prod.fst (keeps r)
    uniqueKeys := by
      have same : SharedPoolRow.uniqueKey ∘ f = SharedPoolRow.uniqueKey :=
        funext fun r => congrArg Prod.snd (keeps r)
      simp only [Table.update, List.map_map, same]
      exact s.uniqueKeys
    pooled := by
      intro r' mem
      obtain ⟨r, was, rfl⟩ := (Table.mem_update _ _ _ _).mp mem
      have same : (f r).poolId = r.poolId := congrArg (fun ident => ident.2.1) (keeps r)
      rw [same]
      exact s.pooled r was }

/-- `DELETE` from `shared_pool_reservations`. -/
def deleteReservations (s : LedgerStore) (p : SharedPoolRow → Bool) : LedgerStore :=
  { s with
    reservations := s.reservations.delete p
    uniqueKeys := s.uniqueKeys.sublist (List.filter_sublist.map SharedPoolRow.uniqueKey)
    pooled := by
      intro r mem
      exact s.pooled r ((Table.mem_delete _ _ _).mp mem).1 }

theorem ident_ite {p : SharedPoolRow → Prop} [DecidablePred p] {f : SharedPoolRow → SharedPoolRow}
    (keeps : ∀ r, (f r).ident = r.ident) (r : SharedPoolRow) :
    (if p r then f r else r).ident = r.ident := by
  split
  · exact keeps r
  · rfl

/-- `UPDATE ... WHERE id = ?`. -/
def updateReservation (s : LedgerStore) (id : SharedPoolReservationId)
    (f : SharedPoolRow → SharedPoolRow) (keeps : ∀ r, (f r).ident = r.ident) : LedgerStore :=
  s.updateReservations (fun r => if r.id = id then f r else r) (ident_ite keeps)

/-- `UPDATE ... WHERE p`. -/
def updateWhere (s : LedgerStore) (p : SharedPoolRow → Bool)
    (f : SharedPoolRow → SharedPoolRow) (keeps : ∀ r, (f r).ident = r.ident) : LedgerStore :=
  s.updateReservations (fun r => if p r then f r else r) (ident_ite keeps)

@[simp] theorem updateReservations_reservations (s : LedgerStore)
    (f : SharedPoolRow → SharedPoolRow) (keeps : ∀ r, (f r).ident = r.ident) :
    (s.updateReservations f keeps).reservations =
      s.reservations.update f fun r => congrArg Prod.fst (keeps r) := rfl

theorem updateWhere_reservations (s : LedgerStore) (p : SharedPoolRow → Bool)
    (f : SharedPoolRow → SharedPoolRow) (keeps : ∀ r, (f r).ident = r.ident) :
    (s.updateWhere p f keeps).reservations = s.reservations.update (fun r => if p r then f r else r)
      fun r => congrArg Prod.fst (ident_ite (p := fun r => p r = true) keeps r) := rfl

theorem mem_updateReservations (s : LedgerStore) (f : SharedPoolRow → SharedPoolRow)
    (keeps : ∀ r, (f r).ident = r.ident) (r' : SharedPoolRow) :
    r' ∈ (s.updateReservations f keeps).reservations ↔ ∃ r ∈ s.reservations, f r = r' :=
  Table.mem_update s.reservations f (fun r => congrArg Prod.fst (keeps r)) r'

theorem insertReservation_ok {s s' : LedgerStore} {row : SharedPoolRow}
    (done : s.insertReservation row = .ok s') :
    s.reservations.insert? row = some s'.reservations ∧
      (∀ r ∈ s.reservations, r.uniqueKey ≠ row.uniqueKey) ∧
      s'.quotaPools = s.quotaPools ∧ s'.snapshots = s.snapshots ∧
      s'.chargeFloor = s.chargeFloor ∧ s'.retentionHorizon = s.retentionHorizon ∧
      s'.holdPrompts = s.holdPrompts := by
  unfold insertReservation at done
  split at done
  · cases done
  · rename_i free
    split at done
    · rename_i table pool inserted found
      cases done
      refine ⟨inserted, ?_, rfl, rfl, rfl, rfl, rfl⟩
      intro r mem same
      exact free (same ▸ List.mem_map_of_mem mem)
    · cases done

/-! ## Lookups -/

def getSharedReservation (s : LedgerStore) (id : SharedPoolReservationId) : Option SharedPoolRow :=
  s.reservations.find? id

/-- The row of `(pool_id, principal_id, idempotency_key)`. -/
def findByKey (s : LedgerStore) (poolId : PoolId) (principalId : PrincipalId) (key : String) :
    Option SharedPoolRow :=
  s.reservations.rows.find? fun r => r.uniqueKey = (poolId, principalId, key)

def quotaPool (s : LedgerStore) (poolId : PoolId) : Option QuotaPool := s.quotaPools.find? poolId

theorem findByKey_some {s : LedgerStore} {poolId : PoolId} {principalId : PrincipalId}
    {key : String} {r : SharedPoolRow} (found : s.findByKey poolId principalId key = some r) :
    r ∈ s.reservations ∧ r.uniqueKey = (poolId, principalId, key) :=
  ⟨List.mem_of_find?_eq_some found, by simpa using List.find?_some found⟩

theorem findByKey_none {s : LedgerStore} {poolId : PoolId} {principalId : PrincipalId}
    {key : String} (absent : s.findByKey poolId principalId key = none) (r : SharedPoolRow)
    (mem : r ∈ s.reservations) : r.uniqueKey ≠ (poolId, principalId, key) := by
  simpa using List.find?_eq_none.mp absent r mem

/-! ## Sums -/

/-- SQLite's integer `SUM`: fails on overflow. -/
def sqlSum (xs : List Nat) : Except LedgerError Nat :=
  if xs.sum ≤ i64Max then .ok xs.sum else .error .integerOverflow

/-- The SQL sum, or the saturating loop when it overflows. -/
def saturatingAmountSum (xs : List Nat) : Nat :=
  match sqlSum xs with
  | .ok total => total
  | .error _ => xs.foldl (fun total x => min (total + x) u64Max) 0

theorem foldl_saturating (xs : List Nat) (start : Nat) (le : start ≤ u64Max) :
    xs.foldl (fun total x => min (total + x) u64Max) start = min (start + xs.sum) u64Max := by
  induction xs generalizing start with
  | nil => simp [le]
  | cons x xs ih =>
      rw [List.foldl_cons, ih _ (Nat.min_le_right _ _), List.sum_cons]
      omega

/-- The code's sum is the mathematical one, saturated at `u64::MAX`. -/
theorem saturatingAmountSum_eq (xs : List Nat) : saturatingAmountSum xs = min xs.sum u64Max := by
  have := i64Max_lt_u64Max
  unfold saturatingAmountSum sqlSum
  split
  · rename_i total summed
    split at summed
    · cases summed
      omega
    · cases summed
  · rw [foldl_saturating xs 0 (Nat.zero_le _), Nat.zero_add]

/-- Settled spend of a pool, as a mathematical sum. -/
def settled (s : LedgerStore) (poolId : PoolId) : Nat :=
  s.reservations.sum fun r => if r.poolId = poolId then r.settledPart else 0

/-- Held capacity of a pool, as a mathematical sum. -/
def active (s : LedgerStore) (poolId : PoolId) : Nat :=
  s.reservations.sum fun r => if r.poolId = poolId then r.activePart else 0

/-- The column a `SELECT` over one pool and one state returns. -/
def amountColumn (s : LedgerStore) (poolId : PoolId) (state : ReservationState)
    (column : SharedPoolRow → Nat) : List Nat :=
  (s.reservations.rows.filter fun r => r.poolId = poolId ∧ r.state = state).map column

/-- The pool's settled and active figures as an admission reads them. -/
def settledAndActive (s : LedgerStore) (poolId : PoolId) : Nat × Nat :=
  (saturatingAmountSum (s.amountColumn poolId .settled fun r => r.settledAmount.getD 0),
    saturatingAmountSum (s.amountColumn poolId .active fun r => r.amount))

theorem amountColumn_settled_sum (s : LedgerStore) (poolId : PoolId) :
    (s.amountColumn poolId .settled fun r => r.settledAmount.getD 0).sum = s.settled poolId := by
  rw [amountColumn, sum_map_filter, settled, Table.sum]
  congr 2
  funext r
  simp only [SharedPoolRow.settledPart, ite_and]

theorem amountColumn_active_sum (s : LedgerStore) (poolId : PoolId) :
    (s.amountColumn poolId .active fun r => r.amount).sum = s.active poolId := by
  rw [amountColumn, sum_map_filter, active, Table.sum]
  congr 2
  funext r
  simp only [SharedPoolRow.activePart, ite_and]

theorem settledAndActive_eq (s : LedgerStore) (poolId : PoolId) :
    s.settledAndActive poolId =
      (min (s.settled poolId) u64Max, min (s.active poolId) u64Max) := by
  rw [settledAndActive, saturatingAmountSum_eq, saturatingAmountSum_eq,
    amountColumn_settled_sum, amountColumn_active_sum]

end LedgerStore

end LibraGovernor
