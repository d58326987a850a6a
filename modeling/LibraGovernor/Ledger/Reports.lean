/-
# LibraGovernor.Ledger.Reports -- executor reports, exports and the limits of their sums

What a pool has settled and holds is added up in five places.  An admission saturates;
the session cap, the executor report and the export sum in SQL, where an integer `SUM`
past `i64` fails, and the export goes on adding in `u64`.

`Accounts` says that no request on the pool fails for its history, and that the executors
of a report come to its totals.  It holds of a store exactly when the sums of every session
and of every group of the export stay within their limits (`accounts_iff_fits`): two
charges of `i64::MAX` by one executor are enough to break it.
-/
import LibraGovernor.Ledger.Queries
import LibraGovernor.Ledger.Transitions
import LibraGovernor.Lib.Grouped
import LibraGovernor.Lib.Run
import Mathlib.Data.List.Sort

namespace LibraGovernor

open Grouping Relational Transaction Transition

set_option autoImplicit false

/-! ## The executor report -/

/-- The executor a row is reported under. -/
structure ExecutorKey where
  principalId : PrincipalId
  sessionId : String
  agentId : Option String
  executorKind : ExecutorKind
  deriving DecidableEq, Repr

/-- `NULL` sorts first. -/
def agentOrder : Option String → Option String → Ordering
  | none, none => .eq
  | none, some _ => .lt
  | some _, none => .gt
  | some a, some b => compare a b

/-- The order of the kinds' texts. -/
def ExecutorKind.textRank : ExecutorKind → Nat
  | .agent => 0
  | .agentAbsent => 1
  | .unattributed => 2

def ExecutorKey.le (a b : ExecutorKey) : Bool :=
  ((compare a.principalId.val b.principalId.val).then <| (compare a.sessionId b.sessionId).then <|
    (agentOrder a.agentId b.agentId).then <|
      compare a.executorKind.textRank b.executorKind.textRank).isLE

structure SharedPoolExecutorUsage extends ExecutorKey where
  used : Nat
  reserved : Nat
  deriving DecidableEq, Repr

structure SharedPoolExecutorReport where
  executors : List SharedPoolExecutorUsage
  totalUsed : Nat
  totalReserved : Nat
  deriving DecidableEq, Repr

def SharedPoolRow.executor (r : SharedPoolRow) : ExecutorKey :=
  ⟨r.principalId, r.sessionId, r.agentId, r.executorKind.getD .unattributed⟩

/-- One row of the report's `SELECT`. -/
def executorUsage (g : ExecutorKey × List SharedPoolRow) :
    Except LedgerError SharedPoolExecutorUsage := do
  let used ← LedgerStore.sqlSum (g.2.map SharedPoolRow.settledPart)
  let reserved ← LedgerStore.sqlSum (g.2.map SharedPoolRow.activePart)
  return { g.1 with used, reserved }

namespace LedgerStore

/-- The rows of a pool. -/
def poolRows (s : LedgerStore) (poolId : PoolId) : List SharedPoolRow :=
  s.reservations.rows.filter fun r => r.poolId = poolId

/-- The rows the executor report reads. -/
def reportedRows (s : LedgerStore) (poolId : PoolId) : List SharedPoolRow :=
  (s.poolRows poolId).filter fun r => r.state = .active ∨ r.state = .settled

def sharedPoolExecutorUsage (s : LedgerStore) (poolId : PoolId) :
    Except LedgerError SharedPoolExecutorReport := do
  let executors ← (grouped SharedPoolRow.executor (s.reportedRows poolId)).mapM executorUsage
  return { executors := executors.insertionSort fun a b => a.toExecutorKey.le b.toExecutorKey
           totalUsed := (s.settledAndActive poolId).1
           totalReserved := (s.settledAndActive poolId).2 }

end LedgerStore

/-! ## The export -/

/-- A failed read, or an addition past `u64::MAX` (a panic where overflow is checked, a
wrapped figure where it is not). -/
inductive ExportError where
  | ledger (e : LedgerError)
  | arithmetic
  deriving DecidableEq, Repr

structure ExportKey where
  sessionId : String
  agentId : Option String
  executorKind : ExecutorKind
  chargeSource : Option ChargeSource
  state : ReservationState
  deriving DecidableEq, Repr

/-- One row of the export's `SELECT`. -/
structure ExportGroup extends ExportKey where
  count : Nat
  amount : Nat
  settled : Nat
  deriving DecidableEq, Repr

structure ChargeSourceTotals where
  used : Nat
  reserved : Nat
  rows : Nat
  deriving DecidableEq, Repr

structure PoolExportExecutor where
  sessionId : String
  agentId : Option String
  executorKind : ExecutorKind
  used : Nat
  reserved : Nat
  rowsSettled : Nat
  rowsActive : Nat
  rowsReleased : Nat
  rowsExpired : Nat
  byChargeSource : List (Option ChargeSource × ChargeSourceTotals)
  deriving DecidableEq, Repr

structure PoolExport where
  poolId : PoolId
  unit : QuotaUnit
  capacity : Nat
  executors : List PoolExportExecutor
  totalUsed : Nat
  totalReserved : Nat
  totalRows : Nat
  deriving DecidableEq, Repr

def SharedPoolRow.exportKey (r : SharedPoolRow) : ExportKey :=
  ⟨r.sessionId, r.agentId, r.executorKind.getD .unattributed, r.chargeSource, r.state⟩

def ExportKey.lane (k : ExportKey) : Lane := ⟨k.sessionId, k.agentId, k.executorKind⟩

/-- The order of the kinds in the source's enumeration. -/
def ExecutorKind.rank : ExecutorKind → Nat
  | .agentAbsent => 0
  | .agent => 1
  | .unattributed => 2

def PoolExportExecutor.le (a b : PoolExportExecutor) : Bool :=
  ((compare a.sessionId b.sessionId).then <| (agentOrder a.agentId b.agentId).then <|
    compare a.executorKind.rank b.executorKind.rank).isLE

/-- The order of the sources' texts; none is `unrecorded`. -/
def sourceRank : Option ChargeSource → Nat
  | some .gateway => 0
  | some .subagentTranscript => 1
  | some .turnHold => 2
  | none => 3

/-- A sum of `u64`s. -/
def sumU64 (xs : List Nat) : Except ExportError Nat :=
  if xs.sum ≤ u64Max then .ok xs.sum else .error .arithmetic

/-- An SQL sum, within the export. -/
def exportSum (xs : List Nat) : Except ExportError Nat :=
  match LedgerStore.sqlSum xs with
  | .ok total => .ok total
  | .error e => .error (.ledger e)

def exportGroup (g : ExportKey × List SharedPoolRow) : Except ExportError ExportGroup := do
  let amount ← exportSum (g.2.map fun r => r.amount)
  let settled ← exportSum (g.2.map fun r => r.settledAmount.getD 0)
  return { g.1 with count := g.2.length, amount, settled }

/-- What a group adds to the settled figures. -/
def ExportGroup.used (g : ExportGroup) : Nat := if g.state = .settled then g.settled else 0

/-- What a group adds to the held figures. -/
def ExportGroup.reserved (g : ExportGroup) : Nat := if g.state = .active then g.amount else 0

def rowsIn (state : ReservationState) (groups : List ExportGroup) : Nat :=
  ((groups.filter fun g => g.state = state).map ExportGroup.count).sum

/-- The totals of one charge source; they add up part of what the executor's own sums do. -/
def sourceTotals (groups : List ExportGroup) : ChargeSourceTotals where
  used := (groups.map ExportGroup.used).sum
  reserved := (groups.map ExportGroup.reserved).sum
  rows := (groups.map ExportGroup.count).sum

def exportExecutor (g : Lane × List ExportGroup) : Except ExportError PoolExportExecutor := do
  let used ← sumU64 (g.2.map ExportGroup.used)
  let reserved ← sumU64 (g.2.map ExportGroup.reserved)
  let bySource := (grouped (fun x : ExportGroup => x.chargeSource) g.2).map fun x =>
    (x.1, sourceTotals x.2)
  return { sessionId := g.1.sessionId
           agentId := g.1.agentId
           executorKind := g.1.executorKind
           used
           reserved
           rowsSettled := rowsIn .settled g.2
           rowsActive := rowsIn .active g.2
           rowsReleased := rowsIn .released g.2
           rowsExpired := rowsIn .expired g.2
           byChargeSource := bySource.insertionSort fun a b => sourceRank a.1 ≤ sourceRank b.1 }

def PoolExportExecutor.rows (e : PoolExportExecutor) : Nat :=
  e.rowsSettled + e.rowsActive + e.rowsReleased + e.rowsExpired

def LedgerStore.sharedPoolExport (s : LedgerStore) (poolId : PoolId) :
    Except ExportError (Option PoolExport) :=
  match s.quotaPool poolId with
  | none => .ok none
  | some pool => do
      let groups ← (grouped SharedPoolRow.exportKey (s.poolRows poolId)).mapM exportGroup
      let found ← (grouped (fun g : ExportGroup => g.lane) groups).mapM exportExecutor
      let executors := found.insertionSort fun a b => a.le b
      let totalUsed ← sumU64 (executors.map PoolExportExecutor.used)
      let totalReserved ← sumU64 (executors.map PoolExportExecutor.reserved)
      return some
        { poolId, unit := pool.unit, capacity := pool.capacity, executors, totalUsed, totalReserved
          totalRows := (executors.map PoolExportExecutor.rows).sum }

/-! ## Within the limits -/

/-- No request on the pool fails for what the pool has accepted, and the executors of its
report come to the report's totals. -/
structure Accounts (s : LedgerStore) (poolId : PoolId) : Prop where
  reserve : ∀ req fresh, req.poolId = poolId → s.reserveShared req fresh ≠ .error .integerOverflow
  metered : ∀ req gate fresh, req.poolId = poolId →
    s.reserveSharedMetered req gate fresh ≠ .error .integerOverflow
  charge : ∀ req fresh, req.poolId = poolId → s.chargeShared req fresh ≠ .error .integerOverflow
  admission : ∀ now source, (s.poolAdmissionFor poolId now source).isSome = (s.quotaPool poolId).isSome
  usage : ∃ report, s.sharedPoolExecutorUsage poolId = .ok report ∧
    (report.executors.map fun e => e.used).foldl (fun total x => min (total + x) u64Max) 0 =
      report.totalUsed ∧
    (report.executors.map fun e => e.reserved).foldl (fun total x => min (total + x) u64Max) 0 =
      report.totalReserved
  exported : ∃ e, s.sharedPoolExport poolId = .ok e

/-- The session a row is of. -/
def SharedPoolRow.session (r : SharedPoolRow) : PrincipalId × String := (r.principalId, r.sessionId)

/-- What each session has settled and holds, and what each group of the export sums, fits `i64`;
what the pool has settled and holds fits `u64`. -/
structure Fits (s : LedgerStore) (poolId : PoolId) : Prop where
  sessionSettled : ∀ k, ((ofKey SharedPoolRow.session k (s.poolRows poolId)).map
    SharedPoolRow.settledPart).sum ≤ i64Max
  sessionActive : ∀ k, ((ofKey SharedPoolRow.session k (s.poolRows poolId)).map
    SharedPoolRow.activePart).sum ≤ i64Max
  groupAmount : ∀ k, ((ofKey SharedPoolRow.exportKey k (s.poolRows poolId)).map
    fun r => r.amount).sum ≤ i64Max
  groupSettled : ∀ k, ((ofKey SharedPoolRow.exportKey k (s.poolRows poolId)).map
    fun r => r.settledAmount.getD 0).sum ≤ i64Max
  settled : s.settled poolId ≤ u64Max
  active : s.active poolId ≤ u64Max

/-! ## The sums -/

theorem sqlSum_ok_iff (xs : List Nat) (total : Nat) :
    LedgerStore.sqlSum xs = .ok total ↔ xs.sum ≤ i64Max ∧ xs.sum = total := by
  unfold LedgerStore.sqlSum
  split
  · rename_i fits
    simp [fits]
  · rename_i fits
    simp [fits]

theorem sqlSum_eq_ok {xs : List Nat} (fits : xs.sum ≤ i64Max) : LedgerStore.sqlSum xs = .ok xs.sum :=
  (sqlSum_ok_iff xs xs.sum).mpr ⟨fits, rfl⟩

theorem sqlSum_eq_error {xs : List Nat} (past : i64Max < xs.sum) :
    LedgerStore.sqlSum xs = .error .integerOverflow := if_neg (not_le.mpr past)

theorem sum_filter_le {α : Type} (xs : List α) (p : α → Bool) (w : α → Nat) :
    ((xs.filter p).map w).sum ≤ (xs.map w).sum :=
  (List.filter_sublist.map w).sum_le_sum fun _ _ => Nat.zero_le _

/-- A sum over some rows of what the others do not contribute to. -/
theorem sum_filter_eq {α : Type} {xs : List α} {p : α → Bool} {w : α → Nat}
    (others : ∀ x ∈ xs, p x = false → w x = 0) : ((xs.filter p).map w).sum = (xs.map w).sum := by
  induction xs with
  | nil => rfl
  | cons x xs ih =>
      have rest := ih fun y mem => others y (List.mem_cons_of_mem x mem)
      cases here : p x with
      | true => rw [List.filter_cons_of_pos here, List.map_cons, List.sum_cons, rest, List.map_cons,
          List.sum_cons]
      | false => rw [List.filter_cons_of_neg (by simp [here]), rest, List.map_cons, List.sum_cons,
          others x List.mem_cons_self here, Nat.zero_add]

namespace LedgerStore

variable {s : LedgerStore} {poolId : PoolId}

theorem poolRows_settled : ((s.poolRows poolId).map SharedPoolRow.settledPart).sum = s.settled poolId := by
  rw [poolRows, sum_map_filter, settled, Table.sum]

theorem poolRows_active : ((s.poolRows poolId).map SharedPoolRow.activePart).sum = s.active poolId := by
  rw [poolRows, sum_map_filter, active, Table.sum]

/-! ## The session cap -/

theorem session_rows (k : PrincipalId × String) :
    (s.reservations.rows.filter fun r => r.poolId = poolId ∧ r.principalId = k.1 ∧ r.sessionId = k.2) =
      ofKey SharedPoolRow.session k (s.poolRows poolId) := by
  rw [ofKey, poolRows, List.filter_filter]
  refine List.filter_congr ?_
  intro r _
  simp only [SharedPoolRow.session, Prod.ext_iff, Bool.decide_and, Bool.and_comm]

/-- A session's sum fails exactly when what it has settled or holds outgrows `i64`. -/
theorem sessionCommitted_overflows (k : PrincipalId × String) :
    s.sessionCommitted poolId k.1 k.2 = .error .integerOverflow ↔
      i64Max < ((ofKey SharedPoolRow.session k (s.poolRows poolId)).map
        SharedPoolRow.activePart).sum ∨
      i64Max < ((ofKey SharedPoolRow.session k (s.poolRows poolId)).map
        SharedPoolRow.settledPart).sum := by
  unfold sessionCommitted
  extract_lets mine
  have own : mine = ofKey SharedPoolRow.session k (s.poolRows poolId) := session_rows k
  clear_value mine
  rw [← own]
  have active : ((mine.filter fun r => r.state = .active).map fun r => r.amount).sum =
      (mine.map SharedPoolRow.activePart).sum := sum_map_filter mine _ _
  have settled : ((mine.filter fun r => r.state = .settled).map fun r => r.settledAmount.getD 0).sum =
      (mine.map SharedPoolRow.settledPart).sum := sum_map_filter mine _ _
  rw [← active, ← settled]
  by_cases held : ((mine.filter fun r => r.state = .active).map fun r => r.amount).sum ≤ i64Max
  · rw [sqlSum_eq_ok held]
    by_cases spent : ((mine.filter fun r => r.state = .settled).map
        fun r => r.settledAmount.getD 0).sum ≤ i64Max
    · rw [sqlSum_eq_ok spent]
      constructor
      · intro failed
        cases failed
      · intro past
        omega
    · rw [sqlSum_eq_error (not_le.mp spent)]
      exact ⟨fun _ => .inr (not_le.mp spent), fun _ => rfl⟩
  · rw [sqlSum_eq_error (not_le.mp held)]
    exact ⟨fun _ => .inl (not_le.mp held), fun _ => rfl⟩

theorem rfc3339_ne_overflow (t : OffsetDateTime) : rfc3339 t ≠ .error .integerOverflow := by
  unfold rfc3339
  split <;> rintro ⟨⟩

theorem checkedI64_ne_overflow (n : Nat) : checkedI64 n ≠ .error .integerOverflow := by
  unfold checkedI64
  split <;> rintro ⟨⟩

theorem resolve_ne_overflow (a : ExecutorAttribution) : a.resolve ≠ .error .integerOverflow := by
  unfold ExecutorAttribution.resolve
  split
  · rintro ⟨⟩
  · refine bind_ne_error ?_ fun kind => ?_
    · unfold ExecutorAttribution.resolveKind
      split <;> rintro ⟨⟩
    · rintro ⟨⟩

theorem insertReservation_ne_overflow (row : SharedPoolRow) :
    s.insertReservation row ≠ .error .integerOverflow := by
  unfold insertReservation
  split
  · rintro ⟨⟩
  · split <;> rintro ⟨⟩

theorem grantHold_ne_overflow (req : SharedPoolReserveRequest) (fresh : SharedPoolReservationId)
    (attribution : ExecutorAttribution) : s.grantHold req fresh attribution ≠ .error .integerOverflow := by
  refine bind_ne_error ?_ fun _ => bind_ne_error (checkedI64_ne_overflow _) fun _ =>
    bind_ne_error (rfc3339_ne_overflow _) fun _ => bind_ne_error (rfc3339_ne_overflow _) fun _ =>
    bind_ne_error (insertReservation_ne_overflow _) fun _ => ?_
  · unfold expiryOf
    split <;> rintro ⟨⟩
  · rintro ⟨⟩

/-- A charge reads saturated sums only. -/
theorem chargeShared_ne_overflow (req : SharedPoolChargeRequest) (fresh : SharedPoolReservationId) :
    s.chargeShared req fresh ≠ .error .integerOverflow := by
  refine bind_ne_error (by rintro ⟨⟩) fun columns => bind_ne_error (resolve_ne_overflow _) fun _ =>
    bind_ne_error (checkedI64_ne_overflow _) fun _ => ?_
  split
  · split <;> rintro ⟨⟩
  · split
    · rintro ⟨⟩
    · split
      · rintro ⟨⟩
      · refine bind_ne_error (rfc3339_ne_overflow _) fun _ =>
          bind_ne_error (insertReservation_ne_overflow _) fun _ => ?_
        rintro ⟨⟩

/-- A reserve fails on a sum only at the session cap. -/
theorem reserveSharedCore_overflow {req : SharedPoolReserveRequest} {metered : Option MeteredGate}
    {fresh : SharedPoolReservationId}
    (failed : s.reserveSharedCore req metered fresh = .error .integerOverflow) :
    (metered.bind MeteredGate.sessionCap).isSome = true ∧
      s.sessionCommitted req.poolId req.principalId req.sessionId = .error .integerOverflow := by
  unfold reserveSharedCore at failed
  rw [bind_eq_error_iff] at failed
  obtain failed | ⟨attribution, -, failed⟩ := failed
  · exact absurd failed (resolve_ne_overflow _)
  split at failed
  · split at failed <;> cases failed
  split at failed
  · cases failed
  split at failed
  · cases failed
  split at failed
  · cases failed
  rw [bind_eq_error_iff] at failed
  obtain failed | ⟨refusal, -, failed⟩ := failed
  · unfold sessionCapRefusal at failed
    split at failed
    · cases failed
    · rename_i cap named
      rw [bind_eq_error_iff] at failed
      obtain failed | ⟨committed, -, failed⟩ := failed
      · rw [named]
        exact ⟨rfl, failed⟩
      · cases failed
  · split at failed
    · cases failed
    · extract_lets admission at failed
      split at failed
      · rw [bind_eq_error_iff] at failed
        obtain failed | ⟨granted, -, failed⟩ := failed
        · exact absurd failed (grantHold_ne_overflow _ _ _)
        · cases failed
      · cases failed

/-! ## A key no row has -/

/-- A text longer than all the given ones. -/
theorem exists_fresh_text (texts : List String) : ∃ text, text ∉ texts := by
  refine ⟨String.ofList (List.replicate ((texts.map String.length).sum + 1) 'k'), ?_⟩
  intro mem
  have le : String.length _ ≤ (texts.map String.length).sum :=
    List.le_sum_of_mem (List.mem_map_of_mem mem)
  rw [String.length_ofList, List.length_replicate] at le
  omega

/-- A session whose sum fails makes a reserve under a cap fail. -/
theorem exists_overflowing_reserve (k : PrincipalId × String) {r : SharedPoolRow}
    (mem : r ∈ s.poolRows poolId)
    (failed : s.sessionCommitted poolId k.1 k.2 = .error .integerOverflow) :
    ∃ req gate fresh, req.poolId = poolId ∧
      s.reserveSharedMetered req gate fresh = .error .integerOverflow := by
  rw [poolRows, List.mem_filter, decide_eq_true_eq] at mem
  obtain ⟨pool, there, own⟩ := s.pooled r mem.1
  have found : s.quotaPool poolId = some pool :=
    (Table.find?_eq_some_iff _ _ _).mpr ⟨there, own.trans mem.2⟩
  obtain ⟨key, free⟩ := exists_fresh_text (s.reservations.rows.map fun r => r.idempotencyKey)
  let req : SharedPoolReserveRequest :=
    { poolId, principalId := k.1, sessionId := k.2, amount := 0, unit := pool.unit
      idempotencyKey := key, now := 0, ttlSecs := 0 }
  refine ⟨req, ⟨some 0, .localConfigured 0⟩, ⟨0⟩, rfl, ?_⟩
  have absent : s.findByKey poolId k.1 key = none := by
    refine List.find?_eq_none.mpr ?_
    intro row listed same
    have taken : row.uniqueKey = (poolId, k.1, key) := of_decide_eq_true same
    refine free ?_
    have last : row.idempotencyKey = key := congrArg (fun u => u.2.2) taken
    exact last ▸ List.mem_map_of_mem listed
  unfold reserveSharedMetered reserveSharedCore
  simp only [req, absent, found, ne_eq, not_true_eq_false, if_false, reserveCapacity, effectiveCapacity,
    sessionCapRefusal, Option.bind_some, failed]
  rfl

/-! ## The report -/

theorem reportedRows_sum {w : SharedPoolRow → Nat}
    (others : ∀ r, r.state ≠ .active → r.state ≠ .settled → w r = 0) :
    ((s.reportedRows poolId).map w).sum = ((s.poolRows poolId).map w).sum := by
  refine sum_filter_eq ?_
  intro r _ outside
  rw [decide_eq_false_iff_not, not_or] at outside
  exact others r outside.1 outside.2

/-- The rows of an executor are rows of its session. -/
theorem executor_sum_le (s : LedgerStore) (poolId : PoolId) (k : ExecutorKey) (w : SharedPoolRow → Nat) :
    ((ofKey SharedPoolRow.executor k (s.reportedRows poolId)).map w).sum ≤
      ((ofKey SharedPoolRow.session (k.principalId, k.sessionId) (s.poolRows poolId)).map w).sum := by
  have sub : (ofKey SharedPoolRow.executor k (s.reportedRows poolId)).Sublist
      (ofKey SharedPoolRow.session (k.principalId, k.sessionId) (s.poolRows poolId)) := by
    have within : ofKey SharedPoolRow.executor k (s.reportedRows poolId) =
        (ofKey SharedPoolRow.session (k.principalId, k.sessionId) (s.poolRows poolId)).filter
          fun r => decide (r.executor = k) && decide (r.state = .active ∨ r.state = .settled) := by
      rw [ofKey, ofKey, reportedRows, List.filter_filter, List.filter_filter]
      refine List.filter_congr ?_
      intro r _
      by_cases own : r.executor = k
      · have session : r.session = (k.principalId, k.sessionId) := by
          rw [← own]
          rfl
        simp [own, session]
      · simp [own]
    rw [within]
    exact List.filter_sublist
  exact (sub.map w).sum_le_sum fun _ _ => Nat.zero_le _

/-- When every session's sums fit, the report is answered and adds up. -/
theorem executorUsage_of_fits
    (settled : ∀ k, ((ofKey SharedPoolRow.session k (s.poolRows poolId)).map
      SharedPoolRow.settledPart).sum ≤ i64Max)
    (active : ∀ k, ((ofKey SharedPoolRow.session k (s.poolRows poolId)).map
      SharedPoolRow.activePart).sum ≤ i64Max) :
    ∃ report, s.sharedPoolExecutorUsage poolId = .ok report ∧
      (report.executors.map fun e => e.used).foldl (fun total x => min (total + x) u64Max) 0 =
        report.totalUsed ∧
      (report.executors.map fun e => e.reserved).foldl (fun total x => min (total + x) u64Max) 0 =
        report.totalReserved := by
  let usage (g : ExecutorKey × List SharedPoolRow) : SharedPoolExecutorUsage :=
    { g.1 with used := (g.2.map SharedPoolRow.settledPart).sum
               reserved := (g.2.map SharedPoolRow.activePart).sum }
  have each : ∀ g ∈ grouped SharedPoolRow.executor (s.reportedRows poolId),
      executorUsage g = .ok (usage g) := by
    intro g mem
    have own := (mem_grouped.mp mem).1
    have used := (executor_sum_le s poolId g.1 SharedPoolRow.settledPart).trans
      (settled _)
    have reserved := (executor_sum_le s poolId g.1 SharedPoolRow.activePart).trans
      (active _)
    rw [← own] at used reserved
    rw [executorUsage, sqlSum_eq_ok used, sqlSum_eq_ok reserved]
    rfl
  have sorted : ∀ (w : SharedPoolExecutorUsage → Nat) (part : SharedPoolRow → Nat),
      (∀ g, w (usage g) = (g.2.map part).sum) →
      (∀ r : SharedPoolRow, r.state ≠ .active → r.state ≠ .settled → part r = 0) →
      (((((grouped SharedPoolRow.executor (s.reportedRows poolId)).map usage).insertionSort
        fun a b => a.toExecutorKey.le b.toExecutorKey).map w).foldl
          (fun total x => min (total + x) u64Max) 0) =
        min ((s.poolRows poolId).map part).sum u64Max := by
    intro w part own others
    have perm := (List.perm_insertionSort (fun a b : SharedPoolExecutorUsage =>
      a.toExecutorKey.le b.toExecutorKey = true)
        ((grouped SharedPoolRow.executor (s.reportedRows poolId)).map usage)).map w
    rw [foldl_saturating _ 0 (Nat.zero_le _), Nat.zero_add, perm.sum_eq, List.map_map,
      ← reportedRows_sum others, ← sum_grouped SharedPoolRow.executor (s.reportedRows poolId) part]
    congr 2
    exact List.map_congr_left fun g _ => own g
  refine ⟨_, by rw [sharedPoolExecutorUsage, mapM_eq_ok each]; rfl, ?_, ?_⟩
  · refine (sorted _ SharedPoolRow.settledPart (fun g => rfl) ?_).trans ?_
    · intro r _ open_
      exact if_neg open_
    · rw [poolRows_settled, settledAndActive_eq]
  · refine (sorted _ SharedPoolRow.activePart (fun g => rfl) ?_).trans ?_
    · intro r closed _
      exact if_neg closed
    · rw [poolRows_active, settledAndActive_eq]

/-! ## The export -/

theorem exportSum_eq_ok {xs : List Nat} (fits : xs.sum ≤ i64Max) : exportSum xs = .ok xs.sum := by
  rw [exportSum, sqlSum_eq_ok fits]

theorem exportSum_ok {xs : List Nat} {total : Nat} (done : exportSum xs = .ok total) :
    xs.sum ≤ i64Max := by
  unfold exportSum at done
  split at done
  · rename_i summed
    exact ((sqlSum_ok_iff _ _).mp summed).1
  · cases done

theorem sumU64_ok_iff (xs : List Nat) (total : Nat) :
    sumU64 xs = .ok total ↔ xs.sum ≤ u64Max ∧ xs.sum = total := by
  unfold sumU64
  split
  · rename_i fits
    simp [fits]
  · rename_i fits
    simp [fits]

/-- The group with its sums. -/
def summed (g : ExportKey × List SharedPoolRow) : ExportGroup :=
  { g.1 with
    count := g.2.length
    amount := (g.2.map fun r => r.amount).sum
    settled := (g.2.map fun r => r.settledAmount.getD 0).sum }

theorem exportGroup_eq_ok {g : ExportKey × List SharedPoolRow}
    (amount : (g.2.map fun r => r.amount).sum ≤ i64Max)
    (settled : (g.2.map fun r => r.settledAmount.getD 0).sum ≤ i64Max) :
    exportGroup g = .ok (summed g) := by
  rw [exportGroup, exportSum_eq_ok amount, exportSum_eq_ok settled]
  rfl

theorem exportGroup_ok {g : ExportKey × List SharedPoolRow} {out : ExportGroup}
    (done : exportGroup g = .ok out) :
    (g.2.map fun r => r.amount).sum ≤ i64Max ∧
      (g.2.map fun r => r.settledAmount.getD 0).sum ≤ i64Max := by
  obtain ⟨amount, first, done⟩ := (bind_eq_ok_iff _ _ _).mp done
  obtain ⟨settled, second, -⟩ := (bind_eq_ok_iff _ _ _).mp done
  exact ⟨exportSum_ok first, exportSum_ok second⟩

theorem exportExecutor_ok {g : Lane × List ExportGroup} {out : PoolExportExecutor}
    (done : exportExecutor g = .ok out) :
    out.used = (g.2.map ExportGroup.used).sum ∧ out.reserved = (g.2.map ExportGroup.reserved).sum := by
  obtain ⟨used, first, done⟩ := (bind_eq_ok_iff _ _ _).mp done
  obtain ⟨reserved, second, done⟩ := (bind_eq_ok_iff _ _ _).mp done
  cases done
  exact ⟨((sumU64_ok_iff _ _).mp first).2.symm, ((sumU64_ok_iff _ _).mp second).2.symm⟩

theorem exportExecutor_eq_ok {g : Lane × List ExportGroup}
    (used : (g.2.map ExportGroup.used).sum ≤ u64Max)
    (reserved : (g.2.map ExportGroup.reserved).sum ≤ u64Max) : ∃ out, exportExecutor g = .ok out := by
  rw [exportExecutor, (sumU64_ok_iff _ _).mpr ⟨used, rfl⟩, (sumU64_ok_iff _ _).mpr ⟨reserved, rfl⟩]
  exact ⟨_, rfl⟩

/-- The groups add up what the rows do, since a group's rows are in one state. -/
theorem groups_sum (s : LedgerStore) (poolId : PoolId) {w : ExportGroup → Nat}
    {part : SharedPoolRow → Nat}
    (own : ∀ k rows, (∀ r ∈ rows, r.state = k.state) → w (summed (k, rows)) = (rows.map part).sum) :
    (((grouped SharedPoolRow.exportKey (s.poolRows poolId)).map summed).map w).sum =
      ((s.poolRows poolId).map part).sum := by
  rw [← sum_grouped SharedPoolRow.exportKey (s.poolRows poolId) part, List.map_map]
  congr 1
  refine List.map_congr_left ?_
  rintro ⟨k, rows⟩ mem
  refine own k rows ?_
  intro r there
  have rows_eq : rows = ofKey SharedPoolRow.exportKey k (s.poolRows poolId) := (mem_grouped.mp mem).1
  rw [rows_eq, ofKey, List.mem_filter, decide_eq_true_eq] at there
  rw [← there.2]
  rfl

theorem groups_used (s : LedgerStore) (poolId : PoolId) :
    (((grouped SharedPoolRow.exportKey (s.poolRows poolId)).map summed).map ExportGroup.used).sum =
      s.settled poolId := by
  rw [← poolRows_settled]
  refine groups_sum s poolId ?_
  intro k rows same
  have parts : rows.map SharedPoolRow.settledPart = rows.map fun r =>
      if k.state = .settled then r.settledAmount.getD 0 else 0 := by
    refine List.map_congr_left ?_
    intro r mem
    rw [SharedPoolRow.settledPart, same r mem]
  rw [parts, ExportGroup.used]
  by_cases closed : k.state = .settled
  · simp [summed, closed]
  · simp [summed, closed]

theorem groups_reserved (s : LedgerStore) (poolId : PoolId) :
    (((grouped SharedPoolRow.exportKey (s.poolRows poolId)).map summed).map ExportGroup.reserved).sum =
      s.active poolId := by
  rw [← poolRows_active]
  refine groups_sum s poolId ?_
  intro k rows same
  have parts : rows.map SharedPoolRow.activePart = rows.map fun r =>
      if k.state = .active then r.amount else 0 := by
    refine List.map_congr_left ?_
    intro r mem
    rw [SharedPoolRow.activePart, same r mem]
  rw [parts, ExportGroup.reserved]
  by_cases live : k.state = .active
  · simp [summed, live]
  · simp [summed, live]

/-- The executors of an export add up what its groups do. -/
theorem executors_sum {groups : List ExportGroup} {found : List PoolExportExecutor}
    (done : (grouped (fun g : ExportGroup => g.lane) groups).mapM exportExecutor = .ok found)
    {w : PoolExportExecutor → Nat} {part : ExportGroup → Nat}
    (own : ∀ g out, exportExecutor g = .ok out → w out = (g.2.map part).sum) :
    (found.map w).sum = (groups.map part).sum := by
  rw [← sum_grouped (fun g : ExportGroup => g.lane) groups part]
  generalize grouped (fun g : ExportGroup => g.lane) groups = lanes at done ⊢
  induction lanes generalizing found with
  | nil =>
      cases done
      rfl
  | cons g lanes ih =>
      rw [List.mapM_cons] at done
      obtain ⟨out, here, done⟩ := (bind_eq_ok_iff _ _ _).mp done
      obtain ⟨rest, there, done⟩ := (bind_eq_ok_iff _ _ _).mp done
      cases done
      rw [List.map_cons, List.sum_cons, List.map_cons, List.sum_cons, own g out here, ih there]

/-- An export is answered exactly when its SQL sums fit `i64` and the pool's fit `u64`. -/
theorem sharedPoolExport_ok_iff (s : LedgerStore) (poolId : PoolId) :
    (∃ e, s.sharedPoolExport poolId = .ok e) ↔
      (∀ k, ((ofKey SharedPoolRow.exportKey k (s.poolRows poolId)).map fun r => r.amount).sum ≤ i64Max) ∧
      (∀ k, ((ofKey SharedPoolRow.exportKey k (s.poolRows poolId)).map
        fun r => r.settledAmount.getD 0).sum ≤ i64Max) ∧
      s.settled poolId ≤ u64Max ∧ s.active poolId ≤ u64Max := by
  cases found : s.quotaPool poolId with
  | none =>
      have empty : s.poolRows poolId = [] := by
        refine List.filter_eq_nil_iff.mpr ?_
        intro r mem own
        obtain ⟨pool, there, same⟩ := s.pooled r mem
        have absent := (Table.find?_eq_none_iff _ _).mp found pool there
        exact absent (same.trans (of_decide_eq_true own))
      rw [← poolRows_settled, ← poolRows_active, sharedPoolExport, found, empty]
      simp [ofKey]
  | some pool =>
      unfold sharedPoolExport
      rw [found]
      constructor
      · rintro ⟨e, done⟩
        obtain ⟨groups, summing, done⟩ := (bind_eq_ok_iff _ _ _).mp done
        obtain ⟨executors, totalling, done⟩ := (bind_eq_ok_iff _ _ _).mp done
        obtain ⟨totalUsed, used, done⟩ := (bind_eq_ok_iff _ _ _).mp done
        obtain ⟨totalReserved, reserved, -⟩ := (bind_eq_ok_iff _ _ _).mp done
        have fits := fun g mem => exportGroup_ok (mapM_ok_mem summing g mem).choose_spec
        have all := (forall_grouped (P := fun rows : List SharedPoolRow =>
          (rows.map fun r => r.amount).sum ≤ i64Max ∧
            (rows.map fun r => r.settledAmount.getD 0).sum ≤ i64Max) (by simp)).mp fits
        have same : groups = (grouped SharedPoolRow.exportKey (s.poolRows poolId)).map summed := by
          have summed_ok := mapM_eq_ok fun g mem => exportGroup_eq_ok (fits g mem).1 (fits g mem).2
          rw [summing] at summed_ok
          exact Except.ok.inj summed_ok
        have sorted := List.perm_insertionSort (fun a b : PoolExportExecutor => a.le b = true) executors
        refine ⟨fun k => (all k).1, fun k => (all k).2, ?_, ?_⟩
        · rw [← groups_used, ← same, ← executors_sum totalling fun g out ok => (exportExecutor_ok ok).1,
            ← (sorted.map _).sum_eq]
          exact ((sumU64_ok_iff _ _).mp used).1
        · rw [← groups_reserved, ← same,
            ← executors_sum totalling fun g out ok => (exportExecutor_ok ok).2,
            ← (sorted.map _).sum_eq]
          exact ((sumU64_ok_iff _ _).mp reserved).1
      · rintro ⟨amounts, settleds, settled, active⟩
        have summing : (grouped SharedPoolRow.exportKey (s.poolRows poolId)).mapM exportGroup =
            .ok ((grouped SharedPoolRow.exportKey (s.poolRows poolId)).map summed) := by
          refine mapM_eq_ok fun g mem => exportGroup_eq_ok ?_ ?_
          · rw [(mem_grouped.mp mem).1]
            exact amounts g.1
          · rw [(mem_grouped.mp mem).1]
            exact settleds g.1
        rw [summing]
        generalize all : (grouped SharedPoolRow.exportKey (s.poolRows poolId)).map summed = groups
        have used := groups_used s poolId
        have reserved := groups_reserved s poolId
        rw [all] at used reserved
        have answered : ∀ g ∈ grouped (fun g : ExportGroup => g.lane) groups,
            ∃ out, exportExecutor g = .ok out := by
          intro g mem
          rw [mem_grouped] at mem
          refine exportExecutor_eq_ok ?_ ?_
          · rw [mem.1]
            exact (sum_filter_le groups _ _).trans (used ▸ settled)
          · rw [mem.1]
            exact (sum_filter_le groups _ _).trans (reserved ▸ active)
        obtain ⟨executors, totalling⟩ := mapM_ok_of_forall answered
        have sorted := List.perm_insertionSort (fun a b : PoolExportExecutor => a.le b = true) executors
        have totalUsed := executors_sum totalling fun g out ok => (exportExecutor_ok ok).1
        have totalReserved := executors_sum totalling fun g out ok => (exportExecutor_ok ok).2
        have one : sumU64 ((executors.insertionSort fun a b => a.le b).map PoolExportExecutor.used) =
            .ok (s.settled poolId) := by
          refine (sumU64_ok_iff _ _).mpr ?_
          rw [(sorted.map _).sum_eq, totalUsed, used]
          exact ⟨settled, rfl⟩
        have two : sumU64 ((executors.insertionSort fun a b => a.le b).map PoolExportExecutor.reserved) =
            .ok (s.active poolId) := by
          refine (sumU64_ok_iff _ _).mpr ?_
          rw [(sorted.map _).sum_eq, totalReserved, reserved]
          exact ⟨active, rfl⟩
        refine ⟨_, (bind_eq_ok_iff _ _ _).mpr ⟨groups, rfl, (bind_eq_ok_iff _ _ _).mpr
          ⟨executors, totalling, (bind_eq_ok_iff _ _ _).mpr ⟨_, one, (bind_eq_ok_iff _ _ _).mpr
            ⟨_, two, rfl⟩⟩⟩⟩⟩

/-! ## Exactly when -/

theorem accounts_of_fits (fits : Fits s poolId) : Accounts s poolId where
  reserve := by
    intro req fresh _ failed
    have capped := (reserveSharedCore_overflow failed).1
    cases capped
  metered := by
    rintro req gate fresh rfl failed
    have past := (sessionCommitted_overflows (req.principalId, req.sessionId)).mp
      (reserveSharedCore_overflow failed).2
    have settled := fits.sessionSettled (req.principalId, req.sessionId)
    have active := fits.sessionActive (req.principalId, req.sessionId)
    omega
  charge := fun req fresh _ => chargeShared_ne_overflow req fresh
  admission := by
    intro now source
    rw [poolAdmissionFor, Option.isSome_map]
  usage := executorUsage_of_fits fits.sessionSettled fits.sessionActive
  exported := (s.sharedPoolExport_ok_iff poolId).mpr
    ⟨fits.groupAmount, fits.groupSettled, fits.settled, fits.active⟩

/-- A session whose sums do not fit has a row. -/
theorem exists_row_of_sum {k : PrincipalId × String} {w : SharedPoolRow → Nat}
    (past : i64Max < ((ofKey SharedPoolRow.session k (s.poolRows poolId)).map w).sum) :
    ∃ r, r ∈ s.poolRows poolId := by
  cases rows : s.poolRows poolId with
  | nil =>
      rw [rows] at past
      simp [ofKey] at past
  | cons r rest => exact ⟨r, List.mem_cons_self⟩

theorem fits_of_accounts (accounts : Accounts s poolId) : Fits s poolId := by
  obtain ⟨groupAmount, groupSettled, settled, active⟩ :=
    (s.sharedPoolExport_ok_iff poolId).mp accounts.exported
  have sessions : ∀ k : PrincipalId × String, s.sessionCommitted poolId k.1 k.2 = .error .integerOverflow →
      ∀ r, r ∉ s.poolRows poolId := by
    intro k failed r mem
    obtain ⟨req, gate, fresh, own, reserve⟩ := exists_overflowing_reserve k mem failed
    exact accounts.metered req gate fresh own reserve
  refine ⟨?_, ?_, groupAmount, groupSettled, settled, active⟩
  · intro k
    by_contra past
    obtain ⟨r, mem⟩ := exists_row_of_sum (not_le.mp past)
    exact sessions k ((sessionCommitted_overflows k).mpr (.inr (not_le.mp past))) r mem
  · intro k
    by_contra past
    obtain ⟨r, mem⟩ := exists_row_of_sum (not_le.mp past)
    exact sessions k ((sessionCommitted_overflows k).mpr (.inl (not_le.mp past))) r mem

end LedgerStore

/-- In every store a run reaches, the pool can be accounted for exactly when its sums fit. -/
theorem accounts_iff_fits (ops : List SharedPoolOp) (poolId : PoolId) :
    Accounts (run SharedPoolOp.apply .empty ops) poolId ↔
      Fits (run SharedPoolOp.apply .empty ops) poolId :=
  ⟨LedgerStore.fits_of_accounts, LedgerStore.accounts_of_fits⟩

/-! ## Poles -/

/-- The largest charge there is, under a key. -/
def largestCharge (key : String) (fresh : SharedPoolReservationId) : SharedPoolOp :=
  .chargeShared
    { poolId := ⟨"pool"⟩, principalId := ⟨"owner"⟩, sessionId := "main", amount := i64Max
      unit := .usdCents, idempotencyKey := key, now := 0, capacitySource := .localConfigured 1000
      usageKnown := true } none fresh

def twoLargest : List SharedPoolOp :=
  [.ensurePool ⟨"pool"⟩ .usdCents 1000 0, largestCharge "a" ⟨1⟩, largestCharge "b" ⟨2⟩]

/-- Two such charges of one session are accepted, and its report fails from then on. -/
theorem two_charges_overflow : ¬ Accounts (run SharedPoolOp.apply .empty twoLargest) ⟨"pool"⟩ := by
  intro accounts
  obtain ⟨report, answered, -⟩ := accounts.usage
  have failed : ((run SharedPoolOp.apply .empty twoLargest).sharedPoolExecutorUsage ⟨"pool"⟩).isOk =
      false := by decide +kernel
  rw [answered] at failed
  cases failed

end LibraGovernor
