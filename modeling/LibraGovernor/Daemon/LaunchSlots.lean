/-
# LibraGovernor.Daemon.LaunchSlots -- no more jobs run than a pool has slots

A launcher sees only answers.  `latestExpiry` is what the last `Start` or `Renewed` of a
launch promised, and `Running` says the promise still stands at an instant and was not given
back.  `Vouched` ties the answers to the rows: the row of a launch is active until the last
promise, or that promise has lapsed, or a release was answered.  A grant keeps the committed
slots within the capacity (`Slots`), so the launches that run are at most that many
(`launch_gate_safe`).

The instants of a run never go back.  A slot that lapsed is swept by whoever asks next.
-/
import LibraGovernor.Daemon.LaunchGate
import LibraGovernor.Ledger.Lifecycle
import LibraGovernor.Lib.Run

namespace LibraGovernor

open Relational Transaction Transition Transaction.Procedure

set_option autoImplicit false

/-! ## A run of the gate -/

structure LaunchCall where
  request : LaunchRequest
  now : OffsetDateTime
  deriving DecidableEq, Repr

abbrev LaunchLog := List (LaunchRequest × LaunchOutcome)

/-- The ledger, the last instant, and every answer given, newest first. -/
structure GateHistory where
  store : LedgerStore
  now : OffsetDateTime
  log : LaunchLog

/-- An error is no answer. -/
def logged (request : LaunchRequest) : Except LedgerError LaunchOutcome → LaunchLog
  | .ok outcome => [(request, outcome)]
  | .error _ => []

def GateHistory.step (launcher : Option LaunchGateConfig) (g : GateHistory) (call : LaunchCall) :
    GateHistory :=
  let done := handleLaunch launcher call.now call.request g.store
  { store := done.2, now := call.now, log := logged call.request done.1 ++ g.log }

/-- The clock of a request is not behind the last one. -/
def Onward (g : GateHistory) (call : LaunchCall) : Prop := g.now ≤ call.now

/-! ## What a launcher was told -/

/-- An admission of the launch was answered with this reservation. -/
def Started (log : LaunchLog) (poolAlias : String) (launch : Uuid) (id : SharedPoolReservationId) :
    Prop :=
  ∃ fresh expiresAt renewEverySecs,
    (LaunchRequest.admission poolAlias launch fresh, LaunchOutcome.start id expiresAt renewEverySecs) ∈ log

instance (log : LaunchLog) (poolAlias : String) (launch : Uuid) (id : SharedPoolReservationId) :
    Decidable (Started log poolAlias launch id) :=
  decidable_of_iff (log.any (fun entry =>
      match entry with
      | (.admission poolAlias' launch' _, .start id' _ _) =>
          decide (poolAlias' = poolAlias ∧ launch' = launch ∧ id' = id)
      | _ => false) = true) (by
    constructor
    · intro found
      obtain ⟨entry, mem, named⟩ := List.any_eq_true.mp found
      split at named
      · rename_i poolAlias' launch' fresh id' expiresAt renewEverySecs
        obtain ⟨rfl, rfl, rfl⟩ := of_decide_eq_true named
        exact ⟨fresh, expiresAt, renewEverySecs, mem⟩
      · cases named
    · rintro ⟨fresh, expiresAt, renewEverySecs, mem⟩
      refine List.any_eq_true.mpr ⟨_, mem, ?_⟩
      exact decide_eq_true ⟨rfl, rfl, rfl⟩)

/-- What one answer promises the launch. -/
def promise (log : LaunchLog) (poolAlias : String) (launch : Uuid) :
    LaunchRequest × LaunchOutcome → Option OffsetDateTime
  | (.admission poolAlias' launch' _, .start _ expiresAt _) =>
      if poolAlias' = poolAlias ∧ launch' = launch then some expiresAt else none
  | (.renew id launch', .renewed expiresAt) =>
      if launch' = launch ∧ Started log poolAlias launch id then some expiresAt else none
  | _ => none

/-- The expiry of the latest `Start` or `Renewed` answer. -/
def latestExpiry (poolAlias : String) (launch : Uuid) : LaunchLog → Option OffsetDateTime
  | [] => none
  | entry :: log => (promise log poolAlias launch entry).or (latestExpiry poolAlias launch log)

/-- A release of the launch's slot was answered `Lost` as released. -/
def Released (log : LaunchLog) (poolAlias : String) (launch : Uuid) : Prop :=
  ∃ id, Started log poolAlias launch id ∧
    (LaunchRequest.release id launch, LaunchOutcome.lost .released) ∈ log

/-- As far as its answers go, the job runs at `t`. -/
def Running (log : LaunchLog) (poolAlias : String) (launch : Uuid) (t : OffsetDateTime) : Prop :=
  (∃ expiresAt, latestExpiry poolAlias launch log = some expiresAt ∧ t < expiresAt) ∧
    ¬ Released log poolAlias launch

/-- The capacity the configuration gives a pool. -/
def capacityOf (launcher : Option LaunchGateConfig) (poolAlias : String) : Nat :=
  ((launcher.bind fun l => l.pool poolAlias).map LaunchPoolConfig.capacity).getD 0

/-! ## Slots -/

theorem poolIdForAlias_inj {a b : String} (same : poolIdForAlias a = poolIdForAlias b) : a = b := by
  have texts := congrArg (fun p : PoolId => p.val.toList) same
  simp only [poolIdForAlias, String.toList_append] at texts
  exact String.toList_inj.mp (List.append_cancel_left texts)

/-- A row that is one slot of the pool, held by the launch. -/
structure SlotRow (poolAlias : String) (launch : Uuid) (r : SharedPoolRow) : Prop where
  poolId : r.poolId = poolIdForAlias poolAlias
  principalId : r.principalId = launchPrincipal
  sessionId : r.sessionId = launch.text
  idempotencyKey : r.idempotencyKey = launch.text
  amount : r.amount = 1
  source : r.chargeSource = none

/-- One launch has one slot of a pool. -/
theorem SlotRow.one {s : LedgerStore} {poolAlias : String} {launch : Uuid} {r r' : SharedPoolRow}
    (mem : r ∈ s.reservations) (mem' : r' ∈ s.reservations) (slot : SlotRow poolAlias launch r)
    (slot' : SlotRow poolAlias launch r') : r = r' := by
  refine eq_of_uniqueKey s mem mem' ?_
  simp only [SharedPoolRow.uniqueKey, slot.poolId, slot'.poolId, slot.principalId, slot'.principalId,
    slot.idempotencyKey, slot'.idempotencyKey]

/-- A row is of one pool and one launch. -/
theorem SlotRow.inj {poolAlias poolAlias' : String} {launch launch' : Uuid} {r : SharedPoolRow}
    (slot : SlotRow poolAlias launch r) (slot' : SlotRow poolAlias' launch' r) :
    poolAlias = poolAlias' ∧ launch = launch' :=
  ⟨poolIdForAlias_inj (slot.poolId.symm.trans slot'.poolId),
    Uuid.text_inj (slot.sessionId.symm.trans slot'.sessionId)⟩

section SlotMoves

variable {poolAlias : String} {launch : Uuid} {r : SharedPoolRow}

theorem SlotRow.expire (slot : SlotRow poolAlias launch r) (now : OffsetDateTime) :
    SlotRow poolAlias launch (r.expire now) :=
  ⟨slot.poolId, slot.principalId, slot.sessionId, slot.idempotencyKey, slot.amount, slot.source⟩

theorem SlotRow.renew (slot : SlotRow poolAlias launch r) (expiresAt : OffsetDateTime) :
    SlotRow poolAlias launch (r.renew expiresAt) :=
  ⟨slot.poolId, slot.principalId, slot.sessionId, slot.idempotencyKey, slot.amount, slot.source⟩

theorem SlotRow.release (slot : SlotRow poolAlias launch r) (now : OffsetDateTime) :
    SlotRow poolAlias launch (r.release now) :=
  ⟨slot.poolId, slot.principalId, slot.sessionId, slot.idempotencyKey, slot.amount, slot.source⟩

/-- A slot is no gateway hold: the sweep frees it. -/
theorem SlotRow.resolveStale (slot : SlotRow poolAlias launch r) (now : OffsetDateTime) :
    LedgerStore.resolveStale now r = r.expire now := by
  have notGateway : r.gatewayHold = false := by
    simp [SharedPoolRow.gatewayHold, slot.source]
  unfold LedgerStore.resolveStale
  rw [if_neg (by rw [notGateway]; decide)]

end SlotMoves

/-- Every row of a launch pool is a slot, its capacity is the configured one, and no more
slots are committed than that. -/
structure Slots (launcher : Option LaunchGateConfig) (s : LedgerStore) : Prop where
  rows : ∀ r ∈ s.reservations, ∀ poolAlias, r.poolId = poolIdForAlias poolAlias →
    ∃ launch, SlotRow poolAlias launch r
  capacity : ∀ pool ∈ s.quotaPools, ∀ poolAlias, pool.poolId = poolIdForAlias poolAlias →
    pool.capacity = capacityOf launcher poolAlias ∧ pool.capacity ≤ i64Max
  fits : ∀ poolAlias, s.committed (poolIdForAlias poolAlias) ≤ capacityOf launcher poolAlias

/-- A pool is only ever added, with the capacity that was asked for. -/
theorem ensurePool_capacity {s s' : LedgerStore} {poolId : PoolId} {unit : QuotaUnit} {capacity : Nat}
    {now : OffsetDateTime} {pool : QuotaPool}
    (done : s.ensurePool poolId unit capacity now = .ok (pool, s')) :
    ∀ pool' ∈ s'.quotaPools, pool' ∈ s.quotaPools ∨
      pool'.poolId = poolId ∧ pool'.capacity = capacity ∧ capacity ≤ i64Max := by
  simp only [LedgerStore.ensurePool, bind_eq_ok_iff] at done
  obtain ⟨stamp, -, kept, checked, done⟩ := done
  have small : capacity ≤ i64Max ∧ kept = capacity := by
    unfold checkedI64 at checked
    split at checked
    · rename_i small
      cases checked
      exact ⟨small, rfl⟩
    · cases checked
  obtain ⟨small, rfl⟩ := small
  split at done
  · cases done
    exact fun _ mem => .inl mem
  · split at done
    · cases done
    · rename_i pools inserted
      cases done
      intro pool' mem
      rcases (Table.mem_insert? inserted pool').mp mem with old | rfl
      · exact .inl old
      · exact .inr ⟨rfl, rfl, small⟩

namespace Slots

variable {launcher : Option LaunchGateConfig} {s s' : LedgerStore}

/-- A ledger the gate has not used. -/
theorem unused (fresh : ∀ pool ∈ s.quotaPools, ∀ poolAlias, pool.poolId ≠ poolIdForAlias poolAlias) :
    Slots launcher s := by
  have none_ : ∀ r ∈ s.reservations, ∀ poolAlias, r.poolId ≠ poolIdForAlias poolAlias := by
    intro r mem poolAlias own
    obtain ⟨pool, there, same⟩ := s.pooled r mem
    exact fresh pool there poolAlias (same.trans own)
  constructor
  · intro r mem poolAlias own
    exact absurd own (none_ r mem poolAlias)
  · intro pool mem poolAlias own
    exact absurd own (fresh pool mem poolAlias)
  · intro poolAlias
    rw [committed_eq, committedIn, Table.sum_eq_zero]
    · exact Nat.zero_le _
    · intro r mem
      exact if_neg (none_ r mem poolAlias)

/-- Rows that keep what makes them slots, and commit no more. -/
theorem moved (slots : Slots launcher s) (pools : s'.quotaPools = s.quotaPools)
    (f : SharedPoolRow → SharedPoolRow) (rows : s'.reservations.rows = s.reservations.rows.map f)
    (keeps : ∀ r ∈ s.reservations, ∀ poolAlias launch, SlotRow poolAlias launch r →
      SlotRow poolAlias launch (f r))
    (poolId : ∀ r, (f r).poolId = r.poolId)
    (commits : ∀ r ∈ s.reservations, (f r).committedPart ≤ r.committedPart) : Slots launcher s' := by
  constructor
  · intro r' mem poolAlias own
    rw [← Table.mem_rows, rows] at mem
    obtain ⟨r, old, rfl⟩ := List.mem_map.mp mem
    obtain ⟨launch, slot⟩ := slots.rows r old poolAlias ((poolId r).symm.trans own)
    exact ⟨launch, keeps r old poolAlias launch slot⟩
  · rw [pools]
    exact slots.capacity
  · intro poolAlias
    refine le_trans ?_ (slots.fits poolAlias)
    rw [committed_eq, committed_eq, committedIn, committedIn, Table.sum, Table.sum, rows, List.map_map]
    refine List.sum_le_sum ?_
    intro r mem
    simp only [Function.comp, poolId r]
    split
    · exact commits r mem
    · exact Nat.le_refl 0

theorem swept (slots : Slots launcher s) (now : OffsetDateTime) :
    Slots launcher (sweptStore now s) := by
  refine slots.moved rfl _ (swept_rows now s) ?_ ?_ ?_
  · intro r _ poolAlias launch slot
    split
    · rw [slot.resolveStale]
      exact slot.expire now
    · exact slot
  · intro r
    split
    · exact resolveStale_poolId now r
    · rfl
  · intro r _
    split
    · rename_i stale
      exact resolveStale_committed stale
    · exact Nat.le_refl _

theorem ensured {poolAlias : String} {l : LaunchGateConfig} {poolCfg : LaunchPoolConfig}
    {now : OffsetDateTime} {pool : QuotaPool} (slots : Slots (some l) s)
    (configured : l.pool poolAlias = some poolCfg)
    (done : s.ensurePool (poolIdForAlias poolAlias) launchUnit poolCfg.capacity now = .ok (pool, s')) :
    Slots (some l) s' := by
  have rows := LedgerStore.ensurePool_reservations done
  constructor
  · rw [rows]
    exact slots.rows
  · intro pool' mem poolAlias' own
    rcases ensurePool_capacity done pool' mem with old | ⟨here, capacity, small⟩
    · exact slots.capacity pool' old poolAlias' own
    · obtain rfl : poolAlias = poolAlias' := poolIdForAlias_inj (here.symm.trans own)
      refine ⟨?_, capacity ▸ small⟩
      rw [capacity, capacityOf, Option.bind_some, configured]
      rfl
  · intro poolAlias'
    rw [committed_eq, rows, ← committed_eq]
    exact slots.fits poolAlias'

/-- A granted slot was free. -/
theorem granted {l : LaunchGateConfig} {poolAlias : String} {launch : Uuid} {now : OffsetDateTime}
    {fresh : SharedPoolReservationId} {row : SharedPoolRow} (slots : Slots launcher s)
    (grant : LedgerStore.GrantedReserve s (slotRequest l poolAlias launch now) none fresh row s') :
    Slots launcher s' ∧ SlotRow poolAlias launch row ∧ row.id = fresh ∧ row.state = .active := by
  obtain ⟨rows, pools, -⟩ := granted_rows grant
  obtain ⟨pool, capacity, found, effective, admits⟩ := grant.admitted
  have slot : SlotRow poolAlias launch row ∧ row.id = fresh ∧ row.state = .active := by
    obtain ⟨attribution, expiresAt, resolved, -, rfl⟩ := grant.row_eq
    cases resolved
    exact ⟨⟨rfl, rfl, rfl, rfl, rfl, rfl⟩, rfl, rfl⟩
  refine ⟨?_, slot⟩
  constructor
  · intro r mem poolAlias' own
    rw [← Table.mem_rows, rows] at mem
    rcases List.mem_append.mp mem with old | last
    · exact slots.rows r old poolAlias' own
    · rw [List.mem_singleton.mp last] at own ⊢
      obtain rfl : poolAlias = poolAlias' := poolIdForAlias_inj (slot.1.poolId.symm.trans own)
      exact ⟨launch, slot.1⟩
  · rw [pools]
    exact slots.capacity
  · intro poolAlias'
    rw [committed_eq, committedIn, Table.sum, rows, List.map_append, List.sum_append, ← Table.sum,
      ← committedIn, ← committed_eq]
    have part : row.committedPart = 1 := by
      simp [SharedPoolRow.committedPart, SharedPoolRow.settledPart, SharedPoolRow.activePart,
        slot.2.2, slot.1.amount]
    by_cases here : row.poolId = poolIdForAlias poolAlias'
    · obtain rfl : poolAlias = poolAlias' := poolIdForAlias_inj (slot.1.poolId.symm.trans here)
      obtain ⟨there, own⟩ := (Table.find?_eq_some_iff _ _ _).mp found
      obtain ⟨configured, small⟩ := slots.capacity pool there poolAlias own
      have enough := PoolAdmission.admits_sound admits
      cases effective
      simp only [LedgerStore.admissionAt, LedgerStore.settledAndActive_eq, slotRequest] at enough
      have wide := i64Max_lt_u64Max
      simp only [List.map_cons, List.map_nil, List.sum_cons, List.sum_nil, if_pos here, part,
        LedgerStore.committed]
      omega
    · simp only [List.map_cons, List.map_nil, List.sum_cons, List.sum_nil, if_neg here]
      exact slots.fits poolAlias'

/-- Rewriting one row that keeps what makes it a slot. -/
theorem updated (slots : Slots launcher s) {id : SharedPoolReservationId}
    (f : SharedPoolRow → SharedPoolRow) (ident : ∀ r, (f r).ident = r.ident)
    (keeps : ∀ r, ∀ poolAlias launch, SlotRow poolAlias launch r → SlotRow poolAlias launch (f r))
    (commits : ∀ r ∈ s.reservations, r.id = id → (f r).committedPart ≤ r.committedPart) :
    Slots launcher (s.updateReservation id f ident) := by
  refine slots.moved rfl (fun r => if r.id = id then f r else r) rfl ?_ ?_ ?_
  · intro r _ poolAlias launch slot
    split
    · exact keeps r poolAlias launch slot
    · exact slot
  · intro r
    split
    · exact congrArg (fun i => i.2.1) (ident r)
    · rfl
  · intro r mem
    split
    · rename_i here
      exact commits r mem here
    · exact Nat.le_refl _

end Slots

/-! ## Answers and rows -/

/-- The row behind a promise: active until then, lapsed, or given back. -/
def Standing (now : OffsetDateTime) (log : LaunchLog) (poolAlias : String) (launch : Uuid)
    (expiresAt : OffsetDateTime) (r : SharedPoolRow) : Prop :=
  (r.state = .active ∧ r.expiresAt = expiresAt) ∨ (r.state = .expired ∧ expiresAt ≤ now) ∨
    (r.state = .released ∧ Released log poolAlias launch)

/-- Every start names the row of its launch, and every promise has its row. -/
structure Vouched (now : OffsetDateTime) (log : LaunchLog) (s : LedgerStore) : Prop where
  starts : ∀ poolAlias launch id, Started log poolAlias launch id →
    ∃ r ∈ s.reservations, r.id = id ∧ SlotRow poolAlias launch r
  latest : ∀ poolAlias launch expiresAt, latestExpiry poolAlias launch log = some expiresAt →
    ∃ r ∈ s.reservations, SlotRow poolAlias launch r ∧ Started log poolAlias launch r.id ∧
      Standing now log poolAlias launch expiresAt r

theorem Started.cons {log : LaunchLog} {poolAlias : String} {launch : Uuid}
    {id : SharedPoolReservationId} (entry : LaunchRequest × LaunchOutcome)
    (started : Started log poolAlias launch id) : Started (entry :: log) poolAlias launch id := by
  obtain ⟨fresh, expiresAt, renewEverySecs, mem⟩ := started
  exact ⟨fresh, expiresAt, renewEverySecs, List.mem_cons_of_mem entry mem⟩

theorem Standing.cons {now : OffsetDateTime} {log : LaunchLog} {poolAlias : String} {launch : Uuid}
    {expiresAt : OffsetDateTime} {r : SharedPoolRow} (entry : LaunchRequest × LaunchOutcome)
    (standing : Standing now log poolAlias launch expiresAt r) :
    Standing now (entry :: log) poolAlias launch expiresAt r := by
  refine standing.imp_right (Or.imp_right ?_)
  rintro ⟨state, id, started, mem⟩
  exact ⟨state, id, started.cons entry, List.mem_cons_of_mem entry mem⟩

/-- An answer that neither starts nor renews. -/
def Idle (entry : LaunchRequest × LaunchOutcome) : Prop :=
  (∀ id expiresAt renewEverySecs, entry.2 ≠ .start id expiresAt renewEverySecs) ∧
    ∀ expiresAt, entry.2 ≠ .renewed expiresAt

theorem Idle.promise {entry : LaunchRequest × LaunchOutcome} (idle : Idle entry) (log : LaunchLog)
    (poolAlias : String) (launch : Uuid) : promise log poolAlias launch entry = none := by
  unfold LibraGovernor.promise
  split
  · exact absurd rfl (idle.1 _ _ _)
  · exact absurd rfl (idle.2 _)
  · rfl

namespace Vouched

variable {now now' : OffsetDateTime} {log : LaunchLog} {s s' : LedgerStore}

theorem nil (now : OffsetDateTime) (s : LedgerStore) : Vouched now [] s := by
  constructor
  · rintro poolAlias launch id ⟨fresh, expiresAt, renewEverySecs, mem⟩
    cases mem
  · rintro poolAlias launch expiresAt ⟨⟩

theorem later (vouched : Vouched now log s) (le : now ≤ now') : Vouched now' log s := by
  refine ⟨vouched.starts, ?_⟩
  intro poolAlias launch expiresAt promised
  obtain ⟨r, mem, slot, started, standing⟩ := vouched.latest poolAlias launch expiresAt promised
  refine ⟨r, mem, slot, started, standing.imp_right (Or.imp_left ?_)⟩
  rintro ⟨state, lapsed⟩
  exact ⟨state, lapsed.trans le⟩

theorem grown (vouched : Vouched now log s) (rows : ∀ r ∈ s.reservations, r ∈ s'.reservations) :
    Vouched now log s' := by
  constructor
  · intro poolAlias launch id started
    obtain ⟨r, mem, slot⟩ := vouched.starts poolAlias launch id started
    exact ⟨r, rows r mem, slot⟩
  · intro poolAlias launch expiresAt promised
    obtain ⟨r, mem, slot⟩ := vouched.latest poolAlias launch expiresAt promised
    exact ⟨r, rows r mem, slot⟩

theorem idle (vouched : Vouched now log s) {entry : LaunchRequest × LaunchOutcome} (quiet : Idle entry) :
    Vouched now (entry :: log) s := by
  constructor
  · rintro poolAlias launch id ⟨fresh, expiresAt, renewEverySecs, mem⟩
    rcases List.mem_cons.mp mem with rfl | old
    · exact absurd rfl (quiet.1 _ _ _)
    · exact vouched.starts poolAlias launch id ⟨fresh, expiresAt, renewEverySecs, old⟩
  · intro poolAlias launch expiresAt promised
    rw [latestExpiry, quiet.promise, Option.none_or] at promised
    obtain ⟨r, mem, slot, started, standing⟩ := vouched.latest poolAlias launch expiresAt promised
    exact ⟨r, mem, slot, started.cons entry, standing.cons entry⟩

/-- The launch's own active row is what a start is answered with. -/
theorem start (vouched : Vouched now log s) {poolAlias : String} {launch : Uuid} {r : SharedPoolRow}
    (mem : r ∈ s.reservations) (slot : SlotRow poolAlias launch r) (active : r.state = .active)
    (fresh : SharedPoolReservationId) (renewEverySecs : Nat) :
    Vouched now ((.admission poolAlias launch fresh, .start r.id r.expiresAt renewEverySecs) :: log) s := by
  constructor
  · rintro poolAlias' launch' id ⟨fresh', expiresAt', renewEverySecs', mem'⟩
    rcases List.mem_cons.mp mem' with same | old
    · cases same
      exact ⟨r, mem, rfl, slot⟩
    · exact vouched.starts poolAlias' launch' id ⟨fresh', expiresAt', renewEverySecs', old⟩
  · intro poolAlias' launch' expiresAt' promised
    rw [latestExpiry, promise] at promised
    split at promised
    · rename_i own
      obtain ⟨rfl, rfl⟩ := own
      cases promised
      exact ⟨r, mem, slot, ⟨_, _, _, List.mem_cons_self⟩, .inl ⟨active, rfl⟩⟩
    · rw [Option.none_or] at promised
      obtain ⟨r', mem', slot', started, standing⟩ :=
        vouched.latest poolAlias' launch' expiresAt' promised
      exact ⟨r', mem', slot', started.cons _, standing.cons _⟩

/-- Rows that move to rows of the same launch, with their promises. -/
theorem moved (vouched : Vouched now log s) {f : SharedPoolRow → SharedPoolRow}
    (rows : s'.reservations.rows = s.reservations.rows.map f) (id : ∀ r, (f r).id = r.id)
    (keeps : ∀ r ∈ s.reservations, ∀ poolAlias launch, SlotRow poolAlias launch r →
      SlotRow poolAlias launch (f r))
    (stands : ∀ r ∈ s.reservations, ∀ poolAlias launch expiresAt, SlotRow poolAlias launch r →
      Started log poolAlias launch r.id → Standing now log poolAlias launch expiresAt r →
      Standing now' log poolAlias launch expiresAt (f r)) : Vouched now' log s' := by
  have mem_moved : ∀ r ∈ s.reservations, f r ∈ s'.reservations := by
    intro r mem
    rw [← Table.mem_rows, rows]
    exact List.mem_map_of_mem mem
  constructor
  · intro poolAlias launch id' started
    obtain ⟨r, mem, here, slot⟩ := vouched.starts poolAlias launch id' started
    exact ⟨f r, mem_moved r mem, (id r).trans here, keeps r mem poolAlias launch slot⟩
  · intro poolAlias launch expiresAt promised
    obtain ⟨r, mem, slot, started, standing⟩ := vouched.latest poolAlias launch expiresAt promised
    refine ⟨f r, mem_moved r mem, keeps r mem poolAlias launch slot, (id r).symm ▸ started, ?_⟩
    exact stands r mem poolAlias launch expiresAt slot started standing

/-- A sweep lapses exactly the promises whose time has passed. -/
theorem swept (vouched : Vouched now log s) (le : now ≤ now') : Vouched now' log (sweptStore now' s) := by
  refine vouched.moved (swept_rows now' s) ?_ ?_ ?_
  · intro r
    split
    · exact congrArg Prod.fst (LedgerStore.resolveStale_ident now' r)
    · rfl
  · intro r _ poolAlias launch slot
    split
    · rw [slot.resolveStale]
      exact slot.expire now'
    · exact slot
  · intro r _ poolAlias launch expiresAt slot _ standing
    split
    · rename_i stale
      obtain ⟨active, past⟩ := of_decide_eq_true stale
      rw [slot.resolveStale]
      rcases standing with ⟨-, promised⟩ | ⟨state, -⟩ | ⟨state, -⟩
      · exact .inr (.inl ⟨rfl, promised ▸ past⟩)
      · rw [active] at state
        cases state
      · rw [active] at state
        cases state
    · refine standing.imp_right (Or.imp_left ?_)
      rintro ⟨state, lapsed⟩
      exact ⟨state, lapsed.trans le⟩

/-- A renewal moves the promise of the launch that asked, and no other. -/
theorem renew (vouched : Vouched now log s) {id : SharedPoolReservationId} {launch : Uuid}
    {row : SharedPoolRow} (found : s.getSharedReservation id = some row)
    (session : row.sessionId = launch.text) (active : row.state = .active)
    (expiresAt : OffsetDateTime) :
    Vouched now ((.renew id launch, .renewed expiresAt) :: log)
      (s.updateReservation id (SharedPoolRow.renew expiresAt) fun _ => rfl) := by
  obtain ⟨there, here⟩ := (Table.find?_eq_some_iff _ _ _).mp found
  have mem_moved : ∀ r ∈ s.reservations, (if r.id = id then r.renew expiresAt else r) ∈
      (s.updateReservation id (SharedPoolRow.renew expiresAt) fun _ => rfl).reservations := by
    intro r mem
    exact (LedgerStore.mem_updateReservations _ _ _ _).mpr ⟨r, mem, rfl⟩
  have kept : ∀ r, ∀ poolAlias' launch', SlotRow poolAlias' launch' r →
      SlotRow poolAlias' launch' (if r.id = id then r.renew expiresAt else r) ∧
      (if r.id = id then r.renew expiresAt else r).id = r.id := by
    intro r poolAlias' launch' slot
    split
    · exact ⟨slot.renew expiresAt, rfl⟩
    · exact ⟨slot, rfl⟩
  constructor
  · rintro poolAlias' launch' id' ⟨fresh, expiresAt', renewEverySecs, mem⟩
    rcases List.mem_cons.mp mem with same | old
    · cases same
    · obtain ⟨r, mem', named, slot⟩ := vouched.starts poolAlias' launch' id' ⟨fresh, expiresAt',
        renewEverySecs, old⟩
      obtain ⟨slot', id_eq⟩ := kept r poolAlias' launch' slot
      exact ⟨_, mem_moved r mem', id_eq.trans named, slot'⟩
  · intro poolAlias' launch' expiresAt' promised
    rw [latestExpiry, promise] at promised
    split at promised
    · rename_i own
      obtain ⟨rfl, started⟩ := own
      cases promised
      obtain ⟨r, mem, named, slot⟩ := vouched.starts poolAlias' launch id started
      obtain rfl : r = row := s.reservations.eq_of_key mem there (named.trans here.symm)
      refine ⟨_, mem_moved r mem, (kept r poolAlias' launch slot).1, ?_, ?_⟩
      · rw [(kept r poolAlias' launch slot).2, named]
        exact started.cons _
      · rw [if_pos named]
        exact .inl ⟨active, rfl⟩
    · rename_i other
      rw [Option.none_or] at promised
      obtain ⟨r, mem, slot, started, standing⟩ :=
        vouched.latest poolAlias' launch' expiresAt' promised
      have elsewhere : r.id ≠ id := by
        intro named
        obtain rfl : r = row := s.reservations.eq_of_key mem there (named.trans here.symm)
        exact other ⟨Uuid.text_inj (session.symm.trans slot.sessionId), named ▸ started⟩
      have same := mem_moved r mem
      rw [if_neg elsewhere] at same
      exact ⟨r, same, slot, started.cons _, standing.cons _⟩

/-- A release gives back the promise of the launch that asked, and no other. -/
theorem release (vouched : Vouched now log s) {id : SharedPoolReservationId} {launch : Uuid}
    {row : SharedPoolRow} (found : s.getSharedReservation id = some row)
    (session : row.sessionId = launch.text) (stamp : OffsetDateTime) :
    Vouched now ((.release id launch, .lost .released) :: log)
      (s.updateReservation id (SharedPoolRow.release stamp) fun _ => rfl) := by
  obtain ⟨there, here⟩ := (Table.find?_eq_some_iff _ _ _).mp found
  have idle : Idle (.release id launch, .lost .released) := ⟨by rintro _ _ _ ⟨⟩, by rintro _ ⟨⟩⟩
  refine (vouched.idle idle).moved (f := fun r => if r.id = id then r.release stamp else r) rfl ?_ ?_ ?_
  · intro r
    split
    · rfl
    · rfl
  · intro r _ poolAlias' launch' slot
    split
    · exact slot.release stamp
    · exact slot
  · intro r mem poolAlias' launch' expiresAt slot started standing
    split
    · rename_i named
      obtain rfl : r = row := s.reservations.eq_of_key mem there (named.trans here.symm)
      obtain rfl : launch = launch' := Uuid.text_inj (session.symm.trans slot.sessionId)
      exact .inr (.inr ⟨rfl, id, named ▸ started, List.mem_cons_self⟩)
    · exact standing

end Vouched

/-! ## One request -/

/-- What holds of the gate between requests. -/
structure GateInv (launcher : Option LaunchGateConfig) (now : OffsetDateTime) (log : LaunchLog)
    (s : LedgerStore) : Prop where
  slots : Slots launcher s
  vouched : Vouched now log s

section Steps

variable {launcher : Option LaunchGateConfig} {l : LaunchGateConfig} {now : OffsetDateTime}
variable {log : LaunchLog} {poolAlias : String} {launch : Uuid}
variable {fresh reservationId : SharedPoolReservationId}

/-- The answer to `request` is on the books. -/
abbrev Answered (launcher : Option LaunchGateConfig) (now : OffsetDateTime) (log : LaunchLog)
    (request : LaunchRequest) (answer : Except LedgerError LaunchOutcome) (s : LedgerStore) : Prop :=
  GateInv launcher now (logged request answer ++ log) s

theorem answer_idle {request : LaunchRequest} {outcome : LaunchOutcome} (idle : Idle (request, outcome)) :
    Triple (GateInv launcher now log) (pure outcome : Gate LaunchOutcome)
      (Answered launcher now log request) :=
  fun _ inv => ⟨inv.slots, inv.vouched.idle idle⟩

theorem sweep_inv {request : LaunchRequest} {next : List SharedPoolReservation → Gate LaunchOutcome}
    (rest : ∀ out, Triple (GateInv launcher now log) (next out) (Answered launcher now log request)) :
    Triple (GateInv launcher now log)
      ((Procedure.transact id fun s => s.expireStaleSharedPoolReservations now) >>= next) (Answered launcher now log request) := by
  refine Triple.bind (M := fun _ => GateInv launcher now log) ?_ rest
  refine Triple.transact ?_ ?_
  · intro s out s' inv done
    rw [show s' = sweptStore now s from LedgerStore.expireStaleSharedPoolReservations_ok done]
    exact ⟨inv.slots.swept now, inv.vouched.swept le_rfl⟩
  · intro s e inv _
    exact inv

/-- A reserve hands out the launch's own row. -/
def HandedOut (poolAlias : String) (launch : Uuid) (outcome : CoreReserveOutcome) (s : LedgerStore) :
    Prop :=
  ∀ hold, outcome = .granted hold ∨ outcome = .alreadyGranted hold →
    ∃ r ∈ s.reservations, SlotRow poolAlias launch r ∧ hold = r.toSharedPoolReservation ∧
      (outcome = .granted hold → r.state = .active)

theorem reserve_inv {s s' : LedgerStore} {outcome : CoreReserveOutcome}
    (inv : GateInv launcher now log s)
    (done : s.reserveShared (slotRequest l poolAlias launch now) fresh = .ok (outcome, s')) :
    GateInv launcher now log s' ∧ HandedOut poolAlias launch outcome s' := by
  rcases LedgerStore.reserveSharedCore_ok done with ⟨rfl, notGranted⟩ | ⟨row, rfl, grant⟩
  · refine ⟨inv, ?_⟩
    rintro hold (granted | rfl)
    · exact absurd granted (notGranted hold)
    · obtain ⟨-, row, found, -, rfl⟩ := LedgerStore.reserveSharedCore_alreadyGranted done
      obtain ⟨mem, key⟩ := LedgerStore.findByKey_some found
      obtain ⟨launch', slot⟩ := inv.slots.rows row mem poolAlias (congrArg (fun k => k.1) key)
      obtain rfl : launch' = launch :=
        Uuid.text_inj (slot.idempotencyKey.symm.trans (congrArg (fun k => k.2.2) key))
      exact ⟨row, mem, slot, rfl, by rintro ⟨⟩⟩
  · obtain ⟨slots, slot, -, active⟩ := inv.slots.granted grant
    obtain ⟨rows, -⟩ := granted_rows grant
    have grown : ∀ r ∈ s.reservations, r ∈ s'.reservations := by
      intro r mem
      rw [← Table.mem_rows, rows]
      exact List.mem_append_left _ mem
    refine ⟨⟨slots, inv.vouched.grown grown⟩, ?_⟩
    intro hold handed
    have same : hold = row.toSharedPoolReservation := by
      rcases handed with granted | replayed
      · cases granted
        rfl
      · cases replayed
    refine ⟨row, ?_, slot, same, fun _ => active⟩
    rw [← Table.mem_rows, rows]
    exact List.mem_append_right _ List.mem_cons_self

theorem admitAnswer_inv (outcome : CoreReserveOutcome) :
    Triple (fun s => GateInv launcher now log s ∧ HandedOut poolAlias launch outcome s)
      (admitAnswer l now outcome) (Answered launcher now log (.admission poolAlias launch fresh)) := by
  rintro s ⟨inv, handed⟩
  cases outcome with
  | granted hold =>
      obtain ⟨r, mem, slot, rfl, active⟩ := handed hold (.inl rfl)
      exact ⟨inv.slots, inv.vouched.start mem slot (active rfl) fresh _⟩
  | alreadyGranted hold =>
      obtain ⟨r, mem, slot, rfl, -⟩ := handed hold (.inr rfl)
      unfold admitAnswer
      dsimp only
      split
      · rename_i live
        exact ⟨inv.slots, inv.vouched.start mem slot live.1 fresh _⟩
      · exact ⟨inv.slots, inv.vouched.idle ⟨by rintro _ _ _ ⟨⟩, by rintro _ ⟨⟩⟩⟩
  | insufficient admission requested =>
      exact ⟨inv.slots, inv.vouched.idle ⟨by rintro _ _ _ ⟨⟩, by rintro _ ⟨⟩⟩⟩
  | noPool => exact ⟨inv.slots, inv.vouched.idle ⟨by rintro _ _ _ ⟨⟩, by rintro _ ⟨⟩⟩⟩
  | snapshotUnusable reason => exact inv
  | sessionCapExceeded committed cap requested => exact inv

theorem pool_alias {poolCfg : LaunchPoolConfig} (found : l.pool poolAlias = some poolCfg) :
    poolCfg.poolAlias = poolAlias := by
  unfold LaunchGateConfig.pool at found
  simpa using List.find?_some found

theorem handleAdmit_inv :
    Triple (GateInv launcher now log) (handleAdmit launcher poolAlias launch now fresh)
      (Answered launcher now log (.admission poolAlias launch fresh)) := by
  unfold handleAdmit
  cases launcher with
  | none => exact answer_idle ⟨by rintro _ _ _ ⟨⟩, by rintro _ ⟨⟩⟩
  | some l =>
  dsimp only
  cases found : l.pool poolAlias with
  | none => exact answer_idle ⟨by rintro _ _ _ ⟨⟩, by rintro _ ⟨⟩⟩
  | some poolCfg =>
  dsimp only
  rw [pool_alias found]
  split
  · exact answer_idle ⟨by rintro _ _ _ ⟨⟩, by rintro _ ⟨⟩⟩
  refine Triple.bind (M := fun _ => GateInv (some l) now log) ?_ fun pool => ?_
  · refine Triple.transact ?_ ?_
    · intro s pool s' inv done
      refine ⟨inv.slots.ensured found done, inv.vouched.grown fun r mem => ?_⟩
      rw [LedgerStore.ensurePool_reservations done]
      exact mem
    · intro s e inv _
      exact inv
  split
  · exact answer_idle ⟨by rintro _ _ _ ⟨⟩, by rintro _ ⟨⟩⟩
  refine sweep_inv fun _ => ?_
  refine Triple.bind (M := fun outcome s => GateInv (some l) now log s ∧
    HandedOut poolAlias launch outcome s) ?_ admitAnswer_inv
  refine Triple.transact ?_ ?_
  · intro s outcome s' inv done
    exact reserve_inv inv done
  · intro s e inv _
    exact inv

theorem handleRenew_inv :
    Triple (GateInv launcher now log) (handleRenew launcher reservationId launch now)
      (Answered launcher now log (.renew reservationId launch)) := by
  unfold handleRenew
  cases launcher with
  | none => exact answer_idle ⟨by rintro _ _ _ ⟨⟩, by rintro _ ⟨⟩⟩
  | some l =>
  refine sweep_inv fun _ => ?_
  refine Triple.bind (M := fun outcome s =>
    Answered (some l) now log (.renew reservationId launch) (.ok (renewAnswer outcome)) s) ?_
    fun outcome s inv => inv
  refine Triple.transact ?_ ?_
  · intro s outcome s' inv done
    rcases LedgerStore.renewSharedForPrompt_ok done with
      ⟨rfl, notRenewed⟩ | ⟨row, expiresAt, found, renewable, -, rfl, rfl⟩
    · refine ⟨inv.slots, inv.vouched.idle ?_⟩
      cases outcome with
      | renewed hold => exact absurd rfl (notRenewed hold)
      | notFound => exact ⟨by rintro _ _ _ ⟨⟩, by rintro _ ⟨⟩⟩
      | refused current =>
          simp only [renewAnswer]
          split
          · exact ⟨by rintro _ _ _ ⟨⟩, by rintro _ ⟨⟩⟩
          · exact ⟨by rintro _ _ _ ⟨⟩, by rintro _ ⟨⟩⟩
    · obtain ⟨-, session, active, -⟩ := (LedgerStore.renewable_iff _ _ _ _).mp renewable
      refine ⟨inv.slots.updated (SharedPoolRow.renew expiresAt) (fun _ => rfl)
        (fun r _ _ slot => slot.renew expiresAt) ?_,
        inv.vouched.renew found session active expiresAt⟩
      intro r _ _
      exact Nat.le_refl _
  · intro s e inv _
    exact inv

/-- A release gives an active hold back, or answers with the state it is in. -/
theorem released_cases {s s' : LedgerStore} {current : SharedPoolRow} {outcome : SharedPoolReleaseOutcome}
    (found : s.getSharedReservation reservationId = some current)
    (done : s.releaseShared reservationId now = .ok (outcome, s')) :
    (s' = s ∧ outcome = .alreadyFinal current.toSharedPoolReservation) ∨
      outcome = .released (current.release now).toSharedPoolReservation ∧
        s' = s.updateReservation reservationId (SharedPoolRow.release now) fun _ => rfl := by
  simp only [LedgerStore.releaseShared, found, rfc3339] at done
  split at done
  · simp only [bind_eq_ok_iff] at done
    obtain ⟨stamp, stamped, done⟩ := done
    split at stamped <;> cases stamped
    cases done
    exact .inr ⟨rfl, rfl⟩
  · cases done
    exact .inl ⟨rfl, rfl⟩

theorem handleRelease_inv :
    Triple (GateInv launcher now log) (handleRelease reservationId launch now)
      (Answered launcher now log (.release reservationId launch)) := by
  unfold handleRelease
  refine Triple.read_bind fun found => ?_
  cases found with
  | none =>
      rintro s ⟨inv, -⟩
      exact answer_idle ⟨by rintro _ _ _ ⟨⟩, by rintro _ ⟨⟩⟩ s inv
  | some current =>
  dsimp only
  split
  · rintro s ⟨inv, -⟩
    exact answer_idle ⟨by rintro _ _ _ ⟨⟩, by rintro _ ⟨⟩⟩ s inv
  rename_i own
  refine Triple.bind (M := fun outcome s =>
    Answered launcher now log (.release reservationId launch) (.ok (releaseAnswer outcome)) s) ?_
    fun outcome s inv => inv
  refine Triple.transact ?_ ?_
  · rintro s outcome s' ⟨inv, found⟩ done
    have session : current.sessionId = launch.text := by
      simp only [ownSlot, Bool.and_eq_false_iff, not_or, Bool.not_eq_false, decide_eq_true_eq] at own
      exact own.1.2
    rcases released_cases found done with ⟨rfl, rfl⟩ | ⟨rfl, rfl⟩
    · exact ⟨inv.slots, inv.vouched.idle ⟨by rintro _ _ _ ⟨⟩, by rintro _ ⟨⟩⟩⟩
    · refine ⟨inv.slots.updated (SharedPoolRow.release now) (fun _ => rfl)
        (fun r _ _ slot => slot.release now) ?_,
        inv.vouched.release found session now⟩
      intro r _ _
      simp [SharedPoolRow.committedPart, SharedPoolRow.settledPart, SharedPoolRow.activePart,
        SharedPoolRow.release]
  · rintro s e ⟨inv, -⟩ _
    exact inv

theorem handleStatus_inv :
    Triple (GateInv launcher now log) (handleStatus launcher now) (Answered launcher now log .status) := by
  unfold handleStatus
  cases launcher with
  | none => exact answer_idle ⟨by rintro _ _ _ ⟨⟩, by rintro _ ⟨⟩⟩
  | some l =>
      intro s inv
      exact ⟨inv.slots, inv.vouched.idle ⟨by rintro _ _ _ ⟨⟩, by rintro _ ⟨⟩⟩⟩

theorem step_inv {g : GateHistory} {call : LaunchCall} (inv : GateInv launcher g.now g.log g.store)
    (onward : Onward g call) :
    GateInv launcher (g.step launcher call).now (g.step launcher call).log
      (g.step launcher call).store := by
  have later : GateInv launcher call.now g.log g.store := ⟨inv.slots, inv.vouched.later onward⟩
  unfold GateHistory.step
  cases call.request with
  | admission poolAlias launch fresh => exact handleAdmit_inv g.store later
  | renew id launch => exact handleRenew_inv g.store later
  | release id launch => exact handleRelease_inv g.store later
  | status => exact handleStatus_inv g.store later

end Steps

/-! ## Counting -/

/-- A launch that runs holds an active slot. -/
theorem Running.slot {launcher : Option LaunchGateConfig} {now t : OffsetDateTime} {log : LaunchLog}
    {s : LedgerStore} {poolAlias : String} {launch : Uuid} (inv : GateInv launcher now log s)
    (le : now ≤ t) (running : Running log poolAlias launch t) :
    ∃ r ∈ s.reservations, SlotRow poolAlias launch r ∧ r.state = .active := by
  obtain ⟨⟨expiresAt, promised, before⟩, kept⟩ := running
  obtain ⟨r, mem, slot, -, active | lapsed | back⟩ := inv.vouched.latest poolAlias launch expiresAt promised
  · exact ⟨r, mem, slot, active.1⟩
  · exact absurd (lapsed.2.trans le) (not_le.mpr before)
  · exact absurd back.2 kept

/-- A row that is an active slot of the pool. -/
def takesSlot (poolAlias : String) (r : SharedPoolRow) : Prop :=
  r.poolId = poolIdForAlias poolAlias ∧ r.state = .active

instance (poolAlias : String) : DecidablePred (takesSlot poolAlias) :=
  fun r => inferInstanceAs (Decidable (r.poolId = poolIdForAlias poolAlias ∧ r.state = .active))

theorem Slots.taken_le {launcher : Option LaunchGateConfig} {s : LedgerStore} (slots : Slots launcher s)
    (poolAlias : String) :
    (s.reservations.rows.filter fun r => takesSlot poolAlias r).length ≤ capacityOf launcher poolAlias := by
  refine le_trans ?_ (slots.fits poolAlias)
  have ones := sum_map_filter s.reservations.rows (takesSlot poolAlias) fun _ => 1
  rw [List.map_const', List.sum_replicate, smul_eq_mul, Nat.mul_one] at ones
  rw [ones, committed_eq, committedIn, Table.sum]
  refine List.sum_le_sum ?_
  intro r mem
  by_cases taken : takesSlot poolAlias r
  · obtain ⟨launch, slot⟩ := slots.rows r mem poolAlias taken.1
    rw [if_pos taken, if_pos taken.1]
    simp [SharedPoolRow.committedPart, SharedPoolRow.settledPart, SharedPoolRow.activePart, taken.2,
      slot.amount]
  · rw [if_neg taken]
    exact Nat.zero_le _

/-- Distinct launches that run hold distinct slots. -/
theorem running_le {launcher : Option LaunchGateConfig} {now t : OffsetDateTime} {log : LaunchLog}
    {s : LedgerStore} {poolAlias : String} (inv : GateInv launcher now log s) (le : now ≤ t)
    {launches : List Uuid} (distinct : launches.Nodup)
    (running : ∀ launch ∈ launches, Running log poolAlias launch t) :
    launches.length ≤ capacityOf launcher poolAlias := by
  have keys : (launches.map Uuid.text).Nodup :=
    distinct.map fun _ _ same => Uuid.text_inj same
  have held : launches.map Uuid.text ⊆
      (s.reservations.rows.filter fun r => takesSlot poolAlias r).map fun r => r.idempotencyKey := by
    intro key mem
    obtain ⟨launch, among, rfl⟩ := List.mem_map.mp mem
    obtain ⟨r, there, slot, active⟩ := (running launch among).slot inv le
    refine List.mem_map.mpr ⟨r, List.mem_filter.mpr ⟨there, ?_⟩, slot.idempotencyKey⟩
    exact decide_eq_true ⟨slot.poolId, active⟩
  have count := (keys.subperm held).length_le
  rw [List.length_map, List.length_map] at count
  exact count.trans (inv.slots.taken_le poolAlias)

/-! ## A dead launch stays dead -/

/-- The hold is closed, or its time has passed. -/
def Over (now : OffsetDateTime) (r : SharedPoolRow) : Prop := r.state ≠ .active ∨ r.expiresAt ≤ now

/-- The reservation is over. -/
def Dead (now : OffsetDateTime) (id : SharedPoolReservationId) (s : LedgerStore) : Prop :=
  ∃ r ∈ s.reservations, r.id = id ∧ Over now r

/-- The answer starts or renews the reservation. -/
def grants (id : SharedPoolReservationId) : LaunchRequest × LaunchOutcome → Bool
  | (_, .start id' _ _) => id' = id
  | (.renew id' _, .renewed _) => id' = id
  | _ => false

/-- Dead after the answer, which grants nothing. -/
def StaysDead (now : OffsetDateTime) (id : SharedPoolReservationId) (request : LaunchRequest)
    (answer : Except LedgerError LaunchOutcome) (s : LedgerStore) : Prop :=
  Dead now id s ∧ ∀ entry ∈ logged request answer, grants id entry = false

namespace Dead

variable {now now' : OffsetDateTime} {id : SharedPoolReservationId} {s s' : LedgerStore}

theorem later (dead : Dead now id s) (le : now ≤ now') : Dead now' id s := by
  obtain ⟨r, mem, named, closed⟩ := dead
  exact ⟨r, mem, named, closed.imp_right fun past => past.trans le⟩

theorem closed (dead : Dead now id s) {r : SharedPoolRow} (mem : r ∈ s.reservations) (named : r.id = id) :
    Over now r := by
  obtain ⟨r', mem', named', past⟩ := dead
  rw [s.reservations.eq_of_key mem mem' (named.trans named'.symm)]
  exact past

theorem grown (dead : Dead now id s) (rows : ∀ r ∈ s.reservations, r ∈ s'.reservations) :
    Dead now id s' := by
  obtain ⟨r, mem, named, past⟩ := dead
  exact ⟨r, rows r mem, named, past⟩

theorem moved (dead : Dead now id s) {f : SharedPoolRow → SharedPoolRow}
    (rows : s'.reservations.rows = s.reservations.rows.map f) (ids : ∀ r, (f r).id = r.id)
    (stays : ∀ r, Over now r → Over now (f r)) : Dead now id s' := by
  obtain ⟨r, mem, named, past⟩ := dead
  refine ⟨f r, ?_, (ids r).trans named, stays r past⟩
  rw [← Table.mem_rows, rows]
  exact List.mem_map_of_mem mem

theorem swept (dead : Dead now id s) : Dead now id (sweptStore now s) := by
  refine dead.moved (swept_rows now s) ?_ ?_
  · intro r
    split
    · exact congrArg Prod.fst (LedgerStore.resolveStale_ident now r)
    · rfl
  · intro r past
    split
    · exact .inl (resolveStale_closed now r)
    · exact past

theorem silent {request : LaunchRequest} {outcome : LaunchOutcome} (dead : Dead now id s)
    (none_ : grants id (request, outcome) = false) : StaysDead now id request (.ok outcome) s := by
  refine ⟨dead, ?_⟩
  intro entry mem
  rw [List.mem_singleton.mp mem]
  exact none_

end Dead

section DeadSteps

variable {launcher : Option LaunchGateConfig} {l : LaunchGateConfig} {now : OffsetDateTime}
variable {poolAlias : String} {launch : Uuid} {fresh reservationId dead_ : SharedPoolReservationId}

theorem sweep_dead {request : LaunchRequest} {next : List SharedPoolReservation → Gate LaunchOutcome}
    (rest : ∀ out, Triple (Dead now dead_) (next out) (StaysDead now dead_ request)) :
    Triple (Dead now dead_)
      ((Procedure.transact id fun s => s.expireStaleSharedPoolReservations now) >>= next)
      (StaysDead now dead_ request) := by
  refine Triple.bind (M := fun _ => Dead now dead_) ?_ rest
  refine Triple.transact ?_ ?_
  · intro s out s' dead done
    rw [show s' = sweptStore now s from LedgerStore.expireStaleSharedPoolReservations_ok done]
    exact dead.swept
  · intro s e dead _
    exact ⟨dead, by rintro entry ⟨⟩⟩

/-- A reserve hands out no hold that is over. -/
theorem reserve_dead {s s' : LedgerStore} {outcome : CoreReserveOutcome} (dead : Dead now dead_ s)
    (done : s.reserveShared (slotRequest l poolAlias launch now) fresh = .ok (outcome, s')) :
    Triple (· = s') (admitAnswer l now outcome)
      (StaysDead now dead_ (.admission poolAlias launch fresh)) := by
  rintro s'' rfl
  rcases LedgerStore.reserveSharedCore_ok done with ⟨rfl, notGranted⟩ | ⟨row, rfl, grant⟩
  · cases outcome with
    | granted hold => exact absurd rfl (notGranted hold)
    | alreadyGranted hold =>
        obtain ⟨-, row, found, -, rfl⟩ := LedgerStore.reserveSharedCore_alreadyGranted done
        obtain ⟨mem, -⟩ := LedgerStore.findByKey_some found
        unfold admitAnswer
        dsimp only
        split
        · rename_i live
          refine dead.silent (decide_eq_false ?_)
          intro named
          rcases dead.closed mem named with closed | past
          · exact closed live.1
          · exact absurd past (not_le.mpr live.2)
        · exact dead.silent rfl
    | insufficient admission requested => exact dead.silent rfl
    | noPool => exact dead.silent rfl
    | snapshotUnusable reason => exact ⟨dead, by rintro entry ⟨⟩⟩
    | sessionCapExceeded committed cap requested => exact ⟨dead, by rintro entry ⟨⟩⟩
  · obtain ⟨rows, -⟩ := granted_rows grant
    have grown : ∀ r ∈ s.reservations, r ∈ s''.reservations := by
      intro r mem
      rw [← Table.mem_rows, rows]
      exact List.mem_append_left _ mem
    refine (dead.grown grown).silent (decide_eq_false ?_)
    intro named
    -- The new row's id was free, and the dead reservation has a row.
    obtain ⟨r, mem, here, -⟩ := dead
    obtain ⟨inserted, -⟩ := LedgerStore.insertReservation_ok grant.inserted
    have free := ((Table.insert?_eq_some_iff _ _ _).mp inserted).1
    exact (Table.find?_eq_none_iff _ _).mp free r mem (here.trans named.symm)

theorem handleAdmit_dead :
    Triple (Dead now dead_) (handleAdmit launcher poolAlias launch now fresh)
      (StaysDead now dead_ (.admission poolAlias launch fresh)) := by
  unfold handleAdmit
  cases launcher with
  | none => exact fun s dead => dead.silent rfl
  | some l =>
  dsimp only
  cases found : l.pool poolAlias with
  | none => exact fun s dead => dead.silent rfl
  | some poolCfg =>
  dsimp only
  rw [pool_alias found]
  split
  · exact fun s dead => dead.silent rfl
  refine Triple.bind (M := fun _ => Dead now dead_) ?_ fun pool => ?_
  · refine Triple.transact ?_ ?_
    · intro s pool s' dead done
      refine dead.grown fun r mem => ?_
      rw [LedgerStore.ensurePool_reservations done]
      exact mem
    · intro s e dead _
      exact ⟨dead, by rintro entry ⟨⟩⟩
  split
  · exact fun s dead => dead.silent rfl
  refine sweep_dead fun _ => ?_
  refine Triple.bind (M := fun outcome s' => ∃ s, Dead now dead_ s ∧
    s.reserveShared (slotRequest l poolAlias launch now) fresh = .ok (outcome, s')) ?_ fun outcome => ?_
  · refine Triple.transact ?_ ?_
    · intro s outcome s' dead done
      exact ⟨s, dead, done⟩
    · intro s e dead _
      exact ⟨dead, by rintro entry ⟨⟩⟩
  · rintro s' ⟨s, dead, done⟩
    exact reserve_dead dead done s' rfl

theorem handleRenew_dead :
    Triple (Dead now dead_) (handleRenew launcher reservationId launch now)
      (StaysDead now dead_ (.renew reservationId launch)) := by
  unfold handleRenew
  cases launcher with
  | none => exact fun s dead => dead.silent rfl
  | some l =>
  refine sweep_dead fun _ => ?_
  refine Triple.bind (M := fun outcome s =>
    StaysDead now dead_ (.renew reservationId launch) (.ok (renewAnswer outcome)) s) ?_
    fun outcome s stays => stays
  refine Triple.transact ?_ ?_
  · intro s outcome s' dead done
    rcases LedgerStore.renewSharedForPrompt_ok done with
      ⟨rfl, notRenewed⟩ | ⟨row, expiresAt, found, renewable, -, rfl, rfl⟩
    · refine dead.silent ?_
      cases outcome with
      | renewed hold => exact absurd rfl (notRenewed hold)
      | notFound => rfl
      | refused current =>
          simp only [renewAnswer]
          split
          · rfl
          · rfl
    · obtain ⟨-, -, active, fresh⟩ := (LedgerStore.renewable_iff _ _ _ _).mp renewable
      obtain ⟨mem, here⟩ := (Table.find?_eq_some_iff _ _ _).mp found
      have other : reservationId ≠ dead_ := by
        intro named
        rcases dead.closed mem (here.trans named) with closed | past
        · exact closed active
        · exact absurd past (not_le.mpr fresh)
      refine Dead.silent ?_ (decide_eq_false other)
      obtain ⟨r, there, named, past⟩ := dead
      refine ⟨r, List.mem_map.mpr ⟨r, there, if_neg ?_⟩, named, past⟩
      exact fun same => other (same.symm.trans named)
  · intro s e dead _
    exact ⟨dead, by rintro entry ⟨⟩⟩

theorem handleRelease_dead :
    Triple (Dead now dead_) (handleRelease reservationId launch now)
      (StaysDead now dead_ (.release reservationId launch)) := by
  unfold handleRelease
  refine Triple.read_bind fun found => ?_
  cases found with
  | none => exact fun s dead => dead.1.silent rfl
  | some current =>
  dsimp only
  split
  · exact fun s dead => dead.1.silent rfl
  refine Triple.bind (M := fun outcome s =>
    StaysDead now dead_ (.release reservationId launch) (.ok (releaseAnswer outcome)) s) ?_
    fun outcome s stays => stays
  refine Triple.transact ?_ ?_
  · rintro s outcome s' ⟨dead, found⟩ done
    rcases released_cases found done with ⟨rfl, rfl⟩ | ⟨rfl, rfl⟩
    · exact dead.silent rfl
    · refine Dead.silent (dead.moved (f := fun r => if r.id = reservationId then r.release now else r)
        rfl ?_ ?_) rfl
      · intro r
        split
        · rfl
        · rfl
      · intro r past
        split
        · exact .inl (by rintro ⟨⟩)
        · exact past
  · rintro s e ⟨dead, -⟩ _
    exact ⟨dead, by rintro entry ⟨⟩⟩

theorem step_dead (launcher : Option LaunchGateConfig) {g : GateHistory} {call : LaunchCall} (dead : Dead g.now dead_ g.store)
    (onward : Onward g call) :
    StaysDead call.now dead_ call.request (handleLaunch launcher call.now call.request g.store).1
      (handleLaunch launcher call.now call.request g.store).2 := by
  have later := dead.later onward
  cases call.request with
  | admission poolAlias launch fresh => exact handleAdmit_dead g.store later
  | renew id launch => exact handleRenew_dead g.store later
  | release id launch => exact handleRelease_dead g.store later
  | status =>
      cases launcher with
      | none => exact later.silent rfl
      | some l => exact later.silent rfl

/-- No request of a run answers for a reservation that is over. -/
theorem run_dead {g : GateHistory} (dead : Dead g.now dead_ g.store) {more : List LaunchCall}
    (onward : Along (GateHistory.step launcher) Onward g more) :
    ∃ answers, (run (GateHistory.step launcher) g more).log = answers ++ g.log ∧
      ∀ entry ∈ answers, grants dead_ entry = false := by
  induction more generalizing g with
  | nil => exact ⟨[], rfl, by rintro entry ⟨⟩⟩
  | cons call more ih =>
      obtain ⟨stays, silent⟩ := step_dead launcher dead onward.1
      obtain ⟨answers, log, none_⟩ := ih (g := g.step launcher call) stays onward.2
      refine ⟨answers ++ logged call.request (handleLaunch launcher call.now call.request g.store).1,
        ?_, ?_⟩
      · rw [run, log, List.append_assoc]
        rfl
      · intro entry mem
        rcases List.mem_append.mp mem with later | first
        · exact none_ entry later
        · exact silent entry first

end DeadSteps

/-! ## Requests of others -/

/-- The holds that take a slot at `now`. -/
def LedgerStore.liveHolds (s : LedgerStore) (now : OffsetDateTime) : List SharedPoolRow :=
  s.reservations.rows.filter fun r => r.state = .active ∧ now < r.expiresAt

theorem liveHolds_swept (now : OffsetDateTime) (s : LedgerStore) :
    (sweptStore now s).liveHolds now = s.liveHolds now := by
  unfold LedgerStore.liveHolds
  rw [swept_rows]
  refine filter_map_eq_filter ?_
  intro r _
  by_cases stale : LedgerStore.stale now r = true
  · refine .inr ⟨decide_eq_false ?_, decide_eq_false ?_⟩
    · rw [if_pos stale]
      exact fun live => resolveStale_closed now r live.1
    · exact fun live => absurd (of_decide_eq_true stale).2 (not_le.mpr live.2)
  · exact .inl (if_neg stale)

/-- The launch is not the reservation's own. -/
def ForeignTo (s : LedgerStore) (id : SharedPoolReservationId) (launch : Uuid) : Prop :=
  ∀ r ∈ s.reservations, r.id = id → r.principalId ≠ launchPrincipal ∨ r.sessionId ≠ launch.text

/-- A request that has no slot of its own to change. -/
def Unowned (s : LedgerStore) : LaunchRequest → Prop
  | .admission _ _ _ => False
  | .renew id launch => ForeignTo s id launch
  | .release id launch => ForeignTo s id launch
  | .status => True

/-- A foreign renewal sweeps, and nothing else. -/
theorem handleRenew_foreign (launcher : Option LaunchGateConfig) {now : OffsetDateTime}
    {reservationId : SharedPoolReservationId} {launch : Uuid} {s : LedgerStore}
    (foreign : ForeignTo s reservationId launch) :
    (handleRenew launcher reservationId launch now s).2 = s ∨
      (handleRenew launcher reservationId launch now s).2 = sweptStore now s := by
  have kept : Triple (· = s) (handleRenew launcher reservationId launch now)
      fun _ s' => s' = s ∨ s' = sweptStore now s := by
    unfold handleRenew
    cases launcher with
    | none => exact fun s' same => .inl same
    | some l =>
    refine Triple.bind (M := fun _ s' => s' = sweptStore now s) ?_ fun _ => ?_
    · refine Triple.transact ?_ ?_
      · rintro s' out mid rfl done
        exact LedgerStore.expireStaleSharedPoolReservations_ok done
      · rintro s' e rfl _
        exact .inl rfl
    refine Triple.bind (M := fun _ s' => s' = sweptStore now s) ?_ fun outcome s' same => .inr same
    refine Triple.transact ?_ ?_
    · rintro s' outcome mid rfl done
      rcases LedgerStore.renewSharedForPrompt_ok done with ⟨rfl, -⟩ | ⟨row, expiresAt, found, renewable, -⟩
      · rfl
      · obtain ⟨mine, session, active, -⟩ := (LedgerStore.renewable_iff _ _ _ _).mp renewable
        obtain ⟨mem, here⟩ := (Table.find?_eq_some_iff _ _ _).mp found
        rw [← Table.mem_rows, swept_rows] at mem
        obtain ⟨r, there, rfl⟩ := List.mem_map.mp mem
        by_cases stale : LedgerStore.stale now r = true
        · rw [if_pos stale] at active
          exact absurd active (resolveStale_closed now r)
        · rw [if_neg stale] at mine session here
          rcases foreign r there here with other | other
          · exact absurd mine other
          · exact absurd session other
    · rintro s' e rfl _
      exact .inr rfl
  exact kept s rfl

/-- A foreign release writes nothing. -/
theorem handleRelease_foreign {now : OffsetDateTime} {reservationId : SharedPoolReservationId}
    {launch : Uuid} {s : LedgerStore} (foreign : ForeignTo s reservationId launch) :
    (handleRelease reservationId launch now s).2 = s := by
  unfold handleRelease
  rw [bind_apply]
  cases found : s.getSharedReservation reservationId with
  | none =>
      simp only [Procedure.read, found]
      rfl
  | some current =>
      obtain ⟨mem, here⟩ := (Table.find?_eq_some_iff _ _ _).mp found
      have refused : ownSlot current launch = false := by
        rcases foreign current mem here with other | other
        · simp [ownSlot, other]
        · simp [ownSlot, other]
      simp only [Procedure.read, found, refused, if_true]
      rfl

theorem unowned_keeps (launcher : Option LaunchGateConfig) {g : GateHistory} {call : LaunchCall}
    (unowned : Unowned g.store call.request) :
    (g.step launcher call).store.liveHolds call.now = g.store.liveHolds call.now ∧
      ((∀ id launch, call.request ≠ .renew id launch) → (g.step launcher call).store = g.store) := by
  unfold GateHistory.step
  cases asked : call.request with
  | admission poolAlias launch fresh =>
      rw [asked] at unowned
      cases unowned
  | renew id launch =>
      rw [asked] at unowned
      refine ⟨?_, fun other => absurd rfl (other id launch)⟩
      rcases handleRenew_foreign launcher unowned with same | swept
      · exact congrArg (fun s => LedgerStore.liveHolds s call.now) same
      · exact (congrArg (fun s => LedgerStore.liveHolds s call.now) swept).trans
          (liveHolds_swept call.now g.store)
  | release id launch =>
      rw [asked] at unowned
      have same : (handleRelease id launch call.now g.store).2 = g.store := handleRelease_foreign unowned
      exact ⟨congrArg (fun s => LedgerStore.liveHolds s call.now) same, fun _ => same⟩
  | status =>
      have same : (handleStatus launcher call.now g.store).2 = g.store := by
        cases launcher with
        | none => rfl
        | some l => rfl
      exact ⟨congrArg (fun s => LedgerStore.liveHolds s call.now) same, fun _ => same⟩

/-! ## The gate -/

/-- Over any run of requests at instants that do not go back, on a ledger the gate has not
used: the launches that run at an instant fit the pool, a launch starts on one reservation,
a reservation that is over is never granted again, and a request with no slot of its own
changes none. -/
theorem launch_gate_safe (launcher : Option LaunchGateConfig) (s : LedgerStore) (began : OffsetDateTime)
    (calls : List LaunchCall)
    (unused : ∀ pool ∈ s.quotaPools, ∀ poolAlias, pool.poolId ≠ poolIdForAlias poolAlias)
    (onward : Along (GateHistory.step launcher) Onward ⟨s, began, []⟩ calls) :
    let g := run (GateHistory.step launcher) ⟨s, began, []⟩ calls
    (∀ poolAlias t, g.now ≤ t → ∀ launches : List Uuid, launches.Nodup →
      (∀ launch ∈ launches, Running g.log poolAlias launch t) →
        launches.length ≤ capacityOf launcher poolAlias) ∧
    (∀ poolAlias launch id id', Started g.log poolAlias launch id →
      Started g.log poolAlias launch id' → id = id') ∧
    (∀ id, Dead g.now id g.store → ∀ more, Along (GateHistory.step launcher) Onward g more →
      ∃ answers, (run (GateHistory.step launcher) g more).log = answers ++ g.log ∧
        ∀ entry ∈ answers, grants id entry = false) ∧
    (∀ call, Unowned g.store call.request →
      (g.step launcher call).store.liveHolds call.now = g.store.liveHolds call.now ∧
        ((∀ id launch, call.request ≠ .renew id launch) → (g.step launcher call).store = g.store)) := by
  intro g
  have kept : ∀ (g : GateHistory) (call : LaunchCall), GateInv launcher g.now g.log g.store →
      Onward g call → GateInv launcher (g.step launcher call).now (g.step launcher call).log
        (g.step launcher call).store := fun _ _ inv onward => step_inv inv onward
  have inv : GateInv launcher g.now g.log g.store :=
    run_invariant kept onward ⟨.unused unused, .nil began s⟩
  refine ⟨?_, ?_, ?_, ?_⟩
  · intro poolAlias t le launches distinct running
    exact running_le inv le distinct running
  · intro poolAlias launch id id' started started'
    obtain ⟨r, mem, named, slot⟩ := inv.vouched.starts poolAlias launch id started
    obtain ⟨r', mem', named', slot'⟩ := inv.vouched.starts poolAlias launch id' started'
    rw [← named, ← named', slot.one mem mem' slot']
  · intro id dead more onward
    exact run_dead dead onward
  · intro call unowned
    exact unowned_keeps launcher unowned

/-- One slot, held for a minute. -/
def oneSlot : LaunchGateConfig := ⟨[⟨"build", 1, true⟩], 60⟩

/-- Two launches ask for it; the first is renewed, and the second waits. -/
def contended : List LaunchCall :=
  [⟨.admission "build" 1 ⟨11⟩, 0⟩, ⟨.admission "build" 2 ⟨12⟩, 1⟩, ⟨.renew ⟨11⟩ 1, 2⟩, ⟨.renew ⟨11⟩ 2, 3⟩]

theorem contended_onward :
    Along (GateHistory.step (some oneSlot)) Onward ⟨.empty, 0, []⟩ contended :=
  ⟨show (0 : Int) ≤ 0 by decide, show (0 : Int) ≤ 1 by decide, show (1 : Int) ≤ 2 by decide,
    show (2 : Int) ≤ 3 by decide, trivial⟩

theorem first_runs :
    Running (run (GateHistory.step (some oneSlot)) ⟨.empty, 0, []⟩ contended).log "build" 1 3 := by
  refine ⟨⟨2 + 60 * OffsetDateTime.nanosPerSecond, by decide +kernel, by decide +kernel⟩, ?_⟩
  rintro ⟨id, -, released⟩
  have kept : (run (GateHistory.step (some oneSlot)) ⟨.empty, 0, []⟩ contended).log.all (fun entry =>
      match entry with
      | (.release _ _, _) => false
      | _ => true) = true := by decide +kernel
  cases List.all_eq_true.mp kept _ released

theorem contended_fits :
    Running (run (GateHistory.step (some oneSlot)) ⟨.empty, 0, []⟩ contended).log "build" 1 3 ∧
      ¬ Running (run (GateHistory.step (some oneSlot)) ⟨.empty, 0, []⟩ contended).log "build" 2 3 := by
  have safe := launch_gate_safe (some oneSlot) .empty 0 contended (by rintro pool ⟨⟩) contended_onward
  refine ⟨first_runs, fun second_runs => ?_⟩
  have fits := safe.1 "build" 3 (le_refl (3 : Int)) [1, 2] (by decide) (by
    intro launch mem
    rcases List.mem_cons.mp mem with rfl | mem
    · exact first_runs
    · rw [List.mem_singleton.mp mem]
      exact second_runs)
  exact absurd fits (by decide)

end LibraGovernor
