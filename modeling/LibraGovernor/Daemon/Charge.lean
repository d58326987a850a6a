/-
# LibraGovernor.Daemon.Charge -- booking a charge into its period

A charge is spend that has already happened: it is booked whatever is left of the
cap.  `bookCharge` decides the pool.  A key that is already booked resolves to the
pool it landed in; otherwise the event's own period, when the request names one; and
otherwise the pool of the session's latest hold.
-/
import LibraGovernor.Daemon.SharedBudget
import LibraGovernor.Ledger.Retention
import LibraGovernor.Ledger.Transitions

namespace LibraGovernor

open Relational Transaction

set_option autoImplicit false

/-- What parsing an event time gives: nothing, or the instant and the year of its own
offset. -/
inductive EventTime where
  | unparsable
  | instant (at_ : OffsetDateTime) (year : Int)
  deriving DecidableEq, Repr

/-- `EVENT_YEARS`. -/
def inEventYears (year : Int) : Bool := decide (2000 ≤ year ∧ year ≤ 2200)

/-- The instant of an event time the budget accepts. -/
def eventInstant : Option EventTime → Except SharedBudgetRefusal (Option OffsetDateTime)
  | none => .ok none
  | some .unparsable => .error .invalidEventTime
  | some (.instant at_ year) => if inEventYears year then .ok (some at_) else .error .invalidEventTime

/-- One post-hoc charge, ready to book. -/
structure BookedCharge where
  sessionId : String
  agentId : Option String
  amountUsdCents : Nat
  key : String
  chargeSource : ChargeSource
  eventTime : Option EventTime
  usageKnown : Bool
  watermark : Option SettleWatermark
  deriving DecidableEq, Repr

/-- An unknown agent of a subagent charge is explicitly unknown. -/
def chargeAttribution (agentId : Option String) (chargeSource : ChargeSource) :
    ExecutorAttribution :=
  match agentId, chargeSource with
  | none, .subagentTranscript => .unattributed (some chargeSource)
  | _, _ => attributionFor agentId chargeSource

/-- Where a charge is booked: a pool, and whether its event time was clamped to it.
`none` refuses an event older than the retention horizon. -/
def chargePool (cfg : SharedBudgetConfig) (current : Period) (existing : Option SharedPoolRow)
    (event : Option OffsetDateTime) (sessionId : String) : Daemon (Option (PoolId × Bool)) :=
  match existing, event with
  | some found, _ => pure (some (found.poolId, false))
  | none, some at_ => do
      let target ← periodOf cfg at_
      if current.poolId.val < target.poolId.val then return some (current.poolId, true)
      else
      let prunedThrough ← .read fun s => s.sharedRetentionHorizon ownerPoolPrefix
      if prunedThrough.any (fun h => target.poolId.val ≤ h.val) then return none
      else return some (target.poolId, false)
  | none, none => do
      let latest ← .read fun s =>
        s.latestSharedHoldPoolForSession principal sessionId ownerPoolPrefix
      return some (latest.getD current.poolId, false)

/-- What a pool has settled and active, as an admission reads it. -/
def committedFigure (s : LedgerStore) (poolId : PoolId) (cfg : SharedBudgetConfig)
    (now : OffsetDateTime) : Nat :=
  match s.poolAdmissionFor poolId now (source cfg) with
  | some sourced => min (sourced.admission.settled + sourced.admission.active) u64Max
  | none => 0

/-- The ledger request of a charge. -/
def chargeRequest (charge : BookedCharge) (poolId : PoolId) (cfg : SharedBudgetConfig)
    (now : OffsetDateTime) : SharedPoolChargeRequest where
  poolId := poolId
  principalId := principal
  sessionId := charge.sessionId
  amount := charge.amountUsdCents
  unit := .usdCents
  idempotencyKey := charge.key
  now := now
  attribution := chargeAttribution charge.agentId charge.chargeSource
  capacitySource := source cfg
  usageKnown := charge.usageKnown

/-- The answer to what the ledger made of a charge. -/
def chargeAnswer (charge : BookedCharge) (poolId : PoolId) (clamped : Bool)
    (cfg : SharedBudgetConfig) (now : OffsetDateTime) :
    Except LedgerError SharedPoolChargeOutcome → Daemon SharedBudgetOutcome
  | .error (.quotaUnitMismatch _ _) => pure (.refused .poolUnitMismatch)
  | .error e => .fail (.ledger e)
  | .ok (.charged reservation admission overrun capacityKnown) =>
      match reservation.executorKind with
      | none => .fail (.internal "a charge row has no executor kind")
      | some kind => pure (.charged reservation.id poolId charge.amountUsdCents false kind
          admission.remaining overrun capacityKnown clamped)
  | .ok (.alreadyCharged reservation) => do
      let admission ← .read fun s => s.poolAdmissionFor poolId now (source cfg)
      match reservation.executorKind with
      | none => .fail (.internal "a charge row has no executor kind")
      | some kind => return (.charged reservation.id poolId charge.amountUsdCents true kind
          ((admission.map fun a => a.admission.remaining).getD 0)
          ((admission.map fun a => a.admission.overrun).getD 0)
          (admission.any fun a => a.capacityKnown) false)
  | .ok (.keyConflict _) => pure (.refused .keyConflict)
  | .ok .noPool => .fail (.internal "pool missing right after creation")

/-- Validates and books a charge into the right period's pool. -/
def bookCharge (rt : SharedBudgetRuntime) (state : SharedBudgetFileState) (charge : BookedCharge)
    (fresh : SharedPoolReservationId) : Daemon SharedBudgetOutcome :=
  match validateLaneKey charge.sessionId with
  | .error reason => pure (.refused reason)
  | .ok () =>
  match validateAgent charge.agentId with
  | .error reason => pure (.refused reason)
  | .ok () =>
  if charge.amountUsdCents = 0 ∨ i64Max < charge.amountUsdCents then pure (.refused .invalidAmount)
  else
  match eventInstant charge.eventTime with
  | .error reason => pure (.refused reason)
  | .ok event =>
  match configured state with
  | .error outcome => pure outcome
  | .ok cfg =>
  if min (cfg.monthlyCapUsdCents * 10) u64Max < charge.amountUsdCents then
    pure (.refused .amountTooLarge)
  else do
  let current ← periodOf cfg rt.now
  let existing ← .read fun s => s.findSharedReservationByKey principal charge.key ownerPoolPrefix
  match ← chargePool cfg current existing event charge.sessionId with
  | none => return .refused .eventBeforeRetention
  | some (poolId, clamped) =>
  let _ ← ensurePeriodPool poolId cfg rt.now
  let committed ← .read fun s => committedFigure s poolId cfg rt.now
  if existing.isNone = true ∧ i64Max / 2 < min (committed + charge.amountUsdCents) u64Max then
    return .refused .amountTooLarge
  else
  let booked ← .attempt fun s =>
    s.chargeSharedWithWatermark (chargeRequest charge poolId cfg rt.now) charge.watermark fresh
  chargeAnswer charge poolId clamped cfg rt.now booked

/-- A client's charge. -/
structure ChargeAgent where
  sessionId : String
  agentId : Option String
  amountUsdCents : Nat
  idempotencyKey : String
  chargeSource : ChargeSource
  eventTime : Option EventTime
  provider : Option String
  deriving DecidableEq, Repr

/-- The ledger key of a client's charge. -/
def chargeKey (lane idempotencyKey : String) : String :=
  "charge:" ++ lp lane ++ "|" ++ lp idempotencyKey

/-- The charge a client's request asks for on a lane. -/
def ChargeAgent.onLane (req : ChargeAgent) (lane : String) : BookedCharge where
  sessionId := lane
  agentId := req.agentId
  amountUsdCents := req.amountUsdCents
  key := chargeKey lane req.idempotencyKey
  chargeSource := req.chargeSource
  eventTime := req.eventTime
  usageKnown := true
  watermark := none

/-- A charge on an already-derived lane key. -/
def chargeOnLane (rt : SharedBudgetRuntime) (lane : String) (req : ChargeAgent)
    (fresh : SharedPoolReservationId) : Daemon SharedBudgetOutcome :=
  match rt.state with
  | .absent => pure .notConfigured
  | state =>
  match validateLaneKey lane with
  | .error reason => pure (.refused reason)
  | .ok () =>
  match validateAgent req.agentId with
  | .error reason => pure (.refused reason)
  | .ok () =>
  if req.amountUsdCents = 0 ∨ i64Max < req.amountUsdCents then pure (.refused .invalidAmount)
  else if isBlank req.idempotencyKey then pure (.refused .invalidIdempotencyKey)
  else bookCharge rt state (req.onLane lane) fresh

/-- A charge of a client; a Codex lane stays inert, and under the gateway the gateway
is the only writer of Claude spend. -/
def charge (rt : SharedBudgetRuntime) (req : ChargeAgent) (fresh : SharedPoolReservationId) :
    Daemon SharedBudgetOutcome :=
  match rt.state with
  | .absent => pure .notConfigured
  | state =>
  match admissionLane req.sessionId req.agentId req.provider false with
  | .error outcome => pure outcome
  | .ok (_, lane) =>
  if isClaudeProvider req.provider && gatewayEnforced state then pure (.refused .gatewayMetered)
  else chargeOnLane rt lane req fresh

/-! ## What booking writes -/

/-- What no charge touches: the floor, the horizon, the prompts, and pools that exist. -/
structure ChargeFrame (s s' : LedgerStore) : Prop where
  chargeFloor : s'.chargeFloor = s.chargeFloor
  retentionHorizon : s'.retentionHorizon = s.retentionHorizon
  holdPrompts : s'.holdPrompts = s.holdPrompts
  pools : ∀ pool ∈ s'.quotaPools, pool ∈ s.quotaPools ∨ pool.unit = .usdCents

theorem ChargeFrame.refl (s : LedgerStore) : ChargeFrame s s :=
  ⟨rfl, rfl, rfl, fun _ mem => .inl mem⟩

theorem ChargeFrame.trans {a b c : LedgerStore} (ab : ChargeFrame a b) (bc : ChargeFrame b c) :
    ChargeFrame a c where
  chargeFloor := bc.chargeFloor.trans ab.chargeFloor
  retentionHorizon := bc.retentionHorizon.trans ab.retentionHorizon
  holdPrompts := bc.holdPrompts.trans ab.holdPrompts
  pools := by
    intro pool mem
    rcases bc.pools pool mem with old | usd
    · exact ab.pools pool old
    · exact .inr usd

/-- A row that differs from another at most by its watermark. -/
def Remarked (r r' : SharedPoolRow) : Prop :=
  r' = r ∨ r.state = .settled ∧ ∃ ts ids, r' = r.mark ts ids

theorem Remarked.ident {r r' : SharedPoolRow} (same : Remarked r r') : r'.ident = r.ident := by
  obtain rfl | ⟨-, ts, ids, rfl⟩ := same
  · rfl
  · rfl

/-- Nothing was booked: the rows are the same but for watermarks, and a watermark stays. -/
structure Unbooked (s s' : LedgerStore) : Prop where
  rows : ∃ f, ∃ keeps : ∀ r : SharedPoolRow, (f r).id = r.id,
    s'.reservations = s.reservations.update f keeps ∧ ∀ r ∈ s.reservations, Remarked r (f r)
  marked : ∀ r ∈ s.reservations, r.watermarkTs ≠ none → r ∈ s'.reservations
  frame : ChargeFrame s s'

theorem Unbooked.of_same {s s' : LedgerStore} (same : s'.reservations = s.reservations)
    (frame : ChargeFrame s s') : Unbooked s s' where
  rows := by
    refine ⟨fun r => r, fun _ => rfl, ?_, fun r _ => .inl rfl⟩
    rw [same]
    exact Table.ext_rows (List.map_id _).symm
  marked := fun r mem _ => same ▸ mem
  frame := frame

/-- One row was booked. -/
structure Booked (s : LedgerStore) (row : SharedPoolRow) (s' : LedgerStore) : Prop where
  inserted : s.reservations.insert? row = some s'.reservations
  frame : ChargeFrame s s'

theorem ensurePeriodPool_frame {s s' : LedgerStore} {poolId : PoolId} {cfg : SharedBudgetConfig}
    {now : OffsetDateTime} {pool : QuotaPool}
    (done : s.ensurePool poolId .usdCents cfg.monthlyCapUsdCents now = .ok (pool, s')) :
    s'.reservations = s.reservations ∧ ChargeFrame s s' := by
  obtain ⟨floor, horizon, prompts, pools⟩ := LedgerStore.ensurePool_ok done
  refine ⟨LedgerStore.ensurePool_reservations done, floor, horizon, prompts, ?_⟩
  intro pool' mem
  rcases pools pool' mem with old | ⟨-, usd⟩
  · exact .inl old
  · exact .inr usd

theorem adoptWatermark_unbooked (s : LedgerStore) {existing : SharedPoolRow}
    (mem : existing ∈ s.reservations) (settled : existing.state = .settled)
    (columns : Option OffsetDateTime × Option (List String)) :
    Unbooked s (s.adoptWatermark existing columns) := by
  unfold LedgerStore.adoptWatermark
  split
  · refine ⟨⟨_, _, LedgerStore.updateWhere_reservations _ _ _ _, ?_⟩, ?_,
      ⟨rfl, rfl, rfl, fun _ mem => .inl mem⟩⟩
    · intro r mem'
      by_cases here : r.id = existing.id ∧ r.watermarkTs = none
      · have one : r = existing := s.reservations.eq_of_key mem' mem here.1
        subst one
        exact .inr ⟨settled, columns.1, columns.2, by simp [here.2]⟩
      · exact .inl (by simp [here])
    · intro r mem' marked
      exact (LedgerStore.mem_updateReservations _ _ _ r).mpr ⟨r, mem', by simp [marked]⟩
  · exact .of_same rfl (.refl s)

/-- A ledger charge books nothing, or its one row. -/
theorem chargeSharedWithWatermark_books {s s' : LedgerStore} {req : SharedPoolChargeRequest}
    {watermark : Option SettleWatermark} {fresh : SharedPoolReservationId}
    {out : SharedPoolChargeOutcome}
    (done : s.chargeSharedWithWatermark req watermark fresh = .ok (out, s')) :
    (Unbooked s s' ∧ ((∃ existing ∈ s.reservations,
          existing.uniqueKey = (req.poolId, req.principalId, req.idempotencyKey)) ∨ out = .noPool) ∧
        ∀ row admission overrun known, out ≠ .charged row admission overrun known) ∨
      ∃ attribution columns admission overrun known,
        (watermarkColumns watermark = .ok columns ∧ req.attribution.resolve = .ok attribution) ∧
        s.findByKey req.poolId req.principalId req.idempotencyKey = none ∧
        out = .charged (LedgerStore.chargeRow req fresh attribution req.amount req.now
          columns).toSharedPoolReservation admission overrun known ∧
        Booked s (LedgerStore.chargeRow req fresh attribution req.amount req.now columns) s' := by
  obtain ⟨existing, columns, mem, key, settled, rfl, rfl⟩ | ⟨rfl, old⟩ |
    ⟨attribution, columns, admission, overrun, known, resolved, -, free, rfl, inserted⟩ :=
    LedgerStore.chargeSharedWithWatermark_ok done
  · refine .inl ⟨adoptWatermark_unbooked s mem settled columns, .inl ⟨existing, mem, key⟩, ?_⟩
    rintro _ _ _ _ ⟨⟩
  · obtain ⟨existing, mem, key, rfl⟩ | rfl := old
    · refine .inl ⟨.of_same rfl (.refl s'), .inl ⟨existing, mem, key⟩, ?_⟩
      rintro _ _ _ _ ⟨⟩
    · refine .inl ⟨.of_same rfl (.refl s'), .inr rfl, ?_⟩
      rintro _ _ _ _ ⟨⟩
  · obtain ⟨inserted, -, pools, -, floor, horizon, prompts⟩ :=
      LedgerStore.insertReservation_ok inserted
    refine .inr ⟨attribution, columns, admission, overrun, known, resolved, free, rfl, inserted,
      floor, horizon, prompts, ?_⟩
    rw [pools]
    exact fun _ mem => .inl mem

theorem resolve_error {attribution : ExecutorAttribution} {e : LedgerError}
    (failed : attribution.resolve = .error e) : e = .invalid := by
  unfold ExecutorAttribution.resolve at failed
  split at failed
  · cases failed
    rfl
  rw [bind_eq_error_iff] at failed
  obtain unresolved | ⟨kind, -, impossible⟩ := failed
  · unfold ExecutorAttribution.resolveKind at unresolved
    split at unresolved <;> cases unresolved <;> rfl
  · cases impossible

theorem insertReservation_error {s : LedgerStore} {row : SharedPoolRow} {e : LedgerError}
    (failed : s.insertReservation row = .error e) : e = .constraint := by
  unfold LedgerStore.insertReservation at failed
  split at failed
  · cases failed
    rfl
  split at failed
  · cases failed
  · cases failed
    rfl

/-- A charge in the unit of its pool is never refused for the unit. -/
theorem chargeSharedWithWatermark_unit {s : LedgerStore} {req : SharedPoolChargeRequest}
    {pool : QuotaPool} (found : s.quotaPool req.poolId = some pool) (unit : req.unit = pool.unit)
    (fresh : SharedPoolReservationId) (a b : QuotaUnit) :
    s.chargeSharedWithWatermark req none fresh ≠ .error (.quotaUnitMismatch a b) := by
  intro failed
  simp only [LedgerStore.chargeSharedWithWatermark, bind_eq_error_iff, checkedI64, rfc3339] at failed
  obtain columns | ⟨_, -, unresolved | ⟨attribution, -, unchecked | ⟨amount, -, failed⟩⟩⟩ := failed
  · cases columns
  · cases resolve_error unresolved
  · split at unchecked <;> cases unchecked
  split at failed
  · split at failed <;> cases failed
  rw [found] at failed
  simp only [unit, ne_eq, not_true_eq_false, if_false, bind_eq_error_iff] at failed
  obtain unstamped | ⟨now, -, constraint | ⟨next, -, impossible⟩⟩ := failed
  · split at unstamped <;> cases unstamped
  · cases insertReservation_error constraint
  · cases impossible

/-- Only a pool that does not exist is missing. -/
theorem chargeSharedWithWatermark_noPool {s s' : LedgerStore} {req : SharedPoolChargeRequest}
    {watermark : Option SettleWatermark} {fresh : SharedPoolReservationId}
    (done : s.chargeSharedWithWatermark req watermark fresh = .ok (.noPool, s')) :
    s.quotaPool req.poolId = none := by
  simp only [LedgerStore.chargeSharedWithWatermark, bind_eq_ok_iff] at done
  obtain ⟨columns, -, attribution, -, amount, -, done⟩ := done
  split at done
  · split at done <;> cases done
  split at done
  · assumption
  split at done
  · cases done
  simp only [bind_eq_ok_iff] at done
  obtain ⟨now, -, next, -, done⟩ := done
  cases done

theorem startsWith_append (p rest : String) : startsWith (p ++ rest) p = true := by
  simp [startsWith]

theorem localBudgetPoolPrefix_eq : localBudgetPoolPrefix = ownerPoolPrefix := by decide

theorem periodAt_pool {cfg : SharedBudgetConfig} {at_ : OffsetDateTime} {period : Period}
    (found : periodAt cfg at_ = .ok period) :
    startsWith period.poolId.val ownerPoolPrefix = true := by
  simp only [periodAt, meteredPoolId] at found
  split at found
  · cases found
  · rename_i poolId named
    cases found
    split at named
    · cases named
      exact startsWith_append ownerPoolPrefix _
    · cases named

/-- Whether an answer is a charge, and then whether it was booked before. -/
def SharedBudgetOutcome.alreadyCharged : SharedBudgetOutcome → Option Bool
  | .charged _ _ _ already _ _ _ _ _ => some already
  | _ => none

/-- A row the budget has under a key. -/
def HoldsKey (key : String) (s : LedgerStore) : Prop :=
  ∃ r ∈ s.reservations, r.principalId = principal ∧ r.idempotencyKey = key ∧
    startsWith r.poolId.val ownerPoolPrefix = true

theorem findSharedReservationByKey_some {s : LedgerStore} {key : String} {r : SharedPoolRow}
    (found : s.findSharedReservationByKey principal key ownerPoolPrefix = some r) :
    r ∈ s.reservations ∧ r.principalId = principal ∧ r.idempotencyKey = key ∧
      startsWith r.poolId.val ownerPoolPrefix = true := by
  have mem := pick_mem found
  simp only [List.mem_filter, Bool.and_eq_true, decide_eq_true_eq] at mem
  exact ⟨mem.1, mem.2.1.1, mem.2.1.2, mem.2.2⟩

theorem findSharedReservationByKey_none {s : LedgerStore} {key : String} :
    s.findSharedReservationByKey principal key ownerPoolPrefix = none ↔ ¬ HoldsKey key s := by
  rw [LedgerStore.findSharedReservationByKey, earliest, pick_eq_none_iff, List.filter_eq_nil_iff]
  simp only [Bool.and_eq_true, decide_eq_true_eq, HoldsKey, not_exists, not_and]
  constructor
  · intro absent r mem mine here prefixed
    exact absent r mem ⟨mine, here⟩ prefixed
  · intro absent r mem here prefixed
    exact absent r mem here.1 here.2 prefixed

/-- The pool a new charge goes to: one of the budget's, and for an event either the
current one, when the event's period is ahead of the clock, or the event's own, when no
prune has reached it. -/
structure NewChargePool (cfg : SharedBudgetConfig) (current : Period)
    (event : Option OffsetDateTime) (s : LedgerStore) (poolId : PoolId) : Prop where
  owned : startsWith poolId.val ownerPoolPrefix = true
  retained : ∀ at_, event = some at_ → ∃ target, periodAt cfg at_ = .ok target ∧
    (current.poolId.val < target.poolId.val ∨ ¬ s.PrunedThrough target.poolId)

theorem chargePool_triple {cfg : SharedBudgetConfig} {now : OffsetDateTime} {current : Period}
    (period : periodAt cfg now = .ok current) (existing : Option SharedPoolRow)
    (event : Option OffsetDateTime) (sessionId : String) (s : LedgerStore) :
    Procedure.Triple (· = s) (chargePool cfg current existing event sessionId) fun r s' =>
      s' = s ∧ ∀ poolId clamped, r = .ok (some (poolId, clamped)) →
        (∃ found, existing = some found ∧ poolId = found.poolId) ∨
          existing = none ∧ NewChargePool cfg current event s poolId := by
  unfold chargePool
  split
  · rename_i found
    refine Procedure.Triple.pure fun s' same => ⟨same, ?_⟩
    rintro poolId clamped ⟨⟩
    exact .inl ⟨found, rfl, rfl⟩
  · rename_i at_
    unfold periodOf
    split
    · rename_i target found
      change Procedure.Triple (· = s) (if _ then _ else _) _
      split
      · rename_i ahead
        refine Procedure.Triple.pure fun s' same => ⟨same, ?_⟩
        rintro poolId clamped ⟨⟩
        refine .inr ⟨rfl, periodAt_pool period, ?_⟩
        rintro t ⟨⟩
        exact ⟨target, found, .inl ahead⟩
      · refine Procedure.Triple.read_bind fun horizon => ?_
        split
        · exact Procedure.Triple.pure fun s' same => ⟨same.1, nofun⟩
        · rename_i open_
          refine Procedure.Triple.pure ?_
          rintro s' ⟨rfl, horizon_eq⟩
          refine ⟨rfl, ?_⟩
          rintro poolId clamped ⟨⟩
          refine .inr ⟨rfl, periodAt_pool found, ?_⟩
          rintro t ⟨⟩
          refine ⟨target, found, .inr ?_⟩
          rintro ⟨h, reached, le⟩
          rw [localBudgetPoolPrefix_eq, horizon_eq] at reached
          simp [reached, le] at open_
    · exact Procedure.Triple.fail fun s' same => ⟨same, nofun⟩
  · refine Procedure.Triple.read_bind fun latest => ?_
    refine Procedure.Triple.pure ?_
    rintro s' ⟨rfl, latest_eq⟩
    refine ⟨rfl, ?_⟩
    rintro poolId clamped ⟨⟩
    refine .inr ⟨rfl, ?_, nofun⟩
    cases latest with
    | none => exact periodAt_pool period
    | some pool =>
        simp only [LedgerStore.latestSharedHoldPoolForSession, Option.map_eq_some_iff] at latest_eq
        obtain ⟨row, picked, rfl⟩ := latest_eq
        have mem := pick_mem picked
        simp only [List.mem_filter, Bool.and_eq_true] at mem
        exact mem.2.1.2

/-- A row that a charge booked anew: its key was free in every pool of the budget. -/
structure NewBooking (rt : SharedBudgetRuntime) (state : SharedBudgetFileState)
    (charge : BookedCharge) (s : LedgerStore) (row : SharedPoolRow) : Prop where
  free : ¬ HoldsKey charge.key s
  charged : row.isCharge = true ∧ row.state = .settled ∧
    row.settledAmount = some charge.amountUsdCents
  principalId : row.principalId = principal
  key : row.idempotencyKey = charge.key
  sessionId : row.sessionId = charge.sessionId
  pool : ∃ cfg event current, state = .valid cfg ∧ eventInstant charge.eventTime = .ok event ∧
    periodAt cfg rt.now = .ok current ∧ NewChargePool cfg current event s row.poolId

/-- What a booking leaves behind: either nothing is booked, and an answer that says so
names a key that was there; or one row is, under a key that was free. -/
def BookingPost (rt : SharedBudgetRuntime) (state : SharedBudgetFileState) (charge : BookedCharge)
    (s : LedgerStore) (r : Except SharedBudgetError SharedBudgetOutcome) (s' : LedgerStore) : Prop :=
  (Unbooked s s' ∧ ∀ outcome already, r = .ok outcome → outcome.alreadyCharged = some already →
      already = true ∧ HoldsKey charge.key s) ∨
    ∃ row outcome, Booked s row s' ∧ NewBooking rt state charge s row ∧ r = .ok outcome ∧
      outcome.alreadyCharged = some false

theorem Unbooked.trans_same {s mid s' : LedgerStore} (first : mid.reservations = s.reservations)
    (frame : ChargeFrame s mid) (rest : Unbooked mid s') : Unbooked s s' where
  rows := by
    obtain ⟨f, keeps, same, marks⟩ := rest.rows
    rw [first] at same marks
    exact ⟨f, keeps, same, marks⟩
  marked := by
    intro r mem
    rw [← first] at mem
    exact rest.marked r mem
  frame := frame.trans rest.frame

theorem chargeAttribution_kind {agentId : Option String} {chargeSource : ChargeSource}
    {attribution : ExecutorAttribution}
    (resolved : (chargeAttribution agentId chargeSource).resolve = .ok attribution) :
    attribution.executorKind ≠ none := by
  simp only [ExecutorAttribution.resolve] at resolved
  split at resolved
  · cases resolved
  rw [bind_eq_ok_iff] at resolved
  obtain ⟨kind, agreed, done⟩ := resolved
  cases done
  intro absent
  cases absent
  unfold chargeAttribution at agreed
  split at agreed
  · cases agreed
  · unfold attributionFor at agreed
    split at agreed <;> cases agreed

/-- The answer to a charge writes nothing; only a new booking says `false`. -/
theorem chargeAnswer_triple (charge : BookedCharge) (poolId : PoolId) (clamped : Bool)
    (cfg : SharedBudgetConfig) (now : OffsetDateTime)
    (booked : Except LedgerError SharedPoolChargeOutcome) (s : LedgerStore) :
    Procedure.Triple (· = s) (chargeAnswer charge poolId clamped cfg now booked) fun r s' =>
      s' = s ∧ (∀ outcome already, r = .ok outcome → outcome.alreadyCharged = some already →
        already = true ∧ (∃ row, booked = .ok (.alreadyCharged row)) ∨
          ∃ row admission overrun known, booked = .ok (.charged row admission overrun known)) ∧
      ∀ row admission overrun known, booked = .ok (.charged row admission overrun known) →
        row.executorKind ≠ none → ∃ outcome, r = .ok outcome ∧ outcome.alreadyCharged = some false := by
  unfold chargeAnswer
  split
  · refine Procedure.Triple.pure fun s' same => ⟨same, ?_, ?_⟩
    · rintro outcome already ⟨⟩ ⟨⟩
    · rintro _ _ _ _ ⟨⟩
  · refine Procedure.Triple.fail fun s' same => ⟨same, ?_, ?_⟩
    · rintro outcome already ⟨⟩
    · rintro _ _ _ _ ⟨⟩
  · rename_i row admission overrun known
    cases kind : row.executorKind with
    | none =>
        refine Procedure.Triple.fail fun s' same => ⟨same, ?_, ?_⟩
        · rintro outcome already ⟨⟩
        · rintro _ _ _ _ ⟨⟩ named
          exact absurd kind named
    | some kind =>
        refine Procedure.Triple.pure fun s' same => ⟨same, ?_, ?_⟩
        · intro outcome already _ _
          exact .inr ⟨row, admission, overrun, known, rfl⟩
        · intro _ _ _ _ _ _
          exact ⟨_, rfl, rfl⟩
  · rename_i row
    refine Procedure.Triple.read_bind fun admission => ?_
    cases row.executorKind with
    | none =>
        refine Procedure.Triple.fail fun s' same => ⟨same.1, ?_, ?_⟩
        · rintro outcome already ⟨⟩
        · rintro _ _ _ _ ⟨⟩
    | some kind =>
        refine Procedure.Triple.pure fun s' same => ⟨same.1, ?_, ?_⟩
        · rintro outcome already ⟨⟩ ⟨⟩
          exact .inl ⟨rfl, row, rfl⟩
        · rintro _ _ _ _ ⟨⟩
  · refine Procedure.Triple.pure fun s' same => ⟨same, ?_, ?_⟩
    · rintro outcome already ⟨⟩ ⟨⟩
    · rintro _ _ _ _ ⟨⟩
  · refine Procedure.Triple.fail fun s' same => ⟨same, ?_, ?_⟩
    · rintro outcome already ⟨⟩
    · rintro _ _ _ _ ⟨⟩

/-- Booking on the pool that was chosen, from a store whose rows are still the ones it
was chosen for. -/
theorem bookOnPool_post {rt : SharedBudgetRuntime} {state : SharedBudgetFileState}
    {charge : BookedCharge} {cfg : SharedBudgetConfig} {event : Option OffsetDateTime}
    {current : Period} {existing : Option SharedPoolRow} {poolId : PoolId}
    {before mid : LedgerStore} (valid : state = .valid cfg)
    (parsed : eventInstant charge.eventTime = .ok event) (period : periodAt cfg rt.now = .ok current)
    (found : before.findSharedReservationByKey principal charge.key ownerPoolPrefix = existing)
    (choice : (∃ row, existing = some row ∧ poolId = row.poolId) ∨
      existing = none ∧ NewChargePool cfg current event before poolId)
    (clamped : Bool) (rows : mid.reservations = before.reservations) (frame : ChargeFrame before mid)
    (fresh : SharedPoolReservationId) :
    let book : Daemon SharedBudgetOutcome := do
      let booked ← .attempt fun s => s.chargeSharedWithWatermark
        (chargeRequest charge poolId cfg rt.now) charge.watermark fresh
      chargeAnswer charge poolId clamped cfg rt.now booked
    BookingPost rt state charge before (book mid).1 (book mid).2 := by
  intro book
  have owned : startsWith poolId.val ownerPoolPrefix = true := by
    obtain ⟨row, rfl, rfl⟩ | ⟨-, chosen⟩ := choice
    · exact (findSharedReservationByKey_some found).2.2.2
    · exact chosen.owned
  have holds : ∀ r ∈ mid.reservations, r.uniqueKey = (poolId, principal, charge.key) →
      HoldsKey charge.key before := by
    intro r mem key
    simp only [SharedPoolRow.uniqueKey, Prod.mk.injEq] at key
    obtain ⟨here, mine, named⟩ := key
    exact ⟨r, rows ▸ mem, mine, named, here ▸ owned⟩
  cases booked : mid.chargeSharedWithWatermark (chargeRequest charge poolId cfg rt.now)
      charge.watermark fresh with
  | error e =>
      obtain ⟨same, answer, -⟩ := chargeAnswer_triple charge poolId clamped cfg rt.now (.error e) mid
        mid rfl
      have result : book mid = chargeAnswer charge poolId clamped cfg rt.now (.error e) mid := by
        show Procedure.bind _ _ mid = _
        simp only [Procedure.bind, Procedure.attempt, booked]
      rw [result, same]
      refine .inl ⟨.of_same rows frame, fun outcome already answered named => ?_⟩
      obtain ⟨-, row, impossible⟩ | ⟨row, _, _, _, impossible⟩ := answer outcome already answered named
      · cases impossible
      · cases impossible
  | ok done =>
      obtain ⟨out, next⟩ := done
      obtain ⟨same, answer, new⟩ := chargeAnswer_triple charge poolId clamped cfg rt.now (.ok out)
        next next rfl
      have result : book mid = chargeAnswer charge poolId clamped cfg rt.now (.ok out) next := by
        show Procedure.bind _ _ mid = _
        simp only [Procedure.bind, Procedure.attempt, booked]
      rw [result, same]
      obtain ⟨unbooked, old, notNew⟩ |
        ⟨attribution, columns, admission, overrun, known, resolved, free, rfl, one⟩ :=
        chargeSharedWithWatermark_books booked
      · refine .inl ⟨.trans_same rows frame unbooked, fun outcome already answered named => ?_⟩
        obtain ⟨before_, row, replayed⟩ | ⟨row, _, _, _, charged⟩ :=
          answer outcome already answered named
        · cases replayed
          refine ⟨before_, ?_⟩
          obtain ⟨r, mem, key⟩ | missing := old
          · exact holds r mem key
          · cases missing
        · cases charged
          exact absurd rfl (notNew _ _ _ _)
      · obtain ⟨outcome, answered, named⟩ := new _ _ _ _ rfl (chargeAttribution_kind resolved.2)
        refine .inr ⟨_, outcome, ⟨rows ▸ one.inserted, frame.trans one.frame⟩, ?_, answered, named⟩
        -- A found key would have stopped the ledger from booking.
        obtain ⟨row, rfl, rfl⟩ | ⟨rfl, chosen⟩ := choice
        · obtain ⟨mem, mine, key, -⟩ := findSharedReservationByKey_some found
          refine absurd ?_ (LedgerStore.findByKey_none free row (rows ▸ mem))
          simp [SharedPoolRow.uniqueKey, mine, key, chargeRequest]
        · exact
            { free := findSharedReservationByKey_none.mp found
              charged := ⟨rfl, rfl, rfl⟩
              principalId := rfl
              key := rfl
              sessionId := rfl
              pool := ⟨cfg, event, current, valid, parsed, period, chosen⟩ }

theorem bookCharge_post (rt : SharedBudgetRuntime) (state : SharedBudgetFileState)
    (charge : BookedCharge) (fresh : SharedPoolReservationId) (s : LedgerStore) :
    BookingPost rt state charge s (bookCharge rt state charge fresh s).1
      (bookCharge rt state charge fresh s).2 := by
  have untouched : ∀ {s'} {r : Except SharedBudgetError SharedBudgetOutcome}, s' = s →
      (∀ outcome already, r = .ok outcome → outcome.alreadyCharged ≠ some already) →
      BookingPost rt state charge s r s' := by
    rintro s' r rfl quiet
    exact .inl ⟨.of_same rfl (.refl s'), fun outcome already same named =>
      absurd named (quiet outcome already same)⟩
  have failed : ∀ {s'} (e : SharedBudgetError), s' = s →
      BookingPost rt state charge s (.error e) s' := by
    intro s' e same
    refine untouched same ?_
    rintro outcome already ⟨⟩
  have refused : ∀ reason, Procedure.Triple (· = s)
      (pure (.refused reason) : Daemon SharedBudgetOutcome) (BookingPost rt state charge s) := by
    intro reason
    refine Procedure.Triple.pure fun s' same => untouched same ?_
    rintro outcome already ⟨⟩ ⟨⟩
  suffices triple : Procedure.Triple (· = s) (bookCharge rt state charge fresh)
      (BookingPost rt state charge s) from triple s rfl
  unfold bookCharge
  split
  · exact refused _
  split
  · exact refused _
  split
  · exact refused _
  split
  · exact refused _
  rename_i event parsed
  split
  · rename_i outcome unready
    refine Procedure.Triple.pure fun s' same => untouched same ?_
    rintro _ already ⟨⟩ named
    unfold configured at unready
    split at unready <;> cases unready <;> cases named
  rename_i cfg valid
  have valid : state = .valid cfg := by
    unfold configured at valid
    split at valid <;> cases valid
    rfl
  split
  · exact refused _
  refine periodOf_bind (fun e s' same => failed e same) fun current period => ?_
  refine Procedure.Triple.read_bind fun existing => ?_
  refine Procedure.Triple.bind (M := fun chosen s' => (s' = s ∧
      s.findSharedReservationByKey principal charge.key ownerPoolPrefix = existing) ∧
      ∀ poolId clamped, chosen = some (poolId, clamped) →
        (∃ found, existing = some found ∧ poolId = found.poolId) ∨
          existing = none ∧ NewChargePool cfg current event s poolId) ?_ fun chosen => ?_
  · rintro s' ⟨rfl, found⟩
    have chosen := chargePool_triple period existing event charge.sessionId s' s' rfl
    split
    · rename_i result ok
      rw [ok] at chosen
      refine ⟨⟨chosen.1, found⟩, ?_⟩
      rintro poolId clamped rfl
      exact chosen.2 poolId clamped rfl
    · exact failed _ chosen.1
  split
  · refine Procedure.Triple.pure fun s' same => untouched same.1.1 ?_
    rintro outcome already ⟨⟩ ⟨⟩
  rename_i poolId clamped
  rintro before ⟨⟨rfl, found⟩, chosen⟩
  have choice := chosen poolId clamped rfl
  have bookingFailed : ∀ {mid : LedgerStore} {r : Except SharedBudgetError SharedBudgetOutcome},
      (mid.reservations = before.reservations ∧ ChargeFrame before mid) →
      (∀ outcome already, r = .ok outcome → outcome.alreadyCharged ≠ some already) →
      BookingPost rt state charge before r mid := by
    intro mid r same quiet
    exact .inl ⟨.of_same same.1 same.2, fun outcome already answered named =>
      absurd named (quiet outcome already answered)⟩
  refine Procedure.Triple.bind (P := (· = before)) (M := fun _ mid =>
    mid.reservations = before.reservations ∧ ChargeFrame before mid) ?_ (fun pool => ?_) before rfl
  · refine Procedure.Triple.transact ?_ ?_
    · rintro mid pool next rfl done
      exact ensurePeriodPool_frame done
    · rintro mid e rfl -
      exact failed _ rfl
  refine Procedure.Triple.read_bind fun committed => ?_
  split
  · refine Procedure.Triple.pure fun mid same => bookingFailed same.1 ?_
    rintro outcome already ⟨⟩ ⟨⟩
  rintro mid ⟨⟨rows, frame⟩, -⟩
  exact bookOnPool_post valid parsed period found choice clamped rows frame fresh

/-- An answer to a charge: a refusal, a charge, or what is wrong with the budget file. -/
def ChargeAnswered (state : SharedBudgetFileState) (outcome : SharedBudgetOutcome) : Prop :=
  (∃ reason, outcome = .refused reason) ∨ (∃ already, outcome.alreadyCharged = some already) ∨
    configured state = .error outcome

theorem chargeAnswer_answers (state : SharedBudgetFileState) (charge : BookedCharge)
    (poolId : PoolId) (clamped : Bool) (cfg : SharedBudgetConfig) (now : OffsetDateTime)
    (booked : Except LedgerError SharedPoolChargeOutcome) :
    Procedure.Answers (ChargeAnswered state) (chargeAnswer charge poolId clamped cfg now booked) := by
  unfold chargeAnswer
  split
  · exact .pure (.inl ⟨_, rfl⟩)
  · exact .fail _
  · split
    · exact .fail _
    · exact .pure (.inr (.inl ⟨_, rfl⟩))
  · refine .bind fun admission => ?_
    split
    · exact .fail _
    · exact .pure (.inr (.inl ⟨_, rfl⟩))
  · exact .pure (.inl ⟨_, rfl⟩)
  · exact .fail _

theorem bookCharge_answers (rt : SharedBudgetRuntime) (state : SharedBudgetFileState)
    (charge : BookedCharge) (fresh : SharedPoolReservationId) :
    Procedure.Answers (ChargeAnswered state) (bookCharge rt state charge fresh) := by
  have refused : ∀ reason, Procedure.Answers (ChargeAnswered state)
      (pure (.refused reason) : Daemon SharedBudgetOutcome) :=
    fun reason => .pure (.inl ⟨reason, rfl⟩)
  unfold bookCharge
  split
  · exact refused _
  split
  · exact refused _
  split
  · exact refused _
  split
  · exact refused _
  split
  · rename_i unready
    exact .pure (.inr (.inr unready))
  split
  · exact refused _
  refine .bind fun current => .bind fun existing => .bind fun chosen => ?_
  split
  · exact refused _
  refine .bind fun pool => .bind fun committed => ?_
  split
  · exact refused _
  exact .bind fun booked => chargeAnswer_answers state charge _ _ _ _ booked

/-- A client's charge answers without writing, or books on its lane. -/
theorem charge_post (rt : SharedBudgetRuntime) (req : ChargeAgent)
    (fresh : SharedPoolReservationId) (s : LedgerStore) :
    (charge rt req fresh s).2 = s ∨ ∃ lane, budgetLane req.sessionId req.provider = .ok lane ∧
      BookingPost rt rt.state (req.onLane lane) s (charge rt req fresh s).1
        (charge rt req fresh s).2 := by
  let Post := fun r s' => s' = s ∨ ∃ lane, budgetLane req.sessionId req.provider = .ok lane ∧
    BookingPost rt rt.state (req.onLane lane) s r s'
  have answers : ∀ outcome, Procedure.Triple (· = s) (pure outcome) Post :=
    fun outcome => Procedure.Triple.pure fun s' same => .inl same
  suffices triple : Procedure.Triple (· = s) (charge rt req fresh) Post from triple s rfl
  unfold charge
  split
  · exact answers _
  split
  · exact answers _
  rename_i kind lane admitted
  have named : budgetLane req.sessionId req.provider = .ok lane := by
    unfold admissionLane at admitted
    split at admitted
    · cases admitted
    split at admitted
    · cases admitted
    split at admitted
    · cases admitted
    · cases admitted
      assumption
  split
  · exact answers _
  unfold chargeOnLane
  split
  · exact answers _
  split
  · exact answers _
  split
  · exact answers _
  split
  · exact answers _
  split
  · exact answers _
  rintro _ rfl
  exact .inr ⟨lane, named, bookCharge_post rt rt.state (req.onLane lane) fresh _⟩

end LibraGovernor
