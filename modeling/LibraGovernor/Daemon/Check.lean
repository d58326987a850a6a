/-
# LibraGovernor.Daemon.Check -- a check answers as an admission would

`check` reads where `admitTurn` creates the pool, sweeps, renews and reserves.  The two agree:
a lane with a live hold renews it, a lane without one reserves exactly when the pool's
figures cover a turn, and a sweep only ever frees capacity (`check_agrees`).

They come to it by different ways, and differ where only the admission looks: a pool that
is kept in another unit is refused after a check found it available (`check_overlooks_unit`).
-/
import LibraGovernor.Daemon.Admission
import LibraGovernor.Ledger.Sweep

namespace LibraGovernor

open Relational Transaction Transaction.Procedure

set_option autoImplicit false

/-- A read: it never creates a pool, reserves or sweeps. -/
def check (rt : SharedBudgetRuntime) (sessionId : String) (agentId provider : Option String) :
    Daemon SharedBudgetOutcome := do
  match ← gateContext rt sessionId agentId provider with
  | .error outcome => return outcome
  | .ok ctx =>
  match ← remainingOf rt .gate ctx.period.poolId ctx.cfg ctx.now with
  | .error e => .fail (.ledger e)
  | .ok remaining =>
  if ctx.cfg.enforcement = .gateway ∧ isClaudeProvider provider then
    if rt.gatewayRun ≠ .governorHeld then
      return .denied .gatewayUnavailable (some remaining) (some ctx.period.end_)
        (some "enforcement=gateway needs a running governor_held gateway")
    else return .checked .available remaining ctx.period.end_
  else
  let laneHold ← .read fun s => s.activeSharedHoldForLane ctx.period.poolId principal
    ⟨ctx.lane, agentId, ctx.kind⟩ ctx.now
  let state := if laneHold.isSome then SharedBudgetCheckState.admitted
    else if remaining < (ctx.cfg.turnHoldUsdCents : Int) then .exhausted else .available
  return .checked state remaining ctx.period.end_

/-! ## What the two requests assume -/

/-- The clock and the expiry of a hold it grants are instants the calendar and the stored
text can represent; the source expects no other. -/
def Storable (now : OffsetDateTime) : Prop :=
  OffsetDateTime.earliestText ≤ now ∧ now + holdTtlSecs * OffsetDateTime.nanosPerSecond ≤ OffsetDateTime.latest

/-- The uuids an admission draws are of no row. -/
structure FreshNonces (s : LedgerStore) (agentId : Option String) (nonces : AdmitNonces) : Prop where
  key : ∀ r ∈ s.reservations, ∀ lane, r.idempotencyKey ≠ holdKey lane agentId "n" nonces.key
  reservation : ∀ r ∈ s.reservations, r.id ≠ nonces.reservation

/-- The period's pool, if there is one, is kept in cents. -/
def KeptInCents (rt : SharedBudgetRuntime) (s : LedgerStore) : Prop :=
  ∀ cfg period, rt.state = .valid cfg → periodAt cfg rt.now = .ok period →
    ∀ pool, s.quotaPool period.poolId = some pool → pool.unit = .usdCents

/-- Hooks mode, a clock that can be stored, a pool kept in cents, uuids of no row, and no
read that fails. -/
structure Comparable (rt : SharedBudgetRuntime) (agentId : Option String) (nonces : AdmitNonces)
    (s : LedgerStore) : Prop where
  hooks : ∀ cfg, rt.state = .valid cfg → cfg.enforcement = .hooks
  storable : Storable rt.now
  cents : KeptInCents rt s
  fresh : FreshNonces s agentId nonces
  reads : ∀ point, rt.readFailure point = none

/-- No active hold of the period's pool is past its expiry. -/
def Timely (rt : SharedBudgetRuntime) (s : LedgerStore) : Prop :=
  ∀ cfg period, rt.state = .valid cfg → periodAt cfg rt.now = .ok period →
    ∀ r ∈ s.reservations, r.poolId = period.poolId → r.state = .active → rt.now < r.expiresAt

/-! ## The steps before the lane -/

theorem gateContext_reads (rt : SharedBudgetRuntime) (sessionId : String)
    (agentId provider : Option String) (s : LedgerStore) :
    (gateContext rt sessionId agentId provider s).2 = s :=
  (gateContext_triple rt sessionId agentId provider s s rfl).1

theorem Storable.formattable {now : OffsetDateTime} (storable : Storable now) :
    now.formattable = true := by
  have ttl : (0 : Int) ≤ (holdTtlSecs : Int) * OffsetDateTime.nanosPerSecond := by decide
  refine decide_eq_true ⟨storable.1, ?_⟩
  have later := storable.2
  simp only [OffsetDateTime] at *
  omega

theorem Storable.expiry {now : OffsetDateTime} (storable : Storable now) :
    ∃ expiresAt : OffsetDateTime, LedgerStore.expiryOf now holdTtlSecs = .ok expiresAt ∧
      rfc3339 expiresAt = .ok expiresAt := by
  have ttl : (0 : Int) ≤ (holdTtlSecs : Int) * OffsetDateTime.nanosPerSecond := by decide
  have early : OffsetDateTime.earliest ≤ OffsetDateTime.earliestText := by decide
  have capped : min holdTtlSecs maxTtlSecs = holdTtlSecs := by decide
  obtain ⟨first, last⟩ := storable
  have text : OffsetDateTime.earliestText ≤ now + holdTtlSecs * OffsetDateTime.nanosPerSecond := by
    simp only [OffsetDateTime] at *
    omega
  refine ⟨now + holdTtlSecs * OffsetDateTime.nanosPerSecond, ?_, ?_⟩
  · rw [LedgerStore.expiryOf, OffsetDateTime.checkedAdd, capped, if_pos ⟨early.trans text, last⟩]
  · exact if_pos (decide_eq_true ⟨text, last⟩)

/-- The pool an admission goes on with, and the rows as they were. -/
theorem ensurePool_ready (s : LedgerStore) (poolId : PoolId) {capacity : Nat} {now : OffsetDateTime}
    (fits : now.formattable = true) (small : capacity ≤ i64Max)
    (cents : ∀ pool, s.quotaPool poolId = some pool → pool.unit = .usdCents) :
    ∃ pool s', s.ensurePool poolId .usdCents capacity now = .ok (pool, s') ∧
      s'.reservations = s.reservations ∧ s'.quotaPool poolId = some pool ∧ pool.unit = .usdCents := by
  have stamp : rfc3339 now = .ok now := if_pos fits
  have cap : checkedI64 capacity = .ok capacity := if_pos small
  unfold LedgerStore.ensurePool
  rw [stamp, cap]
  cases found : s.quotaPools.find? poolId with
  | some pool => exact ⟨pool, s, rfl, rfl, found, cents pool found⟩
  | none =>
      dsimp only [Bind.bind, Except.bind]
      split
      · rename_i taken
        obtain ⟨pools, free⟩ := Table.insert?_of_free
          (r := (⟨poolId, .usdCents, capacity, now, now⟩ : QuotaPool)) found
        rw [free] at taken
        cases taken
      · rename_i pools inserted
        refine ⟨_, _, rfl, rfl, ?_, rfl⟩
        exact (Table.find?_insert? inserted poolId).trans (if_pos rfl)

/-- The sweep touches no live hold. -/
theorem activeSharedHoldForLane_swept (s : LedgerStore) (poolId : PoolId) (lane : Lane)
    (now : OffsetDateTime) :
    (sweptStore now s).activeSharedHoldForLane poolId principal lane now =
      s.activeSharedHoldForLane poolId principal lane now := by
  unfold LedgerStore.activeSharedHoldForLane
  rw [swept_rows, filter_map_eq_filter]
  intro r _
  by_cases stale : LedgerStore.stale now r = true
  · refine .inr ?_
    rw [if_pos stale]
    have past : ¬ (r.poolId = poolId ∧ r.state = .active ∧ now < r.expiresAt) := by
      rintro ⟨-, -, later⟩
      exact absurd (of_decide_eq_true stale).2 (not_le.mpr later)
    have closed : ¬ ((LedgerStore.resolveStale now r).poolId = poolId ∧
        (LedgerStore.resolveStale now r).state = .active ∧
        now < (LedgerStore.resolveStale now r).expiresAt) := by
      rintro ⟨-, active, -⟩
      exact resolveStale_closed now r active
    simp only [LedgerStore.liveOnLane, decide_eq_false past, decide_eq_false closed, Bool.false_and]
    exact ⟨trivial, trivial⟩
  · exact .inl (if_neg stale)

/-! ## Figures -/

theorem le_remaining_iff {cap settled active hold : Nat} (small : cap ≤ i64Max) (fits : hold ≤ cap) :
    (hold : Int) ≤ PoolAdmission.remaining
      ⟨cap, min settled u64Max, min active u64Max, 0⟩ ↔ settled + active + hold ≤ cap := by
  have wide := i64Max_lt_u64Max
  have max_eq : (i64Max : Int) = 2 ^ 63 - 1 := by decide
  unfold PoolAdmission.remaining PoolAdmission.clampI64
  simp only
  omega

/-- A check covers a turn exactly when the pool's figures do. -/
theorem remainingFigure_covers (s : LedgerStore) (poolId : PoolId) (cfg : SharedBudgetConfig)
    (now : OffsetDateTime) :
    (cfg.turnHoldUsdCents : Int) ≤ remainingFigure s poolId cfg now ↔
      s.settled poolId + s.active poolId + cfg.turnHoldUsdCents ≤ cfg.monthlyCapUsdCents := by
  unfold remainingFigure LedgerStore.poolAdmissionFor
  cases found : s.quotaPool poolId with
  | none =>
      have none_ : ∀ r ∈ s.reservations, r.poolId ≠ poolId := by
        intro r mem own
        obtain ⟨pool, there, same⟩ := s.pooled r mem
        exact (Table.find?_eq_none_iff _ _).mp found pool there (same.trans own)
      have zero : s.settled poolId + s.active poolId = 0 := by
        rw [settled_add_active]
        exact Table.sum_eq_zero _ fun r mem => if_neg (none_ r mem)
      rw [zero, Nat.zero_add]
      have covered := cfg.hold_le
      simp only [Option.map_none]
      omega
  | some pool =>
      have own : pool.poolId = poolId := ((Table.find?_eq_some_iff _ _ _).mp found).2
      rw [Option.map_some, LedgerStore.sourcedAdmission]
      simp only [source, LedgerStore.effectiveCapacity, LedgerStore.admissionAt, LedgerStore.overhangFor,
        own, LedgerStore.settledAndActive_eq]
      exact le_remaining_iff cfg.cap_le cfg.hold_le

theorem admits_covers (s : LedgerStore) (poolId : PoolId) (cfg : SharedBudgetConfig)
    (now : OffsetDateTime) :
    (s.admissionAt poolId cfg.monthlyCapUsdCents (source cfg) now).admits cfg.turnHoldUsdCents = true ↔
      s.settled poolId + s.active poolId + cfg.turnHoldUsdCents ≤ cfg.monthlyCapUsdCents := by
  rw [PoolAdmission.admits, decide_eq_true_iff]
  simp only [source, LedgerStore.admissionAt, LedgerStore.overhangFor, LedgerStore.settledAndActive_eq]
  exact le_remaining_iff cfg.cap_le cfg.hold_le

/-! ## The lane's answer -/

/-- The request was allowed. -/
def Allowed (answer : Except SharedBudgetError SharedBudgetOutcome) : Prop :=
  ∃ id poolId cents reused kind remaining periodEnd,
    answer = .ok (.allowed id poolId cents reused kind remaining periodEnd)

/-- The request was denied for the cap. -/
def CapExhausted (answer : Except SharedBudgetError SharedBudgetOutcome) : Prop :=
  ∃ remaining periodEnd, answer = .ok (.denied .capExhausted (some remaining) (some periodEnd) none)

theorem remainingOf_ready {rt : SharedBudgetRuntime} {point : FigureRead} (poolId : PoolId)
    (cfg : SharedBudgetConfig) (now : OffsetDateTime) (s : LedgerStore)
    (reads : rt.readFailure point = none) :
    remainingOf rt point poolId cfg now s = (.ok (.ok (remainingFigure s poolId cfg now)), s) := by
  unfold remainingOf
  rw [reads]
  rfl

/-- A hold with a kind is answered with. -/
theorem allowed_answers {rt : SharedBudgetRuntime} (ctx : GateContext) {hold : SharedPoolReservation}
    (reused : Bool) {kind : ExecutorKind} (s : LedgerStore) (named : hold.executorKind = some kind)
    (reads : rt.readFailure .answer = none) : Allowed (allowed rt ctx hold reused s).1 := by
  unfold allowed
  rw [named]
  dsimp only
  rw [bind_ok (remainingOf_ready hold.poolId ctx.cfg ctx.now s reads)]
  exact ⟨_, _, _, _, _, _, _, rfl⟩

/-- The lane's live hold is renewed. -/
theorem renewTurn_allowed {rt : SharedBudgetRuntime} {ctx : GateContext} {agentId : Option String}
    {s : LedgerStore} {existing : SharedPoolRow} (storable : Storable ctx.now)
    (kind : ctx.kind = kindOf agentId)
    (live : s.activeSharedHoldForLane ctx.period.poolId principal (ctx.laneOf agentId) ctx.now =
      some existing)
    (reads : rt.readFailure .answer = none) :
    ∃ outcome s', renewTurn rt ctx existing none s = (.ok (some outcome), s') ∧
      Allowed (.ok outcome) := by
  obtain ⟨mem, -, fresh, mine, lane, turn⟩ := live_of_some live
  have found : s.getSharedReservation existing.id = some existing :=
    (Table.find?_eq_some_iff _ _ _).mpr ⟨mem, rfl⟩
  have own : LedgerStore.renewable existing principal ctx.lane ctx.now = true :=
    decide_eq_true ⟨mine, congrArg Lane.sessionId lane, ((activeTurn_iff existing).mp turn).1, fresh⟩
  obtain ⟨expiresAt, expiry, text⟩ := storable.expiry
  have renewed : ∃ s', s.renewSharedForPrompt existing.id principal ctx.lane ctx.now holdTtlSecs none =
      .ok (.renewed (existing.renew expiresAt).toSharedPoolReservation, s') := by
    unfold LedgerStore.renewSharedForPrompt
    rw [found]
    dsimp only
    simp only [if_pos own, expiry, text, Bind.bind, Except.bind]
    exact ⟨_, rfl⟩
  obtain ⟨s', renewed⟩ := renewed
  have named : (existing.renew expiresAt).executorKind = some (kindOf agentId) := by
    have stored : existing.executorKind.getD .unattributed = ctx.kind :=
      congrArg Lane.executorKind lane
    change existing.executorKind = _
    rw [kind] at stored
    cases held : existing.executorKind with
    | some k =>
        rw [held] at stored
        exact congrArg some stored
    | none =>
        rw [held] at stored
        cases agentId with
        | none => cases stored
        | some agent => cases stored
  obtain ⟨id, poolId, cents, reused, k, remaining, periodEnd, answered⟩ :=
    allowed_answers ctx true s' named reads
  unfold renewTurn
  rw [bind_ok (ledger_ok renewed)]
  dsimp only
  rw [bind_pure_apply, answered]
  exact ⟨_, _, rfl, _, _, _, _, _, _, _, rfl⟩

theorem attributionFor_resolves {agentId : Option String} (named : agentId ≠ some "") :
    (attributionFor agentId .turnHold).resolve = .ok ⟨agentId, some (kindOf agentId), some .turnHold⟩ := by
  cases agentId with
  | none => rfl
  | some agent =>
      unfold ExecutorAttribution.resolve
      rw [if_neg (show (attributionFor (some agent) .turnHold).agentId ≠ some "" from named)]
      rfl

/-- A fresh row under a key of no row is written. -/
theorem insertReservation_ready {s : LedgerStore} (row : SharedPoolRow) {pool : QuotaPool}
    (key : ∀ r ∈ s.reservations, r.idempotencyKey ≠ row.idempotencyKey)
    (id : ∀ r ∈ s.reservations, r.id ≠ row.id) (found : s.quotaPool row.poolId = some pool) :
    ∃ s', s.insertReservation row = .ok s' := by
  have free : s.reservations.find? row.id = none := (Table.find?_eq_none_iff _ _).mpr id
  obtain ⟨rows, inserted⟩ := Table.insert?_of_free (r := row) free
  unfold LedgerStore.insertReservation
  split
  · rename_i taken
    obtain ⟨r, mem, same⟩ := List.mem_map.mp taken
    exact absurd (congrArg (fun k => k.2.2) same) (key r mem)
  · split
    · exact ⟨_, rfl⟩
    · rename_i other
      exact absurd found (other rows pool inserted)

section FreshKey

variable {rt : SharedBudgetRuntime} {ctx : GateContext} {agentId : Option String} {s : LedgerStore}
variable {pool : QuotaPool} {key : String}

/-- A reserve with no prompt and under a key of no row, up to its grant. -/
theorem reserve_fresh (fresh : SharedPoolReservationId) (named : agentId ≠ some "")
    (found : s.quotaPool ctx.period.poolId = some pool) (cents : pool.unit = .usdCents)
    (freeKey : ∀ r ∈ s.reservations, r.idempotencyKey ≠ key) :
    s.reserveSharedMeteredForPrompt (turnRequest ctx agentId key) ⟨none, source ctx.cfg⟩ none fresh =
      (let admission := s.admissionAt ctx.period.poolId ctx.cfg.monthlyCapUsdCents (source ctx.cfg) ctx.now
      if admission.admits ctx.cfg.turnHoldUsdCents then
        (s.grantHold (turnRequest ctx agentId key) fresh
          ⟨agentId, some (kindOf agentId), some .turnHold⟩).map
          fun out => (.granted out.1.toSharedPoolReservation, out.2)
      else .ok (.insufficient admission ctx.cfg.turnHoldUsdCents, s)) := by
  have absent : s.findByKey ctx.period.poolId principal key = none := by
    refine List.find?_eq_none.mpr ?_
    intro r mem same
    exact freeKey r mem (congrArg (fun k => k.2.2) (of_decide_eq_true same))
  unfold LedgerStore.reserveSharedMeteredForPrompt LedgerStore.reserveSharedMetered
    LedgerStore.reserveSharedCore
  rw [show (turnRequest ctx agentId key).attribution.resolve = _ from attributionFor_resolves named]
  simp only [turnRequest, absent, found, cents, ne_eq, not_true_eq_false, if_false,
    LedgerStore.reserveCapacity, LedgerStore.effectiveCapacity,
    LedgerStore.sessionCapRefusal, Bind.bind, Except.bind, Option.bind, source,
    LedgerStore.overhangSource]
  by_cases admits : (s.admissionAt ctx.period.poolId ctx.cfg.monthlyCapUsdCents
      (.localConfigured ctx.cfg.monthlyCapUsdCents) ctx.now).admits ctx.cfg.turnHoldUsdCents = true
  · simp only [admits, if_true]
    cases s.grantHold _ fresh _ with
    | ok out => rfl
    | error e => rfl
  · simp only [admits, Bool.false_eq_true, if_false]
    rfl

theorem grantHold_ready {fresh : SharedPoolReservationId} (agentId : Option String) (storable : Storable ctx.now)
    (found : s.quotaPool ctx.period.poolId = some pool)
    (freeKey : ∀ r ∈ s.reservations, r.idempotencyKey ≠ key)
    (freeId : ∀ r ∈ s.reservations, r.id ≠ fresh) (attribution : ExecutorAttribution) :
    ∃ row s', s.grantHold (turnRequest ctx agentId key) fresh attribution = .ok (row, s') ∧
      row.executorKind = attribution.executorKind := by
  obtain ⟨expiresAt, expiry, text⟩ := storable.expiry
  have stamp : rfc3339 ctx.now = .ok ctx.now := if_pos storable.formattable
  have amount : checkedI64 ctx.cfg.turnHoldUsdCents = .ok ctx.cfg.turnHoldUsdCents :=
    if_pos (ctx.cfg.hold_le.trans ctx.cfg.cap_le)
  obtain ⟨s', inserted⟩ := insertReservation_ready
    (LedgerStore.holdRow (turnRequest ctx agentId key) fresh attribution
      ctx.cfg.turnHoldUsdCents ctx.now expiresAt) freeKey freeId found
  refine ⟨LedgerStore.holdRow (turnRequest ctx agentId key) fresh attribution
    ctx.cfg.turnHoldUsdCents ctx.now expiresAt, s', ?_, rfl⟩
  unfold LedgerStore.grantHold
  simp only [turnRequest] at inserted ⊢
  simp only [expiry, amount, stamp, text, inserted, Bind.bind, Except.bind]
  rfl

/-- A reserve under a fresh key answers by the figures alone. -/
theorem reserveTurn_fresh {fresh : SharedPoolReservationId}
    (rest : List (String × SharedPoolReservationId)) (storable : Storable ctx.now)
    (named : agentId ≠ some "") (reads : rt.readFailure .answer = none)
    (found : s.quotaPool ctx.period.poolId = some pool) (cents : pool.unit = .usdCents)
    (freeKey : ∀ r ∈ s.reservations, r.idempotencyKey ≠ key)
    (freeId : ∀ r ∈ s.reservations, r.id ≠ fresh) :
    if s.settled ctx.period.poolId + s.active ctx.period.poolId + ctx.cfg.turnHoldUsdCents ≤
        ctx.cfg.monthlyCapUsdCents then
      Allowed (reserveTurn rt ctx agentId none ((key, fresh) :: rest) s).1
    else CapExhausted (reserveTurn rt ctx agentId none ((key, fresh) :: rest) s).1 := by
  have reserved := reserve_fresh fresh named found cents freeKey
  have covers := admits_covers s ctx.period.poolId ctx.cfg ctx.now
  unfold reserveTurn
  dsimp only at reserved
  split
  · rename_i covered
    obtain ⟨row, s', granted, kind⟩ := grantHold_ready agentId storable found freeKey freeId
      ⟨agentId, some (kindOf agentId), some .turnHold⟩
    rw [if_pos (covers.mpr covered), granted] at reserved
    rw [bind_ok (attempt_ok reserved)]
    exact allowed_answers ctx false s' kind reads
  · rename_i exhausted
    rw [if_neg (fun admits => exhausted (covers.mp admits))] at reserved
    rw [bind_ok (attempt_ok reserved)]
    exact ⟨_, _, rfl⟩

end FreshKey

/-! ## Agreement -/

theorem admissionLane_blank (sessionId : String) (provider : Option String) (enrolled : Bool) :
    ∃ refused, admissionLane sessionId (some "") provider enrolled = .error refused := by
  have blank : isBlank "" = true := by decide
  unfold admissionLane validateIdentity
  dsimp only
  rw [if_pos blank]
  split
  · exact ⟨_, rfl⟩
  · rename_i kind valid
    split at valid
    · cases valid
    split at valid
    · cases valid
    · cases valid

/-- The agent of a request that is let through is not blank. -/
theorem gateContext_named {rt : SharedBudgetRuntime} {sessionId : String}
    {agentId provider : Option String} {ctx : GateContext} {s s' : LedgerStore}
    (ready : gateContext rt sessionId agentId provider s = (.ok (.ok ctx), s')) :
    agentId ≠ some "" := by
  rintro rfl
  obtain ⟨refused, laned⟩ := admissionLane_blank sessionId provider rt.codexEnrolled
  unfold gateContext at ready
  rw [laned] at ready
  cases state : rt.state with
  | absent =>
      rw [state] at ready
      cases ready
  | valid cfg =>
      rw [state] at ready
      cases ready
  | invalid reason =>
      rw [state] at ready
      cases ready

/-- Neither a refusal of the gate nor its denial is a check's answer. -/
def SharedBudgetOutcome.isChecked : SharedBudgetOutcome → Bool
  | .checked _ _ _ => true
  | _ => false

theorem admissionLane_unchecked {sessionId : String} {agentId provider : Option String}
    {enrolled : Bool} {outcome : SharedBudgetOutcome}
    (refused : admissionLane sessionId agentId provider enrolled = .error outcome) :
    outcome.isChecked = false := by
  unfold admissionLane at refused
  split at refused
  · cases refused
    rfl
  split at refused
  · cases refused
    rfl
  split at refused
  · cases refused
    rfl
  · cases refused

theorem gateContext_unchecked (rt : SharedBudgetRuntime) (sessionId : String)
    (agentId provider : Option String) :
    Answers (fun answer => ∀ outcome, answer = .error outcome → outcome.isChecked = false)
      (gateContext rt sessionId agentId provider) := by
  unfold gateContext
  split
  · refine Answers.pure ?_
    rintro _ ⟨⟩
    rfl
  split
  · rename_i outcome refused
    refine Answers.pure ?_
    rintro _ ⟨⟩
    exact admissionLane_unchecked refused
  split
  · rename_i outcome invalid
    refine Answers.pure ?_
    rintro _ ⟨⟩
    unfold configured at invalid
    split at invalid
    · cases invalid
      rfl
    · cases invalid
      rfl
    · cases invalid
  · refine Answers.bind fun period => Answers.bind fun later => ?_
    cases later with
    | some later =>
        refine Answers.pure ?_
        rintro _ ⟨⟩
        rfl
    | none =>
        refine Answers.pure ?_
        rintro _ ⟨⟩

section Agreement

variable {rt : SharedBudgetRuntime} {sessionId : String} {agentId provider : Option String}
variable {nonces : AdmitNonces} {s : LedgerStore}

/-- What the admission finds once the pool is there and the sweep has run. -/
theorem admitTurn_lane (nonces : AdmitNonces) {ctx : GateContext} {s' : LedgerStore}
    (hooks : ctx.cfg.enforcement = .hooks) (storable : Storable ctx.now)
    (cents : ∀ pool, s.quotaPool ctx.period.poolId = some pool → pool.unit = .usdCents)
    (ready : gateContext rt sessionId agentId provider s = (.ok (.ok ctx), s')) (same : s' = s) :
    ∃ pool mid, admitTurn rt sessionId agentId none provider nonces s =
        admitOnLane rt ctx agentId none nonces (sweptStore ctx.now mid) ∧
      mid.reservations = s.reservations ∧ mid.quotaPool ctx.period.poolId = some pool ∧
      pool.unit = .usdCents := by
  subst same
  obtain ⟨pool, mid, created, rows, found, unit⟩ := ensurePool_ready s' ctx.period.poolId
    storable.formattable ctx.cfg.cap_le cents
  obtain ⟨out, swept⟩ := sweep_ready mid storable.formattable
  refine ⟨pool, mid, ?_, rows, found, unit⟩
  have notGateway : ¬ (ctx.cfg.enforcement = .gateway ∧ isClaudeProvider provider = true) := by
    rintro ⟨gateway, -⟩
    rw [hooks] at gateway
    cases gateway
  unfold admitTurn
  rw [bind_ok ready]
  dsimp only
  rw [if_neg notGateway, ensurePeriodPool, bind_ok (ledger_ok created), bind_ok (ledger_ok swept)]
  rfl

/-- What a check finds of the lane. -/
def laneState (ctx : GateContext) (agentId : Option String) (s : LedgerStore) : SharedBudgetCheckState :=
  if (s.activeSharedHoldForLane ctx.period.poolId principal (ctx.laneOf agentId) ctx.now).isSome
  then .admitted
  else if remainingFigure s ctx.period.poolId ctx.cfg ctx.now < (ctx.cfg.turnHoldUsdCents : Int)
  then .exhausted else .available

/-- The answer of a check in hooks mode, from a context that is ready. -/
theorem check_ready {ctx : GateContext} (hooks : ctx.cfg.enforcement = .hooks)
    (reads : rt.readFailure .gate = none)
    (ready : gateContext rt sessionId agentId provider s = (.ok (.ok ctx), s)) :
    check rt sessionId agentId provider s =
      (.ok (.checked (laneState ctx agentId s)
        (remainingFigure s ctx.period.poolId ctx.cfg ctx.now) ctx.period.end_), s) := by
  have notGateway : ¬ (ctx.cfg.enforcement = .gateway ∧ isClaudeProvider provider = true) := by
    rintro ⟨gateway, -⟩
    rw [hooks] at gateway
    cases gateway
  unfold check
  rw [bind_ok ready]
  dsimp only
  rw [bind_ok (remainingOf_ready _ _ _ _ reads)]
  dsimp only
  rw [if_neg notGateway]
  rfl

/-- A check is a read. -/
theorem check_reads (rt : SharedBudgetRuntime) (sessionId : String) (agentId provider : Option String)
    (s : LedgerStore) : (check rt sessionId agentId provider s).2 = s := by
  have kept : Keeps (· = s) (check rt sessionId agentId provider) := by
    unfold check
    refine Keeps.bind ?_ fun context => ?_
    · rintro s' rfl
      exact gateContext_reads rt sessionId agentId provider s'
    cases context with
    | error outcome => exact Keeps.pure _
    | ok ctx =>
        refine Keeps.bind (keeps_remainingOf rt .gate _ _ _) fun figure => ?_
        cases figure with
        | error e => exact Keeps.fail _
        | ok remaining =>
            dsimp only
            split
            · split
              · exact Keeps.pure _
              · exact Keeps.pure _
            · exact Keeps.bind (Keeps.read _) fun _ => Keeps.pure _
  exact kept s rfl

/-- With no prompt there is nothing to replay and no new turn to cover. -/
theorem admitOnLane_unbound (ctx : GateContext) :
    admitOnLane rt ctx agentId none nonces s =
      match s.activeSharedHoldForLane ctx.period.poolId principal (ctx.laneOf agentId) ctx.now with
      | none => reserveTurn rt ctx agentId none (turnKeys ctx agentId none nonces) s
      | some existing => (renewTurn rt ctx existing none >>= fun renewed =>
          match renewed with
          | some outcome => pure outcome
          | none => reserveTurn rt ctx agentId none (turnKeys ctx agentId none nonces)) s := by
  have unbound : (if agentId.isNone then (none : Option String) else none) = none := ite_self _
  unfold admitOnLane
  rw [unbound, read_bind_apply]
  change (match s.activeSharedHoldForLane ctx.period.poolId principal (ctx.laneOf agentId) ctx.now with
    | none => reserveTurn rt ctx agentId none (turnKeys ctx agentId none nonces)
    | some existing => _) s = _
  cases s.activeSharedHoldForLane ctx.period.poolId principal (ctx.laneOf agentId) ctx.now with
  | none => rfl
  | some existing => rfl

/-- The lane has a live hold, or the pool covers a turn. -/
def LaneCovered (ctx : GateContext) (agentId : Option String) (s : LedgerStore) : Prop :=
  (s.activeSharedHoldForLane ctx.period.poolId principal (ctx.laneOf agentId) ctx.now).isSome ∨
    s.settled ctx.period.poolId + s.active ctx.period.poolId + ctx.cfg.turnHoldUsdCents ≤
      ctx.cfg.monthlyCapUsdCents

/-- A check calls a lane exhausted exactly when it is not covered. -/
theorem laneState_exhausted_iff (ctx : GateContext) (agentId : Option String) (s : LedgerStore) :
    laneState ctx agentId s = .exhausted ↔ ¬ LaneCovered ctx agentId s := by
  unfold laneState LaneCovered
  rw [← remainingFigure_covers s ctx.period.poolId ctx.cfg ctx.now]
  by_cases held : (s.activeSharedHoldForLane ctx.period.poolId principal (ctx.laneOf agentId)
      ctx.now).isSome
  · simp [held]
  · by_cases short : remainingFigure s ctx.period.poolId ctx.cfg ctx.now <
        (ctx.cfg.turnHoldUsdCents : Int)
    · simp [held, short]
    · simp [held, short, not_lt.mp short]

/-- The rows the sweep leaves hold the same live hold, and no more than before. -/
theorem LaneCovered.swept {ctx : GateContext} {mid : LedgerStore}
    (rows : mid.reservations = s.reservations) (covered : LaneCovered ctx agentId s) :
    LaneCovered ctx agentId (sweptStore ctx.now mid) := by
  unfold LaneCovered at covered ⊢
  have freed := swept_le ctx.now mid ctx.period.poolId
  rw [settled_add_active, settled_add_active] at freed
  rw [activeSharedHoldForLane_swept]
  rw [LedgerStore.activeSharedHoldForLane, ← rows] at covered
  rw [settled_add_active] at covered ⊢
  rw [← rows] at covered
  exact covered.imp id fun fits => (Nat.add_le_add_right freed _).trans fits

/-- The sweep covers no lane when it finds no hold of the pool. -/
theorem laneCovered_of_swept {ctx : GateContext} {mid : LedgerStore}
    (rows : mid.reservations = s.reservations)
    (timely : ∀ r ∈ s.reservations, r.poolId = ctx.period.poolId → r.state = .active →
      ctx.now < r.expiresAt)
    (covered : LaneCovered ctx agentId (sweptStore ctx.now mid)) : LaneCovered ctx agentId s := by
  unfold LaneCovered at covered ⊢
  rw [← rows] at timely
  have kept := swept_eq timely
  rw [activeSharedHoldForLane_swept, kept] at covered
  rw [LedgerStore.activeSharedHoldForLane, settled_add_active, rows] at covered
  rw [settled_add_active]
  exact covered

/-- The lane of an admission with no prompt: a live hold is renewed, and without one the
figures decide. -/
theorem admitOnLane_answers {ctx : GateContext} {pool : QuotaPool} (rt : SharedBudgetRuntime)
    (storable : Storable ctx.now)
    (kind : ctx.kind = kindOf agentId) (named : agentId ≠ some "")
    (reads : rt.readFailure .answer = none) (found : s.quotaPool ctx.period.poolId = some pool)
    (cents : pool.unit = .usdCents) (fresh : FreshNonces s agentId nonces) :
    (LaneCovered ctx agentId s → Allowed (admitOnLane rt ctx agentId none nonces s).1) ∧
      (¬ LaneCovered ctx agentId s → CapExhausted (admitOnLane rt ctx agentId none nonces s).1) := by
  unfold LaneCovered
  cases live : s.activeSharedHoldForLane ctx.period.poolId principal (ctx.laneOf agentId) ctx.now with
  | some existing =>
      obtain ⟨outcome, s', renewed, answered⟩ := renewTurn_allowed storable kind live reads
      have run : admitOnLane rt ctx agentId none nonces s = (.ok outcome, s') := by
        rw [admitOnLane_unbound, live]
        exact bind_ok renewed
      rw [run]
      exact ⟨fun _ => answered, fun vacant => absurd (.inl rfl) vacant⟩
  | none =>
      have run : admitOnLane rt ctx agentId none nonces s =
          reserveTurn rt ctx agentId none (turnKeys ctx agentId none nonces) s := by
        rw [admitOnLane_unbound, live]
      have decided := reserveTurn_fresh [(holdKey ctx.lane agentId "n" nonces.retryKey,
        nonces.retryReservation)] storable named reads found cents
        (fun r mem => fresh.key r mem ctx.lane) fresh.reservation
      rw [run]
      simp only [Option.isSome_none, Bool.false_eq_true, false_or]
      constructor
      · intro covered
        rw [if_pos covered] at decided
        exact decided
      · intro exhausted
        rw [if_neg exhausted] at decided
        exact decided

theorem FreshNonces.swept {mid : LedgerStore} (now : OffsetDateTime)
    (fresh : FreshNonces s agentId nonces) (rows : mid.reservations = s.reservations) :
    FreshNonces (sweptStore now mid) agentId nonces := by
  have known : ∀ r' ∈ (sweptStore now mid).reservations, ∃ r ∈ s.reservations, r'.ident = r.ident := by
    intro r' mem
    obtain ⟨r, old, rfl⟩ := List.mem_map.mp mem
    refine ⟨r, rows ▸ old, ?_⟩
    exact LedgerStore.ident_ite (p := fun r => LedgerStore.stale now r = true)
      (LedgerStore.resolveStale_ident now) r
  constructor
  · intro r' mem lane same
    obtain ⟨r, old, ident⟩ := known r' mem
    exact fresh.key r old lane ((congrArg (fun i => i.2.2.2) ident).symm.trans same)
  · intro r' mem same
    obtain ⟨r, old, ident⟩ := known r' mem
    exact fresh.reservation r old ((congrArg Prod.fst ident).symm.trans same)

/-- What a check says, an admission without a prompt does; and a check writes nothing. -/
theorem check_agrees (rt : SharedBudgetRuntime) (sessionId : String) (agentId provider : Option String)
    (nonces : AdmitNonces) (s : LedgerStore) :
    (check rt sessionId agentId provider s).2 = s ∧
    (Comparable rt agentId nonces s → ∀ state remaining periodEnd,
      (check rt sessionId agentId provider s).1 = .ok (.checked state remaining periodEnd) →
        (state = .admitted ∨ state = .available →
          Allowed (admitTurn rt sessionId agentId none provider nonces s).1) ∧
        (state = .exhausted → Timely rt s →
          CapExhausted (admitTurn rt sessionId agentId none provider nonces s).1)) := by
  refine ⟨check_reads rt sessionId agentId provider s, ?_⟩
  intro comparable state remaining periodEnd checked
  obtain ⟨reads, known⟩ := gateContext_triple rt sessionId agentId provider s s rfl
  rcases gated : gateContext rt sessionId agentId provider s with ⟨e | outcome | ctx, s'⟩
  · rw [check, bind_apply, gated] at checked
    cases checked
  · have unchecked := gateContext_unchecked rt sessionId agentId provider s (.error outcome)
      (congrArg Prod.fst gated) outcome rfl
    rw [check, bind_ok gated] at checked
    cases checked
    cases unchecked
  · rw [gated] at reads known
    obtain rfl : s' = s := reads
    have ready : GateReady rt sessionId agentId provider ctx := known _ rfl
    have clock : ctx.now = rt.now := ready.now
    have storable : Storable ctx.now := clock ▸ comparable.storable
    have hooks := comparable.hooks ctx.cfg ready.valid
    have cents := comparable.cents ctx.cfg ctx.period ready.valid ready.period
    obtain ⟨pool, mid, admitted, rows, found, unit⟩ :=
      admitTurn_lane nonces hooks storable cents gated rfl
    rw [check_ready hooks (comparable.reads .gate) gated] at checked
    cases checked
    have there : (sweptStore ctx.now mid).quotaPool ctx.period.poolId = some pool := found
    obtain ⟨covers, exhausts⟩ := admitOnLane_answers rt storable ready.kind (gateContext_named gated)
      (comparable.reads .answer) there unit (comparable.fresh.swept ctx.now rows)
    have stated := laneState_exhausted_iff ctx agentId s'
    rw [admitted]
    constructor
    · intro let_in
      refine covers (LaneCovered.swept rows ?_)
      by_contra uncovered
      rw [stated.mpr uncovered] at let_in
      rcases let_in with ⟨⟨⟩⟩ | ⟨⟨⟩⟩
    · intro exhausted timely
      refine exhausts fun covered => stated.mp exhausted (laneCovered_of_swept rows ?_ covered)
      rw [clock]
      exact timely ctx.cfg ctx.period ready.valid ready.period

end Agreement

theorem comparable_empty (agentId : Option String) (nonces : AdmitNonces) :
    Comparable (hooksRuntime january) agentId nonces .empty where
  hooks := by
    rintro cfg ⟨⟩
    rfl
  storable := by
    constructor
    · decide
    · decide
  cents := by
    rintro cfg period - - pool ⟨⟩
  fresh := by
    constructor
    · rintro r ⟨⟩
    · rintro r ⟨⟩
  reads := fun _ => rfl

/-- Every key of a hold ends with its id. -/
theorem holdKey_suffix (lane : String) (agentId : Option String) (tag id : String) :
    (lp id).toList <:+ (holdKey lane agentId tag id).toList := by
  rw [holdKey, String.toList_append]
  exact List.suffix_append _ _

/-- A turn of `session` holds ten cents of January's thousand, and an agent has spent 985. -/
def heldAndSpent : LedgerStore :=
  (charge (hooksRuntime january) { toolCharge none with amountUsdCents := 985 } ⟨5⟩
    (admitTurn (hooksRuntime january) "session" none (some "prompt-1") none (turnNonces 1) .empty).2).2

theorem comparable_heldAndSpent : Comparable (hooksRuntime january) none (turnNonces 3) heldAndSpent where
  hooks := (comparable_empty none (turnNonces 3)).hooks
  storable := (comparable_empty none (turnNonces 3)).storable
  cents := by
    have units : ∀ pool ∈ heldAndSpent.quotaPools.rows, pool.unit = .usdCents := by decide +kernel
    intro cfg period _ _ pool found
    exact units pool ((Table.find?_eq_some_iff _ _ _).mp found).1
  fresh := by
    constructor
    · have apart : ∀ r ∈ heldAndSpent.reservations.rows,
          ¬ (lp "nonce").toList <:+ r.idempotencyKey.toList := by decide +kernel
      intro r mem lane same
      refine apart r mem ?_
      rw [same]
      exact holdKey_suffix lane none "n" "nonce"
    · have apart : ∀ r ∈ heldAndSpent.reservations.rows, r.id ≠ (turnNonces 3).reservation := by
        decide +kernel
      exact apart
  reads := fun _ => rfl

theorem timely_heldAndSpent : Timely (hooksRuntime january) heldAndSpent := by
  have live : ∀ r ∈ heldAndSpent.reservations.rows, r.state = .active → january < r.expiresAt := by
    decide +kernel
  intro cfg period _ _ r mem _ active
  exact live r mem active

/-- The lane with a live hold is admitted though the pool is spent, and another is not. -/
theorem available_then_allowed :
    (check (hooksRuntime january) "session" none none heldAndSpent).1.toOption =
      some (.checked .admitted 5 1769904000000000000) ∧
    Allowed (admitTurn (hooksRuntime january) "session" none none none (turnNonces 3) heldAndSpent).1 ∧
    (check (hooksRuntime january) "other" none none heldAndSpent).1.toOption =
      some (.checked .exhausted 5 1769904000000000000) ∧
    CapExhausted (admitTurn (hooksRuntime january) "other" none none none (turnNonces 3) heldAndSpent).1 ∧
    Allowed (admitTurn (hooksRuntime january) "session" none none none (turnNonces 1) .empty).1 := by
  have ofAnswer {answer : Except SharedBudgetError SharedBudgetOutcome} {outcome : SharedBudgetOutcome}
      (given : answer.toOption = some outcome) : answer = .ok outcome := by
    cases answer with
    | error e => cases given
    | ok outcome' => cases given; rfl
  have held : (check (hooksRuntime january) "session" none none heldAndSpent).1.toOption =
      some (.checked .admitted 5 1769904000000000000) := by decide +kernel
  have short : (check (hooksRuntime january) "other" none none heldAndSpent).1.toOption =
      some (.checked .exhausted 5 1769904000000000000) := by decide +kernel
  have free : (check (hooksRuntime january) "session" none none .empty).1.toOption =
      some (.checked .available 1000 1769904000000000000) := by decide +kernel
  refine ⟨held, ?_, short, ?_, ?_⟩
  · exact ((check_agrees (hooksRuntime january) "session" none none (turnNonces 3) heldAndSpent).2
      comparable_heldAndSpent _ _ _ (ofAnswer held)).1 (.inl rfl)
  · exact ((check_agrees (hooksRuntime january) "other" none none (turnNonces 3) heldAndSpent).2
      comparable_heldAndSpent _ _ _ (ofAnswer short)).2 rfl timely_heldAndSpent
  · exact ((check_agrees (hooksRuntime january) "session" none none (turnNonces 1) .empty).2
      (comparable_empty none (turnNonces 1)) _ _ _ (ofAnswer free)).1 (.inr rfl)

/-- January's pool, kept in tokens. -/
def tokenPool : LedgerStore :=
  { LedgerStore.empty with
    quotaPools := ⟨[⟨⟨"metered:local-budget/monthly-2026-01"⟩, .tokens, 1000, january, january⟩],
      List.nodup_singleton _⟩
    pooled := by rintro r ⟨⟩ }

/-- A check does not look at the pool's unit. -/
theorem check_overlooks_unit :
    ¬ ∀ (rt : SharedBudgetRuntime) (nonces : AdmitNonces) (s : LedgerStore),
      (∀ cfg, rt.state = .valid cfg → cfg.enforcement = .hooks) → Storable rt.now →
      FreshNonces s none nonces → (∀ point, rt.readFailure point = none) →
      ∀ remaining periodEnd,
        (check rt "session" none none s).1 = .ok (.checked .available remaining periodEnd) →
          Allowed (admitTurn rt "session" none none none nonces s).1 := by
  intro agrees
  have ready := comparable_empty none (turnNonces 1)
  have fresh : FreshNonces tokenPool none (turnNonces 1) := by
    constructor
    · rintro r ⟨⟩
    · rintro r ⟨⟩
  have answer : (check (hooksRuntime january) "session" none none tokenPool).1.toOption =
      some (.checked .available 1000 1769904000000000000) := by decide +kernel
  have refused : (admitTurn (hooksRuntime january) "session" none none none (turnNonces 1)
      tokenPool).1.toOption = some (.refused .poolUnitMismatch) := by decide +kernel
  have both := agrees (hooksRuntime january) (turnNonces 1) tokenPool ready.hooks ready.storable fresh
    ready.reads
  generalize (check _ _ _ _ _).1 = checked at answer both
  generalize (admitTurn _ _ _ _ _ _ _).1 = admitted at refused both
  cases checked with
  | error e => cases answer
  | ok outcome =>
      cases answer
      obtain ⟨id, poolId, cents, reused, kind, remaining, periodEnd, rfl⟩ := both _ _ rfl
      cases refused

end LibraGovernor
