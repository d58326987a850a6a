/-
# LibraGovernor.Daemon.Admission -- one live hold for a lane, one hold for a prompt

`AdmitStep` says everything an admission can do once its pool is there and the sweep has
run: nothing, renew the lane's live hold, open a hold on a lane that has none, or open one
and take it back.  With it every request of the budget keeps `LanesInv`: a lane has at most
one active hold in a pool.  Prompts stay with the hold that accepted them.
-/
import LibraGovernor.Daemon.Turns

namespace LibraGovernor

open Relational Transaction Transition Procedure

set_option autoImplicit false

/-! ## Lanes -/

/-- The lane a row is on. -/
def SharedPoolRow.lane (r : SharedPoolRow) : Lane :=
  ⟨r.sessionId, r.agentId, r.executorKind.getD .unattributed⟩

/-- A hold a turn can run on: active, and neither a charge nor the gateway's. -/
def SharedPoolRow.activeTurn (r : SharedPoolRow) : Bool := decide (r.state = .active) && r.turnHold

/-- Every row is of a known kind, a lane has one active hold in a pool, and a prompt is
bound to a row that exists. -/
structure LanesInv (s : LedgerStore) : Prop where
  rows : ∀ r ∈ s.reservations, TurnRow r ∨ Bystander r
  one : ∀ r ∈ s.reservations, ∀ r' ∈ s.reservations, r.activeTurn = true → r'.activeTurn = true →
    r.poolId = r'.poolId → r.lane = r'.lane → r = r'
  bound : ∀ p ∈ s.holdPrompts, ∃ r ∈ s.reservations, r.id = p.reservationId

theorem activeTurn_iff (r : SharedPoolRow) :
    r.activeTurn = true ↔ r.state = .active ∧ r.turnHold = true := by
  simp [SharedPoolRow.activeTurn]

namespace LanesInv

variable {s s' : LedgerStore}

theorem turnRow (inv : LanesInv s) {r : SharedPoolRow} (mem : r ∈ s.reservations)
    (turn : r.turnHold = true) : TurnRow r := by
  obtain row | apart := inv.rows r mem
  · exact row
  · rw [apart.not_turnHold] at turn
    cases turn

/-- Where an active hold comes from, when no hold was opened. -/
theorem origin (inv : LanesInv s) (quiet : Quiet s s') {r' : SharedPoolRow}
    (mem : r' ∈ s'.reservations) (active : r'.activeTurn = true) :
    ∃ r ∈ s.reservations, r.activeTurn = true ∧ r.id = r'.id ∧ r.poolId = r'.poolId ∧
      r.lane = r'.lane := by
  obtain ⟨state, turn⟩ := (activeTurn_iff r').mp active
  obtain apart | ⟨r, old, ages⟩ := quiet.rows r' mem
  · rw [apart.not_turnHold] at turn
    cases turn
  obtain row | apart := inv.rows r old
  · obtain ⟨session, agent, kind⟩ := ages.lane row
    refine ⟨r, old, (activeTurn_iff r).mpr ⟨ages.of_active state, row.turnHold⟩, ages.id.symm,
      ages.poolId.symm, ?_⟩
    rw [SharedPoolRow.lane, SharedPoolRow.lane, session, agent, kind]
  · rw [(ages.bystander apart).not_turnHold] at turn
    cases turn

theorem quiet (inv : LanesInv s) (quiet : Quiet s s') : LanesInv s' where
  rows := by
    intro r' mem
    obtain apart | ⟨r, old, ages⟩ := quiet.rows r' mem
    · exact .inr apart
    · obtain row | apart := inv.rows r old
      · exact .inl (ages.turnRow row)
      · exact .inr (ages.bystander apart)
  one := by
    intro r₁ mem₁ r₂ mem₂ active₁ active₂ pool lane
    obtain ⟨o₁, old₁, was₁, id₁, pool₁, lane₁⟩ := inv.origin quiet mem₁ active₁
    obtain ⟨o₂, old₂, was₂, id₂, pool₂, lane₂⟩ := inv.origin quiet mem₂ active₂
    have same : o₁ = o₂ := inv.one o₁ old₁ o₂ old₂ was₁ was₂ (by rw [pool₁, pool₂, pool])
      (by rw [lane₁, lane₂, lane])
    refine s'.reservations.eq_of_key mem₁ mem₂ ?_
    rw [← id₁, ← id₂, same]
  bound := by
    intro p mem
    rw [quiet.holdPrompts] at mem
    obtain ⟨r, old, here⟩ := inv.bound p mem
    obtain ⟨r', mem', ages⟩ := quiet.kept r old
    exact ⟨r', mem', ages.id.trans here⟩

theorem bound_some (inv : LanesInv s) {sessionId promptId : String}
    {id : SharedPoolReservationId} (found : s.holdForPrompt principal sessionId promptId = some id) :
    ∃ r ∈ s.reservations, r.id = id := by
  obtain ⟨p, named, rfl⟩ := Option.map_eq_some_iff.mp found
  exact inv.bound p ((Table.find?_eq_some_iff _ _ _).mp named).1

end LanesInv

/-! ## What an admission knows -/

/-- The context an admission runs in. -/
structure GateReady (rt : SharedBudgetRuntime) (sessionId : String) (agentId provider : Option String)
    (ctx : GateContext) : Prop where
  valid : rt.state = .valid ctx.cfg
  kind : ctx.kind = kindOf agentId
  lane : budgetLane sessionId provider = .ok ctx.lane
  now : ctx.now = rt.now
  period : periodAt ctx.cfg rt.now = .ok ctx.period

theorem configured_ok {state : SharedBudgetFileState} {cfg : SharedBudgetConfig}
    (ok : configured state = .ok cfg) : state = .valid cfg := by
  unfold configured at ok
  split at ok <;> cases ok
  rfl

theorem admissionLane_ok {sessionId : String} {agentId provider : Option String} {enrolled : Bool}
    {kind : ExecutorKind} {lane : String}
    (ok : admissionLane sessionId agentId provider enrolled = .ok (kind, lane)) :
    kind = kindOf agentId ∧ budgetLane sessionId provider = .ok lane := by
  unfold admissionLane at ok
  split at ok
  · cases ok
  rename_i kind' valid
  split at ok
  · cases ok
  rename_i lane' named
  split at ok
  · cases ok
  cases ok
  refine ⟨?_, named⟩
  unfold validateIdentity at valid
  split at valid
  · cases valid
  split at valid
  · cases valid
  split at valid
  · split at valid <;> cases valid
    rfl
  · cases valid
    rfl

/-- The outcome of an admission names a hold and its pool. -/
def SharedBudgetOutcome.hold : SharedBudgetOutcome → Option (SharedPoolReservationId × PoolId)
  | .allowed reservationId poolId _ _ _ _ _ => some (reservationId, poolId)
  | _ => none

theorem gateContext_triple (rt : SharedBudgetRuntime) (sessionId : String)
    (agentId provider : Option String) (s : LedgerStore) :
    Triple (· = s) (gateContext rt sessionId agentId provider) fun r s' => s' = s ∧
      ∀ answer, r = .ok answer →
        match answer with
        | .ok ctx => GateReady rt sessionId agentId provider ctx
        | .error outcome => outcome.hold = none := by
  unfold gateContext
  split
  · refine Triple.pure ?_
    rintro s' rfl
    refine ⟨rfl, ?_⟩
    rintro _ ⟨⟩
    rfl
  split
  · rename_i outcome refused
    refine Triple.pure ?_
    rintro s' rfl
    refine ⟨rfl, ?_⟩
    rintro _ ⟨⟩
    unfold admissionLane at refused
    split at refused
    · cases refused
      rfl
    split at refused
    · cases refused
      rfl
    split at refused
    · cases refused
      rfl
    · cases refused
  rename_i kind lane admitted
  obtain ⟨kind_eq, named⟩ := admissionLane_ok admitted
  split
  · rename_i outcome unready
    refine Triple.pure ?_
    rintro s' rfl
    refine ⟨rfl, ?_⟩
    rintro _ ⟨⟩
    unfold configured at unready
    split at unready <;> cases unready
    · rfl
    · rfl
  rename_i cfg valid
  refine periodOf_bind (fun e s' same => ⟨same, fun answer read => by cases read⟩) fun period current => ?_
  refine Triple.read_bind fun later => ?_
  split
  · refine Triple.pure ?_
    rintro s' ⟨rfl, -⟩
    refine ⟨rfl, ?_⟩
    rintro _ ⟨⟩
    rfl
  · refine Triple.pure ?_
    rintro s' ⟨rfl, -⟩
    refine ⟨rfl, ?_⟩
    rintro _ ⟨⟩
    exact ⟨configured_ok valid, kind_eq, named, rfl, current⟩

/-! ## The live hold -/

/-- The lane an admission asks for. -/
def GateContext.laneOf (ctx : GateContext) (agentId : Option String) : Lane :=
  ⟨ctx.lane, agentId, ctx.kind⟩

/-- The lane has no active hold in the period's pool. -/
def Vacant (ctx : GateContext) (agentId : Option String) (s : LedgerStore) : Prop :=
  ∀ r ∈ s.reservations, r.activeTurn = true → r.poolId = ctx.period.poolId →
    r.lane ≠ ctx.laneOf agentId

/-- The sweep has freed every hold whose time has passed. -/
def Swept (now : OffsetDateTime) (s : LedgerStore) : Prop :=
  ∀ r ∈ s.reservations, r.state = .active → now < r.expiresAt

theorem swept_of_expire {s s' : LedgerStore} {now : OffsetDateTime} {out : List SharedPoolReservation}
    (done : s.expireStaleSharedPoolReservations now = .ok (out, s')) : Swept now s' := by
  intro r' mem active
  rw [LedgerStore.expireStaleSharedPoolReservations_ok done, LedgerStore.updateWhere] at mem
  obtain ⟨r, -, rfl⟩ := (LedgerStore.mem_updateReservations _ _ _ r').mp mem
  by_cases old : LedgerStore.stale now r = true
  · rw [if_pos old] at active
    unfold LedgerStore.resolveStale at active
    split at active <;> cases active
  · rw [if_neg old] at active ⊢
    simp only [LedgerStore.stale, decide_eq_true_eq, not_and, not_le] at old
    exact old active

theorem liveOnLane_iff (poolId : PoolId) (lane : Lane) (now : OffsetDateTime) (r : SharedPoolRow) :
    LedgerStore.liveOnLane poolId principal lane now r = true ↔
      r.poolId = poolId ∧ now < r.expiresAt ∧ r.principalId = principal ∧ r.lane = lane ∧
        r.activeTurn = true := by
  obtain ⟨session, agent, kind⟩ := lane
  simp only [LedgerStore.liveOnLane, SharedPoolRow.onLane, SharedPoolRow.lane, activeTurn_iff,
    Bool.and_eq_true, decide_eq_true_eq, Lane.mk.injEq]
  tauto

theorem vacant_of_none {s : LedgerStore} {ctx : GateContext} {agentId : Option String}
    (inv : LanesInv s) (swept : Swept ctx.now s)
    (absent : s.activeSharedHoldForLane ctx.period.poolId principal (ctx.laneOf agentId) ctx.now =
      none) : Vacant ctx agentId s := by
  intro r mem active pool lane
  have turn := inv.turnRow mem ((activeTurn_iff r).mp active).2
  rw [LedgerStore.activeSharedHoldForLane, newest, pick_eq_none_iff, List.filter_eq_nil_iff] at absent
  refine absent r mem ((liveOnLane_iff _ _ _ r).mpr ⟨pool, ?_, turn.principalId, lane, active⟩)
  exact swept r mem ((activeTurn_iff r).mp active).1

theorem live_of_some {s : LedgerStore} {poolId : PoolId} {lane : Lane} {now : OffsetDateTime}
    {r : SharedPoolRow} (found : s.activeSharedHoldForLane poolId principal lane now = some r) :
    r ∈ s.reservations ∧ r.poolId = poolId ∧ now < r.expiresAt ∧ r.principalId = principal ∧
      r.lane = lane ∧ r.activeTurn = true := by
  have mem := pick_mem found
  rw [List.mem_filter] at mem
  exact ⟨mem.1, (liveOnLane_iff _ _ _ r).mp mem.2⟩

/-! ## The key of a hold -/

/-- A hold's key tells the main lane from an agent's. -/
theorem holdKey_agent {sessionId tag id tag' id' : String} {agentId : Option String}
    (same : holdKey sessionId none tag id = holdKey sessionId agentId tag' id') : agentId = none := by
  cases agentId with
  | none => rfl
  | some agent =>
      have texts := congrArg String.toList same
      simp only [holdKey, lp, String.toList_append, List.append_assoc, List.append_cancel_left_eq,
        Option.map_none, Option.map_some, Option.getD_none, Option.getD_some, Nat.toList_repr] at texts
      obtain ⟨digit, digits, starts⟩ := List.exists_cons_of_ne_nil
        (Nat.toDigits_ne_nil (n := agent.utf8ByteSize) (b := 10))
      have isDigit : digit.isDigit = true :=
        Nat.isDigit_of_mem_toDigits (by decide) (by decide) (starts ▸ List.mem_cons_self)
      rw [starts] at texts
      have head := congrArg List.head? texts
      have dash : some '-' = some digit := head
      cases dash
      cases isDigit

theorem holdKey_startsWith (sessionId : String) (agentId : Option String) (tag id : String) :
    startsWith (holdKey sessionId agentId tag id) "hold:" = true := by
  unfold holdKey
  rw [String.append_assoc, String.append_assoc, String.append_assoc, String.append_assoc,
    String.append_assoc]
  exact startsWith_append _ _

/-- A hold under a hold's key is a turn's. -/
theorem LanesInv.keyed {s : LedgerStore} (inv : LanesInv s) {r : SharedPoolRow}
    (mem : r ∈ s.reservations) (hold : r.isCharge = false)
    (named : startsWith r.idempotencyKey "hold:" = true) : TurnRow r := by
  obtain row | charge | gateway := inv.rows r mem
  · exact row
  · rw [charge.charge] at hold
    cases hold
  · have differ := startsWith_conflict (q := gatewayKeyPrefix) named (by decide) (by decide)
    rw [gateway.key] at differ
    cases differ

/-! ## What an admission does -/

/-- Any answer names the hold `id` of `poolId`. -/
def Names (id : SharedPoolReservationId) (poolId : PoolId)
    (r : Except SharedBudgetError SharedBudgetOutcome) : Prop :=
  ∀ outcome, r = .ok outcome → outcome.hold = some (id, poolId)

/-- Any answer names no hold. -/
def NamesNone (r : Except SharedBudgetError SharedBudgetOutcome) : Prop :=
  ∀ outcome, r = .ok outcome → outcome.hold = none

/-- A hold that an admission opened for the requesting lane. -/
structure OpenedHold (ctx : GateContext) (agentId : Option String) (s : LedgerStore)
    (row : SharedPoolRow) (s' : LedgerStore) : Prop where
  inserted : s.insertReservation row = .ok s'
  turn : TurnRow row
  active : row.state = .active
  fresh : ctx.now < row.expiresAt
  pool : row.poolId = ctx.period.poolId
  lane : row.lane = ctx.laneOf agentId

/-- The prompt is bound to no hold, or to `id`. -/
def FreeFor (ctx : GateContext) (s : LedgerStore) (mainPrompt : Option String)
    (ids : List SharedPoolReservationId) : Prop :=
  ∀ prompt, mainPrompt = some prompt → ∀ id, s.holdForPrompt principal ctx.lane prompt = some id →
    id ∈ ids

/-- The store after an unstarted hold is taken back. -/
def takenBack (ctx : GateContext) (s : LedgerStore) (id : SharedPoolReservationId) : LedgerStore :=
  (s.updateReservation id (SharedPoolRow.release ctx.now) fun _ => rfl).forgetPrompts id

/-- Everything an admission can do on a swept store. -/
inductive AdmitStep (ctx : GateContext) (agentId mainPrompt : Option String) (s : LedgerStore) :
    Except SharedBudgetError SharedBudgetOutcome → LedgerStore → Prop where
  | idle {r : Except SharedBudgetError SharedBudgetOutcome} (none : NamesNone r) :
      AdmitStep ctx agentId mainPrompt s r s
  | renewed {r : Except SharedBudgetError SharedBudgetOutcome} {existing : SharedPoolRow}
      {expiresAt : OffsetDateTime}
      (live : s.activeSharedHoldForLane ctx.period.poolId principal (ctx.laneOf agentId) ctx.now =
        some existing)
      (later : ctx.now < expiresAt) (free : FreeFor ctx s mainPrompt [existing.id])
      (names : Names existing.id existing.poolId r) :
      AdmitStep ctx agentId mainPrompt s r
        ((s.updateReservation existing.id (SharedPoolRow.renew expiresAt) fun _ =>
          rfl).recordHoldPrompt? principal ctx.lane mainPrompt existing.id)
  | opened {r : Except SharedBudgetError SharedBudgetOutcome} {row : SharedPoolRow} {s' : LedgerStore}
      (vacant : Vacant ctx agentId s) (free : FreeFor ctx s mainPrompt [])
      (hold : OpenedHold ctx agentId s row s') (names : Names row.id row.poolId r) :
      AdmitStep ctx agentId mainPrompt s r
        (s'.recordHoldPrompt? principal ctx.lane mainPrompt row.id)
  | withdrawn {e : SharedBudgetError} {row : SharedPoolRow} {s' : LedgerStore}
      (vacant : Vacant ctx agentId s) (free : FreeFor ctx s mainPrompt [])
      (hold : OpenedHold ctx agentId s row s') :
      AdmitStep ctx agentId mainPrompt s (.error e)
        (takenBack ctx (s'.recordHoldPrompt? principal ctx.lane mainPrompt row.id) row.id)

theorem names_error (e : SharedBudgetError) (id : SharedPoolReservationId) (poolId : PoolId) :
    Names id poolId (.error e) := by
  rintro outcome ⟨⟩

theorem namesNone_error (e : SharedBudgetError) : NamesNone (.error e) := by
  rintro outcome ⟨⟩

/-- Answering with a hold writes nothing, unless it takes back one that was just opened. -/
def AnswerPost (ctx : GateContext) (hold : SharedPoolReservation) (reused : Bool) (s : LedgerStore)
    (r : Except SharedBudgetError SharedBudgetOutcome) (s' : LedgerStore) : Prop :=
  s' = s ∧ Names hold.id hold.poolId r ∨
    reused = false ∧ ∃ e, r = .error e ∧ s' = takenBack ctx s hold.id

theorem allowed_triple (rt : SharedBudgetRuntime) (ctx : GateContext) (hold : SharedPoolReservation)
    (reused : Bool) (s : LedgerStore) :
    Triple (· = s) (allowed rt ctx hold reused) (AnswerPost ctx hold reused s) := by
  have failed : ∀ e s', s' = s → AnswerPost ctx hold reused s (.error e) s' :=
    fun e s' same => .inl ⟨same, names_error e _ _⟩
  unfold allowed
  split
  · exact Triple.fail fun s' same => failed _ s' same
  refine Triple.keep_bind (keeps_remainingOf _ _ _ _ _) failed fun remaining => ?_
  split
  · refine Triple.pure fun s' same => .inl ⟨same, ?_⟩
    rintro outcome ⟨⟩
    rfl
  split
  · exact Triple.fail fun s' same => failed _ s' same
  rename_i read new
  have new : reused = false := by simpa using new
  have cleanup : ∀ e s', s' = s ∨ s' = takenBack ctx s hold.id →
      AnswerPost ctx hold reused s (.error e) s' := by
    rintro e s' (same | back)
    · exact failed e s' same
    · exact .inr ⟨new, e, rfl, back⟩
  refine Triple.bind (M := fun _ s' => s' = s ∨ s' = takenBack ctx s hold.id) ?_ fun cleaned => ?_
  · refine Triple.attempt ?_ ?_
    · rintro s' out next rfl done
      obtain rfl | ⟨row, -, -, rfl⟩ := LedgerStore.releaseAndForgetUnstartedShared_ok done
      · exact .inl rfl
      · exact .inr rfl
    · rintro s' e rfl -
      exact .inl rfl
  · split
    · exact Triple.fail fun s' ended => cleanup _ s' ended
    · exact Triple.fail fun s' ended => cleanup _ s' ended

/-! ## Reserving -/

theorem attributionFor_resolved {agentId : Option String} {chargeSource : ChargeSource}
    {attribution : ExecutorAttribution}
    (resolved : (attributionFor agentId chargeSource).resolve = .ok attribution) :
    attribution.agentId = agentId ∧ attribution.executorKind = some (kindOf agentId) ∧
      attribution.chargeSource = some chargeSource := by
  simp only [ExecutorAttribution.resolve] at resolved
  split at resolved
  · cases resolved
  rw [bind_eq_ok_iff] at resolved
  obtain ⟨kind, agreed, done⟩ := resolved
  cases done
  cases agentId with
  | none =>
      cases agreed
      exact ⟨rfl, rfl, rfl⟩
  | some agent =>
      cases agreed
      exact ⟨rfl, rfl, rfl⟩

theorem expiryOf_later {now expiresAt : OffsetDateTime} {ttlSecs : Nat} (positive : 0 < ttlSecs)
    (expiry : LedgerStore.expiryOf now ttlSecs = .ok expiresAt) : now < expiresAt := by
  unfold LedgerStore.expiryOf OffsetDateTime.checkedAdd at expiry
  have cap : 0 < maxTtlSecs := by decide
  have nanos : (0 : Int) < OffsetDateTime.nanosPerSecond := by decide
  split at expiry
  · cases expiry
  · rename_i later added
    cases expiry
    simp only at added
    split at added
    · cases added
      have ttl : (0 : Int) < ((min ttlSecs maxTtlSecs : Nat) : Int) := by omega
      have step := Int.mul_pos ttl nanos
      exact lt_add_of_pos_right now step
    · cases added

/-- The prompt is bound to the hold the reserve hands out, if it hands one out. -/
theorem LedgerStore.reserveSharedMeteredForPrompt_binds {s s' : LedgerStore}
    {req : SharedPoolReserveRequest} {gate : MeteredGate} {promptId : Option String}
    {fresh : SharedPoolReservationId} {out : CoreReserveOutcome}
    (done : s.reserveSharedMeteredForPrompt req gate promptId fresh = .ok (out, s')) :
    ∃ mid, s.reserveSharedMetered req gate fresh = .ok (out, mid) ∧
      (∀ h, promptHold req.sessionId out = some h →
        s' = mid.recordHoldPrompt? req.principalId req.sessionId promptId h.id) ∧
      (promptId = none ∨ promptHold req.sessionId out = none → s' = mid) := by
  simp only [reserveSharedMeteredForPrompt, bind_eq_ok_iff] at done
  obtain ⟨⟨outcome, mid⟩, reserved, done⟩ := done
  split at done
  · rename_i prompt h handed
    cases done
    refine ⟨mid, reserved, ?_, ?_⟩
    · intro h' handed'
      rw [handed] at handed'
      cases handed'
      rfl
    · rintro (⟨⟨⟩⟩ | absent)
      rw [handed] at absent
      cases absent
  · rename_i unmatched
    cases done
    refine ⟨mid, reserved, ?_, fun _ => rfl⟩
    intro h handed
    rename_i prompt _ _
    cases prompt with
    | none => rfl
    | some prompt => exact absurd handed (unmatched prompt h rfl)

section Reserve

variable {rt : SharedBudgetRuntime} {sessionId : String} {agentId provider mainPrompt : Option String}
  {ctx : GateContext} {s s' : LedgerStore} {key : String} {fresh : SharedPoolReservationId}

/-- A granted reserve opens a hold of the requesting lane. -/
theorem openedHold_of_granted (ready : GateReady rt sessionId agentId provider ctx)
    {gate : MeteredGate} {tag id : String} (named : key = holdKey ctx.lane agentId tag id)
    {row : SharedPoolRow}
    (granted : s.GrantedReserve (turnRequest ctx agentId key) (some gate) fresh row s') :
    OpenedHold ctx agentId s row s' := by
  obtain ⟨attribution, expiresAt, resolved, expiry, rfl⟩ := granted.row_eq
  obtain ⟨agent, kind, source⟩ := attributionFor_resolved resolved
  refine ⟨granted.inserted, ?_, rfl, expiryOf_later (show 0 < holdTtlSecs by decide) expiry,
    rfl, ?_⟩
  · refine ⟨rfl, source, rfl, ?_, ?_, tag, id, ?_⟩
    · change attribution.executorKind = some (kindOf attribution.agentId)
      rw [kind, agent]
    · exact periodAt_pool ready.period
    · change key = holdKey ctx.lane attribution.agentId tag id
      rw [named, agent]
  · change Lane.mk ctx.lane attribution.agentId (attribution.executorKind.getD .unattributed) = _
    rw [kind, agent, Option.getD_some, ← ready.kind]
    rfl

/-- On a vacant lane a replayed key never names a hold the lane can run on. -/
theorem replayed_apart (ready : GateReady rt sessionId agentId provider ctx) (inv : LanesInv s)
    (vacant : Vacant ctx agentId s) {tag id : String} (named : key = holdKey ctx.lane agentId tag id)
    {row : SharedPoolRow} (found : s.findByKey ctx.period.poolId principal key = some row)
    (hold : row.isCharge = false) (active : row.state = .active)
    (session : row.sessionId = ctx.lane) : row.agentId ≠ agentId := by
  obtain ⟨mem, unique⟩ := LedgerStore.findByKey_some found
  simp only [SharedPoolRow.uniqueKey, Prod.mk.injEq] at unique
  obtain ⟨pool, -, keyed⟩ := unique
  have turn : TurnRow row := inv.keyed mem hold (by
    rw [keyed, named]
    exact holdKey_startsWith _ _ _ _)
  intro agent
  refine vacant row mem ((activeTurn_iff row).mpr ⟨active, turn.turnHold⟩) pool ?_
  rw [SharedPoolRow.lane, session, turn.kind, agent, GateContext.laneOf, ready.kind]
  rfl

/-- A main lane's key never names an agent's hold. -/
theorem replayed_main (inv : LanesInv s) {tag id : String} (named : key = holdKey ctx.lane none tag id)
    {row : SharedPoolRow} (found : s.findByKey ctx.period.poolId principal key = some row)
    (hold : row.isCharge = false) (session : row.sessionId = ctx.lane) : row.agentId = none := by
  obtain ⟨mem, unique⟩ := LedgerStore.findByKey_some found
  simp only [SharedPoolRow.uniqueKey, Prod.mk.injEq] at unique
  obtain ⟨-, -, keyed⟩ := unique
  have turn : TurnRow row := inv.keyed mem hold (by
    rw [keyed, named]
    exact holdKey_startsWith _ _ _ _)
  obtain ⟨tag', id', own⟩ := turn.key
  rw [keyed, named, session] at own
  exact holdKey_agent own

/-- What one reserve of an admission leaves: its hold, or the store as it was. -/
def ReservedOn (ctx : GateContext) (agentId mainPrompt : Option String) (s : LedgerStore)
    (outcome : Except LedgerError CoreReserveOutcome) (s' : LedgerStore) : Prop :=
  match outcome with
  | .ok (.granted hold) => ∃ row mid, hold = row.toSharedPoolReservation ∧
      OpenedHold ctx agentId s row mid ∧
      s' = mid.recordHoldPrompt? principal ctx.lane mainPrompt row.id
  | .ok (.alreadyGranted hold) => s' = s ∧ liveForLane ctx agentId hold = false
  | _ => s' = s

theorem reserved_on (ready : GateReady rt sessionId agentId provider ctx) (inv : LanesInv s)
    (vacant : Vacant ctx agentId s) (main : ∀ prompt, mainPrompt = some prompt → agentId = none)
    {tag id : String} (named : key = holdKey ctx.lane agentId tag id) {gate : MeteredGate}
    {out : CoreReserveOutcome}
    (done : s.reserveSharedMeteredForPrompt (turnRequest ctx agentId key) gate mainPrompt fresh =
      .ok (out, s')) : ReservedOn ctx agentId mainPrompt s (.ok out) s' := by
  obtain ⟨mid, reserved, handed, unhanded⟩ := LedgerStore.reserveSharedMeteredForPrompt_binds done
  have rest := LedgerStore.reserveSharedCore_ok reserved
  cases out with
  | granted hold =>
      obtain ⟨-, none⟩ | ⟨row, same, granted⟩ := rest
      · exact absurd rfl (none hold)
      · cases same
        exact ⟨row, mid, rfl, openedHold_of_granted ready named granted, handed _ rfl⟩
  | alreadyGranted hold =>
      obtain ⟨rfl, row, found, charge, rfl⟩ := LedgerStore.reserveSharedCore_alreadyGranted reserved
      have apart := replayed_apart ready inv vacant named found charge
      refine ⟨?_, ?_⟩
      · refine unhanded ?_
        cases mainPrompt with
        | none => exact .inl rfl
        | some prompt =>
            refine .inr (if_neg ?_)
            rintro ⟨active, session⟩
            have agent := main prompt rfl
            subst agent
            exact apart active session (replayed_main inv named found charge session)
      · rw [liveForLane, decide_eq_false_iff_not]
        rintro ⟨active, -, session, agent⟩
        exact apart active session agent
  | insufficient admission requested =>
      obtain ⟨rfl, -⟩ | ⟨row, ⟨⟩, -⟩ := rest
      exact unhanded (.inr rfl)
  | noPool =>
      obtain ⟨rfl, -⟩ | ⟨row, ⟨⟩, -⟩ := rest
      exact unhanded (.inr rfl)
  | snapshotUnusable reason =>
      obtain ⟨rfl, -⟩ | ⟨row, ⟨⟩, -⟩ := rest
      exact unhanded (.inr rfl)
  | sessionCapExceeded committed cap requested =>
      obtain ⟨rfl, -⟩ | ⟨row, ⟨⟩, -⟩ := rest
      exact unhanded (.inr rfl)

/-- A reserve of an admission, then its answer. -/
theorem reserveTurn_step (ready : GateReady rt sessionId agentId provider ctx) (inv : LanesInv s)
    (vacant : Vacant ctx agentId s) (free : FreeFor ctx s mainPrompt [])
    (main : ∀ prompt, mainPrompt = some prompt → agentId = none)
    (keys : List (String × SharedPoolReservationId))
    (named : ∀ k ∈ keys, ∃ tag id, k.1 = holdKey ctx.lane agentId tag id) :
    Triple (· = s) (reserveTurn rt ctx agentId mainPrompt keys) (AdmitStep ctx agentId mainPrompt s) := by
  have idle : ∀ {r s'}, s' = s → NamesNone r → AdmitStep ctx agentId mainPrompt s r s' := by
    rintro r s' rfl none
    exact .idle none
  induction keys with
  | nil => exact Triple.fail fun s' same => idle same (namesNone_error _)
  | cons first rest ih =>
      obtain ⟨key, fresh⟩ := first
      obtain ⟨tag, id, own⟩ := named (key, fresh) List.mem_cons_self
      have later := ih fun k mem => named k (List.mem_cons_of_mem _ mem)
      unfold reserveTurn
      refine Triple.bind (M := ReservedOn ctx agentId mainPrompt s) ?_ fun outcome => ?_
      · refine Triple.attempt ?_ ?_
        · rintro _ out s' rfl done
          exact reserved_on ready inv vacant main own done
        · rintro _ e rfl -
          rfl
      split
      · refine Triple.pure fun s' same => idle same ?_
        rintro outcome ⟨⟩
        rfl
      · refine Triple.pure fun s' same => idle same ?_
        rintro outcome ⟨⟩
        rfl
      · exact Triple.fail fun s' same => idle same (namesNone_error _)
      · rename_i hold
        rintro s' ⟨row, mid, rfl, opened, rfl⟩
        obtain ⟨same, names⟩ | ⟨-, e, failed, back⟩ :=
          allowed_triple rt ctx row.toSharedPoolReservation false _ _ rfl
        · rw [same]
          exact .opened vacant free opened names
        · rw [failed, back]
          exact .withdrawn vacant free opened
      · rename_i hold
        rintro s' ⟨rfl, apart⟩
        rw [apart, if_neg Bool.false_ne_true]
        split
        · exact idle rfl (namesNone_error _)
        · exact later _ rfl
      · refine Triple.pure fun s' same => idle same ?_
        rintro outcome ⟨⟩
        rfl
      · exact Triple.fail fun s' same => idle same (namesNone_error _)
      · exact Triple.fail fun s' same => idle same (namesNone_error _)
      · exact Triple.fail fun s' same => idle same (namesNone_error _)

theorem turnKeys_named (ctx : GateContext) (agentId promptId : Option String) (nonces : AdmitNonces) :
    ∀ k ∈ turnKeys ctx agentId promptId nonces, ∃ tag id, k.1 = holdKey ctx.lane agentId tag id := by
  intro k mem
  simp only [turnKeys, List.mem_cons, List.not_mem_nil, or_false] at mem
  rcases mem with rfl | rfl
  · cases promptId with
    | none => exact ⟨_, _, rfl⟩
    | some prompt => exact ⟨_, _, rfl⟩
  · exact ⟨_, _, rfl⟩

end Reserve

/-! ## Renewing, and the whole admission -/

section Admit

variable {rt : SharedBudgetRuntime} {sessionId : String} {agentId provider mainPrompt : Option String}
  {ctx : GateContext} {s : LedgerStore} {existing : SharedPoolRow}

/-- A renewal always has an answer: the live hold is there to be renewed. -/
def RenewPost (ctx : GateContext) (agentId mainPrompt : Option String) (s : LedgerStore)
    (r : Except SharedBudgetError (Option SharedBudgetOutcome)) (s' : LedgerStore) : Prop :=
  ∃ answer, r = answer.map some ∧ AdmitStep ctx agentId mainPrompt s answer s'

theorem renewPost_error (e : SharedBudgetError) : RenewPost ctx agentId mainPrompt s (.error e) s :=
  ⟨.error e, rfl, .idle (namesNone_error e)⟩

theorem renewTurn_post
    (live : s.activeSharedHoldForLane ctx.period.poolId principal (ctx.laneOf agentId) ctx.now =
      some existing) (free : FreeFor ctx s mainPrompt [existing.id]) :
    Triple (· = s) (renewTurn rt ctx existing mainPrompt) (RenewPost ctx agentId mainPrompt s) := by
  obtain ⟨mem, -, fresh, mine, lane, active⟩ := live_of_some live
  have session : existing.sessionId = ctx.lane := congrArg Lane.sessionId lane
  have found : s.getSharedReservation existing.id = some existing :=
    (Table.find?_eq_some_iff _ _ _).mpr ⟨mem, rfl⟩
  have renews : LedgerStore.renewable existing principal ctx.lane ctx.now = true :=
    (LedgerStore.renewable_iff _ _ _ _).mpr ⟨mine, session, ((activeTurn_iff _).mp active).1, fresh⟩
  unfold renewTurn
  refine Triple.bind (M := fun outcome s' => ∃ expiresAt, ctx.now < expiresAt ∧
    outcome = .renewed (existing.renew expiresAt).toSharedPoolReservation ∧
    s' = (s.updateReservation existing.id (SharedPoolRow.renew expiresAt) fun _ =>
      rfl).recordHoldPrompt? principal ctx.lane mainPrompt existing.id) ?_ fun outcome => ?_
  · refine Triple.transact ?_ ?_
    · rintro _ outcome s' rfl done
      obtain ⟨-, refused⟩ | ⟨row, expiresAt, here, -, expiry, rfl, rfl⟩ :=
        LedgerStore.renewSharedForPrompt_ok done
      · -- The hold is live, so the renewal was not refused.
        simp only [LedgerStore.renewSharedForPrompt, found, renews, if_true, bind_eq_ok_iff] at done
        obtain ⟨expiresAt, -, stamp, -, done⟩ := done
        cases done
        exact absurd rfl (refused _)
      · rw [found] at here
        cases here
        exact ⟨expiresAt, expiryOf_later (show 0 < holdTtlSecs by decide) expiry, rfl, rfl⟩
    · rintro _ e rfl -
      exact renewPost_error _
  · rintro s' ⟨expiresAt, later, rfl, renewed⟩
    let answer := allowed rt ctx (existing.renew expiresAt).toSharedPoolReservation true
    change RenewPost ctx agentId mainPrompt s
      ((answer >>= fun outcome => (pure (some outcome) : Daemon _)) s').1
      ((answer >>= fun outcome => (pure (some outcome) : Daemon _)) s').2
    rw [bind_pure_apply]
    obtain ⟨same, names⟩ | ⟨impossible, -⟩ :=
      allowed_triple rt ctx (existing.renew expiresAt).toSharedPoolReservation true s' s' rfl
    · refine ⟨_, rfl, ?_⟩
      change AdmitStep ctx agentId mainPrompt s _ (answer s').2
      rw [same]
      subst renewed
      exact .renewed live later free names
    · cases impossible

theorem renewLive_post
    (live : s.activeSharedHoldForLane ctx.period.poolId principal (ctx.laneOf agentId) ctx.now =
      some existing) (free : FreeFor ctx s mainPrompt [existing.id]) :
    Triple (· = s) (renewLive rt ctx existing mainPrompt) (RenewPost ctx agentId mainPrompt s) := by
  unfold renewLive
  refine Triple.read_bind fun newTurn => ?_
  split
  · refine Triple.keep_bind (keeps_remainingOf _ _ _ _ _) ?_ fun remaining => ?_
    · rintro e s' ⟨rfl, -⟩
      exact renewPost_error e
    split
    · refine Triple.fail ?_
      rintro s' ⟨rfl, -⟩
      exact renewPost_error _
    split
    · refine Triple.pure ?_
      rintro s' ⟨rfl, -⟩
      refine ⟨.ok _, rfl, .idle ?_⟩
      rintro outcome ⟨⟩
      rfl
    · rintro s' ⟨rfl, -⟩
      exact renewTurn_post live free s' rfl
  · rintro s' ⟨rfl, -⟩
    exact renewTurn_post live free s' rfl

theorem freeFor_of_timely {live : Option SharedPoolRow}
    (timely : delayedReplay s ctx live mainPrompt = false) :
    FreeFor ctx s mainPrompt (live.map fun r => r.id).toList := by
  rintro prompt rfl id bound
  simp only [delayedReplay, bound, decide_eq_false_iff_not, not_not] at timely
  rw [timely]
  exact List.mem_singleton_self id

theorem admitOnLane_step (ready : GateReady rt sessionId agentId provider ctx) (inv : LanesInv s)
    (swept : Swept ctx.now s) (promptId : Option String) (nonces : AdmitNonces) :
    Triple (· = s) (admitOnLane rt ctx agentId promptId nonces)
      (AdmitStep ctx agentId (if agentId.isNone then promptId else none) s) := by
  have main : ∀ prompt, (if agentId.isNone then promptId else none) = some prompt →
      agentId = none := by
    intro prompt named
    cases agentId with
    | none => rfl
    | some agent => cases named
  unfold admitOnLane
  generalize (if agentId.isNone then promptId else none) = mainPrompt at main ⊢
  refine Triple.read_bind fun live => Triple.read_bind fun replay => ?_
  split
  · refine Triple.pure ?_
    rintro s' ⟨⟨rfl, -⟩, -⟩
    refine .idle ?_
    rintro outcome ⟨⟩
    rfl
  rename_i timely
  have timely : replay = false := by simpa using timely
  split
  · rintro s' ⟨⟨rfl, absent⟩, read⟩
    have free := freeFor_of_timely (read.trans timely)
    exact reserveTurn_step ready inv (vacant_of_none inv swept absent) free main _
      (turnKeys_named ctx agentId promptId nonces) _ rfl
  · rename_i existing
    rintro s' ⟨⟨rfl, found⟩, read⟩
    have free := freeFor_of_timely (read.trans timely)
    refine Triple.bind (P := (· = s')) (M := fun answer mid => ∃ outcome, answer = some outcome ∧
      AdmitStep ctx agentId mainPrompt s' (.ok outcome) mid) ?_ (fun answer => ?_) s' rfl
    · rintro _ rfl
      obtain ⟨answer, same, step⟩ := renewLive_post found free _ rfl
      rw [same]
      cases answer with
      | error e => exact step
      | ok outcome => exact ⟨outcome, rfl, step⟩
    · rintro mid ⟨outcome, rfl, step⟩
      exact step

/-- Under the gateway nothing is written, and no hold is handed out. -/
theorem gatewayAnswer_post (rt : SharedBudgetRuntime) (ctx : GateContext) (agentId : Option String)
    (s : LedgerStore) : NamesNone (gatewayAnswer rt ctx agentId s).1 ∧
      (gatewayAnswer rt ctx agentId s).2 = s := by
  suffices triple : Triple (· = s) (gatewayAnswer rt ctx agentId) fun r s' =>
      NamesNone r ∧ s' = s from triple s rfl
  have answers : ∀ outcome, outcome.hold = none → ∀ s', s' = s → NamesNone (.ok outcome) ∧ s' = s := by
    rintro outcome none s' rfl
    refine ⟨?_, rfl⟩
    rintro _ ⟨⟩
    exact none
  have failed : ∀ e s', s' = s → NamesNone (.error e) ∧ s' = s :=
    fun e s' same => ⟨namesNone_error e, same⟩
  unfold gatewayAnswer
  refine Triple.keep_bind (keeps_remainingOf _ _ _ _ _) failed fun remaining => ?_
  split
  · exact Triple.fail fun s' same => failed _ s' same
  split
  · exact Triple.pure fun s' same => answers _ rfl s' same
  refine Triple.read_bind fun preflip => ?_
  split
  · exact Triple.pure fun s' same => answers _ rfl s' same.1
  · exact Triple.pure fun s' same => answers _ rfl s' same.1

/-- An admission names no hold and is quiet, or is a step on the swept store. -/
theorem admit_post (inv : LanesInv s) (rt : SharedBudgetRuntime) (sessionId : String)
    (agentId promptId provider : Option String) (nonces : AdmitNonces) :
    (NamesNone (admitTurn rt sessionId agentId promptId provider nonces s).1 ∧
        Quiet s (admitTurn rt sessionId agentId promptId provider nonces s).2) ∨
      ∃ ctx mid, GateReady rt sessionId agentId provider ctx ∧ Quiet s mid ∧ Swept ctx.now mid ∧
        AdmitStep ctx agentId (if agentId.isNone then usablePrompt promptId else none) mid
          (admitTurn rt sessionId agentId promptId provider nonces s).1
          (admitTurn rt sessionId agentId promptId provider nonces s).2 := by
  let Post := fun r s' => (NamesNone r ∧ Quiet s s') ∨
    ∃ ctx mid, GateReady rt sessionId agentId provider ctx ∧ Quiet s mid ∧ Swept ctx.now mid ∧
      AdmitStep ctx agentId (if agentId.isNone then usablePrompt promptId else none) mid r s'
  have failed : ∀ e s', Quiet s s' → Post (.error e) s' :=
    fun e s' quiet => .inl ⟨namesNone_error e, quiet⟩
  suffices triple : Triple (· = s) (admitTurn rt sessionId agentId promptId provider nonces) Post from
    triple s rfl
  unfold admitTurn
  refine Triple.bind (M := fun answer s' => s' = s ∧
    match answer with
    | .ok ctx => GateReady rt sessionId agentId provider ctx
    | .error outcome => outcome.hold = none) ?_ fun answer => ?_
  · intro s' same
    obtain ⟨kept, known⟩ := gateContext_triple rt sessionId agentId provider s s' same
    split
    · rename_i answer answered
      exact ⟨kept, known answer answered⟩
    · exact failed _ _ (kept ▸ .refl s)
  cases answer with
  | error outcome =>
      refine Triple.pure ?_
      rintro s' ⟨rfl, none⟩
      refine .inl ⟨?_, .refl s'⟩
      rintro _ ⟨⟩
      exact none
  | ok ctx =>
      dsimp only
      split
      · rintro s' ⟨rfl, -⟩
        obtain ⟨none, same⟩ := gatewayAnswer_post rt ctx agentId s'
        exact .inl ⟨none, same.symm ▸ .refl s'⟩
      refine Triple.bind (M := fun _ mid => Quiet s mid ∧
        GateReady rt sessionId agentId provider ctx) ?_ fun pool => ?_
      · rintro s' ⟨rfl, ready⟩
        have quiet := ensurePeriodPool_quiet ctx.period.poolId ctx.cfg ctx.now s'
        split
        · exact ⟨quiet, ready⟩
        · exact failed _ _ quiet
      refine Triple.bind (M := fun _ mid =>
        (Quiet s mid ∧ GateReady rt sessionId agentId provider ctx) ∧ Swept ctx.now mid) ?_
        fun resolved => ?_
      · refine Triple.transact ?_ ?_
        · rintro before out mid ⟨quiet, ready⟩ done
          exact ⟨⟨quiet.trans (LedgerStore.expireStaleSharedPoolReservations_quiet done), ready⟩,
            swept_of_expire done⟩
        · rintro before e ⟨quiet, -⟩ -
          exact failed _ _ quiet
      · rintro mid ⟨⟨quiet, ready⟩, swept⟩
        exact .inr ⟨ctx, mid, ready, quiet, swept,
          admitOnLane_step ready (inv.quiet quiet) swept (usablePrompt promptId) nonces mid rfl⟩

end Admit

/-! ## The invariant across an admission -/

/-- Binding a prompt writes under its own key only. -/
theorem LedgerStore.find?_recordHoldPrompt (s : LedgerStore) (sessionId prompt : String)
    (id : SharedPoolReservationId) (key : PrincipalId × String × String) :
    (s.recordHoldPrompt principal sessionId prompt id).holdPrompts.find? key =
      if key = (principal, sessionId, prompt) then some ⟨principal, sessionId, prompt, id⟩
      else s.holdPrompts.find? key := by
  have written := Table.find?_upsert s.holdPrompts ⟨principal, sessionId, prompt, id⟩
    (fun p => { p with reservationId := id }) (fun _ => rfl) key
  refine written.trans ?_
  change (if key = (principal, sessionId, prompt) then _ else _) = _
  split
  · rename_i here
    cases found : s.holdPrompts.find? key with
    | none => rfl
    | some old =>
        have same := ((Table.find?_eq_some_iff _ _ _).mp found).2
        rw [here] at same
        simp only [HoldPrompt.key, Prod.mk.injEq] at same
        simp [same]
  · rfl

theorem recordHoldPrompt_bound {s : LedgerStore} {sessionId prompt : String}
    {id : SharedPoolReservationId} {p : HoldPrompt}
    (mem : p ∈ (s.recordHoldPrompt principal sessionId prompt id).holdPrompts) :
    p ∈ s.holdPrompts ∨ p.reservationId = id := by
  have found := (Table.find?_eq_some_iff _ p.key p).mpr ⟨mem, rfl⟩
  rw [LedgerStore.find?_recordHoldPrompt] at found
  split at found
  · cases found
    exact .inr rfl
  · exact .inl ((Table.find?_eq_some_iff _ _ _).mp found).1

namespace LanesInv

variable {s s' : LedgerStore} {ctx : GateContext} {agentId mainPrompt : Option String}

/-- Binding a prompt to a row that exists. -/
theorem binds (inv : LanesInv s) {id : SharedPoolReservationId}
    (there : ∃ r ∈ s.reservations, r.id = id) (sessionId : String) (prompt : Option String) :
    LanesInv (s.recordHoldPrompt? principal sessionId prompt id) := by
  cases prompt with
  | none => exact inv
  | some prompt =>
      refine ⟨inv.rows, inv.one, ?_⟩
      intro p mem
      obtain old | rfl := recordHoldPrompt_bound mem
      · exact inv.bound p old
      · exact there

/-- Opening a hold on a vacant lane. -/
theorem opens (inv : LanesInv s) (vacant : Vacant ctx agentId s) {row : SharedPoolRow}
    (hold : OpenedHold ctx agentId s row s') : LanesInv s' := by
  obtain ⟨inserted, -, -, -, -, -, prompts⟩ := LedgerStore.insertReservation_ok hold.inserted
  have apart : ∀ r ∈ s.reservations, r.activeTurn = true → r.poolId = row.poolId →
      r.lane ≠ row.lane := by
    intro r mem active pool lane
    exact vacant r mem active (pool.trans hold.pool) (lane.trans hold.lane)
  refine ⟨?_, ?_, ?_⟩
  · intro r mem
    rcases (Table.mem_insert? inserted r).mp mem with old | rfl
    · exact inv.rows r old
    · exact .inl hold.turn
  · intro r₁ mem₁ r₂ mem₂ active₁ active₂ pool lane
    rcases (Table.mem_insert? inserted r₁).mp mem₁ with old₁ | rfl
    · rcases (Table.mem_insert? inserted r₂).mp mem₂ with old₂ | rfl
      · exact inv.one r₁ old₁ r₂ old₂ active₁ active₂ pool lane
      · exact absurd lane (apart r₁ old₁ active₁ pool)
    · rcases (Table.mem_insert? inserted r₂).mp mem₂ with old₂ | rfl
      · exact absurd lane.symm (apart r₂ old₂ active₂ pool.symm)
      · rfl
  · intro p mem
    rw [prompts] at mem
    obtain ⟨r, old, here⟩ := inv.bound p mem
    exact ⟨r, (Table.mem_insert? inserted r).mpr (.inl old), here⟩

theorem forgets (inv : LanesInv s) (id : SharedPoolReservationId) : LanesInv (s.forgetPrompts id) := by
  refine ⟨inv.rows, inv.one, ?_⟩
  intro p mem
  exact inv.bound p ((Table.mem_delete _ _ _).mp mem).1

end LanesInv

section Step

variable {s s' : LedgerStore} {ctx : GateContext} {agentId mainPrompt : Option String}
  {r : Except SharedBudgetError SharedBudgetOutcome}

theorem OpenedHold.mem {row : SharedPoolRow} (hold : OpenedHold ctx agentId s row s') :
    row ∈ s'.reservations :=
  (Table.mem_insert? (LedgerStore.insertReservation_ok hold.inserted).1 row).mpr (.inr rfl)

theorem renewed_quiet {existing : SharedPoolRow} {expiresAt : OffsetDateTime}
    (live : s.activeSharedHoldForLane ctx.period.poolId principal (ctx.laneOf agentId) ctx.now =
      some existing) :
    Quiet s (s.updateReservation existing.id (SharedPoolRow.renew expiresAt) fun _ => rfl) := by
  obtain ⟨mem, -, -, -, -, turn⟩ := live_of_some live
  have active := ((activeTurn_iff existing).mp turn).1
  exact .of_renew mem active expiresAt

theorem AdmitStep.inv (step : AdmitStep ctx agentId mainPrompt s r s') (inv : LanesInv s) :
    LanesInv s' := by
  cases step with
  | idle none => exact inv
  | @renewed _ existing expiresAt live later free names =>
      obtain ⟨mem, -⟩ := live_of_some live
      have quiet : Quiet s (s.updateReservation existing.id (SharedPoolRow.renew expiresAt) fun _ => rfl) :=
        renewed_quiet live
      obtain ⟨row, there, ages⟩ := quiet.kept existing mem
      exact (inv.quiet quiet).binds ⟨row, there, ages.id⟩ _ _
  | opened vacant free hold names => exact (inv.opens vacant hold).binds ⟨_, hold.mem, rfl⟩ _ _
  | @withdrawn e row mid vacant free hold =>
      have bound := (inv.opens vacant hold).binds ⟨_, hold.mem, rfl⟩ ctx.lane mainPrompt
      have mem : row ∈ (mid.recordHoldPrompt? principal ctx.lane mainPrompt row.id).reservations := by
        rw [LedgerStore.recordHoldPrompt?_reservations]
        exact hold.mem
      exact (bound.quiet (.of_release mem hold.active ctx.now)).forgets row.id

/-- A hold the requesting lane can run on: active, unexpired, and of the current period. -/
structure RunsOn (ctx : GateContext) (agentId : Option String) (s : LedgerStore)
    (id : SharedPoolReservationId) : Prop where
  row : ∃ r ∈ s.reservations, r.id = id ∧ r.activeTurn = true ∧ ctx.now < r.expiresAt ∧
    r.poolId = ctx.period.poolId ∧ r.lane = ctx.laneOf agentId

theorem AdmitStep.names (step : AdmitStep ctx agentId mainPrompt s r s') {outcome : SharedBudgetOutcome}
    (answered : r = .ok outcome) {id : SharedPoolReservationId} {poolId : PoolId}
    (named : outcome.hold = some (id, poolId)) :
    poolId = ctx.period.poolId ∧ RunsOn ctx agentId s' id := by
  cases step with
  | idle none =>
      rw [none outcome answered] at named
      cases named
  | @renewed _ existing expiresAt live later free names =>
      obtain ⟨mem, pool, -, -, lane, active⟩ := live_of_some live
      have same := (names outcome answered).symm.trans named
      cases same
      refine ⟨pool, existing.renew expiresAt, ?_, rfl, active, later, pool, lane⟩
      rw [LedgerStore.recordHoldPrompt?_reservations]
      refine (LedgerStore.mem_updateReservations _ _ _ _).mpr ⟨existing, mem, ?_⟩
      rw [if_pos rfl]
  | @opened _ row mid vacant free hold names =>
      have same := (names outcome answered).symm.trans named
      cases same
      refine ⟨hold.pool, row, ?_, rfl, ?_, hold.fresh, hold.pool, hold.lane⟩
      · rw [LedgerStore.recordHoldPrompt?_reservations]
        exact hold.mem
      · exact (activeTurn_iff row).mpr ⟨hold.active, hold.turn.turnHold⟩
  | withdrawn vacant free hold => cases answered

end Step

/-! ## Runs of the whole budget -/

/-- Every request that writes the budget's tables, and the sweep; each carries what its call
reads of its surroundings and the uuids it draws. -/
inductive BudgetOp where
  | admitTurn (rt : SharedBudgetRuntime) (sessionId : String) (agentId promptId provider : Option String)
      (nonces : AdmitNonces)
  | settleTurn (rt : SharedBudgetRuntime) (lane : String) (source : TranscriptSource)
      (promptId : Option String) (fresh : SharedPoolReservationId)
  | settleCodexTurn (rt : SharedBudgetRuntime) (sessionId turnId : String) (source : RolloutSource)
      (fresh trueupFresh : SharedPoolReservationId)
  | settleTail (rt : SharedBudgetRuntime) (sessionId path : String) (provider : Option String)
      (file : TranscriptFile) (fresh : SharedPoolReservationId)
  | heartbeat (rt : SharedBudgetRuntime) (lane : String)
  | charge (rt : SharedBudgetRuntime) (req : ChargeAgent) (fresh : SharedPoolReservationId)
  | transcript (rt : SharedBudgetRuntime) (call : TranscriptCall) (fresh : SharedPoolReservationId)
  | gatewayReserve (rt : SharedBudgetRuntime) (req : GatewayReserveRequest)
      (fresh : SharedPoolReservationId)
  | gatewaySettle (rt : SharedBudgetRuntime) (req : GatewaySettleRequest)
  | gatewayRelease (rt : SharedBudgetRuntime) (id : SharedPoolReservationId)
  | gatewayRenew (rt : SharedBudgetRuntime) (id : SharedPoolReservationId) (ttlSecs : Nat)
  | gatewayOrphansAtStart (rt : SharedBudgetRuntime) (bootId : String)
  | sweep (now : OffsetDateTime)

namespace BudgetOp

/-- The store a request leaves.  `sha256Hex` hashes a transcript path and `rfc` writes an
instant into a key. -/
def apply (sha256Hex : String → String) (rfc : OffsetDateTime → String) (s : LedgerStore) :
    BudgetOp → LedgerStore
  | .admitTurn rt sessionId agentId promptId provider nonces =>
      (LibraGovernor.admitTurn rt sessionId agentId promptId provider nonces s).2
  | .settleTurn rt lane source promptId fresh =>
      (LibraGovernor.settleTurn rt lane source promptId fresh s).2
  | .settleCodexTurn rt sessionId turnId source fresh trueupFresh =>
      (LibraGovernor.settleCodexTurn rt sessionId turnId source fresh trueupFresh s).2
  | .settleTail rt sessionId path provider file fresh =>
      (LibraGovernor.settleTail rfc rt sessionId path provider file fresh s).2
  | .heartbeat rt lane => (LibraGovernor.heartbeat rt lane s).2
  | .charge rt req fresh => (LibraGovernor.charge rt req fresh s).2
  | .transcript rt call fresh => (chargeTranscriptInner sha256Hex rt rt.state call fresh s).2
  | .gatewayReserve rt req fresh => (LibraGovernor.gatewayReserve rt req fresh s).2
  | .gatewaySettle rt req => (LibraGovernor.gatewaySettle rt req s).2
  | .gatewayRelease rt id => (LibraGovernor.gatewayRelease rt id s).2
  | .gatewayRenew rt id ttlSecs => (LibraGovernor.gatewayRenew rt id ttlSecs s).2
  | .gatewayOrphansAtStart rt bootId => (LibraGovernor.gatewayOrphansAtStart rt bootId s).2
  | .sweep now => commit s (s.expireStaleSharedPoolReservations now)

variable (sha256Hex : String → String) (rfc : OffsetDateTime → String) (s : LedgerStore)

/-- Only an admission is not quiet. -/
theorem apply_quiet (op : BudgetOp) :
    Quiet s (op.apply sha256Hex rfc s) ∨ ∃ rt sessionId agentId promptId provider nonces,
      op = .admitTurn rt sessionId agentId promptId provider nonces := by
  cases op with
  | admitTurn rt sessionId agentId promptId provider nonces =>
      exact .inr ⟨rt, sessionId, agentId, promptId, provider, nonces, rfl⟩
  | settleTurn rt lane source promptId fresh => exact .inl (settleTurn_quiet _ _ _ _ _ s)
  | settleCodexTurn rt sessionId turnId source fresh trueupFresh =>
      exact .inl (settleCodexTurn_quiet _ _ _ _ _ _ s)
  | settleTail rt sessionId path provider file fresh => exact .inl (settleTail_quiet _ _ _ _ _ _ _ s)
  | heartbeat rt lane => exact .inl (heartbeat_quiet _ _ s)
  | charge rt req fresh => exact .inl (charge_quiet _ _ _ s)
  | transcript rt call fresh => exact .inl (chargeTranscriptInner_quiet _ _ _ _ _ s)
  | gatewayReserve rt req fresh => exact .inl (gatewayReserve_quiet _ _ _ s)
  | gatewaySettle rt req => exact .inl (gatewaySettle_quiet _ _ s)
  | gatewayRelease rt id => exact .inl (gatewayRelease_quiet _ _ s)
  | gatewayRenew rt id ttlSecs => exact .inl (gatewayRenew_quiet _ _ _ s)
  | gatewayOrphansAtStart rt bootId => exact .inl (gatewayOrphansAtStart_quiet _ _ s)
  | sweep now =>
      exact .inl (commit_of (.refl s) fun _ _ => LedgerStore.expireStaleSharedPoolReservations_quiet)

theorem apply_inv {s : LedgerStore} (inv : LanesInv s) (op : BudgetOp) :
    LanesInv (op.apply sha256Hex rfc s) := by
  obtain quiet | ⟨rt, sessionId, agentId, promptId, provider, nonces, rfl⟩ :=
    apply_quiet sha256Hex rfc s op
  · exact inv.quiet quiet
  · obtain ⟨-, quiet⟩ | ⟨ctx, mid, -, quiet, -, step⟩ :=
      admit_post inv rt sessionId agentId promptId provider nonces
    · exact inv.quiet quiet
    · exact step.inv (inv.quiet quiet)

theorem run_inv (ops : List BudgetOp) : LanesInv (run (apply sha256Hex rfc) .empty ops) := by
  have keep : ∀ s op, LanesInv s → LanesInv (apply sha256Hex rfc s op) :=
    fun s op inv => apply_inv sha256Hex rfc inv op
  refine run_invariant_always keep ?_ ops
  refine ⟨?_, ?_, ?_⟩
  · intro r mem
    cases mem
  · intro r mem
    cases mem
  · intro p mem
    cases mem

end BudgetOp

/-- In every run of the budget a lane has at most one active hold in a pool, and every hold an
admission hands out is active, unexpired, of the current period and of the lane that asked. -/
theorem one_active_hold (sha256Hex : String → String) (rfc : OffsetDateTime → String)
    (ops : List BudgetOp) :
    (∀ r ∈ (run (BudgetOp.apply sha256Hex rfc) .empty ops).reservations,
      ∀ r' ∈ (run (BudgetOp.apply sha256Hex rfc) .empty ops).reservations,
        r.activeTurn = true → r'.activeTurn = true → r.poolId = r'.poolId → r.lane = r'.lane →
          r = r') ∧
      ∀ rt sessionId agentId promptId provider nonces id poolId amount reused kind remaining end_,
        (admitTurn rt sessionId agentId promptId provider nonces
            (run (BudgetOp.apply sha256Hex rfc) .empty ops)).1 =
          .ok (.allowed id poolId amount reused kind remaining end_) →
        ∃ cfg period lane, rt.state = .valid cfg ∧ periodAt cfg rt.now = .ok period ∧
          budgetLane sessionId provider = .ok lane ∧ poolId = period.poolId ∧
          ∃ r ∈ (admitTurn rt sessionId agentId promptId provider nonces
              (run (BudgetOp.apply sha256Hex rfc) .empty ops)).2.reservations,
            r.id = id ∧ r.activeTurn = true ∧ rt.now < r.expiresAt ∧ r.poolId = period.poolId ∧
              r.lane = ⟨lane, agentId, kindOf agentId⟩ := by
  have inv := BudgetOp.run_inv sha256Hex rfc ops
  refine ⟨inv.one, ?_⟩
  intro rt sessionId agentId promptId provider nonces id poolId amount reused kind remaining end_
    allowed
  obtain ⟨none, -⟩ | ⟨ctx, mid, ready, -, -, step⟩ :=
    admit_post inv rt sessionId agentId promptId provider nonces
  · have unnamed := none _ allowed
    cases unnamed
  · obtain ⟨pool, ⟨r, mem, here, active, fresh, in_, lane⟩⟩ := step.names allowed rfl
    refine ⟨ctx.cfg, ctx.period, ctx.lane, ready.valid, ready.period, ready.lane, pool, r, mem, here,
      active, ready.now ▸ fresh, in_, ?_⟩
    rw [lane, GateContext.laneOf, ready.kind]

/-! ## Poles -/

def turnNonces (n : BitVec 128) : AdmitNonces := ⟨"nonce", "retry", ⟨n⟩, ⟨n + 1⟩⟩

/-- A prompt on the main lane in the middle of January. -/
def admitted : List BudgetOp :=
  [.admitTurn (hooksRuntime january) "session" none (some "prompt-1") none (turnNonces 1)]

/-- A second prompt, on a clock that has moved back, runs on the same hold. -/
theorem readmitted_runs :
    ∃ r ∈ (admitTurn (hooksRuntime (january - 60)) "session" none (some "prompt-2") none (turnNonces 3)
        (run (BudgetOp.apply (fun s => s) fun _ => "") .empty admitted)).2.reservations,
      r.id = ⟨1⟩ ∧ r.activeTurn = true ∧ january - 60 < r.expiresAt := by
  have allowed : (admitTurn (hooksRuntime (january - 60)) "session" none (some "prompt-2") none
      (turnNonces 3) (run (BudgetOp.apply (fun s => s) fun _ => "") .empty admitted)).1.toOption =
        some (.allowed ⟨1⟩ ⟨"metered:local-budget/monthly-2026-01"⟩ 10 true .agentAbsent 990
          1769904000000000000) := by decide +kernel
  obtain ⟨outcome, answered, rfl⟩ : ∃ outcome, (admitTurn (hooksRuntime (january - 60)) "session" none
      (some "prompt-2") none (turnNonces 3)
      (run (BudgetOp.apply (fun s => s) fun _ => "") .empty admitted)).1 = .ok outcome ∧
        outcome = .allowed ⟨1⟩ ⟨"metered:local-budget/monthly-2026-01"⟩ 10 true .agentAbsent 990
          1769904000000000000 := by
    generalize (admitTurn _ _ _ _ _ _ _).1 = answer at allowed
    cases answer with
    | error e => cases allowed
    | ok outcome => exact ⟨outcome, rfl, Option.some.inj allowed⟩
  obtain ⟨cfg, period, lane, -, -, -, -, r, mem, here, active, fresh, -, -⟩ :=
    (one_active_hold (fun s => s) (fun _ => "") admitted).2 _ _ _ _ _ _ _ _ _ _ _ _ _ answered
  exact ⟨r, mem, here, active, fresh⟩

end LibraGovernor
