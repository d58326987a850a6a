/-
# LibraGovernor.Daemon.Turns -- only an admission opens a turn's hold

Every request of the budget daemon but `admit` is `Quiet`: it opens no turn's hold and
binds no prompt.  Rows that exist live on (`Ages`), and what it adds is a `Bystander`, a
recorded charge or a hold of the gateway's.  The invariants of the lanes are proved from
that, and from what `admit` does, never from the other requests again.
-/
import LibraGovernor.Daemon.ChargeOnce
import LibraGovernor.Daemon.CodexSettle
import LibraGovernor.Daemon.Gateway
import LibraGovernor.Ledger.Lifecycle

namespace LibraGovernor

open Relational Transaction

set_option autoImplicit false

/-! ## Rows -/

/-- The kind of an executor, by its agent id. -/
def kindOf : Option String → ExecutorKind
  | some _ => .agent
  | none => .agentAbsent

def gatewayMarkPrefix : String := "gateway-mark:"

/-- A row as an admission opens it. -/
structure TurnRow (r : SharedPoolRow) : Prop where
  hold : r.isCharge = false
  source : r.chargeSource = some .turnHold
  principalId : r.principalId = principal
  kind : r.executorKind = some (kindOf r.agentId)
  pool : startsWith r.poolId.val ownerPoolPrefix = true
  key : ∃ tag id, r.idempotencyKey = holdKey r.sessionId r.agentId tag id

/-- A recorded charge; one that moves a mark carries it. -/
structure ChargeRow (r : SharedPoolRow) : Prop where
  charge : r.isCharge = true
  settled : r.state = .settled
  marked : startsWith r.idempotencyKey gatewayMarkPrefix = true → r.watermarkTs ≠ none

/-- A hold of a gateway request. -/
structure GatewayHoldRow (r : SharedPoolRow) : Prop where
  hold : r.isCharge = false
  source : r.chargeSource = some .gateway
  key : startsWith r.idempotencyKey gatewayKeyPrefix = true

/-- A row that no turn runs on. -/
def Bystander (r : SharedPoolRow) : Prop := ChargeRow r ∨ GatewayHoldRow r

/-- A later sighting of a row.  A settled row that carries a mark stays as it is. -/
structure Ages (r r' : SharedPoolRow) : Prop where
  evolves : Evolves r r'
  marked : r.state = .settled → r.watermarkTs ≠ none → r' = r

/-- A turn's row stays one, on its lane. -/
theorem TurnRow.lane {r r' : SharedPoolRow} (turn : TurnRow r) (later : Evolves r r') :
    r'.sessionId = r.sessionId ∧ r'.agentId = r.agentId ∧ r'.executorKind = r.executorKind := by
  have executor := later.executor (by rw [turn.kind]; exact nofun)
  exact ⟨later.sessionId, executor.2, executor.1⟩

theorem TurnRow.evolves {r r' : SharedPoolRow} (turn : TurnRow r) (later : Evolves r r') :
    TurnRow r' := by
  obtain ⟨session, agent, kind⟩ := turn.lane later
  have source := later.source (by rw [turn.source]; exact nofun)
  have ident := later.ident
  simp only [SharedPoolRow.ident, SharedPoolRow.uniqueKey, Prod.mk.injEq] at ident
  obtain ⟨-, pool, principal_, key_⟩ := ident
  obtain ⟨tag, id, key⟩ := turn.key
  exact
    { hold := later.isCharge.trans turn.hold
      source := source.trans turn.source
      principalId := principal_.trans turn.principalId
      kind := by rw [kind, agent, turn.kind]
      pool := by rw [pool, turn.pool]
      key := ⟨tag, id, by rw [key_, session, agent, key]⟩ }

namespace Ages

theorem refl (r : SharedPoolRow) : Ages r r := ⟨.refl r, fun _ _ => rfl⟩

theorem trans {a b c : SharedPoolRow} (ab : Ages a b) (bc : Ages b c) : Ages a c where
  evolves := ab.evolves.trans bc.evolves
  marked := by
    intro settled marked
    have same := ab.marked settled marked
    subst same
    exact bc.marked settled marked

theorem of_move {r r' : SharedPoolRow} (move : RowMove r r') (open_ : r.state ≠ .settled) :
    Ages r r' := ⟨move.evolves, fun settled => absurd settled open_⟩

variable {r r' : SharedPoolRow}

theorem id (ages : Ages r r') : r'.id = r.id := congrArg Prod.fst ages.evolves.ident

theorem poolId (ages : Ages r r') : r'.poolId = r.poolId :=
  congrArg (fun ident => ident.2.1) ages.evolves.ident

theorem principalId (ages : Ages r r') : r'.principalId = r.principalId :=
  congrArg (fun ident => ident.2.2.1) ages.evolves.ident

theorem key (ages : Ages r r') : r'.idempotencyKey = r.idempotencyKey :=
  congrArg (fun ident => ident.2.2.2) ages.evolves.ident

/-- Nothing becomes active again. -/
theorem of_active (ages : Ages r r') (active : r'.state = .active) : r.state = .active := by
  have path := ages.evolves.state
  rw [active] at path
  rcases Relation.ReflTransGen.cases_tail path with same | ⟨mid, -, last⟩
  · exact same.symm
  · cases last

theorem turnRow (ages : Ages r r') (turn : TurnRow r) : TurnRow r' := turn.evolves ages.evolves

theorem bystander (ages : Ages r r') (apart : Bystander r) : Bystander r' := by
  obtain charge | hold := apart
  · refine .inl ⟨ages.evolves.isCharge.trans charge.charge, (ages.evolves.settled charge.settled).1, ?_⟩
    intro named
    rw [ages.key] at named
    have marked := charge.marked named
    rw [ages.marked charge.settled marked]
    exact marked
  · have source := ages.evolves.source (by rw [hold.source]; exact nofun)
    refine .inr ⟨ages.evolves.isCharge.trans hold.hold, source.trans hold.source, ?_⟩
    rw [ages.key]
    exact hold.key

/-- A turn's row keeps its lane. -/
theorem lane (ages : Ages r r') (turn : TurnRow r) :
    r'.sessionId = r.sessionId ∧ r'.agentId = r.agentId ∧ r'.executorKind = r.executorKind :=
  turn.lane ages.evolves

end Ages

theorem TurnRow.turnHold {r : SharedPoolRow} (turn : TurnRow r) : r.turnHold = true := by
  simp [SharedPoolRow.turnHold, SharedPoolRow.ofGateway, turn.hold, turn.source]

theorem Bystander.not_turnHold {r : SharedPoolRow} (apart : Bystander r) : r.turnHold = false := by
  obtain charge | hold := apart
  · simp [SharedPoolRow.turnHold, charge.charge]
  · simp [SharedPoolRow.turnHold, SharedPoolRow.ofGateway, hold.hold, hold.source]

/-! ## Quiet steps -/

/-- No turn's hold is opened and no prompt bound. -/
structure Quiet (s s' : LedgerStore) : Prop where
  rows : ∀ r' ∈ s'.reservations, Bystander r' ∨ ∃ r ∈ s.reservations, Ages r r'
  kept : ∀ r ∈ s.reservations, ∃ r' ∈ s'.reservations, Ages r r'
  holdPrompts : s'.holdPrompts = s.holdPrompts

namespace Quiet

theorem refl (s : LedgerStore) : Quiet s s :=
  ⟨fun r mem => .inr ⟨r, mem, .refl r⟩, fun r mem => ⟨r, mem, .refl r⟩, rfl⟩

theorem trans {a b c : LedgerStore} (ab : Quiet a b) (bc : Quiet b c) : Quiet a c where
  rows := by
    intro r'' mem
    obtain apart | ⟨r', mem', later⟩ := bc.rows r'' mem
    · exact .inl apart
    obtain apart | ⟨r, old, ages⟩ := ab.rows r' mem'
    · exact .inl (later.bystander apart)
    · exact .inr ⟨r, old, ages.trans later⟩
  kept := by
    intro r mem
    obtain ⟨r', mem', ages⟩ := ab.kept r mem
    obtain ⟨r'', mem'', later⟩ := bc.kept r' mem'
    exact ⟨r'', mem'', ages.trans later⟩
  holdPrompts := bc.holdPrompts.trans ab.holdPrompts

instance : Std.Refl Quiet := ⟨refl⟩

instance : IsTrans LedgerStore Quiet := ⟨fun _ _ _ => trans⟩

theorem of_same {s s' : LedgerStore} (same : s'.reservations = s.reservations)
    (prompts : s'.holdPrompts = s.holdPrompts) : Quiet s s' := by
  refine ⟨?_, ?_, prompts⟩
  · rw [same]
    exact (refl s).rows
  · rw [same]
    exact (refl s).kept

/-- Rows rewritten in place, each ageing. -/
theorem of_update {s : LedgerStore} {f : SharedPoolRow → SharedPoolRow}
    {keeps : ∀ r, (f r).ident = r.ident} (each : ∀ r ∈ s.reservations, Ages r (f r)) :
    Quiet s (s.updateReservations f keeps) where
  rows := by
    intro r' mem
    obtain ⟨r, was, rfl⟩ := (LedgerStore.mem_updateReservations s f keeps r').mp mem
    exact .inr ⟨r, was, each r was⟩
  kept := fun r mem =>
    ⟨f r, (LedgerStore.mem_updateReservations s f keeps (f r)).mpr ⟨r, mem, rfl⟩, each r mem⟩
  holdPrompts := rfl

theorem of_updateWhere {s : LedgerStore} {p : SharedPoolRow → Bool}
    {f : SharedPoolRow → SharedPoolRow} {keeps : ∀ r, (f r).ident = r.ident}
    (each : ∀ r ∈ s.reservations, p r = true → RowMove r (f r) ∧ r.state ≠ .settled) :
    Quiet s (s.updateWhere p f keeps) := by
  refine of_update ?_
  intro r mem
  cases selected : p r with
  | false => simpa using Ages.refl r
  | true =>
      obtain ⟨move, open_⟩ := each r mem selected
      simpa using Ages.of_move move open_

theorem of_updateReservation {s : LedgerStore} {id : SharedPoolReservationId} {row : SharedPoolRow}
    (found : s.getSharedReservation id = some row) {f : SharedPoolRow → SharedPoolRow}
    {keeps : ∀ r, (f r).ident = r.ident} (move : RowMove row (f row))
    (open_ : row.state ≠ .settled) : Quiet s (s.updateReservation id f keeps) := by
  obtain ⟨mem, here⟩ := (Table.find?_eq_some_iff _ _ _).mp found
  refine of_update ?_
  intro r mem'
  by_cases same : r.id = id
  · have one : r = row := s.reservations.eq_of_key mem' mem (same.trans here.symm)
    subst one
    simpa [same] using Ages.of_move move open_
  · simpa [same] using Ages.refl r

theorem of_renew {s : LedgerStore} {row : SharedPoolRow} (mem : row ∈ s.reservations)
    (active : row.state = .active) (expiresAt : OffsetDateTime) :
    Quiet s (s.updateReservation row.id (SharedPoolRow.renew expiresAt) fun _ => rfl) := by
  refine of_updateReservation ((Table.find?_eq_some_iff _ _ _).mpr ⟨mem, rfl⟩) (.renew expiresAt active) ?_
  simp [active]

theorem of_release {s : LedgerStore} {row : SharedPoolRow} (mem : row ∈ s.reservations)
    (active : row.state = .active) (now : OffsetDateTime) :
    Quiet s (s.updateReservation row.id (SharedPoolRow.release now) fun _ => rfl) := by
  refine of_updateReservation ((Table.find?_eq_some_iff _ _ _).mpr ⟨mem, rfl⟩) (.release now active) ?_
  simp [active]

theorem of_insert {s s' : LedgerStore} {row : SharedPoolRow}
    (inserted : s.reservations.insert? row = some s'.reservations) (apart : Bystander row)
    (prompts : s'.holdPrompts = s.holdPrompts) : Quiet s s' where
  rows := by
    intro r' mem
    rcases (Table.mem_insert? inserted r').mp mem with old | rfl
    · exact .inr ⟨r', old, .refl r'⟩
    · exact .inl apart
  kept := fun r mem => ⟨r, (Table.mem_insert? inserted r).mpr (.inl mem), .refl r⟩
  holdPrompts := prompts

theorem of_unbooked {s s' : LedgerStore} (same : Unbooked s s') : Quiet s s' := by
  obtain ⟨f, keeps, rows, each⟩ := same.rows
  have ages : ∀ r ∈ s.reservations, Ages r (f r) := by
    intro r mem
    refine ⟨?_, ?_⟩
    · obtain unchanged | ⟨settled, ts, ids, marked⟩ := each r mem
      · rw [unchanged]
        exact .refl r
      · rw [marked]
        exact (RowMove.mark ts ids settled).evolves
    · intro settled marked
      have still := same.marked r mem marked
      rw [rows] at still
      obtain ⟨r', mem', here⟩ := (Table.mem_update _ _ _ _).mp still
      have one : r = r' := s.reservations.eq_of_key mem mem' (by rw [← keeps r', here])
      rw [one, here, one]
  refine ⟨?_, ?_, same.frame.holdPrompts⟩
  · intro r' mem
    rw [rows] at mem
    obtain ⟨r, was, rfl⟩ := (Table.mem_update _ _ _ _).mp mem
    exact .inr ⟨r, was, ages r was⟩
  · intro r mem
    refine ⟨f r, ?_, ages r mem⟩
    rw [rows]
    exact (Table.mem_update _ _ _ _).mpr ⟨r, mem, rfl⟩

end Quiet

/-! ## Transactions -/

namespace LedgerStore

variable {s s' : LedgerStore}

theorem settleSharedCore_quiet {id : SharedPoolReservationId} {actual : Option Nat}
    {usageKnown : Bool} {now : OffsetDateTime} {attribution : ExecutorAttribution}
    {watermark : Option SettleWatermark} {out : SharedPoolSettleOutcome}
    (done : s.settleSharedCore id actual usageKnown now attribution watermark = .ok (out, s')) :
    Quiet s s' := by
  obtain rfl | ⟨row, supplied, columns, found, settleable, -, rfl⟩ := settleSharedCore_ok done
  · exact .refl s'
  · refine .of_updateReservation found (.settle _ _ _ _ _ _ settleable) ?_
    intro settled
    rcases (settleable_iff row).mp settleable with active | expired
    · simp [settled] at active
    · simp [settled] at expired

theorem renewShared_quiet {id : SharedPoolReservationId} {principalId : PrincipalId}
    {sessionId : String} {now : OffsetDateTime} {ttlSecs : Nat} {out : SharedPoolRenewOutcome}
    (done : s.renewShared id principalId sessionId now ttlSecs = .ok (out, s')) : Quiet s s' := by
  obtain ⟨rfl, -⟩ | ⟨row, expiresAt, found, fresh, -, -, rfl⟩ := renewSharedForPrompt_ok done
  · exact .refl s'
  · have active := ((renewable_iff row principalId sessionId now).mp fresh).2.2.1
    obtain ⟨mem, rfl⟩ := (Table.find?_eq_some_iff _ _ _).mp found
    exact .of_renew mem active expiresAt

theorem releaseShared_quiet {id : SharedPoolReservationId} {now : OffsetDateTime}
    {out : SharedPoolReleaseOutcome} (done : s.releaseShared id now = .ok (out, s')) :
    Quiet s s' := by
  obtain rfl | ⟨row, found, active, rfl⟩ := releaseShared_ok done
  · exact .refl s'
  · obtain ⟨mem, rfl⟩ := (Table.find?_eq_some_iff _ _ _).mp found
    exact .of_release mem active now

theorem expireStaleSharedPoolReservations_quiet {now : OffsetDateTime}
    {out : List SharedPoolReservation}
    (done : s.expireStaleSharedPoolReservations now = .ok (out, s')) : Quiet s s' := by
  rw [expireStaleSharedPoolReservations_ok done]
  refine .of_updateWhere ?_
  intro r mem selected
  simp only [stale, decide_eq_true_eq] at selected
  exact ⟨resolveStale_move selected.1, by simp [selected.1]⟩

theorem settleOrphanedGatewayHolds_quiet {bootPrefixKeep : String} {now : OffsetDateTime}
    {out : List SharedPoolReservation}
    (done : s.settleOrphanedGatewayHolds bootPrefixKeep now = .ok (out, s')) : Quiet s s' := by
  obtain rfl | rfl := settleOrphanedGatewayHolds_ok done
  · exact .refl s'
  · refine Quiet.of_updateWhere (f := SharedPoolRow.book now) ?_
    intro r mem selected
    simp only [orphaned, Bool.and_eq_true, decide_eq_true_eq] at selected
    exact ⟨.book now selected.1.1, by simp [selected.1.1]⟩

theorem ensurePool_quiet {poolId : PoolId} {unit : QuotaUnit} {capacity : Nat}
    {now : OffsetDateTime} {pool : QuotaPool}
    (done : s.ensurePool poolId unit capacity now = .ok (pool, s')) : Quiet s s' :=
  .of_same (ensurePool_reservations done) (ensurePool_ok done).2.2.1

/-- A charge whose new row would be a bystander. -/
theorem chargeSharedWithWatermark_quiet {req : SharedPoolChargeRequest}
    {watermark : Option SettleWatermark} {fresh : SharedPoolReservationId}
    {out : SharedPoolChargeOutcome}
    (marks : startsWith req.idempotencyKey gatewayMarkPrefix = true →
      ∃ at_ ids, watermark = some ⟨some at_, ids⟩)
    (done : s.chargeSharedWithWatermark req watermark fresh = .ok (out, s')) : Quiet s s' := by
  obtain ⟨unbooked, -, -⟩ | ⟨attribution, columns, _, _, _, ⟨stored, -⟩, -, rfl, booked⟩ :=
    chargeSharedWithWatermark_books done
  · exact .of_unbooked unbooked
  · refine .of_insert booked.inserted (.inl ⟨rfl, rfl, ?_⟩) booked.frame.holdPrompts
    intro named
    obtain ⟨at_, ids, rfl⟩ := marks named
    change columns.1 ≠ none
    rw [(watermarkColumns_ok stored).1]
    exact nofun

end LedgerStore

/-! ## Requests -/

open Procedure

section Moves

variable {rel : LedgerStore → LedgerStore → Prop} [Std.Refl rel]

theorem moves_periodOf (cfg : SharedBudgetConfig) (at_ : OffsetDateTime) :
    Moves rel (periodOf cfg at_) := by
  unfold periodOf
  split
  · exact .pure _
  · exact .fail _

theorem moves_remainingOf [IsTrans LedgerStore rel] (rt : SharedBudgetRuntime) (point : FigureRead)
    (poolId : PoolId) (cfg : SharedBudgetConfig) (now : OffsetDateTime) :
    Moves rel (remainingOf rt point poolId cfg now) := by
  unfold remainingOf
  split
  · exact .pure _
  · exact .bind (.read _) fun _ => .pure _

theorem moves_sessionIsRouted [IsTrans LedgerStore rel] (rt : SharedBudgetRuntime)
    (cfg : SharedBudgetConfig) (sessionId : String) : Moves rel (sessionIsRouted rt cfg sessionId) :=
  .bind (moves_periodOf cfg rt.now) fun _ => .read _

end Moves

/-- A text starts in two ways only when one of them starts the other. -/
theorem startsWith_conflict {s p q : String} (named : startsWith s p = true)
    (apart : startsWith p q = false) (apart' : startsWith q p = false) : startsWith s q = false := by
  rw [Bool.eq_false_iff]
  intro also
  simp only [startsWith, List.isPrefixOf_iff_prefix] at named also
  rcases List.prefix_or_prefix_of_prefix named also with within | within
  · rw [startsWith, List.isPrefixOf_iff_prefix.mpr within] at apart'
    cases apart'
  · rw [startsWith, List.isPrefixOf_iff_prefix.mpr within] at apart
    cases apart

/-- A key that names no mark. -/
def Unmarking (key : String) : Prop := startsWith key gatewayMarkPrefix = false

/-- A key of another kind is no mark. -/
theorem unmarking_of_kind {kind : String} (rest : String)
    (other : startsWith kind gatewayMarkPrefix = false)
    (other' : startsWith gatewayMarkPrefix kind = false) : Unmarking (kind ++ rest) :=
  startsWith_conflict (startsWith_append _ _) other other'

theorem bookCharge_quiet (rt : SharedBudgetRuntime) (state : SharedBudgetFileState)
    (charge : BookedCharge) (fresh : SharedPoolReservationId) (plain : Unmarking charge.key) :
    Moves Quiet (bookCharge rt state charge fresh) := by
  intro s
  obtain ⟨unbooked, -⟩ | ⟨row, outcome, booked, new, -, -⟩ := bookCharge_post rt state charge fresh s
  · exact .of_unbooked unbooked
  · refine .of_insert booked.inserted (.inl ⟨new.charged.1, new.charged.2.1, ?_⟩)
      booked.frame.holdPrompts
    intro named
    rw [new.key, plain] at named
    cases named

theorem ensurePeriodPool_quiet (poolId : PoolId) (cfg : SharedBudgetConfig) (now : OffsetDateTime) :
    Moves Quiet (ensurePeriodPool poolId cfg now) :=
  .transact fun _ _ _ => LedgerStore.ensurePool_quiet

theorem settleHoldFromWindow_quiet (rt : SharedBudgetRuntime) (state : SharedBudgetFileState)
    (sessionId : String) (holds : List SharedPoolRow) (target : SharedPoolRow)
    (source : TranscriptSource) (bookFlat : Bool) :
    Moves Quiet (settleHoldFromWindow rt state sessionId holds target source bookFlat) := by
  unfold settleHoldFromWindow
  refine .bind (.read _) fun window => ?_
  split
  · exact .pure _
  simp only
  split
  · exact .pure _
  · exact .bind (.transact fun _ _ _ => LedgerStore.settleSharedCore_quiet) fun _ => .pure _

theorem advanceGatewayMark_quiet (rt : SharedBudgetRuntime) (cfg : SharedBudgetConfig)
    (sessionId : String) (fresh : SharedPoolReservationId) :
    Moves Quiet (advanceGatewayMark rt cfg sessionId fresh) := by
  unfold advanceGatewayMark
  split
  · exact .pure _
  refine .bind (moves_sessionIsRouted rt cfg sessionId) fun routed => ?_
  split
  · refine .bind (moves_periodOf cfg rt.now) fun period => .bind (.attempt ?_) fun marked => ?_
    · intro s out s' done
      exact LedgerStore.chargeSharedWithWatermark_quiet (fun _ => ⟨_, _, rfl⟩) done
    · split
      · exact .pure _
      · exact .pure _
      · exact .fail _
  · exact .pure _

theorem settlePending_quiet (rt : SharedBudgetRuntime) (sessionId : String)
    (holds : List SharedPoolRow) (source : TranscriptSource) :
    Moves Quiet (settlePending rt sessionId holds source) := by
  unfold settlePending
  split
  · exact .pure _
  · refine .bind (settleHoldFromWindow_quiet _ _ _ _ _ _ _) fun outcome => ?_
    split
    · exact .pure _
    · exact .pure _

theorem settleTurn_quiet (rt : SharedBudgetRuntime) (sessionId : String) (source : TranscriptSource)
    (promptId : Option String) (fresh : SharedPoolReservationId) :
    Moves Quiet (settleTurn rt sessionId source promptId fresh) := by
  unfold settleTurn
  split
  · exact .pure _
  split
  · exact .pure _
  refine .bind (.read _) fun holds => .bind (.read _) fun replay => ?_
  split
  · exact .pure _
  refine .bind (settlePending_quiet _ _ _ _) fun settlement => ?_
  split
  · split
    · exact .bind (advanceGatewayMark_quiet _ _ _ _) fun _ => .pure _
    · exact .pure _
  · exact .pure _

/-! ### The end of a session -/

theorem unmarking_tailKey (rfc : OffsetDateTime → String) (sessionId : String)
    (after last : OffsetDateTime) : Unmarking (tailKey rfc sessionId after last) := by
  unfold tailKey
  rw [String.append_assoc, String.append_assoc, String.append_assoc, String.append_assoc]
  exact unmarking_of_kind _ (by decide) (by decide)

theorem chargeTail_quiet (rfc : OffsetDateTime → String) (rt : SharedBudgetRuntime)
    (cfg : SharedBudgetConfig) (sessionId : String) (admission : Option SourcedAdmission)
    (window : OffsetDateTime × List String) (observation : PricedObservation)
    (fresh : SharedPoolReservationId) :
    Moves Quiet (chargeTail rfc rt cfg sessionId admission window observation fresh) := by
  unfold chargeTail
  split
  · split
    · exact .pure _
    split
    · exact .pure _
    · exact .bind (bookCharge_quiet _ _ _ _ (unmarking_tailKey rfc sessionId _ _)) fun _ => .pure _
  · exact .pure _

theorem tailPastMark_quiet (rfc : OffsetDateTime → String) (rt : SharedBudgetRuntime)
    (cfg : SharedBudgetConfig) (sessionId : String) (admission : Option SourcedAdmission)
    (holds : List SharedPoolRow) (path : String) (file : TranscriptFile)
    (fresh : SharedPoolReservationId) :
    Moves Quiet (tailPastMark rfc rt cfg sessionId admission holds path file fresh) := by
  unfold tailPastMark
  refine .bind (.read _) fun mark => ?_
  split
  · exact .pure _
  refine .bind (.read _) fun window => ?_
  split
  · exact .fail _
  split
  · exact .pure _
  · exact chargeTail_quiet _ _ _ _ _ _ _ _

theorem settleTail_quiet (rfc : OffsetDateTime → String) (rt : SharedBudgetRuntime)
    (sessionId path : String) (provider : Option String) (file : TranscriptFile)
    (fresh : SharedPoolReservationId) :
    Moves Quiet (settleTail rfc rt sessionId path provider file fresh) := by
  unfold settleTail
  split
  · exact .pure _
  split
  · exact .pure _
  unfold settleTailOnLane
  split
  · exact .pure _
  split
  · exact .pure _
  split
  · exact .pure _
  refine .bind (moves_periodOf _ _) fun period => .bind (.read _) fun admission =>
    .bind (.read _) fun holds => .bind ?_ fun pending => ?_
  · unfold settlePendingTail
    split
    · exact .pure _
    · exact .bind (settleHoldFromWindow_quiet _ _ _ _ _ _ _) fun _ => .pure _
  split
  · exact .bind (.read _) fun _ => .pure _
  · exact .pure _
  split
  · exact .bind (advanceGatewayMark_quiet _ _ _ _) fun _ => .pure _
  · exact tailPastMark_quiet _ _ _ _ _ _ _ _ _

theorem heartbeat_quiet (rt : SharedBudgetRuntime) (sessionId : String) :
    Moves Quiet (heartbeat rt sessionId) := by
  have renews : ∀ holds, Moves Quiet (renewEach sessionId rt.now holds) := by
    intro holds
    induction holds with
    | nil => exact .pure _
    | cons hold rest ih =>
        refine .bind (.transact fun _ _ _ => LedgerStore.renewShared_quiet) fun _ => ?_
        exact .bind ih fun _ => .pure _
  unfold heartbeat
  split
  · split
    · exact .pure _
    · exact .bind (moves_periodOf _ _) fun _ => .bind (.read _) fun _ => renews _
  · exact .pure _

/-! ### Codex -/

theorem settleCodexHold_quiet (rt : SharedBudgetRuntime) (lane turnId : String)
    (holdId : SharedPoolReservationId) (source : RolloutSource) :
    Moves Quiet (settleCodexHold rt lane turnId holdId source) := by
  unfold settleCodexHold
  refine .bind (.read _) fun holds => ?_
  split
  · exact .pure _
  split
  · exact .pure _
  refine .bind (.read _) fun accepted => ?_
  simp only
  split
  · exact .pure _
  · exact .bind (.transact fun _ _ _ => LedgerStore.settleSharedCore_quiet) fun _ => .pure _

theorem unmarking_codexTurnKey (lane turnId : String) : Unmarking (codexTurnKey lane turnId) := by
  unfold codexTurnKey
  rw [String.append_assoc, String.append_assoc]
  exact unmarking_of_kind _ (by decide) (by decide)

theorem unmarking_trueup (lane : String) (hold : SharedPoolRow) (measured delta : Nat) :
    Unmarking (trueupCharge lane hold measured delta).key := by
  show Unmarking (codexPrefix lane hold.id ++ "c" ++ Nat.repr measured)
  unfold codexPrefix
  rw [String.append_assoc, String.append_assoc, String.append_assoc, String.append_assoc,
    String.append_assoc]
  exact unmarking_of_kind _ (by decide) (by decide)

theorem settleOwnTurn_quiet (rt : SharedBudgetRuntime) (lane turnId : String)
    (source : RolloutSource) (fresh : SharedPoolReservationId) :
    Moves Quiet (settleOwnTurn rt lane turnId source fresh) := by
  unfold settleOwnTurn
  refine .bind (.read _) fun accepted => ?_
  split
  · exact settleCodexHold_quiet _ _ _ _ _
  unfold chargeUnadmittedCodexTurn
  split
  · simp only
    split
    · exact .pure _
    · exact .bind (bookCharge_quiet _ _ _ _ (unmarking_codexTurnKey lane turnId)) fun _ => .pure _
  · exact .pure _

theorem recoverHolds_quiet (rt : SharedBudgetRuntime) (lane : String) (source : RolloutSource)
    (cap : Nat) (holds : List SharedPoolRow) :
    Moves Quiet (recoverHolds rt lane source cap holds) := by
  induction holds generalizing cap with
  | nil =>
      cases cap with
      | zero => exact .pure _
      | succ cap => exact .pure _
  | cons hold rest ih =>
      cases cap with
      | zero => exact .pure _
      | succ cap =>
          refine .bind (.read _) fun turns => ?_
          split
          · exact ih (cap + 1)
          · exact .bind (settleCodexHold_quiet _ _ _ _ _).caught fun _ => ih cap

theorem bookTrueup_quiet (rt : SharedBudgetRuntime) (cfg : SharedBudgetConfig) (lane : String)
    (hold : SharedPoolRow) (settled measured : Nat) (fresh : SharedPoolReservationId) :
    Moves Quiet (bookTrueup rt cfg lane hold settled measured fresh) := by
  unfold bookTrueup
  refine .bind (.read _) fun total => ?_
  split
  · exact .fail _
  simp only
  split
  · exact .pure _
  refine .bind (moves_periodOf _ _) fun period => ?_
  split
  · exact .pure _
  · exact .bind (bookCharge_quiet _ _ _ _ (unmarking_trueup _ _ _ _)) fun _ => .pure _

theorem trueupCodexHold_quiet (rt : SharedBudgetRuntime) (lane : String)
    (holdId : SharedPoolReservationId) (source : RolloutSource) (fresh : SharedPoolReservationId) :
    Moves Quiet (trueupCodexHold rt lane holdId source fresh) := by
  unfold trueupCodexHold
  split
  · split
    · exact .pure _
    refine .bind (.read _) fun holds => ?_
    split
    · exact .pure _
    split
    · unfold remeasureHold
      refine .bind (.read _) fun turns => ?_
      split
      · exact .pure _
      split
      · exact bookTrueup_quiet _ _ _ _ _ _ _
      · exact .pure _
    · exact .pure _
  · exact .pure _

theorem settleCodexTurn_quiet (rt : SharedBudgetRuntime) (sessionId turnId : String)
    (source : RolloutSource) (fresh trueupFresh : SharedPoolReservationId) :
    Moves Quiet (settleCodexTurn rt sessionId turnId source fresh trueupFresh) := by
  unfold settleCodexTurn
  split
  · exact .pure _
  split
  · refine .bind (.read _) fun target => .bind (settleOwnTurn_quiet _ _ _ _ _).caught fun primary =>
      .bind ?_ fun _ => .ended primary
    unfold recoverCodexLane
    refine .bind (.read _) fun holds => .bind (recoverHolds_quiet _ _ _ _ _) fun _ => ?_
    split
    · exact .pure _
    · exact .bind (trueupCodexHold_quiet _ _ _ _ _).caught fun _ => .pure _
  · exact .pure _

/-! ### Charges -/

theorem charge_quiet (rt : SharedBudgetRuntime) (req : ChargeAgent)
    (fresh : SharedPoolReservationId) : Moves Quiet (charge rt req fresh) := by
  intro s
  obtain same | ⟨lane, -, ⟨unbooked, -⟩ | ⟨row, outcome, booked, new, -, -⟩⟩ :=
    charge_post rt req fresh s
  · rw [same]
    exact .refl s
  · exact .of_unbooked unbooked
  · refine .of_insert booked.inserted (.inl ⟨new.charged.1, new.charged.2.1, ?_⟩)
      booked.frame.holdPrompts
    intro named
    rw [new.key] at named
    simp [ChargeAgent.onLane, chargeKey, startsWith, gatewayMarkPrefix, List.isPrefixOf] at named

theorem unmarking_transcript (sessionId family rest : String) :
    Unmarking (transcriptPrefix sessionId family ++ rest) := by
  unfold transcriptPrefix
  rw [String.append_assoc, String.append_assoc, String.append_assoc, String.append_assoc]
  exact unmarking_of_kind _ (by decide) (by decide)

theorem chargeTranscriptInner_quiet (sha256Hex : String → String) (rt : SharedBudgetRuntime)
    (state : SharedBudgetFileState) (call : TranscriptCall) (fresh : SharedPoolReservationId) :
    Moves Quiet (chargeTranscriptInner sha256Hex rt state call fresh) := by
  unfold chargeTranscriptInner
  split
  · exact .pure _
  split
  · exact .pure _
  split
  · exact .pure _
  split
  · exact .pure _
  simp only
  refine .bind (.read _) fun total => ?_
  split
  · exact .fail _
  split
  · split
    · exact .pure _
    refine .bind ?_ fun _ => .pure _
    unfold recordGatewayOffset
    simp only
    refine .bind (.read _) fun recorded => ?_
    split
    · refine .bind (moves_sessionIsRouted _ _ _) fun routed => ?_
      split
      · unfold markOffset
        refine .bind (moves_periodOf _ _) fun period => .bind (.attempt ?_) fun marked => ?_
        · intro s out s' done
          refine LedgerStore.chargeSharedWithWatermark_quiet (fun named => ?_) done
          have plain := unmarking_transcript call.sessionId
            (transcriptFamily sha256Hex call.agentId call.path)
          exact absurd named (Bool.not_eq_true _ ▸ plain _)
        · split
          · exact .pure _
          · exact .pure _
          · exact .fail _
      · exact .pure _
    · exact .pure _
  · refine .bind ?_ fun _ => .pure _
    unfold chargeTranscriptHooks
    refine .bind (.read _) fun offset => ?_
    simp only
    split
    · unfold transcriptPosture
      exact .bind (moves_periodOf _ _) fun _ => .bind (.read _) fun _ => .pure _
    · refine .bind (bookCharge_quiet _ _ _ _ ?_) fun _ => .pure _
      unfold transcriptCharge
      simp only
      split
      · exact unmarking_transcript _ _ _
      · exact unmarking_transcript _ _ _

/-! ### The gateway -/

theorem gatewayKey_startsWith {key : String} (valid : gatewayKeyIsValid key = true) :
    startsWith key gatewayKeyPrefix = true := by
  simp only [gatewayKeyIsValid, stripPrefix, Bool.and_eq_true] at valid
  cases named : startsWith key gatewayKeyPrefix with
  | true => rfl
  | false => simp [named] at valid

theorem gatewayReserve_quiet (rt : SharedBudgetRuntime) (req : GatewayReserveRequest)
    (fresh : SharedPoolReservationId) : Moves Quiet (gatewayReserve rt req fresh) := by
  unfold gatewayReserve
  split
  · exact .pure _
  · exact .pure _
  split
  · exact .pure _
  split
  · exact .pure _
  split
  · exact .pure _
  split
  · exact .pure _
  rename_i valid
  have valid : gatewayKeyIsValid req.key = true := by simpa using valid
  refine .bind (moves_periodOf _ _) fun period => .bind (.read _) fun later => ?_
  split
  · exact .pure _
  simp only
  split
  · exact .pure _
  split
  · exact .fail _
  refine .bind (ensurePeriodPool_quiet _ _ _) fun _ => .bind
    (.transact fun _ _ _ => LedgerStore.expireStaleSharedPoolReservations_quiet) fun _ =>
    .bind (.attempt ?_) fun reserved => ?_
  · intro s out s' done
    obtain ⟨rfl, -⟩ | ⟨row, rfl, granted⟩ := LedgerStore.reserveSharedCore_ok done
    · exact .refl _
    · obtain ⟨attribution, expiresAt, resolved, -, rfl⟩ := granted.row_eq
      obtain ⟨inserted, -, -, -, -, -, prompts⟩ := LedgerStore.insertReservation_ok granted.inserted
      cases resolved
      exact .of_insert inserted (.inr ⟨rfl, rfl, gatewayKey_startsWith valid⟩) prompts
  · split
    · exact .fail _
    · exact .pure _
    · refine .bind (moves_remainingOf _ _ _ _ _) fun remaining => ?_
      split
      · exact .fail _
      · exact .pure _

theorem gatewaySettle_quiet (rt : SharedBudgetRuntime) (req : GatewaySettleRequest) :
    Moves Quiet (gatewaySettle rt req) := by
  unfold gatewaySettle
  refine .bind (.read _) fun row => ?_
  split
  · exact .pure _
  · exact .pure _
  · refine .bind (.transact fun _ _ _ => LedgerStore.settleSharedCore_quiet) fun outcome => ?_
    split <;> exact .pure _

theorem gatewayRelease_quiet (rt : SharedBudgetRuntime) (id : SharedPoolReservationId) :
    Moves Quiet (gatewayRelease rt id) := by
  unfold gatewayRelease
  refine .bind (.read _) fun row => ?_
  split
  · exact .pure _
  · exact .pure _
  · refine .bind (.transact fun _ _ _ => LedgerStore.releaseShared_quiet) fun outcome => ?_
    split <;> exact .pure _

theorem gatewayRenew_quiet (rt : SharedBudgetRuntime) (id : SharedPoolReservationId)
    (ttlSecs : Nat) : Moves Quiet (gatewayRenew rt id ttlSecs) := by
  unfold gatewayRenew
  refine .bind (.read _) fun row => ?_
  split
  · exact .pure _
  · exact .pure _
  · refine .bind (.transact fun _ _ _ => LedgerStore.renewShared_quiet) fun outcome => ?_
    split <;> exact .pure _

theorem gatewayOrphansAtStart_quiet (rt : SharedBudgetRuntime) (bootId : String) :
    Moves Quiet (gatewayOrphansAtStart rt bootId) := by
  unfold gatewayOrphansAtStart
  split
  · exact .fail _
  · exact .transact fun _ _ _ => LedgerStore.settleOrphanedGatewayHolds_quiet

end LibraGovernor
