/-
# LibraGovernor.Ledger.Lifecycle -- the life of a shared-pool row

`StateArc` is the state machine of a row: active to settled, released or expired,
and expired to settled by a late settle.  `Evolves` is what two sightings of one
row may differ in, however many transactions lie between them; it is a preorder,
every `RowMove` is one, and so every run is one (`run_evolves`).

A settle or a release closes its row, and a reserve occupies its key, for good:
`closes_once` and `reserves_once` count, over any run, the steps that move a
pool's totals in the name of one id or one key, and find at most one.
-/
import LibraGovernor.Ledger.Transitions
import Mathlib.Logic.Relation

namespace LibraGovernor

open Relational Transaction Transition

set_option autoImplicit false

/-! ## The state machine of a row -/

inductive StateArc : ReservationState → ReservationState → Prop where
  | settle : StateArc .active .settled
  | release : StateArc .active .released
  | expire : StateArc .active .expired
  | settleLate : StateArc .expired .settled

/-- A later sighting `r'` of the row seen as `r`. -/
structure Evolves (r r' : SharedPoolRow) : Prop where
  ident : r'.ident = r.ident
  sessionId : r'.sessionId = r.sessionId
  amount : r'.amount = r.amount
  createdAt : r'.createdAt = r.createdAt
  isCharge : r'.isCharge = r.isCharge
  state : Relation.ReflTransGen StateArc r.state r'.state
  settled : r.state = .settled → r'.state = .settled ∧ r'.settledAmount = r.settledAmount ∧
    r'.usageKnown = r.usageKnown ∧ r'.settledAt = r.settledAt
  released : r.state = .released → r'.state = .released
  executor : r.executorKind ≠ none → r'.executorKind = r.executorKind ∧ r'.agentId = r.agentId
  source : r.chargeSource ≠ none → r'.chargeSource = r.chargeSource

namespace Evolves

theorem refl (r : SharedPoolRow) : Evolves r r :=
  ⟨rfl, rfl, rfl, rfl, rfl, .refl, fun settled => ⟨settled, rfl, rfl, rfl⟩, id,
    fun _ => ⟨rfl, rfl⟩, fun _ => rfl⟩

theorem trans {a b c : SharedPoolRow} (ab : Evolves a b) (bc : Evolves b c) : Evolves a c where
  ident := bc.ident.trans ab.ident
  sessionId := bc.sessionId.trans ab.sessionId
  amount := bc.amount.trans ab.amount
  createdAt := bc.createdAt.trans ab.createdAt
  isCharge := bc.isCharge.trans ab.isCharge
  state := ab.state.trans bc.state
  settled := by
    intro settled
    obtain ⟨state, amount, known, stamp⟩ := ab.settled settled
    obtain ⟨state', amount', known', stamp'⟩ := bc.settled state
    exact ⟨state', amount'.trans amount, known'.trans known, stamp'.trans stamp⟩
  released := fun released => bc.released (ab.released released)
  executor := by
    intro known
    obtain ⟨kind, agent⟩ := ab.executor known
    obtain ⟨kind', agent'⟩ := bc.executor (kind ▸ known)
    exact ⟨kind'.trans kind, agent'.trans agent⟩
  source := by
    intro known
    have source := ab.source known
    exact (bc.source (source ▸ known)).trans source

end Evolves

theorem settleable_iff (r : SharedPoolRow) :
    r.settleable = true ↔ r.state = .active ∨ r.state = .expired := by
  simp [SharedPoolRow.settleable]

namespace RowMove

/-- One move takes at most one arc. -/
theorem arc {r r' : SharedPoolRow} (move : RowMove r r') :
    r'.state = r.state ∨ StateArc r.state r'.state := by
  cases move with
  | settle value usageKnown now supplied ts ids settleable =>
      rcases (settleable_iff r).mp settleable with active | expired
      · exact .inr (active ▸ .settle)
      · exact .inr (expired ▸ .settleLate)
  | release now active => exact .inr (active ▸ .release)
  | renew expiresAt active => exact .inl rfl
  | expire now active => exact .inr (active ▸ .expire)
  | book now active => exact .inr (active ▸ .settle)
  | mark ts ids settled => exact .inl rfl

/-- A closed row only ever takes a watermark, and only a settled one does. -/
theorem final {r r' : SharedPoolRow} (move : RowMove r r')
    (closed : r.state = .settled ∨ r.state = .released) :
    r.state = .settled ∧ r'.state = .settled ∧ r'.settledAmount = r.settledAmount ∧
      r'.usageKnown = r.usageKnown ∧ r'.settledAt = r.settledAt := by
  cases move with
  | settle value usageKnown now supplied ts ids settleable =>
      rcases (settleable_iff r).mp settleable with opened | opened <;> simp [opened] at closed
  | release now active => simp [active] at closed
  | renew expiresAt active => simp [active] at closed
  | expire now active => simp [active] at closed
  | book now active => simp [active] at closed
  | mark ts ids settled => exact ⟨settled, settled, rfl, rfl, rfl⟩

theorem executor {r r' : SharedPoolRow} (move : RowMove r r') (known : r.executorKind ≠ none) :
    r'.executorKind = r.executorKind ∧ r'.agentId = r.agentId := by
  cases move with
  | settle value usageKnown now supplied ts ids settleable =>
      have recorded : r.executorKind.isSome := Option.isSome_iff_ne_none.mpr known
      simp [SharedPoolRow.settle, recorded]
  | _ => exact ⟨rfl, rfl⟩

theorem source {r r' : SharedPoolRow} (move : RowMove r r') (known : r.chargeSource ≠ none) :
    r'.chargeSource = r.chargeSource := by
  cases move with
  | settle value usageKnown now supplied ts ids settleable =>
      obtain ⟨source, recorded⟩ := Option.ne_none_iff_exists'.mp known
      simp [SharedPoolRow.settle, recorded]
  | _ => rfl

theorem evolves {r r' : SharedPoolRow} (move : RowMove r r') : Evolves r r' where
  ident := by cases move <;> rfl
  sessionId := by cases move <;> rfl
  amount := by cases move <;> rfl
  createdAt := by cases move <;> rfl
  isCharge := by cases move <;> rfl
  state := by
    rcases move.arc with same | arc
    · rw [same]
    · exact .single arc
  settled := fun settled => (move.final (.inl settled)).2
  released := by
    intro released
    have settled := (move.final (.inr released)).1
    simp [released] at settled
  executor := move.executor
  source := move.source

end RowMove

/-! ## The table -/

/-- Every row of `t` lives on in `u`. -/
def TableEvolves (t u : ReservationTable) : Prop := ∀ r ∈ t, ∃ r' ∈ u, Evolves r r'

theorem TableEvolves.refl (t : ReservationTable) : TableEvolves t t :=
  fun r mem => ⟨r, mem, .refl r⟩

theorem TableEvolves.trans {t u v : ReservationTable} (tu : TableEvolves t u)
    (uv : TableEvolves u v) : TableEvolves t v := by
  intro r mem
  obtain ⟨r', mem', step⟩ := tu r mem
  obtain ⟨r'', mem'', rest⟩ := uv r' mem'
  exact ⟨r'', mem'', step.trans rest⟩

namespace TableWrite

/-- A row after one write: itself, or one move further. -/
theorem row {opens charges : SharedPoolRow → Prop} {t u : ReservationTable}
    (write : TableWrite opens charges t u) {r : SharedPoolRow} (mem : r ∈ t) :
    ∃ r' ∈ u, r' = r ∨ RowMove r r' := by
  cases write with
  | same => exact ⟨r, mem, .inl rfl⟩
  | moved f keeps moves =>
      exact ⟨f r, (Table.mem_update t f keeps (f r)).mpr ⟨r, mem, rfl⟩, moves r mem⟩
  | opened row hold known inserted => exact ⟨r, (Table.mem_insert? inserted r).mpr (.inl mem), .inl rfl⟩
  | charged row charge known inserted =>
      exact ⟨r, (Table.mem_insert? inserted r).mpr (.inl mem), .inl rfl⟩

theorem evolves {opens charges : SharedPoolRow → Prop} {t u : ReservationTable}
    (write : TableWrite opens charges t u) : TableEvolves t u := by
  intro r mem
  obtain ⟨r', mem', rfl | move⟩ := write.row mem
  · exact ⟨r', mem', .refl r'⟩
  · exact ⟨r', mem', move.evolves⟩

/-- Where a row of the written table comes from. -/
theorem origin {opens charges : SharedPoolRow → Prop} {t u : ReservationTable}
    (write : TableWrite opens charges t u) {r' : SharedPoolRow}
    (mem : r' ∈ u) : (∃ r ∈ t, r' = r ∨ RowMove r r') ∨
      t.insert? r' = some u ∧ (NewHold r' ∧ opens r' ∨ NewCharge r' ∧ charges r') := by
  cases write with
  | same => exact .inl ⟨r', mem, .inl rfl⟩
  | moved f keeps moves =>
      obtain ⟨r, was, rfl⟩ := (Table.mem_update t f keeps r').mp mem
      exact .inl ⟨r, was, moves r was⟩
  | opened row hold known inserted =>
      rcases (Table.mem_insert? inserted r').mp mem with old | rfl
      · exact .inl ⟨r', old, .inl rfl⟩
      · exact .inr ⟨inserted, .inl ⟨hold, known⟩⟩
  | charged row charge known inserted =>
      rcases (Table.mem_insert? inserted r').mp mem with old | rfl
      · exact .inl ⟨r', old, .inl rfl⟩
      · exact .inr ⟨inserted, .inr ⟨charge, known⟩⟩

end TableWrite

theorem run_evolves (s : LedgerStore) (ops : List SharedPoolOp) :
    TableEvolves s.reservations (run SharedPoolOp.apply s ops).reservations :=
  run_relates (fun s s' : LedgerStore => TableEvolves s.reservations s'.reservations)
    (fun s => .refl s.reservations) (fun _ _ _ => .trans)
    (fun s op => (LedgerStore.apply_write s op).evolves) s ops

/-- A figure is recorded exactly on the settled rows. -/
def SettledHasAmount (r : SharedPoolRow) : Prop := r.settledAmount.isSome ↔ r.state = .settled

theorem RowMove.settledHasAmount {r r' : SharedPoolRow} (move : RowMove r r')
    (good : SettledHasAmount r) : SettledHasAmount r' := by
  unfold SettledHasAmount at good ⊢
  cases move with
  | settle value usageKnown now supplied ts ids settleable => simp [SharedPoolRow.settle]
  | release now active => simpa [SharedPoolRow.release, active] using good
  | renew expiresAt active => exact good
  | expire now active => simpa [SharedPoolRow.expire, active] using good
  | book now active => simp [SharedPoolRow.book]
  | mark ts ids settled => exact good

theorem TableWrite.settledHasAmount {opens charges : SharedPoolRow → Prop} {t u : ReservationTable}
    (write : TableWrite opens charges t u)
    (good : ∀ r ∈ t, SettledHasAmount r) : ∀ r ∈ u, SettledHasAmount r := by
  intro r' mem
  rcases write.origin mem with ⟨r, mem, rfl | move⟩ | ⟨-, ⟨hold, -⟩ | ⟨charge, -⟩⟩
  · exact good r' mem
  · exact move.settledHasAmount (good r mem)
  · simp [SettledHasAmount, hold.active, hold.unsettled]
  · simp [SettledHasAmount, charge.settled, charge.amount]

theorem run_settledHasAmount {s : LedgerStore} (good : ∀ r ∈ s.reservations, SettledHasAmount r)
    (ops : List SharedPoolOp) :
    ∀ r ∈ (run SharedPoolOp.apply s ops).reservations, SettledHasAmount r :=
  run_invariant_always (fun s op => (LedgerStore.apply_write s op).settledHasAmount) good ops

/-! ## At most once -/

namespace SharedPoolOp

/-- The key a reserve names. -/
def reservesKey : SharedPoolOp → Option (PoolId × PrincipalId × String)
  | .reserveShared req _ => some (req.poolId, req.principalId, req.idempotencyKey)
  | .reserveSharedMetered req _ _ _ => some (req.poolId, req.principalId, req.idempotencyKey)
  | _ => none

/-- The row a settle or a release names. -/
def closesId : SharedPoolOp → Option SharedPoolReservationId
  | .settleShared id _ _ => some id
  | .settleSharedAttributed id _ _ _ => some id
  | .settleSharedWithWatermark id _ _ _ _ => some id
  | .settleSharedMarked id _ _ _ => some id
  | .releaseShared id _ => some id
  | .releaseAndForgetUnstartedShared id _ => some id
  | _ => none

/-- Whether the operation changes the settled or the active total of a pool. -/
def movesTotals (poolId : PoolId) (s : LedgerStore) (op : SharedPoolOp) : Bool :=
  decide ((op.apply s).settled poolId ≠ s.settled poolId ∨
    (op.apply s).active poolId ≠ s.active poolId)

theorem movesTotals_of_same {poolId : PoolId} {s : LedgerStore} {op : SharedPoolOp}
    (same : (op.apply s).reservations = s.reservations) : op.movesTotals poolId s = false := by
  simp [movesTotals, LedgerStore.settled, LedgerStore.active, same]

end SharedPoolOp

/-- Some row holds the key. -/
def KeyTaken (key : PoolId × PrincipalId × String) (s : LedgerStore) : Prop :=
  ∃ r ∈ s.reservations, r.uniqueKey = key

theorem keyTaken_apply {key : PoolId × PrincipalId × String} {s : LedgerStore}
    (op : SharedPoolOp) (taken : KeyTaken key s) : KeyTaken key (op.apply s) := by
  obtain ⟨r, mem, here⟩ := taken
  obtain ⟨r', mem', evolves⟩ := (LedgerStore.apply_write s op).evolves r mem
  exact ⟨r', mem', (congrArg Prod.snd evolves.ident).trans here⟩

/-- A reserve either leaves the rows alone or takes its free key. -/
theorem reserveSharedCore_key {s s' : LedgerStore} {req : SharedPoolReserveRequest}
    {metered : Option MeteredGate} {fresh : SharedPoolReservationId} {out : CoreReserveOutcome}
    (done : s.reserveSharedCore req metered fresh = .ok (out, s')) :
    s'.reservations = s.reservations ∨
      ¬ KeyTaken (req.poolId, req.principalId, req.idempotencyKey) s ∧
        KeyTaken (req.poolId, req.principalId, req.idempotencyKey) s' := by
  rcases LedgerStore.reserveSharedCore_ok done with ⟨rfl, -⟩ | ⟨row, -, granted⟩
  · exact .inl rfl
  · refine .inr ⟨?_, row, ?_, ?_⟩
    · rintro ⟨r, mem, here⟩
      exact LedgerStore.findByKey_none granted.unheld r mem here
    · exact (Table.mem_insert? (LedgerStore.insertReservation_ok granted.inserted).1 row).mpr
        (.inr rfl)
    · obtain ⟨attribution, expiresAt, -, -, rfl⟩ := granted.row_eq
      rfl

theorem apply_reserve {s : LedgerStore} {op : SharedPoolOp}
    {key : PoolId × PrincipalId × String} (names : op.reservesKey = some key) :
    (op.apply s).reservations = s.reservations ∨ ¬ KeyTaken key s ∧ KeyTaken key (op.apply s) := by
  cases op with
  | reserveShared req fresh =>
      cases names
      simp only [SharedPoolOp.apply]
      cases done : s.reserveShared req fresh with
      | error e => exact .inl rfl
      | ok pair => exact reserveSharedCore_key done
  | reserveSharedMetered req gate promptId fresh =>
      cases names
      simp only [SharedPoolOp.apply]
      cases done : s.reserveSharedMeteredForPrompt req gate promptId fresh with
      | error e => exact .inl rfl
      | ok pair =>
          obtain ⟨mid, reserved, rest⟩ := LedgerStore.reserveSharedMeteredForPrompt_ok done
          have same : pair.2.reservations = mid.reservations := by
            rcases rest with rest | ⟨prompt, h, -, -, rest⟩ <;> rw [rest]
            rfl
          show pair.2.reservations = s.reservations ∨ ¬ KeyTaken _ s ∧ KeyTaken _ pair.2
          simpa only [KeyTaken, same] using reserveSharedCore_key reserved
  | _ => simp [SharedPoolOp.reservesKey] at names

/-- However often a key is reserved, the totals of a pool move at most once for it. -/
theorem reserves_once (key : PoolId × PrincipalId × String) (poolId : PoolId) (s : LedgerStore)
    (ops : List SharedPoolOp) :
    times SharedPoolOp.apply
      (fun s op => decide (op.reservesKey = some key) && op.movesTotals poolId s) s ops ≤ 1 := by
  refine times_le_one (KeyTaken key) ?_ (fun s op => keyTaken_apply op) ?_ s ops
  · intro s op moved
    simp only [Bool.and_eq_true, decide_eq_true_eq] at moved
    rcases apply_reserve (s := s) moved.1 with same | ⟨-, taken⟩
    · rw [SharedPoolOp.movesTotals_of_same same] at moved
      cases moved.2
    · exact taken
  · intro s op taken
    by_cases names : op.reservesKey = some key
    · rcases apply_reserve (s := s) names with same | ⟨free, -⟩
      · simp [SharedPoolOp.movesTotals_of_same same]
      · exact absurd taken free
    · simp [names]

/-- The row is settled or released. -/
def Closed (id : SharedPoolReservationId) (s : LedgerStore) : Prop :=
  ∃ r ∈ s.reservations, r.id = id ∧ (r.state = .settled ∨ r.state = .released)

theorem closed_apply {id : SharedPoolReservationId} {s : LedgerStore} (op : SharedPoolOp)
    (closed : Closed id s) : Closed id (op.apply s) := by
  obtain ⟨r, mem, here, closed⟩ := closed
  obtain ⟨r', mem', evolves⟩ := (LedgerStore.apply_write s op).evolves r mem
  refine ⟨r', mem', (congrArg Prod.fst evolves.ident).trans here, ?_⟩
  rcases closed with settled | released
  · exact .inl (evolves.settled settled).1
  · exact .inr (evolves.released released)

/-- Closing an open row: the row was open, and is closed now. -/
theorem updateReservation_closes {s : LedgerStore} {id : SharedPoolReservationId}
    {row : SharedPoolRow} (found : s.getSharedReservation id = some row)
    (settleable : row.settleable = true) (f : SharedPoolRow → SharedPoolRow)
    (keeps : ∀ r, (f r).ident = r.ident)
    (closes : (f row).state = .settled ∨ (f row).state = .released) :
    ¬ Closed id s ∧ Closed id (s.updateReservation id f keeps) := by
  obtain ⟨mem, here⟩ := (Table.find?_eq_some_iff _ _ _).mp found
  constructor
  · rintro ⟨r, mem', here', closed⟩
    rw [s.reservations.eq_of_key mem' mem (here'.trans here.symm)] at closed
    rcases (settleable_iff row).mp settleable with opened | opened <;> simp [opened] at closed
  · refine ⟨f row, ?_, (congrArg Prod.fst (keeps row)).trans here, closes⟩
    exact (s.mem_updateReservations _ _ _).mpr ⟨row, mem, by simp [here]⟩

theorem settleSharedCore_closes {s s' : LedgerStore} {id : SharedPoolReservationId}
    {actual : Option Nat} {usageKnown : Bool} {now : OffsetDateTime}
    {attribution : ExecutorAttribution} {watermark : Option SettleWatermark}
    {out : SharedPoolSettleOutcome}
    (done : s.settleSharedCore id actual usageKnown now attribution watermark = .ok (out, s')) :
    s'.reservations = s.reservations ∨ ¬ Closed id s ∧ Closed id s' := by
  rcases LedgerStore.settleSharedCore_ok done with rfl | ⟨row, _, _, found, settleable, -, rfl⟩
  · exact .inl rfl
  · exact .inr (updateReservation_closes found settleable _ _ (.inl rfl))

theorem releaseShared_closes {s s' : LedgerStore} {id : SharedPoolReservationId}
    {now : OffsetDateTime} {out : SharedPoolReleaseOutcome}
    (done : s.releaseShared id now = .ok (out, s')) :
    s'.reservations = s.reservations ∨ ¬ Closed id s ∧ Closed id s' := by
  rcases LedgerStore.releaseShared_ok done with rfl | ⟨row, found, active, rfl⟩
  · exact .inl rfl
  · exact .inr (updateReservation_closes found ((settleable_iff row).mpr (.inl active)) _ _
      (.inr rfl))

theorem releaseAndForgetUnstartedShared_closes {s s' : LedgerStore}
    {id : SharedPoolReservationId} {now : OffsetDateTime} {out : SharedPoolReleaseOutcome}
    (done : s.releaseAndForgetUnstartedShared id now = .ok (out, s')) :
    s'.reservations = s.reservations ∨ ¬ Closed id s ∧ Closed id s' := by
  rcases LedgerStore.releaseAndForgetUnstartedShared_ok done with rfl | ⟨row, found, active, rfl⟩
  · exact .inl rfl
  · exact .inr (updateReservation_closes found ((settleable_iff row).mpr (.inl active))
      (SharedPoolRow.release now) (fun _ => rfl) (.inr rfl))

theorem commit_closes {α : Type} {s : LedgerStore} {id : SharedPoolReservationId}
    {tx : Except LedgerError (α × LedgerStore)}
    (closes : ∀ a next, tx = .ok (a, next) →
      next.reservations = s.reservations ∨ ¬ Closed id s ∧ Closed id next) :
    (commit s tx).reservations = s.reservations ∨ ¬ Closed id s ∧ Closed id (commit s tx) := by
  cases tx with
  | error e => exact .inl rfl
  | ok done => exact closes done.1 done.2 rfl

theorem apply_close {s : LedgerStore} {op : SharedPoolOp} {id : SharedPoolReservationId}
    (names : op.closesId = some id) :
    (op.apply s).reservations = s.reservations ∨ ¬ Closed id s ∧ Closed id (op.apply s) := by
  cases op with
  | settleShared id' actual now =>
      cases names
      exact commit_closes fun _ _ => settleSharedCore_closes
  | settleSharedAttributed id' actual now attribution =>
      cases names
      exact commit_closes fun _ _ => settleSharedCore_closes
  | settleSharedWithWatermark id' actual now attribution watermark =>
      cases names
      exact commit_closes fun _ _ => settleSharedCore_closes
  | settleSharedMarked id' amount usageKnown now =>
      cases names
      exact commit_closes fun _ _ => settleSharedCore_closes
  | releaseShared id' now =>
      cases names
      exact commit_closes fun _ _ => releaseShared_closes
  | releaseAndForgetUnstartedShared id' now =>
      cases names
      exact commit_closes fun _ _ => releaseAndForgetUnstartedShared_closes
  | _ => simp [SharedPoolOp.closesId] at names

/-- However often one row is settled and released, the totals of a pool move at most
once for it. -/
theorem closes_once (id : SharedPoolReservationId) (poolId : PoolId) (s : LedgerStore)
    (ops : List SharedPoolOp) :
    times SharedPoolOp.apply
      (fun s op => decide (op.closesId = some id) && op.movesTotals poolId s) s ops ≤ 1 := by
  refine times_le_one (Closed id) ?_ (fun s op => closed_apply op) ?_ s ops
  · intro s op moved
    simp only [Bool.and_eq_true, decide_eq_true_eq] at moved
    rcases apply_close (s := s) moved.1 with same | ⟨-, closed⟩
    · rw [SharedPoolOp.movesTotals_of_same same] at moved
      cases moved.2
    · exact closed
  · intro s op closed
    by_cases names : op.closesId = some id
    · rcases apply_close (s := s) names with same | ⟨opened, -⟩
      · simp [SharedPoolOp.movesTotals_of_same same]
      · exact absurd closed opened
    · simp [names]

/-! ## The whole life -/

theorem eq_of_uniqueKey (s : LedgerStore) {r r' : SharedPoolRow} (mem : r ∈ s.reservations)
    (mem' : r' ∈ s.reservations) (same : r.uniqueKey = r'.uniqueKey) : r = r' :=
  List.inj_on_of_nodup_map s.uniqueKeys mem mem' same

/-- **The life of a row.**  In every reachable store and for every next operation
and every further run: a row takes at most one arc of the state machine per
operation, a later sighting of it differs only as `Evolves` allows, a figure is
recorded exactly on settled rows, no two rows share a key, and all the reserves of
one key, or all the settles and releases of one row, move a pool's totals at most
once between them. -/
theorem reservation_lifecycle (ops more : List SharedPoolOp) (op : SharedPoolOp) :
    let s := run SharedPoolOp.apply LedgerStore.empty ops
    (∀ r ∈ s.reservations, ∃ r' ∈ (op.apply s).reservations,
      r'.id = r.id ∧ (r'.state = r.state ∨ StateArc r.state r'.state)) ∧
    (∀ r ∈ s.reservations, ∃ r' ∈ (run SharedPoolOp.apply s more).reservations, Evolves r r') ∧
    (∀ r ∈ s.reservations, r.settledAmount.isSome ↔ r.state = .settled) ∧
    (∀ r ∈ s.reservations, ∀ r' ∈ s.reservations, r.uniqueKey = r'.uniqueKey → r = r') ∧
    (∀ key poolId, times SharedPoolOp.apply
      (fun s op => decide (op.reservesKey = some key) && op.movesTotals poolId s) s more ≤ 1) ∧
    (∀ id poolId, times SharedPoolOp.apply
      (fun s op => decide (op.closesId = some id) && op.movesTotals poolId s) s more ≤ 1) := by
  intro s
  refine ⟨?_, run_evolves s more, ?_, ?_, ?_, ?_⟩
  · intro r mem
    obtain ⟨r', mem', rfl | move⟩ := (LedgerStore.apply_write s op).row mem
    · exact ⟨r', mem', rfl, .inl rfl⟩
    · exact ⟨r', mem', congrArg Prod.fst move.evolves.ident, move.arc⟩
  · refine run_settledHasAmount ?_ ops
    intro r mem
    exact absurd mem (Table.not_mem_empty r)
  · intro r mem r' mem'
    exact eq_of_uniqueKey s mem mem'
  · intro key poolId
    exact reserves_once key poolId s more
  · intro id poolId
    exact closes_once id poolId s more

end LibraGovernor
