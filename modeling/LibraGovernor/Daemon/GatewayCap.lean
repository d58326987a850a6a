/-
# LibraGovernor.Daemon.GatewayCap -- under the gateway the monthly cap is hard

Every row of a gateway-enforced ledger is a gateway hold, so nothing in it is ever
freed by expiry: a hold leaves the active sum only into the settled one, at no more
than it held, or by being released.  A settle above a hold would need a usage
outside the bounds the hold was priced for (`settleAmountFor_le`).  So what is
committed never passes what the last reserve admitted, which is the cap.

The holds handed out so far are part of the state (`GatewayWorld.issued`): a
report is judged against the bounds of its own hold.
-/
import LibraGovernor.Daemon.Gateway
import LibraGovernor.Ledger.Lifecycle
import LibraGovernor.Ledger.Oversubscription

namespace LibraGovernor

open Relational Transaction Transition Procedure

set_option autoImplicit false

/-! ## A table of gateway holds -/

structure GatewayTable (cap : Nat) (t : ReservationTable) : Prop where
  gateway : ∀ r ∈ t, r.gatewayHold = true
  booked : ∀ r ∈ t, r.state ≠ .expired
  within : ∀ poolId, committedIn poolId t ≤ cap

theorem gatewayHold_iff (r : SharedPoolRow) :
    r.gatewayHold = true ↔ r.chargeSource = some .gateway ∧ r.isCharge = false := by
  simp [SharedPoolRow.gatewayHold]

/-- A move that frees nothing by expiry and commits nothing more. -/
structure TightMove (r r' : SharedPoolRow) : Prop where
  move : RowMove r r'
  booked : r'.state ≠ .expired
  tight : r'.committedPart ≤ r.committedPart

theorem TightMove.gateway {r r' : SharedPoolRow} (tight : TightMove r r')
    (gateway : r.gatewayHold = true) : r'.gatewayHold = true := by
  obtain ⟨source, hold⟩ := (gatewayHold_iff r).mp gateway
  refine (gatewayHold_iff r').mpr ⟨?_, ?_⟩
  · rw [tight.move.source (by simp [source]), source]
  · rw [tight.move.evolves.isCharge, hold]

namespace GatewayTable

variable {cap : Nat} {t : ReservationTable}

theorem update (good : GatewayTable cap t) (f : SharedPoolRow → SharedPoolRow)
    (keeps : ∀ r, (f r).id = r.id) (moves : ∀ r ∈ t, f r = r ∨ TightMove r (f r)) :
    GatewayTable cap (t.update f keeps) where
  gateway := by
    intro r' mem
    obtain ⟨r, was, rfl⟩ := (Table.mem_update t f keeps r').mp mem
    obtain same | tight := moves r was
    · rw [same]
      exact good.gateway r was
    · exact tight.gateway (good.gateway r was)
  booked := by
    intro r' mem
    obtain ⟨r, was, rfl⟩ := (Table.mem_update t f keeps r').mp mem
    obtain same | tight := moves r was
    · rw [same]
      exact good.booked r was
    · exact tight.booked
  within := by
    intro poolId
    refine le_trans ?_ (good.within poolId)
    rw [committedIn, Table.sum_update]
    refine Table.sum_le t fun r mem => ?_
    obtain same | tight := moves r mem
    · rw [same]
    · rw [tight.move.poolId]
      split
      · exact tight.tight
      · exact le_refl 0

/-- One row of the table moves. -/
theorem updateReservation {s : LedgerStore} (good : GatewayTable cap s.reservations)
    {id : SharedPoolReservationId} {row : SharedPoolRow}
    (found : s.getSharedReservation id = some row) (f : SharedPoolRow → SharedPoolRow)
    (keeps : ∀ r, (f r).ident = r.ident) (tight : TightMove row (f row)) :
    GatewayTable cap (s.updateReservation id f keeps).reservations := by
  obtain ⟨mem, here⟩ := (Table.find?_eq_some_iff _ _ _).mp found
  rw [LedgerStore.updateReservation, LedgerStore.updateReservations_reservations]
  refine good.update _ _ ?_
  intro r mem'
  by_cases same : r.id = id
  · have one : r = row := s.reservations.eq_of_key mem' mem (same.trans here.symm)
    subst one
    simp only [same, if_true]
    exact .inr tight
  · exact .inl (by simp [same])

/-- The selected rows move. -/
theorem updateWhere {s : LedgerStore} (good : GatewayTable cap s.reservations)
    (p : SharedPoolRow → Bool) (f : SharedPoolRow → SharedPoolRow)
    (keeps : ∀ r, (f r).ident = r.ident)
    (tight : ∀ r ∈ s.reservations, p r = true → TightMove r (f r)) :
    GatewayTable cap (s.updateWhere p f keeps).reservations := by
  rw [LedgerStore.updateWhere, LedgerStore.updateReservations_reservations]
  refine good.update _ _ ?_
  intro r mem
  cases selected : p r with
  | false => exact .inl (by simp)
  | true =>
      simp only [if_true]
      exact .inr (tight r mem selected)

end GatewayTable

/-! ## The moves of a gateway hold -/

section Moves

variable {r : SharedPoolRow}

theorem tightMove_book (now : OffsetDateTime) (active : r.state = .active) :
    TightMove r (r.book now) where
  move := .book now active
  booked := nofun
  tight := by
    simp [SharedPoolRow.committedPart, SharedPoolRow.settledPart, SharedPoolRow.activePart,
      SharedPoolRow.book, active]

theorem tightMove_release (now : OffsetDateTime) (active : r.state = .active) :
    TightMove r (r.release now) where
  move := .release now active
  booked := nofun
  tight := by
    simp [SharedPoolRow.committedPart, SharedPoolRow.settledPart, SharedPoolRow.activePart,
      SharedPoolRow.release]

theorem tightMove_renew (expiresAt : OffsetDateTime) (active : r.state = .active) :
    TightMove r (r.renew expiresAt) where
  move := .renew expiresAt active
  booked := by simp [SharedPoolRow.renew, active]
  tight := le_refl _

/-- A settle at no more than the hold. -/
theorem tightMove_settle {value : Nat} (le : value ≤ r.amount) (usageKnown : Bool)
    (now : OffsetDateTime) (supplied : ExecutorAttribution) (ts : Option OffsetDateTime)
    (ids : Option (List String)) (active : r.state = .active) :
    TightMove r (r.settle value usageKnown now supplied ts ids) where
  move := .settle value usageKnown now supplied ts ids ((settleable_iff r).mpr (.inl active))
  booked := nofun
  tight := by
    simpa [SharedPoolRow.committedPart, SharedPoolRow.settledPart, SharedPoolRow.activePart,
      SharedPoolRow.settle, active] using le

end Moves

namespace GatewayTable

variable {cap : Nat} {s s' : LedgerStore}

/-- A stale gateway hold is booked, never freed. -/
theorem expireStale (good : GatewayTable cap s.reservations) {now : OffsetDateTime}
    {out : List SharedPoolReservation}
    (done : s.expireStaleSharedPoolReservations now = .ok (out, s')) :
    GatewayTable cap s'.reservations := by
  rw [LedgerStore.expireStaleSharedPoolReservations_ok done]
  refine good.updateWhere _ _ _ ?_
  intro r mem selected
  simp only [LedgerStore.stale, decide_eq_true_eq] at selected
  rw [LedgerStore.resolveStale, if_pos (good.gateway r mem)]
  exact tightMove_book now selected.1

theorem settleOrphaned (good : GatewayTable cap s.reservations) {bootPrefix : String}
    {now : OffsetDateTime} {out : List SharedPoolReservation}
    (done : s.settleOrphanedGatewayHolds bootPrefix now = .ok (out, s')) :
    GatewayTable cap s'.reservations := by
  obtain rfl | rfl := LedgerStore.settleOrphanedGatewayHolds_ok done
  · exact good
  · refine good.updateWhere _ _ _ ?_
    intro r mem selected
    simp only [LedgerStore.orphaned, Bool.and_eq_true, decide_eq_true_eq] at selected
    exact tightMove_book now selected.1.1

theorem release (good : GatewayTable cap s.reservations) {id : SharedPoolReservationId}
    {now : OffsetDateTime} {out : SharedPoolReleaseOutcome}
    (done : s.releaseShared id now = .ok (out, s')) : GatewayTable cap s'.reservations := by
  obtain rfl | ⟨row, found, active, rfl⟩ := LedgerStore.releaseShared_ok done
  · exact good
  · exact good.updateReservation found _ _ (tightMove_release now active)

theorem renew (good : GatewayTable cap s.reservations) {id : SharedPoolReservationId}
    {principalId : PrincipalId} {sessionId : String} {now : OffsetDateTime} {ttlSecs : Nat}
    {out : SharedPoolRenewOutcome}
    (done : s.renewShared id principalId sessionId now ttlSecs = .ok (out, s')) :
    GatewayTable cap s'.reservations := by
  obtain ⟨rfl, -⟩ | ⟨row, expiresAt, found, fresh, -, -, rfl⟩ :=
    LedgerStore.renewSharedForPrompt_ok done
  · exact good
  · have active := ((LedgerStore.renewable_iff row principalId sessionId now).mp fresh).2.2.1
    exact good.updateReservation found (SharedPoolRow.renew expiresAt) (fun _ => rfl)
      (tightMove_renew expiresAt active)

/-- A settle at no more than what the row holds. -/
theorem settle (good : GatewayTable cap s.reservations) {id : SharedPoolReservationId}
    {amount : Nat} {usageKnown : Bool} {now : OffsetDateTime} {out : SharedPoolSettleOutcome}
    (le : ∀ row, s.getSharedReservation id = some row → amount ≤ row.amount)
    (done : s.settleSharedMarked id amount usageKnown now = .ok (out, s')) :
    GatewayTable cap s'.reservations := by
  obtain rfl | ⟨row, supplied, columns, found, settleable, -, rfl⟩ :=
    LedgerStore.settleSharedCore_ok done
  · exact good
  · have mem := ((Table.find?_eq_some_iff _ _ _).mp found).1
    have active : row.state = .active := by
      obtain active | expired := (settleable_iff row).mp settleable
      · exact active
      · exact absurd expired (good.booked row mem)
    exact good.updateReservation found _ _
      (tightMove_settle (le row found) usageKnown now supplied columns.1 columns.2 active)

/-- A granted hold keeps the pool within the cap it was admitted against. -/
theorem grant (good : GatewayTable cap s.reservations) (fits : cap ≤ u64Max)
    {req : SharedPoolReserveRequest} {fresh : SharedPoolReservationId} {row : SharedPoolRow}
    (gateway : req.attribution = .unattributed (some .gateway))
    (granted : LedgerStore.GrantedReserve s req (some ⟨none, .localConfigured cap⟩) fresh row s') :
    GatewayTable cap s'.reservations := by
  have inserted := (LedgerStore.insertReservation_ok granted.inserted).1
  have here : row.gatewayHold = true ∧ row.state ≠ .expired := by
    obtain ⟨attribution, expiresAt, resolved, -, rfl⟩ := granted.row_eq
    rw [gateway] at resolved
    cases resolved
    exact ⟨rfl, nofun⟩
  refine ⟨?_, ?_, ?_⟩
  · intro r mem
    obtain old | rfl := (Table.mem_insert? inserted r).mp mem
    · exact good.gateway r old
    · exact here.1
  · intro r mem
    obtain old | rfl := (Table.mem_insert? inserted r).mp mem
    · exact good.booked r old
    · exact here.2
  · intro poolId
    have opened := committedIn_opened fits
      (reservesAgainst_localConfigured poolId cap s req none none fresh)
      ⟨req, some ⟨none, .localConfigured cap⟩, rfl, fresh, s', granted⟩ inserted
    have before := good.within poolId
    rw [← committed_eq] at before
    omega

end GatewayTable

/-! ## Holds handed out -/

/-- A hold the gateway was given, with what the request asked for. -/
structure IssuedHold where
  hold : GatewayHold
  fastRequested : Bool
  deriving DecidableEq, Repr

/-- The hold's row is there at the amount it was handed out at, and that amount is
the worst case within the hold's own bounds. -/
structure Backed (cfg : SharedBudgetConfig) (t : ReservationTable) (h : IssuedHold) : Prop where
  row : ∃ r ∈ t, r.id = h.hold.reservationId ∧ r.amount = h.hold.reservedUsdCents
  priced : worstCaseUsdReservation h.hold.inputBoundTokens (some h.hold.maxTokens) h.hold.model
    h.fastRequested cfg.table = .ok ⟨.usd, h.hold.reservedUsdCents⟩

theorem Backed.later {cfg : SharedBudgetConfig} {t u : ReservationTable} {h : IssuedHold}
    (backed : Backed cfg t h) (evolves : TableEvolves t u) : Backed cfg u h := by
  obtain ⟨r, mem, id, amount⟩ := backed.row
  obtain ⟨r', mem', later⟩ := evolves r mem
  exact ⟨⟨r', mem', (congrArg Prod.fst later.ident).trans id, later.amount.trans amount⟩,
    backed.priced⟩

/-- A report for a hold: its own bounds, and a usage within them. -/
structure ReportsFor (req : GatewaySettleRequest) (h : IssuedHold) : Prop where
  id : h.hold.reservationId = req.reservationId
  model : req.model = h.hold.model
  maxTokens : req.maxTokens = h.hold.maxTokens
  inputBound : req.inputBoundTokens = h.hold.inputBoundTokens
  usage : ∀ usage, req.observed = some usage →
    usage.Within h.hold.inputBoundTokens h.hold.maxTokens h.fastRequested

theorem worstCase_le_i64Max {inputUpper : Nat} {maxTokens : Option Nat} {model : String}
    {fastRequested : Bool} {pricing : PricingTable} {amount : ResourceAmount}
    (worst : worstCaseUsdReservation inputUpper maxTokens model fastRequested pricing = .ok amount) :
    amount.kind = .usd ∧ amount.value ≤ i64Max := by
  unfold worstCaseUsdReservation at worst
  split at worst
  · cases worst
  split at worst
  · cases worst
  cases worst
  refine ⟨rfl, ?_⟩
  unfold usdToCentsCeil
  split
  · exact Int.natCast_nonneg _
  · exact min_le_right _ _

/-- What a settle books for a bounded report is within the hold. -/
theorem gatewayPriced_le {cfg : SharedBudgetConfig} {t : ReservationTable} {h : IssuedHold}
    (backed : Backed cfg t h) {rt : SharedBudgetRuntime} (valid : rt.state = .valid cfg)
    {req : GatewaySettleRequest} (reports : ReportsFor req h) :
    (gatewayPriced rt req h.hold.reservedUsdCents).1 ≤ h.hold.reservedUsdCents := by
  have fits : min h.hold.reservedUsdCents i64Max = h.hold.reservedUsdCents := by
    have := (worstCase_le_i64Max backed.priced).2
    simp only at this
    omega
  have le := settleAmountFor_le reports.usage backed.priced req.completedCleanly
    req.sawMessageStart
  change _ ≤ (h.hold.reservedUsdCents : Int) at le
  simp only [gatewayPriced, valid, fits, reports.model, reports.maxTokens, reports.inputBound]
  split
  · exact le_refl _
  · omega

/-! ## One request -/

section Requests

variable {cfg : SharedBudgetConfig} {t : ReservationTable}

/-- A gateway ledger that the rows of `t` live on in. -/
def GatewayFrom (cfg : SharedBudgetConfig) (t : ReservationTable) (s : LedgerStore) : Prop :=
  GatewayTable cfg.monthlyCapUsdCents s.reservations ∧ TableEvolves t s.reservations

theorem GatewayFrom.step {s s' : LedgerStore} (good : GatewayFrom cfg t s)
    (table : GatewayTable cfg.monthlyCapUsdCents s'.reservations)
    (evolves : TableEvolves s.reservations s'.reservations) : GatewayFrom cfg t s' :=
  ⟨table, good.2.trans evolves⟩

theorem keeps_ensurePeriodPool (poolId : PoolId) (now : OffsetDateTime) :
    Keeps (GatewayFrom cfg t) (ensurePeriodPool poolId cfg now) := by
  refine Keeps.transact fun s pool s' good done => ?_
  rw [GatewayFrom, LedgerStore.ensurePool_reservations done]
  exact good

theorem keeps_expireStale (now : OffsetDateTime) :
    Keeps (GatewayFrom cfg t) (ledger fun s => s.expireStaleSharedPoolReservations now) := by
  refine Keeps.transact fun s out s' good done => ?_
  have write : TableWrite (fun _ => True) (fun _ => True) s.reservations s'.reservations :=
    LedgerStore.expireStaleSharedPoolReservations_write done
  exact good.step (good.1.expireStale done) write.evolves

/-- The row behind a reserve outcome that holds something. -/
theorem reserved_row {s s' : LedgerStore} {req : GatewayReserveRequest} {poolId : PoolId}
    {worst : Nat} {now : OffsetDateTime} {gate : MeteredGate} {fresh : SharedPoolReservationId}
    {out : CoreReserveOutcome} {hold : SharedPoolReservation} {replayed : Bool}
    (done : s.reserveSharedMetered (gatewayReservation req poolId worst now) gate fresh =
      .ok (out, s'))
    (held : gatewayHeld req worst (.ok out) = .ok (.ok (hold, replayed))) :
    ∃ r ∈ s'.reservations, r.id = hold.id ∧ r.amount = hold.amount ∧ hold.amount = worst := by
  cases out with
  | granted h =>
      cases held
      obtain ⟨-, refused⟩ | ⟨row, same, granted⟩ := LedgerStore.reserveSharedCore_ok done
      · exact absurd rfl (refused hold)
      · cases same
        have inserted := (LedgerStore.insertReservation_ok granted.inserted).1
        exact ⟨row, (Table.mem_insert? inserted row).mpr (.inr rfl), rfl, rfl,
          (granted_row granted).2.1⟩
  | alreadyGranted h =>
      obtain ⟨rfl, row, found, -, rfl⟩ := LedgerStore.reserveSharedCore_alreadyGranted done
      simp only [gatewayHeld] at held
      split at held
      · cases held
      split at held
      · cases held
      rename_i same
      cases held
      exact ⟨row, (LedgerStore.findByKey_some found).1, rfl, rfl, by
        simp only [not_or, not_not] at same
        exact same.1⟩
  | insufficient admission requested => cases held
  | noPool => cases held
  | snapshotUnusable reason => cases held
  | sessionCapExceeded committed cap requested => cases held

theorem gatewayHeld_error {req : GatewayReserveRequest} {worst : Nat} {e : LedgerError}
    {hold : SharedPoolReservation × Bool} :
    gatewayHeld req worst (.error e) ≠ .ok (.ok hold) := by
  cases e <;> exact nofun

/-- A reserve keeps a gateway ledger, and a hold it hands out is backed. -/
theorem gatewayReserve_triple {rt : SharedBudgetRuntime} (valid : rt.state = .valid cfg)
    (req : GatewayReserveRequest) (fresh : SharedPoolReservationId) :
    Triple (GatewayFrom cfg t) (gatewayReserve rt req fresh) fun r s =>
      GatewayFrom cfg t s ∧ ∀ hold, r = .ok (.granted hold) →
        Backed cfg s.reservations ⟨hold, req.fastRequested⟩ := by
  have fails : ∀ (e : SharedBudgetError) (s : LedgerStore), GatewayFrom cfg t s →
      GatewayFrom cfg t s ∧ ∀ hold, (.error e : Except SharedBudgetError GatewayReserveOutcome) =
        .ok (.granted hold) → Backed cfg s.reservations ⟨hold, req.fastRequested⟩ :=
    fun e s good => ⟨good, nofun⟩
  have refuses : ∀ refusal, Triple (GatewayFrom cfg t)
      (pure (.refused refusal) : Daemon GatewayReserveOutcome) fun r s =>
        GatewayFrom cfg t s ∧ ∀ hold, r = .ok (.granted hold) →
          Backed cfg s.reservations ⟨hold, req.fastRequested⟩ :=
    fun refusal => Triple.pure fun s good => ⟨good, nofun⟩
  simp only [gatewayReserve, valid]
  split
  · exact refuses _
  split
  · exact refuses _
  split
  · exact refuses _
  split
  · exact refuses _
  refine Triple.keep_bind (keeps_periodOf cfg rt.now) fails fun period => ?_
  refine Triple.keep_bind (keeps_laterPool period) fails fun later => ?_
  split
  · exact refuses _
  split
  · exact refuses _
  rename_i amount worst_eq
  split
  · exact Triple.fail (fails _)
  rename_i nonneg
  refine Triple.keep_bind (keeps_ensurePeriodPool period.poolId rt.now) fails fun _ => ?_
  refine Triple.keep_bind (keeps_expireStale rt.now) fails fun _ => ?_
  refine Triple.bind (M := fun reserved s => GatewayFrom cfg t s ∧ ∀ hold replayed,
    gatewayHeld req amount.value.toNat reserved = .ok (.ok (hold, replayed)) →
      ∃ r ∈ s.reservations, r.id = hold.id ∧ r.amount = hold.amount ∧
        hold.amount = amount.value.toNat) ?_ fun reserved => ?_
  · refine Triple.attempt (fun s out s' good done => ⟨?_, ?_⟩) fun s e good _ => ⟨good, ?_⟩
    · refine good.step ?_ (LedgerStore.reserveSharedCore_write done).evolves
      obtain ⟨rfl, -⟩ | ⟨row, -, granted⟩ := LedgerStore.reserveSharedCore_ok done
      · exact good.1
      · exact good.1.grant (cfg.cap_le.trans i64Max_lt_u64Max.le) rfl granted
    · intro hold replayed held
      exact reserved_row done held
    · intro hold replayed held
      exact absurd held gatewayHeld_error
  split
  · exact Triple.fail fun s good => fails _ s good.1
  · exact Triple.pure fun s good => ⟨good.1, nofun⟩
  rename_i hold replayed held
  refine Triple.keep_bind (keeps_remainingOf rt _ hold.poolId cfg rt.now)
    (fun e s good => fails e s good.1) fun remaining => ?_
  split
  · exact Triple.fail fun s good => fails _ s good.1
  refine Triple.pure fun s good => ⟨good.1, fun issued same => ?_⟩
  cases same
  obtain ⟨r, mem, id, kept, worst⟩ := good.2 hold replayed held
  refine ⟨⟨r, mem, id, kept⟩, ?_⟩
  have kind := (worstCase_le_i64Max worst_eq).1
  obtain ⟨maxTokens, declared⟩ : ∃ m, req.maxTokens = some m := by
    unfold worstCaseCents worstCaseUsdReservation at worst_eq
    split at worst_eq
    · cases worst_eq
    · rename_i m bounded
      exact ⟨m, (Option.filter_eq_some_iff.mp bounded).1⟩
  rw [worstCaseCents, declared] at worst_eq
  simp only [heldOf, declared, Option.getD_some, worst_eq, worst]
  rw [Int.toNat_of_nonneg (Int.not_lt.mp nonneg), ← kind]

theorem gatewayRow_hold {s : LedgerStore} {id : SharedPoolReservationId} {row : SharedPoolRow}
    (found : gatewayRow s id = .hold row) : s.getSharedReservation id = some row := by
  unfold gatewayRow at found
  split at found
  · cases found
  · split at found
    · cases found
      assumption
    · cases found

/-- A settle whose report is within the bounds of its own hold. -/
theorem gatewaySettle_triple {rt : SharedBudgetRuntime} (valid : rt.state = .valid cfg)
    (req : GatewaySettleRequest) :
    Triple (fun s => GatewayFrom cfg t s ∧ ∀ row, s.getSharedReservation req.reservationId = some row →
        ∃ h, Backed cfg s.reservations h ∧ ReportsFor req h)
      (gatewaySettle rt req) fun _ s => GatewayFrom cfg t s := by
  unfold gatewaySettle
  refine Triple.read_bind fun found => ?_
  split
  · exact Triple.pure fun s good => good.1.1
  · exact Triple.pure fun s good => good.1.1
  rename_i row
  refine Triple.bind (M := fun _ s => GatewayFrom cfg t s) ?_ fun out => ?_
  · refine Triple.transact (fun s out s' good done => ?_) fun s e good _ => good.1.1
    obtain ⟨⟨good, reported⟩, found⟩ := good
    have there := gatewayRow_hold found
    have write : TableWrite (fun _ => True) (fun _ => True) s.reservations s'.reservations :=
      LedgerStore.settleSharedCore_write done
    refine good.step (good.1.settle (fun row' there' => ?_) done) write.evolves
    obtain ⟨h, backed, reports⟩ := reported row there
    obtain ⟨r, mem, id, amount⟩ := backed.row
    -- The hold's row is the row that is settled.
    have same : r = row := by
      obtain ⟨mem', here⟩ := (Table.find?_eq_some_iff _ _ _).mp there
      exact s.reservations.eq_of_key mem mem' (id.trans (reports.id.trans here.symm))
    rw [there] at there'
    cases there'
    rw [← same, amount]
    exact gatewayPriced_le backed valid reports
  · split
    · exact Triple.pure fun s good => good
    · exact Triple.pure fun s good => good
    · exact Triple.pure fun s good => good

theorem keeps_gatewayRelease (rt : SharedBudgetRuntime) (id : SharedPoolReservationId) :
    Keeps (GatewayFrom cfg t) (gatewayRelease rt id) := by
  refine Keeps.bind (Keeps.read _) fun found => ?_
  split
  · exact Keeps.pure _
  · exact Keeps.pure _
  refine Keeps.bind (Keeps.transact fun s out s' good done => ?_) fun out => ?_
  · have write : TableWrite (fun _ => True) (fun _ => True) s.reservations s'.reservations :=
      LedgerStore.releaseShared_write done
    exact good.step (good.1.release done) write.evolves
  · split <;> exact Keeps.pure _

theorem keeps_gatewayRenew (rt : SharedBudgetRuntime) (id : SharedPoolReservationId)
    (ttlSecs : Nat) : Keeps (GatewayFrom cfg t) (gatewayRenew rt id ttlSecs) := by
  refine Keeps.bind (Keeps.read _) fun found => ?_
  split
  · exact Keeps.pure _
  · exact Keeps.pure _
  refine Keeps.bind (Keeps.transact fun s out s' good done => ?_) fun out => ?_
  · have write : TableWrite (fun _ => True) (fun _ => True) s.reservations s'.reservations :=
      LedgerStore.renewSharedForPrompt_write done
    exact good.step (good.1.renew done) write.evolves
  · split <;> exact Keeps.pure _

theorem keeps_gatewayOrphansAtStart (rt : SharedBudgetRuntime) (bootId : String) :
    Keeps (GatewayFrom cfg t) (gatewayOrphansAtStart rt bootId) := by
  unfold gatewayOrphansAtStart
  split
  · exact Keeps.fail _
  · refine Keeps.transact fun s out s' good done => ?_
    have write : TableWrite (fun _ => True) (fun _ => True) s.reservations s'.reservations :=
      LedgerStore.settleOrphanedGatewayHolds_write done
    exact good.step (good.1.settleOrphaned done) write.evolves

end Requests

/-! ## Runs -/

/-- The ledger and the holds handed out so far. -/
structure GatewayWorld where
  ledger : LedgerStore
  issued : List IssuedHold

def GatewayWorld.initial : GatewayWorld := ⟨.empty, []⟩

/-- The gateway's operations; each sees its own clock and its own read failures. -/
inductive GatewayOp where
  | reserve (rt : SharedBudgetRuntime) (req : GatewayReserveRequest)
      (fresh : SharedPoolReservationId)
  | settle (rt : SharedBudgetRuntime) (req : GatewaySettleRequest)
  | release (rt : SharedBudgetRuntime) (id : SharedPoolReservationId)
  | renew (rt : SharedBudgetRuntime) (id : SharedPoolReservationId) (ttlSecs : Nat)
  | orphansAtStart (rt : SharedBudgetRuntime) (bootId : String)
  | expireStale (now : OffsetDateTime)

/-- A runtime under one fixed configuration. -/
def SharedBudgetRuntime.under (rt : SharedBudgetRuntime) (cfg : SharedBudgetConfig) :
    SharedBudgetRuntime := { rt with state := .valid cfg }

/-- A hold that was handed out joins the issued ones. -/
def issue (fastRequested : Bool) (issued : List IssuedHold) :
    Except SharedBudgetError GatewayReserveOutcome → List IssuedHold
  | .ok (.granted hold) => ⟨hold, fastRequested⟩ :: issued
  | _ => issued

def GatewayOp.apply (cfg : SharedBudgetConfig) (w : GatewayWorld) : GatewayOp → GatewayWorld
  | .reserve rt req fresh =>
      let done := gatewayReserve (rt.under cfg) req fresh w.ledger
      ⟨done.2, issue req.fastRequested w.issued done.1⟩
  | .settle rt req => ⟨(gatewaySettle (rt.under cfg) req w.ledger).2, w.issued⟩
  | .release rt id => ⟨(gatewayRelease (rt.under cfg) id w.ledger).2, w.issued⟩
  | .renew rt id ttlSecs => ⟨(gatewayRenew (rt.under cfg) id ttlSecs w.ledger).2, w.issued⟩
  | .orphansAtStart rt bootId =>
      ⟨(gatewayOrphansAtStart (rt.under cfg) bootId w.ledger).2, w.issued⟩
  | .expireStale now =>
      ⟨(ledger (fun s => s.expireStaleSharedPoolReservations now) w.ledger).2, w.issued⟩

/-- Every settle that finds a row reports for a hold that was handed out, within
that hold's own bounds. -/
def ReportsWithinBounds (w : GatewayWorld) : GatewayOp → Prop
  | .settle _ req => ∀ row, w.ledger.getSharedReservation req.reservationId = some row →
      ∃ h ∈ w.issued, ReportsFor req h
  | _ => True

/-- A gateway ledger whose issued holds are backed. -/
structure GatewayInv (cfg : SharedBudgetConfig) (w : GatewayWorld) : Prop where
  table : GatewayTable cfg.monthlyCapUsdCents w.ledger.reservations
  backed : ∀ h ∈ w.issued, Backed cfg w.ledger.reservations h

theorem GatewayInv.from {cfg : SharedBudgetConfig} {w : GatewayWorld} (inv : GatewayInv cfg w) :
    GatewayFrom cfg w.ledger.reservations w.ledger := ⟨inv.table, .refl _⟩

/-- A step that hands out nothing. -/
theorem GatewayInv.quiet {cfg : SharedBudgetConfig} {w : GatewayWorld} {s : LedgerStore}
    (inv : GatewayInv cfg w) (kept : GatewayFrom cfg w.ledger.reservations s) :
    GatewayInv cfg ⟨s, w.issued⟩ :=
  ⟨kept.1, fun h mem => (inv.backed h mem).later kept.2⟩

theorem apply_gatewayInv (cfg : SharedBudgetConfig) (w : GatewayWorld) (op : GatewayOp)
    (inv : GatewayInv cfg w) (reports : ReportsWithinBounds w op) :
    GatewayInv cfg (op.apply cfg w) := by
  cases op with
  | reserve rt req fresh =>
      obtain ⟨kept, held⟩ := gatewayReserve_triple (show (rt.under cfg).state = .valid cfg from rfl) req fresh
        w.ledger inv.from
      refine ⟨kept.1, ?_⟩
      intro h mem
      simp only [GatewayOp.apply, issue] at mem
      split at mem
      · rename_i hold granted
        obtain rfl | old := List.mem_cons.mp mem
        · exact held hold granted
        · exact (inv.backed h old).later kept.2
      · exact (inv.backed h mem).later kept.2
  | settle rt req =>
      refine inv.quiet (gatewaySettle_triple (show (rt.under cfg).state = .valid cfg from rfl) req
        w.ledger ⟨inv.from, ?_⟩)
      intro row found
      obtain ⟨h, mem, own⟩ := reports row found
      exact ⟨h, inv.backed h mem, own⟩
  | release rt id => exact inv.quiet (keeps_gatewayRelease _ id w.ledger inv.from)
  | renew rt id ttlSecs => exact inv.quiet (keeps_gatewayRenew _ id ttlSecs w.ledger inv.from)
  | orphansAtStart rt bootId =>
      exact inv.quiet (keeps_gatewayOrphansAtStart _ bootId w.ledger inv.from)
  | expireStale now => exact inv.quiet (keeps_expireStale now w.ledger inv.from)

theorem gatewayInv_initial (cfg : SharedBudgetConfig) : GatewayInv cfg .initial where
  table :=
    { gateway := by
        intro r mem
        cases mem
      booked := by
        intro r mem
        cases mem
      within := fun _ => Nat.zero_le _ }
  backed := by
    intro h mem
    cases mem

/-- **The monthly cap is hard.**  Under a gateway-enforced configuration, in every
world reached by any interleaving of the gateway's operations whose reports stay
within the bounds of their own holds, no pool has more settled and active than the
cap. -/
theorem monthly_cap_hard (cfg : SharedBudgetConfig) (ops : List GatewayOp)
    (reports : Along (GatewayOp.apply cfg) ReportsWithinBounds .initial ops) (poolId : PoolId) :
    let s := (run (GatewayOp.apply cfg) .initial ops).ledger
    s.settled poolId + s.active poolId ≤ cfg.monthlyCapUsdCents := by
  have inv := run_invariant (apply_gatewayInv cfg) reports (gatewayInv_initial cfg)
  have within := inv.table.within poolId
  rw [← committed_eq] at within
  exact within

/-! ## Poles -/

def meteredConfig : SharedBudgetConfig where
  monthlyCapUsdCents := 100
  timeZone := .utc
  turnHoldUsdCents := 10
  subagentUnmeasuredChargeUsdCents := none
  pricingOverrides := .empty
  enforcement := .gateway
  cap_le := by decide
  hold_pos := by decide
  hold_le := by decide
  unmeasured_pos := nofun

def meteredRuntime (now : OffsetDateTime) : SharedBudgetRuntime :=
  { state := .valid meteredConfig, now }

def meteredRequest (key : String) : GatewayReserveRequest :=
  { sessionId := "session", model := "claude-fable-5", bodyBytes := 9000,
    maxTokens := some 10000, imageCount := 0, fastRequested := false, key, ttlSecs := 60 }

def meteredUsage : ObservedUsage :=
  { inputTokens := 4000, cacheCreationInputTokens := 1000, cacheReadInputTokens := 2000,
    outputTokens := 5000, cacheCreationSplit := .absent, speed := .standard,
    inferenceGeo := .absent }

def meteredReport : GatewaySettleRequest :=
  { reservationId := ⟨1⟩, observed := some meteredUsage, completedCleanly := true,
    sawMessageStart := true, model := "claude-fable-5", maxTokens := 10000,
    inputBoundTokens := 10000 }

/-- A cap of 100: a hold of 77 settles at 32, before its lease would have booked it. -/
def metered : List GatewayOp :=
  [.reserve (meteredRuntime 0) (meteredRequest "gw:boot:1") ⟨1⟩,
   .settle (meteredRuntime 1) meteredReport,
   .expireStale 100000000000]

def meteredPool : PoolId := ⟨"metered:local-budget/monthly-1970-01"⟩

/-- The hold, as it was handed out. -/
def meteredHold : IssuedHold :=
  { hold :=
      { reservationId := ⟨1⟩, poolId := meteredPool, reservedUsdCents := 77,
        inputBoundTokens := 10000, model := "claude-fable-5", maxTokens := 10000,
        remainingUsdCents := 23, replayed := false }
    fastRequested := false }

theorem meteredReport_reports : ReportsFor meteredReport meteredHold where
  id := rfl
  model := rfl
  maxTokens := rfl
  inputBound := rfl
  usage := by
    intro usage observed
    cases observed
    exact ⟨by decide, by decide, nofun⟩

theorem metered_reports :
    Along (GatewayOp.apply meteredConfig) ReportsWithinBounds .initial metered := by
  have issued : meteredHold ∈
      (run (GatewayOp.apply meteredConfig) .initial (metered.take 1)).issued := by
    decide +kernel
  exact ⟨trivial, fun _ _ => ⟨meteredHold, issued, meteredReport_reports⟩, trivial, trivial⟩

theorem metered_within_cap :
    (run (GatewayOp.apply meteredConfig) .initial metered).ledger.settled meteredPool = 32 ∧
    (run (GatewayOp.apply meteredConfig) .initial metered).ledger.settled meteredPool +
      (run (GatewayOp.apply meteredConfig) .initial metered).ledger.active meteredPool ≤ 100 :=
  ⟨by decide +kernel, monthly_cap_hard meteredConfig metered metered_reports meteredPool⟩

end LibraGovernor
