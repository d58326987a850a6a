/-
# LibraGovernor.Daemon.TranscriptTotal -- cumulative charging totals the running maximum

A call adds at most one row to its family, under a key that says how far it counted.  A
hooks-mode call books from `covered` up to its own measurement; a gateway-mode call of a
routed session raises `covered` without booking.

So in hooks mode the total booked is the running maximum of the measurements, and what
was observed in gateway mode is below every later booking.
-/
import LibraGovernor.Daemon.Baseline
import LibraGovernor.Daemon.ChargeOnce
import LibraGovernor.Daemon.TranscriptFamily

namespace LibraGovernor

open Relational Transaction Transition Procedure

set_option autoImplicit false

/-! ## A call in hooks mode -/

/-- What a call books from a family accounted for up to `already`. -/
def TranscriptCall.owed (call : TranscriptCall) (cfg : SharedBudgetConfig) (already : Nat) : Nat :=
  if call.skipped then 0
  else
    match call.measured with
    | some window => window.cents - already
    | none =>
        if already = 0 then cfg.subagentUnmeasuredChargeUsdCents.getD cfg.turnHoldUsdCents else 0

/-- The call was answered, and not with a refusal. -/
def answered : Except SharedBudgetError (Option SharedBudgetOutcome) → Bool
  | .ok (some (.refused _)) => false
  | .ok _ => true
  | .error _ => false

section Hooks

variable {p : String} {cfg : SharedBudgetConfig} {call : TranscriptCall} {s s' : LedgerStore}

/-- The key of a charge is taken only when there is nothing to book. -/
theorem FamilyInv.free (inv : FamilyInv p s) (read : call.skipped = false)
    (some_ : call.owed cfg (covered s p) ≠ 0) (already : Nat) :
    ¬ HoldsKey (transcriptCharge cfg call p already).key s := by
  intro holds
  simp only [transcriptCharge] at holds
  simp only [TranscriptCall.owed, read, Bool.false_eq_true, if_false] at some_
  cases seen : call.measured with
  | none =>
      simp only [seen] at some_ holds
      have counted := inv.unmeasured holds
      rw [if_neg (by omega)] at some_
      exact some_ rfl
  | some window =>
      simp only [seen] at some_ holds
      have counted := inv.measured window.cents holds
      omega

theorem Unbooked.aside (same : Unbooked s s') : Aside p s.reservations s'.reservations := by
  obtain ⟨f, keeps, rows, marks⟩ := same.rows
  rw [rows]
  exact .moved f keeps fun r mem => ⟨(marks r mem).ident, fun _ => marks r mem⟩

theorem ChargeFrame.inCents (frame : ChargeFrame s s') (inCents : InCents s) : InCents s' := by
  intro pool mem owned
  rcases frame.pools pool mem with old | usd
  · exact inCents pool old owned
  · exact usd

/-- Where nothing was folded, the total read is the sum of the charges. -/
theorem readTotal_unfolded (floor : LedgerStore.floorOf s.chargeFloor (principal, p) = 0)
    {summed : Nat} (read : s.sharedChargesTotalByKeyPrefix principal p ownerPoolPrefix = .ok summed) :
    summed = s.chargedSum p := by
  rw [LedgerStore.sharedChargesTotalByKeyPrefix_eq, floor, LedgerStore.readTotal] at read
  split at read
  · cases read
  split at read
  · cases read
  cases read
  omega

theorem NewBooking.under {rt : SharedBudgetRuntime} {state : SharedBudgetFileState}
    {charge : BookedCharge} {row : SharedPoolRow} (new : NewBooking rt state charge s row)
    (within : startsWith charge.key p = true) : LedgerStore.under p row = true := by
  obtain ⟨cfg, event, current, -, -, -, chosen⟩ := new.pool
  simp only [LedgerStore.under, SharedPoolRow.chargedUnder, Bool.and_eq_true, decide_eq_true_eq]
  exact ⟨⟨⟨new.principalId, new.charged.1, new.charged.2.1⟩, new.key ▸ within⟩, chosen.owned⟩

end Hooks

/-! ## A call in gateway mode -/

/-- The session has gone through the gateway in the period of the clock. -/
def Routed (rt : SharedBudgetRuntime) (cfg : SharedBudgetConfig) (sessionId : String)
    (s : LedgerStore) : Prop :=
  ∃ period, periodAt cfg rt.now = .ok period ∧
    s.hasGatewayRowForSession period.poolId principal sessionId = true

/-- What a gateway-mode call leaves of a family: it books nothing, and for a routed
session what it has measured is covered. -/
structure GatewayPost (p : String) (measured : Option PricedWindow) (routed : Prop) (s : LedgerStore)
    (ok : Prop) (s' : LedgerStore) : Prop where
  inv : FamilyInv p s'
  chargedSum : s'.chargedSum p = s.chargedSum p
  grows : gatewayMeteredOffset s p ≤ gatewayMeteredOffset s' p
  reached : ok → routed → ∀ window, measured = some window → window.cents ≤ covered s' p

section Gateway

variable {p : String} {cfg : SharedBudgetConfig} {call : TranscriptCall} {s s' : LedgerStore}
  {rt : SharedBudgetRuntime}

theorem GatewayPost.unwritten {measured : Option PricedWindow} {routed ok : Prop}
    (inv : FamilyInv p s)
    (reached : ok → routed → ∀ window, measured = some window → window.cents ≤ covered s p) :
    GatewayPost p measured routed s ok s :=
  ⟨inv, rfl, le_refl _, reached⟩

theorem GatewayPost.weaken {measured : Option PricedWindow} {routed ok ok' : Prop}
    (post : GatewayPost p measured routed s ok s') (weaker : ok' → ok) :
    GatewayPost p measured routed s ok' s' :=
  ⟨post.inv, post.chargedSum, post.grows, fun holds => post.reached (weaker holds)⟩

/-- A pool with a gateway row exists and counts cents. -/
theorem routed_pool (inCents : InCents s) {period : Period} (now : periodAt cfg rt.now = .ok period)
    (row : s.hasGatewayRowForSession period.poolId principal call.sessionId = true) :
    ∃ pool, s.quotaPool period.poolId = some pool ∧ pool.unit = .usdCents := by
  simp only [LedgerStore.hasGatewayRowForSession, List.any_eq_true, Bool.and_eq_true,
    decide_eq_true_eq] at row
  obtain ⟨r, mem, ⟨here, -, -⟩, -⟩ := row
  obtain ⟨pool, known, named⟩ := s.pooled r mem
  refine ⟨pool, (Table.find?_eq_some_iff _ _ _).mpr ⟨known, named.trans here⟩, inCents pool known ?_⟩
  rw [show pool.poolId = period.poolId from named.trans here]
  exact periodAt_pool now

/-- The mark's row is booked: its pool is there, and its key is free. -/
theorem mark_booked (inv : FamilyInv p s) {offset : Nat} (fits : offset ≤ u64Max)
    (new : gatewayMeteredOffset s p < offset) {period : Period}
    (now : periodAt cfg rt.now = .ok period) {pool : QuotaPool}
    (found : s.quotaPool period.poolId = some pool)
    {fresh : SharedPoolReservationId} {out : SharedPoolChargeOutcome}
    (done : s.chargeSharedWithWatermark (chargeRequest (offsetCharge call p offset) period.poolId cfg
      rt.now) none fresh = .ok (out, s')) :
    ∃ row, Booked s row s' ∧ LedgerStore.under p row = true ∧ row.settledAmount = some 0 ∧
      row.idempotencyKey = markKey p offset := by
  have owned := periodAt_pool now
  obtain ⟨-, old, -⟩ | ⟨attribution, columns, admission, overrun, known, resolved, free, rfl, one⟩ :=
    chargeSharedWithWatermark_books done
  · exfalso
    obtain ⟨existing, mem, key⟩ | rfl := old
    · -- The key is taken by a charge of the family, so the mark was already recorded.
      simp only [SharedPoolRow.uniqueKey, chargeRequest, offsetCharge, Prod.mk.injEq] at key
      obtain ⟨here, mine, named⟩ := key
      have charged := inv.charges existing mem ⟨mine, named ▸ startsWith_append p _⟩
      have marked : Marked s p offset := by
        refine ⟨existing, mem, ?_, named ▸ gatewayMark_markKey p fits⟩
        simp only [LedgerStore.under, SharedPoolRow.chargedUnder, Bool.and_eq_true,
          decide_eq_true_eq] at charged ⊢
        exact ⟨⟨charged.1.1, named ▸ markKey_eq p offset ▸ startsWith_append (p ++ "g") _⟩, charged.2⟩
      have recorded := marked_le_offset marked
      omega
    · cases found.symm.trans (chargeSharedWithWatermark_noPool done)
  · refine ⟨_, one, ?_, rfl, rfl⟩
    simp only [LedgerStore.under, SharedPoolRow.chargedUnder, Bool.and_eq_true, decide_eq_true_eq]
    exact ⟨⟨⟨rfl, rfl, rfl⟩, startsWith_append p _⟩, owned⟩

/-- A mark that was booked covers the measurement. -/
theorem GatewayPost.marked (inv : FamilyInv p s) {window : PricedWindow} {row : SharedPoolRow}
    (one : Booked s row s') (charged : LedgerStore.under p row = true)
    (amount : row.settledAmount = some 0)
    (key : row.idempotencyKey = markKey p (window.cents - s.chargedSum p)) (routed ok : Prop) :
    GatewayPost p (some window) routed s ok s' := by
  have sum : s'.chargedSum p = s.chargedSum p := by
    rw [chargedSum_insert one.inserted charged, amount]
    rfl
  have marked : Marked s' p (window.cents - s.chargedSum p) := by
    refine (marked_insert one.inserted _).mpr (.inr ⟨?_, ?_⟩)
    · simp only [LedgerStore.under, SharedPoolRow.chargedUnder, Bool.and_eq_true,
        decide_eq_true_eq] at charged ⊢
      exact ⟨⟨charged.1.1, key ▸ markKey_eq p _ ▸ startsWith_append (p ++ "g") _⟩, charged.2⟩
    · rw [key]
      exact gatewayMark_markKey p (le_trans (Nat.sub_le _ _) window.cents_le)
  have reached : window.cents ≤ covered s' p := by
    have le := marked_le_offset marked
    rw [covered, sum]
    omega
  refine ⟨inv.insert one.inserted charged ?_ ?_ one.frame.chargeFloor
    (one.frame.inCents inv.inCents), sum, offset_le_insert one.inserted, ?_⟩
  · intro n here
    exact absurd (key.symm.trans here) (markKey_ne_measuredKey p _ n)
  · intro here
    exact absurd (key.symm.trans here) (markKey_ne_unmeasuredKey p _)
  · rintro - - _ ⟨⟩
    exact reached

/-- Marking a routed session's file either fails, having written nothing, or covers the
measurement. -/
theorem markOffset_post (inv : FamilyInv p s) {window : PricedWindow}
    (new : gatewayMeteredOffset s p < window.cents - s.chargedSum p)
    (routed : Routed rt cfg call.sessionId s) (fresh : SharedPoolReservationId) :
    Procedure.Triple (· = s) (markOffset rt cfg call p (window.cents - s.chargedSum p) fresh)
      fun r s' => (∃ e, r = .error e ∧ s' = s) ∨
        GatewayPost p (some window) (Routed rt cfg call.sessionId s) s (r = .ok ()) s' := by
  obtain ⟨period, now, row⟩ := routed
  obtain ⟨pool, found, unit⟩ := routed_pool inv.inCents now row
  have fits : window.cents - s.chargedSum p ≤ u64Max := le_trans (Nat.sub_le _ _) window.cents_le
  refine periodOf_bind (fun e s' same => .inl ⟨e, rfl, same⟩) fun period' now' => ?_
  rw [now] at now'
  cases now'
  refine Procedure.Triple.bind (M := fun result s' =>
    (∃ e, result = .error e ∧ s' = s ∧ ∀ a b, e ≠ .quotaUnitMismatch a b) ∨
      GatewayPost p (some window) (Routed rt cfg call.sessionId s) s True s') ?_ fun result => ?_
  · refine Procedure.Triple.attempt ?_ ?_
    · rintro before out next rfl done
      obtain ⟨row, one, charged, amount, key⟩ := mark_booked inv fits new now found done
      exact .inr (.marked inv one charged amount key _ _)
    · rintro before e rfl unbooked
      refine .inl ⟨e, rfl, rfl, ?_⟩
      rintro a b rfl
      exact chargeSharedWithWatermark_unit found unit.symm fresh a b unbooked
  · rintro next (⟨e, rfl, rfl, inUnit⟩ | post)
    · cases e with
      | quotaUnitMismatch a b => exact absurd rfl (inUnit a b)
      | _ => exact .inl ⟨_, rfl, rfl⟩
    · have kept : ∀ ok : Prop, GatewayPost p (some window) (Routed rt cfg call.sessionId s) s ok next :=
        fun ok => post.weaken fun _ => trivial
      split
      · exact .inr (kept _)
      · exact .inr (kept _)
      · exact .inr (kept _)

theorem recordGatewayOffset_post (inv : FamilyInv p s) (window : PricedWindow)
    (fresh : SharedPoolReservationId) :
    Procedure.Triple (· = s) (recordGatewayOffset rt cfg call p (s.chargedSum p) window fresh)
      fun r s' => GatewayPost p (some window) (Routed rt cfg call.sessionId s) s (r = .ok ()) s' := by
  have failed : ∀ (e : SharedBudgetError) s', s' = s → GatewayPost p (some window)
      (Routed rt cfg call.sessionId s) s ((.error e : Except SharedBudgetError Unit) = .ok ()) s' := by
    rintro e s' rfl
    exact .unwritten inv nofun
  refine Procedure.Triple.read_bind fun recorded => ?_
  split
  · rename_i new
    refine Procedure.Triple.bind (M := fun routed s' => s' = s ∧
        gatewayMeteredOffset s p = recorded ∧ ∃ period, periodAt cfg rt.now = .ok period ∧
        s.hasGatewayRowForSession period.poolId principal call.sessionId = routed) ?_ fun routed => ?_
    · refine periodOf_bind (fun e s' same => failed e s' same.1) fun period now => ?_
      rintro s' ⟨rfl, known⟩
      exact ⟨rfl, known, period, now, rfl⟩
    split
    · rename_i isRouted
      rintro s' ⟨rfl, known, period, now, row⟩
      have routed : Routed rt cfg call.sessionId s' := ⟨period, now, row.trans isRouted⟩
      obtain ⟨e, ended, same⟩ | post := markOffset_post inv (known ▸ new) routed fresh s' rfl
      · rw [ended]
        exact failed e _ same
      · exact post
    · rename_i notRouted
      refine Procedure.Triple.pure ?_
      rintro s' ⟨rfl, -, period, now, row⟩
      refine .unwritten inv ?_
      rintro - ⟨period', now', row'⟩
      rw [now] at now'
      cases now'
      exact absurd (row.symm.trans row') notRouted
  · rename_i old
    refine Procedure.Triple.pure ?_
    rintro s' ⟨rfl, rfl⟩
    refine .unwritten inv ?_
    rintro - - _ ⟨⟩
    rw [covered]
    omega

end Gateway

/-! ## One call -/

theorem validateIdentity_ne_gatewayMetered (sessionId : String) (agentId : Option String) :
    validateIdentity sessionId agentId ≠ .error .gatewayMetered := by
  unfold validateIdentity
  split
  · nofun
  split
  · nofun
  split
  · split <;> nofun
  · nofun

section Calls

variable {p : String} {cfg : SharedBudgetConfig} {call : TranscriptCall} {s : LedgerStore}
  {sha256Hex : String → String}

theorem chargeTranscriptInner_gateway (inv : FamilyInv p s)
    (mine : transcriptPrefix call.sessionId (transcriptFamily sha256Hex call.agentId call.path) = p)
    (gateway : cfg.enforcement = .gateway) (rt : SharedBudgetRuntime)
    (fresh : SharedPoolReservationId) :
    Procedure.Triple (· = s) (chargeTranscriptInner sha256Hex rt (.valid cfg) call fresh)
      fun r s' => GatewayPost p call.measured (Routed rt cfg call.sessionId s) s
        (r = .ok (some (.refused .gatewayMetered))) s' := by
  unfold chargeTranscriptInner
  rw [mine]
  dsimp only
  split
  · rename_i reason refused
    refine Procedure.Triple.pure ?_
    rintro s' rfl
    refine .unwritten inv fun metered => ?_
    simp only [Except.ok.injEq, Option.some.injEq, SharedBudgetOutcome.refused.injEq] at metered
    rw [metered] at refused
    exact absurd refused (validateIdentity_ne_gatewayMetered _ _)
  rename_i kind valid
  simp only [configured]
  split
  · rename_i skipped
    refine Procedure.Triple.pure ?_
    rintro s' rfl
    exact .unwritten inv (by rintro ⟨⟩)
  refine Procedure.Triple.read_bind fun total => ?_
  rintro s' ⟨rfl, known⟩
  split
  · exact .unwritten inv (by rintro ⟨⟩)
  rename_i summed
  rw [readTotal_unfolded inv.floor known]
  cases call.measured with
  | none =>
      refine .unwritten inv ?_
      rintro - - window ⟨⟩
  | some window =>
      dsimp only
      rw [Procedure.bind_pure_apply]
      refine (recordGatewayOffset_post inv window fresh s' rfl).weaken fun ok => ?_
      cases result : (recordGatewayOffset rt cfg call p (s'.chargedSum p) window fresh s').1 with
      | error e =>
          rw [result] at ok
          cases ok
      | ok _ => rfl

end Calls

/-! ## Other operations -/

/-- An operation of another writer: it uses no key of the family, and opens the budget's
pools in cents as every daemon path does. -/
def Foreign (p : String) : SharedPoolOp → Prop
  | .ensurePool poolId unit _ _ => startsWith poolId.val ownerPoolPrefix = true → unit = .usdCents
  | .reserveShared req _ => req.principalId = principal → startsWith req.idempotencyKey p = false
  | .reserveSharedMetered req _ _ _ =>
      req.principalId = principal → startsWith req.idempotencyKey p = false
  | .chargeShared req _ _ => req.principalId = principal → startsWith req.idempotencyKey p = false
  | _ => True

section Others

variable {p : String} {s : LedgerStore} {op : SharedPoolOp}

theorem Foreign.opened (foreign : Foreign p op) {row : SharedPoolRow} (opens : op.Opens s row) :
    ¬ OfFamily p row := by
  rintro ⟨mine, named⟩
  obtain ⟨req, metered, made, fresh, s', granted⟩ := opens
  obtain ⟨attribution, expiresAt, -, -, rfl⟩ := granted.row_eq
  cases op with
  | reserveShared req' _ =>
      cases made
      cases (foreign mine).symm.trans named
  | reserveSharedMetered req' _ _ _ =>
      cases made
      cases (foreign mine).symm.trans named
  | _ => cases made

theorem Foreign.charged (foreign : Foreign p op) {row : SharedPoolRow} (charges : op.Charges row) :
    ¬ OfFamily p row := by
  rintro ⟨mine, named⟩
  obtain ⟨req, watermark, fresh, rfl, key⟩ := charges
  simp only [SharedPoolRow.uniqueKey, Prod.mk.injEq] at key
  have free := foreign (key.2.1 ▸ mine)
  rw [← key.2.2, named] at free
  cases free

/-- A settled charge can only be marked. -/
theorem RowMove.of_settled {r r' : SharedPoolRow} (move : RowMove r r') (settled : r.state = .settled) :
    Remarked r r' := by
  cases move with
  | mark ts ids _ => exact .inr ⟨settled, ts, ids, rfl⟩
  | settle _ _ _ _ _ _ settleable => simp [SharedPoolRow.settleable, settled] at settleable
  | release _ active => cases settled.symm.trans active
  | renew _ active => cases settled.symm.trans active
  | expire _ active => cases settled.symm.trans active
  | book _ active => cases settled.symm.trans active

theorem Foreign.aside (charges : ∀ r ∈ s.reservations, OfFamily p r → LedgerStore.under p r = true)
    (foreign : Foreign p op) : Aside p s.reservations (op.apply s).reservations := by
  have settled : ∀ r ∈ s.reservations, OfFamily p r → r.state = .settled := by
    intro r mem mine
    have charged := charges r mem mine
    simp only [LedgerStore.under, SharedPoolRow.chargedUnder, Bool.and_eq_true,
      decide_eq_true_eq] at charged
    exact charged.1.1.2.2
  have write := LedgerStore.apply_write s op
  revert write
  generalize (op.apply s).reservations = u
  intro write
  cases write with
  | same => exact Aside.unchanged
  | moved f keeps moves =>
      refine .moved f keeps fun r mem => ?_
      rcases moves r mem with same | move
      · exact ⟨by rw [same], fun _ => .inl same⟩
      · exact ⟨move.evolves.ident, fun mine => move.of_settled (settled r mem mine)⟩
  | opened row hold known inserted => exact .added row (foreign.opened known) inserted
  | charged row charge known inserted => exact .added row (foreign.charged known) inserted

theorem Foreign.inCents (foreign : Foreign p op) (inCents : InCents s) : InCents (op.apply s) := by
  rcases LedgerStore.apply_frame s op with frame | ⟨poolId, unit, capacity, now, rfl⟩
  · exact fun pool mem => inCents pool (frame.quotaPools pool mem)
  · refine commit_of (P := InCents) inCents fun _ next done => ?_
    obtain ⟨-, -, -, pools⟩ := LedgerStore.ensurePool_ok done
    intro pool mem owned
    rcases pools pool mem with old | ⟨here, counts⟩
    · exact inCents pool old owned
    · rw [counts]
      exact foreign (here ▸ owned)

theorem apply_chargeFloor (s : LedgerStore) (op : SharedPoolOp) :
    (op.apply s).chargeFloor = s.chargeFloor := by
  rcases LedgerStore.apply_frame s op with frame | ⟨poolId, unit, capacity, now, rfl⟩
  · exact frame.chargeFloor
  · exact commit_of (P := fun s' => s'.chargeFloor = s.chargeFloor) rfl
      fun _ _ done => (LedgerStore.ensurePool_ok done).1

theorem FamilyInv.foreign (inv : FamilyInv p s) (foreign : Foreign p op) :
    FamilyInv p (op.apply s) :=
  inv.of_aside (foreign.aside inv.charges) (apply_chargeFloor s op) (foreign.inCents inv.inCents)

end Others

/-! ## Runs -/

/-- One event of a run: a call for a transcript, a subagent's own or a sweep's, or an
operation of another writer. -/
inductive TranscriptOp where
  | call (rt : SharedBudgetRuntime) (request : TranscriptCall) (fresh : SharedPoolReservationId)
  | other (op : SharedPoolOp)

namespace TranscriptOp

def apply (sha256Hex : String → String) (s : LedgerStore) : TranscriptOp → LedgerStore
  | .call rt request fresh => (chargeTranscriptInner sha256Hex rt rt.state request fresh s).2
  | .other op => op.apply s

end TranscriptOp

/-- A family nothing is known of yet, in a ledger whose budget pools count cents. -/
structure FamilyUnseen (p : String) (s : LedgerStore) : Prop where
  rows : ∀ r ∈ s.reservations, ¬ OfFamily p r
  floor : LedgerStore.floorOf s.chargeFloor (principal, p) = 0
  inCents : InCents s

section Unseen

variable {p : String} {s : LedgerStore}

theorem FamilyUnseen.not_under (unseen : FamilyUnseen p s) {q : String}
    (within : startsWith q p = true) {r : SharedPoolRow} (mem : r ∈ s.reservations) :
    ¬ LedgerStore.under q r = true :=
  fun charged => unseen.rows r mem (ofFamily_of_under within charged)

theorem FamilyUnseen.chargedSum (unseen : FamilyUnseen p s) : s.chargedSum p = 0 :=
  Table.sum_eq_zero _ fun _ mem => if_neg (unseen.not_under (startsWith_self p) mem)

theorem FamilyUnseen.offset (unseen : FamilyUnseen p s) : gatewayMeteredOffset s p = 0 := by
  obtain zero | ⟨r, mem, charged, -⟩ := offset_marked s p
  · exact zero
  · exact absurd charged (unseen.not_under (startsWith_mark p) mem)

theorem FamilyUnseen.inv (unseen : FamilyUnseen p s) : FamilyInv p s where
  charges := fun r mem mine => absurd mine (unseen.rows r mem)
  measured := by
    rintro n ⟨r, mem, mine, here, -⟩
    exact absurd ⟨mine, here ▸ startsWith_measuredKey p n⟩ (unseen.rows r mem)
  unmeasured := by
    rintro ⟨r, mem, mine, here, -⟩
    exact absurd ⟨mine, here ▸ startsWith_unmeasuredKey p⟩ (unseen.rows r mem)
  floor := unseen.floor
  inCents := unseen.inCents

end Unseen

section Runs

variable {sha256Hex : String → String} {sessionId family : String} {s : LedgerStore}

/-- What every later event keeps of a family once a measurement `c` is covered: all that
is booked since then lies above `c`. -/
structure BookedAbove (p : String) (c : Nat) (start : LedgerStore) (largest : Nat) (s : LedgerStore) :
    Prop where
  inv : FamilyInv p s
  marks : gatewayMeteredOffset start p ≤ gatewayMeteredOffset s p
  charges : start.chargedSum p ≤ s.chargedSum p
  above : 0 < c → s.chargedSum p + c ≤ start.chargedSum p + largest

theorem BookedAbove.covers {p : String} {c largest : Nat} {start : LedgerStore}
    (kept : BookedAbove p c start largest s) (reached : c ≤ covered start p) : c ≤ covered s p := by
  have marks := kept.marks
  have charges := kept.charges
  rw [covered] at reached ⊢
  omega

end Runs

/-- A measurement of a routed session that a gateway-mode call observed. -/
structure ObservedByGateway (sha256Hex : String → String) (s : LedgerStore)
    (rt : SharedBudgetRuntime) (request : TranscriptCall) (fresh : SharedPoolReservationId)
    (window : PricedWindow) : Prop where
  measured : request.measured = some window
  routed : ∃ cfg, rt.state = .valid cfg ∧ cfg.enforcement = .gateway ∧
    Routed rt cfg request.sessionId s
  answer : (chargeTranscriptInner sha256Hex rt rt.state request fresh s).1 =
    .ok (some (.refused .gatewayMetered))

theorem ObservedByGateway.reached {sha256Hex : String → String} {s : LedgerStore}
    {rt : SharedBudgetRuntime} {request : TranscriptCall} {fresh : SharedPoolReservationId}
    {window : PricedWindow} (observed : ObservedByGateway sha256Hex s rt request fresh window)
    {p : String} (inv : FamilyInv p s)
    (mine : transcriptPrefix request.sessionId
      (transcriptFamily sha256Hex request.agentId request.path) = p) :
    window.cents ≤ covered (TranscriptOp.apply sha256Hex s (.call rt request fresh)) p := by
  obtain ⟨cfg, file, mode, routed⟩ := observed.routed
  have answer := observed.answer
  simp only [TranscriptOp.apply]
  rw [file] at answer ⊢
  have post := chargeTranscriptInner_gateway inv mine mode rt fresh s rfl
  exact post.reached answer routed window observed.measured

def measuring (cents : Nat) (fits : cents ≤ u64Max) : PricedObservation := .priced ⟨cents, none, [], fits⟩

theorem fifty_fits : 50 ≤ u64Max := by decide

end LibraGovernor
