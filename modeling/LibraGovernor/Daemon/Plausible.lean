/-
# LibraGovernor.Daemon.Plausible -- which measured amounts the paths record

Five paths record a measured amount: a hold is settled from its window, and a tail, a
subagent's transcript, a true-up and a Codex turn without a hold are each booked as a charge.
A hold takes every amount up to the settlement ceiling; `bookCharge` has a bound of its own,
ten months of budget without the ceiling's floor.

`Clear` says that nothing but its amount stands in the way of a charge, and `MeasuredPath` is
a path with what it measured.  A path records what it measured exactly when its own bound lets
it (`measured_path_records`).
-/
import LibraGovernor.Daemon.ChargeOnce
import LibraGovernor.Daemon.CodexSettle
import LibraGovernor.Daemon.Transcript

namespace LibraGovernor

open Relational Transaction

set_option autoImplicit false

/-- A settled row with exactly this amount, measured, that was not there before. -/
def RecordedInFull (amount : Nat) (s s' : LedgerStore) : Prop :=
  ∃ r ∈ s'.reservations, r.state = .settled ∧ r.settledAmount = some amount ∧
    r.usageKnown = some true ∧ r ∉ s.reservations

theorem RecordedInFull.not_of_same {amount : Nat} {s s' : LedgerStore}
    (same : s'.reservations = s.reservations) : ¬ RecordedInFull amount s s' := by
  rintro ⟨r, mem, -, -, -, new⟩
  exact new (same ▸ mem)

/-! ## A charge -/

/-- The charge is new and valid but for its amount, it goes to `poolId`, and `mid` is the store
with that pool. -/
structure Clear (rt : SharedBudgetRuntime) (cfg : SharedBudgetConfig) (charge : BookedCharge)
    (fresh : SharedPoolReservationId) (poolId : PoolId) (s mid : LedgerStore) : Prop where
  lane : validateLaneKey charge.sessionId = .ok ()
  agent : validateAgent charge.agentId = .ok ()
  attribution : ∃ resolved kind, (chargeAttribution charge.agentId charge.chargeSource).resolve =
    .ok resolved ∧ resolved.executorKind = some kind
  watermark : ∃ columns, watermarkColumns charge.watermark = .ok columns
  new : s.findSharedReservationByKey principal charge.key ownerPoolPrefix = none
  free : ∀ r ∈ s.reservations, r.uniqueKey ≠ (poolId, principal, charge.key)
  unused : ∀ r ∈ s.reservations, r.id ≠ fresh
  pool : ∃ event current clamped, eventInstant charge.eventTime = .ok event ∧
    periodAt cfg rt.now = .ok current ∧
    chargePool cfg current none event charge.sessionId s = (.ok (some (poolId, clamped)), s)
  ensured : ∃ pool, s.ensurePool poolId .usdCents cfg.monthlyCapUsdCents rt.now = .ok (pool, mid) ∧
    pool.unit = .usdCents

/-- The amounts `bookCharge` takes: ten months of budget, and room in the pool. -/
def BookCharge.Takes (rt : SharedBudgetRuntime) (cfg : SharedBudgetConfig) (poolId : PoolId)
    (mid : LedgerStore) (amount : Nat) : Prop :=
  amount ≤ min (cfg.monthlyCapUsdCents * 10) u64Max ∧
    committedFigure mid poolId cfg rt.now + amount ≤ i64Max / 2

section Charge

variable {rt : SharedBudgetRuntime} {cfg : SharedBudgetConfig} {charge : BookedCharge}
  {fresh : SharedPoolReservationId} {poolId : PoolId} {s mid : LedgerStore}

theorem ensurePool_quotaPool {unit : QuotaUnit} {capacity : Nat} {now : OffsetDateTime}
    {pool : QuotaPool} (done : s.ensurePool poolId unit capacity now = .ok (pool, mid)) :
    mid.reservations = s.reservations ∧ mid.quotaPool poolId = some pool ∧ now.formattable = true := by
  unfold LedgerStore.ensurePool at done
  obtain ⟨stamp, formatted, done⟩ := (bind_eq_ok_iff _ _ _).mp done
  obtain ⟨capacity', -, done⟩ := (bind_eq_ok_iff _ _ _).mp done
  have formattable : now.formattable = true := by
    unfold rfc3339 at formatted
    split at formatted
    · assumption
    · cases formatted
  split at done
  · rename_i found
    cases done
    exact ⟨rfl, found, formattable⟩
  · dsimp only at done
    split at done
    · cases done
    · rename_i quotaPools inserted
      cases done
      refine ⟨rfl, ?_, formattable⟩
      exact (Table.find?_eq_some_iff _ _ _).mpr ⟨(Table.mem_insert? inserted _).mpr (.inr rfl), rfl⟩

/-- The ledger books a charge that is clear. -/
theorem Clear.booked (clear : Clear rt cfg charge fresh poolId s mid)
    (fits : charge.amountUsdCents ≤ i64Max) :
    ∃ row next, (∃ admission overrun known, mid.chargeSharedWithWatermark
        (chargeRequest charge poolId cfg rt.now) charge.watermark fresh =
          .ok (.charged row admission overrun known, next)) ∧
      row.executorKind ≠ none ∧
      ∃ r ∈ next.reservations, r.id = fresh ∧ r.state = .settled ∧
        r.settledAmount = some charge.amountUsdCents ∧ r.usageKnown = some charge.usageKnown := by
  obtain ⟨resolved, kind, resolves, named⟩ := clear.attribution
  obtain ⟨columns, written⟩ := clear.watermark
  obtain ⟨pool, done, cents⟩ := clear.ensured
  obtain ⟨rows, found, formattable⟩ := ensurePool_quotaPool done
  have absent : mid.findByKey poolId principal charge.key = none := by
    refine List.find?_eq_none.mpr ?_
    intro r mem
    rw [rows] at mem
    simpa using clear.free r mem
  let row := LedgerStore.chargeRow (chargeRequest charge poolId cfg rt.now) fresh resolved charge.amountUsdCents
    rt.now columns
  have inserts : ∃ next, mid.insertReservation row = .ok next := by
    have key : row.uniqueKey ∉ mid.reservations.rows.map SharedPoolRow.uniqueKey := by
      intro listed
      obtain ⟨r, mem, same⟩ := List.mem_map.mp listed
      exact clear.free r (rows ▸ mem) same
    obtain ⟨table, stored⟩ := Table.insert?_of_free ((Table.find?_eq_none_iff mid.reservations row.id).mpr
      fun r mem => clear.unused r (rows ▸ mem))
    unfold LedgerStore.insertReservation
    rw [dif_neg key]
    split
    · exact ⟨_, rfl⟩
    · rename_i none
      exact absurd found (none table pool stored)
  obtain ⟨next, stored⟩ := inserts
  let sourced := next.sourcedAdmission pool (source cfg) rt.now
  refine ⟨row.toSharedPoolReservation, next, ⟨sourced.admission, sourced.admission.overrun,
    sourced.capacityKnown, ?_⟩, ?_, row, ?_, rfl, rfl, rfl, rfl⟩
  · show ((watermarkColumns charge.watermark) >>= fun columns => _) = _
    rw [written]
    show ((chargeAttribution charge.agentId charge.chargeSource).resolve >>= fun _ => _) = _
    rw [resolves]
    show (checkedI64 charge.amountUsdCents >>= fun _ => _) = _
    rw [checkedI64, if_pos fits]
    have free : mid.findByKey (chargeRequest charge poolId cfg rt.now).poolId
        (chargeRequest charge poolId cfg rt.now).principalId
        (chargeRequest charge poolId cfg rt.now).idempotencyKey = none := absent
    have there : mid.quotaPool (chargeRequest charge poolId cfg rt.now).poolId = some pool := found
    simp only [bind, Except.bind, free, there]
    show (if QuotaUnit.usdCents ≠ pool.unit then _ else (rfc3339 rt.now >>= fun _ => _)) = _
    rw [if_neg (not_not.mpr cents.symm), rfc3339, if_pos formattable]
    show (mid.insertReservation row >>= fun _ => _) = _
    rw [stored]
    rfl
  · show resolved.executorKind ≠ none
    rw [named]
    exact Option.some_ne_none kind
  · exact (Table.mem_insert? (LedgerStore.insertReservation_ok stored).1 row).mpr (.inr rfl)

/-- A clear charge is recorded in full exactly when its amount is taken; it leaves the rows as
they are otherwise. -/
theorem Clear.records_iff (clear : Clear rt cfg charge fresh poolId s mid)
    (positive : 0 < charge.amountUsdCents) (known : charge.usageKnown = true) :
    RecordedInFull charge.amountUsdCents s (bookCharge rt (.valid cfg) charge fresh s).2 ↔
      BookCharge.Takes rt cfg poolId mid charge.amountUsdCents := by
  obtain ⟨event, current, clamped, parsed, period, chosen⟩ := clear.pool
  obtain ⟨pool, done, -⟩ := clear.ensured
  have rows := (ensurePool_quotaPool done).1
  unfold bookCharge
  rw [clear.lane, clear.agent, parsed]
  dsimp only [configured]
  by_cases large : i64Max < charge.amountUsdCents
  · rw [if_pos (.inr large)]
    refine iff_of_false (RecordedInFull.not_of_same rfl) ?_
    rintro ⟨-, room⟩
    have half : i64Max / 2 ≤ i64Max := Nat.div_le_self _ _
    omega
  rw [if_neg (by omega)]
  by_cases months : min (cfg.monthlyCapUsdCents * 10) u64Max < charge.amountUsdCents
  · rw [if_pos months]
    refine iff_of_false (RecordedInFull.not_of_same rfl) ?_
    rintro ⟨le, -⟩
    omega
  have placed : periodOf cfg rt.now s = (.ok current, s) := by
    rw [periodOf, period]
    rfl
  rw [if_neg months, Procedure.bind_ok placed, Procedure.read_bind_apply, clear.new,
    Procedure.bind_ok chosen]
  dsimp only
  rw [ensurePeriodPool, Procedure.bind_ok (ledger_ok done), Procedure.read_bind_apply]
  by_cases room : i64Max / 2 < min (committedFigure mid poolId cfg rt.now + charge.amountUsdCents) u64Max
  · rw [if_pos ⟨rfl, room⟩]
    refine iff_of_false (RecordedInFull.not_of_same rows) ?_
    rintro ⟨-, le⟩
    omega
  rw [if_neg (fun both => room both.2)]
  obtain ⟨row, next, ⟨admission, overrun, whole, books⟩, kind, r, mem, id, settled, amount, usage⟩ :=
    clear.booked (Nat.le_of_not_lt large)
  rw [Procedure.bind_ok (Procedure.attempt_ok books)]
  refine iff_of_true ?_ ⟨Nat.le_of_not_lt months, ?_⟩
  · have stays : (chargeAnswer charge poolId clamped cfg rt.now
        (.ok (.charged row admission overrun whole)) next).2 = next := by
      unfold chargeAnswer
      dsimp only
      cases row.executorKind with
      | none => rfl
      | some kind => rfl
    rw [stays]
    refine ⟨r, mem, settled, amount, usage.trans (congrArg some known), ?_⟩
    intro old
    exact clear.unused r old id
  · have fits : i64Max / 2 < u64Max := by decide
    omega

end Charge

/-! ## The paths -/

/-- A path that records a measured amount, with what it was called on. -/
inductive MeasuredPath where
  | window (sessionId : String) (holds : List SharedPoolRow) (target : SharedPoolRow)
      (source : TranscriptSource) (bookFlat : Bool)
  | tail (rfc : OffsetDateTime → String) (sessionId : String) (admission : Option SourcedAdmission)
      (start : OffsetDateTime × List String) (priced : PricedWindow)
  | transcript (call : TranscriptCall) (executorKind : ExecutorKind) (keyPrefix : String) (summed : Nat)
  | trueup (lane : String) (hold : SharedPoolRow) (settled measured : Nat)
  | turn (lane turnId : String) (source : RolloutSource)

namespace MeasuredPath

variable (rt : SharedBudgetRuntime) (cfg : SharedBudgetConfig)

/-- What the path records, whatever it answers. -/
def run (fresh : SharedPoolReservationId) : MeasuredPath → Daemon Unit
  | .window sessionId holds target source bookFlat => do
      let _ ← settleHoldFromWindow rt rt.state sessionId holds target source bookFlat
      return ()
  | .tail rfc sessionId admission start priced => do
      let _ ← chargeTail rfc rt cfg sessionId admission start (.priced priced) fresh
      return ()
  | .transcript call executorKind keyPrefix summed => do
      let _ ← chargeTranscriptHooks rt rt.state cfg call executorKind keyPrefix summed fresh
      return ()
  | .trueup lane hold settled measured => bookTrueup rt cfg lane hold settled measured fresh
  | .turn lane turnId source => do
      let _ ← chargeUnadmittedCodexTurn rt lane turnId source fresh
      return ()

/-- Where a hold's window starts. -/
def windowStart (s : LedgerStore) (sessionId : String) (holds : List SharedPoolRow)
    (target : SharedPoolRow) : OffsetDateTime × List String :=
  (laneWindow s sessionId holds).getD (target.createdAt, [])

/-- What a family has been charged. -/
def familyCharged (s : LedgerStore) (keyPrefix : String) (summed : Nat) : Nat :=
  min (summed + gatewayMeteredOffset s keyPrefix) u64Max

/-- What a true-up measures past what is there. -/
def trueupDelta (s : LedgerStore) (lane : String) (hold : SharedPoolRow) (settled measured : Nat) :
    Option Nat :=
  match s.sharedChargesTotalByKeyPrefix principal (codexPrefix lane hold.id) ownerPoolPrefix with
  | .ok prior => some (measured - min (settled + prior) u64Max)
  | .error _ => none

/-- The amount the path measured and has to record. -/
def measured (s : LedgerStore) : MeasuredPath → Option Nat
  | .window sessionId holds target source _ =>
      let start := windowStart s sessionId holds target
      match source.observe start.1 start.2 rt.now sessionId cfg.table with
      | .priced priced => some priced.cents
      | _ => none
  | .tail _ _ _ _ priced => some priced.cents
  | .transcript call _ keyPrefix summed =>
      call.measured.map fun priced => priced.cents - familyCharged s keyPrefix summed
  | .trueup lane hold settled measured => trueupDelta s lane hold settled measured
  | .turn _ turnId source => (measureCodexTurns cfg [turnId] source cfg.turnHoldUsdCents).1

/-- The charge a path books it as, when it is one. -/
def charge (s : LedgerStore) : MeasuredPath → Option BookedCharge
  | .window _ _ _ _ _ => none
  | .tail rfc sessionId _ start priced =>
      (priced.lastEventTime.filter fun ts => inEventYears ts.year).map
        (tailCharge rfc sessionId start priced)
  | .transcript call _ keyPrefix summed =>
      some (transcriptCharge cfg call keyPrefix (familyCharged s keyPrefix summed))
  | .trueup lane hold settled measured =>
      (trueupDelta s lane hold settled measured).map (trueupCharge lane hold measured)
  | .turn lane turnId source =>
      (measureCodexTurns cfg [turnId] source cfg.turnHoldUsdCents).1.map fun amount =>
        codexCharge lane turnId amount true rt.now

/-- Nothing but the amount stands in the way of recording it: the hold is there to be settled, or
the charge is clear. -/
def Unhindered (fresh : SharedPoolReservationId) (poolId : PoolId) (s mid : LedgerStore) :
    MeasuredPath → Prop
  | .window sessionId holds target source bookFlat =>
      s.getSharedReservation target.id = some target ∧ target.settleable = true ∧
      rt.now.formattable = true ∧ ∃ columns, watermarkColumns (windowMeasure rt (.valid cfg) sessionId
        (windowStart s sessionId holds target) target.amount source bookFlat).watermark = .ok columns
  | .trueup lane hold settled measured =>
      (∃ period, periodAt cfg hold.createdAt = .ok period ∧ period.poolId = hold.poolId) ∧
      ∀ charge, (MeasuredPath.trueup lane hold settled measured).charge rt cfg s = some charge →
        Clear rt cfg charge fresh poolId s mid
  | path => ∃ charge, path.charge rt cfg s = some charge ∧ Clear rt cfg charge fresh poolId s mid

/-- The amounts a path takes. -/
def Takes (poolId : PoolId) (mid : LedgerStore) (amount : Nat) : MeasuredPath → Prop
  | .window _ _ _ _ _ => amount ≤ i64Max
  | _ => BookCharge.Takes rt cfg poolId mid amount

end MeasuredPath

/-- Settling a hold that is there at an amount the ledger can hold. -/
theorem settle_found {s : LedgerStore} {target : SharedPoolRow} {watermark : Option SettleWatermark}
    {columns : Option OffsetDateTime × Option (List String)} {now : OffsetDateTime} (amount : Nat)
    (found : s.getSharedReservation target.id = some target) (settleable : target.settleable = true)
    (formattable : now.formattable = true) (written : watermarkColumns watermark = .ok columns) :
    (amount ≤ i64Max → ∃ out next, s.settleSharedWithWatermark target.id (some amount) now
        (.mainExecutor (some .turnHold)) watermark = .ok (out, next) ∧ RecordedInFull amount s next) ∧
    (i64Max < amount → s.settleSharedWithWatermark target.id (some amount) now
        (.mainExecutor (some .turnHold)) watermark = .error .invalid) := by
  have start : s.settleSharedWithWatermark target.id (some amount) now (.mainExecutor (some .turnHold))
      watermark = (do
        let value ← checkedI64 amount
        let stamp ← rfc3339 now
        let close := SharedPoolRow.settle value true stamp (.mainExecutor (some .turnHold)) columns.1 columns.2
        let closed := (close target).toSharedPoolReservation
        return (.settled closed closed.refunded closed.overrun,
          s.updateReservation target.id close fun _ => rfl)) := by
    unfold LedgerStore.settleSharedWithWatermark LedgerStore.settleSharedCore
    rw [written]
    dsimp only [bind, Except.bind]
    rw [found]
    show (if target.settleable = true then _ else _) = _
    rw [if_pos settleable]
    rfl
  refine ⟨?_, ?_⟩
  · intro fits
    rw [start, checkedI64, if_pos fits, rfc3339, if_pos formattable]
    refine ⟨_, _, rfl, ?_⟩
    have there := ((Table.find?_eq_some_iff _ _ _).mp found).1
    let closed := SharedPoolRow.settle amount true now (.mainExecutor (some .turnHold)) columns.1
      columns.2 target
    refine ⟨closed, ?_, rfl, rfl, rfl, ?_⟩
    · exact (s.mem_updateReservations _ _ _).mpr ⟨target, there, by simp [closed]⟩
    · intro old
      -- A settled row is not settleable.
      have same : closed = target := s.reservations.eq_of_key old there rfl
      have state : target.state = .settled := congrArg (fun r => r.state) same.symm
      simp [SharedPoolRow.settleable, state] at settleable
  · intro large
    rw [start, checkedI64, if_neg (Nat.not_le.mpr large)]
    rfl

section Paths

variable {rt : SharedBudgetRuntime} {cfg : SharedBudgetConfig} {fresh : SharedPoolReservationId}
  {poolId : PoolId} {s mid : LedgerStore} {amount : Nat}

/-- A hold settles at every amount up to the ceiling that the ledger can hold. -/
theorem window_records {sessionId : String} {holds : List SharedPoolRow} {target : SharedPoolRow}
    {source : TranscriptSource} {bookFlat : Bool}
    (measures : (MeasuredPath.window sessionId holds target source bookFlat).measured rt cfg s = some amount)
    (bounded : amount ≤ settlementCeilingUsdCents cfg.monthlyCapUsdCents)
    (unhindered : (MeasuredPath.window sessionId holds target source bookFlat).Unhindered rt cfg fresh
      poolId s mid) :
    RecordedInFull amount s (settleHoldFromWindow rt (.valid cfg) sessionId holds target source
      bookFlat s).2 ↔ amount ≤ i64Max := by
  obtain ⟨found, settleable, formattable, columns, written⟩ := unhindered
  have figure : (windowMeasure rt (.valid cfg) sessionId
      (MeasuredPath.windowStart s sessionId holds target) target.amount source bookFlat).actual =
      some amount := by
    unfold MeasuredPath.measured at measures
    dsimp only at measures
    unfold windowMeasure
    dsimp only
    split at measures
    · rename_i priced observed
      cases measures
      rw [observed]
      have within : implausibleMeasurement cfg (some priced.cents) = false :=
        decide_eq_false (Nat.not_lt.mpr bounded)
      show (if implausibleMeasurement cfg (some priced.cents) = true then _ else _ : WindowMeasure).actual = _
      rw [within]
      rfl
    · cases measures
  unfold MeasuredPath.windowStart at figure written
  unfold settleHoldFromWindow
  rw [Procedure.read_bind_apply]
  show RecordedInFull amount s ((if _ then _ else _ : Daemon WindowOutcome) s).2 ↔ _
  rw [if_neg (show ¬ (absent (.valid cfg) = true) from nofun)]
  rw [figure, if_neg (show ¬ ((some amount).isNone && !bookFlat) = true from nofun),
    Procedure.bind_pure_apply]
  obtain ⟨settles, overflows⟩ := settle_found amount found settleable formattable written
  by_cases fits : amount ≤ i64Max
  · obtain ⟨out, next, done, recorded⟩ := settles fits
    rw [ledger_ok done]
    exact iff_of_true recorded fits
  · have failed := overflows (Nat.lt_of_not_le fits)
    rw [ledger_error failed]
    exact iff_of_false (RecordedInFull.not_of_same rfl) fits

/-- What each path of a charge does: it books its charge, and nothing else. -/
theorem MeasuredPath.run_charge (valid : rt.state = .valid cfg) {path : MeasuredPath}
    {charge : BookedCharge} (charges : path.charge rt cfg s = some charge)
    (positive : 0 < charge.amountUsdCents)
    (trueup : ∀ lane hold settled measured, path = .trueup lane hold settled measured →
      ∃ period, periodAt cfg hold.createdAt = .ok period ∧ period.poolId = hold.poolId) :
    (path.run rt cfg fresh s).2 = (bookCharge rt (.valid cfg) charge fresh s).2 := by
  cases path with
  | window sessionId holds target source bookFlat => cases charges
  | tail rfc sessionId admission start priced =>
      obtain ⟨last, stamped, rfl⟩ := Option.map_eq_some_iff.mp charges
      have spent : priced.cents ≠ 0 := Nat.ne_of_gt positive
      show ((chargeTail rfc rt cfg sessionId admission start (.priced priced) fresh >>= fun _ =>
        (pure () : Daemon Unit)) s).2 = _
      rw [Procedure.bind_pure_apply]
      unfold chargeTail
      dsimp only
      rw [stamped]
      dsimp only
      rw [if_neg spent, Procedure.bind_pure_apply, valid]
  | transcript call executorKind keyPrefix summed =>
      cases charges
      show ((chargeTranscriptHooks rt rt.state cfg call executorKind keyPrefix summed fresh >>= fun _ =>
        (pure () : Daemon Unit)) s).2 = _
      rw [Procedure.bind_pure_apply]
      unfold chargeTranscriptHooks
      rw [Procedure.read_bind_apply]
      show ((if (transcriptCharge cfg call keyPrefix (familyCharged s keyPrefix summed)).amountUsdCents = 0
        then _ else _ : Daemon SharedBudgetOutcome) s).2 = _
      rw [if_neg (Nat.ne_of_gt positive), Procedure.bind_pure_apply, valid]
      rfl
  | trueup lane hold settled measured =>
      obtain ⟨period, placed, here⟩ := trueup lane hold settled measured rfl
      obtain ⟨delta, owed, rfl⟩ := Option.map_eq_some_iff.mp charges
      unfold trueupDelta at owed
      split at owed
      · rename_i prior read
        cases owed
        show (bookTrueup rt cfg lane hold settled measured fresh s).2 = _
        unfold bookTrueup
        rw [Procedure.read_bind_apply, read]
        dsimp only
        have owed : measured - min (settled + prior) u64Max ≠ 0 := Nat.ne_of_gt positive
        rw [if_neg owed]
        have found : periodOf cfg hold.createdAt s = (.ok period, s) := by
          rw [periodOf, placed]
          rfl
        rw [Procedure.bind_ok found, if_neg (not_not.mpr here), Procedure.bind_pure_apply, valid]
      · cases owed
  | turn lane turnId source =>
      obtain ⟨amount, priced, rfl⟩ := Option.map_eq_some_iff.mp charges
      have spent : amount ≠ 0 := Nat.ne_of_gt positive
      show ((chargeUnadmittedCodexTurn rt lane turnId source fresh >>= fun _ =>
        (pure () : Daemon Unit)) s).2 = _
      rw [Procedure.bind_pure_apply]
      unfold chargeUnadmittedCodexTurn
      rw [valid]
      dsimp only
      rw [priced]
      dsimp only [Option.getD_some, Option.isSome_some]
      rw [if_neg spent, Procedure.bind_pure_apply]

/-- A path records what it measured in full exactly when its bound takes the amount: the
settlement of a hold takes everything up to the ceiling, a charge no more than ten months of
budget. -/
theorem measured_path_records (valid : rt.state = .valid cfg) (path : MeasuredPath)
    (measures : path.measured rt cfg s = some amount) (positive : 0 < amount)
    (bounded : amount ≤ settlementCeilingUsdCents cfg.monthlyCapUsdCents)
    (unhindered : path.Unhindered rt cfg fresh poolId s mid) :
    RecordedInFull amount s (path.run rt cfg fresh s).2 ↔ path.Takes rt cfg poolId mid amount := by
  have booked : ∀ charge, path.charge rt cfg s = some charge → charge.amountUsdCents = amount →
      charge.usageKnown = true → Clear rt cfg charge fresh poolId s mid →
      (∀ lane hold settled measured, path = .trueup lane hold settled measured →
        ∃ period, periodAt cfg hold.createdAt = .ok period ∧ period.poolId = hold.poolId) →
      (RecordedInFull amount s (path.run rt cfg fresh s).2 ↔ BookCharge.Takes rt cfg poolId mid amount) := by
    rintro charge charges rfl known clear trueup
    rw [path.run_charge valid charges positive trueup]
    exact clear.records_iff positive known
  cases path with
  | window sessionId holds target source bookFlat =>
      show RecordedInFull amount s ((settleHoldFromWindow rt rt.state sessionId holds target source
        bookFlat >>= fun _ => (pure () : Daemon Unit)) s).2 ↔ amount ≤ i64Max
      rw [Procedure.bind_pure_apply, valid]
      exact window_records measures bounded unhindered
  | tail rfc sessionId admission start priced =>
      obtain ⟨charge, charges, clear⟩ := unhindered
      cases measures
      refine booked charge charges ?_ ?_ clear ?_
      · obtain ⟨last, -, rfl⟩ := Option.map_eq_some_iff.mp charges
        rfl
      · obtain ⟨last, -, rfl⟩ := Option.map_eq_some_iff.mp charges
        rfl
      · rintro _ _ _ _ ⟨⟩
  | transcript call executorKind keyPrefix summed =>
      obtain ⟨charge, charges, clear⟩ := unhindered
      obtain ⟨priced, read, rfl⟩ := Option.map_eq_some_iff.mp measures
      cases charges
      refine booked _ rfl ?_ ?_ clear ?_
      · simp only [transcriptCharge, read]
      · simp only [transcriptCharge, read, Option.isSome_some]
      · rintro _ _ _ _ ⟨⟩
  | trueup lane hold settled measured =>
      obtain ⟨period, clear⟩ := unhindered
      have charges : (MeasuredPath.trueup lane hold settled measured).charge rt cfg s =
          some (trueupCharge lane hold measured amount) := by
        show (MeasuredPath.trueupDelta s lane hold settled measured).map (trueupCharge lane hold measured) = _
        rw [show MeasuredPath.trueupDelta s lane hold settled measured = some amount from measures]
        rfl
      refine booked _ charges rfl rfl (clear _ charges) ?_
      rintro _ _ _ _ ⟨⟩
      exact period
  | turn lane turnId source =>
      obtain ⟨charge, charges, clear⟩ := unhindered
      have priced : (measureCodexTurns cfg [turnId] source cfg.turnHoldUsdCents).1 = some amount := measures
      have same : charge = codexCharge lane turnId amount true rt.now := by
        unfold MeasuredPath.charge at charges
        dsimp only at charges
        rw [priced] at charges
        exact (Option.some.inj charges).symm
      subst same
      refine booked _ charges rfl rfl clear ?_
      rintro _ _ _ _ ⟨⟩

end Paths

/-! ## Poles -/

/-- A rollout whose turn costs the same under every model. -/
def pricedRollout (cents : Nat) : RolloutSource :=
  ⟨some "gpt-6-sol", some "/rollout.jsonl", ⟨fun _ _ _ => .ok (some cents), fun _ => true⟩⟩

def januaryPool : PoolId := ⟨"metered:local-budget/monthly-2026-01"⟩

/-- The ledger with January's pool. -/
def januaryLedger : LedgerStore := (ensurePeriodPool januaryPool hooksConfig january .empty).2

theorem january_period : ∃ period, periodAt hooksConfig january = .ok period ∧
    period.poolId = januaryPool := by
  have found : (periodAt hooksConfig january).toOption.any
      (fun period => decide (period.poolId = januaryPool)) = true := by decide +kernel
  obtain ⟨period, ready, here⟩ := (Option.any_eq_true _ _).mp found
  cases placed : periodAt hooksConfig january with
  | error e =>
      rw [placed] at ready
      cases ready
  | ok placedIn =>
      rw [placed] at ready
      cases ready
      exact ⟨period, rfl, of_decide_eq_true here⟩

theorem turn_clear (cents : Nat) :
    Clear (hooksRuntime january) hooksConfig (codexCharge "session" "turn-1" cents true january) ⟨1⟩
      januaryPool .empty januaryLedger where
  lane := show validateLaneKey "session" = .ok () by decide
  agent := rfl
  attribution := ⟨_, _, rfl, rfl⟩
  watermark := ⟨_, rfl⟩
  new := rfl
  free _ mem := absurd mem List.not_mem_nil
  unused _ mem := absurd mem List.not_mem_nil
  pool := by
    obtain ⟨period, placed, here⟩ := january_period
    refine ⟨some january, period, false, ?_, placed, ?_⟩
    · have year : inEventYears (utcYear january) = true := by decide +kernel
      simp only [codexCharge, eventInstant, year, if_true]
    · have found : periodOf hooksConfig january .empty = (.ok period, .empty) := by
        rw [periodOf, placed]
        rfl
      show ((periodOf hooksConfig january >>= fun target => _ : Daemon _) .empty) = _
      rw [Procedure.bind_ok found, if_neg (lt_irrefl _), here]
      rfl
  ensured := by
    have created : ((LedgerStore.empty).ensurePool januaryPool .usdCents hooksConfig.monthlyCapUsdCents
        january).toOption.any (fun made => decide (made.1.unit = .usdCents)) = true := by decide +kernel
    obtain ⟨made, ready, cents⟩ := (Option.any_eq_true _ _).mp created
    cases done : (LedgerStore.empty).ensurePool januaryPool .usdCents hooksConfig.monthlyCapUsdCents
        january with
    | error e =>
        rw [done] at ready
        cases ready
    | ok _ =>
        rw [done] at ready
        cases ready
        refine ⟨made.1, ?_, of_decide_eq_true cents⟩
        have stored : januaryLedger = made.2 := by
          show (ledger (fun s => s.ensurePool januaryPool .usdCents hooksConfig.monthlyCapUsdCents january)
            .empty).2 = _
          rw [ledger_ok done]
        rw [stored]
        exact done

/-- A turn of a hundred and fifty dollars, under a cap of ten: its hold would settle at it, and
without a hold it is dropped. -/
theorem dear_turn_dropped :
    ¬ ∀ (rt : SharedBudgetRuntime) (cfg : SharedBudgetConfig) (path : MeasuredPath) (amount : Nat)
      (fresh : SharedPoolReservationId) (poolId : PoolId) (s mid : LedgerStore), rt.state = .valid cfg →
      path.measured rt cfg s = some amount → 0 < amount →
      amount ≤ settlementCeilingUsdCents cfg.monthlyCapUsdCents →
      path.Unhindered rt cfg fresh poolId s mid →
      RecordedInFull amount s (path.run rt cfg fresh s).2 := by
  intro all
  have recorded := all (hooksRuntime january) hooksConfig (.turn "session" "turn-1" (pricedRollout 15000))
    15000 ⟨1⟩ januaryPool .empty januaryLedger rfl (by decide +kernel) (by decide) (by decide)
    ⟨_, rfl, turn_clear 15000⟩
  obtain ⟨r, mem, -⟩ := recorded
  have nothing : ((MeasuredPath.turn "session" "turn-1" (pricedRollout 15000)).run (hooksRuntime january)
      hooksConfig ⟨1⟩ .empty).2.reservations.rows = [] := by decide +kernel
  have listed : r ∈ ([] : List SharedPoolRow) := nothing ▸ mem
  exact List.not_mem_nil listed

/-- A turn of ninety dollars is within both bounds. -/
theorem turn_recorded :
    RecordedInFull 9000 .empty ((MeasuredPath.turn "session" "turn-1" (pricedRollout 9000)).run
      (hooksRuntime january) hooksConfig ⟨1⟩ .empty).2 := by
  refine (measured_path_records rfl (.turn "session" "turn-1" (pricedRollout 9000)) (by decide +kernel)
    (by decide) (by decide) ⟨_, rfl, turn_clear 9000⟩).mpr ?_
  show BookCharge.Takes (hooksRuntime january) hooksConfig januaryPool januaryLedger 9000
  exact ⟨by decide, by decide +kernel⟩

end LibraGovernor
