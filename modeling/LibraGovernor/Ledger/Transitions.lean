/-
# LibraGovernor.Ledger.Transitions -- what each transaction may write

One inversion lemma per transaction says what its success can have written, and
`TableWrite` collects them: a transaction leaves the reservations alone, moves
rows by the six `RowMove`s, opens one hold, or records one charge.  Every
invariant of the shared pool is derived from that, never from the code again.

`SharedPoolOp` is the alphabet of runs and `apply` its step function; a failed
transaction leaves the store as it was.
-/
import LibraGovernor.Ledger.SharedPool
import LibraGovernor.Lib.Transaction
import LibraGovernor.Lib.Run

namespace LibraGovernor

open Relational Transaction

set_option autoImplicit false

/-! ## The moves of one row -/

/-- What one transaction can do to a row that exists. -/
inductive RowMove : SharedPoolRow → SharedPoolRow → Prop where
  | settle {r : SharedPoolRow} (value : Nat) (usageKnown : Bool) (now : OffsetDateTime)
      (supplied : ExecutorAttribution) (watermarkTs : Option OffsetDateTime)
      (watermarkMessageIds : Option (List String)) (settleable : r.settleable = true) :
      RowMove r (r.settle value usageKnown now supplied watermarkTs watermarkMessageIds)
  | release {r : SharedPoolRow} (now : OffsetDateTime) (active : r.state = .active) :
      RowMove r (r.release now)
  | renew {r : SharedPoolRow} (expiresAt : OffsetDateTime) (active : r.state = .active) :
      RowMove r (r.renew expiresAt)
  | expire {r : SharedPoolRow} (now : OffsetDateTime) (active : r.state = .active) :
      RowMove r (r.expire now)
  | book {r : SharedPoolRow} (now : OffsetDateTime) (active : r.state = .active) :
      RowMove r (r.book now)
  | mark {r : SharedPoolRow} (watermarkTs : Option OffsetDateTime)
      (watermarkMessageIds : Option (List String)) (settled : r.state = .settled) :
      RowMove r (r.mark watermarkTs watermarkMessageIds)

/-- A row as a granted reserve writes it. -/
structure NewHold (r : SharedPoolRow) : Prop where
  active : r.state = .active
  unsettled : r.settledAmount = none
  unreleased : r.releasedAt = none
  hold : r.isCharge = false

/-- A row as a charge writes it. -/
structure NewCharge (r : SharedPoolRow) : Prop where
  settled : r.state = .settled
  amount : r.settledAmount = some r.amount
  unreleased : r.releasedAt = none
  charge : r.isCharge = true

abbrev ReservationTable := Table SharedPoolRow fun r => r.id

/-- What one transaction can do to the reservations table; `opens` is what is known
of a hold it opens, and `charges` of a charge it records. -/
inductive TableWrite (opens charges : SharedPoolRow → Prop) (t : ReservationTable) :
    ReservationTable → Prop where
  | same : TableWrite opens charges t t
  | moved (f : SharedPoolRow → SharedPoolRow) (keeps : ∀ r, (f r).id = r.id)
      (moves : ∀ r ∈ t, f r = r ∨ RowMove r (f r)) : TableWrite opens charges t (t.update f keeps)
  | opened {u : ReservationTable} (row : SharedPoolRow) (hold : NewHold row) (known : opens row)
      (inserted : t.insert? row = some u) : TableWrite opens charges t u
  | charged {u : ReservationTable} (row : SharedPoolRow) (charge : NewCharge row)
      (known : charges row) (inserted : t.insert? row = some u) : TableWrite opens charges t u

theorem TableWrite.mono {opens opens' charges charges' : SharedPoolRow → Prop}
    {t u : ReservationTable} (weaker : ∀ row, opens row → opens' row)
    (weaker' : ∀ row, charges row → charges' row) (write : TableWrite opens charges t u) :
    TableWrite opens' charges' t u := by
  cases write with
  | same => exact .same
  | moved f keeps moves => exact .moved f keeps moves
  | opened row hold known inserted => exact .opened row hold (weaker row known) inserted
  | charged row charge known inserted => exact .charged row charge (weaker' row known) inserted

namespace LedgerStore

section Writes

variable {opens charges : SharedPoolRow → Prop}

/-- Updating where `p` holds is a table of moves, when each selected row moves. -/
theorem updateWhere_write (s : LedgerStore) (p : SharedPoolRow → Bool)
    (f : SharedPoolRow → SharedPoolRow) (keeps : ∀ r, (f r).ident = r.ident)
    (moves : ∀ r ∈ s.reservations, p r = true → RowMove r (f r)) :
    TableWrite opens charges s.reservations (s.updateWhere p f keeps).reservations := by
  rw [updateWhere, updateReservations_reservations]
  refine .moved _ _ ?_
  intro r mem
  cases selected : p r with
  | false => exact .inl (by simp)
  | true => exact .inr (by simpa [selected] using moves r mem selected)

theorem updateReservation_write (s : LedgerStore) {id : SharedPoolReservationId}
    {row : SharedPoolRow} (found : s.getSharedReservation id = some row)
    (f : SharedPoolRow → SharedPoolRow) (keeps : ∀ r, (f r).ident = r.ident)
    (move : RowMove row (f row)) :
    TableWrite opens charges s.reservations (s.updateReservation id f keeps).reservations := by
  obtain ⟨mem, here⟩ := (Table.find?_eq_some_iff _ _ _).mp found
  rw [updateReservation, updateReservations_reservations]
  refine .moved _ _ ?_
  intro r mem'
  by_cases same : r.id = id
  · have one : r = row := s.reservations.eq_of_key mem' mem (same.trans here.symm)
    subst one
    simp [same, move]
  · exact .inl (by simp [same])

/-! ## One inversion per transaction -/

theorem ensurePool_reservations {s s' : LedgerStore} {poolId : PoolId} {unit : QuotaUnit}
    {capacity : Nat} {now : OffsetDateTime} {pool : QuotaPool}
    (done : s.ensurePool poolId unit capacity now = .ok (pool, s')) :
    s'.reservations = s.reservations := by
  simp only [ensurePool, bind_eq_ok_iff] at done
  obtain ⟨stamp, -, capacity, -, done⟩ := done
  split at done
  · cases done
    rfl
  · split at done
    · cases done
    · cases done
      rfl

/-- What a successful `grantHold` wrote. -/
theorem grantHold_ok {s s' : LedgerStore} {req : SharedPoolReserveRequest}
    {fresh : SharedPoolReservationId} {attribution : ExecutorAttribution} {row : SharedPoolRow}
    (done : s.grantHold req fresh attribution = .ok (row, s')) :
    ∃ expiresAt, expiryOf req.now req.ttlSecs = .ok expiresAt ∧ req.amount ≤ i64Max ∧
      row = holdRow req fresh attribution req.amount req.now expiresAt ∧
      s.insertReservation row = .ok s' := by
  simp only [grantHold, bind_eq_ok_iff, checkedI64, rfc3339] at done
  obtain ⟨expiresAt, expiry, amount, checked, created, stamped, expires, stamped', inserted⟩ := done
  split at checked <;> cases checked
  split at stamped <;> cases stamped
  split at stamped' <;> cases stamped'
  rename_i fits _ _
  obtain ⟨next, inserted, done⟩ := inserted
  cases done
  exact ⟨expiresAt, expiry, fits, rfl, inserted⟩

/-- Everything a granted reserve knows: the key was free, the pool exists, and the
requested amount was admitted against the capacity in force. -/
structure GrantedReserve (s : LedgerStore) (req : SharedPoolReserveRequest)
    (metered : Option MeteredGate) (fresh : SharedPoolReservationId) (row : SharedPoolRow)
    (s' : LedgerStore) : Prop where
  unheld : s.findByKey req.poolId req.principalId req.idempotencyKey = none
  admitted : ∃ pool capacity, s.quotaPool req.poolId = some pool ∧
    s.reserveCapacity pool metered req.now = .ok capacity ∧
    (s.admissionAt req.poolId capacity (overhangSource metered) req.now).admits req.amount = true
  row_eq : ∃ attribution expiresAt, req.attribution.resolve = .ok attribution ∧
    expiryOf req.now req.ttlSecs = .ok expiresAt ∧
    row = holdRow req fresh attribution req.amount req.now expiresAt
  inserted : s.insertReservation row = .ok s'

/-- A reserve either writes nothing or is a grant. -/
theorem reserveSharedCore_ok {s s' : LedgerStore} {req : SharedPoolReserveRequest}
    {metered : Option MeteredGate} {fresh : SharedPoolReservationId} {out : CoreReserveOutcome}
    (done : s.reserveSharedCore req metered fresh = .ok (out, s')) :
    (s' = s ∧ ∀ h, out ≠ .granted h) ∨
      ∃ row, out = .granted row.toSharedPoolReservation ∧
        GrantedReserve s req metered fresh row s' := by
  simp only [reserveSharedCore, bind_eq_ok_iff] at done
  obtain ⟨attribution, resolved, done⟩ := done
  split at done
  · split at done
    · cases done
    · cases done
      exact .inl ⟨rfl, by simp⟩
  rename_i unheld
  split at done
  · cases done
    exact .inl ⟨rfl, by simp⟩
  rename_i pool found
  split at done
  · cases done
  split at done
  · cases done
    exact .inl ⟨rfl, by simp⟩
  rename_i capacity effective
  simp only [bind_eq_ok_iff] at done
  obtain ⟨refusal, -, done⟩ := done
  split at done
  · cases done
    exact .inl ⟨rfl, by simp⟩
  split at done
  · rename_i admitted
    simp only [bind_eq_ok_iff] at done
    obtain ⟨⟨row, next⟩, granted, done⟩ := done
    cases done
    obtain ⟨expiresAt, expiry, -, rfl, inserted⟩ := grantHold_ok granted
    exact .inr ⟨_, rfl, unheld, ⟨pool, capacity, found, effective, admitted⟩,
      ⟨attribution, expiresAt, resolved, expiry, rfl⟩, inserted⟩
  · cases done
    exact .inl ⟨rfl, by simp⟩

/-- A replayed reserve hands out the row its key names, and writes nothing. -/
theorem reserveSharedCore_alreadyGranted {s s' : LedgerStore} {req : SharedPoolReserveRequest}
    {metered : Option MeteredGate} {fresh : SharedPoolReservationId} {h : SharedPoolReservation}
    (done : s.reserveSharedCore req metered fresh = .ok (.alreadyGranted h, s')) :
    s' = s ∧ ∃ row, s.findByKey req.poolId req.principalId req.idempotencyKey = some row ∧
      row.isCharge = false ∧ h = row.toSharedPoolReservation := by
  simp only [reserveSharedCore, bind_eq_ok_iff] at done
  obtain ⟨attribution, -, done⟩ := done
  split at done
  · rename_i row found
    split at done
    · cases done
    · rename_i hold
      cases done
      exact ⟨rfl, row, found, by simpa using hold, rfl⟩
  split at done
  · cases done
  split at done
  · cases done
  split at done
  · cases done
  simp only [bind_eq_ok_iff] at done
  obtain ⟨refusal, -, done⟩ := done
  split at done
  · cases done
  split at done
  · simp only [bind_eq_ok_iff] at done
    obtain ⟨⟨row, next⟩, -, done⟩ := done
    cases done
  · cases done

@[simp] theorem recordHoldPrompt_reservations (s : LedgerStore) (principalId : PrincipalId)
    (sessionId promptId : String) (id : SharedPoolReservationId) :
    (s.recordHoldPrompt principalId sessionId promptId id).reservations = s.reservations := rfl

@[simp] theorem recordHoldPrompt?_reservations (s : LedgerStore) (principalId : PrincipalId)
    (sessionId : String) (promptId : Option String) (id : SharedPoolReservationId) :
    (s.recordHoldPrompt? principalId sessionId promptId id).reservations = s.reservations := by
  cases promptId <;> rfl

/-- Recording the prompt changes nothing but the prompt table. -/
theorem reserveSharedMeteredForPrompt_ok {s s' : LedgerStore} {req : SharedPoolReserveRequest}
    {gate : MeteredGate} {promptId : Option String} {fresh : SharedPoolReservationId}
    {out : CoreReserveOutcome}
    (done : s.reserveSharedMeteredForPrompt req gate promptId fresh = .ok (out, s')) :
    ∃ mid, s.reserveSharedMetered req gate fresh = .ok (out, mid) ∧
      (s' = mid ∨ ∃ prompt h, promptId = some prompt ∧ promptHold req.sessionId out = some h ∧
        s' = mid.recordHoldPrompt req.principalId req.sessionId prompt h.id) := by
  simp only [reserveSharedMeteredForPrompt, bind_eq_ok_iff] at done
  obtain ⟨⟨outcome, mid⟩, reserved, done⟩ := done
  split at done
  · rename_i prompt h handed
    cases done
    exact ⟨mid, reserved, .inr ⟨prompt, h, rfl, handed, rfl⟩⟩
  · cases done
    exact ⟨mid, reserved, .inl rfl⟩

theorem grantedReserve_newHold {s s' : LedgerStore} {req : SharedPoolReserveRequest}
    {metered : Option MeteredGate} {fresh : SharedPoolReservationId} {row : SharedPoolRow}
    (granted : GrantedReserve s req metered fresh row s') : NewHold row := by
  obtain ⟨attribution, expiresAt, -, -, rfl⟩ := granted.row_eq
  exact ⟨rfl, rfl, rfl, rfl⟩

/-- The row is a grant of this request. -/
def Admitted (s : LedgerStore) (req : SharedPoolReserveRequest) (metered : Option MeteredGate)
    (row : SharedPoolRow) : Prop := ∃ fresh s', GrantedReserve s req metered fresh row s'

theorem reserveSharedCore_write {s s' : LedgerStore} {req : SharedPoolReserveRequest}
    {metered : Option MeteredGate} {fresh : SharedPoolReservationId} {out : CoreReserveOutcome}
    (done : s.reserveSharedCore req metered fresh = .ok (out, s')) :
    TableWrite (Admitted s req metered) (fun _ => False) s.reservations s'.reservations := by
  rcases reserveSharedCore_ok done with ⟨rfl, -⟩ | ⟨row, -, granted⟩
  · exact .same
  · exact .opened row (grantedReserve_newHold granted) ⟨fresh, s', granted⟩
      (insertReservation_ok granted.inserted).1

theorem identicalCharge_settled {existing : SharedPoolRow} {req : SharedPoolChargeRequest}
    {attribution : ExecutorAttribution}
    (identical : identicalCharge existing req attribution = true) : existing.state = .settled := by
  simp only [identicalCharge, Bool.and_eq_true, decide_eq_true_eq] at identical
  exact identical.2.1

theorem adoptWatermark_write (s : LedgerStore) {existing : SharedPoolRow}
    (mem : existing ∈ s.reservations) (settled : existing.state = .settled)
    (watermark : Option OffsetDateTime × Option (List String)) :
    TableWrite opens charges s.reservations (s.adoptWatermark existing watermark).reservations := by
  unfold adoptWatermark
  split
  · refine updateWhere_write s _ _ _ ?_
    intro r mem' selected
    simp only [decide_eq_true_eq] at selected
    rw [s.reservations.eq_of_key mem' mem selected.1]
    exact .mark _ _ settled
  · exact .same

/-- The columns of a watermark: its instant as it is, and its ids unless there are none. -/
theorem watermarkColumns_ok {w : SettleWatermark}
    {columns : Option OffsetDateTime × Option (List String)}
    (stored : watermarkColumns (some w) = .ok columns) :
    columns.1 = w.at_ ∧ columns.2.getD [] = w.messageIds := by
  simp only [watermarkColumns, bind_eq_ok_iff] at stored
  obtain ⟨stamp, written, same⟩ := stored
  cases same
  refine ⟨?_, ?_⟩
  · cases instant : w.at_ with
    | none =>
        rw [instant] at written
        cases written
        rfl
    | some at_ =>
        rw [instant] at written
        simp only [Option.mapM_some, rfc3339, Functor.map] at written
        split at written
        · cases written
          rfl
        · cases written
  · cases ids : w.messageIds with
    | nil => rfl
    | cons id rest => rfl

/-- A charge either replays, is refused, or writes its one row. -/
theorem chargeSharedWithWatermark_ok {s s' : LedgerStore} {req : SharedPoolChargeRequest}
    {watermark : Option SettleWatermark} {fresh : SharedPoolReservationId}
    {out : SharedPoolChargeOutcome}
    (done : s.chargeSharedWithWatermark req watermark fresh = .ok (out, s')) :
    (∃ existing columns, existing ∈ s.reservations ∧
        existing.uniqueKey = (req.poolId, req.principalId, req.idempotencyKey) ∧
        existing.state = .settled ∧ out = .alreadyCharged existing.toSharedPoolReservation ∧
        s' = s.adoptWatermark existing columns) ∨
      (s' = s ∧ ((∃ existing ∈ s.reservations,
          existing.uniqueKey = (req.poolId, req.principalId, req.idempotencyKey) ∧
          out = .keyConflict existing.toSharedPoolReservation) ∨ out = .noPool)) ∨
      ∃ attribution columns admission overrun known,
        (watermarkColumns watermark = .ok columns ∧ req.attribution.resolve = .ok attribution) ∧
        req.amount ≤ i64Max ∧ s.findByKey req.poolId req.principalId req.idempotencyKey = none ∧
        out = .charged (chargeRow req fresh attribution req.amount req.now columns).toSharedPoolReservation
          admission overrun known ∧
        s.insertReservation (chargeRow req fresh attribution req.amount req.now columns) = .ok s' := by
  simp only [chargeSharedWithWatermark, bind_eq_ok_iff, checkedI64, rfc3339] at done
  obtain ⟨columns, stored, attribution, resolved, amount, checked, done⟩ := done
  split at checked <;> cases checked
  rename_i fits
  split at done
  · rename_i existing found
    obtain ⟨mem, key⟩ := findByKey_some found
    split at done
    · rename_i identical
      cases done
      exact .inl ⟨existing, columns, mem, key, identicalCharge_settled identical, rfl, rfl⟩
    · cases done
      exact .inr (.inl ⟨rfl, .inl ⟨existing, mem, key, rfl⟩⟩)
  rename_i unheld
  split at done
  · cases done
    exact .inr (.inl ⟨rfl, .inr rfl⟩)
  split at done
  · cases done
  simp only [bind_eq_ok_iff] at done
  obtain ⟨now, stamped, next, inserted, done⟩ := done
  split at stamped <;> cases stamped
  cases done
  exact .inr (.inr
    ⟨attribution, columns, _, _, _, ⟨stored, resolved⟩, fits, unheld, rfl, inserted⟩)

theorem chargeSharedWithWatermark_write {s s' : LedgerStore} {req : SharedPoolChargeRequest}
    {watermark : Option SettleWatermark} {fresh : SharedPoolReservationId}
    {out : SharedPoolChargeOutcome}
    (done : s.chargeSharedWithWatermark req watermark fresh = .ok (out, s')) :
    TableWrite opens (fun row => row.uniqueKey = (req.poolId, req.principalId, req.idempotencyKey))
      s.reservations s'.reservations := by
  rcases chargeSharedWithWatermark_ok done with
    ⟨existing, columns, mem, -, settled, -, rfl⟩ | ⟨rfl, -⟩ |
    ⟨attribution, columns, _, _, _, -, -, -, -, inserted⟩
  · exact adoptWatermark_write s mem settled columns
  · exact .same
  · exact .charged _ ⟨rfl, rfl, rfl, rfl⟩ rfl (insertReservation_ok inserted).1

/-- A settle either finds the row closed or missing, or closes it. -/
theorem settleSharedCore_ok {s s' : LedgerStore} {id : SharedPoolReservationId}
    {actual : Option Nat} {usageKnown : Bool} {now : OffsetDateTime}
    {attribution : ExecutorAttribution} {watermark : Option SettleWatermark}
    {out : SharedPoolSettleOutcome}
    (done : s.settleSharedCore id actual usageKnown now attribution watermark = .ok (out, s')) :
    s' = s ∨ ∃ row supplied, ∃ columns : Option OffsetDateTime × Option (List String),
      s.getSharedReservation id = some row ∧ row.settleable = true ∧
      (watermarkColumns watermark = .ok columns ∧ attribution.resolve = .ok supplied) ∧
      s' = s.updateReservation id (SharedPoolRow.settle (actual.getD row.amount) usageKnown now
        supplied columns.1 columns.2) fun _ => rfl := by
  simp only [settleSharedCore, bind_eq_ok_iff, checkedI64, rfc3339] at done
  obtain ⟨columns, stored, supplied, resolved, done⟩ := done
  split at done
  · cases done
    exact .inl rfl
  rename_i row found
  split at done
  · rename_i settleable
    simp only [bind_eq_ok_iff] at done
    obtain ⟨value, checked, stamp, stamped, done⟩ := done
    split at checked <;> cases checked
    split at stamped <;> cases stamped
    cases done
    exact .inr ⟨row, supplied, columns, found, settleable, ⟨stored, resolved⟩, rfl⟩
  · cases done
    exact .inl rfl

theorem settleSharedCore_write {s s' : LedgerStore} {id : SharedPoolReservationId}
    {actual : Option Nat} {usageKnown : Bool} {now : OffsetDateTime}
    {attribution : ExecutorAttribution} {watermark : Option SettleWatermark}
    {out : SharedPoolSettleOutcome}
    (done : s.settleSharedCore id actual usageKnown now attribution watermark = .ok (out, s')) :
    TableWrite opens charges s.reservations s'.reservations := by
  rcases settleSharedCore_ok done with rfl | ⟨row, supplied, columns, found, settleable, -, rfl⟩
  · exact .same
  · exact updateReservation_write s found _ _ (.settle _ _ _ _ _ _ settleable)

theorem releaseShared_ok {s s' : LedgerStore} {id : SharedPoolReservationId}
    {now : OffsetDateTime} {out : SharedPoolReleaseOutcome}
    (done : s.releaseShared id now = .ok (out, s')) :
    s' = s ∨ ∃ row, s.getSharedReservation id = some row ∧ row.state = .active ∧
      s' = s.updateReservation id (SharedPoolRow.release now) fun _ => rfl := by
  simp only [releaseShared, rfc3339] at done
  split at done
  · cases done
    exact .inl rfl
  rename_i row found
  split at done
  · rename_i active
    simp only [bind_eq_ok_iff] at done
    obtain ⟨stamp, stamped, done⟩ := done
    split at stamped <;> cases stamped
    cases done
    exact .inr ⟨row, found, active, rfl⟩
  · cases done
    exact .inl rfl

/-- Releasing an unstarted hold is a release that also forgets its prompts. -/
theorem releaseAndForgetUnstartedShared_ok {s s' : LedgerStore} {id : SharedPoolReservationId}
    {now : OffsetDateTime} {out : SharedPoolReleaseOutcome}
    (done : s.releaseAndForgetUnstartedShared id now = .ok (out, s')) :
    s' = s ∨ ∃ row, s.getSharedReservation id = some row ∧ row.state = .active ∧
      s' = (s.updateReservation id (SharedPoolRow.release now) fun _ => rfl).forgetPrompts id := by
  simp only [releaseAndForgetUnstartedShared, rfc3339] at done
  split at done
  · cases done
    exact .inl rfl
  rename_i row found
  split at done
  · rename_i active
    simp only [bind_eq_ok_iff] at done
    obtain ⟨stamp, stamped, done⟩ := done
    split at stamped <;> cases stamped
    cases done
    exact .inr ⟨row, found, active, rfl⟩
  · cases done
    exact .inl rfl

theorem renewable_iff (row : SharedPoolRow) (principalId : PrincipalId) (sessionId : String)
    (now : OffsetDateTime) : renewable row principalId sessionId now = true ↔
      row.principalId = principalId ∧ row.sessionId = sessionId ∧ row.state = .active ∧
        now < row.expiresAt := by
  simp [renewable]

/-- A renew moves the expiry of a fresh hold, and may record a prompt for it. -/
theorem renewSharedForPrompt_ok {s s' : LedgerStore} {id : SharedPoolReservationId}
    {principalId : PrincipalId} {sessionId : String} {now : OffsetDateTime} {ttlSecs : Nat}
    {promptId : Option String} {out : SharedPoolRenewOutcome}
    (done : s.renewSharedForPrompt id principalId sessionId now ttlSecs promptId =
      .ok (out, s')) :
    (s' = s ∧ ∀ h, out ≠ .renewed h) ∨ ∃ row expiresAt, s.getSharedReservation id = some row ∧
      renewable row principalId sessionId now = true ∧
      expiryOf now ttlSecs = .ok expiresAt ∧
      out = .renewed (row.renew expiresAt).toSharedPoolReservation ∧
      s' = (s.updateReservation id (SharedPoolRow.renew expiresAt) fun _ => rfl).recordHoldPrompt?
        principalId sessionId promptId id := by
  simp only [renewSharedForPrompt, rfc3339] at done
  split at done
  · cases done
    exact .inl ⟨rfl, by simp⟩
  rename_i row found
  split at done
  · rename_i fresh
    simp only [bind_eq_ok_iff] at done
    obtain ⟨expiresAt, expiry, stamp, stamped, done⟩ := done
    split at stamped <;> cases stamped
    cases done
    exact .inr ⟨row, expiresAt, found, fresh, expiry, rfl, rfl⟩
  · cases done
    exact .inl ⟨rfl, by simp⟩

theorem renewSharedForPrompt_write {s s' : LedgerStore} {id : SharedPoolReservationId}
    {principalId : PrincipalId} {sessionId : String} {now : OffsetDateTime} {ttlSecs : Nat}
    {promptId : Option String} {out : SharedPoolRenewOutcome}
    (done : s.renewSharedForPrompt id principalId sessionId now ttlSecs promptId =
      .ok (out, s')) : TableWrite opens charges s.reservations s'.reservations := by
  rcases renewSharedForPrompt_ok done with ⟨rfl, -⟩ | ⟨row, expiresAt, found, fresh, -, -, rfl⟩
  · exact .same
  · have active := ((renewable_iff row principalId sessionId now).mp fresh).2.2.1
    rw [recordHoldPrompt?_reservations]
    exact updateReservation_write s found _ _ (.renew expiresAt active)

theorem recordSharedWatermark_write {s s' : LedgerStore} {id : SharedPoolReservationId}
    {watermark : SettleWatermark} {out : Unit}
    (done : s.recordSharedWatermark id watermark = .ok (out, s')) :
    TableWrite opens charges s.reservations s'.reservations := by
  simp only [recordSharedWatermark, bind_eq_ok_iff] at done
  obtain ⟨columns, -, done⟩ := done
  cases done
  refine updateWhere_write s _ _ _ ?_
  intro r mem selected
  simp only [decide_eq_true_eq] at selected
  exact .mark _ _ selected.2

theorem expireStaleSharedPoolReservations_ok {s s' : LedgerStore} {now : OffsetDateTime}
    {out : List SharedPoolReservation}
    (done : s.expireStaleSharedPoolReservations now = .ok (out, s')) :
    s' = s.updateWhere (stale now) (resolveStale now) (resolveStale_ident now) := by
  simp only [expireStaleSharedPoolReservations, rfc3339, bind_eq_ok_iff] at done
  obtain ⟨stamp, stamped, done⟩ := done
  split at stamped <;> cases stamped
  cases done
  rfl

theorem resolveStale_move {now : OffsetDateTime} {r : SharedPoolRow} (active : r.state = .active) :
    RowMove r (resolveStale now r) := by
  unfold resolveStale
  split
  · exact .book now active
  · exact .expire now active

theorem expireStaleSharedPoolReservations_write {s s' : LedgerStore} {now : OffsetDateTime}
    {out : List SharedPoolReservation}
    (done : s.expireStaleSharedPoolReservations now = .ok (out, s')) :
    TableWrite opens charges s.reservations s'.reservations := by
  rw [expireStaleSharedPoolReservations_ok done]
  refine updateWhere_write s _ _ _ ?_
  intro r mem selected
  simp only [stale, decide_eq_true_eq] at selected
  exact resolveStale_move selected.1

theorem settleOrphanedGatewayHolds_ok {s s' : LedgerStore} {bootPrefixKeep : String}
    {now : OffsetDateTime} {out : List SharedPoolReservation}
    (done : s.settleOrphanedGatewayHolds bootPrefixKeep now = .ok (out, s')) :
    s' = s ∨ s' = s.updateWhere (orphaned bootPrefixKeep) (SharedPoolRow.book now) fun _ => rfl := by
  simp only [settleOrphanedGatewayHolds, rfc3339] at done
  split at done
  · simp only [bind_eq_ok_iff] at done
    obtain ⟨stamp, stamped, done⟩ := done
    split at stamped <;> cases stamped
    cases done
    exact .inr rfl
  · cases done
    exact .inl rfl

theorem settleOrphanedGatewayHolds_write {s s' : LedgerStore} {bootPrefixKeep : String}
    {now : OffsetDateTime} {out : List SharedPoolReservation}
    (done : s.settleOrphanedGatewayHolds bootPrefixKeep now = .ok (out, s')) :
    TableWrite opens charges s.reservations s'.reservations := by
  rcases settleOrphanedGatewayHolds_ok done with rfl | rfl
  · exact .same
  · refine updateWhere_write s _ _ _ ?_
    intro r mem selected
    simp only [orphaned, Bool.and_eq_true, decide_eq_true_eq] at selected
    exact .book now selected.1.1

theorem ingestPoolProviderSnapshot_reservations {s s' : LedgerStore} {poolId : PoolId}
    {observedAt : OffsetDateTime} {validUntil : Option OffsetDateTime} {reading : GaugeReading}
    {confidence : Confidence} {now : OffsetDateTime} {out : Unit}
    (done : s.ingestPoolProviderSnapshot poolId observedAt validUntil reading confidence now =
      .ok (out, s')) : s'.reservations = s.reservations := by
  simp only [ingestPoolProviderSnapshot] at done
  split at done
  · cases done
  simp only [bind_eq_ok_iff] at done
  obtain ⟨-, -, done⟩ := done
  split at done
  · cases done
  split at done
  · cases done
  split at done
  · cases done
    rfl
  simp only [bind_eq_ok_iff] at done
  obtain ⟨_, -, _, -, _, -, done⟩ := done
  cases done
  rfl

theorem releaseShared_write {s s' : LedgerStore} {id : SharedPoolReservationId}
    {now : OffsetDateTime} {out : SharedPoolReleaseOutcome}
    (done : s.releaseShared id now = .ok (out, s')) :
    TableWrite opens charges s.reservations s'.reservations := by
  rcases releaseShared_ok done with rfl | ⟨row, found, active, rfl⟩
  · exact .same
  · exact updateReservation_write s found _ _ (.release now active)

theorem releaseAndForgetUnstartedShared_write {s s' : LedgerStore} {id : SharedPoolReservationId}
    {now : OffsetDateTime} {out : SharedPoolReleaseOutcome}
    (done : s.releaseAndForgetUnstartedShared id now = .ok (out, s')) :
    TableWrite opens charges s.reservations s'.reservations := by
  rcases releaseAndForgetUnstartedShared_ok done with rfl | ⟨row, found, active, rfl⟩
  · exact .same
  · exact updateReservation_write s found (SharedPoolRow.release now) (fun _ => rfl)
      (.release now active)

theorem reserveSharedMeteredForPrompt_write {s s' : LedgerStore} {req : SharedPoolReserveRequest}
    {gate : MeteredGate} {promptId : Option String} {fresh : SharedPoolReservationId}
    {out : CoreReserveOutcome}
    (done : s.reserveSharedMeteredForPrompt req gate promptId fresh = .ok (out, s')) :
    TableWrite (Admitted s req (some gate)) (fun _ => False) s.reservations s'.reservations := by
  obtain ⟨mid, reserved, rfl | ⟨prompt, h, -, -, rfl⟩⟩ := reserveSharedMeteredForPrompt_ok done
  · exact reserveSharedCore_write reserved
  · rw [recordHoldPrompt_reservations]
    exact reserveSharedCore_write reserved

end Writes

end LedgerStore

/-! ## Runs -/

/-- The shared-pool operations; each carries the arguments of one call, with the
UUID the call would draw. -/
inductive SharedPoolOp where
  | ensurePool (poolId : PoolId) (unit : QuotaUnit) (capacity : Nat) (now : OffsetDateTime)
  | reserveShared (req : SharedPoolReserveRequest) (fresh : SharedPoolReservationId)
  | reserveSharedMetered (req : SharedPoolReserveRequest) (gate : MeteredGate)
      (promptId : Option String) (fresh : SharedPoolReservationId)
  | chargeShared (req : SharedPoolChargeRequest) (watermark : Option SettleWatermark)
      (fresh : SharedPoolReservationId)
  | settleShared (id : SharedPoolReservationId) (actual : Option Nat) (now : OffsetDateTime)
  | settleSharedAttributed (id : SharedPoolReservationId) (actual : Option Nat)
      (now : OffsetDateTime) (attribution : ExecutorAttribution)
  | settleSharedWithWatermark (id : SharedPoolReservationId) (actual : Option Nat)
      (now : OffsetDateTime) (attribution : ExecutorAttribution)
      (watermark : Option SettleWatermark)
  | settleSharedMarked (id : SharedPoolReservationId) (amount : Nat) (usageKnown : Bool)
      (now : OffsetDateTime)
  | releaseShared (id : SharedPoolReservationId) (now : OffsetDateTime)
  | releaseAndForgetUnstartedShared (id : SharedPoolReservationId) (now : OffsetDateTime)
  | renewShared (id : SharedPoolReservationId) (principalId : PrincipalId) (sessionId : String)
      (now : OffsetDateTime) (ttlSecs : Nat) (promptId : Option String)
  | recordSharedWatermark (id : SharedPoolReservationId) (watermark : SettleWatermark)
  | recordHoldPrompt (principalId : PrincipalId) (sessionId promptId : String)
      (reservation : SharedPoolReservationId)
  | expireStaleSharedPoolReservations (now : OffsetDateTime)
  | settleOrphanedGatewayHolds (bootPrefixKeep : String) (now : OffsetDateTime)
  | ingestPoolProviderSnapshot (poolId : PoolId) (observedAt : OffsetDateTime)
      (validUntil : Option OffsetDateTime) (reading : GaugeReading) (confidence : Confidence)
      (now : OffsetDateTime)

/-- One atomic operation; a failed one changes nothing. -/
def SharedPoolOp.apply (s : LedgerStore) : SharedPoolOp → LedgerStore
  | .ensurePool poolId unit capacity now => commit s (s.ensurePool poolId unit capacity now)
  | .reserveShared req fresh => commit s (s.reserveShared req fresh)
  | .reserveSharedMetered req gate promptId fresh =>
      commit s (s.reserveSharedMeteredForPrompt req gate promptId fresh)
  | .chargeShared req watermark fresh =>
      commit s (s.chargeSharedWithWatermark req watermark fresh)
  | .settleShared id actual now => commit s (s.settleShared id actual now)
  | .settleSharedAttributed id actual now attribution =>
      commit s (s.settleSharedAttributed id actual now attribution)
  | .settleSharedWithWatermark id actual now attribution watermark =>
      commit s (s.settleSharedWithWatermark id actual now attribution watermark)
  | .settleSharedMarked id amount usageKnown now =>
      commit s (s.settleSharedMarked id amount usageKnown now)
  | .releaseShared id now => commit s (s.releaseShared id now)
  | .releaseAndForgetUnstartedShared id now =>
      commit s (s.releaseAndForgetUnstartedShared id now)
  | .renewShared id principalId sessionId now ttlSecs promptId =>
      commit s (s.renewSharedForPrompt id principalId sessionId now ttlSecs promptId)
  | .recordSharedWatermark id watermark => commit s (s.recordSharedWatermark id watermark)
  | .recordHoldPrompt principalId sessionId promptId reservation =>
      s.recordHoldPrompt principalId sessionId promptId reservation
  | .expireStaleSharedPoolReservations now => commit s (s.expireStaleSharedPoolReservations now)
  | .settleOrphanedGatewayHolds bootPrefixKeep now =>
      commit s (s.settleOrphanedGatewayHolds bootPrefixKeep now)
  | .ingestPoolProviderSnapshot poolId observedAt validUntil reading confidence now =>
      commit s (s.ingestPoolProviderSnapshot poolId observedAt validUntil reading confidence now)

/-- The request a reserve makes. -/
def SharedPoolOp.reserves : SharedPoolOp → Option (SharedPoolReserveRequest × Option MeteredGate)
  | .reserveShared req _ => some (req, none)
  | .reserveSharedMetered req gate _ _ => some (req, some gate)
  | _ => none

/-- The row is a grant of the operation's own request. -/
def SharedPoolOp.Opens (op : SharedPoolOp) (s : LedgerStore) (row : SharedPoolRow) : Prop :=
  ∃ req metered, op.reserves = some (req, metered) ∧ s.Admitted req metered row

/-- The row is the charge of the operation's own request. -/
def SharedPoolOp.Charges (op : SharedPoolOp) (row : SharedPoolRow) : Prop :=
  ∃ req watermark fresh, op = .chargeShared req watermark fresh ∧
    row.uniqueKey = (req.poolId, req.principalId, req.idempotencyKey)

namespace LedgerStore

theorem commit_write {opens charges : SharedPoolRow → Prop} {α : Type} {s : LedgerStore} {tx : Except LedgerError (α × LedgerStore)}
    (writes : ∀ a next, tx = .ok (a, next) → TableWrite opens charges s.reservations next.reservations) :
    TableWrite opens charges s.reservations (commit s tx).reservations := by
  cases tx with
  | error e => exact .same
  | ok done => exact writes done.1 done.2 rfl

/-- Every operation writes the reservations table in one of the four ways. -/
theorem apply_write (s : LedgerStore) (op : SharedPoolOp) :
    TableWrite (op.Opens s) op.Charges s.reservations (op.apply s).reservations := by
  cases op with
  | ensurePool poolId unit capacity now =>
      refine commit_write fun pool next done => ?_
      rw [ensurePool_reservations done]
      exact .same
  | reserveShared req fresh =>
      refine (commit_write fun _ _ => reserveSharedCore_write).mono (fun row admitted => ?_)
        fun _ => False.elim
      exact ⟨req, none, rfl, admitted⟩
  | reserveSharedMetered req gate promptId fresh =>
      refine (commit_write fun _ _ => reserveSharedMeteredForPrompt_write).mono
        (fun row admitted => ?_) fun _ => False.elim
      exact ⟨req, some gate, rfl, admitted⟩
  | chargeShared req watermark fresh =>
      refine (commit_write fun _ _ => chargeSharedWithWatermark_write).mono (fun _ known => known)
        fun row known => ?_
      exact ⟨req, watermark, fresh, rfl, known⟩
  | settleShared id actual now => exact commit_write fun _ _ => settleSharedCore_write
  | settleSharedAttributed id actual now attribution =>
      exact commit_write fun _ _ => settleSharedCore_write
  | settleSharedWithWatermark id actual now attribution watermark =>
      exact commit_write fun _ _ => settleSharedCore_write
  | settleSharedMarked id amount usageKnown now =>
      exact commit_write fun _ _ => settleSharedCore_write
  | releaseShared id now => exact commit_write fun _ _ => releaseShared_write
  | releaseAndForgetUnstartedShared id now =>
      exact commit_write fun _ _ => releaseAndForgetUnstartedShared_write
  | renewShared id principalId sessionId now ttlSecs promptId =>
      exact commit_write fun _ _ => renewSharedForPrompt_write
  | recordSharedWatermark id watermark => exact commit_write fun _ _ => recordSharedWatermark_write
  | recordHoldPrompt principalId sessionId promptId reservation => exact .same
  | expireStaleSharedPoolReservations now =>
      exact commit_write fun _ _ => expireStaleSharedPoolReservations_write
  | settleOrphanedGatewayHolds bootPrefixKeep now =>
      exact commit_write fun _ _ => settleOrphanedGatewayHolds_write
  | ingestPoolProviderSnapshot poolId observedAt validUntil reading confidence now =>
      refine commit_write fun _ next done => ?_
      rw [ingestPoolProviderSnapshot_reservations done]
      exact .same

/-! ## What the operations leave alone -/

/-- The records only a prune writes. -/
structure Frame (s s' : LedgerStore) : Prop where
  chargeFloor : s'.chargeFloor = s.chargeFloor
  retentionHorizon : s'.retentionHorizon = s.retentionHorizon
  quotaPools : ∀ pool ∈ s'.quotaPools, pool ∈ s.quotaPools

theorem Frame.refl (s : LedgerStore) : Frame s s := ⟨rfl, rfl, fun _ mem => mem⟩

/-- A pool is only ever added, with the unit that was asked for. -/
theorem ensurePool_ok {s s' : LedgerStore} {poolId : PoolId} {unit : QuotaUnit}
    {capacity : Nat} {now : OffsetDateTime} {pool : QuotaPool}
    (done : s.ensurePool poolId unit capacity now = .ok (pool, s')) :
    s'.chargeFloor = s.chargeFloor ∧ s'.retentionHorizon = s.retentionHorizon ∧
      s'.holdPrompts = s.holdPrompts ∧
      ∀ pool' ∈ s'.quotaPools, pool' ∈ s.quotaPools ∨ pool'.poolId = poolId ∧ pool'.unit = unit := by
  simp only [ensurePool, bind_eq_ok_iff] at done
  obtain ⟨stamp, -, capacity, -, done⟩ := done
  split at done
  · cases done
    exact ⟨rfl, rfl, rfl, fun _ mem => .inl mem⟩
  · split at done
    · cases done
    · rename_i pools inserted
      cases done
      refine ⟨rfl, rfl, rfl, ?_⟩
      intro pool' mem
      rcases (Table.mem_insert? inserted pool').mp mem with old | rfl
      · exact .inl old
      · exact .inr ⟨rfl, rfl⟩

theorem insertReservation_frame {s s' : LedgerStore} {row : SharedPoolRow}
    (done : s.insertReservation row = .ok s') : Frame s s' := by
  obtain ⟨-, -, pools, -, floor, horizon, -⟩ := insertReservation_ok done
  exact ⟨floor, horizon, fun _ mem => pools ▸ mem⟩

theorem reserveSharedCore_frame {s s' : LedgerStore} {req : SharedPoolReserveRequest}
    {metered : Option MeteredGate} {fresh : SharedPoolReservationId} {out : CoreReserveOutcome}
    (done : s.reserveSharedCore req metered fresh = .ok (out, s')) : Frame s s' := by
  rcases reserveSharedCore_ok done with ⟨rfl, -⟩ | ⟨row, -, granted⟩
  · exact .refl s'
  · exact insertReservation_frame granted.inserted

theorem reserveSharedMeteredForPrompt_frame {s s' : LedgerStore} {req : SharedPoolReserveRequest}
    {gate : MeteredGate} {promptId : Option String} {fresh : SharedPoolReservationId}
    {out : CoreReserveOutcome}
    (done : s.reserveSharedMeteredForPrompt req gate promptId fresh = .ok (out, s')) :
    Frame s s' := by
  obtain ⟨mid, reserved, rfl | ⟨prompt, h, -, -, rfl⟩⟩ := reserveSharedMeteredForPrompt_ok done
  · exact reserveSharedCore_frame reserved
  · have frame := reserveSharedCore_frame reserved
    exact ⟨frame.chargeFloor, frame.retentionHorizon, frame.quotaPools⟩

theorem chargeSharedWithWatermark_frame {s s' : LedgerStore} {req : SharedPoolChargeRequest}
    {watermark : Option SettleWatermark} {fresh : SharedPoolReservationId}
    {out : SharedPoolChargeOutcome}
    (done : s.chargeSharedWithWatermark req watermark fresh = .ok (out, s')) : Frame s s' := by
  rcases chargeSharedWithWatermark_ok done with
    ⟨existing, columns, -, -, -, -, rfl⟩ | ⟨rfl, -⟩ | ⟨_, _, _, _, _, -, -, -, -, inserted⟩
  · unfold adoptWatermark
    split
    · exact ⟨rfl, rfl, fun _ mem => mem⟩
    · exact .refl s
  · exact .refl s'
  · exact insertReservation_frame inserted

theorem settleSharedCore_frame {s s' : LedgerStore} {id : SharedPoolReservationId}
    {actual : Option Nat} {usageKnown : Bool} {now : OffsetDateTime}
    {attribution : ExecutorAttribution} {watermark : Option SettleWatermark}
    {out : SharedPoolSettleOutcome}
    (done : s.settleSharedCore id actual usageKnown now attribution watermark = .ok (out, s')) :
    Frame s s' := by
  rcases settleSharedCore_ok done with rfl | ⟨row, supplied, columns, -, -, -, rfl⟩
  · exact .refl s'
  · exact ⟨rfl, rfl, fun _ mem => mem⟩

theorem renewSharedForPrompt_frame {s s' : LedgerStore} {id : SharedPoolReservationId}
    {principalId : PrincipalId} {sessionId : String} {now : OffsetDateTime} {ttlSecs : Nat}
    {promptId : Option String} {out : SharedPoolRenewOutcome}
    (done : s.renewSharedForPrompt id principalId sessionId now ttlSecs promptId =
      .ok (out, s')) : Frame s s' := by
  rcases renewSharedForPrompt_ok done with ⟨rfl, -⟩ | ⟨row, expiresAt, -, -, -, -, rfl⟩
  · exact .refl s'
  · cases promptId <;> exact ⟨rfl, rfl, fun _ mem => mem⟩

theorem ingestPoolProviderSnapshot_frame {s s' : LedgerStore} {poolId : PoolId}
    {observedAt : OffsetDateTime} {validUntil : Option OffsetDateTime} {reading : GaugeReading}
    {confidence : Confidence} {now : OffsetDateTime} {out : Unit}
    (done : s.ingestPoolProviderSnapshot poolId observedAt validUntil reading confidence now =
      .ok (out, s')) : Frame s s' := by
  simp only [ingestPoolProviderSnapshot] at done
  split at done
  · cases done
  simp only [bind_eq_ok_iff] at done
  obtain ⟨-, -, done⟩ := done
  split at done
  · cases done
  split at done
  · cases done
  split at done
  · cases done
    exact .refl s
  simp only [bind_eq_ok_iff] at done
  obtain ⟨_, -, _, -, _, -, done⟩ := done
  cases done
  exact ⟨rfl, rfl, fun _ mem => mem⟩

/-- Every operation but the creation of a pool. -/
theorem apply_frame (s : LedgerStore) (op : SharedPoolOp) :
    Frame s (op.apply s) ∨ ∃ poolId unit capacity now, op = .ensurePool poolId unit capacity now := by
  cases op with
  | ensurePool poolId unit capacity now => exact .inr ⟨poolId, unit, capacity, now, rfl⟩
  | reserveShared req fresh =>
      exact .inl (commit_of (.refl s) fun _ _ => reserveSharedCore_frame)
  | reserveSharedMetered req gate promptId fresh =>
      exact .inl (commit_of (.refl s) fun _ _ => reserveSharedMeteredForPrompt_frame)
  | chargeShared req watermark fresh =>
      exact .inl (commit_of (.refl s) fun _ _ => chargeSharedWithWatermark_frame)
  | settleShared id actual now =>
      exact .inl (commit_of (.refl s) fun _ _ => settleSharedCore_frame)
  | settleSharedAttributed id actual now attribution =>
      exact .inl (commit_of (.refl s) fun _ _ => settleSharedCore_frame)
  | settleSharedWithWatermark id actual now attribution watermark =>
      exact .inl (commit_of (.refl s) fun _ _ => settleSharedCore_frame)
  | settleSharedMarked id amount usageKnown now =>
      exact .inl (commit_of (.refl s) fun _ _ => settleSharedCore_frame)
  | releaseShared id now =>
      refine .inl (commit_of (.refl s) fun _ _ done => ?_)
      rcases releaseShared_ok done with rfl | ⟨row, -, -, rfl⟩
      · exact .refl _
      · exact ⟨rfl, rfl, fun _ mem => mem⟩
  | releaseAndForgetUnstartedShared id now =>
      refine .inl (commit_of (.refl s) fun _ _ done => ?_)
      rcases releaseAndForgetUnstartedShared_ok done with rfl | ⟨row, -, -, rfl⟩
      · exact .refl _
      · exact ⟨rfl, rfl, fun _ mem => mem⟩
  | renewShared id principalId sessionId now ttlSecs promptId =>
      exact .inl (commit_of (.refl s) fun _ _ => renewSharedForPrompt_frame)
  | recordSharedWatermark id watermark =>
      refine .inl (commit_of (.refl s) fun _ _ done => ?_)
      simp only [recordSharedWatermark, bind_eq_ok_iff] at done
      obtain ⟨columns, -, done⟩ := done
      cases done
      exact ⟨rfl, rfl, fun _ mem => mem⟩
  | recordHoldPrompt principalId sessionId promptId reservation =>
      exact .inl ⟨rfl, rfl, fun _ mem => mem⟩
  | expireStaleSharedPoolReservations now =>
      refine .inl (commit_of (.refl s) fun _ _ done => ?_)
      rw [expireStaleSharedPoolReservations_ok done]
      exact ⟨rfl, rfl, fun _ mem => mem⟩
  | settleOrphanedGatewayHolds bootPrefixKeep now =>
      refine .inl (commit_of (.refl s) fun _ _ done => ?_)
      rcases settleOrphanedGatewayHolds_ok done with rfl | rfl
      · exact .refl _
      · exact ⟨rfl, rfl, fun _ mem => mem⟩
  | ingestPoolProviderSnapshot poolId observedAt validUntil reading confidence now =>
      exact .inl (commit_of (.refl s) fun _ _ => ingestPoolProviderSnapshot_frame)

theorem apply_retentionHorizon (s : LedgerStore) (op : SharedPoolOp) :
    (op.apply s).retentionHorizon = s.retentionHorizon := by
  rcases apply_frame s op with frame | ⟨poolId, unit, capacity, now, rfl⟩
  · exact frame.retentionHorizon
  · exact commit_of (P := fun s' => s'.retentionHorizon = s.retentionHorizon) rfl
      fun _ _ done => (ensurePool_ok done).2.1

end LedgerStore

end LibraGovernor
