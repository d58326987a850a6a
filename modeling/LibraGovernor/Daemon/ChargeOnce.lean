/-
# LibraGovernor.Daemon.ChargeOnce -- a charge and its retries

A client repeats a charge until it is answered, over months and across prunes.  What
an attempt books is found again by its key in whatever pool it landed in; only a prune
can take that memory away.  For an event time the retention horizon stands in for it:
once the event's own period is pruned the charge is refused.  A charge without an event
time has no such guard, and neither has one that was clamped to an earlier period or is
retried by a clock that has gone back before the event.

`Remembered` is the condition on each step that excludes exactly these, and
`charged_at_most_once` the result over every run that meets it.
-/
import LibraGovernor.Daemon.Charge
import LibraGovernor.Daemon.GatewayCap
import LibraGovernor.Ledger.Lifecycle

namespace LibraGovernor

open Relational Transaction Transition

set_option autoImplicit false

/-! ## Runs -/

/-- What happens between the attempts of one charge. -/
inductive RetryOp where
  | attempt (rt : SharedBudgetRuntime) (fresh : SharedPoolReservationId)
  | prune (request : PruneRequest)
  | other (op : SharedPoolOp)

/-- A runtime that reads one fixed budget file. -/
def SharedBudgetRuntime.reading (rt : SharedBudgetRuntime) (state : SharedBudgetFileState) :
    SharedBudgetRuntime := { rt with state }

def RetryOp.apply (state : SharedBudgetFileState) (req : ChargeAgent) (s : LedgerStore) :
    RetryOp → LedgerStore
  | .attempt rt fresh => (charge (rt.reading state) req fresh s).2
  | .prune request => (pruneClosedPeriods request s).2
  | .other op => op.apply s

/-- All settled spend of the ledger. -/
def LedgerStore.spend (s : LedgerStore) : Nat := s.reservations.sum SharedPoolRow.settledPart

/-- What an attempt adds to settled spend. -/
def bookedBy (state : SharedBudgetFileState) (req : ChargeAgent) (s : LedgerStore) : RetryOp → Nat
  | .attempt rt fresh => (RetryOp.apply state req s (.attempt rt fresh)).spend - s.spend
  | _ => 0

/-! ## The condition -/

/-- The period of the request's event time. -/
def eventPeriod (state : SharedBudgetFileState) (req : ChargeAgent) : Option Period :=
  match state, eventInstant req.eventTime with
  | .valid cfg, .ok (some at_) => (periodAt cfg at_).toOption
  | _, _ => none

/-- The period an attempt takes for the current one. -/
def currentPeriod (state : SharedBudgetFileState) (now : OffsetDateTime) : Option Period :=
  match state with
  | .valid cfg => (periodAt cfg now).toOption
  | _ => none

/-- A row of the request. -/
def ChargeAgent.Carries (req : ChargeAgent) (r : SharedPoolRow) : Prop :=
  ∃ lane, budgetLane req.sessionId req.provider = .ok lane ∧ r.principalId = principal ∧
    r.idempotencyKey = chargeKey lane req.idempotencyKey ∧
    startsWith r.poolId.val ownerPoolPrefix = true

/-- The step keeps the request's memory.  A prune takes a row of the request only when
the request has an event time and the row's pool is not before the event's period; and no
attempt runs by a clock that is before the event's period once that period is pruned. -/
def Remembered (state : SharedBudgetFileState) (req : ChargeAgent) (s : LedgerStore) :
    RetryOp → Prop
  | .attempt rt _ => ∀ target current, eventPeriod state req = some target →
      currentPeriod state rt.now = some current → s.PrunedThrough target.poolId →
      target.poolId.val ≤ current.poolId.val
  | .prune request => ∀ r ∈ s.reservations, req.Carries r → r.poolId ∈ s.removedPools request →
      ∃ target, eventPeriod state req = some target ∧ target.poolId.val ≤ r.poolId.val
  | .other _ => True

/-! ## One step -/

section Spend

theorem Remarked.settledPart {r r' : SharedPoolRow} (same : Remarked r r') :
    r'.settledPart = r.settledPart := by
  obtain rfl | ⟨-, ts, ids, rfl⟩ := same
  · rfl
  · rfl

theorem Unbooked.spend {s s' : LedgerStore} (same : Unbooked s s') : s'.spend = s.spend := by
  obtain ⟨f, keeps, rows, marks⟩ := same.rows
  rw [LedgerStore.spend, LedgerStore.spend, rows, Table.sum_update]
  exact Table.sum_congr _ fun r mem => (marks r mem).settledPart

theorem Booked.spend {s s' : LedgerStore} {row : SharedPoolRow} (one : Booked s row s') :
    s'.spend = s.spend + row.settledPart := Table.sum_insert? one.inserted _

theorem HoldsKey.of_ident {key : String} {s s' : LedgerStore} (holds : HoldsKey key s)
    (kept : ∀ r ∈ s.reservations, ∃ r' ∈ s'.reservations, r'.ident = r.ident) :
    HoldsKey key s' := by
  obtain ⟨r, mem, mine, here, owned⟩ := holds
  obtain ⟨r', mem', same⟩ := kept r mem
  simp only [SharedPoolRow.ident, SharedPoolRow.uniqueKey, Prod.mk.injEq] at same
  obtain ⟨-, pool, principal_, key_⟩ := same
  exact ⟨r', mem', principal_.trans mine, key_.trans here, pool ▸ owned⟩

theorem Unbooked.keeps_ident {s s' : LedgerStore} (same : Unbooked s s') :
    ∀ r ∈ s.reservations, ∃ r' ∈ s'.reservations, r'.ident = r.ident := by
  obtain ⟨f, keeps, rows, marks⟩ := same.rows
  intro r mem
  rw [rows]
  exact ⟨f r, (Table.mem_update _ _ _ _).mpr ⟨r, mem, rfl⟩, (marks r mem).ident⟩

theorem prunedThrough_of_horizon {s s' : LedgerStore}
    (same : s'.retentionHorizon = s.retentionHorizon) {poolId : PoolId}
    (reached : s.PrunedThrough poolId) : s'.PrunedThrough poolId := by
  obtain ⟨h, found, le⟩ := reached
  refine ⟨h, ?_, le⟩
  rw [LedgerStore.sharedRetentionHorizon, same]
  exact found

end Spend

/-- The request's own memory: a row under its key, or a horizon past its event. -/
def Memory (state : SharedBudgetFileState) (req : ChargeAgent) (s : LedgerStore) : Prop :=
  (∃ lane, budgetLane req.sessionId req.provider = .ok lane ∧
      HoldsKey (chargeKey lane req.idempotencyKey) s) ∨
    ∃ target, eventPeriod state req = some target ∧ s.PrunedThrough target.poolId

/-- What has been booked so far is within the request, and once something is booked the
ledger remembers. -/
structure OnceInv (state : SharedBudgetFileState) (req : ChargeAgent) (booked : Nat)
    (s : LedgerStore) : Prop where
  within : booked ≤ req.amountUsdCents
  memory : 0 < booked → Memory state req s

section Steps

variable {state : SharedBudgetFileState} {req : ChargeAgent} {s : LedgerStore}

/-- A remembered request books nothing more. -/
theorem attempt_remembered {rt : SharedBudgetRuntime} {fresh : SharedPoolReservationId}
    (ok : Remembered state req s (.attempt rt fresh)) (memory : Memory state req s)
    {lane : String} (named : budgetLane req.sessionId req.provider = .ok lane)
    {row : SharedPoolRow} (new : NewBooking (rt.reading state) state (req.onLane lane) s row) :
    False := by
  obtain ⟨lane', named', holds⟩ | ⟨target, event, reached⟩ := memory
  · rw [named] at named'
    cases named'
    exact new.free holds
  · obtain ⟨cfg, instant, current, rfl, parsed, now, chosen⟩ := new.pool
    -- The event's period is pruned, so it cannot be ahead of the clock.
    have parsed : eventInstant req.eventTime = .ok instant := parsed
    have now : periodAt cfg rt.now = .ok current := now
    simp only [eventPeriod, parsed] at event
    cases instant with
    | none => cases event
    | some at_ =>
        obtain ⟨target', found, retained⟩ := chosen.retained at_ rfl
        simp only [found, Except.toOption, Option.some.injEq] at event
        subst event
        have behind := ok target' current (by simp [eventPeriod, parsed, found, Except.toOption])
          (by simp [currentPeriod, now, Except.toOption]) reached
        rcases retained with ahead | unreached
        · exact absurd ahead (not_lt.mpr behind)
        · exact unreached reached

theorem attempt_once {rt : SharedBudgetRuntime} {fresh : SharedPoolReservationId} {booked : Nat}
    (ok : Remembered state req s (.attempt rt fresh)) (inv : OnceInv state req booked s) :
    OnceInv state req (booked + bookedBy state req s (.attempt rt fresh))
      (RetryOp.apply state req s (.attempt rt fresh)) := by
  simp only [bookedBy, RetryOp.apply]
  obtain same | ⟨lane, named, ⟨unbooked, -⟩ | ⟨row, outcome, one, new, -⟩⟩ :=
    charge_post (rt.reading state) req fresh s
  · rw [same, Nat.sub_self]
    exact inv
  · rw [unbooked.spend, Nat.sub_self]
    refine ⟨inv.within, fun some_ => ?_⟩
    obtain ⟨lane', named', holds⟩ | ⟨target, event, reached⟩ := inv.memory some_
    · exact .inl ⟨lane', named', holds.of_ident unbooked.keeps_ident⟩
    · exact .inr ⟨target, event, prunedThrough_of_horizon unbooked.frame.retentionHorizon reached⟩
  · -- A new row: nothing had been booked before.
    have nothing : booked = 0 := by
      by_contra some_
      exact attempt_remembered ok (inv.memory (Nat.pos_of_ne_zero some_)) named new
    have part : row.settledPart = req.amountUsdCents := by
      simp only [SharedPoolRow.settledPart, new.charged.2.1, new.charged.2.2, if_true]
      rfl
    rw [one.spend, part, nothing]
    refine ⟨by omega, fun _ => .inl ⟨lane, named, row, ?_, new.principalId, new.key, ?_⟩⟩
    · exact (Table.mem_insert? one.inserted row).mpr (.inr rfl)
    · obtain ⟨cfg, event, current, -, -, -, chosen⟩ := new.pool
      exact chosen.owned

theorem prune_once {request : PruneRequest} {booked : Nat}
    (ok : Remembered state req s (.prune request)) (inv : OnceInv state req booked s) :
    OnceInv state req booked (RetryOp.apply state req s (.prune request)) := by
  have pruned := LedgerStore.pruneClosedPeriods_prunedBy s request
  refine ⟨inv.within, fun some_ => ?_⟩
  obtain ⟨lane, named, r, mem, mine, here, owned⟩ | ⟨target, event, reached⟩ := inv.memory some_
  · by_cases gone : r.poolId ∈ s.removedPools request
    · obtain ⟨target, event, le⟩ := ok r mem ⟨lane, named, mine, here, owned⟩ gone
      obtain ⟨h, found, past⟩ := pruned.reached r.poolId gone
      exact .inr ⟨target, event, h, found, le_trans le past⟩
    · exact .inl ⟨lane, named, r, (pruned.mem r).mpr ⟨mem, gone⟩, mine, here, owned⟩
  · exact .inr ⟨target, event, pruned.kept _ reached⟩

theorem other_once (op : SharedPoolOp) {booked : Nat} (inv : OnceInv state req booked s) :
    OnceInv state req booked (RetryOp.apply state req s (.other op)) := by
  refine ⟨inv.within, fun some_ => ?_⟩
  obtain ⟨lane, named, holds⟩ | ⟨target, event, reached⟩ := inv.memory some_
  · refine .inl ⟨lane, named, holds.of_ident fun r mem => ?_⟩
    obtain ⟨r', mem', evolves⟩ := (LedgerStore.apply_write s op).evolves r mem
    exact ⟨r', mem', evolves.ident⟩
  · exact .inr ⟨target, event, prunedThrough_of_horizon (LedgerStore.apply_retentionHorizon s op) reached⟩

theorem retry_once (op : RetryOp) (booked : Nat) (ok : Remembered state req s op)
    (inv : OnceInv state req booked s) :
    OnceInv state req (booked + bookedBy state req s op) (RetryOp.apply state req s op) := by
  cases op with
  | attempt rt fresh => exact attempt_once ok inv
  | prune request => exact prune_once ok inv
  | other op => exact other_once op inv

end Steps

/-- **A charge is booked at most once**, in every run that keeps its memory: all its
attempts together add no more than its amount to settled spend. -/
theorem charged_at_most_once (state : SharedBudgetFileState) (req : ChargeAgent) (s : LedgerStore)
    (ops : List RetryOp)
    (remembered : Along (RetryOp.apply state req) (Remembered state req) s ops) :
    total (RetryOp.apply state req) (bookedBy state req) s ops ≤ req.amountUsdCents := by
  have start : OnceInv state req 0 s :=
    ⟨Nat.zero_le _, fun some_ => absurd some_ (Nat.lt_irrefl 0)⟩
  have inv := run_accumulates (fun s op booked ok => retry_once op booked ok) remembered start
  simpa using inv.within

/-! ## Poles -/

def hooksConfig : SharedBudgetConfig where
  monthlyCapUsdCents := 1000
  timeZone := .utc
  turnHoldUsdCents := 10
  subagentUnmeasuredChargeUsdCents := none
  pricingOverrides := .empty
  enforcement := .hooks
  cap_le := by decide
  hold_pos := meteredConfig.hold_pos
  hold_le := by decide
  unmeasured_pos := meteredConfig.unmeasured_pos

/-- The middle of January, and of April, 2026. -/
def january : OffsetDateTime := 1768435200 * OffsetDateTime.nanosPerSecond

def april : OffsetDateTime := 1776211200 * OffsetDateTime.nanosPerSecond

def hooksRuntime (now : OffsetDateTime) : SharedBudgetRuntime := { state := .valid hooksConfig, now }

def toolCharge (eventTime : Option EventTime) : ChargeAgent :=
  { sessionId := "session", agentId := none, amountUsdCents := 70, idempotencyKey := "request-1",
    chargeSource := .turnHold, eventTime, provider := none }

/-- A charge in January, a prune in April that keeps one month, and the retry. -/
def retried : List RetryOp :=
  [.attempt (hooksRuntime january) ⟨1⟩,
   .prune { keepMonths := 1, now := april, timeZone := .utc, dryRun := false },
   .attempt (hooksRuntime april) ⟨2⟩]

/-- Without an event time the retry is booked a second time. -/
theorem charge_forgotten :
    ¬ total (RetryOp.apply (.valid hooksConfig) (toolCharge none))
      (bookedBy (.valid hooksConfig) (toolCharge none)) .empty retried ≤
        (toolCharge none).amountUsdCents := by
  decide +kernel

/-- The same run of a charge that names its event. -/
theorem retried_once :
    total (RetryOp.apply (.valid hooksConfig) (toolCharge (some (.instant january 2026))))
      (bookedBy (.valid hooksConfig) (toolCharge (some (.instant january 2026)))) .empty retried ≤ 70 := by
  let req := toolCharge (some (.instant january 2026))
  let first := RetryOp.apply (.valid hooksConfig) req .empty (.attempt (hooksRuntime january) ⟨1⟩)
  have event : (eventPeriod (.valid hooksConfig) req).map (fun p => p.poolId.val) =
      some "metered:local-budget/monthly-2026-01" := by decide +kernel
  have now : (currentPeriod (.valid hooksConfig) (hooksRuntime april).now).map
      (fun p => p.poolId.val) = some "metered:local-budget/monthly-2026-04" := by decide +kernel
  have rows : ∀ r ∈ first.reservations.rows, r.poolId.val = "metered:local-budget/monthly-2026-01" := by
    decide +kernel
  refine charged_at_most_once (.valid hooksConfig) req .empty retried ⟨?_, ?_, ?_, trivial⟩
  · rintro target current - - ⟨h, found, -⟩
    cases found
  · intro r mem _ _
    obtain ⟨target, found, named⟩ := Option.map_eq_some_iff.mp event
    refine ⟨target, found, ?_⟩
    rw [named, rows r mem]
  · intro target current found found' _
    rw [found, Option.map_some, Option.some.injEq] at event
    rw [found', Option.map_some, Option.some.injEq] at now
    rw [event, now]
    decide +kernel

end LibraGovernor
