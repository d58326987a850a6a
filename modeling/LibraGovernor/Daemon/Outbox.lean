/-
# LibraGovernor.Daemon.Outbox -- the outcome events of finalizes and pushes

A finalize that writes its receipt and a push that is recorded each enqueue an outcome event;
the dispatcher posts what is due and marks how it went.  `Outbox` is the ledger with the queue
of deliveries and the dispatcher's batch, and `step` one request or one dispatcher step.

An event's row never changes but from pending to delivered or abandoned, within the configured
attempts.  But the events of one plan share one dedupe key, whoever reported them: a run has a
row for every accepted fact exactly when no two of them are about the same thing
(`outcome_rows`).
-/
import LibraGovernor.Daemon.LegacyWrites
import LibraGovernor.Daemon.PlanAdmission
import LibraGovernor.Ledger.Attestation
import LibraGovernor.Ledger.Deliveries

namespace LibraGovernor

open Relational Transaction Transition

set_option autoImplicit false

/-! ## Events -/

structure OutcomeEventData where
  taskId : TaskId
  planId : Option PlanId
  outcomeKind : String
  evidence : List String
  source : String
  sourceId : Option String
  attestedAt : OffsetDateTime
  deriving DecidableEq, Repr

def wireSchemaVersion : String := "libra.extension.v1"

structure EventEnvelope where
  schemaVersion : String
  eventId : Uuid
  eventKind : EventKind
  occurredAt : OffsetDateTime
  daemonVersion : String
  data : OutcomeEventData
  deriving DecidableEq, Repr

/-- The validated `[extensions.events]` block, with the version the daemon was built as. -/
structure EventsConfig where
  kinds : List EventKind
  maxAttempts : Nat
  attempts_pos : 0 < maxAttempts
  daemonVersion : String

def outcomeKindStr : ExecutionOutcome → String
  | .completed _ => "completed"
  | .failed _ => "failed"
  | .aborted _ => "aborted"
  | .unknown => "unknown"

/-- What an outcome event is about: a plan, or a push that names none. -/
inductive OutcomeSubject where
  | plan (taskId : TaskId) (planId : PlanId)
  | unbound (taskId : TaskId) (idempotencyKey : String)
  deriving DecidableEq, Repr

namespace OutcomeSubject

def taskId : OutcomeSubject → TaskId
  | .plan taskId _ => taskId
  | .unbound taskId _ => taskId

def planId : OutcomeSubject → Option PlanId
  | .plan _ planId => some planId
  | .unbound _ _ => none

def dedupeKey : OutcomeSubject → String
  | .plan taskId planId => Uuid.text taskId.uuid ++ ":" ++ Uuid.text planId.uuid
  | .unbound taskId idempotencyKey => Uuid.text taskId.uuid ++ ":none:" ++ idempotencyKey

/-- The text of an id cannot be read as `none`. -/
theorem text_ne_none (u : Uuid) (key : List Char) :
    u.text.toList ≠ 'n' :: 'o' :: 'n' :: 'e' :: ':' :: key := by
  intro same
  have first : 'n' ∈ hexDigits 32 u.toNat := by
    rw [← u.text_digits, same]
    simp
  exact hexDigits_ne_n 32 u.toNat 'n' first rfl

/-- What follows the task's id in the key. -/
def keyTail : OutcomeSubject → List Char
  | .plan _ planId => (Uuid.text planId.uuid).toList
  | .unbound _ idempotencyKey => 'n' :: 'o' :: 'n' :: 'e' :: ':' :: idempotencyKey.toList

theorem dedupeKey_toList (x : OutcomeSubject) :
    x.dedupeKey.toList = (Uuid.text x.taskId.uuid).toList ++ ':' :: x.keyTail := by
  cases x with
  | plan taskId planId => simp [dedupeKey, keyTail, OutcomeSubject.taskId]
  | unbound taskId key => simp [dedupeKey, keyTail, OutcomeSubject.taskId]

/-- Different subjects have different keys. -/
theorem dedupeKey_inj {x y : OutcomeSubject} (same : x.dedupeKey = y.dedupeKey) : x = y := by
  have chars : x.dedupeKey.toList = y.dedupeKey.toList := by rw [same]
  rw [dedupeKey_toList, dedupeKey_toList] at chars
  obtain ⟨front, tail⟩ := List.append_inj chars (by rw [Uuid.text_length, Uuid.text_length])
  have task : x.taskId = y.taskId := congrArg TaskId.mk (Uuid.text_inj (String.toList_inj.mp front))
  have tail : x.keyTail = y.keyTail := (List.cons.inj tail).2
  cases x with
  | plan taskId planId =>
      cases y with
      | plan taskId' planId' =>
          have plan : planId = planId' :=
            congrArg PlanId.mk (Uuid.text_inj (String.toList_inj.mp tail))
          rw [show taskId = taskId' from task, plan]
      | unbound taskId' key' => exact absurd tail (text_ne_none _ _)
  | unbound taskId key =>
      cases y with
      | plan taskId' planId' => exact absurd tail.symm (text_ne_none _ _)
      | unbound taskId' key' =>
          have chars : ['n', 'o', 'n', 'e', ':'] ++ key.toList = ['n', 'o', 'n', 'e', ':'] ++ key'.toList :=
            tail
          have key : key = key' := String.toList_inj.mp (List.append_cancel_left chars)
          rw [show taskId = taskId' from task, key]

end OutcomeSubject

/-! ## Requests -/

/-- A `RecordOutcome` request; `verified` is the provider its signed claim was verified for. -/
structure RecordOutcomePush where
  taskId : TaskId
  planId : Option PlanId
  sourceId : String
  idempotencyKey : String
  outcome : ExecutionOutcome
  verified : Option String
  deriving DecidableEq, Repr

namespace RecordOutcomePush

def source (push : RecordOutcomePush) : String :=
  if push.verified.isSome then "provider" else "unverified"

/-- A push without a verified claim is stored under a prefix no provider has. -/
def storedSourceId (push : RecordOutcomePush) : String :=
  push.verified.getD ("unverified:" ++ push.sourceId)

def attestation (push : RecordOutcomePush) (id : AttestationId) (now : OffsetDateTime) :
    AttestationPush where
  id
  taskId := push.taskId
  planId := push.planId
  source := push.source
  sourceId := some push.storedSourceId
  outcome := push.outcome
  idempotencyKey := push.idempotencyKey
  authoritative := push.verified.isSome
  attestedAt := now

def subject (push : RecordOutcomePush) : OutcomeSubject :=
  match push.planId with
  | some planId => .plan push.taskId planId
  | none => .unbound push.taskId push.idempotencyKey

end RecordOutcomePush

section Enqueue

variable (config : EventsConfig) (render : EventEnvelope → Option String)

def envelope (eventId : Uuid) (data : OutcomeEventData) (now : OffsetDateTime) : EventEnvelope where
  schemaVersion := wireSchemaVersion
  eventId
  eventKind := .outcome
  occurredAt := now
  daemonVersion := config.daemonVersion
  data

/-- Enqueues an outcome event; an error is only logged. -/
def enqueueOutcome (d : Deliveries) (eventId : Uuid) (subject : OutcomeSubject) (data : OutcomeEventData)
    (now : OffsetDateTime) : Deliveries :=
  if .outcome ∈ config.kinds then
    match render (envelope config eventId data now) with
    | none => d
    | some payload =>
        commit d (d.enqueueDelivery
          ⟨eventId, .outcome, subject.dedupeKey, some subject.taskId, payload, now⟩)
  else d

def receiptSubject (receipt : ExecutionReceipt) : OutcomeSubject :=
  .plan receipt.taskId receipt.planId

def receiptEvent (receipt : ExecutionReceipt) (now : OffsetDateTime) : OutcomeEventData where
  taskId := receipt.taskId
  planId := some receipt.planId
  outcomeKind := outcomeKindStr receipt.outcome
  evidence := receipt.outcome.evidence
  source := "governor_local"
  sourceId := none
  attestedAt := now

def pushEvent (push : RecordOutcomePush) (now : OffsetDateTime) : OutcomeEventData where
  taskId := push.taskId
  planId := push.planId
  outcomeKind := outcomeKindStr push.outcome
  evidence := push.outcome.evidence
  source := push.source
  sourceId := some push.storedSourceId
  attestedAt := now

end Enqueue

/-! ## The dispatcher -/

def backoffLadderSecs : List Nat := [1, 5, 30, 120, 600]

def batchLimit : Nat := 20

/-- Seconds until the next attempt; none when the attempts are used up. -/
def nextAttemptDelay (attemptsAfter maxAttempts : Nat) : Option Nat :=
  if maxAttempts ≤ attemptsAfter then none
  else backoffLadderSecs[min (attemptsAfter - 1) (backoffLadderSecs.length - 1)]?

/-- What the endpoint answered: a status, or the text of a transport error. -/
abbrev PostResult := Except String Nat

def isSuccess (status : Nat) : Bool := decide (200 ≤ status ∧ status < 300)

/-- Marks the attempt just made. -/
def deliverOne (config : EventsConfig) (d : Deliveries) (item : QueuedDelivery) (result : PostResult)
    (now : OffsetDateTime) : Deliveries :=
  let attemptsAfter := item.attempts + 1
  let nextAttemptAt : Option OffsetDateTime :=
    (nextAttemptDelay attemptsAfter config.maxAttempts).map fun (secs : Nat) =>
      now + secs * OffsetDateTime.nanosPerSecond
  let failed (status : Option Nat) (error : String) :=
    commit d (d.recordDeliveryFailure item.eventId nextAttemptAt status error nextAttemptAt.isNone)
  match result with
  | .ok status =>
      if isSuccess status then commit d (d.recordDeliverySuccess item.eventId now)
      else failed (some status) ("upstream responded with status " ++ toString status)
  | .error e => failed none e

/-! ## Runs -/

/-- The ledger, its queue, and what the dispatcher's batch has left. -/
structure Outbox where
  store : Trajectory
  deliveries : Deliveries
  inFlight : List QueuedDelivery

/-- A request with the fresh ids it mints, or a step of the dispatcher.  `announce` is the event of
another kind, as a preflight or a replan enqueues it; a mark may be `lost`. -/
inductive OutboxOp where
  | preflight (input : PreflightInput) (sweepAt : OffsetDateTime)
  | toolInvoked (input : ToolInput)
  | finalize (input : FinalizeInput) (eventId : Uuid)
  | recordOutcome (push : RecordOutcomePush) (id : AttestationId) (eventId : Uuid) (now : OffsetDateTime)
  | announce (e : DeliveryEnqueue) (other : e.eventKind ≠ .outcome)
  | poll (now : OffsetDateTime)
  | deliver (result : PostResult) (now : OffsetDateTime) (lost : Bool)

namespace Outbox

section Step

variable (daemon : DaemonConfig) (config : EventsConfig) (render : EventEnvelope → Option String)

def handleFinalize (o : Outbox) (input : FinalizeInput) (eventId : Uuid) : Outbox :=
  match (handleFinalizeForLane input).run none o.store with
  | (.ok (.finalized receipt), store) =>
      { o with
        store
        deliveries := enqueueOutcome config render o.deliveries eventId (receiptSubject receipt)
          (receiptEvent receipt input.now) input.now }
  | (_, store) => { o with store }

/-- The answer to a push, or the error that ended it. -/
def answer (o : Outbox) (push : RecordOutcomePush) (id : AttestationId) (now : OffsetDateTime) :
    Except LedgerError RecordAttestationOutcome :=
  (o.store.recordOutcomeAttestation (push.attestation id now)).map Prod.fst

def handleRecordOutcome (o : Outbox) (push : RecordOutcomePush) (id : AttestationId) (eventId : Uuid)
    (now : OffsetDateTime) : Outbox :=
  match o.store.recordOutcomeAttestation (push.attestation id now) with
  | .ok (.recorded _ _, store) =>
      { o with
        store
        deliveries := enqueueOutcome config render o.deliveries eventId push.subject
          (pushEvent push now) now }
  | .ok (_, store) => { o with store }
  | .error _ => o

/-- The dispatcher reads a batch when the last one is through. -/
def poll (o : Outbox) (now : OffsetDateTime) : Outbox :=
  match o.inFlight, o.deliveries.dueDeliveries now batchLimit with
  | [], .ok due => { o with inFlight := due }
  | _, _ => o

def deliver (o : Outbox) (result : PostResult) (now : OffsetDateTime) (lost : Bool) : Outbox :=
  match o.inFlight with
  | [] => o
  | item :: rest =>
      { o with
        deliveries := if lost then o.deliveries else deliverOne config o.deliveries item result now
        inFlight := rest }

def step (o : Outbox) : OutboxOp → Outbox
  | .preflight input sweepAt =>
      { o with store := ((handlePreflightForLane daemon input sweepAt).run none o.store).2 }
  | .toolInvoked input =>
      { o with store := ((handleToolInvokedForLane daemon input).run none o.store).2 }
  | .finalize input eventId => o.handleFinalize config render input eventId
  | .recordOutcome push id eventId now => o.handleRecordOutcome config render push id eventId now
  | .announce e _ => { o with deliveries := commit o.deliveries (o.deliveries.enqueueDelivery e) }
  | .poll now => o.poll now
  | .deliver result now lost => o.deliver config result now lost

/-! ## One step -/

/-- What the fact a step accepts is about: a finalize that writes its receipt, or a push that is
recorded. -/
def accepted (o : Outbox) : OutboxOp → Option OutcomeSubject
  | .finalize input _ =>
      match ((handleFinalizeForLane input).run none o.store).1 with
      | .ok (.finalized receipt) => some (receiptSubject receipt)
      | _ => none
  | .recordOutcome push id _ now =>
      match o.answer push id now with
      | .ok (.recorded _ _) => some push.subject
      | _ => none
  | _ => none

/-- The step is a push that is answered `Recorded`. -/
def pushRecorded (o : Outbox) : OutboxOp → Bool
  | .recordOutcome push id _ now =>
      match o.answer push id now with
      | .ok (.recorded _ _) => true
      | _ => false
  | _ => false

/-- The event of an accepted fact has an id of its own, renders, and is stamped with a time that can
be stored. -/
def Enqueues (o : Outbox) : OutboxOp → Prop
  | .finalize input eventId => ∀ receipt,
      ((handleFinalizeForLane input).run none o.store).1 = .ok (.finalized receipt) →
      o.deliveries.Fresh eventId ∧ input.now.formattable = true ∧
        (render (envelope config eventId (receiptEvent receipt input.now) input.now)).isSome
  | .recordOutcome push id eventId now => ∀ revision updated,
      o.answer push id now = .ok (.recorded revision updated) →
      o.deliveries.Fresh eventId ∧ now.formattable = true ∧
        (render (envelope config eventId (pushEvent push now) now)).isSome
  | _ => True

end Step

section Enqueue

variable {config : EventsConfig} {render : EventEnvelope → Option String} {d : Deliveries}
  {eventId : Uuid} {subject : OutcomeSubject} {data : OutcomeEventData} {now : OffsetDateTime}

theorem commit_enqueue (d : Deliveries) (e : DeliveryEnqueue) :
    commit d (d.enqueueDelivery e) = d ∨
      commit d (d.enqueueDelivery e) = (d.insertOrIgnore e.row).2 := by
  unfold Deliveries.enqueueDelivery rfc3339
  split
  · exact .inr rfl
  · exact .inl rfl

theorem commit_enqueue_grows (d : Deliveries) (e : DeliveryEnqueue) :
    d.Grows (commit d (d.enqueueDelivery e)) := by
  rcases commit_enqueue d e with same | added
  · rw [same]
    exact .refl d
  · rw [added]
    exact Deliveries.insertOrIgnore_grows rfl

theorem enqueueOutcome_grows : d.Grows (enqueueOutcome config render d eventId subject data now) := by
  unfold enqueueOutcome
  split
  · split
    · exact .refl d
    · exact commit_enqueue_grows d _
  · exact .refl d

/-- The event of an accepted fact is inserted, or ignored. -/
theorem enqueueOutcome_eq (d : Deliveries) (subject : OutcomeSubject) (enabled : .outcome ∈ config.kinds) (formattable : now.formattable = true)
    (renders : (render (envelope config eventId data now)).isSome) :
    ∃ payload, enqueueOutcome config render d eventId subject data now = (d.insertOrIgnore
      (DeliveryEnqueue.mk eventId .outcome subject.dedupeKey (some subject.taskId) payload now).row).2 := by
  obtain ⟨payload, rendered⟩ := Option.isSome_iff_exists.mp renders
  refine ⟨payload, ?_⟩
  rw [enqueueOutcome, if_pos enabled, rendered]
  show commit d (d.enqueueDelivery _) = _
  rw [Deliveries.enqueueDelivery, rfc3339, if_pos formattable]
  rfl

end Enqueue

section Dispatch

variable {config : EventsConfig}

theorem nextAttemptDelay_eq_none {attemptsAfter maxAttempts : Nat} :
    nextAttemptDelay attemptsAfter maxAttempts = none ↔ maxAttempts ≤ attemptsAfter := by
  unfold nextAttemptDelay
  split
  · simp [*]
  · rename_i left
    have inside : min (attemptsAfter - 1) (backoffLadderSecs.length - 1) < backoffLadderSecs.length := by
      have nonempty : backoffLadderSecs.length = 5 := rfl
      omega
    rw [List.getElem?_eq_getElem inside]
    simp [left]

/-- A mark leaves the queue, or counts the attempt on the row it was made for; the row is still
pending only when there is an attempt left. -/
theorem deliverOne_cases (config : EventsConfig) (d : Deliveries) (item : QueuedDelivery)
    (result : PostResult) (now : OffsetDateTime) :
    deliverOne config d item result now = d ∨
    ∃ f keeps, deliverOne config d item result now = d.updateRow item.eventId f keeps ∧
      ∀ r : DeliveryRow, r.state = .pending → r.attempts = item.attempts →
        r.Evolves (f r) ∧ (f r).attempts = r.attempts + 1 ∧
        ((f r).state = .pending → r.attempts + 1 < config.maxAttempts) := by
  have failing : ∀ (nextAttemptAt : Option OffsetDateTime) status error,
      (nextAttemptAt = none → config.maxAttempts ≤ item.attempts + 1) →
      (nextAttemptAt ≠ none → item.attempts + 1 < config.maxAttempts) →
      commit d (d.recordDeliveryFailure item.eventId nextAttemptAt status error nextAttemptAt.isNone) =
        d ∨ ∃ f keeps, commit d (d.recordDeliveryFailure item.eventId nextAttemptAt status error
          nextAttemptAt.isNone) = d.updateRow item.eventId f keeps ∧
        ∀ r : DeliveryRow, r.state = .pending → r.attempts = item.attempts →
          r.Evolves (f r) ∧ (f r).attempts = r.attempts + 1 ∧
          ((f r).state = .pending → r.attempts + 1 < config.maxAttempts) := by
    intro nextAttemptAt status error used left
    unfold Deliveries.recordDeliveryFailure
    cases stamped : nextAttemptAt.mapM rfc3339 with
    | error e => exact .inl rfl
    | ok stamp =>
        refine .inr ⟨DeliveryRow.failed nextAttemptAt status error nextAttemptAt.isNone,
          fun _ => ⟨rfl, rfl⟩, rfl, ?_⟩
        intro r pending attempts
        refine ⟨.failed pending _ _ _ _, rfl, ?_⟩
        rw [attempts]
        cases nextAttemptAt with
        | none => exact nofun
        | some next =>
            intro _
            exact left nofun
  have used : ∀ f : Nat → OffsetDateTime, (nextAttemptDelay (item.attempts + 1) config.maxAttempts).map f =
      none → config.maxAttempts ≤ item.attempts + 1 := by
    intro f none
    exact nextAttemptDelay_eq_none.mp (Option.map_eq_none_iff.mp none)
  have left : ∀ f : Nat → OffsetDateTime, (nextAttemptDelay (item.attempts + 1) config.maxAttempts).map f ≠
      none → item.attempts + 1 < config.maxAttempts := by
    intro f some
    exact Nat.lt_of_not_le fun over_ => some (Option.map_eq_none_iff.mpr (nextAttemptDelay_eq_none.mpr over_))
  unfold deliverOne
  cases result with
  | error e => exact failing _ _ _ (used _) (left _)
  | ok status =>
      dsimp only
      split
      · unfold Deliveries.recordDeliverySuccess
        cases stamped : rfc3339 now with
        | error e => exact .inl rfl
        | ok stamp =>
            refine .inr ⟨DeliveryRow.delivered now, fun _ => ⟨rfl, rfl⟩, rfl, ?_⟩
            intro r pending attempts
            exact ⟨.delivered pending now, rfl, nofun⟩
      · exact failing _ _ _ (used _) (left _)

/-- The queue within the configured attempts, and a batch of rows that are still as they were read. -/
structure Within (maxAttempts : Nat) (o : Outbox) : Prop where
  attempts : ∀ r ∈ o.deliveries, r.attempts ≤ maxAttempts
  pending : ∀ r ∈ o.deliveries, r.state = .pending → r.attempts < maxAttempts
  inFlight : ∀ item ∈ o.inFlight, ∃ r ∈ o.deliveries, r.state = .pending ∧ r.queued = item
  batch : (o.inFlight.map QueuedDelivery.eventId).Nodup

/-- More rows, none of them tried yet. -/
theorem Within.grown {maxAttempts : Nat} {o o' : Outbox} (within : o.Within maxAttempts)
    (some : 0 < maxAttempts) (batch : o'.inFlight = o.inFlight)
    (grows : o.deliveries.Grows o'.deliveries) : o'.Within maxAttempts := by
  refine ⟨?_, ?_, ?_, batch ▸ within.batch⟩
  · intro r mem
    rcases grows.added r mem with old | zero
    · exact within.attempts r old
    · omega
  · intro r mem pending
    rcases grows.added r mem with old | zero
    · exact within.pending r old pending
    · omega
  · intro item mem
    rw [batch] at mem
    obtain ⟨r, here, pending, queued⟩ := within.inFlight item mem
    exact ⟨r, grows.kept r here, pending, queued⟩

theorem Within.poll {maxAttempts : Nat} {o : Outbox} (within : o.Within maxAttempts)
    (now : OffsetDateTime) : (o.poll now).Within maxAttempts := by
  unfold Outbox.poll
  split
  · rename_i due _ done
    refine ⟨within.attempts, within.pending, ?_, Deliveries.dueDeliveries_nodup done⟩
    intro item mem
    exact Deliveries.mem_dueDeliveries done mem
  · exact within

theorem Within.deliver {o : Outbox} (within : o.Within config.maxAttempts) (result : PostResult)
    (now : OffsetDateTime) (lost : Bool) :
    (o.deliver config result now lost).Within config.maxAttempts ∧
      o.deliveries.Evolve (o.deliver config result now lost).deliveries := by
  unfold Outbox.deliver
  split
  · exact ⟨within, .refl _⟩
  rename_i item rest batch
  have nodup := within.batch
  rw [batch, List.map_cons, List.nodup_cons] at nodup
  have behind : ∀ item' ∈ rest, ∃ r ∈ o.deliveries, r.state = .pending ∧ r.queued = item' := by
    intro item' mem
    exact within.inFlight item' (batch ▸ List.mem_cons_of_mem item mem)
  have unmarked : ({ o with inFlight := rest } : Outbox).Within config.maxAttempts :=
    ⟨within.attempts, within.pending, behind, nodup.2⟩
  cases lost with
  | true => exact ⟨unmarked, .refl _⟩
  | false =>
      rcases deliverOne_cases config o.deliveries item result now with same | ⟨f, keeps, marked, each⟩
      · rw [if_neg (by decide), same]
        exact ⟨unmarked, .refl _⟩
      · rw [if_neg (by decide), marked]
        obtain ⟨own, there, pending, rfl⟩ := within.inFlight item (batch ▸ List.mem_cons_self)
        -- The row the attempt was made for is the one its id names.
        have only : ∀ r ∈ o.deliveries, r.eventId = own.eventId → r = own :=
          fun r mem same => o.deliveries.table.eq_of_key mem there same
        obtain ⟨evolves, counted, left⟩ := each own pending rfl
        refine ⟨⟨?_, ?_, ?_, nodup.2⟩, ?_⟩
        · intro r' mem
          obtain ⟨r, was, rfl⟩ := (Deliveries.mem_updateRow keeps).mp mem
          split
          · rename_i same
            rw [only r was same, counted]
            exact within.pending own there pending
          · exact within.attempts r was
        · intro r' mem
          obtain ⟨r, was, rfl⟩ := (Deliveries.mem_updateRow keeps).mp mem
          split
          · rename_i same
            rw [only r was same, counted]
            exact left
          · exact within.pending r was
        · intro item' mem
          obtain ⟨r, was, still, rfl⟩ := behind item' mem
          have other : r.eventId ≠ own.eventId := by
            intro same
            exact nodup.1 (List.mem_map.mpr ⟨r.queued, mem, same⟩)
          have kept : (if r.eventId = own.eventId then f r else r) = r := if_neg other
          exact ⟨r, (Deliveries.mem_updateRow keeps).mpr ⟨r, was, kept⟩, still, rfl⟩
        · refine Deliveries.updateRow_evolve keeps ?_
          intro r mem same
          rw [only r mem same]
          exact evolves

end Dispatch

section Steps

variable (daemon : DaemonConfig) (config : EventsConfig) (render : EventEnvelope → Option String)
  {o : Outbox}

/-- A finalize that writes its receipt enqueues its event; any other leaves the queue. -/
theorem handleFinalize_cases (o : Outbox) (input : FinalizeInput) (eventId : Uuid) :
    (∃ receipt, ((handleFinalizeForLane input).run none o.store).1 = .ok (.finalized receipt) ∧
      (o.handleFinalize config render input eventId) =
        { o with
          store := ((handleFinalizeForLane input).run none o.store).2
          deliveries := enqueueOutcome config render o.deliveries eventId (receiptSubject receipt)
            (receiptEvent receipt input.now) input.now }) ∨
    o.accepted (.finalize input eventId) = none ∧
      o.handleFinalize config render input eventId =
        { o with store := ((handleFinalizeForLane input).run none o.store).2 } := by
  unfold handleFinalize accepted
  dsimp only
  generalize (handleFinalizeForLane input).run none o.store = result
  obtain ⟨e | out, store⟩ := result
  · exact .inr ⟨rfl, rfl⟩
  · cases out with
    | noActiveTask => exact .inr ⟨rfl, rfl⟩
    | finalized receipt => exact .inl ⟨receipt, rfl, rfl⟩

/-- A push that is recorded enqueues its event; any other leaves the queue. -/
theorem handleRecordOutcome_cases (o : Outbox) (push : RecordOutcomePush) (id : AttestationId)
    (eventId : Uuid) (now : OffsetDateTime) :
    (∃ revision updated store, o.answer push id now = .ok (.recorded revision updated) ∧
      o.store.recordOutcomeAttestation (push.attestation id now) =
        .ok (.recorded revision updated, store) ∧
      o.handleRecordOutcome config render push id eventId now =
        { o with
          store
          deliveries := enqueueOutcome config render o.deliveries eventId push.subject
            (pushEvent push now) now }) ∨
    o.accepted (.recordOutcome push id eventId now) = none ∧
      o.pushRecorded (.recordOutcome push id eventId now) = false ∧
      (∀ revision updated, o.answer push id now ≠ .ok (.recorded revision updated)) ∧
      o.handleRecordOutcome config render push id eventId now = o := by
  unfold handleRecordOutcome accepted pushRecorded answer
  dsimp only
  cases done : o.store.recordOutcomeAttestation (push.attestation id now) with
  | error e => exact .inr ⟨rfl, rfl, nofun, rfl⟩
  | ok result =>
      obtain ⟨out, store⟩ := result
      obtain ⟨rfl, other⟩ | ⟨revision, _, updated, _, rfl, _, _⟩ :=
        Trajectory.recordOutcomeAttestation_ok done
      · cases out with
        | recorded revision updated => exact absurd rfl (other revision updated)
        | noSuchTask => exact .inr ⟨rfl, rfl, nofun, rfl⟩
        | noSuchPlan => exact .inr ⟨rfl, rfl, nofun, rfl⟩
        | duplicate => exact .inr ⟨rfl, rfl, nofun, rfl⟩
        | idempotencyKeyReused => exact .inr ⟨rfl, rfl, nofun, rfl⟩
      · exact .inl ⟨revision, updated, store, rfl, rfl, rfl⟩

theorem step_within (within : o.Within config.maxAttempts) (op : OutboxOp) :
    (o.step daemon config render op).Within config.maxAttempts ∧
      o.deliveries.Evolve (o.step daemon config render op).deliveries := by
  have grown : ∀ {o' : Outbox}, o'.inFlight = o.inFlight → o.deliveries.Grows o'.deliveries →
      o'.Within config.maxAttempts ∧ o.deliveries.Evolve o'.deliveries :=
    fun batch grows => ⟨within.grown config.attempts_pos batch grows, grows.evolve⟩
  cases op with
  | preflight input sweepAt => exact grown rfl (.refl _)
  | toolInvoked input => exact grown rfl (.refl _)
  | finalize input eventId =>
      show (o.handleFinalize config render input eventId).Within _ ∧
        o.deliveries.Evolve (o.handleFinalize config render input eventId).deliveries
      rcases o.handleFinalize_cases config render input eventId with ⟨receipt, -, same⟩ | ⟨-, same⟩
      · rw [same]
        exact grown rfl enqueueOutcome_grows
      · rw [same]
        exact grown rfl (.refl _)
  | recordOutcome push id eventId now =>
      show (o.handleRecordOutcome config render push id eventId now).Within _ ∧
        o.deliveries.Evolve (o.handleRecordOutcome config render push id eventId now).deliveries
      rcases o.handleRecordOutcome_cases config render push id eventId now with ⟨_, _, _, -, -, same⟩ | ⟨-, -, -, same⟩
      · rw [same]
        exact grown rfl enqueueOutcome_grows
      · rw [same]
        exact grown rfl (.refl _)
  | announce e other => exact grown rfl (commit_enqueue_grows _ e)
  | poll now =>
      refine ⟨within.poll now, ?_⟩
      show o.deliveries.Evolve (o.poll now).deliveries
      unfold Outbox.poll
      split
      · exact .refl _
      · exact .refl _
  | deliver result now lost => exact within.deliver result now lost

theorem receiptsKept : Writes fun s s' : Trajectory => s'.receipts = s.receipts where
  refl _ := rfl
  trans _ _ _ before after := after.trans before
  task s s' taskId now done := by
    obtain ⟨tasks, -, rfl⟩ := Trajectory.insertTask_ok done
    rfl
  sessionTask s s' sessionId taskId now done := by
    obtain ⟨sessionTasks, -, rfl⟩ := Trajectory.insertSessionTask_ok done
    rfl
  contract _ _ := rfl
  preflights _ _ := rfl
  admission s s' planId verdict done := by
    cases done
    rfl
  toolCalls _ _ := rfl
  replanStates _ _ := rfl
  budget _ _ := rfl

theorem insertPlan_receipts {s s' : Trajectory} {plan : ExecutionPlan}
    (done : s.insertPlan plan = .ok ((), s')) : s'.receipts = s.receipts := by
  obtain ⟨plans, -, rfl⟩ := Trajectory.insertPlan_ok done
  rfl

theorem promoteFor_receipts (s : Trajectory) (push : AttestationPush) (revision : Option Nat) :
    (s.promoteFor push revision).2.receipts.rows.length = s.receipts.rows.length := by
  unfold Trajectory.promoteFor
  split
  · rfl
  · split
    · split
      · rfl
      · exact List.length_map _
    · rfl

/-- A receipt is written exactly by a step that accepts a fact and is no push. -/
theorem step_receipts (o : Outbox) (op : OutboxOp) :
    (o.step daemon config render op).store.receipts.rows.length + (o.pushRecorded op).toNat =
      o.store.receipts.rows.length + (o.accepted op).toList.length := by
  cases op with
  | preflight input sweepAt =>
      have keeps : Script.Keeps (fun s => s.receipts = o.store.receipts)
          (handlePreflightForLane daemon input sweepAt) :=
        receiptsKept.handlePreflightForLane input sweepAt fun _ _ _ _ => insertPlan_receipts
      have kept := keeps.run none rfl
      show ((handlePreflightForLane daemon input sweepAt).run none o.store).2.receipts.rows.length + 0 = _
      rw [kept]
      rfl
  | toolInvoked input =>
      have keeps : Script.Keeps (fun s => s.receipts = o.store.receipts)
          (handleToolInvokedForLane daemon input) :=
        receiptsKept.handleToolInvokedForLane input fun _ _ _ => insertPlan_receipts
      have kept := keeps.run none rfl
      show ((handleToolInvokedForLane daemon input).run none o.store).2.receipts.rows.length + 0 = _
      rw [kept]
      rfl
  | finalize input eventId =>
      have ended := (handleFinalizeForLane_ended input o.store).run none rfl
      show (o.handleFinalize config render input eventId).store.receipts.rows.length + 0 = _
      rcases o.handleFinalize_cases config render input eventId with ⟨receipt, written, same⟩ | ⟨refused, same⟩
      · have fact : o.accepted (.finalize input eventId) = some (receiptSubject receipt) := by
          simp only [accepted, written]
        rw [written] at ended
        have rows := ((Table.insert?_eq_some_iff _ _ _).mp ended.stored).2
        rw [same, fact]
        show ((handleFinalizeForLane input).run none o.store).2.receipts.rows.length + 0 = _
        rw [rows, List.length_append]
        rfl
      · rw [same, refused]
        unfold accepted at refused
        dsimp only at refused ⊢
        split at refused
        · cases refused
        · rename_i other
          have budget : BudgetOnly o.store ((handleFinalizeForLane input).run none o.store).2 := by
            cases result : ((handleFinalizeForLane input).run none o.store).1 with
            | error e =>
                rw [result] at ended
                exact ended
            | ok out =>
                cases out with
                | noActiveTask =>
                    rw [result] at ended
                    exact ended
                | finalized receipt => exact absurd result (other receipt)
          rw [budget]
          rfl
  | recordOutcome push id eventId now =>
      show (o.handleRecordOutcome config render push id eventId now).store.receipts.rows.length + _ = _
      rcases o.handleRecordOutcome_cases config render push id eventId now with
        ⟨revision, updated, store, answered, done, same⟩ | ⟨refused, quiet, -, same⟩
      · have fact : o.accepted (.recordOutcome push id eventId now) = some push.subject := by
          simp only [accepted, answered]
        have counted : o.pushRecorded (.recordOutcome push id eventId now) = true := by
          simp only [pushRecorded, answered]
        obtain ⟨-, other⟩ | ⟨bound, _, _, -, -, -, rfl⟩ := Trajectory.recordOutcomeAttestation_ok done
        · exact absurd rfl (other revision updated)
        · rw [same, fact, counted]
          show (Trajectory.promoteFor _ _ bound).2.receipts.rows.length + 1 = _
          rw [promoteFor_receipts]
          rfl
      · rw [same, refused, quiet]
        rfl
  | announce e other => rfl
  | poll now =>
      show (o.poll now).store.receipts.rows.length + 0 = _
      unfold Outbox.poll
      split
      · rfl
      · rfl
  | deliver result now lost =>
      show (o.deliver config result now lost).store.receipts.rows.length + 0 = _
      unfold Outbox.deliver
      split
      · rfl
      · rfl

/-- The dedupe keys of the outcome rows. -/
def outcomeKeys (o : Outbox) : List (EventKind × String) :=
  o.deliveries.keys.filter fun k => k.1 = .outcome

def subjectKey (subject : OutcomeSubject) : EventKind × String := (.outcome, subject.dedupeKey)

theorem mem_outcomeKeys {o : Outbox} {subject : OutcomeSubject} :
    subjectKey subject ∈ o.outcomeKeys ↔ subjectKey subject ∈ o.deliveries.keys := by
  simp [outcomeKeys, subjectKey]

/-- The key of an accepted fact is added unless it is there. -/
theorem outcomeKeys_enqueue {o' : Outbox} {eventId : Uuid} {subject : OutcomeSubject}
    {data : OutcomeEventData} {now : OffsetDateTime} (enabled : .outcome ∈ config.kinds)
    (enqueues : o.deliveries.Fresh eventId ∧ now.formattable = true ∧
      (render (envelope config eventId data now)).isSome)
    (same : o'.deliveries = enqueueOutcome config render o.deliveries eventId subject data now) :
    o'.outcomeKeys = o.outcomeKeys ++
      if subjectKey subject ∈ o.outcomeKeys then [] else [subjectKey subject] := by
  obtain ⟨fresh, formattable, renders⟩ := enqueues
  obtain ⟨payload, inserted⟩ := enqueueOutcome_eq o.deliveries subject enabled formattable renders
  rw [outcomeKeys, same, inserted]
  by_cases there : subjectKey subject ∈ o.deliveries.keys
  · rw [Deliveries.insertOrIgnore_taken (DeliveryEnqueue.row _) there, if_pos (mem_outcomeKeys.mpr there), List.append_nil]
    rfl
  · rw [Deliveries.insertOrIgnore_free (DeliveryEnqueue.row _) there fresh,
      if_neg (fun listed => there (mem_outcomeKeys.mp listed)), List.filter_append]
    rfl

/-- What a step does to the keys of the outcome rows. -/
theorem step_outcomeKeys (enabled : .outcome ∈ config.kinds) {op : OutboxOp}
    (enqueues : o.Enqueues config render op) :
    (o.step daemon config render op).outcomeKeys = o.outcomeKeys ++
      (o.accepted op).toList.flatMap fun subject =>
        if subjectKey subject ∈ o.outcomeKeys then [] else [subjectKey subject] := by
  have quiet : ∀ o' : Outbox, o'.deliveries.keys = o.deliveries.keys →
      o'.outcomeKeys = o.outcomeKeys ++ (none : Option OutcomeSubject).toList.flatMap fun subject =>
        if subjectKey subject ∈ o.outcomeKeys then [] else [subjectKey subject] := by
    intro o' same
    rw [outcomeKeys, same]
    exact (List.append_nil _).symm
  cases op with
  | preflight input sweepAt => exact quiet _ rfl
  | toolInvoked input => exact quiet _ rfl
  | finalize input eventId =>
      show (o.handleFinalize config render input eventId).outcomeKeys = _
      rcases o.handleFinalize_cases config render input eventId with ⟨receipt, written, same⟩ | ⟨refused, same⟩
      · have fact : o.accepted (.finalize input eventId) = some (receiptSubject receipt) := by
          simp only [accepted, written]
        rw [fact, Option.toList_some, List.flatMap_singleton, same]
        exact outcomeKeys_enqueue config render enabled (enqueues receipt written) rfl
      · rw [refused, same]
        exact quiet _ rfl
  | recordOutcome push id eventId now =>
      show (o.handleRecordOutcome config render push id eventId now).outcomeKeys = _
      rcases o.handleRecordOutcome_cases config render push id eventId now with
        ⟨revision, updated, store, answered, -, same⟩ | ⟨refused, -, -, same⟩
      · have fact : o.accepted (.recordOutcome push id eventId now) = some push.subject := by
          simp only [accepted, answered]
        rw [fact, Option.toList_some, List.flatMap_singleton, same]
        exact outcomeKeys_enqueue config render enabled (enqueues revision updated answered) rfl
      · rw [refused, same]
        exact quiet _ rfl
  | announce e other =>
      show Outbox.outcomeKeys { o with deliveries := commit o.deliveries (o.deliveries.enqueueDelivery e) } =
        o.outcomeKeys ++ []
      rw [List.append_nil, outcomeKeys, outcomeKeys]
      have apart : decide (e.row.dedupe.1 = EventKind.outcome) = false := decide_eq_false other
      rcases commit_enqueue o.deliveries e with same | added
      · rw [same]
      · rw [added]
        rcases o.deliveries.insertOrIgnore_keys e.row with kept | appended
        · rw [kept]
        · rw [appended, List.filter_append, List.filter_singleton, apart]
          exact List.append_nil _
  | poll now =>
      refine quiet (o.poll now) ?_
      unfold Outbox.poll
      split
      · rfl
      · rfl
  | deliver result now lost =>
      refine quiet (o.deliver config result now lost) ?_
      unfold Outbox.deliver
      split
      · rfl
      · rename_i item rest _
        cases lost with
        | true => rfl
        | false =>
            rcases deliverOne_cases config o.deliveries item result now with same | ⟨f, keeps, marked, -⟩
            · exact congrArg Deliveries.keys same
            · exact (congrArg Deliveries.keys marked).trans (Deliveries.keys_updateRow keeps)

/-- A push that is not recorded leaves the queue as it is. -/
theorem unrecorded_adds_none {push : RecordOutcomePush} {id : AttestationId} {eventId : Uuid}
    {now : OffsetDateTime}
    (other : ∀ revision updated, o.answer push id now ≠ .ok (.recorded revision updated)) :
    (o.step daemon config render (.recordOutcome push id eventId now)).deliveries = o.deliveries := by
  show (o.handleRecordOutcome config render push id eventId now).deliveries = _
  rcases o.handleRecordOutcome_cases config render push id eventId now with
    ⟨revision, updated, _, answered, -, -⟩ | ⟨-, -, -, same⟩
  · exact absurd answered (other revision updated)
  · rw [same]

end Steps

/-! ## The whole run -/

section Run

variable (daemon : DaemonConfig) (config : EventsConfig) (render : EventEnvelope → Option String)

theorem run_within {o : Outbox} (within : o.Within config.maxAttempts) (ops : List OutboxOp) :
    (run (Outbox.step daemon config render) o ops).Within config.maxAttempts ∧
      o.deliveries.Evolve (run (Outbox.step daemon config render) o ops).deliveries := by
  have keep : ∀ (mid : Outbox) op, mid.Within config.maxAttempts ∧ o.deliveries.Evolve mid.deliveries →
      (mid.step daemon config render op).Within config.maxAttempts ∧
        o.deliveries.Evolve (mid.step daemon config render op).deliveries := by
    rintro mid op ⟨good, evolved⟩
    obtain ⟨next, step⟩ := step_within daemon config render good op
    exact ⟨next, evolved.trans step⟩
  exact run_invariant_always keep ⟨within, .refl _⟩ ops

/-- Every accepted fact is a receipt or a recorded push. -/
theorem run_receipts (o : Outbox) (ops : List OutboxOp) :
    (run (Outbox.step daemon config render) o ops).store.receipts.rows.length +
        times (Outbox.step daemon config render) pushRecorded o ops =
      o.store.receipts.rows.length + (emitted (Outbox.step daemon config render) accepted o ops).length := by
  induction ops generalizing o with
  | nil => rfl
  | cons op ops ih =>
      have one := step_receipts daemon config render o op
      have rest := ih (o.step daemon config render op)
      simp only [times] at rest
      simp only [run, times, total, emitted, List.length_append]
      omega

theorem receipts_le (o : Outbox) (ops : List OutboxOp) :
    o.store.receipts.rows.length ≤
      (run (Outbox.step daemon config render) o ops).store.receipts.rows.length := by
  refine run_relates (fun o o' : Outbox => o.store.receipts.rows.length ≤ o'.store.receipts.rows.length)
    (fun _ => le_refl _) (fun _ _ _ => le_trans) ?_ o ops
  intro mid op
  have one := step_receipts daemon config render mid op
  have counted : (mid.pushRecorded op).toNat ≤ (mid.accepted op).toList.length := by
    cases op with
    | recordOutcome push id eventId now =>
        simp only [pushRecorded, accepted]
        split
        · exact le_refl _
        · exact Nat.zero_le _
    | _ => exact Nat.zero_le _
  omega

/-- Every row stays what it is and only moves from pending to delivered or abandoned, within the
attempts; an unrecorded push adds none; and every receipt and recorded push has a row of its own
exactly when no two of them, and none of them and an earlier row, are about the same thing. -/
theorem outcome_rows (enabled : .outcome ∈ config.kinds) (o : Outbox)
    (within : o.Within config.maxAttempts) (ops : List OutboxOp)
    (enqueues : Along (Outbox.step daemon config render) (Outbox.Enqueues config render) o ops) :
    (((run (Outbox.step daemon config render) o ops).deliveries.ofKind .outcome).length =
        (o.deliveries.ofKind .outcome).length +
          ((run (Outbox.step daemon config render) o ops).store.receipts.rows.length -
            o.store.receipts.rows.length) +
          times (Outbox.step daemon config render) pushRecorded o ops ↔
      (emitted (Outbox.step daemon config render) accepted o ops).Nodup ∧
        ∀ subject ∈ emitted (Outbox.step daemon config render) accepted o ops,
          subjectKey subject ∉ o.deliveries.keys) ∧
    (∀ earlier push id eventId now later, ops = earlier ++ .recordOutcome push id eventId now :: later →
      (∀ revision updated, (run (Outbox.step daemon config render) o earlier).answer push id now ≠
        .ok (.recorded revision updated)) →
      (run (Outbox.step daemon config render) o
          (earlier ++ [.recordOutcome push id eventId now])).deliveries =
        (run (Outbox.step daemon config render) o earlier).deliveries) ∧
    (∀ earlier later, ops = earlier ++ later →
      (run (Outbox.step daemon config render) o earlier).deliveries.Evolve
        (run (Outbox.step daemon config render) o ops).deliveries) ∧
    ∀ r ∈ (run (Outbox.step daemon config render) o ops).deliveries, r.attempts ≤ config.maxAttempts := by
  refine ⟨?_, ?_, ?_, (run_within daemon config render within ops).1.attempts⟩
  · have receipts := run_receipts daemon config render o ops
    have monotone : (emitted (Outbox.step daemon config render) accepted o ops).length =
        ((run (Outbox.step daemon config render) o ops).store.receipts.rows.length -
          o.store.receipts.rows.length) +
        times (Outbox.step daemon config render) pushRecorded o ops := by
      have grown := receipts_le daemon config render o ops
      omega
    rw [Nat.add_assoc, ← monotone, Deliveries.ofKind_length, Deliveries.ofKind_length]
    have registered := (registered_iff accepted (fun o => o.outcomeKeys.length)
      (fun o subject => subjectKey subject ∈ o.outcomeKeys) ?_ ?_ enqueues).2
    · simp only [mem_outcomeKeys] at registered
      exact registered
    · intro mid op enqueue old
      have keys : (mid.step daemon config render op).outcomeKeys = mid.outcomeKeys := by
        rw [step_outcomeKeys daemon config render enabled enqueue]
        cases fact : mid.accepted op with
        | none => exact List.append_nil _
        | some subject => simp [old subject fact]
      rw [keys]
      exact ⟨rfl, fun _ => Iff.rfl⟩
    · intro mid op subject enqueue fact new
      have keys : (mid.step daemon config render op).outcomeKeys =
          mid.outcomeKeys ++ [subjectKey subject] := by
        rw [step_outcomeKeys daemon config render enabled enqueue, fact]
        simp [new]
      rw [keys]
      refine ⟨List.length_append, ?_⟩
      intro other
      rw [List.mem_append, List.mem_singleton]
      constructor
      · rintro (before | same)
        · exact .inl before
        · exact .inr (OutcomeSubject.dedupeKey_inj (congrArg Prod.snd same))
      · rintro (before | rfl)
        · exact .inl before
        · exact .inr rfl
  · intro earlier push id eventId now later _ other
    rw [run_append]
    exact unrecorded_adds_none daemon config render other
  · rintro earlier later rfl
    rw [run_append]
    exact (run_within daemon config render (run_within daemon config render within earlier).1 later).2

end Run

/-! ## Poles -/

def outcomeEvents : EventsConfig where
  kinds := [.outcome]
  maxAttempts := 2
  attempts_pos := by decide
  daemonVersion := "1"

/-- A payload that says which event it is. -/
def renderId (e : EventEnvelope) : Option String := some (Uuid.text e.eventId)

def fresh : Outbox := ⟨.empty, .empty, []⟩

def outboxRun (ops : List OutboxOp) : Outbox :=
  run (Outbox.step (legacyConfig (tokenPolicy .low)) outcomeEvents renderId) fresh ops

theorem fresh_within : fresh.Within outcomeEvents.maxAttempts where
  attempts _ mem := absurd mem List.not_mem_nil
  pending _ mem := absurd mem List.not_mem_nil
  inFlight _ mem := absurd mem List.not_mem_nil
  batch := List.nodup_nil

def mainFinalize : FinalizeInput := ⟨"main", "main", 0, fun _ => none⟩

/-- A push for the first plan. -/
def planPush : RecordOutcomePush := ⟨⟨1⟩, some ⟨1⟩, "ci", "build-1", .completed ["run/1"], none⟩

/-- A push that names no plan, and one from another source. -/
def taskPush (sourceId : String) : RecordOutcomePush :=
  ⟨⟨1⟩, none, sourceId, "build-1", .completed ["run/1"], none⟩

/-- The turn is finalized, and then its outcome is pushed. -/
def reportedTurn : List OutboxOp :=
  [.preflight (lanePreflight 1) 0, .finalize mainFinalize 1, .recordOutcome planPush ⟨1⟩ 2 0]

/-- A receipt and a recorded push, and one row. -/
theorem reported_turn_loses :
    Along (Outbox.step (legacyConfig (tokenPolicy .low)) outcomeEvents renderId)
      (Outbox.Enqueues outcomeEvents renderId) fresh reportedTurn ∧
    (outboxRun reportedTurn).store.receipts.rows.length = 1 ∧
    times (Outbox.step (legacyConfig (tokenPolicy .low)) outcomeEvents renderId) pushRecorded fresh
      reportedTurn = 1 ∧
    ((outboxRun reportedTurn).deliveries.ofKind .outcome).length = 1 := by
  refine ⟨⟨trivial, ?_, ?_, trivial⟩, by decide +kernel, by decide +kernel, by decide +kernel⟩
  · intro receipt _
    exact ⟨by decide +kernel, rfl, rfl⟩
  · intro revision updated _
    exact ⟨by decide +kernel, rfl, rfl⟩

/-- A finalized turn and a push of the task; the first event fails twice and is given up. -/
def deliveredTurn : List OutboxOp :=
  [.preflight (lanePreflight 1) 0, .finalize mainFinalize 1,
    .recordOutcome (taskPush "ci") ⟨1⟩ 2 1000000000, .poll 1000000000,
    .deliver (.ok 500) 1000000000 false, .deliver (.ok 204) 1000000000 false, .poll 3000000000,
    .deliver (.error "timed out") 3000000000 false]

theorem delivered_turn :
    (((outboxRun deliveredTurn).deliveries.ofKind .outcome).length = 2 ∧
      (outboxRun deliveredTurn).deliveries.table.rows.map DeliveryRow.state = [.abandoned, .delivered]) ∧
    ∀ r ∈ (outboxRun deliveredTurn).deliveries, r.attempts ≤ outcomeEvents.maxAttempts := by
  have enqueues : Along (Outbox.step (legacyConfig (tokenPolicy .low)) outcomeEvents renderId)
      (Outbox.Enqueues outcomeEvents renderId) fresh deliveredTurn := by
    refine ⟨trivial, ?_, ?_, trivial, trivial, trivial, trivial, trivial, trivial⟩
    · intro receipt _
      exact ⟨by decide +kernel, rfl, rfl⟩
    · intro revision updated _
      exact ⟨by decide +kernel, rfl, rfl⟩
  have rows := outcome_rows (legacyConfig (tokenPolicy .low)) outcomeEvents renderId (by decide) fresh
    fresh_within deliveredTurn enqueues
  unfold outboxRun
  refine ⟨⟨?_, by decide +kernel⟩, rows.2.2.2⟩
  have apart : (emitted (Outbox.step (legacyConfig (tokenPolicy .low)) outcomeEvents renderId) accepted
      fresh deliveredTurn).Nodup := by decide +kernel
  have none_queued : ∀ subject ∈ emitted (Outbox.step (legacyConfig (tokenPolicy .low)) outcomeEvents
      renderId) accepted fresh deliveredTurn, subjectKey subject ∉ fresh.deliveries.keys := by
    intro subject _
    exact List.not_mem_nil
  have counted := rows.1.mpr ⟨apart, none_queued⟩
  refine counted.trans ?_
  decide +kernel

end Outbox

end LibraGovernor
