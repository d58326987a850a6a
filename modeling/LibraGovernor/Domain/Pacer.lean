/-
# LibraGovernor.Domain.Pacer -- the SUSTAIN/BURST state machine

`step` applies one event to the pacer's state and then tries to start what is ready
(`tryAdmit`).  A pass of `tryAdmit` considers the ready tasks one after another, in their
order, each at most once: a task is started now, held for a later instant, or refused.  The
earliest instant a task is held for is the one timer the step leaves pending.  A pass ends within
as many rounds as there are tasks (`tryAdmit_done`).
-/
import LibraGovernor.Domain.Forecast
import LibraGovernor.Domain.WorkingHours
import LibraGovernor.Lib.Fields
import Mathlib.Data.Finset.Insert
import Mathlib.Data.String.Basic
import Mathlib.Order.Basic

namespace LibraGovernor

open Transaction StableSort

set_option autoImplicit false

/-! ## Scenarios -/

inductive PacingPreference where
  | sustain (horizonSecs : Nat) (workingHours : Option WorkingHours) (continuityReserveBp : Nat)
  | burst (targetEnd : OffsetDateTime) (maxFanout : Nat)

structure Scenario where
  tasks : TaskSet
  windows : List QuotaWindow
  contract : Option CompletionContract
  preference : PacingPreference

inductive PacingEvent where
  | spend (instant : OffsetDateTime) (seq : Nat) (task : SimTaskId) (amount : QuotaAmount)
  | taskCompleted (instant : OffsetDateTime) (seq : Nat) (task : SimTaskId)
  | estimateRevised (instant : OffsetDateTime) (seq : Nat) (task : SimTaskId)
      (estimate : RemainingWorkEstimate)
  | modeChanged (instant : OffsetDateTime) (seq : Nat)
  | snapshotIngested (instant : OffsetDateTime) (seq : Nat) (snapshot : ProviderSnapshot)
  deriving DecidableEq

namespace PacingEvent

/-- `PacingEvent::at`. -/
def instant : PacingEvent → OffsetDateTime
  | .spend instant _ _ _ => instant
  | .taskCompleted instant _ _ => instant
  | .estimateRevised instant _ _ _ => instant
  | .modeChanged instant _ => instant
  | .snapshotIngested instant _ _ => instant

def seq : PacingEvent → Nat
  | .spend _ seq _ _ => seq
  | .taskCompleted _ seq _ => seq
  | .estimateRevised _ seq _ _ => seq
  | .modeChanged _ seq => seq
  | .snapshotIngested _ seq _ => seq

end PacingEvent

inductive Proposal where
  | start (task : SimTaskId) (instant : OffsetDateTime) (hold : QuotaAmount)
      (limiting : Option QuotaWindowId)
  | hold (next : NextAdmit)
  deriving DecidableEq, Repr

/-! ## State -/

theorem SimTaskId.number_injective :
    Function.Injective fun id : SimTaskId => id.number.toNat := by
  intro a b same
  cases a
  cases b
  exact congrArg SimTaskId.mk (BitVec.eq_of_toNat_eq same)

instance : LinearOrder SimTaskId :=
  LinearOrder.lift' (fun id => id.number.toNat) SimTaskId.number_injective

/-- One task started and not completed. -/
structure ActiveTask where
  principal : String
  hold : QuotaAmount
  settlementFloor : Nat
  startedAt : OffsetDateTime
  deriving DecidableEq, Repr

structure PacerState where
  completed : Finset SimTaskId
  active : List (SimTaskId × ActiveTask)
  backoffX100 : List (String × Nat)
  lastStart : Option OffsetDateTime
  pendingTimer : Option OffsetDateTime
  usageLog : List QuotaUsage
  spendSoFar : List (SimTaskId × Nat)
  revisedEstimates : List (SimTaskId × RemainingWorkEstimate)
  deriving DecidableEq

namespace PacerState

/-- `PacerState::default`. -/
def default : PacerState := ⟨∅, [], [], none, none, [], [], []⟩

def backoffFor (s : PacerState) (principal : String) : Nat :=
  (Fields.get principal s.backoffX100).getD 100

end PacerState

def maxBackoffRatioX100 : Nat := 400

/-! ## Ready order -/

def priorityRank : Priority → Nat
  | .low => 0
  | .normal => 1
  | .high => 2
  | .urgent => 3

/-- A deadline sorts by its instant, and before none. -/
def deadlineKey : Option OffsetDateTime → Nat ×ₗ Int
  | some deadline => toLex (0, deadline)
  | none => toLex (1, 0)

/-- Priority descending, deadline ascending, id ascending. -/
def readyKey (task : SimTask) : Nat ×ₗ (Nat ×ₗ Int) ×ₗ Nat :=
  toLex (3 - priorityRank task.priority, toLex (deadlineKey task.deadline, task.id.number.toNat))

def readyOrder (tasks : TaskSet) (completed : Finset SimTaskId) : List SimTask :=
  (tasks.tasks.filter fun t => t.id ∉ completed ∧ ∀ d ∈ t.dependsOn, d ∈ completed).insertionSort
    (ByKey readyKey)

/-! ## Holds -/

def activeHoldTag : BitVec 8 := 0x5A

/-- Unique to the window and the task: the task's number goes in at the fifth to eighth byte. -/
def pendingHoldId (window : QuotaWindowId) (task : SimTaskId) : ReservationId :=
  ⟨window.uuid ^^^ (activeHoldTag.setWidth 128 <<< 120) ^^^ (task.number.setWidth 128 <<< 64)⟩

/-- The holds of the active tasks that count in the window's unit, each at the most it has
reported. -/
def pendingForWindow (window : QuotaWindow) (s : PacerState) : List PendingHold :=
  (s.active.filter fun a => a.2.hold.unit = window.unit).map fun a =>
    ⟨pendingHoldId window.id a.1,
      ⟨a.2.hold.unit, max a.2.hold.value ((Fields.get a.1 s.spendSoFar).getD 0)⟩⟩

/-- The hold recorded for a started task. -/
def recordedHold (estimate : RemainingWorkEstimate) (scenario : Scenario) (policy : AdmissionPolicy)
    (backoff : Nat) : QuotaAmount :=
  match computeTaskNeed scenario.windows estimate scenario.contract none policy backoff 100 with
  | .ok (some need) => need
  | .ok none => ⟨.tokens, 0⟩
  | .error _ => ⟨.tokens, 0⟩

/-! ## Cutoffs and spacing -/

/-- `saturating_add` of seconds. -/
def OffsetDateTime.saturatingAdd (t : OffsetDateTime) (seconds : Nat) : OffsetDateTime :=
  min (t + seconds * nanosPerSecond) latest

/-- `i64::try_from(secs).unwrap_or(i64::MAX)`. -/
def toI64Secs (secs : Nat) : Nat := min secs (2 ^ 63 - 1)

/-- The cutoffs in the order of their priority; an instant at a cutoff is within it. -/
def cutoffRefusal (instant : OffsetDateTime) (policy : AdmissionPolicy)
    (preference : PacingPreference) (now : OffsetDateTime) : Option PacingUnavailableReason :=
  if policy.time.deadline.any fun deadline => decide (deadline < instant) then some .pastDeadline
  else
    match preference with
    | .burst targetEnd _ => if targetEnd < instant then some .pastTargetEnd else none
    | .sustain horizonSecs _ _ =>
        if now.saturatingAdd (toI64Secs horizonSecs) < instant then some .beyondHorizon else none

/-- What a window lets through in how many seconds. -/
def ratePerSec : WindowKind → Option (Nat × Nat)
  | .sliding lengthSecs limit => if 0 < lengthSecs then some (limit, lengthSecs) else none
  | .refillBucket _ refillAmount refillPeriodSecs _ _ =>
      if 0 < refillPeriodSecs then some (refillAmount, refillPeriodSecs) else none
  | _ => none

/-- The largest of the spacings the windows ask for. -/
def sustainSpacing (scenario : Scenario) (need : Nat) : Option Nat :=
  scenario.windows.foldl (fun tightest window =>
    match ratePerSec window.kind with
    | none => tightest
    | some (rate, secs) =>
        if 0 < rate then
          let candidateSpacing := toU64 (min (satMulU128 need secs + (rate - 1)) (2 ^ 128 - 1) / rate)
          some ((tightest.map fun t => max t candidateSpacing).getD candidateSpacing)
        else tightest) none

def approximateNeed (estimate : RemainingWorkEstimate) : Nat :=
  match estimate.resource with
  | .quantiles _ p90 =>
      match p90.kind with
      | .quotaPercent => (p90.value / percentUnit).toNat
      | _ => p90.value.toNat
  | _ => 0

/-! ## One pass of admission -/

structure Pass where
  working : PacerState
  proposals : List Proposal
  skip : Finset SimTaskId
  earliestPendingTimer : Option OffsetDateTime

def earlierTimer (current : Option OffsetDateTime) (candidate : OffsetDateTime) : OffsetDateTime :=
  match current with
  | some c => if c ≤ candidate then c else candidate
  | none => candidate

def fanoutCap : PacingPreference → Nat
  | .burst _ maxFanout => maxFanout
  | .sustain _ _ _ => 1

def startTask (s : PacerState) (id : SimTaskId) (principal : String) (hold : QuotaAmount)
    (settlementFloor : Nat) (now : OffsetDateTime) : PacerState :=
  let task : ActiveTask := ⟨principal, hold, settlementFloor, now⟩
  { s with active := Fields.upsert id task (fun _ => task) s.active, lastStart := some now }

/-- The instant from which the task may start, and what moved it past `now`. -/
def earliestAt (s : PacerState) (scenario : Scenario) (estimate : RemainingWorkEstimate)
    (now : OffsetDateTime) : OffsetDateTime × Option PacingCause :=
  match scenario.preference with
  | .burst _ _ => (now, none)
  | .sustain _ workingHours _ =>
      let afterHours := (workingHours.map (nextWorkingInstant now)).getD now
      let held : OffsetDateTime × Option PacingCause :=
        if now < afterHours then (afterHours, some .workingHours) else (now, none)
      match s.lastStart with
      | none => held
      | some last =>
          match sustainSpacing scenario (approximateNeed estimate) with
          | none => held
          | some spacing =>
              let nextAllowed := last.saturatingAdd (toI64Secs spacing)
              if held.1 < nextAllowed then (nextAllowed, some .spacing) else held

def forecastMode : PacingPreference → ForecastMode
  | .sustain _ _ continuityReserveBp => .sustain continuityReserveBp
  | .burst _ _ => .burst

def windowInputs (scenario : Scenario) (s : PacerState) : List WindowInput :=
  scenario.windows.map fun window => ⟨window, s.usageLog, pendingForWindow window s, []⟩

def NextAdmit.resolvedAt (answer : NextAdmit) (earliest : OffsetDateTime) : Option OffsetDateTime :=
  match answer with
  | .now => some earliest
  | .at_ instant _ => some instant
  | .paced instant _ => some instant
  | .unavailable _ => none

def NextAdmit.limiting : NextAdmit → Option QuotaWindowId
  | .at_ _ limiting => some limiting
  | _ => none

/-- The answer reported for a task held until `instant`. -/
def NextAdmit.heldUntil (answer : NextAdmit) (instant : OffsetDateTime) (cause : Option PacingCause) :
    NextAdmit :=
  match answer, cause with
  | .at_ own limiting, _ => .at_ own limiting
  | .paced own c, _ => .paced own c
  | _, some cause => .paced instant cause
  | answer, none => answer

namespace Pass

/-- A task that this pass does not start, with what is said of it. -/
def refuse (p : Pass) (id : SimTaskId) (next : NextAdmit) : Pass :=
  { p with proposals := p.proposals ++ [.hold next], skip := insert id p.skip }

/-- The estimate a task is admitted on: its latest revision, else its own. -/
def liveEstimate (p : Pass) (task : SimTask) : RemainingWorkEstimate :=
  (Fields.get task.id p.working.revisedEstimates).getD task.estimate

/-- Its principal backs off and has a task active. -/
def backsOff (p : Pass) (task : SimTask) : Prop :=
  100 < p.working.backoffFor task.principal.val ∧
    ∃ a ∈ p.working.active, a.2.principal = task.principal.val

instance (p : Pass) (task : SimTask) : Decidable (p.backsOff task) :=
  inferInstanceAs (Decidable (_ ∧ _))

/-- The body of the loop. -/
def consider (p : Pass) (now : OffsetDateTime) (policy : AdmissionPolicy) (scenario : Scenario)
    (task : SimTask) : Pass :=
  let estimate := p.liveEstimate task
  let backoff := p.working.backoffFor task.principal.val
  if p.backsOff task then { p with skip := insert task.id p.skip }
  else
  let earliest := earliestAt p.working scenario estimate now
  match cutoffRefusal earliest.1 policy scenario.preference now with
  | some reason => p.refuse task.id (.unavailable reason)
  | none =>
  let answer := earliestSafeAdmit (windowInputs scenario p.working) estimate policy scenario.contract
    none (forecastMode scenario.preference) backoff 100 earliest.1
  match answer.resolvedAt earliest.1 with
  | none => p.refuse task.id answer
  | some instant =>
  match cutoffRefusal instant policy scenario.preference now with
  | some reason => p.refuse task.id (.unavailable reason)
  | none =>
  if instant ≤ now then
    let hold := recordedHold estimate scenario policy backoff
    let settlementFloor := (recordedHold estimate scenario policy 100).value
    { p with
      working := startTask p.working task.id task.principal.val hold settlementFloor now
      proposals := p.proposals ++ [.start task.id now hold answer.limiting] }
  else
    { p.refuse task.id (answer.heldUntil instant earliest.2) with
      earliestPendingTimer := some (earlierTimer p.earliestPendingTimer instant) }

/-- The first ready task that is neither active nor skipped, while there is a slot. -/
def candidate (p : Pass) (scenario : Scenario) : Option SimTask :=
  if fanoutCap scenario.preference ≤ p.working.active.length then none
  else (readyOrder scenario.tasks p.working.completed).find? fun t =>
    decide (Fields.get t.id p.working.active = none ∧ t.id ∉ p.skip)

/-- The loop. Each round starts or skips a task of the scenario. -/
def run (now : OffsetDateTime) (policy : AdmissionPolicy) (scenario : Scenario) : Nat → Pass → Pass
  | 0, p => p
  | rounds + 1, p =>
      match p.candidate scenario with
      | none => p
      | some task => run now policy scenario rounds (p.consider now policy scenario task)

end Pass

def tryAdmit (s : PacerState) (now : OffsetDateTime) (policy : AdmissionPolicy)
    (scenario : Scenario) : PacerState × List Proposal :=
  let last := Pass.run now policy scenario scenario.tasks.tasks.length ⟨s, [], ∅, none⟩
  ({ last.working with pendingTimer := last.earliestPendingTimer }, last.proposals)

/-! ## The transition -/

def settlementNamespace : BitVec 128 := 0x1a2b3c4d5e6f708192a3b4c5d6e7f809

/-- The task's number goes in at the first four bytes. -/
def pendingHoldSettlementUuid (task : SimTaskId) : BitVec 128 :=
  settlementNamespace ^^^ (task.number.setWidth 128 <<< 96)

def ceilDiv (a b : Nat) : Nat := if b = 0 then a else toU64 (a + (b - 1)) / b

/-- The usage a completed task settles at; an instant of the type is one it can represent. -/
def settlementUsage (task : SimTaskId) (instant : OffsetDateTime) (amount : QuotaAmount) :
    Option QuotaUsage :=
  if fits : instant.Representable then
    match QuotaUsage.new ⟨pendingHoldSettlementUuid task⟩ instant amount fits with
    | .ok usage => some usage
    | .error _ => none
  else none

namespace PacerState

def completeTask (s : PacerState) (task : SimTaskId) (instant : OffsetDateTime) : PacerState :=
  match Fields.get task s.active with
  | none => s
  | some active =>
      let spend := Fields.get task s.spendSoFar
      let settledValue := max (spend.getD 0) active.settlementFloor
      { s with
        active := Fields.remove task s.active
        completed := insert task s.completed
        spendSoFar := Fields.remove task s.spendSoFar
        backoffX100 :=
          if spend.getD 0 ≤ active.hold.value then
            Fields.upsert active.principal 100 (fun _ => 100) s.backoffX100
          else s.backoffX100
        usageLog := s.usageLog ++ (settlementUsage task instant ⟨active.hold.unit, settledValue⟩).toList }

def reportSpend (s : PacerState) (task : SimTaskId) (amount : QuotaAmount) : PacerState :=
  match Fields.get task s.active with
  | none => s
  | some active =>
      if active.hold.unit ≠ amount.unit then s
      else
        let ratio := toU64 (ceilDiv amount.value (max active.hold.value 1) * 100)
        let capped := max 100 (min ratio maxBackoffRatioX100)
        { s with
          spendSoFar := Fields.upsert task 0 (max amount.value) s.spendSoFar
          backoffX100 :=
            if active.hold.value < amount.value then
              Fields.upsert active.principal 100 (max capped) s.backoffX100
            else s.backoffX100 }

def reviseEstimate (s : PacerState) (scenario : Scenario) (task : SimTaskId)
    (estimate : RemainingWorkEstimate) : PacerState :=
  if (∃ t ∈ scenario.tasks.tasks, t.id = task) ∧ Fields.get task s.active = none ∧
      task ∉ s.completed then
    { s with
      revisedEstimates := Fields.upsert task estimate (fun _ => estimate) s.revisedEstimates }
  else s

/-- The event's own effect. -/
def apply_ (s : PacerState) (event : PacingEvent) (scenario : Scenario) : PacerState :=
  match event with
  | .taskCompleted instant _ task => s.completeTask task instant
  | .spend _ _ task amount => s.reportSpend task amount
  | .estimateRevised _ _ task estimate => s.reviseEstimate scenario task estimate
  | .modeChanged _ _ => s
  | .snapshotIngested _ _ _ => s

end PacerState

/-- The pure transition: the event, then whatever can start. -/
def pacingStep (s : PacerState) (event : PacingEvent) (policy : AdmissionPolicy)
    (scenario : Scenario) : PacerState × List Proposal :=
  tryAdmit (({ s with pendingTimer := none } : PacerState).apply_ event scenario) event.instant policy
    scenario

/-! ## What a pass leaves -/

namespace Pass

variable {now : OffsetDateTime} {policy : AdmissionPolicy} {scenario : Scenario}

/-- A considered task is skipped, perhaps with a timer past `now`, or started. -/
theorem consider_cases (now : OffsetDateTime) (policy : AdmissionPolicy) (scenario : Scenario)
    (p : Pass) (task : SimTask) :
    ((p.consider now policy scenario task).working = p.working ∧
      (p.consider now policy scenario task).skip = insert task.id p.skip ∧
      ((p.consider now policy scenario task).earliestPendingTimer = p.earliestPendingTimer ∨
        ∃ t, now < t ∧ (p.consider now policy scenario task).earliestPendingTimer =
          some (earlierTimer p.earliestPendingTimer t))) ∨
    ∃ hold settlementFloor,
      (p.consider now policy scenario task).working =
          startTask p.working task.id task.principal.val hold settlementFloor now ∧
        (p.consider now policy scenario task).skip = p.skip ∧
        (p.consider now policy scenario task).earliestPendingTimer = p.earliestPendingTimer := by
  unfold Pass.consider
  dsimp only
  split
  · exact .inl ⟨rfl, rfl, .inl rfl⟩
  split
  · exact .inl ⟨rfl, rfl, .inl rfl⟩
  split
  · exact .inl ⟨rfl, rfl, .inl rfl⟩
  split
  · exact .inl ⟨rfl, rfl, .inl rfl⟩
  split
  · exact .inr ⟨_, _, rfl, rfl, rfl⟩
  · rename_i held
    exact .inl ⟨rfl, rfl, .inr ⟨_, Int.not_le.mp held, rfl⟩⟩

/-- A timer lies past the step that sets it. -/
def TimerAfter (now : OffsetDateTime) (p : Pass) : Prop :=
  ∀ t, p.earliestPendingTimer = some t → now < t

theorem earlierTimer_after {current : Option OffsetDateTime} {candidate : OffsetDateTime}
    (after : ∀ t, current = some t → now < t) (later : now < candidate) :
    now < earlierTimer current candidate := by
  cases current with
  | none => exact later
  | some c =>
      rw [earlierTimer]
      split
      · exact after c rfl
      · exact later

theorem TimerAfter.consider {p : Pass} (after : p.TimerAfter now) (task : SimTask) :
    (p.consider now policy scenario task).TimerAfter now := by
  intro t is
  rcases consider_cases now policy scenario p task with
    ⟨-, -, same | ⟨candidate, later, set⟩⟩ | ⟨_, _, -, -, same⟩
  · exact after t (same ▸ is)
  · rw [set] at is
    cases is
    exact earlierTimer_after after later
  · exact after t (same ▸ is)

theorem TimerAfter.run {p : Pass} (after : p.TimerAfter now) (rounds : Nat) :
    (run now policy scenario rounds p).TimerAfter now := by
  induction rounds generalizing p with
  | zero => exact after
  | succ rounds ih =>
      rw [Pass.run]
      split
      · exact after
      · exact ih (after.consider _)

/-- What a pass can still consider. -/
def left (p : Pass) (tasks : List SimTask) : List SimTask :=
  tasks.filter fun t => Fields.get t.id p.working.active = none ∧ t.id ∉ p.skip

/-- A considered task is closed, and no other becomes open again. -/
theorem open_consider {p : Pass} {task t : SimTask}
    (still : Fields.get t.id (p.consider now policy scenario task).working.active = none ∧
      t.id ∉ (p.consider now policy scenario task).skip) :
    (Fields.get t.id p.working.active = none ∧ t.id ∉ p.skip) ∧ t.id ≠ task.id := by
  rcases consider_cases now policy scenario p task with
    ⟨working, skip, -⟩ | ⟨hold, floor, working, skip, -⟩
  · rw [working, skip, Finset.mem_insert, not_or] at still
    exact ⟨⟨still.1, still.2.2⟩, still.2.1⟩
  · rw [working, skip] at still
    obtain ⟨other, before⟩ := (Fields.get_upsert_none t.id).mp still.1
    exact ⟨⟨before, still.2⟩, other.symm⟩

theorem left_consider {p : Pass} {tasks : List SimTask} {task : SimTask}
    (mem : task ∈ p.left tasks) :
    ((p.consider now policy scenario task).left tasks).length < (p.left tasks).length := by
  have sub : ((p.consider now policy scenario task).left tasks).Sublist (p.left tasks) := by
    refine List.monotone_filter_right tasks ?_
    intro t still
    rw [decide_eq_true_iff] at still ⊢
    exact (open_consider still).1
  refine lt_of_le_of_ne sub.length_le ?_
  intro same
  rw [← sub.eq_of_length same] at mem
  have still := of_decide_eq_true (List.mem_filter.mp mem).2
  exact (open_consider still).2 rfl

theorem candidate_mem {p : Pass} {task : SimTask} (found : p.candidate scenario = some task) :
    task ∈ p.left scenario.tasks.tasks := by
  rw [candidate] at found
  split at found
  · cases found
  · have ready := List.mem_of_find?_eq_some found
    rw [readyOrder, List.mem_insertionSort, List.mem_filter] at ready
    have kept := List.find?_some found
    exact List.mem_filter.mpr ⟨ready.1, kept⟩

/-- The loop ends because nothing is left to consider, not because its rounds run out. -/
theorem run_done {p : Pass} {rounds : Nat} (enough : (p.left scenario.tasks.tasks).length ≤ rounds) :
    (run now policy scenario rounds p).candidate scenario = none := by
  induction rounds generalizing p with
  | zero =>
      rw [Pass.run]
      cases found : p.candidate scenario with
      | none => rfl
      | some task =>
          have mem := List.length_pos_of_mem (candidate_mem found)
          omega
  | succ rounds ih =>
      rw [Pass.run]
      cases found : p.candidate scenario with
      | none => exact found
      | some task =>
          have fewer : ((p.consider now policy scenario task).left scenario.tasks.tasks).length < _ :=
            left_consider (candidate_mem found)
          exact ih (by omega)

end Pass

/-- As many rounds as there are tasks are enough. -/
theorem tryAdmit_done (s : PacerState) (now : OffsetDateTime) (policy : AdmissionPolicy)
    (scenario : Scenario) :
    (Pass.run now policy scenario scenario.tasks.tasks.length ⟨s, [], ∅, none⟩).candidate scenario =
      none :=
  Pass.run_done (List.length_filter_le _ _)

theorem pacingStep_timer {s : PacerState} {event : PacingEvent} {policy : AdmissionPolicy}
    {scenario : Scenario} {t : OffsetDateTime}
    (pending : (pacingStep s event policy scenario).1.pendingTimer = some t) : event.instant < t := by
  have start : (Pass.mk (({ s with pendingTimer := none } : PacerState).apply_ event scenario) [] ∅
      none).TimerAfter event.instant := by
    intro t is
    cases is
  exact start.run scenario.tasks.tasks.length t pending

end LibraGovernor
