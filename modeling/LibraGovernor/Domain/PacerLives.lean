/-
# LibraGovernor.Domain.PacerLives -- the life of one task

Seen from outside a task waits, runs and is settled.  `Life` follows one task through what a
run shows: the events, and the starts that are proposed.  The pacer keeps it spread over five
maps and sets; `lives_agree` says that they are the same, so that a completed task has exactly one
usage record, for the most it reported in its hold's unit and at least its settlement floor, and no
other task has any.

A restart sends a running task back to waiting, and what it had reported is forgotten.
-/
import LibraGovernor.Domain.PacerSafe

namespace LibraGovernor

open Transition

set_option autoImplicit false

/-! ## A life -/

inductive Life where
  | waiting (estimate : RemainingWorkEstimate)
  | running (estimate : RemainingWorkEstimate) (hold : QuotaAmount) (settlementFloor : Nat)
      (reports : List Nat)
  | settled (instant : OffsetDateTime) (amount : QuotaAmount)
  deriving DecidableEq

namespace Life

/-- What an event is to the task. -/
def event (id : SimTaskId) : Life → PacingEvent → Life
  | .waiting estimate, .estimateRevised _ _ task revised =>
      if task = id then .waiting revised else .waiting estimate
  | .running estimate hold settlementFloor reports, .spend _ _ task amount =>
      if task = id ∧ amount.unit = hold.unit then
        .running estimate hold settlementFloor (reports ++ [amount.value])
      else .running estimate hold settlementFloor reports
  | .running estimate hold settlementFloor reports, .taskCompleted instant _ task =>
      if task = id then .settled instant ⟨hold.unit, max (reports.foldl max 0) settlementFloor⟩
      else .running estimate hold settlementFloor reports
  | life, _ => life

/-- The hold of the task's start, if it is started. -/
def startedWith (id : SimTaskId) (proposals : List Proposal) : Option QuotaAmount :=
  proposals.findSome? fun p =>
    match p with
    | .start task _ hold _ => if task = id then some hold else none
    | .hold _ => none

def start (policy : AdmissionPolicy) (scenario : Scenario) (id : SimTaskId) (proposals : List Proposal) :
    Life → Life
  | .waiting estimate =>
      match startedWith id proposals with
      | some hold => .running estimate hold (recordedHold estimate scenario policy 100).value []
      | none => .waiting estimate
  | life => life

def restart : Life → Life
  | .running estimate _ _ _ => .waiting estimate
  | life => life

/-- What a step shows of the task. -/
def observe (policy : AdmissionPolicy) (scenario : Scenario) (id : SimTaskId) (life : Life)
    (i : PacerInput) (proposals : List Proposal) : Life :=
  match i with
  | .event e => (life.event id e).start policy scenario id proposals
  | .restart => life.restart

/-- The life that a trace shows. -/
def along (policy : AdmissionPolicy) (scenario : Scenario) (id : SimTaskId) (life : Life)
    (trace : List (PacerInput × List Proposal)) : Life :=
  trace.foldl (fun life shown => life.observe policy scenario id shown.1 shown.2) life

end Life

/-- What a run shows: its inputs, each with what the step proposes. -/
def pacerTrace (policy : AdmissionPolicy) (scenario : Scenario) :
    PacerState → List PacerInput → List (PacerInput × List Proposal)
  | _, [] => []
  | s, i :: inputs =>
      (i, i.proposed policy scenario s) :: pacerTrace policy scenario (i.next policy scenario s) inputs

/-! ## What the pacer has of it -/

/-- The usage records of a task: when, and how much. -/
def PacerState.recordsOf (s : PacerState) (id : SimTaskId) : List (OffsetDateTime × QuotaAmount) :=
  (s.usageLog.filter fun u => u.id = ⟨pendingHoldSettlementUuid id⟩).map fun u => (u.occurredAt, u.amount)

/-- The state has a task as its life says. -/
def Agrees (s : PacerState) (task : SimTask) : Life → Prop
  | .waiting estimate => Fields.get task.id s.active = none ∧ task.id ∉ s.completed ∧
      s.recordsOf task.id = [] ∧
      (Fields.get task.id s.revisedEstimates).getD task.estimate = estimate
  | .running estimate hold settlementFloor reports =>
      (∃ a, Fields.get task.id s.active = some a ∧ a.hold = hold ∧ a.settlementFloor = settlementFloor) ∧
      (Fields.get task.id s.spendSoFar).getD 0 = reports.foldl max 0 ∧ s.recordsOf task.id = [] ∧
      (Fields.get task.id s.revisedEstimates).getD task.estimate = estimate
  | .settled instant amount => task.id ∈ s.completed ∧
      s.recordsOf task.id = [(normalizeUtcMs instant, amount)]

/-- The records are of completed tasks, and holds count in units that are recorded. -/
structure RecordsInv (scenario : Scenario) (s : PacerState) : Prop where
  tasks : ∀ id ∈ s.completed, ∃ task ∈ scenario.tasks.tasks, task.id = id
  completed : ∀ u ∈ s.usageLog, ∃ id ∈ s.completed, u.id = ⟨pendingHoldSettlementUuid id⟩
  counted : ∀ id a, Fields.get id s.active = some a → a.hold.unit ≠ .percent

theorem settlementUuid_injective : Function.Injective fun id : SimTaskId =>
    (⟨pendingHoldSettlementUuid id⟩ : EconomicEventId) := by
  intro a b same
  have shifted := congrArg BitVec.toNat (xor_cancel (congrArg EconomicEventId.uuid same))
  have la := a.number.isLt
  have lb := b.number.isLt
  simp only [BitVec.toNat_shiftLeft, BitVec.toNat_setWidth, Nat.shiftLeft_eq] at shifted
  apply SimTaskId.number_injective
  show a.number.toNat = b.number.toNat
  omega

/-- No window that a need is computed for counts percent. -/
theorem recordedHold_unit (estimate : RemainingWorkEstimate) (scenario : Scenario)
    (policy : AdmissionPolicy) (backoff : Nat) :
    (recordedHold estimate scenario policy backoff).unit ≠ .percent := by
  unfold recordedHold
  split
  · rename_i need computed
    unfold computeTaskNeed at computed
    split at computed
    · cases computed
    · cases computed
    split at computed
    · cases computed
    rename_i kind p90 _ _ first others matching_
    have mem : first ∈ matchingWindows scenario.windows kind := matching_ ▸ List.mem_cons_self
    have countable := (of_decide_eq_true (List.mem_filter.mp mem).2).1
    have unit : first.unit ≠ .percent := by
      intro percent
      have gauge := first.percent percent
      rw [QuotaWindow.isGauge] at countable
      rw [gauge] at countable
      cases countable
    split at computed
    · cases computed
    extract_lets floored at computed
    clear_value floored
    split at computed
    · cases computed
      exact unit
    split at computed
    · cases computed
    · cases computed
      exact unit
  · simp
  · simp

section Step

variable {policy : AdmissionPolicy} {scenario : Scenario} {s : PacerState} {task : SimTask} {life : Life}

/-- A completed task is recorded where its instant can be. -/
theorem settlementUsage_some {id : SimTaskId} {instant : OffsetDateTime} {amount : QuotaAmount}
    (fits : instant.Representable) (counted : amount.unit ≠ .percent) :
    ∃ usage, settlementUsage id instant amount = some usage ∧
      usage.id = ⟨pendingHoldSettlementUuid id⟩ ∧ usage.occurredAt = normalizeUtcMs instant ∧
      usage.amount = amount := by
  rw [settlementUsage, dif_pos fits, QuotaUsage.new, dif_neg counted]
  exact ⟨_, rfl, rfl, rfl, rfl⟩

/-! ### Starts -/

theorem startedWith_filter (id : SimTaskId) (proposals : List Proposal) :
    Life.startedWith id proposals = Life.startedWith id (proposals.filter Proposal.isStart) := by
  induction proposals with
  | nil => rfl
  | cons p more ih =>
      cases p with
      | hold next =>
          rw [List.filter_cons_of_neg (by simp [Proposal.isStart]), ← ih]
          rfl
      | start other now hold cause =>
          rw [List.filter_cons_of_pos rfl]
          simp only [Life.startedWith, List.findSome?_cons] at ih ⊢
          split
          · rfl
          · exact ih

theorem startedWith_map (id : SimTaskId) (now : OffsetDateTime)
    (started : List (SimTaskId × QuotaAmount)) :
    Life.startedWith id (started.map (startOf now)) =
      (started.find? fun x => x.1 = id).map Prod.snd := by
  induction started with
  | nil => rfl
  | cons x more ih =>
      rw [List.find?_cons]
      simp only [Life.startedWith, List.map_cons, List.findSome?_cons, startOf] at ih ⊢
      by_cases same : x.1 = id
      · simp [same]
      · simpa [same] using ih

theorem Starts.recordsOf {now : OffsetDateTime} {started : List (SimTaskId × QuotaAmount)}
    {s s' : PacerState} (starts : Starts now policy scenario s started s') (id : SimTaskId) :
    s'.recordsOf id = s.recordsOf id := by
  rw [PacerState.recordsOf, starts.frame.2.1]
  rfl

/-- The pass starts the task as its life says, or leaves it. -/
theorem Starts.agrees {now : OffsetDateTime} {started : List (SimTaskId × QuotaAmount)}
    {s s' : PacerState} (starts : Starts now policy scenario s started s') (inv : PacerInv scenario s)
    (distinct : (scenario.tasks.tasks.map SimTask.id).Nodup) (listed : task ∈ scenario.tasks.tasks)
    (agrees : Agrees s task life) :
    Agrees s' task (life.start policy scenario task.id (started.map (startOf now))) := by
  obtain ⟨completed, log, spends, estimates, -⟩ := starts.frame
  have records := starts.recordsOf task.id
  cases life with
  | settled instant amount =>
      obtain ⟨done, recorded⟩ := agrees
      exact ⟨completed ▸ done, records.trans recorded⟩
  | running estimate hold settlementFloor reports =>
      obtain ⟨⟨a, here, same⟩, spent, none_, revised⟩ := agrees
      exact ⟨⟨a, starts.kept inv here, same⟩, spends ▸ spent, records.trans none_, estimates ▸ revised⟩
  | waiting estimate =>
      obtain ⟨idle, open_, none_, revised⟩ := agrees
      rw [Life.start, startedWith_map]
      cases found : started.find? fun x => x.1 = task.id with
      | none =>
          have count := starts.count inv task.id
          have never : started.countP (fun x => x.1 = task.id) = 0 :=
            List.countP_eq_zero.mpr (List.find?_eq_none.mp found)
          rw [idle, never] at count
          refine ⟨?_, completed ▸ open_, records.trans none_, estimates ▸ revised⟩
          simpa using count
      | some x =>
          obtain ⟨before, middle, task', estimate', floor', after, early, start, named, late⟩ :=
            starts.decided (List.mem_of_find?_eq_some found)
          have id_eq : x.1 = task.id := by simpa using List.find?_some found
          have same : task' = task :=
            List.inj_on_of_nodup_map distinct (mem_readyOrder.mp start.ready).1 listed
              (named.trans id_eq)
          subst same
          have live : estimate' = estimate := by
            rw [start.live, early.frame.2.2.2.1, revised]
          subst live
          have inv' := (early.inv inv).start start
          have there := @Starts.kept _ _ _ _ _ _ late inv' task'.id _ (by
            rw [get_startTask (early.inv inv).ascending, if_pos rfl])
          refine ⟨⟨_, there, rfl, start.floor_eq⟩, ?_, records.trans none_, estimates ▸ revised⟩
          rw [spends, inv.spending _ idle]
          rfl

/-! ### Events -/

theorem RecordsInv.timer (inv : RecordsInv scenario s) (timer : Option OffsetDateTime) :
    RecordsInv scenario { s with pendingTimer := timer } := ⟨inv.tasks, inv.completed, inv.counted⟩

theorem RecordsInv.restart (inv : RecordsInv scenario s) : RecordsInv scenario s.restartReset where
  tasks := inv.tasks
  completed := inv.completed
  counted _ _ here := by cases here

theorem Starts.records {now : OffsetDateTime} {started : List (SimTaskId × QuotaAmount)}
    {s s' : PacerState} (starts : Starts now policy scenario s started s') (inv : PacerInv scenario s)
    (records : RecordsInv scenario s) : RecordsInv scenario s' := by
  induction starts with
  | nil => exact records
  | cons first _ ih =>
      refine ih (inv.start first) ⟨records.tasks, records.completed, ?_⟩
      intro id a here
      rw [get_startTask inv.ascending] at here
      split at here
      · cases here
        rw [first.hold_eq]
        exact recordedHold_unit _ _ _ _
      · exact records.counted id a here

/-- What completing a task adds to the records. -/
theorem recordsOf_complete (records : RecordsInv scenario s) {id : SimTaskId} {a : ActiveTask}
    (here : Fields.get id s.active = some a) {instant : OffsetDateTime} (fits : instant.Representable)
    (other : SimTaskId) :
    (s.completeTask id instant).recordsOf other = s.recordsOf other ++
      if other = id then
        [(normalizeUtcMs instant,
          ⟨a.hold.unit, max ((Fields.get id s.spendSoFar).getD 0) a.settlementFloor⟩)]
      else [] := by
  obtain ⟨usage, settles, named, when_, amount⟩ := @settlementUsage_some id instant
    ⟨a.hold.unit, max ((Fields.get id s.spendSoFar).getD 0) a.settlementFloor⟩ fits
    (records.counted id a here)
  simp only [PacerState.completeTask, here, PacerState.recordsOf, settles, Option.toList_some,
    List.filter_append, List.map_append]
  congr 1
  by_cases same : other = id
  · subst same
    rw [if_pos rfl, List.filter_cons_of_pos (by simp [named]), List.filter_nil, List.map_singleton,
      when_, amount]
  · rw [if_neg same, List.filter_cons_of_neg, List.filter_nil, List.map_nil]
    rw [decide_eq_true_iff, named]
    exact fun eq => same (settlementUuid_injective eq).symm

theorem RecordsInv.apply_ (inv : PacerInv scenario s) (records : RecordsInv scenario s) (event : PacingEvent) :
    RecordsInv scenario (s.apply_ event scenario) := by
  cases event with
  | modeChanged instant seq => exact records
  | snapshotIngested instant seq snapshot => exact records
  | spend instant seq id amount =>
      show RecordsInv scenario (s.reportSpend id amount)
      unfold PacerState.reportSpend
      split
      · exact records
      split
      · exact records
      · exact ⟨records.tasks, records.completed, records.counted⟩
  | estimateRevised instant seq id estimate =>
      show RecordsInv scenario (s.reviseEstimate scenario id estimate)
      unfold PacerState.reviseEstimate
      split
      · exact ⟨records.tasks, records.completed, records.counted⟩
      · exact records
  | taskCompleted instant seq id =>
      show RecordsInv scenario (s.completeTask id instant)
      unfold PacerState.completeTask
      split
      · exact records
      rename_i a here
      refine ⟨?_, ?_, ?_⟩
      · intro other mem
        rcases Finset.mem_insert.mp mem with rfl | old
        · obtain ⟨t, listed, named, -⟩ := inv.ready other a here
          exact ⟨t, listed, named⟩
        · exact records.tasks other old
      · intro u mem
        rcases List.mem_append.mp mem with old | new
        · obtain ⟨other, done, named⟩ := records.completed u old
          exact ⟨other, Finset.mem_insert_of_mem done, named⟩
        · refine ⟨id, Finset.mem_insert_self _ _, ?_⟩
          rw [Option.mem_toList] at new
          rw [settlementUsage] at new
          split at new
          · rw [QuotaUsage.new] at new
            split at new
            · rename_i booked
              split at booked
              · cases booked
              · cases booked
                cases new
                rfl
            · cases new
          · cases new
      · intro other a' found
        rw [Fields.get_remove] at found
        split at found
        · cases found
        · exact records.counted other a' found

/-- A report that counts raises what the task has spent. -/
theorem reportSpend_fields (s : PacerState) (id : SimTaskId) (amount : QuotaAmount) :
    (s.reportSpend id amount).active = s.active ∧
    (s.reportSpend id amount).completed = s.completed ∧
    (s.reportSpend id amount).usageLog = s.usageLog ∧
    (s.reportSpend id amount).revisedEstimates = s.revisedEstimates ∧
    (s.reportSpend id amount).spendSoFar =
      if (Fields.get id s.active).any (fun a => decide (a.hold.unit = amount.unit)) = true then
        Fields.upsert id 0 (max amount.value) s.spendSoFar
      else s.spendSoFar := by
  unfold PacerState.reportSpend
  cases Fields.get id s.active with
  | none => exact ⟨rfl, rfl, rfl, rfl, rfl⟩
  | some a =>
      by_cases unit : a.hold.unit = amount.unit
      · simp [unit]
      · simp [unit]

/-- The state follows the life through an event. -/
theorem Agrees.apply_ (inv : PacerInv scenario s) (records : RecordsInv scenario s)
    (listed : task ∈ scenario.tasks.tasks) {event : PacingEvent}
    (fits : event.instant.Representable) (agrees : Agrees s task life) :
    Agrees (s.apply_ event scenario) task (life.event task.id event) := by
  cases event with
  | modeChanged instant seq => cases life <;> exact agrees
  | snapshotIngested instant seq snapshot => cases life <;> exact agrees
  | spend instant seq id amount =>
      show Agrees (s.reportSpend id amount) task _
      obtain ⟨active, completed, log, estimates, spends⟩ := reportSpend_fields s id amount
      have records' : (s.reportSpend id amount).recordsOf task.id = s.recordsOf task.id := by
        rw [PacerState.recordsOf, log]
        rfl
      cases life with
      | waiting estimate =>
          obtain ⟨idle, open_, none_, revised⟩ := agrees
          exact ⟨active ▸ idle, completed ▸ open_, records'.trans none_, estimates ▸ revised⟩
      | settled at_ total => exact ⟨completed ▸ agrees.1, records'.trans agrees.2⟩
      | running estimate hold settlementFloor reports =>
          obtain ⟨⟨a, here, held, floor⟩, spent, none_, revised⟩ := agrees
          rw [Life.event]
          by_cases counts : id = task.id ∧ amount.unit = hold.unit
          · obtain ⟨rfl, unit⟩ := counts
            rw [if_pos ⟨rfl, unit⟩]
            refine ⟨⟨a, active ▸ here, held, floor⟩, ?_, records'.trans none_, estimates ▸ revised⟩
            rw [spends, here, Option.any_some, if_pos (decide_eq_true (held ▸ unit.symm)),
              Fields.get_upsert inv.spends, if_pos rfl, Option.getD_some, spent, List.foldl_append,
              List.foldl_cons, List.foldl_nil, max_comm]
          · rw [if_neg counts]
            refine ⟨⟨a, active ▸ here, held, floor⟩, ?_, records'.trans none_, estimates ▸ revised⟩
            rw [spends]
            split
            · rename_i taken
              have other : task.id ≠ id := by
                rintro rfl
                rw [here, Option.any_some, decide_eq_true_iff, held] at taken
                exact counts ⟨rfl, taken.symm⟩
              rw [Fields.get_upsert inv.spends, if_neg other]
              exact spent
            · exact spent
  | estimateRevised instant seq id estimate' =>
      show Agrees (s.reviseEstimate scenario id estimate') task _
      unfold PacerState.reviseEstimate
      have apart : id ≠ task.id → (Fields.get task.id (Fields.upsert id estimate'
          (fun _ => estimate') s.revisedEstimates)) = Fields.get task.id s.revisedEstimates := by
        intro other
        rw [Fields.get_upsert inv.estimates, if_neg (Ne.symm other)]
      cases life with
      | settled at_ total =>
          split
          · exact agrees
          · exact agrees
      | running estimate hold settlementFloor reports =>
          obtain ⟨⟨a, here, held⟩, spent, none_, revised⟩ := agrees
          rw [Life.event]
          split
          · rename_i taken
            have other : id ≠ task.id := by
              rintro rfl
              rw [here] at taken
              cases taken.2.1
            refine ⟨⟨a, here, held⟩, spent, none_, ?_⟩
            rw [apart other]
            exact revised
          · exact ⟨⟨a, here, held⟩, spent, none_, revised⟩
          all_goals simp
      | waiting estimate =>
          obtain ⟨idle, open_, none_, revised⟩ := agrees
          rw [Life.event]
          by_cases same : id = task.id
          · subst same
            rw [if_pos ⟨⟨task, listed, rfl⟩, idle, open_⟩, if_pos rfl]
            refine ⟨idle, open_, none_, ?_⟩
            rw [Fields.get_upsert inv.estimates, if_pos rfl]
            rfl
          · rw [if_neg same]
            split
            · refine ⟨idle, open_, none_, ?_⟩
              rw [apart same]
              exact revised
            · exact ⟨idle, open_, none_, revised⟩
  | taskCompleted instant seq id =>
      show Agrees (s.completeTask id instant) task _
      cases here : Fields.get id s.active with
      | none =>
          have same : s.completeTask id instant = s := by rw [PacerState.completeTask, here]
          rw [same]
          cases life with
          | waiting estimate => exact agrees
          | settled at_ total => exact agrees
          | running estimate hold settlementFloor reports =>
              rw [Life.event, if_neg]
              · exact agrees
              · rintro rfl
                obtain ⟨⟨a, there, -⟩, -⟩ := agrees
                rw [here] at there
                cases there
      | some a =>
          have recorded := recordsOf_complete records here (show instant.Representable from fits) task.id
          have active : (s.completeTask id instant).active = Fields.remove id s.active := by
            simp only [PacerState.completeTask, here]
          have done : task.id ∈ (s.completeTask id instant).completed ↔
              task.id = id ∨ task.id ∈ s.completed := by
            simp only [PacerState.completeTask, here, Finset.mem_insert]
          have estimates : (s.completeTask id instant).revisedEstimates = s.revisedEstimates := by
            simp only [PacerState.completeTask, here]
          by_cases same : id = task.id
          · subst same
            rw [if_pos rfl] at recorded
            cases life with
            | waiting estimate =>
                rw [agrees.1] at here
                cases here
            | settled at_ total => exact absurd agrees.1 (inv.unfinished _ a here)
            | running estimate hold settlementFloor reports =>
                obtain ⟨⟨a', there, held, floor⟩, spent, none_, -⟩ := agrees
                rw [here] at there
                cases there
                rw [Life.event, if_pos rfl]
                refine ⟨done.mpr (.inl rfl), ?_⟩
                rw [recorded, none_, List.nil_append, held, spent, floor]
          · have other := Ne.symm same
            rw [if_neg other, List.append_nil] at recorded
            have kept : Fields.get task.id (s.completeTask id instant).active =
                Fields.get task.id s.active := by
              rw [active, Fields.get_remove, if_neg other]
            cases life with
            | waiting estimate =>
                obtain ⟨idle, open_, none_, revised⟩ := agrees
                exact ⟨kept.trans idle, fun mem => (done.mp mem).elim other open_,
                  recorded.trans none_, estimates ▸ revised⟩
            | settled at_ total => exact ⟨done.mpr (.inr agrees.1), recorded.trans agrees.2⟩
            | running estimate hold settlementFloor reports =>
                obtain ⟨⟨a', there, held⟩, spent, none_, revised⟩ := agrees
                rw [Life.event, if_neg same]
                refine ⟨⟨a', kept.trans there, held⟩, ?_, recorded.trans none_, estimates ▸ revised⟩
                simp only [PacerState.completeTask, here, Fields.get_remove, if_neg other]
                exact spent

/-! ## Runs -/

/-- The state follows the life through a step. -/
theorem Agrees.next (inv : PacerInv scenario s) (records : RecordsInv scenario s)
    (distinct : (scenario.tasks.tasks.map SimTask.id).Nodup) (listed : task ∈ scenario.tasks.tasks)
    (i : PacerInput) (fits : ∀ e, i = .event e → e.instant.Representable)
    (agrees : Agrees s task life) :
    Agrees (i.next policy scenario s) task
      (life.observe policy scenario task.id i (i.proposed policy scenario s)) := by
  cases i with
  | restart =>
      cases life with
      | waiting estimate => exact ⟨rfl, agrees.2⟩
      | settled instant amount => exact agrees
      | running estimate hold settlementFloor reports =>
          obtain ⟨⟨a, here, -⟩, -, none_, revised⟩ := agrees
          exact ⟨rfl, inv.unfinished _ a here, none_, revised⟩
  | event e =>
      obtain ⟨started, last, timer, starts, same, proposals⟩ := pacingStep_starts s e policy scenario
      have prepared : Agrees (s.prepared e scenario) task (life.event task.id e) := by
        refine Agrees.apply_ (inv.timer none) (records.timer none) listed (fits e rfl) ?_
        cases life <;> exact agrees
      have after := starts.agrees (inv.prepared e) distinct listed prepared
      have shown : (life.event task.id e).start policy scenario task.id
          (pacingStep s e policy scenario).2 =
          (life.event task.id e).start policy scenario task.id (started.map (startOf e.instant)) := by
        cases life.event task.id e with
        | waiting estimate => rw [Life.start, startedWith_filter, proposals, Life.start]
        | running estimate hold settlementFloor reports => rfl
        | settled instant amount => rfl
      show Agrees (pacingStep s e policy scenario).1 task ((life.event task.id e).start policy scenario
        task.id (pacingStep s e policy scenario).2)
      rw [shown, same]
      revert after
      cases (life.event task.id e).start policy scenario task.id (started.map (startOf e.instant)) <;>
        exact fun after => after

theorem RecordsInv.next (inv : PacerInv scenario s) (records : RecordsInv scenario s)
    (i : PacerInput) : RecordsInv scenario (i.next policy scenario s) := by
  cases i with
  | restart => exact records.restart
  | event e =>
      obtain ⟨started, last, timer, starts, same, -⟩ := pacingStep_starts s e policy scenario
      show RecordsInv scenario (pacingStep s e policy scenario).1
      rw [same]
      exact (starts.records (inv.prepared e) ((records.timer none).apply_ (inv.timer none) e)).timer timer

theorem RecordsInv.default (scenario : Scenario) : RecordsInv scenario .default where
  tasks _ mem := absurd mem (Finset.notMem_empty _)
  completed _ mem := absurd mem List.not_mem_nil
  counted _ _ here := by cases here

theorem Agrees.run (inv : PacerInv scenario s) (records : RecordsInv scenario s)
    (distinct : (scenario.tasks.tasks.map SimTask.id).Nodup) (listed : task ∈ scenario.tasks.tasks)
    (inputs : List PacerInput) (fits : ∀ e, .event e ∈ inputs → e.instant.Representable)
    (agrees : Agrees s task life) :
    Agrees (Transition.run (fun s i => i.next policy scenario s) s inputs) task
      (life.along policy scenario task.id (pacerTrace policy scenario s inputs)) := by
  induction inputs generalizing s life with
  | nil => exact agrees
  | cons i inputs ih =>
      have here : ∀ e, i = .event e → e.instant.Representable := by
        rintro e rfl
        exact fits e List.mem_cons_self
      exact ih (inv.next i) (records.next inv i) (fun e mem => fits e (List.mem_cons_of_mem _ mem))
        (agrees.next inv records distinct listed i here)

end Step

/-- Over any run each task of the scenario is in the state its life says: a task that waits or runs has
no usage record, and a settled one exactly one, at its instant and for the most it had reported in the
unit of its hold, but at least its settlement floor.  Nothing else is recorded. -/
theorem lives_agree (policy : AdmissionPolicy) (scenario : Scenario)
    (distinct : (scenario.tasks.tasks.map SimTask.id).Nodup) (inputs : List PacerInput)
    (fits : ∀ e, .event e ∈ inputs → e.instant.Representable) :
    (∀ task ∈ scenario.tasks.tasks, Agrees (pacerRun policy scenario inputs) task
      (.along policy scenario task.id (.waiting task.estimate)
        (pacerTrace policy scenario .default inputs))) ∧
    ∀ u ∈ (pacerRun policy scenario inputs).usageLog, ∃ task ∈ scenario.tasks.tasks,
      task.id ∈ (pacerRun policy scenario inputs).completed ∧
        u.id = ⟨pendingHoldSettlementUuid task.id⟩ := by
  have records : RecordsInv scenario (pacerRun policy scenario inputs) :=
    (@run_invariant_always _ _ _ (fun s => PacerInv scenario s ∧ RecordsInv scenario s)
      (fun _ i both => ⟨both.1.next i, both.2.next both.1 i⟩) _ ⟨.default scenario, .default scenario⟩
      inputs).2
  refine ⟨fun task listed => ?_, fun u mem => ?_⟩
  · refine Agrees.run (.default scenario) (.default scenario) distinct listed inputs fits ?_
    exact ⟨rfl, Finset.notMem_empty _, rfl, rfl⟩
  · obtain ⟨id, done, named⟩ := records.completed u mem
    obtain ⟨task, listed, rfl⟩ := records.tasks id done
    exact ⟨task, listed, done, named⟩

/-- The hourly task is started, lost to a restart, started again and completed. -/
def hourlyInputs : List PacerInput :=
  [.event (.modeChanged 5000000 1), .restart, .event (.modeChanged 6000000 2),
    .event (.spend 7000000 3 ⟨1⟩ ⟨.tokens, 95⟩), .event (.taskCompleted 8000000 4 ⟨1⟩)]

theorem hourly_life : ∀ task ∈ hourlyScenario.tasks.tasks,
    Life.along hourlyPolicy hourlyScenario task.id (.waiting task.estimate)
      (pacerTrace hourlyPolicy hourlyScenario .default hourlyInputs) =
        .settled 8000000 ⟨.tokens, 95⟩ := by
  decide +kernel

theorem lives_agree_hourly : hourlyScenario.tasks.tasks ≠ [] ∧ ∀ task ∈ hourlyScenario.tasks.tasks,
    (pacerRun hourlyPolicy hourlyScenario hourlyInputs).recordsOf task.id =
      [(normalizeUtcMs 8000000, ⟨.tokens, 95⟩)] := by
  refine ⟨by decide, fun task listed => ?_⟩
  have agrees := (lives_agree hourlyPolicy hourlyScenario (by decide) hourlyInputs (by
    intro e mem
    simp only [hourlyInputs, List.mem_cons, PacerInput.event.injEq, List.not_mem_nil, or_false,
      reduceCtorEq, false_or] at mem
    rcases mem with rfl | rfl | rfl | rfl <;> decide)).1 task listed
  rw [hourly_life task listed] at agrees
  exact agrees.2

end LibraGovernor
