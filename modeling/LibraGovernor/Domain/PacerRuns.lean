/-
# LibraGovernor.Domain.PacerRuns -- what the pacer keeps over whole runs

A run folds `step` over events, with restarts anywhere: `restart_reset` forgets what was active
and keeps what was completed.  A start is decided on `now` alone: the working hours, the spacing
and the forecast may each move it later, and then it is held (`StartedNow`).

The starts of a task add up: one if it has completed, one if it is active, and one for each
restart that found it active (`starts_accounted`).
-/
import LibraGovernor.Domain.Simulate
import LibraGovernor.Lib.Run

namespace LibraGovernor

open Transition

set_option autoImplicit false

/-! ## Runs -/

/-- `restart_reset`: what a restart can reload stays, and the instant of the last start. -/
def PacerState.restartReset (s : PacerState) : PacerState :=
  { PacerState.default with
    completed := s.completed
    lastStart := s.lastStart
    usageLog := s.usageLog
    revisedEstimates := s.revisedEstimates }

inductive PacerInput where
  | event (e : PacingEvent)
  | restart

namespace PacerInput

/-- What an input does, and what is proposed. -/
def outcome (policy : AdmissionPolicy) (scenario : Scenario) (s : PacerState) :
    PacerInput → PacerState × List Proposal
  | .event e => pacingStep s e policy scenario
  | .restart => (s.restartReset, [])

def next (policy : AdmissionPolicy) (scenario : Scenario) (s : PacerState) (i : PacerInput) :
    PacerState :=
  (i.outcome policy scenario s).1

def proposed (policy : AdmissionPolicy) (scenario : Scenario) (s : PacerState) (i : PacerInput) :
    List Proposal :=
  (i.outcome policy scenario s).2

end PacerInput

def Proposal.starts (id : SimTaskId) : Proposal → Bool
  | .start task _ _ _ => decide (task = id)
  | .hold _ => false

/-! ## The forecast's answer -/

section Answer

variable {windows : List WindowInput} {need : Option QuotaAmount} {mode : ForecastMode}

theorem probeRound_answer {t : OffsetDateTime} {latest answer : Option (OffsetDateTime × QuotaWindowId)}
    (read : probeRound need mode t latest windows = .ok answer)
    (late : ∀ x, latest = some x → t < x.1) :
    (∀ x, answer = some x → t < x.1) ∧
      (answer = none → latest = none ∧ ∀ input ∈ windows, checkWindow input need mode t = .admit_) := by
  induction windows generalizing latest with
  | nil =>
      cases read
      exact ⟨late, fun none_ => ⟨none_, by simp⟩⟩
  | cons input rest ih =>
      rw [probeRound] at read
      split at read
      · rename_i admits
        obtain ⟨later, done⟩ := ih read late
        refine ⟨later, fun none_ => ?_⟩
        obtain ⟨first, all⟩ := done none_
        exact ⟨first, List.forall_mem_cons.mpr ⟨admits, all⟩⟩
      · rename_i reliefAt blocked
        split at read
        · cases read
        rename_i ahead
        have ahead := Int.not_le.mp ahead
        obtain ⟨later, done⟩ := ih read (by
          rintro x ⟨⟩
          unfold laterRelief
          split
          · split
            · exact late _ rfl
            · exact ahead
          · exact ahead)
        refine ⟨later, fun none_ => ?_⟩
        cases (done none_).1
      · cases read

/-- The forecast answers `now` where every window admits, and any other instant is later. -/
theorem probe_answer {rounds : Nat} {t : OffsetDateTime} {limiting : Option QuotaWindowId} :
    (probe windows need mode rounds t limiting = .now →
      limiting = none ∧ ∀ input ∈ windows, checkWindow input need mode t = .admit_) ∧
    (∀ u id, probe windows need mode rounds t limiting = .at_ u id →
      t ≤ u ∧ (limiting = none → t < u)) ∧
    ∀ u cause, probe windows need mode rounds t limiting ≠ .paced u cause := by
  induction rounds generalizing t limiting with
  | zero => exact ⟨by simp [probe], by simp [probe], by simp [probe]⟩
  | succ rounds ih =>
      unfold probe
      cases read : probeRound need mode t none windows with
      | error reason => exact ⟨by simp, by simp, by simp⟩
      | ok answer =>
          obtain ⟨later, done⟩ := probeRound_answer read (by simp)
          cases answer with
          | none =>
              cases limiting with
              | none => exact ⟨fun _ => ⟨rfl, (done rfl).2⟩, by simp, by simp⟩
              | some id =>
                  refine ⟨by simp, ?_, by simp⟩
                  rintro u id' ⟨⟩
                  exact ⟨le_refl t, by simp⟩
          | some next =>
              have ahead := later next rfl
              obtain ⟨nows, ats, paceds⟩ := @ih next.1 (some next.2)
              refine ⟨fun now => ?_, fun u id at_ => ?_, paceds⟩
              · cases (nows now).1
              · have after := (ats u id at_).1
                exact ⟨le_of_lt (lt_of_lt_of_le ahead after), fun _ => lt_of_lt_of_le ahead after⟩

end Answer

theorem earliestSafeAdmit_now {windows : List WindowInput} {estimate : RemainingWorkEstimate}
    {policy : AdmissionPolicy} {contract : Option CompletionContract}
    {estimateForReserve : Option Estimate} {mode : ForecastMode} {numerator denominator : Nat}
    {startAt : OffsetDateTime}
    (now : earliestSafeAdmit windows estimate policy contract estimateForReserve mode numerator
      denominator startAt = .now) :
    ∃ need, computeTaskNeed (windows.map WindowInput.window) estimate contract estimateForReserve
        policy numerator denominator = .ok need ∧
      ∀ input ∈ windows, checkWindow input need mode startAt = .admit_ := by
  unfold earliestSafeAdmit at now
  split at now
  · cases now
  split at now
  · cases now
  · rename_i need computed
    exact ⟨need, computed, (probe_answer.1 now).2⟩

/-- An answer to start at or before the instant asked about is `now`. -/
theorem earliestSafeAdmit_start {windows : List WindowInput} {estimate : RemainingWorkEstimate}
    {policy : AdmissionPolicy} {contract : Option CompletionContract}
    {estimateForReserve : Option Estimate} {mode : ForecastMode} {numerator denominator : Nat}
    {startAt instant : OffsetDateTime}
    (resolved : (earliestSafeAdmit windows estimate policy contract estimateForReserve mode numerator
      denominator startAt).resolvedAt startAt = some instant) (early : instant ≤ startAt) :
    earliestSafeAdmit windows estimate policy contract estimateForReserve mode numerator denominator
      startAt = .now ∧ instant = startAt := by
  unfold earliestSafeAdmit at resolved ⊢
  split at resolved
  · cases resolved
  split at resolved
  · cases resolved
  rename_i confident _ need computed
  rw [if_neg confident]
  obtain ⟨-, ats, paceds⟩ := @probe_answer windows need mode maxProbeSteps startAt none
  cases answer : probe windows need mode maxProbeSteps startAt none with
  | now =>
      rw [answer] at resolved
      cases resolved
      exact ⟨rfl, rfl⟩
  | at_ u id =>
      rw [answer] at resolved
      cases resolved
      exact absurd early (not_le.mpr ((ats _ id answer).2 rfl))
  | paced u cause => exact absurd answer (paceds u cause)
  | unavailable reason =>
      rw [answer] at resolved
      cases resolved

/-! ## A start -/

theorem le_earliestAt (s : PacerState) (scenario : Scenario) (estimate : RemainingWorkEstimate)
    (now : OffsetDateTime) : now ≤ (earliestAt s scenario estimate now).1 := by
  unfold earliestAt
  split
  · exact le_refl now
  · have held : ∀ hours : OffsetDateTime, now ≤ (if now < hours then
        ((hours, some PacingCause.workingHours) : OffsetDateTime × Option PacingCause)
      else (now, none)).1 := by
      intro hours
      split
      · rename_i later
        exact le_of_lt later
      · exact le_refl now
    have after : ∀ (at_ : OffsetDateTime × Option PacingCause) (next : OffsetDateTime), now ≤ at_.1 →
        now ≤ (if at_.1 < next then (next, some PacingCause.spacing) else at_).1 := by
      intro at_ next le
      split
      · rename_i later
        exact le.trans (le_of_lt later)
      · exact le
    dsimp only
    split
    · exact held _
    split
    · exact held _
    · exact after _ _ (held _)

/-- What a start stands on: nothing holds the task back at `now`. -/
structure StartedNow (now : OffsetDateTime) (policy : AdmissionPolicy) (scenario : Scenario)
    (s : PacerState) (task : SimTask) (estimate : RemainingWorkEstimate) (hold : QuotaAmount)
    (settlementFloor : Nat) : Prop where
  ready : task ∈ readyOrder scenario.tasks s.completed
  idle : Fields.get task.id s.active = none
  slot : s.active.length < fanoutCap scenario.preference
  live : estimate = (Fields.get task.id s.revisedEstimates).getD task.estimate
  hold_eq : hold = recordedHold estimate scenario policy (s.backoffFor task.principal.val)
  floor_eq : settlementFloor = (recordedHold estimate scenario policy 100).value
  earliest : (earliestAt s scenario estimate now).1 = now
  within : cutoffRefusal now policy scenario.preference now = none
  answer : earliestSafeAdmit (windowInputs scenario s) estimate policy scenario.contract none
    (forecastMode scenario.preference) (s.backoffFor task.principal.val) 100 now = .now

namespace Pass

variable {now : OffsetDateTime} {policy : AdmissionPolicy} {scenario : Scenario}

/-- A considered candidate is passed over, with at most one thing said of it, or started now. -/
theorem consider_spec {p : Pass} {task : SimTask} (found : p.candidate scenario = some task) :
    ((p.consider now policy scenario task).working = p.working ∧
      ((p.consider now policy scenario task).proposals = p.proposals ∨
        ∃ next, (p.consider now policy scenario task).proposals = p.proposals ++ [.hold next])) ∨
    ∃ estimate hold settlementFloor,
      StartedNow now policy scenario p.working task estimate hold settlementFloor ∧
      (p.consider now policy scenario task).working =
        startTask p.working task.id task.principal.val hold settlementFloor now ∧
      (p.consider now policy scenario task).proposals =
        p.proposals ++ [.start task.id now hold none] := by
  have slot : p.working.active.length < fanoutCap scenario.preference ∧
      task ∈ readyOrder scenario.tasks p.working.completed ∧
      Fields.get task.id p.working.active = none := by
    rw [candidate] at found
    split at found
    · cases found
    rename_i room
    have kept := List.find?_some found
    rw [decide_eq_true_iff] at kept
    exact ⟨Nat.not_le.mp room, List.mem_of_find?_eq_some found, kept.1⟩
  obtain ⟨room, ready, idle⟩ := slot
  unfold Pass.consider
  dsimp only
  split
  · exact .inl ⟨rfl, .inl rfl⟩
  split
  · exact .inl ⟨rfl, .inr ⟨_, rfl⟩⟩
  rename_i uncut
  split
  · exact .inl ⟨rfl, .inr ⟨_, rfl⟩⟩
  rename_i instant resolved
  split
  · exact .inl ⟨rfl, .inr ⟨_, rfl⟩⟩
  split
  · rename_i early
    have from_ := le_earliestAt p.working scenario (p.liveEstimate task) now
    obtain ⟨answer, same⟩ := earliestSafeAdmit_start resolved (early.trans from_)
    have here : (earliestAt p.working scenario (p.liveEstimate task) now).1 = now :=
      le_antisymm (same ▸ early) from_
    refine .inr ⟨p.liveEstimate task, _, _, ⟨ready, idle, room, rfl, rfl, rfl, here, ?_, ?_⟩, rfl, ?_⟩
    · rw [← here]
      rw [here] at uncut ⊢
      exact uncut
    · rw [here] at answer
      exact answer
    · rw [answer]
      rfl
  · exact .inl ⟨rfl, .inr ⟨_, rfl⟩⟩

end Pass

/-! ## A pass is a sequence of starts -/

/-- One task after another is started, each from the state the last one left. -/
inductive Starts (now : OffsetDateTime) (policy : AdmissionPolicy) (scenario : Scenario) :
    PacerState → List (SimTaskId × QuotaAmount) → PacerState → Prop
  | nil {s : PacerState} : Starts now policy scenario s [] s
  | cons {s s' : PacerState} {task : SimTask} {estimate : RemainingWorkEstimate} {hold : QuotaAmount}
      {settlementFloor : Nat} {more : List (SimTaskId × QuotaAmount)}
      (first : StartedNow now policy scenario s task estimate hold settlementFloor)
      (rest : Starts now policy scenario
        (startTask s task.id task.principal.val hold settlementFloor now) more s') :
      Starts now policy scenario s ((task.id, hold) :: more) s'

/-- The proposal of a start. -/
def startOf (now : OffsetDateTime) (x : SimTaskId × QuotaAmount) : Proposal :=
  .start x.1 now x.2 none

def Proposal.isStart : Proposal → Bool
  | .start _ _ _ _ => true
  | .hold _ => false

section Starts

variable {now : OffsetDateTime} {policy : AdmissionPolicy} {scenario : Scenario} {s s' : PacerState}
  {started : List (SimTaskId × QuotaAmount)}

theorem Pass.run_starts (rounds : Nat) (p : Pass) :
    ∃ started, Starts now policy scenario p.working started
        (Pass.run now policy scenario rounds p).working ∧
      (Pass.run now policy scenario rounds p).proposals.filter Proposal.isStart =
        p.proposals.filter Proposal.isStart ++ started.map (startOf now) := by
  induction rounds generalizing p with
  | zero => exact ⟨[], .nil, by simp [Pass.run]⟩
  | succ rounds ih =>
      rw [Pass.run]
      cases found : p.candidate scenario with
      | none => exact ⟨[], .nil, by simp⟩
      | some task =>
          dsimp only
          obtain ⟨started, starts, same⟩ := ih (p.consider now policy scenario task)
          rcases @Pass.consider_spec now policy _ _ _ found with
            ⟨working, said⟩ | ⟨estimate, hold, settlementFloor, first, working, said⟩
          · refine ⟨started, working ▸ starts, same.trans ?_⟩
            rcases said with none_ | ⟨next, held⟩
            · rw [none_]
            · rw [held, List.filter_append, List.filter_cons_of_neg (by simp [Proposal.isStart])]
              simp
          · refine ⟨(task.id, hold) :: started, .cons first (working ▸ starts), same.trans ?_⟩
            rw [said, List.filter_append, List.filter_cons_of_pos (by rfl)]
            simp [startOf]

theorem tryAdmit_starts (s : PacerState) (now : OffsetDateTime) (policy : AdmissionPolicy)
    (scenario : Scenario) :
    ∃ started last timer, Starts now policy scenario s started last ∧
      (tryAdmit s now policy scenario).1 = { last with pendingTimer := timer } ∧
      (tryAdmit s now policy scenario).2.filter Proposal.isStart = started.map (startOf now) := by
  obtain ⟨started, starts, same⟩ := @Pass.run_starts now policy scenario
    scenario.tasks.tasks.length ⟨s, [], ∅, none⟩
  exact ⟨started, _, _, starts, rfl, same⟩

namespace Starts

/-- What a pass leaves alone. -/
theorem frame (starts : Starts now policy scenario s started s') :
    s'.completed = s.completed ∧ s'.usageLog = s.usageLog ∧ s'.spendSoFar = s.spendSoFar ∧
      s'.revisedEstimates = s.revisedEstimates ∧ s'.backoffX100 = s.backoffX100 := by
  induction starts with
  | nil => exact ⟨rfl, rfl, rfl, rfl, rfl⟩
  | cons _ _ ih => exact ih

theorem append {middle : PacerState} {first second : List (SimTaskId × QuotaAmount)}
    (early : Starts now policy scenario s first middle)
    (late : Starts now policy scenario middle second s') :
    Starts now policy scenario s (first ++ second) s' := by
  induction early with
  | nil => exact late
  | cons start _ ih => exact .cons start (ih late)

/-- The last start was made in the pass, if there was one. -/
theorem lastStart (starts : Starts now policy scenario s started s') :
    s'.lastStart = if started = [] then s.lastStart else some now := by
  induction starts with
  | nil => rfl
  | cons _ _ ih =>
      rw [ih, if_neg (List.cons_ne_nil _ _)]
      split <;> rfl

/-- Where each start was decided, and what follows it. -/
theorem decided (starts : Starts now policy scenario s started s') {x : SimTaskId × QuotaAmount}
    (mem : x ∈ started) :
    ∃ before middle task estimate settlementFloor after,
      Starts now policy scenario s before middle ∧
      StartedNow now policy scenario middle task estimate x.2 settlementFloor ∧ task.id = x.1 ∧
      Starts now policy scenario
        (startTask middle task.id task.principal.val x.2 settlementFloor now) after s' := by
  induction starts with
  | nil => cases mem
  | @cons s s' task estimate hold settlementFloor more first rest ih =>
      rcases List.mem_cons.mp mem with rfl | mem
      · exact ⟨[], s, task, estimate, settlementFloor, more, .nil, first, rfl, rest⟩
      · obtain ⟨before, middle, task', estimate', floor', after, early, start, named, late⟩ := ih mem
        exact ⟨_, middle, task', estimate', floor', after, .cons first early, start, named, late⟩

end Starts

end Starts

/-! ## What every state keeps -/

/-- The active tasks are ready ones that have not completed, as many as there are slots. -/
structure PacerInv (scenario : Scenario) (s : PacerState) : Prop where
  ascending : Fields.Ascending s.active
  unfinished : ∀ id a, Fields.get id s.active = some a → id ∉ s.completed
  ready : ∀ id a, Fields.get id s.active = some a → ∃ task ∈ scenario.tasks.tasks, task.id = id ∧
    a.principal = task.principal.val ∧ ∀ d ∈ task.dependsOn, d ∈ s.completed
  slots : s.active.length ≤ fanoutCap scenario.preference
  spends : Fields.Ascending s.spendSoFar
  spending : ∀ id, Fields.get id s.active = none → Fields.get id s.spendSoFar = none
  estimates : Fields.Ascending s.revisedEstimates

theorem mem_readyOrder {tasks : TaskSet} {completed : Finset SimTaskId} {task : SimTask} :
    task ∈ readyOrder tasks completed ↔
      task ∈ tasks.tasks ∧ task.id ∉ completed ∧ ∀ d ∈ task.dependsOn, d ∈ completed := by
  rw [readyOrder, List.mem_insertionSort, List.mem_filter, decide_eq_true_iff]

section Start

variable {now : OffsetDateTime} {policy : AdmissionPolicy} {scenario : Scenario} {s s' : PacerState}
  {started : List (SimTaskId × QuotaAmount)}

theorem get_startTask (ascending : Fields.Ascending s.active) (id k : SimTaskId) (principal : String)
    (hold : QuotaAmount) (settlementFloor : Nat) (now : OffsetDateTime) :
    Fields.get k (startTask s id principal hold settlementFloor now).active =
      if k = id then some ⟨principal, hold, settlementFloor, now⟩ else Fields.get k s.active := by
  rw [startTask, Fields.get_upsert ascending]
  by_cases same : k = id
  · rw [if_pos same, if_pos same]
  · rw [if_neg same, if_neg same]

theorem length_startTask (ascending : Fields.Ascending s.active) {id : SimTaskId}
    (idle : Fields.get id s.active = none) (principal : String) (hold : QuotaAmount)
    (settlementFloor : Nat) (now : OffsetDateTime) :
    (startTask s id principal hold settlementFloor now).active.length = s.active.length + 1 := by
  have perm := Fields.upsert_perm ascending id (⟨principal, hold, settlementFloor, now⟩ : ActiveTask)
    fun _ => ⟨principal, hold, settlementFloor, now⟩
  rw [startTask, perm.length_eq, List.length_cons, Fields.remove_eq_self idle]

theorem PacerInv.start {task : SimTask} {estimate : RemainingWorkEstimate} {hold : QuotaAmount}
    {settlementFloor : Nat} (inv : PacerInv scenario s)
    (start : StartedNow now policy scenario s task estimate hold settlementFloor) :
    PacerInv scenario (startTask s task.id task.principal.val hold settlementFloor now) where
  ascending := Fields.ascending_upsert inv.ascending
  unfinished := by
    intro id a here
    rw [get_startTask inv.ascending] at here
    split at here
    · rename_i same
      exact same ▸ (mem_readyOrder.mp start.ready).2.1
    · exact inv.unfinished id a here
  ready := by
    intro id a here
    rw [get_startTask inv.ascending] at here
    split at here
    · rename_i same
      cases here
      obtain ⟨listed, -, done⟩ := mem_readyOrder.mp start.ready
      exact ⟨task, listed, same.symm, rfl, done⟩
    · exact inv.ready id a here
  slots := by
    rw [length_startTask inv.ascending start.idle]
    exact start.slot
  spends := inv.spends
  spending := by
    intro id idle
    rw [get_startTask inv.ascending] at idle
    split at idle
    · cases idle
    · exact inv.spending id idle
  estimates := inv.estimates

theorem Starts.inv (starts : Starts now policy scenario s started s') (inv : PacerInv scenario s) :
    PacerInv scenario s' := by
  induction starts with
  | nil => exact inv
  | cons first _ ih => exact ih (inv.start first)

/-- What was active stays so, as it was. -/
theorem Starts.kept (starts : Starts now policy scenario s started s') (inv : PacerInv scenario s)
    {id : SimTaskId} {a : ActiveTask} (here : Fields.get id s.active = some a) :
    Fields.get id s'.active = some a := by
  induction starts with
  | nil => exact here
  | cons first _ ih =>
      refine ih (inv.start first) ?_
      rw [get_startTask inv.ascending, if_neg ?_]
      · exact here
      · rintro rfl
        rw [first.idle] at here
        cases here

/-- Each start makes one task active that was not. -/
theorem Starts.count (starts : Starts now policy scenario s started s') (inv : PacerInv scenario s)
    (id : SimTaskId) :
    (Fields.get id s'.active).isSome.toNat =
      (Fields.get id s.active).isSome.toNat + started.countP fun x => x.1 = id := by
  induction starts with
  | nil => rfl
  | @cons s s' task estimate hold settlementFloor more first _ ih =>
      rw [ih (inv.start first), get_startTask inv.ascending, List.countP_cons]
      by_cases same : id = task.id
      · subst same
        rw [if_pos rfl, first.idle]
        simp only [decide_true, if_true, Option.isSome_some, Option.isSome_none, Bool.toNat_true,
          Bool.toNat_false]
        omega
      · rw [if_neg same]
        simp only [Ne.symm same, decide_false]
        rfl

end Start

/-! ## A step -/

namespace PacerInv

variable {scenario : Scenario} {s : PacerState}

theorem default (scenario : Scenario) : PacerInv scenario .default where
  ascending := .nil
  unfinished _ _ here := by cases here
  ready _ _ here := by cases here
  slots := Nat.zero_le _
  spends := .nil
  spending _ _ := rfl
  estimates := .nil

theorem timer (inv : PacerInv scenario s) (timer : Option OffsetDateTime) :
    PacerInv scenario { s with pendingTimer := timer } :=
  ⟨inv.ascending, inv.unfinished, inv.ready, inv.slots, inv.spends, inv.spending, inv.estimates⟩

theorem restart (inv : PacerInv scenario s) : PacerInv scenario s.restartReset where
  ascending := .nil
  unfinished _ _ here := by cases here
  ready _ _ here := by cases here
  slots := Nat.zero_le _
  spends := .nil
  spending _ _ := rfl
  estimates := inv.estimates

theorem complete (inv : PacerInv scenario s) (task : SimTaskId) (instant : OffsetDateTime) :
    PacerInv scenario (s.completeTask task instant) := by
  unfold PacerState.completeTask
  split
  · exact inv
  rename_i active here
  have others : ∀ id a, Fields.get id (Fields.remove task s.active) = some a →
      id ≠ task ∧ Fields.get id s.active = some a := by
    intro id a found
    rw [Fields.get_remove] at found
    split at found
    · cases found
    · exact ⟨‹_›, found⟩
  refine ⟨Fields.ascending_remove inv.ascending, ?_, ?_, ?_, Fields.ascending_remove inv.spends, ?_,
    inv.estimates⟩
  · intro id a found
    obtain ⟨other, before⟩ := others id a found
    rw [Finset.mem_insert, not_or]
    exact ⟨other, inv.unfinished id a before⟩
  · intro id a found
    obtain ⟨t, listed, named, principal, done⟩ := inv.ready id a (others id a found).2
    exact ⟨t, listed, named, principal, fun d mem => Finset.mem_insert_of_mem (done d mem)⟩
  · exact (List.length_filter_le _ _).trans inv.slots
  · intro id idle
    rw [Fields.get_remove] at idle ⊢
    split
    · rfl
    · rename_i other
      rw [if_neg other] at idle
      exact inv.spending id idle

theorem spend (inv : PacerInv scenario s) (task : SimTaskId) (amount : QuotaAmount) :
    PacerInv scenario (s.reportSpend task amount) := by
  unfold PacerState.reportSpend
  split
  · exact inv
  rename_i active here
  split
  · exact inv
  refine ⟨inv.ascending, inv.unfinished, inv.ready, inv.slots, Fields.ascending_upsert inv.spends, ?_,
    inv.estimates⟩
  intro id idle
  have other : id ≠ task := by
    rintro rfl
    rw [here] at idle
    cases idle
  rw [Fields.get_upsert inv.spends, if_neg other]
  exact inv.spending id idle

theorem revise (inv : PacerInv scenario s) (task : SimTaskId) (estimate : RemainingWorkEstimate) :
    PacerInv scenario (s.reviseEstimate scenario task estimate) := by
  unfold PacerState.reviseEstimate
  split
  · exact ⟨inv.ascending, inv.unfinished, inv.ready, inv.slots, inv.spends, inv.spending,
      Fields.ascending_upsert inv.estimates⟩
  · exact inv

theorem apply_ (inv : PacerInv scenario s) (event : PacingEvent) :
    PacerInv scenario (s.apply_ event scenario) := by
  cases event with
  | spend instant seq task amount => exact inv.spend task amount
  | taskCompleted instant seq task => exact inv.complete task instant
  | estimateRevised instant seq task estimate => exact inv.revise task estimate
  | modeChanged instant seq => exact inv
  | snapshotIngested instant seq snapshot => exact inv

end PacerInv

/-- The state in which a step looks for starts. -/
def PacerState.prepared (s : PacerState) (event : PacingEvent) (scenario : Scenario) : PacerState :=
  ({ s with pendingTimer := none } : PacerState).apply_ event scenario

theorem PacerInv.prepared {scenario : Scenario} {s : PacerState} (inv : PacerInv scenario s)
    (event : PacingEvent) : PacerInv scenario (s.prepared event scenario) :=
  (inv.timer none).apply_ event

theorem pacingStep_starts (s : PacerState) (event : PacingEvent) (policy : AdmissionPolicy)
    (scenario : Scenario) :
    ∃ started last timer,
      Starts event.instant policy scenario (s.prepared event scenario) started last ∧
      (pacingStep s event policy scenario).1 = { last with pendingTimer := timer } ∧
      (pacingStep s event policy scenario).2.filter Proposal.isStart =
        started.map (startOf event.instant) :=
  tryAdmit_starts _ _ _ _

theorem PacerInv.next {policy : AdmissionPolicy} {scenario : Scenario} {s : PacerState}
    (inv : PacerInv scenario s) (i : PacerInput) : PacerInv scenario (i.next policy scenario s) := by
  cases i with
  | restart => exact inv.restart
  | event e =>
      obtain ⟨started, last, timer, starts, same, -⟩ := pacingStep_starts s e policy scenario
      show PacerInv scenario (pacingStep s e policy scenario).1
      rw [same]
      exact (starts.inv (inv.prepared e)).timer timer

/-! ## Every start is accounted for -/

section Accounts

variable (policy : AdmissionPolicy) (scenario : Scenario) (id : SimTaskId)

/-- How often a step starts a task. -/
def startsOf (s : PacerState) (i : PacerInput) : Nat :=
  (i.proposed policy scenario s).countP (Proposal.starts id)

/-- A restart that finds the task active. -/
def lostTo (s : PacerState) : PacerInput → Nat
  | .event _ => 0
  | .restart => (Fields.get id s.active).isSome.toNat

/-- One while the task is active, and one for good when it has completed. -/
def accounted (s : PacerState) : Nat :=
  (Fields.get id s.active).isSome.toNat + (decide (id ∈ s.completed)).toNat

end Accounts

section Accounted

variable {policy : AdmissionPolicy} {scenario : Scenario} {s : PacerState}

theorem accounted_apply (inv : PacerInv scenario s) (event : PacingEvent) (id : SimTaskId) :
    accounted id (s.apply_ event scenario) = accounted id s := by
  cases event with
  | taskCompleted instant seq task =>
      show accounted id (s.completeTask task instant) = _
      unfold PacerState.completeTask
      split
      · rfl
      rename_i active here
      simp only [accounted, Fields.get_remove, Finset.mem_insert]
      by_cases same : id = task
      · subst same
        simp [here, inv.unfinished id active here]
      · simp [same]
  | spend instant seq task amount =>
      show accounted id (s.reportSpend task amount) = _
      unfold PacerState.reportSpend
      split
      · rfl
      split <;> rfl
  | estimateRevised instant seq task estimate =>
      show accounted id (s.reviseEstimate scenario task estimate) = _
      unfold PacerState.reviseEstimate
      split <;> rfl
  | modeChanged instant seq => rfl
  | snapshotIngested instant seq snapshot => rfl

theorem countP_starts (proposals : List Proposal) (id : SimTaskId) :
    proposals.countP (Proposal.starts id) =
      (proposals.filter Proposal.isStart).countP (Proposal.starts id) := by
  rw [List.countP_filter]
  refine List.countP_congr fun p _ => ?_
  cases p <;> simp [Proposal.starts, Proposal.isStart]

/-- A step moves a task from one account to another, unless it is a restart. -/
theorem accounted_next (inv : PacerInv scenario s) (i : PacerInput) (id : SimTaskId) :
    accounted id (i.next policy scenario s) + lostTo id s i =
      accounted id s + startsOf policy scenario id s i := by
  cases i with
  | restart =>
      show 0 + (decide (id ∈ s.completed)).toNat + (Fields.get id s.active).isSome.toNat =
        accounted id s + 0
      rw [accounted]
      omega
  | event e =>
      obtain ⟨started, last, timer, starts, same, proposals⟩ := pacingStep_starts s e policy scenario
      have more := starts.count (inv.prepared e) id
      have before := accounted_apply (inv.timer none) e id
      have now : startsOf policy scenario id s (.event e) = started.countP fun x => x.1 = id := by
        show (pacingStep s e policy scenario).2.countP (Proposal.starts id) = _
        rw [countP_starts, proposals, List.countP_map]
        rfl
      have after : accounted id ((PacerInput.event e).next policy scenario s) = accounted id last := by
        show accounted id (pacingStep s e policy scenario).1 = _
        rw [same]
        rfl
      rw [after, now, accounted, more, starts.frame.1]
      change accounted id (s.prepared e scenario) = accounted id s at before
      rw [← before, accounted]
      show _ + 0 = _
      omega

theorem accounted_run (inv : PacerInv scenario s) (inputs : List PacerInput) (id : SimTaskId) :
    accounted id (run (fun s i => i.next policy scenario s) s inputs) +
        total (fun s i => i.next policy scenario s) (lostTo id) s inputs =
      accounted id s +
        total (fun s i => i.next policy scenario s) (startsOf policy scenario id) s inputs := by
  induction inputs generalizing s with
  | nil => rfl
  | cons i inputs ih =>
      have here := @accounted_next policy _ _ inv i id
      have rest := ih (@PacerInv.next policy _ _ inv i)
      simp only [run, total]
      omega

end Accounted

/-- Where a run from the beginning ends. -/
def pacerRun (policy : AdmissionPolicy) (scenario : Scenario) (inputs : List PacerInput) :
    PacerState :=
  run (fun s i => i.next policy scenario s) .default inputs

theorem PacerInv.reached (policy : AdmissionPolicy) (scenario : Scenario) (inputs : List PacerInput) :
    PacerInv scenario (pacerRun policy scenario inputs) :=
  run_invariant_always (fun _ i inv => inv.next i) (.default scenario) inputs

/-- Over any run a task is started once if it has completed, once if it is active, and once for each
restart that found it active; never is it both active and completed, and never are there more
active tasks than slots. -/
theorem starts_accounted (policy : AdmissionPolicy) (scenario : Scenario) (inputs : List PacerInput) :
    (pacerRun policy scenario inputs).active.length ≤ fanoutCap scenario.preference ∧
    ∀ id, (Fields.get id (pacerRun policy scenario inputs).active).isSome.toNat +
          (decide (id ∈ (pacerRun policy scenario inputs).completed)).toNat ≤ 1 ∧
      total (fun s i => i.next policy scenario s) (startsOf policy scenario id) .default inputs =
        (Fields.get id (pacerRun policy scenario inputs).active).isSome.toNat +
          (decide (id ∈ (pacerRun policy scenario inputs).completed)).toNat +
          total (fun s i => i.next policy scenario s) (lostTo id) .default inputs := by
  have inv := PacerInv.reached policy scenario inputs
  refine ⟨inv.slots, fun id => ⟨?_, ?_⟩⟩
  · cases here : Fields.get id (pacerRun policy scenario inputs).active with
    | none =>
        have := Bool.toNat_le (decide (id ∈ (pacerRun policy scenario inputs).completed))
        simpa using this
    | some a => simp [inv.unfinished id a here]
  · have sum := @accounted_run policy _ _ (.default scenario) inputs id
    have start : accounted id .default = 0 := rfl
    rw [start, Nat.zero_add] at sum
    exact sum.symm

/-! ## What a start respects -/

def Proposal.startedAt : Proposal → Option OffsetDateTime
  | .start _ instant _ _ => some instant
  | .hold _ => none

/-- The starts of a run, in order. -/
def startHistory (policy : AdmissionPolicy) (scenario : Scenario) :
    PacerState → List PacerInput → List Proposal
  | _, [] => []
  | s, i :: inputs =>
      (i.proposed policy scenario s).filter Proposal.isStart ++
        startHistory policy scenario (i.next policy scenario s) inputs

/-- The instant of the last of some starts. -/
def lastStarted (first : Option OffsetDateTime) (starts : List Proposal) : Option OffsetDateTime :=
  starts.foldl (fun _ p => p.startedAt) first

section Limits

variable {policy : AdmissionPolicy} {scenario : Scenario} {s : PacerState}

theorem lastStart_apply (s : PacerState) (event : PacingEvent) :
    (s.apply_ event scenario).lastStart = s.lastStart := by
  cases event with
  | spend instant seq task amount =>
      show (s.reportSpend task amount).lastStart = _
      unfold PacerState.reportSpend
      split
      · rfl
      split <;> rfl
  | taskCompleted instant seq task =>
      show (s.completeTask task instant).lastStart = _
      unfold PacerState.completeTask
      split <;> rfl
  | estimateRevised instant seq task estimate =>
      show (s.reviseEstimate scenario task estimate).lastStart = _
      unfold PacerState.reviseEstimate
      split <;> rfl
  | modeChanged instant seq => rfl
  | snapshotIngested instant seq snapshot => rfl

theorem lastStarted_map (now : OffsetDateTime) (first : Option OffsetDateTime)
    (started : List (SimTaskId × QuotaAmount)) :
    lastStarted first (started.map (startOf now)) = if started = [] then first else some now := by
  induction started generalizing first with
  | nil => rfl
  | cons x started ih =>
      rw [List.map_cons, lastStarted, List.foldl_cons, ← lastStarted, ih,
        if_neg (List.cons_ne_nil _ _)]
      split <;> rfl

theorem lastStart_next (s : PacerState) (i : PacerInput) :
    (i.next policy scenario s).lastStart =
      lastStarted s.lastStart ((i.proposed policy scenario s).filter Proposal.isStart) := by
  cases i with
  | restart => rfl
  | event e =>
      obtain ⟨started, last, timer, starts, same, proposals⟩ := pacingStep_starts s e policy scenario
      show (pacingStep s e policy scenario).1.lastStart =
        lastStarted s.lastStart ((pacingStep s e policy scenario).2.filter Proposal.isStart)
      rw [same, proposals, lastStarted_map]
      show last.lastStart = _
      rw [starts.lastStart, PacerState.prepared, lastStart_apply]

/-- The spacing is kept from the last start of the run, whatever was restarted since. -/
theorem lastStart_run (s : PacerState) (inputs : List PacerInput) :
    (run (fun s i => i.next policy scenario s) s inputs).lastStart =
      lastStarted s.lastStart (startHistory policy scenario s inputs) := by
  induction inputs generalizing s with
  | nil => rfl
  | cons i inputs ih =>
      rw [run, ih, lastStart_next, startHistory, lastStarted, lastStarted, lastStarted,
        List.foldl_append]

theorem Starts.length {now : OffsetDateTime} {s s' : PacerState}
    {started : List (SimTaskId × QuotaAmount)} (starts : Starts now policy scenario s started s')
    (inv : PacerInv scenario s) : s'.active.length = s.active.length + started.length := by
  induction starts with
  | nil => rfl
  | cons first _ ih =>
      rw [ih (inv.start first), length_startTask inv.ascending first.idle, List.length_cons]
      omega

theorem cutoffRefusal_none {instant now : OffsetDateTime} {preference : PacingPreference}
    (within : cutoffRefusal instant policy preference now = none) :
    (∀ deadline, policy.time.deadline = some deadline → instant ≤ deadline) ∧
      ∀ targetEnd maxFanout, preference = .burst targetEnd maxFanout → instant ≤ targetEnd := by
  unfold cutoffRefusal at within
  split at within
  · cases within
  rename_i timely
  refine ⟨fun deadline stated => ?_, ?_⟩
  · rw [stated, Option.any_some, decide_eq_true_iff] at timely
    exact not_lt.mp timely
  · rintro targetEnd maxFanout rfl
    dsimp only at within
    split at within
    · cases within
    · exact not_lt.mp ‹_›

/-- What SUSTAIN asks of a start. -/
theorem earliestAt_eq {now : OffsetDateTime} {estimate : RemainingWorkEstimate} {horizonSecs : Nat}
    {workingHours : Option WorkingHours} {continuityReserveBp : Nat}
    (sustain : scenario.preference = .sustain horizonSecs workingHours continuityReserveBp)
    (here : (earliestAt s scenario estimate now).1 = now) :
    (∀ hours, workingHours = some hours → nextWorkingInstant now hours ≤ now) ∧
      ∀ last spacing, s.lastStart = some last →
        sustainSpacing scenario (approximateNeed estimate) = some spacing →
          last.saturatingAdd (toI64Secs spacing) ≤ now := by
  unfold earliestAt at here
  rw [sustain] at here
  dsimp only at here
  have open_ : (workingHours.map (nextWorkingInstant now)).getD now ≤ now := by
    by_contra late
    have late := not_le.mp late
    rw [if_pos late] at here
    split at here
    · exact absurd here (ne_of_gt late)
    split at here
    · exact absurd here (ne_of_gt late)
    split at here
    · rename_i later
      exact absurd here (ne_of_gt (late.trans later))
    · exact absurd here (ne_of_gt late)
  rw [if_neg (not_lt.mpr open_)] at here
  constructor
  · rintro hours rfl
    exact open_
  · intro last spacing started spaced
    rw [started, spaced] at here
    dsimp only at here
    split at here
    · rename_i later
      exact absurd here (ne_of_gt later)
    · exact not_lt.mp ‹_›

/-- A start that is allowed: the task is ready and was idle, the cutoffs are not past, and under
SUSTAIN it is within the working hours of the day the clock shows, no other task is active and the
spacing has passed since the latest start.  Outside these hours it is only where the clock was set
back over a midnight and the next day's hours had begun. -/
structure StartAllowed (policy : AdmissionPolicy) (scenario : Scenario)
    (latest : Option OffsetDateTime) (after : PacerState) (task : SimTask) (instant : OffsetDateTime)
    (hold : QuotaAmount) : Prop where
  listed : task ∈ scenario.tasks.tasks
  unfinished : task.id ∉ after.completed
  unblocked : ∀ d ∈ task.dependsOn, d ∈ after.completed
  active : ∃ a, Fields.get task.id after.active = some a ∧ a.hold = hold ∧ a.startedAt = instant
  deadline : ∀ deadline, policy.time.deadline = some deadline → instant ≤ deadline
  targetEnd : ∀ targetEnd maxFanout, scenario.preference = .burst targetEnd maxFanout →
    instant ≤ targetEnd
  working : ∀ horizonSecs hours continuityReserveBp,
    scenario.preference = .sustain horizonSecs (some hours) continuityReserveBp →
      hours.InDay instant ∨ hours.Overtaken instant
  clock : ∀ horizonSecs (zoned : ZonedHours) continuityReserveBp,
    scenario.preference = .sustain horizonSecs (some zoned.workingHours) continuityReserveBp →
      zoned.workingHours.InDay instant ∨ ∃ s ∈ zoned.timeZone.shifts,
        SetsBack s (zoned.timeZone.timeZone.civilDay instant + 1) zoned.start
  alone : ∀ horizonSecs workingHours continuityReserveBp,
    scenario.preference = .sustain horizonSecs workingHours continuityReserveBp →
      after.active.length = 1
  spaced : ∀ horizonSecs workingHours continuityReserveBp last spacing,
    scenario.preference = .sustain horizonSecs workingHours continuityReserveBp →
      latest = some last →
      sustainSpacing scenario (approximateNeed
        ((Fields.get task.id after.revisedEstimates).getD task.estimate)) = some spacing →
        last.saturatingAdd (toI64Secs spacing) ≤ instant

/-- Every start of every run is allowed. -/
theorem start_allowed (policy : AdmissionPolicy) (scenario : Scenario) (before : List PacerInput)
    (event : PacingEvent) {id : SimTaskId} {instant : OffsetDateTime} {hold : QuotaAmount}
    {limiting : Option QuotaWindowId}
    (started : .start id instant hold limiting ∈
      (pacingStep (pacerRun policy scenario before) event policy scenario).2) :
    instant = event.instant ∧ limiting = none ∧
      ∃ task, task.id = id ∧ StartAllowed policy scenario
        (lastStarted none (startHistory policy scenario .default before))
        (pacingStep (pacerRun policy scenario before) event policy scenario).1 task instant hold := by
  have inv := (PacerInv.reached policy scenario before).prepared event
  obtain ⟨starts, last, timer, run_, same, proposals⟩ :=
    pacingStep_starts (pacerRun policy scenario before) event policy scenario
  have listed := List.mem_filter.mpr ⟨started, (rfl : Proposal.isStart (.start id instant hold limiting) = true)⟩
  rw [proposals] at listed
  obtain ⟨x, mem, shape⟩ := List.mem_map.mp listed
  cases shape
  refine ⟨rfl, rfl, ?_⟩
  obtain ⟨early, middle, task, estimate, floor, later, front, start, named, late⟩ := run_.decided mem
  refine ⟨task, named, ?_⟩
  rw [same]
  have middle_inv := front.inv inv
  obtain ⟨among, unfinished, unblocked⟩ := mem_readyOrder.mp start.ready
  rw [front.frame.1, ← run_.frame.1] at unfinished unblocked
  obtain ⟨deadline, targetEnd⟩ := cutoffRefusal_none start.within
  have active := late.kept (middle_inv.start start) (get_startTask middle_inv.ascending task.id task.id
    task.principal.val x.2 floor event.instant ▸ if_pos rfl)
  have live : estimate = (Fields.get task.id last.revisedEstimates).getD task.estimate := by
    rw [start.live, front.frame.2.2.2.1, ← run_.frame.2.2.2.1]
  have working : ∀ horizonSecs hours continuityReserveBp,
      scenario.preference = .sustain horizonSecs (some hours) continuityReserveBp →
        hours.InDay event.instant ∨ hours.Overtaken event.instant := by
    intro horizonSecs hours continuityReserveBp sustain
    exact WorkingHours.inDay_of_next ((earliestAt_eq sustain start.earliest).1 hours rfl)
  refine ⟨among, unfinished, unblocked, ⟨_, active, rfl, rfl⟩, deadline, targetEnd, working, ?_, ?_, ?_⟩
  · intro horizonSecs zoned continuityReserveBp sustain
    exact (working horizonSecs zoned.workingHours continuityReserveBp sustain).imp_right
      ZonedHours.setsBack_of_overtaken
  · intro horizonSecs workingHours continuityReserveBp sustain
    have slots := (run_.inv inv).slots
    rw [sustain] at slots
    have some_ := List.length_pos_of_mem (Fields.get_mem active)
    exact Nat.le_antisymm slots some_
  · intro horizonSecs workingHours continuityReserveBp before_ spacing sustain latest spaced
    -- Under SUSTAIN a pass starts one task at most, so nothing was started before this one.
    have slot := start.slot
    have lengths := front.length inv
    rw [sustain] at slot
    have none_ : early = [] := List.eq_nil_of_length_eq_zero (by
      change middle.active.length < 1 at slot
      omega)
    have here : middle.lastStart = some before_ := by
      rw [front.lastStart, if_pos none_, PacerState.prepared, lastStart_apply]
      show (pacerRun policy scenario before).lastStart = _
      rw [pacerRun, lastStart_run]
      exact latest
    rw [← live] at spaced
    exact (earliestAt_eq sustain start.earliest).2 before_ spacing here spaced

end Limits

/-! ## Office hours -/

/-- From 09:10 to 17:50 where the clock was set forward the day before. -/
def officeHours : ZonedHours where
  timeZone := ZonedHours.springForward
  start := ⟨9, 10, by decide, by decide⟩
  end_ := ⟨17, 50, by decide, by decide⟩
  before := .inl (by decide)

/-- Two tasks of ninety tokens, the second after the first, in a window of a hundred an hour. -/
def officeScenario : Scenario where
  tasks := ⟨[⟨⟨1⟩, ⟨"p"⟩, [], .normal, none, ⟨.quantiles .tokens ⟨.tokens, 90⟩, .high⟩⟩,
    ⟨⟨2⟩, ⟨"p"⟩, [⟨1⟩], .normal, none, ⟨.quantiles .tokens ⟨.tokens, 90⟩, .high⟩⟩]⟩
  windows := hourlyScenario.windows
  contract := none
  preference := .sustain 86400 (some officeHours.workingHours) 0

/-- At 10:00 the first task starts, at 10:10 it is done, and the pacer is restarted. -/
def officeMorning : List PacerInput :=
  [.event (.modeChanged (1773064800 * OffsetDateTime.nanosPerSecond) 1),
    .event (.taskCompleted (1773065400 * OffsetDateTime.nanosPerSecond) 2 ⟨1⟩), .restart]

/-- At 11:25. -/
def officeLater : PacingEvent := .modeChanged (1773069900 * OffsetDateTime.nanosPerSecond) 3

theorem office_started :
    Proposal.start ⟨2⟩ (1773069900 * OffsetDateTime.nanosPerSecond) ⟨.tokens, 90⟩ none ∈
      (pacingStep (pacerRun hourlyPolicy officeScenario officeMorning) officeLater hourlyPolicy
        officeScenario).2 := by
  decide +kernel

/-- The second task starts within the hours, alone, and the 54 minutes after the first. -/
theorem start_allowed_office : ∃ task, task.id = ⟨2⟩ ∧
    StartAllowed hourlyPolicy officeScenario (some (1773064800 * OffsetDateTime.nanosPerSecond))
      (pacingStep (pacerRun hourlyPolicy officeScenario officeMorning) officeLater hourlyPolicy
        officeScenario).1 task (1773069900 * OffsetDateTime.nanosPerSecond) ⟨.tokens, 90⟩ := by
  have latest : lastStarted none (startHistory hourlyPolicy officeScenario .default officeMorning) =
      some (1773064800 * OffsetDateTime.nanosPerSecond) := by decide +kernel
  have allowed := (start_allowed hourlyPolicy officeScenario officeMorning officeLater office_started).2.2
  rw [latest] at allowed
  exact allowed

example : officeHours.workingHours.InDay (1773069900 * OffsetDateTime.nanosPerSecond) ∧
    sustainSpacing officeScenario 90 = some 3240 := by
  refine ⟨?_, rfl⟩
  unfold WorkingHours.InDay
  decide

/-! ## The hourly scenario -/

/-- Its task is started at the first event. -/
theorem hourly_started : Proposal.start ⟨1⟩ 5000000 ⟨.tokens, 90⟩ none ∈
    (pacingStep (pacerRun hourlyPolicy hourlyScenario [.restart]) (.modeChanged 5000000 1) hourlyPolicy
      hourlyScenario).2 := by
  decide +kernel

end LibraGovernor
