/-
# LibraGovernor.Domain.Simulate -- replaying events, and the timers in between

`simulateBounded` sorts its events by instant and sequence number and folds `pacingStep` over
them.  Whenever the state leaves a timer pending strictly before the next event, the timer
comes first.  It stops before anything dated after `until_`, and when the budget of timers is
spent.

Every timer lies past the step that sets it (`pacingStep_timer`).  So what is due never goes
back in time (`loop_ordered`), and what is dated after `until_` plays no part before it
(`loop_within`, `loop_cut`).
-/
import LibraGovernor.Domain.Pacer
import Mathlib.Data.List.Chain

namespace LibraGovernor

open StableSort

set_option autoImplicit false

/-- One step of a replay. -/
inductive Tick where
  | event (e : PacingEvent)
  | timer (t : OffsetDateTime)
  deriving DecidableEq

namespace Tick

def instant : Tick → OffsetDateTime
  | .event e => e.instant
  | .timer t => t

def event? : Tick → Option PacingEvent
  | .event e => some e
  | .timer _ => none

def isTimer : Tick → Bool
  | .event _ => false
  | .timer _ => true

end Tick

/-- The final state, what was done at each tick, and whether the timers ran out. -/
structure Replay where
  state : PacerState
  trace : List (Tick × List Proposal)
  tickBudgetExhausted : Bool
  deriving DecidableEq

/-- The budget of timers between events. -/
def maxTimerTicks : Nat := 65536

namespace Replay

/-- The same replay with one more tick before it. -/
def after (tick : Tick) (proposals : List Proposal) (r : Replay) : Replay :=
  { r with trace := (tick, proposals) :: r.trace }

/-- What is due next: an event, with the events after it, or a timer. -/
inductive Due where
  | event (e : PacingEvent) (later : List PacingEvent)
  | timer (t : OffsetDateTime)

def Due.instant : Due → OffsetDateTime
  | .event e _ => e.instant
  | .timer t => t

def dueNow : List PacingEvent → Option OffsetDateTime → Option Due
  | [], none => none
  | e :: later, none => some (.event e later)
  | [], some t => some (.timer t)
  | e :: later, some t => if t < e.instant then some (.timer t) else some (.event e later)

theorem dueNow_event {events : List PacingEvent} {timer : Option OffsetDateTime} {e : PacingEvent}
    {later : List PacingEvent} (due : dueNow events timer = some (.event e later)) :
    events = e :: later := by
  cases events with
  | nil => cases timer <;> cases due
  | cons e' later' =>
      cases timer with
      | none =>
          cases due
          rfl
      | some t =>
          rw [dueNow] at due
          split at due
          · cases due
          · cases due
            rfl

/-- Strictly later than `until_`. -/
def past (until_ : Option OffsetDateTime) (t : OffsetDateTime) : Bool :=
  until_.any fun u => decide (u < t)

section Loop

variable (policy : AdmissionPolicy) (scenario : Scenario) (until_ : Option OffsetDateTime)
  (maxTicks : Nat)

/-- The loop of `simulate_bounded`, from its state, the events not yet processed, and the timers
already spent. -/
def loop (s : PacerState) (events : List PacingEvent) (ticks : Nat) : Replay :=
  match due : dueNow events s.pendingTimer with
  | none => ⟨s, [], false⟩
  | some (.event e later) =>
      if past until_ e.instant then ⟨s, [], false⟩
      else
        let next := pacingStep s e policy scenario
        (loop next.1 later ticks).after (.event e) next.2
  | some (.timer t) =>
      if past until_ t then ⟨s, [], false⟩
      else if maxTicks < ticks + 1 then ⟨s, [], true⟩
      else
        let next := pacingStep s (.modeChanged t (u64Max - (ticks + 1))) policy scenario
        (loop next.1 events (ticks + 1)).after (.timer t) next.2
termination_by events.length + (maxTicks - ticks)
decreasing_by
  · rw [dueNow_event due, List.length_cons]
    omega
  · omega

variable {policy scenario until_ maxTicks} {s : PacerState} {events : List PacingEvent} {ticks : Nat}

/-! ## One round -/

theorem loop_idle (due : dueNow events s.pendingTimer = none) :
    loop policy scenario until_ maxTicks s events ticks = ⟨s, [], false⟩ := by
  rw [loop]
  split
  · rfl
  · rename_i busy
    cases due.symm.trans busy
  · rename_i busy
    cases due.symm.trans busy

theorem loop_past {d : Due} (due : dueNow events s.pendingTimer = some d)
    (late : past until_ d.instant = true) :
    loop policy scenario until_ maxTicks s events ticks = ⟨s, [], false⟩ := by
  rw [loop]
  split
  · rfl
  · rename_i here
    cases due.symm.trans here
    exact if_pos late
  · rename_i here
    cases due.symm.trans here
    exact if_pos late

theorem loop_event {e : PacingEvent} {later : List PacingEvent}
    (due : dueNow events s.pendingTimer = some (.event e later))
    (early : ¬ past until_ e.instant = true) :
    loop policy scenario until_ maxTicks s events ticks =
      (loop policy scenario until_ maxTicks (pacingStep s e policy scenario).1 later ticks).after
        (.event e) (pacingStep s e policy scenario).2 := by
  rw [loop]
  split
  · rename_i idle
    cases due.symm.trans idle
  · rename_i here
    cases due.symm.trans here
    exact if_neg early
  · rename_i here
    cases due.symm.trans here

/-- The event a timer is replayed as. -/
def synthetic (t : OffsetDateTime) (ticks : Nat) : PacingEvent := .modeChanged t (u64Max - (ticks + 1))

theorem loop_timer {t : OffsetDateTime} (due : dueNow events s.pendingTimer = some (.timer t))
    (early : ¬ past until_ t = true) :
    loop policy scenario until_ maxTicks s events ticks =
      if maxTicks < ticks + 1 then ⟨s, [], true⟩
      else
        (loop policy scenario until_ maxTicks
          (pacingStep s (synthetic t ticks) policy scenario).1 events (ticks + 1)).after (.timer t)
          (pacingStep s (synthetic t ticks) policy scenario).2 := by
  rw [loop]
  split
  · rename_i idle
    cases due.symm.trans idle
  · rename_i here
    cases due.symm.trans here
  · rename_i here
    cases due.symm.trans here
    exact if_neg early

variable (policy scenario until_ maxTicks) in
/-- What a replay does, round by round. -/
theorem loop_induct {motive : PacerState → List PacingEvent → Nat → Prop}
    (idle : ∀ s events ticks, dueNow events s.pendingTimer = none → motive s events ticks)
    (late : ∀ s events ticks d, dueNow events s.pendingTimer = some d →
      past until_ d.instant = true → motive s events ticks)
    (event : ∀ s events ticks e later, dueNow events s.pendingTimer = some (.event e later) →
      ¬ past until_ e.instant = true → motive (pacingStep s e policy scenario).1 later ticks →
      motive s events ticks)
    (spent : ∀ s events ticks t, dueNow events s.pendingTimer = some (.timer t) →
      ¬ past until_ t = true → maxTicks < ticks + 1 → motive s events ticks)
    (timer : ∀ s events ticks t, dueNow events s.pendingTimer = some (.timer t) →
      ¬ past until_ t = true → ¬ maxTicks < ticks + 1 →
      motive (pacingStep s (synthetic t ticks) policy scenario).1 events (ticks + 1) →
      motive s events ticks)
    (s : PacerState) (events : List PacingEvent) (ticks : Nat) : motive s events ticks :=
  loop.induct policy scenario until_ maxTicks motive idle
    (fun s events ticks e later due => late s events ticks (.event e later) due) event
    (fun s events ticks t due => late s events ticks (.timer t) due) spent timer s events ticks

end Loop

/-- Events in the order of their instants. -/
def Dated (events : List PacingEvent) : Prop := events.Pairwise fun a b => a.instant ≤ b.instant

/-- What is due is the earliest of what there is. -/
theorem dueNow_least {events : List PacingEvent} {timer : Option OffsetDateTime} {d : Due}
    (dated : Dated events) (due : dueNow events timer = some d) :
    (∀ e ∈ events, d.instant ≤ e.instant) ∧ ∀ t, timer = some t → d.instant ≤ t := by
  cases events with
  | nil =>
      cases timer with
      | none => cases due
      | some t =>
          cases due
          refine ⟨fun e mem => absurd mem List.not_mem_nil, fun t' is => ?_⟩
          cases is
          exact Int.le_refl _
  | cons e later =>
      have first := (List.pairwise_cons.mp dated).1
      have least : ∀ e' ∈ e :: later, e.instant ≤ e'.instant :=
        List.forall_mem_cons.mpr ⟨Int.le_refl _, first⟩
      cases timer with
      | none =>
          cases due
          exact ⟨least, fun t is => by cases is⟩
      | some t =>
          rw [dueNow] at due
          split at due
          · rename_i before
            cases due
            refine ⟨fun e' mem => Int.le_trans (Int.le_of_lt before) (least e' mem), fun t' is => ?_⟩
            cases is
            exact Int.le_refl _
          · rename_i after
            cases due
            refine ⟨least, fun t' is => ?_⟩
            cases is
            exact Int.not_lt.mp after

theorem dueNow_none {events : List PacingEvent} {timer : Option OffsetDateTime}
    (idle : dueNow events timer = none) : events = [] ∧ timer = none := by
  cases events with
  | nil =>
      cases timer with
      | none => exact ⟨rfl, rfl⟩
      | some t => cases idle
  | cons e later =>
      cases timer with
      | none => cases idle
      | some t =>
          rw [dueNow] at idle
          split at idle
          · cases idle
          · cases idle

theorem dueNow_timer {events : List PacingEvent} {timer : Option OffsetDateTime} {t : OffsetDateTime}
    (due : dueNow events timer = some (.timer t)) :
    timer = some t ∧ ∀ e later, events = e :: later → t < e.instant := by
  cases events with
  | nil =>
      cases timer with
      | none => cases due
      | some t' =>
          cases due
          exact ⟨rfl, fun e later is => by cases is⟩
  | cons e later =>
      cases timer with
      | none => cases due
      | some t' =>
          rw [dueNow] at due
          split at due
          · rename_i before
            cases due
            refine ⟨rfl, fun e' later' is => ?_⟩
            cases is
            exact before
          · cases due

/-! ## Runs -/

/-- The tick comes after one at `lower`: an event not before it, a timer past it. -/
def Follows (lower : OffsetDateTime) : Tick → Prop
  | .event e => lower ≤ e.instant
  | .timer t => lower < t

theorem Follows.le {lower : OffsetDateTime} {tick : Tick} (follows : Follows lower tick) :
    lower ≤ tick.instant := by
  cases tick with
  | event e => exact follows
  | timer t => exact Int.le_of_lt follows

/-- Each tick of a trace comes after the one before it. -/
def Ordered (trace : List (Tick × List Proposal)) : Prop :=
  trace.IsChain fun x y => Follows x.1.instant y.1

section Runs

variable {policy : AdmissionPolicy} {scenario : Scenario} {until_ : Option OffsetDateTime}
  {maxTicks : Nat}

/-- After a tick at `lower` nothing is left that is due before it. -/
structure Ahead (lower : OffsetDateTime) (s : PacerState) (events : List PacingEvent) : Prop where
  dated : Dated events
  events_le : ∀ e ∈ events, lower ≤ e.instant
  timer_lt : ∀ t, s.pendingTimer = some t → lower < t

theorem Ahead.event {lower : OffsetDateTime} {s : PacerState} {events later : List PacingEvent}
    {e : PacingEvent} (ahead : Ahead lower s events)
    (due : dueNow events s.pendingTimer = some (.event e later)) :
    Ahead e.instant (pacingStep s e policy scenario).1 later := by
  have dated := ahead.dated
  rw [dueNow_event due] at dated
  obtain ⟨first, dated⟩ := List.pairwise_cons.mp dated
  exact ⟨dated, first, fun t pending => pacingStep_timer pending⟩

theorem Ahead.timer {lower : OffsetDateTime} {s : PacerState} {events : List PacingEvent}
    {t : OffsetDateTime} (ahead : Ahead lower s events)
    (due : dueNow events s.pendingTimer = some (.timer t)) (ticks : Nat) :
    Ahead t (pacingStep s (synthetic t ticks) policy scenario).1 events := by
  refine ⟨ahead.dated, (dueNow_least ahead.dated due).1, fun t' pending => ?_⟩
  have after : (synthetic t ticks).instant < t' := pacingStep_timer pending
  exact after

theorem Ordered.after {tick : Tick} {proposals : List Proposal} {r : Replay}
    (ordered : Ordered r.trace) (first : ∀ x ∈ r.trace.head?, Follows tick.instant x.1) :
    Ordered (r.after tick proposals).trace := by
  show ((tick, proposals) :: r.trace).IsChain _
  rw [List.isChain_cons]
  exact ⟨fun x mem => first x mem, ordered⟩

/-- Ticks never go back in time, and a timer lies past the tick that left it pending. -/
theorem loop_ordered {lower : OffsetDateTime} {s : PacerState} {events : List PacingEvent}
    (ahead : Ahead lower s events) (ticks : Nat) :
    Ordered (loop policy scenario until_ maxTicks s events ticks).trace ∧
      ∀ x ∈ (loop policy scenario until_ maxTicks s events ticks).trace.head?, Follows lower x.1 := by
  have stopped : ∀ lower, Ordered [] ∧
      ∀ x ∈ ([] : List (Tick × List Proposal)).head?, Follows lower x.1 := fun lower =>
    ⟨List.isChain_nil, fun x mem => by cases mem⟩
  induction s, events, ticks using loop_induct policy scenario until_ maxTicks generalizing lower with
  | idle s events ticks due =>
      rw [loop_idle due]
      exact stopped lower
  | late s events ticks d due late =>
      rw [loop_past due late]
      exact stopped lower
  | event s events ticks e later due early ih =>
      obtain ⟨ordered, first⟩ := ih (ahead.event due)
      rw [loop_event due early]
      refine ⟨ordered.after first, fun x mem => ?_⟩
      cases mem
      exact ahead.events_le e (by rw [dueNow_event due]; exact List.mem_cons_self)
  | spent s events ticks t due early spent =>
      rw [loop_timer due early, if_pos spent]
      exact stopped lower
  | timer s events ticks t due early left ih =>
      obtain ⟨ordered, first⟩ := ih (ahead.timer due ticks)
      rw [loop_timer due early, if_neg left]
      refine ⟨ordered.after first, fun x mem => ?_⟩
      cases mem
      exact ahead.timer_lt t (dueNow_timer due).1

/-! ## What comes after `until_` -/

theorem past_mono {t t' : OffsetDateTime} (late : past until_ t = true) (le : t ≤ t') :
    past until_ t' = true := by
  rw [past, Option.any_eq_true] at late ⊢
  obtain ⟨u, is, before⟩ := late
  exact ⟨u, is, decide_eq_true (Int.lt_of_lt_of_le (of_decide_eq_true before) le)⟩

/-- The events that are processed at all. -/
def within (until_ : Option OffsetDateTime) (events : List PacingEvent) : List PacingEvent :=
  events.filter fun e => !past until_ e.instant

theorem within_late {events : List PacingEvent} {d : Due} (least : ∀ e ∈ events, d.instant ≤ e.instant)
    (late : past until_ d.instant = true) : within until_ events = [] := by
  rw [within, List.filter_eq_nil_iff]
  intro e mem
  rw [past_mono late (least e mem)]
  exact Bool.false_ne_true

theorem within_cons {e : PacingEvent} {later : List PacingEvent}
    (early : ¬ past until_ e.instant = true) :
    within until_ (e :: later) = e :: within until_ later :=
  List.filter_cons_of_pos (by rw [Bool.not_eq_true] at early; rw [early]; rfl)

/-- With no events left and no timer in time, nothing happens. -/
theorem loop_stop {s : PacerState} {ticks : Nat}
    (late : ∀ t, s.pendingTimer = some t → past until_ t = true) :
    loop policy scenario until_ maxTicks s [] ticks = ⟨s, [], false⟩ := by
  cases timer : s.pendingTimer with
  | none =>
      refine loop_idle ?_
      rw [timer]
      rfl
  | some t =>
      have due : dueNow [] s.pendingTimer = some (.timer t) := by
        rw [timer]
        rfl
      exact loop_past due (late t timer)

theorem dueNow_within_event {events : List PacingEvent} {timer : Option OffsetDateTime}
    {e : PacingEvent} {later : List PacingEvent} (due : dueNow events timer = some (.event e later))
    (early : ¬ past until_ e.instant = true) :
    dueNow (within until_ events) timer = some (.event e (within until_ later)) := by
  obtain rfl := dueNow_event due
  rw [within_cons early]
  cases timer with
  | none => rfl
  | some t =>
      rw [dueNow] at due ⊢
      split at due
      · cases due
      · rename_i after
        rw [if_neg after]

theorem dueNow_within_timer {events : List PacingEvent} {timer : Option OffsetDateTime}
    {t : OffsetDateTime} (dated : Dated events) (due : dueNow events timer = some (.timer t)) :
    dueNow (within until_ events) timer = some (.timer t) := by
  obtain ⟨rfl, before⟩ := dueNow_timer due
  have least : ∀ e ∈ events, t < e.instant := by
    cases events with
    | nil => exact fun e mem => absurd mem List.not_mem_nil
    | cons first later =>
        have lt := before first later rfl
        have above := (List.pairwise_cons.mp dated).1
        exact List.forall_mem_cons.mpr ⟨lt, fun e mem => Int.lt_of_lt_of_le lt (above e mem)⟩
  cases kept : within until_ events with
  | nil => rfl
  | cons e later =>
      have mem : e ∈ within until_ events := by
        rw [kept]
        exact List.mem_cons_self
      rw [dueNow, if_pos (least e (List.mem_of_mem_filter mem))]

/-- What is dated after `until_` is as good as not there. -/
theorem loop_within {lower : OffsetDateTime} {s : PacerState} {events : List PacingEvent}
    (ahead : Ahead lower s events) (ticks : Nat) :
    loop policy scenario until_ maxTicks s (within until_ events) ticks =
      loop policy scenario until_ maxTicks s events ticks := by
  induction s, events, ticks using loop_induct policy scenario until_ maxTicks generalizing lower with
  | idle s events ticks due =>
      obtain ⟨rfl, -⟩ := dueNow_none due
      rfl
  | late s events ticks d due late =>
      obtain ⟨events_le, timer_le⟩ := dueNow_least ahead.dated due
      rw [loop_past due late, within_late events_le late]
      exact loop_stop fun t pending => past_mono late (timer_le t pending)
  | event s events ticks e later due early ih =>
      rw [loop_event due early, loop_event (dueNow_within_event due early) early,
        ih (ahead.event due)]
  | spent s events ticks t due early spent =>
      rw [loop_timer due early, loop_timer (dueNow_within_timer ahead.dated due) early, if_pos spent,
        if_pos spent]
  | timer s events ticks t due early left ih =>
      rw [loop_timer due early, loop_timer (dueNow_within_timer ahead.dated due) early, if_neg left,
        if_neg left, ih (ahead.timer due ticks)]

/-- Unless the timers run out, the events in time are processed, each once and in their order. -/
theorem loop_processed {lower : OffsetDateTime} {s : PacerState} {events : List PacingEvent}
    (ahead : Ahead lower s events) (ticks : Nat)
    (resolved : (loop policy scenario until_ maxTicks s events ticks).tickBudgetExhausted = false) :
    (loop policy scenario until_ maxTicks s events ticks).trace.filterMap (fun x => x.1.event?) =
      within until_ events := by
  induction s, events, ticks using loop_induct policy scenario until_ maxTicks generalizing lower with
  | idle s events ticks due =>
      obtain ⟨rfl, -⟩ := dueNow_none due
      rw [loop_idle due]
      rfl
  | late s events ticks d due late =>
      rw [loop_past due late, within_late (dueNow_least ahead.dated due).1 late]
      rfl
  | event s events ticks e later due early ih =>
      rw [loop_event due early] at resolved ⊢
      rw [dueNow_event due, within_cons early, ← ih (ahead.event due) resolved]
      rfl
  | spent s events ticks t due early spent =>
      rw [loop_timer due early, if_pos spent] at resolved
      cases resolved
  | timer s events ticks t due early left ih =>
      rw [loop_timer due early, if_neg left] at resolved ⊢
      rw [← ih (ahead.timer due ticks) resolved]
      rfl

/-- Every tick of a run is at or after what is due first. -/
theorem Ordered.le {lower : OffsetDateTime} {trace : List (Tick × List Proposal)}
    (ordered : Ordered trace) (first : ∀ x ∈ trace.head?, Follows lower x.1) :
    ∀ x ∈ trace, lower ≤ x.1.instant := by
  induction trace generalizing lower with
  | nil => exact fun x mem => absurd mem List.not_mem_nil
  | cons y trace ih =>
      obtain ⟨next, ordered⟩ := List.isChain_cons.mp ordered
      have here := (first y rfl).le
      refine List.forall_mem_cons.mpr ⟨here, fun x mem => ?_⟩
      exact Int.le_trans here (ih ordered next x mem)

/-- Nothing is done before what is due first. -/
theorem loop_from {lower : OffsetDateTime} {s : PacerState} {events : List PacingEvent}
    (ahead : Ahead lower s events) (ticks : Nat) {d : Due}
    (due : dueNow events s.pendingTimer = some d) :
    ∀ x ∈ (loop policy scenario until_ maxTicks s events ticks).trace, d.instant ≤ x.1.instant := by
  by_cases late : past until_ d.instant = true
  · rw [loop_past due late]
    exact fun x mem => absurd mem List.not_mem_nil
  cases d with
  | event e later =>
      have rest : Ordered (loop policy scenario until_ maxTicks (pacingStep s e policy scenario).1 later
          ticks).trace ∧ _ := loop_ordered (ahead.event due) ticks
      obtain ⟨ordered, first⟩ := rest
      rw [loop_event due late]
      exact List.forall_mem_cons.mpr ⟨Int.le_refl _, ordered.le first⟩
  | timer t =>
      have rest : Ordered (loop policy scenario until_ maxTicks
          (pacingStep s (synthetic t ticks) policy scenario).1 events (ticks + 1)).trace ∧ _ :=
        loop_ordered (ahead.timer due ticks) (ticks + 1)
      obtain ⟨ordered, first⟩ := rest
      rw [loop_timer due late]
      split
      · exact fun x mem => absurd mem List.not_mem_nil
      · exact List.forall_mem_cons.mpr ⟨Int.le_refl _, ordered.le first⟩

theorem filter_after (tick : Tick) (early : ¬ past until_ tick.instant = true)
    (proposals : List Proposal) (r : Replay) :
    (r.after tick proposals).trace.filter (fun x => !past until_ x.1.instant) =
      (tick, proposals) :: r.trace.filter fun x => !past until_ x.1.instant := by
  refine List.filter_cons_of_pos ?_
  rw [Bool.not_eq_true] at early
  show (!past until_ tick.instant) = true
  rw [early]
  rfl

/-- A run cut at `until_` is the beginning of the whole run: its ticks up to there. -/
theorem loop_cut {lower : OffsetDateTime} {s : PacerState} {events : List PacingEvent}
    (ahead : Ahead lower s events) (ticks : Nat) :
    (loop policy scenario until_ maxTicks s events ticks).trace =
        (loop policy scenario none maxTicks s events ticks).trace.filter
          (fun x => !past until_ x.1.instant) ∧
      (loop policy scenario until_ maxTicks s events ticks).trace <+:
        (loop policy scenario none maxTicks s events ticks).trace := by
  have always : ∀ t, ¬ past none t = true := fun t => Bool.false_ne_true
  induction s, events, ticks using loop_induct policy scenario until_ maxTicks generalizing lower with
  | idle s events ticks due =>
      rw [loop_idle due, loop_idle due]
      exact ⟨rfl, List.prefix_rfl⟩
  | late s events ticks d due late =>
      rw [loop_past due late]
      refine ⟨(List.filter_eq_nil_iff.mpr fun x mem => ?_).symm, List.nil_prefix⟩
      rw [past_mono late (loop_from ahead ticks due x mem)]
      exact Bool.false_ne_true
  | event s events ticks e later due early ih =>
      obtain ⟨same, front⟩ := ih (ahead.event due)
      rw [loop_event due early, loop_event due (always _)]
      constructor
      · rw [filter_after (.event e) early, ← same]
        rfl
      · exact (List.prefix_cons_inj _).mpr front
  | spent s events ticks t due early spent =>
      rw [loop_timer due early, loop_timer due (always _), if_pos spent, if_pos spent]
      exact ⟨rfl, List.prefix_rfl⟩
  | timer s events ticks t due early left ih =>
      obtain ⟨same, front⟩ := ih (ahead.timer due ticks)
      rw [loop_timer due early, loop_timer due (always _), if_neg left, if_neg left]
      constructor
      · rw [filter_after (.timer t) early, ← same]
        rfl
      · exact (List.prefix_cons_inj _).mpr front

/-- The timers run out only when each of them was spent and one more is due. -/
theorem loop_exhausted (s : PacerState) (events : List PacingEvent) (ticks : Nat)
    (left : ticks ≤ maxTicks)
    (spent : (loop policy scenario until_ maxTicks s events ticks).tickBudgetExhausted = true) :
    ticks + (loop policy scenario until_ maxTicks s events ticks).trace.countP (fun x => x.1.isTimer) =
        maxTicks ∧
      ∃ t, (loop policy scenario until_ maxTicks s events ticks).state.pendingTimer = some t ∧
        past until_ t = false := by
  induction s, events, ticks using loop_induct policy scenario until_ maxTicks with
  | idle s events ticks due =>
      rw [loop_idle due] at spent
      cases spent
  | late s events ticks d due late =>
      rw [loop_past due late] at spent
      cases spent
  | event s events ticks e later due early ih =>
      rw [loop_event due early] at spent ⊢
      exact ih left spent
  | spent s events ticks t due early full =>
      rw [loop_timer due early, if_pos full]
      exact ⟨Nat.le_antisymm left (Nat.lt_succ_iff.mp full), t, (dueNow_timer due).1,
        Bool.not_eq_true _ ▸ early⟩
  | timer s events ticks t due early room ih =>
      rw [loop_timer due early, if_neg room] at spent ⊢
      obtain ⟨count, due'⟩ := ih (Nat.not_lt.mp room) spent
      refine ⟨?_, due'⟩
      rw [after, List.countP_cons_of_pos rfl]
      omega

variable (policy scenario) in
/-- The state after the ticks of a trace. -/
def replayed (s : PacerState) (ticks : Nat) : List (Tick × List Proposal) → PacerState
  | [] => s
  | (.event e, _) :: rest => replayed (pacingStep s e policy scenario).1 ticks rest
  | (.timer t, _) :: rest =>
      replayed (pacingStep s (synthetic t ticks) policy scenario).1 (ticks + 1) rest

theorem loop_state (s : PacerState) (events : List PacingEvent) (ticks : Nat) :
    (loop policy scenario until_ maxTicks s events ticks).state =
      replayed policy scenario s ticks (loop policy scenario until_ maxTicks s events ticks).trace := by
  induction s, events, ticks using loop_induct policy scenario until_ maxTicks with
  | idle s events ticks due =>
      rw [loop_idle due]
      rfl
  | late s events ticks d due late =>
      rw [loop_past due late]
      rfl
  | event s events ticks e later due early ih =>
      rw [loop_event due early]
      exact ih
  | spent s events ticks t due early spent =>
      rw [loop_timer due early, if_pos spent]
      rfl
  | timer s events ticks t due early left ih =>
      rw [loop_timer due early, if_neg left]
      exact ih

end Runs

end Replay

/-- By instant, then by sequence number. -/
def PacingEvent.key (e : PacingEvent) : Int ×ₗ Nat := toLex (e.instant, e.seq)

def sortEvents (events : List PacingEvent) : List PacingEvent :=
  events.insertionSort (ByKey PacingEvent.key)

def simulateBounded (events : List PacingEvent) (policy : AdmissionPolicy) (scenario : Scenario)
    (until_ : Option OffsetDateTime) (maxTicks : Nat) : Replay :=
  Replay.loop policy scenario until_ maxTicks .default (sortEvents events) 0

def simulate (events : List PacingEvent) (policy : AdmissionPolicy) (scenario : Scenario) : Replay :=
  simulateBounded events policy scenario none maxTimerTicks

def simulateUntil (events : List PacingEvent) (policy : AdmissionPolicy) (scenario : Scenario)
    (until_ : Option OffsetDateTime) : Replay :=
  simulateBounded events policy scenario until_ maxTimerTicks

/-! ## The whole simulation -/

section Simulations

variable (policy : AdmissionPolicy) (scenario : Scenario) (until_ : Option OffsetDateTime)
  (maxTicks : Nat)

theorem sortEvents_ahead (events : List PacingEvent) {lower : OffsetDateTime}
    (first : ∀ e ∈ events, lower ≤ e.instant) :
    Replay.Ahead lower .default (sortEvents events) where
  dated := (List.pairwise_insertionSort (ByKey PacingEvent.key) events).imp fun before =>
    (Prod.Lex.le_iff.mp before).elim Int.le_of_lt fun same => Int.le_of_eq same.1
  events_le := fun e mem => first e ((List.mem_insertionSort _).mp mem)
  timer_lt := fun t pending => by cases pending

/-- There is an instant no event is before. -/
theorem exists_lower (events : List PacingEvent) : ∃ lower, ∀ e ∈ events, lower ≤ e.instant := by
  induction events with
  | nil => exact ⟨0, fun e mem => absurd mem List.not_mem_nil⟩
  | cons e events ih =>
      obtain ⟨lower, below⟩ := ih
      refine ⟨min lower e.instant, List.forall_mem_cons.mpr ⟨Int.min_le_right _ _, ?_⟩⟩
      intro e' mem
      exact Int.le_trans (Int.min_le_left _ _) (below e' mem)

theorem within_sortEvents (events : List PacingEvent) :
    Replay.within until_ (sortEvents events) = sortEvents (Replay.within until_ events) :=
  filter_insertionSort _ _ _

theorem sortEvents_congr {events events' : List PacingEvent} (perm : events.Perm events')
    (distinct : (events.map PacingEvent.key).Nodup) : sortEvents events = sortEvents events' :=
  insertionSort_congr _ perm fun _ mem _ mem' before after =>
    List.inj_on_of_nodup_map distinct mem mem' (le_antisymm before after)

/-- A simulation depends only on the events up to `until_`. -/
theorem simulateBounded_congr {events events' : List PacingEvent}
    (distinct : (events.map PacingEvent.key).Nodup)
    (same : (Replay.within until_ events).Perm (Replay.within until_ events')) :
    simulateBounded events policy scenario until_ maxTicks =
      simulateBounded events' policy scenario until_ maxTicks := by
  obtain ⟨lower, first⟩ := exists_lower events
  obtain ⟨lower', first'⟩ := exists_lower events'
  have apart : ((Replay.within until_ events).map PacingEvent.key).Nodup :=
    distinct.sublist (List.filter_sublist.map _)
  rw [simulateBounded, simulateBounded, ← Replay.loop_within (sortEvents_ahead events first),
    ← Replay.loop_within (sortEvents_ahead events' first'), within_sortEvents, within_sortEvents,
    sortEvents_congr same apart]

/-- A timer and a later tick: what an ordered trace says of them. -/
theorem ordered_instants {trace : List (Tick × List Proposal)} (ordered : Replay.Ordered trace) :
    (trace.map fun x => x.1.instant).Pairwise (· ≤ ·) := by
  rw [List.pairwise_map, ← List.isChain_iff_pairwise]
  exact ordered.imp fun _ _ follows => follows.le

/-- Replaying depends neither on the order of the events nor on those after `until_`; its ticks
go forward in time, every timer past the step that set it; every event in time is processed
once, unless the budget of timers was spent on timers; and a cut replay is the beginning of the
whole one. -/
theorem simulateUntil_spec (events : List PacingEvent)
    (distinct : (events.map PacingEvent.key).Nodup) :
    (∀ events', events'.Perm events →
        simulateUntil events' policy scenario until_ = simulateUntil events policy scenario until_) ∧
      (((simulateUntil events policy scenario until_).trace.map fun x => x.1.instant).Pairwise
          (· ≤ ·) ∧
        Replay.Ordered (simulateUntil events policy scenario until_).trace ∧
        ∀ s e t, (pacingStep s e policy scenario).1.pendingTimer = some t → e.instant < t) ∧
      ((simulateUntil events policy scenario until_).tickBudgetExhausted = false →
        ((simulateUntil events policy scenario until_).trace.filterMap fun x => x.1.event?).Perm
          (events.filter fun e => !Replay.past until_ e.instant)) ∧
      ((simulateUntil events policy scenario until_).tickBudgetExhausted = true →
        (simulateUntil events policy scenario until_).trace.countP (fun x => x.1.isTimer) =
            maxTimerTicks ∧
          ∃ t, (simulateUntil events policy scenario until_).state.pendingTimer = some t ∧
            Replay.past until_ t = false) ∧
      ((simulateUntil events policy scenario until_).trace =
          (simulate events policy scenario).trace.filter
            (fun x => !Replay.past until_ x.1.instant) ∧
        (simulateUntil events policy scenario until_).trace <+:
          (simulate events policy scenario).trace ∧
        (simulateUntil events policy scenario until_).state =
          Replay.replayed policy scenario .default 0
            (simulateUntil events policy scenario until_).trace) ∧
      ∀ events', (events'.filter fun e => !Replay.past until_ e.instant).Perm
          (events.filter fun e => !Replay.past until_ e.instant) →
        simulateUntil events' policy scenario until_ = simulateUntil events policy scenario until_ := by
  obtain ⟨lower, first⟩ := exists_lower events
  have ahead := sortEvents_ahead events first
  have ordered : Replay.Ordered (simulateUntil events policy scenario until_).trace :=
    (Replay.loop_ordered ahead 0).1
  have congr : ∀ events', (events'.filter fun e => !Replay.past until_ e.instant).Perm
      (events.filter fun e => !Replay.past until_ e.instant) →
      simulateUntil events' policy scenario until_ = simulateUntil events policy scenario until_ :=
    fun events' same =>
      (simulateBounded_congr policy scenario until_ maxTimerTicks distinct same.symm).symm
  have cut : (simulateUntil events policy scenario until_).trace =
      (simulate events policy scenario).trace.filter (fun x => !Replay.past until_ x.1.instant) ∧ _ :=
    Replay.loop_cut ahead 0
  refine ⟨fun events' perm => congr events' (perm.filter _),
    ⟨ordered_instants ordered, ordered, fun s e t pending => pacingStep_timer pending⟩, ?_, ?_,
    ⟨cut.1, cut.2, Replay.loop_state _ _ _⟩, congr⟩
  · intro resolved
    have processed := Replay.loop_processed ahead 0 resolved
    rw [within_sortEvents] at processed
    rw [show (simulateUntil events policy scenario until_).trace.filterMap (fun x => x.1.event?) = _
      from processed]
    exact List.perm_insertionSort _ _
  · intro spent
    obtain ⟨count, due⟩ := Replay.loop_exhausted .default (sortEvents events) 0 (Nat.zero_le _) spent
    exact ⟨(Nat.zero_add _).symm.trans count, due⟩

end Simulations

/-- An hour's window of a hundred tokens, and one task that needs ninety. -/
def hourlyScenario : Scenario where
  tasks := ⟨[⟨⟨1⟩, ⟨"p"⟩, [], .normal, none, ⟨.quantiles .tokens ⟨.tokens, 90⟩, .high⟩⟩]⟩
  windows := [⟨⟨1⟩, ⟨none⟩, .tokens, .sliding 3600 100, by decide, by decide, by simp⟩]
  contract := none
  preference := .burst (10 ^ 18) 4

def hourlyPolicy : AdmissionPolicy where
  resource := ⟨.hard, ⟨.tokens, 100⟩, none, ⟨.tokens, 100⟩⟩
  time := ⟨.approval, 3600, none, none, none⟩
  qualityFloor := .first [⟨"done", true⟩]
  minConfidence := .low
  renewal := none
  turn := none

/-- Two events of one instant, told apart by their sequence numbers, and one after `until_`. -/
def threeEvents : List PacingEvent :=
  [.modeChanged 7000000 3, .taskCompleted 5000000 2 ⟨1⟩, .modeChanged 5000000 1]

theorem simulateUntil_swapped :
    let replay := simulateUntil threeEvents hourlyPolicy hourlyScenario (some 6000000)
    replay = simulateUntil [.modeChanged 5000000 1, .taskCompleted 5000000 2 ⟨1⟩] hourlyPolicy
        hourlyScenario (some 6000000) ∧
      replay.tickBudgetExhausted = false ∧
      replay.trace.map (fun x => x.1) =
        [.event (.modeChanged 5000000 1), .event (.taskCompleted 5000000 2 ⟨1⟩)] ∧
      (replay.trace.filterMap fun x => x.1.event?).Perm
        [.taskCompleted 5000000 2 ⟨1⟩, .modeChanged 5000000 1] := by
  obtain ⟨-, -, processed, -, -, early⟩ := simulateUntil_spec hourlyPolicy hourlyScenario
    (some 6000000) threeEvents (by decide)
  have resolved : (simulateUntil threeEvents hourlyPolicy hourlyScenario
      (some 6000000)).tickBudgetExhausted = false := by decide +kernel
  refine ⟨(early _ ?_).symm, resolved, by decide +kernel, processed resolved⟩
  exact List.Perm.swap _ _ _

end LibraGovernor
