/-
# LibraGovernor.Daemon.ReceiptWindows -- receipts tile what a transcript shows

Each receipt measures the window from the last receipt before it, the first one from the
start of its plan's lineage.  A `ReceiptHistory` runs the preflights and finalizes of one
lane over a transcript that grows while they come, and keeps the windows that were
measured.

The windows follow one another as long as the stored text of a receipt's time sorts after
those before it, and the first of them starts with the task's first plan unless that plan
was given up before any receipt; a message whose lines lie on both sides of a receipt is
counted on both.  Outside these cases every message is counted once (`receipts_tile`), and
each of them is a run that breaks it (`receipts_overlap_or_miss`).  The source knows of the last two and
accepts them; that a text sorts otherwise than its instant it does not expect.
-/
import LibraGovernor.Daemon.LegacyWrites
import LibraGovernor.Daemon.PlanAdmission
import LibraGovernor.Ledger.Attestation
import LibraGovernor.Lib.Windows
import LibraGovernor.Usage.Window

namespace LibraGovernor

open Relational Scan Tiling Transaction Transition

set_option autoImplicit false

/-! ## A transcript and its windows -/

/-- The lines of a file, each with the instant it was appended at. -/
structure UsageTranscript where
  lines : List (OffsetDateTime × UsageLine)
  own : ∀ p ∈ lines, p.2.timestamp = some p.1
  ordered : (lines.map Prod.fst).Pairwise (· ≤ ·)
  apart : (lines.map fun p => p.2.offset).Nodup

/-- What holds of an element if it holds of a later one: taking while it holds is selecting. -/
theorem takeWhile_eq_filter {α : Type} {p : α → Bool} {xs : List α}
    (closed : xs.Pairwise fun x y => p y = true → p x = true) : xs.takeWhile p = xs.filter p := by
  induction xs with
  | nil => rfl
  | cons x xs ih =>
      rw [List.pairwise_cons] at closed
      by_cases here : p x = true
      · rw [List.takeWhile_cons_of_pos here, List.filter_cons_of_pos here, ih closed.2]
      · have none : xs.filter p = [] := by
          refine List.filter_eq_nil_iff.mpr ?_
          intro y mem there
          exact here (closed.1 y mem there)
        rw [List.takeWhile_cons_of_neg here, List.filter_cons_of_neg here, none]

namespace UsageTranscript

variable (t : UsageTranscript)

/-- The file at an instant. -/
def visibleAt (now : OffsetDateTime) : List UsageLine :=
  (t.lines.filter fun p => decide (p.1 < now)).map Prod.snd

/-- What a receipt written at a window's stop books for it. -/
def measured (w : Window OffsetDateTime) : Option Nat :=
  (observeTranscriptWindow (t.visibleAt w.stop) w.start).map TurnUsage.freshTokens

/-- The receipt of the window counts the message. -/
def counts (m : MessageRef) (w : Window OffsetDateTime) : Bool :=
  countsMessage (t.visibleAt w.stop) w.start m

/-- A window counts a message exactly when it contains one of its lines. -/
theorem counts_iff (m : MessageRef) (w : Window OffsetDateTime) :
    t.counts m w = true ↔ ∃ p ∈ t.lines, p.2.message = some m ∧ w.Contains p.1 := by
  have older : ∀ p ∈ t.lines, considerLine p.2 w.start ≠ .older ↔ w.start ≤ p.1 := by
    intro p mem
    rw [considerLine, t.own p mem]
    by_cases before : p.1 < w.start
    · simp [before]
    · simp only [Option.any_some, decide_eq_true_eq, before, if_false]
      cases p.2.usage with
      | none => simp [not_lt.mp before]
      | some counted => simp [not_lt.mp before]
  have sorted : (t.visibleAt w.stop).reverse.Pairwise fun x y =>
      decide (considerLine y w.start ≠ .older) = true →
        decide (considerLine x w.start ≠ .older) = true := by
    rw [List.pairwise_reverse, visibleAt, List.pairwise_map]
    refine (List.pairwise_map.mp t.ordered).filter _ |>.imp_of_mem ?_
    intro p q mem mem' le reached
    rw [decide_eq_true_eq, older p (List.mem_filter.mp mem).1] at reached
    rw [decide_eq_true_eq, older q (List.mem_filter.mp mem').1]
    exact reached.trans le
  rw [counts, countsMessage, reached, takeWhile_eq_filter sorted, List.any_eq_true]
  constructor
  · rintro ⟨l, mem, named⟩
    rw [List.mem_filter, List.mem_reverse, visibleAt, List.mem_map] at mem
    obtain ⟨⟨p, visible, rfl⟩, kept⟩ := mem
    rw [List.mem_filter, decide_eq_true_eq] at visible
    rw [decide_eq_true_eq, older p visible.1] at kept
    exact ⟨p, visible.1, of_decide_eq_true named, kept, visible.2⟩
  · rintro ⟨p, mem, named, after, before⟩
    refine ⟨p.2, ?_, decide_eq_true named⟩
    rw [List.mem_filter, List.mem_reverse, decide_eq_true_eq, older p mem]
    exact ⟨List.mem_map_of_mem (List.mem_filter.mpr ⟨mem, decide_eq_true before⟩), after⟩

/-- No message has a line before the cut and another one after it that is seen at `stop`. -/
def Unstraddled (cut stop : OffsetDateTime) : Prop :=
  ∀ p ∈ t.lines, ∀ q ∈ t.lines, p.2.message ≠ none → p.2.message = q.2.message →
    p.1 < cut → cut < q.1 → stop ≤ q.1

end UsageTranscript

/-! ## Runs of a lane -/

/-- A preflight of the lane, or a finalize of it. -/
inductive LaneOp where
  | preflight (input : PreflightInput) (sweepAt : OffsetDateTime)
  | finalize (now : OffsetDateTime)

def LaneOp.instant : LaneOp → OffsetDateTime
  | .preflight input _ => input.now
  | .finalize now => now

/-- Instants that increase, none of them that of a line. -/
def Spaced (t : UsageTranscript) (ops : List LaneOp) : Prop :=
  (ops.map LaneOp.instant).Pairwise (· < ·) ∧ ∀ op ∈ ops, ∀ p ∈ t.lines, p.1 ≠ op.instant

instance (t : UsageTranscript) (ops : List LaneOp) : Decidable (Spaced t ops) :=
  inferInstanceAs (Decidable (_ ∧ _))

/-- The store, and the windows its receipts measured. -/
structure ReceiptHistory where
  store : Trajectory
  windows : List (Window OffsetDateTime)

/-- A finalize of the lane, which reads the transcript as it is then. -/
def finalizeInput (t : UsageTranscript) (lane : String) (now : OffsetDateTime) : FinalizeInput where
  sessionId := lane
  lane := lane
  now := now
  observe := fun windowStart => t.measured ⟨windowStart, now⟩

/-- Where a finalize of the lane starts its window. -/
def laneWindowStart (s : Trajectory) (lane : String) : Option OffsetDateTime :=
  (laneInFlight s lane).map fun current =>
    usageWindowStart s current.1 ((s.planLineageStartedAt current.2.id).getD current.2.createdAt)

namespace ReceiptHistory

def empty : ReceiptHistory := ⟨.empty, []⟩

def step (config : DaemonConfig) (lane : String) (t : UsageTranscript) (h : ReceiptHistory) :
    LaneOp → ReceiptHistory
  | .preflight input sweepAt =>
      { h with store := (LegacyOp.preflight { input with lane } sweepAt).after config none h.store }
  | .finalize now =>
      let ended := (handleFinalizeForLane (finalizeInput t lane now)).run none h.store
      { store := ended.2
        windows := h.windows ++
          match ended.1 with
          | .ok (.finalized _) =>
              (laneWindowStart h.store lane).toList.map fun start => ⟨start, now⟩
          | _ => [] }

/-- Each receipt books what its window measures, no message is counted twice, and none that
lies between the first plan and a receipt is missed. -/
structure Tiled (t : UsageTranscript) (h : ReceiptHistory) : Prop where
  booked : (h.store.receipts.rows.map fun r => (r.recordedAt, r.actualUsage)) =
    h.windows.map fun w =>
      (w.stop, ((t.measured w).map fun tokens => (⟨.tokens, tokens⟩ : ResourceAmount)).toList)
  once : ∀ m, (h.windows.filter (t.counts m)).length ≤ 1
  missed : ∀ m first, h.store.plans.rows.head? = some first →
    (∃ p ∈ t.lines, p.2.message = some m) →
    (∀ p ∈ t.lines, p.2.message = some m →
      first.createdAt < p.1 ∧ ∃ w ∈ h.windows, p.1 < w.stop) →
    (h.windows.filter (t.counts m)).length = 1

end ReceiptHistory

/-- The receipts there are sort as text in the order of their instants, no message is split by
one of them, and the first receipt leaves out no line since the first plan. -/
structure Aligned (t : UsageTranscript) (s : Trajectory) (plan : ExecutionPlan) (now : OffsetDateTime) :
    Prop where
  ordered : ∀ r ∈ s.receipts, ∀ r' ∈ s.receipts, TextOrdered r.recordedAt r'.recordedAt
  unsplit : ∀ r ∈ s.receipts, t.Unstraddled r.recordedAt now
  reaches : s.receipts.rows = [] → ∀ first, s.plans.rows.head? = some first →
    ∀ p ∈ t.lines, p.2.message ≠ none → first.createdAt < p.1 → plan.createdAt ≤ p.1

/-- A finalize that comes to write a receipt is aligned with those before it. -/
def LaneOp.Aligns (t : UsageTranscript) (lane : String) (s : Trajectory) : LaneOp → Prop
  | .preflight _ _ => True
  | .finalize now => ∀ taskId plan, laneInFlight s lane = some (taskId, plan) →
      alreadyFinalized s lane = false → Aligned t s plan now

/-! ## What a preflight leaves of a lane -/

/-- The lane keeps its receipts, its task and its first plan, and every plan starts a lineage. -/
structure Continues (lane : String) (s s' : Trajectory) : Prop where
  receipts : s'.receipts = s.receipts
  task : ∀ taskId, s.taskIdForSession lane = some taskId → s'.taskIdForSession lane = some taskId
  first : ∀ first, s.plans.rows.head? = some first →
    ∃ first', s'.plans.rows.head? = some first' ∧ first'.createdAt = first.createdAt
  started : (∀ p ∈ s.plans, p.replaces = none) → ∀ p ∈ s'.plans, p.replaces = none

namespace Continues

variable {lane : String}

theorem of_eq {s s' : Trajectory} (receipts : s'.receipts = s.receipts)
    (sessions : s'.sessionTasks = s.sessionTasks) (plans : s'.plans = s.plans) :
    Continues lane s s' where
  receipts := receipts
  task := by
    intro taskId known
    rw [Trajectory.taskIdForSession, sessions]
    exact known
  first := by
    intro first head
    exact ⟨first, plans ▸ head, rfl⟩
  started := by
    intro started
    rw [plans]
    exact started

theorem insertPlan {s s' : Trajectory} {plan : ExecutionPlan} (fresh : plan.replaces = none)
    (done : s.insertPlan plan = .ok ((), s')) : Continues lane s s' := by
  obtain ⟨plans, stored, rfl⟩ := Trajectory.insertPlan_ok done
  refine ⟨rfl, fun _ known => known, ?_, ?_⟩
  · intro first head
    refine ⟨first, ?_, rfl⟩
    rw [((Table.insert?_eq_some_iff _ _ _).mp stored).2, List.head?_append, head]
    rfl
  · intro started p mem
    rcases (Table.mem_insert? stored p).mp mem with old | rfl
    · exact started p old
    · exact fresh

theorem setPlanAdmission {s s' : Trajectory} {planId : PlanId} {verdict : Admission}
    (done : s.setPlanAdmission planId verdict = .ok ((), s')) : Continues lane s s' := by
  cases done
  refine ⟨rfl, fun _ known => known, ?_, ?_⟩
  · intro first head
    have rows : ∀ f : ExecutionPlan → ExecutionPlan, (s.plans.rows.map f).head? = some (f first) := by
      intro f
      rw [List.head?_map, head]
      rfl
    refine ⟨_, rows _, ?_⟩
    split
    · rfl
    · rfl
  · intro started p mem
    obtain ⟨was, there, rfl⟩ := List.mem_map.mp mem
    have kept := started was there
    split
    · exact kept
    · exact kept

/-- Every write of a preflight continues the lane. -/
theorem writes (lane : String) : Writes (Continues lane) where
  refl s := of_eq rfl rfl rfl
  trans s s' s'' before after := by
    refine ⟨after.receipts.trans before.receipts, ?_, ?_, fun started => after.started (before.started started)⟩
    · intro taskId known
      exact after.task taskId (before.task taskId known)
    · intro first head
      obtain ⟨first', head', same⟩ := before.first first head
      obtain ⟨first'', head'', same'⟩ := after.first first' head'
      exact ⟨first'', head'', same'.trans same⟩
  task s s' taskId now done := by
    obtain ⟨tasks, -, rfl⟩ := Trajectory.insertTask_ok done
    exact of_eq rfl rfl rfl
  sessionTask s s' sessionId taskId now done := by
    have kept : ∀ known, s.taskIdForSession lane = some known → s'.taskIdForSession lane = some known :=
      fun known named => Trajectory.taskIdForSession_insertSessionTask done named
    obtain ⟨sessionTasks, -, rfl⟩ := Trajectory.insertSessionTask_ok done
    exact ⟨rfl, kept, fun first head => ⟨first, head, rfl⟩, fun started => started⟩
  contract s contracts := of_eq rfl rfl rfl
  preflights s preflights := of_eq rfl rfl rfl
  admission s s' planId verdict := setPlanAdmission
  toolCalls s toolCalls := of_eq rfl rfl rfl
  replanStates s replanStates := of_eq rfl rfl rfl
  budget s budget := of_eq rfl rfl rfl

theorem preflight (config : DaemonConfig) (input : PreflightInput) (sweepAt : OffsetDateTime)
    (s : Trajectory) :
    Continues lane s ((LegacyOp.preflight { input with lane } sweepAt).after config none s) := by
  have keeps : Script.Keeps (Continues lane s)
      (handlePreflightForLane config { input with lane } sweepAt) :=
    (writes lane).handlePreflightForLane _ sweepAt fun s s' plan fresh => insertPlan fresh
  exact keeps.run none ((writes lane).refl s)

end Continues

/-! ## The windows follow one another -/

namespace ReceiptHistory

/-- The windows are chained, rise, split no message and leave out no line since the first plan. -/
structure Inv (t : UsageTranscript) (lane : String) (h : ReceiptHistory) : Prop where
  booked : (h.store.receipts.rows.map fun r => (r.recordedAt, r.actualUsage)) =
    h.windows.map fun w =>
      (w.stop, ((t.measured w).map fun tokens => (⟨.tokens, tokens⟩ : ResourceAmount)).toList)
  task : ∀ r ∈ h.store.receipts, h.store.taskIdForSession lane = some r.taskId
  started : ∀ p ∈ h.store.plans, p.replaces = none
  rising : (h.windows.map Window.stop).Pairwise (· < ·)
  clear : ∀ w ∈ h.windows, ∀ p ∈ t.lines, p.1 ≠ w.stop
  chained : ∀ w, h.windows.head? = some w → Chained w.start h.windows
  unsplit : h.windows.Pairwise fun w w' => t.Unstraddled w.stop w'.stop
  reaches : ∀ w, h.windows.head? = some w → ∃ first, h.store.plans.rows.head? = some first ∧
    ∀ p ∈ t.lines, p.2.message ≠ none → first.createdAt < p.1 → w.start ≤ p.1

variable {t : UsageTranscript} {lane : String} {h : ReceiptHistory}

theorem Inv.stops (inv : h.Inv t lane) :
    h.store.receipts.rows.map ExecutionReceipt.recordedAt = h.windows.map Window.stop := by
  have firsts := congrArg (List.map Prod.fst) inv.booked
  simpa [List.map_map, Function.comp_def] using firsts

/-- What continues the lane keeps the invariant. -/
theorem Inv.continues (inv : h.Inv t lane) {s' : Trajectory} (continues : Continues lane h.store s') :
    ({ h with store := s' } : ReceiptHistory).Inv t lane := by
  refine { inv with
    booked := ?_, task := ?_, started := continues.started inv.started, reaches := ?_ }
  · rw [continues.receipts]
    exact inv.booked
  · intro r mem
    rw [continues.receipts] at mem
    exact continues.task _ (inv.task r mem)
  · intro w head
    obtain ⟨first, there, after⟩ := inv.reaches w head
    obtain ⟨first', there', same⟩ := continues.first first there
    exact ⟨first', there', same ▸ after⟩

/-- When the texts are ordered, the last receipt of the lane's task is where the chain ends. -/
theorem Inv.lastReceipt (inv : h.Inv t lane)
    (ordered : ∀ r ∈ h.store.receipts, ∀ r' ∈ h.store.receipts,
      TextOrdered r.recordedAt r'.recordedAt) {taskId : TaskId}
    (named : h.store.taskIdForSession lane = some taskId) (some_ : h.windows ≠ [])
    (start : OffsetDateTime) :
    h.store.lastReceiptRecordedAt taskId = some (nextStart start h.windows) := by
  have all : (h.store.receipts.rows.filter fun r => r.taskId = taskId) = h.store.receipts.rows := by
    refine List.filter_eq_self.mpr ?_
    intro r mem
    have same := (inv.task r mem).symm.trans named
    exact decide_eq_true (Option.some.inj same)
  have chain : nextStart start h.windows ∈ h.windows.map Window.stop ∧
      ∀ w ∈ h.windows, w.stop ≤ nextStart start h.windows := nextStart_latest inv.rising some_
  obtain ⟨there, latest⟩ := chain
  rw [Trajectory.lastReceiptRecordedAt, all, inv.stops]
  have texts : ∀ x ∈ h.windows.map Window.stop, ∀ y ∈ h.windows.map Window.stop, TextOrdered x y := by
    rw [← inv.stops]
    intro x mem y mem'
    obtain ⟨r, own, rfl⟩ := List.mem_map.mp mem
    obtain ⟨r', own', rfl⟩ := List.mem_map.mp mem'
    exact ordered r own r' own'
  cases found : best (fun t kept => !OffsetDateTime.textLe t kept) (h.windows.map Window.stop) with
  | none =>
      rw [best_eq_none_iff, List.map_eq_nil_iff] at found
      exact absurd found some_
  | some b =>
      have bound : nextStart start h.windows ≤ b := by
        refine best_bound (R := fun x y => x ≤ y) le_refl (fun x y z => le_trans) ?_ ?_ found _ there
        · intro x mem y mem' later
          rw [Bool.not_eq_true', Bool.eq_false_iff] at later
          exact le_of_not_ge fun sooner => later ((texts x mem y mem').mpr sooner)
        · intro x mem y mem' kept
          rw [Bool.not_eq_false'] at kept
          exact (texts x mem y mem').mp kept
      obtain ⟨w, mem, rfl⟩ := List.mem_map.mp (best_mem found)
      rw [le_antisymm bound (latest w mem)]

theorem laneInFlight_some {s : Trajectory} {taskId : TaskId} {plan : ExecutionPlan}
    (here : laneInFlight s lane = some (taskId, plan)) :
    s.taskIdForSession lane = some taskId ∧ s.getPlan plan.id = some plan := by
  unfold laneInFlight at here
  split at here
  · rename_i named found
    cases here
    obtain ⟨planId, -, got⟩ := Option.bind_eq_some_iff.mp found
    have key := ((Table.find?_eq_some_iff _ _ _).mp got).2
    exact ⟨named, key ▸ got⟩
  · cases here

/-- The lineage of a plan that replaces none starts with it. -/
theorem planLineageStartedAt_of_started {s : Trajectory} {plan : ExecutionPlan}
    (found : s.getPlan plan.id = some plan) (started : plan.replaces = none) :
    s.planLineageStartedAt plan.id = some plan.createdAt := by
  rw [Trajectory.planLineageStartedAt, found, Option.map_some, Trajectory.lineageStart, started]
  rfl

/-- Where the next window starts: at the end of the chain, or with the plan in flight. -/
theorem Inv.windowStart (inv : h.Inv t lane) {now : OffsetDateTime} {taskId : TaskId}
    {plan : ExecutionPlan} (here : laneInFlight h.store lane = some (taskId, plan))
    (aligned : Aligned t h.store plan now) :
    laneWindowStart h.store lane = some (nextStart plan.createdAt h.windows) := by
  obtain ⟨named, found⟩ := laneInFlight_some here
  have own : plan ∈ h.store.plans := ((Table.find?_eq_some_iff _ _ _).mp found).1
  rw [laneWindowStart, here, Option.map_some,
    planLineageStartedAt_of_started found (inv.started plan own), Option.getD_some, usageWindowStart]
  by_cases none : h.windows = []
  · have empty : h.store.receipts.rows = [] := by
      have stops := inv.stops
      rw [none] at stops
      exact List.map_eq_nil_iff.mp stops
    rw [Trajectory.lastReceiptRecordedAt, empty, none]
    rfl
  · rw [inv.lastReceipt aligned.ordered named none plan.createdAt, Option.getD_some]

theorem head?_concat {α : Type} (xs : List α) (x : α) :
    (xs ++ [x]).head? = some (xs.head?.getD x) := by
  cases xs with
  | nil => rfl
  | cons y ys => rfl

/-- A receipt adds the window from the end of the chain to now. -/
theorem Inv.finalized (inv : h.Inv t lane) {now : OffsetDateTime} {receipt : ExecutionReceipt}
    {s' : Trajectory} (later : ∀ w ∈ h.windows, w.stop < now) (clear : ∀ p ∈ t.lines, p.1 ≠ now)
    (done : Finalized (finalizeInput t lane now) lane receipt h.store s')
    (aligns : ∀ taskId plan, laneInFlight h.store lane = some (taskId, plan) →
      Aligned t h.store plan now) :
    ∃ start, laneWindowStart h.store lane = some start ∧
      Inv t lane ⟨s', h.windows ++ [⟨start, now⟩]⟩ := by
  obtain ⟨taskId, plan, startedAt, here, rfl, written⟩ := done.flight
  have aligned := aligns taskId plan here
  have start := inv.windowStart here aligned
  obtain ⟨named, found⟩ := laneInFlight_some here
  have rows := ((Table.insert?_eq_some_iff _ _ _).mp done.stored).2
  have plans : s'.plans = h.store.plans := by rw [done.frame]
  have sessions : s'.sessionTasks = h.store.sessionTasks := by rw [done.frame]
  have measured : (receipt.recordedAt, receipt.actualUsage) = (now,
      ((t.measured ⟨nextStart plan.createdAt h.windows, now⟩).map fun tokens =>
        (⟨.tokens, tokens⟩ : ResourceAmount)).toList) := by
    rw [laneWindowStart, here, Option.map_some, Option.some.injEq] at start
    rw [written, start]
    rfl
  refine ⟨_, start, ?_⟩
  have first : ∃ first, h.store.plans.rows.head? = some first := by
    cases head : h.store.plans.rows.head? with
    | some first => exact ⟨first, rfl⟩
    | none =>
        have own : plan ∈ h.store.plans.rows := ((Table.find?_eq_some_iff _ _ _).mp found).1
        rw [List.head?_eq_none_iff] at head
        rw [head] at own
        cases own
  constructor
  · change s'.receipts.rows.map _ = _
    rw [rows, List.map_append, List.map_append, inv.booked]
    change _ ++ [(receipt.recordedAt, receipt.actualUsage)] = _
    rw [measured]
    rfl
  · intro r mem
    change Option.map _ (s'.sessionTasks.find? lane) = _
    rw [sessions]
    rcases (Table.mem_insert? done.stored r).mp mem with old | rfl
    · exact inv.task r old
    · rw [written]
      exact named
  · intro p mem
    change p ∈ s'.plans at mem
    rw [plans] at mem
    exact inv.started p mem
  · change (List.map Window.stop (h.windows ++ _)).Pairwise _
    rw [List.map_append, List.pairwise_append]
    refine ⟨inv.rising, List.pairwise_singleton _ _, ?_⟩
    intro stop mem _ last
    obtain ⟨w, own, rfl⟩ := List.mem_map.mp mem
    rw [List.mem_singleton.mp last]
    exact later w own
  · intro w mem p line
    rcases List.mem_append.mp mem with old | new
    · exact inv.clear w old p line
    · rw [List.mem_singleton.mp new]
      exact clear p line
  · intro w head
    rw [head?_concat, Option.some.injEq] at head
    subst head
    rw [chained_concat]
    cases only : h.windows.head? with
    | none =>
        rw [List.head?_eq_none_iff] at only
        rw [only]
        exact ⟨trivial, rfl⟩
    | some w =>
        obtain ⟨rest, cons⟩ := List.head?_eq_some_iff.mp only
        refine ⟨inv.chained w only, ?_⟩
        rw [cons]
        rfl
  · rw [List.pairwise_append]
    refine ⟨inv.unsplit, List.pairwise_singleton _ _, ?_⟩
    intro w own w' last
    rw [List.mem_singleton.mp last]
    have stop : w.stop ∈ h.store.receipts.rows.map ExecutionReceipt.recordedAt := by
      rw [inv.stops]
      exact List.mem_map_of_mem own
    obtain ⟨r, mem, same⟩ := List.mem_map.mp stop
    exact same ▸ aligned.unsplit r mem
  · intro w head
    rw [head?_concat, Option.some.injEq] at head
    subst head
    change ∃ first, s'.plans.rows.head? = some first ∧ _
    rw [plans]
    cases only : h.windows.head? with
    | none =>
        obtain ⟨first, there⟩ := first
        rw [List.head?_eq_none_iff] at only
        refine ⟨first, there, ?_⟩
        have empty : h.store.receipts.rows = [] := by
          have stops := inv.stops
          rw [only] at stops
          exact List.map_eq_nil_iff.mp stops
        rw [only]
        exact aligned.reaches empty first there
    | some w => exact inv.reaches w only

/-- A finalize of a plan that has its receipt writes none. -/
theorem finalized_fresh {input : FinalizeInput} (own : input.sessionId = input.lane) {s : Trajectory}
    {left : Option Nat} {receipt : ExecutionReceipt}
    (done : ((handleFinalizeForLane input).run left s).1 = .ok (.finalized receipt)) :
    alreadyFinalized s input.lane = false := by
  have triple : Script.Triple (fun s' => s' = s) (handleFinalizeForLane input) fun r _ =>
      ∀ receipt, r = .ok (.finalized receipt) → alreadyFinalized s input.lane = false := by
    refine Script.Triple.read_bind fun lane => Script.Triple.read_bind fun replayed => ?_
    split
    · exact .pure fun _ _ _ ended => nomatch ended
    · rename_i fresh
      refine Script.Triple.of_start ?_
      rintro s' ⟨⟨rfl, lane_eq⟩, replay⟩ _ _ receipt _
      have same : lane = input.lane := by
        rw [← lane_eq, resolveFinalizeLane, own]
        simp
      rw [← same, replay]
      exact Bool.eq_false_iff.mpr fresh
  exact triple.run left rfl receipt done

theorem step_inv (config : DaemonConfig) (op : LaneOp) (inv : h.Inv t lane)
    (later : ∀ w ∈ h.windows, w.stop < op.instant) (clear : ∀ p ∈ t.lines, p.1 ≠ op.instant)
    (aligns : op.Aligns t lane h.store) : (h.step config lane t op).Inv t lane := by
  cases op with
  | preflight input sweepAt => exact inv.continues (Continues.preflight config input sweepAt h.store)
  | finalize now =>
      have own : (finalizeInput t lane now).sessionId = (finalizeInput t lane now).lane := rfl
      have ended := (handleFinalizeForLane_spec own h.store).run none rfl
      have fresh : ∀ receipt, ((handleFinalizeForLane (finalizeInput t lane now)).run none h.store).1 =
          .ok (.finalized receipt) → alreadyFinalized h.store lane = false :=
        fun receipt => finalized_fresh own
      change Inv t lane ⟨_, _⟩
      generalize (handleFinalizeForLane (finalizeInput t lane now)).run none h.store = result
        at ended fresh ⊢
      obtain ⟨answer, s'⟩ := result
      have unwritten : BudgetOnly h.store s' → Inv t lane ⟨s', h.windows ++ []⟩ := by
        intro only
        rw [List.append_nil]
        refine inv.continues (Continues.of_eq ?_ ?_ ?_)
        · rw [only]
        · rw [only]
        · rw [only]
      match answer, ended with
      | .ok (.finalized receipt), done =>
          have aligned := fun taskId plan here => aligns taskId plan here (fresh receipt rfl)
          obtain ⟨start, named, next⟩ := inv.finalized later clear done aligned
          simp only [named, Option.toList_some, List.map_cons, List.map_nil]
          exact next
      | .ok .noActiveTask, only => exact unwritten only
      | .error _, only => exact unwritten only

/-- Chained windows that split no message count each once, and miss none they span. -/
theorem Inv.tiled (inv : h.Inv t lane) : h.Tiled t := by
  have once : ∀ m, (h.windows.filter (t.counts m)).length ≤ 1 := by
    intro m
    cases head : h.windows.head? with
    | none =>
        rw [List.head?_eq_none_iff.mp head]
        exact Nat.zero_le 1
    | some w₀ =>
        refine filter_length_le_one ?_
        have apart := (inv.chained w₀ head).apart inv.rising
        refine (apart.and inv.unsplit).imp_of_mem ?_
        rintro w w' mem mem' ⟨before, unsplit⟩ ⟨here, there⟩
        obtain ⟨p, line, named, -, early⟩ := (t.counts_iff m w).mp here
        obtain ⟨q, line', named', late, seen⟩ := (t.counts_iff m w').mp there
        have cut : w.stop < q.1 := lt_of_le_of_ne (before.trans late) (inv.clear w mem q line').symm
        have some_ : p.2.message ≠ none := by
          rw [named]
          nofun
        exact absurd seen (not_lt.mpr (unsplit p line q line' some_ (named.trans named'.symm) early cut))
  refine ⟨inv.booked, once, ?_⟩
  rintro m first head ⟨p, line, named⟩ within
  refine le_antisymm (once m) (one_le_filter_length ?_)
  obtain ⟨after, w, mem, before⟩ := within p line named
  cases start : h.windows.head? with
  | none =>
      rw [List.head?_eq_none_iff.mp start] at mem
      cases mem
  | some w₀ =>
      obtain ⟨first', head', reaches⟩ := inv.reaches w₀ start
      cases head.symm.trans head'
      have some_ : p.2.message ≠ none := by
        rw [named]
        nofun
      obtain ⟨found, own, contains⟩ := (inv.chained w₀ start).exists_contains
        (reaches p line some_ after) ⟨w, mem, before⟩
      exact ⟨found, own, (t.counts_iff m found).mpr ⟨p, line, named, contains⟩⟩

theorem windows_step (config : DaemonConfig) (op : LaneOp) (w : Window OffsetDateTime)
    (mem : w ∈ (h.step config lane t op).windows) : w ∈ h.windows ∨ w.stop = op.instant := by
  cases op with
  | preflight input sweepAt => exact .inl mem
  | finalize now =>
      rcases List.mem_append.mp mem with old | new
      · exact .inl old
      · split at new
        · obtain ⟨start, -, rfl⟩ := List.mem_map.mp new
          exact .inr rfl
        · cases new

theorem run_inv (config : DaemonConfig) {ops : List LaneOp} (inv : h.Inv t lane)
    (later : ∀ w ∈ h.windows, ∀ op ∈ ops, w.stop < op.instant)
    (rising : (ops.map LaneOp.instant).Pairwise (· < ·))
    (clear : ∀ op ∈ ops, ∀ p ∈ t.lines, p.1 ≠ op.instant)
    (aligns : Along (step config lane t) (fun h op => op.Aligns t lane h.store) h ops) :
    (run (step config lane t) h ops).Inv t lane := by
  induction ops generalizing h with
  | nil => exact inv
  | cons op ops ih =>
      rw [List.map_cons, List.pairwise_cons] at rising
      have next := step_inv config op inv (fun w mem => later w mem op List.mem_cons_self)
        (clear op List.mem_cons_self) aligns.1
      refine ih next ?_ rising.2 (fun op' mem => clear op' (List.mem_cons_of_mem op mem)) aligns.2
      intro w mem op' mem'
      rcases windows_step config op w mem with old | new
      · exact later w old op' (List.mem_cons_of_mem op mem')
      · rw [new]
        exact rising.1 _ (List.mem_map_of_mem mem')

end ReceiptHistory

/-- Receipts tile the usage of a lane, over every run whose finalizes are aligned. -/
theorem receipts_tile (config : DaemonConfig) (lane : String) (t : UsageTranscript) (ops : List LaneOp)
    (spaced : Spaced t ops)
    (aligns : Along (ReceiptHistory.step config lane t) (fun h op => op.Aligns t lane h.store) .empty
      ops) :
    (run (ReceiptHistory.step config lane t) .empty ops).Tiled t := by
  have start : ReceiptHistory.empty.Inv t lane := by
    refine ⟨rfl, ?_, ?_, .nil, ?_, ?_, .nil, ?_⟩
    · intro r mem
      cases mem
    · intro p mem
      cases mem
    · intro w mem
      cases mem
    · intro w head
      cases head
    · intro w head
      cases head
  refine (ReceiptHistory.run_inv config start ?_ spaced.1 spaced.2 aligns).tiled
  intro w mem
  cases mem

/-! ## Poles -/

/-- A hundred output tokens of a message, written at an instant in milliseconds. -/
def usageAt (offset : Nat) (id : Option String) (millis : Int) : OffsetDateTime × UsageLine :=
  (millis * 1000000, ⟨offset, some (millis * 1000000), some (id, ⟨none, none, none, some 100⟩)⟩)

def preflightAt (n : BitVec 128) (millis : Int) : LaneOp :=
  .preflight { lanePreflight n with now := millis * 1000000 } (millis * 1000000)

def finalizeAt (millis : Int) : LaneOp := .finalize (millis * 1000000)

/-- The text of the receipt at `01Z` stays the greatest: two windows start there. -/
def fractionRun : List LaneOp :=
  [preflightAt 1 0, finalizeAt 1000, preflightAt 2 1100, finalizeAt 1500, preflightAt 3 1600,
    finalizeAt 1700]

def fractionTranscript : UsageTranscript :=
  { lines := [usageAt 0 none 1300], own := by decide, ordered := by decide, apart := by decide }

/-- The blocks of one message on both sides of a receipt. -/
def straddledRun : List LaneOp :=
  [preflightAt 1 0, finalizeAt 2000, preflightAt 2 2500, finalizeAt 4000]

def straddledTranscript : UsageTranscript :=
  { lines := [usageAt 0 (some "msg") 1000, usageAt 1 (some "msg") 3000]
    own := by decide, ordered := by decide, apart := by decide }

/-- The first plan is superseded before any receipt. -/
def supersededRun : List LaneOp := [preflightAt 1 0, preflightAt 2 2000, finalizeAt 3000]

def supersededTranscript : UsageTranscript :=
  { lines := [usageAt 0 none 1000], own := by decide, ordered := by decide, apart := by decide }

/-- One lane of tokens. -/
def laneRun (t : UsageTranscript) (ops : List LaneOp) : ReceiptHistory :=
  run (ReceiptHistory.step (legacyConfig (tokenPolicy .low)) "main" t) .empty ops

/-- The texts of two receipts sort the other way round: a line is counted twice.  (A message on both
sides of a receipt and a plan given up before any receipt are limits that the source states.) -/
theorem receipts_overlap_or_miss :
    (Spaced fractionTranscript fractionRun ∧
      ¬ (laneRun fractionTranscript fractionRun).Tiled fractionTranscript) ∧
    (Spaced straddledTranscript straddledRun ∧
      ¬ (laneRun straddledTranscript straddledRun).Tiled straddledTranscript) ∧
    (Spaced supersededTranscript supersededRun ∧
      ¬ (laneRun supersededTranscript supersededRun).Tiled supersededTranscript) := by
  refine ⟨⟨by decide, ?_⟩, ⟨by decide, ?_⟩, ⟨by decide, ?_⟩⟩
  · intro tiled
    have once := tiled.once (.line 0)
    have twice : ((laneRun fractionTranscript fractionRun).windows.filter
        (fractionTranscript.counts (.line 0))).length = 2 := by decide +kernel
    omega
  · intro tiled
    have once := tiled.once (.named "msg")
    have twice : ((laneRun straddledTranscript straddledRun).windows.filter
        (straddledTranscript.counts (.named "msg"))).length = 2 := by decide +kernel
    omega
  · intro tiled
    have head : (laneRun supersededTranscript supersededRun).store.plans.rows.head?.map
        ExecutionPlan.createdAt = some 0 := by decide +kernel
    have stops : (laneRun supersededTranscript supersededRun).windows.map Window.stop =
        [3000000000] := by decide +kernel
    have none : ((laneRun supersededTranscript supersededRun).windows.filter
        (supersededTranscript.counts (.line 0))).length = 0 := by decide +kernel
    obtain ⟨first, there, created⟩ := Option.map_eq_some_iff.mp head
    have one := tiled.missed (.line 0) first there ⟨usageAt 0 .none 1000, List.mem_singleton_self _, rfl⟩
    have within : ∀ p ∈ supersededTranscript.lines, p.2.message = some (.line 0) →
        first.createdAt < p.1 ∧ ∃ w ∈ (laneRun supersededTranscript supersededRun).windows,
          p.1 < w.stop := by
      intro p line _
      rw [List.mem_singleton.mp line, created]
      have last : (3000000000 : OffsetDateTime) ∈
          (laneRun supersededTranscript supersededRun).windows.map Window.stop := by
        rw [stops]
        exact List.mem_singleton_self _
      obtain ⟨w, mem, stop⟩ := List.mem_map.mp last
      exact ⟨by decide, w, mem, stop ▸ by decide⟩
    have counted := one within
    omega

/-- A message of two blocks in each of two turns. -/
def twoTurns : UsageTranscript :=
  { lines := [usageAt 0 (some "one") 500, usageAt 1 (some "one") 1000, usageAt 2 (some "two") 2200,
      usageAt 3 (some "two") 3000]
    own := by decide, ordered := by decide, apart := by decide }

/-- All receipts are of one instant, which splits no message, and the plan in flight is older
than every line unless there is a receipt. -/
theorem LaneOp.aligns_of_all {t : UsageTranscript} {lane : String} {s : Trajectory}
    {now : OffsetDateTime} (cut : OffsetDateTime)
    (unsplit : ∀ p ∈ t.lines, ∀ q ∈ t.lines, p.2.message = q.2.message → p.1 < cut → q.1 ≤ cut)
    (all : ((s.receipts.rows.all fun r => decide (r.recordedAt = cut)) &&
      (!s.receipts.rows.isEmpty || (laneInFlight s lane).all fun c => t.lines.all fun p =>
        decide (c.2.createdAt ≤ p.1))) = true) : (LaneOp.finalize now).Aligns t lane s := by
  rw [Bool.and_eq_true, List.all_eq_true] at all
  have stamps : ∀ r ∈ s.receipts, r.recordedAt = cut := by
    intro r mem
    exact of_decide_eq_true (all.1 r mem)
  intro taskId plan here _
  refine ⟨?_, ?_, ?_⟩
  · intro r mem r' mem'
    rw [stamps r mem, stamps r' mem']
    exact Trajectory.textOrdered_self _
  · intro r mem p line q line' _ same before after
    rw [stamps r mem] at before after
    exact absurd after (not_lt.mpr (unsplit p line q line' same before))
  · intro none first _ p line _ _
    have older := all.2
    rw [none, here, Option.all_some] at older
    exact of_decide_eq_true (List.all_eq_true.mp older p line)

theorem two_turns_tiled : (laneRun twoTurns straddledRun).Tiled twoTurns ∧
    (laneRun twoTurns straddledRun).store.receipts.rows.map ExecutionReceipt.actualUsage =
      [[⟨.tokens, 100⟩], [⟨.tokens, 100⟩]] := by
  refine ⟨receipts_tile _ _ _ straddledRun (by decide) ⟨trivial, ?_, trivial, ?_, trivial⟩,
    by decide +kernel⟩
  · exact LaneOp.aligns_of_all 2000000000 (by decide) (by decide +kernel)
  · exact LaneOp.aligns_of_all 2000000000 (by decide) (by decide +kernel)

end LibraGovernor
