/-
# LibraGovernor.Domain.PacerSafe -- a start leaves every window open

A window is asked with the task's need as one more hold, and with spare headroom; the hold that
is recorded is the need alone.  So after a start every window, evaluated over the new holds, is
not blocking (`start_leaves_open`), whatever else was started in the same step.

A bucket may block and deny it: its arithmetic stops at the end of `i128`.  There the forecast
would start a task on a blocking window, so the bucket's scaled capacity is asked to fit.
-/
import LibraGovernor.Domain.EarliestSafe
import LibraGovernor.Domain.PacerRuns

namespace LibraGovernor

open Scan

set_option autoImplicit false

/-- `evaluate_at`: what the evidence shows, with every active task's hold outstanding. -/
def evaluateAt (s : PacerState) (scenario : Scenario) (snapshots : List ProviderSnapshot)
    (instant : OffsetDateTime) : List WindowEvaluation :=
  scenario.windows.map fun window =>
    window.evaluate ⟨s.usageLog, (pendingForWindow window s).map fun p => ⟨p.id, p.amount⟩, snapshots⟩
      instant

/-! ## A window that admits is open -/

/-- The capacity of a bucket, in thousandths of its refill period, fits an `i128`. -/
def WindowKind.Scaled : WindowKind → Prop
  | .refillBucket capacity _ refillPeriodSecs _ _ =>
      ((capacity : Int) * (refillPeriodSecs * 1000)) ≤ i128.high
  | _ => True

instance (kind : WindowKind) : Decidable kind.Scaled :=
  match kind with
  | .fixedAligned .. => isTrue trivial
  | .sliding .. => isTrue trivial
  | .refillBucket .. => Int.decLe _ _
  | .opaqueProviderSnapshot _ => isTrue trivial

section Open

variable {window : QuotaWindow} {evidence : QuotaEvidence} {now : OffsetDateTime}

theorem bucket_names {rate : BucketRate} {capacity held : Nat} {level : Int} (sound : rate.Sound)
    (held_le : held ≤ u64Max) (fits : rate.needed held ≤ i128.high ∨ capacity ≤ held)
    (blocks : WindowKind.bucketRemaining rate level held ≤ 0) :
    rate.relief now capacity held level (WindowKind.bucketRemaining rate level held) ≠ .notBlocking := by
  by_cases open_ : held < capacity
  · have needed_le := fits.resolve_right (by omega)
    have short := (bucketRemaining_nonpos_iff sound.period_pos level held).mp blocks
    have missing : 0 < rate.deficit held level := by
      rw [deficit_eq sound held_le, Saturating.Range.satSub, min_eq_left needed_le]
      by_contra none
      rw [not_lt, i128.clamp_nonpos_iff (by decide)] at none
      rw [← BucketRate.needed] at short
      omega
    rw [bucket_relief_blocking open_ held_le blocks, if_neg (not_le.mpr missing)]
    split <;> simp
  · rw [BucketRate.relief, one_more_eq held_le, if_pos (by omega)]
    simp

/-- A window that blocks does not deny it. -/
theorem blocking_names (countable : window.kind.isGauge = false) (scaled : window.kind.Scaled)
    (blocks : (evaluateKind window evidence now).2 = .blocking) :
    (evaluateKind window evidence now).1.relief ≠ .notBlocking := by
  have here := evaluateKind_eq evidence now countable
  have held_le : window.held evidence.holds ≤ u64Max := Nat.min_le_right _ _
  cases kind : window.kind with
  | fixedAligned period timeZone limit =>
      rw [kind] at here
      simp only [WindowKind.result, Option.some_inj] at here
      rw [← here] at blocks ⊢
      have full := (statusOf_blocking_iff _).mp blocks
      show WindowKind.fixedRelief _ _ _ _ ≠ _
      unfold WindowKind.fixedRelief
      rw [if_pos full]
      split <;> simp
  | sliding lengthSecs limit =>
      rw [kind] at here
      simp only [WindowKind.result, Option.some_inj] at here
      rw [← here] at blocks ⊢
      have full := (statusOf_blocking_iff _).mp blocks
      show WindowKind.rollingRelief _ _ _ _ _ ≠ _
      unfold WindowKind.rollingRelief
      rw [if_neg (not_not.mpr full)]
      split
      · simp
      · split <;> simp
  | refillBucket capacity refillAmount refillPeriodSecs anchoredAt levelAtAnchor =>
      obtain ⟨sound, -, -, -⟩ := bucket_sound kind
      rw [kind] at here scaled
      simp only [WindowKind.result, Option.some_inj] at here
      rw [← here] at blocks ⊢
      have full := (statusOf_blocking_iff _).mp blocks
      rw [WindowState.relief_bucket]
      refine bucket_names sound held_le ?_ full
      by_cases filled : capacity ≤ window.held evidence.holds
      · exact .inr filled
      refine .inl ?_
      have one_more : (window.held evidence.holds : Int) + 1 ≤ capacity := by omega
      have period_le : (bucketRate capacity refillAmount refillPeriodSecs).periodMs ≤
          refillPeriodSecs * 1000 := i128.clamp_le (mul_nonneg (Int.natCast_nonneg _) (by decide))
      have product := Int.mul_le_mul one_more period_le sound.period_pos.le (by omega)
      exact product.trans scaled
  | opaqueProviderSnapshot maxStalenessSecs =>
      rw [kind] at countable
      cases countable

theorem evaluate_opens (countable : window.kind.isGauge = false) {evidence' : QuotaEvidence}
    (usage : evidence'.usage = evidence.usage)
    (less : heldTotal window.unit evidence'.holds ≤ heldTotal window.unit evidence.holds)
    (open_ : (window.evaluate evidence now).blocking = .notBlocking) :
    (window.evaluate evidence' now).blocking = .notBlocking := by
  have here := evaluateKind_eq evidence' now countable
  have there := evaluateKind_eq evidence now countable
  rw [usage] at here
  have held : window.held evidence'.holds ≤ window.held evidence.holds := by
    unfold QuotaWindow.held
    omega
  exact (evaluate_noLooser (result_noLooser_held held here there)).blocking open_

end Open

section Check

variable {input : WindowInput} {need : Option QuotaAmount} {mode : ForecastMode} {t : OffsetDateTime}

/-- A gauge without a reading is not open. -/
theorem checkGauge_unread (gauge : input.window.isGauge = true) (unread : input.snapshots = []) :
    checkGauge input t ≠ .admit_ := by
  have status : ∃ reason, (input.window.evaluate ⟨input.usage, [], input.snapshots⟩ t).blocking =
      .indeterminate reason := by
    cases kind : input.window.kind with
    | opaqueProviderSnapshot maxStalenessSecs =>
        have none_ : (evaluateKind input.window ⟨input.usage, [], input.snapshots⟩ t).2 =
            .indeterminate .noSnapshot := by
          rw [evaluateKind, kind, unread]
          rfl
        rw [QuotaWindow.evaluate]
        dsimp only
        rw [none_]
        split
        · exact ⟨_, rfl⟩
        · exact ⟨_, rfl⟩
    | fixedAligned | sliding | refillBucket =>
        rw [QuotaWindow.isGauge, kind] at gauge
        cases gauge
  obtain ⟨reason, status⟩ := status
  rw [checkGauge, status]
  simp

/-- A window admits when it counts in the need's unit and is open with the need added. -/
theorem checkWindow_admits (unread : input.snapshots = []) (scaled : input.window.kind.Scaled)
    (admits : checkWindow input need mode t = .admit_) :
    input.window.isGauge = false ∧ ∃ n, need = some n ∧ n.unit = input.window.unit ∧
      (input.window.evaluate (input.withNeed (injectedNeed input.window n.value mode)) t).blocking =
        .notBlocking := by
  unfold checkWindow at admits
  dsimp only at admits
  split at admits
  · rename_i gauge
    exact absurd admits (checkGauge_unread gauge unread)
  rename_i countable
  have countable := eq_false_of_ne_true countable
  cases need with
  | none => cases admits
  | some n =>
      dsimp only at admits
      split at admits
      · cases admits
      rename_i unit
      refine ⟨countable, n, rfl, not_not.mp unit, ?_⟩
      split at admits
      · assumption
      · cases admits
      · rename_i blocks
        rw [evaluate_blocking_iff] at blocks
        have names := blocking_names countable scaled blocks
        rw [extractRelief_eq] at admits
        split at admits
        case h_5 open_ => exact absurd open_ names
        all_goals cases admits

end Check

/-! ## The hold that is recorded -/

theorem limit_of_countable {window : QuotaWindow} (countable : window.isGauge = false) :
    ∃ limit, window.limitOrCapacity = some limit := by
  unfold QuotaWindow.limitOrCapacity
  cases kind : window.kind with
  | opaqueProviderSnapshot maxStalenessSecs =>
      rw [QuotaWindow.isGauge, kind] at countable
      cases countable
  | fixedAligned | sliding | refillBucket => exact ⟨_, rfl⟩

theorem smallestLimit_le {windows : List QuotaWindow} {window : QuotaWindow} (mem : window ∈ windows)
    {limit : Nat} (own : window.limitOrCapacity = some limit) :
    ∃ least id, smallestLimit windows = some (least, id) ∧ least ≤ limit := by
  have listed : (limit, window.id) ∈ windows.filterMap fun w =>
      w.limitOrCapacity.map fun limit => (limit, w.id) :=
    List.mem_filterMap.mpr ⟨window, mem, by rw [own]; rfl⟩
  cases found : smallestLimit windows with
  | none =>
      rw [smallestLimit, best_eq_none_iff] at found
      rw [found] at listed
      cases listed
  | some x =>
      refine ⟨x.1, x.2, rfl, ?_⟩
      refine best_bound (R := fun a b : Nat × QuotaWindowId => b.1 ≤ a.1) ?_ ?_ ?_ ?_ found _ listed
      · exact fun _ => le_refl _
      · exact fun _ _ _ first second => second.trans first
      · exact fun a _ b _ less => (of_decide_eq_true less).le
      · exact fun a _ b _ more => not_lt.mp (of_decide_eq_false more)

/-- The need alone is no more than what a window was asked with. -/
theorem need_le_injectedNeed {windows : List QuotaWindow} {estimate : RemainingWorkEstimate}
    {contract : Option CompletionContract} {estimateForReserve : Option Estimate}
    {policy : AdmissionPolicy} {numerator denominator : Nat} {need : QuotaAmount}
    (computed : computeTaskNeed windows estimate contract estimateForReserve policy numerator
      denominator = .ok (some need)) {window : QuotaWindow} (mem : window ∈ windows)
    (countable : window.isGauge = false) (unit : need.unit = window.unit) (mode : ForecastMode) :
    need.value ≤ injectedNeed window need.value mode := by
  obtain ⟨limit, own⟩ := limit_of_countable countable
  have bounds : need.value ≤ u64Max ∧ need.value ≤ limit - 1 := by
    unfold computeTaskNeed at computed
    split at computed
    · cases computed
    · cases computed
    split at computed
    · cases computed
    rename_i kind p90 _ _ first others matching_
    have shared : resourceKindForUnit first.unit = some kind := by
      have mem : first ∈ matchingWindows windows kind := matching_ ▸ List.mem_cons_self
      exact (of_decide_eq_true (List.mem_filter.mp mem).2).2
    split at computed
    · cases computed
    extract_lets floored at computed
    clear_value floored
    have listed : ∀ value, need = ⟨first.unit, value⟩ → window ∈ first :: others := by
      rintro value rfl
      rw [← matching_]
      exact List.mem_filter.mpr ⟨mem, decide_eq_true ⟨countable, unit ▸ shared⟩⟩
    split at computed
    · rename_i none_
      cases computed
      obtain ⟨least, id, found, -⟩ := smallestLimit_le (listed _ rfl) own
      cases none_.symm.trans found
    · rename_i least id found
      split at computed
      · cases computed
      rename_i more
      cases computed
      obtain ⟨least', id', found', le⟩ := smallestLimit_le (listed _ rfl) own
      cases found.symm.trans found'
      dsimp only
      rw [if_pos (by omega)]
      have scaled : ∀ x, toU64 x ≤ u64Max := fun x => Nat.min_le_right _ _
      exact ⟨(Nat.min_le_left _ _).trans (scaled _), (Nat.min_le_right _ _).trans (by omega)⟩
  unfold injectedNeed
  rw [own]
  dsimp only
  have inflated : need.value ≤ toU64 (need.value + continuityAddition window mode) :=
    le_min (Nat.le_add_right _ _) bounds.1
  split
  · exact le_min inflated bounds.2
  · exact inflated

/-! ## The holds after a start -/

theorem xor_cancel {n : Nat} {w a b : BitVec n} (same : w ^^^ a = w ^^^ b) : a = b := by
  have cancelled := congrArg (fun v => w ^^^ v) same
  simpa [← BitVec.xor_assoc] using cancelled

/-- The holds of a window's tasks are told apart. -/
theorem pendingHoldId_injective (window : QuotaWindowId) :
    Function.Injective (pendingHoldId window) := by
  intro a b same
  have shifted := congrArg BitVec.toNat (xor_cancel (congrArg ReservationId.uuid same))
  have la := a.number.isLt
  have lb := b.number.isLt
  simp only [BitVec.toNat_shiftLeft, BitVec.toNat_setWidth, Nat.shiftLeft_eq] at shifted
  apply SimTaskId.number_injective
  show a.number.toNat = b.number.toNat
  omega

/-- The first bit of the tag tells a task's hold from the need of a forecast. -/
theorem pendingHoldId_ne_synthetic (window : QuotaWindowId) (task : SimTaskId) :
    pendingHoldId window task ≠ ⟨syntheticUuid window.uuid syntheticNeedTag⟩ := by
  intro same
  have same := congrArg ReservationId.uuid same
  rw [pendingHoldId, syntheticUuid] at same
  dsimp only at same
  rw [BitVec.xor_assoc, BitVec.xor_assoc] at same
  have bits := congrArg (fun v : BitVec 128 => v.getLsbD 127) (xor_cancel same)
  revert bits
  simp [activeHoldTag, syntheticNeedTag]

section Holds

variable {window : QuotaWindow} {s : PacerState} {id : SimTaskId} {hold : QuotaAmount}

/-- A started task's hold is one more. -/
theorem pendingForWindow_start (idle : Fields.get id s.active = none)
    (unspent : Fields.get id s.spendSoFar = none) (unit : hold.unit = window.unit)
    (principal : String) (settlementFloor : Nat) (now : OffsetDateTime) :
    ∃ before after, pendingForWindow window s = before ++ after ∧
      pendingForWindow window (startTask s id principal hold settlementFloor now) =
        before ++ ⟨pendingHoldId window.id id, hold⟩ :: after := by
  obtain ⟨before, after, split, started⟩ := Fields.upsert_split idle
    (⟨principal, hold, settlementFloor, now⟩ : ActiveTask) fun _ => ⟨principal, hold, settlementFloor, now⟩
  refine ⟨_, _, by rw [pendingForWindow, split, List.filter_append, List.map_append], ?_⟩
  rw [pendingForWindow, startTask]
  dsimp only
  rw [started, List.filter_append, List.filter_cons_of_pos (by simpa using unit), List.map_append,
    List.map_cons, unspent]
  simp

theorem pending_id {p : PendingHold} (mem : p ∈ pendingForWindow window s)
    (idle : Fields.get id s.active = none) : p.id ≠ pendingHoldId window.id id := by
  obtain ⟨a, listed, rfl⟩ := List.mem_map.mp mem
  intro same
  exact Fields.get_none.mp idle a (List.mem_of_mem_filter listed) (pendingHoldId_injective window.id same)

/-- With the hold recorded there is no more outstanding than the window was asked with. -/
theorem heldTotal_start (idle : Fields.get id s.active = none)
    (unspent : Fields.get id s.spendSoFar = none) (unit : hold.unit = window.unit)
    (principal : String) (settlementFloor : Nat) (now : OffsetDateTime) {injected : Nat}
    (le : hold.value ≤ injected) :
    heldTotal window.unit ((pendingForWindow window
        (startTask s id principal hold settlementFloor now)).map fun p => ⟨p.id, p.amount⟩) ≤
      heldTotal window.unit ((WindowInput.mk window s.usageLog (pendingForWindow window s) []).withNeed
        injected).holds := by
  obtain ⟨before, after, split, started⟩ :=
    pendingForWindow_start idle unspent unit principal settlementFloor now
  have new : ∀ g ∈ (before.map fun p => OutstandingHold.mk p.id p.amount) ++
      after.map fun p => ⟨p.id, p.amount⟩, g.id ≠ (⟨pendingHoldId window.id id, hold⟩ : OutstandingHold).id := by
    intro g mem
    rw [← List.map_append, ← split] at mem
    obtain ⟨p, listed, rfl⟩ := List.mem_map.mp mem
    exact pending_id listed idle
  have asked : ∀ g ∈ ((pendingForWindow window s).map fun p => OutstandingHold.mk p.id p.amount) ++ [],
      g.id ≠ (⟨⟨syntheticUuid window.id.uuid syntheticNeedTag⟩, ⟨window.unit, injected⟩⟩ :
        OutstandingHold).id := by
    intro g mem
    rw [List.append_nil] at mem
    obtain ⟨p, listed, rfl⟩ := List.mem_map.mp mem
    obtain ⟨a, -, rfl⟩ := List.mem_map.mp listed
    exact pendingHoldId_ne_synthetic window.id a.1
  rw [started, List.map_append, List.map_cons, heldTotal_add window.unit new, WindowInput.withNeed]
  dsimp only
  rw [heldTotal_add window.unit asked, List.append_nil, split, List.map_append]
  have counts : (⟨pendingHoldId window.id id, hold⟩ : OutstandingHold).counts window.unit = hold.value := by
    simp [OutstandingHold.counts, unit]
  have counts' : (⟨⟨syntheticUuid window.id.uuid syntheticNeedTag⟩, ⟨window.unit, injected⟩⟩ :
      OutstandingHold).counts window.unit = injected := by
    simp [OutstandingHold.counts]
  omega

end Holds

/-! ## Runs -/

section Runs

variable {now : OffsetDateTime} {policy : AdmissionPolicy} {scenario : Scenario} {s s' : PacerState}
  {started : List (SimTaskId × QuotaAmount)}

/-- The last start of a pass. -/
theorem Starts.final (starts : Starts now policy scenario s started s') (some_ : started ≠ []) :
    ∃ before middle task estimate hold settlementFloor, Starts now policy scenario s before middle ∧
      StartedNow now policy scenario middle task estimate hold settlementFloor ∧
      s' = startTask middle task.id task.principal.val hold settlementFloor now := by
  induction starts with
  | nil => exact absurd rfl some_
  | @cons s s' task estimate hold settlementFloor more first rest ih =>
      by_cases last : more = []
      · subst last
        cases rest
        exact ⟨[], s, task, estimate, hold, settlementFloor, .nil, first, rfl⟩
      · obtain ⟨before, middle, task', estimate', hold', floor', early, start, same⟩ := ih last
        exact ⟨_, middle, task', estimate', hold', floor', .cons first early, start, same⟩

/-- A start leaves every window open. -/
theorem StartedNow.opens {task : SimTask} {estimate : RemainingWorkEstimate} {hold : QuotaAmount}
    {settlementFloor : Nat} (start : StartedNow now policy scenario s task estimate hold settlementFloor)
    (inv : PacerInv scenario s) (scaled : ∀ window ∈ scenario.windows, window.kind.Scaled)
    (snapshots : List ProviderSnapshot) :
    ∀ e ∈ evaluateAt (startTask s task.id task.principal.val hold settlementFloor now) scenario snapshots
      now, e.blocking = .notBlocking := by
  intro e mem
  obtain ⟨window, listed, rfl⟩ := List.mem_map.mp mem
  obtain ⟨need, computed, admits⟩ := earliestSafeAdmit_now start.answer
  have windows : (windowInputs scenario s).map WindowInput.window = scenario.windows := by
    rw [windowInputs, List.map_map]
    exact List.map_id _
  rw [windows] at computed
  have asked := admits ⟨window, s.usageLog, pendingForWindow window s, []⟩
    (List.mem_map.mpr ⟨window, listed, rfl⟩)
  obtain ⟨countable, n, rfl, unit, open_⟩ := checkWindow_admits rfl (scaled window listed) asked
  have recorded : hold = n := by
    rw [start.hold_eq, recordedHold, computed]
  refine evaluate_opens countable (by rfl) ?_ open_
  rw [recorded]
  exact heldTotal_start start.idle (inv.spending _ start.idle) unit _ _ _
    (need_le_injectedNeed computed listed countable unit _)

end Runs

/-- After every step that starts a task, no window blocks. -/
theorem start_leaves_open (policy : AdmissionPolicy) (scenario : Scenario)
    (scaled : ∀ window ∈ scenario.windows, window.kind.Scaled) (before : List PacerInput)
    (event : PacingEvent) {p : Proposal} (start : p.isStart = true)
    (proposed : p ∈ (pacingStep (pacerRun policy scenario before) event policy scenario).2)
    (snapshots : List ProviderSnapshot) :
    ∀ e ∈ evaluateAt (pacingStep (pacerRun policy scenario before) event policy scenario).1 scenario
      snapshots event.instant, e.blocking = .notBlocking := by
  have inv := (PacerInv.reached policy scenario before).prepared event
  obtain ⟨started, last, timer, starts, same, proposals⟩ :=
    pacingStep_starts (pacerRun policy scenario before) event policy scenario
  have some_ : started ≠ [] := by
    rintro rfl
    have listed := List.mem_filter.mpr ⟨proposed, start⟩
    rw [proposals] at listed
    cases listed
  obtain ⟨early, middle, task, estimate, hold, floor, front, final, rfl⟩ := starts.final some_
  rw [same]
  exact final.opens (front.inv inv) scaled snapshots

/-- The window of the hourly scenario, once its task is started. -/
theorem start_leaves_open_hourly :
    hourlyScenario.windows ≠ [] ∧
    ∀ e ∈ evaluateAt (pacingStep (pacerRun hourlyPolicy hourlyScenario [.restart])
      (.modeChanged 5000000 1) hourlyPolicy hourlyScenario).1 hourlyScenario [] 5000000,
      e.blocking = .notBlocking :=
  ⟨by decide, start_leaves_open hourlyPolicy hourlyScenario (by decide) [.restart]
    (.modeChanged 5000000 1) rfl hourly_started []⟩

end LibraGovernor
