/-
# LibraGovernor.Domain.WindowSpend -- more spend never loosens a window

One more usage record or one more hold, of an id the evidence does not have, can only lower
what a window has left.  Totals that stop at `u64Max` still grow with what they total; and a
record in a bucket's replay splits a refill in two, takes its amount off between them, and the
two refills give back no more than the one did, wherever the arithmetic stops (`refill_split`).
-/
import LibraGovernor.Domain.WindowEvidence
import Mathlib.Algebra.Order.Ring.Int

namespace LibraGovernor

open Scan StableSort

set_option autoImplicit false

namespace WindowState

/-- What is left, of a window that counts. -/
def remaining : WindowState → Option Int
  | .period state => some state.remaining
  | .bucket state => some state.remaining
  | .gauge _ => none

/-- The level, of a bucket. -/
def level : WindowState → Option Int
  | .bucket state => some state.level
  | _ => none

end WindowState

/-- The second result leaves no more than the first, and is not open where the first is not. -/
structure NoLooser (first second : WindowState × BlockingStatus) : Prop where
  remaining : ∀ left, second.1.remaining = some left →
    ∃ left', first.1.remaining = some left' ∧ left ≤ left'
  level : ∀ left, second.1.level = some left → ∃ left', first.1.level = some left' ∧ left ≤ left'
  blocking : second.2 = .notBlocking → first.2 = .notBlocking

theorem NoLooser.refl (result : WindowState × BlockingStatus) : NoLooser result result where
  remaining left here := ⟨left, here, le_refl left⟩
  level left here := ⟨left, here, le_refl left⟩
  blocking here := here

theorem statusOf_open {left left' : Int} (le : left ≤ left') (open_ : statusOf left = .notBlocking) :
    statusOf left' = .notBlocking := by
  rw [statusOf] at open_ ⊢
  split at open_
  · cases open_
  · rw [if_neg (by omega)]

/-! ## Periods -/

theorem settledOf_eq (usage : List QuotaUsage) :
    settledOf usage = min (usage.map fun u => u.amount.value).sum u64Max :=
  Saturating.satSum_eq _ _

theorem settledOf_insert_le (front back : List QuotaUsage) (u : QuotaUsage) :
    settledOf (front ++ back) ≤ settledOf (front ++ u :: back) := by
  rw [settledOf_eq, settledOf_eq]
  simp only [List.map_append, List.map_cons, List.sum_append, List.sum_cons]
  omega

theorem remainingI64_anti (limit : Nat) {settled settled' outstanding outstanding' : Nat}
    (more : settled ≤ settled') (more' : outstanding ≤ outstanding') :
    remainingI64 limit settled' outstanding' ≤ remainingI64 limit settled outstanding :=
  i64.clamp_mono (by omega)

theorem periodResult_noLooser {bounds : OffsetDateTime × OffsetDateTime} {limit : Nat}
    {usage usage' : List QuotaUsage} {outstanding outstanding' : Nat} {relief relief' : Int → Relief}
    (more : settledOf usage ≤ settledOf usage') (more' : outstanding ≤ outstanding') :
    NoLooser (WindowKind.periodResult bounds limit usage outstanding relief)
      (WindowKind.periodResult bounds limit usage' outstanding' relief') := by
  have le := remainingI64_anti limit more more'
  constructor
  · intro left here
    cases here
    exact ⟨_, rfl, le⟩
  · intro left here
    cases here
  · exact statusOf_open le

/-! ## Buckets -/

namespace BucketRate

/-- The arithmetic of a bucket of `u64` figures: the capacity is in the range, and a refill over
any representable time does not stop. -/
structure Sound (rate : BucketRate) : Prop where
  period_pos : 0 < rate.periodMs
  capacity_nonneg : 0 ≤ rate.capacityScaled
  capacity_le : rate.capacityScaled ≤ i128.high
  refill_nonneg : 0 ≤ rate.refillAmount
  refill_le : rate.refillAmount ≤ u64Max

/-- The milliseconds between any two instants there are. -/
def spanMillis : Int := 631107417600000

variable {rate : BucketRate}

/-- A product with a time no longer than the span. -/
theorem mul_le_mul_span {x y time : Int} (nonneg : 0 ≤ x) (le : x ≤ y) (short : time ≤ spanMillis) :
    x * time ≤ y * spanMillis := by
  have first := Int.mul_le_mul_of_nonneg_left short nonneg
  have second := Int.mul_le_mul_of_nonneg_right le (show 0 ≤ spanMillis by decide)
  exact first.trans second

theorem satMul_refill (sound : rate.Sound) {millis : Int} (ge : -spanMillis ≤ millis)
    (le : millis ≤ spanMillis) :
    i128.satMul rate.refillAmount millis = rate.refillAmount * millis := by
  refine i128.satMul_of_holds ⟨?_, ?_⟩
  · have product : rate.refillAmount * -millis ≤ (u64Max : Int) * spanMillis :=
      mul_le_mul_span sound.refill_nonneg sound.refill_le (by omega)
    rw [mul_neg] at product
    have low : i128.low ≤ -((u64Max : Int) * spanMillis) := by decide
    omega
  · exact (mul_le_mul_span sound.refill_nonneg sound.refill_le le).trans (by decide)

theorem refill_holds (sound : rate.Sound) (level millis : Int) :
    i128.Holds (rate.refill level millis) := by
  have fits := i128.holds_clamp (level + i128.satMul rate.refillAmount millis)
  have top := sound.capacity_le
  have bottom := sound.capacity_nonneg
  have low := i128.low_le
  unfold Saturating.Range.Holds at fits ⊢
  unfold refill Saturating.Range.satAdd
  omega

theorem refill_eq_of_low (sound : rate.Sound) {level millis : Int} (ge : -spanMillis ≤ millis)
    (le : millis ≤ spanMillis) (low : i128.low ≤ level + rate.refillAmount * millis) :
    rate.refill level millis = min (level + rate.refillAmount * millis) rate.capacityScaled := by
  rw [refill, satMul_refill sound ge le]
  exact i128.min_satAdd low sound.capacity_le

theorem refill_eq (sound : rate.Sound) {level millis : Int} (fits : i128.Holds level)
    (nonneg : 0 ≤ millis) (le : millis ≤ spanMillis) :
    rate.refill level millis = min (level + rate.refillAmount * millis) rate.capacityScaled := by
  have product := mul_nonneg sound.refill_nonneg nonneg
  have low := fits.1
  have span : 0 ≤ spanMillis := by decide
  exact refill_eq_of_low sound (by omega) le (by omega)

theorem refill_mono {level level' millis : Int} (le : level ≤ level') :
    rate.refill level millis ≤ rate.refill level' millis :=
  min_le_min_right _ (i128.satAdd_mono le (le_refl _))

/-- Taking an amount off half way through a refill leaves no more than the whole refill. -/
theorem refill_split (sound : rate.Sound) {level first second taken : Int} (fits : i128.Holds level)
    (first_nonneg : 0 ≤ first) (second_nonneg : 0 ≤ second) (le : first + second ≤ spanMillis)
    (taken_nonneg : 0 ≤ taken) :
    rate.refill (i128.satSub (rate.refill level first) taken) second ≤
      rate.refill level (first + second) := by
  have less := i128.satSub_le (refill_holds sound level first) taken_nonneg
  refine (refill_mono less).trans ?_
  rw [refill_eq sound (refill_holds sound level first) second_nonneg (by omega),
    refill_eq sound fits first_nonneg (by omega), refill_eq sound fits (by omega) le, mul_add]
  have later := mul_nonneg sound.refill_nonneg second_nonneg
  omega

/-- The amount a record takes off. -/
theorem taken_nonneg (rate : BucketRate) (sound : rate.Sound) (u : QuotaUsage) :
    0 ≤ i128.satMul u.amount.value rate.periodMs :=
  i128.clamp_nonneg (mul_nonneg (Int.natCast_nonneg _) sound.period_pos.le)

theorem foldl_spend_mono (rate : BucketRate) (usage : List QuotaUsage) {level level' : Int} (le : level ≤ level')
    (cursor : OffsetDateTime) :
    (usage.foldl rate.spend (level, cursor)).1 ≤ (usage.foldl rate.spend (level', cursor)).1 ∧
      (usage.foldl rate.spend (level, cursor)).2 = (usage.foldl rate.spend (level', cursor)).2 := by
  induction usage generalizing level level' cursor with
  | nil => exact ⟨le, rfl⟩
  | cons u usage ih =>
      rw [List.foldl_cons, List.foldl_cons]
      exact ih (i128.satSub_mono (refill_mono le) (le_refl _)) u.occurredAt

theorem foldl_spend_holds (rate : BucketRate) (usage : List QuotaUsage)
    (at_ : Int × OffsetDateTime) (fits : i128.Holds at_.1) :
    i128.Holds (usage.foldl rate.spend at_).1 := by
  induction usage generalizing at_ with
  | nil => exact fits
  | cons u usage ih =>
      rw [List.foldl_cons]
      exact ih _ (i128.holds_clamp _)

/-- The level after the records and the time since, from where a replay stands. -/
def levelFrom (rate : BucketRate) (at_ : Int × OffsetDateTime) (usage : List QuotaUsage)
    (now : OffsetDateTime) : Int :=
  rate.refill (usage.foldl rate.spend at_).1
    (wholeMilliseconds (now - (usage.foldl rate.spend at_).2))

theorem levelAt_append (levelAtAnchor : Nat) (anchoredAt now : OffsetDateTime)
    (front back : List QuotaUsage) :
    rate.levelAt levelAtAnchor anchoredAt now (front ++ back) =
      rate.levelFrom
        (front.foldl rate.spend (i128.satMul levelAtAnchor rate.periodMs, anchoredAt)) back now := by
  rw [levelAt, levelFrom, List.foldl_append]

theorem levelFrom_mono (usage : List QuotaUsage) {level level' : Int} (le : level ≤ level')
    (cursor now : OffsetDateTime) :
    rate.levelFrom (level, cursor) usage now ≤ rate.levelFrom (level', cursor) usage now := by
  obtain ⟨less, same⟩ := foldl_spend_mono rate usage le cursor
  rw [levelFrom, levelFrom, same]
  exact refill_mono less

end BucketRate

/-- A stretch of time from a whole millisecond is cut in two at another. -/
theorem wholeMilliseconds_split {start middle stop : OffsetDateTime} (start_whole : start.WholeMilli)
    (middle_whole : middle.WholeMilli) (first : start ≤ middle) (second : middle ≤ stop) :
    0 ≤ wholeMilliseconds (middle - start) ∧ 0 ≤ wholeMilliseconds (stop - middle) ∧
      wholeMilliseconds (middle - start) + wholeMilliseconds (stop - middle) =
        wholeMilliseconds (stop - start) := by
  have cut : ∀ a b c : Int, a % 1000000 = 0 → b % 1000000 = 0 → a ≤ b → b ≤ c →
      0 ≤ (b - a).tdiv 1000000 ∧ 0 ≤ (c - b).tdiv 1000000 ∧
        (b - a).tdiv 1000000 + (c - b).tdiv 1000000 = (c - a).tdiv 1000000 := by
    intro a b c whole whole' le le'
    rw [Int.tdiv_eq_ediv_of_nonneg (by omega), Int.tdiv_eq_ediv_of_nonneg (by omega),
      Int.tdiv_eq_ediv_of_nonneg (by omega)]
    omega
  exact cut start middle stop start_whole middle_whole first second

theorem wholeMilliseconds_le {start stop : OffsetDateTime} (start_fits : start.Representable)
    (stop_fits : stop.Representable) (le : start ≤ stop) :
    wholeMilliseconds (stop - start) ≤ BucketRate.spanMillis := by
  have cut : ∀ a b : Int, -377705116800000000000 ≤ a ∧ a ≤ 253402300799999999999 →
      -377705116800000000000 ≤ b ∧ b ≤ 253402300799999999999 → a ≤ b →
      (b - a).tdiv 1000000 ≤ 631107417600000 := by
    intro a b _ _ le
    rw [Int.tdiv_eq_ediv_of_nonneg (by omega)]
    omega
  exact cut start stop start_fits stop_fits le

namespace BucketRate

variable {rate : BucketRate}

/-- One more record leaves no more at the next instant the replay looks at. -/
theorem spend_between (sound : rate.Sound) {level : Int} (fits : i128.Holds level)
    {cursor now : OffsetDateTime} {u : QuotaUsage} (cursor_whole : cursor.WholeMilli)
    (cursor_fits : cursor.Representable) (now_fits : now.Representable)
    (after : cursor ≤ u.occurredAt) (before : u.occurredAt ≤ now) :
    rate.refill (rate.spend (level, cursor) u).1 (wholeMilliseconds (now - u.occurredAt)) ≤
      rate.refill level (wholeMilliseconds (now - cursor)) := by
  obtain ⟨first, second, whole⟩ := wholeMilliseconds_split cursor_whole u.whole after before
  rw [← whole]
  refine refill_split sound fits first second ?_ (taken_nonneg rate sound u)
  rw [whole]
  exact wholeMilliseconds_le cursor_fits now_fits (le_trans after before)

/-- One more record in front of the rest leaves no more at the end. -/
theorem levelFrom_spend (sound : rate.Sound) {level : Int} (fits : i128.Holds level)
    {cursor now : OffsetDateTime} {u : QuotaUsage} {back : List QuotaUsage}
    (cursor_whole : cursor.WholeMilli) (cursor_fits : cursor.Representable)
    (now_fits : now.Representable) (after : cursor ≤ u.occurredAt) (before : u.occurredAt ≤ now)
    (later : ∀ v ∈ back, u.occurredAt ≤ v.occurredAt) :
    rate.levelFrom (level, cursor) (u :: back) now ≤ rate.levelFrom (level, cursor) back now := by
  cases back with
  | nil => exact spend_between sound fits cursor_whole cursor_fits now_fits after before
  | cons v back =>
      have less := spend_between sound fits cursor_whole cursor_fits v.representable after
        (later v List.mem_cons_self)
      have step : (rate.spend (rate.spend (level, cursor) u) v).1 ≤
          (rate.spend (level, cursor) v).1 := i128.satSub_mono less (le_refl _)
      show rate.levelFrom ((rate.spend (rate.spend (level, cursor) u) v).1, v.occurredAt) back now ≤
        rate.levelFrom ((rate.spend (level, cursor) v).1, v.occurredAt) back now
      exact levelFrom_mono back step v.occurredAt now

/-- Where the replay stands after some records. -/
theorem foldl_spend_cursor (rate : BucketRate) (usage : List QuotaUsage) (level : Int) {cursor : OffsetDateTime}
    (cursor_whole : cursor.WholeMilli) (cursor_fits : cursor.Representable) {next : OffsetDateTime}
    (cursor_le : cursor ≤ next) (earlier : ∀ v ∈ usage, v.occurredAt ≤ next) :
    (usage.foldl rate.spend (level, cursor)).2.WholeMilli ∧
      (usage.foldl rate.spend (level, cursor)).2.Representable ∧
      (usage.foldl rate.spend (level, cursor)).2 ≤ next := by
  induction usage generalizing level cursor with
  | nil => exact ⟨cursor_whole, cursor_fits, cursor_le⟩
  | cons v usage ih =>
      rw [List.foldl_cons]
      exact ih _ v.whole v.representable (earlier v List.mem_cons_self)
        fun w mem => earlier w (List.mem_cons_of_mem v mem)

/-- One more record anywhere in the replay leaves no more at the end. -/
theorem levelAt_insert (sound : rate.Sound) (levelAtAnchor : Nat) {anchoredAt now : OffsetDateTime}
    {front back : List QuotaUsage} {u : QuotaUsage} (anchored_whole : anchoredAt.WholeMilli)
    (anchored_fits : anchoredAt.Representable) (now_fits : now.Representable)
    (ordered : (front ++ u :: back).Pairwise fun v w => v.occurredAt ≤ w.occurredAt)
    (inside : anchoredAt ≤ u.occurredAt ∧ u.occurredAt ≤ now) :
    rate.levelAt levelAtAnchor anchoredAt now (front ++ u :: back) ≤
      rate.levelAt levelAtAnchor anchoredAt now (front ++ back) := by
  obtain ⟨-, tail, across⟩ := List.pairwise_append.mp ordered
  obtain ⟨later, -⟩ := List.pairwise_cons.mp tail
  obtain ⟨whole, fits, le⟩ := foldl_spend_cursor rate front
    (i128.satMul levelAtAnchor rate.periodMs) anchored_whole anchored_fits inside.1
    fun v mem => across v mem u List.mem_cons_self
  have level_fits := foldl_spend_holds rate front (i128.satMul levelAtAnchor rate.periodMs, anchoredAt)
    (i128.holds_clamp _)
  rw [levelAt_append, levelAt_append]
  exact levelFrom_spend sound level_fits whole fits now_fits le inside.2 later

end BucketRate

theorem bucketRate_sound (capacity : Nat) {refillAmount refillPeriodSecs : Nat}
    (refill_le : refillAmount ≤ u64Max) (period_pos : 0 < refillPeriodSecs) :
    (bucketRate capacity refillAmount refillPeriodSecs).Sound where
  period_pos := by
    have le := i128.clamp_mono (x := 1) (y := (refillPeriodSecs : Int) * 1000) (by omega)
    have one : i128.clamp 1 = 1 := rfl
    unfold bucketRate Saturating.Range.satMul
    dsimp only
    omega
  capacity_nonneg := by
    refine i128.clamp_nonneg (mul_nonneg (Int.natCast_nonneg _) ?_)
    exact i128.clamp_nonneg (by omega)
  capacity_le := (i128.holds_clamp _).2
  refill_nonneg := Int.natCast_nonneg _
  refill_le := by
    show (refillAmount : Int) ≤ u64Max
    exact_mod_cast refill_le

/-! ## One more fact -/

section Added

variable {kind : WindowKind} {now : OffsetDateTime}

/-- A window that counts has a result, and a lower one the more is outstanding. -/
theorem result_noLooser_held {usage : List QuotaUsage} {outstanding outstanding' : Nat}
    {first second : WindowState × BlockingStatus} (more : outstanding ≤ outstanding')
    (here : kind.result now usage outstanding = some first)
    (there : kind.result now usage outstanding' = some second) : NoLooser first second := by
  cases kind with
  | fixedAligned period timeZone limit =>
      cases here
      cases there
      exact periodResult_noLooser (le_refl _) more
  | sliding lengthSecs limit =>
      cases here
      cases there
      exact periodResult_noLooser (le_refl _) more
  | refillBucket capacity refillAmount refillPeriodSecs anchoredAt levelAtAnchor =>
      cases here
      cases there
      have le : ∀ level : Int, i64.clamp (i128.satSub level outstanding') ≤
          i64.clamp (i128.satSub level outstanding) :=
        fun level => i64.clamp_mono (i128.satSub_mono (le_refl level) (by omega))
      constructor
      · intro left same
        cases same
        exact ⟨_, rfl, le _⟩
      · intro left same
        cases same
        exact ⟨_, rfl, le_refl _⟩
      · exact statusOf_open (le _)
  | opaqueProviderSnapshot maxStalenessSecs => cases here

/-- One more record that the window counts lowers its result. -/
theorem result_noLooser_usage (typed : kind.Typed) (valid : kind.Valid) (now_fits : now.Representable)
    {front back : List QuotaUsage} {u : QuotaUsage}
    (ordered : (front ++ u :: back).Pairwise fun v w => v.occurredAt ≤ w.occurredAt)
    (inside : kind.inRange now u.occurredAt = true) {outstanding : Nat}
    {first second : WindowState × BlockingStatus}
    (here : kind.result now (front ++ back) outstanding = some first)
    (there : kind.result now (front ++ u :: back) outstanding = some second) :
    NoLooser first second := by
  cases kind with
  | fixedAligned period timeZone limit =>
      cases here
      cases there
      exact periodResult_noLooser (settledOf_insert_le front back u) (le_refl _)
  | sliding lengthSecs limit =>
      cases here
      cases there
      exact periodResult_noLooser (settledOf_insert_le front back u) (le_refl _)
  | refillBucket capacity refillAmount refillPeriodSecs anchoredAt levelAtAnchor =>
      cases here
      cases there
      obtain ⟨-, -, period_pos, -, anchored_whole⟩ := valid
      obtain ⟨-, refill_le, -, anchored_fits, -⟩ := typed
      have range : anchoredAt ≤ u.occurredAt ∧ u.occurredAt ≤ now :=
        of_decide_eq_true (Bool.and_eq_true_iff.mp inside).2
      have sound := bucketRate_sound capacity refill_le period_pos
      have le := BucketRate.levelAt_insert sound levelAtAnchor anchored_whole anchored_fits
        now_fits ordered range
      have levels := Int.ediv_le_ediv sound.period_pos le
      have remaining := i64.clamp_mono (i128.satSub_mono levels (le_refl (outstanding : Int)))
      constructor
      · intro left same
        cases same
        exact ⟨_, rfl, remaining⟩
      · intro left same
        cases same
        exact ⟨_, rfl, i64.clamp_mono levels⟩
      · exact statusOf_open remaining
  | opaqueProviderSnapshot maxStalenessSecs => cases here

end Added

theorem mostRestrictive_open {first second other : BlockingStatus}
    (opens : second = .notBlocking → first = .notBlocking)
    (open_ : second.mostRestrictive other = .notBlocking) :
    first.mostRestrictive other = .notBlocking := by
  cases second with
  | notBlocking =>
      rw [opens rfl]
      exact open_
  | blocking => cases open_
  | indeterminate reason => cases other <;> cases open_

/-- The second evaluation leaves no more than the first, and is not open where the first is not. -/
def WindowEvaluation.NoLooser (first second : WindowEvaluation) : Prop :=
  LibraGovernor.NoLooser (first.state, first.blocking) (second.state, second.blocking)

/-- An expired entitlement opens neither result. -/
theorem evaluate_noLooser {window : QuotaWindow} {evidence evidence' : QuotaEvidence}
    {now : OffsetDateTime}
    (less : NoLooser (evaluateKind window evidence now) (evaluateKind window evidence' now)) :
    (window.evaluate evidence now).NoLooser (window.evaluate evidence' now) where
  remaining := less.remaining
  level := less.level
  blocking := by
    unfold QuotaWindow.evaluate
    dsimp only
    split
    · exact mostRestrictive_open less.blocking
    · exact less.blocking

/-- One more usage record or hold of a new id never leaves more of a window that counts, and
never opens one that is blocking or indeterminate. -/
theorem more_spend_never_loosens (window : QuotaWindow) (countable : window.kind.isGauge = false)
    {now : OffsetDateTime} (now_fits : now.Representable) (snapshots : List ProviderSnapshot) :
    (∀ (before after : List QuotaUsage) (u : QuotaUsage) (holds : List OutstandingHold),
      (∀ v ∈ before ++ after, v.id ≠ u.id) →
      (window.evaluate ⟨before ++ after, holds, snapshots⟩ now).NoLooser
        (window.evaluate ⟨before ++ u :: after, holds, snapshots⟩ now)) ∧
    (∀ (before after : List OutstandingHold) (h : OutstandingHold) (usage : List QuotaUsage),
      (∀ g ∈ before ++ after, g.id ≠ h.id) →
      (window.evaluate ⟨usage, before ++ after, snapshots⟩ now).NoLooser
        (window.evaluate ⟨usage, before ++ h :: after, snapshots⟩ now)) := by
  constructor
  · intro before after u holds fresh
    have here := evaluateKind_eq ⟨before ++ after, holds, snapshots⟩ now countable
    have there := evaluateKind_eq ⟨before ++ u :: after, holds, snapshots⟩ now countable
    apply evaluate_noLooser
    rcases counted_add window.unit (window.kind.inRange now) fresh with
      ⟨-, same⟩ | ⟨pass, front, back, more, less⟩
    · have equal : evaluateKind window ⟨before ++ u :: after, holds, snapshots⟩ now =
          evaluateKind window ⟨before ++ after, holds, snapshots⟩ now := by
        rw [← Option.some_inj, ← here, ← there, QuotaWindow.counts, QuotaWindow.counts, same]
      rw [equal]
      exact NoLooser.refl _
    · have ordered := counted_sorted window.unit (window.kind.inRange now) (before ++ u :: after)
      rw [more] at ordered
      rw [QuotaWindow.counts, less] at here
      rw [QuotaWindow.counts, more] at there
      have inside : window.kind.inRange now u.occurredAt = true :=
        (Bool.and_eq_true_iff.mp pass).2
      exact result_noLooser_usage window.typed window.valid now_fits ordered inside here there
  · intro before after h usage fresh
    have here := evaluateKind_eq ⟨usage, before ++ after, snapshots⟩ now countable
    have there := evaluateKind_eq ⟨usage, before ++ h :: after, snapshots⟩ now countable
    apply evaluate_noLooser
    refine result_noLooser_held ?_ here there
    have more := heldTotal_add window.unit fresh
    unfold QuotaWindow.held
    dsimp only
    omega

/-- A bucket of ten tokens that gets one back each minute. -/
def minuteBucket : QuotaWindow where
  id := ⟨0⟩
  scope := ⟨none⟩
  unit := .tokens
  kind := .refillBucket 10 1 60 0 10
  typed := by decide
  valid := by decide
  percent := nofun

/-- Seven tokens, one second after the anchor. -/
def sevenTokens : QuotaUsage where
  id := ⟨0⟩
  occurredAt := OffsetDateTime.nanosPerSecond
  amount := ⟨.tokens, 7⟩
  whole := by decide
  representable := by decide
  not_percent := nofun

theorem seven_tokens_lower_the_bucket :
    (minuteBucket.evaluate ⟨[], [], []⟩ (2 * OffsetDateTime.nanosPerSecond)).state.remaining =
        some 10 ∧
      (minuteBucket.evaluate ⟨[sevenTokens], [], []⟩
        (2 * OffsetDateTime.nanosPerSecond)).state.remaining = some 3 ∧
      (minuteBucket.evaluate ⟨[], [], []⟩ (2 * OffsetDateTime.nanosPerSecond)).NoLooser
        (minuteBucket.evaluate ⟨[sevenTokens], [], []⟩ (2 * OffsetDateTime.nanosPerSecond)) := by
  refine ⟨by decide +kernel, by decide +kernel, ?_⟩
  exact (more_spend_never_loosens minuteBucket rfl (by decide) []).1 [] [] sevenTokens []
    (by simp)

end LibraGovernor
