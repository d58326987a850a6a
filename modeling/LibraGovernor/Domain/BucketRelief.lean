/-
# LibraGovernor.Domain.BucketRelief -- when a bucket says it stops blocking

A bucket names the instant its level has refilled past what is outstanding: the refill inverted,
rounded up to a millisecond (`millisNeeded_spec`).  The instant is exact as long as one more than
what is outstanding, in thousandths of a refill period, is an `i128`.

Past that the level stops below it and the bucket blocks for ever; it then says that it does not
block, or names an instant at which it still does, if its records are made up for by the last
instant there is (`BucketRate.FullBy`, `BucketStops`).  `relief_exact_iff` puts this together with
the periods.
-/
import LibraGovernor.Domain.WindowRelief

namespace LibraGovernor

open Scan StableSort

set_option autoImplicit false

/-! ## Time -/

/-- A whole number of milliseconds later. -/
def laterBy (t : OffsetDateTime) (millis : Int) : OffsetDateTime :=
  (t + millis * nanosPerMilli : Int)

theorem wholeMilliseconds_laterBy {start t : OffsetDateTime} (start_whole : start.WholeMilli)
    (whole : t.WholeMilli) (millis : Int) :
    wholeMilliseconds (laterBy t millis - start) = wholeMilliseconds (t - start) + millis := by
  have cut : ∀ a b k : Int, a % 1000000 = 0 → b % 1000000 = 0 →
      (b + k * 1000000 - a).tdiv 1000000 = (b - a).tdiv 1000000 + k := by
    intro a b k a_whole b_whole
    have first : b - a = (b / 1000000 - a / 1000000) * 1000000 := by omega
    have second : b + k * 1000000 - a = (b / 1000000 - a / 1000000 + k) * 1000000 := by omega
    rw [first, second, Int.mul_tdiv_cancel _ (by decide), Int.mul_tdiv_cancel _ (by decide)]
  exact cut start t millis start_whole whole

theorem wholeMilliseconds_abs {start stop : OffsetDateTime} (start_fits : start.Representable)
    (stop_fits : stop.Representable) :
    -BucketRate.spanMillis ≤ wholeMilliseconds (stop - start) ∧
      wholeMilliseconds (stop - start) ≤ BucketRate.spanMillis := by
  have turn : wholeMilliseconds (start - stop) = -wholeMilliseconds (stop - start) := by
    have cut : ∀ a b : Int, (a - b).tdiv 1000000 = -(b - a).tdiv 1000000 := by
      intro a b
      rw [← Int.neg_tdiv, Int.neg_sub]
    exact cut start stop
  rcases le_total start stop with later | earlier
  · have up := wholeMilliseconds_le start_fits stop_fits later
    have down : 0 ≤ wholeMilliseconds (stop - start) := by
      have cut : ∀ a b : Int, a ≤ b → 0 ≤ (b - a).tdiv 1000000 :=
        fun a b le => Int.tdiv_nonneg (by omega) (by decide)
      exact cut start stop later
    have span : 0 ≤ BucketRate.spanMillis := by decide
    omega
  · have up := wholeMilliseconds_le stop_fits start_fits earlier
    have down : 0 ≤ wholeMilliseconds (start - stop) := by
      have cut : ∀ a b : Int, a ≤ b → 0 ≤ (b - a).tdiv 1000000 :=
        fun a b le => Int.tdiv_nonneg (by omega) (by decide)
      exact cut stop start earlier
    have span : 0 ≤ BucketRate.spanMillis := by decide
    omega

/-- Between two whole milliseconds there is a whole number of them. -/
theorem laterBy_of_le {now u : OffsetDateTime} (whole : now.WholeMilli) (whole' : u.WholeMilli)
    (le : now ≤ u) : ∃ k : Int, 0 ≤ k ∧ u = laterBy now k := by
  have cut : ∀ a b : Int, a % 1000000 = 0 → b % 1000000 = 0 → a ≤ b →
      0 ≤ (b - a) / 1000000 ∧ b = a + (b - a) / 1000000 * 1000000 := by omega
  exact ⟨_, cut now u whole whole' le⟩

/-- How many whole milliseconds there are from an instant. -/
def lastMillis (now : OffsetDateTime) : Int :=
  ((OffsetDateTime.latest - now : Int)) / nanosPerMilli

theorem representable_laterBy {now : OffsetDateTime} (fits : now.Representable) {k : Int}
    (nonneg : 0 ≤ k) : (laterBy now k).Representable ↔ k ≤ lastMillis now := by
  have cut : ∀ a k : Int, -377705116800000000000 ≤ a ∧ a ≤ 253402300799999999999 → 0 ≤ k →
      (-377705116800000000000 ≤ a + k * 1000000 ∧ a + k * 1000000 ≤ 253402300799999999999 ↔
        k ≤ (253402300799999999999 - a) / 1000000) := by
    intro a k _ _
    constructor <;> intro _ <;> omega
  exact cut now k fits nonneg

theorem checkedAddMillis_eq (now : OffsetDateTime) (k : Int) :
    now.checkedAddMillis k = if (laterBy now k).Representable then some (laterBy now k) else none := rfl

theorem lastMillis_le {now : OffsetDateTime} (fits : now.Representable) :
    0 ≤ lastMillis now ∧ lastMillis now ≤ BucketRate.spanMillis := by
  have cut : ∀ a : Int, -377705116800000000000 ≤ a ∧ a ≤ 253402300799999999999 →
      0 ≤ (253402300799999999999 - a) / 1000000 ∧
        (253402300799999999999 - a) / 1000000 ≤ 631107417600000 := by omega
  exact cut now fits

/-- The last instant is as many milliseconds away as the last whole one. -/
theorem wholeMilliseconds_latest {start now : OffsetDateTime} (start_whole : start.WholeMilli)
    (start_fits : start.Representable) (whole : now.WholeMilli) :
    wholeMilliseconds (OffsetDateTime.latest - start) =
      wholeMilliseconds (laterBy now (lastMillis now) - start) := by
  have cut : ∀ a b : Int, a % 1000000 = 0 → b % 1000000 = 0 → a ≤ 253402300799999999999 →
      (253402300799999999999 - a).tdiv 1000000 =
        (b + (253402300799999999999 - b) / 1000000 * 1000000 - a).tdiv 1000000 := by
    intro a b _ _ _
    rw [Int.tdiv_eq_ediv_of_nonneg (by omega), Int.tdiv_eq_ediv_of_nonneg (by omega)]
    omega
  exact cut start now start_whole whole start_fits.2

namespace BucketRate

variable {rate : BucketRate}

/-! ## The level later -/

/-- Where a replay of records up to `now` stands, `now` has its distance to it. -/
structure Stands (rate : BucketRate) (at_ : Int × OffsetDateTime) (now : OffsetDateTime) : Prop where
  whole : at_.2.WholeMilli
  fits : at_.2.Representable
  low : i128.low ≤ at_.1 + rate.refillAmount * wholeMilliseconds (now - at_.2)

/-- A replay without records stands at the anchor, which may be later than `now`. -/
theorem stands_foldl (sound : rate.Sound) (levelAtAnchor : Nat) {anchoredAt now : OffsetDateTime}
    (whole : anchoredAt.WholeMilli) (fits : anchoredAt.Representable) (now_fits : now.Representable)
    {usage : List QuotaUsage} (inside : ∀ u ∈ usage, anchoredAt ≤ u.occurredAt ∧ u.occurredAt ≤ now) :
    rate.Stands (usage.foldl rate.spend (i128.satMul levelAtAnchor rate.periodMs, anchoredAt)) now := by
  by_cases after : anchoredAt ≤ now
  · obtain ⟨cursor_whole, cursor_fits, cursor_le⟩ := foldl_spend_cursor rate usage
      (i128.satMul levelAtAnchor rate.periodMs) whole fits after fun v mem => (inside v mem).2
    have level := foldl_spend_holds rate usage (i128.satMul levelAtAnchor rate.periodMs, anchoredAt)
      (i128.holds_clamp _)
    obtain ⟨elapsed, -, -⟩ := wholeMilliseconds_split cursor_whole cursor_whole (le_refl _) cursor_le
    obtain ⟨-, elapsed, -⟩ := wholeMilliseconds_split cursor_whole cursor_whole (le_refl _) cursor_le
    have product := mul_nonneg sound.refill_nonneg elapsed
    exact ⟨cursor_whole, cursor_fits, by have low := level.1; omega⟩
  · have none_yet : usage = [] := by
      refine List.eq_nil_iff_forall_not_mem.mpr fun u mem => after ?_
      exact le_trans (inside u mem).1 (inside u mem).2
    subst none_yet
    refine ⟨whole, fits, ?_⟩
    have level : 0 ≤ i128.satMul levelAtAnchor rate.periodMs :=
      i128.clamp_nonneg (mul_nonneg (Int.natCast_nonneg _) sound.period_pos.le)
    have short := (wholeMilliseconds_abs fits now_fits).1
    have product := mul_le_mul_span sound.refill_nonneg sound.refill_le
      (show -wholeMilliseconds (now - anchoredAt) ≤ spanMillis by omega)
    rw [mul_neg] at product
    have low : i128.low ≤ -((u64Max : Int) * spanMillis) := by decide
    show i128.low ≤ i128.satMul levelAtAnchor rate.periodMs +
      rate.refillAmount * wholeMilliseconds (now - anchoredAt)
    omega

/-- From one instant to a later one the level refills by the time between them. -/
theorem refill_later (sound : rate.Sound) {at_ : Int × OffsetDateTime} {now : OffsetDateTime}
    (stands : rate.Stands at_ now) (whole : now.WholeMilli) (now_fits : now.Representable) {k : Int}
    (nonneg : 0 ≤ k) (later_fits : (laterBy now k).Representable) :
    rate.refill at_.1 (wholeMilliseconds (laterBy now k - at_.2)) =
      min (rate.refill at_.1 (wholeMilliseconds (now - at_.2)) + rate.refillAmount * k)
        rate.capacityScaled := by
  obtain ⟨low, high⟩ := wholeMilliseconds_abs stands.fits now_fits
  obtain ⟨low', high'⟩ := wholeMilliseconds_abs stands.fits later_fits
  rw [wholeMilliseconds_laterBy stands.whole whole] at low' high' ⊢
  have product := mul_nonneg sound.refill_nonneg nonneg
  have split := mul_add rate.refillAmount (wholeMilliseconds (now - at_.2)) k
  have floor := stands.low
  rw [refill_eq_of_low sound low high floor, refill_eq_of_low sound low' high' (by omega), split]
  omega

/-! ## The time a refill takes -/

/-- The deficit and all but one of a millisecond's refill, divided by it. -/
theorem millisNeeded_eq (refill_pos : 0 < rate.refillAmount) {deficit : Int} (missing : 0 < deficit) :
    rate.millisNeeded deficit =
      min ((min (deficit + rate.refillAmount) i128.high - 1) / rate.refillAmount) i64.high := by
  have cut : i128.satSub (i128.satAdd deficit rate.refillAmount) 1 =
      min (deficit + rate.refillAmount) i128.high - 1 := by
    have low : i128.low < 0 := by decide
    have high : 1 < i128.high := by decide
    unfold Saturating.Range.satSub Saturating.Range.satAdd Saturating.Range.clamp
    omega
  have high : 1 < i128.high := by decide
  have nonneg : 0 ≤ (min (deficit + rate.refillAmount) i128.high - 1) / rate.refillAmount :=
    Int.ediv_nonneg (by omega) refill_pos.le
  rw [millisNeeded, cut, Int.tdiv_eq_ediv_of_nonneg (by omega), max_eq_left nonneg]

/-- A difference that is positive and does not stop is exact. -/
theorem satSub_exact {x y : Int} (pos : 0 < i128.satSub x y) (below : i128.satSub x y < i128.high) :
    i128.satSub x y = x - y := by
  have low : i128.low < 0 := by decide
  unfold Saturating.Range.satSub Saturating.Range.clamp at pos below ⊢
  omega

/-- A millisecond count that a refill needs, if there is that much time: it clears what is needed,
and one less does not. -/
theorem millisNeeded_spec (sound : rate.Sound) (refill_pos : 0 < rate.refillAmount)
    {needed level : Int} (missing : 0 < i128.satSub needed level)
    (short : rate.millisNeeded (i128.satSub needed level) ≤ spanMillis) :
    0 < rate.millisNeeded (i128.satSub needed level) ∧
      needed ≤ level + rate.refillAmount * rate.millisNeeded (i128.satSub needed level) ∧
      level + rate.refillAmount * (rate.millisNeeded (i128.satSub needed level) - 1) < needed := by
  have exact_ := @satSub_exact needed level missing
  generalize i128.satSub needed level = deficit at missing short exact_ ⊢
  have count := millisNeeded_eq refill_pos missing
  have span : spanMillis < i64.high := by decide
  have room : (u64Max : Int) * (spanMillis + 1) < i128.high - 1 := by decide
  -- As the count is a span at most, nothing stopped on the way to it.
  have quotient : (min (deficit + rate.refillAmount) i128.high - 1) / rate.refillAmount ≤ spanMillis := by
    omega
  have numerator := Int.lt_mul_of_ediv_lt refill_pos (Int.lt_add_one_of_le quotient)
  have refill_le := Int.mul_le_mul_of_nonneg_left sound.refill_le (show 0 ≤ spanMillis + 1 by decide)
  rw [Int.mul_comm (spanMillis + 1) (u64Max : Int)] at refill_le
  have unstopped : min (deficit + rate.refillAmount) i128.high = deficit + rate.refillAmount := by omega
  rw [unstopped] at count quotient
  have below : deficit < i128.high := by omega
  have difference := exact_ below
  have whole : rate.millisNeeded deficit =
      (deficit + rate.refillAmount - 1) / rate.refillAmount := by omega
  have at_least : 1 ≤ (deficit + rate.refillAmount - 1) / rate.refillAmount := by
    rw [Int.le_ediv_iff_mul_le refill_pos]
    omega
  have enough := Int.lt_ediv_add_one_mul_self (deficit + rate.refillAmount - 1) refill_pos
  have no_more := Int.ediv_mul_le (deficit + rate.refillAmount - 1) refill_pos.ne'
  rw [← whole] at at_least enough no_more
  rw [Int.add_mul, Int.mul_comm] at enough
  rw [Int.mul_comm] at no_more
  rw [Int.mul_sub]
  omega

/-- A refill that clears what is needed takes at least that long. -/
theorem millisNeeded_le (sound : rate.Sound) (refill_pos : 0 < rate.refillAmount)
    {needed level k : Int} (missing : 0 < i128.satSub needed level) (short : k ≤ spanMillis)
    (clears : needed ≤ level + rate.refillAmount * k) :
    rate.millisNeeded (i128.satSub needed level) ≤ k := by
  have room : (u64Max : Int) * spanMillis < i128.high := by decide
  have refilled := mul_le_mul_span sound.refill_nonneg sound.refill_le short
  have bounded : i128.satSub needed level ≤ rate.refillAmount * k := by
    unfold Saturating.Range.satSub Saturating.Range.clamp at missing ⊢
    have low : i128.low < 0 := by decide
    omega
  rw [millisNeeded_eq refill_pos missing]
  refine (min_le_left _ _).trans (Int.le_of_lt_add_one ?_)
  apply Int.ediv_lt_of_lt_mul refill_pos
  rw [Int.add_mul, Int.mul_comm k]
  omega

/-! ## Full again -/

/-- What records take off, uncut. -/
def spent (rate : BucketRate) (usage : List QuotaUsage) : Int := amounts usage * rate.periodMs

/-- From a level at the cursor, the refill until `t` makes up for all the records, and for every
run of the newest. -/
def FullBy (rate : BucketRate) (at_ : Int × OffsetDateTime) (usage : List QuotaUsage)
    (t : OffsetDateTime) : Prop :=
  i128.high + rate.spent usage ≤ at_.1 + rate.refillAmount * wholeMilliseconds (t - at_.2) ∧
    ∀ front u back, usage = front ++ u :: back →
      rate.spent (u :: back) ≤ rate.refillAmount * wholeMilliseconds (t - u.occurredAt)

theorem spent_nonneg (sound : rate.Sound) (usage : List QuotaUsage) : 0 ≤ rate.spent usage :=
  mul_nonneg (Int.natCast_nonneg _) sound.period_pos.le

theorem spent_cons (u : QuotaUsage) (usage : List QuotaUsage) :
    rate.spent (u :: usage) = u.amount.value * rate.periodMs + rate.spent usage := by
  rw [spent, spent, amounts_cons, Int.natCast_add, Int.add_mul]

/-- The suffixes of a list are itself and those of its tail. -/
theorem fullBy_cons {v : QuotaUsage} {usage : List QuotaUsage}
    {t : OffsetDateTime} :
    (∀ front u back, v :: usage = front ++ u :: back →
        rate.spent (u :: back) ≤ rate.refillAmount * wholeMilliseconds (t - u.occurredAt)) ↔
      rate.spent (v :: usage) ≤ rate.refillAmount * wholeMilliseconds (t - v.occurredAt) ∧
        ∀ front u back, usage = front ++ u :: back →
          rate.spent (u :: back) ≤ rate.refillAmount * wholeMilliseconds (t - u.occurredAt) := by
  constructor
  · intro every
    refine ⟨every [] v usage rfl, ?_⟩
    intro front u back same
    exact every (v :: front) u back (by rw [same, List.cons_append])
  · rintro ⟨whole, rest⟩ front u back same
    cases front with
    | nil =>
        cases same
        exact whole
    | cons w front =>
        cases same
        exact rest front u back rfl

/-- A bucket that stops at the end of the range is full exactly when the refill makes up for what
was taken off: nothing that was cut on the way could be made up for. -/
theorem levelFrom_full_iff (sound : rate.Sound) (stops : rate.capacityScaled = i128.high)
    {t : OffsetDateTime} (t_fits : t.Representable) (usage : List QuotaUsage) {level : Int}
    {cursor : OffsetDateTime} (fits : i128.Holds level) (whole : cursor.WholeMilli)
    (cursor_fits : cursor.Representable) (before : cursor ≤ t)
    (inside : ∀ u ∈ usage, cursor ≤ u.occurredAt ∧ u.occurredAt ≤ t)
    (ordered : usage.Pairwise fun u v => u.occurredAt ≤ v.occurredAt) :
    rate.levelFrom (level, cursor) usage t = i128.high ↔ rate.FullBy (level, cursor) usage t := by
  induction usage generalizing level cursor with
  | nil =>
      obtain ⟨-, elapsed, -⟩ := wholeMilliseconds_split whole whole (le_refl _) before
      have short := wholeMilliseconds_le cursor_fits t_fits before
      have none_spent : rate.spent [] = 0 := by simp [spent, amounts]
      rw [levelFrom, List.foldl_nil, refill_eq sound fits elapsed short, stops, FullBy, none_spent]
      constructor
      · intro full
        refine ⟨?_, by simp⟩
        dsimp only at full ⊢
        omega
      · rintro ⟨full, -⟩
        dsimp only at full ⊢
        omega
  | cons v usage ih =>
      obtain ⟨after, v_before⟩ := inside v List.mem_cons_self
      obtain ⟨later, ordered⟩ := List.pairwise_cons.mp ordered
      obtain ⟨first, second, sum⟩ := wholeMilliseconds_split whole v.whole after v_before
      have short := wholeMilliseconds_le cursor_fits t_fits before
      have refilled := mul_le_mul_span sound.refill_nonneg sound.refill_le
        (show wholeMilliseconds (t - v.occurredAt) ≤ spanMillis by omega)
      have room : (u64Max : Int) * spanMillis < i128.high := by decide
      have level_fits : i128.Holds (rate.spend (level, cursor) v).1 := i128.holds_clamp _
      have step := ih level_fits v.whole v.representable v_before
        (fun w mem => ⟨later w mem, (inside w (List.mem_cons_of_mem v mem)).2⟩) ordered
      have rest_nonneg := spent_nonneg sound usage
      have taken : 0 ≤ (v.amount.value : Int) * rate.periodMs :=
        mul_nonneg (Int.natCast_nonneg _) sound.period_pos.le
      have first_nonneg := mul_nonneg sound.refill_nonneg first
      have split := mul_add rate.refillAmount (wholeMilliseconds (v.occurredAt - cursor))
        (wholeMilliseconds (t - v.occurredAt))
      rw [sum] at split
      show rate.levelFrom ((rate.spend (level, cursor) v).1, v.occurredAt) usage t = i128.high ↔ _
      rw [step, FullBy, FullBy, fullBy_cons, spent_cons, split, spend,
        refill_eq sound fits first (by omega), stops]
      unfold Saturating.Range.satSub Saturating.Range.satMul Saturating.Range.clamp
      have low : i128.low < 0 := by decide
      have low_fits := fits.1
      dsimp only
      constructor
      · rintro ⟨full, rest⟩
        exact ⟨by omega, by omega, rest⟩
      · rintro ⟨full, suffix, rest⟩
        exact ⟨by omega, rest⟩

/-- One more than what is outstanding, in thousandths of a refill period. -/
def needed (rate : BucketRate) (held : Nat) : Int := (held + 1) * rate.periodMs

end BucketRate

/-! ## Buckets -/

/-- The bucket is open below its capacity, but what is outstanding is past where its level stops,
and by the last instant there is the level has refilled to that stop. -/
def BucketStops (window : QuotaWindow) (evidence : QuotaEvidence) (now : OffsetDateTime) : Prop :=
  match window.kind with
  | .refillBucket capacity refillAmount refillPeriodSecs anchoredAt levelAtAnchor =>
      let rate := bucketRate capacity refillAmount refillPeriodSecs
      let held := window.held evidence.holds
      held < capacity ∧ i128.high < rate.needed held ∧
        rate.FullBy (i128.satMul levelAtAnchor rate.periodMs, anchoredAt)
          (window.counts now evidence.usage) OffsetDateTime.latest
  | _ => False

section Bucket

variable {window : QuotaWindow} {evidence : QuotaEvidence} {now : OffsetDateTime}
  {capacity refillAmount refillPeriodSecs : Nat} {anchoredAt : OffsetDateTime} {levelAtAnchor : Nat}

theorem WindowState.relief_bucket (capacity : Nat) (level : Int) (outstanding : Nat) (remaining : Int)
    (usageRecords : Nat) (relief : Relief) :
    (WindowState.bucket ⟨capacity, level, outstanding, remaining, usageRecords, relief⟩).relief =
      relief := rfl

theorem evaluate_bucket (evidence : QuotaEvidence) {rate : BucketRate}
    (kind : window.kind =
      .refillBucket capacity refillAmount refillPeriodSecs anchoredAt levelAtAnchor)
    (is_rate : bucketRate capacity refillAmount refillPeriodSecs = rate)
    (lasting : window.scope.validUntil = none) (u : OffsetDateTime) {level : Int}
    (is_level : rate.levelAt levelAtAnchor anchoredAt u (window.counts u evidence.usage) = level) :
    (window.evaluate evidence u).state.relief =
        rate.relief u capacity (window.held evidence.holds) level
          (WindowKind.bucketRemaining rate level (window.held evidence.holds)) ∧
      (window.evaluate evidence u).blocking =
        statusOf (WindowKind.bucketRemaining rate level (window.held evidence.holds)) := by
  subst is_rate is_level
  have here := evaluateKind_eq evidence u (by rw [kind]; rfl)
  obtain ⟨state, status⟩ := evaluate_result lasting (by rw [kind]; rfl) here
  rw [kind] at here
  simp only [WindowKind.result, Option.some_inj] at here
  rw [state, status, ← here]
  exact ⟨WindowState.relief_bucket _ _ _ _ _ _, rfl⟩

theorem bucketRemaining_nonpos_iff {rate : BucketRate} (period_pos : 0 < rate.periodMs) (level : Int)
    (held : Nat) :
    WindowKind.bucketRemaining rate level held ≤ 0 ↔ level < (held + 1) * rate.periodMs := by
  rw [WindowKind.bucketRemaining, i64.clamp_nonpos_iff (by decide), Saturating.Range.satSub,
    i128.clamp_nonpos_iff (by decide), ← Int.ediv_lt_iff_lt_mul period_pos]
  omega

/-- A record of the past that a bucket counts now it counts later. -/
theorem bucket_later (kind : window.kind =
      .refillBucket capacity refillAmount refillPeriodSecs anchoredAt levelAtAnchor)
    (past : ∀ u ∈ evidence.usage, u.occurredAt ≤ now) {u : OffsetDateTime} (later : now ≤ u) :
    window.counts u evidence.usage = window.counts now evidence.usage := by
  rw [counts_filter now (fun _ => true), List.filter_eq_self.mpr fun _ _ => rfl]
  intro v mem
  have v_past := past v mem
  rw [kind, WindowKind.inRange, WindowKind.inRange, decide_eq_true v_past,
    decide_eq_true (le_trans v_past later), Bool.and_true, Bool.true_and, Bool.true_and]
  apply decide_eq_decide.mpr
  constructor
  · rintro ⟨anchored, -⟩
    exact ⟨anchored, v_past⟩
  · rintro ⟨anchored, -⟩
    exact ⟨anchored, le_trans v_past later⟩

theorem bucket_inside (evidence : QuotaEvidence) (now : OffsetDateTime) (kind : window.kind =
      .refillBucket capacity refillAmount refillPeriodSecs anchoredAt levelAtAnchor) :
    ∀ u ∈ window.counts now evidence.usage, anchoredAt ≤ u.occurredAt ∧ u.occurredAt ≤ now := by
  intro u mem
  have pass := ((mem_counted _ _).mp mem).2
  have in_range := (Bool.and_eq_true_iff.mp pass).2
  rw [kind] at in_range
  exact of_decide_eq_true (Bool.and_eq_true_iff.mp in_range).2

theorem one_more_eq {held : Nat} (held_le : held ≤ u64Max) : i128.satAdd held 1 = held + 1 := by
  refine i128.satAdd_of_holds ⟨?_, ?_⟩
  · have low : i128.low < 0 := by decide
    omega
  · have high : (u64Max : Int) + 1 ≤ i128.high := by decide
    omega

/-- An open bucket that its holds do not fill says so. -/
theorem bucket_relief_open {rate : BucketRate} {held : Nat} {level remaining : Int}
    (open_ : held < capacity) (held_le : held ≤ u64Max) (left : 0 < remaining) :
    rate.relief now capacity held level remaining = .notBlocking := by
  rw [BucketRate.relief, one_more_eq held_le, if_neg (by omega), if_pos (not_le.mpr left)]

/-- What the relief of a blocking bucket that its holds do not fill comes to. -/
theorem bucket_relief_blocking {rate : BucketRate} {held : Nat} {level remaining : Int}
    (open_ : held < capacity) (held_le : held ≤ u64Max) (blocks : remaining ≤ 0) :
    rate.relief now capacity held level remaining =
      if rate.deficit held level ≤ 0 then .notBlocking
      else
        match now.checkedAddMillis (rate.millisNeeded (rate.deficit held level)) with
        | some instant => .at_ instant
        | none => .unknown := by
  rw [BucketRate.relief, one_more_eq held_le, if_neg (by omega)]
  exact if_neg (not_not.mpr blocks)

theorem bucket_sound (kind : window.kind =
      .refillBucket capacity refillAmount refillPeriodSecs anchoredAt levelAtAnchor) :
    (bucketRate capacity refillAmount refillPeriodSecs).Sound ∧ 0 < refillAmount ∧
      anchoredAt.WholeMilli ∧ anchoredAt.Representable := by
  have valid := window.valid
  have typed := window.typed
  rw [kind] at valid typed
  obtain ⟨-, refill_pos, period_pos, -, whole⟩ := valid
  obtain ⟨-, refill_le, -, fits, -⟩ := typed
  exact ⟨bucketRate_sound capacity refill_le period_pos, refill_pos, whole, fits⟩

/-- The level at a later instant, of the records known now. -/
def laterLevel (window : QuotaWindow) (evidence : QuotaEvidence) (now : OffsetDateTime)
    (rate : BucketRate) (levelAtAnchor : Nat) (anchoredAt t : OffsetDateTime) : Int :=
  rate.levelAt levelAtAnchor anchoredAt t (window.counts now evidence.usage)

theorem laterLevel_laterBy (evidence : QuotaEvidence) (kind : window.kind =
      .refillBucket capacity refillAmount refillPeriodSecs anchoredAt levelAtAnchor)
    {rate : BucketRate} (is_rate : bucketRate capacity refillAmount refillPeriodSecs = rate)
    (whole : now.WholeMilli) (fits : now.Representable) {k : Int} (nonneg : 0 ≤ k)
    (later_fits : (laterBy now k).Representable) :
    laterLevel window evidence now rate levelAtAnchor anchoredAt (laterBy now k) =
      min (laterLevel window evidence now rate levelAtAnchor anchoredAt now + rate.refillAmount * k)
        rate.capacityScaled := by
  subst is_rate
  obtain ⟨sound, -, anchored_whole, anchored_fits⟩ := bucket_sound kind
  have stands := BucketRate.stands_foldl sound levelAtAnchor anchored_whole anchored_fits fits
    (bucket_inside evidence now kind)
  exact BucketRate.refill_later sound stands whole fits nonneg later_fits

/-- At the last instant the level is what it is at the last whole millisecond from now. -/
theorem laterLevel_latest (evidence : QuotaEvidence) (kind : window.kind =
      .refillBucket capacity refillAmount refillPeriodSecs anchoredAt levelAtAnchor)
    {rate : BucketRate} (is_rate : bucketRate capacity refillAmount refillPeriodSecs = rate)
    (whole : now.WholeMilli) (fits : now.Representable) :
    laterLevel window evidence now rate levelAtAnchor anchoredAt OffsetDateTime.latest =
      min (laterLevel window evidence now rate levelAtAnchor anchoredAt now +
        rate.refillAmount * lastMillis now) rate.capacityScaled := by
  have later_fits := (representable_laterBy fits (lastMillis_le fits).1).mpr (le_refl _)
  rw [← laterLevel_laterBy evidence kind is_rate whole fits (lastMillis_le fits).1 later_fits]
  subst is_rate
  obtain ⟨sound, -, anchored_whole, anchored_fits⟩ := bucket_sound kind
  have stands := BucketRate.stands_foldl sound levelAtAnchor anchored_whole anchored_fits fits
    (bucket_inside evidence now kind)
  unfold laterLevel BucketRate.levelAt
  dsimp only
  rw [wholeMilliseconds_latest stands.whole stands.fits whole]

/-- A bucket that its holds fill blocks for ever, and says so. -/
theorem bucket_exact_of_held (kind : window.kind =
      .refillBucket capacity refillAmount refillPeriodSecs anchoredAt levelAtAnchor)
    (lasting : window.scope.validUntil = none) (full : capacity ≤ window.held evidence.holds) :
    ReliefExact window evidence now := by
  obtain ⟨sound, -, -, -⟩ := bucket_sound kind
  have blocks : ∀ u, (window.evaluate evidence u).blocking = .blocking := by
    intro u
    obtain ⟨-, status⟩ := evaluate_bucket evidence kind rfl lasting u rfl
    rw [status, statusOf_blocking_iff, bucketRemaining_nonpos_iff sound.period_pos]
    have level_le : (bucketRate capacity refillAmount refillPeriodSecs).levelAt levelAtAnchor
        anchoredAt u (window.counts u evidence.usage) ≤
          (bucketRate capacity refillAmount refillPeriodSecs).capacityScaled := min_le_right _ _
    have cap_le : (bucketRate capacity refillAmount refillPeriodSecs).capacityScaled ≤
        capacity * (bucketRate capacity refillAmount refillPeriodSecs).periodMs :=
      i128.clamp_le (mul_nonneg (Int.natCast_nonneg capacity) sound.period_pos.le)
    have product : (capacity : Int) * (bucketRate capacity refillAmount refillPeriodSecs).periodMs ≤
        window.held evidence.holds * (bucketRate capacity refillAmount refillPeriodSecs).periodMs :=
      Int.mul_le_mul_of_nonneg_right (by exact_mod_cast full) sound.period_pos.le
    have more := sound.period_pos
    rw [Int.add_mul]
    omega
  obtain ⟨relief, -⟩ := evaluate_bucket evidence kind rfl lasting now rfl
  have one_more : ((capacity : Nat) : Int) < i128.satAdd (window.held evidence.holds) 1 := by
    have held_le : window.held evidence.holds ≤ u64Max := Nat.min_le_right _ _
    rw [one_more_eq held_le]
    omega
  rw [BucketRate.relief, if_pos one_more] at relief
  constructor
  · intro t _ names
    rw [relief] at names
    cases names
  · intro _ u _
    exact blocks u
  · rw [relief, blocks now]
    simp

theorem deficit_eq {rate : BucketRate} (sound : rate.Sound) {held : Nat} (held_le : held ≤ u64Max)
    (level : Int) :
    rate.deficit held level = i128.satSub (min (rate.needed held) i128.high) level := by
  have nonneg : 0 ≤ rate.needed held := mul_nonneg (by omega) sound.period_pos.le
  have low : i128.low < 0 := by decide
  have high := i128.le_high
  have cut : i128.clamp (rate.needed held) = min (rate.needed held) i128.high := by
    unfold Saturating.Range.clamp
    omega
  rw [BucketRate.deficit, one_more_eq held_le, ← cut]
  rfl

theorem capacity_ge {rate : BucketRate} (is_rate : bucketRate capacity refillAmount refillPeriodSecs = rate)
    (sound : rate.Sound) {held : Nat} (open_ : held < capacity) :
    min (rate.needed held) i128.high ≤ rate.capacityScaled := by
  have product : ((held : Int) + 1) * rate.periodMs ≤ capacity * rate.periodMs :=
    Int.mul_le_mul_of_nonneg_right (by exact_mod_cast open_) sound.period_pos.le
  have cap : rate.capacityScaled = i128.clamp (capacity * rate.periodMs) := by
    rw [← is_rate]
    rfl
  rw [cap, BucketRate.needed]
  unfold Saturating.Range.clamp
  omega

/-- A blocking bucket that neither its holds fill nor its level stops below them names the first
instant at which it is open. -/
theorem bucket_exact (kind : window.kind =
      .refillBucket capacity refillAmount refillPeriodSecs anchoredAt levelAtAnchor)
    {rate : BucketRate} (is_rate : bucketRate capacity refillAmount refillPeriodSecs = rate)
    (lasting : window.scope.validUntil = none)
    (past : ∀ u ∈ evidence.usage, u.occurredAt ≤ now) (whole : now.WholeMilli)
    (fits : now.Representable) (open_ : window.held evidence.holds < capacity)
    (stops : i128.high < rate.needed (window.held evidence.holds) →
      laterLevel window evidence now rate levelAtAnchor anchoredAt OffsetDateTime.latest ≠ i128.high) :
    ReliefExact window evidence now := by
  obtain ⟨sound, refill_pos, -, -⟩ := bucket_sound kind
  have refill_eq : rate.refillAmount = refillAmount := by rw [← is_rate]; rfl
  rw [is_rate] at sound
  have held_le : window.held evidence.holds ≤ u64Max := Nat.min_le_right _ _
  have cap_ge := capacity_ge is_rate sound open_
  have cap_le := sound.capacity_le
  have latest := laterLevel_latest evidence kind is_rate whole fits
  obtain ⟨last_nonneg, last_le⟩ := lastMillis_le fits
  have refilled := mul_nonneg sound.refill_nonneg last_nonneg
  have status : ∀ u, now ≤ u → ((window.evaluate evidence u).blocking = .blocking ↔
      laterLevel window evidence now rate levelAtAnchor anchoredAt u <
        rate.needed (window.held evidence.holds)) := by
    intro u later
    obtain ⟨-, status⟩ := evaluate_bucket evidence kind is_rate lasting u rfl
    rw [status, statusOf_blocking_iff, bucketRemaining_nonpos_iff sound.period_pos,
      bucket_later kind past later]
    rfl
  have status_open : ∀ u, now ≤ u → ((window.evaluate evidence u).blocking = .notBlocking ↔
      rate.needed (window.held evidence.holds) ≤
        laterLevel window evidence now rate levelAtAnchor anchoredAt u) := by
    intro u later
    obtain ⟨-, status_u⟩ := evaluate_bucket evidence kind is_rate lasting u rfl
    rw [status_u, statusOf_open_iff, ← not_le, bucketRemaining_nonpos_iff sound.period_pos, not_lt,
      bucket_later kind past later]
    rfl
  have now_level := status now (le_refl now)
  obtain ⟨relief, status_now⟩ := evaluate_bucket evidence kind is_rate lasting now rfl
  have missing : laterLevel window evidence now rate levelAtAnchor anchoredAt now <
      rate.needed (window.held evidence.holds) →
      0 < rate.deficit (window.held evidence.holds)
        (laterLevel window evidence now rate levelAtAnchor anchoredAt now) := by
    intro below
    rw [deficit_eq sound held_le]
    have high : 0 < i128.high := by decide
    have low := i128.low_le
    -- The level is not at its stop either: it would be there at the last instant too.
    have below_stop : laterLevel window evidence now rate levelAtAnchor anchoredAt now <
        min (rate.needed (window.held evidence.holds)) i128.high := by
      by_contra stopped
      exact stops (by omega) (by omega)
    unfold Saturating.Range.satSub Saturating.Range.clamp
    omega
  have blocking_relief : (window.evaluate evidence now).blocking = .blocking →
      (window.evaluate evidence now).state.relief =
        match now.checkedAddMillis (rate.millisNeeded (rate.deficit (window.held evidence.holds)
          (laterLevel window evidence now rate levelAtAnchor anchoredAt now))) with
        | some instant => .at_ instant
        | none => .unknown := by
    intro blocks
    have spent := now_level.mp blocks
    rw [status_now, statusOf_blocking_iff] at blocks
    rw [relief, bucket_relief_blocking open_ held_le blocks]
    exact if_neg (not_le.mpr (missing spent))
  constructor
  · intro t blocks names
    rw [blocking_relief blocks, checkedAddMillis_eq] at names
    have below := now_level.mp blocks
    have short := missing below
    by_cases reached : (laterBy now (rate.millisNeeded (rate.deficit (window.held evidence.holds)
        (laterLevel window evidence now rate levelAtAnchor anchoredAt now)))).Representable
    · rw [if_pos reached] at names
      cases names
      rw [deficit_eq sound held_le] at short reached ⊢
      have nonneg : 0 ≤ rate.millisNeeded (i128.satSub (min (rate.needed (window.held evidence.holds))
          i128.high) (laterLevel window evidence now rate levelAtAnchor anchoredAt now)) := by
        rw [BucketRate.millisNeeded]
        have high := i64.le_high
        omega
      have in_time := (representable_laterBy fits nonneg).mp reached
      obtain ⟨pos, clears, not_yet⟩ := BucketRate.millisNeeded_spec sound
        (by rw [refill_eq]; omega) short (in_time.trans last_le)
      generalize rate.millisNeeded (i128.satSub (min (rate.needed (window.held evidence.holds))
        i128.high) (laterLevel window evidence now rate levelAtAnchor anchoredAt now)) = k at *
      have at_instant := laterLevel_laterBy evidence kind is_rate whole fits nonneg reached
      have future : now < laterBy now k := by
        have cut : ∀ a k : Int, 0 < k → a < a + k * 1000000 := by omega
        exact cut now k pos
      -- A stop below what is needed would have been reached by the last instant.
      have to_last := Int.mul_le_mul_of_nonneg_left in_time sound.refill_nonneg
      have within : rate.needed (window.held evidence.holds) ≤ i128.high := by
        by_contra past_stop
        exact stops (by omega) (by omega)
      refine ⟨future, ?_, ?_⟩
      · rw [status_open _ future.le, at_instant]
        omega
      · intro u u_whole later early
        obtain ⟨j, j_nonneg, rfl⟩ := laterBy_of_le whole u_whole later
        have before : j ≤ k - 1 := by
          have cut : ∀ a j k : Int, a + j * 1000000 < a + k * 1000000 → j ≤ k - 1 := by omega
          exact cut now j k early
        have j_fits := (representable_laterBy fits j_nonneg).mpr (by omega)
        have product := Int.mul_le_mul_of_nonneg_left before sound.refill_nonneg
        rw [status _ later, laterLevel_laterBy evidence kind is_rate whole fits j_nonneg j_fits]
        omega
    · rw [if_neg reached] at names
      cases names
  · intro names u _
    by_cases blocks : (window.evaluate evidence now).blocking = .blocking
    · rw [blocking_relief blocks] at names
      split at names <;> cases names
    · rw [status_now, statusOf_blocking_iff, not_le] at blocks
      rw [relief, bucket_relief_open open_ held_le blocks] at names
      cases names
  · by_cases blocks : (window.evaluate evidence now).blocking = .blocking
    · rw [blocking_relief blocks, blocks]
      split <;> simp
    · rw [status_now, statusOf_blocking_iff, not_le] at blocks
      rw [relief, bucket_relief_open open_ held_le blocks, status_now, statusOf_open_iff]
      exact iff_of_true rfl blocks

/-- A bucket whose level has refilled to its stop by the last instant, below what is needed, says
that it does not block or names an instant at which it does. -/
theorem bucket_not_exact (kind : window.kind =
      .refillBucket capacity refillAmount refillPeriodSecs anchoredAt levelAtAnchor)
    {rate : BucketRate} (is_rate : bucketRate capacity refillAmount refillPeriodSecs = rate)
    (lasting : window.scope.validUntil = none) (whole : now.WholeMilli)
    (fits : now.Representable) (open_ : window.held evidence.holds < capacity)
    (stops : i128.high < rate.needed (window.held evidence.holds))
    (full : laterLevel window evidence now rate levelAtAnchor anchoredAt OffsetDateTime.latest =
      i128.high) :
    ¬ ReliefExact window evidence now := by
  obtain ⟨sound, refill_pos, -, -⟩ := bucket_sound kind
  have refill_eq : rate.refillAmount = refillAmount := by rw [← is_rate]; rfl
  rw [is_rate] at sound
  have held_le : window.held evidence.holds ≤ u64Max := Nat.min_le_right _ _
  have latest := laterLevel_latest evidence kind is_rate whole fits
  obtain ⟨last_nonneg, last_le⟩ := lastMillis_le fits
  -- It blocks at every instant.
  have blocks : ∀ u, (window.evaluate evidence u).blocking = .blocking := by
    intro u
    obtain ⟨-, status⟩ := evaluate_bucket evidence kind is_rate lasting u rfl
    rw [status, statusOf_blocking_iff, bucketRemaining_nonpos_iff sound.period_pos]
    have level_le : rate.levelAt levelAtAnchor anchoredAt u (window.counts u evidence.usage) ≤
        rate.capacityScaled := min_le_right _ _
    exact lt_of_le_of_lt (level_le.trans sound.capacity_le) stops
  intro exact_
  obtain ⟨relief, status⟩ := evaluate_bucket evidence kind is_rate lasting now rfl
  have status_now := blocks now
  rw [status, statusOf_blocking_iff] at status_now
  have top : min (rate.needed (window.held evidence.holds)) i128.high = i128.high := min_eq_right stops.le
  rw [bucket_relief_blocking open_ held_le status_now, deficit_eq sound held_le, top] at relief
  by_cases at_stop : i128.satSub i128.high (laterLevel window evidence now rate levelAtAnchor
      anchoredAt now) ≤ 0
  · rw [laterLevel] at at_stop
    rw [if_pos at_stop] at relief
    have open_now := exact_.open_.mp relief
    rw [blocks now] at open_now
    cases open_now
  · have clears : i128.high ≤ laterLevel window evidence now rate levelAtAnchor anchoredAt now +
        rate.refillAmount * lastMillis now := by omega
    have in_time := BucketRate.millisNeeded_le sound (by rw [refill_eq]; omega) (not_le.mp at_stop)
      last_le clears
    have nonneg : 0 ≤ rate.millisNeeded (i128.satSub i128.high
        (laterLevel window evidence now rate levelAtAnchor anchoredAt now)) := by
      rw [BucketRate.millisNeeded]
      have high := i64.le_high
      omega
    have reached := (representable_laterBy fits nonneg).mpr in_time
    rw [laterLevel] at at_stop reached
    rw [if_neg at_stop, checkedAddMillis_eq, if_pos reached] at relief
    obtain ⟨-, open_then, -⟩ := exact_.first _ (blocks now) relief
    rw [blocks] at open_then
    cases open_then

/-- Whether the level is at its stop by the last instant. -/
theorem laterLevel_full_iff (kind : window.kind =
      .refillBucket capacity refillAmount refillPeriodSecs anchoredAt levelAtAnchor)
    {rate : BucketRate} (is_rate : bucketRate capacity refillAmount refillPeriodSecs = rate)
    (open_ : window.held evidence.holds < capacity)
    (stops : i128.high < rate.needed (window.held evidence.holds)) :
    laterLevel window evidence now rate levelAtAnchor anchoredAt OffsetDateTime.latest = i128.high ↔
      rate.FullBy (i128.satMul levelAtAnchor rate.periodMs, anchoredAt)
        (window.counts now evidence.usage) OffsetDateTime.latest := by
  obtain ⟨sound, -, anchored_whole, anchored_fits⟩ := bucket_sound kind
  rw [is_rate] at sound
  have cap_ge := capacity_ge is_rate sound open_
  have cap_le := sound.capacity_le
  have inside := bucket_inside evidence now kind
  exact BucketRate.levelFrom_full_iff sound (by omega) (by decide) (window.counts now evidence.usage)
    (i128.holds_clamp _) anchored_whole anchored_fits anchored_fits.2
    (fun u mem => ⟨(inside u mem).1, u.representable.2⟩) (counted_sorted _ _ _)

end Bucket

/-- What a window that counts says about its relief is so, unless it is a bucket that stops below
what is outstanding and gets there. -/
theorem relief_exact_iff (window : QuotaWindow) (countable : window.kind.isGauge = false)
    (lasting : window.scope.validUntil = none)
    (tiles : ∀ period timeZone limit, window.kind = .fixedAligned period timeZone limit →
      Tiles fun t => fixedAlignedBounds t period timeZone)
    (evidence : QuotaEvidence) {now : OffsetDateTime} (whole : now.WholeMilli)
    (fits : now.Representable) (past : ∀ u ∈ evidence.usage, u.occurredAt ≤ now)
    (sums : amounts (window.counts now evidence.usage) ≤ u64Max) :
    ReliefExact window evidence now ↔ ¬ BucketStops window evidence now := by
  cases kind : window.kind with
  | fixedAligned period timeZone limit =>
      have never : ¬ BucketStops window evidence now := by
        rw [BucketStops, kind]
        exact not_false
      exact iff_of_true (fixed_exact kind lasting (tiles period timeZone limit kind) past) never
  | sliding lengthSecs limit =>
      have never : ¬ BucketStops window evidence now := by
        rw [BucketStops, kind]
        exact not_false
      exact iff_of_true (sliding_exact kind lasting past sums) never
  | refillBucket capacity refillAmount refillPeriodSecs anchoredAt levelAtAnchor =>
      rw [BucketStops, kind]
      dsimp only
      by_cases open_ : window.held evidence.holds < capacity
      · constructor
        · rintro exact_ ⟨-, stops, full⟩
          exact bucket_not_exact kind rfl lasting whole fits open_ stops
            ((laterLevel_full_iff kind rfl open_ stops).mpr full) exact_
        · intro not_stops
          refine bucket_exact kind rfl lasting past whole fits open_ fun stops full => ?_
          exact not_stops ⟨open_, stops, (laterLevel_full_iff kind rfl open_ stops).mp full⟩
      · exact iff_of_true (bucket_exact_of_held kind lasting (not_lt.mp open_))
          fun stops => open_ stops.1
  | opaqueProviderSnapshot maxStalenessSecs =>
      rw [kind] at countable
      cases countable

/-- Seven tokens out of the bucket of ten and three held: it is open again a minute later. -/
theorem minute_bucket_opens :
    (minuteBucket.evaluate ⟨[sevenTokens], [⟨⟨0⟩, ⟨.tokens, 3⟩⟩], []⟩
        (2 * OffsetDateTime.nanosPerSecond)).state.relief =
          .at_ (61 * OffsetDateTime.nanosPerSecond) ∧
      (ReliefExact minuteBucket ⟨[sevenTokens], [⟨⟨0⟩, ⟨.tokens, 3⟩⟩], []⟩
          (2 * OffsetDateTime.nanosPerSecond) ↔
        ¬ BucketStops minuteBucket ⟨[sevenTokens], [⟨⟨0⟩, ⟨.tokens, 3⟩⟩], []⟩
          (2 * OffsetDateTime.nanosPerSecond)) := by
  refine ⟨by decide +kernel, ?_⟩
  exact relief_exact_iff minuteBucket rfl rfl (by rintro _ _ _ ⟨⟩) _ (by decide) (by decide)
    (by decide) (by decide +kernel)

/-- A bucket that takes as long as can be written for one token. -/
def eternalBucket : QuotaWindow where
  id := ⟨0⟩
  scope := ⟨none⟩
  unit := .tokens
  kind := .refillBucket u64Max 1 u64Max 0 u64Max
  typed := by decide
  valid := by decide
  percent := nofun

/-- Half of it is held: it blocks, and says that it does not. -/
theorem eternal_bucket_denies_blocking :
    (eternalBucket.evaluate ⟨[], [⟨⟨0⟩, ⟨.tokens, 2 ^ 63⟩⟩], []⟩ 0).blocking = .blocking ∧
      (eternalBucket.evaluate ⟨[], [⟨⟨0⟩, ⟨.tokens, 2 ^ 63⟩⟩], []⟩ 0).state.relief =
        .notBlocking := by
  decide +kernel

end LibraGovernor
