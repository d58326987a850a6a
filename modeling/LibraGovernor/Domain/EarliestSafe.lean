/-
# LibraGovernor.Domain.EarliestSafe -- the instant the forecast names is the first safe one

A rolling interval or a bucket that blocks names an instant past the one it was asked at, and
at no whole millisecond before that does it admit (`Advances`): not even where the bucket's
arithmetic stops, or the rolling sum does.  The named instant itself may still block.  So a
round of the probe passes over no instant at which every window admits, and the walk from
relief to relief ends at the first one (`probe_spec`).
-/
import LibraGovernor.Domain.BucketRelief
import LibraGovernor.Domain.Forecast

namespace LibraGovernor

open Scan StableSort

set_option autoImplicit false

/-! ## One evaluation -/

section Evaluation

variable {window : QuotaWindow} {evidence : QuotaEvidence}

/-- An expired entitlement does not open a window that blocks. -/
theorem evaluate_blocking_iff (window : QuotaWindow) (evidence : QuotaEvidence) (u : OffsetDateTime) :
    (window.evaluate evidence u).blocking = .blocking ↔ (evaluateKind window evidence u).2 = .blocking := by
  rw [QuotaWindow.evaluate]
  dsimp only
  split
  · cases (evaluateKind window evidence u).2 <;> simp [BlockingStatus.mostRestrictive]
  · exact Iff.rfl

theorem sliding_evaluated {lengthSecs limit : Nat} (evidence : QuotaEvidence)
    (kind : window.kind = .sliding lengthSecs limit) (u : OffsetDateTime) :
    (window.evaluate evidence u).state.relief =
        WindowKind.rollingRelief (slidingLength lengthSecs) limit (window.counts u evidence.usage)
          (window.held evidence.holds)
          (leftOf limit (window.counts u evidence.usage) (window.held evidence.holds)) ∧
      ((window.evaluate evidence u).blocking = .blocking ↔
        leftOf limit (window.counts u evidence.usage) (window.held evidence.holds) ≤ 0) := by
  have here := evaluateKind_eq evidence u (by rw [kind]; rfl)
  rw [kind] at here
  simp only [WindowKind.result, Option.some_inj] at here
  rw [evaluate_blocking_iff, ← statusOf_blocking_iff]
  show (evaluateKind window evidence u).1.relief = _ ∧ _
  rw [← here]
  exact ⟨rfl, Iff.rfl⟩

theorem bucket_evaluated {capacity refillAmount refillPeriodSecs : Nat} {anchoredAt : OffsetDateTime}
    {levelAtAnchor : Nat} {rate : BucketRate} (evidence : QuotaEvidence)
    (kind : window.kind =
      .refillBucket capacity refillAmount refillPeriodSecs anchoredAt levelAtAnchor)
    (is_rate : bucketRate capacity refillAmount refillPeriodSecs = rate) (u : OffsetDateTime)
    {level : Int}
    (is_level : rate.levelAt levelAtAnchor anchoredAt u (window.counts u evidence.usage) = level) :
    (window.evaluate evidence u).state.relief =
        rate.relief u capacity (window.held evidence.holds) level
          (WindowKind.bucketRemaining rate level (window.held evidence.holds)) ∧
      ((window.evaluate evidence u).blocking = .blocking ↔
        WindowKind.bucketRemaining rate level (window.held evidence.holds) ≤ 0) := by
  subst is_rate is_level
  have here := evaluateKind_eq evidence u (by rw [kind]; rfl)
  rw [kind] at here
  simp only [WindowKind.result, Option.some_inj] at here
  rw [evaluate_blocking_iff, ← statusOf_blocking_iff]
  show (evaluateKind window evidence u).1.relief = _ ∧ _
  rw [← here]
  exact ⟨WindowState.relief_bucket _ _ _ _ _ _, Iff.rfl⟩

end Evaluation

/-! ## A window that blocks -/

/-- The window blocks at the instant, and says when it does not. -/
def ClosedAt (window : QuotaWindow) (evidence : QuotaEvidence) (u : OffsetDateTime) : Prop :=
  (window.evaluate evidence u).blocking = .blocking ∧
    (window.evaluate evidence u).state.relief ≠ .notBlocking

/-- The instant a blocking window names lies ahead, and the window is closed until then. -/
structure ClosedUntil (window : QuotaWindow) (evidence : QuotaEvidence) (now r : OffsetDateTime) :
    Prop where
  ahead : now < r
  whole : r.WholeMilli
  closed : ∀ u : OffsetDateTime, u.WholeMilli → now ≤ u → u < r → ClosedAt window evidence u

section Sliding

variable {window : QuotaWindow} {evidence : QuotaEvidence} {now : OffsetDateTime}
  {lengthSecs limit : Nat}

theorem rollingRelief_ne (length : Int) (usage : List QuotaUsage) (held : Nat) {left : Int}
    (spent : left ≤ 0) : WindowKind.rollingRelief length limit usage held left ≠ .notBlocking := by
  intro open_
  rw [WindowKind.rollingRelief] at open_
  split at open_
  · cases open_
  · split at open_ <;> cases open_

/-- As long as the record that makes room has not aged out, it and what came after it fill the
interval, wherever the total stops. -/
theorem sliding_closed (kind : window.kind = .sliding lengthSecs limit)
    (past : ∀ u ∈ evidence.usage, u.occurredAt ≤ now) {r : OffsetDateTime}
    (blocks : (window.evaluate evidence now).blocking = .blocking)
    (names : (window.evaluate evidence now).state.relief = .at_ r) :
    ClosedUntil window evidence now r := by
  obtain ⟨relief, status⟩ := sliding_evaluated evidence kind now
  have spent := status.mp blocks
  rw [relief, WindowKind.rollingRelief] at names
  split at names
  · cases names
  split at names
  case h_2 => cases names
  case h_1 instant found =>
  cases names
  rw [leftOf, remainingI64, i64.clamp_nonpos_iff (by decide)] at spent
  obtain ⟨front, v, back, split, rfl, before, -⟩ := slidingRelief_some (by push_cast; omega) found
  have ordered := counted_sorted window.unit (window.kind.inRange now) evidence.usage
  rw [← QuotaWindow.counts, split] at ordered
  obtain ⟨-, tail, -⟩ := List.pairwise_append.mp ordered
  obtain ⟨later_v, -⟩ := List.pairwise_cons.mp tail
  have inside : v ∈ window.counts now evidence.usage := by
    rw [split]
    exact List.mem_append_right front List.mem_cons_self
  have in_range := (Bool.and_eq_true_iff.mp ((mem_counted _ _).mp inside).2).2
  rw [kind] at in_range
  have aged : now - slidingLength lengthSecs < v.occurredAt :=
    (of_decide_eq_true (Bool.and_eq_true_iff.mp in_range).2).1
  have settled : settledOf (window.counts now evidence.usage) =
      min (amounts front + (v.amount.value + amounts back)) u64Max := by
    rw [settledOf_eq, split, ← amounts, amounts_append, amounts_cons]
  constructor
  · have shift : ∀ a b l : Int, a - l < b → a < b + l := by omega
    exact shift now v.occurredAt (slidingLength lengthSecs) aged
  · have shift : ∀ a secs : Int, a % 1000000 = 0 → (a + secs * 1000000000) % 1000000 = 0 := by omega
    exact shift v.occurredAt lengthSecs v.whole
  · intro u _ later early
    have full : leftOf limit (window.counts u evidence.usage) (window.held evidence.holds) ≤ 0 := by
      have stays : ∀ w : QuotaUsage, v.occurredAt ≤ w.occurredAt →
          u - slidingLength lengthSecs < w.occurredAt := by
        intro w le
        have shift : ∀ a b c l : Int, c < b + l → b ≤ a → c - l < a := by omega
        exact shift w.occurredAt v.occurredAt u (slidingLength lengthSecs) early le
      have kept : (v :: back).filter (fun w => decide (u - slidingLength lengthSecs < w.occurredAt)) =
          v :: back := by
        rw [List.filter_eq_self]
        intro w mem
        apply decide_eq_true
        rcases List.mem_cons.mp mem with rfl | mem
        · exact stays w (le_refl _)
        · exact stays w (later_v w mem)
      have more : min (v.amount.value + amounts back) u64Max ≤
          settledOf (window.counts u evidence.usage) := by
        rw [settledOf_eq, ← amounts, sliding_later kind past later, split, List.filter_append,
          amounts_append, kept, amounts_cons]
        omega
      rw [leftOf, remainingI64, i64.clamp_nonpos_iff (by decide)]
      rw [settled] at before
      push_cast at before
      omega
    obtain ⟨relief_u, status_u⟩ := sliding_evaluated evidence kind u
    refine ⟨status_u.mpr full, ?_⟩
    rw [relief_u]
    exact rollingRelief_ne _ _ _ full

end Sliding

section Bucket

variable {window : QuotaWindow} {evidence : QuotaEvidence} {now : OffsetDateTime}
  {capacity refillAmount refillPeriodSecs : Nat} {anchoredAt : OffsetDateTime} {levelAtAnchor : Nat}

theorem representable_of_laterBy {k : Int} (start : OffsetDateTime.earliest ≤ now) (nonneg : 0 ≤ k)
    (fits : (laterBy now k).Representable) : now.Representable := by
  have cut : ∀ a k : Int, 0 ≤ k → a + k * 1000000 ≤ 253402300799999999999 →
      a ≤ 253402300799999999999 := by omega
  exact ⟨start, cut now k nonneg fits.2⟩

/-- Until the milliseconds of the refill are over, the level is below what is needed, and a later
evaluation finds that too. -/
theorem bucket_closed (kind : window.kind =
      .refillBucket capacity refillAmount refillPeriodSecs anchoredAt levelAtAnchor)
    (past : ∀ u ∈ evidence.usage, u.occurredAt ≤ now) (whole : now.WholeMilli)
    (start : OffsetDateTime.earliest ≤ now) {r : OffsetDateTime}
    (blocks : (window.evaluate evidence now).blocking = .blocking)
    (names : (window.evaluate evidence now).state.relief = .at_ r) :
    ClosedUntil window evidence now r := by
  obtain ⟨sound, refill_pos, -, -⟩ := bucket_sound kind
  obtain ⟨rate, is_rate⟩ : ∃ rate, bucketRate capacity refillAmount refillPeriodSecs = rate := ⟨_, rfl⟩
  have refill_eq : rate.refillAmount = refillAmount := by rw [← is_rate]; rfl
  rw [is_rate] at sound
  have held_le : window.held evidence.holds ≤ u64Max := Nat.min_le_right _ _
  obtain ⟨relief, status⟩ := bucket_evaluated evidence kind is_rate now rfl
  have spent := status.mp blocks
  have open_ : window.held evidence.holds < capacity := by
    by_contra full
    rw [relief, BucketRate.relief, one_more_eq held_le, if_pos (by omega)] at names
    cases names
  rw [relief, bucket_relief_blocking open_ held_le spent, deficit_eq sound held_le] at names
  split at names
  · cases names
  rename_i missing
  rw [not_le, ← laterLevel] at missing
  rw [checkedAddMillis_eq, ← laterLevel] at names
  by_cases reached : (laterBy now (rate.millisNeeded (i128.satSub (min (rate.needed
      (window.held evidence.holds)) i128.high)
      (laterLevel window evidence now rate levelAtAnchor anchoredAt now)))).Representable
  · rw [if_pos reached] at names
    cases names
    have nonneg : 0 ≤ rate.millisNeeded (i128.satSub (min (rate.needed (window.held evidence.holds))
        i128.high) (laterLevel window evidence now rate levelAtAnchor anchoredAt now)) := by
      rw [BucketRate.millisNeeded]
      have high := i64.le_high
      omega
    have fits := representable_of_laterBy start nonneg reached
    have in_time := (representable_laterBy fits nonneg).mp reached
    obtain ⟨pos, -, not_yet⟩ := BucketRate.millisNeeded_spec sound (by rw [refill_eq]; omega) missing
      (in_time.trans (lastMillis_le fits).2)
    generalize rate.millisNeeded (i128.satSub (min (rate.needed (window.held evidence.holds))
      i128.high) (laterLevel window evidence now rate levelAtAnchor anchoredAt now)) = k at *
    constructor
    · have cut : ∀ a k : Int, 0 < k → a < a + k * 1000000 := by omega
      exact cut now k pos
    · have cut : ∀ a k : Int, a % 1000000 = 0 → (a + k * 1000000) % 1000000 = 0 := by omega
      exact cut now k whole
    · intro u u_whole later early
      obtain ⟨j, j_nonneg, rfl⟩ := laterBy_of_le whole u_whole later
      have before : j ≤ k - 1 := by
        have cut : ∀ a j k : Int, a + j * 1000000 < a + k * 1000000 → j ≤ k - 1 := by omega
        exact cut now j k early
      have j_fits := (representable_laterBy fits j_nonneg).mpr (by omega)
      have product := Int.mul_le_mul_of_nonneg_left before sound.refill_nonneg
      have level := laterLevel_laterBy evidence kind is_rate whole fits j_nonneg j_fits
      have below : laterLevel window evidence now rate levelAtAnchor anchoredAt (laterBy now j) <
          min (rate.needed (window.held evidence.holds)) i128.high := by
        rw [level]
        omega
      obtain ⟨relief_u, status_u⟩ := bucket_evaluated evidence kind is_rate (laterBy now j) rfl
      rw [bucketRemaining_nonpos_iff sound.period_pos, bucket_later kind past later, ← laterLevel]
        at status_u
      have blocks_u := status_u.mpr (below.trans_le (min_le_left _ _))
      refine ⟨blocks_u, ?_⟩
      have remaining_u := (bucketRemaining_nonpos_iff
        sound.period_pos _ _).mpr (below.trans_le (min_le_left _ _))
      rw [relief_u, bucket_later kind past later, ← laterLevel,
        bucket_relief_blocking open_ held_le remaining_u, deficit_eq sound held_le, if_neg]
      · split <;> simp
      · have low : i128.low < 0 := by decide
        have high : 0 < i128.high := by decide
        unfold Saturating.Range.satSub Saturating.Range.clamp
        omega
  · rw [if_neg reached] at names
    cases names

end Bucket

/-! ## One window of the forecast -/

/-- A rolling interval, or a bucket. -/
def WindowKind.Rolls : WindowKind → Prop
  | .sliding _ _ => True
  | .refillBucket _ _ _ _ _ => True
  | _ => False

/-- The window opens with time alone, and its usage is of the past. -/
structure WindowInput.RollsFrom (input : WindowInput) (start : OffsetDateTime) : Prop where
  kind : input.window.kind.Rolls
  past : ∀ u ∈ input.usage, u.occurredAt ≤ start

section Check

variable {input : WindowInput} {need : Option QuotaAmount} {mode : ForecastMode}
  {now : OffsetDateTime}

theorem extractRelief_eq (state : WindowState) : extractRelief state = state.relief := by
  cases state <;> rfl

/-- What names an instant is the evaluation with the need added. -/
theorem checkWindow_blockedAt {r : OffsetDateTime} (blocked : checkWindow input need mode now = .blockedAt r) :
    ∃ n, need = some n ∧ n.unit = input.window.unit ∧ input.window.isGauge = false ∧
      (input.window.evaluate (input.withNeed (injectedNeed input.window n.value mode)) now).blocking =
        .blocking ∧
      (input.window.evaluate (input.withNeed (injectedNeed input.window n.value mode)) now).state.relief =
        .at_ r := by
  unfold checkWindow at blocked
  dsimp only at blocked
  split at blocked
  · rw [checkGauge] at blocked
    split at blocked
    · cases blocked
    · cases blocked
    · split at blocked <;> cases blocked
  rename_i countable
  cases need with
  | none => cases blocked
  | some n =>
      dsimp only at blocked
      split at blocked
      · cases blocked
      rename_i unit
      split at blocked
      · cases blocked
      · cases blocked
      rename_i blocks
      rw [extractRelief_eq] at blocked
      split at blocked
      case h_1 names =>
        cases blocked
        exact ⟨n, rfl, not_not.mp unit, eq_false_of_ne_true countable, blocks, names⟩
      all_goals cases blocked

theorem checkWindow_closed {n : QuotaAmount} (countable : input.window.isGauge = false)
    (unit : n.unit = input.window.unit)
    (closed : ClosedAt input.window (input.withNeed (injectedNeed input.window n.value mode)) now) :
    checkWindow input (some n) mode now ≠ .admit_ := by
  obtain ⟨blocks, names⟩ := closed
  unfold checkWindow
  dsimp only
  rw [if_neg (by rw [countable]; decide), if_neg (not_not.mpr unit), blocks]
  dsimp only
  rw [extractRelief_eq]
  split
  case h_5 open_ => exact absurd open_ names
  all_goals nofun

/-- A window that blocks names an instant ahead, and admits at none before. -/
theorem checkWindow_closed_until {start : OffsetDateTime} (rolls : input.RollsFrom start)
    (from_ : start ≤ now) (whole : now.WholeMilli) (fits : OffsetDateTime.earliest ≤ now)
    {r : OffsetDateTime} (blocked : checkWindow input need mode now = .blockedAt r) :
    now < r ∧ r.WholeMilli ∧ ∀ u : OffsetDateTime, u.WholeMilli → now ≤ u → u < r →
      checkWindow input need mode u ≠ .admit_ := by
  obtain ⟨n, rfl, unit, countable, blocks, names⟩ := checkWindow_blockedAt blocked
  have past : ∀ u ∈ (input.withNeed (injectedNeed input.window n.value mode)).usage,
      u.occurredAt ≤ now := fun u mem => le_trans (rolls.past u mem) from_
  have until_ : ClosedUntil input.window
      (input.withNeed (injectedNeed input.window n.value mode)) now r := by
    have rolls_kind := rolls.kind
    cases kind : input.window.kind with
    | sliding lengthSecs limit => exact sliding_closed kind past blocks names
    | refillBucket capacity refillAmount refillPeriodSecs anchoredAt levelAtAnchor =>
        exact bucket_closed kind past whole fits blocks names
    | fixedAligned period timeZone limit =>
        rw [kind] at rolls_kind
        exact rolls_kind.elim
    | opaqueProviderSnapshot maxStalenessSecs =>
        rw [kind] at rolls_kind
        exact rolls_kind.elim
  exact ⟨until_.ahead, until_.whole,
    fun u u_whole later early => checkWindow_closed countable unit (until_.closed u u_whole later early)⟩

end Check

/-! ## The probe -/

/-- Every window admits at the instant. -/
def AdmitsAll (windows : List WindowInput) (need : Option QuotaAmount) (mode : ForecastMode)
    (u : OffsetDateTime) : Prop :=
  ∀ input ∈ windows, checkWindow input need mode u = .admit_

/-- The instant an answer names, if it names one. -/
def NextAdmit.instant (startAt : OffsetDateTime) : NextAdmit → Option OffsetDateTime
  | .now => some startAt
  | .at_ instant _ => some instant
  | .paced _ _ => none
  | .unavailable _ => none

section Probe

variable {windows : List WindowInput} {need : Option QuotaAmount} {mode : ForecastMode}

/-- What is unavailable at a window is never for want of an instant ahead. -/
theorem checkWindow_unavailable {input : WindowInput} {t : OffsetDateTime}
    {reason : PacingUnavailableReason} (refused : checkWindow input need mode t = .unavailable reason)
    (id : QuotaWindowId) : reason ≠ .nonAdvancingRelief id := by
  unfold checkWindow at refused
  dsimp only at refused
  split at refused
  · rw [checkGauge] at refused
    split at refused
    · cases refused
    · cases refused
      nofun
    · split at refused <;> cases refused <;> nofun
  cases need with
  | none =>
      cases refused
      nofun
  | some n =>
      dsimp only at refused
      split at refused
      · cases refused
        nofun
      split at refused
      · cases refused
      · cases refused
        nofun
      split at refused <;> cases refused <;> nofun

/-- A round ends in nothing where every window admits, and else in an instant that one of them
names. -/
theorem probeRound_ok {t : OffsetDateTime} {latest result : Option (OffsetDateTime × QuotaWindowId)}
    (round : probeRound need mode t latest windows = .ok result) :
    (result = none → latest = none ∧ AdmitsAll windows need mode t) ∧
      ∀ next limiting, result = some (next, limiting) →
        (∃ limiting', latest = some (next, limiting')) ∨
          ∃ input ∈ windows, checkWindow input need mode t = .blockedAt next := by
  induction windows generalizing latest with
  | nil =>
      cases round
      exact ⟨fun none_ => ⟨none_, fun _ mem => absurd mem List.not_mem_nil⟩,
        fun next limiting here => .inl ⟨limiting, here⟩⟩
  | cons input rest ih =>
      rw [probeRound] at round
      split at round
      case h_1 admits =>
        obtain ⟨open_, names⟩ := ih round
        constructor
        · intro none_
          obtain ⟨latest_none, all⟩ := open_ none_
          exact ⟨latest_none, List.forall_mem_cons.mpr ⟨admits, all⟩⟩
        · intro next limiting here
          rcases names next limiting here with before | ⟨other, mem, blocked⟩
          · exact .inl before
          · exact .inr ⟨other, List.mem_cons_of_mem input mem, blocked⟩
      case h_2 reliefAt blocked =>
        split at round
        · cases round
        obtain ⟨open_, names⟩ := ih round
        constructor
        · intro none_
          obtain ⟨later, -⟩ := open_ none_
          cases later
        · intro next limiting here
          rcases names next limiting here with ⟨limiting', later⟩ | ⟨other, mem, blocked'⟩
          · rw [Option.some_inj] at later
            unfold laterRelief at later
            split at later
            · split at later
              · cases later
                exact .inl ⟨_, rfl⟩
              · cases later
                exact .inr ⟨input, List.mem_cons_self, blocked⟩
            · cases later
              exact .inr ⟨input, List.mem_cons_self, blocked⟩
          · exact .inr ⟨other, List.mem_cons_of_mem input mem, blocked'⟩
      case h_3 reason refused => cases round

/-- A round only fails with what a window is unavailable for. -/
theorem probeRound_error {start t : OffsetDateTime} (from_ : start ≤ t) (whole : t.WholeMilli)
    (fits : OffsetDateTime.earliest ≤ t) (rolls : ∀ input ∈ windows, input.RollsFrom start)
    {latest : Option (OffsetDateTime × QuotaWindowId)} {reason : PacingUnavailableReason}
    (round : probeRound need mode t latest windows = .error reason) (id : QuotaWindowId) :
    reason ≠ .nonAdvancingRelief id := by
  induction windows generalizing latest with
  | nil => cases round
  | cons input rest ih =>
      obtain ⟨rolls_here, rolls⟩ := List.forall_mem_cons.mp rolls
      rw [probeRound] at round
      split at round
      case h_1 => exact ih rolls round
      case h_2 reliefAt blocked =>
        obtain ⟨ahead, -⟩ := checkWindow_closed_until rolls_here from_ whole fits blocked
        rw [if_neg (not_le.mpr ahead)] at round
        exact ih rolls round
      case h_3 reason' refused =>
        cases round
        exact checkWindow_unavailable refused id

/-- Where the walk stands: at no whole millisecond passed does every window admit. -/
structure Reached (windows : List WindowInput) (need : Option QuotaAmount) (mode : ForecastMode)
    (start t : OffsetDateTime) : Prop where
  from_ : start ≤ t
  whole : t.WholeMilli
  passed : ∀ u : OffsetDateTime, u.WholeMilli → start ≤ u → u < t → ¬ AdmitsAll windows need mode u

theorem Reached.next {start t next : OffsetDateTime} (reached : Reached windows need mode start t)
    (fits : OffsetDateTime.earliest ≤ start) (rolls : ∀ input ∈ windows, input.RollsFrom start)
    {input : WindowInput} (mem : input ∈ windows)
    (blocked : checkWindow input need mode t = .blockedAt next) :
    Reached windows need mode start next := by
  obtain ⟨ahead, next_whole, closed⟩ := checkWindow_closed_until (rolls input mem) reached.from_
    reached.whole (le_trans fits reached.from_) blocked
  refine ⟨le_trans reached.from_ ahead.le, next_whole, ?_⟩
  intro u whole later early all
  rcases lt_or_ge u t with before | after
  · exact reached.passed u whole later before all
  · exact closed u whole after early (all input mem)

/-- The walk ends at the first instant every window admits, or names none. -/
theorem probe_spec {start t : OffsetDateTime} (reached : Reached windows need mode start t)
    (fits : OffsetDateTime.earliest ≤ start) (rolls : ∀ input ∈ windows, input.RollsFrom start)
    {limiting : Option QuotaWindowId} (first : limiting = none → t = start) (rounds : Nat) :
    (∀ instant, (probe windows need mode rounds t limiting).instant start = some instant →
        AdmitsAll windows need mode instant ∧ Reached windows need mode start instant) ∧
      ∀ id, probe windows need mode rounds t limiting ≠ .unavailable (.nonAdvancingRelief id) := by
  induction rounds generalizing t limiting with
  | zero => exact ⟨nofun, nofun⟩
  | succ rounds ih =>
      unfold probe
      cases round : probeRound need mode t none windows with
      | error reason =>
          have other := probeRound_error reached.from_ reached.whole (le_trans fits reached.from_)
            rolls round
          refine ⟨nofun, fun id same => ?_⟩
          cases same
          exact other id rfl
      | ok result =>
          obtain ⟨open_, names⟩ := probeRound_ok round
          cases result with
          | none =>
              obtain ⟨-, all⟩ := open_ rfl
              cases limiting with
              | none =>
                  have here := first rfl
                  subst here
                  refine ⟨?_, nofun⟩
                  intro instant named
                  cases named
                  exact ⟨all, reached⟩
              | some limiting =>
                  refine ⟨?_, nofun⟩
                  intro instant named
                  cases named
                  exact ⟨all, reached⟩
          | some latest =>
              obtain ⟨next, limiting'⟩ := latest
              rcases names next limiting' rfl with ⟨_, none_⟩ | ⟨input, mem, blocked⟩
              · cases none_
              · exact ih (reached.next fits rolls mem blocked) nofun

end Probe

theorem computeTaskNeed_error {windows : List QuotaWindow} {estimate : RemainingWorkEstimate}
    {contract : Option CompletionContract} {estimateForReserve : Option Estimate}
    {policy : AdmissionPolicy} {backoffNumerator backoffDenominator : Nat}
    {reason : PacingUnavailableReason}
    (failed : computeTaskNeed windows estimate contract estimateForReserve policy backoffNumerator
      backoffDenominator = .error reason) (id : QuotaWindowId) : reason ≠ .nonAdvancingRelief id := by
  unfold computeTaskNeed at failed
  split at failed
  · cases failed
    simp
  · cases failed
    simp
  split at failed
  · cases failed
  split at failed
  · cases failed
    simp
  rename_i first others _ _ _ _
  dsimp only at failed
  cases limits : smallestLimit (first :: others) with
  | none =>
      rw [limits] at failed
      cases failed
  | some found =>
      rw [limits] at failed
      dsimp only at failed
      split_ifs at failed
      cases failed
      simp

/-- The instant a forecast names is the first whole millisecond from `startAt` on at which every
window admits, and no window is found to name an instant that is not ahead. -/
theorem earliestSafeAdmit_first (windows : List WindowInput) (needEstimate : RemainingWorkEstimate)
    (policy : AdmissionPolicy) (contract : Option CompletionContract)
    (estimateForReserve : Option Estimate) (mode : ForecastMode)
    (backoffNumerator backoffDenominator : Nat) (startAt : OffsetDateTime)
    (fits : startAt.Representable) (whole : startAt.WholeMilli)
    (rolls : ∀ input ∈ windows, input.window.kind.Rolls)
    (past : ∀ input ∈ windows, ∀ u ∈ input.usage, u.occurredAt ≤ startAt) :
    (∀ t, (earliestSafeAdmit windows needEstimate policy contract estimateForReserve mode
          backoffNumerator backoffDenominator startAt).instant startAt = some t →
        ∃ need, computeTaskNeed (windows.map WindowInput.window) needEstimate contract
            estimateForReserve policy backoffNumerator backoffDenominator = .ok need ∧
          startAt ≤ t ∧ AdmitsAll windows need mode t ∧
          ∀ u : OffsetDateTime, u.WholeMilli → startAt ≤ u → u < t →
            ¬ AdmitsAll windows need mode u) ∧
      ∀ id, earliestSafeAdmit windows needEstimate policy contract estimateForReserve mode
        backoffNumerator backoffDenominator startAt ≠ .unavailable (.nonAdvancingRelief id) := by
  unfold earliestSafeAdmit
  split
  · exact ⟨nofun, nofun⟩
  split
  case h_1 reason failed =>
    refine ⟨nofun, fun id same => ?_⟩
    cases same
    exact computeTaskNeed_error failed id rfl
  case h_2 need needs =>
    have start : Reached windows need mode startAt startAt :=
      ⟨le_refl _, whole, fun u _ later early => absurd early (not_lt.mpr later)⟩
    obtain ⟨names, advances⟩ := probe_spec start fits.1
      (fun input mem => ⟨rolls input mem, past input mem⟩) (fun _ => rfl) maxProbeSteps
    refine ⟨?_, advances⟩
    intro t named
    obtain ⟨all, reached⟩ := names t named
    exact ⟨need, needs, reached.from_, all, reached.passed⟩

def minutePolicy : AdmissionPolicy where
  resource := ⟨.hard, ⟨.tokens, 100⟩, none, ⟨.tokens, 100⟩⟩
  time := ⟨.approval, 3600, none, none, none⟩
  qualityFloor := .first [⟨"done", true⟩]
  minConfidence := .low
  renewal := none
  turn := none

/-- Three more tokens out of the bucket that has three left: in a minute there is one more. -/
theorem minute_bucket_forecast :
    earliestSafeAdmit [⟨minuteBucket, [sevenTokens], [], []⟩] ⟨.quantiles .tokens ⟨.tokens, 3⟩, .high⟩
        minutePolicy none none .burst 1 1 (2 * OffsetDateTime.nanosPerSecond) =
      .at_ (61 * OffsetDateTime.nanosPerSecond) ⟨0⟩ ∧
    ∃ need, computeTaskNeed [minuteBucket] ⟨.quantiles .tokens ⟨.tokens, 3⟩, .high⟩ none none
        minutePolicy 1 1 = .ok need ∧
      AdmitsAll [⟨minuteBucket, [sevenTokens], [], []⟩] need .burst
        (61 * OffsetDateTime.nanosPerSecond) ∧
      ¬ AdmitsAll [⟨minuteBucket, [sevenTokens], [], []⟩] need .burst
        (60 * OffsetDateTime.nanosPerSecond) := by
  have names : earliestSafeAdmit [⟨minuteBucket, [sevenTokens], [], []⟩]
      ⟨.quantiles .tokens ⟨.tokens, 3⟩, .high⟩ minutePolicy none none .burst 1 1
      (2 * OffsetDateTime.nanosPerSecond) = .at_ (61 * OffsetDateTime.nanosPerSecond) ⟨0⟩ := by
    decide +kernel
  obtain ⟨first, -⟩ := earliestSafeAdmit_first [⟨minuteBucket, [sevenTokens], [], []⟩]
    ⟨.quantiles .tokens ⟨.tokens, 3⟩, .high⟩ minutePolicy none none .burst 1 1
    (2 * OffsetDateTime.nanosPerSecond) (by decide) (by decide)
    (List.forall_mem_singleton.mpr trivial) (List.forall_mem_singleton.mpr (by decide))
  rw [names] at first
  obtain ⟨need, needs, -, all, before⟩ := first _ rfl
  exact ⟨names, need, needs, all, before _ (by decide) (by decide) (by decide)⟩

end LibraGovernor
