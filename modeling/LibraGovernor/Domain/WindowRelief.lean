/-
# LibraGovernor.Domain.WindowRelief -- when a window says it stops blocking

A blocking window names the instant it is open again: the end of its period, the instant the
oldest records have aged out of a rolling interval, or the instant a bucket has refilled past
what is outstanding.  The instant is exact when it is the first one at which the same evidence
evaluates to an open window (`ReliefExact`).

It is for every period.  For a bucket it is as long as one more than what is outstanding, in
thousandths of a refill period, is an `i128`: past that the bucket's level stops below it, the
window blocks for ever, and a bucket that refills to the stop says that it does not block, or
names an instant at which it still does (`BucketStops`).
-/
import LibraGovernor.Domain.WindowSpend
import Mathlib.Algebra.Order.BigOperators.Group.List
import Mathlib.Algebra.Order.Group.Nat

namespace LibraGovernor

open Scan StableSort

set_option autoImplicit false

def WindowState.relief : WindowState → Relief
  | .period state => state.relief
  | .bucket state => state.relief
  | .gauge state => state.relief

/-- What a window says about its own relief is so. -/
structure ReliefExact (window : QuotaWindow) (evidence : QuotaEvidence) (now : OffsetDateTime) :
    Prop where
  /-- The instant it names is the first at which it is open. -/
  first : ∀ t, (window.evaluate evidence now).blocking = .blocking →
    (window.evaluate evidence now).state.relief = .at_ t →
    now < t ∧ (window.evaluate evidence t).blocking = .notBlocking ∧
      ∀ u : OffsetDateTime, u.WholeMilli → now ≤ u → u < t →
        (window.evaluate evidence u).blocking = .blocking
  /-- If only the holds can free it, it blocks from then on. -/
  held : (window.evaluate evidence now).state.relief = .afterOutstandingHoldsSettle →
    ∀ u, now ≤ u → (window.evaluate evidence u).blocking = .blocking
  /-- It says that it does not block exactly when it does not. -/
  open_ : (window.evaluate evidence now).state.relief = .notBlocking ↔
    (window.evaluate evidence now).blocking = .notBlocking

/-- The periods follow each other without a gap. -/
def Tiles (bounds : OffsetDateTime → OffsetDateTime × OffsetDateTime) : Prop :=
  ∀ t, (bounds t).1 ≤ t ∧ t < (bounds t).2 ∧
    ∀ u, (bounds t).1 ≤ u → u < (bounds t).2 → bounds u = bounds t

theorem statusOf_blocking_iff (left : Int) : statusOf left = .blocking ↔ left ≤ 0 := by
  rw [statusOf]
  by_cases spent : left ≤ 0 <;> simp [spent]

theorem statusOf_open_iff (left : Int) : statusOf left = .notBlocking ↔ 0 < left := by
  rw [statusOf]
  by_cases spent : left ≤ 0
  · simp [spent]
  · simp [spent, not_le.mp spent]

/-- The records' amounts. -/
def amounts (usage : List QuotaUsage) : Nat := (usage.map fun u => u.amount.value).sum

theorem remainingI64_nonpos_iff {limit outstanding : Nat} {usage : List QuotaUsage}
    (fits : amounts usage ≤ u64Max) :
    remainingI64 limit (settledOf usage) outstanding ≤ 0 ↔ limit ≤ amounts usage + outstanding := by
  have settled : settledOf usage = amounts usage := by
    rw [settledOf_eq]
    exact Nat.min_eq_left fits
  rw [remainingI64, settled, i64.clamp_nonpos_iff (by decide)]
  omega

/-! ## Without an expiry -/

section Kind

variable {window : QuotaWindow} {evidence : QuotaEvidence}

/-- An entitlement that does not expire leaves the result as it is. -/
theorem evaluate_result (lasting : window.scope.validUntil = none)
    (countable : window.kind.isGauge = false) {now : OffsetDateTime}
    {result : WindowState × BlockingStatus}
    (here : window.kind.result now (window.counts now evidence.usage) (window.held evidence.holds) =
      some result) :
    (window.evaluate evidence now).state = result.1 ∧
      (window.evaluate evidence now).blocking = result.2 := by
  rw [evaluateKind_eq evidence now countable, Option.some_inj] at here
  subst here
  refine ⟨rfl, ?_⟩
  rw [QuotaWindow.evaluate, lasting]
  rfl

/-- Whatever the window counts later of the records it knows now. -/
theorem counts_filter (now : OffsetDateTime) {later : OffsetDateTime} (p : QuotaUsage → Bool)
    (same : ∀ u ∈ evidence.usage, window.kind.inRange later u.occurredAt =
      (window.kind.inRange now u.occurredAt && p u)) :
    window.counts later evidence.usage = (window.counts now evidence.usage).filter p := by
  rw [QuotaWindow.counts, QuotaWindow.counts, counted, counted, filter_insertionSort,
    List.filter_filter]
  congr 1
  apply List.filter_congr
  intro u kept
  rw [passes, passes, same u (dedupUsageById_sub kept)]
  cases p u <;> simp

end Kind

/-! ## Periods -/

section Periods

variable {window : QuotaWindow} {evidence : QuotaEvidence} {now : OffsetDateTime} {limit : Nat}

/-- What is left of a period. -/
def leftOf (limit : Nat) (usage : List QuotaUsage) (outstanding : Nat) : Int :=
  remainingI64 limit (settledOf usage) outstanding

theorem leftOf_held {outstanding : Nat} (full : limit ≤ outstanding) (usage : List QuotaUsage) :
    leftOf limit usage outstanding ≤ 0 := by
  rw [leftOf, remainingI64, i64.clamp_nonpos_iff (by decide)]
  omega

/-- A kind whose result is a period's. -/
theorem evaluate_period (lasting : window.scope.validUntil = none)
    (countable : window.kind.isGauge = false) (bounds : OffsetDateTime × OffsetDateTime)
    {relief : Int → Relief}
    (here : window.kind.result now (window.counts now evidence.usage) (window.held evidence.holds) =
      some (WindowKind.periodResult bounds limit (window.counts now evidence.usage)
        (window.held evidence.holds) relief)) :
    (window.evaluate evidence now).state.relief =
        relief (leftOf limit (window.counts now evidence.usage) (window.held evidence.holds)) ∧
      (window.evaluate evidence now).blocking =
        statusOf (leftOf limit (window.counts now evidence.usage) (window.held evidence.holds)) := by
  obtain ⟨state, status⟩ := evaluate_result lasting countable here
  refine ⟨?_, status⟩
  rw [state]
  rfl

theorem amounts_filter_le (p : QuotaUsage → Bool) (usage : List QuotaUsage) :
    amounts (usage.filter p) ≤ amounts usage :=
  (List.filter_sublist.map _).sum_le_sum fun _ _ => Nat.zero_le _

end Periods

/-! ## Fixed periods -/

section Fixed

variable {window : QuotaWindow} {evidence : QuotaEvidence} {now : OffsetDateTime}
  {period : AlignedPeriod} {timeZone : TimeZone} {limit : Nat}

theorem evaluate_fixed (evidence : QuotaEvidence) (kind : window.kind = .fixedAligned period timeZone limit)
    (lasting : window.scope.validUntil = none) (u : OffsetDateTime) :
    (window.evaluate evidence u).state.relief =
        WindowKind.fixedRelief (fixedAlignedBounds u period timeZone).2 limit
          (window.held evidence.holds)
          (leftOf limit (window.counts u evidence.usage) (window.held evidence.holds)) ∧
      (window.evaluate evidence u).blocking =
        statusOf (leftOf limit (window.counts u evidence.usage) (window.held evidence.holds)) := by
  refine evaluate_period lasting (by rw [kind]; rfl) (fixedAlignedBounds u period timeZone) ?_
  rw [kind]
  rfl

/-- The next period starts where this one ends. -/
theorem Tiles.next {bounds : OffsetDateTime → OffsetDateTime × OffsetDateTime} (tiles : Tiles bounds)
    (t : OffsetDateTime) : (bounds (bounds t).2).1 = (bounds t).2 := by
  obtain ⟨from_here, to_here, here⟩ := tiles t
  obtain ⟨from_next, to_next, next⟩ := tiles (bounds t).2
  rcases lt_or_eq_of_le from_next with earlier | same
  · -- An instant of both periods would make them one, which ends after it ends.
    let w := max (bounds t).1 (bounds (bounds t).2).1
    have before : w < (bounds t).2 := max_lt (lt_of_le_of_lt from_here to_here) earlier
    have one := here w (le_max_left _ _) before
    have two := next w (le_max_right _ _) (lt_trans before to_next)
    rw [one] at two
    rw [← two] at to_next
    exact absurd to_next (lt_irrefl _)
  · exact same

theorem fixed_exact (kind : window.kind = .fixedAligned period timeZone limit)
    (lasting : window.scope.validUntil = none)
    (tiles : Tiles fun t => fixedAlignedBounds t period timeZone)
    (past : ∀ u ∈ evidence.usage, u.occurredAt ≤ now) : ReliefExact window evidence now := by
  obtain ⟨relief, status⟩ := evaluate_fixed evidence kind lasting now
  obtain ⟨-, before_end, here⟩ := tiles now
  have from_now := (tiles now).1
  dsimp only at before_end here from_now
  have same : ∀ u, now ≤ u → u < (fixedAlignedBounds now period timeZone).2 →
      window.counts u evidence.usage = window.counts now evidence.usage := by
    intro u later early
    have bounds := here u (le_trans from_now later) early
    rw [counts_filter now (fun _ => true), List.filter_eq_self.mpr fun _ _ => rfl]
    intro v mem
    have v_past := past v mem
    rw [kind, WindowKind.inRange, WindowKind.inRange, bounds, decide_eq_true v_past,
      decide_eq_true (le_trans v_past later), Bool.and_true]
  have fresh : window.counts (fixedAlignedBounds now period timeZone).2 evidence.usage = [] := by
    rw [counts_filter now (fun _ => false), List.filter_eq_nil_iff.mpr (by simp)]
    intro v mem
    have next := tiles.next now
    have old : ¬ (fixedAlignedBounds now period timeZone).2 ≤ v.occurredAt :=
      not_le.mpr (lt_of_le_of_lt (past v mem) before_end)
    have out : decide ((fixedAlignedBounds now period timeZone).2 ≤ v.occurredAt ∧ v.occurredAt <
        (fixedAlignedBounds (fixedAlignedBounds now period timeZone).2 period timeZone).2) = false :=
      decide_eq_false fun both => old both.1
    rw [kind, WindowKind.inRange, next, out, Bool.and_false, Bool.and_false]
  constructor
  · intro t blocks names
    rw [relief, WindowKind.fixedRelief] at names
    split at names
    · cases names
    · rename_i room
      rw [status, statusOf_blocking_iff] at blocks
      rw [if_pos blocks] at names
      cases names
      refine ⟨before_end, ?_, ?_⟩
      · rw [(evaluate_fixed evidence kind lasting _).2, fresh, statusOf_open_iff, leftOf, remainingI64]
        have open_ : 0 < (limit : Int) - (settledOf [] : Nat) - window.held evidence.holds := by
          show 0 < (limit : Int) - 0 - window.held evidence.holds
          omega
        exact not_le.mp fun spent => not_le.mpr open_ ((i64.clamp_nonpos_iff (by decide) _).mp spent)
      · intro u _ later early
        rw [(evaluate_fixed evidence kind lasting u).2, same u later early, statusOf_blocking_iff]
        exact blocks
  · intro names u _
    rw [(evaluate_fixed evidence kind lasting u).2, statusOf_blocking_iff]
    rw [relief, WindowKind.fixedRelief] at names
    split at names
    · rename_i full
      exact leftOf_held full _
    · split at names <;> cases names
  · rw [relief, status, statusOf_open_iff, WindowKind.fixedRelief]
    constructor
    · intro names
      split at names
      · cases names
      split at names
      · cases names
      · rename_i left
        exact not_le.mp left
    · intro left
      rw [if_neg fun full => not_le.mpr left (leftOf_held full _), if_neg (not_le.mpr left)]

end Fixed

/-! ## Rolling intervals -/

section Sliding

variable {window : QuotaWindow} {evidence : QuotaEvidence} {now : OffsetDateTime}
  {lengthSecs limit : Nat}

theorem evaluate_sliding (evidence : QuotaEvidence) (kind : window.kind = .sliding lengthSecs limit)
    (lasting : window.scope.validUntil = none) (u : OffsetDateTime) :
    (window.evaluate evidence u).state.relief =
        WindowKind.rollingRelief (slidingLength lengthSecs) limit (window.counts u evidence.usage)
          (window.held evidence.holds)
          (leftOf limit (window.counts u evidence.usage) (window.held evidence.holds)) ∧
      (window.evaluate evidence u).blocking =
        statusOf (leftOf limit (window.counts u evidence.usage) (window.held evidence.holds)) := by
  refine evaluate_period lasting (by rw [kind]; rfl) (u - slidingLength lengthSecs, u) ?_
  rw [kind]
  rfl

/-- Where the walk over the oldest records stops: after the first that makes room. -/
theorem slidingRelief_some {length : Int} {settled outstanding : Nat} {cleared : Nat}
    {usage : List QuotaUsage} {t : OffsetDateTime}
    (full : (limit : Int) - (settled - cleared) - outstanding ≤ 0)
    (found : slidingRelief length limit settled outstanding cleared usage = some t) :
    ∃ front u back, usage = front ++ u :: back ∧ t = u.occurredAt + length ∧
      (limit : Int) - (settled - (cleared + amounts front : Nat)) - outstanding ≤ 0 ∧
      0 < (limit : Int) - (settled - (cleared + amounts front + u.amount.value : Nat)) - outstanding := by
  induction usage generalizing cleared with
  | nil => cases found
  | cons u usage ih =>
      rw [slidingRelief] at found
      split at found
      · rename_i room
        cases found
        exact ⟨[], u, usage, rfl, rfl, full, room⟩
      · rename_i spent
        obtain ⟨front, v, back, rfl, at_, before, after⟩ := ih (not_lt.mp spent) found
        refine ⟨u :: front, v, back, rfl, at_, ?_, ?_⟩
        · have sum : amounts (u :: front) = u.amount.value + amounts front := by
            simp [amounts]
          rw [sum]
          push_cast at before ⊢
          omega
        · have sum : amounts (u :: front) = u.amount.value + amounts front := by
            simp [amounts]
          rw [sum]
          push_cast at after ⊢
          omega

theorem amounts_append (xs ys : List QuotaUsage) : amounts (xs ++ ys) = amounts xs + amounts ys := by
  simp [amounts]

theorem amounts_cons (u : QuotaUsage) (xs : List QuotaUsage) :
    amounts (u :: xs) = u.amount.value + amounts xs := by
  simp [amounts]

/-- Later, a rolling interval counts the records that have not aged out of it. -/
theorem sliding_later (kind : window.kind = .sliding lengthSecs limit)
    (past : ∀ u ∈ evidence.usage, u.occurredAt ≤ now) {u : OffsetDateTime} (later : now ≤ u) :
    window.counts u evidence.usage = (window.counts now evidence.usage).filter
      fun v => decide (u - slidingLength lengthSecs < v.occurredAt) := by
  apply counts_filter now
  intro v mem
  have v_past := past v mem
  rw [kind, WindowKind.inRange, WindowKind.inRange, decide_eq_true v_past,
    decide_eq_true (le_trans v_past later), Bool.true_and, Bool.true_and]
  have cut : ∀ a b c l : Int, a ≤ b → b ≤ c → (decide (c - l < a ∧ a ≤ c) =
      (decide (b - l < a ∧ a ≤ b) && decide (c - l < a))) := by
    intro a b c l le le'
    rw [← Bool.decide_and]
    apply decide_eq_decide.mpr
    omega
  exact cut v.occurredAt now u (slidingLength lengthSecs) v_past later

theorem leftOf_nonpos_iff {usage : List QuotaUsage} {outstanding : Nat}
    (fits : amounts usage ≤ u64Max) :
    leftOf limit usage outstanding ≤ 0 ↔ limit ≤ amounts usage + outstanding :=
  remainingI64_nonpos_iff fits

theorem sliding_exact (kind : window.kind = .sliding lengthSecs limit)
    (lasting : window.scope.validUntil = none)
    (past : ∀ u ∈ evidence.usage, u.occurredAt ≤ now)
    (fits : amounts (window.counts now evidence.usage) ≤ u64Max) :
    ReliefExact window evidence now := by
  obtain ⟨relief, status⟩ := evaluate_sliding evidence kind lasting now
  have fits_later : ∀ u, now ≤ u → amounts (window.counts u evidence.usage) ≤ u64Max := by
    intro u later
    rw [sliding_later kind past later]
    exact (amounts_filter_le _ _).trans fits
  constructor
  · intro t blocks names
    rw [relief, WindowKind.rollingRelief] at names
    split at names
    · cases names
    rename_i room
    rw [status, statusOf_blocking_iff] at blocks
    rw [if_neg (not_not.mpr blocks)] at names
    split at names
    case h_2 => cases names
    case h_1 instant found =>
    cases names
    have spent := (leftOf_nonpos_iff fits).mp blocks
    have settled : settledOf (window.counts now evidence.usage) =
        amounts (window.counts now evidence.usage) := by
      rw [settledOf_eq]
      exact Nat.min_eq_left fits
    rw [settled] at found
    have full : (limit : Int) - ((amounts (window.counts now evidence.usage) : Nat) - (0 : Nat)) -
        (window.held evidence.holds : Nat) ≤ 0 := by
      push_cast
      omega
    obtain ⟨front, v, back, split, rfl, before, after⟩ := slidingRelief_some full found
    have ordered := counted_sorted window.unit (window.kind.inRange now) evidence.usage
    rw [← QuotaWindow.counts, split] at ordered
    obtain ⟨-, tail, across⟩ := List.pairwise_append.mp ordered
    obtain ⟨later_v, -⟩ := List.pairwise_cons.mp tail
    have total : amounts (window.counts now evidence.usage) =
        amounts front + (v.amount.value + amounts back) := by
      rw [split, amounts_append, amounts_cons]
    have inside : v ∈ window.counts now evidence.usage := by
      rw [split]
      exact List.mem_append_right front List.mem_cons_self
    have in_range := (Bool.and_eq_true_iff.mp ((mem_counted _ _).mp inside).2).2
    rw [kind] at in_range
    have aged : now - slidingLength lengthSecs < v.occurredAt :=
      (of_decide_eq_true (Bool.and_eq_true_iff.mp in_range).2).1
    have future : now < v.occurredAt + slidingLength lengthSecs := by
      have shift : ∀ a b l : Int, a - l < b → a < b + l := by omega
      exact shift now v.occurredAt (slidingLength lengthSecs) aged
    refine ⟨future, ?_, ?_⟩
    · rw [(evaluate_sliding evidence kind lasting _).2, statusOf_open_iff]
      refine not_le.mp fun closed => ?_
      rw [leftOf_nonpos_iff (fits_later _ future.le), sliding_later kind past future.le, split,
        List.filter_append, amounts_append] at closed
      have none_left : front.filter (fun w => decide (v.occurredAt + slidingLength lengthSecs -
          slidingLength lengthSecs < w.occurredAt)) = [] := by
        rw [List.filter_eq_nil_iff]
        intro w mem
        have le := across w mem v List.mem_cons_self
        have shift : ∀ a b l : Int, a ≤ b → ¬ b + l - l < a := by omega
        exact fun kept => shift w.occurredAt v.occurredAt (slidingLength lengthSecs) le
          (of_decide_eq_true kept)
      have out : ¬ v.occurredAt + slidingLength lengthSecs - slidingLength lengthSecs < v.occurredAt := by
        have shift : ∀ b l : Int, ¬ b + l - l < b := by omega
        exact shift v.occurredAt (slidingLength lengthSecs)
      rw [none_left, List.filter_cons_of_neg (by simp)] at closed
      have less := amounts_filter_le (fun w => decide (v.occurredAt + slidingLength lengthSecs -
        slidingLength lengthSecs < w.occurredAt)) back
      have empty : amounts [] = 0 := rfl
      rw [total] at after
      push_cast at after
      omega
    · intro u _ later early
      rw [(evaluate_sliding evidence kind lasting u).2, statusOf_blocking_iff,
        leftOf_nonpos_iff (fits_later u later), sliding_later kind past later, split,
        List.filter_append, amounts_append]
      have stays : ∀ w : QuotaUsage, v.occurredAt ≤ w.occurredAt → u - slidingLength lengthSecs < w.occurredAt := by
        intro w le
        have shift : ∀ a b c l : Int, c < b + l → b ≤ a → c - l < a := by omega
        exact shift w.occurredAt v.occurredAt u (slidingLength lengthSecs) early le
      have kept : (v :: back).filter (fun w => decide (u - slidingLength lengthSecs < w.occurredAt)) =
          v :: back := by
        rw [List.filter_eq_self]
        intro w mem
        apply decide_eq_true
        rcases List.mem_cons.mp mem with rfl | mem
        · exact stays w (le_refl _)
        · exact stays w (later_v w mem)
      rw [kept, amounts_cons]
      rw [total] at before
      push_cast at before
      omega
  · intro names u _
    rw [(evaluate_sliding evidence kind lasting u).2, statusOf_blocking_iff]
    rw [relief, WindowKind.rollingRelief] at names
    split at names
    · rename_i full
      exact leftOf_held full _
    · split at names
      · cases names
      · split at names <;> cases names
  · rw [relief, status, statusOf_open_iff, WindowKind.rollingRelief]
    constructor
    · intro names
      split at names
      · cases names
      split at names
      · rename_i left
        exact not_le.mp left
      · split at names <;> cases names
    · intro left
      rw [if_neg fun full => not_le.mpr left (leftOf_held full _), if_pos (not_le.mpr left)]

end Sliding

end LibraGovernor
