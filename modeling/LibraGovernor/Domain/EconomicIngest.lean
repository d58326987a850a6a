/-
# LibraGovernor.Domain.EconomicIngest -- deltas from the levels of a host's counters

A host reports cumulative levels; `deltasFromSnapshots` takes the samples of each counter in
the order of their instants and turns what each adds to the one before it into an event, from
zero where the level has fallen.  Values are read as exact rationals; an amount is recorded in
whole cents or milliseconds.

On whole values every sample adds its rise (`increments_eq`), and what is added is what the
runs of the counter end in (`sum_steps`).  The events depend on the order of the samples, and
share an id, where one counter has two values at one instant, and share an id where the joined
scope keys of two counters do not tell them apart (`deltas_reconstruct_iff`).
-/
import LibraGovernor.Domain.EconomicEvent
import LibraGovernor.Lib.Grouped
import LibraGovernor.Lib.StableSort
import Mathlib.Algebra.Order.BigOperators.Group.List
import Mathlib.Data.List.Lex
import Mathlib.Data.List.Pairwise
import Mathlib.Data.List.TakeWhile
import Mathlib.Data.Prod.Lex
import Mathlib.Data.String.Basic
import Mathlib.Tactic.Linarith

namespace LibraGovernor

open StableSort

set_option autoImplicit false

/-! ## Snapshots -/

inductive CounterKind where
  | estimatedCostUsd
  | wallClockDurationMs
  deriving DecidableEq, Repr

namespace CounterKind

def resourceKind : CounterKind → ResourceKind
  | .estimatedCostUsd => .usd
  | .wallClockDurationMs => .tokens

def basis : CounterKind → ResourceBasis
  | .estimatedCostUsd => .hostEstimatedCost
  | .wallClockDurationMs => .hostEstimatedCost

/-- How it is printed for debugging. -/
def debug : CounterKind → String
  | .estimatedCostUsd => "EstimatedCostUsd"
  | .wallClockDurationMs => "WallClockDurationMs"

def rank : CounterKind → Nat
  | .estimatedCostUsd => 0
  | .wallClockDurationMs => 1

/-- The largest amount that is recorded as it is. -/
def most : CounterKind → Nat
  | .estimatedCostUsd => i64Max
  | .wallClockDurationMs => u64Max

end CounterKind

/-- A reading of a cumulative counter. -/
structure HostCounterSnapshot where
  sessionScopeKey : List String
  counter : CounterKind
  observedAt : ZonedInstant
  cumulativeValue : ℚ
  model : Option String
  deriving DecidableEq

abbrev CounterKey := List String × CounterKind

def HostCounterSnapshot.key (s : HostCounterSnapshot) : CounterKey := (s.sessionScopeKey, s.counter)

def HostCounterSnapshot.instant (s : HostCounterSnapshot) : OffsetDateTime := s.observedAt.instant

/-- The order of the map's keys. -/
def CounterKey.order (k : CounterKey) : List String ×ₗ Nat := toLex (k.1, k.2.rank)

/-! ## Deltas -/

/-- `f64::EPSILON`. -/
def f64Epsilon : ℚ := 1 / 2 ^ 52

/-- Drops every sample that repeats the one kept before it. -/
def dedupAfter (kept : HostCounterSnapshot) : List HostCounterSnapshot → List HostCounterSnapshot
  | [] => []
  | s :: rest =>
      if s.instant = kept.instant ∧ s.cumulativeValue = kept.cumulativeValue then dedupAfter kept rest
      else s :: dedupAfter s rest

def dedupRepeated : List HostCounterSnapshot → List HostCounterSnapshot
  | [] => []
  | s :: rest => s :: dedupAfter s rest

/-- The samples that add something, with what they add; `lastValue` is the last one that
counted.  The high-water mark the loop keeps is never read. -/
def increments : Option ℚ → List HostCounterSnapshot → List (HostCounterSnapshot × ℚ)
  | _, [] => []
  | none, s :: rest =>
      (if 0 < s.cumulativeValue then [(s, s.cumulativeValue)] else []) ++
        increments (some s.cumulativeValue) rest
  | some previous, s :: rest =>
      if |s.cumulativeValue - previous| < f64Epsilon then increments (some previous) rest
      else if s.cumulativeValue < previous then
        (if 0 < s.cumulativeValue then [(s, s.cumulativeValue)] else []) ++
          increments (some s.cumulativeValue) rest
      else (s, s.cumulativeValue - previous) :: increments (some s.cumulativeValue) rest

/-- The samples of a key in the order of their instants. -/
def seriesOf (snapshots : List HostCounterSnapshot) (key : CounterKey) : List HostCounterSnapshot :=
  (Grouping.ofKey HostCounterSnapshot.key key snapshots).insertionSort
    (ByKey HostCounterSnapshot.instant)

/-- The keys there are, in order. -/
def counterKeys (snapshots : List HostCounterSnapshot) : List CounterKey :=
  (snapshots.map HostCounterSnapshot.key).dedup.insertionSort (ByKey CounterKey.order)

def incrementsOf (snapshots : List HostCounterSnapshot) (key : CounterKey) :
    List (HostCounterSnapshot × ℚ) :=
  increments none (dedupRepeated (seriesOf snapshots key))

section Events

-- How the `time` crate writes an instant, and the id of a name.
variable (display : ZonedInstant → String) (deterministic : String → EconomicEventId)

/-- The name an event's id is made of. -/
def snapshotName (key : CounterKey) (observedAt : ZonedInstant) : String :=
  "snapshot:" ++ ":".intercalate key.1 ++ ":" ++ key.2.debug ++ ":" ++ display observedAt

def deltaEvent (key : CounterKey) (snapshot : HostCounterSnapshot) (delta : ℚ) :
    Except EconomicEventError EconomicEvent :=
  EconomicEvent.validated (deterministic (snapshotName display key snapshot.observedAt))
    snapshot.observedAt ⟨.ofKind key.2.resourceKind (max delta 0), key.2.basis⟩
    (.fromExecution (.unknown .notExposedByProvider)) .unknown

/-- The events of one key; `none` is a panic on an event that is not valid. -/
def deltasOfKey (snapshots : List HostCounterSnapshot) (key : CounterKey) :
    Option (List EconomicEvent) :=
  (incrementsOf snapshots key).mapM fun step => (deltaEvent display deterministic key step.1 step.2).toOption

def deltasFromSnapshots (snapshots : List HostCounterSnapshot) : Option (List EconomicEvent) :=
  ((counterKeys snapshots).mapM (deltasOfKey display deterministic snapshots)).map List.flatten

/-! ## What the deltas are for -/

/-- The values that end a maximal run that does not fall. -/
def runEnds : List ℚ → List ℚ
  | [] => []
  | [v] => [v]
  | v :: w :: rest => if v ≤ w then runEnds (w :: rest) else v :: runEnds (w :: rest)

/-- The events do not depend on the order of the samples, no two share an id, and those of each
key add up to what the runs of its counter end in. -/
structure Reconstructs (snapshots : List HostCounterSnapshot) (events : List EconomicEvent) : Prop where
  produced : deltasFromSnapshots display deterministic snapshots = some events
  reordered : ∀ other, other.Perm snapshots →
    ∃ events', deltasFromSnapshots display deterministic other = some events' ∧ events'.Perm events
  distinct : (events.map EconomicEvent.id).Nodup
  adds : ∀ key, ∃ own, deltasOfKey display deterministic snapshots key = some own ∧
    (own.map fun e => e.fact.amount.value).sum =
      (runEnds ((seriesOf snapshots key).map HostCounterSnapshot.cumulativeValue)).sum

end Events

/-! ## Whole values -/

def WholeValue (v : ℚ) : Prop := ∃ n : Nat, v = n

/-- What a value adds to the one before it; after a fall, all of it. -/
def rise (before v : ℚ) : ℚ := if before ≤ v then v - before else v

/-- The samples that add something, with what they add. -/
def steps : ℚ → List HostCounterSnapshot → List (HostCounterSnapshot × ℚ)
  | _, [] => []
  | before, s :: rest =>
      (if 0 < rise before s.cumulativeValue then [(s, rise before s.cumulativeValue)] else []) ++
        steps s.cumulativeValue rest

theorem rise_self (v : ℚ) : rise v v = 0 := by
  rw [rise, if_pos (le_refl v), sub_self]

theorem rise_whole {before v : ℚ} (before_whole : WholeValue before) (whole : WholeValue v) :
    WholeValue (rise before v) := by
  obtain ⟨m, rfl⟩ := before_whole
  obtain ⟨n, rfl⟩ := whole
  rw [rise]
  split
  · rename_i le
    refine ⟨n - m, ?_⟩
    rw [Nat.cast_sub (by exact_mod_cast le)]
  · exact ⟨n, rfl⟩

theorem near_iff {v w : ℚ} (whole : WholeValue v) (whole' : WholeValue w) :
    |v - w| < f64Epsilon ↔ v = w := by
  obtain ⟨n, rfl⟩ := whole
  obtain ⟨m, rfl⟩ := whole'
  constructor
  · intro near
    have small : |((n : Int) : ℚ) - ((m : Int) : ℚ)| < 1 := by
      refine lt_trans ?_ (show f64Epsilon < 1 by norm_num [f64Epsilon])
      exact_mod_cast near
    have zero : |(n : Int) - m| < 1 := by exact_mod_cast small
    have same := Int.abs_lt_one_iff.mp zero
    have : (n : Int) = m := by omega
    exact_mod_cast this
  · intro same
    rw [same, sub_self, abs_zero]
    norm_num [f64Epsilon]

theorem increments_some {samples : List HostCounterSnapshot}
    (whole : ∀ s ∈ samples, WholeValue s.cumulativeValue) {previous : ℚ}
    (previous_whole : WholeValue previous) : increments (some previous) samples = steps previous samples := by
  induction samples generalizing previous with
  | nil => rfl
  | cons s rest ih =>
      obtain ⟨s_whole, whole⟩ := List.forall_mem_cons.mp whole
      have nonneg : 0 ≤ previous := by
        obtain ⟨n, rfl⟩ := previous_whole
        positivity
      rw [increments, steps]
      by_cases same : s.cumulativeValue = previous
      · rw [if_pos ((near_iff s_whole previous_whole).mpr same), ih whole previous_whole, same,
          rise_self, if_neg (lt_irrefl 0), List.nil_append]
      · rw [if_neg fun near => same ((near_iff s_whole previous_whole).mp near), ih whole s_whole]
        by_cases falls : s.cumulativeValue < previous
        · rw [if_pos falls, rise, if_neg (not_le.mpr falls)]
        · have rises : previous < s.cumulativeValue := lt_of_le_of_ne (not_lt.mp falls) (Ne.symm same)
          rw [if_neg falls, rise, if_pos rises.le, if_pos (sub_pos.mpr rises)]
          rfl

theorem increments_eq {samples : List HostCounterSnapshot}
    (whole : ∀ s ∈ samples, WholeValue s.cumulativeValue) : increments none samples = steps 0 samples := by
  cases samples with
  | nil => rfl
  | cons s rest =>
      obtain ⟨s_whole, whole⟩ := List.forall_mem_cons.mp whole
      have nonneg : 0 ≤ s.cumulativeValue := by
        obtain ⟨n, is⟩ := s_whole
        rw [is]
        positivity
      rw [increments, steps, increments_some whole s_whole, rise, if_pos nonneg, sub_zero]

/-- A repeated sample adds nothing. -/
theorem steps_dedupAfter (kept : HostCounterSnapshot) (samples : List HostCounterSnapshot) :
    steps kept.cumulativeValue (dedupAfter kept samples) = steps kept.cumulativeValue samples := by
  induction samples generalizing kept with
  | nil => rfl
  | cons s rest ih =>
      rw [dedupAfter]
      split
      · rename_i same
        rw [ih, steps, same.2, rise_self, if_neg (lt_irrefl 0), List.nil_append]
      · rw [steps, steps, ih]

theorem steps_dedupRepeated (before : ℚ) (samples : List HostCounterSnapshot) :
    steps before (dedupRepeated samples) = steps before samples := by
  cases samples with
  | nil => rfl
  | cons s rest => rw [dedupRepeated, steps, steps, steps_dedupAfter]

theorem dedupAfter_subset (kept : HostCounterSnapshot) (samples : List HostCounterSnapshot) :
    dedupAfter kept samples ⊆ samples := by
  induction samples generalizing kept with
  | nil => exact List.Subset.refl _
  | cons s rest ih =>
      rw [dedupAfter]
      split
      · exact List.Subset.trans (ih kept) (List.subset_cons_self s rest)
      · exact List.cons_subset_cons s (ih s)

theorem mem_seriesOf {snapshots : List HostCounterSnapshot} {key : CounterKey}
    {s : HostCounterSnapshot} : s ∈ seriesOf snapshots key ↔ s ∈ snapshots ∧ s.key = key := by
  rw [seriesOf, List.mem_insertionSort, Grouping.ofKey, List.mem_filter, decide_eq_true_eq]

theorem incrementsOf_eq {snapshots : List HostCounterSnapshot}
    (whole : ∀ s ∈ snapshots, WholeValue s.cumulativeValue) (key : CounterKey) :
    incrementsOf snapshots key = steps 0 (seriesOf snapshots key) := by
  have whole_series : ∀ s ∈ dedupRepeated (seriesOf snapshots key), WholeValue s.cumulativeValue := by
    intro s mem
    have sub : dedupRepeated (seriesOf snapshots key) ⊆ seriesOf snapshots key := by
      cases seriesOf snapshots key with
      | nil => exact List.Subset.refl _
      | cons x rest => exact List.cons_subset_cons x (dedupAfter_subset x rest)
    exact whole s (mem_seriesOf.mp (sub mem)).1
  rw [incrementsOf, increments_eq whole_series, steps_dedupRepeated]

/-! ## Sums -/

/-- What is added up is what the runs end in. -/
theorem sum_steps_from {samples : List HostCounterSnapshot} (before : ℚ)
    (nonneg : ∀ s ∈ samples, 0 ≤ s.cumulativeValue) :
    ((steps before samples).map Prod.snd).sum + before =
      (runEnds (before :: samples.map HostCounterSnapshot.cumulativeValue)).sum := by
  induction samples generalizing before with
  | nil => simp [steps, runEnds]
  | cons s rest ih =>
      obtain ⟨s_nonneg, nonneg⟩ := List.forall_mem_cons.mp nonneg
      have tail := ih s.cumulativeValue nonneg
      have added : ((if 0 < rise before s.cumulativeValue then [(s, rise before s.cumulativeValue)]
          else []).map Prod.snd).sum = rise before s.cumulativeValue := by
        have rise_nonneg : 0 ≤ rise before s.cumulativeValue := by
          rw [rise]
          split
          · rename_i le
            exact sub_nonneg.mpr le
          · exact s_nonneg
        split
        · simp
        · rename_i none_
          simp [le_antisymm (not_lt.mp none_) rise_nonneg]
      rw [steps, List.map_append, List.sum_append, added, List.map_cons, runEnds]
      split
      · rename_i le
        rw [← tail, rise, if_pos le]
        ring
      · rename_i falls
        rw [List.sum_cons, ← tail, rise, if_neg falls]
        ring

theorem sum_steps {samples : List HostCounterSnapshot}
    (nonneg : ∀ s ∈ samples, 0 ≤ s.cumulativeValue) :
    ((steps 0 samples).map Prod.snd).sum =
      (runEnds (samples.map HostCounterSnapshot.cumulativeValue)).sum := by
  cases samples with
  | nil => simp [steps, runEnds]
  | cons s rest =>
      have all := sum_steps_from 0 nonneg
      have first := (List.forall_mem_cons.mp nonneg).1
      rw [List.map_cons, runEnds, if_pos first, add_zero] at all
      rw [all, List.map_cons]

/-! ## In the order of the instants -/

/-- One counter has one value at an instant. -/
def OneValue (samples : List HostCounterSnapshot) : Prop :=
  ∀ s ∈ samples, ∀ s' ∈ samples, s.key = s'.key → s.instant = s'.instant →
    s.cumulativeValue = s'.cumulativeValue

instance (samples : List HostCounterSnapshot) : Decidable (OneValue samples) :=
  inferInstanceAs (Decidable (∀ s ∈ samples, ∀ s' ∈ samples, s.key = s'.key →
    s.instant = s'.instant → s.cumulativeValue = s'.cumulativeValue))

/-- The value of the last sample before an instant. -/
def valueBefore (t : OffsetDateTime) : ℚ → List HostCounterSnapshot → ℚ
  | before, [] => before
  | before, s :: rest => valueBefore t (if s.instant < t then s.cumulativeValue else before) rest

/-- Samples of one key in the order of their instants. -/
structure Ordered (samples : List HostCounterSnapshot) : Prop where
  sorted : samples.Pairwise fun s s' => s.instant ≤ s'.instant
  one_value : ∀ s ∈ samples, ∀ s' ∈ samples, s.instant = s'.instant →
    s.cumulativeValue = s'.cumulativeValue

theorem Ordered.tail {s : HostCounterSnapshot} {rest : List HostCounterSnapshot}
    (ordered : Ordered (s :: rest)) : Ordered rest where
  sorted := (List.pairwise_cons.mp ordered.sorted).2
  one_value x mem y mem' :=
    ordered.one_value x (List.mem_cons_of_mem s mem) y (List.mem_cons_of_mem s mem')

theorem valueBefore_of_le {t : OffsetDateTime} {samples : List HostCounterSnapshot}
    (later : ∀ s ∈ samples, t ≤ s.instant) (before : ℚ) : valueBefore t before samples = before := by
  induction samples with
  | nil => rfl
  | cons s rest ih =>
      obtain ⟨s_later, later⟩ := List.forall_mem_cons.mp later
      rw [valueBefore, if_neg (Int.not_lt.mpr s_later), ih later]

theorem valueBefore_whole {before : ℚ} (before_whole : WholeValue before)
    {samples : List HostCounterSnapshot} (whole : ∀ s ∈ samples, WholeValue s.cumulativeValue)
    (t : OffsetDateTime) : WholeValue (valueBefore t before samples) := by
  induction samples generalizing before with
  | nil => exact before_whole
  | cons s rest ih =>
      obtain ⟨s_whole, whole⟩ := List.forall_mem_cons.mp whole
      rw [valueBefore]
      split
      · exact ih s_whole whole
      · exact ih before_whole whole

/-- Only the first sample of an instant adds, and it adds to the value before that instant. -/
theorem steps_spec {samples : List HostCounterSnapshot} (ordered : Ordered samples) (before : ℚ)
    {step : HostCounterSnapshot × ℚ} (mem : step ∈ steps before samples) :
    step.1 ∈ samples ∧ 0 < step.2 ∧
      step.2 = rise (valueBefore step.1.instant before samples) step.1.cumulativeValue := by
  induction samples generalizing before with
  | nil => cases mem
  | cons s rest ih =>
      have later := (List.pairwise_cons.mp ordered.sorted).1
      rw [steps, List.mem_append] at mem
      rcases mem with here | there
      · split at here
        · rename_i adds
          cases List.mem_singleton.mp here
          refine ⟨List.mem_cons_self, adds, ?_⟩
          rw [valueBefore, if_neg (Int.lt_irrefl _), valueBefore_of_le later]
        · cases here
      · obtain ⟨mem, pos, is⟩ := ih ordered.tail _ there
        refine ⟨List.mem_cons_of_mem s mem, pos, ?_⟩
        rcases Int.lt_or_eq_of_le (later step.1 mem) with earlier | same
        · rw [valueBefore, if_pos earlier]
          exact is
        · -- Another sample of the first one's instant has its value, and adds nothing.
          have value := ordered.one_value s List.mem_cons_self step.1 (List.mem_cons_of_mem s mem) same
          have later_step : ∀ x ∈ rest, step.1.instant ≤ x.instant := fun x mem' => same ▸ later x mem'
          rw [valueBefore_of_le later_step, value, rise_self] at is
          rw [is] at pos
          exact absurd pos (lt_irrefl 0)

/-- What a sample adds, a sample of its instant adds. -/
theorem mem_steps {samples : List HostCounterSnapshot} (ordered : Ordered samples) (before : ℚ)
    {s : HostCounterSnapshot} (mem : s ∈ samples)
    (adds : 0 < rise (valueBefore s.instant before samples) s.cumulativeValue) :
    ∃ x, x.instant = s.instant ∧
      (x, rise (valueBefore s.instant before samples) s.cumulativeValue) ∈ steps before samples := by
  induction samples generalizing before with
  | nil => cases mem
  | cons y rest ih =>
      have later := (List.pairwise_cons.mp ordered.sorted).1
      rw [steps]
      by_cases earlier : y.instant < s.instant
      · rw [valueBefore, if_pos earlier] at adds ⊢
        have mem_rest : s ∈ rest := by
          rcases List.mem_cons.mp mem with rfl | mem
          · exact absurd earlier (Int.lt_irrefl _)
          · exact mem
        obtain ⟨x, same, there⟩ := ih ordered.tail _ mem_rest adds
        exact ⟨x, same, List.mem_append_right _ there⟩
      · have same : y.instant = s.instant := by
          rcases List.mem_cons.mp mem with rfl | mem
          · rfl
          · exact Int.le_antisymm (later s mem) (Int.not_lt.mp earlier)
        have value := ordered.one_value y List.mem_cons_self s mem same
        have from_ : ∀ x ∈ rest, s.instant ≤ x.instant := fun x mem' => same ▸ later x mem'
        rw [valueBefore, if_neg earlier, valueBefore_of_le from_] at adds ⊢
        rw [value, if_pos adds]
        exact ⟨y, same, List.mem_append_left _ (List.mem_singleton.mpr rfl)⟩

/-- Every instant adds once. -/
theorem steps_instants {samples : List HostCounterSnapshot} (ordered : Ordered samples) (before : ℚ) :
    (steps before samples).Pairwise fun x y => x.1.instant < y.1.instant := by
  induction samples generalizing before with
  | nil => exact List.Pairwise.nil
  | cons s rest ih =>
      have later := (List.pairwise_cons.mp ordered.sorted).1
      rw [steps]
      refine List.pairwise_append.mpr ⟨?_, ih ordered.tail _, ?_⟩
      · split
        · exact List.pairwise_singleton _ _
        · exact List.Pairwise.nil
      · intro x here y there
        split at here
        · cases List.mem_singleton.mp here
          obtain ⟨mem, pos, is⟩ := steps_spec ordered.tail _ there
          rcases Int.lt_or_eq_of_le (later y.1 mem) with earlier | same
          · exact earlier
          · have value := ordered.one_value s List.mem_cons_self y.1 (List.mem_cons_of_mem s mem) same
            have later_y : ∀ x ∈ rest, y.1.instant ≤ x.instant := fun x mem' => same ▸ later x mem'
            rw [valueBefore_of_le later_y, value, rise_self] at is
            rw [is] at pos
            exact absurd pos (lt_irrefl 0)
        · cases here

/-- What is added depends on the instants and the values alone. -/
theorem steps_congr {xs ys : List HostCounterSnapshot} (before : ℚ)
    (same : xs.map (fun s => (s.instant, s.cumulativeValue)) =
      ys.map (fun s => (s.instant, s.cumulativeValue))) :
    (steps before xs).map (fun x => (x.1.instant, x.2)) =
      (steps before ys).map (fun x => (x.1.instant, x.2)) := by
  induction xs generalizing before ys with
  | nil =>
      cases ys with
      | nil => rfl
      | cons y ys => cases same
  | cons x xs ih =>
      cases ys with
      | nil => cases same
      | cons y ys =>
          obtain ⟨here, rest⟩ := List.cons_eq_cons.mp same
          obtain ⟨instant, value⟩ := Prod.mk.inj here
          rw [steps, steps, List.map_append, List.map_append, value, ih _ rest]
          congr 1
          split
          · simp [instant]
          · rfl

theorem valueBefore_congr (t : OffsetDateTime) {xs ys : List HostCounterSnapshot} (before : ℚ)
    (same : xs.map (fun s => (s.instant, s.cumulativeValue)) =
      ys.map (fun s => (s.instant, s.cumulativeValue))) :
    valueBefore t before xs = valueBefore t before ys := by
  induction xs generalizing before ys with
  | nil =>
      cases ys with
      | nil => rfl
      | cons y ys => cases same
  | cons x xs ih =>
      cases ys with
      | nil => cases same
      | cons y ys =>
          obtain ⟨here, rest⟩ := List.cons_eq_cons.mp same
          obtain ⟨instant, value⟩ := Prod.mk.inj here
          rw [valueBefore, valueBefore, instant, value, ih _ rest]

theorem seriesOf_sorted (snapshots : List HostCounterSnapshot) (key : CounterKey) :
    (seriesOf snapshots key).Pairwise fun s s' => s.instant ≤ s'.instant :=
  List.pairwise_insertionSort _ _

theorem seriesOf_ordered {snapshots : List HostCounterSnapshot} (one : OneValue snapshots)
    (key : CounterKey) : Ordered (seriesOf snapshots key) where
  sorted := seriesOf_sorted snapshots key
  one_value s mem s' mem' same := by
    obtain ⟨mem, is⟩ := mem_seriesOf.mp mem
    obtain ⟨mem', is'⟩ := mem_seriesOf.mp mem'
    exact one s mem s' mem' (is.trans is'.symm) same

/-- A key's instants and values are the same in whatever order its samples come. -/
theorem seriesOf_perm {snapshots other : List HostCounterSnapshot} (one : OneValue snapshots)
    (perm : other.Perm snapshots) (key : CounterKey) :
    (seriesOf other key).map (fun s => (s.instant, s.cumulativeValue)) =
      (seriesOf snapshots key).map (fun s => (s.instant, s.cumulativeValue)) := by
  have same : (seriesOf other key).Perm (seriesOf snapshots key) :=
    (List.perm_insertionSort _ _).trans ((perm.filter _).trans (List.perm_insertionSort _ _).symm)
  have sorted : ∀ samples, ((seriesOf samples key).map fun s => (s.instant, s.cumulativeValue)).Pairwise
      fun x y => x.1 ≤ y.1 := fun samples => List.pairwise_map.mpr (seriesOf_sorted samples key)
  refine (same.map _).eq_of_pairwise ?_ (sorted other) (sorted snapshots)
  intro x y inside inside' le le'
  obtain ⟨s, mem, rfl⟩ := List.mem_map.mp inside
  obtain ⟨s', mem', rfl⟩ := List.mem_map.mp inside'
  have instant : s.instant = s'.instant := Int.le_antisymm le le'
  have value := (seriesOf_ordered one key).one_value s (same.mem_iff.mp mem) s' mem' instant
  exact Prod.ext instant value

/-- The same keys, in whatever order the samples come. -/
theorem counterKeys_perm {snapshots other : List HostCounterSnapshot} (perm : other.Perm snapshots) :
    counterKeys other = counterKeys snapshots := by
  apply insertionSort_congr _ (perm.map _).dedup
  intro k _ k' _ le le'
  have same : k.order = k'.order := le_antisymm le le'
  obtain ⟨scope, counter⟩ := Prod.mk.inj (toLex.injective same)
  refine Prod.ext scope ?_
  cases here : k.2 <;> cases there : k'.2 <;> simp [here, there, CounterKind.rank] at counter <;> rfl

theorem mem_counterKeys {snapshots : List HostCounterSnapshot} {key : CounterKey} :
    key ∈ counterKeys snapshots ↔ ∃ s ∈ snapshots, s.key = key := by
  rw [counterKeys, List.mem_insertionSort, List.mem_dedup, List.mem_map]

theorem counterKeys_nodup (snapshots : List HostCounterSnapshot) : (counterKeys snapshots).Nodup :=
  (List.perm_insertionSort _ _).nodup_iff.mpr (List.nodup_dedup _)

/-! ## Events -/

theorem mapM_guard {α β : Type} (p : α → Prop) [DecidablePred p] (f : α → β) (xs : List α) :
    xs.mapM (fun x => if p x then some (f x) else none) =
      if ∀ x ∈ xs, p x then some (xs.map f) else none := by
  induction xs with
  | nil => simp
  | cons x xs ih =>
      rw [List.mapM_cons, ih]
      by_cases here : p x
      · by_cases rest : ∀ y ∈ xs, p y
        · have all : ∀ y ∈ x :: xs, p y := List.forall_mem_cons.mpr ⟨here, rest⟩
          rw [if_pos here, if_pos rest, if_pos all]
          rfl
        · have some_ : ¬ ∀ y ∈ x :: xs, p y := fun all => rest (List.forall_mem_cons.mp all).2
          rw [if_pos here, if_neg rest, if_neg some_]
          rfl
      · have some_ : ¬ ∀ y ∈ x :: xs, p y := fun all => here (List.forall_mem_cons.mp all).1
        rw [if_neg here, if_neg some_]
        rfl

section Produced

variable (display : ZonedInstant → String) (deterministic : String → EconomicEventId)

/-- The event of a key, for what is added at an instant given in UTC. -/
def plainEvent (key : CounterKey) (step : OffsetDateTime × ℚ) : EconomicEvent where
  id := deterministic (snapshotName display key ⟨step.1, 0⟩)
  occurredAt := step.1
  fact := ⟨.ofKind key.2.resourceKind (max step.2 0), key.2.basis⟩
  attribution := .fromExecution (.unknown .notExposedByProvider)
  owningScope := .unknown

/-- Only an instant that is not given in UTC makes an event invalid. -/
theorem deltaEvent_eq (key : CounterKey) (s : HostCounterSnapshot) (delta : ℚ) :
    (deltaEvent display deterministic key s delta).toOption =
      if s.observedAt.offset = 0 then some (plainEvent display deterministic key (s.instant, delta))
      else none := by
  rw [deltaEvent, EconomicEvent.validated]
  by_cases utc : s.observedAt.offset = 0
  · have plain : s.observedAt = ⟨s.instant, 0⟩ := by
      cases here : s.observedAt
      rw [here] at utc
      cases utc
      simp [HostCounterSnapshot.instant, here]
    have nonneg := FactAmount.ofKind_nonneg key.2.resourceKind (max delta 0)
    rw [if_neg (not_not.mpr utc), if_neg (not_lt.mpr nonneg), if_neg (by simp), if_pos utc, plain]
    rfl
  · rw [if_pos utc, if_neg utc]
    rfl

theorem deltasOfKey_eq {snapshots : List HostCounterSnapshot}
    (whole : ∀ s ∈ snapshots, WholeValue s.cumulativeValue) (key : CounterKey) :
    deltasOfKey display deterministic snapshots key =
      if ∀ step ∈ steps 0 (seriesOf snapshots key), step.1.observedAt.offset = 0 then
        some (((steps 0 (seriesOf snapshots key)).map fun x => (x.1.instant, x.2)).map
          (plainEvent display deterministic key))
      else none := by
  rw [deltasOfKey, incrementsOf_eq whole, List.map_map, ← mapM_guard]
  congr 1
  funext step
  exact deltaEvent_eq display deterministic key step.1 step.2

/-- Every sample that adds is given in UTC. -/
def AllUtc (snapshots : List HostCounterSnapshot) : Prop :=
  ∀ key ∈ counterKeys snapshots, ∀ step ∈ steps 0 (seriesOf snapshots key), step.1.observedAt.offset = 0

/-- The events of a key. -/
def eventsOf (snapshots : List HostCounterSnapshot) (key : CounterKey) : List EconomicEvent :=
  ((steps 0 (seriesOf snapshots key)).map fun x => (x.1.instant, x.2)).map
    (plainEvent display deterministic key)

theorem deltasFromSnapshots_eq_some {snapshots : List HostCounterSnapshot}
    (whole : ∀ s ∈ snapshots, WholeValue s.cumulativeValue) {events : List EconomicEvent} :
    deltasFromSnapshots display deterministic snapshots = some events ↔
      AllUtc snapshots ∧
        (counterKeys snapshots).flatMap (eventsOf display deterministic snapshots) = events := by
  have each : ∀ key, deltasOfKey display deterministic snapshots key =
      if ∀ step ∈ steps 0 (seriesOf snapshots key), step.1.observedAt.offset = 0 then
        some (eventsOf display deterministic snapshots key) else none :=
    deltasOfKey_eq display deterministic whole
  rw [deltasFromSnapshots, funext each, mapM_guard]
  constructor
  · intro produced
    split at produced
    · rename_i utc
      exact ⟨utc, Option.some.inj produced⟩
    · cases produced
  · rintro ⟨utc, rfl⟩
    exact congrArg _ (if_pos utc)

end Produced

/-! ## Amounts -/

/-- A whole amount is recorded as it is, up to the most that is. -/
theorem ofKind_whole (counter : CounterKind) (n : Nat) :
    (FactAmount.ofKind counter.resourceKind (max (n : ℚ) 0)).value = (min n counter.most : Nat) := by
  have nonneg : max (n : ℚ) 0 = n := max_eq_left (by positivity)
  have rounded : roundHalfUp (n : ℚ) = n := by
    rw [roundHalfUp, Int.floor_eq_iff]
    constructor
    · push_cast
      linarith
    · push_cast
      linarith
  cases counter with
  | estimatedCostUsd =>
      show ((min (roundHalfUp (max (max (n : ℚ) 0) 0)) (i64Max : Int) : Int) : ℚ) = _
      rw [nonneg, nonneg, rounded]
      norm_cast
  | wallClockDurationMs =>
      show ((min (roundHalfUp (max (max (n : ℚ) 0) 0)) (u64Max : Int) : Int) : ℚ) = _
      rw [nonneg, nonneg, rounded]
      norm_cast

theorem sum_eq_iff_of_le {α : Type} {f g : α → ℚ} {xs : List α} (le : ∀ x ∈ xs, f x ≤ g x) :
    (xs.map f).sum = (xs.map g).sum ↔ ∀ x ∈ xs, f x = g x := by
  induction xs with
  | nil => simp
  | cons x xs ih =>
      obtain ⟨here, rest⟩ := List.forall_mem_cons.mp le
      have tail := List.sum_le_sum rest
      rw [List.map_cons, List.map_cons, List.sum_cons, List.sum_cons, List.forall_mem_cons, ← ih rest]
      constructor
      · intro same
        exact ⟨by linarith, by linarith⟩
      · rintro ⟨first, others⟩
        rw [first, others]

/-! ## What a sample adds -/

/-- What a sample adds to the last value of its counter before it. -/
def added (snapshots : List HostCounterSnapshot) (s : HostCounterSnapshot) : ℚ :=
  rise (valueBefore s.instant 0 (seriesOf snapshots s.key)) s.cumulativeValue

section Added

variable {snapshots : List HostCounterSnapshot}

theorem steps_added (one : OneValue snapshots) {key : CounterKey} {step : HostCounterSnapshot × ℚ}
    (mem : step ∈ steps 0 (seriesOf snapshots key)) :
    step.1 ∈ snapshots ∧ step.1.key = key ∧ 0 < step.2 ∧ step.2 = added snapshots step.1 := by
  obtain ⟨inside, pos, is⟩ := steps_spec (seriesOf_ordered one key) 0 mem
  obtain ⟨there, of_key⟩ := mem_seriesOf.mp inside
  subst of_key
  exact ⟨there, rfl, pos, is⟩

theorem mem_steps_added (one : OneValue snapshots) {s : HostCounterSnapshot} (mem : s ∈ snapshots)
    (adds : 0 < added snapshots s) :
    ∃ x, x.instant = s.instant ∧ (x, added snapshots s) ∈ steps 0 (seriesOf snapshots s.key) :=
  mem_steps (seriesOf_ordered one s.key) 0 (mem_seriesOf.mpr ⟨mem, rfl⟩) adds

theorem added_perm (one : OneValue snapshots) {other : List HostCounterSnapshot}
    (perm : other.Perm snapshots) (s : HostCounterSnapshot) : added other s = added snapshots s := by
  rw [added, added, valueBefore_congr _ _ (seriesOf_perm one perm s.key)]

theorem valueBefore_append (t : OffsetDateTime) (before : ℚ) (xs ys : List HostCounterSnapshot) :
    valueBefore t before (xs ++ ys) = valueBefore t (valueBefore t before xs) ys := by
  induction xs generalizing before with
  | nil => rfl
  | cons x xs ih =>
      rw [List.cons_append, valueBefore, ih]
      rfl

theorem steps_append {t : OffsetDateTime} {front : List HostCounterSnapshot}
    (earlier : ∀ y ∈ front, y.instant < t) (before : ℚ) (back : List HostCounterSnapshot) :
    steps before (front ++ back) = steps before front ++ steps (valueBefore t before front) back := by
  induction front generalizing before with
  | nil => rfl
  | cons y front ih =>
      obtain ⟨here, earlier⟩ := List.forall_mem_cons.mp earlier
      rw [List.cons_append, steps, ih earlier, steps, valueBefore, if_pos here, List.append_assoc]

/-- The sample that comes first is the first of its instant. -/
theorem seriesOf_cons (s : HostCounterSnapshot) (rest : List HostCounterSnapshot) :
    ∃ front back, seriesOf (s :: rest) s.key = front ++ s :: back ∧
      seriesOf rest s.key = front ++ back ∧ (∀ y ∈ front, y.instant < s.instant) ∧
      ∀ y ∈ back, s.instant ≤ y.instant := by
  have own : Grouping.ofKey HostCounterSnapshot.key s.key (s :: rest) =
      s :: Grouping.ofKey HostCounterSnapshot.key s.key rest := by
    rw [Grouping.ofKey, List.filter_cons_of_pos (by simp), Grouping.ofKey]
  have sorted := seriesOf_sorted (s :: rest) s.key
  refine ⟨(seriesOf rest s.key).takeWhile fun y => decide ¬ ByKey HostCounterSnapshot.instant s y,
    (seriesOf rest s.key).dropWhile fun y => decide ¬ ByKey HostCounterSnapshot.instant s y,
    ?_, List.takeWhile_append_dropWhile.symm, ?_, ?_⟩
  · rw [seriesOf, own, List.insertionSort_cons, List.orderedInsert_eq_take_drop]
    rfl
  · intro y mem
    have before := List.mem_takeWhile_imp mem
    exact Int.not_le.mp (of_decide_eq_true before)
  · rw [seriesOf, own, List.insertionSort_cons, List.orderedInsert_eq_take_drop] at sorted
    exact (List.pairwise_cons.mp (List.pairwise_append.mp sorted).2.1).1

/-- The sample that comes first adds what it adds, itself. -/
theorem first_adds (s : HostCounterSnapshot) (rest : List HostCounterSnapshot)
    (adds : 0 < added (s :: rest) s) :
    (s, added (s :: rest) s) ∈ steps 0 (seriesOf (s :: rest) s.key) := by
  obtain ⟨front, back, series, -, earlier, later⟩ := seriesOf_cons s rest
  have before : valueBefore s.instant 0 (seriesOf (s :: rest) s.key) = valueBefore s.instant 0 front := by
    rw [series, valueBefore_append]
    exact valueBefore_of_le (List.forall_mem_cons.mpr ⟨Int.le_refl _, later⟩) _
  rw [added, before] at adds ⊢
  rw [series, steps_append earlier, steps, if_pos adds]
  exact List.mem_append_right _ (List.mem_append_left _ (List.mem_singleton.mpr rfl))

/-- Two samples of one instant that come first: the second adds to the first. -/
theorem two_add {s s' : HostCounterSnapshot} (rest : List HostCounterSnapshot) (key : s'.key = s.key)
    (instant : s'.instant = s.instant)
    (adds : 0 < rise (valueBefore s.instant 0 (seriesOf rest s.key)) s.cumulativeValue)
    (adds' : 0 < rise s.cumulativeValue s'.cumulativeValue) :
    ∃ front back d d', steps 0 (seriesOf (s :: s' :: rest) s.key) =
      front ++ (s, d) :: (s', d') :: back := by
  obtain ⟨front, back, series, without, earlier, later⟩ := seriesOf_cons s (s' :: rest)
  obtain ⟨front', back', series', without', earlier', later'⟩ := seriesOf_cons s' rest
  rw [key] at series' without'
  rw [instant] at earlier' later'
  -- What is before the instant is the same in both.
  have cut : ∀ xs ys : List HostCounterSnapshot, (∀ y ∈ xs, y.instant < s.instant) →
      (∀ y ∈ ys, s.instant ≤ y.instant) → (xs ++ ys).filter (fun y => decide (y.instant < s.instant)) = xs := by
    intro xs ys all none_
    rw [List.filter_append, List.filter_eq_self.mpr fun y mem => decide_eq_true (all y mem),
      List.filter_eq_nil_iff.mpr fun y mem => by simpa using none_ y mem, List.append_nil]
  have joined := without.symm.trans series'
  have fronts : front = front' := by
    have first := cut front back earlier later
    have second := cut front' (s' :: back') earlier' (List.forall_mem_cons.mpr ⟨Int.le_of_eq instant.symm, later'⟩)
    rw [joined, second] at first
    exact first.symm
  subst fronts
  have backs : back = s' :: back' := List.append_cancel_left joined
  subst backs
  have before : valueBefore s.instant 0 (seriesOf rest s.key) = valueBefore s.instant 0 front := by
    rw [without', valueBefore_append, valueBefore_of_le later']
  rw [before] at adds
  rw [series, steps_append earlier, steps, if_pos adds, steps, if_pos adds']
  exact ⟨_, _, _, _, rfl⟩

end Added

/-! ## Names -/

/-- Two texts that end in as many colons, from one on, part there. -/
theorem colon_append_inj {xs ys us vs : List Char} (same : xs ++ ':' :: us = ys ++ ':' :: vs)
    (count : us.count ':' = vs.count ':') : xs = ys ∧ us = vs := by
  rcases List.append_eq_append_iff.mp same with ⟨ws, rfl, rest⟩ | ⟨ws, rfl, rest⟩
  · cases ws with
    | nil => exact ⟨(List.append_nil _).symm, (List.cons_eq_cons.mp rest).2⟩
    | cons w ws =>
        obtain ⟨rfl, is⟩ := List.cons_eq_cons.mp rest
        have is : us = ws ++ ':' :: vs := is
        rw [is, List.count_append, List.count_cons_self] at count
        omega
  · cases ws with
    | nil => exact ⟨List.append_nil _, (List.cons_eq_cons.mp rest).2.symm⟩
    | cons w ws =>
        obtain ⟨rfl, is⟩ := List.cons_eq_cons.mp rest
        have is : vs = ws ++ ':' :: us := is
        rw [is, List.count_append, List.count_cons_self] at count
        omega

/-- How the `time` crate writes instants given in UTC: each in its own way, with the colons of
the time and of the offset. -/
structure PlainDisplay (display : ZonedInstant → String) : Prop where
  apart : ∀ t t' : OffsetDateTime, display ⟨t, 0⟩ = display ⟨t', 0⟩ → t = t'
  colons : ∀ t : OffsetDateTime, (display ⟨t, 0⟩).toList.count ':' = 4

theorem snapshotName_inj {display : ZonedInstant → String} (plain : PlainDisplay display)
    {key key' : CounterKey} {t t' : OffsetDateTime}
    (same : snapshotName display key ⟨t, 0⟩ = snapshotName display key' ⟨t', 0⟩) :
    ":".intercalate key.1 = ":".intercalate key'.1 ∧ key.2 = key'.2 ∧ t = t' := by
  have no_colon : ∀ counter : CounterKind, counter.debug.toList.count ':' = 0 := by
    intro counter
    cases counter <;> decide
  have chars := congrArg String.toList same
  simp only [snapshotName, String.toList_append, List.append_assoc] at chars
  have rest := List.append_cancel_left chars
  have colon : (":" : String).toList = [':'] := rfl
  rw [colon, List.singleton_append, List.singleton_append] at rest
  have counts : ∀ (counter : CounterKind) (instant : OffsetDateTime),
      (counter.debug.toList ++ ':' :: (display ⟨instant, 0⟩).toList).count ':' = 5 := by
    intro counter instant
    rw [List.count_append, List.count_cons_self, no_colon, plain.colons]
  obtain ⟨scope, rest⟩ := colon_append_inj rest ((counts _ _).trans (counts _ _).symm)
  obtain ⟨counter, instant⟩ := colon_append_inj rest ((plain.colons t).trans (plain.colons t').symm)
  refine ⟨String.toList_inj.mp scope, ?_, plain.apart t t' (String.toList_inj.mp instant)⟩
  cases here : key.2 <;> cases there : key'.2 <;> rw [here, there] at counter <;>
    first | rfl | exact absurd counter (by decide)

/-! ## Reconstructed -/

/-- Every sample that adds is given in UTC and adds an amount that is recorded as it is, and the
joined scope tells it from another counter's sample that adds at its instant. -/
structure Recorded (snapshots : List HostCounterSnapshot) : Prop where
  utc : ∀ s ∈ snapshots, 0 < added snapshots s → s.observedAt.offset = 0
  fits : ∀ s ∈ snapshots, added snapshots s ≤ s.counter.most
  apart : ∀ s ∈ snapshots, ∀ s' ∈ snapshots, 0 < added snapshots s → 0 < added snapshots s' →
    ":".intercalate s.sessionScopeKey = ":".intercalate s'.sessionScopeKey →
    s.counter = s'.counter → s.instant = s'.instant → s.key = s'.key

section Reconstructed

variable {display : ZonedInstant → String} {deterministic : String → EconomicEventId}
  {snapshots : List HostCounterSnapshot}

theorem allUtc_of_recorded (one : OneValue snapshots) {other : List HostCounterSnapshot}
    (perm : other.Perm snapshots) (recorded : Recorded snapshots) : AllUtc other := by
  have one_other : OneValue other := fun s mem s' mem' =>
    one s (perm.mem_iff.mp mem) s' (perm.mem_iff.mp mem')
  intro key _ step mem
  obtain ⟨inside, -, pos, is⟩ := steps_added one_other mem
  rw [added_perm one perm] at is
  exact recorded.utc step.1 (perm.mem_iff.mp inside) (is ▸ pos)

theorem eventsOf_perm (one : OneValue snapshots) {other : List HostCounterSnapshot}
    (perm : other.Perm snapshots) (key : CounterKey) :
    eventsOf display deterministic other key = eventsOf display deterministic snapshots key := by
  rw [eventsOf, eventsOf, steps_congr 0 (seriesOf_perm one perm key)]

/-- What an event of a key is made of. -/
theorem mem_eventsOf (one : OneValue snapshots) {key : CounterKey} {e : EconomicEvent} :
    e ∈ eventsOf display deterministic snapshots key →
      ∃ s ∈ snapshots, s.key = key ∧ 0 < added snapshots s ∧
        e = plainEvent display deterministic key (s.instant, added snapshots s) := by
  intro mem
  obtain ⟨at_, produced, rfl⟩ := List.mem_map.mp mem
  obtain ⟨step, there, rfl⟩ := List.mem_map.mp produced
  obtain ⟨inside, of_key, pos, is⟩ := steps_added one there
  exact ⟨step.1, inside, of_key, is ▸ pos, by rw [is]⟩

/-- The amounts of a key's events, and what they stand for. -/
theorem sum_eventsOf_iff (whole : ∀ s ∈ snapshots, WholeValue s.cumulativeValue)
    (one : OneValue snapshots) (key : CounterKey) :
    ((eventsOf display deterministic snapshots key).map fun e => e.fact.amount.value).sum =
        (runEnds ((seriesOf snapshots key).map HostCounterSnapshot.cumulativeValue)).sum ↔
      ∀ step ∈ steps 0 (seriesOf snapshots key), step.2 ≤ key.2.most := by
  have nonneg : ∀ s ∈ seriesOf snapshots key, 0 ≤ s.cumulativeValue := by
    intro s mem
    obtain ⟨n, is⟩ := whole s (mem_seriesOf.mp mem).1
    rw [is]
    positivity
  have amount : ∀ step ∈ steps 0 (seriesOf snapshots key),
      (FactAmount.ofKind key.2.resourceKind (max step.2 0)).value = min step.2 key.2.most := by
    intro step mem
    obtain ⟨inside, of_key, -, is⟩ := steps_added one mem
    have step_whole : WholeValue step.2 := by
      rw [is]
      exact rise_whole (valueBefore_whole ⟨0, rfl⟩ (fun s mem => whole s (mem_seriesOf.mp mem).1) _)
        (whole _ inside)
    obtain ⟨n, is⟩ := step_whole
    rw [is, ofKind_whole]
    push_cast
    rfl
  rw [← sum_steps nonneg]
  have shape : (eventsOf display deterministic snapshots key).map (fun e => e.fact.amount.value) =
      (steps 0 (seriesOf snapshots key)).map fun step => min step.2 (key.2.most : ℚ) := by
    rw [eventsOf, List.map_map, List.map_map]
    exact List.map_congr_left amount
  rw [shape, sum_eq_iff_of_le fun step _ => min_le_left _ _]
  simp only [min_eq_left_iff]

/-- No two events share an id exactly when the joined scopes tell apart what adds at once. -/
theorem events_distinct_iff (plain : PlainDisplay display)
    (injective : ∀ s ∈ snapshots, ∀ s' ∈ snapshots,
      deterministic (snapshotName display s.key ⟨s.instant, 0⟩) =
          deterministic (snapshotName display s'.key ⟨s'.instant, 0⟩) →
        snapshotName display s.key ⟨s.instant, 0⟩ = snapshotName display s'.key ⟨s'.instant, 0⟩)
    (one : OneValue snapshots) :
    (((counterKeys snapshots).flatMap (eventsOf display deterministic snapshots)).map
        EconomicEvent.id).Nodup ↔
      ∀ s ∈ snapshots, ∀ s' ∈ snapshots, 0 < added snapshots s → 0 < added snapshots s' →
        ":".intercalate s.sessionScopeKey = ":".intercalate s'.sessionScopeKey →
        s.counter = s'.counter → s.instant = s'.instant → s.key = s'.key := by
  rw [List.map_flatMap, List.nodup_flatMap]
  constructor
  · rintro ⟨-, apart⟩ s mem s' mem' adds adds' scope counter instant
    by_contra other
    have keys : s.key ∈ counterKeys snapshots ∧ s'.key ∈ counterKeys snapshots :=
      ⟨mem_counterKeys.mpr ⟨s, mem, rfl⟩, mem_counterKeys.mpr ⟨s', mem', rfl⟩⟩
    have : Std.Symm (Function.onFun List.Disjoint fun key =>
        (eventsOf display deterministic snapshots key).map EconomicEvent.id) :=
      ⟨fun _ _ disjoint => List.Disjoint.symm disjoint⟩
    have disjoint := apart.forall keys.1 keys.2 other
    have produces : ∀ x ∈ snapshots, 0 < added snapshots x →
        deterministic (snapshotName display x.key ⟨x.instant, 0⟩) ∈
          (eventsOf display deterministic snapshots x.key).map EconomicEvent.id := by
      intro x mem adds
      obtain ⟨y, same, there⟩ := mem_steps_added one mem adds
      refine List.mem_map.mpr ⟨_, List.mem_map.mpr ⟨_, List.mem_map.mpr ⟨_, there, rfl⟩, rfl⟩, ?_⟩
      rw [plainEvent, same]
    have name : snapshotName display s.key ⟨s.instant, 0⟩ = snapshotName display s'.key ⟨s'.instant, 0⟩ := by
      rw [snapshotName, snapshotName, instant]
      show "snapshot:" ++ ":".intercalate s.sessionScopeKey ++ ":" ++ s.counter.debug ++ ":" ++ _ = _
      rw [scope, counter]
      rfl
    exact disjoint (produces s mem adds) (name ▸ produces s' mem' adds')
  · intro apart
    refine ⟨?_, ?_⟩
    · intro key _
      rw [eventsOf, List.map_map, List.map_map]
      refine List.pairwise_map.mpr ((steps_instants (seriesOf_ordered one key) 0).imp_of_mem ?_)
      intro x y mem mem' earlier same
      obtain ⟨inside, rfl, -, -⟩ := steps_added one mem
      obtain ⟨inside', of_key, -, -⟩ := steps_added one mem'
      have name := injective x.1 inside y.1 inside' (by rw [of_key]; exact same)
      exact absurd (snapshotName_inj plain name).2.2 (Int.ne_of_lt earlier)
    · refine (counterKeys_nodup snapshots).imp fun {key key'} other => ?_
      intro id mem mem'
      obtain ⟨e, produced, rfl⟩ := List.mem_map.mp mem
      obtain ⟨e', produced', same⟩ := List.mem_map.mp mem'
      obtain ⟨s, inside, rfl, adds, rfl⟩ := mem_eventsOf one produced
      obtain ⟨s', inside', rfl, adds', rfl⟩ := mem_eventsOf one produced'
      obtain ⟨scope, counter, instant⟩ := snapshotName_inj plain (injective s' inside' s inside same)
      exact other (apart s inside s' inside' adds adds' scope.symm counter.symm instant.symm)

theorem reconstructs_of_recorded (plain : PlainDisplay display)
    (injective : ∀ s ∈ snapshots, ∀ s' ∈ snapshots,
      deterministic (snapshotName display s.key ⟨s.instant, 0⟩) =
          deterministic (snapshotName display s'.key ⟨s'.instant, 0⟩) →
        snapshotName display s.key ⟨s.instant, 0⟩ = snapshotName display s'.key ⟨s'.instant, 0⟩)
    (whole : ∀ s ∈ snapshots, WholeValue s.cumulativeValue) (one : OneValue snapshots)
    (recorded : Recorded snapshots) : Reconstructs display deterministic snapshots
      ((counterKeys snapshots).flatMap (eventsOf display deterministic snapshots)) := by
  have utc := allUtc_of_recorded one (List.Perm.refl snapshots) recorded
  constructor
  · exact (deltasFromSnapshots_eq_some display deterministic whole).mpr ⟨utc, rfl⟩
  · intro other perm
    have whole_other : ∀ s ∈ other, WholeValue s.cumulativeValue := fun s mem =>
      whole s (perm.mem_iff.mp mem)
    have same : (counterKeys other).flatMap (eventsOf display deterministic other) =
        (counterKeys snapshots).flatMap (eventsOf display deterministic snapshots) := by
      rw [counterKeys_perm perm, funext (eventsOf_perm one perm)]
    refine ⟨_, (deltasFromSnapshots_eq_some display deterministic whole_other).mpr
      ⟨allUtc_of_recorded one perm recorded, same⟩, List.Perm.refl _⟩
  · exact (events_distinct_iff plain injective one).mpr recorded.apart
  · intro key
    refine ⟨eventsOf display deterministic snapshots key, ?_, ?_⟩
    · rw [deltasOfKey_eq display deterministic whole]
      refine if_pos fun step mem => ?_
      obtain ⟨inside, of_key, -, -⟩ := steps_added one mem
      exact utc key (mem_counterKeys.mpr ⟨step.1, inside, of_key⟩) step mem
    · refine (sum_eventsOf_iff whole one key).mpr fun step mem => ?_
      obtain ⟨inside, rfl, -, is⟩ := steps_added one mem
      rw [is]
      exact recorded.fits step.1 inside

theorem recorded_of_reconstructs (plain : PlainDisplay display)
    (injective : ∀ s ∈ snapshots, ∀ s' ∈ snapshots,
      deterministic (snapshotName display s.key ⟨s.instant, 0⟩) =
          deterministic (snapshotName display s'.key ⟨s'.instant, 0⟩) →
        snapshotName display s.key ⟨s.instant, 0⟩ = snapshotName display s'.key ⟨s'.instant, 0⟩)
    (whole : ∀ s ∈ snapshots, WholeValue s.cumulativeValue) (one : OneValue snapshots)
    {events : List EconomicEvent} (reconstructs : Reconstructs display deterministic snapshots events) :
    Recorded snapshots := by
  obtain ⟨-, rfl⟩ := (deltasFromSnapshots_eq_some display deterministic whole).mp reconstructs.produced
  constructor
  · intro s mem adds
    -- Put first, the sample is the one of its instant that adds.
    have perm := (List.perm_cons_erase mem).symm
    have whole_other : ∀ x ∈ s :: snapshots.erase s, WholeValue x.cumulativeValue := fun x mem' =>
      whole x (perm.mem_iff.mp mem')
    obtain ⟨events', produced, -⟩ := reconstructs.reordered _ perm
    obtain ⟨utc, -⟩ := (deltasFromSnapshots_eq_some display deterministic whole_other).mp produced
    rw [← added_perm one perm] at adds
    exact utc s.key (mem_counterKeys.mpr ⟨s, List.mem_cons_self, rfl⟩) _
      (first_adds s (snapshots.erase s) adds)
  · intro s mem
    rcases le_or_gt (added snapshots s) 0 with none_ | adds
    · exact none_.trans (by positivity)
    · obtain ⟨x, -, there⟩ := mem_steps_added one mem adds
      obtain ⟨own, produced, sums⟩ := reconstructs.adds s.key
      rw [deltasOfKey_eq display deterministic whole] at produced
      split at produced
      · cases produced
        exact (sum_eventsOf_iff whole one s.key).mp sums _ there
      · cases produced
  · exact (events_distinct_iff plain injective one).mp reconstructs.distinct

/-- Two positive values of one counter at one instant make two events of one id, in one order or
in the other. -/
theorem one_positive (whole : ∀ s ∈ snapshots, WholeValue s.cumulativeValue)
    {events : List EconomicEvent} (reconstructs : Reconstructs display deterministic snapshots events)
    {s s' : HostCounterSnapshot} (mem : s ∈ snapshots) (mem' : s' ∈ snapshots) (key : s'.key = s.key)
    (instant : s'.instant = s.instant) (pos : 0 < s.cumulativeValue) :
    ¬ s.cumulativeValue < s'.cumulativeValue := by
  intro less
  have other : s ≠ s' := by
    rintro rfl
    exact lt_irrefl _ less
  have perm : (s :: s' :: (snapshots.erase s).erase s').Perm snapshots :=
    ((List.perm_cons_erase ((List.mem_erase_of_ne other.symm).mpr mem')).symm.cons s).trans
      (List.perm_cons_erase mem).symm
  have perm' := (List.Perm.swap s s' ((snapshots.erase s).erase s')).trans perm
  have clash : ∀ x y : HostCounterSnapshot, x.key = s.key → y.key = s.key → x.instant = s.instant →
      y.instant = s.instant → (x :: y :: (snapshots.erase s).erase s').Perm snapshots →
      0 < rise (valueBefore s.instant 0 (seriesOf ((snapshots.erase s).erase s') s.key))
        x.cumulativeValue →
      ¬ 0 < rise x.cumulativeValue y.cumulativeValue := by
    intro x y x_key y_key x_instant y_instant perm adds adds'
    have whole_other : ∀ z ∈ x :: y :: (snapshots.erase s).erase s', WholeValue z.cumulativeValue :=
      fun z there => whole z (perm.mem_iff.mp there)
    obtain ⟨events', produced, same⟩ := reconstructs.reordered _ perm
    obtain ⟨-, rfl⟩ := (deltasFromSnapshots_eq_some display deterministic whole_other).mp produced
    have distinct := (same.map EconomicEvent.id).nodup_iff.mpr reconstructs.distinct
    rw [List.map_flatMap, List.nodup_flatMap] at distinct
    have own := distinct.1 x.key (mem_counterKeys.mpr ⟨x, List.mem_cons_self, rfl⟩)
    rw [← x_key, ← x_instant] at adds
    obtain ⟨front, back, d, d', steps_are⟩ := two_add ((snapshots.erase s).erase s')
      (y_key.trans x_key.symm) (y_instant.trans x_instant.symm) adds adds'
    rw [eventsOf, steps_are] at own
    simp only [List.map_append, List.map_cons] at own
    have twice := (List.nodup_append.mp own).2.1
    rw [List.nodup_cons] at twice
    refine twice.1 (List.mem_cons.mpr (.inl ?_))
    rw [plainEvent, plainEvent, y_instant.trans x_instant.symm]
  have rises : 0 < rise s.cumulativeValue s'.cumulativeValue := by
    rw [rise, if_pos less.le]
    exact sub_pos.mpr less
  by_cases repeats : valueBefore s.instant 0 (seriesOf ((snapshots.erase s).erase s') s.key) =
      s.cumulativeValue
  · -- The lesser value adds nothing where it comes first: it comes second.
    refine clash s' s key rfl instant rfl perm' ?_ ?_
    · rw [repeats]
      exact rises
    · rw [rise, if_neg (not_le.mpr less)]
      exact pos
  · refine clash s s' rfl key rfl instant perm ?_ rises
    rw [rise]
    split
    · rename_i le
      exact sub_pos.mpr (lt_of_le_of_ne le repeats)
    · exact pos

end Reconstructed

/-- On whole values: the deltas only reconstruct the counters where no counter has two positive
values at one instant; and where each has one value, exactly where what they add is recorded. -/
theorem deltas_reconstruct_iff (display : ZonedInstant → String)
    (deterministic : String → EconomicEventId) (plain : PlainDisplay display)
    (snapshots : List HostCounterSnapshot)
    (injective : ∀ s ∈ snapshots, ∀ s' ∈ snapshots,
      deterministic (snapshotName display s.key ⟨s.instant, 0⟩) =
          deterministic (snapshotName display s'.key ⟨s'.instant, 0⟩) →
        snapshotName display s.key ⟨s.instant, 0⟩ = snapshotName display s'.key ⟨s'.instant, 0⟩)
    (whole : ∀ s ∈ snapshots, WholeValue s.cumulativeValue) :
    ((∃ events, Reconstructs display deterministic snapshots events) →
        ∀ s ∈ snapshots, ∀ s' ∈ snapshots, s.key = s'.key → s.instant = s'.instant →
          0 < s.cumulativeValue → 0 < s'.cumulativeValue → s.cumulativeValue = s'.cumulativeValue) ∧
      (OneValue snapshots →
        ((∃ events, Reconstructs display deterministic snapshots events) ↔ Recorded snapshots)) := by
  constructor
  · rintro ⟨events, reconstructs⟩ s mem s' mem' key instant pos pos'
    have not_less := one_positive whole reconstructs mem mem' key.symm instant.symm pos
    have not_more := one_positive whole reconstructs mem' mem key instant pos'
    exact le_antisymm (not_lt.mp not_more) (not_lt.mp not_less)
  · intro one
    constructor
    · rintro ⟨events, reconstructs⟩
      exact recorded_of_reconstructs plain injective whole one reconstructs
    · intro recorded
      exact ⟨_, reconstructs_of_recorded plain injective whole one recorded⟩

/-! ## Two samples of one session -/

def noon : OffsetDateTime := 1790942400 * OffsetDateTime.nanosPerSecond

def secondPast : OffsetDateTime := 1790942401 * OffsetDateTime.nanosPerSecond

/-- The texts of two instants, and for every other a text of its own. -/
def sampleDisplay (t : ZonedInstant) : String :=
  if t.instant = noon then "2026-10-02 12:00:00.0 +00:00:00"
  else if t.instant = secondPast then "2026-10-02 12:00:01.0 +00:00:00"
  else "::::" ++ String.ofList (List.replicate (2 * t.instant.natAbs + if t.instant < 0 then 1 else 0) 'x')

/-- The ids of the two names. -/
def sampleId (name : String) : EconomicEventId :=
  if name = "snapshot:s1:EstimatedCostUsd:2026-10-02 12:00:00.0 +00:00:00" then
    ⟨0x76377907e28b500eb5a286c1628b5c45⟩
  else ⟨0x67f54a2f7db85788964f865f2ce9b347⟩

theorem plainDisplay_sample : PlainDisplay sampleDisplay where
  apart t t' same := by
    simp only [sampleDisplay] at same
    have fresh : ∀ n : Nat, ∀ text : String, text.toList.head? = some '2' →
        text ≠ "::::" ++ String.ofList (List.replicate n 'x') := by
      intro n text first is
      rw [is, String.toList_append] at first
      cases first
    by_cases at_noon : t = noon <;> by_cases at_noon' : t' = noon
    · rw [at_noon, at_noon']
    · rw [if_pos at_noon, if_neg at_noon'] at same
      split at same
      · exact absurd same (by decide)
      · exact absurd same (fresh _ _ rfl)
    · rw [if_neg at_noon, if_pos at_noon'] at same
      split at same
      · exact absurd same (by decide)
      · exact absurd same.symm (fresh _ _ rfl)
    · rw [if_neg at_noon, if_neg at_noon'] at same
      by_cases past : t = secondPast <;> by_cases past' : t' = secondPast
      · rw [past, past']
      · rw [if_pos past, if_neg past'] at same
        exact absurd same (fresh _ _ rfl)
      · rw [if_neg past, if_pos past'] at same
        exact absurd same.symm (fresh _ _ rfl)
      · rw [if_neg past, if_neg past'] at same
        have chars := congrArg String.toList same
        simp only [String.toList_append, String.toList_ofList] at chars
        have lengths := congrArg List.length (List.append_cancel_left chars)
        simp only [List.length_replicate] at lengths
        have apart : ∀ a b : Int, 2 * a.natAbs + (if a < 0 then 1 else 0) =
            2 * b.natAbs + (if b < 0 then 1 else 0) → a = b := by
          intro a b
          split <;> split <;> omega
        exact apart t t' lengths
  colons t := by
    rw [sampleDisplay]
    dsimp only
    split
    · decide
    split
    · decide
    · rw [String.toList_append, List.count_append, String.toList_ofList, String.toList_ofList,
        List.count_replicate]
      rfl

def usdSample (t : OffsetDateTime) (cents : ℚ) : HostCounterSnapshot :=
  ⟨["s1"], .estimatedCostUsd, ⟨t, 0⟩, cents, none⟩

/-- Twelve cents at noon and twenty a second later: twelve and eight. -/
theorem two_samples_reconstruct :
    (deltasFromSnapshots sampleDisplay sampleId [usdSample secondPast 20, usdSample noon 12]).map
        (List.map fun e => e.fact.amount.value) = some [12, 8] ∧
      ∃ events, Reconstructs sampleDisplay sampleId [usdSample secondPast 20, usdSample noon 12]
        events := by
  refine ⟨by decide +kernel, ?_⟩
  have exactly := (deltas_reconstruct_iff sampleDisplay sampleId plainDisplay_sample
    [usdSample secondPast 20, usdSample noon 12] (by decide +kernel)
    (List.forall_mem_cons.mpr ⟨⟨20, rfl⟩, List.forall_mem_singleton.mpr ⟨12, rfl⟩⟩)).2
    (by decide +kernel)
  exact exactly.mpr ⟨by decide +kernel, by decide +kernel, by decide +kernel⟩

/-- Ten cents and twenty at the same instant: two events of one id. -/
theorem two_levels_at_once :
    (deltasFromSnapshots sampleDisplay sampleId [usdSample noon 10, usdSample noon 20]).map
        (List.map fun e => (e.id, e.fact.amount.value)) =
        some [(⟨0x76377907e28b500eb5a286c1628b5c45⟩, 10), (⟨0x76377907e28b500eb5a286c1628b5c45⟩, 10)] ∧
      ¬ ∃ events, Reconstructs sampleDisplay sampleId [usdSample noon 10, usdSample noon 20]
        events := by
  refine ⟨by decide +kernel, ?_⟩
  rintro ⟨events, reconstructs⟩
  refine one_positive ?_ reconstructs List.mem_cons_self (List.mem_cons_of_mem _ List.mem_cons_self)
    rfl rfl (by decide +kernel) (by decide +kernel)
  exact List.forall_mem_cons.mpr ⟨⟨10, rfl⟩, List.forall_mem_singleton.mpr ⟨20, rfl⟩⟩

end LibraGovernor
