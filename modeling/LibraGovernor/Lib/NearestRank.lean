/-
# LibraGovernor.Lib.NearestRank -- nearest-rank quantiles of a list

The quantile of a list at `p` is the least of its values that at least `⌈p * n⌉` of its `n` values
do not exceed (`IsNearestRank`).  It is found in the sorted list at the rank's index, the index
kept inside the list (`atRank`, `atRank_isNearestRank`).  There is one quantile
(`IsNearestRank.unique`), it does not depend on the order of the list (`IsNearestRank.perm`), and
it grows with `p` (`IsNearestRank.mono`).
-/
import Mathlib.Algebra.Order.Floor.Semiring
import Mathlib.Algebra.Order.Archimedean.Basic
import Mathlib.Data.List.Sort
import Mathlib.Data.Rat.Floor
import Mathlib.Order.Bounds.Basic

namespace NearestRank

set_option autoImplicit false

/-- The rank of the quantile at `p` among `n` values. -/
def rank (p : ℚ) (n : ℕ) : ℕ := ⌈p * n⌉₊

theorem rank_mono {p q : ℚ} (le : p ≤ q) (n : ℕ) : rank p n ≤ rank q n :=
  Nat.ceil_mono (mul_le_mul_of_nonneg_right le n.cast_nonneg)

theorem rank_le {p : ℚ} (le : p ≤ 1) (n : ℕ) : rank p n ≤ n := by
  have bound : p * n ≤ n := mul_le_of_le_one_left n.cast_nonneg le
  exact Nat.ceil_le.mpr bound

variable {α : Type} [LinearOrder α]

/-- The value of a list at the rank of `p`, its index kept inside the list. -/
def atRank (sorted : List α) (nonempty : sorted ≠ []) (p : ℚ) : α :=
  sorted.get ⟨min (rank p sorted.length - 1) (sorted.length - 1), by
    have := List.length_pos_iff.mpr nonempty
    omega⟩

/-- The least value of the list that at least `⌈p * n⌉` of its values do not exceed. -/
def IsNearestRank (values : List α) (p : ℚ) (v : α) : Prop :=
  IsLeast {x | x ∈ values ∧ rank p values.length ≤ values.countP (· ≤ x)} v

namespace IsNearestRank

variable {values values' : List α} {p q : ℚ} {v w : α}

theorem mem (quantile : IsNearestRank values p v) : v ∈ values := quantile.1.1

theorem reached (quantile : IsNearestRank values p v) :
    rank p values.length ≤ values.countP (· ≤ v) := quantile.1.2

theorem unique (quantile : IsNearestRank values p v) (other : IsNearestRank values p w) : v = w :=
  IsLeast.unique quantile other

theorem perm (same : values.Perm values') (quantile : IsNearestRank values p v) :
    IsNearestRank values' p v := by
  unfold IsNearestRank at quantile ⊢
  have counted : ∀ x, values'.countP (· ≤ x) = values.countP (· ≤ x) := by
    intro x
    exact (same.countP_eq _).symm
  simpa only [same.mem_iff, same.length_eq, counted] using quantile

theorem mono (le : p ≤ q) (lower : IsNearestRank values p v) (upper : IsNearestRank values q w) :
    v ≤ w :=
  lower.2 ⟨upper.mem, (rank_mono le values.length).trans upper.reached⟩

end IsNearestRank

/-! ## The sorted list -/

section Sorted

variable {sorted : List α}

/-- Everything up to an index is counted below its value. -/
theorem lt_countP (order : sorted.Pairwise (· ≤ ·)) {i : ℕ} (inside : i < sorted.length) :
    i < sorted.countP (· ≤ sorted[i]) := by
  have whole : (sorted.take (i + 1)).countP (· ≤ sorted[i]) = i + 1 := by
    rw [List.countP_eq_length.mpr, List.length_take]
    · omega
    · intro x mem
      obtain ⟨j, bound, rfl⟩ := List.getElem_of_mem mem
      rw [List.length_take] at bound
      rw [List.getElem_take, decide_eq_true_eq]
      by_cases same : j = i
      · subst same
        exact le_refl _
      · exact List.pairwise_iff_getElem.mp order j i (by omega) inside (by omega)
  have part := (List.take_sublist (i + 1) sorted).countP_le (p := (· ≤ sorted[i]))
  omega

/-- Nothing from an index on is counted below a value under the one there. -/
theorem countP_le (order : sorted.Pairwise (· ≤ ·)) {i : ℕ} (inside : i < sorted.length) {x : α}
    (under : x < sorted[i]) : sorted.countP (· ≤ x) ≤ i := by
  have late : (sorted.drop i).countP (· ≤ x) = 0 := by
    rw [List.countP_eq_zero]
    intro y mem
    obtain ⟨j, bound, rfl⟩ := List.getElem_of_mem mem
    rw [List.length_drop] at bound
    rw [List.getElem_drop, decide_eq_true_eq, not_le]
    refine lt_of_lt_of_le under ?_
    by_cases first : j = 0
    · subst first
      exact le_refl _
    · exact List.pairwise_iff_getElem.mp order i (i + j) inside (by omega) (by omega)
  have early := List.countP_le_length (p := fun y => decide (y ≤ x)) (l := sorted.take i)
  rw [List.length_take] at early
  rw [← List.take_append_drop i sorted, List.countP_append, late]
  omega

theorem atRank_isNearestRank (order : sorted.Pairwise (· ≤ ·)) (nonempty : sorted ≠ []) {p : ℚ}
    (le : p ≤ 1) : IsNearestRank sorted p (atRank sorted nonempty p) := by
  have some_ := List.length_pos_iff.mpr nonempty
  have bound := rank_le le sorted.length
  have inside : min (rank p sorted.length - 1) (sorted.length - 1) < sorted.length := by omega
  have value : atRank sorted nonempty p = sorted[min (rank p sorted.length - 1)
      (sorted.length - 1)] := rfl
  rw [value]
  refine ⟨⟨List.getElem_mem inside, ?_⟩, ?_⟩
  · have := lt_countP order inside
    omega
  · rintro x ⟨mem, reached⟩
    by_contra under
    have few := countP_le order inside (not_le.mp under)
    -- A value of the list counts itself, so the rank is not zero.
    have itself : 0 < sorted.countP (· ≤ x) :=
      List.countP_pos_iff.mpr ⟨x, mem, decide_eq_true (le_refl x)⟩
    omega

end Sorted

/-! ## The three quantiles of a sample -/

/-- The quantiles at one half, four fifths and nine tenths, in order. -/
structure Quantiles (values : List α) (a b c : α) : Prop where
  p50 : IsNearestRank values (1 / 2) a
  p80 : IsNearestRank values (4 / 5) b
  p90 : IsNearestRank values (9 / 10) c
  le80 : a ≤ b
  le90 : b ≤ c

theorem Quantiles.of_nearest {values : List α} {a b c : α} (p50 : IsNearestRank values (1 / 2) a)
    (p80 : IsNearestRank values (4 / 5) b) (p90 : IsNearestRank values (9 / 10) c) :
    Quantiles values a b c where
  p50
  p80
  p90
  le80 := p50.mono (by norm_num) p80
  le90 := p80.mono (by norm_num) p90

/-- A list sorted and read at the three ranks gives its quantiles. -/
theorem quantiles_sorted {values sorted : List α} (same : sorted.Perm values)
    (order : sorted.Pairwise (· ≤ ·)) (nonempty : sorted ≠ []) :
    Quantiles values (atRank sorted nonempty (1 / 2)) (atRank sorted nonempty (4 / 5))
      (atRank sorted nonempty (9 / 10)) :=
  Quantiles.of_nearest ((atRank_isNearestRank order nonempty (by norm_num)).perm same)
    ((atRank_isNearestRank order nonempty (by norm_num)).perm same)
    ((atRank_isNearestRank order nonempty (by norm_num)).perm same)

end NearestRank
