/-
# LibraGovernor.Lib.Windows -- half-open windows that follow one another

A `Window` contains the points from its start to before its stop.  Windows are `Chained`
from a point when the first starts there and each next one where the one before it stops.
Chained windows miss no point between their start and a stop (`Chained.exists_contains`),
and when their stops rise none starts before an earlier one stopped (`Chained.apart`).

`filter_length_le_one` and `one_le_filter_length` turn what is said of two windows, or of
one, into a count.
-/
import Mathlib.Data.List.Induction
import Mathlib.Order.Lattice

namespace Tiling

set_option autoImplicit false

structure Window (τ : Type) where
  start : τ
  stop : τ
  deriving DecidableEq, Repr

variable {τ : Type}

def Window.Contains [LE τ] [LT τ] (w : Window τ) (t : τ) : Prop := w.start ≤ t ∧ t < w.stop

/-- The first window starts at the point, and each next one where the last one stopped. -/
def Chained : τ → List (Window τ) → Prop
  | _, [] => True
  | start, w :: ws => w.start = start ∧ Chained w.stop ws

/-- Where the next window of a chain starts. -/
def nextStart : τ → List (Window τ) → τ
  | start, [] => start
  | _, w :: ws => nextStart w.stop ws

theorem nextStart_concat (start : τ) (ws : List (Window τ)) (w : Window τ) :
    nextStart start (ws ++ [w]) = w.stop := by
  induction ws generalizing start with
  | nil => rfl
  | cons w' ws ih => exact ih w'.stop

/-- When the stops rise, the next window starts at the latest of them. -/
theorem nextStart_latest [LinearOrder τ] {start : τ} {ws : List (Window τ)}
    (rising : (ws.map Window.stop).Pairwise (· < ·)) (some_ : ws ≠ []) :
    nextStart start ws ∈ ws.map Window.stop ∧ ∀ w ∈ ws, w.stop ≤ nextStart start ws := by
  induction ws using List.reverseRecOn with
  | nil => exact absurd rfl some_
  | append_singleton ws w ih =>
      rw [List.map_append, List.pairwise_append] at rising
      rw [nextStart_concat]
      refine ⟨?_, ?_⟩
      · rw [List.map_append]
        exact List.mem_append_right _ (List.mem_singleton_self w.stop)
      · intro w' mem
        rcases List.mem_append.mp mem with old | new
        · exact le_of_lt (rising.2.2 _ (List.mem_map_of_mem old) _ (List.mem_singleton_self w.stop))
        · exact le_of_eq (congrArg Window.stop (List.mem_singleton.mp new))

theorem chained_concat {start : τ} {ws : List (Window τ)} {w : Window τ} :
    Chained start (ws ++ [w]) ↔ Chained start ws ∧ w.start = nextStart start ws := by
  induction ws generalizing start with
  | nil => simp [Chained, nextStart]
  | cons w' ws ih =>
      rw [List.cons_append, Chained, Chained, ih, nextStart, and_assoc]

theorem Chained.exists_contains [LinearOrder τ] {start t : τ} {ws : List (Window τ)}
    (chained : Chained start ws) (after : start ≤ t) (before : ∃ w ∈ ws, t < w.stop) :
    ∃ w ∈ ws, w.Contains t := by
  induction ws generalizing start with
  | nil =>
      obtain ⟨w, mem, -⟩ := before
      cases mem
  | cons w ws ih =>
      obtain ⟨own, rest⟩ := chained
      by_cases here : t < w.stop
      · exact ⟨w, List.mem_cons_self, own ▸ after, here⟩
      · obtain ⟨later, mem, stops⟩ := before
        have there : later ∈ ws := by
          rcases List.mem_cons.mp mem with rfl | there
          · exact absurd stops here
          · exact there
        obtain ⟨found, mem', contains⟩ := ih rest (not_lt.mp here) ⟨later, there, stops⟩
        exact ⟨found, List.mem_cons_of_mem w mem', contains⟩

/-- No window of a chain starts before an earlier one stopped. -/
theorem Chained.apart [LinearOrder τ] {start : τ} {ws : List (Window τ)} (chained : Chained start ws)
    (rising : (ws.map Window.stop).Pairwise (· < ·)) :
    ws.Pairwise fun w w' => w.stop ≤ w'.start := by
  have bounded : ∀ {start : τ} {ws : List (Window τ)}, Chained start ws →
      (ws.map Window.stop).Pairwise (· < ·) → (∀ w ∈ ws, start ≤ w.stop) →
      ∀ w ∈ ws, start ≤ w.start := by
    intro start ws
    induction ws generalizing start with
    | nil =>
        intro _ _ _ w mem
        cases mem
    | cons w ws ih =>
        rintro ⟨own, rest⟩ rising after w' mem
        rw [List.map_cons, List.pairwise_cons] at rising
        rcases List.mem_cons.mp mem with rfl | there
        · exact own.ge
        · have stops : ∀ w' ∈ ws, w.stop ≤ w'.stop := by
            intro w' mem
            exact le_of_lt (rising.1 _ (List.mem_map_of_mem mem))
          exact (after w List.mem_cons_self).trans (ih rest rising.2 stops w' there)
  induction ws generalizing start with
  | nil => exact .nil
  | cons w ws ih =>
      obtain ⟨own, rest⟩ := chained
      rw [List.map_cons, List.pairwise_cons] at rising
      refine List.pairwise_cons.mpr ⟨?_, ih rest rising.2⟩
      refine bounded rest rising.2 ?_
      intro w' mem
      exact le_of_lt (rising.1 _ (List.mem_map_of_mem mem))

/-- What no two elements share, at most one has. -/
theorem filter_length_le_one {α : Type} {p : α → Bool} {xs : List α}
    (apart : xs.Pairwise fun x y => ¬ (p x = true ∧ p y = true)) : (xs.filter p).length ≤ 1 := by
  induction xs with
  | nil => exact Nat.zero_le 1
  | cons x xs ih =>
      rw [List.pairwise_cons] at apart
      by_cases here : p x = true
      · have none : xs.filter p = [] := by
          refine List.filter_eq_nil_iff.mpr ?_
          intro y mem there
          exact apart.1 y mem ⟨here, there⟩
        rw [List.filter_cons_of_pos here, none]
        exact Nat.le_refl 1
      · rw [List.filter_cons_of_neg here]
        exact ih apart.2

theorem one_le_filter_length {α : Type} {p : α → Bool} {xs : List α} (found : ∃ x ∈ xs, p x = true) :
    1 ≤ (xs.filter p).length := by
  obtain ⟨x, mem, here⟩ := found
  exact List.length_pos_of_mem (List.mem_filter.mpr ⟨mem, here⟩)

end Tiling
