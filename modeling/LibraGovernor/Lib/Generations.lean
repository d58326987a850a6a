/-
# LibraGovernor.Lib.Generations -- walking a relation generation by generation

A recursive query starts from a node and adds, round after round, the children of what the last
round added.  Where every child has a higher rank than its parent the rounds run dry after as many
as there are ranks (`generation_eq_nil`), and what is added up over the walk is a node's own value
and what is added up over its children (`sum_walk`).
-/
import Mathlib.Algebra.BigOperators.Group.List.Basic
import Mathlib.Algebra.Order.Group.Nat

namespace Generations

set_option autoImplicit false

variable {α : Type} (children : α → List α)

/-- What the round adds. -/
def generation : ℕ → α → List α
  | 0, a => [a]
  | n + 1, a => (generation n a).flatMap children

/-- Everything the rounds before the given one add. -/
def walk (rounds : ℕ) (a : α) : List α := (List.range rounds).flatMap fun n => generation children n a

variable {children}

theorem generation_succ (n : ℕ) (a : α) :
    generation children (n + 1) a = (children a).flatMap (generation children n) := by
  induction n with
  | zero => simp [generation]
  | succ n ih =>
      rw [generation, ih, List.flatMap_assoc]
      rfl

theorem rank_generation {rank : α → ℕ} (up : ∀ a, ∀ c ∈ children a, rank a < rank c) {n : ℕ} {a x : α}
    (mem : x ∈ generation children n a) : rank a + n ≤ rank x := by
  induction n generalizing x with
  | zero =>
      cases List.mem_singleton.mp mem
      exact le_rfl
  | succ n ih =>
      obtain ⟨p, there, child⟩ := List.mem_flatMap.mp mem
      have := ih there
      have := up p x child
      omega

/-- After as many rounds as there are ranks nothing is added. -/
theorem generation_eq_nil {rank : α → ℕ} (up : ∀ a, ∀ c ∈ children a, rank a < rank c) {bound : ℕ}
    (below : ∀ a, ∀ c ∈ children a, rank c < bound) {a : α} (start : rank a < bound) {n : ℕ}
    (enough : bound ≤ n) : generation children n a = [] := by
  rw [List.eq_nil_iff_forall_not_mem]
  intro x mem
  have high := rank_generation up mem
  have low : rank x < bound := by
    cases n with
    | zero =>
        cases List.mem_singleton.mp mem
        exact start
    | succ n =>
        obtain ⟨p, -, child⟩ := List.mem_flatMap.mp mem
        exact below p x child
  omega

variable {M : Type} [AddCommMonoid M] (f : α → M)

theorem sum_flatMap {β : Type} (xs : List β) (g : β → List α) :
    ((xs.flatMap g).map f).sum = (xs.map fun x => ((g x).map f).sum).sum := by
  induction xs with
  | nil => rfl
  | cons x xs ih => rw [List.flatMap_cons, List.map_append, List.sum_append, ih, List.map_cons, List.sum_cons]

theorem walk_succ (n : ℕ) (a : α) :
    walk children (n + 1) a = walk children n a ++ generation children n a := by
  rw [walk, List.range_succ, List.flatMap_append]
  simp [walk]

/-- What is added up over a walk: a node's own value, and what is added up over its children. -/
theorem sum_walk (n : ℕ) (a : α) :
    ((walk children (n + 1) a).map f).sum =
      f a + ((children a).map fun c => ((walk children n c).map f).sum).sum := by
  induction n with
  | zero => simp [walk, generation]
  | succ n ih =>
      rw [walk_succ, List.map_append, List.sum_append, ih, generation_succ, sum_flatMap, add_assoc,
        ← List.sum_map_add]
      refine congrArg (fun xs => f a + List.sum xs) (List.map_congr_left fun c _ => ?_)
      rw [walk_succ, List.map_append, List.sum_append]

/-- Once a round adds nothing, the walk is over. -/
theorem sum_walk_stable {n : ℕ} {a : α} (dry : generation children n a = []) :
    ((walk children (n + 1) a).map f).sum = ((walk children n a).map f).sum := by
  rw [walk_succ, dry, List.append_nil]

end Generations
