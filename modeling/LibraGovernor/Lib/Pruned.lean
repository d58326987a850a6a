/-
# LibraGovernor.Lib.Pruned -- a list with some items dropped

`Pruned related droppable less more` says that `less` is `more` without some of its items, each of
them droppable, and with the others related in order.  `Kept` is the same for a value that may be
there or not.
-/
import Mathlib.Data.List.Basic

set_option autoImplicit false

variable {α : Type} (related : α → α → Prop) (droppable : α → Prop)

inductive Pruned : List α → List α → Prop
  | nil : Pruned [] []
  | keep {x y : α} {xs ys : List α} (same : related x y) (rest : Pruned xs ys) :
      Pruned (x :: xs) (y :: ys)
  | drop {y : α} {xs ys : List α} (gone : droppable y) (rest : Pruned xs ys) : Pruned xs (y :: ys)

inductive Kept : Option α → Option α → Prop
  | none : Kept none none
  | keep {x y : α} (same : related x y) : Kept (some x) (some y)
  | drop {y : α} (gone : droppable y) : Kept none (some y)

variable {related droppable}

namespace Pruned

theorem of_filterMap {choose : α → Option α} {xs : List α}
    (each : ∀ x ∈ xs, (∃ y, choose x = some y ∧ related y x) ∨ (choose x = none ∧ droppable x)) :
    Pruned related droppable (xs.filterMap choose) xs := by
  induction xs with
  | nil => exact .nil
  | cons x xs ih =>
      have rest := ih fun y mem => each y (List.mem_cons_of_mem x mem)
      rcases each x List.mem_cons_self with ⟨y, chosen, same⟩ | ⟨not_chosen, gone⟩
      · rw [List.filterMap_cons_some chosen]
        exact .keep same rest
      · rw [List.filterMap_cons_none not_chosen]
        exact .drop gone rest

theorem of_filter {p : α → Bool} {xs : List α} (each : ∀ x ∈ xs, p x = false → droppable x) :
    Pruned Eq droppable (xs.filter p) xs := by
  rw [← List.filterMap_eq_filter]
  refine of_filterMap fun x mem => ?_
  cases here : p x with
  | true => exact .inl ⟨x, by simp [Option.guard, here], rfl⟩
  | false => exact .inr ⟨by simp [Option.guard, here], each x mem here⟩

theorem refl {xs : List α} (each : ∀ x ∈ xs, related x x) : Pruned related droppable xs xs := by
  induction xs with
  | nil => exact .nil
  | cons x xs ih =>
      exact .keep (each x List.mem_cons_self) (ih fun y mem => each y (List.mem_cons_of_mem x mem))

/-- An item more at the end. -/
theorem concat {xs : List α} (each : ∀ x ∈ xs, related x x) {y : α} (gone : droppable y) :
    Pruned related droppable xs (xs ++ [y]) := by
  induction xs with
  | nil => exact .drop gone .nil
  | cons x xs ih =>
      exact .keep (each x List.mem_cons_self) (ih fun z mem => each z (List.mem_cons_of_mem x mem))

end Pruned
