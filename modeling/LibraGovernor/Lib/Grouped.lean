/-
# LibraGovernor.Lib.Grouped -- rows grouped by a key

`grouped` is `GROUP BY`: one group for each key that occurs, with the rows of that key.
What is added up over the groups is what is added up over the rows (`sum_grouped`), and
something holds of every group exactly when it holds of every key's rows
(`forall_grouped`).
-/
import Mathlib.Algebra.BigOperators.Group.List.Basic
import Mathlib.Algebra.GroupWithZero.Nat
import Mathlib.Data.List.Dedup

namespace Grouping

set_option autoImplicit false

variable {α κ : Type} [DecidableEq κ]

/-- The rows of a key. -/
def ofKey (key : α → κ) (k : κ) (xs : List α) : List α := xs.filter fun x => key x = k

/-- One group for each key, in the order the keys are last met. -/
def grouped (key : α → κ) (xs : List α) : List (κ × List α) :=
  (xs.map key).dedup.map fun k => (k, ofKey key k xs)

theorem mem_grouped {key : α → κ} {xs : List α} {g : κ × List α} :
    g ∈ grouped key xs ↔ g.2 = ofKey key g.1 xs ∧ g.2 ≠ [] := by
  obtain ⟨k, rows⟩ := g
  have listed : k ∈ (xs.map key).dedup ↔ ofKey key k xs ≠ [] := by
    rw [List.mem_dedup, List.mem_map, ofKey, ne_eq, List.filter_eq_nil_iff]
    simp only [decide_eq_true_eq, not_forall, not_not, exists_prop]
  constructor
  · intro mem
    obtain ⟨k', there, same⟩ := List.mem_map.mp mem
    cases same
    exact ⟨rfl, listed.mp there⟩
  · rintro ⟨own, some_⟩
    simp only at own some_
    subst own
    exact List.mem_map.mpr ⟨k, listed.mpr some_, rfl⟩

/-- A property that no rows have is had by every group exactly when by every key. -/
theorem forall_grouped {key : α → κ} {xs : List α} {P : List α → Prop} (none : P []) :
    (∀ g ∈ grouped key xs, P g.2) ↔ ∀ k, P (ofKey key k xs) := by
  constructor
  · intro each k
    by_cases empty : ofKey key k xs = []
    · rw [empty]
      exact none
    · exact each (k, ofKey key k xs) (mem_grouped.mpr ⟨rfl, empty⟩)
  · intro each g mem
    rw [(mem_grouped.mp mem).1]
    exact each g.1

theorem sum_ite_eq {ks : List κ} (nodup : ks.Nodup) {k : κ} (mem : k ∈ ks) (v : Nat) :
    (ks.map fun k' => if k = k' then v else 0).sum = v := by
  induction ks with
  | nil => cases mem
  | cons k' ks ih =>
      rw [List.nodup_cons] at nodup
      rw [List.map_cons, List.sum_cons]
      by_cases here : k = k'
      · have others : ∀ k'' ∈ ks, (if k = k'' then v else 0) = 0 := by
          intro k'' mem
          refine if_neg ?_
          rintro rfl
          exact nodup.1 (here ▸ mem)
        rw [if_pos here, List.map_congr_left others]
        simp
      · rw [if_neg here, Nat.zero_add]
        exact ih nodup.2 ((List.mem_cons.mp mem).resolve_left here)

/-- The sums of the groups add up to the sum of the rows. -/
theorem sum_grouped (key : α → κ) (xs : List α) (w : α → Nat) :
    ((grouped key xs).map fun g => (g.2.map w).sum).sum = (xs.map w).sum := by
  have total : ∀ (ks : List κ) (rows : List α), ks.Nodup → (∀ x ∈ rows, key x ∈ ks) →
      (ks.map fun k => ((ofKey key k rows).map w).sum).sum = (rows.map w).sum := by
    intro ks rows nodup
    induction rows with
    | nil =>
        intro _
        simp [ofKey]
    | cons x rows ih =>
        intro listed
        have split : ∀ k, ((ofKey key k (x :: rows)).map w).sum =
            (if key x = k then w x else 0) + ((ofKey key k rows).map w).sum := by
          intro k
          by_cases here : key x = k
          · simp [ofKey, here]
          · simp [ofKey, here]
        simp only [split, List.sum_map_add, List.map_cons, List.sum_cons]
        rw [sum_ite_eq nodup (listed x List.mem_cons_self), ih]
        intro y mem
        exact listed y (List.mem_cons_of_mem x mem)
  rw [grouped, List.map_map]
  refine total (xs.map key).dedup xs (List.nodup_dedup _) ?_
  intro x mem
  exact List.mem_dedup.mpr (List.mem_map_of_mem mem)

end Grouping
