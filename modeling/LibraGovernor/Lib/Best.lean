/-
# LibraGovernor.Lib.Best -- the best element of a list

`ORDER BY ... LIMIT 1` and `MAX` keep the best row of a scan; of two equally good rows the
first stays.  `best_mem` and `best_eq_none_iff` say what is found, `best_bound` that nothing
of the list beats it, and `best_append_singleton` what one more row changes.
-/
import Mathlib.Data.List.Induction
import Mathlib.Order.Basic

namespace Scan

set_option autoImplicit false

variable {α : Type} {better : α → α → Bool}

/-- The better of what was kept and the next element. -/
def prefer (better : α → α → Bool) : Option α → α → Option α
  | none, x => some x
  | some kept, x => if better x kept then some x else some kept

def best (better : α → α → Bool) (xs : List α) : Option α := xs.foldl (prefer better) none

theorem best_append_singleton (xs : List α) (x : α) :
    best better (xs ++ [x]) = prefer better (best better xs) x := by
  rw [best, List.foldl_append]
  rfl

theorem prefer_ne_none (kept : Option α) (x : α) : prefer better kept x ≠ none := by
  cases kept with
  | none => exact Option.some_ne_none x
  | some b =>
      rw [prefer]
      split
      · exact Option.some_ne_none x
      · exact Option.some_ne_none b

theorem best_eq_none_iff (xs : List α) : best better xs = none ↔ xs = [] := by
  induction xs using List.reverseRecOn with
  | nil => exact ⟨fun _ => rfl, fun _ => rfl⟩
  | append_singleton xs x ih =>
      rw [best_append_singleton]
      constructor
      · intro none
        exact absurd none (prefer_ne_none _ x)
      · intro empty
        simp at empty

theorem best_mem {xs : List α} {b : α} (found : best better xs = some b) : b ∈ xs := by
  induction xs using List.reverseRecOn with
  | nil => cases found
  | append_singleton xs x ih =>
      rw [best_append_singleton] at found
      rw [List.mem_append, List.mem_singleton]
      cases kept : best better xs with
      | none =>
          rw [kept] at found
          cases found
          exact .inr rfl
      | some b' =>
          rw [kept] at found
          rw [prefer] at found
          split at found
          · cases found
            exact .inr rfl
          · cases found
            exact .inl (ih kept)

/-- Nothing of the list is past the best, in an order that `better` decides on the list. -/
theorem best_bound {R : α → α → Prop} (refl : ∀ x, R x x)
    (trans : ∀ x y z, R x y → R y z → R x z) {xs : List α}
    (up : ∀ x ∈ xs, ∀ y ∈ xs, better x y = true → R y x)
    (stay : ∀ x ∈ xs, ∀ y ∈ xs, better x y = false → R x y)
    {b : α} (found : best better xs = some b) : ∀ x ∈ xs, R x b := by
  induction xs using List.reverseRecOn generalizing b with
  | nil => cases found
  | append_singleton xs x ih =>
      have old : ∀ {y}, y ∈ xs → y ∈ xs ++ [x] := fun mem => List.mem_append_left [x] mem
      have new : x ∈ xs ++ [x] := List.mem_append_right xs (List.mem_singleton_self x)
      have earlier : ∀ b', best better xs = some b' → ∀ y ∈ xs, R y b' := by
        intro b' kept
        refine ih ?_ ?_ kept
        · intro y mem z mem'
          exact up y (old mem) z (old mem')
        · intro y mem z mem'
          exact stay y (old mem) z (old mem')
      rw [best_append_singleton] at found
      intro y mem
      rw [List.mem_append, List.mem_singleton] at mem
      cases kept : best better xs with
      | none =>
          rw [kept] at found
          cases found
          rw [(best_eq_none_iff xs).mp kept] at mem
          rcases mem with mem | rfl
          · cases mem
          · exact refl y
      | some b' =>
          have there := best_mem kept
          rw [kept, prefer] at found
          split at found
          · rename_i wins
            cases found
            rcases mem with mem | rfl
            · exact trans y b' x (earlier b' kept y mem) (up x new b' (old there) wins)
            · exact refl y
          · rename_i loses
            cases found
            rcases mem with mem | rfl
            · exact earlier b kept y mem
            · exact stay y new b (old there) (by simpa using loses)

end Scan
