/-
# LibraGovernor.Lib.Transaction -- fallible computations that commit or roll back

A transaction over a state is an `Except` of an outcome and the next state.
`commit` is the state it leaves behind: the next state when it succeeds, the old
one when it fails.  The `ok` lemmas take a successful `do` block apart, one bind
at a time.
-/
import Mathlib.Order.Basic

namespace Transaction

set_option autoImplicit false

variable {ε α β σ : Type}

@[simp] theorem bind_eq_ok_iff (x : Except ε α) (f : α → Except ε β) (b : β) :
    (x >>= f) = .ok b ↔ ∃ a, x = .ok a ∧ f a = .ok b := by
  cases x with
  | error e =>
      constructor
      · intro failed
        cases failed
      · rintro ⟨a, failed, -⟩
        cases failed
  | ok a =>
      constructor
      · intro rest
        exact ⟨a, rfl, rest⟩
      · rintro ⟨a', same, rest⟩
        cases same
        exact rest

theorem bind_eq_error_iff (x : Except ε α) (f : α → Except ε β) (e : ε) :
    (x >>= f) = .error e ↔ x = .error e ∨ ∃ a, x = .ok a ∧ f a = .error e := by
  cases x with
  | error e' =>
      constructor
      · intro failed
        cases failed
        exact .inl rfl
      · rintro (same | ⟨a, failed, -⟩)
        · cases same
          rfl
        · cases failed
  | ok a =>
      constructor
      · intro rest
        exact .inr ⟨a, rfl, rest⟩
      · rintro (failed | ⟨a', same, rest⟩)
        · cases failed
        · cases same
          exact rest

@[simp] theorem pure_eq_ok_iff (a b : α) : (pure a : Except ε α) = .ok b ↔ a = b := by
  constructor
  · intro same
    cases same
    rfl
  · rintro rfl
    rfl

@[simp] theorem throw_ne_ok (e : ε) (b : α) : (throw e : Except ε α) ≠ .ok b := by
  intro failed
  cases failed

/-- An error neither part ends with. -/
theorem bind_ne_error {x : Except ε α} {f : α → Except ε β} {e : ε} (first : x ≠ .error e)
    (next : ∀ a, f a ≠ .error e) : (x >>= f) ≠ .error e := by
  intro failed
  obtain here | ⟨a, -, there⟩ := (bind_eq_error_iff x f e).mp failed
  · exact first here
  · exact next a there

theorem mapM_eq_ok {f : α → Except ε β} {g : α → β} {xs : List α} (each : ∀ x ∈ xs, f x = .ok (g x)) :
    xs.mapM f = .ok (xs.map g) := by
  induction xs with
  | nil => rfl
  | cons x xs ih =>
      rw [List.mapM_cons, each x List.mem_cons_self, ih fun y mem => each y (List.mem_cons_of_mem x mem)]
      rfl

theorem mapM_ok_mem {f : α → Except ε β} {xs : List α} {ys : List β} (done : xs.mapM f = .ok ys) :
    ∀ x ∈ xs, ∃ y, f x = .ok y := by
  induction xs generalizing ys with
  | nil =>
      intro x mem
      cases mem
  | cons x xs ih =>
      rw [List.mapM_cons] at done
      obtain ⟨y, here, done⟩ := (bind_eq_ok_iff _ _ _).mp done
      obtain ⟨rest, there, -⟩ := (bind_eq_ok_iff _ _ _).mp done
      intro x' mem
      rcases List.mem_cons.mp mem with rfl | later
      · exact ⟨y, here⟩
      · exact ih there x' later

theorem mapM_ok_of_forall {f : α → Except ε β} {xs : List α} (each : ∀ x ∈ xs, ∃ y, f x = .ok y) :
    ∃ ys, xs.mapM f = .ok ys := by
  induction xs with
  | nil => exact ⟨[], rfl⟩
  | cons x xs ih =>
      obtain ⟨y, here⟩ := each x List.mem_cons_self
      obtain ⟨ys, there⟩ := ih fun x' mem => each x' (List.mem_cons_of_mem x mem)
      rw [List.mapM_cons, here, there]
      exact ⟨y :: ys, rfl⟩

/-- The state a transaction leaves behind. -/
def commit (s : σ) : Except ε (α × σ) → σ
  | .ok (_, next) => next
  | .error _ => s

@[simp] theorem commit_ok (s : σ) (a : α) (next : σ) :
    commit s (.ok (a, next) : Except ε (α × σ)) = next := rfl

@[simp] theorem commit_error (s : σ) (e : ε) :
    commit s (.error e : Except ε (α × σ)) = s := rfl

/-- What holds before a transaction and after it whenever it succeeds holds of what it
leaves behind. -/
theorem commit_of {P : σ → Prop} {s : σ} {x : Except ε (α × σ)} (start : P s)
    (done : ∀ a next, x = .ok (a, next) → P next) : P (commit s x) := by
  cases x with
  | error e => exact start
  | ok result => exact done result.1 result.2 rfl

end Transaction
