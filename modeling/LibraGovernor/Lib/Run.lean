/-
# LibraGovernor.Lib.Run -- runs of a deterministic transition system

A run folds a step function over a list of operations.  `Along` says that every
step of a run satisfies a condition at the state it starts from; `total` adds up
a per-step quantity and `times` counts the steps that satisfy a test.

The rules: an invariant is proved one step at a time (`run_invariant`), so is a
relation between the first and the last state (`run_relates`) and an invariant that
speaks of what the steps have contributed (`run_accumulates`); something each step can
do only while it is not yet done happens at most once (`times_le_one`); a register that
ignores what it has has counted everything when all of it was different (`registered_iff`).
-/
import Mathlib.Order.Basic

namespace Transition

set_option autoImplicit false

universe u v

variable {σ : Type u} {ι : Type v}

def run (step : σ → ι → σ) : σ → List ι → σ
  | s, [] => s
  | s, op :: ops => run step (step s op) ops

/-- Every step of the run satisfies `ok` at the state it starts from. -/
def Along (step : σ → ι → σ) (ok : σ → ι → Prop) : σ → List ι → Prop
  | _, [] => True
  | s, op :: ops => ok s op ∧ Along step ok (step s op) ops

/-- The sum of what the steps of the run contribute. -/
def total (step : σ → ι → σ) (w : σ → ι → Nat) : σ → List ι → Nat
  | _, [] => 0
  | s, op :: ops => w s op + total step w (step s op) ops

/-- How many steps of the run pass `test`. -/
def times (step : σ → ι → σ) (test : σ → ι → Bool) (s : σ) (ops : List ι) : Nat :=
  total step (fun s op => (test s op).toNat) s ops

variable {step : σ → ι → σ}

theorem run_append (s : σ) (ops more : List ι) :
    run step s (ops ++ more) = run step (run step s ops) more := by
  induction ops generalizing s with
  | nil => rfl
  | cons op ops ih => exact ih (step s op)

theorem along_append {ok : σ → ι → Prop} (s : σ) (ops more : List ι) :
    Along step ok s (ops ++ more) ↔ Along step ok s ops ∧ Along step ok (run step s ops) more := by
  induction ops generalizing s with
  | nil => simp [Along, run]
  | cons op ops ih =>
      show ok s op ∧ Along step ok (step s op) (ops ++ more) ↔ _
      rw [ih]
      exact and_assoc.symm

theorem along_of_forall {ok : σ → ι → Prop} (always : ∀ s op, ok s op) (s : σ) (ops : List ι) :
    Along step ok s ops := by
  induction ops generalizing s with
  | nil => trivial
  | cons op ops ih => exact ⟨always s op, ih (step s op)⟩

/-- A condition on the operations alone. -/
theorem along_of_mem {ok : ι → Prop} {ops : List ι} (each : ∀ op ∈ ops, ok op) (s : σ) :
    Along step (fun _ op => ok op) s ops := by
  induction ops generalizing s with
  | nil => trivial
  | cons op ops ih =>
      refine ⟨each op List.mem_cons_self, ih ?_ (step s op)⟩
      intro later mem
      exact each later (List.mem_cons_of_mem op mem)

theorem Along.mono {ok ok' : σ → ι → Prop} (weaker : ∀ s op, ok s op → ok' s op) {s : σ}
    {ops : List ι} (along : Along step ok s ops) : Along step ok' s ops := by
  induction ops generalizing s with
  | nil => trivial
  | cons op ops ih => exact ⟨weaker s op along.1, ih along.2⟩

/-- An invariant that every admissible step keeps holds at the end of the run. -/
theorem run_invariant {ok : σ → ι → Prop} {inv : σ → Prop}
    (keep : ∀ s op, inv s → ok s op → inv (step s op)) {s : σ} {ops : List ι}
    (along : Along step ok s ops) (start : inv s) : inv (run step s ops) := by
  induction ops generalizing s with
  | nil => exact start
  | cons op ops ih => exact ih along.2 (keep s op start along.1)

/-- An invariant that every step keeps holds at the end of any run. -/
theorem run_invariant_always {inv : σ → Prop} (keep : ∀ s op, inv s → inv (step s op)) {s : σ}
    (start : inv s) (ops : List ι) : inv (run step s ops) :=
  run_invariant (fun s op good _ => keep s op good)
    (along_of_forall (fun _ _ => trivial : ∀ _ _, True) s ops) start

/-- A reflexive, transitive relation that holds across every step holds across the
run. -/
theorem run_relates (rel : σ → σ → Prop) (refl : ∀ s, rel s s)
    (trans : ∀ a b c, rel a b → rel b c → rel a c) (steps : ∀ s op, rel s (step s op)) (s : σ)
    (ops : List ι) : rel s (run step s ops) := by
  induction ops generalizing s with
  | nil => exact refl s
  | cons op ops ih => exact trans _ _ _ (steps s op) (ih (step s op))

/-- An invariant that speaks of what the steps have contributed so far holds at the
end of the run of the whole total. -/
theorem run_accumulates {ok : σ → ι → Prop} {inv : Nat → σ → Prop} {w : σ → ι → Nat}
    (steps : ∀ s op spent, ok s op → inv spent s → inv (spent + w s op) (step s op)) {s : σ}
    {ops : List ι} {spent : Nat} (along : Along step ok s ops) (start : inv spent s) :
    inv (spent + total step w s ops) (run step s ops) := by
  induction ops generalizing s spent with
  | nil => exact start
  | cons op ops ih =>
      rw [run, total, ← Nat.add_assoc]
      exact ih along.2 (steps s op spent along.1 start)

/-- What the steps of the run put out, in order. -/
def emitted {α : Type} (step : σ → ι → σ) (emit : σ → ι → Option α) : σ → List ι → List α
  | _, [] => []
  | s, op :: ops => (emit s op).toList ++ emitted step emit (step s op) ops

/-- A register that takes in what it has not yet, and ignores the rest: it has counted
everything put out exactly when all of it was different, and new. -/
theorem registered_iff {α : Type} {ok : σ → ι → Prop} (emit : σ → ι → Option α)
    (count : σ → Nat) (has : σ → α → Prop)
    (quiet : ∀ s op, ok s op → (∀ a, emit s op = some a → has s a) →
      count (step s op) = count s ∧ ∀ b, has (step s op) b ↔ has s b)
    (adds : ∀ s op a, ok s op → emit s op = some a → ¬ has s a →
      count (step s op) = count s + 1 ∧ ∀ b, has (step s op) b ↔ has s b ∨ b = a)
    {s : σ} {ops : List ι} (along : Along step ok s ops) :
    count (run step s ops) ≤ count s + (emitted step emit s ops).length ∧
    (count (run step s ops) = count s + (emitted step emit s ops).length ↔
      (emitted step emit s ops).Nodup ∧ ∀ a ∈ emitted step emit s ops, ¬ has s a) := by
  induction ops generalizing s with
  | nil => simp [run, emitted]
  | cons op ops ih =>
      obtain ⟨bound, exactly⟩ := ih along.2
      rw [run, emitted]
      cases put : emit s op with
      | none =>
          obtain ⟨count_eq, has_iff⟩ := quiet s op along.1 (by simp [put])
          simp only [Option.toList_none, List.nil_append]
          rw [count_eq] at bound exactly
          simp only [has_iff] at exactly
          exact ⟨bound, exactly⟩
      | some a =>
          simp only [Option.toList_some, List.singleton_append, List.length_cons, List.nodup_cons,
            List.mem_cons, forall_eq_or_imp]
          by_cases old : has s a
          · obtain ⟨count_eq, -⟩ := quiet s op along.1 fun b same => by
              cases put.symm.trans same
              exact old
            rw [count_eq] at bound
            refine ⟨by omega, ?_⟩
            constructor
            · intro all
              omega
            · rintro ⟨-, new, -⟩
              exact absurd old new
          · obtain ⟨count_eq, has_iff⟩ := adds s op a along.1 put old
            rw [count_eq] at bound exactly
            refine ⟨by omega, ?_⟩
            rw [show count (run step (step s op) ops) = count s + ((emitted step emit (step s op) ops).length + 1) ↔
              count (run step (step s op) ops) = count s + 1 + (emitted step emit (step s op) ops).length
              by omega, exactly]
            constructor
            · rintro ⟨nodup, new⟩
              refine ⟨⟨?_, nodup⟩, old, ?_⟩
              · intro again
                exact new a again ((has_iff a).mpr (.inr rfl))
              · intro b mem here
                exact new b mem ((has_iff b).mpr (.inl here))
            · rintro ⟨⟨once, nodup⟩, -, new⟩
              refine ⟨nodup, ?_⟩
              intro b mem here
              rcases (has_iff b).mp here with before | rfl
              · exact new b mem before
              · exact once mem

theorem total_add (w w' : σ → ι → Nat) (s : σ) (ops : List ι) :
    total step (fun s op => w s op + w' s op) s ops = total step w s ops + total step w' s ops := by
  induction ops generalizing s with
  | nil => rfl
  | cons op ops ih =>
      simp only [total, ih]
      omega

theorem times_eq_zero {test : σ → ι → Bool} (done : σ → Prop)
    (stays : ∀ s op, done s → done (step s op))
    (blocked : ∀ s op, done s → test s op = false) {s : σ} (start : done s) (ops : List ι) :
    times step test s ops = 0 := by
  induction ops generalizing s with
  | nil => rfl
  | cons op ops ih =>
      have rest := ih (stays s op start)
      simp only [times, total] at rest ⊢
      simp [blocked s op start, rest]

/-- What a step can do only while it is not done, and what is then done for good,
happens at most once in any run. -/
theorem times_le_one {test : σ → ι → Bool} (done : σ → Prop)
    (finishes : ∀ s op, test s op = true → done (step s op))
    (stays : ∀ s op, done s → done (step s op))
    (blocked : ∀ s op, done s → test s op = false) (s : σ) (ops : List ι) :
    times step test s ops ≤ 1 := by
  induction ops generalizing s with
  | nil => exact Nat.zero_le 1
  | cons op ops ih =>
      have rest := ih (step s op)
      simp only [times, total] at rest ⊢
      cases now : test s op with
      | false => simpa using rest
      | true =>
          have finished := times_eq_zero done stays blocked (finishes s op now) ops
          simp only [times] at finished
          simp [finished]

end Transition
