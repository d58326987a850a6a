/-
# LibraGovernor.Lib.Cut -- procedures that may be cut off between two writes

A `Script` is a procedure whose writes are counted: it carries how many more of them
commit before the process is killed, `none` when nothing kills it.  A write that is not
reached ends the script where it stands, so running a script with every count gives every
store the process can be cut off at; a write that fails on its own looks the same from
outside.

`Script.run` starts a script on a store.  `Triple` and `Keeps` speak of the store alone.
-/
import LibraGovernor.Lib.Procedure

namespace Transaction

set_option autoImplicit false

/-- A store and the number of writes that still commit. -/
structure Counted (σ : Type) where
  store : σ
  left : Option Nat

/-- How a script ends without a value. -/
inductive Stopped (ε : Type) where
  | killed
  | failed (e : ε)

/-- What is left after one more write; `none` when it does not commit. -/
def spend : Option Nat → Option (Option Nat)
  | none => some none
  | some 0 => none
  | some (n + 1) => some (some n)

/-- A procedure whose writes are counted. -/
abbrev Script (σ ε α : Type) : Type := Procedure (Counted σ) (Stopped ε) α

namespace Script

variable {σ ε ε' α β : Type}

def read (f : σ → α) : Script σ ε α := Procedure.read fun c => f c.store

def fail (e : ε) : Script σ ε α := Procedure.fail (.failed e)

/-- A write: one transaction, unless the process is gone before it. -/
def write (lift : ε' → ε) (tx : σ → Except ε' (α × σ)) : Script σ ε α := fun c =>
  match spend c.left with
  | none => (.error .killed, c)
  | some left =>
      match tx c.store with
      | .ok (a, next) => (.ok a, ⟨next, left⟩)
      | .error e => (.error (.failed (lift e)), c)

/-- Runs a script on a store. -/
def run (p : Script σ ε α) (left : Option Nat) (s : σ) : Except (Stopped ε) α × σ :=
  ((p ⟨s, left⟩).1, (p ⟨s, left⟩).2.store)

/-! ## Pre- and postconditions of the store -/

/-- A triple whose conditions do not see the count. -/
def Triple (pre : σ → Prop) (p : Script σ ε α) (post : Except (Stopped ε) α → σ → Prop) : Prop :=
  Procedure.Triple (fun c => pre c.store) p fun r c => post r c.store

namespace Triple

variable {pre : σ → Prop} {post : Except (Stopped ε) α → σ → Prop}

theorem run {p : Script σ ε α} (triple : Triple pre p post) (left : Option Nat) {s : σ}
    (holds : pre s) : post (p.run left s).1 (p.run left s).2 := triple ⟨s, left⟩ holds

theorem conseq {pre' : σ → Prop} {post' : Except (Stopped ε) α → σ → Prop} {p : Script σ ε α}
    (triple : Triple pre p post) (stronger : ∀ s, pre' s → pre s)
    (weaker : ∀ r s, post r s → post' r s) : Triple pre' p post' :=
  Procedure.Triple.conseq triple (fun c => stronger c.store) fun r c => weaker r c.store

theorem pure {a : α} (holds : ∀ s, pre s → post (.ok a) s) :
    Triple pre (Pure.pure a : Script σ ε α) post := Procedure.Triple.pure fun c => holds c.store

theorem fail {e : ε} (holds : ∀ s, pre s → post (.error (.failed e)) s) :
    Triple pre (Script.fail e : Script σ ε α) post := Procedure.Triple.fail fun c => holds c.store

theorem bind {P : σ → Prop} {p : Script σ ε α} {f : α → Script σ ε β} {M : α → σ → Prop}
    {post : Except (Stopped ε) β → σ → Prop}
    (first : Triple P p fun r s =>
      match r with
      | .ok a => M a s
      | .error e => post (.error e) s)
    (next : ∀ a, Triple (M a) (f a) post) : Triple P (p >>= f) post := by
  refine Procedure.Triple.bind (M := fun a (c : Counted σ) => M a c.store) ?_ next
  intro c holds
  have done := first c holds
  split
  · rename_i a answered
    rw [answered] at done
    exact done
  · rename_i e answered
    rw [answered] at done
    exact done

/-- A read names the value it saw. -/
theorem read_bind {f : σ → α} {next : α → Script σ ε β} {post : Except (Stopped ε) β → σ → Prop}
    (rest : ∀ a, Triple (fun s => pre s ∧ f s = a) (next a) post) :
    Triple pre (Script.read f >>= next) post := Procedure.Triple.read_bind rest

/-- A write commits, fails by its own error or is not reached. -/
theorem write_cases {lift : ε' → ε} {tx : σ → Except ε' (α × σ)}
    (done : ∀ s a next, pre s → tx s = .ok (a, next) → post (.ok a) next)
    (killed : ∀ s, pre s → post (.error .killed) s)
    (failed : ∀ s e, pre s → post (.error (.failed (lift e))) s) :
    Triple pre (Script.write lift tx) post := by
  intro c holds
  unfold Script.write
  split
  · exact killed c.store holds
  · split
    · rename_i a next committed
      exact done c.store a next holds committed
    · exact failed c.store _ holds

/-- A write either commits or leaves the store as it is. -/
theorem write {lift : ε' → ε} {tx : σ → Except ε' (α × σ)}
    (done : ∀ s a next, pre s → tx s = .ok (a, next) → post (.ok a) next)
    (stopped : ∀ s e, pre s → post (.error e) s) : Triple pre (Script.write lift tx) post :=
  write_cases done (fun s => stopped s .killed) fun s e => stopped s (.failed (lift e))

/-- A rule for every store the precondition allows. -/
theorem of_start {p : Script σ ε α} (each : ∀ s, pre s → Triple (fun s' => s' = s) p post) :
    Triple pre p post := fun c holds => each c.store holds c rfl

/-- A write and what follows it. -/
theorem write_bind {lift : ε' → ε} {tx : σ → Except ε' (α × σ)} {M : α → σ → Prop}
    {next : α → Script σ ε β} {post : Except (Stopped ε) β → σ → Prop}
    (done : ∀ s a s', pre s → tx s = .ok (a, s') → M a s')
    (stopped : ∀ s e, pre s → post (.error e) s) (rest : ∀ a, Triple (M a) (next a) post) :
    Triple pre (Script.write lift tx >>= next) post :=
  bind (write done stopped) rest

end Triple

/-- The script keeps `inv` wherever it ends or is cut off. -/
def Keeps (inv : σ → Prop) (p : Script σ ε α) : Prop := Procedure.Keeps (fun c => inv c.store) p

namespace Keeps

variable {inv : σ → Prop}

theorem run {p : Script σ ε α} (keeps : Keeps inv p) (left : Option Nat) {s : σ} (holds : inv s) :
    inv (p.run left s).2 := keeps ⟨s, left⟩ holds

theorem pure (a : α) : Keeps inv (Pure.pure a : Script σ ε α) := Procedure.Keeps.pure a

theorem fail (e : ε) : Keeps inv (Script.fail e : Script σ ε α) := Procedure.Keeps.fail _

theorem bind {p : Script σ ε α} {f : α → Script σ ε β} (first : Keeps inv p)
    (next : ∀ a, Keeps inv (f a)) : Keeps inv (p >>= f) := Procedure.Keeps.bind first next

theorem read (f : σ → α) : Keeps inv (Script.read f : Script σ ε α) := Procedure.Keeps.read _

theorem caught {p : Script σ ε α} (keeps : Keeps inv p) : Keeps inv (Procedure.caught p) := keeps

theorem write {lift : ε' → ε} {tx : σ → Except ε' (α × σ)}
    (done : ∀ s a next, inv s → tx s = .ok (a, next) → inv next) :
    Keeps inv (Script.write lift tx) := Triple.write done fun _ _ holds => holds

end Keeps

/-- A first step that only keeps the precondition. -/
theorem Triple.keep_bind {inv : σ → Prop} {p : Script σ ε α} {f : α → Script σ ε β}
    {post : Except (Stopped ε) β → σ → Prop} (first : Keeps inv p)
    (stopped : ∀ e s, inv s → post (.error e) s) (next : ∀ a, Triple inv (f a) post) :
    Triple inv (p >>= f) post :=
  Procedure.Triple.keep_bind first (fun e c => stopped e c.store) next

end Script

end Transaction
