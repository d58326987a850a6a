/-
# LibraGovernor.Lib.Procedure -- procedures that run several transactions

A procedure over a store runs transactions one after the other and may fail
between them; what an earlier transaction committed stays when a later step
fails.  So a procedure always gives a store, beside a value or an error.

`Triple pre p post` is the rule of pre- and postconditions: the postcondition
speaks of the result, value or error, and of the store it is left with.  The
rules follow the constructors a procedure is written with (`Triple.bind`,
`Triple.read`, `Triple.transact`, `Triple.attempt`); `Keeps inv p` is the special
case of an invariant that survives every way the procedure can end, `Answers q p` speaks
of the value alone, and `Moves rel p` of the stores before and after.
-/
import LibraGovernor.Lib.Transaction
import Mathlib.Order.Defs.Unbundled

namespace Transaction

set_option autoImplicit false

/-- A run over a store: a value or an error, and the store that is left. -/
def Procedure (σ ε α : Type) : Type := σ → Except ε α × σ

namespace Procedure

variable {σ ε ε' α β : Type}

def bind (p : Procedure σ ε α) (f : α → Procedure σ ε β) : Procedure σ ε β := fun s =>
  match p s with
  | (.ok a, mid) => f a mid
  | (.error e, mid) => (.error e, mid)

instance : Monad (Procedure σ ε) where
  pure a := fun s => (.ok a, s)
  bind := bind

/-- Ends the procedure with an error. -/
def fail (e : ε) : Procedure σ ε α := fun s => (.error e, s)

/-- Reads the store. -/
def read (f : σ → α) : Procedure σ ε α := fun s => (.ok (f s), s)

/-- Runs a transaction; its failure ends the procedure. -/
def transact (lift : ε' → ε) (tx : σ → Except ε' (α × σ)) : Procedure σ ε α := fun s =>
  match tx s with
  | .ok (a, next) => (.ok a, next)
  | .error e => (.error (lift e), s)

/-- Runs a transaction and hands its failure to the caller. -/
def attempt (tx : σ → Except ε' (α × σ)) : Procedure σ ε (Except ε' α) := fun s =>
  match tx s with
  | .ok (a, next) => (.ok (.ok a), next)
  | .error e => (.ok (.error e), s)

/-- Runs a procedure and hands its error to the caller. -/
def caught (p : Procedure σ ε α) : Procedure σ ε (Except ε α) := fun s => (.ok (p s).1, (p s).2)

/-- Ends with a result that is already there. -/
def ended : Except ε α → Procedure σ ε α
  | .ok a => pure a
  | .error e => fail e

/-- Handing on a function of the value. -/
theorem bind_pure_apply (p : Procedure σ ε α) (f : α → β) (s : σ) :
    (p >>= fun a => (pure (f a) : Procedure σ ε β)) s = ((p s).1.map f, (p s).2) := by
  change Procedure.bind p _ s = _
  unfold Procedure.bind
  rcases result : p s with ⟨e | a, s'⟩
  · rfl
  · rfl

theorem bind_apply (p : Procedure σ ε α) (f : α → Procedure σ ε β) (s : σ) :
    (p >>= f) s = match p s with
      | (.ok a, mid) => f a mid
      | (.error e, mid) => (.error e, mid) := rfl

theorem bind_ok {p : Procedure σ ε α} {f : α → Procedure σ ε β} {s s' : σ} {a : α}
    (done : p s = (.ok a, s')) : (p >>= f) s = f a s' := by
  rw [bind_apply, done]

theorem read_bind_apply (f : σ → α) (g : α → Procedure σ ε β) (s : σ) :
    ((read f : Procedure σ ε α) >>= g) s = g (f s) s := rfl

theorem transact_ok {lift : ε' → ε} {tx : σ → Except ε' (α × σ)} {s s' : σ} {a : α}
    (done : tx s = .ok (a, s')) : (transact lift tx : Procedure σ ε α) s = (.ok a, s') := by
  unfold transact
  rw [done]

theorem transact_error {lift : ε' → ε} {tx : σ → Except ε' (α × σ)} {s : σ} {e : ε'}
    (failed : tx s = .error e) : (transact lift tx : Procedure σ ε α) s = (.error (lift e), s) := by
  unfold transact
  rw [failed]

theorem attempt_ok {tx : σ → Except ε' (α × σ)} {s s' : σ} {a : α} (done : tx s = .ok (a, s')) :
    (attempt tx : Procedure σ ε (Except ε' α)) s = (.ok (.ok a), s') := by
  unfold attempt
  rw [done]

theorem bind_assoc {γ : Type} (p : Procedure σ ε α) (f : α → Procedure σ ε β)
    (g : β → Procedure σ ε γ) : (p >>= f) >>= g = p >>= fun a => f a >>= g := by
  funext s
  rw [bind_apply, bind_apply, bind_apply]
  rcases p s with ⟨e | a, mid⟩
  · rfl
  · rfl

/-! ## Pre- and postconditions -/

def Triple (pre : σ → Prop) (p : Procedure σ ε α) (post : Except ε α → σ → Prop) : Prop :=
  ∀ s, pre s → post (p s).1 (p s).2

/-- The procedure keeps `inv`, however it ends. -/
def Keeps (inv : σ → Prop) (p : Procedure σ ε α) : Prop := Triple inv p fun _ s => inv s

namespace Triple

variable {pre pre' : σ → Prop} {post post' : Except ε α → σ → Prop}

theorem conseq {p : Procedure σ ε α} (triple : Triple pre p post) (stronger : ∀ s, pre' s → pre s)
    (weaker : ∀ r s, post r s → post' r s) : Triple pre' p post' :=
  fun s holds => weaker _ _ (triple s (stronger s holds))

theorem pure {a : α} (holds : ∀ s, pre s → post (.ok a) s) :
    Triple pre (Pure.pure a : Procedure σ ε α) post := holds

theorem fail {e : ε} (holds : ∀ s, pre s → post (.error e) s) :
    Triple pre (fail e : Procedure σ ε α) post := holds

theorem bind {P : σ → Prop} {p : Procedure σ ε α} {f : α → Procedure σ ε β} {M : α → σ → Prop}
    {post : Except ε β → σ → Prop}
    (first : Triple P p fun r s =>
      match r with
      | .ok a => M a s
      | .error e => post (.error e) s)
    (next : ∀ a, Triple (M a) (f a) post) : Triple P (p >>= f) post := by
  intro s holds
  have done := first s holds
  change post (Procedure.bind p f s).1 (Procedure.bind p f s).2
  unfold Procedure.bind
  rcases result : p s with ⟨e | a, s'⟩
  · rw [result] at done
    exact done
  · rw [result] at done
    exact next a s' done

/-- A read names the value it saw. -/
theorem read_bind {f : σ → α} {next : α → Procedure σ ε β} {post : Except ε β → σ → Prop}
    (rest : ∀ a, Triple (fun s => pre s ∧ f s = a) (next a) post) :
    Triple pre (Procedure.read f >>= next) post :=
  fun s holds => rest (f s) s ⟨holds, rfl⟩

theorem transact {lift : ε' → ε} {tx : σ → Except ε' (α × σ)}
    (done : ∀ s a next, pre s → tx s = .ok (a, next) → post (.ok a) next)
    (failed : ∀ s e, pre s → tx s = .error e → post (.error (lift e)) s) :
    Triple pre (Procedure.transact lift tx) post := by
  intro s holds
  unfold Procedure.transact
  rcases result : tx s with e | ⟨a, next⟩
  · exact failed s e holds result
  · exact done s a next holds result

theorem attempt {tx : σ → Except ε' (α × σ)} {post : Except ε (Except ε' α) → σ → Prop}
    (done : ∀ s a next, pre s → tx s = .ok (a, next) → post (.ok (.ok a)) next)
    (failed : ∀ s e, pre s → tx s = .error e → post (.ok (.error e)) s) :
    Triple pre (Procedure.attempt tx) post := by
  intro s holds
  unfold Procedure.attempt
  rcases result : tx s with e | ⟨a, next⟩
  · exact failed s e holds result
  · exact done s a next holds result

end Triple

namespace Keeps

variable {inv : σ → Prop}

theorem pure (a : α) : Keeps inv (Pure.pure a : Procedure σ ε α) := fun _ holds => holds

theorem fail (e : ε) : Keeps inv (fail e : Procedure σ ε α) := fun _ holds => holds

theorem read (f : σ → α) : Keeps inv (read f : Procedure σ ε α) := fun _ holds => holds

theorem bind {p : Procedure σ ε α} {f : α → Procedure σ ε β} (first : Keeps inv p)
    (next : ∀ a, Keeps inv (f a)) : Keeps inv (p >>= f) := by
  refine Triple.bind (M := fun _ => inv) ?_ next
  intro s holds
  have kept := first s holds
  split
  · exact kept
  · exact kept

theorem transact {lift : ε' → ε} {tx : σ → Except ε' (α × σ)}
    (done : ∀ s a next, inv s → tx s = .ok (a, next) → inv next) :
    Keeps inv (transact lift tx) :=
  Triple.transact done fun _ _ holds _ => holds

theorem attempt {tx : σ → Except ε' (α × σ)}
    (done : ∀ s a next, inv s → tx s = .ok (a, next) → inv next) :
    Keeps inv (attempt tx : Procedure σ ε (Except ε' α)) :=
  Triple.attempt done fun _ _ holds _ => holds

end Keeps

/-- Every value the procedure can end with satisfies `q`. -/
def Answers (q : α → Prop) (p : Procedure σ ε α) : Prop := ∀ s a, (p s).1 = .ok a → q a

namespace Answers

variable {q : α → Prop} {q' : β → Prop}

theorem pure {a : α} (holds : q a) : Answers q (Pure.pure a : Procedure σ ε α) := by
  rintro s _ ⟨⟩
  exact holds

theorem fail (e : ε) : Answers q (fail e : Procedure σ ε α) := by
  rintro s a ⟨⟩

theorem bind {p : Procedure σ ε α} {f : α → Procedure σ ε β} (next : ∀ a, Answers q' (f a)) :
    Answers q' (p >>= f) := by
  intro s b done
  change (Procedure.bind p f s).1 = .ok b at done
  unfold Procedure.bind at done
  split at done
  · exact next _ _ b done
  · cases done

end Answers

/-- However the procedure ends, the store it leaves is reached along `rel`. -/
def Moves (rel : σ → σ → Prop) (p : Procedure σ ε α) : Prop := ∀ s, rel s (p s).2

namespace Moves

variable {rel : σ → σ → Prop}

theorem pure [Std.Refl rel] (a : α) : Moves rel (Pure.pure a : Procedure σ ε α) :=
  fun s => Std.Refl.refl s

theorem fail [Std.Refl rel] (e : ε) : Moves rel (fail e : Procedure σ ε α) :=
  fun s => Std.Refl.refl s

theorem read [Std.Refl rel] (f : σ → α) : Moves rel (read f : Procedure σ ε α) :=
  fun s => Std.Refl.refl s

theorem ended [Std.Refl rel] (r : Except ε α) : Moves rel (ended r : Procedure σ ε α) := by
  cases r with
  | ok a => exact pure a
  | error e => exact fail e

theorem caught {p : Procedure σ ε α} (moves : Moves rel p) : Moves rel (caught p) := moves

theorem bind [IsTrans σ rel] {p : Procedure σ ε α} {f : α → Procedure σ ε β} (first : Moves rel p)
    (next : ∀ a, Moves rel (f a)) : Moves rel (p >>= f) := by
  intro s
  have moved := first s
  change rel s (Procedure.bind p f s).2
  unfold Procedure.bind
  rcases result : p s with ⟨e | a, s'⟩
  · rw [result] at moved
    exact moved
  · rw [result] at moved
    exact IsTrans.trans _ _ _ moved (next a s')

theorem transact [Std.Refl rel] {lift : ε' → ε} {tx : σ → Except ε' (α × σ)}
    (done : ∀ s a next, tx s = .ok (a, next) → rel s next) : Moves rel (transact lift tx) := by
  intro s
  unfold Procedure.transact
  rcases result : tx s with e | ⟨a, next⟩
  · exact Std.Refl.refl s
  · exact done s a next result

theorem attempt [Std.Refl rel] {tx : σ → Except ε' (α × σ)}
    (done : ∀ s a next, tx s = .ok (a, next) → rel s next) :
    Moves rel (attempt tx : Procedure σ ε (Except ε' α)) := by
  intro s
  unfold Procedure.attempt
  rcases result : tx s with e | ⟨a, next⟩
  · exact Std.Refl.refl s
  · exact done s a next result

end Moves

/-- A first step that only keeps the precondition. -/
theorem Triple.keep_bind {inv : σ → Prop} {p : Procedure σ ε α} {f : α → Procedure σ ε β}
    {post : Except ε β → σ → Prop} (first : Keeps inv p)
    (failed : ∀ e s, inv s → post (.error e) s) (next : ∀ a, Triple inv (f a) post) :
    Triple inv (p >>= f) post := by
  refine Triple.bind (M := fun _ => inv) ?_ next
  intro s holds
  have kept := first s holds
  split
  · exact kept
  · exact failed _ _ kept

end Procedure

end Transaction
