/-
# LibraGovernor.Lib.Calls -- programs that make calls, alone or interleaved

A `Program` makes calls and goes on with what they answer; the type of an answer is that of its
call.  A `Monitor` watches the calls: in each of its states it allows some, and an answer moves it on.
`Obeys` is the program logic: every call is allowed and the end satisfies a postcondition, whatever
the calls answer; it is closed under `bind` (`Obeys.bind`), and what
each allowed call keeps holds along every run (`Obeys.along`).

In a `Pool` many programs run over one state.  A call is served in one step, so that the calls of
different programs, and moves of the environment, come in any order.  An invariant that relates the
state to the monitors, and that each allowed call and each move keeps, holds wherever the pool gets
(`Pool.invariant`): what the monitors say of each program alone is used for all of them together.
-/
import Mathlib.Logic.Function.Basic
import Mathlib.Logic.Relation
import Mathlib.Tactic.Common

namespace Calls

set_option autoImplicit false

universe u

section Alone

variable {Call : Type} {Answer : Call → Type} {M α β : Type}

inductive Program (Call : Type) (Answer : Call → Type) (α : Type) : Type where
  | done (value : α)
  | call (c : Call) (rest : Answer c → Program Call Answer α)

namespace Program

/-- What a program that is done has given. -/
def value? : Program Call Answer α → Option α
  | .done value => some value
  | .call _ _ => none

theorem value?_eq_some {p : Program Call Answer α} {value : α} (given : p.value? = some value) :
    p = .done value := by
  cases p with
  | done value => exact congrArg done (Option.some.inj given)
  | call c rest => cases given

/-- The call that a program waits for. -/
def waits? : Program Call Answer α → Option Call
  | .done _ => none
  | .call c _ => some c

theorem waits?_eq_some {p : Program Call Answer α} {c : Call} (given : p.waits? = some c) :
    ∃ rest, p = .call c rest := by
  cases p with
  | done value => cases given
  | call c' rest =>
      cases given
      exact ⟨rest, rfl⟩

def bind : Program Call Answer α → (α → Program Call Answer β) → Program Call Answer β
  | .done value, next => next value
  | .call c rest, next => .call c fun a => bind (rest a) next

instance : Monad (Program Call Answer) where
  pure := .done
  bind := bind

end Program

/-- Makes a call and gives its answer. -/
def ask (c : Call) : Program Call Answer (Answer c) := .call c .done

structure Monitor (Call : Type) (Answer : Call → Type) (M : Type) where
  allows : M → Call → Prop
  next : M → (c : Call) → Answer c → M

/-- Every call is allowed and the end satisfies `post`, whatever the calls answer. -/
def Obeys (monitor : Monitor Call Answer M) (post : M → α → Prop) : M → Program Call Answer α → Prop
  | m, .done value => post m value
  | m, .call c rest => monitor.allows m c ∧ ∀ a, Obeys monitor post (monitor.next m c a) (rest a)

namespace Obeys

variable {monitor : Monitor Call Answer M} {post post' : M → α → Prop} {m : M}
  {p : Program Call Answer α}

theorem pure {value : α} (ends : post m value) :
    Obeys monitor post m (Pure.pure value : Program Call Answer α) := ends

theorem ask {c : Call} {post : M → Answer c → Prop} (allowed : monitor.allows m c)
    (ends : ∀ a, post (monitor.next m c a) a) :
    Obeys monitor post m (Calls.ask c : Program Call Answer (Answer c)) :=
  ⟨allowed, ends⟩

theorem bind {next : α → Program Call Answer β} {last : M → β → Prop} (first : Obeys monitor post m p)
    (rest : ∀ m value, post m value → Obeys monitor last m (next value)) :
    Obeys monitor last m (p >>= next) := by
  induction p generalizing m with
  | done value => exact rest m value first
  | call c more ih => exact ⟨first.1, fun a => ih a (first.2 a)⟩

/-- A call and what follows it. -/
theorem ask_bind {c : Call} {next : Answer c → Program Call Answer α} (allowed : monitor.allows m c)
    (rest : ∀ a, Obeys monitor post (monitor.next m c a) (next a)) :
    Obeys monitor post m ((Calls.ask c : Program Call Answer (Answer c)) >>= next) :=
  ⟨allowed, rest⟩

theorem mono (obeys : Obeys monitor post m p) (weaker : ∀ m value, post m value → post' m value) :
    Obeys monitor post' m p := by
  induction p generalizing m with
  | done value => exact weaker m value obeys
  | call c more ih => exact ⟨obeys.1, fun a => ih a (obeys.2 a)⟩

end Obeys

/-! ### Runs -/

/-- The calls of a run with their answers, and the program that is left. -/
inductive Runs : Program Call Answer α → List (Sigma Answer) → Program Call Answer α → Prop
  | nil (p : Program Call Answer α) : Runs p [] p
  | cons {c : Call} {rest : Answer c → Program Call Answer α} {a : Answer c}
      {events : List (Sigma Answer)} {q : Program Call Answer α} (more : Runs (rest a) events q) :
      Runs (.call c rest) (⟨c, a⟩ :: events) q

/-- What the monitor's states say of the calls so far, and each allowed call keeps, holds along every
run of a program that obeys. -/
theorem Obeys.along {monitor : Monitor Call Answer M} {post : M → α → Prop}
    {story : M → List (Sigma Answer) → Prop}
    (keep : ∀ m events c a, story m events → monitor.allows m c →
      story (monitor.next m c a) (events ++ [⟨c, a⟩]))
    {p q : Program Call Answer α} {events : List (Sigma Answer)} (runs : Runs p events q) {m : M}
    {before : List (Sigma Answer)} (obeys : Obeys monitor post m p) (start : story m before) :
    ∃ m', story m' (before ++ events) ∧ Obeys monitor post m' q := by
  induction runs generalizing m before with
  | nil p => exact ⟨m, by rwa [List.append_nil], obeys⟩
  | @cons c rest a events q _ ih =>
      obtain ⟨m', told, left⟩ := ih (obeys.2 a) (keep m before c a start obeys.1)
      exact ⟨m', by rwa [List.append_assoc] at told, left⟩

/-- A run comes past each of its calls. -/
theorem Runs.split {p q : Program Call Answer α} {before after : List (Sigma Answer)} {c : Call}
    {a : Answer c} (runs : Runs p (before ++ ⟨c, a⟩ :: after) q) :
    ∃ rest, Runs p before (.call c rest) ∧ Runs (rest a) after q := by
  induction before generalizing p with
  | nil =>
      cases runs with
      | cons more => exact ⟨_, .nil _, more⟩
  | cons event before ih =>
      cases runs with
      | cons more =>
          obtain ⟨rest, here, onward⟩ := ih more
          exact ⟨rest, .cons here, onward⟩

/-- The run in which every call is answered by a function. -/
def Program.follow (answer : (c : Call) → Answer c) : Program Call Answer α → List (Sigma Answer) × α
  | .done value => ([], value)
  | .call c rest =>
      let later := (rest (answer c)).follow answer
      (⟨c, answer c⟩ :: later.1, later.2)

theorem Program.runs_follow (answer : (c : Call) → Answer c) (p : Program Call Answer α) :
    Runs p (p.follow answer).1 (.done (p.follow answer).2) := by
  induction p with
  | done value => exact .nil _
  | call c rest ih => exact .cons (ih (answer c))

end Alone

/-! ## Pools -/

variable {ι σ Call : Type} {Answer : Call → Type} {M α : Type} [DecidableEq ι]

structure Pool (ι σ Call : Type) (Answer : Call → Type) (α : Type) where
  state : σ
  programs : ι → Program Call Answer α

/-- How a state serves a call of a program, and how it moves on its own. -/
structure Service (ι σ Call : Type) (Answer : Call → Type) where
  serves : ι → σ → (c : Call) → Answer c → σ → Prop
  moves : σ → σ → Prop

namespace Pool

inductive Step (service : Service ι σ Call Answer) :
    Pool ι σ Call Answer α → Pool ι σ Call Answer α → Prop
  | call {pool : Pool ι σ Call Answer α} {i : ι} {c : Call} {rest : Answer c → Program Call Answer α}
      {a : Answer c} {s : σ} (waits : pool.programs i = .call c rest)
      (served : service.serves i pool.state c a s) :
      Step service pool ⟨s, Function.update pool.programs i (rest a)⟩
  | move {pool : Pool ι σ Call Answer α} {s : σ} (moved : service.moves pool.state s) :
      Step service pool ⟨s, pool.programs⟩

/-- Where the pool gets. -/
def Reaches (service : Service ι σ Call Answer) :
    Pool ι σ Call Answer α → Pool ι σ Call Answer α → Prop :=
  Relation.ReflTransGen (Step service)

/-- A program makes its next call, which a function serves. -/
def advance (serve : ι → σ → (c : Call) → Answer c × σ) (pool : Pool ι σ Call Answer α) (i : ι) :
    Pool ι σ Call Answer α :=
  match pool.programs i with
  | .done _ => pool
  | .call c rest =>
      ⟨(serve i pool.state c).2, Function.update pool.programs i (rest (serve i pool.state c).1)⟩

theorem reaches_advance {service : Service ι σ Call Answer}
    {serve : ι → σ → (c : Call) → Answer c × σ}
    (serves : ∀ i s c, service.serves i s c (serve i s c).1 (serve i s c).2)
    (pool : Pool ι σ Call Answer α) (turns : List ι) :
    Reaches service pool (turns.foldl (advance serve) pool) := by
  induction turns generalizing pool with
  | nil => exact .refl
  | cons i turns ih =>
      refine Relation.ReflTransGen.trans ?_ (ih (advance serve pool i))
      rw [advance]
      split
      · exact .refl
      · rename_i waits
        exact .single (.call waits (serves i pool.state _))

/-- The monitors' states fit the programs, and the invariant relates them to the state. -/
structure Watched (monitor : ι → Monitor Call Answer M) (post : ι → M → α → Prop)
    (inv : σ → (ι → M) → Prop) (pool : Pool ι σ Call Answer α) (ms : ι → M) : Prop where
  obeys : ∀ i, Obeys (monitor i) (post i) (ms i) (pool.programs i)
  inv : inv pool.state ms

variable {monitor : ι → Monitor Call Answer M} {post : ι → M → α → Prop}
  {inv : σ → (ι → M) → Prop} {service : Service ι σ Call Answer}

theorem Step.watched
    (calls : ∀ s ms i c a s', inv s ms → (monitor i).allows (ms i) c → service.serves i s c a s' →
      inv s' (Function.update ms i ((monitor i).next (ms i) c a)))
    (moves : ∀ s ms s', inv s ms → service.moves s s' → inv s' ms)
    {pool pool' : Pool ι σ Call Answer α} (step : Step service pool pool') {ms : ι → M}
    (watched : Watched monitor post inv pool ms) : ∃ ms', Watched monitor post inv pool' ms' := by
  cases step with
  | @call i c rest a s waits served =>
      have mine := watched.obeys i
      rw [waits] at mine
      refine ⟨Function.update ms i ((monitor i).next (ms i) c a), fun j => ?_,
        calls _ _ _ _ _ _ watched.inv mine.1 served⟩
      change Obeys _ _ (Function.update ms i _ j) (Function.update pool.programs i (rest a) j)
      by_cases same : j = i
      · subst same
        rw [Function.update_self, Function.update_self]
        exact mine.2 a
      · rw [Function.update_of_ne same, Function.update_of_ne same]
        exact watched.obeys j
  | move moved => exact ⟨ms, watched.obeys, moves _ _ _ watched.inv moved⟩

/-- What each call the monitors allow keeps, and each move, holds wherever the pool gets. -/
theorem invariant
    (calls : ∀ s ms i c a s', inv s ms → (monitor i).allows (ms i) c → service.serves i s c a s' →
      inv s' (Function.update ms i ((monitor i).next (ms i) c a)))
    (moves : ∀ s ms s', inv s ms → service.moves s s' → inv s' ms)
    {pool pool' : Pool ι σ Call Answer α} (reaches : Reaches service pool pool') {ms : ι → M}
    (watched : Watched monitor post inv pool ms) : ∃ ms', Watched monitor post inv pool' ms' := by
  induction reaches with
  | refl => exact ⟨ms, watched⟩
  | tail _ step ih =>
      obtain ⟨mid, here⟩ := ih
      exact step.watched calls moves here

end Pool

end Calls
