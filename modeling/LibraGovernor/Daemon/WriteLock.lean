/-
# LibraGovernor.Daemon.WriteLock -- the poll of the write lock

A lock that is held is polled: a call that would block is followed by a sleep, of 10
milliseconds at first and twice as long each time, up to 250 and never past a budget of five
seconds.  An interrupted call is made again at once, and does not count as a step of the
schedule.

The loop has one counter, of calls, and takes the exponent of the delay from it.  An
interrupted call advances it too, so the delays after one are longer than the schedule's, and
the shift overflows at the sixty-fifth call.  `acquireWithPolicy_follows_iff` says on which
results the loop keeps to the schedule; sixty-four without an interruption are among them
(`keepsSchedule_of_uninterrupted`).
-/
import LibraGovernor.Domain.Clock
import Mathlib.Algebra.Group.Nat.Defs

namespace LibraGovernor

set_option autoImplicit false

namespace WriteLock

/-! ## The loop -/

/-- Durations are in nanoseconds. -/
def millis (n : Nat) : Nat := n * 1000000

def budget : Nat := millis 5000

def u32Max : Nat := 2 ^ 32 - 1

/-- What `flock` answers. -/
inductive FlockResult where
  | locked
  | interrupted
  | wouldBlock
  | other (errno : Int) (message : String)
  deriving DecidableEq, Repr

/-- One call: its result, and the time since the poll began when it has come. -/
structure Poll where
  result : FlockResult
  elapsed : Nat
  deriving DecidableEq, Repr

inductive LockFailure where
  | contention (waitedMs attempts : Nat)
  | error (errno : Option Int) (message : String)
  deriving DecidableEq, Repr

def privateError : LockFailure := .error none "unsafe or unavailable private lock namespace"

/-- How a poll ends.  An overflow is a panic where overflow checks are on. -/
inductive Ending where
  | guard
  | failed (failure : LockFailure)
  | overflow
  deriving DecidableEq, Repr

/-- A poll: what follows each result it goes on from (a sleep, or nothing), and its ending, if
it has come to one. -/
structure LockRun where
  sleeps : List (Option Nat)
  ending : Option Ending
  deriving DecidableEq, Repr

def LockRun.ends (ending : Ending) : LockRun := ⟨[], some ending⟩

/-- The run that first goes on from one more result. -/
def LockRun.after (sleep : Option Nat) (run : LockRun) : LockRun := ⟨sleep :: run.sleeps, run.ending⟩

/-- `1u64 << k`. -/
def shl64 (k : Nat) : Option Nat := if k < 64 then some (2 ^ k) else none

/-- `10u64.saturating_mul(1u64 << (attempt - 1))`. -/
def backoffMs (attempt : Nat) : Option Nat :=
  (shl64 (attempt - 1)).map fun bit => min (10 * bit) u64Max

/-- The loop, after `attempt` calls.  `parentSafe` is the recheck of a private namespace under
the lock. -/
def pollFrom (parentSafe : Bool) : Nat → List Poll → LockRun
  | _, [] => ⟨[], none⟩
  | attempt, p :: rest =>
      if u32Max < attempt + 1 then .ends .overflow
      else
        match p.result with
        | .locked => .ends (if parentSafe then .guard else .failed privateError)
        | .interrupted => (pollFrom parentSafe (attempt + 1) rest).after none
        | .wouldBlock =>
            if budget ≤ p.elapsed then
              .ends (.failed (.contention (p.elapsed / 1000000 % 2 ^ 64) (attempt + 1)))
            else
              match backoffMs (attempt + 1) with
              | none => .ends .overflow
              | some backoff =>
                  (pollFrom parentSafe (attempt + 1) rest).after
                    (some (min (millis (min backoff 250)) (budget - p.elapsed)))
        | .other errno message => .ends (.failed (.error (some errno) message))

/-- What the file system answers around the loop: `opened` is the sidecar, opened and checked,
and `parentSafe` its namespace once the lock is held (of no interest unless private). -/
structure LockEnv where
  opened : Except LockFailure Unit
  parentSafe : Bool

def acquireWithPolicy (env : LockEnv) (polls : List Poll) : LockRun :=
  match env.opened with
  | .error failure => .ends (.failed failure)
  | .ok () => pollFrom env.parentSafe 0 polls

/-! ## The schedule -/

/-- The delay after the `n`-th call that would block. -/
def scheduled (n elapsed : Nat) : Nat :=
  min (min (millis (10 * 2 ^ (n - 1))) (millis 250)) (budget - elapsed)

/-- The results that would block, among the first `i`. -/
def blockedBefore (polls : List Poll) (i : Nat) : Nat :=
  (polls.take i).countP fun p => p.result = .wouldBlock

/-- A run does with the results it reads what the schedule says, where `blocked` would have
blocked before the first. -/
structure FollowsFrom (blocked : Nat) (polls : List Poll) (run : LockRun) : Prop where
  computes : run.ending ≠ some .overflow
  sleeps : ∀ i p, polls[i]? = some p → i ≤ run.sleeps.length → p.result = .wouldBlock →
    p.elapsed < budget →
      run.sleeps[i]? = some (some (scheduled (blocked + blockedBefore polls i + 1) p.elapsed))
  retries : ∀ i p, polls[i]? = some p → i ≤ run.sleeps.length → p.result = .interrupted →
    run.sleeps[i]? = some none
  contends : ∀ waited attempts, run.ending = some (.failed (.contention waited attempts)) →
    ∃ p, polls[run.sleeps.length]? = some p ∧ p.result = .wouldBlock ∧ budget ≤ p.elapsed
  fails : ∀ i p errno message, polls[i]? = some p → i ≤ run.sleeps.length →
    p.result = .other errno message →
      run.sleeps.length = i ∧ run.ending = some (.failed (.error (some errno) message))

def Follows (polls : List Poll) (run : LockRun) : Prop := FollowsFrom 0 polls run

/-- A result the loop goes on from. -/
def Poll.goesOn (p : Poll) : Bool :=
  match p.result with
  | .interrupted => true
  | .wouldBlock => p.elapsed < budget
  | _ => false

/-- The loop comes to read the `i`-th result. -/
def Reached (polls : List Poll) (i : Nat) : Prop := ∀ p ∈ polls.take i, p.goesOn = true

/-- The results on which the loop keeps to its schedule, where `calls` came before the first and
`blocked` of these would have blocked.  A call that would block inside the budget is among the
first sixty-four, and no call before it was interrupted, unless the schedule is already at its
longest delay, or at what is left of the budget. -/
structure KeepsFrom (calls blocked : Nat) (polls : List Poll) : Prop where
  counted : ∀ i, i < polls.length → Reached polls i → calls + i < u32Max
  undisturbed : ∀ i p, polls[i]? = some p → Reached polls i → p.result = .wouldBlock →
    p.elapsed < budget → calls + i < 64 ∧
      (blocked + blockedBefore polls i = calls + i ∨
        min (millis 250) (budget - p.elapsed) ≤ millis (10 * 2 ^ (blocked + blockedBefore polls i)))

def KeepsSchedule (polls : List Poll) : Prop := KeepsFrom 0 0 polls

/-! ## One result -/

/-- One more result counts as one that would block, or not. -/
def Poll.blocks (p : Poll) : Nat := if p.result = .wouldBlock then 1 else 0

theorem blockedBefore_zero (polls : List Poll) : blockedBefore polls 0 = 0 := rfl

theorem blockedBefore_cons (p : Poll) (rest : List Poll) (i : Nat) :
    blockedBefore (p :: rest) (i + 1) = p.blocks + blockedBefore rest i := by
  simp only [blockedBefore, Poll.blocks, List.take_succ_cons, List.countP_cons, decide_eq_true_eq]
  omega

theorem reached_zero (polls : List Poll) : Reached polls 0 := by
  simp [Reached]

theorem reached_cons {p : Poll} {rest : List Poll} {i : Nat} :
    Reached (p :: rest) (i + 1) ↔ p.goesOn = true ∧ Reached rest i := by
  simp [Reached]

/-- What follows one result in the schedule. -/
def FollowsAt (blocked : Nat) (p : Poll) (sleep : Option Nat) : Prop :=
  (p.result = .wouldBlock → sleep = some (scheduled (blocked + 1) p.elapsed)) ∧
    (p.result = .interrupted → sleep = none)

theorem followsFrom_after {blocked : Nat} {p : Poll} {rest : List Poll} {sleep : Option Nat}
    {run : LockRun} (on : p.goesOn = true) :
    FollowsFrom blocked (p :: rest) (run.after sleep) ↔
      FollowsAt blocked p sleep ∧ FollowsFrom (blocked + p.blocks) rest run := by
  constructor
  · intro follows
    refine ⟨⟨fun blocks => ?_, fun interrupted => ?_⟩, follows.computes, ?_, ?_, ?_, ?_⟩
    · have inside : p.elapsed < budget := by simpa [Poll.goesOn, blocks] using on
      have here := follows.sleeps 0 p rfl (Nat.zero_le _) blocks inside
      rw [blockedBefore_zero] at here
      exact Option.some.inj here
    · exact Option.some.inj (follows.retries 0 p rfl (Nat.zero_le _) interrupted)
    · intro i q at_ read blocks inside
      have there := follows.sleeps (i + 1) q at_ (Nat.succ_le_succ read) blocks inside
      rw [blockedBefore_cons, ← Nat.add_assoc blocked] at there
      exact there
    · intro i q at_ read interrupted
      exact follows.retries (i + 1) q at_ (Nat.succ_le_succ read) interrupted
    · intro waited attempts contended
      exact follows.contends waited attempts contended
    · intro i q errno message at_ read other
      obtain ⟨length_eq, ending⟩ := follows.fails (i + 1) q errno message at_ (Nat.succ_le_succ read) other
      exact ⟨Nat.succ.inj length_eq, ending⟩
  · rintro ⟨⟨blocks_at, interrupted_at⟩, follows⟩
    refine ⟨follows.computes, ?_, ?_, follows.contends, ?_⟩
    · rintro (_ | i) q at_ read blocks inside
      · cases at_
        exact congrArg some (blocks_at blocks)
      · rw [blockedBefore_cons, ← Nat.add_assoc blocked]
        exact follows.sleeps i q at_ (Nat.le_of_succ_le_succ read) blocks inside
    · rintro (_ | i) q at_ read interrupted
      · cases at_
        exact congrArg some (interrupted_at interrupted)
      · exact follows.retries i q at_ (Nat.le_of_succ_le_succ read) interrupted
    · rintro (_ | i) q errno message at_ read other
      · cases at_
        simp [Poll.goesOn, other] at on
      · obtain ⟨length_eq, ending⟩ :=
          follows.fails i q errno message at_ (Nat.le_of_succ_le_succ read) other
        exact ⟨congrArg Nat.succ length_eq, ending⟩

/-- What the condition says of one result. -/
def KeepsAt (calls blocked : Nat) (p : Poll) : Prop :=
  p.result = .wouldBlock → p.elapsed < budget → calls < 64 ∧
    (blocked = calls ∨ min (millis 250) (budget - p.elapsed) ≤ millis (10 * 2 ^ blocked))

theorem keepsFrom_cons {calls blocked : Nat} {p : Poll} {rest : List Poll} :
    KeepsFrom calls blocked (p :: rest) ↔
      calls < u32Max ∧ KeepsAt calls blocked p ∧
        (p.goesOn = true → KeepsFrom (calls + 1) (blocked + p.blocks) rest) := by
  constructor
  · intro keeps
    refine ⟨keeps.counted 0 (Nat.succ_pos _) (reached_zero _), ?_, fun on => ⟨?_, ?_⟩⟩
    · exact keeps.undisturbed 0 p rfl (reached_zero _)
    · intro i lt reached
      have counted := keeps.counted (i + 1) (Nat.succ_lt_succ lt) (reached_cons.mpr ⟨on, reached⟩)
      omega
    · intro i q at_ reached blocks inside
      have there := keeps.undisturbed (i + 1) q at_ (reached_cons.mpr ⟨on, reached⟩) blocks inside
      rw [blockedBefore_cons, ← Nat.add_assoc blocked] at there
      rw [show calls + 1 + i = calls + (i + 1) by omega]
      exact there
  · rintro ⟨counted, here, later⟩
    refine ⟨?_, ?_⟩
    · rintro (_ | i) lt reached
      · exact counted
      · obtain ⟨on, reached⟩ := reached_cons.mp reached
        have counted := (later on).counted i (Nat.lt_of_succ_lt_succ lt) reached
        omega
    · rintro (_ | i) q at_ reached blocks inside
      · cases at_
        exact here blocks inside
      · obtain ⟨on, reached⟩ := reached_cons.mp reached
        have there := (later on).undisturbed i q at_ reached blocks inside
        rw [blockedBefore_cons, ← Nat.add_assoc blocked]
        rw [show calls + 1 + i = calls + (i + 1) by omega] at there
        exact there

/-! ## The delay -/

/-- What the loop sleeps after a call that would block, if it computes it. -/
theorem backoffMs_some {attempt : Nat} (small : attempt < 64) :
    backoffMs (attempt + 1) = some (min (10 * 2 ^ attempt) u64Max) := by
  simp [backoffMs, shl64, small]

theorem backoffMs_none {attempt : Nat} (large : 64 ≤ attempt) : backoffMs (attempt + 1) = none := by
  simp [backoffMs, shl64, large]

/-- Capped at 250, the saturation of the product never shows. -/
theorem delay_eq (k elapsed : Nat) :
    min (millis (min (min (10 * 2 ^ k) u64Max) 250)) (budget - elapsed) =
      scheduled (k + 1) elapsed := by
  have capped : min (min (10 * 2 ^ k) u64Max) 250 = min (10 * 2 ^ k) 250 := by
    simp only [u64Max]
    omega
  rw [capped, scheduled, Nat.add_sub_cancel]
  simp only [millis]
  omega

/-- Two steps of the schedule have one delay when the earlier is at the longest, or at what is
left of the budget. -/
theorem scheduled_eq_iff {b k elapsed : Nat} (le : b ≤ k) :
    scheduled (k + 1) elapsed = scheduled (b + 1) elapsed ↔
      b = k ∨ min (millis 250) (budget - elapsed) ≤ millis (10 * 2 ^ b) := by
  simp only [scheduled, Nat.add_sub_cancel]
  rcases Nat.eq_or_lt_of_le le with rfl | lt
  · simp
  · have grows : 2 ^ b < 2 ^ k := Nat.pow_lt_pow_right (by decide) lt
    have apart : b ≠ k := Nat.ne_of_lt lt
    generalize 2 ^ b = low at grows ⊢
    generalize 2 ^ k = high at grows ⊢
    generalize budget - elapsed = left
    simp only [millis]
    omega

/-! ## The whole run -/

/-- A result that ends the loop is followed by nothing. -/
theorem followsFrom_ends {blocked : Nat} {p : Poll} {rest : List Poll} {ending : Ending}
    (computes : ending ≠ .overflow) (stops : p.goesOn = false)
    (contends : ∀ waited attempts, ending = .failed (.contention waited attempts) →
      p.result = .wouldBlock ∧ budget ≤ p.elapsed)
    (fails : ∀ errno message, p.result = .other errno message →
      ending = .failed (.error (some errno) message)) :
    FollowsFrom blocked (p :: rest) (.ends ending) := by
  have first : ∀ {i : Nat} {q : Poll}, (p :: rest)[i]? = some q →
      i ≤ (LockRun.ends ending).sleeps.length → i = 0 ∧ q = p := by
    intro i q at_ read
    obtain rfl : i = 0 := Nat.le_zero.mp read
    exact ⟨rfl, (Option.some.inj at_).symm⟩
  refine ⟨fun overflowed => computes (Option.some.inj overflowed), ?_, ?_, ?_, ?_⟩
  · intro i q at_ read blocks inside
    obtain ⟨rfl, rfl⟩ := first at_ read
    simp [Poll.goesOn, blocks, inside] at stops
  · intro i q at_ read interrupted
    obtain ⟨rfl, rfl⟩ := first at_ read
    simp [Poll.goesOn, interrupted] at stops
  · intro waited attempts contended
    exact ⟨p, rfl, contends waited attempts (Option.some.inj contended)⟩
  · intro i q errno message at_ read other
    obtain ⟨rfl, rfl⟩ := first at_ read
    exact ⟨rfl, congrArg some (fails errno message other)⟩

theorem not_follows_overflow {blocked : Nat} {polls : List Poll} :
    ¬ FollowsFrom blocked polls (.ends .overflow) := fun follows => follows.computes rfl

/-- The loop follows the schedule from a result on exactly when the condition holds from there. -/
theorem pollFrom_follows_iff (parentSafe : Bool) (polls : List Poll) {calls blocked : Nat}
    (le : blocked ≤ calls) :
    FollowsFrom blocked polls (pollFrom parentSafe calls polls) ↔ KeepsFrom calls blocked polls := by
  induction polls generalizing calls blocked with
  | nil =>
      constructor
      · intro
        exact ⟨fun i lt => absurd lt (Nat.not_lt_zero i), fun i p at_ => by simp at at_⟩
      · intro
        exact ⟨by simp [pollFrom], by simp, by simp, by simp [pollFrom], by simp⟩
  | cons p rest ih =>
      rw [keepsFrom_cons]
      by_cases counted : calls < u32Max
      · have unpassed : ¬ u32Max < calls + 1 := by omega
        cases came : p.result with
        | locked =>
            have stops : p.goesOn = false := by simp [Poll.goesOn, came]
            have read : pollFrom parentSafe calls (p :: rest) =
                .ends (if parentSafe then .guard else .failed privateError) := by
              simp [pollFrom, unpassed, came]
            rw [read]
            refine iff_of_true (followsFrom_ends ?_ stops ?_ ?_) ⟨counted, ?_, ?_⟩
            · split <;> simp
            · intro waited attempts
              split <;> simp [privateError]
            · simp [came]
            · simp [KeepsAt, came]
            · simp [stops]
        | interrupted =>
            have on : p.goesOn = true := by simp [Poll.goesOn, came]
            have read : pollFrom parentSafe calls (p :: rest) =
                (pollFrom parentSafe (calls + 1) rest).after none := by
              simp [pollFrom, unpassed, came]
            have blocks : p.blocks = 0 := by simp [Poll.blocks, came]
            rw [read, followsFrom_after on, blocks, ih (by omega)]
            simp [FollowsAt, KeepsAt, came, on, counted]
        | wouldBlock =>
            by_cases past : budget ≤ p.elapsed
            · have stops : p.goesOn = false := by simp [Poll.goesOn, came, past]
              have read : pollFrom parentSafe calls (p :: rest) =
                  .ends (.failed (.contention (p.elapsed / 1000000 % 2 ^ 64) (calls + 1))) := by
                simp [pollFrom, unpassed, came, past]
              rw [read]
              refine iff_of_true (followsFrom_ends (by simp) stops ?_ ?_) ⟨counted, ?_, ?_⟩
              · intro _ _ _
                exact ⟨came, past⟩
              · simp [came]
              · intro _ inside
                omega
              · simp [stops]
            · have on : p.goesOn = true := by simpa [Poll.goesOn, came] using past
              have inside : p.elapsed < budget := Nat.lt_of_not_le past
              have blocks : p.blocks = 1 := by simp [Poll.blocks, came]
              by_cases small : calls < 64
              · have read : pollFrom parentSafe calls (p :: rest) =
                    (pollFrom parentSafe (calls + 1) rest).after
                      (some (scheduled (calls + 1) p.elapsed)) := by
                  simp only [pollFrom, if_neg unpassed, came, if_neg past, backoffMs_some small,
                    delay_eq]
                rw [read, followsFrom_after on, blocks, ih (by omega)]
                simp [FollowsAt, KeepsAt, came, on, counted, small, inside, scheduled_eq_iff le]
              · have read : pollFrom parentSafe calls (p :: rest) = .ends .overflow := by
                  simp only [pollFrom, if_neg unpassed, came, if_neg past,
                    backoffMs_none (Nat.le_of_not_lt small)]
                rw [read]
                exact iff_of_false not_follows_overflow fun keeps =>
                  small (keeps.2.1 came inside).1
        | other errno message =>
            have stops : p.goesOn = false := by simp [Poll.goesOn, came]
            have read : pollFrom parentSafe calls (p :: rest) =
                .ends (.failed (.error (some errno) message)) := by
              simp [pollFrom, unpassed, came]
            rw [read]
            refine iff_of_true (followsFrom_ends (by simp) stops (by simp) ?_) ⟨counted, ?_, ?_⟩
            · intro errno' message' same
              rw [came] at same
              cases same
              rfl
            · simp [KeepsAt, came]
            · simp [stops]
      · have read : pollFrom parentSafe calls (p :: rest) = .ends .overflow := by
          simp only [pollFrom, if_pos (show u32Max < calls + 1 by omega)]
        rw [read]
        exact iff_of_false not_follows_overflow fun keeps => counted keeps.1

/-- The poll keeps to its schedule on exactly the results that `KeepsSchedule` describes. -/
theorem acquireWithPolicy_follows_iff (parentSafe : Bool) (polls : List Poll) :
    Follows polls (acquireWithPolicy ⟨.ok (), parentSafe⟩ polls) ↔ KeepsSchedule polls :=
  pollFrom_follows_iff parentSafe polls (Nat.le_refl 0)

/-- Results without an interruption, fewer than sixty-five. -/
theorem keepsSchedule_of_uninterrupted {polls : List Poll} (few : polls.length ≤ 64)
    (uninterrupted : ∀ p ∈ polls, p.result ≠ .interrupted) : KeepsSchedule polls := by
  have le : 64 ≤ u32Max := by decide
  refine ⟨fun i lt _ => by omega, fun i p at_ reached _ _ => ?_⟩
  have lt : i < polls.length := (List.getElem?_eq_some_iff.mp at_).1
  refine ⟨by omega, .inl ?_⟩
  have all : ∀ q ∈ polls.take i, decide (q.result = .wouldBlock) = true := by
    intro q mem
    have on := reached q mem
    have plain := uninterrupted q (List.mem_of_mem_take mem)
    cases came : q.result <;> simp_all [Poll.goesOn]
  rw [blockedBefore, List.countP_eq_length.mpr all, List.length_take]
  omega

/-- One interrupted call doubles the first delay. -/
theorem interrupted_once_sleeps_longer :
    ¬ ∀ (parentSafe : Bool) (polls : List Poll),
      (polls.map Poll.elapsed).Pairwise (· ≤ ·) →
        Follows polls (acquireWithPolicy ⟨.ok (), parentSafe⟩ polls) := by
  intro claimed
  have follows := claimed true [⟨.interrupted, 0⟩, ⟨.wouldBlock, 0⟩, ⟨.locked, millis 20⟩] (by decide)
  have slept := follows.sleeps 1 ⟨.wouldBlock, 0⟩ rfl (by decide) rfl (by decide)
  exact absurd slept (by decide)

end WriteLock

end LibraGovernor
