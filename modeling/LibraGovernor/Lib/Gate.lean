/-
# LibraGovernor.Lib.Gate -- two thresholds and the severity they give

A gate passes what is at most its soft limit, asks about what is at most its hard limit and refuses
the rest.  With the soft limit at most the hard one it is monotone (`gate_mono`), refuses exactly
past the hard limit (`gate_eq_refuse`) and does not see a common shift (`gate_add`); lower limits
are never less severe (`gate_antitone`).  A limit that is not there is `⊤`.
-/
import Mathlib.Order.WithBot
import Mathlib.Order.Monotone.Basic
import Mathlib.Algebra.Order.Group.Defs
import Mathlib.Algebra.Order.Monoid.Unbundled.Basic

namespace LibraGovernor

set_option autoImplicit false

inductive Severity where
  | pass
  | ask
  | refuse
  deriving DecidableEq, Repr

namespace Severity

def rank : Severity → Nat
  | pass => 0
  | ask => 1
  | refuse => 2

theorem rank_injective : Function.Injective rank := by
  intro a b same
  cases a <;> cases b <;> first | rfl | cases same

instance : LinearOrder Severity := LinearOrder.lift' rank rank_injective

theorem le_refuse (s : Severity) : s ≤ refuse := by
  cases s <;> decide

theorem pass_le (s : Severity) : pass ≤ s := by
  cases s <;> decide

theorem refuse_le {s : Severity} : refuse ≤ s ↔ s = refuse := by
  cases s <;> decide

end Severity

section Gate

variable {α : Type} [LinearOrder α]

def gate (soft hard x : α) : Severity :=
  if x ≤ soft then .pass else if x ≤ hard then .ask else .refuse

theorem gate_eq_refuse {soft hard x : α} (ordered : soft ≤ hard) :
    gate soft hard x = .refuse ↔ hard < x := by
  rw [gate]
  constructor
  · intro refused
    split at refused
    · cases refused
    split at refused
    · cases refused
    · rename_i past
      exact not_le.mp past
  · intro past
    rw [if_neg (not_le.mpr (lt_of_le_of_lt ordered past)), if_neg (not_le.mpr past)]

/-- More is never less severe. -/
theorem gate_mono {soft hard : α} (ordered : soft ≤ hard) : Monotone (gate soft hard) := by
  intro x y le
  by_cases past : hard < y
  · rw [(gate_eq_refuse ordered).mpr past]
    exact Severity.le_refuse _
  · by_cases asked : y ≤ soft
    · rw [gate, if_pos (le_trans le asked)]
      exact Severity.pass_le _
    · have y_asks : gate soft hard y = .ask := by
        rw [gate, if_neg asked, if_pos (not_lt.mp past)]
      rw [y_asks, gate]
      split
      · decide
      · rw [if_pos (le_trans le (not_lt.mp past))]

/-- Lower limits are never less severe. -/
theorem gate_antitone {soft soft' hard hard' x : α} (soft_le : soft' ≤ soft)
    (hard_le : hard' ≤ hard) : gate soft hard x ≤ gate soft' hard' x := by
  by_cases passed : x ≤ soft
  · rw [gate, if_pos passed]
    exact Severity.pass_le _
  · have not_passed : ¬ x ≤ soft' := fun le => passed (le_trans le soft_le)
    by_cases asked : x ≤ hard'
    · rw [gate, if_neg passed, if_pos (le_trans asked hard_le), gate, if_neg not_passed, if_pos asked]
    · have refused : gate soft' hard' x = .refuse := by
        rw [gate, if_neg not_passed, if_neg asked]
      rw [refused]
      exact Severity.le_refuse _

/-- The same shift of limits and load changes nothing. -/
theorem gate_add [AddCommGroup α] [IsOrderedAddMonoid α] (soft hard x g : α) :
    gate (soft + g) (hard + g) (x + g) = gate soft hard x := by
  simp only [gate, add_le_add_iff_right]

/-- A gate reads its load only by where it stands to the limits. -/
theorem gate_congr {soft hard x soft' hard' x' : α} (soft_iff : x' ≤ soft' ↔ x ≤ soft)
    (hard_iff : x' ≤ hard' ↔ x ≤ hard) : gate soft' hard' x' = gate soft hard x := by
  simp only [gate, soft_iff, hard_iff]

end Gate

end LibraGovernor
