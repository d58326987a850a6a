/-
# LibraGovernor.Lib.CivilTime -- a wall clock that is set forward and back

A wall clock shows universal time plus an offset, and the offset changes at listed instants.  At a
change the clock skips readings (a gap) or shows them twice (a fold), so a reading names one
instant, none, or two.  `Ambiguity.compatible` reads it with the offset before the change, and
`Ambiguity.preferring` with a given offset where that is one of the two.

Changes are at least two days apart and set the clock by less than a day (`Spaced`).  Then two
readings a day apart are taken in order (`compatible_lt`), and what the clock shows is on the wrong
side of a reading only once it was set back over the reading (`folded`) or past it (`skipped`).
-/
import Mathlib.Data.Int.Init

namespace CivilTime

set_option autoImplicit false

/-- From `at_` on the clock is `after` ahead. -/
structure Change where
  at_ : Int
  after : Int
  deriving DecidableEq, Repr

/-- A change with the offset it ends. -/
structure Shift where
  before : Int
  at_ : Int
  after : Int
  deriving DecidableEq, Repr

def shifts (before : Int) : List Change → List Shift
  | [] => []
  | c :: rest => ⟨before, c.at_, c.after⟩ :: shifts c.after rest

/-- The offset at an instant. -/
def offsetAt (before : Int) : List Change → Int → Int
  | [], _ => before
  | c :: rest, t => if t < c.at_ then before else offsetAt c.after rest t

/-- What a reading of the clock leaves open. -/
inductive Ambiguity where
  | unambiguous (offset : Int)
  | gap (before after : Int)
  | fold (before after : Int)
  deriving DecidableEq, Repr

def ambiguity (before : Int) : List Change → Int → Ambiguity
  | [], _ => .unambiguous before
  | c :: rest, reading =>
      if reading < c.at_ + min before c.after then .unambiguous before
      else if reading < c.at_ + max before c.after then
        if before < c.after then .gap before c.after else .fold before c.after
      else ambiguity c.after rest reading

namespace Ambiguity

/-- Later in a gap, earlier in a fold. -/
def compatible : Ambiguity → Int
  | .unambiguous offset => offset
  | .gap before _ => before
  | .fold before _ => before

/-- The given offset where it is valid. -/
def preferring (given : Int) : Ambiguity → Int
  | .fold before after => if given = before ∨ given = after then given else before
  | ambiguity => ambiguity.compatible

/-- A choice that stays with the clock: only in a fold may it be either offset. -/
structure Picks (pick : Ambiguity → Int) : Prop where
  unambiguous : ∀ offset, pick (.unambiguous offset) = offset
  gap : ∀ before after, pick (.gap before after) = before
  fold : ∀ before after, pick (.fold before after) = before ∨ pick (.fold before after) = after

theorem compatible_picks : Picks compatible where
  unambiguous _ := rfl
  gap _ _ := rfl
  fold _ _ := .inl rfl

theorem preferring_picks (given : Int) : Picks (preferring given) where
  unambiguous _ := rfl
  gap _ _ := rfl
  fold before after := by
    rw [preferring]
    split
    · rename_i valid
      exact valid
    · exact .inl rfl

end Ambiguity

/-- The instant a reading is taken for. -/
def instantOf (pick : Ambiguity → Int) (before : Int) (changes : List Change) (reading : Int) : Int :=
  reading - pick (ambiguity before changes reading)

/-- The changes are two days apart, and each sets the clock by less than a day. -/
def Spaced (day before : Int) : List Change → Prop
  | [] => True
  | c :: rest => (c.after < before + day ∧ before < c.after + day) ∧
      (∀ d ∈ rest, c.at_ + 2 * day ≤ d.at_) ∧ Spaced day c.after rest

instance decidableSpaced (day : Int) : (before : Int) → (changes : List Change) →
    Decidable (Spaced day before changes)
  | _, [] => .isTrue trivial
  | _, c :: rest =>
      have := decidableSpaced day c.after rest
      inferInstanceAs (Decidable (_ ∧ _ ∧ _))

/-! ## One change after the other -/

section Walk

variable {day before : Int} {changes : List Change}

theorem offsetAt_early {t : Int} (early : ∀ c ∈ changes, t < c.at_) :
    offsetAt before changes t = before := by
  cases changes with
  | nil => rfl
  | cons c rest =>
      rw [offsetAt, if_pos (early c List.mem_cons_self)]

/-- Two days after a change the clock has passed what it showed at the change. -/
theorem wall_late (spaced : Spaced day before changes) {base : Int}
    (apart : ∀ c ∈ changes, base + 2 * day ≤ c.at_) {t : Int} (late : base + day ≤ t) :
    base + before + day ≤ t + offsetAt before changes t := by
  induction changes generalizing before base with
  | nil =>
      rw [offsetAt]
      omega
  | cons c rest ih =>
      obtain ⟨⟨up, down⟩, next, spaced⟩ := spaced
      have first := apart c List.mem_cons_self
      rw [offsetAt]
      split
      · omega
      · rename_i past
        by_cases near : t < c.at_ + day
        · have here : offsetAt c.after rest t = c.after :=
            offsetAt_early fun d mem => by
              have := next d mem
              omega
          rw [here]
          omega
        · have := ih spaced next (by omega)
          omega

/-- The readings a change concerns come after all the clock showed a day past the change before. -/
theorem shift_late (spaced : Spaced day before changes) {base : Int}
    (apart : ∀ c ∈ changes, base + 2 * day ≤ c.at_) {s : Shift} (mem : s ∈ shifts before changes) :
    base + before + day < s.at_ + min s.before s.after := by
  induction changes generalizing before base with
  | nil => exact absurd mem List.not_mem_nil
  | cons c rest ih =>
      obtain ⟨⟨up, down⟩, next, spaced⟩ := spaced
      have first := apart c List.mem_cons_self
      rcases List.mem_cons.mp mem with rfl | mem
      · show base + before + day < c.at_ + min before c.after
        omega
      · have := ih spaced next mem
        omega

theorem shift_at {s : Shift} (mem : s ∈ shifts before changes) : ∃ c ∈ changes, c.at_ = s.at_ := by
  induction changes generalizing before with
  | nil => exact absurd mem List.not_mem_nil
  | cons c rest ih =>
      rcases List.mem_cons.mp mem with rfl | mem
      · exact ⟨c, List.mem_cons_self, rfl⟩
      · obtain ⟨d, inside, same⟩ := ih mem
        exact ⟨d, List.mem_cons_of_mem c inside, same⟩

theorem shift_lt_day (spaced : Spaced day before changes) {s : Shift}
    (mem : s ∈ shifts before changes) : s.after < s.before + day ∧ s.before < s.after + day := by
  induction changes generalizing before with
  | nil => exact absurd mem List.not_mem_nil
  | cons c rest ih =>
      rcases List.mem_cons.mp mem with rfl | mem
      · exact spaced.1
      · exact ih spaced.2.2 mem

/-- For two days after a change the clock shows the offset the change sets. -/
theorem offsetAt_after (spaced : Spaced day before changes) (pos : 0 < day) {s : Shift}
    (mem : s ∈ shifts before changes) {t : Int} (past : s.at_ ≤ t) (near : t < s.at_ + 2 * day) :
    offsetAt before changes t = s.after := by
  induction changes generalizing before with
  | nil => exact absurd mem List.not_mem_nil
  | cons c rest ih =>
      obtain ⟨-, next, spaced⟩ := spaced
      rcases List.mem_cons.mp mem with rfl | mem
      · rw [offsetAt, if_neg (Int.not_lt.mpr past)]
        exact offsetAt_early fun d inside => Int.lt_of_lt_of_le near (next d inside)
      · obtain ⟨d, inside, same⟩ := shift_at mem
        have := next d inside
        rw [offsetAt, if_neg (by omega)]
        exact ih spaced mem

/-- For two days before a change it shows the offset the change ends. -/
theorem offsetAt_before (spaced : Spaced day before changes) {s : Shift}
    (mem : s ∈ shifts before changes) {t : Int} (past : s.at_ ≤ t + 2 * day) (early : t < s.at_) :
    offsetAt before changes t = s.before := by
  induction changes generalizing before with
  | nil => exact absurd mem List.not_mem_nil
  | cons c rest ih =>
      obtain ⟨-, next, spaced⟩ := spaced
      rcases List.mem_cons.mp mem with rfl | mem
      · rw [offsetAt, if_pos early]
      · obtain ⟨d, inside, same⟩ := shift_at mem
        have := next d inside
        rw [offsetAt, if_neg (by omega)]
        exact ih spaced mem

theorem shift_apart (spaced : Spaced day before changes) {s s' : Shift}
    (mem : s ∈ shifts before changes) (mem' : s' ∈ shifts before changes) (lt : s.at_ < s'.at_) :
    s.at_ + 2 * day ≤ s'.at_ := by
  induction changes generalizing before with
  | nil => exact absurd mem List.not_mem_nil
  | cons c rest ih =>
      obtain ⟨-, next, spaced⟩ := spaced
      rcases List.mem_cons.mp mem with rfl | mem
      · rcases List.mem_cons.mp mem' with rfl | mem'
        · exact absurd lt (Int.lt_irrefl _)
        · obtain ⟨d, inside, same⟩ := shift_at mem'
          rw [← same]
          exact next d inside
      · rcases List.mem_cons.mp mem' with rfl | mem'
        · obtain ⟨d, inside, same⟩ := shift_at mem
          have := next d inside
          dsimp only at lt ⊢
          omega
        · exact ih spaced mem mem'

end Walk

/-! ## Readings -/

section Readings

variable {day before : Int} {changes : List Change} {pick : Ambiguity → Int}

/-- What the walk does at its first change. -/
theorem instantOf_cons (c : Change) (rest : List Change) (reading : Int) :
    instantOf pick before (c :: rest) reading =
      if reading < c.at_ + min before c.after then reading - pick (.unambiguous before)
      else if reading < c.at_ + max before c.after then
        if before < c.after then reading - pick (.gap before c.after)
        else reading - pick (.fold before c.after)
      else instantOf pick c.after rest reading := by
  rw [instantOf, ambiguity]
  split
  · rfl
  · split
    · split <;> rfl
    · rfl

/-- Until the first change's readings are over, a reading is taken with the offset it ends. -/
theorem compatible_cons (c : Change) (rest : List Change) (reading : Int) :
    instantOf Ambiguity.compatible before (c :: rest) reading =
      if reading < c.at_ + max before c.after then reading - before
      else instantOf Ambiguity.compatible c.after rest reading := by
  rw [instantOf_cons]
  split
  · rw [if_pos (by omega)]
    rfl
  · split
    · split <;> rfl
    · rfl

/-- A reading is taken with the first offset, or for an instant past some change. -/
theorem instantOf_cases (picks : Ambiguity.Picks pick) (before : Int) (changes : List Change)
    (reading : Int) : instantOf pick before changes reading = reading - before ∨
      ∃ c ∈ changes, c.at_ ≤ instantOf pick before changes reading := by
  induction changes generalizing before with
  | nil =>
      left
      show reading - pick (.unambiguous before) = reading - before
      rw [picks.unambiguous]
  | cons c rest ih =>
      rw [instantOf_cons]
      split
      · exact .inl (by rw [picks.unambiguous])
      rename_i low
      split
      · split
        · exact .inl (by rw [picks.gap])
        · rcases picks.fold before c.after with same | same
          · exact .inl (by rw [same])
          · refine .inr ⟨c, List.mem_cons_self, ?_⟩
            rw [same]
            omega
      · rename_i high
        right
        rcases ih c.after with same | ⟨d, mem, past⟩
        · refine ⟨c, List.mem_cons_self, ?_⟩
          rw [same]
          omega
        · exact ⟨d, List.mem_cons_of_mem c mem, past⟩

/-- Past a change's readings, a reading is taken for an instant past the change. -/
theorem le_instantOf (picks : Ambiguity.Picks pick) {base reading : Int} (pos : 0 < day)
    (apart : ∀ c ∈ changes, base + 2 * day ≤ c.at_) (past : base + before ≤ reading) :
    base ≤ instantOf pick before changes reading := by
  rcases instantOf_cases picks before changes reading with same | ⟨c, mem, later⟩
  · rw [same]
    omega
  · have := apart c mem
    omega

/-- Readings a day apart are taken in order. -/
theorem compatible_lt (spaced : Spaced day before changes) (pos : 0 < day) {reading later : Int}
    (apart : reading + day ≤ later) :
    instantOf Ambiguity.compatible before changes reading <
      instantOf Ambiguity.compatible before changes later := by
  induction changes generalizing before with
  | nil =>
      show reading - before < later - before
      omega
  | cons c rest ih =>
      obtain ⟨⟨up, down⟩, next, spaced⟩ := spaced
      rw [compatible_cons, compatible_cons]
      by_cases first : later < c.at_ + max before c.after
      · rw [if_pos first, if_pos (by omega)]
        omega
      rw [if_neg first]
      split
      · rename_i early
        rcases instantOf_cases Ambiguity.compatible_picks c.after rest later with same | ⟨d, mem, past⟩
        · rw [same]
          omega
        · have := next d mem
          omega
      · exact ih spaced

/-- The clock shows less than a reading whose instant is past: it was set back over the reading. -/
theorem folded (spaced : Spaced day before changes) (pos : 0 < day) {t reading : Int}
    (shown : t + offsetAt before changes t < reading)
    (past : instantOf Ambiguity.compatible before changes reading ≤ t) :
    ∃ s ∈ shifts before changes, s.at_ ≤ t ∧ t + s.after < reading ∧ reading < s.at_ + s.before := by
  induction changes generalizing before with
  | nil =>
      have early : t + before < reading := shown
      have late : reading - before ≤ t := past
      omega
  | cons c rest ih =>
      obtain ⟨⟨up, down⟩, next, spaced⟩ := spaced
      rw [compatible_cons] at past
      rw [offsetAt] at shown
      split at shown
      · rename_i early
        split at past
        · omega
        · have := le_instantOf Ambiguity.compatible_picks pos next
            (show c.at_ + c.after ≤ reading by omega)
          omega
      rename_i late
      split at past
      · rename_i first
        by_cases near : t < c.at_ + day
        · rw [offsetAt_early fun d mem => by have := next d mem; omega] at shown
          refine ⟨⟨before, c.at_, c.after⟩, List.mem_cons_self, ?_, ?_, ?_⟩
          · exact Int.not_lt.mp late
          · exact shown
          · show reading < c.at_ + before
            omega
        · have := wall_late spaced next (Int.not_lt.mp near)
          omega
      · obtain ⟨s, mem, facts⟩ := ih spaced shown past
        exact ⟨s, List.mem_cons_of_mem _ mem, facts⟩

/-- The clock shows a reading, or more, whose instant is to come: it was set past the reading. -/
theorem skipped (spaced : Spaced day before changes) {t reading : Int}
    (shown : reading ≤ t + offsetAt before changes t)
    (future : t < instantOf Ambiguity.compatible before changes reading) :
    ∃ s ∈ shifts before changes, s.at_ ≤ t ∧ t < reading - s.before ∧
      reading < s.at_ + s.after ∧ offsetAt before changes t = s.after := by
  induction changes generalizing before with
  | nil =>
      have late : reading ≤ t + before := shown
      have early : t < reading - before := future
      omega
  | cons c rest ih =>
      obtain ⟨⟨up, down⟩, next, spaced⟩ := spaced
      rw [compatible_cons] at future
      rw [offsetAt] at shown ⊢
      split at shown
      · rw [if_pos (by omega)] at future
        omega
      rename_i late
      rw [if_neg late]
      split at future
      · rename_i first
        by_cases near : t < c.at_ + day
        · have here : offsetAt c.after rest t = c.after :=
            offsetAt_early fun d mem => by have := next d mem; omega
          rw [here] at shown ⊢
          refine ⟨⟨before, c.at_, c.after⟩, List.mem_cons_self, ?_, ?_, ?_, rfl⟩
          · exact Int.not_lt.mp late
          · exact future
          · show reading < c.at_ + c.after
            omega
        · omega
      · obtain ⟨s, mem, facts⟩ := ih spaced shown future
        exact ⟨s, List.mem_cons_of_mem _ mem, facts⟩

/-- A reading that a change concerns is taken with the offset the change ends. -/
theorem compatible_shift (spaced : Spaced day before changes) {s : Shift}
    (mem : s ∈ shifts before changes) {reading : Int} (low : s.at_ + min s.before s.after ≤ reading)
    (high : reading < s.at_ + max s.before s.after) :
    instantOf Ambiguity.compatible before changes reading = reading - s.before := by
  induction changes generalizing before with
  | nil => exact absurd mem List.not_mem_nil
  | cons c rest ih =>
      obtain ⟨⟨up, down⟩, next, spaced⟩ := spaced
      rw [compatible_cons]
      rcases List.mem_cons.mp mem with rfl | mem
      · exact if_pos high
      · have := shift_late spaced next mem
        rw [if_neg (by omega)]
        exact ih spaced mem

/-- What the clock shows at an instant, taken with the offset of the instant, is the instant. -/
theorem preferring_wall (spaced : Spaced day before changes) (t : Int) :
    instantOf (Ambiguity.preferring (offsetAt before changes t)) before changes
      (t + offsetAt before changes t) = t := by
  suffices always : ∀ given, given = offsetAt before changes t →
      instantOf (Ambiguity.preferring given) before changes (t + given) = t from always _ rfl
  intro given shown
  induction changes generalizing before with
  | nil =>
      have same : given = before := shown
      show t + given - before = t
      omega
  | cons c rest ih =>
      obtain ⟨⟨up, down⟩, next, spaced⟩ := spaced
      rw [offsetAt] at shown
      rw [instantOf_cons]
      split at shown
      · rename_i early
        subst shown
        split
        · show t + given - given = t
          omega
        · rw [if_pos (by omega), if_neg (by omega)]
          show t + given - (if given = given ∨ given = c.after then given else given) = t
          rw [if_pos (.inl rfl)]
          omega
      rename_i late
      by_cases near : t < c.at_ + day
      · rw [offsetAt_early fun d mem => by have := next d mem; omega] at shown
        subst shown
        rw [if_neg (by omega)]
        split
        · rw [if_neg (by omega)]
          show t + c.after - (if c.after = before ∨ c.after = c.after then c.after else before) = t
          rw [if_pos (.inr rfl)]
          omega
        · exact ih spaced (offsetAt_early fun d mem => by have := next d mem; omega).symm
      · have := wall_late spaced next (Int.not_lt.mp near)
        rw [← shown] at this
        rw [if_neg (by omega), if_neg (by omega)]
        exact ih spaced shown

/-- A reading is taken for an instant that shows it, or the change skips it. -/
theorem instantOf_shows (spaced : Spaced day before changes) (pos : 0 < day)
    (picks : Ambiguity.Picks pick) (reading : Int) :
    instantOf pick before changes reading +
        offsetAt before changes (instantOf pick before changes reading) = reading ∨
      ∃ s ∈ shifts before changes, instantOf pick before changes reading = reading - s.before ∧
        s.at_ + s.before ≤ reading ∧ reading < s.at_ + s.after := by
  induction changes generalizing before with
  | nil =>
      left
      show reading - pick (.unambiguous before) + before = reading
      rw [picks.unambiguous]
      omega
  | cons c rest ih =>
      obtain ⟨⟨up, down⟩, next, spaced⟩ := spaced
      rw [instantOf_cons]
      split
      · left
        rw [picks.unambiguous, offsetAt, if_pos (by omega)]
        omega
      rename_i low
      split
      · rename_i high
        split
        · rename_i forward
          refine .inr ⟨⟨before, c.at_, c.after⟩, List.mem_cons_self, ?_, ?_, ?_⟩
          · rw [picks.gap]
          · show c.at_ + before ≤ reading
            omega
          · show reading < c.at_ + c.after
            omega
        · left
          rcases picks.fold before c.after with same | same
          · rw [same, offsetAt, if_pos (by omega)]
            omega
          · rw [same, offsetAt, if_neg (by omega),
              offsetAt_early fun d mem => by have := next d mem; omega]
            omega
      · rename_i high
        have past : c.at_ ≤ instantOf pick c.after rest reading :=
          le_instantOf picks pos next (by omega)
        rcases ih spaced with shows_ | ⟨s, mem, facts⟩
        · left
          rw [offsetAt, if_neg (Int.not_lt.mpr past)]
          exact shows_
        · exact .inr ⟨s, List.mem_cons_of_mem _ mem, facts⟩

/-- A reading before the clock shows a change is taken for an instant before the change. -/
theorem compatible_early (spaced : Spaced day before changes) {s : Shift}
    (mem : s ∈ shifts before changes) {reading : Int} (early : reading < s.at_ + s.before) :
    instantOf Ambiguity.compatible before changes reading < s.at_ := by
  induction changes generalizing before with
  | nil => exact absurd mem List.not_mem_nil
  | cons c rest ih =>
      obtain ⟨⟨up, down⟩, next, spaced⟩ := spaced
      rw [compatible_cons]
      rcases List.mem_cons.mp mem with rfl | mem
      · dsimp only at early ⊢
        rw [if_pos (by omega)]
        omega
      · obtain ⟨d, inside, same⟩ := shift_at mem
        have := next d inside
        split
        · omega
        · exact ih spaced mem

/-- Past the readings a change concerns, a reading is taken with the offset the change sets. -/
theorem compatible_after (spaced : Spaced day before changes) {s : Shift}
    (mem : s ∈ shifts before changes) {reading : Int} (low : s.at_ + max s.before s.after ≤ reading)
    (high : reading < s.at_ + s.after + 2 * day) :
    instantOf Ambiguity.compatible before changes reading = reading - s.after := by
  induction changes generalizing before with
  | nil => exact absurd mem List.not_mem_nil
  | cons c rest ih =>
      obtain ⟨⟨up, down⟩, next, spaced⟩ := spaced
      rw [compatible_cons]
      rcases List.mem_cons.mp mem with rfl | mem
      · dsimp only at low high ⊢
        rw [if_neg (by omega)]
        cases rest with
        | nil => rfl
        | cons d rest =>
            have := next d List.mem_cons_self
            rw [compatible_cons, if_pos (by omega)]
      · have := shift_late spaced next mem
        rw [if_neg (by omega)]
        exact ih spaced mem

/-- Two readings of a day taken in the wrong order, or for one instant: the clock was set past the
earlier of them, by as much as lies between them. -/
theorem collapsed (spaced : Spaced day before changes) {reading later : Int} (lt : reading < later)
    (swapped : instantOf Ambiguity.compatible before changes later ≤
      instantOf Ambiguity.compatible before changes reading) :
    ∃ s ∈ shifts before changes, s.at_ + s.before ≤ reading ∧ reading < s.at_ + s.after ∧
      s.at_ + s.after ≤ later ∧ later ≤ reading + (s.after - s.before) := by
  induction changes generalizing before with
  | nil =>
      have order : later - before ≤ reading - before := swapped
      omega
  | cons c rest ih =>
      obtain ⟨⟨up, down⟩, next, spaced⟩ := spaced
      rw [compatible_cons, compatible_cons] at swapped
      by_cases first : later < c.at_ + max before c.after
      · rw [if_pos first, if_pos (by omega)] at swapped
        omega
      rw [if_neg first] at swapped
      by_cases early : reading < c.at_ + max before c.after
      · rw [if_pos early] at swapped
        rcases instantOf_cases Ambiguity.compatible_picks c.after rest later with same | ⟨d, mem, past⟩
        · rw [same] at swapped
          refine ⟨⟨before, c.at_, c.after⟩, List.mem_cons_self, ?_, ?_, ?_, ?_⟩
          · show c.at_ + before ≤ reading
            omega
          · show reading < c.at_ + c.after
            omega
          · show c.at_ + c.after ≤ later
            omega
          · show later ≤ reading + (c.after - before)
            omega
        · have := next d mem
          omega
      · rw [if_neg early] at swapped
        obtain ⟨s, mem, facts⟩ := ih spaced swapped
        exact ⟨s, List.mem_cons_of_mem _ mem, facts⟩

end Readings

end CivilTime
