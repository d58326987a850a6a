/-
# LibraGovernor.Domain.Clock -- instants, their stored text and TTL arithmetic

An `OffsetDateTime` is a UTC instant, counted in nanoseconds from the Unix epoch.
A ledger column holds its RFC 3339 text; formatting succeeds exactly for the
years 0000..9999 and parsing the text gives the instant back, so a stored
timestamp is modelled by the instant it denotes and `rfc3339` by its range check.
-/
import Mathlib.Algebra.Group.Int.Defs
import Mathlib.Algebra.Group.Nat.Defs
import Mathlib.Order.Basic

namespace LibraGovernor

set_option autoImplicit false

/-- A UTC instant in nanoseconds since the Unix epoch. -/
abbrev OffsetDateTime := Int

namespace OffsetDateTime

def nanosPerSecond : Int := 1000000000

/-- The first instant of year -9999, the earliest the type represents. -/
def earliest : OffsetDateTime := -377705116800 * nanosPerSecond

/-- The last instant of year 9999, the latest the type represents. -/
def latest : OffsetDateTime := 253402300800 * nanosPerSecond - 1

/-- The first instant of year 0000, the earliest RFC 3339 can write. -/
def earliestText : OffsetDateTime := -62167219200 * nanosPerSecond

/-- `OffsetDateTime::checked_add` of whole seconds. -/
def checkedAdd (t : OffsetDateTime) (seconds : Nat) : Option OffsetDateTime :=
  let later : Int := t + seconds * nanosPerSecond
  if earliest ≤ later ∧ later ≤ latest then some later else none

/-- Whether the RFC 3339 formatter accepts the instant. -/
def formattable (t : OffsetDateTime) : Bool := decide (earliestText ≤ t ∧ t ≤ latest)

/-- The whole seconds of an instant: what the fixed-width part of its text says. -/
def seconds (t : OffsetDateTime) : Int := t / nanosPerSecond

/-- The nanoseconds past the whole second. -/
def subsecond (t : OffsetDateTime) : Nat := (t % nanosPerSecond).toNat

/-- The end of the RFC 3339 text: nothing but `Z` on a whole second, else the
fraction with its trailing zeros dropped. -/
def fractionText (nanos : Nat) : List Char :=
  if nanos = 0 then ['Z']
  else
    let digits := (List.range 9).map fun i => Nat.digitChar (nanos / 10 ^ (8 - i) % 10)
    '.' :: (digits.reverse.dropWhile (· = '0')).reverse ++ ['Z']

/-- How two stored timestamps compare as text.  Within one second this is not the
order of the instants: `00Z` sorts after `00.5Z`. -/
def textLe (t u : OffsetDateTime) : Bool :=
  if t.seconds = u.seconds then decide ((fractionText t.subsecond).le (fractionText u.subsecond))
  else decide (t.seconds < u.seconds)

theorem textLe_iff (t u : OffsetDateTime) : t.textLe u = true ↔
    t.seconds < u.seconds ∨
      t.seconds = u.seconds ∧ (fractionText t.subsecond).le (fractionText u.subsecond) := by
  by_cases same : t.seconds = u.seconds
  · rw [textLe, if_pos same, decide_eq_true_iff]
    constructor
    · intro le
      exact .inr ⟨same, le⟩
    · rintro (lt | ⟨-, le⟩)
      · exact absurd lt (same ▸ Int.lt_irrefl _)
      · exact le
  · rw [textLe, if_neg same, decide_eq_true_iff]
    constructor
    · exact .inl
    · rintro (lt | ⟨same', -⟩)
      · exact lt
      · exact absurd same' same

theorem textLe_total (t u : OffsetDateTime) : t.textLe u = true ∨ u.textLe t = true := by
  rw [textLe_iff, textLe_iff]
  rcases Int.lt_trichotomy t.seconds u.seconds with lt | same | gt
  · exact .inl (.inl lt)
  · rcases List.le_total (fractionText t.subsecond) (fractionText u.subsecond) with le | ge
    · exact .inl (.inr ⟨same, le⟩)
    · exact .inr (.inr ⟨same.symm, ge⟩)
  · exact .inr (.inl gt)

theorem textLe_trans {t u v : OffsetDateTime} (tu : t.textLe u = true) (uv : u.textLe v = true) :
    t.textLe v = true := by
  rw [textLe_iff] at tu uv ⊢
  rcases tu with lt | ⟨same, le⟩
  · rcases uv with lt' | ⟨same', -⟩
    · exact .inl (Int.lt_trans lt lt')
    · exact .inl (same' ▸ lt)
  · rcases uv with lt' | ⟨same', le'⟩
    · exact .inl (same ▸ lt')
    · exact .inr ⟨same.trans same', List.le_trans le le'⟩

/-- The text orders two instants of different seconds as they are. -/
theorem seconds_le_of_textLe {t u : OffsetDateTime} (le : t.textLe u = true) :
    t.seconds ≤ u.seconds := by
  rcases (textLe_iff t u).mp le with lt | ⟨same, -⟩
  · omega
  · omega

theorem seconds_mono {t u : OffsetDateTime} (le : t ≤ u) : t.seconds ≤ u.seconds :=
  Int.ediv_le_ediv (by decide) le

end OffsetDateTime

/-- The bound every reservation TTL is clamped to: one hundred years. -/
def maxTtlSecs : Nat := 100 * 365 * 24 * 3600

def i64Max : Nat := 2 ^ 63 - 1
def u64Max : Nat := 2 ^ 64 - 1

theorem i64Max_lt_u64Max : i64Max < u64Max := by decide

end LibraGovernor
