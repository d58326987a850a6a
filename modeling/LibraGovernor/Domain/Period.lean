/-
# LibraGovernor.Domain.Period -- calendar months and the pool ids they name

A monthly budget lives in the pool `metered:local-budget/monthly-YYYY-MM`.  The
zone database is a parameter: `IanaTimeZone` gives the civil month of an instant
and the instant a month's first day starts, and the arithmetic around a midnight
that falls in a gap is the source's.  The retention side reads the month back out
of a pool id (`monthIndexOfAlias`).
-/
import LibraGovernor.Domain.SharedPool

namespace LibraGovernor

set_option autoImplicit false

/-! ## Text -/

/-- Unicode `White_Space`, which `char::is_whitespace` tests. -/
def isWhitespace (c : Char) : Bool :=
  let n := c.toNat
  (0x9 ≤ n && n ≤ 0xD) || n = 0x20 || n = 0x85 || n = 0xA0 || n = 0x1680 ||
    (0x2000 ≤ n && n ≤ 0x200A) || n = 0x2028 || n = 0x2029 || n = 0x202F || n = 0x205F || n = 0x3000

/-- `str::trim().is_empty()`. -/
def isBlank (s : String) : Bool := s.toList.all isWhitespace

/-- `str::starts_with`, and SQL's `substr(x, 1, length(p)) = p`. -/
def startsWith (s p : String) : Bool := p.toList.isPrefixOf s.toList

/-- `str::strip_prefix`. -/
def stripPrefix (s p : String) : Option (List Char) :=
  if startsWith s p then some (s.toList.drop p.toList.length) else none

/-- `str::split_once`. -/
def splitOnce (sep : Char) (s : List Char) : Option (List Char × List Char) :=
  match s.dropWhile (· ≠ sep) with
  | [] => none
  | _ :: rest => some (s.takeWhile (· ≠ sep), rest)

/-- Decimal digits with leading zeros up to `width`. -/
def padded (width n : Nat) : String :=
  "".pushn '0' (width - (Nat.repr n).length) ++ Nat.repr n

/-- A signed number printed in a zero-padded field; the sign takes a place. -/
def paddedInt (width : Nat) (n : Int) : String :=
  if 0 ≤ n then padded width n.toNat else "-" ++ padded (width - 1) (-n).toNat

/-- The number a run of decimal digits denotes. -/
def digitsValue (digits : List Char) : Nat := Nat.ofDigitChars 10 digits 0

/-! ## Months -/

/-- A calendar month, counted from January of year 0. -/
structure CivilMonth where
  index : Int
  deriving DecidableEq, Repr

namespace CivilMonth

def year (m : CivilMonth) : Int := m.index / 12

def month (m : CivilMonth) : Nat := (m.index % 12).toNat + 1

def previous (m : CivilMonth) : CivilMonth := ⟨m.index - 1⟩

def next (m : CivilMonth) : CivilMonth := ⟨m.index + 1⟩

end CivilMonth

/-- A time zone, as far as months go: the civil month of an instant, and the first
instant of a month's first day. -/
structure IanaTimeZone where
  localMonth : OffsetDateTime → CivilMonth
  firstMidnight : CivilMonth → OffsetDateTime

/-- The half-open bounds of the month an instant falls in.  A midnight in a gap
resolves to a later instant, and an instant before that is still of the month
before. -/
def calendarMonthBounds (now : OffsetDateTime) (tz : IanaTimeZone) :
    OffsetDateTime × OffsetDateTime :=
  let first := tz.localMonth now
  let first := if now < tz.firstMidnight first then first.previous else first
  (tz.firstMidnight first, tz.firstMidnight first.next)

/-- `monthly-YYYY-MM` of the month that starts at `periodStart`. -/
def monthlyPoolAlias (periodStart : OffsetDateTime) (tz : IanaTimeZone) : String :=
  let m := tz.localMonth periodStart
  "monthly-" ++ paddedInt 4 m.year ++ "-" ++ paddedInt 2 m.month

/-! ## Metered pools -/

def meteredPoolPrefix : String := "metered:"

def localBudgetOwner : PrincipalId := ⟨"local-budget"⟩

/-- `[a-z][a-z0-9_-]*` of at most 32 bytes. -/
def isValidSlug (slug : String) : Bool :=
  match slug.toList with
  | [] => false
  | first :: rest =>
      first.isLower && decide (slug.utf8ByteSize ≤ 32) &&
        rest.all fun c => c.isLower || c.isDigit || c = '_' || c = '-'

/-- The pool `metered:<owner>/<alias>`, when both are slugs. -/
def meteredPoolId (owner : PrincipalId) (alias_ : String) : Option PoolId :=
  if isValidSlug owner.val && isValidSlug alias_ then
    some ⟨meteredPoolPrefix ++ owner.val ++ "/" ++ alias_⟩
  else none

/-- Owner and alias of a well-formed metered pool id. -/
def parseMeteredPoolKey (poolId : PoolId) : Option (PrincipalId × String) :=
  match stripPrefix poolId.val meteredPoolPrefix with
  | none => none
  | some rest =>
  match splitOnce '/' rest with
  | none => none
  | some (owner, alias_) =>
      if isValidSlug (String.ofList owner) && isValidSlug (String.ofList alias_) then
        some (⟨String.ofList owner⟩, String.ofList alias_)
      else none

/-- Months since year 0 of exactly `monthly-YYYY-MM`. -/
def monthIndexOfAlias (alias_ : String) : Option Int :=
  match stripPrefix alias_ "monthly-" with
  | none => none
  | some rest =>
  match splitOnce '-' rest with
  | none => none
  | some (year, month) =>
      if year.length = 4 ∧ month.length = 2 ∧ year.all Char.isDigit ∧ month.all Char.isDigit then
        let m := digitsValue month
        if 1 ≤ m ∧ m ≤ 12 then some (digitsValue year * 12 + (m - 1 : Nat)) else none
      else none

/-! ## The UTC calendar -/

namespace IanaTimeZone

/-- Days from 1970-01-01 to the first day of a month, in the proleptic Gregorian
calendar whose years start in March. -/
def daysToMonth (m : CivilMonth) : Int :=
  let shifted := m.index - 2
  let year := shifted / 12
  let dayOfYear := (153 * (shifted % 12) + 2) / 5
  365 * year + year / 4 - year / 100 + year / 400 + dayOfYear - 719468

/-- The month a day falls in: the estimate by mean month length is off by at most
one. -/
def monthOfDay (day : Int) : CivilMonth :=
  let guess : CivilMonth := ⟨(day + 719528) * 4800 / 146097⟩
  if day < daysToMonth guess then guess.previous
  else if daysToMonth guess.next ≤ day then guess.next
  else guess

/-- The zone without offsets. -/
def utc : IanaTimeZone where
  localMonth t := monthOfDay (t.seconds / 86400)
  firstMidnight m := daysToMonth m * 86400 * OffsetDateTime.nanosPerSecond

end IanaTimeZone

end LibraGovernor
