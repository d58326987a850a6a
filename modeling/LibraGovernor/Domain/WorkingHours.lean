/-
# LibraGovernor.Domain.WorkingHours -- the next instant inside daily working hours

`nextWorkingInstant` keeps an instant inside today's hours, moves an earlier one to today's start,
and moves any other to tomorrow's start.  The start and the end of a day are read off the zone's
clock separately.  The result should be the earliest working instant (`Earliest`).

For one `now` this comes down to the day whose start is returned: its hours must be open where they
start, no hours of the day before may reach into today, and tomorrow's start must be to come
(`earliest_iff`).  For every `now` it fails exactly where a change of the clock comes at the wrong
place (`nextWorkingInstant_iff`): it skips the start of a day and leaves nothing of the hours, it
carries the start past midnight, it carries the end past midnight into a morning that is not yet
working, or it sets the clock back over a midnight whose start it has passed.
-/
import LibraGovernor.Domain.Zone

namespace LibraGovernor

open CivilTime

set_option autoImplicit false

inductive WorkingHoursError where
  | startNotBeforeEnd (startHour startMinute endHour endMinute : Nat)
  deriving DecidableEq, Repr

/-- Daily working hours; the start is before the end. -/
structure WorkingHours where
  timeZone : TimeZone
  start : WallClockTime
  end_ : WallClockTime
  before : start.hour < end_.hour ∨ start.hour = end_.hour ∧ start.minute < end_.minute

def WorkingHours.new (timeZone : TimeZone) (start end_ : WallClockTime) :
    Except WorkingHoursError WorkingHours :=
  if before : start.hour < end_.hour ∨ start.hour = end_.hour ∧ start.minute < end_.minute then
    .ok { timeZone, start, end_, before }
  else .error (.startNotBeforeEnd start.hour start.minute end_.hour end_.minute)

/-- The earliest instant from `now` on within the hours, stepping by civil days. -/
def nextWorkingInstant (now : OffsetDateTime) (hours : WorkingHours) : OffsetDateTime :=
  let date := hours.timeZone.civilDay now
  let todayStart := hours.timeZone.candidateInstant date hours.start
  let todayEnd := hours.timeZone.candidateInstant date hours.end_
  if todayStart ≤ now ∧ now < todayEnd then now
  else if now < todayStart then todayStart
  else hours.timeZone.candidateInstant (date + 1) hours.start

namespace WorkingHours

/-- Within the hours of the day the zone's clock shows. -/
def InDay (hours : WorkingHours) (t : OffsetDateTime) : Prop :=
  hours.timeZone.candidateInstant (hours.timeZone.civilDay t) hours.start ≤ t ∧
    t < hours.timeZone.candidateInstant (hours.timeZone.civilDay t) hours.end_

/-- The next day's hours start before the zone's clock shows that day. -/
def Overtaken (hours : WorkingHours) (t : OffsetDateTime) : Prop :=
  hours.timeZone.candidateInstant (hours.timeZone.civilDay t + 1) hours.start ≤ t

/-- An instant that is not moved is within its day's hours, or the next day's start is past. -/
theorem inDay_of_next {hours : WorkingHours} {now : OffsetDateTime}
    (here : nextWorkingInstant now hours ≤ now) : hours.InDay now ∨ hours.Overtaken now := by
  unfold nextWorkingInstant at here
  dsimp only at here
  split at here
  · exact .inl ‹_›
  split at here
  · rename_i early
    exact absurd early (not_lt.mpr here)
  · exact .inr here

end WorkingHours

/-- Working hours in a zone that is given by the changes of its clock. -/
structure ZonedHours where
  timeZone : Zone
  start : WallClockTime
  end_ : WallClockTime
  before : start.hour < end_.hour ∨ start.hour = end_.hour ∧ start.minute < end_.minute

namespace ZonedHours

/-- The hours as the pacer has them. -/
abbrev workingHours (hours : ZonedHours) : WorkingHours :=
  ⟨hours.timeZone.timeZone, hours.start, hours.end_, hours.before⟩

/-! ## The hours of a day -/

section Hours

variable (hours : ZonedHours)

def starts (day : Int) : Int := hours.timeZone.timeZone.candidateInstant day hours.start

def ends (day : Int) : Int := hours.timeZone.timeZone.candidateInstant day hours.end_

/-- Inside the hours of some day. -/
def Working (t : Int) : Prop := ∃ day, hours.starts day ≤ t ∧ t < hours.ends day

/-- A day's hours are open where they start, and they start on the day. -/
def Opens (day : Int) : Prop :=
  hours.starts day < hours.ends day ∧ hours.timeZone.timeZone.civilDay (hours.starts day) = day

/-- The earliest working instant from `now` on. -/
structure Earliest (now result : OffsetDateTime) : Prop where
  le : now ≤ result
  working : hours.Working result
  first : ∀ t, now ≤ t → t < result → ¬ hours.Working t
  stays : nextWorkingInstant result hours.workingHours = result

theorem nanos_lt : hours.start.nanos < hours.end_.nanos := by
  have ordered := hours.before
  have minute := hours.start.minute_lt
  show ((hours.start.hour : Int) * 60 + hours.start.minute) * 60 * 1000000000 <
    ((hours.end_.hour : Int) * 60 + hours.end_.minute) * 60 * 1000000000
  omega

theorem starts_lt {day later : Int} (lt : day < later) : hours.starts day < hours.starts later :=
  Zone.candidateInstant_lt lt

theorem ends_lt {day later : Int} (lt : day < later) : hours.ends day < hours.ends later :=
  Zone.candidateInstant_lt lt

theorem starts_le {day later : Int} (le : day ≤ later) : hours.starts day ≤ hours.starts later := by
  rcases le.lt_or_eq with lt | rfl
  · exact (starts_lt hours lt).le
  · exact le_rfl

theorem ends_le {day later : Int} (le : day ≤ later) : hours.ends day ≤ hours.ends later := by
  rcases le.lt_or_eq with lt | rfl
  · exact (ends_lt hours lt).le
  · exact le_rfl

variable {hours}

/-- Past the end of a day's hours and before the next start nobody works. -/
theorem not_working {day t : Int} (over_ : hours.ends day ≤ t) (early : t < hours.starts (day + 1)) :
    ¬ hours.Working t := by
  rintro ⟨d, since, until_⟩
  by_cases old : d ≤ day
  · have := ends_le hours old
    omega
  · have := starts_le hours (show day + 1 ≤ d by omega)
    omega

theorem next_cases (now : Int) {day : Int} (today : hours.timeZone.timeZone.civilDay now = day) :
    hours.starts day ≤ now ∧ now < hours.ends day ∧ nextWorkingInstant now hours.workingHours = now ∨
      now < hours.starts day ∧ nextWorkingInstant now hours.workingHours = hours.starts day ∨
      hours.starts day ≤ now ∧ hours.ends day ≤ now ∧
        nextWorkingInstant now hours.workingHours = hours.starts (day + 1) := by
  unfold nextWorkingInstant
  dsimp only
  rw [today]
  split
  · rename_i inside
    exact .inl ⟨inside.1, inside.2, rfl⟩
  · rename_i outside
    split
    · rename_i early
      exact .inr (.inl ⟨early, rfl⟩)
    · rename_i late
      have since : hours.starts day ≤ now := not_lt.mp late
      refine .inr (.inr ⟨since, ?_, rfl⟩)
      by_contra inside
      exact outside ⟨since, not_le.mp inside⟩

variable (hours) in
/-- The clock shows a day's start, or a later reading, where the hours start. -/
theorem le_civilDay_starts (day : Int) :
    day ≤ hours.timeZone.timeZone.civilDay (hours.starts day) := by
  have bounds := hours.start.nanos_bounds
  have shown : midnight day + hours.start.nanos ≤ hours.timeZone.wall (hours.starts day) := by
    rcases instantOf_shows hours.timeZone.spaced nanosPerDay_pos Ambiguity.compatible_picks
      (midnight day + hours.start.nanos) with same | ⟨s, mem, taken, low, high⟩
    · exact le_of_eq same.symm
    · have at_ : hours.starts day = midnight day + hours.start.nanos - s.before := taken
      have facts := shift_lt_day hours.timeZone.spaced mem
      have here : hours.timeZone.offset (hours.starts day) = s.after := by
        apply offsetAt_after hours.timeZone.spaced nanosPerDay_pos mem <;> omega
      rw [Zone.wall, here]
      omega
  obtain ⟨-, until_⟩ := @Zone.civilDay_bounds hours.timeZone (hours.starts day)
  rw [midnight, nanosPerDay_eq] at shown until_
  omega

variable (hours) in
/-- Two days on, a day's hours are over. -/
theorem ends_past {now day : Int} (later : day + 2 ≤ hours.timeZone.timeZone.civilDay now) :
    hours.ends day ≤ now := by
  by_contra future
  have bounds := hours.end_.nanos_bounds
  obtain ⟨low, -⟩ := @Zone.civilDay_bounds hours.timeZone now
  have two : midnight day + 2 * nanosPerDay ≤ hours.timeZone.wall now := by
    refine le_trans ?_ low
    rw [midnight, midnight, nanosPerDay_eq]
    omega
  have next : midnight (day + 1) = midnight day + nanosPerDay := by
    simp only [midnight, nanosPerDay_eq]
    omega
  obtain ⟨s, -, -, near⟩ := @Zone.setPast_of_future hours.timeZone hours.end_ now day (by omega)
    (not_le.mp future)
  omega

/-- The clock was set back over the midnight of a day whose start is past before it shows the day. -/
theorem setsBack_of_overtaken {t : OffsetDateTime} (past : hours.workingHours.Overtaken t) :
    ∃ s ∈ hours.timeZone.shifts,
      SetsBack s (hours.timeZone.timeZone.civilDay t + 1) hours.start :=
  Zone.setBack_of_past (Zone.civilDay_iff.mp rfl).2 past

theorem next_starts {day : Int} (opens : hours.Opens day) :
    nextWorkingInstant (hours.starts day) hours.workingHours = hours.starts day := by
  rcases next_cases (hours.starts day) opens.2 with ⟨_, _, same⟩ | ⟨early, _⟩ | ⟨_, over_, _⟩
  · exact same
  · exact absurd early (lt_irrefl _)
  · exact absurd opens.1 (not_lt.mpr over_)

/-- A start that is working and stays is where its own day opens. -/
theorem opens_of_stays {day : Int} (working : hours.Working (hours.starts day))
    (stays : nextWorkingInstant (hours.starts day) hours.workingHours = hours.starts day) : hours.Opens day := by
  obtain ⟨d, since, until_⟩ := working
  have own : d ≤ day := by
    by_contra later
    exact absurd (starts_lt hours (not_le.mp later)) (not_lt.mpr since)
  refine ⟨lt_of_lt_of_le until_ (ends_le hours own), ?_⟩
  have low := le_civilDay_starts hours day
  rcases next_cases (hours.starts day) rfl with ⟨begun, _, _⟩ | ⟨early, moved⟩ | ⟨_, _, moved⟩
  · by_contra differ
    exact absurd (starts_lt hours (lt_of_le_of_ne low (Ne.symm differ))) (not_lt.mpr begun)
  · exact absurd (moved.symm.trans stays) (ne_of_gt early)
  · have same := moved.symm.trans stays
    exact absurd same (ne_of_gt (starts_lt hours (by omega)))

end Hours

/-! ## One instant -/

/-- Where the result is the earliest working instant. -/
def Reaches (hours : ZonedHours) (now : Int) : Prop :=
  let day := hours.timeZone.timeZone.civilDay now
  hours.starts day ≤ now ∧ now < hours.ends day ∨
    now < hours.starts day ∧ hours.Opens day ∧
      ¬ (hours.starts (day - 1) < hours.ends (day - 1) ∧ now < hours.ends (day - 1)) ∨
    hours.starts day ≤ now ∧ hours.ends day ≤ now ∧ now ≤ hours.starts (day + 1) ∧
      hours.Opens (day + 1)

theorem reaches_iff {hours : ZonedHours} {now day : Int}
    (today : hours.timeZone.timeZone.civilDay now = day) : hours.Reaches now ↔
      hours.starts day ≤ now ∧ now < hours.ends day ∨
        now < hours.starts day ∧ hours.Opens day ∧
          ¬ (hours.starts (day - 1) < hours.ends (day - 1) ∧ now < hours.ends (day - 1)) ∨
        hours.starts day ≤ now ∧ hours.ends day ≤ now ∧ now ≤ hours.starts (day + 1) ∧
          hours.Opens (day + 1) := by
  subst today
  rfl

theorem earliest_iff (hours : ZonedHours) (now : Int) :
    hours.Earliest now (nextWorkingInstant now hours.workingHours) ↔ hours.Reaches now := by
  generalize today : hours.timeZone.timeZone.civilDay now = day
  rw [reaches_iff today]
  have before : hours.starts (day - 1) < hours.starts day := starts_lt hours (by omega)
  rcases next_cases now today with ⟨since, until_, same⟩ | ⟨early, moved⟩ | ⟨since, over_, moved⟩
  · rw [same]
    refine ⟨fun _ => .inl ⟨since, until_⟩, fun _ => ⟨le_rfl, ⟨day, since, until_⟩, ?_, same⟩⟩
    intro t le lt
    exact absurd lt (not_lt.mpr le)
  · rw [moved]
    constructor
    · intro earliest
      refine .inr (.inl ⟨early, opens_of_stays earliest.working earliest.stays, ?_⟩)
      rintro ⟨open_, until_⟩
      refine earliest.first (max now (hours.starts (day - 1))) (le_max_left _ _)
        (max_lt early before) ⟨day - 1, le_max_right _ _, max_lt until_ open_⟩
    · rintro (⟨since, _⟩ | ⟨_, opens, done⟩ | ⟨since, _⟩)
      · exact absurd early (not_lt.mpr since)
      · refine ⟨early.le, ⟨day, le_rfl, opens.1⟩, ?_, next_starts opens⟩
        rintro t le lt ⟨d, begun, until_⟩
        have old : d ≤ day - 1 := by
          by_contra later
          have := starts_le hours (show day ≤ d by omega)
          exact absurd (lt_of_le_of_lt (this.trans begun) lt) (lt_irrefl _)
        have bound := lt_of_lt_of_le until_ (ends_le hours old)
        refine done ⟨?_, lt_of_le_of_lt le bound⟩
        by_cases last : d = day - 1
        · subst last
          exact lt_of_le_of_lt begun until_
        · have past := ends_past hours (show d + 2 ≤ hours.timeZone.timeZone.civilDay now by omega)
          exact absurd (lt_of_le_of_lt le until_) (not_lt.mpr past)
      · exact absurd early (not_lt.mpr since)
  · rw [moved]
    constructor
    · intro earliest
      exact .inr (.inr ⟨since, over_, earliest.le, opens_of_stays earliest.working earliest.stays⟩)
    · rintro (⟨_, until_⟩ | ⟨early, _⟩ | ⟨_, _, le, opens⟩)
      · exact absurd until_ (not_lt.mpr over_)
      · exact absurd early (not_lt.mpr since)
      · refine ⟨le, ⟨day + 1, le_rfl, opens.1⟩, ?_, next_starts opens⟩
        intro t from_ lt
        exact not_working (over_.trans from_) lt

/-! ## Changes at the wrong place -/

/-- The clock skips a day's start and what it is set past is all of the hours. -/
def Swallows (hours : ZonedHours) (s : Shift) (day : Int) : Prop :=
  s.at_ + s.before ≤ midnight day + hours.start.nanos ∧
    midnight day + hours.start.nanos < s.at_ + s.after ∧
    s.at_ + s.after ≤ midnight day + hours.end_.nanos ∧
    midnight day + hours.end_.nanos ≤ midnight day + hours.start.nanos + (s.after - s.before)

/-- The clock skips a day's start, which is then on the next day. -/
def StartsLate (hours : ZonedHours) (s : Shift) (day : Int) : Prop :=
  s.at_ + s.before ≤ midnight day + hours.start.nanos ∧
    midnight day + hours.start.nanos < s.at_ + s.after ∧
    midnight (day + 1) ≤ midnight day + hours.start.nanos + (s.after - s.before)

/-- The clock skips a day's end, which is then on the next day, and the next day's hours do not
start with what the clock first shows of it. -/
def EndsLate (hours : ZonedHours) (s : Shift) (day : Int) : Prop :=
  SetsPast s day hours.end_ ∧ (midnight (day + 1) + hours.start.nanos < s.at_ + s.after ∨
    0 < hours.start.nanos ∧ s.at_ + s.after < midnight (day + 1) + hours.start.nanos)

/-- No change of the zone's clock comes at the wrong place for the hours. -/
def Clear (hours : ZonedHours) : Prop :=
  ∀ day, ∀ s ∈ hours.timeZone.shifts, ¬ hours.Swallows s day ∧ ¬ hours.StartsLate s day ∧
    ¬ hours.EndsLate s day ∧ ¬ SetsBack s day hours.start

section Changes

variable {hours : ZonedHours} {s : Shift} {day : Int}

theorem midnight_succ (day : Int) : midnight (day + 1) = midnight day + nanosPerDay := by
  simp only [midnight, nanosPerDay_eq]
  omega

theorem starts_spec : hours.starts day =
    instantOf Ambiguity.compatible hours.timeZone.initial hours.timeZone.changes
      (midnight day + hours.start.nanos) := rfl

theorem ends_spec : hours.ends day =
    instantOf Ambiguity.compatible hours.timeZone.initial hours.timeZone.changes
      (midnight day + hours.end_.nanos) := rfl

/-- A skipped start is read with the offset the change ends. -/
theorem starts_skipped (mem : s ∈ hours.timeZone.shifts)
    (low : s.at_ + s.before ≤ midnight day + hours.start.nanos)
    (high : midnight day + hours.start.nanos < s.at_ + s.after) :
    hours.starts day = midnight day + hours.start.nanos - s.before := by
  rw [starts_spec]
  apply compatible_shift hours.timeZone.spaced mem <;> omega

theorem not_opens_of_swallows (mem : s ∈ hours.timeZone.shifts) (swallows : hours.Swallows s day) :
    ¬ hours.Opens day := by
  obtain ⟨low, high, after_, short⟩ := swallows
  have bounds := hours.end_.nanos_bounds
  have bounds' := hours.start.nanos_bounds
  have ending : hours.ends day = midnight day + hours.end_.nanos - s.after := by
    rw [ends_spec]
    apply compatible_after hours.timeZone.spaced mem <;> omega
  rintro ⟨open_, -⟩
  rw [starts_skipped mem low high, ending] at open_
  omega

theorem civilDay_after (mem : s ∈ hours.timeZone.shifts) {t : Int} (since : s.at_ ≤ t)
    (near : t < s.at_ + 2 * nanosPerDay) : hours.timeZone.timeZone.civilDay t = day ↔
      midnight day ≤ t + s.after ∧ t + s.after < midnight (day + 1) := by
  rw [Zone.civilDay_iff, Zone.wall, Zone.offset,
    offsetAt_after hours.timeZone.spaced nanosPerDay_pos mem since near]

theorem civilDay_before (mem : s ∈ hours.timeZone.shifts) {t : Int}
    (near : s.at_ ≤ t + 2 * nanosPerDay) (early : t < s.at_) :
    hours.timeZone.timeZone.civilDay t = day ↔
      midnight day ≤ t + s.before ∧ t + s.before < midnight (day + 1) := by
  rw [Zone.civilDay_iff, Zone.wall, Zone.offset,
    offsetAt_before hours.timeZone.spaced mem near early]

theorem not_opens_of_startsLate (mem : s ∈ hours.timeZone.shifts)
    (late : hours.StartsLate s day) : ¬ hours.Opens day := by
  obtain ⟨low, high, past⟩ := late
  have facts := shift_lt_day hours.timeZone.spaced mem
  rintro ⟨-, today⟩
  rw [starts_skipped mem low high, civilDay_after mem (by omega) (by omega)] at today
  omega

/-- Some instant is moved to a start that the clock skips. -/
theorem exists_moved (mem : s ∈ hours.timeZone.shifts)
    (low : s.at_ + s.before ≤ midnight day + hours.start.nanos)
    (high : midnight day + hours.start.nanos < s.at_ + s.after) :
    ∃ now, hours.Reaches now → hours.Opens day := by
  have bounds := hours.start.nanos_bounds
  have facts := shift_lt_day hours.timeZone.spaced mem
  have next := midnight_succ day
  have start := starts_skipped mem low high
  by_cases shown : midnight day < s.at_ + s.before
  · -- The day has begun when the clock changes.
    refine ⟨s.at_ - 1, ?_⟩
    have today : hours.timeZone.timeZone.civilDay (s.at_ - 1) = day := by
      rw [civilDay_before mem (by omega) (by omega)]
      omega
    intro reaches
    rw [reaches_iff today] at reaches
    rcases reaches with ⟨since, _⟩ | ⟨_, opens, _⟩ | ⟨since, _⟩
    · omega
    · exact opens
    · omega
  by_cases begun : s.at_ + s.before < midnight day + hours.start.nanos
  · -- The day begins with the change, before its start.
    refine ⟨s.at_, ?_⟩
    have today : hours.timeZone.timeZone.civilDay s.at_ = day := by
      rw [civilDay_after mem le_rfl (by omega)]
      omega
    intro reaches
    rw [reaches_iff today] at reaches
    rcases reaches with ⟨since, _⟩ | ⟨_, opens, _⟩ | ⟨since, _⟩
    · omega
    · exact opens
    · omega
  · -- The day and its hours begin with the change; the day before is over.
    refine ⟨s.at_ - 1, ?_⟩
    have today : hours.timeZone.timeZone.civilDay (s.at_ - 1) = day - 1 := by
      rw [civilDay_before mem (by omega) (by omega), Int.sub_add_cancel]
      have before := midnight_succ (day - 1)
      rw [Int.sub_add_cancel] at before
      omega
    have before := midnight_succ (day - 1)
    rw [Int.sub_add_cancel] at before
    have bounds' := hours.end_.nanos_bounds
    have over_ : hours.ends (day - 1) < s.at_ := by
      rw [ends_spec]
      exact compatible_early hours.timeZone.spaced mem (by omega)
    have begun' : hours.starts (day - 1) < s.at_ := by
      rw [starts_spec]
      exact compatible_early hours.timeZone.spaced mem (by omega)
    intro reaches
    rw [reaches_iff today, Int.sub_add_cancel] at reaches
    rcases reaches with ⟨_, until_⟩ | ⟨early, _⟩ | ⟨_, _, _, opens⟩
    · omega
    · omega
    · exact opens

/-- Set back over a midnight, the clock shows the day before while the day's start is past. -/
theorem not_reaches_of_setsBack (mem : s ∈ hours.timeZone.shifts)
    (back : SetsBack s day hours.start) : ¬ hours.Reaches s.at_ := by
  obtain ⟨shows_, past⟩ := setsBack_shows mem back
  have past : hours.starts day < s.at_ := past
  have bounds := hours.start.nanos_bounds
  have bounds' := hours.end_.nanos_bounds
  obtain ⟨low, high⟩ := back
  have before := midnight_succ (day - 1)
  rw [Int.sub_add_cancel] at before
  have over_ : hours.ends (day - 1) < s.at_ := by
    rw [ends_spec]
    exact compatible_early hours.timeZone.spaced mem (by omega)
  have order : hours.starts (day - 1) < hours.starts day := starts_lt hours (by omega)
  intro reaches
  rw [reaches_iff shows_, Int.sub_add_cancel] at reaches
  rcases reaches with ⟨_, until_⟩ | ⟨early, _⟩ | ⟨_, _, le, _⟩ <;> omega

/-- Past midnight the day before is still working, and the day's own hours are to come. -/
theorem exists_overrun (mem : s ∈ hours.timeZone.shifts) (late : hours.EndsLate s day) :
    ∃ now, ¬ hours.Reaches now := by
  obtain ⟨⟨low, high, past⟩, apart⟩ := late
  have bounds := hours.end_.nanos_bounds
  have bounds' := hours.start.nanos_bounds
  have ordered := nanos_lt hours
  have facts := shift_lt_day hours.timeZone.spaced mem
  have next := midnight_succ day
  have next' := midnight_succ (day + 1)
  have ending : hours.ends day = midnight day + hours.end_.nanos - s.before := by
    rw [ends_spec]
    apply compatible_shift hours.timeZone.spaced mem <;> omega
  have starting : hours.starts day < hours.ends day := by
    by_cases skipped_ : s.at_ + s.before ≤ midnight day + hours.start.nanos
    · rw [starts_skipped mem skipped_ (by omega), ending]
      omega
    · have early : hours.starts day < s.at_ := by
        rw [starts_spec]
        exact compatible_early hours.timeZone.spaced mem (by omega)
      omega
  -- The first instant that shows the next day.
  refine ⟨max s.at_ (midnight (day + 1) - s.after), ?_⟩
  have tomorrow : hours.timeZone.timeZone.civilDay (max s.at_ (midnight (day + 1) - s.after)) =
      day + 1 := by
    rw [civilDay_after mem (by omega) (by omega)]
    omega
  have soon : max s.at_ (midnight (day + 1) - s.after) < hours.starts (day + 1) := by
    rcases apart with early | ⟨pos, after_⟩
    · rw [starts_skipped mem (by omega) early]
      omega
    · have start : hours.starts (day + 1) =
          midnight (day + 1) + hours.start.nanos - s.after := by
        rw [starts_spec]
        apply compatible_after hours.timeZone.spaced mem <;> omega
      rw [start]
      omega
  intro reaches
  rw [reaches_iff tomorrow, Int.add_sub_cancel] at reaches
  rcases reaches with ⟨since, _⟩ | ⟨_, _, done⟩ | ⟨since, _⟩
  · omega
  · exact done ⟨starting, by omega⟩
  · omega

/-- Hours that do not open were swallowed, or carried past midnight. -/
theorem opens_of_clear (clear : hours.Clear) (day : Int) : hours.Opens day := by
  have ordered := nanos_lt hours
  have bounds := hours.start.nanos_bounds
  constructor
  · by_contra swapped
    obtain ⟨s, mem, facts⟩ := collapsed hours.timeZone.spaced
      (show midnight day + hours.start.nanos < midnight day + hours.end_.nanos by omega)
      (not_lt.mp swapped)
    exact (clear day s mem).1 facts
  · have next := midnight_succ day
    rcases instantOf_shows hours.timeZone.spaced nanosPerDay_pos Ambiguity.compatible_picks
      (midnight day + hours.start.nanos) with same | ⟨s, mem, taken, low, high⟩
    · rw [Zone.civilDay_iff]
      have shown : hours.timeZone.wall (hours.starts day) = midnight day + hours.start.nanos := same
      rw [shown]
      omega
    · have facts := shift_lt_day hours.timeZone.spaced mem
      have start : hours.starts day = midnight day + hours.start.nanos - s.before := taken
      rw [start, civilDay_after mem (by omega) (by omega)]
      by_contra late
      exact (clear day s mem).2.1 ⟨low, high, by omega⟩

/-- Without an overrun, no hours of the day before reach into the time before today's start. -/
theorem done_of_clear (clear : hours.Clear) {now : Int}
    (today : hours.timeZone.timeZone.civilDay now = day + 1) (early : now < hours.starts (day + 1)) :
    hours.ends day ≤ now := by
  by_contra future
  have bounds := hours.end_.nanos_bounds
  have bounds' := hours.start.nanos_bounds
  have next := midnight_succ day
  have next' := midnight_succ (day + 1)
  have shown : midnight (day + 1) ≤ hours.timeZone.wall now := (Zone.civilDay_iff.mp today).1
  obtain ⟨s, mem, since, soon, high, here⟩ := skipped hours.timeZone.spaced
    (show midnight day + hours.end_.nanos ≤ hours.timeZone.wall now by omega) (not_le.mp future)
  have facts := shift_lt_day hours.timeZone.spaced mem
  have shows_ : hours.timeZone.wall now = now + s.after := by
    show now + offsetAt hours.timeZone.initial hours.timeZone.changes now = now + s.after
    rw [here]
  refine (clear day s mem).2.2.1 ⟨⟨by omega, high, by omega⟩, ?_⟩
  by_contra together
  have start : hours.starts (day + 1) = midnight (day + 1) + hours.start.nanos - s.after := by
    rw [starts_spec]
    apply compatible_after hours.timeZone.spaced mem <;> omega
  omega

theorem reaches_of_clear (clear : hours.Clear) (now : Int) : hours.Reaches now := by
  generalize today : hours.timeZone.timeZone.civilDay now = day
  rw [reaches_iff today]
  by_cases early : now < hours.starts day
  · refine .inr (.inl ⟨early, opens_of_clear clear day, ?_⟩)
    rintro ⟨-, until_⟩
    have done : hours.ends (day - 1) ≤ now := done_of_clear clear
      (by rw [today, Int.sub_add_cancel]) (by rw [Int.sub_add_cancel]; exact early)
    omega
  · by_cases until_ : now < hours.ends day
    · exact .inl ⟨not_lt.mp early, until_⟩
    · refine .inr (.inr ⟨not_lt.mp early, not_lt.mp until_, ?_, opens_of_clear clear (day + 1)⟩)
      by_contra past
      have shown := (Zone.civilDay_iff.mp today).2
      obtain ⟨s, mem, back⟩ := Zone.setBack_of_past shown
        (show hours.starts (day + 1) ≤ now by omega)
      exact (clear (day + 1) s mem).2.2.2 back

end Changes

/-- `next_working_instant` is the earliest working instant for every `now` exactly when no change
of the clock comes at the wrong place for the hours; for a given `now`, exactly when the day it is
moved to opens at its start, the day before is done, and tomorrow's start is to come. -/
theorem nextWorkingInstant_iff (hours : ZonedHours) :
    ((∀ now, hours.Earliest now (nextWorkingInstant now hours.workingHours)) ↔ hours.Clear) ∧
      ∀ now, hours.Earliest now (nextWorkingInstant now hours.workingHours) ↔ hours.Reaches now := by
  refine ⟨⟨?_, ?_⟩, earliest_iff hours⟩
  · intro earliest day s mem
    have reaches : ∀ now, hours.Reaches now := fun now => (earliest_iff hours now).mp (earliest now)
    have opens : s.at_ + s.before ≤ midnight day + hours.start.nanos →
        midnight day + hours.start.nanos < s.at_ + s.after → hours.Opens day := by
      intro low high
      obtain ⟨now, moved⟩ := exists_moved mem low high
      exact moved (reaches now)
    refine ⟨?_, ?_, ?_, ?_⟩
    · intro swallows
      exact not_opens_of_swallows mem swallows (opens swallows.1 swallows.2.1)
    · intro late
      exact not_opens_of_startsLate mem late (opens late.1 late.2.1)
    · intro late
      obtain ⟨now, missed⟩ := exists_overrun mem late
      exact missed (reaches now)
    · intro back
      exact not_reaches_of_setsBack mem back (reaches s.at_)
  · intro clear now
    exact (earliest_iff hours now).mpr (reaches_of_clear clear now)

/-- The clock goes from 02:00 to 03:00 at 2026-03-08T07:00Z. -/
def springForward : Zone where
  initial := -18000 * OffsetDateTime.nanosPerSecond
  changes := [⟨1772953200 * OffsetDateTime.nanosPerSecond, -14400 * OffsetDateTime.nanosPerSecond⟩]
  spaced := by decide
  initial_whole := by decide
  changes_whole := by decide

/-- From 02:30 to 03:15. -/
def smallHours : ZonedHours where
  timeZone := springForward
  start := ⟨2, 30, by decide, by decide⟩
  end_ := ⟨3, 15, by decide, by decide⟩
  before := .inl (by decide)

/-- At 01:00 of that day the next working instant is 03:30, a quarter past the end. -/
theorem smallHours_swallowed :
    nextWorkingInstant (1772949600 * OffsetDateTime.nanosPerSecond) smallHours.workingHours =
        1772955000 * OffsetDateTime.nanosPerSecond ∧
      ¬ smallHours.Earliest (1772949600 * OffsetDateTime.nanosPerSecond)
        (nextWorkingInstant (1772949600 * OffsetDateTime.nanosPerSecond) smallHours.workingHours) := by
  refine ⟨by decide, ?_⟩
  rw [earliest_iff]
  unfold Reaches Opens
  decide

end ZonedHours

end LibraGovernor
