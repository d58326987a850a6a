/-
# LibraGovernor.Domain.Zone -- zones of the database, and the periods aligned to their clocks

A zone is its offset from UTC and the changes of it.  A wall-clock time is read as the `jiff` crate
documents it: with the offset before a change in a gap or a fold (`Compatible`), and an hour cut
to its top with the offset it has where that is valid.

The periods of an aligned window should follow each other without a gap (`PeriodsTile`).  They do
exactly when no change comes at the wrong place (`periodsTile_iff`): the clock set back over the
midnight of a day whose boundary it has passed leaves `now` behind the end of its period, a
boundary skipped and read past the next midnight leaves it before the start, and an hour is cut on
the clock but ends after 3600 seconds.
-/
import LibraGovernor.Domain.WindowRelief
import LibraGovernor.Lib.CivilTime
import Mathlib.Order.SuccPred.IntervalSucc

namespace LibraGovernor

open CivilTime

set_option autoImplicit false

/-! ## Starts in order -/

/-- Periods between consecutive starts tile. -/
theorem Tiles.of_starts {bounds : OffsetDateTime → OffsetDateTime × OffsetDateTime}
    {start : Int → OffsetDateTime} {index : OffsetDateTime → Int}
    (order : ∀ i, start i < start (i + 1))
    (same : ∀ t, bounds t = (start (index t), start (index t + 1)))
    (within : ∀ t, start (index t) ≤ t ∧ t < start (index t + 1)) : Tiles bounds := by
  have mono : StrictMono start := strictMono_int_of_lt_succ order
  intro t
  rw [same t]
  refine ⟨(within t).1, (within t).2, ?_⟩
  intro u past early
  have low : index t < index u + 1 := mono.lt_iff_lt.mp (lt_of_le_of_lt past (within u).2)
  have high : index u < index t + 1 := mono.lt_iff_lt.mp (lt_of_le_of_lt (within u).1 early)
  have here : index u = index t := by omega
  rw [same u, here]

/-! ## Zones -/

def nanosPerHour : Int := 3600 * OffsetDateTime.nanosPerSecond

def nanosPerDay : Int := 24 * nanosPerHour

theorem nanosPerHour_eq : nanosPerHour = 3600000000000 := rfl

theorem nanosPerDay_eq : nanosPerDay = 86400000000000 := rfl

theorem nanosPerDay_pos : 0 < nanosPerDay := by decide

/-- A zone: offsets are whole seconds, and they change at whole seconds, at least two days apart
and by less than a day. -/
structure Zone where
  initial : Int
  changes : List Change
  spaced : Spaced nanosPerDay initial changes
  initial_whole : initial % OffsetDateTime.nanosPerSecond = 0
  changes_whole : ∀ c ∈ changes, c.after % OffsetDateTime.nanosPerSecond = 0 ∧
    c.at_ % OffsetDateTime.nanosPerSecond = 0

/-- Past midnight. -/
def WallClockTime.nanos (at_ : WallClockTime) : Int :=
  (at_.hour * 60 + at_.minute) * 60 * OffsetDateTime.nanosPerSecond

theorem WallClockTime.nanos_bounds (at_ : WallClockTime) : 0 ≤ at_.nanos ∧ at_.nanos < nanosPerDay := by
  have hour := at_.hour_lt
  have minute := at_.minute_lt
  rw [nanosPerDay_eq]
  show 0 ≤ ((at_.hour : Int) * 60 + at_.minute) * 60 * 1000000000 ∧
    ((at_.hour : Int) * 60 + at_.minute) * 60 * 1000000000 < 86400000000000
  omega

def midnight (day : Int) : Int := day * nanosPerDay

namespace Zone

variable (z : Zone)

def offset (t : OffsetDateTime) : Int := offsetAt z.initial z.changes t

/-- What the zone's clock shows, in nanoseconds from 1970-01-01 00:00. -/
def wall (t : OffsetDateTime) : Int := t + z.offset t

def shifts : List Shift := CivilTime.shifts z.initial z.changes

/-- The instant of a reading of the clock. -/
def toZoned (reading : Int) : OffsetDateTime :=
  instantOf Ambiguity.compatible z.initial z.changes reading

/-- The instant of a reading put in place of what the clock shows at `t`. -/
def withBuild (t : OffsetDateTime) (reading : Int) : OffsetDateTime :=
  instantOf (Ambiguity.preferring (z.offset t)) z.initial z.changes reading

/-- The top of the hour the clock shows. -/
def topOfHour (t : OffsetDateTime) : Int := z.wall t / nanosPerHour * nanosPerHour

def timeZone : TimeZone where
  civilDay t := z.wall t / nanosPerDay
  hourStart t := z.withBuild t (z.topOfHour t)
  candidateInstant day at_ := z.toZoned (midnight day + at_.nanos)

/-! ## What the clock shows -/

variable {z}

theorem civilDay_iff {t : OffsetDateTime} {day : Int} :
    z.timeZone.civilDay t = day ↔ midnight day ≤ z.wall t ∧ z.wall t < midnight (day + 1) := by
  show z.wall t / nanosPerDay = day ↔ _
  rw [midnight, midnight, nanosPerDay_eq]
  omega

theorem civilDay_bounds (t : OffsetDateTime) :
    midnight (z.timeZone.civilDay t) ≤ z.wall t ∧ z.wall t < midnight (z.timeZone.civilDay t + 1) :=
  civilDay_iff.mp rfl

theorem toZoned_lt {reading later : Int} (apart : reading + nanosPerDay ≤ later) :
    z.toZoned reading < z.toZoned later :=
  compatible_lt z.spaced nanosPerDay_pos apart

theorem candidateInstant_lt {at_ : WallClockTime} {day later : Int} (lt : day < later) :
    z.timeZone.candidateInstant day at_ < z.timeZone.candidateInstant later at_ := by
  apply toZoned_lt
  simp only [midnight, nanosPerDay_eq]
  omega

end Zone

/-! ## Where a change comes at the wrong place -/

/-- The clock is set back from past a day's boundary to before its midnight. -/
def SetsBack (s : Shift) (day : Int) (at_ : WallClockTime) : Prop :=
  s.at_ + s.after < midnight day ∧ midnight day + at_.nanos < s.at_ + s.before

/-- The clock skips a day's boundary, which is then past the next midnight. -/
def SetsPast (s : Shift) (day : Int) (at_ : WallClockTime) : Prop :=
  s.at_ + s.before < midnight day + at_.nanos ∧ midnight day + at_.nanos < s.at_ + s.after ∧
    midnight (day + 1) < midnight day + at_.nanos + (s.after - s.before)

/-- The clock changes from a whole hour to a whole hour. -/
def OnTheHour (s : Shift) : Prop :=
  s.before ≠ s.after → (s.at_ + s.before) % nanosPerHour = 0 ∧ (s.at_ + s.after) % nanosPerHour = 0

/-! ## Days and weeks -/

section Days

variable {z : Zone} {at_ : WallClockTime}

namespace Zone

/-- A day's boundary is past and the clock shows less than its midnight: it was set back. -/
theorem setBack_of_past {t : OffsetDateTime} {day : Int} (shown : z.wall t < midnight day)
    (past : z.timeZone.candidateInstant day at_ ≤ t) : ∃ s ∈ z.shifts, SetsBack s day at_ := by
  have bounds := at_.nanos_bounds
  obtain ⟨s, mem, since, low, high⟩ :=
    folded z.spaced nanosPerDay_pos (show z.wall t < midnight day + at_.nanos by omega) past
  have here : z.offset t = s.after := by
    refine offsetAt_after z.spaced nanosPerDay_pos mem since ?_
    have facts := shift_lt_day z.spaced mem
    omega
  refine ⟨s, mem, ?_, high⟩
  show s.at_ + s.after < midnight day
  have : z.wall t = t + s.after := by rw [wall, here]
  omega

/-- A day's boundary is to come and the clock shows the next day, or more: it was set past it. -/
theorem setPast_of_future {t : OffsetDateTime} {day : Int} (shown : midnight (day + 1) ≤ z.wall t)
    (future : t < z.timeZone.candidateInstant day at_) :
    ∃ s ∈ z.shifts, SetsPast s day at_ ∧ z.wall t < midnight day + at_.nanos + nanosPerDay := by
  have bounds := at_.nanos_bounds
  have next : midnight (day + 1) = midnight day + nanosPerDay := by
    simp only [midnight, nanosPerDay_eq]
    omega
  obtain ⟨s, mem, since, early, high, here⟩ :=
    skipped z.spaced (show midnight day + at_.nanos ≤ z.wall t by omega) future
  have facts := shift_lt_day z.spaced mem
  have shows_ : z.wall t = t + s.after := by
    show t + offsetAt z.initial z.changes t = t + s.after
    rw [here]
  refine ⟨s, mem, ⟨?_, high, ?_⟩, ?_⟩
  · omega
  · omega
  · omega

end Zone

/-- The day whose boundary starts the period of `t`. -/
def dayStarting (tz : TimeZone) (at_ : WallClockTime) (t : OffsetDateTime) : Int :=
  if t < tz.candidateInstant (tz.civilDay t) at_ then tz.civilDay t - 1 else tz.civilDay t

theorem day_bounds (tz : TimeZone) (t : OffsetDateTime) :
    fixedAlignedBounds t (.day at_) tz =
      (tz.candidateInstant (dayStarting tz at_ t) at_,
        tz.candidateInstant (dayStarting tz at_ t + 1) at_) := rfl

theorem day_tiles (clear : ∀ day, ∀ s ∈ z.shifts, ¬ SetsBack s day at_ ∧ ¬ SetsPast s day at_) :
    Tiles fun t => fixedAlignedBounds t (.day at_) z.timeZone := by
  refine @Tiles.of_starts _ (fun day => z.timeZone.candidateInstant day at_)
    (dayStarting z.timeZone at_) (fun day => Zone.candidateInstant_lt (by omega))
    (day_bounds z.timeZone) ?_
  intro t
  obtain ⟨low, high⟩ := Zone.civilDay_bounds (z := z) t
  rw [dayStarting]
  split
  · rename_i early
    constructor
    · by_contra future
      obtain ⟨s, mem, past, -⟩ := Zone.setPast_of_future
        (by rwa [Int.sub_add_cancel]) (not_le.mp future)
      exact (clear _ s mem).2 past
    · rw [Int.sub_add_cancel]
      exact early
  · rename_i late
    refine ⟨not_lt.mp late, ?_⟩
    by_contra past
    obtain ⟨s, mem, back⟩ := Zone.setBack_of_past high (not_lt.mp past)
    exact (clear _ s mem).1 back

/-- Set back over its midnight, a day's boundary is past while the clock shows the day before. -/
theorem setsBack_shows {s : Shift} (mem : s ∈ z.shifts) {day : Int} (back : SetsBack s day at_) :
    z.timeZone.civilDay s.at_ = day - 1 ∧ z.timeZone.candidateInstant day at_ < s.at_ := by
  obtain ⟨low, high⟩ := back
  have bounds := at_.nanos_bounds
  have facts := shift_lt_day z.spaced mem
  have before : midnight day = midnight (day - 1) + nanosPerDay := by
    simp only [midnight, nanosPerDay_eq]
    omega
  have here : z.wall s.at_ = s.at_ + s.after := by
    have pos := nanosPerDay_pos
    rw [Zone.wall, Zone.offset, offsetAt_after z.spaced pos mem le_rfl (by omega)]
  constructor
  · rw [Zone.civilDay_iff, Int.sub_add_cancel, here]
    constructor
    · omega
    · exact low
  · have taken : z.timeZone.candidateInstant day at_ = midnight day + at_.nanos - s.before :=
      compatible_shift z.spaced mem (by omega) (by omega)
    rw [taken]
    show midnight day + at_.nanos - s.before < s.at_
    omega

theorem not_setsBack_of_day (tiles : Tiles fun t => fixedAlignedBounds t (.day at_) z.timeZone)
    {s : Shift} (mem : s ∈ z.shifts) (day : Int) : ¬ SetsBack s day at_ := by
  intro back
  obtain ⟨shows_, past⟩ := setsBack_shows mem back
  have early := (tiles s.at_).2.1
  dsimp only at early
  rw [day_bounds, dayStarting, shows_] at early
  have order : z.timeZone.candidateInstant (day - 1) at_ < z.timeZone.candidateInstant day at_ :=
    Zone.candidateInstant_lt (by omega)
  rw [if_neg (not_lt.mpr (le_of_lt (lt_trans order past))), Int.sub_add_cancel] at early
  exact lt_asymm early past

theorem not_setsPast_of_day (tiles : Tiles fun t => fixedAlignedBounds t (.day at_) z.timeZone)
    {s : Shift} (mem : s ∈ z.shifts) (day : Int) : ¬ SetsPast s day at_ := by
  rintro ⟨low, high, past⟩
  have bounds := at_.nanos_bounds
  have facts := shift_lt_day z.spaced mem
  have next : midnight (day + 1) = midnight day + nanosPerDay := by
    simp only [midnight, nanosPerDay_eq]
    omega
  have after_next : midnight (day + 1 + 1) = midnight day + 2 * nanosPerDay := by
    simp only [midnight, nanosPerDay_eq]
    omega
  have taken : z.timeZone.candidateInstant day at_ = midnight day + at_.nanos - s.before :=
    compatible_shift z.spaced mem (by omega) (by omega)
  -- The change itself, or the next midnight where the clock only comes to it after the change.
  let t : Int := max s.at_ (midnight (day + 1) - s.after)
  have since : s.at_ ≤ t := le_max_left _ _
  have here : z.wall t = t + s.after := by
    have pos := nanosPerDay_pos
    have near : t < s.at_ + 2 * nanosPerDay := by
      show max s.at_ (midnight (day + 1) - s.after) < _
      omega
    rw [Zone.wall, Zone.offset, offsetAt_after z.spaced pos mem since near]
  have early : t < midnight day + at_.nanos - s.before := by
    show max s.at_ (midnight (day + 1) - s.after) < _
    omega
  have shows_ : z.timeZone.civilDay t = day + 1 := by
    rw [Zone.civilDay_iff, here]
    constructor
    · show _ ≤ max s.at_ (midnight (day + 1) - s.after) + s.after
      omega
    · show max s.at_ (midnight (day + 1) - s.after) + s.after < _
      omega
  have order : z.timeZone.candidateInstant day at_ < z.timeZone.candidateInstant (day + 1) at_ :=
    Zone.candidateInstant_lt (by omega)
  have start := (tiles t).1
  dsimp only at start
  rw [taken] at order
  rw [day_bounds, dayStarting, shows_, if_pos (lt_trans early order), Int.add_sub_cancel,
    taken] at start
  exact absurd start (not_le.mpr early)

/-- The day whose boundary starts the week of `t`. -/
def weekStarting (tz : TimeZone) (startsOn : ResetWeekday) (at_ : WallClockTime)
    (t : OffsetDateTime) : Int :=
  if t < tz.candidateInstant (backTo startsOn (tz.civilDay t)) at_ then
    backTo startsOn (tz.civilDay t) - 7
  else backTo startsOn (tz.civilDay t)

variable {startsOn : ResetWeekday}

theorem week_bounds (tz : TimeZone) (t : OffsetDateTime) :
    fixedAlignedBounds t (.week startsOn at_) tz =
      (tz.candidateInstant (weekStarting tz startsOn at_ t) at_,
        tz.candidateInstant (weekStarting tz startsOn at_ t + 7) at_) := rfl

theorem ResetWeekday.index_lt (day : ResetWeekday) : day.index < 7 := by
  cases day <;> decide

theorem backTo_spec (target : ResetWeekday) (day : Int) :
    weekdayIndex (backTo target day) = target.index ∧ backTo target day ≤ day ∧
      day < backTo target day + 7 := by
  have lt := target.index_lt
  rw [backTo, weekdayIndex, weekdayIndex]
  omega

/-- The boundary of the week counted from the one of 1970-01-01. -/
def weekDay (startsOn : ResetWeekday) (week : Int) : Int := 7 * week + startsOn.index - 3

theorem exists_weekDay {day : Int} (weekday : weekdayIndex day = startsOn.index) :
    weekDay startsOn ((day + 3) / 7) = day := by
  rw [weekdayIndex] at weekday
  rw [weekDay]
  omega

theorem week_tiles (clear : ∀ day, weekdayIndex day = startsOn.index → ∀ s ∈ z.shifts,
    ¬ SetsBack s day at_) : Tiles fun t => fixedAlignedBounds t (.week startsOn at_) z.timeZone := by
  have starting : ∀ t, weekDay startsOn ((weekStarting z.timeZone startsOn at_ t + 3) / 7) =
      weekStarting z.timeZone startsOn at_ t := by
    intro t
    apply exists_weekDay
    have spec := (backTo_spec startsOn (z.timeZone.civilDay t)).1
    rw [weekStarting]
    rw [weekdayIndex] at spec ⊢
    split <;> omega
  have following : ∀ week, weekDay startsOn (week + 1) = weekDay startsOn week + 7 := by
    intro week
    rw [weekDay, weekDay]
    omega
  refine @Tiles.of_starts _
    (fun week => z.timeZone.candidateInstant (weekDay startsOn week) at_)
    (fun t => (weekStarting z.timeZone startsOn at_ t + 3) / 7) ?_ ?_ ?_
  · intro week
    exact Zone.candidateInstant_lt (by rw [following]; omega)
  · intro t
    rw [week_bounds, following, starting]
  · intro t
    obtain ⟨low, high⟩ := Zone.civilDay_bounds (z := z) t
    obtain ⟨weekday, since, until_⟩ := backTo_spec startsOn (z.timeZone.civilDay t)
    have bounds := at_.nanos_bounds
    rw [following, starting, weekStarting]
    split
    · rename_i early
      constructor
      · by_contra future
        obtain ⟨s, mem, -, shown⟩ := Zone.setPast_of_future (by
            refine le_trans ?_ low
            simp only [midnight, nanosPerDay_eq]
            omega) (not_le.mp future)
        simp only [midnight, nanosPerDay_eq] at low shown bounds
        omega
      · rw [Int.sub_add_cancel]
        exact early
    · rename_i late
      refine ⟨not_lt.mp late, ?_⟩
      by_contra past
      obtain ⟨s, mem, back⟩ := Zone.setBack_of_past
        (show z.wall t < midnight (backTo startsOn (z.timeZone.civilDay t) + 7) by
          refine lt_of_lt_of_le high ?_
          simp only [midnight, nanosPerDay_eq]
          omega) (not_lt.mp past)
      refine clear _ ?_ s mem back
      rw [weekdayIndex] at weekday ⊢
      omega

theorem not_setsBack_of_week
    (tiles : Tiles fun t => fixedAlignedBounds t (.week startsOn at_) z.timeZone)
    {s : Shift} (mem : s ∈ z.shifts) (day : Int) (weekday : weekdayIndex day = startsOn.index) :
    ¬ SetsBack s day at_ := by
  intro back
  obtain ⟨shows_, past⟩ := setsBack_shows mem back
  have week : backTo startsOn (day - 1) = day - 7 := by
    have lt := startsOn.index_lt
    rw [weekdayIndex] at weekday
    rw [backTo, weekdayIndex]
    omega
  have early := (tiles s.at_).2.1
  dsimp only at early
  rw [week_bounds, weekStarting, shows_, week] at early
  have order : z.timeZone.candidateInstant (day - 7) at_ < z.timeZone.candidateInstant day at_ :=
    Zone.candidateInstant_lt (by omega)
  rw [if_neg (not_lt.mpr (le_of_lt (lt_trans order past))), Int.sub_add_cancel] at early
  exact lt_asymm early past

end Days

/-! ## Hours -/

section Hours

variable {z : Zone}

/-- A reading of a whole second is taken for one. -/
theorem instantOf_whole {pick : Ambiguity → Int} (picks : Ambiguity.Picks pick) {before : Int}
    {changes : List Change} {reading : Int} (whole : reading % OffsetDateTime.nanosPerSecond = 0)
    (first : before % OffsetDateTime.nanosPerSecond = 0)
    (rest : ∀ c ∈ changes, c.after % OffsetDateTime.nanosPerSecond = 0) :
    instantOf pick before changes reading % OffsetDateTime.nanosPerSecond = 0 := by
  induction changes generalizing before with
  | nil =>
      show (reading - pick (.unambiguous before)) % _ = 0
      rw [picks.unambiguous, Int.sub_emod, whole, first]
      rfl
  | cons c later ih =>
      have after := rest c List.mem_cons_self
      rw [instantOf_cons]
      split
      · rw [picks.unambiguous, Int.sub_emod, whole, first]
        rfl
      split
      · split
        · rw [picks.gap, Int.sub_emod, whole, first]
          rfl
        · rcases picks.fold before c.after with same | same
          · rw [same, Int.sub_emod, whole, first]
            rfl
          · rw [same, Int.sub_emod, whole, after]
            rfl
      · exact ih after fun d mem => rest d (List.mem_cons_of_mem c mem)

/-- Within an hour of the clock the offset stays, if it only changes from hour to hour. -/
theorem offsetAt_hour {before : Int} {changes : List Change}
    (spaced : Spaced nanosPerDay before changes)
    (clear : ∀ s ∈ CivilTime.shifts before changes, OnTheHour s) {t u top : Int}
    (shown : t + offsetAt before changes t < top + nanosPerHour) (since : top ≤ t + offsetAt before changes t)
    (low : top ≤ u + offsetAt before changes t) (high : u + offsetAt before changes t < top + nanosPerHour)
    (whole : top % nanosPerHour = 0) : offsetAt before changes u = offsetAt before changes t := by
  induction changes generalizing before with
  | nil => rfl
  | cons c rest ih =>
      obtain ⟨⟨up, down⟩, next, spaced⟩ := spaced
      have here := clear _ List.mem_cons_self
      have later := fun s mem => clear s (List.mem_cons_of_mem _ mem)
      simp only [OnTheHour, nanosPerHour_eq, nanosPerDay_eq] at *
      have near : ∀ v, v < c.at_ + 172800000000000 → offsetAt c.after rest v = c.after :=
        fun v close => offsetAt_early fun d mem => by
          have := next d mem
          omega
      rw [offsetAt, offsetAt]
      rw [offsetAt] at shown since low high
      by_cases same : before = c.after
      · -- The change is none.
        subst same
        have first : (if t < c.at_ then c.after else offsetAt c.after rest t) =
            offsetAt c.after rest t := by
          split
          · exact (near t (by omega)).symm
          · rfl
        have second : (if u < c.at_ then c.after else offsetAt c.after rest u) =
            offsetAt c.after rest u := by
          split
          · exact (near u (by omega)).symm
          · rfl
        rw [first] at shown since low high ⊢
        rw [second]
        exact ih spaced later shown since low high
      · obtain ⟨on_before, on_after⟩ := here same
        split at shown
        · rename_i early
          rw [if_pos early] at since low high ⊢
          by_cases past : u < c.at_
          · rw [if_pos past]
          · omega
        · rename_i late
          rw [if_neg late] at since low high ⊢
          by_cases past : u < c.at_
          · have := near t (by omega)
            omega
          · rw [if_neg past]
            exact ih spaced later shown since low high

namespace Zone

theorem topOfHour_spec (t : OffsetDateTime) : z.topOfHour t ≤ z.wall t ∧
    z.wall t < z.topOfHour t + nanosPerHour ∧ z.topOfHour t % nanosPerHour = 0 := by
  rw [topOfHour, nanosPerHour_eq]
  omega

theorem topOfHour_eq {t : OffsetDateTime} {top : Int} (low : top ≤ z.wall t)
    (high : z.wall t < top + nanosPerHour) (whole : top % nanosPerHour = 0) : z.topOfHour t = top := by
  rw [nanosPerHour_eq] at high whole
  rw [topOfHour, nanosPerHour_eq]
  omega

theorem hour_bounds (t : OffsetDateTime) : fixedAlignedBounds t .hour z.timeZone =
    (z.timeZone.hourStart t, z.timeZone.hourStart t + nanosPerHour) := by
  have whole : z.timeZone.hourStart t % OffsetDateTime.nanosPerSecond = 0 := by
    refine instantOf_whole (Ambiguity.preferring_picks _) ?_ z.initial_whole
      fun c mem => (z.changes_whole c mem).1
    have top := (topOfHour_spec (z := z) t).2.2
    rw [nanosPerHour_eq] at top
    show z.topOfHour t % 1000000000 = 0
    omega
  have cut : ∀ n : Int, n % 1000000000 = 0 → (n / 1000000000 + 3600) * 1000000000 = n + 3600000000000 := by
    omega
  show (_, _) = (_, _)
  congr 1
  exact cut _ whole

/-- Where the clock had the same offset at the top of the hour, the hour starts there. -/
theorem hourStart_eq {t : OffsetDateTime} {top offset : Int} (here : z.offset t = offset)
    (shown : z.topOfHour t = top) (same : z.offset (top - offset) = offset) :
    z.timeZone.hourStart t = top - offset := by
  have taken := preferring_wall z.spaced (top - offset)
  show instantOf (Ambiguity.preferring (z.offset t)) z.initial z.changes (z.topOfHour t) = _
  rw [here, shown]
  change instantOf (Ambiguity.preferring (z.offset (top - offset))) z.initial z.changes
    (top - offset + z.offset (top - offset)) = _ at taken
  rw [same, Int.sub_add_cancel] at taken
  exact taken

end Zone

theorem hour_tiles (clear : ∀ s ∈ z.shifts, OnTheHour s) :
    Tiles fun t => fixedAlignedBounds t .hour z.timeZone := by
  have stays : ∀ t u : Int, z.topOfHour t ≤ u + z.offset t →
      u + z.offset t < z.topOfHour t + nanosPerHour → z.offset u = z.offset t := by
    intro t u low high
    obtain ⟨since, until_, whole⟩ := Zone.topOfHour_spec (z := z) t
    exact offsetAt_hour z.spaced clear until_ since low high whole
  have start : ∀ t, z.timeZone.hourStart t = z.topOfHour t - z.offset t := by
    intro t
    refine Zone.hourStart_eq rfl rfl (stays t _ ?_ ?_)
    · omega
    · rw [nanosPerHour_eq]
      omega
  intro (t : Int)
  obtain ⟨since, until_, whole⟩ := Zone.topOfHour_spec (z := z) t
  have shown : z.wall t = t + z.offset t := rfl
  simp only [Zone.hour_bounds, start]
  refine ⟨?_, ?_, ?_⟩
  · show z.topOfHour t - z.offset t ≤ t
    omega
  · show t < z.topOfHour t - z.offset t + nanosPerHour
    omega
  · intro (u : Int) low high
    have from_ : z.topOfHour t - z.offset t ≤ u := low
    have before_end : u < z.topOfHour t - z.offset t + nanosPerHour := high
    have same := stays t u (by omega) (by omega)
    have shown_u : z.wall u = u + z.offset u := rfl
    have top : z.topOfHour u = z.topOfHour t :=
      Zone.topOfHour_eq (by omega) (by omega) whole
    rw [top, same]

/-- Periods of one length that tile start a whole number of lengths apart. -/
theorem Tiles.steps {start : Int → Int} {length : Int}
    (tiles : Tiles fun t => (start t, start t + length)) (t : Int) (n : Nat) {u : Int}
    (since : start t + n * length ≤ u) (until_ : u < start t + (n + 1) * length) :
    start u = start t + n * length := by
  have same : ∀ v w : Int, start v ≤ w → w < start v + length → start w = start v :=
    fun v w low high => (Prod.mk.inj ((tiles v).2.2 w low high)).1
  induction n generalizing u with
  | zero =>
      rw [same t u (by simpa using since) (by simpa using until_)]
      simp
  | succ n ih =>
      push_cast at since until_ ⊢
      rw [Int.add_mul, Int.add_mul, Int.one_mul] at until_
      rw [Int.add_mul, Int.one_mul] at since ⊢
      -- The next period starts where the `n`-th ends.
      have last := ih (u := start t + n * length) le_rfl (by rw [Int.add_mul, Int.one_mul]; omega)
      have next : start (start (start t + n * length) + length) =
          start (start t + n * length) + length := tiles.next (start t + n * length)
      rw [last] at next
      have reached : start u = start (start t + n * length + length) := by
        apply same
        · rw [next]
          omega
        · rw [next]
          omega
      rw [reached, next, Int.add_assoc]

theorem onTheHour_of_hour (tiles : Tiles fun t => fixedAlignedBounds t .hour z.timeZone)
    {s : Shift} (mem : s ∈ z.shifts) : OnTheHour s := by
  intro different
  rw [nanosPerHour_eq]
  have day := nanosPerDay_eq
  have pos := nanosPerDay_pos
  have after : ∀ t : Int, s.at_ ≤ t → t < s.at_ + 2 * nanosPerDay → z.offset t = s.after :=
    fun t low high => offsetAt_after z.spaced pos mem low high
  have before : ∀ t : Int, s.at_ ≤ t + 2 * nanosPerDay → t < s.at_ → z.offset t = s.before :=
    fun t low high => offsetAt_before z.spaced mem low high
  have steps := @Tiles.steps (fun t => z.timeZone.hourStart t) 3600000000000
    (by simpa only [Zone.hour_bounds, nanosPerHour_eq] using tiles)
  -- An hour before the change starts with the one offset, an hour after it with the other.
  let first : Int := s.at_ - 1
  let later : Int := s.at_ + 3600000000000
  have first_offset : z.offset first = s.before := before _ (by omega) (by omega)
  have later_offset : z.offset later = s.after := after _ (by omega) (by omega)
  obtain ⟨low, high, whole⟩ := Zone.topOfHour_spec (z := z) first
  obtain ⟨low', high', whole'⟩ := Zone.topOfHour_spec (z := z) later
  rw [nanosPerHour_eq] at high whole high' whole'
  have shown : z.wall first = s.at_ - 1 + s.before := by
    rw [Zone.wall, first_offset]
  have shown' : z.wall later = s.at_ + 3600000000000 + s.after := by
    rw [Zone.wall, later_offset]
  have start : z.timeZone.hourStart first = z.topOfHour first - s.before :=
    Zone.hourStart_eq first_offset rfl (before _ (by omega) (by omega))
  have start' : z.timeZone.hourStart later = z.topOfHour later - s.after :=
    Zone.hourStart_eq later_offset rfl (after _ (by omega) (by omega))
  have apart := steps first
    ((later - z.timeZone.hourStart first) / 3600000000000).toNat (u := later)
    (by rw [start]; omega) (by rw [start]; omega)
  rw [start, start'] at apart
  suffices ends : (s.at_ + s.before) % 3600000000000 = 0 by
    refine ⟨ends, ?_⟩
    omega
  by_contra inside
  -- The hour before the change is not over at it.
  have still := steps first 0 (u := s.at_) (by rw [start]; omega)
    (by rw [start]; omega)
  rw [start] at still
  have at_offset : z.offset s.at_ = s.after := after _ le_rfl (by omega)
  have top : z.topOfHour s.at_ = z.topOfHour first - s.before + s.after := by
    have shows_ : z.wall s.at_ = s.at_ + s.after := by rw [Zone.wall, at_offset]
    apply Zone.topOfHour_eq
    · omega
    · rw [nanosPerHour_eq]
      omega
    · rw [nanosPerHour_eq]
      omega
  have taken : instantOf (Ambiguity.preferring s.after) z.initial z.changes
      (z.topOfHour first - s.before + s.after) = z.topOfHour first - s.before := by
    have read : z.timeZone.hourStart s.at_ = instantOf (Ambiguity.preferring (z.offset s.at_))
      z.initial z.changes (z.topOfHour s.at_) := rfl
    rw [at_offset, top] at read
    rw [← read, still]
    simp
  have old : z.offset (z.topOfHour first - s.before) = s.before := before _ (by omega) (by omega)
  rcases instantOf_shows z.spaced pos (Ambiguity.preferring_picks s.after)
    (z.topOfHour first - s.before + s.after) with shows_ | ⟨s', mem', same, low', high'⟩
  · rw [taken] at shows_
    have new : z.topOfHour first - s.before + z.offset (z.topOfHour first - s.before) =
      z.topOfHour first - s.before + s.after := shows_
    omega
  · rw [taken] at same
    have facts := shift_lt_day z.spaced mem'
    have earlier := shift_apart z.spaced mem' mem (by omega)
    omega

end Hours

/-! ## Aligned periods -/

/-- The periods follow each other, each starts where the one before ends, every instant is in one
of them, and what is used now counts in the one evaluated now. -/
structure PeriodsTile (period : AlignedPeriod) (tz : TimeZone) : Prop where
  tiles : Tiles fun t => fixedAlignedBounds t period tz
  next : ∀ t, (fixedAlignedBounds (fixedAlignedBounds t period tz).2 period tz).1 =
    (fixedAlignedBounds t period tz).2
  once : ∀ u, ∃! bounds, (∃ t, fixedAlignedBounds t period tz = bounds) ∧ bounds.1 ≤ u ∧ u < bounds.2
  current : ∀ limit now, (WindowKind.fixedAligned period tz limit).inRange now now = true

theorem Tiles.periods {period : AlignedPeriod} {tz : TimeZone}
    (tiles : Tiles fun t => fixedAlignedBounds t period tz) : PeriodsTile period tz where
  tiles := tiles
  next := tiles.next
  once u := by
    obtain ⟨since, until_, -⟩ := tiles u
    refine ⟨fixedAlignedBounds u period tz, ⟨⟨u, rfl⟩, since, until_⟩, ?_⟩
    rintro bounds ⟨⟨t, rfl⟩, low, high⟩
    exact ((tiles t).2.2 u low high).symm
  current limit now := by
    obtain ⟨since, until_, -⟩ := tiles now
    rw [WindowKind.inRange]
    simp only [le_refl, decide_true, Bool.true_and]
    exact decide_eq_true ⟨since, until_⟩

/-- No change of the zone comes at the wrong place for the period. -/
def Zone.Clear (z : Zone) : AlignedPeriod → Prop
  | .hour => ∀ s ∈ z.shifts, OnTheHour s
  | .day at_ => ∀ s ∈ z.shifts, ∀ day, ¬ SetsBack s day at_ ∧ ¬ SetsPast s day at_
  | .week startsOn at_ => ∀ s ∈ z.shifts, ∀ day, weekdayIndex day = startsOn.index →
      ¬ SetsBack s day at_

/-- The periods of a zone tile exactly when none of its changes comes at the wrong place. -/
theorem periodsTile_iff (z : Zone) (period : AlignedPeriod) :
    PeriodsTile period z.timeZone ↔ z.Clear period := by
  cases period with
  | hour =>
      constructor
      · intro periods s mem
        exact onTheHour_of_hour periods.tiles mem
      · intro clear
        exact (hour_tiles clear).periods
  | day at_ =>
      constructor
      · intro periods s mem day
        exact ⟨not_setsBack_of_day periods.tiles mem day, not_setsPast_of_day periods.tiles mem day⟩
      · intro clear
        exact (day_tiles fun day s mem => clear s mem day).periods
  | week startsOn at_ =>
      constructor
      · intro periods s mem day weekday
        exact not_setsBack_of_week periods.tiles mem day weekday
      · intro clear
        exact (week_tiles fun day weekday s mem => clear s mem day weekday).periods

/-- The offset goes from two hours behind to one at 2025-03-30T01:00Z, when the clock shows
23:00. -/
def skippedLateHour : Zone where
  initial := -7200 * OffsetDateTime.nanosPerSecond
  changes := [⟨1743296400 * OffsetDateTime.nanosPerSecond, -3600 * OffsetDateTime.nanosPerSecond⟩]
  spaced := by decide
  initial_whole := by decide
  changes_whole := by decide

/-- At the change, the day that resets at 23:30 starts half an hour later. -/
theorem late_reset_starts_later :
    ¬ PeriodsTile (.day ⟨23, 30, by decide, by decide⟩) skippedLateHour.timeZone := by
  intro periods
  have start := (periods.tiles (1743296400 * OffsetDateTime.nanosPerSecond)).1
  revert start
  decide

end LibraGovernor
