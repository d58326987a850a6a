/-
# LibraGovernor.Domain.Month -- budget months in a zone, and the pools they name

A budget month runs from its first day's midnight, read like any other wall-clock time, to the next
month's.  The instants should be cut into months that follow each other, each with the pool of the
month it begins (`MonthlyPeriods`), and the pool ids, compared as text, should come in the order of
the months.

All of it holds exactly when the zone is never set back over the midnight that begins a month
(`monthlyPeriods_iff`): a skipped midnight is read later, still on the first day, and the instants
before it count to the month before; but after a clock that passed midnight and was set back before
it, the month the clock shows is over.
-/
import LibraGovernor.Domain.Period
import LibraGovernor.Domain.Zone
import LibraGovernor.Lib.Decimal
import Mathlib.Data.Int.ConditionallyCompleteOrder

namespace LibraGovernor

open CivilTime

set_option autoImplicit false

/-! ## Months and days -/

namespace IanaTimeZone

/-- The days of years that start in March. -/
def daysToYear (year : Int) : Int := 365 * year + year / 4 - year / 100 + year / 400

theorem daysToYear_next (year : Int) : daysToYear year + 365 ≤ daysToYear (year + 1) ∧
    daysToYear (year + 1) ≤ daysToYear year + 366 := by
  -- Centuries are counted in leap years, and their fourths in centuries.
  have centuries : ∀ y : Int, y / 100 = y / 4 / 25 := by omega
  have fourths : ∀ y : Int, y / 400 = y / 4 / 25 / 4 := by omega
  rw [daysToYear, daysToYear, centuries, centuries, fourths, fourths]
  have next : (year + 1) / 4 = year / 4 ∨ (year + 1) / 4 = year / 4 + 1 := by omega
  rcases next with same | leap
  · rw [same]
    omega
  · rw [leap]
    generalize year / 4 = leaps
    have next : (leaps + 1) / 25 = leaps / 25 ∨ (leaps + 1) / 25 = leaps / 25 + 1 := by omega
    rcases next with same | century
    · rw [same]
      omega
    · rw [century]
      omega

theorem daysToMonth_eq (m : CivilMonth) : daysToMonth m =
    daysToYear ((m.index - 2) / 12) + (153 * ((m.index - 2) % 12) + 2) / 5 - 719468 := rfl

/-- A month has 28 to 31 days. -/
theorem daysToMonth_next (m : CivilMonth) :
    daysToMonth m + 28 ≤ daysToMonth m.next ∧ daysToMonth m.next ≤ daysToMonth m + 31 := by
  rw [daysToMonth_eq, daysToMonth_eq, CivilMonth.next]
  dsimp only
  have years := daysToYear_next ((m.index - 2) / 12)
  have next : (m.index + 1 - 2) / 12 = (m.index - 2) / 12 ∧
        (m.index + 1 - 2) % 12 = (m.index - 2) % 12 + 1 ∨
      (m.index + 1 - 2) / 12 = (m.index - 2) / 12 + 1 ∧ (m.index + 1 - 2) % 12 = 0 ∧
        (m.index - 2) % 12 = 11 := by omega
  rcases next with ⟨same, later⟩ | ⟨following, first, last⟩
  · rw [same, later]
    omega
  · rw [following, first, last]
    omega

/-- A month's first day is less than five days from where months of mean length put it. -/
theorem daysToMonth_near (m : CivilMonth) :
    146097 * m.index - 5 * 4800 < (daysToMonth m + 719528) * 4800 ∧
      (daysToMonth m + 719528) * 4800 < 146097 * m.index + 5 * 4800 := by
  simp only [daysToMonth]
  omega

theorem monthOfDay_spec (day : Int) :
    daysToMonth (monthOfDay day) ≤ day ∧ day < daysToMonth (monthOfDay day).next := by
  let guess : CivilMonth := ⟨(day + 719528) * 4800 / 146097⟩
  have step_back : guess.previous.next = guess := by
    simp only [CivilMonth.previous, CivilMonth.next, Int.sub_add_cancel]
  have low := daysToMonth_near guess.previous
  have high := daysToMonth_near guess.next.next
  show daysToMonth (if day < daysToMonth guess then guess.previous
    else if daysToMonth guess.next ≤ day then guess.next else guess) ≤ day ∧
    day < daysToMonth (if day < daysToMonth guess then guess.previous
    else if daysToMonth guess.next ≤ day then guess.next else guess).next
  simp only [CivilMonth.previous, CivilMonth.next, guess] at low high
  split
  · rename_i early
    constructor
    · show daysToMonth ⟨(day + 719528) * 4800 / 146097 - 1⟩ ≤ day
      omega
    · rw [step_back]
      exact early
  split
  · rename_i late
    refine ⟨late, ?_⟩
    show day < daysToMonth ⟨(day + 719528) * 4800 / 146097 + 1 + 1⟩
    omega
  · rename_i here early
    exact ⟨not_lt.mp here, not_le.mp early⟩

theorem daysToMonth_mono : StrictMono fun i : Int => daysToMonth ⟨i⟩ :=
  strictMono_int_of_lt_succ fun i => by
    have next := (daysToMonth_next ⟨i⟩).1
    simp only [CivilMonth.next] at next
    omega

/-- The month of a day is the one the day lies in. -/
theorem monthOfDay_eq {day : Int} {m : CivilMonth} (low : daysToMonth m ≤ day)
    (high : day < daysToMonth m.next) : monthOfDay day = m := by
  obtain ⟨since, until_⟩ := monthOfDay_spec day
  have before : (monthOfDay day).index < m.index + 1 :=
    daysToMonth_mono.lt_iff_lt.mp (lt_of_le_of_lt since high)
  have after : m.index < (monthOfDay day).index + 1 :=
    daysToMonth_mono.lt_iff_lt.mp (lt_of_le_of_lt low until_)
  cases m with
  | mk index =>
  cases here : monthOfDay day with
  | mk index' =>
  rw [here] at before after
  dsimp only at before after
  congr 1
  omega

end IanaTimeZone

open IanaTimeZone

/-! ## Months of a zone -/

def midnightTime : WallClockTime := ⟨0, 0, by decide, by decide⟩

theorem midnightTime_nanos : midnightTime.nanos = 0 := by decide

def Zone.iana (z : Zone) : IanaTimeZone where
  localMonth t := monthOfDay (z.timeZone.civilDay t)
  firstMidnight m := z.timeZone.candidateInstant (daysToMonth m) midnightTime

/-- The month whose first midnight starts the period of `t`. -/
def monthStarting (tz : IanaTimeZone) (t : OffsetDateTime) : CivilMonth :=
  if t < tz.firstMidnight (tz.localMonth t) then (tz.localMonth t).previous else tz.localMonth t

theorem month_bounds (tz : IanaTimeZone) (t : OffsetDateTime) : calendarMonthBounds t tz =
    (tz.firstMidnight (monthStarting tz t), tz.firstMidnight (monthStarting tz t).next) := rfl

section Months

variable {z : Zone}

theorem midnight_le {day later : Int} (le : day ≤ later) : midnight day ≤ midnight later := by
  simp only [midnight, nanosPerDay_eq]
  omega

theorem localMonth_bounds (t : OffsetDateTime) :
    midnight (daysToMonth (z.iana.localMonth t)) ≤ z.wall t ∧
      z.wall t < midnight (daysToMonth (z.iana.localMonth t).next) := by
  obtain ⟨low, high⟩ := Zone.civilDay_bounds (z := z) t
  obtain ⟨since, until_⟩ := monthOfDay_spec (z.timeZone.civilDay t)
  exact ⟨le_trans (midnight_le since) low, lt_of_lt_of_le high (midnight_le until_)⟩

theorem firstMidnight_lt {m m' : CivilMonth} (lt : m.index < m'.index) :
    z.iana.firstMidnight m < z.iana.firstMidnight m' :=
  Zone.candidateInstant_lt (daysToMonth_mono lt)

theorem firstMidnight_lt_iff {m m' : CivilMonth} :
    z.iana.firstMidnight m < z.iana.firstMidnight m' ↔ m.index < m'.index := by
  constructor
  · intro lt
    by_contra le
    rcases lt_or_eq_of_le (not_lt.mp le) with less | same
    · exact lt_asymm lt (firstMidnight_lt less)
    · have : m' = m := by
        cases m
        cases m'
        exact congrArg CivilMonth.mk same
      rw [this] at lt
      exact lt_irrefl _ lt
  · exact firstMidnight_lt

theorem firstMidnight_inj {m m' : CivilMonth}
    (same : z.iana.firstMidnight m = z.iana.firstMidnight m') : m = m' := by
  have low : ¬ m.index < m'.index := fun lt => (firstMidnight_lt (z := z) lt).ne same
  have high : ¬ m'.index < m.index := fun lt => (firstMidnight_lt (z := z) lt).ne same.symm
  cases m
  cases m'
  exact congrArg CivilMonth.mk (le_antisymm (not_lt.mp high) (not_lt.mp low))

/-- At the instant read for a month's first midnight the clock shows its first day. -/
theorem localMonth_firstMidnight (m : CivilMonth) :
    z.iana.localMonth (z.iana.firstMidnight m) = m := by
  have pos := nanosPerDay_pos
  have day : midnight (daysToMonth m) + nanosPerDay ≤ midnight (daysToMonth m + 1) := by
    simp only [midnight, nanosPerDay_eq]
    omega
  suffices shown : z.timeZone.civilDay (z.iana.firstMidnight m) = daysToMonth m by
    show monthOfDay (z.timeZone.civilDay (z.iana.firstMidnight m)) = m
    rw [shown]
    have next := (daysToMonth_next m).1
    exact monthOfDay_eq le_rfl (by omega)
  rw [Zone.civilDay_iff]
  have read : z.iana.firstMidnight m = z.toZoned (midnight (daysToMonth m)) := by
    show z.toZoned (midnight (daysToMonth m) + midnightTime.nanos) = _
    rw [midnightTime_nanos, Int.add_zero]
  rw [read]
  rcases instantOf_shows z.spaced pos Ambiguity.compatible_picks (midnight (daysToMonth m)) with
    shows_ | ⟨s, mem, taken, low, high⟩
  · have same : z.wall (z.toZoned (midnight (daysToMonth m))) = midnight (daysToMonth m) := shows_
    rw [same]
    omega
  · -- The midnight is skipped, and the instant is past the change.
    have facts := shift_lt_day z.spaced mem
    have moved : z.toZoned (midnight (daysToMonth m)) = midnight (daysToMonth m) - s.before := taken
    have here : z.offset (midnight (daysToMonth m) - s.before) = s.after :=
      offsetAt_after z.spaced pos mem (by omega) (by omega)
    rw [moved, Zone.wall, here]
    omega

/-- The zone is never set back over the midnight that begins a month. -/
def Zone.MonthsClear (z : Zone) : Prop :=
  ∀ s ∈ z.shifts, ∀ m, ¬ SetsBack s (daysToMonth m) midnightTime

theorem month_tiles (clear : z.MonthsClear) : Tiles fun t => calendarMonthBounds t z.iana := by
  refine @Tiles.of_starts _ (fun i => z.iana.firstMidnight ⟨i⟩)
    (fun t => (monthStarting z.iana t).index) (fun i => firstMidnight_lt (by simp))
    (month_bounds z.iana) ?_
  intro t
  obtain ⟨low, high⟩ := localMonth_bounds (z := z) t
  show z.iana.firstMidnight (monthStarting z.iana t) ≤ t ∧
    t < z.iana.firstMidnight (monthStarting z.iana t).next
  rw [monthStarting]
  split
  · rename_i early
    have back : (z.iana.localMonth t).previous.next = z.iana.localMonth t := by
      simp only [CivilMonth.previous, CivilMonth.next, Int.sub_add_cancel]
    refine ⟨?_, by rw [back]; exact early⟩
    by_contra future
    have days := (daysToMonth_next (z.iana.localMonth t).previous).1
    rw [back] at days
    obtain ⟨s, mem, -, shown⟩ := Zone.setPast_of_future
      (le_trans (midnight_le (by omega)) low) (not_le.mp future)
    rw [midnightTime_nanos] at shown
    simp only [midnight, nanosPerDay_eq] at low shown
    omega
  · rename_i late
    refine ⟨not_lt.mp late, ?_⟩
    by_contra past
    obtain ⟨s, mem, back⟩ := Zone.setBack_of_past high (not_lt.mp past)
    exact clear s mem _ back

theorem monthsClear_of_tiles (tiles : Tiles fun t => calendarMonthBounds t z.iana) :
    z.MonthsClear := by
  intro s mem m back
  obtain ⟨shows_, past⟩ := setsBack_shows mem back
  have before : m.previous.next = m := by
    simp only [CivilMonth.previous, CivilMonth.next, Int.sub_add_cancel]
  have days := (daysToMonth_next m.previous).1
  rw [before] at days
  have month : z.iana.localMonth s.at_ = m.previous := by
    show monthOfDay (z.timeZone.civilDay s.at_) = _
    rw [shows_]
    exact monthOfDay_eq (by omega) (by rw [before]; omega)
  have order : z.iana.firstMidnight m.previous < z.iana.firstMidnight m :=
    firstMidnight_lt (by simp [CivilMonth.previous])
  have beyond : z.iana.firstMidnight m < s.at_ := past
  have early := (tiles s.at_).2.1
  dsimp only at early
  rw [month_bounds, monthStarting, month, if_neg (not_lt.mpr (le_of_lt (lt_trans order beyond))),
    before] at early
  exact lt_asymm early beyond

end Months

/-! ## Names -/

section Names

theorem toList_pushn (s : String) (c : Char) (n : Nat) :
    (s.pushn c n).toList = s.toList ++ List.replicate n c := by
  induction n with
  | zero => simp [String.pushn_eq_repeat_push, Nat.repeat]
  | succ n ih =>
      rw [String.pushn_eq_repeat_push] at ih ⊢
      rw [Nat.repeat, String.toList_push, ih, List.append_assoc, ← List.replicate_succ']

theorem padded_toList (width n : Nat) : (padded width n).toList =
    List.replicate (width - (Nat.toDigits 10 n).length) '0' ++ Nat.toDigits 10 n := by
  rw [padded, String.toList_append, toList_pushn, Nat.toList_repr]
  have length : (Nat.repr n).length = (Nat.toDigits 10 n).length := by
    rw [← Nat.toList_repr, String.length_toList]
  rw [length]
  rfl

theorem padded_digit {width n : Nat} {c : Char} (mem : c ∈ (padded width n).toList) :
    c.isDigit = true := by
  rw [padded_toList] at mem
  rcases List.mem_append.mp mem with zero | digit
  · rw [List.eq_of_mem_replicate zero]
    decide
  · exact Nat.isDigit_of_mem_toDigits (by decide) (by decide) digit

theorem padded_value (width n : Nat) : Decimal.value (padded width n).toList = n := by
  rw [padded_toList, Decimal.value_zeros, Decimal.value_toDigits]

theorem padded_length {width n : Nat} (pos : 0 < width) (lt : n < 10 ^ width) :
    (padded width n).toList.length = width := by
  have le := (Nat.length_toDigits_le_iff (by decide) pos).mpr lt
  rw [padded_toList, List.length_append, List.length_replicate]
  omega

theorem paddedInt_nonneg {width : Nat} {n : Int} (nonneg : 0 ≤ n) :
    paddedInt width n = padded width n.toNat := by
  rw [paddedInt, if_pos nonneg]

theorem minus_not_padded {width n : Nat} {tail : List Char} : (padded width n).toList ≠ '-' :: tail := by
  intro same
  have digit : ('-').isDigit = true := padded_digit (show '-' ∈ (padded width n).toList by
    rw [same]
    exact List.mem_cons_self)
  revert digit
  decide

theorem paddedInt_inj {width : Nat} {n m : Int}
    (same : (paddedInt width n).toList = (paddedInt width m).toList) : n = m := by
  rw [paddedInt, paddedInt] at same
  by_cases n_nonneg : 0 ≤ n
  · by_cases m_nonneg : 0 ≤ m
    · rw [if_pos n_nonneg, if_pos m_nonneg] at same
      have values := congrArg Decimal.value same
      rw [padded_value, padded_value] at values
      omega
    · rw [if_pos n_nonneg, if_neg m_nonneg, String.toList_append] at same
      exact absurd same minus_not_padded
  · by_cases m_nonneg : 0 ≤ m
    · rw [if_neg n_nonneg, if_pos m_nonneg, String.toList_append] at same
      exact absurd same.symm minus_not_padded
    · rw [if_neg n_nonneg, if_neg m_nonneg, String.toList_append, String.toList_append] at same
      have values := congrArg Decimal.value (List.append_cancel_left same)
      rw [padded_value, padded_value] at values
      omega

/-- The name of a month's pool. -/
def monthLabel (m : CivilMonth) : String :=
  "monthly-" ++ paddedInt 4 m.year ++ "-" ++ paddedInt 2 m.month

theorem monthLabel_toList (m : CivilMonth) : (monthLabel m).toList =
    "monthly-".toList ++ ((paddedInt 4 m.year).toList ++ ('-' :: (padded 2 m.month).toList)) := by
  have dash : "-".toList = ['-'] := by decide
  rw [monthLabel, String.toList_append, String.toList_append, String.toList_append, dash,
    paddedInt_nonneg (Int.natCast_nonneg _), Int.toNat_natCast, List.append_assoc, List.append_assoc]
  rfl

theorem month_le (m : CivilMonth) : 1 ≤ m.month ∧ m.month ≤ 12 := by
  rw [CivilMonth.month]
  omega

theorem month_length (m : CivilMonth) : (padded 2 m.month).toList.length = 2 :=
  padded_length (by decide) (by have := month_le m; omega)

theorem index_eq (m : CivilMonth) : m.index = m.year * 12 + m.month - 1 := by
  rw [CivilMonth.year, CivilMonth.month]
  omega

theorem monthLabel_inj {m m' : CivilMonth} (same : monthLabel m = monthLabel m') : m = m' := by
  have lists := congrArg String.toList same
  rw [monthLabel_toList, monthLabel_toList] at lists
  obtain ⟨years, months⟩ := List.append_inj' (List.append_cancel_left lists)
    (by rw [List.length_cons, List.length_cons, month_length, month_length])
  have year := paddedInt_inj years
  have month := congrArg Decimal.value (List.cons.inj months).2
  rw [padded_value, padded_value] at month
  have left := index_eq m
  have right := index_eq m'
  rw [year, month, ← right] at left
  cases m
  cases m'
  exact congrArg CivilMonth.mk left

/-- The years a name writes with four digits. -/
def FourDigits (m : CivilMonth) : Prop := 1 ≤ m.year ∧ m.year ≤ 9999

theorem year_toList {m : CivilMonth} (four : FourDigits m) :
    (paddedInt 4 m.year).toList = (padded 4 m.year.toNat).toList ∧
      (padded 4 m.year.toNat).toList.length = 4 := by
  obtain ⟨low, high⟩ := four
  exact ⟨by rw [paddedInt_nonneg (by omega)], padded_length (by decide) (by omega)⟩

/-- Names compare as text the way their months do. -/
theorem monthLabel_lt_iff {m m' : CivilMonth} (four : FourDigits m) (four' : FourDigits m') :
    (monthLabel m).toList < (monthLabel m').toList ↔ m.index < m'.index := by
  obtain ⟨year, length⟩ := year_toList four
  obtain ⟨year', length'⟩ := year_toList four'
  have years : (padded 4 m.year.toNat).toList = (padded 4 m'.year.toNat).toList ↔
      m.year.toNat = m'.year.toNat := by
    constructor
    · intro same
      have values := congrArg Decimal.value same
      rwa [padded_value, padded_value] at values
    · intro same
      rw [same]
  rw [monthLabel_toList, monthLabel_toList, Decimal.append_left_lt_iff, year, year',
    Decimal.append_lt_iff (length.trans length'.symm),
    Decimal.lt_iff_value_lt (fun _ => padded_digit) (fun _ => padded_digit) (length.trans length'.symm),
    padded_value, padded_value, years, List.cons_lt_cons_iff,
    Decimal.lt_iff_value_lt (fun _ => padded_digit) (fun _ => padded_digit)
      ((month_length m).trans (month_length m').symm), padded_value, padded_value]
  have left := index_eq m
  have right := index_eq m'
  have months := month_le m
  have months' := month_le m'
  obtain ⟨low, high⟩ := four
  obtain ⟨low', high'⟩ := four'
  constructor
  · rintro (earlier | ⟨same, (dash | ⟨-, earlier⟩)⟩)
    · omega
    · exact absurd dash (by decide)
    · omega
  · intro earlier
    by_cases same : m.year.toNat = m'.year.toNat
    · exact .inr ⟨same, .inr ⟨rfl, by omega⟩⟩
    · exact .inl (by omega)

theorem size_ofList {cs : List Char} (ascii : ∀ c ∈ cs, c.utf8Size = 1) :
    (String.ofList cs).utf8ByteSize = cs.length := by
  induction cs with
  | nil => rfl
  | cons c cs ih =>
      have split : String.ofList (c :: cs) = String.singleton c ++ String.ofList cs := by
        rw [← String.toList_inj, String.toList_append, String.toList_ofList, String.toList_ofList,
          String.toList_singleton]
        rfl
      rw [split, String.utf8ByteSize_append, String.utf8ByteSize_singleton,
        ascii c List.mem_cons_self, ih fun d mem => ascii d (List.mem_cons_of_mem c mem),
        List.length_cons, Nat.add_comm]

theorem digit_size {c : Char} (digit : c.isDigit = true) : c.utf8Size = 1 := by
  rw [Char.utf8Size_eq_one_iff, UInt32.le_iff_toNat_le]
  have range := Decimal.digit_lt digit
  show c.toNat ≤ 127
  omega

/-- What a month's name is made of. -/
theorem mem_monthLabel {m : CivilMonth} (four : FourDigits m) {c : Char}
    (mem : c ∈ (monthLabel m).toList) : c ∈ "monthly-".toList ∨ c.isDigit = true := by
  rw [monthLabel_toList, (year_toList four).1] at mem
  rcases List.mem_append.mp mem with fixed | mem
  · exact .inl fixed
  rcases List.mem_append.mp mem with year | mem
  · exact .inr (padded_digit year)
  rcases List.mem_cons.mp mem with rfl | month
  · exact .inl (by decide)
  · exact .inr (padded_digit month)

theorem monthLabel_slug {m : CivilMonth} (four : FourDigits m) : isValidSlug (monthLabel m) = true := by
  have size : (monthLabel m).utf8ByteSize ≤ 32 := by
    have ascii : ∀ c ∈ (monthLabel m).toList, c.utf8Size = 1 := by
      intro c mem
      rcases mem_monthLabel four mem with fixed | digit
      · have sizes : ("monthly-".toList.all fun d => d.utf8Size = 1) = true := by decide
        simpa using List.all_eq_true.mp sizes c fixed
      · exact digit_size digit
    have length := size_ofList ascii
    rw [String.ofList_toList, monthLabel_toList, List.length_append, List.length_append,
      (year_toList four).1, (year_toList four).2, List.length_cons, month_length] at length
    rw [length]
    decide
  have chars : ∀ c ∈ (monthLabel m).toList,
      (c.isLower || c.isDigit || decide (c = '_') || decide (c = '-')) = true := by
    intro c mem
    rcases mem_monthLabel four mem with fixed | digit
    · have valid : ("monthly-".toList.all fun d =>
          d.isLower || d.isDigit || decide (d = '_') || decide (d = '-')) = true := by decide
      exact List.all_eq_true.mp valid c fixed
    · simp [digit]
  rw [isValidSlug]
  split
  · rename_i empty
    rw [monthLabel_toList] at empty
    cases empty
  · rename_i first rest shape
    have head : first = 'm' := by
      rw [monthLabel_toList] at shape
      exact (List.cons.inj shape).1.symm
    rw [shape] at chars
    rw [head, decide_eq_true size, List.all_eq_true.mpr fun c mem => chars c (List.mem_cons_of_mem _ mem)]
    decide

/-- The pool id of a month. -/
def monthPool (m : CivilMonth) : PoolId :=
  ⟨meteredPoolPrefix ++ localBudgetOwner.val ++ "/" ++ monthLabel m⟩

theorem meteredPoolId_month {m : CivilMonth} (four : FourDigits m) :
    meteredPoolId localBudgetOwner (monthLabel m) = some (monthPool m) := by
  have owner : isValidSlug localBudgetOwner.val = true := by decide
  rw [meteredPoolId, owner, monthLabel_slug four]
  rfl

theorem monthPool_lt_iff {m m' : CivilMonth} (four : FourDigits m) (four' : FourDigits m') :
    (monthPool m).val < (monthPool m').val ↔ m.index < m'.index := by
  have text : ∀ n : CivilMonth, (monthPool n).val.toList =
      (meteredPoolPrefix ++ localBudgetOwner.val ++ "/").toList ++ (monthLabel n).toList :=
    fun _ => String.toList_append
  rw [String.lt_iff, text, text, Decimal.append_left_lt_iff, monthLabel_lt_iff four four']

end Names

/-! ## Budget months -/

/-- The instants are cut into months that follow each other, each named after the month that
begins it, and the pool ids of the years 1 to 9999 sort as the months do. -/
structure MonthlyPeriods (tz : IanaTimeZone) : Prop where
  tiles : Tiles fun t => calendarMonthBounds t tz
  next : ∀ t, (calendarMonthBounds (calendarMonthBounds t tz).2 tz).1 = (calendarMonthBounds t tz).2
  named : ∀ t, ∃ m, calendarMonthBounds t tz = (tz.firstMidnight m, tz.firstMidnight m.next) ∧
    monthlyPoolAlias (calendarMonthBounds t tz).1 tz = monthLabel m
  distinct : ∀ t u, monthlyPoolAlias (calendarMonthBounds t tz).1 tz =
    monthlyPoolAlias (calendarMonthBounds u tz).1 tz ↔ calendarMonthBounds t tz = calendarMonthBounds u tz
  ordered : ∀ t u, FourDigits (tz.localMonth (calendarMonthBounds t tz).1) →
    FourDigits (tz.localMonth (calendarMonthBounds u tz).1) → ∃ p q,
      meteredPoolId localBudgetOwner (monthlyPoolAlias (calendarMonthBounds t tz).1 tz) = some p ∧
      meteredPoolId localBudgetOwner (monthlyPoolAlias (calendarMonthBounds u tz).1 tz) = some q ∧
      (p.val < q.val ↔ (calendarMonthBounds t tz).1 < (calendarMonthBounds u tz).1)

/-- A budget month is named after the month that begins it, in every zone. -/
theorem alias_eq (z : Zone) (t : OffsetDateTime) :
    monthlyPoolAlias (calendarMonthBounds t z.iana).1 z.iana = monthLabel (monthStarting z.iana t) := by
  rw [month_bounds]
  show monthLabel (z.iana.localMonth (z.iana.firstMidnight (monthStarting z.iana t))) = _
  rw [localMonth_firstMidnight]

/-- Budget months are as they should exactly when no change sets the zone back over a midnight
that begins a month. -/
theorem monthlyPeriods_iff (z : Zone) : MonthlyPeriods z.iana ↔ z.MonthsClear := by
  constructor
  · intro periods
    exact monthsClear_of_tiles periods.tiles
  intro clear
  have tiles := month_tiles clear
  have starting : ∀ t, z.iana.localMonth (calendarMonthBounds t z.iana).1 = monthStarting z.iana t :=
    fun t => localMonth_firstMidnight _
  refine ⟨tiles, tiles.next, fun t => ⟨monthStarting z.iana t, rfl, alias_eq z t⟩, ?_, ?_⟩
  · intro t u
    rw [alias_eq, alias_eq]
    constructor
    · intro same
      rw [month_bounds, month_bounds, monthLabel_inj same]
    · intro same
      rw [month_bounds, month_bounds] at same
      rw [firstMidnight_inj (Prod.mk.inj same).1]
  · intro t u four four'
    rw [starting] at four four'
    refine ⟨_, _, by rw [alias_eq, meteredPoolId_month four],
      by rw [alias_eq, meteredPoolId_month four'], ?_⟩
    rw [monthPool_lt_iff four four', month_bounds, month_bounds]
    exact firstMidnight_lt_iff.symm

/-- The offset goes from two and a half hours behind to three and a half at 2009-11-01T02:31Z, when
the clock shows 00:01. -/
def setBackPastMidnight : Zone where
  initial := -9000 * OffsetDateTime.nanosPerSecond
  changes := [⟨1257042660 * OffsetDateTime.nanosPerSecond, -12600 * OffsetDateTime.nanosPerSecond⟩]
  spaced := by decide
  initial_whole := by decide
  changes_whole := by decide

/-- At the change the clock shows October again, which ended a minute ago. -/
theorem october_over_at_change : ¬ MonthlyPeriods setBackPastMidnight.iana := by
  intro periods
  have early := (periods.tiles (1257042660 * OffsetDateTime.nanosPerSecond)).2.1
  revert early
  decide

end LibraGovernor
