/-
# LibraGovernor.Domain.WindowTotal -- where evaluating a decoded window panics

Evaluating an aligned window asks the zone database for instants: each step that expects a value in
range, and the wall-clock time it puts on a day, is a step that may panic.  So is the arithmetic of
a rolling interval.  In the years 1 to 9899 none of them does but one: a wall-clock time that no
clock shows, which a decoded window may carry.
-/
import LibraGovernor.Domain.WindowDecode
import LibraGovernor.Domain.Month

namespace LibraGovernor

namespace QuotaWire

set_option autoImplicit false

/-! ## Aligned periods, step by step -/

/-- An instant the zone database represents. -/
def InRange (t : OffsetDateTime) : Prop :=
  -377705023201 * OffsetDateTime.nanosPerSecond ≤ t ∧
    t < 253402207201 * OffsetDateTime.nanosPerSecond

instance (t : OffsetDateTime) : Decidable (InRange t) := inferInstanceAs (Decidable (_ ∧ _))

def inRange (t : OffsetDateTime) : Option OffsetDateTime := if InRange t then some t else none

/-- A civil date, of the years -9999 to 9999. -/
def dateInRange (day : Int) : Option Int :=
  if -4371587 ≤ day ∧ day ≤ 2932896 then some day else none

/-- A wall-clock time on a date: one that no clock shows panics. -/
def Time.wallClock (at_ : Time) : Option WallClockTime :=
  if valid : at_.Valid then some ⟨at_.hour, at_.minute, valid.1, valid.2⟩ else none

def candidate (zone : TimeZone) (day : Int) (at_ : Time) : Option OffsetDateTime :=
  at_.wallClock.bind fun clock => inRange (zone.candidateInstant day clock)

/-- `fixed_aligned_bounds`, with every step that may panic. -/
def boundsChecked (now : OffsetDateTime) (zone : TimeZone) :
    Period → Option (OffsetDateTime × OffsetDateTime)
  | .hour => do
      let now ← inRange now
      let start ← inRange (zone.hourStart now)
      let end_ ← inRange ((start.seconds + 3600) * OffsetDateTime.nanosPerSecond)
      some (start, end_)
  | .day at_ => do
      let now ← inRange now
      let date ← dateInRange (zone.civilDay now)
      let first ← candidate zone date at_
      let date ← if now < first then dateInRange (date - 1) else some date
      let start ← candidate zone date at_
      let next ← dateInRange (date + 1)
      let end_ ← candidate zone next at_
      some (start, end_)
  | .week startsOn at_ => do
      let now ← inRange now
      let date ← dateInRange (backTo startsOn (zone.civilDay now))
      let first ← candidate zone date at_
      let date ← if now < first then dateInRange (date - 7) else some date
      let start ← candidate zone date at_
      let next ← dateInRange (date + 7)
      let end_ ← candidate zone next at_
      some (start, end_)

/-! ## Windows -/

def Period.aligned : Period → Option AlignedPeriod
  | .hour => some .hour
  | .day at_ => at_.wallClock.map .day
  | .week startsOn at_ => at_.wallClock.map (.week startsOn)

def Kind.mechanics (c : Crates) : Kind → Option WindowKind
  | .fixedAligned period timeZone limit =>
      (c.zone timeZone).bind fun zone => period.aligned.map fun period => .fixedAligned period zone limit
  | .sliding lengthSecs limit => some (.sliding lengthSecs limit)
  | .refillBucket capacity refillAmount refillPeriodSecs anchoredAt levelAtAnchor =>
      some (.refillBucket capacity refillAmount refillPeriodSecs anchoredAt.instant levelAtAnchor)
  | .opaqueProviderSnapshot maxStalenessSecs => some (.opaqueProviderSnapshot maxStalenessSecs)

theorem u64_le {n : Nat} (lt : n < 2 ^ 64) : n ≤ u64Max := Nat.le_pred_of_lt lt

theorem Kind.mechanics_facts {c : Crates} {kind : Kind} {mechanics : WindowKind}
    (checked : kind.Checked c) (ok : kind.mechanics c = some mechanics) :
    mechanics.Typed ∧ mechanics.Valid ∧ mechanics.isGauge = kind.isGauge := by
  cases kind with
  | fixedAligned period timeZone limit =>
      obtain ⟨zone, -, ok⟩ := Option.bind_eq_some_iff.mp ok
      obtain ⟨aligned, -, rfl⟩ := Option.map_eq_some_iff.mp ok
      exact ⟨u64_le checked.2.2, trivial, rfl⟩
  | sliding lengthSecs limit =>
      cases ok
      obtain ⟨pos, le, limit_lt⟩ := checked
      have long : maxSlidingLengthSecs ≤ u64Max := by decide
      exact ⟨⟨le_trans le long, u64_le limit_lt⟩, ⟨pos, le⟩, rfl⟩
  | refillBucket capacity refillAmount refillPeriodSecs anchoredAt levelAtAnchor =>
      cases ok
      obtain ⟨⟨capacity_pos, amount_pos, period_pos, level_le⟩, ⟨capacity_lt, amount_lt, period_lt⟩,
        ⟨-, whole⟩, range⟩ := checked
      exact ⟨⟨u64_le capacity_lt, u64_le amount_lt, u64_le period_lt, range,
        u64_le (lt_of_le_of_lt level_le capacity_lt)⟩,
        ⟨capacity_pos, amount_pos, period_pos, level_le, whole⟩, rfl⟩
  | opaqueProviderSnapshot maxStalenessSecs =>
      cases ok
      exact ⟨u64_le checked.2, checked.1, rfl⟩

/-- A decoded window, as the evaluator takes it. -/
def Wire.window (c : Crates) (w : Wire) (checked : w.Checked c) : Option QuotaWindow :=
  match ok : w.kind.mechanics c with
  | none => none
  | some kind =>
      have facts := Kind.mechanics_facts checked.kind ok
      some
        { id := ⟨w.id⟩
          scope := ⟨w.scope.validUntil.map Stamp.instant⟩
          unit := w.unit
          kind
          typed := facts.1
          valid := facts.2.1
          percent := fun is_percent => facts.2.2.trans (checked.percent is_percent) }

/-- The steps of the evaluation that may panic do not. -/
def Kind.safe (c : Crates) (window : QuotaWindow) (evidence : QuotaEvidence) (now : OffsetDateTime) :
    Kind → Bool
  | .fixedAligned period timeZone _ =>
      ((c.zone timeZone).bind fun zone => boundsChecked now zone period).isSome
  | .sliding lengthSecs limit =>
      decide (OffsetDateTime.Representable (now - slidingLength lengthSecs)) &&
        match (evaluateSliding window evidence now lengthSecs limit).1.relief with
        | .at_ t => decide (OffsetDateTime.Representable t)
        | _ => true
  | _ => true

/-- `evaluate`; `none` is a panic. -/
def Wire.evaluate (c : Crates) (w : Wire) (checked : w.Checked c) (evidence : QuotaEvidence)
    (now : OffsetDateTime) : Option WindowEvaluation :=
  (w.window c checked).bind fun window =>
    if w.kind.safe c window evidence now then some (window.evaluate evidence now) else none

/-! ## No step panics -/

/-- An instant of the years 1 to 9899. -/
def Ordinary (t : OffsetDateTime) : Prop :=
  IanaTimeZone.daysToMonth ⟨12⟩ * nanosPerDay ≤ t ∧ t < IanaTimeZone.daysToMonth ⟨9900 * 12⟩ * nanosPerDay

theorem ordinary_bounds {t : Int} (ordinary : Ordinary t) :
    -62135596800000000000 ≤ t ∧ t < 250246627200000000000 := ordinary

section Total

variable {c : Crates} {zone : TimeZone} {now : Int}

theorem inRange_eq {t : Int} (low : -377705023201000000000 ≤ t) (high : t < 253402207201000000000) :
    inRange t = some t := if_pos ⟨low, high⟩

theorem dateInRange_eq {day : Int} (low : -4371587 ≤ day) (high : day ≤ 2932896) :
    dateInRange day = some day := if_pos ⟨low, high⟩

theorem candidate_eq (near : Near zone) {at_ : Time} (valid : at_.Valid) {day : Int}
    (low : -1000000 ≤ day) (high : day ≤ 2900000) : candidate zone day at_ =
      some (zone.candidateInstant day ⟨at_.hour, at_.minute, valid.1, valid.2⟩) := by
  have close := near.candidateInstant day ⟨at_.hour, at_.minute, valid.1, valid.2⟩
  rw [candidate, Time.wallClock, dif_pos valid, Option.bind_some]
  exact inRange_eq (by omega) (by omega)

/-- Inside these years every step succeeds. -/
theorem boundsChecked_isSome (near : Near zone) (ordinary : Ordinary now) {period : Period}
    (valid : ∀ at_, period.time = some at_ → at_.Valid) :
    (boundsChecked now zone period).isSome = true := by
  obtain ⟨low, high⟩ := ordinary_bounds ordinary
  have here : inRange now = some now := inRange_eq (by omega) (by omega)
  have date := near.civilDay now
  cases period with
  | hour =>
      have close := near.hourStart now
      have start : inRange (zone.hourStart now) = some (zone.hourStart now) :=
        inRange_eq (by omega) (by omega)
      have cut : ∀ n : Int, (n / 1000000000 + 3600) * 1000000000 ≤ n + 3600000000000 ∧
          n < (n / 1000000000 + 3600) * 1000000000 := by omega
      have after := cut (zone.hourStart now)
      have end_ : inRange ((OffsetDateTime.seconds (zone.hourStart now) + 3600) *
          OffsetDateTime.nanosPerSecond) = some ((OffsetDateTime.seconds (zone.hourStart now) + 3600) *
          OffsetDateTime.nanosPerSecond) := by
        show inRange ((zone.hourStart now / 1000000000 + 3600) * 1000000000 : Int) = _
        exact inRange_eq (by omega) (by omega)
      simp only [boundsChecked, Option.bind_eq_bind, here, Option.bind_some, start, end_,
        Option.isSome_some]
  | day at_ =>
      have at_valid := valid at_ rfl
      simp only [boundsChecked, Option.bind_eq_bind, here, Option.bind_some]
      rw [dateInRange_eq (by omega) (by omega), Option.bind_some,
        candidate_eq near at_valid (by omega) (by omega), Option.bind_some]
      split
      · rw [dateInRange_eq (by omega) (by omega), Option.bind_some,
          candidate_eq near at_valid (by omega) (by omega), Option.bind_some,
          dateInRange_eq (by omega) (by omega), Option.bind_some,
          candidate_eq near at_valid (by omega) (by omega), Option.bind_some]
        rfl
      · rw [Option.bind_some, dateInRange_eq (by omega) (by omega), Option.bind_some,
          candidate_eq near at_valid (by omega) (by omega), Option.bind_some]
        rfl
  | week startsOn at_ =>
      have at_valid := valid at_ rfl
      obtain ⟨-, back, forth⟩ := backTo_spec startsOn (zone.civilDay now)
      simp only [boundsChecked, Option.bind_eq_bind, here, Option.bind_some]
      rw [dateInRange_eq (by omega) (by omega), Option.bind_some,
        candidate_eq near at_valid (by omega) (by omega), Option.bind_some]
      split
      · rw [dateInRange_eq (by omega) (by omega), Option.bind_some,
          candidate_eq near at_valid (by omega) (by omega), Option.bind_some,
          dateInRange_eq (by omega) (by omega), Option.bind_some,
          candidate_eq near at_valid (by omega) (by omega), Option.bind_some]
        rfl
      · rw [Option.bind_some, dateInRange_eq (by omega) (by omega), Option.bind_some,
          candidate_eq near at_valid (by omega) (by omega), Option.bind_some]
        rfl

/-- The relief of a rolling interval is a record's instant, one length later. -/
theorem slidingRelief_mem {length : Int} {limit settled outstanding : Nat} {cleared : Int}
    {usage : List QuotaUsage} {t : OffsetDateTime}
    (found : slidingRelief length limit settled outstanding cleared usage = some t) :
    ∃ u ∈ usage, t = u.occurredAt + length := by
  induction usage generalizing cleared with
  | nil => cases found
  | cons u rest ih =>
      rw [slidingRelief] at found
      split at found
      · cases found
        exact ⟨u, List.mem_cons_self, rfl⟩
      · obtain ⟨v, mem, same⟩ := ih found
        exact ⟨v, List.mem_cons_of_mem u mem, same⟩

theorem sliding_relief_le {window : QuotaWindow} {evidence : QuotaEvidence} {lengthSecs limit : Nat}
    {t : Int} (relief : (evaluateSliding window evidence now lengthSecs limit).1.relief = .at_ t) :
    now < t ∧ t ≤ now + slidingLength lengthSecs := by
  simp only [evaluateSliding, WindowState.relief] at relief
  split at relief
  · cases relief
  split at relief
  · cases relief
  split at relief
  · rename_i instant found
    cases relief
    obtain ⟨u, mem, same⟩ := slidingRelief_mem found
    have within : now - slidingLength lengthSecs < u.occurredAt ∧ u.occurredAt ≤ now :=
      of_decide_eq_true (List.mem_filter.mp mem).2
    have shift : ∀ a b l : Int, b - l < a ∧ a ≤ b → b < a + l ∧ a + l ≤ b + l := by omega
    rw [same]
    exact shift _ _ _ within
  · cases relief

theorem safe_of_valid (documented : c.Documented) {kind : Kind} (checked : kind.Checked c)
    (valid : ∀ at_, kind.time = some at_ → at_.Valid) (window : QuotaWindow) (evidence : QuotaEvidence)
    (ordinary : Ordinary now) : kind.safe c window evidence now = true := by
  obtain ⟨low, high⟩ := ordinary_bounds ordinary
  cases kind with
  | fixedAligned period timeZone limit =>
      obtain ⟨zone, here⟩ := Option.isSome_iff_exists.mp checked.1
      rw [Kind.safe, here, Option.bind_some]
      exact boundsChecked_isSome (documented.zone_near _ _ here) ordinary valid
  | sliding lengthSecs limit =>
      obtain ⟨-, le, -⟩ := checked
      have long : slidingLength lengthSecs ≤ 3153600000000000000 := by
        have bound : lengthSecs ≤ 3153600000 := le
        show (lengthSecs : Int) * 1000000000 ≤ _
        omega
      have pos : 0 ≤ slidingLength lengthSecs := by
        show 0 ≤ (lengthSecs : Int) * 1000000000
        omega
      have represented : ∀ t : Int, -377705116800000000000 ≤ t → t ≤ 253402300799999999999 →
          OffsetDateTime.Representable t := fun t above below => ⟨above, below⟩
      have start := represented (now - slidingLength lengthSecs) (by omega) (by omega)
      rw [Kind.safe, decide_eq_true start, Bool.true_and]
      split
      · rename_i t relief
        obtain ⟨above, below⟩ := sliding_relief_le (t := t) relief
        exact decide_eq_true (represented t (by omega) (by omega))
      · rfl
  | refillBucket capacity refillAmount refillPeriodSecs anchoredAt levelAtAnchor => rfl
  | opaqueProviderSnapshot maxStalenessSecs => rfl

theorem Time.wallClock_isSome (at_ : Time) : at_.wallClock.isSome = true ↔ at_.Valid := by
  rw [Time.wallClock]
  split
  · simp [*]
  · simp [*]

theorem mechanics_isSome {kind : Kind} (checked : kind.Checked c) :
    (kind.mechanics c).isSome = true ↔ ∀ at_, kind.time = some at_ → at_.Valid := by
  cases kind with
  | fixedAligned period timeZone limit =>
      obtain ⟨zone, here⟩ := Option.isSome_iff_exists.mp checked.1
      rw [Kind.mechanics, here, Option.bind_some, Option.isSome_map]
      cases period with
      | hour => simp [Period.aligned, Kind.time, Period.time]
      | day at_ => simp [Period.aligned, Kind.time, Period.time, Time.wallClock_isSome]
      | week startsOn at_ => simp [Period.aligned, Kind.time, Period.time, Time.wallClock_isSome]
  | sliding lengthSecs limit => simp [Kind.mechanics, Kind.time]
  | refillBucket capacity refillAmount refillPeriodSecs anchoredAt levelAtAnchor =>
      simp [Kind.mechanics, Kind.time]
  | opaqueProviderSnapshot maxStalenessSecs => simp [Kind.mechanics, Kind.time]

theorem window_isSome {w : Wire} (checked : w.Checked c) :
    (w.window c checked).isSome = (w.kind.mechanics c).isSome := by
  rw [Wire.window]
  split
  · rename_i none_
    rw [none_]
    rfl
  · rename_i kind some_
    show true = (w.kind.mechanics c).isSome
    rw [some_]
    rfl

/-- A window can be evaluated for every evidence and every instant of the years 1 to 9899 exactly
when the time it resets at is one a clock shows. -/
theorem evaluate_total_iff (documented : c.Documented) {w : Wire} (checked : w.Checked c) :
    (∀ evidence now, Ordinary now → (w.evaluate c checked evidence now).isSome = true) ↔
      ∀ at_, w.kind.time = some at_ → at_.Valid := by
  constructor
  · intro total
    have now : Ordinary 0 := ⟨by decide, by decide⟩
    have here := total ⟨[], [], []⟩ 0 now
    rw [← mechanics_isSome checked.kind, ← window_isSome checked]
    cases built : w.window c checked with
    | none =>
        rw [Wire.evaluate, built] at here
        cases here
    | some window => rfl
  · intro valid evidence now ordinary
    have built : (w.window c checked).isSome = true := by
      rw [window_isSome checked]
      exact (mechanics_isSome checked.kind).mpr valid
    obtain ⟨window, here⟩ := Option.isSome_iff_exists.mp built
    rw [Wire.evaluate, here, Option.bind_some,
      if_pos (safe_of_valid documented checked.kind valid window evidence ordinary)]
    rfl

end Total

/-! ## Decoded windows -/

/-- The two ways a window is decoded. -/
def Decodes (c : Crates) (j : Json) (w : Wire) : Prop :=
  fromValue c j = some w ∨ decodeQuotaWindow c j = .ok (.current w)

theorem Decodes.fromValue {c : Crates} {j : Json} {w : Wire} (decoded : Decodes c j w) :
    fromValue c j = some w := by
  rcases decoded with read | decoded
  · exact read
  · rw [decodeQuotaWindow] at decoded
    split at decoded
    · cases decoded
    split at decoded
    · cases decoded
    split at decoded
    · rename_i window read
      cases decoded
      exact read
    · cases decoded

/-- The wall-clock time the JSON of a window resets it at. -/
def resetTime (c : Crates) (j : Json) : Option Time :=
  (Wire.read c j).bind fun w => w.kind.time

/-- What is to hold of every decoded window: it passes every check, it is written and read back
unchanged, and evaluating it never panics in the years 1 to 9899. -/
structure Sound (c : Crates) (w : Wire) : Prop where
  checked : w.Checked c
  times : ∀ at_, w.kind.time = some at_ → at_.Valid
  roundTrip : QuotaWire.fromValue c (toValue c w) = some w
  total : ∀ evidence now, Ordinary now → (w.evaluate c checked evidence now).isSome = true

theorem kind_time {c : Crates} (documented : c.Documented) {j : Json} {w : Wire}
    (read : QuotaWire.fromValue c j = some w) : w.kind.time = resetTime c j := by
  obtain ⟨wire, wire_read, done⟩ := Option.bind_eq_some_iff.mp read
  rw [resetTime, wire_read, Option.bind_some]
  obtain ⟨-, -, _, kind_read⟩ := Wire.read_parts wire_read
  obtain ⟨-, observedAt, validUntil, kind, -, -, kind_ok, rfl⟩ := Wire.tryInto_ok done
  exact (Kind.checked_of_read documented kind_read kind_ok).2.2

/-- A decoded window is as it should be exactly when the time its JSON resets it at is one a clock
shows. -/
theorem sound_iff {c : Crates} (documented : c.Documented) {j : Json} {w : Wire}
    (decoded : Decodes c j w) : Sound c w ↔ ∀ at_, resetTime c j = some at_ → at_.Valid := by
  have checked := checked_of_fromValue documented decoded.fromValue
  have time := kind_time documented decoded.fromValue
  rw [← time]
  constructor
  · intro sound
    exact sound.times
  · intro valid
    exact ⟨checked, valid, fromValue_toValue documented checked,
      (evaluate_total_iff documented checked).mpr valid⟩

/-! ## A concrete reading -/

section Concrete

def hexValue (digits : List Char) : Nat :=
  digits.foldl (fun n c => 16 * n + (if c.toNat < 58 then c.toNat - 48 else c.toNat - 87)) 0

theorem hexValue_hexDigits (k n : Nat) : hexValue (hexDigits k n) = n % 16 ^ k := by
  have digit : ∀ a < 16, (if (hexDigit a).toNat < 58 then (hexDigit a).toNat - 48
      else (hexDigit a).toNat - 87) = a := by decide
  induction k generalizing n with
  | zero => simp [hexDigits, hexValue, Nat.mod_one]
  | succ k ih =>
      have front : hexValue (hexDigits (k + 1) n) = 16 * hexValue (hexDigits k (n / 16)) + n % 16 := by
        rw [hexDigits, hexValue, List.foldl_append, ← hexValue, List.foldl_cons, List.foldl_nil,
          digit _ (Nat.mod_lt n (by decide))]
      rw [front, ih, Nat.pow_succ, Nat.mul_comm _ 16, Nat.mod_mul, Nat.add_comm]

/-- A uuid in its hyphenated form. -/
def readUuid (text : String) : Option Uuid :=
  let id : Uuid := BitVec.ofNat 128 (hexValue (text.toList.filter fun c => c ≠ '-'))
  if id.text = text then some id else none

theorem readUuid_text (id : Uuid) : readUuid id.text = some id := by
  have value : BitVec.ofNat 128 (hexValue (id.text.toList.filter fun c => c ≠ '-')) = id := by
    rw [Uuid.text_digits, hexValue_hexDigits, Nat.mod_eq_of_lt (show id.toNat < 16 ^ 32 from id.isLt),
      BitVec.ofNat_toNat, BitVec.setWidth_eq]
  rw [readUuid, value, if_pos rfl]

/-- A number of fixed width, and what follows the character after it. -/
def nextField (width : Nat) (text : List Char) : Nat × List Char :=
  (Decimal.value (text.take width), text.drop (width + 1))

theorem nextField_eq {width n : Nat} (pos : 0 < width) (lt : n < 10 ^ width) (separator : Char)
    (rest : List Char) : nextField width ((padded width n).toList ++ separator :: rest) = (n, rest) := by
  have length := padded_length pos lt
  have front : ((padded width n).toList ++ separator :: rest).take width = (padded width n).toList := by
    rw [List.take_append_of_le_length (le_of_eq length.symm), List.take_of_length_le (le_of_eq length)]
  have back : ((padded width n).toList ++ separator :: rest).drop (width + 1) = rest := by
    generalize (padded width n).toList = digits at length
    subst length
    simp
  rw [nextField, front, back, padded_value]

/-- An instant in UTC, in milliseconds, as it is written. -/
def parseStamp (text : String) : Option Stamp :=
  let year := nextField 4 text.toList
  let month := nextField 2 year.2
  let day := nextField 2 month.2
  let hour := nextField 2 day.2
  let minute := nextField 2 hour.2
  let second := nextField 2 minute.2
  let milli := nextField 3 second.2
  let date : Int := IanaTimeZone.daysToMonth ⟨(year.1 : Int) * 12 + month.1 - 1⟩ + day.1 - 1
  let t : OffsetDateTime := (date * 86400000 + ((hour.1 * 3600000 + minute.1 * 60000 + second.1 * 1000 +
    milli.1 : Nat) : Int)) * nanosPerMilli
  if stampText t ++ "+00:00" = text ∧ OffsetDateTime.earliestText ≤ t ∧ t ≤ OffsetDateTime.latest then
    some ⟨t, 0⟩
  else none

theorem stampText_toList (t : Int) : ∃ (m : CivilMonth) (day rest : Nat),
    (OffsetDateTime.earliestText ≤ t → t ≤ OffsetDateTime.latest → 0 ≤ m.year ∧ m.year ≤ 9999) ∧
      1 ≤ day ∧ day ≤ 31 ∧ rest < 86400000 ∧
      t / 1000000 = (IanaTimeZone.daysToMonth m + day - 1) * 86400000 + rest ∧
      (stampText t ++ "+00:00").toList = (paddedInt 4 m.year).toList ++ '-' :: ((padded 2 m.month).toList ++
        '-' :: ((padded 2 day).toList ++ 'T' :: ((padded 2 (rest / 3600000)).toList ++
          ':' :: ((padded 2 (rest / 60000 % 60)).toList ++ ':' :: ((padded 2 (rest / 1000 % 60)).toList ++
            '.' :: ((padded 3 (rest % 1000)).toList ++ '+' :: ['0', '0', ':', '0', '0'])))))) := by
  let date : Int := t / 1000000 / 86400000
  obtain ⟨low, high⟩ := IanaTimeZone.monthOfDay_spec date
  have length := (IanaTimeZone.daysToMonth_next (IanaTimeZone.monthOfDay date)).2
  refine ⟨IanaTimeZone.monthOfDay date, (date - IanaTimeZone.daysToMonth (IanaTimeZone.monthOfDay date) +
    1).toNat, (t / 1000000 % 86400000).toNat, ?_, by omega, by omega, by omega, ?_, ?_⟩
  · intro early late
    have first : -719528 ≤ date := by
      have above : -62167219200000000000 ≤ t := early
      omega
    have last : date ≤ 2932896 := by
      have below : t ≤ 253402300799999999999 := late
      omega
    have from_ : (0 : Int) < (IanaTimeZone.monthOfDay date).index + 1 :=
      IanaTimeZone.daysToMonth_mono.lt_iff_lt.mp (lt_of_le_of_lt (show IanaTimeZone.daysToMonth ⟨0⟩ ≤ date
        from first) high)
    have until_ : (IanaTimeZone.monthOfDay date).index < 120000 :=
      IanaTimeZone.daysToMonth_mono.lt_iff_lt.mp (lt_of_le_of_lt low (show date <
        IanaTimeZone.daysToMonth ⟨120000⟩ from lt_of_le_of_lt last (by decide)))
    rw [CivilMonth.year]
    omega
  · omega
  · have hyphen : "-".toList = ['-'] := by decide
    have colon : ":".toList = [':'] := by decide
    have letter : "T".toList = ['T'] := by decide
    have point : ".".toList = ['.'] := by decide
    have offset : "+00:00".toList = ['+', '0', '0', ':', '0', '0'] := by decide
    show (paddedInt 4 (IanaTimeZone.monthOfDay date).year ++ "-" ++ _ ++ "-" ++ _ ++ "T" ++ _ ++ ":" ++ _ ++
      ":" ++ _ ++ "." ++ _ ++ "+00:00").toList = _
    simp only [String.toList_append, hyphen, colon, letter, point, offset, List.append_assoc,
      List.singleton_append]
    rfl

theorem parseStamp_text {t : Int} (whole : OffsetDateTime.WholeMilli t)
    (early : OffsetDateTime.earliestText ≤ t) (late : t ≤ OffsetDateTime.latest) :
    parseStamp (stampText t ++ "+00:00") = some ⟨t, 0⟩ := by
  obtain ⟨m, day, rest, years, day_pos, day_le, rest_lt, millis, text⟩ := stampText_toList t
  obtain ⟨year_nonneg, year_le⟩ := years early late
  have month := month_le m
  have index := index_eq m
  have same_month : (⟨(m.year.toNat : Int) * 12 + m.month - 1⟩ : CivilMonth) = m :=
    congrArg CivilMonth.mk (show (m.year.toNat : Int) * 12 + m.month - 1 = m.index by omega)
  have same : (((IanaTimeZone.daysToMonth m + day - 1) * 86400000 + ((rest / 3600000 * 3600000 +
      rest / 60000 % 60 * 60000 + rest / 1000 % 60 * 1000 + rest % 1000 : Nat) : Int)) * nanosPerMilli :
        Int) = t := by
    have parts : rest / 3600000 * 3600000 + rest / 60000 % 60 * 60000 + rest / 1000 % 60 * 1000 +
      rest % 1000 = rest := by omega
    have millis_whole : t % 1000000 = 0 := whole
    rw [parts, ← millis]
    show t / 1000000 * 1000000 = t
    omega
  rw [parseStamp, text, paddedInt_nonneg year_nonneg, nextField_eq (by decide) (by omega),
    nextField_eq (by decide) (by omega), nextField_eq (by decide) (by omega),
    nextField_eq (by decide) (by omega), nextField_eq (by decide) (by omega),
    nextField_eq (by decide) (by omega), nextField_eq (by decide) (by omega)]
  dsimp only
  rw [same_month, same, if_pos ⟨rfl, early, late⟩]

def utcZone : Zone := ⟨0, [], trivial, by decide, fun _ mem => absurd mem List.not_mem_nil⟩

theorem utcZone_near : Near utcZone.timeZone where
  civilDay t := by
    show t - 3 * 86400000000000 < (t + 0) / 86400000000000 * 86400000000000 ∧
      (t + 0) / 86400000000000 * 86400000000000 < t + 2 * 86400000000000
    omega
  hourStart t := by
    show t - 3 * 86400000000000 < (t + 0) / 3600000000000 * 3600000000000 - 0 ∧
      t + 3 * 86400000000000 > (t + 0) / 3600000000000 * 3600000000000 - 0
    omega
  candidateInstant day at_ := by
    have bounds := at_.nanos_bounds
    rw [nanosPerDay_eq] at bounds
    show day * 86400000000000 - 2 * 86400000000000 < day * 86400000000000 + at_.nanos - 0 ∧
      day * 86400000000000 + 3 * 86400000000000 > day * 86400000000000 + at_.nanos - 0
    omega

def readNanos : Json → Option Stamp
  | .number (.integer n) => if OffsetDateTime.Representable n then some ⟨n, 0⟩ else none
  | _ => none

/-- The only zone is UTC, and an anchor is written as its nanoseconds. -/
def utcCrates : Crates where
  zone name := if name = "UTC" then some utcZone.timeZone else none
  rfc3339 := parseStamp
  readInstant := readNanos
  writeInstant t := .number (.integer t)
  uuid := readUuid

theorem parseStamp_years {text : String} {t : OffsetDateTime} (parsed : parseStamp text = some ⟨t, 0⟩) :
    OffsetDateTime.earliestText ≤ t ∧ t ≤ OffsetDateTime.latest := by
  rw [parseStamp] at parsed
  obtain ⟨valid, same⟩ := Option.ite_none_right_eq_some.mp parsed
  cases same
  exact valid.2

theorem utcZone_known {name : String} {zone : TimeZone} (known : utcCrates.zone name = some zone) :
    Near zone := by
  obtain ⟨-, same⟩ := Option.ite_none_right_eq_some.mp known
  cases same
  exact utcZone_near

theorem readNanos_range {j : Json} {t : Stamp} (read : readNanos j = some t) :
    t.instant.Representable := by
  cases j with
  | number value =>
      cases value with
      | integer n =>
          obtain ⟨range, same⟩ := Option.ite_none_right_eq_some.mp read
          cases same
          exact range
      | decimal => cases read
  | _ => cases read

theorem readNanos_write {t : OffsetDateTime} (range : t.Representable) :
    readNanos (.number (.integer t)) = some ⟨t, 0⟩ := by
  rw [readNanos, if_pos range]

attribute [irreducible] parseStamp readUuid

theorem utcCrates_documented : utcCrates.Documented where
  zone_near _ _ := utcZone_known
  rfc3339_text t whole early late := by
    have parser : utcCrates.rfc3339 = parseStamp := rfl
    rw [parser, parseStamp_text whole early late]
  rfc3339_years text t parsed := by
    have parser : utcCrates.rfc3339 = parseStamp := rfl
    rw [parser] at parsed
    exact parseStamp_years parsed
  instant_text t range := by
    have reader : utcCrates.readInstant = readNanos := rfl
    have writer : utcCrates.writeInstant t = .number (.integer t) := rfl
    rw [reader, writer, readNanos_write range]
  instant_range j t read := by
    have reader : utcCrates.readInstant = readNanos := rfl
    rw [reader] at read
    exact readNanos_range read
  uuid_text id := by
    have reader : utcCrates.uuid = readUuid := rfl
    rw [reader, readUuid_text]

/-- A daily window in UTC. -/
def dailyAt (at_ : Time) : Wire where
  schemaVersion := schemaVersion
  id := 7#128
  scope := ⟨.principal "dev", .operatorConfigured, .high, ⟨1767225600000000000, 0⟩, none⟩
  unit := .tokens
  kind := .fixedAligned (.day at_) "UTC" 1000

theorem dailyAt_checked {at_ : Time} (hour : at_.hour < 256) (minute : at_.minute < 256) :
    (dailyAt at_).Checked utcCrates where
  version := rfl
  observedAt := ⟨⟨rfl, show OffsetDateTime.WholeMilli 1767225600000000000 by decide⟩,
    show OffsetDateTime.earliestText ≤ 1767225600000000000 by decide,
    show (1767225600000000000 : Int) ≤ OffsetDateTime.latest by decide⟩
  validUntil t until_ := by cases until_
  namespace_ slug credit := by cases credit
  percent percent := by cases percent
  kind := ⟨rfl, fun t time => by cases time; exact ⟨hour, minute⟩, show 1000 < 2 ^ 64 by decide⟩

theorem dailyAt_decodes {at_ : Time} (hour : at_.hour < 256) (minute : at_.minute < 256) :
    Decodes utcCrates (toValue utcCrates (dailyAt at_)) (dailyAt at_) :=
  .inl (fromValue_toValue utcCrates_documented (dailyAt_checked hour minute))

theorem daily_sound : Sound utcCrates (dailyAt ⟨9, 30⟩) := by
  have decoded : Decodes utcCrates (toValue utcCrates (dailyAt ⟨9, 30⟩)) (dailyAt ⟨9, 30⟩) :=
    dailyAt_decodes (by decide) (by decide)
  refine (sound_iff utcCrates_documented decoded).mpr fun at_ time => ?_
  rw [← kind_time utcCrates_documented decoded.fromValue] at time
  cases time
  decide

/-- A window that resets at 24:00 is decoded, and evaluating it panics. -/
theorem hour_24_decoded : Decodes utcCrates (toValue utcCrates (dailyAt ⟨24, 0⟩)) (dailyAt ⟨24, 0⟩) ∧
    ¬ Sound utcCrates (dailyAt ⟨24, 0⟩) := by
  refine ⟨dailyAt_decodes (by decide) (by decide), fun sound => ?_⟩
  have valid := sound.times ⟨24, 0⟩ rfl
  revert valid
  decide

end Concrete

end QuotaWire

end LibraGovernor
