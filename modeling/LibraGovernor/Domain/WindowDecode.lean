/-
# LibraGovernor.Domain.WindowDecode -- what a decoded quota window satisfies

A window read from JSON has passed every check but one: its wall-clock times are read past their
constructor.  It is written and read back unchanged, and it can be evaluated for every evidence and
every instant of the years 1 to 9899, exactly when the time it resets at is one a clock can show
(`sound_iff`): reading any other time on a day panics.
-/
import LibraGovernor.Domain.QuotaWire

namespace LibraGovernor

namespace QuotaWire

open Serde

set_option autoImplicit false

/-! ## What other crates promise -/

/-- How far a zone's clock is from UTC: the offsets are below 26 hours. -/
structure Near (zone : TimeZone) : Prop where
  civilDay : ∀ t : Int, t - 3 * 86400000000000 < zone.civilDay t * 86400000000000 ∧
    zone.civilDay t * 86400000000000 < t + 2 * 86400000000000
  hourStart : ∀ t : Int, t - 3 * 86400000000000 < zone.hourStart t ∧
    t + 3 * 86400000000000 > zone.hourStart t
  candidateInstant : ∀ (day : Int) (at_ : WallClockTime),
    day * 86400000000000 - 2 * 86400000000000 < zone.candidateInstant day at_ ∧
      day * 86400000000000 + 3 * 86400000000000 > zone.candidateInstant day at_

/-- What the other crates document. -/
structure Crates.Documented (c : Crates) : Prop where
  zone_near : ∀ name zone, c.zone name = some zone → Near zone
  /-- Text with four digits of a year is parsed. -/
  rfc3339_text : ∀ t : OffsetDateTime, t.WholeMilli → OffsetDateTime.earliestText ≤ t →
    t ≤ OffsetDateTime.latest → c.rfc3339 (stampText t ++ "+00:00") = some ⟨t, 0⟩
  rfc3339_years : ∀ text t, c.rfc3339 text = some ⟨t, 0⟩ →
    OffsetDateTime.earliestText ≤ t ∧ t ≤ OffsetDateTime.latest
  instant_text : ∀ t : OffsetDateTime, t.Representable → c.readInstant (c.writeInstant t) = some ⟨t, 0⟩
  instant_range : ∀ j t, c.readInstant j = some ⟨t, 0⟩ → t.Representable
  uuid_text : ∀ id : Uuid, c.uuid id.text = some id

/-! ## What a window satisfies -/

/-- UTC, in whole milliseconds. -/
def Stamp.Normal (t : Stamp) : Prop := t.offset = 0 ∧ t.instant.WholeMilli

/-- An instant whose year has four digits. -/
def Stamp.FourDigits (t : Stamp) : Prop :=
  OffsetDateTime.earliestText ≤ t.instant ∧ t.instant ≤ OffsetDateTime.latest

def Period.time : Period → Option Time
  | .hour => none
  | .day at_ => some at_
  | .week _ at_ => some at_

/-- The wall-clock time a window resets at. -/
def Kind.time : Kind → Option Time
  | .fixedAligned period _ _ => period.time
  | _ => none

def Kind.Checked (c : Crates) : Kind → Prop
  | .fixedAligned period timeZone limit => (c.zone timeZone).isSome = true ∧
      (∀ at_, period.time = some at_ → at_.hour < 256 ∧ at_.minute < 256) ∧ limit < 2 ^ 64
  | .sliding lengthSecs limit => 0 < lengthSecs ∧ lengthSecs ≤ maxSlidingLengthSecs ∧ limit < 2 ^ 64
  | .refillBucket capacity refillAmount refillPeriodSecs anchoredAt levelAtAnchor =>
      (0 < capacity ∧ 0 < refillAmount ∧ 0 < refillPeriodSecs ∧ levelAtAnchor ≤ capacity) ∧
        (capacity < 2 ^ 64 ∧ refillAmount < 2 ^ 64 ∧ refillPeriodSecs < 2 ^ 64) ∧
        anchoredAt.Normal ∧ anchoredAt.instant.Representable
  | .opaqueProviderSnapshot maxStalenessSecs => 0 < maxStalenessSecs ∧ maxStalenessSecs < 2 ^ 64

/-- All that `validated` and the constructors of the parts check, but the wall-clock times. -/
structure Wire.Checked (c : Crates) (w : Wire) : Prop where
  version : w.schemaVersion = QuotaWire.schemaVersion
  observedAt : w.scope.observedAt.Normal ∧ w.scope.observedAt.FourDigits
  validUntil : ∀ t, w.scope.validUntil = some t → t.Normal ∧ t.FourDigits
  namespace_ : ∀ slug, w.unit = .opaqueCredit slug → isValidSlug slug = true
  percent : w.unit = .percent → w.kind.isGauge = true
  kind : w.kind.Checked c

/-! ## Normalizing -/

theorem normalizeUtcMs_of_whole {t : OffsetDateTime} (whole : t.WholeMilli) : normalizeUtcMs t = t := by
  have cut : ∀ n : Int, n % 1000000 = 0 → n - n % 1000000 = n := by omega
  exact cut t whole

theorem normalized_normal {t : Stamp} (normal : t.Normal) : normalized t = .ok t := by
  rw [normalized, if_pos normal.1, normalizeUtcMs_of_whole normal.2, ← normal.1]

theorem normalized_ok {t t' : Stamp} (ok : normalized t = .ok t') :
    t.offset = 0 ∧ t' = ⟨normalizeUtcMs t.instant, 0⟩ := by
  rw [normalized] at ok
  split at ok
  · rename_i utc
    cases ok
    exact ⟨utc, rfl⟩
  · cases ok

theorem normalized_facts {t t' : Stamp} (ok : normalized t = .ok t') :
    t'.Normal ∧ (t.FourDigits → t'.FourDigits) ∧
      (t.instant.Representable → t'.instant.Representable) := by
  obtain ⟨-, rfl⟩ := normalized_ok ok
  refine ⟨⟨rfl, normalizeUtcMs_whole _⟩, ?_, normalizeUtcMs_representable⟩
  have cut : ∀ n : Int, -62167219200 * 1000000000 ≤ n ∧ n ≤ 253402300800 * 1000000000 - 1 →
      -62167219200 * 1000000000 ≤ n - n % 1000000 ∧ n - n % 1000000 ≤ 253402300800 * 1000000000 - 1 := by
    omega
  exact cut t.instant

/-! ## Reading -/

section Read

variable {c : Crates} {j : Json}

theorem Time.read_lt {at_ : Time} (read : Time.read j = some at_) : at_.hour < 256 ∧ at_.minute < 256 := by
  simp only [Time.read, Option.bind_eq_bind, Option.bind_eq_some_iff] at read
  obtain ⟨field, -, hour, ⟨_, _, hour_read⟩, minute, ⟨_, _, minute_read⟩, same⟩ := read
  cases same
  exact ⟨u8_lt hour_read, u8_lt minute_read⟩

theorem Period.read_lt {period : Period} (read : Period.read j = some period) {at_ : Time}
    (time : period.time = some at_) : at_.hour < 256 ∧ at_.minute < 256 := by
  simp only [Period.read, Option.bind_eq_bind, Option.bind_eq_some_iff] at read
  obtain ⟨⟨every, rest⟩, -, read⟩ := read
  dsimp only at read
  split at read
  · cases (Option.ite_none_right_eq_some.mp read).2
    cases time
  split at read
  · simp only [Option.bind_eq_some_iff] at read
    obtain ⟨field, -, t, ⟨_, _, time_read⟩, same⟩ := read
    cases same
    cases time
    exact Time.read_lt time_read
  split at read
  · simp only [Option.bind_eq_some_iff] at read
    obtain ⟨field, -, startsOn, -, t, ⟨_, _, time_read⟩, same⟩ := read
    cases same
    cases time
    exact Time.read_lt time_read
  · cases read

theorem readZone_known {name : String} (read : readZone c j = some name) :
    (c.zone name).isSome = true := by
  obtain ⟨text, -, here⟩ := Option.bind_eq_some_iff.mp read
  split at here
  · cases here
    assumption
  · cases here

/-- What a kind that passed its checks satisfies. -/
theorem Kind.checked_of_read (documented : c.Documented) {kind checked : Kind}
    (read : Kind.read c j = some kind) (ok : kind.validated = .ok checked) :
    checked.Checked c ∧ checked.isGauge = kind.isGauge ∧ checked.time = kind.time := by
  simp only [Kind.read, Option.bind_eq_bind, Option.bind_eq_some_iff] at read
  obtain ⟨⟨tag, rest⟩, -, read⟩ := read
  dsimp only at read
  split at read
  · simp only [Option.bind_eq_some_iff] at read
    obtain ⟨field, -, period, ⟨_, _, period_read⟩, zone, ⟨_, _, zone_read⟩, limit, ⟨_, _, limit_read⟩,
      same⟩ := read
    cases same
    cases ok
    exact ⟨⟨readZone_known zone_read, fun at_ time => Period.read_lt period_read time,
      asU64_lt limit_read⟩, rfl, rfl⟩
  split at read
  · simp only [Option.bind_eq_some_iff] at read
    obtain ⟨field, -, length, -, limit, ⟨_, _, limit_read⟩, same⟩ := read
    cases same
    rw [Kind.validated] at ok
    split at ok
    · cases ok
    split at ok
    · cases ok
    cases ok
    have bound := asU64_lt limit_read
    exact ⟨⟨by omega, by omega, bound⟩, rfl, rfl⟩
  split at read
  · simp only [Option.bind_eq_some_iff] at read
    obtain ⟨field, -, capacity, ⟨_, _, capacity_read⟩, amount, ⟨_, _, amount_read⟩, period,
      ⟨_, _, period_read⟩, anchor, ⟨_, _, anchor_read⟩, level, -, same⟩ := read
    cases same
    rw [Kind.validated] at ok
    split at ok
    · cases ok
    split at ok
    · cases ok
    split at ok
    · cases ok
    split at ok
    · cases ok
    cases stamped : normalized anchor with
    | error e =>
        rw [stamped] at ok
        cases ok
    | ok anchor' =>
        rw [stamped] at ok
        cases ok
        obtain ⟨normal, -, range⟩ := normalized_facts stamped
        have utc : anchor = ⟨anchor.instant, 0⟩ := by rw [← (normalized_ok stamped).1]
        rw [utc] at anchor_read
        refine ⟨⟨⟨by omega, by omega, by omega, by omega⟩, ⟨asU64_lt capacity_read, asU64_lt amount_read,
          asU64_lt period_read⟩, normal, range (documented.instant_range _ _ anchor_read)⟩, rfl, rfl⟩
  split at read
  · simp only [Option.bind_eq_some_iff] at read
    obtain ⟨field, -, staleness, ⟨_, _, staleness_read⟩, same⟩ := read
    cases same
    rw [Kind.validated] at ok
    split at ok
    · cases ok
    cases ok
    have bound := asU64_lt staleness_read
    exact ⟨⟨by omega, bound⟩, rfl, rfl⟩
  · cases read

theorem readUnit_slug {unit : QuotaUnit} (read : readUnit j = some unit) {slug : String}
    (credit : unit = .opaqueCredit slug) : isValidSlug slug = true := by
  subst credit
  simp only [readUnit, Option.bind_eq_bind, Option.bind_eq_some_iff] at read
  obtain ⟨⟨tag, content⟩, -, read⟩ := read
  dsimp only at read
  split at read
  · simp only [Option.bind_eq_some_iff] at read
    obtain ⟨text, -, here⟩ := read
    split at here
    · cases here
      assumption
    · cases here
  · split at read
    · repeat (split at read; cases read)
      cases read
    · cases read

theorem readStamp_years (documented : c.Documented) {t : Stamp} (read : readStamp c j = some t)
    (utc : t.offset = 0) : t.FourDigits := by
  obtain ⟨raw, -, parsed⟩ := Option.bind_eq_some_iff.mp read
  cases t with
  | mk instant offset =>
      cases utc
      exact documented.rfc3339_years _ _ parsed

/-- What trying a record into a window does. -/
theorem Wire.tryInto_ok {wire w : Wire} (done : wire.tryInto.toOption = some w) :
    ¬ (wire.unit = .percent ∧ wire.kind.isGauge = false) ∧ ∃ observedAt validUntil kind,
      normalized wire.scope.observedAt = .ok observedAt ∧
      normalizedOptional wire.scope.validUntil = .ok validUntil ∧ wire.kind.validated = .ok kind ∧
      w = ⟨QuotaWire.schemaVersion, wire.id, { wire.scope with observedAt, validUntil }, wire.unit, kind⟩ := by
  rw [Wire.tryInto] at done
  split at done
  · cases done
  rw [Wire.validated] at done
  split at done
  · cases done
  rename_i unmixed
  refine ⟨unmixed, ?_⟩
  cases observed_ok : normalized wire.scope.observedAt with
  | error e =>
      rw [observed_ok] at done
      cases done
  | ok observedAt =>
  cases until_ok : normalizedOptional wire.scope.validUntil with
  | error e =>
      rw [observed_ok, until_ok] at done
      cases done
  | ok validUntil =>
  cases kind_ok : wire.kind.validated with
  | error e =>
      rw [observed_ok, until_ok, kind_ok] at done
      cases done
  | ok kind =>
      rw [observed_ok, until_ok, kind_ok] at done
      cases done
      exact ⟨observedAt, validUntil, kind, rfl, rfl, rfl, rfl⟩

/-- What reading a record reads. -/
theorem Wire.read_parts {wire : Wire} (read : Wire.read c j = some wire) :
    (∃ json, Scope.read c json = some wire.scope) ∧ (∃ json, readUnit json = some wire.unit) ∧
      ∃ json, Kind.read c json = some wire.kind := by
  simp only [Wire.read, Option.bind_eq_bind, Option.bind_eq_some_iff] at read
  obtain ⟨field, -, version, -, id, -, scope, ⟨scope_json, _, scope_read⟩, unit,
    ⟨unit_json, _, unit_read⟩, kind, ⟨kind_json, _, kind_read⟩, same⟩ := read
  cases same
  exact ⟨⟨scope_json, scope_read⟩, ⟨unit_json, unit_read⟩, kind_json, kind_read⟩

theorem Scope.read_years (documented : c.Documented) {scope : Scope} (read : Scope.read c j = some scope) :
    (scope.observedAt.offset = 0 → scope.observedAt.FourDigits) ∧
      ∀ t, scope.validUntil = some t → t.offset = 0 → t.FourDigits := by
  simp only [Scope.read, Option.bind_eq_bind, Option.bind_eq_some_iff] at read
  obtain ⟨part, -, subject, -, source, -, confidence, -, observed, ⟨_, _, observed_read⟩, until_,
    until_read, same⟩ := read
  cases same
  refine ⟨readStamp_years documented observed_read, ?_⟩
  intro t is_some
  dsimp only at is_some
  subst is_some
  cases value : part "valid_until" with
  | none =>
      rw [value] at until_read
      cases until_read
  | some json =>
      rw [value, readOptionalStamp] at until_read
      · obtain ⟨raw, raw_read, same⟩ := Option.map_eq_some_iff.mp until_read
        cases same
        exact readStamp_years documented raw_read
      · rintro rfl
        cases until_read

/-- A window read from JSON has passed every check but that of its wall-clock times. -/
theorem checked_of_fromValue (documented : c.Documented) {w : Wire} (read : fromValue c j = some w) :
    w.Checked c := by
  obtain ⟨wire, wire_read, done⟩ := Option.bind_eq_some_iff.mp read
  obtain ⟨⟨_, scope_read⟩, ⟨_, unit_read⟩, _, kind_read⟩ := Wire.read_parts wire_read
  obtain ⟨unmixed, observedAt, validUntil, kind, observed_ok, until_ok, kind_ok, rfl⟩ :=
    Wire.tryInto_ok done
  obtain ⟨kind_checked, gauge, -⟩ := Kind.checked_of_read documented kind_read kind_ok
  obtain ⟨observed_years, until_years⟩ := Scope.read_years documented scope_read
  obtain ⟨normal, years, -⟩ := normalized_facts observed_ok
  refine ⟨rfl, ⟨normal, years (observed_years (normalized_ok observed_ok).1)⟩, ?_,
    fun slug credit => readUnit_slug unit_read credit, ?_, kind_checked⟩
  · intro t is_some
    dsimp only at is_some
    subst is_some
    cases given : wire.scope.validUntil with
    | none =>
        rw [given] at until_ok
        cases until_ok
    | some raw =>
        rw [given, normalizedOptional] at until_ok
        cases raw_ok : normalized raw with
        | error e =>
            rw [raw_ok] at until_ok
            cases until_ok
        | ok raw' =>
            rw [raw_ok] at until_ok
            cases until_ok
            obtain ⟨normal', years', -⟩ := normalized_facts raw_ok
            exact ⟨normal', years' (until_years raw given (normalized_ok raw_ok).1)⟩
  · intro is_percent
    dsimp only at is_percent ⊢
    rw [gauge]
    by_contra other
    exact unmixed ⟨is_percent, by simpa using other⟩

end Read

/-! ## Writing and reading back -/

section Written

variable {c : Crates}

/-- A record is read from the fields its parts are read from. -/
theorem Time.read_object {at_ : Time} {hour minute : Json} (hour_read : u8 hour = some at_.hour)
    (minute_read : u8 minute = some at_.minute) :
    Time.read (.object [("hour", hour), ("minute", minute)]) = some at_ := by
  show ((u8 hour).bind fun h => (u8 minute).bind fun m => some (⟨h, m⟩ : Time)) = some at_
  rw [hour_read, Option.bind_some, minute_read, Option.bind_some]

theorem Time.read_write {at_ : Time} (hour : at_.hour < 256) (minute : at_.minute < 256) :
    Time.read at_.write = some at_ :=
  Time.read_object (u8_count hour) (u8_count minute)

theorem readWeekday_write (day : ResetWeekday) : readWeekday (.string (weekdayName day)) = some day := by
  cases day <;> decide

theorem Period.read_day {at_ : Time} {at_json : Json} (at_read : Time.read at_json = some at_) :
    Period.read (.object [("at", at_json), ("every", .string "day")]) = some (.day at_) := by
  show ((Time.read at_json).bind fun t => some (Period.day t)) = _
  rw [at_read, Option.bind_some]

theorem Period.read_week {at_ : Time} {startsOn : ResetWeekday} {at_json starts_json : Json}
    (at_read : Time.read at_json = some at_) (starts_read : readWeekday starts_json = some startsOn) :
    Period.read (.object [("at", at_json), ("every", .string "week"), ("starts_on", starts_json)]) =
      some (.week startsOn at_) := by
  show ((readWeekday starts_json).bind fun day => (Time.read at_json).bind fun t =>
    some (Period.week day t)) = _
  rw [starts_read, Option.bind_some, at_read, Option.bind_some]

theorem Period.read_write {period : Period}
    (small : ∀ at_, period.time = some at_ → at_.hour < 256 ∧ at_.minute < 256) :
    Period.read period.write = some period := by
  cases period with
  | hour => decide
  | day at_ =>
      obtain ⟨hour, minute⟩ := small at_ rfl
      exact Period.read_day (Time.read_write hour minute)
  | week startsOn at_ =>
      obtain ⟨hour, minute⟩ := small at_ rfl
      exact Period.read_week (Time.read_write hour minute) (readWeekday_write startsOn)

theorem Kind.read_fixedAligned {period : Period} {timeZone : String} {limit : Nat}
    {limit_json period_json : Json} (known : (c.zone timeZone).isSome = true)
    (limit_read : limit_json.asU64 = some limit) (period_read : Period.read period_json = some period) :
    Kind.read c (.object [("kind", .string "fixed_aligned"), ("limit", limit_json),
      ("period", period_json), ("time_zone", .string timeZone)]) =
      some (.fixedAligned period timeZone limit) := by
  show ((Period.read period_json).bind fun p => (readZone c (.string timeZone)).bind fun z =>
    limit_json.asU64.bind fun l => some (Kind.fixedAligned p z l)) = _
  have zone_read : readZone c (.string timeZone) = some timeZone := if_pos known
  rw [period_read, Option.bind_some, zone_read, Option.bind_some, limit_read, Option.bind_some]

theorem Kind.read_sliding {lengthSecs limit : Nat} {length_json limit_json : Json}
    (length_read : length_json.asU64 = some lengthSecs) (limit_read : limit_json.asU64 = some limit) :
    Kind.read c (.object [("kind", .string "sliding"), ("length_secs", length_json),
      ("limit", limit_json)]) = some (.sliding lengthSecs limit) := by
  show (length_json.asU64.bind fun n => limit_json.asU64.bind fun l => some (Kind.sliding n l)) = _
  rw [length_read, Option.bind_some, limit_read, Option.bind_some]

theorem Kind.read_refillBucket {capacity refillAmount refillPeriodSecs levelAtAnchor : Nat}
    {anchoredAt : Stamp} {anchor capacity_json level amount period : Json}
    (anchor_read : c.readInstant anchor = some anchoredAt)
    (capacity_read : capacity_json.asU64 = some capacity) (level_read : level.asU64 = some levelAtAnchor)
    (amount_read : amount.asU64 = some refillAmount) (period_read : period.asU64 = some refillPeriodSecs) :
    Kind.read c (.object [("anchored_at", anchor), ("capacity", capacity_json),
      ("kind", .string "refill_bucket"), ("level_at_anchor", level), ("refill_amount", amount),
      ("refill_period_secs", period)]) =
      some (.refillBucket capacity refillAmount refillPeriodSecs anchoredAt levelAtAnchor) := by
  show (capacity_json.asU64.bind fun cap => amount.asU64.bind fun a => period.asU64.bind fun p =>
    (c.readInstant anchor).bind fun at_ => level.asU64.bind fun l => some (Kind.refillBucket cap a p at_ l)) = _
  rw [capacity_read, Option.bind_some, amount_read, Option.bind_some, period_read, Option.bind_some,
    anchor_read, Option.bind_some, level_read, Option.bind_some]

theorem Kind.read_opaque {maxStalenessSecs : Nat} {staleness : Json}
    (read : staleness.asU64 = some maxStalenessSecs) :
    Kind.read c (.object [("kind", .string "opaque_provider_snapshot"),
      ("max_staleness_secs", staleness)]) = some (.opaqueProviderSnapshot maxStalenessSecs) := by
  show (staleness.asU64.bind fun n => some (Kind.opaqueProviderSnapshot n)) = _
  rw [read, Option.bind_some]

theorem Kind.read_write (documented : c.Documented) {kind : Kind} (checked : kind.Checked c) :
    Kind.read c (kind.write c) = some kind := by
  cases kind with
  | fixedAligned period timeZone limit =>
      obtain ⟨known, small, limit_lt⟩ := checked
      exact Kind.read_fixedAligned known (asU64_count limit_lt) (Period.read_write small)
  | sliding lengthSecs limit =>
      obtain ⟨-, length_le, limit_lt⟩ := checked
      exact Kind.read_sliding (asU64_count (lt_of_le_of_lt length_le (by decide))) (asU64_count limit_lt)
  | refillBucket capacity refillAmount refillPeriodSecs anchoredAt levelAtAnchor =>
      obtain ⟨⟨-, -, -, level_le⟩, ⟨capacity_lt, amount_lt, period_lt⟩, ⟨utc, -⟩, range⟩ := checked
      have anchor : c.readInstant (c.writeInstant anchoredAt.instant) = some anchoredAt := by
        rw [documented.instant_text _ range, ← utc]
      exact Kind.read_refillBucket anchor (asU64_count capacity_lt)
        (asU64_count (lt_of_le_of_lt level_le capacity_lt)) (asU64_count amount_lt)
        (asU64_count period_lt)
  | opaqueProviderSnapshot maxStalenessSecs => exact Kind.read_opaque (asU64_count checked.2)

theorem Kind.validated_checked {kind : Kind} (checked : kind.Checked c) : kind.validated = .ok kind := by
  cases kind with
  | fixedAligned period timeZone limit => rfl
  | sliding lengthSecs limit =>
      obtain ⟨pos, le, -⟩ := checked
      rw [Kind.validated, if_neg (by omega), if_neg (by omega)]
  | refillBucket capacity refillAmount refillPeriodSecs anchoredAt levelAtAnchor =>
      obtain ⟨⟨capacity_pos, amount_pos, period_pos, level_le⟩, -, normal, -⟩ := checked
      rw [Kind.validated, if_neg (by omega), if_neg (by omega), if_neg (by omega), if_neg (by omega),
        normalized_normal normal]
      rfl
  | opaqueProviderSnapshot maxStalenessSecs =>
      rw [Kind.validated, if_neg (by have := checked.1; omega)]

theorem Subject.read_write (subject : Subject) : Subject.read subject.write = some subject := by
  cases subject with
  | principal id => rfl
  | sharedPool id => rfl
  | provider name account => cases account <;> rfl

theorem spellOffset_z (text : String) : spellOffset (text ++ "Z") = text ++ "+00:00" := by
  have letter : "Z".toList = ['Z'] := by decide
  rw [spellOffset, String.toList_append, letter, List.getLast?_append]
  simp

theorem readStamp_write (documented : c.Documented) {t : Stamp} (normal : t.Normal)
    (years : t.FourDigits) : readStamp c (writeStamp t) = some t := by
  show c.rfc3339 (spellOffset (stampText t.instant ++ "Z")) = some t
  rw [spellOffset_z, documented.rfc3339_text _ normal.2 years.1 years.2, ← normal.1]

theorem sourceName_read (source : EntitlementSource) :
    Fields.get (sourceName source) sourceNames = some source := by
  cases source <;> decide

theorem confidenceName_read (confidence : Confidence) :
    Fields.get (confidenceName confidence) confidenceNames = some confidence := by
  cases confidence <;> decide

theorem Scope.read_object {scope : Scope} {observed subject : Json} {until_ : Option Json}
    (observed_read : readStamp c observed = some scope.observedAt)
    (subject_read : Subject.read subject = some scope.subject)
    (until_read : readOptionalStamp c until_ = some scope.validUntil) :
    Scope.read c (.object ([("confidence", .string (confidenceName scope.confidence)),
      ("observed_at", observed), ("source", .string (sourceName scope.source)), ("subject", subject)] ++
        (until_.map fun json => ("valid_until", json)).toList)) = some scope := by
  have parts : ∀ last, readOptionalStamp c last = some scope.validUntil →
      ((Subject.read subject).bind fun sub =>
        (Fields.get (sourceName scope.source) sourceNames).bind fun source =>
          (Fields.get (confidenceName scope.confidence) confidenceNames).bind fun confidence =>
            (readStamp c observed).bind fun at_ => (readOptionalStamp c last).bind fun v =>
              some (⟨sub, source, confidence, at_, v⟩ : Scope)) = some scope := by
    intro last last_read
    rw [subject_read, Option.bind_some, sourceName_read, Option.bind_some, confidenceName_read,
      Option.bind_some, observed_read, Option.bind_some, last_read, Option.bind_some]
  cases until_ with
  | none => exact parts none until_read
  | some json => exact parts (some json) until_read

theorem Scope.read_write (documented : c.Documented) {scope : Scope}
    (observedAt : scope.observedAt.Normal ∧ scope.observedAt.FourDigits)
    (validUntil : ∀ t, scope.validUntil = some t → t.Normal ∧ t.FourDigits) :
    Scope.read c scope.write = some scope := by
  have until_read : readOptionalStamp c (scope.validUntil.map writeStamp) = some scope.validUntil := by
    cases until_ : scope.validUntil with
    | none => rfl
    | some t =>
        obtain ⟨normal, years⟩ := validUntil t until_
        show (readStamp c (writeStamp t)).map some = some (some t)
        rw [readStamp_write documented normal years]
        rfl
  have read := Scope.read_object (readStamp_write documented observedAt.1 observedAt.2)
    (Subject.read_write scope.subject) until_read
  rw [Option.map_map] at read
  exact read

theorem readUnit_write {unit : QuotaUnit}
    (slug : ∀ text, unit = .opaqueCredit text → isValidSlug text = true) :
    readUnit (writeUnit unit) = some unit := by
  cases unit with
  | opaqueCredit text => exact if_pos (slug text rfl)
  | _ => rfl

theorem Wire.read_object {w : Wire} {id : String} {kind scope unit : Json} (id_read : c.uuid id = some w.id)
    (kind_read : Kind.read c kind = some w.kind) (scope_read : Scope.read c scope = some w.scope)
    (unit_read : readUnit unit = some w.unit) :
    Wire.read c (.object [("id", .string id), ("kind", kind), ("schema_version", .string w.schemaVersion),
      ("scope", scope), ("unit", unit)]) = some w := by
  show ((c.uuid id).bind fun u => (Scope.read c scope).bind fun sc => (readUnit unit).bind fun un =>
    (Kind.read c kind).bind fun k => some (⟨w.schemaVersion, u, sc, un, k⟩ : Wire)) = some w
  rw [id_read, Option.bind_some, scope_read, Option.bind_some, unit_read, Option.bind_some, kind_read,
    Option.bind_some]

/-- A window that has passed its checks is written and read back unchanged. -/
theorem fromValue_toValue (documented : c.Documented) {w : Wire} (checked : w.Checked c) :
    fromValue c (toValue c w) = some w := by
  obtain ⟨version, observedAt, validUntil, slug, percent, kind⟩ := checked
  obtain ⟨schema, id, scope, unit, k⟩ := w
  dsimp only at version observedAt validUntil slug percent kind
  subst version
  have read : Wire.read c (toValue c ⟨schemaVersion, id, scope, unit, k⟩) =
      some ⟨schemaVersion, id, scope, unit, k⟩ :=
    Wire.read_object (documented.uuid_text id) (Kind.read_write documented kind)
      (Scope.read_write documented observedAt validUntil) (readUnit_write slug)
  have stays : normalizedOptional scope.validUntil = .ok scope.validUntil := by
    cases until_ : scope.validUntil with
    | none => rfl
    | some t =>
        rw [normalizedOptional, normalized_normal (validUntil t until_).1]
        rfl
  have unmixed : ¬ (unit = .percent ∧ k.isGauge = false) := by
    rintro ⟨is_percent, other⟩
    rw [percent is_percent] at other
    cases other
  have ok : Wire.tryInto ⟨schemaVersion, id, scope, unit, k⟩ =
      .ok ⟨schemaVersion, id, scope, unit, k⟩ := by
    rw [Wire.tryInto, if_neg (by simp), Wire.validated, if_neg unmixed,
      normalized_normal observedAt.1, stays, Kind.validated_checked kind]
    rfl
  rw [fromValue, read, Option.bind_some, ok]
  rfl

end Written

end QuotaWire

end LibraGovernor
