/-
# LibraGovernor.Domain.QuotaWindow -- quota windows and what the evidence makes of them

A window is a constraint on one unit: a period that resets at aligned wall-clock times, a
rolling interval, a bucket that refills, or a provider's gauge.  It is evaluated from evidence
(usage records, outstanding holds, provider snapshots), never from a counter: `evaluate` is a
pure function of the window, the evidence and an instant.

Amounts and limits are `u64` values read as naturals, sums of them stop at `u64Max`, and the
bucket counts its level in thousandths of a refill period as an `i128` that stops at its ends.
The zone database is a parameter (`TimeZone`), as far as aligned periods ask it.
-/
import LibraGovernor.Domain.SharedPool
import LibraGovernor.Domain.TaskBudget
import LibraGovernor.Lib.Best
import LibraGovernor.Lib.Saturating
import LibraGovernor.Lib.StableSort
import Mathlib.Data.Prod.Lex

namespace LibraGovernor

open Scan StableSort

set_option autoImplicit false

/-! ## Ranges -/

def i64 : Saturating.Range := ⟨-(2 ^ 63), 2 ^ 63 - 1, by decide, by decide⟩

def i128 : Saturating.Range := ⟨-(2 ^ 127), 2 ^ 127 - 1, by decide, by decide⟩

def nanosPerMilli : Int := 1000000

/-- The instant is one the `time` crate can represent. -/
def OffsetDateTime.Representable (t : OffsetDateTime) : Prop :=
  OffsetDateTime.earliest ≤ t ∧ t ≤ OffsetDateTime.latest

/-- The instant falls on a whole millisecond. -/
def OffsetDateTime.WholeMilli (t : OffsetDateTime) : Prop := t % nanosPerMilli = 0

instance (t : OffsetDateTime) : Decidable t.Representable :=
  inferInstanceAs (Decidable (OffsetDateTime.earliest ≤ t ∧ t ≤ OffsetDateTime.latest))

instance (t : OffsetDateTime) : Decidable t.WholeMilli :=
  inferInstanceAs (Decidable (t % nanosPerMilli = 0))

/-- Cut to whole milliseconds. -/
def normalizeUtcMs (t : OffsetDateTime) : OffsetDateTime := t - t % nanosPerMilli

theorem normalizeUtcMs_whole (t : OffsetDateTime) : (normalizeUtcMs t).WholeMilli := by
  have cut : ∀ n : Int, (n - n % 1000000) % 1000000 = 0 := by omega
  exact cut t

theorem normalizeUtcMs_representable {t : OffsetDateTime} (fits : t.Representable) :
    (normalizeUtcMs t).Representable := by
  have cut : ∀ n : Int, -377705116800000000000 ≤ n ∧ n ≤ 253402300799999999999 →
      -377705116800000000000 ≤ n - n % 1000000 ∧ n - n % 1000000 ≤ 253402300799999999999 := by omega
  exact cut t fits

/-- `Duration::whole_milliseconds`. -/
def wholeMilliseconds (duration : Int) : Int := duration.tdiv nanosPerMilli

/-- `OffsetDateTime::checked_add` of whole milliseconds. -/
def OffsetDateTime.checkedAddMillis (t : OffsetDateTime) (millis : Int) : Option OffsetDateTime :=
  let later : Int := t + millis * nanosPerMilli
  if earliest ≤ later ∧ later ≤ latest then some later else none

/-! ## Windows -/

inductive QuotaWindowError where
  | percentOnNonGaugeWindow
  | zeroField (field : String)
  | levelExceedsCapacity (levelAtAnchor capacity : Nat)
  | gaugeMissingLimit
  | gaugeUnexpectedLimit
  | fieldOutOfRange (field : String) (value max : Nat)
  deriving DecidableEq, Repr

structure WallClockTime where
  hour : Nat
  minute : Nat
  hour_lt : hour < 24
  minute_lt : minute < 60

inductive ResetWeekday where
  | monday
  | tuesday
  | wednesday
  | thursday
  | friday
  | saturday
  | sunday
  deriving DecidableEq, Repr

/-- Days past Monday. -/
def ResetWeekday.index : ResetWeekday → Nat
  | .monday => 0
  | .tuesday => 1
  | .wednesday => 2
  | .thursday => 3
  | .friday => 4
  | .saturday => 5
  | .sunday => 6

/-- The period resets at a wall-clock time of its zone. -/
inductive AlignedPeriod where
  | hour
  | day (at_ : WallClockTime)
  | week (startsOn : ResetWeekday) (at_ : WallClockTime)

/-- A zone of the bundled database, as far as aligned periods go: the civil day of an instant,
counted from 1970-01-01, the top of the local hour it falls in, and the instant of a wall-clock
time on a day. -/
structure TimeZone where
  civilDay : OffsetDateTime → Int
  hourStart : OffsetDateTime → OffsetDateTime
  candidateInstant : Int → WallClockTime → OffsetDateTime

/-- The weekday of a civil day; 1970-01-01 is a Thursday. -/
def weekdayIndex (day : Int) : Int := (day + 3) % 7

/-- The last day up to `day` that is the weekday. -/
def backTo (target : ResetWeekday) (day : Int) : Int :=
  day - (weekdayIndex day - target.index) % 7

/-- The period an instant falls in, by stepping days of the zone. -/
def fixedAlignedBounds (now : OffsetDateTime) (period : AlignedPeriod) (tz : TimeZone) :
    OffsetDateTime × OffsetDateTime :=
  match period with
  | .hour =>
      let start := tz.hourStart now
      (start, (start.seconds + 3600) * OffsetDateTime.nanosPerSecond)
  | .day at_ =>
      let date := tz.civilDay now
      let date := if now < tz.candidateInstant date at_ then date - 1 else date
      (tz.candidateInstant date at_, tz.candidateInstant (date + 1) at_)
  | .week startsOn at_ =>
      let date := backTo startsOn (tz.civilDay now)
      let date := if now < tz.candidateInstant date at_ then date - 7 else date
      (tz.candidateInstant date at_, tz.candidateInstant (date + 7) at_)

inductive WindowKind where
  | fixedAligned (period : AlignedPeriod) (timeZone : TimeZone) (limit : Nat)
  | sliding (lengthSecs limit : Nat)
  | refillBucket (capacity refillAmount refillPeriodSecs : Nat) (anchoredAt : OffsetDateTime)
      (levelAtAnchor : Nat)
  | opaqueProviderSnapshot (maxStalenessSecs : Nat)

/-- One hundred years. -/
def maxSlidingLengthSecs : Nat := 100 * 365 * 24 * 3600

namespace WindowKind

def isGauge : WindowKind → Bool
  | .opaqueProviderSnapshot _ => true
  | _ => false

/-- Every count is a `u64`, and the anchor an instant. -/
def Typed : WindowKind → Prop
  | .fixedAligned _ _ limit => limit ≤ u64Max
  | .sliding lengthSecs limit => lengthSecs ≤ u64Max ∧ limit ≤ u64Max
  | .refillBucket capacity refillAmount refillPeriodSecs anchoredAt levelAtAnchor =>
      capacity ≤ u64Max ∧ refillAmount ≤ u64Max ∧ refillPeriodSecs ≤ u64Max ∧
        anchoredAt.Representable ∧ levelAtAnchor ≤ u64Max
  | .opaqueProviderSnapshot maxStalenessSecs => maxStalenessSecs ≤ u64Max

/-- What a validated window's mechanics satisfy. -/
def Valid : WindowKind → Prop
  | .fixedAligned _ _ _ => True
  | .sliding lengthSecs _ => 0 < lengthSecs ∧ lengthSecs ≤ maxSlidingLengthSecs
  | .refillBucket capacity refillAmount refillPeriodSecs anchoredAt levelAtAnchor =>
      0 < capacity ∧ 0 < refillAmount ∧ 0 < refillPeriodSecs ∧ levelAtAnchor ≤ capacity ∧
        anchoredAt.WholeMilli
  | .opaqueProviderSnapshot maxStalenessSecs => 0 < maxStalenessSecs

instance : DecidablePred Typed := fun kind => by
  cases kind <;> unfold Typed <;> infer_instance

instance : DecidablePred Valid := fun kind => by
  cases kind <;> unfold Valid <;> infer_instance

/-- Checks the mechanics, and cuts the anchor to whole milliseconds. -/
def validated (kind : WindowKind) : Except QuotaWindowError WindowKind :=
  match kind with
  | .fixedAligned period timeZone limit => .ok (.fixedAligned period timeZone limit)
  | .sliding lengthSecs limit =>
      if lengthSecs = 0 then .error (.zeroField "length_secs")
      else if maxSlidingLengthSecs < lengthSecs then
        .error (.fieldOutOfRange "length_secs" lengthSecs maxSlidingLengthSecs)
      else .ok (.sliding lengthSecs limit)
  | .refillBucket capacity refillAmount refillPeriodSecs anchoredAt levelAtAnchor =>
      if capacity = 0 then .error (.zeroField "capacity")
      else if refillAmount = 0 then .error (.zeroField "refill_amount")
      else if refillPeriodSecs = 0 then .error (.zeroField "refill_period_secs")
      else if capacity < levelAtAnchor then .error (.levelExceedsCapacity levelAtAnchor capacity)
      else .ok (.refillBucket capacity refillAmount refillPeriodSecs (normalizeUtcMs anchoredAt)
        levelAtAnchor)
  | .opaqueProviderSnapshot maxStalenessSecs =>
      if maxStalenessSecs = 0 then .error (.zeroField "max_staleness_secs")
      else .ok (.opaqueProviderSnapshot maxStalenessSecs)

/-- What passes the checks is valid, and its figures are still ones the types hold. -/
theorem validated_ok {kind checked : WindowKind} (typed : kind.Typed)
    (ok : kind.validated = .ok checked) :
    checked.Valid ∧ checked.Typed ∧ checked.isGauge = kind.isGauge := by
  cases kind with
  | fixedAligned period timeZone limit =>
      cases ok
      exact ⟨trivial, typed, rfl⟩
  | sliding lengthSecs limit =>
      simp only [validated] at ok
      split at ok
      · cases ok
      split at ok
      · cases ok
      · cases ok
        exact ⟨by simp only [Valid]; omega, typed, rfl⟩
  | refillBucket capacity refillAmount refillPeriodSecs anchoredAt levelAtAnchor =>
      simp only [validated] at ok
      split at ok
      · cases ok
      split at ok
      · cases ok
      split at ok
      · cases ok
      split at ok
      · cases ok
      · cases ok
        obtain ⟨capacity_le, refill_le, period_le, anchored, level_le⟩ := typed
        refine ⟨⟨by omega, by omega, by omega, by omega, normalizeUtcMs_whole anchoredAt⟩, ?_, rfl⟩
        exact ⟨capacity_le, refill_le, period_le, normalizeUtcMs_representable anchored, level_le⟩
  | opaqueProviderSnapshot maxStalenessSecs =>
      simp only [validated] at ok
      split at ok
      · cases ok
      · cases ok
        exact ⟨by simp only [Valid]; omega, typed, rfl⟩

end WindowKind

structure QuotaWindowId where
  uuid : BitVec 128
  deriving DecidableEq, Repr

/-- Of the entitlement's scope, until when it holds. -/
structure QuotaScope where
  validUntil : Option OffsetDateTime
  deriving DecidableEq, Repr

/-- A quota window: only a gauge counts percent, and the mechanics are valid. -/
structure QuotaWindow where
  id : QuotaWindowId
  scope : QuotaScope
  unit : QuotaUnit
  kind : WindowKind
  typed : kind.Typed
  valid : kind.Valid
  percent : unit = .percent → kind.isGauge = true

def QuotaWindow.validated (id : QuotaWindowId) (scope : QuotaScope) (unit : QuotaUnit)
    (kind : WindowKind) (typed : kind.Typed) : Except QuotaWindowError QuotaWindow :=
  if percent : unit = .percent ∧ kind.isGauge = false then .error .percentOnNonGaugeWindow
  else
    match ok : kind.validated with
    | .error e => .error e
    | .ok checked =>
        have facts := WindowKind.validated_ok typed ok
        .ok
          { id
            scope := ⟨scope.validUntil.map normalizeUtcMs⟩
            unit
            kind := checked
            typed := facts.2.1
            valid := facts.1
            percent := by
              intro is_percent
              rw [facts.2.2]
              simpa [is_percent] using percent }

/-! ## Evidence -/

structure EconomicEventId where
  uuid : BitVec 128
  deriving DecidableEq, Repr

/-- One additive spend fact. -/
structure QuotaUsage where
  id : EconomicEventId
  occurredAt : OffsetDateTime
  amount : QuotaAmount
  whole : occurredAt.WholeMilli
  representable : occurredAt.Representable
  not_percent : amount.unit ≠ .percent

def QuotaUsage.new (id : EconomicEventId) (occurredAt : OffsetDateTime) (amount : QuotaAmount)
    (representable : occurredAt.Representable) : Except QuotaWindowError QuotaUsage :=
  if percent : amount.unit = .percent then .error .percentOnNonGaugeWindow
  else .ok ⟨id, normalizeUtcMs occurredAt, amount, normalizeUtcMs_whole occurredAt,
    normalizeUtcMs_representable representable, percent⟩

theorem QuotaUsage.ext_data {u v : QuotaUsage} (id : u.id = v.id)
    (occurredAt : u.occurredAt = v.occurredAt) (amount : u.amount = v.amount) : u = v := by
  cases u
  cases v
  cases id
  cases occurredAt
  cases amount
  rfl

instance : DecidableEq QuotaUsage := fun u v =>
  decidable_of_iff (u.id = v.id ∧ u.occurredAt = v.occurredAt ∧ u.amount = v.amount)
    ⟨fun ⟨id, occurredAt, amount⟩ => QuotaUsage.ext_data id occurredAt amount, by rintro rfl; simp⟩

/-- Capacity reserved and not settled. -/
structure OutstandingHold where
  id : ReservationId
  amount : QuotaAmount
  deriving DecidableEq, Repr

/-- A percent reading declares no limit, and any other does. -/
def GaugeReading.Coherent : GaugeReading → Prop
  | .undisclosed => True
  | .used amount limit => amount.unit = .percent ↔ limit = none

/-- A provider's reading of one window. -/
structure ProviderSnapshot where
  windowId : QuotaWindowId
  observedAt : OffsetDateTime
  validUntil : Option OffsetDateTime
  declaredResetAt : Option OffsetDateTime
  reading : GaugeReading
  confidence : Confidence
  coherent : reading.Coherent

def ProviderSnapshot.validated (windowId : QuotaWindowId) (observedAt : OffsetDateTime)
    (validUntil declaredResetAt : Option OffsetDateTime) (reading : GaugeReading)
    (confidence : Confidence) : Except QuotaWindowError ProviderSnapshot :=
  match reading with
  | .undisclosed =>
      .ok ⟨windowId, normalizeUtcMs observedAt, validUntil.map normalizeUtcMs,
        declaredResetAt.map normalizeUtcMs, .undisclosed, confidence, trivial⟩
  | .used amount limit =>
      if unexpected : amount.unit = .percent ∧ limit ≠ none then .error .gaugeUnexpectedLimit
      else if missing : amount.unit ≠ .percent ∧ limit = none then .error .gaugeMissingLimit
      else
        .ok ⟨windowId, normalizeUtcMs observedAt, validUntil.map normalizeUtcMs,
          declaredResetAt.map normalizeUtcMs, .used amount limit, confidence,
          ⟨fun percent => by
              by_contra declared
              exact unexpected ⟨percent, declared⟩,
            fun none => by
              by_contra other
              exact missing ⟨other, none⟩⟩⟩

theorem ProviderSnapshot.ext_data {s t : ProviderSnapshot} (windowId : s.windowId = t.windowId)
    (observedAt : s.observedAt = t.observedAt) (validUntil : s.validUntil = t.validUntil)
    (declaredResetAt : s.declaredResetAt = t.declaredResetAt) (reading : s.reading = t.reading)
    (confidence : s.confidence = t.confidence) : s = t := by
  cases s
  cases t
  cases windowId
  cases observedAt
  cases validUntil
  cases declaredResetAt
  cases reading
  cases confidence
  rfl

instance : DecidableEq ProviderSnapshot := fun s t =>
  decidable_of_iff (s.windowId = t.windowId ∧ s.observedAt = t.observedAt ∧
      s.validUntil = t.validUntil ∧ s.declaredResetAt = t.declaredResetAt ∧
      s.reading = t.reading ∧ s.confidence = t.confidence)
    ⟨fun ⟨w, o, v, d, r, c⟩ => ProviderSnapshot.ext_data w o v d r c, by rintro rfl; simp⟩

structure QuotaEvidence where
  usage : List QuotaUsage
  holds : List OutstandingHold
  snapshots : List ProviderSnapshot

/-! ## Results -/

/-- The more restrictive of two statuses; of two indeterminate ones the first. -/
def BlockingStatus.mostRestrictive : BlockingStatus → BlockingStatus → BlockingStatus
  | .blocking, _ => .blocking
  | _, .blocking => .blocking
  | .indeterminate reason, _ => .indeterminate reason
  | _, .indeterminate reason => .indeterminate reason
  | .notBlocking, .notBlocking => .notBlocking

/-- When a window stops blocking. -/
inductive Relief where
  | notBlocking
  | at_ (instant : OffsetDateTime)
  | providerDeclared (instant : OffsetDateTime)
  | afterOutstandingHoldsSettle
  | unknown
  deriving DecidableEq, Repr

structure PeriodState where
  start : OffsetDateTime
  end_ : OffsetDateTime
  limit : Nat
  settled : Nat
  outstanding : Nat
  remaining : Int
  usageRecords : Nat
  relief : Relief
  deriving DecidableEq, Repr

structure BucketState where
  capacity : Nat
  level : Int
  outstanding : Nat
  remaining : Int
  usageRecords : Nat
  relief : Relief
  deriving DecidableEq, Repr

inductive StaleReason where
  | pastValidUntil
  | exceedsMaxStaleness
  deriving DecidableEq, Repr

inductive GaugeFreshness where
  | noSnapshot
  | fresh
  | stale (reason : StaleReason)
  deriving DecidableEq, Repr

structure GaugeState where
  freshness : GaugeFreshness
  latest : Option ProviderSnapshot
  ageSecs : Option Nat
  relief : Relief
  deriving DecidableEq

inductive WindowState where
  | period (state : PeriodState)
  | bucket (state : BucketState)
  | gauge (state : GaugeState)
  deriving DecidableEq

structure WindowEvaluation where
  windowId : QuotaWindowId
  evaluatedAt : OffsetDateTime
  state : WindowState
  blocking : BlockingStatus
  deriving DecidableEq

/-! ## Preparing the evidence -/

/-- How usage is sorted before it is deduplicated: by id, instant and value, not by unit. -/
def QuotaUsage.dedupKey (u : QuotaUsage) : Nat ×ₗ Int ×ₗ Nat :=
  toLex (u.id.uuid.toNat, toLex (u.occurredAt, u.amount.value))

/-- The first record of each id. -/
def dedupUsageById (usage : List QuotaUsage) : List QuotaUsage :=
  keepFirst QuotaUsage.id [] (usage.insertionSort (ByKey QuotaUsage.dedupKey))

def dedupHoldsById (holds : List OutstandingHold) : List OutstandingHold :=
  keepFirst OutstandingHold.id [] holds

/-- How usage is replayed: by instant, then id. -/
def QuotaUsage.replayKey (u : QuotaUsage) : Int ×ₗ Nat := toLex (u.occurredAt, u.id.uuid.toNat)

structure PreparedEvidence where
  usage : List QuotaUsage
  outstanding : Nat

def prepare (evidence : QuotaEvidence) (window : QuotaWindow) (now : OffsetDateTime) :
    PreparedEvidence where
  usage := ((dedupUsageById evidence.usage).filter fun u =>
    decide (u.amount.unit = window.unit ∧ u.occurredAt ≤ now)).insertionSort
      (ByKey QuotaUsage.replayKey)
  outstanding := Saturating.satSum u64Max (((dedupHoldsById evidence.holds).filter fun h =>
    decide (h.amount.unit = window.unit)).map fun h => h.amount.value)

/-! ## Evaluating -/

def remainingI64 (limit settled outstanding : Nat) : Int :=
  i64.clamp ((limit : Int) - settled - outstanding)

def statusOf (remaining : Int) : BlockingStatus :=
  if remaining ≤ 0 then .blocking else .notBlocking

/-- The settled total of the records of a period. -/
def settledOf (usage : List QuotaUsage) : Nat :=
  Saturating.satSum u64Max (usage.map fun u => u.amount.value)

def evaluatePeriod (window : QuotaWindow) (evidence : QuotaEvidence) (now : OffsetDateTime)
    (period : AlignedPeriod) (timeZone : TimeZone) (limit : Nat) : WindowState × BlockingStatus :=
  let bounds := fixedAlignedBounds now period timeZone
  let prepared := prepare evidence window now
  let inPeriod := prepared.usage.filter fun u =>
    decide (bounds.1 ≤ u.occurredAt ∧ u.occurredAt < bounds.2)
  let settled := settledOf inPeriod
  let remaining := remainingI64 limit settled prepared.outstanding
  let relief : Relief :=
    if limit ≤ prepared.outstanding then .afterOutstandingHoldsSettle
    else if remaining ≤ 0 then .at_ bounds.2
    else .notBlocking
  (.period ⟨bounds.1, bounds.2, limit, settled, prepared.outstanding, remaining, inPeriod.length,
    relief⟩, statusOf remaining)

def slidingLength (lengthSecs : Nat) : Int := lengthSecs * OffsetDateTime.nanosPerSecond

/-- Lets the oldest records age out until there is headroom. -/
def slidingRelief (length : Int) (limit settled outstanding : Nat) :
    Int → List QuotaUsage → Option OffsetDateTime
  | _, [] => none
  | cleared, u :: rest =>
      let cleared := cleared + u.amount.value
      if 0 < (limit : Int) - (settled - cleared) - outstanding then some (u.occurredAt + length)
      else slidingRelief length limit settled outstanding cleared rest

def evaluateSliding (window : QuotaWindow) (evidence : QuotaEvidence) (now : OffsetDateTime)
    (lengthSecs limit : Nat) : WindowState × BlockingStatus :=
  let windowStart : OffsetDateTime := now - slidingLength lengthSecs
  let prepared := prepare evidence window now
  let inWindow := prepared.usage.filter fun u =>
    decide (windowStart < u.occurredAt ∧ u.occurredAt ≤ now)
  let settled := settledOf inWindow
  let remaining := remainingI64 limit settled prepared.outstanding
  let relief : Relief :=
    if limit ≤ prepared.outstanding then .afterOutstandingHoldsSettle
    else if ¬ remaining ≤ 0 then .notBlocking
    else
      match slidingRelief (slidingLength lengthSecs) limit settled prepared.outstanding 0 inWindow with
      | some instant => .at_ instant
      | none => .unknown
  (.period ⟨windowStart, now, limit, settled, prepared.outstanding, remaining, inWindow.length,
    relief⟩, statusOf remaining)

/-- A bucket's arithmetic: the level is counted in thousandths of the refill period. -/
structure BucketRate where
  periodMs : Int
  capacityScaled : Int
  refillAmount : Int

/-- Refills for a while, up to the capacity. -/
def BucketRate.refill (rate : BucketRate) (level millis : Int) : Int :=
  min (i128.satAdd level (i128.satMul rate.refillAmount millis)) rate.capacityScaled

/-- One record of the replay. -/
def BucketRate.spend (rate : BucketRate) (at_ : Int × OffsetDateTime) (u : QuotaUsage) :
    Int × OffsetDateTime :=
  let refilled := rate.refill at_.1 (wholeMilliseconds (u.occurredAt - at_.2))
  (i128.satSub refilled (i128.satMul u.amount.value rate.periodMs), u.occurredAt)

def bucketRate (capacity refillAmount refillPeriodSecs : Nat) : BucketRate :=
  let periodMs := i128.satMul refillPeriodSecs 1000
  ⟨periodMs, i128.satMul capacity periodMs, refillAmount⟩

/-- The scaled level after the records and the time since. -/
def BucketRate.levelAt (rate : BucketRate) (levelAtAnchor : Nat) (anchoredAt now : OffsetDateTime)
    (usage : List QuotaUsage) : Int :=
  let last := usage.foldl rate.spend (i128.satMul levelAtAnchor rate.periodMs, anchoredAt)
  rate.refill last.1 (wholeMilliseconds (now - last.2))

/-- How long a bucket refills until it clears what is outstanding. -/
def BucketRate.millisNeeded (rate : BucketRate) (deficit : Int) : Int :=
  min (max ((i128.satSub (i128.satAdd deficit rate.refillAmount) 1).tdiv rate.refillAmount) 0)
    i64.high

/-- What is missing to one more than is outstanding. -/
def BucketRate.deficit (rate : BucketRate) (outstanding : Nat) (levelScaled : Int) : Int :=
  i128.satSub (i128.satMul (i128.satAdd outstanding 1) rate.periodMs) levelScaled

def BucketRate.relief (rate : BucketRate) (now : OffsetDateTime) (capacity outstanding : Nat)
    (levelScaled remaining : Int) : Relief :=
  if (capacity : Int) < i128.satAdd outstanding 1 then .afterOutstandingHoldsSettle
  else if ¬ remaining ≤ 0 then .notBlocking
  else if rate.deficit outstanding levelScaled ≤ 0 then .notBlocking
  else
    match now.checkedAddMillis (rate.millisNeeded (rate.deficit outstanding levelScaled)) with
    | some instant => .at_ instant
    | none => .unknown

def evaluateBucket (window : QuotaWindow) (evidence : QuotaEvidence) (now : OffsetDateTime)
    (capacity refillAmount refillPeriodSecs : Nat) (anchoredAt : OffsetDateTime)
    (levelAtAnchor : Nat) : WindowState × BlockingStatus :=
  let prepared := prepare evidence window now
  let inRange := prepared.usage.filter fun u =>
    decide (anchoredAt ≤ u.occurredAt ∧ u.occurredAt ≤ now)
  let rate := bucketRate capacity refillAmount refillPeriodSecs
  let levelScaled := rate.levelAt levelAtAnchor anchoredAt now inRange
  let level := levelScaled / rate.periodMs
  let remaining := i64.clamp (i128.satSub level prepared.outstanding)
  (.bucket ⟨capacity, i64.clamp level, prepared.outstanding, remaining, inRange.length,
    rate.relief now capacity prepared.outstanding levelScaled remaining⟩, statusOf remaining)

/-- Which of two readings of one instant is kept: a disclosed one, then the higher. -/
def readingRank : GaugeReading → Nat
  | .undisclosed => 0
  | .used amount _ => min (amount.value + 1) u64Max

def ProviderSnapshot.rank (s : ProviderSnapshot) : Int ×ₗ Nat :=
  toLex (s.observedAt, readingRank s.reading)

/-- The newest snapshot of the window; of equally good ones the last. -/
def latestSnapshot (window : QuotaWindow) (snapshots : List ProviderSnapshot)
    (now : OffsetDateTime) : Option ProviderSnapshot :=
  best (fun s kept => decide (kept.rank ≤ s.rank)) (snapshots.filter fun s =>
    decide (s.windowId = window.id ∧ s.observedAt ≤ now))

def gaugeFreshness (latest : ProviderSnapshot) (ageSecs maxStalenessSecs : Nat)
    (now : OffsetDateTime) : GaugeFreshness :=
  if latest.validUntil.any fun until_ => decide (until_ ≤ now) then .stale .pastValidUntil
  else if maxStalenessSecs < ageSecs then .stale .exceedsMaxStaleness
  else .fresh

/-- What a fresh reading says. -/
def readingStatus (unit : QuotaUnit) : GaugeReading → BlockingStatus
  | .undisclosed => .indeterminate .snapshotUndisclosed
  | .used amount limit =>
      if amount.unit ≠ unit then .indeterminate .snapshotUnitMismatch
      else if limit = none ∧ amount.unit ≠ .percent then .indeterminate .noDeclaredLimit
      else if limit.getD 10000 ≤ amount.value then .blocking
      else .notBlocking

def evaluateGauge (window : QuotaWindow) (evidence : QuotaEvidence) (now : OffsetDateTime)
    (maxStalenessSecs : Nat) : WindowState × BlockingStatus :=
  match latestSnapshot window evidence.snapshots now with
  | none => (.gauge ⟨.noSnapshot, none, none, .unknown⟩, .indeterminate .noSnapshot)
  | some latest =>
      let ageSecs := ((now - latest.observedAt).tdiv OffsetDateTime.nanosPerSecond).toNat
      let freshness := gaugeFreshness latest ageSecs maxStalenessSecs now
      let relief : Relief :=
        if freshness = .fresh then (latest.declaredResetAt.map Relief.providerDeclared).getD .unknown
        else .unknown
      let status : BlockingStatus :=
        match freshness with
        | .stale _ => .indeterminate .snapshotStale
        | .noSnapshot => .indeterminate .noSnapshot
        | .fresh => readingStatus window.unit latest.reading
      (.gauge ⟨freshness, some latest, some ageSecs, relief⟩, status)

def evaluateKind (window : QuotaWindow) (evidence : QuotaEvidence) (now : OffsetDateTime) :
    WindowState × BlockingStatus :=
  match window.kind with
  | .fixedAligned period timeZone limit =>
      evaluatePeriod window evidence now period timeZone limit
  | .sliding lengthSecs limit => evaluateSliding window evidence now lengthSecs limit
  | .refillBucket capacity refillAmount refillPeriodSecs anchoredAt levelAtAnchor =>
      evaluateBucket window evidence now capacity refillAmount refillPeriodSecs anchoredAt
        levelAtAnchor
  | .opaqueProviderSnapshot maxStalenessSecs => evaluateGauge window evidence now maxStalenessSecs

/-- Evaluates the window as of `now`; an expired entitlement is at best indeterminate. -/
def QuotaWindow.evaluate (window : QuotaWindow) (evidence : QuotaEvidence) (now : OffsetDateTime) :
    WindowEvaluation :=
  let result := evaluateKind window evidence now
  let status :=
    if window.scope.validUntil.any fun until_ => decide (until_ ≤ now) then
      result.2.mostRestrictive (.indeterminate .entitlementExpired)
    else result.2
  ⟨window.id, now, result.1, status⟩

end LibraGovernor
