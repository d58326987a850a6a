/-
# LibraGovernor.Domain.QuotaWire -- quota windows as JSON

A window is read from JSON in two steps: a permissive record whose parts each read themselves, and
`validated`, which every read goes through.  A time zone and a credit namespace read themselves
through their constructors; a wall-clock time does not, so that its hour and minute are any `u8`.

Code outside this repository is a parameter (`Crates`): the zone database, the RFC 3339 parser and
the default representation of instants, and the text of uuids.
-/
import LibraGovernor.Domain.Period
import LibraGovernor.Domain.QuotaWindow
import LibraGovernor.Domain.Uuid
import LibraGovernor.Lib.Serde

namespace LibraGovernor

namespace QuotaWire

open Serde

set_option autoImplicit false

/-! ## What other crates read and write -/

/-- An instant, and the offset it is given at, in seconds. -/
structure Stamp where
  instant : OffsetDateTime
  offset : Int
  deriving DecidableEq, Repr

structure Crates where
  /-- The zones of the bundled database. -/
  zone : String → Option TimeZone
  rfc3339 : String → Option Stamp
  /-- How an instant reads and writes itself. -/
  readInstant : Json → Option Stamp
  writeInstant : OffsetDateTime → Json
  uuid : String → Option Uuid

/-! ## Instants as text -/

/-- `YYYY-MM-DDTHH:MM:SS.mmm`. -/
def stampText (t : OffsetDateTime) : String :=
  let millis : Int := t / nanosPerMilli
  let day : Int := millis / 86400000
  let rest : Nat := (millis % 86400000).toNat
  let m := IanaTimeZone.monthOfDay day
  paddedInt 4 m.year ++ "-" ++ padded 2 m.month ++ "-" ++
    padded 2 (day - IanaTimeZone.daysToMonth m + 1).toNat ++ "T" ++ padded 2 (rest / 3600000) ++ ":" ++
    padded 2 (rest / 60000 % 60) ++ ":" ++ padded 2 (rest / 1000 % 60) ++ "." ++ padded 3 (rest % 1000)

/-- A final `Z` is spelled out. -/
def spellOffset (raw : String) : String :=
  match raw.toList.getLast? with
  | some 'Z' => String.ofList raw.toList.dropLast ++ "+00:00"
  | _ => raw

/-- `occurred_at_wire`. -/
def writeStamp (t : Stamp) : Json := .string (stampText t.instant ++ "Z")

def readStamp (c : Crates) (j : Json) : Option Stamp :=
  j.asStr.bind fun raw => c.rfc3339 (spellOffset raw)

/-- `optional_occurred_at_wire`. -/
def readOptionalStamp (c : Crates) : Option Json → Option (Option Stamp)
  | none => some none
  | some .null => some none
  | some j => (readStamp c j).map some

/-! ## The parts of a window -/

/-- A wall-clock time as it is read: no constructor runs. -/
structure Time where
  hour : Nat
  minute : Nat
  deriving DecidableEq, Repr

def Time.read (j : Json) : Option Time := do
  let field ← visit ["hour", "minute"] 2 j
  let hour ← (field "hour").bind u8
  let minute ← (field "minute").bind u8
  some ⟨hour, minute⟩

def Time.write (at_ : Time) : Json :=
  .object [("hour", count at_.hour), ("minute", count at_.minute)]

/-- What the constructor of a wall-clock time checks. -/
def Time.Valid (at_ : Time) : Prop := at_.hour < 24 ∧ at_.minute < 60

instance (at_ : Time) : Decidable at_.Valid := inferInstanceAs (Decidable (_ ∧ _))

def weekdayNames : List (String × ResetWeekday) :=
  [("monday", .monday), ("tuesday", .tuesday), ("wednesday", .wednesday), ("thursday", .thursday),
    ("friday", .friday), ("saturday", .saturday), ("sunday", .sunday)]

def readWeekday (j : Json) : Option ResetWeekday :=
  (unitVariant true j).bind fun name => Fields.get name weekdayNames

def weekdayName : ResetWeekday → String
  | .monday => "monday"
  | .tuesday => "tuesday"
  | .wednesday => "wednesday"
  | .thursday => "thursday"
  | .friday => "friday"
  | .saturday => "saturday"
  | .sunday => "sunday"

inductive Period where
  | hour
  | day (at_ : Time)
  | week (startsOn : ResetWeekday) (at_ : Time)
  deriving DecidableEq, Repr

def Period.read (j : Json) : Option Period := do
  let (every, rest) ← tagged true ["hour", "day", "week"] "every" j
  if every = "hour" then if noFields rest then some .hour else none
  else if every = "day" then
    let field ← visit ["at"] 1 rest
    let at_ ← (field "at").bind Time.read
    some (.day at_)
  else if every = "week" then
    let field ← visit ["starts_on", "at"] 2 rest
    let startsOn ← (field "starts_on").bind readWeekday
    let at_ ← (field "at").bind Time.read
    some (.week startsOn at_)
  else none

def Period.write : Period → Json
  | .hour => .object [("every", .string "hour")]
  | .day at_ => .object [("at", at_.write), ("every", .string "day")]
  | .week startsOn at_ =>
      .object [("at", at_.write), ("every", .string "week"), ("starts_on", .string (weekdayName startsOn))]

inductive Kind where
  | fixedAligned (period : Period) (timeZone : String) (limit : Nat)
  | sliding (lengthSecs limit : Nat)
  | refillBucket (capacity refillAmount refillPeriodSecs : Nat) (anchoredAt : Stamp)
      (levelAtAnchor : Nat)
  | opaqueProviderSnapshot (maxStalenessSecs : Nat)
  deriving DecidableEq, Repr

def Kind.isGauge : Kind → Bool
  | .opaqueProviderSnapshot _ => true
  | _ => false

/-- A zone name is read through its constructor. -/
def readZone (c : Crates) (j : Json) : Option String :=
  j.asStr.bind fun name => if (c.zone name).isSome then some name else none

def Kind.read (c : Crates) (j : Json) : Option Kind := do
  let (kind, rest) ← tagged false
    ["fixed_aligned", "sliding", "refill_bucket", "opaque_provider_snapshot"] "kind" j
  if kind = "fixed_aligned" then
    let field ← visit ["period", "time_zone", "limit"] 3 rest
    let period ← (field "period").bind Period.read
    let timeZone ← (field "time_zone").bind (readZone c)
    let limit ← (field "limit").bind Json.asU64
    some (.fixedAligned period timeZone limit)
  else if kind = "sliding" then
    let field ← visit ["length_secs", "limit"] 2 rest
    let lengthSecs ← (field "length_secs").bind Json.asU64
    let limit ← (field "limit").bind Json.asU64
    some (.sliding lengthSecs limit)
  else if kind = "refill_bucket" then
    let field ← visit ["capacity", "refill_amount", "refill_period_secs", "anchored_at",
      "level_at_anchor"] 5 rest
    let capacity ← (field "capacity").bind Json.asU64
    let refillAmount ← (field "refill_amount").bind Json.asU64
    let refillPeriodSecs ← (field "refill_period_secs").bind Json.asU64
    let anchoredAt ← (field "anchored_at").bind c.readInstant
    let levelAtAnchor ← (field "level_at_anchor").bind Json.asU64
    some (.refillBucket capacity refillAmount refillPeriodSecs anchoredAt levelAtAnchor)
  else if kind = "opaque_provider_snapshot" then
    let field ← visit ["max_staleness_secs"] 1 rest
    let maxStalenessSecs ← (field "max_staleness_secs").bind Json.asU64
    some (.opaqueProviderSnapshot maxStalenessSecs)
  else none

def Kind.write (c : Crates) : Kind → Json
  | .fixedAligned period timeZone limit =>
      .object [("kind", .string "fixed_aligned"), ("limit", count limit), ("period", period.write),
        ("time_zone", .string timeZone)]
  | .sliding lengthSecs limit =>
      .object [("kind", .string "sliding"), ("length_secs", count lengthSecs), ("limit", count limit)]
  | .refillBucket capacity refillAmount refillPeriodSecs anchoredAt levelAtAnchor =>
      .object [("anchored_at", c.writeInstant anchoredAt.instant), ("capacity", count capacity),
        ("kind", .string "refill_bucket"), ("level_at_anchor", count levelAtAnchor),
        ("refill_amount", count refillAmount), ("refill_period_secs", count refillPeriodSecs)]
  | .opaqueProviderSnapshot maxStalenessSecs =>
      .object [("kind", .string "opaque_provider_snapshot"), ("max_staleness_secs", count maxStalenessSecs)]

inductive Subject where
  | principal (id : String)
  | sharedPool (id : String)
  | provider (name : String) (account : Option String)
  deriving DecidableEq, Repr

def Subject.read (j : Json) : Option Subject := do
  let (kind, content) ← adjacent "kind" "id" j
  if kind = "principal" then (content.bind Json.asStr).map .principal
  else if kind = "shared_pool" then (content.bind Json.asStr).map .sharedPool
  else if kind = "provider" then
    let field ← content.bind (visit ["provider", "account"] 2)
    let name ← (field "provider").bind Json.asStr
    let account ← optionalStr (field "account")
    some (.provider name account)
  else none

def Subject.write : Subject → Json
  | .principal id => .object [("id", .string id), ("kind", .string "principal")]
  | .sharedPool id => .object [("id", .string id), ("kind", .string "shared_pool")]
  | .provider name account =>
      .object [("id", .object [("account", (account.map Json.string).getD .null),
        ("provider", .string name)]), ("kind", .string "provider")]

inductive EntitlementSource where
  | operatorConfigured
  | providerDeclared
  | importedSnapshot
  deriving DecidableEq, Repr

def sourceNames : List (String × EntitlementSource) :=
  [("operator_configured", .operatorConfigured), ("provider_declared", .providerDeclared),
    ("imported_snapshot", .importedSnapshot)]

def sourceName : EntitlementSource → String
  | .operatorConfigured => "operator_configured"
  | .providerDeclared => "provider_declared"
  | .importedSnapshot => "imported_snapshot"

def confidenceNames : List (String × Confidence) :=
  [("low", .low), ("medium", .medium), ("high", .high)]

def confidenceName : Confidence → String
  | .low => "low"
  | .medium => "medium"
  | .high => "high"

structure Scope where
  subject : Subject
  source : EntitlementSource
  confidence : Confidence
  observedAt : Stamp
  validUntil : Option Stamp
  deriving DecidableEq, Repr

def Scope.read (c : Crates) (j : Json) : Option Scope := do
  let field ← visit ["subject", "source", "confidence", "observed_at", "valid_until"] 4 j
  let subject ← (field "subject").bind Subject.read
  let source ← ((field "source").bind (unitVariant false)).bind fun name => Fields.get name sourceNames
  let confidence ←
    ((field "confidence").bind (unitVariant false)).bind fun name => Fields.get name confidenceNames
  let observedAt ← (field "observed_at").bind (readStamp c)
  let validUntil ← readOptionalStamp c (field "valid_until")
  some ⟨subject, source, confidence, observedAt, validUntil⟩

def Scope.write (s : Scope) : Json :=
  .object ([("confidence", .string (confidenceName s.confidence)), ("observed_at", writeStamp s.observedAt),
    ("source", .string (sourceName s.source)), ("subject", s.subject.write)] ++
      (s.validUntil.map fun until_ => ("valid_until", writeStamp until_)).toList)

/-- A credit namespace is read through its constructor. -/
def readUnit (j : Json) : Option QuotaUnit := do
  let (unit, content) ← adjacent "unit" "namespace" j
  if unit = "opaque_credit" then
    let slug ← content.bind Json.asStr
    if isValidSlug slug then some (.opaqueCredit slug) else none
  else if noContent content then
    if unit = "usd_cents" then some .usdCents
    else if unit = "tokens" then some .tokens
    else if unit = "requests" then some .requests
    else if unit = "percent" then some .percent
    else none
  else none

def writeUnit : QuotaUnit → Json
  | .usdCents => .object [("unit", .string "usd_cents")]
  | .tokens => .object [("unit", .string "tokens")]
  | .requests => .object [("unit", .string "requests")]
  | .opaqueCredit slug => .object [("namespace", .string slug), ("unit", .string "opaque_credit")]
  | .percent => .object [("unit", .string "percent")]

/-! ## Windows -/

def schemaVersion : String := "quota-window-v1"

/-- The record a window is read from and written to. -/
structure Wire where
  schemaVersion : String
  id : Uuid
  scope : Scope
  unit : QuotaUnit
  kind : Kind
  deriving DecidableEq, Repr

def Wire.read (c : Crates) (j : Json) : Option Wire := do
  let field ← visit ["schema_version", "id", "scope", "unit", "kind"] 5 j
  let version ← (field "schema_version").bind Json.asStr
  let id ← ((field "id").bind Json.asStr).bind c.uuid
  let scope ← (field "scope").bind (Scope.read c)
  let unit ← (field "unit").bind readUnit
  let kind ← (field "kind").bind (Kind.read c)
  some ⟨version, id, scope, unit, kind⟩

def Wire.write (c : Crates) (w : Wire) : Json :=
  .object [("id", .string w.id.text), ("kind", w.kind.write c),
    ("schema_version", .string w.schemaVersion), ("scope", w.scope.write), ("unit", writeUnit w.unit)]

inductive Error where
  | window (error : QuotaWindowError)
  | notUtc (offset : Int)
  | missingSchemaVersion
  | unrecognized
  deriving DecidableEq, Repr

/-- `normalize_utc_ms`. -/
def normalized (t : Stamp) : Except Error Stamp :=
  if t.offset = 0 then .ok ⟨normalizeUtcMs t.instant, 0⟩ else .error (.notUtc t.offset)

def normalizedOptional : Option Stamp → Except Error (Option Stamp)
  | none => .ok none
  | some t => (normalized t).map some

def Kind.validated : Kind → Except Error Kind
  | .fixedAligned period timeZone limit => .ok (.fixedAligned period timeZone limit)
  | .sliding lengthSecs limit =>
      if lengthSecs = 0 then .error (.window (.zeroField "length_secs"))
      else if maxSlidingLengthSecs < lengthSecs then
        .error (.window (.fieldOutOfRange "length_secs" lengthSecs maxSlidingLengthSecs))
      else .ok (.sliding lengthSecs limit)
  | .refillBucket capacity refillAmount refillPeriodSecs anchoredAt levelAtAnchor =>
      if capacity = 0 then .error (.window (.zeroField "capacity"))
      else if refillAmount = 0 then .error (.window (.zeroField "refill_amount"))
      else if refillPeriodSecs = 0 then .error (.window (.zeroField "refill_period_secs"))
      else if capacity < levelAtAnchor then
        .error (.window (.levelExceedsCapacity levelAtAnchor capacity))
      else do
        let anchoredAt ← normalized anchoredAt
        .ok (.refillBucket capacity refillAmount refillPeriodSecs anchoredAt levelAtAnchor)
  | .opaqueProviderSnapshot maxStalenessSecs =>
      if maxStalenessSecs = 0 then .error (.window (.zeroField "max_staleness_secs"))
      else .ok (.opaqueProviderSnapshot maxStalenessSecs)

/-- `QuotaWindow::validated`. -/
def Wire.validated (w : Wire) : Except Error Wire :=
  if w.unit = .percent ∧ w.kind.isGauge = false then .error (.window .percentOnNonGaugeWindow)
  else do
    let observedAt ← normalized w.scope.observedAt
    let validUntil ← normalizedOptional w.scope.validUntil
    let kind ← w.kind.validated
    .ok ⟨QuotaWire.schemaVersion, w.id, { w.scope with observedAt, validUntil }, w.unit, kind⟩

/-- `TryFrom<QuotaWindowWire>`. -/
def Wire.tryInto (w : Wire) : Except Error Wire :=
  if w.schemaVersion ≠ QuotaWire.schemaVersion then .error .unrecognized else w.validated

/-- A window read from JSON. -/
def fromValue (c : Crates) (j : Json) : Option Wire := (Wire.read c j).bind fun w => w.tryInto.toOption

/-- A window written to JSON. -/
def toValue (c : Crates) (w : Wire) : Json := w.write c

inductive Decoded where
  | current (window : Wire)
  | unsupported (schemaVersion : String) (raw : Json)
  deriving DecidableEq, Repr

def decodeQuotaWindow (c : Crates) (raw : Json) : Except Error Decoded :=
  match (raw.get "schema_version").bind Json.asStr with
  | none => .error .missingSchemaVersion
  | some version =>
      if version ≠ schemaVersion then .ok (.unsupported version raw)
      else
        match fromValue c raw with
        | some window => .ok (.current window)
        | none => .error .unrecognized

end QuotaWire

end LibraGovernor
