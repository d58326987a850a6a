/-
# LibraGovernor.Usage.Priced -- pricing what a transcript records

A transcript is read backwards, newest line first, within a byte bound.  A parent window
takes the usage records of the session that are later than a mark and within a horizon,
and whose message is not counted yet; a whole file takes every record of its agent.
Records of one message are merged field by field, each message is priced by the gateway's
own table, and the sum is rounded up to a whole cent once.

What parsing a line gives is the line itself (`PricedLine.record`).
-/
import LibraGovernor.Domain.Period
import LibraGovernor.Gateway.Pricing
import Mathlib.Data.List.Sort

namespace LibraGovernor

open Relational

set_option autoImplicit false

/-! ## Lines -/

/-- A parsed timestamp: the instant, and the year in its own offset. -/
structure Stamp where
  at_ : OffsetDateTime
  year : Int
  deriving DecidableEq, Repr

/-- `Ord::max`: the second of two equal instants. -/
def Stamp.max (a b : Stamp) : Stamp := if b.at_ < a.at_ then a else b

/-- The message of a record.  `usage` is absent, present but not counts, or the counts. -/
structure PricedMessage where
  id : Option String
  model : Option String
  usage : Option (Option ObservedUsage)
  deriving DecidableEq, Repr

structure PricedRecord where
  assistant : Bool
  timestamp : Option Stamp
  session : Option String
  sidechain : Bool
  agent : Option String
  message : Option PricedMessage
  deriving DecidableEq, Repr

/-- One line: its length, and its record unless it is empty or not JSON. -/
structure PricedLine where
  bytes : Nat
  record : Option PricedRecord
  deriving DecidableEq, Repr

/-! ## Reading backwards -/

inductive UsageUnavailable where
  | noTranscriptPath
  | unreadable
  | scanCapReached
  | noUsageInWindow
  | turnIncomplete
  | inconsistent
  deriving DecidableEq, Repr

/-- Bytes a budget read may scan. -/
def budgetScanCapBytes : Nat := 32 * 1024 * 1024

/-- Visits the lines newest first.  A line is reached when it and the newline before it
are within the budget; the oldest line has no newline before it.  `none` is a scan that
ran out of budget. -/
def scanLinesBackward {α : Type} (visit : α → PricedLine → α × Bool) :
    Nat → List PricedLine → α → Option α
  | _, [], acc => some acc
  | budget, line :: older, acc =>
      if line.bytes + (if older.isEmpty then 0 else 1) ≤ budget then
        let step := visit acc line
        if step.2 then some step.1
        else scanLinesBackward visit (budget - (line.bytes + 1)) older step.1
      else none

/-! ## What a read takes -/

def missingModel : String := "<missing>"

def nanosPerMinute : Int := 60 * OffsetDateTime.nanosPerSecond

/-- How far behind the mark a record is before the scan stops. -/
def reorderSlack : Int := 10 * nanosPerMinute

/-- How far ahead of the clock a record may be stamped. -/
def futureSkew : Int := 5 * nanosPerMinute

inductive ReadMode where
  | parentWindow (after : OffsetDateTime) (countedIds : List String) (horizon : OffsetDateTime)
  | wholeFile (agentId : Option String)
  deriving DecidableEq, Repr

def ObservedUsage.isZero (u : ObservedUsage) : Bool :=
  decide (u.inputTokens = 0 ∧ u.cacheCreationInputTokens = 0 ∧ u.cacheReadInputTokens = 0 ∧
    u.outputTokens = 0)

def CacheWriteSplit.mergeMax : CacheWriteSplit → CacheWriteSplit → CacheWriteSplit
  | .malformed, _ => .malformed
  | _, .malformed => .malformed
  | .absent, other => other
  | other, .absent => other
  | .split a5 a1, .split b5 b1 => .split (Max.max a5 b5) (Max.max a1 b1)

/-- The per-field maximum of two lines of one message. -/
def mergeMax (a b : ObservedUsage) : ObservedUsage where
  inputTokens := Max.max a.inputTokens b.inputTokens
  cacheCreationInputTokens := Max.max a.cacheCreationInputTokens b.cacheCreationInputTokens
  cacheReadInputTokens := Max.max a.cacheReadInputTokens b.cacheReadInputTokens
  outputTokens := Max.max a.outputTokens b.outputTokens
  cacheCreationSplit := a.cacheCreationSplit.mergeMax b.cacheCreationSplit
  speed := if b.speed = .absent then a.speed else b.speed
  inferenceGeo := if b.inferenceGeo = .absent then a.inferenceGeo else b.inferenceGeo

/-- A request to price: its usage and its model. -/
abbrev PricedRequest := ObservedUsage × String

/-- Everything a scan accumulates. -/
structure Accumulator where
  byId : List (String × PricedRequest) := []
  unkeyed : List PricedRequest := []
  foreign : Nat := 0
  unverified : Bool := false
  untimed : Bool := false
  malformed : Bool := false
  future : Bool := false
  lastEventTime : Option Stamp := none
  deriving DecidableEq, Repr

namespace Accumulator

def seen (acc : Accumulator) (timestamp : Option Stamp) : Accumulator :=
  match timestamp with
  | none => acc
  | some ts =>
      { acc with
        lastEventTime := some (match acc.lastEventTime with | none => ts | some t => t.max ts) }

/-- Adds one line of a message to its entry. -/
def mergeInto (id : String) (usage : ObservedUsage) (model : String) :
    List (String × PricedRequest) → List (String × PricedRequest)
  | [] => [(id, usage, model)]
  | (key, entry) :: rest =>
      if key = id then (key, mergeMax entry.1 usage, model) :: rest
      else (key, entry) :: mergeInto id usage model rest

def take (acc : Accumulator) (id : Option String) (usage : ObservedUsage) (model : String) :
    Accumulator :=
  match id with
  | some id => { acc with byId := mergeInto id usage model acc.byId }
  | none => { acc with unkeyed := acc.unkeyed ++ [(usage, model)] }

end Accumulator

def modelOf (message : PricedMessage) : String :=
  match message.model with
  | some model => if isBlank model then missingModel else model
  | none => missingModel

/-- A usage record of the session: past the mark and not of a counted message. -/
def countRecord (acc : Accumulator) (mode : ReadMode) (record : PricedRecord)
    (message : PricedMessage) (usage : Option ObservedUsage) : Accumulator :=
  let acc := match mode, record.timestamp with
    | .parentWindow _ _ _, none => { acc with untimed := true }
    | _, _ => acc
  let acc := acc.seen record.timestamp
  match usage with
  | none => { acc with malformed := true }
  | some tiers => acc.take message.id tiers (modelOf message)

/-- Whether a usage record belongs to the file's own agent. -/
def ReadMode.foreignAgent (mode : ReadMode) (record : PricedRecord) : Bool :=
  match mode, record.agent with
  | .wholeFile (some expected), some agent => decide (agent ≠ expected)
  | _, _ => false

def ReadMode.pastHorizon (mode : ReadMode) (record : PricedRecord) : Bool :=
  match mode, record.timestamp with
  | .parentWindow _ _ horizon, some ts => decide (horizon < ts.at_)
  | _, _ => false

def ReadMode.counted (mode : ReadMode) (message : PricedMessage) : Bool :=
  match mode, message.id with
  | .parentWindow _ countedIds _, some id => decide (id ∈ countedIds)
  | _, _ => false

def ReadMode.dropsSidechain : ReadMode → Bool
  | .parentWindow _ _ _ => true
  | .wholeFile _ => false

/-- A usage record whose message is not counted yet: bound to the session, then to the
horizon. -/
def bindRecord (acc : Accumulator) (mode : ReadMode) (expectedSession : String)
    (record : PricedRecord) (message : PricedMessage) (usage : Option ObservedUsage) :
    Accumulator :=
  if record.session.any (fun session => decide (session ≠ expectedSession)) then
    { acc with foreign := acc.foreign + 1 }
  else
  let acc := if record.session.isNone then { acc with unverified := true } else acc
  if mode.foreignAgent record then { acc with foreign := acc.foreign + 1 }
  else if mode.pastHorizon record then { acc with future := true }
  else countRecord acc mode record message usage

/-- A record past the mark. -/
def visitRecord (acc : Accumulator) (mode : ReadMode) (expectedSession : String)
    (record : PricedRecord) : Accumulator :=
  if record.assistant = false then acc
  else if record.sidechain && mode.dropsSidechain then acc
  else
  match record.message with
  | none => acc
  | some message =>
  match message.usage with
  | none => acc
  | some usage =>
  if mode.counted message then acc
  else bindRecord acc mode expectedSession record message usage

/-- Whether a record is at or behind the mark, and then whether the scan stops there. -/
def ReadMode.behind (mode : ReadMode) (record : PricedRecord) : Option Bool :=
  match mode, record.timestamp with
  | .parentWindow after _ _, some ts =>
      if ts.at_ ≤ after then some (decide (ts.at_ < after - reorderSlack)) else none
  | _, _ => none

def visitLine (mode : ReadMode) (expectedSession : String) (acc : Accumulator) (line : PricedLine) :
    Accumulator × Bool :=
  match line.record with
  | none => (acc, false)
  | some record =>
  match mode.behind record with
  | some stop => (acc, stop)
  | none => (visitRecord acc mode expectedSession record, false)

/-! ## What a read gives -/

/-- A priced window: its cost, its newest record and the messages it counted. -/
structure PricedWindow where
  cents : Nat
  lastEventTime : Option Stamp
  messageIds : List String
  cents_le : cents ≤ u64Max

inductive PricedObservation where
  | priced (window : PricedWindow)
  | unpricedModels
  | sessionMismatch
  | futureTimestamp (pricedCents : Option Nat) (newestInBound : Option Stamp)
      (messageIds : List String)
  | sessionUnverified
  | malformedUsage
  | unavailable (reason : UsageUnavailable)

inductive WindowPriceError where
  | unpriced
  | unmeasurable
  deriving DecidableEq, Repr

/-- One record's share: its price, or what is wrong with it. -/
def requestPico (table : PricingTable) (request : PricedRequest) : Except RequestPriceError Nat :=
  if request.1.isZero then .ok 0 else table.requestCostPico request.2 request.1

def picoPerCent : Nat := 10000000000

/-- The cost of the records in whole cents; an unpriced model outranks a contradictory
report. -/
def recordsCostCents (records : List PricedRequest) (table : PricingTable) :
    Except WindowPriceError Nat :=
  let costs := records.map (requestPico table)
  if costs.any (fun cost => decide (cost = .error .unpriced)) then .error .unpriced
  else if costs.any (fun cost => decide (cost = .error .unmeasurable)) then .error .unmeasurable
  else
    let pico := costs.foldl (fun total cost =>
      match cost with
      | .ok p => min (total + p) u128Max
      | .error _ => total) 0
    .ok (min (pico ⌈/⌉ picoPerCent) u64Max)

theorem recordsCostCents_le {records : List PricedRequest} {table : PricingTable} {cents : Nat}
    (priced : recordsCostCents records table = .ok cents) : cents ≤ u64Max := by
  simp only [recordsCostCents] at priced
  split at priced
  · cases priced
  split at priced
  · cases priced
  · cases priced
    exact Nat.min_le_right _ _

/-- The requests of a scan, one for each message. -/
def Accumulator.requests (acc : Accumulator) : List PricedRequest :=
  acc.unkeyed ++ acc.byId.map Prod.snd

def Accumulator.messageIds (acc : Accumulator) : List String :=
  (acc.byId.map Prod.fst).insertionSort (fun a b => a ≤ b)

def finish (acc : Accumulator) (table : PricingTable) : PricedObservation :=
  if acc.unverified then .sessionUnverified
  else if acc.malformed then .malformedUsage
  else if acc.untimed then .unavailable .inconsistent
  else if acc.future then
    .futureTimestamp
      (if acc.requests.isEmpty then none else (recordsCostCents acc.requests table).toOption)
      acc.lastEventTime acc.messageIds
  else if acc.requests.isEmpty then
    if 0 < acc.foreign then .sessionMismatch else .unavailable .noUsageInWindow
  else
    match priced : recordsCostCents acc.requests table with
    | .ok cents => .priced ⟨cents, acc.lastEventTime, acc.messageIds, recordsCostCents_le priced⟩
    | .error .unpriced => .unpricedModels
    | .error .unmeasurable => .malformedUsage

/-- Reads a file, given by its lines from the oldest, and prices what it records for a
session. -/
def observePriced (file : Except UsageUnavailable (List PricedLine)) (mode : ReadMode)
    (expectedSession : String) (table : PricingTable) : PricedObservation :=
  match file with
  | .error reason => .unavailable reason
  | .ok lines =>
  match scanLinesBackward (visitLine mode expectedSession) budgetScanCapBytes lines.reverse {} with
  | none => .unavailable .scanCapReached
  | some acc => finish acc table

end LibraGovernor
