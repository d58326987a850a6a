/-
# LibraGovernor.Gateway.UsageTap -- reading the usage out of a response that is relayed

The gateway relays a response as it arrives and feeds a copy to an accumulator, which keeps one
unfinished line of at most 64 KiB.  A longer line is dropped up to its newline.  The counters a frame
reports replace those reported before, since the provider's counts are running totals.

What the accumulator knows is a function of the bytes alone, however they are cut into chunks
(`tap_reads_lines`): it has read the terminated lines that are short enough, in order.  The relay ends
in four ways and settles from the same reading in each (`pump_facts`); of a body that is not a stream
it keeps the frames that fit, so what it reads of a longer one does depend on the frames.

What decoding a frame gives is a parameter.
-/
import LibraGovernor.Gateway.Pricing
import LibraGovernor.Lib.Json
import LibraGovernor.Lib.Split
import Mathlib.Data.List.DropRight

namespace LibraGovernor

set_option autoImplicit false

abbrev Bytes := List UInt8

/-! ## Frames -/

structure UsageFields where
  inputTokens : Option Nat
  cacheCreationInputTokens : Option Nat
  cacheReadInputTokens : Option Nat
  outputTokens : Option Nat
  cacheCreation : Option Json
  speed : Option Json
  inferenceGeo : Option Json
  deriving Repr

/-- `messageUsage` is the usage inside `message`, if there is one. -/
structure StreamFrame where
  frameType : Option String
  messageUsage : Option UsageFields
  usage : Option UsageFields
  deriving Repr

def cacheCount (object : Json) (key : String) : Option Nat :=
  match object.get key with
  | none => some 0
  | some .null => some 0
  | some value => value.asU64

def parseCacheSplit (value : Json) : CacheWriteSplit :=
  match value with
  | .object _ =>
      match cacheCount value "ephemeral_5m_input_tokens", cacheCount value "ephemeral_1h_input_tokens" with
      | some fiveMinute, some oneHour => .split fiveMinute oneHour
      | _, _ => .malformed
  | _ => .malformed

def SpeedReport.fromJson : Option Json → SpeedReport
  | none => .absent
  | some .null => .absent
  | some (.string s) => if s = "standard" then .standard else if s = "fast" then .fast else .unrecognised
  | some _ => .unrecognised

def GeoReport.fromJson : Option Json → GeoReport
  | none => .absent
  | some .null => .absent
  | some (.string s) => if s = "global" then .global else if s = "us" then .us else .other
  | some _ => .other

/-! ## The accumulator -/

def maxLineBytes : Nat := 64 * 1024

def isNewline (byte : UInt8) : Bool := byte == 10

def isAsciiWhitespace (byte : UInt8) : Bool :=
  byte == 32 || byte == 9 || byte == 10 || byte == 12 || byte == 13

def trimAscii (bytes : Bytes) : Bytes :=
  (bytes.dropWhile isAsciiWhitespace).rdropWhile isAsciiWhitespace

/-- `data:` -/
def dataField : Bytes := [100, 97, 116, 97, 58]

/-- `[DONE]` -/
def donePayload : Bytes := [91, 68, 79, 78, 69, 93]

def ObservedUsage.default : ObservedUsage := ⟨0, 0, 0, 0, .absent, .absent, .absent⟩

structure UsageAccumulator where
  line : Bytes
  resyncing : Bool
  usage : ObservedUsage
  sawUsage : Bool
  sawMessageStart : Bool
  sawMessageStop : Bool
  deriving Repr

/-- Any of the counters that make a report of usage. -/
def UsageFields.counts (fields : UsageFields) : Bool :=
  fields.inputTokens.isSome || fields.cacheCreationInputTokens.isSome ||
    fields.cacheReadInputTokens.isSome || fields.outputTokens.isSome

namespace UsageAccumulator

def new : UsageAccumulator := ⟨[], false, .default, false, false, false⟩

/-- Every counter that is present replaces the stored one. -/
def applyUsage (acc : UsageAccumulator) (fields : UsageFields) : UsageAccumulator :=
  { acc with
    usage :=
      { inputTokens := fields.inputTokens.getD acc.usage.inputTokens
        cacheCreationInputTokens :=
          fields.cacheCreationInputTokens.getD acc.usage.cacheCreationInputTokens
        cacheReadInputTokens := fields.cacheReadInputTokens.getD acc.usage.cacheReadInputTokens
        outputTokens := fields.outputTokens.getD acc.usage.outputTokens
        cacheCreationSplit := (fields.cacheCreation.map parseCacheSplit).getD acc.usage.cacheCreationSplit
        speed := if fields.speed.isSome then .fromJson fields.speed else acc.usage.speed
        inferenceGeo :=
          if fields.inferenceGeo.isSome then .fromJson fields.inferenceGeo else acc.usage.inferenceGeo }
    sawUsage := acc.sawUsage || fields.counts }

/-- The usage a frame reports: that of its message before its own. -/
def reported (frame : StreamFrame) : Option UsageFields := frame.messageUsage.or frame.usage

def applyFrame (acc : UsageAccumulator) (frame : StreamFrame) : UsageAccumulator :=
  let acc :=
    { acc with
      sawMessageStart := acc.sawMessageStart || decide (frame.frameType = some "message_start")
      sawMessageStop := acc.sawMessageStop || decide (frame.frameType = some "message_stop") }
  match reported frame with
  | some fields => acc.applyUsage fields
  | none => acc

variable (parse : Bytes → Option StreamFrame)

/-- The frame of a line: only a `data:` line carries one. -/
def frameOf (line : Bytes) : Option StreamFrame :=
  if dataField.isPrefixOf line then
    let payload := trimAscii (line.drop dataField.length)
    if payload = [] ∨ payload = donePayload then none else parse payload
  else none

def consumeLine (acc : UsageAccumulator) (line : Bytes) : UsageAccumulator :=
  match frameOf parse line with
  | some frame => acc.applyFrame frame
  | none => acc

def feedByte (acc : UsageAccumulator) (byte : UInt8) : UsageAccumulator :=
  if isNewline byte then
    if acc.resyncing then { acc with resyncing := false, line := [] }
    else consumeLine parse { acc with line := [] } acc.line
  else if acc.resyncing then acc
  else if maxLineBytes ≤ acc.line.length then { acc with line := [], resyncing := true }
  else { acc with line := acc.line ++ [byte] }

def feed (acc : UsageAccumulator) (chunk : Bytes) : UsageAccumulator := chunk.foldl (feedByte parse) acc

def feedWholeBody (acc : UsageAccumulator) (body : Bytes) : UsageAccumulator :=
  match parse body with
  | some frame => acc.applyFrame frame
  | none => acc

def observed (acc : UsageAccumulator) : Option ObservedUsage :=
  if acc.sawUsage then some acc.usage else none

def completedCleanly (acc : UsageAccumulator) : Bool := acc.sawMessageStop

end UsageAccumulator

/-! ## What frames report -/

/-- The value a list of reports gives last. -/
def lastReported {β : Type} (value : UsageFields → Option β) (reports : List UsageFields) : Option β :=
  (reports.filterMap value).getLast?

/-- Each counter as it was last reported. -/
def reportedUsage (reports : List UsageFields) : ObservedUsage where
  inputTokens := (lastReported UsageFields.inputTokens reports).getD 0
  cacheCreationInputTokens := (lastReported UsageFields.cacheCreationInputTokens reports).getD 0
  cacheReadInputTokens := (lastReported UsageFields.cacheReadInputTokens reports).getD 0
  outputTokens := (lastReported UsageFields.outputTokens reports).getD 0
  cacheCreationSplit := ((lastReported UsageFields.cacheCreation reports).map parseCacheSplit).getD .absent
  speed := .fromJson (lastReported UsageFields.speed reports)
  inferenceGeo := .fromJson (lastReported UsageFields.inferenceGeo reports)

/-- The facts a finished response is settled from. -/
structure TapFacts where
  observed : Option ObservedUsage
  completedCleanly : Bool
  sawMessageStart : Bool
  deriving DecidableEq, Repr

def UsageAccumulator.facts (acc : UsageAccumulator) : TapFacts :=
  ⟨acc.observed, acc.completedCleanly, acc.sawMessageStart⟩

/-- What a list of frames says. -/
def factsOf (frames : List StreamFrame) : TapFacts where
  observed :=
    let reports := frames.filterMap UsageAccumulator.reported
    if reports.any UsageFields.counts then some (reportedUsage reports) else none
  completedCleanly := frames.any fun frame => decide (frame.frameType = some "message_stop")
  sawMessageStart := frames.any fun frame => decide (frame.frameType = some "message_start")

/-- The frames of a streamed body: those of its terminated lines of at most `maxLineBytes`. -/
def framesIn (parse : Bytes → Option StreamFrame) (body : Bytes) : List StreamFrame :=
  ((body.terminated isNewline).filter fun line => decide (line.length ≤ maxLineBytes)).filterMap
    (UsageAccumulator.frameOf parse)

theorem lastReported_concat {β : Type} (value : UsageFields → Option β) (reports : List UsageFields)
    (fields : UsageFields) : lastReported value (reports ++ [fields]) =
      (value fields).or (lastReported value reports) := by
  rw [lastReported, List.filterMap_append, List.getLast?_append]
  cases some_ : value fields with
  | none => simp [some_, lastReported]
  | some v => simp [some_]

namespace UsageAccumulator

theorem applyUsage_reported (acc : UsageAccumulator) (reports : List UsageFields) (fields : UsageFields)
    (usage : acc.usage = reportedUsage reports) :
    (acc.applyUsage fields).usage = reportedUsage (reports ++ [fields]) := by
  simp only [applyUsage, reportedUsage, usage, lastReported_concat, ObservedUsage.mk.injEq]
  refine ⟨?_, ?_, ?_, ?_, ?_, ?_, ?_⟩
  · cases fields.inputTokens <;> rfl
  · cases fields.cacheCreationInputTokens <;> rfl
  · cases fields.cacheReadInputTokens <;> rfl
  · cases fields.outputTokens <;> rfl
  · cases fields.cacheCreation <;> rfl
  · cases fields.speed <;> rfl
  · cases fields.inferenceGeo <;> rfl

/-- The frames applied so far, and nothing else, are what the accumulator knows. -/
structure Knows (acc : UsageAccumulator) (frames : List StreamFrame) : Prop where
  usage : acc.usage = reportedUsage (frames.filterMap reported)
  sawUsage : acc.sawUsage = (frames.filterMap reported).any UsageFields.counts
  started : acc.sawMessageStart = (factsOf frames).sawMessageStart
  stopped : acc.sawMessageStop = (factsOf frames).completedCleanly

theorem Knows.new : Knows new [] := ⟨rfl, rfl, rfl, rfl⟩

theorem Knows.buffered {acc : UsageAccumulator} {frames : List StreamFrame} (knows : acc.Knows frames)
    (line : Bytes) (resyncing : Bool) : { acc with line := line, resyncing := resyncing }.Knows frames :=
  ⟨knows.usage, knows.sawUsage, knows.started, knows.stopped⟩

theorem Knows.applyFrame {acc : UsageAccumulator} {frames : List StreamFrame} (knows : acc.Knows frames)
    (frame : StreamFrame) : (acc.applyFrame frame).Knows (frames ++ [frame]) := by
  have typed (word : String) : (frames ++ [frame]).any (fun frame => decide (frame.frameType = some word)) =
      (frames.any (fun frame => decide (frame.frameType = some word)) ||
        decide (frame.frameType = some word)) := by
    simp
  unfold UsageAccumulator.applyFrame
  cases says_ : reported frame with
  | none =>
      constructor
      · simpa [says_] using knows.usage
      · simpa [says_] using knows.sawUsage
      · simp only [knows.started, factsOf, typed]
      · simp only [knows.stopped, factsOf, typed]
  | some fields =>
      have more : (frames ++ [frame]).filterMap reported = frames.filterMap reported ++ [fields] := by
        simp [says_]
      constructor
      · rw [more]
        exact applyUsage_reported _ _ _ knows.usage
      · rw [more, List.any_append, ← knows.sawUsage]
        simp [applyUsage]
      · simp only [applyUsage, knows.started, factsOf, typed]
      · simp only [applyUsage, knows.stopped, factsOf, typed]

theorem Knows.facts {acc : UsageAccumulator} {frames : List StreamFrame} (knows : acc.Knows frames) :
    acc.facts = factsOf frames := by
  rw [UsageAccumulator.facts, observed, completedCleanly, knows.usage, knows.sawUsage, knows.started,
    knows.stopped]
  rfl

end UsageAccumulator

/-! ## Lines, however they arrive -/

section Reading

variable {parse : Bytes → Option StreamFrame} {acc : UsageAccumulator} {body : Bytes}

namespace UsageAccumulator

/-- What the accumulator is once it was fed a body: the frames of its lines are applied, and the line
that is not terminated is held unless it is too long. -/
structure Reads (parse : Bytes → Option StreamFrame) (acc : UsageAccumulator) (body : Bytes) : Prop where
  knows : acc.Knows (framesIn parse body)
  resyncing : acc.resyncing = decide (maxLineBytes < (body.unterminated isNewline).length)
  line : acc.line = if acc.resyncing then [] else body.unterminated isNewline

theorem Reads.new : Reads parse new [] := ⟨.new, rfl, rfl⟩

theorem framesIn_newline {byte : UInt8} (newline : isNewline byte = true) (body : Bytes) :
    framesIn parse (body ++ [byte]) = framesIn parse body ++
      if maxLineBytes < (body.unterminated isNewline).length then []
      else (frameOf parse (body.unterminated isNewline)).toList := by
  rw [framesIn, List.terminated_concat_sep body newline, List.filter_append, List.filterMap_append]
  by_cases long : maxLineBytes < (body.unterminated isNewline).length
  · rw [if_pos long, List.filter_cons_of_neg (by simpa using long)]
    rfl
  · rw [if_neg long, List.filter_cons_of_pos (by simpa using long)]
    cases frame : frameOf parse (body.unterminated isNewline) <;> simp [frame, framesIn]

theorem framesIn_other {byte : UInt8} (other : isNewline byte = false) (body : Bytes) :
    framesIn parse (body ++ [byte]) = framesIn parse body := by
  rw [framesIn, List.terminated_concat_other body other, framesIn]

theorem Knows.consumeLine {frames : List StreamFrame} (knows : acc.Knows frames) (line : Bytes) :
    (consumeLine parse acc line).Knows (frames ++ (frameOf parse line).toList) := by
  unfold UsageAccumulator.consumeLine
  cases frameOf parse line with
  | none => simpa using knows
  | some frame => exact knows.applyFrame frame

theorem applyFrame_line (acc : UsageAccumulator) (frame : StreamFrame) :
    (acc.applyFrame frame).line = acc.line ∧ (acc.applyFrame frame).resyncing = acc.resyncing := by
  unfold applyFrame
  cases reported frame <;> exact ⟨rfl, rfl⟩

theorem consumeLine_line (acc : UsageAccumulator) (line : Bytes) :
    (consumeLine parse acc line).line = acc.line ∧
      (consumeLine parse acc line).resyncing = acc.resyncing := by
  unfold consumeLine
  cases frameOf parse line with
  | none => exact ⟨rfl, rfl⟩
  | some frame => exact applyFrame_line acc frame

theorem Reads.dropping (reads : Reads parse acc body) (long : acc.resyncing = true) :
    maxLineBytes < (body.unterminated isNewline).length :=
  of_decide_eq_true (reads.resyncing.symm.trans long)

theorem Reads.holding (reads : Reads parse acc body) (short : ¬acc.resyncing = true) :
    (body.unterminated isNewline).length ≤ maxLineBytes ∧ acc.line = body.unterminated isNewline := by
  rw [Bool.not_eq_true] at short
  exact ⟨Nat.not_lt.mp (of_decide_eq_false (reads.resyncing.symm.trans short)),
    reads.line.trans (by rw [short]; rfl)⟩

theorem Reads.newline (reads : Reads parse acc body) {byte : UInt8} (newline : isNewline byte = true) :
    Reads parse (acc.feedByte parse byte) (body ++ [byte]) := by
  have pending := List.unterminated_concat_sep body newline
  have frames := @framesIn_newline parse byte newline body
  unfold UsageAccumulator.feedByte
  rw [if_pos newline]
  by_cases dropping : acc.resyncing = true
  · rw [if_pos dropping]
    refine ⟨?_, by rw [pending]; rfl, by rw [pending]; rfl⟩
    rw [frames, if_pos (reads.dropping dropping), List.append_nil]
    exact reads.knows.buffered [] false
  · rw [if_neg dropping]
    obtain ⟨fits, line⟩ := reads.holding dropping
    obtain ⟨line', resyncing'⟩ := @consumeLine_line parse { acc with line := [] } acc.line
    refine ⟨?_, ?_, ?_⟩
    · rw [frames, if_neg (by omega), ← line]
      exact (reads.knows.buffered [] acc.resyncing).consumeLine acc.line
    · rw [resyncing', pending]
      exact Bool.not_eq_true _ ▸ dropping
    · rw [line', pending]
      split <;> rfl

theorem Reads.other (reads : Reads parse acc body) {byte : UInt8} (other : isNewline byte = false) :
    Reads parse (acc.feedByte parse byte) (body ++ [byte]) := by
  have pending := List.unterminated_concat_other body other
  have same := @framesIn_other parse byte other body
  have more : ((body ++ [byte]).unterminated isNewline).length =
      (body.unterminated isNewline).length + 1 := by
    rw [pending, List.length_append]
    rfl
  unfold UsageAccumulator.feedByte
  rw [if_neg (by simp [other])]
  by_cases dropping : acc.resyncing = true
  · rw [if_pos dropping]
    have long := reads.dropping dropping
    refine ⟨same ▸ reads.knows, ?_, ?_⟩
    · exact dropping.trans (decide_eq_true (by omega)).symm
    · rw [if_pos dropping]
      exact reads.line.trans (if_pos dropping)
  · rw [if_neg dropping]
    obtain ⟨fits, line⟩ := reads.holding dropping
    by_cases full : maxLineBytes ≤ acc.line.length
    · rw [if_pos full]
      rw [line] at full
      exact ⟨same ▸ reads.knows.buffered [] true, (decide_eq_true (by omega)).symm, rfl⟩
    · rw [if_neg full]
      rw [line] at full
      refine ⟨same ▸ reads.knows.buffered _ acc.resyncing, ?_, ?_⟩
      · rw [Bool.not_eq_true] at dropping
        exact dropping.trans (decide_eq_false (by omega)).symm
      · rw [pending, ← line]
        exact (if_neg dropping).symm

theorem Reads.feedByte (reads : Reads parse acc body) (byte : UInt8) :
    Reads parse (acc.feedByte parse byte) (body ++ [byte]) := by
  cases kind : isNewline byte with
  | true => exact reads.newline kind
  | false => exact reads.other kind

theorem Reads.feed (reads : Reads parse acc body) (chunk : Bytes) :
    Reads parse (acc.feed parse chunk) (body ++ chunk) := by
  induction chunk generalizing acc body with
  | nil => simpa [UsageAccumulator.feed] using reads
  | cons byte rest ih =>
      have := ih (reads.feedByte byte)
      rwa [List.append_assoc, List.singleton_append] at this

theorem Reads.line_le (reads : Reads parse acc body) : acc.line.length ≤ maxLineBytes := by
  by_cases dropping : acc.resyncing = true
  · rw [reads.line, if_pos dropping]
    exact Nat.zero_le _
  · obtain ⟨fits, line⟩ := reads.holding dropping
    rwa [line]

theorem Reads.feedAll (reads : Reads parse acc body) (chunks : List Bytes) :
    Reads parse (chunks.foldl (UsageAccumulator.feed parse) acc) (body ++ chunks.flatten) := by
  induction chunks generalizing acc body with
  | nil => simpa using reads
  | cons chunk rest ih =>
      have := ih (reads.feed chunk)
      rwa [List.append_assoc] at this

end UsageAccumulator

open UsageAccumulator

/-- However a streamed body is cut into chunks, what is known of it is what the frames of its terminated
lines of at most 64 KiB say, each counter as it was last reported, and at most 64 KiB are held. -/
theorem tap_reads_lines (parse : Bytes → Option StreamFrame) (chunks : List Bytes) :
    (chunks.foldl (feed parse) .new).facts = factsOf (framesIn parse chunks.flatten) ∧
      (chunks.foldl (feed parse) .new).line.length ≤ maxLineBytes :=
  have reads := Reads.new.feedAll chunks
  ⟨reads.knows.facts, reads.line_le⟩

end Reading

/-! ## The relay -/

/-- How much of a body that is not a stream is kept for reading. -/
def nonStreamTapCap : Nat := 8 * 1024 * 1024

/-- How a metered response can end. -/
inductive RelayEnd where
  | completedCleanly
  | clientDisconnected
  | streamAborted
  deriving DecidableEq, Repr

/-- What the relay waits for: a frame of the upstream, with its data unless it is trailers and whether
the client then takes it, a tick of the renewal timer, or a failure of the upstream. -/
inductive RelayEvent where
  | frame (data : Option Bytes) (taken : Bool)
  | renewal
  | failed
  deriving DecidableEq, Repr

structure Relay where
  accumulator : UsageAccumulator
  wholeBody : Bytes
  deriving Repr

namespace Relay

variable (parse : Bytes → Option StreamFrame) (isSse : Bool)

def new : Relay := ⟨.new, []⟩

def tap (r : Relay) (data : Bytes) : Relay :=
  if isSse then { r with accumulator := r.accumulator.feed parse data }
  else if r.wholeBody.length + data.length ≤ nonStreamTapCap then
    { r with wholeBody := r.wholeBody ++ data }
  else r

def tapFrame (r : Relay) : Option Bytes → Relay
  | none => r
  | some data => r.tap parse isSse data

/-- The loop, up to the event that ends it; an upstream that has no more ends it cleanly. -/
def pump : Relay → List RelayEvent → Relay × RelayEnd
  | r, [] => (r, .completedCleanly)
  | r, .renewal :: rest => pump r rest
  | r, .failed :: _ => (r, .streamAborted)
  | r, .frame data taken :: rest =>
      let r := r.tapFrame parse isSse data
      if taken then pump r rest else (r, .clientDisconnected)

/-- The accumulator once the relay has ended: a body that is not a stream is read now. -/
def read (r : Relay) : UsageAccumulator :=
  if isSse then r.accumulator else r.accumulator.feedWholeBody parse r.wholeBody

/-- The facts that are settled from.  A body that is not a stream and has arrived whole is complete. -/
def settledFacts (acc : UsageAccumulator) (ended : RelayEnd) : TapFacts :=
  let arrived := decide (ended = .completedCleanly) && !isSse && acc.observed.isSome
  ⟨acc.observed, acc.completedCleanly || arrived, acc.sawMessageStart || arrived⟩

end Relay

/-- What `pump_and_settle` settles from. -/
def pumpFacts (parse : Bytes → Option StreamFrame) (isSse : Bool) (events : List RelayEvent) : TapFacts :=
  let relayed := Relay.pump parse isSse .new events
  Relay.settledFacts isSse (relayed.1.read parse isSse) relayed.2

/-- The data that arrived before the relay ended. -/
def arrivedData : List RelayEvent → List Bytes
  | [] => []
  | .renewal :: rest => arrivedData rest
  | .failed :: _ => []
  | .frame data taken :: rest => data.toList ++ if taken then arrivedData rest else []

/-- What a body that is not a stream says, with how its relay ended. -/
def wholeFacts (parse : Bytes → Option StreamFrame) (body : Bytes) (ended : RelayEnd) : TapFacts :=
  let said := factsOf (parse body).toList
  let arrived := decide (ended = .completedCleanly) && said.observed.isSome
  ⟨said.observed, said.completedCleanly || arrived, said.sawMessageStart || arrived⟩

section Pump

variable {parse : Bytes → Option StreamFrame} {events : List RelayEvent}

namespace Relay

theorem pump_stream (r : Relay) : (pump parse true r events).1.accumulator =
    (arrivedData events).foldl (UsageAccumulator.feed parse) r.accumulator := by
  induction events generalizing r with
  | nil => rfl
  | cons event rest ih =>
      cases event with
      | renewal => exact ih r
      | failed => rfl
      | frame data taken =>
          have tapped : (r.tapFrame parse true data).accumulator =
              data.toList.foldl (UsageAccumulator.feed parse) r.accumulator := by
            cases data <;> rfl
          rw [pump, arrivedData, List.foldl_append, ← tapped]
          cases taken with
          | true => exact ih _
          | false => rfl

theorem tapFrame_whole (r : Relay) (fits : r.wholeBody.length ≤ nonStreamTapCap) (data : Option Bytes) :
    (r.tapFrame parse false data).accumulator = r.accumulator ∧
    ∃ kept, kept.Sublist data.toList ∧
      (r.tapFrame parse false data).wholeBody = r.wholeBody ++ kept.flatten ∧
      (r.tapFrame parse false data).wholeBody.length ≤ nonStreamTapCap ∧
      (r.wholeBody.length + data.toList.flatten.length ≤ nonStreamTapCap → kept = data.toList) := by
  cases data with
  | none => exact ⟨rfl, [], .refl _, (List.append_nil _).symm, fits, fun _ => rfl⟩
  | some data =>
      by_cases room : r.wholeBody.length + data.length ≤ nonStreamTapCap
      · have tapped : r.tapFrame parse false (some data) = { r with wholeBody := r.wholeBody ++ data } :=
          if_pos room
        rw [tapped]
        exact ⟨rfl, [data], .refl _, by simp, by simpa using room, fun _ => rfl⟩
      · have tapped : r.tapFrame parse false (some data) = r := if_neg room
        rw [tapped]
        exact ⟨rfl, [], List.nil_sublist _, (List.append_nil _).symm, fits,
          fun fit => absurd (by simpa using fit) room⟩

/-- Of a body that is not a stream some frames are kept, all of them if they fit. -/
theorem pump_whole (r : Relay) (fits : r.wholeBody.length ≤ nonStreamTapCap) :
    (pump parse false r events).1.accumulator = r.accumulator ∧
    ∃ kept, kept.Sublist (arrivedData events) ∧
      (pump parse false r events).1.wholeBody = r.wholeBody ++ kept.flatten ∧
      (pump parse false r events).1.wholeBody.length ≤ nonStreamTapCap ∧
      (r.wholeBody.length + (arrivedData events).flatten.length ≤ nonStreamTapCap →
        kept = arrivedData events) := by
  induction events generalizing r with
  | nil => exact ⟨rfl, [], .refl _, (List.append_nil _).symm, fits, fun _ => rfl⟩
  | cons event rest ih =>
      cases event with
      | renewal => exact ih r fits
      | failed => exact ⟨rfl, [], .refl _, (List.append_nil _).symm, fits, fun _ => rfl⟩
      | frame data taken =>
          obtain ⟨same, first, part, body, within, all⟩ := @tapFrame_whole parse r fits data
          cases taken with
          | true =>
              obtain ⟨same', later, part', body', within', all'⟩ :=
                ih (r.tapFrame parse false data) within
              refine ⟨same'.trans same, first ++ later, part.append part', ?_, within', ?_⟩
              · rw [List.flatten_append, ← List.append_assoc, ← body]
                exact body'
              · intro fit
                rw [arrivedData, if_pos rfl, List.flatten_append, List.length_append] at fit
                obtain rfl := all (by omega)
                rw [body, List.length_append] at all'
                rw [all' (by omega)]
                rfl
          | false =>
              have only : arrivedData (.frame data false :: rest) = data.toList := List.append_nil _
              rw [only]
              exact ⟨same, first, part, body, within, all⟩

end Relay

/-- However the frames of a relayed response are cut and the relay ends, a stream is settled from its
terminated lines of at most 64 KiB, and another body of at most 8 MiB from the whole of it.  Of a
longer one some frames that fit are read together, and the others are not. -/
theorem pump_facts (parse : Bytes → Option StreamFrame) (events : List RelayEvent) :
    pumpFacts parse true events = factsOf (framesIn parse (arrivedData events).flatten) ∧
    ∃ kept, kept.Sublist (arrivedData events) ∧ kept.flatten.length ≤ nonStreamTapCap ∧
      ((arrivedData events).flatten.length ≤ nonStreamTapCap → kept = arrivedData events) ∧
      pumpFacts parse false events =
        wholeFacts parse kept.flatten (Relay.pump parse false .new events).2 := by
  refine ⟨?_, ?_⟩
  · have facts := (tap_reads_lines parse (arrivedData events)).1
    have stream := @Relay.pump_stream parse events .new
    simp only [pumpFacts, Relay.settledFacts, Relay.read, if_true, stream, ← facts]
    simp [UsageAccumulator.facts, Relay.new]
  · obtain ⟨same, kept, part, body, within, all⟩ := @Relay.pump_whole parse events .new (Nat.zero_le _)
    have read : ((Relay.pump parse false .new events).1.read parse false).facts =
        factsOf (parse kept.flatten).toList := by
      rw [Relay.read, if_neg Bool.false_ne_true, same, body]
      change (UsageAccumulator.new.feedWholeBody parse kept.flatten).facts = _
      unfold UsageAccumulator.feedWholeBody
      cases parse kept.flatten with
      | none => exact UsageAccumulator.Knows.new.facts
      | some frame => exact (UsageAccumulator.Knows.new.applyFrame frame).facts
    refine ⟨kept, part, ?_, ?_, ?_⟩
    · rw [body] at within
      exact within
    · intro fit
      exact all (by simpa [Relay.new] using fit)
    · simp only [pumpFacts, Relay.settledFacts, wholeFacts, ← read]
      simp [UsageAccumulator.facts]

end Pump

end LibraGovernor
