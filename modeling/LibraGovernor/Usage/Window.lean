/-
# LibraGovernor.Usage.Window -- the usage a transcript shows since an instant

A receipt's measurement reads the transcript backwards from its end, up to the first line
stamped before the window's start.  The records of one message id, one for each content
block, are folded by the maximum of each count; a record without an id counts by itself.
The messages a window counts (`countsMessage`) are the entries of its scan (`mem_scan_ids`).
Parsing a line is outside: a line is what the scan reads of it.
-/
import LibraGovernor.Domain.TaskBudget
import Mathlib.Tactic.Tauto

namespace LibraGovernor

set_option autoImplicit false

structure RawUsage where
  inputTokens : Option Nat
  cacheCreationInputTokens : Option Nat
  cacheReadInputTokens : Option Nat
  outputTokens : Option Nat
  deriving DecidableEq, Repr

structure TurnUsage where
  inputTokens : Nat := 0
  cacheCreationInputTokens : Nat := 0
  cacheReadInputTokens : Nat := 0
  outputTokens : Nat := 0
  records : Nat := 0
  deriving DecidableEq, Repr

/-- `u64::saturating_add`. -/
def saturatingAdd (a b : Nat) : Nat := min (a + b) u64Max

/-- Tokens newly ingested or produced; cached prefixes are not. -/
def TurnUsage.freshTokens (u : TurnUsage) : Nat :=
  saturatingAdd (saturatingAdd u.inputTokens u.cacheCreationInputTokens) u.outputTokens

def TurnUsage.add (u : TurnUsage) (raw : RawUsage) : TurnUsage where
  inputTokens := saturatingAdd u.inputTokens (raw.inputTokens.getD 0)
  cacheCreationInputTokens :=
    saturatingAdd u.cacheCreationInputTokens (raw.cacheCreationInputTokens.getD 0)
  cacheReadInputTokens := saturatingAdd u.cacheReadInputTokens (raw.cacheReadInputTokens.getD 0)
  outputTokens := saturatingAdd u.outputTokens (raw.outputTokens.getD 0)
  records := u.records + 1

/-- The larger of each count. -/
def RawUsage.max (a b : RawUsage) : RawUsage where
  inputTokens := some (Nat.max (a.inputTokens.getD 0) (b.inputTokens.getD 0))
  cacheCreationInputTokens :=
    some (Nat.max (a.cacheCreationInputTokens.getD 0) (b.cacheCreationInputTokens.getD 0))
  cacheReadInputTokens :=
    some (Nat.max (a.cacheReadInputTokens.getD 0) (b.cacheReadInputTokens.getD 0))
  outputTokens := some (Nat.max (a.outputTokens.getD 0) (b.outputTokens.getD 0))

/-- A transcript line: where it starts in the file, its time, and the usage of an assistant
message with the message's id. -/
structure UsageLine where
  offset : Nat
  timestamp : Option OffsetDateTime
  usage : Option (Option String × RawUsage)
  deriving DecidableEq, Repr

inductive LineVerdict where
  | skip
  | older
  | counted (id : Option String) (raw : RawUsage)
  deriving DecidableEq, Repr

def considerLine (line : UsageLine) (windowStart : OffsetDateTime) : LineVerdict :=
  if line.timestamp.any fun t => decide (t < windowStart) then .older
  else
    match line.usage with
    | some (id, raw) => .counted id raw
    | none => .skip

/-- What the scan has added up: records without an id, and one entry for each id. -/
structure ScanState where
  usage : TurnUsage := {}
  byId : List (String × RawUsage) := []

/-- Folds a record into the entry of its id. -/
def mergeById (byId : List (String × RawUsage)) (id : String) (raw : RawUsage) :
    List (String × RawUsage) :=
  match byId with
  | [] => [(id, RawUsage.max ⟨some 0, some 0, some 0, some 0⟩ raw)]
  | (id', kept) :: rest =>
      if id' = id then (id, kept.max raw) :: rest else (id', kept) :: mergeById rest id raw

/-- The visitor: `none` ends the scan. -/
def ScanState.visit (acc : ScanState) : LineVerdict → Option ScanState
  | .older => none
  | .skip => some acc
  | .counted none raw => some { acc with usage := acc.usage.add raw }
  | .counted (some id) raw => some { acc with byId := mergeById acc.byId id raw }

/-- `scan_lines_backward` within its cap, over the lines from the last to the first. -/
def scanBackward (windowStart : OffsetDateTime) : ScanState → List UsageLine → ScanState
  | acc, [] => acc
  | acc, line :: rest =>
      match acc.visit (considerLine line windowStart) with
      | none => acc
      | some acc => scanBackward windowStart acc rest

def scan (lines : List UsageLine) (windowStart : OffsetDateTime) : TurnUsage :=
  let ended := scanBackward windowStart {} lines.reverse
  ended.byId.foldl (fun usage entry => usage.add entry.2) ended.usage

/-- `None` when there is no usage record in the window. -/
def observeTranscriptWindow (lines : List UsageLine) (windowStart : OffsetDateTime) :
    Option TurnUsage :=
  if (scan lines windowStart).records = 0 then none else some (scan lines windowStart)

/-! ## Which messages are counted -/

/-- What a usage record is of: a message with an id, or the line itself. -/
inductive MessageRef where
  | named (id : String)
  | line (offset : Nat)
  deriving DecidableEq, Repr

def MessageRef.of (offset : Nat) : Option String → MessageRef
  | some id => .named id
  | none => .line offset

def UsageLine.message (l : UsageLine) : Option MessageRef :=
  l.usage.map fun record => .of l.offset record.1

/-- The lines the scan visits before it ends. -/
def reached (windowStart : OffsetDateTime) (lines : List UsageLine) : List UsageLine :=
  lines.reverse.takeWhile fun l => decide (considerLine l windowStart ≠ .older)

/-- The scan counts the message. -/
def countsMessage (lines : List UsageLine) (windowStart : OffsetDateTime) (m : MessageRef) : Bool :=
  (reached windowStart lines).any fun l => decide (l.message = some m)

/-- The ids the scan has an entry for. -/
def ScanState.ids (acc : ScanState) : List String := acc.byId.map Prod.fst

theorem mem_mergeById (byId : List (String × RawUsage)) (id : String) (raw : RawUsage) (other : String) :
    other ∈ (mergeById byId id raw).map Prod.fst ↔ other ∈ byId.map Prod.fst ∨ other = id := by
  induction byId with
  | nil => simp [mergeById]
  | cons entry rest ih =>
      obtain ⟨id', kept⟩ := entry
      by_cases here : id' = id
      · simp only [mergeById, here, if_true, List.map_cons, List.mem_cons]
        tauto
      · simp only [mergeById, here, if_false, List.map_cons, List.mem_cons, ih]
        tauto

theorem considerLine_skip {l : UsageLine} {windowStart : OffsetDateTime}
    (verdict : considerLine l windowStart = .skip) : l.message = none := by
  unfold considerLine at verdict
  split at verdict
  · cases verdict
  · split at verdict
    · cases verdict
    · rename_i none
      rw [UsageLine.message, none]
      rfl

theorem considerLine_counted {l : UsageLine} {windowStart : OffsetDateTime} {id : Option String}
    {raw : RawUsage} (verdict : considerLine l windowStart = .counted id raw) :
    l.message = some (.of l.offset id) := by
  unfold considerLine at verdict
  split at verdict
  · cases verdict
  · split at verdict
    · rename_i record
      cases verdict
      rw [UsageLine.message, record]
      rfl
    · cases verdict

/-- The scan has an entry for an id exactly when it reached a record of it. -/
theorem mem_scanBackward_ids (windowStart : OffsetDateTime) (acc : ScanState) (lines : List UsageLine)
    (id : String) :
    id ∈ (scanBackward windowStart acc lines).ids ↔ id ∈ acc.ids ∨
      ∃ l ∈ lines.takeWhile fun l => decide (considerLine l windowStart ≠ .older),
        l.message = some (.named id) := by
  induction lines generalizing acc with
  | nil => simp [scanBackward]
  | cons line rest ih =>
      rw [scanBackward, List.takeWhile_cons]
      cases verdict : considerLine line windowStart with
      | older => simp [ScanState.visit]
      | skip =>
          have silent := considerLine_skip verdict
          simp [ScanState.visit, ih, silent]
      | counted id' raw =>
          have message := considerLine_counted verdict
          cases id' with
          | none =>
              have same : ({ acc with usage := acc.usage.add raw } : ScanState).ids = acc.ids := rfl
              simp [ScanState.visit, ih, message, same, MessageRef.of]
          | some id' =>
              have grown : id ∈ ({ acc with byId := mergeById acc.byId id' raw } : ScanState).ids ↔
                  id ∈ acc.ids ∨ id = id' := mem_mergeById acc.byId id' raw id
              simp only [ScanState.visit, ih, grown, message, MessageRef.of, ne_eq, reduceCtorEq, not_false_eq_true,
                decide_true, if_true, List.mem_cons, exists_eq_or_imp, Option.some.injEq,
                MessageRef.named.injEq]
              tauto

/-- The entries of a scan are the named messages it counts. -/
theorem mem_scan_ids (lines : List UsageLine) (windowStart : OffsetDateTime) (id : String) :
    id ∈ (scanBackward windowStart {} lines.reverse).ids ↔
      countsMessage lines windowStart (.named id) = true := by
  rw [mem_scanBackward_ids, countsMessage, reached, List.any_eq_true]
  simp only [ScanState.ids, List.map_nil, List.not_mem_nil, false_or, decide_eq_true_eq]

end LibraGovernor
