/-
# LibraGovernor.Ledger.Deliveries -- the queue of events to deliver

A `webhook_deliveries` row is one event: its payload is written once and resent as it is.
Two unique keys guard an enqueue, the event's id and its `(event_kind, dedupe_key)`, and the
insert is ignored when either is taken.

`DeliveryRow.Evolves` says what may become of a row: its payload and its keys stay, its
attempts only grow, and once it is delivered or abandoned it stays so.
-/
import LibraGovernor.Domain.TaskBudget
import LibraGovernor.Domain.Uuid
import LibraGovernor.Ledger.Store
import LibraGovernor.Lib.Transaction
import Mathlib.Data.List.Sort

namespace LibraGovernor

open Relational Transaction

set_option autoImplicit false

/-! ## Rows -/

inductive EventKind where
  | admission
  | replan
  | approval
  | outcome
  deriving DecidableEq, Repr

inductive DeliveryState where
  | pending
  | delivered
  | abandoned
  deriving DecidableEq, Repr

structure DeliveryRow where
  eventId : Uuid
  eventKind : EventKind
  dedupeKey : String
  taskId : Option TaskId
  payload : String
  state : DeliveryState
  attempts : Nat
  nextAttemptAt : Option OffsetDateTime
  lastStatus : Option Nat
  lastError : Option String
  createdAt : OffsetDateTime
  deliveredAt : Option OffsetDateTime
  deriving DecidableEq, Repr

/-- What an enqueue hands in. -/
structure DeliveryEnqueue where
  eventId : Uuid
  eventKind : EventKind
  dedupeKey : String
  taskId : Option TaskId
  payload : String
  now : OffsetDateTime
  deriving DecidableEq, Repr

/-- What a delivery attempt reads of a row. -/
structure QueuedDelivery where
  eventId : Uuid
  eventKind : EventKind
  payload : String
  attempts : Nat
  deriving DecidableEq, Repr

namespace DeliveryRow

/-- The columns of the unique index. -/
def dedupe (r : DeliveryRow) : EventKind × String := (r.eventKind, r.dedupeKey)

def queued (r : DeliveryRow) : QueuedDelivery := ⟨r.eventId, r.eventKind, r.payload, r.attempts⟩

/-- The row was never tried, or its next attempt has come. -/
def due (now : OffsetDateTime) (r : DeliveryRow) : Bool :=
  decide (r.state = .pending) && r.nextAttemptAt.all fun next => next.textLe now

def delivered (now : OffsetDateTime) (r : DeliveryRow) : DeliveryRow :=
  { r with
    state := .delivered
    deliveredAt := some now
    attempts := r.attempts + 1
    lastStatus := some 200
    lastError := none }

def failed (nextAttemptAt : Option OffsetDateTime) (status : Option Nat) (error : String)
    (abandon : Bool) (r : DeliveryRow) : DeliveryRow :=
  { r with
    state := if abandon then .abandoned else .pending
    attempts := r.attempts + 1
    nextAttemptAt
    lastStatus := status
    lastError := some error }

end DeliveryRow

def DeliveryEnqueue.row (e : DeliveryEnqueue) : DeliveryRow where
  eventId := e.eventId
  eventKind := e.eventKind
  dedupeKey := e.dedupeKey
  taskId := e.taskId
  payload := e.payload
  state := .pending
  attempts := 0
  nextAttemptAt := none
  lastStatus := none
  lastError := none
  createdAt := e.now
  deliveredAt := none

/-- The `webhook_deliveries` table with its unique index. -/
structure Deliveries where
  table : Table DeliveryRow DeliveryRow.eventId
  unique : (table.rows.map DeliveryRow.dedupe).Nodup

/-! ## Writes and reads -/

namespace Deliveries

def empty : Deliveries := ⟨Table.empty, List.nodup_nil⟩

instance : Membership DeliveryRow Deliveries := ⟨fun d r => r ∈ d.table⟩

/-- `INSERT OR IGNORE`: whether the row is new, and the table. -/
def insertOrIgnore (d : Deliveries) (row : DeliveryRow) : Bool × Deliveries :=
  if free : row.dedupe ∉ d.table.rows.map DeliveryRow.dedupe then
    match done : d.table.insert? row with
    | some table =>
        (true, ⟨table, by
          rw [((Table.insert?_eq_some_iff _ _ _).mp done).2]
          exact nodup_map_concat d.unique free⟩)
    | none => (false, d)
  else (false, d)

def enqueueDelivery (d : Deliveries) (e : DeliveryEnqueue) : Except LedgerError (Bool × Deliveries) := do
  let _ ← rfc3339 e.now
  return d.insertOrIgnore e.row

theorem dedupe_updateRow {eventId : Uuid} {f : DeliveryRow → DeliveryRow}
    (keeps : ∀ r, (f r).eventId = r.eventId ∧ (f r).dedupe = r.dedupe) :
    DeliveryRow.dedupe ∘ (fun r => if r.eventId = eventId then f r else r) = DeliveryRow.dedupe := by
  funext r
  show DeliveryRow.dedupe (if r.eventId = eventId then f r else r) = r.dedupe
  split
  · exact (keeps r).2
  · rfl

/-- `UPDATE ... WHERE event_id` of columns outside the two keys. -/
def updateRow (d : Deliveries) (eventId : Uuid) (f : DeliveryRow → DeliveryRow)
    (keeps : ∀ r, (f r).eventId = r.eventId ∧ (f r).dedupe = r.dedupe) : Deliveries where
  table := d.table.updateAt eventId f fun r => (keeps r).1
  unique := by
    show ((d.table.rows.map fun r => if r.eventId = eventId then f r else r).map
      DeliveryRow.dedupe).Nodup
    rw [List.map_map, dedupe_updateRow keeps]
    exact d.unique

/-- The pending rows whose time has come, oldest text first, up to `limit`. -/
def dueDeliveries (d : Deliveries) (now : OffsetDateTime) (limit : Nat) :
    Except LedgerError (List QueuedDelivery) := do
  let _ ← rfc3339 now
  let due := (d.table.rows.filter (DeliveryRow.due now)).insertionSort fun r r' =>
    r.createdAt.textLe r'.createdAt = true
  return (due.take limit).map DeliveryRow.queued

def recordDeliverySuccess (d : Deliveries) (eventId : Uuid) (now : OffsetDateTime) :
    Except LedgerError (Unit × Deliveries) := do
  let _ ← rfc3339 now
  return ((), d.updateRow eventId (DeliveryRow.delivered now) fun _ => ⟨rfl, rfl⟩)

def recordDeliveryFailure (d : Deliveries) (eventId : Uuid) (nextAttemptAt : Option OffsetDateTime)
    (status : Option Nat) (error : String) (abandon : Bool) : Except LedgerError (Unit × Deliveries) := do
  let _ ← nextAttemptAt.mapM rfc3339
  return ((), d.updateRow eventId (DeliveryRow.failed nextAttemptAt status error abandon)
    fun _ => ⟨rfl, rfl⟩)

end Deliveries

/-! ## What becomes of a row -/

namespace DeliveryRow

/-- What an event's row may become. -/
structure Evolves (r r' : DeliveryRow) : Prop where
  eventId : r'.eventId = r.eventId
  dedupe : r'.dedupe = r.dedupe
  taskId : r'.taskId = r.taskId
  payload : r'.payload = r.payload
  createdAt : r'.createdAt = r.createdAt
  state : r'.state = r.state ∨ r.state = .pending
  attempts : r.attempts ≤ r'.attempts

namespace Evolves

theorem refl (r : DeliveryRow) : r.Evolves r := ⟨rfl, rfl, rfl, rfl, rfl, .inl rfl, le_refl _⟩

theorem trans {r r' r'' : DeliveryRow} (first : r.Evolves r') (next : r'.Evolves r'') :
    r.Evolves r'' := by
  refine ⟨?_, ?_, ?_, ?_, ?_, ?_, le_trans first.attempts next.attempts⟩
  · rw [next.eventId, first.eventId]
  · rw [next.dedupe, first.dedupe]
  · rw [next.taskId, first.taskId]
  · rw [next.payload, first.payload]
  · rw [next.createdAt, first.createdAt]
  · rcases first.state with same | pending
    · rw [← same]
      exact next.state
    · exact .inr pending

theorem delivered {r : DeliveryRow} (pending : r.state = .pending) (now : OffsetDateTime) :
    r.Evolves (r.delivered now) := ⟨rfl, rfl, rfl, rfl, rfl, .inr pending, Nat.le_succ _⟩

theorem failed {r : DeliveryRow} (pending : r.state = .pending) (nextAttemptAt : Option OffsetDateTime)
    (status : Option Nat) (error : String) (abandon : Bool) :
    r.Evolves (r.failed nextAttemptAt status error abandon) :=
  ⟨rfl, rfl, rfl, rfl, rfl, .inr pending, Nat.le_succ _⟩

/-- A row that is delivered or abandoned stays as it is. -/
theorem settled {r r' : DeliveryRow} (evolves : r.Evolves r') (done : r.state ≠ .pending) :
    r'.state = r.state := by
  rcases evolves.state with same | pending
  · exact same
  · exact absurd pending done

end Evolves

end DeliveryRow

namespace Deliveries

@[simp] theorem mem_table (d : Deliveries) (r : DeliveryRow) : r ∈ d.table ↔ r ∈ d := Iff.rfl

/-- Every row of the first is there in the second, and may have evolved. -/
def Evolve (d d' : Deliveries) : Prop := ∀ r ∈ d, ∃ r' ∈ d', r.Evolves r'

theorem Evolve.refl (d : Deliveries) : d.Evolve d := fun r mem => ⟨r, mem, .refl r⟩

theorem Evolve.trans {d d' d'' : Deliveries} (first : d.Evolve d') (next : d'.Evolve d'') :
    d.Evolve d'' := by
  intro r mem
  obtain ⟨r', mem', before⟩ := first r mem
  obtain ⟨r'', mem'', after⟩ := next r' mem'
  exact ⟨r'', mem'', before.trans after⟩

/-- The rows of the second that are not in the first were never tried. -/
structure Grows (d d' : Deliveries) : Prop where
  kept : ∀ r ∈ d, r ∈ d'
  added : ∀ r ∈ d', r ∈ d ∨ r.attempts = 0

theorem Grows.refl (d : Deliveries) : d.Grows d := ⟨fun _ mem => mem, fun _ mem => .inl mem⟩

theorem Grows.evolve {d d' : Deliveries} (grows : d.Grows d') : d.Evolve d' :=
  fun r mem => ⟨r, grows.kept r mem, .refl r⟩

/-- The rows of a kind. -/
def ofKind (d : Deliveries) (kind : EventKind) : List DeliveryRow :=
  d.table.rows.filter fun r => r.eventKind = kind

/-- The entries of the unique index. -/
def keys (d : Deliveries) : List (EventKind × String) := d.table.rows.map DeliveryRow.dedupe

theorem ofKind_length (d : Deliveries) (kind : EventKind) :
    (d.ofKind kind).length = (d.keys.filter fun k => k.1 = kind).length := by
  rw [keys, List.filter_map, List.length_map]
  rfl

/-- The event's id is not there yet. -/
def Fresh (d : Deliveries) (eventId : Uuid) : Prop := ∀ r ∈ d, r.eventId ≠ eventId

instance (d : Deliveries) (eventId : Uuid) : Decidable (d.Fresh eventId) :=
  inferInstanceAs (Decidable (∀ r ∈ d.table.rows, r.eventId ≠ eventId))

section Insert

variable {d : Deliveries} {row : DeliveryRow}

/-- An insert leaves the table, or appends the row. -/
theorem insertOrIgnore_rows (d : Deliveries) (row : DeliveryRow) :
    (d.insertOrIgnore row).2 = d ∨
      (d.insertOrIgnore row).2.table.rows = d.table.rows ++ [row] := by
  unfold insertOrIgnore
  split
  · split
    · rename_i done
      exact .inr ((Table.insert?_eq_some_iff _ _ _).mp done).2
    · exact .inl rfl
  · exact .inl rfl

theorem insertOrIgnore_taken (row : DeliveryRow) (taken : row.dedupe ∈ d.keys) : d.insertOrIgnore row = (false, d) :=
  dif_neg (not_not.mpr taken)

theorem insertOrIgnore_free (row : DeliveryRow) (free : row.dedupe ∉ d.keys) (fresh : d.Fresh row.eventId) :
    (d.insertOrIgnore row).2.keys = d.keys ++ [row.dedupe] := by
  have appended : (d.insertOrIgnore row).2.table.rows = d.table.rows ++ [row] := by
    unfold insertOrIgnore
    rw [dif_pos (show row.dedupe ∉ d.table.rows.map DeliveryRow.dedupe from free)]
    split
    · rename_i done
      exact ((Table.insert?_eq_some_iff _ _ _).mp done).2
    · rename_i none
      obtain ⟨table, done⟩ := Table.insert?_of_free
        ((Table.find?_eq_none_iff d.table row.eventId).mpr fresh)
      rw [done] at none
      cases none
  rw [keys, appended, List.map_append, List.map_singleton]
  rfl

theorem insertOrIgnore_keys (d : Deliveries) (row : DeliveryRow) :
    (d.insertOrIgnore row).2.keys = d.keys ∨
      (d.insertOrIgnore row).2.keys = d.keys ++ [row.dedupe] := by
  rcases d.insertOrIgnore_rows row with same | rows
  · rw [same]
    exact .inl rfl
  · rw [keys, rows, List.map_append, List.map_singleton]
    exact .inr rfl

theorem insertOrIgnore_grows (untried : row.attempts = 0) : d.Grows (d.insertOrIgnore row).2 := by
  rcases d.insertOrIgnore_rows row with same | rows
  · rw [same]
    exact .refl d
  · have mem_iff : ∀ r, r ∈ (d.insertOrIgnore row).2 ↔ r ∈ d ∨ r = row := by
      intro r
      show r ∈ (d.insertOrIgnore row).2.table.rows ↔ r ∈ d.table.rows ∨ r = row
      rw [rows, List.mem_append, List.mem_singleton]
    refine ⟨fun r mem => (mem_iff r).mpr (.inl mem), ?_⟩
    intro r mem
    rcases (mem_iff r).mp mem with old | rfl
    · exact .inl old
    · exact .inr untried

end Insert

section Update

variable {d : Deliveries} {eventId : Uuid} {f : DeliveryRow → DeliveryRow}
  (keeps : ∀ r, (f r).eventId = r.eventId ∧ (f r).dedupe = r.dedupe)

theorem mem_updateRow {r' : DeliveryRow} : r' ∈ d.updateRow eventId f keeps ↔
    ∃ r ∈ d, (if r.eventId = eventId then f r else r) = r' :=
  Table.mem_update d.table _ (Table.keeps_at (fun r => (keeps r).1) eventId) r'

theorem updateRow_evolve (each : ∀ r ∈ d, r.eventId = eventId → r.Evolves (f r)) :
    d.Evolve (d.updateRow eventId f keeps) := by
  intro r mem
  refine ⟨_, (mem_updateRow keeps).mpr ⟨r, mem, rfl⟩, ?_⟩
  split
  · rename_i here
    exact each r mem here
  · exact .refl r

theorem keys_updateRow : (d.updateRow eventId f keeps).keys = d.keys := by
  show (d.table.rows.map fun r => if r.eventId = eventId then f r else r).map DeliveryRow.dedupe =
    d.table.rows.map DeliveryRow.dedupe
  rw [List.map_map, dedupe_updateRow keeps]

end Update

/-- A due row is a pending one. -/
theorem mem_dueDeliveries {d : Deliveries} {now : OffsetDateTime} {limit : Nat}
    {due : List QueuedDelivery} (done : d.dueDeliveries now limit = .ok due) {item : QueuedDelivery}
    (mem : item ∈ due) : ∃ r ∈ d, r.state = .pending ∧ r.queued = item := by
  obtain ⟨_, -, done⟩ := (bind_eq_ok_iff _ _ _).mp done
  cases done
  obtain ⟨r, listed, rfl⟩ := List.mem_map.mp mem
  have sorted := (List.mem_insertionSort _).mp (List.mem_of_mem_take listed)
  obtain ⟨here, due⟩ := List.mem_filter.mp sorted
  refine ⟨r, here, ?_, rfl⟩
  exact of_decide_eq_true (Bool.and_eq_true _ _ ▸ due).1

/-- A batch names no event twice. -/
theorem dueDeliveries_nodup {d : Deliveries} {now : OffsetDateTime} {limit : Nat}
    {due : List QueuedDelivery} (done : d.dueDeliveries now limit = .ok due) :
    (due.map QueuedDelivery.eventId).Nodup := by
  obtain ⟨_, -, done⟩ := (bind_eq_ok_iff _ _ _).mp done
  cases done
  rw [List.map_map]
  have sorted := (List.perm_insertionSort (fun r r' : DeliveryRow => r.createdAt.textLe r'.createdAt = true)
    (d.table.rows.filter (DeliveryRow.due now))).map DeliveryRow.eventId
  have nodup := sorted.nodup_iff.mpr (d.table.nodup.sublist (List.filter_sublist.map _))
  exact nodup.sublist ((List.take_sublist _ _).map _)

end Deliveries

end LibraGovernor
