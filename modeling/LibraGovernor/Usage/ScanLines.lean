/-
# LibraGovernor.Usage.ScanLines -- the lines of a file, newest first

`scanLinesBackward` reads a file from its end in chunks and shows a visitor each line once its
beginning is read, until the visitor breaks, the start of the file is reached or the byte cap is.
The first piece of a block may continue in the chunk before it, so it is carried to the next block.

What is carried is the first piece of all that was read, and what was visited are its later pieces
(`scanFrom_eq`): however the file is cut into chunks, the visitor is shown the lines that start past
the cap, from the last to the first, and at the start of the file the first line as well
(`scanLinesBackward_eq`).  An empty file is not read, so not even its one empty line is visited.
-/
import LibraGovernor.Lib.Split
import Mathlib.Data.PNat.Basic
import Mathlib.Tactic.Common

namespace LibraGovernor

namespace ScanLines

set_option autoImplicit false

abbrev Line := List UInt8

/-- What a visitor says after a line. -/
inductive ControlFlow (B : Type) where
  | proceed
  | stop (value : B)
  deriving DecidableEq, Repr

inductive ScanEnd (B : Type) where
  | visitor (value : B)
  | startOfFile
  | capReached
  deriving DecidableEq, Repr

/-- The read granularity of the source. -/
def chunkBytes : ℕ+ := ⟨256 * 1024, by decide⟩

def newline (b : UInt8) : Bool := b == 10

/-- The lines of a file, oldest first. -/
def lines (content : List UInt8) : List Line := content.splitOnP newline

section Scan

variable {σ B : Type}

/-- Shows lines to a visitor until it breaks. -/
def visitAll (visit : σ → Line → σ × ControlFlow B) : σ → List Line → σ × Option B
  | s, [] => (s, none)
  | s, line :: rest =>
      match visit s line with
      | (s, .stop value) => (s, some value)
      | (s, .proceed) => visitAll visit s rest

/-- The loop: bytes before `pos` are unread, `partialHead` belongs to a line that begins there. -/
def scanFrom (chunk : ℕ+) (cap : Nat) (content : List UInt8) (visit : σ → Line → σ × ControlFlow B)
    (s : σ) (partialHead : Line) (pos scanned : Nat) : σ × ScanEnd B :=
  if _unread : pos = 0 then (s, .startOfFile)
  else if _spent : cap - scanned = 0 then (s, .capReached)
  else
    let want := min (chunk : Nat) (min pos (cap - scanned))
    let start := pos - want
    let block := (content.drop start).take want ++ partialHead
    let pieces := lines block
    -- Unless the start of the file was read, the first piece continues backwards.
    let head := if 0 < start then pieces.headD [] else []
    let complete := if 0 < start then pieces.tail else pieces
    match visitAll visit s complete.reverse with
    | (s, some value) => (s, .visitor value)
    | (s, none) => scanFrom chunk cap content visit s head start (scanned + want)
  termination_by pos
  decreasing_by
    have := chunk.pos
    omega

def scanLinesBackward (chunk : ℕ+) (cap : Nat) (content : List UInt8)
    (visit : σ → Line → σ × ControlFlow B) (s : σ) : σ × ScanEnd B :=
  scanFrom chunk cap content visit s [] content.length 0

/-! ## What is visited -/

/-- The lines of a file that are known, oldest first: with a cap that the file exceeds, those that
start past the cap's first byte, since only of these the newline before was read. -/
def known (cap : Nat) (content : List UInt8) : List Line :=
  if content = [] then []
  else if content.length ≤ cap then lines content
  else ((List.located 0 (lines content)).filter fun l => decide (content.length - cap < l.1)).map Prod.snd

def ending (cap : Nat) (content : List UInt8) : ScanEnd B :=
  if content.length ≤ cap then .startOfFile else .capReached

/-- A visitor on a list of lines, with how the scan ends if it does not break. -/
def visited (visit : σ → Line → σ × ControlFlow B) (s : σ) (shown : List Line) (last : ScanEnd B) :
    σ × ScanEnd B :=
  match visitAll visit s shown with
  | (s, some value) => (s, .visitor value)
  | (s, none) => (s, last)

theorem visitAll_append (visit : σ → Line → σ × ControlFlow B) (s : σ) (xs ys : List Line) :
    visitAll visit s (xs ++ ys) =
      match visitAll visit s xs with
      | (s, some value) => (s, some value)
      | (s, none) => visitAll visit s ys := by
  induction xs generalizing s with
  | nil => rfl
  | cons x xs ih =>
      rw [List.cons_append, visitAll, visitAll]
      cases visit s x with
      | mk s flow =>
          cases flow with
          | proceed => exact ih s
          | stop value => rfl

theorem visited_append (visit : σ → Line → σ × ControlFlow B) (s : σ) (xs ys : List Line)
    (last : ScanEnd B) : visited visit s (xs ++ ys) last =
      match visitAll visit s xs with
      | (s, some value) => (s, .visitor value)
      | (s, none) => visited visit s ys last := by
  rw [visited, visitAll_append]
  cases visitAll visit s xs with
  | mk s broke =>
      cases broke with
      | none => rfl
      | some value => rfl

/-! ## The loop's invariant -/

/-- What is still to be shown, oldest first: the lines that start between the cap's first byte and
the unread bytes' end, completed by what is carried. -/
def pending (floor pos : Nat) (head : Line) (content : List UInt8) : List Line :=
  if pos = 0 then []
  else if floor = 0 then lines (content.take pos ++ head)
  else (lines ((content.take pos).drop floor ++ head)).tail

/-- A chunk between two positions. -/
theorem take_drop_chunk {start pos floor : Nat} (content : List UInt8) (floor_le : floor ≤ start)
    (le : start ≤ pos) (head : Line) : (content.take pos).drop floor ++ head =
      (content.take start).drop floor ++ ((content.drop start).take (pos - start) ++ head) := by
  have whole : content.take pos = content.take start ++ (content.drop start).take (pos - start) := by
    rw [← List.take_add, Nat.add_sub_cancel' le]
  have before : (content.take pos).drop floor =
      (content.take start).drop floor ++ (content.drop start).take (pos - start) := by
    by_cases long : start ≤ content.length
    · rw [whole, List.drop_append_of_le_length]
      rw [List.length_take, Nat.min_eq_left long]
      exact floor_le
    · have short : content.length ≤ start := by omega
      rw [List.take_of_length_le (le_trans short le), List.take_of_length_le short,
        List.drop_of_length_le short, List.take_nil, List.append_nil]
  rw [before, List.append_assoc]

theorem pending_step {floor start pos : Nat} {content : List UInt8} {head : Line}
    (floor_le : floor ≤ start) (lt : start < pos) :
    pending floor pos head content =
      pending floor start
        (if 0 < start then
          (lines ((content.drop start).take (pos - start) ++ head)).headD [] else []) content ++
        (if 0 < start then (lines ((content.drop start).take (pos - start) ++ head)).tail
          else lines ((content.drop start).take (pos - start) ++ head)) := by
  have chunk := take_drop_chunk content floor_le (le_of_lt lt) head
  have zero_chunk := take_drop_chunk content (Nat.zero_le start) (le_of_lt lt) head
  have later : pos ≠ 0 := by omega
  rw [pending, if_neg later]
  by_cases more : 0 < start
  · rw [if_pos more, if_pos more, pending, if_neg (show start ≠ 0 by omega)]
    by_cases whole : floor = 0
    · rw [List.drop_zero] at zero_chunk
      rw [if_pos whole, if_pos whole, zero_chunk]
      exact List.splitOnP_append _ _
    · have some_ : lines ((content.take start).drop floor ++
          (lines ((content.drop start).take (pos - start) ++ head)).headD []) ≠ [] :=
        List.splitOnP_ne_nil _ _
      rw [if_neg whole, if_neg whole, chunk, ← List.tail_append_of_ne_nil some_]
      exact congrArg List.tail (List.splitOnP_append _ _)
  · have start_zero : start = 0 := by omega
    subst start_zero
    rw [if_neg more, if_neg more, pending, if_pos rfl, if_pos (Nat.le_zero.mp floor_le), List.nil_append,
      List.drop_zero, Nat.sub_zero]

theorem scanFrom_eq (chunk : ℕ+) {cap : Nat} {content : List UInt8}
    (visit : σ → Line → σ × ControlFlow B) (s : σ) {head : Line} {pos scanned : Nat}
    (read : pos + scanned = content.length) (within : scanned ≤ cap) (carried : lines head = [head]) :
    scanFrom chunk cap content visit s head pos scanned =
      visited visit s (pending (content.length - cap) pos head content).reverse (ending cap content) := by
  induction pos using Nat.strong_induction_on generalizing s head scanned with
  | _ pos ih =>
      rw [scanFrom]
      by_cases unread : pos = 0
      · have whole : content.length ≤ cap := by omega
        rw [dif_pos unread, pending, if_pos unread, ending, if_pos whole]
        rfl
      by_cases spent : cap - scanned = 0
      · have short : ¬ content.length ≤ cap := by omega
        have at_floor : (content.take pos).drop (content.length - cap) = [] := by
          rw [List.drop_eq_nil_iff, List.length_take]
          omega
        rw [dif_neg unread, dif_pos spent, pending, if_neg unread, if_neg (by omega), at_floor,
          List.nil_append, carried, ending, if_neg short]
        rfl
      rw [dif_neg unread, dif_neg spent]
      have positive := chunk.pos
      generalize want_eq : min (chunk : Nat) (min pos (cap - scanned)) = want
      have want_pos : 0 < want := by omega
      have start_lt : pos - want < pos := by omega
      have step := @pending_step (content.length - cap) (pos - want) pos content head
        (by omega) start_lt
      rw [show pos - (pos - want) = want by omega] at step
      rw [step, List.reverse_append, visited_append]
      dsimp only
      cases visitAll visit s _ with
      | mk s broke =>
          cases broke with
          | some value => rfl
          | none =>
              refine ih (pos - want) start_lt s (by omega) (by omega) ?_
              split
              · exact List.splitOnP_firstPiece _
              · rfl

/-! ## The scan -/

theorem pending_all (cap : Nat) (content : List UInt8) :
    pending (content.length - cap) content.length [] content = known cap content := by
  rw [pending, known, List.append_nil, List.take_length]
  by_cases empty : content = []
  · rw [if_pos empty, if_pos (List.length_eq_zero_iff.mpr empty)]
  rw [if_neg empty, if_neg (fun zero => empty (List.length_eq_zero_iff.mp zero))]
  by_cases whole : content.length ≤ cap
  · rw [if_pos whole, if_pos (by omega)]
  · have cut := List.located_after_cut (p := newline) (content.take (content.length - cap))
      (content.drop (content.length - cap))
    rw [List.take_append_drop, List.length_take, Nat.min_eq_left (by omega)] at cut
    rw [if_neg whole, if_neg (by omega), List.append_nil]
    exact cut.symm

/-- The visitor is shown the known lines, newest first, whatever the chunk size. -/
theorem scanLinesBackward_eq (chunk : ℕ+) (cap : Nat) (content : List UInt8)
    (visit : σ → Line → σ × ControlFlow B) (s : σ) :
    scanLinesBackward chunk cap content visit s =
      visited visit s (known cap content).reverse (ending cap content) := by
  rw [← pending_all]
  exact scanFrom_eq chunk visit s (Nat.add_zero _) (Nat.zero_le cap) rfl

/-! ## What a visitor sees -/

/-- A visitor that also logs the lines it is shown. -/
def logged (visit : σ → Line → σ × ControlFlow B) (s : σ × List Line) (line : Line) :
    (σ × List Line) × ControlFlow B :=
  (((visit s.1 line).1, s.2 ++ [line]), (visit s.1 line).2)

/-- It is shown all lines in order, or up to the one it breaks at. -/
theorem visitAll_logged (visit : σ → Line → σ × ControlFlow B) (s : σ) (log shown : List Line) :
    ∃ seen, seen <+: shown ∧ (visitAll (logged visit) (s, log) shown).1.2 = log ++ seen ∧
      ((visitAll (logged visit) (s, log) shown).2 = none → seen = shown) := by
  induction shown generalizing s log with
  | nil => exact ⟨[], List.prefix_rfl, (List.append_nil log).symm, fun _ => rfl⟩
  | cons line rest ih =>
      rw [visitAll, logged]
      dsimp only
      cases visit s line with
      | mk s' flow =>
          cases flow with
          | stop value => exact ⟨[line], ⟨rest, rfl⟩, rfl, fun unbroken => by cases unbroken⟩
          | proceed =>
              obtain ⟨seen, front, same, whole⟩ := ih s' (log ++ [line])
              refine ⟨line :: seen, (List.prefix_cons_inj line).mpr front, ?_, fun unbroken => ?_⟩
              · rw [same, List.append_assoc]
                rfl
              · rw [whole unbroken]

theorem visitAll_never {visit : σ → Line → σ × ControlFlow B} (never : ∀ s line, (visit s line).2 = .proceed)
    (s : σ) (shown : List Line) : (visitAll visit s shown).2 = none := by
  induction shown generalizing s with
  | nil => rfl
  | cons line rest ih =>
      have flow := never s line
      rw [visitAll]
      cases visited : visit s line with
      | mk s' next =>
          rw [visited] at flow
          cases flow
          exact ih s'

end Scan

/-- What a scan of a file is to do, for every chunk size, cap and visitor. -/
structure ReverseSplit (cap : Nat) (content : List UInt8) : Prop where
  /-- A visitor that never breaks is shown the known lines, newest first. -/
  all : ∀ (σ B : Type) (chunk : ℕ+) (visit : σ → Line → σ × ControlFlow B) (s : σ),
    (∀ s line, (visit s line).2 = .proceed) →
      (scanLinesBackward chunk cap content (logged visit) (s, [])).1.2 = (known cap content).reverse ∧
      (scanLinesBackward chunk cap content (logged visit) (s, [])).2 =
        if content.length ≤ cap then .startOfFile else .capReached
  /-- A visitor that breaks is shown the first of them. -/
  front : ∀ (σ B : Type) (chunk : ℕ+) (visit : σ → Line → σ × ControlFlow B) (s : σ),
    (scanLinesBackward chunk cap content (logged visit) (s, [])).1.2 <+: (known cap content).reverse
  /-- The chunk size does not matter. -/
  chunks : ∀ (σ B : Type) (chunk chunk' : ℕ+) (visit : σ → Line → σ × ControlFlow B) (s : σ),
    scanLinesBackward chunk cap content visit s = scanLinesBackward chunk' cap content visit s

theorem scan_reverse_split (cap : Nat) (content : List UInt8) : ReverseSplit cap content where
  all σ B chunk visit s never := by
    have unbroken : (visitAll (logged visit) (s, []) (known cap content).reverse).2 = none :=
      visitAll_never (fun (s : σ × List Line) line => show (visit s.1 line).2 = .proceed from never s.1 line) _ _
    obtain ⟨seen, -, same, whole⟩ := visitAll_logged visit s [] (known cap content).reverse
    rw [scanLinesBackward_eq, visited]
    cases run : visitAll (logged visit) (s, []) (known cap content).reverse with
    | mk last broke =>
        rw [run] at unbroken same whole
        cases unbroken
        rw [whole rfl] at same
        exact ⟨same, rfl⟩
  front σ B chunk visit s := by
    obtain ⟨seen, front, same, -⟩ := visitAll_logged visit s [] (known cap content).reverse
    rw [scanLinesBackward_eq, visited]
    cases run : visitAll (logged visit) (s, []) (known cap content).reverse with
    | mk last broke =>
        rw [run] at same
        cases broke with
        | none => exact same ▸ front
        | some value => exact same ▸ front
  chunks σ B chunk chunk' visit s := by
    rw [scanLinesBackward_eq, scanLinesBackward_eq]

/-- An empty file has one empty line to a split; the scan visits none. -/
theorem empty_file_not_visited :
    (scanLinesBackward chunkBytes 1 [] (logged fun (_ : Unit) _ => ((), ControlFlow.proceed (B := Unit)))
      ((), [])).1.2 = [] ∧ (lines []).reverse = [[]] := by
  rw [scanLinesBackward_eq]
  exact ⟨rfl, rfl⟩

/-- Of three lines the middle one starts at the first of the last five bytes: the newline before it
is not read. -/
example : known 5 [97, 98, 10, 99, 100, 10, 101, 102] = [[101, 102]] := by decide

end ScanLines

end LibraGovernor
