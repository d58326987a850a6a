/-
# LibraGovernor.Protocol.BoundedJson -- JSON within public bounds

Before a text is parsed, a scan of its bytes counts how deep its containers nest and how many
values and keys it has, with three flags and no parser.  On a JSON text the counts are those of
the tree (`Derives.counts`), so the scan refuses exactly the texts past a bound.

The parser itself (`parse`) is a parameter: it gives the tree of a text, repeated keys and all,
and the visitor refuses the repetition.  The entries of an object stay in the order they came
in, which nothing looks at.
-/
import LibraGovernor.Lib.JsonText

namespace LibraGovernor

open JsonText

set_option autoImplicit false

/-! ## The scan -/

inductive HostBindingStage where
  | json
  deriving DecidableEq, Repr

inductive HostBindingReason where
  | malformedJson
  | duplicateJsonKey
  | inputTooLarge
  | inputTooDeep
  | tooManyNodes
  deriving DecidableEq, Repr

structure HostBindingFailure where
  stage : HostBindingStage
  reason : HostBindingReason
  deriving DecidableEq, Repr

structure JsonScan where
  inString : Bool := false
  escaped : Bool := false
  inAtom : Bool := false
  depth : Nat := 0
  nodes : Nat := 0
  deriving DecidableEq, Repr

/-- The check after every byte outside a string. -/
def boundedNodes (maxNodes : Nat) (s : JsonScan) : Except HostBindingFailure JsonScan :=
  if maxNodes < s.nodes then .error ⟨.json, .tooManyNodes⟩ else .ok s

/-- `b'c'`. -/
def isByte (byte : UInt8) (c : Char) : Bool := byte = c.toUInt8

def scanByte (maxDepth maxNodes : Nat) (s : JsonScan) (byte : UInt8) :
    Except HostBindingFailure JsonScan :=
  if s.inString then
    if s.escaped then .ok { s with escaped := false }
    else if isByte byte '\\' then .ok { s with escaped := true }
    else if isByte byte '"' then .ok { s with inString := false, inAtom := false }
    else .ok s
  else if isByte byte '"' then
    boundedNodes maxNodes { s with nodes := s.nodes + 1, inString := true, inAtom := false }
  else if isByte byte '{' || isByte byte '[' then
    if maxDepth < s.depth + 1 then .error ⟨.json, .inputTooDeep⟩
    else boundedNodes maxNodes { s with nodes := s.nodes + 1, depth := s.depth + 1, inAtom := false }
  else if isByte byte '}' || isByte byte ']' then
    boundedNodes maxNodes { s with depth := s.depth - 1, inAtom := false }
  else if isByte byte ',' || isByte byte ':' || isByte byte ' ' || isByte byte '\n' ||
      isByte byte '\r' || isByte byte '\t' then
    boundedNodes maxNodes { s with inAtom := false }
  else if !s.inAtom then
    boundedNodes maxNodes { s with nodes := s.nodes + 1, inAtom := true }
  else boundedNodes maxNodes s

def scanFrom (maxDepth maxNodes : Nat) : JsonScan → List UInt8 → Except HostBindingFailure JsonScan
  | s, [] => .ok s
  | s, byte :: rest =>
      match scanByte maxDepth maxNodes s byte with
      | .error failure => .error failure
      | .ok s => scanFrom maxDepth maxNodes s rest

def scanJsonLimits (bytes : List UInt8) (maxDepth maxNodes : Nat) : Except HostBindingFailure Unit :=
  match scanFrom maxDepth maxNodes {} bytes with
  | .error failure => .error failure
  | .ok _ => .ok ()

/-! ## The visitor -/

/-- The visitor's own error. -/
inductive DuplicateKey where
  | duplicateKey

mutual

/-- `UniqueValueVisitor`. -/
def uniqueValue : Tree → Except DuplicateKey Tree
  | .array items =>
      match visitSeq items with
      | .error e => .error e
      | .ok values => .ok (.array values)
  | .object members =>
      match visitMap [] members with
      | .error e => .error e
      | .ok values => .ok (.object values)
  | t => .ok t

def visitSeq : List Tree → Except DuplicateKey (List Tree)
  | [] => .ok []
  | t :: items =>
      match uniqueValue t with
      | .error e => .error e
      | .ok value =>
          match visitSeq items with
          | .error e => .error e
          | .ok values => .ok (value :: values)

/-- `keys` are those of the object met so far. -/
def visitMap (keys : List Units) : List (Units × Tree) → Except DuplicateKey (List (Units × Tree))
  | [] => .ok []
  | (key, t) :: members =>
      if key ∈ keys then .error .duplicateKey
      else
        match uniqueValue t with
        | .error e => .error e
        | .ok value =>
            match visitMap (key :: keys) members with
            | .error e => .error e
            | .ok values => .ok ((key, value) :: values)

end

/-- A text that is not JSON, and whether an object repeats a key before the parser notices. -/
structure SyntaxFailure where
  repeated : Bool

def validateBoundedJson (parse : List Char → Except SyntaxFailure Tree) (bytes : ByteArray)
    (maxBytes maxDepth maxNodes : Nat) : Except HostBindingFailure Tree :=
  if maxBytes < bytes.size then .error ⟨.json, .inputTooLarge⟩
  else
    match bytes.utf8Decode? with
    | none => .error ⟨.json, .malformedJson⟩
    | some text =>
        match scanJsonLimits bytes.data.toList maxDepth maxNodes with
        | .error failure => .error failure
        | .ok () =>
            match parse text.toList with
            | .error failure =>
                .error ⟨.json, if failure.repeated then .duplicateJsonKey else .malformedJson⟩
            | .ok t =>
                match uniqueValue t with
                | .error _ => .error ⟨.json, .duplicateJsonKey⟩
                | .ok value => .ok value

/-- The parser takes the JSON texts, each for what it stands for, and no others. -/
structure ExactParser (parse : List Char → Except SyntaxFailure Tree) : Prop where
  reads : ∀ text t, IsText text t → parse text = .ok t
  sound : ∀ text t, parse text = .ok t → IsText text t

/-! ## Bytes of a character -/

/-- The UTF-8 bytes of a text. -/
def utf8 (text : List Char) : List UInt8 := text.flatMap String.utf8EncodeChar

theorem utf8_cons (c : Char) (text : List Char) :
    utf8 (c :: text) = String.utf8EncodeChar c ++ utf8 text := rfl

theorem utf8_append (first second : List Char) : utf8 (first ++ second) = utf8 first ++ utf8 second :=
  List.flatMap_append

theorem utf8_ascii {c : Char} (ascii : c.toNat < 128) (text : List Char) :
    utf8 (c :: text) = c.toUInt8 :: utf8 text := by
  have small : c.val.toNat ≤ 0x7f := Nat.le_of_lt_succ ascii
  rw [utf8_cons, String.utf8EncodeChar]
  simp only [small, if_true]
  rfl

theorem toUInt8_toNat {c : Char} (ascii : c.toNat < 128) : c.toUInt8.toNat = c.toNat := by
  show (UInt8.ofNat c.val.toNat).toNat = c.val.toNat
  have small : c.val.toNat < 128 := ascii
  rw [UInt8.toNat_ofNat']
  omega

theorem isByte_ascii {c d : Char} (ascii : c.toNat < 128) (ascii' : d.toNat < 128) :
    isByte c.toUInt8 d = decide (c = d) := by
  rw [isByte, decide_eq_decide]
  constructor
  · intro same
    have value := congrArg UInt8.toNat same
    rw [toUInt8_toNat ascii, toUInt8_toNat ascii'] at value
    exact Char.ext (UInt32.toNat_inj.mp value)
  · rintro rfl
    rfl

/-- An ASCII byte stands for itself. -/
theorem eq_of_byte_mem {c d : Char} (ascii : d.toNat < 128) (mem : d.toUInt8 ∈ String.utf8EncodeChar c) :
    c = d := by
  have byte := toUInt8_toNat ascii
  have high : ∀ n, 128 ≤ n → n < 256 → d.toUInt8 ≠ UInt8.ofNat n := by
    intro n low n_lt same
    have value := congrArg UInt8.toNat same
    rw [byte, UInt8.toNat_ofNat'] at value
    omega
  unfold String.utf8EncodeChar at mem
  dsimp only at mem
  split_ifs at mem with one two three
  · have same := congrArg UInt8.toNat (List.mem_singleton.mp mem)
    rw [byte, UInt8.toNat_ofNat'] at same
    have value : c.val.toNat = d.val.toNat := by
      have : d.toNat = d.val.toNat := rfl
      omega
    exact Char.ext (UInt32.toNat_inj.mp value)
  all_goals
    simp only [List.mem_cons, List.not_mem_nil, or_false] at mem
  · rcases mem with same | same <;> exact absurd same (high _ (by omega) (by omega))
  · rcases mem with same | same | same <;> exact absurd same (high _ (by omega) (by omega))
  · rcases mem with same | same | same | same <;> exact absurd same (high _ (by omega) (by omega))

/-! ## The scan of a text -/

section Scan

variable {D N : Nat}

theorem scanFrom_append (s : JsonScan) (first second : List UInt8) :
    scanFrom D N s (first ++ second) =
      match scanFrom D N s first with
      | .error failure => .error failure
      | .ok s => scanFrom D N s second := by
  induction first generalizing s with
  | nil => rfl
  | cons byte first ih =>
      rw [List.cons_append, scanFrom, scanFrom]
      cases scanByte D N s byte with
      | error failure => rfl
      | ok s => exact ih s

/-- Between tokens, within the bounds. -/
structure Between (D N : Nat) (s : JsonScan) : Prop where
  outside : s.inString = false
  unescaped : s.escaped = false
  depth_le : s.depth ≤ D
  nodes_le : s.nodes ≤ N

/-- From a state between tokens and at no atom, the scan of a text adds the text's nodes when
these fit, and fails when they, or the text's depth, do not. -/
def Counts (D N : Nat) (text : List Char) (depth nodes : Nat) : Prop :=
  ∀ s, Between D N s → s.inAtom = false →
    (s.depth + depth ≤ D → s.nodes + nodes ≤ N →
      ∃ a, scanFrom D N s (utf8 text) = .ok { s with nodes := s.nodes + nodes, inAtom := a }) ∧
    (D < s.depth + depth ∨ N < s.nodes + nodes → ∃ failure, scanFrom D N s (utf8 text) = .error failure)

/-- The byte of a separator ends an atom and counts for nothing. -/
theorem scan_separator {s : JsonScan} {c : Char} (between : Between D N s)
    (separator : c = ',' ∨ c = ':' ∨ isWs c = true) (text : List Char) :
    scanFrom D N s (utf8 (c :: text)) = scanFrom D N { s with inAtom := false } (utf8 text) := by
  have read : ∀ d : Char, d = ',' ∨ d = ':' ∨ d = ' ' ∨ d = '\t' ∨ d = '\n' ∨ d = '\r' →
      scanFrom D N s (utf8 (d :: text)) = scanFrom D N { s with inAtom := false } (utf8 text) := by
    intro d which
    have step : scanByte D N s d.toUInt8 = .ok { s with inAtom := false } := by
      have fits := Nat.not_lt.mpr between.nodes_le
      rcases which with rfl | rfl | rfl | rfl | rfl | rfl <;>
        simp [scanByte, isByte_ascii, boundedNodes, between.outside, fits]
    have ascii : d.toNat < 128 := by
      rcases which with rfl | rfl | rfl | rfl | rfl | rfl <;> decide
    rw [utf8_ascii ascii, scanFrom, step]
  apply read
  simp only [isWs, Bool.or_eq_true, decide_eq_true_eq] at separator
  tauto

theorem Between.separated {s : JsonScan} (between : Between D N s) (a : Bool) :
    Between D N { s with inAtom := a } :=
  ⟨between.outside, between.unescaped, between.depth_le, between.nodes_le⟩

theorem at_no_atom {s : JsonScan} (fresh : s.inAtom = false) : { s with inAtom := false } = s := by
  rw [← fresh]

theorem scan_space {s : JsonScan} {space : List Char} (between : Between D N s)
    (fresh : s.inAtom = false) (ws : Ws space) (text : List Char) :
    scanFrom D N s (utf8 (space ++ text)) = scanFrom D N s (utf8 text) := by
  induction space with
  | nil => rfl
  | cons c space ih =>
      rw [List.cons_append, scan_separator between (.inr (.inr (ws c List.mem_cons_self))),
        at_no_atom fresh, ih fun d mem => ws d (List.mem_cons_of_mem c mem)]

theorem scan_space_after {s : JsonScan} {space : List Char} (between : Between D N s) (ws : Ws space)
    (text : List Char) :
    ∃ a, scanFrom D N s (utf8 (space ++ text)) = scanFrom D N { s with inAtom := a } (utf8 text) := by
  cases space with
  | nil => exact ⟨s.inAtom, rfl⟩
  | cons c space =>
      refine ⟨false, ?_⟩
      rw [List.cons_append, scan_separator between (.inr (.inr (ws c List.mem_cons_self))),
        scan_space (between.separated false) rfl fun d mem => ws d (List.mem_cons_of_mem c mem)]

/-! ### Strings -/

theorem scan_plain {s : JsonScan} {c : Char} (inside : s.inString = true) (unescaped : s.escaped = false)
    (quote : c ≠ '"') (slash : c ≠ '\\') (text : List Char) :
    scanFrom D N s (utf8 (c :: text)) = scanFrom D N s (utf8 text) := by
  have skipped : ∀ bytes : List UInt8, (∀ b ∈ bytes, b ∈ String.utf8EncodeChar c) →
      scanFrom D N s (bytes ++ utf8 text) = scanFrom D N s (utf8 text) := by
    intro bytes
    induction bytes with
    | nil => exact fun _ => rfl
    | cons b bytes ih =>
        intro part
        have other : ∀ d : Char, d.toNat < 128 → c ≠ d → isByte b d = false := by
          intro d ascii apart
          rw [isByte, decide_eq_false_iff_not]
          rintro rfl
          exact apart (eq_of_byte_mem ascii (part _ List.mem_cons_self))
        have step : scanByte D N s b = .ok s := by
          simp [scanByte, inside, unescaped, other '\\' (by decide) slash, other '"' (by decide) quote]
        rw [List.cons_append, scanFrom, step]
        exact ih fun d mem => part d (List.mem_cons_of_mem b mem)
  rw [utf8_cons]
  exact skipped _ fun _ mem => mem

/-- After a backslash one byte stands for itself. -/
theorem scan_escape {s : JsonScan} {c : Char} (inside : s.inString = true) (unescaped : s.escaped = false)
    (ascii : c.toNat < 128) (text : List Char) :
    scanFrom D N s (utf8 ('\\' :: c :: text)) = scanFrom D N s (utf8 text) := by
  have slash : scanByte D N s '\\'.toUInt8 = .ok { s with escaped := true } := by
    simp [scanByte, inside, unescaped, isByte_ascii]
  have next : scanByte D N { s with escaped := true } c.toUInt8 = .ok { s with escaped := false } := by
    simp [scanByte, inside]
  rw [utf8_ascii (by decide), utf8_ascii ascii, scanFrom, slash]
  dsimp only
  rw [scanFrom, next, ← unescaped]

theorem hexUnit_plain {c : Char} {n : Nat} (value : hexUnit c = some n) : c ≠ '"' ∧ c ≠ '\\' := by
  have refused : ∀ d, hexUnit d = none → c ≠ d := by
    rintro d no rfl
    rw [no] at value
    cases value
  exact ⟨refused '"' (by decide), refused '\\' (by decide)⟩

theorem escapeValue_ascii {c : Char} {unit : Nat} (value : escapeValue c = some unit) : c.toNat < 128 := by
  unfold escapeValue at value
  split at value <;> first | decide | cases value

theorem hex4_some {a b c d : Char} {unit : Nat} (value : hex4 a b c d = some unit) :
    ∃ w x y z, hexUnit a = some w ∧ hexUnit b = some x ∧ hexUnit c = some y ∧ hexUnit d = some z := by
  simp only [hex4, Option.bind_eq_bind, Option.bind_eq_some_iff] at value
  obtain ⟨w, first, x, second, y, third, z, fourth, -⟩ := value
  exact ⟨w, x, y, z, first, second, third, fourth⟩

theorem scan_contents {s : JsonScan} {text : List Char} {units : Units} (contents : Contents text units)
    (inside : s.inString = true) (unescaped : s.escaped = false) (rest : List Char) :
    scanFrom D N s (utf8 (text ++ '"' :: rest)) =
      scanFrom D N { s with inString := false, inAtom := false } (utf8 rest) := by
  induction contents with
  | nil =>
      have closed : scanByte D N s '"'.toUInt8 =
          .ok { s with inString := false, inAtom := false } := by
        simp [scanByte, inside, unescaped, isByte_ascii]
      rw [List.nil_append, utf8_ascii (by decide), scanFrom, closed]
  | plain graphic quote slash _ ih =>
      rw [List.cons_append, scan_plain inside unescaped quote slash, ih]
  | escape value _ ih =>
      rw [List.cons_append, List.cons_append,
        scan_escape inside unescaped (escapeValue_ascii value), ih]
  | unicode value _ ih =>
      obtain ⟨w, x, y, z, first, second, third, fourth⟩ := hex4_some value
      simp only [List.cons_append]
      rw [scan_escape inside unescaped (by decide),
        scan_plain inside unescaped (hexUnit_plain first).1 (hexUnit_plain first).2,
        scan_plain inside unescaped (hexUnit_plain second).1 (hexUnit_plain second).2,
        scan_plain inside unescaped (hexUnit_plain third).1 (hexUnit_plain third).2,
        scan_plain inside unescaped (hexUnit_plain fourth).1 (hexUnit_plain fourth).2, ih]

theorem Counts.string {text : List Char} {units : Units} (contents : Contents text units) :
    Counts D N ('"' :: (text ++ ['"'])) 0 1 := by
  intro s between fresh
  have opened : scanByte D N s '"'.toUInt8 =
      boundedNodes N { s with nodes := s.nodes + 1, inString := true, inAtom := false } := by
    simp [scanByte, between.outside, isByte_ascii]
  rw [utf8_ascii (by decide), scanFrom, opened, boundedNodes]
  refine ⟨fun _ fits => ⟨false, ?_⟩, fun past => ?_⟩
  · rw [if_neg (Nat.not_lt.mpr fits)]
    have read := @scan_contents D N { s with nodes := s.nodes + 1, inString := true, inAtom := false }
      text units contents rfl between.unescaped []
    dsimp only at read ⊢
    rw [read, between.outside]
    rfl
  · rcases past with deep | many
    · exact absurd between.depth_le (Nat.not_le.mpr deep)
    · rw [if_pos many]
      exact ⟨_, rfl⟩

/-! ### Atoms -/

/-- The bytes of an atom are of no delimiter. -/
theorem isByte_atom {c d : Char} {b : UInt8} (atom : isAtomChar c = true)
    (mem : b ∈ String.utf8EncodeChar c) (ascii : d.toNat < 128) (delimiter : isAtomChar d = false) :
    isByte b d = false := by
  rw [isByte, decide_eq_false_iff_not]
  rintro rfl
  rw [eq_of_byte_mem ascii mem, delimiter] at atom
  cases atom

theorem scan_atom_byte {s : JsonScan} {c : Char} {b : UInt8} (outside : s.inString = false)
    (atom : isAtomChar c = true) (mem : b ∈ String.utf8EncodeChar c) :
    scanByte D N s b =
      if s.inAtom then boundedNodes N s
      else boundedNodes N { s with nodes := s.nodes + 1, inAtom := true } := by
  have other : ∀ d : Char, d.toNat < 128 → isAtomChar d = false → isByte b d = false :=
    fun d ascii delimiter => isByte_atom atom mem ascii delimiter
  have delimiters : isByte b '"' = false ∧ (isByte b '{' || isByte b '[') = false ∧
      (isByte b '}' || isByte b ']') = false ∧
      (isByte b ',' || isByte b ':' || isByte b ' ' || isByte b '\n' || isByte b '\r' ||
        isByte b '\t') = false := by
    simp [other '"' (by decide) (by decide), other '{' (by decide) (by decide),
      other '[' (by decide) (by decide), other '}' (by decide) (by decide),
      other ']' (by decide) (by decide), other ',' (by decide) (by decide),
      other ':' (by decide) (by decide), other ' ' (by decide) (by decide),
      other '\n' (by decide) (by decide), other '\r' (by decide) (by decide),
      other '\t' (by decide) (by decide)]
  obtain ⟨quote, open_, close, separator⟩ := delimiters
  rw [scanByte, outside, quote, open_, close, separator]
  cases s.inAtom <;> rfl

/-- Inside an atom nothing more is counted. -/
theorem scan_atom_rest {s : JsonScan} {bytes : List UInt8} (between : Between D N s)
    (within : s.inAtom = true)
    (atoms : ∀ b ∈ bytes, ∃ c, isAtomChar c = true ∧ b ∈ String.utf8EncodeChar c) :
    scanFrom D N s bytes = .ok s := by
  induction bytes with
  | nil => rfl
  | cons b bytes ih =>
      obtain ⟨c, atom, mem⟩ := atoms b List.mem_cons_self
      rw [scanFrom, scan_atom_byte between.outside atom mem, if_pos within, boundedNodes,
        if_neg (Nat.not_lt.mpr between.nodes_le)]
      exact ih fun d mem => atoms d (List.mem_cons_of_mem b mem)

theorem Counts.atom {text : List Char} (atom : IsAtom text) : Counts D N text 0 1 := by
  intro s between fresh
  have atoms : ∀ b ∈ utf8 text, ∃ c, isAtomChar c = true ∧ b ∈ String.utf8EncodeChar c := by
    intro b mem
    obtain ⟨c, part, byte⟩ := List.mem_flatMap.mp mem
    exact ⟨c, atom.2 c part, byte⟩
  cases bytes : utf8 text with
  | nil =>
      cases text with
      | nil => exact absurd rfl atom.1
      | cons c text =>
          have size := congrArg List.length bytes
          rw [utf8_cons, List.length_append, String.length_utf8EncodeChar, List.length_nil] at size
          have := c.utf8Size_pos
          omega
  | cons b rest =>
      rw [bytes] at atoms
      obtain ⟨c, first, mem⟩ := atoms b List.mem_cons_self
      rw [scanFrom, scan_atom_byte between.outside first mem, fresh, if_neg Bool.false_ne_true,
        boundedNodes]
      refine ⟨fun _ fits => ⟨true, ?_⟩, fun past => ?_⟩
      · rw [if_neg (Nat.not_lt.mpr fits)]
        exact scan_atom_rest ⟨between.outside, between.unescaped, between.depth_le, fits⟩ rfl
          fun d mem => atoms d (List.mem_cons_of_mem b mem)
      · rcases past with deep | many
        · exact absurd between.depth_le (Nat.not_le.mpr deep)
        · rw [if_pos many]
          exact ⟨_, rfl⟩

/-! ### Texts made of texts -/

theorem Counts.empty {space : List Char} (ws : Ws space) : Counts D N space 0 0 := by
  intro s between fresh
  have read := scan_space between fresh ws []
  rw [List.append_nil] at read
  rw [read]
  refine ⟨fun _ _ => ⟨s.inAtom, rfl⟩, fun past => ?_⟩
  rcases past with deep | many
  · exact absurd between.depth_le (Nat.not_le.mpr deep)
  · exact absurd between.nodes_le (Nat.not_le.mpr many)

theorem Counts.spaced {before text after : List Char} {depth nodes : Nat} (ws : Ws before)
    (counts : Counts D N text depth nodes) (ws' : Ws after) :
    Counts D N (before ++ (text ++ after)) depth nodes := by
  intro s between fresh
  obtain ⟨fine, fails⟩ := counts s between fresh
  rw [scan_space between fresh ws, utf8_append, scanFrom_append]
  refine ⟨fun shallow fits => ?_, fun past => ?_⟩
  · obtain ⟨a, read⟩ := fine shallow fits
    have reached : Between D N { s with nodes := s.nodes + nodes, inAtom := a } :=
      ⟨between.outside, between.unescaped, between.depth_le, fits⟩
    obtain ⟨a', trailing⟩ := scan_space_after reached ws' []
    rw [List.append_nil] at trailing
    refine ⟨a', ?_⟩
    rw [read]
    exact trailing
  · obtain ⟨failure, read⟩ := fails past
    exact ⟨failure, by rw [read]⟩

/-- Two texts with a separator between them. -/
theorem Counts.joined {first second : List Char} {c : Char} {depth depth' nodes nodes' : Nat}
    (counts : Counts D N first depth nodes) (separator : c = ',' ∨ c = ':')
    (counts' : Counts D N second depth' nodes') :
    Counts D N (first ++ c :: second) (max depth depth') (nodes + nodes') := by
  intro s between fresh
  obtain ⟨fine, fails⟩ := counts s between fresh
  rw [utf8_append, scanFrom_append]
  by_cases here : s.depth + depth ≤ D ∧ s.nodes + nodes ≤ N
  · obtain ⟨a, read⟩ := fine here.1 here.2
    have reached : Between D N { s with nodes := s.nodes + nodes, inAtom := a } :=
      ⟨between.outside, between.unescaped, between.depth_le, here.2⟩
    rw [read]
    dsimp only
    rw [scan_separator reached (separator.elim .inl fun colon => .inr (.inl colon))]
    obtain ⟨fine', fails'⟩ := counts' _ (reached.separated false) rfl
    refine ⟨fun shallow fits => ?_, fun past => fails' ?_⟩
    · obtain ⟨a', read'⟩ := fine' (by dsimp only; omega) (by dsimp only; omega)
      refine ⟨a', read'.trans ?_⟩
      simp only [Nat.add_assoc]
    · dsimp only
      omega
  · obtain ⟨failure, read⟩ := fails (by omega)
    rw [read]
    exact ⟨fun shallow fits => absurd ⟨by omega, by omega⟩ here, fun _ => ⟨failure, rfl⟩⟩

/-- A container counts one node, and one level of depth. -/
theorem Counts.container {text : List Char} {depth nodes : Nat} {o c : Char}
    (opens : o = '{' ∨ o = '[') (closes : c = '}' ∨ c = ']') (counts : Counts D N text depth nodes) :
    Counts D N (o :: (text ++ [c])) (1 + depth) (1 + nodes) := by
  intro s between fresh
  have ascii : o.toNat < 128 := by rcases opens with rfl | rfl <;> decide
  have ascii' : c.toNat < 128 := by rcases closes with rfl | rfl <;> decide
  have opened : scanByte D N s o.toUInt8 =
      if D < s.depth + 1 then .error ⟨.json, .inputTooDeep⟩
      else boundedNodes N { s with nodes := s.nodes + 1, depth := s.depth + 1, inAtom := false } := by
    rcases opens with rfl | rfl <;> simp [scanByte, between.outside, isByte_ascii]
  have closed : ∀ s' : JsonScan, s'.inString = false → scanByte D N s' c.toUInt8 =
      boundedNodes N { s' with depth := s'.depth - 1, inAtom := false } := by
    intro s' outside
    rcases closes with rfl | rfl <;> simp [scanByte, outside, isByte_ascii]
  rw [utf8_ascii ascii, scanFrom, opened]
  by_cases deep : D < s.depth + 1
  · rw [if_pos deep]
    exact ⟨fun shallow _ => absurd shallow (by omega), fun _ => ⟨_, rfl⟩⟩
  rw [if_neg deep, boundedNodes]
  by_cases many : N < s.nodes + 1
  · dsimp only
    rw [if_pos many]
    exact ⟨fun _ fits => absurd fits (by omega), fun _ => ⟨_, rfl⟩⟩
  dsimp only
  rw [if_neg many]
  dsimp only
  have inside : Between D N { s with nodes := s.nodes + 1, depth := s.depth + 1, inAtom := false } :=
    ⟨between.outside, between.unescaped, by dsimp only; omega, by dsimp only; omega⟩
  obtain ⟨fine, fails⟩ := counts _ inside rfl
  rw [utf8_append, scanFrom_append]
  refine ⟨fun shallow fits => ⟨false, ?_⟩, fun past => ?_⟩
  · obtain ⟨a, read⟩ := fine (by dsimp only; omega) (by dsimp only; omega)
    have kept : ¬ N < s.nodes + 1 + nodes := by omega
    rw [read]
    dsimp only
    have shut := closed
      { s with nodes := s.nodes + 1 + nodes, depth := s.depth + 1, inAtom := a } between.outside
    rw [utf8_ascii ascii', scanFrom, shut, boundedNodes]
    dsimp only
    rw [if_neg kept, Nat.add_sub_cancel, Nat.add_assoc]
    rfl
  · obtain ⟨failure, read⟩ := fails (by dsimp only; omega)
    exact ⟨failure, by rw [read]⟩

end Scan

/-! ## The scan counts the tree -/

def Content.depth : Content → Nat
  | .value t => t.depth
  | .element t => t.depth
  | .elements items => Tree.depthItems items
  | .members members => Tree.depthMembers members

def Content.nodes : Content → Nat
  | .value t => t.nodes
  | .element t => t.nodes
  | .elements items => Tree.nodesItems items
  | .members members => Tree.nodesMembers members

theorem Counts.congr {D N : Nat} {text : List Char} {depth depth' nodes nodes' : Nat}
    (counts : Counts D N text depth nodes) (same : depth' = depth) (same' : nodes' = nodes) :
    Counts D N text depth' nodes' := by
  rw [same, same']
  exact counts

/-- On what the grammar derives, the scan counts what the tree has. -/
theorem Derives.counts {D N : Nat} {content : Content} {text : List Char}
    (derives : Derives content text) : Counts D N text (Content.depth content) (Content.nodes content) := by
  have keyed : ∀ {before key after : List Char} {units : Units}, Ws before → Contents key units →
      Ws after → Counts D N (before ++ (('"' :: (key ++ ['"'])) ++ after)) 0 1 :=
    fun ws contents ws' => .spaced ws (.string contents) ws'
  induction derives with
  | nullText => exact .atom (.of_all (by decide) (by decide))
  | trueText => exact .atom (.of_all (by decide) (by decide))
  | falseText => exact .atom (.of_all (by decide) (by decide))
  | number number => exact .atom (atom_of_number number)
  | string contents => exact .string contents
  | emptyArray ws => exact .container (.inr rfl) (.inr rfl) (.empty ws)
  | emptyObject ws => exact .container (.inl rfl) (.inl rfl) (.empty ws)
  | array inside ih => exact .container (.inr rfl) (.inr rfl) ih
  | object inside ih => exact .container (.inl rfl) (.inl rfl) ih
  | element ws value ws' ih => exact .spaced ws ih ws'
  | one element ih =>
      exact ih.congr (by simp [Content.depth, Tree.depthItems])
        (by simp [Content.nodes, Tree.nodesItems])
  | more element others ih ih' => exact .joined ih (.inl rfl) ih'
  | @member before key after inner units t ws contents ws' element ih =>
      have joined := Counts.joined (keyed ws contents ws') (.inr rfl) ih
      simp only [List.append_assoc, List.cons_append, List.nil_append] at joined
      exact joined.congr (by simp [Content.depth, Tree.depthMembers])
        (by simp [Content.nodes, Tree.nodesMembers])
  | @moreMembers before key after inner others units t ms ws contents ws' element more ih ih' =>
      have joined := Counts.joined (keyed ws contents ws') (.inr rfl) (Counts.joined ih (.inl rfl) ih')
      simp only [List.append_assoc, List.cons_append, List.nil_append] at joined
      exact joined.congr (by simp [Content.depth, Tree.depthMembers])
        (by simp [Content.nodes, Tree.nodesMembers])

/-- The scan accepts a text exactly when its tree is within the bounds. -/
theorem scanJsonLimits_iff {maxDepth maxNodes : Nat} {text : List Char} {t : Tree} (is : IsText text t) :
    scanJsonLimits (utf8 text) maxDepth maxNodes = .ok () ↔ t.depth ≤ maxDepth ∧ t.nodes ≤ maxNodes := by
  have start : Between maxDepth maxNodes {} := ⟨rfl, rfl, Nat.zero_le _, Nat.zero_le _⟩
  obtain ⟨fine, fails⟩ := Derives.counts is {} start rfl
  unfold scanJsonLimits
  by_cases within : t.depth ≤ maxDepth ∧ t.nodes ≤ maxNodes
  · obtain ⟨a, read⟩ := fine (by simpa [Content.depth] using within.1) (by simpa [Content.nodes] using within.2)
    rw [read]
    exact iff_of_true rfl within
  · have past : maxDepth < 0 + Content.depth (.element t) ∨ maxNodes < 0 + Content.nodes (.element t) := by
      simp only [Content.depth, Content.nodes]
      omega
    obtain ⟨failure, read⟩ := fails past
    rw [read]
    exact iff_of_false nofun within

/-! ## The visitor keeps a tree without repeated keys -/

mutual

theorem uniqueValue_iff : ∀ t v : Tree, uniqueValue t = .ok v ↔ t.UniqueKeys ∧ v = t
  | .null, v => by simp [uniqueValue, Tree.UniqueKeys, eq_comm]
  | .bool b, v => by simp [uniqueValue, Tree.UniqueKeys, eq_comm]
  | .number n, v => by simp [uniqueValue, Tree.UniqueKeys, eq_comm]
  | .string u, v => by simp [uniqueValue, Tree.UniqueKeys, eq_comm]
  | .array items, v => by
      have each := visitSeq_iff items
      rw [uniqueValue, Tree.UniqueKeys]
      cases visited : visitSeq items with
      | error e =>
          have none : ¬ Tree.UniqueItems items := fun unique => by
            have fine := (each items).mpr ⟨unique, rfl⟩
            rw [visited] at fine
            cases fine
          exact iff_of_false nofun fun both => none both.1
      | ok values =>
          obtain ⟨unique, rfl⟩ := (each values).mp visited
          simp [unique, eq_comm]
  | .object members, v => by
      have each := visitMap_iff [] members
      rw [uniqueValue, Tree.UniqueKeys]
      simp only [List.not_mem_nil, not_false_eq_true, implies_true, and_true] at each
      cases visited : visitMap [] members with
      | error e =>
          have none : ¬ ((members.map Prod.fst).Nodup ∧ Tree.UniqueMembers members) := fun unique => by
            have fine := (each members).mpr ⟨⟨unique.1, unique.2⟩, rfl⟩
            rw [visited] at fine
            cases fine
          exact iff_of_false nofun fun both => none both.1
      | ok values =>
          obtain ⟨unique, rfl⟩ := (each values).mp visited
          simp [unique, eq_comm]

theorem visitSeq_iff : ∀ items vs : List Tree, visitSeq items = .ok vs ↔ Tree.UniqueItems items ∧ vs = items
  | [], vs => by simp [visitSeq, Tree.UniqueItems, eq_comm]
  | t :: items, vs => by
      have first := uniqueValue_iff t
      have others := visitSeq_iff items
      rw [visitSeq, Tree.UniqueItems]
      cases visited : uniqueValue t with
      | error e =>
          have none : ¬ t.UniqueKeys := fun unique => by
            have fine := (first t).mpr ⟨unique, rfl⟩
            rw [visited] at fine
            cases fine
          exact iff_of_false nofun fun both => none both.1.1
      | ok value =>
          obtain ⟨unique, rfl⟩ := (first value).mp visited
          cases rest : visitSeq items with
          | error e =>
              have none : ¬ Tree.UniqueItems items := fun unique => by
                have fine := (others items).mpr ⟨unique, rfl⟩
                rw [rest] at fine
                cases fine
              exact iff_of_false nofun fun both => none both.1.2
          | ok values =>
              obtain ⟨unique', rfl⟩ := (others values).mp rest
              simp [unique, unique', eq_comm]

theorem visitMap_iff : ∀ (keys : List Units) (members vs : List (Units × Tree)),
    visitMap keys members = .ok vs ↔ ((members.map Prod.fst).Nodup ∧ Tree.UniqueMembers members ∧
      ∀ key ∈ members.map Prod.fst, key ∉ keys) ∧ vs = members
  | keys, [], vs => by simp [visitMap, Tree.UniqueMembers, eq_comm]
  | keys, (key, t) :: members, vs => by
      have first := uniqueValue_iff t
      have others := visitMap_iff (key :: keys) members
      rw [visitMap, Tree.UniqueMembers]
      by_cases met : key ∈ keys
      · rw [if_pos met]
        exact iff_of_false nofun fun both => both.1.2.2 key (by simp) met
      rw [if_neg met]
      cases visited : uniqueValue t with
      | error e =>
          have none : ¬ t.UniqueKeys := fun unique => by
            have fine := (first t).mpr ⟨unique, rfl⟩
            rw [visited] at fine
            cases fine
          exact iff_of_false nofun fun both => none both.1.2.1.1
      | ok value =>
          obtain ⟨unique, rfl⟩ := (first value).mp visited
          have apart : ((members.map Prod.fst).Nodup ∧ Tree.UniqueMembers members ∧
              ∀ k ∈ members.map Prod.fst, k ∉ key :: keys) ↔
              (((key, value) :: members).map Prod.fst).Nodup ∧ Tree.UniqueMembers members ∧
                ∀ k ∈ ((key, value) :: members).map Prod.fst, k ∉ keys := by
            simp only [List.map_cons, List.nodup_cons, List.mem_cons, not_or, forall_eq_or_imp]
            constructor
            · rintro ⟨nodup, uniques, new⟩
              exact ⟨⟨fun mem => (new key mem).1 rfl, nodup⟩, uniques, met, fun k mem => (new k mem).2⟩
            · rintro ⟨⟨other, nodup⟩, uniques, -, new⟩
              refine ⟨nodup, uniques, fun k mem => ⟨?_, new k mem⟩⟩
              rintro rfl
              exact other mem
          cases rest : visitMap (key :: keys) members with
          | error e =>
              refine iff_of_false nofun fun both => ?_
              have fine := (others members).mpr
                ⟨apart.mpr ⟨both.1.1, both.1.2.1.2, both.1.2.2⟩, rfl⟩
              rw [rest] at fine
              cases fine
          | ok values =>
              obtain ⟨fits, rfl⟩ := (others values).mp rest
              have whole := apart.mp fits
              constructor
              · intro same
                exact ⟨⟨whole.1, ⟨unique, whole.2.1⟩, whole.2.2⟩, (Except.ok.inj same).symm⟩
              · rintro ⟨-, rfl⟩
                rfl

end

/-! ## What is accepted -/

/-- A JSON text in UTF-8, and what it stands for. -/
def IsJson (bytes : ByteArray) (t : Tree) : Prop := ∃ text, bytes = text.utf8Encode ∧ IsText text t

theorem utf8Encode_bytes (text : List Char) : text.utf8Encode.data.toList = utf8 text := by
  rw [List.utf8Encode, List.data_toByteArray]
  rfl

section Accepted

variable {parse : List Char → Except SyntaxFailure Tree} {bytes : ByteArray} {maxBytes maxDepth maxNodes : Nat}

/-- What an accepted text is, with an exact parser. -/
theorem validateBoundedJson_ok (exact : ExactParser parse) {v : Tree}
    (accepted : validateBoundedJson parse bytes maxBytes maxDepth maxNodes = .ok v) :
    IsJson bytes v ∧ bytes.size ≤ maxBytes ∧ v.depth ≤ maxDepth ∧ v.nodes ≤ maxNodes ∧ v.UniqueKeys := by
  unfold validateBoundedJson at accepted
  split at accepted
  · cases accepted
  rename_i small
  cases decoded : bytes.utf8Decode? with
  | none => simp only [decoded, reduceCtorEq] at accepted
  | some text =>
      have encoded : bytes = text.toList.utf8Encode := by
        have isSome : bytes.utf8Decode?.isSome := by rw [decoded]; rfl
        have back := @ByteArray.utf8Encode_get_utf8Decode? bytes isSome
        simp only [decoded, Option.get_some] at back
        exact back.symm
      simp only [decoded] at accepted
      cases scanned : scanJsonLimits bytes.data.toList maxDepth maxNodes with
      | error failure => simp only [scanned, reduceCtorEq] at accepted
      | ok _ =>
          simp only [scanned] at accepted
          cases parsed : parse text.toList with
          | error failure => simp only [parsed, reduceCtorEq] at accepted
          | ok t =>
              simp only [parsed] at accepted
              cases visited : uniqueValue t with
              | error e => simp only [visited, reduceCtorEq] at accepted
              | ok value =>
                  simp only [visited, Except.ok.injEq] at accepted
                  obtain ⟨unique, rfl⟩ := (uniqueValue_iff t value).mp visited
                  obtain rfl := accepted
                  have is := exact.sound _ _ parsed
                  rw [encoded, utf8Encode_bytes] at scanned
                  obtain ⟨depth_le, nodes_le⟩ := (scanJsonLimits_iff is).mp scanned
                  exact ⟨⟨_, encoded, is⟩, Nat.not_lt.mp small, depth_le, nodes_le, unique⟩

theorem validateBoundedJson_of_fits (exact : ExactParser parse) {t : Tree} (is : IsJson bytes t)
    (small : bytes.size ≤ maxBytes) (depth_le : t.depth ≤ maxDepth) (nodes_le : t.nodes ≤ maxNodes)
    (unique : t.UniqueKeys) : validateBoundedJson parse bytes maxBytes maxDepth maxNodes = .ok t := by
  obtain ⟨text, rfl, is⟩ := is
  have scanned := (scanJsonLimits_iff is).mpr ⟨depth_le, nodes_le⟩
  have visited := (uniqueValue_iff t t).mpr ⟨unique, rfl⟩
  rw [validateBoundedJson, if_neg (Nat.not_lt.mpr small), List.utf8Decode?_utf8Encode]
  simp only [utf8Encode_bytes, scanned, exact.reads _ _ is, visited]

/-- Bytes stand for one tree. -/
theorem IsJson.unique {t v : Tree} (is : IsJson bytes t) (is' : IsJson bytes v) : t = v := by
  obtain ⟨text, encoded, is⟩ := is
  obtain ⟨text', encoded', is'⟩ := is'
  have texts : text' = text := by
    have decoded := congrArg ByteArray.utf8Decode? (encoded'.symm.trans encoded)
    rw [List.utf8Decode?_utf8Encode, List.utf8Decode?_utf8Encode] at decoded
    exact List.toArray_inj (Option.some.inj decoded)
  exact is.unique (texts ▸ is')

/-- The scan, and the validation around it, are exact on JSON texts; whatever is accepted stands for
the value that is returned and is within the bounds. -/
theorem validateBoundedJson_exact (exact : ExactParser parse) :
    (∀ t, IsJson bytes t →
      (scanJsonLimits bytes.data.toList maxDepth maxNodes = .ok () ↔
        t.depth ≤ maxDepth ∧ t.nodes ≤ maxNodes) ∧
      ((∃ v, validateBoundedJson parse bytes maxBytes maxDepth maxNodes = .ok v) ↔
        bytes.size ≤ maxBytes ∧ t.depth ≤ maxDepth ∧ t.nodes ≤ maxNodes ∧ t.UniqueKeys)) ∧
    (∀ v, validateBoundedJson parse bytes maxBytes maxDepth maxNodes = .ok v →
      IsJson bytes v ∧ v.depth ≤ maxDepth ∧ v.values ≤ maxNodes) := by
  refine ⟨fun t is => ⟨?_, ?_, ?_⟩, fun v accepted => ?_⟩
  · obtain ⟨text, rfl, is⟩ := is
    rw [utf8Encode_bytes]
    exact scanJsonLimits_iff is
  · rintro ⟨v, accepted⟩
    obtain ⟨is_v, fits⟩ := validateBoundedJson_ok exact accepted
    rw [is.unique is_v]
    exact fits
  · rintro ⟨small, depth_le, nodes_le, unique⟩
    exact ⟨t, validateBoundedJson_of_fits exact is small depth_le nodes_le unique⟩
  · obtain ⟨is, -, depth_le, nodes_le, -⟩ := validateBoundedJson_ok exact accepted
    exact ⟨is, depth_le, Nat.le_trans v.values_le_nodes nodes_le⟩

end Accepted

open Classical in
/-- An exact parser: the tree a text stands for, if it stands for one. -/
noncomputable def parseText (text : List Char) : Except SyntaxFailure Tree :=
  if stands : ∃ t, IsText text t then .ok stands.choose else .error ⟨false⟩

theorem parseText_exact : ExactParser parseText := by
  constructor
  · intro text t is
    have stands : ∃ t, IsText text t := ⟨t, is⟩
    rw [parseText, dif_pos stands, is.unique stands.choose_spec]
  · intro text t parsed
    unfold parseText at parsed
    split at parsed
    · rename_i stands
      rw [← Except.ok.inj parsed]
      exact stands.choose_spec
    · cases parsed

/-- A key, and an escaped line feed in an array. -/
def keyedText : List Char := ['{', '"', 'a', '"', ':', '[', '"', '\\', 'n', '"', ']', '}']

def keyedTree : Tree := .object [([97], .array [.string [10]])]

theorem keyedText_is : IsText keyedText keyedTree := by
  have blank : Ws [] := by simp [Ws]
  have escaped : Contents ['\\', 'n'] [10] := .escape (by decide) .nil
  have key : Contents ['a'] [97] := .plain (by decide) (by decide) (by decide) .nil
  have string : Derives (.element (.string [10])) ['"', '\\', 'n', '"'] :=
    @Derives.element [] _ [] _ blank (.string escaped) blank
  have array : Derives (.element (.array [.string [10]])) ['[', '"', '\\', 'n', '"', ']'] :=
    @Derives.element [] _ [] _ blank (.array (.one string)) blank
  have members : Derives (.members [([97], .array [.string [10]])])
      ['"', 'a', '"', ':', '[', '"', '\\', 'n', '"', ']'] :=
    @Derives.member [] ['a'] [] _ _ _ blank key blank array
  exact @Derives.element [] _ [] _ blank (.object members) blank

/-- Twelve bytes, nested twice, of three values and a key: they fit, and three nodes are too few. -/
theorem validateBoundedJson_keyed :
    validateBoundedJson parseText keyedText.utf8Encode 12 2 4 = .ok keyedTree ∧
    ¬ ∃ v, validateBoundedJson parseText keyedText.utf8Encode 12 2 3 = .ok v := by
  have is : IsJson keyedText.utf8Encode keyedTree := ⟨_, rfl, keyedText_is⟩
  have size : keyedText.utf8Encode.size = 12 := by
    have bytes := congrArg List.length (utf8Encode_bytes keyedText)
    simpa [keyedText, utf8_ascii, show utf8 [] = [] from rfl] using bytes
  have unique : keyedTree.UniqueKeys := by
    simp [keyedTree, Tree.UniqueKeys, Tree.UniqueItems, Tree.UniqueMembers]
  constructor
  · obtain ⟨decides, returns⟩ := @validateBoundedJson_exact parseText keyedText.utf8Encode 12 2 4 parseText_exact
    obtain ⟨v, accepted⟩ := (decides keyedTree is).2.mpr ⟨Nat.le_of_eq size, by decide, by decide, unique⟩
    rw [accepted, is.unique (returns v accepted).1]
  · intro accepted
    obtain ⟨decides, -⟩ := @validateBoundedJson_exact parseText keyedText.utf8Encode 12 2 3 parseText_exact
    obtain ⟨-, -, nodes, -⟩ := (decides keyedTree is).2.mp accepted
    exact absurd nodes (by decide)

end LibraGovernor
