/-
# LibraGovernor.Lib.JsonText -- the grammar of JSON texts

`Derives` is the grammar of RFC 8259, over characters, with the tree each text stands for.  A
repeated key is two members of the tree.  A string stands for its UTF-16 units, so that the
escape of a lone surrogate, which the grammar has, stands for something too.

`read` reads a text by one character of lookahead.  It reads every text that derives a tree
(`Derives.reads`), so a text stands for one tree only (`IsText.unique`).
-/
import Mathlib.Data.List.Basic

set_option autoImplicit false

namespace JsonText

/-! ## Trees -/

/-- A string's UTF-16 units. -/
abbrev Units := List Nat

inductive Tree where
  | null
  | bool (value : Bool)
  | number (text : List Char)
  | string (value : Units)
  | array (items : List Tree)
  | object (members : List (Units × Tree))

namespace Tree

mutual

/-- How deep containers nest. -/
def depth : Tree → Nat
  | .array items => 1 + depthItems items
  | .object members => 1 + depthMembers members
  | _ => 0

def depthItems : List Tree → Nat
  | [] => 0
  | t :: items => max t.depth (depthItems items)

def depthMembers : List (Units × Tree) → Nat
  | [] => 0
  | (_, t) :: members => max t.depth (depthMembers members)

end

mutual

/-- Values and object keys. -/
def nodes : Tree → Nat
  | .array items => 1 + nodesItems items
  | .object members => 1 + nodesMembers members
  | _ => 1

def nodesItems : List Tree → Nat
  | [] => 0
  | t :: items => t.nodes + nodesItems items

def nodesMembers : List (Units × Tree) → Nat
  | [] => 0
  | (_, t) :: members => 1 + (t.nodes + nodesMembers members)

end

mutual

/-- Values alone. -/
def values : Tree → Nat
  | .array items => 1 + valuesItems items
  | .object members => 1 + valuesMembers members
  | _ => 1

def valuesItems : List Tree → Nat
  | [] => 0
  | t :: items => t.values + valuesItems items

def valuesMembers : List (Units × Tree) → Nat
  | [] => 0
  | (_, t) :: members => t.values + valuesMembers members

end

mutual

/-- No object repeats a key. -/
def UniqueKeys : Tree → Prop
  | .array items => UniqueItems items
  | .object members => (members.map Prod.fst).Nodup ∧ UniqueMembers members
  | _ => True

def UniqueItems : List Tree → Prop
  | [] => True
  | t :: items => t.UniqueKeys ∧ UniqueItems items

def UniqueMembers : List (Units × Tree) → Prop
  | [] => True
  | (_, t) :: members => t.UniqueKeys ∧ UniqueMembers members

end

mutual

theorem values_le_nodes : ∀ t : Tree, t.values ≤ t.nodes
  | .null => Nat.le_refl _
  | .bool _ => Nat.le_refl _
  | .number _ => Nat.le_refl _
  | .string _ => Nat.le_refl _
  | .array items => Nat.add_le_add_left (valuesItems_le items) 1
  | .object members => Nat.add_le_add_left (valuesMembers_le members) 1

theorem valuesItems_le : ∀ items : List Tree, valuesItems items ≤ nodesItems items
  | [] => Nat.le_refl _
  | t :: items => Nat.add_le_add t.values_le_nodes (valuesItems_le items)

theorem valuesMembers_le : ∀ members : List (Units × Tree), valuesMembers members ≤ nodesMembers members
  | [] => Nat.le_refl _
  | (_, t) :: members =>
      Nat.le_trans (Nat.add_le_add t.values_le_nodes (valuesMembers_le members)) (Nat.le_add_left _ 1)

end

end Tree

/-! ## Characters -/

/-- `ws`, one character of it. -/
def isWs (c : Char) : Bool := c = ' ' || c = '\t' || c = '\n' || c = '\r'

/-- A character of no delimiter, quote or whitespace. -/
def isAtomChar (c : Char) : Bool :=
  !(isWs c || c = '"' || c = '{' || c = '}' || c = '[' || c = ']' || c = ',' || c = ':')

/-- The UTF-16 units of a character. -/
def utf16 (c : Char) : Units :=
  if c.toNat < 0x10000 then [c.toNat]
  else [0xD800 + (c.toNat - 0x10000) / 0x400, 0xDC00 + (c.toNat - 0x10000) % 0x400]

/-- What stands after a backslash, but for `u`. -/
def escapeValue : Char → Option Nat
  | '"' => some 0x22
  | '\\' => some 0x5C
  | '/' => some 0x2F
  | 'b' => some 0x08
  | 'f' => some 0x0C
  | 'n' => some 0x0A
  | 'r' => some 0x0D
  | 't' => some 0x09
  | _ => none

/-- `HEXDIG`, in either case. -/
def hexUnit (c : Char) : Option Nat :=
  if '0' ≤ c ∧ c ≤ '9' then some (c.toNat - 48)
  else if 'a' ≤ c ∧ c ≤ 'f' then some (c.toNat - 87)
  else if 'A' ≤ c ∧ c ≤ 'F' then some (c.toNat - 55)
  else none

/-- `4HEXDIG`. -/
def hex4 (a b c d : Char) : Option Nat := do
  let a ← hexUnit a
  let b ← hexUnit b
  let c ← hexUnit c
  let d ← hexUnit d
  return ((a * 16 + b) * 16 + c) * 16 + d

/-! ## Numbers -/

def isDigit (c : Char) : Bool := '0' ≤ c && c ≤ '9'

/-- `1*DIGIT`. -/
def isDigits (text : List Char) : Bool := !text.isEmpty && text.all isDigit

/-- `[ exp ]`. -/
def isExponent : List Char → Bool
  | [] => true
  | e :: '-' :: rest => (e = 'e' || e = 'E') && isDigits rest
  | e :: '+' :: rest => (e = 'e' || e = 'E') && isDigits rest
  | e :: rest => (e = 'e' || e = 'E') && isDigits rest

/-- `[ frac ] [ exp ]`. -/
def isFraction : List Char → Bool
  | '.' :: rest => isDigits (rest.takeWhile isDigit) && isExponent (rest.dropWhile isDigit)
  | rest => isExponent rest

/-- `int [ frac ] [ exp ]`. -/
def isUnsigned (text : List Char) : Bool :=
  isDigits (text.takeWhile isDigit) &&
    (text.takeWhile isDigit = ['0'] || text.head? ≠ some '0') && isFraction (text.dropWhile isDigit)

/-- `number`. -/
def isNumber : List Char → Bool
  | '-' :: rest => isUnsigned rest
  | text => isUnsigned text

/-! ## The grammar -/

/-- `*char`, the inside of a string. -/
inductive Contents : List Char → Units → Prop
  | nil : Contents [] []
  | plain {c : Char} {text : List Char} {units : Units} (graphic : 0x20 ≤ c.toNat) (quote : c ≠ '"')
      (slash : c ≠ '\\') (rest : Contents text units) : Contents (c :: text) (utf16 c ++ units)
  | escape {c : Char} {unit : Nat} {text : List Char} {units : Units}
      (value : escapeValue c = some unit) (rest : Contents text units) :
      Contents ('\\' :: c :: text) (unit :: units)
  | unicode {a b c d : Char} {unit : Nat} {text : List Char} {units : Units}
      (value : hex4 a b c d = some unit) (rest : Contents text units) :
      Contents ('\\' :: 'u' :: a :: b :: c :: d :: text) (unit :: units)

/-- What a text may stand for: a value, a value between whitespace, or the inside of an array or
an object that is not empty. -/
inductive Content where
  | value (t : Tree)
  | element (t : Tree)
  | elements (items : List Tree)
  | members (members : List (Units × Tree))

def Ws (text : List Char) : Prop := ∀ c ∈ text, isWs c = true

inductive Derives : Content → List Char → Prop
  | nullText : Derives (.value .null) ['n', 'u', 'l', 'l']
  | trueText : Derives (.value (.bool true)) ['t', 'r', 'u', 'e']
  | falseText : Derives (.value (.bool false)) ['f', 'a', 'l', 's', 'e']
  | number {text : List Char} (number : isNumber text = true) : Derives (.value (.number text)) text
  | string {text : List Char} {units : Units} (contents : Contents text units) :
      Derives (.value (.string units)) ('"' :: (text ++ ['"']))
  | emptyArray {space : List Char} (ws : Ws space) :
      Derives (.value (.array [])) ('[' :: (space ++ [']']))
  | array {items : List Tree} {text : List Char} (inside : Derives (.elements items) text) :
      Derives (.value (.array items)) ('[' :: (text ++ [']']))
  | emptyObject {space : List Char} (ws : Ws space) :
      Derives (.value (.object [])) ('{' :: (space ++ ['}']))
  | object {ms : List (Units × Tree)} {text : List Char} (inside : Derives (.members ms) text) :
      Derives (.value (.object ms)) ('{' :: (text ++ ['}']))
  | element {before text after : List Char} {t : Tree} (ws : Ws before)
      (value : Derives (.value t) text) (ws' : Ws after) :
      Derives (.element t) (before ++ (text ++ after))
  | one {t : Tree} {text : List Char} (element : Derives (.element t) text) :
      Derives (.elements [t]) text
  | more {t : Tree} {items : List Tree} {text rest : List Char} (element : Derives (.element t) text)
      (others : Derives (.elements items) rest) : Derives (.elements (t :: items)) (text ++ ',' :: rest)
  | member {before key after text : List Char} {units : Units} {t : Tree} (ws : Ws before)
      (contents : Contents key units) (ws' : Ws after) (element : Derives (.element t) text) :
      Derives (.members [(units, t)]) (before ++ '"' :: (key ++ '"' :: (after ++ ':' :: text)))
  | moreMembers {before key after text rest : List Char} {units : Units} {t : Tree}
      {ms : List (Units × Tree)} (ws : Ws before) (contents : Contents key units) (ws' : Ws after)
      (element : Derives (.element t) text) (others : Derives (.members ms) rest) :
      Derives (.members ((units, t) :: ms))
        (before ++ '"' :: (key ++ '"' :: (after ++ ':' :: (text ++ ',' :: rest))))

/-- `JSON-text = ws value ws`. -/
def IsText (text : List Char) (t : Tree) : Prop := Derives (.element t) text

/-! ## Numbers and literals are atoms -/

/-- A text of atom characters alone, at least one. -/
def IsAtom (text : List Char) : Prop := text ≠ [] ∧ ∀ c ∈ text, isAtomChar c = true

theorem IsAtom.of_all {text : List Char} (nonempty : text ≠ []) (all : text.all isAtomChar = true) :
    IsAtom text :=
  ⟨nonempty, fun c mem => List.all_eq_true.mp all c mem⟩

theorem isAtomChar_of_digit {c : Char} (digit : isDigit c = true) : isAtomChar c = true := by
  have other : ∀ d : Char, isDigit d = false → c ≠ d := by
    rintro d plain rfl
    rw [digit] at plain
    cases plain
  simp [isAtomChar, isWs, other ' ' (by decide), other '\t' (by decide), other '\n' (by decide),
    other '\r' (by decide), other '"' (by decide), other '{' (by decide), other '}' (by decide),
    other '[' (by decide), other ']' (by decide), other ',' (by decide), other ':' (by decide)]

theorem atoms_of_digits {text : List Char} (digits : isDigits text = true) : IsAtom text := by
  simp only [isDigits, Bool.and_eq_true, Bool.not_eq_true', List.isEmpty_eq_false_iff] at digits
  exact ⟨digits.1, fun c mem => isAtomChar_of_digit (List.all_eq_true.mp digits.2 c mem)⟩

theorem atoms_of_exponent {text : List Char} (exponent : isExponent text = true) :
    ∀ c ∈ text, isAtomChar c = true := by
  have letter : ∀ {e : Char}, (e = 'e' || e = 'E') = true → isAtomChar e = true := by
    intro e is_e
    simp only [Bool.or_eq_true, decide_eq_true_eq] at is_e
    rcases is_e with rfl | rfl <;> decide
  intro c mem
  unfold isExponent at exponent
  split at exponent
  · cases mem
  all_goals
    simp only [Bool.and_eq_true] at exponent
    have digits := (atoms_of_digits exponent.2).2
    simp only [List.mem_cons] at mem
  · rcases mem with rfl | rfl | later
    · exact letter exponent.1
    · decide
    · exact digits c later
  · rcases mem with rfl | rfl | later
    · exact letter exponent.1
    · decide
    · exact digits c later
  · rcases mem with rfl | later
    · exact letter exponent.1
    · exact digits c later

theorem atoms_of_fraction {text : List Char} (fraction : isFraction text = true) :
    ∀ c ∈ text, isAtomChar c = true := by
  unfold isFraction at fraction
  split at fraction
  · rename_i rest
    simp only [Bool.and_eq_true] at fraction
    intro c mem
    rcases List.mem_cons.mp mem with rfl | later
    · decide
    · rw [← List.takeWhile_append_dropWhile (p := isDigit) (l := rest)] at later
      rcases List.mem_append.mp later with digit | exponent
      · exact (atoms_of_digits fraction.1).2 c digit
      · exact atoms_of_exponent fraction.2 c exponent
  · exact atoms_of_exponent fraction

theorem atom_of_unsigned {text : List Char} (unsigned : isUnsigned text = true) : IsAtom text := by
  simp only [isUnsigned, Bool.and_eq_true] at unsigned
  have digits := atoms_of_digits unsigned.1.1
  constructor
  · rintro rfl
    exact digits.1 rfl
  · intro c mem
    rw [← List.takeWhile_append_dropWhile (p := isDigit) (l := text)] at mem
    rcases List.mem_append.mp mem with digit | fraction
    · exact digits.2 c digit
    · exact atoms_of_fraction unsigned.2 c fraction

theorem atom_of_number {text : List Char} (number : isNumber text = true) : IsAtom text := by
  unfold isNumber at number
  split at number
  · obtain ⟨-, atoms⟩ := atom_of_unsigned number
    refine ⟨List.cons_ne_nil _ _, fun c mem => ?_⟩
    rcases List.mem_cons.mp mem with rfl | later
    · decide
    · exact atoms c later
  · exact atom_of_unsigned number

/-! ## Reading -/

/-- The inside of a string, and its closing quote. -/
def readContents : List Char → Option (Units × List Char)
  | [] => none
  | c :: rest =>
      if c = '"' then some ([], rest)
      else if c = '\\' then
        match rest with
        | [] => none
        | e :: rest =>
            if e = 'u' then
              match rest with
              | a :: b :: c :: d :: rest =>
                  match hex4 a b c d, readContents rest with
                  | some unit, some (units, rest) => some (unit :: units, rest)
                  | _, _ => none
              | _ => none
            else
              match escapeValue e, readContents rest with
              | some unit, some (units, rest) => some (unit :: units, rest)
              | _, _ => none
      else if 0x20 ≤ c.toNat then
        match readContents rest with
        | some (units, rest) => some (utf16 c ++ units, rest)
        | none => none
      else none

def readAtom (text : List Char) : Option Tree :=
  if text = ['n', 'u', 'l', 'l'] then some .null
  else if text = ['t', 'r', 'u', 'e'] then some (.bool true)
  else if text = ['f', 'a', 'l', 's', 'e'] then some (.bool false)
  else if isNumber text then some (.number text)
  else none

inductive Goal where
  | value
  | element
  | elements
  | members

/-- Reads what a goal asks for from the front of a text. -/
def read : Nat → Goal → List Char → Option (Content × List Char)
  | 0, _, _ => none
  | n + 1, .value, text =>
      match text with
      | '"' :: rest =>
          match readContents rest with
          | some (units, rest) => some (.value (.string units), rest)
          | none => none
      | '[' :: rest =>
          match rest.dropWhile isWs with
          | ']' :: rest => some (.value (.array []), rest)
          | _ =>
              match read n .elements rest with
              | some (.elements items, ']' :: rest) => some (.value (.array items), rest)
              | _ => none
      | '{' :: rest =>
          match rest.dropWhile isWs with
          | '}' :: rest => some (.value (.object []), rest)
          | _ =>
              match read n .members rest with
              | some (.members ms, '}' :: rest) => some (.value (.object ms), rest)
              | _ => none
      | text =>
          match readAtom (text.takeWhile isAtomChar) with
          | some t => some (.value t, text.dropWhile isAtomChar)
          | none => none
  | n + 1, .element, text =>
      match read n .value (text.dropWhile isWs) with
      | some (.value t, rest) => some (.element t, rest.dropWhile isWs)
      | _ => none
  | n + 1, .elements, text =>
      match read n .element text with
      | some (.element t, ',' :: rest) =>
          match read n .elements rest with
          | some (.elements items, rest) => some (.elements (t :: items), rest)
          | _ => none
      | some (.element t, rest) => some (.elements [t], rest)
      | _ => none
  | n + 1, .members, text =>
      match text.dropWhile isWs with
      | '"' :: rest =>
          match readContents rest with
          | some (key, rest) =>
              match rest.dropWhile isWs with
              | ':' :: rest =>
                  match read n .element rest with
                  | some (.element t, ',' :: rest) =>
                      match read n .members rest with
                      | some (.members ms, rest) => some (.members ((key, t) :: ms), rest)
                      | _ => none
                  | some (.element t, rest) => some (.members [(key, t)], rest)
                  | _ => none
              | _ => none
          | none => none
      | _ => none

def Content.goal : Content → Goal
  | .value _ => .value
  | .element _ => .element
  | .elements _ => .elements
  | .members _ => .members

/-- What may stand after a text without being read as more of it. -/
def Content.Stops : Content → List Char → Prop
  | .value _, rest => ∀ c ∈ rest.head?, isAtomChar c = false
  | .element _, rest => ∀ c ∈ rest.head?, c = ',' ∨ c = ']' ∨ c = '}'
  | .elements _, rest => ∀ c ∈ rest.head?, c = ']' ∨ c = '}'
  | .members _, rest => ∀ c ∈ rest.head?, c = ']' ∨ c = '}'

/-! ## Every derived text is read -/

theorem Contents.reads {text : List Char} {units : Units} (contents : Contents text units)
    (rest : List Char) : readContents (text ++ '"' :: rest) = some (units, rest) := by
  induction contents with
  | nil =>
      rw [List.nil_append, readContents.eq_def]
      rfl
  | plain graphic quote slash _ ih =>
      rw [List.cons_append, readContents.eq_def]
      dsimp only
      rw [if_neg quote, if_neg slash, if_pos graphic, ih]
  | @escape c unit text units value _ ih =>
      have named : c ≠ 'u' := by
        rintro rfl
        cases value
      rw [List.cons_append, List.cons_append, readContents.eq_def]
      dsimp only
      rw [if_neg (by decide), if_pos rfl, if_neg named, value, ih]
  | unicode value _ ih =>
      simp only [List.cons_append]
      rw [readContents.eq_def]
      dsimp only
      rw [if_neg (by decide), if_pos rfl, if_pos rfl, value, ih]

theorem readAtom_number {text : List Char} (number : isNumber text = true) :
    readAtom text = some (.number text) := by
  have other : ∀ word, isNumber word = false → text ≠ word := by
    rintro word plain rfl
    rw [number] at plain
    cases plain
  rw [readAtom, if_neg (other _ (by decide)), if_neg (other _ (by decide)),
    if_neg (other _ (by decide)), if_pos number]

theorem dropWs {space : List Char} (ws : Ws space) (rest : List Char) :
    (space ++ rest).dropWhile isWs = rest.dropWhile isWs :=
  List.dropWhile_append_of_pos ws

/-- An atom is read up to what stops it. -/
theorem read_atom {text rest : List Char} {t : Tree} (atom : IsAtom text)
    (word : readAtom text = some t) (stops : ∀ c ∈ rest.head?, isAtomChar c = false) (n : Nat) :
    read (n + 1) .value (text ++ rest) = some (.value t, rest) := by
  have taken : (text ++ rest).takeWhile isAtomChar = text := by
    rw [List.takeWhile_append_of_pos atom.2]
    cases rest with
    | nil => simp
    | cons c rest => simp [stops c rfl]
  have dropped : (text ++ rest).dropWhile isAtomChar = rest := by
    rw [List.dropWhile_append_of_pos atom.2]
    cases rest with
    | nil => rfl
    | cons c rest => simp [stops c rfl]
  cases text with
  | nil => exact absurd rfl atom.1
  | cons c text =>
      have plain := atom.2 c List.mem_cons_self
      rw [List.cons_append] at taken dropped ⊢
      have other : ∀ d, isAtomChar d = false → ∀ l, c :: (text ++ rest) ≠ d :: l := by
        rintro d no l same
        rw [(List.cons.inj same).1, no] at plain
        cases plain
      unfold read
      split
      · rename_i same
        exact absurd same (other '"' (by decide) _)
      · rename_i same
        exact absurd same (other '[' (by decide) _)
      · rename_i same
        exact absurd same (other '{' (by decide) _)
      · rw [taken, word, dropped]

/-- A value does not begin with whitespace or a closing bracket. -/
theorem value_head {t : Tree} {text : List Char} (value : Derives (.value t) text) :
    ∃ c l, text = c :: l ∧ isWs c = false ∧ c ≠ ']' := by
  cases value with
  | nullText => exact ⟨_, _, rfl, by decide, by decide⟩
  | trueText => exact ⟨_, _, rfl, by decide, by decide⟩
  | falseText => exact ⟨_, _, rfl, by decide, by decide⟩
  | number number =>
      obtain ⟨nonempty, atoms⟩ := atom_of_number number
      cases text with
      | nil => exact absurd rfl nonempty
      | cons c l =>
          have plain := atoms c List.mem_cons_self
          simp only [isAtomChar, Bool.not_eq_true', Bool.or_eq_false_iff, decide_eq_false_iff_not] at plain
          exact ⟨c, l, rfl, plain.1.1.1.1.1.1.1, plain.1.1.2⟩
  | string contents => exact ⟨_, _, rfl, by decide, by decide⟩
  | emptyArray ws => exact ⟨_, _, rfl, by decide, by decide⟩
  | array inside => exact ⟨_, _, rfl, by decide, by decide⟩
  | emptyObject ws => exact ⟨_, _, rfl, by decide, by decide⟩
  | object inside => exact ⟨_, _, rfl, by decide, by decide⟩

theorem element_head {t : Tree} {text : List Char} (element : Derives (.element t) text)
    (rest : List Char) : ∃ c l, (text ++ rest).dropWhile isWs = c :: l ∧ c ≠ ']' := by
  cases element with
  | @element before inner after _ ws value ws' =>
      obtain ⟨c, l, rfl, black, open_⟩ := value_head value
      refine ⟨c, l ++ (after ++ rest), ?_, open_⟩
      rw [List.append_assoc, dropWs ws, List.append_assoc, List.cons_append,
        List.dropWhile_cons_of_neg (by rw [black]; decide)]

theorem elements_head {items : List Tree} {text : List Char} (elements : Derives (.elements items) text)
    (rest : List Char) : ∃ c l, (text ++ rest).dropWhile isWs = c :: l ∧ c ≠ ']' := by
  cases elements with
  | one element => exact element_head element rest
  | more element others =>
      rw [List.append_assoc]
      exact element_head element _

theorem members_head {ms : List (Units × Tree)} {text : List Char} (members : Derives (.members ms) text)
    (rest : List Char) : ∃ l, (text ++ rest).dropWhile isWs = '"' :: l := by
  cases members with
  | member ws contents ws' element =>
      rw [List.append_assoc, dropWs ws]
      exact ⟨_, rfl⟩
  | moreMembers ws contents ws' element others =>
      rw [List.append_assoc, dropWs ws]
      exact ⟨_, rfl⟩

/-- Whitespace after a value, and then what closes it, stops the value. -/
theorem stops_value {after rest : List Char} (ws : Ws after)
    (closes : ∀ c ∈ rest.head?, c = ',' ∨ c = ']' ∨ c = '}') :
    (∀ c ∈ (after ++ rest).head?, isAtomChar c = false) ∧ (after ++ rest).dropWhile isWs = rest := by
  have black : rest.dropWhile isWs = rest ∧ ∀ c ∈ rest.head?, isAtomChar c = false := by
    cases rest with
    | nil => exact ⟨rfl, by simp⟩
    | cons d rest =>
        rcases closes d rfl with rfl | rfl | rfl <;> exact ⟨rfl, by rintro c ⟨⟩; decide⟩
  refine ⟨?_, by rw [dropWs ws, black.1]⟩
  cases after with
  | nil => exact black.2
  | cons w after =>
      rintro c ⟨⟩
      have white := ws w List.mem_cons_self
      simp [isAtomChar, white]

/-- Every text that stands for something is read as that, whatever stops it. -/
theorem Derives.reads {content : Content} {text : List Char} (derives : Derives content text) :
    ∃ m, ∀ n, m ≤ n → ∀ rest, content.Stops rest →
      read n content.goal (text ++ rest) = some (content, rest) := by
  have next : ∀ {m n : Nat}, m + 1 ≤ n → ∃ k, n = k + 1 ∧ m ≤ k := by
    intro m n le
    exact ⟨n - 1, by omega, by omega⟩
  have atom : ∀ {word : List Char} {t : Tree}, IsAtom word → readAtom word = some t →
      ∃ m, ∀ n, m ≤ n → ∀ rest, (Content.value t).Stops rest →
        read n .value (word ++ rest) = some (.value t, rest) := by
    intro word t atom named
    refine ⟨1, fun n le rest stops => ?_⟩
    obtain ⟨k, rfl, -⟩ := next (m := 0) le
    exact read_atom atom named stops k
  induction derives with
  | nullText => exact atom (.of_all (by decide) (by decide)) rfl
  | trueText => exact atom (.of_all (by decide) (by decide)) rfl
  | falseText => exact atom (.of_all (by decide) (by decide)) rfl
  | number number => exact atom (atom_of_number number) (readAtom_number number)
  | string contents =>
      refine ⟨1, fun n le rest _ => ?_⟩
      obtain ⟨k, rfl, -⟩ := next (m := 0) le
      simp only [Content.goal, List.cons_append, List.append_assoc, List.nil_append, read,
        contents.reads]
  | emptyArray ws =>
      refine ⟨1, fun n le rest _ => ?_⟩
      obtain ⟨k, rfl, -⟩ := next (m := 0) le
      have closed := dropWs ws (']' :: rest)
      simp [Content.goal, read, closed, isWs]
  | emptyObject ws =>
      refine ⟨1, fun n le rest _ => ?_⟩
      obtain ⟨k, rfl, -⟩ := next (m := 0) le
      have closed := dropWs ws ('}' :: rest)
      simp [Content.goal, read, closed, isWs]
  | @array items inner inside ih =>
      obtain ⟨m, reads⟩ := ih
      refine ⟨m + 1, fun n le rest _ => ?_⟩
      obtain ⟨k, rfl, low⟩ := next le
      obtain ⟨c, l, head, open_⟩ := elements_head inside (']' :: rest)
      have inner_read := reads k low (']' :: rest) (by rintro c ⟨⟩; exact .inl rfl)
      simp [Content.goal] at inner_read
      simp [Content.goal, read, head, open_, inner_read]
  | @object ms inner inside ih =>
      obtain ⟨m, reads⟩ := ih
      refine ⟨m + 1, fun n le rest _ => ?_⟩
      obtain ⟨k, rfl, low⟩ := next le
      obtain ⟨l, head⟩ := members_head inside ('}' :: rest)
      have inner_read := reads k low ('}' :: rest) (by rintro c ⟨⟩; exact .inr rfl)
      simp [Content.goal] at inner_read
      simp [Content.goal, read, head, inner_read]
  | @element before inner after t ws value ws' ih =>
      obtain ⟨m, reads⟩ := ih
      refine ⟨m + 1, fun n le rest closes => ?_⟩
      obtain ⟨k, rfl, low⟩ := next le
      obtain ⟨stops, dropped⟩ := stops_value ws' closes
      obtain ⟨c, l, rfl, black, -⟩ := value_head value
      have inner_read := reads k low (after ++ rest) stops
      simp only [Content.goal] at inner_read
      have front : (before ++ ((c :: l) ++ after) ++ rest).dropWhile isWs = (c :: l) ++ (after ++ rest) := by
        rw [List.append_assoc, dropWs ws, List.append_assoc, List.cons_append,
          List.dropWhile_cons_of_neg (by rw [black]; decide)]
      simp only [Content.goal, read, front, inner_read, dropped]
  | @one t inner element ih =>
      obtain ⟨m, reads⟩ := ih
      refine ⟨m + 1, fun n le rest ends => ?_⟩
      obtain ⟨k, rfl, low⟩ := next le
      have inner_read := reads k low rest fun c here => .inr (ends c here)
      simp only [Content.goal] at inner_read
      simp only [Content.goal, read, inner_read]
      cases rest with
      | nil => rfl
      | cons c rest => rcases ends c rfl with rfl | rfl <;> rfl
  | @more t items inner others element more ih ih' =>
      obtain ⟨m, reads⟩ := ih
      obtain ⟨m', reads'⟩ := ih'
      refine ⟨max m m' + 1, fun n le rest ends => ?_⟩
      obtain ⟨k, rfl, low⟩ := next le
      have inner_read := reads k (Nat.le_trans (Nat.le_max_left m m') low) (',' :: (others ++ rest))
        (by rintro c ⟨⟩; exact .inl rfl)
      have others_read := reads' k (Nat.le_trans (Nat.le_max_right m m') low) rest ends
      simp only [Content.goal] at inner_read others_read
      simp only [Content.goal, read, List.append_assoc, List.cons_append, inner_read, others_read]
  | @member before key after inner units t ws contents ws' element ih =>
      obtain ⟨m, reads⟩ := ih
      refine ⟨m + 1, fun n le rest ends => ?_⟩
      obtain ⟨k, rfl, low⟩ := next le
      have inner_read := reads k low rest fun c here => .inr (ends c here)
      have colon := dropWs ws' (':' :: (inner ++ rest))
      have quote := dropWs ws ('"' :: (key ++ '"' :: (after ++ ':' :: (inner ++ rest))))
      rw [List.dropWhile_cons_of_neg (by decide)] at colon quote
      simp only [Content.goal] at inner_read
      simp only [Content.goal, read, List.append_assoc, List.cons_append, quote, contents.reads, colon,
        inner_read]
      cases rest with
      | nil => rfl
      | cons c rest => rcases ends c rfl with rfl | rfl <;> rfl
  | @moreMembers before key after inner others units t ms ws contents ws' element more ih ih' =>
      obtain ⟨m, reads⟩ := ih
      obtain ⟨m', reads'⟩ := ih'
      refine ⟨max m m' + 1, fun n le rest ends => ?_⟩
      obtain ⟨k, rfl, low⟩ := next le
      have inner_read := reads k (Nat.le_trans (Nat.le_max_left m m') low) (',' :: (others ++ rest))
        (by rintro c ⟨⟩; exact .inl rfl)
      have others_read := reads' k (Nat.le_trans (Nat.le_max_right m m') low) rest ends
      have colon := dropWs ws' (':' :: (inner ++ ',' :: (others ++ rest)))
      have quote := dropWs ws
        ('"' :: (key ++ '"' :: (after ++ ':' :: (inner ++ ',' :: (others ++ rest)))))
      rw [List.dropWhile_cons_of_neg (by decide)] at colon quote
      simp only [Content.goal] at inner_read others_read
      simp only [Content.goal, read, List.append_assoc, List.cons_append, quote, contents.reads, colon,
        inner_read, others_read]

/-- A text stands for one tree. -/
theorem IsText.unique {text : List Char} {t u : Tree} (first : IsText text t) (second : IsText text u) :
    t = u := by
  obtain ⟨m, reads⟩ := Derives.reads first
  obtain ⟨m', reads'⟩ := Derives.reads second
  have one := reads (max m m') (Nat.le_max_left m m') [] (by simp [Content.Stops])
  have other := reads' (max m m') (Nat.le_max_right m m') [] (by simp [Content.Stops])
  have same := one.symm.trans other
  simpa using same

end JsonText
