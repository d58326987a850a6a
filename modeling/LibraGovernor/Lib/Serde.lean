/-
# LibraGovernor.Lib.Serde -- how derived deserializers read a JSON value

A record is read from an object by its field names, or from an array in their order (`visit`).  A
tagged enumeration takes its variant from a tag, which stands among the variant's fields (`tagged`)
or beside them (`adjacent`); a variant without fields is its name, or an object from its name to
`null` (`unitVariant`).  Fields a record does not have are ignored.
-/
import LibraGovernor.Lib.Json

set_option autoImplicit false

namespace Serde

/-- The fields of a record; the last ones, past `required`, have a default. -/
def visit (names : List String) (required : Nat) : Json → Option (String → Option Json)
  | .object fields => some fun name => Fields.get name fields
  | .array items =>
      if required ≤ items.length ∧ items.length ≤ names.length then
        some fun name => Fields.get name (names.zip items)
      else none
  | _ => none

/-- The variant that a tag names; in a value out of a tagged enumeration (`buffered`), by its place
among the variants too. -/
def variant (buffered : Bool) (names : List String) : Json → Option String
  | .string name => some name
  | j => if buffered then j.asU64.bind fun place => names[place]? else none

/-- The variant of an internally tagged enumeration, and what its fields are read from. -/
def tagged (buffered : Bool) (names : List String) (tag : String) : Json → Option (String × Json)
  | .object fields =>
      ((Fields.get tag fields).bind (variant buffered names)).map fun name =>
        (name, .object (Fields.remove tag fields))
  | .array (head :: rest) => (variant buffered names head).map fun name => (name, .array rest)
  | _ => none

/-- What an internally tagged variant without fields is read from: what an object has besides is
ignored, what an array has is refused. -/
def noFields : Json → Bool
  | .array (_ :: _) => false
  | _ => true

/-- The variant of an adjacently tagged enumeration, and its content. -/
def adjacent (tag content : String) : Json → Option (String × Option Json)
  | .object fields =>
      match Fields.get tag fields with
      | some (.string name) => some (name, Fields.get content fields)
      | _ => none
  | .array [.string name, value] => some (name, some value)
  | _ => none

/-- A variant without fields, in a value read directly (`buffered = false`) or out of a tagged
enumeration, where an empty object is as good as `null`. -/
def unitVariant (buffered : Bool) : Json → Option String
  | .string name => some name
  | .object [(name, .null)] => some name
  | .object [(name, .object [])] => if buffered then some name else none
  | _ => none

/-- The content of an adjacent variant without fields. -/
def noContent : Option Json → Bool
  | none => true
  | some .null => true
  | some _ => false

def u8 (j : Json) : Option Nat := j.asU64.bind fun n => if n < 256 then some n else none

def optionalStr : Option Json → Option (Option String)
  | none => some none
  | some .null => some none
  | some (.string s) => some (some s)
  | some _ => none

def count (n : Nat) : Json := .number (.integer n)

theorem asU64_count {n : Nat} (lt : n < 2 ^ 64) : (count n).asU64 = some n := by
  have fits : 0 ≤ (n : Int) ∧ (n : Int) < 2 ^ 64 := ⟨by omega, by omega⟩
  rw [count, Json.asU64, if_pos fits, Int.toNat_natCast]

theorem asU64_lt {j : Json} {n : Nat} (read : j.asU64 = some n) : n < 2 ^ 64 := by
  cases j with
  | number value =>
      cases value with
      | integer v =>
          rw [Json.asU64] at read
          split at read
          · cases read
            omega
          · cases read
      | decimal text => cases read
  | _ => cases read

theorem u8_count {n : Nat} (lt : n < 256) : u8 (count n) = some n := by
  rw [u8, asU64_count (by omega), Option.bind_some, if_pos lt]

theorem u8_lt {j : Json} {n : Nat} (read : u8 j = some n) : n < 256 := by
  obtain ⟨m, -, here⟩ := Option.bind_eq_some_iff.mp read
  split at here
  · cases here
    assumption
  · cases here

end Serde
