/-
# LibraGovernor.Lib.Json -- JSON values

A value as a parser leaves it: an object is a map, kept as its fields in ascending order of
their keys (`Ordered`), so that two equal documents are the same value.
-/
import LibraGovernor.Lib.Fields
import Mathlib.Algebra.Group.Int.Defs
import Mathlib.Algebra.Group.Nat.Defs
import Mathlib.Data.String.Basic

set_option autoImplicit false

/-- A number is an integer, or the text of a decimal. -/
inductive JsonNumber where
  | integer (value : Int)
  | decimal (text : String)
  deriving DecidableEq, Repr

inductive Json where
  | null
  | bool (value : Bool)
  | number (value : JsonNumber)
  | string (value : String)
  | array (items : List Json)
  | object (fields : List (String × Json))
  deriving Repr

namespace Json

/-- The value at a key, of an object. -/
def get (key : String) : Json → Option Json
  | .object fields => Fields.get key fields
  | _ => none

def asStr : Json → Option String
  | .string value => some value
  | _ => none

/-- A count that fits in a `u64`. -/
def asU64 : Json → Option Nat
  | .number (.integer value) => if 0 ≤ value ∧ value < 2 ^ 64 then some value.toNat else none
  | _ => none

/-- The fields of every object are in ascending order of their keys. -/
inductive Ordered : Json → Prop
  | null : Ordered .null
  | bool (value : Bool) : Ordered (.bool value)
  | number (value : JsonNumber) : Ordered (.number value)
  | string (value : String) : Ordered (.string value)
  | array {items : List Json} (each : ∀ item ∈ items, Ordered item) : Ordered (.array items)
  | object {fields : List (String × Json)} (ascending : Fields.Ascending fields)
      (each : ∀ field ∈ fields, Ordered field.2) : Ordered (.object fields)

/-! ## Equality is decidable -/

mutual

def beq : Json → Json → Bool
  | .null, .null => true
  | .bool a, .bool b => a == b
  | .number a, .number b => decide (a = b)
  | .string a, .string b => decide (a = b)
  | .array xs, .array ys => beqItems xs ys
  | .object xs, .object ys => beqFields xs ys
  | _, _ => false

def beqItems : List Json → List Json → Bool
  | [], [] => true
  | x :: xs, y :: ys => beq x y && beqItems xs ys
  | _, _ => false

def beqFields : List (String × Json) → List (String × Json) → Bool
  | [], [] => true
  | (k, x) :: xs, (l, y) :: ys => decide (k = l) && beq x y && beqFields xs ys
  | _, _ => false

end

mutual

theorem beq_iff : ∀ a b : Json, beq a b = true ↔ a = b
  | .null, b => by cases b <;> simp [beq]
  | .bool _, b => by cases b <;> simp [beq]
  | .number _, b => by cases b <;> simp [beq]
  | .string _, b => by cases b <;> simp [beq]
  | .array xs, b => by
      cases b with
      | array ys => simp [beq, beqItems_iff xs ys]
      | _ => simp [beq]
  | .object xs, b => by
      cases b with
      | object ys => simp [beq, beqFields_iff xs ys]
      | _ => simp [beq]

theorem beqItems_iff : ∀ xs ys : List Json, beqItems xs ys = true ↔ xs = ys
  | [], ys => by cases ys <;> simp [beqItems]
  | x :: xs, ys => by
      cases ys with
      | nil => simp [beqItems]
      | cons y ys => simp [beqItems, beq_iff x y, beqItems_iff xs ys]

theorem beqFields_iff : ∀ xs ys : List (String × Json), beqFields xs ys = true ↔ xs = ys
  | [], ys => by cases ys <;> simp [beqFields]
  | (k, x) :: xs, ys => by
      cases ys with
      | nil => simp [beqFields]
      | cons y ys =>
          obtain ⟨l, y⟩ := y
          simp [beqFields, beq_iff x y, beqFields_iff xs ys, and_assoc]

end

instance : DecidableEq Json := fun a b => decidable_of_iff (beq a b = true) (beq_iff a b)

end Json
