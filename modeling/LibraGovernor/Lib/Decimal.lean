/-
# LibraGovernor.Lib.Decimal -- decimal numerals as text

Numerals of one width compare as text the way their numbers compare (`lt_iff_value_lt`), and a
numeral with leading zeros is read back (`value_zeros`, `value_toDigits`).  Fractions whose trailing
zeros are dropped do not: followed by a character past the digits, the smaller of two sorts last
exactly where it is a beginning of the larger (`trimmed_lt_iff`).
-/
import Mathlib.Algebra.Group.Nat.Defs
import Mathlib.Data.Int.Init
import Mathlib.Tactic.Tauto

namespace Decimal

set_option autoImplicit false

/-- The number of a run of digits. -/
def value (digits : List Char) : Nat := Nat.ofDigitChars 10 digits 0

theorem digit_lt {c : Char} (digit : c.isDigit = true) : 48 ≤ c.toNat ∧ c.toNat - 48 < 10 := by
  simp only [Char.isDigit, Bool.and_eq_true, decide_eq_true_eq, ge_iff_le, UInt32.le_iff_toNat_le]
    at digit
  have low : 48 ≤ c.toNat := digit.1
  have high : c.toNat ≤ 57 := digit.2
  omega

theorem value_cons (c : Char) (cs : List Char) :
    value (c :: cs) = 10 ^ cs.length * (c.toNat - 48) + value cs := by
  rw [value, Nat.ofDigitChars_cons, Nat.ofDigitChars_eq_ofDigitChars_zero, Nat.mul_zero, Nat.zero_add]
  rfl

theorem value_lt {digits : List Char} (all : ∀ c ∈ digits, c.isDigit = true) :
    value digits < 10 ^ digits.length := by
  induction digits with
  | nil => decide
  | cons c cs ih =>
      have rest := ih fun d mem => all d (List.mem_cons_of_mem c mem)
      have digit := (digit_lt (all c List.mem_cons_self)).2
      rw [value_cons, List.length_cons, Nat.pow_succ]
      have scaled : 10 ^ cs.length * (c.toNat - 48) ≤ 10 ^ cs.length * 9 :=
        Nat.mul_le_mul_left _ (by omega)
      omega

/-- Text of one length before a tail: the first decides, then the tail. -/
theorem append_lt_iff {xs ys as bs : List Char} (length : xs.length = ys.length) :
    xs ++ as < ys ++ bs ↔ xs < ys ∨ xs = ys ∧ as < bs := by
  induction xs generalizing ys with
  | nil =>
      cases ys with
      | nil => simp
      | cons y ys => simp at length
  | cons x xs ih =>
      cases ys with
      | nil => simp at length
      | cons y ys =>
          have rest : xs.length = ys.length := by simpa using length
          rw [List.cons_append, List.cons_append, List.cons_lt_cons_iff, List.cons_lt_cons_iff,
            ih rest, List.cons.injEq]
          tauto

theorem append_left_lt_iff (xs : List Char) {as bs : List Char} : xs ++ as < xs ++ bs ↔ as < bs := by
  rw [append_lt_iff rfl]
  constructor
  · rintro (lt | ⟨-, lt⟩)
    · exact absurd lt (List.lt_irrefl xs)
    · exact lt
  · exact fun lt => .inr ⟨rfl, lt⟩

theorem lt_iff_value_lt {xs ys : List Char} (xs_digits : ∀ c ∈ xs, c.isDigit = true)
    (ys_digits : ∀ c ∈ ys, c.isDigit = true) (length : xs.length = ys.length) :
    xs < ys ↔ value xs < value ys := by
  induction xs generalizing ys with
  | nil =>
      cases ys with
      | nil => simp
      | cons y ys => simp at length
  | cons x xs ih =>
      cases ys with
      | nil => simp at length
      | cons y ys =>
          have rest : xs.length = ys.length := by simpa using length
          have xs_rest : ∀ c ∈ xs, c.isDigit = true := fun c mem => xs_digits c (List.mem_cons_of_mem x mem)
          have ys_rest : ∀ c ∈ ys, c.isDigit = true := fun c mem => ys_digits c (List.mem_cons_of_mem y mem)
          have x_digit := digit_lt (xs_digits x List.mem_cons_self)
          have y_digit := digit_lt (ys_digits y List.mem_cons_self)
          have x_value := value_lt xs_rest
          have y_value := value_lt ys_rest
          rw [List.cons_lt_cons_iff, ih xs_rest ys_rest rest, value_cons, value_cons, rest]
          rw [rest] at x_value
          have first : x < y ↔ x.toNat - 48 < y.toNat - 48 := by
            rw [Char.lt_def, UInt32.lt_iff_toNat_lt]
            show x.toNat < y.toNat ↔ _
            omega
          have same : x = y ↔ x.toNat - 48 = y.toNat - 48 := by
            rw [← Char.toNat_inj]
            omega
          rw [first, same]
          generalize x.toNat - 48 = a
          generalize y.toNat - 48 = b
          constructor
          · rintro (lt | ⟨rfl, lt⟩)
            · have step : 10 ^ ys.length * (a + 1) ≤ 10 ^ ys.length * b := Nat.mul_le_mul_left _ lt
              rw [Nat.mul_add, Nat.mul_one] at step
              omega
            · omega
          · intro lt
            rcases Nat.lt_trichotomy a b with less | eq | more
            · exact .inl less
            · subst eq
              exact .inr ⟨rfl, by omega⟩
            · have step : 10 ^ ys.length * (b + 1) ≤ 10 ^ ys.length * a := Nat.mul_le_mul_left _ more
              rw [Nat.mul_add, Nat.mul_one] at step
              omega

/-- Leading zeros do not change the number. -/
theorem value_zeros (n : Nat) (digits : List Char) :
    value (List.replicate n '0' ++ digits) = value digits := by
  rw [value, Nat.ofDigitChars_append, Nat.ofDigitChars_replicate_zero, Nat.mul_zero]
  rfl

theorem value_toDigits (n : Nat) : value (Nat.toDigits 10 n) = n := Nat.ofDigitChars_ten_toDigits

/-! ## Trailing zeros -/

def trimmed (digits : List Char) : List Char := (digits.reverse.dropWhile (· = '0')).reverse

theorem trimmed_cons (c : Char) (cs : List Char) :
    trimmed (c :: cs) = if trimmed cs = [] then (if c = '0' then [] else [c]) else c :: trimmed cs := by
  rw [trimmed, trimmed, List.reverse_cons, List.dropWhile_append]
  cases rest : cs.reverse.dropWhile (· = '0') with
  | nil =>
      by_cases zero : c = '0'
      · simp [zero, List.dropWhile]
      · simp [zero, List.dropWhile]
  | cons d ds => simp

/-- Only zeros are dropped. -/
theorem zeros_of_trimmed_eq_nil {digits : List Char} (none : trimmed digits = []) :
    ∀ c ∈ digits, c = '0' := by
  induction digits with
  | nil => simp
  | cons c cs ih =>
      rw [trimmed_cons] at none
      split at none
      · rename_i rest
        split at none
        · rename_i zero
          intro d mem
          rcases List.mem_cons.mp mem with same | later
          · rw [same, zero]
          · exact ih rest d later
        · cases none
      · cases none

theorem trimmed_ne_nil_of_lt {xs ys : List Char} (xs_digits : ∀ c ∈ xs, c.isDigit = true)
    (length : xs.length = ys.length) (lt : xs < ys) : trimmed ys ≠ [] := by
  intro none
  have zeros := zeros_of_trimmed_eq_nil none
  clear none
  induction xs generalizing ys with
  | nil =>
      cases ys with
      | nil => exact absurd lt (List.lt_irrefl [])
      | cons y ys => simp at length
  | cons x xs ih =>
      cases ys with
      | nil => simp at length
      | cons y ys =>
          rcases List.cons_lt_cons_iff.mp lt with first | ⟨-, rest⟩
          · have zero := zeros y List.mem_cons_self
            have digit := (digit_lt (xs_digits x List.mem_cons_self)).1
            rw [zero, Char.lt_def, UInt32.lt_iff_toNat_lt] at first
            have small : x.toNat < 48 := first
            omega
          · exact ih (fun c mem => xs_digits c (List.mem_cons_of_mem x mem)) (by simpa using length) rest
              fun c mem => zeros c (List.mem_cons_of_mem y mem)

/-- Of two fractions the smaller sorts last exactly where it is a beginning of the larger. -/
theorem trimmed_lt_iff {xs ys : List Char} {z : Char} (past : ∀ c : Char, c.isDigit = true → c < z)
    (xs_digits : ∀ c ∈ xs, c.isDigit = true) (ys_digits : ∀ c ∈ ys, c.isDigit = true)
    (length : xs.length = ys.length) (lt : xs < ys) :
    trimmed ys ++ [z] < trimmed xs ++ [z] ↔ trimmed xs <+: trimmed ys := by
  induction xs generalizing ys with
  | nil =>
      cases ys with
      | nil => exact absurd lt (List.lt_irrefl [])
      | cons y ys => simp at length
  | cons x xs ih =>
      cases ys with
      | nil => simp at length
      | cons y ys =>
          have y_past := past y (ys_digits y List.mem_cons_self)
          have some_ := trimmed_ne_nil_of_lt xs_digits length lt
          have larger : trimmed (y :: ys) = y :: trimmed ys := by
            rw [trimmed_cons] at some_ ⊢
            split
            · rename_i rest
              rw [if_pos rest] at some_
              split
              · rename_i zero
                rw [if_pos zero] at some_
                exact absurd rfl some_
              · rw [rest]
            · rfl
          have smaller : trimmed (x :: xs) = [] ∨ trimmed (x :: xs) = x :: trimmed xs := by
            rw [trimmed_cons]
            split
            · rename_i rest
              split
              · exact .inl rfl
              · exact .inr (by rw [rest])
            · exact .inr rfl
          rw [larger]
          rcases smaller with none | some'
          · rw [none, List.nil_append, List.cons_append, List.cons_lt_cons_iff]
            exact ⟨fun _ => List.nil_prefix, fun _ => .inl y_past⟩
          · rw [some', List.cons_append, List.cons_append, List.cons_lt_cons_iff, List.cons_prefix_cons]
            rcases List.cons_lt_cons_iff.mp lt with first | ⟨rfl, rest⟩
            · have apart : y ≠ x := fun same => Char.lt_irrefl x (same ▸ first)
              constructor
              · intro back
                rcases back with other | ⟨same, -⟩
                · exact absurd other (Char.lt_asymm first)
                · exact absurd same apart
              · intro front
                exact absurd front.1.symm apart
            · have tails := ih (fun c mem => xs_digits c (List.mem_cons_of_mem x mem))
                (fun c mem => ys_digits c (List.mem_cons_of_mem x mem)) (by simpa using length) rest
              rw [tails]
              simp

end Decimal
