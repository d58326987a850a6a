/-
# LibraGovernor.Domain.Uuid -- uuids and their text

An id that goes into a key goes in as its hyphenated text.  The text has one length, and
two ids never share one.
-/
import Mathlib.Algebra.Group.Nat.Defs
import Mathlib.Data.Nat.Notation

namespace LibraGovernor

set_option autoImplicit false

abbrev Uuid := BitVec 128

def hexDigit (n : Nat) : Char := if n < 10 then Char.ofNat (48 + n) else Char.ofNat (87 + n)

/-- The last `k` hexadecimal digits of a number. -/
def hexDigits : Nat → Nat → List Char
  | 0, _ => []
  | k + 1, n => hexDigits k (n / 16) ++ [hexDigit (n % 16)]

/-- `Uuid::to_string`: the hyphenated form, in lower case. -/
def Uuid.text (u : Uuid) : String :=
  let digits := hexDigits 32 u.toNat
  String.ofList (digits.take 8 ++ '-' :: (digits.drop 8).take 4 ++ '-' :: (digits.drop 12).take 4 ++
    '-' :: (digits.drop 16).take 4 ++ '-' :: digits.drop 20)

theorem hexDigit_inj : ∀ a < 16, ∀ b < 16, hexDigit a = hexDigit b → a = b := by decide

theorem hexDigit_ne_hyphen : ∀ a < 16, hexDigit a ≠ '-' := by decide

theorem hexDigit_ne_n : ∀ a < 16, hexDigit a ≠ 'n' := by decide

theorem hexDigits_length (k n : Nat) : (hexDigits k n).length = k := by
  induction k generalizing n with
  | zero => rfl
  | succ k ih => simp [hexDigits, ih]

theorem hexDigits_mem (k n : Nat) : ∀ c ∈ hexDigits k n, ∃ a < 16, c = hexDigit a := by
  induction k generalizing n with
  | zero => simp [hexDigits]
  | succ k ih =>
      intro c mem
      rcases List.mem_append.mp mem with front | last
      · exact ih (n / 16) c front
      · exact ⟨n % 16, Nat.mod_lt n (by decide), List.mem_singleton.mp last⟩

theorem hexDigits_ne_hyphen (k n : Nat) : ∀ c ∈ hexDigits k n, c ≠ '-' := by
  intro c mem
  obtain ⟨a, lt, rfl⟩ := hexDigits_mem k n c mem
  exact hexDigit_ne_hyphen a lt

theorem hexDigits_ne_n (k n : Nat) : ∀ c ∈ hexDigits k n, c ≠ 'n' := by
  intro c mem
  obtain ⟨a, lt, rfl⟩ := hexDigits_mem k n c mem
  exact hexDigit_ne_n a lt

theorem hexDigits_inj (k : Nat) {n m : Nat} (n_lt : n < 16 ^ k) (m_lt : m < 16 ^ k)
    (same : hexDigits k n = hexDigits k m) : n = m := by
  induction k generalizing n m with
  | zero => omega
  | succ k ih =>
      obtain ⟨front, last⟩ := List.append_inj' same rfl
      have digit : n % 16 = m % 16 := hexDigit_inj _ (Nat.mod_lt n (by decide)) _
        (Nat.mod_lt m (by decide)) (List.cons.inj last).1
      have rest : n / 16 = m / 16 := by
        refine ih ?_ ?_ front
        · exact Nat.div_lt_of_lt_mul (by rw [Nat.mul_comm]; exact n_lt)
        · exact Nat.div_lt_of_lt_mul (by rw [Nat.mul_comm]; exact m_lt)
      omega

/-- Dropping the hyphens gives the digits back. -/
theorem Uuid.text_digits (u : Uuid) :
    u.text.toList.filter (fun c => c ≠ '-') = hexDigits 32 u.toNat := by
  have keep : ∀ l : List Char, (∀ c ∈ l, c ≠ '-') → l.filter (fun c => c ≠ '-') = l := by
    intro l plain
    exact List.filter_eq_self.mpr fun c mem => decide_eq_true (plain c mem)
  have digits := hexDigits_ne_hyphen 32 u.toNat
  have take : ∀ k, ∀ c ∈ (hexDigits 32 u.toNat).take k, c ≠ '-' :=
    fun k c mem => digits c (List.mem_of_mem_take mem)
  have drop : ∀ j, ∀ c ∈ (hexDigits 32 u.toNat).drop j, c ≠ '-' :=
    fun j c mem => digits c (List.mem_of_mem_drop mem)
  have both : ∀ j k, ∀ c ∈ ((hexDigits 32 u.toNat).drop j).take k, c ≠ '-' :=
    fun j k c mem => drop j c (List.mem_of_mem_take mem)
  simp only [Uuid.text, String.toList_ofList, List.filter_append, List.filter_cons,
    keep _ (take 8), keep _ (both 8 4), keep _ (both 12 4), keep _ (both 16 4), keep _ (drop 20)]
  have split := hexDigits_length 32 u.toNat
  generalize hexDigits 32 u.toNat = l at split
  have step : ∀ j k, (l.drop j).take k ++ l.drop (j + k) = l.drop j := by
    intro j k
    rw [← List.drop_drop, List.take_append_drop]
  simp only [ne_eq, not_true_eq_false, decide_false, Bool.false_eq_true, if_false, List.append_assoc,
    step 16 4, step 12 4, step 8 4, List.take_append_drop]

theorem Uuid.text_length (u : Uuid) : u.text.toList.length = 36 := by
  simp [Uuid.text, hexDigits_length]

theorem Uuid.text_inj {u v : Uuid} (same : u.text = v.text) : u = v := by
  have digits : hexDigits 32 u.toNat = hexDigits 32 v.toNat := by
    rw [← u.text_digits, ← v.text_digits, same]
  have bound : ∀ w : Uuid, w.toNat < 16 ^ 32 := fun w => w.isLt
  exact BitVec.eq_of_toNat_eq (hexDigits_inj 32 (bound u) (bound v) digits)

end LibraGovernor
