/-
# LibraGovernor.Lib.Split -- a list split at its separators, and split again where it is cut

`splitOnP` splits a list at the elements that satisfy a predicate.  Cut anywhere, a list splits into
the pieces of what is before the cut, the last of them completed by the first piece of what is after
it, and the later pieces (`splitOnP_append`).  With the position it starts at, a piece is one of the
later ones exactly when it starts past the cut (`located_after_cut`): its separator is then after the
cut as well.
-/
import Mathlib.Algebra.GroupWithZero.Nat
import Mathlib.Data.List.Basic

namespace List

set_option autoImplicit false

variable {α : Type} {p : α → Bool}

/-- The piece before the first separator. -/
def firstPiece (p : α → Bool) (xs : List α) : List α := (xs.splitOnP p).headD []

theorem splitOnP_eq_cons (xs : List α) :
    xs.splitOnP p = xs.firstPiece p :: (xs.splitOnP p).tail := by
  have some_ := splitOnP_ne_nil p xs
  rw [firstPiece]
  cases pieces : xs.splitOnP p with
  | nil => exact absurd pieces some_
  | cons first rest => rfl

theorem firstPiece_cons_sep {x : α} (xs : List α) (sep : p x = true) :
    (x :: xs).firstPiece p = [] := by
  rw [firstPiece, splitOnP_cons_eq_if_modifyHead, if_pos sep]
  rfl

theorem splitOnP_cons_other {x : α} (xs : List α) (other : p x = false) :
    (x :: xs).splitOnP p = (x :: xs.firstPiece p) :: (xs.splitOnP p).tail := by
  rw [splitOnP_cons_eq_if_modifyHead, other, splitOnP_eq_cons xs]
  rfl

/-- The first piece holds no separator. -/
theorem splitOnP_firstPiece (xs : List α) : (xs.firstPiece p).splitOnP p = [xs.firstPiece p] := by
  induction xs with
  | nil => rfl
  | cons x xs ih =>
      cases sep : p x with
      | true =>
          rw [firstPiece_cons_sep xs sep]
          rfl
      | false =>
          have piece : (x :: xs).firstPiece p = x :: xs.firstPiece p := by
            rw [firstPiece, splitOnP_cons_other xs sep]
            rfl
          rw [piece, splitOnP_cons_other _ sep, firstPiece, ih]
          rfl

/-- A list that is cut: the piece at the cut is completed, the later ones are unchanged. -/
theorem splitOnP_append (xs ys : List α) :
    (xs ++ ys).splitOnP p = (xs ++ ys.firstPiece p).splitOnP p ++ (ys.splitOnP p).tail := by
  induction xs with
  | nil =>
      rw [nil_append, nil_append, splitOnP_firstPiece]
      exact splitOnP_eq_cons ys
  | cons x xs ih =>
      rw [cons_append, cons_append]
      cases sep : p x with
      | true =>
          rw [splitOnP_cons_eq_if_modifyHead, if_pos sep, splitOnP_cons_eq_if_modifyHead, if_pos sep, ih]
          rfl
      | false =>
          have some_ := splitOnP_ne_nil p (xs ++ ys.firstPiece p)
          rw [splitOnP_cons_eq_if_modifyHead, sep, splitOnP_cons_eq_if_modifyHead, sep, ih]
          cases pieces : (xs ++ ys.firstPiece p).splitOnP p with
          | nil => exact absurd pieces some_
          | cons first rest => rfl

/-! ## Where pieces start -/

/-- Pieces with the positions they start at, each separator of length one. -/
def located : Nat → List (List α) → List (Nat × List α)
  | _, [] => []
  | start, piece :: rest => (start, piece) :: located (start + piece.length + 1) rest

theorem map_snd_located (start : Nat) (pieces : List (List α)) :
    (located start pieces).map Prod.snd = pieces := by
  induction pieces generalizing start with
  | nil => rfl
  | cons piece rest ih => rw [located, map_cons, ih]

theorem le_of_mem_located {start : Nat} {pieces : List (List α)} {l : Nat × List α}
    (mem : l ∈ located start pieces) : start ≤ l.1 := by
  induction pieces generalizing start with
  | nil => cases mem
  | cons piece rest ih =>
      rcases mem_cons.mp mem with rfl | later
      · exact Nat.le_refl _
      · have := ih later
        omega

/-- What precedes a piece, its separators counted. -/
theorem located_append (start : Nat) (xs ys : List (List α)) :
    located start (xs ++ ys) = located start xs ++ located (start + (xs.map fun x => x.length + 1).sum) ys := by
  induction xs generalizing start with
  | nil => simp [located]
  | cons x xs ih =>
      rw [cons_append, located, located, ih, cons_append, map_cons, sum_cons]
      congr 3
      omega

theorem sum_splitOnP (xs : List α) :
    ((xs.splitOnP p).map fun x => x.length + 1).sum = xs.length + 1 := by
  induction xs with
  | nil => rfl
  | cons x xs ih =>
      cases sep : p x with
      | true =>
          rw [splitOnP_cons_eq_if_modifyHead, if_pos sep, map_cons, sum_cons, ih, length_nil, length_cons]
          omega
      | false =>
          rw [splitOnP_eq_cons xs, map_cons, sum_cons] at ih
          rw [splitOnP_cons_other xs sep, map_cons, sum_cons, length_cons, length_cons]
          omega

/-- Up to the cut and in the piece it cuts, no piece starts past the cut. -/
theorem located_le_cut (start : Nat) (xs ys : List α) :
    ∀ l ∈ located start ((xs ++ ys.firstPiece p).splitOnP p), l.1 ≤ start + xs.length := by
  induction xs generalizing start with
  | nil =>
      intro l mem
      rw [nil_append, splitOnP_firstPiece] at mem
      obtain rfl := mem_singleton.mp mem
      exact Nat.le_refl _
  | cons x xs ih =>
      intro l mem
      rw [cons_append] at mem
      cases sep : p x with
      | true =>
          rw [splitOnP_cons_eq_if_modifyHead, if_pos sep, located] at mem
          rcases mem_cons.mp mem with rfl | later
          · exact Nat.le_add_right start _
          · have := ih (start + 1) l later
            rw [length_cons]
            omega
      | false =>
          rw [splitOnP_cons_other _ sep, located, length_cons] at mem
          rcases mem_cons.mp mem with rfl | later
          · exact Nat.le_add_right start _
          · have within := ih (start + 1) l (by
              rw [splitOnP_eq_cons, located]
              refine mem_cons_of_mem _ ?_
              rwa [show start + 1 + ((xs ++ ys.firstPiece p).firstPiece p).length + 1 =
                start + (((xs ++ ys.firstPiece p).firstPiece p).length + 1) + 1 by omega])
            rw [length_cons]
            omega

/-- The pieces that start past a cut are those after the first separator past it. -/
theorem located_after_cut (xs ys : List α) :
    ((located 0 ((xs ++ ys).splitOnP p)).filter fun l => decide (xs.length < l.1)).map Prod.snd =
      (ys.splitOnP p).tail := by
  rw [splitOnP_append, located_append, filter_append, sum_splitOnP, length_append]
  have before : ((located 0 ((xs ++ ys.firstPiece p).splitOnP p)).filter fun l =>
      decide (xs.length < l.1)) = [] := by
    rw [filter_eq_nil_iff]
    intro l mem past
    have within := located_le_cut 0 xs ys l mem
    have beyond := of_decide_eq_true past
    omega
  have after : ((located (0 + (xs.length + (ys.firstPiece p).length + 1)) (ys.splitOnP p).tail).filter
      fun l => decide (xs.length < l.1)) =
        located (0 + (xs.length + (ys.firstPiece p).length + 1)) (ys.splitOnP p).tail := by
    rw [filter_eq_self]
    intro l mem
    have beyond := le_of_mem_located mem
    exact decide_eq_true (by omega)
  rw [before, after, nil_append, map_snd_located]

/-! ## Splitting what arrives -/

/-- The pieces that a separator ends. -/
def terminated (p : α → Bool) (xs : List α) : List (List α) := (xs.splitOnP p).dropLast

/-- What follows the last separator. -/
def unterminated (p : α → Bool) (xs : List α) : List α := (xs.splitOnP p).getLastD []

theorem terminated_append_unterminated (xs : List α) :
    xs.terminated p ++ [xs.unterminated p] = xs.splitOnP p := by
  have some_ := splitOnP_ne_nil p xs
  rw [terminated, unterminated, getLastD_eq_getLast?, getLast?_eq_some_getLast some_, Option.getD_some]
  exact dropLast_append_getLast some_

theorem splitOnP_concat_sep {x : α} (xs : List α) (sep : p x = true) :
    (xs ++ [x]).splitOnP p = xs.splitOnP p ++ [[]] := by
  rw [splitOnP_append, firstPiece_cons_sep [] sep, append_nil, splitOnP_cons_eq_if_modifyHead,
    if_pos sep]
  rfl

theorem splitOnP_concat_other {x : α} (xs : List α) (other : p x = false) :
    (xs ++ [x]).splitOnP p = xs.terminated p ++ [xs.unterminated p ++ [x]] := by
  induction xs with
  | nil =>
      rw [nil_append, splitOnP_cons_other [] other]
      rfl
  | cons y ys ih =>
      have pieces := @terminated_append_unterminated _ p ys
      have ended : (y :: ys).terminated p = ((y :: ys).splitOnP p).dropLast := rfl
      have last : (y :: ys).unterminated p = ((y :: ys).splitOnP p).getLastD [] := rfl
      rw [splitOnP_cons_eq_if_modifyHead, ← pieces] at ended last
      rw [cons_append, splitOnP_cons_eq_if_modifyHead, ih, ended, last]
      have start (z : List α) (zs : List (List α)) :
          (z :: (zs ++ [ys.unterminated p])).dropLast = z :: zs := by
        rw [← cons_append, dropLast_concat]
      have rest (z : List α) (zs : List (List α)) :
          (z :: (zs ++ [ys.unterminated p])).getLastD [] = ys.unterminated p := by
        rw [← cons_append, getLastD_eq_getLast?, getLast?_concat, Option.getD_some]
      split
      · rw [start, rest]
        rfl
      · cases ys.terminated p with
        | nil => rfl
        | cons z zs =>
            rw [cons_append, cons_append, modifyHead_cons, modifyHead_cons, start, rest]
            rfl

theorem terminated_concat_sep {x : α} (xs : List α) (sep : p x = true) :
    (xs ++ [x]).terminated p = xs.terminated p ++ [xs.unterminated p] := by
  rw [terminated, splitOnP_concat_sep xs sep, dropLast_concat, terminated_append_unterminated]

theorem unterminated_concat_sep {x : α} (xs : List α) (sep : p x = true) :
    (xs ++ [x]).unterminated p = [] := by
  rw [unterminated, splitOnP_concat_sep xs sep]
  simp

theorem terminated_concat_other {x : α} (xs : List α) (other : p x = false) :
    (xs ++ [x]).terminated p = xs.terminated p := by
  rw [terminated, splitOnP_concat_other xs other, dropLast_concat]

theorem unterminated_concat_other {x : α} (xs : List α) (other : p x = false) :
    (xs ++ [x]).unterminated p = xs.unterminated p ++ [x] := by
  rw [unterminated, splitOnP_concat_other xs other]
  simp

end List
