/-
# LibraGovernor.Lib.FirstSeen -- the first different elements of a list

A reader that skips what it has met and stops at a cap keeps the list's different elements, in
the order they are met, up to the cap.  `subset_take_eraseDups` says when it keeps all of a
given stretch of the list: everything different up to the end of the stretch fits, or the
stretch has nothing the cap did not keep before it.
-/
import Mathlib.Data.List.Nodup

namespace FirstSeen

set_option autoImplicit false

variable {α : Type} [DecidableEq α]

theorem nodup_eraseDups (xs : List α) : xs.eraseDups.Nodup := by
  induction len : xs.length using Nat.strongRecOn generalizing xs with
  | ind n ih =>
      cases xs with
      | nil => exact List.nodup_nil
      | cons x xs =>
          rw [List.eraseDups_cons, List.nodup_cons]
          constructor
          · intro mem
            have kept := (List.mem_filter.mp (List.mem_eraseDups.mp mem)).2
            simp at kept
          · refine ih _ ?_ _ rfl
            have le := List.length_filter_le (fun y => !y == x) xs
            simp only [List.length_cons] at len
            omega

theorem eraseDups_of_nodup {xs : List α} (nodup : xs.Nodup) : xs.eraseDups = xs := by
  induction xs with
  | nil => rfl
  | cons x xs ih =>
      obtain ⟨new, nodup⟩ := List.nodup_cons.mp nodup
      have same : xs.filter (fun y => !y == x) = xs := by
        rw [List.filter_eq_self]
        intro y mem
        have differ : y ≠ x := by
          rintro rfl
          exact new mem
        simp [differ]
      rw [List.eraseDups_cons, same, ih nodup]

/-- What is kept of a list is kept of any longer one, in front. -/
theorem eraseDups_append_prefix (xs ys : List α) : ∃ zs, (xs ++ ys).eraseDups = xs.eraseDups ++ zs :=
  ⟨_, List.eraseDups_append⟩

/-- The first `cap` different elements of a list contain a stretch of it exactly when everything
different up to its end fits, or it is contained in what the cap keeps before it. -/
theorem subset_take_eraseDups (cap : Nat) (before own after : List α) :
    own ⊆ (before ++ own ++ after).eraseDups.take cap ↔
      (before ++ own).eraseDups.length ≤ cap ∨ own ⊆ before.eraseDups.take cap := by
  obtain ⟨later, whole⟩ := eraseDups_append_prefix (before ++ own) after
  have split : (before ++ own).eraseDups = before.eraseDups ++ (own.removeAll before).eraseDups :=
    List.eraseDups_append
  rw [whole]
  by_cases room : (before ++ own).eraseDups.length ≤ cap
  · refine ⟨fun _ => .inl room, ?_⟩
    intro _ x mem
    rw [List.take_append, List.take_of_length_le room]
    exact List.mem_append_left _ (List.mem_eraseDups.mpr (List.mem_append_right before mem))
  · rw [List.take_append_of_le_length (by omega)]
    constructor
    · intro kept
      refine .inr ?_
      have full : cap ≤ before.eraseDups.length := by
        by_contra short
        -- The last element that is new in the stretch is past the cap.
        have nodup := nodup_eraseDups (before ++ own)
        have last : (before ++ own).eraseDups.drop cap ≠ [] := by
          rw [Ne, List.drop_eq_nil_iff]
          exact room
        obtain ⟨x, tail⟩ := List.exists_mem_of_ne_nil _ last
        have fresh : x ∈ (own.removeAll before).eraseDups := by
          rw [split, List.drop_append, List.drop_of_length_le (by omega), List.nil_append] at tail
          exact List.mem_of_mem_drop tail
        have mem : x ∈ own := (List.mem_filter.mp (List.mem_eraseDups.mp fresh)).1
        rw [← List.take_append_drop cap (before ++ own).eraseDups, List.nodup_append] at nodup
        exact nodup.2.2 x (kept mem) x tail rfl
      rwa [split, List.take_append_of_le_length full] at kept
    · rintro (fits | kept) x mem
      · exact absurd fits room
      · have here := kept mem
        rw [split, List.take_append]
        exact List.mem_append_left _ here

end FirstSeen
