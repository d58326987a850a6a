/-
# LibraGovernor.Lib.Tally -- counting in the order of first sighting

A tally holds one entry a key, with the number of its sightings (`mem_tally`), in the order the
keys were first seen (`tally_order`).  Reading the largest entry of it with a rule that prefers the
later of two equals finds a key with the most sightings, and of several such keys the one seen
last (`mostSeen_last`).  So it finds the one seen first exactly when no other key ties with it
(`mostSeen_first_iff`).
-/
import LibraGovernor.Lib.Best
import Mathlib.Data.List.Basic
import Mathlib.Data.List.Nodup
import Mathlib.Data.List.Count
import Mathlib.Order.Nat

namespace Tally

set_option autoImplicit false

variable {κ : Type} [DecidableEq κ]

/-- One more sighting of a key. -/
def sight : List (κ × ℕ) → κ → List (κ × ℕ)
  | [], k => [(k, 1)]
  | (k', n) :: rest, k => if k' = k then (k', n + 1) :: rest else (k', n) :: sight rest k

def tally (ks : List κ) : List (κ × ℕ) := ks.foldl sight []

theorem tally_append_singleton (ks : List κ) (k : κ) : tally (ks ++ [k]) = sight (tally ks) k := by
  rw [tally, List.foldl_append]
  rfl

theorem keys_sight (counts : List (κ × ℕ)) (k : κ) :
    (sight counts k).map Prod.fst =
      if k ∈ counts.map Prod.fst then counts.map Prod.fst else counts.map Prod.fst ++ [k] := by
  induction counts with
  | nil => rfl
  | cons entry rest ih =>
      obtain ⟨k', n⟩ := entry
      rw [sight]
      by_cases same : k' = k
      · simp [same]
      · have other : k ≠ k' := Ne.symm same
        rw [if_neg same, List.map_cons, ih]
        by_cases seen : k ∈ rest.map Prod.fst
        · simp [seen]
        · simp [seen, other]

theorem mem_sight {counts : List (κ × ℕ)} {k : κ} {e : κ × ℕ} (mem : e ∈ sight counts k) :
    e ∈ counts ∧ e.1 ≠ k ∨ e.1 = k ∧
      (k ∉ counts.map Prod.fst ∧ e.2 = 1 ∨ ∃ n, (k, n) ∈ counts ∧ e.2 = n + 1) ∨
      e ∈ counts ∧ ¬ (counts.map Prod.fst).Nodup := by
  induction counts with
  | nil =>
      cases List.mem_singleton.mp mem
      exact .inr (.inl ⟨rfl, .inl ⟨List.not_mem_nil, rfl⟩⟩)
  | cons entry rest ih =>
      obtain ⟨k', n⟩ := entry
      rw [sight] at mem
      by_cases same : k' = k
      · subst same
        rw [if_pos rfl, List.mem_cons] at mem
        rcases mem with rfl | mem
        · exact .inr (.inl ⟨rfl, .inr ⟨n, List.mem_cons_self, rfl⟩⟩)
        · by_cases other : e.1 = k'
          · refine .inr (.inr ⟨List.mem_cons_of_mem _ mem, ?_⟩)
            intro nodup
            have again := List.mem_map_of_mem (f := Prod.fst) mem
            rw [other] at again
            exact (List.nodup_cons.mp nodup).1 again
          · exact .inl ⟨List.mem_cons_of_mem _ mem, other⟩
      · rw [if_neg same, List.mem_cons] at mem
        rcases mem with rfl | mem
        · exact .inl ⟨List.mem_cons_self, same⟩
        · rcases ih mem with ⟨old, other⟩ | ⟨here, ⟨new, one⟩ | ⟨m, old, more⟩⟩ | ⟨old, twice⟩
          · exact .inl ⟨List.mem_cons_of_mem _ old, other⟩
          · refine .inr (.inl ⟨here, .inl ⟨?_, one⟩⟩)
            simp only [List.map_cons, List.mem_cons, not_or]
            exact ⟨Ne.symm same, new⟩
          · exact .inr (.inl ⟨here, .inr ⟨m, List.mem_cons_of_mem _ old, more⟩⟩)
          · refine .inr (.inr ⟨List.mem_cons_of_mem _ old, ?_⟩)
            intro nodup
            exact twice (List.nodup_cons.mp nodup).2

/-- What a tally of a list holds: the keys in the order of their first sighting, each with the
number of its sightings. -/
structure Tallied (ks : List κ) (counts : List (κ × ℕ)) : Prop where
  keys : ∀ k, k ∈ counts.map Prod.fst ↔ k ∈ ks
  counted : ∀ e ∈ counts, e.2 = ks.count e.1
  order : (counts.map Prod.fst).Pairwise fun j k => ks.idxOf j < ks.idxOf k

namespace Tallied

variable {ks : List κ} {counts : List (κ × ℕ)}

theorem nodup (tallied : Tallied ks counts) : (counts.map Prod.fst).Nodup := by
  refine tallied.order.imp ?_
  rintro j k before rfl
  exact lt_irrefl _ before

theorem mem (tallied : Tallied ks counts) {k : κ} (seen : k ∈ ks) : (k, ks.count k) ∈ counts := by
  obtain ⟨⟨_, n⟩, mem, rfl⟩ := List.mem_map.mp ((tallied.keys k).mpr seen)
  have number := tallied.counted _ mem
  dsimp only at number
  rw [← number]
  exact mem

theorem sight (tallied : Tallied ks counts) (k : κ) : Tallied (ks ++ [k]) (sight counts k) where
  keys j := by
    rw [keys_sight, List.mem_append, List.mem_singleton]
    by_cases seen : k ∈ counts.map Prod.fst
    · rw [if_pos seen, tallied.keys]
      constructor
      · exact .inl
      · intro mem
        rcases mem with mem | rfl
        · exact mem
        · exact (tallied.keys j).mp seen
    · rw [if_neg seen, List.mem_append, tallied.keys, List.mem_singleton]
  counted e mem := by
    rw [List.count_append]
    rcases mem_sight mem with ⟨old, other⟩ | ⟨rfl, ⟨new, one⟩ | ⟨m, old, more⟩⟩ | ⟨_, twice⟩
    · rw [List.count_singleton, if_neg (by simpa using Ne.symm other)]
      exact tallied.counted e old
    · rw [tallied.keys] at new
      rw [List.count_eq_zero.mpr new, List.count_singleton_self]
      exact one
    · have number := tallied.counted _ old
      dsimp only at number
      rw [List.count_singleton_self, more, number]
    · exact absurd tallied.nodup twice
  order := by
    have early : ∀ j ∈ counts.map Prod.fst, (ks ++ [k]).idxOf j = ks.idxOf j := by
      intro j mem
      exact List.idxOf_append_of_mem ((tallied.keys j).mp mem)
    have kept : (counts.map Prod.fst).Pairwise fun i j =>
        (ks ++ [k]).idxOf i < (ks ++ [k]).idxOf j := by
      refine tallied.order.imp_of_mem ?_
      intro i j memI memJ before
      rw [early i memI, early j memJ]
      exact before
    rw [keys_sight]
    split
    · exact kept
    · rename_i new
      refine List.pairwise_append.mpr ⟨kept, List.pairwise_singleton _ k, ?_⟩
      intro j memJ l memL
      cases List.mem_singleton.mp memL
      have fresh : k ∉ ks := fun seen => new ((tallied.keys k).mpr seen)
      rw [early j memJ, List.idxOf_append_of_notMem fresh]
      have inside := List.idxOf_lt_length_of_mem ((tallied.keys j).mp memJ)
      omega

end Tallied

theorem tally_tallied (ks : List κ) : Tallied ks (tally ks) := by
  induction ks using List.reverseRecOn with
  | nil => exact ⟨fun _ => Iff.rfl, by simp [tally], List.Pairwise.nil⟩
  | append_singleton ks k ih =>
      rw [tally_append_singleton]
      exact ih.sight k

/-! ## The largest entry, the later of two equals -/

/-- The largest entry of a tally; of several, the last. -/
def largest (counts : List (κ × ℕ)) : Option (κ × ℕ) :=
  Scan.best (fun entry kept => decide (kept.2 ≤ entry.2)) counts

omit [DecidableEq κ] in
theorem largest_split {counts : List (κ × ℕ)} {e : κ × ℕ} (found : largest counts = some e) :
    ∃ before after, counts = before ++ e :: after ∧ (∀ e' ∈ before, e'.2 ≤ e.2) ∧
      ∀ e' ∈ after, e'.2 < e.2 := by
  induction counts using List.reverseRecOn generalizing e with
  | nil => cases found
  | append_singleton counts last ih =>
      rw [largest, Scan.best_append_singleton] at found
      cases kept : Scan.best (fun entry kept : κ × ℕ => decide (kept.2 ≤ entry.2)) counts with
      | none =>
          rw [kept] at found
          cases found
          rw [(Scan.best_eq_none_iff counts).mp kept]
          exact ⟨[], [], rfl, by simp, by simp⟩
      | some e' =>
          obtain ⟨before, after, rfl, small, smaller⟩ := ih kept
          rw [kept, Scan.prefer] at found
          split at found
          · rename_i wins
            cases found
            rw [decide_eq_true_eq] at wins
            refine ⟨before ++ e' :: after, [], by simp, ?_, by simp⟩
            intro other mem
            rw [List.mem_append, List.mem_cons] at mem
            rcases mem with mem | rfl | mem
            · exact (small other mem).trans wins
            · exact wins
            · exact (smaller other mem).le.trans wins
          · rename_i loses
            cases found
            rw [decide_eq_true_eq, not_le] at loses
            refine ⟨before, after ++ [last], by simp, small, ?_⟩
            intro other mem
            rw [List.mem_append, List.mem_singleton] at mem
            rcases mem with mem | rfl
            · exact smaller other mem
            · exact loses

def mostSeen (ks : List κ) : Option κ := (largest (tally ks)).map Prod.fst

theorem mostSeen_eq_none {ks : List κ} (none : mostSeen ks = none) : ks = [] := by
  rw [mostSeen, Option.map_eq_none_iff, largest, Scan.best_eq_none_iff] at none
  have keys := (tally_tallied ks).keys
  rw [none] at keys
  exact List.eq_nil_iff_forall_not_mem.mpr fun k seen => List.not_mem_nil ((keys k).mpr seen)

/-- A key seen more often than every other, or as often and seen first. -/
def IsFirstMost (ks : List κ) (k : κ) : Prop :=
  k ∈ ks ∧ ∀ j ∈ ks, j ≠ k →
    ks.count j < ks.count k ∨ ks.count j = ks.count k ∧ ks.idxOf k < ks.idxOf j

/-- Two different keys tie for the most sightings. -/
def Tied (ks : List κ) : Prop :=
  ∃ i ∈ ks, ∃ j ∈ ks, i ≠ j ∧ ks.count i = ks.count j ∧ ∀ k ∈ ks, ks.count k ≤ ks.count i

/-- The key found has the most sightings, and every key that ties with it was seen before it. -/
theorem mostSeen_last {ks : List κ} {k : κ} (found : mostSeen ks = some k) :
    k ∈ ks ∧ ∀ j ∈ ks, j ≠ k →
      ks.count j < ks.count k ∨ ks.count j = ks.count k ∧ ks.idxOf j < ks.idxOf k := by
  obtain ⟨⟨k, n⟩, most, rfl⟩ := Option.map_eq_some_iff.mp found
  have tallied := tally_tallied ks
  obtain ⟨before, after, split, small, smaller⟩ := largest_split most
  have mem : (k, n) ∈ tally ks := by
    rw [split]
    simp
  have number := tallied.counted _ mem
  have seen := (tallied.keys _).mp (List.mem_map_of_mem mem)
  dsimp only at number seen ⊢
  refine ⟨seen, ?_⟩
  intro j seenJ other
  have entry := tallied.mem seenJ
  rw [split, List.mem_append, List.mem_cons] at entry
  rcases entry with early | same | late
  · have le := small _ early
    dsimp only at le
    rw [number] at le
    rcases le.lt_or_eq with less | tie
    · exact .inl less
    · have order := tallied.order
      rw [split, List.map_append, List.map_cons] at order
      exact .inr ⟨tie, (List.pairwise_append.mp order).2.2 _ (List.mem_map_of_mem early) _
        List.mem_cons_self⟩
  · exact absurd (congrArg Prod.fst same) other
  · have less := smaller _ late
    dsimp only at less
    rw [number] at less
    exact .inl less

theorem mostSeen_first_iff {ks : List κ} {k : κ} (found : mostSeen ks = some k) :
    IsFirstMost ks k ↔ ¬ Tied ks := by
  obtain ⟨seen, last⟩ := mostSeen_last found
  constructor
  · rintro ⟨_, first⟩ ⟨i, seenI, j, seenJ, differ, tie, most⟩
    have atMost := most k seen
    have alone : ∀ l ∈ ks, ks.count k ≤ ks.count l → l = k := by
      intro l seenL large
      by_contra other
      have left := first l seenL other
      have right := last l seenL other
      omega
    have isI := alone i seenI atMost
    have isJ := alone j seenJ (by omega)
    exact differ (isI.trans isJ.symm)
  · intro untied
    refine ⟨seen, ?_⟩
    intro j seenJ other
    rcases last j seenJ other with less | ⟨tie, _⟩
    · exact .inl less
    · refine absurd ⟨k, seen, j, seenJ, Ne.symm other, tie.symm, ?_⟩ untied
      intro l seenL
      by_cases same : l = k
      · exact le_of_eq (congrArg ks.count same)
      · have bound := last l seenL same
        omega

theorem IsFirstMost.unique {ks : List κ} {j k : κ} (one : IsFirstMost ks j)
    (other : IsFirstMost ks k) : j = k := by
  by_contra differ
  have left := one.2 k other.1 (Ne.symm differ)
  have right := other.2 j one.1 differ
  omega

end Tally
