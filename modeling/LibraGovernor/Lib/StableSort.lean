/-
# LibraGovernor.Lib.StableSort -- what a stable sort and a keep-first filter leave

A stable sort commutes with a filter (`filter_insertionSort`), so what it puts first among the
elements of one key is the sort of those alone (`find?_insertionSort`).  Keeping the first
element of each key (`keepFirst`) leaves the elements that are first among their own
(`mem_keepFirst`), each key once.  A sort whose order tells the elements of a list apart
depends only on which they are (`insertionSort_congr`), and one more element goes in somewhere
(`insertionSort_insert`).
-/
import Mathlib.Data.List.Nodup
import Mathlib.Data.List.Sort

namespace StableSort

set_option autoImplicit false

variable {α κ : Type}

/-- In the order of a key. -/
def ByKey [LE κ] (key : α → κ) (x y : α) : Prop := key x ≤ key y

section ByKey

variable [LinearOrder κ] (key : α → κ)

instance : DecidableRel (ByKey key) := fun x y => inferInstanceAs (Decidable (key x ≤ key y))

instance : Std.Total (ByKey key) := ⟨fun x y => le_total (key x) (key y)⟩

instance : IsTrans α (ByKey key) := ⟨fun _ _ _ xy yz => le_trans xy yz⟩

end ByKey

section Order

variable (r : α → α → Prop) [DecidableRel r] [Std.Total r] [IsTrans α r]

omit [Std.Total r] in
theorem filter_orderedInsert (p : α → Bool) (x : α) (xs : List α) (sorted : xs.Pairwise r) :
    (xs.orderedInsert r x).filter p =
      if p x then (xs.filter p).orderedInsert r x else xs.filter p := by
  induction xs with
  | nil => cases kept : p x <;> simp [kept]
  | cons y ys ih =>
      obtain ⟨least, sorted⟩ := List.pairwise_cons.mp sorted
      by_cases before : r x y
      · rw [List.orderedInsert_cons, if_pos before]
        cases kept : p x with
        | false => simp [List.filter_cons, kept]
        | true =>
            rw [if_pos rfl, List.filter_cons_of_pos kept]
            -- Everything kept of `y :: ys` is at or after `y`, so `x` goes in front.
            have front : ∀ z ∈ (y :: ys).filter p, r x z := by
              intro z mem
              rcases List.mem_cons.mp (List.mem_filter.mp mem).1 with rfl | later
              · exact before
              · exact IsTrans.trans _ _ _ before (least z later)
            cases rest : (y :: ys).filter p with
            | nil => rfl
            | cons z zs =>
                rw [rest] at front
                rw [List.orderedInsert_cons, if_pos (front z List.mem_cons_self)]
      · rw [List.orderedInsert_cons, if_neg before]
        cases first : p y with
        | false => rw [List.filter_cons_of_neg (by simp [first]),
            List.filter_cons_of_neg (by simp [first]), ih sorted]
        | true =>
            rw [List.filter_cons_of_pos first, List.filter_cons_of_pos first, ih sorted]
            cases kept : p x with
            | false => rfl
            | true =>
                rw [if_pos rfl, if_pos rfl, List.orderedInsert_cons, if_neg before]

/-- Sorting and filtering commute. -/
theorem filter_insertionSort (p : α → Bool) (xs : List α) :
    (xs.insertionSort r).filter p = (xs.filter p).insertionSort r := by
  induction xs with
  | nil => rfl
  | cons x xs ih =>
      rw [List.insertionSort_cons, filter_orderedInsert r p x _ (List.pairwise_insertionSort r xs),
        ih]
      cases kept : p x with
      | false => simp [kept]
      | true => rw [if_pos rfl, List.filter_cons_of_pos kept, List.insertionSort_cons]

/-- The first element with a property is the first of those that have it. -/
theorem find?_insertionSort (p : α → Bool) (xs : List α) :
    (xs.insertionSort r).find? p = ((xs.filter p).insertionSort r).head? := by
  rw [← List.head?_filter, filter_insertionSort]

/-- What a sort puts first is nowhere after the rest. -/
theorem head_insertionSort {xs : List α} {x : α} (first : (xs.insertionSort r).head? = some x) :
    x ∈ xs ∧ ∀ y ∈ xs, r x y := by
  have sorted := List.pairwise_insertionSort r xs
  cases rest : xs.insertionSort r with
  | nil =>
      rw [rest] at first
      cases first
  | cons z zs =>
      rw [rest] at first sorted
      cases first
      have same : ∀ y, y ∈ xs ↔ y ∈ x :: zs := by
        intro y
        rw [← rest, List.mem_insertionSort]
      refine ⟨(same x).mpr List.mem_cons_self, ?_⟩
      intro y mem
      rcases List.mem_cons.mp ((same y).mp mem) with rfl | later
      · exact (Std.Total.total y y).elim id id
      · exact (List.pairwise_cons.mp sorted).1 y later

omit [Std.Total r] [IsTrans α r] in
/-- An element that is nowhere after the others, and stands in front of them, stays there. -/
theorem insertionSort_cons_least {x : α} {xs : List α} (least : ∀ y ∈ xs, r x y) :
    ((x :: xs).insertionSort r).head? = some x := by
  rw [List.insertionSort_cons]
  cases rest : xs.insertionSort r with
  | nil => rfl
  | cons y ys =>
      have mem : y ∈ xs := (List.mem_insertionSort r).mp (rest ▸ List.mem_cons_self)
      rw [List.orderedInsert_cons, if_pos (least y mem)]
      rfl

omit [Std.Total r] [IsTrans α r] in
/-- One more element goes in somewhere. -/
theorem insertionSort_insert (x : α) (xs : List α) :
    ∃ front back, (x :: xs).insertionSort r = front ++ x :: back ∧
      xs.insertionSort r = front ++ back := by
  refine ⟨(xs.insertionSort r).takeWhile fun y => decide ¬ r x y,
    (xs.insertionSort r).dropWhile fun y => decide ¬ r x y, ?_, ?_⟩
  · rw [List.insertionSort_cons, List.orderedInsert_eq_take_drop]
  · exact (List.takeWhile_append_dropWhile ..).symm

/-- A sort depends only on which elements there are, when no two of them tie. -/
theorem insertionSort_congr {xs ys : List α} (perm : xs.Perm ys)
    (apart : ∀ x ∈ xs, ∀ y ∈ xs, r x y → r y x → x = y) :
    xs.insertionSort r = ys.insertionSort r := by
  have sorted := (List.perm_insertionSort r xs).trans (perm.trans (List.perm_insertionSort r ys).symm)
  refine sorted.eq_of_pairwise ?_ (List.pairwise_insertionSort r xs) (List.pairwise_insertionSort r ys)
  intro x y mem mem'
  refine apart x ((List.mem_insertionSort r).mp mem) y ?_
  exact perm.mem_iff.mpr ((List.mem_insertionSort r).mp mem')

end Order

section KeepFirst

variable [DecidableEq κ] (key : α → κ)

/-- Drops every element whose key was seen. -/
def keepFirst : List κ → List α → List α
  | _, [] => []
  | seen, x :: xs =>
      if key x ∈ seen then keepFirst seen xs else x :: keepFirst (key x :: seen) xs

theorem mem_keepFirst_seen (seen : List κ) (xs : List α) (v : α) :
    v ∈ keepFirst key seen xs ↔ key v ∉ seen ∧ xs.find? (fun x => key x = key v) = some v := by
  induction xs generalizing seen with
  | nil => simp [keepFirst]
  | cons x xs ih =>
      rw [keepFirst]
      by_cases here : key x = key v
      · rw [List.find?_cons_of_pos (by simpa using here), here]
        split
        · rename_i old
          rw [ih]
          simp [old]
        · rename_i new
          rw [List.mem_cons, ih]
          simp [new, eq_comm]
      · rw [List.find?_cons_of_neg (by simpa using here)]
        split
        · exact ih seen
        · have apart : v ≠ x := by
            rintro rfl
            exact here rfl
          rw [List.mem_cons, ih, List.mem_cons]
          simp [apart, Ne.symm here]

theorem mem_keepFirst (xs : List α) (v : α) :
    v ∈ keepFirst key [] xs ↔ xs.find? (fun x => key x = key v) = some v := by
  rw [mem_keepFirst_seen]
  simp

theorem keepFirst_keys (seen : List κ) (xs : List α) :
    ((keepFirst key seen xs).map key).Nodup ∧ ∀ k ∈ (keepFirst key seen xs).map key, k ∉ seen := by
  induction xs generalizing seen with
  | nil => simp [keepFirst]
  | cons x xs ih =>
      rw [keepFirst]
      split
      · exact ih seen
      · rename_i new
        obtain ⟨nodup, unseen⟩ := ih (key x :: seen)
        rw [List.map_cons, List.nodup_cons]
        refine ⟨⟨?_, nodup⟩, ?_⟩
        · intro mem
          exact unseen _ mem List.mem_cons_self
        · intro k mem
          rcases List.mem_cons.mp mem with rfl | later
          · exact new
          · intro old
            exact unseen k later (List.mem_cons_of_mem _ old)

theorem keepFirst_nodup (xs : List α) : (keepFirst key [] xs).Nodup :=
  List.Nodup.of_map key (keepFirst_keys key [] xs).1

/-- Two kept elements of one key are one. -/
theorem keepFirst_inj {xs : List α} {v w : α} (mem : v ∈ keepFirst key [] xs)
    (mem' : w ∈ keepFirst key [] xs) (same : key v = key w) : v = w := by
  rw [mem_keepFirst] at mem mem'
  rw [same, mem'] at mem
  cases mem
  rfl

/-- One more element of a new key is one more element kept, wherever it stands. -/
theorem keepFirst_insert {x : α} {xs ys : List α} (fresh : ∀ y ∈ xs ++ ys, key y ≠ key x) :
    (keepFirst key [] (xs ++ x :: ys)).Perm (x :: keepFirst key [] (xs ++ ys)) := by
  have absent : ∀ zs : List α, (∀ y ∈ zs, key y ≠ key x) →
      zs.find? (fun y => key y = key x) = none := by
    intro zs none
    rw [List.find?_eq_none]
    intro y mem
    simpa using none y mem
  have new : x ∉ keepFirst key [] (xs ++ ys) := by
    rw [mem_keepFirst, absent _ fresh]
    exact nofun
  rw [List.perm_ext_iff_of_nodup (keepFirst_nodup key _)
    (List.nodup_cons.mpr ⟨new, keepFirst_nodup key _⟩)]
  intro v
  rw [List.mem_cons, mem_keepFirst, mem_keepFirst, List.find?_append, List.find?_append]
  by_cases here : key x = key v
  · rw [← here, absent xs fun y mem => fresh y (List.mem_append_left ys mem),
      absent ys fun y mem => fresh y (List.mem_append_right xs mem),
      List.find?_cons_of_pos (by simp)]
    simp [eq_comm]
  · have apart : v ≠ x := by
      rintro rfl
      exact here rfl
    rw [List.find?_cons_of_neg (by simpa using here)]
    simp [apart]

section Sorted

variable (r : α → α → Prop) [DecidableRel r] [Std.Total r] [IsTrans α r]

/-- Of a sorted list the first of its own key is kept. -/
theorem mem_keepFirst_sorted (xs : List α) (v : α) :
    v ∈ keepFirst key [] (xs.insertionSort r) ↔
      ((xs.filter fun x => key x = key v).insertionSort r).head? = some v := by
  rw [mem_keepFirst, find?_insertionSort]

/-- One more element of a new key is one more element kept. -/
theorem keepFirst_sorted_insert {x : α} {xs ys : List α} (fresh : ∀ y ∈ xs ++ ys, key y ≠ key x) :
    (keepFirst key [] ((xs ++ x :: ys).insertionSort r)).Perm
      (x :: keepFirst key [] ((xs ++ ys).insertionSort r)) := by
  have absent : ∀ zs : List α, (∀ y ∈ zs, key y ≠ key x) →
      zs.filter (fun y => key y = key x) = [] := by
    intro zs none
    rw [List.filter_eq_nil_iff]
    intro y mem
    simpa using none y mem
  have new : x ∉ keepFirst key [] ((xs ++ ys).insertionSort r) := by
    rw [mem_keepFirst_sorted, absent _ fresh]
    exact nofun
  rw [List.perm_ext_iff_of_nodup (keepFirst_nodup key _)
    (List.nodup_cons.mpr ⟨new, keepFirst_nodup key _⟩)]
  intro v
  rw [List.mem_cons, mem_keepFirst_sorted, mem_keepFirst_sorted, List.filter_append,
    List.filter_append]
  by_cases here : key x = key v
  · rw [← here, absent xs fun y mem => fresh y (List.mem_append_left ys mem),
      absent ys fun y mem => fresh y (List.mem_append_right xs mem),
      List.filter_cons_of_pos (by simp), absent ys fun y mem => fresh y (List.mem_append_right xs mem)]
    simp [eq_comm]
  · have apart : v ≠ x := by
      rintro rfl
      exact here rfl
    rw [List.filter_cons_of_neg (by simpa using here)]
    simp [apart]

end Sorted

end KeepFirst

end StableSort
