/-
# LibraGovernor.Lib.Table -- relational tables with a primary key

A table is its rows in insertion order together with the proof that no two rows
share a primary key, so a table that breaks the constraint cannot be built.  The
writes are the relational ones: `insert?` refuses a taken key, `update` rewrites
rows in place and must keep every key, `upsert` inserts or merges, and `delete`
removes the rows a predicate selects.

What the writes do to a column sum is stated once (`sum_insert?`, `sum_updateAt`,
`sum_update`, `sum_delete`), and so is what they do to a lookup by key
(`find?_updateAt`, `find?_insert?`).
-/
import Mathlib.Data.List.Nodup
import Mathlib.Algebra.BigOperators.Group.List.Basic
import Mathlib.Algebra.Order.BigOperators.Group.List
import Mathlib.Algebra.Order.Group.Nat
import Mathlib.Tactic.Abel

namespace Relational

set_option autoImplicit false

/-- Appending a row whose key is fresh keeps the keys distinct. -/
theorem nodup_map_concat {ρ κ : Type} {key : ρ → κ} {rows : List ρ} {r : ρ}
    (nodup : (rows.map key).Nodup) (fresh : key r ∉ rows.map key) :
    ((rows ++ [r]).map key).Nodup := by
  rw [List.map_append, List.nodup_append]
  refine ⟨nodup, List.nodup_singleton _, ?_⟩
  intro a mem b mem' same
  rw [List.map_singleton, List.mem_singleton] at mem'
  exact fresh (mem' ▸ same ▸ mem)

theorem sum_map_filter {α : Type} (rows : List α) (p : α → Prop) [DecidablePred p] (w : α → Nat) :
    ((rows.filter fun r => p r).map w).sum = (rows.map fun r => if p r then w r else 0).sum := by
  induction rows with
  | nil => rfl
  | cons r rows ih =>
      by_cases keep : p r
      · simp [keep, ih]
      · simp [keep, ih]

/-- Rewriting rows that are not selected, before or after, selects the same rows. -/
theorem filter_map_eq_filter {α : Type} {rows : List α} {f : α → α} {p : α → Bool}
    (each : ∀ r ∈ rows, f r = r ∨ p (f r) = false ∧ p r = false) :
    (rows.map f).filter p = rows.filter p := by
  induction rows with
  | nil => rfl
  | cons r rows ih =>
      have rest := ih fun r' mem => each r' (List.mem_cons_of_mem r mem)
      rcases each r List.mem_cons_self with same | ⟨after, before⟩
      · rw [List.map_cons, List.filter_cons, List.filter_cons, same, rest]
      · rw [List.map_cons, List.filter_cons, List.filter_cons, after, before, rest]
        rfl

/-- Rows in insertion order; the primary key is unique. -/
structure Table (ρ : Type) {κ : Type} (key : ρ → κ) where
  rows : List ρ
  nodup : (rows.map key).Nodup

namespace Table

variable {ρ κ : Type} {key : ρ → κ}

def empty : Table ρ key := ⟨[], List.nodup_nil⟩

instance : Membership ρ (Table ρ key) := ⟨fun t r => r ∈ t.rows⟩

@[simp] theorem mem_rows (t : Table ρ key) (r : ρ) : r ∈ t.rows ↔ r ∈ t := Iff.rfl

@[simp] theorem not_mem_empty (r : ρ) : r ∉ (empty : Table ρ key) := List.not_mem_nil

theorem ext_rows {t u : Table ρ key} (same : t.rows = u.rows) : t = u := by
  cases t; cases u; cases same; rfl

/-- Two rows of one table with one key are one row. -/
theorem eq_of_key (t : Table ρ key) {r r' : ρ} (mem : r ∈ t) (mem' : r' ∈ t)
    (same : key r = key r') : r = r' :=
  List.inj_on_of_nodup_map t.nodup mem mem' same

/-! ## Writes -/

/-- `UPDATE`: rewrite every row in place, keeping every key. -/
def update (t : Table ρ key) (f : ρ → ρ) (keeps : ∀ r, key (f r) = key r) : Table ρ key where
  rows := t.rows.map f
  nodup := by
    rw [List.map_map, show key ∘ f = key from funext keeps]
    exact t.nodup

/-- `DELETE ... WHERE p`. -/
def delete (t : Table ρ key) (p : ρ → Bool) : Table ρ key where
  rows := t.rows.filter fun r => !p r
  nodup := t.nodup.sublist (List.filter_sublist.map key)

@[simp] theorem mem_update (t : Table ρ key) (f : ρ → ρ) (keeps : ∀ r, key (f r) = key r)
    (r' : ρ) : r' ∈ t.update f keeps ↔ ∃ r ∈ t, f r = r' := by
  rw [← mem_rows]
  simp [update]

@[simp] theorem mem_delete (t : Table ρ key) (p : ρ → Bool) (r : ρ) :
    r ∈ t.delete p ↔ r ∈ t ∧ p r = false := by
  rw [← mem_rows]
  simp [delete]

section Keyed

variable [DecidableEq κ]

def find? (t : Table ρ key) (k : κ) : Option ρ := t.rows.find? fun r => key r = k

/-- `INSERT`: `none` when the key is taken. -/
def insert? (t : Table ρ key) (r : ρ) : Option (Table ρ key) :=
  if fresh : key r ∈ t.rows.map key then none
  else some ⟨t.rows ++ [r], nodup_map_concat t.nodup fresh⟩

theorem keeps_at {f : ρ → ρ} (keeps : ∀ r, key (f r) = key r) (k : κ) (r : ρ) :
    key (if key r = k then f r else r) = key r := by
  split
  · exact keeps r
  · rfl

/-- `UPDATE ... WHERE key = k`. -/
def updateAt (t : Table ρ key) (k : κ) (f : ρ → ρ) (keeps : ∀ r, key (f r) = key r) :
    Table ρ key :=
  t.update (fun r => if key r = k then f r else r) (keeps_at keeps k)

/-- `INSERT ... ON CONFLICT (key) DO UPDATE`. -/
def upsert (t : Table ρ key) (r : ρ) (merge : ρ → ρ) (keeps : ∀ r, key (merge r) = key r) :
    Table ρ key :=
  (t.insert? r).getD (t.updateAt (key r) merge keeps)

/-! ## Lookups -/

theorem find?_eq_some_iff (t : Table ρ key) (k : κ) (r : ρ) :
    t.find? k = some r ↔ r ∈ t ∧ key r = k := by
  constructor
  · intro found
    exact ⟨List.mem_of_find?_eq_some found, by simpa using List.find?_some found⟩
  · rintro ⟨mem, rfl⟩
    cases found : t.find? (key r) with
    | none => simpa using List.find?_eq_none.mp found r mem
    | some r' =>
        have same : key r' = key r := by simpa using List.find?_some found
        rw [t.eq_of_key (List.mem_of_find?_eq_some found) mem same]

theorem find?_eq_none_iff (t : Table ρ key) (k : κ) :
    t.find? k = none ↔ ∀ r ∈ t, key r ≠ k := by
  simp only [find?, List.find?_eq_none, decide_eq_true_eq]
  rfl

theorem insert?_eq_some_iff (t u : Table ρ key) (r : ρ) :
    t.insert? r = some u ↔ t.find? (key r) = none ∧ u.rows = t.rows ++ [r] := by
  have taken : (key r ∈ t.rows.map key) ↔ ¬ t.find? (key r) = none := by
    rw [find?_eq_none_iff]
    simp [List.mem_map]
  unfold insert?
  split
  · rename_i mem
    simp [taken.mp mem]
  · rename_i absent
    have free : t.find? (key r) = none := not_not.mp (mt taken.mpr absent)
    rw [Option.some.injEq]
    exact ⟨fun same => same ▸ ⟨free, rfl⟩, fun same => ext_rows same.2.symm⟩

theorem insert?_of_free {t : Table ρ key} {r : ρ} (free : t.find? (key r) = none) :
    ∃ u, t.insert? r = some u := by
  have absent : key r ∉ t.rows.map key := by
    intro listed
    obtain ⟨r', mem, same⟩ := List.mem_map.mp listed
    exact (find?_eq_none_iff t (key r)).mp free r' mem same
  exact ⟨_, dif_neg absent⟩

theorem mem_insert? {t u : Table ρ key} {r : ρ} (done : t.insert? r = some u) (r' : ρ) :
    r' ∈ u ↔ r' ∈ t ∨ r' = r := by
  rw [← mem_rows, ((insert?_eq_some_iff t u r).mp done).2]
  simp

theorem find?_insert? {t u : Table ρ key} {r : ρ} (done : t.insert? r = some u) (k : κ) :
    u.find? k = if key r = k then some r else t.find? k := by
  have rows := ((insert?_eq_some_iff t u r).mp done)
  split
  · rename_i same
    exact (find?_eq_some_iff u k r).mpr ⟨(mem_insert? done r).mpr (.inr rfl), same⟩
  · rename_i ne
    simp [find?, rows.2, List.find?_append, ne]

theorem find?_update (t : Table ρ key) (f : ρ → ρ) (keeps : ∀ r, key (f r) = key r) (k : κ) :
    (t.update f keeps).find? k = (t.find? k).map f := by
  simp only [find?, update, List.find?_map]
  congr 2
  funext r
  simp [keeps]

theorem find?_updateAt (t : Table ρ key) (k k' : κ) (f : ρ → ρ)
    (keeps : ∀ r, key (f r) = key r) :
    (t.updateAt k f keeps).find? k' =
      if k' = k then (t.find? k).map f else t.find? k' := by
  rw [updateAt, find?_update]
  cases found : t.find? k' with
  | none =>
      split
      · rename_i same
        rw [← same, found]
        rfl
      · rfl
  | some r =>
      have same := ((find?_eq_some_iff t k' r).mp found).2
      split
      · rename_i here
        rw [← here, found]
        simp [same, here]
      · rename_i ne
        simp [same, ne]

/-- An upsert writes under its own key only. -/
theorem find?_upsert (t : Table ρ key) (r : ρ) (merge : ρ → ρ)
    (keeps : ∀ r, key (merge r) = key r) (k : κ) :
    (t.upsert r merge keeps).find? k =
      if k = key r then some (((t.find? k).map merge).getD r) else t.find? k := by
  unfold upsert
  cases done : t.insert? r with
  | some u =>
      have free := ((insert?_eq_some_iff t u r).mp done).1
      rw [Option.getD_some, find?_insert? done]
      by_cases here : k = key r
      · rw [here, free]
        simp
      · rw [if_neg here, if_neg fun same => here same.symm]
  | none =>
      have taken : t.find? (key r) ≠ none := by
        intro free
        have inserted : t.insert? r = some ⟨t.rows ++ [r], nodup_map_concat t.nodup ?_⟩ := ?_
        · rw [done] at inserted
          cases inserted
        · intro mem
          obtain ⟨r', mem', same⟩ := List.mem_map.mp mem
          exact (find?_eq_none_iff t (key r)).mp free r' mem' same
        · exact (insert?_eq_some_iff t _ r).mpr ⟨free, rfl⟩
      obtain ⟨old, found⟩ := Option.ne_none_iff_exists'.mp taken
      rw [Option.getD_none, find?_updateAt]
      by_cases here : k = key r
      · rw [here, found]
        simp
      · rw [if_neg here, if_neg here]

end Keyed

/-! ## Column sums -/

section Sums

variable {M : Type} [AddCommMonoid M]

/-- `SUM` of a column over the whole table. -/
def sum (t : Table ρ key) (w : ρ → M) : M := (t.rows.map w).sum

@[simp] theorem sum_empty (w : ρ → M) : (empty : Table ρ key).sum w = 0 := rfl

theorem sum_update (t : Table ρ key) (f : ρ → ρ) (keeps : ∀ r, key (f r) = key r) (w : ρ → M) :
    (t.update f keeps).sum w = t.sum fun r => w (f r) := by
  simp only [sum, update, List.map_map]
  rfl

theorem sum_add (t : Table ρ key) (w w' : ρ → M) :
    t.sum (fun r => w r + w' r) = t.sum w + t.sum w' := List.sum_map_add

theorem sum_congr (t : Table ρ key) {w w' : ρ → M} (same : ∀ r ∈ t, w r = w' r) :
    t.sum w = t.sum w' := congrArg List.sum (List.map_congr_left same)

theorem sum_eq_zero (t : Table ρ key) {w : ρ → M} (zero : ∀ r ∈ t, w r = 0) : t.sum w = 0 := by
  rw [sum_congr t zero]
  simp [sum]

theorem sum_le [PartialOrder M] [IsOrderedAddMonoid M] (t : Table ρ key) {w w' : ρ → M}
    (le : ∀ r ∈ t, w r ≤ w' r) : t.sum w ≤ t.sum w' := List.sum_le_sum le

theorem sum_nonneg [PartialOrder M] [IsOrderedAddMonoid M] (t : Table ρ key) {w : ρ → M}
    (nonneg : ∀ r ∈ t, 0 ≤ w r) : 0 ≤ t.sum w := by
  have le := sum_le t nonneg
  rwa [sum_eq_zero t fun _ _ => rfl] at le

/-- Columns that are ordered row by row have one sum only when they agree. -/
theorem eq_of_sum_eq (t : Table ρ key) {w w' : ρ → Nat} (le : ∀ r ∈ t, w r ≤ w' r)
    (same : t.sum w' = t.sum w) : ∀ r ∈ t, w r = w' r := by
  intro r mem
  by_contra differ
  have lt : t.sum w < t.sum w' :=
    List.sum_lt_sum w w' le ⟨r, mem, lt_of_le_of_ne (le r mem) differ⟩
  exact absurd same (ne_of_gt lt)

theorem le_sum_of_mem (t : Table ρ key) (w : ρ → Nat) {r : ρ} (mem : r ∈ t) :
    w r ≤ t.sum w := List.le_sum_of_mem (List.mem_map_of_mem mem)

section Keyed

variable [DecidableEq κ]

theorem sum_insert? {t u : Table ρ key} {r : ρ} (done : t.insert? r = some u) (w : ρ → M) :
    u.sum w = t.sum w + w r := by
  simp [sum, ((insert?_eq_some_iff t u r).mp done).2]

/-- Updating one row moves a column sum by exactly that row's change. -/
theorem sum_updateAt (t : Table ρ key) {k : κ} {r : ρ} (found : t.find? k = some r)
    (f : ρ → ρ) (keeps : ∀ r, key (f r) = key r) (w : ρ → M) :
    (t.updateAt k f keeps).sum w + w r = t.sum w + w (f r) := by
  obtain ⟨mem, here⟩ := (find?_eq_some_iff t k r).mp found
  have nodup := t.nodup
  obtain ⟨before, after, split⟩ := List.append_of_mem mem
  -- The rows on either side have other keys, so the update leaves them alone.
  have others : ∀ r' ∈ before ++ after, key r' ≠ k := by
    intro r' mem' same
    rw [split, List.map_append, List.map_cons] at nodup
    have apart := List.nodup_middle.mp nodup
    rw [List.nodup_cons, here] at apart
    refine apart.1 ?_
    rw [← List.map_append, ← same]
    exact List.mem_map_of_mem mem'
  have still : ∀ rs : List ρ, (∀ r' ∈ rs, key r' ≠ k) →
      rs.map (w ∘ fun r => if key r = k then f r else r) = rs.map w := by
    intro rs apart
    refine List.map_congr_left fun r' mem' => ?_
    simp [apart r' mem']
  simp only [sum, updateAt, update, List.map_map, split, List.map_append, List.map_cons,
    List.sum_append, List.sum_cons]
  rw [still before fun r' mem' => others r' (List.mem_append_left _ mem'),
    still after fun r' mem' => others r' (List.mem_append_right _ mem')]
  simp only [here, if_true]
  abel

/-! ## Comparing two versions of a table -/

/-- Sums `w` over the rows that both versions have, as they were and as they are. -/
def movedSum (t u : Table ρ key) (w : ρ → ρ → M) : M :=
  u.sum fun after => ((t.find? (key after)).map fun before => w before after).getD 0

/-- Sums `w` over the rows that only the later version has. -/
def addedSum (t u : Table ρ key) (w : ρ → M) : M :=
  u.sum fun after => if (t.find? (key after)).isNone then w after else 0

theorem movedSum_update (t : Table ρ key) (f : ρ → ρ) (keeps : ∀ r, key (f r) = key r)
    (w : ρ → ρ → M) : t.movedSum (t.update f keeps) w = t.sum fun r => w r (f r) := by
  rw [movedSum, sum_update]
  refine sum_congr t fun r mem => ?_
  rw [keeps r, (find?_eq_some_iff t (key r) r).mpr ⟨mem, rfl⟩]
  rfl

/-- One updated row's figure is within that of the whole update. -/
theorem le_movedSum_updateAt (t : Table ρ key) {k : κ} {r : ρ} (found : t.find? k = some r)
    (f : ρ → ρ) (keeps : ∀ r, key (f r) = key r) (w : ρ → ρ → Nat) :
    w r (f r) ≤ t.movedSum (t.updateAt k f keeps) w := by
  obtain ⟨mem, here⟩ := (find?_eq_some_iff t k r).mp found
  have le := le_sum_of_mem t (fun r => w r (if key r = k then f r else r)) mem
  rw [updateAt, movedSum_update]
  simpa [here] using le

theorem addedSum_insert? {t u : Table ρ key} {r : ρ} (done : t.insert? r = some u) (w : ρ → M) :
    t.addedSum u w = w r := by
  have old : ∀ r' ∈ t, (if (t.find? (key r')).isNone then w r' else 0) = 0 := by
    intro r' mem
    simp [(find?_eq_some_iff t (key r') r').mpr ⟨mem, rfl⟩]
  rw [addedSum, sum_insert? done, sum_eq_zero t old]
  simp [((insert?_eq_some_iff t u r).mp done).1]

end Keyed

/-- Deleting rows takes exactly their share out of a column sum. -/
theorem sum_delete (t : Table ρ key) (p : ρ → Bool) (w : ρ → M) :
    (t.delete p).sum w + t.sum (fun r => if p r then w r else 0) = t.sum w := by
  obtain ⟨rows, nodup⟩ := t
  simp only [sum, delete]
  clear nodup
  induction rows with
  | nil => simp
  | cons r rows ih =>
      rw [List.map_cons, List.map_cons, List.sum_cons, List.sum_cons, ← ih]
      cases drop : p r
      · simp [drop, add_assoc]
      · simp [drop]
        abel

end Sums

end Table

end Relational
