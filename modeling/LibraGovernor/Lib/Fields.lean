/-
# LibraGovernor.Lib.Fields -- a map kept as its entries in ascending order

A map from a linear order is its entries in ascending order of their keys.  What it has at each
key says which map it is (`ext`); an operation at one key leaves the others (`get_upsert`,
`get_remove`), and up to order a map is one of its entries and the rest (`perm_of_get`,
`upsert_perm`).
-/
import Mathlib.Data.List.Perm.Basic
import Mathlib.Order.Basic
import Mathlib.Order.Defs.LinearOrder
import Mathlib.Order.Lattice

namespace Fields

set_option autoImplicit false

variable {κ α : Type} [LinearOrder κ]

def Ascending (fields : List (κ × α)) : Prop := fields.Pairwise fun x y => x.1 < y.1

instance (fields : List (κ × α)) : Decidable (Ascending fields) :=
  inferInstanceAs (Decidable (fields.Pairwise fun x y => x.1 < y.1))

def get (key : κ) : List (κ × α) → Option α
  | [] => none
  | (k, v) :: rest => if k = key then some v else get key rest

/-- Changes the value at a key, from a default if there is none. -/
def upsert (key : κ) (default : α) (change : α → α) : List (κ × α) → List (κ × α)
  | [] => [(key, change default)]
  | (k, v) :: rest =>
      if key < k then (key, change default) :: (k, v) :: rest
      else if k = key then (k, change v) :: rest
      else (k, v) :: upsert key default change rest

def remove (key : κ) (fields : List (κ × α)) : List (κ × α) := fields.filter fun x => x.1 ≠ key

/-- Changes the value at a key, if there is one. -/
def modify (key : κ) (change : α → α) : List (κ × α) → List (κ × α)
  | [] => []
  | (k, v) :: rest => if k = key then (k, change v) :: rest else (k, v) :: modify key change rest

/-! ## What there is at a key -/

theorem get_mem {key : κ} {v : α} {fields : List (κ × α)} (here : get key fields = some v) :
    (key, v) ∈ fields := by
  induction fields with
  | nil => cases here
  | cons x rest ih =>
      rw [get] at here
      split at here
      · rename_i same
        cases here
        subst same
        exact List.mem_cons_self
      · exact List.mem_cons_of_mem x (ih here)

theorem get_none {key : κ} {fields : List (κ × α)} :
    get key fields = none ↔ ∀ x ∈ fields, x.1 ≠ key := by
  induction fields with
  | nil => simp [get]
  | cons x rest ih =>
      rw [get, List.forall_mem_cons]
      by_cases same : x.1 = key
      · simp [same]
      · rw [if_neg same, ih]
        simp [same]

theorem get_of_mem {key : κ} {v : α} {fields : List (κ × α)} (ascending : Ascending fields)
    (mem : (key, v) ∈ fields) : get key fields = some v := by
  induction fields with
  | nil => cases mem
  | cons x rest ih =>
      obtain ⟨above, ascending⟩ := List.pairwise_cons.mp ascending
      rw [get]
      rcases List.mem_cons.mp mem with rfl | mem
      · rw [if_pos rfl]
      · rw [if_neg (ne_of_lt (above _ mem)), ih ascending mem]

theorem get_of_above {key : κ} {fields : List (κ × α)} (above : ∀ x ∈ fields, key < x.1) :
    get key fields = none :=
  get_none.mpr fun x mem => (ne_of_lt (above x mem)).symm

theorem get_cons_self (x : κ × α) (fields : List (κ × α)) : get x.1 (x :: fields) = some x.2 :=
  if_pos rfl

theorem get_cons_ne {x : κ × α} {key : κ} (ne : x.1 ≠ key) (fields : List (κ × α)) :
    get key (x :: fields) = get key fields := if_neg ne

/-- Two maps that have the same at each key are one. -/
theorem ext {first second : List (κ × α)} (ascending : Ascending first)
    (ascending' : Ascending second) (same : ∀ key, get key first = get key second) :
    first = second := by
  induction first generalizing second with
  | nil =>
      cases second with
      | nil => rfl
      | cons y second =>
          have here := same y.1
          rw [get_cons_self] at here
          cases here
  | cons x first ih =>
      obtain ⟨above, ascending⟩ := List.pairwise_cons.mp ascending
      cases second with
      | nil =>
          have here := same x.1
          rw [get_cons_self] at here
          cases here
      | cons y second =>
          obtain ⟨above', ascending'⟩ := List.pairwise_cons.mp ascending'
          -- Neither starts before the other, which would not have the key.
          have keys : x.1 = y.1 := by
            rcases lt_trichotomy x.1 y.1 with less | same_key | more
            · have here := same x.1
              have missing : get x.1 (y :: second) = none :=
                get_of_above (List.forall_mem_cons.mpr ⟨less, fun z mem => less.trans (above' z mem)⟩)
              rw [get_cons_self, missing] at here
              cases here
            · exact same_key
            · have here := same y.1
              have missing : get y.1 (x :: first) = none :=
                get_of_above (List.forall_mem_cons.mpr ⟨more, fun z mem => more.trans (above z mem)⟩)
              rw [get_cons_self, missing] at here
              cases here
          have values : x.2 = y.2 := by
            have here := same x.1
            rw [get_cons_self, keys, get_cons_self] at here
            exact Option.some.inj here
          have rest : first = second := by
            apply ih ascending ascending'
            intro key
            have here := same key
            by_cases at_key : x.1 = key
            · subst at_key
              rw [get_of_above above, get_of_above (keys ▸ above')]
            · rwa [get_cons_ne at_key, get_cons_ne (keys ▸ at_key)] at here
          rw [rest, Prod.ext keys values]

/-! ## The operations -/

theorem mem_upsert {key : κ} {default : α} {change : α → α} {fields : List (κ × α)} {x : κ × α}
    (mem : x ∈ upsert key default change fields) : x.1 = key ∨ x ∈ fields := by
  induction fields with
  | nil =>
      rw [upsert, List.mem_singleton] at mem
      exact .inl (congrArg Prod.fst mem)
  | cons y rest ih =>
      rw [upsert] at mem
      split at mem
      · rcases List.mem_cons.mp mem with rfl | mem
        · exact .inl rfl
        · exact .inr mem
      split at mem
      · rename_i same
        rcases List.mem_cons.mp mem with rfl | mem
        · exact .inl same
        · exact .inr (List.mem_cons_of_mem y mem)
      · rcases List.mem_cons.mp mem with rfl | mem
        · exact .inr List.mem_cons_self
        · exact (ih mem).imp_right (List.mem_cons_of_mem y)

theorem ascending_upsert {key : κ} {default : α} {change : α → α} {fields : List (κ × α)}
    (ascending : Ascending fields) : Ascending (upsert key default change fields) := by
  induction fields with
  | nil => exact List.pairwise_singleton _ _
  | cons x rest ih =>
      obtain ⟨above, tail⟩ := List.pairwise_cons.mp ascending
      rw [upsert]
      split
      · rename_i before
        exact List.pairwise_cons.mpr ⟨List.forall_mem_cons.mpr
          ⟨before, fun y mem => before.trans (above y mem)⟩, ascending⟩
      rename_i not_before
      split
      · exact List.pairwise_cons.mpr ⟨above, tail⟩
      · rename_i other
        have after : x.1 < key := lt_of_le_of_ne (not_lt.mp not_before) other
        refine List.pairwise_cons.mpr ⟨fun y mem => ?_, ih tail⟩
        rcases mem_upsert mem with same | mem
        · rw [same]
          exact after
        · exact above y mem

theorem get_upsert {key : κ} {default : α} {change : α → α} {fields : List (κ × α)}
    (ascending : Ascending fields) (k : κ) :
    get k (upsert key default change fields) =
      if k = key then some (change ((get key fields).getD default)) else get k fields := by
  induction fields with
  | nil =>
      by_cases same : k = key
      · simp [upsert, get, same]
      · simp [upsert, get, same, Ne.symm same]
  | cons x rest ih =>
      obtain ⟨above, tail⟩ := List.pairwise_cons.mp ascending
      rw [upsert]
      by_cases before : key < x.1
      · have missing : get key (x :: rest) = none :=
          get_of_above (List.forall_mem_cons.mpr ⟨before, fun y mem => before.trans (above y mem)⟩)
        rw [if_pos before, missing]
        by_cases same : k = key
        · rw [if_pos same, same, get, if_pos rfl]
          rfl
        · rw [if_neg same, get, if_neg (Ne.symm same)]
      rw [if_neg before]
      by_cases here : x.1 = key
      · rw [if_pos here]
        subst here
        by_cases same : k = x.1
        · subst same
          rw [if_pos rfl, get_cons_self, get, if_pos rfl]
          rfl
        · rw [if_neg same, get, if_neg (Ne.symm same), get_cons_ne (Ne.symm same)]
      · rw [if_neg here, get_cons_ne here]
        by_cases same : k = x.1
        · subst same
          rw [get_cons_self, get_cons_self, if_neg here]
        · rw [get_cons_ne (Ne.symm same), get_cons_ne (Ne.symm same), ih tail]

/-- A key that is missing gets an entry of its own. -/
theorem upsert_split {key : κ} {fields : List (κ × α)} (missing : get key fields = none) (default : α)
    (change : α → α) : ∃ before after, fields = before ++ after ∧
      upsert key default change fields = before ++ (key, change default) :: after := by
  induction fields with
  | nil => exact ⟨[], [], rfl, rfl⟩
  | cons x rest ih =>
      obtain ⟨other, missing⟩ := List.forall_mem_cons.mp (get_none.mp missing)
      rw [upsert, if_neg other]
      split
      · exact ⟨[], x :: rest, rfl, rfl⟩
      · obtain ⟨before, after, same, added⟩ := ih (get_none.mpr missing)
        rw [added]
        exact ⟨x :: before, after, congrArg (List.cons x) same, rfl⟩

/-- An entry is made at the key, and none is lost. -/
theorem get_upsert_none {key : κ} {default : α} {change : α → α} {fields : List (κ × α)} (k : κ) :
    get k (upsert key default change fields) = none ↔ key ≠ k ∧ get k fields = none := by
  induction fields with
  | nil => simp [upsert, get]
  | cons x rest ih =>
      rw [upsert]
      split
      · rw [get_none, get_none, List.forall_mem_cons]
      split
      · rename_i here
        rw [get_none, get_none, List.forall_mem_cons, List.forall_mem_cons]
        constructor
        · intro all
          exact ⟨here ▸ all.1, all⟩
        · exact And.right
      · rw [get_none, List.forall_mem_cons, ← get_none, ih, get_none, get_none,
          List.forall_mem_cons]
        constructor
        · intro all
          exact ⟨all.2.1, all.1, all.2.2⟩
        · intro all
          exact ⟨all.2.1, all.1, all.2.2⟩

theorem ascending_remove {key : κ} {fields : List (κ × α)} (ascending : Ascending fields) :
    Ascending (remove key fields) := ascending.filter _

theorem get_remove (key k : κ) (fields : List (κ × α)) :
    get k (remove key fields) = if k = key then none else get k fields := by
  induction fields with
  | nil => simp [remove, get]
  | cons x rest ih =>
      rw [remove] at ih ⊢
      by_cases here : x.1 = key
      · rw [List.filter_cons_of_neg (by simpa using here), ih]
        by_cases same : k = key
        · rw [if_pos same, if_pos same]
        · rw [if_neg same, if_neg same, get_cons_ne (fun eq => same (eq.symm.trans here))]
      · rw [List.filter_cons_of_pos (by simpa using here), get, ih, get]
        by_cases same : x.1 = k
        · rw [if_pos same, if_pos same, if_neg (fun eq => here (same.trans eq))]
        · rw [if_neg same, if_neg same]

theorem modify_keys (key : κ) (change : α → α) (fields : List (κ × α)) :
    (modify key change fields).map Prod.fst = fields.map Prod.fst := by
  induction fields with
  | nil => rfl
  | cons x rest ih =>
      rw [modify]
      split
      · rfl
      · rw [List.map_cons, List.map_cons, ih]

theorem ascending_iff (fields : List (κ × α)) :
    Ascending fields ↔ (fields.map Prod.fst).Pairwise (· < ·) := List.pairwise_map.symm

theorem ascending_modify {key : κ} {change : α → α} {fields : List (κ × α)}
    (ascending : Ascending fields) : Ascending (modify key change fields) := by
  rw [ascending_iff, modify_keys]
  exact (ascending_iff fields).mp ascending

theorem get_modify (key k : κ) (change : α → α) (fields : List (κ × α)) :
    get k (modify key change fields) =
      if k = key then (get key fields).map change else get k fields := by
  induction fields with
  | nil => simp [modify, get]
  | cons x rest ih =>
      rw [modify]
      by_cases here : x.1 = key
      · rw [if_pos here, get, get, if_pos here]
        by_cases same : k = key
        · rw [if_pos (here.trans same.symm), if_pos same]
          rfl
        · have apart : ¬ x.1 = k := fun eq => same (eq.symm.trans here)
          rw [if_neg apart, if_neg same, get_cons_ne apart]
      · rw [if_neg here, get, ih, get_cons_ne here]
        by_cases at_x : x.1 = k
        · have apart : ¬ k = key := fun eq => here (at_x.trans eq)
          rw [if_pos at_x, if_neg apart, get, if_pos at_x]
        · rw [if_neg at_x, get_cons_ne at_x]

/-- Writing what is there already. -/
theorem modify_self {key : κ} {v : α} {fields : List (κ × α)} (here : get key fields = some v) :
    modify key (fun _ => v) fields = fields := by
  induction fields with
  | nil => rfl
  | cons x rest ih =>
      rw [get] at here
      rw [modify]
      split at here
      · rename_i same
        cases here
        rw [if_pos same]
      · rename_i other
        rw [if_neg other, ih here]

/-! ## One entry and the rest -/

theorem remove_eq_self {key : κ} {fields : List (κ × α)} (missing : get key fields = none) :
    remove key fields = fields :=
  List.filter_eq_self.mpr fun x mem => by simpa using get_none.mp missing x mem

theorem perm_of_get {key : κ} {v : α} {fields : List (κ × α)} (ascending : Ascending fields)
    (here : get key fields = some v) : fields.Perm ((key, v) :: remove key fields) := by
  induction fields with
  | nil => cases here
  | cons x rest ih =>
      obtain ⟨above, tail⟩ := List.pairwise_cons.mp ascending
      rw [get] at here
      rw [remove]
      by_cases same : x.1 = key
      · rw [if_pos same] at here
        cases here
        subst same
        rw [List.filter_cons_of_neg (by simp)]
        exact .of_eq (congrArg (List.cons x) (remove_eq_self (get_of_above above)).symm)
      · rw [if_neg same] at here
        rw [List.filter_cons_of_pos (by simpa using same)]
        exact ((ih tail here).cons x).trans (.swap _ _ _)

/-- What an operation at one key leaves: the entry there, and the rest. -/
theorem upsert_perm {fields : List (κ × α)} (ascending : Ascending fields) (key : κ) (default : α)
    (change : α → α) :
    (upsert key default change fields).Perm
      ((key, change ((get key fields).getD default)) :: remove key fields) := by
  have rest : remove key (upsert key default change fields) = remove key fields := by
    apply ext (ascending_remove (ascending_upsert ascending)) (ascending_remove ascending)
    intro k
    rw [get_remove, get_remove, get_upsert ascending]
    split <;> rfl
  rw [← rest]
  apply perm_of_get (ascending_upsert ascending)
  rw [get_upsert ascending, if_pos rfl]

end Fields
