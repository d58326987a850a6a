/-
# LibraGovernor.Lib.Document -- a JSON document edited in place

`put` writes the value at a key of a map, made if it is not there, and `replace` the value at a
key an object has.  Each leaves every other key, and what it does at its own says what it is
(`get_put`, `get_replace`); `remove` takes back a key that was made (`remove_put`).
-/
import LibraGovernor.Lib.Json

set_option autoImplicit false

namespace Fields

section Map

variable {κ α : Type} [LinearOrder κ]

/-- Writes the value at a key. -/
def put (key : κ) (value : α) (fields : List (κ × α)) : List (κ × α) :=
  match get key fields with
  | some _ => modify key (fun _ => value) fields
  | none => upsert key value id fields

theorem put_some {key : κ} {value old : α} {fields : List (κ × α)} (here : get key fields = some old) :
    put key value fields = modify key (fun _ => value) fields := by
  rw [put, here]

theorem put_none {key : κ} {value : α} {fields : List (κ × α)} (missing : get key fields = none) :
    put key value fields = upsert key value id fields := by
  rw [put, missing]

theorem get_upsert_ne {key k : κ} (other : k ≠ key) (default : α) (change : α → α)
    (fields : List (κ × α)) : get k (upsert key default change fields) = get k fields := by
  induction fields with
  | nil => simp [upsert, get, Ne.symm other]
  | cons x rest ih =>
      rw [upsert]
      split
      · rw [get_cons_ne (Ne.symm other)]
      split
      · rename_i here
        have apart : ¬ x.1 = k := fun same => other (same.symm.trans here)
        rw [get, get, if_neg apart, if_neg apart]
      · rw [get, get, ih]

theorem get_upsert_missing {key : κ} {fields : List (κ × α)} (missing : get key fields = none)
    (default : α) (change : α → α) :
    get key (upsert key default change fields) = some (change default) := by
  induction fields with
  | nil => simp [upsert, get]
  | cons x rest ih =>
      have other : x.1 ≠ key := get_none.mp missing x List.mem_cons_self
      rw [get_cons_ne other] at missing
      rw [upsert]
      split
      · rw [get, if_pos rfl]
      · rw [get, if_neg other, ih missing]

theorem remove_upsert {key : κ} {fields : List (κ × α)} (missing : get key fields = none)
    (default : α) (change : α → α) : remove key (upsert key default change fields) = fields := by
  induction fields with
  | nil => simp [upsert, remove]
  | cons x rest ih =>
      have other : x.1 ≠ key := get_none.mp missing x List.mem_cons_self
      have missing' := missing
      rw [get_cons_ne other] at missing'
      rw [upsert]
      split
      · rw [remove, List.filter_cons_of_neg (by simp)]
        exact remove_eq_self missing
      · rw [remove, List.filter_cons_of_pos (by simpa using other)]
        exact congrArg (List.cons x) (ih missing')

theorem get_put (key k : κ) (value : α) (fields : List (κ × α)) :
    get k (put key value fields) = if k = key then some value else get k fields := by
  cases here : get key fields with
  | some old =>
      rw [put_some here, get_modify, here]
      rfl
  | none =>
      rw [put_none here]
      by_cases same : k = key
      · rw [if_pos same, same, get_upsert_missing here]
        rfl
      · rw [if_neg same, get_upsert_ne same]

theorem put_self {key : κ} {value : α} {fields : List (κ × α)} (here : get key fields = some value) :
    put key value fields = fields := by
  rw [put_some here, modify_self here]

theorem modify_modify (key : κ) (first second : α) (fields : List (κ × α)) :
    modify key (fun _ => second) (modify key (fun _ => first) fields) =
      modify key (fun _ => second) fields := by
  induction fields with
  | nil => rfl
  | cons x rest ih =>
      by_cases here : x.1 = key
      · simp [modify, here]
      · simp [modify, here, ih]

/-- Writing back what was there. -/
theorem put_put_self {key : κ} {value other : α} {fields : List (κ × α)}
    (here : get key fields = some value) : put key value (put key other fields) = fields := by
  have there : get key (put key other fields) = some other := by rw [get_put, if_pos rfl]
  rw [put_some there, put_some here, modify_modify, modify_self here]

theorem remove_put {key : κ} {value : α} {fields : List (κ × α)} (missing : get key fields = none) :
    remove key (put key value fields) = fields := by
  rw [put_none missing, remove_upsert missing]

theorem remove_remove (key key' : κ) (fields : List (κ × α)) :
    remove key (remove key' fields) = remove key' (remove key fields) := by
  simp only [remove, List.filter_filter, Bool.and_comm]

theorem remove_modify {key key' : κ} (other : key ≠ key') (change : α → α) (fields : List (κ × α)) :
    remove key (modify key' change fields) = modify key' change (remove key fields) := by
  induction fields with
  | nil => rfl
  | cons x rest ih =>
      obtain ⟨k, v⟩ := x
      rw [remove] at ih ⊢
      rw [modify]
      by_cases at_other : k = key'
      · subst at_other
        rw [if_pos rfl, List.filter_cons_of_pos (by simpa using Ne.symm other), remove,
          List.filter_cons_of_pos (by simpa using Ne.symm other), modify, if_pos rfl]
      · rw [if_neg at_other, remove]
        by_cases here : k = key
        · rw [List.filter_cons_of_neg (by simpa using here), List.filter_cons_of_neg (by simpa using here),
            ih]
          rfl
        · rw [List.filter_cons_of_pos (by simpa using here), List.filter_cons_of_pos (by simpa using here),
            modify, if_neg at_other, ih]
          rfl

/-- Taking back one key and writing at another that is there, in either order. -/
theorem remove_put_ne {key key' : κ} (other : key ≠ key') {value : α} {fields : List (κ × α)}
    (there : get key' fields ≠ none) :
    remove key (put key' value fields) = put key' value (remove key fields) := by
  obtain ⟨old, here⟩ := Option.ne_none_iff_exists'.mp there
  have here' : get key' (remove key fields) = some old := by
    rw [get_remove, if_neg (Ne.symm other), here]
  rw [put_some here, put_some here', remove_modify other]

/-- Writing at a key does not matter to a filter that makes the same of what it wrote. -/
theorem filterMap_put {β : Type} {choose : κ × α → Option β} {key : κ} {value : α}
    {fields : List (κ × α)}
    (same : choose (key, value) = (get key fields).bind fun old => choose (key, old)) :
    (put key value fields).filterMap choose = fields.filterMap choose := by
  cases here : get key fields with
  | some old =>
      rw [here, Option.bind_some] at same
      rw [put_some here]
      induction fields with
      | nil => cases here
      | cons x rest ih =>
          obtain ⟨k, v⟩ := x
          rw [get] at here
          rw [modify]
          split at here
          · rename_i at_key
            cases here
            subst at_key
            rw [if_pos rfl, List.filterMap_cons, List.filterMap_cons, same]
          · rename_i other
            rw [if_neg other, List.filterMap_cons, List.filterMap_cons, ih here]
  | none =>
      rw [here, Option.bind_none] at same
      rw [put_none here]
      induction fields with
      | nil =>
          show List.filterMap choose [(key, value)] = []
          rw [List.filterMap_cons_none same]
          rfl
      | cons x rest ih =>
          have other : x.1 ≠ key := get_none.mp here x List.mem_cons_self
          rw [get_cons_ne other] at here
          rw [upsert]
          split
          · show List.filterMap choose ((key, value) :: _) = _
            rw [List.filterMap_cons_none same]
          · rw [List.filterMap_cons, List.filterMap_cons, ih here]

/-- What a filter that keeps the keys makes of a map, at a key. -/
theorem get_filterMap {choose : κ × α → Option (κ × α)}
    (keys : ∀ x y, choose x = some y → y.1 = x.1) {fields : List (κ × α)}
    (ascending : Ascending fields) (key : κ) :
    get key (fields.filterMap choose) =
      (get key fields).bind fun v => (choose (key, v)).map Prod.snd := by
  induction fields with
  | nil => rfl
  | cons x rest ih =>
      obtain ⟨k, v⟩ := x
      obtain ⟨above, tail⟩ := List.pairwise_cons.mp ascending
      rw [get]
      by_cases here : k = key
      · subst here
        rw [if_pos rfl, Option.bind_some]
        cases chosen : choose (k, v) with
        | some y =>
            rw [List.filterMap_cons_some chosen, get, if_pos (keys _ _ chosen)]
            rfl
        | none =>
            rw [List.filterMap_cons_none chosen, ih tail,
              get_of_above fun y mem => above y mem]
            rfl
      · rw [if_neg here]
        cases chosen : choose (k, v) with
        | some y =>
            have other : ¬ y.1 = key := fun same => here ((keys _ _ chosen).symm.trans same)
            rw [List.filterMap_cons_some chosen, get, if_neg other, ih tail]
        | none => rw [List.filterMap_cons_none chosen, ih tail]

end Map

end Fields

namespace Json

def asArray : Json → Option (List Json)
  | .array items => some items
  | _ => none

def asObject : Json → Option (List (String × Json))
  | .object fields => some fields
  | _ => none

/-- Writes the value at a key the object has. -/
def replace (key : String) (j value : Json) : Json :=
  match j with
  | .object fields => .object (Fields.modify key (fun _ => value) fields)
  | j => j

theorem get_replace (key k : String) (value j : Json) :
    (j.replace key value).get k = if k = key then (j.get key).map fun _ => value else j.get k := by
  cases j with
  | object fields => exact Fields.get_modify key k (fun _ => value) fields
  | _ => simp [replace, get]

theorem replace_self {key : String} {value j : Json} (here : j.get key = some value) :
    j.replace key value = j := by
  cases j with
  | object fields => exact congrArg Json.object (Fields.modify_self here)
  | _ => rfl

theorem replace_replace (key : String) (first second j : Json) :
    (j.replace key first).replace key second = j.replace key second := by
  cases j with
  | object fields => exact congrArg Json.object (Fields.modify_modify key first second fields)
  | _ => rfl

theorem asArray_eq_some {j : Json} {items : List Json} : j.asArray = some items ↔ j = .array items := by
  cases j <;> simp [asArray]

theorem asObject_eq_some {j : Json} {fields : List (String × Json)} :
    j.asObject = some fields ↔ j = .object fields := by
  cases j <;> simp [asObject]

end Json
