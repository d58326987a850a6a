/-
# LibraGovernor.Lib.KeepFirst -- one owned entry kept, the later ones dropped

A scan over groups of entries keeps the first entry it owns, as `touch` leaves it, and drops
the owned ones after it; what it does not own stays.  A group is read with `inner`, which is
`none` for one the scan passes over, and written with `fill`.  The scan says of each group
whether dropping emptied it, and leaves it to the caller what becomes of an emptied group:
it may go wherever it is (`dropEmptied`), or only while it is the last (`dropTail`).

What it owns after it is the first entry alone (`groups_owned`), what it does not own is as it
was (`groups_others`), and a second scan changes nothing (`groups_settled`).
-/
import Mathlib.Data.List.Basic
import Mathlib.Data.List.DropRight

namespace KeepFirst

set_option autoImplicit false

variable {α γ : Type}

/-- Whether an owned entry was kept, and whether anything was changed. -/
structure Scan where
  kept : Bool
  changed : Bool
  deriving DecidableEq, Repr

def Scan.start : Scan := ⟨false, false⟩

section Entries

variable (ours : α → Bool) (touch : α → α × Bool)

/-- One group's entries.  `touch` says whether it changed the entry. -/
def entries : Scan → List α → List α × Scan
  | s, [] => ([], s)
  | s, h :: hs =>
      if ours h then
        if s.kept then entries ⟨true, true⟩ hs
        else
          let (rest, s') := entries ⟨true, s.changed || (touch h).2⟩ hs
          ((touch h).1 :: rest, s')
      else
        let (rest, s') := entries s hs
        (h :: rest, s')

variable {ours touch}

theorem entries_of_none {s : Scan} {hs : List α} (none : ∀ h ∈ hs, ours h = false) :
    entries ours touch s hs = (hs, s) := by
  induction hs with
  | nil => rfl
  | cons h hs ih =>
      have rest := ih fun h' mem => none h' (List.mem_cons_of_mem h mem)
      simp [entries, none h List.mem_cons_self, rest]

theorem entries_of_kept {s : Scan} (kept : s.kept = true) (hs : List α) :
    (entries ours touch s hs).1 = hs.filter (fun h => !ours h) ∧
      (entries ours touch s hs).2.kept = true := by
  induction hs generalizing s with
  | nil => exact ⟨rfl, kept⟩
  | cons h hs ih =>
      cases here : ours h with
      | true =>
          obtain ⟨rest, still⟩ := ih (s := ⟨true, true⟩) rfl
          simp [entries, here, kept, rest, still]
      | false =>
          obtain ⟨rest, still⟩ := ih kept
          simp [entries, here, rest, still]

theorem entries_append_none {s : Scan} {before : List α} (none : ∀ h ∈ before, ours h = false)
    (after : List α) :
    entries ours touch s (before ++ after) =
      (before ++ (entries ours touch s after).1, (entries ours touch s after).2) := by
  induction before with
  | nil => rfl
  | cons h before ih =>
      have rest := ih fun h' mem => none h' (List.mem_cons_of_mem h mem)
      simp [entries, none h List.mem_cons_self, rest]

/-- An entry that is not owned, with none owned before it, stays where it is. -/
theorem entries_getElem? (s : Scan) {hs : List α} {i : Nat} {h : α} (at_ : hs[i]? = some h)
    (none : ∀ h' ∈ hs.take (i + 1), ours h' = false) : (entries ours touch s hs).1[i]? = some h := by
  have long : i < (hs.take (i + 1)).length := by
    rw [List.length_take]
    have inside := (List.getElem?_eq_some_iff.mp at_).1
    omega
  rw [← List.take_append_drop (i + 1) hs, entries_append_none none, List.getElem?_append_left long,
    List.getElem?_take_of_lt (Nat.lt_succ_self i)]
  exact at_

/-- Up to the first owned entry nothing changes, and after it the owned ones go. -/
theorem entries_first {s : Scan} (open_ : s.kept = false) {before after : List α} {h : α}
    (none : ∀ h' ∈ before, ours h' = false) (here : ours h = true) :
    (entries ours touch s (before ++ h :: after)).1 =
        before ++ (touch h).1 :: after.filter (fun h => !ours h) ∧
      (entries ours touch s (before ++ h :: after)).2.kept = true := by
  induction before with
  | nil =>
      obtain ⟨rest, still⟩ := @entries_of_kept α ours touch
        ⟨true, s.changed || (touch h).2⟩ rfl after
      simp [entries, here, open_, rest, still]
  | cons h' before ih =>
      obtain ⟨rest, still⟩ := ih fun h'' mem => none h'' (List.mem_cons_of_mem h' mem)
      simp [entries, none h' List.mem_cons_self, rest, still]

variable (ours) in
/-- A list has a first owned entry, or none. -/
theorem first_or_none (hs : List α) :
    (∀ h ∈ hs, ours h = false) ∨ ∃ before h after, hs = before ++ h :: after ∧
      (∀ h' ∈ before, ours h' = false) ∧ ours h = true := by
  cases found : hs.find? ours with
  | none =>
      refine .inl ?_
      intro h mem
      exact Bool.not_eq_true _ ▸ List.find?_eq_none.mp found h mem
  | some h =>
      obtain ⟨here, before, after, rfl, none⟩ := List.find?_eq_some_iff_append.mp found
      refine .inr ⟨before, h, after, rfl, ?_, here⟩
      intro h' mem
      simpa using none h' mem

theorem entries_kept (s : Scan) (hs : List α) :
    (entries ours touch s hs).2.kept = (s.kept || hs.any ours) := by
  cases kept : s.kept with
  | true => simpa using (entries_of_kept kept hs).2
  | false =>
      rcases first_or_none ours hs with none | ⟨before, h, after, rfl, none, here⟩
      · rw [entries_of_none none, kept, Bool.false_or, List.any_eq_false.mpr]
        intro h mem
        simp [none h mem]
      · rw [(entries_first kept none here).2]
        simp [here]

/-- What is not owned stays. -/
theorem entries_others (touched : ∀ h, ours h = true → ours (touch h).1 = true) (s : Scan)
    (hs : List α) :
    (entries ours touch s hs).1.filter (fun h => !ours h) = hs.filter fun h => !ours h := by
  induction hs generalizing s with
  | nil => rfl
  | cons h hs ih =>
      cases here : ours h with
      | true =>
          cases kept : s.kept with
          | true => simp [entries, here, kept, ih]
          | false => simp [entries, here, kept, touched h here, ih]
      | false => simp [entries, here, ih]

/-- What is owned afterwards is the first owned entry, when none was kept before. -/
theorem entries_owned (touched : ∀ h, ours h = true → ours (touch h).1 = true) (s : Scan)
    (hs : List α) :
    (entries ours touch s hs).1.filter ours =
      if s.kept then [] else ((hs.find? ours).map fun h => (touch h).1).toList := by
  cases kept : s.kept with
  | true =>
      rw [(entries_of_kept kept hs).1, if_pos rfl, List.filter_filter, List.filter_eq_nil_iff]
      simp
  | false =>
      rw [if_neg Bool.false_ne_true]
      rcases first_or_none ours hs with none | ⟨before, h, after, rfl, none, here⟩
      · have unfound : hs.find? ours = Option.none := by
          rw [List.find?_eq_none]
          intro h mem
          simp [none h mem]
        rw [entries_of_none none, unfound]
        simpa [List.filter_eq_nil_iff] using none
      · have found : (before ++ h :: after).find? ours = some h := by
          rw [List.find?_append, List.find?_eq_none.mpr (by simpa using none), Option.none_or,
            List.find?_cons_of_pos here]
        have nothing : before.filter ours = [] := by simpa [List.filter_eq_nil_iff] using none
        rw [(entries_first kept none here).1, found, List.filter_append, nothing, List.nil_append,
          List.filter_cons_of_pos (touched h here), List.filter_filter]
        simp

/-- Only owned entries can leave a group empty. -/
theorem owned_of_emptied {s : Scan} {hs : List α} (emptied : (entries ours touch s hs).1 = []) :
    ∀ h ∈ hs, ours h = true := by
  intro h mem
  by_contra foreign
  have stays : h ∈ (entries ours touch s hs).1 := by
    cases kept : s.kept with
    | true =>
        rw [(entries_of_kept kept hs).1, List.mem_filter]
        exact ⟨mem, by simpa using foreign⟩
    | false =>
        rcases first_or_none ours hs with none | ⟨before, h', after, rfl, none, here⟩
        · rw [entries_of_none none]
          exact mem
        · rw [(entries_first kept none here).1, List.mem_append, List.mem_cons, List.mem_filter]
          rcases List.mem_append.mp mem with early | late
          · exact .inl early
          · rcases List.mem_cons.mp late with rfl | late
            · exact absurd here foreign
            · exact .inr (.inr ⟨late, by simpa using foreign⟩)
  rw [emptied] at stays
  exact List.not_mem_nil stays

/-- Entries of which at most one is owned, and that one is as `touch` leaves it. -/
theorem entries_settled {s : Scan} {hs : List α} (open_ : s.kept = true → ∀ h ∈ hs, ours h = false)
    (one : (hs.filter ours).length ≤ 1) (still : ∀ h ∈ hs, ours h = true → touch h = (h, false)) :
    entries ours touch s hs = (hs, ⟨s.kept || hs.any ours, s.changed⟩) := by
  rcases first_or_none ours hs with none | ⟨before, h, after, rfl, none, here⟩
  · have quiet : hs.any ours = false := by simpa using none
    rw [entries_of_none none, quiet, Bool.or_false]
  · have kept : s.kept = false := by
      by_contra kept
      have foreign := open_ (by simpa using kept) h (by simp)
      rw [here] at foreign
      cases foreign
    have rest : ∀ h' ∈ after, ours h' = false := by
      have nothing : before.filter ours = [] := by simpa [List.filter_eq_nil_iff] using none
      rw [List.filter_append, nothing, List.nil_append, List.filter_cons_of_pos here,
        List.length_cons] at one
      have empty : after.filter ours = [] := List.eq_nil_of_length_eq_zero (by omega)
      simpa [List.filter_eq_nil_iff] using empty
    have touched := still h (by simp) here
    clear open_ one still
    induction before with
    | nil => simp [entries, here, kept, touched, entries_of_none rest]
    | cons h' before ih =>
        have tail := ih fun h'' mem => none h'' (List.mem_cons_of_mem h' mem)
        simp [entries, none h' List.mem_cons_self, tail, here]

/-- Dropping the owned entries moves no other one exactly when the owned ones come last. -/
theorem filter_places_iff (hs : List α) :
    (∀ (i : Nat) (h : α), hs[i]? = some h → ours h = false →
      (hs.filter fun h => !ours h)[i]? = some h) ↔
      hs.Pairwise fun a b => ours a = true → ours b = true := by
  constructor
  · intro places
    induction hs with
    | nil => exact .nil
    | cons x xs ih =>
        cases here : ours x with
        | false =>
            refine List.pairwise_cons.mpr ⟨fun _ _ owned => absurd owned (by simp [here]), ih ?_⟩
            intro i h at_ foreign
            have placed := places (i + 1) h (by simpa using at_) foreign
            rw [List.filter_cons_of_pos (by simp [here]), List.getElem?_cons_succ] at placed
            exact placed
        | true =>
            have all : ∀ h ∈ xs, ours h = true := by
              -- The last foreign entry would have as many places before it as there are entries left.
              rcases first_or_none (fun h => !ours h) xs.reverse with
                none | ⟨before, h, after, split, owned, foreign⟩
              · intro h mem
                simpa using none h (List.mem_reverse.mpr mem)
              · have split' : xs = after.reverse ++ h :: before.reverse := by
                  rw [← List.reverse_reverse xs, split]
                  simp
                have gone : before.reverse.filter (fun h => !ours h) = [] := by
                  rw [List.filter_eq_nil_iff]
                  intro h' mem
                  simpa using owned h' (List.mem_reverse.mp mem)
                have placed := places (after.length + 1) h (by simp [split']) (by simpa using foreign)
                rw [List.filter_cons_of_neg (by simp [here]), split', List.filter_append,
                  List.filter_cons_of_pos (p := fun h => !ours h) foreign, gone] at placed
                have inside := (List.getElem?_eq_some_iff.mp placed).1
                have short := List.length_filter_le (fun h => !ours h) after.reverse
                rw [List.length_append, List.length_singleton] at inside
                rw [List.length_reverse] at short
                omega
            refine List.pairwise_cons.mpr ⟨fun b mem _ => all b mem, ?_⟩
            rw [List.pairwise_iff_forall_sublist]
            intro a b sub _
            exact all b (sub.subset (by simp))
  · intro last i h at_ foreign
    have kept := @entries_of_kept α ours (fun h => (h, false)) ⟨true, false⟩ rfl hs
    rw [← kept.1]
    refine entries_getElem? _ at_ ?_
    intro h' mem
    obtain ⟨j, inside, rfl⟩ := List.mem_iff_getElem.mp mem
    obtain ⟨bound, rfl⟩ := List.getElem?_eq_some_iff.mp at_
    rw [List.length_take] at inside
    rw [List.getElem_take]
    by_contra owned
    rcases Nat.lt_or_eq_of_le (Nat.le_of_lt_succ (Nat.lt_of_lt_of_le inside (Nat.min_le_left _ _))) with
      before | same
    · have later := List.pairwise_iff_getElem.mp last j i (by omega) bound before (by simpa using owned)
      rw [foreign] at later
      cases later
    · subst same
      exact owned foreign

end Entries

section Groups

variable (ours : α → Bool) (touch : α → α × Bool) (inner : γ → Option (List α))
  (fill : γ → List α → γ)

/-- The groups, each with whether dropping emptied it. -/
def groups : Scan → List γ → List (γ × Bool) × Scan
  | s, [] => ([], s)
  | s, g :: gs =>
      match inner g with
      | none =>
          let (rest, s') := groups s gs
          ((g, false) :: rest, s')
      | some hs =>
          let (hs', s₁) := entries ours touch s hs
          let (rest, s') := groups s₁ gs
          ((fill g hs', !hs.isEmpty && hs'.isEmpty) :: rest, s')

/-- The entries of all groups, in order. -/
def members (gs : List γ) : List α := gs.flatMap fun g => (inner g).getD []

/-- What a group is without its owned entries; one that has nothing else is none. -/
def others (g : γ) : Option γ :=
  match inner g with
  | none => some g
  | some hs =>
      let rest := hs.filter fun h => !ours h
      if rest = [] ∧ hs ≠ [] then none else some (fill g rest)

/-- What the scan makes of one group. -/
inductive Scanned : γ → γ × Bool → Prop
  | passed {g : γ} (none : inner g = none) : Scanned g (g, false)
  | read {g : γ} {hs : List α} (s : Scan) (some : inner g = some hs) :
      Scanned g (fill g (entries ours touch s hs).1,
        !hs.isEmpty && (entries ours touch s hs).1.isEmpty)

variable {ours touch inner fill}

theorem groups_cons_none {s : Scan} {g : γ} (none : inner g = none) (gs : List γ) :
    groups ours touch inner fill s (g :: gs) =
      ((g, false) :: (groups ours touch inner fill s gs).1, (groups ours touch inner fill s gs).2) := by
  simp only [groups]
  rw [none]

theorem groups_cons_some {s : Scan} {g : γ} {hs : List α} (some : inner g = some hs) (gs : List γ) :
    groups ours touch inner fill s (g :: gs) =
      ((fill g (entries ours touch s hs).1, !hs.isEmpty && (entries ours touch s hs).1.isEmpty) ::
        (groups ours touch inner fill (entries ours touch s hs).2 gs).1,
        (groups ours touch inner fill (entries ours touch s hs).2 gs).2) := by
  simp only [groups]
  rw [some]

theorem groups_at {s : Scan} {gs : List γ} {i : Nat} {g : γ} (at_ : gs[i]? = some g) :
    ∃ out, (groups ours touch inner fill s gs).1[i]? = some out ∧
      Scanned ours touch inner fill g out := by
  induction gs generalizing s i with
  | nil => cases at_
  | cons g' gs ih =>
      cases i with
      | zero =>
          cases at_
          cases found : inner g with
          | none =>
              rw [groups_cons_none found]
              exact ⟨_, rfl, .passed found⟩
          | some hs =>
              rw [groups_cons_some found]
              exact ⟨_, rfl, .read s found⟩
      | succ i =>
          rw [List.getElem?_cons_succ] at at_
          cases found : inner g' with
          | none =>
              rw [groups_cons_none found, List.getElem?_cons_succ]
              exact ih at_
          | some hs =>
              rw [groups_cons_some found, List.getElem?_cons_succ]
              exact ih at_

theorem length_groups (s : Scan) (gs : List γ) :
    (groups ours touch inner fill s gs).1.length = gs.length := by
  induction gs generalizing s with
  | nil => rfl
  | cons g gs ih =>
      cases found : inner g with
      | none => rw [groups_cons_none found, List.length_cons, List.length_cons, ih]
      | some hs => rw [groups_cons_some found, List.length_cons, List.length_cons, ih]

theorem mem_groups {s : Scan} {gs : List γ} {out : γ × Bool}
    (mem : out ∈ (groups ours touch inner fill s gs).1) :
    ∃ g ∈ gs, Scanned ours touch inner fill g out := by
  obtain ⟨i, inside, rfl⟩ := List.mem_iff_getElem.mp mem
  have inside' : i < gs.length := by
    rw [length_groups] at inside
    exact inside
  obtain ⟨out, there, scanned⟩ := @groups_at α γ ours touch inner fill s gs i _
    (List.getElem?_eq_getElem inside')
  rw [List.getElem?_eq_getElem inside, Option.some.injEq] at there
  exact ⟨_, List.getElem_mem inside', there ▸ scanned⟩

theorem members_cons (g : γ) (gs : List γ) :
    members inner (g :: gs) = (inner g).getD [] ++ members inner gs := rfl

theorem members_append (gs gs' : List γ) :
    members inner (gs ++ gs') = members inner gs ++ members inner gs' := List.flatMap_append

theorem groups_kept (s : Scan) (gs : List γ) :
    (groups ours touch inner fill s gs).2.kept = (s.kept || (members inner gs).any ours) := by
  induction gs generalizing s with
  | nil => simp [groups, members]
  | cons g gs ih =>
      cases found : inner g with
      | none => simp [groups_cons_none found, members_cons, found, ih]
      | some hs => simp [groups_cons_some found, members_cons, found, ih, entries_kept, Bool.or_assoc]

section Lawful

variable (inner_fill : ∀ g hs hs', inner g = some hs → inner (fill g hs') = some hs')

/-- Nothing changes where nothing is owned. -/
theorem groups_of_none (fill_self : ∀ g hs, inner g = some hs → fill g hs = g) {s : Scan}
    {gs : List γ} (none : ∀ h ∈ members inner gs, ours h = false) :
    groups ours touch inner fill s gs = (gs.map fun g => (g, false), s) := by
  induction gs with
  | nil => rfl
  | cons g gs ih =>
      rw [members_cons] at none
      have rest := ih fun h mem => none h (List.mem_append_right _ mem)
      cases found : inner g with
      | none => rw [groups_cons_none found, rest]; rfl
      | some hs =>
          have quiet : entries ours touch s hs = (hs, s) := entries_of_none fun h mem =>
            none h (List.mem_append_left _ (by rw [found]; exact mem))
          rw [groups_cons_some found, quiet, rest, fill_self g hs found]
          cases hs with
          | nil => rfl
          | cons h hs => rfl

include inner_fill in
theorem inner_scanned {g : γ} {out : γ × Bool} (scanned : Scanned ours touch inner fill g out) :
    (inner g = none ∧ out = (g, false)) ∨ ∃ hs s, inner g = some hs ∧
      inner out.1 = some (entries ours touch s hs).1 ∧ out.1 = fill g (entries ours touch s hs).1 ∧
      (out.2 = true ↔ hs ≠ [] ∧ (entries ours touch s hs).1 = []) := by
  cases scanned with
  | passed none => exact .inl ⟨none, rfl⟩
  | @read hs s found =>
      refine .inr ⟨hs, s, found, inner_fill g hs _ found, rfl, ?_⟩
      simp

include inner_fill in
/-- Of what is owned the first entry is left. -/
theorem groups_owned (touched : ∀ h, ours h = true → ours (touch h).1 = true) (s : Scan)
    (gs : List γ) :
    (members inner ((groups ours touch inner fill s gs).1.map Prod.fst)).filter ours =
      if s.kept then []
      else (((members inner gs).find? ours).map fun h => (touch h).1).toList := by
  induction gs generalizing s with
  | nil => simp [groups, members]
  | cons g gs ih =>
      cases found : inner g with
      | none =>
          rw [groups_cons_none found, List.map_cons, members_cons, members_cons, found,
            Option.getD_none, List.nil_append, List.nil_append, ih]
      | some hs =>
          rw [groups_cons_some found, List.map_cons, members_cons, members_cons, found,
            inner_fill g hs _ found, Option.getD_some, Option.getD_some, List.filter_append,
            entries_owned touched, ih, entries_kept]
          cases s.kept with
          | true => simp
          | false =>
              cases first : hs.find? ours with
              | none =>
                  have quiet : hs.any ours = false := by
                    simpa using List.find?_eq_none.mp first
                  simp [quiet, List.find?_append, first]
              | some h =>
                  have loud : hs.any ours = true :=
                    List.any_eq_true.mpr ⟨h, List.mem_of_find?_eq_some first, List.find?_some first⟩
                  simp [loud, List.find?_append, first]

include inner_fill in
/-- What is not owned is as it was: the groups that dropping did not empty are, without their
owned entries, the groups before. -/
theorem groups_others (fill_fill : ∀ g hs hs', fill (fill g hs) hs' = fill g hs')
    (touched : ∀ h, ours h = true → ours (touch h).1 = true) (s : Scan) (gs : List γ) :
    (((groups ours touch inner fill s gs).1.filter fun out => !out.2).map Prod.fst).filterMap
        (others ours inner fill) = gs.filterMap (others ours inner fill) := by
  induction gs generalizing s with
  | nil => rfl
  | cons g gs ih =>
      cases found : inner g with
      | none =>
          rw [groups_cons_none found, List.filter_cons_of_pos (by rfl), List.map_cons,
            List.filterMap_cons, List.filterMap_cons, ih]
      | some hs =>
          have same := entries_others touched s hs
          rw [groups_cons_some found, List.filterMap_cons]
          have after : inner (fill g (entries ours touch s hs).1) = some (entries ours touch s hs).1 :=
            inner_fill g hs _ found
          cases emptied : !hs.isEmpty && (entries ours touch s hs).1.isEmpty with
          | true =>
              have facts : hs ≠ [] ∧ (entries ours touch s hs).1 = [] := by simpa using emptied
              have gone : others ours inner fill g = none := by
                have rest : hs.filter (fun h => !ours h) = [] := by
                  rw [← same, facts.2]
                  rfl
                simp [others, found, rest, facts.1]
              rw [List.filter_cons_of_neg (by simp), ih, gone]
          | false =>
              have still : others ours inner fill (fill g (entries ours touch s hs).1) =
                  others ours inner fill g := by
                simp only [others, after, found, same, fill_fill]
                by_cases rest : hs.filter (fun h => !ours h) = []
                · have nonempty : (entries ours touch s hs).1 ≠ [] ↔ hs ≠ [] := by
                    constructor
                    · rintro filled rfl
                      exact filled rfl
                    · intro filled none
                      simp [filled, none] at emptied
                  rw [if_congr (and_congr_right fun _ => nonempty) rfl rfl]
                · simp [rest]
              rw [List.filter_cons_of_pos (by rfl), List.map_cons, List.filterMap_cons, ih, still]

/-- A scan of what a scan left changes nothing. -/
theorem groups_settled (fill_self : ∀ g hs, inner g = some hs → fill g hs = g) {s : Scan}
    {gs : List γ} (open_ : s.kept = true → ∀ h ∈ members inner gs, ours h = false)
    (one : ((members inner gs).filter ours).length ≤ 1)
    (still : ∀ h ∈ members inner gs, ours h = true → touch h = (h, false)) :
    groups ours touch inner fill s gs =
      (gs.map fun g => (g, false), ⟨s.kept || (members inner gs).any ours, s.changed⟩) := by
  induction gs generalizing s with
  | nil => simp [groups, members]
  | cons g gs ih =>
      rw [members_cons] at open_ one still
      cases found : inner g with
      | none =>
          rw [found, Option.getD_none, List.nil_append] at open_ one still
          rw [groups_cons_none found, ih open_ one still]
          simp [members_cons, found]
      | some hs =>
          rw [found, Option.getD_some] at open_ one still
          rw [List.filter_append, List.length_append] at one
          have here : entries ours touch s hs = (hs, ⟨s.kept || hs.any ours, s.changed⟩) := entries_settled
            (fun kept h mem => open_ kept h (List.mem_append_left _ mem)) (by omega)
            fun h mem => still h (List.mem_append_left _ mem)
          have rest := ih (s := ⟨s.kept || hs.any ours, s.changed⟩) ?_ (by omega)
            fun h mem => still h (List.mem_append_right _ mem)
          · rw [groups_cons_some found, here, rest, fill_self g hs found]
            simp [members_cons, found, Bool.or_assoc]
          · intro kept h mem
            rcases (Bool.or_eq_true _ _).mp kept with before | here
            · exact open_ before h (List.mem_append_right _ mem)
            · obtain ⟨h', mem', owned⟩ := List.any_eq_true.mp here
              have some_ : 0 < (hs.filter ours).length :=
                List.length_pos_of_mem (List.mem_filter.mpr ⟨mem', owned⟩)
              have none : (members inner gs).filter ours = [] :=
                List.eq_nil_of_length_eq_zero (by omega)
              simpa using List.filter_eq_nil_iff.mp none h mem

/-- The first owned entry keeps its group and its place. -/
theorem groups_first {s : Scan} (open_ : s.kept = false) {pre post : List γ} {g : γ}
    {before after : List α} {h : α} (early : ∀ h' ∈ members inner pre, ours h' = false)
    (found : inner g = some (before ++ h :: after)) (none : ∀ h' ∈ before, ours h' = false)
    (here : ours h = true) :
    (groups ours touch inner fill s (pre ++ g :: post)).1[pre.length]? =
      some (fill g (before ++ (touch h).1 :: after.filter fun h => !ours h), false) := by
  induction pre with
  | nil =>
      rw [List.nil_append, groups_cons_some found, (entries_first open_ none here).1]
      simp
  | cons g' pre ih =>
      rw [members_cons] at early
      have rest := ih fun h' mem => early h' (List.mem_append_right _ mem)
      rw [List.cons_append, List.length_cons]
      cases found' : inner g' with
      | none => rw [groups_cons_none found', List.getElem?_cons_succ, rest]
      | some hs =>
          have quiet : entries ours touch s hs = (hs, s) := entries_of_none fun h' mem =>
            early h' (List.mem_append_left _ (by rw [found']; exact mem))
          rw [groups_cons_some found', List.getElem?_cons_succ, quiet, rest]

end Lawful

end Groups

/-! ## Emptied groups at the end -/

section Tail

variable {α : Type}

/-- The places of the groups that were emptied. -/
def emptiedAt (scanned : List (α × Bool)) : List Nat :=
  (List.range scanned.length).filter fun i => (scanned[i]?.map Prod.snd).getD false

/-- In descending order, an emptied group goes when it is the last one. -/
def dropTail (scanned : List (α × Bool)) : List α :=
  (emptiedAt scanned).reverse.foldl
    (fun rest i => if i = rest.length - 1 then rest.eraseIdx i else rest) (scanned.map Prod.fst)

theorem emptiedAt_concat (scanned : List (α × Bool)) (x : α × Bool) :
    emptiedAt (scanned ++ [x]) = emptiedAt scanned ++ if x.2 then [scanned.length] else [] := by
  have early : (List.range scanned.length).filter
      (fun i => ((scanned ++ [x])[i]?.map Prod.snd).getD false) = emptiedAt scanned := by
    refine List.filter_congr fun i mem => ?_
    rw [List.getElem?_append_left (List.mem_range.mp mem)]
  rw [emptiedAt, List.length_append, List.length_singleton, List.range_succ, List.filter_append, early,
    List.filter_singleton]
  simp

theorem emptiedAt_lt {scanned : List (α × Bool)} {i : Nat} (mem : i ∈ emptiedAt scanned) :
    i < scanned.length := List.mem_range.mp (List.mem_filter.mp mem).1

/-- The emptied groups at the end are dropped, and no other. -/
theorem dropTail_eq (scanned : List (α × Bool)) :
    dropTail scanned = (scanned.rdropWhile Prod.snd).map Prod.fst := by
  induction scanned using List.reverseRecOn with
  | nil => rfl
  | append_singleton scanned x ih =>
      obtain ⟨g, emptied⟩ := x
      rw [dropTail, emptiedAt_concat, List.map_append, List.map_singleton]
      cases emptied with
      | true =>
          rw [if_pos rfl, List.reverse_append, List.reverse_singleton, List.singleton_append,
            List.foldl_cons, if_pos (by simp), List.rdropWhile_concat_pos _ _ _ rfl, ← ih]
          simp [dropTail, List.eraseIdx_append_of_length_le]
      | false =>
          have quiet : ∀ is : List Nat, (∀ i ∈ is, i < scanned.length) →
              is.foldl (fun rest i => if i = rest.length - 1 then rest.eraseIdx i else rest)
                (scanned.map Prod.fst ++ [g]) = scanned.map Prod.fst ++ [g] := by
            intro is
            induction is with
            | nil => intro _; rfl
            | cons i is ih' =>
                intro below
                have lt := below i List.mem_cons_self
                rw [List.foldl_cons, if_neg (by simp; omega)]
                exact ih' fun j mem => below j (List.mem_cons_of_mem i mem)
          rw [if_neg (by simp), List.append_nil, List.rdropWhile_concat_neg _ _ _ (by simp), quiet]
          · simp
          · intro i mem
            exact emptiedAt_lt (List.mem_reverse.mp mem)

/-- What stays is at its place, and what does not was emptied. -/
theorem dropTail_getElem? {scanned : List (α × Bool)} {i : Nat} {out : α × Bool}
    (at_ : scanned[i]? = some out) :
    (dropTail scanned)[i]? = some out.1 ∨ (dropTail scanned)[i]? = none ∧ out.2 = true := by
  rw [dropTail_eq, List.getElem?_map]
  obtain ⟨cut, split, all⟩ : ∃ cut, scanned = scanned.rdropWhile Prod.snd ++ cut ∧
      ∀ x ∈ cut, x.2 = true := by
    refine ⟨scanned.rtakeWhile Prod.snd, List.rdropWhile_append_rtakeWhile.symm, ?_⟩
    intro x mem
    exact List.mem_rtakeWhile_imp mem
  by_cases inside : i < (scanned.rdropWhile Prod.snd).length
  · rw [split, List.getElem?_append_left inside] at at_
    rw [at_]
    exact .inl rfl
  · have outside := Nat.le_of_not_lt inside
    rw [split, List.getElem?_append_right outside] at at_
    refine .inr ⟨?_, all out (List.mem_of_getElem? at_)⟩
    rw [List.getElem?_eq_none outside]
    rfl

theorem mem_dropTail {scanned : List (α × Bool)} {g : α} (mem : g ∈ dropTail scanned) :
    ∃ out ∈ scanned, out.1 = g := by
  rw [dropTail_eq] at mem
  obtain ⟨out, mem, same⟩ := List.mem_map.mp mem
  exact ⟨out, (List.rdropWhile_prefix Prod.snd _).subset mem, same⟩

/-- Groups without entries can be dropped. -/
theorem members_dropTail {β : Type} {inner : α → Option (List β)} {scanned : List (α × Bool)}
    (empty : ∀ out ∈ scanned, out.2 = true → (inner out.1).getD [] = []) :
    members inner (dropTail scanned) = members inner (scanned.map Prod.fst) := by
  rw [dropTail_eq]
  induction scanned using List.reverseRecOn with
  | nil => rfl
  | append_singleton scanned x ih =>
      rw [List.rdropWhile_concat]
      split
      · rename_i emptied
        rw [ih fun out mem => empty out (List.mem_append_left _ mem), List.map_append, members_append]
        have nothing := empty x (by simp) emptied
        simp [members, nothing]
      · rfl

/-- Without emptied groups nothing is dropped. -/
theorem dropTail_of_none {scanned : List (α × Bool)} (none : ∀ out ∈ scanned, out.2 = false) :
    dropTail scanned = scanned.map Prod.fst := by
  have nothing : scanned.rdropWhile Prod.snd = scanned := by
    rw [List.rdropWhile_eq_self_iff]
    intro nonempty
    simpa using none _ (List.getLast_mem nonempty)
  rw [dropTail_eq, nothing]

end Tail

/-! ## Emptied groups anywhere -/

section Emptied

variable {α : Type}

/-- Every emptied group goes. -/
def dropEmptied (scanned : List (α × Bool)) : List α :=
  (scanned.filter fun out => !out.2).map Prod.fst

theorem members_dropEmptied {β : Type} {inner : α → Option (List β)} {scanned : List (α × Bool)}
    (empty : ∀ out ∈ scanned, out.2 = true → (inner out.1).getD [] = []) :
    members inner (dropEmptied scanned) = members inner (scanned.map Prod.fst) := by
  induction scanned with
  | nil => rfl
  | cons out scanned ih =>
      have rest := ih fun out' mem => empty out' (List.mem_cons_of_mem out mem)
      rw [dropEmptied] at rest ⊢
      cases emptied : out.2 with
      | true =>
          rw [List.filter_cons_of_neg (by simp [emptied]), rest, List.map_cons, members_cons,
            empty out List.mem_cons_self emptied, List.nil_append]
      | false =>
          rw [List.filter_cons_of_pos (by simp [emptied]), List.map_cons, List.map_cons, members_cons,
            members_cons, rest]

theorem dropEmptied_of_none {scanned : List (α × Bool)} (none : ∀ out ∈ scanned, out.2 = false) :
    dropEmptied scanned = scanned.map Prod.fst := by
  have all : scanned.filter (fun out => !out.2) = scanned := by
    rw [List.filter_eq_self]
    intro out mem
    rw [none out mem]
    rfl
  rw [dropEmptied, all]

end Emptied

end KeepFirst
