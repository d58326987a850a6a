/-
# LibraGovernor.Lib.Rounds -- going through items in rounds, with a bounded memory

A round goes through a list of items in order.  It passes over an item whose stamp it remembers,
and handles or puts off any other; the first one it comes to is never put off.  What is handled
is remembered, in a memory that is emptied when it is full.

While the memory has room every round handles something new, so as many rounds as there are items
handle them all (`Chain.done`).  A memory that is full at the start is emptied at once and has
room from then on.  One that fills up on the way forgets what was handled: rounds that handle one
item each then come to the forgotten items again and do not get to the last (`singles_miss`).
-/
import Mathlib.Data.List.Basic
import Mathlib.Data.List.Nodup
import Mathlib.Data.List.Perm.Subperm

namespace Rounds

set_option autoImplicit false

variable {ι κ ν : Type} [DecidableEq κ]

/-! ## The memory -/

def recalled (key : κ) (memory : List (κ × ν)) : Option ν :=
  (memory.find? fun entry => entry.1 = key).map Prod.snd

/-- Remembers a stamp, under the key's one entry; a full memory is emptied first. -/
def remember (cap : Nat) (key : κ) (stamp : ν) (memory : List (κ × ν)) : List (κ × ν) :=
  let kept := if cap ≤ memory.length then [] else memory
  (key, stamp) :: kept.filter fun entry => entry.1 ≠ key

section Memory

variable {cap : Nat} {key k : κ} {stamp : ν} {memory : List (κ × ν)}

theorem recalled_remember_self : recalled key (remember cap key stamp memory) = some stamp := by
  simp [recalled, remember]

theorem recalled_filter_ne (other : k ≠ key) :
    recalled k (memory.filter fun entry => entry.1 ≠ key) = recalled k memory := by
  rw [recalled, recalled, List.find?_filter]
  congr 2
  funext entry
  by_cases here : entry.1 = k
  · simp [here, other]
  · simp [here]

theorem recalled_remember_ne (other : k ≠ key) (room : memory.length < cap) :
    recalled k (remember cap key stamp memory) = recalled k memory := by
  have same : recalled k (memory.filter fun entry => entry.1 ≠ key) = recalled k memory :=
    recalled_filter_ne other
  rw [remember, if_neg (Nat.not_le.mpr room), recalled, List.find?_cons_of_neg (by simpa using other.symm)]
  exact same

/-- What is remembered of another key was remembered before. -/
theorem recalled_of_remember (other : k ≠ key) {v : ν}
    (known : recalled k (remember cap key stamp memory) = some v) : recalled k memory = some v := by
  by_cases full : cap ≤ memory.length
  · rw [remember, if_pos full, recalled, List.find?_cons_of_neg (by simpa using other.symm)] at known
    cases known
  · rwa [recalled_remember_ne other (Nat.not_le.mp full)] at known

theorem length_remember_le (room : memory.length < cap) :
    (remember cap key stamp memory).length ≤ memory.length + 1 := by
  rw [remember, if_neg (Nat.not_le.mpr room), List.length_cons]
  exact Nat.add_le_add_right (List.length_filter_le _ _) 1

theorem length_remember_new (room : memory.length < cap) (new : recalled key memory = none) :
    (remember cap key stamp memory).length = memory.length + 1 := by
  have all : memory.filter (fun entry => entry.1 ≠ key) = memory := by
    rw [List.filter_eq_self]
    intro entry mem
    rw [recalled, Option.map_eq_none_iff, List.find?_eq_none] at new
    simpa using new entry mem
  rw [remember, if_neg (Nat.not_le.mpr room), all, List.length_cons]

theorem remember_full (full : cap ≤ memory.length) :
    remember cap key stamp memory = [(key, stamp)] := by
  rw [remember, if_pos full]
  rfl

end Memory

/-! ## Rounds -/

section Items

variable (cap : Nat) (key : ι → κ) (stamp : ι → ν)

def Seen (memory : List (κ × ν)) (x : ι) : Prop := recalled (key x) memory = some (stamp x)

variable [DecidableEq ν]

instance (memory : List (κ × ν)) (x : ι) : Decidable (Seen key stamp memory x) :=
  inferInstanceAs (Decidable (_ = _))

/-- The items a round would not pass over. -/
def unseen (items : List ι) (memory : List (κ × ν)) : List ι :=
  items.filter fun x => !decide (Seen key stamp memory x)

/-- A round over items: the memory and whether anything was handled yet, before and after, and
what it handled. -/
inductive Round : List ι → List (κ × ν) × Bool → List (κ × ν) × Bool → List ι → Prop
  | nil {s : List (κ × ν) × Bool} : Round [] s s []
  | past {x : ι} {xs handled : List ι} {memory : List (κ × ν)} {started : Bool}
      {s : List (κ × ν) × Bool} (seen : Seen key stamp memory x)
      (rest : Round xs (memory, started) s handled) : Round (x :: xs) (memory, started) s handled
  | later {x : ι} {xs handled : List ι} {memory : List (κ × ν)} {s : List (κ × ν) × Bool}
      (new : ¬ Seen key stamp memory x) (rest : Round xs (memory, true) s handled) :
      Round (x :: xs) (memory, true) s handled
  | handle {x : ι} {xs handled : List ι} {memory : List (κ × ν)} {started : Bool}
      {s : List (κ × ν) × Bool} (new : ¬ Seen key stamp memory x)
      (rest : Round xs (remember cap (key x) (stamp x) memory, true) s handled) :
      Round (x :: xs) (memory, started) s (x :: handled)

/-- The memory holds what is unseen and is not full before the last of it. -/
def Room (items : List ι) (memory : List (κ × ν)) : Prop :=
  memory.length + (unseen key stamp items memory).length ≤ cap + 1

/-- Every item was remembered, or was handled. -/
def Covers (items : List ι) (memory : List (κ × ν)) (handled : List ι) : Prop :=
  ∀ y ∈ items, Seen key stamp memory y ∨ y ∈ handled

/-- Rounds one after another: what each handled. -/
inductive Chain (items : List ι) : List (List ι) → List (κ × ν) → List (κ × ν) → Prop
  | nil {memory : List (κ × ν)} : Chain items [] memory memory
  | cons {handled : List ι} {more : List (List ι)} {memory middle last : List (κ × ν)} {started : Bool}
      (round : Round cap key stamp items (memory, false) (middle, started) handled)
      (rest  : Chain items more middle last)  : Chain items (handled :: more) memory last

end Items

section Facts

variable {cap : Nat} {key : ι → κ} {stamp : ι → ν}

theorem Round.mem {xs handled : List ι} {s s' : List (κ × ν) × Bool}
    (round : Round cap key stamp xs s s' handled) : ∀ x ∈ handled, x ∈ xs := by
  induction round with
  | nil => exact nofun
  | past _ _ ih => exact fun x mem => List.mem_cons_of_mem _ (ih x mem)
  | later _ _ ih => exact fun x mem => List.mem_cons_of_mem _ (ih x mem)
  | handle _ _ ih =>
      intro x mem
      rcases List.mem_cons.mp mem with rfl | mem
      · exact List.mem_cons_self
      · exact List.mem_cons_of_mem _ (ih x mem)

/-- The memory after is the one before, with what was handled remembered in order. -/
theorem Round.memory_eq {xs handled : List ι} {s s' : List (κ × ν) × Bool}
    (round : Round cap key stamp xs s s' handled) :
    s'.1 = handled.foldl (fun memory x => remember cap (key x) (stamp x) memory) s.1 := by
  induction round with
  | nil => rfl
  | past _ _ ih => exact ih
  | later _ _ ih => exact ih
  | handle _ _ ih => exact ih

theorem Chain.append {items : List ι} {first second : List (List ι)} {memory last : List (κ × ν)}
    (rounds : Chain cap key stamp items (first ++ second) memory last) :
    ∃ middle, Chain cap key stamp items first memory middle ∧
      Chain cap key stamp items second middle last := by
  induction first generalizing memory with
  | nil => exact ⟨memory, .nil, rounds⟩
  | cons handled first ih =>
      cases rounds with
      | cons round rest =>
          obtain ⟨middle, early, late⟩ := ih rest
          exact ⟨middle, .cons round early, late⟩

variable [DecidableEq ν]

theorem mem_unseen {items : List ι} {memory : List (κ × ν)} {x : ι} :
    x ∈ unseen key stamp items memory ↔ x ∈ items ∧ ¬ Seen key stamp memory x := by
  simp [unseen]

/-- What is handled first is the first unseen item. -/
theorem Round.head {xs handled : List ι} {memory : List (κ × ν)} {s' : List (κ × ν) × Bool}
    (round : Round cap key stamp xs (memory, false) s' handled) :
    handled.head? = (unseen key stamp xs memory).head? := by
  generalize start : (memory, false) = s at round
  induction round with
  | nil => rfl
  | past seen _ ih =>
      cases start
      rw [ih rfl, unseen, unseen, List.filter_cons_of_neg (by simp [seen])]
  | later => cases start
  | handle new _ _ =>
      cases start
      rw [unseen, List.filter_cons_of_pos (by simp [new])]
      rfl

end Facts

/-! ## Items with keys of their own -/

section Distinct

variable {cap : Nat} {key : ι → κ} {stamp : ι → ν} {items : List ι}
  (distinct : (items.map key).Nodup) {memory : List (κ × ν)}

include distinct

omit [DecidableEq κ] in
theorem eq_of_key {x y : ι} (mem : x ∈ items) (mem' : y ∈ items) (same : key x = key y) : x = y :=
  List.inj_on_of_nodup_map distinct mem mem' same

theorem seen_remember_iff (room : memory.length < cap) {x y : ι} (mem : x ∈ items)
    (mem' : y ∈ items) :
    Seen key stamp (remember cap (key x) (stamp x) memory) y ↔ y = x ∨ Seen key stamp memory y := by
  by_cases same : key y = key x
  · obtain rfl := eq_of_key distinct mem' mem same
    exact ⟨fun _ => .inl rfl, fun _ => recalled_remember_self⟩
  · have other : y ≠ x := fun eq => same (congrArg key eq)
    rw [Seen, recalled_remember_ne same room]
    exact ⟨.inr, fun known => known.resolve_left other⟩

theorem seen_of_remember {x y : ι} (mem : x ∈ items) (mem' : y ∈ items)
    (known : Seen key stamp (remember cap (key x) (stamp x) memory) y) :
    y = x ∨ Seen key stamp memory y := by
  by_cases same : key y = key x
  · exact .inl (eq_of_key distinct mem' mem same)
  · exact .inr (recalled_of_remember same known)

/-- What is remembered after a round was before, or was handled. -/
theorem Round.known {xs handled : List ι} {s s' : List (κ × ν) × Bool}
    (round : Round cap key stamp xs s s' handled) (within : ∀ x ∈ xs, x ∈ items) {y : ι}
    (mem : y ∈ items) (known : Seen key stamp s'.1 y) : Seen key stamp s.1 y ∨ y ∈ handled := by
  induction round with
  | nil => exact .inl known
  | past _ _ ih => exact ih (fun x mem => within x (List.mem_cons_of_mem _ mem)) known
  | later _ _ ih => exact ih (fun x mem => within x (List.mem_cons_of_mem _ mem)) known
  | handle _ _ ih =>
      rcases ih (fun x mem => within x (List.mem_cons_of_mem _ mem)) known with before | handled
      · rcases seen_of_remember distinct (within _ List.mem_cons_self) mem before with rfl | before
        · exact .inr List.mem_cons_self
        · exact .inl before
      · exact .inr (List.mem_cons_of_mem _ handled)

variable [DecidableEq ν]

theorem nodup_unseen : (unseen key stamp items memory).Nodup := distinct.of_map.filter _

/-- Remembering an unseen item leaves fewer unseen. -/
theorem unseen_remember_lt (room : memory.length < cap) {x : ι} (mem : x ∈ items)
    (new : ¬ Seen key stamp memory x) :
    (unseen key stamp items (remember cap (key x) (stamp x) memory)).length + 1 ≤
      (unseen key stamp items memory).length := by
  have apart : x ∉ unseen key stamp items (remember cap (key x) (stamp x) memory) :=
    fun mem' => (mem_unseen.mp mem').2 recalled_remember_self
  have others : (unseen key stamp items (remember cap (key x) (stamp x) memory)).Nodup :=
    nodup_unseen distinct
  have listed := List.nodup_cons.mpr ⟨apart, others⟩
  refine (List.subperm_of_subset listed ?_).length_le
  intro y mem'
  rcases List.mem_cons.mp mem' with rfl | mem'
  · exact mem_unseen.mpr ⟨mem, new⟩
  · obtain ⟨among, still⟩ := mem_unseen.mp mem'
    refine mem_unseen.mpr ⟨among, fun known => still ?_⟩
    exact (seen_remember_iff distinct room mem among).mpr (.inr known)

/-! ## Room -/

/-- A memory that has room remembers another item, or that was the last one. -/
theorem room_remember {x : ι} (mem : x ∈ items) (new : ¬ Seen key stamp memory x)
    (room : Room cap key stamp items memory) :
    Covers key stamp items memory [x] ∨
      Room cap key stamp items (remember cap (key x) (stamp x) memory) ∧
      (unseen key stamp items (remember cap (key x) (stamp x) memory)).length + 1 ≤
        (unseen key stamp items memory).length := by
  unfold Room at room ⊢
  by_cases space : memory.length < cap
  · have fewer : (unseen key stamp items (remember cap (key x) (stamp x) memory)).length + 1 ≤
        (unseen key stamp items memory).length := unseen_remember_lt distinct space mem new
    have longer : (remember cap (key x) (stamp x) memory).length ≤ memory.length + 1 :=
      length_remember_le space
    exact .inr ⟨by omega, fewer⟩
  · refine .inl fun y mem' => ?_
    by_cases known : Seen key stamp memory y
    · exact .inl known
    · have one : (unseen key stamp items memory).length ≤ 1 := by omega
      have mine : x ∈ unseen key stamp items memory := mem_unseen.mpr ⟨mem, new⟩
      have his : y ∈ unseen key stamp items memory := mem_unseen.mpr ⟨mem', known⟩
      obtain ⟨z, only⟩ := List.length_eq_one_iff.mp (Nat.le_antisymm one (List.length_pos_of_mem mine))
      rw [only, List.mem_singleton] at mine his
      exact .inr (List.mem_singleton.mpr (his.trans mine.symm))

/-- A round in a memory with room covers all, or leaves as many fewer unseen as it handled. -/
theorem Round.room {xs handled : List ι} {s s' : List (κ × ν) × Bool}
    (round : Round cap key stamp xs s s' handled) (within : ∀ x ∈ xs, x ∈ items)
    (room : Room cap key stamp items s.1) :
    Covers key stamp items s.1 handled ∨ Room cap key stamp items s'.1 ∧
      (unseen key stamp items s'.1).length + handled.length ≤ (unseen key stamp items s.1).length := by
  induction round with
  | nil => exact .inr ⟨room, Nat.le_refl _⟩
  | past _ _ ih => exact ih (fun x mem => within x (List.mem_cons_of_mem _ mem)) room
  | later _ _ ih => exact ih (fun x mem => within x (List.mem_cons_of_mem _ mem)) room
  | @handle x xs handled memory started s new rest ih =>
      have here := within x List.mem_cons_self
      rcases room_remember distinct here new room with all | ⟨room', fewer⟩
      · refine .inl fun y mem => (all y mem).imp_right fun same => ?_
        rw [List.mem_singleton.mp same]
        exact List.mem_cons_self
      · rcases ih (fun x mem => within x (List.mem_cons_of_mem _ mem)) room' with all | ⟨still, less⟩
        · refine .inl fun y mem => ?_
          rcases all y mem with known | handled
          · rcases seen_of_remember distinct here mem known with rfl | before
            · exact .inr List.mem_cons_self
            · exact .inl before
          · exact .inr (List.mem_cons_of_mem x handled)
        · refine .inr ⟨still, ?_⟩
          rw [List.length_cons]
          dsimp only at less ⊢
          omega

/-- With room, as many rounds as there are unseen items handle them all. -/
theorem Chain.done {rounds : List (List ι)} {last : List (κ × ν)}
    (run : Chain cap key stamp items rounds memory last) (room : Room cap key stamp items memory)
    (enough : (unseen key stamp items memory).length ≤ rounds.length) :
    Covers key stamp items memory rounds.flatten := by
  induction run with
  | nil =>
      have none := List.eq_nil_of_length_eq_zero (Nat.le_zero.mp enough)
      intro y mem
      by_contra outside
      have new : y ∈ unseen key stamp items _ := mem_unseen.mpr ⟨mem, fun known => outside (.inl known)⟩
      rw [none] at new
      cases new
  | @cons handled more memory middle last started round rest ih =>
      rcases round.room distinct (fun _ mem => mem) room with all | ⟨room', fewer⟩
      · refine fun y mem => (all y mem).imp_right fun mem => ?_
        exact List.mem_append_left _ mem
      · have progress : unseen key stamp items memory ≠ [] → handled ≠ [] := by
          intro some_ none
          have head := round.head
          rw [none] at head
          exact some_ (List.head?_eq_none_iff.mp head.symm)
        dsimp only at fewer
        rw [List.length_cons] at enough
        have left : (unseen key stamp items middle).length ≤ more.length := by
          by_cases none : unseen key stamp items memory = []
          · rw [none, List.length_nil] at fewer
            omega
          · have := List.length_pos_iff.mpr (progress none)
            omega
        intro y mem
        rcases ih room' left y mem with known | later
        · exact (round.known distinct (fun _ mem => mem) mem known).imp_right
            fun here => List.mem_append_left _ here
        · exact .inr (List.mem_append_right _ later)

/-- A memory that is full is emptied by the first item handled. -/
theorem Round.full {xs handled : List ι} {s s' : List (κ × ν) × Bool}
    (round : Round cap key stamp xs s s' handled) (within : ∀ x ∈ xs, x ∈ items)
    (full : cap ≤ s.1.length) (small : items.length ≤ cap) (some_ : handled ≠ []) :
    Covers key stamp items s.1 handled ∨ Room cap key stamp items s'.1 ∧
      (unseen key stamp items s'.1).length + 1 ≤ items.length := by
  induction round with
  | nil => exact absurd rfl some_
  | past _ _ ih => exact ih (fun x mem => within x (List.mem_cons_of_mem _ mem)) full some_
  | later _ _ ih => exact ih (fun x mem => within x (List.mem_cons_of_mem _ mem)) full some_
  | @handle x xs handled memory started s new rest ih =>
      have here := within x List.mem_cons_self
      have alone : Seen key stamp (remember cap (key x) (stamp x) memory) x := recalled_remember_self
      have fewer : (unseen key stamp items (remember cap (key x) (stamp x) memory)).length + 1 ≤
          items.length := by
        have apart : x ∉ unseen key stamp items (remember cap (key x) (stamp x) memory) :=
          fun mem => (mem_unseen.mp mem).2 alone
        refine (List.subperm_of_subset (List.nodup_cons.mpr ⟨apart, nodup_unseen distinct⟩) ?_).length_le
        intro y mem
        rcases List.mem_cons.mp mem with rfl | mem
        · exact here
        · exact (mem_unseen.mp mem).1
      have room : Room cap key stamp items (remember cap (key x) (stamp x) memory) := by
        unfold Room
        rw [remember_full full] at fewer ⊢
        rw [List.length_singleton]
        omega
      rcases rest.room distinct (fun x mem => within x (List.mem_cons_of_mem _ mem)) room with
        all | ⟨room', less⟩
      · refine .inl fun y mem => ?_
        rcases all y mem with known | handled
        · rcases seen_of_remember distinct here mem known with rfl | before
          · exact .inr List.mem_cons_self
          · exact .inl before
        · exact .inr (List.mem_cons_of_mem x handled)
      · refine .inr ⟨room', ?_⟩
        dsimp only at less
        omega

/-- What is unseen after the first unseen item is remembered. -/
theorem unseen_remember_head (room : memory.length < cap) {x : ι} {xs : List ι}
    (unseen_eq : unseen key stamp items memory = x :: xs) :
    unseen key stamp items (remember cap (key x) (stamp x) memory) = xs := by
  have mine : x ∈ unseen key stamp items memory := unseen_eq ▸ List.mem_cons_self
  have here := (mem_unseen.mp mine).1
  have step : unseen key stamp items (remember cap (key x) (stamp x) memory) =
      (unseen key stamp items memory).filter fun y => key y ≠ key x := by
    rw [unseen, unseen, List.filter_filter]
    refine List.filter_congr fun y mem => ?_
    have iff : Seen key stamp (remember cap (key x) (stamp x) memory) y ↔
        y = x ∨ Seen key stamp memory y := seen_remember_iff distinct room here mem
    by_cases same : key y = key x
    · obtain rfl := eq_of_key distinct mem here same
      simp [iff]
    · have other : y ≠ x := fun eq => same (congrArg key eq)
      simp [iff, other, same]
  have listed : (key x :: xs.map key).Nodup := by
    rw [← List.map_cons, ← unseen_eq]
    exact distinct.sublist (List.filter_sublist.map key)
  obtain ⟨apart, -⟩ := List.nodup_cons.mp listed
  rw [step, unseen_eq, List.filter_cons_of_neg (by simp), List.filter_eq_self]
  intro y mem
  have other : key y ≠ key x := fun same => apart (same ▸ List.mem_map_of_mem mem)
  simpa using other

/-- Rounds that handle at most one item each handle the unseen ones in order. -/
theorem Chain.singles {rounds : List (List ι)} {last : List (κ × ν)}
    (run : Chain cap key stamp items rounds memory last) (single : ∀ h ∈ rounds, h.length ≤ 1)
    (room : memory.length + rounds.length ≤ cap)
    (many : rounds.length ≤ (unseen key stamp items memory).length) :
    rounds.flatten = (unseen key stamp items memory).take rounds.length ∧
      unseen key stamp items last = (unseen key stamp items memory).drop rounds.length ∧
      ((∀ y ∈ unseen key stamp items memory, recalled (key y) memory = none) →
        last.length = memory.length + rounds.length) := by
  induction run with
  | nil => exact ⟨rfl, rfl, fun _ => rfl⟩
  | @cons handled more memory middle last started round rest ih =>
      rw [List.length_cons] at room many
      cases split : unseen key stamp items memory with
      | nil =>
          rw [split] at many
          cases many
      | cons x xs =>
          have head := round.head
          rw [split, List.head?_cons] at head
          have one := single handled List.mem_cons_self
          obtain rfl : handled = [x] := by
            cases handled with
            | nil => cases head
            | cons y ys =>
                cases head
                rw [List.length_cons] at one
                rw [List.eq_nil_of_length_eq_zero (by omega : ys.length = 0)]
          have middle_eq : middle = remember cap (key x) (stamp x) memory := round.memory_eq
          have after := unseen_remember_head distinct (by omega : memory.length < cap) split
          have longer : middle.length ≤ memory.length + 1 :=
            middle_eq ▸ length_remember_le (by omega : memory.length < cap)
          rw [← middle_eq] at after
          rw [split, List.length_cons] at many
          obtain ⟨flat, left, exact_⟩ := ih (fun h mem => single h (List.mem_cons_of_mem _ mem))
            (by omega) (by rw [after]; omega)
          rw [after] at flat left exact_
          refine ⟨?_, ?_, ?_⟩
          · rw [List.flatten_cons, flat, List.length_cons, List.take_succ_cons]
            rfl
          · rw [left, List.length_cons, List.drop_succ_cons]
          · intro fresh
            have new := fresh x List.mem_cons_self
            have grown : middle.length = memory.length + 1 :=
              middle_eq ▸ length_remember_new (by omega : memory.length < cap) new
            have listed : ((x :: xs).map key).Nodup := by
              rw [← split]
              exact distinct.sublist (List.filter_sublist.map key)
            rw [List.map_cons, List.nodup_cons] at listed
            rw [exact_, grown, List.length_cons, Nat.add_assoc, Nat.add_comm 1]
            intro y mem
            have other : key y ≠ key x := fun same => listed.1 (same ▸ List.mem_map_of_mem mem)
            rw [middle_eq, recalled_remember_ne other (by omega)]
            exact fresh y (List.mem_cons_of_mem x mem)

/-- A memory that has room for some of the items and not for all but the last fills up on the
way, and rounds of one item each do not get to the last. -/
theorem singles_miss {rounds : List (List ι)} {last : List (κ × ν)}
    (run : Chain cap key stamp items rounds memory last) (single : ∀ h ∈ rounds, h.length ≤ 1)
    (fresh : ∀ y ∈ items, recalled (key y) memory = none) (enough : rounds.length = items.length)
    (open_ : memory.length < cap) (small : items.length ≤ cap)
    (over_ : cap + 1 < memory.length + items.length) : ∃ y ∈ items, y ∉ rounds.flatten := by
  have all : unseen key stamp items memory = items := by
    rw [unseen, List.filter_eq_self]
    intro y mem
    simp [Seen, fresh y mem]
  -- The items up to the one that finds the memory full, it, and the last one.
  obtain ⟨pre, x, mid, z, rfl, filled⟩ : ∃ pre x mid z, items = pre ++ x :: (mid ++ [z]) ∧
      memory.length + pre.length = cap := by
    have split := List.take_append_drop (cap - memory.length) items
    have long := List.length_drop (i := cap - memory.length) (l := items)
    cases tail : items.drop (cap - memory.length) with
    | nil =>
        rw [tail, List.length_nil] at long
        omega
    | cons x rest =>
        rw [tail, List.length_cons] at long
        have some_ : rest ≠ [] := by
          rintro rfl
          rw [List.length_nil] at long
          omega
        refine ⟨items.take (cap - memory.length), x, rest.dropLast, rest.getLast some_, ?_, ?_⟩
        · rw [List.dropLast_append_getLast, ← tail, split]
        · rw [List.length_take]
          omega
  have count : (pre ++ x :: (mid ++ [z])).length = pre.length + (mid.length + 2) := by simp
  rw [count] at enough over_ small
  refine ⟨z, by simp, ?_⟩
  obtain ⟨first, more, rfl, firsts⟩ : ∃ first more, rounds = first ++ more ∧
      first.length = pre.length :=
    ⟨rounds.take pre.length, rounds.drop pre.length, (List.take_append_drop _ _).symm,
      by rw [List.length_take]; omega⟩
  obtain ⟨full, early, late⟩ := run.append
  rw [List.length_append] at enough
  obtain ⟨flat, left, long⟩ := early.singles distinct
    (fun h mem => single h (List.mem_append_left _ mem)) (by omega) (by rw [all, count]; omega)
  have long := long (by rw [all]; exact fresh)
  rw [all, firsts, List.take_left' rfl] at flat
  rw [all, firsts, List.drop_left' rfl] at left
  cases late with
  | nil =>
      rw [List.length_nil] at enough
      omega
  | @cons handled rest _ emptied _ started round later =>
      have head := round.head
      rw [left, List.head?_cons] at head
      obtain rfl : handled = [x] := by
        have one := single handled (by simp)
        cases handled with
        | nil => cases head
        | cons y ys =>
            cases head
            rw [List.length_cons] at one
            rw [List.eq_nil_of_length_eq_zero (by omega : ys.length = 0)]
      have alone : emptied = [(key x, stamp x)] := by
        rw [show emptied = remember cap (key x) (stamp x) full from round.memory_eq,
          remember_full (by omega)]
      rw [List.map_append, List.map_cons, List.map_append, List.map_singleton] at distinct
      have apart : (pre ++ (mid ++ [z])).map key = pre.map key ++ (mid.map key ++ [key z]) := by simp
      -- What is unseen then is all but the one.
      have unseen_eq : unseen key stamp (pre ++ x :: (mid ++ [z])) emptied = pre ++ (mid ++ [z]) := by
        have others : ∀ y ∈ pre ++ (mid ++ [z]), key x ≠ key y := by
          intro y mem same
          have listed := List.mem_map_of_mem (f := key) mem
          rw [apart, ← same] at listed
          have nodup := List.nodup_middle.mp distinct
          exact (List.nodup_cons.mp nodup).1 listed
        have new : ∀ y ∈ pre ++ (mid ++ [z]), ¬ Seen key stamp emptied y := by
          intro y mem known
          rw [Seen, alone, recalled, List.find?_cons_of_neg (by simpa using others y mem)] at known
          cases known
        have known : Seen key stamp emptied x := by
          rw [Seen, alone]
          simp [recalled]
        have before : pre.filter (fun y => !decide (Seen key stamp emptied y)) = pre := by
          rw [List.filter_eq_self]
          intro y mem
          simp [new y (List.mem_append_left _ mem)]
        have after : (mid ++ [z]).filter (fun y => !decide (Seen key stamp emptied y)) = mid ++ [z] := by
          rw [List.filter_eq_self]
          intro y mem
          simp [new y (List.mem_append_right _ mem)]
        rw [unseen, List.filter_append, before, List.filter_cons_of_neg (by simp [known]), after]
      have nodup : (pre ++ x :: (mid ++ [z])).Nodup := by
        refine List.Nodup.of_map key ?_
        simpa using distinct
      rw [List.length_cons] at enough
      have again := (later.singles (by simpa using distinct)
        (fun h mem => single h (by simp [mem])) (by rw [alone, List.length_singleton]; omega)
        (by rw [unseen_eq, List.length_append, List.length_append, List.length_singleton]; omega)).1
      rw [unseen_eq, ← List.append_assoc, List.take_append_of_le_length
        (by rw [List.length_append]; omega)] at again
      rw [List.flatten_append, flat, List.flatten_cons, again]
      intro mem
      rw [List.nodup_append, List.nodup_cons] at nodup
      simp only [List.mem_append, List.mem_cons, List.not_mem_nil, or_false] at nodup mem
      obtain ⟨-, ⟨apart_x, rest_nodup⟩, disjoint⟩ := nodup
      rw [List.nodup_append] at rest_nodup
      rcases mem with early | rfl | late
      · exact disjoint z early z (.inr (.inr rfl)) rfl
      · exact apart_x (.inr rfl)
      · rcases List.mem_append.mp (List.mem_of_mem_take late) with early | late
        · exact disjoint z early z (.inr (.inr rfl)) rfl
        · exact rest_nodup.2.2 z late z List.mem_cons_self rfl

end Distinct

end Rounds
