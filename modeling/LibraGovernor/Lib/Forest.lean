/-
# LibraGovernor.Lib.Forest -- parents, and what is added up over a forest

A parent for some nodes of a finite set makes it a forest when no node is above itself.  Going
up from a node with the nodes met so far in hand meets one again exactly when there is such a
cycle above it (`climb_spec`).  In a forest every node is below exactly one root
(`exists_unique_root`), and a total that is a node's own and those of its children is the sum
over everything below the node (`inclusive_eq`); so the totals of the roots are the sum over
all nodes (`sum_roots`).
-/
import Mathlib.Algebra.BigOperators.Group.Finset.Basic
import Mathlib.Algebra.BigOperators.Group.Finset.Sigma
import Mathlib.Data.Fintype.EquivFin
import Mathlib.Logic.Relation
import Mathlib.Order.WellFounded

namespace Forest

open Relation

set_option autoImplicit false

variable {α : Type}

/-- The second node is the first one's parent. -/
def Under (parent : α → Option α) (a b : α) : Prop := parent a = some b

/-- Every parent is a node, and no node is above itself. -/
structure IsForest (nodes : Finset α) (parent : α → Option α) : Prop where
  closed : ∀ a b, parent a = some b → a ∈ nodes ∧ b ∈ nodes
  acyclic : ∀ a, ¬ TransGen (Under parent) a a

variable {nodes : Finset α} {parent : α → Option α}

theorem under_unique (parent : α → Option α) : Relator.RightUnique (Under parent) := by
  intro a b c up up'
  exact Option.some.inj (up.symm.trans up')

/-- What is above a node that is above itself is above itself. -/
theorem cycle_up {a b : α} (cycle : TransGen (Under parent) a a) (up : ReflTransGen (Under parent) a b) :
    TransGen (Under parent) b b := by
  induction up with
  | refl => exact cycle
  | tail _ step ih =>
      obtain ⟨d, first, rest⟩ := TransGen.head'_iff.mp ih
      have same := under_unique parent first step
      subst same
      exact TransGen.tail' rest step

/-! ## Going up -/

/-- How going up from a node ends. -/
inductive Climb (α : Type) where
  | top
  | again (a : α)
  | unfinished
  deriving DecidableEq

/-- Goes up until there is no parent, or a node is met again. -/
def climb [DecidableEq α] (parent : α → Option α) : Nat → List α → α → Climb α
  | 0, _, _ => .unfinished
  | fuel + 1, visited, current =>
      if current ∈ visited then .again current
      else
        match parent current with
        | some next => climb parent fuel (current :: visited) next
        | none => .top

/-- With more steps than there are nodes left, the way up ends: at the top, or in a cycle. -/
theorem climb_spec [DecidableEq α] (closed : ∀ a b, parent a = some b → a ∈ nodes ∧ b ∈ nodes)
    {fuel : Nat} {visited : List α} {a : α} (mem : a ∈ nodes) (distinct : visited.Nodup)
    (inside : ∀ v ∈ visited, v ∈ nodes ∧ TransGen (Under parent) v a)
    (enough : nodes.card < fuel + visited.length) :
    (climb parent fuel visited a = .top ∧
        ∃ top, ReflTransGen (Under parent) a top ∧ parent top = none) ∨
      ∃ c, climb parent fuel visited a = .again c ∧ TransGen (Under parent) c c := by
  induction fuel generalizing visited a with
  | zero =>
      have sub : visited.toFinset ⊆ nodes := by
        intro v there
        exact (inside v (List.mem_toFinset.mp there)).1
      have le := Finset.card_le_card sub
      rw [List.toFinset_card_of_nodup distinct] at le
      omega
  | succ fuel ih =>
      rw [climb]
      by_cases met : a ∈ visited
      · rw [if_pos met]
        exact .inr ⟨a, rfl, (inside a met).2⟩
      · rw [if_neg met]
        cases up : parent a with
        | none => exact .inl ⟨rfl, a, ReflTransGen.refl, up⟩
        | some next =>
            have inside' : ∀ v ∈ a :: visited, v ∈ nodes ∧ TransGen (Under parent) v next := by
              refine List.forall_mem_cons.mpr ⟨⟨mem, TransGen.single up⟩, fun v there => ?_⟩
              exact ⟨(inside v there).1, (inside v there).2.tail up⟩
            have more : nodes.card < fuel + (a :: visited).length := by
              rw [List.length_cons]
              omega
            rcases ih (closed a next up).2 (List.nodup_cons.mpr ⟨met, distinct⟩) inside' more with
              ⟨ends, top, above, none_⟩ | cycle
            · exact .inl ⟨ends, top, ReflTransGen.head up above, none_⟩
            · exact .inr cycle

/-- There is no cycle exactly when going up from every node ends at the top. -/
theorem acyclic_iff_climb [DecidableEq α]
    (closed : ∀ a b, parent a = some b → a ∈ nodes ∧ b ∈ nodes) {fuel : Nat}
    (enough : nodes.card < fuel) :
    (∀ a, ¬ TransGen (Under parent) a a) ↔ ∀ a ∈ nodes, climb parent fuel [] a = .top := by
  constructor
  · intro acyclic a mem
    rcases climb_spec closed mem List.nodup_nil (fun _ there => absurd there List.not_mem_nil)
      enough with ⟨ends, -⟩ | ⟨c, -, cycle⟩
    · exact ends
    · exact absurd cycle (acyclic c)
  · intro ends a cycle
    obtain ⟨b, up, -⟩ := TransGen.head'_iff.mp cycle
    have mem := (closed a b up).1
    rcases climb_spec closed mem List.nodup_nil (fun _ there => absurd there List.not_mem_nil)
      enough with ⟨-, top, above, none_⟩ | ⟨c, again, -⟩
    · obtain ⟨next, up_top, -⟩ := TransGen.head'_iff.mp (cycle_up cycle above)
      rw [Under, none_] at up_top
      cases up_top
    · rw [ends a mem] at again
      cases again

/-! ## Below a node -/

/-- Induction from the children to the parent. -/
theorem IsForest.induct (forest : IsForest nodes parent) {P : α → Prop}
    (step : ∀ a ∈ nodes, (∀ c, parent c = some a → P c) → P a) : ∀ a ∈ nodes, P a := by
  have wf : WellFounded fun c a : nodes => TransGen (Under parent) c.1 a.1 := by
    have : IsTrans nodes fun c a => TransGen (Under parent) c.1 a.1 := ⟨fun _ _ _ => TransGen.trans⟩
    have : Std.Irrefl fun c a : nodes => TransGen (Under parent) c.1 a.1 :=
      ⟨fun a => forest.acyclic a.1⟩
    exact Finite.wellFounded_of_trans_of_irrefl _
  have every : ∀ a : nodes, P a.1 := by
    intro a
    induction a using wf.induction with
    | h a ih =>
        refine step a.1 a.2 fun c up => ?_
        exact ih ⟨c, (forest.closed c a.1 up).1⟩ (TransGen.single up)
  exact fun a mem => every ⟨a, mem⟩

/-- Two siblings have nothing in common below them. -/
theorem IsForest.siblings (forest : IsForest nodes parent) {c c' d : α} (same : parent c = parent c')
    (below : ReflTransGen (Under parent) d c) (below' : ReflTransGen (Under parent) d c') : c = c' := by
  have apart : ∀ x y : α, parent x = parent y → ReflTransGen (Under parent) x y → x = y := by
    intro x y same up
    rcases ReflTransGen.cases_head up with equal | ⟨next, first, rest⟩
    · exact equal
    · -- The parent of `x` is that of `y`, and `y` is above it.
      exact absurd (TransGen.tail' rest (same.symm.trans first)) (forest.acyclic next)
  rcases ReflTransGen.total_of_right_unique (under_unique parent) below below' with up | up
  · exact apart c c' same up
  · exact (apart c' c same.symm up).symm

theorem IsForest.exists_unique_root (forest : IsForest nodes parent) {a : α}
    (mem : a ∈ nodes) :
    ∃ root, (root ∈ nodes ∧ parent root = none ∧ ReflTransGen (Under parent) a root) ∧
      ∀ other, parent other = none → ReflTransGen (Under parent) a other → other = root := by
  classical
  have ends := (acyclic_iff_climb forest.closed (Nat.lt_succ_self _)).mp forest.acyclic a mem
  rcases climb_spec forest.closed mem List.nodup_nil (fun _ there => absurd there List.not_mem_nil)
    (Nat.lt_succ_self _) with ⟨-, root, above, none_⟩ | ⟨c, again, -⟩
  · refine ⟨root, ⟨?_, none_, above⟩, ?_⟩
    · rcases ReflTransGen.cases_tail above with equal | ⟨last, -, up⟩
      · exact equal ▸ mem
      · exact (forest.closed last root up).2
    · intro other none' above'
      exact forest.siblings (none'.trans none_.symm) above' above
  · rw [ends] at again
    cases again

section Sum

open Classical

variable {M : Type} [AddCommMonoid M]

/-- What is below a node, itself included. -/
noncomputable def below (nodes : Finset α) (parent : α → Option α) (a : α) : Finset α :=
  nodes.filter fun d => ReflTransGen (Under parent) d a

/-- What is added up below nodes of one parent is added up below all of them. -/
theorem IsForest.sum_siblings (forest : IsForest nodes parent) (own : α → M) (p : Option α) :
    ∑ c ∈ nodes.filter (fun c => parent c = p), ∑ d ∈ below nodes parent c, own d =
      ∑ d ∈ nodes.filter (fun d => ∃ c, parent c = p ∧ c ∈ nodes ∧ ReflTransGen (Under parent) d c),
        own d := by
  rw [← Finset.sum_biUnion]
  · refine Finset.sum_congr ?_ fun _ _ => rfl
    ext d
    simp only [Finset.mem_biUnion, Finset.mem_filter, below]
    constructor
    · rintro ⟨c, ⟨mem, up⟩, mem', under⟩
      exact ⟨mem', c, up, mem, under⟩
    · rintro ⟨mem', c, up, mem, under⟩
      exact ⟨c, ⟨mem, up⟩, mem', under⟩
  · intro c mem c' mem' other
    rw [Function.onFun, Finset.disjoint_left]
    intro d under under'
    have up := (Finset.mem_filter.mp (Finset.mem_coe.mp mem)).2
    have up' := (Finset.mem_filter.mp (Finset.mem_coe.mp mem')).2
    exact other (forest.siblings (up.trans up'.symm) (Finset.mem_filter.mp under).2
      (Finset.mem_filter.mp under').2)

/-- Listed without repetition, those of one parent. -/
theorem sum_listed {listed : List α} {p : Option α} (distinct : listed.Nodup)
    (all : ∀ c, c ∈ listed ↔ c ∈ nodes ∧ parent c = p) (f : α → M) :
    (listed.map f).sum = ∑ c ∈ nodes.filter (fun c => parent c = p), f c := by
  rw [← List.sum_toFinset f distinct]
  refine Finset.sum_congr ?_ fun _ _ => rfl
  ext c
  rw [List.mem_toFinset, all, Finset.mem_filter]

/-- The sum below a node is its own and the sums below its children. -/
theorem IsForest.sum_below (forest : IsForest nodes parent) (own : α → M) {a : α} (mem : a ∈ nodes)
    {children : List α} (distinct : children.Nodup) (all : ∀ c, c ∈ children ↔ parent c = some a) :
    ∑ d ∈ below nodes parent a, own d =
      own a + (children.map fun c => ∑ d ∈ below nodes parent c, own d).sum := by
  have listed : ∀ c, c ∈ children ↔ c ∈ nodes ∧ parent c = some a := fun c =>
    (all c).trans ⟨fun up => ⟨(forest.closed c a up).1, up⟩, And.right⟩
  rw [sum_listed distinct listed, forest.sum_siblings]
  have itself : a ∉ nodes.filter fun d =>
      ∃ c, parent c = some a ∧ c ∈ nodes ∧ ReflTransGen (Under parent) d c := by
    intro there
    obtain ⟨c, up, -, under⟩ := (Finset.mem_filter.mp there).2
    exact forest.acyclic a (TransGen.tail' under up)
  rw [← Finset.sum_insert itself]
  refine Finset.sum_congr ?_ fun _ _ => rfl
  ext d
  simp only [below, Finset.mem_insert, Finset.mem_filter]
  constructor
  · rintro ⟨inside, under⟩
    rcases ReflTransGen.cases_tail under with equal | ⟨c, lower, up⟩
    · exact .inl equal.symm
    · exact .inr ⟨inside, c, up, (forest.closed c a up).1, lower⟩
  · rintro (rfl | ⟨inside, c, up, -, lower⟩)
    · exact ⟨mem, ReflTransGen.refl⟩
    · exact ⟨inside, lower.tail up⟩

/-- The sums below the roots are the sum over all nodes. -/
theorem IsForest.sum_roots (forest : IsForest nodes parent) (own : α → M) {roots : List α}
    (distinct : roots.Nodup) (all : ∀ r, r ∈ roots ↔ r ∈ nodes ∧ parent r = none) :
    (roots.map fun r => ∑ d ∈ below nodes parent r, own d).sum = ∑ d ∈ nodes, own d := by
  rw [sum_listed distinct all, forest.sum_siblings]
  refine Finset.sum_congr (Finset.filter_eq_self.mpr fun d mem => ?_) fun _ _ => rfl
  obtain ⟨root, ⟨inside, none_, above⟩, -⟩ := forest.exists_unique_root mem
  exact ⟨root, none_, inside, above⟩

/-- There is more below a node than below a child of its. -/
theorem IsForest.card_below_lt (forest : IsForest nodes parent) {c a : α} (up : parent c = some a) :
    (below nodes parent c).card < (below nodes parent a).card := by
  refine Finset.card_lt_card (Finset.ssubset_iff_of_subset ?_ |>.mpr ?_)
  · intro d there
    obtain ⟨inside, under⟩ := Finset.mem_filter.mp there
    exact Finset.mem_filter.mpr ⟨inside, under.tail up⟩
  · refine ⟨a, Finset.mem_filter.mpr ⟨(forest.closed c a up).2, ReflTransGen.refl⟩, ?_⟩
    intro there
    exact forest.acyclic a (TransGen.tail' (Finset.mem_filter.mp there).2 up)

theorem card_below_le (nodes : Finset α) (parent : α → Option α) (a : α) :
    (below nodes parent a).card ≤ nodes.card := Finset.card_filter_le _ _

end Sum

end Forest
