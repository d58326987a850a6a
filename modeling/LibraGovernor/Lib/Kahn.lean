/-
# LibraGovernor.Lib.Kahn -- removing, again and again, what waits for nothing

An edge `(a, b)` says that `a` waits for `b`; it may be listed more than once.  `drain`
removes the nodes whose in-degree is zero, in the order they are queued, and takes one off
the in-degree of a node for every edge to what it removes.  The invariant is `Progress`: an
in-degree counts, with multiplicity, the edges to what is not yet removed, and the nodes
queued or removed are those that count zero.

When the queue is empty, what is left are the nodes on a cycle and those that wait,
directly or not, for one (`Finished.left_iff`); so everything is removed exactly when there is
no cycle (`Finished.length_eq_iff`).
-/
import Mathlib.Data.List.Nodup
import Mathlib.Logic.Function.Basic
import Mathlib.Logic.Relation
import Mathlib.Data.Fintype.EquivFin
import Mathlib.Order.WellFounded

namespace Kahn

set_option autoImplicit false

variable {ι : Type} [DecidableEq ι]

/-! ## The recorded graph -/

structure Graph (ι : Type) where
  indegree : ι → Nat
  dependents : ι → List ι

namespace Graph

def empty : Graph ι := ⟨fun _ => 0, fun _ => []⟩

def record (g : Graph ι) (e : ι × ι) : Graph ι where
  indegree := Function.update g.indegree e.1 (g.indegree e.1 + 1)
  dependents := Function.update g.dependents e.2 (g.dependents e.2 ++ [e.1])

def ofEdges (edges : List (ι × ι)) : Graph ι := edges.foldl record empty

theorem foldl_record (g : Graph ι) (edges : List (ι × ι)) (a : ι) :
    (edges.foldl record g).indegree a = g.indegree a + edges.countP (fun e => e.1 = a) ∧
      (edges.foldl record g).dependents a =
        g.dependents a ++ (edges.filter fun e => e.2 = a).map Prod.fst := by
  induction edges generalizing g with
  | nil => simp
  | cons e edges ih =>
      rw [List.foldl_cons, (ih _).1, (ih _).2]
      constructor
      · by_cases here : e.1 = a
        · subst here
          simp [record]
          omega
        · simp [record, here, Function.update_of_ne (Ne.symm here)]
      · by_cases here : e.2 = a
        · subst here
          simp [record]
        · simp [record, here, Function.update_of_ne (Ne.symm here)]

theorem ofEdges_indegree (edges : List (ι × ι)) (a : ι) :
    (ofEdges edges).indegree a = edges.countP (fun e => e.1 = a) := by
  rw [ofEdges, (foldl_record _ _ _).1]
  exact Nat.zero_add _

theorem ofEdges_dependents (edges : List (ι × ι)) (a : ι) :
    (ofEdges edges).dependents a = (edges.filter fun e => e.2 = a).map Prod.fst :=
  (foldl_record _ _ _).2

theorem count_dependents (edges : List (ι × ι)) (a b : ι) :
    ((ofEdges edges).dependents b).count a = edges.countP fun e => e.1 = a ∧ e.2 = b := by
  rw [ofEdges_dependents]
  induction edges with
  | nil => rfl
  | cons e edges ih =>
      by_cases source : e.1 = a <;> by_cases target : e.2 = b <;> simp [source, target, ih]

end Graph

/-! ## The loop -/

/-- Takes one off the in-degree of each listed node; those that reach zero are ready. -/
def release (indegree : ι → Nat) : List ι → (ι → Nat) × List ι
  | [] => (indegree, [])
  | a :: rest =>
      let next := release (Function.update indegree a (indegree a - 1)) rest
      (next.1, if indegree a - 1 = 0 then a :: next.2 else next.2)

/-- `removed ++ queue` is the queue of the source, cut at its cursor. -/
structure State (ι : Type) where
  indegree : ι → Nat
  removed : List ι
  queue : List ι

/-- Removes `a`, the front of the queue; `order` arranges what became ready. -/
def visit (order : List ι → List ι) (dependents : ι → List ι) (s : State ι) (a : ι)
    (rest : List ι) : State ι :=
  let released := release s.indegree (dependents a)
  { indegree := released.1, removed := s.removed ++ [a], queue := rest ++ order released.2 }

def drain (order : List ι → List ι) (dependents : ι → List ι) : Nat → State ι → State ι
  | 0, s => s
  | fuel + 1, s =>
      match s.queue with
      | [] => s
      | a :: rest => drain order dependents fuel (visit order dependents s a rest)

theorem release_indegree (indegree : ι → Nat) (as : List ι) (c : ι) :
    (release indegree as).1 c = indegree c - as.count c := by
  induction as generalizing indegree with
  | nil => rfl
  | cons a as ih =>
      show (release (Function.update indegree a (indegree a - 1)) as).1 c = _
      rw [ih]
      by_cases here : a = c
      · subst here
        rw [Function.update_self, List.count_cons_self]
        omega
      · rw [Function.update_of_ne (Ne.symm here), List.count_cons_of_ne here]

/-- What is ready is listed once, when nothing is taken off more often than it counts. -/
theorem release_ready (indegree : ι → Nat) (as : List ι) (enough : ∀ c, as.count c ≤ indegree c) :
    (release indegree as).2.Nodup ∧
      ∀ c, c ∈ (release indegree as).2 ↔ c ∈ as ∧ (release indegree as).1 c = 0 := by
  induction as generalizing indegree with
  | nil => simp [release]
  | cons a as ih =>
      have left : ∀ c, as.count c ≤ Function.update indegree a (indegree a - 1) c := by
        intro c
        have more := enough c
        by_cases here : a = c
        · subst here
          rw [List.count_cons_self] at more
          rw [Function.update_self]
          omega
        · rw [List.count_cons_of_ne here] at more
          rw [Function.update_of_ne (Ne.symm here)]
          exact more
      obtain ⟨once, ready⟩ := ih _ left
      have last : (release indegree (a :: as)).1 =
          (release (Function.update indegree a (indegree a - 1)) as).1 := rfl
      have final : (release indegree (a :: as)).1 a = indegree a - 1 - as.count a := by
        rw [release_indegree, List.count_cons_self]
        omega
      by_cases zero : indegree a - 1 = 0
      · have listed : (release indegree (a :: as)).2 =
            a :: (release (Function.update indegree a (indegree a - 1)) as).2 := if_pos zero
        have absent : a ∉ as := by
          intro mem
          have more := left a
          rw [Function.update_self, zero] at more
          exact absurd (List.count_pos_iff.mpr mem) (by omega)
        rw [listed, last]
        refine ⟨List.nodup_cons.mpr ⟨fun mem => absent ((ready a).mp mem).1, once⟩, ?_⟩
        intro c
        rw [List.mem_cons, ready, List.mem_cons]
        constructor
        · rintro (rfl | ⟨mem, done⟩)
          · exact ⟨.inl rfl, by rw [← last, final]; omega⟩
          · exact ⟨.inr mem, done⟩
        · rintro ⟨rfl | mem, done⟩
          · exact .inl rfl
          · exact .inr ⟨mem, done⟩
      · have listed : (release indegree (a :: as)).2 =
            (release (Function.update indegree a (indegree a - 1)) as).2 := if_neg zero
        rw [listed, last]
        refine ⟨once, fun c => ?_⟩
        rw [ready, List.mem_cons]
        constructor
        · exact fun both => ⟨.inr both.1, both.2⟩
        · rintro ⟨rfl | mem, done⟩
          · refine ⟨List.count_pos_iff.mp ?_, done⟩
            rw [← last, final] at done
            omega
          · exact ⟨mem, done⟩

/-! ## The invariant -/

/-- `a` waits for `b`. -/
def Waits (edges : List (ι × ι)) (a b : ι) : Prop := (a, b) ∈ edges

/-- `a` lies on a cycle, or waits for something that does. -/
def Stuck (edges : List (ι × ι)) (a : ι) : Prop :=
  ∃ c, Relation.ReflTransGen (Waits edges) a c ∧ Relation.TransGen (Waits edges) c c

/-- The edges from `a` to what is not removed. -/
def pending (edges : List (ι × ι)) (removed : List ι) (a : ι) : Nat :=
  edges.countP fun e => e.1 = a ∧ e.2 ∉ removed

structure Progress (nodes : List ι) (edges : List (ι × ι)) (s : State ι) : Prop where
  counts : ∀ a, s.indegree a = pending edges s.removed a
  once : (s.removed ++ s.queue).Nodup
  free : ∀ a, a ∈ s.removed ++ s.queue ↔ a ∈ nodes ∧ s.indegree a = 0
  loose : ∀ a ∈ s.removed, ¬ Stuck edges a

theorem pending_nil (edges : List (ι × ι)) (a : ι) :
    pending edges [] a = edges.countP fun e => e.1 = a := by
  simp [pending]

theorem pending_removed {edges : List (ι × ι)} {removed : List ι} {b : ι} (left : b ∉ removed)
    (a : ι) :
    pending edges removed a =
      pending edges (removed ++ [b]) a + edges.countP fun e => e.1 = a ∧ e.2 = b := by
  induction edges with
  | nil => rfl
  | cons e edges ih =>
      rw [pending, pending] at ih
      rw [pending, pending, List.countP_cons, List.countP_cons, List.countP_cons, ih]
      by_cases source : e.1 = a
      · by_cases target : e.2 = b
        · rw [target]
          simp [source, left]
          omega
        · by_cases gone : e.2 ∈ removed
          · simp [source, target, gone]
          · simp [source, target, gone]
            omega
      · simp [source]

theorem removed_of_pending_eq_zero {edges : List (ι × ι)} {removed : List ι} {a b : ι}
    (zero : pending edges removed a = 0) (waits : Waits edges a b) : b ∈ removed := by
  by_contra left
  have counted := List.countP_eq_zero.mp zero (a, b) waits
  simp [left] at counted

theorem waits_of_pending_pos {edges : List (ι × ι)} {removed : List ι} {a : ι}
    (positive : 0 < pending edges removed a) : ∃ b, Waits edges a b ∧ b ∉ removed := by
  obtain ⟨e, listed, both⟩ := List.countP_pos_iff.mp positive
  rw [decide_eq_true_iff] at both
  obtain ⟨rfl, left⟩ := both
  exact ⟨e.2, listed, left⟩

omit [DecidableEq ι] in
theorem Stuck.next {edges : List (ι × ι)} {a : ι} (stuck : Stuck edges a) :
    ∃ b, Waits edges a b ∧ Stuck edges b := by
  obtain ⟨c, reaches, cycle⟩ := stuck
  rcases Relation.ReflTransGen.cases_head reaches with rfl | ⟨b, first, rest⟩
  · obtain ⟨b, first, rest⟩ := Relation.TransGen.head'_iff.mp cycle
    exact ⟨b, first, a, rest, cycle⟩
  · exact ⟨b, first, c, rest, cycle⟩

/-- Where everyone of a finite set waits for another of it, everyone is stuck. -/
theorem stuck_of_closed {nodes : List ι} {edges : List (ι × ι)} {left : ι → Prop}
    (closed : ∀ a ∈ nodes, left a → ∃ b ∈ nodes, left b ∧ Waits edges a b) {a : ι}
    (node : a ∈ nodes) (here : left a) : Stuck edges a := by
  by_contra loose
  let Reached := {x // x ∈ nodes ∧ left x ∧ Relation.ReflTransGen (Waits edges) a x}
  let before : Reached → Reached → Prop := fun x y => Relation.TransGen (Waits edges) y.1 x.1
  have finite : Finite Reached :=
    Finite.of_injective (fun x : Reached => (⟨x.1, x.2.1⟩ : {x // x ∈ nodes})) (by
      intro x y same
      exact Subtype.ext (congrArg (fun z : {x // x ∈ nodes} => z.1) same))
  have irrefl : Std.Irrefl before := ⟨fun x cycle => loose ⟨x.1, x.2.2.2, cycle⟩⟩
  have transitive : IsTrans Reached before := ⟨fun _ _ _ first second => second.trans first⟩
  have founded : WellFounded before := Finite.wellFounded_of_trans_of_irrefl before
  obtain ⟨m, -, least⟩ := founded.has_min Set.univ ⟨⟨a, node, here, .refl⟩, trivial⟩
  obtain ⟨b, b_node, b_left, waits⟩ := closed m.1 m.2.1 m.2.2.1
  exact least ⟨b, b_node, b_left, m.2.2.2.tail waits⟩ trivial (.single waits)

section Run

variable {nodes : List ι} {edges : List (ι × ι)} {order : List ι → List ι}

theorem Progress.initial (distinct : nodes.Nodup) {queue : List ι}
    (arranged : queue.Perm (nodes.filter fun a => (Graph.ofEdges edges).indegree a = 0)) :
    Progress nodes edges ⟨(Graph.ofEdges edges).indegree, [], queue⟩ where
  counts a := by
    show (Graph.ofEdges edges).indegree a = pending edges [] a
    rw [pending_nil, Graph.ofEdges_indegree]
  once := arranged.nodup_iff.mpr (distinct.filter _)
  free a := by
    show a ∈ [] ++ queue ↔ _
    rw [List.nil_append, arranged.mem_iff, List.mem_filter, decide_eq_true_iff]
  loose := fun _ mem => by cases mem

/-- One removal. -/
theorem Progress.visit {s : State ι} {a : ι} {rest : List ι} (known : ∀ e ∈ edges, e.1 ∈ nodes)
    (arranges : ∀ as, (order as).Perm as) (progress : Progress nodes edges s)
    (front : s.queue = a :: rest) :
    Progress nodes edges (visit order (Graph.ofEdges edges).dependents s a rest) := by
  have once := progress.once
  rw [front] at once
  have here : a ∈ s.removed ++ s.queue := by
    rw [front]
    exact List.mem_append_right _ (List.mem_cons_self)
  have zero := ((progress.free a).mp here).2
  have fresh : a ∉ s.removed := by
    intro mem
    exact List.disjoint_of_nodup_append once mem List.mem_cons_self
  have split : ∀ c, s.indegree c = pending edges (s.removed ++ [a]) c +
      ((Graph.ofEdges edges).dependents a).count c := by
    intro c
    rw [progress.counts, pending_removed fresh, Graph.count_dependents]
  have enough : ∀ c, ((Graph.ofEdges edges).dependents a).count c ≤ s.indegree c := by
    intro c
    rw [split]
    exact Nat.le_add_left _ _
  obtain ⟨ready_once, ready⟩ := release_ready s.indegree _ enough
  have counts : ∀ c, (release s.indegree ((Graph.ofEdges edges).dependents a)).1 c =
      pending edges (s.removed ++ [a]) c := by
    intro c
    rw [release_indegree, split]
    omega
  have dependent_known : ∀ c ∈ (Graph.ofEdges edges).dependents a, c ∈ nodes := by
    intro c mem
    rw [Graph.ofEdges_dependents] at mem
    obtain ⟨e, listed, rfl⟩ := List.mem_map.mp mem
    exact known e (List.mem_of_mem_filter listed)
  have queue_free : ∀ c, c ∈ s.removed ++ (a :: rest) ↔ c ∈ nodes ∧ s.indegree c = 0 := by
    intro c
    rw [← front]
    exact progress.free c
  have arranged : (s.removed ++ [a] ++ (rest ++ order (release s.indegree
      ((Graph.ofEdges edges).dependents a)).2)).Perm
      (s.removed ++ (a :: rest) ++ (release s.indegree ((Graph.ofEdges edges).dependents a)).2) := by
    rw [List.append_assoc, List.append_assoc, List.singleton_append, List.cons_append]
    exact ((arranges _).append_left rest).cons a |>.append_left s.removed
  refine ⟨counts, ?_, ?_, ?_⟩
  · refine arranged.nodup_iff.mpr (List.nodup_append'.mpr ⟨once, ready_once, ?_⟩)
    intro c queued released
    have positive := List.count_pos_iff.mpr ((ready c).mp released).1
    have none := ((queue_free c).mp queued).2
    have more := enough c
    omega
  · intro c
    show c ∈ s.removed ++ [a] ++ (rest ++ order _) ↔
      c ∈ nodes ∧ (release s.indegree ((Graph.ofEdges edges).dependents a)).1 c = 0
    rw [arranged.mem_iff, List.mem_append, queue_free, ready]
    constructor
    · rintro (⟨node, none⟩ | ⟨mem, none⟩)
      · refine ⟨node, ?_⟩
        rw [release_indegree, none]
        exact Nat.zero_sub _
      · exact ⟨dependent_known c mem, none⟩
    · rintro ⟨node, none⟩
      by_cases mem : c ∈ (Graph.ofEdges edges).dependents a
      · exact .inr ⟨mem, none⟩
      · refine .inl ⟨node, ?_⟩
        rw [release_indegree, List.count_eq_zero_of_not_mem mem] at none
        exact none
  · intro c mem stuck
    rcases List.mem_append.mp mem with old | new
    · exact progress.loose c old stuck
    · obtain rfl := List.mem_singleton.mp new
      obtain ⟨b, waits, b_stuck⟩ := stuck.next
      exact progress.loose b (removed_of_pending_eq_zero (progress.counts c ▸ zero) waits) b_stuck

/-- Nothing is left to visit. -/
structure Finished (nodes : List ι) (edges : List (ι × ι)) (s : State ι) : Prop
    extends Progress nodes edges s where
  empty : s.queue = []

theorem Progress.length_le {s : State ι} (progress : Progress nodes edges s) :
    (s.removed ++ s.queue).length ≤ nodes.length :=
  (progress.once.subperm fun a mem => ((progress.free a).mp mem).1).length_le

/-- As many rounds as there are nodes empty the queue. -/
theorem Progress.drain (known : ∀ e ∈ edges, e.1 ∈ nodes) (arranges : ∀ as, (order as).Perm as)
    {s : State ι} (progress : Progress nodes edges s) {fuel : Nat}
    (enough : nodes.length ≤ s.removed.length + fuel) :
    Finished nodes edges (drain order (Graph.ofEdges edges).dependents fuel s) := by
  induction fuel generalizing s with
  | zero =>
      have bound := progress.length_le
      rw [List.length_append] at bound
      show Finished nodes edges s
      exact ⟨progress, List.length_eq_zero_iff.mp (by omega)⟩
  | succ fuel ih =>
      unfold Kahn.drain
      cases front : s.queue with
      | nil => exact ⟨progress, front⟩
      | cons a rest =>
          refine ih (progress.visit known arranges front) ?_
          show nodes.length ≤ (s.removed ++ [a]).length + fuel
          rw [List.length_append, List.length_singleton]
          omega

namespace Finished

variable {s : State ι}

theorem mem_removed_iff (finished : Finished nodes edges s) (a : ι) :
    a ∈ s.removed ↔ a ∈ nodes ∧ s.indegree a = 0 := by
  have free := finished.free a
  rw [finished.empty, List.append_nil] at free
  exact free

/-- What is left is on a cycle, or waits for one. -/
theorem stuck (finished : Finished nodes edges s) (known : ∀ e ∈ edges, e.2 ∈ nodes) {a : ι}
    (node : a ∈ nodes) (left : 0 < s.indegree a) : Stuck edges a := by
  have closed : ∀ b ∈ nodes, 0 < s.indegree b →
      ∃ c ∈ nodes, 0 < s.indegree c ∧ Waits edges b c := by
    intro b _ positive
    rw [finished.counts] at positive
    obtain ⟨c, waits, unremoved⟩ := waits_of_pending_pos positive
    have c_node := known _ waits
    refine ⟨c, c_node, Nat.pos_of_ne_zero fun zero => unremoved ?_, waits⟩
    exact (finished.mem_removed_iff c).mpr ⟨c_node, zero⟩
  exact stuck_of_closed closed node left

theorem left_iff (finished : Finished nodes edges s) (known : ∀ e ∈ edges, e.2 ∈ nodes) {a : ι}
    (node : a ∈ nodes) : 0 < s.indegree a ↔ Stuck edges a := by
  constructor
  · exact finished.stuck known node
  · intro stuck
    by_contra zero
    exact finished.loose a ((finished.mem_removed_iff a).mpr ⟨node, by omega⟩) stuck

/-- Everything is removed exactly when there is no cycle. -/
theorem length_eq_iff (finished : Finished nodes edges s) (distinct : nodes.Nodup)
    (sources : ∀ e ∈ edges, e.1 ∈ nodes) (targets : ∀ e ∈ edges, e.2 ∈ nodes) :
    s.removed.length = nodes.length ↔ ∀ a, ¬ Relation.TransGen (Waits edges) a a := by
  have subset : s.removed ⊆ nodes := fun a mem => ((finished.mem_removed_iff a).mp mem).1
  have once : s.removed.Nodup := (List.nodup_append'.mp finished.once).1
  constructor
  · intro all a cycle
    have perm : s.removed.Perm nodes := (once.subperm subset).perm_of_length_le (Nat.le_of_eq all.symm)
    obtain ⟨b, first, -⟩ := Relation.TransGen.head'_iff.mp cycle
    exact finished.loose a (perm.mem_iff.mpr (sources _ first)) ⟨a, .refl, cycle⟩
  · intro acyclic
    have every : nodes ⊆ s.removed := by
      intro a node
      refine (finished.mem_removed_iff a).mpr ⟨node, ?_⟩
      by_contra positive
      obtain ⟨c, -, cycle⟩ := finished.stuck targets node (Nat.pos_of_ne_zero positive)
      exact acyclic c cycle
    exact Nat.le_antisymm (once.subperm subset).length_le (distinct.subperm every).length_le

end Finished

end Run

end Kahn
