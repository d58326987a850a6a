/-
# LibraGovernor.Domain.Pacing -- the tasks of a pacing simulation

A simulation is given its tasks once, with what each waits for.  `TaskSet.validated` lets in
a list whose ids are distinct, whose dependencies name tasks of the list, and whose
dependencies never come back to where they started; the last is checked by removing, again
and again, the tasks that wait for nothing (`Kahn.drain`).

`validated` returns `none` where the source would panic; `validated_spec` says that it never
does, and what it accepts and reports.
-/
import LibraGovernor.Domain.Policy
import LibraGovernor.Domain.QuotaWindow
import LibraGovernor.Lib.Kahn
import LibraGovernor.Lib.Transaction
import Mathlib.Data.List.Sort

namespace LibraGovernor

open Transaction

set_option autoImplicit false

/-! ## Tasks -/

/-- A task of one scenario, numbered by a `u32`. -/
structure SimTaskId where
  number : BitVec 32
  deriving DecidableEq, Repr

inductive Priority where
  | low
  | normal
  | high
  | urgent
  deriving DecidableEq, Repr

/-- Of the remaining-resource quantiles, the one that pacing reads. -/
inductive RemainingResource where
  | unavailable (reason : String)
  | insufficient (conditionalN required : Nat)
  | quantiles (kind : ResourceKind) (p90 : ResourceAmount)
  deriving DecidableEq, Repr

/-- The parts of a remaining-work estimate that pacing reads. -/
structure RemainingWorkEstimate where
  resource : RemainingResource
  confidence : Confidence
  deriving DecidableEq, Repr

structure SimTask where
  id : SimTaskId
  principal : PrincipalId
  dependsOn : List SimTaskId
  priority : Priority
  deadline : Option OffsetDateTime
  estimate : RemainingWorkEstimate
  deriving DecidableEq, Repr

inductive ScenarioError where
  | tooManyTasks (count : Nat)
  | duplicateTaskId (id : SimTaskId)
  | unknownDependency (id dependency : SimTaskId)
  | dependencyCycle (id : SimTaskId)
  deriving DecidableEq, Repr

def maxScenarioTasks : Nat := 4096

structure TaskSet where
  tasks : List SimTask
  deriving DecidableEq, Repr

/-! ## Validation -/

/-- The order of the ids. -/
def SimTaskId.Below (a b : SimTaskId) : Prop := a.number.toNat ≤ b.number.toNat

instance : DecidableRel SimTaskId.Below := fun a b =>
  inferInstanceAs (Decidable (a.number.toNat ≤ b.number.toNat))

def sortIds (ids : List SimTaskId) : List SimTaskId := ids.insertionSort SimTaskId.Below

namespace TaskSet

/-- The ids seen, or the first that is seen twice. -/
def recordIds : List SimTaskId → List SimTask → Except ScenarioError (List SimTaskId)
  | seen, [] => .ok seen
  | seen, task :: rest =>
      if task.id ∈ seen then .error (.duplicateTaskId task.id)
      else recordIds (seen ++ [task.id]) rest

/-- One dependency of a task: one more of its in-degree, one more dependent of the other. -/
def recordDependency (seen : List SimTaskId) (task : SimTask) (graph : Kahn.Graph SimTaskId)
    (dependency : SimTaskId) : Except ScenarioError (Kahn.Graph SimTaskId) :=
  if dependency ∉ seen then .error (.unknownDependency task.id dependency)
  else .ok (graph.record (task.id, dependency))

def recordTask (seen : List SimTaskId) (graph : Kahn.Graph SimTaskId) (task : SimTask) :
    Except ScenarioError (Kahn.Graph SimTaskId) :=
  task.dependsOn.foldlM (recordDependency seen task) graph

/-- The smallest id that still waits for something. -/
def smallestStuck (indegree : SimTaskId → Nat) (ids : List SimTaskId) : Option SimTaskId :=
  (sortIds (ids.filter fun id => 0 < indegree id)).head?

/-- The removal loop over a recorded graph, from the ids that wait for nothing. -/
def removal (graph : Kahn.Graph SimTaskId) (ids : List SimTaskId) : Kahn.State SimTaskId :=
  Kahn.drain sortIds graph.dependents ids.length
    ⟨graph.indegree, [], sortIds (ids.filter fun id => graph.indegree id = 0)⟩

/-- `TaskSet::validated`; `none` is a panic. -/
def validated (tasks : List SimTask) : Option (Except ScenarioError TaskSet) :=
  if maxScenarioTasks < tasks.length then some (.error (.tooManyTasks tasks.length))
  else
  match recordIds [] tasks with
  | .error e => some (.error e)
  | .ok seen =>
  match tasks.foldlM (recordTask seen) Kahn.Graph.empty with
  | .error e => some (.error e)
  | .ok graph =>
  let last := removal graph seen
  if last.removed.length ≠ tasks.length then
    (smallestStuck last.indegree seen).map fun id => .error (.dependencyCycle id)
  else some (.ok ⟨tasks⟩)

/-! ## What it accepts -/

/-- The dependencies, one for each time a task lists it. -/
def edges (tasks : List SimTask) : List (SimTaskId × SimTaskId) :=
  tasks.flatMap fun task => task.dependsOn.map fun dependency => (task.id, dependency)

/-- A task of this id lists the other. -/
def DependsOn (tasks : List SimTask) (a b : SimTaskId) : Prop :=
  ∃ task ∈ tasks, task.id = a ∧ b ∈ task.dependsOn

/-- Distinct ids, and dependencies that name tasks of the list. -/
def Recorded (tasks : List SimTask) : Prop :=
  (tasks.map SimTask.id).Nodup ∧
    ∀ task ∈ tasks, ∀ dependency ∈ task.dependsOn, dependency ∈ tasks.map SimTask.id

structure WellFormed (tasks : List SimTask) : Prop where
  recorded : Recorded tasks
  acyclic : ∀ id, ¬ Relation.TransGen (DependsOn tasks) id id

theorem mem_edges (tasks : List SimTask) (a b : SimTaskId) :
    (a, b) ∈ edges tasks ↔ DependsOn tasks a b := by
  rw [edges, List.mem_flatMap, DependsOn]
  constructor
  · intro listed
    obtain ⟨task, mem, here⟩ := listed
    obtain ⟨dependency, depends, is⟩ := List.mem_map.mp here
    cases is
    exact ⟨task, mem, rfl, depends⟩
  · intro depends
    obtain ⟨task, mem, rfl, here⟩ := depends
    exact ⟨task, mem, List.mem_map.mpr ⟨b, here, rfl⟩⟩

theorem recordIds_ok_iff (seen : List SimTaskId) (tasks : List SimTask) (ids : List SimTaskId) :
    recordIds seen tasks = .ok ids ↔
      ((tasks.map SimTask.id).Nodup ∧ ∀ task ∈ tasks, task.id ∉ seen) ∧
        ids = seen ++ tasks.map SimTask.id := by
  induction tasks generalizing seen with
  | nil => simp [recordIds, eq_comm]
  | cons task tasks ih =>
      rw [recordIds]
      by_cases again : task.id ∈ seen
      · rw [if_pos again]
        simp [again]
      · rw [if_neg again, ih, List.map_cons, List.nodup_cons, List.append_assoc,
          List.singleton_append]
        simp only [List.mem_append, not_or, List.mem_cons, List.mem_map, List.not_mem_nil,
          or_false]
        constructor
        · rintro ⟨⟨distinct, fresh⟩, is⟩
          refine ⟨⟨⟨?_, distinct⟩, ?_⟩, is⟩
          · rintro ⟨other, mem, same⟩
            exact (fresh other mem).2 same
          · rintro other (rfl | mem)
            · exact again
            · exact (fresh other mem).1
        · rintro ⟨⟨⟨absent, distinct⟩, fresh⟩, is⟩
          refine ⟨⟨distinct, fun other mem => ⟨fresh other (.inr mem), ?_⟩⟩, is⟩
          exact fun same => absent ⟨other, mem, same⟩

theorem recordDependencies_ok_iff (seen : List SimTaskId) (task : SimTask)
    (dependencies : List SimTaskId) (graph last : Kahn.Graph SimTaskId) :
    dependencies.foldlM (recordDependency seen task) graph = .ok last ↔
      (∀ dependency ∈ dependencies, dependency ∈ seen) ∧
        last = (dependencies.map fun dependency => (task.id, dependency)).foldl
          Kahn.Graph.record graph := by
  induction dependencies generalizing graph with
  | nil => simp [pure, Except.pure, eq_comm]
  | cons dependency dependencies ih =>
      rw [List.foldlM_cons, recordDependency]
      by_cases known : dependency ∈ seen
      · rw [if_neg (not_not_intro known)]
        show dependencies.foldlM (recordDependency seen task) (graph.record _) = .ok last ↔ _
        rw [ih]
        simp only [known, List.mem_cons, List.map_cons, List.foldl_cons, forall_eq_or_imp, true_and]
      · simp [known]

theorem recordTasks_ok_iff (seen : List SimTaskId) (tasks : List SimTask)
    (graph last : Kahn.Graph SimTaskId) :
    tasks.foldlM (recordTask seen) graph = .ok last ↔
      (∀ task ∈ tasks, ∀ dependency ∈ task.dependsOn, dependency ∈ seen) ∧
        last = (edges tasks).foldl Kahn.Graph.record graph := by
  induction tasks generalizing graph with
  | nil => simp [edges, pure, Except.pure, eq_comm]
  | cons task tasks ih =>
      rw [List.foldlM_cons, edges, List.flatMap_cons, List.foldl_append]
      simp only [bind_eq_ok_iff, recordTask, recordDependencies_ok_iff, ih, List.mem_cons,
        forall_eq_or_imp]
      constructor
      · rintro ⟨middle, ⟨first, rfl⟩, rest, rfl⟩
        exact ⟨⟨first, rest⟩, rfl⟩
      · rintro ⟨⟨first, rest⟩, rfl⟩
        exact ⟨_, ⟨first, rfl⟩, rest, rfl⟩

theorem sortIds_perm (ids : List SimTaskId) : (sortIds ids).Perm ids :=
  List.perm_insertionSort _ _

theorem smallestStuck_spec {indegree : SimTaskId → Nat} {ids : List SimTaskId} {id : SimTaskId}
    (found : smallestStuck indegree ids = some id) : id ∈ ids ∧ 0 < indegree id := by
  have listed := List.mem_of_head? found
  rw [(sortIds_perm _).mem_iff, List.mem_filter, decide_eq_true_iff] at listed
  exact listed

theorem smallestStuck_isSome {indegree : SimTaskId → Nat} {ids : List SimTaskId} {id : SimTaskId}
    (listed : id ∈ ids) (positive : 0 < indegree id) : smallestStuck indegree ids ≠ none := by
  intro none
  have mem : id ∈ sortIds (ids.filter fun id => 0 < indegree id) :=
    (sortIds_perm _).mem_iff.mpr (List.mem_filter.mpr ⟨listed, decide_eq_true positive⟩)
  rw [List.head?_eq_none_iff.mp none] at mem
  cases mem

/-- The removal empties its queue, whatever the graph. -/
theorem removal_finished {nodes : List SimTaskId} {edges : List (SimTaskId × SimTaskId)}
    (distinct : nodes.Nodup) (sources : ∀ e ∈ edges, e.1 ∈ nodes) :
    Kahn.Finished nodes edges (removal (Kahn.Graph.ofEdges edges) nodes) := by
  have arranged : (sortIds (nodes.filter fun id => (Kahn.Graph.ofEdges edges).indegree id = 0)).Perm
      (nodes.filter fun id => (Kahn.Graph.ofEdges edges).indegree id = 0) := sortIds_perm _
  refine (Kahn.Progress.initial distinct arranged).drain sources sortIds_perm ?_
  exact Nat.le_add_left _ _

theorem waits_iff (tasks : List SimTask) : Kahn.Waits (edges tasks) = DependsOn tasks := by
  funext a b
  exact propext (mem_edges tasks a b)

/-- Distinct ids and known dependencies are what the two recording loops check. -/
theorem recorded_iff (tasks : List SimTask) (seen : List SimTaskId)
    (graph : Kahn.Graph SimTaskId) :
    (recordIds [] tasks = .ok seen ∧ tasks.foldlM (recordTask seen) Kahn.Graph.empty = .ok graph) ↔
      Recorded tasks ∧ seen = tasks.map SimTask.id ∧ graph = Kahn.Graph.ofEdges (edges tasks) := by
  rw [recordIds_ok_iff, recordTasks_ok_iff, List.nil_append]
  constructor
  · rintro ⟨⟨⟨distinct, -⟩, rfl⟩, known, rfl⟩
    exact ⟨⟨distinct, known⟩, rfl, rfl⟩
  · rintro ⟨⟨distinct, known⟩, rfl, rfl⟩
    exact ⟨⟨⟨distinct, fun _ _ => List.not_mem_nil⟩, rfl⟩, known, rfl⟩

theorem edges_source {tasks : List SimTask} (e : SimTaskId × SimTaskId) (listed : e ∈ edges tasks) :
    e.1 ∈ tasks.map SimTask.id := by
  obtain ⟨task, mem, is, -⟩ := (mem_edges tasks e.1 e.2).mp listed
  exact List.mem_map.mpr ⟨task, mem, is⟩

theorem edges_target {tasks : List SimTask} (recorded : Recorded tasks)
    (e : SimTaskId × SimTaskId) (listed : e ∈ edges tasks) : e.2 ∈ tasks.map SimTask.id := by
  obtain ⟨task, mem, -, depends⟩ := (mem_edges tasks e.1 e.2).mp listed
  exact recorded.2 task mem e.2 depends

/-- Past the recording loops the answer is about cycles only. -/
theorem removal_spec {tasks : List SimTask} (recorded : Recorded tasks) :
    ((removal (Kahn.Graph.ofEdges (edges tasks)) (tasks.map SimTask.id)).removed.length =
        tasks.length ↔ ∀ id, ¬ Relation.TransGen (DependsOn tasks) id id) ∧
      ∀ id ∈ tasks.map SimTask.id,
        (0 < (removal (Kahn.Graph.ofEdges (edges tasks)) (tasks.map SimTask.id)).indegree id ↔
          ∃ c, Relation.ReflTransGen (DependsOn tasks) id c ∧
            Relation.TransGen (DependsOn tasks) c c) := by
  have finished := removal_finished recorded.1 edges_source
  have all := finished.length_eq_iff recorded.1 edges_source (edges_target recorded)
  rw [List.length_map, waits_iff] at all
  refine ⟨all, fun id node => ?_⟩
  have left := finished.left_iff (edges_target recorded) node
  rw [Kahn.Stuck, waits_iff] at left
  exact left

theorem recordIds_error {seen : List SimTaskId} {tasks : List SimTask} {e : ScenarioError}
    (failed : recordIds seen tasks = .error e) : ∃ id, e = .duplicateTaskId id := by
  induction tasks generalizing seen with
  | nil => cases failed
  | cons task tasks ih =>
      rw [recordIds] at failed
      split at failed
      · cases failed
        exact ⟨_, rfl⟩
      · exact ih failed

theorem recordTask_error {seen : List SimTaskId} {task : SimTask} {graph : Kahn.Graph SimTaskId}
    {e : ScenarioError} (failed : recordTask seen graph task = .error e) :
    ∃ dependency, e = .unknownDependency task.id dependency := by
  rw [recordTask] at failed
  generalize task.dependsOn = dependencies at failed
  induction dependencies generalizing graph with
  | nil => cases failed
  | cons dependency dependencies ih =>
      rw [List.foldlM_cons, recordDependency] at failed
      split at failed
      · cases failed
        exact ⟨_, rfl⟩
      · exact ih failed

theorem recordTasks_error {seen : List SimTaskId} {tasks : List SimTask}
    {graph : Kahn.Graph SimTaskId} {e : ScenarioError}
    (failed : tasks.foldlM (recordTask seen) graph = .error e) :
    ∃ id dependency, e = .unknownDependency id dependency := by
  induction tasks generalizing graph with
  | nil => cases failed
  | cons task tasks ih =>
      rw [List.foldlM_cons] at failed
      cases first : recordTask seen graph task with
      | error e' =>
          rw [first] at failed
          cases failed
          obtain ⟨dependency, is⟩ := recordTask_error first
          exact ⟨_, dependency, is⟩
      | ok next =>
          rw [first] at failed
          exact ih failed

/-- An error before the removal is about an id or a dependency, never about a cycle. -/
theorem validated_unrecorded {tasks : List SimTask} (small : tasks.length ≤ maxScenarioTasks)
    (unrecorded : ¬ Recorded tasks) :
    ∃ e, validated tasks = some (.error e) ∧ ∀ id, e ≠ .dependencyCycle id := by
  unfold validated
  rw [if_neg (Nat.not_lt.mpr small)]
  cases ids : recordIds [] tasks with
  | error e =>
      obtain ⟨id, rfl⟩ := recordIds_error ids
      exact ⟨_, rfl, by simp⟩
  | ok seen =>
      dsimp only
      cases all : tasks.foldlM (recordTask seen) Kahn.Graph.empty with
      | error e =>
          obtain ⟨id, dependency, rfl⟩ := recordTasks_error all
          exact ⟨_, rfl, by simp⟩
      | ok graph => exact absurd ((recorded_iff tasks seen graph).mp ⟨ids, all⟩).1 unrecorded

theorem validated_recorded {tasks : List SimTask} (small : tasks.length ≤ maxScenarioTasks)
    (recorded : Recorded tasks) :
    validated tasks =
      (let last := removal (Kahn.Graph.ofEdges (edges tasks)) (tasks.map SimTask.id)
       if last.removed.length ≠ tasks.length then
         (smallestStuck last.indegree (tasks.map SimTask.id)).map fun id =>
           .error (.dependencyCycle id)
       else some (.ok ⟨tasks⟩)) := by
  obtain ⟨ids, all⟩ := (recorded_iff tasks _ _).mpr ⟨recorded, rfl, rfl⟩
  unfold validated
  rw [if_neg (Nat.not_lt.mpr small), ids]
  dsimp only
  rw [all]

/-- `validated` never panics, accepts the well-formed lists, and names a task that is on a cycle
or waits for one. -/
theorem validated_spec (tasks : List SimTask) (small : tasks.length ≤ maxScenarioTasks) :
    validated tasks ≠ none ∧
      (validated tasks = some (.ok ⟨tasks⟩) ↔ WellFormed tasks) ∧
      (∀ set, validated tasks = some (.ok set) → set = ⟨tasks⟩) ∧
      ∀ id, validated tasks = some (.error (.dependencyCycle id)) →
        ∃ c, Relation.ReflTransGen (DependsOn tasks) id c ∧
          Relation.TransGen (DependsOn tasks) c c := by
  by_cases recorded : Recorded tasks
  · obtain ⟨all, left⟩ := removal_spec recorded
    rw [validated_recorded small recorded]
    dsimp only
    by_cases every : (removal (Kahn.Graph.ofEdges (edges tasks))
        (tasks.map SimTask.id)).removed.length = tasks.length
    · rw [if_neg (not_not_intro every)]
      refine ⟨Option.some_ne_none _, ⟨fun _ => ⟨recorded, all.mp every⟩, fun _ => rfl⟩,
        ?_, ?_⟩
      · intro set is
        cases is
        rfl
      · intro id is
        cases is
    · rw [if_pos every]
      have cyclic : ∃ a, Relation.TransGen (DependsOn tasks) a a := by
        by_contra none
        exact every (all.mpr fun a cycle => none ⟨a, cycle⟩)
      obtain ⟨a, cycle⟩ := cyclic
      obtain ⟨b, ⟨task, mem, is, -⟩, -⟩ := Relation.TransGen.head'_iff.mp cycle
      have node : a ∈ tasks.map SimTask.id := List.mem_map.mpr ⟨task, mem, is⟩
      have positive := (left a node).mpr ⟨a, .refl, cycle⟩
      obtain ⟨id, found⟩ := Option.ne_none_iff_exists'.mp (smallestStuck_isSome node positive)
      rw [found]
      refine ⟨Option.some_ne_none _, ⟨?_, ?_⟩, ?_, ?_⟩
      · intro is
        cases is
      · intro formed
        exact absurd cycle (formed.acyclic a)
      · intro set is
        cases is
      · intro id' is
        cases is
        obtain ⟨listed, waits⟩ := smallestStuck_spec found
        exact (left id listed).mp waits
  · obtain ⟨e, failed, other⟩ := validated_unrecorded small recorded
    rw [failed]
    refine ⟨Option.some_ne_none _, ⟨?_, ?_⟩, ?_, ?_⟩
    · intro is
      cases is
    · intro formed
      exact absurd formed.recorded recorded
    · intro set is
      cases is
    · intro id is
      cases is
      exact absurd rfl (other id)

/-- A task that lists itself twice, and one that waits for it. -/
def selfWaiting : List SimTask :=
  let task := fun id dependsOn => SimTask.mk ⟨id⟩ ⟨"p"⟩ dependsOn .normal none
    ⟨.insufficient 0 5, .low⟩
  [task 1 [⟨2⟩], task 2 [⟨2⟩, ⟨2⟩], task 3 []]

theorem selfWaiting_cycle :
    ∃ c, Relation.ReflTransGen (DependsOn selfWaiting) ⟨1⟩ c ∧
      Relation.TransGen (DependsOn selfWaiting) c c :=
  (validated_spec selfWaiting (by decide)).2.2.2 ⟨1⟩ (by decide +kernel)

end TaskSet

end LibraGovernor
