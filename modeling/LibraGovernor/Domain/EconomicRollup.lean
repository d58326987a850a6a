/-
# LibraGovernor.Domain.EconomicRollup -- spend of an agent, of those below it, and of groups

`AgentLineage.fromEvents` builds the forest of proven parents; `exclusiveSpend` is what one
agent spent, `inclusiveSpend` what it and those below it did, and `project` splits all facts by
a dimension.  Each takes the first event of each id.  Totals add up like numbers do: `merge` is
a sum, with nothing in it as zero, also for the weakest truth and for the count, which wraps
around at `2 ^ 32`.  What totals say of the facts they were added up from is `Counts`.

A lineage is built exactly where no agent has two parents and none is above itself
(`fromEvents_ok_iff`); then the recursion ends, adds up as the forest does, and the roots
account for every fact of an agent (`rollup_spec`).
-/
import LibraGovernor.Domain.EconomicEvent
import LibraGovernor.Lib.Fields
import LibraGovernor.Lib.Forest
import LibraGovernor.Lib.StableSort
import Mathlib.Algebra.BigOperators.Group.Finset.Piecewise
import Mathlib.Data.List.Lex
import Mathlib.Tactic.Abel
import Mathlib.Data.String.Basic

namespace LibraGovernor

open Relation StableSort

set_option autoImplicit false

/-! ## Totals -/

theorem TruthStrength.rank_injective : Function.Injective TruthStrength.rank := by
  intro s t same
  cases s <;> cases t <;> first | rfl | cases same

instance : LinearOrder TruthStrength := LinearOrder.lift' TruthStrength.rank TruthStrength.rank_injective

/-- No truth is stronger than a metered one. -/
@[simp] theorem TruthStrength.min_metered (t : TruthStrength) : min .metered t = t := by
  cases t <;> decide

/-- What is spent of one kind. -/
structure Subtotal where
  value : ℚ
  weakestTruth : TruthStrength
  eventCount : BitVec 32
  deriving DecidableEq

namespace Subtotal

def seed : Subtotal := ⟨0, .metered, 0⟩

def fold (s : Subtotal) (amount : ℚ) (truth : TruthStrength) : Subtotal where
  value := s.value + amount
  weakestTruth := min s.weakestTruth truth
  eventCount := s.eventCount + 1

def foldSubtotal (s other : Subtotal) : Subtotal where
  value := s.value + other.value
  weakestTruth := min s.weakestTruth other.weakestTruth
  eventCount := s.eventCount + other.eventCount

theorem foldSubtotal_comm (s t : Subtotal) : s.foldSubtotal t = t.foldSubtotal s := by
  simp [foldSubtotal, add_comm, min_comm, BitVec.add_comm]

theorem foldSubtotal_assoc (s t u : Subtotal) :
    (s.foldSubtotal t).foldSubtotal u = s.foldSubtotal (t.foldSubtotal u) := by
  simp [foldSubtotal, add_assoc, min_assoc, BitVec.add_assoc]

theorem seed_foldSubtotal (s : Subtotal) : seed.foldSubtotal s = s := by
  simp [foldSubtotal, seed]

end Subtotal

/-- The totals of each kind there is a fact of. -/
@[ext] structure SpendTotals where
  of : ResourceKind → Option Subtotal

namespace SpendTotals

def empty : SpendTotals := ⟨fun _ => none⟩

/-- Folds a fact in, if it is spend and adds up. -/
def addFact (totals : SpendTotals) (fact : ResourceFact) : SpendTotals :=
  if fact.basis.role ≠ .spend ∨ fact.basis.isAdditive = false then totals
  else
    ⟨fun kind =>
      if kind = fact.amount.kind then
        some (((totals.of kind).getD Subtotal.seed).fold fact.amount.value fact.basis.truthStrength)
      else totals.of kind⟩

def merge (totals other : SpendTotals) : SpendTotals :=
  ⟨fun kind =>
    match other.of kind with
    | none => totals.of kind
    | some sub => some (((totals.of kind).getD Subtotal.seed).foldSubtotal sub)⟩

/-- The totals of facts. -/
def ofFacts (facts : List ResourceFact) : SpendTotals := facts.foldl addFact empty

theorem merge_of (totals other : SpendTotals) (kind : ResourceKind) :
    (totals.merge other).of kind =
      match totals.of kind, other.of kind with
      | s, none => s
      | none, some t => some t
      | some s, some t => some (s.foldSubtotal t) := by
  rw [merge]
  dsimp only
  cases totals.of kind <;> cases other.of kind <;> simp [Subtotal.seed_foldSubtotal]

instance : Zero SpendTotals := ⟨empty⟩

instance : Add SpendTotals := ⟨merge⟩

instance : AddCommMonoid SpendTotals where
  nsmul := nsmulRec
  add_assoc a b c := by
    ext1
    funext kind
    show ((a.merge b).merge c).of kind = (a.merge (b.merge c)).of kind
    simp only [merge_of]
    cases a.of kind <;> cases b.of kind <;> cases c.of kind <;> simp [Subtotal.foldSubtotal_assoc]
  zero_add a := by
    ext1
    funext kind
    show (empty.merge a).of kind = a.of kind
    rw [merge_of]
    cases a.of kind <;> rfl
  add_zero a := rfl
  add_comm a b := by
    ext1
    funext kind
    show (a.merge b).of kind = (b.merge a).of kind
    simp only [merge_of]
    cases a.of kind <;> cases b.of kind <;> simp [Subtotal.foldSubtotal_comm]

theorem merge_eq_add (totals other : SpendTotals) : totals.merge other = totals + other := rfl

theorem empty_eq_zero : empty = 0 := rfl

/-- The totals of one fact. -/
def single (fact : ResourceFact) : SpendTotals := empty.addFact fact

theorem addFact_eq (totals : SpendTotals) (fact : ResourceFact) :
    totals.addFact fact = totals + single fact := by
  rw [single, addFact, addFact]
  split
  · exact (add_zero totals).symm
  · ext1
    funext kind
    rw [← merge_eq_add, merge_of]
    dsimp only
    by_cases here : kind = fact.amount.kind
    · rw [if_pos here, if_pos here]
      cases totals.of kind with
      | none => rfl
      | some s =>
          show some (s.fold _ _) = some (s.foldSubtotal (Subtotal.seed.fold _ _))
          simp [Subtotal.fold, Subtotal.foldSubtotal, Subtotal.seed]
    · rw [if_neg here, if_neg here]
      cases totals.of kind <;> rfl

theorem foldl_addFact {α : Type} (fact : α → ResourceFact) (xs : List α) (totals : SpendTotals) :
    xs.foldl (fun t x => t.addFact (fact x)) totals = totals + (xs.map fun x => single (fact x)).sum := by
  induction xs generalizing totals with
  | nil => exact (add_zero totals).symm
  | cons x xs ih => rw [List.foldl_cons, ih, addFact_eq, List.map_cons, List.sum_cons, add_assoc]

theorem ofFacts_eq (facts : List ResourceFact) : ofFacts facts = (facts.map single).sum := by
  rw [ofFacts, foldl_addFact (fun fact => fact)]
  exact zero_add _

end SpendTotals

/-! ## What totals count -/

/-- Spend of a kind, that adds up. -/
def ResourceFact.Spent (fact : ResourceFact) (kind : ResourceKind) : Prop :=
  fact.basis.role = .spend ∧ fact.basis.isAdditive = true ∧ fact.amount.kind = kind

instance (fact : ResourceFact) (kind : ResourceKind) : Decidable (fact.Spent kind) :=
  inferInstanceAs (Decidable (fact.basis.role = .spend ∧ fact.basis.isAdditive = true ∧
    fact.amount.kind = kind))

namespace SpendTotals

/-- The value of a kind, zero where there is none of it. -/
def value (totals : SpendTotals) (kind : ResourceKind) : ℚ :=
  ((totals.of kind).map Subtotal.value).getD 0

/-- The number of facts of a kind, as far as the counter goes. -/
def eventCount (totals : SpendTotals) (kind : ResourceKind) : BitVec 32 :=
  ((totals.of kind).map Subtotal.eventCount).getD 0

/-- The totals are of these facts: they hold the sum, the number and the weakest truth of the spend
of each kind, and nothing of a kind there is no spend of. -/
structure Counts (totals : SpendTotals) (facts : List ResourceFact) : Prop where
  value : ∀ kind, totals.value kind =
    ((facts.filter fun fact => fact.Spent kind).map fun fact => fact.amount.value).sum
  eventCount : ∀ kind, totals.eventCount kind =
    BitVec.ofNat 32 (facts.countP fun fact => fact.Spent kind)
  present : ∀ kind, (totals.of kind).isSome = true ↔ ∃ fact ∈ facts, fact.Spent kind
  weakest : ∀ kind sub, totals.of kind = some sub →
    (∃ fact ∈ facts, fact.Spent kind ∧ fact.basis.truthStrength = sub.weakestTruth) ∧
      ∀ fact ∈ facts, fact.Spent kind → sub.weakestTruth ≤ fact.basis.truthStrength

theorem empty_counts : empty.Counts [] where
  value _ := rfl
  eventCount _ := rfl
  present kind := by simp [empty]
  weakest kind sub found := by cases found

/-- What one more fact changes: the subtotal of its kind, when it is spend. -/
theorem addFact_of (totals : SpendTotals) (fact : ResourceFact) (kind : ResourceKind) :
    (totals.addFact fact).of kind =
      if fact.Spent kind then
        some (((totals.of kind).getD Subtotal.seed).fold fact.amount.value fact.basis.truthStrength)
      else totals.of kind := by
  rw [addFact]
  by_cases counts : fact.basis.role ≠ .spend ∨ fact.basis.isAdditive = false
  · have not_spent : ¬ fact.Spent kind := by
      rintro ⟨role, additive, -⟩
      rcases counts with other | level
      · exact other role
      · rw [level] at additive
        cases additive
    rw [if_pos counts, if_neg not_spent]
  · rw [if_neg counts]
    have basis : fact.basis.role = .spend ∧ fact.basis.isAdditive = true := by
      simpa using counts
    by_cases here : kind = fact.amount.kind
    · rw [if_pos ⟨basis.1, basis.2, here.symm⟩]
      exact if_pos here
    · rw [if_neg fun spent => here spent.2.2.symm]
      exact if_neg here

/-- The weakest truth of the spend of a kind, and of one more fact of it. -/
theorem weakest_concat {facts : List ResourceFact} {fact : ResourceFact} {kind : ResourceKind}
    {old : TruthStrength} (spent : fact.Spent kind)
    (weakest : (∃ f ∈ facts, f.Spent kind ∧ f.basis.truthStrength = old) ∧
      ∀ f ∈ facts, f.Spent kind → old ≤ f.basis.truthStrength) :
    (∃ f ∈ facts ++ [fact], f.Spent kind ∧ f.basis.truthStrength = min old fact.basis.truthStrength) ∧
      ∀ f ∈ facts ++ [fact], f.Spent kind →
        min old fact.basis.truthStrength ≤ f.basis.truthStrength := by
  obtain ⟨⟨f, mem, of, least⟩, below⟩ := weakest
  have last : fact ∈ facts ++ [fact] := List.mem_append_right facts (List.mem_singleton_self fact)
  refine ⟨?_, ?_⟩
  · rcases le_total old fact.basis.truthStrength with less | less
    · rw [min_eq_left less]
      exact ⟨f, List.mem_append_left _ mem, of, least⟩
    · rw [min_eq_right less]
      exact ⟨fact, last, spent, rfl⟩
  · rw [List.forall_mem_append, List.forall_mem_singleton]
    exact ⟨fun f mem of => (min_le_left _ _).trans (below f mem of), fun _ => min_le_right _ _⟩

theorem Counts.addFact {totals : SpendTotals} {facts : List ResourceFact} (counts : totals.Counts facts)
    (fact : ResourceFact) : (totals.addFact fact).Counts (facts ++ [fact]) where
  value kind := by
    rw [SpendTotals.value, addFact_of, List.filter_append, List.map_append, List.sum_append,
      ← counts.value, SpendTotals.value]
    by_cases spent : fact.Spent kind
    · rw [if_pos spent]
      cases totals.of kind <;> simp [Subtotal.fold, Subtotal.seed, spent]
    · rw [if_neg spent]
      simp [spent]
  eventCount kind := by
    rw [SpendTotals.eventCount, addFact_of, List.countP_append, BitVec.ofNat_add, ← counts.eventCount,
      SpendTotals.eventCount]
    by_cases spent : fact.Spent kind
    · rw [if_pos spent]
      cases totals.of kind <;> simp [Subtotal.fold, Subtotal.seed, spent]
    · rw [if_neg spent]
      simp [spent]
  present kind := by
    rw [addFact_of]
    by_cases spent : fact.Spent kind
    · rw [if_pos spent]
      simp [spent]
    · rw [if_neg spent, counts.present]
      simp [spent, or_and_right, exists_or]
  weakest kind sub found := by
    rw [addFact_of] at found
    by_cases spent : fact.Spent kind
    · rw [if_pos spent] at found
      cases found
      cases before : totals.of kind with
      | none =>
          have first : ¬ ∃ fact ∈ facts, fact.Spent kind := by
            rw [← counts.present, before]
            exact Bool.false_ne_true
          have last : fact ∈ facts ++ [fact] := List.mem_append_right facts (List.mem_singleton_self fact)
          rw [List.forall_mem_append, List.forall_mem_singleton]
          simp only [Option.getD_none, Subtotal.fold, Subtotal.seed, TruthStrength.min_metered]
          exact ⟨⟨fact, last, spent, rfl⟩, fun f mem of => absurd ⟨f, mem, of⟩ first, fun _ => le_refl _⟩
      | some old => exact weakest_concat spent (counts.weakest kind old before)
    · rw [if_neg spent] at found
      obtain ⟨⟨f, mem, of, weakest⟩, below⟩ := counts.weakest kind sub found
      rw [List.forall_mem_append, List.forall_mem_singleton]
      exact ⟨⟨f, List.mem_append_left _ mem, of, weakest⟩, below, fun of => absurd of spent⟩

/-- The totals of facts are of these facts. -/
theorem ofFacts_counts (facts : List ResourceFact) : (ofFacts facts).Counts facts := by
  induction facts using List.reverseRecOn with
  | nil => exact empty_counts
  | append_singleton facts fact ih =>
      rw [ofFacts, List.foldl_append]
      exact ih.addFact fact

end SpendTotals

/-! ## The lineage -/

inductive RollupError where
  | lineageCycle (agent : DimensionKey)
  | conflictingParent (agent first second : DimensionKey)
  deriving DecidableEq, Repr

/-- How a computation with a bound on its steps stops short: at an error, or at the bound. -/
inductive Stop where
  | failed (error : RollupError)
  | unfinished
  deriving DecidableEq, Repr

/-- The first event of each id. -/
def firstEvents (events : List EconomicEvent) : List EconomicEvent :=
  keepFirst EconomicEvent.id [] events

/-- The parents, and the children of a parent in order. -/
structure AgentLineage where
  parents : List (DimensionKey × DimensionKey)
  roots : List DimensionKey
  deriving DecidableEq, Repr

namespace AgentLineage

def parent (lineage : AgentLineage) (agent : DimensionKey) : Option DimensionKey :=
  Fields.get agent lineage.parents

def children (lineage : AgentLineage) (agent : DimensionKey) : List DimensionKey :=
  (lineage.parents.filter fun x => x.2 = agent).map Prod.fst

/-- One event of the first loop: the agents it names, and the parent it proves. -/
def record (s : List (DimensionKey × DimensionKey) × List DimensionKey) (e : EconomicEvent) :
    Except Stop (List (DimensionKey × DimensionKey) × List DimensionKey) :=
  match e.attribution.dimensionKey .agent with
  | none => .ok s
  | some agent =>
      match e.attribution.provenParent with
      | .child parent =>
          match Fields.get agent s.1 with
          | some existing =>
              if existing ≠ parent then .error (.failed (.conflictingParent agent existing parent))
              else .ok (s.1, parent :: agent :: s.2)
          | none => .ok (Fields.upsert agent parent id s.1, parent :: agent :: s.2)
      | _ => .ok (s.1, agent :: s.2)

/-- Goes up from an agent. -/
def checkCycle (parents : List (DimensionKey × DimensionKey)) (fuel : Nat) (agent : DimensionKey) :
    Except Stop Unit :=
  match Forest.climb (fun a => Fields.get a parents) fuel [] agent with
  | .top => .ok ()
  | .again a => .error (.failed (.lineageCycle a))
  | .unfinished => .error .unfinished

/-- The named agents, in order. -/
def ordered (named : List DimensionKey) : List DimensionKey := named.dedup.insertionSort (· ≤ ·)

def fromEvents (fuel : Nat) (events : List EconomicEvent) : Except Stop AgentLineage := do
  let (parents, named) ← (firstEvents events).foldlM record ([], [])
  let knownAgents := ordered named
  knownAgents.forM (checkCycle parents fuel)
  return ⟨parents, knownAgents.filter fun agent => (Fields.get agent parents).isNone⟩

end AgentLineage

/-! ## Spend -/

def exclusiveSpend (events : List EconomicEvent) (agent : DimensionKey) : SpendTotals :=
  ((firstEvents events).filter fun e => e.attribution.dimensionKey .agent = some agent).foldl
    (fun totals e => totals.addFact e.fact) .empty

def inclusiveSpendRec (events : List EconomicEvent) (lineage : AgentLineage) :
    Nat → List DimensionKey → DimensionKey → Except Stop SpendTotals
  | 0, _, _ => .error .unfinished
  | fuel + 1, visiting, agent =>
      if agent ∈ visiting then .error (.failed (.lineageCycle agent))
      else
        (lineage.children agent).foldlM (fun totals child => do
          let childTotals ← inclusiveSpendRec events lineage fuel (agent :: visiting) child
          return totals.merge childTotals) (exclusiveSpend events agent)

def inclusiveSpend (fuel : Nat) (events : List EconomicEvent) (lineage : AgentLineage)
    (agent : DimensionKey) : Except Stop SpendTotals :=
  inclusiveSpendRec events lineage fuel [] agent

structure Projection where
  groups : List (DimensionKey × SpendTotals)
  unattributed : SpendTotals

def project (events : List EconomicEvent) (dim : EconomicDimension) : Projection :=
  (firstEvents events).foldl (fun p e =>
    match e.attribution.dimensionKey dim with
    | some key =>
        { p with groups := Fields.upsert key .empty (fun totals => totals.addFact e.fact) p.groups }
    | none => { p with unattributed := p.unattributed.addFact e.fact }) ⟨[], .empty⟩

/-! ## What the events prove -/

/-- One of the events proves that the second agent is the first one's parent. -/
def ProvesParent (facts : List EconomicEvent) (child parent : DimensionKey) : Prop :=
  ∃ e ∈ facts, e.attribution.dimensionKey .agent = some child ∧
    e.attribution.provenParent = .child parent

/-- One of the events is of the agent, or proves that it is a parent. -/
def KnownAgent (facts : List EconomicEvent) (a : DimensionKey) : Prop :=
  ∃ e ∈ facts, ∃ agent, e.attribution.dimensionKey .agent = some agent ∧
    (a = agent ∨ e.attribution.provenParent = .child a)

/-- No agent has two different proven parents. -/
def OneParent (facts : List EconomicEvent) : Prop :=
  ∀ child first second, ProvesParent facts child first → ProvesParent facts child second → first = second

theorem provesParent_concat {done : List EconomicEvent} {e : EconomicEvent} {c p : DimensionKey} :
    ProvesParent (done ++ [e]) c p ↔ ProvesParent done c p ∨
      e.attribution.dimensionKey .agent = some c ∧ e.attribution.provenParent = .child p := by
  constructor
  · rintro ⟨f, mem, proves⟩
    rcases List.mem_append.mp mem with before | last
    · exact .inl ⟨f, before, proves⟩
    · cases List.mem_singleton.mp last
      exact .inr proves
  · rintro (⟨f, mem, proves⟩ | proves)
    · exact ⟨f, List.mem_append_left _ mem, proves⟩
    · exact ⟨e, List.mem_append_right _ (List.mem_singleton.mpr rfl), proves⟩

theorem knownAgent_concat {done : List EconomicEvent} {e : EconomicEvent} {a : DimensionKey} :
    KnownAgent (done ++ [e]) a ↔ KnownAgent done a ∨
      ∃ agent, e.attribution.dimensionKey .agent = some agent ∧
        (a = agent ∨ e.attribution.provenParent = .child a) := by
  constructor
  · rintro ⟨f, mem, known⟩
    rcases List.mem_append.mp mem with before | last
    · exact .inl ⟨f, before, known⟩
    · cases List.mem_singleton.mp last
      exact .inr known
  · rintro (⟨f, mem, known⟩ | known)
    · exact ⟨f, List.mem_append_left _ mem, known⟩
    · exact ⟨e, List.mem_append_right _ (List.mem_singleton.mpr rfl), known⟩

theorem ProvesParent.mono {facts : List EconomicEvent} {c p : DimensionKey}
    (proves : ProvesParent facts c p) (more : List EconomicEvent) :
    ProvesParent (facts ++ more) c p := by
  obtain ⟨e, mem, proves⟩ := proves
  exact ⟨e, List.mem_append_left _ mem, proves⟩

namespace AgentLineage

/-! ## The first loop -/

/-- The loop's state after some events: their parents, and the agents they name. -/
structure Represents (done : List EconomicEvent)
    (s : List (DimensionKey × DimensionKey) × List DimensionKey) : Prop where
  ascending : Fields.Ascending s.1
  parents : ∀ c p, Fields.get c s.1 = some p ↔ ProvesParent done c p
  named : ∀ a, a ∈ s.2 ↔ KnownAgent done a

/-- Two proven parents of one agent. -/
def Conflict (facts : List EconomicEvent) (agent first second : DimensionKey) : Prop :=
  ProvesParent facts agent first ∧ ProvesParent facts agent second ∧ first ≠ second

theorem record_spec {done : List EconomicEvent}
    {s : List (DimensionKey × DimensionKey) × List DimensionKey} (rep : Represents done s)
    (e : EconomicEvent) :
    match record s e with
    | .ok s' => Represents (done ++ [e]) s'
    | .error stop => ∃ agent first second,
        stop = .failed (.conflictingParent agent first second) ∧ Conflict (done ++ [e]) agent first second := by
  rw [record]
  cases key : e.attribution.dimensionKey .agent with
  | none =>
      refine ⟨rep.ascending, fun c p => ?_, fun a => ?_⟩
      · rw [provesParent_concat, rep.parents c p]
        simp [key]
      · rw [knownAgent_concat, rep.named a]
        simp [key]
  | some agent =>
      have no_parent : (∀ p, e.attribution.provenParent ≠ .child p) →
          Represents (done ++ [e]) (s.1, agent :: s.2) := by
        intro other
        refine ⟨rep.ascending, fun c p => ?_, fun a => ?_⟩
        · rw [provesParent_concat, rep.parents c p]
          constructor
          · exact .inl
          · rintro (has | ⟨-, proven⟩)
            · exact has
            · exact absurd proven (other p)
        · rw [knownAgent_concat, List.mem_cons, rep.named a]
          simp only [key, Option.some.injEq, exists_eq_left']
          constructor
          · rintro (rfl | there)
            · exact .inr (.inl rfl)
            · exact .inl there
          · rintro (there | rfl | proven)
            · exact .inr there
            · exact .inl rfl
            · exact absurd proven (other a)
      cases proven : e.attribution.provenParent with
      | root => exact no_parent (by rw [proven]; nofun)
      | unknown => exact no_parent (by rw [proven]; nofun)
      | child parent =>
        have named : ∀ a, a ∈ parent :: agent :: s.2 ↔ KnownAgent (done ++ [e]) a := by
          intro a
          rw [knownAgent_concat, ← rep.named a]
          simp only [List.mem_cons, key, proven, Option.some.injEq, ProvenParent.child.injEq,
            exists_eq_left']
          constructor
          · rintro (rfl | rfl | there)
            · exact .inr (.inr rfl)
            · exact .inr (.inl rfl)
            · exact .inl there
          · rintro (there | rfl | rfl)
            · exact .inr (.inr there)
            · exact .inr (.inl rfl)
            · exact .inl rfl
        have proves : ∀ c p, ProvesParent (done ++ [e]) c p ↔
            Fields.get c s.1 = some p ∨ agent = c ∧ parent = p := by
          intro c p
          rw [provesParent_concat, ← rep.parents c p]
          simp [key, proven]
        dsimp only
        cases there : Fields.get agent s.1 with
        | some existing =>
            dsimp only
            by_cases same : existing = parent
            · subst same
              rw [if_neg (not_not.mpr rfl)]
              refine ⟨rep.ascending, fun c p => ?_, named⟩
              rw [proves]
              constructor
              · exact .inl
              · rintro (has | ⟨rfl, rfl⟩)
                · exact has
                · exact there
            · rw [if_pos same]
              exact ⟨agent, existing, parent, rfl, (proves _ _).mpr (.inl there),
                (proves _ _).mpr (.inr ⟨rfl, rfl⟩), same⟩
        | none =>
            refine ⟨Fields.ascending_upsert rep.ascending, fun c p => ?_, named⟩
            rw [proves, Fields.get_upsert rep.ascending, there]
            by_cases here : c = agent
            · subst here
              rw [if_pos rfl, there]
              simp
            · rw [if_neg here]
              simp [Ne.symm here]

theorem foldlM_record_spec {done : List EconomicEvent}
    {s : List (DimensionKey × DimensionKey) × List DimensionKey} (rep : Represents done s)
    (rest : List EconomicEvent) :
    match rest.foldlM record s with
    | .ok s' => Represents (done ++ rest) s'
    | .error stop => ∃ agent first second,
        stop = .failed (.conflictingParent agent first second) ∧
          Conflict (done ++ rest) agent first second := by
  induction rest generalizing done s with
  | nil =>
      rw [List.append_nil]
      exact rep
  | cons e rest ih =>
      rw [List.foldlM_cons]
      have step := record_spec rep e
      cases recorded : record s e with
      | error stop =>
          rw [recorded] at step
          obtain ⟨agent, first, second, is, proves, proves', other⟩ := step
          refine ⟨agent, first, second, is, ?_, ?_, other⟩
          · simpa using proves.mono rest
          · simpa using proves'.mono rest
      | ok s' =>
          rw [recorded] at step
          have all := ih step
          rw [List.append_assoc, List.singleton_append] at all
          exact all

theorem represents_nil : Represents [] ([], []) where
  ascending := List.Pairwise.nil
  parents c p := by simp [Fields.get, ProvesParent]
  named a := by simp [KnownAgent]

/-! ## The forest -/

theorem mem_ordered {named : List DimensionKey} {a : DimensionKey} : a ∈ ordered named ↔ a ∈ named := by
  rw [ordered, List.mem_insertionSort, List.mem_dedup]

theorem ordered_nodup (named : List DimensionKey) : (ordered named).Nodup :=
  (List.perm_insertionSort _ _).nodup_iff.mpr (List.nodup_dedup named)

/-- The agents an event names. -/
def mentions (e : EconomicEvent) : List DimensionKey :=
  match e.attribution.dimensionKey .agent with
  | none => []
  | some agent =>
      match e.attribution.provenParent with
      | .child parent => [agent, parent]
      | _ => [agent]

theorem mentions_length (e : EconomicEvent) : (mentions e).length ≤ 2 := by
  rw [mentions]
  split
  · exact Nat.zero_le _
  · split
    · exact Nat.le_refl _
    · exact Nat.le_succ _

theorem mem_mentions {e : EconomicEvent} {a agent : DimensionKey}
    (key : e.attribution.dimensionKey .agent = some agent)
    (is : a = agent ∨ e.attribution.provenParent = .child a) : a ∈ mentions e := by
  rw [mentions, key]
  rcases is with rfl | proven
  · dsimp only
    split <;> exact List.mem_cons_self
  · rw [proven]
    exact List.mem_cons_of_mem _ (List.mem_singleton.mpr rfl)

/-- There are at most two agents for each event. -/
theorem ordered_card {done : List EconomicEvent}
    {s : List (DimensionKey × DimensionKey) × List DimensionKey} (rep : Represents done s) :
    (ordered s.2).toFinset.card ≤ 2 * done.length := by
  have sub : (ordered s.2).toFinset ⊆ (done.flatMap mentions).toFinset := by
    intro a mem
    obtain ⟨e, there, agent, key, is⟩ := (rep.named a).mp (mem_ordered.mp (List.mem_toFinset.mp mem))
    exact List.mem_toFinset.mpr (List.mem_flatMap.mpr ⟨e, there, mem_mentions key is⟩)
  have length : ∀ facts : List EconomicEvent, (facts.flatMap mentions).length ≤ 2 * facts.length := by
    intro facts
    induction facts with
    | nil => exact Nat.le_refl _
    | cons e facts ih =>
        have own := mentions_length e
        rw [List.flatMap_cons, List.length_append, List.length_cons]
        omega
  exact (Finset.card_le_card sub).trans ((List.toFinset_card_le _).trans (length done))

section Lineage

variable {facts : List EconomicEvent} {s : List (DimensionKey × DimensionKey) × List DimensionKey}

theorem under_eq (rep : Represents facts s) :
    Forest.Under (fun a => Fields.get a s.1) = ProvesParent facts := by
  funext c p
  exact propext (rep.parents c p)

theorem closed (rep : Represents facts s) (c p : DimensionKey) (up : Fields.get c s.1 = some p) :
    c ∈ (ordered s.2).toFinset ∧ p ∈ (ordered s.2).toFinset := by
  obtain ⟨e, mem, key, proven⟩ := (rep.parents c p).mp up
  constructor
  · exact List.mem_toFinset.mpr (mem_ordered.mpr ((rep.named c).mpr ⟨e, mem, c, key, .inl rfl⟩))
  · exact List.mem_toFinset.mpr (mem_ordered.mpr ((rep.named p).mpr ⟨e, mem, c, key, .inr proven⟩))

theorem forM_ok_iff {α : Type} (check : α → Except Stop Unit) (xs : List α) :
    xs.forM check = .ok () ↔ ∀ x ∈ xs, check x = .ok () := by
  induction xs with
  | nil => simp [pure, Except.pure]
  | cons x xs ih =>
      show (check x >>= fun _ => xs.forM check) = .ok () ↔ _
      rw [List.forall_mem_cons, ← ih]
      cases checked : check x with
      | error stop => simp [bind, Except.bind]
      | ok u => simp [bind, Except.bind]

theorem forM_error {α : Type} (check : α → Except Stop Unit) (xs : List α) {stop : Stop}
    (failed : xs.forM check = .error stop) : ∃ x ∈ xs, check x = .error stop := by
  induction xs with
  | nil => cases failed
  | cons x xs ih =>
      change (check x >>= fun _ => xs.forM check) = .error stop at failed
      cases checked : check x with
      | error stop' =>
          rw [checked] at failed
          cases failed
          exact ⟨x, List.mem_cons_self, checked⟩
      | ok u =>
          rw [checked] at failed
          obtain ⟨y, mem, stopped⟩ := ih failed
          exact ⟨y, List.mem_cons_of_mem x mem, stopped⟩

theorem checkCycle_ok_iff (parents : List (DimensionKey × DimensionKey)) (fuel : Nat)
    (agent : DimensionKey) :
    checkCycle parents fuel agent = .ok () ↔
      Forest.climb (fun a => Fields.get a parents) fuel [] agent = .top := by
  rw [checkCycle]
  cases Forest.climb (fun a => Fields.get a parents) fuel [] agent <;> simp

/-- The second loop passes exactly where no agent is above itself, and it ends. -/
theorem cycles_checked (rep : Represents facts s) {fuel : Nat}
    (enough : (ordered s.2).toFinset.card < fuel) :
    ((ordered s.2).forM (checkCycle s.1 fuel) = .ok () ↔
        ∀ a, ¬ TransGen (ProvesParent facts) a a) ∧
      (ordered s.2).forM (checkCycle s.1 fuel) ≠ .error .unfinished := by
  constructor
  · rw [forM_ok_iff, ← under_eq rep, Forest.acyclic_iff_climb (closed rep) enough]
    simp only [checkCycle_ok_iff, List.mem_toFinset]
  · intro failed
    obtain ⟨agent, mem, stopped⟩ := forM_error _ _ failed
    rw [checkCycle] at stopped
    rcases Forest.climb_spec (closed rep) (List.mem_toFinset.mpr mem) List.nodup_nil
      (fun _ there => absurd there List.not_mem_nil) enough with ⟨ends, -⟩ | ⟨c, again, -⟩
    · rw [ends] at stopped
      cases stopped
    · rw [again] at stopped
      cases stopped

end Lineage

/-- What a built lineage is. -/
structure Built (facts : List EconomicEvent) (lineage : AgentLineage) : Prop where
  ascending : Fields.Ascending lineage.parents
  parent : ∀ c p, lineage.parent c = some p ↔ ProvesParent facts c p
  forest : ∃ nodes : Finset DimensionKey, (∀ a, a ∈ nodes ↔ KnownAgent facts a) ∧
    nodes.card ≤ 2 * facts.length ∧ Forest.IsForest nodes lineage.parent ∧
    lineage.roots.Nodup ∧ ∀ a, a ∈ lineage.roots ↔ a ∈ nodes ∧ lineage.parent a = none

/-- A lineage is built exactly where no agent has two parents and none is above itself. -/
theorem fromEvents_spec (events : List EconomicEvent) {fuel : Nat}
    (enough : 2 * (firstEvents events).length < fuel) :
    fromEvents fuel events ≠ .error .unfinished ∧
      ((∃ lineage, fromEvents fuel events = .ok lineage) ↔
        OneParent (firstEvents events) ∧ ∀ a, ¬ TransGen (ProvesParent (firstEvents events)) a a) ∧
      ∀ lineage, fromEvents fuel events = .ok lineage → Built (firstEvents events) lineage := by
  have loop := foldlM_record_spec represents_nil (firstEvents events)
  rw [List.nil_append] at loop
  rw [fromEvents]
  cases recorded : (firstEvents events).foldlM record ([], []) with
  | error stop =>
      rw [recorded] at loop
      obtain ⟨agent, first, second, rfl, proves, proves', other⟩ := loop
      refine ⟨nofun, ?_, nofun⟩
      constructor
      · rintro ⟨_, ⟨⟩⟩
      · rintro ⟨one, -⟩
        exact absurd (one agent first second proves proves') other
  | ok s =>
      rw [recorded] at loop
      dsimp only at loop
      have bound := ordered_card loop
      obtain ⟨checked, ends⟩ := cycles_checked loop (Nat.lt_of_le_of_lt bound enough)
      have one : OneParent (firstEvents events) := by
        intro child first second proves proves'
        have has := (loop.parents child first).mpr proves
        rw [(loop.parents child second).mpr proves'] at has
        exact (Option.some.inj has).symm
      show (((ordered s.2).forM (checkCycle s.1 fuel) >>= fun _ => Except.ok (AgentLineage.mk s.1
          ((ordered s.2).filter fun agent => (Fields.get agent s.1).isNone))) ≠ .error .unfinished) ∧
        ((∃ lineage, ((ordered s.2).forM (checkCycle s.1 fuel) >>= fun _ => Except.ok (AgentLineage.mk
          s.1 ((ordered s.2).filter fun agent => (Fields.get agent s.1).isNone))) = .ok lineage) ↔ _) ∧
        ∀ lineage, ((ordered s.2).forM (checkCycle s.1 fuel) >>= fun _ => Except.ok (AgentLineage.mk
          s.1 ((ordered s.2).filter fun agent => (Fields.get agent s.1).isNone))) = .ok lineage → _
      cases looped : (ordered s.2).forM (checkCycle s.1 fuel) with
      | error stop =>
          rw [looped] at checked ends
          refine ⟨fun same => ends (by injection same with is; rw [is]), ?_, nofun⟩
          constructor
          · rintro ⟨_, ⟨⟩⟩
          · rintro ⟨-, acyclic⟩
            cases checked.mpr acyclic
      | ok u =>
          rw [looped] at checked
          have acyclic := checked.mp rfl
          refine ⟨nofun, ⟨fun _ => ⟨one, acyclic⟩, fun _ => ⟨_, rfl⟩⟩, ?_⟩
          intro lineage built
          cases built
          refine ⟨loop.ascending, loop.parents, (ordered s.2).toFinset, ?_, bound, ?_, ?_, ?_⟩
          · intro a
            rw [List.mem_toFinset, mem_ordered, loop.named]
          · exact ⟨closed loop, by rw [← under_eq loop] at acyclic; exact acyclic⟩
          · exact (ordered_nodup s.2).filter _
          · intro a
            rw [List.mem_filter, List.mem_toFinset, Option.isNone_iff_eq_none]
            rfl

theorem mem_children {lineage : AgentLineage} (ascending : Fields.Ascending lineage.parents)
    {c a : DimensionKey} : c ∈ lineage.children a ↔ lineage.parent c = some a := by
  rw [children, List.mem_map]
  constructor
  · rintro ⟨x, mem, rfl⟩
    obtain ⟨mem, is⟩ := List.mem_filter.mp mem
    have is : x.2 = a := of_decide_eq_true is
    exact Fields.get_of_mem ascending (is ▸ mem)
  · intro up
    exact ⟨(c, a), List.mem_filter.mpr ⟨Fields.get_mem up, decide_eq_true rfl⟩, rfl⟩

theorem children_nodup {lineage : AgentLineage} (ascending : Fields.Ascending lineage.parents)
    (a : DimensionKey) : (lineage.children a).Nodup := by
  have keys : (lineage.parents.map Prod.fst).Nodup :=
    List.pairwise_map.mpr (ascending.imp fun less => ne_of_lt less)
  exact keys.sublist ((List.filter_sublist).map _)

end AgentLineage

/-! ## Adding up -/

section Spend

open AgentLineage SpendTotals

variable (events : List EconomicEvent)

theorem exclusiveSpend_eq (agent : DimensionKey) :
    exclusiveSpend events agent =
      (((firstEvents events).filter fun e => e.attribution.dimensionKey .agent = some agent).map
        fun e => single e.fact).sum := by
  rw [exclusiveSpend, foldl_addFact]
  exact zero_add _

/-- Every fact of one of the agents is one agent's own. -/
theorem sum_own (facts : List EconomicEvent) (nodes : Finset DimensionKey) (w : EconomicEvent → SpendTotals) :
    ∑ a ∈ nodes, ((facts.filter fun e => e.attribution.dimensionKey .agent = some a).map w).sum =
      ((facts.filter fun e => (e.attribution.dimensionKey .agent).any fun a => decide (a ∈ nodes)).map
        w).sum := by
  induction facts with
  | nil => simp
  | cons e facts ih =>
      cases key : e.attribution.dimensionKey .agent with
      | none =>
          simp only [List.filter_cons, key, Option.any_none]
          simpa using ih
      | some agent =>
          have split : ∀ a, (((e :: facts).filter fun e =>
              e.attribution.dimensionKey .agent = some a).map w).sum =
              (if agent = a then w e else 0) +
                ((facts.filter fun e => e.attribution.dimensionKey .agent = some a).map w).sum := by
            intro a
            rw [List.filter_cons, key]
            by_cases same : agent = a
            · simp [same]
            · simp [same]
          rw [Finset.sum_congr rfl fun a _ => split a, Finset.sum_add_distrib, ih, Finset.sum_ite_eq,
            List.filter_cons, key, Option.any_some]
          by_cases mem : agent ∈ nodes
          · simp [mem]
          · simp [mem]

theorem foldlM_merge {α : Type} (run : α → Except Stop SpendTotals) (f : α → SpendTotals) {xs : List α}
    (runs : ∀ x ∈ xs, run x = .ok (f x)) (totals : SpendTotals) :
    xs.foldlM (fun totals x => do
      let more ← run x
      return totals.merge more) totals = .ok (totals + (xs.map f).sum) := by
  induction xs generalizing totals with
  | nil =>
      rw [List.map_nil, List.sum_nil, add_zero]
      rfl
  | cons x xs ih =>
      obtain ⟨here, runs⟩ := List.forall_mem_cons.mp runs
      rw [List.foldlM_cons, here]
      show xs.foldlM _ (totals + f x) = _
      rw [ih runs, List.map_cons, List.sum_cons, add_assoc]

variable {events}

/-- Below the parent as below each child: the recursion ends, and adds up what is below. -/
theorem inclusiveSpendRec_ok {lineage : AgentLineage} {nodes : Finset DimensionKey}
    (ascending : Fields.Ascending lineage.parents) (forest : Forest.IsForest nodes lineage.parent) :
    ∀ a ∈ nodes, ∀ (fuel : Nat) (visiting : List DimensionKey),
      (Forest.below nodes lineage.parent a).card < fuel →
      (∀ v ∈ visiting, ¬ ReflTransGen (Forest.Under lineage.parent) v a) →
      inclusiveSpendRec events lineage fuel visiting a =
        .ok (∑ d ∈ Forest.below nodes lineage.parent a, exclusiveSpend events d) := by
  refine forest.induct ?_
  intro a mem ih fuel visiting enough apart
  cases fuel with
  | zero => exact absurd enough (Nat.not_lt_zero _)
  | succ fuel =>
      have fresh : a ∉ visiting := fun met => apart a met ReflTransGen.refl
      have runs : ∀ c ∈ lineage.children a, inclusiveSpendRec events lineage fuel (a :: visiting) c =
          .ok (∑ d ∈ Forest.below nodes lineage.parent c, exclusiveSpend events d) := by
        intro c child
        have up := (mem_children ascending).mp child
        have fewer := forest.card_below_lt up
        refine ih c up fuel (a :: visiting) (by omega) (List.forall_mem_cons.mpr ⟨?_, ?_⟩)
        · intro back
          exact forest.acyclic a (TransGen.tail' back up)
        · intro v met back
          exact apart v met (back.tail up)
      rw [inclusiveSpendRec, if_neg fresh, foldlM_merge _ _ runs,
        forest.sum_below _ mem (children_nodup ascending a) fun _ => mem_children ascending]

end Spend

/-! ## Groups -/

theorem sum_upsert (key : DimensionKey) (change : SpendTotals → SpendTotals) (more : SpendTotals)
    (adds : ∀ totals, change totals = totals + more) (groups : List (DimensionKey × SpendTotals)) :
    ((Fields.upsert key 0 change groups).map Prod.snd).sum = (groups.map Prod.snd).sum + more := by
  induction groups with
  | nil => simp [Fields.upsert, adds]
  | cons x rest ih =>
      rw [Fields.upsert]
      split
      · simp [adds, add_comm]
      split
      · simp [adds, add_assoc, add_comm more]
      · rw [List.map_cons, List.sum_cons, ih, List.map_cons, List.sum_cons, add_assoc]

/-- Every fact is in one group, or in none. -/
theorem project_sum (events : List EconomicEvent) (dim : EconomicDimension) :
    ((project events dim).groups.map Prod.snd).sum + (project events dim).unattributed =
      SpendTotals.ofFacts ((firstEvents events).map EconomicEvent.fact) := by
  have loop : ∀ (facts : List EconomicEvent) (p : Projection),
      ((facts.foldl (fun p e =>
          match e.attribution.dimensionKey dim with
          | some key =>
              { p with groups := Fields.upsert key .empty (fun totals => totals.addFact e.fact) p.groups }
          | none => { p with unattributed := p.unattributed.addFact e.fact }) p).groups.map Prod.snd).sum +
        (facts.foldl (fun p e =>
          match e.attribution.dimensionKey dim with
          | some key =>
              { p with groups := Fields.upsert key .empty (fun totals => totals.addFact e.fact) p.groups }
          | none => { p with unattributed := p.unattributed.addFact e.fact }) p).unattributed =
        (p.groups.map Prod.snd).sum + p.unattributed +
          (facts.map fun e => SpendTotals.single e.fact).sum := by
    intro facts
    induction facts with
    | nil =>
        intro p
        exact (add_zero _).symm
    | cons e facts ih =>
        intro p
        rw [List.foldl_cons, ih, List.map_cons, List.sum_cons]
        cases e.attribution.dimensionKey dim with
        | some key =>
            have grown := sum_upsert key (fun totals => totals.addFact e.fact) (SpendTotals.single e.fact)
              (fun totals => totals.addFact_eq e.fact) p.groups
            dsimp only
            rw [SpendTotals.empty_eq_zero, grown]
            abel
        | none =>
            dsimp only
            rw [SpendTotals.addFact_eq]
            abel
  rw [project, loop, SpendTotals.ofFacts_eq, List.map_map]
  exact (congrArg (· + _) (add_zero 0)).trans (zero_add _)

/-! ## Neither lost nor counted twice -/

open Classical in
/-- The facts of the events that have a property. -/
noncomputable def factsWhere (events : List EconomicEvent) (p : EconomicEvent → Prop) : List ResourceFact :=
  (events.filter fun e => p e).map EconomicEvent.fact

theorem factsWhere_eq (events : List EconomicEvent) (p : EconomicEvent → Prop) (test : EconomicEvent → Bool)
    (tests : ∀ e ∈ events, test e = true ↔ p e) :
    factsWhere events p = (events.filter test).map EconomicEvent.fact := by
  classical
  unfold factsWhere
  congr 1
  refine List.filter_congr fun e mem => ?_
  rw [Bool.eq_iff_iff, decide_eq_true_eq]
  exact (tests e mem).symm

open AgentLineage in
/-- What a lineage and the inclusive totals over it are. -/
structure RollsUp (fuel : Nat) (events : List EconomicEvent) (lineage : AgentLineage)
    (inclusive : DimensionKey → SpendTotals) : Prop where
  children : ∀ child agent, child ∈ lineage.children agent ↔ ProvesParent (firstEvents events) child agent
  exclusive : ∀ agent, (exclusiveSpend events agent).Counts
    (factsWhere (firstEvents events) fun e => e.attribution.dimensionKey .agent = some agent)
  computed : ∀ agent, KnownAgent (firstEvents events) agent →
    inclusiveSpend fuel events lineage agent = .ok (inclusive agent)
  merged : ∀ agent, KnownAgent (firstEvents events) agent →
    inclusive agent = ((lineage.children agent).map inclusive).foldl SpendTotals.merge
      (exclusiveSpend events agent)
  /-- They are of the facts of the agent and of all agents below it. -/
  counts : ∀ agent, KnownAgent (firstEvents events) agent →
    (inclusive agent).Counts (factsWhere (firstEvents events) fun e =>
      ∃ d, e.attribution.dimensionKey .agent = some d ∧
        ReflTransGen (ProvesParent (firstEvents events)) d agent)
  one_root : ∀ agent, KnownAgent (firstEvents events) agent →
    ∃! root, root ∈ lineage.roots ∧ ReflTransGen (ProvesParent (firstEvents events)) agent root
  roots : ((lineage.roots.map inclusive).foldl SpendTotals.merge .empty).Counts
    (factsWhere (firstEvents events) fun e => (e.attribution.dimensionKey .agent).isSome)

theorem foldl_merge (totals : List SpendTotals) (start : SpendTotals) :
    totals.foldl SpendTotals.merge start = start + totals.sum := by
  induction totals generalizing start with
  | nil => exact (add_zero start).symm
  | cons t totals ih => rw [List.foldl_cons, ih, List.sum_cons, SpendTotals.merge_eq_add, add_assoc]

theorem AgentLineage.Built.rollsUp {events : List EconomicEvent} {lineage : AgentLineage}
    (built : lineage.Built (firstEvents events)) {fuel : Nat}
    (enough : 2 * (firstEvents events).length < fuel) :
    ∃ inclusive, RollsUp fuel events lineage inclusive := by
  obtain ⟨nodes, mem_nodes, few, forest, distinct, mem_roots⟩ := built.forest
  have under : Forest.Under lineage.parent = ProvesParent (firstEvents events) := by
    funext c p
    exact propext (built.parent c p)
  have children : ∀ c a, c ∈ lineage.children a ↔ lineage.parent c = some a := fun c a =>
    mem_children built.ascending
  -- The sum of what some agents spent themselves is the total of their facts.
  have total : ∀ agents : Finset DimensionKey, ∑ a ∈ agents, exclusiveSpend events a =
      SpendTotals.ofFacts (((firstEvents events).filter fun e =>
        (e.attribution.dimensionKey .agent).any fun a => decide (a ∈ agents)).map EconomicEvent.fact) := by
    intro agents
    rw [Finset.sum_congr rfl fun a _ => exclusiveSpend_eq events a, sum_own, SpendTotals.ofFacts_eq,
      List.map_map]
    rfl
  have mine : ∀ e ∈ firstEvents events, ∀ a, e.attribution.dimensionKey .agent = some a → a ∈ nodes :=
    fun e mem a key => (mem_nodes a).mpr ⟨e, mem, a, key, .inl rfl⟩
  refine ⟨fun a => ∑ d ∈ Forest.below nodes lineage.parent a, exclusiveSpend events d, ?_, ?_, ?_, ?_,
    ?_, ?_, ?_⟩
  · intro child agent
    rw [children, built.parent]
  · intro agent
    rw [factsWhere_eq _ _ _ fun e _ => decide_eq_true_iff]
    have own := SpendTotals.ofFacts_counts (((firstEvents events).filter fun e =>
      e.attribution.dimensionKey .agent = some agent).map EconomicEvent.fact)
    rw [SpendTotals.ofFacts_eq, List.map_map] at own
    rw [exclusiveSpend_eq]
    exact own
  · intro agent known
    have fewer := Forest.card_below_le nodes lineage.parent agent
    exact inclusiveSpendRec_ok built.ascending forest agent ((mem_nodes agent).mpr known) fuel []
      (by omega) fun _ there => absurd there List.not_mem_nil
  · intro agent known
    rw [foldl_merge]
    exact forest.sum_below _ ((mem_nodes agent).mpr known) (children_nodup built.ascending agent)
      fun c => children c agent
  · intro agent known
    rw [factsWhere_eq _ _ _ fun e mem => ?_, total]
    · exact SpendTotals.ofFacts_counts _
    · classical
      rw [Option.any_eq_true]
      refine exists_congr fun d => and_congr_right fun key => ?_
      rw [decide_eq_true_eq, Forest.below, Finset.mem_filter, under]
      exact and_iff_right (mine e mem d key)
  · intro agent known
    obtain ⟨root, ⟨inside, none_, above⟩, only⟩ :=
      forest.exists_unique_root ((mem_nodes agent).mpr known)
    rw [under] at above only
    refine ⟨root, ⟨(mem_roots root).mpr ⟨inside, none_⟩, above⟩, ?_⟩
    rintro other ⟨is_root, above'⟩
    exact only other ((mem_roots other).mp is_root).2 above'
  · rw [foldl_merge, forest.sum_roots _ distinct mem_roots, SpendTotals.empty_eq_zero, zero_add, total,
      ← factsWhere_eq _ _ _ fun e mem => ?_]
    · exact SpendTotals.ofFacts_counts _
    · cases key : e.attribution.dimensionKey .agent with
      | none => simp
      | some a => simp [mine e mem a key]

/-- A lineage is built exactly where the proven parents are a forest; then the inclusive totals
are computed, add up over it, and at the roots account for every fact of an agent.  The groups of
a dimension and what is in none account for every fact. -/
theorem rollup_spec (events : List EconomicEvent) (fuel : Nat)
    (enough : 2 * (firstEvents events).length < fuel) :
    ((∃ lineage, AgentLineage.fromEvents fuel events = .ok lineage) ↔
        OneParent (firstEvents events) ∧
          ∀ agent, ¬ TransGen (ProvesParent (firstEvents events)) agent agent) ∧
      AgentLineage.fromEvents fuel events ≠ .error .unfinished ∧
      (∀ lineage, AgentLineage.fromEvents fuel events = .ok lineage →
        ∃ inclusive, RollsUp fuel events lineage inclusive) ∧
      ∀ dim, (((project events dim).groups.map Prod.snd).foldl SpendTotals.merge
          (project events dim).unattributed).Counts ((firstEvents events).map EconomicEvent.fact) := by
  obtain ⟨ends, succeeds, built⟩ := AgentLineage.fromEvents_spec events enough
  refine ⟨succeeds, ends, fun lineage is => (built lineage is).rollsUp enough, fun dim => ?_⟩
  rw [foldl_merge, add_comm, project_sum]
  exact SpendTotals.ofFacts_counts _

/-- Five cents of an agent whose parent is only named. -/
def childSpend : EconomicEvent where
  id := ⟨1⟩
  occurredAt := 0
  fact := ⟨⟨.usd, 5⟩, .gatewayMeteredActual⟩
  attribution := .fromExecution (.known
    ⟨"host-1", "claude_code", some "s", some "a2", none, .child, some "a1", none, none⟩)
  owningScope := .agent

def childLineage : AgentLineage where
  parents := [(["host-1", "claude_code", "s", "a2"], ["host-1", "claude_code", "s", "a1"])]
  roots := [["host-1", "claude_code", "s", "a1"]]

/-- The five cents are in the parent's inclusive totals. -/
theorem parent_includes_child : ∃ inclusive, RollsUp 3 [childSpend] childLineage inclusive ∧
    (inclusive ["host-1", "claude_code", "s", "a1"]).of .usd = some ⟨5, .metered, 1⟩ := by
  obtain ⟨inclusive, rolls⟩ := (rollup_spec [childSpend] 3 (by decide)).2.2.1 childLineage
    (by decide +kernel)
  refine ⟨inclusive, rolls, ?_⟩
  have known : KnownAgent (firstEvents [childSpend]) ["host-1", "claude_code", "s", "a1"] :=
    ⟨childSpend, List.mem_singleton.mpr rfl, ["host-1", "claude_code", "s", "a2"], rfl, .inr rfl⟩
  have computed : (inclusiveSpend 3 [childSpend] childLineage
      ["host-1", "claude_code", "s", "a1"]).toOption.bind (fun totals => totals.of .usd) =
      some ⟨5, .metered, 1⟩ := by decide +kernel
  rw [rolls.computed _ known] at computed
  exact computed

end LibraGovernor
