/-
# LibraGovernor.Domain.SnapshotBinding -- a quota snapshot bound to its registration

A response lists readings and what is missing, both by constraint id.  `validateWireCoverage` is the
rule the wire format states: the ids of the two lists taken together are the requested ones, each
once (`validateWireCoverage_ok_iff`).  `applyAccountBinding` then rejects a response about another
context, and moves every reading that disagrees with what the registration expects of its id to the
missing ones.

Moving a reading keeps its id (`rehome_ids`), so the ids stay the requested ones; what stays among
the readings agrees with its entry, and nothing that agrees is moved.
-/
import LibraGovernor.Lib.Transaction
import Mathlib.Data.List.Perm.Basic
import Mathlib.Data.List.Nodup

namespace LibraGovernor

namespace QuotaObservation

set_option autoImplicit false

/-! ## The wire -/

inductive Scope where
  | principal (handle : String)
  | account (handle : String)
  | team (handle : String)
  | organization (handle : String)
  | project (handle : String)
  | sharedPool (handle : String)
  | provider (handle : String)
  deriving DecidableEq, Repr

inductive Metric where
  | totalTokens
  | inputTokens
  | outputTokens
  | requests
  | spend
  | creditUsage
  | utilization
  deriving DecidableEq, Repr

inductive MeasureUnit where
  | tokens
  | requests
  | usdCents
  | percentBasisPoints
  | opaqueCredit (creditNamespace : String)
  deriving DecidableEq, Repr

/-- The opaque window, the one kind there is. -/
structure Window where
  declaredResetAt : Option String
  deriving DecidableEq, Repr

structure Quantity where
  canonical : String
  value : Int
  deriving DecidableEq, Repr

inductive Reading where
  | used (value limit : Quantity)
  | remaining (value limit : Quantity)
  | utilization (usedBasisPoints : Quantity)
  | undisclosed
  deriving DecidableEq, Repr

inductive UpstreamEnforcement where
  | hard
  | soft
  | unknown
  deriving DecidableEq, Repr

structure Constraint where
  id : String
  scope : Scope
  metric : Metric
  unit : MeasureUnit
  window : Window
  reading : Reading
  observedAt : String
  validUntil : Option String
  upstreamEnforcement : UpstreamEnforcement
  accountFingerprint : String
  deriving DecidableEq, Repr

inductive MissingReason where
  | permissionDenied
  | unavailable
  | timeout
  | rateLimited
  | unsupportedMetric
  | unsupportedUnit
  | inconsistentReading
  | sourceTimeUnknown
  | accountFingerprintMismatch
  deriving DecidableEq, Repr

structure MissingConstraint where
  id : String
  reason : MissingReason
  deriving DecidableEq, Repr

inductive Coverage where
  | complete
  | partly
  deriving DecidableEq, Repr

structure ObservedContext where
  selector : String
  handle : String
  principal : String
  epoch : String
  deriving DecidableEq, Repr

structure SnapshotResult where
  context : ObservedContext
  authority : String
  contextValidUntil : Option String
  coverage : Coverage
  constraints : List Constraint
  missing : List MissingConstraint
  deriving DecidableEq, Repr

inductive WireValidationError where
  | completeCoverageViolated
  | partialCoverageViolated
  | duplicateConstraintId (id : String)
  | missingConstraintId (id : String)
  | unrequestedConstraintId (id : String)
  deriving DecidableEq, Repr

/-! ## The coverage rule -/

/-- One of the two loops over ids; the ids seen are the newest first. -/
def checkIds (requested : List String) :
    List String → List String → Except WireValidationError (List String)
  | seen, [] => .ok seen
  | seen, id :: rest =>
      if id ∉ requested then .error (.unrequestedConstraintId id)
      else if id ∈ seen then .error (.duplicateConstraintId id)
      else checkIds requested (id :: seen) rest

def checkCoverage (result : SnapshotResult) : Except WireValidationError Unit :=
  match result.coverage with
  | .complete =>
      if result.missing ≠ [] ∨ result.constraints = [] then .error .completeCoverageViolated else .ok ()
  | .partly => if result.missing = [] then .error .partialCoverageViolated else .ok ()

def SnapshotResult.validateWireCoverage (result : SnapshotResult) (requested : List String) :
    Except WireValidationError Unit := do
  checkCoverage result
  let seen ← checkIds requested [] (result.constraints.map Constraint.id)
  let seen ← checkIds requested seen (result.missing.map MissingConstraint.id)
  match requested.find? fun id => id ∉ seen with
  | some id => throw (.missingConstraintId id)
  | none => return ()

/-! ## The registration -/

structure RegisteredContext where
  selector : String
  handle : String
  principal : String
  authority : String
  deriving DecidableEq, Repr

/-- What is compared of an expected constraint. -/
structure ExpectedConstraint where
  id : String
  scope : Scope
  metric : Metric
  unit : MeasureUnit
  accountFingerprint : String
  deriving DecidableEq, Repr

/-- What is read of a registration. -/
structure Registration where
  context : RegisteredContext
  expected : List ExpectedConstraint
  deriving DecidableEq, Repr

inductive FreshnessError where
  | wire (e : WireValidationError)
  | contextMismatch (field expected actual : String)
  deriving DecidableEq, Repr

structure BoundSnapshotResult where
  context : ObservedContext
  authority : String
  contextValidUntil : Option String
  coverage : Coverage
  constraints : List Constraint
  missing : List MissingConstraint
  deriving DecidableEq, Repr

/-! ## Binding -/

def verifyContextBinding (result : SnapshotResult) (registration : Registration) :
    Except FreshnessError Unit :=
  let context := registration.context
  if result.context.selector ≠ context.selector then
    .error (.contextMismatch "selector" context.selector result.context.selector)
  else if result.context.handle ≠ context.handle then
    .error (.contextMismatch "handle" context.handle result.context.handle)
  else if result.context.principal ≠ context.principal then
    .error (.contextMismatch "principal" context.principal result.context.principal)
  else if result.authority ≠ context.authority then
    .error (.contextMismatch "authority" context.authority result.authority)
  else .ok ()

/-- The map from ids to entries; the last entry of an id is the one it holds. -/
def expectedById (expected : List ExpectedConstraint) (id : String) : Option ExpectedConstraint :=
  expected.reverse.find? fun entry => entry.id = id

/-- Why a reading is moved; `none` where it agrees with its entry. -/
def mismatch (expected : List ExpectedConstraint) (c : Constraint) : Option MissingReason :=
  match expectedById expected c.id with
  | some entry =>
      if entry.unit ≠ c.unit then some .unsupportedUnit
      else if entry.metric ≠ c.metric then some .unsupportedMetric
      -- A reading of another scope is about another entity, as one with another fingerprint is.
      else if entry.scope ≠ c.scope then some .accountFingerprintMismatch
      else if entry.accountFingerprint ≠ c.accountFingerprint then some .accountFingerprintMismatch
      else none
  | none => some .accountFingerprintMismatch

/-- The loop that moves readings. -/
def rehome (expected : List ExpectedConstraint) :
    List Constraint × List MissingConstraint → List Constraint →
      List Constraint × List MissingConstraint
  | kept, [] => kept
  | (constraints, missing), c :: rest =>
      match mismatch expected c with
      | some reason => rehome expected (constraints, missing ++ [⟨c.id, reason⟩]) rest
      | none => rehome expected (constraints ++ [c], missing) rest

def applyAccountBinding (result : SnapshotResult) (requested : List String)
    (registration : Registration) : Except FreshnessError BoundSnapshotResult := do
  (result.validateWireCoverage requested).mapError .wire
  verifyContextBinding result registration
  let (constraints, missing) := rehome registration.expected ([], result.missing) result.constraints
  return {
    context := result.context
    authority := result.authority
    contextValidUntil := result.contextValidUntil
    coverage := if missing = [] then .complete else .partly
    constraints
    missing }

/-! ## What the rules say -/

def SnapshotResult.ids (result : SnapshotResult) : List String :=
  result.constraints.map Constraint.id ++ result.missing.map MissingConstraint.id

def BoundSnapshotResult.ids (bound : BoundSnapshotResult) : List String :=
  bound.constraints.map Constraint.id ++ bound.missing.map MissingConstraint.id

/-- The coverage rule: a complete response misses nothing and says something, a partial one misses
something, and every requested id occurs exactly once and no other does. -/
structure SnapshotResult.Covers (result : SnapshotResult) (requested : List String) : Prop where
  complete : result.coverage = .complete → result.missing = [] ∧ result.constraints ≠ []
  partly : result.coverage = .partly → result.missing ≠ []
  nodup : result.ids.Nodup
  ids : ∀ id, id ∈ result.ids ↔ id ∈ requested

structure SnapshotResult.About (result : SnapshotResult) (registration : Registration) : Prop where
  selector : result.context.selector = registration.context.selector
  handle : result.context.handle = registration.context.handle
  principal : result.context.principal = registration.context.principal
  authority : result.authority = registration.context.authority

/-- A reading of what its entry expects. -/
structure ExpectedConstraint.Agrees (entry : ExpectedConstraint) (c : Constraint) : Prop where
  id : entry.id = c.id
  unit : entry.unit = c.unit
  metric : entry.metric = c.metric
  scope : entry.scope = c.scope
  accountFingerprint : entry.accountFingerprint = c.accountFingerprint

theorem checkIds_ok_iff {requested : List String} (ids seen out : List String) :
    checkIds requested seen ids = .ok out ↔
      out = ids.reverse ++ seen ∧ ids.Nodup ∧ ∀ id ∈ ids, id ∈ requested ∧ id ∉ seen := by
  induction ids generalizing seen with
  | nil => simp [checkIds, eq_comm]
  | cons id rest ih =>
      rw [checkIds]
      split
      · rename_i foreign
        constructor
        · intro done
          cases done
        · intro facts
          exact absurd (facts.2.2 id List.mem_cons_self).1 foreign
      rename_i asked
      split
      · rename_i again
        constructor
        · intro done
          cases done
        · intro facts
          exact absurd again (facts.2.2 id List.mem_cons_self).2
      · rename_i fresh
        rw [ih]
        simp only [List.mem_cons, not_or, List.nodup_cons, List.reverse_cons, List.append_assoc,
          List.singleton_append, forall_eq_or_imp, not_not] at asked ⊢
        constructor
        · intro facts
          obtain ⟨same, nodup, rest_ok⟩ := facts
          exact ⟨same, ⟨fun mem => (rest_ok id mem).2.1 rfl, nodup⟩, ⟨asked, fresh⟩,
            fun other mem => ⟨(rest_ok other mem).1, (rest_ok other mem).2.2⟩⟩
        · intro facts
          obtain ⟨same, ⟨new, nodup⟩, -, rest_ok⟩ := facts
          refine ⟨same, nodup, fun other mem => ⟨(rest_ok other mem).1, ?_, (rest_ok other mem).2⟩⟩
          rintro rfl
          exact new mem

theorem checkCoverage_ok_iff (result : SnapshotResult) : checkCoverage result = .ok () ↔
    (result.coverage = .complete → result.missing = [] ∧ result.constraints ≠ []) ∧
      (result.coverage = .partly → result.missing ≠ []) := by
  rw [checkCoverage]
  cases result.coverage with
  | complete =>
      by_cases violated : result.missing ≠ [] ∨ result.constraints = []
      · rw [if_pos violated]
        constructor
        · intro done
          cases done
        · intro rule
          obtain ⟨none_, some_⟩ := rule.1 rfl
          rcases violated with left | empty
          · exact absurd none_ left
          · exact absurd empty some_
      · rw [if_neg violated]
        rw [not_or, not_not] at violated
        exact ⟨fun _ => ⟨fun _ => violated, fun partly => by cases partly⟩, fun _ => rfl⟩
  | partly =>
      by_cases empty : result.missing = []
      · simp [empty]
      · simp [empty]

theorem validateWireCoverage_ok_iff (result : SnapshotResult) (requested : List String) :
    result.validateWireCoverage requested = .ok () ↔ result.Covers requested := by
  simp only [SnapshotResult.validateWireCoverage, Transaction.bind_eq_ok_iff, checkIds_ok_iff]
  constructor
  · intro done
    obtain ⟨⟨⟩, covered, _, ⟨rfl, first_nodup, first⟩, _, ⟨rfl, second_nodup, second⟩, last⟩ := done
    have coverage := (checkCoverage_ok_iff result).mp covered
    split at last
    · cases last
    rename_i none_missing
    have all : ∀ id ∈ requested, id ∈ result.ids := by
      intro id mem
      have found := of_not_not (of_decide_eq_false (Bool.eq_false_iff.mpr
        (List.find?_eq_none.mp none_missing id mem)))
      rw [List.append_nil, List.mem_append, List.mem_reverse, List.mem_reverse] at found
      exact List.mem_append.mpr found.symm
    refine ⟨coverage.1, coverage.2, ?_, fun id => ⟨fun mem => ?_, all id⟩⟩
    · refine List.nodup_append.mpr ⟨first_nodup, second_nodup, ?_⟩
      intro a a_mem b b_mem same
      subst same
      have fresh := (second a b_mem).2
      simp only [List.append_nil, List.mem_reverse] at fresh
      exact fresh a_mem
    · rcases List.mem_append.mp mem with reading | absent
      · exact (first id reading).1
      · exact (second id absent).1
  · intro covers
    obtain ⟨complete, partly, nodup, ids⟩ := covers
    obtain ⟨first_nodup, second_nodup, apart⟩ := List.nodup_append.mp nodup
    refine ⟨(), (checkCoverage_ok_iff result).mpr ⟨complete, partly⟩, _, ⟨rfl, first_nodup, ?_⟩, _, ⟨rfl, second_nodup, ?_⟩, ?_⟩
    · intro id mem
      exact ⟨(ids id).mp (List.mem_append_left _ mem), List.not_mem_nil⟩
    · intro id mem
      refine ⟨(ids id).mp (List.mem_append_right _ mem), fun seen => ?_⟩
      simp only [List.append_nil, List.mem_reverse] at seen
      exact apart id seen id mem rfl
    · have none_missing : (requested.find? fun id => id ∉ (result.missing.map MissingConstraint.id).reverse ++
          ((result.constraints.map Constraint.id).reverse ++ [])) = none := by
        rw [List.find?_eq_none]
        intro id mem unseen
        have found := List.mem_append.mp ((ids id).mpr mem)
        refine of_decide_eq_true unseen ?_
        rw [List.append_nil, List.mem_append, List.mem_reverse, List.mem_reverse]
        exact found.symm
      rw [none_missing]
      rfl

theorem verifyContextBinding_ok_iff (result : SnapshotResult) (registration : Registration) :
    verifyContextBinding result registration = .ok () ↔ result.About registration := by
  simp only [verifyContextBinding]
  constructor
  · intro done
    split at done
    · cases done
    rename_i selector
    split at done
    · cases done
    rename_i handle
    split at done
    · cases done
    rename_i principal
    split at done
    · cases done
    rename_i authority
    exact ⟨not_not.mp selector, not_not.mp handle, not_not.mp principal, not_not.mp authority⟩
  · intro about
    simp [about.selector, about.handle, about.principal, about.authority]

/-! ## Moving readings -/

theorem rehome_eq (expected : List ExpectedConstraint) (constraints : List Constraint)
    (missing : List MissingConstraint) (readings : List Constraint) :
    rehome expected (constraints, missing) readings =
      (constraints ++ readings.filter fun c => mismatch expected c = none,
        missing ++ readings.filterMap fun c =>
          (mismatch expected c).map fun reason => ⟨c.id, reason⟩) := by
  induction readings generalizing constraints missing with
  | nil => simp [rehome]
  | cons c rest ih =>
      rw [rehome]
      cases moved : mismatch expected c with
      | none => simp [ih, moved]
      | some reason => simp [ih, moved]

/-- A reading keeps its id, whichever list it ends in. -/
theorem rehome_ids (expected : List ExpectedConstraint) (readings : List Constraint)
    (missing : List MissingConstraint) :
    ((rehome expected ([], missing) readings).1.map Constraint.id ++
      (rehome expected ([], missing) readings).2.map MissingConstraint.id).Perm
      (readings.map Constraint.id ++ missing.map MissingConstraint.id) := by
  rw [rehome_eq]
  simp only [List.nil_append]
  induction readings with
  | nil => simp
  | cons c rest ih =>
      cases moved : mismatch expected c with
      | none =>
          simp only [List.filter_cons, moved, decide_true, if_true, List.filterMap_cons, Option.map_none,
            List.map_cons, List.cons_append]
          exact ih.cons c.id
      | some reason =>
          have front : ∀ xs ys zs : List String, (xs ++ (ys ++ c.id :: zs)).Perm (c.id :: (xs ++ (ys ++ zs))) := by
            intro xs ys zs
            rw [← List.append_assoc, ← List.append_assoc]
            exact List.perm_middle
          simp only [List.filter_cons, moved, reduceCtorEq, decide_false, Bool.false_eq_true, if_false,
            List.filterMap_cons, Option.map_some, List.map_append, List.map_cons, List.cons_append]
          simp only [List.map_append] at ih
          exact (front _ _ _).trans (ih.cons c.id)

theorem expectedById_mem {expected : List ExpectedConstraint} {id : String}
    {entry : ExpectedConstraint} (found : expectedById expected id = some entry) :
    entry ∈ expected ∧ entry.id = id :=
  ⟨List.mem_reverse.mp (List.mem_of_find?_eq_some found),
    of_decide_eq_true (List.find?_some (p := fun entry : ExpectedConstraint => entry.id = id) found)⟩

/-- With distinct ids, the map holds every entry. -/
theorem expectedById_of_mem {expected : List ExpectedConstraint}
    (distinct : (expected.map ExpectedConstraint.id).Nodup) {entry : ExpectedConstraint}
    (mem : entry ∈ expected) : expectedById expected entry.id = some entry := by
  cases found : expectedById expected entry.id with
  | none =>
      have missed := List.find?_eq_none.mp found entry (List.mem_reverse.mpr mem)
      simp at missed
  | some other =>
      obtain ⟨other_mem, same⟩ := expectedById_mem found
      rw [List.inj_on_of_nodup_map distinct other_mem mem same]

/-- A reading stays exactly when it agrees with the entry of its id. -/
theorem mismatch_eq_none_iff (expected : List ExpectedConstraint) (c : Constraint) :
    mismatch expected c = none ↔ ∃ entry, expectedById expected c.id = some entry ∧ entry.Agrees c := by
  rw [mismatch]
  cases found : expectedById expected c.id with
  | none => simp
  | some entry =>
      have id := (expectedById_mem found).2
      simp only
      constructor
      · intro kept
        split at kept
        · cases kept
        rename_i unit
        split at kept
        · cases kept
        rename_i metric
        split at kept
        · cases kept
        rename_i scope
        split at kept
        · cases kept
        rename_i fingerprint
        exact ⟨entry, rfl, id, not_not.mp unit, not_not.mp metric, not_not.mp scope,
          not_not.mp fingerprint⟩
      · intro agrees
        obtain ⟨other, same, agrees⟩ := agrees
        cases same
        simp [agrees.unit, agrees.metric, agrees.scope, agrees.accountFingerprint]

/-! ## The bound snapshot -/

/-- What is to hold of a bound snapshot. -/
structure BoundTo (result : SnapshotResult) (requested : List String) (registration : Registration)
    (bound : BoundSnapshotResult) : Prop where
  once : ∀ id ∈ requested, bound.ids.count id = 1
  others : ∀ id ∈ bound.ids, id ∈ requested
  kept : bound.constraints.Sublist result.constraints
  agrees : ∀ c ∈ bound.constraints, ∃ entry ∈ registration.expected, entry.Agrees c
  lossless : ∀ c ∈ result.constraints, ∀ entry ∈ registration.expected, entry.Agrees c →
    c ∈ bound.constraints ∧ ∀ m ∈ bound.missing, m.id ≠ c.id
  context : bound.context.selector = registration.context.selector ∧
    bound.context.handle = registration.context.handle ∧
    bound.context.principal = registration.context.principal ∧
    bound.authority = registration.context.authority
  coverage : bound.coverage = .complete ↔ bound.missing = []
  some_ : bound.missing = [] → bound.constraints ≠ []

theorem applyAccountBinding_ok_iff {result : SnapshotResult} {requested : List String}
    {registration : Registration} {bound : BoundSnapshotResult} :
    applyAccountBinding result requested registration = .ok bound ↔
      (result.Covers requested ∧ result.About registration) ∧
      bound =
        { context := result.context
          authority := result.authority
          contextValidUntil := result.contextValidUntil
          coverage :=
            if (rehome registration.expected ([], result.missing) result.constraints).2 = [] then .complete
            else .partly
          constraints := (rehome registration.expected ([], result.missing) result.constraints).1
          missing := (rehome registration.expected ([], result.missing) result.constraints).2 } := by
  have wire : (result.validateWireCoverage requested).mapError FreshnessError.wire = .ok () ↔
      result.validateWireCoverage requested = .ok () := by
    cases result.validateWireCoverage requested with
    | error e => simp [Except.mapError]
    | ok done => simp [Except.mapError]
  rw [← validateWireCoverage_ok_iff, ← verifyContextBinding_ok_iff, ← wire]
  simp only [applyAccountBinding, Transaction.bind_eq_ok_iff, pure, Except.pure, Except.ok.injEq]
  constructor
  · intro done
    obtain ⟨⟨⟩, covers, ⟨⟩, about, same⟩ := done
    exact ⟨⟨covers, about⟩, same.symm⟩
  · intro done
    obtain ⟨⟨covers, about⟩, same⟩ := done
    exact ⟨(), covers, (), about, same.symm⟩

section Bound

variable {result : SnapshotResult} {requested : List String} {registration : Registration}
  {bound : BoundSnapshotResult}

theorem bound_ids (done : applyAccountBinding result requested registration = .ok bound) :
    bound.ids.Perm result.ids := by
  obtain ⟨-, rfl⟩ := applyAccountBinding_ok_iff.mp done
  exact rehome_ids registration.expected result.constraints result.missing

theorem mem_bound_constraints (done : applyAccountBinding result requested registration = .ok bound)
    (c : Constraint) : c ∈ bound.constraints ↔
      c ∈ result.constraints ∧ mismatch registration.expected c = none := by
  obtain ⟨-, rfl⟩ := applyAccountBinding_ok_iff.mp done
  simp only [rehome_eq, List.nil_append, List.mem_filter, decide_eq_true_eq]

theorem boundTo_of_ok (distinct : (registration.expected.map ExpectedConstraint.id).Nodup)
    (done : applyAccountBinding result requested registration = .ok bound) :
    BoundTo result requested registration bound := by
  have same_ids := bound_ids done
  have kept := mem_bound_constraints done
  obtain ⟨⟨covers, about⟩, built⟩ := applyAccountBinding_ok_iff.mp done
  have nodup : bound.ids.Nodup := same_ids.nodup_iff.mpr covers.nodup
  have sublist : bound.constraints.Sublist result.constraints := by
    rw [built, rehome_eq]
    exact List.filter_sublist
  refine ⟨?_, ?_, sublist, ?_, ?_, ?_, ?_, ?_⟩
  · intro id asked
    exact List.count_eq_one_of_mem nodup (same_ids.mem_iff.mpr ((covers.ids id).mpr asked))
  · intro id mem
    exact (covers.ids id).mp (same_ids.mem_iff.mp mem)
  · intro c mem
    obtain ⟨entry, found, agrees⟩ := (mismatch_eq_none_iff _ c).mp ((kept c).mp mem).2
    exact ⟨entry, (expectedById_mem found).1, agrees⟩
  · intro c mem entry entry_mem agrees
    have found : expectedById registration.expected c.id = some entry := by
      rw [← agrees.id]
      exact expectedById_of_mem distinct entry_mem
    have stays : c ∈ bound.constraints :=
      (kept c).mpr ⟨mem, (mismatch_eq_none_iff _ c).mpr ⟨entry, found, agrees⟩⟩
    refine ⟨stays, fun m m_mem same => ?_⟩
    exact (List.nodup_append.mp nodup).2.2 c.id (List.mem_map_of_mem stays) m.id
      (List.mem_map_of_mem m_mem) same.symm
  · rw [built]
    exact ⟨about.selector, about.handle, about.principal, about.authority⟩
  · rw [built]
    simp only
    split
    · simp [*]
    · simp [*]
  · intro empty
    have result_empty : result.missing = [] := by
      rw [built, rehome_eq] at empty
      exact (List.append_eq_nil_iff.mp empty).1
    have some_ids : result.constraints ≠ [] := by
      cases coverage : result.coverage with
      | complete => exact (covers.complete coverage).2
      | partly => exact absurd result_empty (covers.partly coverage)
    intro none_
    have lengths := same_ids.length_eq
    simp only [BoundSnapshotResult.ids, SnapshotResult.ids, none_, empty, result_empty, List.map_nil,
      List.append_nil, List.length_nil, List.length_map] at lengths
    exact some_ids (List.length_eq_zero_iff.mp lengths.symm)

/-- A bound snapshot is the response's, with each requested id once and every reading of what is
registered; a response is refused exactly when it breaks the coverage rule or is about another
context. -/
theorem applyAccountBinding_sound (result : SnapshotResult) (requested : List String)
    (registration : Registration) (distinct : (registration.expected.map ExpectedConstraint.id).Nodup) :
    (∀ bound, applyAccountBinding result requested registration = .ok bound →
      BoundTo result requested registration bound) ∧
    ((∃ e, applyAccountBinding result requested registration = .error e) ↔
      ¬ (result.Covers requested ∧ result.About registration)) := by
  refine ⟨fun bound done => boundTo_of_ok distinct done, ?_⟩
  cases done : applyAccountBinding result requested registration with
  | error e =>
      simp only [Except.error.injEq, exists_eq', true_iff]
      intro rules
      rw [applyAccountBinding_ok_iff.mpr ⟨rules, rfl⟩] at done
      cases done
  | ok bound =>
      have rules := (applyAccountBinding_ok_iff.mp done).1
      simp [rules]

/-- One account, asked for two counts of its tokens. -/
def tokensRegistration : Registration :=
  ⟨⟨"default", "acct", "dev", "provider"⟩, [⟨"c1", .account "acct", .totalTokens, .tokens, "fp"⟩,
    ⟨"c2", .account "acct", .totalTokens, .tokens, "fp"⟩]⟩

/-- The second is answered in cents. -/
def tokensResult : SnapshotResult where
  context := ⟨"default", "acct", "dev", "e1"⟩
  authority := "provider"
  contextValidUntil := none
  coverage := .complete
  constraints := [⟨"c1", .account "acct", .totalTokens, .tokens, ⟨none⟩, .undisclosed,
    "2026-09-18T12:00:00Z", none, .hard, "fp"⟩,
    ⟨"c2", .account "acct", .totalTokens, .usdCents, ⟨none⟩, .undisclosed,
    "2026-09-18T12:00:00Z", none, .hard, "fp"⟩]
  missing := []

/-- The first is kept, and the second is missing. -/
theorem tokens_sound : ∃ bound,
    applyAccountBinding tokensResult ["c1", "c2", "c1"] tokensRegistration = .ok bound ∧
      bound.coverage = .partly ∧ bound.ids = ["c1", "c2"] ∧ bound.constraints.length = 1 ∧
      bound.missing = [⟨"c2", .unsupportedUnit⟩] ∧
      BoundTo tokensResult ["c1", "c2", "c1"] tokensRegistration bound := by
  have answer : (applyAccountBinding tokensResult ["c1", "c2", "c1"] tokensRegistration).map
      (fun bound => (bound.coverage, bound.ids, bound.constraints.length, bound.missing)) =
        .ok (.partly, ["c1", "c2"], 1, [⟨"c2", .unsupportedUnit⟩]) := by decide
  cases done : applyAccountBinding tokensResult ["c1", "c2", "c1"] tokensRegistration with
  | error e =>
      rw [done] at answer
      cases answer
  | ok bound =>
      rw [done] at answer
      obtain ⟨coverage, rest⟩ := Prod.mk.inj (Except.ok.inj answer)
      obtain ⟨ids, rest⟩ := Prod.mk.inj rest
      obtain ⟨kept, missing⟩ := Prod.mk.inj rest
      exact ⟨bound, rfl, coverage, ids, kept, missing, (applyAccountBinding_sound tokensResult
        ["c1", "c2", "c1"] tokensRegistration (by decide)).1 bound done⟩

end Bound

end QuotaObservation

end LibraGovernor
