/-
# LibraGovernor.Ledger.Renewal -- bounded renewals and their audit chain

A grant is a row of `task_budget_renewals` with what was read when it was made: the
contract revision it was asked for, what the task had settled and held, the effective limit
before and after.  The task ledger sees only the amount and the key of it, so the two tables
are one structure that carries their agreement, and a grant here is a grant there
(`grantRenewal_ledger`).  Amounts are exact: a validated renewal is never in percent, the one
kind whose amounts `from_kind_f64` cuts at a hundred.

What a task's grants satisfy is `Granting`: they start at the hard limit, each starts
where the one before it ended, and there are no more of them, and no more capacity, than
the policy's bound.  Grants keep it, attestations and contract revisions do not touch it
(`renewals_bounded`).  A grant is made only for an `Unfinished` task.
-/
import LibraGovernor.Ledger.Attestation
import LibraGovernor.Domain.Policy
import Mathlib.Data.List.Chain
import Mathlib.Order.Bounds.Basic

namespace LibraGovernor

open Relational Transaction Transition TaskLedger

set_option autoImplicit false

/-! ## Rows -/

inductive RenewalAuthority where
  | operator (operatorId : String)
  deriving DecidableEq, Repr

/-- `task-budget-renewal-v1`. -/
def TASK_BUDGET_RENEWAL_SCHEMA_VERSION : String := "task-budget-renewal-v1"

/-- A renewal request as it arrives: what the gates read, who asks and why. -/
structure AuthorizedRequest where
  request : RenewalRequest
  authority : RenewalAuthority
  reason : String
  deriving DecidableEq, Repr

/-- A `task_budget_renewals` row.  The amounts are in the task's own kind. -/
structure RenewalRow where
  id : RenewalId
  taskId : TaskId
  amount : Int
  authority : RenewalAuthority
  contractRevision : Nat
  reason : String
  idempotencyKey : String
  settledAtGrant : Int
  activeAtGrant : Int
  effectiveBefore : Int
  effectiveAfter : Int
  quotaStatusAtGrant : BlockingStatus
  schemaVersion : String
  grantedAt : OffsetDateTime
  deriving DecidableEq, Repr

/-- What the budget arithmetic reads of a row. -/
def RenewalRow.capacity (r : RenewalRow) : TaskBudgetRenewal where
  id := r.id
  taskId := r.taskId
  amount := r.amount
  contractRevision := r.contractRevision
  idempotencyKey := r.idempotencyKey

/-- The table as the budget arithmetic reads it. -/
def capacities (t : Table RenewalRow RenewalRow.id) :
    Table TaskBudgetRenewal TaskBudgetRenewal.id where
  rows := t.rows.map RenewalRow.capacity
  nodup := by
    rw [List.map_map, show TaskBudgetRenewal.id ∘ RenewalRow.capacity = RenewalRow.id from rfl]
    exact t.nodup

/-- The store with its renewal rows in full. -/
structure RenewalLedger where
  store : Trajectory
  renewals : Table RenewalRow RenewalRow.id
  agrees : store.budget.renewals = capacities renewals

inductive RenewalOutcome where
  | granted (renewal : RenewalRow)
  | alreadyGranted (renewal : RenewalRow)
  | refused (reason : RenewalRefusal)
  | noBudget
  deriving DecidableEq, Repr

/-- What the budget arithmetic reads of an outcome. -/
def RenewalOutcome.capacity : RenewalOutcome → GrantRenewalOutcome
  | .granted renewal => .granted renewal.capacity
  | .alreadyGranted renewal => .alreadyGranted renewal.capacity
  | .refused reason => .refused reason
  | .noBudget => .noBudget

/-! ## The gates' reads -/

namespace Trajectory

/-- The revisions of a task's contract. -/
def contractRevisions (s : Trajectory) (taskId : TaskId) : List Nat :=
  (s.contracts.rows.filter fun c => c.taskId = taskId).map fun c => c.contract.revision

/-- The authoritative terminal attestations of a task, as the gates read them. -/
def terminalAttestations (s : Trajectory) (taskId : TaskId) : List OutcomeAttestation :=
  s.attestations.rows.filterMap fun a =>
    if a.taskId = taskId ∧ a.authoritative = true then
      a.outcome.terminalKind.map fun kind => ⟨a.contractRevision, kind⟩
    else none

def taskEvidence (s : Trajectory) (taskId : TaskId) : TaskEvidence where
  contractRevisions := s.contractRevisions taskId
  attestations := s.terminalAttestations taskId

end Trajectory

namespace RenewalLedger

/-- The grants of a task, oldest first. -/
def grants (s : RenewalLedger) (taskId : TaskId) : List RenewalRow :=
  s.renewals.rows.filter fun r => r.taskId = taskId

/-- The row a grant writes. -/
def grantRow (s : RenewalLedger) (taskId : TaskId) (budget : TaskBudget) (req : AuthorizedRequest)
    (status : BlockingStatus) (now : OffsetDateTime) (fresh : RenewalId) : RenewalRow where
  id := fresh
  taskId := taskId
  amount := req.request.amount.value
  authority := req.authority
  contractRevision := req.request.contractRevision
  reason := req.reason
  idempotencyKey := req.request.idempotencyKey
  settledAtGrant := s.store.budget.settled taskId
  activeAtGrant := s.store.budget.active taskId
  effectiveBefore := budget.effectiveHardLimit (s.store.budget.renewedCapacity taskId)
  effectiveAfter :=
    budget.effectiveHardLimit (s.store.budget.renewedCapacity taskId) + req.request.amount.value
  quotaStatusAtGrant := status
  schemaVersion := TASK_BUDGET_RENEWAL_SCHEMA_VERSION
  grantedAt := now

/-- The ledger with a table of renewals. -/
def withRenewals (s : RenewalLedger) (renewals : Table RenewalRow RenewalRow.id) : RenewalLedger where
  store := { s.store with budget := { s.store.budget with renewals := capacities renewals } }
  renewals := renewals
  agrees := rfl

def grantRenewal (s : RenewalLedger) (taskId : TaskId) (req : AuthorizedRequest)
    (status : BlockingStatus) (now : OffsetDateTime) (fresh : RenewalId) :
    Except TaskLedgerError (RenewalOutcome × RenewalLedger) := do
  match s.store.budget.taskBudget taskId with
  | none => return (.noBudget, s)
  | some budget =>
  match s.renewals.rows.find? fun r =>
      r.taskId = taskId ∧ r.idempotencyKey = req.request.idempotencyKey with
  | some existing => return (.alreadyGranted existing, s)
  | none =>
  match s.store.budget.renewalRefusal taskId budget req.request status
      (s.store.taskEvidence taskId) with
  | some reason => return (.refused reason, s)
  | none =>
  let _ ← lift (rfc3339 now)
  let row := s.grantRow taskId budget req status now fresh
  -- The table checks `amount > 0`.
  if row.amount ≤ 0 then throw (.ledger .constraint)
  else
  match s.renewals.insert? row with
  | none => throw (.ledger .constraint)
  | some renewals => return (.granted row, s.withRenewals renewals)

/-! ## The two tables -/

theorem rows_eq (s : RenewalLedger) :
    s.store.budget.renewals.rows = s.renewals.rows.map RenewalRow.capacity := by
  rw [s.agrees]
  rfl

theorem find?_capacity (rows : List RenewalRow) (p : TaskBudgetRenewal → Bool) :
    (rows.map RenewalRow.capacity).find? p =
      (rows.find? fun r => p r.capacity).map RenewalRow.capacity := by
  rw [List.find?_map]
  rfl

theorem insert?_capacity (t : Table RenewalRow RenewalRow.id) (row : RenewalRow) :
    (capacities t).insert? row.capacity = (t.insert? row).map capacities := by
  have ids : (capacities t).rows.map TaskBudgetRenewal.id = t.rows.map RenewalRow.id := by
    show (t.rows.map RenewalRow.capacity).map TaskBudgetRenewal.id = _
    rw [List.map_map]
    rfl
  cases done : t.insert? row with
  | none =>
      unfold Table.insert? at done ⊢
      split at done
      · rename_i taken
        rw [dif_pos]
        · rfl
        · rw [ids]
          exact taken
      · cases done
  | some u =>
      obtain ⟨free, rows⟩ := (Table.insert?_eq_some_iff t u row).mp done
      refine (Table.insert?_eq_some_iff _ _ _).mpr ⟨?_, ?_⟩
      · rw [Table.find?_eq_none_iff] at free ⊢
        intro r mem same
        obtain ⟨r', mem', rfl⟩ := List.mem_map.mp mem
        exact free r' mem' same
      · show u.rows.map RenewalRow.capacity = t.rows.map RenewalRow.capacity ++ [row.capacity]
        rw [rows, List.map_append]
        rfl

/-- A grant of the full rows is the grant the task ledger makes. -/
theorem grantRenewal_ledger (s : RenewalLedger) (taskId : TaskId) (req : AuthorizedRequest)
    (status : BlockingStatus) (now : OffsetDateTime) (fresh : RenewalId) :
    s.store.budget.grantRenewal taskId req.request status (s.store.taskEvidence taskId) now fresh =
      (s.grantRenewal taskId req status now fresh).map
        fun done => (done.1.capacity, done.2.store.budget) := by
  unfold grantRenewal TaskLedger.grantRenewal
  cases s.store.budget.taskBudget taskId with
  | none => rfl
  | some budget =>
      have found : s.store.budget.renewals.rows.find? (fun r =>
          decide (r.taskId = taskId ∧ r.idempotencyKey = req.request.idempotencyKey)) =
          (s.renewals.rows.find? fun r =>
            decide (r.taskId = taskId ∧ r.idempotencyKey = req.request.idempotencyKey)).map
              RenewalRow.capacity := by
        rw [rows_eq]
        exact find?_capacity _ _
      simp only [found]
      cases s.renewals.rows.find? fun r =>
          decide (r.taskId = taskId ∧ r.idempotencyKey = req.request.idempotencyKey) with
      | some existing => rfl
      | none =>
          simp only [Option.map_none]
          cases s.store.budget.renewalRefusal taskId budget req.request status
              (s.store.taskEvidence taskId) with
          | some reason => rfl
          | none =>
              simp only
              cases lift (rfc3339 now) with
              | error e => rfl
              | ok stamp =>
                  have inserted := insert?_capacity s.renewals
                    (s.grantRow taskId budget req status now fresh)
                  rw [← s.agrees] at inserted
                  by_cases positive : req.request.amount.value ≤ 0
                  · simp [positive, grantRow, bind, Except.bind, Except.map, throw, throwThe,
                      MonadExceptOf.throw]
                  · simp only [bind, Except.bind, positive, if_false, grantRow]
                    simp only [grantRow, RenewalRow.capacity] at inserted
                    rw [inserted]
                    cases s.renewals.insert? _ with
                    | none => rfl
                    | some renewals => rfl

end RenewalLedger

/-! ## What a task's evidence should say -/

namespace Trajectory

/-- The revision in force, the greatest one; `none` when the task has no contract yet. -/
def IsCurrent (s : Trajectory) (taskId : TaskId) : Option Nat → Prop
  | some revision =>
      IsGreatest {r | ∃ c ∈ s.contracts, c.taskId = taskId ∧ c.contract.revision = r} revision
  | none => ∀ c ∈ s.contracts, c.taskId ≠ taskId

/-- An authoritative terminal attestation of a task. -/
def Claims (s : Trajectory) (taskId : TaskId) (a : AttestationRow) : Prop :=
  a ∈ s.attestations ∧ a.taskId = taskId ∧ a.authoritative = true ∧ a.outcome.terminalKind ≠ none

/-- Nothing recorded says that the task is finished at the revision, or might be. -/
structure Unfinished (s : Trajectory) (taskId : TaskId) (revision : Option Nat) : Prop where
  open_ : ∀ a, s.Claims taskId a → a.contractRevision = revision →
    a.outcome.terminalKind ≠ some .completed
  agreed : ∀ a b, s.Claims taskId a → s.Claims taskId b → a.contractRevision = revision →
    b.contractRevision = revision → a.outcome.terminalKind = b.outcome.terminalKind
  unbound : ∀ a, s.Claims taskId a → a.contractRevision = none →
    a.outcome.terminalKind ≠ some .completed

section Evidence

variable {s : Trajectory} {taskId : TaskId}

theorem mem_contractRevisions {revision : Nat} :
    revision ∈ s.contractRevisions taskId ↔
      ∃ c ∈ s.contracts, c.taskId = taskId ∧ c.contract.revision = revision := by
  simp [contractRevisions, and_assoc]

theorem currentRevision_isCurrent : s.IsCurrent taskId (s.taskEvidence taskId).currentRevision := by
  show s.IsCurrent taskId (s.contractRevisions taskId).max?
  cases found : (s.contractRevisions taskId).max? with
  | none =>
      rw [List.max?_eq_none_iff] at found
      intro c mem same
      have listed := mem_contractRevisions.mpr ⟨c, mem, same, rfl⟩
      rw [found] at listed
      exact List.not_mem_nil listed
  | some revision =>
      obtain ⟨mem, bound⟩ := List.max?_eq_some_iff.mp found
      refine ⟨mem_contractRevisions.mp mem, ?_⟩
      intro r there
      exact bound r (mem_contractRevisions.mpr there)

theorem mem_terminalAttestations {o : OutcomeAttestation} :
    o ∈ s.terminalAttestations taskId ↔
      ∃ a, s.Claims taskId a ∧ a.contractRevision = o.contractRevision ∧
        a.outcome.terminalKind = some o.outcomeKind := by
  simp only [terminalAttestations, List.mem_filterMap, Table.mem_rows]
  constructor
  · rintro ⟨a, mem, read⟩
    split at read
    · rename_i here
      obtain ⟨kind, claimed, rfl⟩ := Option.map_eq_some_iff.mp read
      exact ⟨a, ⟨mem, here.1, here.2, by simp [claimed]⟩, rfl, claimed⟩
    · cases read
  · rintro ⟨a, ⟨mem, same, authoritative, -⟩, revision, claimed⟩
    refine ⟨a, mem, ?_⟩
    rw [if_pos ⟨same, authoritative⟩, claimed, revision]
    rfl

theorem mem_terminalKinds {revision : Option Nat} {kind : OutcomeKind} :
    kind ∈ (s.taskEvidence taskId).terminalKinds revision ↔
      ∃ a, s.Claims taskId a ∧ a.contractRevision = revision ∧
        a.outcome.terminalKind = some kind := by
  simp only [TaskEvidence.terminalKinds, List.mem_dedup, List.mem_map, List.mem_filter,
    decide_eq_true_eq]
  show (∃ o, (o ∈ s.terminalAttestations taskId ∧ _) ∧ _) ↔ _
  simp only [mem_terminalAttestations]
  constructor
  · rintro ⟨o, ⟨⟨a, claims, bound, claimed⟩, rfl⟩, rfl⟩
    exact ⟨a, claims, bound, claimed⟩
  · rintro ⟨a, claims, bound, claimed⟩
    exact ⟨⟨revision, kind⟩, ⟨⟨a, claims, bound, claimed⟩, rfl⟩, rfl⟩

end Evidence

end Trajectory

/-! ## The gates -/

namespace TaskLedger

/-- What a request has passed when no gate refused it. -/
structure Passes (s : TaskLedger) (taskId : TaskId) (budget : TaskBudget) (request : RenewalRequest)
    (evidence : TaskEvidence) (bound : RenewalBound) : Prop where
  renewal : budget.policy.renewal = some bound
  count : (s.renewals.rows.filter fun r => r.taskId = taskId).length < bound.maxRenewals
  ceiling : budget.effectiveHardLimit (s.renewedCapacity taskId) + request.amount.value ≤
    bound.lifetimeCeiling.value
  revision : ∀ current, evidence.currentRevision = some current → request.contractRevision = current
  agreed : (evidence.terminalKinds evidence.currentRevision).length ≤ 1
  open_ : .completed ∉ evidence.terminalKinds evidence.currentRevision
  unbound : evidence.unboundLegacyCompletion = false

theorem renewalRefusal_eq_none {s : TaskLedger} {taskId : TaskId} {budget : TaskBudget}
    {request : RenewalRequest} {status : BlockingStatus} {evidence : TaskEvidence}
    (passed : s.renewalRefusal taskId budget request status evidence = none) :
    ∃ bound, s.Passes taskId budget request evidence bound := by
  unfold renewalRefusal at passed
  split at passed
  · cases passed
  split at passed
  · cases passed
  rename_i bound renewal
  simp only at passed
  split at passed
  · cases passed
  rename_i count
  split at passed
  · cases passed
  split at passed
  · cases passed
  rename_i ceiling
  split at passed
  · cases passed
  split at passed
  · cases passed
  rename_i revision
  split at passed
  · cases passed
  rename_i agreed
  split at passed
  · cases passed
  rename_i open_
  split at passed
  · cases passed
  rename_i unbound
  refine ⟨bound, renewal, Nat.lt_of_not_le count, Int.not_lt.mp ceiling, ?_, Nat.le_of_not_lt agreed,
    open_, Bool.eq_false_iff.mpr unbound⟩
  intro current found
  by_contra other
  rw [found, Option.filter_some, if_pos (decide_eq_true other)] at revision
  cases revision

end TaskLedger

theorem eq_of_length_le_one {α : Type} {xs : List α} {a b : α} (short : xs.length ≤ 1) (mem : a ∈ xs)
    (mem' : b ∈ xs) : a = b := by
  match xs, short with
  | [x], _ => rw [List.mem_singleton.mp mem, List.mem_singleton.mp mem']

theorem Trajectory.unfinished_of_passes {s : Trajectory} {taskId : TaskId} {b : TaskLedger}
    {budget : TaskBudget} {request : RenewalRequest} {bound : RenewalBound}
    (passes : b.Passes taskId budget request (s.taskEvidence taskId) bound) :
    s.Unfinished taskId (s.taskEvidence taskId).currentRevision where
  open_ := by
    intro a claims here completed
    exact passes.open_ (mem_terminalKinds.mpr ⟨a, claims, here, completed⟩)
  agreed := by
    intro a a' claims claims' here here'
    obtain ⟨kind, claimed⟩ := Option.ne_none_iff_exists'.mp claims.2.2.2
    obtain ⟨kind', claimed'⟩ := Option.ne_none_iff_exists'.mp claims'.2.2.2
    rw [claimed, claimed']
    have mem := mem_terminalKinds.mpr ⟨a, claims, here, claimed⟩
    have mem' := mem_terminalKinds.mpr ⟨a', claims', here', claimed'⟩
    exact congrArg some (eq_of_length_le_one passes.agreed mem mem')
  unbound := by
    intro a claims legacy completed
    cases current : (s.taskEvidence taskId).currentRevision with
    | none => exact passes.open_ (mem_terminalKinds.mpr ⟨a, claims, by rw [current, legacy], completed⟩)
    | some revision =>
        have none := passes.unbound
        have found : (s.taskEvidence taskId).unboundLegacyCompletion = true := by
          simp only [TaskEvidence.unboundLegacyCompletion, current, Option.isSome_some, Bool.true_and,
            List.any_eq_true, decide_eq_true_eq]
          exact ⟨⟨Option.none, .completed⟩, mem_terminalAttestations.mpr ⟨a, claims, legacy, completed⟩, rfl, rfl⟩
        rw [found] at none
        cases none

/-- A validated bound starts at the hard ceiling or above it. -/
theorem validateRenewal_ceiling {r : ResourceBound} {bound : RenewalBound}
    (checked : validateRenewal r bound = .ok ()) :
    r.hardCeiling.value ≤ bound.lifetimeCeiling.value := by
  unfold validateRenewal at checked
  split at checked
  · cases checked
  split at checked
  · cases checked
  split at checked
  · cases checked
  rename_i enough
  exact Int.not_lt.mp enough

/-! ## One grant -/

namespace RenewalLedger

section Grant

variable {s s' : RenewalLedger} {taskId : TaskId} {req : AuthorizedRequest} {status : BlockingStatus}
  {now : OffsetDateTime} {fresh : RenewalId} {out : RenewalOutcome}

/-- A call is answered without a write, or its row is new, positive and past every gate. -/
theorem grantRenewal_ok (done : s.grantRenewal taskId req status now fresh = .ok (out, s')) :
    (s' = s ∧ ∀ row, out ≠ .granted row) ∨
    ∃ budget bound renewals, s.store.budget.taskBudget taskId = some budget ∧
      (∀ r ∈ s.grants taskId, r.idempotencyKey ≠ req.request.idempotencyKey) ∧
      s.store.budget.Passes taskId budget req.request (s.store.taskEvidence taskId) bound ∧
      0 < req.request.amount.value ∧
      s.renewals.insert? (s.grantRow taskId budget req status now fresh) = some renewals ∧
      out = .granted (s.grantRow taskId budget req status now fresh) ∧ s' = s.withRenewals renewals := by
  unfold grantRenewal at done
  split at done
  · cases done
    exact .inl ⟨rfl, fun row same => by cases same⟩
  rename_i budget stored
  split at done
  · cases done
    exact .inl ⟨rfl, fun row same => by cases same⟩
  rename_i unseen
  split at done
  · cases done
    exact .inl ⟨rfl, fun row same => by cases same⟩
  rename_i passed
  simp only [bind_eq_ok_iff, lift_eq_ok_iff] at done
  obtain ⟨_, -, done⟩ := done
  split at done
  · cases done
  rename_i positive
  split at done
  · cases done
  rename_i renewals inserted
  cases done
  obtain ⟨bound, passes⟩ := renewalRefusal_eq_none passed
  refine .inr ⟨budget, bound, renewals, stored, ?_, passes, Int.not_le.mp positive, inserted, rfl, rfl⟩
  intro r mem same
  obtain ⟨listed, here⟩ := List.mem_filter.mp mem
  refine absurd (decide_eq_true ?_) (List.find?_eq_none.mp unseen r listed)
  exact ⟨of_decide_eq_true here, same⟩

theorem mem_of_lookup {key : String} {row : RenewalRow}
    (found : (s.renewals.rows.find? fun r => decide (r.taskId = taskId ∧ r.idempotencyKey = key)) =
      some row) : row ∈ s.grants taskId ∧ row.idempotencyKey = key := by
  have here : row.taskId = taskId ∧ row.idempotencyKey = key := by simpa using List.find?_some found
  exact ⟨List.mem_filter.mpr ⟨List.mem_of_find?_eq_some found, decide_eq_true here.1⟩, here.2⟩

/-- What an `alreadyGranted` answer returns is stored. -/
theorem grantRenewal_alreadyGranted {row : RenewalRow}
    (done : s.grantRenewal taskId req status now fresh = .ok (.alreadyGranted row, s')) :
    row ∈ s.grants taskId ∧ row.idempotencyKey = req.request.idempotencyKey := by
  unfold grantRenewal at done
  split at done
  · cases done
  split at done
  · rename_i existing found
    cases done
    exact mem_of_lookup found
  split at done
  · cases done
  simp only [bind_eq_ok_iff, lift_eq_ok_iff] at done
  obtain ⟨_, -, done⟩ := done
  split at done
  · cases done
  split at done
  · cases done
  · cases done

/-- A stored key is answered with its row, whatever the rest of the request says. -/
theorem grantRenewal_replay {budget : TaskBudget} {row : RenewalRow}
    (stored : s.store.budget.taskBudget taskId = some budget)
    (once : ((s.grants taskId).map RenewalRow.idempotencyKey).Nodup) (mem : row ∈ s.grants taskId)
    (same : row.idempotencyKey = req.request.idempotencyKey) :
    s.grantRenewal taskId req status now fresh = .ok (.alreadyGranted row, s) := by
  have found : (s.renewals.rows.find? fun r =>
      decide (r.taskId = taskId ∧ r.idempotencyKey = req.request.idempotencyKey)) = some row := by
    cases found : s.renewals.rows.find? fun r =>
        decide (r.taskId = taskId ∧ r.idempotencyKey = req.request.idempotencyKey) with
    | none =>
        obtain ⟨listed, here⟩ := List.mem_filter.mp mem
        refine absurd (decide_eq_true ?_) (List.find?_eq_none.mp found row listed)
        exact ⟨of_decide_eq_true here, same⟩
    | some other =>
        obtain ⟨mem', same'⟩ := mem_of_lookup found
        rw [List.inj_on_of_nodup_map once mem' mem (same'.trans same.symm)]
  unfold grantRenewal
  rw [stored]
  simp only [found]
  rfl

variable {renewals : Table RenewalRow RenewalRow.id} {row : RenewalRow}

theorem grants_withRenewals (inserted : s.renewals.insert? row = some renewals) (other : TaskId) :
    (s.withRenewals renewals).grants other =
      s.grants other ++ if row.taskId = other then [row] else [] := by
  show renewals.rows.filter _ = _
  rw [((Table.insert?_eq_some_iff _ _ _).mp inserted).2, List.filter_append, List.filter_singleton]
  by_cases here : row.taskId = other
  · simp [here, grants]
  · simp [here, grants]

theorem renewedCapacity_withRenewals (inserted : s.renewals.insert? row = some renewals)
    (other : TaskId) :
    (s.withRenewals renewals).store.budget.renewedCapacity other =
      s.store.budget.renewedCapacity other + if row.taskId = other then row.amount else 0 := by
  have inserted' := insert?_capacity s.renewals row
  rw [inserted, ← s.agrees] at inserted'
  exact Table.sum_insert? inserted' _

end Grant

/-! ## Runs -/

end RenewalLedger

section Frame

variable (s : Trajectory)

theorem Trajectory.promoteFor_budget (push : AttestationPush) (revision : Option Nat) :
    (s.promoteFor push revision).2.budget = s.budget := by
  unfold promoteFor
  split
  · rfl
  · split
    · split
      · rfl
      · rfl
    · rfl

theorem Trajectory.budget_recordOutcomeAttestation (push : AttestationPush) :
    (commit s (s.recordOutcomeAttestation push)).budget = s.budget := by
  cases done : s.recordOutcomeAttestation push with
  | error e => rfl
  | ok result =>
      obtain ⟨out, s'⟩ := result
      obtain ⟨rfl, -⟩ | ⟨revision, attestations, updated, -, -, -, rfl⟩ :=
        recordOutcomeAttestation_ok done
      · rfl
      · exact promoteFor_budget _ push revision

theorem Trajectory.budget_insertContract (taskId : TaskId) (contract : CompletionContract)
    (now : OffsetDateTime) : (commit s (s.insertContract taskId contract now)).budget = s.budget := by
  cases done : s.insertContract taskId contract now with
  | error e => rfl
  | ok result =>
      simp only [insertContract, bind_eq_ok_iff] at done
      obtain ⟨_, -, contracts, -, done⟩ := done
      cases done
      rfl

end Frame

namespace RenewalLedger

/-- The ledger with a store that has the same budgets. -/
def onStore (s : RenewalLedger) (store : Trajectory) (same : store.budget = s.store.budget) :
    RenewalLedger where
  store := store
  renewals := s.renewals
  agrees := by rw [same]; exact s.agrees

end RenewalLedger

inductive RenewalOp where
  | grantRenewal (taskId : TaskId) (req : AuthorizedRequest) (status : BlockingStatus)
      (now : OffsetDateTime) (fresh : RenewalId)
  | recordOutcomeAttestation (push : AttestationPush)
  | insertContract (taskId : TaskId) (contract : CompletionContract) (now : OffsetDateTime)

def RenewalOp.apply (s : RenewalLedger) : RenewalOp → RenewalLedger
  | .grantRenewal taskId req status now fresh =>
      commit s (s.grantRenewal taskId req status now fresh)
  | .recordOutcomeAttestation push =>
      s.onStore _ (s.store.budget_recordOutcomeAttestation push)
  | .insertContract taskId contract now =>
      s.onStore _ (s.store.budget_insertContract taskId contract now)

/-- Grants that lead from one limit to another, each from where the one before it ended. -/
def InSequence : Int → List RenewalRow → Int → Prop
  | before, [], after => before = after
  | before, r :: rs, after =>
      r.effectiveBefore = before ∧ r.effectiveAfter = before + r.amount ∧ 0 < r.amount ∧
        InSequence r.effectiveAfter rs after

theorem InSequence.concat {before limit : Int} {rows : List RenewalRow} {row : RenewalRow}
    (chained : InSequence before rows limit) (starts : row.effectiveBefore = limit)
    (ends : row.effectiveAfter = limit + row.amount) (positive : 0 < row.amount) :
    InSequence before (rows ++ [row]) row.effectiveAfter := by
  induction rows generalizing before with
  | nil =>
      cases chained
      exact ⟨starts, ends, positive, rfl⟩
  | cons r rows ih => exact ⟨chained.1, chained.2.1, chained.2.2.1, ih chained.2.2.2⟩

theorem InSequence.isChain {before limit : Int} {rows : List RenewalRow}
    (chained : InSequence before rows limit) :
    rows.IsChain fun earlier later => later.effectiveBefore = earlier.effectiveAfter := by
  induction rows generalizing before with
  | nil => exact .nil
  | cons r rows ih =>
      cases rows with
      | nil => exact .singleton r
      | cons r' rows => exact .cons_cons chained.2.2.2.1 (ih chained.2.2.2)

namespace RenewalLedger

/-- The task's limit with what it was granted. -/
def effectiveHardLimit (s : RenewalLedger) (taskId : TaskId) (budget : TaskBudget) : Int :=
  budget.effectiveHardLimit (s.store.budget.renewedCapacity taskId)

/-- What holds of a task's grants: they lead from the hard limit to the effective one, one
to a key, and stay within the policy's bound. -/
structure Granting (budget : TaskBudget) (taskId : TaskId) (s : RenewalLedger) : Prop where
  stored : s.store.budget.taskBudget taskId = some budget
  chained : InSequence budget.hardLimit (s.grants taskId) (s.effectiveHardLimit taskId budget)
  once : ((s.grants taskId).map RenewalRow.idempotencyKey).Nodup
  count : (s.grants taskId).length ≤ (budget.policy.renewal.map RenewalBound.maxRenewals).getD 0
  limit : ∀ bound, budget.policy.renewal = some bound →
    s.effectiveHardLimit taskId budget ≤ max budget.hardLimit bound.lifetimeCeiling.value

section Steps

variable {s : RenewalLedger} {taskId : TaskId} {budget : TaskBudget}

theorem length_grants : (s.grants taskId).length =
    (s.store.budget.renewals.rows.filter fun r => r.taskId = taskId).length := by
  rw [rows_eq, List.filter_map, List.length_map]
  rfl

/-- A task without grants has its hard limit. -/
theorem Granting.start (stored : s.store.budget.taskBudget taskId = some budget)
    (none : s.grants taskId = []) : Granting budget taskId s := by
  have nothing : s.store.budget.renewedCapacity taskId = 0 := by
    refine Table.sum_eq_zero _ ?_
    intro r mem
    rw [← Table.mem_rows, rows_eq] at mem
    obtain ⟨row, listed, rfl⟩ := List.mem_map.mp mem
    refine if_neg ?_
    intro here
    have mem' : row ∈ s.grants taskId := List.mem_filter.mpr ⟨listed, decide_eq_true here⟩
    rw [none] at mem'
    exact List.not_mem_nil mem'
  have limit : s.effectiveHardLimit taskId budget = budget.hardLimit := by
    show budget.hardLimit + s.store.budget.renewedCapacity taskId = budget.hardLimit
    omega
  refine ⟨stored, ?_, ?_, ?_, ?_⟩
  · rw [none, limit]
    rfl
  · rw [none]
    exact List.nodup_nil
  · rw [none]
    exact Nat.zero_le _
  · intro bound _
    rw [limit]
    exact le_max_left _ _

/-- What other tables hold does not matter to the grants. -/
theorem Granting.onStore (inv : Granting budget taskId s) {store : Trajectory}
    (same : store.budget = s.store.budget) : Granting budget taskId (s.onStore store same) := by
  have limit : (s.onStore store same).effectiveHardLimit taskId budget =
      s.effectiveHardLimit taskId budget := by
    show budget.effectiveHardLimit (store.budget.renewedCapacity taskId) = _
    rw [same]
    rfl
  refine ⟨?_, ?_, inv.once, inv.count, ?_⟩
  · show store.budget.taskBudget taskId = some budget
    rw [same]
    exact inv.stored
  · rw [limit]
    exact inv.chained
  · rw [limit]
    exact inv.limit

/-- A grant to any task keeps the grants of this one in order. -/
theorem Granting.grantRenewal {s' : RenewalLedger} {other : TaskId} {req : AuthorizedRequest}
    {status : BlockingStatus} {now : OffsetDateTime} {fresh : RenewalId} {out : RenewalOutcome}
    (inv : Granting budget taskId s)
    (done : s.grantRenewal other req status now fresh = .ok (out, s')) :
    Granting budget taskId s' := by
  obtain ⟨rfl, -⟩ | ⟨budget', bound, renewals, stored, unseen, passes, positive, inserted, -, rfl⟩ :=
    grantRenewal_ok done
  · exact inv
  have grants := grants_withRenewals inserted taskId
  have capacity := renewedCapacity_withRenewals inserted taskId
  have row : (s.grantRow other budget' req status now fresh).taskId = other := rfl
  rw [row] at grants capacity
  by_cases here : other = taskId
  · subst here
    rw [if_pos rfl] at grants capacity
    have same := stored.symm.trans inv.stored
    cases same
    have limit : (s.withRenewals renewals).effectiveHardLimit other budget =
        (s.grantRow other budget req status now fresh).effectiveAfter := by
      show budget.hardLimit + (s.withRenewals renewals).store.budget.renewedCapacity other =
        budget.hardLimit + s.store.budget.renewedCapacity other + req.request.amount.value
      rw [capacity, ← Int.add_assoc]
      rfl
    refine ⟨inv.stored, ?_, ?_, ?_, ?_⟩
    · rw [grants, limit]
      exact inv.chained.concat rfl rfl positive
    · rw [grants, List.map_append, List.nodup_append]
      refine ⟨inv.once, List.nodup_singleton _, ?_⟩
      intro key mem key' mem' same
      obtain ⟨r, listed, rfl⟩ := List.mem_map.mp mem
      rw [List.map_singleton, List.mem_singleton] at mem'
      exact unseen r listed (same.trans mem')
    · rw [grants, List.length_append, passes.renewal, length_grants]
      exact passes.count
    · intro bound' found
      cases passes.renewal.symm.trans found
      rw [limit]
      exact le_trans passes.ceiling (le_max_right _ _)
  · rw [if_neg here, List.append_nil] at grants
    rw [if_neg here, Int.add_zero] at capacity
    have limit : (s.withRenewals renewals).effectiveHardLimit taskId budget =
        s.effectiveHardLimit taskId budget := by
      show budget.effectiveHardLimit _ = _
      rw [capacity]
      rfl
    refine ⟨inv.stored, ?_, ?_, ?_, ?_⟩
    · rw [grants, limit]
      exact inv.chained
    · rw [grants]
      exact inv.once
    · rw [grants]
      exact inv.count
    · rw [limit]
      exact inv.limit

theorem Granting.apply (op : RenewalOp) (inv : Granting budget taskId s) :
    Granting budget taskId (op.apply s) := by
  cases op with
  | grantRenewal other req status now fresh =>
      show Granting budget taskId (commit s (s.grantRenewal other req status now fresh))
      cases done : s.grantRenewal other req status now fresh with
      | error e => exact inv
      | ok result => exact inv.grantRenewal done
  | recordOutcomeAttestation push => exact inv.onStore (s.store.budget_recordOutcomeAttestation push)
  | insertContract other contract now =>
      exact inv.onStore (s.store.budget_insertContract other contract now)

theorem renewedCapacity_le_apply (s : RenewalLedger) (op : RenewalOp) (taskId : TaskId) :
    s.store.budget.renewedCapacity taskId ≤ (op.apply s).store.budget.renewedCapacity taskId := by
  cases op with
  | grantRenewal other req status now fresh =>
      show _ ≤ (commit s (s.grantRenewal other req status now fresh)).store.budget.renewedCapacity taskId
      cases done : s.grantRenewal other req status now fresh with
      | error e => exact le_refl _
      | ok result =>
          obtain ⟨out, s'⟩ := result
          obtain ⟨rfl, -⟩ | ⟨budget, bound, renewals, -, -, -, positive, inserted, -, rfl⟩ :=
            grantRenewal_ok done
          · exact le_refl _
          · rw [commit_ok, renewedCapacity_withRenewals inserted]
            have amount : (s.grantRow other budget req status now fresh).amount =
              req.request.amount.value := rfl
            split
            · omega
            · omega
  | recordOutcomeAttestation push =>
      show _ ≤ (commit s.store (s.store.recordOutcomeAttestation push)).budget.renewedCapacity taskId
      rw [Trajectory.budget_recordOutcomeAttestation]
  | insertContract other contract now =>
      show _ ≤ (commit s.store (s.store.insertContract other contract now)).budget.renewedCapacity taskId
      rw [Trajectory.budget_insertContract]

end Steps

/-- What one call may answer in a ledger. -/
def Answered (s : RenewalLedger) (taskId : TaskId) (req : AuthorizedRequest) :
    Except TaskLedgerError (RenewalOutcome × RenewalLedger) → Prop
  | .ok (.granted row, s') =>
      (∃ current, s.store.IsCurrent taskId current ∧ s.store.Unfinished taskId current ∧
        ∀ revision, current = some revision → req.request.contractRevision = revision) ∧
      row.amount = req.request.amount.value ∧ row.idempotencyKey = req.request.idempotencyKey ∧
      (∀ r ∈ s.grants taskId, r.idempotencyKey ≠ req.request.idempotencyKey) ∧
      s'.grants taskId = s.grants taskId ++ [row]
  | .ok (.alreadyGranted row, s') =>
      row ∈ s.grants taskId ∧ row.idempotencyKey = req.request.idempotencyKey ∧ s' = s
  | .ok (_, s') => s' = s
  | .error _ => True

theorem grantRenewal_answered (s : RenewalLedger) (taskId : TaskId) (req : AuthorizedRequest)
    (status : BlockingStatus) (now : OffsetDateTime) (fresh : RenewalId) :
    s.Answered taskId req (s.grantRenewal taskId req status now fresh) := by
  cases done : s.grantRenewal taskId req status now fresh with
  | error e => trivial
  | ok result =>
      obtain ⟨out, s'⟩ := result
      obtain ⟨rfl, quiet⟩ | ⟨budget, bound, renewals, -, unseen, passes, positive, inserted, rfl, rfl⟩ :=
        grantRenewal_ok done
      · cases out with
        | granted row => exact absurd rfl (quiet row)
        | alreadyGranted row =>
            obtain ⟨mem, same⟩ := grantRenewal_alreadyGranted done
            exact ⟨mem, same, rfl⟩
        | refused reason => exact rfl
        | noBudget => exact rfl
      · refine ⟨⟨_, Trajectory.currentRevision_isCurrent, Trajectory.unfinished_of_passes passes, ?_⟩,
          rfl, rfl, unseen, ?_⟩
        · intro revision current
          exact passes.revision revision current
        · rw [grants_withRenewals inserted]
          exact congrArg (s.grants taskId ++ ·) (if_pos rfl)

end RenewalLedger

/-- In every run the renewals of a task stay within its validated policy and lead from one
limit to the next, and none is granted to a task that may be finished; a key is granted
once, and answered with its grant from then on. -/
theorem renewals_bounded {s : RenewalLedger} {taskId : TaskId} {budget : TaskBudget}
    {p : AdmissionPolicy} (stored : s.store.budget.taskBudget taskId = some budget)
    (policy : budget.policy = p.ledger) (valid : p.Validated) (none : s.grants taskId = [])
    (ops : List RenewalOp) :
    (run RenewalOp.apply s ops).Granting budget taskId ∧
    (((run RenewalOp.apply s ops).grants taskId).IsChain fun earlier later =>
      later.effectiveBefore = earlier.effectiveAfter) ∧
    (∀ bound, budget.policy.renewal = some bound → budget.hardLimit ≤ p.resource.hardCeiling.value →
      (run RenewalOp.apply s ops).effectiveHardLimit taskId budget ≤ bound.lifetimeCeiling.value) ∧
    (∀ more, (run RenewalOp.apply s ops).store.budget.renewedCapacity taskId ≤
      (run RenewalOp.apply s (ops ++ more)).store.budget.renewedCapacity taskId) ∧
    ∀ req status now fresh,
      (run RenewalOp.apply s ops).Answered taskId req
        ((run RenewalOp.apply s ops).grantRenewal taskId req status now fresh) ∧
      ∀ row ∈ (run RenewalOp.apply s ops).grants taskId,
        row.idempotencyKey = req.request.idempotencyKey →
        (run RenewalOp.apply s ops).grantRenewal taskId req status now fresh =
          .ok (.alreadyGranted row, run RenewalOp.apply s ops) := by
  have inv : (run RenewalOp.apply s ops).Granting budget taskId :=
    run_invariant_always (fun _ op inv => inv.apply op) (RenewalLedger.Granting.start stored none) ops
  refine ⟨inv, inv.chained.isChain, ?_, ?_, ?_⟩
  · intro bound found below
    have checked : validateRenewal p.resource bound = .ok () := by
      refine valid.renewal bound ?_
      rw [policy] at found
      exact found
    have ceiling := validateRenewal_ceiling checked
    have limit := inv.limit bound found
    rwa [max_eq_right (le_trans below ceiling)] at limit
  · intro more
    rw [run_append]
    exact run_relates (fun a b => a.store.budget.renewedCapacity taskId ≤ b.store.budget.renewedCapacity taskId)
      (fun _ => le_refl _) (fun _ _ _ => le_trans)
      (fun s op => RenewalLedger.renewedCapacity_le_apply s op taskId) _ more
  · intro req status now fresh
    refine ⟨RenewalLedger.grantRenewal_answered _ taskId req status now fresh, ?_⟩
    intro row mem same
    exact RenewalLedger.grantRenewal_replay inv.stored inv.once mem same

/-! ## Poles -/

/-- A hundred tokens, to be renewed twice at most, up to 150. -/
def renewablePolicy : AdmissionPolicy where
  resource := ⟨.hard, ⟨.tokens, 100⟩, none, ⟨.tokens, 100⟩⟩
  time := ⟨.approval, 3600, none, none, none⟩
  qualityFloor := .first [⟨"done", true⟩]
  minConfidence := .low
  renewal := some ⟨⟨.tokens, 150⟩, 2⟩
  turn := none

def renewableBudget : TaskBudget where
  taskId := attestedTask
  resourceKind := .tokens
  hardLimit := 100
  initialCompletionReserve := 0
  completionReserve := 0
  completionReserveBasis := .policyTarget
  lifetimeScope := .lifetimeBounded
  policy := renewablePolicy.ledger

def renewableStart : RenewalLedger where
  store := { Trajectory.empty with
    tasks := ⟨[attestedTask], by decide⟩
    budget := { TaskLedger.empty with taskBudgets := ⟨[renewableBudget], by decide⟩ } }
  renewals := .empty
  agrees := rfl

def renewalRequest (key : String) (amount : Int) : AuthorizedRequest :=
  ⟨⟨⟨.tokens, amount⟩, 1, key⟩, .operator "ops", "more tests"⟩

/-- One grant of 30, then a claim of completion bound to no plan. -/
def grantedOnce : List RenewalOp :=
  [.grantRenewal attestedTask (renewalRequest "first" 30) .notBlocking 0 ⟨1⟩,
    .recordOutcomeAttestation { attested 1 "ci" 0 with planId := none }]

theorem renewablePolicy_validated : renewablePolicy.Validated where
  resource := rfl
  turn := nofun
  renewal := by
    rintro bound ⟨⟩
    rfl
  nonneg := by decide

theorem renewals_bounded_once :
    ((run RenewalOp.apply renewableStart grantedOnce).grants attestedTask).length = 1 ∧
    (run RenewalOp.apply renewableStart grantedOnce).effectiveHardLimit attestedTask renewableBudget ≤
      150 :=
  ⟨by decide +kernel, (renewals_bounded rfl rfl renewablePolicy_validated rfl grantedOnce).2.2.1
    ⟨⟨.tokens, 150⟩, 2⟩ rfl (by decide)⟩

/-- The second grant is refused: the completion is bound to no revision. -/
example : (((run RenewalOp.apply renewableStart grantedOnce).grantRenewal attestedTask
    (renewalRequest "second" 10) .notBlocking 1 ⟨2⟩).toOption.map Prod.fst) =
      some (.refused .taskAlreadyCompleted) := by
  decide +kernel

end LibraGovernor
