/-
# LibraGovernor.Ledger.Reconcile -- what an account's self-check compares

`accountSpend` adds up the work holds of an account, alone or with every account below it.  The
self-check of an account compares such sums: the subtree with the account and its children
(`subtreeAdditivity`), and the headroom that `available` reports for the account's task with the
account's own spend (`envelopeFormulaCheck`).

The first never disagrees: an account is created below one that is there, so the walk down ends,
and what it adds up is the account's own spend and its children's (`inclusive_eq`).  The second
does.  `available` counts every lease of the task, the other side the work holds of one account: a
funding lease is counted on one side only, and for a child account so is every hold of the task.
They agree exactly when those leases are worth no more than the tolerance
(`reconciliation_agrees_iff`).
-/
import LibraGovernor.Ledger.TaskTransitions
import LibraGovernor.Lib.Generations
import Mathlib.Algebra.Order.Field.Rat
import Mathlib.Algebra.Order.Ring.Abs
import Mathlib.Tactic.NormNum

namespace LibraGovernor

open Relational Transaction Transition

set_option autoImplicit false

/-- Below it two amounts of a kind are treated as reconciled: a cent, a token, a hundredth of a
percent. -/
def ResourceKind.reconciliationEpsilon : ResourceKind → ℚ
  | .usd => 1
  | .tokens => 1
  | .quotaPercent => percentUnit / 100

theorem ResourceKind.reconciliationEpsilon_nonneg (kind : ResourceKind) :
    0 ≤ kind.reconciliationEpsilon := by
  cases kind <;> norm_num [reconciliationEpsilon, percentUnit]

namespace TaskLedger

/-! ## Spend -/

inductive SpendScope where
  | exclusive
  | inclusive
  deriving DecidableEq, Repr

inductive NoSpendBasis where
  | noAccount
  deriving DecidableEq, Repr

inductive SpendSoFar where
  | noBasis (reason : NoSpendBasis)
  | known (kind : ResourceKind) (settled activeHolds : Int) (scope : SpendScope)
      (accountCount : Nat)
  deriving DecidableEq, Repr

section Definitions

variable (s : TaskLedger)

/-- `SUM(settled_amount)` of the account's settled work holds. -/
def workSettled (id : AccountId) : Int :=
  s.reservations.sum fun r =>
    if r.accountId = id ∧ r.leaseKind = .workHold then r.settledPart else 0

/-- `SUM(amount)` of its active ones. -/
def workActive (id : AccountId) : Int :=
  s.reservations.sum fun r =>
    if r.accountId = id ∧ r.leaseKind = .workHold then r.activePart else 0

def childAccountIds (id : AccountId) : List AccountId :=
  (s.resourceAccounts.rows.filter fun a => a.parentAccountId = some id).map (·.accountId)

/-- The recursive query: as many rounds as there are accounts. -/
def subtree (id : AccountId) : List AccountId :=
  Generations.walk s.childAccountIds s.resourceAccounts.rows.length id

def accountSpend (accountId : AccountId) (scope : SpendScope) : SpendSoFar :=
  match s.resourceAccounts.find? accountId with
  | none => .noBasis .noAccount
  | some account =>
      match scope with
      | .exclusive =>
          .known account.resourceKind (s.workSettled accountId) (s.workActive accountId) scope 1
      | .inclusive =>
          let subtree := s.subtree accountId
          .known account.resourceKind (subtree.map s.workSettled).sum
            (subtree.map s.workActive).sum scope subtree.length

/-- The headroom of a class right now. -/
def available (taskId : TaskId) (class_ : ReservationClass) : Option Headroom :=
  match s.taskBudget taskId with
  | none => none
  | some budget =>
      let general := budget.effectiveHardLimit (s.renewedCapacity taskId) - s.settled taskId -
        s.active taskId
      let value :=
        match class_ with
        | .requiredWork => general
        | .optionalWork => general - budget.completionReserve
      some ⟨budget.resourceKind, value⟩

/-! ## The checks -/

inductive CheckId where
  | subtreeAdditivity
  | envelopeFormula
  | gatewayLedgerAgreement
  deriving DecidableEq, Repr

inductive CheckOutcome where
  | reconciled
  | discrepant (delta : Int)
  | notApplicable
  deriving DecidableEq, Repr

structure ReconciliationCheck where
  check : CheckId
  outcome : CheckOutcome
  deriving DecidableEq, Repr

structure Reconciliation where
  checks : List ReconciliationCheck
  allReconciled : Bool
  deriving DecidableEq, Repr

def Reconciliation.fromChecks (checks : List ReconciliationCheck) : Reconciliation where
  checks
  allReconciled := checks.all fun c => c.outcome = .reconciled ∨ c.outcome = .notApplicable

structure Totals where
  exclusive : SpendSoFar
  inclusive : SpendSoFar
  deriving DecidableEq, Repr

/-- Whether two amounts of a kind agree. -/
def compared (kind : ResourceKind) (expected actual : Int) : CheckOutcome :=
  let delta := |expected - actual|
  if (delta : ℚ) ≤ kind.reconciliationEpsilon then .reconciled else .discrepant delta

def subtreeAdditivity (accountId : AccountId) (totals : Totals) : CheckOutcome :=
  match totals.exclusive, totals.inclusive with
  | .known kind exSettled exActive _ _, .known _ incSettled incActive _ _ =>
      let children := s.childAccountIds accountId
      let childInclusiveTotal := (children.map fun child =>
        match s.accountSpend child .inclusive with
        | .known _ settled activeHolds _ _ => settled + activeHolds
        | .noBasis _ => 0).sum
      let expected := exSettled + exActive + childInclusiveTotal
      let actual := incSettled + incActive
      if children.isEmpty then .notApplicable else compared kind expected actual
  | _, _ => .notApplicable

def envelopeFormulaCheck (accountId : AccountId) : CheckOutcome :=
  match s.resourceAccounts.find? accountId with
  | none => .notApplicable
  | some account =>
  match account.taskId with
  | none => .notApplicable
  | some taskId =>
  match s.taskBudget taskId with
  | none => .notApplicable
  | some budget =>
  match s.available taskId .requiredWork with
  | none => .notApplicable
  | some headroom =>
  match s.accountSpend accountId .exclusive with
  | .noBasis _ => .notApplicable
  | .known _ settled activeHolds _ _ =>
      let expected := budget.effectiveHardLimit (s.renewedCapacity taskId) - settled - activeHolds
      compared budget.resourceKind expected headroom.value

/-- The three checks of an account; the third compares with the gateway's table. -/
def reconciliationForAccount (accountId : AccountId) (totals : Totals)
    (gatewayAgreement : CheckOutcome) : Reconciliation :=
  Reconciliation.fromChecks
    [⟨.subtreeAdditivity, s.subtreeAdditivity accountId totals⟩,
      ⟨.envelopeFormula, s.envelopeFormulaCheck accountId⟩,
      ⟨.gatewayLedgerAgreement, gatewayAgreement⟩]

/-- The totals a report of an account is made with. -/
def totals (accountId : AccountId) : Totals where
  exclusive := s.accountSpend accountId .exclusive
  inclusive := s.accountSpend accountId .inclusive

end Definitions

/-! ## The walk down -/

/-- Every account is listed after its parent. -/
def Founded (s : TaskLedger) : Prop :=
  ∀ a ∈ s.resourceAccounts, ∀ p, a.parentAccountId = some p →
    (s.resourceAccounts.rows.map (·.accountId)).idxOf p <
      (s.resourceAccounts.rows.map (·.accountId)).idxOf a.accountId

theorem idxOf_lt {s : TaskLedger} {a : ResourceAccount} (mem : a ∈ s.resourceAccounts) :
    (s.resourceAccounts.rows.map (·.accountId)).idxOf a.accountId <
      s.resourceAccounts.rows.length := by
  have inside := List.idxOf_lt_length_of_mem (List.mem_map_of_mem (f := (·.accountId)) mem)
  rwa [List.length_map] at inside

theorem mem_childAccountIds {s : TaskLedger} {id child : AccountId} :
    child ∈ s.childAccountIds id ↔
      ∃ a ∈ s.resourceAccounts, a.parentAccountId = some id ∧ a.accountId = child := by
  simp [childAccountIds, and_assoc]

/-- What is added up over the subtree: the account's own value, and what is added up over the
subtrees of its children. -/
theorem sum_subtree {s : TaskLedger} (founded : s.Founded) (f : AccountId → Int)
    {a : ResourceAccount} (mem : a ∈ s.resourceAccounts) :
    ((s.subtree a.accountId).map f).sum = f a.accountId +
      ((s.childAccountIds a.accountId).map fun c => ((s.subtree c).map f).sum).sum := by
  have up : ∀ p, ∀ c ∈ s.childAccountIds p,
      (s.resourceAccounts.rows.map (·.accountId)).idxOf p <
        (s.resourceAccounts.rows.map (·.accountId)).idxOf c := by
    intro p c child
    obtain ⟨row, there, below, rfl⟩ := mem_childAccountIds.mp child
    exact founded row there p below
  have below : ∀ p, ∀ c ∈ s.childAccountIds p,
      (s.resourceAccounts.rows.map (·.accountId)).idxOf c < s.resourceAccounts.rows.length := by
    intro p c child
    obtain ⟨row, there, -, rfl⟩ := mem_childAccountIds.mp child
    exact idxOf_lt there
  have dry := Generations.generation_eq_nil up below (idxOf_lt mem) le_rfl
  exact (Generations.sum_walk_stable f dry).symm.trans (Generations.sum_walk f _ _)

theorem Founded.insert {s s' : TaskLedger} (founded : s.Founded) {account : ResourceAccount}
    (inserted : s.resourceAccounts.insert? account = some s'.resourceAccounts)
    (parent : ∀ p, account.parentAccountId = some p → s.resourceAccounts.find? p ≠ none) :
    s'.Founded := by
  obtain ⟨free, rows⟩ := (Table.insert?_eq_some_iff _ _ _).mp inserted
  have ids : s'.resourceAccounts.rows.map (·.accountId) =
      s.resourceAccounts.rows.map (·.accountId) ++ [account.accountId] := by
    rw [rows, List.map_append]
    rfl
  have listed : ∀ p, s.resourceAccounts.find? p ≠ none →
      p ∈ s.resourceAccounts.rows.map (·.accountId) := by
    intro p there
    obtain ⟨row, found⟩ := Option.ne_none_iff_exists'.mp there
    obtain ⟨mem, rfl⟩ := (Table.find?_eq_some_iff _ _ _).mp found
    exact List.mem_map_of_mem mem
  have fresh : account.accountId ∉ s.resourceAccounts.rows.map (·.accountId) := by
    intro taken
    obtain ⟨row, mem, same⟩ := List.mem_map.mp taken
    exact (Table.find?_eq_none_iff _ _).mp free row mem same
  intro a mem p below
  rw [ids]
  rcases (Table.mem_insert? inserted a).mp mem with old | rfl
  · have order := founded a old p below
    have known := List.idxOf_lt_length_of_mem
      (List.mem_map_of_mem (f := (·.accountId)) (show a ∈ s.resourceAccounts.rows from old))
    have there : p ∈ s.resourceAccounts.rows.map (·.accountId) :=
      List.idxOf_lt_length_iff.mp (order.trans known)
    rw [List.idxOf_append_of_mem there, List.idxOf_append_of_mem (List.mem_map_of_mem old)]
    exact order
  · have there := listed p (parent p below)
    rw [List.idxOf_append_of_mem there, List.idxOf_append_of_notMem fresh]
    have := List.idxOf_lt_length_of_mem there
    omega

theorem Founded.update {s s' : TaskLedger} (founded : s.Founded) {f : ResourceAccount → ResourceAccount}
    (keeps : ∀ a, (f a).accountId = a.accountId) {id : AccountId}
    (same : s'.resourceAccounts = s.resourceAccounts.updateAt id f keeps)
    (parent : ∀ a, (f a).parentAccountId = a.parentAccountId) : s'.Founded := by
  have ids : s'.resourceAccounts.rows.map (·.accountId) =
      s.resourceAccounts.rows.map (·.accountId) := by
    rw [same, Table.updateAt, Table.update, List.map_map]
    refine List.map_congr_left fun a _ => ?_
    show (if a.accountId = id then f a else a).accountId = a.accountId
    split
    · exact keeps a
    · rfl
  intro a mem p below
  rw [ids]
  rw [same] at mem
  obtain ⟨b, old, rfl⟩ := (Table.mem_update _ _ _ _).mp mem
  split at below
  · rename_i here
    rw [if_pos here, keeps]
    exact founded b old p (parent b ▸ below)
  · rename_i other
    rw [if_neg other]
    exact founded b old p below

theorem Founded.congr {s s' : TaskLedger} (founded : s.Founded)
    (same : s'.resourceAccounts = s.resourceAccounts) : s'.Founded := by
  unfold Founded
  rw [same]
  exact founded

theorem Founded.getD {s s' : TaskLedger} (founded : s.Founded) {account : ResourceAccount}
    (same : s'.resourceAccounts = (s.resourceAccounts.insert? account).getD s.resourceAccounts)
    (root : account.parentAccountId = none) : s'.Founded := by
  cases inserted : s.resourceAccounts.insert? account with
  | none =>
      rw [inserted] at same
      exact founded.congr same
  | some accounts =>
      rw [inserted] at same
      refine founded.insert (inserted.trans (congrArg some same.symm)) ?_
      intro p below
      rw [root] at below
      cases below

theorem expired_accountId (now : OffsetDateTime) (a : ResourceAccount) :
    (if a.state = .open_ then { a with state := .expired, closedAt := some now } else a).accountId =
      a.accountId := by
  split <;> rfl

theorem Founded.expireGranted {s : TaskLedger} (founded : s.Founded) (now : OffsetDateTime)
    (row : Reservation) : (expireGranted now s row).Founded := by
  unfold TaskLedger.expireGranted
  split
  · refine founded.update (expired_accountId now) rfl ?_
    intro a
    split <;> rfl
  · exact founded

theorem Founded.reclaim {s : TaskLedger} (founded : s.Founded) (close : Reservation → Reservation)
    (keeps : ∀ r, (close r).id = r.id) (row : Reservation) : (reclaim close keeps s row).Founded :=
  founded.congr (restoreReserve_accounts _ _ _)

/-- Turns that keep a property of the ledger keep it over a sweep. -/
theorem foldl_keeps {P : TaskLedger → Prop} {turn : TaskLedger → Reservation → TaskLedger}
    (keep : ∀ s row, P s → P (turn s row)) {s : TaskLedger} (start : P s) (rows : List Reservation) :
    P (rows.foldl turn s) := by
  induction rows generalizing s with
  | nil => exact start
  | cons row rows ih => exact ih (keep s row start)

theorem apply_founded (s : TaskLedger) (op : TaskLedgerOp) (founded : s.Founded) :
    (op.apply s).Founded := by
  cases op with
  | initializeTaskBudget taskId policy estimate scope now =>
      refine commit_of founded fun _ s' done => ?_
      obtain ⟨-, -, -, account, -, -, root, -, -, -, -, -, same⟩ := initializeTaskBudget_ok done
      exact founded.getD same root
  | reserve req fresh =>
      refine commit_of founded fun out s' done => ?_
      obtain ⟨rfl, -⟩ | ⟨row, -, granted⟩ := reserve_ok done
      · exact founded
      · exact founded.congr granted.accounts
  | settle id actual now =>
      refine commit_of founded fun out s' done => ?_
      obtain rfl | ⟨row, value, known, -, -, ⟨-, rfl⟩ | ⟨-, rfl⟩⟩ := settle_ok done
      · exact founded
      · exact founded.congr (restoreReserve_accounts _ _ _)
      · exact founded.congr rfl
  | release id now =>
      refine commit_of founded fun out s' done => ?_
      obtain rfl | ⟨row, -, -, rfl⟩ := release_ok done
      · exact founded
      · exact founded.reclaim _ _ row
  | releaseActiveForPlan taskId planId now =>
      refine commit_of founded fun out s' done => ?_
      rw [releaseActiveForPlan_ok done]
      exact foldl_keeps (P := Founded) (fun s row kept => Founded.reclaim kept _ _ row) founded _
  | expireStaleReservations now =>
      refine commit_of founded fun out s' done => ?_
      rw [expireStaleReservations_ok done]
      exact foldl_keeps (P := Founded)
        (fun s row kept => (Founded.reclaim kept _ _ row).expireGranted now row) founded _
  | adjustCompletionReserve taskId newAmount basis now =>
      refine commit_of founded fun out s' done => ?_
      obtain rfl | ⟨_, -, -, -, -, -, accounts, -⟩ := adjustCompletionReserve_ok done
      · exact founded
      · exact founded.congr accounts
  | grantRenewal taskId request status evidence now fresh =>
      refine commit_of founded fun out s' done => ?_
      obtain rfl | ⟨_, -, -, same⟩ := grantRenewal_ok done
      · exact founded
      · exact founded.congr (by rw [same])
  | ensureChildAccount parentId level naturalKey now fresh =>
      refine commit_of founded fun out s' done => ?_
      obtain rfl | ⟨parent, account, found, inserted, -, -, below, -⟩ := ensureChildAccount_ok done
      · exact founded
      · refine founded.insert inserted ?_
        intro p same
        rw [below] at same
        cases same
        rw [found]
        exact Option.some_ne_none parent
  | grantSublease req fresh =>
      refine commit_of founded fun out s' done => ?_
      obtain rfl | ⟨_, _, -, granted⟩ := grantSublease_ok done
      · exact founded
      · refine founded.update ?_ granted.accounts fun _ => rfl
        exact fun _ => rfl

theorem run_founded (ops : List TaskLedgerOp) :
    (run TaskLedgerOp.apply TaskLedger.empty ops).Founded := by
  refine run_invariant_always (fun s op founded => apply_founded s op founded) ?_ ops
  intro a mem
  cases mem

/-! ## The checks agree -/

/-- What was settled and what is held. -/
def SpendSoFar.parts : SpendSoFar → Int × Int
  | .known _ settled activeHolds _ _ => (settled, activeHolds)
  | .noBasis _ => (0, 0)

theorem accountSpend_inclusive {s : TaskLedger} {a : ResourceAccount}
    (mem : a ∈ s.resourceAccounts) : s.accountSpend a.accountId .inclusive =
      .known a.resourceKind ((s.subtree a.accountId).map s.workSettled).sum
        ((s.subtree a.accountId).map s.workActive).sum .inclusive (s.subtree a.accountId).length := by
  rw [accountSpend, (Table.find?_eq_some_iff _ _ _).mpr ⟨mem, rfl⟩]

theorem accountSpend_exclusive {s : TaskLedger} {a : ResourceAccount}
    (mem : a ∈ s.resourceAccounts) : s.accountSpend a.accountId .exclusive =
      .known a.resourceKind (s.workSettled a.accountId) (s.workActive a.accountId) .exclusive 1 := by
  rw [accountSpend, (Table.find?_eq_some_iff _ _ _).mpr ⟨mem, rfl⟩]

theorem parts_child {s : TaskLedger} {id child : AccountId} (below : child ∈ s.childAccountIds id) :
    (s.accountSpend child .inclusive).parts =
      (((s.subtree child).map s.workSettled).sum, ((s.subtree child).map s.workActive).sum) := by
  obtain ⟨a, mem, -, rfl⟩ := mem_childAccountIds.mp below
  rw [accountSpend_inclusive mem]
  rfl

theorem sum_pair {α : Type} (xs : List α) (f g : α → Int) :
    (xs.map fun x => (f x, g x)).sum = ((xs.map f).sum, (xs.map g).sum) := by
  induction xs with
  | nil => rfl
  | cons x xs ih => simp [ih]

/-- An account's inclusive spend is its exclusive spend and its children's inclusive spends. -/
theorem inclusive_eq {s : TaskLedger} (founded : s.Founded) {a : ResourceAccount}
    (mem : a ∈ s.resourceAccounts) : (s.accountSpend a.accountId .inclusive).parts =
      (s.accountSpend a.accountId .exclusive).parts +
        ((s.childAccountIds a.accountId).map fun c => (s.accountSpend c .inclusive).parts).sum := by
  rw [List.map_congr_left fun c below => parts_child below, sum_pair, accountSpend_inclusive mem,
    accountSpend_exclusive mem]
  simp only [SpendSoFar.parts, Prod.mk_add_mk]
  rw [sum_subtree founded s.workSettled mem, sum_subtree founded s.workActive mem]

theorem compared_self (kind : ResourceKind) {expected actual : Int} (same : expected = actual) :
    compared kind expected actual = .reconciled := by
  subst same
  simp [compared, kind.reconciliationEpsilon_nonneg]

theorem subtreeAdditivity_agrees {s : TaskLedger} (founded : s.Founded) {a : ResourceAccount}
    (mem : a ∈ s.resourceAccounts) (delta : Int) :
    s.subtreeAdditivity a.accountId (s.totals a.accountId) ≠ .discrepant delta := by
  rw [totals, subtreeAdditivity]
  dsimp only
  rw [accountSpend_exclusive mem, accountSpend_inclusive mem]
  dsimp only
  split
  · exact fun h => by cases h
  · rw [compared_self]
    · exact fun h => by cases h
    · rw [sum_subtree founded s.workSettled mem, sum_subtree founded s.workActive mem]
      have each : (s.childAccountIds a.accountId).map (fun child =>
          match s.accountSpend child .inclusive with
          | .known _ settled activeHolds _ _ => settled + activeHolds
          | .noBasis _ => 0) = (s.childAccountIds a.accountId).map fun child =>
            ((s.subtree child).map s.workSettled).sum + ((s.subtree child).map s.workActive).sum := by
        refine List.map_congr_left fun child below => ?_
        obtain ⟨row, there, -, rfl⟩ := mem_childAccountIds.mp below
        rw [accountSpend_inclusive there]
      rw [each, List.sum_map_add]
      omega

/-! ## Where the envelope check disagrees -/

/-- What the task's leases other than the account's own work holds are worth. -/
def outside (s : TaskLedger) (taskId : TaskId) (id : AccountId) : Int :=
  s.reservations.sum fun r =>
    if r.taskId = taskId ∧ ¬ (r.accountId = id ∧ r.leaseKind = .workHold) then
      r.settledPart + r.activePart
    else 0

/-- What the account's work holds for other tasks are worth. -/
def stray (s : TaskLedger) (taskId : TaskId) (id : AccountId) : Int :=
  s.reservations.sum fun r =>
    if r.taskId ≠ taskId ∧ r.accountId = id ∧ r.leaseKind = .workHold then
      r.settledPart + r.activePart
    else 0

theorem spend_split (s : TaskLedger) (taskId : TaskId) (id : AccountId) :
    s.settled taskId + s.active taskId + s.stray taskId id =
      s.outside taskId id + s.workSettled id + s.workActive id := by
  unfold settled active stray outside workSettled workActive Table.sum
  rw [← List.sum_map_add, ← List.sum_map_add, ← List.sum_map_add, ← List.sum_map_add]
  refine congrArg List.sum (List.map_congr_left fun r _ => ?_)
  by_cases task : r.taskId = taskId <;> by_cases own : r.accountId = id ∧ r.leaseKind = .workHold
  · simp [task, own]
  · simp [task, own]
  · simp [task, own]
  · simp [task, own]

/-- The leases the two sides of the check count differently are within its tolerance. -/
def Balanced (s : TaskLedger) (account : ResourceAccount) : Prop :=
  ∀ taskId budget, account.taskId = some taskId → s.taskBudget taskId = some budget →
    (|s.outside taskId account.accountId - s.stray taskId account.accountId| : ℚ) ≤
      budget.resourceKind.reconciliationEpsilon

theorem envelopeFormulaCheck_iff {s : TaskLedger} {a : ResourceAccount}
    (mem : a ∈ s.resourceAccounts) :
    (∀ delta, s.envelopeFormulaCheck a.accountId ≠ .discrepant delta) ↔ s.Balanced a := by
  unfold Balanced
  rw [envelopeFormulaCheck, (Table.find?_eq_some_iff _ _ _).mpr ⟨mem, rfl⟩]
  dsimp only
  cases lineage : a.taskId with
  | none => simp
  | some taskId =>
      dsimp only
      cases found : s.taskBudget taskId with
      | none =>
          constructor
          · intro _ taskId' budget same found'
            cases same
            cases found.symm.trans found'
          · intro _ delta
            exact fun h => by cases h
      | some budget =>
          have parts := s.spend_split taskId a.accountId
          rw [available, found, accountSpend_exclusive mem]
          dsimp only
          have apart : budget.effectiveHardLimit (s.renewedCapacity taskId) -
                s.workSettled a.accountId - s.workActive a.accountId -
              (budget.effectiveHardLimit (s.renewedCapacity taskId) - s.settled taskId -
                s.active taskId) = s.outside taskId a.accountId - s.stray taskId a.accountId := by
            omega
          rw [compared, apart]
          constructor
          · intro agrees taskId' budget' same found'
            cases same
            cases found.symm.trans found'
            by_contra apart
            exact agrees _ (if_neg (by push_cast; exact apart))
          · intro balanced delta
            have within := balanced taskId budget rfl found
            rw [if_pos (by push_cast; exact within)]
            exact fun h => by cases h

/-- The two checks of an account do not disagree, and its inclusive spend adds up. -/
structure SelfCheckAgrees (s : TaskLedger) (id : AccountId) (gatewayAgreement : CheckOutcome) :
    Prop where
  checks : ∀ c ∈ (s.reconciliationForAccount id (s.totals id) gatewayAgreement).checks,
    c.check ≠ .gatewayLedgerAgreement → ∀ delta, c.outcome ≠ .discrepant delta
  inclusive : (s.accountSpend id .inclusive).parts = (s.accountSpend id .exclusive).parts +
    ((s.childAccountIds id).map fun c => (s.accountSpend c .inclusive).parts).sum

theorem selfCheckAgrees_iff {s : TaskLedger} (founded : s.Founded) {a : ResourceAccount}
    (mem : a ∈ s.resourceAccounts) (gatewayAgreement : CheckOutcome) :
    s.SelfCheckAgrees a.accountId gatewayAgreement ↔ s.Balanced a := by
  rw [← envelopeFormulaCheck_iff mem]
  constructor
  · intro agrees
    have listed : (⟨.envelopeFormula, s.envelopeFormulaCheck a.accountId⟩ : ReconciliationCheck) ∈
        (s.reconciliationForAccount a.accountId (s.totals a.accountId) gatewayAgreement).checks :=
      List.mem_cons_of_mem _ List.mem_cons_self
    exact agrees.checks _ listed nofun
  · intro envelope
    refine ⟨?_, inclusive_eq founded mem⟩
    intro c listed other
    simp only [reconciliationForAccount, Reconciliation.fromChecks, List.mem_cons, List.not_mem_nil,
      or_false] at listed
    rcases listed with rfl | rfl | rfl
    · exact subtreeAdditivity_agrees founded mem
    · exact envelope
    · exact absurd rfl other

/-! ## Ledgers without child accounts -/

/-- Every account is its task's own, and every lease is a work hold of it. -/
structure Own (s : TaskLedger) : Prop where
  accounts : ∀ a ∈ s.resourceAccounts, a.level = .task ∧
    ∀ taskId, a.taskId = some taskId → a.accountId = .forTask taskId
  leases : ∀ r ∈ s.reservations, r.leaseKind = .workHold ∧ r.accountId = .forTask r.taskId

theorem forTask_inj {taskId other : TaskId} (same : AccountId.forTask taskId = .forTask other) :
    taskId = other := by
  cases taskId
  cases other
  cases same
  rfl

theorem Own.balanced {s : TaskLedger} (own : s.Own) {a : ResourceAccount}
    (mem : a ∈ s.resourceAccounts) : s.Balanced a := by
  intro taskId budget lineage found
  have mine := (own.accounts a mem).2 taskId lineage
  have outside : s.outside taskId a.accountId = 0 := by
    refine List.sum_eq_zero ?_
    intro x listed
    obtain ⟨r, there, rfl⟩ := List.mem_map.mp listed
    refine if_neg ?_
    rintro ⟨rfl, foreign⟩
    obtain ⟨work, account⟩ := own.leases r there
    exact foreign ⟨account.trans mine.symm, work⟩
  have stray : s.stray taskId a.accountId = 0 := by
    refine List.sum_eq_zero ?_
    intro x listed
    obtain ⟨r, there, rfl⟩ := List.mem_map.mp listed
    refine if_neg ?_
    rintro ⟨other, account, -⟩
    exact other (forTask_inj ((own.leases r there).2.symm.trans (account.trans mine)))
  rw [outside, stray, sub_self, abs_zero]
  exact budget.resourceKind.reconciliationEpsilon_nonneg

/-- Closing a lease moves it to no other task or account. -/
def Closes (close : Reservation → Reservation) : Prop :=
  ∀ r, (close r).leaseKind = r.leaseKind ∧ (close r).accountId = r.accountId ∧
    (close r).taskId = r.taskId

theorem settle_closes (value : Int) (known late : Bool) (now : OffsetDateTime) :
    Closes (Reservation.settle value known late now) := fun _ => ⟨rfl, rfl, rfl⟩

theorem release_closes (now : OffsetDateTime) : Closes (Reservation.release now) :=
  fun _ => ⟨rfl, rfl, rfl⟩

theorem expire_closes (now : OffsetDateTime) : Closes (Reservation.expire now) :=
  fun _ => ⟨rfl, rfl, rfl⟩

theorem Own.close {s s' : TaskLedger} (own : s.Own) {close : Reservation → Reservation}
    (keeps : ∀ r, (close r).id = r.id) {id : ReservationId} (closes : Closes close)
    (same : s'.reservations = s.reservations.updateAt id close keeps)
    (accounts : s'.resourceAccounts = s.resourceAccounts) : s'.Own where
  accounts := by
    rw [accounts]
    exact own.accounts
  leases r mem := by
    rw [same] at mem
    obtain ⟨old, there, rfl⟩ := (Table.mem_update _ _ _ _).mp mem
    have facts := own.leases old there
    split
    · obtain ⟨kind, account, task⟩ := closes old
      rw [kind, account, task]
      exact facts
    · exact facts

theorem Own.reclaim {s : TaskLedger} (own : s.Own) {close : Reservation → Reservation}
    {keeps : ∀ r, (close r).id = r.id} (closes : Closes close) (row : Reservation) :
    (reclaim close keeps s row).Own :=
  own.close keeps closes (reclaim_reservations close keeps s row) (restoreReserve_accounts _ _ _)

theorem Own.account {s s' : TaskLedger} (own : s.Own) {f : ResourceAccount → ResourceAccount}
    (keeps : ∀ a, (f a).accountId = a.accountId) {id : AccountId}
    (same : s'.resourceAccounts = s.resourceAccounts.updateAt id f keeps)
    (leases : s'.reservations = s.reservations)
    (kept : ∀ a, (f a).level = a.level ∧ (f a).taskId = a.taskId) : s'.Own where
  leases := by
    rw [leases]
    exact own.leases
  accounts a mem := by
    rw [same] at mem
    obtain ⟨old, there, rfl⟩ := (Table.mem_update _ _ _ _).mp mem
    have facts := own.accounts old there
    split
    · rw [(kept old).1, (kept old).2, keeps]
      exact facts
    · exact facts

theorem Own.expireGranted {s : TaskLedger} (own : s.Own) (now : OffsetDateTime)
    (row : Reservation) : (expireGranted now s row).Own := by
  unfold TaskLedger.expireGranted
  split
  · refine own.account (expired_accountId now) rfl rfl ?_
    intro a
    split <;> exact ⟨rfl, rfl⟩
  · exact own

theorem Own.insert {s s' : TaskLedger} (own : s.Own) {row : Reservation}
    (inserted : s.reservations.insert? row = some s'.reservations)
    (work : row.leaseKind = .workHold) (account : row.accountId = .forTask row.taskId)
    (accounts : s'.resourceAccounts = s.resourceAccounts) : s'.Own where
  accounts := by
    rw [accounts]
    exact own.accounts
  leases r mem := by
    rcases (Table.mem_insert? inserted r).mp mem with old | rfl
    · exact own.leases r old
    · exact ⟨work, account⟩

theorem Own.congr {s s' : TaskLedger} (own : s.Own) (leases : s'.reservations = s.reservations)
    (accounts : s'.resourceAccounts = s.resourceAccounts) : s'.Own := by
  constructor
  · rw [accounts]
    exact own.accounts
  · rw [leases]
    exact own.leases

theorem Own.initialize {s s' : TaskLedger} (own : s.Own) {account : ResourceAccount} {taskId : TaskId}
    (leases : s'.reservations = s.reservations) (id : account.accountId = .forTask taskId)
    (level : account.level = .task) (lineage : account.taskId = some taskId)
    (same : s'.resourceAccounts = (s.resourceAccounts.insert? account).getD s.resourceAccounts) :
    s'.Own := by
  cases inserted : s.resourceAccounts.insert? account with
  | none =>
      rw [inserted] at same
      exact own.congr leases same
  | some accounts =>
      rw [inserted] at same
      refine ⟨?_, ?_⟩
      · intro a mem
        rw [same] at mem
        rcases (Table.mem_insert? inserted a).mp mem with old | rfl
        · exact own.accounts a old
        · refine ⟨level, ?_⟩
          intro other task
          cases lineage.symm.trans task
          exact id
      · rw [leases]
        exact own.leases

/-- The step creates no child account. -/
def NoChildAccount : TaskLedgerOp → Prop
  | .ensureChildAccount _ _ _ _ _ => False
  | _ => True

theorem apply_own (s : TaskLedger) (op : TaskLedgerOp) (own : s.Own) (flat : NoChildAccount op) :
    (op.apply s).Own := by
  cases op with
  | initializeTaskBudget taskId policy estimate scope now =>
      refine commit_of own fun _ s' done => ?_
      obtain ⟨leases, -, -, account, id, level, -, lineage, -, -, -, -, same⟩ :=
        initializeTaskBudget_ok done
      exact own.initialize leases id level lineage same
  | reserve req fresh =>
      refine commit_of own fun out s' done => ?_
      obtain ⟨rfl, -⟩ | ⟨row, -, granted⟩ := reserve_ok done
      · exact own
      · obtain ⟨_, _, _, -, -, -, rfl, -⟩ := granted.budgeted
        exact own.insert granted.inserted rfl rfl granted.accounts
  | settle id actual now =>
      refine commit_of own fun out s' done => ?_
      obtain rfl | ⟨row, value, known, -, -, ⟨-, rfl⟩ | ⟨-, rfl⟩⟩ := settle_ok done
      · exact own
      · refine own.close ?_ (settle_closes value known false now) (restoreReserve_reservations _ _ _)
          (restoreReserve_accounts _ _ _)
        exact fun _ => rfl
      · refine own.close ?_ (settle_closes value known true now) rfl rfl
        exact fun _ => rfl
  | release id now =>
      refine commit_of own fun out s' done => ?_
      obtain rfl | ⟨row, -, -, rfl⟩ := release_ok done
      · exact own
      · exact own.reclaim (release_closes now) row
  | releaseActiveForPlan taskId planId now =>
      refine commit_of own fun out s' done => ?_
      rw [releaseActiveForPlan_ok done]
      exact foldl_keeps (P := Own) (fun s row kept => Own.reclaim kept (release_closes now) row) own _
  | expireStaleReservations now =>
      refine commit_of own fun out s' done => ?_
      rw [expireStaleReservations_ok done]
      exact foldl_keeps (P := Own) (fun s row kept =>
        (Own.reclaim kept (expire_closes now) row).expireGranted now row) own _
  | adjustCompletionReserve taskId newAmount basis now =>
      refine commit_of own fun out s' done => ?_
      obtain rfl | ⟨_, -, -, -, leases, -, accounts, -⟩ := adjustCompletionReserve_ok done
      · exact own
      · exact own.congr leases accounts
  | grantRenewal taskId request status evidence now fresh =>
      refine commit_of own fun out s' done => ?_
      obtain rfl | ⟨_, -, -, same⟩ := grantRenewal_ok done
      · exact own
      · exact own.congr (by rw [same]) (by rw [same])
  | ensureChildAccount parentId level naturalKey now fresh => exact flat.elim
  | grantSublease req fresh =>
      refine commit_of own fun out s' done => ?_
      obtain rfl | ⟨_, _, -, granted⟩ := grantSublease_ok done
      · exact own
      · -- A sublease funds an account that is no task's own.
        obtain ⟨child, found, level⟩ := granted.child
        exact absurd (own.accounts child ((Table.find?_eq_some_iff _ _ _).mp found).1).1 level

/-- In every state a run reaches, the self-check of an account raises no alarm and its spend adds
up exactly when the leases counted on one side only are within the tolerance; and so it is for every
account in every run that creates no child account. -/
theorem reconciliation_agrees_iff (ops : List TaskLedgerOp) :
    let s := run TaskLedgerOp.apply TaskLedger.empty ops
    (∀ account ∈ s.resourceAccounts, ∀ gatewayAgreement,
        s.SelfCheckAgrees account.accountId gatewayAgreement ↔ s.Balanced account) ∧
      ((∀ op ∈ ops, NoChildAccount op) → ∀ account ∈ s.resourceAccounts, ∀ gatewayAgreement,
        s.SelfCheckAgrees account.accountId gatewayAgreement) := by
  intro s
  have agrees : ∀ account ∈ s.resourceAccounts, ∀ gatewayAgreement,
      s.SelfCheckAgrees account.accountId gatewayAgreement ↔ s.Balanced account :=
    fun account mem gatewayAgreement => selfCheckAgrees_iff (run_founded ops) mem gatewayAgreement
  refine ⟨agrees, ?_⟩
  intro flat account mem gatewayAgreement
  have empty : TaskLedger.empty.Own := by
    constructor
    · intro a mem
      cases mem
    · intro r mem
      cases mem
  have own : s.Own := by
    refine run_invariant ?_ (along_of_mem flat TaskLedger.empty) empty
    exact fun s op own flat => apply_own s op own flat
  exact (agrees account mem gatewayAgreement).mpr (own.balanced mem)

/-- A task of 200 tokens with a child account of its session, and 50 of them sublet to it. -/
def sublet : List TaskLedgerOp :=
  [.initializeTaskBudget ⟨7⟩
      { target := ⟨.tokens, 200⟩, hardCeiling := ⟨.tokens, 200⟩, turnCeiling := none, renewal := none }
      ⟨⟨.tokens, 0⟩, .policyTarget⟩ .lifetimeBounded 0,
    .ensureChildAccount (.forTask ⟨7⟩) .session "session" 0 ⟨8⟩,
    .grantSublease
      { parentAccountId := .forTask ⟨7⟩, childAccountId := ⟨8⟩, childNaturalKey := "session",
        amount := ⟨.tokens, 50⟩, idempotencyKey := "lease", now := 0, ttlSecs := 60 } ⟨1⟩]

/-- The task's own account is reported as off by the 50 tokens sublet. -/
theorem sublet_alarm :
    (run TaskLedgerOp.apply TaskLedger.empty sublet).envelopeFormulaCheck (.forTask ⟨7⟩) =
        .discrepant 50 ∧
      ¬ (run TaskLedgerOp.apply TaskLedger.empty sublet).SelfCheckAgrees (.forTask ⟨7⟩)
        .notApplicable := by
  have off : (run TaskLedgerOp.apply TaskLedger.empty sublet).envelopeFormulaCheck (.forTask ⟨7⟩) =
      compared .tokens 200 150 := rfl
  have alarm : compared .tokens 200 150 = .discrepant 50 := by
    norm_num [compared, ResourceKind.reconciliationEpsilon]
  refine ⟨off.trans alarm, ?_⟩
  intro agrees
  have quiet := agrees.checks
    ⟨.envelopeFormula, (run TaskLedgerOp.apply TaskLedger.empty sublet).envelopeFormulaCheck
      (.forTask ⟨7⟩)⟩ (List.mem_cons_of_mem _ List.mem_cons_self) nofun
  exact quiet 50 (off.trans alarm)

/-- A task whose session has no account of its own, with a hold that is settled over its amount. -/
def unsublet : List TaskLedgerOp :=
  [.initializeTaskBudget ⟨7⟩
      { target := ⟨.usd, 100⟩, hardCeiling := ⟨.usd, 100⟩, turnCeiling := none, renewal := none }
      ⟨⟨.usd, 20⟩, .policyTarget⟩ .lifetimeBounded 0,
    .reserve
      { taskId := ⟨7⟩, sessionId := "session", planId := none, class_ := .optionalWork,
        amount := ⟨.usd, 30⟩, idempotencyKey := "first", now := 0, ttlSecs := 10 } ⟨1⟩,
    .settle ⟨1⟩ (some ⟨.usd, 60⟩) 0]

theorem unsublet_agrees :
    (run TaskLedgerOp.apply TaskLedger.empty unsublet).accountSpend (.forTask ⟨7⟩) .inclusive =
        .known .usd 60 0 .inclusive 1 ∧
      (run TaskLedgerOp.apply TaskLedger.empty unsublet).SelfCheckAgrees (.forTask ⟨7⟩)
        .notApplicable := by
  refine ⟨rfl, ?_⟩
  exact (reconciliation_agrees_iff unsublet).2 (by simp [unsublet, NoChildAccount]) _
    List.mem_cons_self .notApplicable

end TaskLedger

end LibraGovernor
