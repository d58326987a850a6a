/-
# LibraGovernor.Ledger.Attestation -- outcome attestations and the receipts they promote

An attestation is recorded once for its `(task, source, key)` and bound to the revision of
its plan.  When it is authoritative, every receipt that is there for the revision takes the
outcome the recorded attestations resolve to: the one terminal kind they agree on, with
the evidence of the row whose stored time sorts last, or `unknown` when they disagree.

`Resolution` says what the outcome of a receipt should be, as a set of attestations and
their instants.  A receipt has it after every run in which no receipt is written once its
revision is resolved, and no two attestations of a kind have texts that sort against their
instants (`receipts_resolved`).
-/
import LibraGovernor.Ledger.TrajectoryTransitions
import LibraGovernor.Lib.Run
import Mathlib.Data.List.Dedup

namespace LibraGovernor

open Relational Scan Transaction Transition

set_option autoImplicit false

/-! ## Recording -/

structure AttestationPush where
  id : AttestationId
  taskId : TaskId
  planId : Option PlanId
  source : String
  sourceId : Option String
  outcome : ExecutionOutcome
  idempotencyKey : String
  authoritative : Bool
  attestedAt : OffsetDateTime
  deriving DecidableEq, Repr

inductive RecordAttestationOutcome where
  | noSuchTask
  | noSuchPlan
  | duplicate
  | idempotencyKeyReused
  | recorded (contractRevision : Option Nat) (receiptUpdated : Bool)
  deriving DecidableEq, Repr

/-- An attestation that counts for the outcome of a revision. -/
def AttestationRow.binds (taskId : TaskId) (revision : Nat) (a : AttestationRow) : Bool :=
  decide (a.taskId = taskId ∧ a.contractRevision = some revision ∧ a.authoritative = true) &&
    a.outcome.terminalKind.isSome

namespace Trajectory

/-- The authoritative terminal attestations of a revision. -/
def bound (s : Trajectory) (taskId : TaskId) (revision : Nat) : List AttestationRow :=
  s.attestations.rows.filter (AttestationRow.binds taskId revision)

/-- Whether a row was stored after another, by the text of the two times. -/
def laterText (a kept : AttestationRow) : Bool := !a.attestedAt.textLe kept.attestedAt

/-- What the attestations of a revision come to; `none` when there is none. -/
def resolvedOutcome (rows : List AttestationRow) : Option ExecutionOutcome :=
  match (rows.map fun a => a.outcome.terminalKind).dedup with
  | [] => none
  | [kind] =>
      (best laterText (rows.filter fun a => a.outcome.terminalKind = kind)).map AttestationRow.outcome
  | _ => some .unknown

/-- `UPDATE receipts SET outcome_json` of a revision. -/
def promote (s : Trajectory) (taskId : TaskId) (revision : Nat) (outcome : ExecutionOutcome) :
    Trajectory :=
  { s with
    receipts := s.receipts.update
      (fun r => if r.taskId = taskId ∧ r.contractRevision = revision then { r with outcome } else r)
      (by intro r; split <;> rfl) }

/-- The receipts of a revision. -/
def receiptsAt (s : Trajectory) (taskId : TaskId) (revision : Nat) : List ExecutionReceipt :=
  s.receipts.rows.filter fun r => r.taskId = taskId ∧ r.contractRevision = revision

def attestationRow (push : AttestationPush) (contractRevision : Option Nat) : AttestationRow where
  id := push.id
  taskId := push.taskId
  planId := push.planId
  contractRevision := contractRevision
  source := push.source
  sourceId := push.sourceId
  outcome := push.outcome
  idempotencyKey := push.idempotencyKey
  authoritative := push.authoritative
  attestedAt := push.attestedAt

/-- Promotes the receipts of the push's revision, when it is authoritative and bound. -/
def promoteFor (s : Trajectory) (push : AttestationPush) (contractRevision : Option Nat) :
    Bool × Trajectory :=
  match contractRevision with
  | none => (false, s)
  | some revision =>
  if push.authoritative then
    match resolvedOutcome (s.bound push.taskId revision) with
    | none => (false, s)
    | some outcome =>
        (!(s.receiptsAt push.taskId revision).isEmpty, s.promote push.taskId revision outcome)
  else (false, s)

/-- The revision a push is bound to; a plan of another task, or none, is refused. -/
def pushRevision (s : Trajectory) (push : AttestationPush) : Option (Option Nat) :=
  match push.planId with
  | none => some none
  | some planId =>
      ((s.plans.find? planId).filter fun p => p.taskId = push.taskId).map fun p =>
        some p.contractRevision

def recordOutcomeAttestation (s : Trajectory) (push : AttestationPush) :
    Except LedgerError (RecordAttestationOutcome × Trajectory) := do
  if (s.tasks.find? push.taskId).isNone then return (.noSuchTask, s)
  else
  match s.pushRevision push with
  | none => return (.noSuchPlan, s)
  | some contractRevision =>
  match s.attestations.rows.find? fun a =>
      a.taskId = push.taskId ∧ a.sourceId = push.sourceId ∧ a.idempotencyKey = push.idempotencyKey with
  | some existing =>
      return (if existing.outcome = push.outcome then .duplicate else .idempotencyKeyReused, s)
  | none =>
  let _ ← rfc3339 push.attestedAt
  let attestations ← inserted s.attestations (attestationRow push contractRevision)
  let (receiptUpdated, s') := { s with attestations }.promoteFor push contractRevision
  return (.recorded contractRevision receiptUpdated, s')

end Trajectory

/-! ## What an outcome should be -/

/-- The outcome a set of attestations resolves to: the kind they agree on, with the evidence
of the latest, or `unknown` when they name no kind or several. -/
inductive Resolution (bound : AttestationRow → Prop) : ExecutionOutcome → Prop
  | agreed {a : AttestationRow} : bound a →
      (∀ b, bound b → b.outcome.terminalKind = a.outcome.terminalKind) →
      (∀ b, bound b → b.attestedAt ≤ a.attestedAt) → Resolution bound a.outcome
  | none : (∀ a, ¬ bound a) → Resolution bound .unknown
  | conflict {a b : AttestationRow} : bound a → bound b →
      a.outcome.terminalKind ≠ b.outcome.terminalKind → Resolution bound .unknown

/-- The order of the stored texts is that of the instants. -/
def TextOrdered (t u : OffsetDateTime) : Prop := t.textLe u = true ↔ t ≤ u

instance (t u : OffsetDateTime) : Decidable (TextOrdered t u) :=
  inferInstanceAs (Decidable (t.textLe u = true ↔ t ≤ u))

namespace Trajectory

/-- The rows a revision's outcome is resolved from. -/
def Bound (s : Trajectory) (taskId : TaskId) (revision : Nat) (a : AttestationRow) : Prop :=
  a ∈ s.bound taskId revision

/-- The code's resolution is the intended one, when the texts are ordered as the instants. -/
theorem resolvedOutcome_resolution {rows : List AttestationRow}
    (ordered : ∀ a ∈ rows, ∀ b ∈ rows, a.outcome.terminalKind = b.outcome.terminalKind →
      TextOrdered a.attestedAt b.attestedAt) :
    Resolution (· ∈ rows) ((resolvedOutcome rows).getD .unknown) := by
  have kinds : ∀ {kinds}, (rows.map fun a => a.outcome.terminalKind).dedup = kinds →
      ∀ a ∈ rows, a.outcome.terminalKind ∈ kinds := by
    rintro _ rfl a mem
    exact List.mem_dedup.mpr (List.mem_map_of_mem mem)
  unfold resolvedOutcome
  split
  · rename_i none
    refine .none ?_
    intro a mem
    exact List.not_mem_nil (kinds none a mem)
  · rename_i kind one
    have all : ∀ a ∈ rows, a.outcome.terminalKind = kind := by
      intro a mem
      exact List.mem_singleton.mp (kinds one a mem)
    have filtered : rows.filter (fun a => a.outcome.terminalKind = kind) = rows := by
      refine List.filter_eq_self.mpr ?_
      intro a mem
      exact decide_eq_true (all a mem)
    rw [filtered]
    cases found : best laterText rows with
    | none =>
        rw [best_eq_none_iff] at found
        subst found
        cases one
    | some a =>
        have mem := best_mem found
        refine .agreed mem ?_ ?_
        · intro b there
          rw [all a mem, all b there]
        · refine best_bound (R := fun x y => x.attestedAt ≤ y.attestedAt) ?_ ?_ ?_ ?_ found
          · intro x
            exact le_refl _
          · intro x y z before after
            exact le_trans before after
          · intro x hx y hy later
            have text := ordered x hx y hy ((all x hx).trans (all y hy).symm)
            rw [laterText, Bool.not_eq_true', Bool.eq_false_iff] at later
            exact le_of_not_ge fun sooner => later (text.mpr sooner)
          · intro x hx y hy kept
            have text := ordered x hx y hy ((all x hx).trans (all y hy).symm)
            rw [laterText, Bool.not_eq_false'] at kept
            exact text.mp kept
  · rename_i more one
    cases kindsOf : (rows.map fun a => a.outcome.terminalKind).dedup with
    | nil => exact absurd kindsOf more
    | cons k rest =>
        cases rest with
        | nil => exact absurd kindsOf (one k)
        | cons k' rest =>
            have distinct : k ≠ k' := by
              have nodup := List.nodup_dedup (rows.map fun a => a.outcome.terminalKind)
              rw [kindsOf] at nodup
              intro same
              exact (List.nodup_cons.mp nodup).1 (same ▸ List.mem_cons_self)
            have named : ∀ kind ∈ k :: k' :: rest, ∃ a ∈ rows, a.outcome.terminalKind = kind := by
              intro kind mem
              rw [← kindsOf, List.mem_dedup, List.mem_map] at mem
              exact mem
            obtain ⟨a, there, rfl⟩ := named k List.mem_cons_self
            obtain ⟨b, there', rfl⟩ := named k' (List.mem_cons_of_mem _ List.mem_cons_self)
            exact .conflict there there' distinct

/-- No outcome yet, or no agreement. -/
def Unresolved (bound : AttestationRow → Prop) : Prop :=
  (∀ a, ¬ bound a) ∨ ∃ a b, bound a ∧ bound b ∧ a.outcome.terminalKind ≠ b.outcome.terminalKind

theorem resolvedOutcome_of_unresolved {rows : List AttestationRow} (open_ : Unresolved (· ∈ rows)) :
    (resolvedOutcome rows).getD .unknown = .unknown := by
  unfold resolvedOutcome
  split
  · rfl
  · rename_i kind one
    have all : ∀ a ∈ rows, a.outcome.terminalKind = kind := by
      intro a mem
      have listed := List.mem_dedup.mpr (List.mem_map_of_mem (f := fun a : AttestationRow =>
        a.outcome.terminalKind) mem)
      rw [one] at listed
      exact List.mem_singleton.mp listed
    obtain none | ⟨a, b, there, there', differ⟩ := open_
    · have empty : rows = [] := List.eq_nil_iff_forall_not_mem.mpr none
      subst empty
      cases one
    · exact absurd ((all a there).trans (all b there').symm) differ
  · rfl

theorem resolvedOutcome_eq_none {rows : List AttestationRow}
    (unresolved : resolvedOutcome rows = none) : rows = [] := by
  unfold resolvedOutcome at unresolved
  split at unresolved
  · rename_i none
    rw [List.dedup_eq_nil, List.map_eq_nil_iff] at none
    exact none
  · rename_i kind one
    rw [Option.map_eq_none_iff, best_eq_none_iff, List.filter_eq_nil_iff] at unresolved
    obtain ⟨a, mem, here⟩ : ∃ a ∈ rows, a.outcome.terminalKind = kind := by
      have listed : kind ∈ (rows.map fun a => a.outcome.terminalKind).dedup := by
        rw [one]
        exact List.mem_singleton_self kind
      exact List.mem_map.mp (List.mem_dedup.mp listed)
    exact absurd (decide_eq_true here) (unresolved a mem)
  · cases unresolved

/-! ## One push -/

/-- A push is answered without a write, or recorded and promoted. -/
theorem recordOutcomeAttestation_ok {s s' : Trajectory} {push : AttestationPush}
    {out : RecordAttestationOutcome}
    (done : s.recordOutcomeAttestation push = .ok (out, s')) :
    (s' = s ∧ ∀ revision updated, out ≠ .recorded revision updated) ∨
    ∃ revision attestations updated, s.pushRevision push = some revision ∧
      out = .recorded revision updated ∧
      s.attestations.insert? (attestationRow push revision) = some attestations ∧
      s' = ({ s with attestations }.promoteFor push revision).2 := by
  unfold recordOutcomeAttestation at done
  split at done
  · cases done
    exact .inl ⟨rfl, fun _ _ recorded => by cases recorded⟩
  · split at done
    · cases done
      exact .inl ⟨rfl, fun _ _ recorded => by cases recorded⟩
    · rename_i revision bound
      split at done
      · rename_i existing _
        cases done
        refine .inl ⟨rfl, ?_⟩
        intro revision updated
        split
        · rintro ⟨⟩
        · rintro ⟨⟩
      · simp only [bind_eq_ok_iff] at done
        obtain ⟨stamp, -, attestations, stored, done⟩ := done
        cases done
        exact .inr ⟨revision, attestations, _, bound, rfl, inserted_ok stored, rfl⟩

theorem bound_insert {s : Trajectory} {row : AttestationRow}
    {attestations : Table AttestationRow AttestationRow.id}
    (stored : s.attestations.insert? row = some attestations) (taskId : TaskId) (revision : Nat) :
    { s with attestations }.bound taskId revision =
      s.bound taskId revision ++ if row.binds taskId revision then [row] else [] := by
  obtain ⟨-, rows⟩ := (Table.insert?_eq_some_iff _ _ _).mp stored
  simp only [bound, rows, List.filter_append]
  congr 1
  rw [List.filter_cons, List.filter_nil]

/-! ## Runs -/

/-- Receipts carry what their revision's attestations come to, and the texts of one kind are
ordered as their instants. -/
structure ResolvedInv (s : Trajectory) : Prop where
  outcomes : ∀ r ∈ s.receipts,
    r.outcome = (resolvedOutcome (s.bound r.taskId r.contractRevision)).getD .unknown
  ordered : ∀ taskId revision, ∀ a ∈ s.bound taskId revision, ∀ b ∈ s.bound taskId revision,
    a.outcome.terminalKind = b.outcome.terminalKind → TextOrdered a.attestedAt b.attestedAt

theorem textOrdered_self (t : OffsetDateTime) : TextOrdered t t := by
  simp [TextOrdered, OffsetDateTime.textLe]

section Push

variable {s : Trajectory} {push : AttestationPush}

theorem promoteFor_attestations (contractRevision : Option Nat) :
    (s.promoteFor push contractRevision).2.attestations = s.attestations := by
  unfold promoteFor
  split
  · rfl
  · split
    · split
      · rfl
      · rfl
    · rfl

theorem bound_promoteFor (contractRevision : Option Nat) (taskId : TaskId) (revision : Nat) :
    (s.promoteFor push contractRevision).2.bound taskId revision = s.bound taskId revision := by
  rw [bound, promoteFor_attestations]
  rfl

/-- A push binds to one revision only, and only when it is authoritative. -/
theorem binds_attestationRow {contractRevision : Option Nat} {taskId : TaskId} {revision : Nat}
    (binds : (attestationRow push contractRevision).binds taskId revision = true) :
    push.taskId = taskId ∧ contractRevision = some revision ∧ push.authoritative = true := by
  simp only [AttestationRow.binds, attestationRow, Bool.and_eq_true] at binds
  exact of_decide_eq_true binds.1

theorem mem_promote {taskId : TaskId} {revision : Nat} {outcome : ExecutionOutcome}
    {r' : ExecutionReceipt} : r' ∈ (s.promote taskId revision outcome).receipts ↔ ∃ r ∈ s.receipts,
      (if r.taskId = taskId ∧ r.contractRevision = revision then { r with outcome } else r) = r' := by
  rw [promote, Table.mem_update]

/-- What a promotion does to a receipt. -/
theorem mem_promoteFor {contractRevision : Option Nat} {r' : ExecutionReceipt}
    (mem : r' ∈ (s.promoteFor push contractRevision).2.receipts) :
    ∃ r ∈ s.receipts, r'.taskId = r.taskId ∧ r'.contractRevision = r.contractRevision ∧
      (r'.outcome = r.outcome ∨
        some r'.outcome = resolvedOutcome (s.bound r.taskId r.contractRevision)) ∧
      (push.authoritative = true → push.taskId = r.taskId → contractRevision = some r.contractRevision →
        r'.outcome = (resolvedOutcome (s.bound r.taskId r.contractRevision)).getD r.outcome) := by
  unfold promoteFor at mem
  split at mem
  · exact ⟨r', mem, rfl, rfl, .inl rfl, nofun⟩
  · rename_i revision
    split at mem
    · split at mem
      · rename_i none
        refine ⟨r', mem, rfl, rfl, .inl rfl, ?_⟩
        rintro - task ⟨⟩
        rw [← task, none]
        rfl
      · rename_i outcome found
        obtain ⟨r, was, rfl⟩ := mem_promote.mp mem
        by_cases here : r.taskId = push.taskId ∧ r.contractRevision = revision
        · rw [if_pos here]
          obtain ⟨task, rev⟩ := here
          refine ⟨r, was, rfl, rfl, .inr ?_, ?_⟩
          · rw [task, rev, found]
          · intros
            rw [task, rev, found]
            rfl
        · rw [if_neg here]
          refine ⟨r, was, rfl, rfl, .inl rfl, ?_⟩
          rintro - task ⟨⟩
          exact absurd ⟨task.symm, rfl⟩ here
    · rename_i quiet
      refine ⟨r', mem, rfl, rfl, .inl rfl, ?_⟩
      intro authoritative
      exact absurd authoritative quiet

/-- The texts of the push and of the attestations it joins are ordered as the instants. -/
def JoinsInOrder (s : Trajectory) (push : AttestationPush) : Prop :=
  ∀ revision, s.pushRevision push = some (some revision) → push.authoritative = true →
    ∀ a ∈ s.bound push.taskId revision, a.outcome.terminalKind = push.outcome.terminalKind →
      TextOrdered a.attestedAt push.attestedAt ∧ TextOrdered push.attestedAt a.attestedAt

theorem ResolvedInv.pushed {s' : Trajectory} {out : RecordAttestationOutcome} (inv : ResolvedInv s)
    (joins : JoinsInOrder s push) (done : s.recordOutcomeAttestation push = .ok (out, s')) :
    ResolvedInv s' := by
  obtain ⟨rfl, -⟩ | ⟨contractRevision, attestations, updated, named, -, stored, rfl⟩ :=
    recordOutcomeAttestation_ok done
  · exact inv
  have grown := bound_insert stored
  refine ⟨?_, ?_⟩
  · intro r' mem
    obtain ⟨r, was, task, revision, changed, promoted⟩ := mem_promoteFor mem
    rw [bound_promoteFor, task, revision]
    by_cases here : push.authoritative = true ∧ push.taskId = r.taskId ∧
        contractRevision = some r.contractRevision
    · rw [promoted here.1 here.2.1 here.2.2]
      cases resolved : resolvedOutcome ({ s with attestations }.bound r.taskId r.contractRevision) with
      | some outcome => rfl
      | none =>
          -- Nothing was bound before either, so the receipt is still as it was written.
          rw [Option.getD_none, Option.getD_none, inv.outcomes r was]
          have before : s.bound r.taskId r.contractRevision = [] := by
            have none := resolvedOutcome_eq_none resolved
            rw [grown] at none
            exact (List.append_eq_nil_iff.mp none).1
          rw [before]
          rfl
    · have same : { s with attestations }.bound r.taskId r.contractRevision =
          s.bound r.taskId r.contractRevision := by
        rw [grown, if_neg ?_, List.append_nil]
        intro binds
        obtain ⟨task, revision, authoritative⟩ := binds_attestationRow binds
        exact here ⟨authoritative, task, revision⟩
      rw [same]
      rcases changed with kept | some_
      · rw [kept]
        exact inv.outcomes r was
      · rw [same] at some_
        rw [← some_]
        rfl
  · intro taskId revision a mem b mem' kind
    rw [bound_promoteFor, grown, List.mem_append] at mem mem'
    have new : ∀ {c}, c ∈ (if (attestationRow push contractRevision).binds taskId revision then
        [attestationRow push contractRevision] else []) →
        c = attestationRow push contractRevision ∧
          (attestationRow push contractRevision).binds taskId revision = true := by
      intro c there
      split at there
      · rename_i binds
        exact ⟨List.mem_singleton.mp there, binds⟩
      · cases there
    rcases mem with old | fresh
    · rcases mem' with old' | fresh'
      · exact inv.ordered taskId revision a old b old' kind
      · obtain ⟨rfl, binds⟩ := new fresh'
        obtain ⟨rfl, rfl, authoritative⟩ := binds_attestationRow binds
        exact (joins revision named authoritative a old kind).1
    · obtain ⟨rfl, binds⟩ := new fresh
      obtain ⟨rfl, rfl, authoritative⟩ := binds_attestationRow binds
      rcases mem' with old' | fresh'
      · exact (joins revision named authoritative b old' kind.symm).2
      · obtain ⟨rfl, -⟩ := new fresh'
        exact textOrdered_self _

end Push

end Trajectory

/-- What can happen to a task's receipts and attestations.  A receipt is written by `Finalize`,
which leaves the outcome unknown. -/
inductive AttestationOp where
  | task (taskId : TaskId) (now : OffsetDateTime)
  | plan (row : ExecutionPlan)
  | finalize (receipt : ExecutionReceipt)
  | push (req : AttestationPush)

namespace AttestationOp

def apply (s : Trajectory) : AttestationOp → Trajectory
  | .task taskId now => commit s (s.insertTask taskId now)
  | .plan row => commit s (s.insertPlan row)
  | .finalize receipt => commit s (s.insertReceipt { receipt with outcome := .unknown })
  | .push req => commit s (s.recordOutcomeAttestation req)

/-- A receipt is written while its revision is unresolved, and an attestation joins those of
its kind in the order of its instant. -/
def Timely (s : Trajectory) : AttestationOp → Prop
  | .finalize receipt =>
      Trajectory.Unresolved (s.Bound receipt.taskId receipt.contractRevision)
  | .push req => Trajectory.JoinsInOrder s req
  | _ => True

theorem apply_resolved (s : Trajectory) (op : AttestationOp) (inv : s.ResolvedInv)
    (timely : op.Timely s) : (apply s op).ResolvedInv := by
  cases op with
  | task taskId now =>
      refine commit_of inv ?_
      intro _ next done
      obtain ⟨tasks, -, rfl⟩ := Trajectory.insertTask_ok done
      exact ⟨inv.outcomes, inv.ordered⟩
  | plan row =>
      refine commit_of inv ?_
      intro _ next done
      obtain ⟨plans, -, rfl⟩ := Trajectory.insertPlan_ok done
      exact ⟨inv.outcomes, inv.ordered⟩
  | finalize receipt =>
      refine commit_of inv ?_
      intro _ next done
      obtain ⟨receipts, stored, rfl⟩ := Trajectory.insertReceipt_ok done
      refine ⟨?_, inv.ordered⟩
      intro r mem
      rcases (Table.mem_insert? stored r).mp mem with old | rfl
      · exact inv.outcomes r old
      · exact (Trajectory.resolvedOutcome_of_unresolved timely).symm
  | push req => exact commit_of inv fun _ _ => inv.pushed timely

end AttestationOp

/-! ## Every order of arrivals -/

/-- Every receipt has the outcome its revision's attestations resolve to. -/
def AllResolved (s : Trajectory) : Prop :=
  ∀ r ∈ s.receipts, Resolution (s.Bound r.taskId r.contractRevision) r.outcome

theorem Trajectory.ResolvedInv.allResolved {s : Trajectory} (inv : s.ResolvedInv) : AllResolved s := by
  intro r mem
  rw [inv.outcomes r mem]
  exact Trajectory.resolvedOutcome_resolution (inv.ordered r.taskId r.contractRevision)

/-- A push that is not authoritative, or names no plan, changes no receipt. -/
theorem unbound_push_keeps_receipts {s s' : Trajectory} {push : AttestationPush}
    {out : RecordAttestationOutcome} (done : s.recordOutcomeAttestation push = .ok (out, s'))
    (unbound : push.authoritative = false ∨ push.planId = none) : s'.receipts = s.receipts := by
  obtain ⟨rfl, -⟩ | ⟨contractRevision, attestations, updated, named, -, stored, rfl⟩ :=
    Trajectory.recordOutcomeAttestation_ok done
  · rfl
  · unfold Trajectory.promoteFor
    split
    · rfl
    · rename_i revision
      rcases unbound with quiet | planless
      · rw [if_neg (by simp [quiet])]
      · rw [Trajectory.pushRevision, planless] at named
        cases named

theorem receipts_resolved (ops : List AttestationOp)
    (timely : Along AttestationOp.apply (fun s op => op.Timely s) .empty ops) :
    AllResolved (run AttestationOp.apply .empty ops) ∧
      ∀ push out s', (run AttestationOp.apply .empty ops).recordOutcomeAttestation push =
        .ok (out, s') →
        (push.authoritative = false ∨ push.planId = none →
          s'.receipts = (run AttestationOp.apply .empty ops).receipts) ∧
        ((∀ revision updated, out ≠ .recorded revision updated) →
          s' = run AttestationOp.apply .empty ops) := by
  have start : Trajectory.empty.ResolvedInv := by
    refine ⟨?_, ?_⟩
    · intro r mem
      cases mem
    · intro taskId revision a mem
      cases mem
  refine ⟨(run_invariant AttestationOp.apply_resolved timely start).allResolved, ?_⟩
  intro push out s' done
  refine ⟨unbound_push_keeps_receipts done, ?_⟩
  intro unrecorded
  obtain ⟨same, -⟩ | ⟨revision, _, updated, -, recorded, -⟩ :=
    Trajectory.recordOutcomeAttestation_ok done
  · exact same
  · exact absurd recorded (unrecorded revision updated)

/-! ## Poles -/

def attestedTask : TaskId := ⟨1⟩

def attestedPlan : ExecutionPlan :=
  { id := ⟨1⟩, taskId := attestedTask, contractRevision := 1, createdAt := 0, estimate := none,
    taskFeatures := none, replaces := none, admission := none }

def attestedReceipt : ExecutionReceipt :=
  { taskId := attestedTask, contractRevision := 1, planId := ⟨1⟩, actualDurationSecs := 60,
    actualUsage := [], outcome := .unknown, recordedAt := 0, toolCallCount := 0, taskFeatures := none }

/-- An authoritative claim of completion. -/
def attested (n : BitVec 128) (key : String) (attestedAt : OffsetDateTime) : AttestationPush :=
  { id := ⟨n⟩, taskId := attestedTask, planId := some ⟨1⟩, source := "provider",
    sourceId := some "ci", outcome := .completed [key], idempotencyKey := key, authoritative := true,
    attestedAt }

def attestedStart : List AttestationOp := [.task attestedTask 0, .plan attestedPlan]

/-- The evidence of a claim at `00.5Z`, half a second after one at `00Z`, is passed over. -/
def halfSecond : List AttestationOp :=
  attestedStart ++ [.finalize attestedReceipt, .push (attested 1 "first" 0),
    .push (attested 2 "second" 500000000)]

/-- The receipt is written after its revision is attested. -/
def lateReceipt : List AttestationOp :=
  attestedStart ++ [.push (attested 1 "first" 0), .finalize attestedReceipt]

theorem receipts_unresolved :
    ¬ AllResolved (run AttestationOp.apply .empty halfSecond) ∧
      ¬ AllResolved (run AttestationOp.apply .empty lateReceipt) := by
  refine ⟨?_, ?_⟩
  · intro resolved
    have row : { attestedReceipt with outcome := .completed ["first"] } ∈
        (run AttestationOp.apply .empty halfSecond).receipts.rows := by decide +kernel
    have latest : Trajectory.attestationRow (attested 2 "second" 500000000) (some 1) ∈
        (run AttestationOp.apply .empty halfSecond).bound attestedTask 1 := by decide +kernel
    have times : ∀ a ∈ (run AttestationOp.apply .empty halfSecond).bound attestedTask 1,
        a.outcome = .completed ["first"] → a.attestedAt = 0 := by decide +kernel
    have agreed := resolved _ row
    generalize outcome_eq : ExecutionOutcome.completed ["first"] = outcome at agreed
    cases agreed with
    | agreed mem same after =>
        have later := after _ latest
        rw [times _ mem outcome_eq.symm] at later
        exact absurd later (by decide)
    | none none => cases outcome_eq
    | conflict mem mem' differ => cases outcome_eq
  · intro resolved
    have row : attestedReceipt ∈ (run AttestationOp.apply .empty lateReceipt).receipts.rows := by
      decide +kernel
    have claimed : ∀ a ∈ (run AttestationOp.apply .empty lateReceipt).bound attestedTask 1,
        a = Trajectory.attestationRow (attested 1 "first" 0) (some 1) := by decide +kernel
    have there : Trajectory.attestationRow (attested 1 "first" 0) (some 1) ∈
        (run AttestationOp.apply .empty lateReceipt).bound attestedTask 1 := by decide +kernel
    have agreed := resolved _ row
    generalize outcome_eq : attestedReceipt.outcome = outcome at agreed
    cases agreed with
    | agreed mem same after =>
        rw [claimed _ mem] at outcome_eq
        cases outcome_eq
    | none none => exact none _ there
    | conflict mem mem' differ => exact differ (by rw [claimed _ mem, claimed _ mem'])

/-- Two claims a whole second apart, after the receipt. -/
def wholeSecond : List AttestationOp :=
  attestedStart ++ [.finalize attestedReceipt, .push (attested 1 "first" 0),
    .push (attested 2 "second" 1000000000)]

theorem second_apart_resolved : AllResolved (run AttestationOp.apply .empty wholeSecond) := by
  refine (receipts_resolved wholeSecond ?_).1
  refine ⟨trivial, trivial, .inl ?_, ?_, ?_, trivial⟩
  · intro a mem
    cases mem
  · intro revision _ _ a mem
    cases mem
  · intro revision named _
    have one : revision = 1 := by
      have only : (run AttestationOp.apply .empty (attestedStart ++ [.finalize attestedReceipt,
          .push (attested 1 "first" 0)])).pushRevision (attested 2 "second" 1000000000) =
            some (some 1) := by decide +kernel
      exact Option.some.inj (Option.some.inj (named.symm.trans only))
    subst one
    have before : ∀ a ∈ (run AttestationOp.apply .empty (attestedStart ++
        [.finalize attestedReceipt, .push (attested 1 "first" 0)])).bound attestedTask 1,
        a.attestedAt = 0 := by decide +kernel
    intro a mem _
    rw [before a mem]
    exact ⟨by decide, by decide⟩

end LibraGovernor
