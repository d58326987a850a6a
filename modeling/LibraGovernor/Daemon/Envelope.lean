/-
# LibraGovernor.Daemon.Envelope -- an admitted request fits the ledger's headroom

The admission projects what a task has spent, holds and now asks for against the bound of
its policy; the ledger then reserves the part of the request that the completion reserve
does not hold, against the headroom of the task's budget.  Both read the same figures, so
what is not denied fits (`envelope_covered`), with one exception: a projection in percent
saturates at one hundred, and a ceiling of one hundred is never exceeded by it
(`Saturated`).  There the envelope has to fit by itself.
-/
import LibraGovernor.Daemon.Legacy
import LibraGovernor.Ledger.TrajectoryTransitions

namespace LibraGovernor

open Transaction

set_option autoImplicit false

/-! ## Amounts -/

namespace ResourceAmount

@[simp] theorem fromKind_kind (kind : ResourceKind) (value : Int) : (fromKind kind value).kind = kind := by
  cases kind with
  | usd => rfl
  | tokens => rfl
  | quotaPercent => rfl

theorem fromKind_of_ne {kind : ResourceKind} (other : kind ≠ .quotaPercent) (value : Int) :
    (fromKind kind value).value = max value 0 := by
  cases kind with
  | usd => rfl
  | tokens => rfl
  | quotaPercent => exact absurd rfl other

theorem fromKind_percent (value : Int) :
    (fromKind .quotaPercent value).value = min (max value 0) fullQuota := rfl

theorem fullQuota_pos : 0 < fullQuota := by decide

theorem fromKind_le {kind : ResourceKind} {value : Int} (nonneg : 0 ≤ value) :
    (fromKind kind value).value ≤ value := by
  by_cases percent : kind = .quotaPercent
  · rw [percent, fromKind_percent]
    omega
  · rw [fromKind_of_ne percent]
    omega

theorem fromKind_zero (kind : ResourceKind) : (fromKind kind 0).value = 0 := by
  cases kind with
  | usd => rfl
  | tokens => rfl
  | quotaPercent => rfl

theorem scaled_nonneg {a : ResourceAmount} (nonneg : 0 ≤ a.value) (percent : Nat) :
    0 ≤ (a.scaled percent).value := by
  have product : 0 ≤ 2 * a.value * percent := Int.mul_nonneg (by omega) (Int.natCast_nonneg percent)
  have quotient : 0 ≤ (2 * a.value * percent + 100) / 200 := Int.ediv_nonneg (by omega) (by decide)
  have full := fullQuota_pos
  unfold scaled
  split
  · simp only
    omega
  · exact quotient

end ResourceAmount

/-! ## What a policy decides -/

theorem validateQuotaPercentRange_ok {a : ResourceAmount} (valid : validateQuotaPercentRange a = .ok ())
    (percent : a.kind = .quotaPercent) : a.value ≤ fullQuota := by
  unfold validateQuotaPercentRange at valid
  split at valid
  · cases valid
  · rename_i inside
    have bounds := not_and_not_right.mp inside percent
    exact bounds.2

structure ResourceBound.Ordered (b : ResourceBound) : Prop where
  kinds : b.target.kind = b.hardCeiling.kind
  target_le : b.target.value ≤ b.hardCeiling.value
  percent : b.hardCeiling.kind = .quotaPercent → b.hardCeiling.value ≤ fullQuota
  elastic_le : ∀ elastic, b.mode = .elastic → b.elasticCeiling = some elastic →
    elastic.value ≤ b.hardCeiling.value

theorem validateElastic_ok {b : ResourceBound} (valid : validateElastic b = .ok ())
    {elastic : ResourceAmount} (mode : b.mode = .elastic) (found : b.elasticCeiling = some elastic) :
    elastic.value ≤ b.hardCeiling.value := by
  simp only [validateElastic, mode, found] at valid
  split at valid
  · cases valid
  · split at valid
    · cases valid
    · split at valid
      · cases valid
      · omega

theorem validateResource_ok {b : ResourceBound} (valid : validateResource b = .ok ()) : b.Ordered := by
  simp only [validateResource] at valid
  split at valid
  · cases valid
  rename_i kinds
  split at valid
  · cases valid
  rename_i target_le
  simp only [bind_eq_ok_iff] at valid
  obtain ⟨_, -, _, percent, elastic⟩ := valid
  have last : validateElastic b = .ok () := by
    split at elastic
    · rw [bind_eq_ok_iff] at elastic
      obtain ⟨_, -, last⟩ := elastic
      exact last
    · exact elastic
  exact
    { kinds := not_not.mp kinds
      target_le := by omega
      percent := validateQuotaPercentRange_ok percent
      elastic_le := fun elastic mode found => validateElastic_ok last mode found }

theorem evaluateResource_within {b : ResourceBound} {projected : ResourceAmount}
    {outcome : ConstraintOutcome} (ordered : b.Ordered)
    (done : evaluateResource b projected = .ok outcome) (passed : outcome.denial = none) :
    projected.value ≤ b.hardCeiling.value := by
  unfold evaluateResource at done
  have target_le := ordered.target_le
  cases mode : b.mode with
  | hard =>
      simp only [mode, Except.ok.injEq] at done
      split at done
      · subst done
        cases passed
      · omega
  | elastic =>
      simp only [mode] at done
      split at done
      · cases done
      · rename_i elastic found
        have elastic_le := ordered.elastic_le elastic mode found
        rw [Except.ok.injEq] at done
        split at done
        · omega
        · split at done
          · assumption
          · subst done
            cases passed
  | approval =>
      simp only [mode, Except.ok.injEq] at done
      split at done
      · omega
      · split at done
        · assumption
        · subst done
          cases passed

/-- Nothing was denied. -/
def Admission.Passed (a : Admission) : Prop := ∀ reasons, a ≠ .deny reasons

theorem denial_eq_none_of_passed {p : AdmissionPolicy} {projected : ResourceAmount} {secs : Nat}
    {confidence : Confidence} {d : PolicyDecision}
    (done : p.evaluateWith projected secs confidence true = .ok d) (passed : d.admission.Passed) :
    ∃ outcome, evaluateResource p.resource projected = .ok outcome ∧ outcome.denial = none := by
  simp only [AdmissionPolicy.evaluateWith] at done
  split at done
  · cases done
  simp only [bind_eq_ok_iff, if_true] at done
  obtain ⟨outcome, evaluated, time, -, done⟩ := done
  cases done
  refine ⟨outcome, evaluated, ?_⟩
  cases denied : outcome.denial with
  | none => rfl
  | some reason =>
      exfalso
      simp only [List.filterMap_cons, denied] at passed
      exact passed _ (if_pos (by simp))

theorem passed_of_withTurnOutcome {d : PolicyDecision} {outcome : ConstraintOutcome}
    (passed : (d.withTurnOutcome outcome).admission.Passed) :
    d.admission.Passed ∧ outcome.denial = none := by
  unfold PolicyDecision.withTurnOutcome at passed
  cases denied : outcome.denial with
  | none =>
      simp only [denied] at passed
      exact ⟨passed, rfl⟩
  | some reason =>
      exfalso
      simp only [denied] at passed
      cases admission : d.admission with
      | admitted => exact passed [reason] (by simp [admission])
      | approvalRequired requests => exact passed [reason] (by simp [admission])
      | deny reasons => exact passed (reasons ++ [reason]) (by simp [admission])

/-- Nobody outside admits what the policy denied. -/
theorem passed_of_finalDecision {d : PolicyDecision} {approval : Option ExternalApproval}
    (admitted : (finalDecision d approval).admission = .admitted) : d.admission.Passed := by
  intro reasons denied
  simp [finalDecision, denied] at admitted

theorem evaluateTurn_within {p : AdmissionPolicy} {requested : ResourceAmount}
    {outcome : ConstraintOutcome} {turn : TurnBound} (bound : p.turn = some turn)
    (done : p.evaluateTurn requested = .ok outcome) (passed : outcome.denial = none) :
    requested.value ≤ turn.ceiling.value := by
  simp only [AdmissionPolicy.evaluateTurn, bound] at done
  split at done
  · cases done
  · split at done
    · cases done
      cases passed
    · omega

theorem extendedBy_zero (b : ResourceBound) {granted : ResourceAmount} (none : granted.value = 0) :
    b.extendedBy granted = b := by
  rw [ResourceBound.extendedBy, if_pos (.inr none)]

/-- What a verdict that is no denial says of the request. -/
theorem policyDecision_passed {effective : AdmissionPolicy} {budget : TaskBudget}
    {figures : BudgetFigures} {requested : ResourceAmount} {estimate : Estimate} {d : PolicyDecision}
    (done : policyDecision effective budget figures requested estimate = .ok d)
    (passed : d.admission.Passed) (renewed : figures.granted.value = 0) :
    (budget.lifetimeScope ≠ .turnScoped → ∃ outcome,
      evaluateResource effective.resource (.fromKind budget.resourceKind
        (figures.used.value + figures.reserved.value + requested.value)) = .ok outcome ∧
      outcome.denial = none) ∧
    ∀ turn, effective.turn = some turn → requested.value ≤ turn.ceiling.value := by
  simp only [policyDecision, bind_eq_ok_iff, extendedBy_zero _ renewed] at done
  obtain ⟨lifetime, evaluated, outcome, gated, done⟩ := done
  cases done
  obtain ⟨lifetime_passed, turn_passed⟩ := passed_of_withTurnOutcome passed
  refine ⟨?_, ?_⟩
  · intro scope
    rw [decide_eq_true scope] at evaluated
    exact denial_eq_none_of_passed evaluated lifetime_passed
  · intro turn bound
    exact evaluateTurn_within bound gated turn_passed

/-! ## The business context narrows the time only -/

theorem validatedAt_ok {resource : ResourceBound} {time : TimeBound} {floor : CompletionContract}
    {confidence : Confidence} {now : OffsetDateTime} {p : AdmissionPolicy}
    (done : AdmissionPolicy.validatedAt resource time floor confidence now = .ok p) :
    p.resource = resource ∧ p.turn = none := by
  simp only [AdmissionPolicy.validatedAt, bind_eq_ok_iff] at done
  obtain ⟨_, -, _, -, done⟩ := done
  split at done
  · cases done
  · cases done
    exact ⟨rfl, rfl⟩

theorem applyBusinessContext_bounds {base : AdmissionPolicy} (deadline : Option OffsetDateTime)
    (now : OffsetDateTime)
    (valid : ∀ turn, base.turn = some turn → validateTurn base.resource turn = .ok ()) :
    (applyBusinessContext base deadline now).1.resource = base.resource ∧
      (applyBusinessContext base deadline now).1.turn = base.turn := by
  unfold applyBusinessContext
  split
  · exact ⟨rfl, rfl⟩
  dsimp only
  split
  · exact ⟨rfl, rfl⟩
  split
  · exact ⟨rfl, rfl⟩
  rename_i derived narrowed
  obtain ⟨resource, unbounded⟩ := validatedAt_ok narrowed
  split
  · rename_i none
    exact ⟨resource, unbounded.trans none.symm⟩
  · rename_i turn bound
    have attached : derived.withTurnBound turn = .ok { derived with turn := some turn } := by
      rw [AdmissionPolicy.withTurnBound, resource, valid turn bound]
      rfl
    rw [attached]
    exact ⟨resource, bound.symm⟩

theorem effectivePolicy_bounds {policy : AdmissionPolicy} (input : PreflightInput)
    (valid : ∀ turn, policy.turn = some turn → validateTurn policy.resource turn = .ok ()) :
    (effectivePolicy policy input).resource = policy.resource ∧
      (effectivePolicy policy input).turn = policy.turn := by
  unfold effectivePolicy
  split
  · exact applyBusinessContext_bounds _ _ valid
  · exact ⟨rfl, rfl⟩

/-! ## The envelope -/

/-- The terms every budget of a configuration is set up with. -/
def DaemonConfig.terms (config : DaemonConfig) : ResourceKind × Int × LifetimeScope × Policy :=
  (config.policy.resource.target.kind, config.policy.resource.hardCeiling.value,
    if config.policy.turn.isSome then config.lifetimeScope else .lifetimeBounded, config.policy.ledger)

/-- The part of a request a preflight reserves, after the contract it follows. -/
def envelopeAfter (config : DaemonConfig) (input : PreflightInput)
    (previous : Option CompletionContract) : ResourceAmount :=
  workEnvelope config.policy.resource.target.kind
    (requestedAmount config.policy config.policy.resource.target.kind input.estimate)
    (completionReserveFor (draftContract previous input.criteria) (some input.estimate) config.policy)

/-- The gate of the lifetime is in percent and stands at one hundred. -/
def DaemonConfig.Saturated (config : DaemonConfig) : Prop :=
  config.policy.resource.target.kind = .quotaPercent ∧ config.policy.resource.hardCeiling.value = fullQuota ∧
    (config.policy.turn.isSome → config.lifetimeScope = .lifetimeBounded)

instance (config : DaemonConfig) : Decidable config.Saturated :=
  inferInstanceAs (Decidable (_ ∧ _ ∧ (_ → _)))

theorem requestedAmount_nonneg {policy : AdmissionPolicy} (validated : policy.Validated)
    (kind : ResourceKind) (estimate : Estimate) : 0 ≤ (requestedAmount policy kind estimate).value := by
  unfold requestedAmount
  cases given : estimate.resourceP80.filter fun a => a.kind = kind with
  | none => exact validated.nonneg.2
  | some a =>
      have there := (Option.filter_eq_some_iff.mp given).1
      exact estimate.nonneg a there

theorem completionReserveFor_nonneg {policy : AdmissionPolicy} (validated : policy.Validated)
    (contract : CompletionContract) (estimate : Estimate) :
    0 ≤ (completionReserveFor contract (some estimate) policy).amount.value := by
  have ordered := validateResource_ok validated.resource
  have target := validated.nonneg.1
  have target_le := ordered.target_le
  unfold completionReserveFor
  dsimp only
  split
  · omega
  · exact ResourceAmount.scaled_nonneg (requestedAmount_nonneg validated _ estimate) _

theorem workEnvelope_le {kind : ResourceKind} {requested : ResourceAmount}
    {reserve : CompletionReserveEstimate} (nonneg : 0 ≤ requested.value)
    (held : 0 ≤ reserve.amount.value) : (workEnvelope kind requested reserve).value ≤ requested.value := by
  have clipped : (workEnvelope kind requested reserve).value ≤
      max (requested.value - reserve.amount.value) 0 := ResourceAmount.fromKind_le (by omega)
  omega

theorem envelopeAfter_le {config : DaemonConfig} (validated : config.policy.Validated)
    (input : PreflightInput) (previous : Option CompletionContract) :
    (envelopeAfter config input previous).value ≤
      (requestedAmount config.policy config.policy.resource.target.kind input.estimate).value :=
  workEnvelope_le (requestedAmount_nonneg validated _ _) (completionReserveFor_nonneg validated _ _)

/-- A projection within the ceiling, unless it saturates, is one of the sum itself. -/
theorem sum_le_of_projected {kind : ResourceKind} {settled active requested hard : Int}
    (nonneg : 0 ≤ requested) (percent : kind = .quotaPercent → hard < fullQuota)
    (within : (ResourceAmount.fromKind kind ((ResourceAmount.fromKind kind settled).value +
      (ResourceAmount.fromKind kind active).value + requested)).value ≤ hard) :
    settled + active + requested ≤ hard := by
  by_cases kind_eq : kind = .quotaPercent
  · have below := percent kind_eq
    subst kind_eq
    simp only [ResourceAmount.fromKind_percent] at within
    omega
  · simp only [ResourceAmount.fromKind_of_ne kind_eq] at within
    omega

/-- What an admitted preflight reserves is within the headroom of its task's budget. -/
theorem envelope_covered {config : DaemonConfig} (validated : config.policy.Validated)
    {input : PreflightInput} {budget : TaskBudget} (settled : Int) {figures : BudgetFigures}
    {d : PolicyDecision} (previous : Option CompletionContract)
    (terms : TaskLedger.terms budget = config.terms)
    (used : figures.used = .fromKind budget.resourceKind settled)
    (reserved : figures.reserved = .fromKind budget.resourceKind 0)
    (renewed : figures.granted = .fromKind budget.resourceKind 0)
    (done : policyDecision (effectivePolicy config.policy input) budget figures
      (requestedAmount config.policy budget.resourceKind input.estimate) input.estimate = .ok d)
    (admitted : (finalDecision d input.approval).admission = .admitted)
    (fits : config.Saturated → (envelopeAfter config input previous).value + settled ≤ fullQuota) :
    (envelopeAfter config input previous).value ≤ budget.gateHeadroom 0 settled 0 := by
  have passed := passed_of_finalDecision admitted
  have none_renewed : figures.granted.value = 0 := by rw [renewed, ResourceAmount.fromKind_zero]
  obtain ⟨lifetime, turn⟩ := policyDecision_passed done passed none_renewed
  obtain ⟨same_resource, same_turn⟩ := effectivePolicy_bounds input validated.turn
  simp only [TaskLedger.terms, DaemonConfig.terms, Prod.mk.injEq] at terms
  obtain ⟨kind, hard, scope, policy⟩ := terms
  rw [kind] at turn lifetime
  have ordered := validateResource_ok validated.resource
  have le := envelopeAfter_le validated input previous
  have nonneg := requestedAmount_nonneg validated config.policy.resource.target.kind input.estimate
  cases gate : budget.lifetimeScope with
  | turnScoped =>
      cases bound : config.policy.turn with
      | none =>
          rw [bound, gate] at scope
          cases scope
      | some ceiling =>
          have within := turn ceiling (same_turn.trans bound)
          simp only [TaskBudget.gateHeadroom, TaskBudget.turnCeilingIfScoped, gate, policy,
            AdmissionPolicy.ledger, bound, Option.map_some]
          omega
  | lifetimeBounded =>
      simp only [TaskBudget.gateHeadroom, TaskBudget.turnCeilingIfScoped, gate,
        TaskBudget.effectiveHardLimit, hard]
      by_cases saturated : config.Saturated
      · have alone := fits saturated
        rw [saturated.2.1]
        omega
      · obtain ⟨outcome, evaluated, undenied⟩ := lifetime (by rw [gate]; exact nofun)
        have within := evaluateResource_within (same_resource ▸ ordered) evaluated undenied
        rw [same_resource, used, reserved, kind] at within
        have sum := sum_le_of_projected nonneg ?_ within
        · omega
        · intro percent
          have most := ordered.percent (ordered.kinds.symm.trans percent)
          have bounded : config.policy.turn.isSome → config.lifetimeScope = .lifetimeBounded := by
            intro some_
            rw [gate, if_pos some_] at scope
            exact scope.symm
          have short : config.policy.resource.hardCeiling.value ≠ fullQuota :=
            fun full => saturated ⟨percent, full, bounded⟩
          omega

end LibraGovernor
