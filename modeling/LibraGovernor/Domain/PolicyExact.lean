/-
# LibraGovernor.Domain.PolicyExact -- the policy decision over exact numbers

`Domain.Policy` counts in whole units, which is what the ledger stores, and a percentage in
millionths.  Here an amount is an exact number of cents, tokens or percent, whole in cents and in
tokens.  What one
constraint decides is a gate with two thresholds (`evaluateResource_severity`,
`evaluateTime_severity`), and what a policy decides is the severest of them
(`evaluateWith_severity`): with the thresholds in order, as validation leaves them, the decision is
monotone and past a ceiling it denies.

`extendedBy` moves every threshold by a grant.  It goes through the constructor that saturates a
percentage at one hundred, so a percentage bound is moved exactly only as far as that.  The decision
is never less severe, and it is another one exactly where the bound allowed the projection and the
moved projection is past one hundred percent (`extendedBy_severity`).  On whole units this policy
decides as that of `Domain.Policy` does (`evaluate_ofWhole`).
-/
import LibraGovernor.Lib.Gate
import LibraGovernor.Domain.BusinessContext
import Mathlib.Algebra.Order.Round
import Mathlib.Data.Rat.Floor

namespace LibraGovernor

open Transaction

namespace Exact

set_option autoImplicit false

/-! ## Amounts and bounds -/

/-- An amount that is not negative; cents and tokens are whole. -/
structure ResourceAmount where
  kind : ResourceKind
  value : ℚ
  nonneg : 0 ≤ value
  whole : kind ≠ .quotaPercent → ∃ n : ℤ, value = n

namespace ResourceAmount

theorem ext {a b : ResourceAmount} (kind : a.kind = b.kind) (value : a.value = b.value) : a = b := by
  cases a
  cases b
  cases kind
  cases value
  rfl

instance : DecidableEq ResourceAmount := fun a b =>
  decidable_of_iff (a.kind = b.kind ∧ a.value = b.value)
    ⟨fun same => ext same.1 same.2, fun same => same ▸ ⟨rfl, rfl⟩⟩

/-- The value `from_kind_f64` stores. -/
def storedValue (kind : ResourceKind) (value : ℚ) : ℚ :=
  match kind with
  | .quotaPercent => min (max value 0) 100
  | _ => round (max value 0)

theorem storedValue_whole {kind : ResourceKind} (value : ℚ) (units : kind ≠ .quotaPercent) :
    storedValue kind value = round (max value 0) := by
  cases kind with
  | quotaPercent => exact absurd rfl units
  | _ => rfl

theorem storedValue_nonneg (kind : ResourceKind) (value : ℚ) : 0 ≤ storedValue kind value := by
  by_cases units : kind = .quotaPercent
  · subst units
    exact le_min (le_max_right value 0) (by norm_num)
  · rw [storedValue_whole value units]
    have nonneg : 0 ≤ round (max value 0) := by
      rw [round_eq]
      exact Int.floor_nonneg.mpr (add_nonneg (le_max_right value 0) (by norm_num))
    exact_mod_cast nonneg

/-- `from_kind_f64`. -/
def fromKind (kind : ResourceKind) (value : ℚ) : ResourceAmount where
  kind
  value := storedValue kind value
  nonneg := storedValue_nonneg kind value
  whole units := ⟨round (max value 0), storedValue_whole value units⟩

end ResourceAmount

structure ResourceBound where
  mode : ConstraintMode
  target : ResourceAmount
  elasticCeiling : Option ResourceAmount
  hardCeiling : ResourceAmount
  deriving DecidableEq

def ResourceBound.extendedBy (b : ResourceBound) (granted : ResourceAmount) : ResourceBound :=
  if granted.kind ≠ b.target.kind ∨ granted.value = 0 then b
  else
    let shift := fun a : ResourceAmount => ResourceAmount.fromKind a.kind (a.value + granted.value)
    { mode := b.mode
      target := shift b.target
      elasticCeiling := b.elasticCeiling.map shift
      hardCeiling := shift b.hardCeiling }

structure TurnBound where
  coldStartRequest : ResourceAmount
  ceiling : ResourceAmount
  deriving DecidableEq

structure Policy where
  resource : ResourceBound
  time : TimeBound
  qualityFloor : CompletionContract
  minConfidence : Confidence
  turn : Option TurnBound
  deriving DecidableEq

/-! ## Validation -/

inductive PolicyValidationError where
  | resourceKindMismatch (targetKind hardCeilingKind : ResourceKind)
  | resourceElasticKindMismatch (targetKind elasticKind : ResourceKind)
  | resourceTargetExceedsHardCeiling (target hardCeiling : ResourceAmount)
  | resourceElasticCeilingBelowTarget (target elastic : ResourceAmount)
  | resourceElasticCeilingAboveHardCeiling (elastic hardCeiling : ResourceAmount)
  | resourceElasticModeMissingCeiling (mode : ConstraintMode)
  | resourceElasticCeilingSetForMode (mode : ConstraintMode)
  | resourceQuotaPercentOutOfRange (amount : ResourceAmount)
  | turnColdStartKindMismatch (resourceKind coldStartKind : ResourceKind)
  | turnCeilingKindMismatch (resourceKind ceilingKind : ResourceKind)
  | turnCeilingBelowColdStartRequest (coldStartRequest ceiling : ResourceAmount)
  /-- What has no amount in it is reported as it is over whole units. -/
  | other (e : LibraGovernor.PolicyValidationError)
  deriving DecidableEq

def validateQuotaPercentRange (a : ResourceAmount) : Except PolicyValidationError Unit :=
  if a.kind = .quotaPercent ∧ ¬ (0 ≤ a.value ∧ a.value ≤ 100) then
    .error (.resourceQuotaPercentOutOfRange a)
  else .ok ()

def validateElastic (r : ResourceBound) : Except PolicyValidationError Unit :=
  match r.mode, r.elasticCeiling with
  | .elastic, none => .error (.resourceElasticModeMissingCeiling r.mode)
  | .elastic, some elastic =>
      if elastic.kind ≠ r.target.kind then
        .error (.resourceElasticKindMismatch r.target.kind elastic.kind)
      else if elastic.value < r.target.value then
        .error (.resourceElasticCeilingBelowTarget r.target elastic)
      else if r.hardCeiling.value < elastic.value then
        .error (.resourceElasticCeilingAboveHardCeiling elastic r.hardCeiling)
      else .ok ()
  | _, some _ => .error (.resourceElasticCeilingSetForMode r.mode)
  | _, none => .ok ()

def validateResource (r : ResourceBound) : Except PolicyValidationError Unit := do
  if r.target.kind ≠ r.hardCeiling.kind then
    throw (.resourceKindMismatch r.target.kind r.hardCeiling.kind)
  if r.hardCeiling.value < r.target.value then
    throw (.resourceTargetExceedsHardCeiling r.target r.hardCeiling)
  validateQuotaPercentRange r.target
  validateQuotaPercentRange r.hardCeiling
  match r.elasticCeiling with
  | some elastic => validateQuotaPercentRange elastic
  | none => pure ()
  validateElastic r

def validateTurn (r : ResourceBound) (turn : TurnBound) : Except PolicyValidationError Unit :=
  if turn.coldStartRequest.kind ≠ r.target.kind then
    .error (.turnColdStartKindMismatch r.target.kind turn.coldStartRequest.kind)
  else if turn.ceiling.kind ≠ r.target.kind then
    .error (.turnCeilingKindMismatch r.target.kind turn.ceiling.kind)
  else if turn.ceiling.value < turn.coldStartRequest.value then
    .error (.turnCeilingBelowColdStartRequest turn.coldStartRequest turn.ceiling)
  else .ok ()

namespace Policy

def validatedAt (resource : ResourceBound) (time : TimeBound) (qualityFloor : CompletionContract)
    (minConfidence : Confidence) (now : OffsetDateTime) : Except PolicyValidationError Policy := do
  validateResource resource
  (validateTime time now).mapError .other
  if qualityFloor.requiredCriteria = [] then throw (.other .emptyRequiredCriteria)
  return { resource, time, qualityFloor, minConfidence, turn := none }

def withTurnBound (p : Policy) (turn : TurnBound) : Except PolicyValidationError Policy := do
  validateTurn p.resource turn
  return { p with turn := some turn }

/-- Accepted by `validated_at`, with no turn bound or an accepted one. -/
inductive Accepted : Policy → Prop where
  | validated {resource : ResourceBound} {time : TimeBound} {qualityFloor : CompletionContract}
      {minConfidence : Confidence} {now : OffsetDateTime} {p : Policy}
      (done : validatedAt resource time qualityFloor minConfidence now = .ok p) : Accepted p
  | withTurn {base p : Policy} {turn : TurnBound} (accepted : Accepted base)
      (done : base.withTurnBound turn = .ok p) : Accepted p

end Policy

/-! ## Decisions -/

inductive ApprovalRequest where
  | resource (projected target : ResourceAmount) (elasticCeiling : Option ResourceAmount)
      (hardCeiling : ResourceAmount)
  | time (projectedSecs targetSecs : Nat) (elasticCeilingSecs hardCeilingSecs : Option Nat)
  deriving DecidableEq

inductive DenyReason where
  | resourceExceedsHardCeiling (projected hardCeiling : ResourceAmount)
  | timeExceedsHardCeiling (projectedSecs hardCeilingSecs : Nat)
  | confidenceBelowThreshold (actual required : Confidence)
  | externalPolicyRejected (providerId reason : String)
  | resourceExceedsTurnCeiling (projected turnCeiling : ResourceAmount)
  deriving DecidableEq

inductive ConstraintOutcome where
  | admitted
  | approvalRequired (request : ApprovalRequest)
  | deny (reason : DenyReason)
  deriving DecidableEq

inductive Admission where
  | admitted
  | approvalRequired (requests : List ApprovalRequest)
  | deny (reasons : List DenyReason)
  deriving DecidableEq

structure PolicyDecision where
  admission : Admission
  resourceOutcome : ConstraintOutcome
  timeOutcome : ConstraintOutcome
  confidenceOk : Bool
  protectedCriteria : List CompletionCriterion
  turnOutcome : Option ConstraintOutcome
  deriving DecidableEq

def evaluateResource (b : ResourceBound) (projected : ResourceAmount) :
    Except PolicyEvaluationError ConstraintOutcome :=
  let past : ConstraintOutcome := .deny (.resourceExceedsHardCeiling projected b.hardCeiling)
  let ask := fun elastic =>
    ConstraintOutcome.approvalRequired (.resource projected b.target elastic b.hardCeiling)
  match b.mode with
  | .hard => .ok (if b.hardCeiling.value < projected.value then past else .admitted)
  | .elastic =>
      match b.elasticCeiling with
      | none => .error .inconsistentResourceBound
      | some elastic =>
          .ok (if projected.value ≤ b.target.value ∨ projected.value ≤ elastic.value then .admitted
            else if projected.value ≤ b.hardCeiling.value then ask (some elastic)
            else past)
  | .approval =>
      .ok (if projected.value ≤ b.target.value then .admitted
        else if projected.value ≤ b.hardCeiling.value then ask none
        else past)

def timeBeyond (b : TimeBound) (projectedSecs : Nat) (elastic : Option Nat) : ConstraintOutcome :=
  match b.hardCeilingSecs with
  | some hard =>
      if projectedSecs ≤ hard then
        .approvalRequired (.time projectedSecs b.targetSecs elastic b.hardCeilingSecs)
      else .deny (.timeExceedsHardCeiling projectedSecs hard)
  | none => .approvalRequired (.time projectedSecs b.targetSecs elastic none)

def evaluateTime (b : TimeBound) (projectedSecs : Nat) :
    Except PolicyEvaluationError ConstraintOutcome :=
  match b.mode with
  | .hard =>
      match b.hardCeilingSecs with
      | none => .error (.inconsistentTimeBound .hard)
      | some hard =>
          .ok (if hard < projectedSecs then .deny (.timeExceedsHardCeiling projectedSecs hard)
            else .admitted)
  | .elastic =>
      match b.elasticCeilingSecs with
      | none => .error (.inconsistentTimeBound .elastic)
      | some elastic =>
          .ok (if projectedSecs ≤ b.targetSecs ∨ projectedSecs ≤ elastic then .admitted
            else timeBeyond b projectedSecs (some elastic))
  | .approval =>
      .ok (if projectedSecs ≤ b.targetSecs then .admitted else timeBeyond b projectedSecs none)

namespace ConstraintOutcome

def denial : ConstraintOutcome → Option DenyReason
  | .deny reason => some reason
  | _ => none

def question : ConstraintOutcome → Option ApprovalRequest
  | .approvalRequired request => some request
  | _ => none

end ConstraintOutcome

namespace Policy

def evaluateWith (p : Policy) (projected : ResourceAmount) (projectedSecs : Nat)
    (confidence : Confidence) (lifetimeResource : Bool) :
    Except PolicyEvaluationError PolicyDecision := do
  if projected.kind ≠ p.resource.target.kind then
    throw (.projectedResourceKindMismatch p.resource.target.kind projected.kind)
  let resourceOutcome ←
    if lifetimeResource then evaluateResource p.resource projected else pure .admitted
  let timeOutcome ← evaluateTime p.time projectedSecs
  let confidenceOk := decide (p.minConfidence.rank ≤ confidence.rank)
  let denyReasons := [resourceOutcome, timeOutcome].filterMap ConstraintOutcome.denial ++
    if confidenceOk then [] else [.confidenceBelowThreshold confidence p.minConfidence]
  let approvalRequests := [resourceOutcome, timeOutcome].filterMap ConstraintOutcome.question
  let admission : Admission :=
    if denyReasons ≠ [] then .deny denyReasons
    else if approvalRequests ≠ [] then .approvalRequired approvalRequests
    else .admitted
  return { admission, resourceOutcome, timeOutcome, confidenceOk
           protectedCriteria := p.qualityFloor.requiredCriteria, turnOutcome := none }

def evaluate (p : Policy) (projected : ResourceAmount) (projectedSecs : Nat)
    (confidence : Confidence) : Except PolicyEvaluationError PolicyDecision :=
  p.evaluateWith projected projectedSecs confidence true

def evaluateTurn (p : Policy) (projected : ResourceAmount) :
    Except PolicyEvaluationError ConstraintOutcome :=
  match p.turn with
  | none => .ok .admitted
  | some turn =>
      if projected.kind ≠ turn.ceiling.kind then
        .error (.projectedResourceKindMismatch turn.ceiling.kind projected.kind)
      else if turn.ceiling.value < projected.value then
        .ok (.deny (.resourceExceedsTurnCeiling projected turn.ceiling))
      else .ok .admitted

end Policy

def PolicyDecision.withTurnOutcome (d : PolicyDecision) (outcome : ConstraintOutcome) :
    PolicyDecision :=
  { d with
    admission :=
      match outcome.denial, d.admission with
      | some reason, .deny reasons => .deny (reasons ++ [reason])
      | some reason, _ => .deny [reason]
      | none, admission => admission
    turnOutcome := some outcome }

def applyExternalApproval (d : PolicyDecision) (approval : ExternalApproval) : PolicyDecision :=
  { d with
    admission :=
      match d.admission, approval.verdict with
      | .approvalRequired _, .approve => .admitted
      | .approvalRequired _, .reject reason =>
          .deny [.externalPolicyRejected approval.providerId reason]
      | admission, _ => admission }

/-! ## What validation leaves -/

/-- A resource bound that validates: its thresholds in order, its percentages at most one
hundred. -/
structure ResourceBound.Ordered (b : ResourceBound) : Prop where
  kinds : b.target.kind = b.hardCeiling.kind
  target_le : b.target.value ≤ b.hardCeiling.value
  percent : b.target.kind = .quotaPercent → b.hardCeiling.value ≤ 100
  elastic : b.mode = .elastic ↔ b.elasticCeiling ≠ none
  elastic_kind : ∀ elastic, b.elasticCeiling = some elastic → elastic.kind = b.target.kind
  elastic_le : ∀ elastic, b.elasticCeiling = some elastic → elastic.value ≤ b.hardCeiling.value

theorem validateElastic_ok {b : ResourceBound} (valid : validateElastic b = .ok ()) :
    (b.mode = .elastic ↔ b.elasticCeiling ≠ none) ∧ ∀ elastic, b.elasticCeiling = some elastic →
      elastic.kind = b.target.kind ∧ elastic.value ≤ b.hardCeiling.value := by
  obtain ⟨mode, target, ceiling, hard⟩ := b
  cases mode with
  | hard =>
      cases ceiling with
      | none => simp
      | some elastic => cases valid
  | approval =>
      cases ceiling with
      | none => simp
      | some elastic => cases valid
  | elastic =>
      cases ceiling with
      | none => cases valid
      | some elastic =>
          simp only [validateElastic] at valid
          split at valid
          · cases valid
          rename_i kind
          split at valid
          · cases valid
          split at valid
          · cases valid
          rename_i below
          refine ⟨by simp, fun other same => ?_⟩
          cases same
          exact ⟨not_not.mp kind, not_lt.mp below⟩

theorem validateQuotaPercentRange_ok {a : ResourceAmount} (valid : validateQuotaPercentRange a = .ok ())
    (percent : a.kind = .quotaPercent) : a.value ≤ 100 := by
  unfold validateQuotaPercentRange at valid
  split at valid
  · cases valid
  · rename_i inside
    exact (not_and_not_right.mp inside percent).2

theorem validateResource_ok {b : ResourceBound} (valid : validateResource b = .ok ()) :
    b.Ordered := by
  simp only [validateResource] at valid
  split at valid
  · cases valid
  rename_i kinds
  split at valid
  · cases valid
  rename_i target_le
  simp only [bind_eq_ok_iff] at valid
  obtain ⟨_, -, _, ceiling, elastic⟩ := valid
  have last : validateElastic b = .ok () := by
    split at elastic
    · rw [bind_eq_ok_iff] at elastic
      obtain ⟨_, -, last⟩ := elastic
      exact last
    · exact elastic
  obtain ⟨set, below⟩ := validateElastic_ok last
  exact
    { kinds := not_not.mp kinds
      target_le := not_lt.mp target_le
      percent := fun percent => validateQuotaPercentRange_ok ceiling ((not_not.mp kinds).symm.trans percent)
      elastic := set
      elastic_kind := fun elastic found => (below elastic found).1
      elastic_le := fun elastic found => (below elastic found).2 }

/-- What is left of an accepted policy. -/
structure Policy.Ordered (p : Policy) : Prop where
  resource : p.resource.Ordered
  time : p.time.Shaped
  turn : ∀ turn, p.turn = some turn → turn.ceiling.kind = p.resource.target.kind

theorem mapError_ok {ε ε' : Type} {f : ε → ε'} {x : Except ε Unit} (done : x.mapError f = .ok ()) :
    x = .ok () := by
  cases x with
  | error e => cases done
  | ok value => rfl

theorem validateTurn_ok {b : ResourceBound} {turn : TurnBound}
    (valid : validateTurn b turn = .ok ()) : turn.ceiling.kind = b.target.kind := by
  rw [validateTurn] at valid
  split at valid
  · cases valid
  split at valid
  · cases valid
  rename_i kind
  exact not_not.mp kind

theorem Policy.Accepted.ordered {p : Policy} (accepted : p.Accepted) : p.Ordered := by
  induction accepted with
  | @validated resource time qualityFloor minConfidence now p done =>
      simp only [Policy.validatedAt, bind_eq_ok_iff] at done
      obtain ⟨_, resource_ok, _, time_ok, done⟩ := done
      split at done
      · cases done
      · cases done
        exact
          { resource := validateResource_ok resource_ok
            time := ((validateTime_ok_iff time now).mp (mapError_ok time_ok)).2
            turn := fun turn found => by cases found }
  | @withTurn base p turn accepted done ordered =>
      simp only [Policy.withTurnBound, bind_eq_ok_iff] at done
      obtain ⟨_, turn_ok, done⟩ := done
      cases done
      exact
        { resource := ordered.resource
          time := ordered.time
          turn := fun other found => by
            cases found
            exact validateTurn_ok turn_ok }

/-! ## Each constraint is a gate -/

def ConstraintOutcome.severity : ConstraintOutcome → Severity
  | .admitted => .pass
  | .approvalRequired _ => .ask
  | .deny _ => .refuse

def Admission.severity : Admission → Severity
  | .admitted => .pass
  | .approvalRequired _ => .ask
  | .deny _ => .refuse

/-- What is pre-authorised. -/
def ResourceBound.soft (b : ResourceBound) : ℚ :=
  match b.mode with
  | .hard => b.hardCeiling.value
  | .elastic =>
      match b.elasticCeiling with
      | some elastic => max b.target.value elastic.value
      | none => b.target.value
  | .approval => b.target.value

theorem ResourceBound.Ordered.soft_le {b : ResourceBound} (ordered : b.Ordered) :
    b.soft ≤ b.hardCeiling.value := by
  have target_le := ordered.target_le
  have elastic_le := ordered.elastic_le
  rw [soft]
  cases b.mode with
  | hard => exact le_refl _
  | approval => exact target_le
  | elastic =>
      cases ceiling : b.elasticCeiling with
      | none => exact target_le
      | some elastic => exact max_le target_le (elastic_le elastic ceiling)

theorem evaluateResource_severity {b : ResourceBound} {projected : ResourceAmount}
    {outcome : ConstraintOutcome} (done : evaluateResource b projected = .ok outcome) :
    outcome.severity = gate b.soft b.hardCeiling.value projected.value := by
  rw [gate, ResourceBound.soft]
  cases mode : b.mode with
  | hard =>
      simp only [evaluateResource, mode, Except.ok.injEq] at done
      subst done
      by_cases past : b.hardCeiling.value < projected.value
      · rw [if_pos past, if_neg (not_le.mpr past), if_neg (not_le.mpr past)]
        rfl
      · rw [if_neg past, if_pos (not_lt.mp past)]
        rfl
  | approval =>
      simp only [evaluateResource, mode, Except.ok.injEq] at done
      subst done
      split
      · rfl
      · split <;> rfl
  | elastic =>
      simp only [evaluateResource, mode] at done
      split at done
      · cases done
      rename_i elastic found
      rw [Except.ok.injEq] at done
      subst done
      simp only [found, le_max_iff]
      split
      · rfl
      · split <;> rfl

theorem evaluateResource_total {b : ResourceBound}
    (set : b.mode = .elastic → b.elasticCeiling ≠ none) (projected : ResourceAmount) :
    ∃ outcome, evaluateResource b projected = .ok outcome := by
  rw [evaluateResource]
  cases mode : b.mode with
  | hard => exact ⟨_, rfl⟩
  | approval => exact ⟨_, rfl⟩
  | elastic =>
      cases ceiling : b.elasticCeiling with
      | none => exact absurd ceiling (set mode)
      | some elastic => exact ⟨_, rfl⟩

end Exact

/-! ## The time bound's gate -/

/-- The hard ceiling; with none, nothing is past it. -/
def TimeBound.hard (b : TimeBound) : WithTop Nat :=
  match b.hardCeilingSecs with
  | some hard => hard
  | none => ⊤

def TimeBound.soft (b : TimeBound) : WithTop Nat :=
  match b.mode with
  | .hard => b.hard
  | .elastic =>
      match b.elasticCeilingSecs with
      | some elastic => (max b.targetSecs elastic : Nat)
      | none => b.targetSecs
  | .approval => b.targetSecs

theorem TimeBound.le_hard_iff (b : TimeBound) (n : Nat) :
    (n : WithTop Nat) ≤ b.hard ↔ ∀ hard, b.hardCeilingSecs = some hard → n ≤ hard := by
  rw [hard]
  cases b.hardCeilingSecs with
  | none => simp
  | some hard => simp

theorem TimeBound.Shaped.soft_le {b : TimeBound} (shaped : b.Shaped) : b.soft ≤ b.hard := by
  rw [TimeBound.soft]
  cases b.mode with
  | hard => exact le_refl _
  | approval => exact (b.le_hard_iff _).mpr shaped.target
  | elastic =>
      cases ceiling : b.elasticCeilingSecs with
      | none => exact (b.le_hard_iff _).mpr shaped.target
      | some elastic =>
          exact (b.le_hard_iff _).mpr fun hard found =>
            max_le (shaped.target hard found) (shaped.below elastic hard ceiling found)

namespace Exact

theorem timeBeyond_severity (b : TimeBound) (secs : Nat) (elastic : Option Nat) :
    (timeBeyond b secs elastic).severity = if (secs : WithTop Nat) ≤ b.hard then .ask else .refuse := by
  rw [timeBeyond, TimeBound.hard]
  cases b.hardCeilingSecs with
  | none => simp [ConstraintOutcome.severity]
  | some hard =>
      by_cases inside : secs ≤ hard
      · simp [inside, ConstraintOutcome.severity]
      · simp [inside, ConstraintOutcome.severity]

theorem evaluateTime_severity {b : TimeBound} {secs : Nat} {outcome : ConstraintOutcome}
    (done : evaluateTime b secs = .ok outcome) : outcome.severity = gate b.soft b.hard secs := by
  rw [gate, TimeBound.soft]
  cases mode : b.mode with
  | hard =>
      simp only [evaluateTime, mode] at done
      split at done
      · cases done
      rename_i hard found
      rw [Except.ok.injEq] at done
      subst done
      simp only [TimeBound.hard, found, Nat.cast_le]
      by_cases past : hard < secs
      · rw [if_pos past, if_neg (not_le.mpr past), if_neg (not_le.mpr past)]
        rfl
      · rw [if_neg past, if_pos (not_lt.mp past)]
        rfl
  | approval =>
      simp only [evaluateTime, mode, Except.ok.injEq] at done
      subst done
      simp only [Nat.cast_le]
      split
      · rfl
      · exact timeBeyond_severity b secs none
  | elastic =>
      simp only [evaluateTime, mode] at done
      split at done
      · cases done
      rename_i elastic found
      rw [Except.ok.injEq] at done
      subst done
      simp only [found, Nat.cast_le, le_max_iff]
      split
      · rfl
      · exact timeBeyond_severity b secs (some elastic)

theorem evaluateTime_total {b : TimeBound} (shaped : b.Shaped) (secs : Nat) :
    ∃ outcome, evaluateTime b secs = .ok outcome := by
  have present := shaped.hard
  have set := shaped.elastic
  rw [evaluateTime]
  cases mode : b.mode with
  | hard =>
      cases ceiling : b.hardCeilingSecs with
      | none => exact absurd ceiling (present mode)
      | some hard => exact ⟨_, rfl⟩
  | approval => exact ⟨_, rfl⟩
  | elastic =>
      cases ceiling : b.elasticCeilingSecs with
      | none => exact absurd ceiling (set.mp mode)
      | some elastic => exact ⟨_, rfl⟩

/-! ## The decision is the severest of them -/

def confidenceSeverity (required actual : Confidence) : Severity :=
  if required.rank ≤ actual.rank then .pass else .refuse

theorem severity_max (resource time : ConstraintOutcome) (confident : Bool) (reason : DenyReason) :
    (if [resource, time].filterMap ConstraintOutcome.denial ++ (if confident then [] else [reason]) ≠ []
      then Admission.deny ([resource, time].filterMap ConstraintOutcome.denial ++
        if confident then [] else [reason])
      else if [resource, time].filterMap ConstraintOutcome.question ≠ [] then
        .approvalRequired ([resource, time].filterMap ConstraintOutcome.question)
      else .admitted : Admission).severity =
      max (max resource.severity time.severity) (if confident then .pass else .refuse) := by
  cases resource <;> cases time <;> cases confident <;> rfl

theorem evaluate_ok {p : Policy} {projected : ResourceAmount} {secs : Nat} {confidence : Confidence}
    {d : PolicyDecision} (done : p.evaluate projected secs confidence = .ok d) :
    projected.kind = p.resource.target.kind ∧ d.admission.severity =
      max (max (gate p.resource.soft p.resource.hardCeiling.value projected.value)
        (gate p.time.soft p.time.hard secs)) (confidenceSeverity p.minConfidence confidence) := by
  simp only [Policy.evaluate, Policy.evaluateWith] at done
  split at done
  · cases done
  rename_i kind
  simp only [bind_eq_ok_iff, if_true] at done
  obtain ⟨resource, resource_ok, time, time_ok, done⟩ := done
  cases done
  refine ⟨not_not.mp kind, ?_⟩
  rw [← evaluateResource_severity resource_ok, ← evaluateTime_severity time_ok, severity_max,
    confidenceSeverity]
  simp only [decide_eq_true_eq]

theorem evaluate_total {p : Policy} (ordered : p.Ordered) {projected : ResourceAmount}
    (kind : projected.kind = p.resource.target.kind) (secs : Nat) (confidence : Confidence) :
    ∃ d, p.evaluate projected secs confidence = .ok d := by
  obtain ⟨resource, resource_ok⟩ := evaluateResource_total ordered.resource.elastic.mp projected
  obtain ⟨time, time_ok⟩ := evaluateTime_total ordered.time secs
  simp only [Policy.evaluate, Policy.evaluateWith, kind, ne_eq, not_true_eq_false, if_false, if_true,
    resource_ok, time_ok]
  exact ⟨_, rfl⟩

theorem withTurnOutcome_severity (d : PolicyDecision) {outcome : ConstraintOutcome}
    (sharp : outcome.severity ≠ .ask) :
    (d.withTurnOutcome outcome).admission.severity = max d.admission.severity outcome.severity := by
  obtain ⟨admission, _, _, _, _, _⟩ := d
  cases outcome with
  | approvalRequired request => exact absurd rfl sharp
  | admitted => cases admission <;> rfl
  | deny reason => cases admission <;> rfl

theorem evaluateTurn_severity {p : Policy} {requested : ResourceAmount} {outcome : ConstraintOutcome}
    (done : p.evaluateTurn requested = .ok outcome) : outcome.severity ≠ .ask ∧
      (outcome.severity = .refuse ↔ ∃ turn, p.turn = some turn ∧ turn.ceiling.value < requested.value) := by
  rw [Policy.evaluateTurn] at done
  split at done
  · rename_i absent
    cases done
    simp [absent, ConstraintOutcome.severity]
  · rename_i turn found
    split at done
    · cases done
    split at done
    · rename_i past
      cases done
      simp [found, past, ConstraintOutcome.severity]
    · rename_i inside
      cases done
      simp [found, inside, ConstraintOutcome.severity]

theorem applyExternalApproval_refuse {d : PolicyDecision} (refused : d.admission.severity = .refuse)
    (approval : ExternalApproval) : (applyExternalApproval d approval).admission.severity = .refuse := by
  obtain ⟨admission, _, _, _, _, _⟩ := d
  cases admission with
  | admitted => cases refused
  | approvalRequired requests => cases refused
  | deny reasons => rfl

theorem applyExternalApproval_pass {d : PolicyDecision} {approval : ExternalApproval}
    (admitted : (applyExternalApproval d approval).admission = .admitted) :
    d.admission = .admitted ∨ ∃ requests, d.admission = .approvalRequired requests := by
  obtain ⟨admission, _, _, _, _, _⟩ := d
  cases admission with
  | admitted => exact .inl rfl
  | approvalRequired requests => exact .inr ⟨requests, rfl⟩
  | deny reasons => cases admitted

/-! ## Grants move the thresholds -/

section Stored

variable {kind : ResourceKind} {a g : ResourceAmount}

theorem storedValue_percent (sum : ℚ) (nonneg : 0 ≤ sum) :
    ResourceAmount.storedValue .quotaPercent sum = min sum 100 := by
  show min (max sum 0) 100 = min sum 100
  rw [max_eq_left nonneg]

/-- Whole amounts add up to a whole amount. -/
theorem storedValue_units (a_kind : a.kind = kind) (g_kind : g.kind = kind)
    (units : kind ≠ .quotaPercent) :
    ResourceAmount.storedValue kind (a.value + g.value) = a.value + g.value := by
  obtain ⟨m, m_value⟩ := a.whole (by rwa [a_kind])
  obtain ⟨n, n_value⟩ := g.whole (by rwa [g_kind])
  rw [ResourceAmount.storedValue_whole _ units, max_eq_left (add_nonneg a.nonneg g.nonneg), m_value,
    n_value, ← Int.cast_add, round_intCast]

theorem storedValue_le (a_kind : a.kind = kind) (g_kind : g.kind = kind) :
    ResourceAmount.storedValue kind (a.value + g.value) ≤ a.value + g.value := by
  by_cases units : kind = .quotaPercent
  · rw [units, storedValue_percent _ (add_nonneg a.nonneg g.nonneg)]
    exact min_le_left _ _
  · exact le_of_eq (storedValue_units a_kind g_kind units)

/-- A projection that is no more than one hundred percent is past the moved amount where it was past
the amount. -/
theorem le_storedValue_iff (a_kind : a.kind = kind) (g_kind : g.kind = kind) {x : ℚ}
    (fits : kind = .quotaPercent → x + g.value ≤ 100) :
    x + g.value ≤ ResourceAmount.storedValue kind (a.value + g.value) ↔ x ≤ a.value := by
  by_cases units : kind = .quotaPercent
  · rw [units, storedValue_percent _ (add_nonneg a.nonneg g.nonneg), le_min_iff, add_le_add_iff_right]
    exact and_iff_left (fits units)
  · rw [storedValue_units a_kind g_kind units, add_le_add_iff_right]

end Stored

theorem extendedBy_kept {b : ResourceBound} {g : ResourceAmount} (zero : g.value = 0) :
    b.extendedBy g = b := if_pos (.inr zero)

theorem extendedBy_moved {b : ResourceBound} {g : ResourceAmount} (kind : g.kind = b.target.kind)
    (some_ : g.value ≠ 0) : b.extendedBy g =
      { mode := b.mode
        target := .fromKind b.target.kind (b.target.value + g.value)
        elasticCeiling := b.elasticCeiling.map fun a => .fromKind a.kind (a.value + g.value)
        hardCeiling := .fromKind b.hardCeiling.kind (b.hardCeiling.value + g.value) } :=
  if_neg (not_or.mpr ⟨not_not.mpr kind, some_⟩)

/-- No threshold moves by more than the grant. -/
theorem extendedBy_le {b : ResourceBound} (ordered : b.Ordered) {g : ResourceAmount}
    (kind : g.kind = b.target.kind) : (b.extendedBy g).soft ≤ b.soft + g.value ∧
      (b.extendedBy g).hardCeiling.value ≤ b.hardCeiling.value + g.value := by
  by_cases zero : g.value = 0
  · rw [extendedBy_kept zero, zero, add_zero, add_zero]
    exact ⟨le_refl _, le_refl _⟩
  have hard := storedValue_le rfl (kind.trans ordered.kinds)
  have target := storedValue_le rfl kind
  rw [extendedBy_moved kind zero]
  refine ⟨?_, hard⟩
  simp only [ResourceBound.soft]
  cases b.mode with
  | hard => exact hard
  | approval => exact target
  | elastic =>
      cases found : b.elasticCeiling with
      | none => exact target
      | some elastic =>
          have below := storedValue_le rfl (kind.trans (ordered.elastic_kind elastic found).symm)
          simp only [Option.map_some]
          rw [← max_add_add_right]
          exact max_le_max target below

/-- A percentage bound never moves past one hundred. -/
theorem extendedBy_le_hundred {b : ResourceBound} (ordered : b.Ordered) {g : ResourceAmount}
    (kind : g.kind = b.target.kind) (percent : b.target.kind = .quotaPercent) :
    (b.extendedBy g).soft ≤ 100 ∧ (b.extendedBy g).hardCeiling.value ≤ 100 := by
  by_cases zero : g.value = 0
  · rw [extendedBy_kept zero]
    exact ⟨ordered.soft_le.trans (ordered.percent percent), ordered.percent percent⟩
  have stored : ∀ sum, ResourceAmount.storedValue .quotaPercent sum ≤ 100 := fun sum => min_le_right _ _
  have hard := stored (b.hardCeiling.value + g.value)
  have target := stored (b.target.value + g.value)
  rw [extendedBy_moved kind zero, ← ordered.kinds, percent]
  refine ⟨?_, hard⟩
  simp only [ResourceBound.soft]
  cases b.mode with
  | hard => exact hard
  | approval => exact target
  | elastic =>
      cases found : b.elasticCeiling with
      | none => exact target
      | some elastic =>
          simp only [Option.map_some, ordered.elastic_kind elastic found, percent]
          exact max_le target (stored _)

/-- A projection that is no more than one hundred percent stays on its side of every threshold. -/
theorem extendedBy_within {b : ResourceBound} (ordered : b.Ordered) {g : ResourceAmount}
    (kind : g.kind = b.target.kind) {x : ℚ}
    (fits : b.target.kind = .quotaPercent → x + g.value ≤ 100) :
    (x + g.value ≤ (b.extendedBy g).soft ↔ x ≤ b.soft) ∧
      (x + g.value ≤ (b.extendedBy g).hardCeiling.value ↔ x ≤ b.hardCeiling.value) := by
  by_cases zero : g.value = 0
  · rw [extendedBy_kept zero, zero, add_zero]
    exact ⟨Iff.rfl, Iff.rfl⟩
  have hard := le_storedValue_iff (a := b.hardCeiling) rfl (kind.trans ordered.kinds)
    (by rwa [← ordered.kinds])
  have target := le_storedValue_iff (a := b.target) rfl kind fits
  rw [extendedBy_moved kind zero]
  refine ⟨?_, hard⟩
  simp only [ResourceBound.soft]
  cases b.mode with
  | hard => exact hard
  | approval => exact target
  | elastic =>
      cases found : b.elasticCeiling with
      | none => exact target
      | some elastic =>
          have elastic_kind := ordered.elastic_kind elastic found
          have moved := le_storedValue_iff (a := elastic) rfl (kind.trans elastic_kind.symm)
            (by rwa [elastic_kind])
          simp only [Option.map_some]
          rw [le_max_iff, le_max_iff]
          exact or_congr target moved

/-- A grant on both sides is never less severe.  It is as severe, except that a percentage which the
bound allowed is refused when it moves past one hundred. -/
theorem extendedBy_severity {b : ResourceBound} (ordered : b.Ordered) {g projected moved : ResourceAmount}
    (kind : g.kind = b.target.kind) (sum : moved.value = projected.value + g.value) :
    ∃ before after, evaluateResource b projected = .ok before ∧
      evaluateResource (b.extendedBy g) moved = .ok after ∧ before.severity ≤ after.severity ∧
      (after.severity = before.severity ↔
        (b.target.kind = .quotaPercent → projected.value ≤ b.hardCeiling.value → moved.value ≤ 100)) := by
  have set : (b.extendedBy g).mode = .elastic → (b.extendedBy g).elasticCeiling ≠ none := by
    by_cases zero : g.value = 0
    · rw [extendedBy_kept zero]
      exact ordered.elastic.mp
    · rw [extendedBy_moved kind zero]
      intro mode none_
      exact ordered.elastic.mp mode (Option.map_eq_none_iff.mp none_)
  obtain ⟨before, before_ok⟩ := evaluateResource_total ordered.elastic.mp projected
  obtain ⟨after, after_ok⟩ := evaluateResource_total set moved
  have severer : before.severity ≤ after.severity := by
    rw [evaluateResource_severity before_ok, evaluateResource_severity after_ok, sum,
      ← gate_add b.soft b.hardCeiling.value projected.value g.value]
    obtain ⟨soft, hard⟩ := extendedBy_le ordered kind
    exact gate_antitone soft hard
  have refused : before.severity = .refuse ↔ b.hardCeiling.value < projected.value := by
    rw [evaluateResource_severity before_ok]
    exact gate_eq_refuse ordered.soft_le
  refine ⟨before, after, before_ok, after_ok, severer, ?_, ?_⟩
  · intro same percent inside
    by_contra past
    obtain ⟨soft, hard⟩ := extendedBy_le_hundred ordered kind percent
    have denied : after.severity = .refuse := by
      rw [evaluateResource_severity after_ok, gate, if_neg fun le => past (le.trans soft),
        if_neg fun le => past (le.trans hard)]
    exact absurd (refused.mp (same ▸ denied)) (not_lt.mpr inside)
  · intro within
    by_cases fits : b.target.kind = .quotaPercent → projected.value + g.value ≤ 100
    · obtain ⟨soft, hard⟩ := extendedBy_within ordered kind fits
      rw [evaluateResource_severity before_ok, evaluateResource_severity after_ok, sum]
      exact gate_congr soft hard
    · -- Past one hundred percent only what was past the ceiling already.
      obtain ⟨percent, past⟩ := Classical.not_imp.mp fits
      have exceeded : b.hardCeiling.value < projected.value := by
        by_contra inside
        exact past (sum ▸ within percent (not_lt.mp inside))
      rw [refused.mpr exceeded] at severer ⊢
      exact Severity.refuse_le.mp severer

/-! ## The whole decision -/

def Admission.Denied (a : Admission) : Prop := ∃ reasons, a = .deny reasons

theorem Admission.denied_iff (a : Admission) : a.Denied ↔ a.severity = .refuse := by
  cases a <;> simp [Admission.Denied, Admission.severity]

/-- Past a ceiling, or less sure than the policy asks. -/
def Policy.Beyond (p : Policy) (projected : ResourceAmount) (secs : Nat) (confidence : Confidence)
    (requested : ResourceAmount) : Prop :=
  p.resource.hardCeiling.value < projected.value ∨
  (∃ hard, p.time.hardCeilingSecs = some hard ∧ hard < secs) ∨
  confidence.rank < p.minConfidence.rank ∨
  ∃ turn, p.turn = some turn ∧ turn.ceiling.value < requested.value

/-- What is to hold of the decisions of a policy. -/
structure Policy.Sound (p : Policy) : Prop where
  total : ∀ projected secs confidence, projected.kind = p.resource.target.kind →
    ∃ d, p.evaluate projected secs confidence = .ok d
  turnTotal : ∀ requested, requested.kind = p.resource.target.kind →
    ∃ outcome, p.evaluateTurn requested = .ok outcome
  monotone : ∀ projected projected' secs secs' confidence confidence' d d',
    projected.value ≤ projected'.value → secs ≤ secs' → confidence'.rank ≤ confidence.rank →
    p.evaluate projected secs confidence = .ok d → p.evaluate projected' secs' confidence' = .ok d' →
    d.admission.severity ≤ d'.admission.severity
  closed : ∀ projected secs confidence requested d outcome,
    p.evaluate projected secs confidence = .ok d → p.evaluateTurn requested = .ok outcome →
    p.Beyond projected secs confidence requested →
    (d.withTurnOutcome outcome).admission.Denied ∧
      ∀ approval, (applyExternalApproval (d.withTurnOutcome outcome) approval).admission.Denied
  external : ∀ d approval, (applyExternalApproval d approval).admission = .admitted →
    d.admission = .admitted ∨ ∃ requests, d.admission = .approvalRequired requests
  granted : ∀ g projected moved : ResourceAmount, g.kind = p.resource.target.kind →
    moved.value = projected.value + g.value →
    ∃ before after, evaluateResource p.resource projected = .ok before ∧
      evaluateResource (p.resource.extendedBy g) moved = .ok after ∧
      before.severity ≤ after.severity ∧
      (after.severity = before.severity ↔
        (p.resource.target.kind = .quotaPercent → projected.value ≤ p.resource.hardCeiling.value →
          moved.value ≤ 100))

theorem evaluateTurn_total {p : Policy} (ordered : p.Ordered) {requested : ResourceAmount}
    (kind : requested.kind = p.resource.target.kind) :
    ∃ outcome, p.evaluateTurn requested = .ok outcome := by
  rw [Policy.evaluateTurn]
  cases found : p.turn with
  | none => exact ⟨_, rfl⟩
  | some turn =>
      have same : ¬ requested.kind ≠ turn.ceiling.kind := by
        rw [ordered.turn turn found, kind]
        simp
      simp only [if_neg same]
      split
      · exact ⟨_, rfl⟩
      · exact ⟨_, rfl⟩

theorem confidenceSeverity_mono (required : Confidence) {less more : Confidence}
    (le : less.rank ≤ more.rank) : confidenceSeverity required more ≤ confidenceSeverity required less := by
  by_cases enough : required.rank ≤ less.rank
  · rw [confidenceSeverity, if_pos (le_trans enough le)]
    exact Severity.pass_le _
  · rw [confidenceSeverity.eq_def required less, if_neg enough]
    exact Severity.le_refuse _

theorem evaluate_mono {p : Policy} (ordered : p.Ordered) {projected projected' : ResourceAmount}
    {secs secs' : Nat} {confidence confidence' : Confidence} {d d' : PolicyDecision}
    (more : projected.value ≤ projected'.value) (longer : secs ≤ secs')
    (less : confidence'.rank ≤ confidence.rank) (done : p.evaluate projected secs confidence = .ok d)
    (done' : p.evaluate projected' secs' confidence' = .ok d') :
    d.admission.severity ≤ d'.admission.severity := by
  rw [(evaluate_ok done).2, (evaluate_ok done').2]
  have resource := gate_mono ordered.resource.soft_le more
  have time := gate_mono ordered.time.soft_le (Nat.cast_le.mpr longer)
  exact max_le_max (max_le_max resource time) (confidenceSeverity_mono p.minConfidence less)

/-- Past a ceiling the decision is a denial, and the turn's outcome does not change that. -/
theorem evaluate_beyond {p : Policy} (ordered : p.Ordered) {projected requested : ResourceAmount}
    {secs : Nat} {confidence : Confidence} {d : PolicyDecision} {outcome : ConstraintOutcome}
    (done : p.evaluate projected secs confidence = .ok d) (turn_done : p.evaluateTurn requested = .ok outcome)
    (beyond : p.Beyond projected secs confidence requested) :
    (d.withTurnOutcome outcome).admission.severity = .refuse := by
  obtain ⟨sharp, turn_refused⟩ := evaluateTurn_severity turn_done
  rw [withTurnOutcome_severity d sharp, ← Severity.refuse_le, (evaluate_ok done).2]
  rcases beyond with past | ⟨hard, found, past⟩ | unsure | past
  · have refused := (gate_eq_refuse ordered.resource.soft_le).mpr past
    exact le_max_of_le_left (le_max_of_le_left (le_max_of_le_left (le_of_eq refused.symm)))
  · have exceeded : p.time.hard < secs := by
      rw [← not_le, p.time.le_hard_iff]
      exact fun inside => absurd (inside hard found) (Nat.not_le.mpr past)
    have refused := (gate_eq_refuse ordered.time.soft_le).mpr exceeded
    exact le_max_of_le_left (le_max_of_le_left (le_max_of_le_right (le_of_eq refused.symm)))
  · have refused : confidenceSeverity p.minConfidence confidence = .refuse :=
      if_neg (Nat.not_le.mpr unsure)
    exact le_max_of_le_left (le_max_of_le_right (le_of_eq refused.symm))
  · exact le_max_of_le_right (le_of_eq (turn_refused.mpr past).symm)

theorem policy_sound {p : Policy} (accepted : p.Accepted) : p.Sound where
  total projected secs confidence kind := evaluate_total accepted.ordered kind secs confidence
  turnTotal requested kind := evaluateTurn_total accepted.ordered kind
  monotone _ _ _ _ _ _ _ _ more longer less done done' :=
    evaluate_mono accepted.ordered more longer less done done'
  closed projected secs confidence requested d outcome done turn_done beyond := by
    have refused := evaluate_beyond accepted.ordered done turn_done beyond
    refine ⟨(Admission.denied_iff _).mpr refused, fun approval => ?_⟩
    exact (Admission.denied_iff _).mpr (applyExternalApproval_refuse refused approval)
  external d approval := applyExternalApproval_pass
  granted g projected moved kind sum := extendedBy_severity accepted.ordered.resource kind sum

/-! ## Whole units are a case of it -/

/-- An amount in whole units; a percentage counts in millionths there. -/
def ResourceAmount.ofWhole (a : LibraGovernor.ResourceAmount) : ResourceAmount where
  kind := a.kind
  value := if a.kind = .quotaPercent then (max a.value 0 : ℤ) / (percentUnit : ℚ) else (max a.value 0 : ℤ)
  nonneg := by
    have nonneg : (0 : ℚ) ≤ (max a.value 0 : ℤ) := by exact_mod_cast le_max_right a.value 0
    split
    · exact div_nonneg nonneg (by norm_num [percentUnit])
    · exact nonneg
  whole units := ⟨max a.value 0, if_neg units⟩

def ResourceBound.ofWhole (b : LibraGovernor.ResourceBound) : ResourceBound where
  mode := b.mode
  target := .ofWhole b.target
  elasticCeiling := b.elasticCeiling.map .ofWhole
  hardCeiling := .ofWhole b.hardCeiling

def Policy.ofWhole (p : AdmissionPolicy) : Policy where
  resource := .ofWhole p.resource
  time := p.time
  qualityFloor := p.qualityFloor
  minConfidence := p.minConfidence
  turn := p.turn.map fun turn => ⟨.ofWhole turn.coldStartRequest, .ofWhole turn.ceiling⟩

theorem ResourceAmount.ofWhole_le {a b : LibraGovernor.ResourceAmount} (kind : a.kind = b.kind)
    (a_nonneg : 0 ≤ a.value) (b_nonneg : 0 ≤ b.value) :
    (ofWhole a).value ≤ (ofWhole b).value ↔ a.value ≤ b.value := by
  simp only [ofWhole, max_eq_left a_nonneg, max_eq_left b_nonneg, kind]
  split
  · rw [div_le_div_iff_of_pos_right (by norm_num [percentUnit]), Int.cast_le]
  · exact Int.cast_le

/-- What whole units decide. -/
def wholeSeverity : LibraGovernor.ConstraintOutcome → Severity
  | .admitted => .pass
  | .approvalRequired _ => .ask
  | .deny _ => .refuse

def wholeAdmissionSeverity : LibraGovernor.Admission → Severity
  | .admitted => .pass
  | .approvalRequired _ => .ask
  | .deny _ => .refuse

/-- Amounts of a whole bound, of one kind and none negative. -/
structure WholeBound (b : LibraGovernor.ResourceBound) : Prop where
  target : 0 ≤ b.target.value
  elastic : ∀ elastic, b.elasticCeiling = some elastic →
    0 ≤ elastic.value ∧ b.target.kind = elastic.kind
  hard : 0 ≤ b.hardCeiling.value ∧ b.target.kind = b.hardCeiling.kind

theorem evaluateResource_ofWhole {b : LibraGovernor.ResourceBound} (whole : WholeBound b)
    {projected : LibraGovernor.ResourceAmount} (kind : projected.kind = b.target.kind)
    (projected_nonneg : 0 ≤ projected.value) :
    (LibraGovernor.evaluateResource b projected).map wholeSeverity =
      (evaluateResource (.ofWhole b) (.ofWhole projected)).map ConstraintOutcome.severity := by
  have target := ResourceAmount.ofWhole_le kind projected_nonneg whole.target
  have hard := ResourceAmount.ofWhole_le (kind.trans whole.hard.2) projected_nonneg whole.hard.1
  rw [LibraGovernor.evaluateResource, evaluateResource]
  cases mode : b.mode with
  | hard =>
      simp only [ResourceBound.ofWhole, mode, ← not_le, hard]
      split <;> rfl
  | approval =>
      simp only [ResourceBound.ofWhole, mode, hard, target]
      split
      · rfl
      · split <;> rfl
  | elastic =>
      cases found : b.elasticCeiling with
      | none =>
          simp only [ResourceBound.ofWhole, mode, found, Option.map_none]
          rfl
      | some elastic =>
          obtain ⟨nonneg, same⟩ := whole.elastic elastic found
          have band := ResourceAmount.ofWhole_le (kind.trans same) projected_nonneg nonneg
          simp only [ResourceBound.ofWhole, mode, found, Option.map_some, hard, target, band]
          split
          · rfl
          · split <;> rfl

theorem timeBeyond_whole (b : TimeBound) (secs : Nat) (elastic : Option Nat) :
    wholeSeverity (LibraGovernor.timeBeyond b secs elastic) = (timeBeyond b secs elastic).severity := by
  obtain ⟨mode, target, ceiling, hard, deadline⟩ := b
  cases hard with
  | none => rfl
  | some hard =>
      simp only [LibraGovernor.timeBeyond, timeBeyond]
      split <;> rfl

theorem evaluateTime_whole (b : TimeBound) (secs : Nat) :
    (LibraGovernor.evaluateTime b secs).map wholeSeverity =
      (evaluateTime b secs).map ConstraintOutcome.severity := by
  have beyond := timeBeyond_whole b secs
  obtain ⟨mode, target, ceiling, hard, deadline⟩ := b
  cases mode with
  | hard =>
      cases hard with
      | none => rfl
      | some hard =>
          simp only [LibraGovernor.evaluateTime, evaluateTime, Except.map]
          split <;> rfl
  | approval =>
      simp only [LibraGovernor.evaluateTime, evaluateTime, Except.map]
      split
      · rfl
      · exact congrArg Except.ok (beyond none)
  | elastic =>
      cases ceiling with
      | none => rfl
      | some elastic =>
          simp only [LibraGovernor.evaluateTime, evaluateTime, Except.map]
          split
          · rfl
          · exact congrArg Except.ok (beyond (some elastic))

theorem whole_severity_max (resource time : LibraGovernor.ConstraintOutcome) (confident : Bool)
    (reason : LibraGovernor.DenyReason) :
    wholeAdmissionSeverity
      (if [resource, time].filterMap LibraGovernor.ConstraintOutcome.denial ++
          (if confident then [] else [reason]) ≠ [] then
        .deny ([resource, time].filterMap LibraGovernor.ConstraintOutcome.denial ++
          if confident then [] else [reason])
      else if [resource, time].filterMap LibraGovernor.ConstraintOutcome.question ≠ [] then
        .approvalRequired ([resource, time].filterMap LibraGovernor.ConstraintOutcome.question)
      else .admitted) =
      max (max (wholeSeverity resource) (wholeSeverity time)) (if confident then .pass else .refuse) := by
  cases resource <;> cases time <;> cases confident <;> rfl

theorem map_eq_cases {ε α β γ : Type} {f : α → γ} {g : β → γ} {x : Except ε α} {y : Except ε β}
    (same : x.map f = y.map g) : (∃ e, x = .error e ∧ y = .error e) ∨
      ∃ a b, x = .ok a ∧ y = .ok b ∧ f a = g b := by
  cases x with
  | error e =>
      cases y with
      | error e' =>
          cases same
          exact .inl ⟨e, rfl, rfl⟩
      | ok b => cases same
  | ok a =>
      cases y with
      | error e => cases same
      | ok b => exact .inr ⟨a, b, rfl, rfl, Except.ok.inj same⟩

/-- On whole units both models decide alike. -/
theorem evaluate_ofWhole {p : AdmissionPolicy} (whole : WholeBound p.resource)
    {projected : LibraGovernor.ResourceAmount} (projected_nonneg : 0 ≤ projected.value) (secs : Nat)
    (confidence : Confidence) :
    (p.evaluateWith projected secs confidence true).map (fun d => wholeAdmissionSeverity d.admission) =
      ((Policy.ofWhole p).evaluate (.ofWhole projected) secs confidence).map
        (fun d => d.admission.severity) := by
  rw [AdmissionPolicy.evaluateWith, Policy.evaluate, Policy.evaluateWith]
  by_cases kind : projected.kind ≠ p.resource.target.kind
  · rw [if_pos kind, if_pos (show (ResourceAmount.ofWhole projected).kind ≠
      (Policy.ofWhole p).resource.target.kind from kind)]
    rfl
  rw [if_neg kind, if_neg (show ¬ (ResourceAmount.ofWhole projected).kind ≠
    (Policy.ofWhole p).resource.target.kind from kind)]
  simp only [if_true]
  rcases map_eq_cases (evaluateResource_ofWhole whole (not_not.mp kind) projected_nonneg) with
    ⟨e, left, right⟩ | ⟨resource, resource', left, right, resource_same⟩
  · rw [left, show evaluateResource (Policy.ofWhole p).resource _ = .error e from right]
    rfl
  rw [left, show evaluateResource (Policy.ofWhole p).resource _ = .ok resource' from right]
  rcases map_eq_cases (evaluateTime_whole p.time secs) with
    ⟨e, left, right⟩ | ⟨time, time', left, right, time_same⟩
  · simp only [left, show evaluateTime (Policy.ofWhole p).time secs = .error e from right]
    rfl
  simp only [left, show evaluateTime (Policy.ofWhole p).time secs = .ok time' from right]
  refine congrArg Except.ok ?_
  show wholeAdmissionSeverity _ = Admission.severity _
  rw [severity_max, whole_severity_max, resource_same, time_same]
  rfl

/-! ## A percentage -/

def percent (n : Nat) : ResourceAmount := ⟨.quotaPercent, n, Nat.cast_nonneg n, fun units => absurd rfl units⟩

/-- Half of the quota, and up to ninety percent with approval. -/
def percentPolicy : Policy where
  resource := ⟨.approval, percent 50, none, percent 90⟩
  time := ⟨.approval, 600, none, none, none⟩
  qualityFloor := .first [⟨"tests pass", true⟩]
  minConfidence := .low
  turn := none

theorem percentPolicy_accepted : percentPolicy.Accepted :=
  .validated (show Policy.validatedAt percentPolicy.resource percentPolicy.time percentPolicy.qualityFloor
    .low 0 = .ok percentPolicy from by decide +kernel)

theorem percentPolicy_sound : percentPolicy.Sound := policy_sound percentPolicy_accepted

/-- A grant on both sides is as severe, of percentages too. -/
def GrantsShift (p : Policy) : Prop :=
  ∀ g projected moved : ResourceAmount, g.kind = p.resource.target.kind →
    moved.value = projected.value + g.value → ∀ before after,
    evaluateResource p.resource projected = .ok before →
    evaluateResource (p.resource.extendedBy g) moved = .ok after → after.severity = before.severity

/-- Sixty percent is a question; with fifty granted to both sides it is a denial. -/
theorem percent_grant_saturates : percentPolicy.Accepted ∧ ¬ GrantsShift percentPolicy := by
  refine ⟨percentPolicy_accepted, fun shift => ?_⟩
  have same := shift (percent 50) (percent 60) (percent 110) rfl (by decide +kernel)
    (.approvalRequired (.resource (percent 60) (percent 50) none (percent 90)))
    (.deny (.resourceExceedsHardCeiling (percent 110) (percent 100))) (by decide +kernel)
    (by decide +kernel)
  cases same

end Exact

end LibraGovernor
