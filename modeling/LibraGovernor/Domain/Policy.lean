/-
# LibraGovernor.Domain.Policy -- admission policies and what they decide

A policy bounds the resource and the time of a task, each in its own mode, and asks for
a confidence; a turn bound is a second gate on one turn's own request.  `evaluate` folds
the outcomes into an `Admission`: a denial wins over a request for approval, and that
over an admission.

Amounts are exact integers of their unit.  `ResourceAmount.fromKind` is the constructor
that saturates a percentage at one hundred; everything that is projected through it is
therefore a percentage of at most one hundred, whatever was added up.
-/
import LibraGovernor.Domain.TaskBudget

namespace LibraGovernor

set_option autoImplicit false

/-- The order of the source's derived `Ord`. -/
def Confidence.rank : Confidence → Nat
  | .low => 0
  | .medium => 1
  | .high => 2

structure CompletionCriterion where
  description : String
  required : Bool
  deriving DecidableEq, Repr

structure CompletionContract where
  revision : Nat
  criteria : List CompletionCriterion
  deriving DecidableEq, Repr

namespace CompletionContract

def first (criteria : List CompletionCriterion) : CompletionContract := ⟨1, criteria⟩

def nextRevision (c : CompletionContract) (criteria : List CompletionCriterion) :
    CompletionContract := ⟨c.revision + 1, criteria⟩

def requiredCriteria (c : CompletionContract) : List CompletionCriterion :=
  c.criteria.filter CompletionCriterion.required

end CompletionContract

/-- The parts of an estimate that admission reads. -/
structure Estimate where
  durationP80Secs : Option Nat
  resourceP80 : Option ResourceAmount
  confidence : Confidence
  nonneg : ∀ a, resourceP80 = some a → 0 ≤ a.value
  deriving DecidableEq, Repr

namespace ResourceAmount

/-- `from_kind_f64`: never negative, and a percentage of at most one hundred. -/
def fromKind (kind : ResourceKind) (value : Int) : ResourceAmount :=
  match kind with
  | .quotaPercent => ⟨kind, min (max value 0) fullQuota⟩
  | _ => ⟨kind, max value 0⟩

/-- `scaled` by hundredths: to the nearest cent or token, and a percentage keeps its fraction. -/
def scaled (a : ResourceAmount) (percent : Nat) : ResourceAmount :=
  match a.kind with
  | .quotaPercent => ⟨a.kind, min (max ((2 * a.value * percent + 100) / 200) 0) fullQuota⟩
  | _ => ⟨a.kind, (2 * a.value * percent + 100) / 200⟩

-- a fifth of 67 percent is 13.4 percent
example : (ResourceAmount.quotaPercent 67).scaled 20 = ⟨.quotaPercent, 13400000⟩ := rfl

end ResourceAmount

/-! ## Bounds -/

inductive ConstraintMode where
  | hard
  | elastic
  | approval
  deriving DecidableEq, Repr

structure ResourceBound where
  mode : ConstraintMode
  target : ResourceAmount
  elasticCeiling : Option ResourceAmount
  hardCeiling : ResourceAmount
  deriving DecidableEq, Repr

/-- Shifts the whole bound by what renewals granted. -/
def ResourceBound.extendedBy (b : ResourceBound) (granted : ResourceAmount) : ResourceBound :=
  if granted.kind ≠ b.target.kind ∨ granted.value = 0 then b
  else
    let shift := fun a : ResourceAmount => ResourceAmount.fromKind a.kind (a.value + granted.value)
    { mode := b.mode
      target := shift b.target
      elasticCeiling := b.elasticCeiling.map shift
      hardCeiling := shift b.hardCeiling }

structure TurnBound where
  coldStartRequest : ResourceAmount
  ceiling : ResourceAmount
  deriving DecidableEq, Repr

structure TimeBound where
  mode : ConstraintMode
  targetSecs : Nat
  elasticCeilingSecs : Option Nat
  hardCeilingSecs : Option Nat
  deadline : Option OffsetDateTime
  deriving DecidableEq, Repr

/-- The policy a task is admitted under. -/
structure AdmissionPolicy where
  resource : ResourceBound
  time : TimeBound
  qualityFloor : CompletionContract
  minConfidence : Confidence
  renewal : Option RenewalBound
  turn : Option TurnBound
  deriving DecidableEq, Repr

namespace AdmissionPolicy

/-- What the ledger reads of it. -/
def ledger (p : AdmissionPolicy) : Policy where
  target := p.resource.target
  hardCeiling := p.resource.hardCeiling
  turnCeiling := p.turn.map TurnBound.ceiling
  renewal := p.renewal

/-- What a turn asks for when there is no estimate. -/
def turnFallbackRequest (p : AdmissionPolicy) : ResourceAmount :=
  (p.turn.map TurnBound.coldStartRequest).getD p.resource.target

end AdmissionPolicy

/-! ## Validation -/

inductive PolicyValidationError where
  | resourceKindMismatch (targetKind hardCeilingKind : ResourceKind)
  | resourceElasticKindMismatch (targetKind elasticKind : ResourceKind)
  | resourceTargetExceedsHardCeiling (target hardCeiling : ResourceAmount)
  | resourceElasticCeilingBelowTarget (target elastic : ResourceAmount)
  | resourceElasticCeilingAboveHardCeiling (elastic hardCeiling : ResourceAmount)
  | resourceElasticModeMissingCeiling (mode : ConstraintMode)
  | resourceElasticCeilingSetForMode (mode : ConstraintMode)
  | timeTargetExceedsHardCeiling (targetSecs hardCeilingSecs : Nat)
  | timeElasticCeilingBelowTarget (targetSecs elasticSecs : Nat)
  | timeElasticCeilingAboveHardCeiling (elasticSecs hardCeilingSecs : Nat)
  | timeElasticModeMissingCeiling (mode : ConstraintMode)
  | timeElasticCeilingSetForMode (mode : ConstraintMode)
  | timeHardModeMissingHardCeiling
  | deadlineInPast (deadline now : OffsetDateTime)
  | emptyRequiredCriteria
  | resourceQuotaPercentOutOfRange (amount : ResourceAmount)
  | renewalLifetimeCeilingKindMismatch (resourceKind lifetimeKind : ResourceKind)
  | renewalLifetimeCeilingBelowHardCeiling (lifetimeCeiling hardCeiling : ResourceAmount)
  | renewalUnsupportedForResourceKind (kind : ResourceKind)
  | turnColdStartKindMismatch (resourceKind coldStartKind : ResourceKind)
  | turnCeilingKindMismatch (resourceKind ceilingKind : ResourceKind)
  | turnCeilingBelowColdStartRequest (coldStartRequest ceiling : ResourceAmount)
  deriving DecidableEq, Repr

def validateQuotaPercentRange (a : ResourceAmount) : Except PolicyValidationError Unit :=
  if a.kind = .quotaPercent ∧ ¬ (0 ≤ a.value ∧ a.value ≤ fullQuota) then
    .error (.resourceQuotaPercentOutOfRange a)
  else .ok ()

def validateElastic (r : ResourceBound) : Except PolicyValidationError Unit :=
  match r.mode, r.elasticCeiling with
  | .elastic, none => .error (.resourceElasticModeMissingCeiling r.mode)
  | .elastic, some elastic =>
      if elastic.kind ≠ r.target.kind then
        .error (.resourceElasticKindMismatch r.target.kind elastic.kind)
      else if elastic.value < r.target.value then
        .error (.resourceElasticCeilingBelowTarget r.target elastic)
      else if r.hardCeiling.value < elastic.value then
        .error (.resourceElasticCeilingAboveHardCeiling elastic r.hardCeiling)
      else .ok ()
  | _, some _ => .error (.resourceElasticCeilingSetForMode r.mode)
  | _, none => .ok ()

def validateResource (r : ResourceBound) : Except PolicyValidationError Unit := do
  if r.target.kind ≠ r.hardCeiling.kind then
    throw (.resourceKindMismatch r.target.kind r.hardCeiling.kind)
  if r.hardCeiling.value < r.target.value then
    throw (.resourceTargetExceedsHardCeiling r.target r.hardCeiling)
  validateQuotaPercentRange r.target
  validateQuotaPercentRange r.hardCeiling
  match r.elasticCeiling with
  | some elastic => validateQuotaPercentRange elastic
  | none => pure ()
  validateElastic r

def validateTimeElastic (t : TimeBound) : Except PolicyValidationError Unit :=
  match t.mode, t.elasticCeilingSecs with
  | .elastic, none => .error (.timeElasticModeMissingCeiling t.mode)
  | .elastic, some elastic =>
      if elastic < t.targetSecs then .error (.timeElasticCeilingBelowTarget t.targetSecs elastic)
      else
        match t.hardCeilingSecs with
        | some hard =>
            if hard < elastic then .error (.timeElasticCeilingAboveHardCeiling elastic hard) else .ok ()
        | none => .ok ()
  | _, some _ => .error (.timeElasticCeilingSetForMode t.mode)
  | _, none => .ok ()

def validateTime (t : TimeBound) (now : OffsetDateTime) : Except PolicyValidationError Unit := do
  match t.deadline with
  | some deadline => if deadline < now then throw (.deadlineInPast deadline now)
  | none => pure ()
  if t.mode = .hard ∧ t.hardCeilingSecs = none then throw .timeHardModeMissingHardCeiling
  match t.hardCeilingSecs with
  | some hard => if hard < t.targetSecs then throw (.timeTargetExceedsHardCeiling t.targetSecs hard)
  | none => pure ()
  validateTimeElastic t

def validateTurn (r : ResourceBound) (turn : TurnBound) : Except PolicyValidationError Unit :=
  if turn.coldStartRequest.kind ≠ r.target.kind then
    .error (.turnColdStartKindMismatch r.target.kind turn.coldStartRequest.kind)
  else if turn.ceiling.kind ≠ r.target.kind then
    .error (.turnCeilingKindMismatch r.target.kind turn.ceiling.kind)
  else if turn.ceiling.value < turn.coldStartRequest.value then
    .error (.turnCeilingBelowColdStartRequest turn.coldStartRequest turn.ceiling)
  else .ok ()

def validateRenewal (r : ResourceBound) (renewal : RenewalBound) :
    Except PolicyValidationError Unit :=
  if r.hardCeiling.kind = .quotaPercent then
    .error (.renewalUnsupportedForResourceKind r.hardCeiling.kind)
  else if renewal.lifetimeCeiling.kind ≠ r.hardCeiling.kind then
    .error (.renewalLifetimeCeilingKindMismatch r.hardCeiling.kind renewal.lifetimeCeiling.kind)
  else if renewal.lifetimeCeiling.value < r.hardCeiling.value then
    .error (.renewalLifetimeCeilingBelowHardCeiling renewal.lifetimeCeiling r.hardCeiling)
  else .ok ()

namespace AdmissionPolicy

/-- `Policy::validated_at`; a turn bound and a renewal bound are attached afterwards. -/
def validatedAt (resource : ResourceBound) (time : TimeBound) (qualityFloor : CompletionContract)
    (minConfidence : Confidence) (now : OffsetDateTime) :
    Except PolicyValidationError AdmissionPolicy := do
  validateResource resource
  validateTime time now
  if qualityFloor.requiredCriteria = [] then throw .emptyRequiredCriteria
  return { resource, time, qualityFloor, minConfidence, renewal := none, turn := none }

/-- `with_turn_bound`. -/
def withTurnBound (p : AdmissionPolicy) (turn : TurnBound) :
    Except PolicyValidationError AdmissionPolicy := do
  validateTurn p.resource turn
  return { p with turn := some turn }

/-- `with_renewal`. -/
def withRenewal (p : AdmissionPolicy) (renewal : RenewalBound) :
    Except PolicyValidationError AdmissionPolicy := do
  validateRenewal p.resource renewal
  return { p with renewal := some renewal }

/-- A policy that `validated_at` and the two attachments accepted, its amounts not negative. -/
structure Validated (p : AdmissionPolicy) : Prop where
  resource : validateResource p.resource = .ok ()
  turn : ∀ turn, p.turn = some turn → validateTurn p.resource turn = .ok ()
  renewal : ∀ renewal, p.renewal = some renewal → validateRenewal p.resource renewal = .ok ()
  nonneg : 0 ≤ p.resource.target.value ∧ 0 ≤ p.turnFallbackRequest.value

end AdmissionPolicy

/-! ## Decisions -/

inductive ApprovalRequest where
  | resource (projected target : ResourceAmount) (elasticCeiling : Option ResourceAmount)
      (hardCeiling : ResourceAmount)
  | time (projectedSecs targetSecs : Nat) (elasticCeilingSecs hardCeilingSecs : Option Nat)
  deriving DecidableEq, Repr

inductive DenyReason where
  | resourceExceedsHardCeiling (projected hardCeiling : ResourceAmount)
  | timeExceedsHardCeiling (projectedSecs hardCeilingSecs : Nat)
  | confidenceBelowThreshold (actual required : Confidence)
  | externalPolicyRejected (providerId reason : String)
  | resourceExceedsTurnCeiling (projected turnCeiling : ResourceAmount)
  deriving DecidableEq, Repr

inductive ConstraintOutcome where
  | admitted
  | approvalRequired (request : ApprovalRequest)
  | deny (reason : DenyReason)
  deriving DecidableEq, Repr

inductive Admission where
  | admitted
  | approvalRequired (requests : List ApprovalRequest)
  | deny (reasons : List DenyReason)
  deriving DecidableEq, Repr

inductive PolicyEvaluationError where
  | projectedResourceKindMismatch (policyKind projectedKind : ResourceKind)
  | inconsistentResourceBound
  | inconsistentTimeBound (mode : ConstraintMode)
  deriving DecidableEq, Repr

structure PolicyDecision where
  admission : Admission
  resourceOutcome : ConstraintOutcome
  timeOutcome : ConstraintOutcome
  confidenceOk : Bool
  protectedCriteria : List CompletionCriterion
  turnOutcome : Option ConstraintOutcome
  deriving DecidableEq, Repr

def evaluateResource (b : ResourceBound) (projected : ResourceAmount) :
    Except PolicyEvaluationError ConstraintOutcome :=
  let past : ConstraintOutcome := .deny (.resourceExceedsHardCeiling projected b.hardCeiling)
  let ask := fun elastic =>
    ConstraintOutcome.approvalRequired (.resource projected b.target elastic b.hardCeiling)
  match b.mode with
  | .hard => .ok (if b.hardCeiling.value < projected.value then past else .admitted)
  | .elastic =>
      match b.elasticCeiling with
      | none => .error .inconsistentResourceBound
      | some elastic =>
          .ok (if projected.value ≤ b.target.value ∨ projected.value ≤ elastic.value then .admitted
            else if projected.value ≤ b.hardCeiling.value then ask (some elastic)
            else past)
  | .approval =>
      .ok (if projected.value ≤ b.target.value then .admitted
        else if projected.value ≤ b.hardCeiling.value then ask none
        else past)

/-- Past what is pre-authorised: a denial past the hard ceiling, if there is one, and a
question otherwise. -/
def timeBeyond (b : TimeBound) (projectedSecs : Nat) (elastic : Option Nat) : ConstraintOutcome :=
  match b.hardCeilingSecs with
  | some hard =>
      if projectedSecs ≤ hard then
        .approvalRequired (.time projectedSecs b.targetSecs elastic b.hardCeilingSecs)
      else .deny (.timeExceedsHardCeiling projectedSecs hard)
  | none => .approvalRequired (.time projectedSecs b.targetSecs elastic none)

def evaluateTime (b : TimeBound) (projectedSecs : Nat) :
    Except PolicyEvaluationError ConstraintOutcome :=
  match b.mode with
  | .hard =>
      match b.hardCeilingSecs with
      | none => .error (.inconsistentTimeBound .hard)
      | some hard =>
          .ok (if hard < projectedSecs then .deny (.timeExceedsHardCeiling projectedSecs hard)
            else .admitted)
  | .elastic =>
      match b.elasticCeilingSecs with
      | none => .error (.inconsistentTimeBound .elastic)
      | some elastic =>
          .ok (if projectedSecs ≤ b.targetSecs ∨ projectedSecs ≤ elastic then .admitted
            else timeBeyond b projectedSecs (some elastic))
  | .approval =>
      .ok (if projectedSecs ≤ b.targetSecs then .admitted else timeBeyond b projectedSecs none)

namespace ConstraintOutcome

def denial : ConstraintOutcome → Option DenyReason
  | .deny reason => some reason
  | _ => none

def question : ConstraintOutcome → Option ApprovalRequest
  | .approvalRequired request => some request
  | _ => none

end ConstraintOutcome

namespace AdmissionPolicy

def evaluateWith (p : AdmissionPolicy) (projected : ResourceAmount) (projectedSecs : Nat)
    (confidence : Confidence) (lifetimeResource : Bool) :
    Except PolicyEvaluationError PolicyDecision := do
  if projected.kind ≠ p.resource.target.kind then
    throw (.projectedResourceKindMismatch p.resource.target.kind projected.kind)
  let resourceOutcome ←
    if lifetimeResource then evaluateResource p.resource projected else pure .admitted
  let timeOutcome ← evaluateTime p.time projectedSecs
  let confidenceOk := decide (p.minConfidence.rank ≤ confidence.rank)
  let denyReasons := [resourceOutcome, timeOutcome].filterMap ConstraintOutcome.denial ++
    if confidenceOk then [] else [.confidenceBelowThreshold confidence p.minConfidence]
  let approvalRequests := [resourceOutcome, timeOutcome].filterMap ConstraintOutcome.question
  let admission : Admission :=
    if denyReasons ≠ [] then .deny denyReasons
    else if approvalRequests ≠ [] then .approvalRequired approvalRequests
    else .admitted
  return { admission, resourceOutcome, timeOutcome, confidenceOk
           protectedCriteria := p.qualityFloor.requiredCriteria, turnOutcome := none }

/-- The turn's own ceiling. -/
def evaluateTurn (p : AdmissionPolicy) (projected : ResourceAmount) :
    Except PolicyEvaluationError ConstraintOutcome :=
  match p.turn with
  | none => .ok .admitted
  | some turn =>
      if projected.kind ≠ turn.ceiling.kind then
        .error (.projectedResourceKindMismatch turn.ceiling.kind projected.kind)
      else if turn.ceiling.value < projected.value then
        .ok (.deny (.resourceExceedsTurnCeiling projected turn.ceiling))
      else .ok .admitted

end AdmissionPolicy

/-- A turn's denial wins; its admission changes nothing. -/
def PolicyDecision.withTurnOutcome (d : PolicyDecision) (outcome : ConstraintOutcome) :
    PolicyDecision :=
  { d with
    admission :=
      match outcome.denial, d.admission with
      | some reason, .deny reasons => .deny (reasons ++ [reason])
      | some reason, _ => .deny [reason]
      | none, admission => admission
    turnOutcome := some outcome }

/-! ## Outside parties -/

inductive ExternalVerdict where
  | approve
  | reject (reason : String)
  | abstain
  deriving DecidableEq, Repr

structure ExternalApproval where
  providerId : String
  verdict : ExternalVerdict
  deriving DecidableEq, Repr

/-- Only a question is answered from outside. -/
def applyExternalApproval (d : PolicyDecision) (approval : ExternalApproval) : PolicyDecision :=
  { d with
    admission :=
      match d.admission, approval.verdict with
      | .approvalRequired _, .approve => .admitted
      | .approvalRequired _, .reject reason =>
          .deny [.externalPolicyRejected approval.providerId reason]
      | admission, _ => admission }

/-- The time bound against a deadline. -/
def TimeBound.narrowed (t : TimeBound) (deadline : OffsetDateTime) (remaining : Nat) : TimeBound :=
  let target := min t.targetSecs remaining
  let hard := min (t.hardCeilingSecs.getD remaining) remaining
  { mode := t.mode
    targetSecs := target
    elasticCeilingSecs := t.elasticCeilingSecs.map fun e => max target (min e hard)
    hardCeilingSecs := some hard
    deadline := some ((t.deadline.map fun existing => min existing deadline).getD deadline) }

/-- Narrows the time bound and nothing else; a bound that does not validate, or a deadline
that is past, leaves the policy as it is. -/
def applyBusinessContext (base : AdmissionPolicy) (deadline : Option OffsetDateTime)
    (now : OffsetDateTime) : AdmissionPolicy × Bool :=
  match deadline with
  | none => (base, false)
  | some deadline =>
  let remaining := ((deadline - now).tdiv OffsetDateTime.nanosPerSecond).toNat
  if remaining = 0 then (base, false)
  else
  match AdmissionPolicy.validatedAt base.resource (base.time.narrowed deadline remaining)
      base.qualityFloor base.minConfidence now with
  | .error _ => (base, false)
  | .ok derived =>
  match base.turn with
  | none => (derived, true)
  | some turn =>
  match derived.withTurnBound turn with
  | .ok bounded => (bounded, true)
  | .error _ => (derived, true)

/-! ## The completion reserve -/

/-- A fifth of the basis, a twentieth more for each required criterion, at most a half. -/
def completionReservePercent (contract : CompletionContract) : Nat :=
  min (20 + 5 * contract.requiredCriteria.length) 50

def completionReserveFor (contract : CompletionContract) (estimate : Option Estimate)
    (p : AdmissionPolicy) : CompletionReserveEstimate :=
  let estimated := (estimate.bind Estimate.resourceP80).filter fun a =>
    a.kind = p.resource.target.kind
  let raw := (estimated.getD p.turnFallbackRequest).scaled (completionReservePercent contract)
  { amount := if p.resource.hardCeiling.value < raw.value then p.resource.hardCeiling else raw
    basis := if estimated.isSome then .estimateP80 else .policyTarget }

end LibraGovernor
