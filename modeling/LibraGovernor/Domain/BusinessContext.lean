/-
# LibraGovernor.Domain.BusinessContext -- a deadline from outside narrows the time bound

An external context may bring a deadline.  `applyBusinessContext` cuts the time bound of
the configured policy to what is left until then, rebuilds the policy through its
validating constructor, and attaches the turn bound again, since the constructor leaves
both optional bounds unset.  The renewal bound is not attached again.
`tryApplyBusinessContext` repeats the arithmetic for a caller that wants the error, and
attaches neither.

`TimeBound.Shaped` is what validation asks of a time bound apart from its deadline.  A
narrowed bound keeps the shape (`TimeBound.Shaped.narrowed`), so narrowing is refused for
one reason only: the policy's own deadline is past (`applyBusinessContext_eq`).
-/
import LibraGovernor.Domain.Policy
import LibraGovernor.Lib.Transaction

namespace LibraGovernor

open Transaction

set_option autoImplicit false

/-- `POLICY_SCHEMA_VERSION`. -/
def currentPolicySchemaVersion : String := "policy-v1"

inductive AutonomyBoundary where
  | fullyAutonomous
  | askOnApproval
  | confirmEachStep
  deriving DecidableEq, Repr

/-- A policy with the fields that admission does not read. -/
structure ConfiguredPolicy extends AdmissionPolicy where
  policySchemaVersion : String
  name : String
  autonomy : AutonomyBoundary
  deriving DecidableEq, Repr

namespace ConfiguredPolicy

/-- `Policy::validated_at`. -/
def validatedAt (name : String) (resource : ResourceBound) (time : TimeBound)
    (qualityFloor : CompletionContract) (minConfidence : Confidence) (autonomy : AutonomyBoundary)
    (now : OffsetDateTime) : Except PolicyValidationError ConfiguredPolicy := do
  let policy ← AdmissionPolicy.validatedAt resource time qualityFloor minConfidence now
  return { toAdmissionPolicy := policy
           policySchemaVersion := currentPolicySchemaVersion, name, autonomy }

/-- `with_renewal`. -/
def withRenewal (p : ConfiguredPolicy) (renewal : RenewalBound) :
    Except PolicyValidationError ConfiguredPolicy := do
  let renewed ← p.toAdmissionPolicy.withRenewal renewal
  return { p with toAdmissionPolicy := renewed }

/-- `with_turn_bound`. -/
def withTurnBound (p : ConfiguredPolicy) (turn : TurnBound) :
    Except PolicyValidationError ConfiguredPolicy := do
  let bounded ← p.toAdmissionPolicy.withTurnBound turn
  return { p with toAdmissionPolicy := bounded }

/-- A policy that came through the constructors. -/
inductive Built : ConfiguredPolicy → Prop where
  | validated {name : String} {resource : ResourceBound} {time : TimeBound}
      {qualityFloor : CompletionContract} {minConfidence : Confidence}
      {autonomy : AutonomyBoundary} {now : OffsetDateTime} {p : ConfiguredPolicy}
      (done : validatedAt name resource time qualityFloor minConfidence autonomy now = .ok p) :
      Built p
  | renewed {p q : ConfiguredPolicy} {renewal : RenewalBound} (base : Built p)
      (done : p.withRenewal renewal = .ok q) : Built q
  | bounded {p q : ConfiguredPolicy} {turn : TurnBound} (base : Built p)
      (done : p.withTurnBound turn = .ok q) : Built q

/-- `Policy::evaluate`. -/
def evaluate (p : ConfiguredPolicy) (projected : ResourceAmount) (projectedSecs : Nat)
    (confidence : Confidence) : Except PolicyEvaluationError PolicyDecision :=
  p.toAdmissionPolicy.evaluateWith projected projectedSecs confidence true

/-! ## Narrowing -/

/-- `Ord::clamp`, which panics on an empty range: `none`. -/
def clamp (x low high : Nat) : Option Nat :=
  if low ≤ high then some (max low (min x high)) else none

/-- `(deadline - now).whole_seconds().max(0) as u64`. -/
def remainingSecs (deadline now : OffsetDateTime) : Nat :=
  ((deadline - now).tdiv OffsetDateTime.nanosPerSecond).toNat

/-- The four primed figures of both functions; `none` is a panic of the clamp. -/
def narrowedTime (time : TimeBound) (deadline : OffsetDateTime) (remaining : Nat) :
    Option TimeBound := do
  let target := min time.targetSecs remaining
  let hard := min (time.hardCeilingSecs.getD remaining) remaining
  let elastic ←
    match time.elasticCeilingSecs with
    | some e => (clamp e target hard).map some
    | none => some none
  let deadline :=
    match time.deadline with
    | some existing => min existing deadline
    | none => deadline
  return { mode := time.mode
           targetSecs := target
           elasticCeilingSecs := elastic
           hardCeilingSecs := some hard
           deadline := some deadline }

/-- The narrowed policy and whether it was narrowed; `none` is a panic. -/
def applyBusinessContext (base : ConfiguredPolicy) (deadline : Option OffsetDateTime)
    (now : OffsetDateTime) : Option (ConfiguredPolicy × Bool) :=
  match deadline with
  | none => some (base, false)
  | some deadline =>
  let remaining := remainingSecs deadline now
  if remaining = 0 then some (base, false)
  else
  match narrowedTime base.time deadline remaining with
  | none => none
  | some time =>
  match validatedAt base.name base.resource time base.qualityFloor base.minConfidence
      base.autonomy now with
  | .error _ => some (base, false)
  | .ok derived =>
  match base.turn with
  | none => some (derived, true)
  | some turn =>
  match derived.withTurnBound turn with
  | .ok bounded => some (bounded, true)
  | .error _ => some (derived, true)

/-- The variant that reports why a narrowing was refused. -/
def tryApplyBusinessContext (base : ConfiguredPolicy) (deadline : Option OffsetDateTime)
    (now : OffsetDateTime) : Option (Except PolicyValidationError ConfiguredPolicy) :=
  match deadline with
  | none => some (.ok base)
  | some deadline =>
  let remaining := remainingSecs deadline now
  if remaining = 0 then some (.ok base)
  else
  match narrowedTime base.time deadline remaining with
  | none => none
  | some time =>
  some (validatedAt base.name base.resource time base.qualityFloor base.minConfidence
    base.autonomy now)

end ConfiguredPolicy

/-! ## What validation asks of a time bound -/

/-- A time bound that validates, its deadline apart. -/
structure TimeBound.Shaped (t : TimeBound) : Prop where
  hard : t.mode = .hard → t.hardCeilingSecs ≠ none
  target : ∀ hard, t.hardCeilingSecs = some hard → t.targetSecs ≤ hard
  elastic : t.mode = .elastic ↔ t.elasticCeilingSecs ≠ none
  above : ∀ elastic, t.elasticCeilingSecs = some elastic → t.targetSecs ≤ elastic
  below : ∀ elastic hard, t.elasticCeilingSecs = some elastic → t.hardCeilingSecs = some hard →
    elastic ≤ hard

/-- No deadline, or one that is not past. -/
def TimeBound.Due (t : TimeBound) (now : OffsetDateTime) : Prop :=
  ∀ deadline, t.deadline = some deadline → now ≤ deadline

theorem validateTimeElastic_ok_iff (t : TimeBound) :
    validateTimeElastic t = .ok () ↔
      (t.mode = .elastic ↔ t.elasticCeilingSecs ≠ none) ∧
      (∀ elastic, t.elasticCeilingSecs = some elastic → t.targetSecs ≤ elastic) ∧
      ∀ elastic hard, t.elasticCeilingSecs = some elastic → t.hardCeilingSecs = some hard →
        elastic ≤ hard := by
  obtain ⟨mode, target, elastic, hard, deadline⟩ := t
  unfold validateTimeElastic
  cases mode <;> cases elastic <;> simp
  rename_i elastic
  by_cases low : elastic < target
  · simp [low, Nat.not_le.mpr low]
  · cases hard with
    | none => simp [low, Nat.not_lt.mp low]
    | some hard =>
        simp [low]
        omega

/-- A check before the rest of a validation. -/
theorem checked_ok_iff {ε : Type} (refused : Prop) [Decidable refused] (e : ε)
    (rest : Except ε Unit) :
    (if refused then (do throw e; rest) else rest) = .ok () ↔ ¬ refused ∧ rest = .ok () := by
  by_cases h : refused
  · rw [if_pos h]
    constructor
    · intro done
      cases done
    · intro both
      exact absurd h both.1
  · rw [if_neg h]
    exact ⟨fun done => ⟨h, done⟩, And.right⟩

theorem validateTime_ok_iff (t : TimeBound) (now : OffsetDateTime) :
    validateTime t now = .ok () ↔ t.Due now ∧ t.Shaped := by
  have shaped : t.Shaped ↔ ¬ (t.mode = .hard ∧ t.hardCeilingSecs = none) ∧
      (∀ hard, t.hardCeilingSecs = some hard → ¬ hard < t.targetSecs) ∧
      validateTimeElastic t = .ok () := by
    rw [validateTimeElastic_ok_iff]
    constructor
    · intro h
      exact ⟨fun both => h.hard both.1 both.2, fun hard is => Nat.not_lt.mpr (h.target hard is),
        h.elastic, h.above, h.below⟩
    · intro h
      exact ⟨fun mode none => h.1 ⟨mode, none⟩, fun hard is => Nat.not_lt.mp (h.2.1 hard is),
        h.2.2.1, h.2.2.2.1, h.2.2.2.2⟩
  have due : t.Due now ↔ ∀ deadline, t.deadline = some deadline → ¬ deadline < now := by
    constructor
    · intro h deadline is
      exact Int.not_lt.mpr (h deadline is)
    · intro h deadline is
      exact Int.not_lt.mp (h deadline is)
  rw [shaped, due, validateTime]
  cases ends : t.deadline with
  | none =>
      cases cap : t.hardCeilingSecs with
      | none => simp [checked_ok_iff]
      | some hard => simp [checked_ok_iff]
  | some deadline =>
      cases cap : t.hardCeilingSecs with
      | none => simp [checked_ok_iff]
      | some hard => simp [checked_ok_iff]

theorem TimeBound.Shaped.narrowed {t : TimeBound} (shaped : t.Shaped) (deadline : OffsetDateTime)
    (remaining : Nat) : (t.narrowed deadline remaining).Shaped where
  hard := by
    intro _ none
    cases none
  target := by
    intro hard is
    cases is
    show min t.targetSecs remaining ≤ min (t.hardCeilingSecs.getD remaining) remaining
    cases cap : t.hardCeilingSecs with
    | none =>
        show min t.targetSecs remaining ≤ min remaining remaining
        omega
    | some hard =>
        have low := shaped.target hard cap
        show min t.targetSecs remaining ≤ min hard remaining
        omega
  elastic := by
    show t.mode = .elastic ↔ t.elasticCeilingSecs.map _ ≠ none
    rw [shaped.elastic]
    simp
  above := by
    intro elastic is
    obtain ⟨e, -, rfl⟩ := Option.map_eq_some_iff.mp is
    exact Nat.le_max_left _ _
  below := by
    intro elastic hard is cap
    cases cap
    obtain ⟨e, was, rfl⟩ := Option.map_eq_some_iff.mp is
    have low := shaped.above e was
    cases cap : t.hardCeilingSecs with
    | none =>
        simp only [Option.getD_none]
        omega
    | some hard =>
        have high := shaped.target hard cap
        simp only [Option.getD_some]
        omega

/-- No ceiling of the narrowed bound is later than what it was cut from. -/
structure TimeBound.Within (t base : TimeBound) : Prop where
  mode : t.mode = base.mode
  target : t.targetSecs ≤ base.targetSecs
  elastic : ∀ e, base.elasticCeilingSecs = some e → ∃ e', t.elasticCeilingSecs = some e' ∧ e' ≤ e
  hard : ∀ h, base.hardCeilingSecs = some h → ∃ h', t.hardCeilingSecs = some h' ∧ h' ≤ h
  deadline : ∀ d, base.deadline = some d → ∃ d', t.deadline = some d' ∧ d' ≤ d

theorem TimeBound.Within.refl (t : TimeBound) : t.Within t where
  mode := rfl
  target := Nat.le_refl _
  elastic := fun e is => ⟨e, is, Nat.le_refl _⟩
  hard := fun h is => ⟨h, is, Nat.le_refl _⟩
  deadline := fun d is => ⟨d, is, Int.le_refl _⟩

theorem TimeBound.Shaped.narrowed_within {t : TimeBound} (shaped : t.Shaped)
    (deadline : OffsetDateTime) (remaining : Nat) : (t.narrowed deadline remaining).Within t where
  mode := rfl
  target := Nat.min_le_left _ _
  elastic := by
    intro e is
    refine ⟨_, by rw [TimeBound.narrowed, is]; rfl, ?_⟩
    have low := shaped.above e is
    show max (min t.targetSecs remaining) (min e (min (t.hardCeilingSecs.getD remaining) remaining))
      ≤ e
    omega
  hard := by
    intro h is
    refine ⟨_, rfl, ?_⟩
    rw [is]
    exact Nat.min_le_left _ _
  deadline := by
    intro d is
    refine ⟨_, rfl, ?_⟩
    rw [is]
    exact Int.min_le_left _ _

theorem TimeBound.due_narrowed {t : TimeBound} {deadline now : OffsetDateTime}
    (ahead : now ≤ deadline) (remaining : Nat) :
    (t.narrowed deadline remaining).Due now ↔ t.Due now := by
  have cut : (t.narrowed deadline remaining).deadline =
      some ((t.deadline.map fun existing => min existing deadline).getD deadline) := rfl
  rw [TimeBound.Due, TimeBound.Due, cut]
  cases ends : t.deadline with
  | none =>
      simp only [Option.map_none, Option.getD_none, Option.some.injEq, forall_eq', reduceCtorEq,
        false_imp_iff, implies_true, iff_true]
      exact ahead
  | some existing =>
      simp only [Option.map_some, Option.getD_some, Option.some.injEq, forall_eq']
      constructor
      · intro h
        exact Int.le_trans h (Int.min_le_left _ _)
      · intro h
        exact Int.le_min.mpr ⟨h, ahead⟩

/-! ## Severity -/

def ConstraintOutcome.severity : ConstraintOutcome → Nat
  | .admitted => 0
  | .approvalRequired _ => 1
  | .deny _ => 2

def Admission.severity : Admission → Nat
  | .admitted => 0
  | .approvalRequired _ => 1
  | .deny _ => 2

/-- The second verdict is at least as severe; an error stays the error it was. -/
def NoLessSevere {ε α : Type} (severity : α → Nat) : Except ε α → Except ε α → Prop
  | .ok a, .ok b => severity a ≤ severity b
  | .error e, .error e' => e = e'
  | _, _ => False

theorem NoLessSevere.refl {ε α : Type} (severity : α → Nat) (x : Except ε α) :
    NoLessSevere severity x x := by
  cases x with
  | ok a => exact Nat.le_refl _
  | error e => exact rfl

/-- What is admitted without a question. -/
def TimeBound.granted (t : TimeBound) : Nat :=
  match t.mode with
  | .hard => t.hardCeilingSecs.getD 0
  | .elastic => t.elasticCeilingSecs.getD 0
  | .approval => t.targetSecs

/-- Past every ceiling. -/
def TimeBound.Past (t : TimeBound) (secs : Nat) : Prop :=
  ∃ hard, t.hardCeilingSecs = some hard ∧ hard < secs

theorem timeBeyond_severity (t : TimeBound) (secs : Nat) (elastic : Option Nat) :
    0 < (timeBeyond t secs elastic).severity ∧
      (1 < (timeBeyond t secs elastic).severity ↔ t.Past secs) := by
  rw [timeBeyond, TimeBound.Past]
  cases cap : t.hardCeilingSecs with
  | none => simp [ConstraintOutcome.severity]
  | some hard =>
      by_cases inside : secs ≤ hard
      · simp [inside, ConstraintOutcome.severity]
      · simp only [inside, if_false, ConstraintOutcome.severity, Option.some.injEq]
        exact ⟨by omega, fun _ => ⟨hard, rfl, by omega⟩, fun _ => by omega⟩

/-- A shaped bound always decides: admitted within `granted`, denied past the ceiling. -/
theorem TimeBound.Shaped.evaluateTime {t : TimeBound} (shaped : t.Shaped) (secs : Nat) :
    ∃ outcome, evaluateTime t secs = .ok outcome ∧
      (0 < outcome.severity ↔ t.granted < secs) ∧ (1 < outcome.severity ↔ t.Past secs) := by
  cases mode : t.mode with
  | hard =>
      obtain ⟨hard, cap⟩ := Option.ne_none_iff_exists'.mp (shaped.hard mode)
      refine ⟨_, by rw [LibraGovernor.evaluateTime, mode, cap], ?_⟩
      rw [TimeBound.granted, TimeBound.Past, mode, cap]
      by_cases past : hard < secs
      · simp [past, ConstraintOutcome.severity]
      · simp [past, ConstraintOutcome.severity]
  | elastic =>
      obtain ⟨elastic, band⟩ := Option.ne_none_iff_exists'.mp (shaped.elastic.mp mode)
      have low := shaped.above elastic band
      refine ⟨_, by rw [LibraGovernor.evaluateTime, mode, band], ?_⟩
      have granted : t.granted = elastic := by rw [TimeBound.granted, mode, band]; rfl
      rw [granted]
      by_cases inside : secs ≤ elastic
      · have under : ¬ t.Past secs := by
          intro past
          obtain ⟨hard, cap, beyond⟩ := past
          have high := shaped.below elastic hard band cap
          omega
        simp [inside, under, ConstraintOutcome.severity]
      · have target : ¬ secs ≤ t.targetSecs := by omega
        obtain ⟨asks, denies⟩ := timeBeyond_severity t secs (some elastic)
        simp only [inside, target, or_self, if_false]
        exact ⟨⟨fun _ => by omega, fun _ => asks⟩, denies⟩
  | approval =>
      refine ⟨_, by rw [LibraGovernor.evaluateTime, mode], ?_⟩
      have granted : t.granted = t.targetSecs := by rw [TimeBound.granted, mode]
      rw [granted]
      by_cases inside : secs ≤ t.targetSecs
      · have under : ¬ t.Past secs := by
          intro past
          obtain ⟨hard, cap, beyond⟩ := past
          have high := shaped.target hard cap
          omega
        simp [inside, under, ConstraintOutcome.severity]
      · obtain ⟨asks, denies⟩ := timeBeyond_severity t secs none
        simp only [inside, if_false]
        exact ⟨⟨fun _ => by omega, fun _ => asks⟩, denies⟩

theorem TimeBound.Within.granted_le {t base : TimeBound} (within : t.Within base)
    (shaped : base.Shaped) : t.granted ≤ base.granted := by
  rw [TimeBound.granted, TimeBound.granted, within.mode]
  cases mode : base.mode with
  | hard =>
      obtain ⟨hard, cap⟩ := Option.ne_none_iff_exists'.mp (shaped.hard mode)
      obtain ⟨hard', cap', le⟩ := within.hard hard cap
      simp only [cap, cap', Option.getD_some]
      exact le
  | elastic =>
      obtain ⟨elastic, band⟩ := Option.ne_none_iff_exists'.mp (shaped.elastic.mp mode)
      obtain ⟨elastic', band', le⟩ := within.elastic elastic band
      simp only [band, band', Option.getD_some]
      exact le
  | approval => exact within.target

theorem TimeBound.Within.past {t base : TimeBound} (within : t.Within base) {secs : Nat}
    (past : base.Past secs) : t.Past secs := by
  obtain ⟨hard, cap, beyond⟩ := past
  obtain ⟨hard', cap', le⟩ := within.hard hard cap
  exact ⟨hard', cap', by omega⟩

theorem evaluateTime_within {t base : TimeBound} (within : t.Within base) (shaped : t.Shaped)
    (base_shaped : base.Shaped) (secs : Nat) :
    NoLessSevere ConstraintOutcome.severity (evaluateTime base secs) (evaluateTime t secs) := by
  obtain ⟨was, before, asked, denied⟩ := base_shaped.evaluateTime secs
  obtain ⟨is, after, asks, denies⟩ := shaped.evaluateTime secs
  rw [before, after]
  show was.severity ≤ is.severity
  have granted := within.granted_le base_shaped
  by_cases past : base.Past secs
  · have two := denies.mpr (within.past past)
    have bound : was.severity ≤ 2 := by cases was <;> simp [ConstraintOutcome.severity]
    omega
  · have below : ¬ 1 < was.severity := fun h => past (denied.mp h)
    by_cases question : base.granted < secs
    · have one := asks.mpr (by omega)
      omega
    · have none : ¬ 0 < was.severity := fun h => question (asked.mp h)
      omega

/-! ## The whole decision -/

/-- The fold of `evaluate_with` over the two outcomes and the confidence. -/
def folded (resource time : ConstraintOutcome) (lacking : List DenyReason) : Admission :=
  let denyReasons := [resource, time].filterMap ConstraintOutcome.denial ++ lacking
  let approvalRequests := [resource, time].filterMap ConstraintOutcome.question
  if denyReasons ≠ [] then .deny denyReasons
  else if approvalRequests ≠ [] then .approvalRequired approvalRequests
  else .admitted

/-- The fold is as severe as the most severe of the three constraints. -/
theorem folded_severity (resource time : ConstraintOutcome) (lacking : List DenyReason) :
    (folded resource time lacking).severity =
      max (max resource.severity time.severity) (if lacking = [] then 0 else 2) := by
  cases lacking with
  | nil => cases resource <;> cases time <;> rfl
  | cons reason rest => cases resource <;> cases time <;> rfl

theorem folded_within {resource time time' : ConstraintOutcome}
    (later : time.severity ≤ time'.severity) (lacking : List DenyReason) :
    (folded resource time lacking).severity ≤ (folded resource time' lacking).severity := by
  rw [folded_severity, folded_severity]
  omega

/-- The decision from the two outcomes. -/
def AdmissionPolicy.decided (p : AdmissionPolicy) (confidence : Confidence)
    (resource time : ConstraintOutcome) : PolicyDecision :=
  let confidenceOk := decide (p.minConfidence.rank ≤ confidence.rank)
  { admission := folded resource time
      (if confidenceOk then [] else [.confidenceBelowThreshold confidence p.minConfidence])
    resourceOutcome := resource, timeOutcome := time, confidenceOk
    protectedCriteria := p.qualityFloor.requiredCriteria, turnOutcome := none }

theorem evaluateWith_within {p base : AdmissionPolicy} (resource : p.resource = base.resource)
    (confident : p.minConfidence = base.minConfidence) {secs : Nat}
    (time : NoLessSevere ConstraintOutcome.severity (evaluateTime base.time secs)
      (evaluateTime p.time secs))
    (projected : ResourceAmount) (confidence : Confidence) (lifetime : Bool) :
    NoLessSevere (fun d => d.admission.severity)
      (base.evaluateWith projected secs confidence lifetime)
      (p.evaluateWith projected secs confidence lifetime) := by
  have timed : ∀ outcome, NoLessSevere (fun d => d.admission.severity)
      (do return base.decided confidence outcome (← evaluateTime base.time secs))
      (do return p.decided confidence outcome (← evaluateTime p.time secs)) := by
    intro outcome
    revert time
    cases evaluateTime base.time secs with
    | error e =>
        cases evaluateTime p.time secs with
        | error e' => exact id
        | ok after => exact False.elim
    | ok before =>
        cases evaluateTime p.time secs with
        | error e' => exact False.elim
        | ok after =>
            intro later
            show (folded outcome before _).severity ≤ (folded outcome after _).severity
            rw [confident]
            exact folded_within later _
  rw [AdmissionPolicy.evaluateWith, AdmissionPolicy.evaluateWith, resource]
  by_cases kind : projected.kind ≠ base.resource.target.kind
  · rw [if_pos kind, if_pos kind]
    exact NoLessSevere.refl _ _
  rw [if_neg kind, if_neg kind]
  cases lifetime with
  | false => exact timed .admitted
  | true =>
      simp only [if_true]
      cases evaluateResource base.resource projected with
      | error e => exact rfl
      | ok outcome => exact timed outcome

/-! ## What a built policy satisfies -/

namespace ConfiguredPolicy

/-- What the constructors check, the optional bounds included. -/
structure Checked (p : ConfiguredPolicy) : Prop where
  version : p.policySchemaVersion = currentPolicySchemaVersion
  resource : validateResource p.resource = .ok ()
  shaped : p.time.Shaped
  floor : p.qualityFloor.requiredCriteria ≠ []
  turn : ∀ turn, p.turn = some turn → validateTurn p.resource turn = .ok ()

theorem validatedAt_ok_iff {name : String} {resource : ResourceBound} {time : TimeBound}
    {floor : CompletionContract} {confidence : Confidence} {autonomy : AutonomyBoundary}
    {now : OffsetDateTime} {p : ConfiguredPolicy} :
    validatedAt name resource time floor confidence autonomy now = .ok p ↔
      (validateResource resource = .ok () ∧ (time.Due now ∧ time.Shaped) ∧
        floor.requiredCriteria ≠ []) ∧
      p = ⟨⟨resource, time, floor, confidence, none, none⟩, currentPolicySchemaVersion, name,
        autonomy⟩ := by
  rw [← validateTime_ok_iff]
  simp only [validatedAt, AdmissionPolicy.validatedAt, bind_eq_ok_iff]
  constructor
  · intro done
    obtain ⟨q, ⟨_, resource_ok, _, time_ok, done⟩, labelled⟩ := done
    split at done
    · cases done
    · rename_i some
      cases done
      cases labelled
      exact ⟨⟨resource_ok, time_ok, some⟩, rfl⟩
  · intro done
    obtain ⟨⟨resource_ok, time_ok, some⟩, rfl⟩ := done
    exact ⟨_, ⟨(), resource_ok, (), time_ok, if_neg some⟩, rfl⟩

theorem Built.checked {p : ConfiguredPolicy} (built : Built p) : p.Checked := by
  induction built with
  | validated done =>
      obtain ⟨⟨resource, time, floor⟩, rfl⟩ := validatedAt_ok_iff.mp done
      exact ⟨rfl, resource, time.2, floor, fun _ none => by cases none⟩
  | renewed _ done ih =>
      simp only [withRenewal, AdmissionPolicy.withRenewal, bind_eq_ok_iff] at done
      obtain ⟨_, ⟨_, -, renewed⟩, done⟩ := done
      cases renewed
      cases done
      exact ⟨ih.version, ih.resource, ih.shaped, ih.floor, ih.turn⟩
  | bounded _ done ih =>
      simp only [withTurnBound, AdmissionPolicy.withTurnBound, bind_eq_ok_iff] at done
      obtain ⟨_, ⟨_, valid, bounded⟩, done⟩ := done
      cases bounded
      cases done
      refine ⟨ih.version, ih.resource, ih.shaped, ih.floor, ?_⟩
      intro turn is
      cases is
      exact valid

/-! ## What the two functions return -/

/-- The clamp's range is never empty on a shaped bound. -/
theorem narrowedTime_eq {t : TimeBound} (shaped : t.Shaped) (deadline : OffsetDateTime)
    (remaining : Nat) :
    narrowedTime t deadline remaining = some (t.narrowed deadline remaining) := by
  have range : min t.targetSecs remaining ≤ min (t.hardCeilingSecs.getD remaining) remaining :=
    (shaped.narrowed deadline remaining).target _ rfl
  have ends : (match t.deadline with
      | some existing => min existing deadline
      | none => deadline) = (t.deadline.map fun existing => min existing deadline).getD deadline := by
    cases t.deadline <;> rfl
  rw [narrowedTime, ends]
  cases band : t.elasticCeilingSecs with
  | none =>
      rw [TimeBound.narrowed, band]
      rfl
  | some e =>
      rw [TimeBound.narrowed, band]
      simp only [clamp, if_pos range]
      rfl

/-- There is a second left until the deadline, and the policy's own deadline is not past. -/
def Narrows (base : ConfiguredPolicy) (deadline : Option OffsetDateTime) (now : OffsetDateTime) :
    Prop :=
  (∃ d, deadline = some d ∧ remainingSecs d now ≠ 0) ∧ base.time.Due now

theorem le_of_remainingSecs {deadline now : OffsetDateTime} (left : remainingSecs deadline now ≠ 0) :
    now ≤ deadline := by
  have whole : ∀ d n : Int, (Int.tdiv (d - n) 1000000000).toNat ≠ 0 → n ≤ d := by
    intro d n positive
    by_contra past
    have nonneg : 0 ≤ Int.tdiv (n - d) 1000000000 := Int.tdiv_nonneg (by omega) (by omega)
    have flipped : Int.tdiv (d - n) 1000000000 = - Int.tdiv (n - d) 1000000000 := by
      rw [← Int.neg_tdiv, Int.neg_sub]
    omega
  exact whole deadline now left

/-- The policy with its time bound cut, as the validating constructor leaves it. -/
def cut (base : ConfiguredPolicy) (deadline now : OffsetDateTime) : ConfiguredPolicy :=
  { base with time := base.time.narrowed deadline (remainingSecs deadline now)
              renewal := none, turn := none }

theorem validatedAt_narrowed {base : ConfiguredPolicy} (checked : base.Checked)
    {deadline now : OffsetDateTime} (left : remainingSecs deadline now ≠ 0) (p : ConfiguredPolicy) :
    validatedAt base.name base.resource (base.time.narrowed deadline (remainingSecs deadline now))
        base.qualityFloor base.minConfidence base.autonomy now = .ok p ↔
      base.time.Due now ∧ p = base.cut deadline now := by
  rw [validatedAt_ok_iff, TimeBound.due_narrowed (le_of_remainingSecs left)]
  have version := checked.version
  constructor
  · intro done
    exact ⟨done.1.2.1.1, by rw [done.2, cut, version]⟩
  · intro done
    refine ⟨⟨checked.resource, ⟨done.1, checked.shaped.narrowed _ _⟩, checked.floor⟩, ?_⟩
    rw [done.2, cut, version]

theorem tryApplyBusinessContext_ok_iff {base : ConfiguredPolicy} (checked : base.Checked)
    (deadline : Option OffsetDateTime) (now : OffsetDateTime) (p : ConfiguredPolicy) :
    tryApplyBusinessContext base deadline now = some (.ok p) ↔
      ((∀ d, deadline = some d → remainingSecs d now = 0) ∧ p = base) ∨
      ∃ d, deadline = some d ∧ remainingSecs d now ≠ 0 ∧ base.time.Due now ∧ p = base.cut d now := by
  unfold tryApplyBusinessContext
  cases deadline with
  | none => simp [eq_comm]
  | some d =>
      by_cases left : remainingSecs d now = 0
      · simp [left, eq_comm]
      · simp only [left, if_false, narrowedTime_eq checked.shaped, Option.some.injEq,
          validatedAt_narrowed checked left]
        constructor
        · intro done
          exact .inr ⟨d, rfl, left, done⟩
        · intro done
          obtain ⟨spent, -⟩ | ⟨_, rfl, -, done⟩ := done
          · exact absurd (spent d rfl) left
          · exact done

/-- Narrowing gives back the turn bound and not the renewal bound. -/
theorem applyBusinessContext_narrows {base : ConfiguredPolicy} (checked : base.Checked)
    {d now : OffsetDateTime} (left : remainingSecs d now ≠ 0) (due : base.time.Due now) :
    applyBusinessContext base (some d) now = some ({ base.cut d now with turn := base.turn }, true) := by
  have validated := (validatedAt_narrowed checked left _).mpr ⟨due, rfl⟩
  unfold applyBusinessContext
  simp only [left, if_false, narrowedTime_eq checked.shaped, validated]
  cases bound : base.turn with
  | none => rfl
  | some turn =>
      have attached : (base.cut d now).withTurnBound turn =
          .ok { base.cut d now with turn := some turn } := by
        have valid : validateTurn (base.cut d now).resource turn = .ok () := checked.turn turn bound
        rw [withTurnBound, AdmissionPolicy.withTurnBound, valid]
        rfl
      simp only [attached]

/-- Otherwise the policy stays as it is. -/
theorem applyBusinessContext_keeps {base : ConfiguredPolicy} (checked : base.Checked)
    {deadline : Option OffsetDateTime} {now : OffsetDateTime}
    (idle : ¬ base.Narrows deadline now) :
    applyBusinessContext base deadline now = some (base, false) := by
  unfold applyBusinessContext
  cases deadline with
  | none => rfl
  | some d =>
      by_cases left : remainingSecs d now = 0
      · simp only [left, if_true]
      · have past : ¬ base.time.Due now := fun due => idle ⟨⟨d, rfl, left⟩, due⟩
        simp only [left, if_false, narrowedTime_eq checked.shaped]
        cases validated : validatedAt base.name base.resource
            (base.time.narrowed d (remainingSecs d now)) base.qualityFloor base.minConfidence
            base.autonomy now with
        | error e => rfl
        | ok p => exact absurd ((validatedAt_narrowed checked left p).mp validated).1 past

theorem tryApplyBusinessContext_ne_none {base : ConfiguredPolicy} (checked : base.Checked)
    (deadline : Option OffsetDateTime) (now : OffsetDateTime) :
    tryApplyBusinessContext base deadline now ≠ none := by
  unfold tryApplyBusinessContext
  cases deadline with
  | none => exact Option.some_ne_none _
  | some d =>
      simp only [narrowedTime_eq checked.shaped]
      split
      · exact Option.some_ne_none _
      · exact Option.some_ne_none _

/-- A policy that differs in a time bound cut within the base's is never less severe. -/
theorem evaluate_within {p base : ConfiguredPolicy} (frame : p = { base with time := p.time })
    (within : p.time.Within base.time) (shaped : p.time.Shaped) (base_shaped : base.time.Shaped)
    (projected : ResourceAmount) (secs : Nat) (confidence : Confidence) :
    NoLessSevere (fun d => d.admission.severity) (base.evaluate projected secs confidence)
      (p.evaluate projected secs confidence) := by
  have resource : p.resource = base.resource := by rw [frame]
  have confident : p.minConfidence = base.minConfidence := by rw [frame]
  exact evaluateWith_within resource confident (evaluateTime_within within shaped base_shaped secs)
    projected confidence true

/-! ## The context narrows the time and nothing else -/

/-- What `p` has to be for the context to have narrowed the time of `base` only. -/
structure Narrowed (base : ConfiguredPolicy) (deadline : Option OffsetDateTime)
    (now : OffsetDateTime) (p : ConfiguredPolicy) (applied : Bool) : Prop where
  frame : p = { base with time := p.time }
  validates : applied = true → ∃ q, validatedAt p.name p.resource p.time p.qualityFloor
    p.minConfidence p.autonomy now = .ok q
  within : p.time.Within base.time
  evaluate : ∀ projected secs confidence, NoLessSevere (fun d => d.admission.severity)
    (base.evaluate projected secs confidence) (p.evaluate projected secs confidence)
  turn : ∀ projected, NoLessSevere ConstraintOutcome.severity (base.evaluateTurn projected)
    (p.evaluateTurn projected)
  tried : tryApplyBusinessContext base deadline now ≠ none ∧
    ∀ q, tryApplyBusinessContext base deadline now = some (.ok q) → q = p

/-- Both functions return, and what they return is the base with its time bound narrowed. -/
def OnlyNarrows (base : ConfiguredPolicy) (deadline : Option OffsetDateTime)
    (now : OffsetDateTime) : Prop :=
  ∃ p applied, applyBusinessContext base deadline now = some (p, applied) ∧
    Narrowed base deadline now p applied

theorem onlyNarrows_of_idle {base : ConfiguredPolicy} (checked : base.Checked)
    {deadline : Option OffsetDateTime} {now : OffsetDateTime} (idle : ¬ base.Narrows deadline now) :
    OnlyNarrows base deadline now := by
  refine ⟨base, false, applyBusinessContext_keeps checked idle, ?_⟩
  have tried : ∀ q, tryApplyBusinessContext base deadline now = some (.ok q) → q = base := by
    intro q tried
    obtain ⟨-, same⟩ | ⟨d, is, left, due, -⟩ :=
      (tryApplyBusinessContext_ok_iff checked deadline now q).mp tried
    · exact same
    · exact absurd ⟨⟨d, is, left⟩, due⟩ idle
  exact
    { frame := rfl
      validates := fun applied => by cases applied
      within := .refl _
      evaluate := fun _ _ _ => .refl _ _
      turn := fun _ => .refl _ _
      tried := ⟨tryApplyBusinessContext_ne_none checked deadline now, tried⟩ }

theorem onlyNarrows_of_unbounded {base : ConfiguredPolicy} (checked : base.Checked)
    {d now : OffsetDateTime} (left : remainingSecs d now ≠ 0) (due : base.time.Due now)
    (renewal : base.renewal = none) (turn : base.turn = none) :
    OnlyNarrows base (some d) now := by
  have shaped := checked.shaped.narrowed d (remainingSecs d now)
  have within := checked.shaped.narrowed_within d (remainingSecs d now)
  have same : base.cut d now = { base with time := base.time.narrowed d (remainingSecs d now) } := by
    rw [cut, renewal, turn]
  refine ⟨base.cut d now, true, ?_, ?_⟩
  · rw [applyBusinessContext_narrows checked left due, turn]
    rfl
  have validated := (validatedAt_narrowed checked left _).mpr ⟨due, rfl⟩
  have unturned : ∀ projected, NoLessSevere ConstraintOutcome.severity (base.evaluateTurn projected)
      ((base.cut d now).evaluateTurn projected) := by
    intro projected
    rw [same]
    exact .refl _ _
  have tried : ∀ q, tryApplyBusinessContext base (some d) now = some (.ok q) →
      q = base.cut d now := by
    intro q tried
    obtain ⟨spent, -⟩ | ⟨_, is, -, -, cut⟩ :=
      (tryApplyBusinessContext_ok_iff checked (some d) now q).mp tried
    · exact absurd (spent d rfl) left
    · cases is
      exact cut
  exact
    { frame := same
      validates := fun _ => ⟨_, validated⟩
      within := within
      evaluate := evaluate_within same within shaped checked.shaped
      turn := unturned
      tried := ⟨tryApplyBusinessContext_ne_none checked (some d) now, tried⟩ }

/-- The context narrows the time only, unless it narrows a policy with a renewal bound, which
it drops, or with a turn bound, which the reporting variant drops. -/
theorem applyBusinessContext_onlyNarrows_iff {base : ConfiguredPolicy} (built : Built base)
    (deadline : Option OffsetDateTime) (now : OffsetDateTime) :
    OnlyNarrows base deadline now ↔
      (base.Narrows deadline now → base.renewal = none ∧ base.turn = none) := by
  have checked := built.checked
  constructor
  · intro only narrows
    obtain ⟨⟨d, rfl, left⟩, due⟩ := narrows
    obtain ⟨p, applied, done, narrowed⟩ := only
    rw [applyBusinessContext_narrows checked left due] at done
    cases done
    have renewal : ({ base.cut d now with turn := base.turn } : ConfiguredPolicy).renewal =
        base.renewal := by rw [narrowed.frame]
    have tried := narrowed.tried.2 (base.cut d now)
      ((tryApplyBusinessContext_ok_iff checked (some d) now _).mpr (.inr ⟨d, rfl, left, due, rfl⟩))
    have turn : (base.cut d now).turn = base.turn := by rw [tried]
    exact ⟨renewal.symm, turn.symm⟩
  · intro unbounded
    by_cases narrows : base.Narrows deadline now
    · obtain ⟨renewal, turn⟩ := unbounded narrows
      obtain ⟨⟨d, rfl, left⟩, due⟩ := narrows
      exact onlyNarrows_of_unbounded checked left due renewal turn
    · exact onlyNarrows_of_idle checked narrows

/-- The `balanced` preset for a hundred thousand tokens and an hour. -/
def balancedTokens : ConfiguredPolicy where
  resource := ⟨.elastic, ⟨.tokens, 100000⟩, some ⟨.tokens, 125000⟩, ⟨.tokens, 150000⟩⟩
  time := ⟨.elastic, 3600, some 4500, some 5400, none⟩
  qualityFloor := .first [⟨"required verification passes", true⟩]
  minConfidence := .low
  renewal := none
  turn := none
  policySchemaVersion := "policy-v1"
  name := "balanced"
  autonomy := .askOnApproval

theorem balancedTokens_built : Built balancedTokens :=
  .validated (show validatedAt "balanced" balancedTokens.resource balancedTokens.time
    balancedTokens.qualityFloor .low .askOnApproval 0 = .ok balancedTokens from rfl)

/-- Twenty minutes are left of the hour. -/
theorem balancedTokens_onlyNarrows :
    OnlyNarrows balancedTokens (some (1200 * OffsetDateTime.nanosPerSecond)) 0 :=
  (applyBusinessContext_onlyNarrows_iff balancedTokens_built _ 0).mpr fun _ => ⟨rfl, rfl⟩

/-- The same policy with three renewals. -/
def renewableTokens : ConfiguredPolicy :=
  { balancedTokens with renewal := some ⟨⟨.tokens, 300000⟩, 3⟩ }

/-- A deadline twenty minutes ahead takes the renewals away. -/
theorem renewal_bound_is_dropped :
    Built renewableTokens ∧
      ¬ OnlyNarrows renewableTokens (some (1200 * OffsetDateTime.nanosPerSecond)) 0 := by
  have renewed : balancedTokens.withRenewal ⟨⟨.tokens, 300000⟩, 3⟩ = .ok renewableTokens := rfl
  refine ⟨.renewed balancedTokens_built renewed, ?_⟩
  intro only
  obtain ⟨p, applied, done, narrowed⟩ := only
  have dropped : p.renewal = none := by
    cases done
    rfl
  rw [narrowed.frame] at dropped
  cases dropped

end ConfiguredPolicy

end LibraGovernor
