/-
# LibraGovernor.Estimator.Estimate -- estimates from recorded receipts

`estimateBucketed` walks the ladder of buckets, most specific first, and computes quantiles over
the first bucket that holds enough receipts, else over all of them, else gives a cold start.
`remainingBucketed` walks the ladder again and conditions the receipts it finds on the progress of
the task; `typicalToolCallCountBucketed` walks it a third time.  Amounts and fractions are exact
numbers here.
-/
import LibraGovernor.Lib.NearestRank
import LibraGovernor.Lib.Tally
import LibraGovernor.Domain.Clock
import LibraGovernor.Domain.EconomicEvent
import LibraGovernor.Domain.SharedPool
import LibraGovernor.Domain.TaskBudget

namespace LibraGovernor

namespace Estimator

set_option autoImplicit false

open NearestRank

/-! ## Amounts -/

inductive ResourceAmount where
  | usdCents (cents : Int)
  | tokens (count : Nat)
  | quotaPercent (percent : ℚ)
  deriving DecidableEq

def ResourceAmount.kind : ResourceAmount → ResourceKind
  | .usdCents _ => .usd
  | .tokens _ => .tokens
  | .quotaPercent _ => .quotaPercent

def numericValue : ResourceAmount → ℚ
  | .usdCents v => v
  | .tokens v => v
  | .quotaPercent v => v

/-- `f64::round`: to the nearest whole number, halves away from zero. -/
def roundAway (v : ℚ) : Int := if 0 ≤ v then ⌊v + 1 / 2⌋ else -⌊-v + 1 / 2⌋

def rebuildAmount (kind : ResourceKind) (value : ℚ) : ResourceAmount :=
  match kind with
  | .usd => .usdCents (roundAway value)
  | .tokens => .tokens (roundAway value).toNat
  | .quotaPercent => .quotaPercent value

/-! ## Regimes -/

inductive DimensionUnavailable where
  | hostExposesNoPrimitive
  | notWiredByLibra
  | noGatewayConfigured
  | mixedWithinTask (distinct : Nat)
  | preRegimeRecord
  deriving DecidableEq

inductive DimensionValue where
  | known (token : String)
  | unavailable (cause : DimensionUnavailable)
  deriving DecidableEq

structure RegimeKey where
  model : DimensionValue
  harness : DimensionValue
  harnessVersion : DimensionValue
  effort : DimensionValue
  pricingVersion : DimensionValue
  enforcementTier : DimensionValue
  estimatorRegimeSchema : DimensionValue
  featureSchema : DimensionValue
  deriving DecidableEq

inductive RegimeDimension where
  | model
  | harness
  | harnessVersion
  | effort
  | pricingVersion
  | enforcementTier
  | estimatorRegimeSchema
  | featureSchema
  deriving DecidableEq

def RegimeDimension.all : List RegimeDimension :=
  [.model, .harness, .harnessVersion, .effort, .pricingVersion, .enforcementTier,
    .estimatorRegimeSchema, .featureSchema]

inductive RegimeComparison where
  | comparable
  | incompatible (differing : List RegimeDimension)
  deriving DecidableEq

def RegimeComparison.isComparable : RegimeComparison → Bool
  | .comparable => true
  | .incompatible _ => false

namespace RegimeKey

def preRegimeRecord : RegimeKey where
  model := .unavailable .preRegimeRecord
  harness := .unavailable .preRegimeRecord
  harnessVersion := .unavailable .preRegimeRecord
  effort := .unavailable .preRegimeRecord
  pricingVersion := .unavailable .preRegimeRecord
  enforcementTier := .unavailable .preRegimeRecord
  estimatorRegimeSchema := .unavailable .preRegimeRecord
  featureSchema := .unavailable .preRegimeRecord

def field (key : RegimeKey) : RegimeDimension → DimensionValue
  | .model => key.model
  | .harness => key.harness
  | .harnessVersion => key.harnessVersion
  | .effort => key.effort
  | .pricingVersion => key.pricingVersion
  | .enforcementTier => key.enforcementTier
  | .estimatorRegimeSchema => key.estimatorRegimeSchema
  | .featureSchema => key.featureSchema

/-- Only two known values that differ are evidence of a change. -/
def comparison (key other : RegimeKey) : RegimeComparison :=
  let differing := RegimeDimension.all.filter fun dim =>
    match key.field dim, other.field dim with
    | .known a, .known b => a ≠ b
    | _, _ => false
  if differing.isEmpty then .comparable else .incompatible differing

end RegimeKey

structure RegimeProvenance where
  schemaVersion : String
  key : RegimeKey
  topology : DimensionValue
  cacheClass : DimensionValue
  deriving DecidableEq

def RegimeProvenance.preRegimeRecord : RegimeProvenance where
  schemaVersion := "regime-v1"
  key := RegimeKey.preRegimeRecord
  topology := .unavailable .preRegimeRecord
  cacheClass := .unavailable .preRegimeRecord

structure RegimeBasis where
  provenance : RegimeProvenance
  inRegimeSampleCount : Nat
  outOfRegimeSampleCount : Nat
  deriving DecidableEq

/-! ## Features and receipts -/

inductive BuildTopology where
  | cargo
  | npm
  | python
  | go
  | ruby
  | mixed
  | unknown
  deriving DecidableEq

/-- The features a bucket compares. -/
structure TaskFeatures where
  repoKey : String
  topology : BuildTopology
  model : Option String
  featureSchemaVersion : String
  deriving DecidableEq

/-- The part of a receipt an estimate reads. -/
structure ExecutionReceipt where
  actualDurationSecs : Nat
  actualUsage : List ResourceAmount
  toolCallCount : Nat
  regime : Option RegimeProvenance
  deriving DecidableEq

abbrev History := List (Option TaskFeatures × ExecutionReceipt)

inductive BucketTier where
  | repoTopologyModel
  | repoTopology
  | repo
  | topology
  | global
  | coldStart
  deriving DecidableEq

def minClassSamples : Nat := 5

def minConditionalSamples : Nat := minClassSamples

def bucketLadder (_current : TaskFeatures) : List BucketTier :=
  [.repoTopologyModel, .repoTopology, .repo, .topology]

def tierMatches (tier : BucketTier) (a b : TaskFeatures) : Bool :=
  match tier with
  | .repoTopologyModel => a.repoKey = b.repoKey && a.topology = b.topology && a.model = b.model
  | .repoTopology => a.repoKey = b.repoKey && a.topology = b.topology
  | .repo => a.repoKey = b.repoKey
  | .topology => a.topology = b.topology
  | .global | .coldStart => true

/-! ## Estimates -/

def confidenceFromEvidence (tier : BucketTier) (n : Nat) : Confidence :=
  match tier with
  | .coldStart => .low
  | .global => .medium
  | .repoTopologyModel | .repoTopology | .repo | .topology =>
      if n < minClassSamples then .low else if n < 20 then .medium else .high

structure Estimate where
  durationP50Secs : Option Nat
  durationP80Secs : Option Nat
  durationP90Secs : Option Nat
  resourceP50 : Option ResourceAmount
  resourceP80 : Option ResourceAmount
  resourceP90 : Option ResourceAmount
  confidence : Confidence
  sampleCount : Nat
  coldStart : Bool
  estimatorVersion : String
  reason : Option String
  featureSchemaVersion : String
  bucketTier : BucketTier
  regime : RegimeBasis
  deriving DecidableEq

def estimatorVersion : String := "v4-regime-aware"

def Estimate.cold : Estimate where
  durationP50Secs := none
  durationP80Secs := none
  durationP90Secs := none
  resourceP50 := none
  resourceP80 := none
  resourceP90 := none
  confidence := .low
  sampleCount := 0
  coldStart := true
  estimatorVersion := Estimator.estimatorVersion
  reason := some "insufficient local history: no ExecutionReceipt rows recorded yet"
  featureSchemaVersion := "fs-v1"
  bucketTier := .coldStart
  regime :=
    { provenance := RegimeProvenance.preRegimeRecord
      inRegimeSampleCount := 0
      outOfRegimeSampleCount := 0 }

/-- `quantile_u64`. -/
def quantileU64 (sorted : List Nat) (nonempty : sorted ≠ []) (p : ℚ) : Nat :=
  atRank sorted nonempty p

/-- `quantile_f64`. -/
def quantileF64 (sorted : List ℚ) (nonempty : sorted ≠ []) (p : ℚ) : ℚ :=
  atRank sorted nonempty p

/-- The largest entry of the tally of kinds; of several, `max_by_key` takes the last. -/
def mostCommonKind (amounts : List ResourceAmount) : Option ResourceKind :=
  Tally.mostSeen (amounts.map ResourceAmount.kind)

theorem mostCommonKind_eq_none {amounts : List ResourceAmount}
    (none : mostCommonKind amounts = none) : amounts = [] :=
  List.map_eq_nil_iff.mp (Tally.mostSeen_eq_none none)

def sorted {α : Type} [LinearOrder α] (values : List α) : List α :=
  values.insertionSort (· ≤ ·)

theorem sorted_perm {α : Type} [LinearOrder α] (values : List α) : (sorted values).Perm values :=
  List.perm_insertionSort _ values

theorem sorted_pairwise {α : Type} [LinearOrder α] (values : List α) :
    (sorted values).Pairwise (· ≤ ·) :=
  List.pairwise_insertionSort _ values

theorem sorted_ne_nil {α : Type} [LinearOrder α] {values : List α} (nonempty : values ≠ []) :
    sorted values ≠ [] := by
  intro empty
  have same := sorted_perm values
  rw [empty] at same
  exact nonempty same.symm.eq_nil

/-- A list and its permutation sort to the same. -/
theorem sorted_eq {α : Type} [LinearOrder α] {values values' : List α}
    (same : values.Perm values') : sorted values = sorted values' :=
  (((sorted_perm values).trans same).trans (sorted_perm values').symm).eq_of_pairwise
    (fun _ _ _ _ => le_antisymm) (sorted_pairwise values) (sorted_pairwise values')

/-- The values of the amounts of one kind. -/
def valuesOf (kind : ResourceKind) (amounts : List ResourceAmount) : List ℚ :=
  (amounts.filter (·.kind = kind)).map numericValue

theorem valuesOf_ne_nil {amounts : List ResourceAmount} {kind : ResourceKind}
    (found : mostCommonKind amounts = some kind) : valuesOf kind amounts ≠ [] := by
  obtain ⟨amount, mem, kindOf⟩ := List.mem_map.mp (Tally.mostSeen_last found).1
  intro empty
  have kept : amount ∈ amounts.filter (·.kind = kind) :=
    List.mem_filter.mpr ⟨mem, decide_eq_true kindOf⟩
  rw [List.map_eq_nil_iff.mp empty] at kept
  cases kept

def resourceQuantiles (receipts : List ExecutionReceipt) :
    Option ResourceAmount × Option ResourceAmount × Option ResourceAmount :=
  let amounts := receipts.flatMap (·.actualUsage)
  match found : mostCommonKind amounts with
  | none => (none, none, none)
  | some kind =>
      let values := sorted (valuesOf kind amounts)
      have nonempty : values ≠ [] := sorted_ne_nil (valuesOf_ne_nil found)
      (some (rebuildAmount kind (quantileF64 values nonempty (1 / 2))),
        some (rebuildAmount kind (quantileF64 values nonempty (4 / 5))),
        some (rebuildAmount kind (quantileF64 values nonempty (9 / 10))))

def inRegime (currentRegime : RegimeProvenance) (receipt : ExecutionReceipt) : Bool :=
  let key := (receipt.regime.map (·.key)).getD RegimeKey.preRegimeRecord
  (key.comparison currentRegime.key).isComparable

theorem durations_ne_nil {receipts : List ExecutionReceipt} (nonempty : receipts ≠ []) :
    sorted (receipts.map (·.actualDurationSecs)) ≠ [] :=
  sorted_ne_nil fun empty => nonempty (List.map_eq_nil_iff.mp empty)

def compute (receipts : List ExecutionReceipt) (nonempty : receipts ≠ []) (bucketTier : BucketTier)
    (featureSchemaVersion : String) (currentRegime : RegimeProvenance) : Estimate :=
  let durations := sorted (receipts.map (·.actualDurationSecs))
  have some_ : durations ≠ [] := durations_ne_nil nonempty
  let quantiles := resourceQuantiles receipts
  let inRegimeSampleCount := receipts.countP (inRegime currentRegime)
  { durationP50Secs := some (quantileU64 durations some_ (1 / 2))
    durationP80Secs := some (quantileU64 durations some_ (4 / 5))
    durationP90Secs := some (quantileU64 durations some_ (9 / 10))
    resourceP50 := quantiles.1
    resourceP80 := quantiles.2.1
    resourceP90 := quantiles.2.2
    confidence := confidenceFromEvidence bucketTier inRegimeSampleCount
    sampleCount := receipts.length
    coldStart := false
    estimatorVersion := estimatorVersion
    reason := none
    featureSchemaVersion
    bucketTier
    regime :=
      { provenance := currentRegime
        inRegimeSampleCount
        outOfRegimeSampleCount := receipts.length - inRegimeSampleCount } }

/-- The receipts of a history whose features match at a tier. -/
def bucketed (history : History) (current : TaskFeatures) (tier : BucketTier) :
    List ExecutionReceipt :=
  (history.filter fun entry => entry.1.any fun f => tierMatches tier f current).map (·.2)

theorem ne_nil_of_enough {receipts : List ExecutionReceipt}
    (enough : minClassSamples ≤ receipts.length) : receipts ≠ [] := by
  rintro rfl
  simp [minClassSamples] at enough

def estimateBucketed (history : History) (current : TaskFeatures)
    (currentRegime : RegimeProvenance) : Estimate :=
  let fromLadder := (bucketLadder current).findSome? fun tier =>
    if enough : minClassSamples ≤ (bucketed history current tier).length then
      some (compute (bucketed history current tier) (ne_nil_of_enough enough) tier
        current.featureSchemaVersion currentRegime)
    else none
  match fromLadder with
  | some estimate => estimate
  | none =>
      let everything := history.map (·.2)
      if some_ : everything ≠ [] then
        compute everything some_ .global current.featureSchemaVersion currentRegime
      else
        { Estimate.cold with
          featureSchemaVersion := current.featureSchemaVersion
          regime :=
            { provenance := currentRegime
              inRegimeSampleCount := 0
              outOfRegimeSampleCount := 0 } }

/-! ## Remaining work -/

inductive NoSpendBasis where
  | noAccount
  deriving DecidableEq

inductive SpendScope where
  | exclusive
  | inclusive
  deriving DecidableEq

inductive SpendSoFar where
  | noBasis (reason : NoSpendBasis)
  | known (kind : ResourceKind) (settled activeHolds : ℚ) (scope : SpendScope) (accountCount : Nat)
  deriving DecidableEq

structure ProgressEvidence where
  elapsedSecs : Nat
  spendSoFar : SpendSoFar
  toolCallsTotal : Nat
  toolCallsSinceLastReplan : Nat
  sameToolStreak : Nat
  planRevision : Nat
  autoReplanCount : Nat
  activeLeaseCount : Nat
  childAccountCount : Nat
  gatewayRequestCount : Nat
  observedAt : OffsetDateTime
  deriving DecidableEq

inductive RemainingDuration where
  | insufficient (conditionalN required elapsedSecs : Nat)
  | quantiles (p50Secs p80Secs p90Secs conditionalN : Nat)
  deriving DecidableEq

inductive RemainingResource where
  | unavailable (reason : String)
  | insufficient (conditionalN required : Nat)
  | quantiles (kind : ResourceKind) (p50 p80 p90 : ResourceAmount) (conditionalN : Nat)
      (weakestTruth : TruthStrength)
  deriving DecidableEq

structure FeasibilityBound where
  kind : ResourceKind
  remainingHeadroom : ℚ
  deriving DecidableEq

inductive Feasibility where
  | insufficient (conditionalN required : Nat)
  | observedFrequency (conditionalN fittingN : Nat) (fraction : ℚ) (against : FeasibilityBound)
  deriving DecidableEq

structure RemainingWorkEstimate where
  schemaVersion : String
  estimatorVersion : String
  duration : RemainingDuration
  resource : RemainingResource
  feasibility : Feasibility
  confidence : Confidence
  regime : RegimeBasis
  bucketTier : BucketTier
  evidence : ProgressEvidence
  deriving DecidableEq

def RemainingWorkEstimate.assemble (base : Estimate) (duration : RemainingDuration)
    (resource : RemainingResource) (feasibility : Feasibility) (evidence : ProgressEvidence) :
    RemainingWorkEstimate where
  schemaVersion := "remaining-work-v1"
  estimatorVersion := base.estimatorVersion
  duration
  resource
  feasibility
  confidence := base.confidence
  regime := base.regime
  bucketTier := base.bucketTier
  evidence

/-- The durations past a point, counted from it. -/
def durationsPast (receipts : List ExecutionReceipt) (elapsedSecs : Nat) : List Nat :=
  ((receipts.map (·.actualDurationSecs)).filter (elapsedSecs < ·)).map (· - elapsedSecs)

theorem sorted_ne_nil_of_enough {α : Type} [LinearOrder α] {values : List α}
    (enough : minConditionalSamples ≤ values.length) : sorted values ≠ [] := by
  refine sorted_ne_nil ?_
  rintro rfl
  simp [minConditionalSamples, minClassSamples] at enough

def remainingDuration (receipts : List ExecutionReceipt) (elapsedSecs : Nat) :
    RemainingDuration :=
  let remaining := durationsPast receipts elapsedSecs
  if enough : minConditionalSamples ≤ remaining.length then
    have nonempty := sorted_ne_nil_of_enough enough
    .quantiles (quantileU64 (sorted remaining) nonempty (1 / 2))
      (quantileU64 (sorted remaining) nonempty (4 / 5))
      (quantileU64 (sorted remaining) nonempty (9 / 10)) remaining.length
  else .insufficient remaining.length minConditionalSamples elapsedSecs

/-- What was spent of a kind: nothing unless it is known for that kind. -/
def SpendSoFar.spentOf (spend : SpendSoFar) (mostCommon : ResourceKind) : ℚ :=
  match spend with
  | .known kind settled _ _ _ => if kind = mostCommon then settled else 0
  | .noBasis _ => 0

/-- The values of a kind past what was spent of it, counted from there. -/
def valuesPast (kind : ResourceKind) (amounts : List ResourceAmount) (spent : ℚ) : List ℚ :=
  ((valuesOf kind amounts).filter (spent < ·)).map (· - spent)

def remainingResource (receipts : List ExecutionReceipt) (spendSoFar : SpendSoFar) :
    RemainingResource :=
  let amounts := receipts.flatMap (·.actualUsage)
  match mostCommonKind amounts with
  | none => .unavailable "no receipt carries resource usage at the current enforcement tier"
  | some kind =>
      let remaining := valuesPast kind amounts (spendSoFar.spentOf kind)
      if enough : minConditionalSamples ≤ remaining.length then
        have nonempty := sorted_ne_nil_of_enough enough
        .quantiles kind
          (rebuildAmount kind (quantileF64 (sorted remaining) nonempty (1 / 2)))
          (rebuildAmount kind (quantileF64 (sorted remaining) nonempty (4 / 5)))
          (rebuildAmount kind (quantileF64 (sorted remaining) nonempty (9 / 10)))
          remaining.length .estimated
      else .insufficient remaining.length minConditionalSamples

def remainingFeasibility (receipts : List ExecutionReceipt) (elapsedSecs : Nat) : Feasibility :=
  let conditionalN := receipts.countP (elapsedSecs < ·.actualDurationSecs)
  if receipts.length < minConditionalSamples then
    .insufficient receipts.length minConditionalSamples
  else
    .observedFrequency receipts.length conditionalN (conditionalN / receipts.length)
      { kind := .usd, remainingHeadroom := 0 }

def remainingBucketed (history : History) (current : TaskFeatures)
    (currentRegime : RegimeProvenance) (progress : ProgressEvidence) : RemainingWorkEstimate :=
  let base := estimateBucketed history current currentRegime
  let fromLadder := (bucketLadder current).findSome? fun tier =>
    let matching := bucketed history current tier
    if minClassSamples ≤ matching.length then some matching else none
  let sample := fromLadder.getD (history.map (·.2))
  let duration := remainingDuration sample progress.elapsedSecs
  let resource := remainingResource sample progress.spendSoFar
  let feasibility := remainingFeasibility sample progress.elapsedSecs
  RemainingWorkEstimate.assemble base duration resource feasibility progress

/-- The median tool call count of the first bucket that holds enough receipts. -/
def typicalToolCallCountBucketed (history : History) (current : TaskFeatures) : Option Nat :=
  (bucketLadder current).findSome? fun tier =>
    let counts := (bucketed history current tier).map (·.toolCallCount)
    if enough : minClassSamples ≤ counts.length then
      some (quantileU64 (sorted counts) (sorted_ne_nil_of_enough enough) (1 / 2))
    else none

end Estimator

end LibraGovernor
