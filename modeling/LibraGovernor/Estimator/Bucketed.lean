/-
# LibraGovernor.Estimator.Bucketed -- one sample behind every estimate

`Sampled` says which receipts an estimate stands on: those of the most specific bucket with enough
of them, all of them if no bucket has, none if there are none.  There is exactly one such sample
(`sampled_exists`, `Sampled.unique`), and the three walks of the ladder all find it
(`estimateBucketed_sampled`, `remainingBucketed_sampled`, `typicalToolCallCountBucketed_sampled`).

Over the sample every figure is a nearest-rank quantile, and none depends on the order of the
history.  One thing does: the kind the resource figures are over.  It is meant to be the first seen
among the most frequent, but the largest entry of the tally is found with a rule that keeps the
last, so the meaning holds exactly where no two kinds tie for most entries
(`estimateBucketed_sound_iff`).
-/
import LibraGovernor.Estimator.Estimate

namespace LibraGovernor

namespace Estimator

set_option autoImplicit false

open NearestRank Tally

/-! ## The sample -/

/-- The receipts an estimate stands on, and the tier they were found at. -/
inductive Sampled (history : History) (current : TaskFeatures) :
    BucketTier → List ExecutionReceipt → Prop where
  | bucket {before after : List BucketTier} {tier : BucketTier}
      (ladder : bucketLadder current = before ++ tier :: after)
      (fewer : ∀ t ∈ before, (bucketed history current t).length < minClassSamples)
      (enough : minClassSamples ≤ (bucketed history current tier).length) :
      Sampled history current tier (bucketed history current tier)
  | everything
      (fewer : ∀ t ∈ bucketLadder current, (bucketed history current t).length < minClassSamples)
      (nonempty : history ≠ []) : Sampled history current .global (history.map (·.2))
  | nothing (empty : history = []) : Sampled history current .coldStart []

section Walks

variable {history : History} {current : TaskFeatures} {currentRegime : RegimeProvenance}
variable {tier : BucketTier} {sample : List ExecutionReceipt}

theorem sampled_exists (history : History) (current : TaskFeatures) :
    ∃ tier sample, Sampled history current tier sample := by
  by_cases empty : history = []
  · exact ⟨_, _, .nothing empty⟩
  · cases found : (bucketLadder current).find? fun t =>
        decide (minClassSamples ≤ (bucketed history current t).length) with
    | none =>
        refine ⟨_, _, .everything ?_ empty⟩
        intro t listed
        have few := List.find?_eq_none.mp found t listed
        rw [decide_eq_true_eq, not_le] at few
        exact few
    | some tier =>
        obtain ⟨enough, before, after, ladder, fewer⟩ := List.find?_eq_some_iff_append.mp found
        rw [decide_eq_true_eq] at enough
        refine ⟨_, _, .bucket ladder ?_ enough⟩
        intro t listed
        have few := fewer t listed
        simpa using few

/-- A walk of the ladder that stops at the first bucket with enough receipts stops at the sample's
tier; it passes them all when the sample is everything. -/
theorem Sampled.walk {β : Type} (chosen : Sampled history current tier sample)
    (value : ∀ t, minClassSamples ≤ (bucketed history current t).length → β) :
    (∃ enough, sample = bucketed history current tier ∧ tier ∈ bucketLadder current ∧
        ((bucketLadder current).findSome? fun t =>
          if enough : minClassSamples ≤ (bucketed history current t).length then
            some (value t enough)
          else none) = some (value tier enough)) ∨
      (sample = history.map (·.2) ∧ tier = (if history = [] then .coldStart else .global) ∧
        ((bucketLadder current).findSome? fun t =>
          if enough : minClassSamples ≤ (bucketed history current t).length then
            some (value t enough)
          else none) = none) := by
  cases chosen with
  | @bucket before after _ ladder fewer enough =>
      refine .inl ⟨enough, rfl, by simp [ladder], ?_⟩
      rw [List.findSome?_eq_some_iff]
      refine ⟨before, tier, after, ladder, dif_pos enough, ?_⟩
      intro t mem
      exact dif_neg (not_le.mpr (fewer t mem))
  | everything fewer nonempty =>
      refine .inr ⟨rfl, (if_neg nonempty).symm, List.findSome?_eq_none_iff.mpr ?_⟩
      intro t listed
      exact dif_neg (not_le.mpr (fewer t listed))
  | nothing empty =>
      subst empty
      exact .inr ⟨rfl, rfl, rfl⟩

theorem Sampled.unique {tier' : BucketTier} {sample' : List ExecutionReceipt}
    (chosen : Sampled history current tier sample)
    (other : Sampled history current tier' sample') : tier = tier' ∧ sample = sample' := by
  rcases chosen.walk fun t _ => t with ⟨_, rfl, _, walk⟩ | ⟨rfl, rfl, walk⟩ <;>
  rcases other.walk fun t _ => t with ⟨_, rfl, _, walk'⟩ | ⟨rfl, rfl, walk'⟩
  · have same := Option.some.inj (walk.symm.trans walk')
    exact ⟨same, by rw [same]⟩
  · cases walk.symm.trans walk'
  · cases walk.symm.trans walk'
  · exact ⟨rfl, rfl⟩

theorem not_mem_ladder : BucketTier.coldStart ∉ bucketLadder current := by simp [bucketLadder]

theorem Sampled.empty_iff (chosen : Sampled history current tier sample) :
    sample = [] ↔ tier = .coldStart := by
  rcases chosen.walk fun t _ => t with ⟨enough, rfl, listed, _⟩ | ⟨rfl, rfl, _⟩
  · have narrow : tier ≠ .coldStart := by
      rintro rfl
      exact not_mem_ladder listed
    exact ⟨fun empty => absurd empty (ne_nil_of_enough enough), fun cold => absurd cold narrow⟩
  · by_cases empty : history = []
    · simp [empty]
    · simp [empty]

/-- The estimate of a sample that is not empty is computed from it. -/
theorem estimateBucketed_sampled (chosen : Sampled history current tier sample)
    (nonempty : sample ≠ []) :
    estimateBucketed history current currentRegime =
      compute sample nonempty tier current.featureSchemaVersion currentRegime := by
  unfold estimateBucketed
  dsimp only
  rcases chosen.walk fun t enough => compute (bucketed history current t)
    (ne_nil_of_enough enough) t current.featureSchemaVersion currentRegime with
    ⟨enough, rfl, _, walk⟩ | ⟨rfl, rfl, walk⟩
  · rw [walk]
  · have some_ : history ≠ [] := fun empty => nonempty (by rw [empty, List.map_nil])
    rw [walk, if_neg some_]
    exact dif_pos nonempty

/-- Without receipts the estimate is the cold start of the current features and regime. -/
theorem estimateBucketed_nothing (chosen : Sampled history current tier [])  :
    estimateBucketed history current currentRegime =
      { Estimate.cold with
        featureSchemaVersion := current.featureSchemaVersion
        regime :=
          { provenance := currentRegime
            inRegimeSampleCount := 0
            outOfRegimeSampleCount := 0 } } := by
  have empty : history = [] := by
    rcases chosen.walk fun t _ => t with ⟨enough, same, _⟩ | ⟨same, _⟩
    · exact absurd same.symm (ne_nil_of_enough enough)
    · exact List.map_eq_nil_iff.mp same.symm
  subst empty
  rfl

/-- The remaining work is conditioned on the sample its base estimate stands on. -/
theorem remainingBucketed_sampled (chosen : Sampled history current tier sample)
    (progress : ProgressEvidence) :
    remainingBucketed history current currentRegime progress =
      RemainingWorkEstimate.assemble (estimateBucketed history current currentRegime)
        (remainingDuration sample progress.elapsedSecs)
        (remainingResource sample progress.spendSoFar)
        (remainingFeasibility sample progress.elapsedSecs) progress := by
  have found : (((bucketLadder current).findSome? fun t =>
      if minClassSamples ≤ (bucketed history current t).length then
        some (bucketed history current t)
      else none).getD (history.map (·.2))) = sample := by
    rcases chosen.walk fun t _ => bucketed history current t with ⟨_, rfl, _, walk⟩ | ⟨rfl, _, walk⟩
    · exact congrArg (Option.getD · (history.map (·.2))) walk
    · exact congrArg (Option.getD · (history.map (·.2))) walk
  unfold remainingBucketed
  dsimp only
  rw [found]

/-- The typical tool call count is the median of the sample of a bucket, and there is none for a
sample that is no bucket. -/
theorem typicalToolCallCountBucketed_sampled (chosen : Sampled history current tier sample) :
    (tier ∈ bucketLadder current ∧
        ∃ median, typicalToolCallCountBucketed history current = some median ∧
          IsNearestRank (sample.map (·.toolCallCount)) (1 / 2) median) ∨
      tier ∉ bucketLadder current ∧ typicalToolCallCountBucketed history current = none := by
  have length : ∀ t, ((bucketed history current t).map (·.toolCallCount)).length =
      (bucketed history current t).length := fun t => List.length_map _
  have enoughCounts : ∀ t, minClassSamples ≤ (bucketed history current t).length →
      sorted ((bucketed history current t).map (·.toolCallCount)) ≠ [] := by
    intro t enough
    exact sorted_ne_nil_of_enough (by rw [length]; exact enough)
  have same : typicalToolCallCountBucketed history current =
      (bucketLadder current).findSome? fun t =>
        if enough : minClassSamples ≤ (bucketed history current t).length then
          some (quantileU64 _ (enoughCounts t enough) (1 / 2))
        else none := by
    unfold typicalToolCallCountBucketed
    dsimp only
    simp only [length]
  rw [same]
  rcases chosen.walk fun t enough => quantileU64 _ (enoughCounts t enough) (1 / 2) with
    ⟨enough, rfl, listed, walk⟩ | ⟨rfl, rfl, walk⟩
  · refine .inl ⟨listed, _, walk, ?_⟩
    exact (atRank_isNearestRank (sorted_pairwise _) _ (by norm_num)).perm (sorted_perm _)
  · refine .inr ⟨?_, walk⟩
    split <;> simp [bucketLadder]

end Walks

/-! ## The figures -/

/-- The kinds of the amounts of a sample, in the order they are read. -/
def kinds (sample : List ExecutionReceipt) : List ResourceKind :=
  (sample.flatMap (·.actualUsage)).map (·.kind)

section Figures

variable {sample sample' : List ExecutionReceipt}

theorem rebuildAmount_kind (kind : ResourceKind) (v : ℚ) : (rebuildAmount kind v).kind = kind := by
  cases kind <;> rfl

theorem roundAway_intCast (n : Int) : roundAway n = n := by
  have half : ∀ m : Int, ⌊(m : ℚ) + 1 / 2⌋ = m := by
    intro m
    rw [Int.floor_eq_iff]
    constructor <;> norm_num
  unfold roundAway
  split
  · exact half n
  · have negated := half (-n)
    rw [Int.cast_neg] at negated
    rw [negated, neg_neg]

/-- An amount is rebuilt from its value. -/
theorem rebuildAmount_numericValue (amount : ResourceAmount) :
    rebuildAmount amount.kind (numericValue amount) = amount := by
  cases amount with
  | usdCents cents => exact congrArg ResourceAmount.usdCents (roundAway_intCast cents)
  | tokens count =>
      have whole := roundAway_intCast (count : Int)
      rw [Int.cast_natCast] at whole
      exact congrArg ResourceAmount.tokens (by rw [numericValue, whole, Int.toNat_natCast])
  | quotaPercent percent => rfl

/-- A value of one kind rebuilds to an amount that has it. -/
theorem rebuilt_mem {kind : ResourceKind} {amounts : List ResourceAmount} {v : ℚ}
    (mem : v ∈ valuesOf kind amounts) :
    rebuildAmount kind v ∈ amounts ∧ numericValue (rebuildAmount kind v) = v := by
  obtain ⟨amount, kept, rfl⟩ := List.mem_map.mp mem
  obtain ⟨listed, kindOf⟩ := List.mem_filter.mp kept
  cases of_decide_eq_true kindOf
  rw [rebuildAmount_numericValue]
  exact ⟨listed, rfl⟩

theorem resourceQuantiles_none (none : mostCommonKind (sample.flatMap (·.actualUsage)) = none) :
    resourceQuantiles sample = (Option.none, Option.none, Option.none) := by
  unfold resourceQuantiles
  dsimp only
  split
  · rfl
  · rename_i found
    rw [none] at found
    cases found

theorem resourceQuantiles_some {kind : ResourceKind}
    (found : mostCommonKind (sample.flatMap (·.actualUsage)) = some kind) :
    resourceQuantiles sample =
      (some (rebuildAmount kind (quantileF64 _ (sorted_ne_nil (valuesOf_ne_nil found)) (1 / 2))),
        some (rebuildAmount kind (quantileF64 _ (sorted_ne_nil (valuesOf_ne_nil found)) (4 / 5))),
        some (rebuildAmount kind
          (quantileF64 _ (sorted_ne_nil (valuesOf_ne_nil found)) (9 / 10)))) := by
  unfold resourceQuantiles
  dsimp only
  split
  · rename_i none
    rw [none] at found
    cases found
  · rename_i kind' found'
    rw [found] at found'
    cases found'
    rfl

/-- The three quantiles of a list, sorted and read at their ranks. -/
theorem quantiles_of {α : Type} [LinearOrder α] (values : List α) (nonempty : sorted values ≠ []) :
    Quantiles values (atRank (sorted values) nonempty (1 / 2))
      (atRank (sorted values) nonempty (4 / 5)) (atRank (sorted values) nonempty (9 / 10)) :=
  quantiles_sorted (sorted_perm values) (sorted_pairwise values) nonempty

theorem atRank_congr {α : Type} [LinearOrder α] {xs ys : List α} (same : xs = ys)
    (some_ : xs ≠ []) (p : ℚ) : atRank xs some_ p = atRank ys (same ▸ some_) p := by
  subst same
  rfl

/-! ### Order -/

theorem flatMap_perm (same : sample.Perm sample') :
    (sample.flatMap (·.actualUsage)).Perm (sample'.flatMap (·.actualUsage)) :=
  same.flatMap_right _

theorem valuesOf_perm (same : sample.Perm sample') (kind : ResourceKind) :
    (valuesOf kind (sample.flatMap (·.actualUsage))).Perm
      (valuesOf kind (sample'.flatMap (·.actualUsage))) :=
  ((flatMap_perm same).filter _).map _

/-- The kind an estimate is over is the one thing about a sample that its order decides. -/
theorem resourceQuantiles_perm (same : sample.Perm sample')
    (kind : mostCommonKind (sample.flatMap (·.actualUsage)) =
      mostCommonKind (sample'.flatMap (·.actualUsage))) :
    resourceQuantiles sample = resourceQuantiles sample' := by
  cases found : mostCommonKind (sample.flatMap (·.actualUsage)) with
  | none => rw [resourceQuantiles_none found, resourceQuantiles_none (kind.symm.trans found)]
  | some k =>
      rw [resourceQuantiles_some found, resourceQuantiles_some (kind.symm.trans found)]
      have values := sorted_eq (valuesOf_perm same k)
      simp only [quantileF64, atRank_congr values]

theorem compute_perm (same : sample.Perm sample')
    (kind : mostCommonKind (sample.flatMap (·.actualUsage)) =
      mostCommonKind (sample'.flatMap (·.actualUsage)))
    (nonempty : sample ≠ []) (nonempty' : sample' ≠ []) (tier : BucketTier) (schema : String)
    (regime : RegimeProvenance) :
    compute sample nonempty tier schema regime = compute sample' nonempty' tier schema regime := by
  have durations := sorted_eq (same.map (·.actualDurationSecs))
  simp only [compute, quantileU64, atRank_congr durations, resourceQuantiles_perm same kind,
    same.countP_eq, same.length_eq]

theorem remainingDuration_perm (same : sample.Perm sample') (elapsed : Nat) :
    remainingDuration sample elapsed = remainingDuration sample' elapsed := by
  have past : (durationsPast sample elapsed).Perm (durationsPast sample' elapsed) :=
    ((same.map _).filter _).map _
  have values := sorted_eq past
  simp only [remainingDuration, past.length_eq, quantileU64, atRank_congr values]

theorem remainingResource_perm (same : sample.Perm sample')
    (kind : mostCommonKind (sample.flatMap (·.actualUsage)) =
      mostCommonKind (sample'.flatMap (·.actualUsage))) (spend : SpendSoFar) :
    remainingResource sample spend = remainingResource sample' spend := by
  cases found : mostCommonKind (sample.flatMap (·.actualUsage)) with
  | none =>
      rw [remainingResource, remainingResource, found, kind.symm.trans found]
  | some k =>
      have past : (valuesPast k (sample.flatMap (·.actualUsage)) (spend.spentOf k)).Perm
          (valuesPast k (sample'.flatMap (·.actualUsage)) (spend.spentOf k)) :=
        ((valuesOf_perm same k).filter _).map _
      have values := sorted_eq past
      simp only [remainingResource, found, kind.symm.trans found, past.length_eq, quantileF64,
        atRank_congr values]

theorem remainingFeasibility_perm (same : sample.Perm sample') (elapsed : Nat) :
    remainingFeasibility sample elapsed = remainingFeasibility sample' elapsed := by
  simp only [remainingFeasibility, same.countP_eq, same.length_eq]

end Figures

theorem bucketed_perm {history history' : History} (same : history.Perm history')
    (current : TaskFeatures) (tier : BucketTier) :
    (bucketed history current tier).Perm (bucketed history' current tier) :=
  (same.filter _).map _

/-- A permuted history has the same sample, permuted, at the same tier. -/
theorem Sampled.perm {history history' : History} {current : TaskFeatures} {tier tier' : BucketTier}
    {sample sample' : List ExecutionReceipt} (same : history.Perm history')
    (chosen : Sampled history current tier sample)
    (chosen' : Sampled history' current tier' sample') : tier = tier' ∧ sample.Perm sample' := by
  have length : ∀ t, (bucketed history current t).length = (bucketed history' current t).length :=
    fun t => (bucketed_perm same current t).length_eq
  cases chosen with
  | bucket ladder fewer enough =>
      rw [length] at enough
      have other := Sampled.bucket ladder (fun t mem => length t ▸ fewer t mem) enough
      obtain ⟨rfl, rfl⟩ := chosen'.unique other
      exact ⟨rfl, bucketed_perm same current tier'⟩
  | everything fewer nonempty =>
      obtain ⟨rfl, rfl⟩ := chosen'.unique
        (.everything (fun t mem => length t ▸ fewer t mem) fun empty => nonempty (empty ▸ same).eq_nil)
      exact ⟨rfl, same.map _⟩
  | nothing empty =>
      subst empty
      obtain ⟨rfl, rfl⟩ := chosen'.unique (.nothing same.symm.eq_nil)
      exact ⟨rfl, List.Perm.nil⟩

/-! ## What an estimate means -/

/-- The resource figures of a sample: its quantiles over the kind with the most entries, of equally
frequent kinds the one seen first. -/
def ResourceFigures (sample : List ExecutionReceipt) (p50 p80 p90 : Option ResourceAmount) : Prop :=
  let amounts := sample.flatMap (·.actualUsage)
  (amounts = [] ∧ p50 = none ∧ p80 = none ∧ p90 = none) ∨
    ∃ kind a b c, IsFirstMost (kinds sample) kind ∧ p50 = some a ∧ p80 = some b ∧ p90 = some c ∧
      (∀ x ∈ [a, b, c], x ∈ amounts ∧ x.kind = kind) ∧
      Quantiles (valuesOf kind amounts) (numericValue a) (numericValue b) (numericValue c)

/-- An estimate computed from a sample: from every receipt of it, and from nothing else. -/
structure EstimateOf (sample : List ExecutionReceipt) (tier : BucketTier) (estimate : Estimate) :
    Prop where
  sampleCount : estimate.sampleCount = sample.length
  bucketTier : estimate.bucketTier = tier
  coldStart : estimate.coldStart = true ↔ sample = []
  durations : sample = [] ∧ estimate.durationP50Secs = none ∧ estimate.durationP80Secs = none ∧
      estimate.durationP90Secs = none ∨
    ∃ a b c, estimate.durationP50Secs = some a ∧ estimate.durationP80Secs = some b ∧
      estimate.durationP90Secs = some c ∧ Quantiles (sample.map (·.actualDurationSecs)) a b c
  resources : ResourceFigures sample estimate.resourceP50 estimate.resourceP80 estimate.resourceP90

/-- The remaining work, conditioned on the same sample. -/
structure RemainingOf (sample : List ExecutionReceipt) (base : Estimate)
    (progress : ProgressEvidence) (remaining : RemainingWorkEstimate) : Prop where
  sampleCount : base.sampleCount = sample.length
  carried : remaining.bucketTier = base.bucketTier ∧ remaining.confidence = base.confidence ∧
    remaining.regime = base.regime ∧ remaining.evidence = progress
  duration :
    let past := durationsPast sample progress.elapsedSecs
    past.length < minConditionalSamples ∧ remaining.duration =
        .insufficient past.length minConditionalSamples progress.elapsedSecs ∨
      ∃ a b c, remaining.duration = .quantiles a b c past.length ∧ Quantiles past a b c
  resource :
    let amounts := sample.flatMap (·.actualUsage)
    (amounts = [] ∧ ∃ reason, remaining.resource = .unavailable reason) ∨
      ∃ kind, IsFirstMost (kinds sample) kind ∧
        let past := valuesPast kind amounts (progress.spendSoFar.spentOf kind)
        (past.length < minConditionalSamples ∧
            remaining.resource = .insufficient past.length minConditionalSamples ∨
          ∃ a b c, remaining.resource = .quantiles kind (rebuildAmount kind a)
              (rebuildAmount kind b) (rebuildAmount kind c) past.length .estimated ∧
            Quantiles past a b c)
  feasibility : remaining.feasibility = remainingFeasibility sample progress.elapsedSecs

/-- Estimates are nearest-rank quantiles of one well-defined sample, whatever the order of the
history, as long as the same kind is seen first. -/
structure Sound (history : History) (current : TaskFeatures) (currentRegime : RegimeProvenance)
    (progress : ProgressEvidence) : Prop where
  estimate : ∀ tier sample, Sampled history current tier sample →
    EstimateOf sample tier (estimateBucketed history current currentRegime)
  remaining : ∀ tier sample, Sampled history current tier sample →
    RemainingOf sample (estimateBucketed history current currentRegime) progress
      (remainingBucketed history current currentRegime progress)
  permuted : ∀ history' tier tier' sample sample', history.Perm history' →
    Sampled history current tier sample → Sampled history' current tier' sample' →
    (∀ kind, IsFirstMost (kinds sample) kind ↔ IsFirstMost (kinds sample') kind) →
    estimateBucketed history' current currentRegime =
        estimateBucketed history current currentRegime ∧
      remainingBucketed history' current currentRegime progress =
        remainingBucketed history current currentRegime progress

section Meaning

variable {sample sample' : List ExecutionReceipt} {tier : BucketTier}

theorem resourceFigures (untied : ¬ Tied (kinds sample)) :
    ResourceFigures sample (resourceQuantiles sample).1 (resourceQuantiles sample).2.1
      (resourceQuantiles sample).2.2 := by
  cases found : mostCommonKind (sample.flatMap (·.actualUsage)) with
  | none =>
      rw [resourceQuantiles_none found]
      exact .inl ⟨mostCommonKind_eq_none found, rfl, rfl, rfl⟩
  | some kind =>
      rw [resourceQuantiles_some found]
      have quantiles := quantiles_of _ (sorted_ne_nil (valuesOf_ne_nil found))
      have low := rebuilt_mem quantiles.p50.mem
      have middle := rebuilt_mem quantiles.p80.mem
      have high := rebuilt_mem quantiles.p90.mem
      refine .inr ⟨kind, _, _, _, (mostSeen_first_iff found).mpr untied, rfl, rfl, rfl, ?_, ?_⟩
      · intro x mem
        simp only [List.mem_cons, List.not_mem_nil, or_false] at mem
        rcases mem with rfl | rfl | rfl
        · exact ⟨low.1, rebuildAmount_kind kind _⟩
        · exact ⟨middle.1, rebuildAmount_kind kind _⟩
        · exact ⟨high.1, rebuildAmount_kind kind _⟩
      · simp only [quantileF64]
        rw [low.2, middle.2, high.2]
        exact quantiles

/-- Resource figures over the kind seen first are figures of a sample without a tie. -/
theorem ResourceFigures.untied
    (figures : ResourceFigures sample (resourceQuantiles sample).1 (resourceQuantiles sample).2.1
      (resourceQuantiles sample).2.2) : ¬ Tied (kinds sample) := by
  rcases figures with ⟨empty, _⟩ | ⟨kind, a, b, c, first, low, _, _, member, _⟩
  · rintro ⟨i, mem, _⟩
    rw [kinds, empty] at mem
    cases mem
  · cases found : mostCommonKind (sample.flatMap (·.actualUsage)) with
    | none =>
        rw [resourceQuantiles_none found] at low
        cases low
    | some k =>
        rw [resourceQuantiles_some found] at low
        have same := (member a List.mem_cons_self).2
        rw [← Option.some.inj low, rebuildAmount_kind] at same
        subst same
        exact (mostSeen_first_iff found).mp first

theorem estimateOf_compute (untied : ¬ Tied (kinds sample)) (nonempty : sample ≠ [])
    (tier : BucketTier) (schema : String) (regime : RegimeProvenance) :
    EstimateOf sample tier (compute sample nonempty tier schema regime) where
  sampleCount := rfl
  bucketTier := rfl
  coldStart := ⟨fun cold => (Bool.false_ne_true cold).elim, fun empty => absurd empty nonempty⟩
  durations := .inr ⟨_, _, _, rfl, rfl, rfl, quantiles_of _ (durations_ne_nil nonempty)⟩
  resources := resourceFigures untied

theorem remainingDuration_cases (sample : List ExecutionReceipt) (elapsed : Nat) :
    (durationsPast sample elapsed).length < minConditionalSamples ∧
        remainingDuration sample elapsed = .insufficient (durationsPast sample elapsed).length
          minConditionalSamples elapsed ∨
      ∃ a b c, remainingDuration sample elapsed =
          .quantiles a b c (durationsPast sample elapsed).length ∧
        Quantiles (durationsPast sample elapsed) a b c := by
  by_cases enough : minConditionalSamples ≤ (durationsPast sample elapsed).length
  · exact .inr ⟨_, _, _, dif_pos enough, quantiles_of _ (sorted_ne_nil_of_enough enough)⟩
  · exact .inl ⟨not_le.mp enough, dif_neg enough⟩

theorem remainingResource_cases {kind : ResourceKind} {spend : SpendSoFar}
    (found : mostCommonKind (sample.flatMap (·.actualUsage)) = some kind) {past : List ℚ}
    (conditioned : past = valuesPast kind (sample.flatMap (·.actualUsage)) (spend.spentOf kind)) :
    past.length < minConditionalSamples ∧ remainingResource sample spend =
        .insufficient past.length minConditionalSamples ∨
      ∃ a b c, remainingResource sample spend = .quantiles kind (rebuildAmount kind a)
          (rebuildAmount kind b) (rebuildAmount kind c) past.length .estimated ∧
        Quantiles past a b c := by
  subst conditioned
  unfold remainingResource
  dsimp only
  rw [found]
  dsimp only
  split
  · rename_i enough
    exact .inr ⟨_, _, _, rfl, quantiles_of _ (sorted_ne_nil_of_enough enough)⟩
  · rename_i few
    exact .inl ⟨not_le.mp few, rfl⟩

theorem remainingOf_assemble (untied : ¬ Tied (kinds sample)) {base : Estimate}
    (count : base.sampleCount = sample.length) (progress : ProgressEvidence) :
    RemainingOf sample base progress
      (RemainingWorkEstimate.assemble base (remainingDuration sample progress.elapsedSecs)
        (remainingResource sample progress.spendSoFar)
        (remainingFeasibility sample progress.elapsedSecs) progress) where
  sampleCount := count
  carried := ⟨rfl, rfl, rfl, rfl⟩
  duration := remainingDuration_cases sample progress.elapsedSecs
  resource := by
    cases found : mostCommonKind (sample.flatMap (·.actualUsage)) with
    | none =>
        refine .inl ⟨mostCommonKind_eq_none found, ?_⟩
        refine ⟨"no receipt carries resource usage at the current enforcement tier", ?_⟩
        show remainingResource sample progress.spendSoFar = _
        rw [remainingResource, found]
    | some kind =>
        exact .inr ⟨kind, (mostSeen_first_iff found).mpr untied, remainingResource_cases found rfl⟩
  feasibility := rfl

theorem kinds_perm (same : sample.Perm sample') : (kinds sample).Perm (kinds sample') :=
  (flatMap_perm same).map _

/-- Two orders of one sample that see the same kind first are over the same kind. -/
theorem mostCommonKind_eq (same : sample.Perm sample') (untied : ¬ Tied (kinds sample))
    (first : ∀ kind, IsFirstMost (kinds sample) kind ↔ IsFirstMost (kinds sample') kind) :
    mostCommonKind (sample.flatMap (·.actualUsage)) =
      mostCommonKind (sample'.flatMap (·.actualUsage)) := by
  have untied' : ¬ Tied (kinds sample') := by
    rintro ⟨i, memI, j, memJ, differ, tie, most⟩
    have order := kinds_perm same
    refine untied ⟨i, order.mem_iff.mpr memI, j, order.mem_iff.mpr memJ, differ, ?_, ?_⟩
    · rw [order.count_eq, order.count_eq, tie]
    · intro k mem
      rw [order.count_eq, order.count_eq]
      exact most k (order.mem_iff.mp mem)
  cases found : mostCommonKind (sample.flatMap (·.actualUsage)) with
  | none =>
      have empty : sample'.flatMap (·.actualUsage) = [] :=
        (mostCommonKind_eq_none found ▸ flatMap_perm same).symm.eq_nil
      rw [empty]
      rfl
  | some kind =>
      have here := (first kind).mp ((mostSeen_first_iff found).mpr untied)
      cases found' : mostCommonKind (sample'.flatMap (·.actualUsage)) with
      | none =>
          have mem := here.1
          rw [kinds, mostCommonKind_eq_none found'] at mem
          cases mem
      | some kind' =>
          exact congrArg some (here.unique ((mostSeen_first_iff found').mpr untied'))

end Meaning

/-- Estimates mean what they say exactly where no two kinds tie for most entries of the sample. -/
theorem estimateBucketed_sound_iff (history : History) (current : TaskFeatures)
    (currentRegime : RegimeProvenance) (progress : ProgressEvidence) :
    Sound history current currentRegime progress ↔
      ∀ tier sample, Sampled history current tier sample → ¬ Tied (kinds sample) := by
  constructor
  · intro sound tier sample chosen
    by_cases nonempty : sample = []
    · subst nonempty
      rintro ⟨i, mem, _⟩
      cases mem
    · have figures := (sound.estimate tier sample chosen).resources
      rw [estimateBucketed_sampled chosen nonempty] at figures
      exact ResourceFigures.untied figures
  · intro untied
    have estimate : ∀ tier sample, Sampled history current tier sample →
        EstimateOf sample tier (estimateBucketed history current currentRegime) := by
      intro tier sample chosen
      by_cases nonempty : sample = []
      · subst nonempty
        rw [estimateBucketed_nothing chosen]
        exact ⟨rfl, (chosen.empty_iff.mp rfl).symm, ⟨fun _ => rfl, fun _ => rfl⟩,
          .inl ⟨rfl, rfl, rfl, rfl⟩, .inl ⟨rfl, rfl, rfl, rfl⟩⟩
      · rw [estimateBucketed_sampled chosen nonempty]
        exact estimateOf_compute (untied tier sample chosen) nonempty tier _ _
    refine ⟨estimate, ?_, ?_⟩
    · intro tier sample chosen
      rw [remainingBucketed_sampled chosen]
      exact remainingOf_assemble (untied tier sample chosen) (estimate tier sample chosen).sampleCount
        progress
    · intro history' tier tier' sample sample' order chosen chosen' first
      obtain ⟨rfl, same⟩ := chosen.perm order chosen'
      have kind := mostCommonKind_eq same (untied tier sample chosen) first
      have estimates : estimateBucketed history' current currentRegime =
          estimateBucketed history current currentRegime := by
        by_cases nonempty : sample = []
        · subst nonempty
          cases same.symm.eq_nil
          rw [estimateBucketed_nothing chosen, estimateBucketed_nothing chosen']
        · have nonempty' : sample' ≠ [] := fun empty => nonempty (empty ▸ same).eq_nil
          rw [estimateBucketed_sampled chosen nonempty, estimateBucketed_sampled chosen' nonempty',
            compute_perm same kind nonempty nonempty']
      refine ⟨estimates, ?_⟩
      rw [remainingBucketed_sampled chosen, remainingBucketed_sampled chosen', estimates,
        remainingDuration_perm same, remainingResource_perm same kind,
        remainingFeasibility_perm same]

/-- A receipt with one amount in cents and, after it, one in tokens. -/
def twoKinds : ExecutionReceipt where
  actualDurationSecs := 60
  actualUsage := [.usdCents 100, .tokens 5000]
  toolCallCount := 3
  regime := none

def twoKindsFeatures : TaskFeatures where
  repoKey := "abc123"
  topology := .cargo
  model := none
  featureSchemaVersion := "fs-v1"

def twoKindsProgress : ProgressEvidence where
  elapsedSecs := 0
  spendSoFar := .noBasis .noAccount
  toolCallsTotal := 0
  toolCallsSinceLastReplan := 0
  sameToolStreak := 0
  planRevision := 1
  autoReplanCount := 0
  activeLeaseCount := 0
  childAccountCount := 0
  gatewayRequestCount := 0
  observedAt := 0

/-- Cents are seen first, the estimate is over tokens. -/
theorem twoKinds_last_wins :
    IsFirstMost (kinds [twoKinds]) .usd ∧
      mostCommonKind ([twoKinds].flatMap (·.actualUsage)) = some .tokens ∧
      ¬ Sound [(some twoKindsFeatures, twoKinds)] twoKindsFeatures RegimeProvenance.preRegimeRecord
        twoKindsProgress := by
  have last : mostCommonKind ([twoKinds].flatMap (·.actualUsage)) = some .tokens := rfl
  have first : IsFirstMost (kinds [twoKinds]) .usd := by
    refine ⟨by decide, ?_⟩
    intro j mem differ
    cases j with
    | usd => exact absurd rfl differ
    | tokens => exact .inr (by decide)
    | quotaPercent => exact absurd mem (by decide)
  refine ⟨first, last, ?_⟩
  intro sound
  have chosen : Sampled [(some twoKindsFeatures, twoKinds)] twoKindsFeatures .global [twoKinds] :=
    .everything (by decide) (List.cons_ne_nil _ _)
  have figures := (sound.estimate _ _ chosen).resources
  rw [estimateBucketed_sampled chosen (List.cons_ne_nil _ _)] at figures
  have untied := ResourceFigures.untied figures
  exact untied ⟨.usd, by decide, .tokens, by decide, by decide, by decide, by decide⟩

end Estimator

end LibraGovernor
