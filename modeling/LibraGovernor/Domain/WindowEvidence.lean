/-
# LibraGovernor.Domain.WindowEvidence -- what the evidence comes to

A window counts the deduplicated records of its unit that fall in its range, in the order they
are replayed (`counted`), and the deduplicated holds of its unit.  Both are characterised by
which records there are, not by how they were sorted: one more record of a new id is one more
record counted, or none (`counted_add`).
-/
import LibraGovernor.Domain.QuotaWindow
import Mathlib.Algebra.GroupWithZero.Nat

namespace LibraGovernor

open Scan StableSort

set_option autoImplicit false

/-! ## Counted usage -/

section Counted

variable (unit : QuotaUnit) (inRange : OffsetDateTime → Bool)

/-- The record is of the unit and in the range. -/
def passes (u : QuotaUsage) : Bool := decide (u.amount.unit = unit) && inRange u.occurredAt

/-- The records of a unit that fall in a range, deduplicated, in the order they are replayed. -/
def counted (usage : List QuotaUsage) : List QuotaUsage :=
  ((dedupUsageById usage).filter (passes unit inRange)).insertionSort (ByKey QuotaUsage.replayKey)

theorem mem_counted {usage : List QuotaUsage} {u : QuotaUsage} :
    u ∈ counted unit inRange usage ↔
      u ∈ dedupUsageById usage ∧ passes unit inRange u = true := by
  rw [counted, List.mem_insertionSort, List.mem_filter]

theorem mem_dedupUsageById {usage : List QuotaUsage} {u : QuotaUsage} :
    u ∈ dedupUsageById usage ↔
      ((usage.filter fun v => v.id = u.id).insertionSort (ByKey QuotaUsage.dedupKey)).head? =
        some u :=
  mem_keepFirst_sorted QuotaUsage.id (ByKey QuotaUsage.dedupKey) usage u

theorem dedupUsageById_nodup (usage : List QuotaUsage) : (dedupUsageById usage).Nodup :=
  keepFirst_nodup QuotaUsage.id _

theorem dedupUsageById_sub {usage : List QuotaUsage} {u : QuotaUsage}
    (mem : u ∈ dedupUsageById usage) : u ∈ usage := by
  have here := (head_insertionSort _ (mem_dedupUsageById.mp mem)).1
  exact (List.mem_filter.mp here).1

/-- Two records replayed at one instant have different ids. -/
theorem replayKey_apart {usage : List QuotaUsage} {u v : QuotaUsage} (mem : u ∈ dedupUsageById usage)
    (mem' : v ∈ dedupUsageById usage) (le : ByKey QuotaUsage.replayKey u v)
    (ge : ByKey QuotaUsage.replayKey v u) : u = v := by
  have same : u.replayKey = v.replayKey := le_antisymm le ge
  have ids : u.id.uuid.toNat = v.id.uuid.toNat :=
    congrArg (fun key : Int ×ₗ Nat => (ofLex key).2) same
  refine keepFirst_inj QuotaUsage.id mem mem' ?_
  have uuids : u.id.uuid = v.id.uuid := BitVec.eq_of_toNat_eq ids
  cases here : u.id with
  | mk uuid =>
      cases there : v.id with
      | mk uuid' =>
          rw [here, there] at uuids
          exact congrArg EconomicEventId.mk uuids

/-- What is counted depends only on what the deduplication leaves of it. -/
theorem counted_congr {usage usage' : List QuotaUsage}
    (same : ∀ u, passes unit inRange u = true →
      (u ∈ dedupUsageById usage ↔ u ∈ dedupUsageById usage')) :
    counted unit inRange usage = counted unit inRange usage' := by
  refine insertionSort_congr _ ?_ ?_
  · rw [List.perm_ext_iff_of_nodup ((dedupUsageById_nodup usage).filter _)
      ((dedupUsageById_nodup usage').filter _)]
    intro u
    rw [List.mem_filter, List.mem_filter]
    constructor
    · rintro ⟨mem, pass⟩
      exact ⟨(same u pass).mp mem, pass⟩
    · rintro ⟨mem, pass⟩
      exact ⟨(same u pass).mpr mem, pass⟩
  · intro u mem v mem' le ge
    exact replayKey_apart (List.mem_filter.mp mem).1 (List.mem_filter.mp mem').1 le ge

/-- The records replayed are in the order of their instants. -/
theorem counted_sorted (usage : List QuotaUsage) :
    (counted unit inRange usage).Pairwise fun u v => u.occurredAt ≤ v.occurredAt := by
  refine (List.pairwise_insertionSort (ByKey QuotaUsage.replayKey) _).imp ?_
  intro u v le
  rcases Prod.Lex.le_iff.mp le with earlier | ⟨same, -⟩
  · exact le_of_lt earlier
  · exact le_of_eq same

/-- One more record of a new id is one more record counted, or none. -/
theorem counted_add {before after : List QuotaUsage} {u : QuotaUsage}
    (fresh : ∀ v ∈ before ++ after, v.id ≠ u.id) :
    (passes unit inRange u = false ∧
      counted unit inRange (before ++ u :: after) = counted unit inRange (before ++ after)) ∨
    (passes unit inRange u = true ∧ ∃ front back,
      counted unit inRange (before ++ u :: after) = front ++ u :: back ∧
        counted unit inRange (before ++ after) = front ++ back) := by
  have kept := (keepFirst_sorted_insert QuotaUsage.id (ByKey QuotaUsage.dedupKey) fresh).filter
    (passes unit inRange)
  have apart : ∀ x ∈ (dedupUsageById (before ++ u :: after)).filter (passes unit inRange),
      ∀ y ∈ (dedupUsageById (before ++ u :: after)).filter (passes unit inRange),
      ByKey QuotaUsage.replayKey x y → ByKey QuotaUsage.replayKey y x → x = y := by
    intro x mem y mem' le ge
    exact replayKey_apart (List.mem_filter.mp mem).1 (List.mem_filter.mp mem').1 le ge
  have sorted := insertionSort_congr (ByKey QuotaUsage.replayKey) kept apart
  cases pass : passes unit inRange u with
  | false =>
      rw [List.filter_cons_of_neg (by simp [pass])] at sorted
      exact .inl ⟨rfl, sorted⟩
  | true =>
      rw [List.filter_cons_of_pos pass] at sorted
      obtain ⟨front, back, whole, rest⟩ := insertionSort_insert (ByKey QuotaUsage.replayKey) u
        ((dedupUsageById (before ++ after)).filter (passes unit inRange))
      exact .inr ⟨rfl, front, back, sorted.trans whole, rest⟩

end Counted

/-- A range of a window's records: those of its prepared usage that fall in it. -/
theorem prepare_usage_filter (evidence : QuotaEvidence) (window : QuotaWindow) (now : OffsetDateTime)
    (inRange : OffsetDateTime → Bool) :
    ((prepare evidence window now).usage.filter fun u => inRange u.occurredAt) =
      counted window.unit (fun t => decide (t ≤ now) && inRange t) evidence.usage := by
  rw [prepare, filter_insertionSort, List.filter_filter, counted]
  congr 2
  funext u
  simp only [passes, Bool.decide_and]
  cases inRange u.occurredAt <;> simp

/-! ## Outstanding holds -/

/-- What a hold counts for in a unit. -/
def OutstandingHold.counts (unit : QuotaUnit) (h : OutstandingHold) : Nat :=
  if h.amount.unit = unit then h.amount.value else 0

/-- What the holds kept of a list come to. -/
def heldTotal (unit : QuotaUnit) (holds : List OutstandingHold) : Nat :=
  ((dedupHoldsById holds).map (OutstandingHold.counts unit)).sum

theorem sum_filter_counts (unit : QuotaUnit) (holds : List OutstandingHold) :
    ((holds.filter fun h => decide (h.amount.unit = unit)).map fun h => h.amount.value).sum =
      (holds.map (OutstandingHold.counts unit)).sum := by
  induction holds with
  | nil => rfl
  | cons h holds ih =>
      by_cases same : h.amount.unit = unit
      · simp [OutstandingHold.counts, same, ih]
      · simp [OutstandingHold.counts, same, ih]

theorem prepare_outstanding (evidence : QuotaEvidence) (window : QuotaWindow) (now : OffsetDateTime) :
    (prepare evidence window now).outstanding = min (heldTotal window.unit evidence.holds) u64Max := by
  rw [heldTotal, ← sum_filter_counts]
  exact Saturating.satSum_eq _ _

theorem heldTotal_add (unit : QuotaUnit) {before after : List OutstandingHold} {h : OutstandingHold}
    (fresh : ∀ g ∈ before ++ after, g.id ≠ h.id) :
    heldTotal unit (before ++ h :: after) = h.counts unit + heldTotal unit (before ++ after) := by
  exact ((keepFirst_insert OutstandingHold.id fresh).map (OutstandingHold.counts unit)).sum_eq

/-! ## The result of what is counted -/

namespace WindowKind

/-- Where a record falls that the window counts. -/
def inRange (kind : WindowKind) (now t : OffsetDateTime) : Bool :=
  decide (t ≤ now) &&
    match kind with
    | .fixedAligned period timeZone _ =>
        decide ((fixedAlignedBounds now period timeZone).1 ≤ t ∧
          t < (fixedAlignedBounds now period timeZone).2)
    | .sliding lengthSecs _ => decide (now - slidingLength lengthSecs < t ∧ t ≤ now)
    | .refillBucket _ _ _ anchoredAt _ => decide (anchoredAt ≤ t ∧ t ≤ now)
    | .opaqueProviderSnapshot _ => false

/-- The state and status of a period. -/
def periodResult (bounds : OffsetDateTime × OffsetDateTime) (limit : Nat) (usage : List QuotaUsage)
    (outstanding : Nat) (relief : Int → Relief) : WindowState × BlockingStatus :=
  let remaining := remainingI64 limit (settledOf usage) outstanding
  (.period ⟨bounds.1, bounds.2, limit, settledOf usage, outstanding, remaining, usage.length,
    relief remaining⟩, statusOf remaining)

/-- The relief of a fixed period that ends at `stop`. -/
def fixedRelief (stop : OffsetDateTime) (limit outstanding : Nat) (remaining : Int) : Relief :=
  if limit ≤ outstanding then .afterOutstandingHoldsSettle
  else if remaining ≤ 0 then .at_ stop
  else .notBlocking

/-- The relief of a rolling interval. -/
def rollingRelief (length : Int) (limit : Nat) (usage : List QuotaUsage) (outstanding : Nat)
    (remaining : Int) : Relief :=
  if limit ≤ outstanding then .afterOutstandingHoldsSettle
  else if ¬ remaining ≤ 0 then .notBlocking
  else
    match slidingRelief length limit (settledOf usage) outstanding 0 usage with
    | some instant => .at_ instant
    | none => .unknown

/-- What a bucket's level comes to once the holds are taken off. -/
def bucketRemaining (rate : BucketRate) (levelScaled : Int) (outstanding : Nat) : Int :=
  i64.clamp (i128.satSub (levelScaled / rate.periodMs) outstanding)

/-- The result of a window that counts its records, from those and the holds. -/
def result (kind : WindowKind) (now : OffsetDateTime) (usage : List QuotaUsage) (outstanding : Nat) :
    Option (WindowState × BlockingStatus) :=
  match kind with
  | .fixedAligned period timeZone limit =>
      let bounds := fixedAlignedBounds now period timeZone
      some (periodResult bounds limit usage outstanding (fixedRelief bounds.2 limit outstanding))
  | .sliding lengthSecs limit =>
      some (periodResult (now - slidingLength lengthSecs, now) limit usage outstanding
        (rollingRelief (slidingLength lengthSecs) limit usage outstanding))
  | .refillBucket capacity refillAmount refillPeriodSecs anchoredAt levelAtAnchor =>
      let rate := bucketRate capacity refillAmount refillPeriodSecs
      let levelScaled := rate.levelAt levelAtAnchor anchoredAt now usage
      let remaining := bucketRemaining rate levelScaled outstanding
      some (.bucket ⟨capacity, i64.clamp (levelScaled / rate.periodMs), outstanding, remaining,
        usage.length, rate.relief now capacity outstanding levelScaled remaining⟩,
        statusOf remaining)
  | .opaqueProviderSnapshot _ => none

end WindowKind

/-- The records a window counts at an instant. -/
def QuotaWindow.counts (window : QuotaWindow) (now : OffsetDateTime) (usage : List QuotaUsage) :
    List QuotaUsage :=
  counted window.unit (window.kind.inRange now) usage

/-- What a window's holds come to. -/
def QuotaWindow.held (window : QuotaWindow) (holds : List OutstandingHold) : Nat :=
  min (heldTotal window.unit holds) u64Max

/-- A window that is no gauge is evaluated from the records it counts and its holds. -/
theorem evaluateKind_eq {window : QuotaWindow} (evidence : QuotaEvidence) (now : OffsetDateTime)
    (countable : window.kind.isGauge = false) :
    window.kind.result now (window.counts now evidence.usage) (window.held evidence.holds) =
      some (evaluateKind window evidence now) := by
  have held : window.held evidence.holds = (prepare evidence window now).outstanding :=
    (prepare_outstanding evidence window now).symm
  have same := fun inRange => prepare_usage_filter evidence window now inRange
  rw [held, QuotaWindow.counts, evaluateKind]
  cases here : window.kind with
  | fixedAligned period timeZone limit =>
      have ranged := same fun t => decide ((fixedAlignedBounds now period timeZone).1 ≤ t ∧
        t < (fixedAlignedBounds now period timeZone).2)
      show some _ = some (evaluatePeriod window evidence now period timeZone limit)
      rw [evaluatePeriod, ranged]
      rfl
  | sliding lengthSecs limit =>
      have ranged := same fun t => decide (now - slidingLength lengthSecs < t ∧ t ≤ now)
      show some _ = some (evaluateSliding window evidence now lengthSecs limit)
      rw [evaluateSliding, ranged]
      rfl
  | refillBucket capacity refillAmount refillPeriodSecs anchoredAt levelAtAnchor =>
      have ranged := same fun t => decide (anchoredAt ≤ t ∧ t ≤ now)
      show some _ = some (evaluateBucket window evidence now capacity refillAmount refillPeriodSecs
        anchoredAt levelAtAnchor)
      rw [evaluateBucket, ranged]
      rfl
  | opaqueProviderSnapshot maxStalenessSecs =>
      rw [here] at countable
      cases countable

end LibraGovernor
