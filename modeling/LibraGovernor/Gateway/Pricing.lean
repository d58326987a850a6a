/-
# LibraGovernor.Gateway.Pricing -- the pinned price table and the two prices of a request

A request is priced twice with one table: before it is sent, at the worst case
its size allows (`worstCaseUsdReservation`), and afterwards from the usage the
provider reported (`requestCostPico`, `settleAmountFor`).  Prices are dollars per
million tokens with at most six decimals, held as their count of millionths; the
reservation's dollar expression is exact rational arithmetic and both figures are
rounded up to whole cents.

`settledCost_le_worstCase`: a usage within the bounds the reservation assumed is
never priced above it; `reservation_covers_settlement`: so a request that is priced settles
within the worst case of its model, which is reserved whenever the table lists it.
-/
import LibraGovernor.Domain.TaskBudget
import LibraGovernor.Ledger.Store
import Mathlib.Algebra.Order.Floor.Div
import Mathlib.Algebra.Order.Round
import Mathlib.Algebra.Ring.Nat
import Mathlib.Data.Rat.Floor
import Mathlib.GroupTheory.GroupAction.Ring
import Mathlib.Tactic.Linarith
import Mathlib.Tactic.NormNum
import Mathlib.Tactic.Positivity
import Mathlib.Tactic.Ring

namespace LibraGovernor

open Relational

set_option autoImplicit false

/-! ## Prices -/

/-- Dollars per million tokens, in millionths of a dollar. -/
abbrev Price := Nat

def Price.usd (p : Price) : ℚ := p / 1000000

/-- Four billing tiers of one model. -/
structure ModelPricing where
  inputUsdPerMtok : Price
  cacheCreationInputUsdPerMtok : Price
  cacheReadInputUsdPerMtok : Price
  outputUsdPerMtok : Price
  deriving DecidableEq, Repr

namespace ModelPricing

/-- Twice the input price, for a provider whose cache write is dearer than input. -/
def oneHourCacheCreationUsdPerMtok (p : ModelPricing) : Price :=
  if p.inputUsdPerMtok < p.cacheCreationInputUsdPerMtok then p.inputUsdPerMtok * 2
  else p.inputUsdPerMtok

def worstCaseInputUsdPerMtok (p : ModelPricing) : Price :=
  max (max (max p.inputUsdPerMtok p.cacheCreationInputUsdPerMtok)
    p.oneHourCacheCreationUsdPerMtok) p.cacheReadInputUsdPerMtok

end ModelPricing

structure PriceEntry where
  model : String
  pricing : ModelPricing
  deriving DecidableEq, Repr

/-- An OpenAI row: a cache write is priced as ordinary input. -/
def openai (input cachedInput output : Price) : ModelPricing := ⟨input, input, cachedInput, output⟩

/-- The pinned snapshot. -/
def pinnedEntries : List PriceEntry :=
  [⟨"claude-fable-5-1", ⟨10000000, 12500000, 250000, 50000000⟩⟩,
   ⟨"claude-fable-5", ⟨10000000, 12500000, 1000000, 50000000⟩⟩,
   ⟨"claude-opus-5-5", ⟨4000000, 5000000, 200000, 20000000⟩⟩,
   ⟨"claude-opus-5", ⟨5000000, 6250000, 500000, 25000000⟩⟩,
   ⟨"claude-opus-4-8", ⟨5000000, 6250000, 500000, 25000000⟩⟩,
   ⟨"claude-opus-4-7", ⟨5000000, 6250000, 500000, 25000000⟩⟩,
   ⟨"claude-opus-4-6", ⟨5000000, 6250000, 500000, 25000000⟩⟩,
   ⟨"claude-opus-4-5", ⟨5000000, 6250000, 500000, 25000000⟩⟩,
   ⟨"claude-sonnet-5-5", ⟨2000000, 2500000, 100000, 10000000⟩⟩,
   ⟨"claude-sonnet-5", ⟨2000000, 2500000, 200000, 10000000⟩⟩,
   ⟨"claude-sonnet-4-6", ⟨3000000, 3750000, 300000, 15000000⟩⟩,
   ⟨"claude-haiku-5-5", ⟨500000, 625000, 50000, 2500000⟩⟩,
   ⟨"claude-opus-4-1", ⟨15000000, 18750000, 1500000, 75000000⟩⟩,
   ⟨"claude-opus-4", ⟨15000000, 18750000, 1500000, 75000000⟩⟩,
   ⟨"claude-sonnet-4-5", ⟨3000000, 3750000, 300000, 15000000⟩⟩,
   ⟨"claude-sonnet-4", ⟨3000000, 3750000, 300000, 15000000⟩⟩,
   ⟨"claude-haiku-4-5", ⟨1000000, 1250000, 100000, 5000000⟩⟩,
   ⟨"claude-3-5-haiku", ⟨800000, 1000000, 80000, 4000000⟩⟩,
   ⟨"gpt-6.1-sol", openai 2000000 100000 10000000⟩,
   ⟨"gpt-6.1-terra", openai 1000000 50000 5000000⟩,
   ⟨"gpt-6-sol", openai 2000000 200000 10000000⟩,
   ⟨"gpt-6-astra", openai 10000000 1000000 50000000⟩,
   ⟨"gpt-6-luna", openai 100000 10000 500000⟩,
   ⟨"gpt-5.3-codex", openai 1750000 175000 14000000⟩]

/-- The rows used instead of the pinned one for a prompt of at most
`longPromptTokens`. -/
def shortPromptTiers : List PriceEntry := [⟨"claude-haiku-5-5", ⟨100000, 125000, 10000, 500000⟩⟩]

def fastModeModels : List String := ["claude-opus-5-5", "claude-opus-5", "claude-opus-4-8"]

/-- The models that report where they ran; `us` is 1.1 times every tier. -/
def usGeoModels : List String :=
  ["claude-fable-5-1", "claude-fable-5", "claude-opus-5-5", "claude-opus-5", "claude-opus-4-8",
   "claude-opus-4-7", "claude-opus-4-6", "claude-sonnet-5-5", "claude-sonnet-5",
   "claude-sonnet-4-6", "claude-haiku-5-5"]

def longPromptTokens : Nat := 100000

abbrev PricingTable := Table PriceEntry PriceEntry.model

namespace PricingTable

def pinned : PricingTable := ⟨pinnedEntries, by decide⟩

/-- The pinned snapshot with the operator's prices on top. -/
def withOverrides (overrides : PricingTable) : PricingTable :=
  overrides.rows.foldl (fun table entry =>
    table.upsert entry (fun old => { old with pricing := entry.pricing }) fun _ => rfl) pinned

/-- A dash and eight digits: a dated snapshot of a listed model. -/
def isDatedSnapshotSuffix : List Char → Bool
  | '-' :: date => decide (date.length = 8) && date.all Char.isDigit
  | _ => false

/-- Whether `model` is `key` with a dated suffix. -/
def extendsByDate (model key : String) : Bool :=
  startsWith model key && isDatedSnapshotSuffix (model.toList.drop key.toList.length)

/-- The entry with the longest id; two entries a model extends have different
lengths. -/
def longest (entries : List PriceEntry) : Option PriceEntry :=
  entries.foldl (fun best entry =>
    match best with
    | none => some entry
    | some b => if b.model.utf8ByteSize ≤ entry.model.utf8ByteSize then some entry else some b) none

/-- The entry of a model: its own, or the longest it extends by a date. -/
def resolve (table : PricingTable) (model : String) : Option PriceEntry :=
  match table.find? model with
  | some exact => some exact
  | none => longest (table.rows.filter fun entry => extendsByDate model entry.model)

def lookup (table : PricingTable) (model : String) : Option ModelPricing :=
  (table.resolve model).map PriceEntry.pricing

end PricingTable

/-! ## Usage reports -/

inductive CacheWriteSplit where
  | absent
  | split (fiveMinute oneHour : Nat)
  | malformed
  deriving DecidableEq, Repr

/-- The five-minute and one-hour parts of `total` cache-write tokens; what the
report leaves open counts as one-hour. -/
def CacheWriteSplit.resolve (split : CacheWriteSplit) (total : Nat) : Option (Nat × Nat) :=
  match split with
  | .absent => some (0, total)
  | .split fiveMinute oneHour =>
      if u64Max < fiveMinute + oneHour ∨ total < fiveMinute + oneHour then none
      else some (fiveMinute, oneHour + (total - (fiveMinute + oneHour)))
  | .malformed => none

inductive SpeedReport where
  | absent
  | standard
  | fast
  | unrecognised
  deriving DecidableEq, Repr

inductive GeoReport where
  | absent
  | global
  | us
  | other
  deriving DecidableEq, Repr

/-- The token counts a provider reported for one request. -/
structure ObservedUsage where
  inputTokens : Nat
  cacheCreationInputTokens : Nat
  cacheReadInputTokens : Nat
  outputTokens : Nat
  cacheCreationSplit : CacheWriteSplit
  speed : SpeedReport
  inferenceGeo : GeoReport
  deriving DecidableEq, Repr

/-- Every token of the prompt. -/
def ObservedUsage.promptTokens (usage : ObservedUsage) : Nat :=
  usage.inputTokens + usage.cacheCreationInputTokens + usage.cacheReadInputTokens

inductive RequestPriceError where
  | unpriced
  | unmeasurable
  deriving DecidableEq, Repr

/-! ## The exact cost -/

def u128Max : Nat := 2 ^ 128 - 1

/-- Pico-dollars per token: the price scaled by a million and rounded; the cast to `u128`
saturates. -/
def perToken (p : Price) : Nat := min (round (p.usd * 1000000)).toNat u128Max

namespace PricingTable

def fastFactor (key : String) : SpeedReport → Except RequestPriceError Bool
  | .absent => .ok false
  | .standard => .ok false
  | .fast => if key ∈ fastModeModels then .ok true else .error .unmeasurable
  | .unrecognised => .error .unmeasurable

def geoFactor (key : String) : GeoReport → Except RequestPriceError Bool
  | .absent => .ok false
  | .global => .ok false
  | .us => if key ∈ usGeoModels then .ok true else .error .unmeasurable
  | .other => if key ∈ usGeoModels then .error .unmeasurable else .ok false

/-- The row one request is billed at: a pinned entry may have a cheaper one for a
short prompt; an override wins outright. -/
def rowFor (entry : PriceEntry) (promptTokens : Nat) : ModelPricing :=
  if min promptTokens u64Max ≤ longPromptTokens then
    match shortPromptTiers.find? (fun short => short.model = entry.model) with
    | some short => if entry ∈ pinnedEntries then short.pricing else entry.pricing
    | none => entry.pricing
  else entry.pricing

/-- The tiers of one request, before the multipliers; the sum of the products wraps. -/
def tierCost (price : ModelPricing) (usage : ObservedUsage) (write5m write1h : Nat) : Nat :=
  (usage.inputTokens * perToken price.inputUsdPerMtok +
    write5m * perToken price.cacheCreationInputUsdPerMtok +
    write1h * perToken price.oneHourCacheCreationUsdPerMtok +
    usage.cacheReadInputTokens * perToken price.cacheReadInputUsdPerMtok +
    usage.outputTokens * perToken price.outputUsdPerMtok) % 2 ^ 128

/-- The exact cost of one request in pico-dollars. -/
def requestCostPico (table : PricingTable) (model : String) (usage : ObservedUsage) :
    Except RequestPriceError Nat :=
  match table.resolve model with
  | none => .error .unpriced
  | some entry =>
  match usage.cacheCreationSplit.resolve usage.cacheCreationInputTokens with
  | none => .error .unmeasurable
  | some (write5m, write1h) => do
  let fast ← fastFactor entry.model usage.speed
  let usGeo ← geoFactor entry.model usage.inferenceGeo
  let pico := tierCost (rowFor entry usage.promptTokens) usage write5m write1h
  let pico := if fast then min (pico * 2) u128Max else pico
  return if usGeo then min (pico * 11) u128Max ⌈/⌉ 10 else pico

/-- What a reservation multiplies its worst case by. -/
def worstCaseMultiplier (table : PricingTable) (model : String) (fastRequested : Bool) : ℚ :=
  match table.resolve model with
  | none => 1
  | some entry =>
      (if fastRequested = true ∧ entry.model ∈ fastModeModels then 2 else 1) *
        (if entry.model ∈ usGeoModels then 11 / 10 else 1)

end PricingTable

/-! ## Reservation and settlement -/

inductive EnforcementGap where
  | unsupportedResourceKind (kind : ResourceKind)
  | unboundedRequest
  | unpricedModel (model : String)
  | unmeasurableUsage (model : String)
  deriving DecidableEq, Repr

/-- Whole cents, rounded up; the cast to `i64` saturates. -/
def usdToCentsCeil (usd : ℚ) : Int := if usd ≤ 0 then 0 else min ⌈usd * 100⌉ i64Max

def picoToCentsCeil (pico : Nat) : Int := min (pico ⌈/⌉ 10000000000 : Nat) i64Max

def worstCaseUsdReservation (inputUpper : Nat) (maxTokens : Option Nat) (model : String)
    (fastRequested : Bool) (pricing : PricingTable) : Except EnforcementGap ResourceAmount :=
  match maxTokens.filter (fun m => 0 < m) with
  | none => .error .unboundedRequest
  | some maxTokens =>
  match pricing.lookup model with
  | none => .error (.unpricedModel model)
  | some price =>
  let usd := (inputUpper : ℚ) * Price.usd price.worstCaseInputUsdPerMtok / 1000000 +
    (maxTokens : ℚ) * Price.usd price.outputUsdPerMtok / 1000000
  .ok ⟨.usd, usdToCentsCeil (usd * pricing.worstCaseMultiplier model fastRequested)⟩

def imageMaxTokens : Nat := 8000

def toolPromptTokens : Nat := 1000

/-- The input ceiling of a body: a byte is at least a token, an image at most
`imageMaxTokens`. -/
def hardInputUpperBound (bytes imageCount : Nat) : Nat :=
  min (min (bytes + min (imageCount * imageMaxTokens) u64Max) u64Max + toolPromptTokens) u64Max

/-- The fresh tokens a token budget settles against. -/
def ObservedUsage.freshTokens (usage : ObservedUsage) : Nat :=
  min (usage.inputTokens + usage.cacheCreationInputTokens + usage.outputTokens) u64Max

def settledCost (kind : ResourceKind) (usage : ObservedUsage) (model : String)
    (pricing : PricingTable) : Except EnforcementGap ResourceAmount :=
  match kind with
  | .tokens => .ok ⟨.tokens, usage.freshTokens⟩
  | .usd =>
      match pricing.requestCostPico model usage with
      | .ok pico => .ok ⟨.usd, picoToCentsCeil pico⟩
      | .error .unpriced => .error (.unpricedModel model)
      | .error .unmeasurable => .error (.unmeasurableUsage model)
  | .quotaPercent => .error (.unsupportedResourceKind kind)

structure SettleFlags where
  truncatedSettle : Bool := false
  inputBoundViolated : Bool := false
  deriving DecidableEq, Repr

/-- What a request settles at: the reported tiers when it ended cleanly, the worst
output when it was cut off after it started, else its reservation. -/
def settleAmountFor (observed : Option ObservedUsage) (completedCleanly sawMessageStart : Bool)
    (reserved : ResourceAmount) (maxTokens inputBound : Nat) (kind : ResourceKind)
    (model : String) (pricing : PricingTable) : ResourceAmount × Bool × SettleFlags :=
  match observed with
  | none => (reserved, false, {})
  | some usage =>
  let violated := decide (inputBound < min usage.promptTokens u64Max)
  let settle (priced : ObservedUsage) (usageKnown truncated : Bool) :=
    match settledCost kind priced model pricing with
    | .ok amount => (amount, usageKnown, (⟨truncated, violated⟩ : SettleFlags))
    | .error _ => (reserved, false, ⟨truncated, violated⟩)
  if completedCleanly then settle usage true false
  else if sawMessageStart then
    settle { usage with outputTokens := max usage.outputTokens maxTokens } false true
  else (reserved, false, ⟨false, violated⟩)

/-! ## A usage within its bounds is never priced above its reservation -/

theorem perToken_eq (p : Price) : perToken p = min p u128Max := by
  have exact : p.usd * 1000000 = ((p : ℤ) : ℚ) := by
    rw [Price.usd, Int.cast_natCast]
    ring
  rw [perToken, exact, round_intCast, Int.toNat_natCast]

theorem perToken_le (p : Price) : perToken p ≤ p := by
  rw [perToken_eq]
  exact Nat.min_le_left p u128Max

/-- One row is nowhere dearer than another. -/
def ModelPricing.NoDearer (p q : ModelPricing) : Prop :=
  p.inputUsdPerMtok ≤ q.worstCaseInputUsdPerMtok ∧
    p.cacheCreationInputUsdPerMtok ≤ q.worstCaseInputUsdPerMtok ∧
    p.oneHourCacheCreationUsdPerMtok ≤ q.worstCaseInputUsdPerMtok ∧
    p.cacheReadInputUsdPerMtok ≤ q.worstCaseInputUsdPerMtok ∧
    p.outputUsdPerMtok ≤ q.outputUsdPerMtok

instance (p q : ModelPricing) : Decidable (p.NoDearer q) := by
  unfold ModelPricing.NoDearer
  infer_instance

theorem ModelPricing.noDearer_self (p : ModelPricing) : p.NoDearer p := by
  simp [NoDearer, worstCaseInputUsdPerMtok]

namespace PricingTable

theorem shortPromptTiers_noDearer : ∀ short ∈ shortPromptTiers, ∀ entry ∈ pinnedEntries,
    short.model = entry.model → short.pricing.NoDearer entry.pricing := by decide

/-- The row a request is billed at is nowhere dearer than the one it was reserved
at. -/
theorem rowFor_noDearer (entry : PriceEntry) (promptTokens : Nat) :
    (rowFor entry promptTokens).NoDearer entry.pricing := by
  unfold rowFor
  split
  · split
    · rename_i short found
      have here : short.model = entry.model := by simpa using List.find?_some found
      split
      · rename_i mem
        exact shortPromptTiers_noDearer short (List.mem_of_find?_eq_some found) entry mem here
      · exact entry.pricing.noDearer_self
    · exact entry.pricing.noDearer_self
  · exact entry.pricing.noDearer_self

end PricingTable

theorem CacheWriteSplit.resolve_sum {split : CacheWriteSplit} {total write5m write1h : Nat}
    (resolved : split.resolve total = some (write5m, write1h)) : write5m + write1h = total := by
  cases split with
  | absent =>
      cases resolved
      omega
  | split fiveMinute oneHour =>
      simp only [resolve] at resolved
      split at resolved
      · cases resolved
      · cases resolved
        omega
  | malformed => cases resolved

namespace PricingTable

theorem tierCost_le {row entry : ModelPricing} (cheaper : row.NoDearer entry)
    {usage : ObservedUsage} {write5m write1h inputBound maxTokens : Nat}
    (writes : write5m + write1h = usage.cacheCreationInputTokens)
    (input : usage.promptTokens ≤ inputBound) (output : usage.outputTokens ≤ maxTokens) :
    tierCost row usage write5m write1h ≤
      inputBound * entry.worstCaseInputUsdPerMtok + maxTokens * entry.outputUsdPerMtok := by
  obtain ⟨tier1, tier2, tier3, tier4, tier5⟩ := cheaper
  unfold tierCost
  have rate1 := (perToken_le row.inputUsdPerMtok).trans tier1
  have rate2 := (perToken_le row.cacheCreationInputUsdPerMtok).trans tier2
  have rate3 := (perToken_le row.oneHourCacheCreationUsdPerMtok).trans tier3
  have rate4 := (perToken_le row.cacheReadInputUsdPerMtok).trans tier4
  have rate5 := (perToken_le row.outputUsdPerMtok).trans tier5
  refine (Nat.mod_le _ _).trans ?_
  have prompt : (usage.inputTokens + write5m + write1h + usage.cacheReadInputTokens) *
      entry.worstCaseInputUsdPerMtok ≤ inputBound * entry.worstCaseInputUsdPerMtok := by
    refine Nat.mul_le_mul_right _ ?_
    unfold ObservedUsage.promptTokens at input
    omega
  calc
    _ ≤ usage.inputTokens * entry.worstCaseInputUsdPerMtok +
          write5m * entry.worstCaseInputUsdPerMtok + write1h * entry.worstCaseInputUsdPerMtok +
          usage.cacheReadInputTokens * entry.worstCaseInputUsdPerMtok +
          maxTokens * entry.outputUsdPerMtok := by gcongr
    _ = (usage.inputTokens + write5m + write1h + usage.cacheReadInputTokens) *
          entry.worstCaseInputUsdPerMtok + maxTokens * entry.outputUsdPerMtok := by ring
    _ ≤ _ := by omega

end PricingTable

/-- Rounding a cost up, first to pico-dollars and then to cents, stays within a
reservation of at least that cost. -/
theorem picoToCentsCeil_le {cost d : Nat} (pos : 0 < d) {usd : ℚ}
    (covered : (cost : ℚ) / (d * 1000000000000) ≤ usd) :
    picoToCentsCeil (cost ⌈/⌉ d) ≤ usdToCentsCeil usd := by
  have scale : (0 : ℚ) < d * 1000000000000 := by positivity
  have total : (cost : ℚ) ≤ usd * (d * 1000000000000) := (div_le_iff₀ scale).mp covered
  unfold picoToCentsCeil usdToCentsCeil
  split
  · rename_i nothing
    have zero : cost = 0 := by
      have le : (cost : ℚ) ≤ 0 := total.trans (mul_nonpos_of_nonpos_of_nonneg nothing scale.le)
      exact_mod_cast le_antisymm le (by positivity)
    subst zero
    simp
  · rename_i positive
    refine min_le_min_right _ ?_
    have ceil := Int.le_ceil (usd * 100)
    have cents_nonneg : (0 : ℤ) ≤ ⌈usd * 100⌉ := Int.ceil_nonneg (by linarith)
    obtain ⟨cents, whole⟩ := Int.eq_ofNat_of_zero_le cents_nonneg
    rw [whole] at ceil ⊢
    rw [Int.ofNat_le, ceilDiv_le_iff_le_mul (by decide), ceilDiv_le_iff_le_mul pos]
    have : (cost : ℚ) ≤ d * (10000000000 * cents) := by
      push_cast at ceil
      have : (d : ℚ) * (usd * 100) ≤ d * cents := by gcongr
      linarith
    exact_mod_cast this

namespace PricingTable

theorem worstCaseMultiplier_eq {table : PricingTable} {model : String} {entry : PriceEntry}
    (resolved : table.resolve model = some entry) (fastRequested : Bool) :
    table.worstCaseMultiplier model fastRequested =
      (if fastRequested = true ∧ entry.model ∈ fastModeModels then 2 else 1) *
        (if entry.model ∈ usGeoModels then 11 / 10 else 1) := by
  simp only [worstCaseMultiplier, resolved]

theorem fastFactor_true {key : String} {speed : SpeedReport}
    (fast : fastFactor key speed = .ok true) : speed = .fast ∧ key ∈ fastModeModels := by
  cases speed with
  | fast =>
      simp only [fastFactor] at fast
      split at fast
      · rename_i listed
        exact ⟨rfl, listed⟩
      · cases fast
  | absent => cases fast
  | standard => cases fast
  | unrecognised => cases fast

theorem geoFactor_true {key : String} {geo : GeoReport} (us : geoFactor key geo = .ok true) :
    key ∈ usGeoModels := by
  cases geo with
  | us =>
      simp only [geoFactor] at us
      split at us
      · assumption
      · cases us
  | other =>
      simp only [geoFactor] at us
      split at us <;> cases us
  | absent => cases us
  | global => cases us

/-- What the multipliers make of a base cost, within the reservation's own. -/
theorem multiplied_le {table : PricingTable} {model : String} {entry : PriceEntry}
    (resolved : table.resolve model = some entry) {base bound : Nat} (le : base ≤ bound)
    (fast usGeo fastRequested : Bool)
    (fast_listed : fast = true → fastRequested = true ∧ entry.model ∈ fastModeModels)
    (geo_listed : usGeo = true → entry.model ∈ usGeoModels) :
    picoToCentsCeil (if usGeo then
        min ((if fast then min (base * 2) u128Max else base) * 11) u128Max ⌈/⌉ 10
      else if fast then min (base * 2) u128Max else base) ≤
      usdToCentsCeil ((bound : ℚ) / 1000000000000 *
        table.worstCaseMultiplier model fastRequested) := by
  have doubled : ((if fast then min (base * 2) u128Max else base : Nat) : ℚ) ≤
      bound * (if fastRequested = true ∧ entry.model ∈ fastModeModels then 2 else 1) := by
    have cast : (base : ℚ) ≤ bound := by exact_mod_cast le
    cases fast with
    | false =>
        simp only [Bool.false_eq_true, if_false]
        split <;> linarith
    | true =>
        rw [if_pos rfl, if_pos (fast_listed rfl)]
        have : (min (base * 2) u128Max : Nat) ≤ bound * 2 := by omega
        exact_mod_cast this
  generalize (if fast then min (base * 2) u128Max else base : Nat) = cost at doubled ⊢
  rw [worstCaseMultiplier_eq resolved]
  generalize (if fastRequested = true ∧ entry.model ∈ fastModeModels then (2 : ℚ) else 1) = f
    at doubled ⊢
  cases usGeo with
  | true =>
      rw [if_pos rfl, if_pos (geo_listed rfl)]
      refine picoToCentsCeil_le (by decide) ?_
      have capped : ((min (cost * 11) u128Max : Nat) : ℚ) ≤ cost * 11 := by
        exact_mod_cast Nat.min_le_left _ _
      rw [div_le_iff₀ (by norm_num)]
      push_cast
      push_cast at capped
      linarith
  | false =>
      have whole : cost ⌈/⌉ 1 = cost := ceilDiv_one cost
      rw [if_neg (by decide), ← whole]
      refine picoToCentsCeil_le (by decide) ?_
      rw [div_le_iff₀ (by norm_num)]
      have : (0 : ℚ) ≤ cost := by positivity
      split <;> (push_cast; linarith)

end PricingTable

/-- A usage stays within the bounds a reservation was priced for. -/
structure ObservedUsage.Within (usage : ObservedUsage) (inputBound maxTokens : Nat)
    (fastRequested : Bool) : Prop where
  input : usage.promptTokens ≤ inputBound
  output : usage.outputTokens ≤ maxTokens
  speed : usage.speed = .fast → fastRequested = true

theorem settledCost_le_worstCase {pricing : PricingTable} {model : String}
    {inputBound maxTokens : Nat} {fastRequested : Bool} {reserved settled : ResourceAmount}
    {usage : ObservedUsage} (within : usage.Within inputBound maxTokens fastRequested)
    (worst : worstCaseUsdReservation inputBound (some maxTokens) model fastRequested pricing =
      .ok reserved)
    (cost : settledCost .usd usage model pricing = .ok settled) :
    settled.value ≤ reserved.value := by
  unfold worstCaseUsdReservation at worst
  split at worst
  · cases worst
  rename_i declared bounded
  obtain ⟨same, -⟩ := Option.filter_eq_some_iff.mp bounded
  cases same
  split at worst
  · cases worst
  rename_i price found
  cases worst
  obtain ⟨entry, resolved, rfl⟩ := Option.map_eq_some_iff.mp found
  simp only [settledCost, PricingTable.requestCostPico, resolved] at cost
  cases split : usage.cacheCreationSplit.resolve usage.cacheCreationInputTokens with
  | none => simp [split] at cost
  | some writes =>
      obtain ⟨write5m, write1h⟩ := writes
      simp only [split] at cost
      cases fast : PricingTable.fastFactor entry.model usage.speed with
      | error e => cases e <;> simp [fast, bind, Except.bind] at cost
      | ok isFast =>
          cases geo : PricingTable.geoFactor entry.model usage.inferenceGeo with
          | error e => cases e <;> simp [fast, geo, bind, Except.bind] at cost
          | ok usGeo =>
              simp only [fast, geo, bind, Except.bind, pure, Except.pure, Except.ok.injEq] at cost
              subst cost
              have le := PricingTable.tierCost_le
                (PricingTable.rowFor_noDearer entry usage.promptTokens)
                (CacheWriteSplit.resolve_sum split) within.input within.output
              have bound := PricingTable.multiplied_le resolved le isFast usGeo fastRequested
                ?_ ?_
              · refine bound.trans (le_of_eq ?_)
                congr 1
                simp only [Price.usd]
                push_cast
                ring
              · rintro rfl
                obtain ⟨reported, listed⟩ := PricingTable.fastFactor_true fast
                exact ⟨within.speed reported, listed⟩
              · rintro rfl
                exact PricingTable.geoFactor_true geo

/-- A request whose usage stayed within its bounds never settles above its
reservation. -/
theorem settleAmountFor_le {pricing : PricingTable} {model : String}
    {inputBound maxTokens : Nat} {fastRequested : Bool} {reserved : ResourceAmount}
    {observed : Option ObservedUsage}
    (within : ∀ usage, observed = some usage → usage.Within inputBound maxTokens fastRequested)
    (worst : worstCaseUsdReservation inputBound (some maxTokens) model fastRequested pricing =
      .ok reserved) (completedCleanly sawMessageStart : Bool) :
    (settleAmountFor observed completedCleanly sawMessageStart reserved maxTokens inputBound .usd
      model pricing).1.value ≤ reserved.value := by
  unfold settleAmountFor
  cases observed with
  | none => exact le_refl _
  | some usage =>
      have bounds := within usage rfl
      have cut : ({ usage with outputTokens := max usage.outputTokens maxTokens } :
          ObservedUsage).Within inputBound maxTokens fastRequested :=
        ⟨bounds.input, max_le bounds.output (le_refl _), bounds.speed⟩
      simp only
      split
      · split
        · rename_i amount priced
          exact settledCost_le_worstCase bounds worst priced
        · exact le_refl _
      · split
        · split
          · rename_i amount priced
            exact settledCost_le_worstCase cut worst priced
          · exact le_refl _
        · exact le_refl _

/-- The usage a request that ended so is priced from. -/
def settledUsage (usage : ObservedUsage) (completedCleanly sawMessageStart : Bool)
    (maxTokens : Nat) : Option ObservedUsage :=
  if completedCleanly then some usage
  else if sawMessageStart then
    some { usage with outputTokens := max usage.outputTokens maxTokens }
  else none

/-- What a request is priced at, when its usage is priced. -/
theorem settleAmountFor_priced {usage priced : ObservedUsage} {completedCleanly sawMessageStart : Bool}
    {maxTokens : Nat} (ended : settledUsage usage completedCleanly sawMessageStart maxTokens = some priced)
    {model : String} {pricing : PricingTable} {cost : ResourceAmount}
    (cost_ok : settledCost .usd priced model pricing = .ok cost) (reserved : ResourceAmount)
    (inputBound : Nat) :
    (settleAmountFor (some usage) completedCleanly sawMessageStart reserved maxTokens inputBound .usd
      model pricing).1 = cost := by
  unfold settledUsage at ended
  unfold settleAmountFor
  dsimp only
  split at ended
  · rename_i clean
    cases ended
    rw [if_pos clean, cost_ok]
  · rename_i cut
    split at ended
    · rename_i started
      cases ended
      rw [if_neg cut, if_pos started, cost_ok]
    · cases ended

/-- The worst case of a model the table prices is reserved, and no usage within its bounds is
priced above it, whatever the row, the split over the tiers and the multipliers. -/
theorem reservation_covers_settlement {pricing : PricingTable} {model : String} {price : ModelPricing}
    (listed : pricing.lookup model = some price) {maxTokens : Nat} (bounded : 0 < maxTokens)
    {inputBound : Nat} {fastRequested : Bool} {usage : ObservedUsage}
    (within : usage.Within inputBound maxTokens fastRequested) :
    ∃ worst, worstCaseUsdReservation inputBound (some maxTokens) model fastRequested pricing =
        .ok worst ∧ worst.kind = .usd ∧
      ∀ completedCleanly sawMessageStart priced cost reserved,
        settledUsage usage completedCleanly sawMessageStart maxTokens = some priced →
        settledCost .usd priced model pricing = .ok cost →
        (settleAmountFor (some usage) completedCleanly sawMessageStart reserved maxTokens inputBound
          .usd model pricing).1.value ≤ worst.value := by
  have found : ∃ worst, worstCaseUsdReservation inputBound (some maxTokens) model fastRequested
      pricing = .ok worst ∧ worst.kind = .usd := by
    unfold worstCaseUsdReservation
    rw [Option.filter_some, if_pos (decide_eq_true bounded)]
    dsimp only
    rw [listed]
    exact ⟨_, rfl, rfl⟩
  obtain ⟨worst, reserve, kind⟩ := found
  refine ⟨worst, reserve, kind, ?_⟩
  intro completedCleanly sawMessageStart priced cost reserved ended cost_ok
  rw [settleAmountFor_priced ended cost_ok]
  refine settledCost_le_worstCase ?_ reserve cost_ok
  unfold settledUsage at ended
  split at ended
  · cases ended
    exact within
  split at ended
  · cases ended
    exact ⟨within.input, max_le within.output (le_refl maxTokens), within.speed⟩
  · cases ended

/-- A fast request in the US whose cache writes are all for an hour. -/
def opusUsage : ObservedUsage := ⟨100000, 400000, 0, 60, .split 0 400000, .fast, .us⟩

/-- Its stream is cut off, so that it is priced at the whole of its output bound. -/
theorem opus_covers_settlement :
    worstCaseUsdReservation 500000 (some 100) "claude-opus-5-20260801" true .pinned =
      .ok ⟨.usd, 1101⟩ ∧
    settledUsage opusUsage false true 100 = some { opusUsage with outputTokens := 100 } ∧
    settledCost .usd { opusUsage with outputTokens := 100 } "claude-opus-5-20260801" .pinned =
      .ok ⟨.usd, 991⟩ ∧
    (settleAmountFor (some opusUsage) false true ⟨.usd, 1101⟩ 100 500000 .usd "claude-opus-5-20260801"
      .pinned).1.value = 991 ∧
    (settleAmountFor (some opusUsage) false true ⟨.usd, 1101⟩ 100 500000 .usd "claude-opus-5-20260801"
      .pinned).1.value ≤ 1101 := by
  have listed : PricingTable.lookup .pinned "claude-opus-5-20260801" =
      some ⟨5000000, 6250000, 500000, 25000000⟩ := by decide +kernel
  have reserved : worstCaseUsdReservation 500000 (some 100) "claude-opus-5-20260801" true .pinned =
      .ok ⟨.usd, 1101⟩ := by decide +kernel
  have ended : settledUsage opusUsage false true 100 = some { opusUsage with outputTokens := 100 } := by
    decide
  have cost : settledCost .usd { opusUsage with outputTokens := 100 } "claude-opus-5-20260801" .pinned =
      .ok ⟨.usd, 991⟩ := by decide +kernel
  obtain ⟨worst, same, -, covers⟩ := @reservation_covers_settlement .pinned _ _ listed 100 (by decide)
    500000 true opusUsage ⟨by decide, by decide, fun _ => rfl⟩
  rw [reserved] at same
  cases same
  exact ⟨reserved, ended, cost, by decide +kernel, covers _ _ _ _ ⟨.usd, 1101⟩ ended cost⟩

end LibraGovernor
