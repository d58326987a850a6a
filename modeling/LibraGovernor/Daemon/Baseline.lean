/-
# LibraGovernor.Daemon.Baseline -- what a prune does to cumulative charging

A cumulative charge is the difference between a fresh measurement and the baseline: the
charges under the family's key prefix, retained or folded into the floor, plus the
gateway's mark.  A prune folds amounts, grouped by the key up to its last `|`.  A mark
has no amount, so nothing of it is folded.

`prune_keeps_baseline_iff` says exactly which prunes leave the baseline as it was.
-/
import LibraGovernor.Daemon.ChargeOnce
import LibraGovernor.Daemon.Gateway
import LibraGovernor.Daemon.Transcript

namespace LibraGovernor

open Relational Transaction

set_option autoImplicit false

/-! ## The families of cumulative charges -/

/-- A family whose charges are the differences of a running total. -/
inductive CumulativeFamily where
  | subagent (sessionId family : String)
  | codex (lane : String) (hold : SharedPoolReservationId)

/-- The keys of a Codex hold's true-ups. -/
def codexPrefix (lane : String) (hold : SharedPoolReservationId) : String :=
  "codex-trueup:" ++ lp lane ++ "|" ++ Uuid.text hold.uuid ++ "|"

def CumulativeFamily.keyPrefix : CumulativeFamily → String
  | .subagent sessionId family => transcriptPrefix sessionId family
  | .codex lane hold => codexPrefix lane hold

/-- What the daemon takes for already charged: the charges and the gateway's mark. -/
def chargedBaseline (s : LedgerStore) (keyPrefix : String) : Except LedgerError Nat := do
  let total ← s.sharedChargesTotalByKeyPrefix principal keyPrefix ownerPoolPrefix
  return total + gatewayMeteredOffset s keyPrefix

/-! ## The figures of a prefix -/

namespace LedgerStore

/-- A settled charge of the budget under a prefix. -/
def under (keyPrefix : String) (r : SharedPoolRow) : Bool :=
  r.chargedUnder principal keyPrefix ownerPoolPrefix

/-- The charges under a prefix, as a mathematical sum. -/
def chargedSum (s : LedgerStore) (keyPrefix : String) : Nat :=
  s.reservations.sum fun r => if under keyPrefix r = true then r.settledAmount.getD 0 else 0

/-- Of these, the ones in removed pools. -/
def removedSum (s : LedgerStore) (gone : List PoolId) (keyPrefix : String) : Nat :=
  s.reservations.sum fun r =>
    if r.poolId ∈ gone ∧ under keyPrefix r = true then r.settledAmount.getD 0 else 0

/-- The total as SQLite and the daemon read it. -/
def readTotal (charged floor : Nat) : Except LedgerError Nat :=
  if i64Max < charged then .error .integerOverflow
  else if i64Max < floor then .error .conversion
  else .ok (min (charged + floor) i64Max)

theorem sharedChargesTotalByKeyPrefix_eq (s : LedgerStore) (keyPrefix : String) :
    s.sharedChargesTotalByKeyPrefix principal keyPrefix ownerPoolPrefix =
      readTotal (s.chargedSum keyPrefix) (floorOf s.chargeFloor (principal, keyPrefix)) := by
  have sum : ((s.reservations.rows.filter fun r => r.chargedUnder principal keyPrefix
      ownerPoolPrefix).map fun r => r.settledAmount.getD 0).sum = s.chargedSum keyPrefix := by
    rw [chargedSum, Table.sum, ← sum_map_filter]
    congr 2
    exact List.filter_congr fun r _ => Bool.decide_eq_true.symm
  have floor : s.chargeFloorTotal principal keyPrefix =
      floorOf s.chargeFloor (principal, keyPrefix) := rfl
  unfold sharedChargesTotalByKeyPrefix sqlSum readTotal
  rw [sum, floor]
  by_cases charged : i64Max < s.chargedSum keyPrefix
  · rw [if_neg (not_le.mpr charged), if_pos charged]
    rfl
  · rw [if_pos (not_lt.mp charged), if_neg charged]
    by_cases stored : i64Max < floorOf s.chargeFloor (principal, keyPrefix)
    · rw [if_pos stored]
      simp only [stored, if_true]
      rfl
    · rw [if_neg stored]
      simp only [stored, if_false]
      rfl

end LedgerStore

/-! ## The condition -/

section Condition

variable (s : LedgerStore) (gone : List PoolId) (keyPrefix : String)

/-- Every charge removed under the prefix is of the prefix's own family, or nothing. -/
def OwnFamily : Prop :=
  ∀ r ∈ s.reservations, r.poolId ∈ gone → LedgerStore.under keyPrefix r = true →
    r.settledAmount.getD 0 = 0 ∨ familyPrefix r.idempotencyKey = keyPrefix

/-- Every mark removed is nothing, or within a mark that is retained. -/
def MarksKept : Prop :=
  ∀ r ∈ s.reservations, r.poolId ∈ gone → LedgerStore.under (keyPrefix ++ "g") r = true →
    ∀ mark, gatewayMark keyPrefix r.idempotencyKey = some mark → mark = 0 ∨
      ∃ r' ∈ s.reservations, r'.poolId ∉ gone ∧ LedgerStore.under (keyPrefix ++ "g") r' = true ∧
        ∃ mark', gatewayMark keyPrefix r'.idempotencyKey = some mark' ∧ mark ≤ mark'

/-- Removing the pools `gone` leaves the baseline of a prefix.  The first two cases are a
baseline that cannot be read: the charges overflow the SQL sum, before and after, or the
floor is stored as a real number and stays one. -/
def BaselineKept : Prop :=
  let charged := s.chargedSum keyPrefix
  let removed := s.removedSum gone keyPrefix
  let floor := LedgerStore.floorOf s.chargeFloor (principal, keyPrefix)
  let folded := s.foldedFrom gone (principal, keyPrefix)
  if i64Max < charged then i64Max < charged - removed
  else if i64Max < floor then True
  else floor + folded ≤ i64Max ∧
    (OwnFamily s gone keyPrefix ∨ i64Max ≤ charged - removed + floor + folded) ∧
    MarksKept s gone keyPrefix

end Condition

/-! ## The sums after a prune -/

theorem startsWith_trans {s p q : String} (sp : startsWith s p = true) (pq : startsWith p q = true) :
    startsWith s q = true := by
  rw [startsWith, List.isPrefixOf_iff_prefix] at sp pq ⊢
  exact pq.trans sp

theorem familyPrefix_prefix (key : String) : startsWith key (familyPrefix key) = true := by
  rw [startsWith, List.isPrefixOf_iff_prefix, familyPrefix, String.toList_ofList]
  obtain ⟨tail, split⟩ : key.toList.reverse.dropWhile (· ≠ '|') <:+ key.toList.reverse :=
    List.dropWhile_suffix _
  refine ⟨tail.reverse, ?_⟩
  rw [← List.reverse_append, split, List.reverse_reverse]

theorem transcriptPrefix_kind (sessionId family : String) :
    startsWith (transcriptPrefix sessionId family) "subagent-transcript:" = true := by
  unfold transcriptPrefix
  rw [String.append_assoc, String.append_assoc, String.append_assoc]
  exact startsWith_append "subagent-transcript:" _

theorem codexPrefix_kind (lane : String) (hold : SharedPoolReservationId) :
    startsWith (codexPrefix lane hold) "codex-trueup:" = true := by
  unfold codexPrefix
  rw [String.append_assoc, String.append_assoc, String.append_assoc]
  exact startsWith_append "codex-trueup:" _

theorem CumulativeFamily.keyPrefix_kind (family : CumulativeFamily) :
    startsWith family.keyPrefix "subagent-transcript:" = true ∨
      startsWith family.keyPrefix "codex-trueup:" = true := by
  cases family with
  | subagent sessionId name => exact Or.inl (transcriptPrefix_kind sessionId name)
  | codex lane hold => exact Or.inr (codexPrefix_kind lane hold)

namespace LedgerStore

variable {s s' : LedgerStore} {gone : List PoolId}

theorem PrunedBy.chargedSum (pruned : PrunedBy s gone s') (keyPrefix : String) :
    s'.chargedSum keyPrefix + s.removedSum gone keyPrefix = s.chargedSum keyPrefix := by
  have split := Table.sum_delete s.reservations (fun r => r.poolId ∈ gone)
    fun r => if under keyPrefix r = true then r.settledAmount.getD 0 else 0
  have kept : s'.reservations = s.reservations.delete fun r => r.poolId ∈ gone := by
    refine Table.ext_rows ?_
    rw [pruned.rows]
    exact List.filter_congr fun r _ => by simp
  rw [← kept] at split
  rw [LedgerStore.chargedSum, LedgerStore.chargedSum, ← split, removedSum]
  congr 1
  refine Table.sum_congr _ fun r _ => ?_
  by_cases here : r.poolId ∈ gone
  · simp [here]
  · simp [here]

theorem removedPools_owned {req : PruneRequest} {poolId : PoolId}
    (gone : poolId ∈ s.removedPools req) : startsWith poolId.val ownerPoolPrefix = true := by
  unfold removedPools at gone
  split at gone
  · cases gone
  · have mem := (List.mem_filter.mp (List.takeWhile_subset _ gone)).1
    rw [localBudgetPools, List.mem_insertionSort, List.mem_filter] at mem
    rw [← localBudgetPoolPrefix_eq]
    exact mem.2

/-- A row that is folded for a prefix is one charged under it. -/
theorem under_of_folded {keyPrefix : String} {r : SharedPoolRow}
    (owned : startsWith r.poolId.val ownerPoolPrefix = true) (cumulative : r.cumulativeCharge = true)
    (named : r.floorKey = (principal, keyPrefix)) : under keyPrefix r = true := by
  simp only [SharedPoolRow.cumulativeCharge, Bool.and_eq_true, decide_eq_true_eq] at cumulative
  simp only [SharedPoolRow.floorKey, Prod.mk.injEq] at named
  simp only [under, SharedPoolRow.chargedUnder, Bool.and_eq_true, decide_eq_true_eq]
  refine ⟨⟨⟨named.1, cumulative.1.1.1, cumulative.1.1.2⟩, ?_⟩, owned⟩
  rw [← named.2]
  exact familyPrefix_prefix r.idempotencyKey

/-- A charge under a cumulative prefix is folded for it exactly when it is of its family. -/
theorem folded_iff (family : CumulativeFamily) {r : SharedPoolRow}
    (charged : under family.keyPrefix r = true) (some_ : r.settledAmount.getD 0 ≠ 0) :
    r.cumulativeCharge = true ∧ r.floorKey = (principal, family.keyPrefix) ↔
      familyPrefix r.idempotencyKey = family.keyPrefix := by
  simp only [under, SharedPoolRow.chargedUnder, Bool.and_eq_true, decide_eq_true_eq] at charged
  obtain ⟨⟨⟨mine, isCharge, settled⟩, named⟩, -⟩ := charged
  have amount : r.settledAmount.isSome = true := by
    cases figure : r.settledAmount with
    | none => simp [figure] at some_
    | some _ => rfl
  have kind : startsWith r.idempotencyKey "subagent-transcript:" = true ∨
      startsWith r.idempotencyKey "codex-trueup:" = true := by
    obtain kind | kind := family.keyPrefix_kind
    · exact .inl (startsWith_trans named kind)
    · exact .inr (startsWith_trans named kind)
  simp only [SharedPoolRow.cumulativeCharge, SharedPoolRow.floorKey, Bool.and_eq_true,
    decide_eq_true_eq, Bool.or_eq_true, Prod.mk.injEq, isCharge, settled, amount, mine, kind,
    true_and]

/-- What is folded for a prefix is removed under it, and all of it is exactly when every
removed charge is of its own family. -/
theorem foldedFrom_le (family : CumulativeFamily)
    (owned : ∀ p ∈ gone, startsWith p.val ownerPoolPrefix = true) :
    s.foldedFrom gone (principal, family.keyPrefix) ≤ s.removedSum gone family.keyPrefix ∧
      (s.removedSum gone family.keyPrefix = s.foldedFrom gone (principal, family.keyPrefix) ↔
        OwnFamily s gone family.keyPrefix) := by
  have each : ∀ r ∈ s.reservations,
      (if r.poolId ∈ gone ∧ r.cumulativeCharge = true ∧ r.floorKey = (principal, family.keyPrefix)
        then r.settledAmount.getD 0 else 0) ≤
      if r.poolId ∈ gone ∧ under family.keyPrefix r = true then r.settledAmount.getD 0 else 0 := by
    intro r _
    split
    · rename_i folded
      obtain ⟨here, cumulative, named⟩ := folded
      rw [if_pos ⟨here, under_of_folded (owned r.poolId here) cumulative named⟩]
    · exact Nat.zero_le _
  refine ⟨Table.sum_le _ each, ?_⟩
  constructor
  · intro same r mem here charged
    have share := (Table.eq_of_sum_eq _ each same r mem).symm
    rw [if_pos ⟨here, charged⟩] at share
    by_cases nothing : r.settledAmount.getD 0 = 0
    · exact .inl nothing
    · split at share
      · rename_i folded
        exact .inr ((folded_iff family charged nothing).mp folded.2)
      · exact absurd share nothing
  · intro own
    refine Table.sum_congr _ fun r mem => ?_
    by_cases here : r.poolId ∈ gone
    · by_cases charged : under family.keyPrefix r = true
      · rw [if_pos ⟨here, charged⟩]
        by_cases nothing : r.settledAmount.getD 0 = 0
        · simp [nothing]
        · have mine := (own r mem here charged).resolve_left nothing
          rw [if_pos ⟨here, (folded_iff family charged nothing).mpr mine⟩]
      · rw [if_neg fun both => charged both.2, if_neg]
        rintro ⟨-, cumulative, named⟩
        exact charged (under_of_folded (owned r.poolId here) cumulative named)
    · simp [here]

end LedgerStore

/-! ## The marks after a prune -/

/-- The gateway's mark of a prefix stands at a figure. -/
def Marked (s : LedgerStore) (keyPrefix : String) (mark : Nat) : Prop :=
  ∃ r ∈ s.reservations, LedgerStore.under (keyPrefix ++ "g") r = true ∧
    gatewayMark keyPrefix r.idempotencyKey = some mark

theorem mem_marks (s : LedgerStore) (keyPrefix : String) (mark : Nat) :
    mark ∈ (s.sharedChargeKeysByPrefix principal (keyPrefix ++ "g") ownerPoolPrefix).filterMap
      (gatewayMark keyPrefix) ↔ Marked s keyPrefix mark := by
  simp only [List.mem_filterMap, LedgerStore.sharedChargeKeysByPrefix, List.mem_map, List.mem_filter,
    Marked, LedgerStore.under, Table.mem_rows]
  constructor
  · rintro ⟨key, ⟨r, ⟨mem, charged⟩, rfl⟩, named⟩
    exact ⟨r, mem, charged, named⟩
  · rintro ⟨r, mem, charged, named⟩
    exact ⟨_, ⟨r, ⟨mem, charged⟩, rfl⟩, named⟩

theorem marked_le_offset {s : LedgerStore} {keyPrefix : String} {mark : Nat}
    (marked : Marked s keyPrefix mark) : mark ≤ gatewayMeteredOffset s keyPrefix :=
  List.le_max?_getD_of_mem ((mem_marks s keyPrefix mark).mpr marked)

/-- The offset is one of the marks, or nothing. -/
theorem offset_marked (s : LedgerStore) (keyPrefix : String) :
    gatewayMeteredOffset s keyPrefix = 0 ∨ Marked s keyPrefix (gatewayMeteredOffset s keyPrefix) := by
  unfold gatewayMeteredOffset
  cases largest : ((s.sharedChargeKeysByPrefix principal (keyPrefix ++ "g")
      ownerPoolPrefix).filterMap (gatewayMark keyPrefix)).max? with
  | none => exact .inl rfl
  | some mark => exact .inr ((mem_marks s keyPrefix mark).mp (List.max?_mem largest))

namespace LedgerStore

variable {s s' : LedgerStore} {gone : List PoolId}

theorem PrunedBy.offset_le (pruned : PrunedBy s gone s') (keyPrefix : String) :
    gatewayMeteredOffset s' keyPrefix ≤ gatewayMeteredOffset s keyPrefix := by
  obtain zero | ⟨r, mem, charged, named⟩ := offset_marked s' keyPrefix
  · omega
  · exact marked_le_offset ⟨r, ((pruned.mem r).mp mem).1, charged, named⟩

theorem PrunedBy.offset_eq_iff (pruned : PrunedBy s gone s') (keyPrefix : String) :
    gatewayMeteredOffset s' keyPrefix = gatewayMeteredOffset s keyPrefix ↔
      MarksKept s gone keyPrefix := by
  constructor
  · intro same r mem here charged mark named
    have le := marked_le_offset ⟨r, mem, charged, named⟩
    rw [← same] at le
    obtain zero | ⟨r', mem', charged', named'⟩ := offset_marked s' keyPrefix
    · exact .inl (by omega)
    · obtain ⟨was, kept⟩ := (pruned.mem r').mp mem'
      exact .inr ⟨r', was, kept, charged', _, named', le⟩
  · intro marks
    refine le_antisymm (pruned.offset_le keyPrefix) ?_
    obtain zero | ⟨r, mem, charged, named⟩ := offset_marked s keyPrefix
    · omega
    · by_cases here : r.poolId ∈ gone
      · obtain zero | ⟨r', mem', kept, charged', mark, named', le⟩ := marks r mem here charged _ named
        · omega
        · exact le_trans le
            (marked_le_offset ⟨r', (pruned.mem r').mpr ⟨mem', kept⟩, charged', named'⟩)
      · exact marked_le_offset ⟨r, (pruned.mem r).mpr ⟨mem, here⟩, charged, named⟩

/-- How the two readings of a total compare when part of it moves into the floor. -/
theorem readTotal_add_eq_iff {charged kept removed floor folded mark mark' : Nat}
    (split : kept + removed = charged) (foldedLe : folded ≤ removed) (markLe : mark' ≤ mark) :
    (readTotal kept (floor + folded)).map (· + mark') = (readTotal charged floor).map (· + mark) ↔
      if i64Max < charged then i64Max < kept
      else if i64Max < floor then True
      else floor + folded ≤ i64Max ∧
        (removed = folded ∨ i64Max ≤ kept + floor + folded) ∧ mark' = mark := by
  unfold readTotal
  by_cases over_ : i64Max < charged
  · rw [if_pos over_, if_pos over_]
    by_cases still : i64Max < kept
    · simp [still, Except.map]
    · rw [if_neg still]
      split <;> simp [Except.map, still]
  · have fits : ¬ i64Max < kept := by omega
    rw [if_neg over_, if_neg over_, if_neg fits]
    by_cases stored : i64Max < floor
    · rw [if_pos stored, if_pos (by omega), if_pos stored]
      simp [Except.map]
    · rw [if_neg stored, if_neg stored]
      by_cases outgrown : i64Max < floor + folded
      · rw [if_pos outgrown]
        simp [Except.map]
        omega
      · rw [if_neg outgrown]
        simp only [Except.map, Except.ok.injEq]
        omega

end LedgerStore

theorem chargedBaseline_eq (s : LedgerStore) (keyPrefix : String) :
    chargedBaseline s keyPrefix = (LedgerStore.readTotal (s.chargedSum keyPrefix)
      (LedgerStore.floorOf s.chargeFloor (principal, keyPrefix))).map
        (· + gatewayMeteredOffset s keyPrefix) := by
  unfold chargedBaseline
  rw [LedgerStore.sharedChargesTotalByKeyPrefix_eq]
  cases LedgerStore.readTotal _ _ with
  | error e => rfl
  | ok total => rfl

/-- A measurement's delta is a function of the baseline. -/
theorem transcriptDelta_of_baseline {s s' : LedgerStore} {keyPrefix : String}
    (same : chargedBaseline s' keyPrefix = chargedBaseline s keyPrefix) (cumulative : Nat) :
    transcriptDelta s' keyPrefix cumulative = transcriptDelta s keyPrefix cumulative := by
  have read : ∀ s : LedgerStore, transcriptDelta s keyPrefix cumulative =
      (chargedBaseline s keyPrefix).map fun already => cumulative - min already u64Max := by
    intro s
    simp only [transcriptDelta, alreadyCharged, chargedBaseline]
    cases s.sharedChargesTotalByKeyPrefix principal keyPrefix ownerPoolPrefix with
    | error e => rfl
    | ok total => rfl
  rw [read, read, same]

/-- **Which prunes keep the baseline.**  For every store, every prune and every family of
cumulative charges, the baseline read after the prune is the one read before it exactly
when the removed charges are folded for the family and no removed mark stood above the
retained ones; and then every later measurement has the delta it would have had. -/
theorem prune_keeps_baseline_iff (s : LedgerStore) (req : PruneRequest)
    (family : CumulativeFamily) :
    let s' := (pruneClosedPeriods req s).2
    (chargedBaseline s' family.keyPrefix = chargedBaseline s family.keyPrefix ↔
      BaselineKept s (s.removedPools req) family.keyPrefix) ∧
    (BaselineKept s (s.removedPools req) family.keyPrefix → ∀ cumulative,
      transcriptDelta s' family.keyPrefix cumulative = transcriptDelta s family.keyPrefix cumulative) := by
  intro s'
  have pruned := LedgerStore.pruneClosedPeriods_prunedBy s req
  have charged := pruned.chargedSum family.keyPrefix
  obtain ⟨foldedLe, own⟩ := LedgerStore.foldedFrom_le (s := s) family
    (fun p gone => LedgerStore.removedPools_owned gone)
  have iff : chargedBaseline s' family.keyPrefix = chargedBaseline s family.keyPrefix ↔
      BaselineKept s (s.removedPools req) family.keyPrefix := by
    rw [chargedBaseline_eq, chargedBaseline_eq, pruned.floor,
      LedgerStore.readTotal_add_eq_iff charged foldedLe (pruned.offset_le _), own,
      pruned.offset_eq_iff, BaselineKept]
    have kept : s.chargedSum family.keyPrefix - s.removedSum (s.removedPools req) family.keyPrefix =
        s'.chargedSum family.keyPrefix := by
      rw [← charged]
      exact Nat.add_sub_cancel _ _
    simp only [kept]
    rfl
  exact ⟨iff, fun kept cumulative => transcriptDelta_of_baseline (iff.mpr kept) cumulative⟩

/-! ## Poles -/

def routedConfig : SharedBudgetConfig where
  monthlyCapUsdCents := 1000
  timeZone := .utc
  turnHoldUsdCents := 10
  subagentUnmeasuredChargeUsdCents := none
  pricingOverrides := .empty
  enforcement := .gateway
  cap_le := hooksConfig.cap_le
  hold_pos := hooksConfig.hold_pos
  hold_le := hooksConfig.hold_le
  unmeasured_pos := hooksConfig.unmeasured_pos

/-- The middle of January 2026. -/
def routedRuntime : SharedBudgetRuntime :=
  { state := .valid routedConfig, now := 1768435200 * OffsetDateTime.nanosPerSecond }

def routedRequest : GatewayReserveRequest :=
  { sessionId := "session", model := "claude-fable-5", bodyBytes := 9000,
    maxTokens := some 10000, imageCount := 0, fastRequested := false, key := "gw:boot:1",
    ttlSecs := 60 }

/-- A subagent whose file costs fifty cents. -/
def routedCall : TranscriptCall :=
  { sessionId := "session", agentId := some "agent", path := "/agent.jsonl",
    read := .priced ⟨50, none, [], by decide⟩, sweep := false }

def routedFamily : CumulativeFamily := .subagent "session" "agent:agent"

/-- A routed session whose subagent was seen in gateway mode; its hold is released. -/
def routed : LedgerStore :=
  let held := (gatewayReserve routedRuntime routedRequest ⟨1⟩ .empty).2
  let seen := (chargeTranscriptInner id routedRuntime routedRuntime.state routedCall ⟨2⟩ held).2
  (gatewayRelease routedRuntime ⟨1⟩ seen).2

/-- The middle of April 2026, keeping one closed month. -/
def springPrune : PruneRequest :=
  { keepMonths := 1, now := 1776211200 * OffsetDateTime.nanosPerSecond, timeZone := .utc,
    dryRun := false }

/-- The prune forgets the fifty cents the gateway metered. -/
theorem mark_forgotten :
    chargedBaseline routed routedFamily.keyPrefix = .ok 50 ∧
    ¬ chargedBaseline (pruneClosedPeriods springPrune routed).2 routedFamily.keyPrefix =
      chargedBaseline routed routedFamily.keyPrefix := by
  decide +kernel

end LibraGovernor
