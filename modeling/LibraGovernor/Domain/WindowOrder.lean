/-
# LibraGovernor.Domain.WindowOrder -- when the order of the evidence does not matter

Usage of one id is sorted by instant and value before the first is kept, but not by unit; holds
of one id are kept in input order; and of two snapshots of one instant and one rank the later in
the list is kept.  So an evaluation is the same for every order of the evidence exactly when no
such tie is left open (`order_free_iff`):

* `UsageClash`: the least records of an id that the window counts are not all of its unit;
* `HoldsAgree`: the holds of an id count the same, or they stop at `u64Max` whichever is kept;
* `SnapshotsAgree`: the newest snapshots of the highest rank are one.
-/
import LibraGovernor.Domain.WindowEvidence
import Mathlib.Algebra.GroupWithZero.Nat
import Mathlib.Algebra.Order.BigOperators.Group.List
import Mathlib.Algebra.Order.Group.Nat

namespace LibraGovernor

open Scan StableSort

set_option autoImplicit false

/-- Any order of the evidence evaluates to the same. -/
def OrderFree (window : QuotaWindow) (now : OffsetDateTime) (evidence : QuotaEvidence) : Prop :=
  ∀ usage holds snapshots, usage.Perm evidence.usage → holds.Perm evidence.holds →
    snapshots.Perm evidence.snapshots →
    window.evaluate ⟨usage, holds, snapshots⟩ now = window.evaluate evidence now

/-- The record is the least of its id. -/
def LeastUsage (usage : List QuotaUsage) (u : QuotaUsage) : Prop :=
  u ∈ usage ∧ ∀ w ∈ usage, w.id = u.id → u.dedupKey ≤ w.dedupKey

/-- Two records tie for the least of their id, and the window counts only the first. -/
structure UsageClash (window : QuotaWindow) (now : OffsetDateTime) (usage : List QuotaUsage)
    (u v : QuotaUsage) : Prop where
  least : LeastUsage usage u
  mem : v ∈ usage
  tie : u.dedupKey = v.dedupKey
  counts : passes window.unit (window.kind.inRange now) u = true
  not_counts : v.amount.unit ≠ window.unit

/-- What the holds come to when the least of each id is kept. -/
def leastHeld (unit : QuotaUnit) (holds : List OutstandingHold) : Nat :=
  heldTotal unit (holds.insertionSort (ByKey (OutstandingHold.counts unit)))

/-- The holds of one id count the same, or any of them reach the stop. -/
def HoldsAgree (unit : QuotaUnit) (holds : List OutstandingHold) : Prop :=
  (∀ g ∈ holds, ∀ h ∈ holds, g.id = h.id → g.counts unit = h.counts unit) ∨
    u64Max ≤ leastHeld unit holds

/-- The snapshot is a newest one of the window. -/
def NewestSnapshot (window : QuotaWindow) (now : OffsetDateTime) (snapshots : List ProviderSnapshot)
    (s : ProviderSnapshot) : Prop :=
  s ∈ snapshots ∧ s.windowId = window.id ∧ s.observedAt ≤ now ∧
    ∀ t ∈ snapshots, t.windowId = window.id → t.observedAt ≤ now → t.rank ≤ s.rank

def SnapshotsAgree (window : QuotaWindow) (now : OffsetDateTime)
    (snapshots : List ProviderSnapshot) : Prop :=
  ∀ s t, NewestSnapshot window now snapshots s → NewestSnapshot window now snapshots t → s = t

/-! ## Usage -/

theorem dedupKey_id {u v : QuotaUsage} (same : u.dedupKey = v.dedupKey) : u.id = v.id := by
  have ids : u.id.uuid.toNat = v.id.uuid.toNat :=
    congrArg (fun key : Nat ×ₗ Int ×ₗ Nat => (ofLex key).1) same
  have uuids : u.id.uuid = v.id.uuid := BitVec.eq_of_toNat_eq ids
  cases here : u.id with
  | mk uuid =>
      cases there : v.id with
      | mk uuid' =>
          rw [here, there] at uuids
          exact congrArg EconomicEventId.mk uuids

theorem dedupKey_inj {u v : QuotaUsage} (same : u.dedupKey = v.dedupKey)
    (units : u.amount.unit = v.amount.unit) : u = v := by
  have rest := congrArg (fun key : Nat ×ₗ Int ×ₗ Nat => (ofLex key).2) same
  have instants : u.occurredAt = v.occurredAt :=
    congrArg (fun key : Int ×ₗ Nat => (ofLex key).1) rest
  have values : u.amount.value = v.amount.value :=
    congrArg (fun key : Int ×ₗ Nat => (ofLex key).2) rest
  refine QuotaUsage.ext_data (dedupKey_id same) instants ?_
  cases here : u.amount with
  | mk unit value =>
      cases there : v.amount with
      | mk unit' value' =>
          rw [here, there] at units values
          cases units
          cases values
          rfl

theorem dedup_least {usage : List QuotaUsage} {u : QuotaUsage} (kept : u ∈ dedupUsageById usage) :
    LeastUsage usage u := by
  obtain ⟨mem, least⟩ := head_insertionSort _ (mem_dedupUsageById.mp kept)
  refine ⟨(List.mem_filter.mp mem).1, ?_⟩
  intro w there same
  exact least w (List.mem_filter.mpr ⟨there, by simp [same]⟩)

/-- Some record of an id is kept, and it ties with the least. -/
theorem exists_kept {usage : List QuotaUsage} {u : QuotaUsage} (least : LeastUsage usage u) :
    ∃ v, v ∈ dedupUsageById usage ∧ u.dedupKey = v.dedupKey := by
  cases first : ((usage.filter fun v => v.id = u.id).insertionSort
      (ByKey QuotaUsage.dedupKey)).head? with
  | none =>
      have mem : u ∈ (usage.filter fun v => v.id = u.id).insertionSort (ByKey QuotaUsage.dedupKey) := by
        rw [List.mem_insertionSort, List.mem_filter]
        exact ⟨least.1, by simp⟩
      rw [List.head?_eq_none_iff] at first
      rw [first] at mem
      cases mem
  | some v =>
      obtain ⟨mem, below⟩ := head_insertionSort _ first
      obtain ⟨there, same⟩ := List.mem_filter.mp mem
      have ids : v.id = u.id := of_decide_eq_true same
      refine ⟨v, ?_, ?_⟩
      · rw [mem_dedupUsageById, ids]
        exact first
      · refine le_antisymm (least.2 v there ids) (below u ?_)
        exact List.mem_filter.mpr ⟨least.1, by simp⟩

/-- Without a clash the least records that count are the ones kept. -/
theorem kept_iff_least {window : QuotaWindow} {now : OffsetDateTime} {usage : List QuotaUsage}
    (apart : ∀ u v, ¬ UsageClash window now usage u v) {u : QuotaUsage}
    (pass : passes window.unit (window.kind.inRange now) u = true) :
    u ∈ dedupUsageById usage ↔ LeastUsage usage u := by
  constructor
  · exact dedup_least
  · intro least
    obtain ⟨v, kept, tie⟩ := exists_kept least
    by_cases unit : v.amount.unit = window.unit
    · have own : u.amount.unit = window.unit :=
        of_decide_eq_true (Bool.and_eq_true_iff.mp pass).1
      rw [dedupKey_inj tie (own.trans unit.symm)]
      exact kept
    · exact absurd ⟨least, dedupUsageById_sub kept, tie, pass, unit⟩ (apart u v)

theorem leastUsage_perm {usage usage' : List QuotaUsage} (perm : usage'.Perm usage) (u : QuotaUsage) :
    LeastUsage usage' u ↔ LeastUsage usage u := by
  constructor
  · rintro ⟨mem, least⟩
    exact ⟨perm.mem_iff.mp mem, fun w there same => least w (perm.mem_iff.mpr there) same⟩
  · rintro ⟨mem, least⟩
    exact ⟨perm.mem_iff.mpr mem, fun w there same => least w (perm.mem_iff.mp there) same⟩

/-- Without a clash every order counts the same records. -/
theorem counts_perm {window : QuotaWindow} {now : OffsetDateTime} {usage usage' : List QuotaUsage}
    (apart : ∀ u v, ¬ UsageClash window now usage u v) (perm : usage'.Perm usage) :
    window.counts now usage' = window.counts now usage := by
  have apart' : ∀ u v, ¬ UsageClash window now usage' u v := by
    intro u v clash
    exact apart u v ⟨(leastUsage_perm perm u).mp clash.least, perm.mem_iff.mp clash.mem, clash.tie,
      clash.counts, clash.not_counts⟩
  apply counted_congr
  intro u pass
  rw [kept_iff_least apart' pass, kept_iff_least apart pass, leastUsage_perm perm]

/-- The record in front is kept when it is the least. -/
theorem front_kept {u : QuotaUsage} {rest : List QuotaUsage}
    (least : ∀ w ∈ rest, w.id = u.id → u.dedupKey ≤ w.dedupKey) : u ∈ dedupUsageById (u :: rest) := by
  rw [mem_dedupUsageById, List.filter_cons_of_pos (by simp)]
  apply insertionSort_cons_least
  intro w mem
  obtain ⟨there, same⟩ := List.mem_filter.mp mem
  exact least w there (of_decide_eq_true same)

/-- Of two records that tie, the one in front is counted. -/
theorem clash_counts {window : QuotaWindow} {now : OffsetDateTime} {u v : QuotaUsage}
    {rest : List QuotaUsage} (clash : UsageClash window now (u :: v :: rest) u v) :
    (window.counts now (u :: v :: rest)).length = (window.counts now (v :: u :: rest)).length + 1 := by
  have ids : u.id = v.id := dedupKey_id clash.tie
  have first : u ∈ dedupUsageById (u :: v :: rest) :=
    front_kept fun w mem same => clash.least.2 w (List.mem_cons_of_mem u mem) same
  have second : v ∈ dedupUsageById (v :: u :: rest) := by
    apply front_kept
    intro w mem same
    rw [← clash.tie]
    rcases List.mem_cons.mp mem with rfl | mem
    · exact le_refl _
    · exact clash.least.2 w (by simp [mem]) (same.trans ids.symm)
  have differ : u ≠ v := by
    rintro rfl
    exact clash.not_counts (of_decide_eq_true (Bool.and_eq_true_iff.mp clash.counts).1)
  have passed : ∀ w, passes window.unit (window.kind.inRange now) w = true → w ≠ v := by
    rintro w pass rfl
    exact clash.not_counts (of_decide_eq_true (Bool.and_eq_true_iff.mp pass).1)
  have other : ∀ w, w.id ≠ u.id →
      (w ∈ dedupUsageById (u :: v :: rest) ↔ w ∈ dedupUsageById (v :: u :: rest)) := by
    intro w apart
    rw [mem_dedupUsageById, mem_dedupUsageById]
    have skip : ∀ w' : QuotaUsage, w'.id = u.id → (decide (w'.id = w.id)) = false := by
      intro w' same
      simp [same, Ne.symm apart]
    simp only [List.filter_cons, skip u rfl, skip v ids.symm, Bool.false_eq_true, if_false]
  let kept := (dedupUsageById (v :: u :: rest)).filter (passes window.unit (window.kind.inRange now))
  have more : ((dedupUsageById (u :: v :: rest)).filter
      (passes window.unit (window.kind.inRange now))).Perm (u :: kept) := by
    have absent : u ∉ kept := by
      intro mem
      exact differ (keepFirst_inj QuotaUsage.id (List.mem_filter.mp mem).1 second ids)
    rw [List.perm_ext_iff_of_nodup ((dedupUsageById_nodup _).filter _)
      (List.nodup_cons.mpr ⟨absent, (dedupUsageById_nodup _).filter _⟩)]
    intro w
    rw [List.mem_cons, List.mem_filter, List.mem_filter]
    by_cases same : w.id = u.id
    · constructor
      · rintro ⟨mem, -⟩
        exact .inl (keepFirst_inj QuotaUsage.id mem first same)
      · rintro (rfl | ⟨mem, pass⟩)
        · exact ⟨first, clash.counts⟩
        · exact absurd (keepFirst_inj QuotaUsage.id mem second (same.trans ids)) (passed w pass)
    · rw [other w same]
      constructor
      · exact .inr
      · rintro (rfl | there)
        · exact absurd rfl same
        · exact there
  rw [QuotaWindow.counts, QuotaWindow.counts, counted, counted, List.length_insertionSort,
    List.length_insertionSort, more.length_eq, List.length_cons]

/-! ## Holds -/

section Holds

variable (unit : QuotaUnit)

/-- What the first hold of an id counts for. -/
def firstCount (holds : List OutstandingHold) (id : ReservationId) : Nat :=
  ((holds.find? fun h => h.id = id).map (OutstandingHold.counts unit)).getD 0

def holdIds (holds : List OutstandingHold) : List ReservationId :=
  (dedupHoldsById holds).map OutstandingHold.id

theorem mem_holdIds {holds : List OutstandingHold} {id : ReservationId} :
    id ∈ holdIds holds ↔ ∃ h ∈ holds, h.id = id := by
  rw [holdIds, List.mem_map]
  constructor
  · rintro ⟨h, kept, rfl⟩
    have found := (mem_keepFirst OutstandingHold.id holds h).mp kept
    exact ⟨h, List.mem_of_find?_eq_some found, rfl⟩
  · rintro ⟨h, mem, rfl⟩
    cases found : holds.find? fun g => g.id = h.id with
    | none =>
        rw [List.find?_eq_none] at found
        exact absurd (decide_eq_true rfl) (found h mem)
    | some g =>
        have same : g.id = h.id := by simpa using List.find?_some found
        refine ⟨g, ?_, same⟩
        exact (mem_keepFirst OutstandingHold.id holds g).mpr (by rw [same]; exact found)

theorem holdIds_perm {holds holds' : List OutstandingHold} (perm : holds'.Perm holds) :
    (holdIds holds').Perm (holdIds holds) := by
  have nodup : ∀ list, (holdIds list).Nodup := fun list => (keepFirst_keys OutstandingHold.id [] list).1
  rw [List.perm_ext_iff_of_nodup (nodup holds') (nodup holds)]
  intro id
  rw [mem_holdIds, mem_holdIds]
  constructor
  · rintro ⟨h, mem, same⟩
    exact ⟨h, perm.mem_iff.mp mem, same⟩
  · rintro ⟨h, mem, same⟩
    exact ⟨h, perm.mem_iff.mpr mem, same⟩

theorem heldTotal_eq (holds : List OutstandingHold) :
    heldTotal unit holds = ((holdIds holds).map (firstCount unit holds)).sum := by
  rw [heldTotal, holdIds, List.map_map]
  congr 1
  apply List.map_congr_left
  intro h kept
  have found := (mem_keepFirst OutstandingHold.id holds h).mp kept
  show h.counts unit = firstCount unit holds h.id
  rw [firstCount, found]
  rfl

/-- Of the holds of one id the least comes first in the order of what they count for. -/
theorem firstCount_least {holds holds' : List OutstandingHold} (perm : holds'.Perm holds)
    (id : ReservationId) :
    firstCount unit (holds.insertionSort (ByKey (OutstandingHold.counts unit))) id ≤
      firstCount unit holds' id := by
  rw [firstCount, firstCount, find?_insertionSort]
  cases first : ((holds.filter fun h => h.id = id).insertionSort
      (ByKey (OutstandingHold.counts unit))).head? with
  | none => exact Nat.zero_le _
  | some least =>
      obtain ⟨there, below⟩ := head_insertionSort _ first
      cases found : holds'.find? fun h => h.id = id with
      | none =>
          rw [List.find?_eq_none] at found
          obtain ⟨mem, same⟩ := List.mem_filter.mp there
          exact absurd same (found least (perm.mem_iff.mpr mem))
      | some h =>
          have own : h.id = id := by simpa using List.find?_some found
          refine below h (List.mem_filter.mpr ⟨?_, decide_eq_true own⟩)
          exact perm.mem_iff.mp (List.mem_of_find?_eq_some found)

theorem sum_map_perm_le {ids ids' : List ReservationId} (perm : ids'.Perm ids)
    {f g : ReservationId → Nat} (le : ∀ id ∈ ids, f id ≤ g id) :
    (ids.map f).sum ≤ (ids'.map g).sum := by
  rw [(perm.map g).sum_eq]
  exact List.sum_le_sum le

theorem leastHeld_le {holds holds' : List OutstandingHold} (perm : holds'.Perm holds) :
    leastHeld unit holds ≤ heldTotal unit holds' := by
  rw [leastHeld, heldTotal_eq, heldTotal_eq]
  have sorted := List.perm_insertionSort (ByKey (OutstandingHold.counts unit)) holds
  refine sum_map_perm_le (holdIds_perm (perm.trans sorted.symm)) ?_
  intro id _
  exact firstCount_least unit perm id

/-- Holds that agree come to the same in every order. -/
theorem held_perm {holds holds' : List OutstandingHold} (agree : HoldsAgree unit holds)
    (perm : holds'.Perm holds) :
    min (heldTotal unit holds') u64Max = min (heldTotal unit holds) u64Max := by
  rcases agree with same | stop
  · have counts : ∀ id ∈ holdIds holds, firstCount unit holds' id = firstCount unit holds id := by
      intro id mem
      rw [firstCount, firstCount]
      cases found : holds.find? fun h => h.id = id with
      | none =>
          obtain ⟨h, there, own⟩ := mem_holdIds.mp mem
          rw [List.find?_eq_none] at found
          exact absurd (decide_eq_true own) (found h there)
      | some h =>
          have here := List.mem_of_find?_eq_some found
          have own : h.id = id := by simpa using List.find?_some found
          cases found' : holds'.find? fun h => h.id = id with
          | none =>
              rw [List.find?_eq_none] at found'
              exact absurd (decide_eq_true own) (found' h (perm.mem_iff.mpr here))
          | some g =>
              have there := perm.mem_iff.mp (List.mem_of_find?_eq_some found')
              have own' : g.id = id := by simpa using List.find?_some found'
              exact same g there h here (own'.trans own.symm)
    rw [heldTotal_eq, heldTotal_eq, ((holdIds_perm perm).map (firstCount unit holds')).sum_eq,
      List.map_congr_left counts]
  · have less := leastHeld_le unit perm
    have less' := leastHeld_le unit (List.Perm.refl holds)
    omega

/-- Holds that do not agree come to different totals in two orders. -/
theorem held_differ {holds : List OutstandingHold} (open_ : ¬ HoldsAgree unit holds) :
    ∃ first second : List OutstandingHold, first.Perm holds ∧ second.Perm holds ∧
      min (heldTotal unit first) u64Max ≠ min (heldTotal unit second) u64Max := by
  rw [HoldsAgree, not_or, not_le] at open_
  obtain ⟨disagree, room⟩ := open_
  push Not at disagree
  obtain ⟨g, g_mem, h, h_mem, same, differ⟩ := disagree
  let sorted := holds.insertionSort (ByKey (OutstandingHold.counts unit))
  have sorted_perm : sorted.Perm holds := List.perm_insertionSort _ holds
  -- One of the two counts for more than the first hold of their id in the sorted list.
  obtain ⟨b, b_mem, dearer⟩ : ∃ b ∈ holds, firstCount unit sorted b.id < b.counts unit := by
    have front : ∀ x ∈ holds, firstCount unit sorted x.id ≤ x.counts unit := by
      intro x mem
      have cons : (x :: holds.erase x).Perm holds := (List.perm_cons_erase mem).symm
      have le := firstCount_least unit cons x.id
      rw [firstCount, firstCount, List.find?_cons_of_pos (by simp)] at le
      exact le
    have g_le := front g g_mem
    have h_le := front h h_mem
    rw [same] at g_le
    by_cases more : firstCount unit sorted h.id < h.counts unit
    · exact ⟨h, h_mem, more⟩
    · refine ⟨g, g_mem, ?_⟩
      rw [same]
      omega
  obtain ⟨front, back, split⟩ := List.append_of_mem (sorted_perm.mem_iff.mpr b_mem)
  have moved : (b :: (front ++ back)).Perm sorted := by
    rw [split]
    exact List.perm_middle.symm
  refine ⟨sorted, b :: (front ++ back), sorted_perm, moved.trans sorted_perm, ?_⟩
  have other : ∀ id, id ≠ b.id → firstCount unit (b :: (front ++ back)) id = firstCount unit sorted id := by
    intro id apart
    rw [firstCount, firstCount, split, List.find?_cons_of_neg (by simpa using Ne.symm apart),
      List.find?_append, List.find?_append, List.find?_cons_of_neg (by simpa using Ne.symm apart)]
  have own : firstCount unit (b :: (front ++ back)) b.id = b.counts unit := by
    rw [firstCount, List.find?_cons_of_pos (by simp)]
    rfl
  have grows : heldTotal unit sorted < heldTotal unit (b :: (front ++ back)) := by
    rw [heldTotal_eq, heldTotal_eq,
      ((holdIds_perm moved).map (firstCount unit (b :: (front ++ back)))).sum_eq]
    refine List.sum_lt_sum _ _ ?_ ⟨b.id, ?_, ?_⟩
    · intro id _
      by_cases here : id = b.id
      · rw [here, own]
        exact dearer.le
      · rw [other id here]
    · exact mem_holdIds.mpr ⟨b, sorted_perm.mem_iff.mpr b_mem, rfl⟩
    · rw [own]
      exact dearer
  have least : heldTotal unit sorted = leastHeld unit holds := rfl
  omega

end Holds

/-! ## Snapshots -/

section Snapshots

variable {window : QuotaWindow} {now : OffsetDateTime} {snapshots : List ProviderSnapshot}

theorem latest_newest {s : ProviderSnapshot} (latest : latestSnapshot window snapshots now = some s) :
    NewestSnapshot window now snapshots s := by
  have mem := best_mem latest
  have bound := best_bound (R := fun t u : ProviderSnapshot => t.rank ≤ u.rank)
    (fun t => le_refl t.rank) (fun t u v => le_trans) (fun t _ u _ wins => of_decide_eq_true wins)
    (fun t _ u _ loses => le_of_not_ge (of_decide_eq_false loses)) latest
  obtain ⟨there, own, past⟩ := by simpa using List.mem_filter.mp mem
  refine ⟨there, own, past, ?_⟩
  intro t t_mem t_own t_past
  exact bound t (List.mem_filter.mpr ⟨t_mem, decide_eq_true ⟨t_own, t_past⟩⟩)

theorem latest_none_iff : latestSnapshot window snapshots now = none ↔
    ∀ s ∈ snapshots, ¬ (s.windowId = window.id ∧ s.observedAt ≤ now) := by
  rw [latestSnapshot, best_eq_none_iff, List.filter_eq_nil_iff]
  simp

theorem newest_perm {snapshots' : List ProviderSnapshot} (perm : snapshots'.Perm snapshots)
    {s : ProviderSnapshot} (newest : NewestSnapshot window now snapshots' s) :
    NewestSnapshot window now snapshots s := by
  obtain ⟨mem, own, past, most⟩ := newest
  exact ⟨perm.mem_iff.mp mem, own, past, fun t there => most t (perm.mem_iff.mpr there)⟩

/-- When the newest snapshots are one, every order finds it. -/
theorem latest_perm (agree : SnapshotsAgree window now snapshots)
    {snapshots' : List ProviderSnapshot} (perm : snapshots'.Perm snapshots) :
    latestSnapshot window snapshots' now = latestSnapshot window snapshots now := by
  cases here : latestSnapshot window snapshots' now with
  | none =>
      rw [latest_none_iff] at here
      symm
      rw [latest_none_iff]
      intro s mem
      exact here s (perm.mem_iff.mpr mem)
  | some s =>
      cases there : latestSnapshot window snapshots now with
      | none =>
          obtain ⟨mem, own, past, -⟩ := latest_newest here
          exact absurd ⟨own, past⟩ (latest_none_iff.mp there s (perm.mem_iff.mp mem))
      | some t => rw [agree s t (newest_perm perm (latest_newest here)) (latest_newest there)]

/-- A newest snapshot at the end of the list is the one kept. -/
theorem latest_last {rest : List ProviderSnapshot} {s : ProviderSnapshot}
    (newest : NewestSnapshot window now (rest ++ [s]) s) :
    latestSnapshot window (rest ++ [s]) now = some s := by
  obtain ⟨-, own, past, most⟩ := newest
  have pass : decide (s.windowId = window.id ∧ s.observedAt ≤ now) = true :=
    decide_eq_true ⟨own, past⟩
  have alone : [s].filter (fun s => decide (s.windowId = window.id ∧ s.observedAt ≤ now)) = [s] := by
    rw [List.filter_singleton, pass]
    rfl
  rw [latestSnapshot, List.filter_append, alone, best_append_singleton]
  cases kept : best (fun s kept : ProviderSnapshot => decide (kept.rank ≤ s.rank))
      (rest.filter fun s => decide (s.windowId = window.id ∧ s.observedAt ≤ now)) with
  | none => rfl
  | some t =>
      obtain ⟨mem, pass⟩ := List.mem_filter.mp (best_mem kept)
      obtain ⟨t_own, t_past⟩ := of_decide_eq_true pass
      have le := most t (List.mem_append_left [s] mem) t_own t_past
      rw [prefer, if_pos (decide_eq_true le)]

/-- Newest snapshots that differ are each kept in some order. -/
theorem latest_differ (open_ : ¬ SnapshotsAgree window now snapshots) :
    ∃ first second : List ProviderSnapshot, first.Perm snapshots ∧ second.Perm snapshots ∧
      latestSnapshot window first now ≠ latestSnapshot window second now := by
  rw [SnapshotsAgree] at open_
  push Not at open_
  obtain ⟨s, t, s_newest, t_newest, differ⟩ := open_
  have last : ∀ u, NewestSnapshot window now snapshots u →
      ∃ list : List ProviderSnapshot, list.Perm snapshots ∧
        latestSnapshot window list now = some u := by
    intro u newest
    have perm : (snapshots.erase u ++ [u]).Perm snapshots :=
      (List.perm_append_singleton u (snapshots.erase u)).trans (List.perm_cons_erase newest.1).symm
    exact ⟨_, perm, latest_last (newest_perm perm.symm newest)⟩
  obtain ⟨first, first_perm, first_latest⟩ := last s s_newest
  obtain ⟨second, second_perm, second_latest⟩ := last t t_newest
  refine ⟨first, second, first_perm, second_perm, ?_⟩
  rw [first_latest, second_latest]
  intro same
  cases same
  exact differ rfl

end Snapshots

/-! ## The evaluation -/

namespace WindowState

def usageRecords : WindowState → Option Nat
  | .period state => some state.usageRecords
  | .bucket state => some state.usageRecords
  | .gauge _ => none

def outstanding : WindowState → Option Nat
  | .period state => some state.outstanding
  | .bucket state => some state.outstanding
  | .gauge _ => none

def latest : WindowState → Option ProviderSnapshot
  | .gauge state => state.latest
  | _ => none

end WindowState

/-- A result shows how many records and how much held it was made from. -/
theorem result_shows {kind : WindowKind} {now : OffsetDateTime} {usage : List QuotaUsage}
    {outstanding : Nat} {result : WindowState × BlockingStatus}
    (here : kind.result now usage outstanding = some result) :
    result.1.usageRecords = some usage.length ∧ result.1.outstanding = some outstanding := by
  cases kind <;> cases here <;> exact ⟨rfl, rfl⟩

theorem evaluate_shows {window : QuotaWindow} (countable : window.kind.isGauge = false)
    (evidence : QuotaEvidence) (now : OffsetDateTime) :
    (window.evaluate evidence now).state.usageRecords =
        some (window.counts now evidence.usage).length ∧
      (window.evaluate evidence now).state.outstanding = some (window.held evidence.holds) :=
  result_shows (evaluateKind_eq evidence now countable)

theorem evaluate_latest {window : QuotaWindow} (gauge : window.kind.isGauge = true)
    (evidence : QuotaEvidence) (now : OffsetDateTime) :
    (window.evaluate evidence now).state.latest = latestSnapshot window evidence.snapshots now := by
  have result : (evaluateKind window evidence now).1.latest =
      latestSnapshot window evidence.snapshots now := by
    rw [evaluateKind]
    cases kind : window.kind with
    | opaqueProviderSnapshot maxStalenessSecs =>
        dsimp only
        rw [evaluateGauge]
        cases latestSnapshot window evidence.snapshots now <;> rfl
    | fixedAligned _ _ _ => rw [kind] at gauge; cases gauge
    | sliding _ _ => rw [kind] at gauge; cases gauge
    | refillBucket _ _ _ _ _ => rw [kind] at gauge; cases gauge
  exact result

theorem evaluate_congr {window : QuotaWindow} {evidence evidence' : QuotaEvidence}
    {now : OffsetDateTime} (same : evaluateKind window evidence now = evaluateKind window evidence' now) :
    window.evaluate evidence now = window.evaluate evidence' now := by
  rw [QuotaWindow.evaluate, QuotaWindow.evaluate, same]

/-- No tie of the evidence is left open for the window. -/
def Settled (window : QuotaWindow) (now : OffsetDateTime) (evidence : QuotaEvidence) : Prop :=
  if window.kind.isGauge then SnapshotsAgree window now evidence.snapshots
  else (∀ u v, ¬ UsageClash window now evidence.usage u v) ∧ HoldsAgree window.unit evidence.holds

/-- The order of the evidence does not matter exactly when no tie is left open. -/
theorem order_free_iff (window : QuotaWindow) (now : OffsetDateTime) (evidence : QuotaEvidence) :
    OrderFree window now evidence ↔ Settled window now evidence := by
  rw [Settled]
  cases gauge : window.kind.isGauge with
  | true =>
      rw [if_pos rfl]
      constructor
      · intro free
        by_contra open_
        obtain ⟨first, second, first_perm, second_perm, differ⟩ := latest_differ open_
        have one := free evidence.usage evidence.holds first (.refl _) (.refl _) first_perm
        have two := free evidence.usage evidence.holds second (.refl _) (.refl _) second_perm
        have states := congrArg (fun e : WindowEvaluation => e.state.latest) (one.trans two.symm)
        rw [evaluate_latest gauge, evaluate_latest gauge] at states
        exact differ states
      · intro agree usage holds snapshots _ _ perm
        apply evaluate_congr
        have same := latest_perm agree perm
        rw [evaluateKind, evaluateKind]
        cases kind : window.kind with
        | opaqueProviderSnapshot maxStalenessSecs =>
            dsimp only
            rw [evaluateGauge, evaluateGauge, same]
        | fixedAligned _ _ _ => rw [kind] at gauge; cases gauge
        | sliding _ _ => rw [kind] at gauge; cases gauge
        | refillBucket _ _ _ _ _ => rw [kind] at gauge; cases gauge
  | false =>
      rw [if_neg (by decide)]
      constructor
      · intro free
        refine ⟨?_, ?_⟩
        · intro u v clash
          have differ : u ≠ v := by
            rintro rfl
            exact clash.not_counts (of_decide_eq_true (Bool.and_eq_true_iff.mp clash.counts).1)
          have there : v ∈ evidence.usage.erase u :=
            (List.mem_erase_of_ne (Ne.symm differ)).mpr clash.mem
          have perm : (u :: v :: (evidence.usage.erase u).erase v).Perm evidence.usage :=
            (((List.perm_cons_erase there).symm).cons u).trans (List.perm_cons_erase clash.least.1).symm
          have swapped := (List.Perm.swap u v ((evidence.usage.erase u).erase v)).trans perm
          have front : UsageClash window now (u :: v :: (evidence.usage.erase u).erase v) u v :=
            ⟨(leastUsage_perm perm u).mpr clash.least, by simp, clash.tie, clash.counts,
              clash.not_counts⟩
          have one := free _ evidence.holds evidence.snapshots perm (.refl _) (.refl _)
          have two := free _ evidence.holds evidence.snapshots swapped (.refl _) (.refl _)
          have records := congrArg (fun e : WindowEvaluation => e.state.usageRecords)
            (one.trans two.symm)
          rw [(evaluate_shows gauge _ now).1, (evaluate_shows gauge _ now).1, Option.some_inj] at records
          have more := clash_counts front
          dsimp only at records
          omega
        · by_contra open_
          obtain ⟨first, second, first_perm, second_perm, differ⟩ := held_differ window.unit open_
          have one := free evidence.usage first evidence.snapshots (.refl _) first_perm (.refl _)
          have two := free evidence.usage second evidence.snapshots (.refl _) second_perm (.refl _)
          have held := congrArg (fun e : WindowEvaluation => e.state.outstanding) (one.trans two.symm)
          rw [(evaluate_shows gauge _ now).2, (evaluate_shows gauge _ now).2, Option.some_inj] at held
          exact differ held
      · rintro ⟨apart, agree⟩ usage holds snapshots usage_perm holds_perm _
        apply evaluate_congr
        have here := evaluateKind_eq ⟨usage, holds, snapshots⟩ now gauge
        have there := evaluateKind_eq evidence now gauge
        have held : window.held holds = window.held evidence.holds :=
          held_perm window.unit agree holds_perm
        rw [← Option.some_inj, ← here, ← there]
        dsimp only
        rw [counts_perm apart usage_perm, held]

/-! ## One reservation twice -/

/-- Ten tokens in any minute. -/
def minuteWindow : QuotaWindow where
  id := ⟨0⟩
  scope := ⟨none⟩
  unit := .tokens
  kind := .sliding 60 10
  typed := by decide
  valid := by decide
  percent := nofun

/-- A reservation listed at two amounts blocks the window or not, as the list has it. -/
theorem listing_decides :
    ¬ ∀ window now evidence, OrderFree window now evidence := by
  intro free
  have same := free minuteWindow 0 ⟨[], [⟨⟨1⟩, ⟨.tokens, 3⟩⟩, ⟨⟨1⟩, ⟨.tokens, 30⟩⟩], []⟩ []
    [⟨⟨1⟩, ⟨.tokens, 30⟩⟩, ⟨⟨1⟩, ⟨.tokens, 3⟩⟩] [] (.refl _) (.swap _ _ _) (.refl _)
  have statuses := congrArg WindowEvaluation.blocking same
  exact absurd statuses (by decide +kernel)

end LibraGovernor
