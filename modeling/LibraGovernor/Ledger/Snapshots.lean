/-
# LibraGovernor.Ledger.Snapshots -- which provider reading is stored

A delivery of a reading replaces the pool's snapshot unless the stored one was observed
later.  A delivery that cannot be stored (dated after the clock, of another unit, of no
pool, of an amount or an instant no column holds) changes nothing.

So what is stored after any deliveries, in any order and however often each comes, is the
reading that was observed last (`stored_snapshot_latest`).
-/
import LibraGovernor.Ledger.SharedPool
import LibraGovernor.Lib.Run
import LibraGovernor.Lib.Transaction

namespace LibraGovernor

open Relational Transaction Transition

set_option autoImplicit false

/-- One delivery of a provider's reading. -/
structure SnapshotDelivery where
  poolId : PoolId
  observedAt : OffsetDateTime
  validUntil : Option OffsetDateTime
  reading : GaugeReading
  confidence : Confidence
  now : OffsetDateTime
  deriving DecidableEq, Repr

namespace SnapshotDelivery

def snapshot (d : SnapshotDelivery) : PoolProviderSnapshot :=
  ⟨d.poolId, d.observedAt, d.validUntil, d.reading, d.confidence⟩

/-- The call the delivery makes. -/
def ingest (s : LedgerStore) (d : SnapshotDelivery) : Except LedgerError (Unit × LedgerStore) :=
  s.ingestPoolProviderSnapshot d.poolId d.observedAt d.validUntil d.reading d.confidence d.now

/-- What the delivery leaves in the store. -/
def apply (s : LedgerStore) (d : SnapshotDelivery) : LedgerStore := commit s (d.ingest s)

/-- The stored snapshot was observed after the delivery's reading. -/
def outdated (s : LedgerStore) (d : SnapshotDelivery) : Bool :=
  (s.snapshots.find? d.poolId).any fun stored => d.observedAt < stored.observedAt

/-- The reading is not dated after the clock, and of the pool's unit. -/
structure Checked (s : LedgerStore) (d : SnapshotDelivery) : Prop where
  dated : d.observedAt ≤ d.now
  amounts : LedgerStore.checkReading d.reading = .ok ()
  unit : ∃ pool, s.quotaPool d.poolId = some pool ∧ LedgerStore.readingUnitMismatch d.reading pool = none

/-- The reading can be stored: it passes the checks, and the columns hold its instants. -/
structure Valid (s : LedgerStore) (d : SnapshotDelivery) : Prop extends Checked s d where
  observed : d.observedAt.formattable = true
  until_ : ∀ t, d.validUntil = some t → t.formattable = true
  clock : d.now.formattable = true

variable {s : LedgerStore} {d : SnapshotDelivery}

/-! ## One delivery -/

theorem rfc3339_ok_iff (t u : OffsetDateTime) : rfc3339 t = .ok u ↔ t.formattable = true ∧ t = u := by
  unfold rfc3339
  split
  · rename_i fits
    simp [fits]
  · rename_i fits
    simp [fits]

theorem mapM_rfc3339_ok {t u : Option OffsetDateTime} (done : t.mapM rfc3339 = .ok u) :
    t = u ∧ ∀ v, t = some v → v.formattable = true := by
  cases t with
  | none =>
      cases done
      exact ⟨rfl, nofun⟩
  | some v =>
      obtain ⟨w, fits, done⟩ := (bind_eq_ok_iff _ _ _).mp done
      obtain ⟨stamped, rfl⟩ := (rfc3339_ok_iff v w).mp fits
      cases done
      refine ⟨rfl, ?_⟩
      rintro _ ⟨⟩
      exact stamped

/-- A delivery that is answered is outdated and changes nothing, or is valid and takes the
stored one's place. -/
theorem ingest_ok {s' : LedgerStore} (done : d.ingest s = .ok ((), s')) :
    d.Checked s ∧ ((s' = s ∧ d.outdated s = true) ∨
      (d.Valid s ∧ d.outdated s = false ∧ s' = { s with
        snapshots := s.snapshots.upsert d.snapshot
          (fun stored => { d.snapshot with poolId := stored.poolId }) fun _ => rfl })) := by
  unfold ingest LedgerStore.ingestPoolProviderSnapshot at done
  split at done
  · cases done
  rename_i dated
  obtain ⟨_, amounts, done⟩ := (bind_eq_ok_iff _ _ _).mp done
  split at done
  · cases done
  rename_i pool found
  split at done
  · cases done
  rename_i matched
  have checked : d.Checked s := ⟨not_lt.mp dated, amounts, pool, found, matched⟩
  refine ⟨checked, ?_⟩
  split at done
  · rename_i later
    cases done
    exact .inl ⟨rfl, later⟩
  rename_i newer
  obtain ⟨observed, stamp, done⟩ := (bind_eq_ok_iff _ _ _).mp done
  obtain ⟨validUntil, until_, done⟩ := (bind_eq_ok_iff _ _ _).mp done
  obtain ⟨clock, stamped, done⟩ := (bind_eq_ok_iff _ _ _).mp done
  obtain ⟨fits, rfl⟩ := (rfc3339_ok_iff _ _).mp stamp
  obtain ⟨rfl, fit⟩ := mapM_rfc3339_ok until_
  cases done
  exact .inr ⟨⟨checked, fits, fit, ((rfc3339_ok_iff _ _).mp stamped).1⟩,
    Bool.eq_false_iff.mpr newer, rfl⟩

/-- A valid delivery is answered. -/
theorem Valid.ingested (valid : d.Valid s) : ∃ s', d.ingest s = .ok ((), s') := by
  obtain ⟨pool, found, matched⟩ := valid.unit
  have stamps : ∀ t : OffsetDateTime, t.formattable = true → rfc3339 t = .ok t := by
    intro t fits
    exact (rfc3339_ok_iff t t).mpr ⟨fits, rfl⟩
  have until_ : d.validUntil.mapM rfc3339 = .ok d.validUntil := by
    cases given : d.validUntil with
    | none => rfl
    | some t =>
        have fits := valid.until_ t given
        change (rfc3339 t >>= fun u => pure (some u)) = _
        rw [stamps t fits]
        rfl
  unfold ingest LedgerStore.ingestPoolProviderSnapshot
  rw [if_neg (not_lt.mpr valid.dated), valid.amounts, found]
  simp only [matched]
  by_cases later : (s.snapshots.find? d.poolId).any fun stored => d.observedAt < stored.observedAt
  · exact ⟨s, by rw [if_pos later]; rfl⟩
  · rw [if_neg later, stamps _ valid.observed, until_, stamps _ valid.clock]
    exact ⟨_, rfl⟩

theorem apply_of_invalid (invalid : ¬ d.Valid s) : d.apply s = s := by
  unfold apply
  cases result : d.ingest s with
  | error e => rfl
  | ok next =>
      obtain ⟨⟨⟩, s'⟩ := next
      rcases (ingest_ok result).2 with ⟨same, -⟩ | ⟨valid, -⟩
      · exact same
      · exact absurd valid invalid

/-- What a valid delivery leaves stored. -/
theorem apply_find? (valid : d.Valid s) (poolId : PoolId) :
    (d.apply s).snapshots.find? poolId =
      if poolId = d.poolId ∧ d.outdated s = false then some d.snapshot
      else s.snapshots.find? poolId := by
  obtain ⟨s', done⟩ := valid.ingested
  rw [apply, done, commit_ok]
  rcases (ingest_ok done).2 with ⟨rfl, later⟩ | ⟨-, newer, rfl⟩
  · rw [if_neg ?_]
    rintro ⟨-, newer⟩
    rw [newer] at later
    cases later
  · change (s.snapshots.upsert _ _ _).find? poolId = _
    rw [Table.find?_upsert]
    change (if poolId = d.poolId then _ else _) = _
    by_cases here : poolId = d.poolId
    · rw [if_pos here, if_pos (And.intro here newer)]
      cases found : s.snapshots.find? poolId with
      | none => rfl
      | some stored =>
          have own := ((Table.find?_eq_some_iff _ _ _).mp found).2
          rw [Option.map_some, Option.getD_some, own, here]
          rfl
    · rw [if_neg here, if_neg fun both : poolId = d.poolId ∧ _ => here both.1]

theorem apply_quotaPools (s : LedgerStore) (d : SnapshotDelivery) :
    (d.apply s).quotaPools = s.quotaPools := by
  refine commit_of (P := fun next : LedgerStore => next.quotaPools = s.quotaPools) rfl ?_
  rintro ⟨⟩ next done
  rcases (ingest_ok done).2 with ⟨rfl, -⟩ | ⟨-, -, rfl⟩
  · rfl
  · rfl

theorem valid_apply (d d' : SnapshotDelivery) : d'.Valid (d.apply s) ↔ d'.Valid s := by
  have same : (d.apply s).quotaPool d'.poolId = s.quotaPool d'.poolId := by
    rw [LedgerStore.quotaPool, apply_quotaPools]
    rfl
  constructor
  · rintro ⟨⟨dated, amounts, unit⟩, observed, until_, clock⟩
    exact ⟨⟨dated, amounts, same ▸ unit⟩, observed, until_, clock⟩
  · rintro ⟨⟨dated, amounts, unit⟩, observed, until_, clock⟩
    exact ⟨⟨dated, amounts, same ▸ unit⟩, observed, until_, clock⟩

/-! ## Any order of deliveries -/

/-- The readings of the pool: the stored one, and those of the valid deliveries. -/
def Reading (s : LedgerStore) (deliveries : List SnapshotDelivery) (poolId : PoolId)
    (c : PoolProviderSnapshot) : Prop :=
  s.snapshots.find? poolId = some c ∨
    ∃ d ∈ deliveries, d.Valid s ∧ d.poolId = poolId ∧ d.snapshot = c

/-- The readings after a delivery are among those before it. -/
theorem Reading.of_apply {deliveries : List SnapshotDelivery} {poolId : PoolId}
    {c : PoolProviderSnapshot} (reading : Reading (d.apply s) deliveries poolId c) :
    Reading s (d :: deliveries) poolId c := by
  rcases reading with stored | ⟨d', mem, valid, pool, same⟩
  · by_cases valid : d.Valid s
    · rw [apply_find? valid] at stored
      split at stored
      · rename_i here
        exact .inr ⟨d, List.mem_cons_self, valid, here.1.symm, Option.some.inj stored⟩
      · exact .inl stored
    · rw [apply_of_invalid valid] at stored
      exact .inl stored
  · exact .inr ⟨d', List.mem_cons_of_mem d mem, (valid_apply d d').mp valid, pool, same⟩

/-- The reading observed last is still one of those after a delivery. -/
theorem Reading.apply_of_latest {deliveries : List SnapshotDelivery} {poolId : PoolId}
    {c : PoolProviderSnapshot} (reading : Reading s (d :: deliveries) poolId c)
    (latest : ∀ c', Reading s (d :: deliveries) poolId c' → c'.observedAt ≤ c.observedAt)
    (distinct : ∀ c', Reading s (d :: deliveries) poolId c' → c'.observedAt = c.observedAt → c' = c) :
    Reading (d.apply s) deliveries poolId c := by
  rcases reading with stored | ⟨d', mem, valid, pool, same⟩
  · -- What replaces the stored reading was not observed before it, so it is the same one.
    by_cases valid : d.Valid s
    · refine .inl ?_
      rw [apply_find? valid]
      split
      · rename_i here
        have own : Reading s (d :: deliveries) poolId d.snapshot :=
          .inr ⟨d, List.mem_cons_self, valid, here.1.symm, rfl⟩
        have newer := here.2
        rw [outdated, ← here.1, stored, Option.any_some, decide_eq_false_iff_not, not_lt] at newer
        rw [distinct _ own (le_antisymm (latest _ own) newer)]
      · exact stored
    · rw [apply_of_invalid valid]
      exact .inl stored
  · rcases List.mem_cons.mp mem with rfl | later
    · have newer : d'.outdated s = false := by
        rw [outdated]
        cases found : s.snapshots.find? d'.poolId with
        | none => rfl
        | some stored =>
            have before := latest stored (.inl (pool ▸ found))
            rw [Option.any_some, decide_eq_false_iff_not, not_lt]
            rw [← same] at before
            exact before
      refine .inl ?_
      rw [apply_find? valid, if_pos (And.intro pool.symm newer), same]
    · exact .inr ⟨d', later, (valid_apply d d').mpr valid, pool, same⟩

end SnapshotDelivery

open SnapshotDelivery in
/-- After any deliveries the pool's snapshot is the reading observed last, and a delivery
that cannot be stored changes nothing. -/
theorem stored_snapshot_latest (s : LedgerStore) (deliveries : List SnapshotDelivery) :
    (∀ (poolId : PoolId) (c : PoolProviderSnapshot),
      (∀ c₁ c₂, Reading s deliveries poolId c₁ → Reading s deliveries poolId c₂ →
        c₁.observedAt = c₂.observedAt → c₁ = c₂) →
      Reading s deliveries poolId c →
      (∀ c', Reading s deliveries poolId c' → c'.observedAt ≤ c.observedAt) →
      (run apply s deliveries).snapshots.find? poolId = some c) ∧
    ∀ d : SnapshotDelivery,
      d.now < d.observedAt ∨ s.quotaPool d.poolId = none ∨
        (∃ pool, s.quotaPool d.poolId = some pool ∧
          LedgerStore.readingUnitMismatch d.reading pool ≠ none) →
      (∃ e, d.ingest s = .error e) ∧ d.apply s = s := by
  refine ⟨?_, ?_⟩
  · intro poolId c distinct
    induction deliveries generalizing s with
    | nil =>
        rintro (stored | ⟨d, mem, -⟩) -
        · exact stored
        · cases mem
    | cons d deliveries ih =>
        intro reading latest
        refine ih (d.apply s) ?_ ?_ ?_
        · intro c₁ c₂ one two
          exact distinct c₁ c₂ one.of_apply two.of_apply
        · exact reading.apply_of_latest latest fun c' other => distinct c' c other reading
        · intro c' other
          exact latest c' other.of_apply
  · intro d refused
    have unchecked : ¬ d.Checked s := by
      rintro ⟨dated, -, pool, found, matched⟩
      rcases refused with future | unknown | ⟨pool', found', differs⟩
      · exact absurd dated (not_le.mpr future)
      · rw [unknown] at found
        cases found
      · cases found.symm.trans found'
        exact differs matched
    refine ⟨?_, apply_of_invalid fun valid => unchecked valid.toChecked⟩
    cases result : d.ingest s with
    | error e => exact ⟨e, rfl⟩
    | ok next => exact absurd (ingest_ok result).1 unchecked

/-! ## Poles -/

def gaugedPool : PoolId := ⟨"plan"⟩

/-- A pool of a thousand requests. -/
def gaugedStore : LedgerStore :=
  { LedgerStore.empty with
    quotaPools := ⟨[⟨gaugedPool, .requests, 1000, 0, 0⟩], by decide⟩
    pooled := by
      intro r mem
      cases mem }

/-- A reading observed at a second, delivered at second ten. -/
def gaugedAt (second : Int) : SnapshotDelivery :=
  { poolId := gaugedPool, observedAt := second * 1000000000, validUntil := none
    reading := .used ⟨.requests, second.toNat⟩ none, confidence := .high, now := 10000000000 }

theorem gaugedAt_valid {second : Int} (there : second ∈ [1, 2, 3]) :
    (gaugedAt second).Valid gaugedStore := by
  simp only [List.mem_cons, List.not_mem_nil, or_false] at there
  refine ⟨⟨?_, ?_, ⟨⟨gaugedPool, .requests, 1000, 0, 0⟩, rfl, rfl⟩⟩, ?_, nofun, ?_⟩
  · rcases there with rfl | rfl | rfl <;> decide
  · rcases there with rfl | rfl | rfl <;> decide
  · rcases there with rfl | rfl | rfl <;> decide
  · show OffsetDateTime.formattable 10000000000 = true
    decide

/-- The third second's reading stays, delivered twice between older ones. -/
theorem third_second_stored :
    (run SnapshotDelivery.apply gaugedStore
      [gaugedAt 2, gaugedAt 3, gaugedAt 1, gaugedAt 3, gaugedAt 2]).snapshots.find? gaugedPool =
        some (gaugedAt 3).snapshot := by
  have readings : ∀ c, SnapshotDelivery.Reading gaugedStore
      [gaugedAt 2, gaugedAt 3, gaugedAt 1, gaugedAt 3, gaugedAt 2] gaugedPool c →
      c ∈ [(gaugedAt 1).snapshot, (gaugedAt 2).snapshot, (gaugedAt 3).snapshot] := by
    rintro c (stored | ⟨d, mem, -, -, rfl⟩)
    · cases stored
    · have all : ∀ d ∈ [gaugedAt 2, gaugedAt 3, gaugedAt 1, gaugedAt 3, gaugedAt 2],
          d.snapshot ∈ [(gaugedAt 1).snapshot, (gaugedAt 2).snapshot, (gaugedAt 3).snapshot] := by
        decide
      exact all d mem
  refine (stored_snapshot_latest gaugedStore _).1 gaugedPool _ ?_ ?_ ?_
  · intro c₁ c₂ one two
    have distinct : ∀ c₁ ∈ [(gaugedAt 1).snapshot, (gaugedAt 2).snapshot, (gaugedAt 3).snapshot],
        ∀ c₂ ∈ [(gaugedAt 1).snapshot, (gaugedAt 2).snapshot, (gaugedAt 3).snapshot],
          c₁.observedAt = c₂.observedAt → c₁ = c₂ := by decide
    exact distinct c₁ (readings c₁ one) c₂ (readings c₂ two)
  · exact .inr ⟨gaugedAt 3, by decide, gaugedAt_valid (by decide), rfl, rfl⟩
  · intro c reading
    have latest : ∀ c ∈ [(gaugedAt 1).snapshot, (gaugedAt 2).snapshot, (gaugedAt 3).snapshot],
        c.observedAt ≤ (gaugedAt 3).snapshot.observedAt := by decide
    exact latest c (readings c reading)

end LibraGovernor
