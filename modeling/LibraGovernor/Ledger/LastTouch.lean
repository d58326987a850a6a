/-
# LibraGovernor.Ledger.LastTouch -- when a task's envelope was last written

`budgetSnapshotWithLastTouch` reads a task's figures and the latest instant of any write to them.
Over the reservation rows that latest instant is the maximum of texts, over the budget's own it is
the later of two instants.  A fraction of a second is written without its trailing zeros, so within
one second a text sorts after the texts it is a beginning of, `Z` apart: there the earlier instant
is reported (`textLe_iff_of_lt`), and only there (`lastTouch_iff`).
-/
import LibraGovernor.Lib.Best
import LibraGovernor.Lib.Decimal
import LibraGovernor.Ledger.TaskLedger

namespace LibraGovernor

open Scan

set_option autoImplicit false

/-! ## The text of a fraction -/

namespace OffsetDateTime

def nanoDigits (nanos : Nat) : List Char :=
  (List.range 9).map fun i => Nat.digitChar (nanos / 10 ^ (8 - i) % 10)

/-- The digits of the fraction as written: none on a whole second. -/
def writtenFraction (t : OffsetDateTime) : List Char := Decimal.trimmed (nanoDigits t.subsecond)

theorem fractionText_eq (nanos : Nat) : fractionText nanos =
    if nanos = 0 then ['Z'] else '.' :: (Decimal.trimmed (nanoDigits nanos) ++ ['Z']) := rfl

theorem digitChar_isDigit {n : Nat} (lt : n < 10) :
    (Nat.digitChar n).isDigit = true ∧ (Nat.digitChar n).toNat - 48 = n := by
  have all : ∀ n < 10, (Nat.digitChar n).isDigit = true ∧ (Nat.digitChar n).toNat - 48 = n := by decide
  exact all n lt

theorem nanoDigits_isDigit (nanos : Nat) : ∀ c ∈ nanoDigits nanos, c.isDigit = true := by
  intro c mem
  obtain ⟨i, -, rfl⟩ := List.mem_map.mp mem
  exact (digitChar_isDigit (Nat.mod_lt _ (by decide))).1

theorem length_nanoDigits (nanos : Nat) : (nanoDigits nanos).length = 9 := by
  rw [nanoDigits, List.length_map, List.length_range]

/-- The digits of the last `k` places, in order. -/
theorem value_places (n k : Nat) :
    Decimal.value ((List.range k).map fun i => Nat.digitChar (n / 10 ^ (k - 1 - i) % 10)) =
      n % 10 ^ k := by
  induction k with
  | zero => rw [pow_zero, Nat.mod_one]; rfl
  | succ k ih =>
      have digit : (Nat.digitChar (n / 10 ^ k % 10)).toNat - 48 = n / 10 ^ k % 10 :=
        (digitChar_isDigit (Nat.mod_lt _ (by decide))).2
      have rest : (fun i => Nat.digitChar (n / 10 ^ (k + 1 - 1 - i) % 10)) ∘ Nat.succ =
          fun i => Nat.digitChar (n / 10 ^ (k - 1 - i) % 10) := by
        funext i
        rw [Function.comp_apply, show k + 1 - 1 - i.succ = k - 1 - i by omega]
      rw [List.range_succ_eq_map, List.map_cons, List.map_map, rest, Decimal.value_cons, ih,
        List.length_map, List.length_range, Nat.sub_zero, Nat.add_sub_cancel, digit, Nat.mod_pow_succ,
        Nat.add_comm]

theorem value_nanoDigits {nanos : Nat} (lt : nanos < 1000000000) :
    Decimal.value (nanoDigits nanos) = nanos := by
  rw [nanoDigits, value_places nanos 9]
  exact Nat.mod_eq_of_lt lt

theorem isDigit_lt_Z {c : Char} (digit : c.isDigit = true) : c < 'Z' := by
  have bounds := Decimal.digit_lt digit
  rw [Char.lt_def, UInt32.lt_iff_toNat_lt]
  show c.toNat < 90
  omega

theorem subsecond_lt (t : OffsetDateTime) : t.subsecond < 1000000000 := by
  have cut : ∀ n : Int, (n % 1000000000).toNat < 1000000000 := by omega
  exact cut t

/-- Within a second, the later of two instants sorts after the earlier exactly where the fraction of
the earlier is not a beginning of its own. -/
theorem textLe_iff_of_lt {t m : OffsetDateTime} (same : t.seconds = m.seconds)
    (lt : t.subsecond < m.subsecond) :
    t.textLe m = true ↔ ¬ t.writtenFraction <+: m.writtenFraction := by
  have some_ : m.subsecond ≠ 0 := by omega
  rw [textLe, if_pos same, decide_eq_true_iff, List.le, not_iff_not, fractionText_eq m.subsecond, if_neg some_,
    fractionText_eq]
  by_cases zero : t.subsecond = 0
  · have whole : t.writtenFraction = [] := by
      rw [writtenFraction, zero]
      decide
    rw [if_pos zero, whole, List.cons_lt_cons_iff]
    exact ⟨fun _ => List.nil_prefix, fun _ => .inl (by decide)⟩
  · have digits : nanoDigits t.subsecond < nanoDigits m.subsecond := by
      rw [Decimal.lt_iff_value_lt (nanoDigits_isDigit _) (nanoDigits_isDigit _)
        ((length_nanoDigits _).trans (length_nanoDigits _).symm), value_nanoDigits (subsecond_lt t),
        value_nanoDigits (subsecond_lt m)]
      exact lt
    have order := Decimal.trimmed_lt_iff (fun c => isDigit_lt_Z) (nanoDigits_isDigit t.subsecond)
      (nanoDigits_isDigit m.subsecond) ((length_nanoDigits _).trans (length_nanoDigits _).symm) digits
    rw [if_neg zero, List.cons_lt_cons_iff, writtenFraction, writtenFraction, ← order]
    simp

/-- Two instants of a second are not written alike. -/
theorem not_textLe_of_lt {t m : OffsetDateTime} (same : t.seconds = m.seconds)
    (lt : t.subsecond < m.subsecond) (before : t.textLe m = true) : ¬ m.textLe t = true := by
  intro after
  have apart := (textLe_iff_of_lt same lt).mp before
  rw [textLe, if_pos same, decide_eq_true_iff] at before
  rw [textLe, if_pos same.symm, decide_eq_true_iff] at after
  have alike := List.le_antisymm before after
  rw [fractionText_eq, fractionText_eq, if_neg (show m.subsecond ≠ 0 by omega)] at alike
  split at alike
  · have first : 'Z' = '.' := (List.cons.inj alike).1
    revert first
    decide
  · have equal : t.writtenFraction = m.writtenFraction :=
      List.append_cancel_right (List.cons.inj alike).2
    exact apart (equal ▸ List.prefix_rfl)

theorem subsecond_lt_of_lt {t m : OffsetDateTime} (lt : t < m) (same : t.seconds = m.seconds) :
    t.subsecond < m.subsecond := by
  have cut : ∀ a b : Int, a < b → a / 1000000000 = b / 1000000000 →
      (a % 1000000000).toNat < (b % 1000000000).toNat := by omega
  exact cut t m lt same

end OffsetDateTime

/-! ## The snapshot -/

/-- `BudgetSnapshot`. -/
structure BudgetSnapshot where
  kind : ResourceKind
  hardLimit : Int
  granted : Int
  completionReserve : Int
  settled : Int
  active : Int
  reservationCount : Nat
  turnCeiling : Option Int
  deriving DecidableEq, Repr

/-- A task ledger with the `updated_at` column of its budgets. -/
structure StampedLedger where
  ledger : TaskLedger
  updatedAt : TaskId → OffsetDateTime

namespace StampedLedger

def reservationsOf (s : StampedLedger) (taskId : TaskId) : List Reservation :=
  s.ledger.reservations.rows.filter fun r => r.taskId = taskId

/-- The three columns of the union; what is `NULL` is not counted. -/
def touches (s : StampedLedger) (taskId : TaskId) : List OffsetDateTime :=
  (s.reservationsOf taskId).map Reservation.createdAt ++
    ((s.reservationsOf taskId).filterMap Reservation.settledAt ++
      (s.reservationsOf taskId).filterMap Reservation.releasedAt)

/-- `MAX(touch)`, of the texts. -/
def latestReservationTouch (s : StampedLedger) (taskId : TaskId) : Option OffsetDateTime :=
  best (fun t kept => !t.textLe kept) (s.touches taskId)

def lastTouchedAt (s : StampedLedger) (taskId : TaskId) : OffsetDateTime :=
  match s.latestReservationTouch taskId with
  | some touch => max (s.updatedAt taskId) touch
  | none => s.updatedAt taskId

def budgetSnapshotWithLastTouch (s : StampedLedger) (taskId : TaskId) :
    Option (BudgetSnapshot × Option OffsetDateTime) :=
  (s.ledger.taskBudget taskId).map fun budget =>
    ({ kind := budget.resourceKind
       hardLimit := budget.hardLimit
       granted := s.ledger.renewedCapacity taskId
       completionReserve := budget.completionReserve
       settled := s.ledger.settled taskId
       active := s.ledger.active taskId
       reservationCount := (s.reservationsOf taskId).length
       turnCeiling := budget.turnCeilingIfScoped.map ResourceAmount.value },
      some (s.lastTouchedAt taskId))

end StampedLedger

inductive LedgerFreshnessUnknown where
  | noTimestamp
  | timestampInFuture
  deriving DecidableEq, Repr

inductive LedgerFreshness where
  | fresh (ageSecs : Nat)
  | stale (ageSecs : Nat)
  | unknown (reason : LedgerFreshnessUnknown)
  deriving DecidableEq, Repr

def ledgerFreshness (lastTouchedAt : Option OffsetDateTime) (now : OffsetDateTime)
    (maxStalenessSecs : Nat) : LedgerFreshness :=
  match lastTouchedAt with
  | none => .unknown .noTimestamp
  | some touched =>
      if now < touched then .unknown .timestampInFuture
      else
        let age := ((now - touched) / OffsetDateTime.nanosPerSecond).toNat
        if maxStalenessSecs < age then .stale age else .fresh age

/-! ## Which touch is reported -/

namespace StampedLedger

variable {s : StampedLedger} {taskId : TaskId}

/-- Every write to the envelope. -/
def writes (s : StampedLedger) (taskId : TaskId) : List OffsetDateTime :=
  s.updatedAt taskId :: s.touches taskId

/-- The reported touch is the latest of the writes, and where one of them is fresh the envelope is
not reported stale. -/
structure ReportsLatest (s : StampedLedger) (taskId : TaskId) : Prop where
  latest : ∃ snapshot t, s.budgetSnapshotWithLastTouch taskId = some (snapshot, some t) ∧
    t ∈ s.writes taskId ∧ ∀ u ∈ s.writes taskId, u ≤ t
  fresh : ∀ snapshot reported, s.budgetSnapshotWithLastTouch taskId = some (snapshot, reported) →
    ∀ m ∈ s.writes taskId, ∀ now maxStalenessSecs age,
      ledgerFreshness (some m) now maxStalenessSecs = .fresh age →
      ∀ other, ledgerFreshness reported now maxStalenessSecs ≠ .stale other

/-- A row instant in the same second as the latest one, before it, whose fraction as written is a
beginning of the latest one's. -/
def Shadowed (s : StampedLedger) (taskId : TaskId) : Prop :=
  ∃ m ∈ s.touches taskId, (∀ u ∈ s.touches taskId, u ≤ m) ∧ s.updatedAt taskId < m ∧
    ∃ t ∈ s.touches taskId, t < m ∧ t.seconds = m.seconds ∧ t.writtenFraction <+: m.writtenFraction

instance : Decidable (s.Shadowed taskId) := inferInstanceAs (Decidable (∃ _ ∈ _, _))

theorem latestReservationTouch_spec {w : OffsetDateTime}
    (found : s.latestReservationTouch taskId = some w) :
    w ∈ s.touches taskId ∧ ∀ t ∈ s.touches taskId, t.textLe w = true := by
  refine ⟨best_mem found, ?_⟩
  refine best_bound (R := fun a b : OffsetDateTime => a.textLe b = true) ?_ ?_ ?_ ?_ found
  · intro t
    rcases t.textLe_total t with le | le
    · exact le
    · exact le
  · exact fun x y z => OffsetDateTime.textLe_trans
  · intro x _ y _ better
    rw [Bool.not_eq_true'] at better
    rcases x.textLe_total y with le | le
    · rw [le] at better
      cases better
    · exact le
  · intro x _ y _ worse
    rwa [Bool.not_eq_false'] at worse

theorem lastTouchedAt_eq : s.lastTouchedAt taskId =
    match s.latestReservationTouch taskId with
    | some touch => max (s.updatedAt taskId) touch
    | none => s.updatedAt taskId := rfl

theorem lastTouchedAt_mem : s.lastTouchedAt taskId ∈ s.writes taskId := by
  rw [lastTouchedAt_eq, writes]
  cases found : s.latestReservationTouch taskId with
  | none => exact List.mem_cons_self
  | some w =>
      have mem := (latestReservationTouch_spec found).1
      dsimp only
      rcases max_choice (s.updatedAt taskId) w with same | same
      · rw [same]
        exact List.mem_cons_self
      · rw [same]
        exact List.mem_cons_of_mem _ mem

theorem exists_latest {ts : List OffsetDateTime} (some_ : ts ≠ []) : ∃ m ∈ ts, ∀ u ∈ ts, u ≤ m := by
  cases found : best (fun t kept : OffsetDateTime => decide (kept < t)) ts with
  | none => exact absurd ((best_eq_none_iff ts).mp found) some_
  | some m =>
      refine ⟨m, best_mem found, best_bound (fun t => le_refl t) (fun _ _ _ => le_trans) ?_ ?_ found⟩
      · intro x _ y _ later
        exact le_of_lt (of_decide_eq_true later)
      · intro x _ y _ early
        exact not_lt.mp (of_decide_eq_false early)

theorem not_shadowed_of_latest (latest : ∀ u ∈ s.writes taskId, u ≤ s.lastTouchedAt taskId) :
    ¬ s.Shadowed taskId := by
  intro shadowed
  obtain ⟨m, m_mem, m_last, newer, t, t_mem, lt, same, front⟩ := shadowed
  have m_le := latest m (List.mem_cons_of_mem _ m_mem)
  rw [lastTouchedAt_eq] at m_le
  cases found : s.latestReservationTouch taskId with
  | none =>
      rw [found] at m_le
      exact absurd newer (not_lt.mpr m_le)
  | some w =>
      obtain ⟨w_mem, w_last⟩ := latestReservationTouch_spec found
      rw [found] at m_le
      have w_eq : w = m := by
        rcases le_max_iff.mp m_le with old | le
        · exact absurd newer (not_lt.mpr old)
        · exact le_antisymm (m_last w w_mem) le
      have text := w_last t t_mem
      rw [w_eq] at text
      exact (OffsetDateTime.textLe_iff_of_lt same (OffsetDateTime.subsecond_lt_of_lt lt same)).mp text front

theorem latest_of_not_shadowed (clear : ¬ s.Shadowed taskId) :
    ∀ u ∈ s.writes taskId, u ≤ s.lastTouchedAt taskId := by
  rw [lastTouchedAt_eq, writes]
  cases found : s.latestReservationTouch taskId with
  | none =>
      have empty := (best_eq_none_iff _).mp found
      rw [empty]
      intro u mem
      exact le_of_eq (List.mem_singleton.mp mem)
  | some w =>
      obtain ⟨w_mem, w_last⟩ := latestReservationTouch_spec found
      obtain ⟨m, m_mem, m_last⟩ := exists_latest (List.ne_nil_of_mem w_mem)
      have m_le : m ≤ max (s.updatedAt taskId) w := by
        by_contra past
        obtain ⟨newer, lt⟩ := max_lt_iff.mp (not_le.mp past)
        have m_text := w_last m m_mem
        have same : w.seconds = m.seconds :=
          le_antisymm (OffsetDateTime.seconds_mono (le_of_lt lt)) (OffsetDateTime.seconds_le_of_textLe m_text)
        have within := OffsetDateTime.subsecond_lt_of_lt lt same
        have apart : ¬ w.writtenFraction <+: m.writtenFraction := fun front =>
          clear ⟨m, m_mem, m_last, newer, w, w_mem, lt, same, front⟩
        exact OffsetDateTime.not_textLe_of_lt same within
          ((OffsetDateTime.textLe_iff_of_lt same within).mpr apart) m_text
      intro u mem
      rcases List.mem_cons.mp mem with rfl | touched
      · exact le_max_left _ w
      · exact le_trans (m_last u touched) m_le

theorem ledgerFreshness_fresh {t now : OffsetDateTime} {maxStalenessSecs age : Nat}
    (fresh : ledgerFreshness (some t) now maxStalenessSecs = .fresh age) :
    t ≤ now ∧ ((now - t) / OffsetDateTime.nanosPerSecond).toNat ≤ maxStalenessSecs := by
  simp only [ledgerFreshness] at fresh
  split at fresh
  · cases fresh
  rename_i past
  split at fresh
  · cases fresh
  rename_i young
  exact ⟨not_lt.mp past, not_lt.mp young⟩

/-- A later touch is no staler. -/
theorem ledgerFreshness_mono {m t now : OffsetDateTime} {maxStalenessSecs age : Nat} (le : m ≤ t)
    (fresh : ledgerFreshness (some m) now maxStalenessSecs = .fresh age) (other : Nat) :
    ledgerFreshness (some t) now maxStalenessSecs ≠ .stale other := by
  obtain ⟨-, young⟩ := ledgerFreshness_fresh fresh
  have younger : ∀ a b n : Int, a ≤ b → ((n - b) / 1000000000).toNat ≤ ((n - a) / 1000000000).toNat := by
    omega
  have age_le := le_trans (younger m t now le) young
  intro stale
  simp only [ledgerFreshness] at stale
  split at stale
  · cases stale
  split at stale
  · rename_i old
    exact absurd old (not_lt.mpr age_le)
  · cases stale

/-- The latest write is reported exactly when no row instant shadows it. -/
theorem lastTouch_iff {budget : TaskBudget} (found : s.ledger.taskBudget taskId = some budget) :
    s.ReportsLatest taskId ↔ ¬ s.Shadowed taskId := by
  constructor
  · intro reports
    obtain ⟨snapshot, t, reported, -, latest⟩ := reports.latest
    rw [budgetSnapshotWithLastTouch, found] at reported
    cases reported
    exact not_shadowed_of_latest latest
  · intro clear
    have latest := latest_of_not_shadowed clear
    constructor
    · obtain ⟨snapshot, shown⟩ : ∃ snapshot, s.budgetSnapshotWithLastTouch taskId =
          some (snapshot, some (s.lastTouchedAt taskId)) := by
        rw [budgetSnapshotWithLastTouch, found]
        exact ⟨_, rfl⟩
      exact ⟨snapshot, s.lastTouchedAt taskId, shown, lastTouchedAt_mem, latest⟩
    · intro snapshot reported shown m mem now maxStalenessSecs age fresh other
      rw [budgetSnapshotWithLastTouch, found] at shown
      cases shown
      exact ledgerFreshness_mono (latest m mem) fresh other

/-! ## Half a second -/

def touchedTask : TaskId := ⟨11⟩

def touchedPolicy : Policy := ⟨⟨.tokens, 1000⟩, ⟨.tokens, 1000⟩, none, none⟩

/-- A budget and one lease, made on the second, settled at the given nanosecond of it. -/
def settledWithin (nanos : Int) : StampedLedger where
  ledger :=
    { TaskLedger.empty with
      taskBudgets := (Relational.Table.empty.insert? ⟨touchedTask, .tokens, 1000, 0, 0, .policyTarget,
        .lifetimeBounded, touchedPolicy⟩).getD .empty
      reservations := (Relational.Table.empty.insert? ⟨⟨1⟩, touchedTask, "s", none, .optionalWork, .tokens,
        100, 0, .settled, some 90, some true, "k", 1767225600000000000, 1767229200000000000,
        some (1767225600000000000 + nanos), none, .forTask touchedTask, none, .workHold, false⟩).getD .empty }
  updatedAt _ := 1767225599000000000

theorem settledNextSecond_latest : (settledWithin 1500000000).ReportsLatest touchedTask :=
  (lastTouch_iff rfl).mpr (by decide)

/-- Settled half a second after it was made, the lease's own beginning is reported. -/
theorem settledSameSecond_shadowed : ¬ (settledWithin 500000000).ReportsLatest touchedTask := by
  intro reports
  obtain ⟨snapshot, t, shown, -, latest⟩ := reports.latest
  have touch : t = (settledWithin 500000000).lastTouchedAt touchedTask := by
    cases shown
    rfl
  rw [touch] at latest
  exact not_shadowed_of_latest latest (by decide)

end StampedLedger

end LibraGovernor
