/-
# LibraGovernor.Daemon.TranscriptFamily -- the rows of one subagent's transcript

The rows under one family's prefix are settled charges, so no later operation moves
them; `Aside` says that a write leaves a family alone.  `covered` is how much of the
family's file is accounted for: what is booked, plus what the gateway's mark leaves to
the gateway.  `FamilyInv` ties it to the keys that are taken: a key says how far its
call counted, and never further than `covered`.
-/
import LibraGovernor.Daemon.Baseline

namespace LibraGovernor

open Relational Transaction Transition Procedure

set_option autoImplicit false

/-! ## Keys of a family -/

theorem parseU64_repr {n : Nat} (fits : n ≤ u64Max) : parseU64 (Nat.repr n).toList = some n := by
  rw [Nat.toList_repr]
  have digits : ∀ c ∈ Nat.toDigits 10 n, c.isDigit = true :=
    fun c mem => Nat.isDigit_of_mem_toDigits (by decide) (by decide) mem
  have value : digitsValue (Nat.toDigits 10 n) = n := Nat.ofDigitChars_ten_toDigits
  have plain : unsigned (Nat.toDigits 10 n) = Nat.toDigits 10 n := by
    unfold unsigned
    split
    · rename_i rest same
      have plus := digits '+' (same ▸ List.mem_cons_self)
      cases plus
    · rfl
  unfold parseU64
  rw [plain, if_pos ⟨Nat.toDigits_ne_nil, List.all_eq_true.mpr digits, by omega⟩, value]

theorem repr_injective {m n : Nat} (same : Nat.repr m = Nat.repr n) : m = n := by
  have digits := congrArg (fun s => Nat.ofDigitChars 10 s.toList 0) same
  simpa [Nat.toList_repr] using digits

theorem measuredKey_injective {p : String} {m n : Nat} (same : measuredKey p m = measuredKey p n) :
    m = n := by
  have tails := congrArg String.toList same
  simp only [measuredKey, String.toList_append, List.append_cancel_left_eq] at tails
  exact repr_injective (String.toList_inj.mp tails)

/-- The three kinds of key differ right after the prefix. -/
theorem append_ne_append {p a b : String} (differ : a.toList.head? ≠ b.toList.head?) :
    p ++ a ≠ p ++ b := by
  intro same
  have tails := congrArg String.toList same
  simp only [String.toList_append, List.append_cancel_left_eq] at tails
  exact differ (congrArg List.head? tails)

theorem markKey_ne_measuredKey (p : String) (m n : Nat) : markKey p m ≠ measuredKey p n :=
  append_ne_append (by simp)

theorem markKey_ne_unmeasuredKey (p : String) (n : Nat) : markKey p n ≠ unmeasuredKey p :=
  append_ne_append (by simp)

theorem stripPrefix_append (p rest : String) : stripPrefix (p ++ rest) p = some rest.toList := by
  rw [stripPrefix, if_pos (startsWith_append p rest), String.toList_append, List.drop_left]

theorem markKey_eq (p : String) (n : Nat) : markKey p n = (p ++ "g") ++ Nat.repr n :=
  String.append_assoc.symm

theorem gatewayMark_markKey (p : String) {n : Nat} (fits : n ≤ u64Max) :
    gatewayMark p (markKey p n) = some n := by
  rw [gatewayMark, markKey_eq, stripPrefix_append]
  exact parseU64_repr fits

/-- A family's row. -/
def OfFamily (p : String) (r : SharedPoolRow) : Prop :=
  r.principalId = principal ∧ startsWith r.idempotencyKey p = true

/-! ## Leaving a family alone -/

/-- The rows of a family are left alone: at most their watermarks change, and a row that
appears is not of the family. -/
inductive Aside (p : String) (t : ReservationTable) : ReservationTable → Prop where
  | moved (f : SharedPoolRow → SharedPoolRow) (keeps : ∀ r, (f r).id = r.id)
      (each : ∀ r ∈ t, (f r).ident = r.ident ∧ (OfFamily p r → Remarked r (f r))) :
      Aside p t (t.update f keeps)
  | added {u : ReservationTable} (row : SharedPoolRow) (foreign : ¬ OfFamily p row)
      (inserted : t.insert? row = some u) : Aside p t u

theorem ofFamily_of_ident {p : String} {r r' : SharedPoolRow} (same : r'.ident = r.ident) :
    OfFamily p r' ↔ OfFamily p r := by
  simp only [SharedPoolRow.ident, SharedPoolRow.uniqueKey, Prod.mk.injEq] at same
  rw [OfFamily, OfFamily, same.2.2.1, same.2.2.2]

theorem ofFamily_of_under {p q : String} {r : SharedPoolRow} (within : startsWith q p = true)
    (charged : LedgerStore.under q r = true) : OfFamily p r := by
  simp only [LedgerStore.under, SharedPoolRow.chargedUnder, Bool.and_eq_true, decide_eq_true_eq]
    at charged
  exact ⟨charged.1.1.1, startsWith_trans charged.1.2 within⟩

theorem startsWith_self (p : String) : startsWith p p = true := by
  simpa using startsWith_append p ""

theorem under_of_remarked (q : String) {r r' : SharedPoolRow} (same : Remarked r r') :
    LedgerStore.under q r' = LedgerStore.under q r := by
  obtain rfl | ⟨-, ts, ids, rfl⟩ := same
  · rfl
  · rfl

namespace Aside

variable {p : String} {t u : ReservationTable}

theorem unchanged : Aside p t t := by
  have moved : Aside p t (t.update (fun r => r) fun _ => rfl) :=
    .moved (fun r => r) (fun _ => rfl) fun r _ => ⟨rfl, fun _ => .inl rfl⟩
  have same : t.update (fun r => r) (fun _ => rfl) = t := Table.ext_rows (List.map_id _)
  rwa [same] at moved

/-- Where a family's row comes from. -/
theorem origin (aside : Aside p t u) {r' : SharedPoolRow} (mem : r' ∈ u) (mine : OfFamily p r') :
    ∃ r ∈ t, OfFamily p r ∧ Remarked r r' := by
  cases aside with
  | moved f keeps each =>
      obtain ⟨r, was, rfl⟩ := (Table.mem_update t f keeps r').mp mem
      obtain ⟨same, marks⟩ := each r was
      have mine := (ofFamily_of_ident same).mp mine
      exact ⟨r, was, mine, marks mine⟩
  | added row foreign inserted =>
      rcases (Table.mem_insert? inserted r').mp mem with old | rfl
      · exact ⟨r', old, mine, .inl rfl⟩
      · exact absurd mine foreign

/-- Where a family's row goes. -/
theorem kept (aside : Aside p t u) {r : SharedPoolRow} (mem : r ∈ t) (mine : OfFamily p r) :
    ∃ r' ∈ u, Remarked r r' := by
  cases aside with
  | moved f keeps each =>
      exact ⟨f r, (Table.mem_update t f keeps (f r)).mpr ⟨r, mem, rfl⟩, (each r mem).2 mine⟩
  | added row foreign inserted =>
      exact ⟨r, (Table.mem_insert? inserted r).mpr (.inl mem), .inl rfl⟩

end Aside

section Figures

variable {p : String} {s s' : LedgerStore}

theorem Aside.sum_charged {t u : ReservationTable} (aside : Aside p t u) :
    (u.sum fun r => if LedgerStore.under p r = true then r.settledAmount.getD 0 else 0) =
      t.sum fun r => if LedgerStore.under p r = true then r.settledAmount.getD 0 else 0 := by
  cases aside with
  | moved f keeps each =>
      rw [Table.sum_update]
      refine Table.sum_congr _ fun r mem => ?_
      obtain ⟨ident, marks⟩ := each r mem
      by_cases mine : OfFamily p r
      · obtain same | ⟨-, ts, ids, same⟩ := marks mine
        · rw [same]
        · rw [same]
          rfl
      · have notBefore : ¬ LedgerStore.under p r = true :=
          fun charged => mine (ofFamily_of_under (startsWith_self p) charged)
        have notAfter : ¬ LedgerStore.under p (f r) = true := fun charged =>
          mine ((ofFamily_of_ident ident).mp (ofFamily_of_under (startsWith_self p) charged))
        rw [if_neg notBefore, if_neg notAfter]
  | added row foreign inserted =>
      have notCharged : ¬ LedgerStore.under p row = true :=
        fun charged => foreign (ofFamily_of_under (startsWith_self p) charged)
      rw [Table.sum_insert? inserted, if_neg notCharged, Nat.add_zero]

theorem Aside.chargedSum (aside : Aside p s.reservations s'.reservations) :
    s'.chargedSum p = s.chargedSum p := aside.sum_charged

theorem startsWith_mark (p : String) : startsWith (p ++ "g") p = true := startsWith_append p "g"

theorem Remarked.key {r r' : SharedPoolRow} (same : Remarked r r') :
    r'.idempotencyKey = r.idempotencyKey := by
  obtain rfl | ⟨-, ts, ids, rfl⟩ := same
  · rfl
  · rfl

theorem Aside.marked_iff (aside : Aside p s.reservations s'.reservations) (mark : Nat) :
    Marked s' p mark ↔ Marked s p mark := by
  constructor
  · rintro ⟨r', mem', charged, named⟩
    obtain ⟨r, mem, -, same⟩ := aside.origin mem' (ofFamily_of_under (startsWith_mark p) charged)
    exact ⟨r, mem, under_of_remarked _ same ▸ charged, same.key ▸ named⟩
  · rintro ⟨r, mem, charged, named⟩
    obtain ⟨r', mem', same⟩ := aside.kept mem (ofFamily_of_under (startsWith_mark p) charged)
    exact ⟨r', mem', under_of_remarked _ same ▸ charged, same.key ▸ named⟩

theorem offset_le_of_marked (each : ∀ mark, Marked s p mark → mark ≤ gatewayMeteredOffset s' p) :
    gatewayMeteredOffset s p ≤ gatewayMeteredOffset s' p := by
  obtain zero | marked := offset_marked s p
  · omega
  · exact each _ marked

theorem Aside.offset (aside : Aside p s.reservations s'.reservations) :
    gatewayMeteredOffset s' p = gatewayMeteredOffset s p :=
  le_antisymm
    (offset_le_of_marked fun mark marked => marked_le_offset ((aside.marked_iff mark).mp marked))
    (offset_le_of_marked fun mark marked => marked_le_offset ((aside.marked_iff mark).mpr marked))

theorem Aside.holdsKey (aside : Aside p s.reservations s'.reservations) {key : String}
    (within : startsWith key p = true) (holds : HoldsKey key s') : HoldsKey key s := by
  obtain ⟨r', mem', mine, here, owned⟩ := holds
  obtain ⟨r, mem, -, same⟩ := aside.origin mem' ⟨mine, here ▸ within⟩
  have ident := same.ident
  simp only [SharedPoolRow.ident, SharedPoolRow.uniqueKey, Prod.mk.injEq] at ident
  obtain ⟨-, pool, principal_, key_⟩ := ident
  exact ⟨r, mem, principal_ ▸ mine, key_ ▸ here, pool ▸ owned⟩

end Figures

/-! ## How far a family is accounted for -/

/-- How much of a family's file is accounted for: what is booked, and what the gateway's
mark leaves to the gateway. -/
def covered (s : LedgerStore) (p : String) : Nat := s.chargedSum p + gatewayMeteredOffset s p

/-- The budget's pools count cents. -/
def InCents (s : LedgerStore) : Prop :=
  ∀ pool ∈ s.quotaPools, startsWith pool.poolId.val ownerPoolPrefix = true → pool.unit = .usdCents

/-- The rows of a family are its charges, and a key that is taken says how far the family
is accounted for. -/
structure FamilyInv (p : String) (s : LedgerStore) : Prop where
  charges : ∀ r ∈ s.reservations, OfFamily p r → LedgerStore.under p r = true
  measured : ∀ n, HoldsKey (measuredKey p n) s → n ≤ covered s p
  unmeasured : HoldsKey (unmeasuredKey p) s → 0 < covered s p
  floor : LedgerStore.floorOf s.chargeFloor (principal, p) = 0
  inCents : InCents s

theorem startsWith_measuredKey (p : String) (n : Nat) : startsWith (measuredKey p n) p = true :=
  startsWith_append p _

theorem startsWith_unmeasuredKey (p : String) : startsWith (unmeasuredKey p) p = true :=
  startsWith_append p _

section Steps

variable {p : String} {s s' : LedgerStore}

theorem Aside.covered_eq (aside : Aside p s.reservations s'.reservations) :
    covered s' p = covered s p := by
  rw [covered, covered, aside.chargedSum, aside.offset]

theorem FamilyInv.of_aside (inv : FamilyInv p s) (aside : Aside p s.reservations s'.reservations)
    (floor : s'.chargeFloor = s.chargeFloor) (inCents : InCents s') : FamilyInv p s' where
  charges := by
    intro r' mem' mine
    obtain ⟨r, mem, was, same⟩ := aside.origin mem' mine
    rw [under_of_remarked p same]
    exact inv.charges r mem was
  measured := by
    intro n holds
    rw [aside.covered_eq]
    exact inv.measured n (aside.holdsKey (startsWith_measuredKey p n) holds)
  unmeasured := by
    intro holds
    rw [aside.covered_eq]
    exact inv.unmeasured (aside.holdsKey (startsWith_unmeasuredKey p) holds)
  floor := by rw [floor]; exact inv.floor
  inCents := inCents

/-! ## A row that is added to a family -/

variable {row : SharedPoolRow}

theorem chargedSum_insert (inserted : s.reservations.insert? row = some s'.reservations)
    (charged : LedgerStore.under p row = true) :
    s'.chargedSum p = s.chargedSum p + row.settledAmount.getD 0 := by
  rw [LedgerStore.chargedSum, Table.sum_insert? inserted, if_pos charged]
  rfl

theorem marked_insert (inserted : s.reservations.insert? row = some s'.reservations) (mark : Nat) :
    Marked s' p mark ↔ Marked s p mark ∨ LedgerStore.under (p ++ "g") row = true ∧
      gatewayMark p row.idempotencyKey = some mark := by
  constructor
  · rintro ⟨r, mem, charged, named⟩
    rcases (Table.mem_insert? inserted r).mp mem with old | rfl
    · exact .inl ⟨r, old, charged, named⟩
    · exact .inr ⟨charged, named⟩
  · rintro (⟨r, mem, charged, named⟩ | ⟨charged, named⟩)
    · exact ⟨r, (Table.mem_insert? inserted r).mpr (.inl mem), charged, named⟩
    · exact ⟨row, (Table.mem_insert? inserted row).mpr (.inr rfl), charged, named⟩

theorem offset_le_insert (inserted : s.reservations.insert? row = some s'.reservations) :
    gatewayMeteredOffset s p ≤ gatewayMeteredOffset s' p :=
  offset_le_of_marked fun mark marked =>
    marked_le_offset ((marked_insert inserted mark).mpr (.inl marked))

theorem holdsKey_insert (inserted : s.reservations.insert? row = some s'.reservations) {key : String}
    (holds : HoldsKey key s') : HoldsKey key s ∨ row.idempotencyKey = key := by
  obtain ⟨r, mem, mine, here, owned⟩ := holds
  rcases (Table.mem_insert? inserted r).mp mem with old | rfl
  · exact .inl ⟨r, old, mine, here, owned⟩
  · exact .inr here

/-- A row under the family keeps the invariant when its key does not say too much. -/
theorem FamilyInv.insert (inv : FamilyInv p s)
    (inserted : s.reservations.insert? row = some s'.reservations)
    (charged : LedgerStore.under p row = true)
    (reaches : ∀ n, row.idempotencyKey = measuredKey p n → n ≤ covered s' p)
    (counts : row.idempotencyKey = unmeasuredKey p → 0 < covered s' p)
    (floor : s'.chargeFloor = s.chargeFloor) (inCents : InCents s') : FamilyInv p s' := by
  have grows : covered s p ≤ covered s' p := by
    have offset : gatewayMeteredOffset s p ≤ gatewayMeteredOffset s' p := offset_le_insert inserted
    rw [covered, covered, chargedSum_insert inserted charged]
    omega
  refine ⟨?_, ?_, ?_, floor ▸ inv.floor, inCents⟩
  · intro r mem mine
    rcases (Table.mem_insert? inserted r).mp mem with old | rfl
    · exact inv.charges r old mine
    · exact charged
  · intro n holds
    rcases holdsKey_insert inserted holds with old | here
    · exact le_trans (inv.measured n old) grows
    · exact reaches n here
  · intro holds
    rcases holdsKey_insert inserted holds with old | here
    · exact lt_of_lt_of_le (inv.unmeasured old) grows
    · exact counts here

end Steps

end LibraGovernor
