/-
# LibraGovernor.Daemon.LaneMark -- what a lane's mark still covers

A lane's mark is read from its settled rows, the latest first by the *text* of the instant they
settled at, and the message ids it remembers stop at a cap.  Within one second the text is not
the order of the instants (`00Z` sorts after `00.5Z`), so the row that settled last need not be
the row visited first: rows of its own second can come ahead of it and fill the cap
(`ahead_same_second`).

The mark's instant is always the greatest one.  Every id of the newest row is remembered, and
then never counted again, exactly when there is room for it behind the rows ahead (`Room`).  A
row that is alone in its second has room for as many ids as the cap (`room_of_own_second`).
-/
import LibraGovernor.Daemon.Settle
import LibraGovernor.Ledger.Transitions
import LibraGovernor.Lib.FirstSeen
import LibraGovernor.Lib.Run
import Mathlib.Data.List.TakeWhile
import Mathlib.Order.Bounds.Basic

namespace LibraGovernor

open Relational Transaction

set_option autoImplicit false

/-- The message ids a row stores. -/
def SharedPoolRow.markIds (r : SharedPoolRow) : List String := r.watermarkMessageIds.getD []

namespace LedgerStore

/-- The trusted marked rows of a lane, in the order they are visited. -/
def visited (s : LedgerStore) (principalId : PrincipalId) (lane : Lane) (poolPrefix : String) :
    List SharedPoolRow :=
  ((s.reservations.rows.filter (marks principalId lane poolPrefix)).insertionSort
    (fun a b => settledLater a b = true)).filter trusted

/-- The row is the trusted marked row that settled last, as an instant. -/
def Newest (s : LedgerStore) (principalId : PrincipalId) (lane : Lane) (poolPrefix : String)
    (r : SharedPoolRow) : Prop :=
  r ∈ s.visited principalId lane poolPrefix ∧
    ∀ r' ∈ s.visited principalId lane poolPrefix, ∀ settled', r'.settledAt = some settled' →
      ∃ settled, r.settledAt = some settled ∧ settled' ≤ settled

/-- The rows visited before a row. -/
def ahead (s : LedgerStore) (principalId : PrincipalId) (lane : Lane) (poolPrefix : String)
    (r : SharedPoolRow) : List SharedPoolRow :=
  (s.visited principalId lane poolPrefix).takeWhile fun r' => decide (r' ≠ r)

/-- The row's ids fit in the cap together with those of the rows ahead, or the rows ahead had
already brought them in. -/
def Room (s : LedgerStore) (principalId : PrincipalId) (lane : Lane) (poolPrefix : String)
    (r : SharedPoolRow) : Prop :=
  let before := (s.ahead principalId lane poolPrefix r).flatMap SharedPoolRow.markIds
  (before ++ r.markIds).eraseDups.length ≤ watermarkIdCap ∨
    r.markIds ⊆ before.eraseDups.take watermarkIdCap

/-! ## The order of the visit -/

section Visited

variable {s : LedgerStore} {principalId : PrincipalId} {lane : Lane} {poolPrefix : String}

theorem settledLater_total (a b : SharedPoolRow) :
    settledLater a b = true ∨ settledLater b a = true := by
  rw [settledLater, settledLater]
  cases a.settledAt with
  | none =>
      cases b.settledAt with
      | none => exact .inl rfl
      | some u => exact .inr rfl
  | some t =>
      cases b.settledAt with
      | none => exact .inl rfl
      | some u =>
          exact OffsetDateTime.textLe_total u t

theorem settledLater_trans (a b c : SharedPoolRow) (ab : settledLater a b = true)
    (bc : settledLater b c = true) : settledLater a c = true := by
  rw [settledLater] at ab bc ⊢
  cases third : c.settledAt with
  | none =>
      cases a.settledAt with
      | none => rfl
      | some t => rfl
  | some v =>
      cases second : b.settledAt with
      | none =>
          rw [second, third] at bc
          cases bc
      | some u =>
          cases first : a.settledAt with
          | none =>
              rw [first, second] at ab
              cases ab
          | some t =>
              rw [first, second] at ab
              rw [second, third] at bc
              exact OffsetDateTime.textLe_trans bc ab

theorem visited_sorted (s : LedgerStore) (principalId : PrincipalId) (lane : Lane)
    (poolPrefix : String) :
    (s.visited principalId lane poolPrefix).Pairwise fun a b => settledLater a b = true := by
  have total : Std.Total fun a b : SharedPoolRow => settledLater a b = true := ⟨settledLater_total⟩
  have trans : IsTrans SharedPoolRow fun a b => settledLater a b = true := ⟨settledLater_trans⟩
  exact (List.pairwise_insertionSort _ _).filter _

/-- The visit passes the rows ahead, the row, and the rest. -/
theorem visited_split {r : SharedPoolRow} (mem : r ∈ s.visited principalId lane poolPrefix) :
    ∃ rest, s.visited principalId lane poolPrefix =
      s.ahead principalId lane poolPrefix r ++ r :: rest := by
  rw [ahead]
  generalize s.visited principalId lane poolPrefix = rows at mem
  induction rows with
  | nil => cases mem
  | cons first rows ih =>
      by_cases here : first = r
      · subst here
        exact ⟨rows, by simp⟩
      · have later : r ∈ rows := by
          rcases List.mem_cons.mp mem with rfl | later
          · exact absurd rfl here
          · exact later
        obtain ⟨rest, split⟩ := ih later
        refine ⟨rest, ?_⟩
        rw [List.takeWhile_cons, if_pos (by simp [here]), List.cons_append, ← split]

/-- A row that comes ahead of the newest settled in its very second. -/
theorem ahead_same_second {r q : SharedPoolRow} (newest : s.Newest principalId lane poolPrefix r)
    (before : q ∈ s.ahead principalId lane poolPrefix r) {settled : OffsetDateTime}
    (at_ : r.settledAt = some settled) :
    ∃ settled', q.settledAt = some settled' ∧ settled'.seconds = settled.seconds := by
  obtain ⟨rest, split⟩ := visited_split newest.1
  have sorted := visited_sorted s principalId lane poolPrefix
  rw [split, List.pairwise_append] at sorted
  have later := sorted.2.2 q before r List.mem_cons_self
  rw [settledLater, at_] at later
  cases stamp : q.settledAt with
  | none =>
      rw [stamp] at later
      cases later
  | some settled' =>
      rw [stamp] at later
      have mem : q ∈ s.visited principalId lane poolPrefix := by
        rw [split]
        exact List.mem_append_left _ before
      obtain ⟨t, same, le⟩ := newest.2 q mem settled' stamp
      cases at_.symm.trans same
      have down := OffsetDateTime.seconds_mono le
      have up := OffsetDateTime.seconds_le_of_textLe later
      exact ⟨settled', rfl, by omega⟩

/-- There is room for a newest row that stores no more than the cap, when no other row of the
lane settled in its second. -/
theorem room_of_own_second {r : SharedPoolRow} (newest : s.Newest principalId lane poolPrefix r)
    {settled : OffsetDateTime} (at_ : r.settledAt = some settled)
    (alone : ∀ q ∈ s.visited principalId lane poolPrefix, ∀ settled', q.settledAt = some settled' →
      settled'.seconds = settled.seconds → q = r)
    (fits : r.markIds.length ≤ watermarkIdCap) : s.Room principalId lane poolPrefix r := by
  have none_ahead : s.ahead principalId lane poolPrefix r = [] := by
    rw [List.eq_nil_iff_forall_not_mem]
    intro q before
    obtain ⟨settled', stamp, same⟩ := ahead_same_second newest before at_
    have passed := List.mem_takeWhile_imp (p := fun r' => decide (r' ≠ r)) before
    refine of_decide_eq_true passed (alone q ?_ settled' stamp same)
    exact (List.takeWhile_sublist _).subset before
  rw [Room, none_ahead]
  refine .inl ?_
  have distinct := (FirstSeen.nodup_eraseDups r.markIds).subperm
    (fun id mem => List.mem_eraseDups.mp mem)
  exact distinct.length_le.trans fits

/-! ## What the mark holds -/

/-- An instant that a trusted mark of the lane carries. -/
def TrustedMark (s : LedgerStore) (principalId : PrincipalId) (lane : Lane) (poolPrefix : String)
    (at_ : OffsetDateTime) : Prop :=
  ∃ r ∈ s.visited principalId lane poolPrefix, r.watermarkTs = some at_

theorem sharedLaneWatermark_some {mark : SettleWatermark}
    (read : s.sharedLaneWatermark principalId lane poolPrefix = some mark) :
    mark.at_ = ((s.visited principalId lane poolPrefix).filterMap fun r => r.watermarkTs).max? ∧
      mark.messageIds = unionIds (s.visited principalId lane poolPrefix) := by
  have whole : s.sharedLaneWatermark principalId lane poolPrefix =
      if (s.visited principalId lane poolPrefix).isEmpty then none
      else some ⟨((s.visited principalId lane poolPrefix).filterMap fun r => r.watermarkTs).max?,
        unionIds (s.visited principalId lane poolPrefix)⟩ := rfl
  rw [whole] at read
  split at read
  · cases read
  · cases read
    exact ⟨rfl, rfl⟩

theorem mark_greatest {mark : SettleWatermark}
    (read : s.sharedLaneWatermark principalId lane poolPrefix = some mark) (at_ : OffsetDateTime) :
    mark.at_ = some at_ ↔ IsGreatest {t | s.TrustedMark principalId lane poolPrefix t} at_ := by
  have carried : ∀ t, t ∈ (s.visited principalId lane poolPrefix).filterMap
      (fun r => r.watermarkTs) ↔ s.TrustedMark principalId lane poolPrefix t := by
    intro t
    rw [List.mem_filterMap]
    rfl
  rw [(sharedLaneWatermark_some read).1, List.max?_eq_some_iff]
  constructor
  · rintro ⟨mem, most⟩
    exact ⟨(carried at_).mp mem, fun t trusted => most t ((carried t).mpr trusted)⟩
  · rintro ⟨trusted, most⟩
    exact ⟨(carried at_).mpr trusted, fun t mem => most ((carried t).mp mem)⟩

theorem mark_nodup {mark : SettleWatermark}
    (read : s.sharedLaneWatermark principalId lane poolPrefix = some mark) :
    mark.messageIds.Nodup := by
  rw [(sharedLaneWatermark_some read).2]
  exact (FirstSeen.nodup_eraseDups _).sublist (List.take_sublist _ _)

/-- A visited row's ids are all remembered exactly when there is room for them. -/
theorem mark_covers_iff {mark : SettleWatermark} {r : SharedPoolRow}
    (read : s.sharedLaneWatermark principalId lane poolPrefix = some mark)
    (mem : r ∈ s.visited principalId lane poolPrefix) :
    r.markIds ⊆ mark.messageIds ↔ s.Room principalId lane poolPrefix r := by
  obtain ⟨rest, split⟩ := visited_split mem
  rw [(sharedLaneWatermark_some read).2, split]
  have stretch : unionIds (s.ahead principalId lane poolPrefix r ++ r :: rest) =
      ((s.ahead principalId lane poolPrefix r).flatMap SharedPoolRow.markIds ++ r.markIds ++
        rest.flatMap SharedPoolRow.markIds).eraseDups.take watermarkIdCap := by
    rw [unionIds, List.flatMap_append, List.flatMap_cons, List.append_assoc]
    rfl
  rw [stretch]
  exact FirstSeen.subset_take_eraseDups _ _ _ _

end Visited

end LedgerStore

/-! ## The next window -/

/-- No line of a message the row counted is taken up by a window. -/
def NeverRecounted (r : SharedPoolRow) (after : OffsetDateTime) (countedIds : List String) : Prop :=
  ∀ (horizon : OffsetDateTime) (sessionId : String) (acc : Accumulator) (line : PricedLine)
    (record : PricedRecord) (message : PricedMessage) (id : String),
    line.record = some record → record.message = some message → message.id = some id →
    id ∈ r.markIds → (visitLine (.parentWindow after countedIds horizon) sessionId acc line).1 = acc

/-- A line that shows an id: an assistant's record of it with no counts that can be read. -/
def unreadableLine (sessionId id : String) : PricedLine :=
  ⟨0, some ⟨true, none, some sessionId, false, none, some ⟨some id, none, some none⟩⟩⟩

/-- The window leaves a row's messages alone exactly when it knows their ids. -/
theorem neverRecounted_iff (r : SharedPoolRow) (after : OffsetDateTime) (countedIds : List String) :
    NeverRecounted r after countedIds ↔ r.markIds ⊆ countedIds := by
  constructor
  · intro never id mem
    by_contra unknown
    have same := never 0 "" {} (unreadableLine "" id) _ _ id rfl rfl rfl mem
    have flagged : (visitLine (.parentWindow after countedIds 0) "" {} (unreadableLine "" id)).1 =
        if (ReadMode.parentWindow after countedIds 0).counted ⟨some id, none, some none⟩ then {}
        else { untimed := true, malformed := true } := by
      rfl
    have uncounted : (ReadMode.parentWindow after countedIds 0).counted
        ⟨some id, none, some none⟩ = false := decide_eq_false unknown
    rw [flagged, uncounted] at same
    cases same
  · intro known horizon sessionId acc line record message id recorded carried names mem
    rw [visitLine, recorded]
    dsimp only
    cases ReadMode.behind (.parentWindow after countedIds horizon) record with
    | some stop => rfl
    | none =>
        show visitRecord acc _ sessionId record = acc
        have counted : (ReadMode.parentWindow after countedIds horizon).counted message = true := by
          simp only [ReadMode.counted, names]
          exact decide_eq_true (known mem)
        rw [visitRecord]
        split
        · rfl
        split
        · rfl
        rw [carried]
        dsimp only
        split
        · rfl
        · rw [if_pos counted]

/-- A window's ids are the mark's. -/
theorem laneWindow_ids {s : LedgerStore} {sessionId : String} {holds : List SharedPoolRow}
    {after : OffsetDateTime} {ids : List String} {mark : SettleWatermark}
    (window : laneWindow s sessionId holds = some (after, ids))
    (read : s.sharedLaneWatermark principal (mainLane sessionId) ownerPoolPrefix = some mark) :
    ids = mark.messageIds := by
  rw [laneWindow, read] at window
  dsimp only [Option.bind_some, Option.map_some, Option.getD_some] at window
  cases stamp : mark.at_ with
  | some at_ =>
      rw [stamp] at window
      cases window
      rfl
  | none =>
      rw [stamp] at window
      obtain ⟨_, -, window⟩ := Option.map_eq_some_iff.mp window
      cases window
      rfl

/-- A lane with a row to visit has a mark. -/
theorem exists_mark {s : LedgerStore} {principalId : PrincipalId} {lane : Lane} {poolPrefix : String}
    {r : SharedPoolRow} (mem : r ∈ s.visited principalId lane poolPrefix) :
    ∃ mark, s.sharedLaneWatermark principalId lane poolPrefix = some mark := by
  have whole : s.sharedLaneWatermark principalId lane poolPrefix =
      if (s.visited principalId lane poolPrefix).isEmpty then none
      else some ⟨((s.visited principalId lane poolPrefix).filterMap fun r => r.watermarkTs).max?,
        LedgerStore.unionIds (s.visited principalId lane poolPrefix)⟩ := rfl
  rw [whole, if_neg (by rw [List.isEmpty_iff]; exact List.ne_nil_of_mem mem)]
  exact ⟨_, rfl⟩

/-- Reading a lane's mark.  Its instant is the greatest of the trusted ones and no id comes twice;
and the row that settled last is covered, and its messages left alone by the next window of the
lane, exactly when there is room for it. -/
theorem lane_mark_covers_newest (s : LedgerStore) :
    (∀ principalId lane poolPrefix mark,
      s.sharedLaneWatermark principalId lane poolPrefix = some mark →
        (∀ at_, mark.at_ = some at_ ↔
          IsGreatest {t | s.TrustedMark principalId lane poolPrefix t} at_) ∧
        mark.messageIds.Nodup ∧
        ∀ r, s.Newest principalId lane poolPrefix r →
          (r.markIds ⊆ mark.messageIds ↔ s.Room principalId lane poolPrefix r)) ∧
    (∀ sessionId holds after ids, laneWindow s sessionId holds = some (after, ids) →
      ∀ r, s.Newest principal (mainLane sessionId) ownerPoolPrefix r →
        (NeverRecounted r after ids ↔ s.Room principal (mainLane sessionId) ownerPoolPrefix r)) := by
  constructor
  · intro principalId lane poolPrefix mark read
    refine ⟨LedgerStore.mark_greatest read, LedgerStore.mark_nodup read, ?_⟩
    intro r newest
    exact LedgerStore.mark_covers_iff read newest.1
  · intro sessionId holds after ids window r newest
    obtain ⟨mark, read⟩ := exists_mark newest.1
    rw [neverRecounted_iff, laneWindow_ids window read]
    exact LedgerStore.mark_covers_iff read newest.1

/-! ## Two settlements in one second -/

/-- A message id of `n + 1` characters. -/
def longId (n : Nat) : String := String.ofList (List.replicate (n + 1) 'm')

theorem longId_injective : Function.Injective longId := by
  intro a b same
  have lengths := congrArg String.length same
  simp only [longId, String.length_ofList, List.length_replicate] at lengths
  omega

def markedPool : PoolId := ⟨"metered:local-budget/2026-06"⟩

/-- A settled charge on the main lane. -/
def markedCharge (key : String) (now : OffsetDateTime) : SharedPoolChargeRequest where
  poolId := markedPool
  principalId := principal
  sessionId := "session"
  amount := 1
  unit := .usdCents
  idempotencyKey := key
  now := now
  attribution := .mainExecutor (some .turnHold)
  capacitySource := .localConfigured 100
  usageKnown := true

/-- The first instant of June 2026. -/
def june : OffsetDateTime := 1780272000 * OffsetDateTime.nanosPerSecond

/-- Two charges of one second, half a second apart, each with its mark. -/
def halfSecondRun (first second : List String) : List SharedPoolOp :=
  [.ensurePool markedPool .usdCents 100 june,
    .chargeShared (markedCharge "first" june) (some ⟨some june, first⟩) ⟨1⟩,
    .chargeShared (markedCharge "second" (june + 500000000)) (some ⟨some (june + 1), second⟩) ⟨2⟩]

def halfSecondRow (key : String) (now at_ : OffsetDateTime) (ids : List String)
    (id : SharedPoolReservationId) : SharedPoolRow :=
  LedgerStore.chargeRow (markedCharge key now) id ⟨none, some .agentAbsent, some .turnHold⟩ 1 now
    (some at_, some ids)

theorem halfSecond_rows (a b : String) (first second : List String) :
    (Transition.run SharedPoolOp.apply LedgerStore.empty
      (halfSecondRun (a :: first) (b :: second))).reservations.rows =
    [halfSecondRow "first" june june (a :: first) ⟨1⟩,
      halfSecondRow "second" (june + 500000000) (june + 1) (b :: second) ⟨2⟩] := by
  with_unfolding_all rfl

theorem halfSecond_marks (key : String) (now at_ : OffsetDateTime) (ids : List String)
    (id : SharedPoolReservationId) :
    LedgerStore.marks principal (mainLane "session") ownerPoolPrefix
      (halfSecondRow key now at_ ids id) = true := by
  have pool : startsWith markedPool.val ownerPoolPrefix = true := by decide +kernel
  have lane : (halfSecondRow key now at_ ids id).onLane principal (mainLane "session") = true :=
    decide_eq_true ⟨rfl, rfl, rfl, rfl⟩
  rw [LedgerStore.marks, lane]
  show (true && startsWith markedPool.val ownerPoolPrefix && true && true) = true
  rw [pool]
  rfl

/-- The row of the whole second is visited first, though it settled first. -/
theorem halfSecond_visited (a b : String) (first second : List String) :
    (Transition.run SharedPoolOp.apply .empty (halfSecondRun (a :: first) (b :: second))).visited
      principal (mainLane "session") ownerPoolPrefix =
    [halfSecondRow "first" june june (a :: first) ⟨1⟩,
      halfSecondRow "second" (june + 500000000) (june + 1) (b :: second) ⟨2⟩] := by
  have text : OffsetDateTime.textLe (june + 500000000) june = true := by decide
  have later : LedgerStore.settledLater (halfSecondRow "first" june june (a :: first) ⟨1⟩)
      (halfSecondRow "second" (june + 500000000) (june + 1) (b :: second) ⟨2⟩) = true := text
  have believed : ∀ key now at_ ids id, at_ ≤ now + LedgerStore.watermarkSlack →
      LedgerStore.trusted (halfSecondRow key now at_ ids id) = true := by
    intro key now at_ ids id le
    exact decide_eq_true le
  rw [LedgerStore.visited, halfSecond_rows]
  simp only [List.filter_cons, halfSecond_marks, if_true, List.filter_nil,
    List.insertionSort_cons, List.insertionSort_nil, List.orderedInsert, later]
  rw [believed _ _ _ _ _ (by decide), believed _ _ _ _ _ (by decide)]
  rfl

/-- The mark a lane keeps has every message id of the newest row. -/
def CoversNewest (s : LedgerStore) (principalId : PrincipalId) (lane : Lane) (poolPrefix : String) :
    Prop :=
  ∀ mark r, s.sharedLaneWatermark principalId lane poolPrefix = some mark →
    s.Newest principalId lane poolPrefix r → r.markIds ⊆ mark.messageIds

theorem range_map_longId_nodup (n : Nat) : ((List.range n).map longId).Nodup :=
  List.nodup_range.map longId_injective

theorem halfSecond_newest (a b : String) (first second : List String) :
    (Transition.run SharedPoolOp.apply .empty (halfSecondRun (a :: first) (b :: second))).Newest
      principal (mainLane "session") ownerPoolPrefix
      (halfSecondRow "second" (june + 500000000) (june + 1) (b :: second) ⟨2⟩) := by
  rw [LedgerStore.Newest, halfSecond_visited]
  refine ⟨by simp, ?_⟩
  intro r' mem settled' stamp
  refine ⟨june + 500000000, rfl, ?_⟩
  rcases List.mem_cons.mp mem with rfl | mem
  · cases stamp
    decide
  · cases List.mem_singleton.mp mem
    cases stamp
    decide

theorem halfSecond_ahead (a b : String) (first second : List String) :
    (Transition.run SharedPoolOp.apply .empty (halfSecondRun (a :: first) (b :: second))).ahead
      principal (mainLane "session") ownerPoolPrefix
      (halfSecondRow "second" (june + 500000000) (june + 1) (b :: second) ⟨2⟩) =
    [halfSecondRow "first" june june (a :: first) ⟨1⟩] := by
  have differ : halfSecondRow "first" june june (a :: first) ⟨1⟩ ≠
      halfSecondRow "second" (june + 500000000) (june + 1) (b :: second) ⟨2⟩ := by
    intro same
    have keys := congrArg (fun r : SharedPoolRow => r.idempotencyKey) same
    exact absurd keys (by decide : "first" ≠ "second")
  rw [LedgerStore.ahead, halfSecond_visited, List.takeWhile_cons, if_pos (decide_eq_true differ)]
  simp

/-- A full mark that settles on a whole second hides the one that settles half a second later. -/
theorem lane_mark_loses_newest :
    ¬ ∀ ops : List SharedPoolOp, CoversNewest (Transition.run SharedPoolOp.apply .empty ops) principal
      (mainLane "session") ownerPoolPrefix := by
  intro covers
  let first := ((List.range 511).map fun n => longId (n + 1))
  have newest := halfSecond_newest (longId 0) (longId 512) first []
  obtain ⟨mark, read⟩ := exists_mark newest.1
  have covered := covers _ mark _ read newest
  rw [LedgerStore.mark_covers_iff read newest.1, LedgerStore.Room, halfSecond_ahead] at covered
  have whole : longId 0 :: first = (List.range 512).map longId := by
    rw [List.range_succ_eq_map (n := 511), List.map_cons, List.map_map]
    rfl
  have before : [halfSecondRow "first" june june (longId 0 :: first) ⟨1⟩].flatMap
      SharedPoolRow.markIds = (List.range 512).map longId := by
    rw [← whole]
    exact List.append_nil _
  have own : (halfSecondRow "second" (june + 500000000) (june + 1) [longId 512] ⟨2⟩).markIds =
    [longId 512] := rfl
  have all : (List.range 512).map longId ++ [longId 512] = (List.range 513).map longId := by
    rw [List.range_succ (n := 512), List.map_append]
    rfl
  rw [before, own, all, FirstSeen.eraseDups_of_nodup (range_map_longId_nodup 513),
    FirstSeen.eraseDups_of_nodup (range_map_longId_nodup 512)] at covered
  rcases covered with fits | there
  · rw [List.length_map, List.length_range] at fits
    exact absurd fits (by decide)
  · have mem := List.mem_of_mem_take (there (List.mem_singleton_self _))
    rw [List.mem_map_of_injective longId_injective, List.mem_range] at mem
    omega

end LibraGovernor
