/-
# LibraGovernor.Daemon.CodexTotal -- a Codex hold totals its best measurement

A hold is settled once, by the `Stop` that reaches it first, at what its turns come to.
Later `Stop`s measure it again, and book what it was short of as a charge under the
hold's own prefix.  A key under that prefix says how far its measurement went, so the
settled amount plus the charges is the largest measurement that was booked.
-/
import LibraGovernor.Daemon.TranscriptTotal
import LibraGovernor.Daemon.Turns
import Mathlib.Data.Int.ConditionallyCompleteOrder
import Mathlib.Data.Prod.Lex
import Mathlib.Order.WithBot

namespace LibraGovernor

open Relational Transaction Transition Procedure

set_option autoImplicit false

/-! ## What the turns of a hold come to -/

/-- The cents of a turn: its model is priced, a rollout is named, and the turn is
measured in it. -/
def turnCents (cfg : SharedBudgetConfig) (source : RolloutSource) (turnId : String) : Option Nat :=
  match source.model.filter fun m => (cfg.table.lookup m).isSome, source.path with
  | some model, some _ =>
      match source.rollout.measured cfg.table model turnId with
      | .ok cents => cents
      | .error _ => none
  | _, _ => none

/-- Every turn of the hold has its cents, and none is past the cap. -/
def Measurable (cfg : SharedBudgetConfig) (source : RolloutSource) (turns : List String) : Prop :=
  turns.length ≤ maxCodexHoldTurns ∧ ∀ turnId ∈ turns, (turnCents cfg source turnId).isSome = true

instance (cfg : SharedBudgetConfig) (source : RolloutSource) (turns : List String) :
    Decidable (Measurable cfg source turns) := inferInstanceAs (Decidable (_ ∧ _))

/-- The priced turns up to the cap, saturating as a `u64`. -/
def pricedSum (cfg : SharedBudgetConfig) (source : RolloutSource) (turns : List String) : Nat :=
  min ((turns.take maxCodexHoldTurns).map fun turnId => (turnCents cfg source turnId).getD 0).sum u64Max

/-- What the turns come to: their sum, and the hold when that is more and a turn has no
cents. -/
def turnsFigure (cfg : SharedBudgetConfig) (source : RolloutSource) (turns : List String)
    (hold : Nat) : Nat :=
  if Measurable cfg source turns then pricedSum cfg source turns
  else max (pricedSum cfg source turns) hold

section Figures

variable {cfg : SharedBudgetConfig} {source : RolloutSource} {turns : List String}

/-- Adding the turns up: the sum saturates, and a reason is missing only when every turn
has its cents. -/
theorem foldl_addTurn (priced : String → Except UsageUnavailable (Option Nat)) (turns : List String)
    (sofar : Nat × Option UnmeasuredReason) (fits : sofar.1 ≤ u64Max) :
    let cents := fun turnId => match priced turnId with
      | .ok cents => cents
      | .error _ => none
    let added := turns.foldl (addTurn priced) sofar
    added.1 = min (sofar.1 + (turns.map fun turnId => (cents turnId).getD 0).sum) u64Max ∧
      (added.2 = none ↔ sofar.2 = none ∧ ∀ turnId ∈ turns, (cents turnId).isSome = true) := by
  intro cents
  induction turns generalizing sofar with
  | nil => simp [Nat.min_eq_left fits]
  | cons turnId turns ih =>
      have here : (addTurn priced sofar turnId).1 = min (sofar.1 + (cents turnId).getD 0) u64Max ∧
          ((addTurn priced sofar turnId).2 = none ↔ sofar.2 = none ∧ (cents turnId).isSome = true) := by
        simp only [addTurn, cents]
        rcases priced turnId with why | (_ | cents)
        · simp [Nat.min_eq_left fits]
        · simp [Nat.min_eq_left fits]
        · simp
      obtain ⟨sum, reason⟩ := ih (addTurn priced sofar turnId) (by rw [here.1]; exact min_le_right _ _)
      simp only [List.foldl_cons, List.map_cons, List.sum_cons, List.mem_cons, forall_eq_or_imp]
      refine ⟨?_, ?_⟩
      · rw [sum, here.1]
        omega
      · rw [reason, here.2]
        tauto

/-- A measurement, by whether every turn is measurable. -/
theorem measureCodexTurns_cases (cfg : SharedBudgetConfig) (source : RolloutSource)
    (some_ : turns ≠ []) (hold : Nat) :
    (Measurable cfg source turns ∧
        measureCodexTurns cfg turns source hold = (some (pricedSum cfg source turns), none)) ∨
      ¬ Measurable cfg source turns ∧ ∃ reason, measureCodexTurns cfg turns source hold =
        ((some (pricedSum cfg source turns)).filter fun sum => decide (hold < sum), some reason) := by
  obtain ⟨first, rest, rfl⟩ := List.exists_cons_of_ne_nil some_
  -- Without a model or a path no turn has cents, and the sum is nothing.
  have unread : (∀ turnId, turnCents cfg source turnId = none) →
      ¬ Measurable cfg source (first :: rest) ∧ pricedSum cfg source (first :: rest) = 0 := by
    intro none_
    refine ⟨fun measurable => ?_, ?_⟩
    · have here := measurable.2 first List.mem_cons_self
      rw [none_] at here
      cases here
    · simp only [pricedSum, none_, Option.getD_none, List.map_const', List.sum_replicate, smul_zero,
        Nat.zero_min]
  have nothing : (some 0).filter (fun sum => decide (hold < sum)) = none := by simp [Option.filter]
  unfold measureCodexTurns
  cases priced : source.model.filter fun m => (cfg.table.lookup m).isSome with
  | none =>
      obtain ⟨unmeasurable, zero⟩ := unread fun turnId => by simp [turnCents, priced]
      exact .inr ⟨unmeasurable, .unpricedModel, by rw [zero, nothing]⟩
  | some model =>
      cases named : source.path with
      | none =>
          obtain ⟨unmeasurable, zero⟩ := unread fun turnId => by simp [turnCents, priced, named]
          exact .inr ⟨unmeasurable, .noTranscriptPath, by rw [zero, nothing]⟩
      | some path =>
          obtain ⟨sum, reason⟩ := foldl_addTurn (source.rollout.measured cfg.table model)
            ((first :: rest).take maxCodexHoldTurns) (0, none) (Nat.zero_le _)
          have cents : ∀ turnId, turnCents cfg source turnId =
              match source.rollout.measured cfg.table model turnId with
              | .ok cents => cents
              | .error _ => none := fun turnId => by simp [turnCents, priced, named]
          simp only [← cents, Nat.zero_add, true_and] at sum reason
          have total : pricedSum cfg source (first :: rest) = _ := sum.symm
          dsimp only
          rw [← total]
          by_cases capped : maxCodexHoldTurns < (first :: rest).length
          · refine .inr ⟨fun measurable => ?_, .scanCapReached, by rw [if_pos capped]⟩
            have fits := measurable.1
            omega
          · rw [if_neg capped]
            rw [List.take_of_length_le (Nat.not_lt.mp capped)] at reason ⊢
            generalize (List.foldl (addTurn (source.rollout.measured cfg.table model)) (0, none)
              (first :: rest)).2 = why at reason ⊢
            cases why with
            | none => exact .inl ⟨⟨Nat.not_lt.mp capped, reason.mp rfl⟩, rfl⟩
            | some why =>
                refine .inr ⟨fun measurable => ?_, why, rfl⟩
                cases reason.mpr measurable.2

/-- What a `Stop` settles a hold of these turns at: what they come to, unless that is
past the ceiling of a plausible measurement or the file is not valid. -/
def settlementFigure (rt : SharedBudgetRuntime) (source : RolloutSource) (turns : List String)
    (hold : Nat) : Nat :=
  match rt.state with
  | .valid cfg =>
      if settlementCeilingUsdCents cfg.monthlyCapUsdCents < turnsFigure cfg source turns hold then hold
      else turnsFigure cfg source turns hold
  | _ => hold

/-- The measurement a `Stop` settles a hold of these turns by. -/
def codexActual (rt : SharedBudgetRuntime) (source : RolloutSource) (turns : List String)
    (hold : Nat) : Option Nat :=
  match rt.state with
  | .valid cfg => (codexMeasure cfg turns source hold).1
  | _ => none

theorem codexActual_getD (rt : SharedBudgetRuntime) (source : RolloutSource) (some_ : turns ≠ [])
    (hold : Nat) :
    (codexActual rt source turns hold).getD hold = settlementFigure rt source turns hold := by
  unfold codexActual settlementFigure
  cases rt.state with
  | absent => rfl
  | invalid reason => rfl
  | valid cfg =>
      simp only [codexMeasure]
      obtain ⟨measurable, measured⟩ | ⟨unmeasurable, reason, measured⟩ :=
        measureCodexTurns_cases cfg source some_ hold
      · have figure : turnsFigure cfg source turns hold = pricedSum cfg source turns := if_pos measurable
        simp only [measured, figure, implausibleMeasurement, Option.any_some, decide_eq_true_eq]
        split <;> rfl
      · have figure : turnsFigure cfg source turns hold = max (pricedSum cfg source turns) hold :=
          if_neg unmeasurable
        simp only [measured, figure, implausibleMeasurement]
        by_cases more : hold < pricedSum cfg source turns
        · rw [max_eq_left more.le]
          simp only [Option.filter, more, decide_true, if_true, Option.any_some, decide_eq_true_eq]
          split <;> rfl
        · rw [max_eq_right (Nat.not_lt.mp more)]
          simp [Option.filter, more]

/-- The settlement counts as measured: its figure is the sum of the priced turns, which lacks
no turn or is above the hold, and the sum is plausible. -/
def CountsMeasured (rt : SharedBudgetRuntime) (source : RolloutSource) (turns : List String)
    (hold : Nat) : Prop :=
  ∃ cfg, rt.state = .valid cfg ∧ (Measurable cfg source turns ∨ hold < pricedSum cfg source turns) ∧
    pricedSum cfg source turns ≤ settlementCeilingUsdCents cfg.monthlyCapUsdCents

theorem codexActual_isSome_iff (rt : SharedBudgetRuntime) (source : RolloutSource)
    (some_ : turns ≠ []) (hold : Nat) :
    (codexActual rt source turns hold).isSome = true ↔ CountsMeasured rt source turns hold := by
  unfold codexActual CountsMeasured
  cases rt.state with
  | absent => simp
  | invalid reason => simp
  | valid cfg =>
      simp only [codexMeasure, SharedBudgetFileState.valid.injEq, exists_eq_left']
      obtain ⟨measurable, measured⟩ | ⟨unmeasurable, reason, measured⟩ :=
        measureCodexTurns_cases cfg source some_ hold
      · simp only [measured, implausibleMeasurement, Option.any_some, decide_eq_true_eq, measurable,
          true_or, true_and]
        split
        · rename_i beyond
          simp [beyond]
        · rename_i fits
          simp [Nat.not_lt.mp fits]
      · simp only [measured, implausibleMeasurement, unmeasurable, false_or]
        by_cases more : hold < pricedSum cfg source turns
        · simp only [Option.filter, more, decide_true, if_true, Option.any_some, decide_eq_true_eq,
            true_and]
          split
          · rename_i beyond
            simp [beyond]
          · rename_i fits
            simp [Nat.not_lt.mp fits]
        · simp [Option.filter, more]

/-- A turn without its cents never makes a hold settle below its amount. -/
theorem le_settlementFigure (rt : SharedBudgetRuntime) (source : RolloutSource) (hold : Nat)
    (unmeasurable : ∀ cfg, rt.state = .valid cfg → ¬ Measurable cfg source turns) :
    hold ≤ settlementFigure rt source turns hold := by
  unfold settlementFigure
  cases file : rt.state with
  | absent => exact le_refl _
  | invalid reason => exact le_refl _
  | valid cfg =>
      have figure : hold ≤ turnsFigure cfg source turns hold := by
        rw [turnsFigure, if_neg (unmeasurable cfg file)]
        exact le_max_right _ _
      dsimp only
      split
      · exact le_refl _
      · exact figure

/-- A row as a `Stop` settles it, by these turns in this rollout; with a turn not measurable,
at no less than the hold. -/
structure SettledBy (rt : SharedBudgetRuntime) (source : RolloutSource) (turns : List String)
    (row : SharedPoolRow) : Prop where
  some_ : turns ≠ []
  amount : row.settledAmount = some (settlementFigure rt source turns row.amount)
  unmeasurable : (∀ cfg, rt.state = .valid cfg → ¬ Measurable cfg source turns) →
    row.amount ≤ settlementFigure rt source turns row.amount
  usage : ∃ known, row.usageKnown = some known ∧
    (known = true ↔ CountsMeasured rt source turns row.amount)

theorem SettledBy.congr {rt : SharedBudgetRuntime} {source : RolloutSource} {row row' : SharedPoolRow}
    (settled : SettledBy rt source turns row) (same : row'.amount = row.amount)
    (amount : row'.settledAmount = row.settledAmount) (usage : row'.usageKnown = row.usageKnown) :
    SettledBy rt source turns row' where
  some_ := settled.some_
  amount := by rw [amount, same, settled.amount]
  unmeasurable := by rw [same]; exact settled.unmeasurable
  usage := by rw [usage, same]; exact settled.usage

end Figures

/-! ## The newest measured hold -/

/-- When a hold settled, and among those of one time when it was opened. -/
def SharedPoolRow.age (h : SharedPoolRow) : WithBot OffsetDateTime ×ₗ OffsetDateTime :=
  toLex (h.settledAt.elim ⊥ WithBot.some, h.createdAt)

/-- No measured hold of the lane is newer: of the last to settle, the last to be opened, and of
equals the one scanned last. -/
def NewestMeasured (lane : String) (hold : SharedPoolReservationId) (s : LedgerStore) : Prop :=
  ∃ older row younger, (laneHolds s lane).filter measuredHold = older ++ row :: younger ∧
    row.id = hold ∧ (∀ h ∈ older, h.age ≤ row.age) ∧ ∀ h ∈ younger, h.age < row.age

theorem settledNewer_iff (row best : SharedPoolRow) :
    settledNewer row best = true ↔ best.age ≤ row.age := by
  simp only [settledNewer, SharedPoolRow.age, Prod.Lex.toLex_le_toLex]
  cases best.settledAt with
  | none =>
      cases row.settledAt with
      | none => simp
      | some r => simp
  | some b =>
      cases row.settledAt with
      | none => simp
      | some r => simp

theorem trueupCandidate_eq_some_iff (lane : String) (hold : SharedPoolReservationId)
    (s : LedgerStore) :
    trueupCandidate (laneHolds s lane) = some hold ↔ NewestMeasured lane hold s := by
  simp only [trueupCandidate, Option.map_eq_some_iff, pick_eq_some_iff settledNewer_iff]
  constructor
  · rintro ⟨row, ⟨older, younger, scan, before, after⟩, named⟩
    exact ⟨older, row, younger, scan, named, before, after⟩
  · rintro ⟨older, row, younger, scan, named, before, after⟩
    exact ⟨row, ⟨older, younger, scan, before, after⟩, named⟩

/-! ## The rows of a hold's true-ups -/

/-- The rows under a prefix are its charges, and none of them was pruned. -/
structure TrueupInv (p : String) (s : LedgerStore) : Prop where
  charges : ∀ r ∈ s.reservations, OfFamily p r → LedgerStore.under p r = true
  floor : LedgerStore.floorOf s.chargeFloor (principal, p) = 0

/-- What a `Stop` does to a hold before any true-up: it may settle it, by the turns the
hold accepted; under the hold's prefix nothing is written. -/
structure LaneStep (lane p : String) (hold : SharedPoolReservationId) (turns : List String)
    (actual : Nat → Option Nat) (s s' : LedgerStore) : Prop where
  inv : TrueupInv p s'
  turns_eq : s'.promptsForHold principal lane hold = turns
  sum : s'.chargedSum p = s.chargedSum p
  keys : ∀ key, startsWith key p = true → HoldsKey key s' → HoldsKey key s
  row : ∀ r ∈ s.reservations, r.id = hold → ∃ r' ∈ s'.reservations, Ages r r' ∧
    (r.state ≠ .settled → r'.state = .settled → turns ≠ [] ∧
      r'.settledAmount = some ((actual r.amount).getD r.amount) ∧
      r'.usageKnown = some (actual r.amount).isSome)

/-- From a store where the hold has accepted just these turns. -/
def Settling (lane p : String) (hold : SharedPoolReservationId) (turns : List String)
    (actual : Nat → Option Nat) (s s' : LedgerStore) : Prop :=
  TrueupInv p s → s.promptsForHold principal lane hold = turns → LaneStep lane p hold turns actual s s'

section Lane

variable {lane p : String} {hold : SharedPoolReservationId} {turns : List String}
  {actual : Nat → Option Nat} {s s' : LedgerStore}

theorem TrueupInv.of_aside (inv : TrueupInv p s) (aside : Aside p s.reservations s'.reservations)
    (floor : s'.chargeFloor = s.chargeFloor) : TrueupInv p s' where
  charges := by
    intro r' mem' mine
    obtain ⟨r, mem, was, same⟩ := aside.origin mem' mine
    rw [under_of_remarked p same]
    exact inv.charges r mem was
  floor := by rw [floor]; exact inv.floor

theorem LaneStep.of_aside (inv : TrueupInv p s) (known : s.promptsForHold principal lane hold = turns)
    (aside : Aside p s.reservations s'.reservations) (floor : s'.chargeFloor = s.chargeFloor)
    (prompts : s'.holdPrompts = s.holdPrompts)
    (row : ∀ r ∈ s.reservations, r.id = hold → ∃ r' ∈ s'.reservations, Ages r r' ∧
      (r.state ≠ .settled → r'.state = .settled → turns ≠ [] ∧
        r'.settledAmount = some ((actual r.amount).getD r.amount) ∧
        r'.usageKnown = some (actual r.amount).isSome)) :
    LaneStep lane p hold turns actual s s' where
  inv := inv.of_aside aside floor
  turns_eq := by
    rw [← known]
    simp only [LedgerStore.promptsForHold, prompts]
  sum := aside.chargedSum
  keys := fun key within holds => aside.holdsKey within holds
  row := row

theorem Settling.refl (s : LedgerStore) : Settling lane p hold turns actual s s :=
  fun inv known => ⟨inv, known, rfl, fun _ _ holds => holds,
    fun r mem _ => ⟨r, mem, .refl r, fun open_ settled => absurd settled open_⟩⟩

theorem Settling.trans {a b c : LedgerStore} (ab : Settling lane p hold turns actual a b)
    (bc : Settling lane p hold turns actual b c) : Settling lane p hold turns actual a c := by
  intro inv known
  have first := ab inv known
  have rest := bc first.inv first.turns_eq
  refine ⟨rest.inv, rest.turns_eq, rest.sum.trans first.sum,
    fun key within holds => first.keys key within (rest.keys key within holds), ?_⟩
  intro r mem named
  obtain ⟨r', mem', ages, settles⟩ := first.row r mem named
  obtain ⟨r'', mem'', later, settles'⟩ := rest.row r' mem' (ages.id.trans named)
  refine ⟨r'', mem'', ages.trans later, fun open_ settled => ?_⟩
  by_cases now : r'.state = .settled
  · obtain ⟨-, amount, usage, -⟩ := later.evolves.settled now
    rw [amount, usage]
    exact settles open_ now
  · rw [← ages.evolves.amount]
    exact settles' now settled

instance : Std.Refl (Settling lane p hold turns actual) := ⟨Settling.refl⟩

instance : IsTrans LedgerStore (Settling lane p hold turns actual) := ⟨fun _ _ _ => Settling.trans⟩

/-! ## A charge beside the hold -/

/-- What a charge leaves of a row that is not settled. -/
theorem Unbooked.open_row (same : Unbooked s s') {r r' : SharedPoolRow} (mem : r ∈ s.reservations)
    (mem' : r' ∈ s'.reservations) (named : r'.id = r.id) (open_ : r.state ≠ .settled) : r' = r := by
  obtain ⟨f, keeps, rows, marks⟩ := same.rows
  rw [rows] at mem'
  obtain ⟨r₀, mem₀, rfl⟩ := (Table.mem_update _ _ _ _).mp mem'
  have one : r₀ = r := s.reservations.eq_of_key mem₀ mem ((keeps r₀).symm.trans named)
  subst one
  obtain unchanged | ⟨settled, -⟩ := marks r₀ mem
  · exact unchanged
  · exact absurd settled open_

theorem bookCharge_settling (rt : SharedBudgetRuntime) (state : SharedBudgetFileState)
    (charge : BookedCharge) (fresh : SharedPoolReservationId) (plain : Unmarking charge.key)
    (foreign : startsWith charge.key p = false) :
    Moves (Settling lane p hold turns actual) (bookCharge rt state charge fresh) := by
  intro s inv known
  have quiet := bookCharge_quiet rt state charge fresh plain s
  obtain ⟨unbooked, -⟩ | ⟨row, outcome, booked, new, -, -⟩ := bookCharge_post rt state charge fresh s
  · refine .of_aside inv known unbooked.aside unbooked.frame.chargeFloor unbooked.frame.holdPrompts ?_
    intro r mem _
    obtain ⟨r', mem', ages⟩ := quiet.kept r mem
    refine ⟨r', mem', ages, fun open_ settled => ?_⟩
    rw [unbooked.open_row mem mem' ages.id open_] at settled
    exact absurd settled open_
  · have apart : ¬ OfFamily p row := by
      rintro ⟨-, named⟩
      rw [new.key, foreign] at named
      cases named
    refine .of_aside inv known (.added row apart booked.inserted) booked.frame.chargeFloor
      booked.frame.holdPrompts ?_
    intro r mem _
    exact ⟨r, (Table.mem_insert? booked.inserted r).mpr (.inl mem), .refl r,
      fun open_ settled => absurd settled open_⟩

end Lane

/-! ## The keys of the true-ups -/

theorem codexTurnKey_foreign (lane lane' turnId : String) (hold : SharedPoolReservationId) :
    startsWith (codexTurnKey lane turnId) (codexPrefix lane' hold) = false := by
  have kind : startsWith (codexTurnKey lane turnId) "codex-turn:" = true := by
    unfold codexTurnKey
    rw [String.append_assoc, String.append_assoc]
    exact startsWith_append _ _
  rw [Bool.eq_false_iff]
  intro named
  have other := startsWith_trans named (codexPrefix_kind lane' hold)
  rw [startsWith_conflict kind (by decide) (by decide)] at other
  cases other

/-- The prefixes of two holds of a lane start no common key. -/
theorem codexPrefix_inj {lane rest : String} {hold hold' : SharedPoolReservationId}
    (named : startsWith (codexPrefix lane hold' ++ rest) (codexPrefix lane hold) = true) :
    hold' = hold := by
  rw [startsWith, List.isPrefixOf_iff_prefix] at named
  simp only [codexPrefix, String.toList_append, List.append_assoc, List.prefix_append_right_inj]
    at named
  obtain ⟨tail, same⟩ := named
  rw [List.append_assoc] at same
  have text := (List.append_inj same ((Uuid.text_length _).trans (Uuid.text_length _).symm)).1
  cases hold
  cases hold'
  simp only [SharedPoolReservationId.mk.injEq]
  exact (Uuid.text_inj (String.toList_inj.mp text)).symm

theorem trueupKey_foreign {lane : String} {hold : SharedPoolReservationId} {other : SharedPoolRow}
    (apart : other.id ≠ hold) (measured delta : Nat) :
    startsWith (trueupCharge lane other measured delta).key (codexPrefix lane hold) = false := by
  rw [Bool.eq_false_iff]
  intro named
  simp only [trueupCharge, String.append_assoc] at named
  exact apart (codexPrefix_inj named)

/-! ## Settling by the hold's turns -/

section Settle

variable {lane p : String} {hold : SharedPoolReservationId} {turns : List String}

theorem holdForPrompt_mem {s : LedgerStore} {turnId : String}
    (mapped : s.holdForPrompt principal lane turnId = some hold) :
    turnId ∈ s.promptsForHold principal lane hold := by
  simp only [LedgerStore.holdForPrompt, Option.map_eq_some_iff] at mapped
  obtain ⟨prompt, found, names⟩ := mapped
  obtain ⟨mem, key⟩ := (Table.find?_eq_some_iff _ _ _).mp found
  simp only [HoldPrompt.key, Prod.mk.injEq] at key
  rw [LedgerStore.promptsForHold, List.mem_insertionSort, List.mem_map]
  refine ⟨prompt, List.mem_filter.mpr ⟨mem, ?_⟩, key.2.2⟩
  exact decide_eq_true ⟨key.1, key.2.1, names⟩

/-- A settlement of a row: the hold's own is by its turns. -/
theorem LaneStep.settled {actual : Nat → Option Nat} {s : LedgerStore} (inv : TrueupInv p s)
    (known : s.promptsForHold principal lane hold = turns) {row : SharedPoolRow}
    (mem : row ∈ s.reservations) (settleable : row.settleable = true) {value : Nat} {usage : Bool}
    (own : row.id = hold → turns ≠ [] ∧ value = (actual row.amount).getD row.amount ∧
      usage = (actual row.amount).isSome)
    (now : OffsetDateTime) (supplied : ExecutorAttribution)
    (columns : Option OffsetDateTime × Option (List String)) :
    LaneStep lane p hold turns actual s (s.updateReservation row.id
      (SharedPoolRow.settle value usage now supplied columns.1 columns.2) fun _ => rfl) := by
  have open_ : row.state ≠ .settled := by
    intro settled
    simp [SharedPoolRow.settleable, settled] at settleable
  have aside : Aside p s.reservations (s.reservations.updateAt row.id
      (SharedPoolRow.settle value usage now supplied columns.1 columns.2) fun _ => rfl) := by
    refine .moved _ _ fun r mem' => ?_
    by_cases here : r.id = row.id
    · have one : r = row := s.reservations.eq_of_key mem' mem here
      refine ⟨by rw [if_pos here]; rfl, fun mine => ?_⟩
      have charged := inv.charges r mem' mine
      simp only [LedgerStore.under, SharedPoolRow.chargedUnder, Bool.and_eq_true,
        decide_eq_true_eq] at charged
      exact absurd (one ▸ charged.1.1.2.2) open_
    · exact ⟨by rw [if_neg here], fun _ => .inl (if_neg here)⟩
  refine .of_aside inv known aside rfl rfl fun r mem' ours => ?_
  by_cases here : r.id = row.id
  · have one : r = row := s.reservations.eq_of_key mem' mem here
    subst one
    obtain ⟨some_, rfl, rfl⟩ := own ours
    refine ⟨_, (LedgerStore.mem_updateReservations _ _ _ _).mpr ⟨r, mem, if_pos rfl⟩,
      .of_move (.settle _ _ _ _ _ _ settleable) open_, fun _ _ => ⟨some_, rfl, rfl⟩⟩
  · refine ⟨r, (LedgerStore.mem_updateReservations _ _ _ _).mpr ⟨r, mem', if_neg here⟩, .refl r, ?_⟩
    exact fun open_ settled => absurd settled open_

/-- Settling a hold settles no other; the hold itself settles by its turns. -/
theorem settleCodexHold_settling (rt : SharedBudgetRuntime) (lane turnId : String)
    (target hold : SharedPoolReservationId) (source : RolloutSource) (turns : List String)
    (own : target = hold → turnId ∈ turns) :
    Moves (Settling lane p hold turns (codexActual rt source turns))
      (settleCodexHold rt lane turnId target source) := by
  intro s inv known
  suffices triple : Procedure.Triple (· = s) (settleCodexHold rt lane turnId target source)
      fun _ s' => LaneStep lane p hold turns (codexActual rt source turns) s s' from triple s rfl
  have still : ∀ s', s' = s → LaneStep lane p hold turns (codexActual rt source turns) s s' := by
    rintro s' rfl
    exact Settling.refl s' inv known
  unfold settleCodexHold
  refine Procedure.Triple.read_bind fun holds => ?_
  split
  · exact Procedure.Triple.pure fun s' same => still s' same.1
  rename_i row found
  split
  · exact Procedure.Triple.pure fun s' same => still s' same.1
  refine Procedure.Triple.read_bind fun accepted => ?_
  dsimp only
  split
  · exact Procedure.Triple.pure fun s' same => still s' same.1.1
  refine Procedure.Triple.bind
    (M := fun _ s' => LaneStep lane p hold turns (codexActual rt source turns) s s') ?_
    fun _ => Procedure.Triple.pure fun _ step => step
  refine Procedure.Triple.transact ?_ fun s' _ same _ => still s' same.1.1
  rintro before out next ⟨⟨rfl, listed⟩, read⟩ done
  show LaneStep lane p hold turns (codexActual rt source turns) before next
  obtain rfl | ⟨row', supplied, columns, found', settleable, -, rfl⟩ :=
    LedgerStore.settleSharedCore_ok done
  · exact still next rfl
  obtain ⟨mem', named'⟩ := (Table.find?_eq_some_iff _ _ _).mp found'
  -- The row of the listing is the row of the table.
  have here := List.mem_of_find?_eq_some found
  rw [← listed, laneHolds, LedgerStore.sharedLaneHolds, List.mem_filter] at here
  have one : row = row' := before.reservations.eq_of_key here.1 mem' named'.symm
  subst one
  refine .settled inv known mem' settleable (fun ours => ?_) rt.now supplied columns
  have names : row.id = target := by simpa using List.find?_some found
  have accepted_eq : accepted = turns := by rw [← read, ← known, ours]
  have mine : turnId ∈ turns := own (names.symm.trans ours)
  rw [accepted_eq, if_pos mine, codexActual]
  refine ⟨List.ne_nil_of_mem mine, ?_⟩
  cases rt.state with
  | absent => exact ⟨rfl, rfl⟩
  | invalid reason => exact ⟨rfl, rfl⟩
  | valid cfg => exact ⟨rfl, rfl⟩

theorem settleOwnTurn_settling (rt : SharedBudgetRuntime) (lane turnId : String)
    (hold : SharedPoolReservationId) (source : RolloutSource) (turns : List String)
    (fresh : SharedPoolReservationId) :
    Moves (Settling lane (codexPrefix lane hold) hold turns (codexActual rt source turns))
      (settleOwnTurn rt lane turnId source fresh) := by
  intro s inv known
  unfold settleOwnTurn
  rw [Procedure.read_bind_apply]
  cases mapped : s.holdForPrompt principal lane turnId with
  | some target =>
      refine settleCodexHold_settling rt lane turnId target hold source turns ?_ s inv known
      rintro rfl
      rw [← known]
      exact holdForPrompt_mem mapped
  | none =>
      have charged : Moves (Settling lane (codexPrefix lane hold) hold turns
          (codexActual rt source turns)) (chargeUnadmittedCodexTurn rt lane turnId source fresh) := by
        unfold chargeUnadmittedCodexTurn
        split
        · dsimp only
          split
          · exact .pure _
          · exact .bind (bookCharge_settling _ _ _ _ (unmarking_codexTurnKey lane turnId)
              (codexTurnKey_foreign lane lane turnId hold)) fun _ => .pure _
        · exact .pure _
      exact charged s inv known

theorem recoverHolds_settling (rt : SharedBudgetRuntime) (lane : String)
    (hold : SharedPoolReservationId) (source : RolloutSource) (turns : List String) (cap : Nat)
    (holds : List SharedPoolRow) :
    Moves (Settling lane p hold turns (codexActual rt source turns))
      (recoverHolds rt lane source cap holds) := by
  induction holds generalizing cap with
  | nil =>
      cases cap with
      | zero => exact .pure _
      | succ cap => exact .pure _
  | cons target rest ih =>
      cases cap with
      | zero => exact .pure _
      | succ cap =>
          intro s inv known
          rw [recoverHolds, Procedure.read_bind_apply]
          cases read : s.promptsForHold principal lane target.id with
          | nil => exact ih (cap + 1) s inv known
          | cons first others =>
              have own : target.id = hold → first ∈ turns := by
                rintro rfl
                rw [← known, read]
                exact List.mem_cons_self
              have settles := settleCodexHold_settling (p := p) rt lane first target.id hold source turns own
              have both := Moves.bind settles.caught fun _ => ih cap
              exact both s inv known

end Settle

/-! ## The true-up -/

/-- A key that is taken says no more than `start` and the charges. -/
def KeysUpTo (p : String) (start : Nat) (s : LedgerStore) : Prop :=
  ∀ n, HoldsKey (measuredKey p n) s → n ≤ start + s.chargedSum p

/-- The charges of the hold can be summed, its period is still the one of its pool, and
`bookCharge` does not refuse what the measurement adds. -/
def WithinLimits (rt : SharedBudgetRuntime) (cfg : SharedBudgetConfig) (lane : String)
    (row : SharedPoolRow) (measured : Nat) (fresh : SharedPoolReservationId) (s : LedgerStore) : Prop :=
  ∃ prior, s.sharedChargesTotalByKeyPrefix principal (codexPrefix lane row.id) ownerPoolPrefix =
      .ok prior ∧
    let delta := measured - min (row.settledAmount.getD 0 + prior) u64Max
    delta ≠ 0 → (∃ period, periodAt cfg row.createdAt = .ok period ∧ period.poolId = row.poolId) ∧
      ∃ outcome, (bookCharge rt rt.state (trueupCharge lane row measured delta) fresh s).1 = .ok outcome ∧
        ∀ reason, outcome ≠ .refused reason

/-- What a true-up leaves: either nothing is booked, and a measurement within the limits
was no more than what is there; or the total is the measurement. -/
structure TrueupPost (p : String) (start measured : Nat) (within : Prop) (s s' : LedgerStore) : Prop where
  inv : TrueupInv p s'
  keys : KeysUpTo p start s'
  kept : Quiet s s'
  total : s'.chargedSum p = s.chargedSum p ∧ (within → measured ≤ start + s.chargedSum p) ∨
    within ∧ start + s.chargedSum p ≤ measured ∧ start + s'.chargedSum p = measured

section Trueup

variable {lane : String} {s s' : LedgerStore} {row : SharedPoolRow} {start measured : Nat}
  {p : String}

theorem KeysUpTo.of_aside (keys : KeysUpTo p start s)
    (aside : Aside p s.reservations s'.reservations) : KeysUpTo p start s' := by
  intro n holds
  rw [aside.chargedSum]
  exact keys n (aside.holdsKey (startsWith_measuredKey p n) holds)

theorem TrueupPost.unwritten {within : Prop} (inv : TrueupInv p s) (keys : KeysUpTo p start s)
    (reached : within → measured ≤ start + s.chargedSum p) :
    TrueupPost p start measured within s s :=
  ⟨inv, keys, .refl s, .inl ⟨rfl, reached⟩⟩

theorem trueupCharge_key (lane : String) (row : SharedPoolRow) (measured delta : Nat) :
    (trueupCharge lane row measured delta).key = measuredKey (codexPrefix lane row.id) measured :=
  String.append_assoc

/-- Booking what a measurement adds to a total it is above. -/
theorem bookCharge_trueup {rt : SharedBudgetRuntime} {cfg : SharedBudgetConfig}
    (inv : TrueupInv (codexPrefix lane row.id) s)
    (keys : KeysUpTo (codexPrefix lane row.id) start s) (valid : rt.state = .valid cfg)
    {delta : Nat} (more : delta ≠ 0) (above : start + s.chargedSum (codexPrefix lane row.id) + delta = measured)
    {within : Prop} (fresh : SharedPoolReservationId)
    (limits : within ↔ ∃ outcome, (bookCharge rt rt.state (trueupCharge lane row measured delta) fresh s).1 =
      .ok outcome ∧ ∀ reason, outcome ≠ .refused reason) :
    TrueupPost (codexPrefix lane row.id) start measured within s
      (bookCharge rt rt.state (trueupCharge lane row measured delta) fresh s).2 := by
  have quiet := bookCharge_quiet rt rt.state _ fresh (unmarking_trueup lane row measured delta) s
  have answers := bookCharge_answers rt rt.state (trueupCharge lane row measured delta) fresh s
  have key := trueupCharge_key lane row measured delta
  obtain ⟨unbooked, replayed⟩ | ⟨new, outcome, one, booking, answer, fresh_⟩ :=
    bookCharge_post rt rt.state (trueupCharge lane row measured delta) fresh s
  · have aside : Aside (codexPrefix lane row.id) s.reservations _ := unbooked.aside
    refine ⟨inv.of_aside aside unbooked.frame.chargeFloor, keys.of_aside aside, quiet,
      .inl ⟨aside.chargedSum, fun holds => ?_⟩⟩
    obtain ⟨outcome, answer, taken⟩ := limits.mp holds
    exfalso
    obtain ⟨reason, refused⟩ | ⟨already, named⟩ | unready := answers outcome answer
    · exact taken reason refused
    · -- The key is free: it says more than is accounted for.
      have held := (replayed outcome already answer named).2
      rw [key] at held
      have le := keys measured held
      omega
    · rw [valid] at unready
      cases unready
  · have charged : LedgerStore.under (codexPrefix lane row.id) new = true :=
      booking.under (by rw [key]; exact startsWith_measuredKey _ _)
    have amount : new.settledAmount.getD 0 = delta := by
      rw [booking.charged.2.2]
      rfl
    have sum := chargedSum_insert one.inserted charged
    rw [amount] at sum
    refine ⟨⟨?_, by rw [one.frame.chargeFloor]; exact inv.floor⟩, fun n holds => ?_, quiet, .inr ⟨?_, ?_, ?_⟩⟩
    · intro r mem mine
      rcases (Table.mem_insert? one.inserted r).mp mem with old | rfl
      · exact inv.charges r old mine
      · exact charged
    · rw [sum]
      rcases holdsKey_insert one.inserted holds with old | here
      · have le := keys n old
        omega
      · rw [booking.key, key] at here
        have same := measuredKey_injective here
        omega
    · refine limits.mpr ⟨outcome, answer, ?_⟩
      rintro reason rfl
      cases fresh_
    · omega
    · rw [sum]
      omega

/-- A true-up books what the measurement adds to the settled amount and the charges. -/
theorem bookTrueup_post {rt : SharedBudgetRuntime} {cfg : SharedBudgetConfig} (measured : Nat)
    (inv : TrueupInv (codexPrefix lane row.id) s) (valid : rt.state = .valid cfg)
    (keys : KeysUpTo (codexPrefix lane row.id) (row.settledAmount.getD 0) s) (fits : measured ≤ u64Max)
    (fresh : SharedPoolReservationId) :
    TrueupPost (codexPrefix lane row.id) (row.settledAmount.getD 0) measured
      (WithinLimits rt cfg lane row measured fresh s) s
      (bookTrueup rt cfg lane row (row.settledAmount.getD 0) measured fresh s).2 := by
  unfold bookTrueup
  rw [Procedure.read_bind_apply]
  cases read : s.sharedChargesTotalByKeyPrefix principal (codexPrefix lane row.id) ownerPoolPrefix with
  | error e =>
      refine .unwritten inv keys ?_
      rintro ⟨prior, known, -⟩
      rw [read] at known
      cases known
  | ok prior =>
      have prior_eq := readTotal_unfolded inv.floor read
      dsimp only
      generalize amount : measured - min (row.settledAmount.getD 0 + prior) u64Max = delta
      by_cases nothing : delta = 0
      · rw [if_pos nothing]
        refine .unwritten inv keys fun _ => ?_
        omega
      · rw [if_neg nothing]
        have limits : WithinLimits rt cfg lane row measured fresh s ↔
            (∃ period, periodAt cfg row.createdAt = .ok period ∧ period.poolId = row.poolId) ∧
              ∃ outcome, (bookCharge rt rt.state (trueupCharge lane row measured delta) fresh s).1 =
                .ok outcome ∧ ∀ reason, outcome ≠ .refused reason := by
          constructor
          · rintro ⟨prior', known, rest⟩
            rw [read] at known
            cases known
            rw [amount] at rest
            exact rest nothing
          · intro rest
            refine ⟨prior, read, ?_⟩
            rw [amount]
            exact fun _ => rest
        have misplaced : ∀ {s'}, s' = s →
            ¬ (∃ period, periodAt cfg row.createdAt = .ok period ∧ period.poolId = row.poolId) →
            TrueupPost (codexPrefix lane row.id) (row.settledAmount.getD 0) measured
              (WithinLimits rt cfg lane row measured fresh s) s s' := by
          rintro s' rfl elsewhere
          exact .unwritten inv keys fun holds => absurd (limits.mp holds).1 elsewhere
        unfold periodOf
        cases placed : periodAt cfg row.createdAt with
        | error e =>
            refine misplaced rfl ?_
            rintro ⟨period, found, -⟩
            rw [placed] at found
            cases found
        | ok period =>
            show TrueupPost _ _ _ _ s ((if period.poolId ≠ row.poolId then _ else _ : Daemon Unit) s).2
            by_cases here : period.poolId = row.poolId
            · rw [if_neg (not_not.mpr here)]
              rw [Procedure.bind_pure_apply]
              refine bookCharge_trueup inv keys valid nothing ?_ fresh ?_
              · omega
              · rw [limits]
                exact and_iff_right ⟨period, placed, here⟩
            · rw [if_pos here]
              refine misplaced rfl ?_
              rintro ⟨period', found, named⟩
              rw [placed] at found
              cases found
              exact here named

/-- A measurement that the true-up of a hold makes and may book: every turn of the hold has
ended and has its cents. -/
structure Remeasures (rt : SharedBudgetRuntime) (cfg : SharedBudgetConfig) (source : RolloutSource)
    (turns : List String) (measured : Nat) : Prop where
  file : rt.state = .valid cfg
  some_ : turns ≠ []
  complete : ∀ turnId ∈ turns, source.rollout.complete turnId = true
  measurable : Measurable cfg source turns
  measured_eq : measured = pricedSum cfg source turns

/-- What a step leaves of the true-ups of a measured hold: the total is the larger of what
it was and of a measurement that the step reached. -/
structure TrueupStep (p : String) (start : Nat) (reached : Nat → Prop) (s s' : LedgerStore) : Prop where
  inv : TrueupInv p s'
  keys : KeysUpTo p start s'
  total : s'.chargedSum p = s.chargedSum p ∧ (∀ n, reached n → n ≤ start + s.chargedSum p) ∨
    ∃ n, reached n ∧ (∀ n', reached n' → n' = n) ∧ start + s.chargedSum p ≤ n ∧
      start + s'.chargedSum p = n

theorem trueupCodexHold_other {hold other : SharedPoolReservationId} (apart : other ≠ hold)
    (rt : SharedBudgetRuntime) (lane : String) (source : RolloutSource)
    (fresh : SharedPoolReservationId) (turns : List String) (actual : Nat → Option Nat) :
    Moves (Settling lane (codexPrefix lane hold) hold turns actual)
      (trueupCodexHold rt lane other source fresh) := by
  unfold trueupCodexHold
  split
  · split
    · exact .pure _
    refine .bind (.read _) fun holds => ?_
    split
    · exact .pure _
    rename_i row found
    have names : row.id = other := by simpa using List.find?_some found
    split
    · unfold remeasureHold
      refine .bind (.read _) fun turns => ?_
      split
      · exact .pure _
      split
      · unfold bookTrueup
        refine .bind (.read _) fun total => ?_
        split
        · exact .fail _
        dsimp only
        split
        · exact .pure _
        refine .bind (moves_periodOf _ _) fun period => ?_
        split
        · exact .pure _
        · exact .bind (bookCharge_settling _ _ _ _ (unmarking_trueup _ _ _ _)
            (trueupKey_foreign (names ▸ apart) _ _)) fun _ => .pure _
      · exact .pure _
    · exact .pure _
  · exact .pure _

/-- The true-up of the hold itself, which the lane lists as measured. -/
theorem trueupCodexHold_own (rt : SharedBudgetRuntime) {hold : SharedPoolReservationId}
    {turns : List String} (named : row.id = hold) (inv : TrueupInv (codexPrefix lane hold) s)
    (listed : row ∈ laneHolds s lane) (measured : measuredHold row = true)
    (known : s.promptsForHold principal lane hold = turns)
    (keys : KeysUpTo (codexPrefix lane hold) (row.settledAmount.getD 0) s) (source : RolloutSource)
    (fresh : SharedPoolReservationId) :
    TrueupStep (codexPrefix lane hold) (row.settledAmount.getD 0)
      (fun n => ∃ cfg, Remeasures rt cfg source turns n ∧ WithinLimits rt cfg lane row n fresh s) s
      (trueupCodexHold rt lane hold source fresh s).2 := by
  subst named
  have unwritten : (∀ cfg n, ¬ Remeasures rt cfg source turns n) →
      TrueupStep (codexPrefix lane row.id) (row.settledAmount.getD 0)
        (fun n => ∃ cfg, Remeasures rt cfg source turns n ∧ WithinLimits rt cfg lane row n fresh s)
        s s := by
    intro never
    refine ⟨inv, keys, .inl ⟨rfl, ?_⟩⟩
    rintro n ⟨cfg, remeasures, -⟩
    exact absurd remeasures (never cfg n)
  unfold trueupCodexHold
  cases file : rt.state with
  | absent => exact unwritten fun cfg n remeasures => by cases file.symm.trans remeasures.file
  | invalid reason => exact unwritten fun cfg n remeasures => by cases file.symm.trans remeasures.file
  | valid cfg =>
  dsimp only
  by_cases unnamed : (source.model.isNone || source.path.isNone) = true
  · rw [if_pos unnamed]
    -- Without a model or a path no turn has cents.
    refine unwritten fun cfg' n remeasures => ?_
    obtain ⟨first, rest, rfl⟩ := List.exists_cons_of_ne_nil remeasures.some_
    have cents := remeasures.measurable.2 first List.mem_cons_self
    simp only [turnCents] at cents
    rcases Bool.or_eq_true _ _ ▸ unnamed with model | path
    · rw [Option.isNone_iff_eq_none.mp model] at cents
      cases cents
    · rw [Option.isNone_iff_eq_none.mp path] at cents
      revert cents
      cases source.model.filter fun m => (cfg'.table.lookup m).isSome <;> intro cents <;> cases cents
  rw [if_neg unnamed]
  rw [Procedure.read_bind_apply]
  have found : (laneHolds s lane).find? (fun h => h.id = row.id) = some row := by
    cases first : (laneHolds s lane).find? fun h => h.id = row.id with
    | none => exact absurd (decide_eq_true rfl) (List.find?_eq_none.mp first row listed)
    | some other =>
        have names : other.id = row.id := by simpa using List.find?_some first
        have mem := (List.mem_filter.mp (List.mem_of_find?_eq_some first)).1
        rw [s.reservations.eq_of_key mem (List.mem_filter.mp listed).1 names]
  rw [found]
  dsimp only
  rw [if_pos measured]
  rw [remeasureHold, Procedure.read_bind_apply, known]
  by_cases open_ : (turns.isEmpty || !turns.all source.rollout.complete) = true
  · rw [if_pos open_]
    refine unwritten fun cfg' n remeasures => ?_
    have ended := List.all_eq_true.mpr remeasures.complete
    rw [ended, Bool.not_true, Bool.or_false, List.isEmpty_iff] at open_
    exact remeasures.some_ open_
  rw [if_neg open_]
  simp only [Bool.or_eq_true, Bool.not_eq_true', not_or, Bool.not_eq_false, List.isEmpty_iff,
    List.all_eq_true] at open_
  have configured_ : ∀ {cfg' n}, Remeasures rt cfg' source turns n → cfg' = cfg := by
    intro cfg' n remeasures
    have same := remeasures.file.symm.trans file
    cases same
    rfl
  obtain ⟨measurable, result⟩ | ⟨unmeasurable, reason, result⟩ :=
    measureCodexTurns_cases cfg source open_.1 row.amount
  · rw [result]
    dsimp only
    have post := bookTrueup_post (pricedSum cfg source turns) inv file keys
      (min_le_right _ _) fresh
    have reached : ∀ n, (∃ cfg', Remeasures rt cfg' source turns n ∧
        WithinLimits rt cfg' lane row n fresh s) → n = pricedSum cfg source turns ∧
        WithinLimits rt cfg lane row (pricedSum cfg source turns) fresh s := by
      rintro n ⟨cfg', remeasures, within⟩
      obtain rfl := configured_ remeasures
      obtain rfl := remeasures.measured_eq
      exact ⟨rfl, within⟩
    refine ⟨post.inv, post.keys, ?_⟩
    obtain ⟨same, within⟩ | ⟨within, above, total⟩ := post.total
    · refine .inl ⟨same, fun n seen => ?_⟩
      obtain ⟨rfl, limits⟩ := reached n seen
      exact within limits
    · exact .inr ⟨_, ⟨cfg, ⟨file, open_.1, open_.2, measurable, rfl⟩, within⟩,
        fun n seen => (reached n seen).1, above, total⟩
  · rw [result]
    have never : ∀ cfg' n, ¬ Remeasures rt cfg' source turns n := by
      intro cfg' n remeasures
      obtain rfl := configured_ remeasures
      exact unmeasurable remeasures.measurable
    cases (some (pricedSum cfg source turns)).filter fun sum => decide (row.amount < sum) with
    | none => exact unwritten never
    | some sum => exact unwritten never

end Trueup

/-! ## One event of a lane -/

/-- An event of a run: a `Stop` of the lane's session, or an operation of another writer. -/
inductive CodexOp where
  | stop (rt : SharedBudgetRuntime) (turnId : String) (source : RolloutSource)
      (fresh trueupFresh : SharedPoolReservationId)
  | other (op : SharedPoolOp)

/-- The store a `Stop`'s true-up finds. -/
def beforeTrueup (rt : SharedBudgetRuntime) (lane turnId : String) (source : RolloutSource)
    (fresh : SharedPoolReservationId) (s : LedgerStore) : LedgerStore :=
  let own := (settleOwnTurn rt lane turnId source fresh s).2
  (recoverHolds rt lane source maxCodexRecoveriesPerSettle ((laneHolds own lane).filter orphanedHold)
    own).2

namespace CodexOp

def apply (sessionId : String) (s : LedgerStore) : CodexOp → LedgerStore
  | .stop rt turnId source fresh trueupFresh =>
      (settleCodexTurn rt sessionId turnId source fresh trueupFresh s).2
  | .other op => op.apply s

/-- Another writer uses no key of the hold's true-ups, and does not settle the hold. -/
def Beside (lane : String) (hold : SharedPoolReservationId) (s : LedgerStore) : CodexOp → Prop
  | .stop _ _ _ _ _ => True
  | .other op => Foreign (codexPrefix lane hold) op ∧
      ∀ r ∈ s.reservations, r.id = hold → r.state ≠ .settled →
        ∀ r' ∈ (op.apply s).reservations, r'.id = hold → r'.state ≠ .settled

/-- The event measures the hold again, which is the newest measured one of its lane, all its
turns ended and with their cents, and within the limits of a booking. -/
def Reaches (lane : String) (hold : SharedPoolReservationId) (s : LedgerStore)
    (measured : Nat) : CodexOp → Prop
  | .stop rt turnId source fresh trueupFresh =>
      rt.codexEnrolled = true ∧ usablePrompt (some turnId) = some turnId ∧
        NewestMeasured lane hold s ∧
        ∃ cfg row, Remeasures rt cfg source (s.promptsForHold principal lane hold) measured ∧
          (beforeTrueup rt lane turnId source fresh s).getSharedReservation hold = some row ∧
          WithinLimits rt cfg lane row measured trueupFresh (beforeTrueup rt lane turnId source fresh s)
  | .other _ => False

end CodexOp

section Steps

variable {sessionId lane : String} {hold : SharedPoolReservationId} {s : LedgerStore}

theorem beforeTrueup_settling (rt : SharedBudgetRuntime) (lane turnId : String)
    (source : RolloutSource) (fresh hold : SharedPoolReservationId) (turns : List String)
    (s : LedgerStore) :
    Settling lane (codexPrefix lane hold) hold turns (codexActual rt source turns) s
      (beforeTrueup rt lane turnId source fresh s) := by
  have own := settleOwnTurn_settling rt lane turnId hold source turns fresh s
  exact own.trans (recoverHolds_settling rt lane hold source turns _ _ _)

/-- The recoveries never fail: what one hold does is caught. -/
theorem recoverHolds_answer (rt : SharedBudgetRuntime) (lane : String) (source : RolloutSource)
    (cap : Nat) (holds : List SharedPoolRow) (s : LedgerStore) :
    (recoverHolds rt lane source cap holds s).1 = .ok () := by
  induction holds generalizing cap s with
  | nil => cases cap <;> rfl
  | cons target rest ih =>
      cases cap with
      | zero => rfl
      | succ cap =>
          rw [recoverHolds, Procedure.read_bind_apply]
          cases s.promptsForHold principal lane target.id with
          | nil => exact ih (cap + 1) s
          | cons first others => exact ih cap (settleCodexHold rt lane first target.id source s).2

theorem recoverCodexLane_store (rt : SharedBudgetRuntime) (lane : String)
    (target : Option SharedPoolReservationId) (source : RolloutSource) (fresh : SharedPoolReservationId)
    (s : LedgerStore) :
    let recovered := (recoverHolds rt lane source maxCodexRecoveriesPerSettle
      ((laneHolds s lane).filter orphanedHold) s).2
    recoverCodexLane rt lane target source fresh s =
      (.ok (), match target with
        | none => recovered
        | some id => (trueupCodexHold rt lane id source fresh recovered).2) := by
  have answer := recoverHolds_answer rt lane source maxCodexRecoveriesPerSettle
    ((laneHolds s lane).filter orphanedHold) s
  show (recoverHolds rt lane source maxCodexRecoveriesPerSettle
    ((laneHolds s lane).filter orphanedHold) >>= fun _ => _) s = _
  rw [Procedure.bind_apply]
  generalize recoverHolds rt lane source maxCodexRecoveriesPerSettle
    ((laneHolds s lane).filter orphanedHold) s = done at answer
  obtain ⟨r, s'⟩ := done
  obtain rfl : r = .ok () := answer
  cases target with
  | none => rfl
  | some id => rfl

/-- A `Stop` does nothing, or its own turn and the recoveries and then the true-up of the
lane's newest measured hold. -/
theorem settleCodexTurn_cases (session : clientLane sessionId (some codexProvider) = .ok lane)
    (rt : SharedBudgetRuntime) (turnId : String) (source : RolloutSource)
    (fresh trueupFresh : SharedPoolReservationId) (s : LedgerStore) :
    let s' := (settleCodexTurn rt sessionId turnId source fresh trueupFresh s).2
    (s' = s ∧ (absent rt.state = true ∨ rt.codexEnrolled = false ∨
        usablePrompt (some turnId) ≠ some turnId)) ∨
      (s' = match trueupCandidate (laneHolds s lane) with
        | none => beforeTrueup rt lane turnId source fresh s
        | some id => (trueupCodexHold rt lane id source trueupFresh
            (beforeTrueup rt lane turnId source fresh s)).2) ∧
      rt.codexEnrolled = true ∧ usablePrompt (some turnId) = some turnId := by
  dsimp only
  unfold settleCodexTurn
  by_cases dark : (absent rt.state || !rt.codexEnrolled) = true
  · rw [if_pos dark]
    refine .inl ⟨rfl, ?_⟩
    rcases Bool.or_eq_true _ _ ▸ dark with none_ | unmarked
    · exact .inl none_
    · exact .inr (.inl (by simpa using unmarked))
  rw [if_neg dark, session]
  simp only [Bool.or_eq_true, Bool.not_eq_true', not_or, Bool.not_eq_false] at dark
  cases usable : usablePrompt (some turnId) with
  | none => exact .inl ⟨rfl, .inr (.inr fun taken => by cases taken)⟩
  | some turnId' =>
      have same : turnId = turnId' := by
        simp only [usablePrompt, Option.filter_eq_some_iff] at usable
        exact Option.some.inj usable.1
      subst same
      refine .inr ⟨?_, dark.2, rfl⟩
      dsimp only
      show ((recoverCodexLane rt lane (trueupCandidate (laneHolds s lane)) source trueupFresh >>=
        fun _ => Procedure.ended (settleOwnTurn rt lane turnId source fresh s).1)
        (settleOwnTurn rt lane turnId source fresh s).2).2 = _
      rw [Procedure.bind_apply, recoverCodexLane_store]
      cases (settleOwnTurn rt lane turnId source fresh s).1 <;> rfl

/-- The hold's row, as its admission opened it, on its lane. -/
structure HoldRow (lane : String) (hold : SharedPoolReservationId) (s : LedgerStore)
    (r : SharedPoolRow) : Prop where
  mem : r ∈ s.reservations
  id : r.id = hold
  turn : TurnRow r
  lane : r.sessionId = lane
  agent : r.agentId = none

variable {r : SharedPoolRow}

theorem HoldRow.later {s' : LedgerStore} (row : HoldRow lane hold s r) {r' : SharedPoolRow}
    (mem : r' ∈ s'.reservations) (later : Evolves r r') : HoldRow lane hold s' r' where
  mem := mem
  id := (congrArg Prod.fst later.ident).trans row.id
  turn := row.turn.evolves later
  lane := (row.turn.lane later).1.trans row.lane
  agent := (row.turn.lane later).2.1.trans row.agent

theorem HoldRow.one (row : HoldRow lane hold s r) {r' : SharedPoolRow} (mem : r' ∈ s.reservations)
    (named : r'.id = hold) : r' = r :=
  s.reservations.eq_of_key mem row.mem (named.trans row.id.symm)

theorem HoldRow.found (row : HoldRow lane hold s r) : s.getSharedReservation hold = some r :=
  (Table.find?_eq_some_iff _ _ _).mpr ⟨row.mem, row.id⟩

/-- The lane lists its hold. -/
theorem HoldRow.listed (row : HoldRow lane hold s r) : r ∈ laneHolds s lane := by
  refine List.mem_filter.mpr ⟨row.mem, ?_⟩
  have kind : r.executorKind = some .agentAbsent := by rw [row.turn.kind, row.agent]; rfl
  simp only [SharedPoolRow.onLane, mainLane, row.turn.turnHold, row.turn.pool, Bool.and_true]
  exact decide_eq_true ⟨row.turn.principalId, row.lane, row.agent, by rw [kind]; rfl⟩

theorem measuredHold_settled (measured : measuredHold r = true) : r.state = .settled := by
  simp only [measuredHold, Bool.and_eq_true, decide_eq_true_eq] at measured
  exact measured.1.1

/-- A settled hold stays measured or unmeasured, at its amount. -/
theorem Evolves.measured {r' : SharedPoolRow} (later : Evolves r r') (settled : r.state = .settled) :
    measuredHold r' = measuredHold r ∧ r'.settledAmount = r.settledAmount := by
  obtain ⟨state, amount, usage, -⟩ := later.settled settled
  refine ⟨?_, amount⟩
  simp only [measuredHold, state, settled, amount, usage]

theorem trueupCandidate_mem {holds : List SharedPoolRow} (newest : trueupCandidate holds = some hold) :
    ∃ r ∈ holds, r.id = hold ∧ measuredHold r = true := by
  simp only [trueupCandidate, Option.map_eq_some_iff] at newest
  obtain ⟨r, picked, named⟩ := newest
  obtain ⟨mem, measured⟩ := List.mem_filter.mp (pick_mem picked)
  exact ⟨r, mem, named, measured⟩

/-- What one event does to a hold: a `Stop` may settle it, by the hold's turns; while it is
not measured nothing is booked under its prefix, and afterwards it is trued up. -/
structure HoldStep (lane : String) (hold : SharedPoolReservationId) (s : LedgerStore) (op : CodexOp)
    (r : SharedPoolRow) (s' : LedgerStore) : Prop where
  inv : TrueupInv (codexPrefix lane hold) s'
  row : ∃ r' ∈ s'.reservations, Evolves r r' ∧ (r.state ≠ .settled → r'.state = .settled →
    ∃ rt turnId source fresh trueupFresh, op = .stop rt turnId source fresh trueupFresh ∧
      SettledBy rt source (s.promptsForHold principal lane hold) r')
  calm : measuredHold r = false → s'.chargedSum (codexPrefix lane hold) =
      s.chargedSum (codexPrefix lane hold) ∧
    (∀ key, startsWith key (codexPrefix lane hold) = true → HoldsKey key s' → HoldsKey key s) ∧
    ∀ n, ¬ op.Reaches lane hold s n
  trued : measuredHold r = true →
    TrueupStep (codexPrefix lane hold) (r.settledAmount.getD 0) (fun n => op.Reaches lane hold s n) s s'

/-- The keys under a hold's prefix, from when the hold is measured. -/
def KeysKnown (lane : String) (hold : SharedPoolReservationId) (s : LedgerStore) (r : SharedPoolRow) :
    Prop :=
  measuredHold r = true → KeysUpTo (codexPrefix lane hold) (r.settledAmount.getD 0) s

/-- An event that does not reach the hold's true-up. -/
theorem HoldStep.of_lane {rt : SharedBudgetRuntime} {turnId : String} {source : RolloutSource}
    {fresh trueupFresh : SharedPoolReservationId} {s' : LedgerStore} (row : HoldRow lane hold s r)
    (keys : KeysKnown lane hold s r)
    (step : LaneStep lane (codexPrefix lane hold) hold (s.promptsForHold principal lane hold)
      (codexActual rt source (s.promptsForHold principal lane hold)) s s')
    (unreached : ∀ n, ¬ (CodexOp.stop rt turnId source fresh trueupFresh).Reaches lane hold s n) :
    HoldStep lane hold s (.stop rt turnId source fresh trueupFresh) r s' where
  inv := step.inv
  row := by
    obtain ⟨r', mem', ages, settles⟩ := step.row r row.mem row.id
    refine ⟨r', mem', ages.evolves, fun open_ settled => ?_⟩
    obtain ⟨some_, amount, usage⟩ := settles open_ settled
    have same : r'.amount = r.amount := ages.evolves.amount
    exact ⟨rt, turnId, source, fresh, trueupFresh, rfl,
      { some_
        amount := by rw [amount, same, codexActual_getD rt source some_]
        unmeasurable := le_settlementFigure rt source _
        usage := ⟨_, usage, by rw [same]; exact codexActual_isSome_iff rt source some_ _⟩ }⟩
  calm := fun _ => ⟨step.sum, step.keys, unreached⟩
  trued := by
    intro measured
    refine ⟨step.inv, fun n holds => ?_, .inl ⟨step.sum, fun n seen => absurd seen (unreached n)⟩⟩
    rw [step.sum]
    exact keys measured n (step.keys _ (startsWith_measuredKey _ n) holds)

theorem other_step (row : HoldRow lane hold s r) (inv : TrueupInv (codexPrefix lane hold) s)
    (keys : KeysKnown lane hold s r) {op : SharedPoolOp} (beside : (CodexOp.other op).Beside lane hold s) :
    HoldStep lane hold s (.other op) r (op.apply s) := by
  obtain ⟨foreign, unsettled⟩ := beside
  have aside := foreign.aside inv.charges
  refine ⟨inv.of_aside aside (apply_chargeFloor s op), ?_, ?_, ?_⟩
  · obtain ⟨r', mem', later⟩ := (LedgerStore.apply_write s op).evolves r row.mem
    have named : r'.id = hold := (congrArg Prod.fst later.ident).trans row.id
    exact ⟨r', mem', later, fun open_ settled =>
      absurd settled (unsettled r row.mem row.id open_ r' mem' named)⟩
  · exact fun _ => ⟨aside.chargedSum, fun key within holds => aside.holdsKey within holds, fun _ => id⟩
  · exact fun measured => ⟨inv.of_aside aside (apply_chargeFloor s op), (keys measured).of_aside aside,
      .inl ⟨aside.chargedSum, fun _ => False.elim⟩⟩

/-- The lane's newest measured hold is trued up. -/
theorem trueup_step (row : HoldRow lane hold s r) (inv : TrueupInv (codexPrefix lane hold) s)
    (keys : KeysKnown lane hold s r) {rt : SharedBudgetRuntime} {turnId : String}
    (enrolled : rt.codexEnrolled = true) (usable : usablePrompt (some turnId) = some turnId)
    (newest : trueupCandidate (laneHolds s lane) = some hold) (source : RolloutSource)
    (fresh trueupFresh : SharedPoolReservationId) :
    HoldStep lane hold s (.stop rt turnId source fresh trueupFresh) r
      (trueupCodexHold rt lane hold source trueupFresh
        (beforeTrueup rt lane turnId source fresh s)).2 := by
  obtain ⟨r₀, listed, named, measured⟩ := trueupCandidate_mem newest
  rw [row.one (List.mem_filter.mp listed).1 named] at measured
  have settled := measuredHold_settled measured
  have first := beforeTrueup_settling rt lane turnId source fresh hold
    (s.promptsForHold principal lane hold) s inv rfl
  obtain ⟨r', mem', ages, -⟩ := first.row r row.mem row.id
  obtain ⟨still, amount⟩ := ages.evolves.measured settled
  have mid : HoldRow lane hold (beforeTrueup rt lane turnId source fresh s) r' :=
    row.later mem' ages.evolves
  have midKeys : KeysUpTo (codexPrefix lane hold) (r'.settledAmount.getD 0)
      (beforeTrueup rt lane turnId source fresh s) := by
    intro n holds
    rw [amount, first.sum]
    exact keys measured n (first.keys _ (startsWith_measuredKey _ n) holds)
  have step := trueupCodexHold_own rt mid.id first.inv mid.listed (still.trans measured)
    first.turns_eq midKeys source trueupFresh
  have reached : ∀ n, (CodexOp.stop rt turnId source fresh trueupFresh).Reaches lane hold s n ↔
      ∃ cfg, Remeasures rt cfg source (s.promptsForHold principal lane hold) n ∧
        WithinLimits rt cfg lane r' n trueupFresh (beforeTrueup rt lane turnId source fresh s) := by
    intro n
    constructor
    · rintro ⟨-, -, -, cfg, row', remeasures, found, within⟩
      rw [mid.found] at found
      cases found
      exact ⟨cfg, remeasures, within⟩
    · rintro ⟨cfg, remeasures, within⟩
      exact ⟨enrolled, usable, (trueupCandidate_eq_some_iff lane hold s).mp newest, cfg, r', remeasures,
        mid.found, within⟩
  obtain ⟨r'', mem'', later⟩ := (trueupCodexHold_quiet rt lane hold source trueupFresh _).kept r' mem'
  refine ⟨step.inv, ⟨r'', mem'', (ages.trans later).evolves, fun open_ => absurd settled open_⟩, ?_, ?_⟩
  · intro unmeasured
    rw [measured] at unmeasured
    cases unmeasured
  · intro _
    rw [← amount]
    refine ⟨step.inv, step.keys, ?_⟩
    simp only [reached, ← first.sum]
    exact step.total

theorem stop_step (session : clientLane sessionId (some codexProvider) = .ok lane)
    (row : HoldRow lane hold s r) (inv : TrueupInv (codexPrefix lane hold) s)
    (keys : KeysKnown lane hold s r) (rt : SharedBudgetRuntime) (turnId : String)
    (source : RolloutSource) (fresh trueupFresh : SharedPoolReservationId) :
    HoldStep lane hold s (.stop rt turnId source fresh trueupFresh) r
      (settleCodexTurn rt sessionId turnId source fresh trueupFresh s).2 := by
  have first := beforeTrueup_settling rt lane turnId source fresh hold
    (s.promptsForHold principal lane hold) s
  obtain ⟨same, dark⟩ | ⟨same, enrolled, usable⟩ :=
    settleCodexTurn_cases session rt turnId source fresh trueupFresh s
  · rw [same]
    refine .of_lane row keys (Settling.refl s inv rfl) ?_
    rintro n ⟨enrolled, usable, -, cfg, -, remeasures, -⟩
    rcases dark with none_ | unmarked | blank
    · rw [remeasures.file] at none_
      cases none_
    · rw [unmarked] at enrolled
      cases enrolled
    · exact blank usable
  cases newest : trueupCandidate (laneHolds s lane) with
  | none =>
      rw [newest] at same
      rw [same]
      refine .of_lane row keys (first inv rfl) ?_
      rintro n ⟨-, -, mine, -⟩
      cases newest.symm.trans ((trueupCandidate_eq_some_iff lane hold s).mpr mine)
  | some target =>
      rw [newest] at same
      rw [same]
      by_cases mine : target = hold
      · subst mine
        exact trueup_step row inv keys enrolled usable newest source fresh trueupFresh
      · have rest := trueupCodexHold_other mine rt lane source trueupFresh
          (s.promptsForHold principal lane hold)
          (codexActual rt source (s.promptsForHold principal lane hold))
          (beforeTrueup rt lane turnId source fresh s)
        refine .of_lane row keys (first.trans rest inv rfl) ?_
        rintro n ⟨-, -, ours, -⟩
        cases newest.symm.trans ((trueupCandidate_eq_some_iff lane hold s).mpr ours)
        exact mine rfl

end Steps

/-! ## Runs -/

/-- Some event of the run reached the measurement. -/
def ReachedIn (sessionId lane : String) (hold : SharedPoolReservationId) (s : LedgerStore)
    (ops : List CodexOp) (measured : Nat) : Prop :=
  ∃ before op after, ops = before ++ op :: after ∧
    op.Reaches lane hold (run (CodexOp.apply sessionId) s before) measured

/-- The run settled the hold in one of its `Stop`s, by the turns that the hold had accepted and
that `Stop`'s rollout. -/
def SettledIn (sessionId lane : String) (hold : SharedPoolReservationId) (s : LedgerStore)
    (ops : List CodexOp) (row : SharedPoolRow) : Prop :=
  ∃ before rt turnId source fresh trueupFresh after,
    ops = before ++ .stop rt turnId source fresh trueupFresh :: after ∧
    SettledBy rt source ((run (CodexOp.apply sessionId) s before).promptsForHold principal lane hold) row

/-- A hold as a run has left it. -/
structure HoldHistory (sessionId lane : String) (hold : SharedPoolReservationId) (s : LedgerStore)
    (ops : List CodexOp) (r : SharedPoolRow) : Prop where
  row : HoldRow lane hold (run (CodexOp.apply sessionId) s ops) r
  inv : TrueupInv (codexPrefix lane hold) (run (CodexOp.apply sessionId) s ops)
  settled : r.state = .settled → SettledIn sessionId lane hold s ops r
  calm : measuredHold r = false →
    (run (CodexOp.apply sessionId) s ops).chargedSum (codexPrefix lane hold) = 0 ∧
    (∀ key, startsWith key (codexPrefix lane hold) = true →
      ¬ HoldsKey key (run (CodexOp.apply sessionId) s ops)) ∧
    ∀ n, ¬ ReachedIn sessionId lane hold s ops n
  keys : KeysKnown lane hold (run (CodexOp.apply sessionId) s ops) r
  total : measuredHold r = true →
    let total := r.settledAmount.getD 0 +
      (run (CodexOp.apply sessionId) s ops).chargedSum (codexPrefix lane hold)
    (∀ n, ReachedIn sessionId lane hold s ops n → n ≤ total) ∧
      (total = r.settledAmount.getD 0 ∨ ReachedIn sessionId lane hold s ops total)

section Runs

variable {sessionId lane : String} {hold : SharedPoolReservationId} {s : LedgerStore}
  {ops : List CodexOp} {op : CodexOp} {r : SharedPoolRow}

theorem reachedIn_concat (n : Nat) : ReachedIn sessionId lane hold s (ops ++ [op]) n ↔
    ReachedIn sessionId lane hold s ops n ∨
      op.Reaches lane hold (run (CodexOp.apply sessionId) s ops) n := by
  constructor
  · rintro ⟨before, op', after, same, reaches⟩
    rcases List.eq_nil_or_concat after with rfl | ⟨rest, last, rfl⟩
    · obtain ⟨rfl, ⟨⟩⟩ := List.append_inj' same rfl
      exact .inr reaches
    · rw [List.concat_eq_append, ← List.cons_append, ← List.append_assoc] at same
      obtain ⟨rfl, -⟩ := List.append_inj' same rfl
      exact .inl ⟨before, op', rest, rfl, reaches⟩
  · rintro (⟨before, op', after, rfl, reaches⟩ | reaches)
    · exact ⟨before, op', after ++ [op], by simp, reaches⟩
    · exact ⟨ops, op, [], rfl, reaches⟩

theorem SettledIn.concat (settled : SettledIn sessionId lane hold s ops r) {r' : SharedPoolRow}
    (same : r'.amount = r.amount) (amount : r'.settledAmount = r.settledAmount)
    (usage : r'.usageKnown = r.usageKnown) (op : CodexOp) :
    SettledIn sessionId lane hold s (ops ++ [op]) r' := by
  obtain ⟨before, rt, turnId, source, fresh, trueupFresh, after, rfl, by_⟩ := settled
  exact ⟨before, rt, turnId, source, fresh, trueupFresh, after ++ [op], by simp,
    by_.congr same amount usage⟩

theorem hold_step (session : clientLane sessionId (some codexProvider) = .ok lane)
    (row : HoldRow lane hold s r) (inv : TrueupInv (codexPrefix lane hold) s)
    (keys : KeysKnown lane hold s r) (beside : op.Beside lane hold s) :
    HoldStep lane hold s op r (op.apply sessionId s) := by
  cases op with
  | stop rt turnId source fresh trueupFresh =>
      exact stop_step session row inv keys rt turnId source fresh trueupFresh
  | other op => exact other_step row inv keys beside

/-- The charges under the hold's prefix never shrink. -/
theorem HoldStep.grows {s' : LedgerStore} (step : HoldStep lane hold s op r s') :
    s.chargedSum (codexPrefix lane hold) ≤ s'.chargedSum (codexPrefix lane hold) := by
  cases measured : measuredHold r with
  | false => exact (step.calm measured).1.ge
  | true =>
      obtain ⟨same, -⟩ | ⟨n, -, -, above, total⟩ := (step.trued measured).total
      · exact same.ge
      · omega

/-- One more event. -/
theorem HoldHistory.step (session : clientLane sessionId (some codexProvider) = .ok lane)
    (history : HoldHistory sessionId lane hold s ops r)
    (beside : op.Beside lane hold (run (CodexOp.apply sessionId) s ops)) :
    ∃ r', Evolves r r' ∧ HoldHistory sessionId lane hold s (ops ++ [op]) r' := by
  have step := hold_step session history.row history.inv history.keys beside
  have last : run (CodexOp.apply sessionId) s (ops ++ [op]) =
      op.apply sessionId (run (CodexOp.apply sessionId) s ops) := run_append s ops [op]
  obtain ⟨r', mem', later, settles⟩ := step.row
  have settled : r'.state = .settled → SettledIn sessionId lane hold s (ops ++ [op]) r' := by
    intro now
    by_cases before : r.state = .settled
    · obtain ⟨-, amount, usage, -⟩ := later.settled before
      exact (history.settled before).concat later.amount amount usage op
    · obtain ⟨rt, turnId, source, fresh, trueupFresh, rfl, by_⟩ := settles before now
      exact ⟨ops, rt, turnId, source, fresh, trueupFresh, [], rfl, by_⟩
  refine ⟨r', later, ?_⟩
  cases measured : measuredHold r with
  | false =>
      obtain ⟨sum, keys, unreached⟩ := step.calm measured
      obtain ⟨zero, free, never⟩ := history.calm measured
      rw [zero] at sum
      have free' : ∀ key, startsWith key (codexPrefix lane hold) = true →
          ¬ HoldsKey key (op.apply sessionId (run (CodexOp.apply sessionId) s ops)) :=
        fun key within holds => free key within (keys key within holds)
      have never' : ∀ n, ¬ ReachedIn sessionId lane hold s (ops ++ [op]) n :=
        fun n seen => ((reachedIn_concat n).mp seen).elim (never n) (unreached n)
      refine ⟨last ▸ history.row.later mem' later, last ▸ step.inv, settled, ?_, ?_, ?_⟩
      · rw [last]
        exact fun _ => ⟨sum, free', never'⟩
      · rw [last]
        exact fun _ n holds => absurd holds (free' _ (startsWith_measuredKey _ n))
      · rw [last, sum]
        exact fun _ => ⟨fun n seen => absurd seen (never' n), .inl rfl⟩
  | true =>
      have before := measuredHold_settled measured
      obtain ⟨still, amount⟩ := later.measured before
      have trued := step.trued measured
      obtain ⟨bound, from_⟩ := history.total measured
      refine ⟨last ▸ history.row.later mem' later, last ▸ step.inv, settled, ?_, ?_, ?_⟩
      · rw [still, measured]
        exact nofun
      · rw [last, KeysKnown, amount]
        exact fun _ => trued.keys
      · intro _
        rw [last, amount]
        obtain ⟨same, reached⟩ | ⟨n, reached, only, above, total⟩ := trued.total
        · rw [same]
          refine ⟨fun n seen => ?_, from_.imp_right fun seen => (reachedIn_concat _).mpr (.inl seen)⟩
          exact ((reachedIn_concat n).mp seen).elim (bound n) (reached n)
        · rw [total]
          refine ⟨fun n' seen => ?_, .inr ((reachedIn_concat n).mpr (.inr reached))⟩
          rcases (reachedIn_concat n').mp seen with old | new
          · exact le_trans (bound n' old) above
          · exact (only n' new).le

/-- The history of a run goes on along every later event. -/
theorem HoldHistory.run (session : clientLane sessionId (some codexProvider) = .ok lane)
    {before after : List CodexOp} (history : HoldHistory sessionId lane hold s before r)
    (beside : Along (CodexOp.apply sessionId) (CodexOp.Beside lane hold)
      (Transition.run (CodexOp.apply sessionId) s before) after) :
    ∃ r', Evolves r r' ∧ HoldHistory sessionId lane hold s (before ++ after) r' ∧
      (Transition.run (CodexOp.apply sessionId) s before).chargedSum (codexPrefix lane hold) ≤
        (Transition.run (CodexOp.apply sessionId) s (before ++ after)).chargedSum
          (codexPrefix lane hold) := by
  induction after generalizing before r with
  | nil => exact ⟨r, .refl r, by rwa [List.append_nil], by rw [List.append_nil]⟩
  | cons op after ih =>
      have last : Transition.run (CodexOp.apply sessionId) s (before ++ [op]) =
          op.apply sessionId (Transition.run (CodexOp.apply sessionId) s before) :=
        run_append s before [op]
      obtain ⟨r', later, next⟩ := history.step session beside.1
      obtain ⟨r'', rest, final, grows⟩ := ih next (by rw [last]; exact beside.2)
      have here := (hold_step session history.row history.inv history.keys beside.1).grows
      rw [List.append_assoc, List.singleton_append] at final grows
      rw [last] at grows
      exact ⟨r'', later.trans rest, final, here.trans grows⟩

end Runs

/-- A hold that is open, and nothing trued up yet. -/
structure OpenHold (lane : String) (hold : SharedPoolReservationId) (s : LedgerStore)
    (r : SharedPoolRow) : Prop where
  row : HoldRow lane hold s r
  active : r.state = .active
  rows : ∀ r' ∈ s.reservations, ¬ OfFamily (codexPrefix lane hold) r'
  floor : LedgerStore.floorOf s.chargeFloor (principal, codexPrefix lane hold) = 0

theorem OpenHold.history {sessionId lane : String} {hold : SharedPoolReservationId} {s : LedgerStore}
    {r : SharedPoolRow} (opened : OpenHold lane hold s r) :
    HoldHistory sessionId lane hold s [] r := by
  have unsettled : r.state ≠ .settled := by
    rw [opened.active]
    exact nofun
  have free : ∀ key, startsWith key (codexPrefix lane hold) = true → ¬ HoldsKey key s := by
    rintro key within ⟨r', mem, mine, here, -⟩
    exact opened.rows r' mem ⟨mine, here ▸ within⟩
  refine ⟨opened.row, ⟨fun r' mem mine => absurd mine (opened.rows r' mem), opened.floor⟩,
    fun settled => absurd settled unsettled, fun _ => ⟨?_, free, ?_⟩,
    fun measured => absurd (measuredHold_settled measured) unsettled,
    fun measured => absurd (measuredHold_settled measured) unsettled⟩
  · refine Table.sum_eq_zero _ fun r' mem => if_neg fun charged => ?_
    exact opened.rows r' mem (ofFamily_of_under (startsWith_self _) charged)
  · rintro n ⟨before, op, after, same, -⟩
    cases before <;> cases same

/-- **A Codex hold totals its best measurement.**  Over any run of `Stop`s of its lane, beside
other writers: the row is settled once, by a `Stop`, at what the turns it accepted come
to, or at the hold when that is implausible; and when that was a measurement, the settled
amount and the true-ups together are the largest of it and of the complete measurements
that were within the limits, and never shrink. -/
theorem codex_hold_total (sessionId lane : String)
    (session : clientLane sessionId (some codexProvider) = .ok lane) (hold : SharedPoolReservationId)
    (s : LedgerStore) (r : SharedPoolRow) (opened : OpenHold lane hold s r) (ops : List CodexOp)
    (beside : Along (CodexOp.apply sessionId) (CodexOp.Beside lane hold) s ops) :
    let at_ := run (CodexOp.apply sessionId) s
    let trueups := fun ops => (at_ ops).chargedSum (codexPrefix lane hold)
    ∃ row, (at_ ops).getSharedReservation hold = some row ∧ row.amount = r.amount ∧
      (row.state = .settled → SettledIn sessionId lane hold s ops row) ∧
      (∀ before after, ops = before ++ after → trueups before ≤ trueups ops ∧
        ∃ earlier, (at_ before).getSharedReservation hold = some earlier ∧
          (earlier.state = .settled → row.state = .settled ∧
            row.settledAmount = earlier.settledAmount ∧ row.usageKnown = earlier.usageKnown)) ∧
      (measuredHold row = false → trueups ops = 0) ∧
      (measuredHold row = true →
        let total := row.settledAmount.getD 0 + trueups ops
        (∀ n, ReachedIn sessionId lane hold s ops n → n ≤ total) ∧
          (total = row.settledAmount.getD 0 ∨ ReachedIn sessionId lane hold s ops total)) := by
  intro at_ trueups
  obtain ⟨row, later, history, -⟩ := opened.history.run session beside
  refine ⟨row, history.row.found, later.amount, history.settled, ?_,
    fun unmeasured => (history.calm unmeasured).1, history.total⟩
  rintro before after rfl
  obtain ⟨first, rest⟩ := (along_append s before after).mp beside
  obtain ⟨earlier, -, past, -⟩ := opened.history.run session first
  obtain ⟨row', since, final, grows⟩ := past.run session rest
  have same : row' = row := history.row.one final.row.mem final.row.id
  subst same
  refine ⟨grows, earlier, past.row.found, fun settled => ?_⟩
  obtain ⟨state, amount, usage, -⟩ := since.settled settled
  exact ⟨state, amount, usage⟩

/-! ## Poles -/

def codexRuntime : SharedBudgetRuntime := { hooksRuntime january with codexEnrolled := true }

/-- A hold of ten cents, for one turn. -/
def codexAdmitted : LedgerStore :=
  (admitTurn codexRuntime "session" none (some "turn-1") (some codexProvider)
    ⟨"first", "second", ⟨1⟩, ⟨2⟩⟩ .empty).2

def codexLane : String :=
  providerLanePrefix ++ "[" ++ jsonString codexProvider ++ "," ++ jsonString "session" ++ "]"

/-- A rollout in which every turn has ended and costs the same. -/
def rolloutOf (cents : Nat) : RolloutSource :=
  ⟨some "gpt-6-sol", some "/rollout.jsonl", ⟨fun _ _ _ => .ok (some cents), fun _ => true⟩⟩

/-- The rollout grows between two `Stop`s of the turn. -/
def growing : List CodexOp :=
  [.stop codexRuntime "turn-1" (rolloutOf 30) ⟨3⟩ ⟨4⟩, .stop codexRuntime "turn-1" (rolloutOf 50) ⟨5⟩ ⟨6⟩]

theorem codexAdmitted_open : ∃ r, OpenHold codexLane ⟨1⟩ codexAdmitted r := by
  have row : (codexAdmitted.getSharedReservation ⟨1⟩).any (fun r => decide (r.isCharge = false ∧
      r.chargeSource = some .turnHold ∧ r.principalId = principal ∧
      r.executorKind = some (kindOf r.agentId) ∧ startsWith r.poolId.val ownerPoolPrefix = true ∧
      r.idempotencyKey = holdKey r.sessionId r.agentId "p" "turn-1" ∧ r.sessionId = codexLane ∧
      r.agentId = none ∧ r.state = .active)) = true := by decide +kernel
  obtain ⟨r, found, known⟩ := (Option.any_eq_true _ _).mp row
  obtain ⟨mem, named⟩ := (Table.find?_eq_some_iff _ _ _).mp found
  obtain ⟨hold, source, mine, kind, pool, key, lane, agent, active⟩ := of_decide_eq_true known
  refine ⟨r, ⟨mem, named, ⟨hold, source, mine, kind, pool, "p", "turn-1", key⟩, lane, agent⟩, active,
    ?_, by decide +kernel⟩
  show ∀ r' ∈ codexAdmitted.reservations.rows, ¬ (r'.principalId = principal ∧
    startsWith r'.idempotencyKey (codexPrefix codexLane ⟨1⟩) = true)
  decide +kernel

/-- Settled at thirty cents, measured, and trued up by twenty: the fifty of the second `Stop`. -/
theorem growing_settled : ∃ row,
    (run (CodexOp.apply "session") codexAdmitted growing).getSharedReservation ⟨1⟩ = some row ∧
      SettledIn "session" codexLane ⟨1⟩ codexAdmitted growing row ∧
      row.settledAmount = some 30 ∧ row.usageKnown = some true ∧
      (run (CodexOp.apply "session") codexAdmitted growing).chargedSum (codexPrefix codexLane ⟨1⟩) = 20 ∧
      ReachedIn "session" codexLane ⟨1⟩ codexAdmitted growing 50 ∧
      ∀ n, ReachedIn "session" codexLane ⟨1⟩ codexAdmitted growing n → n ≤ 50 := by
  obtain ⟨r, opened⟩ := codexAdmitted_open
  obtain ⟨row, found, -, settled, -, -, total⟩ := codex_hold_total "session" codexLane rfl ⟨1⟩
    codexAdmitted r opened growing ⟨trivial, trivial, trivial⟩
  have ended : ((run (CodexOp.apply "session") codexAdmitted growing).getSharedReservation ⟨1⟩).map
      (fun r => (r.state, r.settledAmount, r.usageKnown)) = some (.settled, some 30, some true) := by
    decide +kernel
  rw [found] at ended
  obtain ⟨state, figures⟩ := Prod.mk.inj (Option.some.inj ended)
  obtain ⟨amount, usage⟩ := Prod.mk.inj figures
  have trued : (run (CodexOp.apply "session") codexAdmitted growing).chargedSum
      (codexPrefix codexLane ⟨1⟩) = 20 := by decide +kernel
  have measured : measuredHold row = true := by rw [measuredHold, state, usage, amount]; rfl
  obtain ⟨bound, best⟩ := total measured
  dsimp only at bound best
  rw [amount, trued] at bound best
  exact ⟨row, found, settled state, amount, usage, trued, best.resolve_left (by decide), bound⟩

/-- Above the ceiling a measurable turn does not settle at its sum. -/
theorem implausible_settles_at_hold :
    let settled := run (CodexOp.apply "session") codexAdmitted
      [.stop codexRuntime "turn-1" (rolloutOf 200000) ⟨3⟩ ⟨4⟩]
    let turns := codexAdmitted.promptsForHold principal codexLane ⟨1⟩
    Measurable hooksConfig (rolloutOf 200000) turns ∧
      pricedSum hooksConfig (rolloutOf 200000) turns = 200000 ∧
      (settled.getSharedReservation ⟨1⟩).map (fun r => (r.state, r.settledAmount)) =
        some (.settled, some 10) := by
  decide +kernel

end LibraGovernor
